/-
KV transfers (`kv_transfer.py`): the Host snapshot with its file, and the direct Device transfer with its wire metadata.

MODEL. A payload is a byte memory with its length. The functions that read the stock KV caches are the worker's and stay
outside. `struct.error` is `none`.
-/
import Cruise.Native.Server
import Cruise.Worker.Contract

namespace Cruise.Worker

open Cruise.Lib Cruise.Controller Cruise.Native

def PAYLOAD_BYTES : ℕ := 28 * 4 * (2 * 128 * 4 * 128 * 2)
def BLOCK_BYTES : ℕ := 128 * 4 * 128 * 2
def IPC_KEY_BYTES : ℕ := 64
def IPC_KEY_COUNT : ℕ := 28 * 2

theorem payload_bytes_eq : PAYLOAD_BYTES = CRUISE_RESIDENT_IMPORT_PAYLOAD_BYTES := by decide

theorem list_of_length_four {l : List Int} (h : l.length = 4) :
    l = [l.getD 0 0, l.getD 1 0, l.getD 2 0, l.getD 3 0] := by
  match l, h with
  | [a, b, c, d], _ => rfl

inductive TransferError where
  | transferId
  | generationCount
  | generationSign
  | blockCount
  | mask
  | maskGenerations
  | payloadBytes
  | checksum
  | sourceBytes
  | offsetCount
  | keyCount
  | selectedRow
  | blockRange
  | unselectedRow
  | key
deriving DecidableEq, Repr

/-! ## Host snapshot -/

/-- `zlib.adler32` of `count` bytes from `offset`, continued from `value` -/
def zlibAdler32 (data : Mem) (offset count value : ℕ) : ℕ :=
  let sums := (List.range count).foldl (fun (s : ℕ × ℕ) k =>
    let a := (s.1 + (data (offset + k)).toNat) % 65521
    (a, (s.2 + a) % 65521)) (value % 65536, value / 65536)
  sums.2 * 65536 + sums.1

def maskSelects (import_mask : Int) (row : ℕ) : Bool := import_mask.toNat.testBit row

/-- `kv_payload_checksum` of a complete payload -/
def kvPayloadChecksum (payload : Mem) (import_mask : Int) : ℕ :=
  [0, 28 * 4 * BLOCK_BYTES].foldl (fun checksum cache_base =>
    (List.range 28).foldl (fun checksum layer =>
      (List.range 4).foldl (fun checksum row =>
        if maskSelects import_mask row then
          zlibAdler32 payload (cache_base + (layer * 4 + row) * BLOCK_BYTES) BLOCK_BYTES checksum
        else checksum) checksum) checksum) 1

structure ResidentKVSnapshot where
  transfer_id : Int
  import_mask : Int
  row_generations : List Int
  payload_bytes : ℕ
  payload : Mem
  checksum : Int

def ResidentKVSnapshot.validate (snapshot : ResidentKVSnapshot) : Except TransferError Unit := do
  refuse (snapshot.transfer_id ≤ 0) .transferId
  refuse (snapshot.row_generations.length ≠ 4) .generationCount
  refuse (∃ generation ∈ snapshot.row_generations, generation < 0) .generationSign
  refuse (snapshot.import_mask ≤ 0 ∨ snapshot.import_mask ≥ 16) .mask
  refuse (∃ row ∈ List.range 4, maskSelects snapshot.import_mask row ≠ decide (snapshot.row_generations.getD row 0 > 0))
    .maskGenerations
  refuse (snapshot.payload_bytes ≠ PAYLOAD_BYTES) .payloadBytes
  refuse (snapshot.checksum ≠ kvPayloadChecksum snapshot.payload snapshot.import_mask) .checksum

/-- the words of the transfer file's header -/
def ResidentKVSnapshot.header (snapshot : ResidentKVSnapshot) : List Int :=
  [0x4352554953454B56, 1, 80, snapshot.transfer_id, snapshot.payload_bytes, snapshot.import_mask] ++
    snapshot.row_generations ++ [28, 4, 128, 4, 128, 2, snapshot.checksum]

/-- the file `write_kv_snapshot` publishes: its size and its bytes -/
def kvSnapshotFile (snapshot : ResidentKVSnapshot) : Option (ℕ × Mem) :=
  (structPack transferHeaderFields snapshot.header).map fun header =>
    (header.length + snapshot.payload_bytes,
      fun a => if a < header.length then header.getD a 0 else snapshot.payload (a - header.length))

/-! ## Direct Device transfer -/

/-- `key.encode("ascii")` -/
def encodeAscii (key : String) : Option (List UInt8) :=
  if key.toList.all (fun c => c.toNat < 128) then some (key.toList.map fun c => UInt8.ofNat c.toNat) else none

structure DeviceKVTransfer where
  transfer_id : Int
  import_mask : Int
  row_generations : List Int
  block_ids : List Int
  source_bytes : Int
  source_offsets : List Int
  keys : List String

namespace DeviceKVTransfer

/-- one pass of the row loop of `validate` -/
def validateRow (transfer : DeviceKVTransfer) (row : ℕ) : Except TransferError Unit :=
  let generation := transfer.row_generations.getD row 0
  let block_id := transfer.block_ids.getD row 0
  if maskSelects transfer.import_mask row then do
    refuse (generation ≤ 0 ∨ block_id < 0) .selectedRow
    refuse (∃ source_offset ∈ transfer.source_offsets,
      source_offset < 0 ∨ source_offset + (block_id + 1) * BLOCK_BYTES > transfer.source_bytes) .blockRange
  else refuse (generation ≠ 0 ∨ block_id ≠ 0) .unselectedRow

def validate (transfer : DeviceKVTransfer) : Except TransferError Unit := do
  refuse (transfer.transfer_id ≤ 0) .transferId
  refuse (transfer.row_generations.length ≠ 4) .generationCount
  refuse (transfer.block_ids.length ≠ 4) .blockCount
  refuse (transfer.import_mask ≤ 0 ∨ transfer.import_mask ≥ 16) .mask
  refuse (transfer.source_bytes ≤ 0) .sourceBytes
  refuse (transfer.source_offsets.length ≠ IPC_KEY_COUNT) .offsetCount
  refuse (transfer.keys.length ≠ IPC_KEY_COUNT) .keyCount
  (List.range 4).forM transfer.validateRow
  transfer.keys.forM fun key =>
    refuse ((encodeAscii key).all (fun encoded => encoded.isEmpty || encoded.length > IPC_KEY_BYTES)) .key

/-- `wire_bytes`; `none` is whatever it raises -/
def wireBytes (transfer : DeviceKVTransfer) : Option (List UInt8) :=
  match transfer.validate with
  | .error _ => none
  | .ok () =>
    match structPack ipcMetadataFields ([0x4352554953454950, 2, transfer.import_mask, transfer.source_bytes] ++
        transfer.row_generations ++ transfer.block_ids ++ transfer.source_offsets) with
    | none => none
    | some header =>
      let keys := transfer.keys.flatMap fun key =>
        let encoded := (encodeAscii key).getD []
        encoded ++ List.replicate (IPC_KEY_BYTES - encoded.length) 0
      if (header ++ keys).length = CRUISE_RESIDENT_IPC_METADATA_BYTES then some (header ++ keys) else none

end DeviceKVTransfer

end Cruise.Worker
