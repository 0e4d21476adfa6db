/-
The metadata of a direct Device import: `DeviceKVTransfer.wire_bytes` against `ResidentEpochIpcMetadata`.

- `metadata_parsed`: the server reads the fields of the transfer it was packed from.
- `key_read_iff`: and a key exactly, unless it contains a zero byte, where the C string ends.
- `metadata_validated`: `ValidateIpcMetadata` accepts what it reads when the keys have no zero byte.
- `metadata_agrees`: all of it, with the least size of the exported allocation that the bridge takes.
The Python side asks only that a key is ASCII and that the selected blocks lie in the allocation:
`packed_metadata_refused`.
-/
import Mathlib.Data.List.TakeWhile
import Cruise.Worker.Request

namespace Cruise.Worker

open Cruise.Lib Cruise.Controller Cruise.Native

/-! ## The transfer -/

def encodedKey (key : String) : List UInt8 := (encodeAscii key).getD []

/-- the key's field of the record (`ljust`) -/
def paddedKey (key : String) : List UInt8 :=
  encodedKey key ++ List.replicate (IPC_KEY_BYTES - (encodedKey key).length) 0

/-- what `validate` accepts -/
structure DeviceKVTransfer.Valid (transfer : DeviceKVTransfer) : Prop where
  generations : transfer.row_generations.length = 4
  blocks : transfer.block_ids.length = 4
  mask : 0 < transfer.import_mask ∧ transfer.import_mask < 16
  source : 0 < transfer.source_bytes
  offsets : transfer.source_offsets.length = IPC_KEY_COUNT
  keys : transfer.keys.length = IPC_KEY_COUNT
  selected : ∀ r : Row, maskSelects transfer.import_mask r = true →
    0 < transfer.row_generations.getD r 0 ∧ 0 ≤ transfer.block_ids.getD r 0 ∧
      ∀ source_offset ∈ transfer.source_offsets, 0 ≤ source_offset ∧
        source_offset + (transfer.block_ids.getD r 0 + 1) * BLOCK_BYTES ≤ transfer.source_bytes
  unselected : ∀ r : Row, maskSelects transfer.import_mask r = false →
    transfer.row_generations.getD r 0 = 0 ∧ transfer.block_ids.getD r 0 = 0
  key : ∀ key ∈ transfer.keys, encodedKey key ≠ [] ∧ (encodedKey key).length ≤ IPC_KEY_BYTES

theorem transferValidate_ok {transfer : DeviceKVTransfer} (h : transfer.validate = .ok ()) : transfer.Valid := by
  unfold DeviceKVTransfer.validate at h
  simp only [except_bind_ok, refuse_ok, forM_ok_iff, exists_const] at h
  obtain ⟨-, h2, h3, h4, h5, h6, h7, hrows, hkeys⟩ := h
  have hrow (r : Row) := hrows r (List.mem_range.2 r.isLt)
  refine ⟨not_not.1 h2, not_not.1 h3, by omega, by omega, not_not.1 h6, not_not.1 h7, ?_, ?_, ?_⟩
  · intro r hsel
    have h := hrow r
    unfold DeviceKVTransfer.validateRow at h
    simp only [hsel, if_true, except_bind_ok, refuse_ok, exists_const, not_exists, not_and, not_or, not_lt, not_le] at h
    exact ⟨h.1.1, h.1.2, fun offset hoffset => h.2 offset hoffset⟩
  · intro r hsel
    have h := hrow r
    unfold DeviceKVTransfer.validateRow at h
    simp only [hsel, Bool.false_eq_true, if_false, refuse_ok, not_or, not_not] at h
    exact h
  · intro key hkey
    have h := hkeys key hkey
    unfold encodedKey
    cases hencoded : encodeAscii key with
    | none => simp [hencoded] at h
    | some encoded =>
      simp only [hencoded, Option.all_some, Bool.or_eq_true, decide_eq_true_eq, not_or, List.isEmpty_iff, not_lt] at h
      exact h

/-! ## The record -/

/-- what the server must read of a transfer -/
structure ParsesTransfer (transfer : DeviceKVTransfer) (m : IpcMetadata) : Prop where
  magic : m.magic = CRUISE_RESIDENT_IPC_METADATA_MAGIC
  version : m.version = CRUISE_RESIDENT_IPC_METADATA_VERSION
  import_mask : (m.import_mask.toNat : Int) = transfer.import_mask
  source_bytes : (m.source_bytes.toNat : Int) = transfer.source_bytes
  row_generations : ∀ r, (m.row_generations r).toInt = transfer.row_generations.getD r 0
  block_ids : ∀ r, (m.block_ids r).toInt = transfer.block_ids.getD r 0
  source_offsets : ∀ i, ((m.source_offsets i).toNat : Int) = transfer.source_offsets.getD i 0

section Wire

variable {transfer : DeviceKVTransfer} {bytes : List UInt8} {m : IpcMetadata}

/-- the words of the record's header -/
def metadataWords (transfer : DeviceKVTransfer) : List Int :=
  [0x4352554953454950, 2, transfer.import_mask, transfer.source_bytes] ++ transfer.row_generations ++
    transfer.block_ids ++ transfer.source_offsets

theorem wire_parts (h : transfer.wireBytes = some bytes) :
    transfer.Valid ∧ Fits ipcMetadataFields (metadataWords transfer) ∧
      bytes = pack ipcMetadataFields (metadataWords transfer) ++ transfer.keys.flatMap paddedKey ∧
      bytes.length = CRUISE_RESIDENT_IPC_METADATA_BYTES := by
  unfold DeviceKVTransfer.wireBytes at h
  cases hvalid : transfer.validate with
  | error e =>
    rw [hvalid] at h
    cases h
  | ok u =>
    rw [hvalid] at h
    unfold structPack at h
    split_ifs at h with hfits
    · simp only at h
      split_ifs at h with hlen
      · cases h
        exact ⟨transferValidate_ok hvalid, hfits, rfl, hlen⟩

theorem uint32_ofNat {v : Int} (h : Field.I.InRange v) : ((UInt32.ofNat v.toNat).toNat : Int) = v := by
  have h' : 0 ≤ v ∧ v < 256 ^ 4 := h
  norm_num at h'
  rw [UInt32.toNat_ofNat']
  omega

theorem metadata_values (h : transfer.wireBytes = some bytes) :
    unpack ipcMetadataFields bytes = metadataWords transfer := by
  obtain ⟨-, hfits, rfl, -⟩ := wire_parts h
  rw [unpack_take _ _ _ (le_of_eq (pack_length hfits.length_eq).symm), unpack_pack hfits]

/-- the words by name -/
theorem metadataWords_eq (h : transfer.Valid) : metadataWords transfer =
    [0x4352554953454950, 2, transfer.import_mask, transfer.source_bytes, transfer.row_generations.getD 0 0,
      transfer.row_generations.getD 1 0, transfer.row_generations.getD 2 0, transfer.row_generations.getD 3 0,
      transfer.block_ids.getD 0 0, transfer.block_ids.getD 1 0, transfer.block_ids.getD 2 0,
      transfer.block_ids.getD 3 0] ++ transfer.source_offsets := by
  have hgenerations := list_of_length_four h.generations
  have hblocks := list_of_length_four h.blocks
  unfold metadataWords
  generalize transfer.row_generations = generations at hgenerations ⊢
  generalize transfer.block_ids = blocks at hblocks ⊢
  rw [hgenerations, hblocks]
  rfl

theorem offset_word (h : transfer.Valid) (i : Fin 56) :
    (metadataWords transfer).getD (12 + i) 0 = transfer.source_offsets.getD i 0 := by
  rw [metadataWords_eq h, List.getD_append_right _ _ _ _ (Nat.le_add_right 12 i.val)]
  exact congrArg (fun k => transfer.source_offsets.getD k 0) (Nat.add_sub_cancel_left 12 i.val)

/-- **The header is read as it was written.** -/
theorem metadata_parsed (h : transfer.wireBytes = some bytes) : ParsesTransfer transfer (parseIpcMetadata bytes) := by
  obtain ⟨hvalid, hfits, -, -⟩ := wire_parts h
  have hvalues := metadata_values h
  unfold parseIpcMetadata
  rw [hvalues]
  have hoffset (i : Fin 56) := uint64_ofNat (fits_getD hfits (12 + i) .Q (by revert i; decide))
  have hword (base : ℕ) (hbase : ∀ r : Row, ipcMetadataFields[base + r.val]? = some .i) (r : Row) :=
    int32_ofInt (fits_getD hfits (base + r) .i (hbase r))
  have hmask := uint32_ofNat (fits_getD hfits 2 .I rfl)
  have hsource := uint64_ofNat (fits_getD hfits 3 .Q rfl)
  refine ⟨rfl, rfl, hmask, hsource, ?_, ?_, ?_⟩
  · intro r
    refine (hword 4 (by decide) r).trans ?_
    rw [metadataWords_eq hvalid]
    fin_cases r <;> rfl
  · intro r
    refine (hword 8 (by decide) r).trans ?_
    rw [metadataWords_eq hvalid]
    fin_cases r <;> rfl
  · intro i
    exact (hoffset i).trans (offset_word hvalid i)

/-! ## The keys -/

theorem paddedKey_length {key : String} (h : (encodedKey key).length ≤ IPC_KEY_BYTES) :
    (paddedKey key).length = IPC_KEY_BYTES := by
  rw [paddedKey, List.length_append, List.length_replicate]
  omega

/-- the key table behind the header -/
theorem key_field (h : transfer.wireBytes = some bytes) {i : Fin 56} {key : String} (hkey : transfer.keys[i.val]? = some key) :
    List.ofFn ((parseIpcMetadata bytes).keys i) = paddedKey key := by
  obtain ⟨hvalid, hfits, rfl, -⟩ := wire_parts h
  obtain ⟨hi, rfl⟩ := List.getElem?_eq_some_iff.1 hkey
  have hwidth : ∀ key ∈ transfer.keys, (paddedKey key).length = 64 := fun key hmem => paddedKey_length (hvalid.key key hmem).2
  have hheader : (pack ipcMetadataFields (metadataWords transfer)).length = recordSize ipcMetadataFields :=
    pack_length hfits.length_eq
  have hlen := hwidth _ (List.getElem_mem hi)
  refine List.ext_getElem (by rw [List.length_ofFn, hlen]) fun k h1 h2 => ?_
  have hk : k < 64 := by rwa [hlen] at h2
  rw [List.getElem_ofFn]
  show (pack ipcMetadataFields (metadataWords transfer) ++ transfer.keys.flatMap paddedKey).getD
    (recordSize ipcMetadataFields + i * 64 + k) 0 = _
  have hskip : recordSize ipcMetadataFields + i.val * 64 + k - (pack ipcMetadataFields (metadataWords transfer)).length =
      i.val * 64 + k := by omega
  rw [List.getD_append_right _ _ _ _ (by omega), hskip, flatMap_getD 64 paddedKey hwidth hi hk, List.getD_eq_getElem?_getD,
    List.getElem?_eq_getElem h2, Option.getD_some]

/-- **A key is read exactly unless it holds a zero byte.** -/
theorem key_read_iff (h : transfer.wireBytes = some bytes) {i : Fin 56} {key : String}
    (hkey : transfer.keys[i.val]? = some key) :
    keyBytes ((parseIpcMetadata bytes).keys i) = encodedKey key ↔ 0 ∉ encodedKey key := by
  rw [keyBytes, key_field h hkey]
  constructor
  · intro hread hzero
    rw [← hread] at hzero
    have hne := List.mem_takeWhile_imp hzero
    exact absurd hne (by decide)
  · intro hzero
    exact takeWhile_padded hzero _

/-! ## The checks -/

/-- the first check of `PrepareDeviceIpcPayload` -/
def sourceSizeOk (m : IpcMetadata) : Bool :=
  !decide (m.source_bytes.toNat < kPhysicalBlocks * CRUISE_RESIDENT_KV_BLOCK_BYTES)

theorem sourceSize_refused (env : BridgeEnv) (engine : Engine) {m : IpcMetadata} (h : sourceSizeOk m = false) :
    prepareDeviceIpcPayload env engine m = (engine, none) := by
  unfold prepareDeviceIpcPayload
  exact if_pos (by simpa [sourceSizeOk] using h)

theorem selected_iff (hm : ParsesTransfer transfer m) (r : Row) :
    selected m.import_mask.toNat r = maskSelects transfer.import_mask r := by
  have hmask : transfer.import_mask.toNat = m.import_mask.toNat := by
    rw [← hm.import_mask]
    rfl
  rw [maskSelects, hmask]
  rfl

/-- a selected block inside the allocation for one validator is inside it for the other -/
theorem blocks_fit (hvalid : transfer.Valid) (hm : ParsesTransfer transfer m) (i : Fin 56) :
    ipcBlocksFit m i = true := by
  have hi : i.val < transfer.source_offsets.length := by
    rw [hvalid.offsets]
    exact i.isLt
  have hoffset : transfer.source_offsets.getD i 0 ∈ transfer.source_offsets := getD_mem hi 0
  rw [ipcBlocksFit, List.all_eq_true]
  intro r _
  rw [selected_iff hm]
  cases hsel : maskSelects transfer.import_mask r with
  | false => rfl
  | true =>
    obtain ⟨-, hblock, hfits⟩ := hvalid.selected r hsel
    obtain ⟨h0, hend⟩ := hfits _ hoffset
    rw [← hm.source_offsets i, ← hm.source_bytes, ← hm.block_ids r] at hend
    rw [← hm.block_ids r] at hblock
    have hbytes : CRUISE_RESIDENT_KV_BLOCK_BYTES = BLOCK_BYTES := rfl
    have hblocks : (((m.block_ids r).toInt.toNat + 1) * BLOCK_BYTES : ℕ) = ((m.block_ids r).toInt + 1) * BLOCK_BYTES := by
      rw [Nat.cast_mul, Nat.cast_add, Int.toNat_of_nonneg hblock]
      rfl
    have hle : (m.source_offsets i).toNat ≤ m.source_bytes.toNat := by
      have : (0 : Int) ≤ ((m.block_ids r).toInt + 1) * BLOCK_BYTES := by positivity
      omega
    have hroom : ((m.block_ids r).toInt.toNat + 1) * CRUISE_RESIDENT_KV_BLOCK_BYTES ≤
        m.source_bytes.toNat - (m.source_offsets i).toNat := by
      rw [hbytes]
      omega
    rw [decide_eq_true hle, decide_eq_true hroom]
    rfl

theorem key_ok {key : String} (hne : encodedKey key ≠ []) (hzero : 0 ∉ encodedKey key) {field : Fin 64 → UInt8}
    (hfield : List.ofFn field = paddedKey key) : ipcKeyOk field = true := by
  have hkey : keyBytes field = encodedKey key := by
    rw [keyBytes, hfield]
    exact takeWhile_padded hzero _
  have hpadding : (paddedKey key).drop (encodedKey key).length =
      List.replicate (IPC_KEY_BYTES - (encodedKey key).length) 0 := List.drop_left
  rw [ipcKeyOk, hkey, hfield, hpadding]
  simp [hne]

/-- **The server accepts the metadata whose keys it accepts.** -/
theorem metadata_accepted (h : transfer.wireBytes = some bytes) {gens : Row → Int32}
    (hagree : ∀ r : Row, maskSelects transfer.import_mask r = true → (gens r).toInt = transfer.row_generations.getD r 0)
    (hkeys : ∀ i, ipcKeyOk ((parseIpcMetadata bytes).keys i) = true) :
    validateIpcMetadata (parseIpcMetadata bytes) gens = true := by
  have hm := metadata_parsed h
  obtain ⟨hvalid, -, -, -⟩ := wire_parts h
  generalize parseIpcMetadata bytes = m at hm hkeys ⊢
  have hmask := hvalid.mask
  have hsource := hvalid.source
  rw [← hm.import_mask] at hmask
  rw [← hm.source_bytes] at hsource
  have hsource0 : m.source_bytes ≠ 0 := by
    intro h0
    rw [h0] at hsource
    exact absurd hsource (by decide)
  have hmask0 : m.import_mask ≠ 0 := by
    intro h0
    rw [h0] at hmask
    exact absurd hmask.1 (by decide)
  have hmask16 : ¬ m.import_mask ≥ 16 := by
    rw [ge_iff_le, UInt32.le_iff_toNat_le]
    intro h16
    have h16 : 16 ≤ m.import_mask.toNat := h16
    omega
  have hrows : rows.all (fun r => if selected m.import_mask.toNat r then
      0 < (m.row_generations r).toInt && m.row_generations r = gens r && 0 ≤ (m.block_ids r).toInt
      else m.row_generations r = 0 && m.block_ids r = 0) = true := by
    rw [List.all_eq_true]
    intro r _
    rw [selected_iff hm]
    cases hsel : maskSelects transfer.import_mask r with
    | true =>
      obtain ⟨hgen, hblock, -⟩ := hvalid.selected r hsel
      have hsame : m.row_generations r = gens r := Int32.toInt_inj.1 ((hm.row_generations r).trans (hagree r hsel).symm)
      rw [← hm.row_generations r] at hgen
      rw [← hm.block_ids r] at hblock
      simp [hblock, ← hsame, hgen]
    | false =>
      obtain ⟨hgen, hblock⟩ := hvalid.unselected r hsel
      rw [← hm.row_generations r, ← int32_eq_zero] at hgen
      rw [← hm.block_ids r, ← int32_eq_zero] at hblock
      simp [hgen, hblock]
  have hindices : ((List.finRange 56).all fun index => ipcBlocksFit m index && ipcKeyOk (m.keys index)) = true := by
    rw [List.all_eq_true]
    intro i _
    rw [blocks_fit hvalid hm i, hkeys i]
    rfl
  unfold validateIpcMetadata
  rw [if_neg (by simp [hm.magic, hm.version, hsource0, hmask0, hmask16]), hrows, hindices]
  rfl

/-- keys without a zero byte are accepted -/
theorem metadata_validated (h : transfer.wireBytes = some bytes) {gens : Row → Int32}
    (hagree : ∀ r : Row, maskSelects transfer.import_mask r = true → (gens r).toInt = transfer.row_generations.getD r 0)
    (hzero : ∀ key ∈ transfer.keys, 0 ∉ encodedKey key) :
    validateIpcMetadata (parseIpcMetadata bytes) gens = true := by
  obtain ⟨hvalid, -, -, -⟩ := wire_parts h
  refine metadata_accepted h hagree fun i => ?_
  have hi : i.val < transfer.keys.length := by
    rw [hvalid.keys]
    exact i.isLt
  have hmem := List.getElem_mem hi
  exact key_ok (hvalid.key _ hmem).1 (hzero _ hmem) (key_field h (List.getElem?_eq_getElem hi))

theorem sourceSizeOk_iff (hm : ParsesTransfer transfer m) :
    sourceSizeOk m = true ↔ (kPhysicalBlocks * BLOCK_BYTES : ℕ) ≤ transfer.source_bytes := by
  rw [← hm.source_bytes, sourceSizeOk, Bool.not_eq_true', decide_eq_false_iff_not, not_lt, Nat.cast_le]
  rfl

end Wire

/-- **The metadata of a direct Device import.** The server reads what was written; a key exactly when it holds no zero
byte. It accepts the metadata when no key does, and goes on to copy when the allocation has the bridge's least size. -/
theorem metadata_agrees {transfer : DeviceKVTransfer} {bytes : List UInt8} (h : transfer.wireBytes = some bytes)
    {gens : Row → Int32}
    (hagree : ∀ r : Row, maskSelects transfer.import_mask r = true → (gens r).toInt = transfer.row_generations.getD r 0) :
    bytes.length = CRUISE_RESIDENT_IPC_METADATA_BYTES ∧ ParsesTransfer transfer (parseIpcMetadata bytes) ∧
      (∀ i : Fin 56, keyBytes ((parseIpcMetadata bytes).keys i) = encodedKey (transfer.keys.getD i "") ↔
        0 ∉ encodedKey (transfer.keys.getD i "")) ∧
      ((∀ key ∈ transfer.keys, 0 ∉ encodedKey key) → validateIpcMetadata (parseIpcMetadata bytes) gens = true) ∧
      (sourceSizeOk (parseIpcMetadata bytes) = true ↔ (kPhysicalBlocks * BLOCK_BYTES : ℕ) ≤ transfer.source_bytes) := by
  obtain ⟨hvalid, -, -, hlen⟩ := wire_parts h
  refine ⟨hlen, metadata_parsed h, fun i => ?_, metadata_validated h hagree, sourceSizeOk_iff (metadata_parsed h)⟩
  have hi : i.val < transfer.keys.length := by
    rw [hvalid.keys]
    exact i.isLt
  rw [List.getD_eq_getElem _ _ hi]
  exact key_read_iff h (List.getElem?_eq_getElem hi)

/-- rows 0 and 2 of an allocation of `source_bytes`, all keys the same but the first -/
def twoRowTransfer (source_bytes : Int) (first_key : String) : DeviceKVTransfer where
  transfer_id := 7
  import_mask := 5
  row_generations := [11, 0, 13, 0]
  block_ids := [0, 0, 1, 0]
  source_bytes := source_bytes
  source_offsets := List.replicate 56 0
  keys := first_key :: List.replicate 55 "kv"

def twoRowGenerations : Row → Int32 := ![11, 3, 13, 0]

theorem metadata_agrees_two_rows : ∃ bytes, (twoRowTransfer (8 * 131072) "kv").wireBytes = some bytes ∧
    ParsesTransfer (twoRowTransfer (8 * 131072) "kv") (parseIpcMetadata bytes) ∧
    validateIpcMetadata (parseIpcMetadata bytes) twoRowGenerations = true ∧
    sourceSizeOk (parseIpcMetadata bytes) = true := by
  have hpacks : (twoRowTransfer (8 * 131072) "kv").wireBytes.isSome = true := by decide +kernel
  obtain ⟨bytes, hbytes⟩ := Option.isSome_iff_exists.1 hpacks
  have hagree : ∀ r : Row, maskSelects 5 r = true → (twoRowGenerations r).toInt = [11, 0, 13, 0].getD r.val 0 := by decide
  obtain ⟨-, hparsed, -, hvalidated, hsize⟩ := metadata_agrees hbytes hagree
  have hkeys : ∀ key ∈ (twoRowTransfer (8 * 131072) "kv").keys, 0 ∉ encodedKey key := by decide +kernel
  exact ⟨bytes, hbytes, hparsed, hvalidated hkeys, hsize.2 (by decide)⟩

theorem validated_key {m : IpcMetadata} {gens : Row → Int32} (h : validateIpcMetadata m gens = true) (i : Fin 56) :
    ipcKeyOk (m.keys i) = true := by
  unfold validateIpcMetadata at h
  split_ifs at h
  have hall := (Bool.and_eq_true _ _ ▸ h).2
  exact (Bool.and_eq_true _ _ ▸ List.all_eq_true.1 hall i (List.mem_finRange i)).2

/-- a key with a zero byte is packed and refused, and so is an allocation of two blocks -/
theorem packed_metadata_refused :
    (∃ bytes, (twoRowTransfer (8 * 131072) "k\x00v").wireBytes = some bytes ∧
      (∀ r : Row, maskSelects 5 r = true → (twoRowGenerations r).toInt = [11, 0, 13, 0].getD r.val 0) ∧
      keyBytes ((parseIpcMetadata bytes).keys 0) ≠ encodedKey "k\x00v" ∧
      validateIpcMetadata (parseIpcMetadata bytes) twoRowGenerations = false) ∧
    ∃ bytes, (twoRowTransfer (2 * 131072) "kv").wireBytes = some bytes ∧
      ∀ env engine, prepareDeviceIpcPayload env engine (parseIpcMetadata bytes) = (engine, none) := by
  constructor
  · have hpacks : (twoRowTransfer (8 * 131072) "k\x00v").wireBytes.isSome = true := by decide +kernel
    obtain ⟨bytes, hbytes⟩ := Option.isSome_iff_exists.1 hpacks
    have hzero : 0 ∈ encodedKey "k\x00v" := by decide
    have hfirst : (twoRowTransfer (8 * 131072) "k\x00v").keys[(0 : Fin 56).val]? = some "k\x00v" := rfl
    have hread := key_read_iff hbytes hfirst
    refine ⟨bytes, hbytes, by decide, fun h => hread.1 h hzero, ?_⟩
    rw [Bool.eq_false_iff]
    intro hvalidated
    have hkey := validated_key hvalidated 0
    rw [ipcKeyOk, keyBytes, key_field hbytes hfirst] at hkey
    revert hkey
    decide
  · have hpacks : (twoRowTransfer (2 * 131072) "kv").wireBytes.isSome = true := by decide +kernel
    obtain ⟨bytes, hbytes⟩ := Option.isSome_iff_exists.1 hpacks
    refine ⟨bytes, hbytes, fun env engine => sourceSize_refused env engine ?_⟩
    rw [Bool.eq_false_iff, ne_eq, sourceSizeOk_iff (metadata_parsed hbytes)]
    decide

end Cruise.Worker
