/-
The native bridge (`native/resident_epoch_bridge.cpp`): one call of `resident_epoch_execute`.

MODEL. A null pointer is `none`. What the call asks of its surroundings is the record `BridgeEnv`: the transfer file, the
ACL calls of the direct Device path, the session's Feed and Fetch, and the clocks. Buffers are byte memories with a size;
the row-filling loops are lists of typed stores into them (`Write`), so that a store outside its buffer can be spoken of.
An early `return status` keeps the outputs as far as they were written; `fed` records the tensors of the call of
`FeedDataFlowGraph`, if it was reached.
Sums on the caller's int64 positions are taken in ℤ. The bridge's own copies of the graph constants have the values of the
controller's, which are used here.
-/
import Cruise.Lib.Wire
import Cruise.Controller.Proc

namespace Cruise.Native

open Cruise.Lib Cruise.Controller

/-! ## Protocol constants -/

def kConfiguredEos : Int := 151645
def kControlGenerationOffset : ℕ := 6 + 4 * 4 + 2
def kTokenHistoryBytes : ℕ := kMaxEpochSteps * 4 * 8
def kDeclaredInputBytes : Int := 260
def kDeclaredOutputBytes : Int := 368
def CRUISE_SIDECAR_REQUEST_BYTES : ℕ := 136
def CRUISE_SIDECAR_RESPONSE_BYTES : ℕ := 352
def CRUISE_RESIDENT_IMPORT_GRAPH_FLAG : ℕ := 0x100
def CRUISE_RESIDENT_IMPORT_PAYLOAD_BYTES : ℕ := 29360128
def CRUISE_RESIDENT_IMPORT_INPUT_BYTES : ℕ := 29360372
def CRUISE_RESIDENT_TRANSFER_MAGIC : Int := 0x4352554953454B56
def CRUISE_RESIDENT_TRANSFER_VERSION : Int := 1
def CRUISE_RESIDENT_TRANSFER_HEADER_BYTES : ℕ := 80
def CRUISE_RESIDENT_IPC_METADATA_MAGIC : UInt64 := 0x4352554953454950
def CRUISE_RESIDENT_IPC_METADATA_VERSION : UInt32 := 2
def CRUISE_RESIDENT_IPC_METADATA_BYTES : ℕ := 504 + 56 * 64
def CRUISE_RESIDENT_KV_BLOCK_BYTES : ℕ := 131072

/-- `CRUISE_EPOCH_*`; also the `EpochCommitState` of the Python contract -/
inductive CommitState where
  | prepared
  | executing
  | committed
deriving DecidableEq, Repr

def CommitState.code : CommitState → Int
  | .prepared => 0
  | .executing => 1
  | .committed => 2

/-! ## Tensors -/

/-- a `ge::Tensor`: its description and the bytes behind it -/
structure GeTensor where
  shape : List ℕ
  dtype : TensorDataType
  size : ℕ
  data : Option Mem

def dtypeBytes : TensorDataType → ℕ
  | .DT_FLOAT => 4
  | .DT_INT32 => 4
  | .DT_INT64 => 8
  | .DT_UINT8 => 1
  | .DT_BF16 => 2

/-- what the UDF receives for a fed tensor. No tensor of floats is ever fed. -/
def GeTensor.flowMsg (t : GeTensor) : Option FlowMsg :=
  some ⟨FLOW_FUNC_SUCCESS, some ⟨t.shape.prod, t.data.bind fun data =>
    match t.dtype with
    | .DT_INT64 => some (.int64 (arrayLoad .q data))
    | .DT_INT32 => some (.int32 (arrayLoad .i data))
    | .DT_UINT8 => some (.uint8 data)
    | .DT_BF16 => some (.bf16 data)
    | .DT_FLOAT => none⟩⟩

/-- a buffer of the given size handed over with a shape of its own -/
def makeTensor (size : ℕ) (data : Mem) (shape : List ℕ) (dtype : TensorDataType) : GeTensor :=
  ⟨shape, dtype, size, some data⟩

def isOutput (t : GeTensor) (bytes : ℕ) (dtype : TensorDataType) : Option Mem :=
  match t.data with
  | some data => if t.size = bytes ∧ t.dtype = dtype then some data else none
  | none => none

/-! ## Engine and surroundings -/

structure IpcMetadata where
  magic : UInt64
  version : UInt32
  import_mask : UInt32
  source_bytes : UInt64
  row_generations : Row → Int32
  block_ids : Row → Int32
  source_offsets : Fin 56 → UInt64
  keys : Fin 56 → Fin 64 → UInt8

structure Engine where
  tiling : Mem
  device_import_payload : Option Mem
  /-- key and imported pointer -/
  ipc_imports : List (List UInt8 × ℕ)

structure BridgeEnv where
  /-- the file at a path that can be opened and read: its size and bytes -/
  file : String → Option (ℕ × Mem)
  aclrtMalloc : Option Mem
  aclrtMemset : Bool
  aclrtIpcMemImportByKey : List UInt8 → Option ℕ
  /-- the memory behind an imported pointer -/
  ipc_memory : ℕ → Mem
  /-- the copy of a layer's key (`false`) or value (`true`) block of a row -/
  aclrtMemcpy : ℕ → Row → Bool → Bool
  feed : List GeTensor → Int
  fetch : List GeTensor → Int × List GeTensor
  wall_us : Int
  cpu_start : Int
  cpu_end : Int

structure Args where
  /-- `output_commit_state != nullptr` -/
  has_commit_state : Bool
  /-- no other output pointer is null -/
  has_outputs : Bool
  request_count : Int32
  max_steps : Int32
  input_token_ids : Option (Row → Int64)
  input_positions : Option (Row → Int64)
  input_sequence_lengths : Option (Row → Int32)
  input_eos_token_ids : Option (Row → Int32)
  input_row_generations : Option (Row → Int32)
  transfer_path : Option String
  transfer_id : UInt64
  ipc_metadata : Option IpcMetadata

/-- the row arrays once none is null -/
structure RowInputs where
  token_ids : Row → Int64
  positions : Row → Int64
  sequence_lengths : Row → Int32
  eos_token_ids : Row → Int32
  row_generations : Row → Int32

structure Outputs where
  token_ids : ℕ → Int
  executed : Row → Int
  row_generations : Row → Int
  model_calls : Int
  device_status : Int
  feed_calls : Int
  fetch_calls : Int
  commit_state : Int
  kv_import_checksum : Int
  wall_us : Int
  native_cpu_us : Int
  declared_input_bytes : Int
  declared_output_bytes : Int

/-! ## Transfer file -/

structure TransferHeader where
  magic : Int
  version : Int
  header_bytes : Int
  transfer_id : Int
  payload_bytes : Int
  import_mask : Int
  row_generations : Row → Int
  layers : Int
  batch_size : Int
  block_size : Int
  kv_heads : Int
  head_size : Int
  element_bytes : Int
  checksum : Int

/-- the packed layout of `TransferHeader` -/
def transferHeaderFields : List Field :=
  [.Q, .I, .I, .Q, .Q, .I, .i, .i, .i, .i, .I, .I, .I, .I, .I, .I, .I]

def readTransferHeader (stream : Mem) : TransferHeader :=
  let values := unpack transferHeaderFields (loadBytes stream 0 CRUISE_RESIDENT_TRANSFER_HEADER_BYTES)
  let at_ (i : ℕ) := values.getD i 0
  { magic := at_ 0, version := at_ 1, header_bytes := at_ 2, transfer_id := at_ 3, payload_bytes := at_ 4
    import_mask := at_ 5, row_generations := fun r => at_ (6 + r), layers := at_ 10, batch_size := at_ 11
    block_size := at_ 12, kv_heads := at_ 13, head_size := at_ 14, element_bytes := at_ 15, checksum := at_ 16 }

def selected (mask : ℕ) (r : Row) : Bool := mask.testBit r

/-- payload, import mask and checksum of an accepted file -/
def readTransfer (env : BridgeEnv) (path : String) (transfer_id : UInt64) (input_row_generations : Row → Int32) :
    Option (Mem × ℕ × ℕ) :=
  if transfer_id = 0 ∨ path.toList.take 9 ≠ "/dev/shm/".toList then none
  else
    match env.file path with
    | none => none
    | some (bytes, stream) =>
      let header := readTransferHeader stream
      if bytes ≠ CRUISE_RESIDENT_TRANSFER_HEADER_BYTES + CRUISE_RESIDENT_IMPORT_PAYLOAD_BYTES ∨
          header.magic ≠ CRUISE_RESIDENT_TRANSFER_MAGIC ∨ header.version ≠ CRUISE_RESIDENT_TRANSFER_VERSION ∨
          header.header_bytes ≠ CRUISE_RESIDENT_TRANSFER_HEADER_BYTES ∨ header.transfer_id ≠ transfer_id.toNat ∨
          header.payload_bytes ≠ CRUISE_RESIDENT_IMPORT_PAYLOAD_BYTES ∨ header.import_mask = 0 ∨
          header.import_mask ≥ 16 ∨ header.layers ≠ 28 ∨ header.batch_size ≠ 4 ∨ header.block_size ≠ kBlockSize ∨
          header.kv_heads ≠ 4 ∨ header.head_size ≠ 128 ∨ header.element_bytes ≠ 2 ∨ header.checksum = 0 then none
      else if ∃ r : Row, if selected header.import_mask.toNat r then
          header.row_generations r ≤ 0 ∨ header.row_generations r ≠ (input_row_generations r).toInt
          else header.row_generations r ≠ 0 then none
      else some (fun a => stream (CRUISE_RESIDENT_TRANSFER_HEADER_BYTES + a), header.import_mask.toNat,
        header.checksum.toNat)

/-! ## Direct Device import -/

/-- the key's bytes before its first zero (`strnlen`) -/
def keyBytes (key : Fin 64 → UInt8) : List UInt8 := (List.ofFn key).takeWhile fun b => b != 0

/-- the block of every selected row lies inside the exported allocation at this offset -/
def ipcBlocksFit (m : IpcMetadata) (index : Fin 56) : Bool :=
  rows.all fun r => !selected m.import_mask.toNat r ||
    ((m.source_offsets index).toNat ≤ m.source_bytes.toNat &&
      ((m.block_ids r).toInt.toNat + 1) * CRUISE_RESIDENT_KV_BLOCK_BYTES ≤
        m.source_bytes.toNat - (m.source_offsets index).toNat)

/-- a key that does not fill its field has nothing but zeros after its terminator -/
def ipcKeyOk (key : Fin 64 → UInt8) : Bool :=
  (keyBytes key).length ≠ 0 && ((List.ofFn key).drop (keyBytes key).length).all fun b => b = 0

def validateIpcMetadata (m : IpcMetadata) (input_row_generations : Row → Int32) : Bool :=
  if m.magic ≠ CRUISE_RESIDENT_IPC_METADATA_MAGIC ∨ m.version ≠ CRUISE_RESIDENT_IPC_METADATA_VERSION ∨
      m.source_bytes = 0 ∨ m.import_mask = 0 ∨ m.import_mask ≥ 16 then false
  else
    rows.all (fun r =>
      if selected m.import_mask.toNat r then
        0 < (m.row_generations r).toInt && m.row_generations r = input_row_generations r && 0 ≤ (m.block_ids r).toInt
      else m.row_generations r = 0 && m.block_ids r = 0) &&
    (List.finRange 56).all fun index => ipcBlocksFit m index && ipcKeyOk (m.keys index)

def importIpcMemory (env : BridgeEnv) (engine : Engine) (key : Fin 64 → UInt8) : Engine × Option ℕ :=
  let key_string := keyBytes key
  if key_string = [] then (engine, none)
  else
    match engine.ipc_imports.lookup key_string with
    | some pointer => (engine, some pointer)
    | none =>
      match env.aclrtIpcMemImportByKey key_string with
      | none => (engine, none)
      | some pointer => ({ engine with ipc_imports := (key_string, pointer) :: engine.ipc_imports }, some pointer)

/-- the block copies of one row of one layer into the import payload -/
def copyIpcRow (env : BridgeEnv) (m : IpcMetadata) (layer : Fin 28) (key_source value_source : ℕ) (payload : Mem)
    (r : Row) : Option Mem :=
  if selected m.import_mask.toNat r = false then some payload
  else
    let source_offset := (m.block_ids r).toInt.toNat * CRUISE_RESIDENT_KV_BLOCK_BYTES
    let row_offset := (layer.val * 4 + r.val) * CRUISE_RESIDENT_KV_BLOCK_BYTES
    let key_offset := (m.source_offsets ⟨layer * 2, by omega⟩).toNat + source_offset
    let value_offset := (m.source_offsets ⟨layer * 2 + 1, by omega⟩).toNat + source_offset
    if env.aclrtMemcpy layer r false && env.aclrtMemcpy layer r true then
      let payload := memcpy payload row_offset (env.ipc_memory key_source) key_offset CRUISE_RESIDENT_KV_BLOCK_BYTES
      some (memcpy payload (CRUISE_RESIDENT_IMPORT_PAYLOAD_BYTES / 2 + row_offset) (env.ipc_memory value_source)
        value_offset CRUISE_RESIDENT_KV_BLOCK_BYTES)
    else none

def copyIpcLayers (env : BridgeEnv) (m : IpcMetadata) (engine : Engine) (payload : Mem) :
    List (Fin 28) → Engine × Option Mem
  | [] => (engine, some payload)
  | layer :: rest =>
    let (engine, key_source) := importIpcMemory env engine (m.keys ⟨layer * 2, by omega⟩)
    let (engine, value_source) := importIpcMemory env engine (m.keys ⟨layer * 2 + 1, by omega⟩)
    match key_source, value_source with
    | some key_source, some value_source =>
      match rows.foldlM (copyIpcRow env m layer key_source value_source) payload with
      | none => (engine, none)
      | some payload => copyIpcLayers env m engine payload rest
    | _, _ => (engine, none)

/-- the payload and the engine that keeps it; the payload is `none` when a step failed. A copy that failed part way
leaves the payload's bytes open, and the next call clears them. -/
def prepareDeviceIpcPayload (env : BridgeEnv) (engine : Engine) (m : IpcMetadata) : Engine × Option Mem :=
  if m.source_bytes.toNat < kPhysicalBlocks * CRUISE_RESIDENT_KV_BLOCK_BYTES then (engine, none)
  else
    match engine.device_import_payload.or env.aclrtMalloc with
    | none => (engine, none)
    | some destination =>
      let engine := { engine with device_import_payload := some destination }
      if env.aclrtMemset = false then (engine, none)
      else
        let cleared := memset destination 0 0 CRUISE_RESIDENT_IMPORT_PAYLOAD_BYTES
        match copyIpcLayers env m engine cleared (List.finRange 28) with
        | (engine, none) => (engine, none)
        | (engine, some payload) => ({ engine with device_import_payload := some payload }, some payload)

/-! ## Rows -/

inductive ImportSource where
  | none
  /-- payload, mask and expected checksum of a transfer file -/
  | file (payload : Mem) (import_mask expected_checksum : ℕ)
  | device (payload : Mem) (import_mask : ℕ)

namespace ImportSource

def importing : ImportSource → Bool
  | .none => false
  | _ => true

def import_mask : ImportSource → ℕ
  | .none => 0
  | .file _ mask _ => mask
  | .device _ mask => mask

end ImportSource

/-- the `bytes` column of `kInputSpecs` -/
def kInputSpecsBytes : Fin 7 → ℕ := ![4 * 8, 4 * 8, 4 * 4, 4 * 4, 4 * 4, 4 * kBlocksPerRequest * 4, 72]

/-- the sizes the seven buffers get -/
def bufferBytes : ImportSource → Fin 7 → ℕ
  | .file _ _ _ => ![CRUISE_RESIDENT_IMPORT_PAYLOAD_BYTES, 4 * 8, 4 * 8, 4 * 4, 4 * 4, 4 * kBlocksPerRequest * 4, 72]
  | _ => kInputSpecsBytes

def bridgeSlot (r : Row) (position : Int) : Int :=
  if position < 0 ∨ position ≥ kLogicalCapacity then -1
  else (r * kBlocksPerRequest : ℕ) * kBlockSize + position

section RowLoops

variable (importing : Bool)

/-- the typed pointers into the buffers -/
def tokensAt : Fin 7 := if importing then 1 else 0
def positionsAt : Fin 7 := if importing then 2 else 1
def lengthsAt : Fin 7 := if importing then 3 else 2

/-- the stores every active row's values make -/
def storeRow (r : Row) (token position length active : Int) : List (Write (Fin 7)) :=
  [⟨tokensAt importing, .q, r, token⟩, ⟨positionsAt importing, .q, r, position⟩,
    ⟨lengthsAt importing, .i, r, length⟩] ++
  (if importing then [] else [⟨3, .i, r, bridgeSlot r position⟩]) ++ [⟨4, .i, r, active⟩]

/-- the first row loop -/
def initRow (r : Row) : List (Write (Fin 7)) :=
  [⟨5, .i, r * kBlocksPerRequest, (r * kBlocksPerRequest : ℕ)⟩,
    ⟨5, .i, r * kBlocksPerRequest + 1, (r * kBlocksPerRequest + 1 : ℕ)⟩] ++ storeRow importing r 0 0 0 0

/-- the second row loop -/
def fillRow (rin : RowInputs) (r : Row) : List (Write (Fin 7)) :=
  if rin.row_generations r = 0 then []
  else storeRow importing r (rin.token_ids r).toInt (rin.positions r).toInt (rin.sequence_lengths r).toInt 1

end RowLoops

/-- the second loop's check of a row with a generation -/
def rowAccepted (rin : RowInputs) (max_steps : Int) (r : Row) : Bool :=
  !(decide ((rin.row_generations r).toInt < 0) || decide ((rin.token_ids r).toInt < 0) ||
    decide ((rin.token_ids r).toInt ≥ kVocabSize) || decide ((rin.positions r).toInt < 0) ||
    decide ((rin.positions r).toInt + max_steps > kLogicalCapacity) ||
    decide ((rin.sequence_lengths r).toInt ≠ (rin.positions r).toInt + 1) ||
    decide ((rin.eos_token_ids r).toInt < 0) || decide ((rin.eos_token_ids r).toInt ≥ kVocabSize))

def activeCount (rin : RowInputs) : ℕ := rows.countP fun r => rin.row_generations r ≠ 0

/-- the stores of both row loops, or the status they return early with -/
def rowWrites (importing : Bool) (rin : RowInputs) (max_steps request_count : Int) :
    Except Int (List (Write (Fin 7))) :=
  if rows.any fun r => rin.row_generations r ≠ 0 && !rowAccepted rin max_steps r then .error 11
  else if activeCount rin ≠ request_count then .error 12
  else .ok (rows.flatMap (initRow importing) ++ rows.flatMap (fillRow importing rin))

/-- the eleven control words -/
def controlWords (source : ImportSource) (rin : RowInputs) (max_steps : Int) : List Int :=
  [max_steps] ++
  rows.map (fun r => if rin.row_generations r ≠ 0 then (rin.eos_token_ids r).toInt else kConfiguredEos) ++
  [0, if source.importing then ((CRUISE_RESIDENT_IMPORT_GRAPH_FLAG ||| source.import_mask : ℕ) : Int) else 0] ++
  rows.map fun r => (rin.row_generations r).toInt

/-! ## Feed -/

structure FeedCall where
  inputs : List GeTensor
  /-- the stores of the row loops and the sizes of the buffers they are made into -/
  writes : List (Write (Fin 7))
  sizes : Fin 7 → ℕ

/-- the tensors pushed, in order -/
def feedTensors (source : ImportSource) (sizes : Fin 7 → ℕ) (buffers : Fin 7 → Mem) (control : List Int) :
    List GeTensor :=
  let tensor (index : Fin 7) := makeTensor (sizes index) (buffers index)
  (match source with
  | .none =>
    [tensor 0 [4, 1] .DT_INT64, tensor 1 [4] .DT_INT64, tensor 2 [4, 1] .DT_INT32, tensor 3 [4] .DT_INT32,
      tensor 4 [4] .DT_INT32, tensor 5 [4, 2] .DT_INT32, tensor 6 [72] .DT_UINT8]
  | .file _ _ _ =>
    [tensor 0 [CRUISE_RESIDENT_IMPORT_PAYLOAD_BYTES] .DT_UINT8, tensor 1 [4, 1] .DT_INT64, tensor 2 [4] .DT_INT64,
      tensor 3 [4, 1] .DT_INT32, tensor 4 [4] .DT_INT32, tensor 5 [4, 2] .DT_INT32, tensor 6 [72] .DT_UINT8]
  | .device payload _ =>
    [makeTensor CRUISE_RESIDENT_IMPORT_PAYLOAD_BYTES payload [CRUISE_RESIDENT_IMPORT_PAYLOAD_BYTES] .DT_UINT8,
      tensor 1 [4, 1] .DT_INT64, tensor 2 [4] .DT_INT64,
      tensor 3 [4, 1] .DT_INT32, tensor 4 [4] .DT_INT32, tensor 5 [4, 2] .DT_INT32, tensor 6 [72] .DT_UINT8]) ++
  [makeTensor (4 * control.length) (arrayOf .i fun i => control.getD i 0) [kControlInputElements] .DT_INT32]

/-- the buffers before the row loops: zeroed, but for the moved transfer payload -/
def startBuffers : ImportSource → Fin 7 → Mem
  | .file payload _ _ => fun index => if index = 0 then payload else fun _ => 0
  | _ => fun _ _ => 0

def feedCall (tiling : Mem) (source : ImportSource) (rin : RowInputs) (max_steps : Int)
    (writes : List (Write (Fin 7))) : FeedCall where
  inputs := feedTensors source (bufferBytes source)
    (Function.update (applyWrites (startBuffers source) writes) 6 tiling) (controlWords source rin max_steps)
  writes := writes
  sizes := bufferBytes source

/-! ## The call -/

/-- the first check: nothing null, counts in range, and exactly the transfer id the mode asks for -/
def checkArgs (args : Args) : Option RowInputs :=
  match args.input_token_ids, args.input_positions, args.input_sequence_lengths, args.input_eos_token_ids,
    args.input_row_generations with
  | some token_ids, some positions, some sequence_lengths, some eos_token_ids, some row_generations =>
    let importing := args.transfer_path.isSome || args.ipc_metadata.isSome
    if args.request_count.toInt < 1 ∨ args.request_count.toInt > 4 ∨ args.max_steps.toInt < 1 ∨
        args.max_steps.toInt > kMaxEpochSteps ∨ args.has_outputs = false ∨
        (importing = true ∧ args.transfer_id = 0) ∨ (importing = false ∧ args.transfer_id ≠ 0) ∨
        (args.transfer_path.isSome ∧ args.ipc_metadata.isSome) then none
    else some ⟨token_ids, positions, sequence_lengths, eos_token_ids, row_generations⟩
  | _, _, _, _, _ => none

/-- where an import's payload comes from, or the status that refuses it -/
def loadImport (env : BridgeEnv) (engine : Engine) (args : Args) (rin : RowInputs) :
    Engine × Except Int ImportSource :=
  match args.ipc_metadata, args.transfer_path with
  | some m, _ =>
    if validateIpcMetadata m rin.row_generations = false then (engine, .error 35)
    else
      match prepareDeviceIpcPayload env engine m with
      | (engine, none) => (engine, .error 35)
      | (engine, some payload) => (engine, .ok (.device payload m.import_mask.toNat))
  | none, some path =>
    match readTransfer env path args.transfer_id rin.row_generations with
    | none => (engine, .error 13)
    | some (payload, mask, checksum) => (engine, .ok (.file payload mask checksum))
  | none, none => (engine, .ok .none)

/-- the outputs as they are cleared before the rows are filled -/
def clearOutputs (source : ImportSource) (out : Outputs) : Outputs :=
  { out with
    token_ids := fun _ => -1
    executed := fun _ => 0
    row_generations := fun _ => 0
    model_calls := 0
    device_status := -1
    feed_calls := 0
    fetch_calls := 0
    kv_import_checksum := 0
    wall_us := 0
    native_cpu_us := 0
    declared_input_bytes := match source with
      | .none => kDeclaredInputBytes
      | .file _ _ _ => CRUISE_RESIDENT_IMPORT_INPUT_BYTES
      | .device _ _ => (CRUISE_SIDECAR_REQUEST_BYTES + CRUISE_RESIDENT_IPC_METADATA_BYTES : ℕ)
    declared_output_bytes := kDeclaredOutputBytes }

/-- one row of the result copy; a bad count returns with what was copied before it -/
def copyResultRow (max_steps : Int) (history control : ℕ → Int) (out : Outputs) (r : Row) : Except Outputs Outputs :=
  let executed := control (kControlExecutedOffset + r)
  if executed < 0 ∨ executed > max_steps then .error out
  else .ok { out with
    executed := Function.update out.executed r executed
    row_generations := Function.update out.row_generations r (control (kControlGenerationOffset + r))
    token_ids := fun i =>
      if r * kMaxEpochSteps ≤ i ∧ i < r * kMaxEpochSteps + executed.toNat then history ((i - r * kMaxEpochSteps) * 4 + r)
      else out.token_ids i }

/-- an import whose checksum does not confirm it, on a device that says OK -/
def checksumRefused (source : ImportSource) (status checksum : Int) : Bool :=
  status = 0 && match source with
    | .none => false
    | .file _ _ expected => checksum % 2 ^ 32 ≠ expected
    | .device _ _ => checksum = 0

/-- the results, read out of the token history and the control words -/
def copyResults (env : BridgeEnv) (source : ImportSource) (max_steps : Int) (history result_control : ℕ → Int)
    (out : Outputs) : Int × Outputs :=
  let out := { out with
    device_status := result_control 3
    model_calls := result_control 4
    kv_import_checksum := result_control 5 }
  if checksumRefused source (result_control 3) (result_control 5) then (34, out)
  else
    match rows.foldlM (copyResultRow max_steps history result_control) out with
    | .error out => (33, out)
    | .ok out =>
      let out := if env.cpu_start ≥ 0 ∧ env.cpu_end ≥ env.cpu_start then
        { out with native_cpu_us := env.cpu_end - env.cpu_start } else out
      (0, { out with commit_state := CommitState.committed.code })

/-- everything after a successful Fetch -/
def collectOutputs (env : BridgeEnv) (source : ImportSource) (max_steps : Int) (outputs : List GeTensor)
    (out : Outputs) : Int × Outputs :=
  match outputs with
  | [o0, o1] =>
    match isOutput o0 kTokenHistoryBytes .DT_INT64, isOutput o1 (kControlOutputElements * 4) .DT_INT32 with
    | some history_data, some control_data =>
      copyResults env source max_steps (arrayLoad .q history_data) (arrayLoad .i control_data) out
    | _, _ => (32, out)
  | _ => (31, out)

/-- Feed, Fetch and the copy of the results -/
def runEpoch (env : BridgeEnv) (source : ImportSource) (max_steps : Int) (call : FeedCall) (out : Outputs) :
    Int × Outputs :=
  let out := { out with commit_state := CommitState.executing.code, feed_calls := 1 }
  if env.feed call.inputs ≠ 0 then (30, out)
  else
    let (ret, outputs) := env.fetch call.inputs
    let out := { out with fetch_calls := 1, wall_us := env.wall_us }
    if ret ≠ 0 then (31, out) else collectOutputs env source max_steps outputs out

structure BridgeOutcome where
  ret : Int
  outputs : Outputs
  engine : Option Engine
  /-- the call of `FeedDataFlowGraph` -/
  fed : Option FeedCall

def residentEpochExecute (env : BridgeEnv) (engine : Option Engine) (args : Args) (out : Outputs) : BridgeOutcome :=
  if args.has_commit_state = false then ⟨10, out, engine, none⟩
  else
    let out := { out with commit_state := CommitState.prepared.code }
    match engine, checkArgs args with
    | some eng, some rin =>
      match loadImport env eng args rin with
      | (eng, .error status) => ⟨status, out, some eng, none⟩
      | (eng, .ok source) =>
        let out := clearOutputs source out
        match rowWrites source.importing rin args.max_steps.toInt args.request_count.toInt with
        | .error status => ⟨status, out, some eng, none⟩
        | .ok writes =>
          let call := feedCall eng.tiling source rin args.max_steps.toInt writes
          let (ret, out) := runEpoch env source args.max_steps.toInt call out
          ⟨ret, out, some eng, some call⟩
    | _, _ => ⟨10, out, engine, none⟩

/-- a session that was opened stays open -/
theorem residentEpochExecute_engine {env : BridgeEnv} {engine : Option Engine} {args : Args} {out : Outputs}
    (h : engine.isSome = true) : (residentEpochExecute env engine args out).engine.isSome = true := by
  unfold residentEpochExecute
  split_ifs
  · exact h
  · dsimp only
    split
    · split
      · rfl
      · split <;> rfl
    · exact h

end Cruise.Native
