/-
The sidecar server (`native/resident_epoch_server.cpp`): its wire records and one pass of its request loop.

MODEL. The client's end of the socket delivers a list of bytes; `ReadAll` fails when it is too short. What goes wrong in
the process itself is `ServerFaults`. Results:
- `response_values`: the words the client unpacks from a response are the response's, each as its field keeps it.
- `response_length`: a response is as long as the client expects.
-/
import Cruise.Native.FeedModes

namespace Cruise.Native

open Cruise.Lib Cruise.Controller

def kRequestMagic : Int := 0x71317131
def kResponseMagic : Int := 0x71327132
def kProtocolVersion : Int := 7
def kExecute : Int := 1
def kWarmUp : Int := 2
def kShutdown : Int := 3
def kImportExecute : Int := 4
def kDeviceIpcExecute : Int := 5

/-! ## Requests -/

structure Request where
  magic : Int
  version : Int
  operation : Int
  request_count : Int32
  max_steps : Int32
  transfer_id : UInt64
  rows : RowInputs

/-- the packed layout of `Request`, and `<IHHiiQ4q4q4i4i4i` -/
def requestFields : List Field :=
  [.I, .H, .H, .i, .i, .Q] ++ List.replicate 8 .q ++ List.replicate 12 .i

def parseRequest (bytes : List UInt8) : Request :=
  let values := unpack requestFields bytes
  let at_ (i : ℕ) := values.getD i 0
  { magic := at_ 0, version := at_ 1, operation := at_ 2
    request_count := .ofInt (at_ 3), max_steps := .ofInt (at_ 4), transfer_id := .ofNat (at_ 5).toNat
    rows := {
      token_ids := fun r => .ofInt (at_ (6 + r))
      positions := fun r => .ofInt (at_ (10 + r))
      sequence_lengths := fun r => .ofInt (at_ (14 + r))
      eos_token_ids := fun r => .ofInt (at_ (18 + r))
      row_generations := fun r => .ofInt (at_ (22 + r)) } }

/-- the packed layout of the header of `ResidentEpochIpcMetadata`, and `<QIIQ4i4i56Q` -/
def ipcMetadataFields : List Field :=
  [.Q, .I, .I, .Q] ++ List.replicate 8 .i ++ List.replicate 56 .Q

def parseIpcMetadata (bytes : List UInt8) : IpcMetadata :=
  let values := unpack ipcMetadataFields bytes
  let at_ (i : ℕ) := values.getD i 0
  { magic := .ofNat (at_ 0).toNat, version := .ofNat (at_ 1).toNat, import_mask := .ofNat (at_ 2).toNat
    source_bytes := .ofNat (at_ 3).toNat
    row_generations := fun r => .ofInt (at_ (4 + r))
    block_ids := fun r => .ofInt (at_ (8 + r))
    source_offsets := fun i => .ofNat (at_ (12 + i)).toNat
    keys := fun i k => bytes.getD (recordSize ipcMetadataFields + i * 64 + k) 0 }

/-! ## Responses -/

structure Response where
  magic : Int
  transport_status : Int
  outputs : Outputs

/-- the packed layout of `Response`, and `<Iiiiiiii4q4i4i32q` -/
def responseFields : List Field :=
  .I :: (List.replicate 7 .i ++ List.replicate 4 .q ++ List.replicate 8 .i ++ List.replicate 32 .q)

/-- the response's words in order; `reserved` carries the import checksum -/
def Response.words (response : Response) : List Int :=
  let out := response.outputs
  [response.magic, response.transport_status, out.device_status, out.model_calls, out.feed_calls, out.fetch_calls,
    out.commit_state, out.kv_import_checksum, out.wall_us, out.native_cpu_us, out.declared_input_bytes,
    out.declared_output_bytes] ++ rows.map out.executed ++ rows.map out.row_generations ++
    (List.range 32).map out.token_ids

def Response.bytes (response : Response) : List UInt8 := pack responseFields response.words

def emptyResponse (status : Int) : Response where
  magic := kResponseMagic
  transport_status := status
  outputs := {
    token_ids := fun _ => -1
    executed := fun _ => 0
    row_generations := fun _ => 0
    model_calls := 0
    device_status := -1
    feed_calls := 0
    fetch_calls := 0
    commit_state := CommitState.prepared.code
    kv_import_checksum := 0
    wall_us := 0
    native_cpu_us := 0
    declared_input_bytes := 0
    declared_output_bytes := 0 }

/-! ## The request loop -/

structure ServerFaults where
  /-- the process dies while it serves the request: before (`false`) or after (`true`) a call of Feed -/
  crash : Option Bool
  /-- `WriteAll` delivers the whole response -/
  write : Bool

/-- the arguments the server calls the bridge with -/
def serverArgs (transfer_path : String) (request : Request) (metadata : IpcMetadata) : Args where
  has_commit_state := true
  has_outputs := true
  request_count := request.request_count
  max_steps := request.max_steps
  input_token_ids := some request.rows.token_ids
  input_positions := some request.rows.positions
  input_sequence_lengths := some request.rows.sequence_lengths
  input_eos_token_ids := some request.rows.eos_token_ids
  input_row_generations := some request.rows.row_generations
  transfer_path := if request.operation = kImportExecute then some transfer_path else none
  transfer_id := request.transfer_id
  ipc_metadata := if request.operation = kDeviceIpcExecute then some metadata else none

structure ServerPass where
  /-- the response of this pass, if it comes to one; `none` ends the loop -/
  response : Option Response
  engine : Option Engine
  fed : Option FeedCall

/-- one pass, up to the response it writes -/
def serveRequest (env : BridgeEnv) (transfer_path : String) (engine : Option Engine) (incoming : List UInt8) :
    ServerPass :=
  if incoming.length < CRUISE_SIDECAR_REQUEST_BYTES then ⟨none, engine, none⟩
  else
    let request := parseRequest incoming
    if request.magic ≠ kRequestMagic ∨ request.version ≠ kProtocolVersion then ⟨some (emptyResponse 69), engine, none⟩
    else if request.operation = kShutdown then ⟨some (emptyResponse 0), engine, none⟩
    else if request.operation ∉ [kExecute, kWarmUp, kImportExecute, kDeviceIpcExecute] then
      ⟨some (emptyResponse 71), engine, none⟩
    else
      let payload := incoming.drop CRUISE_SIDECAR_REQUEST_BYTES
      if request.operation = kDeviceIpcExecute ∧ payload.length < CRUISE_RESIDENT_IPC_METADATA_BYTES then
        ⟨none, engine, none⟩
      else
        let outcome := residentEpochExecute env engine
          (serverArgs transfer_path request (parseIpcMetadata payload)) (emptyResponse 0).outputs
        ⟨some ⟨kResponseMagic, outcome.ret, outcome.outputs⟩, outcome.engine, outcome.fed⟩

theorem serveRequest_engine {env : BridgeEnv} {transfer_path : String} {engine : Option Engine} {incoming : List UInt8}
    (h : engine.isSome = true) : (serveRequest env transfer_path engine incoming).engine.isSome = true := by
  unfold serveRequest
  dsimp only
  split_ifs
  all_goals first
    | exact h
    | exact residentEpochExecute_engine h

/-- what the pass does to the outside: the bytes it sends, if all of them are, and whether it fed the device -/
def servePass (env : BridgeEnv) (faults : ServerFaults) (transfer_path : String) (engine : Option Engine)
    (incoming : List UInt8) : Option (List UInt8) × Option FeedCall :=
  let pass := serveRequest env transfer_path engine incoming
  match faults.crash with
  | some after => (none, if after then pass.fed else none)
  | none => (if faults.write then pass.response.map Response.bytes else none, pass.fed)

/-! ## Wire facts -/

theorem responseFields_length (response : Response) : responseFields.length = response.words.length := rfl

theorem response_length (response : Response) : response.bytes.length = CRUISE_SIDECAR_RESPONSE_BYTES := by
  rw [Response.bytes, pack_length (responseFields_length response)]
  rfl

/-- what a field keeps of a value -/
def Field.wrap (f : Field) (v : Int) : Int := f.decode (f.encode v)

theorem wrap_eq (f : Field) {v : Int} (h : f.InRange v) : Field.wrap f v = v := f.decode_encode h

/-- **What the client unpacks.** -/
theorem response_values (response : Response) (rest : List UInt8) :
    unpack responseFields (response.bytes ++ rest) = List.zipWith Field.wrap responseFields response.words := by
  rw [unpack_take responseFields _ _ (by rw [response_length]; exact le_of_eq rfl), Response.bytes,
    unpack_pack_values (responseFields_length response)]
  rfl

end Cruise.Native
