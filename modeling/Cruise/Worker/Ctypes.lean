/-
The in-process engine (`ctypes_backend.py`).

MODEL. `ctypes` narrows every integer to its C type without a word, where `struct` refuses one that does not fit. The native
call is the function the server calls, in this process.
-/
import Cruise.Worker.Backend

namespace Cruise.Worker

open Cruise.Lib Cruise.Controller Cruise.Native

/-! ## The engine -/

structure CtypesEnv where
  bridge : BridgeEnv
  /-- `self.handle`; NULL once it is closed -/
  handle : Option Engine
  pid : ℕ
  /-- the transfer file is written and published -/
  snapshot_write : Bool
  /-- the transfer file is removed afterwards -/
  unlink : Bool

def ctypesTransferPath (pid : ℕ) (transfer_id : Int) : String :=
  "/dev/shm/cruise-kv-transfer-" ++ toString pid ++ "-" ++ toString transfer_id

/-- the arguments of the call; the four arrays hold the plan's values by row -/
def ctypesArgs (plan : ResidentEpochPlan) (transfer_path : Option String) (transfer_id : Int)
    (ipc_metadata : Option (List UInt8)) : Args where
  has_commit_state := true
  has_outputs := true
  request_count := .ofInt plan.requests.length
  max_steps := .ofInt plan.max_steps
  input_token_ids := some fun r => .ofInt ((plan.byRow 4 (fun request => request.token_id) 0).getD r 0)
  input_positions := some fun r => .ofInt ((plan.byRow 4 (fun request => request.position) 0).getD r 0)
  input_sequence_lengths := some fun r => .ofInt ((plan.byRow 4 (fun request => request.sequence_length) 0).getD r 0)
  input_eos_token_ids := some fun r => .ofInt ((plan.byRow 4 (fun request => request.eos_token_id) 151645).getD r 0)
  input_row_generations := some fun r => .ofInt (plan.row_generations.getD r 0)
  transfer_path := transfer_path
  transfer_id := .ofNat (transfer_id % 2 ^ 64).toNat
  ipc_metadata := ipc_metadata.map parseIpcMetadata

/-- the C variables behind the output pointers -/
def ctypesOutputs : Outputs where
  token_ids := fun _ => 0
  executed := fun _ => 0
  row_generations := fun _ => 0
  model_calls := 0
  device_status := -1
  feed_calls := 0
  fetch_calls := 0
  commit_state := -1
  kv_import_checksum := 0
  wall_us := 0
  native_cpu_us := 0
  declared_input_bytes := 0
  declared_output_bytes := 0

/-- the tokens of each request; an index behind the array raises -/
def readTokens (plan : ResidentEpochPlan) (output_executed output_tokens : List Int) (commit_state : CommitState) :
    List ResidentEpochRequest → Except Raised (List (ReqId × List Int))
  | [] => .ok []
  | request :: rest => do
    let executed := output_executed.getD request.row.toNat 0
    refuse (executed < 0 ∨ executed > plan.max_steps) (.epoch commit_state none)
    let offset := request.row.toNat * MAX_EPOCH_STEPS
    refuse (∃ step ∈ List.range executed.toNat, output_tokens.length ≤ offset + step) .other
    let tokens_by_req ← readTokens plan output_executed output_tokens commit_state rest
    .ok ((request.req_id, (List.range executed.toNat).map fun step => output_tokens.getD (offset + step) 0) :: tokens_by_req)

/-- what `_execute` makes of the status and the C variables -/
def ctypesOutput (plan : ResidentEpochPlan) (kv_imported : Bool) (status : Int) (out : Outputs) :
    Except Raised NativeEpochOutput := do
  let commit_state ← (commitState (Field.wrap .i out.commit_state)).mapError fun _ => .epoch .executing (some status)
  refuse (status ≠ 0) (.epoch commit_state (some status))
  let token_ids ← readTokens plan (rows.map fun r => Field.wrap .i (out.executed r))
    ((List.range 32).map fun i => Field.wrap .q (out.token_ids i)) commit_state plan.requests
  .ok {
    status := Field.wrap .i out.device_status
    model_calls := Field.wrap .i out.model_calls
    token_ids
    row_generations := rows.map fun r => Field.wrap .i (out.row_generations r)
    commit_state
    feed_calls := Field.wrap .i out.feed_calls
    fetch_calls := Field.wrap .i out.fetch_calls
    wall_us := Field.wrap .q out.wall_us
    native_cpu_us := Field.wrap .q out.native_cpu_us
    declared_input_bytes := Field.wrap .q out.declared_input_bytes
    declared_output_bytes := Field.wrap .q out.declared_output_bytes
    socket_send_calls := 1
    socket_receive_calls := 1
    kv_imported
    kv_import_checksum := Field.wrap .i out.kv_import_checksum % 2 ^ 32 }

/-- `CtypesDataFlowEngine._execute` -/
def ctypesExecute (env : CtypesEnv) (plan : ResidentEpochPlan) (transfer_path : Option String) (transfer_id : Int)
    (ipc_metadata : Option (List UInt8)) : Attempt NativeEpochOutput :=
  if plan.graph_batch_size ≠ 4 then ⟨.error .other, none⟩
  else
    let outcome := residentEpochExecute env.bridge env.handle (ctypesArgs plan transfer_path transfer_id ipc_metadata)
      ctypesOutputs
    ⟨ctypesOutput plan (transfer_path.isSome || ipc_metadata.isSome) (Field.wrap .i outcome.ret) outcome.outputs,
      outcome.fed⟩

/-- `execute_with_import` -/
def ctypesExecuteWithImport (env : CtypesEnv) (plan : ResidentEpochPlan) (snapshot : ResidentKVSnapshot) :
    Attempt NativeEpochOutput :=
  if snapshot.validate ≠ .ok () ∨ (kvSnapshotFile snapshot).isNone ∨ env.snapshot_write = false then
    ⟨.error .other, none⟩
  else
    let path := ctypesTransferPath env.pid snapshot.transfer_id
    let attempt := ctypesExecute env plan (some path) snapshot.transfer_id none
    -- the `finally` clause removes the file, and what it raises replaces the outcome
    if env.unlink = false then ⟨.error .other, attempt.fed⟩ else attempt

/-- `execute_with_device_transfer` -/
def ctypesExecuteWithDeviceTransfer (env : CtypesEnv) (plan : ResidentEpochPlan) (transfer : DeviceKVTransfer) :
    Attempt NativeEpochOutput :=
  if transfer.validate ≠ .ok () then ⟨.error .other, none⟩
  else
    match transfer.wireBytes with
    | none => ⟨.error .other, none⟩
    | some metadata => ctypesExecute env plan none transfer.transfer_id (some metadata)

/-- `CtypesDataFlowEngine` -/
def ctypesEngine (env : CtypesEnv) : NativeEpochEngine where
  execute := fun plan => ctypesExecute env plan none 0 none
  execute_with_import := some (ctypesExecuteWithImport env)
  execute_with_device_transfer := some (ctypesExecuteWithDeviceTransfer env)

end Cruise.Worker
