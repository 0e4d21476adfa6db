/-
The sidecar client (`sidecar_backend.py`) at the end of a socket that is in step with the server.

MODEL. An exception is what its handlers look at: a `ResidentEpochExecutionError` with its commit state and status, or
anything else. What can go wrong around the client is `SidecarEnv`: the socket, the file system, and the server process
behind it. `fed` records the call of `FeedDataFlowGraph` made for this request.
-/
import Cruise.Worker.Transfer

namespace Cruise.Worker

open Cruise.Lib Cruise.Controller Cruise.Native

def GRAPH_BATCH_SIZE : ℕ := 4
def MAX_EPOCH_STEPS : ℕ := 8

inductive Raised where
  | epoch (commit_state : CommitState) (status : Option Int)
  | other
deriving DecidableEq, Repr

/-- `exc.input_preserving` of a `ResidentEpochExecutionError` -/
def Raised.input_preserving : Raised → Bool
  | .epoch commit_state _ => commit_state = .prepared
  | .other => false

structure Attempt (α : Type) where
  result : Except Raised α
  fed : Option FeedCall

/-- what follows an attempt that succeeded -/
def Attempt.andThen {α β : Type} (attempt : Attempt α) (next : α → Except Raised β) : Attempt β :=
  ⟨attempt.result.bind next, attempt.fed⟩

@[simp] theorem Attempt.andThen_fed {α β : Type} (attempt : Attempt α) (next : α → Except Raised β) :
    (attempt.andThen next).fed = attempt.fed := rfl

theorem Attempt.andThen_ok {α β : Type} {attempt : Attempt α} {a : α} (h : attempt.result = .ok a)
    (next : α → Except Raised β) : (attempt.andThen next).result = next a := by
  rw [andThen, h]
  rfl

theorem Attempt.andThen_error {α β : Type} {attempt : Attempt α} {raised : Raised} (h : attempt.result = .error raised)
    (next : α → Except Raised β) : (attempt.andThen next).result = .error raised := by
  rw [andThen, h]
  rfl

structure NativeEpochOutput where
  status : Int
  model_calls : Int
  token_ids : List (ReqId × List Int)
  row_generations : List Int
  commit_state : CommitState
  feed_calls : Int
  fetch_calls : Int
  wall_us : Int
  native_cpu_us : Int
  declared_input_bytes : Int
  declared_output_bytes : Int
  socket_send_calls : Int
  socket_receive_calls : Int
  kv_imported : Bool
  kv_import_checksum : Int

structure SidecarEnv where
  bridge : BridgeEnv
  engine : Option Engine
  faults : ServerFaults
  transfer_path : String
  /-- `self.socket is not None` -/
  socket : Bool
  /-- `sendall` raises when this many bytes have gone out -/
  send_fault : Option ℕ
  /-- `recv` raises or times out -/
  recv_fault : Bool
  /-- the transfer file is written and published -/
  snapshot_write : Bool
  /-- the transfer file is removed afterwards -/
  unlink : Bool

/-- `sendall` and `_receive_response`, inside the handler that makes every exception ambiguous -/
def exchange (env : SidecarEnv) (payload : List UInt8) : Attempt (List Int) :=
  let arrived := match env.send_fault with
    | some count => payload.take count
    | none => payload
  let (response, fed) := servePass env.bridge env.faults env.transfer_path env.engine arrived
  match env.send_fault, env.recv_fault, response with
  | none, false, some bytes =>
    let values := unpack responseFields bytes
    if values.getD 0 0 ≠ kResponseMagic then ⟨.error (.epoch .executing none), fed⟩ else ⟨.ok values, fed⟩
  | _, _, _ => ⟨.error (.epoch .executing none), fed⟩

/-- `_commit_state` -/
def commitState (value : Int) : Except Raised CommitState :=
  if value = 0 then .ok .prepared
  else if value = 1 then .ok .executing
  else if value = 2 then .ok .committed
  else .error (.epoch .executing none)

/-- the words of the request record -/
def requestWords (plan : ResidentEpochPlan) (operation transfer_id : Int) : List Int :=
  [kRequestMagic, kProtocolVersion, operation, plan.requests.length, plan.max_steps, transfer_id] ++
    plan.byRow GRAPH_BATCH_SIZE (fun request => request.token_id) 0 ++
    plan.byRow GRAPH_BATCH_SIZE (fun request => request.position) 0 ++
    plan.byRow GRAPH_BATCH_SIZE (fun request => request.sequence_length) 0 ++
    plan.byRow GRAPH_BATCH_SIZE (fun request => request.eos_token_id) 151645 ++ plan.row_generations

/-- the tokens of each request, sliced out of the row-major history -/
def sliceTokens (plan : ResidentEpochPlan) (executed flat_tokens : List Int) (commit_state : CommitState) :
    List ResidentEpochRequest → Except Raised (List (ReqId × List Int))
  | [] => .ok []
  | request :: rest => do
    let count := executed.getD request.row.toNat 0
    refuse (count < 0 ∨ count > plan.max_steps) (.epoch commit_state none)
    let token_ids ← sliceTokens plan executed flat_tokens commit_state rest
    .ok ((request.req_id, (flat_tokens.drop (request.row.toNat * MAX_EPOCH_STEPS)).take count.toNat) :: token_ids)

/-- what `_execute` makes of the unpacked response -/
def decodeResponse (plan : ResidentEpochPlan) (operation : Int) (values : List Int) :
    Except Raised NativeEpochOutput := do
  let at_ (i : ℕ) := values.getD i 0
  let commit_state ← commitState (at_ 6)
  refuse (at_ 1 ≠ 0) (.epoch commit_state (some (at_ 1)))
  let token_ids ← sliceTokens plan ((values.drop 12).take 4) (values.drop 20) commit_state plan.requests
  .ok {
    status := at_ 2
    model_calls := at_ 3
    token_ids
    row_generations := (values.drop 16).take 4
    commit_state
    feed_calls := at_ 4
    fetch_calls := at_ 5
    wall_us := at_ 8
    native_cpu_us := at_ 9
    declared_input_bytes := at_ 10
    declared_output_bytes := at_ 11
    socket_send_calls := 1
    socket_receive_calls := 1
    kv_imported := operation = kImportExecute ∨ operation = kDeviceIpcExecute
    kv_import_checksum := at_ 7 % 2 ^ 32 }

/-- what is sent after the request record -/
def ipcPayload (operation : Int) (ipc_metadata : Option (List UInt8)) : Except Raised (List UInt8) :=
  if operation = kDeviceIpcExecute then
    match ipc_metadata with
    | some bytes => if bytes.length = CRUISE_RESIDENT_IPC_METADATA_BYTES then .ok bytes else .error .other
    | none => .error .other
  else .ok []

/-- `SidecarDataFlowEngine._execute` -/
def sidecarExecute (env : SidecarEnv) (plan : ResidentEpochPlan) (operation transfer_id : Int)
    (ipc_metadata : Option (List UInt8)) : Attempt NativeEpochOutput :=
  if env.socket = false then ⟨.error (.epoch .prepared none), none⟩
  else if plan.graph_batch_size ≠ GRAPH_BATCH_SIZE then ⟨.error .other, none⟩
  else
    match structPack requestFields (requestWords plan operation transfer_id) with
    | none => ⟨.error .other, none⟩
    | some payload =>
      match ipcPayload operation ipc_metadata with
      | .error raised => ⟨.error raised, none⟩
      | .ok metadata => (exchange env (payload ++ metadata)).andThen (decodeResponse plan operation)

/-- the import mask and generations a plan asks for -/
def expectedMask (plan : ResidentEpochPlan) : Int :=
  ((plan.requests.filter fun request => request.kv_import_required).map fun request => (2 : Int) ^ request.row.toNat).sum

def expectedGenerations (plan : ResidentEpochPlan) : List Int :=
  (plan.requests.filter fun request => request.kv_import_required).foldl
    (fun values request => values.set request.row.toNat request.generation) (List.replicate GRAPH_BATCH_SIZE 0)

/-- `execute_with_import` -/
def sidecarExecuteWithImport (env : SidecarEnv) (plan : ResidentEpochPlan) (snapshot : ResidentKVSnapshot) :
    Attempt NativeEpochOutput :=
  if snapshot.validate ≠ .ok () ∨ snapshot.import_mask ≠ expectedMask plan ∨
      snapshot.row_generations ≠ expectedGenerations plan then ⟨.error .other, none⟩
  else if (kvSnapshotFile snapshot).isNone ∨ env.snapshot_write = false then ⟨.error .other, none⟩
  else
    let attempt := sidecarExecute env plan kImportExecute snapshot.transfer_id none
    -- the `finally` clause removes the file, and what it raises replaces the outcome
    if env.unlink = false then ⟨.error .other, attempt.fed⟩ else attempt

/-- `execute_with_device_transfer` -/
def sidecarExecuteWithDeviceTransfer (env : SidecarEnv) (plan : ResidentEpochPlan) (transfer : DeviceKVTransfer) :
    Attempt NativeEpochOutput :=
  if transfer.validate ≠ .ok () ∨ transfer.import_mask ≠ expectedMask plan ∨
      transfer.row_generations ≠ expectedGenerations plan then ⟨.error .other, none⟩
  else
    match transfer.wireBytes with
    | none => ⟨.error .other, none⟩
    | some metadata => sidecarExecute env plan kDeviceIpcExecute transfer.transfer_id (some metadata)

end Cruise.Worker
