/-
The epoch backend (`backend.py`) over any native engine, and the worker plugin (`plugin.py`) over the backend.

MODEL. `WorkerEnv` holds what the plugin finds or calls outside: the cached backend or the loading of one, the captures
of the stock KV caches, the permission for Host snapshots and the stock `execute_model`.
-/
import Cruise.Worker.Sidecar

namespace Cruise.Worker

open Cruise.Lib Cruise.Controller Cruise.Native

/-! ## Backend -/

/-- `NativeEpochEngine`; a missing method is `none` -/
structure NativeEpochEngine where
  execute : ResidentEpochPlan → Attempt NativeEpochOutput
  execute_with_import : Option (ResidentEpochPlan → ResidentKVSnapshot → Attempt NativeEpochOutput)
  execute_with_device_transfer : Option (ResidentEpochPlan → DeviceKVTransfer → Attempt NativeEpochOutput)

/-- `SidecarDataFlowEngine` -/
def sidecarEngine (env : SidecarEnv) : NativeEpochEngine where
  execute := fun plan => sidecarExecute env plan kExecute 0 none
  execute_with_import := some (sidecarExecuteWithImport env)
  execute_with_device_transfer := some (sidecarExecuteWithDeviceTransfer env)

structure ModelRunnerOutput where
  req_ids : List ReqId
  sampled_token_ids : List (List Int)
  /-- the attribute `attach_result` sets -/
  result : Option ResidentEpochResult

/-- the call of the engine, by transfer mode -/
def callEngine (engine : NativeEpochEngine) (plan : ResidentEpochPlan) (snapshot : Option ResidentKVSnapshot)
    (device_transfer : Option DeviceKVTransfer) : Attempt NativeEpochOutput :=
  match device_transfer, snapshot with
  | some transfer, _ =>
    match engine.execute_with_device_transfer with
    | none => ⟨.error (.epoch .prepared none), none⟩
    | some execute_with_device_transfer => execute_with_device_transfer plan transfer
  | none, none => engine.execute plan
  | none, some snapshot =>
    match engine.execute_with_import with
    | none => ⟨.error (.epoch .prepared none), none⟩
    | some execute_with_import => execute_with_import plan snapshot

/-- an exception that proves nothing about the device becomes EXECUTING -/
def wrapUnproved : Raised → Raised
  | .epoch commit_state status => .epoch commit_state status
  | .other => .epoch .executing none

/-- the result the backend attaches to a native output -/
def backendResult (plan : ResidentEpochPlan) (snapshot : Option ResidentKVSnapshot)
    (device_transfer : Option DeviceKVTransfer) (native_output : NativeEpochOutput) : ResidentEpochResult where
  version := CONTRACT_VERSION
  route := .device
  status := 0
  model_calls := native_output.model_calls
  computed_steps := plan.req_ids.map fun req_id =>
    (req_id, (((native_output.token_ids.lookup req_id).getD []).length : Int))
  row_generations := native_output.row_generations
  commit_state := native_output.commit_state
  fallback_safe := false
  feed_calls := native_output.feed_calls
  fetch_calls := native_output.fetch_calls
  wall_us := native_output.wall_us
  native_cpu_us := native_output.native_cpu_us
  declared_input_bytes := native_output.declared_input_bytes
  declared_output_bytes := native_output.declared_output_bytes
  socket_send_calls := native_output.socket_send_calls
  socket_receive_calls := native_output.socket_receive_calls
  kv_imported := native_output.kv_imported
  kv_import_checksum := native_output.kv_import_checksum
  kv_snapshot_checksum := (snapshot.map fun s => s.checksum).getD 0
  kv_transfer_mode :=
    if device_transfer.isSome then .deviceIpc else if snapshot.isSome then .hostSnapshot else .none

/-- what the backend makes of a native output -/
def checkOutput (plan : ResidentEpochPlan) (snapshot : Option ResidentKVSnapshot)
    (device_transfer : Option DeviceKVTransfer) (native_output : NativeEpochOutput) :
    Except Raised ModelRunnerOutput := do
  refuse (native_output.status ≠ 0) (.epoch native_output.commit_state (some native_output.status))
  refuse (native_output.commit_state ≠ .committed) (.epoch native_output.commit_state none)
  refuse ((snapshot.any fun s => native_output.kv_import_checksum ≠ s.checksum) = true) (.epoch .committed none)
  refuse (device_transfer.isSome = true ∧ native_output.kv_import_checksum = 0) (.epoch .committed none)
  refuse (¬ sameIds native_output.token_ids plan.req_ids) (.epoch .committed none)
  let sampled := plan.req_ids.map fun req_id => (native_output.token_ids.lookup req_id).getD []
  let result := backendResult plan snapshot device_transfer native_output
  refuse (result.validateAgainst plan (plan.req_ids.zip sampled) ≠ .ok ()) (.epoch .committed none)
  .ok ⟨plan.req_ids, sampled, some result⟩

/-- `ResidentEpochBackend.execute` -/
def backendExecute (engine : NativeEpochEngine) (plan : ResidentEpochPlan) (snapshot : Option ResidentKVSnapshot)
    (device_transfer : Option DeviceKVTransfer) : Attempt ModelRunnerOutput :=
  if snapshot.isSome ∧ device_transfer.isSome then ⟨.error .other, none⟩
  else if plan.validate ≠ .ok () then ⟨.error (.epoch .prepared none), none⟩
  else
    let attempt := callEngine engine plan snapshot device_transfer
    match attempt.result with
    | .error raised => ⟨.error (wrapUnproved raised), attempt.fed⟩
    | .ok native_output => ⟨checkOutput plan snapshot device_transfer native_output, attempt.fed⟩

/-! ## Plugin -/

structure WorkerEnv where
  /-- `worker._resident_epoch_backend`, if it has one -/
  backend : Option NativeEpochEngine
  load_backend : Except Raised NativeEpochEngine
  capture_device_transfer : Except Raised DeviceKVTransfer
  /-- VLLM_ASCEND_RESIDENT_EPOCH_ALLOW_HOST_KV_SNAPSHOT=1 -/
  allow_host_snapshot : Bool
  capture_snapshot : Except Raised ResidentKVSnapshot
  /-- the stock `execute_model`; `none` when it returns something else than a ModelRunnerOutput -/
  original_execute_model : Except Raised (Option ModelRunnerOutput)

structure WorkerStep where
  result : Except Raised (Option ModelRunnerOutput)
  fed : Option FeedCall
  /-- `original_execute_model` was called -/
  host : Bool

/-- `attach_host_fallback_result` -/
def attachHostFallback (output : Option ModelRunnerOutput) (req_ids : List ReqId) : Except Raised ModelRunnerOutput :=
  match output with
  | none => .error .other
  | some output => .ok { output with result := some {
      version := CONTRACT_VERSION
      route := .hostFallback
      status := 0
      model_calls := 1
      computed_steps := req_ids.map fun req_id => (req_id, 1)
      row_generations := []
      commit_state := .prepared
      fallback_safe := true
      feed_calls := 0
      fetch_calls := 0
      wall_us := 0
      native_cpu_us := 0
      declared_input_bytes := 0
      declared_output_bytes := 0
      socket_send_calls := 1
      socket_receive_calls := 1
      kv_imported := false
      kv_import_checksum := 0
      kv_snapshot_checksum := 0
      kv_transfer_mode := .none } }

/-- the Host replay of a planned step -/
def hostReplay (env : WorkerEnv) (plan : ResidentEpochPlan) (fed : Option FeedCall) : WorkerStep where
  result := env.original_execute_model.bind fun output => (attachHostFallback output plan.req_ids).map some
  fed := fed
  host := true

/-- the `try` block: the captures and the backend's call -/
def runPlan (env : WorkerEnv) (engine : NativeEpochEngine) (plan : ResidentEpochPlan) : Attempt ModelRunnerOutput :=
  if plan.importing = false then backendExecute engine plan none none
  else
    match env.capture_device_transfer with
    | .ok transfer => backendExecute engine plan none (some transfer)
    | .error raised =>
      if env.allow_host_snapshot = false then ⟨.error raised, none⟩
      else
        match env.capture_snapshot with
        | .error raised => ⟨.error raised, none⟩
        | .ok snapshot => backendExecute engine plan (some snapshot) none

/-- the `try` statement around it, once there is a backend -/
def executeWithBackend (env : WorkerEnv) (plan : ResidentEpochPlan) (engine : NativeEpochEngine) : WorkerStep :=
  let attempt := runPlan env engine plan
  match attempt.result with
  | .ok output => ⟨.ok (some output), attempt.fed, false⟩
  | .error raised =>
    if raised.input_preserving = false ∨ plan.host_replay_safe = false then ⟨.error raised, attempt.fed, false⟩
    else hostReplay env plan attempt.fed

/-- `_execute_model_with_fallback` -/
def executeModelWithFallback (env : WorkerEnv) (plan : Option ResidentEpochPlan) : WorkerStep :=
  match plan with
  | none => ⟨env.original_execute_model, none, true⟩
  | some plan =>
    let backend : Except Raised NativeEpochEngine := match env.backend with
      | some engine => .ok engine
      | none => env.load_backend
    match backend with
    | .error raised => if plan.host_replay_safe = false then ⟨.error raised, none, false⟩ else hostReplay env plan none
    | .ok engine => executeWithBackend env plan engine

end Cruise.Worker
