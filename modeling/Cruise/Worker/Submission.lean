/-
What the engines submit. Both check and marshal first and submit once: a message to the sidecar, or a call of
`resident_epoch_execute` in this process.

- `sidecar_call`, `ctypes_call`: a call of an engine is what it submits, and what it makes of the answer.
-/
import Cruise.Worker.Ctypes

namespace Cruise.Worker

open Cruise.Lib Cruise.Controller Cruise.Native

/-! ## Submissions -/

/-- the KV that comes with a call -/
inductive KvTransfer where
  | plain
  | hostSnapshot (snapshot : ResidentKVSnapshot)
  | deviceIpc (transfer : DeviceKVTransfer)

namespace KvTransfer

def call (engine : NativeEpochEngine) (plan : ResidentEpochPlan) : KvTransfer → Attempt NativeEpochOutput
  | .plain => callEngine engine plan none none
  | .hostSnapshot snapshot => callEngine engine plan (some snapshot) none
  | .deviceIpc transfer => callEngine engine plan none (some transfer)

def operation : KvTransfer → Int
  | .plain => kExecute
  | .hostSnapshot _ => kImportExecute
  | .deviceIpc _ => kDeviceIpcExecute

def transfer_id : KvTransfer → Int
  | .plain => 0
  | .hostSnapshot snapshot => snapshot.transfer_id
  | .deviceIpc transfer => transfer.transfer_id

/-- the `finally` clause of an import: the file that is not removed -/
def finish (unlink : Bool) : KvTransfer → Attempt NativeEpochOutput → Attempt NativeEpochOutput
  | .hostSnapshot _, attempt => if unlink = false then ⟨.error .other, attempt.fed⟩ else attempt
  | _, attempt => attempt

end KvTransfer

/-- a transfer's rows against the rows a plan imports -/
def ImportsRows (plan : ResidentEpochPlan) (import_mask : Int) (row_generations : List Int) : Prop :=
  import_mask = expectedMask plan ∧ row_generations = expectedGenerations plan

instance (plan : ResidentEpochPlan) (import_mask : Int) (row_generations : List Int) :
    Decidable (ImportsRows plan import_mask row_generations) := inferInstanceAs (Decidable (_ ∧ _))

/-- what `_execute` of the sidecar client sends -/
def sidecarMessage (env : SidecarEnv) (plan : ResidentEpochPlan) (operation transfer_id : Int)
    (ipc_metadata : Option (List UInt8)) : Except Raised (List UInt8) :=
  if env.socket = false then .error (.epoch .prepared none)
  else if plan.graph_batch_size ≠ GRAPH_BATCH_SIZE then .error .other
  else
    match structPack requestFields (requestWords plan operation transfer_id), ipcPayload operation ipc_metadata with
    | some payload, .ok metadata => .ok (payload ++ metadata)
    | _, _ => .error .other

/-- what the sidecar client sends for a call, or what it raises before -/
def sidecarSubmits (env : SidecarEnv) (plan : ResidentEpochPlan) : KvTransfer → Except Raised (List UInt8)
  | .plain => sidecarMessage env plan kExecute 0 none
  | .hostSnapshot snapshot =>
    if snapshot.validate ≠ .ok () ∨ ¬ImportsRows plan snapshot.import_mask snapshot.row_generations ∨
        (kvSnapshotFile snapshot).isNone ∨ env.snapshot_write = false then .error .other
    else (sidecarMessage env plan kImportExecute snapshot.transfer_id none).mapError fun raised =>
      if env.unlink = false then .other else raised
  | .deviceIpc transfer =>
    if ¬ImportsRows plan transfer.import_mask transfer.row_generations then .error .other
    else
      match transfer.wireBytes with
      | none => .error .other
      | some metadata => sidecarMessage env plan kDeviceIpcExecute transfer.transfer_id (some metadata)

/-- the arguments `ctypes` passes for a call, or what is raised before -/
def ctypesSubmits (env : CtypesEnv) (plan : ResidentEpochPlan) : KvTransfer → Except Raised Args
  | .plain => if plan.graph_batch_size ≠ 4 then .error .other else .ok (ctypesArgs plan none 0 none)
  | .hostSnapshot snapshot =>
    if snapshot.validate ≠ .ok () ∨ (kvSnapshotFile snapshot).isNone ∨ env.snapshot_write = false ∨
        plan.graph_batch_size ≠ 4 then .error .other
    else .ok (ctypesArgs plan (some (ctypesTransferPath env.pid snapshot.transfer_id)) snapshot.transfer_id none)
  | .deviceIpc transfer =>
    match transfer.wireBytes with
    | none => .error .other
    | some metadata =>
      if plan.graph_batch_size ≠ 4 then .error .other
      else .ok (ctypesArgs plan none transfer.transfer_id (some metadata))

section Calls

variable {plan : ResidentEpochPlan}

theorem wireBytes_validate {transfer : DeviceKVTransfer} {metadata : List UInt8} (h : transfer.wireBytes = some metadata) :
    transfer.validate = .ok () := by
  unfold DeviceKVTransfer.wireBytes at h
  cases hvalidate : transfer.validate with
  | error e =>
    rw [hvalidate] at h
    cases h
  | ok => rfl

theorem sidecarExecute_eq (env : SidecarEnv) (plan : ResidentEpochPlan) (operation transfer_id : Int)
    (ipc_metadata : Option (List UInt8)) : sidecarExecute env plan operation transfer_id ipc_metadata =
      match sidecarMessage env plan operation transfer_id ipc_metadata with
      | .error raised => ⟨.error raised, none⟩
      | .ok payload => (exchange env payload).andThen (decodeResponse plan operation) := by
  unfold sidecarExecute sidecarMessage
  split_ifs
  · rfl
  · rfl
  cases structPack requestFields (requestWords plan operation transfer_id) with
  | none => rfl
  | some payload =>
    unfold ipcPayload
    split_ifs
    · cases ipc_metadata with
      | none => rfl
      | some metadata => dsimp only; split_ifs <;> rfl
    · rfl

/-- **A call of the sidecar engine** sends its message, or raises before. -/
theorem sidecar_call (env : SidecarEnv) (transfer : KvTransfer) : transfer.call (sidecarEngine env) plan =
    match sidecarSubmits env plan transfer with
    | .error raised => ⟨.error raised, none⟩
    | .ok payload => transfer.finish env.unlink ((exchange env payload).andThen (decodeResponse plan transfer.operation)) := by
  cases transfer with
  | plain => exact sidecarExecute_eq env plan kExecute 0 none
  | hostSnapshot snapshot =>
    have hsplit : (snapshot.validate ≠ .ok () ∨ ¬ImportsRows plan snapshot.import_mask snapshot.row_generations ∨
        (kvSnapshotFile snapshot).isNone ∨ env.snapshot_write = false) ↔
        (snapshot.validate ≠ .ok () ∨ snapshot.import_mask ≠ expectedMask plan ∨
          snapshot.row_generations ≠ expectedGenerations plan) ∨
        ((kvSnapshotFile snapshot).isNone ∨ env.snapshot_write = false) := by
      unfold ImportsRows
      tauto
    show sidecarExecuteWithImport env plan snapshot = _
    unfold sidecarExecuteWithImport sidecarSubmits
    dsimp only
    rw [sidecarExecute_eq]
    by_cases h1 : snapshot.validate ≠ .ok () ∨ snapshot.import_mask ≠ expectedMask plan ∨
        snapshot.row_generations ≠ expectedGenerations plan
    · rw [if_pos h1, if_pos (hsplit.2 (Or.inl h1))]
    by_cases h2 : (kvSnapshotFile snapshot).isNone ∨ env.snapshot_write = false
    · rw [if_neg h1, if_pos h2, if_pos (hsplit.2 (Or.inr h2))]
    rw [if_neg h1, if_neg h2, if_neg fun h => (hsplit.1 h).elim h1 h2]
    cases sidecarMessage env plan kImportExecute snapshot.transfer_id none with
    | error raised =>
      dsimp only [Except.mapError]
      split_ifs <;> rfl
    | ok payload => rfl
  | deviceIpc transfer =>
    show sidecarExecuteWithDeviceTransfer env plan transfer = _
    unfold sidecarExecuteWithDeviceTransfer sidecarSubmits
    dsimp only
    cases hwire : transfer.wireBytes with
    | none =>
      dsimp only
      split_ifs <;> rfl
    | some metadata =>
      have hsplit : (transfer.validate ≠ .ok () ∨ transfer.import_mask ≠ expectedMask plan ∨
          transfer.row_generations ≠ expectedGenerations plan) ↔
          ¬ImportsRows plan transfer.import_mask transfer.row_generations := by
        have hvalidate := wireBytes_validate hwire
        unfold ImportsRows
        tauto
      dsimp only
      by_cases h : ImportsRows plan transfer.import_mask transfer.row_generations
      · rw [if_neg fun h' => hsplit.1 h' h, if_neg (not_not.2 h), sidecarExecute_eq]
        rfl
      · rw [if_pos (hsplit.2 h), if_pos h]

/-- **A call of the in-process engine** is a call of `resident_epoch_execute`, or raises before. -/
theorem ctypes_call (env : CtypesEnv) (transfer : KvTransfer) : transfer.call (ctypesEngine env) plan =
    match ctypesSubmits env plan transfer with
    | .error raised => ⟨.error raised, none⟩
    | .ok args =>
      let outcome := residentEpochExecute env.bridge env.handle args ctypesOutputs
      transfer.finish env.unlink ⟨ctypesOutput plan (args.transfer_path.isSome || args.ipc_metadata.isSome)
        (Field.wrap .i outcome.ret) outcome.outputs, outcome.fed⟩ := by
  cases transfer with
  | plain =>
    show ctypesExecute env plan none 0 none = _
    unfold ctypesExecute ctypesSubmits
    split_ifs <;> rfl
  | hostSnapshot snapshot =>
    show ctypesExecuteWithImport env plan snapshot = _
    unfold ctypesExecuteWithImport ctypesSubmits ctypesExecute
    dsimp only
    have hsplit : (snapshot.validate ≠ .ok () ∨ (kvSnapshotFile snapshot).isNone ∨ env.snapshot_write = false ∨
        plan.graph_batch_size ≠ 4) ↔
        (snapshot.validate ≠ .ok () ∨ (kvSnapshotFile snapshot).isNone ∨ env.snapshot_write = false) ∨
          plan.graph_batch_size ≠ 4 := by tauto
    by_cases h1 : snapshot.validate ≠ .ok () ∨ (kvSnapshotFile snapshot).isNone ∨ env.snapshot_write = false
    · rw [if_pos h1, if_pos (hsplit.2 (Or.inl h1))]
    by_cases h2 : plan.graph_batch_size ≠ 4
    · rw [if_neg h1, if_pos h2, if_pos (hsplit.2 (Or.inr h2))]
      dsimp only
      split_ifs <;> rfl
    · rw [if_neg h1, if_neg h2, if_neg fun h => (hsplit.1 h).elim h1 h2]
      unfold KvTransfer.finish
      dsimp only
      rfl
  | deviceIpc transfer =>
    show ctypesExecuteWithDeviceTransfer env plan transfer = _
    unfold ctypesExecuteWithDeviceTransfer ctypesSubmits ctypesExecute
    dsimp only
    cases hwire : transfer.wireBytes with
    | none => split_ifs <;> rfl
    | some metadata =>
      rw [if_neg (not_not.2 (wireBytes_validate hwire))]
      dsimp only
      split_ifs <;> rfl

end Calls

end Cruise.Worker
