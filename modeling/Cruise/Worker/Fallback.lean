/-
What becomes of a step that fails before anything was submitted.

A step submits when its backend is loaded, its KV is captured and the engine has checked and marshalled the plan. Where it
does not get so far and the Host owns every request, the Host could replay it. Results:
- `fallback_accepted_iff`: the result attached to a replay is accepted for every plan of at least one step.
- `engine_raised_iff`: of what an engine raises before it submits, only a closed sidecar says PREPARED.
- `falls_back_iff`: so the Host replays exactly when the backend was not loaded or the sidecar was closed.
- `capture_not_replayed`: a plan whose KV cannot be captured ends in an exception.
-/
import Cruise.Lib.Dict
import Cruise.Worker.DeviceCapture
import Cruise.Worker.Exchange
import Cruise.Worker.Submission

namespace Cruise.Worker

open Cruise.Lib Cruise.Controller Cruise.Native

/-! ## Steps that are not submitted -/

/-- an engine of either kind, with what is around it -/
inductive EngineEnv where
  | sidecar (env : SidecarEnv)
  | ctypes (env : CtypesEnv)

namespace EngineEnv

def engine : EngineEnv → NativeEpochEngine
  | sidecar env => sidecarEngine env
  | ctypes env => ctypesEngine env

/-- what it raises before it submits a call -/
def raises (plan : ResidentEpochPlan) (transfer : KvTransfer) : EngineEnv → Option Raised
  | sidecar env => match sidecarSubmits env plan transfer with
    | .error raised => some raised
    | .ok _ => none
  | ctypes env => match ctypesSubmits env plan transfer with
    | .error raised => some raised
    | .ok _ => none

/-- a sidecar that is closed, and nothing else in the way of the call -/
def Closed (plan : ResidentEpochPlan) (transfer : KvTransfer) : EngineEnv → Prop
  | sidecar env => env.socket = false ∧ match transfer with
    | .plain => True
    | .hostSnapshot snapshot => snapshot.validate = .ok () ∧
      ImportsRows plan snapshot.import_mask snapshot.row_generations ∧ (kvSnapshotFile snapshot).isSome = true ∧
      env.snapshot_write = true ∧ env.unlink = true
    | .deviceIpc transfer => ImportsRows plan transfer.import_mask transfer.row_generations ∧ transfer.wireBytes.isSome = true
  | ctypes _ => False

end EngineEnv

/-- what the captures of a worker read -/
structure CaptureEnv where
  address_range : Int → Option (Int × Int)
  get_export_key : Int → Int → Option String
  exports : Option DeviceKVExportTable
  kv_caches : List (KvTensor × KvTensor)
  device : Int → UInt8
  /-- of the random transfer and snapshot -/
  transfer_id : Int
  snapshot_id : Int

/-- no capture raises a `ResidentEpochExecutionError` -/
def captured {α : Type} : Option α → Except Raised α
  | some a => .ok a
  | none => .error .other

/-- a worker with either engine, cached or to be loaded, and its captures -/
def WorkerEnv.withEngine (env : WorkerEnv) (cached : Option EngineEnv) (loaded : Except Raised EngineEnv)
    (captures : CaptureEnv) (plan : ResidentEpochPlan) : WorkerEnv :=
  { env with
    backend := cached.map EngineEnv.engine
    load_backend := loaded.map EngineEnv.engine
    capture_device_transfer := captured (captureKvDeviceTransfer captures.address_range captures.get_export_key
      captures.exports captures.kv_caches plan captures.transfer_id)
    capture_snapshot := captured (captureKvSnapshot captures.device captures.kv_caches plan captures.snapshot_id) }

/-- the KV a step captures for its call -/
def WorkerEnv.capture (env : WorkerEnv) (plan : ResidentEpochPlan) : Except Raised KvTransfer :=
  if plan.importing = false then .ok .plain
  else
    match env.capture_device_transfer with
    | .ok transfer => .ok (.deviceIpc transfer)
    | .error raised =>
      if env.allow_host_snapshot = false then .error raised else env.capture_snapshot.map .hostSnapshot

/-- the engine of the step's backend -/
def stepEngine (cached : Option EngineEnv) (loaded : Except Raised EngineEnv) : Except Raised EngineEnv :=
  match cached with
  | some engine => .ok engine
  | none => loaded

section Step

variable (env : WorkerEnv) (cached : Option EngineEnv) (loaded : Except Raised EngineEnv) (captures : CaptureEnv)
  (plan : ResidentEpochPlan)

/-- the backend could not be loaded -/
def Unloaded : Prop := ∃ raised, stepEngine cached loaded = .error raised

/-- the step fails with nothing submitted: loading, capturing, or the engine before its call -/
inductive Unsubmitted : Prop
  | loading : Unloaded cached loaded → Unsubmitted
  | capture {engine : EngineEnv} {raised : Raised} : stepEngine cached loaded = .ok engine →
      (env.withEngine cached loaded captures plan).capture plan = .error raised → Unsubmitted
  | call {engine : EngineEnv} {transfer : KvTransfer} {raised : Raised} : stepEngine cached loaded = .ok engine →
      (env.withEngine cached loaded captures plan).capture plan = .ok transfer →
      engine.raises plan transfer = some raised → Unsubmitted

/-- the sidecar was closed, and that is all that keeps the call from being submitted -/
def ClosedStep : Prop := ∃ engine transfer, stepEngine cached loaded = .ok engine ∧
  (env.withEngine cached loaded captures plan).capture plan = .ok transfer ∧ engine.Closed plan transfer

end Step

/-- outputs with one token for each request of the plan -/
structure OneTokenEach (plan : ResidentEpochPlan) (sampled : List (ReqId × List Int)) : Prop where
  ids : sameIds sampled plan.req_ids
  tokens : ∀ request ∈ plan.requests, ((sampled.lookup request.req_id).getD []).length = 1

/-- **The Host replays the step**: `original_execute_model` is called, and what it returns carries a result that is accepted
for one token a request -/
def FallsBack (env : WorkerEnv) (plan : ResidentEpochPlan) (output : ModelRunnerOutput) : Prop :=
  let step := executeModelWithFallback env (some plan)
  step.host = true ∧ ∃ result, step.result = .ok (some { output with result := some result }) ∧
    result.route = .hostFallback ∧ ∀ sampled, OneTokenEach plan sampled → result.validateAgainst plan sampled = .ok ()

/-! ## The result of a replay -/

theorem lookup_const {β : Type} {ids : List ReqId} {id : ReqId} (h : id ∈ ids) (v : β) :
    (ids.map fun id => (id, v)).lookup id = some v := by
  have hkey : id ∈ (ids.map fun id => (id, v)).map Prod.fst := by
    rw [List.map_map]
    exact List.mem_map.2 ⟨id, h, rfl⟩
  obtain ⟨v', hv'⟩ := lookup_exists hkey
  obtain ⟨id', -, hitem⟩ := List.mem_map.1 (mem_of_lookup hv')
  cases hitem
  exact hv'

theorem oneToken_exists (plan : ResidentEpochPlan) : ∃ sampled, OneTokenEach plan sampled := by
  refine ⟨plan.req_ids.map fun id => (id, [0]), fun id => ?_, fun request hr => ?_⟩
  · rw [List.map_map]
    exact iff_of_eq (congrArg (id ∈ ·) (List.map_id plan.req_ids))
  · have hid : request.req_id ∈ plan.req_ids := List.mem_map_of_mem hr
    rw [lookup_const hid]
    rfl

/-- what is attached to the output of a replay -/
theorem replay_result {plan : ResidentEpochPlan} (output : ModelRunnerOutput) :
    ∃ result, attachHostFallback (some output) plan.req_ids = .ok { output with result := some result } ∧
      result.route = .hostFallback ∧ result.version = CONTRACT_VERSION ∧ result.commit_state = .prepared ∧
      result.fallback_safe = true ∧ result.feed_calls = 0 ∧ result.fetch_calls = 0 ∧ result.kv_imported = false ∧
      result.kv_transfer_mode = .none ∧ result.computed_steps = plan.req_ids.map fun id => (id, 1) :=
  ⟨_, rfl, rfl, rfl, rfl, rfl, rfl, rfl, rfl, rfl, rfl⟩

/-- **The result of a replay is accepted** for one token a request, by every plan of at least one step. -/
theorem fallback_accepted_iff {plan : ResidentEpochPlan} (hplan : plan.Valid) (howned : plan.host_replay_safe = true)
    (output : ModelRunnerOutput) :
    ∃ result, attachHostFallback (some output) plan.req_ids = .ok { output with result := some result } ∧
      result.route = .hostFallback ∧
      ((∀ sampled, OneTokenEach plan sampled → result.validateAgainst plan sampled = .ok ()) ↔ 1 ≤ plan.max_steps) := by
  obtain ⟨result, hattach, hroute, hversion, hcommit, hsafe, hfeed, hfetch, hkv, hmode, hsteps⟩ := replay_result output
  have hids : sameIds result.computed_steps plan.req_ids := by
    intro id
    rw [hsteps, List.map_map]
    exact iff_of_eq (congrArg (id ∈ ·) (List.map_id plan.req_ids))
  have hstep (request : ResidentEpochRequest) (hr : request ∈ plan.requests) : result.steps request.req_id = 1 := by
    have hid : request.req_id ∈ plan.req_ids := List.mem_map_of_mem hr
    rw [ResidentEpochResult.steps, hsteps, lookup_const hid]
    rfl
  refine ⟨result, hattach, hroute, fun haccepted => ?_, fun hmax sampled hsampled => ?_⟩
  · obtain ⟨sampled, hsampled⟩ := oneToken_exists plan
    obtain ⟨request, hr⟩ := List.exists_mem_of_length_pos (show 0 < plan.requests.length from hplan.count.1)
    have hle := ((resultValidate_steps (haccepted sampled hsampled)).2 request hr).2.1
    rwa [hstep request hr] at hle
  · unfold ResidentEpochResult.validateAgainst
    simp only [except_bind_ok, refuse_ok, forM_ok_iff, exists_const, ResidentEpochResult.validateRequest,
      ResidentEpochResult.transfer_mode, hroute, hversion, hcommit, hsafe, hfeed, hfetch, hkv, hmode, howned]
    refine ⟨not_not.2 hplan.version.symm, not_not.2 hids, not_not.2 hsampled.ids, by simp, by simp, by simp,
      by simp, by simp, by simp, by simp, by simp, by simp, by simp, by simp, by simp, fun request hr => ?_, by simp⟩
    rw [hstep request hr]
    refine ⟨by omega, not_not.2 ?_, by simp, by simp⟩
    rw [hsampled.tokens request hr]
    rfl

/-! ## Engines -/

section Raised

variable {plan : ResidentEpochPlan} {transfer : KvTransfer} {raised : Raised}

theorem sidecarMessage_raised {env : SidecarEnv} {operation transfer_id : Int} {ipc_metadata : Option (List UInt8)}
    (h : sidecarMessage env plan operation transfer_id ipc_metadata = .error raised) :
    raised.input_preserving = true ↔ env.socket = false := by
  unfold sidecarMessage at h
  by_cases hsocket : env.socket = false
  · rw [if_pos hsocket] at h
    cases h
    exact iff_of_true rfl hsocket
  · rw [if_neg hsocket] at h
    have hother : raised = .other := by
      split_ifs at h
      · cases h
        rfl
      · split at h
        · cases h
        · cases h
          rfl
    rw [hother]
    exact iff_of_false Bool.false_ne_true hsocket

theorem sidecar_raised_iff {env : SidecarEnv} (h : sidecarSubmits env plan transfer = .error raised) :
    raised.input_preserving = true ↔ (EngineEnv.sidecar env).Closed plan transfer := by
  cases transfer with
  | plain =>
    have hmessage : sidecarMessage env plan kExecute 0 none = .error raised := h
    have hclosed : (EngineEnv.sidecar env).Closed plan .plain ↔ env.socket = false := and_iff_left trivial
    rw [hclosed]
    exact sidecarMessage_raised hmessage
  | hostSnapshot snapshot =>
    unfold sidecarSubmits at h
    dsimp only at h
    by_cases hrefused : snapshot.validate ≠ .ok () ∨ ¬ImportsRows plan snapshot.import_mask snapshot.row_generations ∨
        (kvSnapshotFile snapshot).isNone ∨ env.snapshot_write = false
    · rw [if_pos hrefused] at h
      cases h
      refine iff_of_false Bool.false_ne_true ?_
      rintro ⟨-, hvalidate, himports, hfile, hwrite, -⟩
      rcases hrefused with h1 | h2 | h3 | h4
      · exact h1 hvalidate
      · exact h2 himports
      · rw [Option.isNone_iff_eq_none.1 h3] at hfile
        cases hfile
      · rw [hwrite] at h4
        cases h4
    · rw [if_neg hrefused] at h
      simp only [not_or, not_not, Bool.not_eq_true, Option.isNone_eq_false_iff, Bool.not_eq_false] at hrefused
      obtain ⟨hvalidate, himports, hfile, hwrite⟩ := hrefused
      cases hmessage : sidecarMessage env plan kImportExecute snapshot.transfer_id none with
      | ok payload =>
        rw [hmessage] at h
        cases h
      | error raised' =>
        have hraised := sidecarMessage_raised hmessage
        rw [hmessage] at h
        have h : (if env.unlink = false then Raised.other else raised') = raised := Except.error.inj h
        rw [← h]
        by_cases hunlink : env.unlink = false
        · rw [if_pos hunlink]
          refine iff_of_false Bool.false_ne_true ?_
          rintro ⟨-, -, -, -, -, hremoved⟩
          rw [hunlink] at hremoved
          cases hremoved
        · rw [if_neg hunlink, hraised]
          rw [Bool.not_eq_false] at hunlink
          exact ⟨fun hsocket => ⟨hsocket, hvalidate, himports, hfile, hwrite, hunlink⟩, fun h => h.1⟩
  | deviceIpc transfer =>
    unfold sidecarSubmits at h
    dsimp only at h
    split_ifs at h with himports
    · cases hwire : transfer.wireBytes with
      | none =>
        rw [hwire] at h
        cases h
        refine iff_of_false Bool.false_ne_true ?_
        rintro ⟨-, -, hsome⟩
        rw [hwire] at hsome
        cases hsome
      | some metadata =>
        rw [hwire] at h
        refine (sidecarMessage_raised h).trans ⟨fun hsocket => ⟨hsocket, himports, ?_⟩, fun h => h.1⟩
        rw [hwire]
        rfl
    · cases h
      exact iff_of_false Bool.false_ne_true fun h => himports h.2.1

/-- **What an engine raises before it submits** is input-preserving exactly when it is a closed sidecar's. -/
theorem engine_raised_iff {engine : EngineEnv} (h : engine.raises plan transfer = some raised) :
    raised.input_preserving = true ↔ engine.Closed plan transfer := by
  cases engine with
  | sidecar env =>
    cases hsubmits : sidecarSubmits env plan transfer with
    | ok payload => simp [EngineEnv.raises, hsubmits] at h
    | error raised' =>
      simp only [EngineEnv.raises, hsubmits, Option.some.injEq] at h
      subst h
      exact sidecar_raised_iff hsubmits
  | ctypes env =>
    have hother : raised = .other := by
      unfold EngineEnv.raises at h
      dsimp only at h
      cases transfer <;> unfold ctypesSubmits at h <;> dsimp only at h <;> grind
    rw [hother]
    exact iff_of_false Bool.false_ne_true id

/-- nothing is submitted, and the call ends in the exception -/
theorem engine_unsubmitted {engine : EngineEnv} (h : engine.raises plan transfer = some raised) :
    transfer.call engine.engine plan = ⟨.error raised, none⟩ := by
  cases engine with
  | sidecar env =>
    rw [EngineEnv.engine, sidecar_call]
    cases hsubmits : sidecarSubmits env plan transfer with
    | ok payload => simp [EngineEnv.raises, hsubmits] at h
    | error raised' =>
      simp only [EngineEnv.raises, hsubmits, Option.some.injEq] at h
      rw [h]
  | ctypes env =>
    rw [EngineEnv.engine, ctypes_call]
    cases hsubmits : ctypesSubmits env plan transfer with
    | ok args => simp [EngineEnv.raises, hsubmits] at h
    | error raised' =>
      simp only [EngineEnv.raises, hsubmits, Option.some.injEq] at h
      rw [h]

end Raised

/-! ## The step -/

section Replay

variable {env : WorkerEnv} {plan : ResidentEpochPlan} {output : ModelRunnerOutput} {cached : Option EngineEnv}
  {loaded : Except Raised EngineEnv} {captures : CaptureEnv}

/-- a replay by the Host falls back, for a plan of at least one step -/
theorem replay_fallsBack_iff (hplan : plan.Valid) (howned : plan.host_replay_safe = true)
    (houtput : env.original_execute_model = .ok (some output))
    (hstep : executeModelWithFallback env (some plan) = hostReplay env plan none) :
    FallsBack env plan output ↔ 1 ≤ plan.max_steps := by
  obtain ⟨result, hattach, hroute, haccepted⟩ := fallback_accepted_iff hplan howned output
  have hresult : (hostReplay env plan none).result = .ok (some { output with result := some result }) := by
    show env.original_execute_model.bind _ = _
    rw [houtput]
    show (attachHostFallback (some output) plan.req_ids).map some = _
    rw [hattach]
    rfl
  unfold FallsBack
  rw [hstep]
  dsimp only
  rw [hresult]
  constructor
  · rintro ⟨-, result', hsame, -, h⟩
    cases hsame
    exact haccepted.1 h
  · intro h
    exact ⟨rfl, result, rfl, hroute, haccepted.2 h⟩

/-- an exception that ends the step is no replay -/
theorem raised_not_fallsBack {raised : Raised} (hstep : (executeModelWithFallback env (some plan)).result = .error raised) :
    ¬FallsBack env plan output := by
  rintro ⟨-, result, hresult, -⟩
  rw [hstep] at hresult
  cases hresult

/-- what the plugin makes of an exception of its `try` block -/
theorem executeWithBackend_raised {engine : NativeEpochEngine} {raised : Raised}
    (h : runPlan env engine plan = ⟨.error raised, none⟩) (howned : plan.host_replay_safe = true) :
    executeWithBackend env plan engine =
      if raised.input_preserving = true then hostReplay env plan none else ⟨.error raised, none, false⟩ := by
  unfold executeWithBackend
  rw [h, howned]
  dsimp only
  cases raised.input_preserving <;> rfl

/-- the `try` block is the captured call, behind the backend's checks -/
theorem runPlan_raised_call (hplan : plan.Valid) {engine : NativeEpochEngine} {transfer : KvTransfer} {raised : Raised}
    (hcapture : env.capture plan = .ok transfer) (hcall : transfer.call engine plan = ⟨.error raised, none⟩) :
    runPlan env engine plan = ⟨.error (wrapUnproved raised), none⟩ := by
  have hvalidate : ¬plan.validate ≠ .ok () := not_not.2 ((planValidate_ok_iff plan).2 hplan)
  have hbackend (snapshot : Option ResidentKVSnapshot) (device_transfer : Option DeviceKVTransfer)
      (hmode : ¬(snapshot.isSome = true ∧ device_transfer.isSome = true))
      (h : callEngine engine plan snapshot device_transfer = ⟨.error raised, none⟩) :
      backendExecute engine plan snapshot device_transfer = ⟨.error (wrapUnproved raised), none⟩ := by
    unfold backendExecute
    rw [if_neg hmode, if_neg hvalidate, h]
  unfold WorkerEnv.capture at hcapture
  unfold runPlan
  by_cases himport : plan.importing = false
  · rw [if_pos himport] at hcapture ⊢
    cases hcapture
    exact hbackend none none (by decide) hcall
  rw [if_neg himport] at hcapture ⊢
  cases hdevice : env.capture_device_transfer with
  | ok device_transfer =>
    rw [hdevice] at hcapture
    cases hcapture
    exact hbackend none (some device_transfer) (by simp) hcall
  | error raised' =>
    rw [hdevice] at hcapture
    dsimp only at hcapture ⊢
    by_cases hallow : env.allow_host_snapshot = false
    · rw [if_pos hallow] at hcapture
      cases hcapture
    rw [if_neg hallow] at hcapture ⊢
    cases hsnapshot : env.capture_snapshot with
    | error raised'' =>
      rw [hsnapshot] at hcapture
      cases hcapture
    | ok snapshot =>
      rw [hsnapshot] at hcapture
      cases hcapture
      exact hbackend (some snapshot) none (by simp) hcall

/-- a capture that fails ends the `try` block -/
theorem runPlan_uncaptured {engine : NativeEpochEngine} {raised : Raised} (hcapture : env.capture plan = .error raised) :
    runPlan env engine plan = ⟨.error raised, none⟩ := by
  unfold WorkerEnv.capture at hcapture
  unfold runPlan
  by_cases himport : plan.importing = false
  · rw [if_pos himport] at hcapture
    cases hcapture
  rw [if_neg himport] at hcapture ⊢
  cases hdevice : env.capture_device_transfer with
  | ok device_transfer =>
    rw [hdevice] at hcapture
    cases hcapture
  | error raised' =>
    rw [hdevice] at hcapture
    dsimp only at hcapture ⊢
    by_cases hallow : env.allow_host_snapshot = false
    · rw [if_pos hallow] at hcapture ⊢
      cases hcapture
      rfl
    rw [if_neg hallow] at hcapture ⊢
    cases hsnapshot : env.capture_snapshot with
    | error raised'' =>
      rw [hsnapshot] at hcapture
      cases hcapture
      rfl
    | ok snapshot =>
      rw [hsnapshot] at hcapture
      cases hcapture

theorem step_with_engine {engine : EngineEnv} (h : stepEngine cached loaded = .ok engine) :
    executeModelWithFallback (env.withEngine cached loaded captures plan) (some plan) =
      executeWithBackend (env.withEngine cached loaded captures plan) plan engine.engine := by
  cases cached with
  | some engine' =>
    cases h
    rfl
  | none =>
    have hloaded : loaded = .ok engine := h
    rw [hloaded]
    rfl

theorem step_unloaded (h : Unloaded cached loaded) (howned : plan.host_replay_safe = true) :
    executeModelWithFallback (env.withEngine cached loaded captures plan) (some plan) =
      hostReplay (env.withEngine cached loaded captures plan) plan none := by
  obtain ⟨raised, hraised⟩ := h
  cases cached with
  | some engine => cases hraised
  | none =>
    have hloaded : loaded = .error raised := hraised
    rw [hloaded]
    show (if plan.host_replay_safe = false then _ else _) = _
    rw [howned]
    rfl

theorem capture_raises_other {raised : Raised}
    (h : (env.withEngine cached loaded captures plan).capture plan = .error raised) : raised = .other := by
  unfold WorkerEnv.capture WorkerEnv.withEngine at h
  dsimp only at h
  by_cases himport : plan.importing = false
  · rw [if_pos himport] at h
    cases h
  rw [if_neg himport] at h
  cases hdevice : captureKvDeviceTransfer captures.address_range captures.get_export_key captures.exports
      captures.kv_caches plan captures.transfer_id with
  | some transfer =>
    rw [hdevice] at h
    cases h
  | none =>
    rw [hdevice] at h
    dsimp only [captured] at h
    by_cases hallow : env.allow_host_snapshot = false
    · rw [if_pos hallow] at h
      cases h
      rfl
    rw [if_neg hallow] at h
    cases hsnapshot : captureKvSnapshot captures.device captures.kv_caches plan captures.snapshot_id with
    | some snapshot =>
      rw [hsnapshot] at h
      cases h
    | none =>
      rw [hsnapshot] at h
      cases h
      rfl

/-- **When a failure before submission falls back.** Of a Host-owned plan of at least one step: exactly when the backend
could not be loaded, or all that was in the way was a closed sidecar. -/
theorem falls_back_iff (hplan : plan.Valid) (howned : plan.host_replay_safe = true)
    (houtput : env.original_execute_model = .ok (some output)) (h : Unsubmitted env cached loaded captures plan) :
    FallsBack (env.withEngine cached loaded captures plan) plan output ↔
      1 ≤ plan.max_steps ∧ (Unloaded cached loaded ∨ ClosedStep env cached loaded captures plan) := by
  cases h with
  | loading hunloaded =>
    rw [replay_fallsBack_iff hplan howned (by exact houtput) (step_unloaded hunloaded howned)]
    exact (and_iff_left (Or.inl hunloaded)).symm
  | @capture engine raised hengine hcapture =>
    have hstep : (executeModelWithFallback (env.withEngine cached loaded captures plan) (some plan)).result =
        .error raised := by
      rw [step_with_engine hengine, executeWithBackend_raised (runPlan_uncaptured hcapture) howned,
        capture_raises_other hcapture]
      rfl
    refine iff_of_false (raised_not_fallsBack hstep) ?_
    rintro ⟨-, ⟨raised', hload⟩ | ⟨engine', transfer, -, hcaptured, -⟩⟩
    · rw [hengine] at hload
      cases hload
    · rw [hcapture] at hcaptured
      cases hcaptured
  | @call engine transfer raised hengine hcapture hraises =>
    have hrun := runPlan_raised_call hplan hcapture (engine_unsubmitted hraises)
    have hstep := (step_with_engine hengine).trans (executeWithBackend_raised hrun howned)
    have hpreserving := engine_raised_iff hraises
    rw [wrapUnproved_input_preserving] at hstep
    by_cases hclosed : engine.Closed plan transfer
    · rw [if_pos (hpreserving.2 hclosed)] at hstep
      rw [replay_fallsBack_iff hplan howned (by exact houtput) hstep]
      exact (and_iff_left (Or.inr ⟨engine, transfer, hengine, hcapture, hclosed⟩)).symm
    · rw [if_neg fun h => hclosed (hpreserving.1 h)] at hstep
      refine iff_of_false (raised_not_fallsBack (congrArg WorkerStep.result hstep)) ?_
      rintro ⟨-, ⟨raised', hload⟩ | ⟨engine', transfer', hengine', hcaptured, hclosed'⟩⟩
      · rw [hengine] at hload
        cases hload
      · rw [hengine] at hengine'
        rw [hcapture] at hcaptured
        cases hengine'
        cases hcaptured
        exact hclosed hclosed'

end Replay

/-! ## A worker without exports -/

/-- the stock `execute_model` samples one token for the request -/
def stockWorker : WorkerEnv where
  backend := none
  load_backend := .error .other
  capture_device_transfer := .error .other
  allow_host_snapshot := false
  capture_snapshot := .error .other
  original_execute_model := .ok (some ⟨[0], [[7]], none⟩)

/-- caches whose allocation cannot be resolved -/
def noExports : CaptureEnv where
  address_range := fun _ => none
  get_export_key := fun _ _ => none
  exports := none
  kv_caches := []
  device := fun _ => 0
  transfer_id := 1
  snapshot_id := 1

/-- a Host-owned request whose KV is to be imported -/
def importPlan : ResidentEpochPlan where
  version := 3
  graph_batch_size := 4
  max_steps := 1
  logical_capacity := 8
  requests := [⟨0, 1, 5, 11, 3, 4, 9, [6], (2, 3), .host, true⟩]
  active_mask := [0, 1, 0, 0]
  sampling_mode := 0
  graph_variant := 0

theorem importPlan_valid : importPlan.Valid := (planValidate_ok_iff importPlan).1 (by decide)

/-- the backend cannot be loaded: the Host replays -/
theorem unloaded_falls_back :
    FallsBack (stockWorker.withEngine none (.error .other) noExports importPlan) importPlan ⟨[0], [[7]], none⟩ :=
  (falls_back_iff importPlan_valid (by decide) rfl (.loading ⟨.other, rfl⟩)).2 ⟨by decide, Or.inl ⟨.other, rfl⟩⟩

def plainCtypes : CtypesEnv := ⟨.plain, some .plain, 1, true, true⟩

/-- **A failed capture is not replayed.** The KV of a Host-owned request cannot be exported, nothing was submitted, and the
step ends in an exception. -/
theorem capture_not_replayed :
    Unsubmitted stockWorker (some (.ctypes plainCtypes)) (.error .other) noExports importPlan ∧
    (executeModelWithFallback (stockWorker.withEngine (some (.ctypes plainCtypes)) (.error .other) noExports importPlan)
      (some importPlan)).host = false ∧
    ∀ output, ¬FallsBack (stockWorker.withEngine (some (.ctypes plainCtypes)) (.error .other) noExports importPlan)
      importPlan output :=
  ⟨.capture rfl rfl, rfl, fun _ => raised_not_fallsBack rfl⟩

end Cruise.Worker
