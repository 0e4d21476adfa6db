/-
One exchange, from the plugin down to Feed and back: Host replay happens only if the device was never fed.

Each layer is shown to pass the commit state on honestly: whatever it says is PREPARED was never fed.
- `bridge_commit`, `server_commit`: PREPARED exactly when Feed was not called, COMMITTED only with status 0.
- `Honest`, `sidecar_honest`: what the client reports as PREPARED, as an output or an exception, was never fed.
- `host_replay_only_if_never_fed`: the three layers together, for every request, plan, fault and environment.
-/
import Cruise.Worker.Backend

namespace Cruise.Worker

open Cruise.Lib Cruise.Controller Cruise.Native

/-! ## Bridge and server -/

theorem copyResultRow_commit {max_steps : Int} {history control : ℕ → Int} {state : Int} (l : List Row)
    {out out' : Outputs} (h : out.commit_state = state)
    (hf : l.foldlM (copyResultRow max_steps history control) out = .error out') : out'.commit_state = state := by
  refine foldlM_error _ (fun s => s.commit_state = state) (fun e => e.commit_state = state) ?_ ?_ l h hf
  · intro s r s' hs hr
    unfold copyResultRow at hr
    simp only at hr
    split_ifs at hr
    cases hr
    exact hs
  · intro s r e hs hr
    unfold copyResultRow at hr
    simp only at hr
    split_ifs at hr
    cases hr
    exact hs

/-- EXECUTING, or COMMITTED and status 0 is returned -/
def CommitOutcome (outcome : Int × Outputs) : Prop :=
  outcome.2.commit_state = CommitState.executing.code ∨
    (outcome.2.commit_state = CommitState.committed.code ∧ outcome.1 = 0)

theorem copyResults_commit (env : BridgeEnv) (source : ImportSource) (max_steps : Int)
    (history result_control : ℕ → Int) (out : Outputs) (h : out.commit_state = CommitState.executing.code) :
    CommitOutcome (copyResults env source max_steps history result_control out) := by
  unfold copyResults
  simp only
  split
  · exact Or.inl h
  · split
    · rename_i hf
      exact Or.inl (copyResultRow_commit rows (by exact h) hf)
    · exact Or.inr ⟨rfl, rfl⟩

theorem collectOutputs_commit (env : BridgeEnv) (source : ImportSource) (max_steps : Int) (outputs : List GeTensor)
    (out : Outputs) (h : out.commit_state = CommitState.executing.code) :
    CommitOutcome (collectOutputs env source max_steps outputs out) := by
  unfold collectOutputs
  split
  · split
    · exact copyResults_commit env source max_steps _ _ out h
    · exact Or.inl h
  · exact Or.inl h

/-- once Feed is called the commit state is EXECUTING or COMMITTED -/
theorem runEpoch_commit (env : BridgeEnv) (source : ImportSource) (max_steps : Int) (call : FeedCall) (out : Outputs) :
    CommitOutcome (runEpoch env source max_steps call out) := by
  unfold runEpoch
  by_cases hfeed : env.feed call.inputs ≠ 0
  · rw [if_pos hfeed]
    exact Or.inl rfl
  rw [if_neg hfeed]
  simp only
  by_cases hfetch : (env.fetch call.inputs).1 ≠ 0
  · rw [if_pos hfetch]
    exact Or.inl rfl
  rw [if_neg hfetch]
  exact collectOutputs_commit env source max_steps _ _ rfl

/-- what a commit state may say of a request that returned `status` and may have been fed -/
def CommitProof (commit_state status : Int) (fed : Option FeedCall) : Prop :=
  (commit_state = CommitState.prepared.code ∧ fed = none) ∨
    (commit_state = CommitState.executing.code ∧ fed ≠ none) ∨
    (commit_state = CommitState.committed.code ∧ fed ≠ none ∧ status = 0)

theorem CommitProof.prepared_iff {commit_state status : Int} {fed : Option FeedCall}
    (h : CommitProof commit_state status fed) : commit_state = CommitState.prepared.code ↔ fed = none := by
  rcases h with ⟨rfl, hf⟩ | ⟨rfl, hf⟩ | ⟨rfl, hf, -⟩
  · exact iff_of_true rfl hf
  · exact iff_of_false (by decide) hf
  · exact iff_of_false (by decide) hf

theorem CommitProof.committed {commit_state status : Int} {fed : Option FeedCall}
    (h : CommitProof commit_state status fed) (hc : commit_state = CommitState.committed.code) : status = 0 := by
  rcases h with ⟨rfl, -⟩ | ⟨rfl, -⟩ | ⟨-, -, hs⟩
  · exact absurd hc (by decide)
  · exact absurd hc (by decide)
  · exact hs

/-- a commit state is one of the three words, so the client reads it as it was sent -/
theorem CommitProof.wrap {commit_state status : Int} {fed : Option FeedCall} (h : CommitProof commit_state status fed) :
    Field.wrap .i commit_state = commit_state := by
  rcases h with ⟨rfl, -⟩ | ⟨rfl, -⟩ | ⟨rfl, -⟩ <;> exact wrap_eq .i (by decide)

theorem clearOutputs_commit (source : ImportSource) (out : Outputs) :
    (clearOutputs source out).commit_state = out.commit_state := rfl

/-- **The bridge.** Its commit state is a proof. -/
theorem bridge_commit (env : BridgeEnv) (engine : Option Engine) (args : Args) (out : Outputs)
    (h : args.has_commit_state = true) :
    CommitProof (residentEpochExecute env engine args out).outputs.commit_state
      (residentEpochExecute env engine args out).ret (residentEpochExecute env engine args out).fed := by
  unfold residentEpochExecute
  rw [if_neg (by rw [h]; decide)]
  cases engine with
  | none => exact Or.inl ⟨rfl, rfl⟩
  | some eng =>
    cases hrin : checkArgs args with
    | none => exact Or.inl ⟨rfl, rfl⟩
    | some rin =>
      simp only
      rcases hload : loadImport env eng args rin with ⟨eng', status | source⟩
      · exact Or.inl ⟨rfl, rfl⟩
      · simp only
        rcases hw : rowWrites source.importing rin args.max_steps.toInt args.request_count.toInt with status | writes
        · exact Or.inl ⟨clearOutputs_commit source _, rfl⟩
        · simp only
          rcases runEpoch_commit env source args.max_steps.toInt
            (feedCall eng'.tiling source rin args.max_steps.toInt writes)
            (clearOutputs source { out with commit_state := CommitState.prepared.code }) with he | ⟨hc, hret⟩
          · exact Or.inr (Or.inl ⟨he, Option.some_ne_none _⟩)
          · exact Or.inr (Or.inr ⟨hc, Option.some_ne_none _, hret⟩)

/-- **The server.** The commit state of every response it sends is a proof. -/
theorem server_commit (env : BridgeEnv) (path : String) (engine : Option Engine) (incoming : List UInt8)
    (response : Response) (h : (serveRequest env path engine incoming).response = some response) :
    CommitProof response.outputs.commit_state response.transport_status
      (serveRequest env path engine incoming).fed := by
  unfold serveRequest at h ⊢
  by_cases h1 : incoming.length < CRUISE_SIDECAR_REQUEST_BYTES
  · rw [if_pos h1] at h
    cases h
  rw [if_neg h1] at h ⊢
  simp only at h ⊢
  by_cases h2 : (parseRequest incoming).magic ≠ kRequestMagic ∨ (parseRequest incoming).version ≠ kProtocolVersion
  · rw [if_pos h2] at h ⊢
    cases h
    exact Or.inl ⟨rfl, rfl⟩
  rw [if_neg h2] at h ⊢
  by_cases h3 : (parseRequest incoming).operation = kShutdown
  · rw [if_pos h3] at h ⊢
    cases h
    exact Or.inl ⟨rfl, rfl⟩
  rw [if_neg h3] at h ⊢
  by_cases h4 : (parseRequest incoming).operation ∉ [kExecute, kWarmUp, kImportExecute, kDeviceIpcExecute]
  · rw [if_pos h4] at h ⊢
    cases h
    exact Or.inl ⟨rfl, rfl⟩
  rw [if_neg h4] at h ⊢
  by_cases h5 : (parseRequest incoming).operation = kDeviceIpcExecute ∧
      (incoming.drop CRUISE_SIDECAR_REQUEST_BYTES).length < CRUISE_RESIDENT_IPC_METADATA_BYTES
  · rw [if_pos h5] at h
    cases h
  rw [if_neg h5] at h ⊢
  cases h
  exact bridge_commit env engine _ _ rfl

/-! ## Client -/

/-- what an attempt reports as PREPARED was never fed -/
structure Honest (attempt : Attempt NativeEpochOutput) : Prop where
  raised : ∀ raised, attempt.result = .error raised → raised.input_preserving = true → attempt.fed = none
  output : ∀ output, attempt.result = .ok output → output.commit_state = .prepared → attempt.fed = none

theorem Honest.of_unfed {result : Except Raised NativeEpochOutput} : Honest ⟨result, none⟩ :=
  ⟨fun _ _ _ => rfl, fun _ _ _ => rfl⟩

/-- the response behind unpacked values -/
theorem exchange_ok {env : SidecarEnv} {payload : List UInt8} {values : List Int}
    (h : (exchange env payload).result = .ok values) :
    ∃ response, (serveRequest env.bridge env.transfer_path env.engine payload).response = some response ∧
      values = List.zipWith Field.wrap responseFields response.words ∧
      (exchange env payload).fed = (serveRequest env.bridge env.transfer_path env.engine payload).fed := by
  unfold exchange at h ⊢
  cases hsend : env.send_fault with
  | some count => simp only [hsend] at h; cases h
  | none =>
    simp only [hsend] at h ⊢
    cases hrecv : env.recv_fault with
    | true => simp only [hrecv] at h; cases h
    | false =>
      unfold servePass at h ⊢
      cases hcrash : env.faults.crash with
      | some after => simp only [hcrash, hrecv] at h; cases h
      | none =>
        cases hwrite : env.faults.write with
        | false => simp [hcrash, hrecv, hwrite] at h
        | true =>
          simp only [hcrash, hrecv, hwrite, if_true] at h ⊢
          cases hresp : (serveRequest env.bridge env.transfer_path env.engine payload).response with
          | none => simp only [hresp, Option.map_none] at h; cases h
          | some response =>
            simp only [hresp, Option.map_some] at h ⊢
            by_cases hm : (unpack responseFields response.bytes).getD 0 0 ≠ kResponseMagic
            · rw [if_pos hm] at h
              cases h
            · rw [if_neg hm] at h ⊢
              cases h
              refine ⟨response, rfl, ?_, rfl⟩
              have := response_values response []
              rwa [List.append_nil] at this

theorem exchange_raised {env : SidecarEnv} {payload : List UInt8} {raised : Raised}
    (h : (exchange env payload).result = .error raised) : raised.input_preserving = false := by
  unfold exchange at h
  simp only at h
  split at h
  · split at h
    · cases h
      rfl
    · cases h
  · cases h
    rfl

/-- the words the client looks at -/
theorem response_word (response : Response) {values : List Int}
    (h : values = List.zipWith Field.wrap responseFields response.words) :
    values.getD 1 0 = Field.wrap .i response.transport_status ∧
      values.getD 6 0 = Field.wrap .i response.outputs.commit_state := by
  rw [h, responseFields, Response.words]
  constructor <;>
    simp only [List.cons_append, List.zipWith_cons_cons, List.replicate_succ, List.getD_cons_succ, List.getD_cons_zero]

theorem commitState_prepared {value : Int} (h : commitState value = .ok .prepared) : value = 0 := by
  unfold commitState at h
  split_ifs at h with h0
  · exact h0
  all_goals cases h

/-- an answered request whose response reads PREPARED was never fed -/
theorem exchange_prepared {env : SidecarEnv} {payload : List UInt8} {values : List Int}
    (h : (exchange env payload).result = .ok values) (hc : commitState (values.getD 6 0) = .ok .prepared) :
    (exchange env payload).fed = none := by
  obtain ⟨response, hresp, hvalues, hfed⟩ := exchange_ok h
  have hproof := server_commit _ _ _ _ response hresp
  rw [hfed]
  refine hproof.prepared_iff.1 ?_
  rw [← hproof.wrap, ← (response_word response hvalues).2]
  exact commitState_prepared hc

theorem sliceTokens_raised {plan : ResidentEpochPlan} {executed flat_tokens : List Int} {commit_state : CommitState}
    (l : List ResidentEpochRequest) {raised : Raised}
    (h : sliceTokens plan executed flat_tokens commit_state l = .error raised) : raised = .epoch commit_state none := by
  induction l with
  | nil => cases h
  | cons request rest ih =>
    unfold sliceTokens at h
    simp only [except_bind_error, refuse_error] at h
    rcases h with ⟨-, h⟩ | ⟨_, -, h | ⟨_, -, h⟩⟩
    · exact h
    · exact ih h
    · cases h

/-- a decoded response says PREPARED only if the response itself does -/
theorem decodeResponse_raised {plan : ResidentEpochPlan} {operation : Int} {values : List Int} {raised : Raised}
    (h : decodeResponse plan operation values = .error raised) (hp : raised.input_preserving = true) :
    commitState (values.getD 6 0) = .ok .prepared := by
  unfold decodeResponse at h
  simp only [except_bind_error, refuse_error] at h
  rcases h with h | ⟨commit_state, hc, h⟩
  · unfold commitState at h
    split_ifs at h
    cases h
    cases hp
  · rw [hc]
    have hraised : ∃ status, raised = .epoch commit_state status := by
      rcases h with ⟨-, h⟩ | ⟨_, -, h | ⟨_, -, h⟩⟩
      · exact ⟨_, h⟩
      · exact ⟨_, sliceTokens_raised _ h⟩
      · cases h
    obtain ⟨status, rfl⟩ := hraised
    rw [of_decide_eq_true hp]

theorem decodeResponse_output {plan : ResidentEpochPlan} {operation : Int} {values : List Int}
    {output : NativeEpochOutput} (h : decodeResponse plan operation values = .ok output) :
    commitState (values.getD 6 0) = .ok output.commit_state := by
  unfold decodeResponse at h
  simp only [except_bind_ok, refuse_ok] at h
  obtain ⟨commit_state, hc, _, -, token_ids, -, h⟩ := h
  cases h
  exact hc

theorem sidecarExecute_honest (env : SidecarEnv) (plan : ResidentEpochPlan) (operation transfer_id : Int)
    (ipc_metadata : Option (List UInt8)) : Honest (sidecarExecute env plan operation transfer_id ipc_metadata) := by
  unfold sidecarExecute
  by_cases hsocket : env.socket = false
  · rw [if_pos hsocket]
    exact Honest.of_unfed
  rw [if_neg hsocket]
  by_cases hbatch : plan.graph_batch_size ≠ GRAPH_BATCH_SIZE
  · rw [if_pos hbatch]
    exact Honest.of_unfed
  rw [if_neg hbatch]
  cases structPack requestFields (requestWords plan operation transfer_id) with
  | none => exact Honest.of_unfed
  | some payload =>
    cases ipcPayload operation ipc_metadata with
    | error raised => exact Honest.of_unfed
    | ok metadata =>
      simp only
      constructor
      · intro raised h hp
        rcases hreply : (exchange env (payload ++ metadata)).result with raised' | values
        · rw [Attempt.andThen_error hreply] at h
          cases h
          exact absurd hp (by rw [exchange_raised hreply]; decide)
        · rw [Attempt.andThen_ok hreply] at h
          exact exchange_prepared hreply (decodeResponse_raised h hp)
      · intro output h hc
        rcases hreply : (exchange env (payload ++ metadata)).result with raised' | values
        · rw [Attempt.andThen_error hreply] at h
          cases h
        · rw [Attempt.andThen_ok hreply] at h
          refine exchange_prepared hreply ?_
          rw [decodeResponse_output h, hc]

/-- an honest engine is honest in each of its methods -/
structure HonestEngine (engine : NativeEpochEngine) : Prop where
  execute : ∀ plan, Honest (engine.execute plan)
  execute_with_import : ∀ method ∈ engine.execute_with_import, ∀ plan snapshot, Honest (method plan snapshot)
  execute_with_device_transfer :
    ∀ method ∈ engine.execute_with_device_transfer, ∀ plan transfer, Honest (method plan transfer)

/-- **The client.** -/
theorem sidecar_honest (env : SidecarEnv) : HonestEngine (sidecarEngine env) where
  execute := fun plan => sidecarExecute_honest env plan kExecute 0 none
  execute_with_import := by
    intro method hm plan snapshot
    cases hm
    unfold sidecarExecuteWithImport
    split_ifs
    · exact Honest.of_unfed
    · exact Honest.of_unfed
    · -- what the `finally` clause raises proves nothing
      constructor
      · intro raised h hp
        cases h
        cases hp
      · intro output h
        cases h
    · exact sidecarExecute_honest env plan kImportExecute snapshot.transfer_id none
  execute_with_device_transfer := by
    intro method hm plan transfer
    cases hm
    unfold sidecarExecuteWithDeviceTransfer
    split_ifs
    · exact Honest.of_unfed
    · cases transfer.wireBytes with
      | none => exact Honest.of_unfed
      | some metadata => exact sidecarExecute_honest env plan kDeviceIpcExecute transfer.transfer_id (some metadata)

/-! ## Backend and plugin -/

theorem callEngine_honest {engine : NativeEpochEngine} (h : HonestEngine engine) (plan : ResidentEpochPlan)
    (snapshot : Option ResidentKVSnapshot) (device_transfer : Option DeviceKVTransfer) :
    Honest (callEngine engine plan snapshot device_transfer) := by
  unfold callEngine
  cases device_transfer with
  | some transfer =>
    cases hm : engine.execute_with_device_transfer with
    | none => exact Honest.of_unfed
    | some method => exact h.execute_with_device_transfer method hm plan transfer
  | none =>
    cases snapshot with
    | none => exact h.execute plan
    | some snapshot =>
      cases hm : engine.execute_with_import with
      | none => exact Honest.of_unfed
      | some method => exact h.execute_with_import method hm plan snapshot

theorem wrapUnproved_input_preserving (raised : Raised) :
    (wrapUnproved raised).input_preserving = raised.input_preserving := by
  cases raised <;> rfl

/-- what the backend raises about an output carries the output's commit state, or COMMITTED -/
theorem checkOutput_raised {plan : ResidentEpochPlan} {snapshot : Option ResidentKVSnapshot}
    {device_transfer : Option DeviceKVTransfer} {native_output : NativeEpochOutput} {raised : Raised}
    (h : checkOutput plan snapshot device_transfer native_output = .error raised)
    (hp : raised.input_preserving = true) : native_output.commit_state = .prepared := by
  unfold checkOutput at h
  simp only [except_bind_error, refuse_error] at h
  rcases h with ⟨-, rfl⟩ | ⟨_, -, ⟨-, rfl⟩ | ⟨_, -, ⟨-, rfl⟩ | ⟨_, -, ⟨-, rfl⟩ | ⟨_, -, ⟨-, rfl⟩ | ⟨_, -, ⟨-, rfl⟩ |
    ⟨_, -, h⟩⟩⟩⟩⟩⟩
  · exact of_decide_eq_true hp
  · exact of_decide_eq_true hp
  all_goals first | cases h | cases hp

/-- an input-preserving exception of the backend is about a device that was not fed -/
theorem backendExecute_raised {engine : NativeEpochEngine} (h : HonestEngine engine) {plan : ResidentEpochPlan}
    {snapshot : Option ResidentKVSnapshot} {device_transfer : Option DeviceKVTransfer} {raised : Raised}
    (hr : (backendExecute engine plan snapshot device_transfer).result = .error raised)
    (hp : raised.input_preserving = true) : (backendExecute engine plan snapshot device_transfer).fed = none := by
  unfold backendExecute at hr ⊢
  by_cases hboth : snapshot.isSome ∧ device_transfer.isSome
  · rw [if_pos hboth]
  rw [if_neg hboth] at hr ⊢
  by_cases hplan : plan.validate ≠ .ok ()
  · rw [if_pos hplan]
  rw [if_neg hplan] at hr ⊢
  have hcall := callEngine_honest h plan snapshot device_transfer
  cases hattempt : (callEngine engine plan snapshot device_transfer).result with
  | error raised' =>
    simp only [hattempt] at hr ⊢
    cases hr
    exact hcall.raised raised' hattempt ((wrapUnproved_input_preserving raised').symm.trans hp)
  | ok output =>
    simp only [hattempt] at hr ⊢
    exact hcall.output output hattempt (checkOutput_raised hr hp)

theorem runPlan_raised (env : WorkerEnv) {engine : NativeEpochEngine} (h : HonestEngine engine)
    {plan : ResidentEpochPlan} {raised : Raised} (hr : (runPlan env engine plan).result = .error raised)
    (hp : raised.input_preserving = true) : (runPlan env engine plan).fed = none := by
  unfold runPlan at hr ⊢
  by_cases himport : plan.importing = false
  · rw [if_pos himport] at hr ⊢
    exact backendExecute_raised h hr hp
  rw [if_neg himport] at hr ⊢
  cases hdevice : env.capture_device_transfer with
  | ok transfer =>
    simp only [hdevice] at hr ⊢
    exact backendExecute_raised h hr hp
  | error raised' =>
    simp only [hdevice] at hr ⊢
    by_cases hallow : env.allow_host_snapshot = false
    · rw [if_pos hallow]
    rw [if_neg hallow] at hr ⊢
    cases hsnapshot : env.capture_snapshot with
    | error raised'' => rfl
    | ok snapshot =>
      simp only [hsnapshot] at hr ⊢
      exact backendExecute_raised h hr hp

/-- a replay proves that the device was not fed and that the Host owns every request -/
theorem replay_safe (env : WorkerEnv) (hcached : ∀ engine ∈ env.backend, HonestEngine engine)
    (hloaded : ∀ engine, env.load_backend = .ok engine → HonestEngine engine) (plan : ResidentEpochPlan)
    (h : (executeModelWithFallback env (some plan)).host = true) :
    (executeModelWithFallback env (some plan)).fed = none ∧ plan.host_replay_safe = true := by
  have hrun (engine : NativeEpochEngine) (hengine : HonestEngine engine)
      (h : (executeWithBackend env plan engine).host = true) :
      (executeWithBackend env plan engine).fed = none ∧ plan.host_replay_safe = true := by
    unfold executeWithBackend at h ⊢
    cases hresult : (runPlan env engine plan).result with
    | ok output =>
      simp only [hresult] at h
      cases h
    | error raised =>
      simp only [hresult] at h ⊢
      by_cases hrefuse : raised.input_preserving = false ∨ plan.host_replay_safe = false
      · rw [if_pos hrefuse] at h
        cases h
      · rw [if_neg hrefuse]
        obtain ⟨hpreserving, hsafe⟩ := not_or.1 hrefuse
        exact ⟨runPlan_raised env hengine hresult (by simpa using hpreserving), by simpa using hsafe⟩
  unfold executeModelWithFallback at h ⊢
  cases hbackend : env.backend with
  | some engine =>
    simp only [hbackend] at h ⊢
    exact hrun engine (hcached engine hbackend) h
  | none =>
    simp only [hbackend] at h ⊢
    cases hload : env.load_backend with
    | ok engine =>
      simp only [hload] at h ⊢
      exact hrun engine (hloaded engine hload) h
    | error raised =>
      simp only [hload] at h ⊢
      by_cases hsafe : plan.host_replay_safe = false
      · rw [if_pos hsafe] at h
        cases h
      · rw [if_neg hsafe]
        exact ⟨rfl, by simpa using hsafe⟩

/-- a worker whose backends, cached or to be loaded, are sidecars -/
def WorkerEnv.withSidecar (env : WorkerEnv) (cached : Option SidecarEnv) (loaded : Except Raised SidecarEnv) :
    WorkerEnv :=
  { env with backend := cached.map sidecarEngine, load_backend := loaded.map sidecarEngine }

/-- **Host replay happens only if the device was never fed.** -/
theorem host_replay_only_if_never_fed :
    (∀ (env : BridgeEnv) (path : String) (engine : Option Engine) (incoming : List UInt8) (response : Response),
      (serveRequest env path engine incoming).response = some response →
        (response.outputs.commit_state = CommitState.prepared.code ↔
          (serveRequest env path engine incoming).fed = none) ∧
        (response.outputs.commit_state = CommitState.committed.code → response.transport_status = 0)) ∧
    (∀ (env : WorkerEnv) (sidecar : SidecarEnv) (plan : ResidentEpochPlan) (raised : Raised),
      (runPlan env (sidecarEngine sidecar) plan).result = .error raised → raised.input_preserving = true →
        (runPlan env (sidecarEngine sidecar) plan).fed = none) ∧
    ∀ (env : WorkerEnv) (cached : Option SidecarEnv) (loaded : Except Raised SidecarEnv) (plan : ResidentEpochPlan),
      (executeModelWithFallback (env.withSidecar cached loaded) (some plan)).host = true →
        (executeModelWithFallback (env.withSidecar cached loaded) (some plan)).fed = none ∧
          ∀ request ∈ plan.requests, request.state_owner = .host := by
  refine ⟨?_, ?_, ?_⟩
  · intro env path engine incoming response h
    have hproof := server_commit env path engine incoming response h
    exact ⟨hproof.prepared_iff, hproof.committed⟩
  · intro env sidecar plan raised hr hp
    exact runPlan_raised env (sidecar_honest sidecar) hr hp
  · intro env cached loaded plan h
    have hcached : ∀ engine ∈ (env.withSidecar cached loaded).backend, HonestEngine engine := by
      intro engine hengine
      obtain ⟨sidecar, -, rfl⟩ := Option.map_eq_some_iff.1 hengine
      exact sidecar_honest sidecar
    have hloaded : ∀ engine, (env.withSidecar cached loaded).load_backend = .ok engine → HonestEngine engine := by
      intro engine hengine
      cases loaded with
      | error raised => cases hengine
      | ok sidecar =>
        cases hengine
        exact sidecar_honest sidecar
    obtain ⟨hfed, hsafe⟩ := replay_safe (env.withSidecar cached loaded) hcached hloaded plan h
    exact ⟨hfed, fun request hrequest => of_decide_eq_true (List.all_eq_true.1 hsafe request hrequest)⟩

end Cruise.Worker
