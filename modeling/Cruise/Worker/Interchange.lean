/-
Whether the in-process engine can stand in for the sidecar.

- `interchangeable_iff`: over everything the native call can do, it can exactly where `Marshals` holds.
- `mismatch_not_interchangeable`: a snapshot of other rows than the plan imports runs in one engine and raises in the other.
-/
import Cruise.Worker.Engines

namespace Cruise.Worker

open Cruise.Lib Cruise.Controller Cruise.Native

/-! ## Interchangeable engines -/

/-- the same rows, transfer id and metadata, and a transfer file in both or in none -/
def SameCall (args args' : Args) : Prop :=
  { args with transfer_path := none } = { args' with transfer_path := none } ∧
    args.transfer_path.isSome = args'.transfer_path.isSome

/-- **Interchangeable on a host**: the same call and the same output, or an exception in both, PREPARED in both or in
neither -/
def Interchangeable (host : EngineHost) (plan : ResidentEpochPlan) (transfer : KvTransfer) : Prop :=
  let by_sidecar := (transfer.call (sidecarEngine host.sidecar) plan).result
  let by_ctypes := (transfer.call (ctypesEngine host.ctypes) plan).result
  (∃ args args' output, host.sidecarCalls plan transfer = some args ∧ host.ctypesCalls plan transfer = some args' ∧
    SameCall args args' ∧ by_sidecar = .ok output ∧ by_ctypes = .ok output) ∨
  ∃ raised raised', by_sidecar = .error raised ∧ by_ctypes = .error raised' ∧
    raised.input_preserving = raised'.input_preserving

/-- the bridge takes the rows of a plain call -/
def TakesRows (args : Args) : Prop :=
  ∃ rin writes, checkArgs args = some rin ∧ rowWrites false rin args.max_steps.toInt args.request_count.toInt = .ok writes

/-- no answer satisfies a plain call of fewer than zero steps, though its narrowed count may reach the device -/
def KvTransfer.Hopeless (plan : ResidentEpochPlan) : KvTransfer → Prop
  | .plain => plan.max_steps < 0 ∧ TakesRows (ctypesArgs plan none 0 none)
  | _ => False

/-- **Where the engines are interchangeable**: the sidecar client's checks pass, or neither engine can pack the transfer, or the
call fails after Feed in both -/
def Marshals (plan : ResidentEpochPlan) (transfer : KvTransfer) : Prop :=
  transfer.Marshalled plan ∨ ¬transfer.Packed ∨ transfer.Hopeless plan

/-! ## Calls of `ctypes` alone -/

/-- a call that is not fed has failed, and says PREPARED -/
theorem unfed_refused {env : BridgeEnv} {engine : Option Engine} {args : Args} (h : args.has_commit_state = true)
    {out : Outputs} (hfed : (residentEpochExecute env engine args out).fed = none) :
    Field.wrap .i (residentEpochExecute env engine args out).ret ≠ 0 ∧
      (residentEpochExecute env engine args out).outputs.commit_state = CommitState.prepared.code := by
  refine ⟨?_, (bridge_commit env engine args out h).prepared_iff.2 hfed⟩
  have hguard : ¬args.has_commit_state = false := by
    rw [h]
    decide
  have hten : Field.wrap .i 10 ≠ 0 := by decide +kernel
  have heleven : Field.wrap .i 11 ≠ 0 := by decide +kernel
  have htwelve : Field.wrap .i 12 ≠ 0 := by decide +kernel
  revert hfed
  unfold residentEpochExecute
  rw [if_neg hguard]
  cases engine with
  | none => exact fun _ => hten
  | some eng =>
    cases checkArgs args with
    | none => exact fun _ => hten
    | some rin =>
      dsimp only
      cases hload : loadImport env eng args rin with
      | mk eng' source =>
        cases source with
        | error status => exact fun _ => loadImport_refused hload
        | ok source =>
          dsimp only
          unfold rowWrites
          split_ifs
          · exact fun _ => heleven
          · exact fun _ => htwelve
          · intro hfed
            cases hfed

section Alone

variable {plan : ResidentEpochPlan} {host : EngineHost} {transfer : KvTransfer}

theorem finish_removed (transfer : KvTransfer) (attempt : Attempt NativeEpochOutput) :
    transfer.finish true attempt = attempt := by
  cases transfer <;> rfl

/-- a call of `ctypes` on a host that removes its file -/
theorem ctypes_result {args : Args} (hsubmits : ctypesSubmits host.ctypes plan transfer = .ok args)
    (hunlink : host.unlink = true) :
    let outcome := residentEpochExecute host.bridge (some host.engine) args ctypesOutputs
    (transfer.call (ctypesEngine host.ctypes) plan).result =
      ctypesOutput plan (args.transfer_path.isSome || args.ipc_metadata.isSome) (Field.wrap .i outcome.ret) outcome.outputs := by
  have hunlink : host.ctypes.unlink = true := hunlink
  rw [ctypes_call, hsubmits]
  dsimp only
  rw [hunlink, finish_removed]
  rfl

/-- what `ctypes` makes of a call that was not fed -/
theorem unfed_raises {args : Args} (hsubmits : ctypesSubmits host.ctypes plan transfer = .ok args)
    (hargs : args.has_commit_state = true) (hunlink : host.unlink = true)
    (hfed : (residentEpochExecute host.bridge (some host.engine) args ctypesOutputs).fed = none) :
    ∃ raised, (transfer.call (ctypesEngine host.ctypes) plan).result = .error raised ∧ raised.input_preserving = true := by
  obtain ⟨hret, hcommit⟩ := unfed_refused hargs hfed
  have hword : Field.wrap .i CommitState.prepared.code = 0 := by decide +kernel
  refine ⟨.epoch .prepared (some (Field.wrap .i
    (residentEpochExecute host.bridge (some host.engine) args ctypesOutputs).ret)), ?_, rfl⟩
  rw [ctypes_result hsubmits hunlink, ctypesOutput_failed _ hret, hcommit, hword]
  rfl

theorem readTokens_idle {executed : List Int} (flat_tokens : List Int) (commit_state : CommitState) (h : 0 ≤ plan.max_steps)
    (l : List ResidentEpochRequest) (hidle : ∀ request ∈ l, executed.getD request.row.toNat 0 = 0) :
    readTokens plan executed flat_tokens commit_state l = .ok (l.map fun request => (request.req_id, [])) := by
  induction l with
  | nil => rfl
  | cons request rest ih =>
    have hzero := hidle request List.mem_cons_self
    have hcount : refuse (executed.getD request.row.toNat 0 < 0 ∨ executed.getD request.row.toNat 0 > plan.max_steps)
        (Raised.epoch commit_state none) = .ok () := by
      rw [refuse_ok, hzero]
      omega
    unfold readTokens
    dsimp only
    rw [hcount, ih fun other hother => hidle other (List.mem_cons_of_mem _ hother), hzero]
    rfl

theorem readTokens_hopeless (executed flat_tokens : List Int) (commit_state : CommitState) (h : plan.max_steps < 0)
    {l : List ResidentEpochRequest} (hl : 0 < l.length) :
    readTokens plan executed flat_tokens commit_state l = .error (.epoch commit_state none) := by
  cases l with
  | nil => cases hl
  | cons request rest =>
    have hcount : refuse (executed.getD request.row.toNat 0 < 0 ∨ executed.getD request.row.toNat 0 > plan.max_steps)
        (Raised.epoch commit_state none) = .error (.epoch commit_state none) := by
      rw [refuse_error]
      exact ⟨by omega, rfl⟩
    unfold readTokens
    dsimp only
    rw [hcount]
    rfl

/-- a plain call whose rows the bridge takes is fed -/
theorem taken_fed {args : Args} (h : TakesRows args) (hargs : args.has_commit_state = true)
    (hplain : args.transfer_path = none ∧ args.ipc_metadata = none) (env : BridgeEnv) (eng : Engine) (out : Outputs) :
    ∃ call start, residentEpochExecute env (some eng) args out =
      ⟨(runEpoch env .none args.max_steps.toInt call start).1, (runEpoch env .none args.max_steps.toInt call start).2,
        some eng, some call⟩ := by
  obtain ⟨rin, writes, hcheck, hwrites⟩ := h
  have hguard : ¬args.has_commit_state = false := by
    rw [hargs]
    decide
  have hload : loadImport env eng args rin = (eng, .ok .none) := by
    unfold loadImport
    rw [hplain.1, hplain.2]
  have hwrites : rowWrites ImportSource.none.importing rin args.max_steps.toInt args.request_count.toInt = .ok writes := hwrites
  unfold residentEpochExecute
  rw [if_neg hguard, hcheck]
  dsimp only
  rw [hload]
  dsimp only
  rw [hwrites]
  exact ⟨_, _, rfl⟩

/-- an answer without tokens -/
def idleEmission : Emission := ⟨fun _ => 0, fun _ => 0⟩

def EngineHost.of (bridge : BridgeEnv) : EngineHost :=
  ⟨bridge, .plain, "/dev/shm/cruise.kv-transfer", by decide, 1, true, true⟩

/-- a host whose device answers every call without tokens -/
def answeringHost : EngineHost := .of { BridgeEnv.plain with fetch := fun _ => (0, udfTensors idleEmission) }

/-- a host that reads no transfer file and has no memory for an import -/
def refusingHost : EngineHost := .of { BridgeEnv.plain with aclrtMalloc := none }

theorem answering_returns (hplan : plan.Valid) (hb : plan.graph_batch_size = 4) (hsteps : 0 ≤ plan.max_steps)
    (htakes : TakesRows (ctypesArgs plan none 0 none)) :
    ∃ output, (KvTransfer.plain.call (ctypesEngine answeringHost.ctypes) plan).result = .ok output := by
  have hsubmits : ctypesSubmits answeringHost.ctypes plan .plain = .ok (ctypesArgs plan none 0 none) :=
    if_neg (not_not.2 hb)
  obtain ⟨rin, writes, hcheck, hwrites⟩ := htakes
  have hrange := checkArgs_steps hcheck
  have hfits : EmissionFits (ctypesArgs plan none 0 none).max_steps.toInt idleEmission :=
    ⟨rfl, hrange.2, by decide, by decide, fun _ => ⟨le_rfl, (show (0 : Int) ≤ 1 by decide).trans hrange.1⟩,
      fun _ => (by decide : Field.i.InRange 0), fun _ k hk => absurd hk (Nat.not_lt_zero k)⟩
  obtain ⟨call, start, houtcome⟩ := taken_fed ⟨rin, writes, hcheck, hwrites⟩ rfl ⟨rfl, rfl⟩ answeringHost.bridge .plain
    ctypesOutputs
  obtain ⟨out, hrun, hdelivered⟩ := bridge_delivers start hfits
    (show answeringHost.bridge.feed call.inputs = 0 from rfl) rfl (show checksumRefused .none 0 0 = false from rfl)
  rw [hrun] at houtcome
  rw [ctypes_result hsubmits rfl]
  have hoperation : residentEpochExecute answeringHost.bridge (some answeringHost.engine) (ctypesArgs plan none 0 none)
      ctypesOutputs = _ := houtcome
  rw [hoperation]
  have hcommit : commitState (Field.wrap .i out.commit_state) = .ok .committed := by
    rw [hdelivered.commit_state]
    decide +kernel
  have hzero : Field.wrap .i 0 = 0 := by decide +kernel
  have hidle (request : ResidentEpochRequest) (hr : request ∈ plan.requests) :
      (rows.map fun r => Field.wrap .i (out.executed r)).getD request.row.toNat 0 = 0 := by
    have hlt := hplan.row request hr
    have hget := rows_map_getD (fun r => Field.wrap .i (out.executed r)) ⟨request.row.toNat, by omega⟩ 0
    exact hget.trans ((congrArg (Field.wrap .i) (hdelivered.executed _)).trans hzero)
  unfold ctypesOutput
  simp only [except_bind_ok, refuse_ok]
  exact ⟨_, .committed, by rw [hcommit]; rfl, (), not_not.2 hzero, _, readTokens_idle _ _ hsteps plan.requests hidle, rfl⟩

/-- whatever the device answers, a hopeless call raises after Feed -/
theorem hopeless_raises (hplan : plan.Valid) (hb : plan.graph_batch_size = 4) (hsteps : plan.max_steps < 0)
    (htakes : TakesRows (ctypesArgs plan none 0 none)) (host : EngineHost) :
    ∃ raised, (KvTransfer.plain.call (ctypesEngine host.ctypes) plan).result = .error raised ∧
      raised.input_preserving = false := by
  have hsubmits : ctypesSubmits host.ctypes plan .plain = .ok (ctypesArgs plan none 0 none) := if_neg (not_not.2 hb)
  obtain ⟨call, start, houtcome⟩ := taken_fed htakes rfl ⟨rfl, rfl⟩ host.bridge host.engine ctypesOutputs
  have hproof := bridge_commit host.bridge (some host.engine) (ctypesArgs plan none 0 none) ctypesOutputs rfl
  have hresult : (KvTransfer.plain.call (ctypesEngine host.ctypes) plan).result = ctypesOutput plan false (Field.wrap .i
      (residentEpochExecute host.bridge (some host.engine) (ctypesArgs plan none 0 none) ctypesOutputs).ret)
      (residentEpochExecute host.bridge (some host.engine) (ctypesArgs plan none 0 none) ctypesOutputs).outputs := by
    rw [ctypes_call, hsubmits]
    rfl
  have hfed : (residentEpochExecute host.bridge (some host.engine) (ctypesArgs plan none 0 none) ctypesOutputs).fed ≠ none := by
    rw [houtcome]
    exact Option.some_ne_none call
  rw [hresult]
  generalize residentEpochExecute host.bridge (some host.engine) (ctypesArgs plan none 0 none) ctypesOutputs = outcome
    at hproof hfed
  obtain ⟨commit_state, hcommit, hunprepared⟩ : ∃ commit_state,
      commitState (Field.wrap .i outcome.outputs.commit_state) = .ok commit_state ∧ commit_state ≠ .prepared := by
    rw [hproof.wrap]
    rcases hproof with ⟨-, hunfed⟩ | ⟨hexecuting, -⟩ | ⟨hcommitted, -⟩
    · exact absurd hunfed hfed
    · exact ⟨.executing, by rw [hexecuting]; rfl, by decide⟩
    · exact ⟨.committed, by rw [hcommitted]; rfl, by decide⟩
  have hpreserving (status : Option Int) : (Raised.epoch commit_state status).input_preserving = false :=
    decide_eq_false hunprepared
  by_cases hret : Field.wrap .i outcome.ret = 0
  · refine ⟨.epoch commit_state none, ?_, hpreserving none⟩
    unfold ctypesOutput
    rw [hcommit]
    simp only [except_bind_error]
    exact Or.inr ⟨commit_state, rfl, Or.inr ⟨(), (refuse_ok _ _ _).2 (not_not.2 hret),
      Or.inl (readTokens_hopeless _ _ commit_state hsteps hplan.count.1)⟩⟩
  · refine ⟨.epoch commit_state (some (Field.wrap .i outcome.ret)), ?_, hpreserving _⟩
    rw [ctypesOutput_failed _ hret, hcommit]
    rfl

/-- an import is refused by a host that cannot load it -/
theorem refusing_unfed {args : Args} (himport : args.transfer_path.isSome = true ∨ args.ipc_metadata.isSome = true)
    (out : Outputs) : (residentEpochExecute refusingHost.bridge (some refusingHost.engine) args out).fed = none := by
  have hload (rin : RowInputs) : ∃ status eng, loadImport refusingHost.bridge refusingHost.engine args rin =
      (eng, .error status) := by
    unfold loadImport
    cases hmetadata : args.ipc_metadata with
    | some m =>
      dsimp only
      split_ifs
      · exact ⟨_, _, rfl⟩
      · have hprepare : prepareDeviceIpcPayload refusingHost.bridge refusingHost.engine m = (refusingHost.engine, none) := by
          unfold prepareDeviceIpcPayload
          split_ifs <;> rfl
        rw [hprepare]
        exact ⟨_, _, rfl⟩
    | none =>
      cases hpath : args.transfer_path with
      | none =>
        rw [hmetadata, hpath] at himport
        exact absurd himport (by decide)
      | some path =>
        have hread : readTransfer refusingHost.bridge path args.transfer_id rin.row_generations = none := by
          unfold readTransfer
          split_ifs <;> rfl
        dsimp only
        rw [hread]
        exact ⟨_, _, rfl⟩
  unfold residentEpochExecute
  split_ifs
  · rfl
  · cases checkArgs args with
    | none => rfl
    | some rin =>
      obtain ⟨status, eng, hload⟩ := hload rin
      dsimp only
      rw [hload]

/-- a plain call whose rows the bridge refuses is not fed -/
theorem untaken_unfed {args : Args} (h : ¬TakesRows args) (hplain : args.transfer_path = none ∧ args.ipc_metadata = none)
    (env : BridgeEnv) (eng : Engine) (out : Outputs) : (residentEpochExecute env (some eng) args out).fed = none := by
  unfold residentEpochExecute
  split_ifs
  · rfl
  · cases hcheck : checkArgs args with
    | none => rfl
    | some rin =>
      have hload : loadImport env eng args rin = (eng, .ok .none) := by
        unfold loadImport
        rw [hplain.1, hplain.2]
      dsimp only
      rw [hload]
      dsimp only
      cases hwrites : rowWrites ImportSource.none.importing rin args.max_steps.toInt args.request_count.toInt with
      | error status => rfl
      | ok writes => exact absurd ⟨rin, writes, hcheck, hwrites⟩ h

end Alone

/-! ## The condition -/

section Condition

variable {plan : ResidentEpochPlan} {host : EngineHost} {transfer : KvTransfer} (hplan : plan.Valid)
  (hb : plan.graph_batch_size = 4) (hvalid : transfer.Validated)

/-- a call that `ctypes` answers, or says is PREPARED, and the sidecar refuses otherwise -/
theorem differs (hsidecar : (transfer.call (sidecarEngine host.sidecar) plan).result = .error .other)
    (hctypes : (∃ output, (transfer.call (ctypesEngine host.ctypes) plan).result = .ok output) ∨
      ∃ raised, (transfer.call (ctypesEngine host.ctypes) plan).result = .error raised ∧ raised.input_preserving = true) :
    ¬Interchangeable host plan transfer := by
  rintro (⟨-, -, output, -, -, -, houtput, -⟩ | ⟨raised, raised', hraised, hraised', hsame⟩)
  · rw [hsidecar] at houtput
    cases houtput
  · rw [hsidecar] at hraised
    cases hraised
    rcases hctypes with ⟨output, houtput⟩ | ⟨raised, hctypes, hprepared⟩
    · rw [hraised'] at houtput
      cases houtput
    · rw [hraised'] at hctypes
      cases hctypes
      rw [hprepared] at hsame
      cases hsame

theorem both_raise (hsidecar : (transfer.call (sidecarEngine host.sidecar) plan).result = .error .other)
    (hctypes : ∃ raised, (transfer.call (ctypesEngine host.ctypes) plan).result = .error raised ∧
      raised.input_preserving = false) : Interchangeable host plan transfer := by
  obtain ⟨raised, hctypes, hpreserving⟩ := hctypes
  exact Or.inr ⟨.other, raised, hsidecar, hctypes, hpreserving.symm⟩

include hb hvalid

/-- where the client's checks fail it raises, and not PREPARED -/
theorem unmarshalled_raises (hm : ¬transfer.Marshalled plan) :
    (transfer.call (sidecarEngine host.sidecar) plan).result = .error .other := by
  rw [sidecar_call, sidecar_refuses hb hvalid hm]

omit hb in
theorem unsubmittable_interchangeable (h : ¬transfer.Submittable host) : Interchangeable host plan transfer := by
  obtain ⟨hctypes, hsidecar⟩ := @both_refuse plan host transfer hvalid h
  refine both_raise ?_ ⟨.other, ?_, rfl⟩
  · rw [sidecar_call, hsidecar]
  · rw [ctypes_call, hctypes]

include hplan

theorem marshalled_interchangeable (hm : transfer.Marshalled plan) (hfile : host.SameFile transfer.transfer_id) :
    Interchangeable host plan transfer := by
  by_cases h : transfer.Submittable host
  · obtain ⟨hsidecar, hctypes, hsame⟩ := submitted_agree hb hplan hvalid h hm hfile
    have hcall : SameCall (transfer.args plan host.transfer_path)
        (transfer.args plan (ctypesTransferPath host.pid transfer.transfer_id)) := by
      cases transfer <;> exact ⟨rfl, rfl⟩
    cases hresult : (transfer.call (sidecarEngine host.sidecar) plan).result with
    | ok output => exact Or.inl ⟨_, _, output, hsidecar, hctypes, hcall, hresult, hsame ▸ hresult⟩
    | error raised => exact Or.inr ⟨raised, raised, hresult, hsame ▸ hresult, rfl⟩
  · exact unsubmittable_interchangeable hvalid h

/-- **When the engines can stand in for each other**, on every host and whatever the native call does there. -/
theorem interchangeable_iff :
    (∀ host : EngineHost, host.SameFile transfer.transfer_id → Interchangeable host plan transfer) ↔ Marshals plan transfer := by
  constructor
  · intro hall
    by_contra hno
    obtain ⟨hm, hpacked, hhopeless⟩ : ¬transfer.Marshalled plan ∧ transfer.Packed ∧ ¬transfer.Hopeless plan := by
      simpa only [Marshals, not_or, not_not] using hno
    have hsidecar (host : EngineHost) : (transfer.call (sidecarEngine host.sidecar) plan).result = .error .other :=
      unmarshalled_raises hb hvalid hm
    have hrefused (himport : ∀ file, (transfer.args plan file).transfer_path.isSome = true ∨
        (transfer.args plan file).ipc_metadata.isSome = true) (h : transfer.Submittable refusingHost) : False := by
      have hraises := unfed_raises (ctypes_submits hb hvalid h) rfl rfl (refusing_unfed (himport _) ctypesOutputs)
      exact differs (hsidecar _) (Or.inr hraises) (hall refusingHost rfl)
    cases transfer with
    | plain =>
      have hsubmits (host : EngineHost) : ctypesSubmits host.ctypes plan .plain = .ok (ctypesArgs plan none 0 none) :=
        if_neg (not_not.2 hb)
      by_cases htakes : TakesRows (ctypesArgs plan none 0 none)
      · have hsteps : 0 ≤ plan.max_steps := not_lt.1 fun hneg => hhopeless ⟨hneg, htakes⟩
        exact differs (hsidecar _) (Or.inl (answering_returns hplan hb hsteps htakes)) (hall answeringHost rfl)
      · have hraises := unfed_raises (hsubmits refusingHost) rfl rfl (untaken_unfed htakes ⟨rfl, rfl⟩ _ _ ctypesOutputs)
        exact differs (hsidecar _) (Or.inr hraises) (hall refusingHost rfl)
    | hostSnapshot snapshot => exact hrefused (fun _ => Or.inl rfl) ⟨hpacked, rfl⟩
    | deviceIpc transfer =>
      obtain ⟨metadata, hwire⟩ := Option.isSome_iff_exists.1 hpacked
      refine hrefused (fun _ => Or.inr ?_) hpacked
      unfold KvTransfer.args KvTransfer.metadata
      dsimp only [ctypesArgs]
      rw [hwire]
      rfl
  · rintro (hm | hunpacked | hhopeless) host hfile
    · exact marshalled_interchangeable hplan hb hvalid hm hfile
    · exact unsubmittable_interchangeable hvalid fun h => hunpacked (submittable_packed h)
    · by_cases hm : transfer.Marshalled plan
      · exact marshalled_interchangeable hplan hb hvalid hm hfile
      · cases transfer with
        | plain =>
          exact both_raise (unmarshalled_raises hb hvalid hm) (hopeless_raises hplan hb hhopeless.1 hhopeless.2 host)
        | hostSnapshot snapshot => exact hhopeless.elim
        | deviceIpc transfer => exact hhopeless.elim

end Condition

/-! ## A snapshot and its plans -/

theorem blankSnapshot_packed : (KvTransfer.hostSnapshot blankSnapshot).Packed := by
  have hwellFormed := ((snapshotValidate_ok_iff blankSnapshot).1 blankSnapshot_valid).1
  have hfits : Fits transferHeaderFields blankSnapshot.header :=
    header_fits hwellFormed (by decide) (by decide) rfl
  show (kvSnapshotFile blankSnapshot).isSome = true
  rw [kvSnapshotFile, structPack, if_pos hfits]
  rfl

/-- the request on row 0 imports its KV -/
def firstRowPlan : ResidentEpochPlan where
  version := 3
  graph_batch_size := 4
  max_steps := 1
  logical_capacity := 8
  requests := [⟨0, 0, 1, 11, 3, 4, 9, [6], (0, 1), .host, true⟩]
  active_mask := [1, 0, 0, 0]
  sampling_mode := 0
  graph_variant := 0

/-- a host that holds the file of a snapshot of that row -/
def holdingHost : EngineHost := .of (holdingEnv blankSnapshot)

theorem import_interchangeable : holdingHost.SameFile 1 ∧
    Interchangeable holdingHost firstRowPlan (.hostSnapshot blankSnapshot) := by
  have himports : ImportsRows firstRowPlan 1 [1, 0, 0, 0] := by decide
  have hfits : Fits requestFields (requestWords firstRowPlan kImportExecute 1) := by decide
  have hplan : firstRowPlan.Valid := (planValidate_ok_iff firstRowPlan).1 (by decide)
  have hvalid : (KvTransfer.hostSnapshot blankSnapshot).Validated := blankSnapshot_valid
  have hm : (KvTransfer.hostSnapshot blankSnapshot).Marshalled firstRowPlan := ⟨himports, hfits⟩
  exact ⟨rfl, (interchangeable_iff hplan rfl hvalid).2 (Or.inl hm) holdingHost rfl⟩

/-- **A snapshot of other rows.** The plan imports nothing: the sidecar client raises, and `ctypes` makes the call. -/
theorem mismatch_not_interchangeable :
    swappedPlan.validate = .ok () ∧ swappedPlan.graph_batch_size = 4 ∧ blankSnapshot.validate = .ok () ∧
      refusingHost.SameFile blankSnapshot.transfer_id ∧
      refusingHost.sidecarCalls swappedPlan (.hostSnapshot blankSnapshot) = none ∧
      (refusingHost.ctypesCalls swappedPlan (.hostSnapshot blankSnapshot)).isSome = true ∧
      ¬Interchangeable refusingHost swappedPlan (.hostSnapshot blankSnapshot) := by
  have hvalid : (KvTransfer.hostSnapshot blankSnapshot).Validated := blankSnapshot_valid
  have hmismatch : ¬ImportsRows swappedPlan 1 [1, 0, 0, 0] := by decide
  have hm : ¬(KvTransfer.hostSnapshot blankSnapshot).Marshalled swappedPlan := fun hm => hmismatch hm.imports
  have hsubmittable : (KvTransfer.hostSnapshot blankSnapshot).Submittable refusingHost := ⟨blankSnapshot_packed, rfl⟩
  have hctypes : ctypesSubmits refusingHost.ctypes swappedPlan (.hostSnapshot blankSnapshot) = _ :=
    ctypes_submits rfl hvalid hsubmittable
  have hraises := unfed_raises hctypes rfl rfl (refusing_unfed (Or.inl rfl) ctypesOutputs)
  have hsidecar : sidecarSubmits refusingHost.sidecar swappedPlan (.hostSnapshot blankSnapshot) = _ :=
    sidecar_refuses rfl hvalid hm
  exact ⟨by decide, rfl, blankSnapshot_valid, rfl, sidecarCalls_refused hsidecar,
    congrArg Option.isSome (ctypesCalls_made hctypes), differs (unmarshalled_raises rfl hvalid hm) (Or.inr hraises)⟩

end Cruise.Worker
