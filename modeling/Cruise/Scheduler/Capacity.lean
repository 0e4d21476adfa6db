/-
The capacity limit, three times: the environment (`ResidentEpochConfig.from_env`), the runtime configuration file
(`load_runtime_config` and `environment`), and the constant of the native code.

MODEL. Between a run's environment and the plugin stands CANN's set_env.sh, which leaves the plugin's variables alone.
Results:
- `capacity_agrees_iff`: under an accepted configuration, the bridge's row check accepts every plan of every run over the
  vocabulary exactly when the configured capacity is at most the native one.
- `capacity_nine_refused`: with nine positions, it refuses one.
-/
import Cruise.Launch.Environment
import Cruise.Scheduler.Engine
import Cruise.Worker.Reach

namespace Cruise.Scheduler

open Cruise.Lib Cruise.Controller Cruise.Native Cruise.Worker

/-! ## Where a configuration comes from -/

/-- a configuration the scheduler starts with -/
inductive Accepted : ResidentEpochConfig → Prop where
  | env {environ config} : Launch.fromEnv environ = .ok config → Accepted config
  | runtime {resolve home fs source loaded run_directory base environ config} :
      Assets.loadRuntimeConfig resolve home fs source = .ok loaded →
      Launch.Sourced (Launch.environment loaded run_directory base) environ → Launch.fromEnv environ = .ok config →
      Accepted config

theorem fromEnv_ok {environ : Launch.Environ} {config : ResidentEpochConfig} (h : Launch.fromEnv environ = .ok config) :
    config.Valid ∧ ∃ max_steps logical_capacity, config = .make max_steps logical_capacity := by
  unfold Launch.fromEnv at h
  obtain ⟨max_steps, -, h⟩ := except_bind_ok.1 h
  obtain ⟨logical_capacity, -, h⟩ := except_bind_ok.1 h
  dsimp only at h
  cases hvalid : (ResidentEpochConfig.make max_steps logical_capacity).validate with
  | error e =>
    rw [hvalid] at h
    cases h
  | ok u =>
    rw [hvalid] at h
    cases h
    exact ⟨(ResidentEpochConfig.validate_ok_iff _).1 hvalid, max_steps, logical_capacity, rfl⟩

theorem Accepted.valid {config : ResidentEpochConfig} (h : Accepted config) :
    config.Valid ∧ ∃ max_steps logical_capacity, config = .make max_steps logical_capacity := by
  cases h with
  | env h => exact fromEnv_ok h
  | runtime _ _ h => exact fromEnv_ok h

/-! ## Token ids of the vocabulary -/

def InVocab (token : Int) : Prop := 0 ≤ token ∧ token < kVocabSize

/-- what arrives and what is sampled is of the vocabulary -/
def VocabEvent : Engine → Event → Prop
  | _, .arrive request => (∀ token ∈ request.prompt_token_ids, InVocab token) ∧
      ∀ params ∈ request.sampling_params, ∀ eos ∈ params.eos_token_id, InVocab eos
  | _, .update output => ∀ tokens ∈ output.sampled_token_ids, ∀ token ∈ tokens, InVocab token
  | _, _ => True

structure VocabRequest (request : Request) : Prop where
  tokens : ∀ token ∈ request.all_token_ids, InVocab token
  eos : ∀ params ∈ request.sampling_params, ∀ eos ∈ params.eos_token_id, InVocab eos

theorem sampledTokens_mem {output : ModelRunnerOutput} {req_id : ReqId} {tokens : List Int}
    (h : sampledTokens output req_id = some tokens) : tokens ∈ output.sampled_token_ids :=
  (List.of_mem_zip (mem_of_lookup h)).2

theorem appendTokens_vocab (check_stop : StopRule) {request : Request} (hr : VocabRequest request) {tokens : List Int}
    (h : ∀ token ∈ tokens, InVocab token) : VocabRequest (request.appendTokens check_stop tokens).1 := by
  induction tokens generalizing request with
  | nil => exact hr
  | cons token tokens ih =>
    obtain ⟨htoken, htokens⟩ := List.forall_mem_cons.1 h
    have happend : VocabRequest (request.append token) := by
      refine ⟨fun t ht => ?_, hr.eos⟩
      have ht : t ∈ request.prompt_token_ids ++ (request.output_token_ids ++ [token]) := ht
      rw [← List.append_assoc] at ht
      rcases List.mem_append.1 ht with ht | ht
      · exact hr.tokens t ht
      · rw [List.mem_singleton.1 ht]
        exact htoken
    unfold Request.appendTokens
    dsimp only
    split
    · exact happend
    · exact ih happend htokens

theorem rewritten_vocab {engine : Engine} {event : Event} (hv : VocabEvent engine event) {old request : Request}
    (h : Rewritten event old request) (hold : VocabRequest old) : VocabRequest request := by
  cases h with
  | same => exact hold
  | scheduled => exact ⟨hold.tokens, hold.eos⟩
  | @updated check_stop output out extras =>
    unfold Request.updated
    split
    · have hadvanced : VocabRequest (old.advanced extras) := ⟨hold.tokens, hold.eos⟩
      refine appendTokens_vocab check_stop hadvanced fun token htoken => ?_
      cases hsampled : sampledTokens output (old.advanced extras).request_id with
      | none =>
        rw [hsampled] at htoken
        cases htoken
      | some tokens =>
        rw [hsampled] at htoken
        exact hv tokens (sampledTokens_mem hsampled) token htoken
    · exact ⟨hold.tokens, hold.eos⟩

structure VocabInvariant (engine : Engine) : Prop where
  base : EngineInvariant engine
  requests : ∀ req_id request, engine.scheduler.requests.find req_id = some request → VocabRequest request

theorem vocab_step {engine engine' : Engine} {event : Event} (hi : VocabInvariant engine)
    (h : EngineStep engine event engine') (hv : VocabEvent engine event) : VocabInvariant engine' := by
  refine ⟨next_invariant hi.base h, fun req_id request hfind => ?_⟩
  rcases next_find h hfind with ⟨rfl, harriving⟩ | ⟨old, hold, hrewritten⟩
  · refine ⟨fun token htoken => hv.1 token ?_, hv.2⟩
    rwa [Request.all_token_ids, harriving.outputs, List.append_nil] at htoken
  · exact rewritten_vocab hv hrewritten (hi.requests req_id old hold)

/-! ## The row check -/

/-- the bridge accepts the rows of the plan, in whichever request record they reach it -/
def RowsAccepted (plan : ResidentEpochPlan) : Prop :=
  ∀ operation transfer_id payload importing,
    structPack requestFields (requestWords plan operation transfer_id) = some payload →
      rowWrites importing (parseRequest payload).rows (parseRequest payload).max_steps.toInt
        (parseRequest payload).request_count.toInt ≠ .error 11

theorem payload_parsed {plan : ResidentEpochPlan} (hb : plan.graph_batch_size = 4) {operation transfer_id : Int}
    {payload : List UInt8} (h : structPack requestFields (requestWords plan operation transfer_id) = some payload) :
    ParsesPlan plan operation transfer_id (parseRequest payload) := by
  have hp := parse_request hb h []
  rwa [List.append_nil] at hp

/-- a plan made from requests over the vocabulary, within the native capacity -/
theorem planned_accepted {s : ResidentEpochScheduler} {out : SchedulerOutput} {leases : Leases} {plan : ResidentEpochPlan}
    (hp : Planned s out leases plan) (hcapacity : s.config.logical_capacity ≤ kLogicalCapacity)
    (hvocab : ∀ req_id request, s.requests.find req_id = some request → VocabRequest request) :
    ∀ own ∈ plan.requests, own.Accepted plan.max_steps := by
  intro own hown
  obtain ⟨request, hplanned⟩ := hp.requests own hown
  have hv := hvocab _ _ hplanned.find
  have htokens := hplanned.tokens
  have hposition := hplanned.position
  obtain ⟨params, hparams, heos⟩ := Option.bind_eq_some_iff.1 hplanned.eos
  exact ⟨hv.tokens _ (List.mem_of_getElem? hplanned.token), ⟨by omega, hplanned.capacity.trans hcapacity⟩,
    hv.eos params hparams _ heos⟩

/-! ## A long request -/

section Long

variable (max_steps logical_capacity : Int)

/-- eight prompt tokens, and two more to generate -/
def longRequest : Request := greedyRequest 1 [0, 0, 0, 0, 0, 0, 0, 0] 2 9

/-- its prefill -/
def longPrefill : StockSchedule := soloStock 1 8

/-- its first decode step -/
def longDecode : StockSchedule := soloStock 1 1

def longArrived : Engine :=
  ⟨(ResidentEpochScheduler.fresh (.make max_steps logical_capacity) (.plain 8)).addRequest longRequest, none⟩

def longScheduled : Engine :=
  ⟨(longArrived max_steps logical_capacity).scheduler.superSchedule longPrefill, some (longPrefill.output, none)⟩

def longPrefilled : Engine :=
  ⟨(longScheduled max_steps logical_capacity).scheduler.superUpdate longPrefill.output (hostOutput [(1, [0])]), none⟩

/-- the request as it is planned: eight prompt tokens, one generated -/
def longPlanned : Request := { longRequest with output_token_ids := [0], num_computed_tokens := 9 }

/-- the state its plan is made in -/
def longState : ResidentEpochScheduler := (longPrefilled max_steps logical_capacity).scheduler.superSchedule longDecode

def longLeases : Leases := Leases.fresh.grant 1 0

/-- its row -/
def longRow : ResidentEpochRequest where
  req_id := 1
  row := 0
  generation := 1
  token_id := 0
  position := 8
  sequence_length := 9
  eos_token_id := 9
  scheduler_block_ids := [1]
  device_block_ids := (0, 1)
  state_owner := .host
  kv_import_required := true

def longPlan : ResidentEpochPlan := assemblePlan (longState max_steps logical_capacity) 1 [longRow]

theorem long_run : Run EngineStep VocabEvent (.fresh (.make max_steps logical_capacity) (.plain 8))
    (longPrefilled max_steps logical_capacity) := by
  have h₁ : EngineStep (.fresh (.make max_steps logical_capacity) (.plain 8)) (.arrive longRequest)
      (longArrived max_steps logical_capacity) := rfl
  have h₂ : EngineStep (longArrived max_steps logical_capacity) (.schedule longPrefill)
      (longScheduled max_steps logical_capacity) := rfl
  have h₃ : EngineStep (longScheduled max_steps logical_capacity) (.update (hostOutput [(1, [0])]))
      (longPrefilled max_steps logical_capacity) := rfl
  have hprompt : ∀ token ∈ longRequest.prompt_token_ids, InVocab token := by
    unfold InVocab
    decide
  have heos : ∀ params ∈ longRequest.sampling_params, ∀ eos ∈ params.eos_token_id, InVocab eos := by
    unfold InVocab
    decide
  have hsampled : ∀ tokens ∈ (hostOutput [(1, [0])]).sampled_token_ids, ∀ token ∈ tokens, InVocab token := by
    unfold InVocab
    decide
  exact ((Run.refl.tail h₁ ⟨hprompt, heos⟩).tail h₂ trivial).tail h₃ hsampled

variable {max_steps logical_capacity : Int}

/-- with room for nine positions, the request is planned at position eight -/
theorem long_planned (hconfig : (ResidentEpochConfig.make max_steps logical_capacity).Valid)
    (hcapacity : 8 < logical_capacity) :
    planRequests (longState max_steps logical_capacity) longLeases [1] = .ok (longPlan max_steps logical_capacity) := by
  have hrequest : [1].mapM (longState max_steps logical_capacity).request = .ok [longPlanned] := rfl
  have hi : LeaseInvariant (.make max_steps logical_capacity) longLeases :=
    (assign_spec (fresh_invariant _) (show assignResidentRows _ .fresh [1] = .ok longLeases from rfl)).invariant
  have hplannable : Plannable (longState max_steps logical_capacity) longLeases.device_owned longPlanned := by
    refine ⟨by decide, ?_, by decide, fun _ _ => rfl, rfl, by decide⟩
    show (8 : Int) ≤ logical_capacity
    omega
  have hsteps : epochSteps max_steps ([longPlanned].map Request.remaining) = some 1 := by
    have hmem := hconfig.steps
    simp only [ResidentEpochConfig.make, List.mem_cons, List.not_mem_nil, or_false] at hmem
    rcases hmem with rfl | rfl | rfl | rfl
    · decide
    · decide
    · decide
    · decide
  have hrow : requestPlan (longState max_steps logical_capacity) longLeases 1 longPlanned = .ok longRow := by
    have hroom : ¬((longPlanned.num_computed_tokens : Int) - 1 < 0 ∨
        (longPlanned.num_computed_tokens : Int) - 1 + 1 > (longState max_steps logical_capacity).config.logical_capacity) := by
      show ¬((9 : Int) - 1 < 0 ∨ (9 : Int) - 1 + 1 > logical_capacity)
      omega
    unfold requestPlan
    exact if_neg hroom
  have hplans : [longPlanned].mapM (requestPlan (longState max_steps logical_capacity) longLeases 1) = .ok [longRow] :=
    mapM_ok.2 (.cons hrow .nil)
  have hall (request : Request) (hr : request ∈ [longPlanned]) :
      Plannable (longState max_steps logical_capacity) longLeases.device_owned request := List.mem_singleton.1 hr ▸ hplannable
  have hcount : [1].length ≤ (longState max_steps logical_capacity).config.max_batch_size := (by decide : 1 ≤ 4)
  have hvalid : (longPlan max_steps logical_capacity).validate = .ok () :=
    assemblePlan_valid hconfig hi (by decide) (by decide) hcount hrequest hall hsteps hplans
  unfold planRequests
  refine except_bind_ok.2 ⟨_, hrequest, except_bind_ok.2 ⟨_, remaining_ok_iff.2 ⟨hall, rfl⟩, ?_⟩⟩
  rw [show epochSteps (longState max_steps logical_capacity).config.max_steps _ = some 1 from hsteps]
  exact except_bind_ok.2 ⟨_, hplans, except_bind_ok.2 ⟨(), mapError_ok.2 hvalid, rfl⟩⟩

theorem long_scheduled (hconfig : (ResidentEpochConfig.make max_steps logical_capacity).Valid)
    (hcapacity : 8 < logical_capacity) : ∃ engine, EngineStep (longPrefilled max_steps logical_capacity)
      (.schedule longDecode) engine ∧ engine.in_flight = some (longDecode.output, some (longPlan max_steps logical_capacity)) := by
  have hs : Schedulable (longState max_steps logical_capacity) longDecode.output :=
    (scheduleRejection_ok _ _ ()).1 rfl
  have hmade : makeResidentEpochPlan (longState max_steps logical_capacity) longDecode.output =
      (longLeases, .ok (longPlan max_steps logical_capacity)) := by
    rw [makePlan_assign hs (show _ = Except.ok longLeases from rfl)]
    exact congrArg _ (long_planned hconfig hcapacity)
  have hschedule : (longPrefilled max_steps logical_capacity).scheduler.schedule longDecode =
      .ok ⟨{ longState max_steps logical_capacity with leases := longLeases }, longDecode.output,
        some (longPlan max_steps logical_capacity), none⟩ := by
    rw [schedule_plain rfl rfl]
    exact finishSchedule_plan hmade
  refine ⟨⟨{ longState max_steps logical_capacity with leases := longLeases },
    some (longDecode.output, some (longPlan max_steps logical_capacity))⟩, ?_, rfl⟩
  have hlegit : Legit (longPrefilled max_steps logical_capacity).scheduler.lane longDecode := of_decide_eq_true rfl
  have hidle : ¬(longPrefilled max_steps logical_capacity).in_flight.isSome = true := fun h => Bool.noConfusion h
  unfold EngineStep Engine.next
  dsimp only
  rw [if_neg (not_or.2 ⟨hidle, not_not.2 hlegit⟩), hschedule]

/-- the request record of its plan -/
theorem long_packed : ∃ payload,
    structPack requestFields (requestWords (longPlan max_steps logical_capacity) kImportExecute 1) = some payload := by
  have hwords : requestWords (longPlan max_steps logical_capacity) kImportExecute 1 =
      [kRequestMagic, kProtocolVersion, kImportExecute, 1, 1, 1] ++ [0, 0, 0, 0] ++ [8, 0, 0, 0] ++ [9, 0, 0, 0] ++
        [9, 151645, 151645, 151645] ++ [1, 0, 0, 0] := rfl
  rw [hwords]
  unfold structPack
  exact ⟨_, if_pos (by decide)⟩

end Long

/-! ## Agreement -/

/-- every plan of every run over the vocabulary is one the bridge accepts -/
def CapacityAgrees (config : ResidentEpochConfig) : Prop :=
  ∀ start engine stock engine' out plan, Run EngineStep VocabEvent (.fresh config start) engine →
    EngineStep engine (.schedule stock) engine' → engine'.in_flight = some (out, some plan) → RowsAccepted plan

/-- above the native capacity, the plan of the long request is refused -/
theorem long_refused {max_steps logical_capacity : Int}
    (hconfig : (ResidentEpochConfig.make max_steps logical_capacity).Valid) (hcapacity : 8 < logical_capacity) :
    ¬RowsAccepted (longPlan max_steps logical_capacity) := by
  intro haccepted
  obtain ⟨payload, hpack⟩ := @long_packed max_steps logical_capacity
  have hvalid := (planRequests_ok (long_planned hconfig hcapacity)).2.1
  have hrows := (parsed_rows_iff hvalid rfl (payload_parsed rfl hpack) true).1 (haccepted _ _ _ true hpack)
  have hlast : (8 : Int) + 1 ≤ 8 := (hrows longRow List.mem_cons_self).position.2
  omega

/-- **When configuration, scheduler and native code agree on the capacity.** -/
theorem capacity_agrees_iff {config : ResidentEpochConfig} (haccepted : Accepted config) :
    CapacityAgrees config ↔ config.logical_capacity ≤ kLogicalCapacity := by
  obtain ⟨hvalid, max_steps, logical_capacity, rfl⟩ := haccepted.valid
  constructor
  · intro hagrees
    by_contra hcapacity
    have hlarge : 8 < logical_capacity := not_le.1 hcapacity
    obtain ⟨engine', hstep, hflight⟩ := long_scheduled hvalid hlarge
    exact long_refused hvalid hlarge (hagrees _ _ _ _ _ _ (long_run max_steps logical_capacity) hstep hflight)
  · intro hcapacity start engine stock engine' out plan hrun hstep hflight operation transfer_id payload importing hpack
    have hi : VocabInvariant engine := by
      refine Run.invariant (P := VocabInvariant) ⟨fresh_engine hvalid start, ?_⟩ ?_ hrun
      · intro req_id request hfind
        cases hfind
      · intro engine event engine' hi hs hv
        exact vocab_step hi hs hv
    have hconfig : engine.scheduler.config = .make max_steps logical_capacity := by
      refine Run.invariant (P := fun engine => engine.scheduler.config = .make max_steps logical_capacity) rfl ?_ hrun
      intro engine event engine' hc hs _
      exact (next_configured hs).1.trans hc
    obtain ⟨-, hlegit, r, hschedule, rfl⟩ := next_schedule hstep
    have hs := schedule_spec hi.base.scheduler hlegit hschedule
    obtain ⟨-, hr⟩ := Prod.mk.inj (Option.some.inj hflight)
    have hp := (hs.plan plan hr).2
    have hb : plan.graph_batch_size = 4 := hp.batch
    refine (parsed_rows_iff hp.valid hb (payload_parsed hb hpack) importing).2 ?_
    refine planned_accepted hp ?_ fun req_id request hfind => ?_
    · rw [afterStock_config, hconfig]
      exact hcapacity
    · rw [afterStock_requests] at hfind
      obtain ⟨old, hold, rfl⟩ := modify_find.1 hfind
      exact ⟨(hi.requests req_id old hold).tokens, (hi.requests req_id old hold).eos⟩

/-- the default configuration -/
theorem capacity_agrees_default : Launch.fromEnv [] = .ok (.make 8 8) ∧
    (CapacityAgrees (.make 8 8) ↔ (8 : Int) ≤ kLogicalCapacity) :=
  ⟨rfl, capacity_agrees_iff (@Accepted.env [] _ rfl)⟩

/-- a configuration with a capacity of nine -/
def nineConfig : Assets.LoadedConfig :=
  { Assets.letterConfig with runtime := { Assets.letterConfig.runtime with logical_capacity := 9 } }

/-- its file -/
def nineFile : Assets.FileSystem := Assets.oneFile ["cruise.json"] (encodeText ((Assets.letterValueOf 9).text none 0))

theorem nine_loads : Assets.loadRuntimeConfig Assets.written (fun _ => none) nineFile ["cruise.json"] = .ok nineConfig := by
  have hconfig : Assets.configOf Assets.written (fun _ => none) ["cruise.json"] (Assets.letterValueOf 9) = .ok nineConfig := by
    decide +kernel
  exact (Assets.loadRuntimeConfig_text (Assets.letterValueOf_plain 9) (Assets.oneFile_file _ _)).trans hconfig

/-- a capacity of nine, from the file through the environment of its run -/
theorem capacity_nine_refused : ∃ home fs source loaded run_directory config,
    Assets.loadRuntimeConfig Assets.written home fs source = .ok loaded ∧
      Launch.fromEnv (Launch.environment loaded run_directory []) = .ok config ∧ ¬CapacityAgrees config := by
  have hloaded : nineConfig.Valid Assets.written := Assets.load_ok nine_loads
  refine ⟨_, _, _, _, Launch.letterRun, .make 8 9, nine_loads, Launch.environment_config hloaded fun _ _ => rfl, fun hagrees => ?_⟩
  have hvalid : (ResidentEpochConfig.make 8 9).Valid := ⟨by decide, by decide, by decide⟩
  obtain ⟨engine', hstep, hflight⟩ := long_scheduled hvalid (by decide)
  exact long_refused hvalid (by decide) (hagrees _ _ _ _ _ _ (long_run 8 9) hstep hflight)

end Cruise.Scheduler
