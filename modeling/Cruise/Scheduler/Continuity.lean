/-
Whether the controller accepts what the scheduler plans.

MODEL. A plan is looked at in any state of the joint system, for any stock schedule. `OneTokenOwned` is about the requests
that are scheduled, as they are before the schedule: a request whose prompt is one token has outputs exactly if it is
Device-owned.
- `plan_continues_iff`: every planned row is imported, continued or started, and no call answers 212, exactly then.
- `late_plan_refused`: a request of one prompt token that took its first step on the Host is planned at position 1.
-/
import Cruise.Controller.Sessions
import Cruise.Scheduler.Joint

namespace Cruise.Scheduler

open Cruise.Lib Cruise.Worker Cruise.Controller

/-! ## The controller's answer -/

/-- a planned row next to what the controller holds -/
inductive RowAdmissible (m : Metadata) (planned : ResidentEpochRequest) (r : Row) : Prop where
  | imports : planned.kv_import_required = true → RowAdmissible m planned r
  | continues : m.generation r = planned.generation → m.valid r = 1 → m.token r = planned.token_id →
      m.position r = planned.position → m.length r = planned.sequence_length → RowAdmissible m planned r
  | starts : m.generation r ≠ planned.generation → planned.position = 0 → planned.sequence_length = 1 →
      RowAdmissible m planned r

/-- every row is admissible, and no call on the plan's rows is answered with `kStatusResidentContinuity` -/
structure PlanContinues (resident : Controller.Resident) (plan : ResidentEpochPlan) : Prop where
  rows : ∀ planned ∈ plan.requests, ∀ r, planned.sitsIn r → RowAdmissible resident.metadata planned r
  answer : ∀ (call : ProcCall) inp e, readInputs call.plat call.inputs = some inp → CarriesPlan plan inp →
    (call.run resident).emitted = some e → e.control 3 ≠ Status.residentContinuity.code

theorem continuity_code {status : Status} (h : status.code = Status.residentContinuity.code) :
    status = .residentContinuity := by
  cases status <;> first | rfl | cases h

/-- an answer 212 names a row that is neither imported nor continued nor started -/
theorem refused_row {call : ProcCall} {resident : Controller.Resident} {inp : Inputs} {e : Emission}
    (hread : readInputs call.plat call.inputs = some inp) (he : (call.run resident).emitted = some e)
    (hstatus : e.control 3 = Status.residentContinuity.code) : ∃ r, inp.active r ≠ 0 ∧ ¬Imported inp r ∧
      ¬Controller.Continues resident.metadata inp r ∧ ¬Starts resident.metadata inp r := by
  obtain ⟨inp', d, hread', halloc, rfl, -⟩ := proc_emitted he
  obtain rfl : inp = inp' := Option.some.inj (hread.symm.trans hread')
  rw [epoch_status] at hstatus
  obtain ⟨⟨checksum, himport⟩, hcontinuity⟩ := epoch_continuity (continuity_code hstatus)
  have hrefused : ¬∃ ng, continuity (importPhase inp d).1.metadata inp = .ok ng := by
    rw [hcontinuity]
    exact fun ⟨_, h⟩ => by cases h
  rw [continuity_iff] at hrefused
  push Not at hrefused
  obtain ⟨r, hactive, hcontinues, hstarts⟩ := hrefused
  rw [importPhase_device] at hcontinues hstarts
  have hnot : r ∉ importWritten inp := fun hmem =>
    hcontinues ⟨if_pos hmem, (if_pos hmem).trans_ne one_ne_zero, if_pos hmem, if_pos hmem, if_pos hmem⟩
  rw [← allocResident_metadata halloc]
  refine ⟨r, hactive, mt (imported_iff himport r).2 hnot, fun hc => hcontinues ?_, fun hs => hstarts ?_⟩
  · exact ⟨(if_neg hnot).trans hc.generation, (if_neg hnot).trans_ne hc.valid, (if_neg hnot).trans hc.token,
      (if_neg hnot).trans hc.position, (if_neg hnot).trans hc.length⟩
  · exact ⟨(if_neg hnot).trans_ne hs.generation, hs.position, hs.length⟩

/-- admissible rows are never answered 212 -/
theorem admissible_answer {plan : ResidentEpochPlan} {resident : Controller.Resident}
    (hrows : ∀ planned ∈ plan.requests, ∀ r, planned.sitsIn r → RowAdmissible resident.metadata planned r)
    {call : ProcCall} {inp : Inputs} {e : Emission} (hread : readInputs call.plat call.inputs = some inp)
    (hcarries : CarriesPlan plan inp) (he : (call.run resident).emitted = some e) :
    e.control 3 ≠ Status.residentContinuity.code := by
  intro hstatus
  obtain ⟨r, hactive, himported, hcontinues, hstarts⟩ := refused_row hread he hstatus
  by_cases hplanned : ∃ planned ∈ plan.requests, planned.sitsIn r
  · obtain ⟨planned, hmem, hsits⟩ := hplanned
    have hrow := hcarries.row planned hmem r hsits
    cases hrows planned hmem r hsits with
    | imports himport =>
      refine himported ⟨hcarries.importing.trans ?_, hrow.masked.trans himport⟩
      exact List.any_eq_true.2 ⟨planned, hmem, himport⟩
    | continues hgeneration hvalid htoken hposition hlength =>
      exact hcontinues ⟨hgeneration.trans hrow.generation.symm, hvalid.trans_ne one_ne_zero, htoken.trans hrow.token.symm,
        hposition.trans hrow.position.symm, hlength.trans hrow.length.symm⟩
    | starts hgeneration hposition hlength =>
      exact hstarts ⟨hrow.generation.symm ▸ hgeneration, hrow.position.trans hposition, hrow.length.trans hlength⟩
  · exact hactive (hcarries.empty r fun planned hmem hsits => hplanned ⟨planned, hmem, hsits⟩).1

/-! ## The scheduler's plans -/

/-- a scheduled request of one prompt token has outputs exactly if it is Device-owned -/
def OneTokenOwned (s : ResidentEpochScheduler) (stock : StockSchedule) : Prop :=
  ∀ req_id ∈ stock.output.req_ids, ∀ request ∈ s.requests.find req_id, request.num_prompt_tokens = 1 →
    (0 < request.num_output_tokens ↔ req_id ∈ s.leases.device_owned)

instance (s : ResidentEpochScheduler) (stock : StockSchedule) : Decidable (OneTokenOwned s stock) :=
  inferInstanceAs (Decidable (∀ req_id ∈ stock.output.req_ids, _))

/-- what is known of a planned row: its request before the schedule, and its lease -/
structure PlannedFrom (t : Joint) (leases : Leases) (planned : ResidentEpochRequest) (r : Row) (request : Request) : Prop where
  find : t.engine.scheduler.requests.find planned.req_id = some request
  prefilled : 1 < request.num_prompt_tokens → 0 < request.num_output_tokens
  tokens : planned.position + 1 = request.num_tokens
  length : planned.sequence_length = planned.position + 1
  token : request.all_token_ids[request.num_tokens - 1]? = some planned.token_id
  importing : planned.kv_import_required = true ↔
    1 < request.num_prompt_tokens ∧ planned.req_id ∉ t.engine.scheduler.leases.device_owned
  /-- the lease is an earlier one, or its generation is new -/
  lease : t.engine.scheduler.leases.holds planned.req_id r planned.generation ∨
    planned.req_id ∉ t.engine.scheduler.leases.device_owned ∧
      t.engine.scheduler.leases.next_generation ≤ planned.generation

section Plans

variable {t : Joint} (hi : JointInvariant t)

include hi

theorem JointInvariant.plannedFrom {stock : StockSchedule} (hl : Legit t.engine.scheduler.lane stock) {leases : Leases}
    {plan : ResidentEpochPlan} (hp : Planned (t.engine.scheduler.afterStock stock) stock.output leases plan)
    {planned : ResidentEpochRequest} (hmem : planned ∈ plan.requests) {r : Row} (hsits : planned.sitsIn r) :
    ∃ request, PlannedFrom t leases planned r request := by
  have hw := hi.engine.scheduler
  have hw' := afterStock_wellFormed hw hl
  obtain ⟨known, hplanned⟩ := hp.requests planned hmem
  have hfind := hplanned.find
  rw [afterStock_requests] at hfind
  obtain ⟨old, hold, rfl⟩ := modify_find.1 hfind
  have ha := assign_spec hw'.leases hp.assigned
  rw [afterStock_leases] at ha
  have hid : planned.req_id ∈ stock.output.req_ids := hp.ids ▸ List.mem_map_of_mem hmem
  have howned : planned.req_id ∈ leases.device_owned ↔ planned.req_id ∈ t.engine.scheduler.leases.device_owned :=
    (ha.owned _).trans (and_iff_left fun _ => hid)
  have hposition := hplanned.position
  have htokens := hplanned.tokens
  have hsame : (old.scheduled stock.output).num_tokens = old.num_tokens := rfl
  refine ⟨old, hold, hplanned.prefilled, by omega, hplanned.length, hplanned.token, ?_, ?_⟩
  · rw [hplanned.importing, decide_eq_true_eq, howned]
    exact Iff.rfl
  · have hholds := (planned_rows_of hw' hp).row planned hmem r hsits
    rcases ha.holds hholds with hbefore | ⟨hnew, hissued⟩
    · exact Or.inl hbefore
    · exact Or.inr ⟨fun hmem => hnew (hw.owned _ hmem), hissued⟩

/-- a generation the scheduler has not handed to the device is not the controller's -/
theorem JointInvariant.unheld {leases : Leases} {planned : ResidentEpochRequest} {r : Row} {request : Request}
    (hp : PlannedFrom t leases planned r request) (hhost : planned.req_id ∉ t.engine.scheduler.leases.device_owned) :
    t.resident.metadata.generation r ≠ planned.generation := by
  rcases hp.lease with hholds | ⟨-, hissued⟩
  · exact hi.host _ r _ hholds hhost
  · exact ((hi.issued r).trans_le hissued).ne

/-- **When a planned row is admissible.** -/
theorem JointInvariant.admissible_iff {leases : Leases} {planned : ResidentEpochRequest} {r : Row} {request : Request}
    (hp : PlannedFrom t leases planned r request) : RowAdmissible t.resident.metadata planned r ↔
      (request.num_prompt_tokens = 1 →
        (0 < request.num_output_tokens ↔ planned.req_id ∈ t.engine.scheduler.leases.device_owned)) := by
  have hprompt : 0 < request.num_prompt_tokens := List.length_pos_iff.2 (hi.prompt _ _ hp.find)
  have hsum := request.num_tokens_eq
  have htokens := hp.tokens
  have hlength := hp.length
  have hheld (howned : planned.req_id ∈ t.engine.scheduler.leases.device_owned) :
      t.engine.scheduler.leases.holds planned.req_id r planned.generation :=
    hp.lease.resolve_right fun h => h.1 howned
  constructor
  · intro hadmissible hone
    cases hadmissible with
    | imports himport =>
      have hmore := (hp.importing.1 himport).1
      omega
    | continues hgeneration _ _ hposition _ =>
      have howned : planned.req_id ∈ t.engine.scheduler.leases.device_owned :=
        by_contra fun hhost => hi.unheld hp hhost hgeneration
      have hpos := (hi.device _ r _ (hheld howned) howned).position
      exact iff_of_true (by omega) howned
    | starts hgeneration hposition _ =>
      refine iff_of_false (by omega) fun howned => ?_
      exact hgeneration (hi.device _ r _ (hheld howned) howned).generation
  · intro hone
    by_cases howned : planned.req_id ∈ t.engine.scheduler.leases.device_owned
    · have houtputs : 0 < request.num_output_tokens := by
        by_cases hmore : 1 < request.num_prompt_tokens
        · exact hp.prefilled hmore
        · exact (hone (by omega)).2 howned
      have hrow := hi.device _ r _ (hheld howned) howned
      have hsynced := hi.synced _ r _ (hheld howned) howned request hp.find houtputs
      have hposition := hsynced.position
      have hlengths := hsynced.length
      exact .continues hrow.generation hrow.valid (Option.some.inj (hsynced.token.symm.trans hp.token)) (by omega) (by omega)
    · by_cases hmore : 1 < request.num_prompt_tokens
      · exact .imports (hp.importing.2 ⟨hmore, howned⟩)
      · have houtputs : ¬0 < request.num_output_tokens := mt (hone (by omega)).1 howned
        exact .starts (hi.unheld hp howned) (by omega) (by omega)

end Plans

/-- **When the controller accepts what the scheduler plans.** -/
theorem plan_continues_iff {config : ResidentEpochConfig} (hconfig : config.Valid) {start : StockConfig} {t : Joint}
    (h : Run JointStep Unshared (.fresh config start) t) {stock : StockSchedule} (hl : Legit t.engine.scheduler.lane stock)
    {leases : Leases} {plan : ResidentEpochPlan}
    (hplan : makeResidentEpochPlan (t.engine.scheduler.afterStock stock) stock.output = (leases, .ok plan)) :
    PlanContinues t.resident plan ↔ OneTokenOwned t.engine.scheduler stock := by
  have hi : JointInvariant t := h.invariant (fresh_joint hconfig start) fun _ _ _ hi hs hevent => joint_step hi hevent hs
  have hp := makePlan_spec hplan
  constructor
  · intro hc req_id hid request hfind hone
    obtain ⟨planned, hmem, rfl⟩ := List.mem_map.1 (hp.ids.symm ▸ hid : req_id ∈ plan.req_ids)
    obtain ⟨r, hsits⟩ := sitsIn_exists hp.valid hp.batch hmem
    obtain ⟨known, hfrom⟩ := hi.plannedFrom hl hp hmem hsits
    obtain rfl : known = request := Option.some.inj (hfrom.find.symm.trans hfind)
    exact (hi.admissible_iff hfrom).1 (hc.rows planned hmem r hsits) hone
  · intro hone
    have hrows (planned : ResidentEpochRequest) (hmem : planned ∈ plan.requests) (r : Row) (hsits : planned.sitsIn r) :
        RowAdmissible t.resident.metadata planned r := by
      obtain ⟨request, hfrom⟩ := hi.plannedFrom hl hp hmem hsits
      exact (hi.admissible_iff hfrom).2 (hone _ (hp.ids ▸ List.mem_map_of_mem hmem) request hfrom.find)
    exact ⟨hrows, fun call inp e hread hcarries he => admissible_answer hrows hread hcarries he⟩

/-! ### Runs on the Host -/

/-- an event before the device has run -/
def HostEvent (engine : Engine) : Event → Prop
  | .arrive request => ∀ flight ∈ engine.in_flight, flight.2.isSome = true → request.request_id ∉ flight.1.req_ids
  | .update _ => engine.in_flight.any (fun flight => flight.2.isNone) = true
  | _ => True

instance (engine : Engine) : (event : Event) → Decidable (HostEvent engine event)
  | .arrive request => inferInstanceAs (Decidable (∀ flight ∈ engine.in_flight, flight.2.isSome = true →
      request.request_id ∉ flight.1.req_ids))
  | .update _ => inferInstanceAs (Decidable (engine.in_flight.any (fun flight => flight.2.isNone) = true))
  | .schedule _ | .finish _ => inferInstanceAs (Decidable True)

theorem host_run {config : ResidentEpochConfig} {start : StockConfig} {engine : Engine}
    (h : Run EngineStep HostEvent (.fresh config start) engine) :
    Run JointStep Unshared (.fresh config start) ⟨engine, Controller.init⟩ := by
  refine h.map (fun engine => (⟨engine, Controller.init⟩ : Joint)) fun before event after hstep hevent => ?_
  cases event with
  | arrive request => exact ⟨.core (.arrive request), .core (fun _ h => by cases h) hstep, hevent⟩
  | finish req_id => exact ⟨.core (.finish req_id), .core (fun _ h => by cases h) hstep, trivial⟩
  | schedule stock => exact ⟨.core (.schedule stock), .core (fun _ h => by cases h) hstep, trivial⟩
  | update output =>
    obtain ⟨⟨out, plan⟩, hflight, hnone⟩ := (Option.any_eq_true _ _).1 hevent
    obtain rfl : plan = none := Option.isNone_iff_eq_none.1 hnone
    exact ⟨.host output, .host hflight hstep, trivial⟩

/-- the plan made after some events on the Host -/
def planAfter (config : ResidentEpochConfig) (events : List Event) (stock : StockSchedule) :
    Option (Engine × ResidentEpochPlan) :=
  (Run.after Engine.next HostEvent (.fresh config (.plain 8)) events).bind fun engine =>
    if Legit engine.scheduler.lane stock then
      match makeResidentEpochPlan (engine.scheduler.afterStock stock) stock.output with
      | (_, .ok plan) => some (engine, plan)
      | _ => none
    else none

theorem planAfter_some {config : ResidentEpochConfig} {events : List Event} {stock : StockSchedule} {engine : Engine}
    {plan : ResidentEpochPlan} (h : planAfter config events stock = some (engine, plan)) :
    Run JointStep Unshared (.fresh config (.plain 8)) ⟨engine, Controller.init⟩ ∧ Legit engine.scheduler.lane stock ∧
      ∃ leases, makeResidentEpochPlan (engine.scheduler.afterStock stock) stock.output = (leases, .ok plan) := by
  obtain ⟨reached, hreached, h⟩ := Option.bind_eq_some_iff.1 h
  split_ifs at h with hlegit
  split at h
  · rename_i leases plan' hmade
    cases h
    exact ⟨host_run (Run.of_after hreached), hlegit, leases, hmade⟩
  · cases h

/-! ### One request alone -/

/-- the stock scheduler decodes request 1 alone -/
def aloneStock : StockSchedule := soloStock 1 1

/-- two steps of it in row 0, with generation 1 -/
def rowPlan (token_id position : Int) (state_owner : StateOwner) : ResidentEpochPlan where
  version := 3
  graph_batch_size := 4
  max_steps := 2
  logical_capacity := 8
  requests := [⟨1, 0, 1, token_id, position, position + 1, 9, [1], (0, 1), state_owner, false⟩]
  active_mask := [1, 0, 0, 0]
  sampling_mode := 0
  graph_variant := 0

theorem rowRead_masked (token position : Int) (r : Row) : masked (rowRead token position) r = false := by
  have h : ∀ r, masked (rowRead 0 0) r = false := by decide
  exact h r

theorem rowPlan_carries (token_id position : Int) (state_owner : StateOwner) :
    CarriesPlan (rowPlan token_id position state_owner) (rowRead token_id position) where
  max_steps := rfl
  sampling_mode := rfl
  graph_variant := rfl
  block_table := (by decide : ∀ i < 8, (rowRead 0 0).block_table i = i)
  importing := rfl
  row := by
    intro request hr r hrow
    obtain rfl := List.mem_singleton.1 hr
    match r with
    | 0 => exact ⟨rfl, rfl, rfl, rfl, rfl, rfl, rowRead_masked token_id position 0⟩
    | 1 | 2 | 3 => cases hrow
  empty := by
    intro r hempty
    match r with
    | 0 => exact absurd rfl (hempty _ (List.mem_singleton_self _))
    | 1 | 2 | 3 => exact ⟨rfl, rfl, rfl, rowRead_masked token_id position _⟩

/-- the call of the plan, and what it gives -/
def rowProc (position : Int) : ProcCall := ⟨.granted, .echo, rowInputs 12 position⟩

def rowOutput : ModelRunnerOutput := deviceOutput [(1, [12, 12])] [1, 0, 0, 0] false

theorem rowPlan_committed {resident : Controller.Resident} {position : Int} {e : Emission}
    (hemitted : ((rowProc position).run resident).emitted = some e) (hok : e.control 3 = Status.ok.code)
    (htokens : e.tokens 0 = [12, 12]) (state_owner : StateOwner) :
    Committed resident (rowPlan 12 position state_owner) (rowProc position) (rowRead 12 position) e rowOutput := by
  refine ⟨rowInputs_read .granted rfl 12 position, rowPlan_carries 12 position state_owner, hemitted, hok, rfl,
    fun planned hmem r hsits => ?_⟩
  obtain rfl := List.mem_singleton.1 hmem
  match r with
  | 0 => rw [htokens]; rfl
  | 1 | 2 | 3 => cases hsits

/-- its first epoch is delivered, and its second is planned -/
theorem plan_continues_second : ∃ (t : Joint) (leases : Leases), Run JointStep Unshared (.fresh (.make 2 8) (.plain 8)) t ∧
    makeResidentEpochPlan (t.engine.scheduler.afterStock aloneStock) aloneStock.output = (leases, .ok (rowPlan 12 2 .device)) ∧
    PlanContinues t.resident (rowPlan 12 2 .device) := by
  have h : (((Engine.fresh (.make 2 8) (.plain 8)).next (.arrive (greedyRequest 1 [12] 4 9))).any fun arrived =>
      (arrived.next (.schedule aloneStock)).any fun scheduled => scheduled.in_flight.any fun flight =>
        (scheduled.next (.update rowOutput)).any fun updated => flight.2 = some (rowPlan 12 0 .host) ∧
          Legit updated.scheduler.lane aloneStock ∧ OneTokenOwned updated.scheduler aloneStock ∧
          (makeResidentEpochPlan (updated.scheduler.afterStock aloneStock) aloneStock.output).2 =
            .ok (rowPlan 12 2 .device)) = true := by
    decide +kernel
  obtain ⟨arrived, harrive, h⟩ := (Option.any_eq_true _ _).1 h
  obtain ⟨scheduled, hschedule, h⟩ := (Option.any_eq_true _ _).1 h
  obtain ⟨⟨out, plan⟩, hflight, h⟩ := (Option.any_eq_true _ _).1 h
  obtain ⟨updated, hupdate, h⟩ := (Option.any_eq_true _ _).1 h
  obtain ⟨rfl, hlegit, howned, hplan⟩ := of_decide_eq_true h
  obtain ⟨e, hemitted, hok, htokens, -⟩ := echoing_first
  have harrived : JointStep (.fresh (.make 2 8) (.plain 8)) (.core (.arrive (greedyRequest 1 [12] 4 9)))
      ⟨arrived, Controller.init⟩ := .core (fun _ h => by cases h) harrive
  have hscheduled : JointStep ⟨arrived, Controller.init⟩ (.core (.schedule aloneStock)) ⟨scheduled, Controller.init⟩ :=
    .core (fun _ h => by cases h) hschedule
  have hepoch : JointStep ⟨scheduled, Controller.init⟩ (.epoch (rowProc 0) rowOutput)
      ⟨updated, ((rowProc 0).run Controller.init).resident⟩ :=
    .epoch hflight (rowPlan_committed hemitted hok htokens .host) hupdate
  have hunshared : Unshared (.fresh (.make 2 8) (.plain 8)) (.core (.arrive (greedyRequest 1 [12] 4 9))) :=
    fun _ h => by cases h
  have hrun := ((Run.refl.tail harrived hunshared).tail hscheduled trivial).tail hepoch trivial
  have hmade : makeResidentEpochPlan (updated.scheduler.afterStock aloneStock) aloneStock.output =
      (_, .ok (rowPlan 12 2 .device)) := Prod.ext rfl hplan
  exact ⟨_, _, hrun, hmade,
    (plan_continues_iff ((ResidentEpochConfig.validate_ok_iff _).1 (by decide)) hrun hlegit hmade).2 howned⟩

/-! ### A first step on the Host -/

/-- a request of one prompt token takes its first step next to a prefill, and is then alone -/
def lateEvents : List Event := [
  .arrive (greedyRequest 1 [7] 4 9),
  .arrive (greedyRequest 2 [7, 7, 7] 4 9),
  .schedule (plainStock [(1, 1), (2, 3)] (by decide) [] [1, 2] []),
  .update (hostOutput [(1, [5]), (2, [6])]),
  .finish 2]

/-- it is planned at position 1, with a generation the controller has not seen and nothing to import -/
def latePlan : ResidentEpochPlan := rowPlan 5 1 .host

def lateCall : ProcCall := ⟨.plain, .failing, rowInputs 5 1⟩

/-- **The controller refuses a plan.** -/
theorem late_plan_refused : ∃ (t : Joint) (leases : Leases), Run JointStep Unshared (.fresh (.make 2 8) (.plain 8)) t ∧
    Legit t.engine.scheduler.lane aloneStock ∧
    makeResidentEpochPlan (t.engine.scheduler.afterStock aloneStock) aloneStock.output = (leases, .ok latePlan) ∧
    (∃ planned ∈ latePlan.requests, ∃ r, planned.sitsIn r ∧ ¬RowAdmissible t.resident.metadata planned r) ∧
    ∃ inp e, readInputs lateCall.plat lateCall.inputs = some inp ∧ CarriesPlan latePlan inp ∧
      (lateCall.run t.resident).emitted = some e ∧ e.control 3 = Status.residentContinuity.code := by
  have h : ((planAfter (.make 2 8) lateEvents aloneStock).any fun made => decide (made.2 = latePlan)) = true := by
    decide +kernel
  obtain ⟨⟨engine, plan⟩, hmade, h⟩ := (Option.any_eq_true _ _).1 h
  obtain rfl : plan = latePlan := of_decide_eq_true h
  obtain ⟨hrun, hlegit, leases, hplan⟩ := planAfter_some hmade
  refine ⟨_, leases, hrun, hlegit, hplan, ⟨_, List.mem_singleton_self _, 0, rfl, fun hadmissible => ?_⟩, rowRead 5 1, _, rfl,
    rowPlan_carries 5 1 .host, rfl, ?_⟩
  · cases hadmissible with
    | imports himport => cases himport
    | continues hgeneration => cases hgeneration
    | starts _ hposition _ => cases hposition
  · decide

end Cruise.Scheduler
