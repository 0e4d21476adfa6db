/-
Requests over a run in which every decode is scheduled and nothing is preempted.

MODEL. What the stock scheduler does in such a run is `DecodesAll`.
- `Continues`: what an update leaves of a request.
- `decode_step`: `DecodeInvariant` is kept. Between two steps a request that waits has no tokens computed, one without
  outputs is not prefilled, and a Device-owned one that runs has outputs and may stay on the device.
-/
import Cruise.Scheduler.Accounting

namespace Cruise.Scheduler

open Cruise.Lib Cruise.Worker

/-! ## A request over its life -/

/-- a request, and what has become of it -/
structure Continues (old request : Request) : Prop where
  prompt : request.prompt_token_ids = old.prompt_token_ids
  eligible : request.eligible = old.eligible
  outputs : old.num_output_tokens ≤ request.num_output_tokens
  live : (old.eligible = true → old.num_output_tokens < old.max_tokens) →
    request.eligible = true → request.num_output_tokens < request.max_tokens

/-- tokens that stop nothing leave some of the limit -/
theorem appendTokens_limit {check_stop : StopRule} {request : Request} {tokens : List Int}
    (h : (request.appendTokens check_stop tokens).2 = false) (heligible : request.eligible = true)
    (hlive : request.num_output_tokens < request.max_tokens) :
    (request.appendTokens check_stop tokens).1.num_output_tokens < (request.appendTokens check_stop tokens).1.max_tokens := by
  induction tokens generalizing request with
  | nil => exact hlive
  | cons token tokens ih =>
    unfold Request.appendTokens at h ⊢
    dsimp only at h ⊢
    by_cases hstop : check_stop.stops (request.append token) = true
    · rw [if_pos hstop] at h
      cases h
    · rw [if_neg hstop] at h ⊢
      have hkept : (request.append token).eligible = true := heligible
      exact ih h hkept (not_le.1 fun hmax => hstop (check_stop.limit _ hkept hmax))

theorem superUpdate_continues {s : ResidentEpochScheduler} {out : SchedulerOutput} {output : ModelRunnerOutput}
    {req_id : ReqId} {request : Request} (h : (s.superUpdate out output).requests.find req_id = some request) :
    ∃ old, s.requests.find req_id = some old ∧ Continues old request := by
  obtain ⟨old, hold, happend⟩ := superUpdate_unstopped h
  have hstop : (old.appendTokens s.check_stop (newTokens out output req_id)).2 = false := congrArg Prod.snd happend
  have hlimit := appendTokens_limit hstop
  rw [happend] at hlimit
  obtain rfl : _ = request := (appendTokens_live hstop).symm.trans (congrArg Prod.fst happend)
  refine ⟨old, hold, rfl, rfl, ?_, fun hlive heligible => hlimit heligible (hlive heligible)⟩
  unfold Request.num_output_tokens
  rw [List.length_append]
  exact Nat.le_add_right _ _

theorem updated_continues {s s' : ResidentEpochScheduler} {out : SchedulerOutput} {output : ModelRunnerOutput}
    {plan : Option ResidentEpochPlan} (hu : Updated s out output plan s') {req_id : ReqId} {request : Request}
    (h : s'.requests.find req_id = some request) : ∃ old, s.requests.find req_id = some old ∧ Continues old request := by
  cases hu with
  | host _ => exact superUpdate_continues h
  | epoch _ haccount =>
    obtain ⟨_, extras, ha⟩ := accounting_iff.1 haccount
    obtain ⟨accounted, haccounted, hcontinues⟩ := superUpdate_continues h
    rw [ha.scheduler] at haccounted
    obtain ⟨old, hold, rfl⟩ := Option.map_eq_some_iff.1 haccounted
    exact ⟨old, hold, hcontinues.prompt, hcontinues.eligible, hcontinues.outputs, hcontinues.live⟩

theorem scheduled_continues (out : SchedulerOutput) (request : Request) : Continues request (request.scheduled out) :=
  ⟨rfl, rfl, le_rfl, id⟩

/-- of a request that has neither stopped nor lost its prompt -/
structure Live (request : Request) : Prop where
  prompt : request.prompt_token_ids ≠ []
  limit : request.eligible = true → request.num_output_tokens < request.max_tokens

theorem Live.continues {old request : Request} (hl : Live old) (h : Continues old request) : Live request :=
  ⟨h.prompt ▸ hl.prompt, h.live hl.limit⟩

theorem Request.Arriving.live {request : Request} (h : request.Arriving) : Live request := by
  refine ⟨h.prompt, fun _ => ?_⟩
  unfold Request.num_output_tokens
  rw [h.outputs]
  exact h.max_tokens

/-- of a request the device may decode -/
structure Resident (config : ResidentEpochConfig) (request : Request) : Prop where
  eligible : request.eligible = true
  prompt : request.num_prompt_tokens ≤ config.logical_capacity

theorem Resident.continues {config : ResidentEpochConfig} {old request : Request} (hr : Resident config old)
    (h : Continues old request) : Resident config request := by
  refine ⟨h.eligible.trans hr.eligible, ?_⟩
  unfold Request.num_prompt_tokens
  rw [h.prompt]
  exact hr.prompt

/-! ## The stock scheduler -/

/-- every decode is scheduled and what is admitted too, without drafts, and nothing is preempted -/
structure DecodesAll (s : ResidentEpochScheduler) (stock : StockSchedule) : Prop where
  preempted : stock.output.preempted_req_ids = []
  decoding : ∀ req_id ∈ s.running, ∀ request ∈ s.requests.find req_id,
    request.num_computed_tokens + 1 = request.num_tokens → req_id ∈ stock.output.req_ids
  admitted : ∀ req_id ∈ stock.running, req_id ∉ s.running → req_id ∈ stock.output.req_ids
  spec : stock.output.scheduled_spec_decode_tokens = false
  encoder : stock.output.scheduled_encoder_inputs = true →
    ∃ req_id ∈ stock.output.req_ids, ∃ request ∈ s.requests.find req_id, request.mm_features = true

instance (s : ResidentEpochScheduler) (stock : StockSchedule) : Decidable (DecodesAll s stock) :=
  decidable_of_iff
    (stock.output.preempted_req_ids = [] ∧
      (∀ req_id ∈ s.running, ∀ request ∈ s.requests.find req_id,
        request.num_computed_tokens + 1 = request.num_tokens → req_id ∈ stock.output.req_ids) ∧
      (∀ req_id ∈ stock.running, req_id ∉ s.running → req_id ∈ stock.output.req_ids) ∧
      stock.output.scheduled_spec_decode_tokens = false ∧
      (stock.output.scheduled_encoder_inputs = true →
        ∃ req_id ∈ stock.output.req_ids, ∃ request ∈ s.requests.find req_id, request.mm_features = true))
    ⟨fun ⟨h1, h2, h3, h4, h5⟩ => ⟨h1, h2, h3, h4, h5⟩, fun ⟨h1, h2, h3, h4, h5⟩ => ⟨h1, h2, h3, h4, h5⟩⟩

/-- a run over such a stock scheduler -/
def DecodingEvent (t : Counted) (event : Event) : Prop :=
  CountedEvent t event ∧
    match event with
    | .schedule stock => DecodesAll t.engine.scheduler.lane stock
    | _ => True

instance (t : Counted) : (event : Event) → Decidable (DecodingEvent t event)
  | .schedule stock => inferInstanceAs (Decidable (CountedEvent t (.schedule stock) ∧ DecodesAll t.engine.scheduler.lane stock))
  | .arrive request => inferInstanceAs (Decidable (CountedEvent t (.arrive request) ∧ True))
  | .finish req_id => inferInstanceAs (Decidable (CountedEvent t (.finish req_id) ∧ True))
  | .update output => inferInstanceAs (Decidable (CountedEvent t (.update output) ∧ True))

theorem DecodingEvent.unpreempted {t : Counted} {event : Event} (h : DecodingEvent t event) : UnpreemptedEvent t event := by
  refine ⟨h.1, ?_⟩
  cases event with
  | schedule stock => exact h.2.preempted
  | arrive _ => exact trivial
  | finish _ => exact trivial
  | update _ => exact trivial

section Queues

variable {s : ResidentEpochScheduler} {stock : StockSchedule}

/-- who is running after a schedule was so before, or is scheduled -/
theorem afterStock_admitted (hd : DecodesAll s.lane stock) {req_id : ReqId} (h : req_id ∈ (s.afterStock stock).running) :
    req_id ∈ s.running ∨ req_id ∈ stock.output.req_ids := by
  have hadmitted := hd.admitted req_id
  unfold ResidentEpochScheduler.afterStock at h
  unfold ResidentEpochScheduler.lane at hadmitted
  cases hisolation : s.isolation with
  | none =>
    rw [hisolation] at h hadmitted
    by_cases hrun : req_id ∈ s.running
    · exact Or.inl hrun
    · exact Or.inr (hadmitted h hrun)
  | some reason =>
    rw [hisolation] at h hadmitted
    rcases List.mem_append.1 h with h | h
    · exact Or.inl (List.mem_filter.1 h).1
    · by_cases hrun : req_id ∈ s.hostLane.running
      · exact Or.inl (List.mem_filter.1 hrun).1
      · exact Or.inr (hadmitted h hrun)

/-- who waits after a schedule without preemption did so before, and is not scheduled -/
theorem afterStock_waits (hw : WellFormed s) (hl : Legit s.lane stock) (hd : DecodesAll s.lane stock) {req_id : ReqId}
    (h : req_id ∈ (s.afterStock stock).waiting ++ (s.afterStock stock).skipped_waiting) :
    req_id ∈ s.waiting ++ s.skipped_waiting ∧ req_id ∉ stock.output.req_ids := by
  have hnot : req_id ∉ (s.afterStock stock).running := fun hrun =>
    waiting_of_running (afterStock_wellFormed hw hl) hrun h
  refine ⟨?_, fun hmem => hnot (afterStock_scheduled hl hmem)⟩
  rcases queued_iff.1 ((afterStock_queued hl).mem_iff.1 (queued_iff.2 (Or.inr h))) with hrun | hwait
  · rcases afterStock_kept hl hrun with hrun | hpreempted
    · exact absurd hrun hnot
    · rw [hd.preempted] at hpreempted
      cases hpreempted
  · exact hwait

/-- what is not scheduled is not written -/
theorem unscheduled (hd : DecodesAll s.lane stock) {request : Request} (h : request.request_id ∉ stock.output.req_ids) :
    request.scheduled stock.output = request := by
  have hnone : stock.output.num_scheduled_tokens.lookup request.request_id = none := by
    rw [List.lookup_eq_none_iff]
    exact fun item hitem => by
      simpa using fun heq : request.request_id = item.1 => h (heq ▸ List.mem_map_of_mem hitem)
  unfold Request.scheduled
  rw [hd.preempted, if_neg List.not_mem_nil, hnone]
  rfl

end Queues

/-! ## The invariant -/

/-- what the scheduler has checked once something is Device-owned -/
structure Configured (s : ResidentEpochScheduler) : Prop where
  lookahead : s.num_lookahead_tokens = 0
  connector : s.connector = false ∧ s.ec_connector = false
  block_size : s.block_size = s.config.block_size

theorem afterStock_configured {s : ResidentEpochScheduler} {stock : StockSchedule} :
    Configured (s.afterStock stock) ↔ Configured s := by
  unfold ResidentEpochScheduler.afterStock
  cases s.isolation with
  | none => exact ⟨fun ⟨h1, h2, h3⟩ => ⟨h1, h2, h3⟩, fun ⟨h1, h2, h3⟩ => ⟨h1, h2, h3⟩⟩
  | some _ => exact ⟨fun ⟨h1, h2, h3⟩ => ⟨h1, h2, h3⟩, fun ⟨h1, h2, h3⟩ => ⟨h1, h2, h3⟩⟩

theorem updated_configured {s s' : ResidentEpochScheduler} {out : SchedulerOutput} {output : ModelRunnerOutput}
    {plan : Option ResidentEpochPlan} (hu : Updated s out output plan s') (h : Configured s) : Configured s' := by
  cases hu with
  | host _ => exact ⟨h.lookahead, h.connector, h.block_size⟩
  | epoch _ haccount =>
    obtain ⟨_, _, ha⟩ := accounting_iff.1 haccount
    rw [ha.scheduler]
    exact ⟨h.lookahead, h.connector, h.block_size⟩

/-- a plan is being executed -/
def Engine.Planning (engine : Engine) : Prop := ∃ out plan, engine.in_flight = some (out, some plan)

structure DecodeInvariant (t : Counted) : Prop extends ExactInvariant t where
  live : ∀ req_id request, t.engine.scheduler.requests.find req_id = some request → Live request
  waiting : ∀ req_id ∈ t.engine.scheduler.waiting ++ t.engine.scheduler.skipped_waiting, ¬t.engine.Executing req_id ∧
    ∀ request, t.engine.scheduler.requests.find req_id = some request →
      request.num_computed_tokens = 0 ∧ request.num_output_tokens = 0
  device : ¬t.engine.Planning → ∀ req_id ∈ t.engine.scheduler.running, req_id ∈ t.engine.scheduler.leases.device_owned →
    ∀ request, t.engine.scheduler.requests.find req_id = some request →
      Resident t.engine.scheduler.config request ∧ 0 < request.num_output_tokens
  planned : ∀ out plan, t.engine.in_flight = some (out, some plan) → ∀ req_id ∈ t.engine.scheduler.running,
    req_id ∈ plan.req_ids ∧ ∀ request, t.engine.scheduler.requests.find req_id = some request →
      Resident t.engine.scheduler.config request
  configured : t.engine.Planning ∨ t.engine.scheduler.leases.device_owned ≠ ∅ → Configured t.engine.scheduler

theorem fresh_decode {config : ResidentEpochConfig} (hconfig : config.Valid) (stock : StockConfig) :
    DecodeInvariant (.fresh config stock) where
  toExactInvariant := fresh_exact hconfig stock
  live := fun _ _ h => (by cases h)
  waiting := fun _ h => (by cases h)
  device := fun _ _ h => (by cases h)
  planned := fun _ _ h => (by cases h)
  configured := by
    rintro (⟨_, _, h⟩ | h)
    · cases h
    · exact absurd rfl h

section Steps

variable {t : Counted} (hi : DecodeInvariant t)

include hi

theorem DecodeInvariant.arrive {request : Request} (hnew : t.engine.scheduler.requests.find request.request_id = none)
    (harriving : request.Arriving) (hevent : CountedEvent t (.arrive request)) {preempted : Finset ReqId}
    (hexact : ExactInvariant ⟨{ t.engine with scheduler := t.engine.scheduler.addRequest request }, preempted⟩) :
    DecodeInvariant ⟨{ t.engine with scheduler := t.engine.scheduler.addRequest request }, preempted⟩ := by
  have hw := hi.counts.engine.scheduler
  have hunqueued : request.request_id ∉ t.engine.scheduler.queued := by
    intro hmem
    obtain ⟨known, hknown⟩ := (hw.known _).1 hmem
    rw [hnew] at hknown
    cases hknown
  have hcomputed : request.num_output_tokens = 0 := by
    unfold Request.num_output_tokens
    rw [harriving.outputs]
    rfl
  have hrunning {req_id : ReqId} (hrun : req_id ∈ t.engine.scheduler.running) {known : Request}
      (h : (t.engine.scheduler.addRequest request).requests.find req_id = some known) :
      t.engine.scheduler.requests.find req_id = some known := by
    rcases addRequest_find h with ⟨rfl, -⟩ | ⟨-, h⟩
    · exact absurd (queued_iff.2 (Or.inl hrun)) hunqueued
    · exact h
  refine ⟨hexact, fun req_id known h => ?_, fun req_id hwait => ?_, fun hplanning req_id hrun howned known h => ?_,
    fun out plan hflight req_id hrun => ?_, fun h => ?_⟩
  · rcases addRequest_find h with ⟨-, rfl⟩ | ⟨-, h⟩
    · exact harriving.live
    · exact hi.live req_id known h
  · have hwait : req_id ∈ (t.engine.scheduler.waiting ++ [request.request_id]) ++ t.engine.scheduler.skipped_waiting := hwait
    by_cases hid : req_id = request.request_id
    · refine ⟨?_, fun known h => ?_⟩
      · rintro ⟨out, plan, hflight, hmem⟩
        exact hevent (out, plan) hflight (hid ▸ hmem)
      · rcases addRequest_find h with ⟨-, rfl⟩ | ⟨hne, -⟩
        · exact ⟨harriving.computed, hcomputed⟩
        · exact absurd hid hne
    · have hbefore : req_id ∈ t.engine.scheduler.waiting ++ t.engine.scheduler.skipped_waiting := by
        simp only [List.mem_append, List.mem_singleton] at hwait ⊢
        tauto
      refine ⟨(hi.waiting req_id hbefore).1, fun known h => ?_⟩
      rcases addRequest_find h with ⟨heq, -⟩ | ⟨-, h⟩
      · exact absurd heq hid
      · exact (hi.waiting req_id hbefore).2 known h
  · exact hi.device hplanning req_id hrun howned known (hrunning hrun h)
  · obtain ⟨hid, hresident⟩ := hi.planned out plan hflight req_id hrun
    exact ⟨hid, fun known h => hresident known (hrunning hrun h)⟩
  · have hc := hi.configured h
    exact ⟨hc.lookahead, hc.connector, hc.block_size⟩

theorem DecodeInvariant.finish {req_ids : List ReqId} {preempted : Finset ReqId}
    (hexact : ExactInvariant ⟨{ t.engine with scheduler := t.engine.scheduler.finishRequests req_ids }, preempted⟩) :
    DecodeInvariant ⟨{ t.engine with scheduler := t.engine.scheduler.finishRequests req_ids }, preempted⟩ := by
  have hfind {req_id : ReqId} {known : Request}
      (h : (t.engine.scheduler.finishRequests req_ids).requests.find req_id = some known) :
      t.engine.scheduler.requests.find req_id = some known := ((remove_find _ _ _ _).1 h).2
  refine ⟨hexact, fun req_id known h => hi.live req_id known (hfind h), fun req_id hwait => ?_,
    fun hplanning req_id hrun howned known h => ?_, fun out plan hflight req_id hrun => ?_, fun h => ?_⟩
  · obtain ⟨hidle, hfresh⟩ := hi.waiting req_id (finishRequests_waiting hwait)
    exact ⟨hidle, fun known h => hfresh known (hfind h)⟩
  · exact hi.device hplanning req_id (List.mem_filter.1 hrun).1 howned known (hfind h)
  · obtain ⟨hid, hresident⟩ := hi.planned out plan hflight req_id (List.mem_filter.1 hrun).1
    exact ⟨hid, fun known h => hresident known (hfind h)⟩
  · have hc := hi.configured h
    exact ⟨hc.lookahead, hc.connector, hc.block_size⟩

section Schedule

variable {stock : StockSchedule} (hd : DecodesAll t.engine.scheduler.lane stock) {r : Scheduled}
variable (hs : ScheduleSpec t.engine.scheduler stock r)

omit hi in
include hd hs in
/-- what is not scheduled is as it was -/
theorem unscheduled_find {req_id : ReqId} (hnot : req_id ∉ stock.output.req_ids) {request : Request}
    (h : r.scheduler.requests.find req_id = some request) : t.engine.scheduler.requests.find req_id = some request := by
  obtain ⟨old, hold, rfl⟩ := scheduled_find hs h
  rw [unscheduled hd (t.engine.scheduler.requests.keyed hold ▸ hnot)]
  exact hold

include hd hs in
/-- a Device-owned request that a step of the Host pauses may stay on the device -/
theorem DecodeInvariant.paused (hflight : t.engine.in_flight = none) (hnone : r.plan = none) {req_id : ReqId}
    (hrun : req_id ∈ r.scheduler.running) (howned : req_id ∈ r.scheduler.leases.device_owned) {request : Request}
    (h : r.scheduler.requests.find req_id = some request) :
    Resident t.engine.scheduler.config request ∧ 0 < request.num_output_tokens := by
  have hnot : req_id ∉ stock.output.req_ids := fun hmem => hs.host hnone req_id hmem howned
  rw [hs.scheduler] at hrun
  have hbefore := (afterStock_admitted hd hrun).resolve_right hnot
  have hidle : ¬t.engine.Planning := by
    rintro ⟨out, plan, hsome⟩
    rw [hflight] at hsome
    cases hsome
  exact hi.device hidle req_id hbefore (hs.owned howned) request (unscheduled_find hd hs hnot h)

omit hi in
include hs in
/-- what runs is in the plan, and may stay on the device -/
theorem planned_resident {plan : ResidentEpochPlan} (hplan : r.plan = some plan) {req_id : ReqId}
    (hrun : req_id ∈ r.scheduler.running) : req_id ∈ plan.req_ids ∧ ∀ request,
      r.scheduler.requests.find req_id = some request → Resident t.engine.scheduler.config request := by
  obtain ⟨-, hp⟩ := hs.plan plan hplan
  have hschedulable := (scheduleRejection_ok _ _ _).1 hp.schedule
  rw [hs.scheduler] at hrun
  have hid : req_id ∈ plan.req_ids := by
    rw [hp.ids, hschedulable.running]
    exact hrun
  refine ⟨hid, fun request h => ?_⟩
  obtain ⟨planned, hmem, rfl⟩ := List.mem_map.1 hid
  obtain ⟨known, hplanned⟩ := hp.requests planned hmem
  have hfind : (t.engine.scheduler.afterStock stock).requests.find planned.req_id = some request := by
    rw [hs.scheduler] at h
    exact h
  obtain rfl : known = request := Option.some.inj (hplanned.find.symm.trans hfind)
  have hprompt := hplanned.prompt
  rw [afterStock_config] at hprompt
  exact ⟨hplanned.eligible, hprompt⟩

include hs in
/-- a plan has checked the configuration -/
theorem DecodeInvariant.checked (hschedule : t.engine.scheduler.schedule stock = .ok r)
    (h : (∃ plan, r.plan = some plan) ∨ r.scheduler.leases.device_owned ≠ ∅) : Configured r.scheduler := by
  have hafter : Configured (t.engine.scheduler.afterStock stock) := by
    rcases h with ⟨plan, hplan⟩ | howned
    · have hschedulable := (scheduleRejection_ok _ _ _).1 (hs.plan plan hplan).2.schedule
      have hlookahead : (t.engine.scheduler.afterStock stock).num_lookahead_tokens = 0 := by
        rw [← (schedule_cases hschedule).1]
        unfold ResidentEpochScheduler.afterStock
        cases t.engine.scheduler.isolation <;> rfl
      exact ⟨hlookahead, hschedulable.connector, hschedulable.block_size⟩
    · refine afterStock_configured.2 (hi.configured (Or.inr fun hnone => howned ?_))
      refine Finset.eq_empty_of_forall_notMem fun req_id hmem => ?_
      have hbefore := hs.owned hmem
      rw [hnone] at hbefore
      cases hbefore
  rw [hs.scheduler]
  exact ⟨hafter.lookahead, hafter.connector, hafter.block_size⟩

end Schedule

theorem DecodeInvariant.schedule (hflight : t.engine.in_flight = none) {stock : StockSchedule}
    (hl : Legit t.engine.scheduler.lane stock) (hd : DecodesAll t.engine.scheduler.lane stock) {r : Scheduled}
    (hschedule : t.engine.scheduler.schedule stock = .ok r) {preempted : Finset ReqId}
    (hexact : ExactInvariant ⟨⟨r.scheduler, some (r.output, r.plan)⟩, preempted⟩) :
    DecodeInvariant ⟨⟨r.scheduler, some (r.output, r.plan)⟩, preempted⟩ := by
  have hw := hi.counts.engine.scheduler
  have hs := schedule_spec hw hl hschedule
  have hconfig : r.scheduler.config = t.engine.scheduler.config := by
    rw [hs.scheduler]
    exact afterStock_config _ _
  refine ⟨hexact, fun req_id request h => ?_, fun req_id hwait => ?_, fun hplanning req_id hrun howned request h => ?_,
    fun out plan hsome req_id hrun => ?_, fun h => hi.checked hs hschedule (h.imp_left ?_)⟩
  · obtain ⟨old, hold, rfl⟩ := scheduled_find hs h
    exact (hi.live req_id old hold).continues (scheduled_continues _ old)
  · have hwait : req_id ∈ (t.engine.scheduler.afterStock stock).waiting ++
        (t.engine.scheduler.afterStock stock).skipped_waiting := by
      rw [hs.scheduler] at hwait
      exact hwait
    obtain ⟨hbefore, hnot⟩ := afterStock_waits hw hl hd hwait
    refine ⟨?_, fun request h => (hi.waiting req_id hbefore).2 request (unscheduled_find hd hs hnot h)⟩
    rintro ⟨out, plan, hsome, hmem⟩
    cases hsome
    exact hnot (hs.output ▸ hmem)
  · have hnone : r.plan = none := by
      cases hplan : r.plan with
      | none => rfl
      | some plan => exact absurd ⟨r.output, plan, by rw [hplan]⟩ hplanning
    rw [hconfig]
    exact hi.paused hd hs hflight hnone hrun howned h
  · rw [hconfig]
    exact planned_resident hs (Prod.mk.inj (Option.some.inj hsome)).2 hrun
  · rintro ⟨out, plan, hsome⟩
    exact ⟨plan, (Prod.mk.inj (Option.some.inj hsome)).2⟩

/-- every request of an epoch has sampled a token -/
theorem DecodeInvariant.epoch {out : SchedulerOutput} {plan : ResidentEpochPlan}
    (hflight : t.engine.in_flight = some (out, some plan)) {output : ModelRunnerOutput} {result : ResidentEpochResult}
    {accounted : ResidentEpochScheduler}
    (haccount : t.engine.scheduler.applyResidentEpochAccounting out output plan result = .ok accounted) {req_id : ReqId}
    (hid : req_id ∈ plan.req_ids) {request : Request}
    (h : (accounted.superUpdate out output).requests.find req_id = some request) : 0 < request.num_output_tokens := by
  obtain ⟨old, hold, hgrown⟩ := superUpdate_live h
  obtain ⟨-, happended, -⟩ := hi.counts.accounted hflight haccount hid hold
  obtain ⟨_, _, ha⟩ := accounting_iff.1 haccount
  obtain ⟨planned, hplanned, rfl⟩ := List.mem_map.1 hid
  obtain ⟨hone, -, -⟩ := (resultValidate_steps ha.valid).2 planned hplanned
  have houtputs := hgrown.num_output_tokens
  omega

theorem DecodeInvariant.update {out : SchedulerOutput} {plan : Option ResidentEpochPlan}
    (hflight : t.engine.in_flight = some (out, plan)) {output : ModelRunnerOutput} {s : ResidentEpochScheduler}
    (hu : Updated t.engine.scheduler out output plan s) {preempted : Finset ReqId}
    (hexact : ExactInvariant ⟨⟨s, none⟩, preempted⟩) : DecodeInvariant ⟨⟨s, none⟩, preempted⟩ := by
  have hids (p : ResidentEpochPlan) (hp : plan = some p) : p.req_ids = out.req_ids :=
    (hi.counts.engine.plan out p (hp ▸ hflight)).ids
  refine ⟨hexact, fun req_id request h => ?_, fun req_id hwait => ?_, fun _ req_id hrun howned request h => ?_,
    fun _ _ h => (by cases h), fun h => ?_⟩
  · obtain ⟨old, hold, hcontinues⟩ := updated_continues hu h
    exact (hi.live req_id old hold).continues hcontinues
  · obtain ⟨hidle, hfresh⟩ := hi.waiting req_id (updated_waiting hu hwait)
    have hnot : req_id ∉ out.req_ids := fun hmem => hidle ⟨out, plan, hflight, hmem⟩
    exact ⟨Engine.unexecuted rfl req_id, fun request h => hfresh request (updated_others hu hids hnot h)⟩
  · have hbefore := updated_running hu hrun
    cases hu with
    | host _ =>
      have hidle : ¬t.engine.Planning := by
        rintro ⟨_, _, hsome⟩
        rw [hflight] at hsome
        cases hsome
      obtain ⟨old, hold, hcontinues⟩ := superUpdate_continues h
      obtain ⟨hresident, hpos⟩ := hi.device hidle req_id hbefore howned old hold
      exact ⟨hresident.continues hcontinues, hpos.trans_le hcontinues.outputs⟩
    | @epoch p _ _ hresult haccount =>
      obtain ⟨hid, hresident⟩ := hi.planned out p hflight req_id hbefore
      obtain ⟨old, hold, hcontinues⟩ := updated_continues (.epoch hresult haccount) h
      have hresident := (hresident old hold).continues hcontinues
      obtain ⟨_, _, ha⟩ := accounting_iff.1 haccount
      rw [ha.scheduler] at h ⊢
      exact ⟨hresident, hi.epoch hflight haccount hid (by rw [ha.scheduler]; exact h)⟩
  · refine updated_configured hu (hi.configured ?_)
    rcases h with ⟨_, _, hsome⟩ | howned
    · cases hsome
    · cases plan with
      | some p => exact Or.inl ⟨out, p, hflight⟩
      | none =>
        cases hu with
        | host _ => exact Or.inr howned

end Steps

theorem decode_step {t t' : Counted} {event : Event} (hi : DecodeInvariant t) (hevent : DecodingEvent t event)
    (h : CountedStep t event t') : DecodeInvariant t' := by
  have hexact := exact_step hi.toExactInvariant hevent.unpreempted h
  obtain ⟨hnext, -⟩ := countedStep_iff.1 h
  obtain ⟨engine', preempted'⟩ := t'
  dsimp only at hnext
  cases event with
  | arrive request =>
    obtain ⟨harriving, hnew, rfl⟩ := next_arrive hnext
    exact hi.arrive hnew harriving hevent.1 hexact
  | finish req_id =>
    cases hnext
    exact hi.finish hexact
  | schedule stock =>
    obtain ⟨hflight, hlegit, r, hschedule, rfl⟩ := next_schedule hnext
    exact hi.schedule hflight hlegit hevent.2 hschedule hexact
  | update output =>
    obtain ⟨out, plan, s, hflight, hupdate, rfl⟩ := next_update hnext
    exact hi.update hflight (update_cases hupdate) hexact

end Cruise.Scheduler
