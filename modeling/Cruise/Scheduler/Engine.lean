/-
The engine core around the scheduler: arrivals, finishes, schedules and updates, one at a time.

MODEL. The core is synchronous: a schedule is executed and updated before the next one, and requests come and go at any
point in between. An exception ends the run. `Engine.next` is one event; `none` where it raises or cannot happen.
- `next_arrive`, `next_schedule`, `next_update`: what each event is.
- `schedule_spec`: what a schedule does in a well-formed scheduler.
- `next_invariant`: queues, table, leases and the plan in flight stay well formed.
-/
import Cruise.Lib.Run
import Cruise.Scheduler.Update

namespace Cruise.Scheduler

open Cruise.Lib Cruise.Worker

/-! ## Events -/

inductive Event where
  | arrive (request : Request)
  /-- `finish_requests`, for an abort or by the client -/
  | finish (req_id : ReqId)
  | schedule (stock : StockSchedule)
  /-- `update_from_output` of what has been executed -/
  | update (output : ModelRunnerOutput)

structure Engine where
  scheduler : ResidentEpochScheduler
  /-- what `schedule` returned, until it is updated -/
  in_flight : Option (SchedulerOutput × Option ResidentEpochPlan)

/-- a request the front end lets through -/
structure Request.Arriving (request : Request) : Prop where
  outputs : request.output_token_ids = []
  computed : request.num_computed_tokens = 0
  prompt : request.prompt_token_ids ≠ []
  max_tokens : 1 ≤ request.max_tokens

instance (request : Request) : Decidable request.Arriving :=
  decidable_of_iff (request.output_token_ids = [] ∧ request.num_computed_tokens = 0 ∧ request.prompt_token_ids ≠ [] ∧
      1 ≤ request.max_tokens)
    ⟨fun ⟨h1, h2, h3, h4⟩ => ⟨h1, h2, h3, h4⟩, fun ⟨h1, h2, h3, h4⟩ => ⟨h1, h2, h3, h4⟩⟩

/-- `add_request` -/
def ResidentEpochScheduler.addRequest (s : ResidentEpochScheduler) (request : Request) : ResidentEpochScheduler :=
  { s with
    requests := s.requests.insert request
    waiting := s.waiting ++ [request.request_id] }

namespace Engine

def next (engine : Engine) : Event → Option Engine
  | .arrive request =>
    if request.Arriving ∧ (engine.scheduler.requests.find request.request_id).isNone then
      some { engine with scheduler := engine.scheduler.addRequest request }
    else none
  | .finish req_id => some { engine with scheduler := engine.scheduler.finishRequests [req_id] }
  | .schedule stock =>
    if engine.in_flight.isSome = true ∨ ¬Legit engine.scheduler.lane stock then none
    else
      match engine.scheduler.schedule stock with
      | .error _ => none
      | .ok r => some ⟨r.scheduler, some (r.output, r.plan)⟩
  | .update output =>
    match engine.in_flight with
    | none => none
    | some (out, plan) =>
      match engine.scheduler.updateFromOutput out plan output with
      | .error _ => none
      | .ok scheduler => some ⟨scheduler, none⟩

end Engine

/-- what the stock scheduler is configured with -/
structure StockConfig where
  check_stop : StopRule
  num_lookahead_tokens : ℕ
  connector : Bool
  ec_connector : Bool
  block_size : Int
  max_num_running_reqs : Int

/-- the scheduler as `__init__` leaves it -/
def ResidentEpochScheduler.fresh (config : ResidentEpochConfig) (stock : StockConfig) : ResidentEpochScheduler where
  config := config
  check_stop := stock.check_stop
  num_lookahead_tokens := stock.num_lookahead_tokens
  connector := stock.connector
  ec_connector := stock.ec_connector
  block_size := stock.block_size
  max_num_running_reqs := stock.max_num_running_reqs
  requests := .empty
  running := []
  waiting := []
  skipped_waiting := []
  block_ids := fun _ => []
  leases := .fresh

def Engine.fresh (config : ResidentEpochConfig) (stock : StockConfig) : Engine := ⟨.fresh config stock, none⟩

/-! ## What each event is -/

section Next

variable {engine engine' : Engine}

theorem next_arrive {request : Request} (h : engine.next (.arrive request) = some engine') :
    request.Arriving ∧ engine.scheduler.requests.find request.request_id = none ∧
      engine' = { engine with scheduler := engine.scheduler.addRequest request } := by
  unfold Engine.next at h
  dsimp only at h
  split_ifs at h with hnew
  cases h
  exact ⟨hnew.1, Option.isNone_iff_eq_none.1 hnew.2, rfl⟩

theorem next_schedule {stock : StockSchedule} (h : engine.next (.schedule stock) = some engine') :
    engine.in_flight = none ∧ Legit engine.scheduler.lane stock ∧ ∃ r, engine.scheduler.schedule stock = .ok r ∧
      engine' = ⟨r.scheduler, some (r.output, r.plan)⟩ := by
  unfold Engine.next at h
  dsimp only at h
  split_ifs at h with hblocked
  obtain ⟨hidle, hlegit⟩ := not_or.1 hblocked
  cases hschedule : engine.scheduler.schedule stock with
  | error e =>
    rw [hschedule] at h
    cases h
  | ok r =>
    rw [hschedule] at h
    cases h
    exact ⟨by simpa using hidle, not_not.1 hlegit, r, rfl, rfl⟩

theorem next_update {output : ModelRunnerOutput} (h : engine.next (.update output) = some engine') :
    ∃ out plan s, engine.in_flight = some (out, plan) ∧ engine.scheduler.updateFromOutput out plan output = .ok s ∧
      engine' = ⟨s, none⟩ := by
  unfold Engine.next at h
  dsimp only at h
  cases hflight : engine.in_flight with
  | none =>
    rw [hflight] at h
    cases h
  | some flight =>
    obtain ⟨out, plan⟩ := flight
    rw [hflight] at h
    dsimp only at h
    cases hupdate : engine.scheduler.updateFromOutput out plan output with
    | error e =>
      rw [hupdate] at h
      cases h
    | ok s =>
      rw [hupdate] at h
      cases h
      exact ⟨out, plan, s, rfl, hupdate, rfl⟩

end Next

/-! ## Well-formed schedulers -/

/-- all queues -/
def ResidentEpochScheduler.queued (s : ResidentEpochScheduler) : List ReqId :=
  s.running ++ s.waiting ++ s.skipped_waiting

/-- the queues hold the known requests, each once, and what is owned is leased -/
structure WellFormed (s : ResidentEpochScheduler) : Prop where
  config : s.config.Valid
  leases : LeaseInvariant s.config s.leases
  owned : ∀ req_id ∈ s.leases.device_owned, s.leases.leased req_id
  nodup : s.queued.Nodup
  known : ∀ req_id, req_id ∈ s.queued ↔ ∃ request, s.requests.find req_id = some request

theorem fresh_wellFormed {config : ResidentEpochConfig} (hconfig : config.Valid) (stock : StockConfig) :
    WellFormed (.fresh config stock) where
  config := hconfig
  leases := fresh_invariant config
  owned := fun _ h => (by cases h)
  nodup := .nil
  known := fun _ => iff_of_false (fun h => by cases h) (fun ⟨_, h⟩ => by cases h)

section Events

variable {s : ResidentEpochScheduler}

theorem addRequest_queued (s : ResidentEpochScheduler) (request : Request) :
    (s.addRequest request).queued.Perm (request.request_id :: s.queued) := by
  unfold ResidentEpochScheduler.queued ResidentEpochScheduler.addRequest
  dsimp only
  rw [← List.append_assoc s.running, List.append_assoc _ [request.request_id]]
  exact List.perm_middle

theorem addRequest_wellFormed (hw : WellFormed s) {request : Request}
    (hnew : s.requests.find request.request_id = none) : WellFormed (s.addRequest request) := by
  have hqueued := addRequest_queued s request
  have hunknown : request.request_id ∉ s.queued := by
    intro hmem
    obtain ⟨other, hother⟩ := (hw.known _).1 hmem
    rw [hnew] at hother
    cases hother
  refine ⟨hw.config, hw.leases, hw.owned, ?_, fun req_id => ?_⟩
  · exact hqueued.nodup_iff.2 (List.nodup_cons.2 ⟨hunknown, hw.nodup⟩)
  · rw [hqueued.mem_iff, List.mem_cons, hw.known]
    show _ ↔ ∃ r, (if req_id = request.request_id then some request else s.requests.find req_id) = some r
    by_cases hid : req_id = request.request_id
    · rw [if_pos hid]
      exact iff_of_true (Or.inl hid) ⟨_, rfl⟩
    · rw [if_neg hid]
      exact ⟨fun h => h.resolve_left hid, Or.inr⟩

theorem finishRequests_queued (s : ResidentEpochScheduler) (req_ids : List ReqId) :
    (s.finishRequests req_ids).queued = s.queued.filter fun req_id => req_id ∉ req_ids := by
  unfold ResidentEpochScheduler.queued ResidentEpochScheduler.finishRequests
  rw [List.filter_append, List.filter_append]

theorem finishRequests_wellFormed (hw : WellFormed s) (req_ids : List ReqId) : WellFormed (s.finishRequests req_ids) where
  config := hw.config
  leases := hw.leases
  owned := hw.owned
  nodup := by
    rw [finishRequests_queued]
    exact hw.nodup.filter _
  known := fun req_id => by
    rw [finishRequests_queued, List.mem_filter, decide_eq_true_eq, hw.known]
    constructor
    · rintro ⟨⟨request, hfind⟩, hid⟩
      exact ⟨request, (remove_find _ _ _ _).2 ⟨hid, hfind⟩⟩
    · rintro ⟨request, hfind⟩
      obtain ⟨hid, hfind⟩ := (remove_find _ _ _ _).1 hfind
      exact ⟨⟨request, hfind⟩, hid⟩

/-- a stock schedule moves requests between the queues, paused ones aside -/
theorem afterStock_queued {stock : StockSchedule} (hl : Legit s.lane stock) :
    (s.afterStock stock).queued.Perm s.queued := by
  have hqueues := hl.queues
  unfold ResidentEpochScheduler.lane at hqueues
  unfold ResidentEpochScheduler.afterStock
  cases hisolation : s.isolation with
  | none =>
    rw [hisolation] at hqueues
    exact hqueues
  | some reason =>
    rw [hisolation] at hqueues
    have hsplit : (s.deviceRunning ++ s.hostLane.running).Perm s.running := by
      have hperm := List.filter_append_perm (fun req_id => decide (req_id ∈ s.leases.device_owned)) s.running
      refine List.Perm.trans (List.Perm.of_eq ?_) hperm
      refine congrArg (s.deviceRunning ++ ·) (List.filter_congr fun req_id hmem => ?_)
      unfold ResidentEpochScheduler.deviceRunning
      simp [hmem]
    calc (s.restored stock).queued
        = s.deviceRunning ++ (stock.running ++ stock.waiting ++ stock.skipped_waiting) := by
          unfold ResidentEpochScheduler.queued ResidentEpochScheduler.restored ResidentEpochScheduler.superSchedule
          simp only [List.append_assoc]
      List.Perm _ (s.deviceRunning ++ s.hostLane.queued) := hqueues.append_left _
      List.Perm _ s.queued := by
          unfold ResidentEpochScheduler.queued
          rw [← List.append_assoc, ← List.append_assoc]
          exact (hsplit.append_right _).append_right _

theorem afterStock_wellFormed (hw : WellFormed s) {stock : StockSchedule} (hl : Legit s.lane stock) :
    WellFormed (s.afterStock stock) where
  config := by rw [afterStock_config]; exact hw.config
  leases := by rw [afterStock_config, afterStock_leases]; exact hw.leases
  owned := by rw [afterStock_leases]; exact hw.owned
  nodup := (afterStock_queued hl).nodup_iff.2 hw.nodup
  known := fun req_id => by
    rw [(afterStock_queued hl).mem_iff, hw.known, afterStock_requests]
    exact modify_known.symm

/-- the leases after plan making, in a well-formed scheduler -/
theorem makePlan_wellFormed (hw : WellFormed s) {out : SchedulerOutput} {leases : Leases}
    {made : Except Refusal ResidentEpochPlan} (h : makeResidentEpochPlan s out = (leases, made)) :
    WellFormed { s with leases := leases } ∧
      (leases = s.leases ∨ Schedulable s out ∧ Assigned s.config s.leases out.req_ids leases) := by
  rcases makePlan_leases h with rfl | ⟨hs, hassigned⟩
  · exact ⟨hw, Or.inl rfl⟩
  · have ha := assign_spec hw.leases hassigned
    refine ⟨⟨hw.config, ha.invariant, fun req_id hmem => ?_, hw.nodup, hw.known⟩, Or.inr ⟨hs, ha⟩⟩
    obtain ⟨howned, hkept⟩ := (ha.owned req_id).1 hmem
    exact (ha.leased req_id).2 (hkept (hw.owned req_id howned))

/-- a write to the requests changes no queue -/
theorem modified_wellFormed (hw : WellFormed s) {f : Request → Request}
    {hf : ∀ request, (f request).request_id = request.request_id} :
    WellFormed { s with requests := s.requests.modify f hf } where
  config := hw.config
  leases := hw.leases
  owned := hw.owned
  nodup := hw.nodup
  known := fun req_id =>
    (hw.known req_id).trans (modify_known.symm : _ ↔ ∃ request, (s.requests.modify f hf).find req_id = some request)

theorem superUpdate_wellFormed (hw : WellFormed s) (out : SchedulerOutput) (output : ModelRunnerOutput) :
    WellFormed (s.superUpdate out output) := finishRequests_wellFormed (modified_wellFormed hw) _

/-- a plan in flight is of what was scheduled, and of leases that still hold -/
structure Flight (leases : Leases) (out : SchedulerOutput) (plan : ResidentEpochPlan) : Prop where
  ids : plan.req_ids = out.req_ids
  leased : ∀ planned ∈ plan.requests, leases.leased planned.req_id
  device : ∀ planned ∈ plan.requests, planned.state_owner = .device → planned.req_id ∈ leases.device_owned

theorem mem_ownedBy {plan : ResidentEpochPlan} {req_id : ReqId} :
    req_id ∈ ownedBy plan ↔ ∃ planned ∈ plan.requests, planned.state_owner = .host ∧ planned.req_id = req_id := by
  unfold ownedBy
  rw [List.mem_toFinset, List.mem_map]
  simp only [List.mem_filter, decide_eq_true_eq, and_assoc]

theorem accounting_wellFormed (hw : WellFormed s) {out : SchedulerOutput} {output : ModelRunnerOutput}
    {plan : ResidentEpochPlan} {result : ResidentEpochResult} {s' : ResidentEpochScheduler}
    (hflight : Flight s.leases out plan) (h : s.applyResidentEpochAccounting out output plan result = .ok s') :
    WellFormed s' := by
  obtain ⟨_, extras, ha⟩ := accounting_iff.1 h
  rw [ha.scheduler]
  have hi := hw.leases
  refine ⟨hw.config, ⟨hi.keys, hi.ids, hi.rows, hi.range, hi.positive, hi.below, hi.increasing, hi.next⟩,
    fun req_id hmem => ?_, hw.nodup, (modified_wellFormed hw).known⟩
  dsimp only at hmem
  split_ifs at hmem
  · rcases Finset.mem_union.1 hmem with hmem | hmem
    · exact hw.owned req_id hmem
    · obtain ⟨planned, hplanned, -, rfl⟩ := mem_ownedBy.1 hmem
      exact hflight.leased planned hplanned
  · exact hw.owned req_id hmem

/-- the leases of a plan that has just been made -/
theorem planned_flight {out : SchedulerOutput} {leases : Leases} {plan : ResidentEpochPlan}
    (hp : Planned s out leases plan) : Flight leases out plan := by
  refine ⟨hp.ids, fun planned hmem => ?_, fun planned hmem howner => ?_⟩
  · obtain ⟨_, hplanned⟩ := hp.requests planned hmem
    obtain ⟨row, hrow, -⟩ := hplanned.row
    exact key_of_lookup hrow
  · obtain ⟨_, hplanned⟩ := hp.requests planned hmem
    by_contra hhost
    rw [hplanned.owner, if_neg hhost] at howner
    cases howner

end Events

/-! ## Runs -/

structure EngineInvariant (engine : Engine) : Prop where
  scheduler : WellFormed engine.scheduler
  plan : ∀ out plan, engine.in_flight = some (out, some plan) → Flight engine.scheduler.leases out plan

theorem fresh_engine {config : ResidentEpochConfig} (hconfig : config.Valid) (stock : StockConfig) :
    EngineInvariant (.fresh config stock) where
  scheduler := fresh_wellFormed hconfig stock
  plan := fun _ _ h => (by cases h)

/-- what a schedule in a well-formed scheduler does -/
structure ScheduleSpec (s : ResidentEpochScheduler) (stock : StockSchedule) (r : Scheduled) : Prop where
  wellFormed : WellFormed r.scheduler
  output : r.output = stock.output
  scheduler : r.scheduler = { s.afterStock stock with leases := r.scheduler.leases }
  leases : r.scheduler.leases = s.leases ∨
    Schedulable (s.afterStock stock) stock.output ∧ Assigned s.config s.leases stock.output.req_ids r.scheduler.leases
  host : r.plan = none → ∀ req_id ∈ stock.output.req_ids, req_id ∉ r.scheduler.leases.device_owned
  plan : ∀ plan, r.plan = some plan →
    s.isolation = none ∧ Planned (s.afterStock stock) stock.output r.scheduler.leases plan

theorem schedule_spec {s : ResidentEpochScheduler} (hw : WellFormed s) {stock : StockSchedule} (hl : Legit s.lane stock)
    {r : Scheduled} (h : s.schedule stock = .ok r) : ScheduleSpec s stock r := by
  have hw' := afterStock_wellFormed hw hl
  have hleases {leases : Leases} {made : Except Refusal ResidentEpochPlan}
      (hmade : makeResidentEpochPlan (s.afterStock stock) stock.output = (leases, made)) :
      leases = s.leases ∨
        Schedulable (s.afterStock stock) stock.output ∧ Assigned s.config s.leases stock.output.req_ids leases := by
    have hcases := (makePlan_wellFormed hw' hmade).2
    rwa [afterStock_config, afterStock_leases] at hcases
  obtain ⟨-, hout⟩ := schedule_cases h
  cases hout with
  | planned hisolation hmade =>
    refine ⟨(makePlan_wellFormed hw' hmade).1, rfl, rfl, hleases hmade, fun hnone => (by cases hnone), fun plan hplan => ?_⟩
    cases hplan
    exact ⟨hisolation, makePlan_spec hmade⟩
  | host hmade howned _ =>
    exact ⟨(makePlan_wellFormed hw' hmade).1, rfl, rfl, hleases hmade, fun _ => howned, fun plan hplan => by cases hplan⟩

/-! ### The leases of a schedule -/

section ScheduledLeases

variable {s : ResidentEpochScheduler} {stock : StockSchedule} {r : Scheduled} (hs : ScheduleSpec s stock r)

include hs

theorem ScheduleSpec.next : s.leases.next_generation ≤ r.scheduler.leases.next_generation := by
  rcases hs.leases with hleases | ⟨-, ha⟩
  · rw [hleases]
  · exact ha.next

/-- nothing becomes Device-owned in a schedule -/
theorem ScheduleSpec.owned {req_id : ReqId} (h : req_id ∈ r.scheduler.leases.device_owned) :
    req_id ∈ s.leases.device_owned := by
  rcases hs.leases with hleases | ⟨-, ha⟩
  · exact hleases ▸ h
  · exact ((ha.owned req_id).1 h).1

/-- a Device-owned request that is running stays so -/
theorem ScheduleSpec.stays {req_id : ReqId} (howned : req_id ∈ s.leases.device_owned)
    (hrun : req_id ∈ (s.afterStock stock).running) : req_id ∈ r.scheduler.leases.device_owned := by
  rcases hs.leases with hleases | ⟨hschedulable, ha⟩
  · exact hleases.symm ▸ howned
  · exact (ha.owned req_id).2 ⟨howned, fun _ => (hschedulable.running req_id).2 hrun⟩

end ScheduledLeases

theorem schedule_invariant {s : ResidentEpochScheduler} {stock : StockSchedule} {r : Scheduled}
    (h : ScheduleSpec s stock r) : EngineInvariant ⟨r.scheduler, some (r.output, r.plan)⟩ := by
  refine ⟨h.wellFormed, fun out plan hflight => ?_⟩
  obtain ⟨hout, hplan⟩ := Prod.mk.inj (Option.some.inj hflight)
  rw [← hout, h.output]
  exact planned_flight (h.plan plan hplan).2

theorem update_wellFormed {s s' : ResidentEpochScheduler} (hw : WellFormed s) {out : SchedulerOutput}
    {plan : Option ResidentEpochPlan} (hplan : ∀ p, plan = some p → Flight s.leases out p) {output : ModelRunnerOutput}
    (h : Updated s out output plan s') : WellFormed s' := by
  cases h with
  | host _ => exact superUpdate_wellFormed hw out output
  | epoch _ haccount => exact superUpdate_wellFormed (accounting_wellFormed hw (hplan _ rfl) haccount) out output

/-- **One event keeps the engine well formed.** -/
theorem next_invariant {engine engine' : Engine} {event : Event} (hi : EngineInvariant engine)
    (h : engine.next event = some engine') : EngineInvariant engine' := by
  cases event with
  | arrive request =>
    obtain ⟨-, hnew, rfl⟩ := next_arrive h
    exact ⟨addRequest_wellFormed hi.scheduler hnew, hi.plan⟩
  | finish req_id =>
    cases h
    exact ⟨finishRequests_wellFormed hi.scheduler _, hi.plan⟩
  | schedule stock =>
    obtain ⟨-, hlegit, r, hschedule, rfl⟩ := next_schedule h
    exact schedule_invariant (schedule_spec hi.scheduler hlegit hschedule)
  | update output =>
    obtain ⟨out, plan, s, hflight, hupdate, rfl⟩ := next_update h
    refine ⟨update_wellFormed hi.scheduler (fun p hp => ?_) (update_cases hupdate), fun _ _ h => by cases h⟩
    exact hi.plan out p (hp ▸ hflight)

/-- what is configured never changes -/
theorem next_configured {engine engine' : Engine} {event : Event} (h : engine.next event = some engine') :
    engine'.scheduler.config = engine.scheduler.config ∧ engine'.scheduler.check_stop = engine.scheduler.check_stop := by
  cases event with
  | arrive request =>
    obtain ⟨-, -, rfl⟩ := next_arrive h
    exact ⟨rfl, rfl⟩
  | finish req_id =>
    cases h
    exact ⟨rfl, rfl⟩
  | schedule stock =>
    obtain ⟨-, -, r, hschedule, rfl⟩ := next_schedule h
    obtain ⟨-, hout⟩ := schedule_cases hschedule
    cases hout with
    | planned _ _ => exact ⟨afterStock_config _ _, afterStock_check_stop _ _⟩
    | host _ _ _ => exact ⟨afterStock_config _ _, afterStock_check_stop _ _⟩
  | update output =>
    obtain ⟨out, plan, s, -, hupdate, rfl⟩ := next_update h
    cases update_cases hupdate with
    | host _ => exact ⟨rfl, rfl⟩
    | epoch _ haccount =>
      obtain ⟨_, _, ha⟩ := accounting_iff.1 haccount
      rw [ha.scheduler]
      exact ⟨rfl, rfl⟩

/-- one event of a run -/
def EngineStep (engine : Engine) (event : Event) (engine' : Engine) : Prop := engine.next event = some engine'

/-! ## Who is where after an event -/

section Queues

variable {s : ResidentEpochScheduler} {stock : StockSchedule}

theorem queued_iff {req_id : ReqId} :
    req_id ∈ s.queued ↔ req_id ∈ s.running ∨ req_id ∈ s.waiting ++ s.skipped_waiting := by
  unfold ResidentEpochScheduler.queued
  rw [List.append_assoc, List.mem_append]

theorem waiting_of_running (hw : WellFormed s) {req_id : ReqId} (h : req_id ∈ s.running) :
    req_id ∉ s.waiting ++ s.skipped_waiting := by
  have hnodup := hw.nodup
  unfold ResidentEpochScheduler.queued at hnodup
  rw [List.append_assoc] at hnodup
  exact fun hwait => (List.nodup_append.1 hnodup).2.2 req_id h req_id hwait rfl

/-- a running request stays so, or is preempted -/
theorem afterStock_kept (hl : Legit s.lane stock) {req_id : ReqId} (h : req_id ∈ s.running) :
    req_id ∈ (s.afterStock stock).running ∨ req_id ∈ stock.output.preempted_req_ids := by
  have hkept := hl.kept req_id
  unfold ResidentEpochScheduler.lane at hkept
  unfold ResidentEpochScheduler.afterStock
  cases hisolation : s.isolation with
  | none =>
    rw [hisolation] at hkept
    exact hkept h
  | some reason =>
    rw [hisolation] at hkept
    by_cases hpaused : req_id ∈ s.deviceRunning
    · exact Or.inl (List.mem_append_left _ hpaused)
    · have hhost : req_id ∈ s.hostLane.running := List.mem_filter.2 ⟨h, decide_eq_true hpaused⟩
      exact (hkept hhost).imp_left fun hrun => List.mem_append_right _ hrun

/-- what is scheduled is running -/
theorem afterStock_scheduled (hl : Legit s.lane stock) {req_id : ReqId} (h : req_id ∈ stock.output.req_ids) :
    req_id ∈ (s.afterStock stock).running := by
  obtain ⟨item, hitem, rfl⟩ := List.mem_map.1 h
  have hrun := (hl.scheduled item hitem).1
  unfold ResidentEpochScheduler.afterStock
  cases s.isolation with
  | none => exact hrun
  | some reason => exact List.mem_append_right _ hrun

variable {out : SchedulerOutput} {output : ModelRunnerOutput} {plan : Option ResidentEpochPlan}
variable {s' : ResidentEpochScheduler} {req_id : ReqId}

theorem updated_running (hu : Updated s out output plan s') (h : req_id ∈ s'.running) : req_id ∈ s.running := by
  cases hu with
  | host _ => exact (List.mem_filter.1 h).1
  | epoch _ haccount =>
    obtain ⟨_, _, ha⟩ := accounting_iff.1 haccount
    rw [ha.scheduler] at h
    exact (List.mem_filter.1 h).1

theorem finishRequests_waiting {req_ids : List ReqId}
    (h : req_id ∈ (s.finishRequests req_ids).waiting ++ (s.finishRequests req_ids).skipped_waiting) :
    req_id ∈ s.waiting ++ s.skipped_waiting := by
  rcases List.mem_append.1 h with h | h
  · exact List.mem_append_left _ (List.mem_filter.1 h).1
  · exact List.mem_append_right _ (List.mem_filter.1 h).1

theorem updated_waiting (hu : Updated s out output plan s') (h : req_id ∈ s'.waiting ++ s'.skipped_waiting) :
    req_id ∈ s.waiting ++ s.skipped_waiting := by
  cases hu with
  | host _ => exact finishRequests_waiting h
  | epoch _ haccount =>
    obtain ⟨_, _, ha⟩ := accounting_iff.1 haccount
    rw [ha.scheduler] at h
    exact finishRequests_waiting h

theorem updated_owned (hu : Updated s out output plan s') (h : req_id ∈ s.leases.device_owned) :
    req_id ∈ s'.leases.device_owned := by
  cases hu with
  | host _ => exact h
  | epoch _ haccount =>
    obtain ⟨_, _, ha⟩ := accounting_iff.1 haccount
    rw [ha.scheduler]
    show req_id ∈ ite _ _ _
    split_ifs
    · exact Finset.mem_union_left _ h
    · exact h

/-- what an update adds is of the plan -/
theorem updated_owned_iff (hu : Updated s out output plan s') (h : req_id ∈ s'.leases.device_owned) :
    req_id ∈ s.leases.device_owned ∨ ∃ p, plan = some p ∧ req_id ∈ p.req_ids := by
  cases hu with
  | host _ => exact Or.inl h
  | @epoch p _ _ _ haccount =>
    obtain ⟨_, _, ha⟩ := accounting_iff.1 haccount
    rw [ha.scheduler] at h
    have h : req_id ∈ ite _ _ _ := h
    split_ifs at h
    · refine (Finset.mem_union.1 h).imp_right fun h => ⟨p, rfl, ?_⟩
      obtain ⟨planned, hmem, -, rfl⟩ := mem_ownedBy.1 h
      exact List.mem_map_of_mem hmem
    · exact Or.inl h

theorem updated_leases (hu : Updated s out output plan s') : s'.leases.generations = s.leases.generations ∧
    s'.leases.next_generation = s.leases.next_generation := by
  cases hu with
  | host _ => exact ⟨rfl, rfl⟩
  | epoch _ haccount =>
    obtain ⟨_, _, ha⟩ := accounting_iff.1 haccount
    rw [ha.scheduler]
    exact ⟨rfl, rfl⟩

/-- the step was a device epoch -/
def onDevice (output : ModelRunnerOutput) : Bool := output.result.any fun result => result.route = .device

/-- after a device epoch all its requests are Device-owned -/
theorem updated_device (hu : Updated s out output plan s') (hplan : ∀ p, plan = some p → Flight s.leases out p)
    (hdevice : onDevice output = true) (h : req_id ∈ out.req_ids) : req_id ∈ s'.leases.device_owned := by
  unfold onDevice at hdevice
  cases hu with
  | host hresult =>
    rw [hresult] at hdevice
    cases hdevice
  | @epoch p result _ hresult haccount =>
    rw [hresult] at hdevice
    have hroute : result.route = .device := by simpa using hdevice
    have hf := hplan p rfl
    obtain ⟨_, _, ha⟩ := accounting_iff.1 haccount
    rw [ha.scheduler]
    show req_id ∈ ite _ _ _
    rw [if_pos hroute]
    obtain ⟨planned, hmem, rfl⟩ := List.mem_map.1 (hf.ids ▸ h : req_id ∈ p.req_ids)
    cases howner : planned.state_owner with
    | host => exact Finset.mem_union_right _ (mem_ownedBy.2 ⟨planned, hmem, howner, rfl⟩)
    | device => exact Finset.mem_union_left _ (hf.device planned hmem howner)

end Queues

/-! ## What becomes of a request -/

/-- a request after an event, next to the one before -/
inductive Rewritten : Event → Request → Request → Prop where
  | same {event request} : Rewritten event request request
  | scheduled {stock request} : Rewritten (.schedule stock) request (request.scheduled stock.output)
  | updated {check_stop output out extras request} :
      Rewritten (.update output) request ((request.advanced extras).updated check_stop out output).1

theorem superUpdate_find {s : ResidentEpochScheduler} {out : SchedulerOutput} {output : ModelRunnerOutput} {req_id : ReqId}
    {request : Request} (h : (s.superUpdate out output).requests.find req_id = some request) :
    ∃ old, s.requests.find req_id = some old ∧ (old.updated s.check_stop out output).1 = request :=
  Option.map_eq_some_iff.1 ((remove_find _ _ _ _).1 h).2

theorem updated_find {s s' : ResidentEpochScheduler} {out : SchedulerOutput} {output : ModelRunnerOutput}
    {plan : Option ResidentEpochPlan} (hu : Updated s out output plan s') {req_id : ReqId} {request : Request}
    (h : s'.requests.find req_id = some request) :
    ∃ old extras, s.requests.find req_id = some old ∧
      ((old.advanced extras).updated s.check_stop out output).1 = request := by
  cases hu with
  | host _ =>
    obtain ⟨old, hold, rfl⟩ := superUpdate_find h
    exact ⟨old, [], hold, rfl⟩
  | epoch _ haccount =>
    obtain ⟨_, extras, ha⟩ := accounting_iff.1 haccount
    obtain ⟨accounted, haccounted, rfl⟩ := superUpdate_find h
    rw [ha.scheduler] at haccounted ⊢
    obtain ⟨old, hold, rfl⟩ := Option.map_eq_some_iff.1 haccounted
    exact ⟨old, extras, hold, rfl⟩

/-- **A known request has just arrived, or is an earlier one rewritten.** -/
theorem next_find {engine engine' : Engine} {event : Event} (h : engine.next event = some engine') {req_id : ReqId}
    {request : Request} (hfind : engine'.scheduler.requests.find req_id = some request) :
    (event = .arrive request ∧ request.Arriving) ∨
      ∃ old, engine.scheduler.requests.find req_id = some old ∧ Rewritten event old request := by
  cases event with
  | arrive new =>
    obtain ⟨harriving, -, rfl⟩ := next_arrive h
    have hfind : (if req_id = new.request_id then some new else engine.scheduler.requests.find req_id) = some request :=
      hfind
    split_ifs at hfind
    · cases hfind
      exact Or.inl ⟨rfl, harriving⟩
    · exact Or.inr ⟨request, hfind, .same⟩
  | finish _ =>
    cases h
    exact Or.inr ⟨request, ((remove_find _ _ _ _).1 hfind).2, .same⟩
  | schedule stock =>
    obtain ⟨-, -, r, hschedule, rfl⟩ := next_schedule h
    obtain ⟨-, hout⟩ := schedule_cases hschedule
    have hrequests : r.scheduler.requests = (engine.scheduler.afterStock stock).requests := by cases hout <;> rfl
    rw [hrequests, afterStock_requests] at hfind
    obtain ⟨old, hold, rfl⟩ := modify_find.1 hfind
    exact Or.inr ⟨old, hold, .scheduled⟩
  | update output =>
    obtain ⟨out, plan, s, -, hupdate, rfl⟩ := next_update h
    obtain ⟨old, extras, hold, rfl⟩ := updated_find (update_cases hupdate) hfind
    exact Or.inr ⟨old, hold, .updated⟩

/-! ## Small runs -/

/-- the stock scheduler without lookahead or connectors -/
def StockConfig.plain (max_num_running_reqs : Int) : StockConfig :=
  ⟨.eosOrLimit, 0, false, false, 128, max_num_running_reqs⟩

/-- a greedy request as it arrives -/
def greedyRequest (req_id : ReqId) (prompt_token_ids : List Int) (max_tokens : ℕ) (eos_token_id : Int) : Request where
  request_id := req_id
  prompt_token_ids := prompt_token_ids
  output_token_ids := []
  num_computed_tokens := 0
  max_tokens := max_tokens
  pooling_params := false
  mm_features := false
  lora_request := false
  prompt_embeds := false
  use_structured_output := false
  sampling_params := some (.greedy eos_token_id)

/-- a stock schedule without drafts or encoder inputs, with one block for each request -/
def plainStock (num_scheduled_tokens : List (ReqId × ℕ)) (distinct : (num_scheduled_tokens.map Prod.fst).Nodup)
    (preempted_req_ids running waiting : List ReqId) : StockSchedule where
  output := ⟨num_scheduled_tokens, distinct, false, false, preempted_req_ids⟩
  running := running
  waiting := waiting
  skipped_waiting := []
  block_ids := fun req_id => [[(req_id : Int)]]

/-- one request is scheduled, and runs -/
def soloStock (req_id : ReqId) (num_tokens : ℕ) : StockSchedule :=
  plainStock [(req_id, num_tokens)] (List.nodup_singleton req_id) [] [req_id] []

def hostOutput (sampled : List (ReqId × List Int)) : ModelRunnerOutput := ⟨sampled.map Prod.fst, sampled.map Prod.snd, none⟩

/-- the output of a device epoch -/
def deviceOutput (sampled : List (ReqId × List Int)) (row_generations : List Int) (kv_imported : Bool) :
    ModelRunnerOutput where
  req_ids := sampled.map Prod.fst
  sampled_token_ids := sampled.map Prod.snd
  result := some {
    version := CONTRACT_VERSION
    route := .device
    status := 0
    model_calls := ((sampled.map fun item => (item.2.length : Int)).max?).getD 0
    computed_steps := sampled.map fun item => (item.1, (item.2.length : Int))
    row_generations := row_generations
    commit_state := .committed
    fallback_safe := false
    feed_calls := 1
    fetch_calls := 1
    wall_us := 0
    native_cpu_us := 0
    declared_input_bytes := 0
    declared_output_bytes := 0
    socket_send_calls := 1
    socket_receive_calls := 1
    kv_imported := kv_imported
    kv_import_checksum := if kv_imported then 1 else 0
    kv_snapshot_checksum := 0
    kv_transfer_mode := if kv_imported then .deviceIpc else .none }

end Cruise.Scheduler
