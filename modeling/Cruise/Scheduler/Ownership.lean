/-
Who executes what: the Host never executes a request whose state is on the device, unless it was preempted.

MODEL. `History` is a ghost: the requests whose latest executed step was a committed device epoch, and those preempted
since. An executed step is of the scheduled requests that are still running. A request that arrives has no past, whatever
its id was used for before.
Results:
- `ownership_holds`: over every run, a step without a plan schedules no committed request that has not been preempted, and
  every committed running request that has not been preempted is Device-owned and leased.
- `preempted_runs_on_host`: a preempted request is executed on the Host although its last step was a device epoch.
-/
import Cruise.Scheduler.Engine

namespace Cruise.Scheduler

open Cruise.Lib Cruise.Worker

/-! ## History -/

structure History where
  /-- the latest executed step was a committed device epoch -/
  committed : Finset ReqId
  /-- preempted since then, or since the arrival -/
  preempted : Finset ReqId

def History.empty : History := ⟨∅, ∅⟩

/-- the requests a step has executed -/
def executed (s : ResidentEpochScheduler) (out : SchedulerOutput) : Finset ReqId :=
  (out.req_ids.filter fun req_id => req_id ∈ s.running).toFinset

theorem mem_executed {s : ResidentEpochScheduler} {out : SchedulerOutput} {req_id : ReqId} :
    req_id ∈ executed s out ↔ req_id ∈ out.req_ids ∧ req_id ∈ s.running := by
  unfold executed
  rw [List.mem_toFinset, List.mem_filter, decide_eq_true_eq]

def History.next (history : History) (engine : Engine) : Event → History
  | .arrive request => ⟨history.committed.erase request.request_id, history.preempted.erase request.request_id⟩
  | .finish _ => history
  | .schedule stock => { history with preempted := history.preempted ∪ stock.output.preempted_req_ids.toFinset }
  | .update output =>
    match engine.in_flight with
    | none => history
    | some (out, _) =>
      let ran := executed engine.scheduler out
      if onDevice output then ⟨history.committed ∪ ran, history.preempted \ ran⟩
      else { history with committed := history.committed \ ran }

structure Traced where
  engine : Engine
  history : History

def Traced.next (t : Traced) (event : Event) : Option Traced :=
  (t.engine.next event).map fun engine => ⟨engine, t.history.next t.engine event⟩

/-- one event of a traced run -/
def TracedStep (t : Traced) (event : Event) (t' : Traced) : Prop := t.next event = some t'

def Traced.fresh (config : ResidentEpochConfig) (stock : StockConfig) : Traced := ⟨.fresh config stock, .empty⟩

theorem tracedStep_iff {t t' : Traced} {event : Event} :
    TracedStep t event t' ↔ t.engine.next event = some t'.engine ∧ t'.history = t.history.next t.engine event := by
  unfold TracedStep Traced.next
  rw [Option.map_eq_some_iff]
  constructor
  · rintro ⟨engine, hengine, rfl⟩
    exact ⟨hengine, rfl⟩
  · rintro ⟨hengine, hhistory⟩
    exact ⟨t'.engine, hengine, by rw [← hhistory]⟩

/-! ## The invariant -/

structure OwnershipInvariant (t : Traced) : Prop where
  engine : EngineInvariant t.engine
  running : ∀ req_id ∈ t.engine.scheduler.running, req_id ∈ t.history.committed → req_id ∉ t.history.preempted →
    req_id ∈ t.engine.scheduler.leases.device_owned
  waiting : ∀ req_id ∈ t.engine.scheduler.waiting ++ t.engine.scheduler.skipped_waiting,
    req_id ∈ t.history.committed → req_id ∈ t.history.preempted

section Steps

variable {t : Traced} (hi : OwnershipInvariant t)

include hi

theorem OwnershipInvariant.arrive {request : Request} (hnew : t.engine.scheduler.requests.find request.request_id = none) :
    OwnershipInvariant ⟨{ t.engine with scheduler := t.engine.scheduler.addRequest request },
      t.history.next t.engine (.arrive request)⟩ := by
  refine ⟨⟨addRequest_wellFormed hi.engine.scheduler hnew, hi.engine.plan⟩, fun req_id hrun hcommit hpre => ?_,
    fun req_id hwait hcommit => ?_⟩
  · obtain ⟨hne, hcommit⟩ := Finset.mem_erase.1 hcommit
    exact hi.running req_id hrun hcommit fun hmem => hpre (Finset.mem_erase.2 ⟨hne, hmem⟩)
  · obtain ⟨hne, hcommit⟩ := Finset.mem_erase.1 hcommit
    refine Finset.mem_erase.2 ⟨hne, hi.waiting req_id ?_ hcommit⟩
    have hwait : req_id ∈ (t.engine.scheduler.waiting ++ [request.request_id]) ++ t.engine.scheduler.skipped_waiting := hwait
    simp only [List.mem_append, List.mem_singleton] at hwait ⊢
    tauto

theorem OwnershipInvariant.finish (req_ids : List ReqId) : OwnershipInvariant
    ⟨{ t.engine with scheduler := t.engine.scheduler.finishRequests req_ids }, t.history⟩ := by
  refine ⟨⟨finishRequests_wellFormed hi.engine.scheduler _, hi.engine.plan⟩, fun req_id hrun => ?_, fun req_id hwait => ?_⟩
  · exact hi.running req_id (List.mem_filter.1 hrun).1
  · refine hi.waiting req_id ?_
    rcases List.mem_append.1 hwait with hwait | hwait
    · exact List.mem_append_left _ (List.mem_filter.1 hwait).1
    · exact List.mem_append_right _ (List.mem_filter.1 hwait).1

/-- who is running after a schedule, committed and not preempted, was so before -/
theorem OwnershipInvariant.schedule {stock : StockSchedule} (hl : Legit t.engine.scheduler.lane stock) {r : Scheduled}
    (hs : ScheduleSpec t.engine.scheduler stock r) :
    OwnershipInvariant ⟨⟨r.scheduler, some (r.output, r.plan)⟩, t.history.next t.engine (.schedule stock)⟩ := by
  have hw := hi.engine.scheduler
  have hqueued := afterStock_queued hl
  have hrunning : r.scheduler.running = (t.engine.scheduler.afterStock stock).running := by rw [hs.scheduler]
  refine ⟨schedule_invariant hs, fun req_id hrun hcommit hpre => ?_, fun req_id hwait hcommit => ?_⟩
  · have hpre : req_id ∉ t.history.preempted ∪ stock.output.preempted_req_ids.toFinset := hpre
    rw [Finset.mem_union, not_or] at hpre
    have hrun : req_id ∈ (t.engine.scheduler.afterStock stock).running := hrunning ▸ hrun
    have hbefore : req_id ∈ t.engine.scheduler.running := by
      rcases queued_iff.1 (hqueued.mem_iff.1 (queued_iff.2 (Or.inl hrun))) with h | h
      · exact h
      · exact absurd (hi.waiting req_id h hcommit) hpre.1
    exact hs.stays (hi.running req_id hbefore hcommit hpre.1) hrun
  · refine Finset.mem_union.2 ?_
    have hwait : req_id ∈ (t.engine.scheduler.afterStock stock).waiting ++
        (t.engine.scheduler.afterStock stock).skipped_waiting := by
      rw [hs.scheduler] at hwait
      exact hwait
    rcases queued_iff.1 (hqueued.mem_iff.1 (queued_iff.2 (Or.inr hwait))) with h | h
    · rcases afterStock_kept hl h with hrun | hpre
      · exact absurd hwait (waiting_of_running (afterStock_wellFormed hw hl) hrun)
      · exact Or.inr (List.mem_toFinset.2 hpre)
    · exact Or.inl (hi.waiting req_id h hcommit)

/-- a device epoch makes its requests Device-owned, a Host step leaves the set as it is -/
theorem OwnershipInvariant.update {out : SchedulerOutput} {plan : Option ResidentEpochPlan}
    (hflight : t.engine.in_flight = some (out, plan)) {output : ModelRunnerOutput} {s : ResidentEpochScheduler}
    (hu : Updated t.engine.scheduler out output plan s) :
    OwnershipInvariant ⟨⟨s, none⟩, t.history.next t.engine (.update output)⟩ := by
  have hw := hi.engine.scheduler
  have hplan (p : ResidentEpochPlan) (hp : plan = some p) : Flight t.engine.scheduler.leases out p :=
    hi.engine.plan out p (hp ▸ hflight)
  have hnext : t.history.next t.engine (.update output) =
      if onDevice output then
        ⟨t.history.committed ∪ executed t.engine.scheduler out, t.history.preempted \ executed t.engine.scheduler out⟩
      else { t.history with committed := t.history.committed \ executed t.engine.scheduler out } := by
    unfold History.next
    rw [hflight]
  rw [hnext]
  refine ⟨⟨update_wellFormed hw hplan hu, fun _ _ h => by cases h⟩, fun req_id hrun hcommit hpre => ?_,
    fun req_id hwait hcommit => ?_⟩
  · have hbefore := updated_running hu hrun
    by_cases hdevice : onDevice output = true
    · rw [if_pos hdevice] at hcommit hpre
      rcases Finset.mem_union.1 hcommit with hcommit | hran
      · by_cases hran : req_id ∈ executed t.engine.scheduler out
        · exact updated_device hu hplan hdevice (mem_executed.1 hran).1
        · have hpre : req_id ∉ t.history.preempted := fun hmem => hpre (Finset.mem_sdiff.2 ⟨hmem, hran⟩)
          exact updated_owned hu (hi.running req_id hbefore hcommit hpre)
      · exact updated_device hu hplan hdevice (mem_executed.1 hran).1
    · rw [if_neg hdevice] at hcommit hpre
      exact updated_owned hu (hi.running req_id hbefore (Finset.mem_sdiff.1 hcommit).1 hpre)
  · have hbefore := updated_waiting hu hwait
    have hran : req_id ∉ executed t.engine.scheduler out := fun h =>
      waiting_of_running hw (mem_executed.1 h).2 hbefore
    by_cases hdevice : onDevice output = true
    · rw [if_pos hdevice] at hcommit ⊢
      have hcommit := (Finset.mem_union.1 hcommit).resolve_right hran
      exact Finset.mem_sdiff.2 ⟨hi.waiting req_id hbefore hcommit, hran⟩
    · rw [if_neg hdevice] at hcommit ⊢
      exact hi.waiting req_id hbefore (Finset.mem_sdiff.1 hcommit).1

end Steps

theorem ownership_step {t t' : Traced} {event : Event} (hi : OwnershipInvariant t) (h : TracedStep t event t') :
    OwnershipInvariant t' := by
  obtain ⟨engine', history'⟩ := t'
  obtain ⟨hnext, hhistory⟩ := tracedStep_iff.1 h
  dsimp only at hnext hhistory
  subst hhistory
  cases event with
  | arrive request =>
    obtain ⟨-, hnew, rfl⟩ := next_arrive hnext
    exact hi.arrive hnew
  | finish req_id =>
    cases hnext
    exact hi.finish [req_id]
  | schedule stock =>
    obtain ⟨-, hlegit, r, hschedule, rfl⟩ := next_schedule hnext
    exact hi.schedule hlegit (schedule_spec hi.engine.scheduler hlegit hschedule)
  | update output =>
    obtain ⟨out, plan, s, hflight, hupdate, rfl⟩ := next_update hnext
    exact hi.update hflight (update_cases hupdate)

theorem fresh_ownership {config : ResidentEpochConfig} (hconfig : config.Valid) (stock : StockConfig) :
    OwnershipInvariant (.fresh config stock) where
  engine := fresh_engine hconfig stock
  running := fun _ h => (by cases h)
  waiting := fun _ h => (by cases h)

/-- what is wanted of every state reached -/
structure NoHostExecution (t : Traced) : Prop where
  /-- a schedule without a plan has committed requests only if they were preempted -/
  host : ∀ stock t' out, TracedStep t (.schedule stock) t' → t'.engine.in_flight = some (out, none) →
    ∀ req_id ∈ out.req_ids, req_id ∈ t'.history.committed → req_id ∈ t'.history.preempted
  owned : ∀ req_id ∈ t.engine.scheduler.running, req_id ∈ t.history.committed → req_id ∉ t.history.preempted →
    req_id ∈ t.engine.scheduler.leases.device_owned ∧ t.engine.scheduler.leases.leased req_id

/-- **No Host execution of Device-owned state.** -/
theorem ownership_holds {config : ResidentEpochConfig} (hconfig : config.Valid) {start : StockConfig} {t : Traced}
    (h : Run TracedStep (fun _ _ => True) (.fresh config start) t) : NoHostExecution t := by
  have hi : OwnershipInvariant t := h.invariant (fresh_ownership hconfig _) fun _ _ _ hi hs _ => ownership_step hi hs
  refine ⟨fun stock t' out hstep hhost req_id hmem hcommit => ?_, fun req_id hrun hcommit hpre => ?_⟩
  · by_contra hpre
    have hi' := ownership_step hi hstep
    obtain ⟨-, hlegit, r, hschedule, hengine⟩ := next_schedule (tracedStep_iff.1 hstep).1
    have hs := schedule_spec hi.engine.scheduler hlegit hschedule
    rw [hengine] at hhost
    obtain ⟨hout, hplan⟩ := Prod.mk.inj (Option.some.inj hhost)
    have hmem : req_id ∈ stock.output.req_ids := by rwa [← hs.output, hout]
    -- it is running and not Device-owned, so the invariant says it was preempted
    have hrun : req_id ∈ t'.engine.scheduler.running := by
      rw [hengine]
      dsimp only
      rw [hs.scheduler]
      exact afterStock_scheduled hlegit hmem
    have howned := hi'.running req_id hrun hcommit hpre
    rw [hengine] at howned
    exact hs.host hplan req_id hmem howned
  · have howned := hi.running req_id hrun hcommit hpre
    exact ⟨howned, hi.engine.scheduler.owned req_id howned⟩

/-- a request is planned, and two steps of it are committed -/
def committedEvents : List Event := [
  .arrive (greedyRequest 1 [7] 4 9),
  .schedule (soloStock 1 1),
  .update (deviceOutput [(1, [5, 6])] [1, 0, 0, 0] false)]

theorem ownership_holds_committed : ∃ t : Traced, NoHostExecution t ∧ 1 ∈ t.engine.scheduler.running ∧
    1 ∈ t.history.committed := by
  have h : ((Run.after Traced.next (fun _ _ => True) (.fresh (.make 2 8) (.plain 8)) committedEvents).any fun t =>
      decide (1 ∈ t.engine.scheduler.running ∧ 1 ∈ t.history.committed)) = true := by decide +kernel
  obtain ⟨t, ht, h⟩ := (Option.any_eq_true _ _).1 h
  exact ⟨t, ownership_holds ((ResidentEpochConfig.validate_ok_iff _).1 (by decide)) (Run.of_after ht),
    of_decide_eq_true h⟩

/-- it is preempted, by a request that was prefilled in the Host lane and then runs to its end -/
def preemptedEvents : List Event := committedEvents ++ [
  .arrive (greedyRequest 2 [7, 7] 3 9),
  .schedule (soloStock 2 2),
  .update (hostOutput [(2, [5])]),
  .schedule (plainStock [(2, 1)] (by decide) [1] [2] [1]),
  .update (hostOutput [(2, [5])]),
  .schedule (plainStock [(2, 1)] (by decide) [] [2] [1]),
  .update (deviceOutput [(2, [5])] [2, 0, 0, 0] true)]

/-- **A preempted request runs on the Host.** Its latest executed step was a committed device epoch, and it is unfinished. -/
theorem preempted_runs_on_host : ∃ t t' stock out, Run TracedStep (fun _ _ => True) (.fresh (.make 2 8) (.plain 8)) t ∧
    TracedStep t (.schedule stock) t' ∧ t'.engine.in_flight = some (out, none) ∧
    1 ∈ out.req_ids ∧ 1 ∈ t'.history.committed ∧ (t'.engine.scheduler.requests.find 1).isSome = true := by
  have h : ((Run.after Traced.next (fun _ _ => True) (.fresh (.make 2 8) (.plain 8)) preemptedEvents).any fun t =>
      (t.next (.schedule (soloStock 1 3))).any fun t' =>
        t'.engine.in_flight.any fun flight => flight.2 = none ∧ 1 ∈ flight.1.req_ids ∧ 1 ∈ t'.history.committed ∧
          (t'.engine.scheduler.requests.find 1).isSome = true) = true := by decide +kernel
  obtain ⟨t, ht, h⟩ := (Option.any_eq_true _ _).1 h
  obtain ⟨t', ht', h⟩ := (Option.any_eq_true _ _).1 h
  obtain ⟨⟨out, plan⟩, hflight, h⟩ := (Option.any_eq_true _ _).1 h
  obtain ⟨rfl, hmem, hcommit, hknown⟩ := of_decide_eq_true h
  exact ⟨t, t', _, out, Run.of_after ht, ht', hflight, hmem, hcommit, hknown⟩

end Cruise.Scheduler
