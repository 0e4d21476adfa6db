/-
Request ids that are used again: what a new request inherits from the one that had its id.

MODEL. `Admissions` is a ghost: the requests planned since they arrived, and the next generation at their arrival.
Results:
- `readmission_cleared`: in every state reached, a schedule inherits nothing if no request that was not planned since it
  arrived comes to it as Device-owned, or to a row, under a lease from before its arrival.
- `readmission_holds`: in a run in which no request arrives under an id that is leased, no schedule inherits anything.
- `readmitted_refused`: an aborted id that is used again at once is refused its Host prefill.
-/
import Cruise.Scheduler.Engine

namespace Cruise.Scheduler

open Cruise.Lib Cruise.Worker

/-! ## Admissions -/

structure Admissions where
  /-- planned since the arrival -/
  planned : Finset ReqId
  /-- the next generation at the arrival -/
  generation : ReqId → Int

def plannedIds : Option (SchedulerOutput × Option ResidentEpochPlan) → Finset ReqId
  | some (_, some plan) => plan.req_ids.toFinset
  | _ => ∅

def Admissions.next (admissions : Admissions) (engine engine' : Engine) : Event → Admissions
  | .arrive request =>
    { planned := admissions.planned.erase request.request_id
      generation := Function.update admissions.generation request.request_id engine.scheduler.leases.next_generation }
  | .schedule _ => { admissions with planned := admissions.planned ∪ plannedIds engine'.in_flight }
  | _ => admissions

structure Admitted where
  engine : Engine
  admissions : Admissions

def Admitted.fresh (config : ResidentEpochConfig) (stock : StockConfig) : Admitted := ⟨.fresh config stock, ∅, fun _ => 1⟩

def Admitted.next (t : Admitted) (event : Event) : Option Admitted :=
  (t.engine.next event).map fun engine => ⟨engine, t.admissions.next t.engine engine event⟩

def AdmittedStep (t : Admitted) (event : Event) (t' : Admitted) : Prop := t.next event = some t'

/-- nothing is left of the id's last use -/
def Unused (t : Admitted) : Event → Prop
  | .arrive request => ¬t.engine.scheduler.leases.leased request.request_id ∧
      request.request_id ∉ t.engine.scheduler.leases.device_owned
  | _ => True

/-- a request that has not been planned since it arrived -/
def Unplanned (t : Admitted) (req_id : ReqId) : Prop :=
  req_id ∈ t.engine.scheduler.queued ∧ req_id ∉ t.admissions.planned

/-- the id has a lease from before the request arrived -/
def Stale (t : Admitted) (req_id : ReqId) : Prop :=
  ∃ g ∈ t.engine.scheduler.leases.generations.lookup req_id, g < t.admissions.generation req_id

/-- who comes to a schedule under such a lease is not Device-owned, and gets to no row -/
def Cleared (t : Admitted) (stock : StockSchedule) : Prop :=
  ∀ req_id ∈ stock.output.req_ids, Unplanned t req_id → Stale t req_id →
    req_id ∉ t.engine.scheduler.leases.device_owned ∧
      ¬Schedulable (t.engine.scheduler.afterStock stock) stock.output

/-! ## The invariant -/

structure AdmissionInvariant (t : Admitted) : Prop where
  engine : EngineInvariant t.engine
  bound : ∀ req_id, t.admissions.generation req_id ≤ t.engine.scheduler.leases.next_generation
  /-- what is in flight for an id that was not planned since is its earlier request's -/
  flight : ∀ req_id ∈ plannedIds t.engine.in_flight, req_id ∉ t.admissions.planned → Stale t req_id
  owned : ∀ req_id, Unplanned t req_id → req_id ∈ t.engine.scheduler.leases.device_owned → Stale t req_id

theorem fresh_admissions {config : ResidentEpochConfig} (hconfig : config.Valid) (stock : StockConfig) :
    AdmissionInvariant (.fresh config stock) where
  engine := fresh_engine hconfig stock
  bound := fun _ => le_rfl
  flight := fun _ h => (by cases h)
  owned := fun _ h => (by cases h.1)

/-- the generation of a lease has been issued -/
theorem leased_issued {config : ResidentEpochConfig} {leases : Leases} (hi : LeaseInvariant config leases) {req_id : ReqId}
    (h : leases.leased req_id) : ∃ g ∈ leases.generations.lookup req_id, g < leases.next_generation := by
  obtain ⟨item, hitem, rfl⟩ := List.mem_map.1 ((leased_generations hi req_id).1 h)
  have hids : (leases.generations.map Prod.fst).Nodup := hi.keys ▸ hi.ids
  exact ⟨item.2, (lookup_iff_mem hids).2 hitem, hi.below item hitem⟩

theorem plannedIds_leased {engine : Engine} (hi : EngineInvariant engine) {req_id : ReqId}
    (h : req_id ∈ plannedIds engine.in_flight) : engine.scheduler.leases.leased req_id := by
  unfold plannedIds at h
  split at h
  · rename_i out plan hflight
    obtain ⟨planned, hmem, rfl⟩ := List.mem_map.1 (List.mem_toFinset.1 h)
    exact (hi.plan out plan hflight).leased planned hmem
  · cases h

section Steps

variable {t : Admitted} (hi : AdmissionInvariant t)

/-- a request that another one's arrival finds unplanned -/
theorem unplanned_before {request : Request} {req_id : ReqId} (hne : req_id ≠ request.request_id)
    (h : req_id ∈ (t.engine.scheduler.addRequest request).queued ∧ req_id ∉ t.admissions.planned.erase request.request_id) :
    Unplanned t req_id := by
  refine ⟨?_, fun hmem => h.2 (Finset.mem_erase.2 ⟨hne, hmem⟩)⟩
  exact (List.mem_cons.1 ((addRequest_queued _ _).mem_iff.1 h.1)).resolve_left hne

include hi

theorem AdmissionInvariant.arrive {request : Request}
    (hnew : t.engine.scheduler.requests.find request.request_id = none) :
    AdmissionInvariant ⟨{ t.engine with scheduler := t.engine.scheduler.addRequest request },
      t.admissions.next t.engine { t.engine with scheduler := t.engine.scheduler.addRequest request } (.arrive request)⟩ := by
  have hw := hi.engine.scheduler
  -- whatever lease the id has is from before
  have harrived (hleased : t.engine.scheduler.leases.leased request.request_id) : ∃ g ∈
      t.engine.scheduler.leases.generations.lookup request.request_id, g < Function.update t.admissions.generation
        request.request_id t.engine.scheduler.leases.next_generation request.request_id := by
    rw [Function.update_self]
    exact leased_issued hw.leases hleased
  have hother {req_id : ReqId} (hne : req_id ≠ request.request_id) (hstale : Stale t req_id) : ∃ g ∈
      t.engine.scheduler.leases.generations.lookup req_id, g < Function.update t.admissions.generation
        request.request_id t.engine.scheduler.leases.next_generation req_id := by
    rw [Function.update_of_ne hne]
    exact hstale
  refine ⟨⟨addRequest_wellFormed hw hnew, hi.engine.plan⟩, fun req_id => ?_, fun req_id hmem hunplanned => ?_,
    fun req_id h howned => ?_⟩
  · by_cases hid : req_id = request.request_id
    · subst hid
      exact (Function.update_self ..).le
    · exact (Function.update_of_ne hid ..).le.trans (hi.bound req_id)
  · by_cases hid : req_id = request.request_id
    · subst hid
      exact harrived (plannedIds_leased hi.engine hmem)
    · exact hother hid (hi.flight req_id hmem fun hplanned => hunplanned (Finset.mem_erase.2 ⟨hid, hplanned⟩))
  · by_cases hid : req_id = request.request_id
    · subst hid
      exact harrived (hw.owned request.request_id howned)
    · exact hother hid (hi.owned req_id (unplanned_before hid h) howned)

theorem AdmissionInvariant.finish (req_ids : List ReqId) :
    AdmissionInvariant ⟨{ t.engine with scheduler := t.engine.scheduler.finishRequests req_ids }, t.admissions⟩ := by
  refine ⟨⟨finishRequests_wellFormed hi.engine.scheduler _, hi.engine.plan⟩, hi.bound, hi.flight, fun req_id h => ?_⟩
  obtain ⟨hqueued, hunplanned⟩ := h
  have hqueued : req_id ∈ (t.engine.scheduler.finishRequests req_ids).queued := hqueued
  rw [finishRequests_queued] at hqueued
  exact hi.owned req_id ⟨(List.mem_filter.1 hqueued).1, hunplanned⟩

omit hi in
/-- a schedule queues nothing -/
theorem unplanned_scheduled {stock : StockSchedule} (hl : Legit t.engine.scheduler.lane stock) {r : Scheduled}
    (hs : ScheduleSpec t.engine.scheduler stock r) {req_id : ReqId} (hqueued : req_id ∈ r.scheduler.queued)
    (hplanned : req_id ∉ t.admissions.planned) : Unplanned t req_id := by
  have hsame : r.scheduler.queued = (t.engine.scheduler.afterStock stock).queued := by rw [hs.scheduler]; rfl
  exact ⟨(afterStock_queued hl).mem_iff.1 (hsame ▸ hqueued), hplanned⟩

/-- a lease after a schedule is the id's from before, or was issued by it -/
theorem AdmissionInvariant.generation {stock : StockSchedule} {r : Scheduled}
    (hs : ScheduleSpec t.engine.scheduler stock r) {req_id : ReqId} {g : Int}
    (h : r.scheduler.leases.generations.lookup req_id = some g) :
    t.engine.scheduler.leases.generations.lookup req_id = some g ∨ t.admissions.generation req_id ≤ g := by
  rcases hs.leases with hsame | ⟨-, ha⟩
  · exact Or.inl (hsame ▸ h)
  · by_cases hleased : t.engine.scheduler.leases.leased req_id
    · have hmem := (ha.leased req_id).1 ((leased_generations ha.invariant _).2 (key_of_lookup h))
      exact Or.inl ((ha.generation req_id hleased hmem).symm.trans h)
    · exact Or.inr ((hi.bound req_id).trans (ha.issued _ (mem_of_lookup h) hleased))

theorem AdmissionInvariant.schedule {stock : StockSchedule} (hl : Legit t.engine.scheduler.lane stock) {r : Scheduled}
    (hs : ScheduleSpec t.engine.scheduler stock r) : AdmissionInvariant ⟨⟨r.scheduler, some (r.output, r.plan)⟩,
      t.admissions.next t.engine ⟨r.scheduler, some (r.output, r.plan)⟩ (.schedule stock)⟩ := by
  refine ⟨schedule_invariant hs, fun req_id => (hi.bound req_id).trans hs.next, fun req_id hmem hunplanned => ?_,
    fun req_id h howned => ?_⟩
  · exact absurd (Finset.mem_union_right _ hmem) hunplanned
  · have hbefore := unplanned_scheduled hl hs h.1 fun hmem => h.2 (Finset.mem_union_left _ hmem)
    obtain ⟨g, hg, hlt⟩ := hi.owned req_id hbefore (hs.owned howned)
    obtain ⟨g', hg', -⟩ := leased_issued hs.wellFormed.leases (hs.wellFormed.owned req_id howned)
    -- its lease is the one it had
    have hkept : r.scheduler.leases.generations.lookup req_id = t.engine.scheduler.leases.generations.lookup req_id := by
      rcases hs.leases with hsame | ⟨-, ha⟩
      · rw [hsame]
      · exact ha.generation req_id (hi.engine.scheduler.owned req_id (hs.owned howned))
          ((ha.leased req_id).1 (hs.wellFormed.owned req_id howned))
    exact ⟨g, hkept.trans hg, hlt⟩

theorem AdmissionInvariant.update {out : SchedulerOutput} {plan : Option ResidentEpochPlan}
    (hflight : t.engine.in_flight = some (out, plan)) {output : ModelRunnerOutput} {s : ResidentEpochScheduler}
    (hu : Updated t.engine.scheduler out output plan s) : AdmissionInvariant ⟨⟨s, none⟩, t.admissions⟩ := by
  have hplan (p : ResidentEpochPlan) (hp : plan = some p) : Flight t.engine.scheduler.leases out p :=
    hi.engine.plan out p (hp ▸ hflight)
  obtain ⟨hgenerations, hnext⟩ := updated_leases hu
  have hstale {req_id : ReqId} (h : Stale t req_id) : Stale ⟨⟨s, none⟩, t.admissions⟩ req_id := by
    obtain ⟨g, hg, hlt⟩ := h
    exact ⟨g, hgenerations ▸ hg, hlt⟩
  refine ⟨⟨update_wellFormed hi.engine.scheduler hplan hu, fun _ _ h => by cases h⟩, fun req_id => ?_,
    fun _ h => (by cases h), fun req_id h howned => hstale ?_⟩
  · rw [hnext]
    exact hi.bound req_id
  · -- the epoch adds requests of its plan
    obtain ⟨hqueued, hunplanned⟩ := h
    rcases updated_owned_iff hu howned with hbefore | ⟨p, rfl, hid⟩
    · have hqueued := queued_iff.2 ((queued_iff.1 hqueued).imp (updated_running hu) (updated_waiting hu))
      exact hi.owned req_id ⟨hqueued, hunplanned⟩ hbefore
    · refine hi.flight req_id ?_ hunplanned
      rw [hflight]
      exact List.mem_toFinset.2 hid

end Steps

theorem admission_step {t t' : Admitted} {event : Event} (hi : AdmissionInvariant t)
    (h : AdmittedStep t event t') : AdmissionInvariant t' := by
  unfold AdmittedStep Admitted.next at h
  obtain ⟨engine', hnext, rfl⟩ := Option.map_eq_some_iff.1 h
  cases event with
  | arrive request =>
    obtain ⟨-, hnew, rfl⟩ := next_arrive hnext
    exact hi.arrive hnew
  | finish req_id =>
    cases hnext
    exact hi.finish [req_id]
  | schedule stock =>
    obtain ⟨-, hlegit, r, hschedule, rfl⟩ := next_schedule hnext
    exact hi.schedule hlegit (schedule_spec hi.engine.scheduler hlegit hschedule)
  | update output =>
    obtain ⟨out, plan, s, hflight, hupdate, rfl⟩ := next_update hnext
    exact hi.update hflight (update_cases hupdate)

/-! ## What a schedule inherits -/

/-- what is wanted of a schedule -/
structure ScheduledAnew (t : Admitted) (stock : StockSchedule) : Prop where
  host : ∀ req_ids, t.engine.scheduler.schedule stock = .error (.refusingHost req_ids) →
    ∀ req_id ∈ req_ids, ¬Unplanned t req_id
  first : ∀ t' out plan, AdmittedStep t (.schedule stock) t' → t'.engine.in_flight = some (out, some plan) →
    ∀ planned ∈ plan.requests, planned.req_id ∉ t.admissions.planned →
      t.admissions.generation planned.req_id ≤ planned.generation ∧ planned.state_owner = .host

/-- who is refused is scheduled, and Device-owned -/
theorem refused_owned {s : ResidentEpochScheduler} (hw : WellFormed s) {stock : StockSchedule} (hl : Legit s.lane stock)
    {req_ids : List ReqId} (hraise : s.schedule stock = .error (.refusingHost req_ids)) {req_id : ReqId}
    (hmem : req_id ∈ req_ids) : req_id ∈ stock.output.req_ids ∧ req_id ∈ s.leases.device_owned := by
  have hw' := afterStock_wellFormed hw hl
  cases schedule_raises hraise with
  | raised hmade =>
    -- plan making itself raises nothing of the kind
    rcases makePlan_raises hw'.config hw'.leases hmade with ⟨he, -⟩ | ⟨_, -, he, -⟩
    · cases he
    · cases he
  | refusing hmade _ =>
    obtain ⟨hscheduled, howned⟩ := mem_scheduledDeviceOwned.1 hmem
    refine ⟨hscheduled, ?_⟩
    rcases (makePlan_wellFormed hw' hmade).2 with rfl | ⟨-, ha⟩
    · rwa [afterStock_leases] at howned
    · have hbefore := ((ha.owned req_id).1 howned).1
      rwa [afterStock_leases] at hbefore

theorem AdmissionInvariant.scheduledAnew {t : Admitted} (hi : AdmissionInvariant t) {stock : StockSchedule}
    (hlegit : Legit t.engine.scheduler.lane stock) (hcleared : Cleared t stock) : ScheduledAnew t stock := by
  have hw := hi.engine.scheduler
  refine ⟨fun req_ids hraise req_id hmem hunplanned => ?_, fun t' out plan hstep hplan planned hmem hnew => ?_⟩
  · obtain ⟨hid, howned⟩ := refused_owned hw hlegit hraise hmem
    exact (hcleared req_id hid hunplanned (hi.owned req_id hunplanned howned)).1 howned
  · unfold AdmittedStep Admitted.next at hstep
    obtain ⟨engine', hnext, rfl⟩ := Option.map_eq_some_iff.1 hstep
    obtain ⟨-, hlegit, r, hschedule, rfl⟩ := next_schedule hnext
    have hs := schedule_spec hw hlegit hschedule
    obtain ⟨-, hr⟩ := Prod.mk.inj (Option.some.inj hplan)
    have hp := (hs.plan plan hr).2
    obtain ⟨request, hplanned⟩ := hp.requests planned hmem
    have hqueued : planned.req_id ∈ r.scheduler.queued := (hs.wellFormed.known _).2 (by
      rw [hs.scheduler]
      exact ⟨request, hplanned.find⟩)
    have hunplanned := unplanned_scheduled hlegit hs hqueued hnew
    have hid : planned.req_id ∈ stock.output.req_ids := hp.ids ▸ List.mem_map_of_mem hmem
    -- it has come to its row
    have hclear : ¬Stale t planned.req_id := fun hstale => (hcleared _ hid hunplanned hstale).2
      ((scheduleRejection_ok _ _ _).1 hp.schedule)
    refine ⟨?_, ?_⟩
    · rcases hi.generation hs hplanned.generation with hbefore | hissued
      · exact not_lt.1 fun hlt => hclear ⟨_, hbefore, hlt⟩
      · exact hissued
    · rw [hplanned.owner, if_neg fun howned => hclear (hi.owned _ hunplanned (hs.owned howned))]

/-- **Ids that are used again.** -/
theorem readmission_cleared {config : ResidentEpochConfig} (hconfig : config.Valid) {start : StockConfig} {t : Admitted}
    (h : Run AdmittedStep (fun _ _ => True) (.fresh config start) t) {stock : StockSchedule}
    (hlegit : Legit t.engine.scheduler.lane stock) (hcleared : Cleared t stock) : ScheduledAnew t stock := by
  have hi : AdmissionInvariant t :=
    h.invariant (fresh_admissions hconfig start) fun _ _ _ hi hs _ => admission_step hi hs
  exact hi.scheduledAnew hlegit hcleared

/-- what is wanted of every state reached -/
structure NothingInherited (t : Admitted) : Prop where
  /-- before its first plan a request is not refused as Device-owned -/
  host : ∀ stock req_ids, Legit t.engine.scheduler.lane stock →
    t.engine.scheduler.schedule stock = .error (.refusingHost req_ids) → ∀ req_id ∈ req_ids, ¬Unplanned t req_id
  /-- its first plan is of a lease issued since the arrival, and of Host state -/
  first : ∀ stock t' out plan, AdmittedStep t (.schedule stock) t' → t'.engine.in_flight = some (out, some plan) →
    ∀ planned ∈ plan.requests, planned.req_id ∉ t.admissions.planned →
      t.admissions.generation planned.req_id ≤ planned.generation ∧ planned.state_owner = .host

structure NoneStale (t : Admitted) : Prop where
  admission : AdmissionInvariant t
  clear : ∀ req_id, Unplanned t req_id → ¬Stale t req_id

theorem unused_step {t t' : Admitted} {event : Event} (hn : NoneStale t) (hunused : Unused t event)
    (h : AdmittedStep t event t') : NoneStale t' := by
  refine ⟨admission_step hn.admission h, fun req_id hunplanned hstale => ?_⟩
  have hi := hn.admission
  unfold AdmittedStep Admitted.next at h
  obtain ⟨engine', hnext, rfl⟩ := Option.map_eq_some_iff.1 h
  obtain ⟨g, hg, hlt⟩ := hstale
  cases event with
  | arrive request =>
    obtain ⟨-, hnew, rfl⟩ := next_arrive hnext
    by_cases hid : req_id = request.request_id
    · subst hid
      exact hunused.1 ((leased_generations hi.engine.scheduler.leases _).2 (key_of_lookup hg))
    · refine hn.clear req_id (unplanned_before hid hunplanned) ⟨g, hg, ?_⟩
      have hlt : g < Function.update t.admissions.generation request.request_id
        t.engine.scheduler.leases.next_generation req_id := hlt
      rwa [Function.update_of_ne hid] at hlt
  | finish id =>
    cases hnext
    obtain ⟨hqueued, hunplanned⟩ := hunplanned
    have hqueued : req_id ∈ (t.engine.scheduler.finishRequests [id]).queued := hqueued
    rw [finishRequests_queued] at hqueued
    exact hn.clear req_id ⟨(List.mem_filter.1 hqueued).1, hunplanned⟩ ⟨g, hg, hlt⟩
  | schedule stock =>
    obtain ⟨-, hlegit, r, hschedule, rfl⟩ := next_schedule hnext
    have hs := schedule_spec hi.engine.scheduler hlegit hschedule
    have hbefore := unplanned_scheduled hlegit hs hunplanned.1 fun hmem =>
      hunplanned.2 (Finset.mem_union_left _ hmem)
    rcases hi.generation hs hg with hkept | hissued
    · exact hn.clear req_id hbefore ⟨g, hkept, hlt⟩
    · exact not_lt.2 hissued hlt
  | update output =>
    obtain ⟨out, plan, s, hflight, hupdate, rfl⟩ := next_update hnext
    have hu := update_cases hupdate
    have hqueued := queued_iff.2 ((queued_iff.1 hunplanned.1).imp (updated_running hu) (updated_waiting hu))
    exact hn.clear req_id ⟨hqueued, hunplanned.2⟩ ⟨g, (updated_leases hu).1 ▸ hg, hlt⟩

/-- an id that is only used again when its lease is gone -/
theorem readmission_holds {config : ResidentEpochConfig} (hconfig : config.Valid) {start : StockConfig} {t : Admitted}
    (h : Run AdmittedStep Unused (.fresh config start) t) : NothingInherited t := by
  have hn : NoneStale t := h.invariant ⟨fresh_admissions hconfig start, fun _ h => by cases h.1⟩
    fun _ _ _ hn hs hunused => unused_step hn hunused hs
  have hi := hn.admission
  have hcleared (stock : StockSchedule) : Cleared t stock := fun req_id _ hunplanned hstale =>
    absurd hstale (hn.clear req_id hunplanned)
  refine ⟨fun stock req_ids hlegit hraise => (hi.scheduledAnew hlegit (hcleared stock)).host req_ids hraise,
    fun stock t' out plan hstep => ?_⟩
  have hlegit : Legit t.engine.scheduler.lane stock := by
    unfold AdmittedStep Admitted.next at hstep
    obtain ⟨engine', hnext, -⟩ := Option.map_eq_some_iff.1 hstep
    exact (next_schedule hnext).2.1
  exact (hi.scheduledAnew hlegit (hcleared stock)).first t' out plan hstep

instance (s : ResidentEpochScheduler) (out : SchedulerOutput) : Decidable (Schedulable s out) :=
  decidable_of_iff ((scheduleRejection s out).isOk = true) (by
    rw [← scheduleRejection_ok s out ()]
    cases scheduleRejection s out with
    | error _ => exact iff_of_false (fun h => by cases h) (fun h => by cases h)
    | ok _ => exact iff_of_true rfl rfl)

instance (t : Admitted) (req_id : ReqId) : Decidable (Unplanned t req_id) := by
  unfold Unplanned
  infer_instance

instance (t : Admitted) (req_id : ReqId) : Decidable (Stale t req_id) := by
  unfold Stale
  infer_instance

instance (t : Admitted) (stock : StockSchedule) : Decidable (Cleared t stock) := by
  unfold Cleared
  infer_instance

/-- a request is planned and aborted -/
def abortedEvents : List Event := [
  .arrive (greedyRequest 1 [7] 4 9),
  .schedule (soloStock 1 1),
  .update (deviceOutput [(1, [5, 6])] [1, 0, 0, 0] false),
  .finish 1]

/-- its id is used again at once, but another request is planned first, and its lease is dropped -/
def overtakenEvents : List Event := abortedEvents ++ [
  .arrive (greedyRequest 2 [7] 1 9),
  .arrive (greedyRequest 1 [7] 4 9),
  .schedule (plainStock [(2, 1)] (List.nodup_singleton 2) [] [2] [1]),
  .update (deviceOutput [(2, [5])] [2, 0, 0, 0] false)]

theorem readmission_cleared_overtaken : ∃ t : Admitted, ScheduledAnew t (soloStock 1 1) ∧ Unplanned t 1 ∧
    (t.next (.schedule (soloStock 1 1))).any (fun t' => 1 ∈ plannedIds t'.engine.in_flight) = true := by
  have h : ((Run.after Admitted.next (fun _ _ => True) (.fresh (.make 2 8) (.plain 8)) overtakenEvents).any fun t =>
      Legit t.engine.scheduler.lane (soloStock 1 1) ∧ Cleared t (soloStock 1 1) ∧ Unplanned t 1 ∧
        (t.next (.schedule (soloStock 1 1))).any (fun t' => 1 ∈ plannedIds t'.engine.in_flight) = true) = true := by
    decide +kernel
  obtain ⟨t, ht, h⟩ := (Option.any_eq_true _ _).1 h
  obtain ⟨hlegit, hcleared, h⟩ := of_decide_eq_true h
  exact ⟨t, readmission_cleared ((ResidentEpochConfig.validate_ok_iff _).1 (by decide)) (Run.of_after ht) hlegit hcleared, h⟩

/-- its id is used again at once, and nothing comes between -/
def againEvents : List Event := abortedEvents ++ [.arrive (greedyRequest 1 [7, 7] 4 9)]

/-- the prefill of its prompt -/
def againStock : StockSchedule := soloStock 1 2

/-- **The id of an aborted request, used again at once.** Its Host prefill is refused. -/
theorem readmitted_refused : ∃ t stock req_ids, Run AdmittedStep (fun _ _ => True) (.fresh (.make 2 8) (.plain 8)) t ∧
    Legit t.engine.scheduler.lane stock ∧ t.engine.scheduler.schedule stock = .error (.refusingHost req_ids) ∧
    1 ∈ req_ids ∧ Unplanned t 1 := by
  have h : ((Run.after Admitted.next (fun _ _ => True) (.fresh (.make 2 8) (.plain 8)) againEvents).any fun t =>
      Legit t.engine.scheduler.lane againStock ∧ Unplanned t 1 ∧
        refusal (t.engine.scheduler.schedule againStock) = some [1]) = true := by decide +kernel
  obtain ⟨t, ht, h⟩ := (Option.any_eq_true _ _).1 h
  obtain ⟨hlegit, hunplanned, hrefused⟩ := of_decide_eq_true h
  exact ⟨t, againStock, [1], Run.of_after ht, hlegit, refusal_some.1 hrefused, List.mem_cons_self, hunplanned⟩

end Cruise.Scheduler
