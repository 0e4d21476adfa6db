/-
Aborts between `schedule` and `update_from_output`: the requests they remove from the table while a plan is in flight.

Results:
- `aborts_tolerated_iff`: for a plan the scheduler made and any result that passes its checks, the accounting returns and
  advances the surviving requests exactly when none of the removed ids is of the plan.
- `abort_raises`: of two requests in an epoch, the abort of one.
-/
import Cruise.Scheduler.Engine

namespace Cruise.Scheduler

open Cruise.Lib Cruise.Worker

/-- the accounting returns, and every request of the plan that is still known advances by its own steps -/
def Tolerated (s : ResidentEpochScheduler) (out : SchedulerOutput) (output : ModelRunnerOutput)
    (plan : ResidentEpochPlan) (result : ResidentEpochResult) : Prop :=
  ∃ s', s.applyResidentEpochAccounting out output plan result = .ok s' ∧
    ∀ req_id ∈ plan.req_ids, ∀ request, s.requests.find req_id = some request →
      ∃ request', s'.requests.find req_id = some request' ∧ (request'.num_computed_tokens : Int) =
        request.num_computed_tokens + (result.steps req_id - (out.num_scheduled_tokens.lookup req_id).getD 0)

/-- what an accounting needs to know of a plan -/
structure InFlight (s : ResidentEpochScheduler) (out : SchedulerOutput) (plan : ResidentEpochPlan) : Prop where
  scheduled : ∀ req_id ∈ plan.req_ids, out.num_scheduled_tokens.lookup req_id = some 1
  computed : ∀ req_id ∈ plan.req_ids, ∀ request, s.requests.find req_id = some request →
    request.num_computed_tokens = request.num_tokens

/-- the plan of a schedule that has returned -/
theorem schedule_inFlight {s : ResidentEpochScheduler} {stock : StockSchedule} {r : Scheduled}
    (h : s.schedule stock = .ok r) {plan : ResidentEpochPlan} (hplan : r.plan = some plan) :
    InFlight r.scheduler r.output plan ∧
      ∀ req_id ∈ plan.req_ids, ∃ request, r.scheduler.requests.find req_id = some request := by
  obtain ⟨-, hout⟩ := schedule_cases h
  cases hout with
  | host => cases hplan
  | planned _ hmade =>
    cases hplan
    have hp := makePlan_spec hmade
    have hs := (scheduleRejection_ok _ _ _).1 hp.schedule
    have hfind (req_id : ReqId) (hid : req_id ∈ plan.req_ids) :
        ∃ request, (s.afterStock stock).requests.find req_id = some request ∧
          request.num_computed_tokens = request.num_tokens := by
      obtain ⟨planned, hmem, rfl⟩ := List.mem_map.1 hid
      obtain ⟨request, hplanned⟩ := hp.requests planned hmem
      exact ⟨request, hplanned.find, hplanned.computed⟩
    refine ⟨⟨fun req_id hid => ?_, fun req_id hid request hrequest => ?_⟩, fun req_id hid => ?_⟩
    · obtain ⟨count, hcount⟩ := lookup_exists (hp.ids ▸ hid : req_id ∈ stock.output.req_ids)
      have hone : count = 1 := hs.single _ (mem_of_lookup hcount)
      exact hone ▸ hcount
    · obtain ⟨request', hfound, hcomputed⟩ := hfind req_id hid
      obtain rfl : request' = request := Option.some.inj (hfound.symm.trans hrequest)
      exact hcomputed
    · obtain ⟨request, hfound, -⟩ := hfind req_id hid
      exact ⟨request, hfound⟩

section Accounting

variable {s : ResidentEpochScheduler} {out : SchedulerOutput} {output : ModelRunnerOutput} {plan : ResidentEpochPlan}
variable {result : ResidentEpochResult} {sampled_by_req : List (ReqId × List Int)}

/-- the pass of an id that is still known -/
theorem extraSteps_ok (hf : InFlight s out plan) (hvalid : result.validateAgainst plan sampled_by_req = .ok ())
    (hdict : (result.computed_steps.map Prod.fst).Nodup) {item : ReqId × Int} (hitem : item ∈ result.computed_steps)
    {request : Request} (hfind : s.requests.find item.1 = some request) :
    extraSteps s out sampled_by_req item = .ok (item.1, item.2 - 1) := by
  obtain ⟨hids, hsteps⟩ := resultValidate_steps hvalid
  have hid : item.1 ∈ plan.req_ids := (hids item.1).1 (List.mem_map_of_mem hitem)
  obtain ⟨planned, hmem, hreq⟩ := List.mem_map.1 hid
  obtain ⟨hone, -, htokens⟩ := hsteps planned hmem
  have hlookup : result.steps planned.req_id = item.2 := by
    unfold ResidentEpochResult.steps
    rw [hreq, (lookup_iff_mem hdict).2 hitem]
    rfl
  rw [hlookup] at hone htokens
  rw [hreq] at htokens
  have hcomputed := hf.computed item.1 hid request hfind
  unfold extraSteps
  rw [hfind, hf.scheduled item.1 hid]
  dsimp only
  rw [if_neg (by push_cast; omega), if_neg (by rw [hcomputed, htokens]; push_cast; omega)]
  rfl

theorem tolerated_of_known (hf : InFlight s out plan) (hsampled : sampledByReq plan output = .ok sampled_by_req)
    (hvalid : result.validateAgainst plan sampled_by_req = .ok ())
    (hdict : (result.computed_steps.map Prod.fst).Nodup)
    (hknown : ∀ req_id ∈ plan.req_ids, ∃ request, s.requests.find req_id = some request) :
    Tolerated s out output plan result := by
  obtain ⟨hids, hsteps⟩ := resultValidate_steps hvalid
  have hextras : result.computed_steps.mapM (extraSteps s out sampled_by_req) =
      .ok (result.computed_steps.map fun item => (item.1, item.2 - 1)) := by
    refine mapM_map fun item hitem => ?_
    obtain ⟨request, hfind⟩ := hknown item.1 ((hids item.1).1 (List.mem_map_of_mem hitem))
    exact extraSteps_ok hf hvalid hdict hitem hfind
  refine ⟨_, accounting_iff.2 ⟨sampled_by_req, _, hsampled, hvalid, hextras, rfl⟩, fun req_id hid request hfind => ?_⟩
  refine ⟨_, congrArg (Option.map _) hfind, ?_⟩
  obtain ⟨planned, hmem, rfl⟩ := List.mem_map.1 hid
  obtain ⟨steps, hlookup⟩ := lookup_exists ((hids planned.req_id).2 hid)
  have hone := (hsteps planned hmem).1
  have hstep : result.steps planned.req_id = steps := by
    unfold ResidentEpochResult.steps
    rw [hlookup]
    rfl
  rw [hstep] at hone
  have hextra : (result.computed_steps.map fun item => (item.1, item.2 - 1)).lookup request.request_id =
      some (steps - 1) := by
    rw [lookup_values (fun steps => steps - 1), s.requests.keyed hfind, hlookup]
    rfl
  simp only [Request.advanced, hextra, hf.scheduled _ hid, Option.getD_some, hstep]
  push_cast
  omega

theorem known_of_tolerated (ht : Tolerated s out output plan result)
    (hvalid : sameIds result.computed_steps plan.req_ids) {req_id : ReqId} (hid : req_id ∈ plan.req_ids) :
    ∃ request, s.requests.find req_id = some request := by
  obtain ⟨s', hs', -⟩ := ht
  obtain ⟨sampled, extras, ha⟩ := accounting_iff.1 hs'
  obtain ⟨item, hitem, rfl⟩ := List.mem_map.1 ((hvalid req_id).2 hid)
  obtain ⟨extra, -, hextra⟩ := forall₂_mem (mapM_ok.1 ha.steps).flip hitem
  unfold extraSteps at hextra
  cases hfind : s.requests.find item.1 with
  | none =>
    rw [hfind] at hextra
    cases hextra
  | some request => exact ⟨request, rfl⟩

end Accounting

/-- **Aborts while a plan is in flight.** -/
theorem aborts_tolerated_iff {s : ResidentEpochScheduler} {stock : StockSchedule} {r : Scheduled}
    {plan : ResidentEpochPlan} {output : ModelRunnerOutput} {result : ResidentEpochResult}
    {sampled_by_req : List (ReqId × List Int)} (h : s.schedule stock = .ok r) (hplan : r.plan = some plan)
    (hsampled : sampledByReq plan output = .ok sampled_by_req)
    (hvalid : result.validateAgainst plan sampled_by_req = .ok ())
    (hdict : (result.computed_steps.map Prod.fst).Nodup) (removed : List ReqId) :
    Tolerated (r.scheduler.finishRequests removed) r.output output plan result ↔
      ∀ req_id ∈ removed, req_id ∉ plan.req_ids := by
  obtain ⟨hf, hknown⟩ := schedule_inFlight h hplan
  constructor
  · intro ht req_id hremoved hid
    obtain ⟨request, hfind⟩ := known_of_tolerated ht (resultValidate_steps hvalid).1 hid
    exact ((remove_find _ _ _ _).1 hfind).1 hremoved
  · intro hremoved
    refine tolerated_of_known ⟨hf.scheduled, fun req_id hid request hfind => ?_⟩ hsampled hvalid hdict fun req_id hid => ?_
    · exact hf.computed req_id hid request ((remove_find _ _ _ _).1 hfind).2
    · obtain ⟨request, hfind⟩ := hknown req_id hid
      exact ⟨request, (remove_find _ _ _ _).2 ⟨fun hmem => hremoved req_id hmem hid, hfind⟩⟩

/-- the stock scheduler admits two requests -/
def bothStock : StockSchedule := plainStock [(1, 1), (2, 1)] (by decide) [] [1, 2] []

/-- an epoch of both, two steps each -/
def pairOutput : ModelRunnerOutput := deviceOutput [(1, [5, 6]), (2, [5, 6])] [1, 2, 0, 0] false

/-- two requests run an epoch, and a third arrives -/
def pairEvents : List Event := [
  .arrive (greedyRequest 1 [7] 6 9),
  .arrive (greedyRequest 2 [8] 6 9),
  .schedule bothStock,
  .update pairOutput,
  .arrive (greedyRequest 3 [7] 6 9)]

/-- the two are decoded again, and the third waits -/
def pairStock : StockSchedule := plainStock [(1, 1), (2, 1)] (by decide) [] [1, 2] [3]

/-- the request that waits is aborted while the second epoch of the others is in flight -/
theorem aborts_tolerated_waiting : ∃ (engine : Engine) (r : Scheduled) (plan : ResidentEpochPlan) (result : ResidentEpochResult),
    pairEvents.foldlM Engine.next (Engine.fresh (.make 2 8) (.plain 8)) = some engine ∧
      engine.scheduler.schedule pairStock = .ok r ∧ r.plan = some plan ∧ plan.req_ids = [1, 2] ∧
      pairOutput.result = some result ∧ r.scheduler.requests.find 3 ≠ none ∧
      Tolerated (r.scheduler.finishRequests [3]) r.output pairOutput plan result := by
  have h : ((pairEvents.foldlM Engine.next (Engine.fresh (.make 2 8) (.plain 8))).any fun engine =>
      (engine.scheduler.schedule pairStock).toOption.any fun r => r.plan.any fun plan =>
        pairOutput.result.any fun result => (sampledByReq plan pairOutput).toOption.any fun sampled_by_req =>
          plan.req_ids = [1, 2] ∧ r.scheduler.requests.find 3 ≠ none ∧
            result.validateAgainst plan sampled_by_req = .ok () ∧ (result.computed_steps.map Prod.fst).Nodup) = true := by
    decide +kernel
  obtain ⟨engine, hengine, h⟩ := (Option.any_eq_true _ _).1 h
  obtain ⟨r, hr, h⟩ := (Option.any_eq_true _ _).1 h
  obtain ⟨plan, hplan, h⟩ := (Option.any_eq_true _ _).1 h
  obtain ⟨result, hresult, h⟩ := (Option.any_eq_true _ _).1 h
  obtain ⟨sampled_by_req, hsampled, h⟩ := (Option.any_eq_true _ _).1 h
  obtain ⟨hids, hthird, hvalid, hdict⟩ := of_decide_eq_true h
  have hschedule := toOption_some.1 hr
  refine ⟨engine, r, plan, result, hengine, hschedule, hplan, hids, hresult, hthird, ?_⟩
  refine (aborts_tolerated_iff hschedule hplan (toOption_some.1 hsampled) hvalid hdict [3]).2 fun req_id hremoved => ?_
  rw [List.mem_singleton.1 hremoved, hids]
  decide

/-- two requests that have arrived -/
def twoRequests : ResidentEpochScheduler :=
  ((ResidentEpochScheduler.fresh (.make 8 8) (.plain 8)).addRequest (greedyRequest 1 [7] 4 9)).addRequest
    (greedyRequest 2 [8] 4 9)

/-- the epoch of both, four steps each -/
def bothOutput : ModelRunnerOutput := deviceOutput [(1, [5, 6, 5, 6]), (2, [5, 6, 5, 6])] [1, 2, 0, 0] false

/-- the plan of both is made, and the result of its epoch is valid -/
theorem both_planned : ∃ r plan result sampled_by_req, twoRequests.schedule bothStock = .ok r ∧ r.plan = some plan ∧
    plan.req_ids = [1, 2] ∧ bothOutput.result = some result ∧ sampledByReq plan bothOutput = .ok sampled_by_req ∧
    result.validateAgainst plan sampled_by_req = .ok () ∧ (result.computed_steps.map Prod.fst).Nodup := by
  have h : ((twoRequests.schedule bothStock).toOption.any fun r => r.plan.any fun plan =>
      bothOutput.result.any fun result => (sampledByReq plan bothOutput).toOption.any fun sampled_by_req =>
        plan.req_ids = [1, 2] ∧ result.validateAgainst plan sampled_by_req = .ok () ∧
          (result.computed_steps.map Prod.fst).Nodup) = true := by decide +kernel
  obtain ⟨r, hr, h⟩ := (Option.any_eq_true _ _).1 h
  obtain ⟨plan, hplan, h⟩ := (Option.any_eq_true _ _).1 h
  obtain ⟨result, hresult, h⟩ := (Option.any_eq_true _ _).1 h
  obtain ⟨sampled_by_req, hsampled, h⟩ := (Option.any_eq_true _ _).1 h
  obtain ⟨hids, hvalid, hdict⟩ := of_decide_eq_true h
  exact ⟨r, plan, result, sampled_by_req, toOption_some.1 hr, hplan, hids, hresult, toOption_some.1 hsampled, hvalid, hdict⟩

/-- **The abort of one request takes the epoch of the other down.** -/
theorem abort_raises : ∃ r plan result sampled_by_req, twoRequests.schedule bothStock = .ok r ∧ r.plan = some plan ∧
    plan.req_ids = [1, 2] ∧ bothOutput.result = some result ∧ sampledByReq plan bothOutput = .ok sampled_by_req ∧
    result.validateAgainst plan sampled_by_req = .ok () ∧
    ¬Tolerated (r.scheduler.finishRequests [1]) r.output bothOutput plan result := by
  obtain ⟨r, plan, result, sampled_by_req, h, hplan, hids, hresult, hsampled, hvalid, -⟩ := both_planned
  refine ⟨r, plan, result, sampled_by_req, h, hplan, hids, hresult, hsampled, hvalid, fun ht => ?_⟩
  obtain ⟨request, hfind⟩ := known_of_tolerated ht (resultValidate_steps hvalid).1 (hids ▸ List.mem_cons_self)
  exact ((remove_find _ _ _ _).1 hfind).1 List.mem_cons_self

end Cruise.Scheduler
