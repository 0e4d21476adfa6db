/-
One call of `ResidentEpochScheduler.schedule`, over the stock scheduler.

MODEL. `StockSchedule` is what one call of the stock `schedule` returns and leaves behind; what it may be is `Legit`: it
schedules running requests, adds their counts to their computed tokens, admits from the waiting queues and starts
preempted requests over. A request object in `self.running` is the one of the request table. `attach_plan` validates the
plan once more, and the same plan passes.
- `schedule_cases`: what a call that returns has done.
- `schedule_raises`: the exceptions it can leave with.
-/
import Cruise.Scheduler.Plan
import Mathlib.Data.List.Sort

namespace Cruise.Scheduler

open Cruise.Lib Cruise.Worker

/-! ## The stock scheduler -/

/-- `super().schedule()`: its output, the queues after it, and the blocks it has allocated -/
structure StockSchedule where
  output : SchedulerOutput
  running : List ReqId
  waiting : List ReqId
  skipped_waiting : List ReqId
  block_ids : ReqId → List (List Int)

/-- what the stock schedule may be, called in state `s` -/
structure Legit (s : ResidentEpochScheduler) (stock : StockSchedule) : Prop where
  /-- requests move between the queues -/
  queues : (stock.running ++ stock.waiting ++ stock.skipped_waiting).Perm (s.running ++ s.waiting ++ s.skipped_waiting)
  kept : ∀ req_id ∈ s.running, req_id ∈ stock.running ∨ req_id ∈ stock.output.preempted_req_ids
  preempted : ∀ req_id ∈ stock.output.preempted_req_ids, req_id ∈ s.running ∧ req_id ∉ stock.running
  limit : (stock.running.length : Int) ≤ max s.max_num_running_reqs s.running.length
  scheduled : ∀ item ∈ stock.output.num_scheduled_tokens, item.1 ∈ stock.running ∧ 1 ≤ item.2 ∧
    ∀ request ∈ s.requests.find item.1, request.num_computed_tokens + item.2 ≤ request.num_tokens

instance (s : ResidentEpochScheduler) (stock : StockSchedule) : Decidable (Legit s stock) :=
  decidable_of_iff
    ((stock.running ++ stock.waiting ++ stock.skipped_waiting).Perm (s.running ++ s.waiting ++ s.skipped_waiting) ∧
      (∀ req_id ∈ s.running, req_id ∈ stock.running ∨ req_id ∈ stock.output.preempted_req_ids) ∧
      (∀ req_id ∈ stock.output.preempted_req_ids, req_id ∈ s.running ∧ req_id ∉ stock.running) ∧
      (stock.running.length : Int) ≤ max s.max_num_running_reqs s.running.length ∧
      ∀ item ∈ stock.output.num_scheduled_tokens, item.1 ∈ stock.running ∧ 1 ≤ item.2 ∧
        ∀ request ∈ s.requests.find item.1, request.num_computed_tokens + item.2 ≤ request.num_tokens)
    ⟨fun ⟨h1, h2, h3, h4, h5⟩ => ⟨h1, h2, h3, h4, h5⟩, fun ⟨h1, h2, h3, h4, h5⟩ => ⟨h1, h2, h3, h4, h5⟩⟩

/-- what a stock schedule does to a request -/
def Request.scheduled (out : SchedulerOutput) (request : Request) : Request :=
  { request with num_computed_tokens :=
      if request.request_id ∈ out.preempted_req_ids then 0
      else request.num_computed_tokens + (out.num_scheduled_tokens.lookup request.request_id).getD 0 }

theorem Request.scheduled_id (out : SchedulerOutput) (request : Request) :
    (request.scheduled out).request_id = request.request_id := rfl

namespace ResidentEpochScheduler

def superSchedule (s : ResidentEpochScheduler) (stock : StockSchedule) : ResidentEpochScheduler :=
  { s with
    requests := s.requests.modify (Request.scheduled stock.output) (Request.scheduled_id stock.output)
    running := stock.running
    waiting := stock.waiting
    skipped_waiting := stock.skipped_waiting
    block_ids := stock.block_ids }

/-! ## Isolation of the Host lane -/

/-- the requests of some ids -/
def requestsOf (s : ResidentEpochScheduler) (req_ids : List ReqId) : List Request := req_ids.filterMap s.requests.find

/-- `_host_isolation_reason` -/
def hostIsolationReason (s : ResidentEpochScheduler) (device_running : List ReqId) : Option Rejection :=
  let host_running := s.requestsOf (s.running.filter fun req_id => req_id ∉ device_running)
  let waiting := s.requestsOf (s.waiting ++ s.skipped_waiting)
  if device_running = [] then none
  else if ∃ request ∈ host_running, request.eligible = false then some .unsupportedHostIsolation
  else if ∃ request ∈ host_running, request.num_computed_tokens < request.num_prompt_tokens then
    some .hostPrefillAdmission
  else if (∃ request ∈ waiting, request.num_prompt_tokens > 1 ∨ request.eligible = false) ∧
      (s.running.length : Int) < s.max_num_running_reqs then some .hostPrefillAdmission
  else none

def deviceRunning (s : ResidentEpochScheduler) : List ReqId :=
  s.running.filter fun req_id => req_id ∈ s.leases.device_owned

/-- the scheduler with its Device-owned requests paused -/
def hostLane (s : ResidentEpochScheduler) : ResidentEpochScheduler :=
  { s with
    running := s.running.filter fun req_id => req_id ∉ s.deviceRunning
    max_num_running_reqs := s.max_num_running_reqs - s.deviceRunning.length }

/-- the reason to isolate the Host lane in this step -/
def isolation (s : ResidentEpochScheduler) : Option Rejection := s.hostIsolationReason s.deviceRunning

/-- the state in which the stock scheduler is called -/
def lane (s : ResidentEpochScheduler) : ResidentEpochScheduler :=
  match s.isolation with
  | none => s
  | some _ => s.hostLane

/-- the paused requests are put back -/
def restored (s : ResidentEpochScheduler) (stock : StockSchedule) : ResidentEpochScheduler :=
  { s.hostLane.superSchedule stock with
    running := s.deviceRunning ++ stock.running
    max_num_running_reqs := s.max_num_running_reqs }

/-- `_schedule_with_host_isolation` -/
def scheduleWithHostIsolation (s : ResidentEpochScheduler) (stock : StockSchedule) :
    Except SchedulerError (ResidentEpochScheduler × List ReqId × Option Rejection) :=
  match s.isolation with
  | none => .ok (s.superSchedule stock, [], none)
  | some isolation_reason =>
    if stock.output.req_ids = [] then .error .isolatedIdle
    else if ∃ req_id ∈ stock.output.req_ids, req_id ∈ s.deviceRunning then .error .isolatedDevice
    else .ok (s.restored stock, s.deviceRunning, some isolation_reason)

end ResidentEpochScheduler

/-! ## A schedule -/

/-- what `schedule` returns, and `_resident_epoch_last_rejection` -/
structure Scheduled where
  scheduler : ResidentEpochScheduler
  output : SchedulerOutput
  plan : Option ResidentEpochPlan
  rejection : Option Rejection

/-- `set(num_scheduled_tokens) & _resident_epoch_device_owned`, sorted -/
def scheduledDeviceOwned (out : SchedulerOutput) (leases : Leases) : List ReqId :=
  (out.req_ids.filter fun req_id => req_id ∈ leases.device_owned).insertionSort (· ≤ ·)

/-- `schedule` from the point where the stock scheduler has returned -/
def finishSchedule (s : ResidentEpochScheduler) (out : SchedulerOutput) (paused_ids : List ReqId)
    (isolation_reason : Option Rejection) : Except SchedulerError Scheduled :=
  let (leases, made) := makeResidentEpochPlan s out
  match made with
  | .error (.raised e) => .error e
  | .error (.rejected reason) =>
    if scheduledDeviceOwned out leases ≠ [] then .error (.refusingHost (scheduledDeviceOwned out leases))
    else .ok ⟨{ s with leases := leases }, out, none, if paused_ids = [] then some reason else isolation_reason⟩
  | .ok plan =>
    if paused_ids ≠ [] then .error .isolatedPlan else .ok ⟨{ s with leases := leases }, out, some plan, none⟩

namespace ResidentEpochScheduler

/-- `schedule` -/
def schedule (s : ResidentEpochScheduler) (stock : StockSchedule) : Except SchedulerError Scheduled :=
  if s.num_lookahead_tokens ≠ 0 then .error .lookahead
  else do
    let (s', paused_ids, isolation_reason) ← s.scheduleWithHostIsolation stock
    finishSchedule s' stock.output paused_ids isolation_reason

end ResidentEpochScheduler

/-! ## What a schedule does -/

/-- the state plan making sees -/
def ResidentEpochScheduler.afterStock (s : ResidentEpochScheduler) (stock : StockSchedule) : ResidentEpochScheduler :=
  match s.isolation with
  | none => s.superSchedule stock
  | some _ => s.restored stock

section AfterStock

variable (s : ResidentEpochScheduler) (stock : StockSchedule)

@[simp] theorem afterStock_config : (s.afterStock stock).config = s.config := by
  unfold ResidentEpochScheduler.afterStock
  cases s.isolation <;> rfl

@[simp] theorem afterStock_check_stop : (s.afterStock stock).check_stop = s.check_stop := by
  unfold ResidentEpochScheduler.afterStock
  cases s.isolation <;> rfl

@[simp] theorem afterStock_leases : (s.afterStock stock).leases = s.leases := by
  unfold ResidentEpochScheduler.afterStock
  cases s.isolation <;> rfl

@[simp] theorem afterStock_requests :
    (s.afterStock stock).requests = s.requests.modify (Request.scheduled stock.output) (Request.scheduled_id stock.output) := by
  unfold ResidentEpochScheduler.afterStock
  cases s.isolation <;> rfl

end AfterStock

/-- the ways a schedule can return -/
inductive Outcome (s : ResidentEpochScheduler) (stock : StockSchedule) : Scheduled → Prop where
  | planned {leases plan} : s.isolation = none →
      makeResidentEpochPlan (s.afterStock stock) stock.output = (leases, .ok plan) →
      Outcome s stock ⟨{ s.afterStock stock with leases := leases }, stock.output, some plan, none⟩
  | host {leases reason rejection} :
      makeResidentEpochPlan (s.afterStock stock) stock.output = (leases, .error (.rejected reason)) →
      (∀ req_id ∈ stock.output.req_ids, req_id ∉ leases.device_owned) →
      (s.isolation ≠ none → stock.output.req_ids ≠ [] ∧ ∀ req_id ∈ stock.output.req_ids, req_id ∉ s.deviceRunning) →
      Outcome s stock ⟨{ s.afterStock stock with leases := leases }, stock.output, none, rejection⟩

theorem isolation_device {s : ResidentEpochScheduler} {reason : Rejection} (h : s.isolation = some reason) :
    s.deviceRunning ≠ [] := by
  intro hnil
  unfold ResidentEpochScheduler.isolation ResidentEpochScheduler.hostIsolationReason at h
  rw [if_pos hnil] at h
  cases h

theorem scheduledDeviceOwned_nil {out : SchedulerOutput} {leases : Leases} :
    scheduledDeviceOwned out leases = [] ↔ ∀ req_id ∈ out.req_ids, req_id ∉ leases.device_owned := by
  unfold scheduledDeviceOwned
  rw [← List.length_eq_zero_iff, List.length_insertionSort, List.length_eq_zero_iff, List.filter_eq_nil_iff]
  simp

/-- a schedule without isolation -/
theorem schedule_plain {s : ResidentEpochScheduler} (hlookahead : s.num_lookahead_tokens = 0) (h : s.isolation = none)
    (stock : StockSchedule) : s.schedule stock = finishSchedule (s.superSchedule stock) stock.output [] none := by
  unfold ResidentEpochScheduler.schedule ResidentEpochScheduler.scheduleWithHostIsolation
  rw [if_neg (not_not.2 hlookahead), h]
  rfl

theorem finishSchedule_plan {s : ResidentEpochScheduler} {out : SchedulerOutput} {leases : Leases} {plan : ResidentEpochPlan}
    (h : makeResidentEpochPlan s out = (leases, .ok plan)) :
    finishSchedule s out [] none = .ok ⟨{ s with leases := leases }, out, some plan, none⟩ := by
  unfold finishSchedule
  rw [h]
  rfl

/-- what the stock part hands over to plan making -/
structure Handover (s : ResidentEpochScheduler) (stock : StockSchedule) (s' : ResidentEpochScheduler)
    (paused_ids : List ReqId) : Prop where
  scheduler : s' = s.afterStock stock
  paused : paused_ids = [] ↔ s.isolation = none
  disjoint : s.isolation ≠ none →
    stock.output.req_ids ≠ [] ∧ ∀ req_id ∈ stock.output.req_ids, req_id ∉ s.deviceRunning

theorem hostIsolation_ok {s s' : ResidentEpochScheduler} {stock : StockSchedule} {paused_ids : List ReqId}
    {isolation_reason : Option Rejection} (h : s.scheduleWithHostIsolation stock = .ok (s', paused_ids, isolation_reason)) :
    Handover s stock s' paused_ids := by
  unfold ResidentEpochScheduler.scheduleWithHostIsolation at h
  have hafter : s.afterStock stock = match s.isolation with
    | none => s.superSchedule stock
    | some _ => s.restored stock := rfl
  cases hisolation : s.isolation with
  | none =>
    rw [hisolation] at h hafter
    cases h
    exact ⟨hafter.symm, iff_of_true rfl hisolation, fun hne => absurd hisolation hne⟩
  | some reason =>
    rw [hisolation] at h hafter
    dsimp only at h
    split_ifs at h with hidle hdevice
    cases h
    refine ⟨hafter.symm, iff_of_false (isolation_device hisolation) (by rw [hisolation]; exact fun h => by cases h),
      fun _ => ⟨hidle, fun req_id hmem hpaused => hdevice ⟨req_id, hmem, hpaused⟩⟩⟩

/-- **The ways a schedule can return.** -/
theorem schedule_cases {s : ResidentEpochScheduler} {stock : StockSchedule} {r : Scheduled}
    (h : s.schedule stock = .ok r) : s.num_lookahead_tokens = 0 ∧ Outcome s stock r := by
  unfold ResidentEpochScheduler.schedule at h
  by_cases hlookahead : s.num_lookahead_tokens ≠ 0
  · rw [if_pos hlookahead] at h
    cases h
  rw [if_neg hlookahead] at h
  refine ⟨not_not.1 hlookahead, ?_⟩
  obtain ⟨⟨s', paused_ids, isolation_reason⟩, hstock, h⟩ := except_bind_ok.1 h
  obtain ⟨rfl, hpaused, hdisjoint⟩ := hostIsolation_ok hstock
  have h : finishSchedule (s.afterStock stock) stock.output paused_ids isolation_reason = .ok r := h
  unfold finishSchedule at h
  cases hmade : makeResidentEpochPlan (s.afterStock stock) stock.output with
  | mk leases made =>
    rw [hmade] at h
    cases made with
    | error refusal =>
      cases refusal with
      | raised e => cases h
      | rejected reason =>
        dsimp only at h
        by_cases howned : scheduledDeviceOwned stock.output leases ≠ []
        · rw [if_pos howned] at h
          cases h
        · rw [if_neg howned] at h
          cases h
          exact .host hmade (scheduledDeviceOwned_nil.1 (not_not.1 howned)) hdisjoint
    | ok plan =>
      dsimp only at h
      by_cases hids : paused_ids ≠ []
      · rw [if_pos hids] at h
        cases h
      · rw [if_neg hids] at h
        cases h
        exact .planned (hpaused.1 (not_not.1 hids)) hmade

/-- the exceptions a schedule can leave with -/
inductive Raises (s : ResidentEpochScheduler) (stock : StockSchedule) : SchedulerError → Prop where
  | lookahead : s.num_lookahead_tokens ≠ 0 → Raises s stock .lookahead
  | isolatedIdle : s.isolation ≠ none → stock.output.req_ids = [] → Raises s stock .isolatedIdle
  | isolatedDevice {req_id} : s.isolation ≠ none → req_id ∈ stock.output.req_ids → req_id ∈ s.deviceRunning →
      Raises s stock .isolatedDevice
  | raised {leases e} : makeResidentEpochPlan (s.afterStock stock) stock.output = (leases, .error (.raised e)) →
      Raises s stock e
  | refusing {leases reason} :
      makeResidentEpochPlan (s.afterStock stock) stock.output = (leases, .error (.rejected reason)) →
      scheduledDeviceOwned stock.output leases ≠ [] →
      Raises s stock (.refusingHost (scheduledDeviceOwned stock.output leases))
  | isolatedPlan {leases plan} : s.isolation ≠ none →
      makeResidentEpochPlan (s.afterStock stock) stock.output = (leases, .ok plan) → Raises s stock .isolatedPlan

theorem schedule_raises {s : ResidentEpochScheduler} {stock : StockSchedule} {e : SchedulerError}
    (h : s.schedule stock = .error e) : Raises s stock e := by
  unfold ResidentEpochScheduler.schedule at h
  by_cases hlookahead : s.num_lookahead_tokens ≠ 0
  · rw [if_pos hlookahead] at h
    cases h
    exact .lookahead hlookahead
  rw [if_neg hlookahead] at h
  rcases except_bind_error.1 h with h | ⟨⟨s', paused_ids, isolation_reason⟩, hstock, h⟩
  · unfold ResidentEpochScheduler.scheduleWithHostIsolation at h
    cases hisolation : s.isolation with
    | none =>
      rw [hisolation] at h
      cases h
    | some reason =>
      have hne : s.isolation ≠ none := by rw [hisolation]; exact fun h => by cases h
      rw [hisolation] at h
      dsimp only at h
      split_ifs at h with hidle hdevice
      · cases h
        exact .isolatedIdle hne hidle
      · cases h
        obtain ⟨req_id, hmem, hpaused⟩ := hdevice
        exact .isolatedDevice hne hmem hpaused
  · obtain ⟨rfl, hpaused, -⟩ := hostIsolation_ok hstock
    have h : finishSchedule (s.afterStock stock) stock.output paused_ids isolation_reason = .error e := h
    unfold finishSchedule at h
    cases hmade : makeResidentEpochPlan (s.afterStock stock) stock.output with
    | mk leases made =>
      rw [hmade] at h
      cases made with
      | error refusal =>
        cases refusal with
        | raised e' =>
          cases h
          exact .raised hmade
        | rejected reason =>
          dsimp only at h
          by_cases howned : scheduledDeviceOwned stock.output leases ≠ []
          · rw [if_pos howned] at h
            cases h
            exact .refusing hmade howned
          · rw [if_neg howned] at h
            cases h
      | ok plan =>
        dsimp only at h
        by_cases hids : paused_ids ≠ []
        · rw [if_pos hids] at h
          cases h
          exact .isolatedPlan (fun hnone => hids (hpaused.2 hnone)) hmade
        · rw [if_neg hids] at h
          cases h

theorem mem_scheduledDeviceOwned {out : SchedulerOutput} {leases : Leases} {req_id : ReqId} :
    req_id ∈ scheduledDeviceOwned out leases ↔ req_id ∈ out.req_ids ∧ req_id ∈ leases.device_owned := by
  unfold scheduledDeviceOwned
  rw [List.mem_insertionSort, List.mem_filter, decide_eq_true_eq]

/-- the ids a schedule is refused for -/
def refusal : Except SchedulerError Scheduled → Option (List ReqId)
  | .error (.refusingHost req_ids) => some req_ids
  | _ => none

theorem refusal_some {x : Except SchedulerError Scheduled} {req_ids : List ReqId} :
    refusal x = some req_ids ↔ x = .error (.refusingHost req_ids) := by
  refine ⟨fun h => ?_, fun h => by rw [h]; rfl⟩
  unfold refusal at h
  split at h
  · cases h
    rfl
  · cases h

/-- why a plan is rejected -/
def rejection {α : Type} : Except Refusal α → Option Rejection
  | .error (.rejected reason) => some reason
  | _ => none

end Cruise.Scheduler
