/-
The isolated Host lane: the stock scheduler on a running list without the Device-owned requests.

MODEL. `StockCall` is a call of the stock `schedule` on the scheduler object: whatever it leaves of the object, and what
it returns or raises. `scheduleWithHostIsolation` is the case of a call that returns (`hostIsolation_call`).
Results:
- `host_isolation_restores`: however the stock call ends, the limit and the paused requests are back, and nothing is lost,
  duplicated or over the limit.
- `lane_returns_iff`: an isolated step returns exactly when something is scheduled and none of it is Device-owned.
- `blocked_lane_raises`: a waiting request that the stock scheduler cannot admit yet ends the engine.
-/
import Cruise.Scheduler.Ownership

namespace Cruise.Scheduler

open Cruise.Lib Cruise.Worker

/-! ## The call on the object -/

/-- `super().schedule()`: what it leaves of the scheduler, and what it returns or raises -/
abbrev StockCall (ε : Type) := ResidentEpochScheduler → ResidentEpochScheduler × Except ε SchedulerOutput

/-- the requests a step pauses -/
def ResidentEpochScheduler.paused (s : ResidentEpochScheduler) : List ReqId :=
  match s.isolation with
  | none => []
  | some _ => s.deviceRunning

/-- `_schedule_with_host_isolation`, exceptions of the stock scheduler included -/
def ResidentEpochScheduler.hostIsolationCall {ε : Type} (s : ResidentEpochScheduler) (stock : StockCall ε) :
    ResidentEpochScheduler × Except (ε ⊕ SchedulerError) (SchedulerOutput × List ReqId × Option Rejection) :=
  match s.isolation with
  | none =>
    let (left, returned) := stock s
    (left, (returned.mapError .inl).map fun output => (output, [], none))
  | some isolation_reason =>
    let (left, returned) := stock s.hostLane
    -- the `finally` block runs on either way out
    let s' := { left with
      running := s.deviceRunning ++ left.running
      max_num_running_reqs := s.max_num_running_reqs }
    (s', match returned with
      | .error e => .error (.inl e)
      | .ok output =>
        if output.req_ids = [] then .error (.inr .isolatedIdle)
        else if ∃ req_id ∈ output.req_ids, req_id ∈ s.deviceRunning then .error (.inr .isolatedDevice)
        else .ok (output, s.deviceRunning, some isolation_reason))

/-- a stock schedule as a call that returns -/
def StockSchedule.call (stock : StockSchedule) : StockCall Empty := fun s => (s.superSchedule stock, .ok stock.output)

theorem hostIsolation_call (s : ResidentEpochScheduler) (stock : StockSchedule) :
    s.scheduleWithHostIsolation stock =
      match (s.hostIsolationCall stock.call).2 with
      | .ok (_, paused_ids, isolation_reason) =>
        .ok ((s.hostIsolationCall stock.call).1, paused_ids, isolation_reason)
      | .error (.inr e) => .error e := by
  unfold ResidentEpochScheduler.scheduleWithHostIsolation ResidentEpochScheduler.hostIsolationCall StockSchedule.call
  cases s.isolation with
  | none => rfl
  | some isolation_reason =>
    dsimp only
    split_ifs with hidle hdevice
    · rfl
    · rfl
    · rfl

section Lane

variable {s : ResidentEpochScheduler}

theorem lane_isolated {reason : Rejection} (h : s.isolation = some reason) :
    s.lane = s.hostLane ∧ s.paused = s.deviceRunning := by
  unfold ResidentEpochScheduler.lane ResidentEpochScheduler.paused
  rw [h]
  exact ⟨rfl, rfl⟩

theorem lane_plain (h : s.isolation = none) : s.lane = s ∧ s.paused = [] := by
  unfold ResidentEpochScheduler.lane ResidentEpochScheduler.paused
  rw [h]
  exact ⟨rfl, rfl⟩

/-- pausing splits the running list -/
theorem paused_append (s : ResidentEpochScheduler) : (s.deviceRunning ++ s.hostLane.running).Perm s.running := by
  have hperm := List.filter_append_perm (fun req_id => decide (req_id ∈ s.leases.device_owned)) s.running
  refine List.Perm.trans (List.Perm.of_eq ?_) hperm
  refine congrArg (s.deviceRunning ++ ·) (List.filter_congr fun req_id hmem => ?_)
  unfold ResidentEpochScheduler.deviceRunning
  simp [hmem]

/-- what the reason to isolate says of the limit -/
theorem isolation_room (hlimit : (s.running.length : Int) ≤ s.max_num_running_reqs) {reason : Rejection}
    (h : s.isolation = some reason) : max 1 (s.hostLane.running.length : Int) ≤ s.hostLane.max_num_running_reqs := by
  have hlength : s.deviceRunning.length + s.hostLane.running.length = s.running.length := by
    rw [← List.length_append]
    exact (paused_append s).length_eq
  have hreduced : s.hostLane.max_num_running_reqs = s.max_num_running_reqs - s.deviceRunning.length := rfl
  have hhost (p : Request → Prop) (hp : ∃ request ∈ s.requestsOf s.hostLane.running, p request) :
      1 ≤ s.hostLane.running.length := by
    obtain ⟨request, hmem, -⟩ := hp
    obtain ⟨req_id, hid, -⟩ := List.mem_filterMap.1 hmem
    exact List.length_pos_of_mem hid
  rw [hreduced]
  unfold ResidentEpochScheduler.isolation ResidentEpochScheduler.hostIsolationReason at h
  dsimp only at h
  split_ifs at h with hnone hunsupported hprefill hwaiting
  · have := hhost _ hunsupported
    omega
  · have := hhost _ hprefill
    omega
  · have := hwaiting.2
    omega

end Lane

/-! ## What is restored -/

/-- what the stock schedule may do to the limit and to the running list before it ends -/
structure WithinLimit (before left : ResidentEpochScheduler) : Prop where
  limit : left.max_num_running_reqs = before.max_num_running_reqs
  admitted : (left.running.length : Int) ≤ max before.max_num_running_reqs before.running.length
  /-- each of them from a queue, and once for each time it is queued -/
  queued : left.running.Subperm before.queued

/-- the scheduler after the lane, next to the one before and to what the stock call left -/
structure Restored (s left s' : ResidentEpochScheduler) : Prop where
  scheduler : s' = { left with
    running := s.paused ++ left.running
    max_num_running_reqs := s.max_num_running_reqs }
  order : s.paused.Sublist s.running
  device : ∀ req_id ∈ s.paused, req_id ∈ s.leases.device_owned
  split : (s.paused ++ s.lane.running).Perm s.running
  queued : s'.running.Subperm s.queued
  length : (s'.running.length : Int) ≤ s.max_num_running_reqs
  reduced : s.isolation ≠ none →
    max 1 ((s.running.filter fun req_id => req_id ∉ s.leases.device_owned).length : Int) ≤ s.lane.max_num_running_reqs

theorem restored_plain {s left : ResidentEpochScheduler} (hlimit : (s.running.length : Int) ≤ s.max_num_running_reqs)
    (hisolation : s.isolation = none) (hstock : WithinLimit s left) : Restored s left left := by
  obtain ⟨hlane, hpaused⟩ := lane_plain hisolation
  have hadmitted := hstock.admitted
  refine ⟨?_, hpaused ▸ List.nil_sublist _, fun req_id hmem => ?_, ?_, hstock.queued, by omega,
    fun hne => absurd hisolation hne⟩
  · rw [hpaused, ← hstock.limit]
    rfl
  · rw [hpaused] at hmem
    cases hmem
  · rw [hlane, hpaused]
    exact .refl _

theorem restored_isolated {s left : ResidentEpochScheduler} (hlimit : (s.running.length : Int) ≤ s.max_num_running_reqs)
    {reason : Rejection} (hisolation : s.isolation = some reason) (hstock : WithinLimit s.hostLane left) :
    Restored s left { left with
      running := s.deviceRunning ++ left.running
      max_num_running_reqs := s.max_num_running_reqs } := by
  obtain ⟨hlane, hpaused⟩ := lane_isolated hisolation
  have hroom := isolation_room hlimit hisolation
  have hsplit := paused_append s
  refine ⟨by rw [hpaused], hpaused ▸ List.filter_sublist, fun req_id hmem => ?_, ?_, ?_, ?_, fun _ => ?_⟩
  · rw [hpaused] at hmem
    exact of_decide_eq_true (List.mem_filter.1 hmem).2
  · rw [hlane, hpaused]
    exact hsplit
  · have hqueues : (s.deviceRunning ++ s.hostLane.queued).Perm s.queued := by
      unfold ResidentEpochScheduler.queued
      rw [← List.append_assoc, ← List.append_assoc]
      exact (hsplit.append_right _).append_right _
    exact ((List.subperm_append_left s.deviceRunning).2 hstock.queued).trans hqueues.subperm
  · have hadmitted := hstock.admitted
    have hreduced : s.hostLane.max_num_running_reqs = s.max_num_running_reqs - s.deviceRunning.length := rfl
    show ((s.deviceRunning ++ left.running).length : Int) ≤ s.max_num_running_reqs
    rw [List.length_append]
    push_cast
    omega
  · have hhost : (s.running.filter fun req_id => req_id ∉ s.leases.device_owned) = s.hostLane.running := by
      refine List.filter_congr fun req_id hmem => ?_
      unfold ResidentEpochScheduler.deviceRunning
      simp [hmem]
    rw [hhost, hlane]
    exact hroom

/-- **The isolation lane restores the scheduler.** -/
theorem host_isolation_restores {ε : Type} (s : ResidentEpochScheduler) (stock : StockCall ε)
    (hlimit : (s.running.length : Int) ≤ s.max_num_running_reqs) (hstock : WithinLimit s.lane (stock s.lane).1) :
    Restored s (stock s.lane).1 (s.hostIsolationCall stock).1 ∧
      ∀ output paused_ids isolation_reason,
        (s.hostIsolationCall stock).2 = .ok (output, paused_ids, isolation_reason) →
          paused_ids = s.paused ∧ ∀ req_id ∈ output.req_ids, req_id ∉ s.paused := by
  unfold ResidentEpochScheduler.hostIsolationCall
  cases hisolation : s.isolation with
  | none =>
    obtain ⟨hlane, hpaused⟩ := lane_plain hisolation
    rw [hlane] at hstock ⊢
    refine ⟨restored_plain hlimit hisolation hstock, fun output paused_ids isolation_reason h => ?_⟩
    dsimp only at h
    cases hreturned : (stock s).2 with
    | error e =>
      rw [hreturned] at h
      cases h
    | ok out =>
      rw [hreturned] at h
      cases h
      exact ⟨hpaused.symm, fun req_id _ hmem => by rw [hpaused] at hmem; cases hmem⟩
  | some reason =>
    obtain ⟨hlane, hpaused⟩ := lane_isolated hisolation
    rw [hlane] at hstock ⊢
    refine ⟨restored_isolated hlimit hisolation hstock, fun output paused_ids isolation_reason h => ?_⟩
    dsimp only at h
    cases hreturned : (stock s.hostLane).2 with
    | error e =>
      rw [hreturned] at h
      cases h
    | ok out =>
      rw [hreturned] at h
      dsimp only at h
      split_ifs at h with hidle hdevice
      cases h
      exact ⟨hpaused.symm, fun req_id hmem hp => hdevice ⟨req_id, hmem, hpaused ▸ hp⟩⟩

/-- a Device-owned request, and one that waits with a longer prompt -/
def laneScheduler : ResidentEpochScheduler :=
  { ((ResidentEpochScheduler.fresh (.make 2 8) (.plain 2)).addRequest (greedyRequest 1 [7] 4 9)).addRequest
      (greedyRequest 2 [7, 7] 4 9) with
    running := [1]
    waiting := [2]
    leases := { Leases.fresh with device_owned := {1} } }

/-- the stock scheduler admits the waiting request, and raises -/
def raisingStock : StockCall Unit := fun s => ({ s with running := s.running ++ [2], waiting := [] }, .error ())

theorem host_isolation_restores_raising : laneScheduler.isolation ≠ none ∧
    Restored laneScheduler (raisingStock laneScheduler.lane).1 (laneScheduler.hostIsolationCall raisingStock).1 :=
  ⟨by decide, (host_isolation_restores laneScheduler raisingStock (by decide)
    ⟨rfl, by decide, ⟨[2], .refl _, List.Sublist.refl _⟩⟩).1⟩

/-! ## Steps that return -/

/-- the step returns its output, and the Device-owned requests can run in later ones -/
def LaneReturns (s : ResidentEpochScheduler) (stock : StockSchedule) : Prop :=
  ∃ r, s.schedule stock = .ok r ∧ r.output = stock.output ∧ r.plan = none ∧ r.scheduler.leases = s.leases ∧
    ∀ req_id ∈ s.deviceRunning, req_id ∈ r.scheduler.running ∧
      r.scheduler.requests.find req_id = s.requests.find req_id

section Returns

variable {s : ResidentEpochScheduler} {stock : StockSchedule}

theorem paused_not_queued (hq : s.queued.Nodup) {req_id : ReqId} (h : req_id ∈ s.deviceRunning) :
    req_id ∉ s.hostLane.queued := by
  intro hmem
  have hqueues : (s.deviceRunning ++ s.hostLane.queued).Perm s.queued := by
    unfold ResidentEpochScheduler.queued
    rw [← List.append_assoc, ← List.append_assoc]
    exact ((paused_append s).append_right _).append_right _
  exact (List.nodup_append.1 (hqueues.nodup_iff.2 hq)).2.2 req_id h req_id hmem rfl

/-- what the stock scheduler touches in the lane is not paused -/
theorem lane_untouched (hq : s.queued.Nodup) {reason : Rejection} (h : s.isolation = some reason)
    (hl : Legit s.lane stock) {req_id : ReqId} (hpaused : req_id ∈ s.deviceRunning) :
    req_id ∉ stock.output.req_ids ∧ req_id ∉ stock.output.preempted_req_ids := by
  have hlane := (lane_isolated h).1
  rw [hlane] at hl
  have hqueued {req_id : ReqId} (hmem : req_id ∈ stock.running) : req_id ∈ s.hostLane.queued := by
    refine hl.queues.mem_iff.1 ?_
    rw [List.append_assoc]
    exact List.mem_append_left _ hmem
  constructor
  · intro hmem
    obtain ⟨item, hitem, rfl⟩ := List.mem_map.1 hmem
    exact paused_not_queued hq hpaused (hqueued (hl.scheduled item hitem).1)
  · intro hmem
    have hrun := (hl.preempted req_id hmem).1
    exact of_decide_eq_true (List.mem_filter.1 hrun).2 hpaused

/-- an isolated step is not planned: the paused requests are not in its schedule -/
theorem isolated_rejected (hq : s.queued.Nodup) {reason : Rejection} (h : s.isolation = some reason)
    (hl : Legit s.lane stock) : ∃ rejection,
      makeResidentEpochPlan (s.afterStock stock) stock.output = (s.leases, .error (.rejected rejection)) := by
  have hnot : ¬Schedulable (s.afterStock stock) stock.output := by
    intro hs
    obtain ⟨req_id, hpaused⟩ := List.exists_mem_of_ne_nil _ (isolation_device h)
    have hrunning : req_id ∈ (s.afterStock stock).running := by
      unfold ResidentEpochScheduler.afterStock
      rw [h]
      exact List.mem_append_left _ hpaused
    exact (lane_untouched hq h hl hpaused).1 ((hs.running req_id).2 hrunning)
  unfold makeResidentEpochPlan
  cases hrejection : scheduleRejection (s.afterStock stock) stock.output with
  | ok u => exact absurd ((scheduleRejection_ok _ _ u).1 hrejection) hnot
  | error rejection => exact ⟨rejection, by rw [afterStock_leases]⟩

theorem untouched_find (hq : s.queued.Nodup) {reason : Rejection} (h : s.isolation = some reason)
    (hl : Legit s.lane stock) {req_id : ReqId} (hpaused : req_id ∈ s.deviceRunning) :
    (s.afterStock stock).requests.find req_id = s.requests.find req_id := by
  obtain ⟨hscheduled, hpreempted⟩ := lane_untouched hq h hl hpaused
  rw [afterStock_requests]
  show Option.map _ (s.requests.find req_id) = s.requests.find req_id
  cases hfind : s.requests.find req_id with
  | none => rfl
  | some request =>
    obtain rfl := s.requests.keyed hfind
    have hcount : stock.output.num_scheduled_tokens.lookup request.request_id = none := by
      rw [List.lookup_eq_none_iff]
      exact fun item hitem => by
        simpa using fun heq : request.request_id = item.1 => hscheduled (heq ▸ List.mem_map_of_mem hitem)
    have hsame : request.scheduled stock.output = request := by
      unfold Request.scheduled
      rw [if_neg hpreempted, hcount]
      rfl
    rw [Option.map_some, hsame]

end Returns

/-- an isolated step returns whose schedule has a request, and none that the device owns -/
theorem laneReturns_of {s : ResidentEpochScheduler} {stock : StockSchedule} (hq : s.queued.Nodup) (h : s.isolation ≠ none)
    (hl : Legit s.lane stock) (hlookahead : s.num_lookahead_tokens = 0) (hne : stock.output.req_ids ≠ [])
    (hhost : ∀ req_id ∈ stock.output.req_ids, req_id ∉ s.leases.device_owned) : LaneReturns s stock := by
  obtain ⟨reason, hisolation⟩ := Option.ne_none_iff_exists'.1 h
  obtain ⟨rejection, hmade⟩ := isolated_rejected hq hisolation hl
  have hdevice : ¬∃ req_id ∈ stock.output.req_ids, req_id ∈ s.deviceRunning := by
    rintro ⟨req_id, hmem, hpaused⟩
    exact (lane_untouched hq hisolation hl hpaused).1 hmem
  have hafter : s.afterStock stock = s.restored stock := by
    unfold ResidentEpochScheduler.afterStock
    rw [hisolation]
  have hlane : s.scheduleWithHostIsolation stock = .ok (s.restored stock, s.deviceRunning, some reason) := by
    unfold ResidentEpochScheduler.scheduleWithHostIsolation
    rw [hisolation]
    dsimp only
    rw [if_neg hne, if_neg hdevice]
  refine ⟨⟨{ s.restored stock with leases := s.leases }, stock.output, none, some reason⟩, ?_, rfl, rfl, rfl,
    fun req_id hpaused => ⟨List.mem_append_left _ hpaused, ?_⟩⟩
  · unfold ResidentEpochScheduler.schedule
    rw [if_neg (not_not.2 hlookahead), hlane]
    show finishSchedule (s.restored stock) stock.output s.deviceRunning (some reason) = _
    unfold finishSchedule
    rw [← hafter, hmade]
    dsimp only
    rw [if_neg (not_not.2 (scheduledDeviceOwned_nil.2 hhost)), if_neg (isolation_device hisolation)]
  · have hfind := untouched_find hq hisolation hl hpaused
    rw [hafter] at hfind
    exact hfind

/-- **When an isolated step returns.** -/
theorem lane_returns_iff {s : ResidentEpochScheduler} {stock : StockSchedule} (hq : s.queued.Nodup)
    (h : s.isolation ≠ none) (hl : Legit s.lane stock) : LaneReturns s stock ↔
      s.num_lookahead_tokens = 0 ∧ stock.output.req_ids ≠ [] ∧
        ∀ req_id ∈ stock.output.req_ids, req_id ∉ s.leases.device_owned := by
  constructor
  · rintro ⟨r, hr, -⟩
    obtain ⟨reason, hisolation⟩ := Option.ne_none_iff_exists'.1 h
    obtain ⟨rejection, hmade⟩ := isolated_rejected hq hisolation hl
    obtain ⟨hlookahead, hout⟩ := schedule_cases hr
    refine ⟨hlookahead, ?_⟩
    cases hout with
    | planned hnone _ => exact absurd hnone h
    | host hrejected howned hdisjoint =>
      obtain ⟨rfl, -⟩ := Prod.mk.inj (hmade.symm.trans hrejected)
      exact ⟨(hdisjoint h).1, howned⟩
  · rintro ⟨hlookahead, hne, hhost⟩
    exact laneReturns_of hq h hl hlookahead hne hhost

/-- a Device-owned request runs, and one arrives whose grammar is not ready -/
def blockedEvents : List Event := committedEvents ++
  [.arrive { greedyRequest 2 [7, 7] 4 9 with use_structured_output := true }]

/-- the state they lead to, and a stock schedule in it -/
theorem blocked_reached (stock : StockSchedule) (P : Engine → Prop) [DecidablePred P]
    (h : ((Run.after Engine.next (fun _ _ => True) (.fresh (.make 2 8) (.plain 8)) blockedEvents).any fun engine =>
      decide (engine.scheduler.isolation ≠ none ∧ Legit engine.scheduler.lane stock ∧ P engine)) = true) :
    ∃ engine, Run EngineStep (fun _ _ => True) (.fresh (.make 2 8) (.plain 8)) engine ∧
      engine.scheduler.queued.Nodup ∧ engine.scheduler.isolation ≠ none ∧ Legit engine.scheduler.lane stock ∧ P engine := by
  obtain ⟨engine, hengine, h⟩ := (Option.any_eq_true _ _).1 h
  have hrun : Run EngineStep (fun _ _ => True) (.fresh (.make 2 8) (.plain 8)) engine := Run.of_after hengine
  have hi : EngineInvariant engine :=
    hrun.invariant (fresh_engine ((ResidentEpochConfig.validate_ok_iff _).1 (by decide)) _) fun _ _ _ hi hs _ =>
      next_invariant hi hs
  exact ⟨engine, hrun, hi.scheduler.nodup, of_decide_eq_true h⟩

/-- once the grammar is ready, the prefill is admitted -/
theorem lane_returns_admitted : ∃ engine, Run EngineStep (fun _ _ => True) (.fresh (.make 2 8) (.plain 8)) engine ∧
    engine.scheduler.isolation ≠ none ∧ LaneReturns engine.scheduler (plainStock [(2, 2)] (by decide) [] [2] []) := by
  obtain ⟨engine, hrun, hq, hisolation, hlegit, hstep⟩ := blocked_reached (plainStock [(2, 2)] (by decide) [] [2] [])
    (fun engine => engine.scheduler.num_lookahead_tokens = 0 ∧ 2 ∉ engine.scheduler.leases.device_owned)
    (by decide +kernel)
  refine ⟨engine, hrun, hisolation, (lane_returns_iff hq hisolation hlegit).2 ⟨hstep.1, by decide, ?_⟩⟩
  intro req_id hmem
  obtain rfl := List.mem_singleton.1 hmem
  exact hstep.2

/-- **A request that cannot be admitted yet.** The stock scheduler schedules nothing, and the engine is gone. -/
theorem blocked_lane_raises : ∃ engine, Run EngineStep (fun _ _ => True) (.fresh (.make 2 8) (.plain 8)) engine ∧
    engine.scheduler.isolation ≠ none ∧ Legit engine.scheduler.lane (plainStock [] .nil [] [] [2]) ∧
    engine.scheduler.schedule (plainStock [] .nil [] [] [2]) = .error .isolatedIdle := by
  obtain ⟨engine, hrun, -, hisolation, hlegit, hlookahead⟩ := blocked_reached (plainStock [] .nil [] [] [2])
    (fun engine => engine.scheduler.num_lookahead_tokens = 0) (by decide +kernel)
  refine ⟨engine, hrun, hisolation, hlegit, ?_⟩
  obtain ⟨reason, hreason⟩ := Option.ne_none_iff_exists'.1 hisolation
  unfold ResidentEpochScheduler.schedule ResidentEpochScheduler.scheduleWithHostIsolation
  rw [if_neg (not_not.2 hlookahead), hreason]
  rfl

end Cruise.Scheduler
