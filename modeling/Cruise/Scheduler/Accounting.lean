/-
Counting tokens: the accounting of an epoch, and what it keeps over a run.

MODEL. `accountingCall` is `_apply_resident_epoch_accounting` on the scheduler object, one write after another. `Counted`
carries a ghost: the requests preempted since a token was last appended to them; the Host computes their tokens again.
The Host samples a token for each request whose tokens are all computed, and none for the others. No request arrives
under an id that is being executed.
Results:
- `counts_kept`: over every run, what has been sampled since the last preemption is computed up to its last token, no epoch
  passes a token limit, and plan making finds other counts only in a request that was preempted.
- `accounting_exact`: an accounting raises and writes nothing, or advances every planned request by exactly its extra steps.
  Over every run without preemption, a request past its prefill is computed up to its last token, no epoch passes a token
  limit, and plan making never finds other counts.
-/
import Cruise.Scheduler.Aborts

namespace Cruise.Scheduler

open Cruise.Lib Cruise.Worker

/-! ## One accounting -/

theorem table_ext {table table' : RequestTable} (h : ∀ req_id, table.find req_id = table'.find req_id) : table = table' := by
  obtain ⟨find, _⟩ := table
  obtain ⟨find', _⟩ := table'
  obtain rfl : find = find' := funext h
  rfl

/-- `self.requests[req_id].num_computed_tokens += extra` -/
def Request.advance (req_id : ReqId) (extra : Int) (request : Request) : Request :=
  { request with num_computed_tokens :=
      if request.request_id = req_id then request.num_computed_tokens + extra.toNat else request.num_computed_tokens }

theorem Request.advance_id (req_id : ReqId) (extra : Int) (request : Request) :
    (request.advance req_id extra).request_id = request.request_id := rfl

namespace ResidentEpochScheduler

/-- the second loop -/
def advanceLoop (s : ResidentEpochScheduler) : List (ReqId × Int) → ResidentEpochScheduler × Except SchedulerError Unit
  | [] => (s, .ok ())
  | (req_id, extra) :: extras =>
    match s.requests.find req_id with
    | none => (s, .error (.missing req_id))
    | some _ =>
      advanceLoop { s with
        requests := s.requests.modify (Request.advance req_id extra) (Request.advance_id req_id extra) } extras

/-- `_apply_resident_epoch_accounting`: what it leaves of the scheduler, and how it ends -/
def accountingCall (s : ResidentEpochScheduler) (out : SchedulerOutput) (output : ModelRunnerOutput)
    (plan : ResidentEpochPlan) (result : ResidentEpochResult) : ResidentEpochScheduler × Except SchedulerError Unit :=
  let checked := do
    let sampled_by_req ← sampledByReq plan output
    (result.validateAgainst plan sampled_by_req).mapError .result
    result.computed_steps.mapM (extraSteps s out sampled_by_req)
  match checked with
  | .error e => (s, .error e)
  | .ok extras =>
    match s.advanceLoop extras with
    | (s', .error e) => (s', .error e)
    | (s', .ok ()) =>
      ({ s' with leases := { s'.leases with
          device_owned := if result.route = .device then s'.leases.device_owned ∪ ownedBy plan
            else s'.leases.device_owned } }, .ok ())

end ResidentEpochScheduler

section Loop

variable {s : ResidentEpochScheduler}

/-- the loop over a dictionary writes each request once -/
theorem advanceLoop_ok {extras : List (ReqId × Int)} (hdict : (extras.map Prod.fst).Nodup)
    (hknown : ∀ item ∈ extras, ∃ request, s.requests.find item.1 = some request) :
    s.advanceLoop extras =
      ({ s with requests := s.requests.modify (Request.advanced extras) (Request.advanced_id extras) }, .ok ()) := by
  induction extras generalizing s with
  | nil =>
    have hsame : s.requests.modify (Request.advanced []) (Request.advanced_id []) = s.requests := by
      apply table_ext
      intro req_id
      show Option.map (fun request => request) (s.requests.find req_id) = s.requests.find req_id
      exact Option.map_id'
    rw [hsame]
    rfl
  | cons item extras ih =>
    obtain ⟨req_id, extra⟩ := item
    obtain ⟨hnew, hdict⟩ := List.nodup_cons.1 hdict
    obtain ⟨⟨request, hfind⟩, hknown⟩ := List.forall_mem_cons.1 hknown
    have hnew : req_id ∉ extras.map Prod.fst := hnew
    have hkept (item : ReqId × Int) (hitem : item ∈ extras) : ∃ request, (s.requests.modify (Request.advance req_id extra)
        (Request.advance_id req_id extra)).find item.1 = some request := modify_known.2 (hknown item hitem)
    unfold ResidentEpochScheduler.advanceLoop
    rw [show s.requests.find req_id = some request from hfind]
    dsimp only
    rw [ih hdict hkept]
    congr 2
    apply table_ext
    intro id
    show Option.map _ (Option.map _ (s.requests.find id)) = Option.map _ (s.requests.find id)
    rw [Option.map_map]
    refine congrArg (fun f => Option.map f (s.requests.find id)) (funext fun old => ?_)
    unfold Request.advanced Request.advance
    dsimp only [Function.comp_apply]
    by_cases hid : old.request_id = req_id
    · have hrest : extras.lookup req_id = none := by
        rw [List.lookup_eq_none_iff]
        intro item hitem
        have hkey : item.1 ∈ extras.map Prod.fst := List.mem_map_of_mem hitem
        simpa using fun heq : req_id = item.1 => hnew (heq ▸ hkey)
      rw [if_pos hid, hid, List.lookup_cons_self, hrest]
      rfl
    · rw [if_neg hid, List.lookup_cons, beq_false_of_ne hid]

end Loop

/-- the extra steps of an id -/
theorem extras_lookup {s : ResidentEpochScheduler} {out : SchedulerOutput} {sampled_by_req : List (ReqId × List Int)}
    {computed_steps extras : List (ReqId × Int)}
    (h : List.Forall₂ (fun item extra => extraSteps s out sampled_by_req item = .ok extra) computed_steps extras) :
    extras.map Prod.fst = computed_steps.map Prod.fst ∧ ∀ req_id extra, extras.lookup req_id = some extra →
      ∃ steps request scheduled, computed_steps.lookup req_id = some steps ∧ s.requests.find req_id = some request ∧
        out.num_scheduled_tokens.lookup req_id = some scheduled ∧ extra = steps - scheduled ∧ 0 ≤ extra := by
  induction h with
  | nil => exact ⟨rfl, fun _ _ h => by cases h⟩
  | @cons item extra computed_steps extras hitem _ ih =>
    obtain ⟨hkeys, hlookup⟩ := ih
    unfold extraSteps at hitem
    cases hfind : s.requests.find item.1 with
    | none =>
      rw [hfind] at hitem
      cases hitem
    | some request =>
      cases hcount : out.num_scheduled_tokens.lookup item.1 with
      | none =>
        rw [hfind, hcount] at hitem
        cases hitem
      | some scheduled =>
        rw [hfind, hcount] at hitem
        dsimp only at hitem
        split_ifs at hitem with hfewer hover
        cases hitem
        refine ⟨by rw [List.map_cons, List.map_cons, hkeys], fun req_id extra h => ?_⟩
        rw [List.lookup_cons] at h ⊢
        by_cases hid : req_id = item.1
        · subst hid
          rw [beq_self_eq_true] at h ⊢
          cases h
          exact ⟨item.2, request, scheduled, rfl, hfind, hcount, rfl, not_lt.1 hfewer⟩
        · rw [beq_false_of_ne hid] at h ⊢
          exact hlookup req_id extra h

/-- what an accounting that returns has done -/
structure AccountedExactly (s s' : ResidentEpochScheduler) (out : SchedulerOutput) (plan : ResidentEpochPlan)
    (result : ResidentEpochResult) : Prop where
  known : ∀ req_id ∈ plan.req_ids, ∃ request, s.requests.find req_id = some request
  advanced : ∀ req_id ∈ plan.req_ids, ∀ request, s.requests.find req_id = some request →
    ∃ request', s'.requests.find req_id = some request' ∧ (request'.num_computed_tokens : Int) =
      request.num_computed_tokens + (result.steps req_id - (out.num_scheduled_tokens.lookup req_id).getD 0)
  others : ∀ req_id ∉ plan.req_ids, s'.requests.find req_id = s.requests.find req_id
  owned : ∀ req_id, req_id ∈ s'.leases.device_owned ↔ req_id ∈ s.leases.device_owned ∨
    result.route = .device ∧ ∃ planned ∈ plan.requests, planned.state_owner = .host ∧ planned.req_id = req_id

/-- the accounting writes nothing, or everything -/
def AtomicAccounting : Prop :=
  ∀ s out output plan result, (result.computed_steps.map Prod.fst).Nodup →
    (∃ e, ResidentEpochScheduler.accountingCall s out output plan result = (s, .error e)) ∨
      ∃ s', s.accountingCall out output plan result = (s', .ok ()) ∧ AccountedExactly s s' out plan result

section Accounting

variable {s s' : ResidentEpochScheduler} {out : SchedulerOutput} {output : ModelRunnerOutput}
variable {plan : ResidentEpochPlan} {result : ResidentEpochResult} {sampled_by_req : List (ReqId × List Int)}
variable {extras : List (ReqId × Int)}

/-- an id that is planned has its extra steps -/
theorem accounted_extra (ha : Accounted s out output plan result sampled_by_req extras s') {req_id : ReqId}
    (hid : req_id ∈ plan.req_ids) : ∃ extra request scheduled, extras.lookup req_id = some extra ∧
      s.requests.find req_id = some request ∧ out.num_scheduled_tokens.lookup req_id = some scheduled ∧
      extra = result.steps req_id - scheduled ∧ 0 ≤ extra := by
  obtain ⟨hkeys, hlookup⟩ := extras_lookup (mapM_ok.1 ha.steps)
  obtain ⟨hids, -⟩ := resultValidate_steps ha.valid
  obtain ⟨extra, hextra⟩ := lookup_exists (hkeys ▸ (hids req_id).2 hid : req_id ∈ extras.map Prod.fst)
  obtain ⟨steps, request, scheduled, hsteps, hfind, hcount, heq, hpos⟩ := hlookup req_id extra hextra
  refine ⟨extra, request, scheduled, hextra, hfind, hcount, ?_, hpos⟩
  unfold ResidentEpochResult.steps
  rw [hsteps]
  exact heq

theorem accounted_exactly (ha : Accounted s out output plan result sampled_by_req extras s') :
    AccountedExactly s s' out plan result := by
  obtain ⟨hkeys, -⟩ := extras_lookup (mapM_ok.1 ha.steps)
  obtain ⟨hids, -⟩ := resultValidate_steps ha.valid
  have hrequests : s'.requests = s.requests.modify (Request.advanced extras) (Request.advanced_id extras) := by
    rw [ha.scheduler]
  refine ⟨fun req_id hid => ?_, fun req_id hid request hfind => ?_, fun req_id hid => ?_, fun req_id => ?_⟩
  · obtain ⟨_, request, _, _, hfind, -⟩ := accounted_extra ha hid
    exact ⟨request, hfind⟩
  · obtain ⟨extra, _, scheduled, hextra, -, hcount, heq, hpos⟩ := accounted_extra ha hid
    rw [hrequests]
    refine ⟨_, congrArg (Option.map _) hfind, ?_⟩
    have hlookup : extras.lookup request.request_id = some extra := by rw [s.requests.keyed hfind, hextra]
    simp only [Request.advanced, hlookup, hcount, Option.getD_some]
    push_cast
    omega
  · rw [hrequests]
    show Option.map _ (s.requests.find req_id) = s.requests.find req_id
    cases hfind : s.requests.find req_id with
    | none => rfl
    | some request =>
      obtain rfl := s.requests.keyed hfind
      have hnone : extras.lookup request.request_id = none := by
        rw [List.lookup_eq_none_iff]
        intro item hitem
        have hmem : item.1 ∈ plan.req_ids := (hids item.1).1 (hkeys ▸ List.mem_map_of_mem hitem)
        simpa using fun heq : request.request_id = item.1 => hid (heq ▸ hmem)
      rw [Option.map_some]
      unfold Request.advanced
      rw [hnone]
      rfl
  · have howned : s'.leases.device_owned =
        if result.route = .device then s.leases.device_owned ∪ ownedBy plan else s.leases.device_owned := by
      rw [ha.scheduler]
    rw [howned]
    by_cases hroute : result.route = .device
    · rw [if_pos hroute, Finset.mem_union, mem_ownedBy]
      exact or_congr_right (and_iff_right hroute).symm
    · rw [if_neg hroute]
      exact ⟨Or.inl, fun h => h.resolve_right fun h => hroute h.1⟩

/-- the accounting on the object is the one of the model -/
theorem accountingCall_ok (ha : Accounted s out output plan result sampled_by_req extras s')
    (hdict : (result.computed_steps.map Prod.fst).Nodup) : s.accountingCall out output plan result = (s', .ok ()) := by
  obtain ⟨hkeys, hlookup⟩ := extras_lookup (mapM_ok.1 ha.steps)
  have hextras : (extras.map Prod.fst).Nodup := hkeys ▸ hdict
  have hknown (item : ReqId × Int) (hitem : item ∈ extras) : ∃ request, s.requests.find item.1 = some request := by
    obtain ⟨_, request, _, -, hfind, -⟩ := hlookup item.1 item.2 ((lookup_iff_mem hextras).2 hitem)
    exact ⟨request, hfind⟩
  have hchecked : (do
      let sampled_by_req ← sampledByReq plan output
      (result.validateAgainst plan sampled_by_req).mapError SchedulerError.result
      result.computed_steps.mapM (extraSteps s out sampled_by_req)) = .ok extras :=
    except_bind_ok.2 ⟨_, ha.sampled, except_bind_ok.2 ⟨(), mapError_ok.2 ha.valid, ha.steps⟩⟩
  unfold ResidentEpochScheduler.accountingCall
  rw [hchecked]
  dsimp only
  rw [advanceLoop_ok hextras hknown, ha.scheduler]

/-- **The accounting is atomic and exact.** -/
theorem accounting_atomic : AtomicAccounting := by
  intro s out output plan result hdict
  cases hchecked : s.applyResidentEpochAccounting out output plan result with
  | ok s' =>
    obtain ⟨_, _, ha⟩ := accounting_iff.1 hchecked
    exact Or.inr ⟨s', accountingCall_ok ha hdict, accounted_exactly ha⟩
  | error e =>
    left
    unfold ResidentEpochScheduler.accountingCall
    cases hextras : (do
        let sampled_by_req ← sampledByReq plan output
        (result.validateAgainst plan sampled_by_req).mapError SchedulerError.result
        result.computed_steps.mapM (extraSteps s out sampled_by_req) : Except SchedulerError (List (ReqId × Int))) with
    | error e' => exact ⟨e', rfl⟩
    | ok extras =>
      obtain ⟨sampled_by_req, hsampled, h⟩ := except_bind_ok.1 hextras
      obtain ⟨_, hvalid, hsteps⟩ := except_bind_ok.1 h
      have hok := accounting_iff.2 ⟨sampled_by_req, extras, hsampled, mapError_ok.1 hvalid, hsteps, rfl⟩
      rw [hchecked] at hok
      cases hok

end Accounting

/-! ## Tokens that are appended -/

/-- tokens that stop nothing are all appended -/
theorem appendTokens_live {check_stop : StopRule} {request : Request} {tokens : List Int}
    (h : (request.appendTokens check_stop tokens).2 = false) :
    (request.appendTokens check_stop tokens).1 = { request with output_token_ids := request.output_token_ids ++ tokens } := by
  induction tokens generalizing request with
  | nil =>
    show request = _
    rw [List.append_nil]
  | cons token tokens ih =>
    unfold Request.appendTokens at h ⊢
    dsimp only at h ⊢
    by_cases hstop : check_stop.stops (request.append token) = true
    · rw [if_pos hstop] at h
      cases h
    · rw [if_neg hstop] at h ⊢
      rw [ih h]
      unfold Request.append
      rw [List.append_assoc]
      rfl

/-- the tokens an update has for an id -/
def newTokens (out : SchedulerOutput) (output : ModelRunnerOutput) (req_id : ReqId) : List Int :=
  if req_id ∈ out.req_ids then (sampledTokens output req_id).getD [] else []

theorem updated_eq (check_stop : StopRule) (out : SchedulerOutput) (output : ModelRunnerOutput) (request : Request) :
    request.updated check_stop out output = request.appendTokens check_stop (newTokens out output request.request_id) := by
  unfold Request.updated newTokens
  split_ifs
  · rfl
  · rfl

/-- how many tokens an update has for an id -/
def appended (out : SchedulerOutput) (output : ModelRunnerOutput) (req_id : ReqId) : ℕ :=
  if req_id ∈ out.req_ids then ((sampledTokens output req_id).getD []).length else 0

theorem newTokens_length (out : SchedulerOutput) (output : ModelRunnerOutput) (req_id : ReqId) :
    (newTokens out output req_id).length = appended out output req_id := by
  unfold newTokens appended
  split_ifs
  · rfl
  · rfl

/-- the counts of a request, and of what became of it -/
structure Grown (old request : Request) (tokens : ℕ) : Prop where
  num_computed_tokens : request.num_computed_tokens = old.num_computed_tokens
  num_tokens : request.num_tokens = old.num_tokens + tokens
  num_output_tokens : request.num_output_tokens = old.num_output_tokens + tokens

/-- what is still known after an update was not stopped -/
theorem superUpdate_unstopped {s : ResidentEpochScheduler} {out : SchedulerOutput} {output : ModelRunnerOutput}
    {req_id : ReqId} {request : Request} (h : (s.superUpdate out output).requests.find req_id = some request) :
    ∃ old, s.requests.find req_id = some old ∧
      old.appendTokens s.check_stop (newTokens out output req_id) = (request, false) := by
  obtain ⟨hlive, h⟩ := (remove_find _ _ _ _).1 h
  obtain ⟨old, hold, rfl⟩ := Option.map_eq_some_iff.1 h
  obtain rfl := s.requests.keyed hold
  refine ⟨old, hold, ?_⟩
  rw [← updated_eq]
  refine Prod.ext rfl ?_
  by_contra hstop
  have hid : old.request_id ∈ out.req_ids := by
    by_contra hid
    have hsame : old.updated s.check_stop out output = (old, false) := if_neg hid
    rw [hsame] at hstop
    exact hstop rfl
  refine hlive (List.mem_filter.2 ⟨hid, ?_⟩)
  rw [hold, Option.any_some]
  simpa using hstop

/-- all its tokens have been appended -/
theorem superUpdate_appended {s : ResidentEpochScheduler} {out : SchedulerOutput} {output : ModelRunnerOutput}
    {req_id : ReqId} {request : Request} (h : (s.superUpdate out output).requests.find req_id = some request) :
    ∃ old, s.requests.find req_id = some old ∧
      request = { old with output_token_ids := old.output_token_ids ++ newTokens out output req_id } := by
  obtain ⟨old, hold, happend⟩ := superUpdate_unstopped h
  refine ⟨old, hold, ?_⟩
  rw [← appendTokens_live (congrArg Prod.snd happend), happend]

theorem updated_appended {s s' : ResidentEpochScheduler} {out : SchedulerOutput} {output : ModelRunnerOutput}
    {plan : Option ResidentEpochPlan} (hu : Updated s out output plan s') {req_id : ReqId} {request : Request}
    (h : s'.requests.find req_id = some request) : ∃ old extras, s.requests.find req_id = some old ∧
      request = { old.advanced extras with output_token_ids := old.output_token_ids ++ newTokens out output req_id } := by
  cases hu with
  | host _ =>
    obtain ⟨old, hold, rfl⟩ := superUpdate_appended h
    exact ⟨old, [], hold, rfl⟩
  | epoch _ haccount =>
    obtain ⟨_, extras, ha⟩ := accounting_iff.1 haccount
    obtain ⟨accounted, haccounted, rfl⟩ := superUpdate_appended h
    rw [ha.scheduler] at haccounted
    obtain ⟨old, hold, rfl⟩ := Option.map_eq_some_iff.1 haccounted
    exact ⟨old, extras, hold, rfl⟩

theorem superUpdate_live {s : ResidentEpochScheduler} {out : SchedulerOutput} {output : ModelRunnerOutput} {req_id : ReqId}
    {request : Request} (h : (s.superUpdate out output).requests.find req_id = some request) :
    ∃ old, s.requests.find req_id = some old ∧ Grown old request (appended out output req_id) := by
  obtain ⟨old, hold, rfl⟩ := superUpdate_appended h
  rw [← newTokens_length]
  refine ⟨old, hold, rfl, ?_, List.length_append⟩
  show (old.prompt_token_ids ++ (old.output_token_ids ++ _)).length = (old.prompt_token_ids ++ old.output_token_ids).length + _
  rw [← List.append_assoc, List.length_append]

/-! ## Runs -/

structure Counted where
  engine : Engine
  /-- preempted since a token was last appended, or since the arrival -/
  preempted : Finset ReqId

def Counted.fresh (config : ResidentEpochConfig) (stock : StockConfig) : Counted := ⟨.fresh config stock, ∅⟩

def Counted.nextPreempted (t : Counted) : Event → Finset ReqId
  | .arrive request => t.preempted.erase request.request_id
  | .finish _ => t.preempted
  | .schedule stock => t.preempted ∪ stock.output.preempted_req_ids.toFinset
  | .update output =>
    match t.engine.in_flight with
    | none => t.preempted
    | some (out, _) => t.preempted.filter fun req_id => appended out output req_id = 0

def Counted.next (t : Counted) (event : Event) : Option Counted :=
  (t.engine.next event).map fun engine => ⟨engine, t.nextPreempted event⟩

def CountedStep (t : Counted) (event : Event) (t' : Counted) : Prop := t.next event = some t'

/-- the Host samples one token for each request whose tokens are all computed, and none for the others -/
def HostSamples (s : ResidentEpochScheduler) (out : SchedulerOutput) (output : ModelRunnerOutput) : Prop :=
  ∀ req_id ∈ out.req_ids, ∀ request ∈ s.requests.find req_id,
    appended out output req_id = if request.num_computed_tokens = request.num_tokens then 1 else 0

instance (s : ResidentEpochScheduler) (out : SchedulerOutput) (output : ModelRunnerOutput) :
    Decidable (HostSamples s out output) := inferInstanceAs (Decidable (∀ req_id ∈ out.req_ids, _))

/-- what the surroundings of the scheduler do -/
def CountedEvent (t : Counted) : Event → Prop
  | .arrive request => ∀ flight ∈ t.engine.in_flight, request.request_id ∉ flight.1.req_ids
  | .update output => ∀ flight ∈ t.engine.in_flight, flight.2.isNone = true →
      HostSamples t.engine.scheduler flight.1 output
  | _ => True

instance (t : Counted) (event : Event) : Decidable (CountedEvent t event) := by
  unfold CountedEvent
  cases event <;> infer_instance

theorem countedStep_iff {t t' : Counted} {event : Event} :
    CountedStep t event t' ↔ t.engine.next event = some t'.engine ∧ t'.preempted = t.nextPreempted event := by
  unfold CountedStep Counted.next
  rw [Option.map_eq_some_iff]
  constructor
  · rintro ⟨engine, hengine, rfl⟩
    exact ⟨hengine, rfl⟩
  · rintro ⟨hengine, hpreempted⟩
    exact ⟨t'.engine, hengine, by rw [← hpreempted]⟩

/-- the request is in the step in flight -/
def Engine.Executing (engine : Engine) (req_id : ReqId) : Prop :=
  ∃ out plan, engine.in_flight = some (out, plan) ∧ req_id ∈ out.req_ids

theorem Engine.unexecuted {engine : Engine} (h : engine.in_flight = none) (req_id : ReqId) : ¬engine.Executing req_id := by
  rintro ⟨out, plan, hsome, -⟩
  rw [h] at hsome
  cases hsome

/-- a token has been sampled for the request, and it was not preempted since -/
def Counted.Decoding (t : Counted) (request : Request) : Prop :=
  0 < request.num_output_tokens ∧ request.request_id ∉ t.preempted

/-- the plan in flight, and the limits of its requests -/
structure WithinBudget (s : ResidentEpochScheduler) (out : SchedulerOutput) (plan : ResidentEpochPlan) : Prop where
  flight : InFlight s out plan
  budget : ∀ req_id ∈ plan.req_ids, ∀ request, s.requests.find req_id = some request →
    plan.max_steps ≤ request.max_tokens - request.num_output_tokens

structure CountInvariant (t : Counted) : Prop where
  engine : EngineInvariant t.engine
  idle : ∀ req_id request, t.engine.scheduler.requests.find req_id = some request → ¬t.engine.Executing req_id →
    t.Decoding request → request.num_computed_tokens + 1 = request.num_tokens
  executing : ∀ req_id request, t.engine.scheduler.requests.find req_id = some request → t.engine.Executing req_id →
    t.Decoding request → request.num_computed_tokens = request.num_tokens
  plan : ∀ out plan, t.engine.in_flight = some (out, some plan) → WithinBudget t.engine.scheduler out plan

theorem fresh_counted {config : ResidentEpochConfig} (hconfig : config.Valid) (stock : StockConfig) :
    CountInvariant (.fresh config stock) where
  engine := fresh_engine hconfig stock
  idle := fun _ _ h => (by cases h)
  executing := fun _ _ h => (by cases h)
  plan := fun _ _ h => (by cases h)

theorem lane_requests (s : ResidentEpochScheduler) : s.lane.requests = s.requests := by
  unfold ResidentEpochScheduler.lane
  cases s.isolation <;> rfl

/-- the counts of a request after a stock schedule -/
theorem scheduled_counts {s : ResidentEpochScheduler} {stock : StockSchedule} (hl : Legit s.lane stock) {request : Request}
    (hfind : s.requests.find request.request_id = some request)
    (hpreempted : request.request_id ∉ stock.output.preempted_req_ids) :
    (request.request_id ∉ stock.output.req_ids ∧
      (request.scheduled stock.output).num_computed_tokens = request.num_computed_tokens) ∨
    ∃ count, stock.output.num_scheduled_tokens.lookup request.request_id = some count ∧ 1 ≤ count ∧
      (request.scheduled stock.output).num_computed_tokens = request.num_computed_tokens + count ∧
      request.num_computed_tokens + count ≤ request.num_tokens := by
  unfold Request.scheduled
  dsimp only
  rw [if_neg hpreempted]
  cases hcount : stock.output.num_scheduled_tokens.lookup request.request_id with
  | none =>
    refine Or.inl ⟨fun hmem => ?_, rfl⟩
    obtain ⟨count, hsome⟩ := lookup_exists hmem
    rw [hcount] at hsome
    cases hsome
  | some count =>
    obtain ⟨-, hpos, hbound⟩ := hl.scheduled _ (mem_of_lookup hcount)
    rw [lane_requests] at hbound
    exact Or.inr ⟨count, rfl, hpos, rfl, hbound request hfind⟩

theorem addRequest_find {s : ResidentEpochScheduler} {request known : Request} {req_id : ReqId}
    (h : (s.addRequest request).requests.find req_id = some known) :
    (req_id = request.request_id ∧ known = request) ∨
      (req_id ≠ request.request_id ∧ s.requests.find req_id = some known) := by
  have h : (if req_id = request.request_id then some request else s.requests.find req_id) = some known := h
  split_ifs at h with hid
  · cases h
    exact Or.inl ⟨hid, rfl⟩
  · exact Or.inr ⟨hid, h⟩

/-- the request after a schedule -/
theorem scheduled_find {s : ResidentEpochScheduler} {stock : StockSchedule} {r : Scheduled} (hs : ScheduleSpec s stock r)
    {req_id : ReqId} {request : Request} (h : r.scheduler.requests.find req_id = some request) :
    ∃ old, s.requests.find req_id = some old ∧ request = old.scheduled stock.output := by
  rw [hs.scheduler] at h
  have h : (s.afterStock stock).requests.find req_id = some request := h
  rw [afterStock_requests] at h
  obtain ⟨old, hold, rfl⟩ := modify_find.1 h
  exact ⟨old, hold, rfl⟩

section Steps

variable {t : Counted} (hi : CountInvariant t)

include hi

theorem CountInvariant.arrive {request : Request} (hnew : t.engine.scheduler.requests.find request.request_id = none)
    (harriving : request.Arriving) (hfree : CountedEvent t (.arrive request)) :
    CountInvariant ⟨{ t.engine with scheduler := t.engine.scheduler.addRequest request },
      t.nextPreempted (.arrive request)⟩ := by
  have hfind {req_id : ReqId} {known : Request}
      (h : (t.engine.scheduler.addRequest request).requests.find req_id = some known) :
      known = request ∨ known.request_id ≠ request.request_id ∧ t.engine.scheduler.requests.find req_id = some known := by
    rcases addRequest_find h with ⟨-, rfl⟩ | ⟨hne, h⟩
    · exact Or.inl rfl
    · exact Or.inr ⟨t.engine.scheduler.requests.keyed h ▸ hne, h⟩
  have hundecoded (tokens : Finset ReqId) (hdecoding : (⟨t.engine, tokens⟩ : Counted).Decoding request) : False := by
    have hout := hdecoding.1
    unfold Request.num_output_tokens at hout
    rw [harriving.outputs] at hout
    cases hout
  have hbefore {known : Request} (hne : known.request_id ≠ request.request_id)
      (hdecoding : 0 < known.num_output_tokens ∧ known.request_id ∉ t.preempted.erase request.request_id) :
      t.Decoding known := ⟨hdecoding.1, fun hmem => hdecoding.2 (Finset.mem_erase.2 ⟨hne, hmem⟩)⟩
  refine ⟨⟨addRequest_wellFormed hi.engine.scheduler hnew, hi.engine.plan⟩, fun req_id known h hidle hdecoding => ?_,
    fun req_id known h hexec hdecoding => ?_, fun out plan hflight => ?_⟩
  · rcases hfind h with rfl | ⟨hne, h⟩
    · exact (hundecoded _ hdecoding).elim
    · exact hi.idle req_id known h hidle (hbefore hne hdecoding)
  · rcases hfind h with rfl | ⟨hne, h⟩
    · exact (hundecoded _ hdecoding).elim
    · exact hi.executing req_id known h hexec (hbefore hne hdecoding)
  · have hp := hi.plan out plan hflight
    have hid (req_id : ReqId) (hmem : req_id ∈ plan.req_ids) (known : Request)
        (h : (t.engine.scheduler.addRequest request).requests.find req_id = some known) :
        t.engine.scheduler.requests.find req_id = some known := by
      rcases hfind h with rfl | ⟨-, h⟩
      · have hids := (hi.engine.plan out plan hflight).ids
        have hkey := (t.engine.scheduler.addRequest known).requests.keyed h
        exact absurd (hids ▸ hkey ▸ hmem) (hfree (out, some plan) hflight)
      · exact h
    exact ⟨⟨hp.flight.scheduled, fun req_id hmem known h => hp.flight.computed req_id hmem known (hid req_id hmem known h)⟩,
      fun req_id hmem known h => hp.budget req_id hmem known (hid req_id hmem known h)⟩

theorem CountInvariant.finish (req_ids : List ReqId) :
    CountInvariant ⟨{ t.engine with scheduler := t.engine.scheduler.finishRequests req_ids }, t.preempted⟩ := by
  have hfind {req_id : ReqId} {known : Request}
      (h : (t.engine.scheduler.finishRequests req_ids).requests.find req_id = some known) :
      t.engine.scheduler.requests.find req_id = some known := ((remove_find _ _ _ _).1 h).2
  refine ⟨⟨finishRequests_wellFormed hi.engine.scheduler _, hi.engine.plan⟩, fun req_id known h => hi.idle req_id known (hfind h),
    fun req_id known h => hi.executing req_id known (hfind h), fun out plan hflight => ?_⟩
  have hp := hi.plan out plan hflight
  exact ⟨⟨hp.flight.scheduled, fun req_id hmem known h => hp.flight.computed req_id hmem known (hfind h)⟩,
    fun req_id hmem known h => hp.budget req_id hmem known (hfind h)⟩

/-- a schedule computes the last token of what is decoding and scheduled -/
theorem CountInvariant.schedule (hflight : t.engine.in_flight = none) {stock : StockSchedule}
    (hl : Legit t.engine.scheduler.lane stock) {r : Scheduled} (hschedule : t.engine.scheduler.schedule stock = .ok r) :
    CountInvariant ⟨⟨r.scheduler, some (r.output, r.plan)⟩, t.nextPreempted (.schedule stock)⟩ := by
  have hs := schedule_spec hi.engine.scheduler hl hschedule
  have hcounts {req_id : ReqId} {request : Request} (h : r.scheduler.requests.find req_id = some request)
      (hdecoding : 0 < request.num_output_tokens ∧
        request.request_id ∉ t.preempted ∪ stock.output.preempted_req_ids.toFinset) :
      (req_id ∉ stock.output.req_ids ∧ request.num_computed_tokens + 1 = request.num_tokens) ∨
        request.num_computed_tokens = request.num_tokens ∧ req_id ∈ stock.output.req_ids := by
    rw [hs.scheduler] at h
    have h : (t.engine.scheduler.afterStock stock).requests.find req_id = some request := h
    rw [afterStock_requests] at h
    obtain ⟨old, hold, rfl⟩ := modify_find.1 h
    obtain rfl := t.engine.scheduler.requests.keyed hold
    obtain ⟨hout, hpreempted⟩ := hdecoding
    have hpreempted : old.request_id ∉ t.preempted ∪ stock.output.preempted_req_ids.toFinset := hpreempted
    rw [Finset.mem_union, not_or, List.mem_toFinset] at hpreempted
    have hbefore := hi.idle old.request_id old hold (Engine.unexecuted hflight _) ⟨hout, hpreempted.1⟩
    have htokens : (old.scheduled stock.output).num_tokens = old.num_tokens := rfl
    rcases scheduled_counts hl hold hpreempted.2 with ⟨hnot, hsame⟩ | ⟨count, hcount, hpos, hadded, hbound⟩
    · exact Or.inl ⟨hnot, by rw [hsame, htokens, hbefore]⟩
    · exact Or.inr ⟨by rw [hadded, htokens]; omega, key_of_lookup hcount⟩
  refine ⟨schedule_invariant hs, fun req_id request h hidle hdecoding => ?_, fun req_id request h hexec hdecoding => ?_,
    fun out plan hsome => ?_⟩
  · rcases hcounts h hdecoding with ⟨-, hcount⟩ | ⟨-, hmem⟩
    · exact hcount
    · exact absurd ⟨r.output, r.plan, rfl, hs.output ▸ hmem⟩ hidle
  · rcases hcounts h hdecoding with ⟨hnot, -⟩ | ⟨hcount, -⟩
    · obtain ⟨out, plan, hsome, hmem⟩ := hexec
      cases hsome
      exact absurd (hs.output ▸ hmem) hnot
    · exact hcount
  · obtain ⟨hout, hplan⟩ := Prod.mk.inj (Option.some.inj hsome)
    subst hout
    refine ⟨(schedule_inFlight hschedule hplan).1, fun req_id hmem request h => ?_⟩
    obtain ⟨planned, hplanned, rfl⟩ := List.mem_map.1 hmem
    obtain ⟨request', hp⟩ := (hs.plan plan hplan).2.requests planned hplanned
    have hfind := hp.find
    have h : r.scheduler.requests.find planned.req_id = some request := h
    rw [hs.scheduler] at h
    obtain rfl : request' = request := Option.some.inj (hfind.symm.trans h)
    exact hp.remaining

/-- after an update of the Host, what was sampled is one token ahead of what is computed -/
theorem CountInvariant.host {out : SchedulerOutput} (hflight : t.engine.in_flight = some (out, none))
    {output : ModelRunnerOutput} (hsamples : HostSamples t.engine.scheduler out output) {req_id : ReqId} {request : Request}
    (h : (t.engine.scheduler.superUpdate out output).requests.find req_id = some request)
    (hout : 0 < request.num_output_tokens)
    (hpreempted : request.request_id ∉ t.preempted.filter fun req_id => appended out output req_id = 0) :
    request.num_computed_tokens + 1 = request.num_tokens := by
  obtain ⟨old, hold, hgrown⟩ := superUpdate_live h
  have hkey := (t.engine.scheduler.superUpdate out output).requests.keyed h
  have holdKey := t.engine.scheduler.requests.keyed hold
  have hcomputed := hgrown.num_computed_tokens
  have htokens := hgrown.num_tokens
  have houtputs := hgrown.num_output_tokens
  have hdecoding (hzero : appended out output req_id = 0) : t.Decoding old := by
    refine ⟨by omega, fun hmem => hpreempted (Finset.mem_filter.2 ⟨?_, hkey.symm ▸ hzero⟩)⟩
    rw [hkey, ← holdKey]
    exact hmem
  by_cases hid : req_id ∈ out.req_ids
  · have hcount := hsamples req_id hid old hold
    by_cases hall : old.num_computed_tokens = old.num_tokens
    · rw [if_pos hall] at hcount
      omega
    · rw [if_neg hall] at hcount
      exact absurd (hi.executing req_id old hold ⟨out, none, hflight, hid⟩ (hdecoding hcount)) hall
  · have hzero : appended out output req_id = 0 := if_neg hid
    have hidle : ¬t.engine.Executing req_id := by
      rintro ⟨out', plan', hsome, hmem⟩
      rw [hflight] at hsome
      cases hsome
      exact hid hmem
    have hbefore := hi.idle req_id old hold hidle (hdecoding hzero)
    omega

end Steps

/-- the tokens an accounting has checked are those of the update -/
theorem sampled_lookup {plan : ResidentEpochPlan} {output : ModelRunnerOutput} {sampled_by_req : List (ReqId × List Int)}
    (h : sampledByReq plan output = .ok sampled_by_req) {req_id : ReqId} (hid : req_id ∈ plan.req_ids) :
    sampled_by_req.lookup req_id = sampledTokens output req_id := by
  have hall := mapM_ok.1 h
  clear h
  generalize plan.req_ids = req_ids at hall hid
  induction hall with
  | nil => cases hid
  | @cons id item ids items hitem _ ih =>
    cases htokens : sampledTokens output id with
    | none =>
      rw [htokens] at hitem
      cases hitem
    | some tokens =>
      rw [htokens] at hitem
      cases hitem
      rw [List.lookup_cons]
      by_cases heq : req_id = id
      · subst heq
        rw [beq_self_eq_true, htokens]
      · rw [beq_false_of_ne heq]
        exact ih ((List.mem_cons.1 hid).resolve_left heq)

section Epoch

variable {t : Counted} (hi : CountInvariant t) {out : SchedulerOutput} {plan : ResidentEpochPlan}
variable {output : ModelRunnerOutput} {result : ResidentEpochResult} {s' : ResidentEpochScheduler}

include hi

/-- a request of an epoch after its accounting -/
theorem CountInvariant.accounted (hflight : t.engine.in_flight = some (out, some plan))
    (haccount : t.engine.scheduler.applyResidentEpochAccounting out output plan result = .ok s') {req_id : ReqId}
    (hid : req_id ∈ plan.req_ids) {request : Request} (h : s'.requests.find req_id = some request) :
    (request.num_computed_tokens : Int) + 1 = request.num_tokens + result.steps req_id ∧
      (appended out output req_id : Int) = result.steps req_id ∧
      request.num_output_tokens + result.steps req_id ≤ request.max_tokens := by
  obtain ⟨sampled_by_req, extras, ha⟩ := accounting_iff.1 haccount
  have hp := hi.plan out plan hflight
  have hids := (hi.engine.plan out plan hflight).ids
  rw [ha.scheduler] at h
  obtain ⟨old, hold, rfl⟩ := Option.map_eq_some_iff.1 h
  obtain ⟨planned, hplanned, rfl⟩ := List.mem_map.1 hid
  obtain ⟨-, hsteps⟩ := resultValidate_steps ha.valid
  obtain ⟨hone, hmax, htokens⟩ := hsteps planned hplanned
  rw [sampled_lookup ha.sampled hid] at htokens
  obtain ⟨extra, _, scheduled, hextra, -, hcount, heq, hpos⟩ := accounted_extra ha hid
  have hscheduled : scheduled = 1 := Option.some.inj (hcount.symm.trans (hp.flight.scheduled _ hid))
  have hcomputed := hp.flight.computed _ hid old hold
  have hbudget := hp.budget _ hid old hold
  have hlookup : extras.lookup old.request_id = some extra := by rw [t.engine.scheduler.requests.keyed hold, hextra]
  have hadvanced : (old.advanced extras).num_computed_tokens = old.num_computed_tokens + extra.toNat := by
    simp only [Request.advanced, hlookup, Option.getD_some]
  have hsame : (old.advanced extras).num_tokens = old.num_tokens ∧
      (old.advanced extras).num_output_tokens = old.num_output_tokens ∧
      (old.advanced extras).max_tokens = old.max_tokens := ⟨rfl, rfl, rfl⟩
  refine ⟨?_, ?_, ?_⟩
  · rw [hadvanced, hsame.1]
    push_cast
    omega
  · unfold appended
    rw [if_pos (hids ▸ hid)]
    exact htokens
  · rw [hsame.2.1, hsame.2.2]
    omega

theorem CountInvariant.epoch (hflight : t.engine.in_flight = some (out, some plan))
    (haccount : t.engine.scheduler.applyResidentEpochAccounting out output plan result = .ok s') {req_id : ReqId}
    {request : Request} (h : (s'.superUpdate out output).requests.find req_id = some request)
    (hout : 0 < request.num_output_tokens)
    (hpreempted : request.request_id ∉ t.preempted.filter fun req_id => appended out output req_id = 0) :
    request.num_computed_tokens + 1 = request.num_tokens := by
  obtain ⟨old, hold, hgrown⟩ := superUpdate_live h
  have hkey := (s'.superUpdate out output).requests.keyed h
  have hids := (hi.engine.plan out plan hflight).ids
  have hcomputed := hgrown.num_computed_tokens
  have htokens := hgrown.num_tokens
  have houtputs := hgrown.num_output_tokens
  by_cases hid : req_id ∈ plan.req_ids
  · obtain ⟨hcount, happended, -⟩ := hi.accounted hflight haccount hid hold
    omega
  · obtain ⟨_, _, ha⟩ := accounting_iff.1 haccount
    rw [(accounted_exactly ha).others req_id hid] at hold
    have hzero : appended out output req_id = 0 := if_neg (hids ▸ hid)
    have holdKey := t.engine.scheduler.requests.keyed hold
    have hidle : ¬t.engine.Executing req_id := by
      rintro ⟨out', plan', hsome, hmem⟩
      rw [hflight] at hsome
      cases hsome
      exact hid (hids ▸ hmem)
    have hbefore := hi.idle req_id old hold hidle ⟨by omega, fun hmem =>
      hpreempted (Finset.mem_filter.2 ⟨by rw [hkey, ← holdKey]; exact hmem, hkey.symm ▸ hzero⟩)⟩
    omega

end Epoch

theorem counted_step {t t' : Counted} {event : Event} (hi : CountInvariant t) (hevent : CountedEvent t event)
    (h : CountedStep t event t') : CountInvariant t' := by
  obtain ⟨engine', preempted'⟩ := t'
  obtain ⟨hnext, hpreempted⟩ := countedStep_iff.1 h
  dsimp only at hnext hpreempted
  subst hpreempted
  cases event with
  | arrive request =>
    obtain ⟨harriving, hnew, rfl⟩ := next_arrive hnext
    exact hi.arrive hnew harriving hevent
  | finish req_id =>
    cases hnext
    exact hi.finish [req_id]
  | schedule stock =>
    obtain ⟨hflight, hlegit, r, hschedule, rfl⟩ := next_schedule hnext
    exact hi.schedule hflight hlegit hschedule
  | update output =>
    have hinvariant := next_invariant hi.engine hnext
    obtain ⟨out, plan, s, hflight, hupdate, rfl⟩ := next_update hnext
    have hset : t.nextPreempted (.update output) = t.preempted.filter fun req_id => appended out output req_id = 0 := by
      unfold Counted.nextPreempted
      rw [hflight]
    refine ⟨hinvariant, fun req_id request hfind _ hdecoding => ?_, fun _ _ _ hexec => ?_, fun _ _ h => by cases h⟩
    · obtain ⟨hout, hpreempted⟩ := hdecoding
      dsimp only at hpreempted
      rw [hset] at hpreempted
      cases update_cases hupdate with
      | host _ => exact hi.host hflight (hevent (out, none) hflight rfl) hfind hout hpreempted
      | epoch _ haccount => exact hi.epoch hflight haccount hfind hout hpreempted
    · obtain ⟨_, _, hsome, -⟩ := hexec
      cases hsome

/-- an update writes what was executed -/
theorem updated_others {s s' : ResidentEpochScheduler} {out : SchedulerOutput} {output : ModelRunnerOutput}
    {plan : Option ResidentEpochPlan} (hu : Updated s out output plan s')
    (hids : ∀ p, plan = some p → p.req_ids = out.req_ids) {req_id : ReqId} (hid : req_id ∉ out.req_ids) {request : Request}
    (h : s'.requests.find req_id = some request) : s.requests.find req_id = some request := by
  have hsuper {before : ResidentEpochScheduler} (h : (before.superUpdate out output).requests.find req_id = some request) :
      before.requests.find req_id = some request := by
    obtain ⟨old, hold, rfl⟩ := superUpdate_find h
    have hkey := before.requests.keyed hold
    have hsame : old.updated before.check_stop out output = (old, false) := if_neg (hkey.symm ▸ hid)
    rw [hsame]
    exact hold
  cases hu with
  | host _ => exact hsuper h
  | epoch _ haccount =>
    obtain ⟨_, _, ha⟩ := accounting_iff.1 haccount
    have hold := hsuper h
    rwa [(accounted_exactly ha).others req_id (hids _ rfl ▸ hid)] at hold

/-! ## Prefills -/

/-- a request without outputs has prompt tokens left to compute, unless it is being executed -/
structure PrefillInvariant (engine : Engine) : Prop where
  prompt : ∀ req_id request, engine.scheduler.requests.find req_id = some request → request.prompt_token_ids ≠ []
  bounded : ∀ req_id request, engine.scheduler.requests.find req_id = some request → request.num_output_tokens = 0 →
    request.num_computed_tokens ≤ request.num_prompt_tokens
  idle : ∀ req_id request, engine.scheduler.requests.find req_id = some request → ¬engine.Executing req_id →
    request.num_output_tokens = 0 → request.num_computed_tokens < request.num_prompt_tokens

theorem fresh_prefill (config : ResidentEpochConfig) (stock : StockConfig) : PrefillInvariant (.fresh config stock) where
  prompt := fun _ _ h => (by cases h)
  bounded := fun _ _ h => (by cases h)
  idle := fun _ _ h => (by cases h)

section Prefill

variable {t : Counted} (hp : PrefillInvariant t.engine)

include hp

theorem PrefillInvariant.arrive {request : Request} (harriving : request.Arriving) :
    PrefillInvariant { t.engine with scheduler := t.engine.scheduler.addRequest request } := by
  have hprompt : 0 < request.num_prompt_tokens := List.length_pos_iff.2 harriving.prompt
  refine ⟨fun req_id known h => ?_, fun req_id known h hzero => ?_, fun req_id known h hidle hzero => ?_⟩
  · rcases addRequest_find h with ⟨-, rfl⟩ | ⟨-, h⟩
    · exact harriving.prompt
    · exact hp.prompt req_id known h
  · rcases addRequest_find h with ⟨-, rfl⟩ | ⟨-, h⟩
    · rw [harriving.computed]
      exact hprompt.le
    · exact hp.bounded req_id known h hzero
  · rcases addRequest_find h with ⟨-, rfl⟩ | ⟨-, h⟩
    · rw [harriving.computed]
      exact hprompt
    · exact hp.idle req_id known h hidle hzero

theorem PrefillInvariant.finish (req_ids : List ReqId) :
    PrefillInvariant { t.engine with scheduler := t.engine.scheduler.finishRequests req_ids } := by
  have hfind {req_id : ReqId} {known : Request}
      (h : (t.engine.scheduler.finishRequests req_ids).requests.find req_id = some known) :
      t.engine.scheduler.requests.find req_id = some known := ((remove_find _ _ _ _).1 h).2
  exact ⟨fun req_id known h => hp.prompt req_id known (hfind h), fun req_id known h => hp.bounded req_id known (hfind h),
    fun req_id known h => hp.idle req_id known (hfind h)⟩

theorem PrefillInvariant.schedule (hi : CountInvariant t) (hflight : t.engine.in_flight = none) {stock : StockSchedule}
    (hl : Legit t.engine.scheduler.lane stock) {r : Scheduled} (hschedule : t.engine.scheduler.schedule stock = .ok r) :
    PrefillInvariant ⟨r.scheduler, some (r.output, r.plan)⟩ := by
  have hs := schedule_spec hi.engine.scheduler hl hschedule
  have hcounts {req_id : ReqId} {request : Request} (h : r.scheduler.requests.find req_id = some request) :
      request.prompt_token_ids ≠ [] ∧ (request.num_output_tokens = 0 →
        request.num_computed_tokens < request.num_prompt_tokens ∨
          request.num_computed_tokens ≤ request.num_prompt_tokens ∧ req_id ∈ stock.output.req_ids) := by
    obtain ⟨old, hold, rfl⟩ := scheduled_find hs h
    obtain rfl := t.engine.scheduler.requests.keyed hold
    refine ⟨hp.prompt _ old hold, fun hzero => ?_⟩
    have hbefore := hp.idle _ old hold (Engine.unexecuted hflight _) hzero
    have hprompt : (old.scheduled stock.output).num_prompt_tokens = old.num_prompt_tokens := rfl
    have hsum := old.num_tokens_eq
    have hzero : old.num_output_tokens = 0 := hzero
    by_cases hpreempted : old.request_id ∈ stock.output.preempted_req_ids
    · have hcomputed : (old.scheduled stock.output).num_computed_tokens = 0 := if_pos hpreempted
      exact Or.inl (by omega)
    · rcases scheduled_counts hl hold hpreempted with ⟨-, hsame⟩ | ⟨count, hcount, -, hadded, hbound⟩
      · exact Or.inl (by omega)
      · exact Or.inr ⟨by omega, key_of_lookup hcount⟩
  refine ⟨fun req_id request h => (hcounts h).1, fun req_id request h hzero => ?_, fun req_id request h hidle hzero => ?_⟩
  · rcases (hcounts h).2 hzero with hlt | ⟨hle, -⟩
    · exact hlt.le
    · exact hle
  · refine ((hcounts h).2 hzero).resolve_right fun hscheduled => hidle ?_
    exact ⟨r.output, r.plan, rfl, hs.output ▸ hscheduled.2⟩

/-- the step of a request without outputs was not its last prefill -/
theorem PrefillInvariant.update (hi : CountInvariant t) {out : SchedulerOutput} {plan : Option ResidentEpochPlan}
    (hflight : t.engine.in_flight = some (out, plan)) {output : ModelRunnerOutput} {s : ResidentEpochScheduler}
    (hu : Updated t.engine.scheduler out output plan s) (hevent : CountedEvent t (.update output)) :
    PrefillInvariant ⟨s, none⟩ := by
  have hids (p : ResidentEpochPlan) (hplan : plan = some p) : p.req_ids = out.req_ids :=
    (hi.engine.plan out p (hplan ▸ hflight)).ids
  have hcounts {req_id : ReqId} {request : Request} (h : s.requests.find req_id = some request)
      (hzero : request.num_output_tokens = 0) : request.num_computed_tokens < request.num_prompt_tokens := by
    by_cases hid : req_id ∈ out.req_ids
    · cases hu with
      | host _ =>
        obtain ⟨old, hold, hgrown⟩ := superUpdate_live h
        obtain ⟨_, hold', rfl⟩ := superUpdate_appended h
        obtain rfl := Option.some.inj (hold.symm.trans hold')
        have houtputs := hgrown.num_output_tokens
        have hbound := hp.bounded req_id old hold (by omega)
        have hsamples : appended out output req_id = if old.num_computed_tokens = old.num_tokens then 1 else 0 :=
          hevent (out, none) hflight rfl req_id hid old hold
        have hsum := old.num_tokens_eq
        show old.num_computed_tokens < old.num_prompt_tokens
        split_ifs at hsamples with hall
        · omega
        · omega
      | epoch _ haccount =>
        obtain ⟨old, hold, hgrown⟩ := superUpdate_live h
        obtain ⟨planned, hplanned, rfl⟩ := List.mem_map.1 (hids _ rfl ▸ hid)
        obtain ⟨-, happended, -⟩ := hi.accounted hflight haccount (List.mem_map_of_mem hplanned) hold
        obtain ⟨_, _, ha⟩ := accounting_iff.1 haccount
        obtain ⟨hone, -, -⟩ := (resultValidate_steps ha.valid).2 planned hplanned
        have houtputs := hgrown.num_output_tokens
        omega
    · have hidle : ¬t.engine.Executing req_id := by
        rintro ⟨_, _, hsome, hmem⟩
        rw [hflight] at hsome
        cases hsome
        exact hid hmem
      exact hp.idle req_id request (updated_others hu hids hid h) hidle hzero
  refine ⟨fun req_id request h => ?_, fun req_id request h hzero => (hcounts h hzero).le,
    fun req_id request h _ hzero => hcounts h hzero⟩
  obtain ⟨old, extras, hold, rfl⟩ := updated_appended hu h
  exact hp.prompt req_id old hold

end Prefill

theorem prefill_step {t t' : Counted} {event : Event} (hi : CountInvariant t) (hp : PrefillInvariant t.engine)
    (hevent : CountedEvent t event) (h : CountedStep t event t') : PrefillInvariant t'.engine := by
  obtain ⟨hnext, -⟩ := countedStep_iff.1 h
  obtain ⟨engine', preempted'⟩ := t'
  dsimp only at hnext ⊢
  cases event with
  | arrive request =>
    obtain ⟨harriving, -, rfl⟩ := next_arrive hnext
    exact hp.arrive harriving
  | finish req_id =>
    cases hnext
    exact hp.finish [req_id]
  | schedule stock =>
    obtain ⟨hflight, hlegit, r, hschedule, rfl⟩ := next_schedule hnext
    exact hp.schedule hi hflight hlegit hschedule
  | update output =>
    obtain ⟨out, plan, s, hflight, hupdate, rfl⟩ := next_update hnext
    exact hp.update hi hflight (update_cases hupdate) hevent

/-! ## What plan making refuses -/

/-- a request is never refused for its counts by what is checked of it alone -/
theorem requestRejection_computed (request : Request) :
    requestRejection request ≠ .error .computedTokenAccounting := by
  have hsampling (params : SamplingParams) : samplingRejection params ≠ .error .computedTokenAccounting := by
    unfold samplingRejection
    simp [except_bind_error, refuse_error]
  unfold requestRejection
  simp only [ne_eq, except_bind_error, refuse_error, reduceCtorEq, and_false, false_or, not_exists, not_and]
  intros
  split
  · exact fun h => by cases h
  · exact hsampling _

theorem remainingSteps_computed {s : ResidentEpochScheduler} {device_owned : Finset ReqId} {request : Request}
    (h : remainingSteps s device_owned request = .error .computedTokenAccounting) :
    request.num_computed_tokens ≠ request.num_tokens ∧ (1 < request.num_prompt_tokens → 0 < request.num_output_tokens) := by
  unfold remainingSteps at h
  simp only [except_bind_error, refuse_error, refuse_ok, reduceCtorEq, and_false, false_or, exists_const,
    requestRejection_computed, and_true, or_false] at h
  obtain ⟨-, -, -, hprefill, -, -, hcomputed⟩ := h
  exact ⟨hcomputed, fun hprompt => Nat.pos_of_ne_zero fun hout => hprefill ⟨hprompt, hout⟩⟩

theorem planRequests_computed {s : ResidentEpochScheduler} {leases : Leases} {req_ids : List ReqId}
    (h : planRequests s leases req_ids = .error (.rejected .computedTokenAccounting)) :
    ∃ req_id ∈ req_ids, ∃ request, s.requests.find req_id = some request ∧
      request.num_computed_tokens ≠ request.num_tokens ∧ (1 < request.num_prompt_tokens → 0 < request.num_output_tokens) := by
  unfold planRequests at h
  rcases except_bind_error.1 h with h | ⟨requests, hrequests, h⟩
  · obtain ⟨req_id, -, h⟩ := mapM_error h
    unfold ResidentEpochScheduler.request at h
    split at h
    · cases h
    · cases h
  rcases except_bind_error.1 h with h | ⟨remaining_steps, -, h⟩
  · obtain ⟨request, hr, h⟩ := mapM_error h
    obtain ⟨req_id, hid, hfind⟩ := forall₂_mem (mapM_ok.1 hrequests) hr
    refine ⟨req_id, hid, request, request_ok.1 hfind, ?_⟩
    cases hremaining : remainingSteps s leases.device_owned request with
    | ok remaining =>
      rw [hremaining] at h
      cases h
    | error reason =>
      rw [hremaining] at h
      cases h
      exact remainingSteps_computed hremaining
  exfalso
  cases hsteps : epochSteps s.config.max_steps remaining_steps with
  | none =>
    rw [hsteps] at h
    cases h
  | some epoch_steps =>
    rw [hsteps] at h
    rcases except_bind_error.1 h with h | ⟨request_plans, -, h⟩
    · obtain ⟨request, -, h⟩ := mapM_error h
      unfold requestPlan at h
      dsimp only at h
      repeat' split at h
      all_goals cases h
    · rcases except_bind_error.1 h with h | ⟨_, -, h⟩
      · cases hvalid : (assemblePlan s epoch_steps request_plans).validate with
        | ok u =>
          rw [hvalid] at h
          cases h
        | error e =>
          rw [hvalid] at h
          cases h
      · cases h

/-! ## The counts of a run -/

/-- what is wanted of every state reached -/
structure CountsKept (t : Counted) : Prop where
  /-- before every schedule -/
  decoding : t.engine.in_flight = none → ∀ req_id request, t.engine.scheduler.requests.find req_id = some request →
    t.Decoding request → request.num_computed_tokens + 1 = request.num_tokens
  /-- after every accounting -/
  epoch : ∀ out plan output result accounted, t.engine.in_flight = some (out, some plan) →
    t.engine.scheduler.applyResidentEpochAccounting out output plan result = .ok accounted →
    ∀ req_id ∈ plan.req_ids, ∀ request, accounted.requests.find req_id = some request →
      request.num_output_tokens + result.steps req_id ≤ request.max_tokens ∧
        request.num_computed_tokens < request.num_prompt_tokens + request.max_tokens
  rejection : ∀ stock leases, t.engine.in_flight = none → Legit t.engine.scheduler.lane stock →
    makeResidentEpochPlan (t.engine.scheduler.afterStock stock) stock.output =
        (leases, .error (.rejected .computedTokenAccounting)) →
      ∃ req_id ∈ stock.output.req_ids, req_id ∈ t.preempted

theorem CountInvariant.kept {t : Counted} (hi : CountInvariant t) : CountsKept t := by
  refine ⟨fun hflight req_id request hfind hdecoding => hi.idle req_id request hfind (Engine.unexecuted hflight _) hdecoding,
    fun out plan output result accounted hflight haccount req_id hid request hfind => ?_,
    fun stock leases hflight hl hmade => ?_⟩
  · obtain ⟨hcount, -, hbudget⟩ := hi.accounted hflight haccount hid hfind
    have htokens := request.num_tokens_eq
    exact ⟨hbudget, by omega⟩
  · unfold makeResidentEpochPlan at hmade
    cases hrejection : scheduleRejection (t.engine.scheduler.afterStock stock) stock.output with
    | error reason =>
      rw [hrejection] at hmade
      have hreason : reason = .computedTokenAccounting := by
        cases hmade
        rfl
      subst hreason
      unfold scheduleRejection at hrejection
      simp [except_bind_error, refuse_error] at hrejection
    | ok u =>
      have hs := (scheduleRejection_ok _ _ u).1 hrejection
      rw [hrejection] at hmade
      dsimp only at hmade
      cases hassigned : assignResidentRows (t.engine.scheduler.afterStock stock).config
          (t.engine.scheduler.afterStock stock).leases stock.output.req_ids with
      | error e =>
        rw [hassigned] at hmade
        cases hmade
      | ok leases' =>
        rw [hassigned] at hmade
        obtain ⟨req_id, hid, request, hfind, hcomputed, hprefilled⟩ := planRequests_computed (Prod.mk.inj hmade).2
        refine ⟨req_id, hid, ?_⟩
        by_contra hpreempted
        rw [afterStock_requests] at hfind
        obtain ⟨old, hold, rfl⟩ := modify_find.1 hfind
        obtain rfl := t.engine.scheduler.requests.keyed hold
        have hnone : old.request_id ∉ stock.output.preempted_req_ids := by
          rw [hs.preempted]
          exact List.not_mem_nil
        have htokens : (old.scheduled stock.output).num_tokens = old.num_tokens := rfl
        have hprompt : (old.scheduled stock.output).num_prompt_tokens = old.num_prompt_tokens ∧
            (old.scheduled stock.output).num_output_tokens = old.num_output_tokens := ⟨rfl, rfl⟩
        rw [htokens] at hcomputed
        rw [hprompt.1, hprompt.2] at hprefilled
        have hsum := old.num_tokens_eq
        rcases scheduled_counts hl hold hnone with ⟨hnot, -⟩ | ⟨count, -, hpos, hadded, hbound⟩
        · exact hnot hid
        · rw [hadded] at hcomputed
          by_cases hout : 0 < old.num_output_tokens
          · have hbefore := hi.idle _ old hold (Engine.unexecuted hflight _) ⟨hout, hpreempted⟩
            omega
          · -- its prompt has one token, and that has just been computed
            omega

/-- **The counts of every run**, preempted requests aside. -/
theorem counts_kept {config : ResidentEpochConfig} (hconfig : config.Valid) {start : StockConfig} {t : Counted}
    (h : Run CountedStep CountedEvent (.fresh config start) t) : CountsKept t :=
  (h.invariant (fresh_counted hconfig start) fun _ _ _ hi hs hevent => counted_step hi hevent hs).kept

/-! ## Runs without preemption -/

/-- the stock schedule preempts nothing -/
def UnpreemptedEvent (t : Counted) (event : Event) : Prop :=
  CountedEvent t event ∧
    match event with
    | .schedule stock => stock.output.preempted_req_ids = []
    | _ => True

instance (t : Counted) : (event : Event) → Decidable (UnpreemptedEvent t event)
  | .schedule stock => inferInstanceAs (Decidable (CountedEvent t (.schedule stock) ∧ stock.output.preempted_req_ids = []))
  | .arrive request => inferInstanceAs (Decidable (CountedEvent t (.arrive request) ∧ True))
  | .finish req_id => inferInstanceAs (Decidable (CountedEvent t (.finish req_id) ∧ True))
  | .update output => inferInstanceAs (Decidable (CountedEvent t (.update output) ∧ True))

theorem unpreempted_step {t t' : Counted} {event : Event} (hnone : t.preempted = ∅) (hevent : UnpreemptedEvent t event)
    (h : CountedStep t event t') : t'.preempted = ∅ := by
  rw [(countedStep_iff.1 h).2]
  unfold Counted.nextPreempted
  rw [hnone]
  cases event with
  | arrive request => rfl
  | finish req_id => rfl
  | schedule stock =>
    have hpreempted : stock.output.preempted_req_ids = [] := hevent.2
    dsimp only
    rw [hpreempted]
    rfl
  | update output =>
    dsimp only
    cases t.engine.in_flight with
    | none => rfl
    | some flight => rfl

/-- the counts of a run without preemption -/
structure ExactInvariant (t : Counted) : Prop where
  counts : CountInvariant t
  prefill : PrefillInvariant t.engine
  preempted : t.preempted = ∅

theorem fresh_exact {config : ResidentEpochConfig} (hconfig : config.Valid) (stock : StockConfig) :
    ExactInvariant (.fresh config stock) := ⟨fresh_counted hconfig stock, fresh_prefill config stock, rfl⟩

theorem exact_step {t t' : Counted} {event : Event} (hi : ExactInvariant t) (hevent : UnpreemptedEvent t event)
    (h : CountedStep t event t') : ExactInvariant t' where
  counts := counted_step hi.counts hevent.1 h
  prefill := prefill_step hi.counts hi.prefill hevent.1 h
  preempted := unpreempted_step hi.preempted hevent h

section Exact

variable {t : Counted} (hi : ExactInvariant t) {req_id : ReqId} {request : Request}
variable (hfind : t.engine.scheduler.requests.find req_id = some request)

include hi hfind

/-- after its first token a request is computed up to the last one -/
theorem ExactInvariant.decoding (hidle : ¬t.engine.Executing req_id) (hpos : 0 < request.num_output_tokens) :
    request.num_computed_tokens + 1 = request.num_tokens := by
  refine hi.counts.idle req_id request hfind hidle ⟨hpos, ?_⟩
  rw [hi.preempted]
  exact Finset.notMem_empty _

theorem ExactInvariant.bounded : request.num_computed_tokens ≤ request.num_tokens := by
  have hsum := request.num_tokens_eq
  by_cases hzero : request.num_output_tokens = 0
  · have hbound := hi.prefill.bounded req_id request hfind hzero
    omega
  · have hpos : 0 < request.num_output_tokens := Nat.pos_of_ne_zero hzero
    by_cases hexec : t.engine.Executing req_id
    · have hkept : request.request_id ∉ t.preempted := by
        rw [hi.preempted]
        exact Finset.notMem_empty _
      exact (hi.counts.executing req_id request hfind hexec ⟨hpos, hkept⟩).le
    · have hcount := hi.decoding hfind hexec hpos
      omega

end Exact

/-- all prompt tokens are computed, or a token has been sampled -/
def Request.Prefilled (request : Request) : Prop :=
  request.num_prompt_tokens ≤ request.num_computed_tokens ∨ 0 < request.num_output_tokens

/-- what is wanted of every state reached -/
structure CountsExact (t : Counted) : Prop where
  /-- before every schedule -/
  prefilled : t.engine.in_flight = none → ∀ req_id request, t.engine.scheduler.requests.find req_id = some request →
    request.Prefilled → request.num_computed_tokens + 1 = request.num_tokens
  /-- after every accounting -/
  epoch : ∀ out plan output result accounted, t.engine.in_flight = some (out, some plan) →
    t.engine.scheduler.applyResidentEpochAccounting out output plan result = .ok accounted →
    ∀ req_id ∈ plan.req_ids, ∀ request, accounted.requests.find req_id = some request →
      request.num_output_tokens + result.steps req_id ≤ request.max_tokens ∧
        request.num_computed_tokens < request.num_prompt_tokens + request.max_tokens
  accepted : ∀ stock leases, t.engine.in_flight = none → Legit t.engine.scheduler.lane stock →
    makeResidentEpochPlan (t.engine.scheduler.afterStock stock) stock.output ≠
      (leases, .error (.rejected .computedTokenAccounting))

/-- **Epoch accounting.** -/
theorem accounting_exact {config : ResidentEpochConfig} (hconfig : config.Valid) {start : StockConfig} {t : Counted}
    (h : Run CountedStep UnpreemptedEvent (.fresh config start) t) : AtomicAccounting ∧ CountsExact t := by
  have hkept : CountsKept t := counts_kept hconfig (h.mono fun _ _ hevent => hevent.1)
  have hi : ExactInvariant t :=
    h.invariant (fresh_exact hconfig start) fun _ _ _ hi hs hevent => exact_step hi hevent hs
  refine ⟨accounting_atomic, fun hidle req_id request hfind hprefilled => ?_, hkept.epoch, fun stock leases hidle hl hmade => ?_⟩
  · have hpos : 0 < request.num_output_tokens := by
      rcases hprefilled with hcomputed | hpos
      · refine Nat.pos_of_ne_zero fun hzero => absurd ?_ (not_lt.2 hcomputed)
        exact hi.prefill.idle req_id request hfind (Engine.unexecuted hidle req_id) hzero
      · exact hpos
    exact hi.decoding hfind (Engine.unexecuted hidle req_id) hpos
  · obtain ⟨req_id, -, hpreempted⟩ := hkept.rejection stock leases hidle hl hmade
    rw [hi.preempted] at hpreempted
    cases hpreempted

/-- a prefill of two tokens, and an epoch of two -/
def countedEvents : List Event := [
  .arrive (greedyRequest 1 [7, 7] 5 9),
  .schedule (plainStock [(1, 2)] (by decide) [] [1] []),
  .update (hostOutput [(1, [5])]),
  .schedule (plainStock [(1, 1)] (by decide) [] [1] []),
  .update (deviceOutput [(1, [5, 6])] [1, 0, 0, 0] true)]

theorem accounting_exact_imported : ∃ t : Counted, (AtomicAccounting ∧ CountsExact t) ∧ t.engine.in_flight = none ∧
    ∃ request, t.engine.scheduler.requests.find 1 = some request ∧ request.num_output_tokens = 3 ∧
      request.num_computed_tokens = 4 := by
  have h : ((Run.after Counted.next UnpreemptedEvent (.fresh (.make 2 8) (.plain 8)) countedEvents).any fun t =>
      (t.engine.scheduler.requests.find 1).any fun request =>
        decide (t.engine.in_flight.isNone = true ∧ request.num_output_tokens = 3 ∧ request.num_computed_tokens = 4)) = true := by
    decide +kernel
  obtain ⟨t, ht, h⟩ := (Option.any_eq_true _ _).1 h
  obtain ⟨request, hfind, h⟩ := (Option.any_eq_true _ _).1 h
  obtain ⟨hidle, houtputs, hcomputed⟩ := of_decide_eq_true h
  exact ⟨t, accounting_exact ((ResidentEpochConfig.validate_ok_iff _).1 (by decide)) (Run.of_after ht),
    Option.isNone_iff_eq_none.1 hidle, request, hfind, houtputs, hcomputed⟩

end Cruise.Scheduler
