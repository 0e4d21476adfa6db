/-
The way back: `update_from_output` and `_apply_resident_epoch_accounting`.

MODEL. The stock `update_from_output` appends the sampled tokens of each scheduled request until `check_stop` stops it,
skips ids it no longer knows, and forgets the requests that are finished. `req_id_to_index` numbers the ids of the output
in order.
- `accounting_iff`: when an accounting returns, and what it leaves.
- `update_cases`: the ways an update can return.
-/
import Cruise.Scheduler.Schedule
import Cruise.Worker.Backend

namespace Cruise.Scheduler

open Cruise.Lib Cruise.Worker

/-! ## The stock update -/

namespace Request

/-- the token is an EOS of the request -/
def isEos (request : Request) (token : Int) : Bool :=
  request.sampling_params.any fun params => params.eos_token_id = some token ∧ params.ignore_eos = false

def append (request : Request) (token : Int) : Request :=
  { request with output_token_ids := request.output_token_ids ++ [token] }

/-- the tokens are appended until one stops the request; the flag says that one did -/
def appendTokens (check_stop : StopRule) (request : Request) : List Int → Request × Bool
  | [] => (request, false)
  | token :: tokens =>
    let request := request.append token
    if check_stop.stops request then (request, true) else request.appendTokens check_stop tokens

end Request

/-- an EOS, or the token limit -/
def StopRule.eosOrLimit : StopRule where
  stops := fun request =>
    request.output_token_ids.getLast?.any request.isEos || decide (request.max_tokens ≤ request.num_output_tokens)
  limit := fun _ _ h => by rw [decide_eq_true h, Bool.or_true]

/-- of an eligible request nothing else is asked -/
def StopRule.Greedy (check_stop : StopRule) : Prop :=
  ∀ request, request.eligible = true → check_stop.stops request = StopRule.eosOrLimit.stops request

/-- `sampled_token_ids[req_id_to_index[req_id]]` -/
def sampledTokens (output : ModelRunnerOutput) (req_id : ReqId) : Option (List Int) :=
  (output.req_ids.zip output.sampled_token_ids).lookup req_id

namespace Request

/-- the update of one request -/
def updated (check_stop : StopRule) (out : SchedulerOutput) (output : ModelRunnerOutput) (request : Request) : Request × Bool :=
  if request.request_id ∈ out.req_ids then
    request.appendTokens check_stop ((sampledTokens output request.request_id).getD [])
  else (request, false)

theorem append_id (check_stop : StopRule) (request : Request) (tokens : List Int) :
    (request.appendTokens check_stop tokens).1.request_id = request.request_id := by
  induction tokens generalizing request with
  | nil => rfl
  | cons token tokens ih =>
    unfold appendTokens
    dsimp only
    split
    · rfl
    · exact ih _

theorem updated_id (check_stop : StopRule) (out : SchedulerOutput) (output : ModelRunnerOutput) (request : Request) :
    (request.updated check_stop out output).1.request_id = request.request_id := by
  unfold updated
  split
  · exact append_id _ _ _
  · rfl

end Request

namespace ResidentEpochScheduler

/-- the ids a stock update finishes -/
def finishedIds (s : ResidentEpochScheduler) (out : SchedulerOutput) (output : ModelRunnerOutput) : List ReqId :=
  out.req_ids.filter fun req_id => (s.requests.find req_id).any fun request => (request.updated s.check_stop out output).2

/-- `finish_requests`: the ids leave the table and the queues -/
def finishRequests (s : ResidentEpochScheduler) (req_ids : List ReqId) : ResidentEpochScheduler :=
  { s with
    requests := s.requests.remove req_ids
    running := s.running.filter fun req_id => req_id ∉ req_ids
    waiting := s.waiting.filter fun req_id => req_id ∉ req_ids
    skipped_waiting := s.skipped_waiting.filter fun req_id => req_id ∉ req_ids }

/-- `super().update_from_output` -/
def superUpdate (s : ResidentEpochScheduler) (out : SchedulerOutput) (output : ModelRunnerOutput) :
    ResidentEpochScheduler :=
  { s with
    requests := s.requests.modify (fun request => (request.updated s.check_stop out output).1)
      (Request.updated_id s.check_stop out output) }
    |>.finishRequests (s.finishedIds out output)

end ResidentEpochScheduler

/-! ## Accounting -/

/-- `sampled_by_req` -/
def sampledByReq (plan : ResidentEpochPlan) (output : ModelRunnerOutput) :
    Except SchedulerError (List (ReqId × List Int)) :=
  plan.req_ids.mapM fun req_id =>
    match sampledTokens output req_id with
    | none => .error (.missing req_id)
    | some tokens => .ok (req_id, tokens)

/-- one pass of the first loop of the accounting -/
def extraSteps (s : ResidentEpochScheduler) (out : SchedulerOutput) (sampled_by_req : List (ReqId × List Int))
    (item : ReqId × Int) : Except SchedulerError (ReqId × Int) :=
  match s.requests.find item.1, out.num_scheduled_tokens.lookup item.1 with
  | none, _ => .error (.missing item.1)
  | some _, none => .error (.missing item.1)
  | some request, some scheduled =>
    let extra := item.2 - scheduled
    if extra < 0 then .error .fewerThanScheduled
    else if request.num_computed_tokens + extra >
        request.num_tokens + ((sampled_by_req.lookup item.1).getD []).length then .error .overAdvance
    else .ok (item.1, extra)

/-- the second loop, for one request -/
def Request.advanced (extras : List (ReqId × Int)) (request : Request) : Request :=
  { request with num_computed_tokens := request.num_computed_tokens + ((extras.lookup request.request_id).getD 0).toNat }

theorem Request.advanced_id (extras : List (ReqId × Int)) (request : Request) :
    (request.advanced extras).request_id = request.request_id := rfl

/-- the ids a device epoch adds to `_resident_epoch_device_owned` -/
def ownedBy (plan : ResidentEpochPlan) : Finset ReqId :=
  ((plan.requests.filter fun request => request.state_owner = .host).map fun request => request.req_id).toFinset

namespace ResidentEpochScheduler

/-- `_apply_resident_epoch_accounting` -/
def applyResidentEpochAccounting (s : ResidentEpochScheduler) (out : SchedulerOutput) (output : ModelRunnerOutput)
    (plan : ResidentEpochPlan) (result : ResidentEpochResult) : Except SchedulerError ResidentEpochScheduler := do
  let sampled_by_req ← sampledByReq plan output
  (result.validateAgainst plan sampled_by_req).mapError .result
  let extras ← result.computed_steps.mapM (extraSteps s out sampled_by_req)
  .ok { s with
    requests := s.requests.modify (Request.advanced extras) (Request.advanced_id extras)
    leases := { s.leases with
      device_owned := if result.route = .device then s.leases.device_owned ∪ ownedBy plan else s.leases.device_owned } }

/-- `update_from_output` -/
def updateFromOutput (s : ResidentEpochScheduler) (out : SchedulerOutput) (plan : Option ResidentEpochPlan)
    (output : ModelRunnerOutput) : Except SchedulerError ResidentEpochScheduler :=
  match plan, output.result with
  | none, some _ => .error .noPlan
  | none, none => .ok (s.superUpdate out output)
  | some _, none => .error .noMetadata
  | some plan, some result => do
    let s' ← s.applyResidentEpochAccounting out output plan result
    .ok (s'.superUpdate out output)

end ResidentEpochScheduler

/-! ## What an accounting does -/

/-- what an accounting that returns has checked, and what it leaves -/
structure Accounted (s : ResidentEpochScheduler) (out : SchedulerOutput) (output : ModelRunnerOutput)
    (plan : ResidentEpochPlan) (result : ResidentEpochResult) (sampled_by_req : List (ReqId × List Int))
    (extras : List (ReqId × Int)) (s' : ResidentEpochScheduler) : Prop where
  sampled : sampledByReq plan output = .ok sampled_by_req
  valid : result.validateAgainst plan sampled_by_req = .ok ()
  steps : result.computed_steps.mapM (extraSteps s out sampled_by_req) = .ok extras
  scheduler : s' = { s with
    requests := s.requests.modify (Request.advanced extras) (Request.advanced_id extras)
    leases := { s.leases with
      device_owned := if result.route = .device then s.leases.device_owned ∪ ownedBy plan else s.leases.device_owned } }

theorem accounting_iff {s s' : ResidentEpochScheduler} {out : SchedulerOutput} {output : ModelRunnerOutput}
    {plan : ResidentEpochPlan} {result : ResidentEpochResult} :
    s.applyResidentEpochAccounting out output plan result = .ok s' ↔
      ∃ sampled_by_req extras, Accounted s out output plan result sampled_by_req extras s' := by
  unfold ResidentEpochScheduler.applyResidentEpochAccounting
  constructor
  · intro h
    obtain ⟨sampled_by_req, hsampled, h⟩ := except_bind_ok.1 h
    obtain ⟨_, hvalid, h⟩ := except_bind_ok.1 h
    obtain ⟨extras, hextras, h⟩ := except_bind_ok.1 h
    cases h
    exact ⟨sampled_by_req, extras, hsampled, mapError_ok.1 hvalid, hextras, rfl⟩
  · rintro ⟨sampled_by_req, extras, hsampled, hvalid, hextras, rfl⟩
    exact except_bind_ok.2 ⟨_, hsampled, except_bind_ok.2 ⟨(), mapError_ok.2 hvalid, except_bind_ok.2 ⟨_, hextras, rfl⟩⟩⟩

/-- the ways an update can return -/
inductive Updated (s : ResidentEpochScheduler) (out : SchedulerOutput) (output : ModelRunnerOutput) :
    Option ResidentEpochPlan → ResidentEpochScheduler → Prop where
  | host : output.result = none → Updated s out output none (s.superUpdate out output)
  | epoch {plan result accounted} : output.result = some result →
      s.applyResidentEpochAccounting out output plan result = .ok accounted →
      Updated s out output (some plan) (accounted.superUpdate out output)

theorem update_cases {s s' : ResidentEpochScheduler} {out : SchedulerOutput} {plan : Option ResidentEpochPlan}
    {output : ModelRunnerOutput} (h : s.updateFromOutput out plan output = .ok s') : Updated s out output plan s' := by
  unfold ResidentEpochScheduler.updateFromOutput at h
  cases plan with
  | none =>
    cases hresult : output.result with
    | none =>
      rw [hresult] at h
      cases h
      exact .host hresult
    | some result =>
      rw [hresult] at h
      cases h
  | some plan =>
    cases hresult : output.result with
    | none =>
      rw [hresult] at h
      cases h
    | some result =>
      rw [hresult] at h
      obtain ⟨accounted, haccount, h⟩ := except_bind_ok.1 h
      cases h
      exact .epoch hresult haccount

end Cruise.Scheduler
