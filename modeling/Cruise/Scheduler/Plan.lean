/-
Plan making (`ResidentEpochScheduler._make_resident_epoch_plan`).

MODEL. The running and waiting queues hold ids, and the requests they name are those of the request table. The state is
what this function and its callers read; `block_ids` is what the KV cache manager answers for a request, and `check_stop`
what the stock scheduler stops a request by. A plan is
refused with a reason, or an exception leaves the function; the leases it has assigned stay either way. After an
exception the engine is gone, and the state is not modelled.
- `makePlan_spec`: what a returned plan is, of which requests.
- `makePlan_raises`: with valid leases, only generations and requests can be missing.
-/
import Cruise.Scheduler.Leases

namespace Cruise.Scheduler

open Cruise.Lib Cruise.Worker

/-! ## The scheduler -/

/-- `self.requests`, whose keys are the ids of its requests -/
structure RequestTable where
  find : ReqId → Option Request
  keyed : ∀ {req_id request}, find req_id = some request → request.request_id = req_id

namespace RequestTable

def empty : RequestTable := ⟨fun _ => none, fun h => by cases h⟩

def insert (table : RequestTable) (request : Request) : RequestTable where
  find := fun req_id => if req_id = request.request_id then some request else table.find req_id
  keyed := fun {req_id _} h => by
    by_cases hid : req_id = request.request_id
    · rw [if_pos hid] at h
      cases h
      exact hid.symm
    · rw [if_neg hid] at h
      exact table.keyed h

/-- `del self.requests[req_id]` of some ids -/
def remove (table : RequestTable) (req_ids : List ReqId) : RequestTable where
  find := fun req_id => if req_id ∈ req_ids then none else table.find req_id
  keyed := fun {req_id _} h => by
    by_cases hid : req_id ∈ req_ids
    · rw [if_pos hid] at h
      cases h
    · rw [if_neg hid] at h
      exact table.keyed h

/-- a write to the requests themselves -/
def modify (table : RequestTable) (f : Request → Request) (hf : ∀ request, (f request).request_id = request.request_id) :
    RequestTable where
  find := fun req_id => (table.find req_id).map f
  keyed := fun {_ _} h => by
    obtain ⟨request, hrequest, rfl⟩ := Option.map_eq_some_iff.1 h
    exact (hf request).trans (table.keyed hrequest)

end RequestTable

theorem modify_find {table : RequestTable} {f : Request → Request}
    {hf : ∀ request, (f request).request_id = request.request_id} {req_id : ReqId} {request : Request} :
    (table.modify f hf).find req_id = some request ↔ ∃ old, table.find req_id = some old ∧ f old = request :=
  Option.map_eq_some_iff

theorem modify_known {table : RequestTable} {f : Request → Request}
    {hf : ∀ request, (f request).request_id = request.request_id} {req_id : ReqId} :
    (∃ request, (table.modify f hf).find req_id = some request) ↔ ∃ request, table.find req_id = some request := by
  constructor
  · rintro ⟨_, h⟩
    obtain ⟨request, hfind, -⟩ := modify_find.1 h
    exact ⟨request, hfind⟩
  · rintro ⟨request, hfind⟩
    exact ⟨f request, modify_find.2 ⟨request, hfind, rfl⟩⟩

theorem remove_find (table : RequestTable) (req_ids : List ReqId) (req_id : ReqId) (request : Request) :
    (table.remove req_ids).find req_id = some request ↔ req_id ∉ req_ids ∧ table.find req_id = some request := by
  unfold RequestTable.remove
  dsimp only
  by_cases hid : req_id ∈ req_ids
  · rw [if_pos hid]
    exact iff_of_false (fun h => by cases h) fun h => h.1 hid
  · rw [if_neg hid]
    exact ⟨fun h => ⟨hid, h⟩, And.right⟩

/-- what plan making reads of a `SchedulerOutput` -/
structure SchedulerOutput where
  num_scheduled_tokens : List (ReqId × ℕ)
  distinct : (num_scheduled_tokens.map Prod.fst).Nodup
  scheduled_spec_decode_tokens : Bool
  scheduled_encoder_inputs : Bool
  preempted_req_ids : List ReqId

/-- `tuple(scheduler_output.num_scheduled_tokens)` -/
def SchedulerOutput.req_ids (out : SchedulerOutput) : List ReqId := out.num_scheduled_tokens.map Prod.fst

/-- the stock `check_stop`, asked after each appended token: an eligible request stops at its token limit, if not before -/
structure StopRule where
  stops : Request → Bool
  limit : ∀ request, request.eligible = true → request.max_tokens ≤ request.num_output_tokens → stops request = true

structure ResidentEpochScheduler where
  config : ResidentEpochConfig
  check_stop : StopRule
  num_lookahead_tokens : ℕ
  connector : Bool
  ec_connector : Bool
  block_size : Int
  max_num_running_reqs : Int
  requests : RequestTable
  running : List ReqId
  waiting : List ReqId
  skipped_waiting : List ReqId
  /-- `kv_cache_manager.get_blocks(req_id).get_block_ids()`, by cache group -/
  block_ids : ReqId → List (List Int)
  leases : Leases

/-! ## A plan -/

inductive Refusal where
  | raised (error : SchedulerError)
  | rejected (reason : Rejection)
deriving DecidableEq, Repr

/-- `self.requests[req_id]` -/
def ResidentEpochScheduler.request (s : ResidentEpochScheduler) (req_id : ReqId) : Except Refusal Request :=
  match s.requests.find req_id with
  | none => .error (.raised (.missing req_id))
  | some request => .ok request

/-- the checks on the schedule as a whole -/
def scheduleRejection (s : ResidentEpochScheduler) (out : SchedulerOutput) : Except Rejection Unit := do
  refuse (out.req_ids = []) .emptySchedule
  refuse (out.req_ids.length > s.config.max_batch_size) .batchTooLarge
  refuse (∃ item ∈ out.num_scheduled_tokens, item.2 ≠ 1) .notSingleTokenDecode
  refuse (out.scheduled_spec_decode_tokens = true) .speculativeDecode
  refuse (out.scheduled_encoder_inputs = true) .encoderInput
  refuse (out.preempted_req_ids ≠ []) .preemption
  refuse (s.connector = true ∨ s.ec_connector = true) .cacheConnector
  refuse (s.block_size ≠ s.config.block_size) .blockSize
  refuse (out.req_ids.toFinset ≠ s.running.toFinset) .partialRunningSet

/-- one pass of the loop over the requests: the steps that remain -/
def remainingSteps (s : ResidentEpochScheduler) (device_owned : Finset ReqId) (request : Request) :
    Except Rejection Int := do
  requestRejection request
  refuse (request.num_prompt_tokens > s.config.logical_capacity) .promptExceedsResidentCapacity
  refuse (request.num_prompt_tokens > 1 ∧ request.num_output_tokens = 0) .hostPrefillInProgress
  refuse (request.num_prompt_tokens > 1 ∧ request.request_id ∉ device_owned ∧ request.num_output_tokens = 0)
    .hostPrefillInProgress
  refuse (request.num_prompt_tokens > 1 ∧ request.request_id ∉ device_owned ∧
    (s.block_ids request.request_id).length ≠ 1) .multipleKvCacheGroups
  refuse (request.num_computed_tokens ≠ request.num_tokens) .computedTokenAccounting
  let remaining : Int := request.max_tokens - request.num_output_tokens
  refuse (remaining < 1) .requestHasNoRemainingSteps
  .ok remaining

/-- `max(step for step in (1, 2, 4, 8) if step <= min(max_steps, min(remaining_steps)))` -/
def epochSteps (max_steps : Int) (remaining_steps : List Int) : Option Int :=
  match remaining_steps.min? with
  | none => none
  | some least => (([1, 2, 4, 8] : List Int).filter fun step => step ≤ min max_steps least).max?

/-- one pass of the loop over the rows; a missing key, an index out of range and a failed assertion are exceptions -/
def requestPlan (s : ResidentEpochScheduler) (leases : Leases) (epoch_steps : Int) (request : Request) :
    Except Refusal ResidentEpochRequest :=
  let req_id := request.request_id
  match leases.rows.lookup req_id with
  | none => .error (.raised (.missing req_id))
  | some row =>
    let position : Int := request.num_computed_tokens - 1
    if position < 0 ∨ position + epoch_steps > s.config.logical_capacity then .error (.rejected .logicalCapacity)
    else
      match s.block_ids req_id with
      | [[]] => .error (.rejected .missingKvBlock)
      | [flat_block_ids] =>
        match request.sampling_params.bind fun params => params.eos_token_id, leases.generations.lookup req_id,
            request.all_token_ids[position.toNat]? with
        | some eos_token_id, some generation, some token_id => .ok {
            req_id := req_id
            row := row
            generation := generation
            token_id := token_id
            position := position
            sequence_length := position + 1
            eos_token_id := eos_token_id
            scheduler_block_ids := flat_block_ids
            device_block_ids := (row * s.config.blocks_per_request, row * s.config.blocks_per_request + 1)
            state_owner := if req_id ∈ leases.device_owned then .device else .host
            kv_import_required := request.num_prompt_tokens > 1 ∧ req_id ∉ leases.device_owned }
        | none, _, _ => .error (.raised .assertion)
        | some _, none, _ => .error (.raised (.missing req_id))
        | some _, some _, none => .error (.raised .assertion)
      | _ => .error (.rejected .multipleKvCacheGroups)

def graph_batch_size : ℕ := 4

def assemblePlan (s : ResidentEpochScheduler) (epoch_steps : Int) (request_plans : List ResidentEpochRequest) :
    ResidentEpochPlan where
  version := CONTRACT_VERSION
  graph_batch_size := graph_batch_size
  max_steps := epoch_steps
  logical_capacity := s.config.logical_capacity
  requests := request_plans
  active_mask := request_plans.foldl (fun mask request => mask.set request.row.toNat 1)
    (List.replicate graph_batch_size 0)
  sampling_mode := 0
  graph_variant := 0

/-- the part of `_make_resident_epoch_plan` after the row assignment -/
def planRequests (s : ResidentEpochScheduler) (leases : Leases) (req_ids : List ReqId) :
    Except Refusal ResidentEpochPlan := do
  let requests ← req_ids.mapM s.request
  let remaining_steps ← requests.mapM fun request =>
    (remainingSteps s leases.device_owned request).mapError .rejected
  match epochSteps s.config.max_steps remaining_steps with
  | none => .error (.raised .assertion)
  | some epoch_steps =>
    let request_plans ← requests.mapM (requestPlan s leases epoch_steps)
    let plan := assemblePlan s epoch_steps request_plans
    plan.validate.mapError fun e => .raised (.plan e)
    .ok plan

/-- `_make_resident_epoch_plan` -/
def makeResidentEpochPlan (s : ResidentEpochScheduler) (out : SchedulerOutput) :
    Leases × Except Refusal ResidentEpochPlan :=
  match scheduleRejection s out with
  | .error reason => (s.leases, .error (.rejected reason))
  | .ok () =>
    match assignResidentRows s.config s.leases out.req_ids with
    | .error e => (s.leases, .error (.raised e))
    | .ok leases => (leases, planRequests s leases out.req_ids)

/-! ## What a plan is -/

/-- a row of a plan, and the request it is of -/
structure PlannedRequest (s : ResidentEpochScheduler) (leases : Leases) (max_steps : Int) (planned : ResidentEpochRequest)
    (request : Request) : Prop where
  find : s.requests.find planned.req_id = some request
  eligible : request.eligible = true
  prompt : request.num_prompt_tokens ≤ s.config.logical_capacity
  prefilled : 1 < request.num_prompt_tokens → 0 < request.num_output_tokens
  computed : request.num_computed_tokens = request.num_tokens
  remaining : max_steps ≤ request.max_tokens - request.num_output_tokens
  row : ∃ row, leases.rows.lookup planned.req_id = some row ∧ planned.row = row
  generation : leases.generations.lookup planned.req_id = some planned.generation
  tokens : 0 < request.num_tokens
  position : planned.position = request.num_tokens - 1
  length : planned.sequence_length = planned.position + 1
  capacity : planned.position + max_steps ≤ s.config.logical_capacity
  token : request.all_token_ids[request.num_tokens - 1]? = some planned.token_id
  eos : (request.sampling_params.bind fun params => params.eos_token_id) = some planned.eos_token_id
  blocks : s.block_ids planned.req_id = [planned.scheduler_block_ids] ∧ planned.scheduler_block_ids ≠ []
  owner : planned.state_owner = if planned.req_id ∈ leases.device_owned then .device else .host
  importing : planned.kv_import_required = decide (1 < request.num_prompt_tokens ∧ planned.req_id ∉ leases.device_owned)

theorem requestRejection_ok {request : Request} {u : Unit} :
    requestRejection request = .ok u ↔ request.eligible = true := by
  rw [Request.eligible, decide_eq_true_eq]

/-- what a request must be to have steps that remain -/
structure Plannable (s : ResidentEpochScheduler) (device_owned : Finset ReqId) (request : Request) : Prop where
  eligible : request.eligible = true
  prompt : request.num_prompt_tokens ≤ s.config.logical_capacity
  prefilled : 1 < request.num_prompt_tokens → 0 < request.num_output_tokens
  groups : 1 < request.num_prompt_tokens → request.request_id ∉ device_owned →
    (s.block_ids request.request_id).length = 1
  computed : request.num_computed_tokens = request.num_tokens
  remaining : request.num_output_tokens < request.max_tokens

theorem remainingSteps_ok (s : ResidentEpochScheduler) (device_owned : Finset ReqId) (request : Request)
    (remaining : Int) : remainingSteps s device_owned request = .ok remaining ↔
      Plannable s device_owned request ∧ remaining = request.max_tokens - request.num_output_tokens := by
  unfold remainingSteps
  simp only [except_bind_ok, refuse_ok, exists_const, requestRejection_ok]
  constructor
  · rintro ⟨h1, h2, h3, -, h5, h6, h7, h8⟩
    cases h8
    refine ⟨⟨h1, not_lt.1 h2, fun hp => ?_, fun hp ho => ?_, not_not.1 h6, by omega⟩, rfl⟩
    · exact Nat.pos_of_ne_zero fun h0 => h3 ⟨hp, h0⟩
    · exact by_contra fun hne => h5 ⟨hp, ho, hne⟩
  · rintro ⟨h, rfl⟩
    have hremaining := h.remaining
    refine ⟨h.eligible, not_lt.2 h.prompt, fun h3 => ?_, fun h4 => ?_, fun h5 => ?_, not_not.2 h.computed, by omega, rfl⟩
    · exact (h.prefilled h3.1).ne' h3.2
    · exact (h.prefilled h4.1).ne' h4.2.2
    · exact h5.2.2 (h.groups h5.1 h5.2.1)

theorem epochSteps_some {max_steps : Int} {remaining_steps : List Int} {epoch_steps : Int}
    (h : epochSteps max_steps remaining_steps = some epoch_steps) :
    epoch_steps ∈ ([1, 2, 4, 8] : List Int) ∧ epoch_steps ≤ max_steps ∧
      ∀ remaining ∈ remaining_steps, epoch_steps ≤ remaining := by
  unfold epochSteps at h
  cases hmin : remaining_steps.min? with
  | none =>
    rw [hmin] at h
    cases h
  | some least =>
    rw [hmin] at h
    obtain ⟨hmem, -⟩ := List.max?_eq_some_iff.1 h
    obtain ⟨hstep, hle⟩ := List.mem_filter.1 hmem
    have hle : epoch_steps ≤ min max_steps least := of_decide_eq_true hle
    refine ⟨hstep, hle.trans (min_le_left _ _), fun remaining hr => ?_⟩
    exact (hle.trans (min_le_right _ _)).trans ((List.min?_eq_some_iff.1 hmin).2 remaining hr)

/-- there is always a step count -/
theorem epochSteps_isSome {max_steps : Int} (hmax : 1 ≤ max_steps) {remaining_steps : List Int}
    (hne : remaining_steps ≠ []) (hr : ∀ remaining ∈ remaining_steps, 1 ≤ remaining) :
    ∃ epoch_steps, epochSteps max_steps remaining_steps = some epoch_steps := by
  unfold epochSteps
  obtain ⟨least, hleast⟩ := Option.ne_none_iff_exists'.1 (mt List.min?_eq_none_iff.1 hne)
  rw [hleast]
  have hone : (1 : Int) ∈ ([1, 2, 4, 8] : List Int).filter fun step => step ≤ min max_steps least :=
    List.mem_filter.2 ⟨by decide, decide_eq_true (le_min hmax (hr _ (List.min?_eq_some_iff.1 hleast).1))⟩
  exact Option.ne_none_iff_exists'.1 (mt List.max?_eq_none_iff.1 (List.ne_nil_of_mem hone))

/-- the row of a request with steps that remain -/
theorem requestPlan_ok {s : ResidentEpochScheduler} {leases : Leases} {max_steps : Int} {request : Request}
    {planned : ResidentEpochRequest} (hfind : s.requests.find request.request_id = some request)
    (hp : Plannable s leases.device_owned request)
    (hremaining : max_steps ≤ request.max_tokens - request.num_output_tokens)
    (h : requestPlan s leases max_steps request = .ok planned) :
    planned.req_id = request.request_id ∧ PlannedRequest s leases max_steps planned request := by
  unfold requestPlan at h
  dsimp only at h
  split at h
  · cases h
  rename_i row hrow
  by_cases hposition : (request.num_computed_tokens : Int) - 1 < 0 ∨
      (request.num_computed_tokens : Int) - 1 + max_steps > s.config.logical_capacity
  · rw [if_pos hposition] at h
    cases h
  rw [if_neg hposition] at h
  have hcomputed := hp.computed
  obtain ⟨hpos, hcap⟩ := not_or.1 hposition
  split at h
  · cases h
  · rename_i flat_block_ids hflat hblocks
    split at h
    · rename_i eos_token_id generation token_id heos hgeneration htoken
      cases h
      refine ⟨rfl, hfind, hp.eligible, hp.prompt, hp.prefilled, hcomputed, hremaining, ⟨row, hrow, rfl⟩, hgeneration,
        by omega, by rw [hcomputed], rfl, not_lt.1 hcap, ?_, heos, ⟨hblocks, hflat⟩, rfl, rfl⟩
      rw [← htoken]
      congr 1
      omega
    · cases h
    · cases h
    · cases h
  · cases h

/-- a plan, and what it is a plan of -/
structure Planned (s : ResidentEpochScheduler) (out : SchedulerOutput) (leases : Leases) (plan : ResidentEpochPlan) :
    Prop where
  schedule : scheduleRejection s out = .ok ()
  assigned : assignResidentRows s.config s.leases out.req_ids = .ok leases
  ids : plan.req_ids = out.req_ids
  requests : ∀ planned ∈ plan.requests, ∃ request, PlannedRequest s leases plan.max_steps planned request
  steps : plan.max_steps ∈ ([1, 2, 4, 8] : List Int) ∧ plan.max_steps ≤ s.config.max_steps
  capacity : plan.logical_capacity = s.config.logical_capacity
  batch : plan.graph_batch_size = graph_batch_size
  valid : plan.Valid

theorem request_ok {s : ResidentEpochScheduler} {req_id : ReqId} {request : Request} :
    s.request req_id = .ok request ↔ s.requests.find req_id = some request := by
  unfold ResidentEpochScheduler.request
  cases s.requests.find req_id with
  | none => exact iff_of_false (fun h => by cases h) fun h => by cases h
  | some r => exact ⟨fun h => by cases h; rfl, fun h => by cases h; rfl⟩

theorem mapError_ok {α ε ε' : Type} {x : Except ε α} {f : ε → ε'} {a : α} : x.mapError f = .ok a ↔ x = .ok a := by
  cases x with
  | error e => exact iff_of_false (fun h => by cases h) fun h => by cases h
  | ok b => exact ⟨fun h => by cases h; rfl, fun h => by cases h; rfl⟩

/-- the requests of the schedule, each with its row -/
theorem planned_rows {s : ResidentEpochScheduler} {leases : Leases} {req_ids : List ReqId} {requests : List Request}
    {remaining_steps : List Int} {epoch_steps : Int} {request_plans : List ResidentEpochRequest}
    (hrequests : req_ids.mapM s.request = .ok requests)
    (hremaining : (requests.mapM fun request =>
      (remainingSteps s leases.device_owned request).mapError Refusal.rejected) = .ok remaining_steps)
    (hsteps : ∀ remaining ∈ remaining_steps, epoch_steps ≤ remaining)
    (hplans : requests.mapM (requestPlan s leases epoch_steps) = .ok request_plans) :
    request_plans.map (fun planned => planned.req_id) = req_ids ∧
      ∀ planned ∈ request_plans, ∃ request, PlannedRequest s leases epoch_steps planned request := by
  have h1 := mapM_ok.1 hrequests
  have h2 := mapM_ok.1 hremaining
  have h3 := mapM_ok.1 hplans
  clear hrequests hremaining hplans
  induction h1 generalizing remaining_steps request_plans with
  | nil =>
    cases h3
    exact ⟨rfl, fun _ h => by cases h⟩
  | cons hfirst _ ih =>
    obtain ⟨remaining, remaining_rest, hr, hrest, rfl⟩ := List.forall₂_cons_left_iff.1 h2
    obtain ⟨planned, planned_rest, hplan, hplans, rfl⟩ := List.forall₂_cons_left_iff.1 h3
    obtain ⟨hle, hsteps⟩ := List.forall_mem_cons.1 hsteps
    obtain ⟨hids, hspecs⟩ := ih hsteps hrest hplans
    have hfind := request_ok.1 hfirst
    have hid := s.requests.keyed hfind
    obtain ⟨hp, rfl⟩ := (remainingSteps_ok _ _ _ _).1 (mapError_ok.1 hr)
    obtain ⟨hq, hspec⟩ := requestPlan_ok (hid.symm ▸ hfind) hp hle hplan
    rw [List.map_cons, hids, hq, hid]
    exact ⟨rfl, List.forall_mem_cons.2 ⟨⟨_, hspec⟩, hspecs⟩⟩

section Making

variable {s : ResidentEpochScheduler} {out : SchedulerOutput} {leases : Leases}

/-- the rows of the leases are rows of the graph, so a plan made of them is valid -/
theorem planned_valid (hconfig : s.config.Valid) (hi : LeaseInvariant s.config leases) {plan : ResidentEpochPlan}
    (hnodup : plan.req_ids.Nodup) (hne : plan.req_ids ≠ []) (hcount : plan.req_ids.length ≤ s.config.max_batch_size)
    (hrequests : ∀ planned ∈ plan.requests, ∃ request, PlannedRequest s leases plan.max_steps planned request)
    (hversion : plan.version = CONTRACT_VERSION) (hbatch : plan.graph_batch_size = graph_batch_size)
    (hcapacity : plan.logical_capacity = s.config.logical_capacity)
    (hmask : plan.byRow plan.graph_batch_size.toNat (fun _ => 1) 0 = plan.active_mask) : plan.Valid := by
  have hsame (planned other : ResidentEpochRequest) (hp : planned ∈ plan.requests) (ho : other ∈ plan.requests)
      (heq : planned.req_id = other.req_id) : planned = other := List.inj_on_of_nodup_map hnodup hp ho heq
  have hlength : plan.req_ids.length = plan.requests.length := List.length_map _
  have hdistinct (field : ResidentEpochRequest → Int)
      (hfield : ∀ planned ∈ plan.requests, ∀ other ∈ plan.requests, field planned = field other →
        planned.req_id = other.req_id) : (plan.requests.map field).Nodup := by
    refine (List.nodup_map_iff_inj_on (List.Nodup.of_map _ hnodup)).2 fun planned hp other ho heq => ?_
    exact hsame planned other hp ho (hfield planned hp other ho heq)
  refine ⟨hversion, ?_, ?_, hnodup, ?_, ?_, fun planned hp => ?_, fun planned hp => ?_, fun planned hp => ?_,
    fun planned hp himport => ?_, fun planned hp => ?_, hmask⟩
  · rw [hbatch]
    decide
  · rw [hbatch]
    rw [hconfig.batch] at hcount
    have hpos := List.length_pos_iff.2 hne
    constructor
    · omega
    · exact_mod_cast hlength ▸ hcount
  · refine hdistinct _ fun planned hp other ho heq => ?_
    obtain ⟨_, hplanned⟩ := hrequests planned hp
    obtain ⟨_, hother⟩ := hrequests other ho
    obtain ⟨row, hrow, hr⟩ := hplanned.row
    obtain ⟨row', hrow', hr'⟩ := hother.row
    have : row = row' := by omega
    exact lookup_injective hi.rows hrow (this ▸ hrow')
  · refine hdistinct _ fun planned hp other ho heq => ?_
    obtain ⟨_, hplanned⟩ := hrequests planned hp
    obtain ⟨_, hother⟩ := hrequests other ho
    exact lookup_injective (hi.increasing.imp ne_of_lt) hplanned.generation (heq ▸ hother.generation)
  · obtain ⟨_, hplanned⟩ := hrequests planned hp
    exact hi.positive _ (mem_of_lookup hplanned.generation)
  · obtain ⟨_, hplanned⟩ := hrequests planned hp
    obtain ⟨row, hrow, hr⟩ := hplanned.row
    have hrange := hi.range _ (mem_of_lookup hrow)
    rw [hconfig.batch] at hrange
    rw [hbatch, hr]
    exact ⟨Int.natCast_nonneg _, by exact_mod_cast hrange⟩
  · obtain ⟨_, hplanned⟩ := hrequests planned hp
    exact hplanned.length
  · obtain ⟨_, hplanned⟩ := hrequests planned hp
    rw [hplanned.importing, decide_eq_true_eq] at himport
    rw [hplanned.owner, if_neg himport.2]
  · obtain ⟨_, hplanned⟩ := hrequests planned hp
    rw [hcapacity]
    exact hplanned.capacity

/-- what the checks on the schedule accept -/
structure Schedulable (s : ResidentEpochScheduler) (out : SchedulerOutput) : Prop where
  nonempty : out.req_ids ≠ []
  batch : out.req_ids.length ≤ s.config.max_batch_size
  single : ∀ item ∈ out.num_scheduled_tokens, item.2 = 1
  spec : out.scheduled_spec_decode_tokens = false
  encoder : out.scheduled_encoder_inputs = false
  preempted : out.preempted_req_ids = []
  connector : s.connector = false ∧ s.ec_connector = false
  block_size : s.block_size = s.config.block_size
  running : ∀ req_id, req_id ∈ out.req_ids ↔ req_id ∈ s.running

theorem scheduleRejection_ok (s : ResidentEpochScheduler) (out : SchedulerOutput) (u : Unit) :
    scheduleRejection s out = .ok u ↔ Schedulable s out := by
  unfold scheduleRejection
  simp only [except_bind_ok, refuse_ok, exists_const, not_not, not_lt, not_exists, not_and, not_or, ne_eq,
    Bool.not_eq_true, Finset.ext_iff, List.mem_toFinset]
  exact ⟨fun ⟨h1, h2, h3, h4, h5, h6, h7, h8, h9⟩ => ⟨h1, h2, h3, h4, h5, h6, h7, h8, h9⟩,
    fun ⟨h1, h2, h3, h4, h5, h6, h7, h8, h9⟩ => ⟨h1, h2, h3, h4, h5, h6, h7, h8, h9⟩⟩

theorem planRequests_ok {req_ids : List ReqId} {plan : ResidentEpochPlan}
    (h : planRequests s leases req_ids = .ok plan) :
    plan.req_ids = req_ids ∧ plan.Valid ∧
      (∀ planned ∈ plan.requests, ∃ request, PlannedRequest s leases plan.max_steps planned request) ∧
      (plan.max_steps ∈ ([1, 2, 4, 8] : List Int) ∧ plan.max_steps ≤ s.config.max_steps) ∧
      plan.logical_capacity = s.config.logical_capacity ∧ plan.graph_batch_size = graph_batch_size := by
  unfold planRequests at h
  obtain ⟨requests, hrequests, h⟩ := except_bind_ok.1 h
  obtain ⟨remaining_steps, hremaining, h⟩ := except_bind_ok.1 h
  cases hsteps : epochSteps s.config.max_steps remaining_steps with
  | none =>
    rw [hsteps] at h
    cases h
  | some epoch_steps =>
    rw [hsteps] at h
    obtain ⟨request_plans, hplans, h⟩ := except_bind_ok.1 h
    obtain ⟨_, hvalid, h⟩ := except_bind_ok.1 h
    cases h
    obtain ⟨hstep, hmax, hle⟩ := epochSteps_some hsteps
    obtain ⟨hids, hspecs⟩ := planned_rows hrequests hremaining hle hplans
    exact ⟨hids, (planValidate_ok_iff _).1 (mapError_ok.1 hvalid), hspecs, ⟨hstep, hmax⟩, rfl, rfl⟩

/-- **What a returned plan is.** -/
theorem makePlan_spec {plan : ResidentEpochPlan} (h : makeResidentEpochPlan s out = (leases, .ok plan)) :
    Planned s out leases plan := by
  unfold makeResidentEpochPlan at h
  cases hschedule : scheduleRejection s out with
  | error reason =>
    rw [hschedule] at h
    cases h
  | ok u =>
    rw [hschedule] at h
    dsimp only at h
    cases hassigned : assignResidentRows s.config s.leases out.req_ids with
    | error e =>
      rw [hassigned] at h
      cases h
    | ok leases' =>
      rw [hassigned] at h
      dsimp only at h
      obtain ⟨rfl, hplan⟩ := Prod.mk.inj h
      obtain ⟨hids, hvalid, hrequests, hsteps, hcapacity, hbatch⟩ := planRequests_ok hplan
      exact ⟨hschedule, hassigned, hids, hrequests, hsteps, hcapacity, hbatch, hvalid⟩

/-- plan making after an assignment -/
theorem makePlan_assign (hs : Schedulable s out) (h : assignResidentRows s.config s.leases out.req_ids = .ok leases) :
    makeResidentEpochPlan s out = (leases, planRequests s leases out.req_ids) := by
  unfold makeResidentEpochPlan
  rw [(scheduleRejection_ok s out ()).2 hs]
  dsimp only
  rw [h]

/-- leases change only when the schedule passes its checks -/
theorem makePlan_leases {made : Except Refusal ResidentEpochPlan} (h : makeResidentEpochPlan s out = (leases, made)) :
    leases = s.leases ∨ Schedulable s out ∧ assignResidentRows s.config s.leases out.req_ids = .ok leases := by
  unfold makeResidentEpochPlan at h
  cases hschedule : scheduleRejection s out with
  | error reason =>
    rw [hschedule] at h
    exact Or.inl (Prod.mk.inj h).1.symm
  | ok u =>
    rw [hschedule] at h
    dsimp only at h
    cases hassigned : assignResidentRows s.config s.leases out.req_ids with
    | error e =>
      rw [hassigned] at h
      exact Or.inl (Prod.mk.inj h).1.symm
    | ok leases' =>
      rw [hassigned] at h
      dsimp only at h
      obtain ⟨rfl, -⟩ := Prod.mk.inj h
      exact Or.inr ⟨(scheduleRejection_ok s out u).1 hschedule, rfl⟩

/-- a leased request with steps that remain gets its row, or is refused -/
theorem requestPlan_raises {max_steps : Int} {request : Request} (hi : LeaseInvariant s.config leases)
    (hleased : leases.leased request.request_id) (hp : Plannable s leases.device_owned request) {e : SchedulerError} :
    requestPlan s leases max_steps request ≠ .error (.raised e) := by
  obtain ⟨row, hrow⟩ := lookup_exists hleased
  obtain ⟨generation, hgeneration⟩ := lookup_exists ((leased_generations hi _).1 hleased)
  obtain ⟨params, eos, hparams, heos, -⟩ := eligible_eos hp.eligible
  unfold requestPlan
  intro h
  dsimp only at h
  rw [hrow, hgeneration, hparams, Option.bind_some, heos] at h
  dsimp only at h
  by_cases hposition : (request.num_computed_tokens : Int) - 1 < 0 ∨
      (request.num_computed_tokens : Int) - 1 + max_steps > s.config.logical_capacity
  · rw [if_pos hposition] at h
    cases h
  rw [if_neg hposition] at h
  have hcomputed := hp.computed
  have hlt : ((request.num_computed_tokens : Int) - 1).toNat < request.all_token_ids.length := by
    have hpos := (not_or.1 hposition).1
    have hlength : request.all_token_ids.length = request.num_tokens := rfl
    omega
  rw [List.getElem?_eq_getElem hlt] at h
  split at h
  · cases h
  · cases h
  · cases h

/-- what is left of a request's token limit -/
def Request.remaining (request : Request) : Int := request.max_tokens - request.num_output_tokens

theorem remaining_ok_iff {device_owned : Finset ReqId} {requests : List Request} {remaining_steps : List Int} :
    (requests.mapM fun request => (remainingSteps s device_owned request).mapError Refusal.rejected) =
        .ok remaining_steps ↔
      (∀ request ∈ requests, Plannable s device_owned request) ∧ remaining_steps = requests.map Request.remaining := by
  constructor
  · intro h
    have hall := mapM_ok.1 h
    refine ⟨fun request hr => ?_, ?_⟩
    · obtain ⟨remaining, -, h⟩ := forall₂_mem hall.flip hr
      exact ((remainingSteps_ok _ _ _ _).1 (mapError_ok.1 h)).1
    · rw [← List.forall₂_eq_eq_eq, List.forall₂_map_right_iff]
      refine hall.flip.imp fun remaining request h => ?_
      exact ((remainingSteps_ok _ _ _ _).1 (mapError_ok.1 h)).2
  · rintro ⟨hplannable, rfl⟩
    refine mapM_map fun request hr => ?_
    exact mapError_ok.2 ((remainingSteps_ok _ _ _ _).2 ⟨hplannable request hr, rfl⟩)

/-- rows of leased requests make a valid plan -/
theorem assemblePlan_valid (hconfig : s.config.Valid) (hi : LeaseInvariant s.config leases) {req_ids : List ReqId}
    (hnodup : req_ids.Nodup) (hne : req_ids ≠ []) (hcount : req_ids.length ≤ s.config.max_batch_size)
    {requests : List Request} (hrequests : req_ids.mapM s.request = .ok requests)
    (hplannable : ∀ request ∈ requests, Plannable s leases.device_owned request) {epoch_steps : Int}
    (hsteps : epochSteps s.config.max_steps (requests.map Request.remaining) = some epoch_steps)
    {request_plans : List ResidentEpochRequest}
    (hplans : requests.mapM (requestPlan s leases epoch_steps) = .ok request_plans) :
    (assemblePlan s epoch_steps request_plans).validate = .ok () := by
  obtain ⟨-, -, hle⟩ := epochSteps_some hsteps
  obtain ⟨hids, hspecs⟩ := planned_rows hrequests (remaining_ok_iff.2 ⟨hplannable, rfl⟩) hle hplans
  have hids : (assemblePlan s epoch_steps request_plans).req_ids = req_ids := hids
  exact (planValidate_ok_iff _).2
    (planned_valid hconfig hi (by rwa [hids]) (by rwa [hids]) (by rwa [hids]) hspecs rfl rfl rfl rfl)

/-- requests with tokens left have an epoch -/
theorem epochSteps_requests (hconfig : s.config.Valid) {requests : List Request} (hne : requests ≠ [])
    (hremaining : ∀ request ∈ requests, request.num_output_tokens < request.max_tokens) :
    ∃ epoch_steps, epochSteps s.config.max_steps (requests.map Request.remaining) = some epoch_steps := by
  have hmax : 1 ≤ s.config.max_steps := by
    have hsteps := hconfig.steps
    simp only [List.mem_cons, List.not_mem_nil, or_false] at hsteps
    omega
  refine epochSteps_isSome hmax (mt List.map_eq_nil_iff.1 hne) fun remaining hr => ?_
  obtain ⟨request, hmem, rfl⟩ := List.mem_map.1 hr
  have hlt := hremaining request hmem
  unfold Request.remaining
  omega

/-- after the assignment, only the request table can be missing something -/
theorem planRequests_raises (hconfig : s.config.Valid) (hi : LeaseInvariant s.config leases) {req_ids : List ReqId}
    (hleased : ∀ req_id ∈ req_ids, leases.leased req_id) (hnodup : req_ids.Nodup) (hne : req_ids ≠ [])
    (hcount : req_ids.length ≤ s.config.max_batch_size) {e : SchedulerError}
    (h : planRequests s leases req_ids = .error (.raised e)) :
    ∃ req_id ∈ req_ids, e = .missing req_id ∧ s.requests.find req_id = none := by
  unfold planRequests at h
  rcases except_bind_error.1 h with h | ⟨requests, hrequests, h⟩
  · obtain ⟨req_id, hmem, h⟩ := mapM_error h
    unfold ResidentEpochScheduler.request at h
    cases hfind : s.requests.find req_id with
    | none =>
      rw [hfind] at h
      cases h
      exact ⟨req_id, hmem, rfl, hfind⟩
    | some request =>
      rw [hfind] at h
      cases h
  exfalso
  have hspec := mapM_ok.1 hrequests
  have hmem (request : Request) (hr : request ∈ requests) : request.request_id ∈ req_ids := by
    obtain ⟨req_id, hid, hfind⟩ := forall₂_mem hspec hr
    rw [s.requests.keyed (request_ok.1 hfind)]
    exact hid
  rcases except_bind_error.1 h with h | ⟨remaining_steps, hremaining, h⟩
  · obtain ⟨request, -, h⟩ := mapM_error h
    cases hr : remainingSteps s leases.device_owned request with
    | error reason =>
      rw [hr] at h
      cases h
    | ok remaining =>
      rw [hr] at h
      cases h
  obtain ⟨hplannable, rfl⟩ := remaining_ok_iff.1 hremaining
  obtain ⟨epoch_steps, hsteps⟩ := epochSteps_requests hconfig (List.ne_nil_of_length_pos (by
    rw [← hspec.length_eq]
    exact List.length_pos_iff.2 hne)) fun request hr => (hplannable request hr).remaining
  rw [hsteps] at h
  rcases except_bind_error.1 h with h | ⟨request_plans, hplans, h⟩
  · obtain ⟨request, hr, h⟩ := mapM_error h
    exact requestPlan_raises hi (hleased _ (hmem request hr)) (hplannable request hr) h
  have hok := assemblePlan_valid hconfig hi hnodup hne hcount hrequests hplannable hsteps hplans
  dsimp only at h
  rw [hok] at h
  cases h

/-- a request that gets a row in an epoch of so many steps -/
structure Placeable (s : ResidentEpochScheduler) (device_owned : Finset ReqId) (epoch_steps : Int) (request : Request) :
    Prop where
  plannable : Plannable s device_owned request
  tokens : 0 < request.num_tokens
  capacity : (request.num_tokens : Int) - 1 + epoch_steps ≤ s.config.logical_capacity
  blocks : ∃ block_ids, s.block_ids request.request_id = [block_ids] ∧ block_ids ≠ []

theorem requestPlan_exists {epoch_steps : Int} {request : Request} (hi : LeaseInvariant s.config leases)
    (hleased : leases.leased request.request_id) (hp : Placeable s leases.device_owned epoch_steps request) :
    ∃ planned, requestPlan s leases epoch_steps request = .ok planned := by
  cases h : requestPlan s leases epoch_steps request with
  | ok planned => exact ⟨planned, rfl⟩
  | error refusal =>
    cases refusal with
    | raised e => exact absurd h (requestPlan_raises hi hleased hp.plannable)
    | rejected reason =>
      exfalso
      obtain ⟨row, hrow⟩ := lookup_exists hleased
      obtain ⟨block_ids, hblocks, hne⟩ := hp.blocks
      have hcomputed := hp.plannable.computed
      have htokens := hp.tokens
      have hcapacity := hp.capacity
      unfold requestPlan at h
      dsimp only at h
      rw [hrow, hblocks] at h
      dsimp only at h
      rw [if_neg (by rw [hcomputed]; omega)] at h
      cases block_ids with
      | nil => exact hne rfl
      | cons block rest =>
        dsimp only at h
        split at h
        · cases h
        · cases h
        · cases h
        · cases h

/-- **When the requests of a schedule are planned.** -/
theorem planRequests_iff (hconfig : s.config.Valid) (hi : LeaseInvariant s.config leases) {req_ids : List ReqId}
    (hleased : ∀ req_id ∈ req_ids, leases.leased req_id) (hnodup : req_ids.Nodup) (hne : req_ids ≠ [])
    (hcount : req_ids.length ≤ s.config.max_batch_size) {requests : List Request}
    (hrequests : req_ids.mapM s.request = .ok requests) {epoch_steps : Int}
    (hsteps : epochSteps s.config.max_steps (requests.map Request.remaining) = some epoch_steps) :
    (∃ plan, planRequests s leases req_ids = .ok plan) ↔
      ∀ request ∈ requests, Placeable s leases.device_owned epoch_steps request := by
  have hfind {request : Request} (hr : request ∈ requests) :
      request.request_id ∈ req_ids ∧ s.requests.find request.request_id = some request := by
    obtain ⟨req_id, hid, h⟩ := forall₂_mem (mapM_ok.1 hrequests) hr
    have hfind := request_ok.1 h
    rw [s.requests.keyed hfind]
    exact ⟨hid, hfind⟩
  constructor
  · rintro ⟨plan, h⟩ request hr
    unfold planRequests at h
    obtain ⟨requests', hrequests', h⟩ := except_bind_ok.1 h
    obtain rfl : requests = requests' := Except.ok.inj (hrequests.symm.trans hrequests')
    obtain ⟨remaining_steps, hremaining, h⟩ := except_bind_ok.1 h
    obtain ⟨hplannable, rfl⟩ := remaining_ok_iff.1 hremaining
    rw [hsteps] at h
    obtain ⟨request_plans, hplans, -⟩ := except_bind_ok.1 h
    obtain ⟨planned, -, hplan⟩ := forall₂_mem (mapM_ok.1 hplans).flip hr
    have hle := (epochSteps_some hsteps).2.2 _ (List.mem_map_of_mem hr)
    obtain ⟨hid, hp⟩ := requestPlan_ok (hfind hr).2 (hplannable request hr) hle hplan
    refine ⟨hplannable request hr, hp.tokens, ?_, _, hid ▸ hp.blocks.1, hp.blocks.2⟩
    have hcapacity := hp.capacity
    rwa [hp.position] at hcapacity
  · intro hplace
    obtain ⟨request_plans, hplans⟩ := mapM_total fun request hr =>
      requestPlan_exists hi (hleased _ (hfind hr).1) (hplace request hr)
    have hplannable (request : Request) (hr : request ∈ requests) := (hplace request hr).plannable
    refine ⟨assemblePlan s epoch_steps request_plans, ?_⟩
    unfold planRequests
    refine except_bind_ok.2 ⟨requests, hrequests, except_bind_ok.2 ⟨_, remaining_ok_iff.2 ⟨hplannable, rfl⟩, ?_⟩⟩
    rw [hsteps]
    refine except_bind_ok.2 ⟨request_plans, hplans, except_bind_ok.2 ⟨(), mapError_ok.2 ?_, rfl⟩⟩
    exact assemblePlan_valid hconfig hi hnodup hne hcount hrequests hplannable hsteps hplans

/-- **With valid leases, plan making raises only for want of generations or of a request.** -/
theorem makePlan_raises (hconfig : s.config.Valid) (hi : LeaseInvariant s.config s.leases) {e : SchedulerError}
    (h : makeResidentEpochPlan s out = (leases, .error (.raised e))) :
    e = .generationSpace ∧ 2 ^ 31 < s.leases.next_generation + out.req_ids.length ∨
      ∃ req_id ∈ out.req_ids, e = .missing req_id ∧ s.requests.find req_id = none := by
  unfold makeResidentEpochPlan at h
  cases hschedule : scheduleRejection s out with
  | error reason =>
    rw [hschedule] at h
    cases h
  | ok u =>
    rw [hschedule] at h
    dsimp only at h
    have hs := (scheduleRejection_ok s out u).1 hschedule
    cases hassigned : assignResidentRows s.config s.leases out.req_ids with
    | error e' =>
      rw [hassigned] at h
      cases h
      exact Or.inl (assign_raises hi hs.batch hassigned)
    | ok leases' =>
      rw [hassigned] at h
      dsimp only at h
      obtain ⟨rfl, hplan⟩ := Prod.mk.inj h
      have ha := assign_spec hi hassigned
      have hleased (req_id : ReqId) (hmem : req_id ∈ out.req_ids) : leases'.leased req_id := (ha.leased req_id).2 hmem
      exact Or.inr (planRequests_raises hconfig ha.invariant hleased out.distinct hs.nonempty hs.batch hplan)

end Making

end Cruise.Scheduler
