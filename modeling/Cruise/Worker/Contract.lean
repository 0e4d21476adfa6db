/-
The epoch contract (`contract.py`): plans, results, and the checks each must pass.

MODEL. A request id is only ever compared, so it is a number here. A state owner and a route are enumerations, so the
checks that refuse any other string have nothing left to refuse. A dict is its list of items in insertion order.
- `planValidate_ok_iff`: what an accepted plan is.
- `resultValidate_device_iff`: what an accepted device result is.
-/
import Cruise.Lib.Fold
import Cruise.Native.Bridge

namespace Cruise.Worker

open Cruise.Lib Cruise.Native

abbrev ReqId := ℕ

def CONTRACT_VERSION : Int := 3

/-! ## Plans -/

inductive StateOwner where
  | host
  | device
deriving DecidableEq, Repr

structure ResidentEpochRequest where
  req_id : ReqId
  row : Int
  generation : Int
  token_id : Int
  position : Int
  sequence_length : Int
  eos_token_id : Int
  scheduler_block_ids : List Int
  device_block_ids : Int × Int
  state_owner : StateOwner
  kv_import_required : Bool
deriving DecidableEq, Repr

structure ResidentEpochPlan where
  version : Int
  graph_batch_size : Int
  max_steps : Int
  logical_capacity : Int
  requests : List ResidentEpochRequest
  active_mask : List Int
  sampling_mode : Int
  graph_variant : Int
deriving DecidableEq, Repr

namespace ResidentEpochPlan

def req_ids (plan : ResidentEpochPlan) : List ReqId := plan.requests.map fun request => request.req_id

/-- `values = [fill] * size; values[request.row] = ...` for every request -/
def byRow (plan : ResidentEpochPlan) (size : ℕ) (field : ResidentEpochRequest → Int) (fill : Int) : List Int :=
  plan.requests.foldl (fun values request => values.set request.row.toNat (field request)) (List.replicate size fill)

def row_generations (plan : ResidentEpochPlan) : List Int :=
  plan.byRow plan.graph_batch_size.toNat (fun request => request.generation) 0

def host_replay_safe (plan : ResidentEpochPlan) : Bool := plan.requests.all fun request => request.state_owner = .host

def importing (plan : ResidentEpochPlan) : Bool := plan.requests.any fun request => request.kv_import_required

end ResidentEpochPlan

inductive PlanError where
  | version (version : Int)
  | batchSize
  | requestCount
  | maskLength
  | maskValue
  | duplicateIds
  | duplicateRows
  | generationSign
  | duplicateGenerations
  | row
  | sequenceLength
  | importOwner
  | capacity
  | mask
deriving DecidableEq, Repr

def PlanError.message : PlanError → String
  | .version v => "unsupported resident epoch contract " ++ toString v
  | .batchSize => "graph batch size must be 1, 2, or 4"
  | .requestCount => "request count does not fit the static graph"
  | .maskLength => "active mask does not match graph batch size"
  | .maskValue => "active mask must contain only zero or one"
  | .duplicateIds => "request IDs must be unique"
  | .duplicateRows => "resident rows must be unique"
  | .generationSign => "resident generations must be positive"
  | .duplicateGenerations => "resident generations must be unique"
  | .row => "resident row is outside the static graph"
  | .sequenceLength => "sequence length and position disagree"
  | .importOwner => "KV import requires Host-owned request state"
  | .capacity => "epoch exceeds logical capacity"
  | .mask => "active mask does not match resident rows"

/-- `if refused: raise error` -/
def refuse {ε : Type} (refused : Prop) [Decidable refused] (error : ε) : Except ε Unit :=
  if refused then .error error else .ok ()

@[simp] theorem refuse_ok {ε : Type} (refused : Prop) [Decidable refused] (error : ε) (u : Unit) :
    refuse refused error = .ok u ↔ ¬ refused := by
  unfold refuse
  split_ifs with h
  · exact iff_of_false (fun h => by cases h) (not_not.2 h)
  · exact iff_of_true rfl h

theorem refuse_error {ε : Type} (refused : Prop) [Decidable refused] (error e : ε) :
    refuse refused error = .error e ↔ refused ∧ e = error := by
  unfold refuse
  split_ifs with h
  · exact ⟨fun he => by cases he; exact ⟨h, rfl⟩, fun he => by rw [he.2]⟩
  · exact iff_of_false (fun he => by cases he) fun he => h he.1

namespace ResidentEpochPlan

/-- one pass of the request loop of `validate` -/
def validateRequest (plan : ResidentEpochPlan) (request : ResidentEpochRequest) : Except PlanError Unit := do
  refuse (request.row < 0 ∨ request.row ≥ plan.graph_batch_size) .row
  refuse (request.sequence_length ≠ request.position + 1) .sequenceLength
  refuse (request.kv_import_required = true ∧ request.state_owner ≠ .host) .importOwner
  refuse (request.position + plan.max_steps > plan.logical_capacity) .capacity

def validate (plan : ResidentEpochPlan) : Except PlanError Unit := do
  refuse (plan.version ≠ CONTRACT_VERSION) (.version plan.version)
  refuse (plan.graph_batch_size ∉ [1, 2, 4]) .batchSize
  refuse (¬ (1 ≤ plan.requests.length ∧ plan.requests.length ≤ plan.graph_batch_size)) .requestCount
  refuse (plan.active_mask.length ≠ plan.graph_batch_size) .maskLength
  refuse (∃ value ∈ plan.active_mask, value ∉ [0, 1]) .maskValue
  refuse (¬ plan.req_ids.Nodup) .duplicateIds
  refuse (¬ (plan.requests.map fun request => request.row).Nodup) .duplicateRows
  refuse (∃ request ∈ plan.requests, request.generation ≤ 0) .generationSign
  refuse (¬ (plan.requests.map fun request => request.generation).Nodup) .duplicateGenerations
  plan.requests.forM plan.validateRequest
  refuse (plan.byRow plan.graph_batch_size.toNat (fun _ => 1) 0 ≠ plan.active_mask) .mask

/-- what an accepted plan is -/
structure Valid (plan : ResidentEpochPlan) : Prop where
  version : plan.version = CONTRACT_VERSION
  batch : plan.graph_batch_size ∈ [1, 2, 4]
  count : 1 ≤ plan.requests.length ∧ plan.requests.length ≤ plan.graph_batch_size
  ids : plan.req_ids.Nodup
  rows : (plan.requests.map fun request => request.row).Nodup
  generations : (plan.requests.map fun request => request.generation).Nodup
  positive : ∀ request ∈ plan.requests, 0 < request.generation
  row : ∀ request ∈ plan.requests, 0 ≤ request.row ∧ request.row < plan.graph_batch_size
  length : ∀ request ∈ plan.requests, request.sequence_length = request.position + 1
  owner : ∀ request ∈ plan.requests, request.kv_import_required = true → request.state_owner = .host
  capacity : ∀ request ∈ plan.requests, request.position + plan.max_steps ≤ plan.logical_capacity
  mask : plan.byRow plan.graph_batch_size.toNat (fun _ => 1) 0 = plan.active_mask

end ResidentEpochPlan

theorem forM_ok_iff {ε α : Type} (f : α → Except ε Unit) (l : List α) (u : Unit) :
    l.forM f = .ok u ↔ ∀ a ∈ l, f a = .ok () := by
  induction l with
  | nil => exact iff_of_true rfl fun a ha => by cases ha
  | cons a rest ih =>
    rw [List.forall_mem_cons, ← ih]
    exact except_bind_ok.trans ⟨fun ⟨_, h1, h2⟩ => ⟨h1, h2⟩, fun ⟨h1, h2⟩ => ⟨(), h1, h2⟩⟩

theorem validateRequest_ok_iff (plan : ResidentEpochPlan) (request : ResidentEpochRequest) (u : Unit) :
    plan.validateRequest request = .ok u ↔ (0 ≤ request.row ∧ request.row < plan.graph_batch_size) ∧
      request.sequence_length = request.position + 1 ∧
      (request.kv_import_required = true → request.state_owner = .host) ∧
      request.position + plan.max_steps ≤ plan.logical_capacity := by
  unfold ResidentEpochPlan.validateRequest
  simp only [except_bind_ok, refuse_ok, exists_const]
  constructor
  · intro ⟨h1, h2, h3, h4⟩
    exact ⟨by omega, not_not.1 h2, fun hk => by_contra fun ho => h3 ⟨hk, ho⟩, not_lt.1 h4⟩
  · intro ⟨h1, h2, h3, h4⟩
    exact ⟨by omega, not_not.2 h2, fun h => h.2 (h3 h.1), not_lt.2 h4⟩

/-! ### Values by row -/

theorem foldl_set_length {α : Type} (row : α → ℕ) (field : α → Int) (l : List α) (values : List Int) :
    (l.foldl (fun values a => values.set (row a) (field a)) values).length = values.length := by
  induction l generalizing values with
  | nil => rfl
  | cons a rest ih => exact (ih _).trans List.length_set

/-- with distinct rows, each row holds its own request's value and the others the fill -/
theorem foldl_set_getElem? {α : Type} (row : α → ℕ) (field : α → Int) (l : List α) (hl : (l.map row).Nodup)
    (values : List Int) (i : ℕ) (hi : i < values.length) :
    (l.foldl (fun values a => values.set (row a) (field a)) values)[i]? =
      match l.find? fun a => row a = i with
      | some a => some (field a)
      | none => values[i]? := by
  induction l generalizing values with
  | nil => rfl
  | cons a rest ih =>
    obtain ⟨ha, hrest⟩ := List.nodup_cons.1 hl
    rw [List.foldl_cons, ih hrest _ (by rw [List.length_set]; exact hi)]
    by_cases hai : row a = i
    · have hnone : rest.find? (fun b => row b = i) = none := by
        rw [List.find?_eq_none]
        intro b hb hbi
        exact ha (List.mem_map.2 ⟨b, hb, (of_decide_eq_true hbi).trans hai.symm⟩)
      rw [hnone, List.find?_cons_of_pos (by simpa using hai), ← hai]
      exact List.getElem?_set_self (hai ▸ hi)
    · rw [List.find?_cons_of_neg (by simpa using hai)]
      cases rest.find? fun b => row b = i with
      | some b => rfl
      | none => exact List.getElem?_set_ne hai

theorem byRow_length (plan : ResidentEpochPlan) (size : ℕ) (field : ResidentEpochRequest → Int) (fill : Int) :
    (plan.byRow size field fill).length = size :=
  (foldl_set_length (fun request : ResidentEpochRequest => request.row.toNat) field plan.requests _).trans List.length_replicate

theorem foldl_set_mem {α : Type} (row : α → ℕ) (field : α → Int) (l : List α) (values : List Int) {value : Int}
    (h : value ∈ l.foldl (fun values a => values.set (row a) (field a)) values) :
    value ∈ values ∨ ∃ a ∈ l, value = field a := by
  induction l generalizing values with
  | nil => exact Or.inl h
  | cons a rest ih =>
    rcases ih _ h with h | ⟨b, hb, h⟩
    · rcases List.mem_or_eq_of_mem_set h with h | h
      · exact Or.inl h
      · exact Or.inr ⟨a, List.mem_cons_self, h⟩
    · exact Or.inr ⟨b, List.mem_cons_of_mem _ hb, h⟩

/-- **What an accepted plan is.** -/
theorem planValidate_ok_iff (plan : ResidentEpochPlan) : plan.validate = .ok () ↔ plan.Valid := by
  unfold ResidentEpochPlan.validate
  simp only [except_bind_ok, refuse_ok, forM_ok_iff, validateRequest_ok_iff, exists_const, not_not, not_exists, not_and,
    Classical.not_imp]
  constructor
  · rintro ⟨h1, h2, h3, -, -, h6, h7, h8, h9, h10, h11⟩
    exact ⟨h1, h2, h3, h6, h7, h9, fun r hr => not_le.1 (h8 r hr), fun r hr => (h10 r hr).1,
      fun r hr => (h10 r hr).2.1, fun r hr => (h10 r hr).2.2.1, fun r hr => (h10 r hr).2.2.2, h11⟩
  · intro ⟨h1, h2, h3, h4, h5, h6, h7, h8, h9, h10, h11, h12⟩
    refine ⟨h1, h2, h3, ?_, ?_, h4, h5, fun r hr => not_le.2 (h7 r hr), h6,
      fun r hr => ⟨h8 r hr, h9 r hr, h10 r hr, h11 r hr⟩, h12⟩
    · rw [← h12, byRow_length, Int.toNat_of_nonneg (by omega)]
    · intro value hvalue
      rw [← h12] at hvalue
      rcases foldl_set_mem (fun request => request.row.toNat) (fun _ => 1) plan.requests _ hvalue with h | ⟨_, -, rfl⟩
      · rw [(List.mem_replicate.1 h).2]
        exact List.mem_cons_self
      · exact List.mem_cons_of_mem _ List.mem_cons_self

/-! ## Results -/

inductive Route where
  | device
  | hostFallback
deriving DecidableEq, Repr

inductive TransferMode where
  | none
  | hostSnapshot
  | deviceIpc
deriving DecidableEq, Repr

structure ResidentEpochResult where
  version : Int
  route : Route
  status : Int
  model_calls : Int
  computed_steps : List (ReqId × Int)
  row_generations : List Int
  commit_state : CommitState
  fallback_safe : Bool
  feed_calls : Int
  fetch_calls : Int
  wall_us : Int
  native_cpu_us : Int
  declared_input_bytes : Int
  declared_output_bytes : Int
  socket_send_calls : Int
  socket_receive_calls : Int
  kv_imported : Bool
  kv_import_checksum : Int
  kv_snapshot_checksum : Int
  kv_transfer_mode : TransferMode
deriving DecidableEq, Repr

inductive ResultError where
  | version
  | resultIds
  | outputIds
  | deviceStatus
  | deviceCommit
  | deviceCalls
  | deviceGenerations
  | importMissing
  | importProof
  | snapshotProof
  | transferMode
  | fallbackSafe
  | fallbackCommit
  | fallbackOwner
  | fallbackCalls
  | stepCount
  | tokenCount
  | fallbackSteps
  | shortEpoch
  | modelCalls
deriving DecidableEq, Repr

def ResultError.message : ResultError → String
  | .version => "resident epoch result version mismatch"
  | .resultIds => "resident epoch result request set mismatch"
  | .outputIds => "resident epoch output request set mismatch"
  | .deviceStatus => "failed device execution cannot be committed"
  | .deviceCommit => "device execution result is not committed"
  | .deviceCalls => "device epoch must use exactly one Feed and one Fetch"
  | .deviceGenerations => "device resident generations disagree with the plan"
  | .importMissing => "device result did not commit the requested KV import"
  | .importProof => "device result did not prove an imported KV transfer"
  | .snapshotProof => "device result did not prove equivalent imported KV from the Host snapshot"
  | .transferMode => "KV transfer mode is set without an import"
  | .fallbackSafe => "host fallback must be declared input-preserving"
  | .fallbackCommit => "host fallback requires a prepared device state"
  | .fallbackOwner => "Host no longer owns every request state"
  | .fallbackCalls => "Host fallback result cannot claim DataFlow calls"
  | .stepCount => "computed step count is outside the epoch"
  | .tokenCount => "sampled token count and computed steps disagree"
  | .fallbackSteps => "host fallback must retain one-step vLLM semantics"
  | .shortEpoch => "a short device epoch must terminate at EOS"
  | .modelCalls => "device model-call count disagrees with executed steps"

/-- `set(dict) == set(ids)` -/
def sameIds {α : Type} (dict : List (ReqId × α)) (ids : List ReqId) : Prop := ∀ id, id ∈ dict.map Prod.fst ↔ id ∈ ids

instance {α : Type} (dict : List (ReqId × α)) (ids : List ReqId) : Decidable (sameIds dict ids) :=
  decidable_of_iff ((∀ id ∈ dict.map Prod.fst, id ∈ ids) ∧ ∀ id ∈ ids, id ∈ dict.map Prod.fst)
    ⟨fun h id => ⟨h.1 id, h.2 id⟩, fun h => ⟨fun id => (h id).1, fun id => (h id).2⟩⟩

namespace ResidentEpochResult

/-- `computed_steps[req_id]`, on a key that is there -/
def steps (result : ResidentEpochResult) (req_id : ReqId) : Int := (result.computed_steps.lookup req_id).getD 0

def transfer_mode (result : ResidentEpochResult) : TransferMode :=
  if result.kv_imported = true ∧ result.kv_transfer_mode = .none then .hostSnapshot else result.kv_transfer_mode

/-- one pass of the request loop of `validate_against` -/
def validateRequest (result : ResidentEpochResult) (plan : ResidentEpochPlan) (sampled : List (ReqId × List Int))
    (request : ResidentEpochRequest) : Except ResultError Unit := do
  let steps := result.steps request.req_id
  let tokens := (sampled.lookup request.req_id).getD []
  refuse (steps < 1 ∨ steps > plan.max_steps) .stepCount
  refuse (tokens.length ≠ steps) .tokenCount
  refuse (result.route = .hostFallback ∧ steps ≠ 1) .fallbackSteps
  refuse (result.route = .device ∧ steps < plan.max_steps ∧ tokens.getLast? ≠ some request.eos_token_id) .shortEpoch

def validateAgainst (result : ResidentEpochResult) (plan : ResidentEpochPlan)
    (sampled_token_ids : List (ReqId × List Int)) : Except ResultError Unit := do
  refuse (result.version ≠ plan.version) .version
  refuse (¬ sameIds result.computed_steps plan.req_ids) .resultIds
  refuse (¬ sameIds sampled_token_ids plan.req_ids) .outputIds
  refuse (result.route = .device ∧ result.status ≠ 0) .deviceStatus
  refuse (result.route = .device ∧ result.commit_state ≠ .committed) .deviceCommit
  refuse (result.route = .device ∧ (result.feed_calls ≠ 1 ∨ result.fetch_calls ≠ 1)) .deviceCalls
  refuse (result.route = .device ∧ result.row_generations ≠ plan.row_generations) .deviceGenerations
  refuse (result.route = .device ∧ plan.importing = true ∧ result.kv_imported = false) .importMissing
  refuse (result.kv_imported = true ∧ (result.kv_import_checksum = 0 ∨ result.transfer_mode = .none)) .importProof
  refuse (result.kv_imported = true ∧ result.transfer_mode = .hostSnapshot ∧
    (result.kv_snapshot_checksum = 0 ∨ result.kv_import_checksum ≠ result.kv_snapshot_checksum)) .snapshotProof
  refuse (result.kv_imported = false ∧ result.transfer_mode ≠ .none) .transferMode
  refuse (result.route = .hostFallback ∧ result.fallback_safe = false) .fallbackSafe
  refuse (result.route = .hostFallback ∧ result.commit_state ≠ .prepared) .fallbackCommit
  refuse (result.route = .hostFallback ∧ plan.host_replay_safe = false) .fallbackOwner
  refuse (result.route = .hostFallback ∧ (result.feed_calls ≠ 0 ∨ result.fetch_calls ≠ 0)) .fallbackCalls
  plan.requests.forM (result.validateRequest plan sampled_token_ids)
  refuse (result.route = .device ∧ (result.computed_steps.map Prod.snd).max? ≠ some result.model_calls) .modelCalls

/-- what a device result must be to be accepted -/
structure DeviceValid (result : ResidentEpochResult) (plan : ResidentEpochPlan)
    (sampled : List (ReqId × List Int)) : Prop where
  version : result.version = plan.version
  resultIds : sameIds result.computed_steps plan.req_ids
  outputIds : sameIds sampled plan.req_ids
  status : result.status = 0
  commit : result.commit_state = .committed
  calls : result.feed_calls = 1 ∧ result.fetch_calls = 1
  generations : result.row_generations = plan.row_generations
  imported : plan.importing = true → result.kv_imported = true
  mode : if result.kv_imported = true then result.kv_import_checksum ≠ 0 ∧ result.transfer_mode ≠ .none ∧
      (result.transfer_mode = .hostSnapshot → result.kv_snapshot_checksum ≠ 0 ∧
        result.kv_import_checksum = result.kv_snapshot_checksum)
    else result.transfer_mode = .none
  steps : ∀ request ∈ plan.requests, 1 ≤ result.steps request.req_id ∧ result.steps request.req_id ≤ plan.max_steps
  tokens : ∀ request ∈ plan.requests,
    ((sampled.lookup request.req_id).getD []).length = result.steps request.req_id
  eos : ∀ request ∈ plan.requests, result.steps request.req_id < plan.max_steps →
    ((sampled.lookup request.req_id).getD []).getLast? = some request.eos_token_id
  model_calls : (result.computed_steps.map Prod.snd).max? = some result.model_calls

end ResidentEpochResult

/-- the step counts of any accepted result -/
theorem resultValidate_steps {result : ResidentEpochResult} {plan : ResidentEpochPlan}
    {sampled : List (ReqId × List Int)} (h : result.validateAgainst plan sampled = .ok ()) :
    sameIds result.computed_steps plan.req_ids ∧
      ∀ request ∈ plan.requests, 1 ≤ result.steps request.req_id ∧ result.steps request.req_id ≤ plan.max_steps ∧
        ((sampled.lookup request.req_id).getD []).length = result.steps request.req_id := by
  unfold ResidentEpochResult.validateAgainst at h
  simp only [except_bind_ok, refuse_ok, forM_ok_iff, exists_const, ResidentEpochResult.validateRequest] at h
  obtain ⟨-, hids, -, -, -, -, -, -, -, -, -, -, -, -, -, hsteps, -⟩ := h
  refine ⟨not_not.1 hids, fun request hr => ?_⟩
  obtain ⟨hcount, htokens, -⟩ := hsteps request hr
  exact ⟨by omega, by omega, not_not.1 htokens⟩

/-- **A device result is accepted exactly when it proves its epoch.** -/
theorem resultValidate_device_iff {result : ResidentEpochResult} (hroute : result.route = .device)
    (plan : ResidentEpochPlan) (sampled : List (ReqId × List Int)) :
    result.validateAgainst plan sampled = .ok () ↔ result.DeviceValid plan sampled := by
  have hfallback : ¬ result.route = .hostFallback := by rw [hroute]; decide
  unfold ResidentEpochResult.validateAgainst
  simp only [except_bind_ok, refuse_ok, forM_ok_iff, exists_const, ResidentEpochResult.validateRequest, hroute,
    true_and, not_not, reduceCtorEq, false_and, not_false_eq_true]
  constructor
  · rintro ⟨h1, h2, h3, h4, h5, h6, h7, h8, h9, h10, h11, h12, h13⟩
    refine ⟨h1, h2, h3, h4, h5, by tauto, h7, fun hi => by simpa [hi] using h8, ?_, fun r hr => ?_, fun r hr => ?_,
      fun r hr => ?_, h13⟩
    · by_cases hk : result.kv_imported = true
      · rw [if_pos hk]
        refine ⟨fun h => h9 ⟨hk, Or.inl h⟩, fun h => h9 ⟨hk, Or.inr h⟩, fun hm => ⟨fun h => h10 ⟨hk, hm, Or.inl h⟩, ?_⟩⟩
        by_contra hne
        exact h10 ⟨hk, hm, Or.inr hne⟩
      · rw [if_neg hk]
        by_contra hne
        exact h11 ⟨by simpa using hk, hne⟩
    · have := (h12 r hr).1
      omega
    · exact (h12 r hr).2.1
    · intro hlt
      by_contra hne
      exact (h12 r hr).2.2 ⟨hlt, hne⟩
  · intro ⟨h1, h2, h3, h4, h5, h6, h7, h8, h9, h10, h11, h12, h13⟩
    refine ⟨h1, h2, h3, h4, h5, by tauto, h7, fun h => ?_, fun h => ?_, fun h => ?_, fun h => ?_, fun r hr => ⟨?_, ?_, ?_⟩,
      h13⟩
    · exact absurd (h8 h.1) (by rw [h.2]; decide)
    · rw [if_pos h.1] at h9
      exact h.2.elim h9.1 h9.2.1
    · rw [if_pos h.1] at h9
      exact h.2.2.elim (h9.2.2 h.2.1).1 fun hne => hne (h9.2.2 h.2.1).2
    · rw [if_neg (by rw [h.1]; decide)] at h9
      exact h.2 h9
    · have := h10 r hr
      omega
    · exact h11 r hr
    · exact fun h => h.2 (h12 r hr h.1)

end Cruise.Worker
