/-
Requests of the stock scheduler, as far as the extension reads them, and which of them may run on the device
(`eligibility.py`).

MODEL. Attributes that are only tested for being set, or for being empty, are Booleans; sampling parameters are the
numbers they denote. A refusal is an enumeration whose `reason` is the source's text; those of the plan come after those
of a request.
- `eligible_eos`: an eligible request stops at an EOS of its own.
-/
import Cruise.Worker.Contract

namespace Cruise.Scheduler

open Cruise.Lib Cruise.Worker

structure SamplingParams where
  temperature : ℚ
  top_p : ℚ
  top_k : Int
  min_p : ℚ
  presence_penalty : ℚ
  frequency_penalty : ℚ
  repetition_penalty : ℚ
  min_tokens : Int
  ignore_eos : Bool
  eos_token_id : Option Int
  stop : List String
  stop_token_ids : List Int
  logprobs : Option Int
  prompt_logprobs : Option Int
  logit_bias : List (Int × ℚ)
  allowed_token_ids : List Int
  bad_words : List String
  repetition_detection : Bool
  extra_args : Bool

/-- greedy decoding up to an EOS -/
def SamplingParams.greedy (eos_token_id : Int) : SamplingParams where
  temperature := 0
  top_p := 1
  top_k := 0
  min_p := 0
  presence_penalty := 0
  frequency_penalty := 0
  repetition_penalty := 1
  min_tokens := 0
  ignore_eos := false
  eos_token_id := some eos_token_id
  stop := []
  stop_token_ids := []
  logprobs := none
  prompt_logprobs := none
  logit_bias := []
  allowed_token_ids := []
  bad_words := []
  repetition_detection := false
  extra_args := false

structure Request where
  request_id : ReqId
  prompt_token_ids : List Int
  output_token_ids : List Int
  num_computed_tokens : ℕ
  max_tokens : ℕ
  pooling_params : Bool
  mm_features : Bool
  lora_request : Bool
  prompt_embeds : Bool
  use_structured_output : Bool
  sampling_params : Option SamplingParams

namespace Request

variable (request : Request)

def num_prompt_tokens : ℕ := request.prompt_token_ids.length

def num_output_tokens : ℕ := request.output_token_ids.length

def all_token_ids : List Int := request.prompt_token_ids ++ request.output_token_ids

def num_tokens : ℕ := request.all_token_ids.length

theorem num_tokens_eq : request.num_tokens = request.num_prompt_tokens + request.num_output_tokens := List.length_append

end Request

/-! ## Refusals -/

inductive Rejection where
  -- of a request
  | poolingRequest
  | multimodalInput
  | lora
  | promptEmbeds
  | structuredOutput
  | missingSamplingParams
  | nonGreedyTemperature
  | unsupportedSamplingFilter
  | samplingPenalty
  | minTokens
  | ignoreEos
  | missingEos
  | extraStopCondition
  | logprobs
  | logitProcessor
  | badWords
  | repetitionDetection
  | extraSamplingArgs
  -- of a schedule
  | emptySchedule
  | batchTooLarge
  | notSingleTokenDecode
  | speculativeDecode
  | encoderInput
  | preemption
  | cacheConnector
  | blockSize
  | partialRunningSet
  | promptExceedsResidentCapacity
  | hostPrefillInProgress
  | multipleKvCacheGroups
  | computedTokenAccounting
  | requestHasNoRemainingSteps
  | logicalCapacity
  | missingKvBlock
  -- of an isolated Host step
  | unsupportedHostIsolation
  | hostPrefillAdmission
deriving DecidableEq, Repr

def Rejection.reason : Rejection → String
  | .poolingRequest => "pooling-request"
  | .multimodalInput => "multimodal-input"
  | .lora => "lora"
  | .promptEmbeds => "prompt-embeds"
  | .structuredOutput => "structured-output"
  | .missingSamplingParams => "missing-sampling-params"
  | .nonGreedyTemperature => "non-greedy-temperature"
  | .unsupportedSamplingFilter => "unsupported-sampling-filter"
  | .samplingPenalty => "sampling-penalty"
  | .minTokens => "min-tokens"
  | .ignoreEos => "ignore-eos"
  | .missingEos => "missing-eos"
  | .extraStopCondition => "extra-stop-condition"
  | .logprobs => "logprobs"
  | .logitProcessor => "logit-processor"
  | .badWords => "bad-words"
  | .repetitionDetection => "repetition-detection"
  | .extraSamplingArgs => "extra-sampling-args"
  | .emptySchedule => "empty-schedule"
  | .batchTooLarge => "batch-too-large"
  | .notSingleTokenDecode => "not-single-token-decode"
  | .speculativeDecode => "speculative-decode"
  | .encoderInput => "encoder-input"
  | .preemption => "preemption"
  | .cacheConnector => "cache-connector"
  | .blockSize => "block-size"
  | .partialRunningSet => "partial-running-set"
  | .promptExceedsResidentCapacity => "prompt-exceeds-resident-capacity"
  | .hostPrefillInProgress => "host-prefill-in-progress"
  | .multipleKvCacheGroups => "multiple-kv-cache-groups"
  | .computedTokenAccounting => "computed-token-accounting"
  | .requestHasNoRemainingSteps => "request-has-no-remaining-steps"
  | .logicalCapacity => "logical-capacity"
  | .missingKvBlock => "missing-kv-block"
  | .unsupportedHostIsolation => "unsupported-host-isolation"
  | .hostPrefillAdmission => "host-prefill-admission"

/-- the checks on the sampling parameters -/
def samplingRejection (params : SamplingParams) : Except Rejection Unit := do
  refuse (params.temperature ≠ 0) .nonGreedyTemperature
  refuse (params.top_p ≠ 1 ∨ params.top_k ≠ 0 ∨ params.min_p ≠ 0) .unsupportedSamplingFilter
  refuse (params.presence_penalty ≠ 0 ∨ params.frequency_penalty ≠ 0 ∨ params.repetition_penalty ≠ 1) .samplingPenalty
  refuse (params.min_tokens ≠ 0) .minTokens
  refuse (params.ignore_eos = true) .ignoreEos
  refuse (params.eos_token_id = none) .missingEos
  refuse (params.stop ≠ [] ∨ params.stop_token_ids ≠ []) .extraStopCondition
  refuse (params.logprobs ≠ none ∨ params.prompt_logprobs ≠ none) .logprobs
  refuse (params.logit_bias ≠ [] ∨ params.allowed_token_ids ≠ []) .logitProcessor
  refuse (params.bad_words ≠ []) .badWords
  refuse (params.repetition_detection = true) .repetitionDetection
  refuse (params.extra_args = true) .extraSamplingArgs

/-- `request_rejection_reason`; no reason is `.ok` -/
def requestRejection (request : Request) : Except Rejection Unit := do
  refuse (request.pooling_params = true) .poolingRequest
  refuse (request.mm_features = true) .multimodalInput
  refuse (request.lora_request = true) .lora
  refuse (request.prompt_embeds = true) .promptEmbeds
  refuse (request.use_structured_output = true) .structuredOutput
  match request.sampling_params with
  | none => .error .missingSamplingParams
  | some params => samplingRejection params

/-- `request_rejection_reason(request) is None` -/
def Request.eligible (request : Request) : Bool := requestRejection request = .ok ()

/-- an eligible request stops at its own EOS -/
theorem eligible_eos {request : Request} (h : request.eligible = true) :
    ∃ params eos, request.sampling_params = some params ∧ params.eos_token_id = some eos ∧ params.ignore_eos = false := by
  have hok : requestRejection request = .ok () := of_decide_eq_true h
  unfold requestRejection at hok
  simp only [except_bind_ok, refuse_ok, exists_const] at hok
  obtain ⟨-, -, -, -, -, hparams⟩ := hok
  cases hsampling : request.sampling_params with
  | none =>
    rw [hsampling] at hparams
    cases hparams
  | some params =>
    rw [hsampling] at hparams
    unfold samplingRejection at hparams
    simp only [except_bind_ok, refuse_ok, exists_const] at hparams
    obtain ⟨-, -, -, -, hignore, heos, -⟩ := hparams
    obtain ⟨eos, heos⟩ := Option.ne_none_iff_exists'.1 heos
    exact ⟨params, eos, rfl, heos, by simpa using hignore⟩

end Cruise.Scheduler
