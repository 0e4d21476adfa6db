/-
`G4cB4ResidentEpoch::Proc`: one call of the Device UDF. MODEL: each early `return fallback(status)` of the source is an
`Except` error that carries what the call had already changed; the resident caches and metadata are an explicit state.

Phases, in the source's order:
- `readInputs`: input count, output allocation, the tensor ABI and the control words (`FLOW_FUNC_FAILED` on refusal);
- `allocResident`: the resident caches are allocated and zeroed on first use;
- `validate`: everything that is checked before any resident state is touched;
- `importRows`: masked rows are cleared and overwritten in place, row by row; then the checksum over what was written;
- `continuity`, `clearRows`: every active row continues its generation or starts a new one;
- `decodeLoop`: up to `max_steps` decoder calls with per-row early exit;
- `commit`: the decoder's caches and the active rows' metadata become resident.

What the call asks of its surroundings is a parameter: allocation outcomes, the decoder graph (`run_flow_model`, any
function of the call's index and its inputs) and the return codes of `SetOutput`.
-/
import Cruise.Controller.Abi

namespace Cruise.Controller

open Cruise.Lib

/-! ## State and platform -/

/-- resident_generation_ and its siblings -/
@[ext] structure Metadata where
  generation : Row → Int
  token : Row → Int
  position : Row → Int
  length : Row → Int
  valid : Row → Int

/-- the members of the UDF object; a null cache pointer is `none` -/
@[ext] structure Resident where
  key : Option Mem
  value : Option Mem
  metadata : Metadata

/-- the members once the caches are allocated -/
@[ext] structure Device where
  key : Mem
  value : Mem
  metadata : Metadata

def Device.toResident (d : Device) : Resident := ⟨some d.key, some d.value, d.metadata⟩

/-- `Init` of a fresh object -/
def init : Resident := ⟨none, none, ⟨fun _ => 0, fun _ => 0, fun _ => 0, fun _ => 0, fun _ => 0⟩⟩

structure ModelInputs where
  token : Row → Int
  position : Row → Int
  length : Row → Int
  key : Mem
  slot : Row → Int
  active : Row → Int
  block_table : ℕ → Int
  value : Mem
  tiling : Mem

structure ModelReply where
  ret : Int
  outputs : List (Option FlowMsg)

/-- the allocations a call makes outside the decode loop -/
structure Platform where
  /-- token history and control output -/
  alloc_outputs : Bool
  /-- the slot mapping an import computes for itself -/
  alloc_slot : Bool
  /-- a cache is handed out with whatever the memory held -/
  alloc_key : Option Mem
  alloc_value : Option Mem

/-- what the decode loop asks of its context -/
structure Env where
  /-- next token, length, slot and active mask of the n-th model call -/
  alloc_next : ℕ → Bool
  run_flow_model : ℕ → ModelInputs → ModelReply
  set_output : Fin 2 → Int

/-! ## Inputs -/

structure Inputs where
  max_steps : Int
  eos : Row → Int
  sampling_mode : Int
  graph_variant : Int
  importing : Bool
  import_mask : BitVec 32
  row_generation : Row → Int
  token : Row → Int
  position : Row → Int
  length : Row → Int
  slot : Row → Int
  active : Row → Int
  block_table : ℕ → Int
  tiling : Mem
  /-- inputs[0] of an import -/
  payload : Mem

def kImportGraphFlag : BitVec 32 := 0x100

/-- input count, output allocations and tensor ABI; `none` is `return FLOW_FUNC_FAILED` -/
def readInputs (plat : Platform) (inputs : List (Option FlowMsg)) : Option Inputs :=
  if inputs.length ≠ kInputCount then none
  else if !plat.alloc_outputs then none
  else
    let input (i : ℕ) : Option FlowMsg := (inputs[i]?).join
    match int32Data (input 7) kControlInputElements with
    | none => none
    | some input_control =>
      let encoded_graph_variant := BitVec.ofInt 32 (input_control (2 + 4))
      let importing : Bool := (encoded_graph_variant &&& kImportGraphFlag) != 0
      let import_mask := if importing then encoded_graph_variant &&& (kImportGraphFlag - 1) else 0
      let graph_variant :=
        if importing then (encoded_graph_variant &&& ~~~(kImportGraphFlag ||| 0xF)).toInt
        else input_control (2 + 4)
      let at_ (plain shifted : ℕ) := input (if importing then shifted else plain)
      match int64Data (at_ 0 1) 4, int64Data (at_ 1 2) 4, int32Data (at_ 2 3) 4, int32Data (at_ 4 4) 4,
        int32Data (at_ 5 5) (4 * kBlocksPerRequest), uint8Data (at_ 6 6) 72 with
      | some token, some position, some length, some active, some block_table, some tiling =>
        let slot : Option (ℕ → Int) :=
          if importing then
            if plat.alloc_slot then
              some fun i => if h : i < 4 then computeSlot block_table ⟨i, h⟩ (position i) else 0
            else none
          else int32Data (input 3) 4
        let payload : Option Mem :=
          if importing then uint8Data (input 0) kImportPayloadElements else some fun _ => 0
        match slot, payload with
        | some slot, some payload =>
          some {
            max_steps := input_control 0
            eos := fun r => input_control (1 + r)
            sampling_mode := input_control (1 + 4)
            graph_variant
            importing
            import_mask
            row_generation := fun r => input_control (kControlGenerationInputOffset + r)
            token := fun r => token r
            position := fun r => position r
            length := fun r => length r
            slot := fun r => slot r
            active := fun r => active r
            block_table
            tiling
            payload }
        | _, _ => none
      | _, _, _, _, _, _ => none

/-- both caches are allocated and zeroed when either pointer is null. On failure the object keeps whatever pointers the
two allocations returned. -/
def allocResident (plat : Platform) (s : Resident) : Except Resident Device :=
  match s.key, s.value with
  | some key, some value => .ok ⟨key, value, s.metadata⟩
  | _, _ =>
    match plat.alloc_key, plat.alloc_value with
    | some key, some value =>
      .ok ⟨memset key 0 0 (kCacheElements * 2), memset value 0 0 (kCacheElements * 2), s.metadata⟩
    | key, value => .error ⟨key, value, s.metadata⟩

/-! ## Emission -/

/-- the call's accumulators, as `emit` reads them -/
structure Locals where
  executed : Row → Int
  finish_reason : Row → FinishReason
  model_calls : ℕ
  import_checksum : UInt32
  history_tokens : ℕ → Int

def Locals.start : Locals := ⟨fun _ => 0, fun _ => .none, 0, 0, fun _ => -1⟩

/-- a per-row field of the control output -/
def writeRows (control : ℕ → Int) (offset : ℕ) (values : Row → Int) : ℕ → Int :=
  fun i => if h : offset ≤ i ∧ i < offset + 4 then values ⟨i - offset, by omega⟩ else control i

structure Emission where
  token_history : ℕ → Int
  control : ℕ → Int

/-- `static_cast<int32_t>` of the checksum -/
def checksumWord (checksum : UInt32) : Int := checksum.toBitVec.toInt

def emit (inp : Inputs) (loc : Locals) (status : Status) (final_active : Row → Int) : Emission :=
  let control : ℕ → Int := fun _ => 0
  let control := Function.update control 0 inp.max_steps
  let control := Function.update control 1 inp.sampling_mode
  let control := Function.update control 2 inp.graph_variant
  let control := Function.update control 3 status.code
  let control := Function.update control 4 loc.model_calls
  let control := Function.update control 5
    (if inp.importing then checksumWord loc.import_checksum else if status = .ok then 0 else 1)
  let control := writeRows control kControlEosOffset inp.eos
  let control := writeRows control kControlInitialActiveOffset inp.active
  let control := writeRows control kControlExecutedOffset loc.executed
  let control := writeRows control kControlReasonOffset fun r => (loc.finish_reason r).code
  let control := writeRows control kControlGenerationOutputOffset fun r =>
    if inp.active r = 1 then inp.row_generation r else 0
  let control := Function.update control kControlInitialCount (countActive inp.active)
  let control := Function.update control kControlFinalCount (countActive final_active)
  ⟨loc.history_tokens, control⟩

def fallback (inp : Inputs) (loc : Locals) (status : Status) : Emission :=
  emit inp { loc with finish_reason := fun _ => .fallback } status inp.active

section ControlWords

variable (inp : Inputs) (loc : Locals) (status : Status) (final_active : Row → Int)

@[simp] theorem emit_history : (emit inp loc status final_active).token_history = loc.history_tokens := rfl

@[simp] theorem emit_status : (emit inp loc status final_active).control 3 = status.code := rfl

@[simp] theorem emit_model_calls : (emit inp loc status final_active).control 4 = loc.model_calls := rfl

@[simp] theorem emit_checksum : (emit inp loc status final_active).control 5 =
    if inp.importing then checksumWord loc.import_checksum else if status = .ok then 0 else 1 := rfl

@[simp] theorem emit_executed (r : Row) :
    (emit inp loc status final_active).control (kControlExecutedOffset + r) = loc.executed r := by
  fin_cases r <;> rfl

@[simp] theorem emit_generation (r : Row) :
    (emit inp loc status final_active).control (kControlGenerationOutputOffset + r) =
      if inp.active r = 1 then inp.row_generation r else 0 := by
  fin_cases r <;> rfl

end ControlWords

/-! ## Validation -/

def checkHeader (inp : Inputs) : Except Status Unit :=
  if inp.max_steps < 1 ∨ inp.max_steps > kMaxEpochSteps ∨ inp.sampling_mode ≠ 0 ∨ inp.graph_variant ≠ 0 then
    if inp.sampling_mode ≠ 0 then .error .unsupportedSampling
    else if inp.graph_variant ≠ 0 then .error .unsupportedGraph
    else .error .invalidMetadata
  else .ok ()

def checkEos (inp : Inputs) : Except Status Unit :=
  rows.forM fun r => if inp.eos r < 0 ∨ inp.eos r ≥ kVocabSize then .error .invalidMetadata else .ok ()

/-- `seen_blocks` is the list of the blocks met so far -/
def checkBlockTable (inp : Inputs) : Except Status Unit :=
  ((List.range (4 * kBlocksPerRequest)).foldlM (fun (seen_blocks : List Int) index =>
    let block := inp.block_table index
    if block < 0 ∨ block ≥ kPhysicalBlocks ∨ block ∈ seen_blocks then Except.error Status.invalidBlockTable
    else Except.ok (block :: seen_blocks)) []).map fun _ => ()

/-- one row of the validation loop, with the finish reason it leaves behind -/
def checkRow (inp : Inputs) (r : Row) (finish_reason : FinishReason) : Except Status FinishReason := do
  if (inp.active r ≠ 0 ∧ inp.active r ≠ 1) ∨ inp.token r < 0 ∨ inp.token r ≥ kVocabSize ∨
      inp.position r < 0 ∨ inp.position r ≥ kLogicalCapacity then .error Status.invalidMetadata
  let reason ←
    if inp.active r = 1 then
      if inp.row_generation r ≤ 0 then .error .invalidMetadata
      else if inp.length r ≠ inp.position r + 1 then .error .invalidMetadata
      else if inp.position r + inp.max_steps > kLogicalCapacity then .error .capacityExceeded
      else .ok finish_reason
    else if inp.length r = 0 then
      if inp.row_generation r ≠ 0 then .error .invalidMetadata else .ok .empty
    else if inp.length r = inp.position r + 1 then .ok .alreadyFinished
    else .error .invalidMetadata
  if computeSlot inp.block_table r (inp.position r) ≠ inp.slot r then .error Status.slotMismatch
  .ok reason

def checkRows (inp : Inputs) : Except Status (Row → FinishReason) :=
  rows.foldlM (fun finish_reason r => do
    let reason ← checkRow inp r (finish_reason r)
    .ok (Function.update finish_reason r reason)) Locals.start.finish_reason

def validate (inp : Inputs) : Except Status (Row → FinishReason) := do
  checkHeader inp
  checkEos inp
  checkBlockTable inp
  checkRows inp

/-! ## Import, continuity and clearing -/

def masked (inp : Inputs) (r : Row) : Bool := (inp.import_mask &&& (1 <<< r.val)) != 0

/-- the 28 block copies of one imported row; `origin` is where the cache's half of the payload starts -/
def copyRow (cache payload : Mem) (origin : ℕ) (r : Row) : Mem :=
  (List.range kLayers).foldl (fun c layer =>
    memcpy c ((layer * kPhysicalBlocks + r * kBlocksPerRequest) * kBlockBytes)
      payload (origin + (layer * 4 + r) * kBlockBytes) kBlockBytes) cache

def importRow (inp : Inputs) (d : Device) (r : Row) : Device where
  key := copyRow (clearCacheRow d.key r) inp.payload 0 r
  value := copyRow (clearCacheRow d.value r) inp.payload (kImportCacheElements * 2) r
  metadata := {
    generation := Function.update d.metadata.generation r (inp.row_generation r)
    token := Function.update d.metadata.token r (inp.token r)
    position := Function.update d.metadata.position r (inp.position r)
    length := Function.update d.metadata.length r (inp.length r)
    valid := Function.update d.metadata.valid r 1 }

/-- the import loop: the device as it stands when the loop ends or refuses a row -/
def importRows (inp : Inputs) (d : Device) : List Row → Device × Except Status Unit
  | [] => (d, .ok ())
  | r :: rest =>
    if masked inp r = false then importRows inp d rest
    else if inp.active r ≠ 1 ∨ inp.row_generation r ≤ 0 then (d, .error .invalidMetadata)
    else importRows inp (importRow inp d r) rest

def checksumRow (inp : Inputs) (cache : Mem) (layer : ℕ) (s : UInt32 × UInt32) (r : Row) : UInt32 × UInt32 :=
  if masked inp r = false then s
  else adler32Update cache ((layer * kPhysicalBlocks + r * kBlocksPerRequest) * kBlockBytes) kBlockBytes s

def checksumCache (inp : Inputs) (cache : Mem) (s : UInt32 × UInt32) : UInt32 × UInt32 :=
  (List.range kLayers).foldl (fun s layer => rows.foldl (checksumRow inp cache layer) s) s

/-- Adler-32 over the destination blocks: key cache then value cache, layer by layer, masked rows in order -/
def importChecksum (inp : Inputs) (d : Device) : UInt32 :=
  let sums := checksumCache inp d.value (checksumCache inp d.key (1, 0))
  (sums.2 <<< 16) ||| sums.1

def importPhase (inp : Inputs) (d : Device) : Device × Except Status UInt32 :=
  if inp.importing = false then (d, .ok 0)
  else if inp.import_mask.toInt ≤ 0 ∨ inp.import_mask.toInt ≥ 16 then (d, .error .invalidMetadata)
  else
    match importRows inp d rows with
    | (d', .error status) => (d', .error status)
    | (d', .ok ()) => (d', .ok (importChecksum inp d'))

/-- `true` when the row starts a new generation -/
def continuityRow (m : Metadata) (inp : Inputs) (r : Row) : Except Status Bool :=
  if inp.active r = 0 then .ok false
  else if m.generation r = inp.row_generation r then
    if m.valid r = 0 ∨ m.token r ≠ inp.token r ∨ m.position r ≠ inp.position r ∨ m.length r ≠ inp.length r then
      .error .residentContinuity
    else .ok false
  else if inp.position r ≠ 0 ∨ inp.length r ≠ 1 then .error .residentContinuity
  else .ok true

def continuity (m : Metadata) (inp : Inputs) : Except Status (Row → Bool) :=
  rows.foldlM (fun new_generation r => do
    let fresh ← continuityRow m inp r
    .ok (Function.update new_generation r fresh)) fun _ => false

def clearRows (d : Device) (new_generation : Row → Bool) : Device :=
  rows.foldl (fun d r =>
    if new_generation r = false then d
    else { d with key := clearCacheRow d.key r, value := clearCacheRow d.value r }) d

/-! ## Decode loop -/

/-- the `current_*` tensors and the accumulators of the decode loop -/
structure Decode where
  token : Row → Int
  position : Row → Int
  length : Row → Int
  slot : Row → Int
  active : Row → Int
  key : Mem
  value : Mem
  position_values : Row → Int
  loc : Locals

def Decode.start (d : Device) (inp : Inputs) (loc : Locals) : Decode where
  token := inp.token
  position := inp.position
  length := inp.length
  slot := inp.slot
  active := inp.active
  key := d.key
  value := d.value
  position_values := inp.position
  loc := loc

def Decode.modelInputs (s : Decode) (inp : Inputs) : ModelInputs where
  token := s.token
  position := s.position
  length := s.length
  key := s.key
  slot := s.slot
  active := s.active
  block_table := inp.block_table
  value := s.value
  tiling := inp.tiling

structure DecoderOutputs where
  logits : ℕ → Logit
  key : Mem
  value : Mem
  position : Row → Int

def decoderOutputs (outputs : List (Option FlowMsg)) : Option DecoderOutputs :=
  match outputs with
  | [o0, o1, o2, o3] =>
    match floatData o0 (4 * kVocabSize), bf16Data o1 kCacheElements, bf16Data o2 kCacheElements, int64Data o3 4 with
    | some logits, some key, some value, some position => some ⟨logits, key, value, fun r => position r⟩
    | _, _, _, _ => none
  | _ => none

/-- what the row loop of one decoder call writes: the `next_*` tensors and the accumulators -/
structure RowWrites where
  token : Row → Int
  length : Row → Int
  slot : Row → Int
  active : Row → Int
  position_values : Row → Int
  loc : Locals

/-- the history entry and the step count of a generated token -/
def recordToken (loc : Locals) (r : Row) (generated_token : Int) : Locals :=
  { loc with
    history_tokens := Function.update loc.history_tokens ((loc.model_calls - 1) * 4 + r) generated_token
    executed := Function.update loc.executed r (loc.executed r + 1) }

/-- the slot of the next position; -1 once the capacity is reached -/
def nextSlot (inp : Inputs) (r : Row) (position : Int) : Int :=
  if position = kLogicalCapacity then -1 else computeSlot inp.block_table r position

/-- a row that generated a token: what its next decoder call will read, unless the token is its EOS -/
def advanceRow (inp : Inputs) (w : RowWrites) (r : Row) (generated_token position : Int) : RowWrites :=
  let loc := recordToken w.loc r generated_token
  { token := Function.update w.token r generated_token
    length := Function.update w.length r (position + 1)
    slot := Function.update w.slot r (nextSlot inp r position)
    active := if generated_token = inp.eos r then Function.update w.active r 0 else w.active
    position_values := Function.update w.position_values r position
    loc := if generated_token = inp.eos r then
      { loc with finish_reason := Function.update loc.finish_reason r .eos } else loc }

/-- one row after a decoder call; `active` is the mask the call ran with -/
def decodeRow (inp : Inputs) (out : DecoderOutputs) (active : Row → Int) (w : RowWrites) (r : Row) :
    Except (Status × Locals) RowWrites :=
  if active r = 0 then
    if out.position r ≠ w.position_values r then .error (.positionProgress, w.loc) else .ok w
  else
    match argmaxFinite out.logits r with
    | none => .error (.nonFiniteLogits, w.loc)
    | some generated_token =>
      if out.position r ≠ w.position_values r + 1 then .error (.positionProgress, w.loc)
      else if out.position r ≠ kLogicalCapacity ∧ computeSlot inp.block_table r (out.position r) < 0 then
        .error (.capacityExceeded, recordToken w.loc r generated_token)
      else .ok (advanceRow inp w r generated_token (out.position r))

def Decode.rowWrites (s : Decode) : RowWrites :=
  ⟨s.token, s.length, s.slot, s.active, s.position_values, { s.loc with model_calls := s.loc.model_calls + 1 }⟩

/-- one iteration of the decode loop -/
def decodeStep (env : Env) (inp : Inputs) (s : Decode) : Except (Status × Locals) Decode :=
  let reply := env.run_flow_model s.loc.model_calls (s.modelInputs inp)
  let loc := s.rowWrites.loc
  if reply.ret ≠ FLOW_FUNC_SUCCESS then .error (.modelError, loc)
  else
    match decoderOutputs reply.outputs with
    | none => .error (.invalidModelOutput, loc)
    | some out =>
      if !env.alloc_next s.loc.model_calls then .error (.allocationFailure, loc)
      else do
        let w ← rows.foldlM (decodeRow inp out s.active) s.rowWrites
        .ok {
          token := w.token
          position := out.position
          length := w.length
          slot := w.slot
          active := w.active
          key := out.key
          value := out.value
          position_values := w.position_values
          loc := w.loc }

/-- `while (model_calls < max_steps)`; the fuel is `max_steps - model_calls` -/
def decodeLoop (env : Env) (inp : Inputs) : ℕ → Decode → Except (Status × Locals) Decode
  | 0, s => .ok s
  | fuel + 1, s =>
    if countActive s.active = 0 then .ok s
    else do
      let s' ← decodeStep env inp s
      decodeLoop env inp fuel s'

/-! ## The call -/

/-- rows that were active and did not stop at EOS ran out of steps -/
def finishMaxSteps (inp : Inputs) (finish_reason : Row → FinishReason) : Row → FinishReason :=
  fun r => if inp.active r = 1 ∧ finish_reason r = .none then .maxSteps else finish_reason r

def commit (d : Device) (inp : Inputs) (s : Decode) : Device where
  key := s.key
  value := s.value
  metadata := {
    generation := fun r => if inp.active r = 0 then d.metadata.generation r else inp.row_generation r
    token := fun r => if inp.active r = 0 then d.metadata.token r else s.token r
    position := fun r => if inp.active r = 0 then d.metadata.position r else s.position r
    length := fun r => if inp.active r = 0 then d.metadata.length r else s.length r
    valid := fun r => if inp.active r = 0 then d.metadata.valid r else 1 }

/-- everything before the first decoder call: validation, import, continuity and the clearing of new generations -/
def prepare (inp : Inputs) (d : Device) : Device × Except (Status × Locals) Locals :=
  let loc := Locals.start
  match validate inp with
  | .error status => (d, .error (status, loc))
  | .ok finish_reason =>
    let loc := { loc with finish_reason }
    match importPhase inp d with
    | (d, .error status) => (d, .error (status, loc))
    | (d, .ok import_checksum) =>
      let loc := { loc with import_checksum }
      match continuity d.metadata inp with
      | .error status => (d, .error (status, loc))
      | .ok new_generation => (clearRows d new_generation, .ok loc)

/-- `Proc` on inputs that passed the tensor ABI, with the caches allocated: the members afterwards, the emitted status
and the emitted tensors -/
def epoch (env : Env) (inp : Inputs) (d : Device) : Device × Status × Emission :=
  match prepare inp d with
  | (d, .error (status, loc)) => (d, status, fallback inp loc status)
  | (d, .ok loc) =>
    match decodeLoop env inp inp.max_steps.toNat (Decode.start d inp loc) with
    | .error (status, loc) => (d, status, fallback inp loc status)
    | .ok s =>
      let loc := { s.loc with finish_reason := finishMaxSteps inp s.loc.finish_reason }
      (commit d inp s, .ok, emit inp loc .ok s.active)

structure Outcome where
  ret : Int
  /-- the two tensors, when both `SetOutput` calls succeeded -/
  emitted : Option Emission
  resident : Resident

def proc (plat : Platform) (env : Env) (s : Resident) (inputs : List (Option FlowMsg)) : Outcome :=
  match readInputs plat inputs with
  | none => ⟨FLOW_FUNC_FAILED, none, s⟩
  | some inp =>
    match allocResident plat s with
    | .error s' => ⟨FLOW_FUNC_FAILED, none, s'⟩
    | .ok d =>
      let (d', _, emission) := epoch env inp d
      if env.set_output 0 ≠ FLOW_FUNC_SUCCESS then ⟨env.set_output 0, none, d'.toResident⟩
      else if env.set_output 1 ≠ FLOW_FUNC_SUCCESS then ⟨env.set_output 1, none, d'.toResident⟩
      else ⟨FLOW_FUNC_SUCCESS, some emission, d'.toResident⟩

end Cruise.Controller
