/-
The Device UDF with ten inputs and ten outputs (`controller-old/g4c_b4_resident_epoch.cpp`), and its equivalence with the
minimal one.

MODEL. The checks, the clearing of rows, the members and the decoder's interface are the same text in both files and are
the definitions of `Proc`, used on inputs that import nothing. What differs is modelled here: the input indices, the
caches' first contents, the history of logits, and the ten outputs.
- `decodeLoop_forget`: the decode loops run in lock step, the history of logits aside.
- `call_agrees`: one call of both, from the same members, returns the same, emits the same history and control words, and
  leaves the same members.
- `runs_agree`: so do all calls of a run, when every call that finds the old object without caches carries zeros. Zeros in
  the first call are enough when that call gets to the caches (`zeroUntilAllocated_of_first`).
- `late_caches_differ`: a first call refused before the caches are allocated leaves that to a later one, and then the old
  object copies whatever that one carries.
-/
import Cruise.Controller.Sessions

namespace Cruise.ControllerOld

open Cruise.Lib Cruise.Controller

/-! ## Model -/

def kInputCount : ℕ := 10

structure Platform extends Controller.Platform where
  /-- the history of logits -/
  alloc_logits : Bool

structure Env where
  alloc_next : ℕ → Bool
  run_flow_model : ℕ → ModelInputs → ModelReply
  set_output : Fin 10 → Int

structure Inputs where
  max_steps : Int
  eos : Row → Int
  sampling_mode : Int
  graph_variant : Int
  row_generation : Row → Int
  token : Row → Int
  position : Row → Int
  length : Row → Int
  slot : Row → Int
  active : Row → Int
  block_table : ℕ → Int
  tiling : Mem
  key : Mem
  value : Mem

/-- the inputs that both UDFs have -/
def Inputs.common (inp : Inputs) : Controller.Inputs where
  max_steps := inp.max_steps
  eos := inp.eos
  sampling_mode := inp.sampling_mode
  graph_variant := inp.graph_variant
  importing := false
  import_mask := 0
  row_generation := inp.row_generation
  token := inp.token
  position := inp.position
  length := inp.length
  slot := inp.slot
  active := inp.active
  block_table := inp.block_table
  tiling := inp.tiling
  payload := fun _ => 0

def readInputs (plat : Platform) (inputs : List (Option FlowMsg)) : Option Inputs :=
  if inputs.length ≠ kInputCount then none
  else if !(plat.alloc_logits && plat.alloc_outputs) then none
  else
    let input (i : ℕ) : Option FlowMsg := (inputs[i]?).join
    match int64Data (input 0) 4, int64Data (input 1) 4, int32Data (input 2) 4, bf16Data (input 3) kCacheElements,
      int32Data (input 4) 4, int32Data (input 5) 4, int32Data (input 6) (4 * kBlocksPerRequest),
      bf16Data (input 7) kCacheElements, uint8Data (input 8) 72, int32Data (input 9) kControlInputElements with
    | some token, some position, some length, some key, some slot, some active, some block_table, some value, some tiling,
      some input_control =>
      some {
        max_steps := input_control 0
        eos := fun r => input_control (1 + r)
        sampling_mode := input_control (1 + 4)
        graph_variant := input_control (2 + 4)
        row_generation := fun r => input_control (kControlGenerationInputOffset + r)
        token := fun r => token r
        position := fun r => position r
        length := fun r => length r
        slot := fun r => slot r
        active := fun r => active r
        block_table, tiling, key, value }
    | _, _, _, _, _, _, _, _, _, _ => none

/-- the caches start as copies of the first call's -/
def allocResident (plat : Platform) (s : Resident) (inp : Inputs) : Except Resident Device :=
  match s.key, s.value with
  | some key, some value => .ok ⟨key, value, s.metadata⟩
  | _, _ =>
    match plat.alloc_key, plat.alloc_value with
    | some key, some value =>
      .ok ⟨memcpy key 0 inp.key 0 (kCacheElements * 2), memcpy value 0 inp.value 0 (kCacheElements * 2), s.metadata⟩
    | key, value => .error ⟨key, value, s.metadata⟩

/-- the ten outputs -/
structure Emission where
  logits_history : ℕ → Logit
  token_history : ℕ → Int
  final_key : Mem
  final_value : Mem
  final_token : Row → Int
  final_position : Row → Int
  final_length : Row → Int
  final_slot : Row → Int
  final_active : Row → Int
  control : ℕ → Int

def controlOutput (inp : Inputs) (loc : Locals) (status : Status) (final_active : Row → Int) : ℕ → Int :=
  let control : ℕ → Int := fun _ => 0
  let control := Function.update control 0 inp.max_steps
  let control := Function.update control 1 inp.sampling_mode
  let control := Function.update control 2 inp.graph_variant
  let control := Function.update control 3 status.code
  let control := Function.update control 4 loc.model_calls
  let control := Function.update control 5 (if status = .ok then 0 else 1)
  let control := writeRows control kControlEosOffset inp.eos
  let control := writeRows control kControlInitialActiveOffset inp.active
  let control := writeRows control kControlExecutedOffset loc.executed
  let control := writeRows control kControlReasonOffset fun r => (loc.finish_reason r).code
  let control := writeRows control kControlGenerationOutputOffset fun r =>
    if inp.active r = 1 then inp.row_generation r else 0
  let control := Function.update control kControlInitialCount (countActive inp.active)
  Function.update control kControlFinalCount (countActive final_active)

/-- `emit` on the tensors of the decode loop -/
def emit (inp : Inputs) (s : Decode) (logits_history : ℕ → Logit) (status : Status) : Emission where
  logits_history := logits_history
  token_history := s.loc.history_tokens
  final_key := s.key
  final_value := s.value
  final_token := s.token
  final_position := s.position
  final_length := s.length
  final_slot := s.slot
  final_active := s.active
  control := controlOutput inp s.loc status s.active

/-- `fallback` emits the resident caches and the call's own tensors -/
def fallback (inp : Inputs) (d : Device) (loc : Locals) (logits_history : ℕ → Logit) (status : Status) : Emission :=
  emit inp (Decode.start d inp.common { loc with finish_reason := fun _ => .fallback }) logits_history status

abbrev LogitsHistory := ℕ → Logit

/-- the copy of a row's logits into the history -/
def recordLogits (logits_history : LogitsHistory) (model_calls : ℕ) (r : Row) (step_logits : ℕ → Logit) : LogitsHistory :=
  let history_offset := ((model_calls - 1) * 4 + r) * kVocabSize
  fun i =>
    if history_offset ≤ i ∧ i < history_offset + kVocabSize then step_logits (r * kVocabSize + (i - history_offset))
    else logits_history i

def decodeRow (inp : Inputs) (out : DecoderOutputs) (active : Row → Int) (w : RowWrites × LogitsHistory) (r : Row) :
    Except (Status × Locals × LogitsHistory) (RowWrites × LogitsHistory) :=
  if active r = 0 then
    if out.position r ≠ w.1.position_values r then .error (.positionProgress, w.1.loc, w.2) else .ok w
  else
    match argmaxFinite out.logits r with
    | none => .error (.nonFiniteLogits, w.1.loc, w.2)
    | some generated_token =>
      if out.position r ≠ w.1.position_values r + 1 then .error (.positionProgress, w.1.loc, w.2)
      else
        let logits_history := recordLogits w.2 w.1.loc.model_calls r out.logits
        if out.position r ≠ kLogicalCapacity ∧ computeSlot inp.block_table r (out.position r) < 0 then
          .error (.capacityExceeded, recordToken w.1.loc r generated_token, logits_history)
        else .ok (advanceRow inp.common w.1 r generated_token (out.position r), logits_history)

def decodeStep (env : Env) (inp : Inputs) (s : Decode × LogitsHistory) :
    Except (Status × Locals × LogitsHistory) (Decode × LogitsHistory) :=
  let reply := env.run_flow_model s.1.loc.model_calls (s.1.modelInputs inp.common)
  let loc := s.1.rowWrites.loc
  if reply.ret ≠ FLOW_FUNC_SUCCESS then .error (.modelError, loc, s.2)
  else
    match decoderOutputs reply.outputs with
    | none => .error (.invalidModelOutput, loc, s.2)
    | some out =>
      if !env.alloc_next s.1.loc.model_calls then .error (.allocationFailure, loc, s.2)
      else do
        let (w, logits_history) ← rows.foldlM (decodeRow inp out s.1.active) (s.1.rowWrites, s.2)
        .ok ({
          token := w.token
          position := out.position
          length := w.length
          slot := w.slot
          active := w.active
          key := out.key
          value := out.value
          position_values := w.position_values
          loc := w.loc }, logits_history)

def decodeLoop (env : Env) (inp : Inputs) : ℕ → Decode × LogitsHistory →
    Except (Status × Locals × LogitsHistory) (Decode × LogitsHistory)
  | 0, s => .ok s
  | fuel + 1, s =>
    if countActive s.1.active = 0 then .ok s
    else do
      let s' ← decodeStep env inp s
      decodeLoop env inp fuel s'

/-- everything before the first decoder call -/
def prepare (inp : Inputs) (d : Device) : Device × Except (Status × Locals) Locals :=
  let loc := Locals.start
  match validate inp.common with
  | .error status => (d, .error (status, loc))
  | .ok finish_reason =>
    let loc := { loc with finish_reason }
    match continuity d.metadata inp.common with
    | .error status => (d, .error (status, loc))
    | .ok new_generation => (clearRows d new_generation, .ok loc)

def epoch (env : Env) (inp : Inputs) (d : Device) : Device × Status × Emission :=
  let logits_history : LogitsHistory := fun _ => some 0
  match prepare inp d with
  | (d, .error (status, loc)) => (d, status, fallback inp d loc logits_history status)
  | (d, .ok loc) =>
    match decodeLoop env inp inp.max_steps.toNat (Decode.start d inp.common loc, logits_history) with
    | .error (status, loc, logits_history) => (d, status, fallback inp d loc logits_history status)
    | .ok (s, logits_history) =>
      let loc := { s.loc with finish_reason := finishMaxSteps inp.common s.loc.finish_reason }
      (commit d inp.common s, .ok, emit inp { s with loc } logits_history .ok)

structure Outcome where
  ret : Int
  emitted : Option Emission
  resident : Resident

def proc (plat : Platform) (env : Env) (s : Resident) (inputs : List (Option FlowMsg)) : Outcome :=
  match readInputs plat inputs with
  | none => ⟨FLOW_FUNC_FAILED, none, s⟩
  | some inp =>
    match allocResident plat s inp with
    | .error s' => ⟨FLOW_FUNC_FAILED, none, s'⟩
    | .ok d =>
      let (d', _, emission) := epoch env inp d
      match (List.finRange 10).find? fun index => env.set_output index ≠ FLOW_FUNC_SUCCESS with
      | some index => ⟨env.set_output index, none, d'.toResident⟩
      | none => ⟨FLOW_FUNC_SUCCESS, some emission, d'.toResident⟩

/-! ## Lock step -/

/-- an early exit of the decode loop, without the history of logits -/
def withoutLogits (e : Status × Locals × LogitsHistory) : Status × Locals := (e.1, e.2.1)

/-- what the minimal UDF asks of the same surroundings -/
def Env.minimal (env : Env) : Controller.Env where
  alloc_next := env.alloc_next
  run_flow_model := env.run_flow_model
  set_output := ![env.set_output 1, env.set_output 9]

def Emission.minimal (e : Emission) : Controller.Emission := ⟨e.token_history, e.control⟩

section LockStep

variable (env : Env) (inp : Inputs)

theorem decodeRow_forget (out : DecoderOutputs) (active : Row → Int) (w : RowWrites × LogitsHistory) (r : Row) :
    forget Prod.fst withoutLogits (decodeRow inp out active w r) =
      Controller.decodeRow inp.common out active w.1 r := by
  unfold decodeRow Controller.decodeRow
  by_cases hactive : active r = 0
  · rw [if_pos hactive, if_pos hactive]
    by_cases hkept : out.position r ≠ w.1.position_values r
    · rw [if_pos hkept, if_pos hkept]
      rfl
    · rw [if_neg hkept, if_neg hkept]
      rfl
  · rw [if_neg hactive, if_neg hactive]
    cases argmaxFinite out.logits r with
    | none => rfl
    | some generated_token =>
      dsimp only
      by_cases hprogress : out.position r ≠ w.1.position_values r + 1
      · rw [if_pos hprogress, if_pos hprogress]
        rfl
      · rw [if_neg hprogress, if_neg hprogress]
        change forget Prod.fst withoutLogits (if out.position r ≠ kLogicalCapacity ∧
          computeSlot inp.block_table r (out.position r) < 0 then _ else _) =
          if out.position r ≠ kLogicalCapacity ∧ computeSlot inp.block_table r (out.position r) < 0 then _ else _
        by_cases hslot : out.position r ≠ kLogicalCapacity ∧ computeSlot inp.block_table r (out.position r) < 0
        · rw [if_pos hslot, if_pos hslot]
          rfl
        · rw [if_neg hslot, if_neg hslot]
          rfl

theorem decodeStep_forget (s : Decode × LogitsHistory) :
    forget Prod.fst withoutLogits (decodeStep env inp s) = Controller.decodeStep env.minimal inp.common s.1 := by
  unfold decodeStep Controller.decodeStep
  change forget Prod.fst withoutLogits
    (if (env.run_flow_model s.1.loc.model_calls (s.1.modelInputs inp.common)).ret ≠ FLOW_FUNC_SUCCESS then _ else _) =
    if (env.run_flow_model s.1.loc.model_calls (s.1.modelInputs inp.common)).ret ≠ FLOW_FUNC_SUCCESS then _ else _
  by_cases hret : (env.run_flow_model s.1.loc.model_calls (s.1.modelInputs inp.common)).ret ≠ FLOW_FUNC_SUCCESS
  · rw [if_pos hret, if_pos hret]
    rfl
  · rw [if_neg hret, if_neg hret]
    change forget Prod.fst withoutLogits
      (match decoderOutputs (env.run_flow_model s.1.loc.model_calls (s.1.modelInputs inp.common)).outputs with
        | none => _ | some out => _) =
      match decoderOutputs (env.run_flow_model s.1.loc.model_calls (s.1.modelInputs inp.common)).outputs with
        | none => _ | some out => _
    cases decoderOutputs (env.run_flow_model s.1.loc.model_calls (s.1.modelInputs inp.common)).outputs with
    | none => rfl
    | some out =>
      dsimp only
      change forget Prod.fst withoutLogits (if !env.alloc_next s.1.loc.model_calls then _ else _) =
        if !env.alloc_next s.1.loc.model_calls then _ else _
      cases env.alloc_next s.1.loc.model_calls with
      | false => rfl
      | true =>
        exact forget_bind (foldlM_forget (decodeRow_forget inp out s.1.active) rows (s.1.rowWrites, s.2))
          fun w _ => rfl

theorem decodeLoop_forget (fuel : ℕ) (s : Decode × LogitsHistory) :
    forget Prod.fst withoutLogits (decodeLoop env inp fuel s) =
      Controller.decodeLoop env.minimal inp.common fuel s.1 := by
  induction fuel generalizing s with
  | zero => rfl
  | succ fuel ih =>
    unfold decodeLoop Controller.decodeLoop
    by_cases hactive : countActive s.1.active = 0
    · rw [if_pos hactive, if_pos hactive]
      rfl
    · rw [if_neg hactive, if_neg hactive]
      exact forget_bind (decodeStep_forget env inp s) fun s' _ => ih s'

theorem prepare_minimal (d : Device) : Controller.prepare inp.common d = prepare inp d := by
  unfold prepare Controller.prepare
  cases validate inp.common with
  | error status => rfl
  | ok finish_reason =>
    have himport : importPhase inp.common d = (d, .ok 0) := if_pos rfl
    dsimp only
    rw [himport]
    rfl

/-- one epoch of both: the same members afterwards, the same status, the same two outputs -/
theorem epoch_minimal (d : Device) :
    Controller.epoch env.minimal inp.common d =
      ((epoch env inp d).1, (epoch env inp d).2.1, (epoch env inp d).2.2.minimal) := by
  unfold Controller.epoch epoch
  rw [prepare_minimal]
  rcases prepare inp d with ⟨d1, ⟨status, loc⟩ | loc⟩
  · rfl
  · have hloop : _ = Controller.decodeLoop env.minimal inp.common inp.common.max_steps.toNat (Decode.start d1 inp.common loc) :=
      decodeLoop_forget env inp inp.max_steps.toNat (Decode.start d1 inp.common loc, fun _ => some 0)
    dsimp only
    rw [← hloop]
    rcases decodeLoop env inp inp.max_steps.toNat (Decode.start d1 inp.common loc, fun _ => some 0) with
      ⟨status, loc', logits_history⟩ | ⟨s, logits_history⟩
    · rfl
    · rfl

end LockStep

/-! ## Calls -/

/-- one call: the old UDF's ten inputs and what it asks of its surroundings -/
structure Call where
  plat : Platform
  env : Env
  inputs : List (Option FlowMsg)

/-- the minimal UDF's inputs: no caches -/
def Call.minimal (c : Call) : List (Option FlowMsg) := (c.inputs.eraseIdx 7).eraseIdx 3

/-- well-formed caches among the ten inputs, and no import flag -/
structure Call.Plain (c : Call) : Prop where
  count : c.inputs.length = kInputCount
  key : (bf16Data (c.inputs[3]?).join kCacheElements).isSome
  value : (bf16Data (c.inputs[7]?).join kCacheElements).isSome
  no_import : ∀ input_control, int32Data (c.inputs[9]?).join kControlInputElements = some input_control →
    BitVec.ofInt 32 (input_control 6) &&& kImportGraphFlag = 0

/-- what only the old UDF asks for is granted: the history of logits, and the outputs the minimal one does not have -/
structure Call.Granted (c : Call) : Prop where
  logits : c.plat.alloc_logits = true
  outputs : ∀ index, index ≠ 1 → index ≠ 9 → c.env.set_output index = FLOW_FUNC_SUCCESS

/-- the caches among the inputs hold zeros -/
def Call.zeroCaches (c : Call) : Prop :=
  ∀ m, bf16Data (c.inputs[3]?).join kCacheElements = some m ∨ bf16Data (c.inputs[7]?).join kCacheElements = some m →
    ∀ a < kCacheElements * 2, m a = 0

def Call.old (c : Call) (s : Resident) : Outcome := proc c.plat c.env s c.inputs

def Call.new (c : Call) (s : Resident) : Controller.Outcome :=
  Controller.proc c.plat.toPlatform c.env.minimal s c.minimal

/-- the same return code, token history, control output and members -/
structure Agree (o : Outcome) (o' : Controller.Outcome) : Prop where
  ret : o'.ret = o.ret
  emitted : o'.emitted = o.emitted.map Emission.minimal
  resident : o'.resident = o.resident

theorem memcpy_zeros {m src : Mem} {count : ℕ} (h : ∀ a < count, src a = 0) :
    memcpy m 0 src 0 count = memset m 0 0 count := by
  funext a
  unfold memcpy memset
  by_cases ha : 0 ≤ a ∧ a < 0 + count
  · rw [if_pos ha, if_pos ha]
    exact h _ (by omega)
  · rw [if_neg ha, if_neg ha]

theorem readInputs_messages {plat : Platform} (hlogits : plat.alloc_logits = true)
    {i0 i1 i2 i3 i4 i5 i6 i7 i8 i9 : Option FlowMsg} (hkey : (bf16Data i3 kCacheElements).isSome)
    (hvalue : (bf16Data i7 kCacheElements).isSome)
    (hplain : ∀ input_control, int32Data i9 kControlInputElements = some input_control →
      BitVec.ofInt 32 (input_control 6) &&& kImportGraphFlag = 0) :
    Controller.readInputs plat.toPlatform [i0, i1, i2, i4, i5, i6, i8, i9] =
      (readInputs plat [i0, i1, i2, i3, i4, i5, i6, i7, i8, i9]).map Inputs.common := by
  obtain ⟨key, hkey⟩ := Option.isSome_iff_exists.1 hkey
  obtain ⟨value, hvalue⟩ := Option.isSome_iff_exists.1 hvalue
  have hcount : ¬[i0, i1, i2, i4, i5, i6, i8, i9].length ≠ Controller.kInputCount := not_not.2 rfl
  have hcount' : ¬[i0, i1, i2, i3, i4, i5, i6, i7, i8, i9].length ≠ kInputCount := not_not.2 rfl
  unfold Controller.readInputs readInputs
  rw [if_neg hcount, if_neg hcount', hlogits, Bool.true_and]
  cases plat.alloc_outputs with
  | false => rfl
  | true =>
    dsimp only [Bool.not_true]
    rw [if_neg (by decide), if_neg (by decide)]
    simp only [List.getElem?_cons_zero, List.getElem?_cons_succ, Option.join_some]
    rw [hkey, hvalue]
    cases hcontrol : int32Data i9 kControlInputElements with
    | none =>
      dsimp only
      split
      · contradiction
      · rfl
    | some input_control =>
      have himporting : (BitVec.ofInt 32 (input_control (2 + 4)) &&& kImportGraphFlag != 0) = false := by
        rw [hplain input_control hcontrol]
        rfl
      dsimp only
      simp only [himporting, Bool.false_eq_true, if_false, List.getElem?_cons_zero, List.getElem?_cons_succ,
        Option.join_some]
      rcases int64Data i0 4 with _ | token
      · rfl
      rcases int64Data i1 4 with _ | position
      · rfl
      rcases int32Data i2 4 with _ | length
      · rfl
      rcases int32Data i5 4 with _ | active
      · rcases int32Data i4 4 with _ | slot <;> rfl
      rcases int32Data i6 (4 * kBlocksPerRequest) with _ | block_table
      · rcases int32Data i4 4 with _ | slot <;> rfl
      rcases uint8Data i8 72 with _ | tiling
      · rcases int32Data i4 4 with _ | slot <;> rfl
      rcases int32Data i4 4 with _ | slot
      · rfl
      · rfl

theorem list_of_length_ten {α : Type} {l : List α} (h : l.length = 10) :
    ∃ a0 a1 a2 a3 a4 a5 a6 a7 a8 a9, l = [a0, a1, a2, a3, a4, a5, a6, a7, a8, a9] := by
  match l, h with
  | [a0, a1, a2, a3, a4, a5, a6, a7, a8, a9], _ => exact ⟨a0, a1, a2, a3, a4, a5, a6, a7, a8, a9, rfl⟩

/-- both read the same of the inputs they share, or refuse both -/
theorem readInputs_minimal {c : Call} (hplain : c.Plain) (hlogits : c.plat.alloc_logits = true) :
    Controller.readInputs c.plat.toPlatform c.minimal = (readInputs c.plat c.inputs).map Inputs.common := by
  obtain ⟨i0, i1, i2, i3, i4, i5, i6, i7, i8, i9, hinputs⟩ := list_of_length_ten hplain.count
  have hkey := hplain.key
  have hvalue := hplain.value
  have hflag := hplain.no_import
  rw [hinputs] at hkey hvalue hflag
  unfold Call.minimal
  rw [hinputs]
  exact readInputs_messages hlogits hkey hvalue hflag

theorem readInputs_caches {plat : Platform} {inputs : List (Option FlowMsg)} {inp : Inputs}
    (h : readInputs plat inputs = some inp) :
    bf16Data (inputs[3]?).join kCacheElements = some inp.key ∧
      bf16Data (inputs[7]?).join kCacheElements = some inp.value := by
  unfold readInputs at h
  by_cases hcount : inputs.length ≠ kInputCount
  · rw [if_pos hcount] at h
    cases h
  · rw [if_neg hcount] at h
    by_cases halloc : (!(plat.alloc_logits && plat.alloc_outputs)) = true
    · rw [if_pos halloc] at h
      cases h
    · rw [if_neg halloc] at h
      dsimp only at h
      split at h
      · rename_i hkey _ _ _ hvalue _ _
        cases h
        exact ⟨hkey, hvalue⟩
      · cases h

/-- the caches the old UDF copies from its inputs are the zeros the minimal one writes -/
theorem allocResident_minimal {plat : Platform} {s : Resident} {inp : Inputs}
    (hzero : s.key = none ∨ s.value = none →
      (∀ a < kCacheElements * 2, inp.key a = 0) ∧ ∀ a < kCacheElements * 2, inp.value a = 0) :
    Controller.allocResident plat.toPlatform s = allocResident plat s inp := by
  by_cases hcold : s.key = none ∨ s.value = none
  · obtain ⟨hkey, hvalue⟩ := hzero hcold
    unfold allocResident
    simp only [memcpy_zeros hkey, memcpy_zeros hvalue]
    rfl
  · obtain ⟨hkey, hvalue⟩ := not_or.1 hcold
    obtain ⟨key, hkey⟩ := Option.ne_none_iff_exists'.1 hkey
    obtain ⟨value, hvalue⟩ := Option.ne_none_iff_exists'.1 hvalue
    unfold Controller.allocResident allocResident
    rw [hkey, hvalue]

/-- the ten `SetOutput` calls, when the eight the minimal UDF does not make succeed -/
theorem setOutputs_minimal {env : Env} (h : ∀ index, index ≠ 1 → index ≠ 9 → env.set_output index = FLOW_FUNC_SUCCESS) :
    ((List.finRange 10).find? fun index => env.set_output index ≠ FLOW_FUNC_SUCCESS) =
      if env.set_output 1 ≠ FLOW_FUNC_SUCCESS then some 1
      else if env.set_output 9 ≠ FLOW_FUNC_SUCCESS then some 9 else none := by
  have hrange : List.finRange 10 = [0, 1, 2, 3, 4, 5, 6, 7, 8, 9] := by decide
  have h0 := h 0 (by decide) (by decide)
  have h2 := h 2 (by decide) (by decide)
  have h3 := h 3 (by decide) (by decide)
  have h4 := h 4 (by decide) (by decide)
  have h5 := h 5 (by decide) (by decide)
  have h6 := h 6 (by decide) (by decide)
  have h7 := h 7 (by decide) (by decide)
  have h8 := h 8 (by decide) (by decide)
  rw [hrange]
  by_cases h1 : env.set_output 1 = FLOW_FUNC_SUCCESS
  · by_cases h9 : env.set_output 9 = FLOW_FUNC_SUCCESS
    · simp [h0, h1, h2, h3, h4, h5, h6, h7, h8, h9]
    · simp [h0, h1, h2, h3, h4, h5, h6, h7, h8, h9]
  · simp [h0, h1]

/-- **One call of both.** From the same members, with the same surroundings, they return the same, emit the same token
history and control words and leave the same members. -/
theorem call_agrees {c : Call} {s : Resident} (hplain : c.Plain) (hgranted : c.Granted)
    (hzero : s.key = none ∨ s.value = none → c.zeroCaches) : Agree (c.old s) (c.new s) := by
  have hread := readInputs_minimal hplain hgranted.logits
  unfold Call.old Call.new proc Controller.proc
  rw [hread]
  cases hinp : readInputs c.plat c.inputs with
  | none => exact ⟨rfl, rfl, rfl⟩
  | some inp =>
    obtain ⟨hkey, hvalue⟩ := readInputs_caches hinp
    have halloc : Controller.allocResident c.plat.toPlatform s = allocResident c.plat s inp :=
      allocResident_minimal fun hcold => ⟨hzero hcold _ (Or.inl hkey), hzero hcold _ (Or.inr hvalue)⟩
    dsimp only [Option.map_some]
    rw [halloc]
    cases allocResident c.plat s inp with
    | error s' => exact ⟨rfl, rfl, rfl⟩
    | ok d =>
      dsimp only
      rw [epoch_minimal, setOutputs_minimal hgranted.outputs]
      dsimp only
      change Agree _ (if c.env.set_output 1 ≠ FLOW_FUNC_SUCCESS then _
        else if c.env.set_output 9 ≠ FLOW_FUNC_SUCCESS then _ else _)
      by_cases h1 : c.env.set_output 1 ≠ FLOW_FUNC_SUCCESS
      · rw [if_pos h1, if_pos h1]
        exact ⟨rfl, rfl, rfl⟩
      · rw [if_neg h1, if_neg h1]
        by_cases h9 : c.env.set_output 9 ≠ FLOW_FUNC_SUCCESS
        · rw [if_pos h9, if_pos h9]
          exact ⟨rfl, rfl, rfl⟩
        · rw [if_neg h9, if_neg h9]
          exact ⟨rfl, rfl, rfl⟩

/-! ## Runs -/

/-- the outcomes of a run of calls of one object -/
def outcomes {O : Type} (call : Call → Resident → O) (resident : O → Resident) : Resident → List Call → List O
  | _, [] => []
  | s, c :: rest => call c s :: outcomes call resident (resident (call c s)) rest

def runOld : Resident → List Call → List Outcome := outcomes Call.old Outcome.resident

def runNew : Resident → List Call → List Controller.Outcome := outcomes Call.new Controller.Outcome.resident

/-- every call that finds the old object without caches carries zeros -/
def ZeroUntilAllocated : Resident → List Call → Prop
  | _, [] => True
  | s, c :: rest =>
    (s.key = none ∨ s.value = none → c.zeroCaches) ∧ ZeroUntilAllocated (c.old s).resident rest

/-- **Equivalence.** Call by call, the two UDFs agree in every run, from the fresh objects or from any same members. -/
theorem runs_agree {calls : List Call} (hplain : ∀ c ∈ calls, c.Plain) (hgranted : ∀ c ∈ calls, c.Granted)
    (s : Resident) (hzero : ZeroUntilAllocated s calls) : List.Forall₂ Agree (runOld s calls) (runNew s calls) := by
  induction calls generalizing s with
  | nil => exact .nil
  | cons c rest ih =>
    have hcall : Agree (c.old s) (c.new s) :=
      call_agrees (hplain c List.mem_cons_self) (hgranted c List.mem_cons_self) hzero.1
    refine .cons hcall ?_
    have hrest := ih (fun c' hc' => hplain c' (List.mem_cons_of_mem _ hc'))
      (fun c' hc' => hgranted c' (List.mem_cons_of_mem _ hc')) (c.old s).resident hzero.2
    rwa [← hcall.resident] at hrest ⊢

theorem toResident_allocated (d : Device) : ¬(d.toResident.key = none ∨ d.toResident.value = none) := by
  rintro (h | h)
  · cases h
  · cases h

/-- caches once allocated stay allocated -/
theorem old_allocated {c : Call} {s : Resident} (h : ¬(s.key = none ∨ s.value = none)) :
    ¬((c.old s).resident.key = none ∨ (c.old s).resident.value = none) := by
  unfold Call.old proc
  cases readInputs c.plat c.inputs with
  | none => exact h
  | some inp =>
    obtain ⟨hkey, hvalue⟩ := not_or.1 h
    obtain ⟨key, hkey⟩ := Option.ne_none_iff_exists'.1 hkey
    obtain ⟨value, hvalue⟩ := Option.ne_none_iff_exists'.1 hvalue
    have halloc : allocResident c.plat s inp = .ok ⟨key, value, s.metadata⟩ := by
      unfold allocResident
      rw [hkey, hvalue]
    dsimp only
    rw [halloc]
    dsimp only
    split
    · exact toResident_allocated _
    · exact toResident_allocated _

theorem zeroUntilAllocated_of_allocated {s : Resident} (h : ¬(s.key = none ∨ s.value = none)) (calls : List Call) :
    ZeroUntilAllocated s calls := by
  induction calls generalizing s with
  | nil => exact trivial
  | cons c rest ih => exact ⟨fun hcold => absurd hcold h, ih (old_allocated h)⟩

/-- zeros in the first call are enough when it leaves the caches allocated -/
theorem zeroUntilAllocated_of_first {s : Resident} {c : Call} {rest : List Call} (hzero : c.zeroCaches)
    (h : ¬((c.old s).resident.key = none ∨ (c.old s).resident.value = none)) : ZeroUntilAllocated s (c :: rest) :=
  ⟨fun _ => hzero, zeroUntilAllocated_of_allocated h rest⟩

/-! ### Two calls of row 0 -/

def bf16Msg (bytes : Mem) : Option FlowMsg := some ⟨FLOW_FUNC_SUCCESS, some ⟨kCacheElements, some (.bf16 bytes)⟩⟩

theorem bf16Data_bf16Msg (bytes : Mem) : bf16Data (bf16Msg bytes) kCacheElements = some bytes := by
  simp [bf16Data, bf16Msg, tensorData, TensorData.dtype]

/-- two steps of row 0 from a position on; both caches are filled with `byte` -/
def servedCall (position : Int) (byte : UInt8) : Call where
  plat := ⟨.granted, true⟩
  env := ⟨fun _ => true, fun _ => echo, fun _ => FLOW_FUNC_SUCCESS⟩
  inputs := [int64Msg [12, 0, 0, 0], int64Msg [position, 0, 0, 0], int32Msg [position + 1, 0, 0, 0], bf16Msg fun _ => byte,
    int32Msg [position, 256, 512, 768], int32Msg [1, 0, 0, 0], int32Msg [0, 1, 2, 3, 4, 5, 6, 7], bf16Msg fun _ => byte,
    uint8Msg (fun _ => 0) 72, int32Msg [2, 9, 9, 9, 9, 0, 0, 1, 0, 0, 0]]

theorem servedCall_plain (position : Int) (byte : UInt8) : (servedCall position byte).Plain where
  count := rfl
  key := by
    change (bf16Data (bf16Msg fun _ => byte) kCacheElements).isSome
    rw [bf16Data_bf16Msg]
    rfl
  value := by
    change (bf16Data (bf16Msg fun _ => byte) kCacheElements).isSome
    rw [bf16Data_bf16Msg]
    rfl
  no_import := by
    intro input_control h
    cases h
    rfl

theorem servedCall_zeroCaches (position : Int) : (servedCall position 0).zeroCaches := by
  have hzero {m : Mem} (h : bf16Data (bf16Msg fun _ => 0) kCacheElements = some m) : ∀ a < kCacheElements * 2, m a = 0 := by
    rw [bf16Data_bf16Msg] at h
    cases h
    exact fun _ _ => rfl
  exact fun m h => h.elim (fun h => hzero h) fun h => hzero h

/-- the minimal UDF is called as in a session of row 0 -/
theorem servedCall_new (position : Int) (byte : UInt8) (s : Resident) :
    (servedCall position byte).new s = Controller.proc .granted .echo s (rowInputs 12 position) := by
  have henv : (servedCall position byte).env.minimal = Env.echo := by
    have hset : (![FLOW_FUNC_SUCCESS, FLOW_FUNC_SUCCESS] : Fin 2 → Int) = fun _ => FLOW_FUNC_SUCCESS := by decide
    exact congrArg (Controller.Env.mk _ _) hset
  unfold Call.new
  rw [henv]
  rfl

/-- the row starts with zeros among the inputs, and goes on whatever the caches among them hold -/
theorem runs_agree_served :
    List.Forall₂ Agree (runOld init [servedCall 0 0, servedCall 2 7]) (runNew init [servedCall 0 0, servedCall 2 7]) ∧
      ∀ o ∈ runNew init [servedCall 0 0, servedCall 2 7],
        ∃ e, o.emitted = some e ∧ e.control 3 = Status.ok.code ∧ e.tokens 0 = [12, 12] := by
  obtain ⟨e, hemitted, hok, htokens, hechoing⟩ := echoing_first
  obtain ⟨e', hemitted', hok', -, htokens', -⟩ := hechoing.next rowRead_valid.1
  have hgranted (position : Int) (byte : UInt8) : (servedCall position byte).Granted := ⟨rfl, fun _ _ _ => rfl⟩
  have hresident : ((servedCall 0 0).new init).resident = (Session.fresh.after (rowCall 12 0)).resident := by
    rw [servedCall_new, after_resident]
    rfl
  constructor
  · refine runs_agree (fun c hc => ?_) (fun c hc => ?_) init (zeroUntilAllocated_of_first (servedCall_zeroCaches 0) ?_)
    · rcases List.mem_pair.1 hc with rfl | rfl <;> exact servedCall_plain _ _
    · rcases List.mem_pair.1 hc with rfl | rfl <;> exact hgranted _ _
    · obtain ⟨d, d', -, -, hafter⟩ := session_served (s := .fresh) (rowCall_read 12 0) hemitted hok
      rw [← (call_agrees (servedCall_plain 0 0) (hgranted 0 0) fun _ => servedCall_zeroCaches 0).resident, hresident, hafter]
      exact toResident_allocated d'
  · intro o ho
    rcases List.mem_pair.1 ho with rfl | rfl
    · rw [servedCall_new]
      exact ⟨e, hemitted, hok, htokens⟩
    · rw [hresident, servedCall_new]
      exact ⟨e', hemitted', hok', htokens'⟩

/-! ### A first call refused before the caches exist -/

/-- no row is active and no step is asked for; both caches are filled with `byte` -/
def idleCall (alloc_outputs : Bool) (byte : UInt8) : Call where
  plat := ⟨⟨alloc_outputs, true, some fun _ => 0, some fun _ => 0⟩, true⟩
  env := ⟨fun _ => true, fun _ _ => ⟨FLOW_FUNC_FAILED, []⟩, fun _ => FLOW_FUNC_SUCCESS⟩
  inputs := [int64Msg [0, 0, 0, 0], int64Msg [0, 0, 0, 0], int32Msg [0, 0, 0, 0], bf16Msg fun _ => byte,
    int32Msg [0, 256, 512, 768], int32Msg [0, 0, 0, 0], int32Msg [0, 1, 2, 3, 4, 5, 6, 7], bf16Msg fun _ => byte,
    uint8Msg (fun _ => 0) 72, int32Msg (List.replicate 11 0)]

theorem idleCall_plain (alloc_outputs : Bool) (byte : UInt8) : (idleCall alloc_outputs byte).Plain where
  count := rfl
  key := by
    change (bf16Data (bf16Msg fun _ => byte) kCacheElements).isSome
    rw [bf16Data_bf16Msg]
    rfl
  value := by
    change (bf16Data (bf16Msg fun _ => byte) kCacheElements).isSome
    rw [bf16Data_bf16Msg]
    rfl
  no_import := by
    intro input_control h
    cases h
    rfl

theorem idleCall_granted (alloc_outputs : Bool) (byte : UInt8) : (idleCall alloc_outputs byte).Granted :=
  ⟨rfl, fun _ _ _ => rfl⟩

theorem idleCall_zeroCaches (alloc_outputs : Bool) : (idleCall alloc_outputs 0).zeroCaches := by
  rintro m (h | h)
  · have hm : bf16Data (bf16Msg fun _ => 0) kCacheElements = some m := h
    rw [bf16Data_bf16Msg] at hm
    cases hm
    exact fun _ _ => rfl
  · have hm : bf16Data (bf16Msg fun _ => 0) kCacheElements = some m := h
    rw [bf16Data_bf16Msg] at hm
    cases hm
    exact fun _ _ => rfl

theorem refused_resident {c : Call} {s : Resident} {inp : Inputs} {d : Device} {status : Status}
    (hread : readInputs c.plat c.inputs = some inp) (halloc : allocResident c.plat s inp = .ok d)
    (hrefused : validate inp.common = .error status) : (c.old s).resident = d.toResident := by
  unfold Call.old proc
  rw [hread]
  dsimp only
  rw [halloc]
  unfold epoch prepare
  rw [hrefused]
  dsimp only
  split
  · rfl
  · rfl

theorem idleCall_reads (byte : UInt8) :
    ∃ inp, readInputs (idleCall true byte).plat (idleCall true byte).inputs = some inp ∧
      validate inp.common = .error .invalidMetadata ∧ (inp.key = fun _ => byte) := ⟨_, rfl, rfl, rfl⟩

theorem idleCall_old (byte : UInt8) :
    ((idleCall true byte).old init).resident.key =
      some (memcpy (fun _ => 0) 0 (fun _ => byte) 0 (kCacheElements * 2)) := by
  obtain ⟨inp, hread, hrefused, hkey⟩ := idleCall_reads byte
  have halloc : allocResident (idleCall true byte).plat init inp = .ok ⟨memcpy (fun _ => 0) 0 inp.key 0 _,
    memcpy (fun _ => 0) 0 inp.value 0 _, init.metadata⟩ := rfl
  rw [refused_resident hread halloc hrefused, ← hkey]
  rfl

/-- the minimal UDF has no caches among its inputs -/
theorem idleCall_new (byte : UInt8) :
    ((idleCall true byte).new init).resident.key =
      some (memcpy (fun _ => 0) 0 (fun _ => 0) 0 (kCacheElements * 2)) := by
  have hagree := call_agrees (idleCall_plain true 0) (idleCall_granted true 0)
    fun _ : init.key = none ∨ init.value = none => idleCall_zeroCaches true
  have hsame : (idleCall true byte).new init = (idleCall true 0).new init := rfl
  rw [hsame, hagree.resident, idleCall_old]

/-- a first call refused before the caches exist: a later call's inputs become the old object's caches -/
theorem late_caches_differ :
    ¬∀ (first : Call) (rest : List Call), (∀ c ∈ first :: rest, c.Plain) → (∀ c ∈ first :: rest, c.Granted) →
      first.zeroCaches → List.Forall₂ Agree (runOld init (first :: rest)) (runNew init (first :: rest)) := by
  intro h
  have hruns := h (idleCall false 0) [idleCall true 1]
    (fun c hc => by
      rcases List.mem_pair.1 hc with rfl | rfl
      · exact idleCall_plain false 0
      · exact idleCall_plain true 1)
    (fun c hc => by
      rcases List.mem_pair.1 hc with rfl | rfl
      · exact idleCall_granted false 0
      · exact idleCall_granted true 1)
    (idleCall_zeroCaches false)
  have hfirst : ((idleCall false 0).old init).resident = init := rfl
  have hfirst' : ((idleCall false 0).new init).resident = init := rfl
  obtain ⟨-, hrest⟩ := List.forall₂_cons.1 hruns
  obtain ⟨hsecond, -⟩ := List.forall₂_cons.1 hrest
  have hkey := congrArg Resident.key hsecond.resident
  rw [hfirst, hfirst', idleCall_old, idleCall_new] at hkey
  exact absurd (congrFun (Option.some.inj hkey) 0) (by decide)

end Cruise.ControllerOld
