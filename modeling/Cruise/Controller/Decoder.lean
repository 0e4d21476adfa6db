/-
Decoder graphs.

The graph behind `RunFlowModel` is not part of the UDF. What a result needs of it is a named assumption:
- `RowLocal`: the decoder is a function of its inputs in which an active row's logits and blocks depend on that row's
  inputs and blocks only, an inactive row's blocks are not written, and active positions advance by one.
- `Total`: the decoder answers every call, with a token for every active row.
- `total_epoch`: with such a decoder, every admissible epoch ends with status OK.
- `steady`: the smallest decoder that is both. It finds every token equally likely and leaves the caches as they are.
-/
import Cruise.Controller.Result

namespace Cruise.Controller

open Cruise.Lib

/-! ## Row-local decoders -/

/-- the address lies in one of the two blocks the block table gives a row -/
def Owns (block_table : ℕ → Int) (r : Row) (a : ℕ) : Prop :=
  layerOf a < kLayers ∧ ∃ j < kBlocksPerRequest, (blockOf a : Int) = block_table (r * kBlocksPerRequest + j)

/-- the decoder succeeds on these inputs with these outputs -/
def Answers (decoder : ModelInputs → ModelReply) (m : ModelInputs) (out : DecoderOutputs) : Prop :=
  (decoder m).ret = FLOW_FUNC_SUCCESS ∧ decoderOutputs (decoder m).outputs = some out

/-- inputs that are the same for every active row -/
structure Agree (m m' : ModelInputs) : Prop where
  active : m'.active = m.active
  block_table : m'.block_table = m.block_table
  tiling : m'.tiling = m.tiling
  token : ∀ r, m.active r ≠ 0 → m'.token r = m.token r
  position : ∀ r, m.active r ≠ 0 → m'.position r = m.position r
  length : ∀ r, m.active r ≠ 0 → m'.length r = m.length r
  slot : ∀ r, m.active r ≠ 0 → m'.slot r = m.slot r
  blocks : ∀ r, m.active r ≠ 0 → ∀ a, Owns m.block_table r a → m'.key a = m.key a ∧ m'.value a = m.value a

structure RowLocal (decoder : ModelInputs → ModelReply) : Prop where
  replies : ∀ m m' out, Agree m m' → Answers decoder m out → ∃ out', Answers decoder m' out'
  logits : ∀ m m' out out', Agree m m' → Answers decoder m out → Answers decoder m' out' → ∀ r, m.active r ≠ 0 →
    ∀ i < kVocabSize, out'.logits (r * kVocabSize + i) = out.logits (r * kVocabSize + i)
  writes : ∀ m m' out out', Agree m m' → Answers decoder m out → Answers decoder m' out' → ∀ r, m.active r ≠ 0 →
    ∀ a, Owns m.block_table r a → out'.key a = out.key a ∧ out'.value a = out.value a
  idle : ∀ m out, Answers decoder m out → ∀ r, m.active r = 0 →
    ∀ a, Owns m.block_table r a → out.key a = m.key a ∧ out.value a = m.value a
  position : ∀ m out, Answers decoder m out → ∀ r, out.position r = m.position r + if m.active r = 0 then 0 else 1

/-- the surroundings of a call: this decoder at every call, and allocations that succeed -/
structure Runs (env : Env) (decoder : ModelInputs → ModelReply) : Prop where
  decoder : ∀ n m, env.run_flow_model n m = decoder m
  alloc : ∀ n, env.alloc_next n = true

/-! ## Argmax -/

theorem argmaxScan_congr {logits logits' : ℕ → Logit} (n : ℕ) (h : ∀ i ≤ n, logits i = logits' i) :
    argmaxScan logits n = argmaxScan logits' n := by
  induction n with
  | zero => rw [argmaxScan, argmaxScan, h 0 (le_refl 0)]
  | succ n ih => rw [argmaxScan, argmaxScan, ih fun i hi => h i (Nat.le_succ_of_le hi), h (n + 1) (le_refl _)]

/-- a row's token depends on the row's logits only -/
theorem argmaxFinite_congr {logits logits' : ℕ → Logit} (r : Row)
    (h : ∀ i < kVocabSize, logits (r * kVocabSize + i) = logits' (r * kVocabSize + i)) :
    argmaxFinite logits r = argmaxFinite logits' r := by
  have hscan : argmaxScan (fun i => logits (r * kVocabSize + i)) (kVocabSize - 1) =
      argmaxScan (fun i => logits' (r * kVocabSize + i)) (kVocabSize - 1) := by
    refine argmaxScan_congr _ fun i hi => h i ?_
    have hpos : 0 < kVocabSize := by decide
    omega
  unfold argmaxFinite
  rw [hscan]

/-- of equal logits the first is the greatest -/
theorem argmaxScan_const (v : ℚ) (n : ℕ) : argmaxScan (fun _ => some v) n = some (v, 0) := by
  induction n with
  | zero => rfl
  | succ n ih =>
    rw [argmaxScan, ih]
    exact if_neg (lt_irrefl v)

theorem argmaxFinite_const (v : ℚ) (r : Row) : argmaxFinite (fun _ => some v) r = some 0 := by
  unfold argmaxFinite
  rw [argmaxScan_const]
  rfl

/-- of logits of which one is greater than the others, that one is the greatest -/
theorem argmaxScan_hot {hot n : ℕ} (h : hot ≤ n) :
    argmaxScan (fun i => some (if i = hot then 1 else 0)) n = some (1, hot) := by
  have hbelow (k : ℕ) (hk : k < hot) : argmaxScan (fun i => some (if i = hot then 1 else 0)) k = some (0, 0) := by
    have hcold : argmaxScan (fun i => some (if i = hot then 1 else 0)) k = argmaxScan (fun _ => some 0) k :=
      argmaxScan_congr k fun i hi => by rw [if_neg (by omega)]
    rw [hcold, argmaxScan_const]
  induction n with
  | zero =>
    obtain rfl : hot = 0 := Nat.le_zero.1 h
    rfl
  | succ n ih =>
    rw [argmaxScan]
    by_cases hlast : hot = n + 1
    · rw [hbelow n (by omega), if_pos hlast.symm]
      subst hlast
      exact if_pos zero_lt_one
    · rw [ih (by omega), if_neg (Ne.symm hlast)]
      exact if_neg (not_lt.2 zero_le_one)

/-- logits that single out one token in each row -/
def hotLogits (hot : Row → ℕ) (i : ℕ) : Logit :=
  some (if i % kVocabSize = (if h : i / kVocabSize < 4 then hot ⟨i / kVocabSize, h⟩ else 0) then 1 else 0)

theorem hotLogits_row (hot : Row → ℕ) (r : Row) {i : ℕ} (hi : i < kVocabSize) :
    hotLogits hot (r * kVocabSize + i) = some (if i = hot r then 1 else 0) := by
  have hdiv : (r * kVocabSize + i) / kVocabSize = r := by
    rw [Nat.mul_comm, Nat.mul_add_div (by decide), Nat.div_eq_of_lt hi, Nat.add_zero]
  have hmod : (r * kVocabSize + i) % kVocabSize = i := by
    rw [Nat.mul_comm, Nat.mul_add_mod, Nat.mod_eq_of_lt hi]
  unfold hotLogits
  simp only [hdiv, hmod, dif_pos r.isLt, Fin.eta]

theorem argmaxFinite_hot (hot : Row → ℕ) {r : Row} (h : hot r < kVocabSize) :
    argmaxFinite (hotLogits hot) r = some (hot r : Int) := by
  have hscan : argmaxScan (fun i => hotLogits hot (r * kVocabSize + i)) (kVocabSize - 1) =
      argmaxScan (fun i => some (if i = hot r then 1 else 0)) (kVocabSize - 1) :=
    argmaxScan_congr _ fun i hi => hotLogits_row hot r (lt_of_le_of_lt hi (by decide))
  unfold argmaxFinite
  rw [hscan, argmaxScan_hot (Nat.le_sub_one_of_lt h)]
  rfl

/-! ## Total decoders -/

/-- a position for each row, advanced where the row is active -/
def advanced (m : ModelInputs) (r : Row) : Int := m.position r + if m.active r = 0 then 0 else 1

/-- the decoder answers every call, and finds a token for every active row -/
structure Total (decoder : ModelInputs → ModelReply) : Prop where
  answers : ∀ m, ∃ out, Answers decoder m out ∧ out.position = advanced m ∧
    ∀ r, m.active r ≠ 0 → ∃ t, argmaxFinite out.logits r = some t

/-- a reply with these logits and caches, that advances the active rows -/
def replying (m : ModelInputs) (logits : ℕ → Logit) (key value : Mem) : ModelReply where
  ret := FLOW_FUNC_SUCCESS
  outputs := [
    some ⟨FLOW_FUNC_SUCCESS, some ⟨4 * kVocabSize, some (.float logits)⟩⟩,
    some ⟨FLOW_FUNC_SUCCESS, some ⟨kCacheElements, some (.bf16 key)⟩⟩,
    some ⟨FLOW_FUNC_SUCCESS, some ⟨kCacheElements, some (.bf16 value)⟩⟩,
    some ⟨FLOW_FUNC_SUCCESS, some ⟨4, some (.int64 fun i => if h : i < 4 then advanced m ⟨i, h⟩ else 0)⟩⟩]

theorem replying_answers {decoder : ModelInputs → ModelReply} {m : ModelInputs} {logits : ℕ → Logit} {key value : Mem}
    (h : decoder m = replying m logits key value) (out : DecoderOutputs) :
    Answers decoder m out ↔ out = ⟨logits, key, value, advanced m⟩ := by
  have hposition : (fun r : Row => if h : r.val < 4 then advanced m ⟨r.val, h⟩ else 0) = advanced m := by
    funext r
    exact dif_pos r.isLt
  have houtputs : decoderOutputs (replying m logits key value).outputs = some ⟨logits, key, value, advanced m⟩ := by
    rw [← hposition]
    simp [decoderOutputs, replying, floatData, bf16Data, int64Data, tensorData, TensorData.dtype]
  unfold Answers
  rw [h, houtputs]
  exact ⟨fun h => (Option.some.inj h.2).symm, fun h => ⟨rfl, congrArg some h.symm⟩⟩

/-! ### Their epochs -/

theorem checkBlockTable_range {inp : Inputs} (h : checkBlockTable inp = .ok ()) {i : ℕ} (hi : i < 4 * kBlocksPerRequest) :
    0 ≤ inp.block_table i ∧ inp.block_table i < kPhysicalBlocks := by
  unfold checkBlockTable at h
  rcases hfold : (List.range (4 * kBlocksPerRequest)).foldlM (fun (seen_blocks : List Int) index =>
    let block := inp.block_table index
    if block < 0 ∨ block ≥ kPhysicalBlocks ∨ block ∈ seen_blocks then Except.error Status.invalidBlockTable
    else Except.ok (block :: seen_blocks)) [] with status | seen
  · rw [hfold] at h
    cases h
  · have hrange : ∀ j ∈ List.range (4 * kBlocksPerRequest),
        0 ≤ inp.block_table j ∧ inp.block_table j < kPhysicalBlocks := by
      refine foldlM_inv _ (fun pre _ => ∀ j ∈ pre, 0 ≤ inp.block_table j ∧ inp.block_table j < kPhysicalBlocks) _ ?_ ?_ hfold
      · intro pre k post s s' _ hpre hk j hj
        rcases List.mem_append.1 hj with hj | hj
        · exact hpre j hj
        · obtain rfl := List.mem_singleton.1 hj
          simp only at hk
          split_ifs at hk with hbad
          omega
      · intro j hj
        cases hj
    exact hrange i (List.mem_range.2 hi)

theorem computeSlot_nonneg {inp : Inputs} (h : checkBlockTable inp = .ok ()) (r : Row) {position : Int}
    (h0 : 0 ≤ position) (h1 : position < kLogicalCapacity) : 0 ≤ computeSlot inp.block_table r position := by
  have hr : r.val < 4 := r.isLt
  have hlt : position < 8 := h1
  have hblock : position / (kBlockSize : Int) = 0 := Int.ediv_eq_zero_of_lt h0 (by simp only [kBlockSize]; omega)
  have hoffset := Int.emod_nonneg position (show (kBlockSize : Int) ≠ 0 by decide)
  have hrange := checkBlockTable_range h (i := r * kBlocksPerRequest) (by simp only [kBlocksPerRequest]; omega)
  unfold computeSlot
  rw [if_neg (by omega)]
  simp only [hblock, Int.toNat_zero, Nat.add_zero]
  rw [if_neg (by decide), if_neg (by omega)]
  have : 0 ≤ inp.block_table (r * kBlocksPerRequest) * (kBlockSize : Int) := mul_nonneg hrange.1 (by decide)
  omega

/-- room for `fuel` more calls in every active row -/
def Room (fuel : ℕ) (s : Decode) : Prop :=
  s.position = s.position_values ∧
    ∀ r, s.active r ≠ 0 → 0 ≤ s.position_values r ∧ s.position_values r + fuel ≤ kLogicalCapacity

theorem room_start {inp : Inputs} (hv : Validated inp) (d : Device) (loc : Locals) :
    Room inp.max_steps.toNat (Decode.start d inp loc) := by
  refine ⟨rfl, fun r hactive => ?_⟩
  have hrow := hv.row r
  have hon : inp.active r = 1 := hrow.active.resolve_left hactive
  have hcap := (hrow.running hon).capacity
  have h1 := hv.max_steps.1
  show 0 ≤ inp.position r ∧ inp.position r + (inp.max_steps.toNat : Int) ≤ kLogicalCapacity
  exact ⟨hrow.position.1, by omega⟩

theorem room_step {env : Env} {inp : Inputs} {s s' : Decode} {out : DecoderOutputs} {fuel : ℕ}
    (hc : CallStep env inp s out s') (h : Room (fuel + 1) s) : Room fuel s' := by
  refine ⟨callStep_position hc, fun r hactive => ?_⟩
  have hroom := h.2 r
  have hrow := hc.row r
  have hactive : (s'.row r).active ≠ 0 := hactive
  have hposition : s'.position_values r = (s'.row r).position := rfl
  rw [hposition]
  generalize s'.row r = v', s.loc.history_tokens _ = t, s'.loc.history_tokens _ = t' at hrow hactive
  push_cast at hroom
  cases hrow with
  | idle h0 _ => exact absurd h0 hactive
  | generate t h0 _ hadvance _ =>
    obtain ⟨hlow, hhigh⟩ := hroom h0
    have hadvance : out.position r = s.position_values r + 1 := hadvance
    show 0 ≤ out.position r ∧ out.position r + (fuel : Int) ≤ kLogicalCapacity
    omega

/-- with room left, every row makes its step -/
theorem total_row {inp : Inputs} (htable : checkBlockTable inp = .ok ()) {fuel : ℕ} {s : Decode}
    (h : Room (fuel + 1) s) {out : DecoderOutputs} (hposition : out.position = advanced (s.modelInputs inp))
    (htoken : ∀ r, s.active r ≠ 0 → ∃ t, argmaxFinite out.logits r = some t) (r : Row) :
    ∃ v' t t', RowStep inp out r (s.row r) t v' t' := by
  have hmodel : (s.modelInputs inp).position r = s.position_values r := congrFun h.1 r
  have hout : out.position r = s.position_values r + if s.active r = 0 then 0 else 1 := by
    rw [hposition, ← hmodel]
    rfl
  by_cases h0 : s.active r = 0
  · rw [if_pos h0, Int.add_zero] at hout
    exact ⟨s.row r, 0, 0, .idle h0 hout⟩
  · rw [if_neg h0] at hout
    obtain ⟨hlow, hhigh⟩ := h.2 r h0
    push_cast at hhigh
    obtain ⟨t, ht⟩ := htoken r h0
    refine ⟨_, 0, t, .generate t h0 ht hout fun hcap => ?_⟩
    rw [hout] at hcap ⊢
    exact computeSlot_nonneg htable r (by omega) (by omega)

section Total

variable {decoder : ModelInputs → ModelReply} (ht : Total decoder) {env : Env} (hr : Runs env decoder)

include ht hr

theorem total_loop {inp : Inputs} (htable : checkBlockTable inp = .ok ()) (fuel : ℕ)
    {s : Decode} (h : Room fuel s) : ∃ s', decodeLoop env inp fuel s = .ok s' := by
  induction fuel generalizing s with
  | zero => exact ⟨s, rfl⟩
  | succ fuel ih =>
    unfold decodeLoop
    by_cases ha : countActive s.active = 0
    · rw [if_pos ha]
      exact ⟨s, rfl⟩
    rw [if_neg ha]
    obtain ⟨out, ⟨hret, hout⟩, hposition, htoken⟩ := ht.answers (s.modelInputs inp)
    rw [← hr.decoder s.loc.model_calls] at hret hout
    obtain ⟨s₁, hs₁⟩ := decodeStep_exists hret hout (hr.alloc _) (total_row htable h hposition htoken)
    obtain ⟨out, hcall⟩ := decodeStep_ok hs₁
    obtain ⟨s', hs'⟩ := ih (room_step hcall h)
    exact ⟨s', except_bind_ok.2 ⟨s₁, hs₁, hs'⟩⟩

/-- it finishes what is prepared for it -/
theorem total_prepared {inp : Inputs} {d dp : Device} {loc : Locals}
    (hp : Prepared inp d dp loc) : ∃ d' e, epoch env inp d = (d', .ok, e) := by
  obtain ⟨s, hloop⟩ := total_loop ht hr hp.validated.block_table _ (room_start hp.validated dp loc)
  obtain ⟨n, hn, hs, hend⟩ := (decodeLoop_ok_iff env inp _ _ _).1 hloop
  exact ⟨_, _, epoch_ok_of hp hn hs hend⟩

/-- **Every admissible plain epoch** ends with status OK. -/
theorem total_epoch {inp : Inputs} {d : Device} (hv : Validated inp)
    (hplain : inp.importing = false)
    (hc : ∀ r, inp.active r ≠ 0 → Continues d.metadata inp r ∨ Starts d.metadata inp r) :
    ∃ d' e, epoch env inp d = (d', .ok, e) := by
  have himport : importPhase inp d = (d, .ok 0) := if_pos hplain
  obtain ⟨ng, hng⟩ := (continuity_iff d.metadata inp).2 hc
  have hp : Prepared inp d (clearRows d ng) { Locals.start with finish_reason := startReason inp, import_checksum := 0 } :=
    ⟨hv, ⟨0, by rw [himport], rfl⟩, ng, by rw [himport]; exact hng, by rw [himport]⟩
  exact total_prepared ht hr hp

end Total

/-! ## The steady decoder -/

def steady (m : ModelInputs) : ModelReply := replying m (fun _ => some 0) m.key m.value

theorem steady_answers (m : ModelInputs) (out : DecoderOutputs) :
    Answers steady m out ↔ out = ⟨fun _ => some 0, m.key, m.value, advanced m⟩ := replying_answers rfl out

theorem steady_rowLocal : RowLocal steady where
  replies := by
    intro m m' out _ _
    exact ⟨_, (steady_answers m' _).2 rfl⟩
  logits := by
    intro m m' out out' _ h h' r _ i _
    rw [(steady_answers m out).1 h, (steady_answers m' out').1 h']
  writes := by
    intro m m' out out' hagree h h' r hr a ha
    rw [(steady_answers m out).1 h, (steady_answers m' out').1 h']
    exact hagree.blocks r hr a ha
  idle := by
    intro m out h r _ a _
    rw [(steady_answers m out).1 h]
    exact ⟨rfl, rfl⟩
  position := by
    intro m out h r
    rw [(steady_answers m out).1 h]
    rfl

theorem steady_total : Total steady where
  answers := fun m => ⟨_, (steady_answers m _).2 rfl, rfl, fun r _ => ⟨0, argmaxFinite_const 0 r⟩⟩

/-- surroundings in which the steady decoder runs -/
def Env.steady : Env := ⟨fun _ => true, fun _ => Controller.steady, fun _ => FLOW_FUNC_SUCCESS⟩

theorem steady_runs : Runs .steady steady := ⟨fun _ _ => rfl, fun _ => rfl⟩

/-- a device no row of which was ever used -/
def Device.unused : Device := ⟨fun _ => 0, fun _ => 0, ⟨fun _ => 0, fun _ => 0, fun _ => 0, fun _ => 0, fun _ => 0⟩⟩

end Cruise.Controller
