/-
An epoch is bounded greedy decoding.

The decoder calls of an OK epoch are numbered from 0. Each has a state before it and the decoder's answer; a row's token
of a call is the first of its greatest logits in that answer. Results:
- `argmaxFinite_greatest`: what `ArgmaxFinite` finds.
- `calls_generated`: the history entry of a call a row was active in.
- `calls_range`: positions, slots and block indices of every call are in range, up to the capacity.
- `proc_greedy`: all of it for a call of `Proc` that ends with status OK.
-/
import Cruise.Controller.Splitting

namespace Cruise.Controller

open Cruise.Lib

/-! ## The greatest logit -/

/-- `best`, at index `i`, is the first of the greatest logits of a row, all of them finite -/
structure Greatest (logits : ℕ → Logit) (r : Row) (i : ℕ) (best : ℚ) : Prop where
  index : i < kVocabSize
  value : logits (r * kVocabSize + i) = some best
  finite : ∀ j < kVocabSize, ∃ v, logits (r * kVocabSize + j) = some v ∧ v ≤ best
  first : ∀ j < i, ∀ v, logits (r * kVocabSize + j) = some v → v < best

theorem argmaxScan_greatest (logits : ℕ → Logit) (n : ℕ) {best : ℚ} {token : ℕ}
    (h : argmaxScan logits n = some (best, token)) :
    logits token = some best ∧ (∀ j ≤ n, ∃ v, logits j = some v ∧ v ≤ best) ∧
      ∀ j < token, ∀ v, logits j = some v → v < best := by
  induction n generalizing best token with
  | zero =>
    rw [argmaxScan] at h
    cases hv : logits 0 with
    | none => rw [hv] at h; cases h
    | some v =>
      rw [hv] at h
      cases h
      refine ⟨hv, fun j hj => ?_, fun j hj => absurd hj (Nat.not_lt_zero j)⟩
      obtain rfl := Nat.le_zero.1 hj
      exact ⟨best, hv, le_refl _⟩
  | succ n ih =>
    rw [argmaxScan] at h
    rcases hs : argmaxScan logits n with _ | ⟨b, t⟩
    · rw [hs] at h; cases h
    cases hv : logits (n + 1) with
    | none => rw [hs, hv] at h; cases h
    | some v =>
      rw [hs, hv] at h
      obtain ⟨hvalue, hfinite, hfirst⟩ := ih hs
      dsimp only at h
      split_ifs at h with hlt
      · cases h
        refine ⟨hv, fun j hj => ?_, fun j hj w hw => ?_⟩
        · rcases Nat.le_succ_iff.1 hj with hj | rfl
          · obtain ⟨w, hw, hle⟩ := hfinite j hj
            exact ⟨w, hw, hle.trans hlt.le⟩
          · exact ⟨best, hv, le_refl _⟩
        · obtain ⟨w', hw', hle⟩ := hfinite j (Nat.le_of_lt_succ hj)
          rw [hw] at hw'
          cases hw'
          exact hle.trans_lt hlt
      · cases h
        refine ⟨hvalue, fun j hj => ?_, hfirst⟩
        rcases Nat.le_succ_iff.1 hj with hj | rfl
        · exact hfinite j hj
        · exact ⟨v, hv, not_lt.1 hlt⟩

/-- **What `ArgmaxFinite` finds.** -/
theorem argmaxFinite_greatest {logits : ℕ → Logit} {r : Row} {t : Int} (h : argmaxFinite logits r = some t) :
    ∃ (i : ℕ) (best : ℚ), t = i ∧ Greatest logits r i best := by
  unfold argmaxFinite at h
  rcases hs : argmaxScan (fun i => logits (r * kVocabSize + i)) (kVocabSize - 1) with _ | ⟨best, token⟩
  · rw [hs] at h; cases h
  · rw [hs] at h
    cases h
    have hlt : kVocabSize - 1 < kVocabSize := by decide
    obtain ⟨hvalue, hfinite, hfirst⟩ := argmaxScan_greatest _ _ hs
    exact ⟨token, best, rfl, (argmaxScan_le _ _ hs).trans_lt hlt, hvalue,
      fun j hj => hfinite j (Nat.le_pred_of_lt hj), hfirst⟩

/-! ## The calls of an epoch -/

/-- `n` decoder calls: the state before each of them, and what the decoder answered -/
structure Calls (env : Env) (inp : Inputs) (start finish : Decode) (n : ℕ) (state : ℕ → Decode)
    (out : ℕ → DecoderOutputs) : Prop where
  first : state 0 = start
  call : ∀ k < n, CallStep env inp (state k) (out k) (state (k + 1))
  last : state n = finish

theorem steps_states {env : Env} {inp : Inputs} {n : ℕ} {s s' : Decode} (h : Steps env inp n s s') :
    ∃ state out, Calls env inp s s' n state out := by
  induction h with
  | done s =>
    refine ⟨fun _ => s, fun _ => ⟨fun _ => none, s.key, s.value, s.position⟩, rfl, fun k hk => ?_, rfl⟩
    exact absurd hk (Nat.not_lt_zero k)
  | @call n s s₁ s' hactive hstep rest ih =>
    obtain ⟨answer, hanswer⟩ := decodeStep_ok hstep
    obtain ⟨state, out, hfirst, hcall, hlast⟩ := ih
    refine ⟨fun k => k.casesOn s state, fun k => k.casesOn answer out, rfl, fun k hk => ?_, hlast⟩
    cases k with
    | zero =>
      show CallStep env inp s answer (state 0)
      rw [hfirst]
      exact hanswer
    | succ k => exact hcall k (Nat.lt_of_succ_lt_succ hk)

section Calls

variable {env : Env} {inp : Inputs} {start finish : Decode} {n : ℕ} {state : ℕ → Decode} {out : ℕ → DecoderOutputs}

theorem calls_number (hc : Calls env inp start finish n state out) (hzero : start.loc.model_calls = 0) {k : ℕ}
    (hk : k ≤ n) : (state k).loc.model_calls = k := by
  induction k with
  | zero => rw [hc.first, hzero]
  | succ k ih => rw [(hc.call k hk).calls, ih (Nat.le_of_succ_le hk)]

/-- the row invariant before every call -/
theorem calls_known (hc : Calls env inp start finish n state out) (hstart : Known inp start) {k : ℕ} (hk : k ≤ n) :
    Known inp (state k) := by
  induction k with
  | zero => rwa [hc.first]
  | succ k ih => exact known_step (hc.call k hk) (ih (Nat.le_of_succ_le hk))

/-- a row that has stopped stays as it is -/
theorem calls_stopped (hc : Calls env inp start finish n state out) {k j : ℕ} (hkj : k ≤ j) (hj : j ≤ n) {r : Row}
    (hidle : (state k).active r = 0) : (state j).row r = (state k).row r := by
  induction j, hkj using Nat.le_induction with
  | base => rfl
  | succ j hkj ih =>
    have hsame := ih (Nat.le_of_succ_le hj)
    have hactive : (state j).active r = 0 := (congrArg RowView.active hsame).trans hidle
    exact (callStep_idle (hc.call j hj) hactive).1.trans hsame

/-- an entry of the history is written by its own call only -/
theorem calls_history (hc : Calls env inp start finish n state out) (hzero : start.loc.model_calls = 0) {k j : ℕ}
    (hkj : k + 1 ≤ j) (hj : j ≤ n) (r : Row) :
    (state j).loc.history_tokens (k * 4 + r) = (state (k + 1)).loc.history_tokens (k * 4 + r) := by
  have hr : r.val < 4 := r.isLt
  induction j, hkj using Nat.le_induction with
  | base => rfl
  | succ j hkj ih =>
    rw [← ih (Nat.le_of_succ_le hj)]
    refine (hc.call j hj).history _ (Or.inl ?_)
    rw [calls_number hc hzero (Nat.le_of_succ_le hj)]
    omega

/-- **The token of a call** a row was active in. -/
theorem calls_generated (hc : Calls env inp start finish n state out) (hzero : start.loc.model_calls = 0)
    (hstart : Known inp start) {r : Row} {k : ℕ} (hk : (k : Int) < finish.loc.executed r) :
    k < n ∧ argmaxFinite (out k).logits r = some (finish.loc.history_tokens (k * 4 + r)) := by
  have hexecuted {j : ℕ} (hj : j ≤ n) : ((state j).row r).executed ≤ j := by
    obtain ⟨m, hm⟩ := calls_known hc hstart hj r
    rw [hm.executed]
    exact_mod_cast calls_number hc hzero hj ▸ hm.le
  have hlast : ((state n).row r).executed = finish.loc.executed r := by rw [hc.last]; rfl
  have hkn : k < n := by
    have hle := hexecuted (le_refl n)
    omega
  refine ⟨hkn, ?_⟩
  have hactive : (state k).active r ≠ 0 := by
    intro hidle
    have hsame := congrArg RowView.executed (calls_stopped hc hkn.le (le_refl n) hidle)
    have hle := hexecuted hkn.le
    omega
  obtain ⟨t, htoken, -, -, -, hentry⟩ := callStep_generate (hc.call k hkn) hactive
  rw [calls_number hc hzero hkn.le, ← calls_history hc hzero hkn (le_refl n) r, hc.last] at hentry
  rw [hentry]
  exact htoken

end Calls

/-! ## Indices -/

theorem computeSlot_eq {inp : Inputs} (h : checkBlockTable inp = .ok ()) (r : Row) {position : Int} (h0 : 0 ≤ position)
    (h1 : position < kLogicalCapacity) :
    computeSlot inp.block_table r position = inp.block_table (r * kBlocksPerRequest) * kBlockSize + position := by
  have hr : r.val < 4 := r.isLt
  have hlt : position < 8 := h1
  have hblock : position / (kBlockSize : Int) = 0 := Int.ediv_eq_zero_of_lt h0 (by simp only [kBlockSize]; omega)
  have hoffset : position % (kBlockSize : Int) = position := Int.emod_eq_of_lt h0 (by simp only [kBlockSize]; omega)
  have hrange := checkBlockTable_range h (i := r * kBlocksPerRequest) (by simp only [kBlocksPerRequest]; omega)
  unfold computeSlot
  rw [if_neg (by omega)]
  simp only [hblock, hoffset, Int.toNat_zero, Nat.add_zero]
  rw [if_neg (by decide), if_neg (by omega)]

/-- where a row stands: at a position of its first block, with that position's slot, or at the capacity with none -/
structure InRange (inp : Inputs) (s : Decode) (r : Row) : Prop where
  position : 0 ≤ s.position_values r ∧ s.position_values r ≤ kLogicalCapacity
  block : 0 ≤ inp.block_table (r * kBlocksPerRequest) ∧ inp.block_table (r * kBlocksPerRequest) < kPhysicalBlocks
  slot : s.slot r = if s.position_values r = kLogicalCapacity then -1
    else inp.block_table (r * kBlocksPerRequest) * kBlockSize + s.position_values r

/-- **Every index of every call** is in range; before a call no row is at the capacity. -/
theorem calls_range {env : Env} {inp : Inputs} {d : Device} {loc : Locals} {finish : Decode} {n : ℕ} {state : ℕ → Decode}
    {out : ℕ → DecoderOutputs} (hv : Validated inp) (hn : n ≤ inp.max_steps.toNat)
    (hc : Calls env inp (Decode.start d inp loc) finish n state out) (hzero : loc.model_calls = 0)
    (hstart : Known inp (Decode.start d inp loc)) {k : ℕ} (hk : k ≤ n) (r : Row) :
    InRange inp (state k) r ∧ (k < n → (state k).position_values r < kLogicalCapacity) := by
  have hr : r.val < 4 := r.isLt
  obtain ⟨m, hm⟩ := calls_known hc hstart hk r
  have hle : m ≤ k := calls_number hc hzero hk ▸ hm.le
  have hrow := hv.row r
  have hposition : (state k).position_values r = inp.position r + m := hm.position
  have hslot : (state k).slot r = if m = 0 then inp.slot r else nextSlot inp r ((state k).position_values r) := hm.slot
  have hsteps := hv.max_steps.1
  obtain ⟨hlow, hhigh⟩ := hrow.position
  have hroom : (state k).position_values r ≤ kLogicalCapacity ∧
      (k < n ∨ m = 0 → (state k).position_values r < kLogicalCapacity) := by
    rcases hrow.active with hidle | hon
    · obtain ⟨-, hzero', -, -⟩ := hm.going (Or.inr hidle)
      rw [if_pos hidle] at hzero'
      rw [hposition, hzero']
      exact ⟨by omega, fun _ => by omega⟩
    · have hcapacity := (hrow.running hon).capacity
      rw [hposition]
      exact ⟨by omega, fun h => by omega⟩
  have hrange := checkBlockTable_range hv.block_table (i := r * kBlocksPerRequest) (by simp only [kBlocksPerRequest]; omega)
  refine ⟨⟨⟨by omega, hroom.1⟩, hrange, ?_⟩, fun hlt => hroom.2 (Or.inl hlt)⟩
  by_cases hfull : (state k).position_values r = kLogicalCapacity
  · have hpos : m ≠ 0 := fun h0 => (hroom.2 (Or.inr h0)).ne hfull
    rw [if_pos hfull, hslot, if_neg hpos]
    exact if_pos hfull
  · have hlt : (state k).position_values r < kLogicalCapacity := lt_of_le_of_ne hroom.1 hfull
    rw [if_neg hfull, ← computeSlot_eq hv.block_table r (by omega) hlt, hslot]
    by_cases h0 : m = 0
    · rw [if_pos h0, hrow.slot, hposition, h0, Nat.cast_zero, Int.add_zero]
    · rw [if_neg h0]
      exact if_neg hfull

/-! ## An OK call of `Proc` -/

namespace Emission

def finish_reason (e : Emission) (r : Row) : Int := e.control (kControlReasonOffset + r)

/-- the call in which a row generated its first EOS -/
def firstEos (e : Emission) (eos : Int) (r : Row) : Option ℕ :=
  (List.range kMaxEpochSteps).find? fun k => e.token_history (k * 4 + r) = eos

/-- the last token of a row that has one -/
def lastToken (e : Emission) (r : Row) : Int := e.token_history (((e.executed r).toNat - 1) * 4 + r)

end Emission

@[simp] theorem emit_reason (inp : Inputs) (loc : Locals) (status : Status) (final_active : Row → Int) (r : Row) :
    (emit inp loc status final_active).finish_reason r = (loc.finish_reason r).code := by
  fin_cases r <;> rfl

/-- a row that was active at the start -/
structure GreedyRow (inp : Inputs) (out : ℕ → DecoderOutputs) (m' : Metadata) (e : Emission) (r : Row) : Prop where
  executed : e.executed r = match e.firstEos (inp.eos r) r with
    | some i => min inp.max_steps (i + 1)
    | none => inp.max_steps
  tokens : ∀ k : ℕ, (k : Int) < e.executed r →
    ∃ (i : ℕ) (best : ℚ), e.token_history (k * 4 + r) = i ∧ Greatest (out k).logits r i best
  rest : ∀ k : ℕ, e.executed r ≤ k → e.token_history (k * 4 + r) = -1
  eos : ∀ k : ℕ, (k : Int) + 1 < e.executed r → e.token_history (k * 4 + r) ≠ inp.eos r
  reason : e.finish_reason r = if e.lastToken r = inp.eos r then FinishReason.eos.code else FinishReason.maxSteps.code
  token : m'.token r = e.lastToken r
  position : m'.position r = inp.position r + e.executed r
  length : m'.length r = inp.position r + e.executed r + 1

/-- a row that was not -/
structure IdleRow (inp : Inputs) (m m' : Metadata) (e : Emission) (r : Row) : Prop where
  executed : e.executed r = 0
  history : ∀ k : ℕ, e.token_history (k * 4 + r) = -1
  reason : e.finish_reason r =
    if inp.length r = 0 then FinishReason.empty.code else FinishReason.alreadyFinished.code
  metadata : m.SameRow m' r

/-- what an OK call reports of its decoder calls, and leaves of them -/
structure BoundedGreedy (env : Env) (inp : Inputs) (m m' : Metadata) (e : Emission) (state : ℕ → Decode)
    (out : ℕ → DecoderOutputs) : Prop where
  start : ∃ d loc, state 0 = Decode.start d inp loc
  calls : ∀ k : ℕ, (k : Int) < e.model_calls →
    (state k).loc.model_calls = k ∧ CallStep env inp (state k) (out k) (state (k + 1))
  active : ∀ r, inp.active r = 1 → GreedyRow inp out m' e r
  idle : ∀ r, inp.active r = 0 → IdleRow inp m m' e r
  rows : ∀ r, inp.active r = 0 ∨ inp.active r = 1
  model_calls : IsGreatest (Set.range e.executed) e.model_calls
  range : ∀ k : ℕ, (k : Int) ≤ e.model_calls → ∀ r, InRange inp (state k) r
  room : ∀ k : ℕ, (k : Int) < e.model_calls → ∀ r, (state k).position_values r < kLogicalCapacity
  history : ∀ k : ℕ, (k : Int) < e.model_calls → ∀ r : Row, k * 4 + r < kMaxEpochSteps * 4
  table : ∀ i < 4 * kBlocksPerRequest, 0 ≤ inp.block_table i ∧ inp.block_table i < kPhysicalBlocks

section Greedy

variable {env : Env} {inp : Inputs} {e : Emission} {r : Row}

/-- the first EOS of a column in which only the last token can be one -/
theorem firstEos_column {k : ℕ} (hk : k < kMaxEpochSteps) (heos : 0 ≤ inp.eos r)
    (hbefore : ∀ j < k, e.token_history (j * 4 + r) ≠ inp.eos r)
    (hafter : ∀ j, k + 1 ≤ j → e.token_history (j * 4 + r) = -1) :
    e.firstEos (inp.eos r) r = if e.token_history (k * 4 + r) = inp.eos r then some k else none := by
  unfold Emission.firstEos
  by_cases hlast : e.token_history (k * 4 + r) = inp.eos r
  · rw [if_pos hlast, List.find?_range_eq_some]
    refine ⟨decide_eq_true hlast, List.mem_range.2 hk, fun j hj => ?_⟩
    simpa using hbefore j hj
  · rw [if_neg hlast, List.find?_eq_none]
    intro j _ hj
    have hj : e.token_history (j * 4 + r) = inp.eos r := of_decide_eq_true hj
    rcases lt_trichotomy j k with hlt | rfl | hlt
    · exact hbefore j hlt hj
    · exact hlast hj
    · rw [hafter j hlt] at hj
      omega

/-- the loop's view of a row, as the emission reports it -/
structure Reported (inp : Inputs) (e : Emission) (n : ℕ) (s : Decode) : Prop where
  model_calls : e.model_calls = n
  executed : ∀ r, e.executed r = s.loc.executed r
  history : ∀ i, e.token_history i = s.loc.history_tokens i
  reason : ∀ r, e.finish_reason r = (finishMaxSteps inp s.loc.finish_reason r).code

theorem emit_reported {n : ℕ} {s : Decode} (hcalls : s.loc.model_calls = n) : Reported inp
    (emit inp { s.loc with finish_reason := finishMaxSteps inp s.loc.finish_reason } .ok s.active) n s where
  model_calls := congrArg Nat.cast hcalls
  executed := fun r => emit_executed inp _ .ok s.active r
  history := fun _ => rfl
  reason := fun r => emit_reason inp _ .ok s.active r

variable {d d' dp : Device} {loc : Locals} {n : ℕ} {s : Decode} {state : ℕ → Decode} {out : ℕ → DecoderOutputs}

theorem greedy_active (hv : Validated inp) (hc : Calls env inp (Decode.start dp inp loc) s n state out)
    (hzero : loc.model_calls = 0) (hstart : Known inp (Decode.start dp inp loc)) (hn : n ≤ inp.max_steps.toNat)
    (hend : n = inp.max_steps.toNat ∨ countActive s.active = 0) (hposition : s.position = s.position_values)
    (hr : Reported inp e n s) (ha : inp.active r = 1) : GreedyRow inp out (commit dp inp s).metadata e r := by
  have hon : inp.active r ≠ 0 := by rw [ha]; decide
  have hm := calls_known hc hstart (le_refl n) r
  rw [calls_number hc hzero (le_refl n), hc.last] at hm
  obtain ⟨m, hm⟩ := hm
  obtain ⟨hpos, hshort⟩ := ended_row hend hm hon hv.max_steps.1
  obtain ⟨k, rfl⟩ : ∃ k, m = k + 1 := ⟨m - 1, by omega⟩
  have hexecuted : e.executed r = (k + 1 : ℕ) := (hr.executed r).trans hm.executed
  have hentry (j : ℕ) : e.token_history (j * 4 + r) = s.column r j := hr.history _
  have hlast : e.lastToken r = s.column r k := by
    unfold Emission.lastToken
    rw [hexecuted, Int.toNat_natCast, Nat.add_sub_cancel, hentry]
  have hle := hm.le
  have hmax : inp.max_steps.toNat ≤ kMaxEpochSteps := by
    have := hv.max_steps.2
    omega
  have hbefore (j : ℕ) (hj : j < k) : e.token_history (j * 4 + r) ≠ inp.eos r := by
    rw [hentry]
    exact hm.eos j (Nat.succ_lt_succ hj)
  have hafter (j : ℕ) (hj : k + 1 ≤ j) : e.token_history (j * 4 + r) = -1 := by
    rw [hentry]
    exact hm.rest j hj
  -- a row that is still active at the end has not met its EOS
  have hstopped : (s.row r).active = 0 ↔ s.column r k = inp.eos r := by
    constructor
    · intro hv
      exact (hm.stopped hv hon).2.1
    · intro heos
      by_contra hv
      exact (hm.going (Or.inl hv)).2.2.1 hpos heos
  refine ⟨?_, fun j hj => ?_, fun j hj => ?_, fun j hj => ?_, ?_, ?_, ?_, ?_⟩
  · rw [firstEos_column (by omega) (hv.eos r).1 hbefore hafter, hentry, hexecuted]
    by_cases heos : s.column r k = inp.eos r
    · rw [if_pos heos]
      have hsteps : ((k + 1 : ℕ) : Int) ≤ inp.max_steps := by omega
      exact (min_eq_right (by exact_mod_cast hsteps)).symm
    · rw [if_neg heos]
      have hfull : ¬k + 1 < inp.max_steps.toNat := fun hlt => heos (hshort hlt)
      show ((k + 1 : ℕ) : Int) = inp.max_steps
      omega
  · rw [hr.executed] at hj
    obtain ⟨-, htoken⟩ := calls_generated hc hzero hstart hj
    rw [hr.history]
    exact argmaxFinite_greatest htoken
  · exact hafter j (by omega)
  · exact hbefore j (by omega)
  · rw [hr.reason, hlast]
    have hreason : (s.row r).finish_reason = s.loc.finish_reason r := rfl
    unfold finishMaxSteps
    by_cases heos : s.column r k = inp.eos r
    · have hfinish := (hm.stopped (hstopped.2 heos) hon).2.2
      rw [hreason] at hfinish
      rw [if_pos heos, hfinish, if_neg (by simp)]
    · have hfinish := (hm.going (Or.inl (mt hstopped.1 heos))).2.2.2
      rw [hreason] at hfinish
      rw [if_neg heos, hfinish, startReason, if_pos ha, if_pos ⟨ha, rfl⟩]
  · rw [hlast]
    have htoken := hm.token
    rw [if_neg (Nat.succ_ne_zero k), Nat.add_sub_cancel] at htoken
    exact (if_neg hon).trans htoken
  · have hadvanced : s.position_values r = inp.position r + (k + 1 : ℕ) := hm.position
    rw [hexecuted, ← hadvanced, ← hposition]
    exact if_neg hon
  · have hadvanced : s.position_values r = inp.position r + (k + 1 : ℕ) := hm.position
    have hlength := hm.length
    rw [if_neg (Nat.succ_ne_zero k)] at hlength
    rw [hexecuted, ← hadvanced]
    exact (if_neg hon).trans hlength

theorem greedy_idle (h : epoch env inp d = (d', .ok, e)) (hc : Calls env inp (Decode.start dp inp loc) s n state out)
    (hzero : loc.model_calls = 0) (hstart : Known inp (Decode.start dp inp loc)) (hr : Reported inp e n s)
    (ha : inp.active r = 0) : IdleRow inp d.metadata d'.metadata e r := by
  obtain ⟨hexecuted, -, hsame⟩ := epoch_idle h ha
  have hm := calls_known hc hstart (le_refl n) r
  rw [calls_number hc hzero (le_refl n), hc.last] at hm
  obtain ⟨m, hm⟩ := hm
  obtain ⟨-, hnone, -, hfinish⟩ := hm.going (Or.inr ha)
  rw [if_pos ha] at hnone
  subst hnone
  have hoff : ¬inp.active r = 1 := by rw [ha]; decide
  have hreason : (s.row r).finish_reason = s.loc.finish_reason r := rfl
  refine ⟨hexecuted, fun k => ?_, ?_, hsame⟩
  · rw [hr.history]
    exact hm.rest k (Nat.zero_le k)
  · rw [hr.reason, finishMaxSteps, if_neg fun hmax => hoff hmax.1, ← hreason, hfinish, startReason, if_neg hoff]
    split_ifs <;> rfl

/-- the model calls are those of the longest row -/
theorem greedy_calls (h : epoch env inp d = (d', .ok, e)) (hs : Steps env inp n (Decode.start dp inp loc) s)
    (hr : Reported inp e n s) : IsGreatest (Set.range e.executed) e.model_calls := by
  by_cases hany : ∃ r, inp.active r ≠ 0
  · obtain ⟨r, ha⟩ := hany
    obtain ⟨hle, longest, -, hlongest⟩ := epoch_model_calls h ha
    refine ⟨⟨longest, hlongest⟩, ?_⟩
    rintro _ ⟨row, rfl⟩
    exact hle row
  · have hidle (r : Row) : inp.active r = 0 := not_not.1 fun ha => hany ⟨r, ha⟩
    have hnone (r : Row) : e.executed r = 0 := (epoch_idle h (hidle r)).1
    have hzero : e.model_calls = 0 := by
      rw [hr.model_calls]
      cases hs with
      | done => rfl
      | call hactive _ _ =>
        obtain ⟨r, ha⟩ := countActive_ne_zero hactive
        exact absurd (hidle r) ha
    rw [hzero]
    refine ⟨⟨0, hnone 0⟩, ?_⟩
    rintro _ ⟨row, rfl⟩
    exact (hnone row).le

/-- an epoch that ends with status OK -/
theorem epoch_bounded (h : epoch env inp d = (d', .ok, e)) :
    ∃ state out, BoundedGreedy env inp d.metadata d'.metadata e state out := by
  have hok : (epoch env inp d).2.1 = .ok := by rw [h]
  obtain ⟨dp, loc, n, s, hp, hn, hs, hend, heq⟩ := epoch_ok hok
  rw [h] at heq
  obtain ⟨hcommit, he⟩ := Prod.mk.inj heq
  have he := (Prod.mk.inj he).2
  obtain ⟨hzero, hstart⟩ := prepared_start hp
  obtain ⟨state, out, hc⟩ := steps_states hs
  have hcalls : s.loc.model_calls = n := hc.last ▸ calls_number hc hzero (le_refl n)
  have hr : Reported inp e n s := he ▸ emit_reported hcalls
  have hv := hp.validated
  have hle {k : ℕ} (hk : (k : Int) ≤ e.model_calls) : k ≤ n := by
    rw [hr.model_calls] at hk
    exact_mod_cast hk
  have hlt {k : ℕ} (hk : (k : Int) < e.model_calls) : k < n := by
    rw [hr.model_calls] at hk
    exact_mod_cast hk
  refine ⟨state, out, ⟨dp, loc, hc.first⟩, fun k hk => ⟨calls_number hc hzero (hlt hk).le, hc.call k (hlt hk)⟩,
    fun r ha => ?_, fun r ha => greedy_idle h hc hzero hstart hr ha, fun r => (hv.row r).active, greedy_calls h hs hr,
    fun k hk r => (calls_range hv hn hc hzero hstart (hle hk) r).1,
    fun k hk r => (calls_range hv hn hc hzero hstart (hlt hk).le r).2 (hlt hk), fun k hk r => ?_,
    fun i hi => checkBlockTable_range hv.block_table hi⟩
  · rw [hcommit]
    exact greedy_active hv hc hzero hstart hn hend (steps_position hs rfl) hr ha
  · have hsteps := hv.max_steps.2
    have hk := hlt hk
    have hrow : r.val < 4 := r.isLt
    have hcap : (kMaxEpochSteps : Int) = 8 := rfl
    rw [hcap] at hsteps
    simp only [kMaxEpochSteps]
    omega

end Greedy

theorem allocResident_metadata {plat : Platform} {s : Resident} {d : Device} (h : allocResident plat s = .ok d) :
    d.metadata = s.metadata := by
  unfold allocResident at h
  split at h
  · cases h
    rfl
  · split at h
    · cases h
      rfl
    · cases h

/-- what a call emits when both outputs can be set -/
theorem proc_emits {plat : Platform} {env : Env} {s : Resident} {inputs : List (Option FlowMsg)} {inp : Inputs}
    {d d' : Device} {status : Status} {e : Emission} (hread : readInputs plat inputs = some inp)
    (halloc : allocResident plat s = .ok d) (hepoch : epoch env inp d = (d', status, e))
    (hset : ∀ index, env.set_output index = FLOW_FUNC_SUCCESS) : (proc plat env s inputs).emitted = some e := by
  unfold proc
  rw [hread, halloc]
  dsimp only
  rw [hepoch]
  dsimp only
  rw [if_neg (not_not.2 (hset 0)), if_neg (not_not.2 (hset 1))]

/-- an OK call is an OK epoch -/
theorem proc_ok {plat : Platform} {env : Env} {s : Resident} {inputs : List (Option FlowMsg)} {inp : Inputs} {e : Emission}
    (hread : readInputs plat inputs = some inp) (he : (proc plat env s inputs).emitted = some e)
    (hok : e.control 3 = Status.ok.code) : ∃ d d', d.metadata = s.metadata ∧
      (proc plat env s inputs).resident = d'.toResident ∧ epoch env inp d = (d', .ok, e) := by
  obtain ⟨inp', d, hread', halloc, he, hresident⟩ := proc_emitted he
  obtain rfl : inp = inp' := Option.some.inj (hread.symm.trans hread')
  rw [he, epoch_status] at hok
  exact ⟨d, _, allocResident_metadata halloc, hresident, Prod.ext rfl (Prod.ext ((Status.code_eq_zero _).1 hok) he.symm)⟩

/-- **An OK call of `Proc` is bounded greedy decoding.** -/
theorem proc_greedy {plat : Platform} {env : Env} {s : Resident} {inputs : List (Option FlowMsg)} {inp : Inputs}
    {e : Emission} (hread : readInputs plat inputs = some inp) (he : (proc plat env s inputs).emitted = some e)
    (hok : e.control 3 = Status.ok.code) :
    ∃ state out, BoundedGreedy env inp s.metadata (proc plat env s inputs).resident.metadata e state out := by
  obtain ⟨d, d', hmetadata, hresident, hepoch⟩ := proc_ok hread he hok
  rw [hresident, ← hmetadata]
  exact epoch_bounded hepoch

/-- a platform on which every allocation succeeds -/
def Platform.granted : Platform := ⟨true, true, some fun _ => 0, some fun _ => 0⟩

theorem granted_alloc (s : Resident) : ∃ d, allocResident .granted s = .ok d := by
  obtain ⟨key, value, metadata⟩ := s
  cases key <;> cases value <;> exact ⟨_, rfl⟩

/-- **Every admissible plain call** of a total decoder is answered, with status OK. -/
theorem total_commits {decoder : ModelInputs → ModelReply} (ht : Total decoder) {env : Env} (hr : Runs env decoder)
    (hset : ∀ index, env.set_output index = FLOW_FUNC_SUCCESS) {s : Resident} {inputs : List (Option FlowMsg)} {inp : Inputs}
    (hread : readInputs .granted inputs = some inp) (hv : Validated inp) (hplain : inp.importing = false)
    (hc : ∀ r, inp.active r ≠ 0 → Continues s.metadata inp r ∨ Starts s.metadata inp r) :
    ∃ e, (proc .granted env s inputs).emitted = some e ∧ e.control 3 = Status.ok.code := by
  obtain ⟨d, halloc⟩ := granted_alloc s
  rw [← allocResident_metadata halloc] at hc
  obtain ⟨d', e, hepoch⟩ := total_epoch ht hr hv hplain hc
  refine ⟨e, proc_emits hread halloc hepoch hset, ?_⟩
  have hstatus := epoch_status env inp d
  rwa [hepoch] at hstatus

/-! ### One row -/

/-- the tensors of a plain call on row 0, whose generation is 1 -/
def rowInputs (token position : Int) : List (Option FlowMsg) :=
  [int64Msg [token, 0, 0, 0], int64Msg [position, 0, 0, 0], int32Msg [position + 1, 0, 0, 0],
    int32Msg [position, 256, 512, 768], int32Msg [1, 0, 0, 0], int32Msg [0, 1, 2, 3, 4, 5, 6, 7], uint8Msg (fun _ => 0) 72,
    int32Msg [2, 9, 9, 9, 9, 0, 0, 1, 0, 0, 0]]

/-- what the UDF reads of them -/
def rowRead (token position : Int) : Inputs where
  max_steps := 2
  eos := fun r => [2, 9, 9, 9, 9, 0, 0, 1, 0, 0, 0].getD (1 + r) 0
  sampling_mode := 0
  graph_variant := 0
  importing := false
  import_mask := 0
  row_generation := fun r => [2, 9, 9, 9, 9, 0, 0, 1, 0, 0, 0].getD (7 + r) 0
  token := fun r => [token, 0, 0, 0].getD r 0
  position := fun r => [position, 0, 0, 0].getD r 0
  length := fun r => [position + 1, 0, 0, 0].getD r 0
  slot := fun r => [position, 256, 512, 768].getD r 0
  active := fun r => [1, 0, 0, 0].getD r 0
  block_table := fun i => [0, 1, 2, 3, 4, 5, 6, 7].getD i 0
  tiling := fun _ => 0
  payload := fun _ => 0

theorem rowInputs_read (plat : Platform) (h : plat.alloc_outputs = true) (token position : Int) :
    readInputs plat (rowInputs token position) = some (rowRead token position) := by
  unfold readInputs
  rw [h]
  rfl

/-- row 0 starts generation 1 -/
def oneRowInputs : List (Option FlowMsg) := rowInputs 12 0

def oneRowRead : Inputs := rowRead 12 0

theorem oneRow_valid : Validated oneRowRead := by
  obtain ⟨reasons, hvalid⟩ : ∃ reasons, validate oneRowRead = .ok reasons := ⟨_, rfl⟩
  exact ((validate_ok_iff _ _).1 hvalid).1

theorem oneRow_starts (r : Row) (hr : oneRowRead.active r ≠ 0) : Starts init.metadata oneRowRead r :=
  ⟨by revert r; decide, by revert r; decide, by revert r; decide⟩

theorem proc_greedy_oneRow : ∃ e, (proc .granted .steady init oneRowInputs).emitted = some e ∧
    e.control 3 = Status.ok.code ∧ ∃ state out, BoundedGreedy .steady oneRowRead init.metadata
      (proc .granted .steady init oneRowInputs).resident.metadata e state out := by
  have hread : readInputs .granted oneRowInputs = some oneRowRead := rowInputs_read .granted rfl 12 0
  obtain ⟨e, hemitted, hok⟩ := total_commits steady_total steady_runs (fun _ => rfl) hread oneRow_valid rfl
    fun r hr => Or.inr (oneRow_starts r hr)
  exact ⟨e, hemitted, hok, proc_greedy hread hemitted hok⟩

end Cruise.Controller
