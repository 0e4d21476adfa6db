/-
What the validation accepts.

`validate` is a sequence of early returns; `Validated` is the condition it checks, row by row. Results:
- `validate_ok_iff`: the validation ends normally exactly on `Validated` inputs, with the finish reasons `startReason`.
- `continuity_iff`: the continuity check ends normally exactly when every active row continues its generation or
  starts a new one at position 0.
-/
import Cruise.Controller.Retry

namespace Cruise.Controller

open Cruise.Lib

/-! ## Rows -/

structure ActiveRow (inp : Inputs) (r : Row) : Prop where
  generation : 0 < inp.row_generation r
  length : inp.length r = inp.position r + 1
  capacity : inp.position r + inp.max_steps ≤ kLogicalCapacity

/-- an inactive row is empty, or holds a request that has already finished -/
def InactiveRow (inp : Inputs) (r : Row) : Prop :=
  if inp.length r = 0 then inp.row_generation r = 0 else inp.length r = inp.position r + 1

structure ValidRow (inp : Inputs) (r : Row) : Prop where
  active : inp.active r = 0 ∨ inp.active r = 1
  token : 0 ≤ inp.token r ∧ inp.token r < kVocabSize
  position : 0 ≤ inp.position r ∧ inp.position r < kLogicalCapacity
  running : inp.active r = 1 → ActiveRow inp r
  idle : inp.active r = 0 → InactiveRow inp r
  slot : inp.slot r = computeSlot inp.block_table r (inp.position r)

/-- the finish reason the validation leaves in a row -/
def startReason (inp : Inputs) (r : Row) : FinishReason :=
  if inp.active r = 1 then .none else if inp.length r = 0 then .empty else .alreadyFinished

theorem checkRow_ok_iff (inp : Inputs) (r : Row) (reason : FinishReason) :
    checkRow inp r .none = .ok reason ↔ ValidRow inp r ∧ reason = startReason inp r := by
  unfold checkRow startReason
  by_cases hbad : (inp.active r ≠ 0 ∧ inp.active r ≠ 1) ∨ inp.token r < 0 ∨ inp.token r ≥ kVocabSize ∨
      inp.position r < 0 ∨ inp.position r ≥ kLogicalCapacity
  · rw [if_pos hbad]
    refine iff_of_false (fun h => by cases h) fun ⟨hv, _⟩ => ?_
    obtain ⟨h1, ⟨h2, h3⟩, ⟨h4, h5⟩, -, -, -⟩ := hv
    omega
  · rw [if_neg hbad]
    obtain ⟨hact, htok, hpos⟩ : (inp.active r = 0 ∨ inp.active r = 1) ∧
        (0 ≤ inp.token r ∧ inp.token r < kVocabSize) ∧ 0 ≤ inp.position r ∧ inp.position r < kLogicalCapacity := by
      omega
    by_cases hs : computeSlot inp.block_table r (inp.position r) ≠ inp.slot r
    · refine iff_of_false (fun h => ?_) fun h => hs h.1.slot.symm
      split_ifs at h <;> cases h
    · have hslot := (not_not.1 hs).symm
      -- a refused row, and a row that ends with reason `x`
      have hno {e : Status} (hv : ¬ ValidRow inp r) {x : FinishReason} :
          ((Except.error e : Except Status FinishReason) = .ok reason ↔ ValidRow inp r ∧ reason = x) :=
        iff_of_false (fun h => by cases h) fun h => hv h.1
      have hyes (hv : ValidRow inp r) {x : FinishReason} :
          ((Except.ok x : Except Status FinishReason) = .ok reason ↔ ValidRow inp r ∧ reason = x) :=
        ⟨fun h => ⟨hv, (Except.ok.inj h).symm⟩, fun h => congrArg Except.ok h.2.symm⟩
      rcases hact with h0 | h1
      · have hidle (h : InactiveRow inp r) : ValidRow inp r :=
          ⟨Or.inl h0, htok, hpos, fun h1 => absurd (h0.symm.trans h1) (by decide), fun _ => h, hslot⟩
        have h01 : ¬ inp.active r = 1 := fun h1 => absurd (h0.symm.trans h1) (by decide)
        simp only [if_neg h01, if_neg hs]
        by_cases hl : inp.length r = 0
        · simp only [if_pos hl]
          by_cases hg : inp.row_generation r = 0
          · rw [if_neg (not_not.2 hg)]
            exact hyes (hidle ((if_pos hl).mpr hg))
          · rw [if_pos hg]
            refine hno fun hv => hg ?_
            have := hv.idle h0
            rwa [InactiveRow, if_pos hl] at this
        · simp only [if_neg hl]
          by_cases hlen : inp.length r = inp.position r + 1
          · rw [if_pos hlen]
            exact hyes (hidle ((if_neg hl).mpr hlen))
          · rw [if_neg hlen]
            refine hno fun hv => hlen ?_
            have := hv.idle h0
            rwa [InactiveRow, if_neg hl] at this
      · have h10 : ¬ inp.active r = 0 := fun h0 => absurd (h0.symm.trans h1) (by decide)
        simp only [if_pos h1, if_neg hs]
        by_cases hg : inp.row_generation r ≤ 0
        · rw [if_pos hg]
          exact hno fun hv => absurd (hv.running h1).generation (not_lt.2 hg)
        · rw [if_neg hg]
          by_cases hlen : inp.length r = inp.position r + 1
          · rw [if_neg (not_not.2 hlen)]
            by_cases hc : inp.position r + inp.max_steps > kLogicalCapacity
            · rw [if_pos hc]
              exact hno fun hv => absurd (hv.running h1).capacity (not_le.2 hc)
            · rw [if_neg hc]
              exact hyes ⟨Or.inr h1, htok, hpos, fun _ => ⟨not_le.1 hg, hlen, not_lt.1 hc⟩, fun h0 => absurd h0 h10, hslot⟩
          · rw [if_pos hlen]
            exact hno fun hv => hlen (hv.running h1).length

/-! ## The whole input -/

structure Validated (inp : Inputs) : Prop where
  max_steps : 1 ≤ inp.max_steps ∧ inp.max_steps ≤ kMaxEpochSteps
  sampling_mode : inp.sampling_mode = 0
  graph_variant : inp.graph_variant = 0
  eos : ∀ r, 0 ≤ inp.eos r ∧ inp.eos r < kVocabSize
  block_table : checkBlockTable inp = .ok ()
  row : ∀ r, ValidRow inp r

theorem checkHeader_ok_iff (inp : Inputs) : checkHeader inp = .ok () ↔
    (1 ≤ inp.max_steps ∧ inp.max_steps ≤ kMaxEpochSteps) ∧ inp.sampling_mode = 0 ∧ inp.graph_variant = 0 := by
  unfold checkHeader
  by_cases hbad : inp.max_steps < 1 ∨ inp.max_steps > kMaxEpochSteps ∨ inp.sampling_mode ≠ 0 ∨ inp.graph_variant ≠ 0
  · rw [if_pos hbad]
    refine iff_of_false (fun h => ?_) fun ⟨⟨h1, h2⟩, h3, h4⟩ => by omega
    split_ifs at h
  · rw [if_neg hbad]
    exact iff_of_true rfl (by omega)

theorem checkEos_ok_iff (inp : Inputs) : checkEos inp = .ok () ↔ ∀ r, 0 ≤ inp.eos r ∧ inp.eos r < kVocabSize := by
  unfold checkEos
  have hgen (l : List Row) : l.forM (fun r => if inp.eos r < 0 ∨ inp.eos r ≥ kVocabSize then
      Except.error Status.invalidMetadata else .ok ()) = .ok () ↔ ∀ r ∈ l, 0 ≤ inp.eos r ∧ inp.eos r < kVocabSize := by
    induction l with
    | nil => exact iff_of_true rfl fun r hr => by cases hr
    | cons r rest ih =>
      rw [List.forall_mem_cons, ← ih]
      refine except_bind_ok.trans ?_
      beta_reduce
      by_cases hbad : inp.eos r < 0 ∨ inp.eos r ≥ kVocabSize
      · rw [if_pos hbad]
        exact iff_of_false (fun ⟨_, h, _⟩ => by cases h) fun h => by omega
      · rw [if_neg hbad]
        refine ⟨fun ⟨_, _, h⟩ => ⟨by omega, h⟩, fun h => ⟨(), rfl, h.2⟩⟩
  rw [hgen]
  exact ⟨fun h r => h r (mem_rows r), fun h r _ => h r⟩

theorem checkRows_ok_iff (inp : Inputs) (reasons : Row → FinishReason) :
    checkRows inp = .ok reasons ↔ (∀ r, ValidRow inp r) ∧ reasons = startReason inp := by
  have h := foldlM_update_ok (checkRow inp) rows rows_nodup Locals.start.finish_reason reasons
  simp only [mem_rows, true_implies, not_true_eq_false, false_implies, implies_true, and_true] at h
  rw [checkRows, h]
  have hnone (r : Row) : Locals.start.finish_reason r = .none := rfl
  simp only [hnone, checkRow_ok_iff]
  constructor
  · intro h
    exact ⟨fun r => (h r).1, funext fun r => (h r).2⟩
  · rintro ⟨h1, h2⟩ r
    exact ⟨h1 r, congrFun h2 r⟩

/-- **What validation accepts.** -/
theorem validate_ok_iff (inp : Inputs) (reasons : Row → FinishReason) :
    validate inp = .ok reasons ↔ Validated inp ∧ reasons = startReason inp := by
  unfold validate
  rw [except_bind_ok]
  constructor
  · rintro ⟨_, h1, h⟩
    obtain ⟨_, h2, h⟩ := except_bind_ok.1 h
    obtain ⟨_, h3, h4⟩ := except_bind_ok.1 h
    obtain ⟨hm, hs, hg⟩ := (checkHeader_ok_iff inp).1 h1
    obtain ⟨hrow, hr⟩ := (checkRows_ok_iff inp reasons).1 h4
    exact ⟨⟨hm, hs, hg, (checkEos_ok_iff inp).1 h2, h3, hrow⟩, hr⟩
  · rintro ⟨⟨hm, hs, hg, he, hb, hrow⟩, hr⟩
    exact ⟨(), (checkHeader_ok_iff inp).2 ⟨hm, hs, hg⟩, except_bind_ok.2 ⟨(), (checkEos_ok_iff inp).2 he,
      except_bind_ok.2 ⟨(), hb, (checkRows_ok_iff inp reasons).2 ⟨hrow, hr⟩⟩⟩⟩

/-! ## Continuity -/

/-- the row holds what the plan continues -/
structure Continues (m : Metadata) (inp : Inputs) (r : Row) : Prop where
  generation : m.generation r = inp.row_generation r
  valid : m.valid r ≠ 0
  token : m.token r = inp.token r
  position : m.position r = inp.position r
  length : m.length r = inp.length r

/-- the row starts a generation it does not hold, at position 0 -/
structure Starts (m : Metadata) (inp : Inputs) (r : Row) : Prop where
  generation : m.generation r ≠ inp.row_generation r
  position : inp.position r = 0
  length : inp.length r = 1

theorem continuityRow_ok_iff (m : Metadata) (inp : Inputs) (r : Row) (fresh : Bool) :
    continuityRow m inp r = .ok fresh ↔ (inp.active r = 0 ∧ fresh = false) ∨
      (inp.active r ≠ 0 ∧ ((Continues m inp r ∧ fresh = false) ∨ (Starts m inp r ∧ fresh = true))) := by
  unfold continuityRow
  by_cases ha : inp.active r = 0
  · rw [if_pos ha]
    refine ⟨fun h => Or.inl ⟨ha, (Except.ok.inj h).symm⟩, ?_⟩
    rintro (⟨-, rfl⟩ | ⟨h, -⟩)
    · rfl
    · exact absurd ha h
  · rw [if_neg ha]
    by_cases hg : m.generation r = inp.row_generation r
    · rw [if_pos hg]
      by_cases hbad : m.valid r = 0 ∨ m.token r ≠ inp.token r ∨ m.position r ≠ inp.position r ∨ m.length r ≠ inp.length r
      · rw [if_pos hbad]
        refine iff_of_false (fun h => by cases h) ?_
        rintro (⟨h, -⟩ | ⟨-, ⟨⟨-, h1, h2, h3, h4⟩, -⟩ | ⟨⟨h, -, -⟩, -⟩⟩)
        · exact ha h
        · tauto
        · exact h hg
      · rw [if_neg hbad]
        simp only [not_or, not_not] at hbad
        obtain ⟨h1, h2, h3, h4⟩ := hbad
        refine ⟨fun h => Or.inr ⟨ha, Or.inl ⟨⟨hg, h1, h2, h3, h4⟩, (Except.ok.inj h).symm⟩⟩, ?_⟩
        rintro (⟨h, -⟩ | ⟨-, ⟨-, rfl⟩ | ⟨⟨h, -, -⟩, -⟩⟩)
        · exact absurd h ha
        · rfl
        · exact absurd hg h
    · rw [if_neg hg]
      by_cases hbad : inp.position r ≠ 0 ∨ inp.length r ≠ 1
      · rw [if_pos hbad]
        refine iff_of_false (fun h => by cases h) ?_
        rintro (⟨h, -⟩ | ⟨-, ⟨⟨h, -, -, -, -⟩, -⟩ | ⟨⟨-, h1, h2⟩, -⟩⟩)
        · exact ha h
        · exact hg h
        · tauto
      · rw [if_neg hbad]
        simp only [not_or, not_not] at hbad
        refine ⟨fun h => Or.inr ⟨ha, Or.inr ⟨⟨hg, hbad.1, hbad.2⟩, (Except.ok.inj h).symm⟩⟩, ?_⟩
        rintro (⟨h, -⟩ | ⟨-, ⟨⟨h, -, -, -, -⟩, -⟩ | ⟨-, rfl⟩⟩)
        · exact absurd h ha
        · exact absurd h hg
        · rfl

/-- **What continuity accepts.** -/
theorem continuity_iff (m : Metadata) (inp : Inputs) :
    (∃ ng, continuity m inp = .ok ng) ↔ ∀ r, inp.active r ≠ 0 → Continues m inp r ∨ Starts m inp r := by
  constructor
  · rintro ⟨ng, h⟩ r ha
    rcases (continuityRow_ok_iff m inp r _).1 ((continuity_ok m inp ng).1 h r) with ⟨h0, -⟩ | ⟨-, ⟨hc, -⟩ | ⟨hs, -⟩⟩
    · exact absurd h0 ha
    · exact Or.inl hc
    · exact Or.inr hs
  · intro h
    have hrow (r : Row) : ∃ fresh, continuityRow m inp r = .ok fresh := by
      by_cases ha : inp.active r = 0
      · exact ⟨false, (continuityRow_ok_iff m inp r _).2 (Or.inl ⟨ha, rfl⟩)⟩
      · rcases h r ha with hc | hs
        · exact ⟨false, (continuityRow_ok_iff m inp r _).2 (Or.inr ⟨ha, Or.inl ⟨hc, rfl⟩⟩)⟩
        · exact ⟨true, (continuityRow_ok_iff m inp r _).2 (Or.inr ⟨ha, Or.inr ⟨hs, rfl⟩⟩)⟩
    choose ng hng using hrow
    exact ⟨ng, (continuity_ok m inp ng).2 hng⟩

end Cruise.Controller
