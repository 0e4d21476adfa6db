/-
What a validated call can still be refused with.

The validation makes sure of everything it checks for the whole epoch: no decoder call of a validated call comes back
with one of the validation's own statuses. `epoch_refusal`: after a validation and an import phase that passed, the call
is answered with a status from outside 201 to 206.
-/
import Cruise.Controller.Decoder

namespace Cruise.Controller

open Cruise.Lib

/-- the statuses of the checks before any resident state is touched -/
def Status.ofValidation (status : Status) : Prop := 201 ≤ status.code ∧ status.code ≤ 206

instance (status : Status) : Decidable status.ofValidation := by
  unfold Status.ofValidation
  infer_instance

/-- where a row of the running call stands: not reached yet, or done -/
def RowsAt (out : DecoderOutputs) (s : Decode) (w : RowWrites) : Prop :=
  ∀ r, w.position_values r = s.position_values r ∨ w.position_values r = out.position r

theorem rowsAt_step {inp : Inputs} {out : DecoderOutputs} {s : Decode} {w w' : RowWrites} {r : Row}
    (h : RowsAt out s w) (hrow : decodeRow inp out s.active w r = .ok w') : RowsAt out s w' := by
  unfold decodeRow at hrow
  cases ht : argmaxFinite out.logits r with
  | none =>
    simp only [ht] at hrow
    split_ifs at hrow
    cases hrow
    exact h
  | some t =>
    simp only [ht] at hrow
    split_ifs at hrow
    · cases hrow
      exact h
    · cases hrow
      intro r'
      by_cases hr : r' = r
      · subst hr
        exact Or.inr (Function.update_self _ _ _)
      · have hother : (advanceRow inp w r t (out.position r)).position_values r' = w.position_values r' :=
          Function.update_of_ne hr _ _
        rw [hother]
        exact h r'

/-- a row that has room left does not run out of it -/
theorem decodeRow_refusal {inp : Inputs} (htable : checkBlockTable inp = .ok ()) {out : DecoderOutputs} {s : Decode}
    {fuel : ℕ} (hroom : Room (fuel + 1) s) {w : RowWrites} {r : Row} (h : RowsAt out s w) {e : Status × Locals}
    (hrow : decodeRow inp out s.active w r = .error e) : ¬ e.1.ofValidation := by
  unfold decodeRow at hrow
  cases ht : argmaxFinite out.logits r with
  | none =>
    simp only [ht] at hrow
    split_ifs at hrow
    · cases hrow
      exact show ¬ Status.ofValidation .positionProgress by decide
    · cases hrow
      exact show ¬ Status.ofValidation .nonFiniteLogits by decide
  | some t =>
    simp only [ht] at hrow
    split_ifs at hrow with h0 hp hp' hslot
    · cases hrow
      exact show ¬ Status.ofValidation .positionProgress by decide
    · cases hrow
      exact show ¬ Status.ofValidation .positionProgress by decide
    · -- the next position is still inside the capacity, so it has a slot
      exfalso
      obtain ⟨hcap, hneg⟩ := hslot
      obtain ⟨hlow, hhigh⟩ := hroom.2 r h0
      push_cast at hhigh
      have hcapacity : (kLogicalCapacity : Int) = 8 := rfl
      have hposition : out.position r = s.position_values r + 1 := by
        have := h r
        omega
      have hnonneg : 0 ≤ computeSlot inp.block_table r (out.position r) := computeSlot_nonneg htable r (by omega) (by omega)
      omega

theorem decodeStep_refusal {env : Env} {inp : Inputs} (htable : checkBlockTable inp = .ok ()) {s : Decode} {fuel : ℕ}
    (hroom : Room (fuel + 1) s) {e : Status × Locals} (h : decodeStep env inp s = .error e) : ¬ e.1.ofValidation := by
  unfold decodeStep at h
  cases ho : decoderOutputs (env.run_flow_model s.loc.model_calls (s.modelInputs inp)).outputs with
  | none =>
    simp only [ho] at h
    split_ifs at h
    · cases h
      exact show ¬ Status.ofValidation .modelError by decide
    · cases h
      exact show ¬ Status.ofValidation .invalidModelOutput by decide
  | some out =>
    simp only [ho] at h
    split_ifs at h
    · cases h
      exact show ¬ Status.ofValidation .modelError by decide
    · cases h
      exact show ¬ Status.ofValidation .allocationFailure by decide
    · rcases except_bind_error.1 h with h | ⟨w, -, h⟩
      · exact foldlM_error (decodeRow inp out s.active) (RowsAt out s) (fun e => ¬ e.1.ofValidation)
          (fun w r w' hw hrow => rowsAt_step hw hrow) (fun w r e hw hrow => decodeRow_refusal htable hroom hw hrow) rows
          (fun r => Or.inl rfl) h
      · cases h

theorem decodeLoop_refusal {env : Env} {inp : Inputs} (htable : checkBlockTable inp = .ok ()) (fuel : ℕ) {s : Decode}
    (hroom : Room fuel s) {e : Status × Locals} (h : decodeLoop env inp fuel s = .error e) : ¬ e.1.ofValidation := by
  induction fuel generalizing s with
  | zero => cases h
  | succ fuel ih =>
    unfold decodeLoop at h
    split_ifs at h
    rcases except_bind_error.1 h with h | ⟨s', hstep, h⟩
    · exact decodeStep_refusal htable hroom h
    · obtain ⟨out, hcall⟩ := decodeStep_ok hstep
      exact ih (room_step hcall hroom) h

/-- **What is left to refuse.** A call that passed the validation and the import phase is answered with none of their
statuses. -/
theorem epoch_refusal {env : Env} {inp : Inputs} {d : Device} (hv : Validated inp)
    (himport : ∃ checksum, (importPhase inp d).2 = .ok checksum) : ¬ (epoch env inp d).2.1.ofValidation := by
  have hvalidate := (validate_ok_iff inp _).2 ⟨hv, rfl⟩
  obtain ⟨checksum, hchecksum⟩ := himport
  have himport' : importPhase inp d = ((importPhase inp d).1, .ok checksum) := Prod.ext rfl hchecksum
  unfold epoch prepare
  simp only [hvalidate]
  rw [himport']
  simp only
  rcases hc : continuity (importPhase inp d).1.metadata inp with status | ng
  · simp only [continuity_status _ _ hc]
    exact show ¬ Status.ofValidation .residentContinuity by decide
  · simp only
    rcases hl : decodeLoop env inp inp.max_steps.toNat (Decode.start (clearRows (importPhase inp d).1 ng) inp
        { Locals.start with finish_reason := startReason inp, import_checksum := checksum }) with ⟨status, loc⟩ | s
    · exact decodeLoop_refusal hv.block_table _ (room_start hv _ _) hl
    · exact show ¬ Status.ofValidation .ok by decide

end Cruise.Controller
