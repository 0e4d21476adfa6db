/-
The decode loop, row by row.

One decoder call does to each row one of two things (`RowStep`): nothing, or it generates a token, advances the row by one
position and stops it when the token is its EOS. Results:
- `decodeStep_ok`, `decodeStep_exists`: a successful call makes every row's step, and a call whose rows can all make
  theirs succeeds.
- `Steps`, `decodeLoop_ok_iff`: the loop is a number of successful calls, ended by the budget or by the last row's EOS.
- `RowInv`, `rowInv_step`, `steps_rowInv`: what every call preserves of a row, and so what holds of it after the loop.
- `epoch_ok`: an OK epoch is a prepared device, a loop and a commit.
-/
import Cruise.Controller.Validation

namespace Cruise.Controller

open Cruise.Lib

/-! ## One row of one call -/

/-- everything a call keeps about a row -/
@[ext] structure RowView where
  token : Int
  length : Int
  slot : Int
  active : Int
  position : Int
  executed : Int
  finish_reason : FinishReason

def RowWrites.row (w : RowWrites) (r : Row) : RowView :=
  ⟨w.token r, w.length r, w.slot r, w.active r, w.position_values r, w.loc.executed r, w.loc.finish_reason r⟩

def Decode.row (s : Decode) (r : Row) : RowView :=
  ⟨s.token r, s.length r, s.slot r, s.active r, s.position_values r, s.loc.executed r, s.loc.finish_reason r⟩

@[simp] theorem rowWrites_row (s : Decode) (r : Row) : s.rowWrites.row r = s.row r := rfl

/-- the row after generating `t` at `position` -/
def RowView.advance (inp : Inputs) (r : Row) (v : RowView) (t position : Int) : RowView where
  token := t
  length := position + 1
  slot := nextSlot inp r position
  active := if t = inp.eos r then 0 else v.active
  position := position
  executed := v.executed + 1
  finish_reason := if t = inp.eos r then .eos else v.finish_reason

/-- what a call does to a row: its view and its history entry, before and after -/
inductive RowStep (inp : Inputs) (out : DecoderOutputs) (r : Row) (v : RowView) (h : Int) : RowView → Int → Prop
  | idle (hactive : v.active = 0) (hposition : out.position r = v.position) : RowStep inp out r v h v h
  | generate (t : Int) (hactive : v.active ≠ 0) (htoken : argmaxFinite out.logits r = some t)
      (hposition : out.position r = v.position + 1)
      (hslot : out.position r ≠ kLogicalCapacity → 0 ≤ computeSlot inp.block_table r (out.position r)) :
      RowStep inp out r v h (v.advance inp r t (out.position r)) t

/-- the index of a row's entry in the history of the `calls`-th call -/
def historyIndex (calls : ℕ) (r : Row) : ℕ := (calls - 1) * 4 + r

theorem historyIndex_inj (calls : ℕ) {r r' : Row} (h : historyIndex calls r = historyIndex calls r') : r = r' :=
  Fin.ext (Nat.add_left_cancel h)

theorem advanceRow_spec (inp : Inputs) (w : RowWrites) (r : Row) (t position : Int) :
    (advanceRow inp w r t position).row r = (w.row r).advance inp r t position ∧
      (∀ r' ≠ r, (advanceRow inp w r t position).row r' = w.row r') ∧
      (advanceRow inp w r t position).loc.model_calls = w.loc.model_calls ∧
      (advanceRow inp w r t position).loc.import_checksum = w.loc.import_checksum ∧
      (advanceRow inp w r t position).loc.history_tokens =
        Function.update w.loc.history_tokens (historyIndex w.loc.model_calls r) t := by
  unfold advanceRow
  by_cases ht : t = inp.eos r
  · refine ⟨?_, fun r' hr => ?_, ?_, ?_, ?_⟩
    · simp [RowWrites.row, RowView.advance, recordToken, ht]
    · simp [RowWrites.row, recordToken, ht, Function.update_of_ne hr]
    all_goals simp [recordToken, ht, historyIndex]
  · refine ⟨?_, fun r' hr => ?_, ?_, ?_, ?_⟩
    · simp [RowWrites.row, RowView.advance, recordToken, ht]
    · simp [RowWrites.row, recordToken, ht, Function.update_of_ne hr]
    all_goals simp [recordToken, ht, historyIndex]

/-- the row loop's pass over row `r` -/
theorem decodeRow_ok (inp : Inputs) (out : DecoderOutputs) (active : Row → Int) (w w' : RowWrites) (r : Row)
    (ha : w.active r = active r) (h : decodeRow inp out active w r = .ok w') :
    RowStep inp out r (w.row r) (w.loc.history_tokens (historyIndex w.loc.model_calls r)) (w'.row r)
        (w'.loc.history_tokens (historyIndex w.loc.model_calls r)) ∧
      (∀ r' ≠ r, w'.row r' = w.row r') ∧ w'.loc.model_calls = w.loc.model_calls ∧
      w'.loc.import_checksum = w.loc.import_checksum ∧
      ∀ i ≠ historyIndex w.loc.model_calls r, w'.loc.history_tokens i = w.loc.history_tokens i := by
  unfold decodeRow at h
  by_cases h0 : active r = 0
  · rw [if_pos h0] at h
    by_cases hp : out.position r ≠ w.position_values r
    · rw [if_pos hp] at h
      cases h
    · rw [if_neg hp] at h
      cases h
      exact ⟨.idle (ha.trans h0) (not_not.1 hp), fun _ _ => rfl, rfl, rfl, fun _ _ => rfl⟩
  · rw [if_neg h0] at h
    cases ht : argmaxFinite out.logits r with
    | none => simp only [ht] at h; cases h
    | some t =>
      simp only [ht] at h
      by_cases hp : out.position r ≠ w.position_values r + 1
      · rw [if_pos hp] at h
        cases h
      · rw [if_neg hp] at h
        by_cases hs : out.position r ≠ kLogicalCapacity ∧ computeSlot inp.block_table r (out.position r) < 0
        · rw [if_pos hs] at h
          cases h
        · rw [if_neg hs] at h
          cases h
          obtain ⟨h1, h2, h3, h4, h5⟩ := advanceRow_spec inp w r t (out.position r)
          refine ⟨?_, h2, h3, h4, fun i hi => ?_⟩
          · rw [h1, h5, Function.update_self]
            exact .generate t (fun h => h0 (ha.symm.trans h)) ht (not_not.1 hp)
              fun hc => not_lt.1 fun hlt => hs ⟨hc, hlt⟩
          · rw [h5, Function.update_of_ne hi]

/-- a row that can make its step lets the pass succeed -/
theorem decodeRow_exists (inp : Inputs) (out : DecoderOutputs) (active : Row → Int) (w : RowWrites) (r : Row)
    (ha : w.active r = active r) {h h' : Int} {v' : RowView} (hstep : RowStep inp out r (w.row r) h v' h') :
    ∃ w', decodeRow inp out active w r = .ok w' := by
  unfold decodeRow
  cases hstep with
  | idle hactive hposition =>
    have hp : ¬ out.position r ≠ w.position_values r := not_not.2 hposition
    rw [if_pos (ha.symm.trans hactive), if_neg hp]
    exact ⟨w, rfl⟩
  | generate t hactive htoken hposition hslot =>
    rw [if_neg fun h0 => hactive (ha.trans h0)]
    simp only [htoken]
    have hp : ¬ out.position r ≠ w.position_values r + 1 := not_not.2 hposition
    rw [if_neg hp, if_neg fun hs => absurd (hslot hs.1) (not_le.2 hs.2)]
    exact ⟨_, rfl⟩

/-! ## One call -/

/-- where the loop stands in its `k`-th call once the rows `pre` are done -/
structure RowsDone (inp : Inputs) (out : DecoderOutputs) (s : Decode) (pre : List Row) (w : RowWrites) : Prop where
  done : ∀ r ∈ pre, RowStep inp out r (s.row r) (s.loc.history_tokens (historyIndex (s.loc.model_calls + 1) r))
    (w.row r) (w.loc.history_tokens (historyIndex (s.loc.model_calls + 1) r))
  todo : ∀ r ∉ pre, w.row r = s.row r ∧ w.loc.history_tokens (historyIndex (s.loc.model_calls + 1) r) =
    s.loc.history_tokens (historyIndex (s.loc.model_calls + 1) r)
  calls : w.loc.model_calls = s.loc.model_calls + 1
  checksum : w.loc.import_checksum = s.loc.import_checksum
  history : ∀ i, (∀ r, i ≠ historyIndex (s.loc.model_calls + 1) r) → w.loc.history_tokens i = s.loc.history_tokens i

theorem rowsDone_start (inp : Inputs) (out : DecoderOutputs) (s : Decode) : RowsDone inp out s [] s.rowWrites :=
  ⟨fun r h => (by cases h), fun _ _ => ⟨rfl, rfl⟩, rfl, rfl, fun _ _ => rfl⟩

theorem rowsDone_step {inp : Inputs} {out : DecoderOutputs} {s : Decode} {pre : List Row} {r : Row} {w w' : RowWrites}
    (hr : r ∉ pre) (hd : RowsDone inp out s pre w) (h : decodeRow inp out s.active w r = .ok w') :
    RowsDone inp out s (pre ++ [r]) w' := by
  obtain ⟨hrow, hhist⟩ := hd.todo r hr
  have ha : w.active r = s.active r := congrArg RowView.active hrow
  obtain ⟨h1, h2, h3, h4, h5⟩ := decodeRow_ok inp out s.active w w' r ha h
  rw [hd.calls] at h1 h5
  rw [hrow, hhist] at h1
  have hother (r' : Row) (hne : r' ≠ r) : w'.loc.history_tokens (historyIndex (s.loc.model_calls + 1) r') =
      w.loc.history_tokens (historyIndex (s.loc.model_calls + 1) r') := h5 _ fun he => hne (historyIndex_inj _ he)
  refine ⟨fun r' hr' => ?_, fun r' hr' => ?_, h3.trans hd.calls, h4.trans hd.checksum, fun i hi => ?_⟩
  · rcases List.mem_append.1 hr' with hr' | hr'
    · have hne : r' ≠ r := fun he => hr (he ▸ hr')
      rw [h2 r' hne, hother r' hne]
      exact hd.done r' hr'
    · rw [List.mem_singleton.1 hr']
      exact h1
  · obtain ⟨hpre, hlast⟩ := not_or.1 (fun h => hr' (List.mem_append.2 h))
    have hne : r' ≠ r := fun he => hlast (he ▸ List.mem_singleton_self r)
    rw [h2 r' hne, hother r' hne]
    exact hd.todo r' hpre
  · rw [h5 i (hi r)]
    exact hd.history i hi

theorem rowsDone_exists {inp : Inputs} {out : DecoderOutputs} {s : Decode} {pre : List Row} {r : Row} {w : RowWrites}
    (hr : r ∉ pre) (hd : RowsDone inp out s pre w) {h h' : Int} {v' : RowView}
    (hstep : RowStep inp out r (s.row r) h v' h') : ∃ w', decodeRow inp out s.active w r = .ok w' := by
  obtain ⟨hrow, -⟩ := hd.todo r hr
  exact decodeRow_exists inp out s.active w r (congrArg RowView.active hrow) (hrow ▸ hstep)

/-- one decoder call, as a relation between the loop's states -/
structure CallStep (env : Env) (inp : Inputs) (s : Decode) (out : DecoderOutputs) (s' : Decode) : Prop where
  reply : (env.run_flow_model s.loc.model_calls (s.modelInputs inp)).ret = FLOW_FUNC_SUCCESS
  outputs : decoderOutputs (env.run_flow_model s.loc.model_calls (s.modelInputs inp)).outputs = some out
  alloc : env.alloc_next s.loc.model_calls = true
  row : ∀ r, RowStep inp out r (s.row r) (s.loc.history_tokens (s.loc.model_calls * 4 + r)) (s'.row r)
    (s'.loc.history_tokens (s.loc.model_calls * 4 + r))
  position : s'.position = out.position
  key : s'.key = out.key
  value : s'.value = out.value
  calls : s'.loc.model_calls = s.loc.model_calls + 1
  checksum : s'.loc.import_checksum = s.loc.import_checksum
  history : ∀ i, i < s.loc.model_calls * 4 ∨ s.loc.model_calls * 4 + 4 ≤ i →
    s'.loc.history_tokens i = s.loc.history_tokens i

theorem rowsDone_fold {inp : Inputs} {out : DecoderOutputs} {s : Decode} {w : RowWrites}
    (h : rows.foldlM (decodeRow inp out s.active) s.rowWrites = .ok w) : RowsDone inp out s rows w := by
  refine foldlM_inv (decodeRow inp out s.active) (RowsDone inp out s) rows (fun pre r post w w' hl hd hw => ?_)
    (rowsDone_start inp out s) h
  have hnodup := rows_nodup
  rw [hl, List.nodup_append] at hnodup
  exact rowsDone_step (fun hr => hnodup.2.2 r hr r List.mem_cons_self rfl) hd hw

/-- **One decoder call.** A successful call makes every row's step. -/
theorem decodeStep_ok {env : Env} {inp : Inputs} {s s' : Decode} (h : decodeStep env inp s = .ok s') :
    ∃ out, CallStep env inp s out s' := by
  unfold decodeStep at h
  by_cases hret : (env.run_flow_model s.loc.model_calls (s.modelInputs inp)).ret ≠ FLOW_FUNC_SUCCESS
  · simp only [if_pos hret] at h
    cases h
  · simp only [if_neg hret] at h
    cases hout : decoderOutputs (env.run_flow_model s.loc.model_calls (s.modelInputs inp)).outputs with
    | none => simp only [hout] at h; cases h
    | some out =>
      simp only [hout] at h
      cases halloc : env.alloc_next s.loc.model_calls with
      | false => simp only [halloc] at h; cases h
      | true =>
        simp only [halloc] at h
        obtain ⟨w, hw, h⟩ := except_bind_ok.1 h
        cases h
        have hd := rowsDone_fold hw
        have hidx (r : Row) : historyIndex (s.loc.model_calls + 1) r = s.loc.model_calls * 4 + r := by
          rw [historyIndex, Nat.add_sub_cancel]
        refine ⟨out, not_not.1 hret, hout, halloc, fun r => ?_, rfl, rfl, rfl, hd.calls, hd.checksum, fun i hi => ?_⟩
        · have := hd.done r (mem_rows r)
          rw [hidx] at this
          exact this
        · refine hd.history i fun r => ?_
          have hr : r.val < 4 := r.isLt
          rw [hidx]
          omega

/-- a call succeeds when the decoder answers and every row can make its step -/
theorem decodeStep_exists {env : Env} {inp : Inputs} {s : Decode} {out : DecoderOutputs}
    (hret : (env.run_flow_model s.loc.model_calls (s.modelInputs inp)).ret = FLOW_FUNC_SUCCESS)
    (hout : decoderOutputs (env.run_flow_model s.loc.model_calls (s.modelInputs inp)).outputs = some out)
    (halloc : env.alloc_next s.loc.model_calls = true)
    (hrow : ∀ r, ∃ v' h h', RowStep inp out r (s.row r) h v' h') : ∃ s', decodeStep env inp s = .ok s' := by
  obtain ⟨w, hw, -⟩ := foldlM_total (decodeRow inp out s.active) (RowsDone inp out s) rows
    (fun pre r post w hl hd => by
      have hnodup := rows_nodup
      rw [hl, List.nodup_append] at hnodup
      have hr : r ∉ pre := fun hr => hnodup.2.2 r hr r List.mem_cons_self rfl
      obtain ⟨v', h, h', hstep⟩ := hrow r
      obtain ⟨w', hw'⟩ := rowsDone_exists hr hd hstep
      exact ⟨w', hw', rowsDone_step hr hd hw'⟩) (rowsDone_start inp out s)
  unfold decodeStep
  simp only [hret, hout, halloc, ne_eq, not_true_eq_false, if_false, Bool.not_true, Bool.false_eq_true]
  exact ⟨_, except_bind_ok.2 ⟨w, hw, rfl⟩⟩

/-! ## The loop -/

/-- `n` successful calls, each made with a row still active -/
inductive Steps (env : Env) (inp : Inputs) : ℕ → Decode → Decode → Prop
  | done (s : Decode) : Steps env inp 0 s s
  | call {n : ℕ} {s s₁ s' : Decode} (hactive : countActive s.active ≠ 0) (hstep : decodeStep env inp s = .ok s₁)
      (rest : Steps env inp n s₁ s') : Steps env inp (n + 1) s s'

theorem Steps.split {env : Env} {inp : Inputs} {n m : ℕ} {s s' : Decode} (h : Steps env inp (n + m) s s') :
    ∃ s₁, Steps env inp n s s₁ ∧ Steps env inp m s₁ s' := by
  induction n generalizing s with
  | zero => exact ⟨s, .done s, by rwa [Nat.zero_add] at h⟩
  | succ n ih =>
    rw [Nat.succ_add] at h
    cases h with
    | call hactive hstep rest =>
      obtain ⟨s₁, h1, h2⟩ := ih rest
      exact ⟨s₁, .call hactive hstep h1, h2⟩

/-- what every call preserves holds after any number of calls -/
theorem Steps.inv {env : Env} {inp : Inputs} (P : Decode → Prop)
    (hstep : ∀ s out s', countActive s.active ≠ 0 → CallStep env inp s out s' → P s → P s')
    {n : ℕ} {s s' : Decode} (h : Steps env inp n s s') (h0 : P s) : P s' := by
  induction h with
  | done s => exact h0
  | call hactive hcall rest ih =>
    obtain ⟨out, hout⟩ := decodeStep_ok hcall
    exact ih (hstep _ out _ hactive hout h0)

theorem Steps.calls {env : Env} {inp : Inputs} {n : ℕ} {s s' : Decode} (h : Steps env inp n s s') :
    s'.loc.model_calls = s.loc.model_calls + n := by
  induction h with
  | done s => rfl
  | call hactive hcall rest ih =>
    obtain ⟨out, hout⟩ := decodeStep_ok hcall
    rw [ih, hout.calls]
    omega

/-- **The loop.** It ends normally after some calls, by its budget or because no row is active. -/
theorem decodeLoop_ok_iff (env : Env) (inp : Inputs) (fuel : ℕ) (s s' : Decode) :
    decodeLoop env inp fuel s = .ok s' ↔
      ∃ n ≤ fuel, Steps env inp n s s' ∧ (n = fuel ∨ countActive s'.active = 0) := by
  induction fuel generalizing s with
  | zero =>
    constructor
    · intro h
      cases h
      exact ⟨0, le_refl _, .done _, Or.inl rfl⟩
    · rintro ⟨n, hn, h, -⟩
      obtain rfl := Nat.le_zero.1 hn
      cases h
      rfl
  | succ fuel ih =>
    unfold decodeLoop
    by_cases ha : countActive s.active = 0
    · rw [if_pos ha]
      constructor
      · intro h
        cases h
        exact ⟨0, Nat.zero_le _, .done _, Or.inr ha⟩
      · rintro ⟨n, -, h, -⟩
        cases h with
        | done => rfl
        | call hactive => exact absurd ha hactive
    · rw [if_neg ha, except_bind_ok]
      constructor
      · rintro ⟨s₁, h1, h2⟩
        obtain ⟨n, hn, h, hend⟩ := (ih s₁).1 h2
        exact ⟨n + 1, Nat.succ_le_succ hn, .call ha h1 h, hend.imp (congrArg Nat.succ) id⟩
      · rintro ⟨n, hn, h, hend⟩
        cases h with
        | done => exact absurd (hend.resolve_left (Nat.succ_ne_zero fuel).symm) ha
        | call hactive hstep rest =>
          exact ⟨_, hstep, (ih _).2 ⟨_, Nat.le_of_succ_le_succ hn, rest, hend.imp Nat.succ.inj id⟩⟩

/-! ## What the loop knows about a row -/

theorem argmaxScan_le (logits : ℕ → Logit) (n : ℕ) {best : ℚ} {token : ℕ}
    (h : argmaxScan logits n = some (best, token)) : token ≤ n := by
  induction n generalizing best token with
  | zero =>
    rw [argmaxScan] at h
    cases hv : logits 0 with
    | none => rw [hv] at h; cases h
    | some v =>
      rw [hv] at h
      cases h
      exact le_refl _
  | succ n ih =>
    rw [argmaxScan] at h
    rcases hs : argmaxScan logits n with _ | ⟨b, t⟩
    · rw [hs] at h; cases h
    · cases hv : logits (n + 1) with
      | none => rw [hs, hv] at h; cases h
      | some v =>
        rw [hs, hv] at h
        simp only at h
        split_ifs at h
        · cases h
          exact le_refl _
        · cases h
          exact (ih hs).trans (Nat.le_succ n)

theorem argmaxFinite_range {logits : ℕ → Logit} {r : Row} {t : Int} (h : argmaxFinite logits r = some t) :
    0 ≤ t ∧ t < kVocabSize := by
  unfold argmaxFinite at h
  rcases hs : argmaxScan (fun i => logits (r * kVocabSize + i)) (kVocabSize - 1) with _ | ⟨best, token⟩
  · rw [hs] at h; cases h
  · rw [hs] at h
    cases h
    have hle := argmaxScan_le _ _ hs
    simp only [kVocabSize] at hle ⊢
    omega

/-- the row as it stands after `calls` calls, `n` of which generated a token for it; `hist` is its column of the
history -/
structure RowInv (inp : Inputs) (r : Row) (calls : ℕ) (hist : ℕ → Int) (v : RowView) (n : ℕ) : Prop where
  executed : v.executed = n
  le : n ≤ calls
  position : v.position = inp.position r + n
  token : v.token = if n = 0 then inp.token r else hist (n - 1)
  length : v.length = if n = 0 then inp.length r else v.position + 1
  slot : v.slot = if n = 0 then inp.slot r else nextSlot inp r v.position
  range : ∀ k < n, 0 ≤ hist k ∧ hist k < kVocabSize
  rest : ∀ k, n ≤ k → hist k = -1
  eos : ∀ k, k + 1 < n → hist k ≠ inp.eos r
  /-- a row that has not stopped has generated in every call, if it was active at all -/
  going : v.active ≠ 0 ∨ inp.active r = 0 → v.active = inp.active r ∧ n = (if inp.active r = 0 then 0 else calls) ∧
    (0 < n → hist (n - 1) ≠ inp.eos r) ∧ v.finish_reason = startReason inp r
  stopped : v.active = 0 → inp.active r ≠ 0 → 0 < n ∧ hist (n - 1) = inp.eos r ∧ v.finish_reason = .eos

theorem rowInv_start (inp : Inputs) (r : Row) (d : Device) (loc : Locals) (he : loc.executed = fun _ => 0)
    (hh : loc.history_tokens = fun _ => -1) (hf : loc.finish_reason = startReason inp) :
    RowInv inp r 0 (fun k => loc.history_tokens (k * 4 + r)) ((Decode.start d inp loc).row r) 0 where
  executed := congrFun he r
  le := le_refl _
  position := (Int.add_zero _).symm
  token := rfl
  length := rfl
  slot := rfl
  range := fun _ hk => absurd hk (Nat.not_lt_zero _)
  rest := fun _ _ => congrFun hh _
  eos := fun _ hk => absurd hk (Nat.not_lt_zero _)
  going := fun _ => ⟨rfl, (ite_self _).symm, fun h => absurd h (Nat.not_lt_zero 0), congrFun hf r⟩
  stopped := fun h0 h1 => absurd h0 h1

/-- **One call keeps the row invariant.** -/
theorem rowInv_step {inp : Inputs} {out : DecoderOutputs} {r : Row} {calls : ℕ} {hist hist' : ℕ → Int} {v v' : RowView}
    {n : ℕ} (h : RowInv inp r calls hist v n) (hstep : RowStep inp out r v (hist calls) v' (hist' calls))
    (hother : ∀ k ≠ calls, hist' k = hist k) :
    RowInv inp r (calls + 1) hist' v' (if v.active = 0 then n else n + 1) := by
  generalize hc : hist calls = c at hstep
  generalize hc' : hist' calls = c' at hstep
  cases hstep with
  | idle hactive hposition =>
    have hsame : hist' = hist := funext fun k => by
      by_cases hk : k = calls
      · rw [hk, hc, hc']
      · exact hother k hk
    rw [if_pos hactive, hsame]
    refine { h with le := Nat.le_succ_of_le h.le, going := fun hg => ?_ }
    obtain h0 : inp.active r = 0 := hg.resolve_left (not_not.2 hactive)
    obtain ⟨h1, h2, h3, h4⟩ := h.going (Or.inr h0)
    rw [if_pos h0] at h2 ⊢
    exact ⟨h1, h2, h3, h4⟩
  | generate t hactive htoken hposition hslot =>
    rw [if_neg hactive]
    obtain ⟨h1, h2, h3, h4⟩ := h.going (Or.inl hactive)
    have hon : inp.active r ≠ 0 := fun h0 => hactive (h1.trans h0)
    rw [if_neg hon] at h2
    subst h2
    have hpos : out.position r = inp.position r + (n + 1 : ℕ) := by rw [hposition, h.position]; push_cast; ring
    have hlast (k : ℕ) (hk : k < n) : hist' k = hist k := hother k (Nat.ne_of_lt hk)
    refine ⟨?_, le_refl _, hpos, ?_, rfl, rfl, fun k hk => ?_, fun k hk => ?_, fun k hk => ?_, fun hg => ?_, fun h0 _ => ?_⟩
    · show v.executed + 1 = _
      rw [h.executed]
      push_cast
      ring
    · rw [if_neg (Nat.succ_ne_zero n), Nat.add_sub_cancel]
      exact hc'.symm
    · rcases Nat.lt_succ_iff_lt_or_eq.1 hk with hk | rfl
      · rw [hlast k hk]
        exact h.range k hk
      · rw [hc']
        exact argmaxFinite_range htoken
    · rw [hother k (by omega)]
      exact h.rest k (by omega)
    · rw [hlast k (by omega)]
      rcases Nat.lt_or_ge (k + 1) n with hk' | hk'
      · exact h.eos k hk'
      · have : k = n - 1 := by omega
        rw [this]
        exact h3 (by omega)
    · have hne : c' ≠ inp.eos r := by
        intro he
        rcases hg with hg | hg
        · exact hg (if_pos he)
        · exact hon hg
      refine ⟨(if_neg hne).trans h1, (if_neg hon).symm, fun _ => ?_, (if_neg hne).trans h4⟩
      rw [Nat.add_sub_cancel, hc']
      exact hne
    · have he : c' = inp.eos r := by
        by_contra hne
        exact hactive ((if_neg hne).symm.trans h0)
      refine ⟨Nat.succ_pos n, ?_, if_pos he⟩
      rw [Nat.add_sub_cancel, hc', he]

/-- a row's column of the history -/
def Decode.column (s : Decode) (r : Row) : ℕ → Int := fun k => s.loc.history_tokens (k * 4 + r)

theorem callStep_rowInv {env : Env} {inp : Inputs} {s s' : Decode} {out : DecoderOutputs} {r : Row} {n : ℕ}
    (hc : CallStep env inp s out s') (h : RowInv inp r s.loc.model_calls (s.column r) (s.row r) n) :
    RowInv inp r s'.loc.model_calls (s'.column r) (s'.row r) (if s.active r = 0 then n else n + 1) := by
  rw [hc.calls]
  refine rowInv_step h (hc.row r) fun k hk => hc.history _ ?_
  have hr : r.val < 4 := r.isLt
  omega

/-- **What the loop knows about every row.** -/
theorem steps_rowInv {env : Env} {inp : Inputs} {n : ℕ} {s s' : Decode} (hs : Steps env inp n s s')
    (h : ∀ r, ∃ m, RowInv inp r s.loc.model_calls (s.column r) (s.row r) m) :
    ∀ r, ∃ m, RowInv inp r s'.loc.model_calls (s'.column r) (s'.row r) m :=
  hs.inv (fun s => ∀ r, ∃ m, RowInv inp r s.loc.model_calls (s.column r) (s.row r) m)
    (fun _ _ _ _ hc h r => (h r).elim fun _ hm => ⟨_, callStep_rowInv hc hm⟩) h

theorem countActive_ne_zero {active : Row → Int} (h : countActive active ≠ 0) : ∃ r, active r ≠ 0 := by
  by_contra hall
  simp only [not_exists, not_not] at hall
  exact h (by simp [countActive, rows, hall])

theorem countActive_eq_zero {active : Row → Int} (h : countActive active = 0) (r : Row) : active r = 0 := by
  by_contra hr
  have hnonneg : ∀ x ∈ rows.map (fun r => if active r ≠ 0 then (1 : Int) else 0), 0 ≤ x := by
    intro x hx
    obtain ⟨r', -, rfl⟩ := List.mem_map.1 hx
    split_ifs <;> decide
  have hle := List.single_le_sum hnonneg _ (List.mem_map_of_mem (mem_rows r))
  rw [if_pos hr] at hle
  rw [countActive] at h
  omega

/-- some row has generated a token in every call so far -/
theorem steps_longest {env : Env} {inp : Inputs} {n : ℕ} {s s' : Decode} (hs : Steps env inp n s s')
    (h : ∀ r, ∃ m, RowInv inp r s.loc.model_calls (s.column r) (s.row r) m) (h0 : s.loc.model_calls = 0) :
    s'.loc.model_calls = 0 ∨ ∃ r, s'.loc.executed r = s'.loc.model_calls := by
  refine (hs.inv (fun s => (∀ r, ∃ m, RowInv inp r s.loc.model_calls (s.column r) (s.row r) m) ∧
    (s.loc.model_calls = 0 ∨ ∃ r, s.loc.executed r = s.loc.model_calls)) (fun s out s' ha hc ⟨h, _⟩ => ?_)
    ⟨h, Or.inl h0⟩).2
  refine ⟨fun r => (h r).elim fun _ hm => ⟨_, callStep_rowInv hc hm⟩, Or.inr ?_⟩
  obtain ⟨r, hr⟩ := countActive_ne_zero ha
  obtain ⟨m, hm⟩ := h r
  have hall : m = s.loc.model_calls := by
    obtain ⟨h1, h2, -, -⟩ := hm.going (Or.inl hr)
    rwa [if_neg fun h0 => hr (h1.trans h0)] at h2
  have hnext := (callStep_rowInv hc hm).executed
  rw [if_neg hr] at hnext
  refine ⟨r, hnext.trans ?_⟩
  rw [hc.calls, hall]

/-! ## The epoch -/

/-- of a refusal outside the continuity check -/
def Status.Refusal (status : Status) : Prop := status ≠ .ok ∧ status ≠ .residentContinuity

instance (status : Status) : Decidable status.Refusal := by
  unfold Status.Refusal
  infer_instance

theorem checkRow_status (inp : Inputs) (r : Row) (reason : FinishReason) {status : Status}
    (h : checkRow inp r reason = .error status) : status.Refusal := by
  unfold checkRow at h
  by_cases hs : computeSlot inp.block_table r (inp.position r) ≠ inp.slot r
  · simp only [if_pos hs] at h
    split_ifs at h <;> cases h <;> decide
  · simp only [if_neg hs] at h
    split_ifs at h <;> cases h <;> decide

theorem checkEos_status (inp : Inputs) (l : List Row) {status : Status}
    (h : l.forM (fun r => if inp.eos r < 0 ∨ inp.eos r ≥ kVocabSize then Except.error Status.invalidMetadata
      else .ok ()) = .error status) : status.Refusal := by
  induction l with
  | nil => cases h
  | cons r rest ih =>
    rcases except_bind_error.1 h with h | ⟨_, -, h⟩
    · beta_reduce at h
      split_ifs at h
      cases h
      decide
    · exact ih h

theorem checkBlockTable_status (inp : Inputs) {status : Status} (h : checkBlockTable inp = .error status) :
    status.Refusal := by
  unfold checkBlockTable at h
  rcases hf : (List.range (4 * kBlocksPerRequest)).foldlM (fun (seen_blocks : List Int) index =>
    let block := inp.block_table index
    if block < 0 ∨ block ≥ kPhysicalBlocks ∨ block ∈ seen_blocks then Except.error Status.invalidBlockTable
    else Except.ok (block :: seen_blocks)) [] with e | seen
  · rw [hf] at h
    cases h
    refine foldlM_error _ (fun _ => True) Status.Refusal (fun _ _ _ _ _ => trivial) (fun s i e _ he => ?_) _ trivial hf
    simp only at he
    split_ifs at he
    cases he
    decide
  · rw [hf] at h
    cases h

theorem checkRows_status (inp : Inputs) {status : Status} (h : checkRows inp = .error status) : status.Refusal := by
  refine foldlM_error _ (fun _ => True) Status.Refusal (fun _ _ _ _ _ => trivial) (fun reasons r e _ he => ?_) rows trivial h
  rcases except_bind_error.1 he with he | ⟨reason, -, he⟩
  · exact checkRow_status inp r _ he
  · cases he

theorem validate_status (inp : Inputs) {status : Status} (h : validate inp = .error status) : status.Refusal := by
  unfold validate at h
  rcases except_bind_error.1 h with h | ⟨_, -, h⟩
  · unfold checkHeader at h
    split_ifs at h <;> cases h <;> decide
  rcases except_bind_error.1 h with h | ⟨_, -, h⟩
  · exact checkEos_status inp rows h
  rcases except_bind_error.1 h with h | ⟨_, -, h⟩
  · exact checkBlockTable_status inp h
  · exact checkRows_status inp h

theorem writtenRows_status (inp : Inputs) (l : List Row) {status : Status} (h : (writtenRows inp l).2 = .error status) :
    status.Refusal := by
  induction l with
  | nil => cases h
  | cons r rest ih =>
    simp only [writtenRows] at h
    split_ifs at h
    · exact ih h
    · cases h
      decide
    · exact ih h

theorem importPhase_status (inp : Inputs) (d : Device) {status : Status} (h : (importPhase inp d).2 = .error status) :
    status.Refusal := by
  unfold importPhase at h
  split_ifs at h
  · cases h
    decide
  · rw [importRows_eq] at h
    cases hw : (writtenRows inp rows).2 with
    | error e =>
      rw [hw] at h
      cases h
      exact writtenRows_status inp rows hw
    | ok u => rw [hw] at h; cases h

theorem continuity_status (m : Metadata) (inp : Inputs) {status : Status} (h : continuity m inp = .error status) :
    status = .residentContinuity := by
  refine foldlM_error _ (fun _ => True) (· = .residentContinuity) (fun _ _ _ _ _ => trivial) (fun ng r e _ he => ?_) rows
    trivial h
  rcases except_bind_error.1 he with he | ⟨fresh, -, he⟩
  · unfold continuityRow at he
    split_ifs at he <;> cases he <;> rfl
  · cases he

/-- a refusal before the decode loop, and where it comes from -/
theorem prepare_refusal {inp : Inputs} {d dp : Device} {status : Status} {loc : Locals}
    (h : prepare inp d = (dp, .error (status, loc))) :
    status.Refusal ∨ status = .residentContinuity ∧ (∃ checksum, (importPhase inp d).2 = .ok checksum) ∧
      continuity (importPhase inp d).1.metadata inp = .error status := by
  unfold prepare at h
  cases hv : validate inp with
  | error status =>
    simp only [hv] at h
    cases h
    exact Or.inl (validate_status inp hv)
  | ok reasons =>
    simp only [hv] at h
    rcases hi : importPhase inp d with ⟨d1, status | checksum⟩
    · simp only [hi] at h
      cases h
      exact Or.inl (importPhase_status inp d (congrArg Prod.snd hi))
    · simp only [hi] at h
      rcases hc : continuity d1.metadata inp with status | ng
      · simp only [hc] at h
        cases h
        exact Or.inr ⟨continuity_status _ _ hc, ⟨checksum, rfl⟩, rfl⟩
      · simp only [hc] at h
        cases h

theorem prepare_status (inp : Inputs) (d dp : Device) (loc : Locals) : prepare inp d ≠ (dp, .error (.ok, loc)) := by
  intro h
  rcases prepare_refusal h with hrefusal | ⟨hstatus, -⟩
  · exact hrefusal.1 rfl
  · cases hstatus

theorem decodeRow_status (inp : Inputs) (out : DecoderOutputs) (active : Row → Int) (w : RowWrites) (r : Row)
    {e : Status × Locals} (h : decodeRow inp out active w r = .error e) : e.1.Refusal := by
  unfold decodeRow at h
  cases ha : argmaxFinite out.logits r with
  | none =>
    simp only [ha] at h
    split_ifs at h <;> cases h <;> exact ⟨nofun, nofun⟩
  | some t =>
    simp only [ha] at h
    split_ifs at h <;> cases h <;> exact ⟨nofun, nofun⟩

theorem decodeStep_status (env : Env) (inp : Inputs) (s : Decode) {e : Status × Locals}
    (h : decodeStep env inp s = .error e) : e.1.Refusal := by
  unfold decodeStep at h
  cases ho : decoderOutputs (env.run_flow_model s.loc.model_calls (s.modelInputs inp)).outputs with
  | none =>
    simp only [ho] at h
    split_ifs at h <;> cases h <;> exact ⟨nofun, nofun⟩
  | some out =>
    simp only [ho] at h
    split_ifs at h
    · cases h
      exact ⟨nofun, nofun⟩
    · cases h
      exact ⟨nofun, nofun⟩
    · rcases except_bind_error.1 h with h | ⟨w, -, h⟩
      · exact foldlM_error (decodeRow inp out s.active) (fun _ => True) (fun e => e.1.Refusal)
          (fun _ _ _ _ _ => trivial) (fun w r e _ he => decodeRow_status inp out s.active w r he) rows trivial h
      · cases h

theorem decodeLoop_status {env : Env} {inp : Inputs} {fuel : ℕ} {s : Decode} {e : Status × Locals}
    (h : decodeLoop env inp fuel s = .error e) : e.1.Refusal := by
  induction fuel generalizing s with
  | zero => cases h
  | succ fuel ih =>
    unfold decodeLoop at h
    split_ifs at h
    rcases except_bind_error.1 h with h | ⟨s', -, h⟩
    · exact decodeStep_status env inp s h
    · exact ih h

/-- what a successful preparation leaves -/
structure Prepared (inp : Inputs) (d dp : Device) (loc : Locals) : Prop where
  validated : Validated inp
  locals : ∃ checksum, (importPhase inp d).2 = .ok checksum ∧
    loc = { Locals.start with finish_reason := startReason inp, import_checksum := checksum }
  continuity : ∃ ng, continuity (importPhase inp d).1.metadata inp = .ok ng ∧ dp = clearRows (importPhase inp d).1 ng

theorem prepare_ok_iff (inp : Inputs) (d dp : Device) (loc : Locals) :
    prepare inp d = (dp, .ok loc) ↔ Prepared inp d dp loc := by
  unfold prepare
  constructor
  · intro h
    cases hv : validate inp with
    | error status => simp only [hv] at h; cases h
    | ok reasons =>
      obtain ⟨hvalid, rfl⟩ := (validate_ok_iff inp reasons).1 hv
      simp only [hv] at h
      rcases hi : importPhase inp d with ⟨d1, status | checksum⟩
      · simp only [hi] at h; cases h
      · simp only [hi] at h
        rcases hc : continuity d1.metadata inp with status | ng
        · simp only [hc] at h; cases h
        · simp only [hc] at h
          cases h
          exact ⟨hvalid, ⟨checksum, by rw [hi], rfl⟩, ng, by rw [hi]; exact hc, by rw [hi]⟩
  · intro ⟨hvalid, ⟨checksum, hi, hloc⟩, ng, hc, hd⟩
    have hv := (validate_ok_iff inp _).2 ⟨hvalid, rfl⟩
    have hi' : importPhase inp d = ((importPhase inp d).1, .ok checksum) := Prod.ext rfl hi
    simp only [hv]
    rw [hi']
    simp only [hc, hd, hloc]

/-- **An OK epoch** is a prepared device, a loop and a commit. -/
theorem epoch_ok {env : Env} {inp : Inputs} {d : Device} (h : (epoch env inp d).2.1 = .ok) :
    ∃ dp loc n s, Prepared inp d dp loc ∧ n ≤ inp.max_steps.toNat ∧ Steps env inp n (Decode.start dp inp loc) s ∧
      (n = inp.max_steps.toNat ∨ countActive s.active = 0) ∧
      epoch env inp d = (commit dp inp s, .ok,
        emit inp { s.loc with finish_reason := finishMaxSteps inp s.loc.finish_reason } .ok s.active) := by
  unfold epoch at h ⊢
  rcases hp : prepare inp d with ⟨dp, ⟨status, loc⟩ | loc⟩
  · -- a refusal is never reported as OK
    simp only [hp] at h
    subst h
    exact absurd hp (prepare_status inp d dp loc)
  · simp only [hp] at h ⊢
    rcases hl : decodeLoop env inp inp.max_steps.toNat (Decode.start dp inp loc) with ⟨status, loc'⟩ | s
    · simp only [hl] at h
      subst h
      exact absurd rfl (decodeLoop_status hl).1
    · obtain ⟨n, hn, hs, hend⟩ := (decodeLoop_ok_iff env inp _ _ _).1 hl
      simp only
      exact ⟨dp, loc, n, s, (prepare_ok_iff inp d dp loc).1 hp, hn, hs, hend, rfl⟩

/-- **The continuity status** comes from the continuity check. -/
theorem epoch_continuity {env : Env} {inp : Inputs} {d : Device} (h : (epoch env inp d).2.1 = .residentContinuity) :
    (∃ checksum, (importPhase inp d).2 = .ok checksum) ∧
      continuity (importPhase inp d).1.metadata inp = .error .residentContinuity := by
  unfold epoch at h
  rcases hp : prepare inp d with ⟨dp, ⟨status, loc⟩ | loc⟩
  · simp only [hp] at h
    subst h
    rcases prepare_refusal hp with hrefusal | ⟨-, hc⟩
    · exact absurd rfl hrefusal.2
    · exact hc
  · simp only [hp] at h
    rcases hl : decodeLoop env inp inp.max_steps.toNat (Decode.start dp inp loc) with ⟨status, loc'⟩ | s
    · simp only [hl] at h
      subst h
      exact absurd rfl (decodeLoop_status hl).2
    · simp only [hl] at h
      cases h

/-- a loop from a prepared device makes an OK epoch -/
theorem epoch_ok_of {env : Env} {inp : Inputs} {d dp : Device} {loc : Locals} {n : ℕ} {s : Decode}
    (hp : Prepared inp d dp loc) (hn : n ≤ inp.max_steps.toNat) (hs : Steps env inp n (Decode.start dp inp loc) s)
    (hend : n = inp.max_steps.toNat ∨ countActive s.active = 0) :
    epoch env inp d = (commit dp inp s, .ok,
      emit inp { s.loc with finish_reason := finishMaxSteps inp s.loc.finish_reason } .ok s.active) := by
  have hprepare := (prepare_ok_iff inp d dp loc).2 hp
  have hloop := (decodeLoop_ok_iff env inp _ _ _).2 ⟨n, hn, hs, hend⟩
  unfold epoch
  simp only [hprepare, hloop]

end Cruise.Controller
