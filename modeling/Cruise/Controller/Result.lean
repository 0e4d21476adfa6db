/-
What an OK epoch reports, and what it leaves behind.

Results, for a call of the UDF that ends with status OK:
- `epoch_words`: the inputs were validated, and the status and checksum words say so.
- `epoch_row`: an active row has at least one token and at most `max_steps`, fewer only if the last is its EOS, and
  holds afterwards what the next call of its generation must ask for.
- `epoch_idle`: a row that was not active has no token, and its metadata is as it was.
- `epoch_model_calls`: the model calls are the steps of the longest row.
-/
import Cruise.Controller.Loop

namespace Cruise.Controller

open Cruise.Lib

/-! ## The emitted words -/

namespace Emission

def model_calls (e : Emission) : Int := e.control 4

def executed (e : Emission) (r : Row) : Int := e.control (kControlExecutedOffset + r)

def generation (e : Emission) (r : Row) : Int := e.control (kControlGenerationOutputOffset + r)

/-- the tokens of a row: its column of the history, as far as the row was executed -/
def tokens (e : Emission) (r : Row) : List Int :=
  (List.range (e.executed r).toNat).map fun k => e.token_history (k * 4 + r)

theorem tokens_length (e : Emission) (r : Row) : (e.tokens r).length = (e.executed r).toNat := by
  rw [tokens, List.length_map, List.length_range]

/-- the last token, of a row with `n + 1` of them -/
theorem tokens_getLast (e : Emission) (r : Row) {n : ℕ} (h : e.executed r = (n + 1 : ℕ)) :
    (e.tokens r).getLast? = some (e.token_history (n * 4 + r)) := by
  rw [tokens, h, Int.toNat_natCast, List.range_succ, List.map_append, List.map_singleton, List.getLast?_append]
  rfl

end Emission

/-- what an OK epoch says of an active row, and what it leaves of it -/
structure RowResult (inp : Inputs) (e : Emission) (d' : Device) (r : Row) : Prop where
  executed : 1 ≤ e.executed r ∧ e.executed r ≤ inp.max_steps
  range : ∀ t ∈ e.tokens r, 0 ≤ t ∧ t < kVocabSize
  /-- only the last token can be the EOS -/
  eos : ∀ t ∈ (e.tokens r).dropLast, t ≠ inp.eos r
  short : e.executed r < inp.max_steps → (e.tokens r).getLast? = some (inp.eos r)
  reported : e.generation r = inp.row_generation r
  generation : d'.metadata.generation r = inp.row_generation r
  token : (e.tokens r).getLast? = some (d'.metadata.token r)
  position : d'.metadata.position r = inp.position r + e.executed r
  length : d'.metadata.length r = d'.metadata.position r + 1
  valid : d'.metadata.valid r = 1

/-! ## The loop's end -/

/-- the decoder's position tensor is the positions the loop keeps -/
theorem callStep_position {env : Env} {inp : Inputs} {s s' : Decode} {out : DecoderOutputs}
    (hc : CallStep env inp s out s') : s'.position = s'.position_values := by
  funext r
  rw [hc.position]
  have hrow := hc.row r
  have hval : s'.position_values r = (s'.row r).position := rfl
  rw [hval]
  generalize s'.row r = v', s.loc.history_tokens _ = t, s'.loc.history_tokens _ = t' at hrow
  cases hrow with
  | idle _ hposition => exact hposition
  | generate t _ _ _ _ => rfl

theorem steps_position {env : Env} {inp : Inputs} {n : ℕ} {s s' : Decode} (hs : Steps env inp n s s')
    (h : s.position = s.position_values) : s'.position = s'.position_values :=
  hs.inv (fun s => s.position = s.position_values) (fun _ _ _ _ hc _ => callStep_position hc) h

section Ended

variable {env : Env} {inp : Inputs} {d dp : Device} {loc : Locals} {n : ℕ} {s : Decode}

/-- the loop starts with no call made and every row as the request has it -/
theorem prepared_start (hp : Prepared inp d dp loc) : loc.model_calls = 0 ∧
    ∀ r, ∃ m, RowInv inp r (Decode.start dp inp loc).loc.model_calls ((Decode.start dp inp loc).column r)
      ((Decode.start dp inp loc).row r) m := by
  obtain ⟨checksum, -, hloc⟩ := hp.locals
  have hzero : loc.model_calls = 0 := by rw [hloc]; rfl
  refine ⟨hzero, fun r => ⟨0, ?_⟩⟩
  show RowInv inp r loc.model_calls _ _ 0
  rw [hzero]
  exact rowInv_start inp r dp loc (by rw [hloc]; rfl) (by rw [hloc]; rfl) (by rw [hloc])

theorem prepared_calls (hp : Prepared inp d dp loc) (hs : Steps env inp n (Decode.start dp inp loc) s) :
    s.loc.model_calls = n := by
  rw [hs.calls]
  show loc.model_calls + n = n
  rw [(prepared_start hp).1, Nat.zero_add]

theorem prepared_rowInv (hp : Prepared inp d dp loc) (hs : Steps env inp n (Decode.start dp inp loc) s) (r : Row) :
    ∃ m, RowInv inp r n (s.column r) (s.row r) m := by
  rw [← prepared_calls hp hs]
  exact steps_rowInv hs (prepared_start hp).2 r

/-- a row that was active and has not stopped used the whole budget -/
theorem ended_row (hend : n = inp.max_steps.toNat ∨ countActive s.active = 0) {r : Row} {m : ℕ}
    (h : RowInv inp r n (s.column r) (s.row r) m) (ha : inp.active r ≠ 0) (h1 : 1 ≤ inp.max_steps) :
    0 < m ∧ (m < inp.max_steps.toNat → s.column r (m - 1) = inp.eos r) := by
  by_cases hv : (s.row r).active = 0
  · obtain ⟨hpos, heos, -⟩ := h.stopped hv ha
    exact ⟨hpos, fun _ => heos⟩
  · obtain ⟨-, hm, -, -⟩ := h.going (Or.inl hv)
    rw [if_neg ha] at hm
    have hall : n = inp.max_steps.toNat := hend.resolve_right fun h0 => hv (countActive_eq_zero h0 r)
    exact ⟨by omega, fun hlt => absurd hlt (by omega)⟩

end Ended

/-! ## Results -/

section Ok

variable {env : Env} {inp : Inputs} {d d' : Device} {e : Emission}

/-- the words of an OK epoch that are not a row's -/
structure EpochWords (inp : Inputs) (e : Emission) : Prop where
  validated : Validated inp
  status : e.control 3 = 0
  model_calls : 0 ≤ e.model_calls ∧ e.model_calls ≤ inp.max_steps
  checksum : ∃ checksum : UInt32, e.control 5 = if inp.importing then checksumWord checksum else 0

theorem epoch_words (h : epoch env inp d = (d', .ok, e)) : EpochWords inp e := by
  have hok : (epoch env inp d).2.1 = .ok := by rw [h]
  obtain ⟨dp, loc, n, s, hp, hn, hs, hend, heq⟩ := epoch_ok hok
  rw [h] at heq
  have he := (Prod.mk.inj (Prod.mk.inj heq).2).2
  have hcalls : e.model_calls = (n : ℕ) := by
    rw [he]
    exact congrArg Nat.cast (prepared_calls hp hs)
  refine ⟨hp.validated, ?_, ?_, s.loc.import_checksum, ?_⟩
  · rw [he]
    rfl
  · have h1 := hp.validated.max_steps.1
    rw [hcalls]
    omega
  · rw [he]
    rfl

/-- **An active row of an OK epoch.** -/
theorem epoch_row (h : epoch env inp d = (d', .ok, e)) {r : Row} (ha : inp.active r ≠ 0) : RowResult inp e d' r := by
  have hok : (epoch env inp d).2.1 = .ok := by rw [h]
  obtain ⟨dp, loc, n, s, hp, hn, hs, hend, heq⟩ := epoch_ok hok
  rw [h] at heq
  obtain ⟨rfl, he⟩ := Prod.mk.inj heq
  have he := (Prod.mk.inj he).2
  obtain ⟨m, hm⟩ := prepared_rowInv hp hs r
  have h1 := hp.validated.max_steps.1
  obtain ⟨hpos, hshort⟩ := ended_row hend hm ha h1
  obtain ⟨k, rfl⟩ : ∃ k, m = k + 1 := ⟨m - 1, by omega⟩
  have hon : inp.active r = 1 := (hp.validated.row r).active.resolve_left ha
  have hexec : e.executed r = (k + 1 : ℕ) := by
    rw [he]
    exact (emit_executed inp _ .ok s.active r).trans hm.executed
  have hhist (i : ℕ) : e.token_history (i * 4 + r) = s.column r i := by rw [he]; rfl
  have hlast := e.tokens_getLast r hexec
  rw [hhist] at hlast
  have hle := hm.le
  refine ⟨⟨by rw [hexec]; omega, by rw [hexec]; omega⟩, ?_, ?_, ?_, ?_, ?_, ?_, ?_, ?_, ?_⟩
  · intro t ht
    obtain ⟨i, hi, rfl⟩ := List.mem_map.1 ht
    rw [hexec, Int.toNat_natCast] at hi
    rw [hhist]
    exact hm.range i (List.mem_range.1 hi)
  · intro t ht
    rw [Emission.tokens, hexec, Int.toNat_natCast, List.range_succ, List.map_append, List.map_singleton,
      List.dropLast_concat] at ht
    obtain ⟨i, hi, rfl⟩ := List.mem_map.1 ht
    rw [hhist]
    exact hm.eos i (Nat.succ_lt_succ (List.mem_range.1 hi))
  · intro hlt
    rw [hexec] at hlt
    rw [hlast]
    exact congrArg some (hshort (by omega))
  · rw [he]
    exact (emit_generation inp _ .ok s.active r).trans (if_pos hon)
  · exact if_neg ha
  · rw [hlast]
    refine congrArg some ?_
    have htok := hm.token
    rw [if_neg (Nat.succ_ne_zero k)] at htok
    exact htok.symm.trans (if_neg ha).symm
  · rw [hexec]
    have hposition : s.position r = inp.position r + (k + 1 : ℕ) :=
      (congrFun (steps_position hs rfl) r).trans hm.position
    exact (if_neg ha).trans hposition
  · have hlength : s.length r = s.position_values r + 1 := by
      have := hm.length
      rwa [if_neg (Nat.succ_ne_zero k)] at this
    have hcommit : (commit dp inp s).metadata.length r = s.length r := if_neg ha
    have hcommit' : (commit dp inp s).metadata.position r = s.position r := if_neg ha
    rw [hcommit, hcommit', hlength, congrFun (steps_position hs rfl) r]
  · exact if_neg ha

/-- the metadata of one row -/
def Metadata.SameRow (m m' : Metadata) (r : Row) : Prop :=
  m'.generation r = m.generation r ∧ m'.token r = m.token r ∧ m'.position r = m.position r ∧
    m'.length r = m.length r ∧ m'.valid r = m.valid r

/-- **A row that was not active.** -/
theorem epoch_idle (h : epoch env inp d = (d', .ok, e)) {r : Row} (ha : inp.active r = 0) :
    e.executed r = 0 ∧ e.generation r = 0 ∧ d.metadata.SameRow d'.metadata r := by
  have hok : (epoch env inp d).2.1 = .ok := by rw [h]
  obtain ⟨dp, loc, n, s, hp, hn, hs, hend, heq⟩ := epoch_ok hok
  rw [h] at heq
  obtain ⟨rfl, he⟩ := Prod.mk.inj heq
  have he := (Prod.mk.inj he).2
  obtain ⟨m, hm⟩ := prepared_rowInv hp hs r
  obtain ⟨-, hm0, -, -⟩ := hm.going (Or.inr ha)
  rw [if_pos ha] at hm0
  subst hm0
  obtain ⟨ng, -, rfl⟩ := hp.continuity
  have hnot : r ∉ importWritten inp := by
    intro hr
    have hon := (importWritten_active inp hr).2
    rw [ha] at hon
    cases hon
  have hmeta : d.metadata.SameRow (importPhase inp d).1.metadata r := by
    rw [importPhase_device]
    exact ⟨if_neg hnot, if_neg hnot, if_neg hnot, if_neg hnot, if_neg hnot⟩
  refine ⟨?_, ?_, ?_⟩
  · rw [he]
    exact (emit_executed inp _ .ok s.active r).trans hm.executed
  · rw [he]
    refine (emit_generation inp _ .ok s.active r).trans (if_neg ?_)
    rw [ha]
    decide
  · rw [← clearRows_metadata (importPhase inp d).1 ng] at hmeta
    obtain ⟨h1, h2, h3, h4, h5⟩ := hmeta
    exact ⟨(if_pos ha).trans h1, (if_pos ha).trans h2, (if_pos ha).trans h3, (if_pos ha).trans h4,
      (if_pos ha).trans h5⟩

/-- **The model calls** of an OK epoch are the steps of its longest row. -/
theorem epoch_model_calls (h : epoch env inp d = (d', .ok, e)) {r₀ : Row} (ha : inp.active r₀ ≠ 0) :
    (∀ r, e.executed r ≤ e.model_calls) ∧ ∃ r, inp.active r ≠ 0 ∧ e.executed r = e.model_calls := by
  have hok : (epoch env inp d).2.1 = .ok := by rw [h]
  obtain ⟨dp, loc, n, s, hp, hn, hs, hend, heq⟩ := epoch_ok hok
  rw [h] at heq
  obtain ⟨rfl, he⟩ := Prod.mk.inj heq
  have he := (Prod.mk.inj he).2
  have hinv := prepared_rowInv hp hs
  obtain ⟨hzero, hstart⟩ := prepared_start hp
  have hcalls := prepared_calls hp hs
  have hmodel : e.model_calls = n := by
    rw [he, ← hcalls]
    rfl
  have hexec (r : Row) : e.executed r = (s.row r).executed := by
    rw [he]
    exact emit_executed inp _ .ok s.active r
  refine ⟨fun r => ?_, ?_⟩
  · obtain ⟨m, hm⟩ := hinv r
    rw [hexec, hm.executed, hmodel]
    exact_mod_cast hm.le
  · -- a row active at the start has a token, so the loop made a call
    obtain ⟨m, hm⟩ := hinv r₀
    have hpos := (ended_row hend hm ha hp.validated.max_steps.1).1
    have hle := hm.le
    rcases steps_longest hs hstart hzero with h0 | ⟨r, hr⟩
    · omega
    · refine ⟨r, fun hidle => ?_, ?_⟩
      · obtain ⟨m', hm'⟩ := hinv r
        obtain ⟨-, hm0, -, -⟩ := hm'.going (Or.inr hidle)
        rw [if_pos hidle] at hm0
        have hzero' := hm'.executed
        rw [hm0] at hzero'
        have : ((s.row r).executed : Int) = s.loc.model_calls := hr
        rw [hcalls, hzero'] at this
        omega
      · rw [hexec, hmodel, ← hcalls]
        exact hr

end Ok

end Cruise.Controller
