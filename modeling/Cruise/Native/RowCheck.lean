/-
The row check of `resident_epoch_execute` as C++ evaluates it: operand by operand, with int64 sums that may overflow.

MODEL. The sums `input_positions[row] + max_steps` and `input_positions[row] + 1` have int64 operands and are `none` where
they overflow, which C++ leaves undefined. An operand of `||` is evaluated only when those before it are false. `rowWrites`
has the same loop with its sums in ℤ.
- `rowLoop_writes`: where nothing overflows the two loops agree.
- `rowLoop_overflow_iff`: which requests overflow.
- `row_check_exact_iff`: the check is exact and free of overflow exactly for the others.
- `row_check_overflows`: the largest position overflows in the first sum.
-/
import Cruise.Native.ServerLoop

namespace Cruise.Native

open Cruise.Lib Cruise.Controller

/-! ## The loop -/

/-- a sum of int64 operands; `none` where it overflows -/
def int64Sum (a b : Int) : Option Int := if -2 ^ 63 ≤ a + b ∧ a + b < 2 ^ 63 then some (a + b) else none

theorem int64Sum_some {a b : Int} (h : -2 ^ 63 ≤ a + b ∧ a + b < 2 ^ 63) : int64Sum a b = some (a + b) := if_pos h

theorem int64Sum_none {a b : Int} (h : 2 ^ 63 ≤ a + b) : int64Sum a b = none := if_neg fun hfits => absurd hfits.2 (not_lt.2 h)

/-- why the row loop does not come to its end -/
inductive RowStop where
  | overflow
  | status (code : Int)
deriving DecidableEq, Repr

/-- the condition on a row with a generation -/
def rowCondition (rin : RowInputs) (max_steps : Int) (r : Row) : Except RowStop Unit :=
  if (rin.row_generations r).toInt < 0 ∨ (rin.token_ids r).toInt < 0 ∨ (rin.token_ids r).toInt ≥ kVocabSize ∨
      (rin.positions r).toInt < 0 then .error (.status 11)
  else
    match int64Sum (rin.positions r).toInt max_steps with
    | none => .error .overflow
    | some last =>
      if last > kLogicalCapacity then .error (.status 11)
      else
        match int64Sum (rin.positions r).toInt 1 with
        | none => .error .overflow
        | some next =>
          if (rin.sequence_lengths r).toInt ≠ next ∨ (rin.eos_token_ids r).toInt < 0 ∨
              (rin.eos_token_ids r).toInt ≥ kVocabSize then .error (.status 11)
          else .ok ()

/-- one pass; the state is `active_count` -/
def rowPass (rin : RowInputs) (max_steps : Int) (active_count : ℕ) (r : Row) : Except RowStop ℕ :=
  if rin.row_generations r = 0 then .ok active_count
  else rowCondition rin max_steps r >>= fun _ => .ok (active_count + 1)

def rowLoop (rin : RowInputs) (max_steps request_count : Int) : Except RowStop Unit :=
  rows.foldlM (rowPass rin max_steps) 0 >>= fun active_count =>
    if active_count ≠ request_count then .error (.status 12) else .ok ()

/-! ## One row -/

/-- a row the check is meant to accept -/
structure AdmissibleRow (rin : RowInputs) (max_steps : Int) (r : Row) : Prop where
  generation : 0 < (rin.row_generations r).toInt
  token : 0 ≤ (rin.token_ids r).toInt ∧ (rin.token_ids r).toInt < 152064
  eos : 0 ≤ (rin.eos_token_ids r).toInt ∧ (rin.eos_token_ids r).toInt < 152064
  position : 0 ≤ (rin.positions r).toInt ∧ (rin.positions r).toInt ≤ 8 - max_steps
  length : (rin.sequence_lengths r).toInt = (rin.positions r).toInt + 1

/-- its position is added to before it is found too large -/
structure OverflowingRow (rin : RowInputs) (max_steps : Int) (r : Row) : Prop where
  generation : 0 < (rin.row_generations r).toInt
  token : 0 ≤ (rin.token_ids r).toInt ∧ (rin.token_ids r).toInt < 152064
  position : 2 ^ 63 - 1 - max_steps < (rin.positions r).toInt

section Row

variable {rin : RowInputs} {max_steps : Int} {r : Row}

theorem generation_ne_zero : rin.row_generations r ≠ 0 ↔ (rin.row_generations r).toInt ≠ 0 := by
  rw [ne_eq, ne_eq, ← Int32.toInt_inj, Int32.toInt_zero]

theorem valid_small (h : AdmissibleRow rin max_steps r) : ¬OverflowingRow rin max_steps r := by
  intro hover
  have hsmall := h.position.2
  have hlarge := hover.position
  omega

/-- **What the condition comes to**, for a row with a generation. -/
theorem rowCondition_cases (hsteps : 1 ≤ max_steps ∧ max_steps ≤ 8) (hactive : rin.row_generations r ≠ 0) :
    (rowCondition rin max_steps r = .ok () ∧ AdmissibleRow rin max_steps r) ∨
      (rowCondition rin max_steps r = .error .overflow ∧ OverflowingRow rin max_steps r) ∨
      (rowCondition rin max_steps r = .error (.status 11) ∧ ¬AdmissibleRow rin max_steps r ∧ ¬OverflowingRow rin max_steps r) := by
  have hvocab : (kVocabSize : Int) = 152064 := rfl
  have hcapacity : (kLogicalCapacity : Int) = 8 := rfl
  have hne := generation_ne_zero.1 hactive
  unfold rowCondition
  by_cases hfirst : (rin.row_generations r).toInt < 0 ∨ (rin.token_ids r).toInt < 0 ∨
      (rin.token_ids r).toInt ≥ kVocabSize ∨ (rin.positions r).toInt < 0
  · rw [if_pos hfirst]
    refine Or.inr (Or.inr ⟨rfl, ?_, ?_⟩)
    · rintro ⟨hgeneration, htoken, -, hposition, -⟩
      omega
    · rintro ⟨hgeneration, htoken, hposition⟩
      omega
  rw [if_neg hfirst]
  by_cases hfits : (rin.positions r).toInt + max_steps < 2 ^ 63
  · rw [int64Sum_some ⟨by omega, hfits⟩]
    dsimp only
    by_cases hlast : (rin.positions r).toInt + max_steps > kLogicalCapacity
    · rw [if_pos hlast]
      refine Or.inr (Or.inr ⟨rfl, ?_, ?_⟩)
      · rintro ⟨-, -, -, hposition, -⟩
        omega
      · rintro ⟨-, -, hposition⟩
        omega
    -- the first sum is at most 8, so the second one does not overflow
    rw [if_neg hlast, int64Sum_some ⟨by omega, by omega⟩]
    dsimp only
    split_ifs with hrest
    · refine Or.inr (Or.inr ⟨rfl, ?_, ?_⟩)
      · rintro ⟨-, -, heos, -, hlength⟩
        omega
      · rintro ⟨-, -, hposition⟩
        omega
    · exact Or.inl ⟨rfl, ⟨by omega, by omega, by omega, by omega, by omega⟩⟩
  · rw [int64Sum_none (not_lt.1 hfits)]
    exact Or.inr (Or.inl ⟨rfl, ⟨by omega, by omega, by omega⟩⟩)

theorem rowCondition_ok_iff (hsteps : 1 ≤ max_steps ∧ max_steps ≤ 8) (hactive : rin.row_generations r ≠ 0) :
    rowCondition rin max_steps r = .ok () ↔ AdmissibleRow rin max_steps r := by
  rcases rowCondition_cases hsteps hactive with ⟨h, hv⟩ | ⟨h, hover⟩ | ⟨h, hnot, -⟩
  · exact iff_of_true h hv
  · exact iff_of_false (by rw [h]; simp) fun hv => valid_small hv hover
  · exact iff_of_false (by rw [h]; simp) hnot

theorem rowCondition_overflow_iff (hsteps : 1 ≤ max_steps ∧ max_steps ≤ 8) (hactive : rin.row_generations r ≠ 0) :
    rowCondition rin max_steps r = .error .overflow ↔ OverflowingRow rin max_steps r := by
  rcases rowCondition_cases hsteps hactive with ⟨h, hv⟩ | ⟨h, hover⟩ | ⟨h, -, hnot⟩
  · exact iff_of_false (by rw [h]; simp) (valid_small hv)
  · exact iff_of_true h hover
  · exact iff_of_false (by rw [h]; simp) hnot

/-- the check with its sums in ℤ accepts the same rows -/
theorem rowAccepted_iff (hactive : rin.row_generations r ≠ 0) :
    rowAccepted rin max_steps r = true ↔ AdmissibleRow rin max_steps r := by
  have hvocab : (kVocabSize : Int) = 152064 := rfl
  have hcapacity : (kLogicalCapacity : Int) = 8 := rfl
  have hne := generation_ne_zero.1 hactive
  simp only [rowAccepted, Bool.not_eq_true', Bool.or_eq_false_iff, decide_eq_false_iff_not]
  constructor
  · intro h
    exact ⟨by omega, by omega, by omega, by omega, by omega⟩
  · rintro ⟨hgeneration, htoken, heos, hposition, hlength⟩
    omega

end Row

/-! ## All rows -/

section Rows

variable {rin : RowInputs} {max_steps request_count : Int}

/-- no row before this one ends the loop -/
def Reached (rin : RowInputs) (max_steps : Int) (r : Row) : Prop :=
  ∀ r' < r, rin.row_generations r' ≠ 0 → AdmissibleRow rin max_steps r'

/-- what the request must be -/
structure AdmissibleRows (rin : RowInputs) (max_steps request_count : Int) : Prop where
  rows : ∀ r, rin.row_generations r ≠ 0 → AdmissibleRow rin max_steps r
  count : activeCount rin = request_count

theorem rows_before {pre post : List Row} {r : Row} (h : rows = pre ++ r :: post) (r' : Row) : r' ∈ pre ↔ r' < r := by
  have hsorted : rows.Pairwise (· < ·) := by decide
  rw [h] at hsorted
  obtain ⟨-, htail, hacross⟩ := List.pairwise_append.1 hsorted
  constructor
  · intro hmem
    exact hacross r' hmem r List.mem_cons_self
  · intro hlt
    have hmem := mem_rows r'
    rw [h] at hmem
    rcases List.mem_append.1 hmem with hmem | hmem
    · exact hmem
    · rcases List.mem_cons.1 hmem with rfl | hmem
      · exact absurd hlt (lt_irrefl _)
      · exact absurd hlt ((List.pairwise_cons.1 htail).1 r' hmem).asymm

theorem rowPass_ok {count count' : ℕ} {r : Row} (hsteps : 1 ≤ max_steps ∧ max_steps ≤ 8) :
    rowPass rin max_steps count r = .ok count' ↔
      (rin.row_generations r ≠ 0 → AdmissibleRow rin max_steps r) ∧
        count' = if rin.row_generations r = 0 then count else count + 1 := by
  unfold rowPass
  by_cases hactive : rin.row_generations r = 0
  · simp [hactive, eq_comm]
  · simp only [if_neg hactive, except_bind_ok]
    constructor
    · rintro ⟨_, hcondition, hcount⟩
      exact ⟨fun _ => (rowCondition_ok_iff hsteps hactive).1 hcondition, (Except.ok.inj hcount).symm⟩
    · rintro ⟨hvalid, rfl⟩
      exact ⟨(), (rowCondition_ok_iff hsteps hactive).2 (hvalid hactive), rfl⟩

/-- the passes over some rows -/
theorem rowPasses_ok {count count' : ℕ} (hsteps : 1 ≤ max_steps ∧ max_steps ≤ 8) (l : List Row) :
    l.foldlM (rowPass rin max_steps) count = .ok count' ↔
      (∀ r ∈ l, rin.row_generations r ≠ 0 → AdmissibleRow rin max_steps r) ∧
        count' = count + l.countP fun r => rin.row_generations r ≠ 0 := by
  induction l generalizing count with
  | nil => simp [eq_comm, pure, Except.pure]
  | cons r rest ih =>
    rw [List.foldlM_cons, except_bind_ok]
    have hcount : count + (r :: rest).countP (fun r => rin.row_generations r ≠ 0) =
        (if rin.row_generations r = 0 then count else count + 1) + rest.countP fun r => rin.row_generations r ≠ 0 := by
      rw [List.countP_cons]
      by_cases hactive : rin.row_generations r = 0 <;> (simp [hactive]; try omega)
    rw [hcount]
    constructor
    · rintro ⟨next, hpass, hrest⟩
      obtain ⟨hvalid, rfl⟩ := (rowPass_ok hsteps).1 hpass
      obtain ⟨hall, hnext⟩ := ih.1 hrest
      exact ⟨List.forall_mem_cons.2 ⟨hvalid, hall⟩, hnext⟩
    · rintro ⟨hall, hnext⟩
      obtain ⟨hvalid, hrest⟩ := List.forall_mem_cons.1 hall
      exact ⟨_, (rowPass_ok hsteps).2 ⟨hvalid, rfl⟩, ih.2 ⟨hrest, hnext⟩⟩

theorem rowLoop_ok_iff (hsteps : 1 ≤ max_steps ∧ max_steps ≤ 8) :
    rowLoop rin max_steps request_count = .ok () ↔ AdmissibleRows rin max_steps request_count := by
  unfold rowLoop
  rw [except_bind_ok]
  constructor
  · rintro ⟨count, hpasses, hcount⟩
    obtain ⟨hall, rfl⟩ := (rowPasses_ok hsteps rows).1 hpasses
    split_ifs at hcount with hne
    exact ⟨fun r => hall r (mem_rows r), by simpa [activeCount] using hne⟩
  · rintro ⟨hall, hcount⟩
    refine ⟨_, (rowPasses_ok hsteps rows).2 ⟨fun r _ => hall r, rfl⟩, ?_⟩
    rw [if_neg]
    simpa [activeCount] using hcount

/-- **Which requests overflow.** -/
theorem rowLoop_overflow_iff (hsteps : 1 ≤ max_steps ∧ max_steps ≤ 8) :
    rowLoop rin max_steps request_count = .error .overflow ↔
      ∃ r, Reached rin max_steps r ∧ OverflowingRow rin max_steps r := by
  unfold rowLoop
  rw [except_bind_error]
  constructor
  · rintro (hpasses | ⟨count, -, hcount⟩)
    · obtain ⟨pre, r, post, count, hsplit, hpre, hpass⟩ := foldlM_exit _ hpasses
      have hreached : Reached rin max_steps r := by
        intro r' hlt
        exact ((rowPasses_ok hsteps pre).1 hpre).1 r' ((rows_before hsplit r').2 hlt)
      unfold rowPass at hpass
      split_ifs at hpass with hactive
      rcases except_bind_error.1 hpass with hover | ⟨_, -, hok⟩
      · exact ⟨r, hreached, (rowCondition_overflow_iff hsteps hactive).1 hover⟩
      · cases hok
    · split_ifs at hcount
      cases hcount
  · rintro ⟨r, hreached, hover⟩
    left
    obtain ⟨pre, post, hsplit⟩ := List.append_of_mem (mem_rows r)
    have hpre : pre.foldlM (rowPass rin max_steps) 0 = .ok (0 + pre.countP fun r => rin.row_generations r ≠ 0) :=
      (rowPasses_ok hsteps pre).2 ⟨fun r' hmem => hreached r' ((rows_before hsplit r').1 hmem), rfl⟩
    have hgeneration := hover.generation
    have hactive : rin.row_generations r ≠ 0 := generation_ne_zero.2 (by omega)
    have hpass (count : ℕ) : rowPass rin max_steps count r = .error .overflow := by
      unfold rowPass
      rw [if_neg hactive, (rowCondition_overflow_iff hsteps hactive).2 hover]
      rfl
    rw [hsplit, List.foldlM_append, except_bind_error]
    refine Or.inr ⟨_, hpre, ?_⟩
    rw [List.foldlM_cons, hpass]
    rfl

/-- a status of the loop is 11 for a row and 12 for the count -/
theorem rowLoop_status {code : Int} (hsteps : 1 ≤ max_steps ∧ max_steps ≤ 8)
    (h : rowLoop rin max_steps request_count = .error (.status code)) :
    code = if ∀ r, rin.row_generations r ≠ 0 → rowAccepted rin max_steps r = true then 12 else 11 := by
  unfold rowLoop at h
  rcases except_bind_error.1 h with hpasses | ⟨count, hpasses, hcount⟩
  · obtain ⟨pre, r, post, count, -, -, hpass⟩ := foldlM_exit _ hpasses
    unfold rowPass at hpass
    split_ifs at hpass with hactive
    rcases except_bind_error.1 hpass with hstatus | ⟨_, -, hok⟩
    · rcases rowCondition_cases hsteps hactive with ⟨heq, -⟩ | ⟨heq, -⟩ | ⟨heq, hinvalid, -⟩
      · rw [heq] at hstatus
        cases hstatus
      · rw [heq] at hstatus
        cases hstatus
      · rw [heq] at hstatus
        cases hstatus
        rw [if_neg fun hall => hinvalid ((rowAccepted_iff hactive).1 (hall r hactive))]
    · cases hok
  · split_ifs at hcount
    cases hcount
    have hall := ((rowPasses_ok hsteps rows).1 hpasses).1
    rw [if_pos fun r hactive => (rowAccepted_iff hactive).2 (hall r (mem_rows r) hactive)]

/-- **The loop with its sums in ℤ is this loop**, where nothing overflows. -/
theorem rowLoop_writes (importing : Bool) (hsteps : 1 ≤ max_steps ∧ max_steps ≤ 8)
    (hdefined : rowLoop rin max_steps request_count ≠ .error .overflow) :
    rowLoop rin max_steps request_count =
      ((rowWrites importing rin max_steps request_count).mapError RowStop.status).map fun _ => () := by
  unfold rowWrites
  have hany : (rows.any fun r => rin.row_generations r ≠ 0 && !rowAccepted rin max_steps r) = true ↔
      ¬∀ r, rin.row_generations r ≠ 0 → rowAccepted rin max_steps r = true := by
    simp [List.any_eq_true]
  cases hloop : rowLoop rin max_steps request_count with
  | ok _ =>
    obtain ⟨hall, hcount⟩ := (rowLoop_ok_iff hsteps).1 hloop
    rw [if_neg, if_neg (not_not.2 hcount)]
    · rfl
    · rw [hany, not_not]
      exact fun r hactive => (rowAccepted_iff hactive).2 (hall r hactive)
  | error stop =>
    cases stop with
    | overflow => exact absurd hloop hdefined
    | status code =>
      have hcode := rowLoop_status hsteps hloop
      by_cases hall : ∀ r, rin.row_generations r ≠ 0 → rowAccepted rin max_steps r = true
      · have hcount : activeCount rin ≠ request_count := by
          intro hcount
          rw [(rowLoop_ok_iff hsteps).2 ⟨fun r hactive => (rowAccepted_iff hactive).1 (hall r hactive), hcount⟩] at hloop
          cases hloop
        rw [if_pos hall] at hcode
        rw [if_neg (by rw [hany, not_not]; exact hall), if_pos hcount, hcode]
        rfl
      · rw [if_neg hall] at hcode
        rw [if_pos (hany.2 hall), hcode]
        rfl

end Rows

/-! ## Requests on the wire -/

/-- the counts that `resident_epoch_execute` checks before the rows -/
structure Request.CountsInRange (request : Request) : Prop where
  count : 1 ≤ request.request_count.toInt ∧ request.request_count.toInt ≤ 4
  steps : 1 ≤ request.max_steps.toInt ∧ request.max_steps.toInt ≤ 8

/-- what is wanted of the row check of a request -/
structure RowCheckExact (request : Request) : Prop where
  defined : rowLoop request.rows request.max_steps.toInt request.request_count.toInt ≠ .error .overflow
  exact : rowLoop request.rows request.max_steps.toInt request.request_count.toInt = .ok () ↔
    AdmissibleRows request.rows request.max_steps.toInt request.request_count.toInt

/-- **When the row check is exact and free of overflow**: no row it comes to, with a valid generation and token, has one of
the last `max_steps` positions of int64. -/
theorem row_check_exact_iff (bytes : List UInt8) (h : (parseRequest bytes).CountsInRange) :
    RowCheckExact (parseRequest bytes) ↔ ∀ r, Reached (parseRequest bytes).rows (parseRequest bytes).max_steps.toInt r →
      0 < ((parseRequest bytes).rows.row_generations r).toInt →
      0 ≤ ((parseRequest bytes).rows.token_ids r).toInt ∧ ((parseRequest bytes).rows.token_ids r).toInt < 152064 →
      ((parseRequest bytes).rows.positions r).toInt ≤ 2 ^ 63 - 1 - (parseRequest bytes).max_steps.toInt := by
  constructor
  · rintro ⟨hdefined, -⟩ r hreached hgeneration htoken
    by_contra hlarge
    exact hdefined ((rowLoop_overflow_iff h.steps).2 ⟨r, hreached, hgeneration, htoken, not_le.1 hlarge⟩)
  · intro hsmall
    refine ⟨fun hover => ?_, rowLoop_ok_iff h.steps⟩
    obtain ⟨r, hreached, hgeneration, htoken, hlarge⟩ := (rowLoop_overflow_iff h.steps).1 hover
    exact absurd (hsmall r hreached hgeneration htoken) (not_le.2 hlarge)

/-- a request for one step of one row, at the given position -/
def positionWords (position : Int) : List Int :=
  [kRequestMagic, kProtocolVersion, kExecute, 1, 1, 0] ++ [7, 0, 0, 0] ++ [position, 0, 0, 0] ++ [1, 0, 0, 0] ++
    [9, 9, 9, 9] ++ [1, 0, 0, 0]

def positionRequest (position : Int) : List UInt8 := pack requestFields (positionWords position)

theorem positionRequest_parsed {position : Int} (h : Fits requestFields (positionWords position)) :
    (parseRequest (positionRequest position)).request_count = 1 ∧ (parseRequest (positionRequest position)).max_steps = 1 ∧
      (parseRequest (positionRequest position)).rows = {
        token_ids := fun r => .ofInt ([7, 0, 0, 0].getD r 0)
        positions := fun r => .ofInt ([position, 0, 0, 0].getD r 0)
        sequence_lengths := fun r => .ofInt ([1, 0, 0, 0].getD r 0)
        eos_token_ids := fun r => .ofInt ([9, 9, 9, 9].getD r 0)
        row_generations := fun r => .ofInt ([1, 0, 0, 0].getD r 0) } := by
  have hvalues : unpack requestFields (positionRequest position) = positionWords position := unpack_pack h
  unfold parseRequest
  rw [hvalues]
  refine ⟨rfl, rfl, ?_⟩
  simp only [RowInputs.mk.injEq]
  refine ⟨?_, ?_, ?_, ?_, ?_⟩ <;> (funext r; fin_cases r <;> rfl)

/-- the first position -/
theorem row_check_exact_first : (parseRequest (positionRequest 0)).CountsInRange ∧
    RowCheckExact (parseRequest (positionRequest 0)) := by
  obtain ⟨hcount, hsteps, hrows⟩ := positionRequest_parsed (show Fits requestFields (positionWords 0) by decide)
  have hrange : (parseRequest (positionRequest 0)).CountsInRange :=
    ⟨by rw [hcount]; decide, by rw [hsteps]; decide⟩
  have hzero (r : Row) : ((parseRequest (positionRequest 0)).rows.positions r).toInt ≤ 2 ^ 63 - 1 - (1 : Int32).toInt := by
    rw [hrows]
    revert r
    decide
  exact ⟨hrange, (row_check_exact_iff _ hrange).2 fun r _ _ _ => hsteps ▸ hzero r⟩

/-- **The largest position overflows**: a well-formed request of 136 bytes. -/
theorem row_check_overflows : (positionRequest (2 ^ 63 - 1)).length = CRUISE_SIDECAR_REQUEST_BYTES ∧
    ¬(parseRequest (positionRequest (2 ^ 63 - 1))).refused ∧ (parseRequest (positionRequest (2 ^ 63 - 1))).operation = kExecute ∧
      (parseRequest (positionRequest (2 ^ 63 - 1))).CountsInRange ∧
      ¬RowCheckExact (parseRequest (positionRequest (2 ^ 63 - 1))) := by
  have hfits : Fits requestFields (positionWords (2 ^ 63 - 1)) := by decide
  obtain ⟨hcount, hsteps, hrows⟩ := positionRequest_parsed hfits
  have hvalues : unpack requestFields (positionRequest (2 ^ 63 - 1)) = positionWords (2 ^ 63 - 1) := unpack_pack hfits
  refine ⟨by rw [positionRequest, pack_length (by decide)]; rfl, ?_, ?_, ⟨by rw [hcount]; decide, by rw [hsteps]; decide⟩, ?_⟩
  · unfold Request.refused parseRequest
    rw [hvalues]
    decide
  · unfold parseRequest
    rw [hvalues]
    rfl
  · rintro ⟨hdefined, -⟩
    apply hdefined
    rw [hrows, hcount, hsteps]
    decide

end Cruise.Native
