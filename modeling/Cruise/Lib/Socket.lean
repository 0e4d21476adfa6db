/-
Moving a fixed number of elements over a connection that moves them in pieces.

MODEL. What the calls of read and of write meet is a list: a piece of any size, an interruption after which the call is
made again, or an error. When the list of reads is over, the peer has closed; when the list of writes is over, a write takes
all it is given.
- `readAll_some`, `readAll_none`: what is read, and what is left, depend on what arrives and not on its pieces.
- `writeAll_sent`: without an error all is sent.
-/
import Mathlib.Data.List.Basic
import Mathlib.Tactic

namespace Cruise.Lib.Socket

variable {α : Type}

/-- a call of read; a piece is not empty -/
inductive Read (α : Type) where
  | piece (first : α) (rest : List α)
  | interrupted
  | failed

/-- a call of write; it takes one element more than `more`, or all there is -/
inductive Write where
  | accepted (more : ℕ)
  | interrupted
  | failed
deriving DecidableEq

/-! ## Reading -/

/-- what arrives -/
def arrived : List (Read α) → List α
  | [] => []
  | .piece first rest :: reads => first :: rest ++ arrived reads
  | .interrupted :: reads => arrived reads
  | .failed :: _ => []

/-- the rest of a piece that was read in part -/
def unread : List α → List (Read α) → List (Read α)
  | [], reads => reads
  | first :: rest, reads => .piece first rest :: reads

theorem arrived_unread (left : List α) (reads : List (Read α)) : arrived (unread left reads) = left ++ arrived reads := by
  cases left with
  | nil => rfl
  | cons first rest => rfl

/-- `none` when the connection ends before that many have been read -/
def readAll (count : ℕ) : List (Read α) → Option (List α) × List (Read α)
  | [] => if count = 0 then (some [], []) else (none, [])
  | .failed :: reads => if count = 0 then (some [], .failed :: reads) else (none, reads)
  | .interrupted :: reads => if count = 0 then (some [], .interrupted :: reads) else readAll count reads
  | .piece first rest :: reads =>
    let piece := first :: rest
    if piece.length < count then
      let (read, reads) := readAll (count - piece.length) reads
      (read.map (piece ++ ·), reads)
    else (some (piece.take count), unread (piece.drop count) reads)

theorem readAll_zero (reads : List (Read α)) : readAll 0 reads = (some [], reads) := by
  cases reads with
  | nil => rfl
  | cons read reads => cases read <;> rfl

/-- **What is read.** The next elements that arrive, however they are cut into pieces. -/
theorem readAll_some {count : ℕ} {reads : List (Read α)} (h : count ≤ (arrived reads).length) : ∃ reads',
    readAll count reads = (some ((arrived reads).take count), reads') ∧ arrived reads' = (arrived reads).drop count := by
  induction reads generalizing count with
  | nil =>
    obtain rfl : count = 0 := Nat.le_zero.1 h
    exact ⟨[], rfl, rfl⟩
  | cons read reads ih =>
    by_cases hzero : count = 0
    · subst hzero
      exact ⟨_, readAll_zero _, rfl⟩
    cases read with
    | failed => exact absurd (Nat.le_zero.1 h) hzero
    | interrupted =>
      obtain ⟨reads', hread, hleft⟩ := ih h
      refine ⟨reads', ?_, hleft⟩
      rw [readAll, if_neg hzero]
      exact hread
    | piece first rest =>
      have harrived : arrived (.piece first rest :: reads) = (first :: rest) ++ arrived reads := rfl
      rw [harrived] at h ⊢
      generalize hpiece : first :: rest = piece at h ⊢
      rw [readAll]
      dsimp only
      rw [hpiece]
      by_cases hlt : piece.length < count
      · rw [List.length_append] at h
        obtain ⟨reads', hread, hleft⟩ := ih (show count - piece.length ≤ (arrived reads).length by omega)
        refine ⟨reads', ?_, ?_⟩
        · rw [if_pos hlt, hread, Option.map_some, List.take_append, List.take_of_length_le hlt.le]
        · rw [hleft, List.drop_append, List.drop_of_length_le hlt.le, List.nil_append]
      · rw [if_neg hlt]
        have hle : count ≤ piece.length := not_lt.1 hlt
        refine ⟨unread (piece.drop count) reads, ?_, ?_⟩
        · rw [List.take_append_of_le_length hle]
        · rw [arrived_unread, List.drop_append_of_le_length hle]

theorem readAll_none {count : ℕ} {reads : List (Read α)} (h : (arrived reads).length < count) :
    (readAll count reads).1 = none := by
  induction reads generalizing count with
  | nil =>
    have hpos : count ≠ 0 := Nat.ne_of_gt h
    rw [readAll, if_neg hpos]
  | cons read reads ih =>
    have hpos : count ≠ 0 := Nat.ne_of_gt (Nat.zero_lt_of_lt h)
    cases read with
    | failed => rw [readAll, if_neg hpos]
    | interrupted =>
      rw [readAll, if_neg hpos]
      exact ih h
    | piece first rest =>
      have harrived : arrived (.piece first rest :: reads) = (first :: rest) ++ arrived reads := rfl
      rw [harrived, List.length_append] at h
      rw [readAll]
      dsimp only
      generalize first :: rest = piece at h ⊢
      rw [if_pos (by omega), ih (show (arrived reads).length < count - piece.length by omega)]
      rfl

/-! ## Writing -/

/-- whether all was sent, what was sent, and the writes to come -/
def writeAll (elements : List α) : List Write → Bool × List α × List Write
  | [] => (true, elements, [])
  | write :: writes =>
    if elements = [] then (true, [], write :: writes)
    else
      match write with
      | .failed => (false, [], writes)
      | .interrupted => writeAll elements writes
      | .accepted more =>
        let (done, sent, writes) := writeAll (elements.drop (more + 1)) writes
        (done, elements.take (more + 1) ++ sent, writes)

/-- **What is sent.** Without an error it is all, and no error comes of it. -/
theorem writeAll_sent {writes : List Write} (h : Write.failed ∉ writes) (elements : List α) : ∃ writes',
    writeAll elements writes = (true, elements, writes') ∧ Write.failed ∉ writes' := by
  induction writes generalizing elements with
  | nil => exact ⟨[], rfl, h⟩
  | cons write writes ih =>
    obtain ⟨hne, hrest⟩ := not_or.1 (List.mem_cons.not.1 h)
    by_cases hnil : elements = []
    · subst hnil
      exact ⟨write :: writes, rfl, h⟩
    cases write with
    | failed => exact absurd rfl hne
    | interrupted =>
      obtain ⟨writes', hwrite, hok⟩ := ih hrest elements
      refine ⟨writes', ?_, hok⟩
      rw [writeAll, if_neg hnil]
      exact hwrite
    | accepted more =>
      obtain ⟨writes', hwrite, hok⟩ := ih hrest (elements.drop (more + 1))
      refine ⟨writes', ?_, hok⟩
      rw [writeAll, if_neg hnil]
      dsimp only
      rw [hwrite, List.take_append_drop]

end Cruise.Lib.Socket
