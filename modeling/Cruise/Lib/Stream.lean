/-
Consumers of a stream that is read in pieces.

`foldl_stream`: a consumer whose state is a function of what it has read so far does not see how the stream was cut.
`rtake_append`: the last elements of a stream, when another piece comes.
-/
import Mathlib.Data.List.DropRight
import Mathlib.Tactic

namespace Cruise.Lib

variable {α σ : Type}

/-- what one read returns before the end of the stream -/
abbrev Piece (α : Type) : Type := { piece : List α // piece ≠ [] }

def streamOf (pieces : List (Piece α)) : List α := (pieces.map Subtype.val).flatten

/-- **The cuts of a stream do not matter** to a consumer whose state is a view of what it has read. -/
theorem foldl_stream {step : σ → Piece α → σ} {view : List α → σ}
    (hstep : ∀ seen piece, step (view seen) piece = view (seen ++ piece.val)) (pieces : List (Piece α)) :
    pieces.foldl step (view []) = view (streamOf pieces) := by
  suffices ∀ seen, pieces.foldl step (view seen) = view (seen ++ streamOf pieces) from this []
  induction pieces with
  | nil => intro seen; simp [streamOf]
  | cons piece pieces ih =>
    intro seen
    calc (piece :: pieces).foldl step (view seen)
        = pieces.foldl step (view (seen ++ piece.val)) := by rw [List.foldl_cons, hstep]
      _ = view (seen ++ piece.val ++ streamOf pieces) := ih _
      _ = view (seen ++ streamOf (piece :: pieces)) := by simp [streamOf]

/-- what is kept of the last elements, and the piece that comes -/
theorem rtake_append (l data : List α) (n : ℕ) :
    (l ++ data).rtake n = l.rtake (n - data.length) ++ data.rtake n := by
  have hnew : l.length + data.length - n - l.length = data.length - n := by omega
  simp only [List.rtake, List.drop_append, List.length_append, hnew]
  rcases le_total data.length n with h | h
  · have hold : l.length + data.length - n = l.length - (n - data.length) := by omega
    rw [hold]
  · -- the new piece alone is enough
    rw [List.drop_of_length_le (by omega), Nat.sub_eq_zero_of_le h, Nat.sub_zero, List.drop_length]

theorem rtake_length (l : List α) (n : ℕ) : (l.rtake n).length = min n l.length := by
  simp only [List.rtake, List.length_drop]
  omega

theorem rtake_all {l : List α} {n : ℕ} (h : l.length ≤ n) : l.rtake n = l := by
  simp [List.rtake, Nat.sub_eq_zero_of_le h]

/-- dropping the oldest of what is kept -/
theorem drop_rtake (l : List α) {m n : ℕ} (h : m ≤ n) : (l.rtake n).drop ((l.rtake n).length - m) = l.rtake m := by
  simp only [List.rtake, List.drop_drop, List.length_drop]
  congr 1
  omega

end Cruise.Lib
