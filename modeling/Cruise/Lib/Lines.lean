/-
Text files: their text, in UTF-8 or ASCII, and its lines, as Python iterates over them.

- `decodeText_encodeText`: what was written is read.
- `lines_flatMap`: a text that was written line by line has these lines.
-/
import Mathlib.Data.List.Basic

namespace Cruise.Lib

abbrev Bytes := List UInt8

def encodeText (text : List Char) : Bytes := (String.ofList text).toByteArray.data.toList

def decodeText (bytes : Bytes) : Option (List Char) := (ByteArray.mk bytes.toArray).utf8Decode?.map Array.toList

theorem decodeText_encodeText (text : List Char) : decodeText (encodeText text) = some text := by
  unfold decodeText encodeText
  rw [Array.toArray_toList, String.toByteArray_ofList, List.utf8Decode?_utf8Encode]
  rfl

/-- `str.encode("ascii")` of a text that has only ASCII characters -/
def asciiBytes (text : String) : Bytes := text.toList.map fun c => UInt8.ofNat c.toNat

/-- the line ends of a text opened without `newline` -/
def universalNewlines : List Char → List Char
  | [] => []
  | '\r' :: '\n' :: rest => '\n' :: universalNewlines rest
  | '\r' :: rest => '\n' :: universalNewlines rest
  | c :: rest => c :: universalNewlines rest

/-- the lines with their line ends; the last one may have none -/
def lines (text : List Char) : List (List Char) :=
  let parts := text.splitOn '\n'
  parts.dropLast.map (· ++ ['\n']) ++ parts.getLast?.toList.filter (· ≠ [])

theorem universalNewlines_self {text : List Char} (h : '\r' ∉ text) : universalNewlines text = text := by
  induction text with
  | nil => rfl
  | cons c rest ih =>
    rw [List.mem_cons, not_or] at h
    have hne := h.1
    unfold universalNewlines
    split
    · rename_i heq
      cases heq
    · rename_i heq
      exact absurd (List.cons.inj heq).1.symm hne
    · rename_i heq
      exact absurd (List.cons.inj heq).1.symm hne
    · rename_i heq
      obtain ⟨rfl, rfl⟩ := List.cons.inj heq
      rw [ih h.2]

/-- **A text written line by line.** -/
theorem lines_flatMap {written : List (List Char)} (h : ∀ line ∈ written, '\n' ∉ line) :
    lines (written.flatMap (· ++ ['\n'])) = written.map (· ++ ['\n']) := by
  have hsplit : (written.flatMap (· ++ ['\n'])).splitOn '\n' = written ++ [[]] := by
    induction written with
    | nil => rfl
    | cons line rest ih =>
      rw [List.flatMap_cons, List.append_assoc, List.singleton_append, List.splitOn_append_cons_of_beq _ _ (beq_self_eq_true _),
        List.splitOn_eq_singleton (h line List.mem_cons_self), ih fun l hl => h l (List.mem_cons_of_mem _ hl)]
      rfl
  unfold lines
  dsimp only
  rw [hsplit, List.dropLast_concat, List.getLast?_concat]
  exact List.append_nil _

end Cruise.Lib
