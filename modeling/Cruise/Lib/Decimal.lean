/-
Decimal numerals.

`decimal` prints an integer, and `readInt` reads one as Python's `int` does (Unicode 14, and no limit on the digits).
- `digits_cases`: a numeral of a natural number has no leading zero.
- `readInt_decimal`: what was printed is read back.
- `decimal_length`, `readInt_length`: how long a numeral is, and that what was read is printed no longer than it was.
-/
import Mathlib.Tactic

namespace Cruise.Lib

/-- the digits of a natural number -/
def digits (n : ℕ) : List Char := Nat.toDigits 10 n

/-- the number a run of digits stands for -/
def digitsValue (text : List Char) : ℕ := Nat.ofDigitChars 10 text 0

/-- an integer in decimal -/
def decimal : Int → List Char
  | .ofNat n => digits n
  | .negSucc n => '-' :: digits (n + 1)

@[simp] theorem digitsValue_digits (n : ℕ) : digitsValue (digits n) = n := Nat.ofDigitChars_ten_toDigits

theorem digits_isDigit {n : ℕ} {c : Char} (h : c ∈ digits n) : c.isDigit = true :=
  Nat.isDigit_of_mem_toDigits (by decide) (by decide) h

theorem digits_ne_nil (n : ℕ) : digits n ≠ [] := Nat.toDigits_ne_nil

theorem digits_cons (n : ℕ) : ∃ c rest, digits n = c :: rest ∧ c.isDigit = true := by
  obtain ⟨c, rest, hdigits⟩ := List.exists_cons_of_ne_nil (digits_ne_nil n)
  exact ⟨c, rest, hdigits, digits_isDigit (hdigits ▸ List.mem_cons_self)⟩

/-- **No leading zero.** -/
theorem digits_cases (n : ℕ) :
    n = 0 ∧ digits n = ['0'] ∨ 0 < n ∧ ∃ c rest, digits n = c :: rest ∧ c.isDigit = true ∧ c ≠ '0' := by
  induction n using Nat.strong_induction_on with
  | _ n ih =>
    by_cases hsmall : n < 10
    · by_cases hzero : n = 0
      · subst hzero
        exact Or.inl ⟨rfl, rfl⟩
      · have hpos : 0 < n := Nat.pos_of_ne_zero hzero
        refine Or.inr ⟨hpos, n.digitChar, [], Nat.toDigits_of_lt_base hsmall, ?_, ?_⟩
        · interval_cases n <;> rfl
        · interval_cases n <;> decide
    · -- the leading digit is that of the quotient
      have hpos : 0 < n / 10 := Nat.div_pos (by omega) (by decide)
      rcases ih (n / 10) (by omega) with ⟨hzero, -⟩ | ⟨-, c, rest, hdigits, hdigit, hne⟩
      · omega
      · refine Or.inr ⟨by omega, c, rest ++ [(n % 10).digitChar], ?_, hdigit, hne⟩
        unfold digits at hdigits ⊢
        rw [Nat.toDigits_of_base_le (by decide) (by omega), hdigits, List.cons_append]

/-- a numeral ends where the digits end -/
theorem span_digits (n : ℕ) {rest : List Char} (h : ∀ c ∈ rest.head?, c.isDigit = false) :
    (digits n ++ rest).span Char.isDigit = (digits n, rest) := by
  rw [List.span_eq_takeWhile_dropWhile]
  have hdigits : ∀ c ∈ digits n, c.isDigit = true := fun c hc => digits_isDigit hc
  have htake : rest.takeWhile Char.isDigit = [] := by
    cases rest with
    | nil => rfl
    | cons c rest => rw [List.takeWhile_cons, h c rfl, if_neg Bool.noConfusion]
  have hdrop : rest.dropWhile Char.isDigit = rest := by
    cases rest with
    | nil => rfl
    | cons c rest => rw [List.dropWhile_cons, h c rfl, if_neg Bool.noConfusion]
  rw [List.takeWhile_append_of_pos hdigits, List.dropWhile_append_of_pos hdigits, htake, hdrop, List.append_nil]

/-! ## `int(text)` -/

def isBlank (c : Char) : Bool := c = ' ' ∨ 9 ≤ c.toNat ∧ c.toNat ≤ 13

/-- the zeros of the decimal digits beyond ASCII; each is followed by its nine others -/
def unicodeZeros : List ℕ := [
  0x660, 0x6f0, 0x7c0, 0x966, 0x9e6, 0xa66, 0xae6, 0xb66, 0xbe6, 0xc66, 0xce6, 0xd66, 0xde6, 0xe50, 0xed0, 0xf20, 0x1040,
  0x1090, 0x17e0, 0x1810, 0x1946, 0x19d0, 0x1a80, 0x1a90, 0x1b50, 0x1bb0, 0x1c40, 0x1c50, 0xa620, 0xa8d0, 0xa900, 0xa9d0,
  0xa9f0, 0xaa50, 0xabf0, 0xff10, 0x104a0, 0x10d30, 0x11066, 0x110f0, 0x11136, 0x111d0, 0x112f0, 0x11450, 0x114d0, 0x11650,
  0x116c0, 0x11730, 0x118e0, 0x11950, 0x11c50, 0x11d50, 0x11da0, 0x16a60, 0x16ac0, 0x16b50, 0x1d7ce, 0x1d7d8, 0x1d7e2,
  0x1d7ec, 0x1d7f6, 0x1e140, 0x1e2f0, 0x1e950, 0x1fbf0]

/-- the white space beyond ASCII -/
def unicodeSpaces : List ℕ := [
  0x85, 0xa0, 0x1680, 0x2000, 0x2001, 0x2002, 0x2003, 0x2004, 0x2005, 0x2006, 0x2007, 0x2008, 0x2009, 0x200a, 0x2028, 0x2029,
  0x202f, 0x205f, 0x3000]

/-- a character as `int` reads it: white space as a blank, a digit as that digit, and what else is not ASCII as no digit -/
def toAscii (c : Char) : Char :=
  if c.toNat < 127 then c
  else if c.toNat ∈ unicodeSpaces then ' '
  else ((unicodeZeros.find? fun n => n ≤ c.toNat ∧ c.toNat < n + 10).map fun n => (c.toNat - n).digitChar).getD '?'

def strip (text : List Char) : List Char := ((text.dropWhile isBlank).reverse.dropWhile isBlank).reverse

def readSign : List Char → Bool × List Char
  | '-' :: rest => (true, rest)
  | '+' :: rest => (false, rest)
  | text => (false, text)

/-- digits, with single underscores between them -/
def isNumeral (text : List Char) : Bool := (text.splitOn '_').all fun part => part ≠ [] ∧ part.all Char.isDigit

def readInt (text : List Char) : Option Int :=
  let (negative, rest) := readSign (strip (text.map toAscii))
  if isNumeral rest then
    let value : Int := digitsValue (rest.filter Char.isDigit)
    some (if negative then -value else value)
  else none

theorem strip_self {text : List Char} (h : ∀ c ∈ text, isBlank c = false) : strip text = text := by
  have hdrop {text : List Char} (h : ∀ c ∈ text, isBlank c = false) : text.dropWhile isBlank = text := by
    cases text with
    | nil => rfl
    | cons c rest => rw [List.dropWhile_cons, h c List.mem_cons_self, if_neg Bool.noConfusion]
  unfold strip
  rw [hdrop h, hdrop fun c hc => h c (List.mem_reverse.1 hc), List.reverse_reverse]

theorem isDigit_range {c : Char} (h : c.isDigit = true) : 48 ≤ c.toNat ∧ c.toNat ≤ 57 := by
  simp only [Char.isDigit, Bool.and_eq_true, decide_eq_true_eq, ge_iff_le, UInt32.le_iff_toNat_le] at h
  exact h

theorem decimal_not_blank (n : Int) : ∀ c ∈ decimal n, isBlank c = false := by
  have hdigits (n : ℕ) : ∀ c ∈ digits n, isBlank c = false := by
    intro c hc
    have hrange := isDigit_range (digits_isDigit hc)
    unfold isBlank
    rw [decide_eq_false_iff_not]
    rintro (rfl | hblank)
    · exact absurd hrange (by decide)
    · omega
  cases n with
  | ofNat n => exact hdigits n
  | negSucc n =>
    intro c hc
    rcases List.mem_cons.1 hc with rfl | hc
    · rfl
    · exact hdigits (n + 1) c hc

theorem decimal_ascii (n : Int) : (decimal n).map toAscii = decimal n := by
  have hdigits (n : ℕ) : (digits n).map toAscii = digits n := by
    refine (List.map_congr_left fun c hc => ?_).trans (List.map_id _)
    have hrange := isDigit_range (digits_isDigit hc)
    exact if_pos (by omega)
  cases n with
  | ofNat n => exact hdigits n
  | negSucc n => rw [decimal, List.map_cons, hdigits]; rfl

theorem decimal_chars {n : Int} {c : Char} (h : c ∈ decimal n) : c = '-' ∨ c.isDigit = true := by
  cases n with
  | ofNat n => exact Or.inr (digits_isDigit h)
  | negSucc n =>
    rcases List.mem_cons.1 h with hc | hc
    · exact Or.inl hc
    · exact Or.inr (digits_isDigit hc)

theorem isNumeral_digits (n : ℕ) : isNumeral (digits n) = true := by
  have hdigits : ∀ c ∈ digits n, c.isDigit = true := fun c hc => digits_isDigit hc
  have hunderscore : '_' ∉ digits n := Nat.underscore_not_in_toDigits
  unfold isNumeral
  rw [List.splitOn_eq_singleton hunderscore]
  simpa [digits_ne_nil] using hdigits

/-- **An integer is read back.** -/
theorem readInt_decimal (n : Int) : readInt (decimal n) = some n := by
  have hfilter (n : ℕ) : (digits n).filter Char.isDigit = digits n := List.filter_eq_self.2 fun c hc => digits_isDigit hc
  unfold readInt
  rw [decimal_ascii, strip_self (decimal_not_blank n)]
  cases n with
  | ofNat n =>
    have hsign : readSign (digits n) = (false, digits n) := by
      obtain ⟨c, rest, hdigits, hdigit⟩ := digits_cons n
      rw [hdigits]
      unfold readSign
      split
      · rename_i heq
        rw [(List.cons.inj heq).1] at hdigit
        cases hdigit
      · rename_i heq
        rw [(List.cons.inj heq).1] at hdigit
        cases hdigit
      · rfl
    rw [decimal, hsign]
    dsimp only
    rw [if_pos (isNumeral_digits n), hfilter, digitsValue_digits]
    rfl
  | negSucc n =>
    rw [decimal, readSign]
    dsimp only
    rw [if_pos (isNumeral_digits (n + 1)), hfilter, digitsValue_digits]
    rfl

/-! ## How long a numeral is -/

theorem digits_length {n k : ℕ} (hk : 0 < k) (h : n < 10 ^ k) : (digits n).length ≤ k :=
  (Nat.length_toDigits_le_iff (by decide) hk).2 h

/-- with its sign -/
theorem decimal_length {n : Int} {k : ℕ} (hk : 0 < k) (h : n.natAbs < 10 ^ k) : (decimal n).length ≤ k + 1 := by
  cases n with
  | ofNat n => exact Nat.le_succ_of_le (digits_length hk h)
  | negSucc n => exact Nat.succ_le_succ (digits_length hk h)

theorem digitsValue_lt {text : List Char} (h : ∀ c ∈ text, c.isDigit = true) : digitsValue text < 10 ^ text.length := by
  unfold digitsValue
  induction text with
  | nil => rw [Nat.ofDigitChars_nil]; exact Nat.one_pos
  | cons c rest ih =>
    have hrange := isDigit_range (h c List.mem_cons_self)
    have hrest := ih fun c hc => h c (List.mem_cons_of_mem _ hc)
    rw [Nat.ofDigitChars_cons, Nat.ofDigitChars_eq_ofDigitChars_zero, List.length_cons, Nat.pow_succ]
    have hdigit : 10 * 0 + (c.toNat - '0'.toNat) ≤ 9 := by
      rw [show '0'.toNat = 48 from rfl]
      omega
    have hscaled := Nat.mul_le_mul_left (10 ^ rest.length) hdigit
    omega

theorem strip_length (text : List Char) : (strip text).length ≤ text.length := by
  unfold strip
  rw [List.length_reverse]
  refine (List.dropWhile_suffix _).length_le.trans ?_
  rw [List.length_reverse]
  exact (List.dropWhile_suffix _).length_le

theorem readSign_length (text : List Char) :
    (readSign text).2.length + (if (readSign text).1 then 1 else 0) ≤ text.length := by
  unfold readSign
  split
  · simp
  · simp
  · simp

theorem decimal_neg_length (n : ℕ) : (decimal (-(n : Int))).length ≤ (digits n).length + 1 := by
  cases n with
  | zero => exact Nat.le_succ _
  | succ n => exact le_rfl

/-- **What was read is printed no longer than it was.** -/
theorem readInt_length {text : List Char} {n : Int} (h : readInt text = some n) : (decimal n).length ≤ text.length := by
  have hstrip := strip_length (text.map toAscii)
  rw [List.length_map] at hstrip
  -- the digits that are read are as many as there are characters after the sign, at most, and there is one
  have hread {rest : List Char} (hnumeral : isNumeral rest = true) :
      (digits (digitsValue (rest.filter Char.isDigit))).length ≤ rest.length := by
    have hpos : 0 < rest.length := by
      cases rest with
      | nil => cases hnumeral
      | cons _ _ => exact Nat.succ_pos _
    have hvalue : digitsValue (rest.filter Char.isDigit) < 10 ^ (rest.filter Char.isDigit).length :=
      digitsValue_lt fun c hc => (List.mem_filter.1 hc).2
    exact digits_length hpos (hvalue.trans_le (Nat.pow_le_pow_right (by decide) (List.length_filter_le _ _)))
  unfold readInt at h
  dsimp only at h
  have hsign := readSign_length (strip (text.map toAscii))
  split_ifs at h with hnumeral hnegative
  · rw [if_pos hnegative] at hsign
    rw [← Option.some.inj h]
    exact (decimal_neg_length _).trans (by have := hread hnumeral; omega)
  · rw [← Option.some.inj h]
    exact (hread hnumeral).trans (by omega)

end Cruise.Lib
