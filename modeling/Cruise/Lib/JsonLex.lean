/-
The tokens of JSON text, as Python's `json` writes and reads them.

A text is its characters, and a string is Unicode text: an escaped half of a surrogate pair is read only with the other half
(`decodeUnits`). Numbers are read exactly, and one with a fraction or an exponent is rounded to a float (`binary64`).
- `readString_quote`: a string that was written is read back, whatever follows it.
- `readNumber_decimal`: so is an integer, if what follows does not continue it (`Delimited`).
- `lex`: the tokens of a text; `Reads.space` to `Reads.scalar` build what is read token by token.
-/
import Mathlib.Data.Int.Log
import Cruise.Lib.Decimal
import Cruise.Lib.Json

namespace Cruise.Lib.Json

/-! ## Strings -/

/-- a UTF-16 code unit, or a character of the basic plane, as an escape -/
def escapeUnit (n : ℕ) : List Char :=
  ['\\', 'u', (n / 4096).digitChar, (n / 256 % 16).digitChar, (n / 16 % 16).digitChar, (n % 16).digitChar]

/-- the code units of a character -/
def units (c : Char) : List ℕ :=
  if c.toNat < 0x10000 then [c.toNat]
  else [0xD800 + (c.toNat - 0x10000) / 0x400, 0xDC00 + (c.toNat - 0x10000) % 0x400]

/-- the escapes of one letter -/
def shortEscapes : List (Char × Char) :=
  [('"', '"'), ('\\', '\\'), ('n', '\n'), ('r', '\r'), ('t', '\t'), ('f', '\x0c'), ('b', '\x08')]

/-- a character as it is written, in ASCII -/
def escape (c : Char) : List Char :=
  match shortEscapes.find? fun entry => entry.2 = c with
  | some (letter, _) => ['\\', letter]
  | none => if 0x20 ≤ c.toNat ∧ c.toNat < 0x7f then [c] else (units c).flatMap escapeUnit

def quote (s : String) : List Char := '"' :: (s.toList.flatMap escape ++ ['"'])

def hexValue (c : Char) : Option ℕ :=
  if '0' ≤ c ∧ c ≤ '9' then some (c.toNat - '0'.toNat)
  else if 'a' ≤ c ∧ c ≤ 'f' then some (c.toNat - 'a'.toNat + 10)
  else if 'A' ≤ c ∧ c ≤ 'F' then some (c.toNat - 'A'.toNat + 10)
  else none

def readHex (digits : List Char) : Option ℕ :=
  digits.foldlM (fun value c => (hexValue c).map (16 * value + ·)) 0

/-- the letters of escapes that are read; `\/` is never written -/
def unescape (letter : Char) : Option Char :=
  if letter = '/' then some '/' else shortEscapes.lookup letter

/-- the code units up to the closing quote, and what follows it -/
def scanString : List Char → Option (List ℕ × List Char)
  | [] => none
  | c :: rest =>
    if c = '"' then some ([], rest)
    else if c = '\\' then
      match rest with
      | [] => none
      | letter :: rest =>
        if letter = 'u' then
          match rest with
          | a :: b :: c :: d :: rest =>
            (readHex [a, b, c, d]).bind fun unit => (scanString rest).map fun r => (unit :: r.1, r.2)
          | _ => none
        else (unescape letter).bind fun c => (scanString rest).map fun r => (c.toNat :: r.1, r.2)
    else if c.toNat < 0x20 then none
    else (scanString rest).map fun r => (c.toNat :: r.1, r.2)

def isHigh (n : ℕ) : Bool := 0xD800 ≤ n ∧ n < 0xDC00

def isLow (n : ℕ) : Bool := 0xDC00 ≤ n ∧ n < 0xE000

/-- the characters of the code units; half a pair is none -/
def decodeUnits : List ℕ → Option (List Char)
  | [] => some []
  | unit :: rest =>
    if isHigh unit then
      match rest with
      | [] => none
      | low :: rest =>
        if isLow low then
          (decodeUnits rest).map (Char.ofNat (0x10000 + (unit - 0xD800) * 0x400 + (low - 0xDC00)) :: ·)
        else none
    else if isLow unit then none
    else (decodeUnits rest).map (Char.ofNat unit :: ·)

/-- the string whose opening quote has been read -/
def readString (text : List Char) : Option (String × List Char) :=
  (scanString text).bind fun r => (decodeUnits r.1).map fun chars => (String.ofList chars, r.2)

theorem hexValue_digitChar {n : ℕ} (h : n < 16) : hexValue n.digitChar = some n := by
  interval_cases n <;> rfl

theorem scanString_escapeUnit {n : ℕ} (h : n < 0x10000) (rest : List Char) :
    scanString (escapeUnit n ++ rest) = (scanString rest).map fun r => (n :: r.1, r.2) := by
  have hhex : readHex [(n / 4096).digitChar, (n / 256 % 16).digitChar, (n / 16 % 16).digitChar, (n % 16).digitChar] =
      some n := by
    unfold readHex
    simp only [List.foldlM_cons, List.foldlM_nil, hexValue_digitChar (show n / 4096 < 16 by omega),
      hexValue_digitChar (Nat.mod_lt _ (show 0 < 16 by decide)), Option.map_some, Option.bind_eq_bind, Option.bind_some]
    exact congrArg some (by omega)
  unfold escapeUnit
  simp only [List.cons_append, List.nil_append]
  rw [scanString, if_neg (by decide), if_pos rfl, if_pos rfl, hhex, Option.bind_some]

theorem toNat_valid (c : Char) : c.toNat < 0xD800 ∨ 0xDFFF < c.toNat ∧ c.toNat < 0x110000 := c.valid

theorem units_lt (c : Char) : ∀ n ∈ units c, n < 0x10000 := by
  have hvalid := toNat_valid c
  unfold units
  split_ifs with hsmall
  · simpa using hsmall
  · simp only [List.mem_cons, List.not_mem_nil, or_false, forall_eq_or_imp, forall_eq]
    omega

theorem scanString_units {l : List ℕ} (h : ∀ n ∈ l, n < 0x10000) (rest : List Char) :
    scanString (l.flatMap escapeUnit ++ rest) = (scanString rest).map fun r => (l ++ r.1, r.2) := by
  induction l with
  | nil =>
    cases hrest : scanString rest with
    | none => simp [hrest]
    | some r => simp [hrest]
  | cons n l ih =>
    rw [List.flatMap_cons, List.append_assoc, scanString_escapeUnit (h n List.mem_cons_self),
      ih fun m hm => h m (List.mem_cons_of_mem _ hm), Option.map_map]
    rfl

/-- **A character is read back.** -/
theorem scanString_escape (c : Char) (rest : List Char) :
    scanString (escape c ++ rest) = (scanString rest).map fun r => (units c ++ r.1, r.2) := by
  unfold escape
  split
  · rename_i letter value hfind
    have hmem := List.mem_of_find?_eq_some hfind
    obtain rfl : value = c := by simpa using List.find?_some hfind
    have hshort : ∀ entry ∈ shortEscapes, entry.1 ≠ 'u' ∧ unescape entry.1 = some entry.2 ∧
        units entry.2 = [entry.2.toNat] := by decide
    obtain ⟨hletter, hunescape, hunits⟩ := hshort _ hmem
    rw [List.cons_append, List.cons_append, List.nil_append, scanString.eq_def]
    dsimp only
    rw [if_neg (by decide), if_pos rfl, if_neg hletter, hunescape, Option.bind_some, hunits]
    rfl
  · rename_i hfind
    rw [List.find?_eq_none] at hfind
    split_ifs with hascii
    · -- the quote and the backslash have short escapes
      have hquote : c ≠ '"' := fun h => hfind ('"', '"') (by decide) (decide_eq_true h.symm)
      have hslash : c ≠ '\\' := fun h => hfind ('\\', '\\') (by decide) (decide_eq_true h.symm)
      have hunits : units c = [c.toNat] := if_pos (by omega)
      rw [List.singleton_append, scanString.eq_def]
      dsimp only
      rw [if_neg hquote, if_neg hslash, if_neg (by omega), hunits]
      rfl
    · exact scanString_units (units_lt c) rest

theorem decodeUnits_units (c : Char) (rest : List ℕ) :
    decodeUnits (units c ++ rest) = (decodeUnits rest).map (c :: ·) := by
  have hvalid := toNat_valid c
  unfold units
  split_ifs with hsmall
  · have hhigh : isHigh c.toNat = false := by simp [isHigh]; omega
    have hlow : isLow c.toNat = false := by simp [isLow]; omega
    rw [List.singleton_append, decodeUnits.eq_def]
    dsimp only
    rw [hhigh, hlow, if_neg Bool.noConfusion, if_neg Bool.noConfusion, Char.ofNat_toNat]
  · have hhigh : isHigh (0xD800 + (c.toNat - 0x10000) / 0x400) = true := by simp [isHigh]; omega
    have hlow : isLow (0xDC00 + (c.toNat - 0x10000) % 0x400) = true := by simp [isLow]; omega
    have hchar : 0x10000 + (0xD800 + (c.toNat - 0x10000) / 0x400 - 0xD800) * 0x400 +
        (0xDC00 + (c.toNat - 0x10000) % 0x400 - 0xDC00) = c.toNat := by omega
    rw [List.cons_append, List.cons_append, List.nil_append, decodeUnits.eq_def]
    dsimp only
    rw [hhigh, if_pos rfl, hlow, if_pos rfl, hchar, Char.ofNat_toNat]

/-- **A string is read back.** -/
theorem readString_quote (s : String) (rest : List Char) :
    readString (s.toList.flatMap escape ++ '"' :: rest) = some (s, rest) := by
  have hscan (l : List Char) : scanString (l.flatMap escape ++ '"' :: rest) = some (l.flatMap units, rest) := by
    induction l with
    | nil =>
      rw [List.flatMap_nil, List.nil_append, scanString.eq_def]
      exact if_pos rfl
    | cons c l ih => rw [List.flatMap_cons, List.append_assoc, scanString_escape, ih, List.flatMap_cons, Option.map_some]
  have hdecode (l : List Char) : decodeUnits (l.flatMap units) = some l := by
    induction l with
    | nil => rfl
    | cons c l ih => rw [List.flatMap_cons, decodeUnits_units, ih, Option.map_some]
  unfold readString
  rw [hscan, Option.bind_some, hdecode, Option.map_some, String.ofList_toList]

/-! ## Numbers -/

/-- to the nearest integer; halfway, to the even one -/
def roundHalfEven (q : ℚ) : ℤ :=
  let below := ⌊q⌋
  if q - below < 1 / 2 then below
  else if 1 / 2 < q - below then below + 1
  else if below % 2 = 0 then below else below + 1

/-- the binary64 number nearest to a number; none where it overflows -/
def binary64 (q : ℚ) : Option ℚ :=
  let ulp : ℚ := 2 ^ (max (Int.log 2 |q|) (-1022) - 52)
  let value := roundHalfEven (q / ulp) * ulp
  if 2 ^ 1024 ≤ |value| then none else some value

/-- digits after a point, if there are any -/
def readFraction : List Char → List Char × List Char
  | '.' :: rest =>
    match rest.span Char.isDigit with
    | ([], _) => ([], '.' :: rest)
    | (digits, rest) => (digits, rest)
  | text => ([], text)

/-- digits after an `e`, if there are any -/
def readExponent : List Char → Option Int × List Char
  | [] => (none, [])
  | e :: rest =>
    if e = 'e' ∨ e = 'E' then
      let (negative, tail) := readSign rest
      match tail.span Char.isDigit with
      | ([], _) => (none, e :: rest)
      | (digits, tail) => (some (if negative then -(digitsValue digits : Int) else digitsValue digits), tail)
    else (none, e :: rest)

/-- `(?:0|[1-9]\d*)` -/
def readWhole : List Char → List Char × List Char
  | '0' :: rest => (['0'], rest)
  | text => text.span Char.isDigit

def readUnsigned (negative : Bool) (text : List Char) : Option (Json × List Char) :=
  let (whole, rest) := readWhole text
  if whole = [] then none
  else
    let (fraction, rest) := readFraction rest
    let (exponent, rest) := readExponent rest
    if fraction = [] ∧ exponent = none then
      some (.int (if negative then -(digitsValue whole : Int) else digitsValue whole), rest)
    else
      let value : ℚ := digitsValue (whole ++ fraction) * 10 ^ (exponent.getD 0 - fraction.length)
      some (.float (binary64 (if negative then -value else value)), rest)

/-- the longest number the text begins with -/
def readNumber : List Char → Option (Json × List Char)
  | '-' :: rest => readUnsigned true rest
  | text => readUnsigned false text

/-- what does not continue a number -/
def Delimited (text : List Char) : Prop :=
  ∀ c ∈ text.head?, c.isDigit = false ∧ c ≠ '.' ∧ c ≠ 'e' ∧ c ≠ 'E'

theorem readFraction_delimited {rest : List Char} (h : Delimited rest) : readFraction rest = ([], rest) := by
  unfold readFraction
  split
  · exact absurd rfl (h '.' rfl).2.1
  · rfl

theorem readExponent_delimited {rest : List Char} (h : Delimited rest) : readExponent rest = (none, rest) := by
  cases rest with
  | nil => rfl
  | cons c rest =>
    obtain ⟨-, -, he, hE⟩ := h c rfl
    exact if_neg (not_or.2 ⟨he, hE⟩)

theorem readWhole_digits (n : ℕ) {rest : List Char} (h : Delimited rest) :
    readWhole (digits n ++ rest) = (digits n, rest) := by
  rcases digits_cases n with ⟨-, hzero⟩ | ⟨-, c, tail, hdigits, -, hne⟩
  · rw [hzero]
    rfl
  · have hspan := span_digits n fun c hc => (h c hc).1
    rw [hdigits, List.cons_append] at hspan ⊢
    rw [readWhole, hspan]
    exact fun _ heq => hne (List.cons.inj heq).1

theorem readUnsigned_digits (negative : Bool) (n : ℕ) {rest : List Char} (h : Delimited rest) :
    readUnsigned negative (digits n ++ rest) = some (.int (if negative then -(n : Int) else n), rest) := by
  unfold readUnsigned
  rw [readWhole_digits n h]
  dsimp only
  rw [if_neg (digits_ne_nil n), readFraction_delimited h]
  dsimp only
  rw [readExponent_delimited h]
  dsimp only
  rw [if_pos ⟨rfl, rfl⟩, digitsValue_digits]

/-- **An integer is read back.** -/
theorem readNumber_decimal (n : Int) {rest : List Char} (h : Delimited rest) :
    readNumber (decimal n ++ rest) = some (.int n, rest) := by
  cases n with
  | ofNat n =>
    have hsign : ∀ tail, digits n ++ rest ≠ '-' :: tail := by
      intro tail heq
      obtain ⟨c, _, hdigits, hdigit⟩ := digits_cons n
      rw [hdigits, List.cons_append] at heq
      rw [(List.cons.inj heq).1] at hdigit
      cases hdigit
    unfold decimal readNumber
    split
    · rename_i tail heq
      exact absurd heq (hsign tail)
    · exact readUnsigned_digits false n h
  | negSucc n => exact readUnsigned_digits true (n + 1) h

/-! ## Tokens -/

inductive Token where
  | punctuation (c : Char)
  | str (s : String)
  | scalar (value : Json)

def isSpace (c : Char) : Bool := c ∈ [' ', '\t', '\n', '\r']

def punctuation : List Char := ['{', '}', '[', ']', ',', ':']

/-- the values that are words -/
def words : List (List Char × Json) := [
  (['n', 'u', 'l', 'l'], .null), (['t', 'r', 'u', 'e'], .bool true), (['f', 'a', 'l', 's', 'e'], .bool false),
  (['N', 'a', 'N'], .float none), (['I', 'n', 'f', 'i', 'n', 'i', 't', 'y'], .float none),
  (['-', 'I', 'n', 'f', 'i', 'n', 'i', 't', 'y'], .float none)]

def readScalar (text : List Char) : Option (Json × List Char) :=
  match words.find? fun entry => entry.1.isPrefixOf text with
  | some (word, value) => some (value, text.drop word.length)
  | none => readNumber text

/-- the tokens of a text, with a bound on their number -/
def lex : ℕ → List Char → Option (List Token)
  | _, [] => some []
  | 0, _ :: _ => none
  | bound + 1, c :: rest =>
    if isSpace c then lex bound rest
    else if c ∈ punctuation then (lex bound rest).map (.punctuation c :: ·)
    else if c = '"' then (readString rest).bind fun r => (lex bound r.2).map (.str r.1 :: ·)
    else (readScalar (c :: rest)).bind fun r => (lex bound r.2).map (.scalar r.1 :: ·)

/-- every bound that the length of the text allows gives these tokens -/
def Reads (text : List Char) (tokens : List Token) : Prop := ∀ bound, text.length ≤ bound → lex bound text = some tokens

namespace Reads

variable {rest : List Char} {tokens : List Token} {c : Char}

theorem nil : Reads [] [] := fun bound _ => by
  cases bound with
  | zero => rfl
  | succ bound => rfl

theorem space (hc : isSpace c = true) (h : Reads rest tokens) : Reads (c :: rest) tokens := by
  intro bound hbound
  cases bound with
  | zero => cases hbound
  | succ bound =>
    rw [lex, if_pos hc]
    exact h bound (Nat.le_of_succ_le_succ hbound)

theorem spaces {blank : List Char} (hblank : ∀ c ∈ blank, isSpace c = true) (h : Reads rest tokens) :
    Reads (blank ++ rest) tokens := by
  induction blank with
  | nil => exact h
  | cons c blank ih =>
    exact (ih fun c' hc' => hblank c' (List.mem_cons_of_mem _ hc')).space (hblank c List.mem_cons_self)

theorem punctuation (hc : c ∈ Json.punctuation) (h : Reads rest tokens) :
    Reads (c :: rest) (.punctuation c :: tokens) := by
  intro bound hbound
  cases bound with
  | zero => cases hbound
  | succ bound =>
    have hspace : isSpace c = false := by
      have hall : ∀ c ∈ Json.punctuation, isSpace c = false := by simp [Json.punctuation, isSpace]
      exact hall c hc
    rw [lex, hspace, if_neg Bool.noConfusion, if_pos hc, h bound (Nat.le_of_succ_le_succ hbound), Option.map_some]

theorem str (s : String) (h : Reads rest tokens) : Reads (quote s ++ rest) (.str s :: tokens) := by
  intro bound hbound
  have htext : quote s ++ rest = '"' :: (s.toList.flatMap escape ++ '"' :: rest) := by
    simp [quote]
  rw [htext] at hbound ⊢
  cases bound with
  | zero => cases hbound
  | succ bound =>
    rw [lex, if_neg (by decide), if_neg (by decide), if_pos rfl, readString_quote, Option.bind_some, h bound,
      Option.map_some]
    simp only [List.length_cons, List.length_append] at hbound
    omega

/-- a value that is one token -/
theorem scalar {text : List Char} {value : Json} (hread : readScalar (text ++ rest) = some (value, rest))
    (hfirst : ∃ c tail, text = c :: tail ∧ isSpace c = false ∧ c ∉ Json.punctuation ∧ c ≠ '"') (h : Reads rest tokens) :
    Reads (text ++ rest) (.scalar value :: tokens) := by
  intro bound hbound
  obtain ⟨c, tail, rfl, hspace, hpunctuation, hquote⟩ := hfirst
  rw [List.cons_append] at hread hbound ⊢
  cases bound with
  | zero => cases hbound
  | succ bound =>
    rw [lex, hspace, if_neg Bool.noConfusion, if_neg hpunctuation, if_neg hquote, hread, Option.bind_some, h bound,
      Option.map_some]
    simp only [List.length_cons, List.length_append] at hbound
    omega

theorem word {entry : List Char × Json} (hentry : entry ∈ words) (h : Reads rest tokens) :
    Reads (entry.1 ++ rest) (.scalar entry.2 :: tokens) := by
  simp only [words, List.mem_cons, List.not_mem_nil, or_false] at hentry
  rcases hentry with rfl | rfl | rfl | rfl | rfl | rfl <;>
    exact scalar rfl ⟨_, _, rfl, by decide, by decide, by decide⟩ h

theorem int (n : Int) (hrest : Delimited rest) (h : Reads rest tokens) :
    Reads (decimal n ++ rest) (.scalar (.int n) :: tokens) := by
  -- a numeral begins with a digit, or with a minus and a digit
  have hne {c d : Char} (hc : c.isDigit = true) (hd : d.isDigit = false) : d ≠ c := by
    rintro rfl
    rw [hc] at hd
    cases hd
  have hread : readScalar (decimal n ++ rest) = some (.int n, rest) := by
    have hword : (words.find? fun entry => entry.1.isPrefixOf (decimal n ++ rest)) = none := by
      cases n with
      | ofNat n =>
        obtain ⟨c, tail, hdigits, hc⟩ := digits_cons n
        have hn := hne hc (d := 'n') rfl
        have ht := hne hc (d := 't') rfl
        have hf := hne hc (d := 'f') rfl
        have hN := hne hc (d := 'N') rfl
        have hI := hne hc (d := 'I') rfl
        have hminus := hne hc (d := '-') rfl
        simp [words, decimal, hdigits, hn, ht, hf, hN, hI, hminus]
      | negSucc n =>
        obtain ⟨c, tail, hdigits, hc⟩ := digits_cons (n + 1)
        have hI := hne hc (d := 'I') rfl
        simp [words, decimal, hdigits, hI]
    unfold readScalar
    rw [hword]
    exact readNumber_decimal n hrest
  refine scalar hread ?_ h
  cases n with
  | ofNat n =>
    obtain ⟨c, tail, hdigits, hc⟩ := digits_cons n
    refine ⟨c, tail, hdigits, ?_, ?_, (hne hc rfl).symm⟩
    · unfold isSpace
      rw [decide_eq_false_iff_not]
      intro hmem
      have hall : ∀ c ∈ [' ', '\t', '\n', '\r'], c.isDigit = false := by simp
      rw [hall c hmem] at hc
      cases hc
    · intro hmem
      have hall : ∀ c ∈ Json.punctuation, c.isDigit = false := by simp [Json.punctuation]
      rw [hall c hmem] at hc
      cases hc
  | negSucc n => exact ⟨'-', digits (n + 1), rfl, by decide, by decide, by decide⟩

end Reads

end Cruise.Lib.Json
