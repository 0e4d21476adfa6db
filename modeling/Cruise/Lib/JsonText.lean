/-
JSON text of values without floats: `dumps` with sorted keys, and `loads`.

A value is `Plain` if it has no floats and no object has two members of one key.
- `loads_text`: the text of a plain value, on one line or indented, is read back.
- `loads_dumps`: with sorted keys, up to the order of members; `get_sortKeys` says what a reader sees of that.
- `dumps_printable`: a text that is not indented is one line of ASCII.
-/
import Mathlib.Data.List.Sort
import Cruise.Lib.Dict
import Cruise.Lib.JsonLex

namespace Cruise.Lib.Json

/-! ## Writing -/

/-- the line break before a member, when the text is indented -/
def newline (indent : Option ℕ) (level : ℕ) : List Char :=
  match indent with
  | none => []
  | some width => '\n' :: List.replicate (width * level) ' '

/-- what follows the comma between two members -/
def gap (indent : Option ℕ) (level : ℕ) : List Char :=
  match indent with
  | none => [' ']
  | some _ => newline indent level

mutual

/-- the text of a value at a level of nesting; a float has no text here -/
def text (indent : Option ℕ) (level : ℕ) : Json → List Char
  | .null => ['n', 'u', 'l', 'l']
  | .bool true => ['t', 'r', 'u', 'e']
  | .bool false => ['f', 'a', 'l', 's', 'e']
  | .int n => decimal n
  | .float _ => []
  | .str s => quote s
  | .arr [] => ['[', ']']
  | .arr (value :: values) =>
    '[' :: (newline indent (level + 1) ++ (text indent (level + 1) value ++ (valuesText indent (level + 1) values ++
      (newline indent level ++ [']']))))
  | .obj [] => ['\x7b', '\x7d']
  | .obj (item :: items) =>
    '\x7b' :: (newline indent (level + 1) ++ (itemText indent (level + 1) item ++ (itemsText indent (level + 1) items ++
      (newline indent level ++ ['\x7d']))))

def valuesText (indent : Option ℕ) (level : ℕ) : List Json → List Char
  | [] => []
  | value :: values => ',' :: (gap indent level ++ (text indent level value ++ valuesText indent level values))

def itemText (indent : Option ℕ) (level : ℕ) : String × Json → List Char
  | (key, value) => quote key ++ (':' :: ' ' :: text indent level value)

def itemsText (indent : Option ℕ) (level : ℕ) : List (String × Json) → List Char
  | [] => []
  | item :: items => ',' :: (gap indent level ++ (itemText indent level item ++ itemsText indent level items))

end

mutual

def sortKeys : Json → Json
  | .arr values => .arr (sortValues values)
  | .obj items => .obj ((sortItems items).insertionSort fun a b => a.1 ≤ b.1)
  | value => value

def sortValues : List Json → List Json
  | [] => []
  | value :: values => sortKeys value :: sortValues values

def sortItem : String × Json → String × Json
  | (key, value) => (key, sortKeys value)

def sortItems : List (String × Json) → List (String × Json)
  | [] => []
  | item :: items => sortItem item :: sortItems items

end

/-- `json.dumps(value, indent=indent, sort_keys=True)` -/
def dumps (indent : Option ℕ) (value : Json) : List Char := text indent 0 value.sortKeys

/-! ## Reading -/

mutual

/-- the value at the head of the tokens, with a bound on the steps -/
def parseValue : ℕ → List Token → Option (Json × List Token)
  | _ + 1, .scalar value :: rest => some (value, rest)
  | _ + 1, .str s :: rest => some (.str s, rest)
  | _ + 1, .punctuation '[' :: .punctuation ']' :: rest => some (.arr [], rest)
  | bound + 1, .punctuation '[' :: rest => (parseValues bound rest).map fun r => (.arr r.1, r.2)
  | _ + 1, .punctuation '\x7b' :: .punctuation '\x7d' :: rest => some (.obj [], rest)
  | bound + 1, .punctuation '\x7b' :: rest => (parseItems bound rest).map fun r => (.obj (dictOf r.1), r.2)
  | _, _ => none

def parseValues : ℕ → List Token → Option (List Json × List Token)
  | 0, _ => none
  | bound + 1, tokens => (parseValue bound tokens).bind fun r =>
    match r.2 with
    | .punctuation ',' :: rest => (parseValues bound rest).map fun r' => (r.1 :: r'.1, r'.2)
    | .punctuation ']' :: rest => some ([r.1], rest)
    | _ => none

def parseItems : ℕ → List Token → Option (List (String × Json) × List Token)
  | bound + 1, .str key :: .punctuation ':' :: tokens => (parseValue bound tokens).bind fun r =>
    match r.2 with
    | .punctuation ',' :: rest => (parseItems bound rest).map fun r' => ((key, r.1) :: r'.1, r'.2)
    | .punctuation '\x7d' :: rest => some ([(key, r.1)], rest)
    | _ => none
  | _, _ => none

end

def parse (tokens : List Token) : Option Json :=
  match parseValue (2 * tokens.length) tokens with
  | some (value, []) => some value
  | _ => none

/-- `json.loads` -/
def loads (text : List Char) : Option Json := (lex text.length text).bind parse

/-! ## The round trip -/

mutual

/-- no floats, and distinct keys -/
def Plain : Json → Prop
  | .float _ => False
  | .arr values => PlainValues values
  | .obj items => (items.map Prod.fst).Nodup ∧ PlainItems items
  | _ => True

def PlainValues : List Json → Prop
  | [] => True
  | value :: values => Plain value ∧ PlainValues values

def PlainItem : String × Json → Prop
  | (_, value) => Plain value

def PlainItems : List (String × Json) → Prop
  | [] => True
  | item :: items => PlainItem item ∧ PlainItems items

end

mutual

def tokens : Json → List Token
  | .str s => [.str s]
  | .arr [] => [.punctuation '[', .punctuation ']']
  | .arr (value :: values) => .punctuation '[' :: (tokens value ++ (valuesTokens values ++ [.punctuation ']']))
  | .obj [] => [.punctuation '\x7b', .punctuation '\x7d']
  | .obj (item :: items) => .punctuation '\x7b' :: (itemTokens item ++ (itemsTokens items ++ [.punctuation '\x7d']))
  | value => [.scalar value]

def valuesTokens : List Json → List Token
  | [] => []
  | value :: values => .punctuation ',' :: (tokens value ++ valuesTokens values)

def itemTokens : String × Json → List Token
  | (key, value) => .str key :: .punctuation ':' :: tokens value

def itemsTokens : List (String × Json) → List Token
  | [] => []
  | item :: items => .punctuation ',' :: (itemTokens item ++ itemsTokens items)

end

/-! ### The tokens of a text -/

theorem delimited_cons {c : Char} (hc : c ∈ [',', ']', '\x7d', '\n']) (rest : List Char) : Delimited (c :: rest) := by
  have hall : ∀ c ∈ [',', ']', '\x7d', '\n'], c.isDigit = false ∧ c ≠ '.' ∧ c ≠ 'e' ∧ c ≠ 'E' := by simp
  intro c' hc'
  obtain rfl : c = c' := Option.some.inj hc'
  exact hall c hc

theorem delimited_newline {indent : Option ℕ} {level : ℕ} {rest : List Char} (h : Delimited rest) :
    Delimited (newline indent level ++ rest) := by
  cases indent with
  | none => exact h
  | some width => exact delimited_cons (by decide) _

theorem newline_space {indent : Option ℕ} {level : ℕ} : ∀ c ∈ newline indent level, isSpace c = true := by
  cases indent with
  | none =>
    intro c hc
    cases hc
  | some width =>
    intro c hc
    rcases List.mem_cons.1 hc with rfl | hc
    · rfl
    · rw [List.eq_of_mem_replicate hc]
      rfl

theorem gap_space {indent : Option ℕ} {level : ℕ} : ∀ c ∈ gap indent level, isSpace c = true := by
  cases indent with
  | none =>
    intro c hc
    rw [List.mem_singleton.1 hc]
    rfl
  | some width => exact @newline_space (some width) level

/-- what closes an array or an object -/
theorem reads_close (indent : Option ℕ) (level : ℕ) {c : Char} (hc : c ∈ [']', '\x7d']) {rest : List Char}
    {ts : List Token} (h : Reads rest ts) : Reads (newline indent level ++ (c :: rest)) (.punctuation c :: ts) ∧
      Delimited (newline indent level ++ (c :: rest)) := by
  have hall : ∀ c ∈ [']', '\x7d'], c ∈ punctuation ∧ c ∈ [',', ']', '\x7d', '\n'] := by simp [punctuation]
  obtain ⟨hpunctuation, hdelimiter⟩ := hall c hc
  exact ⟨(h.punctuation hpunctuation).spaces newline_space, delimited_newline (delimited_cons hdelimiter rest)⟩

mutual

/-- **The tokens of a text.** -/
theorem reads_text (indent : Option ℕ) (level : ℕ) (value : Json) (hplain : value.Plain) {rest : List Char}
    {ts : List Token} (hrest : Delimited rest) (h : Reads rest ts) :
    Reads (text indent level value ++ rest) (value.tokens ++ ts) := by
  match value with
  | .null => exact @Reads.word _ _ (_, .null) (by simp [words]) h
  | .bool true => exact @Reads.word _ _ (_, .bool true) (by simp [words]) h
  | .bool false => exact @Reads.word _ _ (_, .bool false) (by simp [words]) h
  | .int n => exact Reads.int n hrest h
  | .float _ => exact hplain.elim
  | .str s => exact Reads.str s h
  | .arr [] => exact (h.punctuation (by decide)).punctuation (by decide)
  | .arr (value :: values) =>
    obtain ⟨hvalue, hvalues⟩ := hplain
    obtain ⟨hclose, hend⟩ := reads_close indent level (c := ']') (by decide) h
    obtain ⟨htail, hdelimited⟩ := reads_values indent (level + 1) values hvalues hend hclose
    have hread := reads_text indent (level + 1) value hvalue hdelimited htail
    simp only [text, tokens, List.cons_append, List.append_assoc, List.nil_append]
    exact (hread.spaces newline_space).punctuation (by decide)
  | .obj [] => exact (h.punctuation (by decide)).punctuation (by decide)
  | .obj (item :: items) =>
    obtain ⟨-, hitem, hitems⟩ := hplain
    obtain ⟨hclose, hend⟩ := reads_close indent level (c := '\x7d') (by decide) h
    obtain ⟨htail, hdelimited⟩ := reads_items indent (level + 1) items hitems hend hclose
    have hread := reads_item indent (level + 1) item hitem hdelimited htail
    simp only [text, tokens, List.cons_append, List.append_assoc, List.nil_append]
    exact (hread.spaces newline_space).punctuation (by decide)

theorem reads_values (indent : Option ℕ) (level : ℕ) (values : List Json) (hplain : PlainValues values)
    {rest : List Char} {ts : List Token} (hrest : Delimited rest) (h : Reads rest ts) :
    Reads (valuesText indent level values ++ rest) (valuesTokens values ++ ts) ∧
      Delimited (valuesText indent level values ++ rest) := by
  match values with
  | [] => exact ⟨h, hrest⟩
  | value :: values =>
    obtain ⟨hvalue, hvalues⟩ := hplain
    obtain ⟨htail, hdelimited⟩ := reads_values indent level values hvalues hrest h
    have hread := reads_text indent level value hvalue hdelimited htail
    simp only [valuesText, valuesTokens, List.cons_append, List.append_assoc]
    exact ⟨(hread.spaces gap_space).punctuation (by decide), delimited_cons (by decide) _⟩

theorem reads_item (indent : Option ℕ) (level : ℕ) (item : String × Json) (hplain : PlainItem item) {rest : List Char}
    {ts : List Token} (hrest : Delimited rest) (h : Reads rest ts) :
    Reads (itemText indent level item ++ rest) (itemTokens item ++ ts) := by
  match item with
  | (key, value) =>
    have hread := reads_text indent level value hplain hrest h
    simp only [itemText, itemTokens, List.cons_append, List.append_assoc]
    exact Reads.str key ((hread.space (c := ' ') rfl).punctuation (by decide))

theorem reads_items (indent : Option ℕ) (level : ℕ) (items : List (String × Json)) (hplain : PlainItems items)
    {rest : List Char} {ts : List Token} (hrest : Delimited rest) (h : Reads rest ts) :
    Reads (itemsText indent level items ++ rest) (itemsTokens items ++ ts) ∧
      Delimited (itemsText indent level items ++ rest) := by
  match items with
  | [] => exact ⟨h, hrest⟩
  | item :: items =>
    obtain ⟨hitem, hitems⟩ := hplain
    obtain ⟨htail, hdelimited⟩ := reads_items indent level items hitems hrest h
    have hread := reads_item indent level item hitem hdelimited htail
    simp only [itemsText, itemsTokens, List.cons_append, List.append_assoc]
    exact ⟨(hread.spaces gap_space).punctuation (by decide), delimited_cons (by decide) _⟩

end

/-! ### The value of the tokens -/

theorem tokens_head (value : Json) : ∃ t ts, value.tokens = t :: ts ∧ t ≠ .punctuation ']' := by
  match value with
  | .null | .bool _ | .int _ | .float _ | .str _ | .arr [] | .arr (_ :: _) | .obj [] | .obj (_ :: _) =>
    exact ⟨_, _, rfl, by simp⟩

theorem parseValue_open {t : Token} (ht : t ≠ .punctuation ']') (bound : ℕ) (ts : List Token) :
    parseValue (bound + 1) (.punctuation '[' :: t :: ts) =
      (parseValues bound (t :: ts)).map fun r => (.arr r.1, r.2) := by
  rw [parseValue]
  exact fun rest heq => ht (List.cons.inj heq).1

mutual

/-- **The value of its tokens.** -/
theorem parseValue_tokens (value : Json) (hplain : value.Plain) (rest : List Token) (bound : ℕ)
    (hbound : 2 * value.tokens.length ≤ bound) : parseValue bound (value.tokens ++ rest) = some (value, rest) := by
  match bound, value with
  | 0, value =>
    obtain ⟨t, ts, htokens, -⟩ := tokens_head value
    rw [htokens, List.length_cons] at hbound
    omega
  | _ + 1, .null => rfl
  | _ + 1, .bool _ => rfl
  | _ + 1, .int _ => rfl
  | _ + 1, .float _ => exact hplain.elim
  | _ + 1, .str _ => rfl
  | _ + 1, .arr [] => rfl
  | bound + 1, .arr (value :: values) =>
    obtain ⟨hvalue, hvalues⟩ := hplain
    have hparse := parseValues_tokens value values hvalue hvalues rest bound (by
      simp only [tokens, List.length_cons, List.length_append, List.length_nil] at hbound
      omega)
    obtain ⟨t, ts, htokens, ht⟩ := tokens_head value
    simp only [tokens, htokens, List.cons_append, List.append_assoc, List.nil_append] at hparse ⊢
    rw [parseValue_open ht, hparse, Option.map_some]
  | _ + 1, .obj [] => rfl
  | bound + 1, .obj ((key, value) :: items) =>
    obtain ⟨hkeys, hvalue, hitems⟩ := hplain
    have hparse := parseItems_tokens key value items hvalue hitems rest bound (by
      simp only [tokens, itemTokens, List.length_cons, List.length_append, List.length_nil] at hbound
      omega)
    simp only [tokens, itemTokens, List.cons_append, List.append_assoc, List.nil_append] at hparse ⊢
    rw [parseValue, hparse, Option.map_some, dictOf_self hkeys]
    exact fun rest' heq => Token.noConfusion (List.cons.inj heq).1

theorem parseValues_tokens (value : Json) (values : List Json) (hvalue : value.Plain) (hvalues : PlainValues values)
    (rest : List Token) (bound : ℕ) (hbound : 2 * (value.tokens.length + (valuesTokens values).length) < bound) :
    parseValues bound (value.tokens ++ (valuesTokens values ++ .punctuation ']' :: rest)) =
      some (value :: values, rest) := by
  match bound, values with
  | bound + 1, [] =>
    have hparse := parseValue_tokens value hvalue (.punctuation ']' :: rest) bound (by omega)
    rw [parseValues, valuesTokens, List.nil_append, hparse]
    rfl
  | bound + 1, next :: values =>
    rw [valuesTokens, List.length_cons, List.length_append] at hbound
    have hparse := parseValue_tokens value hvalue
      (.punctuation ',' :: (next.tokens ++ (valuesTokens values ++ (.punctuation ']' :: rest)))) bound (by omega)
    have htail := parseValues_tokens next values hvalues.1 hvalues.2 rest bound (by omega)
    rw [parseValues, valuesTokens, List.cons_append, List.append_assoc, hparse, Option.bind_some]
    exact congrArg (Option.map fun r' => (value :: r'.1, r'.2)) htail

theorem parseItems_tokens (key : String) (value : Json) (items : List (String × Json)) (hvalue : value.Plain)
    (hitems : PlainItems items) (rest : List Token) (bound : ℕ)
    (hbound : 2 * (value.tokens.length + (itemsTokens items).length) < bound) :
    parseItems bound (.str key :: .punctuation ':' :: (value.tokens ++ (itemsTokens items ++ (.punctuation '\x7d' :: rest)))) =
      some ((key, value) :: items, rest) := by
  match bound, items with
  | bound + 1, [] =>
    have hparse := parseValue_tokens value hvalue (.punctuation '\x7d' :: rest) bound (by omega)
    rw [parseItems, itemsTokens, List.nil_append, hparse]
    rfl
  | bound + 1, (key', next) :: items =>
    rw [itemsTokens, itemTokens, List.length_cons, List.length_append] at hbound
    simp only [List.length_cons] at hbound
    have hparse := parseValue_tokens value hvalue (.punctuation ',' :: .str key' :: .punctuation ':' ::
      (next.tokens ++ (itemsTokens items ++ (.punctuation '\x7d' :: rest)))) bound (by omega)
    have htail := parseItems_tokens key' next items hitems.1 hitems.2 rest bound (by omega)
    simp only [itemsTokens, itemTokens, List.cons_append, List.append_assoc]
    rw [parseItems, hparse, Option.bind_some]
    exact congrArg (Option.map fun r' => ((key, value) :: r'.1, r'.2)) htail

end

theorem delimited_space {blank : List Char} (h : ∀ c ∈ blank, isSpace c = true) : Delimited blank := by
  intro c hc
  have hspace := of_decide_eq_true (h c (List.mem_of_mem_head? hc))
  have hall : ∀ c ∈ [' ', '\t', '\n', '\r'], c.isDigit = false ∧ c ≠ '.' ∧ c ≠ 'e' ∧ c ≠ 'E' := by simp
  exact hall c hspace

/-- **The text of a value is read back**, with whitespace after it. -/
theorem loads_text (indent : Option ℕ) {value : Json} (hplain : value.Plain) {blank : List Char}
    (hblank : ∀ c ∈ blank, isSpace c = true) : loads (text indent 0 value ++ blank) = some value := by
  have hrest : Reads blank [] := by
    have hspaces := Reads.nil.spaces hblank
    rwa [List.append_nil] at hspaces
  have hread := reads_text indent 0 value hplain (delimited_space hblank) hrest
  rw [List.append_nil] at hread
  have hparse := parseValue_tokens value hplain [] _ le_rfl
  rw [List.append_nil] at hparse
  unfold loads parse
  rw [hread _ le_rfl, Option.bind_some, hparse]

/-! ### Sorted keys -/

theorem plainItem_iff {item : String × Json} : PlainItem item ↔ item.2.Plain := by
  obtain ⟨key, value⟩ := item
  exact Iff.rfl

theorem plainItems_iff {items : List (String × Json)} : PlainItems items ↔ ∀ item ∈ items, item.2.Plain := by
  induction items with
  | nil => simp [PlainItems]
  | cons item items ih => simp [PlainItems, plainItem_iff, ih]

theorem plainValues_iff {values : List Json} : PlainValues values ↔ ∀ value ∈ values, value.Plain := by
  induction values with
  | nil => simp [PlainValues]
  | cons value values ih => simp [PlainValues, ih]

theorem sortValues_eq (values : List Json) : sortValues values = values.map sortKeys := by
  induction values with
  | nil => rfl
  | cons value values ih => rw [sortValues, ih, List.map_cons]

theorem sortItems_eq (items : List (String × Json)) : sortItems items = items.map fun item => (item.1, item.2.sortKeys) := by
  induction items with
  | nil => rfl
  | cons item items ih => rw [sortItems, ih, List.map_cons, sortItem]

theorem sortItems_keys (items : List (String × Json)) : (sortItems items).map Prod.fst = items.map Prod.fst := by
  rw [sortItems_eq, List.map_map]
  rfl

mutual

theorem sortKeys_plain (value : Json) (h : value.Plain) : value.sortKeys.Plain := by
  match value with
  | .null | .bool _ | .int _ | .str _ => trivial
  | .float _ => exact h.elim
  | .arr values => exact sortValues_plain values h
  | .obj items =>
    obtain ⟨hkeys, hitems⟩ := h
    have hperm := List.perm_insertionSort (fun a b : String × Json => a.1 ≤ b.1) (sortItems items)
    refine ⟨(hperm.map Prod.fst).symm.nodup ?_, ?_⟩
    · rw [sortItems_keys]
      exact hkeys
    · rw [plainItems_iff]
      intro item hitem
      exact plainItems_iff.1 (sortItems_plain items hitems) item (hperm.mem_iff.1 hitem)

theorem sortValues_plain (values : List Json) (h : PlainValues values) : PlainValues (sortValues values) := by
  match values with
  | [] => trivial
  | value :: values => exact ⟨sortKeys_plain value h.1, sortValues_plain values h.2⟩

theorem sortItems_plain (items : List (String × Json)) (h : PlainItems items) : PlainItems (sortItems items) := by
  match items with
  | [] => trivial
  | (_, value) :: items => exact ⟨sortKeys_plain value h.1, sortItems_plain items h.2⟩

end

/-- **What was written is read back with its keys sorted.** -/
theorem loads_dumps (indent : Option ℕ) {value : Json} (h : value.Plain) {blank : List Char}
    (hblank : ∀ c ∈ blank, isSpace c = true) : loads (dumps indent value ++ blank) = some value.sortKeys :=
  loads_text indent (sortKeys_plain value h) hblank

theorem get_sortKeys {value : Json} (h : value.Plain) (key : String) : value.sortKeys.get key = (value.get key).map sortKeys := by
  match value with
  | .null | .bool _ | .int _ | .float _ | .str _ | .arr _ => rfl
  | .obj items =>
    obtain ⟨hkeys, -⟩ := h
    have hperm := List.perm_insertionSort (fun a b : String × Json => a.1 ≤ b.1) (sortItems items)
    calc (Json.obj items).sortKeys.get key
      _ = ((sortItems items).insertionSort fun a b => a.1 ≤ b.1).lookup key := by
        rw [sortKeys]
        rfl
      _ = (sortItems items).lookup key := (lookup_perm hperm.symm (by rwa [sortItems_keys]) key).symm
      _ = (items.lookup key).map sortKeys := by rw [sortItems_eq, lookup_values]

/-! ### Printable text -/

def isPrintable (c : Char) : Bool := 0x20 ≤ c.toNat ∧ c.toNat < 0x7f

theorem digitChar_printable (n : ℕ) : isPrintable n.digitChar = true := by
  by_cases hsmall : n < 16
  · interval_cases n <;> decide
  · rw [Nat.digitChar_eq_star.2 (Nat.le_of_not_lt hsmall)]
    decide

theorem escape_printable (c : Char) : (escape c).all isPrintable = true := by
  unfold escape
  split
  · rename_i letter value hfind
    have hall : ∀ entry ∈ shortEscapes, (['\\', entry.1].all isPrintable) = true := by decide
    exact hall _ (List.mem_of_find?_eq_some hfind)
  · split_ifs with hascii
    · simpa [isPrintable] using hascii
    · have hunit (n : ℕ) : (escapeUnit n).all isPrintable = true := by
        simp only [escapeUnit, List.all_cons, digitChar_printable, List.all_nil, Bool.and_true]
        decide
      rw [List.all_flatMap, List.all_eq_true]
      exact fun n _ => hunit n

theorem quote_printable (s : String) : (quote s).all isPrintable = true := by
  have hescape : (s.toList.flatMap escape).all isPrintable = true := by
    rw [List.all_flatMap, List.all_eq_true]
    exact fun c _ => escape_printable c
  simp only [quote, List.all_cons, List.all_append, hescape, List.all_nil]
  decide

theorem decimal_printable (n : Int) : (decimal n).all isPrintable = true := by
  have hdigits (n : ℕ) : (digits n).all isPrintable = true := by
    rw [List.all_eq_true]
    intro c hc
    have hrange := isDigit_range (digits_isDigit hc)
    unfold isPrintable
    rw [decide_eq_true_eq]
    omega
  cases n with
  | ofNat n => exact hdigits n
  | negSucc n =>
    rw [decimal, List.all_cons, hdigits]
    decide

mutual

theorem text_printable (level : ℕ) (value : Json) : (text none level value).all isPrintable = true := by
  match value with
  | .null | .bool true | .bool false | .arr [] | .obj [] | .float _ =>
    simp only [text]
    decide
  | .int n => exact decimal_printable n
  | .str s => exact quote_printable s
  | .arr (value :: values) =>
    simp only [text, newline, List.nil_append, List.all_cons, List.all_append, List.all_nil,
      text_printable (level + 1) value, valuesText_printable (level + 1) values]
    decide
  | .obj (item :: items) =>
    simp only [text, newline, List.nil_append, List.all_cons, List.all_append, List.all_nil,
      itemText_printable (level + 1) item, itemsText_printable (level + 1) items]
    decide

theorem valuesText_printable (level : ℕ) (values : List Json) : (valuesText none level values).all isPrintable = true := by
  match values with
  | [] => rfl
  | value :: values =>
    simp only [valuesText, gap, List.all_cons, List.all_append, List.all_nil, text_printable level value,
      valuesText_printable level values]
    decide

theorem itemText_printable (level : ℕ) (item : String × Json) : (itemText none level item).all isPrintable = true := by
  match item with
  | (key, value) =>
    simp only [itemText, List.all_cons, List.all_append, quote_printable key, text_printable level value]
    decide

theorem itemsText_printable (level : ℕ) (items : List (String × Json)) :
    (itemsText none level items).all isPrintable = true := by
  match items with
  | [] => rfl
  | item :: items =>
    simp only [itemsText, gap, List.all_cons, List.all_append, List.all_nil, itemText_printable level item,
      itemsText_printable level items]
    decide

end

/-- **A text that is not indented is printable ASCII, on one line.** -/
theorem dumps_printable (value : Json) : ∀ c ∈ dumps none value, isPrintable c = true :=
  List.all_eq_true.1 (text_printable 0 value.sortKeys)

end Cruise.Lib.Json
