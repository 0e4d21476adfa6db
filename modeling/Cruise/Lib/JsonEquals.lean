/-
Equality of JSON values, as Python's `==` compares what they are read to.

Numbers are equal by value, truth values among them; what is not finite counts as one number. Objects are equal if they have
as many members, and each member of the one is equal to that of the other.
- `equals_self`: a value whose objects have distinct keys equals itself; `loads_distinct`: what is read is such a value.
- `equals_get`, `equals_values`: equal values have equal parts.
-/
import Cruise.Lib.JsonText

namespace Cruise.Lib.Json

def isNull : Json → Bool
  | .null => true
  | _ => false

/-- numbers of one value -/
def equalsNumber (value other : Json) : Bool :=
  match value with
  | .bool _ | .int _ | .float _ => value.number = other.number
  | _ => false

mutual

/-- `==` -/
def equals : Json → Json → Bool
  | .null, other => other.isNull
  | .str s, other => other.equalsStr s
  | .arr values, other =>
    match other with
    | .arr others => equalsValues values others
    | _ => false
  | .obj items, other =>
    match other with
    | .obj others => items.length = others.length && equalsItems items others
    | _ => false
  | .bool b, other => other.equalsNumber (.bool b)
  | .int n, other => other.equalsNumber (.int n)
  | .float value, other => other.equalsNumber (.float value)
termination_by structural value => value

def equalsValues : List Json → List Json → Bool
  | [], others => others.isEmpty
  | value :: values, others =>
    match others with
    | [] => false
    | other :: others => equals value other && equalsValues values others
termination_by structural value => value

/-- an item against the member of its key -/
def equalsItem : String × Json → List (String × Json) → Bool
  | (key, value), others =>
    match others.lookup key with
    | some other => equals value other
    | none => false
termination_by structural value => value

def equalsItems : List (String × Json) → List (String × Json) → Bool
  | [], _ => true
  | item :: items, others => equalsItem item others && equalsItems items others
termination_by structural value => value

end

mutual

/-- no object has two members of one key -/
def Distinct : Json → Prop
  | .arr values => DistinctValues values
  | .obj items => (items.map Prod.fst).Nodup ∧ DistinctItems items
  | _ => True

def DistinctValues : List Json → Prop
  | [] => True
  | value :: values => Distinct value ∧ DistinctValues values

def DistinctItem : String × Json → Prop
  | (_, value) => Distinct value

def DistinctItems : List (String × Json) → Prop
  | [] => True
  | item :: items => DistinctItem item ∧ DistinctItems items

end

theorem distinctItems_iff {items : List (String × Json)} : DistinctItems items ↔ ∀ item ∈ items, item.2.Distinct := by
  induction items with
  | nil => simp [DistinctItems]
  | cons item items ih =>
    obtain ⟨key, value⟩ := item
    simp [DistinctItems, DistinctItem, ih]

theorem distinctValues_iff {values : List Json} : DistinctValues values ↔ ∀ value ∈ values, value.Distinct := by
  induction values with
  | nil => simp [DistinctValues]
  | cons value values ih => simp [DistinctValues, ih]

mutual

/-- **A value equals itself.** -/
theorem equals_self (value : Json) (h : value.Distinct) : value.equals value = true := by
  match value with
  | .null => rfl
  | .bool _ | .int _ | .float _ => exact decide_eq_true rfl
  | .str _ => exact equalsStr_iff.2 rfl
  | .arr values => exact equalsValues_self values h
  | .obj items =>
    have hitems := equalsItems_self items items (fun item hitem => (lookup_iff_mem h.1).2 hitem) h.2
    exact Bool.and_eq_true_iff.2 ⟨decide_eq_true rfl, hitems⟩

theorem equalsValues_self (values : List Json) (h : DistinctValues values) : equalsValues values values = true := by
  match values with
  | [] => rfl
  | value :: values => simp [equalsValues, equals_self value h.1, equalsValues_self values h.2]

theorem equalsItems_self (items all : List (String × Json)) (hall : ∀ item ∈ items, all.lookup item.1 = some item.2)
    (h : DistinctItems items) : equalsItems items all = true := by
  match items with
  | [] => rfl
  | (key, value) :: items =>
    have hlookup := hall (key, value) List.mem_cons_self
    have hrest := equalsItems_self items all (fun item hitem => hall item (List.mem_cons_of_mem _ hitem)) h.2
    simp only [equalsItems, equalsItem, hlookup, equals_self value h.1, hrest, Bool.and_self]

end

/-! ## Equal parts -/

theorem equalsItems_mem {items others : List (String × Json)} (h : equalsItems items others = true) {key : String}
    {value : Json} (hitem : (key, value) ∈ items) : ∃ other, others.lookup key = some other ∧ value.equals other = true := by
  induction items with
  | nil => cases hitem
  | cons item items ih =>
    rw [equalsItems, Bool.and_eq_true] at h
    rcases List.mem_cons.1 hitem with rfl | hitem
    · have hfirst := h.1
      rw [equalsItem] at hfirst
      split at hfirst
      · exact ⟨_, ‹_›, hfirst⟩
      · cases hfirst
    · exact ih h.2 hitem

theorem equals_get {value other v : Json} {key : String} (h : value.equals other = true) (hget : value.get key = some v) :
    ∃ w, other.get key = some w ∧ v.equals w = true := by
  cases value with
  | obj items =>
    cases other with
    | obj others =>
      rw [equals, Bool.and_eq_true] at h
      exact equalsItems_mem h.2 (mem_of_lookup hget)
    | _ => cases h
  | _ => cases hget

theorem equalsValues_forall₂ {values others : List Json} (h : equalsValues values others = true) :
    List.Forall₂ (fun value other => value.equals other = true) values others := by
  induction values generalizing others with
  | nil =>
    cases others with
    | nil => exact .nil
    | cons _ _ => cases h
  | cons value values ih =>
    cases others with
    | nil => cases h
    | cons other others =>
      rw [equalsValues, Bool.and_eq_true] at h
      exact .cons h.1 (ih h.2)

theorem equals_values {values : List Json} {other : Json} (h : (Json.arr values).equals other = true) :
    ∃ others, other = .arr others ∧ List.Forall₂ (fun value other => value.equals other = true) values others := by
  cases other with
  | arr others => exact ⟨others, rfl, equalsValues_forall₂ h⟩
  | _ => cases h

theorem equals_number {value other : Json} {q : ℚ} (h : value.equals other = true) (hvalue : value.number = some q) :
    other.number = some q := by
  have hnumber (v : Json) (hv : v.number = some q) (hequals : other.equalsNumber v = true) : other.number = some q := by
    unfold equalsNumber at hequals
    split at hequals
    · rw [of_decide_eq_true hequals, hv]
    · rw [of_decide_eq_true hequals, hv]
    · rw [of_decide_eq_true hequals, hv]
    · cases hequals
  cases value with
  | bool b => exact hnumber _ hvalue h
  | int n => exact hnumber _ hvalue h
  | float v => exact hnumber _ hvalue h
  | _ => cases hvalue

/-- a number that is an integer converts to it -/
theorem toInt_number {value : Json} {n : Int} (h : value.number = some (n : ℚ)) : value.toInt = some n := by
  cases value with
  | bool b =>
    have hn : (if b then 1 else 0 : ℚ) = n := Option.some_injective _ h
    cases b with
    | true => exact congrArg some (by exact_mod_cast hn)
    | false => exact congrArg some (by exact_mod_cast hn)
  | int m => exact congrArg some (by exact_mod_cast Option.some_injective _ h)
  | float v =>
    obtain rfl : v = some (n : ℚ) := h
    simp only [toInt, Option.map_some, Int.floor_intCast, Int.ceil_intCast, ite_self]
  | _ => cases h

/-! ## What is read -/

theorem readNumber_distinct {text : List Char} {value : Json} {rest : List Char} (h : readNumber text = some (value, rest)) :
    value.Distinct := by
  have hunsigned {negative : Bool} {text : List Char} (h : readUnsigned negative text = some (value, rest)) :
      value.Distinct := by
    unfold readUnsigned at h
    dsimp only at h
    split at h
    · cases h
    · split at h
      · cases h
        trivial
      · cases h
        trivial
  unfold readNumber at h
  split at h
  · exact hunsigned h
  · exact hunsigned h

theorem readScalar_distinct {text : List Char} {value : Json} {rest : List Char} (h : readScalar text = some (value, rest)) :
    value.Distinct := by
  have hwords : ∀ entry ∈ words, entry.2.Distinct := by
    simp [words, Distinct]
  unfold readScalar at h
  split at h
  · rename_i word value' hfind
    cases h
    exact hwords _ (List.mem_of_find?_eq_some hfind)
  · exact readNumber_distinct h

theorem lex_distinct {bound : ℕ} {text : List Char} {ts : List Token} (h : lex bound text = some ts) :
    ∀ value, .scalar value ∈ ts → value.Distinct := by
  induction bound generalizing text ts with
  | zero =>
    cases text with
    | nil =>
      cases h
      simp
    | cons _ _ => cases h
  | succ bound ih =>
    cases text with
    | nil =>
      cases h
      simp
    | cons c rest =>
      intro value hvalue
      rw [lex] at h
      split_ifs at h
      · exact ih h value hvalue
      · obtain ⟨ts', hts, rfl⟩ := Option.map_eq_some_iff.1 h
        exact ih hts value (by simpa using hvalue)
      · obtain ⟨r, -, h⟩ := Option.bind_eq_some_iff.1 h
        obtain ⟨ts', hts, rfl⟩ := Option.map_eq_some_iff.1 h
        exact ih hts value (by simpa using hvalue)
      · obtain ⟨r, hr, h⟩ := Option.bind_eq_some_iff.1 h
        obtain ⟨ts', hts, rfl⟩ := Option.map_eq_some_iff.1 h
        rcases List.mem_cons.1 hvalue with hfirst | hvalue
        · cases hfirst
          exact readScalar_distinct hr
        · exact ih hts value hvalue

/-- the scalars among the tokens -/
def DistinctTokens (ts : List Token) : Prop := ∀ value, .scalar value ∈ ts → value.Distinct

theorem DistinctTokens.tail {t : Token} {ts : List Token} (h : DistinctTokens (t :: ts)) : DistinctTokens ts :=
  fun value hvalue => h value (List.mem_cons_of_mem _ hvalue)

theorem distinct_obj {items : List (String × Json)} (h : DistinctItems items) : (Json.obj (dictOf items)).Distinct :=
  ⟨dictOf_nodup items, distinctItems_iff.2 fun item hitem => distinctItems_iff.1 h item (mem_dictOf hitem)⟩

/-- **What is parsed has distinct keys**, and so has what is left. -/
theorem parse_distinct (bound : ℕ) {ts : List Token} (hts : DistinctTokens ts) :
    (∀ value rest, parseValue bound ts = some (value, rest) → value.Distinct ∧ DistinctTokens rest) ∧
      (∀ values rest, parseValues bound ts = some (values, rest) → DistinctValues values ∧ DistinctTokens rest) ∧
      ∀ items rest, parseItems bound ts = some (items, rest) → DistinctItems items ∧ DistinctTokens rest := by
  induction bound generalizing ts with
  | zero =>
    refine ⟨fun value rest h => ?_, fun values rest h => ?_, fun items rest h => ?_⟩
    · cases h
    · cases h
    · cases h
  | succ bound ih =>
    refine ⟨fun value rest h => ?_, fun values rest h => ?_, fun items rest h => ?_⟩
    · rw [parseValue.eq_def] at h
      split at h
      · cases h
        exact ⟨hts _ List.mem_cons_self, hts.tail⟩
      · cases h
        exact ⟨trivial, hts.tail⟩
      · cases h
        exact ⟨trivial, hts.tail.tail⟩
      · rename_i hbound
        obtain rfl := Nat.succ_injective hbound
        obtain ⟨r, hr, hvalue⟩ := Option.map_eq_some_iff.1 h
        cases hvalue
        exact (ih hts.tail).2.1 _ _ hr
      · cases h
        exact ⟨⟨List.nodup_nil, trivial⟩, hts.tail.tail⟩
      · rename_i hbound
        obtain rfl := Nat.succ_injective hbound
        obtain ⟨r, hr, hvalue⟩ := Option.map_eq_some_iff.1 h
        cases hvalue
        obtain ⟨hitems, hrest⟩ := (ih hts.tail).2.2 _ _ hr
        exact ⟨distinct_obj hitems, hrest⟩
      · cases h
    · rw [parseValues] at h
      obtain ⟨⟨value, ts'⟩, hvalue, h⟩ := Option.bind_eq_some_iff.1 h
      obtain ⟨hdistinct, hts'⟩ := (ih hts).1 _ _ hvalue
      split at h
      · rename_i hrest
        obtain ⟨r, hr, hvalues⟩ := Option.map_eq_some_iff.1 h
        cases hvalues
        obtain ⟨hvalues, hrest'⟩ := (ih (by cases hrest; exact hts'.tail)).2.1 _ _ hr
        exact ⟨⟨hdistinct, hvalues⟩, hrest'⟩
      · rename_i hrest
        cases hrest
        cases h
        exact ⟨⟨hdistinct, trivial⟩, hts'.tail⟩
      · cases h
    · rw [parseItems.eq_def] at h
      split at h
      · rename_i hbound
        obtain rfl := Nat.succ_injective hbound
        obtain ⟨⟨value, ts'⟩, hvalue, h⟩ := Option.bind_eq_some_iff.1 h
        obtain ⟨hdistinct, hts'⟩ := (ih hts.tail.tail).1 _ _ hvalue
        split at h
        · rename_i hrest
          obtain ⟨r, hr, hitems⟩ := Option.map_eq_some_iff.1 h
          cases hitems
          obtain ⟨hitems, hrest'⟩ := (ih (by cases hrest; exact hts'.tail)).2.2 _ _ hr
          exact ⟨⟨hdistinct, hitems⟩, hrest'⟩
        · rename_i hrest
          cases hrest
          cases h
          exact ⟨⟨hdistinct, trivial⟩, hts'.tail⟩
        · cases h
      · cases h

theorem loads_distinct {text : List Char} {value : Json} (h : loads text = some value) : value.Distinct := by
  obtain ⟨ts, hts, hparse⟩ := Option.bind_eq_some_iff.1 h
  unfold parse at hparse
  split at hparse
  · rename_i value' hvalue
    cases hparse
    exact ((parse_distinct _ (lex_distinct hts)).1 _ _ hvalue).1
  · cases hparse

end Cruise.Lib.Json
