/-
Dictionaries as lists of items in insertion order, read with `List.lookup`.

- `lookup_iff_mem`: with distinct keys, what is looked up is what is listed.
- `lookup_injective`: with distinct values, one value has one key.
- `lookup_filter`, `lookup_extended`: deleting other keys and inserting new ones at the end leave a key's value alone.
- `dictOf`: a dictionary display; of two items with one key the later one counts (`lookup_dictOf`).
-/
import Mathlib.Data.List.Induction
import Mathlib.Data.List.Nodup

namespace Cruise.Lib

variable {α β : Type} [DecidableEq α]

theorem mem_of_lookup {items : List (α × β)} {k : α} {v : β} (h : items.lookup k = some v) : (k, v) ∈ items := by
  obtain ⟨l₁, l₂, rfl, -⟩ := List.lookup_eq_some_iff.1 h
  exact List.mem_append_right _ List.mem_cons_self

theorem lookup_exists {items : List (α × β)} {k : α} (h : k ∈ items.map Prod.fst) : ∃ v, items.lookup k = some v := by
  obtain ⟨⟨k, v⟩, hitem, rfl⟩ := List.mem_map.1 h
  exact Option.isSome_iff_exists.1 (List.lookup_isSome_iff.2 ⟨_, hitem, beq_self_eq_true k⟩)

theorem key_of_lookup {items : List (α × β)} {k : α} {v : β} (h : items.lookup k = some v) : k ∈ items.map Prod.fst :=
  List.mem_map_of_mem (f := Prod.fst) (mem_of_lookup h)

/-- **With distinct keys a dictionary is its items.** -/
theorem lookup_iff_mem {items : List (α × β)} (h : (items.map Prod.fst).Nodup) {k : α} {v : β} :
    items.lookup k = some v ↔ (k, v) ∈ items := by
  refine ⟨mem_of_lookup, fun hitem => ?_⟩
  obtain ⟨v', hv'⟩ := lookup_exists (List.mem_map_of_mem (f := Prod.fst) hitem)
  have heq : ((k, v') : α × β) = (k, v) := List.inj_on_of_nodup_map h (mem_of_lookup hv') hitem rfl
  have hv : v' = v := congrArg Prod.snd heq
  rw [← hv]
  exact hv'

/-- the order of the items does not matter -/
theorem lookup_perm {items items' : List (α × β)} (hperm : items.Perm items') (h : (items.map Prod.fst).Nodup) (k : α) :
    items.lookup k = items'.lookup k := by
  refine Option.ext fun v => ?_
  rw [lookup_iff_mem h, lookup_iff_mem ((hperm.map Prod.fst).nodup h), hperm.mem_iff]

/-- an item with a new key, at the end -/
theorem lookup_concat {items : List (α × β)} {k : α} (h : k ∉ items.map Prod.fst) (v : β) :
    (items ++ [(k, v)]).lookup k = some v := by
  have hnone : items.lookup k = none := by
    rw [List.lookup_eq_none_iff]
    intro item hitem
    rw [bne_iff_ne]
    rintro rfl
    exact h (List.mem_map_of_mem hitem)
  rw [List.lookup_append, hnone, Option.none_or, List.lookup_cons, beq_self_eq_true]

theorem lookup_mapped {γ : Type} (f : α → β → γ) (items : List (α × β)) (k : α) :
    (items.map fun item => (item.1, f item.1 item.2)).lookup k = (items.lookup k).map (f k) := by
  induction items with
  | nil => rfl
  | cons item rest ih =>
    rw [List.map_cons, List.lookup_cons, List.lookup_cons, ih]
    cases hk : k == item.1 with
    | true =>
      rw [eq_of_beq hk]
      rfl
    | false => rfl

theorem lookup_values {γ : Type} (f : β → γ) (items : List (α × β)) (k : α) :
    (items.map fun item => (item.1, f item.2)).lookup k = (items.lookup k).map f :=
  lookup_mapped (fun _ => f) items k

/-- `del` of other keys -/
theorem lookup_filter {p : α → Prop} [DecidablePred p] {k : α} (hk : p k) (items : List (α × β)) :
    (items.filter fun item => p item.1).lookup k = items.lookup k := by
  induction items with
  | nil => rfl
  | cons item rest ih =>
    obtain ⟨k', v⟩ := item
    by_cases heq : k = k'
    · subst heq
      rw [List.filter_cons_of_pos (by simpa using hk), List.lookup_cons_self, List.lookup_cons_self]
    · have hne : (k == k') = false := beq_false_of_ne heq
      rw [List.lookup_cons, hne, ← ih]
      by_cases hp : p k'
      · rw [List.filter_cons_of_pos (by simpa using hp), List.lookup_cons, hne]
      · rw [List.filter_cons_of_neg (by simpa using hp)]

/-- insertion of new keys -/
theorem lookup_extended {items items' : List (α × β)} (h : items <+: items') {k : α} (hk : k ∈ items.map Prod.fst) :
    items'.lookup k = items.lookup k := by
  obtain ⟨v, hv⟩ := lookup_exists hk
  rw [hv, h.lookup_eq_some hv]

/-- with distinct values, one value has one key -/
theorem lookup_injective {items : List (α × β)} (h : (items.map Prod.snd).Nodup) {k k' : α} {v : β}
    (hk : items.lookup k = some v) (hk' : items.lookup k' = some v) : k = k' := by
  have heq : ((k, v) : α × β) = (k', v) := List.inj_on_of_nodup_map h (mem_of_lookup hk) (mem_of_lookup hk') rfl
  exact congrArg Prod.fst heq

/-- `items[k] = v` -/
def setItem (items : List (α × β)) (item : α × β) : List (α × β) :=
  if item.1 ∈ items.map Prod.fst then items.map fun old => if old.1 = item.1 then item else old
  else items ++ [item]

/-- `{k: v, ...}` -/
def dictOf (items : List (α × β)) : List (α × β) := items.foldl setItem []

theorem lookup_setItem (items : List (α × β)) (item : α × β) (k : α) :
    (setItem items item).lookup k = if k = item.1 then some item.2 else items.lookup k := by
  unfold setItem
  split_ifs with hmem hk hk
  · -- the value of an old key is replaced where it stands
    subst hk
    induction items with
    | nil => cases hmem
    | cons old rest ih =>
      rw [List.map_cons, List.lookup_cons]
      by_cases hold : old.1 = item.1
      · rw [if_pos hold, beq_self_eq_true]
      · rw [if_neg hold, beq_false_of_ne (Ne.symm hold)]
        exact ih ((List.mem_cons.1 hmem).resolve_left (Ne.symm hold))
  · clear hmem
    induction items with
    | nil => rfl
    | cons old rest ih =>
      rw [List.map_cons, List.lookup_cons, List.lookup_cons, ih]
      by_cases hold : old.1 = item.1
      · rw [if_pos hold, hold, beq_false_of_ne hk]
      · rw [if_neg hold]
  · obtain ⟨key, v⟩ := item
    obtain rfl : k = key := hk
    have hnone : items.lookup k = none := by
      by_contra hne
      obtain ⟨v', hv'⟩ := Option.ne_none_iff_exists'.1 hne
      exact hmem (key_of_lookup hv')
    rw [List.lookup_append, hnone, Option.none_or, List.lookup_cons, beq_self_eq_true]
  · rw [List.lookup_append, List.lookup_cons, beq_false_of_ne hk, List.lookup_nil, Option.or_none]

theorem setItem_nodup {items : List (α × β)} (h : (items.map Prod.fst).Nodup) (item : α × β) :
    ((setItem items item).map Prod.fst).Nodup := by
  unfold setItem
  split_ifs with hmem
  · have hkeys : (items.map fun old => if old.1 = item.1 then item else old).map Prod.fst = items.map Prod.fst := by
      rw [List.map_map]
      refine List.map_congr_left fun old _ => ?_
      by_cases hold : old.1 = item.1
      · simp [hold]
      · simp [hold]
    rwa [hkeys]
  · rw [List.map_append]
    refine List.nodup_append.2 ⟨h, List.nodup_singleton _, fun a ha b hb hab => ?_⟩
    obtain rfl : b = item.1 := List.mem_singleton.1 hb
    exact hmem (hab ▸ ha)

theorem dictOf_nodup (items : List (α × β)) : ((dictOf items).map Prod.fst).Nodup := by
  unfold dictOf
  induction items using List.reverseRecOn with
  | nil => exact .nil
  | append_singleton items item ih =>
    rw [List.foldl_append]
    exact setItem_nodup ih item

/-- with distinct keys it is the items themselves -/
theorem dictOf_self {items : List (α × β)} (h : (items.map Prod.fst).Nodup) : dictOf items = items := by
  unfold dictOf
  induction items using List.reverseRecOn with
  | nil => rfl
  | append_singleton items item ih =>
    rw [List.map_append, List.map_singleton] at h
    obtain ⟨hitems, -, hnew⟩ := List.nodup_append.1 h
    rw [List.foldl_append, ih hitems, List.foldl_cons, List.foldl_nil]
    exact if_neg fun hmem => hnew item.1 hmem item.1 (List.mem_singleton_self _) rfl

/-- **The last item of a key counts.** -/
theorem lookup_dictOf (items : List (α × β)) (k : α) : (dictOf items).lookup k = items.reverse.lookup k := by
  unfold dictOf
  induction items using List.reverseRecOn with
  | nil => rfl
  | append_singleton items item ih =>
    rw [List.foldl_append, List.reverse_append, List.foldl_cons, List.foldl_nil, lookup_setItem, ih,
      List.reverse_singleton, List.singleton_append, List.lookup_cons]
    by_cases hk : k = item.1
    · rw [if_pos hk, hk, beq_self_eq_true]
    · rw [if_neg hk, beq_false_of_ne hk]

theorem mem_dictOf {items : List (α × β)} {item : α × β} (h : item ∈ dictOf items) : item ∈ items := by
  have hlookup := (lookup_iff_mem (dictOf_nodup items)).2 h
  rw [lookup_dictOf] at hlookup
  exact List.mem_reverse.1 (mem_of_lookup hlookup)

/-- every key given has an item -/
theorem dictOf_key {items : List (α × β)} {item : α × β} (h : item ∈ items) : ∃ v, (item.1, v) ∈ dictOf items := by
  obtain ⟨v, hv⟩ := lookup_exists (List.mem_map_of_mem (f := Prod.fst) (List.mem_reverse.2 h))
  rw [← lookup_dictOf] at hv
  exact ⟨v, mem_of_lookup hv⟩

/-- `d.update(items)` -/
theorem lookup_foldl_setItem (items items' : List (α × β)) (k : α) :
    (items'.foldl setItem items).lookup k = (items'.reverse.lookup k).or (items.lookup k) := by
  induction items' using List.reverseRecOn with
  | nil => rfl
  | append_singleton items' item ih =>
    rw [List.foldl_append, List.reverse_append, List.foldl_cons, List.foldl_nil, lookup_setItem, ih,
      List.reverse_singleton, List.singleton_append, List.lookup_cons]
    by_cases hk : k = item.1
    · rw [if_pos hk, hk, beq_self_eq_true]
      rfl
    · rw [if_neg hk, beq_false_of_ne hk]

end Cruise.Lib
