/-
Counters, as dictionaries of integers.

`add` counts an amount under a key, which exists from then on, also with the count zero. Two counters are equal as
dictionaries (`Agree`) if every key has the same count in both, or is in neither.
- `lookup_addAll`: what a list of amounts comes to.
- `Agree.addAll`: amounts counted in another order give an equal counter.
- `Agree.sorted`: equal counters have the same sorted items.
-/
import Mathlib.Data.List.Sort
import Mathlib.Tactic
import Cruise.Lib.Dict

namespace Cruise.Lib

variable {κ : Type} [DecidableEq κ]

/-- `counter[key] += amount` -/
def add (counter : List (κ × Int)) (key : κ) (amount : Int) : List (κ × Int) :=
  setItem counter (key, (counter.lookup key).getD 0 + amount)

/-- amounts counted one after the other -/
def addAll (counter : List (κ × Int)) (amounts : List (κ × Int)) : List (κ × Int) :=
  amounts.foldl (fun counter amount => add counter amount.1 amount.2) counter

theorem lookup_add (counter : List (κ × Int)) (key : κ) (amount : Int) (k : κ) :
    (add counter key amount).lookup k = if k = key then some ((counter.lookup key).getD 0 + amount) else counter.lookup k :=
  lookup_setItem counter _ k

theorem lookup_addAll (counter amounts : List (κ × Int)) (k : κ) :
    (addAll counter amounts).lookup k = if k ∈ amounts.map Prod.fst then
      some ((counter.lookup k).getD 0 + ((amounts.filter fun amount => amount.1 = k).map Prod.snd).sum)
    else counter.lookup k := by
  unfold addAll
  induction amounts generalizing counter with
  | nil => rfl
  | cons amount amounts ih =>
    obtain ⟨key, n⟩ := amount
    rw [List.foldl_cons, ih, lookup_add, List.map_cons]
    by_cases hk : k = key
    · subst hk
      rw [if_pos rfl, Option.getD_some, if_pos List.mem_cons_self, List.filter_cons_of_pos (by simp), List.map_cons,
        List.sum_cons, ← add_assoc]
      split_ifs with hmem
      · rfl
      · -- the key does not occur again
        have hnone : (amounts.filter fun amount => amount.1 = k) = [] := by
          rw [List.filter_eq_nil_iff]
          intro amount hamount heq
          exact hmem (List.mem_map.2 ⟨amount, hamount, of_decide_eq_true heq⟩)
        rw [hnone, List.map_nil, List.sum_nil, add_zero]
    · rw [if_neg hk, List.filter_cons_of_neg (by simpa using Ne.symm hk)]
      simp only [List.mem_cons, hk, false_or]

theorem addAll_nodup {counter : List (κ × Int)} (h : (counter.map Prod.fst).Nodup) (amounts : List (κ × Int)) :
    ((addAll counter amounts).map Prod.fst).Nodup := by
  unfold addAll
  induction amounts generalizing counter with
  | nil => exact h
  | cons amount amounts ih => exact ih (setItem_nodup h _)

/-- what comes of counting ones -/
theorem lookup_tally {ι : Type} (f : ι → κ) (l : List ι) (k : κ) :
    ((addAll [] (l.map fun a => (f a, 1))).lookup k).getD 0 = l.countP fun a => f a = k := by
  have hsum : (((l.map fun a => (f a, (1 : Int))).filter fun amount => amount.1 = k).map Prod.snd).sum =
      l.countP fun a => f a = k := by
    rw [List.filter_map, List.map_map, List.countP_eq_length_filter]
    simp [Function.comp_def]
  rw [lookup_addAll, hsum]
  split_ifs with hmem
  · exact zero_add _
  · have hnone : l.countP (fun a => f a = k) = 0 := by
      rw [List.countP_eq_zero]
      intro a ha heq
      exact hmem (List.mem_map.2 ⟨_, List.mem_map_of_mem ha, of_decide_eq_true heq⟩)
    rw [hnone]
    rfl

/-- equal as dictionaries -/
structure Agree (a b : List (κ × Int)) : Prop where
  left : (a.map Prod.fst).Nodup
  right : (b.map Prod.fst).Nodup
  lookup : ∀ k, a.lookup k = b.lookup k

namespace Agree

theorem nil : Agree ([] : List (κ × Int)) [] := ⟨List.nodup_nil, List.nodup_nil, fun _ => rfl⟩

variable {a b : List (κ × Int)}

/-- **The order of counting does not matter.** -/
theorem addAll (h : Agree a b) {amounts amounts' : List (κ × Int)} (hperm : amounts.Perm amounts') :
    Agree (addAll a amounts) (addAll b amounts') := by
  refine ⟨addAll_nodup h.left amounts, addAll_nodup h.right amounts', fun k => ?_⟩
  rw [lookup_addAll, lookup_addAll, h.lookup, ((hperm.filter _).map Prod.snd).sum_eq]
  exact if_congr (hperm.map Prod.fst).mem_iff rfl rfl

theorem add (h : Agree a b) (key : κ) (amount : Int) : Agree (add a key amount) (add b key amount) :=
  h.addAll (.refl [(key, amount)])

theorem perm (h : Agree a b) : a.Perm b := by
  rw [List.perm_ext_iff_of_nodup h.left.of_map h.right.of_map]
  rintro ⟨k, n⟩
  rw [← lookup_iff_mem h.left, ← lookup_iff_mem h.right, h.lookup]

/-- **Equal counters have the same sorted items.** -/
theorem sorted [LinearOrder κ] (h : Agree a b) :
    (a.insertionSort fun x y => x.1 ≤ y.1) = b.insertionSort fun x y => x.1 ≤ y.1 := by
  let byKey (x y : κ × Int) : Prop := x.1 ≤ y.1
  have : Std.Total byKey := ⟨fun x y => le_total x.1 y.1⟩
  have : IsTrans (κ × Int) byKey := ⟨fun x y z => le_trans⟩
  have ha := List.perm_insertionSort byKey a
  have hb := List.perm_insertionSort byKey b
  have hsame := (ha.trans h.perm).trans hb.symm
  refine hsame.eq_of_pairwise ?_ (List.pairwise_insertionSort byKey a) (List.pairwise_insertionSort byKey b)
  -- one key has one item
  intro x y hx hy hxy hyx
  have hkeys : ((b.insertionSort byKey).map Prod.fst).Nodup := (hb.map Prod.fst).symm.nodup h.right
  exact List.inj_on_of_nodup_map hkeys (hsame.mem_iff.1 hx) hy (le_antisymm hxy hyx)

end Agree

end Cruise.Lib
