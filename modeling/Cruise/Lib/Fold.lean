/-
Loops with early exit over a list of distinct indices, in `Except`.

`foldlM_update_ok`: a loop that recomputes one component of a tuple per index ends normally exactly when every
component's own computation does, and then each component is its own result.
`foldlM_inv`, `foldlM_total`: an invariant indexed by the part of the list already visited; `foldlM_exit`: where it exits.
`foldlM_forget`: two loops in lock step, the first with state and exits the second does not have.
`forM_ok_iff`: a loop of checks.
`mapM_some`, `mapM_ok`, `mapM_error`: what a comprehension whose every element may fail returns, element by element.
-/
import Mathlib.Tactic

namespace Cruise.Lib

variable {ι β ε σ : Type}

theorem except_bind_ok {x : Except ε β} {f : β → Except ε σ} {b : σ} :
    x >>= f = .ok b ↔ ∃ a, x = .ok a ∧ f a = .ok b := by
  cases x with
  | error e =>
    refine ⟨fun h => (by cases h), ?_⟩
    rintro ⟨a, h, -⟩
    cases h
  | ok a =>
    refine ⟨fun h => ⟨a, rfl, h⟩, ?_⟩
    rintro ⟨a', h, h'⟩
    cases h
    exact h'

theorem except_bind_error {x : Except ε β} {f : β → Except ε σ} {e : ε} :
    x >>= f = .error e ↔ x = .error e ∨ ∃ a, x = .ok a ∧ f a = .error e := by
  cases x with
  | error e' =>
    refine ⟨fun h => Or.inl (by cases h; rfl), ?_⟩
    rintro (h | ⟨a, h, -⟩)
    · cases h; rfl
    · cases h
  | ok a =>
    refine ⟨fun h => Or.inr ⟨a, rfl, h⟩, ?_⟩
    rintro (h | ⟨a', h, h'⟩)
    · cases h
    · cases h; exact h'

theorem toOption_some {x : Except ε β} {b : β} : x.toOption = some b ↔ x = .ok b := by
  cases x with
  | error e => exact iff_of_false (fun h => by cases h) fun h => by cases h
  | ok b' => exact ⟨fun h => by cases h; rfl, fun h => by cases h; rfl⟩

theorem mapM_some {f : ι → Option β} {l : List ι} {l' : List β} (h : l.mapM f = some l') :
    List.Forall₂ (fun a b => f a = some b) l l' := by
  induction l generalizing l' with
  | nil =>
    cases h
    exact .nil
  | cons a rest ih =>
    rw [List.mapM_cons, Option.bind_eq_bind, Option.bind_eq_some_iff] at h
    obtain ⟨b, hb, h⟩ := h
    rw [Option.bind_eq_bind, Option.bind_eq_some_iff] at h
    obtain ⟨bs, hbs, h⟩ := h
    cases h
    exact .cons hb (ih hbs)

theorem mapM_eq_map {f : ι → Option β} {g : ι → β} {l : List ι} (h : ∀ a ∈ l, f a = some (g a)) :
    l.mapM f = some (l.map g) := by
  induction l with
  | nil => rfl
  | cons a rest ih =>
    rw [List.mapM_cons, h a List.mem_cons_self, ih fun a' ha' => h a' (List.mem_cons_of_mem _ ha')]
    rfl

/-- every value has an index it came from -/
theorem forall₂_mem {R : ι → β → Prop} {l : List ι} {l' : List β} (h : List.Forall₂ R l l') {b : β} (hb : b ∈ l') :
    ∃ a ∈ l, R a b := by
  induction h with
  | nil => cases hb
  | cons hab _ ih =>
    rcases List.mem_cons.1 hb with rfl | hb
    · exact ⟨_, List.mem_cons_self, hab⟩
    · obtain ⟨a, ha, hr⟩ := ih hb
      exact ⟨a, List.mem_cons_of_mem _ ha, hr⟩

/-- what related entries agree on -/
theorem forall₂_map_eq {γ : Type} {R : ι → β → Prop} {f : ι → γ} {g : β → γ} {l : List ι} {l' : List β}
    (h : List.Forall₂ R l l') (heq : ∀ a b, R a b → f a = g b) : l.map f = l'.map g := by
  induction h with
  | nil => rfl
  | cons hab _ ih => rw [List.map_cons, List.map_cons, heq _ _ hab, ih]

/-- one value for each index -/
theorem forall₂_exists {R : ι → β → Prop} {l : List ι} (h : ∀ a ∈ l, ∃ b, R a b) : ∃ l', List.Forall₂ R l l' := by
  induction l with
  | nil => exact ⟨[], .nil⟩
  | cons a rest ih =>
    obtain ⟨b, hb⟩ := h a List.mem_cons_self
    obtain ⟨l', hl'⟩ := ih fun a' ha' => h a' (List.mem_cons_of_mem _ ha')
    exact ⟨b :: l', .cons hb hl'⟩

theorem mapM_exists {f : ι → Option β} {l : List ι} (h : ∀ a ∈ l, ∃ b, f a = some b) : ∃ l', l.mapM f = some l' := by
  induction l with
  | nil => exact ⟨[], rfl⟩
  | cons a rest ih =>
    obtain ⟨b, hb⟩ := h a List.mem_cons_self
    obtain ⟨bs, hbs⟩ := ih fun a' ha' => h a' (List.mem_cons_of_mem _ ha')
    exact ⟨b :: bs, by rw [List.mapM_cons, hb, hbs]; rfl⟩

theorem mapM_ok {f : ι → Except ε β} {l : List ι} {l' : List β} :
    l.mapM f = .ok l' ↔ List.Forall₂ (fun a b => f a = .ok b) l l' := by
  induction l generalizing l' with
  | nil =>
    rw [List.forall₂_nil_left_iff]
    refine ⟨fun h => ?_, fun h => h ▸ rfl⟩
    cases h
    rfl
  | cons a rest ih =>
    rw [List.mapM_cons, except_bind_ok]
    constructor
    · rintro ⟨b, hb, h⟩
      obtain ⟨bs, hbs, h⟩ := except_bind_ok.1 h
      cases h
      exact .cons hb (ih.1 hbs)
    · intro h
      obtain ⟨b, bs, hb, hbs, rfl⟩ := List.forall₂_cons_left_iff.1 h
      exact ⟨b, hb, except_bind_ok.2 ⟨bs, ih.2 hbs, rfl⟩⟩

theorem mapM_total {f : ι → Except ε β} {l : List ι} (h : ∀ a ∈ l, ∃ b, f a = .ok b) : ∃ l', l.mapM f = .ok l' := by
  induction l with
  | nil => exact ⟨[], rfl⟩
  | cons a rest ih =>
    obtain ⟨b, hb⟩ := h a List.mem_cons_self
    obtain ⟨bs, hbs⟩ := ih fun a' ha' => h a' (List.mem_cons_of_mem _ ha')
    exact ⟨b :: bs, by rw [List.mapM_cons, hb, hbs]; rfl⟩

theorem mapM_map {f : ι → Except ε β} {g : ι → β} {l : List ι} (h : ∀ a ∈ l, f a = .ok (g a)) :
    l.mapM f = .ok (l.map g) := by
  rw [mapM_ok, List.forall₂_map_right_iff, List.forall₂_same]
  exact h

/-- elements that are numbered only for the error -/
theorem mapM_numbered {f : ι × ℕ → Except ε β} {R : ι → β → Prop} (h : ∀ a n b, f (a, n) = .ok b ↔ R a b) {l : List ι}
    {start : ℕ} {l' : List β} : (l.zipIdx start).mapM f = .ok l' ↔ List.Forall₂ R l l' := by
  have hsame : (fun (entry : ι × ℕ) b => f entry = .ok b) = fun entry b => R entry.1 b := by
    funext entry b
    exact propext (h entry.1 entry.2 b)
  rw [mapM_ok, hsame, ← List.forall₂_map_left_iff, List.zipIdx_map_fst]

/-- what a comprehension reports is what one of its elements reports -/
theorem mapM_error {f : ι → Except ε β} {l : List ι} {e : ε} (h : l.mapM f = .error e) : ∃ a ∈ l, f a = .error e := by
  induction l with
  | nil => cases h
  | cons a rest ih =>
    rw [List.mapM_cons] at h
    rcases except_bind_error.1 h with h | ⟨b, -, h⟩
    · exact ⟨a, List.mem_cons_self, h⟩
    · rcases except_bind_error.1 h with h | ⟨bs, -, h⟩
      · obtain ⟨a', ha', h⟩ := ih h
        exact ⟨a', List.mem_cons_of_mem _ ha', h⟩
      · cases h

/-- a loop `for i in l: acc[i] = f(i, acc[i])` in which each `f` may exit -/
theorem foldlM_update_ok [DecidableEq ι] (f : ι → β → Except ε β) (l : List ι) (hl : l.Nodup) (init res : ι → β) :
    l.foldlM (fun acc i => f i (acc i) >>= fun x => .ok (Function.update acc i x)) init = Except.ok res ↔
      (∀ i ∈ l, f i (init i) = .ok (res i)) ∧ ∀ i ∉ l, res i = init i := by
  induction l generalizing init with
  | nil =>
    simp only [List.foldlM_nil, List.not_mem_nil, false_implies, implies_true, true_and, not_false_eq_true, true_implies]
    refine ⟨fun h i => ?_, fun h => congrArg Except.ok (funext fun i => (h i).symm)⟩
    cases h
    rfl
  | cons i rest ih =>
    obtain ⟨hi, hrest⟩ := List.nodup_cons.1 hl
    rw [List.foldlM_cons, except_bind_ok]
    constructor
    · rintro ⟨acc, hacc, h⟩
      obtain ⟨x, hx, hupd⟩ := except_bind_ok.1 hacc
      cases hupd
      obtain ⟨h1, h2⟩ := (ih hrest _).1 h
      have hres : res i = x := by rw [h2 i hi, Function.update_self]
      refine ⟨fun j hj => ?_, fun j hj => ?_⟩
      · rcases List.mem_cons.1 hj with rfl | hj
        · rw [hx, hres]
        · have hne : j ≠ i := fun h => hi (h ▸ hj)
          rw [← h1 j hj, Function.update_of_ne hne]
      · obtain ⟨hne, hj⟩ := not_or.1 (fun h => hj (List.mem_cons.2 h))
        rw [h2 j hj, Function.update_of_ne hne]
    · rintro ⟨h1, h2⟩
      refine ⟨Function.update init i (res i), except_bind_ok.2 ⟨res i, h1 i List.mem_cons_self, rfl⟩, ?_⟩
      refine (ih hrest _).2 ⟨fun j hj => ?_, fun j hj => ?_⟩
      · have hne : j ≠ i := fun h => hi (h ▸ hj)
        rw [Function.update_of_ne hne]
        exact h1 j (List.mem_cons_of_mem _ hj)
      · by_cases hji : j = i
        · rw [hji, Function.update_self]
        · rw [Function.update_of_ne hji]
          exact h2 j (fun h => (List.mem_cons.1 h).elim hji hj)

/-- a loop of checks -/
theorem forM_ok_iff {f : ι → Except ε Unit} {l : List ι} : l.forM f = .ok () ↔ ∀ i ∈ l, f i = .ok () := by
  induction l with
  | nil => exact iff_of_true rfl fun i h => by cases h
  | cons i rest ih =>
    show (f i >>= fun _ => rest.forM f) = .ok () ↔ _
    rw [except_bind_ok]
    constructor
    · rintro ⟨u, hi, hrest⟩ j hj
      rcases List.mem_cons.1 hj with rfl | hj
      · exact hi
      · exact ih.1 hrest j hj
    · intro h
      exact ⟨(), h i List.mem_cons_self, ih.2 fun j hj => h j (List.mem_cons_of_mem _ hj)⟩

/-- an invariant of a loop that ends normally, indexed by the prefix already visited -/
theorem foldlM_inv (f : σ → ι → Except ε σ) (P : List ι → σ → Prop) (l : List ι)
    (hstep : ∀ pre i post s s', l = pre ++ i :: post → P pre s → f s i = .ok s' → P (pre ++ [i]) s')
    {s s' : σ} (h0 : P [] s) (h : l.foldlM f s = .ok s') : P l s' := by
  suffices ∀ post pre s, l = pre ++ post → P pre s → post.foldlM f s = .ok s' → P l s' from this l [] s rfl h0 h
  intro post
  induction post with
  | nil =>
    intro pre s hl hP hfold
    cases hfold
    rw [hl, List.append_nil]
    exact hP
  | cons i post ih =>
    intro pre s hl hP hfold
    rw [List.foldlM_cons, except_bind_ok] at hfold
    obtain ⟨s1, h1, h2⟩ := hfold
    exact ih (pre ++ [i]) s1 (by simpa using hl) (hstep pre i post s s1 hl hP h1) h2

/-- a loop whose every step succeeds from what the steps before it leave ends normally -/
theorem foldlM_total (f : σ → ι → Except ε σ) (P : List ι → σ → Prop) (l : List ι)
    (hstep : ∀ pre i post s, l = pre ++ i :: post → P pre s → ∃ s', f s i = .ok s' ∧ P (pre ++ [i]) s')
    {s : σ} (h0 : P [] s) : ∃ s', l.foldlM f s = .ok s' ∧ P l s' := by
  suffices ∀ post pre s, l = pre ++ post → P pre s → ∃ s', post.foldlM f s = .ok s' ∧ P l s' from this l [] s rfl h0
  intro post
  induction post with
  | nil =>
    intro pre s hl hP
    rw [List.append_nil] at hl
    exact ⟨s, rfl, hl ▸ hP⟩
  | cons i post ih =>
    intro pre s hl hP
    obtain ⟨s1, h1, hP1⟩ := hstep pre i post s hl hP
    obtain ⟨s', h', hP'⟩ := ih (pre ++ [i]) s1 (by simpa using hl) hP1
    exact ⟨s', by rw [List.foldlM_cons, except_bind_ok]; exact ⟨s1, h1, h'⟩, hP'⟩

/-- what a loop reports when it exits, from an invariant of the steps before -/
theorem foldlM_error (f : σ → ι → Except ε σ) (P : σ → Prop) (Q : ε → Prop)
    (hok : ∀ s i s', P s → f s i = .ok s' → P s') (herr : ∀ s i e, P s → f s i = .error e → Q e)
    (l : List ι) {s : σ} {e : ε} (h0 : P s) (h : l.foldlM f s = .error e) : Q e := by
  induction l generalizing s with
  | nil => cases h
  | cons i rest ih =>
    rw [List.foldlM_cons, except_bind_error] at h
    rcases h with h | ⟨s', h1, h2⟩
    · exact herr s i e h0 h
    · exact ih (hok s i s' h0 h1) h2

/-- where a loop exits -/
theorem foldlM_exit (f : σ → ι → Except ε σ) {l : List ι} {s : σ} {e : ε} (h : l.foldlM f s = .error e) :
    ∃ pre i post s', l = pre ++ i :: post ∧ pre.foldlM f s = .ok s' ∧ f s' i = .error e := by
  induction l generalizing s with
  | nil => cases h
  | cons i rest ih =>
    rw [List.foldlM_cons, except_bind_error] at h
    rcases h with h | ⟨s₁, hs₁, h⟩
    · exact ⟨[], i, rest, s, rfl, rfl, h⟩
    · obtain ⟨pre, j, post, s', rfl, hpre, hj⟩ := ih h
      exact ⟨i :: pre, j, post, s', rfl, by rw [List.foldlM_cons, hs₁]; exact hpre, hj⟩

/-- the results of a program seen through a projection of its values and one of its exits -/
def forget {α α' ε' : Type} (π : α → α') (ρ : ε → ε') : Except ε α → Except ε' α'
  | .ok a => .ok (π a)
  | .error e => .error (ρ e)

theorem forget_bind {α α' β' ε' : Type} {π : α → α'} {θ : β → β'} {ρ : ε → ε'} {x : Except ε α} {x' : Except ε' α'}
    {f : α → Except ε β} {f' : α' → Except ε' β'} (hx : forget π ρ x = x')
    (hf : ∀ a, x = .ok a → forget θ ρ (f a) = f' (π a)) : forget θ ρ (x >>= f) = x' >>= f' := by
  subst hx
  cases x with
  | error e => rfl
  | ok a => exact hf a rfl

/-- a loop whose every step is a step of another loop, seen through a projection -/
theorem foldlM_forget {σ' ε' : Type} {π : σ → σ'} {ρ : ε → ε'} {f : σ → ι → Except ε σ} {f' : σ' → ι → Except ε' σ'}
    (h : ∀ s i, forget π ρ (f s i) = f' (π s) i) (l : List ι) (s : σ) :
    forget π ρ (l.foldlM f s) = l.foldlM f' (π s) := by
  induction l generalizing s with
  | nil => rfl
  | cons i rest ih =>
    rw [List.foldlM_cons, List.foldlM_cons]
    exact forget_bind (h s i) fun s' _ => ih s'

/-- two loops over the same elements, related step by step -/
theorem foldl_related {σ τ ι : Type} {R : σ → τ → Prop} {f : σ → ι → σ} {g : τ → ι → τ} (l : List ι)
    (h : ∀ i ∈ l, ∀ s t, R s t → R (f s i) (g t i)) {s : σ} {t : τ} (h0 : R s t) : R (l.foldl f s) (l.foldl g t) := by
  induction l generalizing s t with
  | nil => exact h0
  | cons i rest ih =>
    exact ih (fun j hj => h j (List.mem_cons_of_mem _ hj)) (h i List.mem_cons_self _ _ h0)

/-- a loop each step of which takes a counter `width` further -/
theorem foldl_counted {σ ι : Type} (P : ℕ → σ → Prop) {f : σ → ι → σ} {width : ℕ} (l : List ι)
    (h : ∀ i ∈ l, ∀ n s, P n s → P (n + width) (f s i)) {n : ℕ} {s : σ} (h0 : P n s) :
    P (n + l.length * width) (l.foldl f s) := by
  induction l generalizing n s with
  | nil => simpa using h0
  | cons i rest ih =>
    have hstep := ih (fun j hj => h j (List.mem_cons_of_mem _ hj)) (h i List.mem_cons_self n s h0)
    rwa [Nat.add_assoc, Nat.add_comm width, ← Nat.succ_mul] at hstep

end Cruise.Lib
