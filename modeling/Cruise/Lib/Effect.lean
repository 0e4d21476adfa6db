/-
Programs that change a state and may raise; the state they leave then is not rolled back (`EStateM`).

- `effect_bind_ok`: what a sequence did, when it returned.
- `KeepsState.bind`: a sequence of programs that leave the state alone.
- `effect_mapM_ok`: an invariant of a loop that returned, indexed by what it has collected.
- `effect_mapM_returns`: a loop whose steps all return, with an invariant indexed by what it has gone through.
-/
import Mathlib.Data.List.Basic

namespace Cruise.Lib

variable {ε σ ι α β : Type}

open EStateM (Result)

theorem effect_bind_ok {x : EStateM ε σ α} {f : α → EStateM ε σ β} {b : β} {s s' : σ} :
    (x >>= f) s = .ok b s' ↔ ∃ a t, x s = .ok a t ∧ f a t = .ok b s' := by
  show (match x s with | .ok a t => f a t | .error e t => .error e t) = .ok b s' ↔ _
  cases x s with
  | ok a t =>
    refine ⟨fun h => ⟨a, t, rfl, h⟩, ?_⟩
    rintro ⟨a', t', h, h'⟩
    cases h
    exact h'
  | error e t =>
    refine ⟨fun h => (by cases h), ?_⟩
    rintro ⟨a, t', h, -⟩
    cases h

/-- a step before the rest -/
theorem effect_bind_eq {x : EStateM ε σ α} {f : α → EStateM ε σ β} {s t : σ} {a : α} (h : x s = .ok a t) :
    (x >>= f) s = f a t := by
  show (match x s with | .ok a t => f a t | .error e t => .error e t) = _
  rw [h]

/-- a program that leaves the state alone when it returns -/
def KeepsState (x : EStateM ε σ α) : Prop := ∀ s a s', x s = .ok a s' → s' = s

theorem KeepsState.bind {x : EStateM ε σ α} {f : α → EStateM ε σ β} (hx : KeepsState x) (hf : ∀ a, KeepsState (f a)) :
    KeepsState (x >>= f) := by
  intro s b s' h
  obtain ⟨a, t, ha, hb⟩ := effect_bind_ok.1 h
  rw [hf a t b s' hb, hx s a t ha]

theorem effect_mapM_collects {f : ι → EStateM ε σ β} {l : List ι} {collected bs : List β} {s s' : σ} (I : List β → σ → Prop)
    (hstep : ∀ a ∈ l, ∀ collected s b s', I collected s → f a s = .ok b s' → I (collected ++ [b]) s')
    (hstart : I collected s) (h : l.mapM f s = .ok bs s') : I (collected ++ bs) s' := by
  induction l generalizing collected bs s with
  | nil =>
    rw [List.mapM_nil] at h
    cases h
    rwa [List.append_nil]
  | cons a rest ih =>
    rw [List.mapM_cons, effect_bind_ok] at h
    obtain ⟨b, t, hb, h⟩ := h
    rw [effect_bind_ok] at h
    obtain ⟨bs', t', hrest, h⟩ := h
    cases h
    have hnext := hstep a List.mem_cons_self collected s b t hstart hb
    have hfinal := ih (fun a' ha' => hstep a' (List.mem_cons_of_mem _ ha')) hnext hrest
    rwa [List.append_assoc, List.singleton_append] at hfinal

/-- **An invariant of a loop.** -/
theorem effect_mapM_ok {f : ι → EStateM ε σ β} {l : List ι} {bs : List β} {s s' : σ} (I : List β → σ → Prop)
    (hstep : ∀ a ∈ l, ∀ collected s b s', I collected s → f a s = .ok b s' → I (collected ++ [b]) s') (hstart : I [] s)
    (h : l.mapM f s = .ok bs s') : I bs s' :=
  effect_mapM_collects I hstep hstart h

theorem effect_mapM_continues {f : ι → EStateM ε σ β} {g : ι → β} {l done : List ι} {s : σ} (I : List ι → σ → Prop)
    (hstep : ∀ done a rest, done ++ a :: rest = l → ∀ s, I done s → ∃ s', f a s = .ok (g a) s' ∧ I (done ++ [a]) s')
    {rest : List ι} (hl : done ++ rest = l) (hstart : I done s) :
    ∃ s', rest.mapM f s = .ok (rest.map g) s' ∧ I l s' := by
  induction rest generalizing done s with
  | nil =>
    rw [List.append_nil] at hl
    exact ⟨s, rfl, hl ▸ hstart⟩
  | cons a rest ih =>
    obtain ⟨t, ha, hnext⟩ := hstep done a rest hl s hstart
    have hl' : (done ++ [a]) ++ rest = l := by rw [← hl, List.append_assoc, List.singleton_append]
    obtain ⟨s', hrest, hfinal⟩ := ih hl' hnext
    refine ⟨s', ?_, hfinal⟩
    rw [List.mapM_cons, effect_bind_eq ha, effect_bind_eq hrest]
    rfl

/-- **A loop that returns.** -/
theorem effect_mapM_returns {f : ι → EStateM ε σ β} {g : ι → β} {l : List ι} {s : σ} (I : List ι → σ → Prop)
    (hstep : ∀ done a rest, done ++ a :: rest = l → ∀ s, I done s → ∃ s', f a s = .ok (g a) s' ∧ I (done ++ [a]) s')
    (hstart : I [] s) : ∃ s', l.mapM f s = .ok (l.map g) s' ∧ I l s' :=
  effect_mapM_continues I hstep (List.nil_append l) hstart

end Cruise.Lib
