/-
Runs of a transition system, with a condition on the steps taken.

`Run step allowed start s`: `s` is reached from `start` by steps each of which met `allowed` in the state it was taken in.
- `Run.invariant`: what holds at the start and is kept by every allowed step holds in every state reached.
- `Run.mono`: a weaker condition allows more runs.
- `Run.map`: the image of a run under a map that takes steps to steps.
- `Run.after`, `Run.of_after`: a list of events, taken one by one.
-/
import Mathlib.Data.List.Induction

namespace Cruise.Lib

variable {σ τ ε δ : Type}

inductive Run (step : σ → ε → σ → Prop) (allowed : σ → ε → Prop) (start : σ) : σ → Prop where
  | refl : Run step allowed start start
  | tail {s e t} : Run step allowed start s → step s e t → allowed s e → Run step allowed start t

namespace Run

variable {step : σ → ε → σ → Prop} {allowed allowed' : σ → ε → Prop} {start s t : σ}

/-- **The induction rule.** -/
theorem invariant {P : σ → Prop} (hstart : P start)
    (hstep : ∀ s e t, P s → step s e t → allowed s e → P t) (h : Run step allowed start s) : P s := by
  induction h with
  | refl => exact hstart
  | tail _ hs ha ih => exact hstep _ _ _ ih hs ha

theorem mono (hmono : ∀ s e, allowed s e → allowed' s e) (h : Run step allowed start s) :
    Run step allowed' start s := by
  induction h with
  | refl => exact .refl
  | tail _ hs ha ih => exact ih.tail hs (hmono _ _ ha)

theorem map {step' : τ → δ → τ → Prop} {allowed' : τ → δ → Prop} (f : σ → τ)
    (hstep : ∀ s e t, step s e t → allowed s e → ∃ e', step' (f s) e' (f t) ∧ allowed' (f s) e')
    (h : Run step allowed start s) : Run step' allowed' (f start) (f s) := by
  induction h with
  | refl => exact .refl
  | tail _ hs ha ih =>
    obtain ⟨e', hs', ha'⟩ := hstep _ _ _ hs ha
    exact ih.tail hs' ha'

theorem trans (h : Run step allowed start s) (h' : Run step allowed s t) : Run step allowed start t := by
  induction h' with
  | refl => exact h
  | tail _ hs ha ih => exact ih.tail hs ha

/-- the state after a list of events, each of them checked -/
def after (next : σ → ε → Option σ) (allowed : σ → ε → Prop) [∀ s e, Decidable (allowed s e)] (start : σ)
    (events : List ε) : Option σ :=
  events.foldlM (fun s e => if allowed s e then next s e else none) start

theorem of_after {next : σ → ε → Option σ} [∀ s e, Decidable (allowed s e)] {events : List ε}
    (h : after next allowed start events = some t) : Run (fun s e s' => next s e = some s') allowed start t := by
  unfold after at h
  induction events using List.reverseRecOn generalizing t with
  | nil =>
    cases h
    exact .refl
  | append_singleton events e ih =>
    rw [List.foldlM_append] at h
    obtain ⟨s, hs, h⟩ := Option.bind_eq_some_iff.1 h
    rw [List.foldlM_cons] at h
    obtain ⟨s', hs', h⟩ := Option.bind_eq_some_iff.1 h
    cases h
    by_cases ha : allowed s e
    · rw [if_pos ha] at hs'
      exact (ih hs).tail hs' ha
    · rw [if_neg ha] at hs'
      cases hs'

end Run

end Cruise.Lib
