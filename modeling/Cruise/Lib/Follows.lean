/-
Sequences made one element at a time, each by a rule that reads all that stands before it.

`Follows next history tokens`: after `history`, the rule gives `tokens`, one after the other. The rule may be silent.
- `follows_append`: two stretches are one stretch.
- `continuation`: what the rule gives, up to a limit and to an element that stops it.
- `Follows.eq_continuation`: a stretch that ends there is all of it.
-/
import Mathlib.Data.List.Basic

namespace Cruise.Lib

variable {α : Type}

inductive Follows (next : List α → Option α) : List α → List α → Prop where
  | nil {history} : Follows next history []
  | cons {history token tokens} : next history = some token → Follows next (history ++ [token]) tokens →
      Follows next history (token :: tokens)

section Follows

variable {next : List α → Option α} {history tokens more : List α}

theorem follows_cons {token : α} : Follows next history (token :: tokens) ↔
    next history = some token ∧ Follows next (history ++ [token]) tokens := by
  constructor
  · rintro (_ | ⟨htoken, hrest⟩)
    exact ⟨htoken, hrest⟩
  · rintro ⟨htoken, hrest⟩
    exact .cons htoken hrest

theorem follows_append : Follows next history (tokens ++ more) ↔
    Follows next history tokens ∧ Follows next (history ++ tokens) more := by
  induction tokens generalizing history with
  | nil =>
    rw [List.nil_append, List.append_nil]
    exact ⟨fun h => ⟨.nil, h⟩, And.right⟩
  | cons token tokens ih =>
    rw [List.cons_append, follows_cons, follows_cons, ih, and_assoc, List.append_assoc, List.singleton_append]

theorem Follows.append (h : Follows next history tokens) (h' : Follows next (history ++ tokens) more) :
    Follows next history (tokens ++ more) := follows_append.2 ⟨h, h'⟩

theorem Follows.snoc (h : Follows next history tokens) {token : α} (htoken : next (history ++ tokens) = some token) :
    Follows next history (tokens ++ [token]) := h.append (.cons htoken .nil)

end Follows

/-! ## Up to a limit -/

/-- what the rule gives after `history`: at most `limit` elements, and none after one that stops it -/
def continuation (next : List α → Option α) (stop : α → Bool) : ℕ → List α → List α
  | 0, _ => []
  | limit + 1, history =>
    match next history with
    | none => []
    | some token => if stop token then [token] else token :: continuation next stop limit (history ++ [token])

section Continuation

variable {next : List α → Option α} {stop : α → Bool} {history tokens : List α} {limit : ℕ}

theorem continuation_cons {token : α} (htoken : next history = some token) : continuation next stop (limit + 1) history =
    if stop token then [token] else token :: continuation next stop limit (history ++ [token]) := by
  rw [continuation, htoken]

/-- elements that follow and do not stop before their end are the beginning of it -/
theorem Follows.prefix_continuation (h : Follows next history tokens) (hstop : ∀ token ∈ tokens.dropLast, stop token = false)
    (hlimit : tokens.length ≤ limit) : tokens <+: continuation next stop limit history := by
  induction h generalizing limit with
  | nil => exact List.nil_prefix
  | @cons history token tokens htoken hrest ih =>
    obtain ⟨limit, rfl⟩ : ∃ n, limit = n + 1 := Nat.exists_eq_add_one.2 (by simp at hlimit; omega)
    have hlength : tokens.length ≤ limit := by simpa using hlimit
    rw [continuation_cons htoken]
    cases tokens with
    | nil =>
      split_ifs
      · exact List.prefix_refl _
      · exact List.cons_prefix_cons.2 ⟨rfl, List.nil_prefix⟩
    | cons second tokens =>
      rw [List.dropLast_cons_cons] at hstop
      obtain ⟨hopen, hstop⟩ := List.forall_mem_cons.1 hstop
      rw [if_neg (by rw [hopen]; decide)]
      exact List.cons_prefix_cons.2 ⟨rfl, ih hstop hlength⟩

/-- **All of it**, if they end at the limit or at an element that stops. -/
theorem Follows.eq_continuation (h : Follows next history tokens) (hstop : ∀ token ∈ tokens.dropLast, stop token = false)
    (hlimit : tokens.length ≤ limit) (hend : tokens.length = limit ∨ ∃ token ∈ tokens.getLast?, stop token = true) :
    tokens = continuation next stop limit history := by
  induction h generalizing limit with
  | nil =>
    obtain rfl : 0 = limit := hend.resolve_right fun ⟨_, hlast, _⟩ => by cases hlast
    rfl
  | @cons history token tokens htoken hrest ih =>
    obtain ⟨limit, rfl⟩ : ∃ n, limit = n + 1 := Nat.exists_eq_add_one.2 (by simp at hlimit; omega)
    have hlength : tokens.length ≤ limit := by simpa using hlimit
    rw [continuation_cons htoken]
    cases tokens with
    | nil =>
      by_cases hlast : stop token = true
      · rw [if_pos hlast]
      · rw [if_neg hlast]
        have hfull : [token].length = limit + 1 := hend.resolve_right fun ⟨other, hother, hstops⟩ => by
          obtain rfl : token = other := Option.some.inj hother
          exact hlast hstops
        obtain rfl : limit = 0 := by simpa using hfull.symm
        rfl
    | cons second tokens =>
      rw [List.dropLast_cons_cons] at hstop
      obtain ⟨hopen, hstop⟩ := List.forall_mem_cons.1 hstop
      rw [if_neg (by rw [hopen]; decide), ← ih hstop hlength (hend.imp Nat.succ.inj id)]

end Continuation

end Cruise.Lib
