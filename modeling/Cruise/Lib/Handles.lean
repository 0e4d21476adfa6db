/-
Handles that are opened on something and closed again, as a log of the calls.

`IsOpen log handle target`: the handle was opened on the target, and not closed after that. A handle may be given out more
than once, and closing it closes all of it.
- `isOpen_append`: what a further part of the log does.
- `isOpen_opens`, `isOpen_closes`: a part in which handles are only opened, or only closed.
-/
import Mathlib.Data.List.Basic

namespace Cruise.Lib

variable {κ α : Type}

inductive HandleCall (κ α : Type) where
  | opens (handle : κ) (target : α)
  | closes (handle : κ)

def IsOpen (log : List (HandleCall κ α)) (handle : κ) (target : α) : Prop :=
  ∃ before after, log = before ++ .opens handle target :: after ∧ .closes handle ∉ after

variable {log calls : List (HandleCall κ α)} {handle : κ} {target : α}

@[simp] theorem isOpen_nil : ¬IsOpen ([] : List (HandleCall κ α)) handle target := by
  rintro ⟨before, after, h, -⟩
  exact List.append_ne_nil_of_right_ne_nil before (List.cons_ne_nil _ after) h.symm

theorem isOpen_append : IsOpen (log ++ calls) handle target ↔
    IsOpen calls handle target ∨ IsOpen log handle target ∧ .closes handle ∉ calls := by
  constructor
  · rintro ⟨before, after, h, hafter⟩
    rcases List.append_eq_append_iff.1 h with ⟨middle, rfl, hcalls⟩ | ⟨middle, hlog, hrest⟩
    · exact Or.inl ⟨middle, after, hcalls, hafter⟩
    · cases middle with
      | nil => exact Or.inl ⟨[], after, hrest.symm, hafter⟩
      | cons call middle =>
        rw [List.cons_append, List.cons.injEq] at hrest
        obtain ⟨rfl, rfl⟩ := hrest
        rw [List.mem_append, not_or] at hafter
        exact Or.inr ⟨⟨before, middle, hlog, hafter.1⟩, hafter.2⟩
  · rintro (⟨before, after, rfl, hafter⟩ | ⟨⟨before, after, rfl, hafter⟩, hcalls⟩)
    · exact ⟨log ++ before, after, (List.append_assoc _ _ _).symm, hafter⟩
    · refine ⟨before, after ++ calls, by rw [List.append_assoc, List.cons_append], fun h => ?_⟩
      exact (List.mem_append.1 h).elim hafter hcalls

theorem IsOpen.mem (h : IsOpen log handle target) : .opens handle target ∈ log := by
  obtain ⟨before, after, rfl, -⟩ := h
  exact List.mem_append_right _ List.mem_cons_self

/-- handles that are only opened -/
theorem isOpen_opens {items : List (α × κ)} :
    IsOpen (items.map fun item => .opens item.2 item.1) handle target ↔ (target, handle) ∈ items := by
  constructor
  · intro h
    obtain ⟨item, hitem, heq⟩ := List.mem_map.1 h.mem
    cases heq
    exact hitem
  · intro h
    obtain ⟨before, after, rfl⟩ := List.append_of_mem h
    refine ⟨before.map fun item => .opens item.2 item.1, after.map fun item => .opens item.2 item.1,
      by rw [List.map_append, List.map_cons], fun h => ?_⟩
    obtain ⟨item, -, heq⟩ := List.mem_map.1 h
    cases heq

/-- handles that are only closed -/
theorem isOpen_closes {handles : List κ} : IsOpen (log ++ handles.map .closes) handle target ↔
    IsOpen log handle target ∧ handle ∉ handles := by
  rw [isOpen_append]
  constructor
  · rintro (h | ⟨h, hnot⟩)
    · obtain ⟨k, -, heq⟩ := List.mem_map.1 h.mem
      cases heq
    · exact ⟨h, fun hmem => hnot (List.mem_map_of_mem hmem)⟩
  · rintro ⟨h, hnot⟩
    refine Or.inr ⟨h, fun hmem => ?_⟩
    obtain ⟨k, hk, heq⟩ := List.mem_map.1 hmem
    cases heq
    exact hnot hk

end Cruise.Lib
