import Mathlib.Data.Nat.Notation
import Mathlib.Logic.Function.Basic
import Mathlib.Tactic.SplitIfs

/-!
# Heaps

A heap holds what is allocated, each allocation at an address that was never given out before. That
an address from `next` on is free is a field, so every heap that can be built has it. Freeing an
address that does not hold what is freed is a fault, `none`: a pointer that has been freed stays
invalid, because its address is not used again.
-/

namespace Support

/-- A heap of allocations described by `α`. The address 0 is the null pointer. -/
structure Heap (α : Type*) where
  /-- The allocation at an address. -/
  cells : ℕ → Option α
  /-- The address of the next allocation. -/
  next : ℕ
  next_pos : 0 < next
  cells_next : ∀ p, next ≤ p → cells p = none

namespace Heap

variable {α : Type*}

/-- The heap with no allocations. -/
def empty : Heap α where
  cells := fun _ => none
  next := 1
  next_pos := Nat.one_pos
  cells_next := fun _ _ => rfl

/-- Allocate, and return the new address. -/
def alloc (h : Heap α) (a : α) : ℕ × Heap α :=
  (h.next,
    { cells := Function.update h.cells h.next (some a)
      next := h.next + 1
      next_pos := Nat.succ_pos _
      cells_next := fun p hp => by
        have hne : p ≠ h.next := by omega
        rw [Function.update_of_ne hne]
        exact h.cells_next p (by omega) })

/-- Free what is allocated at an address. -/
def free [DecidableEq α] (h : Heap α) (p : ℕ) (a : α) : Option (Heap α) :=
  if h.cells p = some a then
    some
      { h with
        cells := Function.update h.cells p none
        cells_next := fun q hq => by
          rcases eq_or_ne q p with rfl | hne
          · rw [Function.update_self]
          · rw [Function.update_of_ne hne]
            exact h.cells_next q hq }
  else none

variable (h : Heap α)

@[simp]
theorem alloc_fst (a : α) : (h.alloc a).1 = h.next := rfl

@[simp]
theorem alloc_next (a : α) : (h.alloc a).2.next = h.next + 1 := rfl

@[simp]
theorem alloc_cells (a : α) : (h.alloc a).2.cells = Function.update h.cells h.next (some a) := rfl

/-- What is allocated has an address below the next one. -/
theorem lt_next {p : ℕ} {a : α} (hp : h.cells p = some a) : p < h.next := by
  by_contra hge
  have hnone : h.cells p = none := h.cells_next p (by omega)
  rw [hnone] at hp
  cases hp

/-- What is allocated stays when something else is allocated. -/
theorem alloc_cells_of_some {p : ℕ} {a b : α} (hp : h.cells p = some a) :
    (h.alloc b).2.cells p = some a := by
  have hlt : p < h.next := h.lt_next hp
  rw [alloc_cells, Function.update_of_ne (Nat.ne_of_lt hlt), hp]

section Free

variable [DecidableEq α] {h}

/-- What a successful `free` has done. -/
theorem free_eq_some {h' : Heap α} {p : ℕ} {a : α} (hfree : h.free p a = some h') :
    h.cells p = some a ∧ h'.next = h.next ∧ h'.cells = Function.update h.cells p none := by
  unfold free at hfree
  split_ifs at hfree with hp
  rw [Option.some.injEq] at hfree
  subst hfree
  exact ⟨hp, rfl, rfl⟩

/-- What is allocated can be freed. -/
theorem exists_free {p : ℕ} {a : α} (hp : h.cells p = some a) :
    ∃ h', h.free p a = some h' ∧ h'.next = h.next ∧ h'.cells = Function.update h.cells p none := by
  unfold free
  rw [if_pos hp]
  exact ⟨_, rfl, rfl, rfl⟩

/-- Freeing does not bring an allocation back. -/
theorem free_cells_none {h' : Heap α} {p q : ℕ} {a : α} (hfree : h.free p a = some h')
    (hq : h.cells q = none) : h'.cells q = none := by
  obtain ⟨-, -, hcells⟩ := free_eq_some hfree
  rw [hcells]
  rcases eq_or_ne q p with rfl | hne
  · rw [Function.update_self]
  · rw [Function.update_of_ne hne, hq]

/-- Freeing leaves the other allocations. -/
theorem free_cells_ne {h' : Heap α} {p q : ℕ} {a : α} (hfree : h.free p a = some h')
    (hne : q ≠ p) : h'.cells q = h.cells q := by
  obtain ⟨-, -, hcells⟩ := free_eq_some hfree
  rw [hcells, Function.update_of_ne hne]

end Free

end Heap

end Support
