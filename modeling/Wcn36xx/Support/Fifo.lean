import Wcn36xx.Support.System
import Mathlib.Algebra.Order.Group.Nat
import Mathlib.Algebra.Ring.Nat

/-!
# A bounded queue with an in-order consumer

The abstract machine of a producer, a consumer and a collector around a queue of bounded capacity.
An item has `k` parts. The producer appends an item unless the queue is at capacity. The consumer
completes the parts one at a time, in order, so the number of completed parts says which they are.
The collector removes the longest prefix of items that are complete.
-/

namespace Support

/-- The events of a bounded queue, with what an observer sees of each. -/
inductive FifoEvent (α : Type*) where
  /-- The producer offers an item, which is accepted or not. -/
  | push (x : α) (accepted : Bool)
  /-- The consumer completes the oldest part that is not complete. -/
  | complete
  /-- The collector removes items. -/
  | collect (removed : List α)

/-- A bounded queue of items with `k` parts each. -/
structure Fifo (α : Type*) (k : ℕ) where
  /-- The largest number of items. -/
  cap : ℕ
  /-- The items, oldest first. -/
  items : List α
  /-- The number of completed parts among the parts of all items, in order. -/
  completed : ℕ

namespace Fifo

variable {α : Type*} {k : ℕ}

/-- Append an item, or refuse it at capacity. -/
def push (f : Fifo α k) (x : α) : Fifo α k :=
  if f.items.length = f.cap then f else { f with items := f.items ++ [x] }

/-- Part `p` of item `i` is complete. -/
def Done (f : Fifo α k) (i p : ℕ) : Prop := k * i + p < f.completed

/-- The longest prefix of complete items. -/
def complete (f : Fifo α k) : List α := f.items.take (f.completed / k)

/-- Remove the longest prefix of complete items. -/
def collect (f : Fifo α k) : Fifo α k :=
  { f with items := f.items.drop (f.completed / k), completed := f.completed % k }

/-- The bounded queue as a transition system: empty at first, and an event happens exactly with the
values that the queue determines. -/
def system [DecidableEq α] (cap : ℕ) : System (Fifo α k) (FifoEvent α) where
  init f := f = ⟨cap, [], 0⟩
  step f
    | .push x accepted =>
      if accepted = (f.items.length != f.cap) then some (f.push x) else none
    | .complete =>
      if f.completed < k * f.items.length then some { f with completed := f.completed + 1 } else none
    | .collect removed => if removed = f.complete then some f.collect else none

/-- The items that the producer got accepted, in order. -/
def accepted (es : List (FifoEvent α)) : List α :=
  es.flatMap fun
    | .push x true => [x]
    | _ => []

/-- The items that the collector removed, in order. -/
def removed (es : List (FifoEvent α)) : List α :=
  es.flatMap fun
    | .collect xs => xs
    | _ => []

section Laws

variable [DecidableEq α] {cap : ℕ}

/-- One event: what it accepts goes to the end of the queue, and what it removes comes from the
front. -/
theorem step_conserves {f f' : Fifo α k} {e : FifoEvent α}
    (h : (system cap).step f e = some f') : f.items ++ accepted [e] = removed [e] ++ f'.items := by
  cases e with
  | push x acc =>
    simp only [system, Option.ite_none_right_eq_some, Option.some.injEq] at h
    obtain ⟨rfl, rfl⟩ := h
    by_cases hcap : f.items.length = f.cap
    · simp [accepted, removed, push, hcap]
    · rw [bne_iff_ne.mpr hcap]
      simp [accepted, removed, push, hcap]
  | complete =>
    simp only [system, Option.ite_none_right_eq_some, Option.some.injEq] at h
    obtain ⟨-, rfl⟩ := h
    simp [accepted, removed]
  | collect xs =>
    simp only [system, Option.ite_none_right_eq_some, Option.some.injEq] at h
    obtain ⟨rfl, rfl⟩ := h
    simp [accepted, removed, complete, collect]

/-- Over a whole run, the accepted items are the removed ones followed by the queue: nothing is
lost, duplicated or reordered. -/
theorem runFrom_conserves {f f' : Fifo α k} {es : List (FifoEvent α)}
    (h : (system cap).runFrom f es = some f') :
    f.items ++ accepted es = removed es ++ f'.items := by
  induction es generalizing f with
  | nil =>
    rw [System.runFrom, Option.some.injEq] at h
    simp [accepted, removed, h]
  | cons e es ih =>
    obtain ⟨g, hstep, hrest⟩ := Option.bind_eq_some_iff.mp h
    have hone := step_conserves hstep
    have hmany := ih hrest
    have hacc : accepted (e :: es) = accepted [e] ++ accepted es := by simp [accepted]
    have hrem : removed (e :: es) = removed [e] ++ removed es := by simp [removed]
    rw [hacc, hrem, ← List.append_assoc, hone, List.append_assoc, hmany, List.append_assoc]

end Laws

/-- Every part of the items in the complete prefix is complete. -/
theorem done_of_lt {f : Fifo α k} {i p : ℕ} (hi : i < f.completed / k) (hp : p < k) :
    f.Done i p := by
  have hle : k * (i + 1) ≤ k * (f.completed / k) := Nat.mul_le_mul_left k hi
  have hdiv := Nat.mul_div_le f.completed k
  rw [Nat.mul_add, Nat.mul_one] at hle
  simp only [Done]
  omega

/-- The last part of the first item after the complete prefix is not complete. -/
theorem not_done_div (f : Fifo α k) (hk : 0 < k) : ¬f.Done (f.completed / k) (k - 1) := by
  have hmod := Nat.mod_lt f.completed hk
  have hdiv := Nat.div_add_mod f.completed k
  simp only [Done]
  omega

end Fifo

end Support
