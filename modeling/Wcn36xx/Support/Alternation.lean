import Mathlib.Data.Nat.Notation
import Mathlib.Data.List.Count

/-!
# Alternating requests

A party that holds at most one object is told to add it (`true`) and to remove it (`false`).
`Alternates held reqs` says that each request finds what it needs: nothing held to add, and something
held to remove. `alternates_iff_count` puts it in numbers: after any of the requests the number
of objects that have been added and not removed is 0 or 1.
-/

namespace Support

/-- Each request changes what is held, which is `held` before the first. -/
def Alternates : (held : Bool) → List Bool → Prop
  | _, [] => True
  | held, req :: reqs => req = !held ∧ Alternates req reqs

/-- What is held after the requests. -/
def heldAfter (held : Bool) (reqs : List Bool) : Bool := reqs.getLast?.getD held

/-- What is held after one request more. -/
theorem heldAfter_cons (held req : Bool) (reqs : List Bool) :
    heldAfter held (req :: reqs) = heldAfter req reqs := by
  rw [heldAfter, List.getLast?_cons, Option.getD_some]
  rfl

/-- Requests in two parts. -/
theorem alternates_append (held : Bool) (reqs reqs' : List Bool) :
    Alternates held (reqs ++ reqs') ↔
      Alternates held reqs ∧ Alternates (heldAfter held reqs) reqs' := by
  induction reqs generalizing held with
  | nil => exact (and_iff_right trivial).symm
  | cons req reqs ih =>
    rw [List.cons_append, Alternates, Alternates, ih, heldAfter_cons, and_assoc]

/-- Each request finds what it needs exactly when after any of the requests none or one more has
been added than removed. -/
theorem alternates_iff_count (held : Bool) (reqs : List Bool) :
    Alternates held reqs ↔ ∀ pre, pre <+: reqs →
      pre.count false ≤ pre.count true + held.toNat ∧
        pre.count true + held.toNat ≤ pre.count false + 1 := by
  induction reqs generalizing held with
  | nil =>
    refine ⟨fun _ pre hpre => ?_, fun _ => trivial⟩
    rw [List.prefix_nil.mp hpre, List.count_nil, List.count_nil]
    exact ⟨Nat.zero_le _, by have := Bool.toNat_le held; omega⟩
  | cons req reqs ih =>
    rw [Alternates, ih]
    constructor
    · rintro ⟨hreq, hrest⟩ pre hpre
      rcases List.prefix_cons_iff.mp hpre with rfl | ⟨pre', rfl, hpre'⟩
      · rw [List.count_nil, List.count_nil]
        exact ⟨Nat.zero_le _, by have := Bool.toNat_le held; omega⟩
      · have hcount := hrest pre' hpre'
        cases held <;> cases req <;> simp at hreq hcount ⊢ <;> omega
    · intro h
      -- the shortest run that shows it is the one of the first request
      have hone := h [req] (List.prefix_append [req] reqs)
      have hreq : req = !held := by
        cases held <;> cases req <;> simp at hone ⊢
      refine ⟨hreq, fun pre hpre => ?_⟩
      have hcount := h (req :: pre) (List.cons_prefix_cons.mpr ⟨rfl, hpre⟩)
      cases held <;> cases req <;> simp at hreq hcount ⊢ <;> omega

end Support
