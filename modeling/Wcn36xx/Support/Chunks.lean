import Mathlib.Algebra.Order.Group.Nat

/-!
# A list in chunks

`Chunks n cs xs` says that `cs` are the pieces of `xs` in order: `n` elements each, but for the last
one, which may have fewer. A producer that takes `n` elements at a time proves it by its own recursion,
and the lemmas give what a consumer needs.
-/

namespace Support

variable {α : Type*}

/-- `cs` cuts `xs` into pieces of `n` elements and a last piece of at most `n`. -/
inductive Chunks (n : ℕ) : List (List α) → List α → Prop
  | last {xs : List α} : xs.length ≤ n → Chunks n [xs] xs
  | cons {c : List α} {cs : List (List α)} {xs : List α} : c.length = n → Chunks n cs xs →
      Chunks n (c :: cs) (c ++ xs)

namespace Chunks

variable {n : ℕ} {cs : List (List α)} {xs : List α}

/-- The pieces make up the list. -/
theorem flatten (h : Chunks n cs xs) : cs.flatten = xs := by
  induction h with
  | last => rw [List.flatten_singleton]
  | cons _ _ ih => rw [List.flatten_cons, ih]

/-- There is at least one piece. -/
theorem ne_nil (h : Chunks n cs xs) : cs ≠ [] := by
  cases h with
  | last => exact List.cons_ne_nil _ _
  | cons => exact List.cons_ne_nil _ _

end Chunks

end Support
