import Mathlib.Algebra.Order.Group.Nat
import Mathlib.Algebra.Ring.Nat
import Mathlib.Data.Nat.ModEq

/-!
# Cycles of nodes and walks along them

`Cycle α n` enumerates `n` distinct nodes by the natural numbers, over and over: positions that
agree modulo `n` are the same node, and others are different nodes. Positions never wrap, so a
segment of a ring is an interval of positions, and "head equals tail" has two readings, no
positions apart or `n` of them.

`walk` is the loop that follows a `next` pointer a fixed number of times and runs a body at every
node; `walk_spec` and `walk_run` are its invariant rules.
-/

namespace Support

/-- An enumeration of `n` distinct nodes by all natural numbers, with period `n`. -/
structure Cycle (α : Type*) (n : ℕ) where
  /-- The node at a position. -/
  pos : ℕ → α
  /-- Two positions are the same node exactly when they agree modulo `n`. -/
  pos_eq_iff : ∀ i j, pos i = pos j ↔ i % n = j % n

namespace Cycle

variable {α : Type*} {n : ℕ} (c : Cycle α n)

/-- One lap leads back to the same node. -/
@[simp]
theorem pos_add (i : ℕ) : c.pos (i + n) = c.pos i :=
  (c.pos_eq_iff _ _).mpr (Nat.add_mod_right i n)

/-- Less than a lap apart, different positions are different nodes. -/
theorem pos_ne {i j : ℕ} (hij : i < j) (hjn : j < i + n) : c.pos i ≠ c.pos j := by
  intro h
  have hmod : i ≡ j [MOD n] := (c.pos_eq_iff i j).mp h
  obtain ⟨k, hk⟩ := (Nat.modEq_iff_dvd' hij.le).mp hmod
  have hpos : 0 < j - i := by omega
  have hlt : j - i < n := by omega
  rw [hk] at hpos hlt
  rcases Nat.eq_zero_or_pos k with rfl | hk0
  · omega
  · exact absurd hlt (not_lt.mpr (Nat.le_mul_of_pos_right n hk0))

/-- In a window of one lap, a node determines its position. -/
theorem pos_inj {t i j : ℕ} (hi : t ≤ i ∧ i < t + n) (hj : t ≤ j ∧ j < t + n)
    (h : c.pos i = c.pos j) : i = j := by
  rcases Nat.lt_trichotomy i j with hlt | heq | hgt
  · exact absurd h (c.pos_ne hlt (by omega))
  · exact heq
  · exact absurd h.symm (c.pos_ne hgt (by omega))

/-- Every position has a representative in the window of one lap that starts at `t`. -/
theorem exists_window (hn : 0 < n) (t i : ℕ) : ∃ j, t ≤ j ∧ j < t + n ∧ c.pos j = c.pos i := by
  refine ⟨t + (i + (n - t % n)) % n, by omega, ?_, ?_⟩
  · have := Nat.mod_lt (i + (n - t % n)) hn
    omega
  · rw [c.pos_eq_iff, Nat.add_mod_mod]
    have ht := Nat.mod_lt t hn
    have hsum : t + (i + (n - t % n)) = i + (t / n + 1) * n := by
      have := Nat.div_add_mod t n
      rw [Nat.add_mul, Nat.one_mul, Nat.mul_comm (t / n) n]
      omega
    rw [hsum, Nat.add_mul_mod_self_right]

/-- The cycle of `n` consecutive addresses from `base`. -/
def consecutive (base n : ℕ) : Cycle ℕ n where
  pos i := base + i % n
  pos_eq_iff i j := by omega

/-- The first lap of a consecutive cycle. -/
theorem consecutive_pos {base n i : ℕ} (hi : i < n) : (consecutive base n).pos i = base + i := by
  simp only [consecutive, Nat.mod_eq_of_lt hi]

/-- The position after the first lap of a consecutive cycle is its first address. -/
theorem consecutive_pos_self (base n : ℕ) : (consecutive base n).pos n = base := by
  simp only [consecutive, Nat.mod_self, Nat.add_zero]

end Cycle

section Walk

variable {σ α β : Type}

/-- Run `body i node` at each of `left` nodes, numbered from `i`, following `next` from `cur`. Both
the body and the reading of a `next` pointer can fault, and so does a null `cur`. -/
def walk (next : σ → α → Option (Option α)) (body : ℕ → α → β → σ → Option (β × σ)) :
    (left i : ℕ) → Option α → β → σ → Option (β × σ)
  | 0, _, _, b, s => some (b, s)
  | left + 1, i, cur, b, s => do
    let node ← cur
    let (b, s) ← body i node b s
    let cur ← next s node
    walk next body left (i + 1) cur b s

/-- What every iteration does to the state, in the sense of a reflexive and transitive relation, a walk
does. -/
theorem walk_rel {next : σ → α → Option (Option α)} {body : ℕ → α → β → σ → Option (β × σ)}
    {R : σ → σ → Prop} (hrefl : ∀ s, R s s) (htrans : ∀ s t u, R s t → R t u → R s u)
    (hbody : ∀ i cur b s b' s', body i cur b s = some (b', s') → R s s') :
    ∀ left i cur b s b' s', walk next body left i cur b s = some (b', s') → R s s' := by
  intro left
  induction left with
  | zero =>
    intro i cur b s b' s' h
    rw [walk, Option.some.injEq, Prod.mk.injEq] at h
    rw [← h.2]
    exact hrefl s
  | succ left ih =>
    intro i cur b s b' s' h
    simp only [walk, Option.bind_eq_bind, Option.bind_eq_some_iff] at h
    obtain ⟨node, -, ⟨b₁, s₁⟩, hb, cur₁, -, h⟩ := h
    exact htrans _ _ _ (hbody _ _ _ _ _ _ hb) (ih _ _ _ _ _ _ h)

/-- The invariant rule of `walk` along a sequence of nodes `pos`: if the body succeeds at `pos i`,
leaves `pos (i + 1)` as its next node and takes the invariant from `i` to `i + 1`, the walk succeeds
and ends with the invariant. -/
theorem walk_spec (next : σ → α → Option (Option α)) (body : ℕ → α → β → σ → Option (β × σ))
    (pos : ℕ → α) (I : ℕ → β → σ → Prop) (n : ℕ)
    (hbody : ∀ i b s, i < n → I i b s → ∃ b' s', body i (pos i) b s = some (b', s') ∧
      next s' (pos i) = some (some (pos (i + 1))) ∧ I (i + 1) b' s') :
    ∀ left i b s, i + left = n → I i b s →
      ∃ b' s', walk next body left i (some (pos i)) b s = some (b', s') ∧ I n b' s'
  | 0, i, b, s, hin, hI => ⟨b, s, rfl, by rwa [← hin]⟩
  | left + 1, i, b, s, hin, hI => by
    obtain ⟨b', s', hb, hnext, hI'⟩ := hbody i b s (by omega) hI
    obtain ⟨b'', s'', hw, hI''⟩ :=
      walk_spec next body pos I n hbody left (i + 1) b' s' (by omega) hI'
    refine ⟨b'', s'', ?_, hI''⟩
    simp only [walk, Option.bind_eq_bind, Option.bind_some, hb, hnext, hw]

/-- The invariant rule of a `walk` that is known to succeed. -/
theorem walk_run (next : σ → α → Option (Option α)) (body : ℕ → α → β → σ → Option (β × σ))
    (pos : ℕ → α) (I : ℕ → β → σ → Prop) (n : ℕ)
    (hbody : ∀ i b s b' s', i < n → I i b s → body i (pos i) b s = some (b', s') →
      next s' (pos i) = some (some (pos (i + 1))) ∧ I (i + 1) b' s') :
    ∀ left i b s b' s', i + left = n → I i b s →
      walk next body left i (some (pos i)) b s = some (b', s') → I n b' s'
  | 0, i, b, s, b', s', hin, hI, hrun => by
    simp only [walk, Option.some.injEq, Prod.mk.injEq] at hrun
    obtain ⟨rfl, rfl⟩ := hrun
    rwa [← hin]
  | left + 1, i, b, s, b', s', hin, hI, hrun => by
    simp only [walk, Option.bind_eq_bind, Option.bind_some, Option.bind_eq_some_iff] at hrun
    obtain ⟨⟨b₁, s₁⟩, hb, cur, hcur, hrun⟩ := hrun
    obtain ⟨hnext, hI'⟩ := hbody i b s b₁ s₁ (by omega) hI hb
    rw [hnext, Option.some.injEq] at hcur
    rw [← hcur] at hrun
    exact walk_run next body pos I n hbody left (i + 1) b₁ s₁ b' s' (by omega) hI' hrun

end Walk

end Support
