import Mathlib.Algebra.Order.Group.Nat

/-!
# Initial runs

The initial run of a predicate among its first `n` places is what a loop goes through that stops at the
first place where the predicate fails, or gets stuck there. It covers all places where the predicate holds
exactly when the predicate has no gap.
-/

namespace Support

/-- The number of places that the predicate holds at before the first of `n` where it does not. -/
def initialRun : ℕ → (ℕ → Bool) → ℕ
  | 0, _ => 0
  | n + 1, p => if p 0 then initialRun n (fun i => p (i + 1)) + 1 else 0

/-- Where the predicate holds among the first `n` places, it holds at all places before. -/
def NoGap (n : ℕ) (p : ℕ → Bool) : Prop := ∀ i j, i ≤ j → j < n → p j → p i

/-- The run is among the first `n` places. -/
theorem initialRun_le (n : ℕ) : ∀ p, initialRun n p ≤ n := by
  induction n with
  | zero =>
    intro p
    exact Nat.le_refl 0
  | succ n ih =>
    intro p
    unfold initialRun
    split_ifs
    · exact Nat.succ_le_succ (ih _)
    · exact Nat.zero_le _

/-- The predicate holds in the run. -/
theorem holds_of_lt_initialRun (n : ℕ) : ∀ {p : ℕ → Bool} {i}, i < initialRun n p → p i := by
  induction n with
  | zero =>
    intro p i h
    exact absurd h (Nat.not_lt_zero i)
  | succ n ih =>
    intro p i h
    unfold initialRun at h
    split_ifs at h with hp
    · cases i with
      | zero => exact hp
      | succ i => exact ih (p := fun i => p (i + 1)) (Nat.lt_of_succ_lt_succ h)
    · exact absurd h (Nat.not_lt_zero i)

/-- It does not hold where the run ends early. -/
theorem not_initialRun (n : ℕ) : ∀ {p : ℕ → Bool}, initialRun n p < n → p (initialRun n p) = false := by
  induction n with
  | zero =>
    intro p h
    exact absurd h (Nat.not_lt_zero _)
  | succ n ih =>
    intro p h
    unfold initialRun at h ⊢
    split_ifs at h ⊢ with hp
    · exact ih (Nat.lt_of_succ_lt_succ h)
    · exact Bool.eq_false_iff.mpr hp

/-- The run is determined by these three facts. -/
theorem initialRun_eq {n k : ℕ} {p : ℕ → Bool} (hle : k ≤ n) (hrun : ∀ i < k, p i)
    (hstop : k < n → p k = false) : initialRun n p = k := by
  rcases Nat.lt_trichotomy (initialRun n p) k with hlt | heq | hgt
  · have hno := not_initialRun n (Nat.lt_of_lt_of_le hlt hle)
    rw [hrun _ hlt] at hno
    cases hno
  · exact heq
  · have hyes := holds_of_lt_initialRun n hgt
    rw [hstop (Nat.lt_of_lt_of_le hgt (initialRun_le n p))] at hyes
    cases hyes

/-- A run goes on as long as the predicate holds where it has come to. -/
theorem initialRun_succ (n : ℕ) (p : ℕ → Bool) :
    initialRun (n + 1) p = if p (initialRun n p) then initialRun n p + 1 else initialRun n p := by
  have hle := initialRun_le n p
  split_ifs with hp
  · -- The run has not ended early: the predicate holds where it has come to.
    have hfull : initialRun n p = n := by
      rcases Nat.lt_or_ge (initialRun n p) n with hlt | hge
      · rw [not_initialRun n hlt] at hp
        cases hp
      · exact Nat.le_antisymm hle hge
    refine initialRun_eq (by omega) (fun i hi => ?_) (by omega)
    rcases Nat.lt_or_ge i (initialRun n p) with hlt | hge
    · exact holds_of_lt_initialRun n hlt
    · have hi' : i = initialRun n p := by omega
      rwa [hi']
  · exact initialRun_eq (by omega) (fun i hi => holds_of_lt_initialRun n hi)
      fun _ => Bool.eq_false_iff.mpr hp

/-- The predicate holds in the run and nowhere else exactly when it has no gap. -/
theorem initialRun_covers_iff (n : ℕ) (p : ℕ → Bool) :
    (∀ i < n, (i < initialRun n p ↔ p i)) ↔ NoGap n p := by
  constructor
  · intro h i j hij hj hp
    have hrun := (h j hj).mpr hp
    exact holds_of_lt_initialRun n (Nat.lt_of_le_of_lt hij hrun)
  · intro h i hi
    refine ⟨fun hrun => holds_of_lt_initialRun n hrun, fun hp => ?_⟩
    by_contra hge
    have hle := Nat.not_lt.mp hge
    have hno := not_initialRun n (Nat.lt_of_le_of_lt hle hi)
    rw [h _ i hle hi hp] at hno
    cases hno

/-- A predicate without a gap in two parts: the first part is full, or the second is empty. -/
theorem noGap_add_iff (m n : ℕ) (p : ℕ → Bool) :
    NoGap (m + n) p ↔ NoGap m p ∧ NoGap n (fun i => p (m + i)) ∧
      (initialRun m p < m → ∀ i < n, p (m + i) = false) := by
  constructor
  · intro h
    refine ⟨fun i j hij hj => h i j hij (by omega),
      fun i j hij hj => h (m + i) (m + j) (by omega) (by omega), fun hrun i hi => ?_⟩
    by_contra hp
    have hno := not_initialRun m hrun
    rw [h (initialRun m p) (m + i) (by omega) (by omega) (Bool.not_eq_false _ ▸ hp)] at hno
    cases hno
  · rintro ⟨hm, hn, hstop⟩ i j hij hj hp
    rcases Nat.lt_or_ge j m with hjm | hjm
    · exact hm i j hij hjm hp
    · have hj' : m + (j - m) = j := by omega
      have hfull : initialRun m p = m := by
        rcases Nat.lt_or_ge (initialRun m p) m with hlt | hge
        · have hno := hstop hlt (j - m) (by omega)
          rw [hj', hp] at hno
          cases hno
        · exact Nat.le_antisymm (initialRun_le m p) hge
      rcases Nat.lt_or_ge i m with him | him
      · exact holds_of_lt_initialRun m (by rwa [hfull])
      · have hi' : m + (i - m) = i := by omega
        have hprev := hn (i - m) (j - m) (by omega) (by omega)
        dsimp only at hprev
        rw [hi', hj'] at hprev
        exact hprev hp

end Support
