import Mathlib.Data.Nat.Notation
import Mathlib.Data.Option.Basic

/-!
# Guarded transition systems

A system is a set of initial states and an executable guarded step: `step s e` is the state after
the event `e`, or `none` when `e` cannot happen in `s`. An event carries every choice of the
environment and every value that an observer of the step sees, so a list of events is both a
schedule and a trace. `ReachableWhen P` collects the states of the runs whose steps all meet the
condition `P` on the state before the step, and `ReachableWhen.invariant` is the induction over
them. `Simulation` relates two systems over the same events, and `Simulation.run` carries a whole
run from the one to the other.
-/

namespace Support

/-- A transition system over states `σ` and events `ε`. -/
structure System (σ ε : Type*) where
  /-- The initial states. -/
  init : σ → Prop
  /-- The guarded step: `none` when the event cannot happen. -/
  step : σ → ε → Option σ

namespace System

variable {σ τ ε : Type*} (sys : System σ ε)

/-- The states of the runs from an initial state in which every step `e` from `s` meets `P s e`. -/
inductive ReachableWhen (P : σ → ε → Prop) : σ → Prop
  | init {s : σ} : sys.init s → ReachableWhen P s
  | step {s s' : σ} {e : ε} : ReachableWhen P s → P s e → sys.step s e = some s' →
      ReachableWhen P s'

/-- The states of all runs from an initial state. -/
def Reachable (s : σ) : Prop := sys.ReachableWhen (fun _ _ => True) s

/-- Replay a list of events from `s`; `none` as soon as one of them cannot happen. -/
def runFrom (s : σ) : List ε → Option σ
  | [] => some s
  | e :: es => (sys.step s e).bind fun s' => runFrom s' es

/-- Replay a list of events from `s` whose steps all meet `P`; `none` as soon as one of them does
not, or cannot happen. -/
def runWhen (P : σ → ε → Prop) [∀ s e, Decidable (P s e)] (s : σ) : List ε → Option σ
  | [] => some s
  | e :: es => if P s e then (sys.step s e).bind fun s' => runWhen P s' es else none

variable {sys}

/-- A condition that every step meets may be weakened. -/
theorem ReachableWhen.mono {P Q : σ → ε → Prop} (hPQ : ∀ s e, P s e → Q s e) {s : σ}
    (h : sys.ReachableWhen P s) : sys.ReachableWhen Q s := by
  induction h with
  | init hs => exact .init hs
  | step _ hP hstep ih => exact .step ih (hPQ _ _ hP) hstep

/-- A state of a run under a condition is reachable. -/
theorem ReachableWhen.reachable {P : σ → ε → Prop} {s : σ} (h : sys.ReachableWhen P s) :
    sys.Reachable s :=
  h.mono fun _ _ _ => trivial

/-- The invariant rule: what holds initially, and is preserved by every step that meets `P`, holds
in every state of every run whose steps meet `P`. -/
theorem ReachableWhen.invariant {P : σ → ε → Prop} {I : σ → Prop} (hinit : ∀ s, sys.init s → I s)
    (hstep : ∀ s e s', I s → P s e → sys.step s e = some s' → I s') {s : σ}
    (h : sys.ReachableWhen P s) : I s := by
  induction h with
  | init hs => exact hinit _ hs
  | step _ hP he ih => exact hstep _ _ _ ih hP he

/-- The invariant rule for all runs. -/
theorem Reachable.invariant {I : σ → Prop} (hinit : ∀ s, sys.init s → I s)
    (hstep : ∀ s e s', I s → sys.step s e = some s' → I s') {s : σ} (h : sys.Reachable s) : I s :=
  ReachableWhen.invariant hinit (fun s e s' hI _ he => hstep s e s' hI he) h

/-- One more step from a reachable state. -/
theorem Reachable.step {s s' : σ} {e : ε} (h : sys.Reachable s) (he : sys.step s e = some s') :
    sys.Reachable s' :=
  ReachableWhen.step h trivial he

/-- A replay from a reachable state ends in a reachable state. -/
theorem Reachable.runFrom {s s' : σ} (h : sys.Reachable s) {es : List ε}
    (hrun : sys.runFrom s es = some s') : sys.Reachable s' := by
  induction es generalizing s with
  | nil =>
    rw [System.runFrom, Option.some.injEq] at hrun
    exact hrun ▸ h
  | cons e es ih =>
    obtain ⟨t, ht, hrest⟩ := Option.bind_eq_some_iff.mp hrun
    exact ih (h.step ht) hrest

/-- A replay under a condition ends in a state of a run under the condition. -/
theorem ReachableWhen.runWhen {P : σ → ε → Prop} [∀ s e, Decidable (P s e)] {s s' : σ}
    (h : sys.ReachableWhen P s) {es : List ε} (hrun : sys.runWhen P s es = some s') :
    sys.ReachableWhen P s' := by
  induction es generalizing s with
  | nil =>
    rw [System.runWhen, Option.some.injEq] at hrun
    exact hrun ▸ h
  | cons e es ih =>
    obtain ⟨hP, hrun⟩ := Option.ite_none_right_eq_some.mp hrun
    obtain ⟨t, ht, hrest⟩ := Option.bind_eq_some_iff.mp hrun
    exact ih (.step h hP ht) hrest

/-- A replay under a condition is a replay. -/
theorem runFrom_of_runWhen {P : σ → ε → Prop} [∀ s e, Decidable (P s e)] {s s' : σ} {es : List ε}
    (hrun : sys.runWhen P s es = some s') : sys.runFrom s es = some s' := by
  induction es generalizing s with
  | nil => exact hrun
  | cons e es ih =>
    obtain ⟨-, hrun⟩ := Option.ite_none_right_eq_some.mp hrun
    obtain ⟨t, ht, hrest⟩ := Option.bind_eq_some_iff.mp hrun
    rw [System.runFrom, ht]
    exact ih hrest

/-- When a step from a reachable state keeps `I` exactly if it meets `P`, and nothing restores `I`, then
`I` holds after a replay exactly if it held before and all steps met `P`. -/
theorem Reachable.runFrom_iff {P : σ → ε → Prop} [∀ s e, Decidable (P s e)] {I : σ → Prop}
    (hstep : ∀ s e s', sys.Reachable s → sys.step s e = some s' → (I s' ↔ I s ∧ P s e)) {s s' : σ}
    (h : sys.Reachable s) {es : List ε} (hrun : sys.runFrom s es = some s') :
    I s' ↔ I s ∧ sys.runWhen P s es = some s' := by
  induction es generalizing s with
  | nil =>
    rw [System.runFrom, Option.some.injEq] at hrun
    rw [System.runWhen, hrun, and_iff_left rfl]
  | cons e es ih =>
    obtain ⟨t, ht, hrest⟩ := Option.bind_eq_some_iff.mp hrun
    rw [ih (h.step ht) hrest, hstep s e t h ht, System.runWhen, ht, Option.bind_some,
      Option.ite_none_right_eq_some, and_assoc]

/-- What every event of a kind preserves, a replay of such events preserves. -/
theorem runFrom_invariant {Q : ε → Prop} {I : σ → Prop}
    (hstep : ∀ s e s', I s → Q e → sys.step s e = some s' → I s') {s s' : σ} (hI : I s)
    {es : List ε} (hQ : ∀ e ∈ es, Q e) (hrun : sys.runFrom s es = some s') : I s' := by
  induction es generalizing s with
  | nil =>
    rw [System.runFrom, Option.some.injEq] at hrun
    exact hrun ▸ hI
  | cons e es ih =>
    obtain ⟨t, ht, hrest⟩ := Option.bind_eq_some_iff.mp hrun
    have hIt : I t := hstep s e t hI (hQ e List.mem_cons_self) ht
    exact ih hIt (fun e he => hQ e (List.mem_cons_of_mem _ he)) hrest

/-- A replay of events that all lower a rank is no longer than the rank that it uses up. -/
theorem length_add_rank_le {Q : ε → Prop} {rank : σ → ℕ}
    (hstep : ∀ s e s', Q e → sys.step s e = some s' → rank s' < rank s) {s s' : σ} {es : List ε}
    (hQ : ∀ e ∈ es, Q e) (hrun : sys.runFrom s es = some s') : es.length + rank s' ≤ rank s := by
  induction es generalizing s with
  | nil =>
    rw [System.runFrom, Option.some.injEq] at hrun
    rw [hrun]
    exact Nat.le_of_eq (Nat.zero_add _)
  | cons e es ih =>
    obtain ⟨t, ht, hrest⟩ := Option.bind_eq_some_iff.mp hrun
    have hlt : rank t < rank s := hstep s e t (hQ e List.mem_cons_self) ht
    have hle := ih (fun e he => hQ e (List.mem_cons_of_mem _ he)) hrest
    rw [List.length_cons]
    omega

/-- What every step under a condition preserves, a replay under the condition preserves; and when every step
lowers a rank besides, the replay is no longer than the rank that it uses up. -/
theorem runWhen_rank {P : σ → ε → Prop} [∀ s e, Decidable (P s e)] {Q : ε → Prop} {I : σ → Prop}
    {rank : σ → ℕ}
    (hstep : ∀ s e s', I s → Q e → P s e → sys.step s e = some s' → I s' ∧ rank s' < rank s)
    {s s' : σ} (hI : I s) {es : List ε} (hQ : ∀ e ∈ es, Q e) (hrun : sys.runWhen P s es = some s') :
    I s' ∧ es.length + rank s' ≤ rank s := by
  induction es generalizing s with
  | nil =>
    rw [System.runWhen, Option.some.injEq] at hrun
    subst hrun
    exact ⟨hI, Nat.le_of_eq (Nat.zero_add _)⟩
  | cons e es ih =>
    obtain ⟨hP, hrun⟩ := Option.ite_none_right_eq_some.mp hrun
    obtain ⟨t, ht, hrest⟩ := Option.bind_eq_some_iff.mp hrun
    obtain ⟨hIt, hlt⟩ := hstep s e t hI (hQ e List.mem_cons_self) hP ht
    obtain ⟨hI', hle⟩ := ih hIt (fun e he => hQ e (List.mem_cons_of_mem _ he)) hrest
    refine ⟨hI', ?_⟩
    rw [List.length_cons]
    omega

/-- A function of the states that turns every step from a state with the invariant `I` into a step of
another system, and every failure to step into one, does so with replays. -/
theorem runFrom_map {C : System σ ε} {A : System τ ε} {f : σ → τ} {I : σ → Prop}
    (hmap : ∀ s e, I s → (C.step s e).map f = A.step (f s) e)
    (hstep : ∀ s e s', I s → C.step s e = some s' → I s') {s : σ} (hI : I s) (es : List ε) :
    (C.runFrom s es).map f = A.runFrom (f s) es := by
  induction es generalizing s with
  | nil => rfl
  | cons e es ih =>
    have he := hmap s e hI
    cases ht : C.step s e with
    | none =>
      rw [ht, Option.map_none] at he
      rw [System.runFrom, System.runFrom, ht, ← he]
      rfl
    | some t =>
      rw [ht, Option.map_some] at he
      rw [System.runFrom, System.runFrom, ht, ← he]
      exact ih (hstep s e t hI ht)

/-- A forward simulation: the concrete system `C` starts in states related to initial abstract
states, and the abstract system `A` can match every event of `C`, observed values included. -/
structure Simulation (C : System σ ε) (A : System τ ε) (R : σ → τ → Prop) : Prop where
  /-- Every initial state is related to an abstract one. -/
  init : ∀ s, C.init s → ∃ a, A.init a ∧ R s a
  /-- Every step is matched by the abstract step on the same event. -/
  step : ∀ s a e s', R s a → C.step s e = some s' → ∃ a', A.step a e = some a' ∧ R s' a'

/-- Under a simulation every event list that the concrete system can run is an event list of the
abstract system, from related states to related states. -/
theorem Simulation.run {C : System σ ε} {A : System τ ε} {R : σ → τ → Prop}
    (hsim : Simulation C A R) {s s' : σ} {a : τ} (hR : R s a) {es : List ε}
    (hrun : C.runFrom s es = some s') : ∃ a', A.runFrom a es = some a' ∧ R s' a' := by
  induction es generalizing s a with
  | nil =>
    rw [System.runFrom, Option.some.injEq] at hrun
    exact ⟨a, rfl, hrun ▸ hR⟩
  | cons e es ih =>
    obtain ⟨t, ht, hrest⟩ := Option.bind_eq_some_iff.mp hrun
    obtain ⟨b, hb, hRt⟩ := hsim.step s a e t hR ht
    obtain ⟨a', ha', hR'⟩ := ih hRt hrest
    exact ⟨a', by rw [System.runFrom, hb]; exact ha', hR'⟩

end System

end Support
