import Mathlib.Data.Int.Notation
import Mathlib.Data.Option.Basic
import Mathlib.Logic.Basic

/-!
# Scripts with error labels

A function that acquires resources one after the other, and on an error jumps into the clean-up of
what it has acquired, is a list of instructions, each an operation and the label that its failure
jumps to: the operations from there on. `runScript` is an uninterrupted call of the script, and
`Call.step` is one operation of a call, for systems in which others step in between.
`runScript_follow` shows that a call does not fault, along descriptions of the states it leads to.

A script can be checked against descriptions of the state. An `Abstraction` says what a description
`φ` promises of a state and what each operation makes of a description; `check` follows a script
along its descriptions, both ways at every instruction that can fail, and looks at each position.
`Checked` is the invariant of a checked call: `Checked.step` preserves it.
-/

namespace Support

variable {ω σ φ : Type*}

/-- An operation, and what is left to do when it returns an error. -/
structure Instr (ω : Type*) where
  op : ω
  /-- The operations from the label on; `none` when the result is not looked at. -/
  onError : Option (List ω) := none
  deriving DecidableEq

namespace Instr

/-- An operation whose result is not looked at. -/
def plain (op : ω) : Instr ω := ⟨op, none⟩

/-- The instruction inside a function whose caller goes to `label` when the function fails. -/
def orGoto (label : List ω) (i : Instr ω) : Instr ω :=
  { i with onError := i.onError.map (· ++ label) }

end Instr

/-- The instructions of a function whose caller goes to `label` when the function fails. -/
def orGoto (script : List (Instr ω)) (label : List ω) : List (Instr ω) :=
  script.map (Instr.orGoto label)

/-! ## Running a script -/

/-- Do operations whatever they return. -/
def runOps (exec : ω → σ → Option (σ × ℤ)) : List ω → σ → Option σ
  | [], s => some s
  | op :: ops, s => (exec op s).bind fun r => runOps exec ops r.1

/-- Call a script without interruption. -/
def runScript (exec : ω → σ → Option (σ × ℤ)) : List (Instr ω) → σ → Option (σ × ℤ)
  | [], s => some (s, 0)
  | i :: rest, s =>
    (exec i.op s).bind fun r =>
      match i.onError with
      | none => runScript exec rest r.1
      | some label =>
        if r.2 = 0 then runScript exec rest r.1
        else (runOps exec label r.1).map fun s => (s, r.2)

/-- Operations one part after the other. -/
theorem runOps_append (exec : ω → σ → Option (σ × ℤ)) (ops ops' : List ω) (s : σ) :
    runOps exec (ops ++ ops') s = (runOps exec ops s).bind (runOps exec ops') := by
  induction ops generalizing s with
  | nil => rfl
  | cons op ops ih =>
    rw [List.cons_append, runOps, runOps, Option.bind_assoc]
    exact Option.bind_congr fun r _ => ih r.1

/-- What is left of a call: the instructions to come, and what it is going to return. -/
structure Call (ω : Type*) where
  rest : List (Instr ω)
  ret : ℤ := 0
  deriving DecidableEq

namespace Call

/-- The operations to come. -/
def ops (c : Call ω) : List ω := c.rest.map Instr.op

/-- What is left after the first instruction `i` has returned `r`. -/
def after (i : Instr ω) (rest : List (Instr ω)) (ret r : ℤ) : Call ω :=
  match i.onError with
  | none => ⟨rest, ret⟩
  | some label => if r = 0 then ⟨rest, ret⟩ else ⟨label.map Instr.plain, r⟩

/-- The next operation of a call. -/
def step (exec : ω → σ → Option (σ × ℤ)) (c : Call ω) (s : σ) : Option (Call ω × σ) :=
  match c.rest with
  | [] => none
  | i :: rest => (exec i.op s).map fun r => (after i rest c.ret r.2, r.1)

/-- It is an operation. -/
theorem exec_of_step {exec : ω → σ → Option (σ × ℤ)} {c c' : Call ω} {s s' : σ}
    (h : c.step exec s = some (c', s')) : ∃ op r, exec op s = some (s', r) := by
  unfold step at h
  split at h
  · cases h
  · obtain ⟨⟨t, r⟩, hexec, heq⟩ := Option.map_eq_some_iff.mp h
    rw [Prod.mk.injEq] at heq
    obtain ⟨-, rfl⟩ := heq
    exact ⟨_, r, hexec⟩

end Call

/-- Operations one after the other, with nothing in between. -/
inductive Steps (exec : ω → σ → Option (σ × ℤ)) : Call ω → σ → Call ω → σ → Prop
  | refl (c : Call ω) (s : σ) : Steps exec c s c s
  | head {c c' c'' : Call ω} {s s' s'' : σ} : c.step exec s = some (c', s') →
      Steps exec c' s' c'' s'' → Steps exec c s c'' s''

/-- Operations whose results are not looked at, as steps of a call. -/
theorem runOps_steps {exec : ω → σ → Option (σ × ℤ)} {ops : List ω} {s s' : σ}
    (h : runOps exec ops s = some s') (ret : ℤ) :
    Steps exec ⟨ops.map Instr.plain, ret⟩ s ⟨[], ret⟩ s' := by
  induction ops generalizing s with
  | nil =>
    rw [runOps, Option.some.injEq] at h
    rw [h]
    exact .refl _ _
  | cons op ops ih =>
    obtain ⟨r, hr, hrest⟩ := Option.bind_eq_some_iff.mp h
    refine .head ?_ (ih hrest)
    simp only [Call.step, List.map_cons, Instr.plain, hr, Option.map_some, Call.after]

/-- An uninterrupted call is its operations one after the other. -/
theorem runScript_steps {exec : ω → σ → Option (σ × ℤ)} {script : List (Instr ω)} {s s' : σ}
    {ret : ℤ} (h : runScript exec script s = some (s', ret)) :
    Steps exec ⟨script, 0⟩ s ⟨[], ret⟩ s' := by
  induction script generalizing s with
  | nil =>
    rw [runScript, Option.some.injEq, Prod.mk.injEq] at h
    rw [h.1, h.2]
    exact .refl _ _
  | cons i rest ih =>
    obtain ⟨r, hr, hrest⟩ := Option.bind_eq_some_iff.mp h
    have hstep : Call.step exec ⟨i :: rest, 0⟩ s = some (Call.after i rest 0 r.2, r.1) := by
      simp only [Call.step, hr, Option.map_some]
    refine .head hstep ?_
    unfold Call.after
    cases hlabel : i.onError with
    | none =>
      simp only [hlabel] at hrest
      exact ih hrest
    | some label =>
      simp only [hlabel] at hrest
      by_cases hok : r.2 = 0
      · rw [if_pos hok] at hrest
        simp only [if_pos hok]
        exact ih hrest
      · rw [if_neg hok] at hrest
        obtain ⟨t, ht, heq⟩ := Option.map_eq_some_iff.mp hrest
        rw [Prod.mk.injEq] at heq
        obtain ⟨rfl, rfl⟩ := heq
        simp only [if_neg hok]
        exact runOps_steps ht r.2

/-! ## Following a script -/

/-- A call of a script whose first part ends without an error goes on with the rest. -/
theorem runScript_append {exec : ω → σ → Option (σ × ℤ)} {script rest : List (Instr ω)} {s s' : σ}
    (h : runScript exec script s = some (s', 0)) :
    runScript exec (script ++ rest) s = runScript exec rest s' := by
  induction script generalizing s with
  | nil =>
    rw [runScript, Option.some.injEq, Prod.mk.injEq] at h
    rw [List.nil_append, h.1]
  | cons i script ih =>
    obtain ⟨r, hr, hrest⟩ := Option.bind_eq_some_iff.mp h
    rw [List.cons_append, runScript, hr, Option.bind_some]
    cases hlabel : i.onError with
    | none =>
      simp only [hlabel] at hrest
      exact ih hrest
    | some label =>
      simp only [hlabel] at hrest
      by_cases hok : r.2 = 0
      · rw [if_pos hok] at hrest
        simp only [if_pos hok]
        exact ih hrest
      · rw [if_neg hok] at hrest
        obtain ⟨t, -, heq⟩ := Option.map_eq_some_iff.mp hrest
        rw [Prod.mk.injEq] at heq
        exact absurd heq.2 hok

section Follow

variable {exec : ω → σ → Option (σ × ℤ)} {Has : φ → σ → Prop} {post : ω → φ → Option φ}
  {ok : ω → Prop} {looked : ω → Bool}
  (hpost : ∀ op f f' s, ok op → Has f s → post op f = some f' →
    ∃ s' r, exec op s = some (s', r) ∧ (looked op = true → r = 0) ∧ Has f' s')
include hpost

/-- Operations of which the description after each is known do not fault. -/
theorem runOps_follow {ops : List ω} (hok : ∀ op ∈ ops, ok op) {f f' : φ} {s : σ} (hs : Has f s)
    (hf : ops.foldlM (fun f op => post op f) f = some f') :
    ∃ s', runOps exec ops s = some s' ∧ Has f' s' := by
  induction ops generalizing f s with
  | nil =>
    rw [List.foldlM_nil, Option.pure_def, Option.some.injEq] at hf
    exact ⟨s, rfl, hf ▸ hs⟩
  | cons op ops ih =>
    rw [List.foldlM_cons] at hf
    obtain ⟨f₁, hf₁, hrest⟩ := Option.bind_eq_some_iff.mp hf
    obtain ⟨s₁, r, hexec, -, hs₁⟩ := hpost op f f₁ s (hok op List.mem_cons_self) hs hf₁
    obtain ⟨s', hrun, hs'⟩ := ih (fun o ho => hok o (List.mem_cons_of_mem _ ho)) hs₁ hrest
    refine ⟨s', ?_, hs'⟩
    rw [runOps, hexec, Option.bind_some]
    exact hrun

/-- So does a script in which no operation that is looked at returns an error. -/
theorem runScript_follow {script : List (Instr ω)} (hok : ∀ i ∈ script, ok i.op)
    (hlooked : ∀ i ∈ script, i.onError.isSome = true → looked i.op = true) {f f' : φ} {s : σ}
    (hs : Has f s) (hf : (script.map Instr.op).foldlM (fun f op => post op f) f = some f') :
    ∃ s', runScript exec script s = some (s', 0) ∧ Has f' s' := by
  induction script generalizing f s with
  | nil =>
    rw [List.map_nil, List.foldlM_nil, Option.pure_def, Option.some.injEq] at hf
    exact ⟨s, rfl, hf ▸ hs⟩
  | cons i script ih =>
    rw [List.map_cons, List.foldlM_cons] at hf
    obtain ⟨f₁, hf₁, hrest⟩ := Option.bind_eq_some_iff.mp hf
    obtain ⟨s₁, r, hexec, hr, hs₁⟩ := hpost i.op f f₁ s (hok i List.mem_cons_self) hs hf₁
    obtain ⟨s', hrun, hs'⟩ := ih (fun o ho => hok o (List.mem_cons_of_mem _ ho))
      (fun o ho => hlooked o (List.mem_cons_of_mem _ ho)) hs₁ hrest
    refine ⟨s', ?_, hs'⟩
    rw [runScript, hexec, Option.bind_some]
    cases hlabel : i.onError with
    | none => exact hrun
    | some label =>
      have hzero : r = 0 := hr (hlooked i List.mem_cons_self (by rw [hlabel]; rfl))
      simp only [if_pos hzero]
      exact hrun

end Follow

/-! ## Checking a script -/

/-- Descriptions of states, and what the operations make of them. -/
structure Abstraction (ω σ φ : Type*) where
  /-- What a description promises of a state. -/
  Has : φ → σ → Prop
  /-- The description after an operation that has returned 0. -/
  post : ω → φ → φ
  /-- The description after an operation that has returned an error. -/
  fail : ω → φ → φ

/-- The operations do what the abstraction says. -/
def Abstraction.Sound (A : Abstraction ω σ φ) (exec : ω → σ → Option (σ × ℤ)) : Prop :=
  ∀ op f s s' r, A.Has f s → exec op s = some (s', r) →
    A.Has (if r = 0 then A.post op f else A.fail op f) s'

/-- What a check demands: `ok` at every position, given the operations to come, and `done` and
`failed` where the call returns. -/
structure Demand (ω φ : Type*) where
  ok : List ω → φ → Bool
  done : φ → Bool
  failed : φ → Bool

section Check

variable [DecidableEq φ] (A : Abstraction ω σ φ) (D : Demand ω φ)

/-- Check the operations from a label on. -/
def checkOps : List ω → φ → Bool
  | [], f => D.ok [] f && D.failed f
  | op :: ops, f =>
    D.ok (op :: ops) f && (A.post op f == A.fail op f) && checkOps ops (A.post op f)

/-- Check a script. -/
def check : List (Instr ω) → φ → Bool
  | [], f => D.ok [] f && D.done f
  | i :: rest, f =>
    D.ok (i.op :: rest.map Instr.op) f && check rest (A.post i.op f) &&
      match i.onError with
      | none => A.post i.op f == A.fail i.op f
      | some label => checkOps A D label (A.fail i.op f)

/-- What the descriptions promise does not matter to a check. -/
theorem check_has (Has : φ → σ → Prop) (script : List (Instr ω)) (f : φ) :
    check { A with Has := Has } D script f = check A D script f := by
  have hops : ∀ ops f, checkOps { A with Has := Has } D ops f = checkOps A D ops f := by
    intro ops
    induction ops with
    | nil => exact fun _ => rfl
    | cons op ops ih =>
      intro f
      rw [checkOps, checkOps, ih]
  induction script generalizing f with
  | nil => rfl
  | cons i rest ih =>
    rw [check, check, ih]
    cases i.onError with
    | none => rfl
    | some label =>
      dsimp only
      rw [hops]

/-- A call that has passed the check from where it is. -/
inductive Checked : Call ω → φ → Prop
  | main {rest : List (Instr ω)} {f : φ} : check A D rest f = true → Checked ⟨rest, 0⟩ f
  | error {ops : List ω} {ret : ℤ} {f : φ} : ret ≠ 0 → checkOps A D ops f = true →
      Checked ⟨ops.map Instr.plain, ret⟩ f

variable {A D}

/-- The operations of plain instructions. -/
theorem map_op_plain (ops : List ω) : (ops.map Instr.plain).map Instr.op = ops := by
  rw [List.map_map]
  exact List.map_id ops

/-- Every position of a checked call is as demanded. -/
theorem Checked.ok {c : Call ω} {f : φ} (h : Checked A D c f) : D.ok c.ops f = true := by
  cases h with
  | @main rest f hcheck =>
    cases rest with
    | nil => exact (Bool.and_eq_true_iff.mp hcheck).1
    | cons i rest =>
      rw [check, Bool.and_eq_true, Bool.and_eq_true] at hcheck
      exact hcheck.1.1
  | @error ops ret f _ hcheck =>
    rw [Call.ops, map_op_plain]
    cases ops with
    | nil => exact (Bool.and_eq_true_iff.mp hcheck).1
    | cons op ops =>
      rw [checkOps, Bool.and_eq_true, Bool.and_eq_true] at hcheck
      exact hcheck.1.1

/-- Where a checked call returns 0, it is as demanded. -/
theorem Checked.done {f : φ} (h : Checked A D ⟨[], 0⟩ f) : D.done f = true := by
  cases hc : (⟨[], 0⟩ : Call ω) with
  | mk rest ret =>
    rw [hc] at h
    rw [Call.mk.injEq] at hc
    cases h with
    | main hcheck =>
      rw [← hc.1, check, Bool.and_eq_true] at hcheck
      exact hcheck.2
    | error hret _ => exact absurd hc.2.symm hret

/-- Where a checked call returns an error, it is as demanded. -/
theorem Checked.failed {ret : ℤ} {f : φ} (h : Checked A D ⟨[], ret⟩ f) (hret : ret ≠ 0) :
    D.failed f = true := by
  cases hc : (⟨[], ret⟩ : Call ω) with
  | mk rest ret' =>
    rw [hc] at h
    rw [Call.mk.injEq] at hc
    cases h with
    | main _ => exact absurd hc.2 hret
    | @error ops _ _ _ hcheck =>
      cases ops with
      | nil => exact (Bool.and_eq_true_iff.mp hcheck).2
      | cons op ops => cases hc.1

/-- One operation of a checked call leads to a checked call, and the description stays true. -/
theorem Checked.step {exec : ω → σ → Option (σ × ℤ)} (hA : A.Sound exec) {c c' : Call ω} {s s' : σ}
    {f : φ} (h : Checked A D c f) (hs : A.Has f s) (hstep : c.step exec s = some (c', s')) :
    ∃ f', Checked A D c' f' ∧ A.Has f' s' := by
  cases h with
  | @main rest f hcheck =>
    cases rest with
    | nil => cases hstep
    | cons i rest =>
      obtain ⟨⟨t, r⟩, hexec, heq⟩ := Option.map_eq_some_iff.mp hstep
      rw [Prod.mk.injEq] at heq
      obtain ⟨rfl, rfl⟩ := heq
      have hsound := hA i.op f s t r hs hexec
      rw [check, Bool.and_eq_true, Bool.and_eq_true] at hcheck
      obtain ⟨⟨-, hrest⟩, hlabel⟩ := hcheck
      unfold Call.after
      cases honError : i.onError with
      | none =>
        simp only [honError, beq_iff_eq] at hlabel
        rw [← hlabel, ite_self] at hsound
        exact ⟨_, .main hrest, hsound⟩
      | some label =>
        simp only [honError] at hlabel
        by_cases hr : r = 0
        · rw [if_pos hr] at hsound
          simp only [if_pos hr]
          exact ⟨_, .main hrest, hsound⟩
        · rw [if_neg hr] at hsound
          simp only [if_neg hr]
          exact ⟨_, .error hr hlabel, hsound⟩
  | @error ops ret f hret hcheck =>
    cases ops with
    | nil => cases hstep
    | cons op ops =>
      obtain ⟨⟨t, r⟩, hexec, heq⟩ := Option.map_eq_some_iff.mp hstep
      rw [Prod.mk.injEq] at heq
      obtain ⟨rfl, rfl⟩ := heq
      have hsound := hA op f s t r hs hexec
      rw [checkOps, Bool.and_eq_true, Bool.and_eq_true, beq_iff_eq] at hcheck
      obtain ⟨⟨-, hsame⟩, hrest⟩ := hcheck
      rw [← hsame, ite_self] at hsound
      exact ⟨_, .error hret hrest, hsound⟩

/-- So do all operations of a call, with nothing in between. -/
theorem Checked.steps {exec : ω → σ → Option (σ × ℤ)} (hA : A.Sound exec) {c c' : Call ω}
    {s s' : σ} {f : φ} (h : Checked A D c f) (hs : A.Has f s) (hsteps : Steps exec c s c' s') :
    ∃ f', Checked A D c' f' ∧ A.Has f' s' := by
  induction hsteps generalizing f with
  | refl => exact ⟨f, h, hs⟩
  | head hstep _ ih =>
    obtain ⟨f₁, h₁, hs₁⟩ := h.step hA hs hstep
    exact ih h₁ hs₁

/-- The rule for an uninterrupted call of a checked script. -/
theorem runScript_check {exec : ω → σ → Option (σ × ℤ)} (hA : A.Sound exec)
    {script : List (Instr ω)} {s s' : σ} {ret : ℤ} {f : φ} (hcheck : check A D script f = true)
    (hs : A.Has f s) (hrun : runScript exec script s = some (s', ret)) :
    ∃ f', A.Has f' s' ∧ (ret = 0 → D.done f' = true) ∧ (ret ≠ 0 → D.failed f' = true) := by
  obtain ⟨f', hc, hs'⟩ := Checked.steps hA (.main hcheck) hs (runScript_steps hrun)
  refine ⟨f', hs', fun hret => ?_, hc.failed⟩
  subst hret
  exact hc.done

end Check

end Support
