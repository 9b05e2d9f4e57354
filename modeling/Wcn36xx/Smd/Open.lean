import Wcn36xx.Kernel
import Wcn36xx.Support.Heap

/-!
# Opening the control channel

`wcn36xx_smd_open` creates the workqueue for indications and has the platform layer open the channel:
`wcn36xx_msm_smd_open` creates a workqueue of its own, opens the SMD channel, and waits until
`wcn36xx_msm_smd_notify` is told that it is open. `wcn36xx_msm_smd_close` undoes that. The workqueues and
channels are on a heap, so that one that nobody refers to any more is still there. `OpenEnv` is what the
kernel and the channel do during the call, and `opensCleanly_iff` says for which of them the call is right.
-/

namespace Wcn36xx

open Support (Heap)

/-- `ERESTARTSYS`. -/
def ERESTARTSYS : ℤ := 512

/-- What opening the control channel creates. -/
inductive CtrlRes where
  | workqueue
  | channel
  deriving DecidableEq, Repr

/-- The events that `wcn36xx_msm_smd_notify` is called with. -/
inductive SmdPortEvent where
  | DATA
  | OPEN
  | CLOSE
  | STATUS
  | REOPEN_READY
  | notSupported (event : ℕ)
  deriving DecidableEq, Repr

/-- The fields of `struct wcn36xx_msm` for the control channel. Workqueues and channels are addresses on a
heap, with 0 for NULL. -/
structure MsmCtrl where
  mem : Heap CtrlRes := .empty
  /-- `wmsm.wq`. -/
  wq : ℕ := 0
  /-- `wmsm.smd_work` is queued. -/
  smd_work : Bool := false
  /-- How often `wmsm.smd_compl` has been completed and not been waited for. -/
  smd_compl : ℕ := 0
  smd_ch : ℕ := 0
  /-- The read interrupt of `smd_ch` is disabled. -/
  read_intr_disabled : Bool := false
  /-- The channel that was opened last has reported `SMD_EVENT_OPEN`. -/
  reported : Bool := false

/-- With the fields of `struct wcn36xx`. -/
structure CtrlWorld extends MsmCtrl where
  hal_ind_wq : ℕ := 0
  hal_ind_queue : List (List Byte) := []
  /-- `hal_ind_mutex` is initialized. -/
  hal_ind_mutex : Bool := false

/-- How the wait for the channel ends when the channel does not report in time. -/
inductive WaitEnd where
  | timeout
  | signal
  deriving DecidableEq, Repr

/-- What happens during a call of `wcn36xx_msm_smd_open`. -/
structure MsmOpenEnv where
  /-- `create_workqueue` succeeds. -/
  msm_wq : Bool := true
  /-- `smd_named_open_on_edge`: 0 or an error. -/
  edge : ℤ := 0
  /-- The events that the channel reports until the wait is over. -/
  inTime : List SmdPortEvent := []
  /-- The jiffies that are left when the channel has reported in time. -/
  left : ℕ := 1
  left_pos : 0 < left := by decide
  waitEnd : WaitEnd := .timeout
  /-- The events that it reports from then on until the call returns. -/
  late : List SmdPortEvent := []

/-- What happens during a call of `wcn36xx_smd_open`. -/
structure OpenEnv extends MsmOpenEnv where
  /-- `create_freezable_workqueue` succeeds. -/
  hal_wq : Bool := true

/-- `wcn36xx_msm_smd_notify`. -/
def msmSmdNotify (w : MsmCtrl) : SmdPortEvent → MsmCtrl
  | .OPEN => { w with smd_compl := w.smd_compl + 1, reported := true }
  | .DATA => { w with smd_work := true }
  | .CLOSE | .STATUS | .REOPEN_READY | .notSupported _ => w

/-- `wait_for_completion_interruptible_timeout` on `wmsm.smd_compl`. -/
def waitForSmdCompl (env : MsmOpenEnv) (w : MsmCtrl) : MsmCtrl × ℤ :=
  let w := env.inTime.foldl msmSmdNotify w
  if 0 < w.smd_compl then ({ w with smd_compl := w.smd_compl - 1 }, env.left)
  else
    match env.waitEnd with
    | .timeout => (w, 0)
    | .signal => (w, -ERESTARTSYS)

/-- `wcn36xx_msm_smd_open`. -/
def msmSmdOpen (env : MsmOpenEnv) (w : MsmCtrl) : MsmCtrl × ℤ :=
  let w := { w with smd_work := false, smd_compl := 0 }
  if env.msm_wq then
    let wq := w.mem.alloc .workqueue
    let w := { w with mem := wq.2, wq := wq.1 }
    if env.edge ≠ 0 then (w, env.edge)
    else
      let ch := w.mem.alloc .channel
      let w := { w with mem := ch.2, smd_ch := ch.1, read_intr_disabled := false, reported := false }
      let (w, left) := waitForSmdCompl env w
      let w := env.late.foldl msmSmdNotify w
      if left ≤ 0 then (w, left)
      -- `Not to receive INT until the whole buf from SMD is read`
      else ({ w with read_intr_disabled := true }, 0)
  else ({ w with wq := 0 }, -ENOMEM)

/-- `wcn36xx_msm_smd_close`, which leaves the pointers as they are. `flush_workqueue` waits until
`smd_work` has run. -/
def msmSmdClose (w : MsmCtrl) : Option MsmCtrl := do
  let mem ← w.mem.free w.smd_ch .channel
  let mem ← mem.free w.wq .workqueue
  return { w with mem := mem, smd_work := false }

/-- `wcn36xx_smd_open`. -/
def smdOpenChannel (env : OpenEnv) (w : CtrlWorld) : Option (CtrlWorld × ℤ) :=
  if env.hal_wq then
    let wq := w.mem.alloc .workqueue
    let w := { w with mem := wq.2, hal_ind_wq := wq.1, hal_ind_queue := [], hal_ind_mutex := true }
    let (msm, ret) := msmSmdOpen env.toMsmOpenEnv w.toMsmCtrl
    let w := { w with toMsmCtrl := msm }
    if ret ≠ 0 then
      -- `free_wq`
      (w.mem.free w.hal_ind_wq .workqueue).map fun mem => ({ w with mem := mem }, ret)
    else some (w, ret)
  else some ({ w with hal_ind_wq := 0 }, -ENOMEM)

/-- The call returns. When it returns 0, the channel has reported `SMD_EVENT_OPEN`; when it returns an
error, every workqueue and channel that it has created is gone. -/
def OpensCleanly (env : OpenEnv) (w : CtrlWorld) : Prop :=
  ∃ w' ret, smdOpenChannel env w = some (w', ret) ∧ (ret = 0 → w'.reported = true) ∧
    (ret ≠ 0 → w'.mem.cells = w.mem.cells)

/-! ## Notifications -/

/-- Events change neither the heap nor a pointer into it. -/
theorem foldl_msmSmdNotify_mem (events : List SmdPortEvent) (w : MsmCtrl) :
    (events.foldl msmSmdNotify w).mem = w.mem ∧ (events.foldl msmSmdNotify w).wq = w.wq ∧
      (events.foldl msmSmdNotify w).smd_ch = w.smd_ch := by
  induction events generalizing w with
  | nil => exact ⟨rfl, rfl, rfl⟩
  | cons e events ih =>
    obtain ⟨hmem, hwq, hch⟩ := ih (msmSmdNotify w e)
    rw [List.foldl_cons, hmem, hwq, hch]
    cases e <;> exact ⟨rfl, rfl, rfl⟩

/-- The channel has reported when it had before, or does so now. -/
theorem foldl_msmSmdNotify_reported (events : List SmdPortEvent) (w : MsmCtrl) :
    (events.foldl msmSmdNotify w).reported = true ↔ w.reported = true ∨ .OPEN ∈ events := by
  induction events generalizing w with
  | nil => simp only [List.foldl_nil, List.not_mem_nil, or_false]
  | cons e events ih =>
    rw [List.foldl_cons, ih, List.mem_cons]
    cases e <;> simp [msmSmdNotify]

/-- The completion is completed when it was before, or the channel reports. -/
theorem foldl_msmSmdNotify_compl (events : List SmdPortEvent) (w : MsmCtrl) :
    0 < (events.foldl msmSmdNotify w).smd_compl ↔ 0 < w.smd_compl ∨ .OPEN ∈ events := by
  induction events generalizing w with
  | nil => simp only [List.foldl_nil, List.not_mem_nil, or_false]
  | cons e events ih =>
    rw [List.foldl_cons, ih, List.mem_cons]
    cases e <;> simp [msmSmdNotify]

/-! ## The platform layer -/

/-- What `wcn36xx_msm_smd_open` returns. -/
def MsmOpenEnv.result (env : MsmOpenEnv) : ℤ :=
  if env.msm_wq = false then -ENOMEM
  else if env.edge ≠ 0 then env.edge
  else if .OPEN ∈ env.inTime ∨ env.waitEnd = .timeout then 0 else -ERESTARTSYS

section Msm

variable (env : MsmOpenEnv) (w : MsmCtrl)

/-- The result of the wait: positive when the channel has reported in time, and otherwise as the wait has
ended. -/
theorem waitForSmdCompl_spec (hcompl : w.smd_compl = 0) (hreported : w.reported = false) :
    (waitForSmdCompl env w).1.mem = w.mem ∧ (waitForSmdCompl env w).1.wq = w.wq ∧
    (waitForSmdCompl env w).1.smd_ch = w.smd_ch ∧
    ((waitForSmdCompl env w).1.reported = true ↔ .OPEN ∈ env.inTime) ∧
    (waitForSmdCompl env w).2 = if .OPEN ∈ env.inTime then (env.left : ℤ)
      else if env.waitEnd = .timeout then 0 else -ERESTARTSYS := by
  obtain ⟨hmem, hwq, hch⟩ := foldl_msmSmdNotify_mem env.inTime w
  have hrep := foldl_msmSmdNotify_reported env.inTime w
  have hpos := foldl_msmSmdNotify_compl env.inTime w
  rw [hreported] at hrep
  rw [hcompl] at hpos
  simp only [Bool.false_eq_true, false_or, Nat.lt_irrefl] at hrep hpos
  unfold waitForSmdCompl
  by_cases hopen : .OPEN ∈ env.inTime
  · rw [if_pos (hpos.mpr hopen), if_pos hopen]
    exact ⟨hmem, hwq, hch, hrep, rfl⟩
  · rw [if_neg fun h => hopen (hpos.mp h), if_neg hopen]
    cases env.waitEnd with
    | timeout => exact ⟨hmem, hwq, hch, hrep, rfl⟩
    | signal => exact ⟨hmem, hwq, hch, hrep, rfl⟩

/-- Without a workqueue nothing is created. -/
theorem msmSmdOpen_without_wq (h : env.msm_wq = false) :
    (msmSmdOpen env w).1.mem = w.mem ∧ (msmSmdOpen env w).2 = -ENOMEM := by
  unfold msmSmdOpen
  rw [if_neg (by rw [h]; exact Bool.false_ne_true)]
  exact ⟨rfl, rfl⟩

/-- Without a channel the workqueue stays. -/
theorem msmSmdOpen_without_edge (h : env.msm_wq = true) (hedge : env.edge ≠ 0) :
    (msmSmdOpen env w).1.mem = (w.mem.alloc .workqueue).2 ∧
      (msmSmdOpen env w).2 = env.edge := by
  unfold msmSmdOpen
  rw [if_pos h]
  dsimp only
  rw [if_pos hedge]
  exact ⟨rfl, rfl⟩

/-- With a channel, workqueue and channel stay, and the result is 0 when the wait has not been
interrupted. -/
theorem msmSmdOpen_with_edge (h : env.msm_wq = true) (hedge : env.edge = 0) :
    (msmSmdOpen env w).1.mem = ((w.mem.alloc .workqueue).2.alloc .channel).2 ∧
      (msmSmdOpen env w).1.wq = w.mem.next ∧ (msmSmdOpen env w).1.smd_ch = w.mem.next + 1 ∧
      ((msmSmdOpen env w).1.reported = true ↔ .OPEN ∈ env.inTime ∨ .OPEN ∈ env.late) ∧
      (msmSmdOpen env w).2 =
        if .OPEN ∈ env.inTime ∨ env.waitEnd = .timeout then 0 else -ERESTARTSYS := by
  have hleft := env.left_pos
  have herr : -ERESTARTSYS ≤ 0 := by decide
  unfold msmSmdOpen
  rw [if_pos h]
  dsimp only
  rw [if_neg (not_not.mpr hedge)]
  -- The channel is open, and has not reported yet.
  obtain ⟨w₀, hw₀⟩ : ∃ w₀ : MsmCtrl, w₀ = { w with
      smd_work := false, smd_compl := 0, wq := (w.mem.alloc .workqueue).1
      mem := ((w.mem.alloc .workqueue).2.alloc .channel).2
      smd_ch := ((w.mem.alloc .workqueue).2.alloc .channel).1
      read_intr_disabled := false, reported := false } := ⟨_, rfl⟩
  obtain ⟨hmem, hwq, hch, hrep, hret⟩ := waitForSmdCompl_spec env w₀ (by rw [hw₀]) (by rw [hw₀])
  rw [← hw₀]
  generalize waitForSmdCompl env w₀ = r at hmem hwq hch hrep hret ⊢
  obtain ⟨w₁, left⟩ := r
  dsimp only at hmem hwq hch hrep hret ⊢
  obtain ⟨hmem', hwq', hch'⟩ := foldl_msmSmdNotify_mem env.late w₁
  have hrep' := foldl_msmSmdNotify_reported env.late w₁
  rw [hrep] at hrep'
  rw [hmem, hw₀] at hmem'
  rw [hwq, hw₀] at hwq'
  rw [hch, hw₀] at hch'
  by_cases hopen : .OPEN ∈ env.inTime
  · rw [if_pos hopen] at hret
    rw [if_neg (by omega), if_pos (.inl hopen)]
    exact ⟨hmem', hwq', hch', hrep', rfl⟩
  · rw [if_neg hopen] at hret
    by_cases hend : env.waitEnd = .timeout
    · rw [if_pos hend] at hret
      rw [if_pos (by omega), if_pos (.inr hend)]
      exact ⟨hmem', hwq', hch', hrep', hret⟩
    · rw [if_neg hend] at hret
      rw [if_pos (by omega), if_neg fun h => h.elim hopen hend]
      exact ⟨hmem', hwq', hch', hrep', hret⟩

/-- What the call returns is decided by what happens during it. -/
theorem msmSmdOpen_result : (msmSmdOpen env w).2 = env.result := by
  unfold MsmOpenEnv.result
  cases hwq : env.msm_wq with
  | false => exact (msmSmdOpen_without_wq env w hwq).2
  | true =>
    rw [if_neg (Bool.false_ne_true ∘ Eq.symm)]
    split_ifs with hedge hwait
    · exact (msmSmdOpen_without_edge env w hwq hedge).2
    · rw [(msmSmdOpen_with_edge env w hwq (not_not.mp hedge)).2.2.2.2, if_pos hwait]
    · rw [(msmSmdOpen_with_edge env w hwq (not_not.mp hedge)).2.2.2.2, if_neg hwait]

/-- When it returns 0, a workqueue and a channel have been created. -/
theorem msmSmdOpen_zero (h : env.result = 0) :
    (msmSmdOpen env w).1.mem = ((w.mem.alloc .workqueue).2.alloc .channel).2 ∧
      (msmSmdOpen env w).1.wq = w.mem.next ∧ (msmSmdOpen env w).1.smd_ch = w.mem.next + 1 := by
  have hwq : env.msm_wq = true := by
    by_contra hwq
    rw [MsmOpenEnv.result, if_pos (Bool.eq_false_iff.mpr hwq)] at h
    exact absurd h (by decide)
  have hedge : env.edge = 0 := by
    by_contra hedge
    rw [MsmOpenEnv.result, if_neg (by rw [hwq]; exact Bool.false_ne_true ∘ Eq.symm),
      if_pos hedge] at h
    exact hedge h
  obtain ⟨hmem, hmsm, hch, -, -⟩ := msmSmdOpen_with_edge env w hwq hedge
  exact ⟨hmem, hmsm, hch⟩

/-- A workqueue that it has created stays, whether the call returns 0 or an error. -/
theorem msmSmdOpen_cells (h : env.msm_wq = true) :
    (msmSmdOpen env w).1.mem.cells w.mem.next = some .workqueue := by
  have hnew : (w.mem.alloc .workqueue).2.cells w.mem.next = some .workqueue := by
    rw [Heap.alloc_cells, Function.update_self]
  by_cases hedge : env.edge = 0
  · rw [(msmSmdOpen_with_edge env w h hedge).1]
    exact Heap.alloc_cells_of_some _ hnew
  · rw [(msmSmdOpen_without_edge env w h hedge).1, hnew]

/-- `wcn36xx_msm_smd_close` destroys the workqueue and the channel, and nothing else. -/
theorem exists_msmSmdClose {w : MsmCtrl} (hch : w.mem.cells w.smd_ch = some .channel)
    (hwq : w.mem.cells w.wq = some .workqueue) : ∃ w', msmSmdClose w = some w' ∧
      w'.mem.next = w.mem.next ∧ w'.mem.cells w.smd_ch = none ∧ w'.mem.cells w.wq = none ∧
      ∀ p, p ≠ w.smd_ch → p ≠ w.wq → w'.mem.cells p = w.mem.cells p := by
  have hne : w.wq ≠ w.smd_ch := by
    intro heq
    rw [heq, hch] at hwq
    cases hwq
  obtain ⟨mem₁, hfree₁, hnext₁, hcells₁⟩ := Heap.exists_free hch
  obtain ⟨mem₂, hfree₂, hnext₂, hcells₂⟩ := Heap.exists_free (h := mem₁) (a := .workqueue)
    (by rw [hcells₁, Function.update_of_ne hne, hwq])
  refine ⟨{ w with mem := mem₂, smd_work := false }, ?_, hnext₂.trans hnext₁, ?_, ?_,
    fun p hpch hpwq => ?_⟩
  · simp only [msmSmdClose, Option.bind_eq_bind, hfree₁, Option.bind_some, hfree₂, Option.pure_def]
  · refine Heap.free_cells_none hfree₂ ?_
    rw [hcells₁, Function.update_self]
  · dsimp only
    rw [hcells₂, Function.update_self]
  · dsimp only
    rw [hcells₂, Function.update_of_ne hpwq, hcells₁, Function.update_of_ne hpch]

end Msm

/-! ## The call -/

section Open

variable (env : OpenEnv) (w : CtrlWorld)

/-- The state in which `wcn36xx_smd_open` calls `ctrl_ops->open`. -/
def ctrlOpenWorld : CtrlWorld :=
  { w with
    mem := (w.mem.alloc .workqueue).2, hal_ind_wq := (w.mem.alloc .workqueue).1
    hal_ind_queue := [], hal_ind_mutex := true }

/-- What `ctrl_ops->open` leaves, and what it returns. -/
def ctrlOpened : MsmCtrl × ℤ := msmSmdOpen env.toMsmOpenEnv (ctrlOpenWorld w).toMsmCtrl

/-- When `ctrl_ops->open` returns 0, so does the call. -/
theorem smdOpenChannel_ok (h : env.hal_wq = true) (hret : (ctrlOpened env w).2 = 0) :
    smdOpenChannel env w =
      some ({ ctrlOpenWorld w with toMsmCtrl := (ctrlOpened env w).1 }, 0) := by
  have hrun : smdOpenChannel env w = some
      ({ ctrlOpenWorld w with toMsmCtrl := (ctrlOpened env w).1 }, (ctrlOpened env w).2) := by
    unfold smdOpenChannel
    rw [if_pos h]
    exact if_neg (not_not.mpr hret)
  rw [hrun, hret]

/-- When `ctrl_ops->open` fails, the workqueue of the call is destroyed, and what `ctrl_ops->open` has
left on the heap stays. -/
theorem smdOpenChannel_error (h : env.hal_wq = true) (hret : (ctrlOpened env w).2 ≠ 0)
    (hcell : (ctrlOpened env w).1.mem.cells w.mem.next = some .workqueue) :
    ∃ w', smdOpenChannel env w = some (w', (ctrlOpened env w).2) ∧
      w'.mem.cells = Function.update (ctrlOpened env w).1.mem.cells w.mem.next none := by
  obtain ⟨mem, hfree, -, hcells⟩ := Heap.exists_free hcell
  refine ⟨{ ctrlOpenWorld w with toMsmCtrl := { (ctrlOpened env w).1 with mem := mem } }, ?_, hcells⟩
  unfold smdOpenChannel
  rw [if_pos h]
  refine (if_pos hret).trans ?_
  change (Heap.free (ctrlOpened env w).1.mem w.mem.next .workqueue).map _ = _
  rw [hfree]
  rfl

/-- Without a workqueue of its own the call changes nothing but a pointer. -/
theorem opensCleanly_without_hal_wq (h : env.hal_wq = false) : OpensCleanly env w := by
  refine ⟨{ w with hal_ind_wq := 0 }, -ENOMEM, ?_, fun hzero => ?_, fun _ => rfl⟩
  · unfold smdOpenChannel
    rw [if_neg (by rw [h]; exact Bool.false_ne_true)]
  · exact absurd hzero (by decide)

/-- The workqueue of the call is on the heap when `ctrl_ops->open` is called. -/
theorem ctrlOpenWorld_cells : (ctrlOpenWorld w).mem.cells w.mem.next = some .workqueue := by
  unfold ctrlOpenWorld
  rw [Heap.alloc_cells, Function.update_self]

/-- What `ctrl_ops->open` has created first is still there when the workqueue of the call is destroyed. -/
theorem cells_ne_of_leak {mem mem' : Heap CtrlRes}
    (hcell : mem.cells (w.mem.next + 1) = some .workqueue)
    (hcells : mem'.cells = Function.update mem.cells w.mem.next none) :
    mem'.cells ≠ w.mem.cells := by
  intro heq
  have hnone : w.mem.cells (w.mem.next + 1) = none := w.mem.cells_next _ (by omega)
  rw [← heq, hcells, Function.update_of_ne (by omega), hcell] at hnone
  cases hnone

/-- That is the workqueue of the platform layer. -/
theorem ctrlOpenWorld_alloc_cells :
    ((ctrlOpenWorld w).mem.alloc .workqueue).2.cells (w.mem.next + 1) = some .workqueue := by
  unfold ctrlOpenWorld
  rw [Heap.alloc_cells, Heap.alloc_next, Function.update_self]

/-- Without a workqueue of the platform layer, that of the call is destroyed, and nothing is left. -/
theorem opensCleanly_without_msm_wq (hhal : env.hal_wq = true) (h : env.msm_wq = false) :
    OpensCleanly env w := by
  obtain ⟨hmem, hret⟩ := msmSmdOpen_without_wq env.toMsmOpenEnv (ctrlOpenWorld w).toMsmCtrl h
  have hne : (ctrlOpened env w).2 ≠ 0 := by
    rw [ctrlOpened, hret]
    decide
  have hcell := ctrlOpenWorld_cells w
  obtain ⟨w', hrun, hcells⟩ := smdOpenChannel_error env w hhal hne (by rw [ctrlOpened, hmem, hcell])
  refine ⟨w', _, hrun, fun hzero => absurd hzero hne, fun _ => ?_⟩
  calc w'.mem.cells = Function.update (ctrlOpenWorld w).mem.cells w.mem.next none := by
        rw [hcells, ctrlOpened, hmem]
    _ = Function.update w.mem.cells w.mem.next none := by
        unfold ctrlOpenWorld
        rw [Heap.alloc_cells, Function.update_idem]
    _ = w.mem.cells :=
        (Function.update_eq_self_iff).mpr (w.mem.cells_next _ (Nat.le_refl _)).symm

/-- When the channel cannot be opened, the workqueue of the platform layer is left. -/
theorem not_opensCleanly_without_edge (hhal : env.hal_wq = true) (hmsm : env.msm_wq = true)
    (hedge : env.edge ≠ 0) : ¬OpensCleanly env w := by
  obtain ⟨hmem, hret⟩ :=
    msmSmdOpen_without_edge env.toMsmOpenEnv (ctrlOpenWorld w).toMsmCtrl hmsm hedge
  have hne : (ctrlOpened env w).2 ≠ 0 := by
    rw [ctrlOpened, hret]
    exact hedge
  obtain ⟨w', hrun, hcells⟩ := smdOpenChannel_error env w hhal hne (by
    rw [ctrlOpened, hmem]
    exact Heap.alloc_cells_of_some _ (ctrlOpenWorld_cells w))
  -- The call returns an error, and would have to leave the heap as it was.
  rintro ⟨w'', ret, heq, -, hclean⟩
  rw [hrun, Option.some.injEq, Prod.mk.injEq] at heq
  obtain ⟨rfl, rfl⟩ := heq
  rw [ctrlOpened, hmem] at hcells
  exact cells_ne_of_leak w (ctrlOpenWorld_alloc_cells w) hcells (hclean hne)

/-- When the wait is interrupted, the channel is left, too. -/
theorem not_opensCleanly_interrupted (hhal : env.hal_wq = true) (hmsm : env.msm_wq = true)
    (hedge : env.edge = 0) (hwait : ¬(.OPEN ∈ env.inTime ∨ env.waitEnd = .timeout)) :
    ¬OpensCleanly env w := by
  obtain ⟨hmem, -, -, -, hret⟩ :=
    msmSmdOpen_with_edge env.toMsmOpenEnv (ctrlOpenWorld w).toMsmCtrl hmsm hedge
  rw [if_neg hwait] at hret
  have hne : (ctrlOpened env w).2 ≠ 0 := by
    rw [ctrlOpened, hret]
    decide
  obtain ⟨w', hrun, hcells⟩ := smdOpenChannel_error env w hhal hne (by
    rw [ctrlOpened, hmem]
    exact Heap.alloc_cells_of_some _ (Heap.alloc_cells_of_some _ (ctrlOpenWorld_cells w)))
  rintro ⟨w'', ret, heq, -, hclean⟩
  rw [hrun, Option.some.injEq, Prod.mk.injEq] at heq
  obtain ⟨rfl, rfl⟩ := heq
  rw [ctrlOpened, hmem] at hcells
  exact cells_ne_of_leak w (Heap.alloc_cells_of_some _ (ctrlOpenWorld_alloc_cells w)) hcells
    (hclean hne)

/-- When the wait is not interrupted, the call returns 0, and is right when the channel reports at
all. -/
theorem opensCleanly_waited_iff (hhal : env.hal_wq = true) (hmsm : env.msm_wq = true)
    (hedge : env.edge = 0) (hwait : .OPEN ∈ env.inTime ∨ env.waitEnd = .timeout) :
    OpensCleanly env w ↔ .OPEN ∈ env.inTime ∨ .OPEN ∈ env.late := by
  obtain ⟨-, -, -, hreported, hret⟩ :=
    msmSmdOpen_with_edge env.toMsmOpenEnv (ctrlOpenWorld w).toMsmCtrl hmsm hedge
  rw [if_pos hwait] at hret
  unfold OpensCleanly
  rw [smdOpenChannel_ok env w hhal hret, ← hreported]
  constructor
  · rintro ⟨w', ret, heq, hzero, -⟩
    rw [Option.some.injEq, Prod.mk.injEq] at heq
    obtain ⟨rfl, rfl⟩ := heq
    exact hzero rfl
  · intro hopen
    exact ⟨_, 0, rfl, fun _ => hopen, fun hne => absurd rfl hne⟩

/-- The call is right exactly when a workqueue cannot be created, or the channel is opened and reports:
before the wait is over, or at least before the call returns after a timeout. -/
theorem opensCleanly_iff : OpensCleanly env w ↔
    env.hal_wq = false ∨ env.msm_wq = false ∨
      env.edge = 0 ∧ (.OPEN ∈ env.inTime ∨ env.waitEnd = .timeout ∧ .OPEN ∈ env.late) := by
  cases hhal : env.hal_wq with
  | false => exact iff_of_true (opensCleanly_without_hal_wq env w hhal) (.inl rfl)
  | true =>
    cases hmsm : env.msm_wq with
    | false => exact iff_of_true (opensCleanly_without_msm_wq env w hhal hmsm) (.inr (.inl rfl))
    | true =>
      simp only [Bool.true_eq_false, false_or]
      by_cases hedge : env.edge = 0
      · rw [and_iff_right hedge]
        by_cases hwait : .OPEN ∈ env.inTime ∨ env.waitEnd = .timeout
        · rw [opensCleanly_waited_iff env w hhal hmsm hedge hwait]
          tauto
        · exact iff_of_false (not_opensCleanly_interrupted env w hhal hmsm hedge hwait)
            fun h => hwait (h.imp_right And.left)
      · exact iff_of_false (not_opensCleanly_without_edge env w hhal hmsm hedge)
          fun h => hedge h.1

end Open

/-- The channel does not report in time, and the call returns 0 all the same. -/
theorem opensCleanly_fails_on_timeout : ¬OpensCleanly {} {} := by
  rintro ⟨w', ret, heq, hreported, -⟩
  have hrun := smdOpenChannel_ok {} {} rfl rfl
  rw [hrun, Option.some.injEq, Prod.mk.injEq] at heq
  obtain ⟨rfl, rfl⟩ := heq
  exact absurd (hreported rfl) (by decide)

end Wcn36xx
