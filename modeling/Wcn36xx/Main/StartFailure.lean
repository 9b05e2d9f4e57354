import Wcn36xx.Main.Ledger

/-!
# Failed starts

`wcn36xx_start` acquires about fifteen resources, and on an error goes to a label that releases what it has
acquired so far. A workqueue that cannot be created, and an error of the download of the NV file or of the
start of the firmware, is cleaned up. When the SMD channel cannot be opened, `wcn36xx_msm_smd_open` leaves
its workqueue, and when the wait for the channel is interrupted, the channel too. For the other errors
the labels of `wcn36xx_start` do not fit: `out_free_dxe_pool` falls through to
`out_free_dxe_ctl`, which frees the rings that `wcn36xx_dxe_alloc_ctl_blks` has already freed;
`out_free_dxe_ctl` itself leaves the BD pools; `wcn36xx_dxe_free_mem_pools` frees both pools, with a pointer
that may be left from the last start; and nothing frees the descriptors and the receive buffers of
`wcn36xx_dxe_init`.

`failsCleanly_iff` says exactly when a call of `wcn36xx_start` leaves what the device holds as it was.
-/

namespace Wcn36xx

open Support (Instr runOps runOps_append runOps_follow runScript runScript_append runScript_follow)

/-- A call of `wcn36xx_start` comes to an end, and if it returns an error, the device holds what it held
before. Releasing something twice would be a fault. -/
def FailsCleanly (n : RingSizes) (env : CallEnv) (dev : Dev) : Prop :=
  ∃ dev' ret, start n env dev = some (dev', ret) ∧ (ret ≠ 0 → SameHeld dev dev')

/-- The first step of `wcn36xx_start` that fails. -/
def startFailure (n : RingSizes) (env : CallEnv) : Option LifeOp :=
  (startScript.map Instr.op).find? fun op => !env.succeeds n op

/-- Nothing fails, or what fails first is cleaned up: the workqueue for indications, the workqueue of the
platform layer, the download of the NV file, the start of the firmware; a BD pool, if the pools that have
not been allocated yet have null pointers; the first control block of the first ring, if all rings have null
pointers. -/
def CleanStart (n : RingSizes) (env : CallEnv) (dev : Dev) : Prop :=
  match startFailure n env with
  | none | some .createWorkqueue | some (.smd _) => True
  | some .ctrlOpen => env.ctrl_open.msm_wq = false
  | some (.allocateMemPool false) =>
    dev.mgmt_mem_pool.virt_addr = 0 ∧ dev.data_mem_pool.virt_addr = 0
  | some (.allocateMemPool true) => dev.data_mem_pool.virt_addr = 0
  | some (.allocateCtlBlock .txL) =>
    env.kzalloc .txL 0 = false ∧ ∀ c, (dev.ch c).head_blk_ctl = none
  | some _ => False

/-! ## The steps before the first failure -/

section Before

variable {n : RingSizes} {env : CallEnv} {dev : Dev} {op : LifeOp}

/-- What comes before the first failure succeeds. -/
theorem succeeds_before (h : startFailure n env = some op) {pre rest : List (Instr LifeOp)}
    {i : Instr LifeOp} (hscript : startScript = pre ++ i :: rest)
    (hnot : op ∉ pre.map Instr.op) : ∀ j ∈ pre, env.succeeds n j.op = true := by
  have hpre : (pre.map Instr.op).find? (fun op => !env.succeeds n op) = none := by
    rw [startFailure, hscript, List.map_append, List.find?_append] at h
    by_contra hsome
    obtain ⟨o, ho⟩ := Option.ne_none_iff_exists'.mp hsome
    rw [ho, Option.some_or, Option.some.injEq] at h
    exact hnot (h ▸ List.mem_of_find?_eq_some ho)
  intro j hj
  have hnone := List.find?_eq_none.mp hpre j.op (List.mem_map_of_mem hj)
  simpa using hnone

/-- What fails first fails. -/
theorem succeeds_failure (h : startFailure n env = some op) : env.succeeds n op = false := by
  simpa using List.find?_some h

/-- The labels of `wcn36xx_start` are only gone to from operations whose result is looked at. -/
theorem looked_of_mem : ∀ i ∈ startScript, i.onError.isSome = true → i.op.looked = true := by
  decide

/-- A first part of `wcn36xx_start` that succeeds leads to what the ledger says. -/
theorem runScript_ledger (hstop : dev.Stopped) {pre : List (Instr LifeOp)}
    (hpre : ∀ i ∈ pre, i ∈ startScript) (hok : ∀ i ∈ pre, env.succeeds n i.op = true) {l : Ledger}
    (hl : dev.ledger.follow (pre.map Instr.op) = some l) :
    ∃ dev', runScript (exec n env) pre dev = some (dev', 0) ∧ l.Has n dev dev' := by
  have hpost : ∀ (op : LifeOp) (l l' : Ledger) (dev' : Dev), env.succeeds n op = true →
      l.Has n dev dev' → l.post op = some l' →
      ∃ dev'' r, exec n env op dev' = some (dev'', r) ∧ (op.looked = true → r = 0) ∧
        l'.Has n dev dev'' :=
    fun _ _ _ _ hop h hpost => ledger_post hstop.fresh hop h hpost
  exact runScript_follow hpost hok (fun i hi => looked_of_mem i (hpre i hi)) hstop.has hl

/-- From the first failure on, `wcn36xx_start` runs from a state that the ledger describes. -/
theorem start_eq (hstop : dev.Stopped) (h : startFailure n env = some op)
    {pre rest : List (Instr LifeOp)} {i : Instr LifeOp} (hscript : startScript = pre ++ i :: rest)
    (hnot : op ∉ pre.map Instr.op) {l : Ledger}
    (hl : dev.ledger.follow (pre.map Instr.op) = some l) :
    ∃ dev₁, l.Has n dev dev₁ ∧ start n env dev = runScript (exec n env) (i :: rest) dev₁ := by
  have hmem : ∀ j ∈ pre, j ∈ startScript := by
    intro j hj
    rw [hscript]
    exact List.mem_append_left _ hj
  obtain ⟨dev₁, hrun, hhas⟩ := runScript_ledger hstop hmem (succeeds_before h hscript hnot) hl
  refine ⟨dev₁, hhas, ?_⟩
  rw [start, hscript]
  exact runScript_append hrun

/-- The labels only lead to operations that always succeed. -/
theorem succeeds_label (n : RingSizes) (env : CallEnv) {i : Instr LifeOp} {label : List LifeOp}
    (hi : i ∈ startScript) (hlabel : i.onError = some label) :
    ∀ o ∈ label, env.succeeds n o = true := by
  have hall : ∀ i ∈ startScript, ∀ o ∈ i.onError.getD [],
      o.looked = false ∧ o ∉ [LifeOp.initDescs .rxL, .initDescs .rxH] := by decide
  intro o ho
  obtain ⟨hlooked, hdescs⟩ := hall i hi o (by rw [hlabel]; exact ho)
  cases o with
  | createWorkqueue | ctrlOpen | allocateMemPool | allocateCtlBlock | kmallocHalBuf | requestIrq =>
    cases hlooked
  | smd req => cases req <;> first | rfl | cases hlooked
  | initDescs c => cases c <;> first | rfl | exact absurd (by decide) hdescs
  | _ => rfl

/-- A failure that the ledger has an entry for. -/
theorem start_ledger (hstop : dev.Stopped) (h : startFailure n env = some op)
    {pre rest : List (Instr LifeOp)} {label : List LifeOp}
    (hscript : startScript = pre ++ ⟨op, some label⟩ :: rest) (hnot : op ∉ pre.map Instr.op)
    (hfirst : env.FailsFirst op) {l : Ledger}
    (hl : ((dev.ledger.follow (pre.map Instr.op)).bind
      fun l => (l.fail op).bind fun l => l.follow label) = some l) :
    ∃ dev' ret, start n env dev = some (dev', ret) ∧ ret ≠ 0 ∧ l.Has n dev dev' := by
  obtain ⟨l₁, hl₁, hl⟩ := Option.bind_eq_some_iff.mp hl
  obtain ⟨l₂, hl₂, hl⟩ := Option.bind_eq_some_iff.mp hl
  obtain ⟨dev₁, hhas, hstart⟩ := start_eq hstop h hscript hnot hl₁
  have hmem : (⟨op, some label⟩ : Instr LifeOp) ∈ startScript := by
    rw [hscript]
    exact List.mem_append_right _ List.mem_cons_self
  obtain ⟨dev₂, ret, hexec, hret, hhas₂⟩ :=
    ledger_fail (looked_of_mem _ hmem rfl) (succeeds_failure h) hfirst hhas hl₂
  have hpost : ∀ (op : LifeOp) (l l' : Ledger) (dev' : Dev), env.succeeds n op = true →
      l.Has n dev dev' → l.post op = some l' →
      ∃ dev'' r, exec n env op dev' = some (dev'', r) ∧ (op.looked = true → r = 0) ∧
        l'.Has n dev dev'' :=
    fun _ _ _ _ hop h hpost => ledger_post hstop.fresh hop h hpost
  obtain ⟨dev₃, hrun, hhas₃⟩ := runOps_follow hpost (succeeds_label n env hmem rfl) hhas₂ hl
  refine ⟨dev₃, ret, ?_, hret, hhas₃⟩
  rw [hstart, runScript, hexec, Option.bind_some]
  simp only [if_neg hret, hrun, Option.map_some]

end Before

/-! ## The ledgers -/

/-- The ledger of a stopped device by which of its pointers are null. -/
def nullLedger (mgmt data txL txH rxL rxH : Bool) : Ledger where
  pool
    | false => if mgmt then .null else .stale
    | true => if data then .null else .stale
  ring
    | .txL => if txL then .null false else .stale false
    | .txH => if txH then .null false else .stale false
    | .rxL => if rxL then .null false else .stale false
    | .rxH => if rxH then .null false else .stale false

/-- The ledger of a stopped device is one of these. -/
theorem Dev.ledger_eq (dev : Dev) : dev.ledger = nullLedger
    (decide (dev.mgmt_mem_pool.virt_addr = 0)) (decide (dev.data_mem_pool.virt_addr = 0))
    (decide ((dev.ch .txL).head_blk_ctl = none)) (decide ((dev.ch .txH).head_blk_ctl = none))
    (decide ((dev.ch .rxL).head_blk_ctl = none)) (decide ((dev.ch .rxH).head_blk_ctl = none)) := by
  unfold Dev.ledger nullLedger
  congr 1
  · funext is_low
    cases is_low <;> simp only [decide_eq_true_eq] <;> rfl
  · funext c
    cases c <;> simp only [decide_eq_true_eq]

/-- The ledger after step `i` of `wcn36xx_start` has failed. -/
def Ledger.failAt (l : Ledger) (i : ℕ) : Option Ledger :=
  (l.follow ((startScript.take i).map Instr.op)).bind fun l =>
    startScript[i]?.bind fun step => (l.fail step.op).bind fun l => l.follow (step.onError.getD [])

/-- Which failures are cleaned up, and which leave something: the ledgers of a stopped device, whatever of
its pointers are null, evaluated for every step of `wcn36xx_start` that can fail. -/
theorem failAt_table (mgmt data txL txH rxL rxH : Bool) :
    (∀ i ∈ [0, 2, 15, 16],
      ((nullLedger mgmt data txL txH rxL rxH).failAt i).any Ledger.balanced = true) ∧
    (∀ i ∈ [14, 31, 32],
      ((nullLedger mgmt data txL txH rxL rxH).failAt i).any Ledger.leaks = true) ∧
    (mgmt = true → data = true →
      ((nullLedger mgmt data txL txH rxL rxH).failAt 3).any Ledger.balanced = true) ∧
    (data = true →
      ((nullLedger mgmt data txL txH rxL rxH).failAt 4).any Ledger.balanced = true) ∧
    (txL = true → txH = true → rxL = true → rxH = true →
      ((nullLedger mgmt data txL txH rxL rxH).failAt 9).any Ledger.balanced = true) := by
  revert mgmt data txL txH rxL rxH
  decide +kernel

/-- The place of `wcn36xx_dxe_allocate_ctl_block` for a channel in `wcn36xx_start`. -/
def ctlStep : DxeChType → ℕ
  | .txL => 9
  | .txH => 10
  | .rxL => 11
  | .rxH => 12

/-- A ledger while the rings are allocated: those before `c` have their blocks, the others are as in the
ledger `l₀` before. -/
def Ledger.ringsUpTo (l₀ : Ledger) (c : DxeChType) (l : Ledger) : Bool :=
  [DxeChType.txL, .txH, .rxL, .rxH].all fun c' => l.ring c' ==
    if ctlStep c' < ctlStep c then .bare
    else if l₀.ring c' == .null false then .null true
    else .stale true

/-- A ledger before the BD pool of a TX channel is allocated: no other memory is held, and the pool, like
the one after it, is as in the ledger `l₀` before. -/
def Ledger.poolsUpTo (l₀ : Ledger) (is_low : Bool) (l : Ledger) : Bool :=
  !l.descs && !l.hal_buf && l.pool true == l₀.pool true &&
    (is_low || l.pool false == l₀.pool false && l.pool false != .held && l.pool true != .held)

/-- The ledgers along a start in which nothing fails. -/
theorem follow_table (mgmt data txL txH rxL rxH : Bool) :
    ((nullLedger mgmt data txL txH rxL rxH).follow (startScript.map Instr.op)).isSome = true ∧
    (∀ is_low, ((nullLedger mgmt data txL txH rxL rxH).follow
      ((startScript.take (if is_low then 4 else 3)).map Instr.op)).any
        ((nullLedger mgmt data txL txH rxL rxH).poolsUpTo is_low) = true) ∧
    ([DxeChType.txL, .txH, .rxL, .rxH].all fun c => ((nullLedger mgmt data txL txH rxL rxH).follow
      ((startScript.take (ctlStep c)).map Instr.op)).any
        ((nullLedger mgmt data txL txH rxL rxH).ringsUpTo c)) = true ∧
    ∀ is_low, ((nullLedger mgmt data txL txH rxL rxH).follow
      ((startScript.take (if is_low then 25 else 28)).map Instr.op)).any
        (fun l => l.ring (rxType is_low) == .bare) = true := by
  revert mgmt data txL txH rxL rxH
  decide +kernel

/-- Every channel is one of the four. -/
theorem DxeChType.mem_all (c : DxeChType) : c ∈ [DxeChType.txL, .txH, .rxL, .rxH] := by
  cases c <;> decide

/-- The rings while they are allocated. -/
theorem Dev.follow_ctl (dev : Dev) (c : DxeChType) :
    ∃ l, dev.ledger.follow ((startScript.take (ctlStep c)).map Instr.op) = some l ∧
      ∀ c', l.ring c' = if ctlStep c' < ctlStep c then .bare
        else if dev.ledger.ring c' == .null false then .null true else .stale true := by
  rw [dev.ledger_eq]
  obtain ⟨l, hl, hcond⟩ := (Option.any_eq_true _ _).mp
    (List.all_eq_true.mp (follow_table _ _ _ _ _ _).2.2.1 c c.mem_all)
  exact ⟨l, hl, fun c' => beq_iff_eq.mp (List.all_eq_true.mp hcond c' c'.mem_all)⟩

/-! ## What is not cleaned up -/

section Unclean

variable {n : RingSizes} {env : CallEnv} {dev dev' : Dev}

/-- `wcn36xx_dxe_free_ctl_block` of one channel. -/
theorem exec_freeCtlBlock {c : DxeChType} {r : ℤ}
    (h : exec n env (.freeCtlBlock c) dev = some (dev', r)) :
    dxeFreeCtlBlock (dev.ch c) = some (dev'.ch c) ∧ ∀ c', c' ≠ c → dev'.ch c' = dev.ch c' := by
  obtain ⟨ch, hfree, heq⟩ := Option.map_eq_some_iff.mp h
  rw [Prod.mk.injEq] at heq
  rw [← heq.1, Dev.ch_setCh]
  exact ⟨hfree, fun c' hne => dev.ch_setCh_ne hne ch⟩

/-- `wcn36xx_dxe_free_ctl_blks` frees every ring once. -/
theorem runOps_freeCtlBlks (h : runOps (exec n env) dxeFreeCtlBlks dev = some dev') :
    ∀ c, dxeFreeCtlBlock (dev.ch c) = some (dev'.ch c) := by
  simp only [dxeFreeCtlBlks, runOps, Option.bind_eq_some_iff, Option.some.injEq] at h
  obtain ⟨⟨d₁, r₁⟩, h₁, ⟨d₂, r₂⟩, h₂, ⟨d₃, r₃⟩, h₃, ⟨d₄, r₄⟩, h₄, rfl⟩ := h
  obtain ⟨htxL, hne₁⟩ := exec_freeCtlBlock h₁
  obtain ⟨htxH, hne₂⟩ := exec_freeCtlBlock h₂
  obtain ⟨hrxL, hne₃⟩ := exec_freeCtlBlock h₃
  obtain ⟨hrxH, hne₄⟩ := exec_freeCtlBlock h₄
  dsimp only at htxL htxH hrxL hrxH hne₁ hne₂ hne₃ hne₄ ⊢
  intro c
  cases c with
  | txL => rw [hne₄ _ (by decide), hne₃ _ (by decide), hne₂ _ (by decide), htxL]
  | txH => rw [hne₄ _ (by decide), hne₃ _ (by decide), ← htxH, hne₁ _ (by decide)]
  | rxL => rw [hne₄ _ (by decide), ← hrxL, hne₂ _ (by decide), hne₁ _ (by decide)]
  | rxH => rw [← hrxH, hne₃ _ (by decide), hne₂ _ (by decide), hne₁ _ (by decide)]

/-- `wcn36xx_dxe_free_mem_pools` only touches the heap. It frees what a pointer points to, unless it is
null. -/
theorem runOps_freeMemPools (h : runOps (exec n env) dxeFreeMemPools dev = some dev') :
    dev' = { dev with mem := dev'.mem } ∧ ∀ is_low, (dev.pool is_low).virt_addr ≠ 0 →
      dev.mem.cells (dev.pool is_low).virt_addr ≠ none ∧
      dev'.mem.cells (dev.pool is_low).virt_addr = none ∧
      (is_low = true → (dev.pool false).virt_addr ≠ (dev.pool true).virt_addr) := by
  simp only [dxeFreeMemPools, runOps, Option.bind_eq_some_iff, Option.some.injEq] at h
  obtain ⟨⟨d₁, r₁⟩, h₁, ⟨d₂, r₂⟩, h₂, rfl⟩ := h
  obtain ⟨d₁', hfree₁, heq₁⟩ := Option.map_eq_some_iff.mp h₁
  obtain ⟨d₂', hfree₂, heq₂⟩ := Option.map_eq_some_iff.mp h₂
  rw [Prod.mk.injEq] at heq₁ heq₂
  obtain ⟨rfl, -⟩ := heq₁
  obtain ⟨rfl, -⟩ := heq₂
  dsimp only at hfree₁ hfree₂ ⊢
  have hmem₁ := execFreeMemPool_eq hfree₁
  have hmem₂ := execFreeMemPool_eq hfree₂
  have hpool : ∀ b, d₁'.pool b = dev.pool b := by
    intro b
    rw [hmem₁]
    cases b <;> rfl
  refine ⟨by rw [hmem₂, hmem₁], ?_⟩
  -- What one half of the function does to the heap.
  have hhalf : ∀ {b : Bool} {d d' : Dev}, execFreeMemPool n b d = some d' →
      ((d.pool b).virt_addr = 0 ∧ d' = d) ∨
        ∃ r, d.mem.free (d.pool b).virt_addr r = some d'.mem := by
    intro b d d' hd
    unfold execFreeMemPool at hd
    dsimp only at hd
    split_ifs at hd with hzero
    · exact Or.inl ⟨hzero, (Option.some.inj hd).symm⟩
    · obtain ⟨mem, hfree, rfl⟩ := Option.map_eq_some_iff.mp hd
      exact Or.inr ⟨_, hfree⟩
  intro is_low hpos
  cases is_low with
  | false =>
    obtain ⟨r, hr⟩ := (hhalf hfree₁).resolve_left fun hz => hpos hz.1
    obtain ⟨hcell, -, hcells⟩ := Support.Heap.free_eq_some hr
    have hgone : d₁'.mem.cells (dev.pool false).virt_addr = none := by
      rw [hcells, Function.update_self]
    refine ⟨by rw [hcell]; exact Option.some_ne_none _, ?_, fun hb => Bool.noConfusion hb⟩
    rcases hhalf hfree₂ with ⟨-, rfl⟩ | ⟨r', hr'⟩
    · exact hgone
    · exact Support.Heap.free_cells_none hr' hgone
  | true =>
    rw [← hpool] at hpos
    obtain ⟨r, hr⟩ := (hhalf hfree₂).resolve_left fun hz => hpos hz.1
    obtain ⟨hcell, -, hcells⟩ := Support.Heap.free_eq_some hr
    rw [hpool] at hcell hcells hpos
    refine ⟨?_, by rw [hcells, Function.update_self], fun _ => ?_⟩
    · intro hnone
      rcases hhalf hfree₁ with ⟨-, rfl⟩ | ⟨r', hr'⟩
      · rw [hnone] at hcell
        cases hcell
      · rw [Support.Heap.free_cells_none hr' hnone] at hcell
        cases hcell
    · intro heq
      rcases hhalf hfree₁ with ⟨hz, -⟩ | ⟨r', hr'⟩
      · exact hpos (heq ▸ hz)
      · obtain ⟨-, -, hcells'⟩ := Support.Heap.free_eq_some hr'
        rw [← heq, hcells', Function.update_self] at hcell
        cases hcell

/-- The way out of `wcn36xx_dxe_alloc_ctl_blks` frees the rings twice. -/
theorem runOps_freeCtlBlks_twice {c : DxeChType} (hhead : (dev.ch c).head_blk_ctl ≠ none)
    (hpos : 0 < (dev.ch c).desc_num) :
    runOps (exec n env) (dxeFreeCtlBlks ++ outFreeDxePool) dev = none := by
  by_contra hsome
  obtain ⟨dev', h⟩ := Option.ne_none_iff_exists'.mp hsome
  rw [runOps_append] at h
  obtain ⟨d₁, h₁, h⟩ := Option.bind_eq_some_iff.mp h
  rw [outFreeDxePool, outFreeDxeCtl, runOps_append] at h
  obtain ⟨d₂, h₂, h⟩ := Option.bind_eq_some_iff.mp h
  rw [runOps_append] at h
  obtain ⟨d₃, h₃, -⟩ := Option.bind_eq_some_iff.mp h
  have hfree₁ := runOps_freeCtlBlks h₁ c
  have hfree₃ := runOps_freeCtlBlks h₃ c
  have hch : d₂.ch c = d₁.ch c := by
    rw [(runOps_freeMemPools h₂).1]
    cases c <;> rfl
  rw [hch, dxeFreeCtlBlock_twice hhead hpos hfree₁] at hfree₃
  cases hfree₃

/-- Without descriptors, programming the registers of an RX channel is a fault. -/
theorem runScript_rx_without_descs {is_low : Bool} {base : ℕ}
    (hring : RingAt (dev.rx is_low).ch base) (hbare : BareAt (dev.rx is_low).ch base)
    (hnone : env.coherent (rxType is_low) = none) (rest : List (Instr LifeOp)) :
    runScript (exec n env) (.plain (.initDescs (rxType is_low)) :: .plain (.chAllocSkb is_low) ::
      .plain (.programRx is_low) :: rest) dev = none := by
  obtain ⟨ch₁, hch₁⟩ : ∃ ch₁, ch₁ = { (dev.rx is_low).ch with cpu_addr := none } := ⟨_, rfl⟩
  have hring₁ : RingAt ch₁ base := by
    rw [hch₁]
    exact ⟨hring.two_le, hring.ctl, hring.head, hring.tail⟩
  have hbare₁ : BareAt ch₁ base := by
    rw [hch₁]
    exact hbare
  have hinit : exec n env (.initDescs (rxType is_low)) dev =
      some (dev.setCh (rxType is_low) ch₁, -ENOMEM) := by
    rw [exec, execInitDescs, hnone, hch₁, ← dev.ch_rxType is_low]
    rfl
  have hrx : ((dev.setCh (rxType is_low) ch₁).rx is_low).ch = ch₁ := by
    rw [← Dev.ch_rxType, Dev.ch_setCh]
  by_contra hsome
  obtain ⟨res, hres⟩ := Option.ne_none_iff_exists'.mp hsome
  rw [runScript, Instr.plain, hinit, Option.bind_some] at hres
  obtain ⟨⟨d₂, r₂⟩, hskb, hres⟩ := Option.bind_eq_some_iff.mp hres
  obtain ⟨⟨d₃, r₃⟩, hprog, -⟩ := Option.bind_eq_some_iff.mp hres
  -- The buffers leave the ring as it is, and the head has no descriptor.
  obtain ⟨s, hs, heq⟩ := Option.map_eq_some_iff.mp hskb
  rw [Prod.mk.injEq] at heq
  obtain ⟨rfl, -⟩ := heq
  obtain ⟨hmoves, -⟩ := dxeChAllocSkb_moves hs
  have hmoves₁ : ch₁.Moves s.ch := hrx ▸ hmoves
  have hring₂ := hring₁.moves hmoves₁
  have hbare₂ := hring₁.bare_moves hmoves₁ hbare₁
  obtain ⟨d₄, hd₄, -⟩ := Option.map_eq_some_iff.mp hprog
  have hch : ((dev.setCh (rxType is_low) ch₁).setRx is_low s).ch (rxType is_low) = s.ch := by
    rw [Dev.ch_setRx, Dev.ch_setCh]
  simp only [execProgramRx, hch, Option.bind_eq_bind, Option.bind_eq_some_iff] at hd₄
  obtain ⟨head, hhead, c, hc, i, hi, -⟩ := hd₄
  obtain ⟨k, hk⟩ := hring₂.head
  rw [hhead, Option.some.injEq] at hk
  rw [hbare₂ k c (hk ▸ hc)] at hi
  cases hi

end Unclean

/-! ## The exact condition -/

section Iff

variable {n : RingSizes} {env : CallEnv} {dev : Dev} {op : LifeOp}

/-- `wcn36xx_start` around its step `i`. -/
theorem startScript_split {i : ℕ} {step : Instr LifeOp} (hstep : startScript[i]? = some step) :
    startScript = startScript.take i ++ step :: startScript.drop (i + 1) := by
  obtain ⟨hlt, rfl⟩ := List.getElem?_eq_some_iff.mp hstep
  rw [← List.drop_eq_getElem_cons hlt, List.take_append_drop]

/-- A failure that the ledger has an entry for, by its place in `wcn36xx_start`. -/
theorem start_failAt (hstop : dev.Stopped) (h : startFailure n env = some op) {i : ℕ}
    {label : List LifeOp} (hstep : startScript[i]? = some ⟨op, some label⟩)
    (hnot : op ∉ (startScript.take i).map Instr.op)
    (hfirst : env.FailsFirst op) {l : Ledger}
    (hl : dev.ledger.failAt i = some l) :
    ∃ dev' ret, start n env dev = some (dev', ret) ∧ ret ≠ 0 ∧ l.Has n dev dev' := by
  refine start_ledger hstop h (startScript_split hstep) hnot hfirst ?_
  rw [Ledger.failAt, hstep] at hl
  exact hl

/-- Everything that has been acquired is released. -/
theorem failsCleanly_of_balanced (hstop : dev.Stopped) (h : startFailure n env = some op) {i : ℕ}
    {label : List LifeOp} (hstep : startScript[i]? = some ⟨op, some label⟩)
    (hnot : op ∉ (startScript.take i).map Instr.op)
    (hfirst : env.FailsFirst op)
    (hl : (dev.ledger.failAt i).any Ledger.balanced = true) : FailsCleanly n env dev := by
  obtain ⟨l, hl, hbalanced⟩ := (Option.any_eq_true _ _).mp hl
  obtain ⟨dev', ret, hstart, -, hhas⟩ := start_failAt hstop h hstep hnot hfirst hl
  exact ⟨dev', ret, hstart, fun _ => hhas.sameHeld hstop hbalanced⟩

/-- Something that has been acquired is not released. -/
theorem not_failsCleanly_of_leaks (hstop : dev.Stopped) (h : startFailure n env = some op) {i : ℕ}
    {label : List LifeOp} (hstep : startScript[i]? = some ⟨op, some label⟩)
    (hnot : op ∉ (startScript.take i).map Instr.op)
    (hfirst : env.FailsFirst op)
    (hl : (dev.ledger.failAt i).any Ledger.leaks = true) : ¬FailsCleanly n env dev := by
  obtain ⟨l, hl, hleaks⟩ := (Option.any_eq_true _ _).mp hl
  obtain ⟨dev', ret, hstart, hret, hhas⟩ := start_failAt hstop h hstep hnot hfirst hl
  rintro ⟨dev'', ret', hstart', hclean⟩
  rw [hstart, Option.some.injEq, Prod.mk.injEq] at hstart'
  obtain ⟨rfl, rfl⟩ := hstart'
  exact hhas.not_sameHeld hleaks (hclean hret)

/-- When `ctrl_ops->open` fails after it has created its workqueue, nothing destroys that. -/
theorem msm_wq_of_failsCleanly (hstop : dev.Stopped) (h : startFailure n env = some .ctrlOpen)
    (hclean : FailsCleanly n env dev) : env.ctrl_open.msm_wq = false := by
  by_contra hwq
  have hstep : startScript[2]? = some ⟨.ctrlOpen, some [.destroyWorkqueue]⟩ := rfl
  obtain ⟨l, hl⟩ : ∃ l, dev.ledger.follow ((startScript.take 2).map Instr.op) = some l := ⟨_, rfl⟩
  obtain ⟨dev₁, hhas, hstart⟩ := start_eq hstop h (startScript_split hstep) (by decide) hl
  obtain ⟨dev', ret, hrun, hsame⟩ := hclean
  have hret : env.ctrl_open.result ≠ 0 := beq_eq_false_iff_ne.mp (succeeds_failure h)
  rw [hstart, runScript] at hrun
  simp only [exec, msmSmdOpen_result, Option.bind_some, if_neg hret] at hrun
  obtain ⟨d, hd, heq⟩ := Option.map_eq_some_iff.mp hrun
  rw [Prod.mk.injEq] at heq
  obtain ⟨rfl, rfl⟩ := heq
  have hmsm : d.msm = (msmSmdOpen env.ctrl_open dev₁.msm).1 := by
    simp only [runOps, exec, execDestroyWorkqueue, Option.bind_eq_some_iff, Option.some.injEq] at hd
    obtain ⟨⟨e, r⟩, he, rfl⟩ := hd
    obtain ⟨e', he', heq⟩ := Option.map_eq_some_iff.mp he
    obtain ⟨-, he'⟩ := Option.ite_none_right_eq_some.mp he'
    rw [Option.some.injEq] at he'
    rw [Prod.mk.injEq] at heq
    dsimp only
    rw [← heq.1, ← he']
  -- The address of the workqueue was not in use before the call.
  have hleft := msmSmdOpen_cells env.ctrl_open dev₁.msm (Bool.not_eq_false _ ▸ hwq)
  rw [← hmsm, (hsame hret).msm, dev.msm.mem.cells_next _ hhas.msm.next] at hleft
  cases hleft

/-- A BD pool could not be allocated: `wcn36xx_dxe_free_mem_pools` frees what the pointers point to, which
must be nothing that was there before. -/
theorem null_of_failsCleanly (hstop : dev.Stopped) {is_low : Bool}
    (h : startFailure n env = some (.allocateMemPool is_low)) (hclean : FailsCleanly n env dev)
    (b : Bool) (hb : is_low = true → b = true) : (dev.pool b).virt_addr = 0 := by
  obtain ⟨i, hi⟩ : ∃ i, i = if is_low then 4 else 3 := ⟨_, rfl⟩
  have hstep : startScript[i]? = some
      ⟨.allocateMemPool is_low, some (dxeFreeMemPools ++ outSmdClose)⟩ := by
    rw [hi]
    cases is_low <;> rfl
  have hnot : .allocateMemPool is_low ∉ (startScript.take i).map Instr.op := by
    rw [hi]
    cases is_low <;> decide
  -- Before the failure only the pool for management frames may have been allocated.
  have hledger : ∃ l, dev.ledger.follow ((startScript.take i).map Instr.op) = some l ∧
      l.descs = false ∧ l.hal_buf = false ∧ l.pool b = dev.ledger.pool b ∧
      (is_low = false → l.pool false ≠ .held ∧ l.pool true ≠ .held) := by
    rw [dev.ledger_eq, hi]
    obtain ⟨l, hl, hcond⟩ := (Option.any_eq_true _ _).mp ((follow_table _ _ _ _ _ _).2.1 is_low)
    simp only [Ledger.poolsUpTo, Bool.and_eq_true, Bool.not_eq_true', bne_iff_ne, beq_iff_eq,
      Bool.or_eq_true] at hcond
    obtain ⟨⟨⟨hdescs, hbuf⟩, hdata⟩, hboth⟩ := hcond
    refine ⟨l, hl, hdescs, hbuf, ?_, fun hlow => ?_⟩
    · cases b with
      | true => exact hdata
      | false =>
        have hlow : is_low ≠ true := fun hlow => Bool.false_ne_true (hb hlow)
        exact (hboth.resolve_left hlow).1.1
    · rw [hlow] at hboth
      obtain ⟨⟨-, hmgmt⟩, hdata⟩ := hboth.resolve_left Bool.false_ne_true
      exact ⟨hmgmt, hdata⟩
  obtain ⟨l, hl, hdescs, hbuf, hpool, hboth⟩ := hledger
  have hbefore : dev.ledger.pool b = if (dev.pool b).virt_addr = 0 then .null else .stale := rfl
  obtain ⟨dev₁, hhas, hstart⟩ := start_eq hstop h (startScript_split hstep) hnot hl
  have hfail := succeeds_failure h
  have hnone : env.mem_pool is_low = none := by
    rw [CallEnv.succeeds] at hfail
    exact Option.isNone_iff_eq_none.mp (by rw [← Option.not_isSome, hfail]; rfl)
  obtain ⟨dev', ret, hrun, hsame⟩ := hclean
  rw [hstart, runScript, exec, execAllocateMemPool, hnone, Option.bind_some] at hrun
  have hret : ¬(-ENOMEM : ℤ) = 0 := by decide
  simp only [if_neg hret] at hrun
  obtain ⟨d, hd, heq⟩ := Option.map_eq_some_iff.mp hrun
  rw [Prod.mk.injEq] at heq
  obtain ⟨rfl, rfl⟩ := heq
  have hsame := hsame hret
  rw [runOps_append] at hd
  obtain ⟨d₁, hfree, hclose⟩ := Option.bind_eq_some_iff.mp hd
  have hfreed := (runOps_freeMemPools hfree).2
  -- Closing the channel does not touch the heap.
  have hmem : d.mem = d₁.mem := by
    simp only [outSmdClose, smdClose, runOps, Option.bind_eq_some_iff, Option.some.injEq] at hclose
    obtain ⟨⟨e₁, r₁⟩, h₁, ⟨e₂, r₂⟩, h₂, ⟨e₃, r₃⟩, h₃, rfl⟩ := hclose
    simp only [exec] at h₁ h₂ h₃
    obtain ⟨msm, -, heq₁⟩ := Option.map_eq_some_iff.mp h₁
    rw [Option.some.injEq, Prod.mk.injEq] at h₃
    rw [Prod.mk.injEq] at heq₁
    obtain ⟨e, he, heq⟩ := Option.map_eq_some_iff.mp h₂
    rw [Prod.mk.injEq] at heq
    unfold execDestroyWorkqueue at he
    split_ifs at he
    rw [Option.some.injEq] at he
    dsimp only at heq₁ h₃ heq ⊢
    rw [← h₃.1, ← heq.1, ← he, ← heq₁.1]
  have hvirt : ∀ b', ((dev₁.setPool is_low
      { dev₁.pool is_low with chunk_size := bdChunkSize }).pool b').virt_addr =
        (dev₁.pool b').virt_addr := by
    intro b'
    cases is_low <;> cases b' <;> rfl
  have hcells : (dev₁.setPool is_low
      { dev₁.pool is_low with chunk_size := bdChunkSize }).mem = dev₁.mem := by
    cases is_low <;> rfl
  simp only [hvirt, hcells] at hfreed
  by_contra hne
  have hold : (dev₁.pool b).virt_addr ≠ 0 := by
    have hb₁ := hhas.mem.pool b
    rw [hpool, hbefore, if_neg hne] at hb₁
    exact hb₁
  obtain ⟨hsome, hgone, hdiff⟩ := hfreed b hold
  have hkept : dev₁.mem.cells (dev₁.pool b).virt_addr =
      dev.mem.cells (dev₁.pool b).virt_addr := by
    refine hhas.mem.old hdescs _ (fun b' hheld => ?_) fun hb' => ?_
    · cases is_low with
      | false =>
        cases b'
        · exact absurd hheld (hboth rfl).1
        · exact absurd hheld (hboth rfl).2
      | true =>
        obtain rfl := hb rfl
        cases b' with
        | false => exact (hdiff rfl).symm
        | true =>
          rw [hpool, hbefore, if_neg hne] at hheld
          cases hheld
    · rw [hbuf] at hb'
      cases hb'
  rw [hkept, ← hsame.mem, hmem, hgone] at hsome
  exact hsome rfl

/-- The control blocks of a ring could not be allocated: all rings are freed twice, which is only right
when there are none. -/
theorem ctl_of_failsCleanly (hstop : dev.Stopped) {c : DxeChType}
    (h : startFailure n env = some (.allocateCtlBlock c)) (hclean : FailsCleanly n env dev) :
    c = .txL ∧ env.kzalloc c 0 = false ∧ ∀ c', (dev.ch c').head_blk_ctl = none := by
  have hstep : startScript[ctlStep c]? = some
      ⟨.allocateCtlBlock c, some (dxeFreeCtlBlks ++ outFreeDxePool)⟩ := by
    cases c <;> rfl
  have hnot : .allocateCtlBlock c ∉ (startScript.take (ctlStep c)).map Instr.op := by
    cases c <;> decide
  obtain ⟨l, hl, hring⟩ := dev.follow_ctl c
  obtain ⟨dev₁, hhas, hstart⟩ := start_eq hstop h (startScript_split hstep) hnot hl
  obtain ⟨dev', ret, hrun, -⟩ := hclean
  rw [hstart, runScript] at hrun
  obtain ⟨⟨dev₂, r⟩, hexec, hrun⟩ := Option.bind_eq_some_iff.mp hrun
  obtain ⟨⟨ch, r'⟩, hch, heq⟩ := Option.map_eq_some_iff.mp hexec
  rw [Prod.mk.injEq] at heq
  obtain ⟨rfl, rfl⟩ := heq
  -- The ring of the channel is as before the call.
  have hc := hring c
  rw [if_neg (Nat.lt_irrefl _)] at hc
  have hnum : ∀ c', ctlStep c ≤ ctlStep c' → (dev₁.ch c').desc_num = n.num c' := by
    intro c' hle
    have hhas' := hhas.ring c'
    rw [hring c', if_neg (by omega)] at hhas'
    split_ifs at hhas'
    · exact hhas'.2.2.2 rfl
    · exact hhas'.2.2.2 rfl
  have hn : 2 ≤ (dev₁.ch c).desc_num := by
    rw [hnum c (Nat.le_refl _)]
    exact n.two_le c
  obtain ⟨i, hi, hki⟩ : ∃ i, i < (dev₁.ch c).desc_num ∧ env.kzalloc c i = false := by
    have hfail := succeeds_failure h
    obtain ⟨i, hi, hki⟩ := List.all_eq_false.mp hfail
    rw [hnum c (Nat.le_refl _)]
    exact ⟨i, List.mem_range.mp hi, Bool.eq_false_iff.mpr hki⟩
  obtain ⟨hret, hdesc, hhead⟩ := dxeAllocateCtlBlock_error hn ⟨i, hi, hki⟩ hch
  simp only [if_neg hret] at hrun
  obtain ⟨d, hd, -⟩ := Option.map_eq_some_iff.mp hrun
  have hnull : ∀ c', 0 < ((dev₁.setCh c ch).ch c').desc_num →
      ((dev₁.setCh c ch).ch c').head_blk_ctl = none := by
    intro c' hpos
    by_contra hne
    rw [runOps_freeCtlBlks_twice hne hpos] at hd
    cases hd
  obtain ⟨hzero, hhead₁⟩ := hhead (by
    have hself := hnull c (by rw [Dev.ch_setCh, hdesc]; omega)
    rwa [Dev.ch_setCh] at hself)
  have hnull₁ : ∀ c', 0 < (dev₁.ch c').desc_num → (dev₁.ch c').head_blk_ctl = none := by
    intro c' hpos
    rcases eq_or_ne c' c with rfl | hne
    · exact hhead₁
    · have hother := hnull c'
      rw [dev₁.ch_setCh_ne hne] at hother
      exact hother hpos
  -- A ring that has already been allocated would be freed twice.
  have hfirst : ∀ c', ctlStep c ≤ ctlStep c' := by
    intro c'
    by_contra hlt
    have hhas' := hhas.ring c'
    rw [hring c', if_pos (by omega)] at hhas'
    obtain ⟨base, htaken, -⟩ := hhas'
    have hnone := hnull₁ c' htaken.ring.pos
    rw [htaken.head] at hnone
    cases hnone
  have hcL : c = .txL := by
    have hle := hfirst .txL
    cases c with
    | txL => rfl
    | txH | rxL | rxH => exact absurd hle (by decide)
  refine ⟨hcL, hzero, fun c' => ?_⟩
  by_contra hne
  have hhas' := hhas.ring c'
  have hstale : dev.ledger.ring c' = .stale false := if_neg hne
  have hle := hfirst c'
  rw [hring c', if_neg (by omega), hstale, if_neg (by decide)] at hhas'
  refine hhas'.1 (hnull₁ c' ?_)
  rw [hhas'.2.2.2 rfl]
  have htwo := n.two_le c'
  omega

/-- Without descriptors for a receive channel `wcn36xx_start` does not come to an end. -/
theorem start_eq_none_of_rx (hstop : dev.Stopped) (is_low : Bool)
    (h : startFailure n env = some (.initDescs (rxType is_low))) : start n env dev = none := by
  obtain ⟨i, hi⟩ : ∃ i, i = if is_low then 25 else 28 := ⟨_, rfl⟩
  have hstep : startScript[i]? = some (.plain (.initDescs (rxType is_low))) := by
    rw [hi]
    cases is_low <;> rfl
  have hnot : .initDescs (rxType is_low) ∉ (startScript.take i).map Instr.op := by
    rw [hi]
    cases is_low <;> decide
  have hrest : ∃ rest, startScript.drop (i + 1) =
      .plain (.chAllocSkb is_low) :: .plain (.programRx is_low) :: rest := by
    rw [hi]
    cases is_low <;> exact ⟨_, rfl⟩
  obtain ⟨l, hl, hbare⟩ : ∃ l, dev.ledger.follow ((startScript.take i).map Instr.op) = some l ∧
      l.ring (rxType is_low) = .bare := by
    rw [dev.ledger_eq, hi]
    obtain ⟨l, hl, hcond⟩ := (Option.any_eq_true _ _).mp ((follow_table _ _ _ _ _ _).2.2.2 is_low)
    exact ⟨l, hl, beq_iff_eq.mp hcond⟩
  obtain ⟨dev₁, hhas, hstart⟩ := start_eq hstop h (startScript_split hstep) hnot hl
  have hring := hhas.ring (rxType is_low)
  have hch := dev₁.ch_rxType is_low
  rw [hbare, hch] at hring
  obtain ⟨base, htaken, hbareAt⟩ := hring
  have hnone : env.coherent (rxType is_low) = none := by
    have hfail := succeeds_failure h
    have hrx : (rxType is_low).isRx = true := by cases is_low <;> rfl
    have hsome : (env.coherent (rxType is_low)).isSome = false := by
      simpa [CallEnv.succeeds, hrx] using hfail
    exact Option.isNone_iff_eq_none.mp (by rw [← Option.not_isSome, hsome]; rfl)
  obtain ⟨rest, hrest⟩ := hrest
  rw [hstart, hrest]
  exact runScript_rx_without_descs htaken.ring hbareAt hnone rest

/-- When nothing fails, the whole script runs. -/
theorem failsCleanly_of_no_failure (hstop : dev.Stopped) (h : startFailure n env = none) :
    FailsCleanly n env dev := by
  have hfollow : (dev.ledger.follow (startScript.map Instr.op)).isSome = true := by
    rw [dev.ledger_eq]
    exact (follow_table _ _ _ _ _ _).1
  obtain ⟨l, hl⟩ := Option.isSome_iff_exists.mp hfollow
  have hok : ∀ i ∈ startScript, env.succeeds n i.op = true := by
    intro i hi
    have hnone := List.find?_eq_none.mp h i.op (List.mem_map_of_mem hi)
    simpa using hnone
  obtain ⟨dev', hrun, -⟩ := runScript_ledger hstop (fun _ hi => hi) hok hl
  exact ⟨dev', 0, hrun, fun hne => absurd rfl hne⟩

/-- A call of `wcn36xx_start` on a stopped device comes to an end and, if it returns an error, has released
exactly what it has acquired, if and only if nothing fails or what fails first is one of the failures of
`CleanStart`. -/
theorem failsCleanly_iff (n : RingSizes) (env : CallEnv) {dev : Dev} (hstop : dev.Stopped) :
    FailsCleanly n env dev ↔ CleanStart n env dev := by
  unfold CleanStart
  cases h : startFailure n env with
  | none =>
    simp only [iff_true]
    exact failsCleanly_of_no_failure hstop h
  | some op =>
    have hfail := succeeds_failure h
    have hledger := dev.ledger_eq
    -- What is cleaned up, and what leaks, by the place in `wcn36xx_start`.
    have hclean : ∀ {i : ℕ} {label : List LifeOp}, startScript[i]? = some ⟨op, some label⟩ →
        op ∉ (startScript.take i).map Instr.op → env.FailsFirst op →
        i ∈ [0, 2, 15, 16] → FailsCleanly n env dev := by
      intro i label hstep hnot hfirst hi
      refine failsCleanly_of_balanced hstop h hstep hnot hfirst ?_
      rw [hledger]
      exact (failAt_table _ _ _ _ _ _).1 i hi
    have hleaks : ∀ {i : ℕ} {label : List LifeOp}, startScript[i]? = some ⟨op, some label⟩ →
        op ∉ (startScript.take i).map Instr.op → env.FailsFirst op →
        i ∈ [14, 31, 32] → ¬FailsCleanly n env dev := by
      intro i label hstep hnot hfirst hi
      refine not_failsCleanly_of_leaks hstop h hstep hnot hfirst ?_
      rw [hledger]
      exact (failAt_table _ _ _ _ _ _).2.1 i hi
    cases op with
    | createWorkqueue =>
      simp only [iff_true]
      exact hclean (i := 0) rfl (by decide) trivial (by decide)
    | ctrlOpen =>
      exact ⟨msm_wq_of_failsCleanly hstop h,
        fun hwq => hclean (i := 2) rfl (by decide) hwq (by decide)⟩
    | smd req =>
      simp only [iff_true]
      cases req with
      | loadNv => exact hclean (i := 15) rfl (by decide) trivial (by decide)
      | start => exact hclean (i := 16) rfl (by decide) trivial (by decide)
      | featureCapsExchange | updateCfg | stop => cases hfail
    | allocateMemPool is_low =>
      cases is_low with
      | false =>
        constructor
        · intro hclean
          exact ⟨null_of_failsCleanly hstop h hclean false nofun,
            null_of_failsCleanly hstop h hclean true nofun⟩
        · rintro ⟨hmgmt, hdata⟩
          refine failsCleanly_of_balanced (i := 3) hstop h rfl (by decide) trivial ?_
          rw [hledger]
          exact (failAt_table _ _ _ _ _ _).2.2.1 (decide_eq_true hmgmt) (decide_eq_true hdata)
      | true =>
        constructor
        · intro hclean
          exact null_of_failsCleanly hstop h hclean true fun _ => rfl
        · intro hdata
          refine failsCleanly_of_balanced (i := 4) hstop h rfl (by decide) trivial ?_
          rw [hledger]
          exact (failAt_table _ _ _ _ _ _).2.2.2.1 (decide_eq_true hdata)
    | allocateCtlBlock c =>
      constructor
      · intro hclean
        obtain ⟨rfl, hzero, hnull⟩ := ctl_of_failsCleanly hstop h hclean
        exact ⟨hzero, hnull⟩
      · intro hcond
        cases c with
        | txL =>
          obtain ⟨hzero, hnull⟩ := hcond
          refine failsCleanly_of_balanced (i := 9) hstop h rfl (by decide) hzero ?_
          rw [hledger]
          exact (failAt_table _ _ _ _ _ _).2.2.2.2 (decide_eq_true (hnull _))
            (decide_eq_true (hnull _)) (decide_eq_true (hnull _)) (decide_eq_true (hnull _))
        | txH | rxL | rxH => exact hcond.elim
    | kmallocHalBuf =>
      simp only [iff_false]
      exact hleaks (i := 14) rfl (by decide) trivial (by decide)
    | requestIrq irq =>
      simp only [iff_false]
      cases irq with
      | tx => exact hleaks (i := 31) rfl (by decide) trivial (by decide)
      | rx => exact hleaks (i := 32) rfl (by decide) trivial (by decide)
    | initDescs c =>
      simp only [iff_false]
      rintro ⟨dev', ret, hstart, -⟩
      cases c with
      | txL | txH => cases hfail
      | rxL =>
        rw [start_eq_none_of_rx hstop true h] at hstart
        cases hstart
      | rxH =>
        rw [start_eq_none_of_rx hstop false h] at hstart
        cases hstart
    | _ => cases hfail

/-- Without memory for `hal_buf`, `wcn36xx_start` leaves both BD pools allocated. -/
theorem failsCleanly_fails_without_hal_buf :
    ¬∀ (n : RingSizes) (env : CallEnv) (dev : Dev), dev.Stopped → FailsCleanly n env dev := by
  intro hall
  have hfailure : startFailure driverSizes { hal_buf := false } = some .kmallocHalBuf := by
    decide +kernel
  refine not_failsCleanly_of_leaks (i := 14) Dev.stopped_init hfailure rfl (by decide) trivial ?_
    (hall driverSizes { hal_buf := false } {} Dev.stopped_init)
  rw [Dev.ledger_eq]
  exact (failAt_table _ _ _ _ _ _).2.1 14 (by decide)

/-- On the first start, a download of the NV file that times out. -/
theorem failsCleanly_iff_of_load_nv :
    startFailure driverSizes { smd := fun _ => -ETIME } = some (.smd .loadNv) ∧
      FailsCleanly driverSizes { smd := fun _ => -ETIME } {} := by
  have hfailure : startFailure driverSizes { smd := fun _ => -ETIME } = some (.smd .loadNv) := by
    decide +kernel
  refine ⟨hfailure, (failsCleanly_iff _ _ Dev.stopped_init).mpr ?_⟩
  unfold CleanStart
  rw [hfailure]
  trivial

end Iff

end Wcn36xx
