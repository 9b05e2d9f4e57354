import Wcn36xx.Main.Lifecycle

/-!
# What a start holds

A `Ledger` is the account of an uninterrupted call of `wcn36xx_start`: which resources it has acquired and
not released. `Ledger.Has` ties it to the device, relative to the device before the call, and is exact:
what the ledger does not list is as it was before. `Ledger.post` and `Ledger.fail` are undefined where
the source would release what it does not hold, and `ledger_post` and `ledger_fail` show that where they
are defined `exec` does not fault and does what they say.
-/

namespace Wcn36xx

/-! ## What a device holds -/

/-- How often `dma_map_single` has been called for a receive buffer, less how often the buffer has been
handed to mac80211 or freed. -/
def RxState.balance (s : RxState) (ptr : ℕ) : ℤ :=
  (s.log.map fun
    | .dmaMap skb => if skb.ptr = ptr then 1 else 0
    | .rxSkb skb | .kfreeSkb skb => if skb.ptr = ptr then -1 else 0
    | .dmaUnmap _ | .writeRegister _ _ => 0).sum

/-- Two devices hold the same resources: the workqueue for indications, the channel and the workqueue of the
platform layer, the interrupts, the BD pools, `hal_buf` and the descriptor arrays, the control blocks of the
four rings, and the receive buffers. -/
structure SameHeld (dev dev' : Dev) : Prop where
  hal_ind_wq : dev'.hal_ind_wq = dev.hal_ind_wq
  smd_open : dev'.smd_open = dev.smd_open
  msm : dev'.msm.mem.cells = dev.msm.mem.cells
  irq : ∀ irq, dev'.irq irq = dev.irq irq
  mem : dev'.mem.cells = dev.mem.cells
  ctl : ∀ c p, ((dev'.ch c).ctl p).isSome = ((dev.ch c).ctl p).isSome
  rx : ∀ is_low ptr, (dev'.rx is_low).balance ptr = (dev.rx is_low).balance ptr

/-- A device that is not started: the channel is closed, there is no workqueue, no interrupt is
requested. No control block is at an address that `kzalloc` has not returned yet. -/
structure Dev.Stopped (dev : Dev) : Prop where
  hal_ind_wq : dev.hal_ind_wq = false
  smd_open : dev.smd_open = false
  irq : ∀ irq, dev.irq irq = false
  fresh : ∀ c p, (dev.ch c).fresh ≤ p → (dev.ch c).ctl p = none

/-- Before the first start. -/
theorem Dev.stopped_init : ({} : Dev).Stopped where
  hal_ind_wq := rfl
  smd_open := rfl
  irq irq := by cases irq <;> rfl
  fresh c _ _ := by cases c <;> rfl

/-! ## Ledgers -/

/-- A pointer of the driver that is only assigned when something is allocated. -/
inductive Held where
  /-- It is null. -/
  | null
  /-- It is not null, and what it points to is not accounted for. -/
  | stale
  | held
  deriving DecidableEq, Repr

/-- How far the ring of a channel is. -/
inductive RingHeld where
  /-- `head_blk_ctl` is null. -/
  | null (configured : Bool)
  /-- `head_blk_ctl` is left from a ring that has been freed. -/
  | stale (configured : Bool)
  /-- The control blocks are allocated. -/
  | bare
  /-- `wcn36xx_dxe_init_descs` has run, with or without success. -/
  | initialized
  /-- Each control block has its descriptor. -/
  | described
  /-- The control blocks have been freed. -/
  | released
  deriving DecidableEq, Repr

/-- A channel is for receiving. -/
def DxeChType.isRx : DxeChType → Bool
  | .txL | .txH => false
  | .rxL | .rxH => true

/-- The account of a call. -/
structure Ledger where
  wq : Bool := false
  smd : Bool := false
  irq : Irq → Bool := fun _ => false
  /-- `hal_ind_work` is neither pending nor running. -/
  idle : Bool := false
  /-- The BD pools of the TX channels. -/
  pool : Bool → Held
  hal_buf : Bool := false
  ring : DxeChType → RingHeld
  /-- `wcn36xx_dxe_init_descs` may have allocated descriptors. -/
  descs : Bool := false
  /-- The descriptors of a receive channel are held. -/
  rxDescs : Bool := false
  /-- Receive buffers may have been allocated. -/
  skbs : Bool := false

/-- The control blocks of a ring at `base` have been allocated, and no others. -/
structure RingTaken (ch₀ ch : DxeCh) (base : ℕ) : Prop where
  ring : RingAt ch base
  head : ch.head_blk_ctl = some base
  new : ∀ p, base ≤ p → ch₀.ctl p = none
  old : ∀ p, ¬(base ≤ p ∧ p < base + ch.desc_num) →
    (ch.ctl p).isSome = (ch₀.ctl p).isSome

/-- What the account of a ring says, with `ch₀` the channel before the call. -/
def RingHeld.Has (num : ℕ) (ch₀ ch : DxeCh) : RingHeld → Prop
  | .null configured => ch.head_blk_ctl = none ∧ ch.ctl = ch₀.ctl ∧ ch.fresh = ch₀.fresh ∧
    (configured = true → ch.desc_num = num)
  | .stale configured => ch.head_blk_ctl ≠ none ∧ ch.ctl = ch₀.ctl ∧ ch.fresh = ch₀.fresh ∧
    (configured = true → ch.desc_num = num)
  | .bare => ∃ base, RingTaken ch₀ ch base ∧ BareAt ch base
  | .initialized => ∃ base, RingTaken ch₀ ch base
  | .described => ∃ base, RingTaken ch₀ ch base ∧ DescribedAt ch base
  | .released => ∀ p, (ch.ctl p).isSome = (ch₀.ctl p).isSome

/-- A BD pool that has been allocated since `dev₀`. -/
def PoolTaken (n : RingSizes) (dev₀ dev : Dev) (is_low : Bool) : Prop :=
  (dev.pool is_low).chunk_size = bdChunkSize ∧ dev₀.mem.next ≤ (dev.pool is_low).virt_addr ∧
    dev.mem.cells (dev.pool is_low).virt_addr =
      some (.coherent (bdChunkSize * n.num (txType is_low)))

/-- What the account of a BD pool says. -/
def Held.HasPool (n : RingSizes) (dev₀ dev : Dev) (is_low : Bool) : Held → Prop
  | .null => (dev.pool is_low).virt_addr = 0
  | .stale => (dev.pool is_low).virt_addr ≠ 0
  | .held => PoolTaken n dev₀ dev is_low

namespace Ledger

/-- What a ledger says of the heap and the pointers into it. -/
structure HasMem (n : RingSizes) (dev₀ : Dev) (l : Ledger) (dev : Dev) : Prop where
  next : dev₀.mem.next ≤ dev.mem.next
  pool : ∀ is_low, (l.pool is_low).HasPool n dev₀ dev is_low
  pools_ne : l.pool false = .held → l.pool true = .held →
    (dev.pool false).virt_addr ≠ (dev.pool true).virt_addr
  hal_buf : l.hal_buf = true → dev₀.mem.next ≤ dev.hal_buf ∧
    dev.mem.cells dev.hal_buf = some (.kmalloc WCN36XX_HAL_BUF_SIZE)
  old : l.descs = false → ∀ p,
    (∀ is_low, l.pool is_low = .held → p ≠ (dev.pool is_low).virt_addr) →
    (l.hal_buf = true → p ≠ dev.hal_buf) → dev.mem.cells p = dev₀.mem.cells p
  rxDescs : l.rxDescs = true → ∃ p size, dev₀.mem.next ≤ p ∧
    dev.mem.cells p = some (.coherent size) ∧ ∀ is_low, p ≠ (dev.pool is_low).virt_addr

/-- What a ledger says of the platform layer: when the channel is open, the channel and a workqueue have
been created since `msm₀`, and there is nothing else. -/
structure HasMsm (msm₀ : MsmCtrl) (l : Ledger) (msm : MsmCtrl) : Prop where
  next : msm₀.mem.next ≤ msm.mem.next
  wq : l.smd = true → msm₀.mem.next ≤ msm.wq ∧ msm.mem.cells msm.wq = some .workqueue
  smd_ch : l.smd = true → msm₀.mem.next ≤ msm.smd_ch ∧ msm.mem.cells msm.smd_ch = some .channel
  old : ∀ p, (l.smd = true → p ≠ msm.wq ∧ p ≠ msm.smd_ch) → msm.mem.cells p = msm₀.mem.cells p

/-- What a ledger says of the device, with `dev₀` the device before the call. -/
structure Has (n : RingSizes) (dev₀ : Dev) (l : Ledger) (dev : Dev) : Prop where
  wq : dev.hal_ind_wq = l.wq
  smd : dev.smd_open = l.smd
  msm : l.HasMsm dev₀.msm dev.msm
  irq : ∀ irq, dev.irq irq = l.irq irq
  idle : l.idle = true → dev.ind.pending = false ∧ dev.ind.worker = .idle
  mem : l.HasMem n dev₀ dev
  ring : ∀ c, (l.ring c).Has (n.num c) (dev₀.ch c) (dev.ch c)
  log : l.skbs = false → ∀ is_low, (dev.rx is_low).log = (dev₀.rx is_low).log

/-- Nothing is held. -/
def balanced (l : Ledger) : Bool :=
  !l.wq && !l.smd && !l.irq .tx && !l.irq .rx && l.pool false != .held && l.pool true != .held &&
    !l.hal_buf && !l.descs && !l.skbs &&
    [DxeChType.txL, .txH, .rxL, .rxH].all fun c =>
      match l.ring c with
      | .null _ | .stale _ | .released => true
      | .bare | .initialized | .described => false

/-- A BD pool, or the descriptors of a receive channel, are held. -/
def leaks (l : Ledger) : Bool := l.pool false == .held || l.pool true == .held || l.rxDescs

/-- Set the account of a ring. -/
def setRing (l : Ledger) (c : DxeChType) (r : RingHeld) : Ledger :=
  { l with ring := Function.update l.ring c r }

/-- Set the account of a BD pool. -/
def setPool (l : Ledger) (is_low : Bool) (a : Held) : Ledger :=
  { l with pool := Function.update l.pool is_low a }

@[simp]
theorem setRing_self (l : Ledger) (c : DxeChType) (r : RingHeld) : (l.setRing c r).ring c = r :=
  Function.update_self ..

theorem setRing_ne (l : Ledger) {c c' : DxeChType} (h : c' ≠ c) (r : RingHeld) :
    (l.setRing c r).ring c' = l.ring c' := Function.update_of_ne h ..

@[simp]
theorem setPool_self (l : Ledger) (is_low : Bool) (a : Held) : (l.setPool is_low a).pool is_low = a :=
  Function.update_self ..

theorem setPool_ne (l : Ledger) {b is_low : Bool} (h : b ≠ is_low) (a : Held) :
    (l.setPool is_low a).pool b = l.pool b := Function.update_of_ne h ..

/-- The ledger after an operation that has succeeded. -/
def post (l : Ledger) : LifeOp → Option Ledger
  | .createWorkqueue => some { l with wq := true }
  | .initInd => some { l with idle := true }
  | .ctrlOpen => if l.smd then none else some { l with smd := true }
  | .ctrlClose => if l.smd then some { l with smd := false } else none
  | .destroyWorkqueue => if l.wq && l.idle then some { l with wq := false } else none
  | .destroyIndMutex | .smsmChangeState | .smd _ | .initVifList | .initDxeLock => some l
  | .allocateMemPool is_low =>
    if l.pool is_low = .held then none else some (l.setPool is_low .held)
  | .freeMemPool is_low =>
    match l.pool is_low with
    | .null => some l
    | .stale => none
    | .held => some (l.setPool is_low .stale)
  | .configure c =>
    match l.ring c with
    | .null _ => some (l.setRing c (.null true))
    | .stale _ => some (l.setRing c (.stale true))
    | _ => none
  | .allocateCtlBlock c =>
    match l.ring c with
    | .null true | .stale true => some (l.setRing c .bare)
    | _ => none
  | .freeCtlBlock c =>
    match l.ring c with
    | .null _ => some l
    | .bare | .initialized | .described => some (l.setRing c .released)
    | .stale _ | .released => none
  | .kmallocHalBuf => if l.hal_buf then none else some { l with hal_buf := true }
  | .kfreeHalBuf => if l.hal_buf then some { l with hal_buf := false } else none
  | .initDescs c =>
    if l.ring c = .bare ∧ l.pool false = .held ∧ l.pool true = .held then
      some { l.setRing c (if c.isRx then .described else .initialized) with
        descs := true, rxDescs := l.rxDescs || c.isRx }
    else none
  | .initTxBd is_low | .programTx is_low =>
    if l.ring (txType is_low) = .initialized then some l else none
  | .chAllocSkb is_low =>
    if l.ring (rxType is_low) = .described then some { l with skbs := true } else none
  | .programRx is_low => if l.ring (rxType is_low) = .described then some l else none
  | .requestIrq irq => some { l with irq := Function.update l.irq irq true }
  | .freeIrq irq => if l.irq irq then some { l with irq := Function.update l.irq irq false } else none
  | .chFreeSkbs _ | .deinitTxAck | .destroyHalMutex => none

/-- The ledger after an operation that has returned an error. `wcn36xx_dxe_allocate_ctl_block` fails at its
first `kzalloc`, and `ctrl_ops->open` at its workqueue. -/
def fail (l : Ledger) : LifeOp → Option Ledger
  | .createWorkqueue => some { l with wq := false }
  | .ctrlOpen => if l.smd then none else some l
  | .allocateMemPool is_low => if l.pool is_low = .held then none else some l
  | .allocateCtlBlock c => if l.ring c = .null true then some l else none
  | .kmallocHalBuf => if l.hal_buf then none else some l
  | .smd _ | .requestIrq _ => some l
  | _ => none

/-- The ledger after operations that all succeed. -/
def follow (l : Ledger) (ops : List LifeOp) : Option Ledger := ops.foldlM post l

end Ledger

/-! ## What the environment answers -/

/-- Whether an operation of `wcn36xx_start` succeeds. `wcn36xx_start` does not look at the other results, and
without descriptors a TX channel is only silent. -/
def CallEnv.succeeds (n : RingSizes) (env : CallEnv) : LifeOp → Bool
  | .createWorkqueue => env.wq
  | .ctrlOpen => env.ctrl_open.result == 0
  | .allocateMemPool is_low => (env.mem_pool is_low).isSome
  | .allocateCtlBlock c => (List.range (n.num c)).all (env.kzalloc c)
  | .kmallocHalBuf => env.hal_buf
  | .smd .loadNv => env.smd .loadNv == 0
  | .smd .start => env.smd .start == 0
  | .initDescs c => !c.isRx || (env.coherent c).isSome
  | .requestIrq irq => env.irq irq == 0
  | _ => true

/-- Whether an operation of `wcn36xx_start` that fails does so at the first of the calls that it makes. -/
def CallEnv.FailsFirst (env : CallEnv) : LifeOp → Prop
  | .allocateCtlBlock c => env.kzalloc c 0 = false
  | .ctrlOpen => env.ctrl_open.msm_wq = false
  | _ => True

/-! ## Rings -/

namespace RingTaken

variable {ch₀ ch ch' : DxeCh} {base : ℕ}

/-- A new ring of control blocks. -/
theorem allocated (hn : 2 ≤ ch.desc_num) (hctl : ch.ctl = ch₀.ctl) (hfresh : ch.fresh = ch₀.fresh)
    (hnew : ∀ p, ch₀.fresh ≤ p → ch₀.ctl p = none) :
    RingTaken ch₀ (allocatedCh ch ch.desc_num) ch.fresh where
  ring := ringAt_allocatedCh ch hn
  head := rfl
  new p hp := hnew p (hfresh ▸ hp)
  old p hp := by
    have hout : ¬(ch.fresh ≤ p ∧ p < ch.fresh + ch.desc_num) := hp
    simp only [allocatedCh, if_neg hout, hctl]

/-- Loops over the ring leave it where it is. -/
theorem moves (h : RingTaken ch₀ ch base) (hmoves : ch.Moves ch')
    (hhead : ch'.head_blk_ctl = ch.head_blk_ctl) : RingTaken ch₀ ch' base where
  ring := h.ring.moves hmoves
  head := hhead.trans h.head
  new := h.new
  old p hp := by
    rw [hmoves.desc_num] at hp
    rw [← h.old p hp, ← Option.isSome_map (f := DxeCtl.links), hmoves.links p, Option.isSome_map]

/-- `wcn36xx_dxe_free_ctl_block` frees it. -/
theorem free (h : RingTaken ch₀ ch base) : ∃ ch', dxeFreeCtlBlock ch = some ch' ∧
    ∀ p, (ch'.ctl p).isSome = (ch₀.ctl p).isSome := by
  obtain ⟨ch', hrun, -, hfreed, hkept⟩ := h.ring.free
  refine ⟨ch', hrun, fun p => ?_⟩
  by_cases hp : base ≤ p ∧ p < base + ch.desc_num
  · rw [hfreed p hp.1 hp.2, h.new p hp.1]
  · rw [hkept p hp, h.old p hp]

end RingTaken

/-! ## The heap -/

/-- The account of a BD pool only depends on the heap and its pointer. -/
theorem Held.HasPool.congr {n : RingSizes} {dev₀ dev dev' : Dev} {is_low : Bool} {a : Held}
    (h : a.HasPool n dev₀ dev is_low) (hmem : dev'.mem = dev.mem)
    (hpool : dev'.pool is_low = dev.pool is_low) : a.HasPool n dev₀ dev' is_low := by
  cases a <;> simp only [HasPool, PoolTaken, hmem, hpool] at h ⊢ <;> exact h

/-- A BD pool is not affected when something else is allocated. -/
theorem Held.HasPool.alloc {n : RingSizes} {dev₀ dev dev' : Dev} {is_low : Bool} {a : Held}
    {r : Region} (h : a.HasPool n dev₀ dev is_low) (hmem : dev'.mem = (dev.mem.alloc r).2)
    (hpool : dev'.pool is_low = dev.pool is_low) : a.HasPool n dev₀ dev' is_low := by
  cases a with
  | null | stale =>
    simp only [HasPool, hpool] at h ⊢
    exact h
  | held =>
    simp only [HasPool, PoolTaken, hmem, hpool] at h ⊢
    exact ⟨h.1, h.2.1, dev.mem.alloc_cells_of_some h.2.2⟩

/-- A BD pool is not affected when something else is freed. -/
theorem Held.HasPool.free {n : RingSizes} {dev₀ dev dev' : Dev} {is_low : Bool} {a : Held}
    {p : ℕ} {r : Region} (h : a.HasPool n dev₀ dev is_low)
    (hfree : dev.mem.free p r = some dev'.mem) (hpool : dev'.pool is_low = dev.pool is_low)
    (hne : a = .held → (dev.pool is_low).virt_addr ≠ p) : a.HasPool n dev₀ dev' is_low := by
  cases a with
  | null | stale =>
    simp only [HasPool, hpool] at h ⊢
    exact h
  | held =>
    simp only [HasPool, PoolTaken, hpool] at h ⊢
    refine ⟨h.1, h.2.1, ?_⟩
    rw [Support.Heap.free_cells_ne hfree (hne rfl)]
    exact h.2.2

namespace Ledger.HasMem

variable {n : RingSizes} {dev₀ dev dev' : Dev} {l l' : Ledger} (h : l.HasMem n dev₀ dev)
include h

/-- Neither the heap nor a pointer into it has changed. -/
theorem congr (hpool : l'.pool = l.pool) (hbuf : l'.hal_buf = l.hal_buf) (hdescs : l'.descs = l.descs)
    (hrx : l'.rxDescs = l.rxDescs) (hmem' : dev'.mem = dev.mem)
    (hpool' : ∀ is_low, dev'.pool is_low = dev.pool is_low) (hbuf' : dev'.hal_buf = dev.hal_buf) :
    l'.HasMem n dev₀ dev' where
  next := by
    rw [hmem']
    exact h.next
  pool is_low := by
    rw [hpool]
    exact (h.pool is_low).congr hmem' (hpool' is_low)
  pools_ne := by
    rw [hpool, hpool', hpool']
    exact h.pools_ne
  hal_buf := by
    rw [hbuf, hmem', hbuf']
    exact h.hal_buf
  old := by
    simp only [hpool, hbuf, hdescs, hmem', hpool', hbuf']
    exact h.old
  rxDescs := by
    simp only [hrx, hmem', hpool']
    exact h.rxDescs

/-- `hal_buf` is no BD pool. -/
theorem hal_buf_ne {p size : ℕ} (hbuf : l.hal_buf = true)
    (hp : dev.mem.cells p = some (.coherent size)) : dev.hal_buf ≠ p := by
  rintro rfl
  rw [(h.hal_buf hbuf).2] at hp
  cases hp

/-- An array of descriptors is allocated. -/
theorem allocDescs {size : ℕ} (hmem : dev'.mem = (dev.mem.alloc (.coherent size)).2)
    (hpool : ∀ is_low, dev'.pool is_low = dev.pool is_low) (hbuf : dev'.hal_buf = dev.hal_buf)
    (hl : l'.pool = l.pool) (hlbuf : l'.hal_buf = l.hal_buf) (hdescs : l'.descs = true)
    (hrx : l'.rxDescs = true → l.rxDescs = true ∨ ∀ is_low, l.pool is_low = .held) :
    l'.HasMem n dev₀ dev' where
  next := by
    rw [hmem, Support.Heap.alloc_next]
    exact Nat.le_succ_of_le h.next
  pool is_low := by
    rw [hl]
    exact (h.pool is_low).alloc hmem (hpool is_low)
  pools_ne := by
    rw [hl, hpool, hpool]
    exact h.pools_ne
  hal_buf hb := by
    rw [hlbuf] at hb
    obtain ⟨hnew, hcell⟩ := h.hal_buf hb
    rw [hbuf, hmem]
    exact ⟨hnew, dev.mem.alloc_cells_of_some hcell⟩
  old hd := by
    rw [hdescs] at hd
    cases hd
  rxDescs hr := by
    rcases hrx hr with hr | hheld
    · obtain ⟨p, size', hnew, hcell, hne⟩ := h.rxDescs hr
      refine ⟨p, size', hnew, ?_, fun is_low => ?_⟩
      · rw [hmem]
        exact dev.mem.alloc_cells_of_some hcell
      · rw [hpool]
        exact hne is_low
    · refine ⟨dev.mem.next, size, h.next, ?_, fun is_low => ?_⟩
      · rw [hmem, Support.Heap.alloc_cells, Function.update_self]
      · have htaken := h.pool is_low
        rw [hheld is_low] at htaken
        rw [hpool]
        exact (Nat.ne_of_lt (dev.mem.lt_next htaken.2.2)).symm

/-- A BD pool is allocated. -/
theorem allocPool {is_low : Bool} {phy_addr : BitVec 32} (hfree : l.pool is_low ≠ .held)
    (hdev : dev' = { dev with
        mem := (dev.mem.alloc (.coherent (bdChunkSize * n.num (txType is_low)))).2 }.setPool is_low
      ⟨bdChunkSize, dev.mem.next, phy_addr⟩) :
    (l.setPool is_low .held).HasMem n dev₀ dev' := by
  have hmem : dev'.mem =
      (dev.mem.alloc (.coherent (bdChunkSize * n.num (txType is_low)))).2 := by
    rw [hdev]
    cases is_low <;> rfl
  have hself : dev'.pool is_low = ⟨bdChunkSize, dev.mem.next, phy_addr⟩ := by
    rw [hdev]
    cases is_low <;> rfl
  have hother : ∀ b, b ≠ is_low → dev'.pool b = dev.pool b := by
    intro b hb
    rw [hdev]
    cases is_low <;> cases b <;> first | rfl | exact absurd rfl hb
  have hbuf : dev'.hal_buf = dev.hal_buf := by
    rw [hdev]
    cases is_low <;> rfl
  -- What was held before is below the new address.
  have hlt : ∀ b, l.pool b = .held → b ≠ is_low ∧ (dev.pool b).virt_addr < dev.mem.next := by
    intro b hb
    have htaken := h.pool b
    rw [hb] at htaken
    exact ⟨fun heq => hfree (heq ▸ hb), dev.mem.lt_next htaken.2.2⟩
  have hset : ∀ b, (l.setPool is_low .held).pool b = .held → b = is_low ∨ l.pool b = .held := by
    intro b hb
    rcases eq_or_ne b is_low with rfl | hne
    · exact Or.inl rfl
    · rw [l.setPool_ne hne] at hb
      exact Or.inr hb
  refine ⟨?_, fun b => ?_, fun hf ht => ?_, fun hb => ?_, fun hd p hp hpb => ?_, fun hr => ?_⟩
  · rw [hmem, Support.Heap.alloc_next]
    exact Nat.le_succ_of_le h.next
  · rcases eq_or_ne b is_low with rfl | hne
    · rw [setPool_self]
      simp only [Held.HasPool, PoolTaken, hself, hmem, Support.Heap.alloc_cells,
        Function.update_self]
      exact ⟨trivial, h.next, trivial⟩
    · rw [l.setPool_ne hne]
      exact (h.pool b).alloc hmem (hother b hne)
  · cases is_low with
    | false =>
      have htrue := hlt true ((hset true ht).resolve_left Bool.noConfusion)
      rw [hself, hother true htrue.1]
      exact (Nat.ne_of_lt htrue.2).symm
    | true =>
      have hfalse := hlt false ((hset false hf).resolve_left Bool.noConfusion)
      rw [hself, hother false hfalse.1]
      exact Nat.ne_of_lt hfalse.2
  · obtain ⟨hnew, hcell⟩ := h.hal_buf hb
    rw [hbuf, hmem]
    exact ⟨hnew, dev.mem.alloc_cells_of_some hcell⟩
  · have hne : p ≠ dev.mem.next := by
      have hself' := hp is_low (by rw [setPool_self])
      rwa [hself] at hself'
    rw [hmem, Support.Heap.alloc_cells, Function.update_of_ne hne]
    refine h.old hd p (fun b hb => ?_) fun hb => hbuf ▸ hpb hb
    obtain ⟨hne', -⟩ := hlt b hb
    rw [← hother b hne']
    exact hp b (by rw [l.setPool_ne hne', hb])
  · obtain ⟨p, size, hnew, hcell, hne⟩ := h.rxDescs hr
    refine ⟨p, size, hnew, ?_, fun b => ?_⟩
    · rw [hmem]
      exact dev.mem.alloc_cells_of_some hcell
    · rcases eq_or_ne b is_low with rfl | hb
      · rw [hself]
        exact Nat.ne_of_lt (dev.mem.lt_next hcell)
      · rw [hother b hb]
        exact hne b

/-- A BD pool is freed. -/
theorem freePool {is_low : Bool} (hheld : l.pool is_low = .held) {mem : Support.Heap Region}
    (hfree : dev.mem.free (dev.pool is_low).virt_addr
      (.coherent (bdChunkSize * n.num (txType is_low))) = some mem) :
    (l.setPool is_low .stale).HasMem n dev₀ { dev with mem := mem } := by
  obtain ⟨hcell, hnext, hcells⟩ := Support.Heap.free_eq_some hfree
  have hpool : ∀ b, ({ dev with mem := mem } : Dev).pool b = dev.pool b := by
    intro b
    cases b <;> rfl
  have htaken := h.pool is_low
  rw [hheld] at htaken
  obtain ⟨-, hnew, -⟩ := htaken
  have hne : ∀ b, b ≠ is_low → l.pool b = .held →
      (dev.pool b).virt_addr ≠ (dev.pool is_low).virt_addr := by
    intro b hb hbheld
    cases is_low <;> cases b
    · exact absurd rfl hb
    · exact (h.pools_ne hheld hbheld).symm
    · exact h.pools_ne hbheld hheld
    · exact absurd rfl hb
  refine ⟨?_, fun b => ?_, fun hf ht => ?_, fun hb => ?_, fun hd p hp hpb => ?_, fun hr => ?_⟩
  · exact hnext ▸ h.next
  · rcases eq_or_ne b is_low with rfl | hb
    · rw [setPool_self]
      have hpos : (dev.pool b).virt_addr ≠ 0 :=
        Nat.pos_iff_ne_zero.mp (Nat.lt_of_lt_of_le dev₀.mem.next_pos hnew)
      rw [Held.HasPool, hpool]
      exact hpos
    · rw [l.setPool_ne hb]
      exact (h.pool b).free hfree (hpool b) (hne b hb)
  · -- One of the two is stale now.
    cases is_low <;> simp [setPool] at hf ht
  · obtain ⟨hnewb, hcellb⟩ := h.hal_buf hb
    exact ⟨hnewb, (Support.Heap.free_cells_ne hfree (h.hal_buf_ne hb hcell)).trans hcellb⟩
  · rcases eq_or_ne p (dev.pool is_low).virt_addr with rfl | hpne
    · rw [dev₀.mem.cells_next _ hnew, hcells]
      exact Function.update_self ..
    · refine (Support.Heap.free_cells_ne hfree hpne).trans (h.old hd p (fun b hb => ?_) hpb)
      rcases eq_or_ne b is_low with rfl | hbne
      · exact hpne
      · rw [← hpool b]
        exact hp b (by rw [l.setPool_ne hbne, hb])
  · obtain ⟨p, size, hnewp, hcellp, hnep⟩ := h.rxDescs hr
    refine ⟨p, size, hnewp, ?_, fun b => ?_⟩
    · exact (Support.Heap.free_cells_ne hfree (hnep is_low)).trans hcellp
    · rw [hpool]
      exact hnep b

/-- `hal_buf` is allocated. -/
theorem allocHalBuf (hfree : l.hal_buf = false) :
    ({ l with hal_buf := true } : Ledger).HasMem n dev₀ { dev with
      mem := (dev.mem.alloc (.kmalloc WCN36XX_HAL_BUF_SIZE)).2, hal_buf := dev.mem.next } := by
  have hlt : ∀ b, l.pool b = .held → (dev.pool b).virt_addr < dev.mem.next := by
    intro b hb
    have htaken := h.pool b
    rw [hb] at htaken
    exact dev.mem.lt_next htaken.2.2
  refine ⟨Nat.le_succ_of_le h.next, fun b => ?_, h.pools_ne, fun _ => ?_, fun hd p hp hpb => ?_,
    fun hr => ?_⟩
  · exact (h.pool b).alloc rfl (by cases b <;> rfl)
  · exact ⟨h.next, Function.update_self ..⟩
  · refine (Function.update_of_ne (hpb rfl) ..).trans (h.old hd p (fun b hb => ?_) fun hb => ?_)
    · have hne := hp b hb
      cases b <;> exact hne
    · rw [hfree] at hb
      cases hb
  · obtain ⟨p, size, hnew, hcell, hne⟩ := h.rxDescs hr
    refine ⟨p, size, hnew, dev.mem.alloc_cells_of_some hcell, fun b => ?_⟩
    have hneb := hne b
    cases b <;> exact hneb

/-- `hal_buf` could not be allocated. -/
theorem noHalBuf (hfree : l.hal_buf = false) : l.HasMem n dev₀ { dev with hal_buf := 0 } := by
  refine ⟨h.next, fun b => (h.pool b).congr rfl (by cases b <;> rfl), h.pools_ne, fun hb => ?_,
    fun hd p hp _ => ?_, fun hr => ?_⟩
  · rw [hfree] at hb
    cases hb
  · refine h.old hd p (fun b hb => ?_) fun hb => ?_
    · have hne := hp b hb
      cases b <;> exact hne
    · rw [hfree] at hb
      cases hb
  · obtain ⟨p, size, hnew, hcell, hne⟩ := h.rxDescs hr
    refine ⟨p, size, hnew, hcell, fun b => ?_⟩
    have hneb := hne b
    cases b <;> exact hneb

/-- `hal_buf` is freed. -/
theorem freeHalBuf (hheld : l.hal_buf = true) {mem : Support.Heap Region}
    (hfree : dev.mem.free dev.hal_buf (.kmalloc WCN36XX_HAL_BUF_SIZE) = some mem) :
    ({ l with hal_buf := false } : Ledger).HasMem n dev₀ { dev with mem := mem } := by
  obtain ⟨-, hnext, hcells⟩ := Support.Heap.free_eq_some hfree
  have hpool : ∀ b, ({ dev with mem := mem } : Dev).pool b = dev.pool b := by
    intro b
    cases b <;> rfl
  refine ⟨hnext ▸ h.next, fun b => ?_, ?_, fun hb => ?_, fun hd p hp _ => ?_, fun hr => ?_⟩
  · refine (h.pool b).free hfree (hpool b) fun hb => ?_
    have htaken := h.pool b
    rw [hb] at htaken
    exact (h.hal_buf_ne hheld htaken.2.2).symm
  · exact h.pools_ne
  · cases hb
  · rcases eq_or_ne p dev.hal_buf with rfl | hpne
    · rw [dev₀.mem.cells_next _ (h.hal_buf hheld).1, hcells]
      exact Function.update_self ..
    · refine (Support.Heap.free_cells_ne hfree hpne).trans (h.old hd p (fun b hb => ?_) fun _ => hpne)
      rw [← hpool b]
      exact hp b hb
  · obtain ⟨p, size, hnewp, hcellp, hnep⟩ := h.rxDescs hr
    refine ⟨p, size, hnewp, ?_, fun b => ?_⟩
    · exact (Support.Heap.free_cells_ne hfree (h.hal_buf_ne hheld hcellp).symm).trans hcellp
    · rw [hpool]
      exact hnep b

end Ledger.HasMem

namespace Ledger.HasMsm

variable {msm₀ msm : MsmCtrl} {l l' : Ledger} (h : l.HasMsm msm₀ msm)
include h

/-- Neither the heap nor a pointer into it has changed. -/
theorem congr {msm' : MsmCtrl} (hl : l'.smd = l.smd) (hmem : msm'.mem = msm.mem)
    (hwq : l.smd = true → msm'.wq = msm.wq) (hch : l.smd = true → msm'.smd_ch = msm.smd_ch) :
    l'.HasMsm msm₀ msm' where
  next := by
    rw [hmem]
    exact h.next
  wq hs := by
    rw [hl] at hs
    rw [hwq hs, hmem]
    exact h.wq hs
  smd_ch hs := by
    rw [hl] at hs
    rw [hch hs, hmem]
    exact h.smd_ch hs
  old p hp := by
    rw [hl] at hp
    rw [hmem]
    refine h.old p fun hs => ?_
    rw [← hwq hs, ← hch hs]
    exact hp hs

/-- `wcn36xx_msm_smd_open` has returned 0. -/
theorem opened {env : MsmOpenEnv} (hl : l.smd = false) (hl' : l'.smd = true) (hret : env.result = 0) :
    l'.HasMsm msm₀ (msmSmdOpen env msm).1 := by
  obtain ⟨hmem, hwq, hch⟩ := msmSmdOpen_zero env msm hret
  have hnext := h.next
  refine ⟨?_, fun _ => ⟨?_, ?_⟩, fun _ => ⟨?_, ?_⟩, fun p hp => ?_⟩
  · rw [hmem, Support.Heap.alloc_next, Support.Heap.alloc_next]
    omega
  · rw [hwq]
    exact hnext
  · rw [hmem, hwq]
    refine Support.Heap.alloc_cells_of_some _ ?_
    rw [Support.Heap.alloc_cells, Function.update_self]
  · rw [hch]
    omega
  · rw [hmem, hch, Support.Heap.alloc_cells, Support.Heap.alloc_next, Function.update_self]
  · obtain ⟨hpwq, hpch⟩ := hp hl'
    rw [hwq] at hpwq
    rw [hch] at hpch
    rw [hmem, Support.Heap.alloc_cells, Support.Heap.alloc_next, Function.update_of_ne hpch,
      Support.Heap.alloc_cells, Function.update_of_ne hpwq]
    refine h.old p fun hs => ?_
    rw [hl] at hs
    cases hs

/-- `wcn36xx_msm_smd_close`. -/
theorem closed (hl : l.smd = true) (hl' : l'.smd = false) :
    ∃ msm', msmSmdClose msm = some msm' ∧ l'.HasMsm msm₀ msm' := by
  obtain ⟨hwqnew, hwq⟩ := h.wq hl
  obtain ⟨hchnew, hch⟩ := h.smd_ch hl
  obtain ⟨msm', hrun, hnext, hchnone, hwqnone, hkept⟩ := exists_msmSmdClose hch hwq
  have hfalse : ∀ {P : Prop}, l'.smd = true → P := by
    intro P hs
    rw [hl'] at hs
    cases hs
  refine ⟨msm', hrun, ⟨?_, hfalse, hfalse, fun p _ => ?_⟩⟩
  · rw [hnext]
    exact h.next
  -- What has been created since `msm₀` is gone, and nothing was there before.
  · by_cases hpch : p = msm.smd_ch
    · rw [hpch, hchnone, msm₀.mem.cells_next _ hchnew]
    · by_cases hpwq : p = msm.wq
      · rw [hpwq, hwqnone, msm₀.mem.cells_next _ hwqnew]
      · rw [hkept p hpch hpwq]
        exact h.old p fun _ => ⟨hpwq, hpch⟩

end Ledger.HasMsm

/-! ## The operations -/

/-- `wcn36xx_start` looks at what the operation returns. -/
def LifeOp.looked : LifeOp → Bool
  | .createWorkqueue | .ctrlOpen | .allocateMemPool _ | .allocateCtlBlock _ | .kmallocHalBuf
  | .smd .loadNv | .smd .start | .requestIrq _ => true
  | _ => false

/-- Two devices agree in the heap, the pointers into it, and the DMA channels. -/
structure SameStore (dev dev' : Dev) : Prop where
  mem : dev'.mem = dev.mem
  pool : ∀ is_low, dev'.pool is_low = dev.pool is_low
  hal_buf : dev'.hal_buf = dev.hal_buf
  ch : ∀ c, dev'.ch c = dev.ch c
  rx : ∀ is_low, dev'.rx is_low = dev.rx is_low

namespace Ledger.Has

variable {n : RingSizes} {dev₀ dev dev' : Dev} {l : Ledger} (h : l.Has n dev₀ dev)
include h

/-- Only what is outside of the heap and the channels changes. -/
theorem outside (hs : SameStore dev dev') {wq smd idle : Bool} {irq : Irq → Bool}
    (hwq : dev'.hal_ind_wq = wq) (hsmd : dev'.smd_open = smd)
    (hmsm : ({ l with smd := smd } : Ledger).HasMsm dev₀.msm dev'.msm)
    (hirq : ∀ i, dev'.irq i = irq i)
    (hidle : idle = true → dev'.ind.pending = false ∧ dev'.ind.worker = .idle) :
    ({ l with wq := wq, smd := smd, irq := irq, idle := idle } : Ledger).Has n dev₀ dev' where
  wq := hwq
  smd := hsmd
  msm := hmsm.congr rfl rfl (fun _ => rfl) fun _ => rfl
  irq := hirq
  idle := hidle
  mem := h.mem.congr rfl rfl rfl rfl hs.mem hs.pool hs.hal_buf
  ring c := by
    rw [hs.ch]
    exact h.ring c
  log hl is_low := by
    rw [hs.rx]
    exact h.log hl is_low

/-- An interrupt is requested or freed. -/
theorem setIrq (irq : Irq) (b : Bool) :
    ({ l with irq := Function.update l.irq irq b } : Ledger).Has n dev₀ (dev.setIrq irq b) := by
  have hs : SameStore dev (dev.setIrq irq b) := by
    constructor <;> intros <;> cases irq <;> rfl
  refine h.outside hs ?_ ?_ ?_ (fun i => ?_) ?_
  · cases irq <;> exact h.wq
  · cases irq <;> exact h.smd
  · cases irq <;> exact h.msm
  · have hi := h.irq i
    cases irq <;> cases i <;> first | rfl | exact hi
  · cases irq <;> exact h.idle

/-- A channel is written back. -/
theorem setCh {c : DxeChType} {ch : DxeCh} {r : RingHeld}
    (hr : r.Has (n.num c) (dev₀.ch c) ch) : (l.setRing c r).Has n dev₀ (dev.setCh c ch) where
  wq := by cases c <;> exact h.wq
  smd := by cases c <;> exact h.smd
  msm := by cases c <;> exact h.msm.congr rfl rfl (fun _ => rfl) fun _ => rfl
  irq i := by cases c <;> cases i <;> first | exact h.irq .tx | exact h.irq .rx
  idle hi := by cases c <;> exact h.idle hi
  mem := by
    refine h.mem.congr rfl rfl rfl rfl ?_ (fun is_low => ?_) ?_
    · cases c <;> rfl
    · cases c <;> cases is_low <;> rfl
    · cases c <;> rfl
  ring c' := by
    rcases eq_or_ne c' c with rfl | hne
    · rw [setRing_self, Dev.ch_setCh]
      exact hr
    · rw [l.setRing_ne hne, dev.ch_setCh_ne hne]
      exact h.ring c'
  log hl is_low := by
    have hlog := h.log hl is_low
    cases c <;> cases is_low <;> exact hlog

/-- The heap, or a pointer into it, changes. -/
theorem setMem {l' : Ledger} (hmem : l'.HasMem n dev₀ dev')
    (hdev : dev' = { dev with
      mem := dev'.mem, hal_buf := dev'.hal_buf, mgmt_mem_pool := dev'.mgmt_mem_pool
      data_mem_pool := dev'.data_mem_pool })
    (hl : l' = { l with
      pool := l'.pool, hal_buf := l'.hal_buf, descs := l'.descs, rxDescs := l'.rxDescs }) :
    l'.Has n dev₀ dev' where
  wq := by
    rw [hdev, hl]
    exact h.wq
  smd := by
    rw [hdev, hl]
    exact h.smd
  msm := by
    rw [hdev, hl]
    exact h.msm.congr rfl rfl (fun _ => rfl) fun _ => rfl
  irq i := by
    have hirq := h.irq i
    rw [hdev, hl]
    cases i <;> exact hirq
  idle hi := by
    rw [hl] at hi
    rw [hdev]
    exact h.idle hi
  mem := hmem
  ring c := by
    have hring := h.ring c
    rw [hdev, hl]
    cases c <;> exact hring
  log hs is_low := by
    rw [hl] at hs
    have hlog := h.log hs is_low
    rw [hdev]
    cases is_low <;> exact hlog

end Ledger.Has

section Sound

variable {n : RingSizes} {env : CallEnv} {dev₀ dev : Dev} {l l' : Ledger} {op : LifeOp}

/-- The workqueue, the channel and the interrupts. -/
theorem ledgerPost_caps (hop : op = .createWorkqueue ∨ op = .initInd ∨ op = .ctrlOpen ∨
      op = .ctrlClose ∨ op = .destroyWorkqueue ∨ (∃ irq, op = .requestIrq irq) ∨
      ∃ irq, op = .freeIrq irq)
    (hok : env.succeeds n op = true) (h : l.Has n dev₀ dev) (hpost : l.post op = some l') :
    ∃ dev', exec n env op dev = some (dev', 0) ∧ l'.Has n dev₀ dev' := by
  rcases hop with rfl | rfl | rfl | rfl | rfl | ⟨irq, rfl⟩ | ⟨irq, rfl⟩
  · have hwq : env.wq = true := hok
    have hs : SameStore dev { dev with hal_ind_wq := true } :=
      ⟨rfl, fun _ => rfl, rfl, fun _ => rfl, fun _ => rfl⟩
    rw [Ledger.post, Option.some.injEq] at hpost
    rw [← hpost, exec, hwq]
    exact ⟨_, rfl, h.outside hs rfl h.smd h.msm h.irq h.idle⟩
  · have hs : SameStore dev { dev with
        ind := { dev.ind with hal_ind_queue := [], pending := false, worker := .idle }
        hal_ind_mutex := true } :=
      ⟨rfl, fun _ => rfl, rfl, fun _ => rfl, fun _ => rfl⟩
    rw [Ledger.post, Option.some.injEq] at hpost
    rw [← hpost, exec]
    exact ⟨_, rfl, h.outside hs h.wq h.smd h.msm h.irq fun _ => ⟨rfl, rfl⟩⟩
  · have hopen : env.ctrl_open.result = 0 := beq_iff_eq.mp hok
    have hs : SameStore dev
        { dev with msm := (msmSmdOpen env.ctrl_open dev.msm).1, smd_open := true } :=
      ⟨rfl, fun _ => rfl, rfl, fun _ => rfl, fun _ => rfl⟩
    rw [Ledger.post] at hpost
    split_ifs at hpost with hsmd
    rw [Option.some.injEq] at hpost
    rw [← hpost]
    simp only [exec, msmSmdOpen_result, hopen]
    exact ⟨_, rfl, h.outside hs h.wq rfl (h.msm.opened (Bool.eq_false_iff.mpr hsmd) rfl hopen)
      h.irq h.idle⟩
  · rw [Ledger.post] at hpost
    split_ifs at hpost with hsmd
    rw [Option.some.injEq] at hpost
    obtain ⟨msm, hclose, hmsm⟩ : ∃ msm, msmSmdClose dev.msm = some msm ∧
      ({ l with smd := false } : Ledger).HasMsm dev₀.msm msm := h.msm.closed hsmd rfl
    have hs : SameStore dev { dev with msm := msm, smd_open := false } :=
      ⟨rfl, fun _ => rfl, rfl, fun _ => rfl, fun _ => rfl⟩
    rw [← hpost, exec, hclose, Option.map_some]
    exact ⟨_, rfl, h.outside hs h.wq rfl hmsm h.irq h.idle⟩
  · have hs : SameStore dev { dev with hal_ind_wq := false } :=
      ⟨rfl, fun _ => rfl, rfl, fun _ => rfl, fun _ => rfl⟩
    rw [Ledger.post] at hpost
    split_ifs at hpost with hwq
    rw [Option.some.injEq] at hpost
    obtain ⟨hheld, hidle⟩ := Bool.and_eq_true_iff.mp hwq
    have hready : dev.hal_ind_wq = true ∧ dev.ind.pending = false ∧ dev.ind.worker = .idle :=
      ⟨h.wq.trans hheld, h.idle hidle⟩
    rw [← hpost, exec, execDestroyWorkqueue, if_pos hready]
    exact ⟨_, rfl, h.outside hs rfl h.smd h.msm h.irq h.idle⟩
  · have hirq : env.irq irq = 0 := beq_iff_eq.mp hok
    rw [Ledger.post, Option.some.injEq] at hpost
    rw [← hpost, exec, if_pos hirq]
    exact ⟨_, rfl, h.setIrq irq true⟩
  · rw [Ledger.post] at hpost
    split_ifs at hpost with hheld
    rw [Option.some.injEq] at hpost
    rw [← hpost, exec, if_pos ((h.irq irq).trans hheld)]
    exact ⟨_, rfl, h.setIrq irq false⟩

/-- Operations that the ledger does not see. -/
theorem ledgerPost_other (hop : op = .destroyIndMutex ∨ op = .smsmChangeState ∨
      (∃ req, op = .smd req) ∨ op = .initVifList ∨ op = .initDxeLock)
    (hok : env.succeeds n op = true) (h : l.Has n dev₀ dev) (hpost : l.post op = some l') :
    ∃ dev' r, exec n env op dev = some (dev', r) ∧ (op.looked = true → r = 0) ∧
      l'.Has n dev₀ dev' := by
  have hl : l' = l := by
    rcases hop with rfl | rfl | ⟨req, rfl⟩ | rfl | rfl <;>
    · rw [Ledger.post, Option.some.injEq] at hpost
      exact hpost.symm
  -- Only fields that the ledger says nothing of change.
  have hsame : ∀ dev' : Dev, SameStore dev dev' ∧ dev'.hal_ind_wq = dev.hal_ind_wq ∧
      dev'.smd_open = dev.smd_open ∧ dev'.msm = dev.msm ∧ (∀ i, dev'.irq i = dev.irq i) ∧
      dev'.ind = dev.ind → l'.Has n dev₀ dev' := by
    rintro dev' ⟨hs, hwq, hsmd, hmsm, hirq, hind⟩
    rw [hl]
    exact h.outside hs (hwq.trans h.wq) (hsmd.trans h.smd) (hmsm ▸ h.msm)
      (fun i => (hirq i).trans (h.irq i)) (hind ▸ h.idle)
  rcases hop with rfl | rfl | ⟨req, rfl⟩ | rfl | rfl
  · refine ⟨_, _, rfl, fun _ => rfl, hsame _ ⟨?_, rfl, rfl, rfl, fun _ => rfl, rfl⟩⟩
    exact ⟨rfl, fun _ => rfl, rfl, fun _ => rfl, fun _ => rfl⟩
  · refine ⟨_, _, rfl, fun _ => rfl, hsame _ ⟨?_, rfl, rfl, rfl, fun _ => rfl, rfl⟩⟩
    exact ⟨rfl, fun _ => rfl, rfl, fun c => by cases c <;> rfl, fun _ => rfl⟩
  · cases req with
    | start =>
      refine ⟨_, _, rfl, fun _ => beq_iff_eq.mp hok, hsame _ ⟨?_, rfl, rfl, rfl, fun _ => rfl, rfl⟩⟩
      exact ⟨rfl, fun _ => rfl, rfl, fun _ => rfl, fun _ => rfl⟩
    | loadNv =>
      refine ⟨_, _, rfl, fun _ => beq_iff_eq.mp hok, hsame _ ⟨?_, rfl, rfl, rfl, fun _ => rfl, rfl⟩⟩
      exact ⟨rfl, fun _ => rfl, rfl, fun _ => rfl, fun _ => rfl⟩
    | featureCapsExchange | updateCfg | stop =>
      refine ⟨_, _, rfl, fun hb => Bool.noConfusion hb,
        hsame _ ⟨?_, rfl, rfl, rfl, fun _ => rfl, rfl⟩⟩
      exact ⟨rfl, fun _ => rfl, rfl, fun _ => rfl, fun _ => rfl⟩
  · refine ⟨_, _, rfl, fun _ => rfl, hsame _ ⟨?_, rfl, rfl, rfl, fun _ => rfl, rfl⟩⟩
    exact ⟨rfl, fun _ => rfl, rfl, fun c => by cases c <;> rfl, fun _ => rfl⟩
  · refine ⟨_, _, rfl, fun _ => rfl, hsame _ ⟨?_, rfl, rfl, rfl, fun _ => rfl, rfl⟩⟩
    exact ⟨rfl, fun _ => rfl, rfl, fun _ => rfl, fun _ => rfl⟩

/-- The BD pools and `hal_buf`. -/
theorem ledgerPost_mem (hop : (∃ is_low, op = .allocateMemPool is_low) ∨
      (∃ is_low, op = .freeMemPool is_low) ∨ op = .kmallocHalBuf ∨ op = .kfreeHalBuf)
    (hok : env.succeeds n op = true) (h : l.Has n dev₀ dev) (hpost : l.post op = some l') :
    ∃ dev', exec n env op dev = some (dev', 0) ∧ l'.Has n dev₀ dev' := by
  rcases hop with ⟨is_low, rfl⟩ | ⟨is_low, rfl⟩ | rfl | rfl
  · obtain ⟨phy_addr, hphy⟩ := Option.isSome_iff_exists.mp hok
    rw [Ledger.post] at hpost
    split_ifs at hpost with hfree
    rw [Option.some.injEq] at hpost
    rw [← hpost, exec, execAllocateMemPool, hphy]
    refine ⟨_, rfl, h.setMem (h.mem.allocPool hfree rfl) ?_ rfl⟩
    cases is_low <;> rfl
  · rw [Ledger.post] at hpost
    have hpool := h.mem.pool is_low
    split at hpost
    · rename_i hnull
      rw [Option.some.injEq] at hpost
      rw [hnull] at hpool
      have hzero : (dev.pool is_low).virt_addr = 0 := hpool
      simp only [← hpost, exec, execFreeMemPool, if_pos hzero, Option.map_some]
      exact ⟨_, rfl, h⟩
    · cases hpost
    · rename_i hheld
      rw [Option.some.injEq] at hpost
      rw [hheld] at hpool
      obtain ⟨hchunk, hnew, hcell⟩ := hpool
      have hpos : (dev.pool is_low).virt_addr ≠ 0 :=
        Nat.pos_iff_ne_zero.mp (Nat.lt_of_lt_of_le dev₀.mem.next_pos hnew)
      obtain ⟨mem, hfree, -⟩ := Support.Heap.exists_free hcell
      simp only [← hpost, exec, execFreeMemPool, if_neg hpos, hchunk, hfree, Option.map_some]
      exact ⟨_, rfl, h.setMem (h.mem.freePool hheld hfree) rfl rfl⟩
  · have hbuf : env.hal_buf = true := hok
    rw [Ledger.post] at hpost
    split_ifs at hpost with hfree
    rw [Option.some.injEq] at hpost
    rw [← hpost, exec, if_pos hbuf]
    exact ⟨_, rfl, h.setMem (h.mem.allocHalBuf (Bool.eq_false_iff.mpr hfree)) rfl rfl⟩
  · rw [Ledger.post] at hpost
    split_ifs at hpost with hheld
    rw [Option.some.injEq] at hpost
    obtain ⟨hnew, hcell⟩ := h.mem.hal_buf hheld
    have hpos : dev.hal_buf ≠ 0 :=
      Nat.pos_iff_ne_zero.mp (Nat.lt_of_lt_of_le dev₀.mem.next_pos hnew)
    obtain ⟨mem, hfree, -⟩ := Support.Heap.exists_free hcell
    rw [← hpost, exec, if_neg hpos, hfree, Option.map_some]
    exact ⟨_, rfl, h.setMem (h.mem.freeHalBuf hheld hfree) rfl rfl⟩

/-- The control blocks of the rings. -/
theorem ledgerPost_ctl {c : DxeChType} (hop : op = .configure c ∨ op = .allocateCtlBlock c ∨
      op = .freeCtlBlock c)
    (hnew : ∀ p, (dev₀.ch c).fresh ≤ p → (dev₀.ch c).ctl p = none)
    (hok : env.succeeds n op = true) (h : l.Has n dev₀ dev) (hpost : l.post op = some l') :
    ∃ dev', exec n env op dev = some (dev', 0) ∧ l'.Has n dev₀ dev' := by
  have hring := h.ring c
  rcases hop with rfl | rfl | rfl
  · -- Only fields that the ledger says nothing of change, and the number of descriptors.
    have hkeep : ∀ {ch : DxeCh}, ch = (dev.ch c).configure (n.num c) c →
        ch.desc_num = n.num c ∧ ch.head_blk_ctl = (dev.ch c).head_blk_ctl ∧
          ch.ctl = (dev.ch c).ctl ∧ ch.fresh = (dev.ch c).fresh := by
      rintro ch rfl
      cases c <;> exact ⟨rfl, rfl, rfl, rfl⟩
    obtain ⟨hnum, hhead, hctl, hfresh⟩ := hkeep rfl
    rw [Ledger.post] at hpost
    split at hpost
    · rename_i b hnull
      rw [Option.some.injEq] at hpost
      rw [hnull] at hring
      rw [← hpost, exec]
      exact ⟨_, rfl, h.setCh ⟨hhead.trans hring.1, hctl.trans hring.2.1, hfresh.trans hring.2.2.1,
        fun _ => hnum⟩⟩
    · rename_i b hstale
      rw [Option.some.injEq] at hpost
      rw [hstale] at hring
      rw [← hpost, exec]
      exact ⟨_, rfl, h.setCh ⟨hhead ▸ hring.1, hctl.trans hring.2.1, hfresh.trans hring.2.2.1,
        fun _ => hnum⟩⟩
    · cases hpost
  · have hmem : ∀ i, i < n.num c → env.kzalloc c i = true := by
      intro i hi
      exact List.all_eq_true.mp hok i (List.mem_range.mpr hi)
    -- The ring is built anew, wherever the head has been.
    have halloc : ∀ {ch : DxeCh}, ch = dev.ch c → ch.ctl = (dev₀.ch c).ctl →
        ch.fresh = (dev₀.ch c).fresh → ch.desc_num = n.num c →
        ∃ dev', exec n env (.allocateCtlBlock c) dev = some (dev', 0) ∧
          (l.setRing c .bare).Has n dev₀ dev' := by
      rintro ch rfl hctl hfresh hnum
      have hn : 2 ≤ (dev.ch c).desc_num := by
        rw [hnum]
        exact n.two_le c
      have hrun := dxeAllocateCtlBlock_ok (env.kzalloc c) (dev.ch c) hn (by
        rw [hnum]
        exact hmem)
      rw [exec, hrun, Option.map_some]
      exact ⟨_, rfl, h.setCh ⟨_, .allocated hn hctl hfresh hnew, bareAt_allocatedCh _ hn⟩⟩
    rw [Ledger.post] at hpost
    split at hpost
    · rename_i hnull
      rw [Option.some.injEq] at hpost
      rw [hnull] at hring
      rw [← hpost]
      exact halloc rfl hring.2.1 hring.2.2.1 (hring.2.2.2 rfl)
    · rename_i hstale
      rw [Option.some.injEq] at hpost
      rw [hstale] at hring
      rw [← hpost]
      exact halloc rfl hring.2.1 hring.2.2.1 (hring.2.2.2 rfl)
    · cases hpost
  · have hfree : ∀ {base : ℕ}, RingTaken (dev₀.ch c) (dev.ch c) base →
        ∃ dev', exec n env (.freeCtlBlock c) dev = some (dev', 0) ∧
          (l.setRing c .released).Has n dev₀ dev' := by
      intro base htaken
      obtain ⟨ch', hrun, hsame⟩ := htaken.free
      rw [exec, hrun, Option.map_some]
      exact ⟨_, rfl, h.setCh hsame⟩
    rw [Ledger.post] at hpost
    split at hpost
    · rename_i b hnull
      rw [Option.some.injEq] at hpost
      rw [hnull] at hring
      rw [← hpost, exec, dxeFreeCtlBlock_none hring.1, Option.map_some]
      refine ⟨_, rfl, ?_⟩
      have hset : dev.setCh c (dev.ch c) = dev := by cases c <;> rfl
      rw [hset]
      exact h
    · rename_i hbare
      rw [Option.some.injEq] at hpost
      rw [hbare] at hring
      obtain ⟨base, htaken, -⟩ := hring
      rw [← hpost]
      exact hfree htaken
    · rename_i hinit
      rw [Option.some.injEq] at hpost
      rw [hinit] at hring
      obtain ⟨base, htaken⟩ := hring
      rw [← hpost]
      exact hfree htaken
    · rename_i hdesc
      rw [Option.some.injEq] at hpost
      rw [hdesc] at hring
      obtain ⟨base, htaken, -⟩ := hring
      rw [← hpost]
      exact hfree htaken
    · cases hpost
    · cases hpost

/-- `wcn36xx_dxe_init_descs` on a ring that has been allocated. -/
theorem RingTaken.initDescs {ch₀ ch : DxeCh} {base : ℕ} (h : RingTaken ch₀ ch base)
    (cpu : ℕ × BitVec 32) : ∃ ch', dxeInitDescs (some cpu) ch = some (ch', 0) ∧
      RingTaken ch₀ ch' base ∧ DescribedAt ch' base := by
  obtain ⟨ch', hrun, hhead, hnum, hsome⟩ := h.ring.exists_initDescs h.head cpu
  obtain ⟨hring, hdesc, -⟩ := h.ring.initDescs hrun
  refine ⟨ch', hrun, ⟨hring, hhead, h.new, fun p hp => ?_⟩, hdesc⟩
  rw [hnum] at hp
  rw [hsome p, h.old p hp]

/-- The descriptors of the rings. -/
theorem ledgerPost_initDescs {c : DxeChType} (hok : env.succeeds n (.initDescs c) = true)
    (h : l.Has n dev₀ dev) (hpost : l.post (.initDescs c) = some l') :
    ∃ dev' r, exec n env (.initDescs c) dev = some (dev', r) ∧ l'.Has n dev₀ dev' := by
  rw [Ledger.post] at hpost
  obtain ⟨⟨hbare, hmgmt, hdata⟩, hpost⟩ := Option.ite_none_right_eq_some.mp hpost
  have hheld : ∀ is_low, l.pool is_low = .held := by
    intro is_low
    cases is_low
    · exact hmgmt
    · exact hdata
  have hring := h.ring c
  rw [hbare] at hring
  obtain ⟨base, htaken, -⟩ := hring
  rw [exec, execInitDescs]
  cases hcoherent : env.coherent c with
  | none =>
    -- Only a TX channel goes on without descriptors.
    have hmaybe : ({ l with descs := true } : Ledger).Has n dev₀ dev :=
      h.setMem ⟨h.mem.next, h.mem.pool, h.mem.pools_ne, h.mem.hal_buf, nofun, h.mem.rxDescs⟩ rfl rfl
    have hsilent : RingTaken (dev₀.ch c) { dev.ch c with cpu_addr := none } base :=
      ⟨⟨htaken.ring.two_le, htaken.ring.ctl, htaken.ring.head, htaken.ring.tail⟩, htaken.head,
        htaken.new, htaken.old⟩
    have htx : c.isRx = false := by
      rw [CallEnv.succeeds, hcoherent] at hok
      simpa using hok
    rw [htx, Bool.or_false, if_neg Bool.false_ne_true, Option.some.injEq] at hpost
    rw [← hpost]
    exact ⟨_, _, rfl, hmaybe.setCh ⟨base, hsilent⟩⟩
  | some dma_addr =>
    obtain ⟨ch', hrun, htaken', hdesc⟩ := htaken.initDescs (dev.mem.next, dma_addr)
    have halloc : ({ l with descs := true, rxDescs := l.rxDescs || c.isRx } : Ledger).Has n dev₀
        { dev with mem := (dev.mem.alloc (.coherent ((dev.ch c).desc_num * DxeDesc.size))).2 } := by
      refine h.setMem ?_ rfl rfl
      exact h.mem.allocDescs rfl (fun b => by cases b <;> rfl) rfl rfl rfl rfl fun _ => Or.inr hheld
    rw [Option.some.injEq] at hpost
    simp only [Support.Heap.alloc_fst, hrun, Option.map_some]
    rw [← hpost]
    refine ⟨_, _, rfl, halloc.setCh ?_⟩
    cases c.isRx
    · exact ⟨base, htaken'⟩
    · exact ⟨base, htaken', hdesc⟩

/-- The loops over the rings, and their registers. -/
theorem ledgerPost_ring {is_low : Bool} (hop : op = .initTxBd is_low ∨ op = .programTx is_low ∨
      op = .chAllocSkb is_low ∨ op = .programRx is_low)
    (h : l.Has n dev₀ dev) (hpost : l.post op = some l') :
    ∃ dev', exec n env op dev = some (dev', 0) ∧ l'.Has n dev₀ dev' := by
  rcases hop with rfl | rfl | rfl | rfl
  · rw [Ledger.post] at hpost
    split_ifs at hpost with hinit
    rw [Option.some.injEq] at hpost
    have hring := h.ring (txType is_low)
    rw [hinit] at hring
    obtain ⟨base, htaken⟩ := hring
    obtain ⟨ch', hrun⟩ := htaken.ring.exists_initTxBd htaken.head (dev.pool is_low)
    obtain ⟨hmoves, hhead⟩ := dxeInitTxBd_moves hrun
    have hset := h.setCh (r := .initialized) ⟨base, htaken.moves hmoves hhead⟩
    rw [Ledger.setRing, ← hinit, Function.update_eq_self] at hset
    rw [← hpost, exec, hrun, Option.map_some]
    exact ⟨_, rfl, hset⟩
  · rw [Ledger.post] at hpost
    split_ifs at hpost with hinit
    rw [Option.some.injEq] at hpost
    have hring := h.ring (txType is_low)
    rw [hinit] at hring
    obtain ⟨base, htaken⟩ := hring
    obtain ⟨c, hc, -⟩ := htaken.ring.ctl 0
    have hpos : 0 < (dev.ch (txType is_low)).desc_num := htaken.ring.pos
    rw [Support.Cycle.consecutive_pos hpos] at hc
    have hs : SameStore dev { dev with
        tx := { dev.tx with cursor := Function.update dev.tx.cursor is_low (c.desc.getD 0) } } :=
      ⟨rfl, fun _ => rfl, rfl, fun c => by cases c <;> rfl, fun _ => rfl⟩
    have hrun : execProgramTx is_low dev = some { dev with
        tx := { dev.tx with cursor := Function.update dev.tx.cursor is_low (c.desc.getD 0) } } := by
      rw [execProgramTx, htaken.head, Option.bind_eq_bind, Option.bind_some]
      rw [Nat.add_zero] at hc
      rw [hc]
      rfl
    rw [← hpost, exec, hrun, Option.map_some]
    exact ⟨_, rfl, h.outside hs h.wq h.smd h.msm h.irq h.idle⟩
  · rw [Ledger.post] at hpost
    split_ifs at hpost with hdesc
    rw [Option.some.injEq] at hpost
    have hring := h.ring (rxType is_low)
    have hch := dev.ch_rxType is_low
    rw [hdesc, hch] at hring
    obtain ⟨base, htaken, hdescribed⟩ := hring
    obtain ⟨s', hrun⟩ := htaken.ring.exists_chAllocSkb hdescribed (env.skb is_low)
    obtain ⟨hmoves, hhead⟩ := dxeChAllocSkb_moves hrun
    rw [← hpost, exec, hrun, Option.map_some]
    refine ⟨_, rfl, ?_⟩
    have hring' : RingHeld.described.Has (n.num (rxType is_low)) (dev₀.ch (rxType is_low)) s'.ch :=
      ⟨base, htaken.moves hmoves hhead, htaken.ring.described_moves hmoves hdescribed⟩
    have hset := h.setCh hring'
    rw [Ledger.setRing, ← hdesc, Function.update_eq_self] at hset
    refine ⟨?_, ?_, ?_, fun i => ?_, ?_, ?_, fun c => ?_, nofun⟩
    · cases is_low <;> exact h.wq
    · cases is_low <;> exact h.smd
    · cases is_low <;> exact h.msm.congr rfl rfl (fun _ => rfl) fun _ => rfl
    · have hirq := h.irq i
      cases is_low <;> cases i <;> exact hirq
    · cases is_low <;> exact h.idle
    · refine h.mem.congr rfl rfl rfl rfl ?_ (fun b => ?_) ?_
      · cases is_low <;> rfl
      · cases is_low <;> cases b <;> rfl
      · cases is_low <;> rfl
    · rw [Dev.ch_setRx]
      exact hset.ring c
  · rw [Ledger.post] at hpost
    split_ifs at hpost with hdesc
    rw [Option.some.injEq] at hpost
    have hring := h.ring (rxType is_low)
    rw [hdesc] at hring
    obtain ⟨base, htaken, hdescribed⟩ := hring
    obtain ⟨c, hc, -⟩ := htaken.ring.ctl 0
    obtain ⟨i, hi⟩ := Option.isSome_iff_exists.mp (hdescribed 0 c hc)
    have hpos : 0 < (dev.ch (rxType is_low)).desc_num := htaken.ring.pos
    rw [Support.Cycle.consecutive_pos hpos, Nat.add_zero] at hc
    have hrun : execProgramRx is_low dev = some dev := by
      rw [execProgramRx, htaken.head, Option.bind_eq_bind, Option.bind_some, hc]
      simp only [Option.bind_eq_bind, Option.bind_some, hi, Option.pure_def]
    rw [← hpost, exec, hrun, Option.map_some]
    exact ⟨_, rfl, h⟩

/-- An operation that succeeds, and that the ledger has an entry for, does not fault and does what the
ledger says. -/
theorem ledger_post (hnew : ∀ c p, (dev₀.ch c).fresh ≤ p → (dev₀.ch c).ctl p = none)
    (hok : env.succeeds n op = true) (h : l.Has n dev₀ dev) (hpost : l.post op = some l') :
    ∃ dev' r, exec n env op dev = some (dev', r) ∧ (op.looked = true → r = 0) ∧
      l'.Has n dev₀ dev' := by
  have hzero : (∃ dev', exec n env op dev = some (dev', 0) ∧ l'.Has n dev₀ dev') →
      ∃ dev' r, exec n env op dev = some (dev', r) ∧ (op.looked = true → r = 0) ∧
        l'.Has n dev₀ dev' := by
    rintro ⟨dev', hrun, h'⟩
    exact ⟨dev', 0, hrun, fun _ => rfl, h'⟩
  cases hop : op with
  | createWorkqueue => exact hop ▸ hzero (ledgerPost_caps (.inl hop) hok h hpost)
  | initInd => exact hop ▸ hzero (ledgerPost_caps (.inr (.inl hop)) hok h hpost)
  | ctrlOpen => exact hop ▸ hzero (ledgerPost_caps (.inr (.inr (.inl hop))) hok h hpost)
  | ctrlClose => exact hop ▸ hzero (ledgerPost_caps (.inr (.inr (.inr (.inl hop)))) hok h hpost)
  | destroyWorkqueue =>
    exact hop ▸ hzero (ledgerPost_caps (.inr (.inr (.inr (.inr (.inl hop))))) hok h hpost)
  | requestIrq irq =>
    exact hop ▸ hzero
      (ledgerPost_caps (.inr (.inr (.inr (.inr (.inr (.inl ⟨irq, hop⟩)))))) hok h hpost)
  | freeIrq irq =>
    exact hop ▸ hzero
      (ledgerPost_caps (.inr (.inr (.inr (.inr (.inr (.inr ⟨irq, hop⟩)))))) hok h hpost)
  | destroyIndMutex => exact hop ▸ ledgerPost_other (.inl hop) hok h hpost
  | smsmChangeState => exact hop ▸ ledgerPost_other (.inr (.inl hop)) hok h hpost
  | smd req => exact hop ▸ ledgerPost_other (.inr (.inr (.inl ⟨req, hop⟩))) hok h hpost
  | initVifList => exact hop ▸ ledgerPost_other (.inr (.inr (.inr (.inl hop)))) hok h hpost
  | initDxeLock => exact hop ▸ ledgerPost_other (.inr (.inr (.inr (.inr hop)))) hok h hpost
  | allocateMemPool is_low => exact hop ▸ hzero (ledgerPost_mem (.inl ⟨is_low, hop⟩) hok h hpost)
  | freeMemPool is_low => exact hop ▸ hzero (ledgerPost_mem (.inr (.inl ⟨is_low, hop⟩)) hok h hpost)
  | kmallocHalBuf => exact hop ▸ hzero (ledgerPost_mem (.inr (.inr (.inl hop))) hok h hpost)
  | kfreeHalBuf => exact hop ▸ hzero (ledgerPost_mem (.inr (.inr (.inr hop))) hok h hpost)
  | configure c => exact hop ▸ hzero (ledgerPost_ctl (.inl hop) (hnew c) hok h hpost)
  | allocateCtlBlock c => exact hop ▸ hzero (ledgerPost_ctl (.inr (.inl hop)) (hnew c) hok h hpost)
  | freeCtlBlock c => exact hop ▸ hzero (ledgerPost_ctl (.inr (.inr hop)) (hnew c) hok h hpost)
  | initDescs c =>
    subst hop
    obtain ⟨dev', r, hrun, h'⟩ := ledgerPost_initDescs hok h hpost
    exact ⟨dev', r, hrun, fun hb => Bool.noConfusion hb, h'⟩
  | initTxBd is_low => exact hop ▸ hzero (ledgerPost_ring (.inl hop) h hpost)
  | programTx is_low => exact hop ▸ hzero (ledgerPost_ring (.inr (.inl hop)) h hpost)
  | chAllocSkb is_low => exact hop ▸ hzero (ledgerPost_ring (.inr (.inr (.inl hop))) h hpost)
  | programRx is_low => exact hop ▸ hzero (ledgerPost_ring (.inr (.inr (.inr hop))) h hpost)
  | chFreeSkbs | deinitTxAck | destroyHalMutex =>
    rw [hop] at hpost
    cases hpost

/-- The ledger after an operation that has returned an error. -/
theorem ledger_fail (hlooked : op.looked = true) (hfail : env.succeeds n op = false)
    (hfirst : env.FailsFirst op) (h : l.Has n dev₀ dev) (hl : l.fail op = some l') :
    ∃ dev' r, exec n env op dev = some (dev', r) ∧ r ≠ 0 ∧ l'.Has n dev₀ dev' := by
  cases op with
  | createWorkqueue =>
    have hwq : env.wq = false := hfail
    have hs : SameStore dev { dev with hal_ind_wq := false } :=
      ⟨rfl, fun _ => rfl, rfl, fun _ => rfl, fun _ => rfl⟩
    rw [Ledger.fail, Option.some.injEq] at hl
    rw [← hl, exec, hwq]
    exact ⟨_, _, rfl, by decide, h.outside hs rfl h.smd h.msm h.irq h.idle⟩
  | ctrlOpen =>
    have hs : SameStore dev
        { dev with msm := (msmSmdOpen env.ctrl_open dev.msm).1, smd_open := false } :=
      ⟨rfl, fun _ => rfl, rfl, fun _ => rfl, fun _ => rfl⟩
    have hne : (-ENOMEM : ℤ) ≠ 0 := by decide
    obtain ⟨hmem, hret⟩ := msmSmdOpen_without_wq env.ctrl_open dev.msm hfirst
    rw [Ledger.fail] at hl
    split_ifs at hl with hsmd
    rw [Option.some.injEq] at hl
    have hclosed : l.smd = false := Bool.eq_false_iff.mpr hsmd
    rw [← hl]
    simp only [exec, hret, beq_eq_false_iff_ne.mpr hne]
    refine ⟨_, _, rfl, hne, h.outside hs h.wq hclosed.symm ?_ h.irq h.idle⟩
    exact h.msm.congr rfl hmem (fun hs => absurd hs hsmd) fun hs => absurd hs hsmd
  | allocateMemPool is_low =>
    have hnone : env.mem_pool is_low = none := by
      rw [CallEnv.succeeds] at hfail
      exact Option.isNone_iff_eq_none.mp (by rw [← Option.not_isSome, hfail]; rfl)
    rw [Ledger.fail] at hl
    split_ifs at hl with hfree
    rw [Option.some.injEq] at hl
    rw [← hl, exec, execAllocateMemPool, hnone]
    refine ⟨_, _, rfl, by decide, h.setMem ?_ (by cases is_low <;> rfl) rfl⟩
    -- Only the size of the chunks is set.
    have hvirt : ∀ b, ((dev.setPool is_low
        { dev.pool is_low with chunk_size := bdChunkSize }).pool b).virt_addr =
          (dev.pool b).virt_addr := by
      intro b
      cases is_low <;> cases b <;> rfl
    have hmem : (dev.setPool is_low
        { dev.pool is_low with chunk_size := bdChunkSize }).mem = dev.mem := by
      cases is_low <;> rfl
    have hbuf : (dev.setPool is_low
        { dev.pool is_low with chunk_size := bdChunkSize }).hal_buf = dev.hal_buf := by
      cases is_low <;> rfl
    refine ⟨by rw [hmem]; exact h.mem.next, fun b => ?_, ?_, ?_, ?_, ?_⟩
    · have hpool := h.mem.pool b
      rcases eq_or_ne b is_low with rfl | hne
      · cases hb : l.pool b with
        | null | stale =>
          rw [hb] at hpool
          simp only [Held.HasPool, hvirt] at hpool ⊢
          exact hpool
        | held => exact absurd hb hfree
      · refine hpool.congr hmem ?_
        cases is_low <;> cases b <;> first | rfl | exact absurd rfl hne
    · rw [hvirt, hvirt]
      exact h.mem.pools_ne
    · rw [hmem, hbuf]
      exact h.mem.hal_buf
    · simp only [hmem, hbuf, hvirt]
      exact h.mem.old
    · simp only [hmem, hvirt]
      exact h.mem.rxDescs
  | allocateCtlBlock c =>
    rw [Ledger.fail] at hl
    split_ifs at hl with hnull
    rw [Option.some.injEq] at hl
    have hring := h.ring c
    rw [hnull] at hring
    have hn : 2 ≤ (dev.ch c).desc_num := by
      rw [hring.2.2.2 rfl]
      exact n.two_le c
    have hset : dev.setCh c (dev.ch c) = dev := by cases c <;> rfl
    rw [← hl, exec, dxeAllocateCtlBlock_fail_zero _ _ hn hfirst,
      dxeFreeCtlBlock_none hring.1, Option.map_some, Option.map_some]
    have hne : (-ENOMEM : ℤ) ≠ 0 := by decide
    exact ⟨_, _, rfl, hne, hset.symm ▸ h⟩
  | kmallocHalBuf =>
    have hbuf : env.hal_buf = false := hfail
    rw [Ledger.fail] at hl
    split_ifs at hl with hfree
    rw [Option.some.injEq] at hl
    rw [← hl, exec, hbuf, if_neg Bool.false_ne_true]
    exact ⟨_, _, rfl, by decide, h.setMem (h.mem.noHalBuf (Bool.eq_false_iff.mpr hfree)) rfl rfl⟩
  | smd req =>
    rw [Ledger.fail, Option.some.injEq] at hl
    rw [← hl]
    cases req with
    | loadNv => exact ⟨_, _, rfl, beq_eq_false_iff_ne.mp hfail, h⟩
    | start =>
      have hne : env.smd .start ≠ 0 := beq_eq_false_iff_ne.mp hfail
      rw [exec, if_neg hne]
      exact ⟨_, _, rfl, hne, h⟩
    | featureCapsExchange | updateCfg | stop => cases hlooked
  | requestIrq irq =>
    have hne : env.irq irq ≠ 0 := beq_eq_false_iff_ne.mp hfail
    rw [Ledger.fail, Option.some.injEq] at hl
    rw [← hl, exec, if_neg hne]
    exact ⟨_, _, rfl, by omega, h⟩
  | _ => cases hlooked

end Sound

/-! ## What a ledger says at the end -/

/-- On a stopped device nothing is held yet. -/
def Dev.ledger (dev : Dev) : Ledger where
  pool is_low := if (dev.pool is_low).virt_addr = 0 then .null else .stale
  ring c := if (dev.ch c).head_blk_ctl = none then .null false else .stale false

/-- The ledger of a stopped device. -/
theorem Dev.Stopped.has {n : RingSizes} {dev : Dev} (h : dev.Stopped) :
    dev.ledger.Has n dev dev where
  wq := h.hal_ind_wq
  smd := h.smd_open
  msm := ⟨Nat.le_refl _, nofun, nofun, fun _ _ => rfl⟩
  irq := h.irq
  idle hi := by cases hi
  mem := by
    refine ⟨Nat.le_refl _, fun is_low => ?_, fun hf => ?_, nofun, fun _ _ _ _ => rfl, nofun⟩
    · rw [Dev.ledger]
      dsimp only
      split_ifs with hzero
      · exact hzero
      · exact hzero
    · rw [Dev.ledger] at hf
      dsimp only at hf
      split_ifs at hf
  ring c := by
    rw [Dev.ledger]
    dsimp only
    split_ifs with hnull
    · exact ⟨hnull, rfl, rfl, nofun⟩
    · exact ⟨hnull, rfl, rfl, nofun⟩
  log _ _ := rfl

/-- When nothing is held, the device holds what it held before. -/
theorem Ledger.Has.sameHeld {n : RingSizes} {dev₀ dev : Dev} {l : Ledger} (h₀ : dev₀.Stopped)
    (h : l.Has n dev₀ dev) (hl : l.balanced = true) : SameHeld dev₀ dev := by
  simp only [Ledger.balanced, Bool.and_eq_true, Bool.not_eq_true', bne_iff_ne, ne_eq] at hl
  obtain ⟨⟨⟨⟨⟨⟨⟨⟨⟨hwq, hsmd⟩, htx⟩, hrx⟩, hmgmt⟩, hdata⟩, hbuf⟩, hdescs⟩, hskbs⟩, hring⟩ := hl
  refine ⟨?_, ?_, ?_, fun irq => ?_, ?_, fun c p => ?_, fun is_low ptr => ?_⟩
  · rw [h.wq, hwq, h₀.hal_ind_wq]
  · rw [h.smd, hsmd, h₀.smd_open]
  · funext p
    refine h.msm.old p fun hs => ?_
    rw [hsmd] at hs
    cases hs
  · rw [h.irq, h₀.irq]
    cases irq
    · exact htx
    · exact hrx
  · funext p
    refine h.mem.old hdescs p (fun is_low hheld => ?_) fun hb => ?_
    · cases is_low
      · exact absurd hheld hmgmt
      · exact absurd hheld hdata
    · rw [hbuf] at hb
      cases hb
  · have hc := h.ring c
    have hok := List.all_eq_true.mp hring c (by cases c <;> decide)
    cases hr : l.ring c with
    | null b | stale b =>
      rw [hr] at hc
      rw [hc.2.1]
    | released =>
      rw [hr] at hc
      exact hc p
    | bare | initialized | described =>
      rw [hr] at hok
      cases hok
  · rw [RxState.balance, RxState.balance, h.log hskbs]

/-- When a BD pool or the descriptors of a receive channel are held, the device holds more than
before. -/
theorem Ledger.Has.not_sameHeld {n : RingSizes} {dev₀ dev : Dev} {l : Ledger}
    (h : l.Has n dev₀ dev) (hl : l.leaks = true) : ¬SameHeld dev₀ dev := by
  intro hsame
  -- An address that was not in use before is in use.
  have hnew : ∀ p r, dev₀.mem.next ≤ p → dev.mem.cells p ≠ some r := by
    intro p r hp hcell
    rw [hsame.mem, dev₀.mem.cells_next p hp] at hcell
    cases hcell
  have hpool : ∀ is_low, l.pool is_low ≠ .held := by
    intro is_low hheld
    have htaken := h.mem.pool is_low
    rw [hheld] at htaken
    exact hnew _ _ htaken.2.1 htaken.2.2
  simp only [Ledger.leaks, Bool.or_eq_true, beq_iff_eq] at hl
  rcases hl with (hmgmt | hdata) | hrx
  · exact hpool false hmgmt
  · exact hpool true hdata
  · obtain ⟨p, size, hp, hcell, -⟩ := h.mem.rxDescs hrx
    exact hnew p _ hp hcell

end Wcn36xx
