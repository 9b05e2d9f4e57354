import Wcn36xx.Main.Lifecycle

/-!
# What the steps guarantee

A `View` is what is known of the device at a step of `wcn36xx_start` or `wcn36xx_stop`: which callbacks can
run, which objects are initialized, and how far each ring is. `View.post` and `View.fail` say what a step
makes of a view, and `execView_sound` that `exec` does the same to the device, so that the order of the
steps can be checked on views alone. `View.Has.run` says that nothing that happens between two steps takes
a guarantee away.
-/

namespace Wcn36xx

open Support (Abstraction)

/-! ## Views -/

/-- How far the ring of a channel is. -/
inductive RingState where
  | absent
  | configured
  /-- The control blocks are allocated. -/
  | bare
  /-- `wcn36xx_dxe_init_descs` has run, with or without success. -/
  | initialized
  /-- Each control block has its descriptor. -/
  | described
  deriving DecidableEq, Repr

/-- What the state of a ring promises of the channel. -/
def RingState.Has : RingState → DxeCh → Prop
  | .absent, _ => True
  | .configured, ch => 2 ≤ ch.desc_num
  | .bare, ch => ∃ base, RingAt ch base ∧ BareAt ch base
  | .initialized, ch => ∃ base, RingAt ch base ∧
    (DescribedAt ch base ∨ ch.cpu_addr = none ∧ BareAt ch base)
  | .described, ch => ∃ base, RingAt ch base ∧ DescribedAt ch base

/-- The states of the four rings. -/
structure RingStates where
  txL : RingState
  txH : RingState
  rxL : RingState
  rxH : RingState
  deriving DecidableEq, Repr

namespace RingStates

/-- The state of the ring of a channel. -/
def get (s : RingStates) : DxeChType → RingState
  | .txL => s.txL
  | .txH => s.txH
  | .rxL => s.rxL
  | .rxH => s.rxH

/-- Set the state of the ring of a channel. -/
def set (s : RingStates) (c : DxeChType) (r : RingState) : RingStates :=
  match c with
  | .txL => { s with txL := r }
  | .txH => { s with txH := r }
  | .rxL => { s with rxL := r }
  | .rxH => { s with rxH := r }

@[simp]
theorem get_set (s : RingStates) (c : DxeChType) (r : RingState) : (s.set c r).get c = r := by
  cases c <;> rfl

theorem get_set_ne (s : RingStates) {c c' : DxeChType} (h : c' ≠ c) (r : RingState) :
    (s.set c r).get c' = s.get c' := by
  cases c <;> cases c' <;> first | rfl | exact absurd rfl h

end RingStates

/-- Who can run, and what is initialized. -/
structure Caps where
  hal_ind_wq : Bool
  hal_ind_mutex : Bool
  smd_open : Bool
  tx_irq : Bool
  rx_irq : Bool
  vif_list : Bool
  dxe_lock : Bool
  hal_mutex : Bool
  deriving DecidableEq, Repr

/-- Who can run on a device, and what is initialized. -/
def Dev.caps (dev : Dev) : Caps where
  hal_ind_wq := dev.hal_ind_wq
  hal_ind_mutex := dev.hal_ind_mutex
  smd_open := dev.smd_open
  tx_irq := dev.tx_irq
  rx_irq := dev.rx_irq
  vif_list := dev.vif_list
  dxe_lock := dev.dxe_lock
  hal_mutex := dev.hal_mutex

/-- What is known of a device. -/
structure View where
  caps : Caps
  /-- `hal_ind_work` is neither pending nor running. -/
  idle : Bool
  hal_buf : Bool
  ring : RingStates
  deriving DecidableEq, Repr

/-- A view promises no more than a device has. -/
structure View.Has (v : View) (dev : Dev) : Prop where
  caps : dev.caps = v.caps
  idle : v.idle = true → dev.ind.pending = false ∧ dev.ind.worker = .idle
  hal_buf : v.hal_buf = true → dev.live .halBuf = true
  ring : ∀ c, (v.ring.get c).Has (dev.ch c)

namespace View

/-- The ring of a channel goes from one state to the next. -/
def advance (v : View) (c : DxeChType) (r r' : RingState) : View :=
  { v with ring := v.ring.set c (if v.ring.get c = r then r' else .absent) }

/-- The view after a step that has returned 0. -/
def post (op : LifeOp) (v : View) : View :=
  match op with
  | .createWorkqueue => { v with caps := { v.caps with hal_ind_wq := true } }
  | .initInd => { v with caps := { v.caps with hal_ind_mutex := true }, idle := true }
  | .ctrlOpen => { v with caps := { v.caps with smd_open := true }, idle := false }
  | .ctrlClose => { v with caps := { v.caps with smd_open := false } }
  | .destroyWorkqueue => { v with caps := { v.caps with hal_ind_wq := false }, idle := true }
  | .destroyIndMutex => { v with caps := { v.caps with hal_ind_mutex := false } }
  | .configure c => { v with ring := v.ring.set c .configured }
  | .allocateCtlBlock c => v.advance c .configured .bare
  | .freeCtlBlock c => { v with ring := v.ring.set c .absent }
  | .kmallocHalBuf => { v with hal_buf := true }
  | .kfreeHalBuf => { v with hal_buf := false }
  | .initDescs c => v.advance c .bare .initialized
  | .programRx is_low => v.advance (rxType is_low) .initialized .described
  | .requestIrq .tx => { v with caps := { v.caps with tx_irq := true } }
  | .requestIrq .rx => { v with caps := { v.caps with rx_irq := true } }
  | .freeIrq .tx => { v with caps := { v.caps with tx_irq := false } }
  | .freeIrq .rx => { v with caps := { v.caps with rx_irq := false } }
  | .initVifList => { v with caps := { v.caps with vif_list := true } }
  | .initDxeLock => { v with caps := { v.caps with dxe_lock := true } }
  | .destroyHalMutex => { v with caps := { v.caps with hal_mutex := false } }
  | .allocateMemPool _ | .freeMemPool _ | .smsmChangeState | .smd _ | .initTxBd _ | .programTx _
  | .chAllocSkb _ | .chFreeSkbs _ | .deinitTxAck => v

/-- The view after a step that has returned an error. -/
def fail (op : LifeOp) (v : View) : View :=
  match op with
  | .createWorkqueue => { v with caps := { v.caps with hal_ind_wq := false } }
  | .ctrlOpen => { v with caps := { v.caps with smd_open := false } }
  | .allocateCtlBlock c => { v with ring := v.ring.set c .absent }
  | .kmallocHalBuf => { v with hal_buf := false }
  | .requestIrq _ => v
  | op => v.post op

end View

/-- Views as descriptions of devices. -/
def viewAbstraction : Abstraction LifeOp Dev View where
  Has := View.Has
  post := View.post
  fail := View.fail

/-! ## The steps keep to the views -/

/-- A ring stays in its state while the driver runs. -/
theorem RingState.Has.moves {s : RingState} {ch ch' : DxeCh} (h : s.Has ch) (hmoves : ch.Moves ch') :
    s.Has ch' := by
  cases s with
  | absent => trivial
  | configured =>
    have hn : 2 ≤ ch.desc_num := h
    have hn' : 2 ≤ ch'.desc_num := by
      rw [hmoves.desc_num]
      exact hn
    exact hn'
  | bare =>
    obtain ⟨base, hring, hbare⟩ := h
    exact ⟨base, hring.moves hmoves, hring.bare_moves hmoves hbare⟩
  | initialized =>
    obtain ⟨base, hring, hdesc⟩ := h
    refine ⟨base, hring.moves hmoves, hdesc.imp (hring.described_moves hmoves) fun hnone => ?_⟩
    exact ⟨hmoves.cpu_addr.trans hnone.1, hring.bare_moves hmoves hnone.2⟩
  | described =>
    obtain ⟨base, hring, hdesc⟩ := h
    exact ⟨base, hring.moves hmoves, hring.described_moves hmoves hdesc⟩

namespace Dev

variable (dev : Dev)

@[simp]
theorem caps_setCh (c : DxeChType) (ch : DxeCh) : (dev.setCh c ch).caps = dev.caps := by
  cases c <;> rfl

@[simp]
theorem caps_setRx (is_low : Bool) (s : RxState) : (dev.setRx is_low s).caps = dev.caps := by
  cases is_low <;> rfl

@[simp]
theorem ind_setCh (c : DxeChType) (ch : DxeCh) : (dev.setCh c ch).ind = dev.ind := by
  cases c <;> rfl

@[simp]
theorem ind_setRx (is_low : Bool) (s : RxState) : (dev.setRx is_low s).ind = dev.ind := by
  cases is_low <;> rfl

@[simp]
theorem live_halBuf_setCh (c : DxeChType) (ch : DxeCh) :
    (dev.setCh c ch).live .halBuf = dev.live .halBuf := by
  cases c <;> rfl

@[simp]
theorem live_halBuf_setRx (is_low : Bool) (s : RxState) :
    (dev.setRx is_low s).live .halBuf = dev.live .halBuf := by
  cases is_low <;> rfl

/-- `hal_buf` is live exactly when it points to its allocation. -/
theorem live_halBuf_iff : dev.live .halBuf = true ↔
    dev.hal_buf ≠ 0 ∧ dev.mem.cells dev.hal_buf = some (.kmalloc WCN36XX_HAL_BUF_SIZE) := by
  simp only [live, Bool.and_eq_true, bne_iff_ne, beq_iff_eq]

/-- Allocating something else leaves `hal_buf` live. -/
theorem live_halBuf_alloc (r : Region) (h : dev.live .halBuf = true) :
    ({ dev with mem := (dev.mem.alloc r).2 } : Dev).live .halBuf = true := by
  rw [live_halBuf_iff] at h ⊢
  refine ⟨h.1, ?_⟩
  have hlt : dev.hal_buf < dev.mem.next := dev.mem.lt_next h.2
  rw [Support.Heap.alloc_cells, Function.update_of_ne (Nat.ne_of_lt hlt)]
  exact h.2

end Dev

namespace View.Has

variable {v : View} {dev dev' : Dev} (h : v.Has dev)
include h

/-- What the view speaks of has not changed, or only moved. -/
theorem frame (hcaps : dev'.caps = dev.caps) (hind : dev'.ind = dev.ind)
    (hbuf : dev.live .halBuf = true → dev'.live .halBuf = true)
    (hring : ∀ c, (dev.ch c).Moves (dev'.ch c)) : v.Has dev' where
  caps := hcaps.trans h.caps
  idle hi := hind ▸ h.idle hi
  hal_buf hb := hbuf (h.hal_buf hb)
  ring c := (h.ring c).moves (hring c)

/-- Something is opened, closed, initialized or destroyed. -/
theorem setCaps (f : Caps → Caps) {idle : Bool} (hcaps : dev'.caps = f dev.caps)
    (hidle : idle = true → dev'.ind.pending = false ∧ dev'.ind.worker = .idle)
    (hbuf : dev'.live .halBuf = dev.live .halBuf) (hch : ∀ c, dev'.ch c = dev.ch c) :
    View.Has ⟨f v.caps, idle, v.hal_buf, v.ring⟩ dev' where
  caps := by rw [hcaps, h.caps]
  idle := hidle
  hal_buf hb := hbuf.trans (h.hal_buf hb)
  ring c := by
    rw [hch c]
    exact h.ring c

/-- One ring has got into another state. -/
theorem setRing {c : DxeChType} {r : RingState} (hcaps : dev'.caps = dev.caps)
    (hind : dev'.ind = dev.ind) (hbuf : dev.live .halBuf = true → dev'.live .halBuf = true)
    (hother : ∀ c', c' ≠ c → dev'.ch c' = dev.ch c') (hr : r.Has (dev'.ch c)) :
    ({ v with ring := v.ring.set c r } : View).Has dev' where
  caps := hcaps.trans h.caps
  idle hi := hind ▸ h.idle hi
  hal_buf hb := hbuf (h.hal_buf hb)
  ring c' := by
    rcases eq_or_ne c' c with rfl | hne
    · rw [RingStates.get_set]
      exact hr
    · rw [RingStates.get_set_ne _ hne, hother c' hne]
      exact h.ring c'

/-- A channel is written back, and its ring has got into another state. -/
theorem setCh {c : DxeChType} {ch : DxeCh} {r : RingState} (hr : r.Has ch) :
    ({ v with ring := v.ring.set c r } : View).Has (dev.setCh c ch) :=
  h.setRing (by simp) (by simp) (by simp) (fun _ hne => dev.ch_setCh_ne hne ch) (by simpa using hr)

/-- A channel is written back after a while. -/
theorem setCh_moves {c : DxeChType} {ch : DxeCh} (hmoves : (dev.ch c).Moves ch) :
    v.Has (dev.setCh c ch) := by
  refine h.frame (by simp) (by simp) (by simp) fun c' => ?_
  rcases eq_or_ne c' c with rfl | hne
  · rw [Dev.ch_setCh]
    exact hmoves
  · rw [dev.ch_setCh_ne hne]
    exact .refl _

/-- A receive channel is written back after a while. -/
theorem setRx_moves {is_low : Bool} {s : RxState} (hmoves : (dev.rx is_low).ch.Moves s.ch) :
    v.Has (dev.setRx is_low s) := by
  refine h.frame (by simp) (by simp) (by simp) fun c' => ?_
  rw [Dev.ch_setRx]
  rcases eq_or_ne c' (rxType is_low) with rfl | hne
  · rw [Dev.ch_setCh, Dev.ch_rxType]
    exact hmoves
  · rw [dev.ch_setCh_ne hne]
    exact .refl _

/-- The TX channels are written back after a while. -/
theorem setTx {tx : TxWorld} (hmoves : dev.tx.wcn.Moves tx.wcn) : v.Has { dev with tx := tx } :=
  h.frame rfl rfl id fun c => by
    cases c with
    | txL => exact hmoves true
    | txH => exact hmoves false
    | rxL | rxH => exact .refl _

/-- A ring has advanced, if it was where it was taken to be. -/
theorem advance {c : DxeChType} {r r' : RingState} (hcaps : dev'.caps = dev.caps)
    (hind : dev'.ind = dev.ind) (hbuf : dev.live .halBuf = true → dev'.live .halBuf = true)
    (hother : ∀ c', c' ≠ c → dev'.ch c' = dev.ch c') (hr : r.Has (dev.ch c) → r'.Has (dev'.ch c)) :
    (v.advance c r r').Has dev' := by
  refine h.setRing hcaps hind hbuf hother ?_
  split_ifs with hfrom
  · exact hr (hfrom ▸ h.ring c)
  · trivial

/-- Something is allocated. -/
theorem alloc (r : Region) : v.Has { dev with mem := (dev.mem.alloc r).2 } :=
  h.frame rfl rfl (dev.live_halBuf_alloc r) fun _ => .refl _

end View.Has

/-- `wcn36xx_dxe_init_descs` on a ring of control blocks. -/
theorem initialized_of_bare {coherent : Option (ℕ × BitVec 32)} {ch ch' : DxeCh} {ret : ℤ}
    (h : RingState.bare.Has ch) (hrun : dxeInitDescs coherent ch = some (ch', ret)) :
    RingState.initialized.Has ch' := by
  obtain ⟨base, hring, hbare⟩ := h
  cases coherent with
  | none =>
    obtain ⟨rfl, -⟩ := dxeInitDescs_none hrun
    exact ⟨base, ⟨hring.two_le, hring.ctl, hring.head, hring.tail⟩, Or.inr ⟨rfl, hbare⟩⟩
  | some cpu =>
    obtain ⟨hring', hdesc, -⟩ := hring.initDescs hrun
    exact ⟨base, hring', Or.inl hdesc⟩

/-- The registers of an RX channel are only programmed with a descriptor. -/
theorem described_of_programRx {is_low : Bool} {dev dev' : Dev}
    (h : RingState.initialized.Has (dev.ch (rxType is_low)))
    (hrun : execProgramRx is_low dev = some dev') :
    dev' = dev ∧ RingState.described.Has (dev.ch (rxType is_low)) := by
  unfold execProgramRx at hrun
  simp only [Option.bind_eq_bind, Option.bind_eq_some_iff, Option.some.injEq,
    Option.pure_def] at hrun
  obtain ⟨head, hhead, c, hc, i, hi, rfl⟩ := hrun
  obtain ⟨base, hring, hdesc⟩ := h
  refine ⟨rfl, base, hring, hdesc.resolve_right fun hnone => ?_⟩
  obtain ⟨k, hk⟩ := hring.head
  rw [hhead, Option.some.injEq] at hk
  rw [hnone.2 k c (hk ▸ hc)] at hi
  cases hi

/-- One half of `wcn36xx_dxe_free_mem_pools` does not free `hal_buf`, which is of another kind. -/
theorem live_halBuf_freeMemPool {n : RingSizes} {is_low : Bool} {dev dev' : Dev}
    (hrun : execFreeMemPool n is_low dev = some dev') (hlive : dev.live .halBuf = true) :
    dev'.live .halBuf = true := by
  unfold execFreeMemPool at hrun
  dsimp only at hrun
  split_ifs at hrun
  · rw [Option.some.injEq] at hrun
    rw [← hrun]
    exact hlive
  · obtain ⟨mem, hfree, rfl⟩ := Option.map_eq_some_iff.mp hrun
    rw [Dev.live_halBuf_iff] at hlive
    obtain ⟨hcell, -, -⟩ := Support.Heap.free_eq_some hfree
    have hne : dev.hal_buf ≠ (dev.pool is_low).virt_addr := by
      intro heq
      rw [← heq, hlive.2] at hcell
      cases hcell
    rw [Dev.live_halBuf_iff]
    exact ⟨hlive.1, (Support.Heap.free_cells_ne hfree hne).trans hlive.2⟩

section Sound

variable {n : RingSizes} {env : CallEnv} {v : View} {dev dev' : Dev} {r : ℤ} (h : v.Has dev)
include h

/-- The steps that open, close, initialize or destroy something, and always succeed. -/
theorem execView_caps {op : LifeOp} (hop : op = .initInd ∨ op = .ctrlClose ∨
      op = .destroyWorkqueue ∨ op = .destroyIndMutex ∨ op = .initVifList ∨ op = .initDxeLock ∨
      op = .destroyHalMutex ∨ ∃ irq, op = .freeIrq irq)
    (hrun : exec n env op dev = some (dev', r)) : r = 0 ∧ (v.post op).Has dev' := by
  rcases hop with rfl | rfl | rfl | rfl | rfl | rfl | rfl | ⟨irq, rfl⟩
  · simp only [exec, Option.some.injEq, Prod.mk.injEq] at hrun
    obtain ⟨rfl, rfl⟩ := hrun
    exact ⟨rfl, h.setCaps (fun cs => { cs with hal_ind_mutex := true }) rfl
      (fun _ => ⟨rfl, rfl⟩) rfl fun c => by cases c <;> rfl⟩
  · obtain ⟨msm, -, heq⟩ := Option.map_eq_some_iff.mp hrun
    rw [Prod.mk.injEq] at heq
    obtain ⟨rfl, rfl⟩ := heq
    exact ⟨rfl, h.setCaps (fun cs => { cs with smd_open := false }) rfl h.idle rfl
      fun c => by cases c <;> rfl⟩
  · simp only [exec, execDestroyWorkqueue] at hrun
    split_ifs at hrun with hidle
    · rw [Option.map_some, Option.some.injEq, Prod.mk.injEq] at hrun
      obtain ⟨rfl, rfl⟩ := hrun
      exact ⟨rfl, h.setCaps (fun cs => { cs with hal_ind_wq := false }) rfl
        (fun _ => hidle.2) rfl fun c => by cases c <;> rfl⟩
    · cases hrun
  · simp only [exec, Option.some.injEq, Prod.mk.injEq] at hrun
    obtain ⟨rfl, rfl⟩ := hrun
    exact ⟨rfl, h.setCaps (fun cs => { cs with hal_ind_mutex := false }) rfl h.idle rfl
      fun c => by cases c <;> rfl⟩
  · simp only [exec, Option.some.injEq, Prod.mk.injEq] at hrun
    obtain ⟨rfl, rfl⟩ := hrun
    exact ⟨rfl, h.setCaps (fun cs => { cs with vif_list := true }) rfl h.idle rfl
      fun c => by cases c <;> rfl⟩
  · simp only [exec, Option.some.injEq, Prod.mk.injEq] at hrun
    obtain ⟨rfl, rfl⟩ := hrun
    exact ⟨rfl, h.setCaps (fun cs => { cs with dxe_lock := true }) rfl h.idle rfl
      fun c => by cases c <;> rfl⟩
  · simp only [exec, Option.some.injEq, Prod.mk.injEq] at hrun
    obtain ⟨rfl, rfl⟩ := hrun
    exact ⟨rfl, h.setCaps (fun cs => { cs with hal_mutex := false }) rfl h.idle rfl
      fun c => by cases c <;> rfl⟩
  · simp only [exec] at hrun
    split_ifs at hrun
    rw [Option.some.injEq, Prod.mk.injEq] at hrun
    obtain ⟨rfl, rfl⟩ := hrun
    cases irq with
    | tx =>
      exact ⟨rfl, h.setCaps (fun cs => { cs with tx_irq := false }) rfl h.idle rfl
        fun c => by cases c <;> rfl⟩
    | rx =>
      exact ⟨rfl, h.setCaps (fun cs => { cs with rx_irq := false }) rfl h.idle rfl
        fun c => by cases c <;> rfl⟩

/-- The workqueue, the channel and the interrupts, whose acquisition can fail. -/
theorem execView_acquire {op : LifeOp} (hop : op = .createWorkqueue ∨ op = .ctrlOpen ∨
      ∃ irq, op = .requestIrq irq)
    (hrun : exec n env op dev = some (dev', r)) :
    (if r = 0 then v.post op else v.fail op).Has dev' := by
  rcases hop with rfl | rfl | ⟨irq, rfl⟩
  · simp only [exec, Option.some.injEq, Prod.mk.injEq] at hrun
    obtain ⟨rfl, rfl⟩ := hrun
    cases env.wq with
    | true =>
      exact h.setCaps (fun cs => { cs with hal_ind_wq := true }) rfl h.idle rfl
        fun c => by cases c <;> rfl
    | false =>
      exact h.setCaps (fun cs => { cs with hal_ind_wq := false }) rfl h.idle rfl
        fun c => by cases c <;> rfl
  · simp only [exec, Option.some.injEq, Prod.mk.injEq] at hrun
    obtain ⟨rfl, rfl⟩ := hrun
    by_cases hopen : (msmSmdOpen env.ctrl_open dev.msm).2 = 0
    · rw [if_pos hopen, beq_iff_eq.mpr hopen]
      exact h.setCaps (fun cs => { cs with smd_open := true }) rfl (fun hi => Bool.noConfusion hi)
        rfl fun c => by cases c <;> rfl
    · rw [if_neg hopen, beq_eq_false_iff_ne.mpr hopen]
      exact h.setCaps (fun cs => { cs with smd_open := false }) rfl h.idle rfl
        fun c => by cases c <;> rfl
  · simp only [exec] at hrun
    split_ifs at hrun with hirq
    · rw [Option.some.injEq, Prod.mk.injEq] at hrun
      obtain ⟨rfl, rfl⟩ := hrun
      rw [if_pos rfl]
      cases irq with
      | tx =>
        exact h.setCaps (fun cs => { cs with tx_irq := true }) rfl h.idle rfl
          fun c => by cases c <;> rfl
      | rx =>
        exact h.setCaps (fun cs => { cs with rx_irq := true }) rfl h.idle rfl
          fun c => by cases c <;> rfl
    · rw [Option.some.injEq, Prod.mk.injEq] at hrun
      obtain ⟨rfl, rfl⟩ := hrun
      rw [if_neg (by omega)]
      exact h

/-- The control blocks and descriptors of a ring. -/
theorem execView_ring {op : LifeOp} {c : DxeChType} (hop : op = .configure c ∨
      op = .allocateCtlBlock c ∨ op = .freeCtlBlock c ∨ op = .initDescs c)
    (hrun : exec n env op dev = some (dev', r)) :
    (if r = 0 then v.post op else v.fail op).Has dev' := by
  rcases hop with rfl | rfl | rfl | rfl
  · simp only [exec, Option.some.injEq, Prod.mk.injEq] at hrun
    obtain ⟨rfl, rfl⟩ := hrun
    rw [if_pos rfl]
    refine h.setCh ?_
    have hnum : ((dev.ch c).configure (n.num c) c).desc_num = n.num c := by cases c <;> rfl
    have htwo : 2 ≤ ((dev.ch c).configure (n.num c) c).desc_num := by
      rw [hnum]
      exact n.two_le c
    exact htwo
  · obtain ⟨⟨ch, r'⟩, hch, heq⟩ := Option.map_eq_some_iff.mp hrun
    rw [Prod.mk.injEq] at heq
    obtain ⟨rfl, rfl⟩ := heq
    dsimp only
    split_ifs with hr
    · refine h.advance (by simp) (by simp) (by simp) (fun _ hne => dev.ch_setCh_ne hne ch) fun hn => ?_
      have hring : ch = allocatedCh (dev.ch c) (dev.ch c).desc_num :=
        dxeAllocateCtlBlock_eq_zero hn (hr ▸ hch)
      rw [Dev.ch_setCh, hring]
      exact ⟨_, ringAt_allocatedCh _ hn, bareAt_allocatedCh _ hn⟩
    · exact h.setCh trivial
  · obtain ⟨ch, -, heq⟩ := Option.map_eq_some_iff.mp hrun
    rw [Prod.mk.injEq] at heq
    obtain ⟨rfl, rfl⟩ := heq
    exact h.setCh trivial
  · have hsame : v.fail (.initDescs c) = v.post (.initDescs c) := rfl
    rw [hsame, ite_self]
    simp only [exec, execInitDescs] at hrun
    split at hrun
    · obtain ⟨⟨ch, r'⟩, hch, heq⟩ := Option.map_eq_some_iff.mp hrun
      rw [Prod.mk.injEq] at heq
      obtain ⟨rfl, rfl⟩ := heq
      refine h.advance (by simp) (by simp) (by simp) (fun _ hne => dev.ch_setCh_ne hne ch)
        fun hbare => ?_
      rw [Dev.ch_setCh]
      exact initialized_of_bare hbare hch
    · rename_i dma_addr _
      obtain ⟨⟨ch, r'⟩, hch, heq⟩ := Option.map_eq_some_iff.mp hrun
      rw [Prod.mk.injEq] at heq
      obtain ⟨rfl, rfl⟩ := heq
      have halloc := h.alloc (.coherent ((dev.ch c).desc_num * DxeDesc.size))
      refine halloc.advance (by simp) (by simp) (by simp) (fun _ hne => Dev.ch_setCh_ne _ hne ch)
        fun hbare => ?_
      rw [Dev.ch_setCh]
      exact initialized_of_bare hbare hch

/-- The loops over a ring that leave it as it is. -/
theorem execView_loop {op : LifeOp} {is_low : Bool} (hop : op = .initTxBd is_low ∨
      op = .programTx is_low ∨ op = .chAllocSkb is_low ∨ op = .chFreeSkbs is_low)
    (hrun : exec n env op dev = some (dev', r)) : v.Has dev' := by
  rcases hop with rfl | rfl | rfl | rfl
  · obtain ⟨ch, hch, heq⟩ := Option.map_eq_some_iff.mp hrun
    rw [Prod.mk.injEq] at heq
    obtain ⟨rfl, -⟩ := heq
    exact h.setCh_moves (dxeInitTxBd_moves hch).1
  · obtain ⟨dev₁, hprog, heq⟩ := Option.map_eq_some_iff.mp hrun
    rw [Prod.mk.injEq] at heq
    obtain ⟨rfl, -⟩ := heq
    simp only [execProgramTx, Option.bind_eq_bind, Option.bind_eq_some_iff, Option.some.injEq,
      Option.pure_def] at hprog
    obtain ⟨_, -, _, -, rfl⟩ := hprog
    exact h.setTx (.of_eq fun _ => rfl)
  · obtain ⟨s, hs, heq⟩ := Option.map_eq_some_iff.mp hrun
    rw [Prod.mk.injEq] at heq
    obtain ⟨rfl, -⟩ := heq
    exact h.setRx_moves (dxeChAllocSkb_moves hs).1
  · obtain ⟨s, hs, heq⟩ := Option.map_eq_some_iff.mp hrun
    rw [Prod.mk.injEq] at heq
    obtain ⟨rfl, -⟩ := heq
    exact h.setRx_moves (dxeChFreeSkbs_moves hs)

/-- The BD pools and `hal_buf`. -/
theorem execView_mem {op : LifeOp} (hop : (∃ is_low, op = .allocateMemPool is_low) ∨
      (∃ is_low, op = .freeMemPool is_low) ∨ op = .kmallocHalBuf ∨ op = .kfreeHalBuf)
    (hrun : exec n env op dev = some (dev', r)) :
    (if r = 0 then v.post op else v.fail op).Has dev' := by
  rcases hop with ⟨is_low, rfl⟩ | ⟨is_low, rfl⟩ | rfl | rfl
  · have hsame : v.fail (.allocateMemPool is_low) = v.post (.allocateMemPool is_low) := rfl
    rw [hsame, ite_self]
    have hpool : ∀ {d : Dev} (pool : DxeMemPool), v.Has d → v.Has (d.setPool is_low pool) := by
      intro d pool hd
      cases is_low
      · exact hd.frame rfl rfl id fun c => by cases c <;> exact .refl _
      · exact hd.frame rfl rfl id fun c => by cases c <;> exact .refl _
    simp only [exec, execAllocateMemPool, Option.some.injEq] at hrun
    split at hrun
    · rw [Prod.mk.injEq] at hrun
      rw [← hrun.1]
      exact hpool _ h
    · rw [Prod.mk.injEq] at hrun
      rw [← hrun.1]
      exact hpool _ (h.alloc _)
  · obtain ⟨dev₁, hfree, heq⟩ := Option.map_eq_some_iff.mp hrun
    rw [Prod.mk.injEq] at heq
    obtain ⟨rfl, rfl⟩ := heq
    have hmem := execFreeMemPool_eq hfree
    rw [if_pos rfl]
    refine h.frame ?_ ?_ (live_halBuf_freeMemPool hfree) fun c => ?_
    · rw [hmem]
      rfl
    · rw [hmem]
    · rw [hmem]
      cases c <;> exact .refl _
  · simp only [exec] at hrun
    split_ifs at hrun
    · rw [Option.some.injEq, Prod.mk.injEq] at hrun
      obtain ⟨rfl, rfl⟩ := hrun
      refine ⟨h.caps, h.idle, fun _ => ?_, fun c => ?_⟩
      · rw [Dev.live_halBuf_iff]
        exact ⟨Nat.pos_iff_ne_zero.mp dev.mem.next_pos, Function.update_self ..⟩
      · have hring := h.ring c
        cases c <;> exact hring
    · rw [Option.some.injEq, Prod.mk.injEq] at hrun
      obtain ⟨rfl, rfl⟩ := hrun
      refine ⟨h.caps, h.idle, fun hb => Bool.noConfusion hb, fun c => ?_⟩
      have hring := h.ring c
      cases c <;> exact hring
  · have hforget : ∀ {d : Dev} {mem : Support.Heap Region}, d = { dev with mem := mem } →
        (v.post .kfreeHalBuf).Has d := by
      rintro d mem rfl
      refine ⟨h.caps, h.idle, fun hb => Bool.noConfusion hb, fun c => ?_⟩
      have hring := h.ring c
      cases c <;> exact hring
    have hsame : v.fail .kfreeHalBuf = v.post .kfreeHalBuf := rfl
    rw [hsame, ite_self]
    simp only [exec] at hrun
    split_ifs at hrun
    · rw [Option.some.injEq, Prod.mk.injEq] at hrun
      exact hforget hrun.1.symm
    · obtain ⟨mem, -, heq⟩ := Option.map_eq_some_iff.mp hrun
      rw [Prod.mk.injEq] at heq
      exact hforget heq.1.symm

end Sound

/-- `exec` does to a device what the views say. -/
theorem execView_sound (n : RingSizes) (env : CallEnv) : viewAbstraction.Sound (exec n env) := by
  intro op v dev dev' r hv hrun
  have h : v.Has dev := hv
  have hzero : ∀ {v' : View}, r = 0 ∧ v'.Has dev' → v' = v.post op →
      viewAbstraction.Has (if r = 0 then v.post op else v.fail op) dev' := by
    rintro v' ⟨hr, hv'⟩ rfl
    rw [if_pos hr]
    exact hv'
  have hsame : v.Has dev' → v.post op = v → v.fail op = v →
      viewAbstraction.Has (if r = 0 then v.post op else v.fail op) dev' := by
    intro hv' hpost hfail
    rw [hpost, hfail, ite_self]
    exact hv'
  cases op with
  | createWorkqueue => exact execView_acquire h (.inl rfl) hrun
  | ctrlOpen => exact execView_acquire h (.inr (.inl rfl)) hrun
  | requestIrq irq => exact execView_acquire h (.inr (.inr ⟨_, rfl⟩)) hrun
  | initInd => exact hzero (execView_caps h (.inl rfl) hrun) rfl
  | ctrlClose => exact hzero (execView_caps h (.inr (.inl rfl)) hrun) rfl
  | destroyWorkqueue => exact hzero (execView_caps h (.inr (.inr (.inl rfl))) hrun) rfl
  | destroyIndMutex => exact hzero (execView_caps h (.inr (.inr (.inr (.inl rfl)))) hrun) rfl
  | initVifList => exact hzero (execView_caps h (.inr (.inr (.inr (.inr (.inl rfl))))) hrun) rfl
  | initDxeLock => exact hzero (execView_caps h (.inr (.inr (.inr (.inr (.inr (.inl rfl)))))) hrun) rfl
  | destroyHalMutex =>
    exact hzero (execView_caps h (.inr (.inr (.inr (.inr (.inr (.inr (.inl rfl))))))) hrun) rfl
  | freeIrq irq =>
    exact hzero (execView_caps h (.inr (.inr (.inr (.inr (.inr (.inr (.inr ⟨_, rfl⟩))))))) hrun) rfl
  | configure c => exact execView_ring h (.inl rfl) hrun
  | allocateCtlBlock c => exact execView_ring h (.inr (.inl rfl)) hrun
  | freeCtlBlock c => exact execView_ring h (.inr (.inr (.inl rfl))) hrun
  | initDescs c => exact execView_ring h (.inr (.inr (.inr rfl))) hrun
  | initTxBd is_low => exact hsame (execView_loop h (.inl rfl) hrun) rfl rfl
  | programTx is_low => exact hsame (execView_loop h (.inr (.inl rfl)) hrun) rfl rfl
  | chAllocSkb is_low => exact hsame (execView_loop h (.inr (.inr (.inl rfl))) hrun) rfl rfl
  | chFreeSkbs is_low => exact hsame (execView_loop h (.inr (.inr (.inr rfl))) hrun) rfl rfl
  | allocateMemPool is_low => exact execView_mem h (.inl ⟨_, rfl⟩) hrun
  | freeMemPool is_low => exact execView_mem h (.inr (.inl ⟨_, rfl⟩)) hrun
  | kmallocHalBuf => exact execView_mem h (.inr (.inr (.inl rfl))) hrun
  | kfreeHalBuf => exact execView_mem h (.inr (.inr (.inr rfl))) hrun
  | programRx is_low =>
    obtain ⟨dev₁, hprog, heq⟩ := Option.map_eq_some_iff.mp hrun
    rw [Prod.mk.injEq] at heq
    obtain ⟨rfl, rfl⟩ := heq
    rw [if_pos rfl]
    have heq : dev₁ = dev := by
      unfold execProgramRx at hprog
      simp only [Option.bind_eq_bind, Option.bind_eq_some_iff, Option.some.injEq,
        Option.pure_def] at hprog
      obtain ⟨_, -, _, -, _, -, rfl⟩ := hprog
      rfl
    subst heq
    exact h.advance rfl rfl id (fun _ _ => rfl) fun hinit => (described_of_programRx hinit hprog).2
  | smsmChangeState =>
    simp only [exec, Option.some.injEq, Prod.mk.injEq] at hrun
    obtain ⟨rfl, rfl⟩ := hrun
    exact hsame (h.setTx (.of_eq fun _ => rfl)) rfl rfl
  | deinitTxAck =>
    simp only [exec, Option.some.injEq, Prod.mk.injEq] at hrun
    obtain ⟨rfl, rfl⟩ := hrun
    exact hsame (h.setTx (dxeDeinitTx_moves _)) rfl rfl
  | smd req =>
    cases req with
    | start =>
      simp only [exec, Option.some.injEq, Prod.mk.injEq] at hrun
      obtain ⟨rfl, rfl⟩ := hrun
      exact hsame (h.frame rfl rfl id fun c => by cases c <;> exact .refl _) rfl rfl
    | _ =>
      simp only [exec, Option.some.injEq, Prod.mk.injEq] at hrun
      obtain ⟨rfl, rfl⟩ := hrun
      exact hsame h rfl rfl

/-! ## Between the steps -/

/-- What happens between two steps leaves the view true: `hal_ind_work` can only become pending while the
channel is open. -/
theorem View.Has.run {v : View} {dev dev' : Dev} (h : v.Has dev)
    (hidle : v.idle = true → v.caps.smd_open = false) {e : RunEvent}
    (hcan : ∀ msg ind_ok msg_ok, e = .rspProcess msg ind_ok msg_ok → dev.smd_open = true)
    (hrun : e.effect dev = some dev') : v.Has dev' := by
  have htx : ∀ {te d}, RunEvent.txStep dev te = some d → v.Has d := by
    intro te d hd
    obtain ⟨tx, hstep, rfl⟩ := Option.map_eq_some_iff.mp hd
    exact h.setTx (txStep_moves hstep)
  -- The worker makes no step when it is idle.
  have hind : ∀ {ie d}, (∀ msg a b, ie = IndEvent.rspProcess msg a b → dev.smd_open = true) →
      RunEvent.indStep dev ie = some d → v.Has d := by
    intro ie d hopen hd
    obtain ⟨ind, hstep, rfl⟩ := Option.map_eq_some_iff.mp hd
    refine ⟨h.caps, fun hi => ?_, h.hal_buf, fun c => ?_⟩
    · obtain ⟨hpending, hworker⟩ := h.idle hi
      have hclosed : dev.smd_open = false := (congrArg Caps.smd_open h.caps).trans (hidle hi)
      cases indStep_of_step hstep with
      | ignore => exact ⟨hpending, hworker⟩
      | queue msg ind type isInd mutex =>
        rw [hopen msg true true rfl] at hclosed
        cases hclosed
      | start hpend _ =>
        rw [hpending] at hpend
        cases hpend
      | handle msg rest hw _ =>
        rw [hworker] at hw
        cases hw
      | del hw =>
        rw [hworker] at hw
        cases hw
      | ret hw =>
        rw [hworker] at hw
        cases hw
    · have hring := h.ring c
      cases c <;> exact hring
  cases e with
  | tx sta_priv skb => exact htx hrun
  | config mac => exact htx hrun
  | dma is_low => exact htx hrun
  | rxDma is_low i =>
    simp only [RunEvent.effect] at hrun
    split_ifs at hrun
    rw [Option.some.injEq] at hrun
    rw [← hrun]
    exact h.setRx_moves (.modDesc _ _ _)
  | txIrq is_low =>
    simp only [RunEvent.effect, Option.some.injEq] at hrun
    rw [← hrun]
    cases hreap : RunEvent.txStep dev (.reap is_low) with
    | none => exact h
    | some d => exact htx hreap
  | rxIrq is_low allocs =>
    simp only [RunEvent.effect] at hrun
    split at hrun
    · rename_i s hs
      split_ifs at hrun
      rw [Option.some.injEq] at hrun
      rw [← hrun]
      have hmoves := rxHandlePackets_moves hs
      exact h.setRx_moves hmoves
    · rw [Option.some.injEq] at hrun
      rw [← hrun]
      exact h
  | rspProcess msg ind_ok msg_ok => exact hind (fun _ _ _ _ => hcan _ _ _ rfl) hrun
  | workStart => exact hind (fun _ _ _ heq => by cases heq) hrun
  | workHandle =>
    obtain ⟨d, hd, rfl⟩ := Option.map_eq_some_iff.mp hrun
    have hv := hind (fun _ _ _ heq => by cases heq) hd
    refine hv.setTx ?_
    dsimp only [indEffect]
    split_ifs
    · exact dxeTxAckInd_moves _ _
    · exact .of_eq fun _ => rfl
  | workDel => exact hind (fun _ _ _ heq => by cases heq) hrun
  | workReturn => exact hind (fun _ _ _ heq => by cases heq) hrun

end Wcn36xx
