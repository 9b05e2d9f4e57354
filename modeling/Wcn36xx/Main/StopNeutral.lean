import Wcn36xx.Main.Ledger
import Wcn36xx.Main.View
import Wcn36xx.Txrx.Frames

/-!
# What a stop leaves behind

`wcn36xx_stop` is there to release what `wcn36xx_start` and the traffic since have acquired, and
`StopNeutral` says so resource by resource. The descriptors of a channel are an exception:
`wcn36xx_dxe_init_descs` takes them from `dma_alloc_coherent`, and no function of the driver gives them
back. A start cannot return 0 without the descriptors of an RX channel, because `wcn36xx_dxe_init`
follows the pointer to the first of them. So after every stop they are still held
(`not_stopNeutral`), and nothing can free them any more: `Lost`.
-/

namespace Wcn36xx

open Support (Abstraction Call Checked Demand Instr System check)

/-! ## The property -/

/-- What `dev'` has acquired since it was `dev` is released, the frames and the buffers once each. Freeing a
second time what is on the heap, a control block or an interrupt would be a fault. -/
structure StopNeutral (dev dev' : Dev) : Prop where
  /-- The BD pools, `hal_buf` and the descriptors. -/
  mem : ∀ p, dev.mem.next ≤ p → dev'.mem.cells p = none
  /-- The control blocks. -/
  ctl : ∀ c p, (dev.ch c).fresh ≤ p → (dev'.ch c).ctl p = none
  irq : ∀ irq, dev'.irq irq = false
  /-- The receive buffers. -/
  rx : ∀ is_low ptr, (dev'.rx is_low).balance ptr = (dev.rx is_low).balance ptr
  smd_open : dev'.smd_open = false
  hal_ind_wq : dev'.hal_ind_wq = false
  hal_ind_queue : dev'.ind.hal_ind_queue = []
  /-- The frames for which `wcn36xx_start_tx` has returned 0. -/
  tx : ∀ skb ∈ dev'.tx.accepted, skb ∉ dev.tx.accepted →
    dev'.tx.wcn.log.countP (fun e => e.Releases skb.ptr) = 1

/-- From the one state to the other the driver is started at least once, and stopped each time. -/
structure StartStop (n : RingSizes) (w w' : LifeWorld) : Prop where
  stopped : w.canCall .start = true
  run : ∃ es, (lifeSystem n).runFrom w es = some w'
  starts : w.starts < w'.starts
  stopped' : w'.canCall .start = true

/-! ## The heap -/

/-- Memory from `dma_alloc_coherent` is held, at an address from `base` on that is not that of a BD pool. -/
def Lost (base : ℕ) (dev : Dev) : Prop :=
  ∃ p size, base ≤ p ∧ dev.mem.cells p = some (.coherent size) ∧
    ∀ is_low, (dev.pool is_low).virt_addr ≠ p

/-- The pointers to the BD pools are null, or `dma_alloc_coherent` has returned them. -/
def Dev.PoolsOld (dev : Dev) : Prop := ∀ is_low, (dev.pool is_low).virt_addr < dev.mem.next

/-- What a step can do to the heap: nothing, an allocation, which may become a BD pool, or a release. What is
released is a BD pool or from `kmalloc`. -/
inductive HeapMove (dev dev' : Dev) : Prop
  | keep : dev'.mem = dev.mem → (∀ is_low, (dev'.pool is_low).virt_addr = (dev.pool is_low).virt_addr) →
      HeapMove dev dev'
  | alloc (a : Region) : dev'.mem = (dev.mem.alloc a).2 →
      (∀ is_low, (dev'.pool is_low).virt_addr = (dev.pool is_low).virt_addr ∨
        (dev'.pool is_low).virt_addr = dev.mem.next) → HeapMove dev dev'
  | free (p : ℕ) (a : Region) : dev.mem.free p a = some dev'.mem →
      (∀ is_low, (dev'.pool is_low).virt_addr = (dev.pool is_low).virt_addr) →
      (∀ size, a = .coherent size → ∃ is_low, (dev.pool is_low).virt_addr = p) → HeapMove dev dev'

namespace HeapMove

variable {dev dev' : Dev} (h : HeapMove dev dev')
include h

/-- Addresses are not given out again. -/
theorem next_le : dev.mem.next ≤ dev'.mem.next := by
  cases h with
  | keep hmem _ => rw [hmem]
  | alloc a hmem _ =>
    rw [hmem, Support.Heap.alloc_next]
    exact Nat.le_succ _
  | free p a hfree _ _ => exact Nat.le_of_eq (Support.Heap.free_eq_some hfree).2.1.symm

/-- The pointers to the BD pools stay below the next address. -/
theorem poolsOld (hold : dev.PoolsOld) : dev'.PoolsOld := by
  intro is_low
  have hlt : (dev.pool is_low).virt_addr < dev.mem.next := hold is_low
  have hle : dev.mem.next ≤ dev'.mem.next := h.next_le
  cases h with
  | keep _ hpool =>
    rw [hpool]
    exact Nat.lt_of_lt_of_le hlt hle
  | alloc a hmem hpool =>
    rcases hpool is_low with heq | heq
    · rw [heq]
      exact Nat.lt_of_lt_of_le hlt hle
    · rw [heq, hmem, Support.Heap.alloc_next]
      exact Nat.lt_succ_self _
  | free p a _ hpool _ =>
    rw [hpool]
    exact Nat.lt_of_lt_of_le hlt hle

/-- What is lost stays lost. -/
theorem lost {base : ℕ} (hlost : Lost base dev) : Lost base dev' := by
  obtain ⟨p, size, hbase, hcell, hne⟩ := hlost
  cases h with
  | keep hmem hpool =>
    refine ⟨p, size, hbase, ?_, fun is_low => ?_⟩
    · rw [hmem]
      exact hcell
    · rw [hpool]
      exact hne is_low
  | alloc a hmem hpool =>
    refine ⟨p, size, hbase, ?_, fun is_low => ?_⟩
    · rw [hmem]
      exact dev.mem.alloc_cells_of_some hcell
    · rcases hpool is_low with heq | heq
      · rw [heq]
        exact hne is_low
      · rw [heq]
        exact Nat.ne_of_gt (dev.mem.lt_next hcell)
  | free q a hfree hpool hown =>
    have hpq : p ≠ q := by
      rintro rfl
      have ha : a = .coherent size := by
        rw [(Support.Heap.free_eq_some hfree).1, Option.some.injEq] at hcell
        exact hcell
      obtain ⟨is_low, heq⟩ := hown size ha
      exact hne is_low heq
    refine ⟨p, size, hbase, ?_, fun is_low => ?_⟩
    · rw [Support.Heap.free_cells_ne hfree hpq]
      exact hcell
    · rw [hpool]
      exact hne is_low

end HeapMove

section Moves

variable {n : RingSizes} {env : CallEnv} {dev dev' : Dev} {r : ℤ}

/-- Writing a channel back does not touch the heap. -/
theorem HeapMove.setCh (c : DxeChType) (ch : DxeCh) : HeapMove dev (dev.setCh c ch) := by
  cases c <;> exact .keep rfl fun is_low => by cases is_low <;> rfl

/-- Nor does writing a receive channel back. -/
theorem HeapMove.setRx (is_low : Bool) (s : RxState) : HeapMove dev (dev.setRx is_low s) := by
  cases is_low <;> exact .keep rfl fun b => by cases b <;> rfl

/-- `wcn36xx_dxe_init_descs` allocates the descriptors, if there is memory for them. -/
theorem heapMove_initDescs {c : DxeChType} (hrun : execInitDescs env c dev = some (dev', r)) :
    HeapMove dev dev' := by
  unfold execInitDescs at hrun
  cases hcoherent : env.coherent c with
  | none =>
    rw [hcoherent] at hrun
    obtain ⟨ch, -, heq⟩ := Option.map_eq_some_iff.mp hrun
    rw [Prod.mk.injEq] at heq
    rw [← heq.1]
    exact .setCh c ch.1
  | some dma_addr =>
    rw [hcoherent] at hrun
    obtain ⟨ch, -, heq⟩ := Option.map_eq_some_iff.mp hrun
    rw [Prod.mk.injEq] at heq
    rw [← heq.1]
    refine .alloc (.coherent ((dev.ch c).desc_num * DxeDesc.size)) ?_ fun is_low => Or.inl ?_
    · cases c <;> rfl
    · cases c <;> cases is_low <;> rfl

/-- If there is, they are lost at once: their address is only kept in the channel. -/
theorem lost_initDescs {base : ℕ} (hbase : base ≤ dev.mem.next) (hold : dev.PoolsOld)
    {c : DxeChType} (hmem : env.coherent c ≠ none)
    (hrun : execInitDescs env c dev = some (dev', r)) : Lost base dev' := by
  obtain ⟨dma_addr, hcoherent⟩ := Option.ne_none_iff_exists'.mp hmem
  unfold execInitDescs at hrun
  rw [hcoherent] at hrun
  obtain ⟨ch, -, heq⟩ := Option.map_eq_some_iff.mp hrun
  rw [Prod.mk.injEq] at heq
  rw [← heq.1]
  refine ⟨dev.mem.next, (dev.ch c).desc_num * DxeDesc.size, hbase, ?_, fun is_low => ?_⟩
  · cases c <;> exact Function.update_self ..
  · have hlt : (dev.pool is_low).virt_addr < dev.mem.next := hold is_low
    cases c <;> cases is_low <;> exact Nat.ne_of_lt hlt

/-- The BD pools and `hal_buf`. -/
theorem heapMove_mem {op : LifeOp} (hop : (∃ is_low, op = .allocateMemPool is_low) ∨
      (∃ is_low, op = .freeMemPool is_low) ∨ op = .kmallocHalBuf ∨ op = .kfreeHalBuf)
    (hrun : exec n env op dev = some (dev', r)) : HeapMove dev dev' := by
  rcases hop with ⟨is_low, rfl⟩ | ⟨is_low, rfl⟩ | rfl | rfl
  · simp only [exec, execAllocateMemPool, Option.some.injEq] at hrun
    split at hrun
    · rw [Prod.mk.injEq] at hrun
      rw [← hrun.1]
      cases is_low <;> exact .keep rfl fun b => by cases b <;> rfl
    · rw [Prod.mk.injEq] at hrun
      rw [← hrun.1]
      refine .alloc (.coherent (bdChunkSize * n.num (txType is_low))) (by cases is_low <;> rfl)
        fun b => ?_
      cases is_low <;> cases b <;> first | exact Or.inl rfl | exact Or.inr rfl
  · obtain ⟨dev₁, hfree, heq⟩ := Option.map_eq_some_iff.mp hrun
    rw [Prod.mk.injEq] at heq
    rw [← heq.1]
    unfold execFreeMemPool at hfree
    dsimp only at hfree
    split_ifs at hfree
    · rw [Option.some.injEq] at hfree
      rw [← hfree]
      exact .keep rfl fun _ => rfl
    · obtain ⟨mem, hmem, rfl⟩ := Option.map_eq_some_iff.mp hfree
      refine .free _ _ hmem (fun b => ?_) fun _ _ => ⟨is_low, rfl⟩
      cases b <;> rfl
  · simp only [exec] at hrun
    split_ifs at hrun
    · rw [Option.some.injEq, Prod.mk.injEq] at hrun
      rw [← hrun.1]
      refine .alloc (.kmalloc WCN36XX_HAL_BUF_SIZE) rfl fun b => Or.inl ?_
      cases b <;> rfl
    · rw [Option.some.injEq, Prod.mk.injEq] at hrun
      rw [← hrun.1]
      refine .keep rfl fun b => ?_
      cases b <;> rfl
  · simp only [exec] at hrun
    split_ifs at hrun
    · rw [Option.some.injEq, Prod.mk.injEq] at hrun
      rw [← hrun.1]
      exact .keep rfl fun _ => rfl
    · obtain ⟨mem, hmem, heq⟩ := Option.map_eq_some_iff.mp hrun
      rw [Prod.mk.injEq] at heq
      rw [← heq.1]
      refine .free _ _ hmem (fun b => ?_) fun size hkind => by cases hkind
      cases b <;> rfl

/-- A step of a call. -/
theorem exec_heapMove {op : LifeOp} (hrun : exec n env op dev = some (dev', r)) :
    HeapMove dev dev' := by
  cases op with
  | allocateMemPool is_low => exact heapMove_mem (.inl ⟨_, rfl⟩) hrun
  | freeMemPool is_low => exact heapMove_mem (.inr (.inl ⟨_, rfl⟩)) hrun
  | kmallocHalBuf => exact heapMove_mem (.inr (.inr (.inl rfl))) hrun
  | kfreeHalBuf => exact heapMove_mem (.inr (.inr (.inr rfl))) hrun
  | initDescs c => exact heapMove_initDescs hrun
  | configure c =>
    simp only [exec, Option.some.injEq, Prod.mk.injEq] at hrun
    rw [← hrun.1]
    exact .setCh ..
  | allocateCtlBlock c | freeCtlBlock c | initTxBd is_low =>
    obtain ⟨ch, -, heq⟩ := Option.map_eq_some_iff.mp hrun
    rw [Prod.mk.injEq] at heq
    rw [← heq.1]
    exact .setCh ..
  | chAllocSkb is_low | chFreeSkbs is_low =>
    obtain ⟨s, -, heq⟩ := Option.map_eq_some_iff.mp hrun
    rw [Prod.mk.injEq] at heq
    rw [← heq.1]
    exact .setRx ..
  | programTx is_low | programRx is_low =>
    obtain ⟨dev₁, hprog, heq⟩ := Option.map_eq_some_iff.mp hrun
    rw [Prod.mk.injEq] at heq
    obtain ⟨rfl, -⟩ := heq
    simp only [execProgramTx, execProgramRx, Option.bind_eq_bind, Option.bind_eq_some_iff,
      Option.some.injEq, Option.pure_def] at hprog
    obtain ⟨_, -, _, -, hprog⟩ := hprog
    first
      | exact hprog ▸ .keep rfl fun b => by cases b <;> rfl
      | obtain ⟨_, -, rfl⟩ := hprog
        exact .keep rfl fun _ => rfl
  | ctrlClose =>
    obtain ⟨msm, -, heq⟩ := Option.map_eq_some_iff.mp hrun
    rw [Prod.mk.injEq] at heq
    rw [← heq.1]
    exact .keep rfl fun b => by cases b <;> rfl
  | destroyWorkqueue =>
    simp only [exec, execDestroyWorkqueue] at hrun
    split_ifs at hrun
    · rw [Option.map_some, Option.some.injEq, Prod.mk.injEq] at hrun
      rw [← hrun.1]
      exact .keep rfl fun b => by cases b <;> rfl
    · cases hrun
  | requestIrq irq =>
    simp only [exec] at hrun
    split_ifs at hrun <;> rw [Option.some.injEq, Prod.mk.injEq] at hrun <;> rw [← hrun.1]
    · cases irq <;> exact .keep rfl fun b => by cases b <;> rfl
    · exact .keep rfl fun _ => rfl
  | freeIrq irq =>
    simp only [exec] at hrun
    split_ifs at hrun
    rw [Option.some.injEq, Prod.mk.injEq] at hrun
    rw [← hrun.1]
    cases irq <;> exact .keep rfl fun b => by cases b <;> rfl
  | smd req =>
    cases req with
    | start =>
      simp only [exec, Option.some.injEq, Prod.mk.injEq] at hrun
      rw [← hrun.1]
      exact .keep rfl fun b => by cases b <;> rfl
    | _ =>
      simp only [exec, Option.some.injEq, Prod.mk.injEq] at hrun
      rw [← hrun.1]
      exact .keep rfl fun _ => rfl
  | _ =>
    simp only [exec, Option.some.injEq, Prod.mk.injEq] at hrun
    rw [← hrun.1]
    exact .keep rfl fun b => by cases b <;> rfl

/-- What happens between two steps. -/
theorem RunEvent.heapMove {e : RunEvent} (hrun : e.effect dev = some dev') : HeapMove dev dev' := by
  have htx : ∀ {te d}, RunEvent.txStep dev te = some d → HeapMove dev d := by
    intro te d hd
    obtain ⟨tx, -, rfl⟩ := Option.map_eq_some_iff.mp hd
    exact .keep rfl fun b => by cases b <;> rfl
  have hind : ∀ {ie d}, RunEvent.indStep dev ie = some d → HeapMove dev d := by
    intro ie d hd
    obtain ⟨ind, -, rfl⟩ := Option.map_eq_some_iff.mp hd
    exact .keep rfl fun b => by cases b <;> rfl
  cases e with
  | tx sta_priv skb => exact htx hrun
  | config mac => exact htx hrun
  | dma is_low => exact htx hrun
  | rxDma is_low i =>
    simp only [RunEvent.effect] at hrun
    split_ifs at hrun
    rw [Option.some.injEq] at hrun
    rw [← hrun]
    exact .setRx ..
  | txIrq is_low =>
    simp only [RunEvent.effect, Option.some.injEq] at hrun
    rw [← hrun]
    cases hreap : RunEvent.txStep dev (.reap is_low) with
    | none => exact .keep rfl fun _ => rfl
    | some d => exact htx hreap
  | rxIrq is_low allocs =>
    simp only [RunEvent.effect] at hrun
    split at hrun
    · split_ifs at hrun
      rw [Option.some.injEq] at hrun
      rw [← hrun]
      exact .setRx ..
    · rw [Option.some.injEq] at hrun
      rw [← hrun]
      exact .keep rfl fun _ => rfl
  | workHandle =>
    obtain ⟨d, hd, rfl⟩ := Option.map_eq_some_iff.mp hrun
    obtain ⟨ind, -, rfl⟩ := Option.map_eq_some_iff.mp hd
    exact .keep rfl fun b => by cases b <;> rfl
  | rspProcess msg ind_ok msg_ok => exact hind hrun
  | workStart => exact hind hrun
  | workDel => exact hind hrun
  | workReturn => exact hind hrun

end Moves

/-! ## A start that returns 0 -/

/-- A view that only knows how far the ring of an RX channel is. -/
def rxView (caps : Caps) (s : RingState) : View where
  caps := caps
  idle := false
  hal_buf := false
  ring := ⟨.absent, .absent, s, .absent⟩

/-- A view in which nothing can run. -/
def rxBlank (s : RingState) : View := rxView ⟨false, false, false, false, false, false, false, false⟩ s

/-- What is known of a device of which the ring of `dxe_rx_l_ch` is in a state: after
`wcn36xx_dxe_init_descs` the descriptors are lost or there are none, and once the registers are programmed
they are lost. -/
structure RxLost (base : ℕ) (s : RingState) (dev : Dev) : Prop where
  next : base ≤ dev.mem.next
  poolsOld : dev.PoolsOld
  ring : s.Has (dev.ch .rxL)
  initialized : s = .initialized → Lost base dev ∨ RingState.bare.Has (dev.ch .rxL)
  described : s = .described → Lost base dev

/-- How the ring of `dxe_rx_l_ch` gets from one state to the next. -/
def rxAbstraction (base : ℕ) : Abstraction LifeOp Dev RingState where
  Has := RxLost base
  post op s := ((rxBlank s).post op).ring.rxL
  fail op s := ((rxBlank s).fail op).ring.rxL

namespace View

/-- What becomes of the rings is decided by the rings. -/
theorem ring_post {v w : View} (h : v.ring = w.ring) (op : LifeOp) :
    (v.post op).ring = (w.post op).ring := by
  cases op with
  | requestIrq irq | freeIrq irq => cases irq <;> exact h
  | _ => simp only [post, advance, h]

/-- Also when the step fails. -/
theorem ring_fail {v w : View} (h : v.ring = w.ring) (op : LifeOp) :
    (v.fail op).ring = (w.fail op).ring := by
  cases op with
  | allocateCtlBlock c => simp only [fail, h]
  | createWorkqueue | ctrlOpen | kmallocHalBuf | requestIrq irq => exact h
  | _ => exact ring_post h _

end View

section Next

variable {next : LifeOp → View → View} (hnext : next = View.post ∨ next = View.fail)
include hnext

/-- Whether they succeed or fail, only five operations are about the ring. -/
theorem rx_keeps (op : LifeOp) : (∀ s, (next op (rxBlank s)).ring.rxL = s) ∨ op = .configure .rxL ∨
    op = .allocateCtlBlock .rxL ∨ op = .freeCtlBlock .rxL ∨ op = .initDescs .rxL ∨
    op = .programRx true := by
  rcases hnext with rfl | rfl
  · cases op with
    | configure c | allocateCtlBlock c | freeCtlBlock c | initDescs c =>
      cases c with
      | rxL => simp
      | txL | txH | rxH => exact Or.inl fun _ => rfl
    | programRx is_low =>
      cases is_low with
      | true => simp
      | false => exact Or.inl fun _ => rfl
    | requestIrq irq | freeIrq irq => cases irq <;> exact Or.inl fun _ => rfl
    | _ => exact Or.inl fun _ => rfl
  · cases op with
    | configure c | allocateCtlBlock c | freeCtlBlock c | initDescs c =>
      cases c with
      | rxL => simp
      | txL | txH | rxH => exact Or.inl fun _ => rfl
    | programRx is_low =>
      cases is_low with
      | true => simp
      | false => exact Or.inl fun _ => rfl
    | freeIrq irq => cases irq <;> exact Or.inl fun _ => rfl
    | _ => exact Or.inl fun _ => rfl

variable {op : LifeOp} {s : RingState}

/-- The ring is initialized only by `wcn36xx_dxe_init_descs`, and stays so no longer than the ring of control
blocks would. -/
theorem rx_initialized (h : (next op (rxBlank s)).ring.rxL = .initialized) :
    (s = .bare ∧ op = .initDescs .rxL) ∨
      (s = .initialized ∧ (next op (rxBlank .bare)).ring.rxL = .bare) := by
  rcases rx_keeps hnext op with hkeep | rfl | rfl | rfl | rfl | rfl
  · rw [hkeep] at h
    exact Or.inr ⟨h, hkeep _⟩
  all_goals rcases hnext with rfl | rfl <;> cases s <;> revert h <;> decide

/-- It is described only when the registers are programmed. -/
theorem rx_described (h : (next op (rxBlank s)).ring.rxL = .described) :
    (s = .initialized ∧ op = .programRx true) ∨ s = .described := by
  rcases rx_keeps hnext op with hkeep | rfl | rfl | rfl | rfl | rfl
  · rw [hkeep] at h
    exact Or.inr h
  all_goals rcases hnext with rfl | rfl <;> cases s <;> revert h <;> decide

end Next

section Starting

variable {n : RingSizes} {env : CallEnv} {dev dev' : Dev} {r : ℤ} {base : ℕ} {s : RingState}

/-- What is known of one ring is a view. -/
theorem RingState.Has.rxView (h : s.Has (dev.ch .rxL)) : (rxView dev.caps s).Has dev where
  caps := rfl
  idle hi := Bool.noConfusion hi
  hal_buf hb := Bool.noConfusion hb
  ring c := by
    cases c with
    | rxL => exact h
    | txL | txH | rxH => trivial

/-- Without descriptors the registers of an RX channel are not programmed: there is no first descriptor to
take the destination address from. -/
theorem not_programRx_of_bare {is_low : Bool} (h : RingState.bare.Has (dev.ch (rxType is_low))) :
    execProgramRx is_low dev ≠ some dev' := by
  intro hrun
  obtain ⟨base, hring, hbare⟩ := h
  obtain ⟨k, hk⟩ := hring.head
  unfold execProgramRx at hrun
  simp only [Option.bind_eq_bind, Option.bind_eq_some_iff, Option.some.injEq,
    Option.pure_def] at hrun
  obtain ⟨head, hhead, c, hc, i, hi, -⟩ := hrun
  rw [hhead, Option.some.injEq] at hk
  rw [hbare k c (hk ▸ hc)] at hi
  cases hi

/-- One step, whichever way the view goes on. -/
theorem RxLost.next_step (h : RxLost base s dev) {next : LifeOp → View → View}
    (hnext : next = View.post ∨ next = View.fail) {op : LifeOp}
    (hsound : ∀ v : View, v.Has dev → (next op v).Has dev')
    (hrun : exec n env op dev = some (dev', r)) :
    RxLost base (next op (rxBlank s)).ring.rxL dev' := by
  have hmove : HeapMove dev dev' := exec_heapMove hrun
  -- The rings go on without the rest of the view.
  have hring : ∀ {s : RingState}, s.Has (dev.ch .rxL) →
      (next op (rxBlank s)).ring.rxL.Has (dev'.ch .rxL) := by
    intro s hs
    have hrings : (rxBlank s).ring = (rxView dev.caps s).ring := rfl
    have hsame : (next op (rxBlank s)).ring = (next op (rxView dev.caps s)).ring := by
      rcases hnext with rfl | rfl
      · exact View.ring_post hrings op
      · exact View.ring_fail hrings op
    rw [hsame]
    exact (hsound _ hs.rxView).ring .rxL
  refine ⟨h.next.trans hmove.next_le, hmove.poolsOld h.poolsOld, hring h.ring, fun hinit => ?_,
    fun hdesc => ?_⟩
  · rcases rx_initialized hnext hinit with ⟨rfl, rfl⟩ | ⟨rfl, hbare⟩
    · -- The descriptors have just been allocated, or there was no memory for them.
      by_cases hmem : env.coherent .rxL = none
      · right
        simp only [exec, execInitDescs, hmem] at hrun
        obtain ⟨ch, hch, heq⟩ := Option.map_eq_some_iff.mp hrun
        obtain ⟨hch, -⟩ := dxeInitDescs_none hch
        rw [Prod.mk.injEq] at heq
        rw [← heq.1, Dev.ch_setCh, hch]
        obtain ⟨b, hat, hno⟩ := h.ring
        exact ⟨b, ⟨hat.two_le, hat.ctl, hat.head, hat.tail⟩, hno⟩
      · exact Or.inl (lost_initDescs h.next h.poolsOld hmem hrun)
    · refine (h.initialized rfl).imp hmove.lost fun hhas => ?_
      rw [← hbare]
      exact hring hhas
  · rcases rx_described hnext hdesc with ⟨rfl, rfl⟩ | rfl
    · rcases h.initialized rfl with hlost | hbare
      · exact hmove.lost hlost
      · have hnone : RingState.bare.Has (dev.ch (rxType true)) := hbare
        obtain ⟨d, hprog, -⟩ := Option.map_eq_some_iff.mp hrun
        exact absurd hprog (not_programRx_of_bare hnone)
    · exact hmove.lost (h.described rfl)

/-- `exec` does to a device what its states say. -/
theorem rxAbstraction_sound (n : RingSizes) (env : CallEnv) (base : ℕ) :
    (rxAbstraction base).Sound (exec n env) := by
  intro op s dev dev' r h hrun
  have hview := fun (v : View) (hv : v.Has dev) => execView_sound n env op v dev dev' r hv hrun
  by_cases hr : r = 0
  · simp only [if_pos hr] at hview ⊢
    exact RxLost.next_step h (Or.inl rfl) hview hrun
  · simp only [if_neg hr] at hview ⊢
    exact RxLost.next_step h (Or.inr rfl) hview hrun

/-- What is demanded of a start: where it returns 0, the ring of `dxe_rx_l_ch` has its descriptors. -/
def rxDemand : Demand LifeOp RingState := ⟨fun _ _ => true, fun s => s == .described, fun _ => true⟩

/-- `wcn36xx_start` programs the registers of the channel. -/
theorem check_rx (base : ℕ) :
    check (rxAbstraction base) rxDemand startScript .absent = true := rfl

/-- Before a call nothing is known of the ring. -/
theorem RxLost.absent (hbase : base ≤ dev.mem.next) (hold : dev.PoolsOld) :
    RxLost base .absent dev where
  next := hbase
  poolsOld := hold
  ring := trivial
  initialized hs := by cases hs
  described hs := by cases hs

end Starting

/-! ## The runs -/

/-- The invariant from a state on in which `base` was the next address, and the driver had been started
`starts` times. -/
structure LossInv (base starts : ℕ) (w : LifeWorld) : Prop where
  next : base ≤ w.dev.mem.next
  poolsOld : w.dev.PoolsOld
  lost : starts < w.starts → Lost base w.dev
  starting : ∀ r, w.running = some r → r.fn = .start →
    ∃ s, RxLost base s w.dev ∧ Checked (rxAbstraction base) rxDemand r.call s

namespace LossInv

variable {base starts : ℕ} {w : LifeWorld} (h : LossInv base starts w)
include h

/-- A call begins. -/
theorem call (fn : LifeFn) (env : CallEnv) :
    LossInv base starts
      { w with running := some ⟨fn, env, ⟨w.script fn, 0⟩⟩, started := false } where
  next := h.next
  poolsOld := h.poolsOld
  lost := h.lost
  starting r hr hfn := by
    obtain rfl : _ = r := Option.some.inj hr
    obtain rfl : fn = .start := hfn
    exact ⟨.absent, .absent h.next h.poolsOld, .main (check_rx base)⟩

/-- The next step of a call. -/
theorem op {n : RingSizes} {r : Running} (hr : w.running = some r) {call : Call LifeOp} {dev : Dev}
    (hstep : r.call.step (exec n r.env) w.dev = some (call, dev)) :
    LossInv base starts
      { w.use (r.uses w.dev) with dev := dev, running := some { r with call := call } } := by
  obtain ⟨i, res, hexec⟩ := Call.exec_of_step hstep
  have hmove : HeapMove w.dev dev := exec_heapMove hexec
  refine ⟨h.next.trans hmove.next_le, hmove.poolsOld h.poolsOld,
    fun hlt => hmove.lost (h.lost hlt), fun r' hr' hfn => ?_⟩
  obtain rfl : _ = r' := Option.some.inj hr'
  obtain ⟨s, hknown, hchecked⟩ := h.starting r hr hfn
  obtain ⟨s', hchecked', hknown'⟩ :=
    hchecked.step (rxAbstraction_sound n r.env base) hknown hstep
  exact ⟨s', hknown', hchecked'⟩

/-- A call returns. If it is a start and returns 0, the descriptors are lost. -/
theorem ret {r : Running} (hr : w.running = some r) (hrest : r.call.rest = []) :
    LossInv base starts (w.finish r) := by
  obtain ⟨fn, env, rest, ret⟩ := r
  obtain rfl : rest = [] := hrest
  cases fn with
  | stop | remove => exact ⟨h.next, h.poolsOld, h.lost, fun _ hnone => by cases hnone⟩
  | start =>
    by_cases hret : ret = 0
    · subst hret
      obtain ⟨s, hknown, hchecked⟩ := h.starting _ hr rfl
      obtain rfl : s = .described := beq_iff_eq.mp hchecked.done
      exact ⟨h.next, h.poolsOld, fun _ => hknown.described rfl, fun _ hnone => by cases hnone⟩
    · rw [LifeWorld.finish, if_neg hret]
      exact ⟨h.next, h.poolsOld, h.lost, fun _ hnone => by cases hnone⟩

/-- Something else happens. -/
theorem run {e : RunEvent} (hcan : w.canRun e = true) {dev : Dev} (hrun : e.effect w.dev = some dev) :
    LossInv base starts { w.use (e.uses w.dev) with dev := dev } := by
  have hmove : HeapMove w.dev dev := RunEvent.heapMove hrun
  refine ⟨h.next.trans hmove.next_le, hmove.poolsOld h.poolsOld,
    fun hlt => hmove.lost (h.lost hlt), fun r hr hfn => ?_⟩
  obtain ⟨s, hknown, hchecked⟩ := h.starting r hr hfn
  have hopen : ∀ msg ind_ok msg_ok, e = .rspProcess msg ind_ok msg_ok → w.dev.smd_open = true := by
    rintro msg ind_ok msg_ok rfl
    exact hcan
  -- Whatever the ring is known to be, it still is.
  have hkeep : ∀ {s : RingState}, s.Has (w.dev.ch .rxL) → s.Has (dev.ch .rxL) := fun hs =>
    (hs.rxView.run (fun hi => Bool.noConfusion hi) hopen hrun).ring .rxL
  exact ⟨s, ⟨h.next.trans hmove.next_le, hmove.poolsOld h.poolsOld, hkeep hknown.ring,
    fun hs => (hknown.initialized hs).imp hmove.lost hkeep,
    fun hs => hmove.lost (hknown.described hs)⟩, hchecked⟩

/-- A step keeps the invariant. -/
theorem step {n : RingSizes} {e : LifeEvent} {w' : LifeWorld}
    (hstep : (lifeSystem n).step w e = some w') : LossInv base starts w' := by
  cases lifeStep_of_step hstep with
  | probe _ =>
    refine ⟨h.next, h.poolsOld, h.lost, fun r hr hfn => ?_⟩
    obtain ⟨s, hknown, hchecked⟩ := h.starting r hr hfn
    exact ⟨s, ⟨hknown.next, hknown.poolsOld, hknown.ring, hknown.initialized, hknown.described⟩,
      hchecked⟩
  | call fn env _ => exact h.call fn env
  | op r call dev hr hcall => exact h.op hr hcall
  | ret r hr hrest => exact h.ret hr hrest
  | run e dev hcan heffect => exact h.run hcan heffect

end LossInv

/-- In every reachable state the pointers to the BD pools are old. -/
theorem poolsOld_of_reachable {n : RingSizes} {w : LifeWorld} (h : (lifeSystem n).Reachable w) :
    w.dev.PoolsOld := by
  have hinv : LossInv 0 0 w := h.invariant (fun s hs => by
    obtain rfl : s = {} := hs
    refine ⟨Nat.zero_le _, fun is_low => ?_, fun hlt => absurd hlt (Nat.lt_irrefl _),
      fun _ hnone => by cases hnone⟩
    cases is_low <;> exact Nat.one_pos) fun _ _ _ hs hstep => hs.step hstep
  exact hinv.poolsOld

/-- No cycles of start and stop are neutral, whatever has happened in between: the descriptors of
`dxe_rx_l_ch` are still held, and lost. -/
theorem not_stopNeutral (n : RingSizes) {w w' : LifeWorld} (h : (lifeSystem n).Reachable w)
    (hcycles : StartStop n w w') : ¬StopNeutral w.dev w'.dev := by
  obtain ⟨es, hrun⟩ := hcycles.run
  have hidle : w.running = none := by
    have hcan := hcycles.stopped
    simp only [LifeWorld.canCall, Bool.and_eq_true, Option.isNone_iff_eq_none] at hcan
    exact hcan.1.2
  have hinit : LossInv w.dev.mem.next w.starts w := by
    refine ⟨Nat.le_refl _, poolsOld_of_reachable h, fun hlt => absurd hlt (Nat.lt_irrefl _),
      fun r hr => ?_⟩
    rw [hidle] at hr
    cases hr
  have hinv : LossInv w.dev.mem.next w.starts w' :=
    System.runFrom_invariant (Q := fun _ => True) (fun _ _ _ hs _ hstep => hs.step hstep) hinit
      (fun _ _ => trivial) hrun
  obtain ⟨p, size, hbase, hcell, -⟩ := hinv.lost hcycles.starts
  intro hneutral
  rw [hneutral.mem p hbase] at hcell
  cases hcell

/-- With rings of two descriptors: a start, an indication and both interrupts, and a stop. -/
theorem not_stopNeutral_once :
    ∃ n w w', (lifeSystem n).Reachable w ∧ StartStop n w w' ∧ ¬StopNeutral w.dev w'.dev := by
  let n : RingSizes := ⟨fun _ => 2, fun _ => Nat.le_refl 2⟩
  let w : LifeWorld := { phase := .registered, dev := { hal_mutex := true } }
  have hprobe : (lifeSystem n).runFrom {} [.probe] = some w := rfl
  have hreach : (lifeSystem n).Reachable w := System.Reachable.runFrom (.init rfl) hprobe
  obtain ⟨w', hrun, hw'⟩ : ∃ w', (lifeSystem n).runFrom w
      (List.flatten [[.call .start {}], List.replicate 35 .op,
        [.ret, .run (.rspProcess (txComplInd 1) true true), .run .workStart, .run .workHandle,
          .run .workDel, .run .workReturn, .run (.txIrq true), .run (.rxIrq false []),
          .call .stop {}], List.replicate 16 .op, [.ret]]) = some w' ∧
      (fun w' : LifeWorld => decide (w'.starts = 1) && w'.canCall .start) w' = true :=
    (Option.any_eq_true _ _).mp (by decide +kernel)
  simp only [Bool.and_eq_true, decide_eq_true_eq] at hw'
  have hcycles : StartStop n w w' := ⟨rfl, ⟨_, hrun⟩, by rw [hw'.1]; exact Nat.one_pos, hw'.2⟩
  exact ⟨n, w, w', hreach, hcycles, not_stopNeutral n hreach hcycles⟩

/-- A start and a stop, with nothing in between: the descriptors of `dxe_rx_l_ch` are at the sixth
address. -/
theorem stopNeutral_fails_on_descs :
    ∃ n w w', (lifeSystem n).Reachable w ∧ StartStop n w w' ∧ ¬StopNeutral w.dev w'.dev := by
  let n : RingSizes := ⟨fun _ => 2, fun _ => Nat.le_refl 2⟩
  let w : LifeWorld := { phase := .registered, dev := { hal_mutex := true } }
  have hprobe : (lifeSystem n).runFrom {} [.probe] = some w := rfl
  have hreach : (lifeSystem n).Reachable w := System.Reachable.runFrom (.init rfl) hprobe
  obtain ⟨w', hrun, hw'⟩ : ∃ w', (lifeSystem n).runFrom w
      (List.flatten [[.call .start {}], List.replicate 35 .op, [.ret, .call .stop {}],
        List.replicate 16 .op, [.ret]]) = some w' ∧
      (fun w' : LifeWorld => decide (w'.starts = 1) && w'.canCall .start &&
        (w'.dev.mem.cells 6).isSome) w' = true :=
    (Option.any_eq_true _ _).mp (by decide +kernel)
  simp only [Bool.and_eq_true, decide_eq_true_eq] at hw'
  obtain ⟨⟨hstarts, hstopped⟩, hheld⟩ := hw'
  refine ⟨n, w, w', hreach, ⟨rfl, ⟨_, hrun⟩, by rw [hstarts]; exact Nat.one_pos, hstopped⟩, ?_⟩
  intro hneutral
  rw [hneutral.mem 6 (by decide)] at hheld
  cases hheld

end Wcn36xx
