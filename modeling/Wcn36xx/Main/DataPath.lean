import Wcn36xx.Dxe.RxEngine
import Wcn36xx.Main.Lifecycle
import Wcn36xx.Txrx.TxEngine

/-!
# From the start to the data path

`txSystem`, `rxDataSystem` and the systems with the engines start where a set-up leaves the channels. Here it
is the first `wcn36xx_start` of a device that leaves them there. `ChStage` says how far the start is with a
channel, and the rule of checked scripts carries it along, once for each channel: what the other steps do
does not matter to it.

`wcn36xx_dxe_init` does not look at what `wcn36xx_dxe_init_descs` returns. Without memory for the descriptors
of an RX channel the start does not come to an end; without memory for those of a TX channel it returns 0 all
the same, and that channel has no descriptors.
-/

namespace Wcn36xx

open Support (Abstraction Demand check runScript_check)

/-! ## One channel -/

/-- Four descriptors in each ring. -/
def fourEach : RingSizes where
  num _ := 4
  two_le _ := by decide

/-- How far a first `wcn36xx_start` is with a channel. -/
inductive ChStage where
  | unknown
  | zeroed
  | configured
  /-- The control blocks are a ring. -/
  | allocated
  /-- `wcn36xx_dxe_init_descs` has run, with or without success. -/
  | described
  /-- The BD pointers, or the buffers, are there. -/
  | filled
  /-- The registers are programmed. -/
  | armed
  deriving DecidableEq, Repr

namespace ChStage

/-- From one stage to the next. -/
def next (st src dst : ChStage) : ChStage := if st = src then dst else .unknown

/-- What a step makes of the stage of the channel `c`. -/
def post (c : DxeChType) (op : LifeOp) (st : ChStage) : ChStage :=
  match op with
  | .configure c' => if c' = c then st.next .zeroed .configured else st
  | .allocateCtlBlock c' => if c' = c then st.next .configured .allocated else st
  | .initDescs c' => if c' = c then st.next .allocated .described else st
  | .initTxBd is_low => if txType is_low = c then st.next .described .filled else st
  | .chAllocSkb is_low => if rxType is_low = c then st.next .described .filled else st
  | .freeCtlBlock c' => if c' = c then .unknown else st
  | .chFreeSkbs is_low => if rxType is_low = c then .unknown else st
  | .programTx is_low => if txType is_low = c then st.next .filled .armed else st
  | .programRx is_low => if rxType is_low = c then st.next .filled .armed else st
  | .deinitTxAck => .unknown
  | _ => st

/-- What a step that fails makes of it. -/
def fail (c : DxeChType) (op : LifeOp) (st : ChStage) : ChStage :=
  match op with
  | .allocateCtlBlock c' => if c' = c then .unknown else st
  | op => st.post c op

end ChStage

/-- The assignments of `wcn36xx_dxe_alloc_ctl_blks` to a TX channel that is zero. -/
theorem configure_txType (is_low : Bool) (num : ℕ) :
    zeroCh.configure num (txType is_low) = txChConfig is_low num := by
  cases is_low <;> rfl

/-- And to an RX channel. -/
theorem configure_rxType (is_low : Bool) (num : ℕ) :
    zeroCh.configure num (rxType is_low) = rxChConfig is_low num := by
  cases is_low <;> rfl

/-- The channels of one direction are two, and they are none of the other direction. -/
theorem txType_inj {a b : Bool} : txType a = txType b ↔ a = b := by
  cases a <;> cases b <;> decide

theorem rxType_inj {a b : Bool} : rxType a = rxType b ↔ a = b := by
  cases a <;> cases b <;> decide

theorem rxType_ne_txType (a b : Bool) : rxType a ≠ txType b := by
  cases a <;> cases b <;> decide

/-- A successful `wcn36xx_dxe_allocate_ctl_block` does the same wherever the memory comes from. -/
theorem dxeAllocateCtlBlock_always {kzalloc : ℕ → Bool} {ch ch' : DxeCh} (hn : 2 ≤ ch.desc_num)
    (h : dxeAllocateCtlBlock kzalloc ch = some (ch', 0)) :
    dxeAllocateCtlBlock (fun _ => true) ch = some (ch', 0) := by
  rw [dxeAllocateCtlBlock_spec ch hn, dxeAllocateCtlBlock_eq_zero hn h]

/-- The control blocks of a channel have been allocated, and `wcn36xx_dxe_init_descs` has been called with
what `dma_alloc_coherent` had for it. -/
def DescsAt (ch₀ : DxeCh) (dma_addr : Option (BitVec 32)) (ch : DxeCh) : Prop :=
  ∃ A cpu_addr r, dxeAllocateCtlBlock (fun _ => true) ch₀ = some (A, 0) ∧
    dxeInitDescs (dma_addr.map (cpu_addr, ·)) A = some (ch, r)

namespace DescsAt

variable {ch₀ ch : DxeCh} {dma_addr : Option (BitVec 32)} (hn : 2 ≤ ch₀.desc_num)
include hn

/-- The control blocks are a ring in either case. -/
theorem ring (h : DescsAt ch₀ dma_addr ch) : RingAt ch ch₀.fresh := by
  obtain ⟨A, cpu_addr, r, hA, hinit⟩ := h
  rw [dxeAllocateCtlBlock_spec ch₀ hn, Option.some.injEq, Prod.mk.injEq] at hA
  obtain ⟨rfl, -⟩ := hA
  have hring := ringAt_allocatedCh ch₀ hn
  cases dma_addr with
  | some dma_addr => exact (hring.initDescs hinit).1
  | none =>
    obtain ⟨rfl, -⟩ := dxeInitDescs_none hinit
    exact ⟨hring.two_le, hring.ctl, hring.head, hring.tail⟩

/-- Without memory, no block has a descriptor. -/
theorem bare (h : DescsAt ch₀ none ch) : BareAt ch ch₀.fresh := by
  obtain ⟨A, cpu_addr, r, hA, hinit⟩ := h
  rw [dxeAllocateCtlBlock_spec ch₀ hn, Option.some.injEq, Prod.mk.injEq] at hA
  obtain ⟨rfl, -⟩ := hA
  obtain ⟨rfl, -⟩ := dxeInitDescs_none hinit
  exact bareAt_allocatedCh ch₀ hn

/-- Nor has the head, wherever it has gone. -/
theorem head_desc_none (h : DescsAt ch₀ none ch) {ch' : DxeCh} (hmoves : ch.Moves ch') {head : ℕ}
    {c : DxeCtl} (hhead : ch'.head_blk_ctl = some head) (hc : ch'.ctl head = some c) :
    c.desc = none := by
  have hring := h.ring hn
  obtain ⟨k, hk⟩ := (hring.moves hmoves).head
  rw [hhead, Option.some.injEq] at hk
  exact hring.bare_moves hmoves (h.bare hn) k c (hk ▸ hc)

end DescsAt

/-! ## What the other steps leave alone -/

/-- What `wcn36xx_start` does not touch of transmission, but for the position of the DMA engine. -/
def Dev.txRest (is_low : Bool) (dev : Dev) :=
  (dev.tx.cursor is_low, dev.tx.wcn.tx_ack_skb, dev.tx.submitted, dev.tx.accepted, dev.tx.built)

/-- The channels with their pools and buffers are what they were. -/
structure SameData (dev dev' : Dev) : Prop where
  rest : ∀ is_low, dev'.txRest is_low = dev.txRest is_low
  tx : ∀ is_low, dev'.ch (txType is_low) = dev.ch (txType is_low)
  rx : ∀ is_low, dev'.rx is_low = dev.rx is_low
  pool : ∀ is_low, dev'.pool is_low = dev.pool is_low

/-- The steps about the channels and what belongs to them. -/
def LifeOp.onData : LifeOp → Bool
  | .configure _ | .allocateCtlBlock _ | .freeCtlBlock _ | .initDescs _ | .initTxBd _ | .programTx _
  | .allocateMemPool _ | .freeMemPool _ | .chAllocSkb _ | .chFreeSkbs _ | .deinitTxAck => true
  | _ => false

/-- No other step touches them. -/
theorem exec_sameData {n : RingSizes} {env : CallEnv} {op : LifeOp} {dev dev' : Dev} {r : ℤ}
    (hop : op.onData = false) (hrun : exec n env op dev = some (dev', r)) : SameData dev dev' := by
  have hrefl : SameData dev dev := ⟨fun _ => rfl, fun _ => rfl, fun _ => rfl, fun _ => rfl⟩
  cases op with
  | configure | allocateCtlBlock | freeCtlBlock | initDescs | initTxBd | programTx | allocateMemPool
  | freeMemPool | chAllocSkb | chFreeSkbs | deinitTxAck => cases hop
  | smd req =>
    have hdev : ∃ old_fw, dev' = { dev with old_fw := old_fw } := by
      cases req <;> simp only [exec, Option.some.injEq, Prod.mk.injEq] at hrun <;>
        exact ⟨_, hrun.1.symm⟩
    obtain ⟨old_fw, rfl⟩ := hdev
    exact ⟨fun _ => rfl, fun _ => rfl, fun _ => rfl, fun _ => rfl⟩
  | kmallocHalBuf =>
    simp only [exec] at hrun
    split_ifs at hrun <;> rw [Option.some.injEq, Prod.mk.injEq] at hrun <;> obtain ⟨rfl, -⟩ := hrun <;>
      exact ⟨fun _ => rfl, fun _ => rfl, fun _ => rfl, fun _ => rfl⟩
  | kfreeHalBuf =>
    simp only [exec] at hrun
    split_ifs at hrun
    · rw [Option.some.injEq, Prod.mk.injEq] at hrun
      rw [← hrun.1]
      exact hrefl
    · obtain ⟨mem, -, heq⟩ := Option.map_eq_some_iff.mp hrun
      rw [Prod.mk.injEq] at heq
      obtain ⟨rfl, -⟩ := heq
      exact ⟨fun _ => rfl, fun _ => rfl, fun _ => rfl, fun _ => rfl⟩
  | requestIrq irq =>
    simp only [exec] at hrun
    split_ifs at hrun <;> rw [Option.some.injEq, Prod.mk.injEq] at hrun <;> obtain ⟨rfl, -⟩ := hrun
    · cases irq <;> exact ⟨fun _ => rfl, fun _ => rfl, fun _ => rfl, fun _ => rfl⟩
    · exact hrefl
  | freeIrq irq =>
    obtain ⟨-, hrun⟩ := Option.ite_none_right_eq_some.mp hrun
    rw [Option.some.injEq, Prod.mk.injEq] at hrun
    obtain ⟨rfl, -⟩ := hrun
    cases irq <;> exact ⟨fun _ => rfl, fun _ => rfl, fun _ => rfl, fun _ => rfl⟩
  | ctrlClose =>
    obtain ⟨msm, -, heq⟩ := Option.map_eq_some_iff.mp hrun
    rw [Prod.mk.injEq] at heq
    obtain ⟨rfl, -⟩ := heq
    exact ⟨fun _ => rfl, fun _ => rfl, fun _ => rfl, fun _ => rfl⟩
  | destroyWorkqueue =>
    obtain ⟨d, hd, heq⟩ := Option.map_eq_some_iff.mp hrun
    obtain ⟨-, hd⟩ := Option.ite_none_right_eq_some.mp hd
    rw [Option.some.injEq] at hd
    rw [Prod.mk.injEq] at heq
    obtain ⟨rfl, -⟩ := heq
    subst hd
    exact ⟨fun _ => rfl, fun _ => rfl, fun _ => rfl, fun _ => rfl⟩
  | programRx b =>
    obtain ⟨d, hprog, heq⟩ := Option.map_eq_some_iff.mp hrun
    rw [Prod.mk.injEq] at heq
    obtain ⟨rfl, -⟩ := heq
    simp only [execProgramRx, Option.bind_eq_bind, Option.bind_eq_some_iff, Option.pure_def,
      Option.some.injEq] at hprog
    obtain ⟨-, -, -, -, -, -, rfl⟩ := hprog
    exact hrefl
  | createWorkqueue | initInd | ctrlOpen | destroyIndMutex | smsmChangeState | initVifList
  | initDxeLock | destroyHalMutex =>
    simp only [exec, Option.some.injEq, Prod.mk.injEq] at hrun
    obtain ⟨rfl, -⟩ := hrun
    exact ⟨fun _ => rfl, fun _ => rfl, fun _ => rfl, fun _ => rfl⟩

/-- An operation on the control blocks and descriptors of the channel `c`: the channel that it leaves, and
what it returns. -/
inductive RingStep (n : RingSizes) (env : CallEnv) (c : DxeChType) (ch : DxeCh) :
    LifeOp → DxeCh → ℤ → Prop
  | configure : RingStep n env c ch (.configure c) (ch.configure (n.num c) c) 0
  | allocate {ch' : DxeCh} {r : ℤ} (run : dxeAllocateCtlBlock (env.kzalloc c) ch = some (ch', r)) :
      RingStep n env c ch (.allocateCtlBlock c) ch' r
  | free {ch' : DxeCh} : RingStep n env c ch (.freeCtlBlock c) ch' 0
  | init (cpu_addr : ℕ) {ch' : DxeCh} {r : ℤ}
      (run : dxeInitDescs ((env.coherent c).map (cpu_addr, ·)) ch = some (ch', r)) :
      RingStep n env c ch (.initDescs c) ch' r

/-- Such an operation writes the channel back, and no other. -/
theorem ringStep_of_exec {n : RingSizes} {env : CallEnv} {c : DxeChType} {op : LifeOp} {dev dev' : Dev}
    {r : ℤ}
    (hop : op = .configure c ∨ op = .allocateCtlBlock c ∨ op = .freeCtlBlock c ∨ op = .initDescs c)
    (hrun : exec n env op dev = some (dev', r)) :
    ∃ mem ch, RingStep n env c (dev.ch c) op ch r ∧ dev' = { dev with mem := mem }.setCh c ch := by
  rcases hop with rfl | rfl | rfl | rfl
  · simp only [exec, Option.some.injEq, Prod.mk.injEq] at hrun
    obtain ⟨rfl, rfl⟩ := hrun
    exact ⟨dev.mem, _, .configure, rfl⟩
  · obtain ⟨⟨ch, r'⟩, hch, heq⟩ := Option.map_eq_some_iff.mp hrun
    rw [Prod.mk.injEq] at heq
    obtain ⟨rfl, rfl⟩ := heq
    exact ⟨dev.mem, ch, .allocate hch, rfl⟩
  · obtain ⟨ch, -, heq⟩ := Option.map_eq_some_iff.mp hrun
    rw [Prod.mk.injEq] at heq
    obtain ⟨rfl, rfl⟩ := heq
    exact ⟨dev.mem, ch, .free, rfl⟩
  · simp only [exec, execInitDescs] at hrun
    split at hrun
    · rename_i hnone
      obtain ⟨⟨ch, r'⟩, hch, heq⟩ := Option.map_eq_some_iff.mp hrun
      rw [Prod.mk.injEq] at heq
      obtain ⟨rfl, rfl⟩ := heq
      exact ⟨dev.mem, ch, .init 0 (by rw [hnone]; exact hch), rfl⟩
    · rename_i dma_addr hsome
      obtain ⟨⟨ch, r'⟩, hch, heq⟩ := Option.map_eq_some_iff.mp hrun
      rw [Prod.mk.injEq] at heq
      obtain ⟨rfl, rfl⟩ := heq
      exact ⟨_, ch, .init _ (by rw [hsome]; exact hch), rfl⟩

/-! ## TX -/

section Tx

variable (n : RingSizes) (env : CallEnv) (is_low : Bool)

/-- The BD pool of a channel that `wcn36xx_dxe_allocate_mem_pools` has allocated. -/
structure PoolAt (pool : DxeMemPool) : Prop where
  chunk_size : pool.chunk_size = bdChunkSize
  virt_pos : 0 < pool.virt_addr
  phy_addr : env.mem_pool is_low = some pool.phy_addr

/-- What a stage says of a TX channel. -/
def TxRingAt : ChStage → DxeCh → Prop
  | .unknown, _ => True
  | .zeroed, ch => ch = zeroCh
  | .configured, ch => ch = txChConfig is_low (n.num (txType is_low))
  | .allocated, ch =>
    dxeAllocateCtlBlock (fun _ => true) (txChConfig is_low (n.num (txType is_low))) = some (ch, 0)
  | .described, ch =>
    DescsAt (txChConfig is_low (n.num (txType is_low))) (env.coherent (txType is_low)) ch
  | .filled, ch | .armed, ch => ∃ B pool,
    DescsAt (txChConfig is_low (n.num (txType is_low))) (env.coherent (txType is_low)) B ∧
      PoolAt env is_low pool ∧ dxeInitTxBd pool B = some ch

/-- How far the start is with a TX channel, and whether the channel has its pool. -/
structure TxReached (st : ChStage × Bool) (dev : Dev) : Prop where
  rest : st.1 ≠ .unknown → dev.txRest is_low = (0, none, [], [], fun _ _ => none)
  pool : st.2 = true → PoolAt env is_low (dev.pool is_low)
  ring : TxRingAt n env is_low st.1 (dev.ch (txType is_low))

/-- The stages of a TX channel. The BD pointers need the pool. -/
def txStages : Abstraction LifeOp Dev (ChStage × Bool) where
  Has := TxReached n env is_low
  post
    | .allocateMemPool b, st => (st.1, st.2 || b == is_low)
    | .freeMemPool b, st => (st.1, st.2 && b != is_low)
    | .initTxBd b, st =>
      (if b = is_low ∧ st.2 = false then .unknown else st.1.post (txType is_low) (.initTxBd b), st.2)
    | op, st => (st.1.post (txType is_low) op, st.2)
  fail
    | .allocateMemPool b, st => (st.1, st.2 && b != is_low)
    | .freeMemPool b, st => (st.1, st.2 && b != is_low)
    | .initTxBd b, st =>
      (if b = is_low ∧ st.2 = false then .unknown else st.1.post (txType is_low) (.initTxBd b), st.2)
    | op, st => (st.1.fail (txType is_low) op, st.2)

/-- What is demanded of the start: the channel is set up where it returns 0. -/
def txStagesDemand : Demand LifeOp (ChStage × Bool) :=
  ⟨fun _ _ => true, fun st => st.1 == .armed, fun _ => true⟩

/-- `wcn36xx_start` takes the channel through its stages. -/
theorem check_txStages :
    check (txStages n env is_low) txStagesDemand startScript (.zeroed, false) = true := by
  have hcheck : check (txStages fourEach {} is_low) txStagesDemand startScript
      (.zeroed, false) = true := by
    cases is_low <;> decide +kernel
  rw [← Support.check_has (txStages n env is_low) txStagesDemand
    (txStages fourEach {} is_low).Has]
  exact hcheck

end Tx

section TxSound

variable {n : RingSizes} {env : CallEnv} {is_low : Bool} {st : ChStage × Bool} {dev dev' : Dev}
  {op : LifeOp} {r : ℤ}

/-- What is known depends on the parts of the device that it is about. -/
theorem TxReached.congr (h : TxReached n env is_low st dev)
    (hrest : dev'.txRest is_low = dev.txRest is_low)
    (hch : dev'.ch (txType is_low) = dev.ch (txType is_low))
    (hpool : dev'.pool is_low = dev.pool is_low) : TxReached n env is_low st dev' where
  rest hst := hrest.trans (h.rest hst)
  pool hst := hpool ▸ h.pool hst
  ring := hch ▸ h.ring

/-- A step that is about something else. -/
theorem TxReached.other (h : TxReached n env is_low st dev)
    (hpost : (txStages n env is_low).post op st = st) (hfail : (txStages n env is_low).fail op st = st)
    (hrest : dev'.txRest is_low = dev.txRest is_low)
    (hch : dev'.ch (txType is_low) = dev.ch (txType is_low))
    (hpool : dev'.pool is_low = dev.pool is_low) :
    TxReached n env is_low
      (if r = 0 then (txStages n env is_low).post op st else (txStages n env is_low).fail op st)
      dev' := by
  rw [hpost, hfail, ite_self]
  exact h.congr hrest hch hpool

/-- A channel is written back. -/
theorem txRest_setCh (dev : Dev) (c : DxeChType) (ch : DxeCh) (is_low : Bool) :
    (dev.setCh c ch).txRest is_low = dev.txRest is_low := by
  cases c <;> rfl

theorem pool_setCh (dev : Dev) (c : DxeChType) (ch : DxeCh) (is_low : Bool) :
    (dev.setCh c ch).pool is_low = dev.pool is_low := by
  cases c <;> rfl

/-- A step on the channel takes it from one stage to the next. -/
theorem TxReached.next (h : TxReached n env is_low st dev) {src dst : ChStage} {ch : DxeCh}
    (hsrc : src ≠ .unknown) (hring : st.1 = src → TxRingAt n env is_low dst ch) :
    TxReached n env is_low (st.1.next src dst, st.2) (dev.setCh (txType is_low) ch) := by
  refine ⟨fun hst => ?_, fun hst => ?_, ?_⟩
  · by_cases hat : st.1 = src
    · rw [txRest_setCh]
      exact h.rest (hat ▸ hsrc)
    · exact absurd (if_neg hat) hst
  · rw [pool_setCh]
    exact h.pool hst
  · rw [Dev.ch_setCh, ChStage.next]
    split_ifs with hat
    · exact hring hat
    · trivial

/-- The channel is not known any more. -/
theorem TxReached.forget (h : TxReached n env is_low st dev)
    (hpool : dev'.pool is_low = dev.pool is_low) : TxReached n env is_low (.unknown, st.2) dev' :=
  ⟨fun hst => absurd rfl hst, fun hst => hpool ▸ h.pool hst, trivial⟩

/-- The control blocks and descriptors of a channel. -/
theorem txSound_ring (h : TxReached n env is_low st dev) {c : DxeChType}
    (hop : op = .configure c ∨ op = .allocateCtlBlock c ∨ op = .freeCtlBlock c ∨
      op = .initDescs c) (hrun : exec n env op dev = some (dev', r)) :
    TxReached n env is_low
      (if r = 0 then (txStages n env is_low).post op st else (txStages n env is_low).fail op st)
      dev' := by
  have hnum : (txChConfig is_low (n.num (txType is_low))).desc_num = n.num (txType is_low) := by
    cases is_low <;> rfl
  obtain ⟨mem, ch, hstep, rfl⟩ := ringStep_of_exec hop hrun
  by_cases hc : c = txType is_low
  · subst hc
    have hring := h.ring
    have hmem : TxReached n env is_low st { dev with mem := mem } := h.congr rfl rfl rfl
    cases hstep with
    | configure =>
      rw [if_pos rfl]
      simp only [txStages, ChStage.post, if_true]
      refine hmem.next (by decide) fun hat => ?_
      rw [hat] at hring
      dsimp only [TxRingAt] at hring
      rw [hring]
      exact configure_txType is_low _
    | allocate hch =>
      simp only [txStages, ChStage.post, ChStage.fail, if_true]
      split_ifs with hr
      · refine hmem.next (by decide) fun hat => ?_
        rw [hat] at hring
        dsimp only [TxRingAt] at hring ⊢
        rw [hring, hr] at hch
        exact dxeAllocateCtlBlock_always (by rw [hnum]; exact n.two_le _) hch
      · exact hmem.forget (pool_setCh _ _ _ _)
    | free =>
      rw [if_pos rfl]
      simp only [txStages, ChStage.post, if_true]
      exact hmem.forget (pool_setCh _ _ _ _)
    | init cpu_addr hch =>
      simp only [txStages, ChStage.post, ChStage.fail, if_true, ite_self]
      refine hmem.next (by decide) fun hat => ?_
      rw [hat] at hring
      exact ⟨_, _, _, hring, hch⟩
  · -- The step writes another channel back.
    have hkeep : (txStages n env is_low).post op st = st ∧ (txStages n env is_low).fail op st = st := by
      rcases hop with rfl | rfl | rfl | rfl <;>
        simp only [txStages, ChStage.post, ChStage.fail, if_neg hc, and_self]
    exact h.other hkeep.1 hkeep.2 (txRest_setCh _ _ _ _) (Dev.ch_setCh_ne _ (Ne.symm hc) _)
      (pool_setCh _ _ _ _)

/-- With memory for its descriptors a TX channel has been set up. -/
theorem txChSetup_of_filled {ch : DxeCh} (h : TxRingAt n env is_low .filled ch) {dma_addr : BitVec 32}
    (hdma : env.coherent (txType is_low) = some dma_addr) : ∃ cpu_addr pool, PoolAt env is_low pool ∧
      txChSetup is_low (n.num (txType is_low)) (cpu_addr, dma_addr) pool = some ch := by
  obtain ⟨B, pool, ⟨A, cpu_addr, r, hA, hdescs⟩, hpool, hbd⟩ := h
  rw [hdma, Option.map_some] at hdescs
  refine ⟨cpu_addr, pool, hpool, ?_⟩
  simp only [txChSetup, hA, hdescs, hbd, Option.bind_eq_bind, Option.bind_some]

/-- The head of a TX channel has the first descriptor or none. -/
theorem txHead_desc {ch : DxeCh} (h : TxRingAt n env is_low .filled ch) {head : ℕ} {c : DxeCtl}
    (hhead : ch.head_blk_ctl = some head) (hc : ch.ctl head = some c) : c.desc.getD 0 = 0 := by
  have hnum : (txChConfig is_low (n.num (txType is_low))).desc_num = n.num (txType is_low) := by
    cases is_low <;> rfl
  have hn : 2 ≤ (txChConfig is_low (n.num (txType is_low))).desc_num := by
    rw [hnum]
    exact n.two_le _
  cases hdma : env.coherent (txType is_low) with
  | none =>
    obtain ⟨B, pool, hdescs, -, hbd⟩ := h
    rw [hdma] at hdescs
    rw [hdescs.head_desc_none hn (dxeInitTxBd_moves hbd).1 hhead hc, Option.getD_none]
  | some dma_addr =>
    obtain ⟨cpu_addr, pool, -, hsetup⟩ := txChSetup_of_filled h hdma
    obtain ⟨ch', hset, hhead', -, hctl, -⟩ :=
      txChSetup_spec is_low (n.num (txType is_low)) (n.two_le _) cpu_addr dma_addr pool
    obtain rfl : ch' = ch := Option.some.inj (hset.symm.trans hsetup)
    rw [hhead', Option.some.injEq] at hhead
    have hc₀ := hctl 0 (Nat.lt_of_lt_of_le Nat.zero_lt_two (n.two_le _))
    rw [Nat.add_zero, hhead, hc, Option.some.injEq] at hc₀
    rw [hc₀]
    rfl

/-- The BD pointers and the registers of a TX channel. -/
theorem txSound_tx (h : TxReached n env is_low st dev) {b : Bool}
    (hop : op = .initTxBd b ∨ op = .programTx b) (hrun : exec n env op dev = some (dev', r)) :
    TxReached n env is_low
      (if r = 0 then (txStages n env is_low).post op st else (txStages n env is_low).fail op st)
      dev' := by
  rcases hop with rfl | rfl
  · obtain ⟨ch, hch, heq⟩ := Option.map_eq_some_iff.mp hrun
    rw [Prod.mk.injEq] at heq
    obtain ⟨rfl, rfl⟩ := heq
    rw [if_pos rfl]
    simp only [txStages, ChStage.post, txType_inj]
    by_cases hb : b = is_low
    · subst hb
      simp only [true_and, if_true]
      split_ifs with hpooled
      · exact h.forget (pool_setCh _ _ _ _)
      · refine h.next (by decide) fun hat => ?_
        have hring := h.ring
        rw [hat] at hring
        exact ⟨_, dev.pool b, hring, h.pool (Bool.not_eq_false _ ▸ hpooled), hch⟩
    · simp only [hb, false_and, if_false]
      refine h.congr (txRest_setCh _ _ _ _) (Dev.ch_setCh_ne _ ?_ _) (pool_setCh _ _ _ _)
      exact fun heq => hb (txType_inj.mp heq).symm
  · obtain ⟨d, hprog, heq⟩ := Option.map_eq_some_iff.mp hrun
    rw [Prod.mk.injEq] at heq
    obtain ⟨rfl, rfl⟩ := heq
    simp only [execProgramTx, Option.bind_eq_bind, Option.bind_eq_some_iff, Option.some.injEq,
      Option.pure_def] at hprog
    obtain ⟨head, hhead, c, hc, rfl⟩ := hprog
    have hch : ∀ tx : TxWorld, tx.wcn = dev.tx.wcn →
        ({ dev with tx := tx } : Dev).ch (txType is_low) = dev.ch (txType is_low) := by
      intro tx htx
      rw [Dev.ch_txType, Dev.ch_txType, htx]
    rw [if_pos rfl]
    simp only [txStages, ChStage.post, txType_inj]
    by_cases hb : b = is_low
    · subst hb
      rw [if_pos rfl]
      refine ⟨fun hst => ?_, fun hst => h.pool hst, ?_⟩
      · -- The position is the descriptor of the head, the first one or none.
        have hat : st.1 = .filled := by
          by_contra hne
          exact hst (if_neg hne)
        have hrest := h.rest (by rw [hat]; decide)
        have hring := h.ring
        rw [hat] at hring
        have hdesc : c.desc.getD 0 = 0 := txHead_desc hring hhead hc
        unfold Dev.txRest at hrest ⊢
        dsimp only at hrest ⊢
        rw [Prod.mk.injEq] at hrest
        rw [Function.update_self, hdesc, hrest.2]
      · rw [hch { dev.tx with cursor := Function.update dev.tx.cursor b (c.desc.getD 0) } rfl,
          ChStage.next]
        split_ifs with hat
        · have hring := h.ring
          rw [hat] at hring
          exact hring
        · trivial
    · rw [if_neg hb]
      refine h.congr ?_ (hch _ rfl) rfl
      unfold Dev.txRest
      dsimp only
      rw [Function.update_of_ne (Ne.symm hb)]

/-- The pools. -/
theorem txSound_pool (h : TxReached n env is_low st dev) {b : Bool}
    (hop : op = .allocateMemPool b ∨ op = .freeMemPool b) (hrun : exec n env op dev = some (dev', r)) :
    TxReached n env is_low
      (if r = 0 then (txStages n env is_low).post op st else (txStages n env is_low).fail op st)
      dev' := by
  have hset : ∀ (d : Dev) (pool : DxeMemPool), (d.setPool b pool).txRest is_low = d.txRest is_low ∧
      (d.setPool b pool).ch (txType is_low) = d.ch (txType is_low) ∧
      (d.setPool b pool).pool is_low = if b = is_low then pool else d.pool is_low := by
    intro d pool
    cases b <;> cases is_low <;> exact ⟨rfl, rfl, rfl⟩
  rcases hop with rfl | rfl
  · simp only [exec, Option.some.injEq, execAllocateMemPool] at hrun
    split at hrun
    · rename_i hnone
      rw [Prod.mk.injEq] at hrun
      obtain ⟨rfl, rfl⟩ := hrun
      rw [if_neg (by decide : ¬(-ENOMEM : ℤ) = 0)]
      obtain ⟨hrest, hch, hpool⟩ := hset dev { dev.pool b with chunk_size := bdChunkSize }
      refine ⟨fun hst => hrest.trans (h.rest hst), fun hst => ?_, hch ▸ h.ring⟩
      obtain ⟨hpooled, hne⟩ := Bool.and_eq_true_iff.mp hst
      rw [hpool, if_neg (bne_iff_ne.mp hne)]
      exact h.pool hpooled
    · rename_i phy_addr hsome
      rw [Prod.mk.injEq] at hrun
      obtain ⟨rfl, rfl⟩ := hrun
      rw [if_pos rfl]
      obtain ⟨hrest, hch, hpool⟩ := hset
        { dev with mem := (dev.mem.alloc (.coherent (bdChunkSize * n.num (txType b)))).2 }
        ⟨bdChunkSize, dev.mem.next, phy_addr⟩
      refine ⟨fun hst => hrest.trans (h.rest hst), fun hst => ?_, hch ▸ h.ring⟩
      refine hpool ▸ ?_
      split_ifs with hb
      · subst hb
        exact ⟨rfl, dev.mem.next_pos, hsome⟩
      · rcases Bool.or_eq_true_iff.mp hst with hpooled | heq
        · exact h.pool hpooled
        · exact absurd (beq_iff_eq.mp heq) hb
  · obtain ⟨d, hfree, heq⟩ := Option.map_eq_some_iff.mp hrun
    rw [Prod.mk.injEq] at heq
    obtain ⟨rfl, rfl⟩ := heq
    rw [if_pos rfl, execFreeMemPool_eq hfree]
    refine ⟨fun hst => h.rest hst, fun hst => ?_, h.ring⟩
    exact h.pool (Bool.and_eq_true_iff.mp hst).1

/-- The buffers of an RX channel. -/
theorem txSound_rx (h : TxReached n env is_low st dev) {b : Bool}
    (hop : op = .chAllocSkb b ∨ op = .chFreeSkbs b) (hrun : exec n env op dev = some (dev', r)) :
    TxReached n env is_low
      (if r = 0 then (txStages n env is_low).post op st else (txStages n env is_low).fail op st)
      dev' := by
  have hdev : ∃ s, dev' = dev.setRx b s := by
    rcases hop with rfl | rfl <;> obtain ⟨s, -, heq⟩ := Option.map_eq_some_iff.mp hrun <;>
      exact ⟨s, (congrArg Prod.fst heq).symm⟩
  obtain ⟨s, rfl⟩ := hdev
  have hkeep : (txStages n env is_low).post op st = st ∧ (txStages n env is_low).fail op st = st := by
    rcases hop with rfl | rfl <;>
      simp only [txStages, ChStage.post, ChStage.fail, if_neg (rxType_ne_txType b is_low), and_self]
  apply h.other hkeep.1 hkeep.2
  · cases b <;> rfl
  · rw [Dev.ch_setRx, Dev.ch_setCh_ne _ (rxType_ne_txType b is_low).symm]
  · cases b <;> rfl

end TxSound

/-- `exec` does to a TX channel what its stages say. -/
theorem txStages_sound (n : RingSizes) {env : CallEnv} (is_low : Bool) :
    (txStages n env is_low).Sound (exec n env) := by
  intro op st dev dev' r h hrun
  cases op with
  | configure c => exact txSound_ring h (.inl rfl) hrun
  | allocateCtlBlock c => exact txSound_ring h (.inr (.inl rfl)) hrun
  | freeCtlBlock c => exact txSound_ring h (.inr (.inr (.inl rfl))) hrun
  | initDescs c => exact txSound_ring h (.inr (.inr (.inr rfl))) hrun
  | initTxBd b => exact txSound_tx h (.inl rfl) hrun
  | programTx b => exact txSound_tx h (.inr rfl) hrun
  | allocateMemPool b => exact txSound_pool h (.inl rfl) hrun
  | freeMemPool b => exact txSound_pool h (.inr rfl) hrun
  | chAllocSkb b => exact txSound_rx h (.inl rfl) hrun
  | chFreeSkbs b => exact txSound_rx h (.inr rfl) hrun
  | deinitTxAck =>
    simp only [exec, Option.some.injEq, Prod.mk.injEq] at hrun
    obtain ⟨rfl, rfl⟩ := hrun
    exact h.forget rfl
  | createWorkqueue | initInd | ctrlOpen | ctrlClose | destroyWorkqueue | destroyIndMutex
  | smsmChangeState | kmallocHalBuf | kfreeHalBuf | smd | requestIrq | freeIrq | initVifList
  | initDxeLock | destroyHalMutex =>
    have hsame := exec_sameData rfl hrun
    exact h.other rfl rfl (hsame.rest is_low) (hsame.tx is_low) (hsame.pool is_low)
  | programRx b =>
    have hsame := exec_sameData rfl hrun
    have hne := rxType_ne_txType b is_low
    refine h.other ?_ ?_ (hsame.rest is_low) (hsame.tx is_low) (hsame.pool is_low) <;>
      simp only [txStages, ChStage.post, ChStage.fail, if_neg hne]

/-! ## RX -/

section Rx

variable (n : RingSizes) (env : CallEnv) (is_low : Bool)

/-- What a stage says of an RX channel and its buffers. -/
def RxReached : ChStage → RxState → Prop
  | .unknown, _ => True
  | .zeroed, s => s = { ch := zeroCh }
  | .configured, s => s = { ch := rxChConfig is_low (n.num (rxType is_low)) }
  | .allocated, s => ∃ ch, s = { ch := ch } ∧
    dxeAllocateCtlBlock (fun _ => true) (rxChConfig is_low (n.num (rxType is_low))) = some (ch, 0)
  | .described, s => ∃ ch, s = { ch := ch } ∧
    DescsAt (rxChConfig is_low (n.num (rxType is_low))) (env.coherent (rxType is_low)) ch
  | .filled, s => ∃ ch,
    DescsAt (rxChConfig is_low (n.num (rxType is_low))) (env.coherent (rxType is_low)) ch ∧
    dxeChAllocSkb { ch := ch
                    allocs := (List.range (n.num (rxType is_low))).map (env.skb is_low) } = some s
  | .armed, s => ∃ ch cpu_addr dma_addr, env.coherent (rxType is_low) = some dma_addr ∧
    rxChSetup is_low (n.num (rxType is_low)) (cpu_addr, dma_addr) = some ch ∧
    dxeChAllocSkb { ch := ch
                    allocs := (List.range (n.num (rxType is_low))).map (env.skb is_low) } = some s

/-- The stages of an RX channel. -/
def rxStages : Abstraction LifeOp Dev ChStage where
  Has st dev := RxReached n env is_low st (dev.rx is_low)
  post := ChStage.post (rxType is_low)
  fail := ChStage.fail (rxType is_low)

/-- What is demanded of the start: the channel is armed where it returns 0. -/
def rxStagesDemand : Demand LifeOp ChStage := ⟨fun _ _ => true, fun st => st == .armed, fun _ => true⟩

/-- `wcn36xx_start` takes the channel through its stages. -/
theorem check_rxStages :
    check (rxStages n env is_low) rxStagesDemand startScript .zeroed = true := by
  have hcheck : check (rxStages fourEach {} is_low) rxStagesDemand startScript .zeroed = true := by
    cases is_low <;> decide +kernel
  rw [← Support.check_has (rxStages n env is_low) rxStagesDemand (rxStages fourEach {} is_low).Has]
  exact hcheck

end Rx

section RxSound

variable {n : RingSizes} {env : CallEnv} {is_low : Bool} {st : ChStage} {dev dev' : Dev}
  {op : LifeOp} {r : ℤ}

/-- A step on the channel takes it from one stage to the next. -/
theorem RxReached.next {s s' : RxState} (h : RxReached n env is_low st s) {src dst : ChStage}
    (hring : RxReached n env is_low src s → RxReached n env is_low dst s') :
    RxReached n env is_low (st.next src dst) s' := by
  rw [ChStage.next]
  split_ifs with hat
  · exact hring (hat ▸ h)
  · trivial

/-- A channel is written back: of the buffers, only those of an RX channel may be others. -/
theorem rx_setCh_rxType (dev : Dev) (is_low : Bool) (ch : DxeCh) :
    (dev.setCh (rxType is_low) ch).rx is_low = { dev.rx is_low with ch := ch } := by
  cases is_low <;> rfl

theorem rx_setCh_ne (dev : Dev) {c : DxeChType} (is_low : Bool) (h : c ≠ rxType is_low) (ch : DxeCh) :
    (dev.setCh c ch).rx is_low = dev.rx is_low := by
  cases c <;> cases is_low <;> first | rfl | exact absurd rfl h

/-- A step that is about something else. -/
theorem rxSound_other (h : (rxStages n env is_low).Has st dev)
    (hpost : (rxStages n env is_low).post op st = st) (hfail : (rxStages n env is_low).fail op st = st)
    (hrx : dev'.rx is_low = dev.rx is_low) :
    (rxStages n env is_low).Has
      (if r = 0 then (rxStages n env is_low).post op st else (rxStages n env is_low).fail op st)
      dev' := by
  rw [hpost, hfail, ite_self]
  exact (congrArg (RxReached n env is_low st) hrx).mpr h

/-- The control blocks and descriptors of a channel. -/
theorem rxSound_ring (h : (rxStages n env is_low).Has st dev) {c : DxeChType}
    (hop : op = .configure c ∨ op = .allocateCtlBlock c ∨ op = .freeCtlBlock c ∨ op = .initDescs c)
    (hrun : exec n env op dev = some (dev', r)) :
    (rxStages n env is_low).Has
      (if r = 0 then (rxStages n env is_low).post op st else (rxStages n env is_low).fail op st)
      dev' := by
  have hnum : (rxChConfig is_low (n.num (rxType is_low))).desc_num = n.num (rxType is_low) := rfl
  obtain ⟨mem, ch, hstep, rfl⟩ := ringStep_of_exec hop hrun
  by_cases hc : c = rxType is_low
  · subst hc
    have hrx : RxReached n env is_low st (({ dev with mem := mem } : Dev).rx is_low) := h
    rw [Dev.ch_rxType] at hstep
    cases hstep with
    | configure =>
      rw [if_pos rfl]
      simp only [rxStages, ChStage.post, if_true, rx_setCh_rxType]
      refine hrx.next fun hzero => ?_
      have hz : dev.rx is_low = { ch := zeroCh } := hzero
      have hz' : ({ dev with mem := mem } : Dev).rx is_low = { ch := zeroCh } := hzero
      rw [hz, hz']
      exact congrArg (fun ch => ({ ch := ch } : RxState)) (configure_rxType is_low _)
    | allocate hch =>
      simp only [rxStages, ChStage.post, ChStage.fail, if_true]
      split_ifs with hr
      · rw [rx_setCh_rxType]
        refine hrx.next fun hconf => ?_
        have hcf : dev.rx is_low = { ch := rxChConfig is_low (n.num (rxType is_low)) } := hconf
        rw [hcf, hr] at hch
        rw [hconf]
        exact ⟨ch, rfl, dxeAllocateCtlBlock_always (by rw [hnum]; exact n.two_le _) hch⟩
      · trivial
    | free =>
      rw [if_pos rfl]
      simp only [rxStages, ChStage.post, if_true]
      trivial
    | init cpu_addr hch =>
      simp only [rxStages, ChStage.post, ChStage.fail, if_true, ite_self, rx_setCh_rxType]
      refine hrx.next ?_
      rintro ⟨A, hA, halloc⟩
      have hat : dev.rx is_low = { ch := A } := hA
      rw [hat] at hch
      rw [hA]
      exact ⟨ch, rfl, A, _, _, halloc, hch⟩
  · -- The step writes another channel back.
    have hkeep : (rxStages n env is_low).post op st = st ∧ (rxStages n env is_low).fail op st = st := by
      rcases hop with rfl | rfl | rfl | rfl <;>
        simp only [rxStages, ChStage.post, ChStage.fail, if_neg hc, and_self]
    exact rxSound_other h hkeep.1 hkeep.2 (rx_setCh_ne _ is_low hc ch)

/-- An RX channel keeps its number of descriptors. -/
theorem rxDescs_desc_num {num : ℕ} {dma_addr : Option (BitVec 32)} {ch : DxeCh} (hn : 2 ≤ num)
    (h : DescsAt (rxChConfig is_low num) dma_addr ch) : ch.desc_num = num := by
  obtain ⟨A, cpu_addr, r, hA, hinit⟩ := h
  have hnum : (rxChConfig is_low num).desc_num = num := rfl
  rw [dxeAllocateCtlBlock_spec _ (hnum.symm ▸ hn), Option.some.injEq, Prod.mk.injEq] at hA
  obtain ⟨rfl, -⟩ := hA
  cases dma_addr with
  | none =>
    obtain ⟨rfl, -⟩ := dxeInitDescs_none hinit
    rfl
  | some dma_addr =>
    have hring := ringAt_allocatedCh (rxChConfig is_low num) (hnum.symm ▸ hn)
    obtain ⟨ch', hrun, -, hnum', -⟩ := hring.exists_initDescs rfl (cpu_addr, dma_addr)
    have heq := hrun.symm.trans hinit
    rw [Option.some.injEq, Prod.mk.injEq] at heq
    rw [← heq.1, hnum']
    rfl

/-- A set-up makes the two calls. -/
theorem descsAt_of_rxChSetup {num cpu_addr : ℕ} {dma_addr : BitVec 32} {ch : DxeCh}
    (h : rxChSetup is_low num (cpu_addr, dma_addr) = some ch) (hn : 2 ≤ num) :
    DescsAt (rxChConfig is_low num) (some dma_addr) ch := by
  have hnum : (rxChConfig is_low num).desc_num = num := rfl
  have hblk := dxeAllocateCtlBlock_spec (rxChConfig is_low num) (hnum.symm ▸ hn)
  simp only [rxChSetup, hblk, Option.bind_eq_bind, Option.bind_some, Option.bind_eq_some_iff,
    Option.pure_def, Option.some.injEq] at h
  obtain ⟨⟨ch', r⟩, hinit, rfl⟩ := h
  exact ⟨_, cpu_addr, r, hblk, hinit⟩

/-- The buffers of an RX channel. -/
theorem rxSound_rx (h : (rxStages n env is_low).Has st dev) {b : Bool}
    (hop : op = .chAllocSkb b ∨ op = .chFreeSkbs b) (hrun : exec n env op dev = some (dev', r)) :
    (rxStages n env is_low).Has
      (if r = 0 then (rxStages n env is_low).post op st else (rxStages n env is_low).fail op st)
      dev' := by
  have hset : ∀ s, (dev.setRx b s).rx is_low = if b = is_low then s else dev.rx is_low := by
    intro s
    cases b <;> cases is_low <;> rfl
  rcases hop with rfl | rfl
  · obtain ⟨s, hs, heq⟩ := Option.map_eq_some_iff.mp hrun
    rw [Prod.mk.injEq] at heq
    obtain ⟨rfl, rfl⟩ := heq
    rw [if_pos rfl]
    simp only [rxStages, ChStage.post, rxType_inj, hset]
    by_cases hb : b = is_low
    · subst hb
      simp only [if_true]
      refine RxReached.next h ?_
      rintro ⟨ch, hch, hdescs⟩
      refine ⟨ch, hdescs, ?_⟩
      rw [hch, rxDescs_desc_num (n.two_le _) hdescs] at hs
      exact hs
    · simp only [hb, if_false]
      exact h
  · obtain ⟨s, -, heq⟩ := Option.map_eq_some_iff.mp hrun
    rw [Prod.mk.injEq] at heq
    obtain ⟨rfl, rfl⟩ := heq
    rw [if_pos rfl]
    simp only [rxStages, ChStage.post, rxType_inj, hset]
    by_cases hb : b = is_low
    · simp only [hb, if_true]
      trivial
    · simp only [hb, if_false]
      exact h

/-- The registers of an RX channel, whose head is a fault without a descriptor. -/
theorem rxSound_programRx (h : (rxStages n env is_low).Has st dev) {b : Bool}
    (hrun : exec n env (.programRx b) dev = some (dev', r)) :
    (rxStages n env is_low).Has
      (if r = 0 then (rxStages n env is_low).post (.programRx b) st
        else (rxStages n env is_low).fail (.programRx b) st) dev' := by
  obtain ⟨d, hprog, heq⟩ := Option.map_eq_some_iff.mp hrun
  rw [Prod.mk.injEq] at heq
  obtain ⟨rfl, rfl⟩ := heq
  simp only [execProgramRx, Option.bind_eq_bind, Option.bind_eq_some_iff, Option.some.injEq,
    Option.pure_def, Dev.ch_rxType] at hprog
  obtain ⟨head, hhead, c, hc, i, hi, rfl⟩ := hprog
  rw [if_pos rfl]
  simp only [rxStages, ChStage.post, rxType_inj]
  by_cases hb : b = is_low
  · subst hb
    rw [if_pos rfl]
    refine RxReached.next h ?_
    rintro ⟨ch, hdescs, halloc⟩
    have hn : 2 ≤ (rxChConfig b (n.num (rxType b))).desc_num := n.two_le _
    cases hdma : env.coherent (rxType b) with
    | none =>
      rw [hdma] at hdescs
      rw [hdescs.head_desc_none hn (dxeChAllocSkb_moves halloc).1 hhead hc] at hi
      cases hi
    | some dma_addr =>
      obtain ⟨A, cpu_addr, r, hA, hinit⟩ := hdescs
      rw [hdma, Option.map_some] at hinit
      refine ⟨ch, cpu_addr, dma_addr, hdma, ?_, halloc⟩
      simp only [rxChSetup, hA, hinit, Option.bind_eq_bind, Option.bind_some, Option.pure_def]
  · rw [if_neg hb]
    exact h

end RxSound

/-- `exec` does to an RX channel what its stages say. -/
theorem rxStages_sound (n : RingSizes) {env : CallEnv} (is_low : Bool) :
    (rxStages n env is_low).Sound (exec n env) := by
  intro op st dev dev' r h hrun
  have hne : ∀ b, txType b ≠ rxType is_low := fun b => (rxType_ne_txType is_low b).symm
  cases op with
  | configure c => exact rxSound_ring h (.inl rfl) hrun
  | allocateCtlBlock c => exact rxSound_ring h (.inr (.inl rfl)) hrun
  | freeCtlBlock c => exact rxSound_ring h (.inr (.inr (.inl rfl))) hrun
  | initDescs c => exact rxSound_ring h (.inr (.inr (.inr rfl))) hrun
  | chAllocSkb b => exact rxSound_rx h (.inl rfl) hrun
  | chFreeSkbs b => exact rxSound_rx h (.inr rfl) hrun
  | programRx b => exact rxSound_programRx h hrun
  | initTxBd b =>
    obtain ⟨ch, -, heq⟩ := Option.map_eq_some_iff.mp hrun
    rw [Prod.mk.injEq] at heq
    obtain ⟨rfl, -⟩ := heq
    exact rxSound_other h (if_neg (hne b)) (if_neg (hne b)) (rx_setCh_ne dev is_low (hne b) ch)
  | programTx b =>
    obtain ⟨d, hprog, heq⟩ := Option.map_eq_some_iff.mp hrun
    rw [Prod.mk.injEq] at heq
    obtain ⟨rfl, -⟩ := heq
    simp only [execProgramTx, Option.bind_eq_bind, Option.bind_eq_some_iff, Option.some.injEq,
      Option.pure_def] at hprog
    obtain ⟨head, -, c, -, rfl⟩ := hprog
    exact rxSound_other h (if_neg (hne b)) (if_neg (hne b)) rfl
  | allocateMemPool b =>
    have hrx : dev'.rx is_low = dev.rx is_low := by
      simp only [exec, Option.some.injEq, execAllocateMemPool] at hrun
      split at hrun <;> rw [Prod.mk.injEq] at hrun <;> obtain ⟨rfl, -⟩ := hrun <;> cases b <;> rfl
    exact rxSound_other h rfl rfl hrx
  | freeMemPool b =>
    obtain ⟨d, hfree, heq⟩ := Option.map_eq_some_iff.mp hrun
    rw [Prod.mk.injEq] at heq
    obtain ⟨rfl, -⟩ := heq
    refine rxSound_other h rfl rfl ?_
    rw [execFreeMemPool_eq hfree]
    rfl
  | deinitTxAck =>
    have hpost : (rxStages n env is_low).post .deinitTxAck st = .unknown := rfl
    have hfail : (rxStages n env is_low).fail .deinitTxAck st = .unknown := rfl
    rw [hpost, hfail, ite_self]
    trivial
  | createWorkqueue | initInd | ctrlOpen | ctrlClose | destroyWorkqueue | destroyIndMutex
  | smsmChangeState | kmallocHalBuf | kfreeHalBuf | smd | requestIrq | freeIrq
  | initVifList | initDxeLock | destroyHalMutex =>
    exact rxSound_other h rfl rfl ((exec_sameData rfl hrun).rx is_low)

/-! ## The first start -/

/-- `wcn36xx_dxe_ch_alloc_skb` makes one call of `alloc_skb` for each descriptor. -/
theorem dxeChAllocSkb_allocs {s s' : RxState} (h : dxeChAllocSkb s = some s') :
    s'.allocs = s.allocs.drop s.ch.desc_num := by
  unfold dxeChAllocSkb at h
  simp only [Option.bind_eq_bind, Option.bind_eq_some_iff, Option.some.injEq, Option.pure_def] at h
  obtain ⟨⟨_, t⟩, hwalk, rfl⟩ := h
  have hfill : ∀ {s t : RxState} {ctl : ℕ} {ret : ℤ}, dxeFillSkb s ctl = some (t, ret) →
      t.allocs = s.allocs.drop 1 := by
    intro s t ctl ret h
    unfold dxeFillSkb at h
    simp only [Option.bind_eq_bind, Option.bind_eq_some_iff, Option.pure_def] at h
    obtain ⟨c, -, h⟩ := h
    split at h
    · cases h
    · rename_i hallocs
      rw [Option.some.injEq, Prod.mk.injEq] at h
      rw [← h.1, hallocs]
      rfl
    · rename_i hallocs
      simp only [Option.bind_eq_some_iff, Option.some.injEq, Prod.mk.injEq] at h
      obtain ⟨dxe, -, ch, -, rfl, -⟩ := h
      rw [hallocs]
      rfl
  -- By induction on the blocks that are left.
  have hrun : ∀ (left i : ℕ) (cur : Option ℕ) (u : Unit) (s : RxState),
      Support.walk (fun s => s.ch.nextOf)
        (fun _ cur _ s => (dxeFillSkb s cur).map fun r => ((), r.1)) left i cur u s = some ((), t) →
      t.allocs = s.allocs.drop left := by
    intro left
    induction left with
    | zero =>
      intro i cur u s h
      rw [Support.walk, Option.some.injEq, Prod.mk.injEq] at h
      rw [h.2, List.drop_zero]
    | succ left ih =>
      intro i cur u s h
      simp only [Support.walk, Option.bind_eq_bind, Option.bind_eq_some_iff,
        Option.map_eq_some_iff] at h
      obtain ⟨node, -, ⟨b, s₁⟩, ⟨r, hr, heq⟩, cur₁, -, h⟩ := h
      rw [Prod.mk.injEq] at heq
      obtain ⟨-, rfl⟩ := heq
      rw [ih _ _ _ _ h, hfill hr, List.drop_drop, Nat.add_comm]
  exact hrun _ _ _ _ _ hwalk

section Started

variable {n : RingSizes} {env : CallEnv} {dev : Dev} (h : start n env {} = some (dev, 0))
include h

/-- The TX channels after the first start. -/
theorem start_tx (is_low : Bool) :
    dev.txRest is_low = (0, none, [], [], fun _ _ => none) ∧
      TxRingAt n env is_low .filled (dev.ch (txType is_low)) := by
  have hzero : TxReached n env is_low (.zeroed, false) {} := by
    refine ⟨fun _ => rfl, fun hst => Bool.noConfusion hst, ?_⟩
    cases is_low <;> rfl
  obtain ⟨st, hst, hdone, -⟩ := runScript_check (txStages_sound n is_low)
    (check_txStages n env is_low) hzero h
  have harmed : st.1 = .armed := beq_iff_eq.mp (hdone rfl)
  have hring := hst.ring
  rw [harmed] at hring
  exact ⟨hst.rest (by rw [harmed]; decide), hring⟩

/-- The RX channels after the first start. -/
theorem start_rx (is_low : Bool) : RxReached n env is_low .armed (dev.rx is_low) := by
  have hzero : (rxStages n env is_low).Has .zeroed {} := by
    cases is_low <;> rfl
  obtain ⟨st, hst, hdone, -⟩ := runScript_check (rxStages_sound n is_low)
    (check_rxStages n env is_low) hzero h
  have harmed : st = .armed := beq_iff_eq.mp (hdone rfl)
  have hrx : RxReached n env is_low st (dev.rx is_low) := hst
  rw [harmed] at hrx
  exact hrx

/-- Every channel has a head to program, and that of an RX channel has its descriptor. -/
theorem start_head (c : DxeChType) : ∃ head, (dev.ch c).head_blk_ctl.bind (dev.ch c).ctl = some head ∧
    (c = .rxL ∨ c = .rxH → head.desc.isSome = true) := by
  have htx : ∀ is_low, ∃ head, (dev.ch (txType is_low)).head_blk_ctl.bind
      (dev.ch (txType is_low)).ctl = some head := by
    intro is_low
    obtain ⟨B, pool, hdescs, -, hbd⟩ := (start_tx h is_low).2
    have hnum : (txChConfig is_low (n.num (txType is_low))).desc_num = n.num (txType is_low) := by
      cases is_low <;> rfl
    have hring := (hdescs.ring (hnum.symm ▸ n.two_le _)).moves (dxeInitTxBd_moves hbd).1
    obtain ⟨k, hk⟩ := hring.head
    obtain ⟨head, hhead, -⟩ := hring.ctl k
    exact ⟨head, by rw [hk, Option.bind_some, hhead]⟩
  have hrx : ∀ is_low, ∃ head, (dev.rx is_low).ch.head_blk_ctl.bind (dev.rx is_low).ch.ctl =
      some head ∧ head.desc.isSome = true := by
    intro is_low
    obtain ⟨ch, cpu_addr, dma_addr, -, hsetup, halloc⟩ := start_rx h is_low
    exact rxHead_of_setup (n.two_le _) hsetup halloc
  cases c with
  | txL => exact (htx true).imp fun _ hh => ⟨hh, nofun⟩
  | txH => exact (htx false).imp fun _ hh => ⟨hh, nofun⟩
  | rxL => exact (hrx true).imp fun _ hh => ⟨hh.1, fun _ => hh.2⟩
  | rxH => exact (hrx false).imp fun _ hh => ⟨hh.1, fun _ => hh.2⟩

/-- A TX channel that is set up got memory for its descriptors. -/
theorem start_coherent_of_setup {is_low : Bool} {coherent : ℕ × BitVec 32} {pool : DxeMemPool} {num : ℕ}
    (hn : 2 ≤ num) (hsetup : txChSetup is_low num coherent pool = some (dev.ch (txType is_low))) :
    (env.coherent (txType is_low)).isSome = true := by
  by_contra hnone
  obtain ⟨B, pool', hdescs, -, hbd⟩ := (start_tx h is_low).2
  rw [Option.not_isSome_iff_eq_none.mp hnone] at hdescs
  have hnum : (txChConfig is_low (n.num (txType is_low))).desc_num = n.num (txType is_low) := by
    cases is_low <;> rfl
  obtain ⟨c, hc, hdesc⟩ := txHead_of_setup hn hsetup
  obtain ⟨head, hhead, hc⟩ := Option.bind_eq_some_iff.mp hc
  rw [hdescs.head_desc_none (hnum.symm ▸ n.two_le _) (dxeInitTxBd_moves hbd).1 hhead hc] at hdesc
  cases hdesc

section Registers

variable {chip_version : ChipVersion} {regs regs' : Regs}
  (hregs : dxeInitRegs chip_version dev.ch regs = some regs')
include hregs

/-- With memory for their descriptors, the TX channels and their engines are where the systems start. -/
theorem start_txInit (heven : ∀ is_low, n.num (txType is_low) % 2 = 0)
    (hcoh : ∀ is_low, (env.coherent (txType is_low)).isSome = true) : ∃ p : TxParams,
      (∀ is_low, p.desc_num is_low = n.num (txType is_low) ∧
        env.coherent (txType is_low) = some (p.coherent is_low).2 ∧
        env.mem_pool is_low = some (p.phy_addr is_low)) ∧
      (txSystem p).init { dev.tx with wcn := { dev.tx.wcn with log := [] } } ∧
      (txEngineSystem p).init
        { wcn := { dev.tx.wcn with log := [] }
          next := fun is_low => regs' (WCN36XX_DXE_CH_NEXT_DESC_ADDR (txType is_low)) } := by
  have hrest := fun is_low => (start_tx h is_low).1
  choose txDma htxDma using fun is_low => Option.isSome_iff_exists.mp (hcoh is_low)
  choose txCpu pool hpool htxSetup using fun is_low =>
    txChSetup_of_filled (start_tx h is_low).2 (htxDma is_low)
  -- What the start does not touch is as in a new device.
  have hack : dev.tx.wcn.tx_ack_skb = none := congrArg (fun x => x.2.1) (hrest true)
  have hsub : dev.tx.submitted = [] := congrArg (fun x => x.2.2.1) (hrest true)
  have hacc : dev.tx.accepted = [] := congrArg (fun x => x.2.2.2.1) (hrest true)
  have hbuilt : dev.tx.built = fun _ _ => none := congrArg (fun x => x.2.2.2.2) (hrest true)
  have hcursor : dev.tx.cursor = fun _ => 0 :=
    funext fun is_low => congrArg (fun x => x.1) (hrest is_low)
  obtain ⟨p, hp⟩ : ∃ p : TxParams, p =
      { desc_num := fun is_low => n.num (txType is_low)
        coherent := fun is_low => (txCpu is_low, txDma is_low)
        virt_addr := fun is_low => (pool is_low).virt_addr
        phy_addr := fun is_low => (pool is_low).phy_addr
        two_le := fun is_low => n.two_le _
        even := heven
        virt_pos := fun is_low => (hpool is_low).virt_pos } := ⟨_, rfl⟩
  have hpools : ∀ is_low, p.pool is_low = pool is_low := by
    intro is_low
    have hchunk := (hpool is_low).chunk_size
    rw [hp]
    unfold TxParams.pool
    rw [DxeMemPool.mk.injEq]
    exact ⟨hchunk.symm, rfl, rfl⟩
  have hsetup : ∀ is_low, txChSetup is_low (p.desc_num is_low) (p.coherent is_low) (p.pool is_low) =
      some (dev.tx.wcn.txCh is_low) := by
    intro is_low
    rw [hpools, hp, ← Dev.ch_txType]
    exact htxSetup is_low
  refine ⟨p, fun is_low => ?_, ⟨hsetup, hack, rfl, hcursor, hsub, hacc, hbuilt⟩,
    hsetup, hack, rfl, rfl, rfl, rfl, chip_version, fun is_low => dev.ch (rxType is_low), regs,
    regs', ?_, fun is_low => ?_⟩
  · rw [hp]
    exact ⟨rfl, htxDma is_low, (hpool is_low).phy_addr⟩
  · rw [← hregs]
    refine congrArg (fun f => dxeInitRegs chip_version f regs) (funext fun c => ?_)
    cases c <;> rfl
  · cases is_low <;> rfl

/-- An RX channel and its engine are where the system with the engine starts. -/
theorem start_rxInit (is_low : Bool) : ∃ p : RxParams, p.is_low = is_low ∧
    p.desc_num = n.num (rxType is_low) ∧ env.coherent (rxType is_low) = some p.coherent.2 ∧
    (rxEngineSystem p).init
      { rx := dev.rx is_low
        next := regs' (WCN36XX_DXE_CH_NEXT_DESC_ADDR (rxType is_low)) } := by
  obtain ⟨ch, rxCpu, rxDma, hrxDma, hrxSetup, halloc⟩ := start_rx h is_low
  have hnum : ch.desc_num = n.num (rxType is_low) :=
    rxDescs_desc_num (n.two_le _) (descsAt_of_rxChSetup hrxSetup (n.two_le _))
  refine ⟨⟨is_low, n.num (rxType is_low), (rxCpu, rxDma), n.two_le _⟩, rfl, rfl, hrxDma, ch, _,
    dev.rx is_low, chip_version, dev.ch, regs, regs', hrxSetup, halloc, ?_, ?_, hregs, ?_⟩
  · -- As many calls of `alloc_skb` as there are descriptors.
    rw [dxeChAllocSkb_allocs halloc, hnum,
      List.drop_eq_nil_of_le (by rw [List.length_map, List.length_range])]
    rfl
  · cases is_low <;> rfl
  · cases is_low <;> rfl

end Registers

end Started

/-- The first `wcn36xx_start` of a device that returns 0 brings up the data path: the RX channels in any case,
and the TX channels exactly when `dma_alloc_coherent` had memory for their descriptors. The TX channels are in
an initial state of `txSystem`, for the rings, the BD pools and the bus addresses that it was given; what
`wcn36xx_dxe_init` writes to the registers, whatever was in them and on either chip, puts the engines of the
channels where the systems with the engines have them at first. -/
theorem start_dataPath {n : RingSizes} (heven : ∀ is_low, n.num (txType is_low) % 2 = 0)
    {env : CallEnv} {dev : Dev} (h : start n env {} = some (dev, 0)) (chip_version : ChipVersion)
    (regs : Regs) :
    ∃ regs', dxeInitRegs chip_version dev.ch regs = some regs' ∧
      ((∀ is_low, (env.coherent (txType is_low)).isSome = true) → ∃ p : TxParams,
        (∀ is_low, p.desc_num is_low = n.num (txType is_low) ∧
          env.coherent (txType is_low) = some (p.coherent is_low).2 ∧
          env.mem_pool is_low = some (p.phy_addr is_low)) ∧
        (txSystem p).init { dev.tx with wcn := { dev.tx.wcn with log := [] } } ∧
        (txEngineSystem p).init
          { wcn := { dev.tx.wcn with log := [] }
            next := fun is_low => regs' (WCN36XX_DXE_CH_NEXT_DESC_ADDR (txType is_low)) }) ∧
      (∀ p : TxParams, (txSystem p).init { dev.tx with wcn := { dev.tx.wcn with log := [] } } →
        ∀ is_low, (env.coherent (txType is_low)).isSome = true) ∧
      ∀ is_low, ∃ p : RxParams, p.is_low = is_low ∧ p.desc_num = n.num (rxType is_low) ∧
        env.coherent (rxType is_low) = some p.coherent.2 ∧
        (rxEngineSystem p).init
          { rx := dev.rx is_low
            next := regs' (WCN36XX_DXE_CH_NEXT_DESC_ADDR (rxType is_low)) } := by
  obtain ⟨regs', hregs⟩ := exists_dxeInitRegs chip_version regs (start_head h)
  refine ⟨regs', hregs, start_txInit h hregs heven, fun p hinit is_low => ?_, start_rxInit h hregs⟩
  refine start_coherent_of_setup h (p.two_le is_low) ((hinit.1 is_low).trans ?_)
  rw [Dev.ch_txType]
  cases is_low <;> rfl

/-- With four descriptors in each ring the start of a new device succeeds, and its registers are
programmed. -/
theorem start_dataPath_four : ∃ dev, start fourEach {} {} = some (dev, 0) ∧
    ∃ regs', dxeInitRegs .chip3680 dev.ch (fun _ => 0) = some regs' ∧
      ∃ p : TxParams, (txSystem p).init { dev.tx with wcn := { dev.tx.wcn with log := [] } } := by
  obtain ⟨r, hrun, hret⟩ : ∃ r, start fourEach {} {} = some r ∧
      (fun r : Dev × ℤ => decide (r.2 = 0)) r = true :=
    (Option.any_eq_true _ _).mp (by decide +kernel)
  obtain ⟨dev, ret⟩ := r
  obtain rfl : ret = 0 := of_decide_eq_true hret
  obtain ⟨regs', hregs, htx, -, -⟩ :=
    start_dataPath (fun _ => show 4 % 2 = 0 from rfl) hrun .chip3680 fun _ => 0
  obtain ⟨p, -, hinit, -⟩ := htx fun _ => rfl
  exact ⟨dev, hrun, regs', hregs, p, hinit⟩

end Wcn36xx
