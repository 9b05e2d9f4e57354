import Wcn36xx.Dxe.RingLife
import Wcn36xx.Smd.Indication
import Wcn36xx.Smd.Open
import Wcn36xx.Support.Heap
import Wcn36xx.Support.Script

/-!
# The device and the steps of its life

`struct wcn36xx` with everything that `wcn36xx_start` acquires: the BD pools, `hal_buf` and the descriptor
arrays on a heap, the control blocks of the four rings, the receive buffers, the interrupts, the
workqueue for indications, and what the platform layer creates for the SMD channel. `exec` is one step of
`wcn36xx_start` or `wcn36xx_stop`, a call that acquires or releases something or a loop over a ring; what
the kernel and the firmware answer is its environment. Freeing what is not allocated and following a null
or stale pointer are faults, `none`.
-/

namespace Wcn36xx

open Support (Heap)

/-- `WCN36XX_SMSM_WLAN_TX_RINGS_EMPTY`. -/
def WCN36XX_SMSM_WLAN_TX_RINGS_EMPTY : BitVec 32 := 0x200

/-- An allocation on the heap. -/
inductive Region where
  /-- Of `dma_alloc_coherent`. -/
  | coherent (size : ℕ)
  /-- Of `kmalloc`. -/
  | kmalloc (size : ℕ)
  deriving DecidableEq, Repr

/-- The two interrupts of the device. -/
inductive Irq where
  | tx
  | rx
  deriving DecidableEq, Repr

/-- The requests to the firmware that `wcn36xx_start` and `wcn36xx_stop` make. -/
inductive LifeReq where
  /-- `wcn36xx_smd_load_nv`. -/
  | loadNv
  /-- `wcn36xx_smd_start`. -/
  | start
  /-- `wcn36xx_smd_feature_caps_exchange`. -/
  | featureCapsExchange
  /-- `wcn36xx_smd_update_cfg`. -/
  | updateCfg
  /-- `wcn36xx_smd_stop`. -/
  | stop
  deriving DecidableEq, Repr

/-- The numbers of descriptors of the four channels. -/
structure RingSizes where
  num : DxeChType → ℕ
  two_le : ∀ c, 2 ≤ num c

/-- `WCN36XX_DXE_CH_DESC_NUMB_TX_L` and so on. -/
def driverSizes : RingSizes where
  num
    | .txL => WCN36XX_DXE_CH_DESC_NUMB_TX_L
    | .txH => WCN36XX_DXE_CH_DESC_NUMB_TX_H
    | .rxL => WCN36XX_DXE_CH_DESC_NUMB_RX_L
    | .rxH => WCN36XX_DXE_CH_DESC_NUMB_RX_H
  two_le c := by cases c <;> decide

/-- A channel of the zeroed `struct wcn36xx` that `ieee80211_alloc_hw` returns. -/
def zeroCh : DxeCh where
  ch_type := .txL
  desc_num := 0

/-- `struct wcn36xx` and what it holds. -/
structure Dev where
  /-- The TX channels, `tx_ack_skb` and `vif_list`. -/
  tx : TxWorld := { wcn := { dxe_tx_l_ch := zeroCh, dxe_tx_h_ch := zeroCh } }
  /-- `dxe_rx_l_ch` and its buffers. -/
  rx_l : RxState := { ch := zeroCh }
  /-- `dxe_rx_h_ch` and its buffers. -/
  rx_h : RxState := { ch := zeroCh }
  mgmt_mem_pool : DxeMemPool := ⟨0, 0, 0⟩
  data_mem_pool : DxeMemPool := ⟨0, 0, 0⟩
  /-- `hal_buf`, with 0 for NULL. -/
  hal_buf : ℕ := 0
  /-- The allocations that the pointers above, and the channels' `cpu_addr`, lead to. -/
  mem : Heap Region := .empty
  /-- `hal_ind_wq` exists. -/
  hal_ind_wq : Bool := false
  /-- `hal_ind_mutex` is initialized. -/
  hal_ind_mutex : Bool := false
  /-- `hal_ind_queue` and `hal_ind_work`. -/
  ind : IndWorld := {}
  /-- What the platform layer has of the control channel, with a heap of its own. -/
  msm : MsmCtrl := {}
  /-- Between a `ctrl_ops->open` that has returned 0 and `ctrl_ops->close`. -/
  smd_open : Bool := false
  /-- `tx_irq` is requested. -/
  tx_irq : Bool := false
  /-- `rx_irq` is requested. -/
  rx_irq : Bool := false
  /-- `wcn36xx_is_fw_version(wcn, 1, 2, 2, 24)`. -/
  old_fw : Bool := false
  /-- `vif_list` is initialized. -/
  vif_list : Bool := false
  /-- `dxe_lock` is initialized. -/
  dxe_lock : Bool := false
  /-- `hal_mutex` is initialized and not destroyed. -/
  hal_mutex : Bool := false

/-- `is_low ? WCN36XX_DXE_CH_TX_L : WCN36XX_DXE_CH_TX_H`. -/
def txType (is_low : Bool) : DxeChType := if is_low then .txL else .txH

/-- `is_low ? WCN36XX_DXE_CH_RX_L : WCN36XX_DXE_CH_RX_H`. -/
def rxType (is_low : Bool) : DxeChType := if is_low then .rxL else .rxH

namespace Dev

variable (dev : Dev)

/-- The channel of a type. -/
def ch : DxeChType → DxeCh
  | .txL => dev.tx.wcn.dxe_tx_l_ch
  | .txH => dev.tx.wcn.dxe_tx_h_ch
  | .rxL => dev.rx_l.ch
  | .rxH => dev.rx_h.ch

/-- Write a channel back. -/
def setCh : DxeChType → DxeCh → Dev
  | .txL, ch => { dev with tx := { dev.tx with wcn := { dev.tx.wcn with dxe_tx_l_ch := ch } } }
  | .txH, ch => { dev with tx := { dev.tx with wcn := { dev.tx.wcn with dxe_tx_h_ch := ch } } }
  | .rxL, ch => { dev with rx_l := { dev.rx_l with ch := ch } }
  | .rxH, ch => { dev with rx_h := { dev.rx_h with ch := ch } }

/-- A receive channel with its buffers. -/
def rx (is_low : Bool) : RxState := if is_low then dev.rx_l else dev.rx_h

/-- Write a receive channel back. -/
def setRx (is_low : Bool) (s : RxState) : Dev :=
  if is_low then { dev with rx_l := s } else { dev with rx_h := s }

/-- The BD pool of a TX channel. -/
def pool (is_low : Bool) : DxeMemPool := if is_low then dev.data_mem_pool else dev.mgmt_mem_pool

/-- Write a BD pool back. -/
def setPool (is_low : Bool) (pool : DxeMemPool) : Dev :=
  if is_low then { dev with data_mem_pool := pool } else { dev with mgmt_mem_pool := pool }

/-- An interrupt is requested. -/
def irq : Irq → Bool
  | .tx => dev.tx_irq
  | .rx => dev.rx_irq

/-- Request or free an interrupt. -/
def setIrq : Irq → Bool → Dev
  | .tx, b => { dev with tx_irq := b }
  | .rx, b => { dev with rx_irq := b }

@[simp]
theorem ch_setCh (c : DxeChType) (ch : DxeCh) : (dev.setCh c ch).ch c = ch := by cases c <;> rfl

theorem ch_setCh_ne {c c' : DxeChType} (h : c' ≠ c) (ch : DxeCh) :
    (dev.setCh c ch).ch c' = dev.ch c' := by
  cases c <;> cases c' <;> first | rfl | exact absurd rfl h

@[simp]
theorem ch_rxType (is_low : Bool) : dev.ch (rxType is_low) = (dev.rx is_low).ch := by
  cases is_low <;> rfl

@[simp]
theorem ch_txType (is_low : Bool) : dev.ch (txType is_low) = dev.tx.wcn.txCh is_low := by
  cases is_low <;> rfl

/-- A receive channel with its buffers is written back: only its channel may change. -/
theorem ch_setRx (is_low : Bool) (s : RxState) (c : DxeChType) :
    (dev.setRx is_low s).ch c = (dev.setCh (rxType is_low) s.ch).ch c := by
  cases is_low <;> cases c <;> rfl

end Dev

/-- What `wcn36xx_dxe_alloc_ctl_blks` writes to a channel. -/
def DxeCh.configure (ch : DxeCh) (desc_num : ℕ) : DxeChType → DxeCh
  | .txL => { ch with
      ch_type := .txL, desc_num := desc_num, dxe_wq := WCN36XX_DXE_WQ_TX_L
      ctrl_bd := WCN36XX_DXE_CTRL_TX_L_BD, ctrl_skb := WCN36XX_DXE_CTRL_TX_L_SKB
      reg_ctrl := WCN36XX_DXE_REG_CTL_TX_L, def_ctrl := WCN36XX_DXE_CH_DEFAULT_CTL_TX_L }
  | .txH => { ch with
      ch_type := .txH, desc_num := desc_num, dxe_wq := WCN36XX_DXE_WQ_TX_H
      ctrl_bd := WCN36XX_DXE_CTRL_TX_H_BD, ctrl_skb := WCN36XX_DXE_CTRL_TX_H_SKB
      reg_ctrl := WCN36XX_DXE_REG_CTL_TX_H, def_ctrl := WCN36XX_DXE_CH_DEFAULT_CTL_TX_H }
  | .rxL => { ch with ch_type := .rxL, desc_num := desc_num }
  | .rxH => { ch with ch_type := .rxH, desc_num := desc_num }

/-- What the kernel and the firmware answer during one call. A function that returns an `int` returns
0 or an error. -/
structure CallEnv where
  /-- `create_freezable_workqueue` succeeds. -/
  wq : Bool := true
  /-- What happens during `ctrl_ops->open`. -/
  ctrl_open : MsmOpenEnv := { inTime := [.OPEN] }
  /-- `dma_alloc_coherent` for the BD pool of a TX channel: a bus address. -/
  mem_pool : Bool → Option (BitVec 32) := fun _ => some 0
  /-- The `i`-th `kzalloc` of `wcn36xx_dxe_allocate_ctl_block` for a channel succeeds. -/
  kzalloc : DxeChType → ℕ → Bool := fun _ _ => true
  /-- `kmalloc` for `hal_buf` succeeds. -/
  hal_buf : Bool := true
  /-- The requests to the firmware. -/
  smd : LifeReq → ℤ := fun _ => 0
  /-- The response to `wcn36xx_smd_start` names the version 1.2.2.24. -/
  old_fw : Bool := false
  /-- `dma_alloc_coherent` for the descriptors of a channel. -/
  coherent : DxeChType → Option (BitVec 32) := fun _ => some 0
  /-- The `i`-th `alloc_skb` for an RX channel, with the bus address of the buffer. -/
  skb : Bool → ℕ → Option (BitVec 32) := fun _ _ => some 0
  /-- The error number of `request_irq`, 0 when it succeeds. -/
  irq : Irq → ℕ := fun _ => 0

/-- The steps of `wcn36xx_start`, `wcn36xx_stop` and `wcn36xx_remove`. -/
inductive LifeOp where
  /-- `create_freezable_workqueue`. -/
  | createWorkqueue
  /-- `INIT_WORK`, `INIT_LIST_HEAD(&wcn->hal_ind_queue)` and `mutex_init(&wcn->hal_ind_mutex)`. -/
  | initInd
  /-- `ctrl_ops->open`. -/
  | ctrlOpen
  /-- `ctrl_ops->close`. -/
  | ctrlClose
  /-- `destroy_workqueue`. -/
  | destroyWorkqueue
  /-- `mutex_destroy(&wcn->hal_ind_mutex)`. -/
  | destroyIndMutex
  /-- One half of `wcn36xx_dxe_allocate_mem_pools`. -/
  | allocateMemPool (is_low : Bool)
  /-- One half of `wcn36xx_dxe_free_mem_pools`. -/
  | freeMemPool (is_low : Bool)
  /-- The assignments of `wcn36xx_dxe_alloc_ctl_blks` to a channel. -/
  | configure (c : DxeChType)
  /-- `wcn36xx_dxe_allocate_ctl_block`. -/
  | allocateCtlBlock (c : DxeChType)
  /-- `wcn36xx_dxe_free_ctl_block`. -/
  | freeCtlBlock (c : DxeChType)
  /-- `ctrl_ops->smsm_change_state`. -/
  | smsmChangeState
  /-- `kmalloc` for `hal_buf`. -/
  | kmallocHalBuf
  /-- `kfree(wcn->hal_buf)`. -/
  | kfreeHalBuf
  /-- A request to the firmware. -/
  | smd (req : LifeReq)
  /-- `wcn36xx_dxe_init_descs`. -/
  | initDescs (c : DxeChType)
  /-- `wcn36xx_dxe_init_tx_bd`. -/
  | initTxBd (is_low : Bool)
  /-- The registers of a TX channel. -/
  | programTx (is_low : Bool)
  /-- `wcn36xx_dxe_ch_alloc_skb`. -/
  | chAllocSkb (is_low : Bool)
  /-- The registers of an RX channel. -/
  | programRx (is_low : Bool)
  /-- `wcn36xx_dxe_ch_free_skbs`. -/
  | chFreeSkbs (is_low : Bool)
  /-- `request_irq`. -/
  | requestIrq (irq : Irq)
  /-- `free_irq`. -/
  | freeIrq (irq : Irq)
  /-- What `wcn36xx_dxe_deinit` does with `tx_ack_skb`. -/
  | deinitTxAck
  /-- `INIT_LIST_HEAD(&wcn->vif_list)`. -/
  | initVifList
  /-- `spin_lock_init(&wcn->dxe_lock)`. -/
  | initDxeLock
  /-- `mutex_destroy(&wcn->hal_mutex)`. -/
  | destroyHalMutex
  deriving DecidableEq

section Exec

variable (n : RingSizes) (env : CallEnv)

/-- One half of `wcn36xx_dxe_allocate_mem_pools`, up to its error label. -/
def execAllocateMemPool (is_low : Bool) (dev : Dev) : Dev × ℤ :=
  match env.mem_pool is_low with
  | none => (dev.setPool is_low { dev.pool is_low with chunk_size := bdChunkSize }, -ENOMEM)
  | some phy_addr =>
    let cpu := dev.mem.alloc (.coherent (bdChunkSize * n.num (txType is_low)))
    ({ dev with mem := cpu.2 }.setPool is_low ⟨bdChunkSize, cpu.1, phy_addr⟩, 0)

/-- One half of `wcn36xx_dxe_free_mem_pools`. -/
def execFreeMemPool (is_low : Bool) (dev : Dev) : Option Dev :=
  let pool := dev.pool is_low
  if pool.virt_addr = 0 then some dev
  else
    (dev.mem.free pool.virt_addr (.coherent (pool.chunk_size * n.num (txType is_low)))).map
      fun mem => { dev with mem := mem }

/-- `wcn36xx_dxe_init_descs`, whose array is allocated on the heap. -/
def execInitDescs (c : DxeChType) (dev : Dev) : Option (Dev × ℤ) :=
  match env.coherent c with
  | none => (dxeInitDescs none (dev.ch c)).map fun r => (dev.setCh c r.1, r.2)
  | some dma_addr =>
    let cpu := dev.mem.alloc (.coherent ((dev.ch c).desc_num * DxeDesc.size))
    (dxeInitDescs (some (cpu.1, dma_addr)) (dev.ch c)).map fun r =>
      ({ dev with mem := cpu.2 }.setCh c r.1, r.2)

/-- The registers of a TX channel: the DMA engine is at the descriptor of the head. -/
def execProgramTx (is_low : Bool) (dev : Dev) : Option Dev := do
  let head ← (dev.ch (txType is_low)).head_blk_ctl
  let c ← (dev.ch (txType is_low)).ctl head
  return { dev with
    tx := { dev.tx with cursor := Function.update dev.tx.cursor is_low (c.desc.getD 0) } }

/-- The registers of an RX channel: the destination address comes from the descriptor of the
head. -/
def execProgramRx (is_low : Bool) (dev : Dev) : Option Dev := do
  let head ← (dev.ch (rxType is_low)).head_blk_ctl
  let c ← (dev.ch (rxType is_low)).ctl head
  let _ ← c.desc
  return dev

/-- `destroy_workqueue` waits until `hal_ind_work` is neither pending nor running; there is no step
before that. -/
def execDestroyWorkqueue (dev : Dev) : Option Dev :=
  if dev.hal_ind_wq = true ∧ dev.ind.pending = false ∧ dev.ind.worker = .idle then
    some { dev with hal_ind_wq := false }
  else none

/-- One step: the state after it, and what it returns; `none` is a fault. -/
def exec : LifeOp → Dev → Option (Dev × ℤ)
  | .createWorkqueue, dev =>
    some ({ dev with hal_ind_wq := env.wq }, if env.wq then 0 else -ENOMEM)
  | .initInd, dev =>
    some ({ dev with
      ind := { dev.ind with hal_ind_queue := [], pending := false, worker := .idle }
      hal_ind_mutex := true }, 0)
  | .ctrlOpen, dev =>
    let (msm, ret) := msmSmdOpen env.ctrl_open dev.msm
    some ({ dev with msm := msm, smd_open := ret == 0 }, ret)
  | .ctrlClose, dev =>
    (msmSmdClose dev.msm).map fun msm => ({ dev with msm := msm, smd_open := false }, 0)
  | .destroyWorkqueue, dev => (execDestroyWorkqueue dev).map (·, 0)
  | .destroyIndMutex, dev => some ({ dev with hal_ind_mutex := false }, 0)
  | .allocateMemPool is_low, dev => some (execAllocateMemPool n env is_low dev)
  | .freeMemPool is_low, dev => (execFreeMemPool n is_low dev).map (·, 0)
  | .configure c, dev => some (dev.setCh c ((dev.ch c).configure (n.num c) c), 0)
  | .allocateCtlBlock c, dev =>
    (dxeAllocateCtlBlock (env.kzalloc c) (dev.ch c)).map fun r => (dev.setCh c r.1, r.2)
  | .freeCtlBlock c, dev => (dxeFreeCtlBlock (dev.ch c)).map fun ch => (dev.setCh c ch, 0)
  | .smsmChangeState, dev =>
    let change := Effect.smsmChangeState WCN36XX_SMSM_WLAN_TX_ENABLE WCN36XX_SMSM_WLAN_TX_RINGS_EMPTY
    some ({ dev with tx := { dev.tx with wcn := dev.tx.wcn.emit [change] } }, 0)
  | .kmallocHalBuf, dev =>
    if env.hal_buf then
      let buf := dev.mem.alloc (.kmalloc WCN36XX_HAL_BUF_SIZE)
      some ({ dev with mem := buf.2, hal_buf := buf.1 }, 0)
    else some ({ dev with hal_buf := 0 }, -ENOMEM)
  | .kfreeHalBuf, dev =>
    if dev.hal_buf = 0 then some (dev, 0)
    else (dev.mem.free dev.hal_buf (.kmalloc WCN36XX_HAL_BUF_SIZE)).map fun mem =>
      ({ dev with mem := mem }, 0)
  | .smd .start, dev =>
    some ({ dev with old_fw := if env.smd .start = 0 then env.old_fw else dev.old_fw },
      env.smd .start)
  | .smd req, dev => some (dev, env.smd req)
  | .initDescs c, dev => execInitDescs env c dev
  | .initTxBd is_low, dev =>
    (dxeInitTxBd (dev.pool is_low) (dev.ch (txType is_low))).map fun ch =>
      (dev.setCh (txType is_low) ch, 0)
  | .programTx is_low, dev => (execProgramTx is_low dev).map (·, 0)
  | .chAllocSkb is_low, dev =>
    (dxeChAllocSkb { dev.rx is_low with
      allocs := (List.range (dev.rx is_low).ch.desc_num).map (env.skb is_low) }).map fun s =>
      (dev.setRx is_low s, 0)
  | .programRx is_low, dev => (execProgramRx is_low dev).map (·, 0)
  | .chFreeSkbs is_low, dev => (dxeChFreeSkbs (dev.rx is_low)).map fun s => (dev.setRx is_low s, 0)
  | .requestIrq irq, dev =>
    if env.irq irq = 0 then some (dev.setIrq irq true, 0) else some (dev, -(env.irq irq : ℤ))
  | .freeIrq irq, dev => if dev.irq irq then some (dev.setIrq irq false, 0) else none
  | .deinitTxAck, dev => some ({ dev with tx := { dev.tx with wcn := dxeDeinitTx dev.tx.wcn } }, 0)
  | .initVifList, dev =>
    some ({ dev with
      vif_list := true
      tx := { dev.tx with wcn := { dev.tx.wcn with
        mac := { dev.tx.wcn.mac with vif_list := [] } } } }, 0)
  | .initDxeLock, dev => some ({ dev with dxe_lock := true }, 0)
  | .destroyHalMutex, dev => some ({ dev with hal_mutex := false }, 0)

end Exec

/-- One half of `wcn36xx_dxe_free_mem_pools` only touches the heap. -/
theorem execFreeMemPool_eq {n : RingSizes} {is_low : Bool} {dev dev' : Dev}
    (hrun : execFreeMemPool n is_low dev = some dev') : dev' = { dev with mem := dev'.mem } := by
  unfold execFreeMemPool at hrun
  dsimp only at hrun
  split_ifs at hrun
  · rw [Option.some.injEq] at hrun
    rw [← hrun]
  · obtain ⟨mem, -, rfl⟩ := Option.map_eq_some_iff.mp hrun
    rfl

end Wcn36xx
