import Wcn36xx.Main.Device

/-!
# The life of the driver

`wcn36xx_start`, `wcn36xx_stop` and `wcn36xx_remove` as scripts, and the system in which they run: mac80211
calls them one at a time, and between any two of their steps the firmware may send a message, the
indication worker may run, and an interrupt that is requested may arrive. Every object of the driver
that a callback uses, and every object that a request to the firmware uses, is noted together with
whether it is live at that moment: initialized, and not freed or destroyed.
-/

namespace Wcn36xx

open Support (Call Instr System orGoto runScript)

/-! ## The functions -/

/-- `wcn36xx_smd_close`. -/
def smdClose : List LifeOp := [.ctrlClose, .destroyWorkqueue, .destroyIndMutex]

/-- `wcn36xx_dxe_free_mem_pools`. -/
def dxeFreeMemPools : List LifeOp := [.freeMemPool false, .freeMemPool true]

/-- `wcn36xx_dxe_free_ctl_blks`. -/
def dxeFreeCtlBlks : List LifeOp :=
  [.freeCtlBlock .txL, .freeCtlBlock .txH, .freeCtlBlock .rxL, .freeCtlBlock .rxH]

/-- `wcn36xx_smd_open`, with the label `free_wq`. -/
def smdOpen : List (Instr LifeOp) :=
  [⟨.createWorkqueue, some []⟩, .plain .initInd, ⟨.ctrlOpen, some [.destroyWorkqueue]⟩]

/-- `wcn36xx_dxe_allocate_mem_pools`, with the label `out_err`. -/
def dxeAllocateMemPools : List (Instr LifeOp) :=
  [⟨.allocateMemPool false, some dxeFreeMemPools⟩, ⟨.allocateMemPool true, some dxeFreeMemPools⟩]

/-- The assignments of `wcn36xx_dxe_alloc_ctl_blks`. -/
def dxeConfigure : List (Instr LifeOp) :=
  [.plain (.configure .txL), .plain (.configure .txH), .plain (.configure .rxL),
    .plain (.configure .rxH)]

/-- `wcn36xx_dxe_alloc_ctl_blks`, with the label `out_err`. -/
def dxeAllocCtlBlks : List (Instr LifeOp) :=
  dxeConfigure ++
  [⟨.allocateCtlBlock .txL, some dxeFreeCtlBlks⟩, ⟨.allocateCtlBlock .txH, some dxeFreeCtlBlks⟩,
    ⟨.allocateCtlBlock .rxL, some dxeFreeCtlBlks⟩, ⟨.allocateCtlBlock .rxH, some dxeFreeCtlBlks⟩,
    .plain .smsmChangeState]

/-- The part of `wcn36xx_dxe_init` for a TX channel. -/
def dxeInitTx (is_low : Bool) : List (Instr LifeOp) :=
  [.plain (.initDescs (txType is_low)), .plain (.initTxBd is_low), .plain (.programTx is_low)]

/-- The part of `wcn36xx_dxe_init` for an RX channel. -/
def dxeInitRx (is_low : Bool) : List (Instr LifeOp) :=
  [.plain (.initDescs (rxType is_low)), .plain (.chAllocSkb is_low), .plain (.programRx is_low)]

/-- `wcn36xx_dxe_request_irqs`, with the labels `out_txirq` and `out_err`. -/
def dxeRequestIrqs : List (Instr LifeOp) :=
  [⟨.requestIrq .tx, some []⟩, ⟨.requestIrq .rx, some [.freeIrq .tx]⟩]

/-- `wcn36xx_dxe_init`. -/
def dxeInit : List (Instr LifeOp) :=
  dxeInitTx true ++ dxeInitTx false ++ dxeInitRx true ++ dxeInitRx false ++ dxeRequestIrqs

/-- `wcn36xx_dxe_deinit`. -/
def dxeDeinit : List LifeOp :=
  [.freeIrq .tx, .freeIrq .rx, .deinitTxAck, .chFreeSkbs true, .chFreeSkbs false]

/-- `wcn36xx_start` from the label `out_smd_close` on. -/
def outSmdClose : List LifeOp := smdClose

/-- `wcn36xx_start` from the label `out_free_dxe_ctl` on. -/
def outFreeDxeCtl : List LifeOp := dxeFreeCtlBlks ++ outSmdClose

/-- `wcn36xx_start` from the label `out_free_dxe_pool` on. -/
def outFreeDxePool : List LifeOp := dxeFreeMemPools ++ outFreeDxeCtl

/-- `wcn36xx_start` from the label `out_free_smd_buf` on. -/
def outFreeSmdBuf : List LifeOp := .kfreeHalBuf :: outFreeDxePool

/-- `wcn36xx_start` from the label `out_smd_stop` on. -/
def outSmdStop : List LifeOp := .smd .stop :: outFreeSmdBuf

/-- `wcn36xx_start` up to the call of `wcn36xx_dxe_init`. -/
def startAcquire : List (Instr LifeOp) :=
  smdOpen ++ orGoto dxeAllocateMemPools outSmdClose ++ orGoto dxeAllocCtlBlks outFreeDxePool ++
  [⟨.kmallocHalBuf, some outFreeDxeCtl⟩, ⟨.smd .loadNv, some outFreeSmdBuf⟩,
    ⟨.smd .start, some outFreeSmdBuf⟩, .plain (.smd .featureCapsExchange), .plain (.smd .updateCfg)]

/-- `wcn36xx_start` from the call of `wcn36xx_dxe_init` on. -/
def startInit : List (Instr LifeOp) :=
  orGoto dxeInit outSmdStop ++ [.plain .initVifList, .plain .initDxeLock]

/-- `wcn36xx_start`. -/
def startScript : List (Instr LifeOp) := startAcquire ++ startInit

/-- `wcn36xx_stop`. -/
def stopOps : List LifeOp :=
  .smd .stop :: (dxeDeinit ++ smdClose ++ dxeFreeMemPools ++ dxeFreeCtlBlks ++ [.kfreeHalBuf])

/-- An uninterrupted call of `wcn36xx_start`. -/
def start (n : RingSizes) (env : CallEnv) (dev : Dev) : Option (Dev × ℤ) :=
  runScript (exec n env) startScript dev

/-! ## Running -/

/-- What may happen to a device while no step of a call is taken. -/
inductive RunEvent where
  /-- mac80211 calls `wcn36xx_tx`. -/
  | tx (sta_priv : Option ℕ) (skb : SkBuff)
  /-- mac80211 changes interfaces, stations or the channel. -/
  | config (mac : MacConf)
  /-- The DMA engine completes a descriptor of a TX channel. -/
  | dma (is_low : Bool)
  /-- The DMA engine completes a descriptor of an RX channel. -/
  | rxDma (is_low : Bool) (i : ℕ)
  /-- `wcn36xx_irq_tx_complete` with a TX channel in its interrupt source. -/
  | txIrq (is_low : Bool)
  /-- `wcn36xx_irq_rx_ready` with an RX channel in its interrupt source, and what its calls of
  `alloc_skb` come to. -/
  | rxIrq (is_low : Bool) (allocs : List (Option (BitVec 32)))
  /-- `wcn36xx_smd_rsp_process`; the booleans say which of its two calls of `kmalloc` succeed. -/
  | rspProcess (msg : List Byte) (ind_ok msg_ok : Bool)
  /-- The workqueue runs `hal_ind_work`. -/
  | workStart
  /-- `wcn36xx_ind_smd_work` calls the handler of the first message in its queue. -/
  | workHandle
  /-- `wcn36xx_ind_smd_work` removes the message. -/
  | workDel
  /-- `wcn36xx_ind_smd_work` returns. -/
  | workReturn

/-- The objects that callbacks and requests use. -/
inductive Obj where
  | halBuf
  | vifList
  | dxeLock
  | ring (c : DxeChType)
  | halMutex
  | halIndMutex
  | halIndWq
  deriving DecidableEq, Repr

/-- An object is initialized, and not freed or destroyed. -/
def Dev.live (dev : Dev) : Obj → Bool
  | .halBuf =>
    dev.hal_buf != 0 && dev.mem.cells dev.hal_buf == some (.kmalloc WCN36XX_HAL_BUF_SIZE)
  | .vifList => dev.vif_list
  | .dxeLock => dev.dxe_lock
  | .ring c => (dev.ch c).live
  | .halMutex => dev.hal_mutex
  | .halIndMutex => dev.hal_ind_mutex
  | .halIndWq => dev.hal_ind_wq

/-- `sizeof` the message of an indication. -/
def HalInd.size : HalInd → ℕ
  | .OTA_TX_COMPL => HalMsgHeader.size + 4
  | .MISSED_BEACON => HalMsgHeader.size + 1
  | .DELETE_STA_CONTEXT => HalMsgHeader.size + 18

/-- The objects that the handler of an indication uses: `wcn36xx_dxe_tx_ack_ind` takes `dxe_lock`, and
the other two walk along `vif_list`. A message of the wrong length is dropped before. -/
def indUses (old_fw : Bool) (msg : List Byte) : List Obj :=
  if msgType msg = HalInd.OTA_TX_COMPL.indType then
    if msg.length = HalInd.OTA_TX_COMPL.size then [.dxeLock] else []
  else if msgType msg = HalInd.MISSED_BEACON.indType then
    -- Old firmware does not have the bss index.
    if old_fw ∨ msg.length = HalInd.MISSED_BEACON.size then [.vifList] else []
  else if msgType msg = HalInd.DELETE_STA_CONTEXT.indType then
    if msg.length = HalInd.DELETE_STA_CONTEXT.size then [.vifList] else []
  else []

/-- `wcn36xx_smd_tx_compl_ind`, when the message is one for it. -/
def indEffect (msg : List Byte) (wcn : Wcn) : Wcn :=
  if msgType msg = HalInd.OTA_TX_COMPL.indType ∧ msg.length = HalInd.OTA_TX_COMPL.size then
    dxeTxAckInd wcn (BitVec.ofNat 32 (field msg HalMsgHeader.size 4))
  else wcn

namespace RunEvent

/-- The objects that an event uses. -/
def uses (dev : Dev) : RunEvent → List Obj
  | .tx _ _ | .config _ | .dma _ | .rxDma _ _ => []
  | .txIrq is_low => [.ring (txType is_low)]
  | .rxIrq is_low _ => [.ring (rxType is_low)]
  | .rspProcess msg ind_ok msg_ok =>
    match smdMsgOf (msgType msg) with
    | .rsp _ => [.halBuf]
    | .ind _ => if ind_ok && msg_ok then [.halIndMutex, .halIndWq] else []
    | .notSupported => []
  | .workStart | .workReturn => []
  | .workHandle => .halIndMutex :: indUses dev.old_fw (dev.ind.hal_ind_queue.headD [])
  | .workDel => [.halIndMutex]

/-- A step of the TX side. The parameters of `txSystem` only matter to its initial states. -/
def txStep (dev : Dev) (e : TxEvent) : Option Dev :=
  ((txSystem driverParams).step dev.tx e).map fun tx => { dev with tx := tx }

/-- A step of the indication queue. -/
def indStep (dev : Dev) (e : IndEvent) : Option Dev :=
  (indSystem.step dev.ind e).map fun ind => { dev with ind := ind }

/-- What an event does to the device; `none` when it cannot happen. An interrupt handler that faults
leaves the device as it is. -/
def effect (dev : Dev) : RunEvent → Option Dev
  | .tx sta_priv skb => txStep dev (.tx sta_priv skb)
  | .config mac => txStep dev (.config mac)
  | .dma is_low => txStep dev (.dma is_low)
  | .rxDma is_low i =>
    let s := dev.rx is_low
    if i < s.ch.desc_num ∧ (s.ch.dxe i).valid then
      some (dev.setRx is_low { s with ch := s.ch.modDesc i DxeDesc.clearValid })
    else none
  | .txIrq is_low => some ((txStep dev (.reap is_low)).getD dev)
  | .rxIrq is_low allocs =>
    match rxHandlePackets { dev.rx is_low with allocs := allocs } with
    | some s => if s.allocs.isEmpty then some (dev.setRx is_low s) else none
    | none => some dev
  | .rspProcess msg ind_ok msg_ok => indStep dev (.rspProcess msg ind_ok msg_ok)
  | .workStart => indStep dev .workStart
  | .workHandle =>
    (indStep dev .workHandle).map fun dev =>
      { dev with tx := { dev.tx with
        wcn := indEffect (dev.ind.hal_ind_queue.headD []) dev.tx.wcn } }
  | .workDel => indStep dev .workDel
  | .workReturn => indStep dev .workReturn

end RunEvent

/-! ## The system -/

/-- The functions that are called on the driver, one at a time. -/
inductive LifeFn where
  | start
  | stop
  | remove
  deriving DecidableEq, Repr

/-- A call in progress. -/
structure Running where
  fn : LifeFn
  env : CallEnv
  call : Call LifeOp

/-- Where the driver is between `wcn36xx_probe` and `wcn36xx_remove`. -/
inductive DriverPhase where
  | unprobed
  | registered
  | removed
  deriving DecidableEq, Repr

/-- The driver, the call in progress, and the uses of its objects so far. -/
structure LifeWorld where
  dev : Dev := {}
  phase : DriverPhase := .unprobed
  /-- `wcn36xx_start` has returned 0, and no stop has begun since. -/
  started : Bool := false
  /-- How often `wcn36xx_start` has returned 0. -/
  starts : ℕ := 0
  running : Option Running := none
  /-- The objects used so far, each with whether it was live. -/
  uses : List (Obj × Bool) := []

/-- The steps of the system. -/
inductive LifeEvent where
  /-- `wcn36xx_probe` succeeds. -/
  | probe
  /-- mac80211 calls `wcn36xx_start` or `wcn36xx_stop`, or the driver core `wcn36xx_remove`. -/
  | call (fn : LifeFn) (env : CallEnv)
  /-- The next step of the call in progress. -/
  | op
  /-- The call in progress returns. -/
  | ret
  /-- Something else happens. -/
  | run (e : RunEvent)

namespace LifeWorld

variable (w : LifeWorld)

/-- Note the use of objects. -/
def use (os : List Obj) : LifeWorld :=
  { w with uses := w.uses ++ os.map fun o => (o, w.dev.live o) }

/-- The steps to come of the call in progress. -/
def ops : List LifeOp := (w.running.map fun r => r.call.ops).getD []

/-- An event can happen: mac80211 transmits and changes the configuration only between start and
stop, interrupts arrive while they are requested, messages while the channel is open, and the worker
runs while its workqueue exists. -/
def canRun : RunEvent → Bool
  | .tx _ _ | .config _ => w.started && w.running.isNone
  | .dma _ | .rxDma _ _ => true
  | .txIrq _ => w.dev.tx_irq
  | .rxIrq _ _ => w.dev.rx_irq
  | .rspProcess _ _ _ => w.dev.smd_open
  | .workStart | .workHandle | .workDel | .workReturn => w.dev.hal_ind_wq

/-- The script of a call. `ieee80211_unregister_hw` stops a driver that is started. -/
def script : LifeFn → List (Instr LifeOp)
  | .start => startScript
  | .stop => stopOps.map .plain
  | .remove => (.destroyHalMutex :: if w.started then stopOps else []).map .plain

/-- A call can begin. -/
def canCall : LifeFn → Bool
  | .start => w.phase == .registered && w.running.isNone && !w.started
  | .stop => w.phase == .registered && w.running.isNone && w.started
  | .remove => w.phase == .registered && w.running.isNone

/-- What is left to do when a call returns. -/
def finish (r : Running) : LifeWorld :=
  match r.fn with
  | .start =>
    if r.call.ret = 0 then { w with running := none, started := true, starts := w.starts + 1 }
    else { w with running := none }
  | .stop => { w with running := none }
  | .remove => { w with running := none, phase := .removed }

end LifeWorld

/-- The objects that a step of a call uses: requests to the firmware take `hal_mutex` and write to
`hal_buf`. Old firmware is not asked for its capabilities. -/
def LifeOp.uses (dev : Dev) : LifeOp → List Obj
  | .smd .featureCapsExchange => if dev.old_fw then [] else [.halMutex, .halBuf]
  | .smd _ => [.halMutex, .halBuf]
  | _ => []

/-- The objects that the next step of a call uses. -/
def Running.uses (r : Running) (dev : Dev) : List Obj :=
  match r.call.rest with
  | [] => []
  | i :: _ => i.op.uses dev

/-- The driver as a transition system. -/
def lifeSystem (n : RingSizes) : System LifeWorld LifeEvent where
  init w := w = {}
  step w
    | .probe =>
      if w.phase = .unprobed then
        some { w with phase := .registered, dev := { w.dev with hal_mutex := true } }
      else none
    | .call fn env =>
      if w.canCall fn then
        some { w with running := some ⟨fn, env, ⟨w.script fn, 0⟩⟩, started := false }
      else none
    | .op => do
      let r ← w.running
      let (call, dev) ← r.call.step (exec n r.env) w.dev
      return { w.use (r.uses w.dev) with dev := dev, running := some { r with call := call } }
    | .ret => do
      let r ← w.running
      if r.call.rest.isEmpty then return w.finish r else none
    | .run e =>
      if w.canRun e then (e.effect w.dev).map fun dev => { w.use (e.uses w.dev) with dev := dev }
      else none

/-- What a step of the system can be. -/
inductive LifeStep (n : RingSizes) (w : LifeWorld) : LifeEvent → LifeWorld → Prop
  | probe : w.phase = .unprobed →
      LifeStep n w .probe { w with phase := .registered, dev := { w.dev with hal_mutex := true } }
  | call (fn : LifeFn) (env : CallEnv) : w.canCall fn = true →
      LifeStep n w (.call fn env)
        { w with running := some ⟨fn, env, ⟨w.script fn, 0⟩⟩, started := false }
  | op (r : Running) (call : Call LifeOp) (dev : Dev) : w.running = some r →
      r.call.step (exec n r.env) w.dev = some (call, dev) →
      LifeStep n w .op
        { w.use (r.uses w.dev) with dev := dev, running := some { r with call := call } }
  | ret (r : Running) : w.running = some r → r.call.rest = [] → LifeStep n w .ret (w.finish r)
  | run (e : RunEvent) (dev : Dev) : w.canRun e = true → e.effect w.dev = some dev →
      LifeStep n w (.run e) { w.use (e.uses w.dev) with dev := dev }

/-- A step of the system is one of them. -/
theorem lifeStep_of_step {n : RingSizes} {w w' : LifeWorld} {e : LifeEvent}
    (h : (lifeSystem n).step w e = some w') : LifeStep n w e w' := by
  cases e with
  | probe =>
    obtain ⟨hphase, heq⟩ := Option.ite_none_right_eq_some.mp h
    rw [Option.some.injEq] at heq
    exact heq ▸ .probe hphase
  | call fn env =>
    obtain ⟨hcan, heq⟩ := Option.ite_none_right_eq_some.mp h
    rw [Option.some.injEq] at heq
    exact heq ▸ .call fn env hcan
  | op =>
    obtain ⟨r, hr, h⟩ := Option.bind_eq_some_iff.mp h
    obtain ⟨⟨call, dev⟩, hcall, heq⟩ := Option.bind_eq_some_iff.mp h
    rw [Option.pure_def, Option.some.injEq] at heq
    exact heq ▸ .op r call dev hr hcall
  | ret =>
    obtain ⟨r, hr, h⟩ := Option.bind_eq_some_iff.mp h
    obtain ⟨hrest, heq⟩ := Option.ite_none_right_eq_some.mp h
    rw [Option.pure_def, Option.some.injEq] at heq
    exact heq ▸ .ret r hr (List.isEmpty_iff.mp hrest)
  | run e =>
    obtain ⟨hcan, heq⟩ := Option.ite_none_right_eq_some.mp h
    obtain ⟨dev, heffect, heq⟩ := Option.map_eq_some_iff.mp heq
    exact heq ▸ .run e dev hcan heffect

end Wcn36xx
