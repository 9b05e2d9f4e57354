import Wcn36xx.Dxe.Rx
import Wcn36xx.Dxe.Tx

/-!
# The interrupt handlers, step by step

`wcn36xx_irq_tx_complete` and `wcn36xx_dxe_rx_frame` read the raw interrupt bits once. Then, channel by
channel, they clear the channel's bit and drain the channel. Here both are programs whose steps are single
accesses to what others write too: the register, the VALID bits and the two ends of a ring.
`txIrqSteps_eq` and `rxIrqSteps_eq` say that the programs are the handlers when nothing happens between
their steps.
-/

namespace Wcn36xx

/-- `WCN36XX_DXE_0_INT_CLR`. -/
def WCN36XX_DXE_0_INT_CLR : BitVec 32 := 0x202000 + 0x30
/-- `WCN36XX_DXE_0_INT_ED_CLR`. -/
def WCN36XX_DXE_0_INT_ED_CLR : BitVec 32 := 0x202000 + 0x34
/-- `WCN36XX_INT_MASK_CHAN_TX_L`. -/
def WCN36XX_INT_MASK_CHAN_TX_L : BitVec 32 := 0x1
/-- `WCN36XX_INT_MASK_CHAN_TX_H`. -/
def WCN36XX_INT_MASK_CHAN_TX_H : BitVec 32 := 0x10

/-- The interrupt bit of a TX channel. -/
def txIntMask (is_low : Bool) : BitVec 32 :=
  if is_low then WCN36XX_INT_MASK_CHAN_TX_L else WCN36XX_INT_MASK_CHAN_TX_H

/-- The interrupt bit of an RX channel. -/
def rxIntMask (is_low : Bool) : BitVec 32 :=
  if is_low then WCN36XX_DXE_INT_CH1_MASK else WCN36XX_DXE_INT_CH3_MASK

/-- `int_src & mask`. -/
def intPending (int_src mask : BitVec 32) : Bool := int_src &&& mask != 0

/-! ## `wcn36xx_irq_tx_complete` -/

/-- A step of `wcn36xx_irq_tx_complete` on one channel. From `check` on it is in `reap_tx_dxes`, at the block
`ctl`. -/
inductive ReapPc where
  /-- The write to `WCN36XX_DXE_0_INT_CLR`. -/
  | intClr
  /-- The write to `WCN36XX_DXE_0_INT_ED_CLR`, and `ctl = ch->tail_blk_ctl`. -/
  | intEdClr
  /-- `if (ctl->desc->ctrl & WCN36XX_DXE_CTRL_VALID_MASK) break`. -/
  | check (ctl : ℕ)
  /-- `if (ctl->skb) { … }`. -/
  | release (ctl : ℕ)
  /-- `ctl = ctl->next`, and `ctl != ch->head_blk_ctl`. -/
  | next (ctl : ℕ)
  /-- `!(ctl->desc->ctrl & WCN36XX_DXE_CTRL_VALID_MASK)`. -/
  | again (ctl : ℕ)
  /-- `ch->tail_blk_ctl = ctl`. -/
  | store (ctl : ℕ)
  deriving DecidableEq

/-- `wcn36xx_irq_tx_complete` under way: the bits that it has read, and its next step. -/
structure TxIrq where
  int_src : BitVec 32
  is_low : Bool
  pc : ReapPc

/-- The handler comes to the test of the low channel's bit. -/
def txIrqLow (int_src : BitVec 32) : Option TxIrq :=
  if intPending int_src (txIntMask true) then
    some { int_src := int_src, is_low := true, pc := .intClr }
  else none

/-- The handler has read the bits. -/
def txIrqBegin (int_src : BitVec 32) : Option TxIrq :=
  if intPending int_src (txIntMask false) then
    some { int_src := int_src, is_low := false, pc := .intClr }
  else txIrqLow int_src

/-- A step of the handler: the driver and the raw bits after it, and what the handler does next. -/
def txIrqStep (wcn : Wcn) (raw : BitVec 32) (irq : TxIrq) :
    Option (Wcn × BitVec 32 × Option TxIrq) :=
  let ch := wcn.txCh irq.is_low
  let mask := txIntMask irq.is_low
  match irq.pc with
  | .intClr =>
    return (wcn.emit [.writeRegister WCN36XX_DXE_0_INT_CLR mask], raw &&& ~~~mask,
      some { irq with pc := .intEdClr })
  | .intEdClr => do
    let ctl ← ch.tail_blk_ctl
    return (wcn.emit [.writeRegister WCN36XX_DXE_0_INT_ED_CLR mask], raw,
      some { irq with pc := .check ctl })
  | .check ctl => do
    let valid ← ch.validAt ctl
    return (wcn, raw, some { irq with pc := if valid then .store ctl else .release ctl })
  | .release ctl => do
    let wcn ← reapSkb wcn irq.is_low ctl
    return (wcn, raw, some { irq with pc := .next ctl })
  | .next ctl => do
    let ctl ← (← ch.nextOf ctl)
    return (wcn, raw, some { irq with
      pc := if ch.head_blk_ctl = some ctl then .store ctl else .again ctl })
  | .again ctl => do
    let valid ← ch.validAt ctl
    return (wcn, raw, some { irq with pc := if valid then .store ctl else .check ctl })
  | .store ctl =>
    return (wcn.setTxCh irq.is_low { ch with tail_blk_ctl := some ctl }, raw,
      if irq.is_low then none else txIrqLow irq.int_src)

/-- The handler's section for one channel. -/
def irqTxChannel (wcn : Wcn) (raw int_src : BitVec 32) (is_low : Bool) :
    Option (Wcn × BitVec 32) :=
  let mask := txIntMask is_low
  if intPending int_src mask then do
    let wcn := wcn.emit [.writeRegister WCN36XX_DXE_0_INT_CLR mask]
    let wcn := wcn.emit [.writeRegister WCN36XX_DXE_0_INT_ED_CLR mask]
    let wcn ← reapTxDxes wcn is_low
    return (wcn, raw &&& ~~~mask)
  else return (wcn, raw)

/-- `wcn36xx_irq_tx_complete`, when nothing happens in between. -/
def irqTxComplete (wcn : Wcn) (raw : BitVec 32) : Option (Wcn × BitVec 32) := do
  let int_src := raw
  let (wcn, raw) ← irqTxChannel wcn raw int_src false
  irqTxChannel wcn raw int_src true

/-- A number of steps of the handler. -/
def txIrqSteps : ℕ → Wcn × BitVec 32 × Option TxIrq → Option (Wcn × BitVec 32 × Option TxIrq)
  | 0, s => some s
  | _ + 1, (_, _, none) => none
  | k + 1, (wcn, raw, some irq) => (txIrqStep wcn raw irq).bind (txIrqSteps k)

/-! ## `wcn36xx_dxe_rx_frame` -/

/-- A step of `wcn36xx_dxe_rx_frame` on one channel. From `check` on it is in `wcn36xx_rx_handle_packets`, at
the block `ctl`, with its local variables. -/
inductive DrainPc where
  /-- The write to `WCN36XX_DXE_0_INT_CLR`, and `ctl = ch->head_blk_ctl`. -/
  | intClr
  /-- `!(dxe->ctrl & WCN36XX_DXE_CTRL_VALID_MASK)`. -/
  | check (ctl : ℕ)
  /-- `skb = ctl->skb`, `dma_addr = dxe->dst_addr_l`, and `wcn36xx_dxe_fill_skb`. -/
  | fill (ctl : ℕ)
  /-- The `switch`. -/
  | rearm (ctl dxe : ℕ) (skb : Option SkBuff) (dma_addr : BitVec 32)
  /-- `dma_unmap_single`, `wcn36xx_rx_skb`, and `ctl = ctl->next`. -/
  | deliver (ctl : ℕ) (skb : Option SkBuff) (dma_addr : BitVec 32)
  /-- `ch->head_blk_ctl = ctl`. -/
  | store (ctl : ℕ)
  deriving DecidableEq

/-- `wcn36xx_dxe_rx_frame` under way. -/
structure RxIrq where
  int_src : BitVec 32
  is_low : Bool
  pc : DrainPc

/-- The handler comes to the test of the high channel's bit. -/
def rxIrqHigh (int_src : BitVec 32) : Option RxIrq :=
  if intPending int_src (rxIntMask false) then
    some { int_src := int_src, is_low := false, pc := .intClr }
  else none

/-- The handler has read the bits. -/
def rxIrqBegin (int_src : BitVec 32) : Option RxIrq :=
  if intPending int_src (rxIntMask true) then
    some { int_src := int_src, is_low := true, pc := .intClr }
  else rxIrqHigh int_src

/-- A step of the handler on its channel. -/
def rxIrqStep (s : RxState) (raw : BitVec 32) (irq : RxIrq) :
    Option (RxState × BitVec 32 × Option RxIrq) :=
  let mask := rxIntMask irq.is_low
  match irq.pc with
  | .intClr => do
    let ctl ← s.ch.head_blk_ctl
    return (s.emit [.writeRegister WCN36XX_DXE_0_INT_CLR mask], raw &&& ~~~mask,
      some { irq with pc := .check ctl })
  | .check ctl => do
    let valid ← s.ch.validAt ctl
    return (s, raw, some { irq with pc := if valid then .store ctl else .fill ctl })
  | .fill ctl => do
    let c ← s.ch.ctl ctl
    let dxe ← c.desc
    let dma_addr := (s.ch.dxe dxe).dst_addr_l
    -- The error is not looked at.
    let (s, _) ← dxeFillSkb s ctl
    return (s, raw, some { irq with pc := .rearm ctl dxe c.skb dma_addr })
  | .rearm ctl dxe skb dma_addr =>
    return (rxRearm s dxe, raw, some { irq with pc := .deliver ctl skb dma_addr })
  | .deliver ctl skb dma_addr => do
    let s ← rxSkb (s.emit [.dmaUnmap dma_addr]) skb
    let ctl ← (← s.ch.nextOf ctl)
    return (s, raw, some { irq with pc := .check ctl })
  | .store ctl =>
    return ({ s with ch := { s.ch with head_blk_ctl := some ctl } }, raw,
      if irq.is_low then rxIrqHigh irq.int_src else none)

/-- The handler's section for one channel. -/
def dxeRxChannel (s : RxState) (raw int_src : BitVec 32) (is_low : Bool) :
    Option (RxState × BitVec 32) :=
  let mask := rxIntMask is_low
  if intPending int_src mask then do
    let s ← rxHandlePackets (s.emit [.writeRegister WCN36XX_DXE_0_INT_CLR mask])
    return (s, raw &&& ~~~mask)
  else return (s, raw)

/-- `wcn36xx_dxe_rx_frame` on the two RX channels, when nothing happens in between. -/
def dxeRxFrame (rx : Bool → RxState) (raw : BitVec 32) : Option ((Bool → RxState) × BitVec 32) := do
  let int_src := raw
  let (l, raw) ← dxeRxChannel (rx true) raw int_src true
  let (h, raw) ← dxeRxChannel (rx false) raw int_src false
  return (fun is_low => if is_low then l else h, raw)

/-- A number of steps of the handler. -/
def rxIrqSteps : ℕ → (Bool → RxState) × BitVec 32 × Option RxIrq →
    Option ((Bool → RxState) × BitVec 32 × Option RxIrq)
  | 0, s => some s
  | _ + 1, (_, _, none) => none
  | k + 1, (rx, raw, some irq) =>
    (rxIrqStep (rx irq.is_low) raw irq).bind fun r =>
      rxIrqSteps k (Function.update rx irq.is_low r.1, r.2.1, r.2.2)

/-! ## The programs are the handlers -/

/-- Steps after steps. -/
theorem txIrqSteps_add {j k : ℕ} {s s' s'' : Wcn × BitVec 32 × Option TxIrq}
    (h : txIrqSteps j s = some s') (h' : txIrqSteps k s' = some s'') :
    txIrqSteps (j + k) s = some s'' := by
  induction j generalizing s with
  | zero =>
    rw [txIrqSteps, Option.some.injEq] at h
    rw [Nat.zero_add, h]
    exact h'
  | succ j ih =>
    obtain ⟨wcn, raw, irq⟩ := s
    rw [Nat.succ_add]
    cases irq with
    | none => cases h
    | some irq =>
      obtain ⟨t, ht, h⟩ := Option.bind_eq_some_iff.mp h
      rw [txIrqSteps, ht, Option.bind_some]
      exact ih h

/-- One step. -/
theorem txIrqSteps_one {wcn : Wcn} {raw : BitVec 32} {irq : TxIrq}
    {s : Wcn × BitVec 32 × Option TxIrq} (h : txIrqStep wcn raw irq = some s) :
    txIrqSteps 1 (wcn, raw, some irq) = some s := by
  rw [txIrqSteps, h, Option.bind_some, txIrqSteps]

/-- The loop of `reap_tx_dxes`. -/
theorem txIrqSteps_loop {raw int_src : BitVec 32} {is_low : Bool} (fuel : ℕ) {ctl ctl' : ℕ}
    {wcn wcn' : Wcn} (h : reapTxDxesLoop is_low fuel ctl wcn = some (ctl', wcn')) :
    ∃ k, txIrqSteps k (wcn, raw, some ⟨int_src, is_low, .check ctl⟩) =
      some (wcn', raw, some ⟨int_src, is_low, .store ctl'⟩) := by
  induction fuel generalizing ctl wcn with
  | zero => cases h
  | succ fuel ih =>
    obtain ⟨valid, hvalid, h⟩ := Option.bind_eq_some_iff.mp h
    cases valid with
    | true =>
      rw [if_pos rfl, Option.pure_def, Option.some.injEq, Prod.mk.injEq] at h
      obtain ⟨rfl, rfl⟩ := h
      refine ⟨1, txIrqSteps_one ?_⟩
      simp only [txIrqStep, hvalid, Option.bind_eq_bind, Option.bind_some, if_true, Option.pure_def]
    | false =>
      rw [if_neg Bool.false_ne_true] at h
      obtain ⟨wcn₁, hreap, h⟩ := Option.bind_eq_some_iff.mp h
      obtain ⟨o, hnext, h⟩ := Option.bind_eq_some_iff.mp h
      obtain ⟨next, ho, h⟩ := Option.bind_eq_some_iff.mp h
      rw [ho] at hnext
      -- The check, the release and the step to the next block.
      have hthree : txIrqSteps 3 (wcn, raw, some ⟨int_src, is_low, .check ctl⟩) =
          some (wcn₁, raw, some ⟨int_src, is_low,
            if (wcn₁.txCh is_low).head_blk_ctl = some next then .store next else .again next⟩) := by
        simp only [txIrqSteps, txIrqStep, hvalid, hreap, hnext, Option.bind_eq_bind,
          Option.bind_some, Bool.false_eq_true, if_false, Option.pure_def]
      split_ifs at h hthree with hhead
      · rw [Option.pure_def, Option.some.injEq, Prod.mk.injEq] at h
        obtain ⟨rfl, rfl⟩ := h
        exact ⟨3, hthree⟩
      · obtain ⟨valid', hvalid', h⟩ := Option.bind_eq_some_iff.mp h
        have hagain := txIrqSteps_add hthree (txIrqSteps_one (s := (wcn₁, raw, some ⟨int_src, is_low,
          if valid' then .store next else .check next⟩)) (by
            simp only [txIrqStep, hvalid', Option.bind_eq_bind, Option.bind_some, Option.pure_def]))
        split_ifs at h hagain with hv
        · rw [Option.pure_def, Option.some.injEq, Prod.mk.injEq] at h
          obtain ⟨rfl, rfl⟩ := h
          exact ⟨_, hagain⟩
        · obtain ⟨k, hk⟩ := ih h
          exact ⟨_, txIrqSteps_add hagain hk⟩

/-- The section of a channel whose bit has been read. -/
theorem txIrqSteps_channel {raw raw' int_src : BitVec 32} {is_low : Bool} {wcn wcn' : Wcn}
    (hbit : intPending int_src (txIntMask is_low) = true)
    (h : irqTxChannel wcn raw int_src is_low = some (wcn', raw')) :
    ∃ k, txIrqSteps k (wcn, raw, some ⟨int_src, is_low, .intClr⟩) =
      some (wcn', raw', if is_low then none else txIrqLow int_src) := by
  unfold irqTxChannel at h
  rw [if_pos hbit] at h
  obtain ⟨wcn₁, hreap, h⟩ := Option.bind_eq_some_iff.mp h
  rw [Option.pure_def, Option.some.injEq, Prod.mk.injEq] at h
  obtain ⟨rfl, rfl⟩ := h
  obtain ⟨ctl, htail, hreap⟩ := Option.bind_eq_some_iff.mp hreap
  obtain ⟨⟨ctl', wcn₂⟩, hloop, hreap⟩ := Option.bind_eq_some_iff.mp hreap
  rw [Option.pure_def, Option.some.injEq] at hreap
  rw [Wcn.emit_txCh, Wcn.emit_txCh] at htail
  -- The two writes, the loop, and the store to the tail.
  have hclr : txIrqSteps 2 (wcn, raw, some ⟨int_src, is_low, .intClr⟩) =
      some ((wcn.emit [.writeRegister WCN36XX_DXE_0_INT_CLR (txIntMask is_low)]).emit
        [.writeRegister WCN36XX_DXE_0_INT_ED_CLR (txIntMask is_low)], raw &&& ~~~txIntMask is_low,
        some ⟨int_src, is_low, .check ctl⟩) := by
    simp only [txIrqSteps, txIrqStep, Wcn.emit_txCh, htail, Option.bind_eq_bind, Option.bind_some,
      Option.pure_def]
  have hwalk : ∃ k, txIrqSteps k (_, raw &&& ~~~txIntMask is_low, some ⟨int_src, is_low, .check ctl⟩) =
      some (wcn₂, raw &&& ~~~txIntMask is_low, some ⟨int_src, is_low, .store ctl'⟩) :=
    txIrqSteps_loop _ hloop
  obtain ⟨k, hk⟩ := hwalk
  have hstore : txIrqStep wcn₂ (raw &&& ~~~txIntMask is_low) ⟨int_src, is_low, .store ctl'⟩ =
      some (wcn₁, raw &&& ~~~txIntMask is_low, if is_low then none else txIrqLow int_src) := by
    simp only [txIrqStep, hreap, Option.pure_def]
  exact ⟨_, txIrqSteps_add (txIrqSteps_add hclr hk) (txIrqSteps_one hstore)⟩

/-- When nothing happens between its steps, the program is `wcn36xx_irq_tx_complete`. -/
theorem txIrqSteps_eq {wcn wcn' : Wcn} {raw raw' : BitVec 32}
    (h : irqTxComplete wcn raw = some (wcn', raw')) :
    ∃ k, txIrqSteps k (wcn, raw, txIrqBegin raw) = some (wcn', raw', none) := by
  obtain ⟨⟨wcn₁, raw₁⟩, hhigh, hlow⟩ := Option.bind_eq_some_iff.mp h
  have hlow : irqTxChannel wcn₁ raw₁ raw true = some (wcn', raw') := hlow
  -- The low channel's section comes second.
  have hrest : ∃ k, txIrqSteps k (wcn₁, raw₁, txIrqLow raw) = some (wcn', raw', none) := by
    unfold txIrqLow
    split_ifs with hbit
    · exact txIrqSteps_channel hbit hlow
    · unfold irqTxChannel at hlow
      rw [if_neg hbit, Option.pure_def, Option.some.injEq, Prod.mk.injEq] at hlow
      obtain ⟨rfl, rfl⟩ := hlow
      exact ⟨0, by rw [txIrqSteps]⟩
  obtain ⟨k, hk⟩ := hrest
  unfold txIrqBegin
  split_ifs with hbit
  · obtain ⟨j, hj⟩ := txIrqSteps_channel hbit hhigh
    exact ⟨_, txIrqSteps_add hj hk⟩
  · unfold irqTxChannel at hhigh
    rw [if_neg hbit, Option.pure_def, Option.some.injEq, Prod.mk.injEq] at hhigh
    obtain ⟨rfl, rfl⟩ := hhigh
    exact ⟨k, hk⟩

/-- Steps after steps. -/
theorem rxIrqSteps_add {j k : ℕ} {s s' s'' : (Bool → RxState) × BitVec 32 × Option RxIrq}
    (h : rxIrqSteps j s = some s') (h' : rxIrqSteps k s' = some s'') :
    rxIrqSteps (j + k) s = some s'' := by
  induction j generalizing s with
  | zero =>
    rw [rxIrqSteps, Option.some.injEq] at h
    rw [Nat.zero_add, h]
    exact h'
  | succ j ih =>
    obtain ⟨rx, raw, irq⟩ := s
    rw [Nat.succ_add]
    cases irq with
    | none => cases h
    | some irq =>
      obtain ⟨t, ht, h⟩ := Option.bind_eq_some_iff.mp h
      rw [rxIrqSteps, ht, Option.bind_some]
      exact ih h

/-- The loop of `wcn36xx_rx_handle_packets`. -/
theorem rxIrqSteps_loop {raw int_src : BitVec 32} {is_low : Bool} (fuel : ℕ) {ctl ctl' : ℕ}
    {s s' : RxState} {rx : Bool → RxState}
    (h : rxHandlePacketsLoop fuel ctl s = some (ctl', s')) :
    ∃ k, rxIrqSteps k (Function.update rx is_low s, raw, some ⟨int_src, is_low, .check ctl⟩) =
      some (Function.update rx is_low s', raw, some ⟨int_src, is_low, .store ctl'⟩) := by
  induction fuel generalizing ctl s with
  | zero => cases h
  | succ fuel ih =>
    obtain ⟨valid, hvalid, h⟩ := Option.bind_eq_some_iff.mp h
    cases valid with
    | true =>
      rw [if_pos rfl, Option.pure_def, Option.some.injEq, Prod.mk.injEq] at h
      obtain ⟨rfl, rfl⟩ := h
      refine ⟨1, ?_⟩
      simp only [rxIrqSteps, rxIrqStep, Function.update_self, Function.update_idem, hvalid,
        Option.bind_eq_bind, Option.bind_some, if_true, Option.pure_def]
    | false =>
      rw [if_neg Bool.false_ne_true] at h
      obtain ⟨s₁, hpkt, h⟩ := Option.bind_eq_some_iff.mp h
      obtain ⟨o, hnext, h⟩ := Option.bind_eq_some_iff.mp h
      obtain ⟨next, ho, h⟩ := Option.bind_eq_some_iff.mp h
      rw [ho] at hnext
      obtain ⟨c, hc, hpkt⟩ := Option.bind_eq_some_iff.mp hpkt
      obtain ⟨dxe, hdxe, hpkt⟩ := Option.bind_eq_some_iff.mp hpkt
      obtain ⟨⟨s₂, ret⟩, hfill, hpkt⟩ := Option.bind_eq_some_iff.mp hpkt
      have hfour : rxIrqSteps 4
          (Function.update rx is_low s, raw, some ⟨int_src, is_low, .check ctl⟩) =
            some (Function.update rx is_low s₁, raw, some ⟨int_src, is_low, .check next⟩) := by
        simp only [rxIrqSteps, rxIrqStep, Function.update_self, Function.update_idem, hvalid, hc,
          hdxe, hfill, hpkt, hnext, Option.bind_eq_bind, Option.bind_some, Bool.false_eq_true,
          if_false, Option.pure_def]
      obtain ⟨k, hk⟩ := ih h
      exact ⟨_, rxIrqSteps_add hfour hk⟩

/-- The section of a channel whose bit has been read. -/
theorem rxIrqSteps_channel {raw raw' int_src : BitVec 32} {is_low : Bool} {rx : Bool → RxState}
    {s' : RxState} (hbit : intPending int_src (rxIntMask is_low) = true)
    (h : dxeRxChannel (rx is_low) raw int_src is_low = some (s', raw')) :
    ∃ k, rxIrqSteps k (rx, raw, some ⟨int_src, is_low, .intClr⟩) =
      some (Function.update rx is_low s', raw', if is_low then rxIrqHigh int_src else none) := by
  unfold dxeRxChannel at h
  rw [if_pos hbit] at h
  obtain ⟨s₁, hdrain, h⟩ := Option.bind_eq_some_iff.mp h
  rw [Option.pure_def, Option.some.injEq, Prod.mk.injEq] at h
  obtain ⟨rfl, rfl⟩ := h
  obtain ⟨ctl, hhead, hdrain⟩ := Option.bind_eq_some_iff.mp hdrain
  obtain ⟨⟨ctl', s₂⟩, hloop, hdrain⟩ := Option.bind_eq_some_iff.mp hdrain
  rw [Option.pure_def, Option.some.injEq] at hdrain
  have hhead' : (rx is_low).ch.head_blk_ctl = some ctl := hhead
  have hclr : rxIrqSteps 1 (rx, raw, some ⟨int_src, is_low, .intClr⟩) = some (Function.update rx
      is_low ((rx is_low).emit [.writeRegister WCN36XX_DXE_0_INT_CLR (rxIntMask is_low)]),
        raw &&& ~~~rxIntMask is_low, some ⟨int_src, is_low, .check ctl⟩) := by
    simp only [rxIrqSteps, rxIrqStep, hhead', Option.bind_eq_bind, Option.bind_some,
      Option.pure_def]
  have hwalk : ∃ k, rxIrqSteps k (Function.update rx is_low _, raw &&& ~~~rxIntMask is_low,
      some ⟨int_src, is_low, .check ctl⟩) = some (Function.update rx is_low s₂,
        raw &&& ~~~rxIntMask is_low, some ⟨int_src, is_low, .store ctl'⟩) := rxIrqSteps_loop _ hloop
  obtain ⟨k, hk⟩ := hwalk
  have hstore : rxIrqSteps 1 (Function.update rx is_low s₂, raw &&& ~~~rxIntMask is_low,
      some ⟨int_src, is_low, .store ctl'⟩) = some (Function.update rx is_low s₁,
        raw &&& ~~~rxIntMask is_low, if is_low then rxIrqHigh int_src else none) := by
    simp only [rxIrqSteps, rxIrqStep, Function.update_self, Function.update_idem, hdrain,
      Option.pure_def, Option.bind_some]
  exact ⟨_, rxIrqSteps_add (rxIrqSteps_add hclr hk) hstore⟩

/-- When nothing happens between its steps, the program is `wcn36xx_dxe_rx_frame`. -/
theorem rxIrqSteps_eq {rx rx' : Bool → RxState} {raw raw' : BitVec 32}
    (h : dxeRxFrame rx raw = some (rx', raw')) :
    ∃ k, rxIrqSteps k (rx, raw, rxIrqBegin raw) = some (rx', raw', none) := by
  obtain ⟨⟨l, raw₁⟩, hlow, h⟩ := Option.bind_eq_some_iff.mp h
  obtain ⟨⟨hi, raw₂⟩, hhigh, h⟩ := Option.bind_eq_some_iff.mp h
  rw [Option.pure_def, Option.some.injEq, Prod.mk.injEq] at h
  obtain ⟨rfl, rfl⟩ := h
  have hrx : (fun is_low => if is_low then l else hi) =
      Function.update (Function.update rx true l) false hi := by
    funext is_low
    cases is_low <;> rfl
  -- The high channel's section comes second.
  have hrest : ∃ k, rxIrqSteps k (Function.update rx true l, raw₁, rxIrqHigh raw) =
      some (fun is_low => if is_low then l else hi, raw₂, none) := by
    unfold rxIrqHigh
    split_ifs with hbit
    · rw [hrx]
      have hhigh : dxeRxChannel (Function.update rx true l false) raw₁ raw false = some (hi, raw₂) :=
        hhigh
      exact rxIrqSteps_channel hbit hhigh
    · unfold dxeRxChannel at hhigh
      rw [if_neg hbit, Option.pure_def, Option.some.injEq, Prod.mk.injEq] at hhigh
      obtain ⟨rfl, rfl⟩ := hhigh
      have hsame : Function.update rx true l = fun is_low => if is_low then l else rx false := by
        funext is_low
        cases is_low <;> rfl
      exact ⟨0, by rw [rxIrqSteps, hsame]⟩
  obtain ⟨k, hk⟩ := hrest
  unfold rxIrqBegin
  split_ifs with hbit
  · obtain ⟨j, hj⟩ := rxIrqSteps_channel hbit hlow
    exact ⟨_, rxIrqSteps_add hj hk⟩
  · unfold dxeRxChannel at hlow
    rw [if_neg hbit, Option.pure_def, Option.some.injEq, Prod.mk.injEq] at hlow
    obtain ⟨rfl, rfl⟩ := hlow
    rw [Function.update_eq_self] at hk
    exact ⟨k, hk⟩

end Wcn36xx
