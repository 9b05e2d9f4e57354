import Wcn36xx.Dxe.Drain
import Wcn36xx.Dxe.RxOwnership
import Wcn36xx.Dxe.Stores
import Wcn36xx.Dxe.ReapWalk
import Wcn36xx.Txrx.BdIntegrity

/-!
# No lost completion

The two interrupt handlers run step by step, while the device completes descriptors and raises the bits of
their channels, and frames are enqueued. A completion is lost when the oldest descriptor of a channel that
has not been drained is completed, the channel's bit is clear, and no handler is going to look at the
channel any more.

On RX that never happens (`rxNoLost`). On TX `reap_tx_dxes` stops at the head, which it takes for the end
of the frames. A frame that is accepted while it runs can put the head, or VALID blocks, right in its
way. `noLost_of_notOvertaken` is about all runs in which no frame is accepted at such a point.
-/

namespace Wcn36xx

open Support (Cycle System walk walk_run)

/-! ## Interrupt bits -/

/-- A bit that is set stays set when another is raised. -/
theorem intPending_or {raw mask : BitVec 32} (h : intPending raw mask = true) (mask' : BitVec 32) :
    intPending (raw ||| mask') mask = true := by
  unfold intPending at h ⊢
  rw [bne_iff_ne] at h ⊢
  intro hzero
  apply h
  calc raw &&& mask = raw &&& ((raw ||| mask') &&& mask) := by
        ext i hi
        simp only [BitVec.getElem_and, BitVec.getElem_or]
        cases raw[i] <;> rfl
    _ = 0 := by rw [hzero, BitVec.ofNat_eq_ofNat, BitVec.and_zero]

/-- A bit that is raised is set. -/
theorem intPending_or_self (raw : BitVec 32) {mask : BitVec 32} (h : mask ≠ 0) :
    intPending (raw ||| mask) mask = true := by
  unfold intPending
  rw [bne_iff_ne]
  intro hzero
  apply h
  calc mask = mask &&& ((raw ||| mask) &&& mask) := by
        ext i hi
        simp only [BitVec.getElem_and, BitVec.getElem_or]
        cases raw[i] <;> cases mask[i] <;> rfl
    _ = 0 := by rw [hzero, BitVec.ofNat_eq_ofNat, BitVec.and_zero]

/-- Clearing other bits leaves a bit as it is. -/
theorem intPending_clear (raw : BitVec 32) {mask mask' : BitVec 32} (h : ~~~mask' &&& mask = mask) :
    intPending (raw &&& ~~~mask') mask = intPending raw mask := by
  unfold intPending
  rw [BitVec.and_assoc, h]

/-- The bits of the two TX channels are different. -/
theorem txIntMask_clear {is_low is_low' : Bool} (h : is_low ≠ is_low') :
    ~~~txIntMask is_low' &&& txIntMask is_low = txIntMask is_low := by
  cases is_low <;> cases is_low' <;> first | exact absurd rfl h | decide

/-- The bits of the two RX channels are different. -/
theorem rxIntMask_clear {is_low is_low' : Bool} (h : is_low ≠ is_low') :
    ~~~rxIntMask is_low' &&& rxIntMask is_low = rxIntMask is_low := by
  cases is_low <;> cases is_low' <;> first | exact absurd rfl h | decide

/-- No RX bit is a TX bit. -/
theorem txIntMask_clear_rx (is_low is_low' : Bool) :
    ~~~rxIntMask is_low' &&& txIntMask is_low = txIntMask is_low := by
  cases is_low <;> cases is_low' <;> decide

/-- No TX bit is an RX bit. -/
theorem rxIntMask_clear_tx (is_low is_low' : Bool) :
    ~~~txIntMask is_low' &&& rxIntMask is_low = rxIntMask is_low := by
  cases is_low <;> cases is_low' <;> decide

/-! ## Where a handler is -/

/-- The step at which a handler is on a channel. It comes to the low channel after the high one, if it has
read its bit. -/
def TxIrq.pcOn (irq : TxIrq) (is_low : Bool) : Option ReapPc :=
  if irq.is_low = is_low then some irq.pc
  else if is_low && intPending irq.int_src (txIntMask true) then some .intClr
  else none

/-- The step at which a handler is on a channel. It comes to the high channel after the low one, if it has
read its bit. -/
def RxIrq.pcOn (irq : RxIrq) (is_low : Bool) : Option DrainPc :=
  if irq.is_low = is_low then some irq.pc
  else if !is_low && intPending irq.int_src (rxIntMask false) then some .intClr
  else none

/-- The block that `reap_tx_dxes` comes to next, now or in a later interrupt. -/
def nextReaped (ch : DxeCh) : Option ReapPc → Option ℕ
  | none | some .intClr | some .intEdClr => ch.tail_blk_ctl
  | some (.check ctl) | some (.again ctl) | some (.store ctl) => some ctl
  | some (.release ctl) | some (.next ctl) => (ch.nextOf ctl).join

/-- The handler makes another VALID check on the channel. At the end of an iteration it does not if the next
block is the head. -/
def checksTx (ch : DxeCh) : Option ReapPc → Bool
  | none | some (.store _) => false
  | some .intClr | some .intEdClr | some (.check _) | some (.again _) => true
  | some (.release ctl) | some (.next ctl) => decide ((ch.nextOf ctl).join ≠ ch.head_blk_ctl)

/-- The handler makes another VALID check on the channel. -/
def checksRx : Option DrainPc → Bool
  | none | some (.store _) => false
  | _ => true

/-- The descriptor that a block's VALID check finds completed. -/
def completedAt (ch : DxeCh) (ctl : ℕ) : Option ℕ := do
  let c ← ch.ctl ctl
  let i ← c.desc
  if (ch.dxe i).valid then none else some i

/-- The descriptor that a step of `reap_tx_dxes` drains. -/
def ReapPc.drains (ch : DxeCh) : ReapPc → Option ℕ
  | check ctl => completedAt ch ctl
  | _ => none

/-- The descriptor that a step of `wcn36xx_rx_handle_packets` drains. -/
def DrainPc.drains (ch : DxeCh) : DrainPc → Option ℕ
  | check ctl => completedAt ch ctl
  | _ => none

/-- The descriptor that a step of `wcn36xx_rx_handle_packets` arms again. -/
def DrainPc.arms : DrainPc → Option ℕ
  | rearm _ dxe _ _ => some dxe
  | _ => none

/-! ## Runs -/

/-- What the set-up of the four channels is given. -/
structure IrqParams where
  tx : TxParams
  rx_desc_num : Bool → ℕ
  rx_coherent : Bool → ℕ × BitVec 32
  rx_two_le : ∀ is_low, 2 ≤ rx_desc_num is_low

/-- The driver, the device, and the handlers that are running. -/
structure IrqWorld where
  wcn : Wcn
  rx : Bool → RxState
  /-- `WCN36XX_DXE_INT_SRC_RAW_REG`. -/
  raw : BitVec 32 := 0
  /-- The descriptor that the DMA engine is at. -/
  txCursor : Bool → ℕ := fun _ => 0
  rxCursor : Bool → ℕ := fun _ => 0
  txIrq : Option TxIrq := none
  rxIrq : Option RxIrq := none
  /-- The frames that have been accepted and not drained, oldest first, each by the descriptor of its
  data. That of its BD is the one before. -/
  frames : Bool → List ℕ := fun _ => []
  /-- The descriptors of the buffers that have been armed and not drained, oldest first. -/
  armed : Bool → List ℕ

/-- The steps of the driver and the device. -/
inductive IrqEvent where
  /-- `wcn36xx_dxe_tx_frame`. -/
  | enqueue (is_low : Bool) (vif_priv : Option WcnVif) (skb : SkBuff)
  /-- The device completes the descriptor of a TX channel that it is at. -/
  | txDma (is_low : Bool)
  /-- The device completes the descriptor of an RX channel that it is at. -/
  | rxDma (is_low : Bool)
  /-- What a call of `alloc_skb` will come to. -/
  | alloc (is_low : Bool) (result : Option (BitVec 32))
  /-- `wcn36xx_irq_tx_complete` starts by reading the bits, or makes its next step. -/
  | txIrq
  /-- `wcn36xx_dxe_rx_frame` starts by reading the bits, or makes its next step. -/
  | rxIrq

/-- The descriptor that the data of the next frame will have. -/
def DxeCh.skbDesc (ch : DxeCh) : Option ℕ := do
  let head ← ch.head_blk_ctl
  let skbBlk ← (ch.nextOf head).join
  let c ← ch.ctl skbBlk
  c.desc

/-- The transition system of the interrupts. -/
def irqSystem (p : IrqParams) : System IrqWorld IrqEvent where
  init w :=
    (∀ is_low, txChSetup is_low (p.tx.desc_num is_low) (p.tx.coherent is_low) (p.tx.pool is_low) =
      some (w.wcn.txCh is_low)) ∧
    (∀ is_low, ∃ ch allocs, rxChSetup is_low (p.rx_desc_num is_low) (p.rx_coherent is_low) =
      some ch ∧ dxeChAllocSkb { ch := ch, allocs := allocs } = some (w.rx is_low)) ∧
    w.txCursor = (fun _ => 0) ∧ w.rxCursor = (fun _ => 0) ∧ w.txIrq = none ∧ w.rxIrq = none ∧
    w.frames = (fun _ => []) ∧ w.armed = fun is_low => List.range (p.rx_desc_num is_low)
  step w
    | .enqueue is_low vif_priv skb => do
      let (wcn, ret) ← dxeTxFrame w.wcn vif_priv skb is_low
      if ret = 0 then
        let i ← (w.wcn.txCh is_low).skbDesc
        return { w with
          wcn := wcn, frames := Function.update w.frames is_low (w.frames is_low ++ [i]) }
      else return { w with wcn := wcn }
    | .txDma is_low =>
      let ch := w.wcn.txCh is_low
      let i := w.txCursor is_low
      if (ch.dxe i).valid then
        some { w with
          wcn := dmaComplete w.wcn is_low i, raw := w.raw ||| txIntMask is_low
          txCursor := Function.update w.txCursor is_low ((i + 1) % ch.desc_num) }
      else none
    | .rxDma is_low =>
      let s := w.rx is_low
      let i := w.rxCursor is_low
      if (s.ch.dxe i).valid then
        some { w with
          rx := Function.update w.rx is_low { s with ch := s.ch.modDesc i DxeDesc.clearValid }
          raw := w.raw ||| rxIntMask is_low
          rxCursor := Function.update w.rxCursor is_low ((i + 1) % s.ch.desc_num) }
      else none
    | .alloc is_low result =>
      let s := w.rx is_low
      some { w with rx := Function.update w.rx is_low { s with allocs := s.allocs ++ [result] } }
    | .txIrq =>
      match w.txIrq with
      | none => some { w with txIrq := txIrqBegin w.raw }
      | some irq => do
        let (wcn, raw, irq') ← txIrqStep w.wcn w.raw irq
        let frames := w.frames irq.is_low
        return { w with
          wcn := wcn, raw := raw, txIrq := irq'
          frames := Function.update w.frames irq.is_low
            ((irq.pc.drains (w.wcn.txCh irq.is_low)).elim frames frames.erase) }
    | .rxIrq =>
      match w.rxIrq with
      | none => some { w with rxIrq := rxIrqBegin w.raw }
      | some irq => do
        let (s, raw, irq') ← rxIrqStep (w.rx irq.is_low) w.raw irq
        let armed := w.armed irq.is_low
        return { w with
          rx := Function.update w.rx irq.is_low s, raw := raw, rxIrq := irq'
          armed := Function.update w.armed irq.is_low
            ((irq.pc.drains (w.rx irq.is_low).ch).elim armed armed.erase ++ irq.pc.arms.toList) }

/-- Where `wcn36xx_irq_tx_complete` is on a channel. -/
def IrqWorld.txPc (w : IrqWorld) (is_low : Bool) : Option ReapPc :=
  w.txIrq.bind fun irq => irq.pcOn is_low

/-- Where `wcn36xx_dxe_rx_frame` is on a channel. -/
def IrqWorld.rxPc (w : IrqWorld) (is_low : Bool) : Option DrainPc :=
  w.rxIrq.bind fun irq => irq.pcOn is_low

/-- The oldest descriptor of an accepted frame that has not been drained: the BD's, until `reap_tx_dxes` has
gone past it. -/
def oldestTx (ch : DxeCh) (pc : Option ReapPc) (frames : List ℕ) : Option ℕ :=
  frames.head?.map fun i =>
    if ((nextReaped ch pc).bind fun p => (ch.ctl p).bind DxeCtl.desc) = some i then i else i - 1

/-- When the oldest descriptor of a channel that has not been drained is completed, the channel's bit is set,
or a handler that has read it as set makes another VALID check on the channel. -/
structure NoLost (w : IrqWorld) : Prop where
  tx : ∀ is_low, ∀ i ∈ oldestTx (w.wcn.txCh is_low) (w.txPc is_low) (w.frames is_low),
    ((w.wcn.txCh is_low).dxe i).valid = false →
      intPending w.raw (txIntMask is_low) = true ∨
        checksTx (w.wcn.txCh is_low) (w.txPc is_low) = true
  rx : ∀ is_low, ∀ i ∈ (w.armed is_low).head?, ((w.rx is_low).ch.dxe i).valid = false →
    intPending w.raw (rxIntMask is_low) = true ∨ checksRx (w.rxPc is_low) = true

/-- A frame would be accepted right before `reap_tx_dxes`: its blocks are the next ones that it comes to,
though an older frame has not been drained; or it has already checked the block of the frame, and will
take the block after it, which is not VALID, for the end of the frames. -/
def overtaken (ch : DxeCh) (pc : Option ReapPc) (frames : List ℕ) : Bool :=
  (do
    let head ← ch.head_blk_ctl
    let skbBlk ← (ch.nextOf head).join
    let after ← (ch.nextOf skbBlk).join
    let valid ← ch.validAt after
    let blk ← nextReaped ch pc
    return (ch.skbAt skbBlk).isNone &&
      (!frames.isEmpty && (blk == head || blk == skbBlk) ||
        match pc with
        | some (.release ctl) => ctl == skbBlk
        | some (.next ctl) => ctl == skbBlk && after != head && !valid
        | _ => false)).getD false

/-- No frame is accepted right before `reap_tx_dxes`. -/
def NotOvertaken (w : IrqWorld) : IrqEvent → Prop
  | .enqueue is_low _ _ =>
    overtaken (w.wcn.txCh is_low) (w.txPc is_low) (w.frames is_low) = false
  | _ => True

instance : ∀ w e, Decidable (NotOvertaken w e)
  | w, .enqueue is_low _ _ => inferInstanceAs (Decidable
      (overtaken (w.wcn.txCh is_low) (w.txPc is_low) (w.frames is_low) = false))
  | _, .txDma _ | _, .rxDma _ | _, .alloc .. | _, .txIrq | _, .rxIrq => isTrue trivial

/-! ## A TX channel -/

/-- The descriptors of the data of `m` frames that are in a ring of `n` blocks from position `R` on. -/
def skbDescs (n R m : ℕ) : List ℕ := (List.range m).map fun j => (R + 2 * j + 1) % n

/-- The oldest frame comes first. -/
theorem skbDescs_succ (n R m : ℕ) :
    skbDescs n R (m + 1) = (R + 1) % n :: skbDescs n (R + 2) m := by
  unfold skbDescs
  rw [List.range_succ_eq_map, List.map_cons, List.map_map]
  have hstep : ∀ j, R + 2 * Nat.succ j + 1 = R + 2 + 2 * j + 1 := fun j => by omega
  simp only [Function.comp_def, hstep, Nat.mul_zero, Nat.add_zero]

/-- The youngest frame comes last. -/
theorem skbDescs_concat (n R m : ℕ) :
    skbDescs n R (m + 1) = skbDescs n R m ++ [(R + 2 * m + 1) % n] := by
  unfold skbDescs
  rw [List.range_succ, List.map_append, List.map_singleton]

/-- The frames of a TX channel that have not been drained are in the blocks from `R` to the head `H`, and the
DMA engine is at `D`. -/
structure TxUndrained (pool : DxeMemPool) (ch : DxeCh) (cursor : ℕ) (frames : List ℕ) (D H R : ℕ) :
    Prop where
  ready : TxReady pool ch
  head : ch.head_blk_ctl = some (ch.blk H)
  head_even : H % 2 = 0
  rest_even : R % 2 = 0
  cursor_eq : cursor = D % ch.desc_num
  rest_le : R ≤ D
  dev_le : D ≤ H
  head_le : H ≤ R + ch.desc_num
  valid : ∀ k, R ≤ k → k < R + ch.desc_num → ch.slotValid k = decide (D ≤ k ∧ k < H)
  skb : ∀ k, k % 2 = 1 → R ≤ k → k < H → (ch.slotSkb k).isSome = true
  frames_eq : frames = skbDescs ch.desc_num R ((H - R) / 2)

/-- `reap_tx_dxes` comes to the block at position `P` next. -/
def AtPos (ch : DxeCh) (P : ℕ) : Option ReapPc → Prop
  | none | some .intClr | some .intEdClr => ch.tail_blk_ctl = some (ch.blk P)
  | some (.check ctl) | some (.again ctl) | some (.store ctl) => ctl = ch.blk P
  | some (.release ctl) | some (.next ctl) => ctl = ch.blk (P + ch.desc_num - 1)

/-- `reap_tx_dxes` has gone past the head, and will not stop there. -/
def PastHead (H P : ℕ) : Option ReapPc → Prop
  | some (.check _) | some (.again _) => H ≤ P
  | some (.release _) | some (.next _) => H < P
  | _ => False

/-- No other VALID check follows. -/
def LastChecked (n H P : ℕ) : Option ReapPc → Prop
  | none | some (.store _) => True
  | some (.release _) | some (.next _) => P % n = H % n
  | _ => False

/-- Where `reap_tx_dxes` is: at the oldest frame that has not been drained, or beyond the head on its way
round to that frame. After its last check the bit is set if the oldest descriptor is completed. -/
structure ReapAt (ch : DxeCh) (raw : Bool) (pc : Option ReapPc) (P D H R : ℕ) : Prop where
  pos : AtPos ch P pc
  place : R ≤ P ∧ P ≤ R + 1 ∨ R + 2 ≤ P ∧ P < R + ch.desc_num ∧ PastHead H P pc
  room : ∀ ctl, pc = some (.release ctl) → P = R → H < R + ch.desc_num
  final : LastChecked ch.desc_num H P pc → P < D → raw = true

/-- `reap_tx_dxes` does not notice what happens to other parts of a channel than its tail. -/
theorem AtPos.congr {ch ch' : DxeCh} {P : ℕ} {pc : Option ReapPc} (h : AtPos ch P pc)
    (hn : ch'.desc_num = ch.desc_num) (htail : ch'.tail_blk_ctl = ch.tail_blk_ctl) :
    AtPos ch' P pc := by
  have hblk : ∀ k, ch'.blk k = ch.blk k := fun k => by rw [DxeCh.blk, DxeCh.blk, hn]
  cases pc with
  | none =>
    unfold AtPos at h ⊢
    rw [htail, hblk]
    exact h
  | some pc =>
    cases pc <;> unfold AtPos at h ⊢ <;> simp only [htail, hblk, hn] <;> exact h

/-- Nor does its place change. -/
theorem ReapAt.congr {ch ch' : DxeCh} {raw : Bool} {pc : Option ReapPc} {P D H R : ℕ}
    (h : ReapAt ch raw pc P D H R) (hn : ch'.desc_num = ch.desc_num)
    (htail : ch'.tail_blk_ctl = ch.tail_blk_ctl) : ReapAt ch' raw pc P D H R where
  pos := h.pos.congr hn htail
  place := hn ▸ h.place
  room := hn ▸ h.room
  final := hn ▸ h.final

/-- A bit that is set excuses the handler, wherever the device is. -/
theorem ReapAt.raise {ch : DxeCh} {raw : Bool} {pc : Option ReapPc} {P D H R : ℕ}
    (h : ReapAt ch raw pc P D H R) (D' : ℕ) : ReapAt ch true pc P D' H R where
  pos := h.pos
  place := h.place
  room := h.room
  final _ _ := rfl

/-- Other bits may be raised. -/
theorem ReapAt.mono {ch : DxeCh} {raw raw' : Bool} {pc : Option ReapPc} {P D H R : ℕ}
    (h : ReapAt ch raw pc P D H R) (hraw : raw = true → raw' = true) :
    ReapAt ch raw' pc P D H R where
  pos := h.pos
  place := h.place
  room := h.room
  final hlast hlt := hraw (h.final hlast hlt)

section TxChannel

variable {pool : DxeMemPool} {ch : DxeCh} {cursor : ℕ} {frames : List ℕ} {raw : Bool}
  {pc : Option ReapPc} {P D H R : ℕ}

/-- The block before a position. -/
theorem DxeCh.blk_pred (hn : 2 ≤ ch.desc_num) (k : ℕ) :
    ch.blk (k + ch.desc_num - 1 + 1) = ch.blk k := by
  rw [Nat.sub_add_cancel (by omega), DxeCh.blk_add]

/-- There is no frame exactly when the ring is empty. -/
theorem TxUndrained.frames_eq_nil (h : TxUndrained pool ch cursor frames D H R) :
    frames = [] ↔ R = H := by
  have hR := h.rest_even
  have hH := h.head_even
  have hRD := h.rest_le
  have hDH := h.dev_le
  rw [h.frames_eq, skbDescs, List.map_eq_nil_iff, List.range_eq_nil]
  omega

/-- A position and its neighbour one lap back. -/
theorem TxUndrained.mod_ne_of_parity (h : TxUndrained pool ch cursor frames D H R) {j k : ℕ}
    (hjk : j % 2 ≠ k % 2) : j % ch.desc_num ≠ k % ch.desc_num := by
  intro heq
  have hj := h.ready.mod_two j
  have hk := h.ready.mod_two k
  rw [heq] at hj
  omega

/-- The next block of `reap_tx_dxes`. -/
theorem nextReaped_eq (hring : RingReady ch) (hpos : AtPos ch P pc) :
    nextReaped ch pc = some (ch.blk P) := by
  cases pc with
  | none => exact hpos
  | some pc =>
    cases pc with
    | intClr | intEdClr => exact hpos
    | check ctl | again ctl | store ctl => exact congrArg some hpos
    | release ctl | next ctl =>
      unfold AtPos at hpos
      rw [nextReaped, hpos, hring.nextOf, Option.join_some, DxeCh.blk_pred hring.two_le]

/-- The handler makes another check, or has made its last. -/
theorem checksTx_or_lastChecked (hring : RingReady ch) (hhead : ch.head_blk_ctl = some (ch.blk H))
    (hpos : AtPos ch P pc) : checksTx ch pc = true ∨ LastChecked ch.desc_num H P pc := by
  cases pc with
  | none => exact .inr trivial
  | some pc =>
    cases pc with
    | intClr | intEdClr | check ctl | again ctl => exact .inl rfl
    | store ctl => exact .inr trivial
    | release ctl | next ctl =>
      have hnext : (ch.nextOf ctl).join = some (ch.blk P) := nextReaped_eq hring hpos
      simp only [checksTx, LastChecked, hnext, hhead, decide_eq_true_iff, ne_eq, Option.some.injEq,
        DxeCh.blk_eq_iff]
      exact (em _).symm

/-! ### The device, and a frame -/

/-- The device completes a descriptor. -/
theorem TxUndrained.dma (h : TxUndrained pool ch cursor frames D H R)
    (hvalid : (ch.dxe cursor).valid = true) :
    TxUndrained pool (ch.modDesc cursor DxeDesc.clearValid) ((cursor + 1) % ch.desc_num) frames
      (D + 1) H R := by
  have hRD := h.rest_le
  have hDH := h.dev_le
  have hle := h.head_le
  have hn := h.ready.two_le
  have hslot : ch.slotValid D = true := by
    rw [DxeCh.slotValid, ← h.cursor_eq]
    exact hvalid
  -- A VALID descriptor is one of a frame.
  have hlt : D < H := by
    rcases Nat.lt_or_ge D (R + ch.desc_num) with hin | hout
    · rw [h.valid D hRD hin, decide_eq_true_iff] at hslot
      exact hslot.2
    · obtain ⟨k, hk⟩ : ∃ k, D = k + ch.desc_num := ⟨D - ch.desc_num, by omega⟩
      rw [hk, DxeCh.slotValid_add, h.valid k (by omega) (by omega), decide_eq_true_iff] at hslot
      omega
  refine
    { ready := h.ready.congr rfl rfl rfl rfl
      head := h.head
      head_even := h.head_even
      rest_even := h.rest_even
      cursor_eq := ?_
      rest_le := Nat.le_succ_of_le hRD
      dev_le := hlt
      head_le := hle
      valid := fun k hk hk' => ?_
      skb := h.skb
      frames_eq := h.frames_eq }
  · rw [h.cursor_eq, Nat.mod_add_mod]
    rfl
  · have hkn : k < R + ch.desc_num := hk'
    rw [h.cursor_eq, DxeCh.slotValid_modDesc, DxeDesc.valid_clearValid, h.valid k hk hkn]
    split_ifs with hkD
    · rw [mod_eq_iff ⟨hk, hkn⟩ ⟨hRD, by omega⟩] at hkD
      exact (decide_eq_false (by omega)).symm
    · have hne : k ≠ D := fun heq => hkD (by rw [heq])
      exact decide_eq_decide.mpr (by omega)

/-- A frame is accepted only while the blocks of two more descriptors are free. -/
theorem TxUndrained.room (h : TxUndrained pool ch cursor frames D H R)
    (hfree : ch.slotSkb (H + 1) = none) : H + 2 ≤ R + ch.desc_num := by
  have hR := h.rest_even
  have hH := h.head_even
  have hle := h.head_le
  have hn := h.ready.two_le
  have heven := h.ready.even
  by_contra hfull
  -- The skb block of the oldest frame, one lap on, is the one that the frame would get.
  have hskb := h.skb (R + 1) (by omega) (by omega) (by omega)
  rw [← DxeCh.slotSkb_add, show R + 1 + ch.desc_num = H + 1 by omega, hfree] at hskb
  exact Bool.false_ne_true hskb

/-- A frame is accepted. -/
theorem TxUndrained.accept (h : TxUndrained pool ch cursor frames D H R)
    (hfree : ch.slotSkb (H + 1) = none) (bd_phy_addr : BitVec 32) (skb : SkBuff) :
    TxUndrained pool (acceptCh ch H bd_phy_addr skb) cursor (frames ++ [(H + 1) % ch.desc_num]) D
      (H + 2) R := by
  have hroom := h.room hfree
  have hR := h.rest_even
  have hH := h.head_even
  have hRD := h.rest_le
  have hDH := h.dev_le
  refine
    { ready := h.ready.acceptCh H bd_phy_addr skb
      head := rfl
      head_even := by omega
      rest_even := hR
      cursor_eq := h.cursor_eq
      rest_le := hRD
      dev_le := by omega
      head_le := hroom
      valid := fun k hk hk' => ?_
      skb := fun k hk hRk hkH => ?_
      frames_eq := ?_ }
  · have hkn : k < R + ch.desc_num := hk'
    have hmod : ∀ i, R ≤ i → i < R + ch.desc_num → (k % ch.desc_num = i % ch.desc_num ↔ k = i) :=
      fun i hi hi' => mod_eq_iff ⟨hk, hkn⟩ ⟨hi, hi'⟩
    simp only [h.ready.slotValid_acceptCh, h.valid k hk hkn, hmod (H + 1) (by omega) (by omega),
      hmod H (by omega) (by omega)]
    split_ifs with hnew
    · exact (decide_eq_true (by omega)).symm
    · exact decide_eq_decide.mpr (by omega)
  · rw [h.ready.slotSkb_acceptCh]
    split_ifs with h1 h2
    · rfl
    · exact absurd h2 (h.mod_ne_of_parity (by omega))
    · refine h.skb k hk hRk ?_
      have hne : k ≠ H + 1 := fun heq => h1 (by rw [heq])
      omega
  · have hcount : (H + 2 - R) / 2 = (H - R) / 2 + 1 := by omega
    have hlast : R + 2 * ((H - R) / 2) + 1 = H + 1 := by omega
    rw [h.frames_eq, acceptCh_desc_num, hcount, skbDescs_concat, hlast]

/-- What it means that `reap_tx_dxes` is not overtaken by a frame that is accepted. -/
theorem TxUndrained.of_not_overtaken (h : TxUndrained pool ch cursor frames D H R)
    (hpos : AtPos ch P pc) (hfree : ch.slotSkb (H + 1) = none)
    (hnot : overtaken ch pc frames = false) :
    (R ≠ H → P % ch.desc_num ≠ H % ch.desc_num ∧ P % ch.desc_num ≠ (H + 1) % ch.desc_num) ∧
      (∀ ctl, pc = some (.release ctl) → ctl ≠ ch.blk (H + 1)) ∧
      ∀ ctl, pc = some (.next ctl) → ctl = ch.blk (H + 1) →
        (H + 2) % ch.desc_num = H % ch.desc_num ∨ ch.slotValid (H + 2) = true := by
  have hring := h.ready.ring
  have hskb : ch.skbAt (ch.blk (H + 1)) = none := hfree
  have hnext := nextReaped_eq hring hpos
  unfold overtaken at hnot
  simp only [h.head, hring.nextOf, Option.join_some, hring.validAt, hnext, Option.bind_eq_bind,
    Option.bind_some, Option.pure_def, Option.getD_some, hskb, Option.isNone_none,
    Bool.true_and, Bool.or_eq_false_iff] at hnot
  obtain ⟨hblk, hpc⟩ := hnot
  refine ⟨fun hne => ?_, fun ctl hctl => ?_, fun ctl hctl heq => ?_⟩
  · have hframes : frames ≠ [] := fun hnil => hne (h.frames_eq_nil.mp hnil)
    rw [Bool.and_eq_false_iff, Bool.or_eq_false_iff, beq_eq_false_iff_ne, beq_eq_false_iff_ne,
      ne_eq, ne_eq, DxeCh.blk_eq_iff, DxeCh.blk_eq_iff, Bool.not_eq_false', List.isEmpty_iff] at hblk
    exact hblk.resolve_left hframes
  · rw [hctl] at hpc
    exact beq_eq_false_iff_ne.mp hpc
  · rw [hctl, heq] at hpc
    simp only [beq_self_eq_true, Bool.true_and, Bool.and_eq_false_iff, bne_eq_false_iff_eq,
      DxeCh.blk_eq_iff, Bool.not_eq_false'] at hpc
    exact hpc

/-- An accepted frame does not stop `reap_tx_dxes` too early. -/
theorem ReapAt.accept (a : ReapAt ch raw pc P D H R) (h : TxUndrained pool ch cursor frames D H R)
    (hfree : ch.slotSkb (H + 1) = none) (hnot : overtaken ch pc frames = false)
    (bd_phy_addr : BitVec 32) (skb : SkBuff) :
    ReapAt (acceptCh ch H bd_phy_addr skb) raw pc P D (H + 2) R := by
  obtain ⟨hblk, hrel, hnext⟩ := h.of_not_overtaken a.pos hfree hnot
  have hroom := h.room hfree
  have hR := h.rest_even
  have hH := h.head_even
  have hRD := h.rest_le
  have hDH := h.dev_le
  have hn := h.ready.two_le
  have hnum := acceptCh_desc_num ch H bd_phy_addr skb
  refine ⟨a.pos.congr rfl rfl, ?_, fun ctl hctl hP => ?_, fun hlast hPD => ?_⟩
  · rw [hnum]
    rcases a.place with hnear | ⟨hlo, hhi, hpast⟩
    · exact .inl hnear
    · refine .inr ⟨hlo, hhi, ?_⟩
      -- Beyond the head the walk keeps clear of the two blocks of the frame.
      have hfar : R ≠ H → P ≠ H ∧ P ≠ H + 1 := fun hne =>
        ⟨fun heq => (hblk hne).1 (by rw [heq]), fun heq => (hblk hne).2 (by rw [heq])⟩
      cases pc with
      | none => exact hpast
      | some pc =>
        cases pc with
        | intClr | intEdClr | store ctl => exact hpast
        | check ctl | again ctl =>
          have hPH : H ≤ P := hpast
          rcases eq_or_ne R H with heq | hne
          · exact (show H + 2 ≤ P by omega)
          · have hfar := hfar hne
            exact (show H + 2 ≤ P by omega)
        | release ctl =>
          have hPH : H < P := hpast
          have hctl : ctl = ch.blk (P + ch.desc_num - 1) := a.pos
          have hne2 : P ≠ H + 2 := by
            rintro rfl
            refine hrel ctl rfl ?_
            rw [hctl, show H + 2 + ch.desc_num - 1 = H + 1 + ch.desc_num by omega, DxeCh.blk_add]
          rcases eq_or_ne R H with heq | hne
          · exact (show H + 2 < P by omega)
          · have hfar := hfar hne
            exact (show H + 2 < P by omega)
        | next ctl =>
          have hPH : H < P := hpast
          have hctl : ctl = ch.blk (P + ch.desc_num - 1) := a.pos
          have hne2 : P ≠ H + 2 := by
            rintro rfl
            rw [show H + 2 + ch.desc_num - 1 = H + 1 + ch.desc_num by omega, DxeCh.blk_add] at hctl
            rcases hnext ctl rfl hctl with hsmall | hvalid
            · rw [mod_eq_iff (t := R) ⟨by omega, by omega⟩ ⟨by omega, by omega⟩] at hsmall
              omega
            · rw [h.valid _ (by omega) (by omega), decide_eq_true_iff] at hvalid
              omega
          rcases eq_or_ne R H with heq | hne
          · exact (show H + 2 < P by omega)
          · have hfar := hfar hne
            exact (show H + 2 < P by omega)
  · -- The last free blocks are not given away while the one before the tail is being released.
    rw [hnum]
    refine lt_of_le_of_ne hroom fun hfull => ?_
    subst hctl
    have hctl : ctl = ch.blk (P + ch.desc_num - 1) := a.pos
    refine hrel ctl rfl ?_
    rw [hctl, hP, show R + ch.desc_num - 1 = H + 1 by omega]
  · rw [hnum] at hlast
    cases pc with
    | none => exact a.final trivial hPD
    | some pc =>
      cases pc with
      | intClr | intEdClr | check ctl | again ctl => exact absurd hlast id
      | store ctl => exact a.final trivial hPD
      | release ctl | next ctl =>
        -- The new head is the next block, one lap on: it is the oldest frame's.
        have hlap : H + 2 = P + ch.desc_num ∧ P = R := by
          rcases a.place with ⟨hlo, hhi⟩ | ⟨-, -, hpast⟩
          · by_contra hne
            exact ch.blk_ne (i := P) (j := H + 2) (by omega) (by omega)
              ((ch.blk_eq_iff _ _).mpr hlast)
          · have hPH : H < P := hpast
            omega
        have hctl : ctl = ch.blk (H + 1) := by
          have hpos : ctl = ch.blk (P + ch.desc_num - 1) := a.pos
          rw [hpos, ← hlap.1]
          rfl
        first
          | exact absurd hctl (hrel ctl rfl)
          | rcases hnext ctl rfl hctl with hsmall | hvalid
            · exact absurd ((ch.blk_eq_iff P H).mpr (hlast.trans hsmall))
                (ch.blk_ne (by omega) (by omega))
            · rw [hlap.1, DxeCh.slotValid_add, h.valid P (by omega) (by omega),
                decide_eq_true_iff] at hvalid
              omega

/-! ### The steps of the handler -/

/-- Where `reap_tx_dxes` is, there is a free block or one of the oldest frames. -/
theorem ReapAt.slotValid_eq (a : ReapAt ch raw pc P D H R)
    (h : TxUndrained pool ch cursor frames D H R) :
    ch.slotValid P = decide (D ≤ P ∧ P < H) := by
  have hn := h.ready.two_le
  rcases a.place with hnear | ⟨hlo, hhi, -⟩
  · exact h.valid P (by omega) (by omega)
  · exact h.valid P (by omega) hhi

/-- A VALID block ends `reap_tx_dxes`. It is one of the oldest frame, and not completed. -/
theorem ReapAt.stop (a : ReapAt ch raw pc P D H R) (h : TxUndrained pool ch cursor frames D H R)
    {ctl : ℕ} (hpc : pc = some (.check ctl) ∨ pc = some (.again ctl))
    (hvalid : ch.slotValid P = true) : ReapAt ch raw (some (.store ctl)) P D H R := by
  rw [a.slotValid_eq h, decide_eq_true_iff] at hvalid
  have hpos : ctl = ch.blk P := by
    rcases hpc with rfl | rfl <;> exact a.pos
  refine ⟨hpos, ?_, fun _ hctl => (by cases hctl), fun _ hlt => (by omega)⟩
  rcases a.place with hnear | ⟨-, -, hpast⟩
  · exact .inl hnear
  · have hPH : H ≤ P := by
      rcases hpc with rfl | rfl <;> exact hpast
    omega

/-- The first check finds a block completed or free: the walk goes on to the next block. -/
theorem ReapAt.check {ctl : ℕ} (a : ReapAt ch raw (some (.check ctl)) P D H R)
    (h : TxUndrained pool ch cursor frames D H R) (hvalid : ch.slotValid P = false) :
    ∃ P' R', TxUndrained pool ch cursor (frames.erase (P % ch.desc_num)) D H R' ∧
      ReapAt ch raw (some (.release ctl)) P' D H R' := by
  have hR := h.rest_even
  have hH := h.head_even
  have hRD := h.rest_le
  have hDH := h.dev_le
  have hle := h.head_le
  have hn := h.ready.two_le
  have heven := h.ready.even
  have hctl : ctl = ch.blk P := a.pos
  rw [a.slotValid_eq h, decide_eq_false_iff_not] at hvalid
  -- The block is the one before the next one, also after a full lap.
  have hone : ctl = ch.blk (P + 1 + ch.desc_num - 1) := by
    rw [hctl, show P + 1 + ch.desc_num - 1 = P + ch.desc_num by omega, DxeCh.blk_add]
  have hfar : ∀ {Q : ℕ}, LastChecked ch.desc_num H Q (some (.release ctl)) → Q < D →
      H < Q + ch.desc_num → raw = true := by
    intro Q hlast hlt hnear
    have hmod : Q % ch.desc_num = H % ch.desc_num := hlast
    exact absurd ((ch.blk_eq_iff Q H).mpr hmod) (ch.blk_ne (by omega) hnear)
  by_cases hdrained : P = R + 1 ∧ R < H
  · -- The block is that of the oldest frame's data.
    obtain ⟨rfl, hRH⟩ := hdrained
    have hcount : (H - R) / 2 = (H - (R + 2)) / 2 + 1 := by omega
    have herase : frames.erase ((R + 1) % ch.desc_num) =
        skbDescs ch.desc_num (R + 2) ((H - (R + 2)) / 2) := by
      rw [h.frames_eq, hcount, skbDescs_succ, List.erase_cons_head]
    refine ⟨R + 2, R + 2,
      { h with
        rest_even := by omega
        rest_le := by omega
        head_le := by omega
        valid := fun k hk hk' => ?_
        skb := fun k hk hRk hkH => h.skb k hk (by omega) hkH
        frames_eq := herase }, hone, .inl ⟨le_rfl, Nat.le_succ _⟩, fun _ _ _ => by omega,
      fun hlast hlt => hfar hlast hlt (by omega)⟩
    rcases Nat.lt_or_ge k (R + ch.desc_num) with hlt | hge
    · exact h.valid k (by omega) hlt
    · obtain ⟨j, rfl⟩ : ∃ j, k = j + ch.desc_num := ⟨k - ch.desc_num, by omega⟩
      rw [DxeCh.slotValid_add, h.valid j (by omega) (by omega)]
      exact decide_eq_decide.mpr (by omega)
  · -- No frame's data are in the block.
    have hplace := a.place
    have hpast : R + 2 ≤ P → P < R + ch.desc_num → H ≤ P := by
      intro hlo hhi
      rcases hplace with hnear | ⟨-, -, hpast⟩
      · omega
      · exact hpast
    have hnot : P % ch.desc_num ∉ frames := by
      intro hmem
      rw [h.frames_eq, skbDescs, List.mem_map] at hmem
      obtain ⟨j, hj, hmod⟩ := hmem
      rw [List.mem_range] at hj
      rw [mod_eq_iff (t := R) ⟨by omega, by omega⟩ ⟨by omega, by omega⟩] at hmod
      omega
    rw [List.erase_of_not_mem hnot]
    by_cases hlap : P + 1 = R + ch.desc_num
    · -- The walk has come round to the oldest frame.
      have hR' : ctl = ch.blk (R + ch.desc_num - 1) := by rw [hctl, ← hlap]; rfl
      exact ⟨R, R, h, hR', .inl ⟨le_rfl, Nat.le_succ _⟩, fun _ _ _ => by omega,
        fun hlast hlt => hfar hlast hlt (by omega)⟩
    · refine ⟨P + 1, R, h, hone, ?_, fun _ _ heq => by omega,
        fun hlast hlt => hfar hlast hlt (by omega)⟩
      rcases Nat.lt_or_ge P (R + 1) with hlt | hge
      · exact .inl (by omega)
      · exact .inr ⟨by omega, by omega, show H < P + 1 by omega⟩

/-- The frame of the block that has been checked is released. -/
theorem ReapAt.release {ctl : ℕ} {ch' : DxeCh} (a : ReapAt ch raw (some (.release ctl)) P D H R)
    (h : TxUndrained pool ch cursor frames D H R) (hready : TxReady pool ch')
    (hsame : ch' = { ch with ctl := ch'.ctl })
    (hskb : ∀ j, ch'.slotSkb j =
      if j % ch.desc_num = (P + ch.desc_num - 1) % ch.desc_num then none else ch.slotSkb j) :
    TxUndrained pool ch' cursor frames D H R ∧ ReapAt ch' raw (some (.next ctl)) P D H R := by
  have hR := h.rest_even
  have hH := h.head_even
  have hRD := h.rest_le
  have hDH := h.dev_le
  have hn := h.ready.two_le
  have hnum : ch'.desc_num = ch.desc_num := by rw [hsame]
  have hblk : ∀ k, ch'.blk k = ch.blk k := fun k => by rw [DxeCh.blk, DxeCh.blk, hnum]
  have hhead : ch'.head_blk_ctl = ch.head_blk_ctl := by rw [hsame]
  have hroom := a.room ctl rfl
  refine ⟨{ h with
      ready := hready
      head := hhead.trans (by rw [h.head, hblk])
      cursor_eq := hnum ▸ h.cursor_eq
      head_le := hnum ▸ h.head_le
      valid := fun k hk hk' => ?_
      skb := fun k hk hRk hkH => ?_
      frames_eq := hnum ▸ h.frames_eq }, ?_, ?_, fun _ hpc => (by cases hpc), fun hlast hlt => ?_⟩
  · rw [hnum] at hk'
    rw [← h.valid k hk hk', DxeCh.slotValid, DxeCh.slotValid, hsame]
  · -- It is not a frame that has not been drained.
    rw [hskb, if_neg]
    · exact h.skb k hk hRk hkH
    · intro hmod
      rcases a.place with ⟨hlo, hhi⟩ | ⟨hlo, hhi, hpast⟩
      · rcases Nat.lt_or_ge R P with hlt | hge
        · rw [show P + ch.desc_num - 1 = R + ch.desc_num by omega, Nat.add_mod_right] at hmod
          exact h.mod_ne_of_parity (by omega) hmod
        · have hlast := hroom (by omega)
          rw [mod_eq_iff (t := R) ⟨by omega, by omega⟩ ⟨by omega, by omega⟩] at hmod
          omega
      · have hPH : H < P := hpast
        rw [show P + ch.desc_num - 1 = P - 1 + ch.desc_num by omega, Nat.add_mod_right,
          mod_eq_iff (t := R) ⟨by omega, by omega⟩ ⟨by omega, by omega⟩] at hmod
        omega
  · exact a.pos.congr hnum (by rw [hsame])
  · rw [hnum]
    exact a.place
  · -- The next block is not the head with a full ring behind it.
    rw [hnum] at hlast
    have hmod : P % ch.desc_num = H % ch.desc_num := hlast
    rcases a.place with ⟨hlo, hhi⟩ | ⟨-, -, hpast⟩
    · rcases Nat.lt_or_ge R P with hRP | hge
      · exact absurd hmod (h.mod_ne_of_parity (by omega))
      · have hnear := hroom (by omega)
        exact absurd ((ch.blk_eq_iff P H).mpr hmod) (ch.blk_ne (by omega) (by omega))
    · have hPH : H < P := hpast
      omega

/-- The next block is the head. -/
theorem ReapAt.atHead {ctl : ℕ} (a : ReapAt ch raw (some (.next ctl)) P D H R)
    (h : TxUndrained pool ch cursor frames D H R) (hhead : ch.blk P = ch.blk H) :
    ReapAt ch raw (some (.store (ch.blk P))) P D H R := by
  have hmod := (ch.blk_eq_iff P H).mp hhead
  refine ⟨rfl, ?_, fun _ hpc => (by cases hpc), fun _ hlt => a.final hmod hlt⟩
  rcases a.place with hnear | ⟨hlo, hhi, hpast⟩
  · exact .inl hnear
  · have hPH : H < P := hpast
    have hRD := h.rest_le
    have hDH := h.dev_le
    exact absurd hhead.symm (ch.blk_ne hPH (by omega))

/-- It is not. -/
theorem ReapAt.again {ctl : ℕ} (a : ReapAt ch raw (some (.next ctl)) P D H R) :
    ReapAt ch raw (some (.again (ch.blk P))) P D H R := by
  refine ⟨rfl, ?_, fun _ hpc => (by cases hpc), fun hlast => absurd hlast id⟩
  rcases a.place with hnear | ⟨hlo, hhi, hpast⟩
  · exact .inl hnear
  · have hPH : H < P := hpast
    exact .inr ⟨hlo, hhi, hPH.le⟩

/-- The second check finds a block completed or free. -/
theorem ReapAt.goOn {ctl : ℕ} (a : ReapAt ch raw (some (.again ctl)) P D H R) :
    ReapAt ch raw (some (.check ctl)) P D H R :=
  ⟨a.pos, a.place, fun _ hpc => (by cases hpc), fun hlast => absurd hlast id⟩

/-- Outside of its loop the handler is at the oldest frame. -/
theorem ReapAt.near (a : ReapAt ch raw pc P D H R) (hpc : PastHead H P pc → False) :
    R ≤ P ∧ P ≤ R + 1 :=
  a.place.resolve_right fun hfar => hpc hfar.2.2

/-- `reap_tx_dxes` returns. -/
theorem ReapAt.stored {ctl : ℕ} (a : ReapAt ch raw (some (.store ctl)) P D H R)
    (h : TxUndrained pool ch cursor frames D H R) :
    TxUndrained pool { ch with tail_blk_ctl := some ctl } cursor frames D H R ∧
      ReapAt { ch with tail_blk_ctl := some ctl } raw none P D H R := by
  have hpos : ctl = ch.blk P := a.pos
  exact ⟨{ h with ready := h.ready.congr rfl rfl rfl rfl },
    congrArg some hpos, .inl (a.near id), fun _ hpc => (by cases hpc), fun _ hlt => a.final trivial hlt⟩

/-- The handler has read the bit. -/
theorem ReapAt.pending (a : ReapAt ch raw none P D H R) :
    ReapAt ch raw (some .intClr) P D H R :=
  ⟨a.pos, .inl (a.near id), fun _ hpc => (by cases hpc), fun hlast => absurd hlast id⟩

/-- The handler clears the bit. -/
theorem ReapAt.clear (a : ReapAt ch raw (some .intClr) P D H R) (raw' : Bool) :
    ReapAt ch raw' (some .intEdClr) P D H R :=
  ⟨a.pos, .inl (a.near id), fun _ hpc => (by cases hpc), fun hlast => absurd hlast id⟩

/-- `reap_tx_dxes` is called. -/
theorem ReapAt.enter (a : ReapAt ch raw (some .intEdClr) P D H R) :
    ReapAt ch raw (some (.check (ch.blk P))) P D H R :=
  ⟨rfl, .inl (a.near id), fun _ hpc => (by cases hpc), fun hlast => absurd hlast id⟩

/-- No completion is lost on a channel. -/
theorem ReapAt.noLost (a : ReapAt ch raw pc P D H R) (h : TxUndrained pool ch cursor frames D H R)
    {i : ℕ} (hi : oldestTx ch pc frames = some i) (hvalid : (ch.dxe i).valid = false) :
    raw = true ∨ checksTx ch pc = true := by
  have hR := h.rest_even
  have hH := h.head_even
  have hn := h.ready.two_le
  have hring := h.ready.ring
  rcases checksTx_or_lastChecked hring h.head a.pos with hmore | hlast
  · exact .inr hmore
  refine .inl (a.final hlast ?_)
  -- The oldest descriptor is the one at `P`.
  obtain ⟨c, hc, -, hdesc⟩ := hring.ctl P
  rw [oldestTx, nextReaped_eq hring a.pos, Option.bind_some, hc, Option.bind_some, hdesc] at hi
  have hRH : R < H := by
    have hRD := h.rest_le
    have hDH := h.dev_le
    refine lt_of_le_of_ne (by omega) fun heq => ?_
    rw [h.frames_eq_nil.mpr heq, List.head?_nil, Option.map_none] at hi
    cases hi
  have hcount : (H - R) / 2 = (H - (R + 2)) / 2 + 1 := by omega
  rw [h.frames_eq, hcount, skbDescs_succ, List.head?_cons, Option.map_some, Option.some.injEq] at hi
  obtain ⟨hlo, hhi⟩ : R ≤ P ∧ P ≤ R + 1 := by
    refine a.near fun hpast => ?_
    cases pc with
    | none => exact hpast
    | some pc =>
      cases pc with
      | intClr | intEdClr | store ctl => exact hpast
      | check ctl | again ctl => exact hlast
      | release ctl | next ctl =>
        have hPH : H < P := hpast
        rcases a.place with ⟨hlo, hhi⟩ | ⟨-, hhi, -⟩
        · omega
        · exact ch.blk_ne hPH (by omega) ((ch.blk_eq_iff H P).mpr hlast.symm)
  have hP : i = P % ch.desc_num := by
    rcases Nat.lt_or_ge R P with hlt | hge
    · rw [show P = R + 1 by omega, if_pos rfl] at hi
      rw [← hi, show P = R + 1 by omega]
    · have hPR : P = R := by omega
      have hsucc : (R + 1) % ch.desc_num = R % ch.desc_num + 1 := by
        have heven := h.ready.even
        have hmod := h.ready.mod_two R
        have hlt := Nat.mod_lt R (show 0 < ch.desc_num by omega)
        rw [Nat.add_mod, Nat.mod_eq_of_lt (show 1 < ch.desc_num by omega),
          Nat.mod_eq_of_lt (by omega)]
      rw [hPR, if_neg, hsucc] at hi
      · rw [← hi, hPR]
        rfl
      · rw [Option.some.injEq]
        exact (h.ready.succ_mod_ne R).symm
  rw [hP] at hvalid
  have hslot := a.slotValid_eq h
  rw [DxeCh.slotValid, hvalid] at hslot
  have hnot := of_decide_eq_false hslot.symm
  omega

end TxChannel

end Wcn36xx
