import Wcn36xx.Dxe.Registers
import Wcn36xx.Txrx.TxSystem

/-!
# The DMA engine of the TX channels

`txSystem` gives each channel's DMA engine a position in the array of descriptors. The engine knows nothing
of the array: it has a bus address, which `wcn36xx_dxe_init` has written to the NEXT register of the channel,
and goes on to the `phy_next_l` of the descriptor that it finds there. `txEngine_runs` says that the driver
with this engine runs as `txSystem` does.
-/

namespace Wcn36xx

open Support (System)

/-! ## The system -/

/-- A transmitting driver, and the bus address that the engine of each TX channel is at. -/
structure TxEngineWorld where
  wcn : Wcn
  next : Bool → BitVec 32
  /-- The frames that mac80211 has handed over. -/
  submitted : List SkBuff := []
  /-- The frames for which `wcn36xx_start_tx` returned 0. -/
  accepted : List SkBuff := []
  /-- The bytes of the BD that `wcn36xx_start_tx` built for the frame that was last accepted at a
  BD block. -/
  built : Bool → ℕ → Option (List Byte) := fun _ _ => none

namespace TxEngineWorld

variable (w : TxEngineWorld)

/-- The descriptor at which the engine of a channel is, if its address denotes one. -/
def position (is_low : Bool) : Option ℕ := (w.wcn.txCh is_low).descAt (w.next is_low)

/-- The same state with positions in the arrays instead of bus addresses. -/
def ring : TxWorld where
  wcn := w.wcn
  cursor is_low := (w.position is_low).getD 0
  submitted := w.submitted
  accepted := w.accepted
  built := w.built

/-- The driver has taken a step, and the engines have not. -/
def setDriver (s : TxWorld) : TxEngineWorld where
  wcn := s.wcn
  next := w.next
  submitted := s.submitted
  accepted := s.accepted
  built := s.built

/-- The engine of a channel completes the descriptor at its address, if it is VALID, and follows its
link. -/
def complete (is_low : Bool) : Option TxEngineWorld := do
  let i ← (w.wcn.txCh is_low).descAt (w.next is_low)
  let dxe := (w.wcn.txCh is_low).dxe i
  if dxe.valid then
    return { w with
      wcn := dmaComplete w.wcn is_low i
      next := Function.update w.next is_low dxe.phy_next_l }
  else none

end TxEngineWorld

/-- The channels of a device. -/
def chOf (wcn : Wcn) (rx : Bool → DxeCh) : DxeChType → DxeCh
  | .txL => wcn.dxe_tx_l_ch
  | .txH => wcn.dxe_tx_h_ch
  | .rxL => rx true
  | .rxH => rx false

/-- The transition system of a transmitting driver with the engines of its channels. They start where
`wcn36xx_dxe_init` has programmed them to. -/
def txEngineSystem (p : TxParams) : System TxEngineWorld TxEvent where
  init w :=
    (∀ is_low, txChSetup is_low (p.desc_num is_low) (p.coherent is_low) (p.pool is_low) =
      some (w.wcn.txCh is_low)) ∧
    w.wcn.tx_ack_skb = none ∧ w.wcn.log = [] ∧ w.submitted = [] ∧ w.accepted = [] ∧
    w.built = (fun _ _ => none) ∧
    ∃ chip_version rx regs regs', dxeInitRegs chip_version (chOf w.wcn rx) regs = some regs' ∧
      ∀ is_low, w.next is_low =
        regs' (WCN36XX_DXE_CH_NEXT_DESC_ADDR (if is_low then .txL else .txH))
  step w
    | .dma is_low => w.complete is_low
    | e => ((txSystem p).step w.ring e).map w.setDriver

/-! ## Nothing that the driver does reaches the links -/

/-- A frame that is put into the ring does not change the links of its two descriptors. -/
theorem acceptCh_sameBus (ch : DxeCh) (H : ℕ) (bd_phy_addr : BitVec 32) (skb : SkBuff) :
    ch.SameBus (acceptCh ch H bd_phy_addr skb) where
  dma_addr := rfl
  desc_num := rfl
  next i := by
    unfold acceptCh
    dsimp only
    rcases eq_or_ne i ((H + 1) % ch.desc_num) with rfl | hskb
    · rw [Function.update_self]
    rcases eq_or_ne i (H % ch.desc_num) with rfl | hbd
    · rw [Function.update_of_ne hskb, Function.update_self]
    · rw [Function.update_of_ne hskb, Function.update_of_ne hbd]

section Links

variable {wcn wcn' wcn'' : Wcn}

/-- A step that changes one channel and keeps its links keeps the links of both. -/
theorem sameBus_of_channel (is_low : Bool) (hch : (wcn.txCh is_low).SameBus (wcn'.txCh is_low))
    (hne : ∀ b, b ≠ is_low → wcn'.txCh b = wcn.txCh b) (b : Bool) :
    (wcn.txCh b).SameBus (wcn'.txCh b) := by
  rcases eq_or_ne b is_low with rfl | hb
  · exact hch
  · rw [hne b hb]
    exact .of_eq rfl rfl rfl

/-- Bytes of BDs are not descriptors. -/
theorem writeBd_sameBus (ch : DxeCh) (addr : ℕ) (bytes : List Byte) : ch.SameBus (ch.writeBd addr bytes) :=
  .of_eq rfl rfl rfl

end Links

/-- No step of a transmitting driver changes the links. -/
theorem TxStep.sameBus {p : TxParams} {s s' : TxWorld} {q q' : Bool → List SkBuff} {e : TxEvent}
    (h : TxStep p s q e s' q') (b : Bool) : (s.wcn.txCh b).SameBus (s'.wcn.txCh b) := by
  cases h with
  | @refused sta_priv skb H =>
    apply sameBus_of_channel skb.isLow
    · rw [Wcn.emit_txCh, Wcn.writeBd, Wcn.txCh_setTxCh]
      exact writeBd_sameBus _ _ _
    · intro b hb
      exact Wcn.txCh_setTxCh_ne s.wcn hb _
  | @busy sta_priv skb H vif_priv bd mac es =>
    apply sameBus_of_channel skb.isLow
    · rw [Wcn.emit_txCh]
      have hch := txCh_filledWcn s.wcn skb (bdAddr (p.pool skb.isLow) (p.desc_num skb.isLow) H) bd
        mac es
      unfold Wcn.txCh at hch ⊢
      rw [hch]
      exact writeBd_sameBus _ _ _
    · intro b hb
      exact txCh_filledWcn_ne hb _ bd mac es
  | @accepted sta_priv skb H vif_priv bd mac es phy kick =>
    apply sameBus_of_channel skb.isLow
    · rw [Wcn.emit_txCh, Wcn.txCh_setTxCh]
      exact (writeBd_sameBus _ _ _).trans (acceptCh_sameBus _ H phy skb)
    · intro b hb
      rw [Wcn.emit_txCh, Wcn.txCh_setTxCh_ne _ hb, txCh_filledWcn_ne hb]
  | @dma is_low =>
    apply sameBus_of_channel is_low
    · rw [dmaComplete, Wcn.txCh_setTxCh]
      exact .modDesc _ _ fun _ => rfl
    · intro b hb
      exact Wcn.txCh_setTxCh_ne s.wcn hb _
  | @reap is_low ch fs m _ hch =>
    apply sameBus_of_channel is_low
    · rw [txCh_reapedWcn]
      apply DxeCh.SameBus.of_eq <;> rw [hch]
    · intro b hb
      exact Wcn.txCh_setTxCh_ne s.wcn hb ch
  | @ackInd status =>
    rw [dxeTxAckInd_txCh]
    exact .of_eq rfl rfl rfl
  | config => exact .of_eq rfl rfl rfl

/-- Only the DMA engines move their positions. -/
theorem TxStep.cursor_eq {p : TxParams} {s s' : TxWorld} {q q' : Bool → List SkBuff} {e : TxEvent}
    (h : TxStep p s q e s' q') (he : ∀ is_low, e ≠ .dma is_low) : s'.cursor = s.cursor := by
  cases h with
  | @dma is_low => exact absurd rfl (he is_low)
  | refused | busy | accepted | reap | ackInd | config => rfl

/-! ## The engines stay on their rings -/

/-- The channels hold frames, and each engine is at a descriptor of a ring that its links do not leave. -/
structure EngineOnRing (p : TxParams) (w : TxEngineWorld) : Prop where
  holds : ∃ q, TxHoldsAll p w.ring q
  linked : ∀ b, (w.wcn.txCh b).BusLinked
  position : ∀ b, ∃ i, w.position b = some i

section Engine

variable {p : TxParams} {w w' : TxEngineWorld} {e : TxEvent} (he : ∀ is_low, e ≠ .dma is_low)

include he in
/-- Everything but the engines is `txSystem`. -/
theorem txEngine_step_driver :
    (txEngineSystem p).step w e = ((txSystem p).step w.ring e).map w.setDriver := by
  cases e with
  | dma is_low => exact absurd rfl (he is_low)
  | tx | reap | ackInd | config => rfl

/-- The address of an engine denotes its position. -/
theorem ring_cursor {is_low : Bool} {i : ℕ} (hi : w.position is_low = some i) :
    w.ring.cursor is_low = i := by
  change (w.position is_low).getD 0 = i
  rw [hi, Option.getD_some]

/-- The driver's step leaves the engines at the same positions. -/
theorem ring_setDriver {s : TxWorld} (hbus : ∀ b, (w.wcn.txCh b).SameBus (s.wcn.txCh b))
    (hcursor : s.cursor = w.ring.cursor) : (w.setDriver s).ring = s := by
  have hsame : (w.setDriver s).ring.cursor = s.cursor := by
    rw [hcursor]
    funext b
    exact congrArg (Option.getD · 0) ((hbus b).descAt (w.next b))
  obtain ⟨wcn, cursor, submitted, accepted, built⟩ := s
  unfold TxEngineWorld.ring at hsame ⊢
  dsimp only [TxEngineWorld.setDriver] at hsame ⊢
  rw [hsame]

namespace EngineOnRing

variable (h : EngineOnRing p w)
include h

include he in
/-- A step of the driver, as a step of `txSystem`. -/
theorem driver {s : TxWorld} (hstep : (txSystem p).step w.ring e = some s) :
    (w.setDriver s).ring = s ∧ EngineOnRing p (w.setDriver s) := by
  obtain ⟨q, hq⟩ := h.holds
  obtain ⟨q', hTx, hq'⟩ := txStep_cases hq hstep
  have hring := ring_setDriver hTx.sameBus (hTx.cursor_eq he)
  refine ⟨hring, ⟨q', ?_⟩, fun b => ?_, fun b => ?_⟩
  · rw [hring]
    exact hq'
  · exact (hTx.sameBus b).busLinked (h.linked b)
  · obtain ⟨i, hi⟩ := h.position b
    exact ⟨i, ((hTx.sameBus b).descAt (w.next b)).trans hi⟩

/-- The engine of a channel completes descriptor `i` and follows its link. -/
theorem complete_position {is_low : Bool} {i : ℕ} (hi : w.position is_low = some i) (b : Bool) :
    TxEngineWorld.position { w with
      wcn := dmaComplete w.wcn is_low i
      next := Function.update w.next is_low ((w.wcn.txCh is_low).dxe i).phy_next_l } b =
    if b = is_low then some ((i + 1) % (w.wcn.txCh is_low).desc_num) else w.position b := by
  unfold TxEngineWorld.position dmaComplete
  split_ifs with hb
  · subst hb
    have hsame := DxeCh.SameBus.modDesc (w.wcn.txCh b) i (f := DxeDesc.clearValid) fun _ => rfl
    dsimp only
    rw [Function.update_self, Wcn.txCh_setTxCh, hsame.descAt]
    exact h.linked b i (DxeCh.descAt_lt hi)
  · dsimp only
    rw [Function.update_of_ne hb, Wcn.txCh_setTxCh_ne _ hb]

/-- So its position is the next one of the array. -/
theorem complete_ring {is_low : Bool} {i : ℕ} (hi : w.position is_low = some i) :
    TxEngineWorld.ring { w with
      wcn := dmaComplete w.wcn is_low i
      next := Function.update w.next is_low ((w.wcn.txCh is_low).dxe i).phy_next_l } =
    { w.ring with
      wcn := dmaComplete w.wcn is_low i
      cursor := Function.update w.ring.cursor is_low
        ((i + 1) % (w.wcn.txCh is_low).desc_num) } := by
  have hpos : (TxEngineWorld.ring { w with
      wcn := dmaComplete w.wcn is_low i
      next := Function.update w.next is_low ((w.wcn.txCh is_low).dxe i).phy_next_l }).cursor =
      Function.update w.ring.cursor is_low ((i + 1) % (w.wcn.txCh is_low).desc_num) := by
    funext b
    refine (congrArg (Option.getD · 0) (h.complete_position hi b)).trans ?_
    rcases eq_or_ne b is_low with rfl | hb
    · rw [if_pos rfl, Function.update_self, Option.getD_some]
    · rw [if_neg hb, Function.update_of_ne hb]
      rfl
  rw [← hpos]
  rfl

/-- Every step is the step of `txSystem` on the same event, and where there is none there is none. -/
theorem map_step (e : TxEvent) :
    ((txEngineSystem p).step w e).map TxEngineWorld.ring = (txSystem p).step w.ring e := by
  by_cases hdma : ∃ is_low, e = .dma is_low
  · obtain ⟨is_low, rfl⟩ := hdma
    obtain ⟨i, hi⟩ := h.position is_low
    have hat : (w.wcn.txCh is_low).descAt (w.next is_low) = some i := hi
    have hwcn : w.ring.wcn = w.wcn := rfl
    simp only [txEngineSystem, txSystem, TxEngineWorld.complete, hat, hwcn, ring_cursor hi,
      Option.bind_eq_bind, Option.bind_some, Option.pure_def]
    by_cases hvalid : ((w.wcn.txCh is_low).dxe i).valid = true
    · rw [if_pos hvalid, if_pos hvalid, Option.map_some, h.complete_ring hi]
    · rw [if_neg hvalid, if_neg hvalid, Option.map_none]
  · have he : ∀ is_low, e ≠ .dma is_low := fun is_low heq => hdma ⟨is_low, heq⟩
    rw [txEngine_step_driver he]
    cases hstep : (txSystem p).step w.ring e with
    | none => rfl
    | some s => rw [Option.map_some, Option.map_some, (h.driver he hstep).1]

/-- Every step keeps the engines on their rings. -/
theorem step {e : TxEvent} (hstep : (txEngineSystem p).step w e = some w') : EngineOnRing p w' := by
  by_cases hdma : ∃ is_low, e = .dma is_low
  · obtain ⟨is_low, rfl⟩ := hdma
    have hmap := h.map_step (.dma is_low)
    rw [hstep, Option.map_some] at hmap
    obtain ⟨q, hq⟩ := h.holds
    obtain ⟨q', hTx, hq'⟩ := txStep_cases hq hmap.symm
    obtain ⟨i, hi⟩ := h.position is_low
    have hat : (w.wcn.txCh is_low).descAt (w.next is_low) = some i := hi
    simp only [txEngineSystem, TxEngineWorld.complete, hat, Option.bind_eq_bind, Option.bind_some,
      Option.pure_def, Option.ite_none_right_eq_some, Option.some.injEq] at hstep
    obtain ⟨-, rfl⟩ := hstep
    refine ⟨⟨q', hq'⟩, fun b => (hTx.sameBus b).busLinked (h.linked b), fun b => ?_⟩
    rw [h.complete_position hi b]
    split_ifs
    · exact ⟨_, rfl⟩
    · exact h.position b
  · have he : ∀ is_low, e ≠ .dma is_low := fun is_low heq => hdma ⟨is_low, heq⟩
    rw [txEngine_step_driver he] at hstep
    obtain ⟨s, hs, rfl⟩ := Option.map_eq_some_iff.mp hstep
    exact (h.driver he hs).2

end EngineOnRing

end Engine

/-! ## Where the engines start -/

/-- After the set-up of a TX channel its links are those of the ring, and the descriptor of its head is the
first of the array. -/
theorem txChSetup_bus {is_low : Bool} {n cpu_addr : ℕ} {dma_addr : BitVec 32} {pool : DxeMemPool}
    {ch : DxeCh} (hn : 2 ≤ n) (hwrap : dma_addr.toNat + n * DxeDesc.size ≤ 2 ^ 32)
    (h : txChSetup is_low n (cpu_addr, dma_addr) pool = some ch) :
    ch.BusLinked ∧ ∃ head, ch.head_blk_ctl.bind ch.ctl = some head ∧
      ch.descAt head.desc_phy_addr = some 0 := by
  obtain ⟨ch', hch', hhead, -, hctl, hdxe, hrest⟩ :=
    txChSetup_spec is_low n hn cpu_addr dma_addr pool
  obtain rfl : ch' = ch := Option.some.inj (hch'.symm.trans h)
  have hdma : ch'.dma_addr = dma_addr := by rw [hrest]
  have hnum : ch'.desc_num = n := by
    rw [hrest]
    cases is_low <;> rfl
  constructor
  · apply busLinked_of_initialized
    · rwa [hdma, hnum]
    · rwa [hdma, hnum]
  · refine ⟨txReadyCtl n dma_addr pool 0, ?_, ?_⟩
    · rw [hhead, Option.bind_some]
      exact hctl 0 (by omega)
    · exact descAt_descPhy hwrap ch' hdma hnum (j := 0) (by omega)

section Start

variable {p : TxParams}
  (hwrap : ∀ is_low, (p.coherent is_low).2.toNat + p.desc_num is_low * DxeDesc.size ≤ 2 ^ 32)
include hwrap

/-- The engine of a TX channel starts at the first descriptor. -/
theorem txEngine_init_position {w : TxEngineWorld} (h : (txEngineSystem p).init w) (is_low : Bool) :
    (w.wcn.txCh is_low).BusLinked ∧ w.position is_low = some 0 := by
  obtain ⟨hsetup, -, -, -, -, -, chip_version, rx, regs, regs', hregs, hnext⟩ := h
  obtain ⟨hlinked, head, hhead, hat⟩ :=
    txChSetup_bus (p.two_le is_low) (hwrap is_low) (hsetup is_low)
  refine ⟨hlinked, ?_⟩
  -- What the NEXT register of the channel holds.
  obtain ⟨head', hhead', hreg⟩ := (dxeInitRegs_spec hregs).1 (if is_low then .txL else .txH)
  have hch : chOf w.wcn rx (if is_low then .txL else .txH) = w.wcn.txCh is_low := by
    cases is_low <;> rfl
  rw [hch] at hhead'
  obtain rfl : head' = head := Option.some.inj (hhead'.symm.trans hhead)
  unfold TxEngineWorld.position
  rw [hnext, hreg]
  exact hat

/-- The engines start on their rings. -/
theorem txEngine_init {w : TxEngineWorld} (h : (txEngineSystem p).init w) :
    (txSystem p).init w.ring ∧ EngineOnRing p w := by
  have hposition := txEngine_init_position hwrap h
  have hcursor : w.ring.cursor = fun _ => 0 := funext fun b => ring_cursor (hposition b).2
  obtain ⟨hsetup, hack, hlog, hsub, hacc, hbuilt, -⟩ := h
  have hinit : (txSystem p).init w.ring := ⟨hsetup, hack, hlog, hcursor, hsub, hacc, hbuilt⟩
  refine ⟨hinit, ⟨_, txSystem_init_holds hinit⟩, fun b => (hposition b).1, fun b => ?_⟩
  exact ⟨0, (hposition b).2⟩

/-- The driver with the engines that follow bus addresses runs exactly as the driver whose engines go
around their rings: they start in the same state, and every order of steps of one is one of the other, to
the same state. In particular no engine ever follows a link off its ring. -/
theorem txEngine_runs {w : TxEngineWorld} (h : (txEngineSystem p).init w) :
    (txSystem p).init w.ring ∧
    ∀ es, ((txEngineSystem p).runFrom w es).map TxEngineWorld.ring = (txSystem p).runFrom w.ring es := by
  obtain ⟨hinit, hring⟩ := txEngine_init hwrap h
  refine ⟨hinit, fun es => ?_⟩
  apply System.runFrom_map (I := EngineOnRing p)
  · intro w e hw
    exact hw.map_step e
  · intro w e w' hw hstep
    exact hw.step hstep
  · exact hring

end Start

/-- The head of a TX channel that has been set up has a descriptor. -/
theorem txHead_of_setup {is_low : Bool} {n : ℕ} {coherent : ℕ × BitVec 32} {pool : DxeMemPool}
    (hn : 2 ≤ n) {ch : DxeCh} (h : txChSetup is_low n coherent pool = some ch) :
    ∃ head, ch.head_blk_ctl.bind ch.ctl = some head ∧ head.desc.isSome = true := by
  obtain ⟨ch', hch, hhead, -, hctl, -⟩ :=
    txChSetup_spec is_low n hn coherent.1 coherent.2 pool
  obtain rfl : ch' = ch := Option.some.inj (hch.symm.trans h)
  refine ⟨txReadyCtl n coherent.2 pool 0, ?_, rfl⟩
  rw [hhead, Option.bind_some]
  exact hctl 0 (Nat.lt_of_lt_of_le Nat.zero_lt_two hn)

/-- Every initial state of `txSystem` is one in which the engines have been programmed. -/
theorem exists_txEngine_init {p : TxParams}
    (hwrap : ∀ is_low, (p.coherent is_low).2.toNat + p.desc_num is_low * DxeDesc.size ≤ 2 ^ 32)
    {s : TxWorld} (h : (txSystem p).init s) :
    ∃ w, (txEngineSystem p).init w ∧ w.ring = s := by
  -- Any RX channels that have been set up.
  obtain ⟨-, rx, -, -, hrx⟩ := ringSetup_spec (rxChConfig true 2) (Nat.le_refl 2) rfl 1 0
  have hrxctl := hrx.ctl 0 (show 0 < 2 by omega)
  have hhead : ∀ c, ∃ head, (chOf s.wcn (fun _ => rx) c).head_blk_ctl.bind
      (chOf s.wcn (fun _ => rx) c).ctl = some head ∧
      (c = .rxL ∨ c = .rxH → head.desc.isSome = true) := by
    have hrx' : ∃ head, rx.head_blk_ctl.bind rx.ctl = some head ∧ head.desc.isSome = true := by
      rw [hrx.head, Option.bind_some]
      exact ⟨_, hrxctl, rfl⟩
    intro c
    cases c
    · exact (txHead_of_setup (p.two_le true) (h.1 true)).imp fun _ hh => ⟨hh.1, fun _ => hh.2⟩
    · exact (txHead_of_setup (p.two_le false) (h.1 false)).imp fun _ hh => ⟨hh.1, fun _ => hh.2⟩
    · exact hrx'.imp fun _ hh => ⟨hh.1, fun _ => hh.2⟩
    · exact hrx'.imp fun _ hh => ⟨hh.1, fun _ => hh.2⟩
  obtain ⟨regs', hregs⟩ := exists_dxeInitRegs .chip3660 (fun _ => 0) hhead
  obtain ⟨hsetup, hack, hlog, hcur, hsub, hacc, hbuilt⟩ := h
  have hinit : (txEngineSystem p).init { s with
      next := fun is_low => regs' (WCN36XX_DXE_CH_NEXT_DESC_ADDR (if is_low then .txL else .txH)) } :=
    ⟨hsetup, hack, hlog, hsub, hacc, hbuilt, .chip3660, fun _ => rx, _, regs', hregs, fun _ => rfl⟩
  refine ⟨_, hinit, ?_⟩
  have hcursor := (txEngine_init hwrap hinit).1.2.2.2.1
  obtain ⟨wcn, cursor, submitted, accepted, built⟩ := s
  obtain rfl : cursor = fun _ => 0 := hcur
  unfold TxEngineWorld.ring at hcursor ⊢
  dsimp only at hcursor ⊢
  rw [hcursor]

/-- The driver's descriptor arrays do not wrap. -/
theorem driverParams_wrap (is_low : Bool) : (driverParams.coherent is_low).2.toNat +
    driverParams.desc_num is_low * DxeDesc.size ≤ 2 ^ 32 := by
  cases is_low <;> decide

/-- An authentication frame, of which the engine of the high priority channel fetches both descriptors: it
ends up at the third one. -/
theorem txEngine_runs_auth : ∃ w w', (txEngineSystem driverParams).init w ∧
    (txEngineSystem driverParams).runFrom w
      [.tx none (authFrame 1 24 false), .dma false, .dma false] = some w' ∧
    w'.position false = some 2 := by
  have hrun : ((txStart driverParams oneStation).bind fun s => (txSystem driverParams).runFrom s
      [.tx none (authFrame 1 24 false), .dma false, .dma false]).any
      (fun s => s.cursor false == 2) = true := by decide +kernel
  obtain ⟨s', hs', hcursor⟩ := (Option.any_eq_true _ _).mp hrun
  obtain ⟨s, hs, hrun⟩ := Option.bind_eq_some_iff.mp hs'
  obtain ⟨w, hw, rfl⟩ := exists_txEngine_init driverParams_wrap (txStart_init hs)
  have hmap := (txEngine_runs driverParams_wrap hw).2
    [.tx none (authFrame 1 24 false), .dma false, .dma false]
  rw [hrun] at hmap
  obtain ⟨w', hw', rfl⟩ := Option.map_eq_some_iff.mp hmap
  refine ⟨w, w', hw, hw', ?_⟩
  have h2 : w'.ring.cursor false = 2 := beq_iff_eq.mp hcursor
  change (w'.position false).getD 0 = 2 at h2
  cases hpos : w'.position false with
  | none => rw [hpos] at h2; cases h2
  | some i => rw [hpos, Option.getD_some] at h2; rw [h2]

end Wcn36xx
