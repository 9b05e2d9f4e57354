import Wcn36xx.Dxe.TxRing
import Wcn36xx.Support.System
import Wcn36xx.Txrx.StartTx

/-!
# The driver transmitting

Both TX channels under every order of the steps that run on them: `wcn36xx_tx` (one call at a
time), the completion of a descriptor by the DMA engine of a channel, `reap_tx_dxes` from the TX
interrupt, `wcn36xx_dxe_tx_ack_ind` from the indication worker, and changes of the configuration.
`TxEvent.tx` carries a frame that mac80211 has not handed over before; a frame is one transmission,
and its address tells it apart.

The case lemmas say once what each step can do. `TxHolds` describes a channel,
`txStep_cases` gives every step in closed form, and `txSystem_invariant` is the induction over runs.
-/

namespace Wcn36xx

open Support (System)

/-- What the set-up of the two TX channels is given: the number of descriptors and the memory that
`dma_alloc_coherent` returns for descriptors and BDs. -/
structure TxParams where
  desc_num : Bool → ℕ
  coherent : Bool → ℕ × BitVec 32
  virt_addr : Bool → ℕ
  phy_addr : Bool → BitVec 32
  two_le : ∀ is_low, 2 ≤ desc_num is_low
  even : ∀ is_low, desc_num is_low % 2 = 0
  virt_pos : ∀ is_low, 0 < virt_addr is_low

/-- The memory pool that `wcn36xx_dxe_allocate_mem_pools` makes for a channel. -/
def TxParams.pool (p : TxParams) (is_low : Bool) : DxeMemPool where
  chunk_size := WCN36XX_BD_CHUNK_SIZE + 16 - WCN36XX_BD_CHUNK_SIZE % 8
  virt_addr := p.virt_addr is_low
  phy_addr := p.phy_addr is_low

/-- The driver's own numbers of descriptors. -/
def driverParams : TxParams where
  desc_num is_low := if is_low then WCN36XX_DXE_CH_DESC_NUMB_TX_L else WCN36XX_DXE_CH_DESC_NUMB_TX_H
  coherent is_low := if is_low then (0x10000, 0x10000) else (0x20000, 0x20000)
  virt_addr is_low := if is_low then 0x30000 else 0x40000
  phy_addr is_low := if is_low then 0x30000 else 0x40000
  two_le is_low := by cases is_low <;> decide
  even is_low := by cases is_low <;> decide
  virt_pos is_low := by cases is_low <;> decide

/-- The driver, the position of the DMA engine in each TX channel, and what has happened so far. -/
structure TxWorld where
  wcn : Wcn
  /-- The descriptor that each channel's DMA engine is at. -/
  cursor : Bool → ℕ := fun _ => 0
  /-- The frames that mac80211 has handed over. -/
  submitted : List SkBuff := []
  /-- The frames for which `wcn36xx_start_tx` returned 0. -/
  accepted : List SkBuff := []
  /-- The bytes of the BD that `wcn36xx_start_tx` built for the frame that was last accepted at a
  BD block. -/
  built : Bool → ℕ → Option (List Byte) := fun _ _ => none

/-- The steps of a transmitting driver. -/
inductive TxEvent where
  /-- mac80211 calls `wcn36xx_tx`. -/
  | tx (sta_priv : Option ℕ) (skb : SkBuff)
  /-- The DMA engine completes a descriptor. -/
  | dma (is_low : Bool)
  /-- The TX interrupt runs `reap_tx_dxes`. -/
  | reap (is_low : Bool)
  /-- The indication worker runs `wcn36xx_dxe_tx_ack_ind`. -/
  | ackInd (status : BitVec 32)
  /-- mac80211 changes interfaces, stations or the channel. -/
  | config (mac : MacConf)

/-- The BD that `wcn36xx_start_tx` has built for a frame when it accepts it, as a note at the BD block
that it takes. -/
def noteBuilt (s : TxWorld) (sta_priv : Option ℕ) (skb : SkBuff) : Bool → ℕ → Option (List Byte) :=
  match (s.wcn.txCh skb.isLow).head_blk_ctl, startTxBd s.wcn.mac sta_priv skb with
  | some blk, some (bd, _) =>
    Function.update s.built skb.isLow
      (Function.update (s.built skb.isLow) blk (some bd.sentBytes))
  | _, _ => s.built

/-- The transition system of a transmitting driver. -/
def txSystem (p : TxParams) : System TxWorld TxEvent where
  init s :=
    (∀ is_low, txChSetup is_low (p.desc_num is_low) (p.coherent is_low) (p.pool is_low) =
      some (s.wcn.txCh is_low)) ∧
    s.wcn.tx_ack_skb = none ∧ s.wcn.log = [] ∧ s.cursor = (fun _ => 0) ∧ s.submitted = [] ∧
    s.accepted = [] ∧ s.built = fun _ _ => none
  step s
    | .tx sta_priv skb =>
      if skb.ptr ∈ s.submitted.map SkBuff.ptr then none
      else do
        let (wcn, ret) ← tx s.wcn sta_priv skb
        if ret = 0 then
          return { s with
            wcn := wcn, submitted := s.submitted ++ [skb], accepted := s.accepted ++ [skb]
            built := noteBuilt s sta_priv skb }
        else
          return { s with wcn := wcn, submitted := s.submitted ++ [skb] }
    | .dma is_low =>
      if ((s.wcn.txCh is_low).dxe (s.cursor is_low)).valid then
        some { s with
          wcn := dmaComplete s.wcn is_low (s.cursor is_low)
          cursor := Function.update s.cursor is_low
            ((s.cursor is_low + 1) % (s.wcn.txCh is_low).desc_num) }
      else none
    | .reap is_low => do
      let wcn ← reapTxDxes s.wcn is_low
      return { s with wcn := wcn }
    | .ackInd status => some { s with wcn := dxeTxAckInd s.wcn status }
    | .config mac => some { s with wcn := { s.wcn with mac := mac } }

/-! ## One channel -/

/-- The block after the head holds a frame: `wcn36xx_dxe_tx_frame` finds the ring full. -/
def DxeCh.full (ch : DxeCh) : Bool :=
  match ch.head_blk_ctl.bind ch.nextOf with
  | some (some next) => (ch.skbAt next).isSome
  | _ => false

/-- The TX channel `ch` holds the frames `q`, oldest first. -/
structure TxHolds (p : TxParams) (is_low : Bool) (ch : DxeCh) (cursor T D H : ℕ) (q : List SkBuff) :
    Prop where
  ring : TxRing (p.pool is_low) ch T D H q
  tail : ch.tail_blk_ctl = some (ch.blk T)
  desc_num : ch.desc_num = p.desc_num is_low
  cursor_eq : cursor = D % ch.desc_num

namespace TxHolds

variable {p : TxParams} {is_low : Bool} {ch : DxeCh} {cursor T D H : ℕ} {q : List SkBuff}
  (h : TxHolds p is_low ch cursor T D H q)
include h

/-- The frames in the ring are the frames at its blocks. -/
theorem mem_iff (skb : SkBuff) :
    skb ∈ q ↔ ∃ k, ch.slotSkb k = some skb := by
  have hlen := h.ring.length
  have hle := h.ring.head_le
  have hH := h.ring.head_even
  have hn := h.ring.ready.two_le
  constructor
  · intro hmem
    obtain ⟨i, hi, hget⟩ := List.getElem_of_mem hmem
    refine ⟨2 * (T / 2) + 2 * i + 1, ?_⟩
    rw [h.ring.skb _ (by omega) (by omega), if_pos (by omega),
      show (2 * (T / 2) + 2 * i + 1) / 2 - T / 2 = i by omega, List.getElem?_eq_getElem hi, hget]
  · rintro ⟨k, hk⟩
    obtain ⟨j, hTj, hj, heq⟩ := (Support.Cycle.consecutive 1 ch.desc_num).exists_window
      (by omega) T k
    have hslot : ch.slotSkb j = some skb := by
      rw [← hk, DxeCh.slotSkb, DxeCh.slotSkb, DxeCh.blk, DxeCh.blk, heq]
    rw [h.ring.skb j hTj hj] at hslot
    split_ifs at hslot with hcond
    exact List.mem_of_getElem? hslot

/-- The channel keeps its description when only bytes of BDs change. -/
theorem writeBd (addr : ℕ) (bytes : List Byte) :
    TxHolds p is_low (ch.writeBd addr bytes) cursor T D H q where
  ring :=
    { ready := h.ring.ready.congr rfl rfl rfl rfl
      head := h.ring.head
      tail_le := h.ring.tail_le
      dev_le := h.ring.dev_le
      head_le := h.ring.head_le
      head_even := h.ring.head_even
      valid := h.ring.valid
      skb := h.ring.skb
      length := h.ring.length }
  tail := h.tail
  desc_num := h.desc_num
  cursor_eq := h.cursor_eq

/-- The DMA engine has work exactly when its descriptor is VALID. -/
theorem valid_cursor : (ch.dxe cursor).valid = decide (D < H) := by
  rw [h.cursor_eq]
  exact h.ring.slotValid_dev

/-- The DMA engine completes a descriptor. -/
theorem complete (hlt : D < H) :
    TxHolds p is_low (ch.modDesc cursor DxeDesc.clearValid) ((cursor + 1) % ch.desc_num) T (D + 1) H
      q where
  ring := by rw [h.cursor_eq]; exact h.ring.complete hlt
  tail := h.tail
  desc_num := h.desc_num
  cursor_eq := by
    rw [h.cursor_eq, Nat.mod_add_mod]
    rfl

/-- A ring that is not full accepts a frame. -/
theorem accept (hroom : q.length ≠ p.desc_num is_low / 2) (bd_phy_addr : BitVec 32) (skb : SkBuff) :
    TxHolds p is_low (acceptCh ch H bd_phy_addr skb) cursor T D (H + 2) (q ++ [skb]) where
  ring := h.ring.accept (by rw [h.desc_num]; exact hroom) bd_phy_addr skb
  tail := h.tail
  desc_num := h.desc_num
  cursor_eq := h.cursor_eq

/-- The address that `wcn36xx_dxe_get_next_bd` returns. -/
theorem dxeGetNextBd {wcn : Wcn} (hch : wcn.txCh is_low = ch) :
    dxeGetNextBd wcn is_low = some (bdAddr (p.pool is_low) ch.desc_num H) := by
  obtain ⟨c, hc, -, -, hbd⟩ := h.ring.ready.ctl H
  simp only [Wcn36xx.dxeGetNextBd, hch, h.ring.head, hc, hbd, Option.bind_eq_bind,
    Option.bind_some, Option.pure_def]

/-- The head has a BD. -/
theorem bdAddr_pos : 0 < bdAddr (p.pool is_low) ch.desc_num H :=
  (h.ring.ready.bdAddr_pos_iff H).mpr h.ring.head_even

end TxHolds

/-- A channel is full when it holds half as many frames as blocks. -/
theorem TxHolds.full_eq {p : TxParams} {is_low : Bool} {ch : DxeCh} {cursor T D H : ℕ}
    {q : List SkBuff} (h : TxHolds p is_low ch cursor T D H q) :
    ch.full = decide (q.length = p.desc_num is_low / 2) := by
  unfold DxeCh.full
  rw [h.ring.head, Option.bind_some, h.ring.ready.ring.nextOf, ← h.desc_num, ← h.ring.slotSkb_succ_head]
  rfl

/-- What `wcn36xx_dxe_tx_frame` can do: refuse the frame because the ring is full, or put it at the
head. -/
theorem TxHolds.dxeTxFrame_cases {p : TxParams} {is_low : Bool} {wcn wcn' : Wcn} {cursor T D H : ℕ}
    {q : List SkBuff} (h : TxHolds p is_low (wcn.txCh is_low) cursor T D H q)
    {vif_priv : Option WcnVif} {skb : SkBuff} {ret : ℤ}
    (hrun : dxeTxFrame wcn vif_priv skb is_low = some (wcn', ret)) :
    (q.length = p.desc_num is_low / 2 ∧ ret = -EBUSY ∧
      wcn' = { wcn with queues_stopped := true }.emit [.stopQueues]) ∨
    (q.length ≠ p.desc_num is_low / 2 ∧ ret = 0 ∧
      ∃ phy kick, wcn' = (wcn.setTxCh is_low (acceptCh (wcn.txCh is_low) H phy skb)).emit
          [.dmaMap skb, kick] ∧
        (kick = .smsmChangeState 0 WCN36XX_SMSM_WLAN_TX_ENABLE ∨
          kick = .writeRegister (wcn.txCh is_low).reg_ctrl (wcn.txCh is_low).def_ctrl)) := by
  have hfull := h.ring.slotSkb_succ_head
  rw [h.desc_num] at hfull
  by_cases hlen : q.length = p.desc_num is_low / 2
  · rw [decide_eq_true hlen] at hfull
    rw [dxeTxFrame_busy h.ring.ready h.ring.head hfull, Option.some.injEq, Prod.mk.injEq] at hrun
    exact Or.inl ⟨hlen, hrun.2.symm, hrun.1.symm⟩
  · rw [decide_eq_false hlen] at hfull
    have hfree : (wcn.txCh is_low).slotSkb (H + 1) = none := by
      cases hs : (wcn.txCh is_low).slotSkb (H + 1) with
      | none => rfl
      | some _ => rw [hs] at hfull; cases hfull
    refine Or.inr ⟨hlen, ?_⟩
    obtain ⟨phy, hacc⟩ :=
      dxeTxFrame_accept h.ring.ready h.ring.head h.ring.head_even hfree vif_priv skb
    rw [hacc, Option.map_eq_some_iff] at hrun
    obtain ⟨wcn'', hkick, heq⟩ := hrun
    rw [Prod.mk.injEq] at heq
    obtain ⟨rfl, rfl⟩ := heq
    obtain ⟨kick, rfl, hkind⟩ := dxeTxKick_cases hkick
    refine ⟨rfl, phy, kick, ?_, hkind⟩
    simp only [Wcn.emit, List.append_assoc, List.cons_append, List.nil_append]

/-! ## What `wcn36xx_start_tx` can do -/

/-- `wcn36xx_tx_start_ampdu` starts at most a block-ack session. -/
theorem txStartAmpdu_effects {mac mac' : MacConf} {sta_priv : ℕ} {skb : SkBuff} {es : List Effect}
    (h : txStartAmpdu mac sta_priv skb = some (mac', es)) :
    es = [] ∨ ∃ sta tid, es = [.startTxBaSession sta tid] := by
  rcases txStartAmpdu_cases h with ⟨-, rfl⟩ | ⟨s, -, -, ⟨-, rfl, -⟩ | ⟨-, rfl, -⟩⟩
  · exact Or.inl rfl
  · exact Or.inl rfl
  · exact Or.inr ⟨_, _, rfl⟩

/-- Filling the BD of a data frame starts at most a block-ack session. -/
theorem setTxData_effects {bd bd' : TxBd} {mac mac' : MacConf} {sta_priv : Option ℕ} {skb : SkBuff}
    {bcast : Bool} {vif_priv : ℕ} {es : List Effect}
    (h : setTxData bd mac sta_priv skb bcast = some (bd', vif_priv, mac', es)) :
    es = [] ∨ ∃ sta tid, es = [.startTxBaSession sta tid] := by
  simp only [setTxData, Option.bind_eq_bind, Option.bind_eq_some_iff, Option.pure_def] at h
  obtain ⟨⟨bd₁, vif₁⟩, -, h⟩ := h
  cases sta_priv with
  | none =>
    simp only [Option.some.injEq, Prod.mk.injEq] at h
    exact Or.inl h.2.2.2.symm
  | some sta =>
    by_cases hqos : ieee80211IsDataQos skb.frameControl = true
    · simp only [if_pos hqos, Option.bind_eq_some_iff, Option.some.injEq, Prod.mk.injEq] at h
      obtain ⟨⟨mac₂, es₂⟩, hampdu, -, -, -, rfl⟩ := h
      exact txStartAmpdu_effects hampdu
    · simp only [if_neg hqos, Option.some.injEq, Prod.mk.injEq] at h
      exact Or.inl h.2.2.2.symm

/-- Filling the BD starts at most a block-ack session. -/
theorem startTxBd_effects {mac mac' : MacConf} {sta_priv : Option ℕ} {skb : SkBuff} {bd : TxBd}
    {vif_priv : ℕ} {es : List Effect}
    (h : startTxBd mac sta_priv skb = some (bd, vif_priv, mac', es)) :
    es = [] ∨ ∃ sta tid, es = [.startTxBaSession sta tid] := by
  rw [startTxBd] at h
  split_ifs at h
  · exact setTxData_effects h
  · simp only [setTxMgmt, Option.bind_eq_bind, Option.bind_eq_some_iff, Option.pure_def,
      Option.some.injEq, Prod.mk.injEq] at h
    obtain ⟨-, -, -, -, -, -, -, -, -, rfl⟩ := h
    exact Or.inl rfl

/-- The state after `wcn36xx_start_tx` has filled the BD of a frame at `addr`. -/
def filledWcn (wcn : Wcn) (skb : SkBuff) (addr : ℕ) (bd : TxBd) (mac : MacConf) (es : List Effect) :
    Wcn :=
  { wcn.writeBd skb.isLow addr bd.sentBytes with
    tx_ack_skb := if skb.wantsStatus then some skb else wcn.tx_ack_skb
    mac := mac
    log := wcn.log ++ (if skb.wantsStatus then [.stopQueues] else []) ++ es }

@[simp]
theorem txCh_filledWcn (wcn : Wcn) (skb : SkBuff) (addr : ℕ) (bd : TxBd) (mac : MacConf)
    (es : List Effect) :
    (filledWcn wcn skb addr bd mac es).txCh skb.isLow =
      (wcn.txCh skb.isLow).writeBd addr bd.sentBytes := by
  rw [filledWcn, Wcn.writeBd]
  cases skb.isLow <;> rfl

theorem txCh_filledWcn_ne {wcn : Wcn} {skb : SkBuff} {is_low : Bool} (h : is_low ≠ skb.isLow)
    (addr : ℕ) (bd : TxBd) (mac : MacConf) (es : List Effect) :
    (filledWcn wcn skb addr bd mac es).txCh is_low = wcn.txCh is_low :=
  wcn.txCh_setTxCh_ne h _

/-- What `wcn36xx_start_tx` can do before `wcn36xx_dxe_tx_frame`, when the head has a BD: give up
because another frame waits for its status, or fill the BD. -/
theorem startTxFill_cases {wcn wcn' : Wcn} {sta_priv : Option ℕ} {skb : SkBuff} {addr : ℕ}
    {r : ℤ ⊕ ℕ} (hbd : dxeGetNextBd wcn skb.isLow = some addr) (hpos : 0 < addr)
    (hrun : startTxFill wcn sta_priv skb = some (wcn', r)) :
    (r = .inl (-EINVAL) ∧ skb.wantsStatus = true ∧ wcn.tx_ack_skb.isSome = true ∧
      wcn' = wcn.writeBd skb.isLow addr (startTxBdInit skb).bytes) ∨
    ((skb.wantsStatus = true → wcn.tx_ack_skb = none) ∧
      ∃ bd vif_priv mac es, startTxBd wcn.mac sta_priv skb = some (bd, vif_priv, mac, es) ∧
        r = .inr vif_priv ∧ wcn' = filledWcn wcn skb addr bd mac es) := by
  have hne : addr ≠ 0 := Nat.pos_iff_ne_zero.mp hpos
  simp only [startTxFill, hbd, Option.bind_eq_bind, Option.bind_some, if_neg hne,
    Option.pure_def] at hrun
  cases hw : skb.wantsStatus with
  | false =>
    simp only [hw, Bool.false_and, Bool.false_eq_true, if_false, Option.bind_eq_some_iff,
      Option.some.injEq, Prod.mk.injEq] at hrun
    obtain ⟨⟨bd, vif_priv, mac, es⟩, hfill, rfl, rfl⟩ := hrun
    refine Or.inr ⟨nofun, bd, vif_priv, mac, es, hfill, rfl, ?_⟩
    simp only [filledWcn, Wcn.writeBd, Wcn.emit, hw, Bool.false_eq_true, if_false, List.append_nil]
    cases skb.isLow <;> rfl
  | true =>
    cases hack : wcn.tx_ack_skb with
    | some other =>
      simp only [hw, hack, Option.isSome_some, Bool.and_self, if_true, Option.some.injEq,
        Prod.mk.injEq] at hrun
      exact Or.inl ⟨hrun.2.symm, rfl, rfl, hrun.1.symm⟩
    | none =>
      simp only [hw, hack, Option.isSome_none, Bool.and_false, Bool.false_eq_true, if_false, if_true,
        Option.bind_eq_some_iff, Option.some.injEq, Prod.mk.injEq] at hrun
      obtain ⟨⟨bd, vif_priv, mac, es⟩, hfill, rfl, rfl⟩ := hrun
      refine Or.inr ⟨fun _ => rfl, bd, vif_priv, mac, es, hfill, rfl, ?_⟩
      simp only [filledWcn, Wcn.writeBd, Wcn.emit, hw, if_true]
      cases skb.isLow <;> rfl

/-- What `wcn36xx_start_tx` can do on a channel that holds frames: give up because another frame waits
for its status, fill the BD and find the ring full, or fill the BD and put the frame into the
ring. -/
theorem TxHolds.startTx_cases {p : TxParams} {wcn wcn' : Wcn} {sta_priv : Option ℕ} {skb : SkBuff}
    {cursor T D H : ℕ} {q : List SkBuff} {ret : ℤ}
    (h : TxHolds p skb.isLow (wcn.txCh skb.isLow) cursor T D H q)
    (hrun : startTx wcn sta_priv skb = some (wcn', ret)) :
    (ret = -EINVAL ∧ skb.wantsStatus = true ∧ wcn.tx_ack_skb.isSome = true ∧
      wcn' = wcn.writeBd skb.isLow (bdAddr (p.pool skb.isLow) (p.desc_num skb.isLow) H)
        (startTxBdInit skb).bytes) ∨
    ((skb.wantsStatus = true → wcn.tx_ack_skb = none) ∧
      ∃ bd vif_priv mac es, startTxBd wcn.mac sta_priv skb = some (bd, vif_priv, mac, es) ∧
        ((q.length = p.desc_num skb.isLow / 2 ∧ ret = -EBUSY ∧
          wcn' = { filledWcn wcn skb (bdAddr (p.pool skb.isLow) (p.desc_num skb.isLow) H) bd mac es
            with queues_stopped := true }.emit [.stopQueues]) ∨
        (q.length ≠ p.desc_num skb.isLow / 2 ∧ ret = 0 ∧ ∃ phy kick,
          wcn' = ((filledWcn wcn skb (bdAddr (p.pool skb.isLow) (p.desc_num skb.isLow) H) bd mac
            es).setTxCh skb.isLow (acceptCh ((wcn.txCh skb.isLow).writeBd
              (bdAddr (p.pool skb.isLow) (p.desc_num skb.isLow) H) bd.sentBytes) H phy skb)).emit
            [.dmaMap skb, kick] ∧
          kick.handsBack = none ∧ kick.reads = none ∧ kick.leavesQueues = true))) := by
  have hbd := h.dxeGetNextBd rfl
  have hpos := h.bdAddr_pos
  rw [h.desc_num] at hbd hpos
  simp only [startTx, Option.bind_eq_bind, Option.bind_eq_some_iff] at hrun
  obtain ⟨⟨wcn₁, r⟩, hfill, hrun⟩ := hrun
  rcases startTxFill_cases hbd hpos hfill with ⟨rfl, hw, hack, rfl⟩ |
      ⟨hack, bd, vif_priv, mac, es, hbuilt, rfl, rfl⟩
  · simp only [Option.pure_def, Option.some.injEq, Prod.mk.injEq] at hrun
    exact Or.inl ⟨hrun.2.symm, hw, hack, hrun.1.symm⟩
  · refine Or.inr ⟨hack, bd, vif_priv, mac, es, hbuilt, ?_⟩
    have h₁ : TxHolds p skb.isLow ((filledWcn wcn skb (bdAddr (p.pool skb.isLow)
        (p.desc_num skb.isLow) H) bd mac es).txCh skb.isLow) cursor T D H q := by
      rw [txCh_filledWcn]
      exact h.writeBd _ _
    rcases h₁.dxeTxFrame_cases hrun with ⟨hfull, rfl, rfl⟩ | ⟨hroom, rfl, phy, kick, rfl, hkind⟩
    · exact Or.inl ⟨hfull, rfl, rfl⟩
    · rw [txCh_filledWcn] at hkind ⊢
      refine Or.inr ⟨hroom, rfl, phy, kick, rfl, ?_⟩
      rcases hkind with rfl | rfl <;> exact ⟨rfl, rfl, rfl⟩

/-- `wcn36xx_dxe_tx_ack_ind` does not touch the channels. -/
theorem dxeTxAckInd_txCh (wcn : Wcn) (status : BitVec 32) (is_low : Bool) :
    (dxeTxAckInd wcn status).txCh is_low = wcn.txCh is_low := by
  rw [dxeTxAckInd]
  split
  · rfl
  · split_ifs <;> rfl

/-! ## What a step can do -/

/-- Both channels hold frames: `q is_low`, oldest first. -/
def TxHoldsAll (p : TxParams) (s : TxWorld) (q : Bool → List SkBuff) : Prop :=
  ∀ is_low, ∃ T D H, TxHolds p is_low (s.wcn.txCh is_low) (s.cursor is_low) T D H (q is_low)

/-- `H` is the head of a channel, where the next frame goes. -/
def HeadAt (ch : DxeCh) (H : ℕ) : Prop := ch.head_blk_ctl = some (ch.blk H) ∧ H % 2 = 0

/-- The steps of a transmitting driver in closed form: the state `s` with the frames `q` in the rings,
the event, the state after it, and the frames in the rings then. -/
inductive TxStep (p : TxParams) (s : TxWorld) (q : Bool → List SkBuff) :
    TxEvent → TxWorld → (Bool → List SkBuff) → Prop
  /-- Another frame waits for its status. -/
  | refused {sta_priv : Option ℕ} {skb : SkBuff} {H : ℕ} :
      skb.ptr ∉ s.submitted.map SkBuff.ptr → skb.wantsStatus = true →
      s.wcn.tx_ack_skb.isSome = true → HeadAt (s.wcn.txCh skb.isLow) H →
      TxStep p s q (.tx sta_priv skb)
        { s with
          wcn := (s.wcn.writeBd skb.isLow (bdAddr (p.pool skb.isLow) (p.desc_num skb.isLow) H)
            (startTxBdInit skb).bytes).emit [.freeTxskb skb]
          submitted := s.submitted ++ [skb] } q
  /-- The ring is full. -/
  | busy {sta_priv : Option ℕ} {skb : SkBuff} {H vif_priv : ℕ} {bd : TxBd} {mac : MacConf}
      {es : List Effect} :
      skb.ptr ∉ s.submitted.map SkBuff.ptr → (skb.wantsStatus = true → s.wcn.tx_ack_skb = none) →
      HeadAt (s.wcn.txCh skb.isLow) H →
      startTxBd s.wcn.mac sta_priv skb = some (bd, vif_priv, mac, es) →
      (q skb.isLow).length = p.desc_num skb.isLow / 2 →
      TxStep p s q (.tx sta_priv skb)
        { s with
          wcn := { filledWcn s.wcn skb (bdAddr (p.pool skb.isLow) (p.desc_num skb.isLow) H) bd mac
            es with queues_stopped := true }.emit [.stopQueues, .freeTxskb skb]
          submitted := s.submitted ++ [skb] } q
  /-- The frame is put into the ring. -/
  | accepted {sta_priv : Option ℕ} {skb : SkBuff} {H vif_priv : ℕ} {bd : TxBd} {mac : MacConf}
      {es : List Effect} {phy : BitVec 32} {kick : Effect} :
      skb.ptr ∉ s.submitted.map SkBuff.ptr → (skb.wantsStatus = true → s.wcn.tx_ack_skb = none) →
      HeadAt (s.wcn.txCh skb.isLow) H →
      startTxBd s.wcn.mac sta_priv skb = some (bd, vif_priv, mac, es) →
      (q skb.isLow).length ≠ p.desc_num skb.isLow / 2 →
      kick.handsBack = none → kick.reads = none → kick.leavesQueues = true →
      TxStep p s q (.tx sta_priv skb)
        { s with
          wcn := ((filledWcn s.wcn skb (bdAddr (p.pool skb.isLow) (p.desc_num skb.isLow) H) bd mac
            es).setTxCh skb.isLow (acceptCh ((s.wcn.txCh skb.isLow).writeBd
              (bdAddr (p.pool skb.isLow) (p.desc_num skb.isLow) H) bd.sentBytes) H phy skb)).emit
            [.dmaMap skb, kick]
          submitted := s.submitted ++ [skb]
          accepted := s.accepted ++ [skb]
          built := Function.update s.built skb.isLow (Function.update (s.built skb.isLow)
            ((s.wcn.txCh skb.isLow).blk H) (some bd.sentBytes)) }
        (Function.update q skb.isLow (q skb.isLow ++ [skb]))
  /-- The DMA engine completes a descriptor. -/
  | dma {is_low : Bool} :
      TxStep p s q (.dma is_low)
        { s with
          wcn := dmaComplete s.wcn is_low (s.cursor is_low)
          cursor := Function.update s.cursor is_low
            ((s.cursor is_low + 1) % (s.wcn.txCh is_low).desc_num) } q
  /-- The oldest frames are reaped. -/
  | reap {is_low : Bool} {ch : DxeCh} {fs : List (BitVec 32 × SkBuff)} {m : ℕ} :
      fs.map Prod.snd = (q is_low).take m →
      ch = { s.wcn.txCh is_low with ctl := ch.ctl, tail_blk_ctl := ch.tail_blk_ctl } →
      TxStep p s q (.reap is_low) { s with wcn := reapedWcn s.wcn is_low ch fs }
        (Function.update q is_low ((q is_low).drop m))
  /-- The frame that waits for its status gets it. -/
  | ackInd {status : BitVec 32} :
      TxStep p s q (.ackInd status) { s with wcn := dxeTxAckInd s.wcn status } q
  /-- The configuration changes. -/
  | config {mac : MacConf} :
      TxStep p s q (.config mac) { s with wcn := { s.wcn with mac := mac } } q

section Step

variable {p : TxParams} {s s' : TxWorld} {q : Bool → List SkBuff} (hq : TxHoldsAll p s q)
include hq

/-- A step that changes one channel, and what the frames in it are then. -/
theorem TxHoldsAll.update {is_low : Bool} {ch : DxeCh} {fs : List SkBuff} {T D H cursor : ℕ}
    (hch : s'.wcn.txCh is_low = ch) (hcur : s'.cursor is_low = cursor)
    (hne : ∀ b, b ≠ is_low → s'.wcn.txCh b = s.wcn.txCh b ∧ s'.cursor b = s.cursor b)
    (h : TxHolds p is_low ch cursor T D H fs) : TxHoldsAll p s' (Function.update q is_low fs) := by
  intro b
  rcases eq_or_ne b is_low with rfl | hb
  · rw [Function.update_self, hch, hcur]
    exact ⟨T, D, H, h⟩
  · rw [Function.update_of_ne hb, (hne b hb).1, (hne b hb).2]
    exact hq b

/-- A call of `wcn36xx_tx` is one of the three `TxStep`s. -/
theorem txStep_cases_tx {sta_priv : Option ℕ} {skb : SkBuff}
    (hstep : (txSystem p).step s (.tx sta_priv skb) = some s') :
    ∃ q', TxStep p s q (.tx sta_priv skb) s' q' ∧ TxHoldsAll p s' q' := by
  obtain ⟨T, D, H, h⟩ := hq skb.isLow
  have hhead : HeadAt (s.wcn.txCh skb.isLow) H := ⟨h.ring.head, h.ring.head_even⟩
  simp only [txSystem, Option.ite_none_left_eq_some] at hstep
  obtain ⟨hfresh, hstep⟩ := hstep
  simp only [tx, Option.bind_eq_bind, Option.bind_eq_some_iff] at hstep
  obtain ⟨⟨wcn, ret⟩, ⟨⟨wcn₁, ret₁⟩, hrun, htx⟩, hstep⟩ := hstep
  -- The channel that the frame does not use.
  have hother : ∀ w : Wcn, (∀ b, b ≠ skb.isLow → w.txCh b = s.wcn.txCh b) → ∀ b, b ≠ skb.isLow →
      w.txCh b = s.wcn.txCh b ∧ s.cursor b = s.cursor b := fun w hw b hb => ⟨hw b hb, rfl⟩
  have hsame : Function.update q skb.isLow (q skb.isLow) = q := Function.update_eq_self _ _
  rcases h.startTx_cases hrun with ⟨rfl, hw, hack, rfl⟩ | ⟨hack, bd, vif_priv, mac, es, hbuilt,
      ⟨hfull, rfl, rfl⟩ | ⟨hroom, rfl, phy, kick, rfl, hback, hreads, hleaves⟩⟩
  · rw [if_pos (by decide : (-EINVAL : ℤ) ≠ 0)] at htx
    simp only [Option.pure_def, Option.some.injEq, Prod.mk.injEq] at htx
    obtain ⟨rfl, rfl⟩ := htx
    rw [if_neg (by decide : ¬(-EINVAL : ℤ) = 0)] at hstep
    simp only [Option.pure_def, Option.some.injEq] at hstep
    subst hstep
    refine ⟨q, .refused hfresh hw hack hhead, ?_⟩
    rw [← hsame]
    refine hq.update (Wcn.txCh_setTxCh _ _ _) rfl
      (hother _ fun b hb => Wcn.txCh_setTxCh_ne _ hb _) (h.writeBd _ _)
  · rw [if_pos (by decide : (-EBUSY : ℤ) ≠ 0)] at htx
    simp only [Option.pure_def, Option.some.injEq, Prod.mk.injEq] at htx
    obtain ⟨rfl, rfl⟩ := htx
    rw [if_neg (by decide : ¬(-EBUSY : ℤ) = 0)] at hstep
    simp only [Option.pure_def, Option.some.injEq, Wcn.emit_emit] at hstep
    subst hstep
    refine ⟨q, .busy hfresh hack hhead hbuilt hfull, ?_⟩
    rw [← hsame]
    exact hq.update (txCh_filledWcn s.wcn skb _ bd mac es) rfl
      (hother _ fun b hb => txCh_filledWcn_ne hb _ bd mac es) (h.writeBd _ _)
  · rw [if_neg (by decide : ¬(0 : ℤ) ≠ 0)] at htx
    simp only [Option.pure_def, Option.some.injEq, Prod.mk.injEq] at htx
    obtain ⟨rfl, rfl⟩ := htx
    rw [if_pos rfl] at hstep
    simp only [Option.pure_def, Option.some.injEq] at hstep
    subst hstep
    have hnote : noteBuilt s sta_priv skb = Function.update s.built skb.isLow
        (Function.update (s.built skb.isLow) ((s.wcn.txCh skb.isLow).blk H)
          (some bd.sentBytes)) := by
      simp only [noteBuilt, hhead.1, hbuilt]
    rw [hnote]
    refine ⟨_, .accepted hfresh hack hhead hbuilt hroom hback hreads hleaves, ?_⟩
    refine hq.update (Wcn.txCh_setTxCh _ _ _) rfl (hother _ fun b hb => ?_)
      ((h.writeBd _ _).accept hroom phy skb)
    rw [Wcn.emit_txCh, Wcn.txCh_setTxCh_ne _ hb, txCh_filledWcn_ne hb]

/-- Every step is one of the `TxStep`s, and the channels hold the frames that it says. -/
theorem txStep_cases {e : TxEvent} (hstep : (txSystem p).step s e = some s') :
    ∃ q', TxStep p s q e s' q' ∧ TxHoldsAll p s' q' := by
  cases e with
  | tx sta_priv skb => exact txStep_cases_tx hq hstep
  | dma is_low =>
    obtain ⟨T, D, H, h⟩ := hq is_low
    simp only [txSystem, h.valid_cursor, decide_eq_true_eq, Option.ite_none_right_eq_some,
      Option.some.injEq] at hstep
    obtain ⟨hlt, rfl⟩ := hstep
    refine ⟨q, .dma, ?_⟩
    rw [← Function.update_eq_self is_low q]
    refine hq.update (Wcn.txCh_setTxCh _ _ _) (Function.update_self _ _ _) (fun b hb => ?_)
      (h.complete hlt)
    exact ⟨Wcn.txCh_setTxCh_ne _ hb _, Function.update_of_ne hb _ _⟩
  | reap is_low =>
    obtain ⟨T, D, H, h⟩ := hq is_low
    obtain ⟨ch, fs, hrun, hring, htail, htake, hch⟩ := reapTxDxes_spec h.ring h.tail
    simp only [txSystem, hrun, Option.bind_eq_bind, Option.bind_some, Option.pure_def,
      Option.some.injEq] at hstep
    subst hstep
    have hnum : ch.desc_num = (s.wcn.txCh is_low).desc_num := by rw [hch]
    refine ⟨_, .reap htake hch, ?_⟩
    refine hq.update (txCh_reapedWcn _ _ _ _) rfl (fun b hb => ⟨?_, rfl⟩)
      { ring := hring, tail := htail, desc_num := hnum.trans h.desc_num
        cursor_eq := by rw [hnum]; exact h.cursor_eq }
    exact Wcn.txCh_setTxCh_ne s.wcn hb ch
  | ackInd status =>
    simp only [txSystem, Option.some.injEq] at hstep
    subst hstep
    refine ⟨q, .ackInd, fun b => ?_⟩
    rw [dxeTxAckInd_txCh]
    exact hq b
  | config mac =>
    simp only [txSystem, Option.some.injEq] at hstep
    subst hstep
    exact ⟨q, .config, hq⟩

end Step

/-- Initially both channels are empty. -/
theorem txSystem_init_holds {p : TxParams} {s : TxWorld} (h : (txSystem p).init s) :
    TxHoldsAll p s fun _ => [] := by
  intro is_low
  obtain ⟨hsetup, -, -, hcur, -⟩ := h
  obtain ⟨ch, hch, hn, hring, htail⟩ := txChSetup_ring is_low (p.two_le is_low) (p.even is_low)
    (p.coherent is_low) (show 0 < (p.pool is_low).virt_addr from p.virt_pos is_low)
  have heq : ch = s.wcn.txCh is_low := Option.some.inj (hch.symm.trans (hsetup is_low))
  subst heq
  exact ⟨0, 0, 0, hring, htail, hn, by rw [hcur, Nat.zero_mod]⟩

/-- The invariant rule of a transmitting driver: an invariant of the state and the frames in the
rings that holds at first and is preserved by every `TxStep` whose event meets `P` holds in every
state of every run whose events meet `P`. -/
theorem txSystem_invariant {p : TxParams} {P : TxWorld → TxEvent → Prop}
    {I : TxWorld → (Bool → List SkBuff) → Prop}
    (hinit : ∀ s, (txSystem p).init s → I s fun _ => [])
    (hstep : ∀ s q e s' q', TxHoldsAll p s q → I s q → P s e → TxStep p s q e s' q' →
      TxHoldsAll p s' q' → I s' q') {s : TxWorld} (h : (txSystem p).ReachableWhen P s) :
    ∃ q, TxHoldsAll p s q ∧ I s q := by
  refine h.invariant (I := fun s => ∃ q, TxHoldsAll p s q ∧ I s q) ?_ ?_
  · intro s hs
    exact ⟨_, txSystem_init_holds hs, hinit s hs⟩
  · rintro s e s' ⟨q, hq, hI⟩ hP he
    obtain ⟨q', hTx, hq'⟩ := txStep_cases hq he
    exact ⟨q', hq', hstep s q e s' q' hq hI hP hTx hq'⟩

/-! ## Runs on given frames -/

/-- The driver after the set-up of both TX channels, with a given configuration. -/
def txStart (p : TxParams) (mac : MacConf) : Option TxWorld := do
  let l ← txChSetup true (p.desc_num true) (p.coherent true) (p.pool true)
  let h ← txChSetup false (p.desc_num false) (p.coherent false) (p.pool false)
  return { wcn := { dxe_tx_l_ch := l, dxe_tx_h_ch := h, mac := mac } }

/-- The state after the set-up is an initial state. -/
theorem txStart_init {p : TxParams} {mac : MacConf} {s : TxWorld} (h : txStart p mac = some s) :
    (txSystem p).init s := by
  simp only [txStart, Option.bind_eq_bind, Option.bind_eq_some_iff, Option.pure_def,
    Option.some.injEq] at h
  obtain ⟨l, hl, h, hh, rfl⟩ := h
  refine ⟨fun is_low => ?_, rfl, rfl, rfl, rfl, rfl, rfl⟩
  cases is_low
  · exact hh
  · exact hl

/-- A replay from the state after the set-up that ends in a state with a property shows that the
property is reachable. -/
theorem txStart_reachable {p : TxParams} (mac : MacConf) (es : List TxEvent) {P : TxWorld → Bool}
    (h : ((txStart p mac).bind fun s => (txSystem p).runFrom s es).any P = true) :
    ∃ s, (txSystem p).Reachable s ∧ P s = true := by
  obtain ⟨s, hrun, hP⟩ := (Option.any_eq_true _ _).mp h
  obtain ⟨s₀, hs₀, hrun⟩ := Option.bind_eq_some_iff.mp hrun
  exact ⟨s, System.Reachable.runFrom (.init (txStart_init hs₀)) hrun, hP⟩

/-- The same for runs under a condition. -/
theorem txStart_reachableWhen {p : TxParams} (mac : MacConf) (es : List TxEvent)
    {C : TxWorld → TxEvent → Prop} [∀ s e, Decidable (C s e)] {P : TxWorld → Bool}
    (h : ((txStart p mac).bind fun s => (txSystem p).runWhen C s es).any P = true) :
    ∃ s, (txSystem p).ReachableWhen C s ∧ P s = true := by
  obtain ⟨s, hrun, hP⟩ := (Option.any_eq_true _ _).mp h
  obtain ⟨s₀, hs₀, hrun⟩ := Option.bind_eq_some_iff.mp hrun
  exact ⟨s, System.ReachableWhen.runWhen (.init (txStart_init hs₀)) hrun, hP⟩

/-- One station interface with address `02:00:00:00:00:01`. -/
def oneStation : MacConf where
  vif_list := [1]
  vif vif_priv := if vif_priv = 1 then some { type := .STATION, addr := [2, 0, 0, 0, 0, 1] } else none

/-- An authentication frame of that interface: `len` bytes at address `ptr`, with or without a
request for its TX status. -/
def authFrame (ptr len : ℕ) (status : Bool) : SkBuff where
  ptr := ptr
  data := [0xb0, 0, 0, 0, 2, 0, 0, 0, 0, 9, 2, 0, 0, 0, 0, 1] ++ List.replicate (len - 16) 0
  dma := BitVec.ofNat 32 (0x1000 * ptr)
  flags := if status then IEEE80211_TX_CTL_REQ_TX_STATUS else 0
  queue_mapping := 0

end Wcn36xx
