import Wcn36xx.Txrx.BdIntegrity

/-!
# Concurrent transmitters

mac80211 may call `wcn36xx_tx` for several queues at once, and the driver holds no lock over a whole call
of `wcn36xx_start_tx`. Here a call is two steps: `fill` takes the BD of `head_blk_ctl` and fills
it, `commit` runs `wcn36xx_dxe_tx_frame`. Any number of calls may be between their steps, next to the
device, the reaper and the indication worker; a BD is only taken from a channel that is not full.

Every accepted frame has a BD block and an skb block of its own in all these runs
(`FramesPlaced`). That the BD block holds the BD built for the frame (`BdsBuilt`) needs a channel on
which no two calls overlap.
-/

namespace Wcn36xx

open Support (System)

/-- A call of `wcn36xx_start_tx` between its two steps: the frame, its interface, and the BD that was
built for it. -/
structure TxCall where
  skb : SkBuff
  vif_priv : ℕ
  bytes : List Byte

/-- An accepted frame that has not been reaped: where `wcn36xx_dxe_tx_frame` put it, and the BD that its
call built. -/
structure Enqueued where
  skb : SkBuff
  /-- The BD block, `head_blk_ctl` when the frame was accepted. -/
  blk : ℕ
  /-- The skb block after it. -/
  slot : ℕ
  bytes : List Byte

/-- The driver with calls of `wcn36xx_start_tx` under way. -/
structure ConcWorld where
  wcn : Wcn
  /-- The descriptor that each channel's DMA engine is at. -/
  cursor : Bool → ℕ := fun _ => 0
  /-- The calls on each channel that have filled a BD. -/
  pending : Bool → List TxCall := fun _ => []
  /-- The accepted frames of each channel that have not been reaped. -/
  inFlight : Bool → List Enqueued := fun _ => []

/-- The steps of a driver with concurrent transmitters. -/
inductive ConcEvent where
  /-- A call of `wcn36xx_start_tx` takes its BD and fills it. -/
  | fill (sta_priv : Option ℕ) (skb : SkBuff)
  /-- The `i`-th call under way on a channel runs `wcn36xx_dxe_tx_frame`. -/
  | commit (is_low : Bool) (i : ℕ)
  /-- The DMA engine completes a descriptor. -/
  | dma (is_low : Bool)
  /-- The TX interrupt runs `reap_tx_dxes`. -/
  | reap (is_low : Bool)
  /-- The indication worker runs `wcn36xx_dxe_tx_ack_ind`. -/
  | ackInd (status : BitVec 32)
  /-- mac80211 changes interfaces, stations or the channel. -/
  | config (mac : MacConf)

/-- A control block that referred to a frame, and no longer does. -/
def cleared (ch ch' : DxeCh) (blk : ℕ) : Bool := (ch.skbAt blk).isSome && (ch'.skbAt blk).isNone

/-- The transition system of a driver with concurrent transmitters. -/
def concSystem (p : TxParams) : System ConcWorld ConcEvent where
  init s :=
    (∀ is_low, txChSetup is_low (p.desc_num is_low) (p.coherent is_low) (p.pool is_low) =
      some (s.wcn.txCh is_low)) ∧
    s.wcn.tx_ack_skb = none ∧ s.cursor = (fun _ => 0) ∧ s.pending = (fun _ => []) ∧
    s.inFlight = fun _ => []
  step s
    | .fill sta_priv skb =>
      if (s.wcn.txCh skb.isLow).full then none
      else do
        let (wcn, r) ← startTxFill s.wcn sta_priv skb
        match r with
        | .inl _ => return { s with wcn := wcn.emit [.freeTxskb skb] }
        | .inr vif_priv =>
          let (bd, _) ← startTxBd s.wcn.mac sta_priv skb
          return { s with
            wcn := wcn
            pending := Function.update s.pending skb.isLow
              (s.pending skb.isLow ++ [⟨skb, vif_priv, bd.sentBytes⟩]) }
    | .commit is_low i => do
      let call ← (s.pending is_low)[i]?
      let blk ← (s.wcn.txCh is_low).head_blk_ctl
      let slot ← (← (s.wcn.txCh is_low).nextOf blk)
      let (wcn, ret) ← dxeTxFrame s.wcn (s.wcn.mac.vif call.vif_priv) call.skb is_low
      let pending := Function.update s.pending is_low ((s.pending is_low).eraseIdx i)
      if ret = 0 then
        return { s with
          wcn := wcn, pending := pending
          inFlight := Function.update s.inFlight is_low
            (s.inFlight is_low ++ [⟨call.skb, blk, slot, call.bytes⟩]) }
      else return { s with wcn := wcn.emit [.freeTxskb call.skb], pending := pending }
    | .dma is_low =>
      if ((s.wcn.txCh is_low).dxe (s.cursor is_low)).valid then
        some { s with
          wcn := dmaComplete s.wcn is_low (s.cursor is_low)
          cursor := Function.update s.cursor is_low
            ((s.cursor is_low + 1) % (s.wcn.txCh is_low).desc_num) }
      else none
    | .reap is_low => do
      let wcn ← reapTxDxes s.wcn is_low
      return { s with
        wcn := wcn
        inFlight := Function.update s.inFlight is_low ((s.inFlight is_low).filter fun e =>
          !cleared (s.wcn.txCh is_low) (wcn.txCh is_low) e.slot) }
    | .ackInd status => some { s with wcn := dxeTxAckInd s.wcn status }
    | .config mac => some { s with wcn := { s.wcn with mac := mac } }

/-- Every accepted frame is in the block that it was put into, and no two of them share a block. -/
def FramesPlaced (s : ConcWorld) : Prop :=
  ∀ is_low, (∀ e ∈ s.inFlight is_low, (s.wcn.txCh is_low).skbAt e.slot = some e.skb) ∧
    (s.inFlight is_low).Pairwise fun e e' => e.blk ≠ e'.blk ∧ e.slot ≠ e'.slot

/-- As long as the device has not read the BD of an accepted frame, it is the one that was built for
that frame. -/
def BdsBuilt (s : ConcWorld) : Prop :=
  ∀ is_low, ∀ e ∈ s.inFlight is_low, (s.wcn.txCh is_low).validAt e.blk = some true →
    ∃ c, (s.wcn.txCh is_low).ctl e.blk = some c ∧
      (s.wcn.txCh is_low).readBd c.bd_cpu_addr = e.bytes

/-- A call takes its BD only when no other call on the channel is between its two steps. -/
def Alone (s : ConcWorld) : ConcEvent → Prop
  | .fill _ skb => (s.pending skb.isLow).length = 0
  | _ => True

instance : ∀ s e, Decidable (Alone s e)
  | s, .fill _ skb => inferInstanceAs (Decidable ((s.pending skb.isLow).length = 0))
  | _, .commit _ _ | _, .dma _ | _, .reap _ | _, .ackInd _ | _, .config _ => isTrue trivial

/-! ## Where the frames are -/

/-- The channel holds the frames in flight, and each is in the two blocks of its position. -/
structure ChPlaced (p : TxParams) (is_low : Bool) (ch : DxeCh) (cursor T D H : ℕ)
    (es : List Enqueued) : Prop where
  holds : TxHolds p is_low ch cursor T D H (es.map Enqueued.skb)
  pos : ∀ i e, es[i]? = some e →
    e.blk = ch.blk (2 * (T / 2) + 2 * i) ∧ e.slot = ch.blk (2 * (T / 2) + 2 * i + 1)

/-- In a ring that is not full the descriptor at the head is not VALID. -/
theorem TxHolds.slotValid_head {p : TxParams} {is_low : Bool} {ch : DxeCh} {cursor T D H : ℕ}
    {q : List SkBuff} (h : TxHolds p is_low ch cursor T D H q)
    (hroom : q.length ≠ p.desc_num is_low / 2) : ch.slotValid H = false := by
  have hfull := h.ring.full_iff
  rw [h.desc_num] at hfull
  have hle : H < T + ch.desc_num := by
    have := h.desc_num
    omega
  rw [h.ring.valid H (h.ring.tail_le.trans h.ring.dev_le) hle]
  exact decide_eq_false (by omega)

namespace ChPlaced

variable {p : TxParams} {is_low : Bool} {ch : DxeCh} {cursor T D H : ℕ} {es : List Enqueued}
  (h : ChPlaced p is_low ch cursor T D H es)
include h

/-- A frame in flight is between the tail and the head. -/
theorem lt_head {i : ℕ} (hi : i < es.length) :
    2 * (T / 2) + 2 * i + 1 < H ∧ 2 * (T / 2) + 2 * i + 1 < T + ch.desc_num := by
  have hlen := h.holds.ring.length
  have hle := h.holds.ring.length_le
  have heven := h.holds.ring.ready.even
  rw [List.length_map] at hlen hle
  omega

/-- A frame in flight is in its block. -/
theorem skbAt {e : Enqueued} (he : e ∈ es) : ch.skbAt e.slot = some e.skb := by
  obtain ⟨i, hi, hget⟩ := List.getElem_of_mem he
  have hget : es[i]? = some e := List.getElem?_eq_some_iff.mpr ⟨hi, hget⟩
  obtain ⟨hH, hn⟩ := h.lt_head hi
  have hslot : ch.slotSkb (2 * (T / 2) + 2 * i + 1) = some e.skb := by
    rw [h.holds.ring.skb _ (by omega) hn, if_pos (by omega),
      show (2 * (T / 2) + 2 * i + 1) / 2 - T / 2 = i by omega, List.getElem?_map, hget,
      Option.map_some]
  rw [(h.pos i e hget).2]
  exact hslot

/-- Two frames in flight have different blocks. -/
theorem pairwise : es.Pairwise fun e e' => e.blk ≠ e'.blk ∧ e.slot ≠ e'.slot := by
  rw [List.pairwise_iff_getElem]
  intro i j hi hj hij
  obtain ⟨-, hn⟩ := h.lt_head hj
  obtain ⟨hblk, hslot⟩ := h.pos i es[i] (List.getElem?_eq_getElem hi)
  obtain ⟨hblk', hslot'⟩ := h.pos j es[j] (List.getElem?_eq_getElem hj)
  rw [hblk, hblk', hslot, hslot']
  exact ⟨ch.blk_ne (by omega) (by omega), ch.blk_ne (by omega) (by omega)⟩

/-- The next frame goes to the head. -/
theorem head_eq : 2 * (T / 2) + 2 * es.length = H := by
  have hlen := h.holds.ring.length
  have hH := h.holds.ring.head_even
  have hTD := h.holds.ring.tail_le
  have hDH := h.holds.ring.dev_le
  rw [List.length_map] at hlen
  omega

/-- Only bytes of BDs change. -/
theorem writeBd (addr : ℕ) (bytes : List Byte) :
    ChPlaced p is_low (ch.writeBd addr bytes) cursor T D H es :=
  ⟨h.holds.writeBd addr bytes, h.pos⟩

/-- The DMA engine completes a descriptor. -/
theorem complete (hlt : D < H) :
    ChPlaced p is_low (ch.modDesc cursor DxeDesc.clearValid) ((cursor + 1) % ch.desc_num) T (D + 1)
      H es :=
  ⟨h.holds.complete hlt, h.pos⟩

/-- A frame is put at the head. -/
theorem accept (hroom : es.length ≠ p.desc_num is_low / 2) (phy : BitVec 32) (skb : SkBuff)
    (bytes : List Byte) :
    ChPlaced p is_low (acceptCh ch H phy skb) cursor T D (H + 2)
      (es ++ [⟨skb, ch.blk H, ch.blk (H + 1), bytes⟩]) where
  holds := by
    rw [List.map_append]
    exact h.holds.accept (by rw [List.length_map]; exact hroom) phy skb
  pos i e hget := by
    rw [acceptCh_blk, acceptCh_blk]
    rcases Nat.lt_or_ge i es.length with hi | hi
    · rw [List.getElem?_append_left hi] at hget
      exact h.pos i e hget
    · rw [List.getElem?_append_right hi, List.getElem?_singleton] at hget
      split_ifs at hget with hzero
      obtain rfl : i = es.length := by omega
      rw [h.head_eq]
      cases hget
      exact ⟨rfl, rfl⟩

/-- The reaper takes the oldest frames, and exactly these are no longer in their blocks. -/
theorem reap {ch' : DxeCh}
    (hring : TxRing (p.pool is_low) ch' D D H ((es.map Enqueued.skb).drop (D / 2 - T / 2)))
    (htail : ch'.tail_blk_ctl = some (ch'.blk D)) (hn : ch'.desc_num = ch.desc_num) :
    ChPlaced p is_low ch' cursor D D H (es.filter fun e => !cleared ch ch' e.slot) := by
  have hblk : ∀ k, ch'.blk k = ch.blk k := fun k => by rw [DxeCh.blk, DxeCh.blk, hn]
  have hTD := h.holds.ring.tail_le
  have hDH := h.holds.ring.dev_le
  have hlen := h.holds.ring.length
  rw [List.length_map] at hlen
  rw [← List.map_drop] at hring
  have hdrop : ChPlaced p is_low ch' cursor D D H (es.drop (D / 2 - T / 2)) := by
    refine ⟨⟨hring, htail, hn.trans h.holds.desc_num, by rw [hn]; exact h.holds.cursor_eq⟩, ?_⟩
    intro i e hget
    rw [List.getElem?_drop] at hget
    obtain ⟨hb, hs⟩ := h.pos _ e hget
    rw [hb, hs, hblk, hblk,
      show 2 * (T / 2) + 2 * (D / 2 - T / 2 + i) = 2 * (D / 2) + 2 * i by omega]
    exact ⟨rfl, rfl⟩
  have hfilter : (es.filter fun e => !cleared ch ch' e.slot) = es.drop (D / 2 - T / 2) := by
    conv_lhs => rw [← List.take_append_drop (D / 2 - T / 2) es]
    rw [List.filter_append, List.filter_eq_nil_iff.mpr ?_, List.filter_eq_self.mpr ?_,
      List.nil_append]
    · intro e he
      rw [cleared, hdrop.skbAt he, Option.isNone_some, Bool.and_false, Bool.not_false]
    · intro e he
      obtain ⟨i, hi, hget⟩ := List.getElem_of_mem he
      rw [List.length_take] at hi
      have hget : es[i]? = some e := by
        rw [← hget, List.getElem_take, List.getElem?_eq_getElem (by omega)]
      obtain ⟨hH, hlt⟩ := h.lt_head (i := i) (by omega)
      -- The block lies behind the tail, so a lap later it is beyond the head.
      have hnone : ch'.skbAt e.slot = none := by
        have hle := h.holds.ring.head_le
        have hslot : ch'.slotSkb (2 * (T / 2) + 2 * i + 1 + ch'.desc_num) = none := by
          rw [hring.skb _ (by omega) (by omega), if_neg (by omega)]
        rw [DxeCh.slotSkb_add] at hslot
        rw [(h.pos i e hget).2, ← hblk]
        exact hslot
      rw [cleared, h.skbAt (List.mem_of_mem_take he), hnone, Option.isSome_some, Option.isNone_none]
      decide
  rw [hfilter]
  exact hdrop

end ChPlaced

/-- The frames of both channels are in their blocks. -/
def ConcPlaced (p : TxParams) (s : ConcWorld) : Prop :=
  ∀ is_low, ∃ T D H,
    ChPlaced p is_low (s.wcn.txCh is_low) (s.cursor is_low) T D H (s.inFlight is_low)

/-- That is what the claim on blocks needs. -/
theorem ConcPlaced.framesPlaced {p : TxParams} {s : ConcWorld} (h : ConcPlaced p s) :
    FramesPlaced s := by
  intro is_low
  obtain ⟨T, D, H, hb⟩ := h is_low
  exact ⟨fun e he => hb.skbAt he, hb.pairwise⟩

/-! ## What a step can do -/

/-- The steps of a driver with concurrent transmitters in closed form. -/
inductive ConcStep (p : TxParams) (s : ConcWorld) : ConcEvent → ConcWorld → Prop
  /-- Another frame waits for its status. -/
  | refused {sta_priv : Option ℕ} {skb : SkBuff} {H : ℕ} :
      HeadAt (s.wcn.txCh skb.isLow) H → (s.wcn.txCh skb.isLow).slotValid H = false →
      ConcStep p s (.fill sta_priv skb)
        { s with
          wcn := (s.wcn.writeBd skb.isLow (bdAddr (p.pool skb.isLow) (p.desc_num skb.isLow) H)
            (startTxBdInit skb).bytes).emit [.freeTxskb skb] }
  /-- The BD is filled. -/
  | filled {sta_priv : Option ℕ} {skb : SkBuff} {H vif_priv : ℕ} {bd : TxBd} {mac : MacConf}
      {es : List Effect} :
      HeadAt (s.wcn.txCh skb.isLow) H → (s.wcn.txCh skb.isLow).slotValid H = false →
      ConcStep p s (.fill sta_priv skb)
        { s with
          wcn := filledWcn s.wcn skb (bdAddr (p.pool skb.isLow) (p.desc_num skb.isLow) H) bd mac es
          pending := Function.update s.pending skb.isLow
            (s.pending skb.isLow ++ [⟨skb, vif_priv, bd.sentBytes⟩]) }
  /-- The ring is full. -/
  | busy {is_low : Bool} {i : ℕ} {call : TxCall} :
      (s.pending is_low)[i]? = some call →
      ConcStep p s (.commit is_low i)
        { s with
          wcn := { s.wcn with queues_stopped := true }.emit [.stopQueues, .freeTxskb call.skb]
          pending := Function.update s.pending is_low ((s.pending is_low).eraseIdx i) }
  /-- The frame is put into the ring. -/
  | accepted {is_low : Bool} {i H : ℕ} {call : TxCall} {phy : BitVec 32} {kick : Effect} :
      (s.pending is_low)[i]? = some call → HeadAt (s.wcn.txCh is_low) H →
      ConcStep p s (.commit is_low i)
        { s with
          wcn := (s.wcn.setTxCh is_low (acceptCh (s.wcn.txCh is_low) H phy call.skb)).emit
            [.dmaMap call.skb, kick]
          pending := Function.update s.pending is_low ((s.pending is_low).eraseIdx i)
          inFlight := Function.update s.inFlight is_low (s.inFlight is_low ++
            [⟨call.skb, (s.wcn.txCh is_low).blk H, (s.wcn.txCh is_low).blk (H + 1),
              call.bytes⟩]) }
  /-- The DMA engine completes a descriptor. -/
  | dma {is_low : Bool} :
      ConcStep p s (.dma is_low)
        { s with
          wcn := dmaComplete s.wcn is_low (s.cursor is_low)
          cursor := Function.update s.cursor is_low
            ((s.cursor is_low + 1) % (s.wcn.txCh is_low).desc_num) }
  /-- The oldest frames are reaped. -/
  | reap {is_low : Bool} {ch : DxeCh} {fs : List (BitVec 32 × SkBuff)} :
      ch = { s.wcn.txCh is_low with ctl := ch.ctl, tail_blk_ctl := ch.tail_blk_ctl } →
      ConcStep p s (.reap is_low)
        { s with
          wcn := reapedWcn s.wcn is_low ch fs
          inFlight := Function.update s.inFlight is_low ((s.inFlight is_low).filter fun e =>
            !cleared (s.wcn.txCh is_low) ch e.slot) }
  /-- The frame that waits for its status gets it. -/
  | ackInd {status : BitVec 32} :
      ConcStep p s (.ackInd status) { s with wcn := dxeTxAckInd s.wcn status }
  /-- The configuration changes. -/
  | config {mac : MacConf} :
      ConcStep p s (.config mac) { s with wcn := { s.wcn with mac := mac } }

section Step

variable {p : TxParams} {s s' : ConcWorld} (h : ConcPlaced p s)
include h

/-- A step that changes one channel. -/
theorem ConcPlaced.update {is_low : Bool} {ch : DxeCh} {es : List Enqueued} {T D H cursor : ℕ}
    (hch : s'.wcn.txCh is_low = ch) (hcur : s'.cursor is_low = cursor)
    (hes : s'.inFlight is_low = es)
    (hne : ∀ b, b ≠ is_low → s'.wcn.txCh b = s.wcn.txCh b ∧ s'.cursor b = s.cursor b ∧
      s'.inFlight b = s.inFlight b)
    (hnew : ChPlaced p is_low ch cursor T D H es) : ConcPlaced p s' := by
  intro b
  rcases eq_or_ne b is_low with rfl | hb
  · rw [hch, hcur, hes]
    exact ⟨T, D, H, hnew⟩
  · obtain ⟨h₁, h₂, h₃⟩ := hne b hb
    rw [h₁, h₂, h₃]
    exact h b

/-- The first step of a call. -/
theorem concStep_cases_fill {sta_priv : Option ℕ} {skb : SkBuff}
    (hstep : (concSystem p).step s (.fill sta_priv skb) = some s') :
    ConcStep p s (.fill sta_priv skb) s' ∧ ConcPlaced p s' := by
  obtain ⟨T, D, H, hb⟩ := h skb.isLow
  have hhead : HeadAt (s.wcn.txCh skb.isLow) H := ⟨hb.holds.ring.head, hb.holds.ring.head_even⟩
  simp only [concSystem, Option.ite_none_left_eq_some] at hstep
  obtain ⟨hroom, hstep⟩ := hstep
  rw [hb.holds.full_eq, decide_eq_true_eq] at hroom
  have hfree := hb.holds.slotValid_head hroom
  have hbd := hb.holds.dxeGetNextBd rfl
  have hpos := hb.holds.bdAddr_pos
  rw [hb.holds.desc_num] at hbd hpos
  simp only [Option.bind_eq_bind, Option.bind_eq_some_iff] at hstep
  obtain ⟨⟨wcn, r⟩, hfill, hstep⟩ := hstep
  rcases startTxFill_cases hbd hpos hfill with ⟨rfl, -, -, rfl⟩ |
      ⟨-, bd, vif_priv, mac, es, hbuilt, rfl, rfl⟩
  · simp only [Option.pure_def, Option.some.injEq] at hstep
    subst hstep
    refine ⟨.refused hhead hfree, ?_⟩
    exact h.update (Wcn.txCh_setTxCh _ _ _) rfl rfl
      (fun b hne => ⟨Wcn.txCh_setTxCh_ne _ hne _, rfl, rfl⟩) (hb.writeBd _ _)
  · simp only [hbuilt, Option.bind_some, Option.pure_def, Option.some.injEq] at hstep
    subst hstep
    refine ⟨.filled hhead hfree, ?_⟩
    exact h.update (txCh_filledWcn s.wcn skb _ bd mac es) rfl rfl
      (fun b hne => ⟨txCh_filledWcn_ne hne _ bd mac es, rfl, rfl⟩) (hb.writeBd _ _)

/-- The second step of a call. -/
theorem concStep_cases_commit {is_low : Bool} {i : ℕ}
    (hstep : (concSystem p).step s (.commit is_low i) = some s') :
    ConcStep p s (.commit is_low i) s' ∧ ConcPlaced p s' := by
  obtain ⟨T, D, H, hb⟩ := h is_low
  simp only [concSystem, hb.holds.ring.head, hb.holds.ring.ready.ring.nextOf, Option.bind_eq_bind,
    Option.bind_some, Option.bind_eq_some_iff] at hstep
  obtain ⟨call, hcall, ⟨wcn, ret⟩, hrun, hstep⟩ := hstep
  rcases hb.holds.dxeTxFrame_cases hrun with ⟨-, rfl, rfl⟩ | ⟨hroom, rfl, phy, kick, rfl, -⟩
  · rw [if_neg (by decide : ¬(-EBUSY : ℤ) = 0)] at hstep
    simp only [Option.pure_def, Option.some.injEq, Wcn.emit_emit] at hstep
    subst hstep
    exact ⟨.busy hcall, h⟩
  · rw [if_pos rfl] at hstep
    simp only [Option.pure_def, Option.some.injEq] at hstep
    subst hstep
    refine ⟨.accepted hcall ⟨hb.holds.ring.head, hb.holds.ring.head_even⟩, ?_⟩
    rw [List.length_map] at hroom
    refine h.update (Wcn.txCh_setTxCh _ _ _) rfl (Function.update_self _ _ _)
      (fun b hne => ⟨?_, rfl, Function.update_of_ne hne _ _⟩) (hb.accept hroom phy call.skb _)
    rw [Wcn.emit_txCh, Wcn.txCh_setTxCh_ne _ hne]

/-- Every step is one of the `ConcStep`s, and keeps the frames in their blocks. -/
theorem concStep_cases {e : ConcEvent} (hstep : (concSystem p).step s e = some s') :
    ConcStep p s e s' ∧ ConcPlaced p s' := by
  cases e with
  | fill sta_priv skb => exact concStep_cases_fill h hstep
  | commit is_low i => exact concStep_cases_commit h hstep
  | dma is_low =>
    obtain ⟨T, D, H, hb⟩ := h is_low
    simp only [concSystem, hb.holds.valid_cursor, decide_eq_true_eq, Option.ite_none_right_eq_some,
      Option.some.injEq] at hstep
    obtain ⟨hlt, rfl⟩ := hstep
    refine ⟨.dma, ?_⟩
    exact h.update (Wcn.txCh_setTxCh _ _ _) (Function.update_self _ _ _) rfl
      (fun b hne => ⟨Wcn.txCh_setTxCh_ne _ hne _, Function.update_of_ne hne _ _, rfl⟩)
      (hb.complete hlt)
  | reap is_low =>
    obtain ⟨T, D, H, hb⟩ := h is_low
    obtain ⟨ch, fs, hrun, hring, htail, -, hch⟩ := reapTxDxes_spec hb.holds.ring hb.holds.tail
    simp only [concSystem, hrun, Option.bind_eq_bind, Option.bind_some, Option.pure_def,
      Option.some.injEq, txCh_reapedWcn] at hstep
    subst hstep
    have hnum : ch.desc_num = (s.wcn.txCh is_low).desc_num := by rw [hch]
    refine ⟨.reap hch, ?_⟩
    exact h.update (txCh_reapedWcn _ _ _ _) rfl (Function.update_self _ _ _)
      (fun b hne => ⟨Wcn.txCh_setTxCh_ne s.wcn hne ch, rfl, Function.update_of_ne hne _ _⟩)
      (hb.reap hring htail hnum)
  | ackInd status =>
    simp only [concSystem, Option.some.injEq] at hstep
    subst hstep
    refine ⟨.ackInd, fun b => ?_⟩
    rw [dxeTxAckInd_txCh]
    exact h b
  | config mac =>
    simp only [concSystem, Option.some.injEq] at hstep
    subst hstep
    exact ⟨.config, h⟩

end Step

/-- Initially no frame is in flight. -/
theorem concSystem_init_placed {p : TxParams} {s : ConcWorld} (h : (concSystem p).init s) :
    ConcPlaced p s := by
  intro is_low
  obtain ⟨hsetup, -, hcur, -, hes⟩ := h
  obtain ⟨ch, hch, hn, hring, htail⟩ := txChSetup_ring is_low (p.two_le is_low) (p.even is_low)
    (p.coherent is_low) (show 0 < (p.pool is_low).virt_addr from p.virt_pos is_low)
  have heq : ch = s.wcn.txCh is_low := Option.some.inj (hch.symm.trans (hsetup is_low))
  subst heq
  refine ⟨0, 0, 0, ⟨?_, fun i e he => ?_⟩⟩
  · rw [hes]
    exact ⟨hring, htail, hn, by rw [hcur, Nat.zero_mod]⟩
  · rw [hes] at he
    cases he

/-! ## The BDs of calls that do not overlap -/

/-- Storing the bytes that are there already changes nothing. -/
theorem DxeCh.writeBd_readBd (ch : DxeCh) (addr : ℕ) : ch.writeBd addr (ch.readBd addr) = ch := by
  have hbd : (ch.writeBd addr (ch.readBd addr)).bd = ch.bd := by
    funext a
    simp only [DxeCh.writeBd]
    split_ifs with hle
    · rcases Nat.lt_or_ge (a - addr) TxBd.size with hlt | hge
      · simp only [DxeCh.readBd, List.getElem?_map, List.getElem?_range hlt, Option.map_some,
          Option.getD_some, Nat.add_sub_cancel' hle]
      · have hlen : (ch.readBd addr).length ≤ a - addr := by
          rw [DxeCh.readBd, List.length_map, List.length_range]
          exact hge
        rw [List.getElem?_eq_none hlen, Option.getD_none]
    · rfl
  have heta : ch.writeBd addr (ch.readBd addr) =
      { ch with bd := (ch.writeBd addr (ch.readBd addr)).bd } := rfl
  rw [heta, hbd]

/-- The BD of a block does not depend on the lap. -/
theorem HeadAt.bdAddr_eq {ch : DxeCh} {H H' : ℕ} (h : HeadAt ch H) (h' : HeadAt ch H')
    (pool : DxeMemPool) : bdAddr pool ch.desc_num H = bdAddr pool ch.desc_num H' := by
  have hmod := (ch.blk_eq_iff H H').mp (Option.some.inj (h.1.symm.trans h'.1))
  unfold bdAddr
  rw [hmod]

/-- What holds on a channel when its calls do not overlap: the accepted frames have their BDs, and
the call under way, of which there is at most one, has its BD at the head. -/
structure ChBuilt (p : TxParams) (is_low : Bool) (ch : DxeCh) (calls : List TxCall)
    (es : List Enqueued) : Prop where
  bds : ∃ built, ChBdIntact p is_low ch built ∧ ∀ e ∈ es, built e.blk = some e.bytes
  one : calls.length ≤ 1
  head : ∀ c ∈ calls, c.bytes.length = TxBd.size ∧ ∀ H, HeadAt ch H →
    ch.readBd (bdAddr (p.pool is_low) ch.desc_num H) = c.bytes

section Channel

variable {p : TxParams} {is_low : Bool} {ch : DxeCh} {calls : List TxCall} {es : List Enqueued}
  (h : ChBuilt p is_low ch calls es)
include h

/-- A step that makes no descriptor VALID, stores no BD and leaves the head. -/
theorem ChBuilt.mono {ch' : DxeCh} {es' : List Enqueued} (hn : ch'.desc_num = ch.desc_num)
    (hbd : ch'.bd = ch.bd) (hhead : ch'.head_blk_ctl = ch.head_blk_ctl)
    (hvalid : ∀ k, ch'.slotValid k = true → ch.slotValid k = true) (hes : es' ⊆ es) :
    ChBuilt p is_low ch' calls es' := by
  obtain ⟨built, hintact, hnotes⟩ := h.bds
  refine ⟨⟨built, hintact.mono hn hbd hvalid, fun e he => hnotes e (hes he)⟩, h.one, ?_⟩
  intro c hc
  obtain ⟨hlen, hread⟩ := h.head c hc
  refine ⟨hlen, fun H hH => ?_⟩
  have hH' : HeadAt ch H := by
    refine ⟨?_, hH.2⟩
    rw [← hhead, hH.1, DxeCh.blk, DxeCh.blk, hn]
  rw [hn, ← hread H hH', DxeCh.readBd, DxeCh.readBd, hbd]

variable {H : ℕ} (hready : TxReady (p.pool is_low) ch) (hH : HeadAt ch H)
include hready hH

/-- A BD is stored at the head, and the only call under way is the one that it was built for. -/
theorem ChBuilt.writeBd (hfree : ch.slotValid H = false)
    {bytes : List Byte} (hlen : bytes.length = TxBd.size) {calls' : List TxCall}
    (hone : calls'.length ≤ 1) (hbytes : ∀ c ∈ calls', c.bytes = bytes) :
    ChBuilt p is_low (ch.writeBd (bdAddr (p.pool is_low) ch.desc_num H) bytes) calls' es := by
  obtain ⟨built, hintact, hnotes⟩ := h.bds
  refine ⟨⟨built, hintact.writeBd hready hH.2 hlen hfree, hnotes⟩, hone, fun c hc => ?_⟩
  refine ⟨hbytes c hc ▸ hlen, fun H' hH' => ?_⟩
  have haddr : bdAddr (p.pool is_low) ch.desc_num H' = bdAddr (p.pool is_low) ch.desc_num H :=
    @HeadAt.bdAddr_eq ch H' H hH' hH (p.pool is_low)
  rw [hbytes c hc]
  exact haddr ▸ ch.readBd_writeBd_self _ hlen

/-- The frame of the call under way is put at the head. -/
theorem ChBuilt.accept {c : TxCall} {i : ℕ} (hc : calls[i]? = some c) (phy : BitVec 32)
    (hne : ∀ e ∈ es, e.blk ≠ ch.blk H) :
    ChBuilt p is_low (acceptCh ch H phy c.skb) (calls.eraseIdx i)
      (es ++ [⟨c.skb, ch.blk H, ch.blk (H + 1), c.bytes⟩]) := by
  obtain ⟨built, hintact, hnotes⟩ := h.bds
  obtain ⟨hlen, hread⟩ := h.head c (List.mem_of_getElem? hc)
  have hlast : calls.eraseIdx i = [] := by
    have hi := (List.getElem?_eq_some_iff.mp hc).1
    have hone := h.one
    rw [← List.length_eq_zero_iff, List.length_eraseIdx_of_lt hi]
    omega
  rw [hlast]
  refine ⟨⟨Function.update built (ch.blk H) (some c.bytes), ?_, fun e he => ?_⟩, Nat.zero_le _,
    fun c hc => absurd hc List.not_mem_nil⟩
  · have hstored : ch.writeBd (bdAddr (p.pool is_low) ch.desc_num H) c.bytes = ch := by
      rw [← hread H hH]
      exact ch.writeBd_readBd _
    have hacc := hintact.accept hready hH.2 hlen phy c.skb
    rwa [hstored] at hacc
  · rcases List.mem_append.mp he with he | he
    · rw [Function.update_of_ne (hne e he)]
      exact hnotes e he
    · obtain rfl := List.mem_singleton.mp he
      exact Function.update_self _ _ _

end Channel

/-- Every step keeps the BDs when no call takes its BD while another one is under way. -/
theorem chBuilt_step {p : TxParams} {s s' : ConcWorld} {e : ConcEvent} (hp : ConcPlaced p s)
    (h : ∀ b, ChBuilt p b (s.wcn.txCh b) (s.pending b) (s.inFlight b)) (hP : Alone s e)
    (hstep : ConcStep p s e s') (hp' : ConcPlaced p s') :
    ∀ b, ChBuilt p b (s'.wcn.txCh b) (s'.pending b) (s'.inFlight b) := by
  have hready : ∀ b, TxReady (p.pool b) (s.wcn.txCh b) := fun b => by
    obtain ⟨T, D, H, hb⟩ := hp b
    exact hb.holds.ring.ready
  have hnum : ∀ b, p.desc_num b = (s.wcn.txCh b).desc_num := fun b => by
    obtain ⟨T, D, H, hb⟩ := hp b
    exact hb.holds.desc_num.symm
  intro b
  cases hstep with
  | @refused sta_priv skb H hhead hfree =>
    rcases eq_or_ne b skb.isLow with rfl | hb
    · dsimp only
      rw [Wcn.emit_txCh, Wcn.writeBd, Wcn.txCh_setTxCh, hnum]
      have hnone : (s.pending skb.isLow).length = 0 := hP
      refine (h skb.isLow).writeBd (hready _) hhead hfree (TxBd.length_bytes _) (by omega) ?_
      rw [List.length_eq_zero_iff.mp hnone]
      exact fun c hc => absurd hc List.not_mem_nil
    · dsimp only
      rw [Wcn.emit_txCh, Wcn.writeBd, Wcn.txCh_setTxCh_ne _ hb]
      exact h b
  | @filled sta_priv skb H vif_priv bd mac es hhead hfree =>
    rcases eq_or_ne b skb.isLow with rfl | hb
    · dsimp only
      have hnone : (s.pending skb.isLow).length = 0 := hP
      rw [txCh_filledWcn, Function.update_self, hnum, List.length_eq_zero_iff.mp hnone,
        List.nil_append]
      refine (h skb.isLow).writeBd (hready _) hhead hfree (TxBd.length_sentBytes _) ?_ ?_
      · rw [List.length_singleton]
      · intro c hc
        rw [List.mem_singleton.mp hc]
    · dsimp only
      rw [txCh_filledWcn_ne hb, Function.update_of_ne hb]
      exact h b
  | @busy is_low i call hcall =>
    dsimp only
    rcases eq_or_ne b is_low with rfl | hb
    · rw [Function.update_self]
      have hlen := (h b).one
      refine ⟨(h b).bds, ?_, fun c hc => (h b).head c (List.mem_of_mem_eraseIdx hc)⟩
      exact (List.length_eraseIdx_le _ _).trans hlen
    · rw [Function.update_of_ne hb]
      exact h b
  | @accepted is_low i H call phy kick hcall hhead =>
    rcases eq_or_ne b is_low with rfl | hb
    · have hfresh := (hp'.framesPlaced b).2
      dsimp only at hfresh ⊢
      rw [Function.update_self, List.pairwise_append] at hfresh
      rw [Wcn.emit_txCh, Wcn.txCh_setTxCh, Function.update_self, Function.update_self]
      exact (h b).accept (hready b) hhead hcall phy fun e he =>
        (hfresh.2.2 e he _ (List.mem_singleton_self _)).1
    · dsimp only
      rw [Wcn.emit_txCh, Wcn.txCh_setTxCh_ne _ hb, Function.update_of_ne hb,
        Function.update_of_ne hb]
      exact h b
  | @dma is_low =>
    dsimp only
    rw [dmaComplete]
    rcases eq_or_ne b is_low with rfl | hb
    · rw [Wcn.txCh_setTxCh]
      refine (h b).mono rfl rfl rfl (fun k hv => ?_) (List.Subset.refl _)
      simp only [DxeCh.slotValid, DxeCh.modDesc] at hv ⊢
      rcases eq_or_ne (k % (s.wcn.txCh b).desc_num) (s.cursor b) with heq | hne
      · rw [heq, Function.update_self, DxeDesc.valid_clearValid] at hv
        exact absurd hv Bool.false_ne_true
      · rwa [Function.update_of_ne hne] at hv
    · rw [Wcn.txCh_setTxCh_ne _ hb]
      exact h b
  | @reap is_low ch fs hch =>
    dsimp only
    rcases eq_or_ne b is_low with rfl | hb
    · rw [txCh_reapedWcn, Function.update_self]
      have hn : ch.desc_num = (s.wcn.txCh b).desc_num := by rw [hch]
      have hdxe : ch.dxe = (s.wcn.txCh b).dxe := by rw [hch]
      refine (h b).mono hn (by rw [hch]) (by rw [hch]) (fun k hv => ?_)
        fun e he => (List.mem_filter.mp he).1
      rwa [DxeCh.slotValid, hdxe, hn] at hv
    · rw [Function.update_of_ne hb, reapedWcn]
      have hother := Wcn.txCh_setTxCh_ne s.wcn hb ch
      exact hother ▸ h b
  | ackInd =>
    dsimp only
    rw [dxeTxAckInd_txCh]
    exact h b
  | config => exact h b

/-- In every run each accepted frame is in the blocks that it was put into and shares neither with
another frame; and in every run in which no call takes its BD while another call on the channel is
between its two steps, its BD is the one that was built for it. -/
theorem concurrentTx_sound (p : TxParams) :
    (∀ s, (concSystem p).Reachable s → FramesPlaced s) ∧
    ∀ s, (concSystem p).ReachableWhen Alone s → BdsBuilt s := by
  have hplaced : ∀ s, (concSystem p).Reachable s → ConcPlaced p s := fun s hs =>
    hs.invariant (fun s hs => concSystem_init_placed hs)
      (fun s e s' hI he => (concStep_cases hI he).2)
  refine ⟨fun s hs => (hplaced s hs).framesPlaced, fun s hs => ?_⟩
  have hI : ConcPlaced p s ∧ ∀ b, ChBuilt p b (s.wcn.txCh b) (s.pending b) (s.inFlight b) := by
    refine hs.invariant (I := fun s => ConcPlaced p s ∧
      ∀ b, ChBuilt p b (s.wcn.txCh b) (s.pending b) (s.inFlight b)) ?_ ?_
    · intro s hs
      refine ⟨concSystem_init_placed hs, fun b => ?_⟩
      obtain ⟨-, -, -, hpend, hes⟩ := hs
      rw [hpend, hes]
      exact ⟨⟨fun _ => none, nofun, nofun⟩, Nat.zero_le _, nofun⟩
    · rintro s e s' ⟨hp, hb⟩ hP he
      obtain ⟨hcases, hp'⟩ := concStep_cases hp he
      exact ⟨hp', chBuilt_step hp hb hP hcases hp'⟩
  intro b e he hv
  obtain ⟨T, D, H, hb⟩ := hI.1 b
  obtain ⟨built, hintact, hnotes⟩ := (hI.2 b).bds
  obtain ⟨k, hblk, -, hread⟩ := hintact e.blk e.bytes (hnotes e he)
  rw [hblk] at hv ⊢
  obtain ⟨c, hc, -, -, hbd⟩ := hb.holds.ring.ready.ctl k
  rw [hb.holds.ring.ready.ring.validAt, Option.some.injEq] at hv
  exact ⟨c, hc, by rw [hbd]; exact hread hv⟩

/-- The driver after the set-up, with no call under way. -/
def concStart (p : TxParams) (mac : MacConf) : Option ConcWorld :=
  (txStart p mac).map fun s => { wcn := s.wcn }

/-- The state after the set-up is an initial state. -/
theorem concStart_init {p : TxParams} {mac : MacConf} {s : ConcWorld}
    (h : concStart p mac = some s) : (concSystem p).init s := by
  obtain ⟨s₀, hs₀, rfl⟩ := Option.map_eq_some_iff.mp h
  obtain ⟨hsetup, hack, -⟩ := txStart_init hs₀
  exact ⟨hsetup, hack, rfl, rfl, rfl⟩

/-- The BD of a frame in flight that the device has not read is not the one that was built for it. -/
def bdMixedUp (s : ConcWorld) (is_low : Bool) : Bool :=
  (s.inFlight is_low).any fun e =>
    match (s.wcn.txCh is_low).validAt e.blk, (s.wcn.txCh is_low).ctl e.blk with
    | some true, some c => (s.wcn.txCh is_low).readBd c.bd_cpu_addr != e.bytes
    | _, _ => false

/-- Such a BD refutes `BdsBuilt`. -/
theorem not_bdsBuilt_of_bdMixedUp {s : ConcWorld} {is_low : Bool} (h : bdMixedUp s is_low = true) :
    ¬BdsBuilt s := by
  intro hbuilt
  obtain ⟨e, he, hbad⟩ := List.any_eq_true.mp h
  split at hbad
  · rename_i c hv hc
    obtain ⟨c', hc', hread⟩ := hbuilt is_low e he hv
    rw [hc, Option.some.injEq] at hc'
    rw [← hc'] at hread
    exact bne_iff_ne.mp hbad hread
  · exact absurd hbad Bool.false_ne_true

/-- Two calls on the TX high channel, one after the other. -/
theorem concurrentTx_sound_two_calls :
    ∃ s, (concSystem driverParams).ReachableWhen Alone s ∧ (s.inFlight false).length = 2 ∧
      FramesPlaced s ∧ BdsBuilt s := by
  obtain ⟨s, hrun, hlen⟩ : ∃ s, ((concStart driverParams oneStation).bind fun s =>
      (concSystem driverParams).runWhen Alone s [.fill none (authFrame 1 30 false),
        .commit false 0, .fill none (authFrame 2 40 false), .dma false, .commit false 0]) = some s ∧
      (fun s : ConcWorld => decide ((s.inFlight false).length = 2)) s = true :=
    (Option.any_eq_true _ _).mp (by decide +kernel)
  obtain ⟨s₀, hs₀, hrun⟩ := Option.bind_eq_some_iff.mp hrun
  have hs : (concSystem driverParams).ReachableWhen Alone s :=
    System.ReachableWhen.runWhen (.init (concStart_init hs₀)) hrun
  exact ⟨s, hs, of_decide_eq_true hlen, (concurrentTx_sound driverParams).1 s hs.reachable,
    (concurrentTx_sound driverParams).2 s hs⟩

/-- Two calls on the empty TX high channel fill the same BD: the first frame, of 30 bytes, goes out
with the BD of the second, of 40 bytes. -/
theorem concurrentTx_mixes_up_bds :
    ∃ s, (concSystem driverParams).Reachable s ∧ ¬BdsBuilt s := by
  obtain ⟨s, hrun, hbad⟩ : ∃ s, ((concStart driverParams oneStation).bind fun s =>
      (concSystem driverParams).runFrom s [.fill none (authFrame 1 30 false),
        .fill none (authFrame 2 40 false), .commit false 0]) = some s ∧
      (fun s => bdMixedUp s false) s = true :=
    (Option.any_eq_true _ _).mp (by decide +kernel)
  obtain ⟨s₀, hs₀, hrun⟩ := Option.bind_eq_some_iff.mp hrun
  exact ⟨s, System.Reachable.runFrom (.init (concStart_init hs₀)) hrun,
    not_bdsBuilt_of_bdMixedUp hbad⟩

end Wcn36xx
