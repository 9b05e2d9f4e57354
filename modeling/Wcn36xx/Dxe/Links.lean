import Wcn36xx.Dxe.Rx
import Wcn36xx.Txrx.TxSystem

/-!
# What a running driver leaves alone

Transmitting and receiving change the frames in a ring, its descriptors, and where its head and tail
are. They neither allocate nor free a control block, and they leave the blocks linked as they are:
`Moves` says so of two states of a channel, and every function of the TX and RX paths has a lemma
that its channels move. A ring at any address is then a ring for as long as the driver runs
(`RingAt.moves`).
-/

namespace Wcn36xx

open Support (Cycle walk)

/-- What a control block points to, other than its frame and its BD. -/
def DxeCtl.links (c : DxeCtl) : Option ℕ × Option ℕ := (c.next, c.desc)

/-- Following `next` pointers leads from one pointer to another. -/
inductive DxeCh.Along (ch : DxeCh) : Option ℕ → Option ℕ → Prop
  | refl (p : Option ℕ) : Along ch p p
  | next {p r : Option ℕ} {q : ℕ} : Along ch p (some q) → ch.nextOf q = some r → Along ch p r

/-- A channel after a while of transmitting or receiving. -/
structure DxeCh.Moves (ch ch' : DxeCh) : Prop where
  links : ∀ p, (ch'.ctl p).map DxeCtl.links = (ch.ctl p).map DxeCtl.links
  desc_num : ch'.desc_num = ch.desc_num
  cpu_addr : ch'.cpu_addr = ch.cpu_addr
  fresh : ch'.fresh = ch.fresh
  head : ch.Along ch.head_blk_ctl ch'.head_blk_ctl
  tail : ch.Along ch.tail_blk_ctl ch'.tail_blk_ctl

namespace DxeCh.Along

variable {ch ch' : DxeCh}

/-- One path after the other. -/
theorem trans {p q r : Option ℕ} (h₁ : ch.Along p q) (h₂ : ch.Along q r) : ch.Along p r := by
  induction h₂ with
  | refl => exact h₁
  | next _ hnext ih => exact ih.next hnext

/-- Channels that are linked in the same way have the same paths. -/
theorem congr (hnext : ∀ p, ch'.nextOf p = ch.nextOf p) {p q : Option ℕ} (h : ch'.Along p q) :
    ch.Along p q := by
  induction h with
  | refl => exact .refl _
  | next _ hq ih =>
    rw [hnext] at hq
    exact ih.next hq

end DxeCh.Along

namespace DxeCh.Moves

variable {ch ch' ch'' : DxeCh}

/-- Nothing has happened. -/
theorem refl (ch : DxeCh) : ch.Moves ch := ⟨fun _ => rfl, rfl, rfl, rfl, .refl _, .refl _⟩

/-- The blocks that are allocated and what they point to. -/
theorem ctl (h : ch.Moves ch') {p : ℕ} {c : DxeCtl} (hc : ch.ctl p = some c) :
    ∃ c', ch'.ctl p = some c' ∧ c'.next = c.next ∧ c'.desc = c.desc := by
  have hlinks := h.links p
  rw [hc, Option.map_some] at hlinks
  obtain ⟨c', hc', heq⟩ := Option.map_eq_some_iff.mp hlinks
  unfold DxeCtl.links at heq
  rw [Prod.mk.injEq] at heq
  exact ⟨c', hc', heq.1, heq.2⟩

/-- The blocks stay linked as they are. -/
theorem nextOf (h : ch.Moves ch') (p : ℕ) : ch'.nextOf p = ch.nextOf p := by
  have hfst : ∀ o : Option DxeCtl, o.map DxeCtl.next = (o.map DxeCtl.links).map Prod.fst := by
    intro o
    rw [Option.map_map]
    rfl
  unfold DxeCh.nextOf
  rw [hfst, hfst, h.links]

/-- One while after the other. -/
theorem trans (h₁ : ch.Moves ch') (h₂ : ch'.Moves ch'') : ch.Moves ch'' where
  links p := (h₂.links p).trans (h₁.links p)
  desc_num := h₂.desc_num.trans h₁.desc_num
  cpu_addr := h₂.cpu_addr.trans h₁.cpu_addr
  fresh := h₂.fresh.trans h₁.fresh
  head := h₁.head.trans (h₂.head.congr h₁.nextOf)
  tail := h₁.tail.trans (h₂.tail.congr h₁.nextOf)

/-- A write to a descriptor. -/
theorem modDesc (ch : DxeCh) (i : ℕ) (f : DxeDesc → DxeDesc) : ch.Moves (ch.modDesc i f) :=
  ⟨fun _ => rfl, rfl, rfl, rfl, .refl _, .refl _⟩

/-- A write to the memory of the BDs. -/
theorem writeBd (ch : DxeCh) (addr : ℕ) (bytes : List Byte) : ch.Moves (ch.writeBd addr bytes) :=
  ⟨fun _ => rfl, rfl, rfl, rfl, .refl _, .refl _⟩

/-- A write to a control block that leaves its links. -/
theorem modCtl {p : ℕ} {f : DxeCtl → DxeCtl} (h : ch.modCtl p f = some ch')
    (hf : ∀ c, (f c).links = c.links) : ch.Moves ch' := by
  obtain ⟨c, hc, rfl⟩ := Option.map_eq_some_iff.mp h
  refine ⟨fun q => ?_, rfl, rfl, rfl, .refl _, .refl _⟩
  rcases eq_or_ne q p with rfl | hne
  · simp only [Function.update_self, hc, Option.map_some, hf]
  · simp only [Function.update_of_ne hne]

/-- A write to the frame of a control block. -/
theorem modSkb {p : ℕ} {v : Option SkBuff}
    (h : ch.modCtl p (fun c => { c with skb := v }) = some ch') : ch.Moves ch' :=
  modCtl h fun _ => rfl

end DxeCh.Moves

/-- A walk along a ring whose body moves the channel, and leaves its head where it is, does the
same. -/
theorem walk_moves {σ β : Type} (π : σ → DxeCh) {next : σ → ℕ → Option (Option ℕ)}
    {body : ℕ → ℕ → β → σ → Option (β × σ)}
    (hbody : ∀ i cur b s b' s', body i cur b s = some (b', s') →
      (π s).Moves (π s') ∧ (π s').head_blk_ctl = (π s).head_blk_ctl) (left : ℕ) :
    ∀ {i cur b s b' s'}, walk next body left i cur b s = some (b', s') →
      (π s).Moves (π s') ∧ (π s').head_blk_ctl = (π s).head_blk_ctl := by
  induction left with
  | zero =>
    intro i cur b s b' s' h
    rw [walk, Option.some.injEq, Prod.mk.injEq] at h
    rw [← h.2]
    exact ⟨.refl _, rfl⟩
  | succ left ih =>
    intro i cur b s b' s' h
    simp only [walk, Option.bind_eq_bind, Option.bind_eq_some_iff] at h
    obtain ⟨node, -, ⟨b₁, s₁⟩, hb, cur₁, -, h⟩ := h
    obtain ⟨hmoves, hhead⟩ := hbody _ _ _ _ _ _ hb
    obtain ⟨hrest, hrest'⟩ := ih h
    exact ⟨hmoves.trans hrest, hrest'.trans hhead⟩

/-! ## Transmitting -/

/-- Both TX channels after a while. -/
def Wcn.Moves (wcn wcn' : Wcn) : Prop := ∀ is_low, (wcn.txCh is_low).Moves (wcn'.txCh is_low)

namespace Wcn.Moves

variable {wcn wcn' wcn'' : Wcn}

/-- The channels are the same. -/
theorem of_eq (h : ∀ is_low, wcn'.txCh is_low = wcn.txCh is_low) : wcn.Moves wcn' := fun is_low => by
  rw [h is_low]
  exact .refl _

/-- One while after the other. -/
theorem trans (h₁ : wcn.Moves wcn') (h₂ : wcn'.Moves wcn'') : wcn.Moves wcn'' := fun is_low =>
  (h₁ is_low).trans (h₂ is_low)

/-- One channel is written back. -/
theorem setTxCh {is_low : Bool} {ch : DxeCh} (h : (wcn.txCh is_low).Moves ch) :
    wcn.Moves (wcn.setTxCh is_low ch) := by
  intro is_low'
  rcases eq_or_ne is_low' is_low with rfl | hne
  · rw [Wcn.txCh_setTxCh]
    exact h
  · rw [Wcn.txCh_setTxCh_ne wcn hne]
    exact .refl _

end Wcn.Moves

/-- The end of `wcn36xx_dxe_tx_frame` touches no channel. -/
theorem dxeTxKick_moves {wcn wcn' : Wcn} {vif_priv : Option WcnVif} {is_low : Bool} {ch : DxeCh}
    (h : dxeTxKick wcn vif_priv is_low ch = some wcn') : wcn.Moves wcn' := by
  obtain ⟨kick, rfl, -⟩ := dxeTxKick_cases h
  exact .of_eq fun _ => rfl

/-- `wcn36xx_dxe_tx_frame`: the head moves on by two blocks at most. -/
theorem dxeTxFrame_moves {wcn wcn' : Wcn} {vif_priv : Option WcnVif} {skb : SkBuff} {is_low : Bool}
    {ret : ℤ} (h : dxeTxFrame wcn vif_priv skb is_low = some (wcn', ret)) : wcn.Moves wcn' := by
  unfold dxeTxFrame at h
  simp only [Option.bind_eq_bind, Option.bind_eq_some_iff, Option.pure_def] at h
  obtain ⟨ctl, hhead, c, hc, next, hnext, n, hn, h⟩ := h
  by_cases hfull : n.skb.isSome = true
  · rw [if_pos hfull, Option.some.injEq, Prod.mk.injEq] at h
    rw [← h.1]
    exact .of_eq fun _ => rfl
  · simp only [if_neg hfull, Option.bind_eq_some_iff] at h
    obtain ⟨ch₁, hch₁, i, -, ch₂, hch₂, h⟩ := h
    have hmoves : (wcn.txCh is_low).Moves ch₂ :=
      ((DxeCh.Moves.modSkb hch₁).trans (.modDesc _ _ _)).trans (.modSkb hch₂)
    by_cases hbd : n.bd_cpu_addr ≠ 0
    · rw [if_pos hbd, Option.some.injEq, Prod.mk.injEq] at h
      rw [← h.1]
      exact .setTxCh hmoves
    · simp only [if_neg hbd, Option.bind_eq_some_iff, Option.some.injEq, Prod.mk.injEq] at h
      obtain ⟨j, -, wcn₁, hkick, rfl, -⟩ := h
      -- From the head to the block after it, and on to the block after that.
      have hstep₁ : (wcn.txCh is_low).nextOf ctl = some (some next) := by
        rw [DxeCh.nextOf, hc, Option.map_some, hnext]
      have hstep₂ : (wcn.txCh is_low).nextOf next = some n.next := by
        rw [DxeCh.nextOf, hn, Option.map_some]
      have halong : (wcn.txCh is_low).Along (wcn.txCh is_low).head_blk_ctl n.next := by
        rw [hhead]
        exact ((DxeCh.Along.refl _).next hstep₁).next hstep₂
      have hch : (wcn.txCh is_low).Moves { ch₂.modDesc j fun d => { d with
          src_addr_l := skb.dma, dst_addr_l := ch₂.dxe_wq
          fr_len := BitVec.ofNat 32 skb.len, ctrl := ch₂.ctrl_skb } with
          head_blk_ctl := n.next } :=
        ⟨hmoves.links, hmoves.desc_num, hmoves.cpu_addr, hmoves.fresh, halong, hmoves.tail⟩
      intro is_low'
      exact (Wcn.Moves.setTxCh hch is_low').trans (dxeTxKick_moves hkick is_low')

/-- `wcn36xx_start_tx` fills a BD. -/
theorem startTxFill_moves {wcn wcn' : Wcn} {sta_priv : Option ℕ} {skb : SkBuff} {r : ℤ ⊕ ℕ}
    (h : startTxFill wcn sta_priv skb = some (wcn', r)) : wcn.Moves wcn' := by
  unfold startTxFill at h
  simp only [Option.bind_eq_bind, Option.bind_eq_some_iff, Option.pure_def] at h
  obtain ⟨addr, -, h⟩ := h
  have hwrite : ∀ (w : Wcn) bytes, w.Moves (w.writeBd skb.isLow addr bytes) := fun w bytes =>
    .setTxCh (.writeBd _ _ _)
  split_ifs at h with hnull hack hstatus
  · rw [Option.some.injEq, Prod.mk.injEq] at h
    rw [← h.1]
    exact .of_eq fun _ => rfl
  · rw [Option.some.injEq, Prod.mk.injEq] at h
    rw [← h.1]
    exact hwrite _ _
  all_goals
    simp only [Option.bind_eq_some_iff, Option.some.injEq, Prod.mk.injEq] at h
    obtain ⟨⟨bd, vif_priv, mac, es⟩, -, rfl, -⟩ := h
    refine .trans (.of_eq fun b => ?_) (hwrite _ bd.sentBytes)
    rfl

/-- `wcn36xx_dxe_init_tx_bd` writes to the BDs of the blocks. -/
theorem dxeInitTxBd_moves {pool : DxeMemPool} {ch ch' : DxeCh} (h : dxeInitTxBd pool ch = some ch') :
    ch.Moves ch' ∧ ch'.head_blk_ctl = ch.head_blk_ctl := by
  unfold dxeInitTxBd at h
  simp only [Option.bind_eq_bind, Option.bind_eq_some_iff, Option.some.injEq, Option.pure_def] at h
  obtain ⟨⟨_, t⟩, hwalk, rfl⟩ := h
  refine walk_moves id (fun i cur bd s bd' s' hb => ?_) _ hwalk
  have hmod : ∀ phy cpu s', s.modCtl cur (fun c =>
      { c with bd_phy_addr := phy, bd_cpu_addr := cpu }) = some s' →
      s.Moves s' ∧ s'.head_blk_ctl = s.head_blk_ctl := by
    intro phy cpu s' hs'
    refine ⟨.modCtl hs' fun _ => rfl, ?_⟩
    obtain ⟨c, -, rfl⟩ := Option.map_eq_some_iff.mp hs'
    rfl
  unfold dxeInitTxBdBody at hb
  split_ifs at hb
  all_goals
    simp only [Option.bind_eq_bind, Option.bind_eq_some_iff, Option.some.injEq, Prod.mk.injEq,
      Option.pure_def] at hb
    obtain ⟨s₁, hs₁, -, rfl⟩ := hb
    exact hmod _ _ _ hs₁

/-- `wcn36xx_tx`. -/
theorem tx_moves {wcn wcn' : Wcn} {sta_priv : Option ℕ} {skb : SkBuff} {ret : ℤ}
    (h : tx wcn sta_priv skb = some (wcn', ret)) : wcn.Moves wcn' := by
  have hstart : ∀ {w : Wcn} {ret}, startTx wcn sta_priv skb = some (w, ret) → wcn.Moves w := by
    intro w ret hw
    unfold startTx at hw
    simp only [Option.bind_eq_bind, Option.bind_eq_some_iff, Option.pure_def] at hw
    obtain ⟨⟨w₁, r⟩, hfill, hw⟩ := hw
    cases r with
    | inl ret =>
      rw [Option.some.injEq, Prod.mk.injEq] at hw
      rw [← hw.1]
      exact startTxFill_moves hfill
    | inr vif => exact (startTxFill_moves hfill).trans (dxeTxFrame_moves hw)
  unfold tx at h
  simp only [Option.bind_eq_bind, Option.bind_eq_some_iff, Option.pure_def] at h
  obtain ⟨⟨w, r⟩, hw, h⟩ := h
  split_ifs at h
  all_goals
    rw [Option.some.injEq, Prod.mk.injEq] at h
    rw [← h.1]
  · exact (hstart hw).trans (.of_eq fun _ => rfl)
  · exact hstart hw

/-- What `reap_tx_dxes` does with a frame. -/
theorem reapSkb_moves {wcn wcn' : Wcn} {is_low : Bool} {ctl : ℕ}
    (h : reapSkb wcn is_low ctl = some wcn') : wcn.Moves wcn' := by
  unfold reapSkb at h
  simp only [Option.bind_eq_bind, Option.bind_eq_some_iff, Option.pure_def] at h
  obtain ⟨c, -, h⟩ := h
  cases hskb : c.skb with
  | none =>
    simp only [hskb, Option.some.injEq] at h
    rw [h]
    exact .of_eq fun _ => rfl
  | some skb =>
    simp only [hskb, Option.bind_eq_some_iff, Option.some.injEq] at h
    obtain ⟨i, -, ch, hch, rfl⟩ := h
    have hsame : ∀ w : Wcn, w.Moves (if w.queues_stopped then
        { w with queues_stopped := false }.emit [.wakeQueues] else w) := fun w =>
      .of_eq fun _ => by split_ifs <;> rfl
    have hfreed : wcn.Moves (if skb.wantsStatus then
        wcn.emit [.dmaUnmap ((wcn.txCh is_low).dxe i).src_addr_l skb, .txInfo skb]
      else (wcn.emit [.dmaUnmap ((wcn.txCh is_low).dxe i).src_addr_l skb, .txInfo skb]).emit
        [.freeTxskb skb]) :=
      .of_eq fun _ => by split_ifs <;> rfl
    have hwoken := hfreed.trans (hsame _)
    have hsaved : wcn.Moves (wcn.setTxCh is_low ch) := .setTxCh (.modSkb hch)
    intro is_low'
    rcases eq_or_ne is_low' is_low with rfl | hne
    · have h := hsaved is_low'
      rw [Wcn.txCh_setTxCh] at h ⊢
      exact h
    · rw [Wcn.txCh_setTxCh_ne _ hne]
      exact hwoken is_low'

/-- The loop of `reap_tx_dxes`. -/
theorem reapTxDxesLoop_moves {is_low : Bool} (fuel : ℕ) : ∀ {wcn wcn' : Wcn} {ctl ctl' : ℕ},
    reapTxDxesLoop is_low fuel ctl wcn = some (ctl', wcn') →
    wcn.Moves wcn' ∧ (wcn.txCh is_low).Along (some ctl) (some ctl') := by
  induction fuel with
  | zero =>
    intro wcn wcn' ctl ctl' h
    cases h
  | succ fuel ih =>
    intro wcn wcn' ctl ctl' h
    simp only [reapTxDxesLoop, Option.bind_eq_bind, Option.bind_eq_some_iff, Option.pure_def] at h
    obtain ⟨valid, -, h⟩ := h
    have hstay : some (ctl, wcn) = some (ctl', wcn') →
        wcn.Moves wcn' ∧ (wcn.txCh is_low).Along (some ctl) (some ctl') := by
      intro heq
      rw [Option.some.injEq, Prod.mk.injEq] at heq
      rw [← heq.1, ← heq.2]
      exact ⟨.of_eq fun _ => rfl, .refl _⟩
    split_ifs at h with hvalid
    · exact hstay h
    · simp only [Option.bind_eq_some_iff] at h
      obtain ⟨w, hw, next, hnext, ctl₁, rfl, h⟩ := h
      have hmoves := reapSkb_moves hw
      have halong : (wcn.txCh is_low).Along (some ctl) (some ctl₁) := by
        refine (DxeCh.Along.refl _).next ?_
        rw [← (hmoves is_low).nextOf, hnext]
      have hstop : some (ctl₁, w) = some (ctl', wcn') →
          wcn.Moves wcn' ∧ (wcn.txCh is_low).Along (some ctl) (some ctl') := by
        intro heq
        rw [Option.some.injEq, Prod.mk.injEq] at heq
        rw [← heq.1, ← heq.2]
        exact ⟨hmoves, halong⟩
      split_ifs at h with hhead
      · exact hstop h
      · simp only [Option.bind_eq_some_iff] at h
        obtain ⟨valid₁, -, h⟩ := h
        split_ifs at h with hvalid₁
        · exact hstop h
        · obtain ⟨hrest, hrest'⟩ := ih h
          exact ⟨hmoves.trans hrest, halong.trans (hrest'.congr (hmoves is_low).nextOf)⟩

/-- `reap_tx_dxes`: the tail moves on. -/
theorem reapTxDxes_moves {wcn wcn' : Wcn} {is_low : Bool}
    (h : reapTxDxes wcn is_low = some wcn') : wcn.Moves wcn' := by
  unfold reapTxDxes at h
  simp only [Option.bind_eq_bind, Option.bind_eq_some_iff, Option.some.injEq, Option.pure_def] at h
  obtain ⟨ctl, htail, ⟨ctl', w⟩, hloop, rfl⟩ := h
  obtain ⟨hmoves, halong⟩ := reapTxDxesLoop_moves _ hloop
  have h := hmoves is_low
  intro is_low'
  rcases eq_or_ne is_low' is_low with rfl | hne
  · rw [Wcn.txCh_setTxCh]
    exact ⟨h.links, h.desc_num, h.cpu_addr, h.fresh, h.head, htail ▸ halong⟩
  · rw [Wcn.txCh_setTxCh_ne w hne]
    exact hmoves is_low'

/-- `wcn36xx_dxe_tx_ack_ind` touches no channel. -/
theorem dxeTxAckInd_moves (wcn : Wcn) (status : BitVec 32) : wcn.Moves (dxeTxAckInd wcn status) := by
  refine .of_eq fun is_low => ?_
  unfold dxeTxAckInd
  split
  · rfl
  · split_ifs <;> rfl

/-- `wcn36xx_dxe_deinit` touches no TX channel. -/
theorem dxeDeinitTx_moves (wcn : Wcn) : wcn.Moves (dxeDeinitTx wcn) := by
  refine .of_eq fun is_low => ?_
  unfold dxeDeinitTx
  split <;> rfl

/-- The channels of a transmitting driver. -/
theorem txStep_moves {p : TxParams} {s s' : TxWorld} {e : TxEvent}
    (h : (txSystem p).step s e = some s') : s.wcn.Moves s'.wcn := by
  cases e with
  | tx sta_priv skb =>
    simp only [txSystem, Option.bind_eq_bind, Option.pure_def] at h
    split_ifs at h with hsubmitted
    obtain ⟨⟨wcn, ret⟩, htx, h⟩ := Option.bind_eq_some_iff.mp h
    have hmoves := tx_moves htx
    split_ifs at h
    all_goals
      rw [Option.some.injEq] at h
      rw [← h]
      exact hmoves
  | dma is_low =>
    simp only [txSystem] at h
    split_ifs at h
    rw [Option.some.injEq] at h
    rw [← h]
    exact .setTxCh (.modDesc _ _ _)
  | reap is_low =>
    simp only [txSystem, Option.bind_eq_bind, Option.bind_eq_some_iff, Option.some.injEq,
      Option.pure_def] at h
    obtain ⟨wcn, hreap, rfl⟩ := h
    exact reapTxDxes_moves hreap
  | ackInd status =>
    simp only [txSystem, Option.some.injEq] at h
    rw [← h]
    exact dxeTxAckInd_moves _ _
  | config mac =>
    simp only [txSystem, Option.some.injEq] at h
    rw [← h]
    exact .of_eq fun _ => rfl

/-! ## Receiving -/

/-- `wcn36xx_dxe_fill_skb`. -/
theorem dxeFillSkb_moves {s s' : RxState} {ctl : ℕ} {ret : ℤ}
    (h : dxeFillSkb s ctl = some (s', ret)) :
    s.ch.Moves s'.ch ∧ s'.ch.head_blk_ctl = s.ch.head_blk_ctl := by
  unfold dxeFillSkb at h
  simp only [Option.bind_eq_bind, Option.bind_eq_some_iff, Option.pure_def] at h
  obtain ⟨c, -, h⟩ := h
  split at h
  · cases h
  · rw [Option.some.injEq, Prod.mk.injEq] at h
    rw [← h.1]
    exact ⟨.refl _, rfl⟩
  · simp only [Option.bind_eq_some_iff, Option.some.injEq, Prod.mk.injEq] at h
    obtain ⟨dxe, -, ch, hch, rfl, -⟩ := h
    have hhead : ch.head_blk_ctl = s.ch.head_blk_ctl := by
      obtain ⟨_, -, rfl⟩ := Option.map_eq_some_iff.mp hch
      rfl
    exact ⟨(DxeCh.Moves.modDesc _ _ _).trans (.modSkb hch), hhead⟩

/-- The `switch` of `wcn36xx_rx_handle_packets`. -/
theorem rxRearm_moves (s : RxState) (dxe : ℕ) : s.ch.Moves (rxRearm s dxe).ch := by
  have hmod : ∀ ctrl, s.ch.Moves (s.ch.modDesc dxe fun d => { d with ctrl := ctrl }) := fun ctrl =>
    .modDesc _ _ _
  unfold rxRearm
  split
  · exact hmod _
  · exact hmod _
  · exact .refl _
  · exact .refl _

/-- The body of the loop of `wcn36xx_rx_handle_packets`. -/
theorem rxHandlePacket_moves {s s' : RxState} {ctl : ℕ} (h : rxHandlePacket s ctl = some s') :
    s.ch.Moves s'.ch := by
  unfold rxHandlePacket at h
  simp only [Option.bind_eq_bind, Option.bind_eq_some_iff] at h
  obtain ⟨c, -, dxe, -, ⟨t, ret⟩, hfill, h⟩ := h
  obtain ⟨skb, -, rfl⟩ := Option.map_eq_some_iff.mp h
  exact (dxeFillSkb_moves hfill).1.trans (rxRearm_moves t dxe)

/-- The loop of `wcn36xx_rx_handle_packets`. -/
theorem rxHandlePacketsLoop_moves (fuel : ℕ) : ∀ {s s' : RxState} {ctl ctl' : ℕ},
    rxHandlePacketsLoop fuel ctl s = some (ctl', s') →
    s.ch.Moves s'.ch ∧ s.ch.Along (some ctl) (some ctl') := by
  induction fuel with
  | zero =>
    intro s s' ctl ctl' h
    cases h
  | succ fuel ih =>
    intro s s' ctl ctl' h
    simp only [rxHandlePacketsLoop, Option.bind_eq_bind, Option.bind_eq_some_iff,
      Option.pure_def] at h
    obtain ⟨valid, -, h⟩ := h
    split_ifs at h with hvalid
    · rw [Option.some.injEq, Prod.mk.injEq] at h
      rw [← h.1, ← h.2]
      exact ⟨.refl _, .refl _⟩
    · simp only [Option.bind_eq_some_iff] at h
      obtain ⟨t, ht, next, hnext, ctl₁, rfl, h⟩ := h
      have hmoves := rxHandlePacket_moves ht
      have halong : s.ch.Along (some ctl) (some ctl₁) := by
        refine (DxeCh.Along.refl _).next ?_
        rw [← hmoves.nextOf, hnext]
      obtain ⟨hrest, hrest'⟩ := ih h
      exact ⟨hmoves.trans hrest, halong.trans (hrest'.congr hmoves.nextOf)⟩

/-- `wcn36xx_rx_handle_packets`: the head moves on. -/
theorem rxHandlePackets_moves {s s' : RxState} (h : rxHandlePackets s = some s') :
    s.ch.Moves s'.ch := by
  unfold rxHandlePackets at h
  simp only [Option.bind_eq_bind, Option.bind_eq_some_iff, Option.some.injEq, Option.pure_def] at h
  obtain ⟨ctl, hhead, ⟨ctl', t⟩, hloop, rfl⟩ := h
  obtain ⟨hmoves, halong⟩ := rxHandlePacketsLoop_moves _ hloop
  exact ⟨hmoves.links, hmoves.desc_num, hmoves.cpu_addr, hmoves.fresh, hhead ▸ halong, hmoves.tail⟩

/-- `wcn36xx_dxe_ch_alloc_skb`. -/
theorem dxeChAllocSkb_moves {s s' : RxState} (h : dxeChAllocSkb s = some s') :
    s.ch.Moves s'.ch ∧ s'.ch.head_blk_ctl = s.ch.head_blk_ctl := by
  unfold dxeChAllocSkb at h
  simp only [Option.bind_eq_bind, Option.bind_eq_some_iff, Option.some.injEq, Option.pure_def] at h
  obtain ⟨⟨_, t⟩, hwalk, rfl⟩ := h
  refine walk_moves RxState.ch (fun i cur b s b' s' hb => ?_) _ hwalk
  obtain ⟨r, hr, heq⟩ := Option.map_eq_some_iff.mp hb
  rw [Prod.mk.injEq] at heq
  rw [← heq.2]
  exact dxeFillSkb_moves hr

/-- `wcn36xx_dxe_ch_free_skbs`. -/
theorem dxeChFreeSkbs_moves {s s' : RxState} (h : dxeChFreeSkbs s = some s') :
    s.ch.Moves s'.ch := by
  unfold dxeChFreeSkbs at h
  simp only [Option.bind_eq_bind, Option.bind_eq_some_iff, Option.some.injEq, Option.pure_def] at h
  obtain ⟨⟨_, t⟩, hwalk, rfl⟩ := h
  refine (walk_moves RxState.ch (fun i cur b s b' s' hb => ?_) _ hwalk).1
  obtain ⟨c, -, heq⟩ := Option.map_eq_some_iff.mp hb
  rw [Prod.mk.injEq] at heq
  rw [← heq.2]
  exact ⟨.refl _, rfl⟩

end Wcn36xx
