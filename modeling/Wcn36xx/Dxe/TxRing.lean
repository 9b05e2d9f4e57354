import Wcn36xx.Dxe.Ring
import Wcn36xx.Dxe.Setup
import Wcn36xx.Dxe.Tx

/-!
# The segments of a TX ring

A TX ring is described by three positions: `T` for the tail, `D` for the descriptor that the DMA engine is at, and
`H` for the head, with `T ≤ D ≤ H ≤ T + N`. The blocks in `[D, H)` wait for the engine, those in
`[T, D)` wait to be reaped, and the rest of the lap is free. The ring is empty when `H = T` and full
when `H` is `T + N`, or one less when the reaper stopped between the two blocks of a frame.

`TxRing.accept`, `TxRing.complete` and `TxRing.reapOne` are what the three operations do to the
description; `dxeTxFrame_busy`, `dxeTxFrame_accept` and `reapTxDxes_spec` say that the code does it.
-/

namespace Wcn36xx

open Support (Cycle)

/-- The address of the BD of position `k` in a ring of `n` blocks; the skb blocks have none. -/
def bdAddr (pool : DxeMemPool) (n k : ℕ) : ℕ :=
  if k % n % 2 = 0 then pool.virt_addr + pool.chunk_size * (k % n / 2) else 0

/-- What the set-up of a TX channel establishes and no operation changes: the blocks form a ring of
even size, each has its descriptor, and the even ones have a BD. -/
structure TxReady (pool : DxeMemPool) (ch : DxeCh) : Prop where
  two_le : 2 ≤ ch.desc_num
  even : ch.desc_num % 2 = 0
  virt_pos : 0 < pool.virt_addr
  ctrl_bd : ch.ctrl_bd &&& WCN36XX_DXE_CTRL_VALID_MASK ≠ 0
  ctrl_skb : ch.ctrl_skb &&& WCN36XX_DXE_CTRL_VALID_MASK ≠ 0
  ctl : ∀ k, ∃ c, ch.ctl (ch.blk k) = some c ∧ c.next = some (ch.blk (k + 1)) ∧
    c.desc = some (k % ch.desc_num) ∧ c.bd_cpu_addr = bdAddr pool ch.desc_num k

namespace TxReady

variable {pool : DxeMemPool} {ch : DxeCh} (h : TxReady pool ch)
include h

/-- The blocks form a ring. -/
theorem ring : RingReady ch where
  two_le := h.two_le
  ctl k := by
    obtain ⟨c, hc, hnext, hdesc, -⟩ := h.ctl k
    exact ⟨c, hc, hnext, hdesc⟩

/-- The parity of a position does not depend on the lap. -/
theorem mod_two (k : ℕ) : k % ch.desc_num % 2 = k % 2 :=
  Nat.mod_mod_of_dvd k (Nat.dvd_of_mod_eq_zero h.even)

/-- The even positions have a BD and the odd ones have none. -/
theorem bdAddr_pos_iff (k : ℕ) : 0 < bdAddr pool ch.desc_num k ↔ k % 2 = 0 := by
  have hvirt := h.virt_pos
  rw [bdAddr, h.mod_two]
  split_ifs with heven
  · exact ⟨fun _ => heven, fun _ => by omega⟩
  · exact ⟨fun hpos => absurd hpos (Nat.lt_irrefl 0), fun he => absurd he heven⟩

/-- Storing a frame keeps the ring. -/
theorem setSkb (k : ℕ) (v : Option SkBuff) : TxReady pool (ch.setSkb k v) where
  two_le := h.two_le
  even := h.even
  virt_pos := h.virt_pos
  ctrl_bd := h.ctrl_bd
  ctrl_skb := h.ctrl_skb
  ctl j := by
    obtain ⟨c, hc, hnext, hdesc, hbd⟩ := h.ctl j
    have hblk : (ch.setSkb k v).blk = ch.blk := rfl
    rw [hblk]
    by_cases hjk : ch.blk j = ch.blk k
    · refine ⟨{ c with skb := v }, ?_, hnext, hdesc, hbd⟩
      simp only [DxeCh.setSkb, if_pos hjk, hc, Option.map_some]
    · refine ⟨c, ?_, hnext, hdesc, hbd⟩
      simp only [DxeCh.setSkb, if_neg hjk, hc]

/-- Only the blocks, the size and the control words of a channel matter to `TxReady`. -/
theorem congr {ch' : DxeCh} (hn : ch'.desc_num = ch.desc_num) (hbd : ch'.ctrl_bd = ch.ctrl_bd)
    (hskb : ch'.ctrl_skb = ch.ctrl_skb) (hctl : ch'.ctl = ch.ctl) : TxReady pool ch' where
  two_le := hn ▸ h.two_le
  even := hn ▸ h.even
  virt_pos := h.virt_pos
  ctrl_bd := hbd ▸ h.ctrl_bd
  ctrl_skb := hskb ▸ h.ctrl_skb
  ctl k := by
    obtain ⟨c, hc, hnext, hdesc, hbd⟩ := h.ctl k
    refine ⟨c, ?_, ?_, ?_, ?_⟩
    · rw [hctl, DxeCh.blk, hn]; exact hc
    · rw [hnext, DxeCh.blk, DxeCh.blk, hn]
    · rw [hdesc, hn]
    · rw [hbd, hn]

end TxReady

/-- The ring of a TX channel holds the frames `q`, oldest first, with tail `T`, DMA engine `D` and
head `H`. -/
structure TxRing (pool : DxeMemPool) (ch : DxeCh) (T D H : ℕ) (q : List SkBuff) : Prop where
  ready : TxReady pool ch
  head : ch.head_blk_ctl = some (ch.blk H)
  tail_le : T ≤ D
  dev_le : D ≤ H
  head_le : H ≤ T + ch.desc_num
  head_even : H % 2 = 0
  valid : ∀ k, T ≤ k → k < T + ch.desc_num → ch.slotValid k = decide (D ≤ k ∧ k < H)
  skb : ∀ k, T ≤ k → k < T + ch.desc_num →
    ch.slotSkb k = if k % 2 = 1 ∧ k < H then q[k / 2 - T / 2]? else none
  length : q.length = H / 2 - T / 2

namespace TxRing

variable {pool : DxeMemPool} {ch : DxeCh} {T D H : ℕ} {q : List SkBuff}
  (h : TxRing pool ch T D H q)
include h

/-- A ring of `N` blocks holds at most `N / 2` frames. -/
theorem length_le : q.length ≤ ch.desc_num / 2 := by
  have := h.length
  have := h.head_le
  have := h.head_even
  have := h.ready.even
  omega

/-- The ring is full exactly when the second free block is missing. -/
theorem full_iff : q.length = ch.desc_num / 2 ↔ T + ch.desc_num < H + 2 := by
  have := h.length
  have := h.head_le
  have := h.head_even
  have := h.ready.even
  have := h.dev_le
  have := h.tail_le
  omega

/-- The block after the head holds a frame exactly when the ring is full. -/
theorem slotSkb_succ_head : (ch.slotSkb (H + 1)).isSome = decide (q.length = ch.desc_num / 2) := by
  have hfull := h.full_iff
  have htwo := h.ready.two_le
  have heven := h.ready.even
  have hH := h.head_even
  have hTD := h.tail_le
  have hDH := h.dev_le
  have hlen := h.length
  by_cases hroom : H + 1 < T + ch.desc_num
  · have hnot : ¬(q.length = ch.desc_num / 2) := by omega
    rw [h.skb (H + 1) (by omega) hroom, if_neg (by omega), decide_eq_false hnot]
    rfl
  · -- One lap back, the block after the head is one of the oldest two.
    have hle := h.head_le
    have hyes : q.length = ch.desc_num / 2 := by omega
    obtain ⟨j, hj⟩ : ∃ j, H + 1 = j + ch.desc_num := ⟨H + 1 - ch.desc_num, by omega⟩
    rw [hj, DxeCh.slotSkb_add, h.skb j (by omega) (by omega), if_pos (by omega),
      decide_eq_true hyes]
    have hlt : j / 2 - T / 2 < q.length := by omega
    rw [List.getElem?_eq_getElem hlt, Option.isSome_some]

end TxRing

/-! ## The DMA engine -/

/-- In a ring of at least two blocks, neighbours are different. -/
theorem TxReady.succ_mod_ne {pool : DxeMemPool} {ch : DxeCh} (h : TxReady pool ch) (k : ℕ) :
    (k + 1) % ch.desc_num ≠ k % ch.desc_num := by
  have hn := h.two_le
  intro heq
  exact ch.blk_ne (Nat.lt_succ_self k) (by omega) ((ch.blk_eq_iff k (k + 1)).mpr heq.symm)

/-- In the window of one lap, a position is determined by its descriptor. -/
theorem mod_eq_iff {t n i j : ℕ} (hi : t ≤ i ∧ i < t + n) (hj : t ≤ j ∧ j < t + n) :
    i % n = j % n ↔ i = j :=
  ⟨fun heq => (Cycle.consecutive 1 n).pos_inj hi hj
    (((Cycle.consecutive 1 n).pos_eq_iff i j).mpr heq), fun heq => heq ▸ rfl⟩

namespace TxRing

variable {pool : DxeMemPool} {ch : DxeCh} {T D H : ℕ} {q : List SkBuff}
  (h : TxRing pool ch T D H q)
include h

/-- The engine has work exactly when there is a block in `[D, H)`. -/
theorem slotValid_dev : ch.slotValid D = decide (D < H) := by
  have hTD := h.tail_le
  have hDH := h.dev_le
  have hle := h.head_le
  by_cases hin : D < T + ch.desc_num
  · rw [h.valid D hTD hin]
    simp only [Nat.le_refl, true_and]
  · have hn := h.ready.two_le
    obtain ⟨j, hj⟩ : ∃ j, D = j + ch.desc_num := ⟨D - ch.desc_num, by omega⟩
    rw [hj, DxeCh.slotValid_add, h.valid j (by omega) (by omega)]
    exact decide_eq_decide.mpr (by omega)

/-- The engine completes the descriptor it is at. -/
theorem complete (hlt : D < H) :
    TxRing pool (ch.modDesc (D % ch.desc_num) DxeDesc.clearValid) T (D + 1) H q where
  ready := h.ready.congr rfl rfl rfl rfl
  head := h.head
  tail_le := Nat.le_succ_of_le h.tail_le
  dev_le := hlt
  head_le := h.head_le
  head_even := h.head_even
  valid k hTk hk := by
    have hTD := h.tail_le
    have hle := h.head_le
    have hkk : k < T + ch.desc_num := hk
    have hdesc : (ch.modDesc (D % ch.desc_num) DxeDesc.clearValid).slotValid k =
        if k = D then false else ch.slotValid k := by
      simp only [DxeCh.slotValid, DxeCh.modDesc]
      by_cases hkD : k = D
      · rw [hkD, Function.update_self, if_pos rfl, DxeDesc.valid_clearValid]
      · have hmod : k % ch.desc_num ≠ D % ch.desc_num := fun heq =>
          hkD ((mod_eq_iff ⟨hTk, hkk⟩ ⟨hTD, by omega⟩).mp heq)
        rw [Function.update_of_ne hmod, if_neg hkD]
    rw [hdesc, h.valid k hTk hkk]
    split_ifs with hkD
    · exact (decide_eq_false (by omega)).symm
    · exact decide_eq_decide.mpr (by omega)
  skb := h.skb
  length := h.length

end TxRing

/-! ## Accepting a frame -/

/-- The effect of `dxeTxKick` for an interface. -/
def kickEffect (vif_priv : WcnVif) (is_low : Bool) (ch : DxeCh) : Effect :=
  if is_low && vif_priv.pw_state = .BMPS then .smsmChangeState 0 WCN36XX_SMSM_WLAN_TX_ENABLE
  else .writeRegister ch.reg_ctrl ch.def_ctrl

/-- The device is told of the frame. -/
theorem dxeTxKick_spec (wcn : Wcn) (vif_priv : WcnVif) (is_low : Bool) (ch : DxeCh) :
    dxeTxKick wcn (some vif_priv) is_low ch = some (wcn.emit [kickEffect vif_priv is_low ch]) := by
  cases is_low <;> cases hpw : vif_priv.pw_state <;> simp [dxeTxKick, kickEffect, hpw]

/-- What `dxeTxKick` can do, with or without an interface. -/
theorem dxeTxKick_cases {wcn wcn' : Wcn} {vif_priv : Option WcnVif} {is_low : Bool} {ch : DxeCh}
    (hrun : dxeTxKick wcn vif_priv is_low ch = some wcn') :
    ∃ kick, wcn' = wcn.emit [kick] ∧ (kick = .smsmChangeState 0 WCN36XX_SMSM_WLAN_TX_ENABLE ∨
      kick = .writeRegister ch.reg_ctrl ch.def_ctrl) := by
  cases vif_priv with
  | some vif_priv =>
    rw [dxeTxKick_spec, Option.some.injEq] at hrun
    refine ⟨_, hrun.symm, ?_⟩
    rw [kickEffect]
    split_ifs
    · exact Or.inl rfl
    · exact Or.inr rfl
  | none =>
    cases is_low with
    | true => simp [dxeTxKick] at hrun
    | false => exact ⟨_, (Option.some.inj hrun).symm, Or.inr rfl⟩

/-- A channel after the frame has been put at the head `H`. -/
def acceptCh (ch : DxeCh) (H : ℕ) (bd_phy_addr : BitVec 32) (skb : SkBuff) : DxeCh :=
  { (ch.setSkb H none).setSkb (H + 1) (some skb) with
    head_blk_ctl := some (ch.blk (H + 2))
    dxe := Function.update
      (Function.update ch.dxe (H % ch.desc_num) { ch.dxe (H % ch.desc_num) with
        src_addr_l := bd_phy_addr, dst_addr_l := ch.dxe_wq
        fr_len := BitVec.ofNat 32 TxBd.size, ctrl := ch.ctrl_bd })
      ((H + 1) % ch.desc_num) { ch.dxe ((H + 1) % ch.desc_num) with
        src_addr_l := skb.dma, dst_addr_l := ch.dxe_wq
        fr_len := BitVec.ofNat 32 skb.len, ctrl := ch.ctrl_skb } }

/-- The frame does not change the number of descriptors. -/
theorem acceptCh_desc_num (ch : DxeCh) (H : ℕ) (bd_phy_addr : BitVec 32) (skb : SkBuff) :
    (acceptCh ch H bd_phy_addr skb).desc_num = ch.desc_num := rfl

/-- Nor does it change where the blocks are. -/
theorem acceptCh_blk (ch : DxeCh) (H : ℕ) (bd_phy_addr : BitVec 32) (skb : SkBuff) (k : ℕ) :
    (acceptCh ch H bd_phy_addr skb).blk k = ch.blk k := rfl

section Accept

variable {pool : DxeMemPool} {wcn : Wcn} {is_low : Bool} {H : ℕ}
  (h : TxReady pool (wcn.txCh is_low))
  (hhead : (wcn.txCh is_low).head_blk_ctl = some ((wcn.txCh is_low).blk H))
include h hhead

/-- When the block after the head holds a frame, `wcn36xx_dxe_tx_frame` stops the queues and
changes nothing else. -/
theorem dxeTxFrame_busy (hfull : ((wcn.txCh is_low).slotSkb (H + 1)).isSome)
    (vif_priv : Option WcnVif) (skb : SkBuff) :
    dxeTxFrame wcn vif_priv skb is_low =
      some ({ wcn with queues_stopped := true }.emit [.stopQueues], -EBUSY) := by
  obtain ⟨c, hc, hnext, -, -⟩ := h.ctl H
  obtain ⟨n, hn, -⟩ := h.ctl (H + 1)
  have hskb : n.skb.isSome := by
    rw [DxeCh.slotSkb, DxeCh.skbAt, hn] at hfull
    exact hfull
  simp only [dxeTxFrame, hhead, hc, hnext, hn, hskb, Option.bind_eq_bind, Option.bind_some, if_true,
    Option.pure_def]

/-- When the block after the head is free and has no BD, `wcn36xx_dxe_tx_frame` puts the frame at
the head, with the address of the BD of the head block `c`. -/
theorem dxeTxFrame_acceptAt (hH : H % 2 = 0) (hfree : (wcn.txCh is_low).slotSkb (H + 1) = none)
    {c : DxeCtl} (hc : (wcn.txCh is_low).ctl ((wcn.txCh is_low).blk H) = some c)
    (vif_priv : Option WcnVif) (skb : SkBuff) :
    dxeTxFrame wcn vif_priv skb is_low =
      (dxeTxKick ((wcn.setTxCh is_low (acceptCh (wcn.txCh is_low) H c.bd_phy_addr skb)).emit
        [.dmaMap skb]) vif_priv is_low (acceptCh (wcn.txCh is_low) H c.bd_phy_addr skb)).map
        fun wcn => (wcn, 0) := by
  obtain ⟨c', hc', hnext, hdesc, -⟩ := h.ctl H
  obtain rfl : c' = c := Option.some.inj (hc'.symm.trans hc)
  obtain ⟨n, hn, hnnext, hndesc, hbd⟩ := h.ctl (H + 1)
  have hskb : n.skb.isSome = false := by
    rw [DxeCh.slotSkb, DxeCh.skbAt, hn, Option.bind_some] at hfree
    rw [hfree]
    rfl
  have hnull : n.bd_cpu_addr = 0 := by
    have := (h.bdAddr_pos_iff (H + 1)).not.mpr (by omega)
    omega
  have hne := h.succ_mod_ne H
  have hready := h.setSkb H none
  -- The descriptor of the BD is written between the two stores of a frame.
  have hstore : ∀ dxe, DxeCh.modCtl { (wcn.txCh is_low).setSkb H none with dxe := dxe }
      ((wcn.txCh is_low).blk (H + 1)) (fun c => { c with skb := some skb }) =
      some { ((wcn.txCh is_low).setSkb H none).setSkb (H + 1) (some skb) with dxe := dxe } := by
    intro dxe
    have hready' : TxReady pool { (wcn.txCh is_low).setSkb H none with dxe := dxe } :=
      hready.congr rfl rfl rfl rfl
    exact hready'.ring.modCtl_skb (H + 1) (some skb)
  simp only [dxeTxFrame, hhead, hc, hnext, hn, hskb, Option.bind_eq_bind, Option.bind_some,
    Bool.false_eq_true, if_false, h.ring.modCtl_skb H none, hdesc, DxeCh.modDesc, hstore, hnull, ne_eq,
    not_true_eq_false, hndesc, Option.pure_def, hnnext, Option.map_eq_bind]
  rw [Function.update_of_ne hne]
  rfl

/-- When the block after the head is free and has no BD, `wcn36xx_dxe_tx_frame` puts the frame at
the head. -/
theorem dxeTxFrame_accept (hH : H % 2 = 0) (hfree : (wcn.txCh is_low).slotSkb (H + 1) = none)
    (vif_priv : Option WcnVif) (skb : SkBuff) :
    ∃ bd_phy_addr, dxeTxFrame wcn vif_priv skb is_low =
      (dxeTxKick ((wcn.setTxCh is_low (acceptCh (wcn.txCh is_low) H bd_phy_addr skb)).emit
        [.dmaMap skb]) vif_priv is_low (acceptCh (wcn.txCh is_low) H bd_phy_addr skb)).map
        fun wcn => (wcn, 0) := by
  obtain ⟨c, hc, -⟩ := h.ctl H
  exact ⟨c.bd_phy_addr, dxeTxFrame_acceptAt h hhead hH hfree hc vif_priv skb⟩

end Accept

/-- A descriptor with one of the channel's control words is VALID. -/
theorem valid_of_ctrl {d : DxeDesc} (h : d.ctrl &&& WCN36XX_DXE_CTRL_VALID_MASK ≠ 0) :
    d.valid = true := by
  rw [DxeDesc.valid]
  exact bne_iff_ne.mpr h

namespace TxReady

variable {pool : DxeMemPool} {ch : DxeCh} (h : TxReady pool ch) (H : ℕ) (bd_phy_addr : BitVec 32)
  (skb : SkBuff)
include h

/-- Accepting a frame keeps the ring. -/
theorem acceptCh : TxReady pool (acceptCh ch H bd_phy_addr skb) :=
  ((h.setSkb H none).setSkb (H + 1) (some skb)).congr rfl rfl rfl rfl

/-- The two descriptors of the frame become VALID. -/
theorem slotValid_acceptCh (k : ℕ) :
    (Wcn36xx.acceptCh ch H bd_phy_addr skb).slotValid k =
      if k % ch.desc_num = (H + 1) % ch.desc_num ∨ k % ch.desc_num = H % ch.desc_num then true
      else ch.slotValid k := by
  rw [DxeCh.slotValid, acceptCh_desc_num, Wcn36xx.acceptCh]
  dsimp only
  by_cases h1 : k % ch.desc_num = (H + 1) % ch.desc_num
  · rw [if_pos (Or.inl h1), h1, Function.update_self]
    exact valid_of_ctrl h.ctrl_skb
  · rw [Function.update_of_ne h1]
    by_cases h2 : k % ch.desc_num = H % ch.desc_num
    · rw [if_pos (Or.inr h2), h2, Function.update_self]
      exact valid_of_ctrl h.ctrl_bd
    · rw [Function.update_of_ne h2, if_neg (by tauto), DxeCh.slotValid]

/-- The frame is stored in the second of its two blocks, and the first has none. -/
theorem slotSkb_acceptCh (k : ℕ) :
    (Wcn36xx.acceptCh ch H bd_phy_addr skb).slotSkb k =
      if k % ch.desc_num = (H + 1) % ch.desc_num then some skb
      else if k % ch.desc_num = H % ch.desc_num then none else ch.slotSkb k := by
  have heq : (Wcn36xx.acceptCh ch H bd_phy_addr skb).slotSkb k =
      ((ch.setSkb H none).setSkb (H + 1) (some skb)).slotSkb k := rfl
  rw [heq, (h.setSkb H none).ring.slotSkb_setSkb, h.ring.slotSkb_setSkb]
  rfl

end TxReady

namespace TxRing

variable {pool : DxeMemPool} {ch : DxeCh} {T D H : ℕ} {q : List SkBuff}
  (h : TxRing pool ch T D H q)
include h

/-- A ring that is not full accepts a frame. -/
theorem accept (hroom : q.length ≠ ch.desc_num / 2) (bd_phy_addr : BitVec 32) (skb : SkBuff) :
    TxRing pool (acceptCh ch H bd_phy_addr skb) T D (H + 2) (q ++ [skb]) := by
  have hfull := h.full_iff
  have hTD := h.tail_le
  have hDH := h.dev_le
  have hH := h.head_even
  have hlen := h.length
  have hlast : H + 2 ≤ T + ch.desc_num := by omega
  have hmod : ∀ k i, T ≤ k → k < T + ch.desc_num → T ≤ i → i < T + ch.desc_num →
      (k % ch.desc_num = i % ch.desc_num ↔ k = i) := fun k i hTk hk hTi hi =>
    mod_eq_iff ⟨hTk, hk⟩ ⟨hTi, hi⟩
  refine
    { ready := h.ready.acceptCh H bd_phy_addr skb
      head := rfl
      tail_le := hTD
      dev_le := by omega
      head_le := hlast
      head_even := by omega
      valid := fun k hTk hk => ?_
      skb := fun k hTk hk => ?_
      length := by rw [List.length_append, List.length_singleton]; omega }
  · have hkk : k < T + ch.desc_num := hk
    simp only [h.ready.slotValid_acceptCh, hmod k (H + 1) hTk hkk (by omega) (by omega),
      hmod k H hTk hkk (by omega) (by omega), h.valid k hTk hkk]
    split_ifs with hnew
    · exact (decide_eq_true (by omega)).symm
    · exact decide_eq_decide.mpr (by omega)
  · have hkk : k < T + ch.desc_num := hk
    simp only [h.ready.slotSkb_acceptCh, hmod k (H + 1) hTk hkk (by omega) (by omega),
      hmod k H hTk hkk (by omega) (by omega), h.skb k hTk hkk]
    split_ifs with h1 h2 h3 h4 h5 h6
    · -- The new frame is the last of the queue.
      have hidx : k / 2 - T / 2 = q.length := by omega
      rw [hidx, List.getElem?_concat_length]
    all_goals first
      | rfl
      | omega
      | exact (List.getElem?_append_left (by omega)).symm

end TxRing

/-! ## Reaping -/

/-- The frames that the driver unmaps, in order. -/
def unmapped (es : List Effect) : List SkBuff :=
  es.filterMap fun
    | .dmaUnmap _ skb => some skb
    | _ => none

/-- The effects of reaping frames that were mapped at the given bus addresses, when the queues are
stopped or not. -/
def reapEffects : (stopped : Bool) → List (BitVec 32 × SkBuff) → List Effect
  | _, [] => []
  | stopped, (addr, skb) :: rest =>
    [.dmaUnmap addr skb, .txInfo skb] ++ (if skb.wantsStatus then [] else [.freeTxskb skb]) ++
      (if stopped then [.wakeQueues] else []) ++ reapEffects false rest

/-- Reaping unmaps the frames in order. -/
theorem unmapped_reapEffects (stopped : Bool) (fs : List (BitVec 32 × SkBuff)) :
    unmapped (reapEffects stopped fs) = fs.map Prod.snd := by
  induction fs generalizing stopped with
  | nil => rfl
  | cons f fs ih =>
    obtain ⟨addr, skb⟩ := f
    have hrest := ih false
    simp only [unmapped] at hrest
    by_cases hw : skb.wantsStatus <;> cases stopped <;>
      simp [unmapped, reapEffects, hw, hrest]

/-- The state after frames have been reaped from a channel that is now `ch`. -/
def reapedWcn (wcn : Wcn) (is_low : Bool) (ch : DxeCh) (fs : List (BitVec 32 × SkBuff)) : Wcn :=
  { wcn.setTxCh is_low ch with
    queues_stopped := wcn.queues_stopped && fs.isEmpty
    log := wcn.log ++ reapEffects wcn.queues_stopped fs }

/-- Reaping no frame only writes the channel back. -/
theorem reapedWcn_nil (wcn : Wcn) (is_low : Bool) : reapedWcn wcn is_low (wcn.txCh is_low) [] = wcn := by
  cases is_low <;> simp [reapedWcn, reapEffects, Wcn.setTxCh, Wcn.txCh]

/-- The effects of reaping some frames and then others. -/
theorem reapEffects_append (stopped : Bool) (fs fs' : List (BitVec 32 × SkBuff)) :
    reapEffects stopped (fs ++ fs') =
      reapEffects stopped fs ++ reapEffects (stopped && fs.isEmpty) fs' := by
  induction fs generalizing stopped with
  | nil => rw [List.nil_append, List.isEmpty_nil, Bool.and_true]; rfl
  | cons f fs ih =>
    have hrest := ih false
    rw [Bool.false_and] at hrest
    rw [List.cons_append, reapEffects, reapEffects, hrest, List.isEmpty_cons, Bool.and_false]
    simp only [List.append_assoc]

/-- Reaping some frames and then others. -/
theorem reapedWcn_append (wcn : Wcn) (is_low : Bool) (ch ch' : DxeCh)
    (fs fs' : List (BitVec 32 × SkBuff)) :
    reapedWcn (reapedWcn wcn is_low ch fs) is_low ch' fs' = reapedWcn wcn is_low ch' (fs ++ fs') := by
  have hempty : (fs ++ fs').isEmpty = (fs.isEmpty && fs'.isEmpty) := by cases fs <;> rfl
  simp only [reapedWcn, reapEffects_append, hempty, List.append_assoc, Bool.and_assoc]
  cases is_low <;> rfl

@[simp]
theorem txCh_reapedWcn (wcn : Wcn) (is_low : Bool) (ch : DxeCh) (fs : List (BitVec 32 × SkBuff)) :
    (reapedWcn wcn is_low ch fs).txCh is_low = ch := by
  cases is_low <;> rfl

section ReapSkb

variable {pool : DxeMemPool} {wcn : Wcn} {is_low : Bool} (h : TxReady pool (wcn.txCh is_low))
  {k : ℕ}
include h

/-- A block without a frame is passed over. -/
theorem reapSkb_none (hskb : (wcn.txCh is_low).slotSkb k = none) :
    reapSkb wcn is_low ((wcn.txCh is_low).blk k) = some wcn := by
  obtain ⟨c, hc, -⟩ := h.ctl k
  have hnone : c.skb = none := by rwa [DxeCh.slotSkb, DxeCh.skbAt, hc] at hskb
  simp only [reapSkb, hc, hnone, Option.bind_eq_bind, Option.bind_some, Option.pure_def]

/-- A frame is unmapped, freed unless its status is awaited, and taken out of its block. -/
theorem reapSkb_some {skb : SkBuff} (hskb : (wcn.txCh is_low).slotSkb k = some skb) :
    ∃ addr, reapSkb wcn is_low ((wcn.txCh is_low).blk k) =
      some (reapedWcn wcn is_low ((wcn.txCh is_low).setSkb k none) [(addr, skb)]) := by
  obtain ⟨c, hc, -, hdesc, -⟩ := h.ctl k
  have hsome : c.skb = some skb := by rwa [DxeCh.slotSkb, DxeCh.skbAt, hc] at hskb
  refine ⟨((wcn.txCh is_low).dxe (k % (wcn.txCh is_low).desc_num)).src_addr_l, ?_⟩
  simp only [reapSkb, hc, hsome, hdesc, Option.bind_eq_bind, Option.bind_some, h.ring.modCtl_skb,
    Option.pure_def, Option.some.injEq]
  cases hw : skb.wantsStatus <;> cases hq : wcn.queues_stopped <;> cases is_low <;>
    simp [reapedWcn, reapEffects, Wcn.setTxCh, Wcn.emit, hw, hq]

end ReapSkb

namespace TxRing

variable {pool : DxeMemPool} {ch : DxeCh} {T D H : ℕ} {q : List SkBuff}
  (h : TxRing pool ch T D H q)
include h

/-- The tail passes over the BD block of a frame, which holds no frame. -/
theorem passBd (hTD : T < D) (hT : T % 2 = 0) :
    ch.slotSkb T = none ∧ TxRing pool ch (T + 1) D H q := by
  have hn := h.ready.two_le
  have hnone : ch.slotSkb T = none := by
    rw [h.skb T le_rfl (by omega), if_neg (by omega)]
  have hle := h.head_le
  refine ⟨hnone,
    { ready := h.ready
      head := h.head
      tail_le := hTD
      dev_le := h.dev_le
      head_le := by omega
      head_even := h.head_even
      valid := fun k hTk hk => ?_
      skb := fun k hTk hk => ?_
      length := by have := h.length; omega }⟩
  -- The window loses the tail and gains its successor one lap on, which is free.
  · rcases Nat.lt_or_ge k (T + ch.desc_num) with hlt | hge
    · exact h.valid k (by omega) hlt
    · obtain rfl : k = T + ch.desc_num := by omega
      rw [DxeCh.slotValid_add, h.valid T le_rfl (by omega)]
      exact decide_eq_decide.mpr (by omega)
  · have hidx : (T + 1) / 2 = T / 2 := by omega
    rw [hidx]
    rcases Nat.lt_or_ge k (T + ch.desc_num) with hlt | hge
    · exact h.skb k (by omega) hlt
    · obtain rfl : k = T + ch.desc_num := by omega
      rw [DxeCh.slotSkb_add, hnone, if_neg (by omega)]

/-- The tail reaps the skb block of the oldest frame. -/
theorem reapOne (hTD : T < D) (hT : T % 2 = 1) :
    ∃ skb rest, q = skb :: rest ∧ ch.slotSkb T = some skb ∧
      TxRing pool (ch.setSkb T none) (T + 1) D H rest := by
  have hn := h.ready.two_le
  have hDH := h.dev_le
  have hlen := h.length
  have hH := h.head_even
  have hle := h.head_le
  obtain ⟨skb, rest, rfl⟩ : ∃ skb rest, q = skb :: rest := by
    cases q with
    | nil => rw [List.length_nil] at hlen; omega
    | cons skb rest => exact ⟨skb, rest, rfl⟩
  have hskb : ch.slotSkb T = some skb := by
    rw [h.skb T le_rfl (by omega), if_pos (by omega), Nat.sub_self]
    rfl
  have hold : ∀ k, T + 1 ≤ k → k < T + 1 + ch.desc_num → k ≠ T + ch.desc_num →
      k % ch.desc_num ≠ T % ch.desc_num := fun k hTk hk hne heq => by
    have := (mod_eq_iff (t := T) (i := k) (j := T) (by omega) (by omega)).mp heq
    omega
  refine ⟨skb, rest, rfl, hskb,
    { ready := h.ready.setSkb T none
      head := h.head
      tail_le := hTD
      dev_le := hDH
      head_le := show H ≤ T + 1 + ch.desc_num by omega
      head_even := hH
      valid := fun k hTk hk => ?_
      skb := fun k hTk hk => ?_
      length := by rw [List.length_cons] at hlen; omega }⟩
  · have hkk : k < T + 1 + ch.desc_num := hk
    have heq : (ch.setSkb T none).slotValid k = ch.slotValid k := rfl
    rw [heq]
    rcases eq_or_ne k (T + ch.desc_num) with rfl | hne
    · rw [DxeCh.slotValid_add, h.valid T le_rfl (by omega)]
      exact decide_eq_decide.mpr (by omega)
    · exact h.valid k (by omega) (by omega)
  · have hkk : k < T + 1 + ch.desc_num := hk
    rw [h.ready.ring.slotSkb_setSkb]
    rcases eq_or_ne k (T + ch.desc_num) with rfl | hne
    · rw [if_pos (Nat.add_mod_right T ch.desc_num), if_neg (by omega)]
    · rw [if_neg (hold k hTk hkk hne), h.skb k (by omega) (by omega)]
      split_ifs with hk2
      · have hidx : k / 2 - T / 2 = k / 2 - (T + 1) / 2 + 1 := by omega
        rw [hidx, List.getElem?_cons_succ]
      · rfl

end TxRing

section ReapTxDxes

variable {pool : DxeMemPool} {is_low : Bool} {T D H : ℕ}

/-- One iteration of the loop of `reap_tx_dxes` at a block that is not VALID, up to the test. -/
theorem reapTxDxesLoop_succ {wcn wcn' : Wcn} (h : TxReady pool (wcn.txCh is_low))
    (h' : TxReady pool (wcn'.txCh is_low))
    (hn : (wcn'.txCh is_low).desc_num = (wcn.txCh is_low).desc_num) (fuel k : ℕ)
    (hvalid : (wcn.txCh is_low).slotValid k = false)
    (hskb : reapSkb wcn is_low ((wcn.txCh is_low).blk k) = some wcn') :
    reapTxDxesLoop is_low (fuel + 1) ((wcn.txCh is_low).blk k) wcn =
      if (wcn'.txCh is_low).head_blk_ctl = some ((wcn'.txCh is_low).blk (k + 1)) ∨
          (wcn'.txCh is_low).slotValid (k + 1) then
        some ((wcn'.txCh is_low).blk (k + 1), wcn')
      else reapTxDxesLoop is_low fuel ((wcn'.txCh is_low).blk (k + 1)) wcn' := by
  have hblk : (wcn.txCh is_low).blk k = (wcn'.txCh is_low).blk k := by
    rw [DxeCh.blk, DxeCh.blk, hn]
  have hnext : (wcn'.txCh is_low).nextOf ((wcn.txCh is_low).blk k) =
      some (some ((wcn'.txCh is_low).blk (k + 1))) := by rw [hblk, h'.ring.nextOf]
  simp only [reapTxDxesLoop, h.ring.validAt, hvalid, hskb, hnext, h'.ring.validAt, Option.bind_eq_bind,
    Option.bind_some, Option.pure_def, Bool.false_eq_true, if_false]
  by_cases hhead : (wcn'.txCh is_low).head_blk_ctl = some ((wcn'.txCh is_low).blk (k + 1))
  · rw [if_pos hhead, if_pos (Or.inl hhead)]
  · cases hv : (wcn'.txCh is_low).slotValid (k + 1)
    · rw [if_neg hhead, if_neg (by simp), if_neg (by simp [hhead])]
    · rw [if_neg hhead, if_pos rfl, if_pos (Or.inr rfl)]

/-- On a ring with completed blocks, the loop of `reap_tx_dxes` takes the tail to the DMA engine and
reaps the frames whose two blocks it passes. -/
theorem reapTxDxesLoop_spec (fuel : ℕ) {wcn : Wcn} {q : List SkBuff}
    (h : TxRing pool (wcn.txCh is_low) T D H q) (hTD : T < D) (hfuel : D ≤ T + fuel) :
    ∃ ch fs, reapTxDxesLoop is_low fuel ((wcn.txCh is_low).blk T) wcn =
        some ((wcn.txCh is_low).blk D, reapedWcn wcn is_low ch fs) ∧
      TxRing pool ch D D H (q.drop (D / 2 - T / 2)) ∧
      fs.map Prod.snd = q.take (D / 2 - T / 2) ∧
      ch = { wcn.txCh is_low with ctl := ch.ctl } := by
  induction fuel generalizing T wcn q with
  | zero => omega
  | succ fuel ih =>
    have hDH := h.dev_le
    have hle := h.head_le
    have hn := h.ready.two_le
    have hvalid : (wcn.txCh is_low).slotValid T = false := by
      rw [h.valid T le_rfl (by omega)]
      exact decide_eq_false (by omega)
    -- One block: the channel becomes `ch` with tail `T + 1`, and `fs` are reaped.
    obtain ⟨ch, fs, q', hreap, hring, hq, hch⟩ : ∃ ch fs q',
        reapSkb wcn is_low ((wcn.txCh is_low).blk T) = some (reapedWcn wcn is_low ch fs) ∧
        TxRing pool ch (T + 1) D H q' ∧
        (T % 2 = 0 ∧ fs = [] ∧ ch = wcn.txCh is_low ∧ q' = q ∨
          T % 2 = 1 ∧ ∃ f, fs = [f] ∧ q = f.2 :: q') ∧
        ch = { wcn.txCh is_low with ctl := ch.ctl } := by
      rcases Nat.mod_two_eq_zero_or_one T with heven | hodd
      · obtain ⟨hnone, hring⟩ := h.passBd hTD heven
        refine ⟨wcn.txCh is_low, [], q, ?_, hring, Or.inl ⟨heven, rfl, rfl, rfl⟩, rfl⟩
        rw [reapSkb_none h.ready hnone, reapedWcn_nil]
      · obtain ⟨skb, rest, rfl, hskb, hring⟩ := h.reapOne hTD hodd
        obtain ⟨addr, hreap⟩ := reapSkb_some h.ready hskb
        exact ⟨_, _, rest, hreap, hring, Or.inr ⟨hodd, (addr, skb), rfl, rfl⟩, rfl⟩
    obtain ⟨hnum, hhd⟩ : ch.desc_num = (wcn.txCh is_low).desc_num ∧
        ch.head_blk_ctl = (wcn.txCh is_low).head_blk_ctl := by rw [hch]; exact ⟨rfl, rfl⟩
    have hblk : ∀ k, ch.blk k = (wcn.txCh is_low).blk k := fun k => by
      rw [DxeCh.blk, DxeCh.blk, hnum]
    rw [reapTxDxesLoop_succ h.ready (by rw [txCh_reapedWcn]; exact hring.ready)
      (by rw [txCh_reapedWcn, hnum]) fuel T hvalid hreap]
    simp only [txCh_reapedWcn]
    by_cases hstop : T + 1 = D
    · -- The next block is the head or VALID.
      have hcond : ch.head_blk_ctl = some (ch.blk (T + 1)) ∨ ch.slotValid (T + 1) = true := by
        rcases eq_or_ne (T + 1) H with hTH | hTH
        · exact Or.inl (by rw [hring.head, hTH])
        · refine Or.inr ?_
          rw [hstop, hring.slotValid_dev]
          exact decide_eq_true (by omega)
      refine ⟨ch, fs, ?_, ?_, ?_, hch⟩
      · rw [if_pos hcond, hblk, hstop]
      · rw [← hstop] at hring ⊢
        rcases hq with ⟨heven, -, -, rfl⟩ | ⟨hodd, f, -, rfl⟩
        · rwa [show (T + 1) / 2 - T / 2 = 0 by omega, List.drop_zero]
        · rwa [show (T + 1) / 2 - T / 2 = 1 by omega, List.drop_one, List.tail_cons]
      · rcases hq with ⟨heven, rfl, -, rfl⟩ | ⟨hodd, f, rfl, rfl⟩
        · rw [show D / 2 - T / 2 = 0 by omega, List.take_zero, List.map_nil]
        · rw [show D / 2 - T / 2 = 1 by omega]
          rfl
    · -- The next block is neither, and the loop goes on.
      have hhead : ch.head_blk_ctl ≠ some (ch.blk (T + 1)) := by
        rw [hring.head]
        intro heq
        have hnum' := hring.ready.two_le
        exact ch.blk_ne (i := T + 1) (j := H) (by omega) (by omega) (Option.some.inj heq).symm
      have hval : ch.slotValid (T + 1) = false := by
        rw [hring.valid (T + 1) le_rfl (by omega)]
        exact decide_eq_false (by omega)
      have hnext : TxRing pool ((reapedWcn wcn is_low ch fs).txCh is_low) (T + 1) D H q' := by
        rw [txCh_reapedWcn]
        exact hring
      obtain ⟨ch', fs', hloop, hring', htake, hch'⟩ := ih hnext (by omega) (by omega)
      rw [txCh_reapedWcn] at hloop hch'
      refine ⟨ch', fs ++ fs', ?_, ?_, ?_, ?_⟩
      · rw [if_neg (by simp [hhead, hval]), hloop, hblk, reapedWcn_append]
      · rcases hq with ⟨heven, -, -, rfl⟩ | ⟨hodd, f, -, rfl⟩
        · rwa [show D / 2 - T / 2 = D / 2 - (T + 1) / 2 by omega]
        · rwa [show D / 2 - T / 2 = D / 2 - (T + 1) / 2 + 1 by omega, List.drop_succ_cons]
      · rcases hq with ⟨heven, rfl, -, rfl⟩ | ⟨hodd, f, rfl, rfl⟩
        · rw [List.nil_append, htake, show D / 2 - T / 2 = D / 2 - (T + 1) / 2 by omega]
        · rw [List.map_append, htake, show D / 2 - T / 2 = D / 2 - (T + 1) / 2 + 1 by omega]
          rfl
      · rw [hch', hch]

/-- On an empty ring, the loop of `reap_tx_dxes` goes once round and comes back to the head. -/
theorem reapTxDxesLoop_empty (fuel : ℕ) {wcn : Wcn} {k : ℕ}
    (h : TxRing pool (wcn.txCh is_low) T T T []) (hTk : T ≤ k)
    (hk : k < T + (wcn.txCh is_low).desc_num)
    (hfuel : T + (wcn.txCh is_low).desc_num ≤ k + fuel) :
    reapTxDxesLoop is_low fuel ((wcn.txCh is_low).blk k) wcn =
      some ((wcn.txCh is_low).blk T, wcn) := by
  induction fuel generalizing k with
  | zero => omega
  | succ fuel ih =>
    have hfree : ∀ j, T ≤ j → j < T + (wcn.txCh is_low).desc_num →
        (wcn.txCh is_low).slotValid j = false := fun j hTj hj => by
      rw [h.valid j hTj hj]
      exact decide_eq_false (by omega)
    have hnone : (wcn.txCh is_low).slotSkb k = none := by
      rw [h.skb k hTk hk, if_neg (by omega)]
    rw [reapTxDxesLoop_succ h.ready h.ready rfl fuel k (hfree k hTk hk)
      (reapSkb_none h.ready hnone), h.head]
    by_cases hlast : k + 1 = T + (wcn.txCh is_low).desc_num
    · have hlap : (wcn.txCh is_low).blk (k + 1) = (wcn.txCh is_low).blk T := by
        rw [hlast, DxeCh.blk_add]
      rw [if_pos (Or.inl (by rw [hlap])), hlap]
    · have hne : (wcn.txCh is_low).blk T ≠ (wcn.txCh is_low).blk (k + 1) :=
        DxeCh.blk_ne _ (by omega) (by omega)
      rw [if_neg, ih (by omega) (by omega) (by omega)]
      rw [hfree (k + 1) (by omega) (by omega)]
      simpa using hne

/-- `reap_tx_dxes` on a ring with tail `T` and DMA engine `D`: the tail is taken to the engine, and
the frames whose blocks are both behind it are reaped. -/
theorem reapTxDxes_spec {wcn : Wcn} {q : List SkBuff}
    (h : TxRing pool (wcn.txCh is_low) T D H q)
    (htail : (wcn.txCh is_low).tail_blk_ctl = some ((wcn.txCh is_low).blk T)) :
    ∃ ch fs, reapTxDxes wcn is_low = some (reapedWcn wcn is_low ch fs) ∧
      TxRing pool ch D D H (q.drop (D / 2 - T / 2)) ∧
      ch.tail_blk_ctl = some (ch.blk D) ∧
      fs.map Prod.snd = q.take (D / 2 - T / 2) ∧
      ch = { wcn.txCh is_low with ctl := ch.ctl, tail_blk_ctl := ch.tail_blk_ctl } := by
  have hn := h.ready.two_le
  have hDH := h.dev_le
  have hle := h.head_le
  -- The loop ends at the engine.
  obtain ⟨ch, fs, hloop, hring, htake, hch⟩ : ∃ ch fs,
      reapTxDxesLoop is_low (wcn.txCh is_low).desc_num ((wcn.txCh is_low).blk T) wcn =
        some ((wcn.txCh is_low).blk D, reapedWcn wcn is_low ch fs) ∧
      TxRing pool ch D D H (q.drop (D / 2 - T / 2)) ∧
      fs.map Prod.snd = q.take (D / 2 - T / 2) ∧
      ch = { wcn.txCh is_low with ctl := ch.ctl } := by
    rcases Nat.lt_or_ge T D with hTD | hTD
    · exact reapTxDxesLoop_spec _ h hTD (by omega)
    · obtain rfl : D = T := le_antisymm hTD h.tail_le
      refine ⟨wcn.txCh is_low, [], ?_, by rwa [Nat.sub_self, List.drop_zero],
        by rw [Nat.sub_self, List.take_zero, List.map_nil], rfl⟩
      rw [reapedWcn_nil]
      rcases Nat.lt_or_ge D H with hlt | hge
      · -- The oldest block is still VALID.
        obtain ⟨m, hm⟩ : ∃ m, (wcn.txCh is_low).desc_num = m + 1 :=
          ⟨(wcn.txCh is_low).desc_num - 1, by omega⟩
        rw [hm, reapTxDxesLoop, h.ready.ring.validAt, h.slotValid_dev, decide_eq_true hlt]
        rfl
      · obtain rfl : H = D := le_antisymm hge hDH
        obtain rfl : q = [] := by
          have := h.length
          rw [Nat.sub_self] at this
          exact List.length_eq_zero_iff.mp this
        exact reapTxDxesLoop_empty _ h le_rfl (by omega) le_rfl
  have hblk : ∀ k, ch.blk k = (wcn.txCh is_low).blk k := fun k => by
    rw [DxeCh.blk, DxeCh.blk, hch]
  refine ⟨{ ch with tail_blk_ctl := some ((wcn.txCh is_low).blk D) }, fs, ?_, ?_, ?_, htake, ?_⟩
  · simp only [reapTxDxes, htail, Option.bind_eq_bind, Option.bind_some, hloop, Option.pure_def,
      txCh_reapedWcn]
    cases is_low <;> rfl
  · exact
      { ready := hring.ready.congr rfl rfl rfl rfl
        head := hring.head
        tail_le := hring.tail_le
        dev_le := hring.dev_le
        head_le := hring.head_le
        head_even := hring.head_even
        valid := hring.valid
        skb := hring.skb
        length := hring.length }
  · exact congrArg some (hblk D).symm
  · rw [hch]

end ReapTxDxes

/-! ## The ring after the set-up -/

/-- The control words that `wcn36xx_dxe_tx_frame` writes make a descriptor VALID. -/
theorem txChConfig_ctrl (is_low : Bool) (n : ℕ) :
    (txChConfig is_low n).ctrl_bd &&& WCN36XX_DXE_CTRL_VALID_MASK ≠ 0 ∧
      (txChConfig is_low n).ctrl_skb &&& WCN36XX_DXE_CTRL_VALID_MASK ≠ 0 := by
  cases is_low
  · exact (by decide : WCN36XX_DXE_CTRL_TX_H_BD &&& WCN36XX_DXE_CTRL_VALID_MASK ≠ 0 ∧
      WCN36XX_DXE_CTRL_TX_H_SKB &&& WCN36XX_DXE_CTRL_VALID_MASK ≠ 0)
  · exact (by decide : WCN36XX_DXE_CTRL_TX_L_BD &&& WCN36XX_DXE_CTRL_VALID_MASK ≠ 0 ∧
      WCN36XX_DXE_CTRL_TX_L_SKB &&& WCN36XX_DXE_CTRL_VALID_MASK ≠ 0)

/-- The descriptors of a TX channel start out not VALID. -/
theorem initializedDesc_tx_valid (is_low : Bool) (n m : ℕ) (dma_addr : BitVec 32) {j : ℕ}
    (hj : j < m) :
    (initializedDesc (txChConfig is_low n).ch_type dma_addr m m j).valid = false := by
  rw [initializedDesc, if_pos hj]
  cases is_low
  · exact (by decide : (WCN36XX_DXE_CTRL_TX_H &&& WCN36XX_DXE_CTRL_VALID_MASK != 0) = false)
  · exact (by decide : (WCN36XX_DXE_CTRL_TX_L &&& WCN36XX_DXE_CTRL_VALID_MASK != 0) = false)

/-- The set-up of a TX channel leaves an empty ring. -/
theorem txChSetup_ring (is_low : Bool) {n : ℕ} (hn : 2 ≤ n) (heven : n % 2 = 0)
    (coherent : ℕ × BitVec 32) {pool : DxeMemPool} (hvirt : 0 < pool.virt_addr) :
    ∃ ch, txChSetup is_low n coherent pool = some ch ∧ ch.desc_num = n ∧
      TxRing pool ch 0 0 0 [] ∧ ch.tail_blk_ctl = some (ch.blk 0) := by
  obtain ⟨cpu_addr, dma_addr⟩ := coherent
  obtain ⟨ch, hsetup, hhead, htail, hctl, hdxe, hch⟩ :=
    txChSetup_spec is_low n hn cpu_addr dma_addr pool
  have hdn : ch.desc_num = n := by rw [hch]; cases is_low <;> rfl
  have hblk : ∀ k, ch.blk k = 1 + k % n := fun k => by rw [DxeCh.blk, hdn]; rfl
  have hlt : ∀ k, k % n < n := fun k => Nat.mod_lt k (by omega)
  have hzero : ch.blk 0 = 1 := by rw [hblk, Nat.zero_mod]
  refine ⟨ch, hsetup, hdn,
    { ready :=
        { two_le := hdn ▸ hn
          even := hdn ▸ heven
          virt_pos := hvirt
          ctrl_bd := by rw [hch]; exact (txChConfig_ctrl is_low n).1
          ctrl_skb := by rw [hch]; exact (txChConfig_ctrl is_low n).2
          ctl := fun k => ?_ }
      head := by rw [hhead, hzero]
      tail_le := le_rfl
      dev_le := le_rfl
      head_le := Nat.zero_le _
      head_even := rfl
      valid := fun k _ hk => ?_
      skb := fun k _ hk => ?_
      length := rfl }, by rw [htail, hzero]⟩
  · refine ⟨_, by rw [hblk, hctl _ (hlt k)], ?_, ?_, ?_⟩
    · rw [DxeCh.blk, hdn]
      simp only [txReadyCtl, initTxBdCtl, initDescsCtl]
      have hnext : (Cycle.consecutive 1 n).pos (k % n + 1) = (Cycle.consecutive 1 n).pos (k + 1) :=
        ((Cycle.consecutive 1 n).pos_eq_iff _ _).mpr (Nat.mod_add_mod k n 1)
      split_ifs <;> rw [hnext]
    · rw [hdn]
      simp only [txReadyCtl, initTxBdCtl, initDescsCtl]
      split_ifs <;> rfl
    · rw [hdn]
      simp only [txReadyCtl, initTxBdCtl, initDescsCtl, bdAddr]
      split_ifs <;> rfl
  · rw [DxeCh.slotValid, hdxe, hdn, initializedDesc_tx_valid is_low n n dma_addr (hlt k),
      decide_eq_false (by omega)]
  · have hnone : (txReadyCtl n dma_addr pool (k % n)).skb = none := by
      simp only [txReadyCtl, initTxBdCtl, initDescsCtl]
      split_ifs <;> rfl
    rw [DxeCh.slotSkb, DxeCh.skbAt, hblk, hctl _ (hlt k), if_neg (by omega)]
    exact hnone

end Wcn36xx
