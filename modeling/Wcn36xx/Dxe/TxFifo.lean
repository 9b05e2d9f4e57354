import Wcn36xx.Dxe.TxRing
import Wcn36xx.Support.Fifo

/-!
# A TX channel is a bounded queue of frames

The three atomic steps on a TX channel, `wcn36xx_dxe_tx_frame`, the completion of one descriptor by
the DMA engine, and `reap_tx_dxes`, as a transition system over the events of a bounded queue. Each
frame is an item with two parts, its BD and its bytes. `TxRefines` relates a channel to a queue of
capacity `N / 2`, and the channel's steps are the steps of the queue.
-/

namespace Wcn36xx

open Support (Fifo FifoEvent System)

namespace DxeCh

variable (ch : DxeCh)

/-- Follow the `next` pointers from a block. -/
def follow : (steps : ℕ) → (p : ℕ) → Option ℕ
  | 0, p => some p
  | steps + 1, p => do
    let next ← (← ch.nextOf p)
    follow steps next

/-- The BD block and the skb block of frame `i` of the `len` newest ones: the ring leads to them
`2 * (len - i)` blocks before the head. -/
def frameBlks (len i : ℕ) : Option (ℕ × ℕ) := do
  let head ← ch.head_blk_ctl
  let bd ← ch.follow (ch.desc_num - 2 * (len - i)) head
  let skb ← (← ch.nextOf bd)
  return (bd, skb)

/-- Neither descriptor of frame `i` of the `len` newest ones is VALID any longer. -/
def processed (len i : ℕ) : Bool :=
  match ch.frameBlks len i with
  | some (bd, skb) => ch.validAt bd = some false && ch.validAt skb = some false
  | none => false

end DxeCh

/-- A TX channel and the descriptor that the DMA engine is at. -/
structure TxChState where
  wcn : Wcn
  cursor : ℕ

/-- The steps of a TX channel of `n` descriptors. `vif` is the interface of a frame, which
`wcn36xx_start_tx` looks up; it does not matter which one it is. -/
def txChannel (is_low : Bool) (n : ℕ) (coherent : ℕ × BitVec 32) (pool : DxeMemPool)
    (vif : Wcn → SkBuff → WcnVif) : System TxChState (FifoEvent SkBuff) where
  init s := txChSetup is_low n coherent pool = some (s.wcn.txCh is_low) ∧ s.cursor = 0
  step s
    | .push skb accepted => do
      let (wcn, ret) ← dxeTxFrame s.wcn (some (vif s.wcn skb)) skb is_low
      if accepted = decide (ret = 0) then some { s with wcn := wcn } else none
    | .complete =>
      if ((s.wcn.txCh is_low).dxe s.cursor).valid then
        some { wcn := dmaComplete s.wcn is_low s.cursor, cursor := (s.cursor + 1) % n }
      else none
    | .collect removed => do
      let wcn ← reapTxDxes s.wcn is_low
      if removed = unmapped (wcn.log.drop s.wcn.log.length) then some { s with wcn := wcn } else none

/-- A TX channel of `n` descriptors represents a queue: the ring holds the items, and the completed
parts are the blocks that the DMA engine has left behind since the first block of the oldest item. -/
def TxRefines (is_low : Bool) (n : ℕ) (pool : DxeMemPool) (s : TxChState) (f : Fifo SkBuff 2) :
    Prop :=
  ∃ T D H, TxRing pool (s.wcn.txCh is_low) T D H f.items ∧
    (s.wcn.txCh is_low).tail_blk_ctl = some ((s.wcn.txCh is_low).blk T) ∧
    (s.wcn.txCh is_low).desc_num = n ∧ s.cursor = D % n ∧
    f.cap = n / 2 ∧ f.completed = D - 2 * (T / 2)

namespace TxRing

variable {pool : DxeMemPool} {ch : DxeCh} {T D H : ℕ} {q : List SkBuff}
  (h : TxRing pool ch T D H q)
include h

/-- Part `p` of frame `i` is at position `2 * (T / 2) + 2 * i + p`, and its descriptor is VALID until
the DMA engine has passed it. -/
theorem part_valid {i p : ℕ} (hi : i < q.length) (hp : p < 2) :
    ch.slotValid (2 * (T / 2) + 2 * i + p) = decide (D ≤ 2 * (T / 2) + 2 * i + p) := by
  have hlen := h.length
  have hle := h.head_le
  have hH := h.head_even
  have hTD := h.tail_le
  have hDH := h.dev_le
  have heven := h.ready.even
  by_cases hin : T ≤ 2 * (T / 2) + 2 * i + p
  · rw [h.valid _ hin (by omega)]
    exact decide_eq_decide.mpr (by omega)
  · -- The reaper stopped behind the BD of the oldest frame; one lap on, that block is free.
    rw [← DxeCh.slotValid_add, h.valid _ (by omega) (by omega)]
    exact decide_eq_decide.mpr (by omega)

/-- The second part of frame `i` holds the frame. -/
theorem part_skb {i : ℕ} (hi : i < q.length) : ch.slotSkb (2 * (T / 2) + 2 * i + 1) = q[i]? := by
  have hlen := h.length
  have hle := h.head_le
  have hH := h.head_even
  rw [h.skb _ (by omega) (by omega), if_pos (by omega)]
  congr 1
  omega

/-- Following the ring from a position. -/
theorem follow_eq (steps k : ℕ) : ch.follow steps (ch.blk k) = some (ch.blk (k + steps)) := by
  induction steps generalizing k with
  | zero => rfl
  | succ steps ih =>
    simp only [DxeCh.follow, h.ready.ring.nextOf, Option.bind_eq_bind, Option.bind_some, ih]
    rw [Nat.add_right_comm, Nat.add_assoc]

/-- The blocks of frame `i`. -/
theorem frameBlks_eq {i : ℕ} (hi : i < q.length) :
    ch.frameBlks q.length i =
      some (ch.blk (2 * (T / 2) + 2 * i), ch.blk (2 * (T / 2) + 2 * i + 1)) := by
  have hlen := h.length
  have hle := h.head_le
  have hH := h.head_even
  have heven := h.ready.even
  have hback : H + (ch.desc_num - 2 * (q.length - i)) = 2 * (T / 2) + 2 * i + ch.desc_num := by
    omega
  simp only [DxeCh.frameBlks, h.head, Option.bind_eq_bind, Option.bind_some, h.follow_eq, hback,
    DxeCh.blk_add, h.ready.ring.nextOf, Option.pure_def]

/-- A frame is processed when the DMA engine has passed both of its blocks. -/
theorem processed_eq {i : ℕ} (hi : i < q.length) :
    ch.processed q.length i = decide (2 * (T / 2) + 2 * i + 1 < D) := by
  rw [DxeCh.processed, h.frameBlks_eq hi]
  have hbd := h.part_valid (p := 0) hi (by omega)
  have hskb := h.part_valid (p := 1) hi (by omega)
  rw [Nat.add_zero] at hbd
  simp only [h.ready.ring.validAt, hbd, hskb, Option.some.injEq, decide_eq_false_iff_not]
  rw [← Bool.decide_and]
  exact decide_eq_decide.mpr (by omega)

end TxRing

/-! ## The steps refine the steps of the queue -/

section Steps

variable {is_low : Bool} {n : ℕ} {pool : DxeMemPool} {s : TxChState} {f : Fifo SkBuff 2}
  (h : TxRefines is_low n pool s f)
include h

/-- `wcn36xx_dxe_tx_frame` returns, never with `-EINVAL`: it refuses the frame with `-EBUSY` at
capacity and appends it otherwise. -/
theorem TxRefines.dxeTxFrame (vif_priv : WcnVif) (skb : SkBuff) :
    ∃ wcn, dxeTxFrame s.wcn (some vif_priv) skb is_low =
        some (wcn, if f.items.length = n / 2 then -EBUSY else 0) ∧
      TxRefines is_low n pool { s with wcn := wcn } (f.push skb) := by
  obtain ⟨T, D, H, hring, htail, hn, hcur, hcap, hcomp⟩ := h
  have hfull := hring.slotSkb_succ_head
  by_cases hlen : f.items.length = n / 2
  · rw [hn, decide_eq_true hlen] at hfull
    refine ⟨_, by rw [if_pos hlen, dxeTxFrame_busy hring.ready hring.head hfull], ?_⟩
    have hpush : f.push skb = f := by rw [Fifo.push, if_pos (by rw [hcap, hlen])]
    rw [hpush]
    exact ⟨T, D, H, hring, htail, hn, hcur, hcap, hcomp⟩
  · rw [hn, decide_eq_false hlen] at hfull
    have hfree : (s.wcn.txCh is_low).slotSkb (H + 1) = none := by
      cases hs : (s.wcn.txCh is_low).slotSkb (H + 1) with
      | none => rfl
      | some _ => rw [hs] at hfull; cases hfull
    obtain ⟨phy, hrun⟩ :=
      dxeTxFrame_accept hring.ready hring.head hring.head_even hfree (some vif_priv) skb
    rw [dxeTxKick_spec, Option.map_some] at hrun
    refine ⟨_, by rw [if_neg hlen, hrun], T, D, H + 2, ?_⟩
    have hpush : f.push skb = { f with items := f.items ++ [skb] } := by
      rw [Fifo.push, if_neg (by rw [hcap]; exact hlen)]
    rw [hpush, Wcn.emit_txCh, Wcn.emit_txCh, Wcn.txCh_setTxCh]
    exact ⟨hring.accept (by rw [hn]; exact hlen) phy skb, htail, hn, hcur, hcap, hcomp⟩

/-- The DMA engine finds a VALID descriptor exactly when the queue has a part to complete. -/
theorem TxRefines.valid_cursor :
    ((s.wcn.txCh is_low).dxe s.cursor).valid = decide (f.completed < 2 * f.items.length) := by
  obtain ⟨T, D, H, hring, -, hn, hcur, -, hcomp⟩ := h
  have hdev := hring.slotValid_dev
  rw [DxeCh.slotValid, hn, ← hcur] at hdev
  have hlen := hring.length
  have hH := hring.head_even
  have hTD := hring.tail_le
  rw [hdev]
  exact decide_eq_decide.mpr (by omega)

/-- The DMA engine completes the oldest part. -/
theorem TxRefines.dmaComplete (hlt : f.completed < 2 * f.items.length) :
    TxRefines is_low n pool
      { wcn := dmaComplete s.wcn is_low s.cursor, cursor := (s.cursor + 1) % n }
      { f with completed := f.completed + 1 } := by
  obtain ⟨T, D, H, hring, htail, hn, hcur, hcap, hcomp⟩ := h
  have hlen := hring.length
  have hH := hring.head_even
  have hTD := hring.tail_le
  refine ⟨T, D + 1, H, ?_⟩
  have hch : (Wcn36xx.dmaComplete s.wcn is_low s.cursor).txCh is_low =
      (s.wcn.txCh is_low).modDesc (D % (s.wcn.txCh is_low).desc_num) DxeDesc.clearValid := by
    rw [Wcn36xx.dmaComplete, Wcn.txCh_setTxCh, hcur, hn]
  dsimp only
  rw [hch]
  refine ⟨hring.complete (by omega), htail, hn, ?_, hcap, by omega⟩
  rw [hcur, Nat.mod_add_mod]

/-- `reap_tx_dxes` returns, and removes the prefix of complete items. -/
theorem TxRefines.reapTxDxes :
    ∃ wcn, reapTxDxes s.wcn is_low = some wcn ∧
      unmapped (wcn.log.drop s.wcn.log.length) = f.complete ∧
      TxRefines is_low n pool { s with wcn := wcn } f.collect := by
  obtain ⟨T, D, H, hring, htail, hn, hcur, hcap, hcomp⟩ := h
  obtain ⟨ch, fs, hrun, hring', htail', htake, hch⟩ := reapTxDxes_spec hring htail
  have hTD := hring.tail_le
  have hcount : D / 2 - T / 2 = f.completed / 2 := by omega
  refine ⟨_, hrun, ?_, D, D, H, ?_⟩
  · rw [reapedWcn, List.drop_left, unmapped_reapEffects, htake, hcount, Fifo.complete]
  · rw [txCh_reapedWcn]
    refine ⟨?_, htail', by rw [hch]; exact hn, hcur, hcap, ?_⟩
    · rw [Fifo.collect, ← hcount]
      exact hring'
    · simp only [Fifo.collect, hcomp]
      omega

/-- The head is a BD block, followed by a block without BD. -/
theorem TxRefines.head_bd :
    ∃ b c k d, (s.wcn.txCh is_low).head_blk_ctl = some b ∧ (s.wcn.txCh is_low).ctl b = some c ∧
      0 < c.bd_cpu_addr ∧ c.next = some k ∧ (s.wcn.txCh is_low).ctl k = some d ∧
      d.bd_cpu_addr = 0 := by
  obtain ⟨T, D, H, hring, -⟩ := h
  obtain ⟨c, hc, hnext, -, hbd⟩ := hring.ready.ctl H
  obtain ⟨d, hd, -, -, hbd'⟩ := hring.ready.ctl (H + 1)
  have hH := hring.head_even
  refine ⟨_, c, _, d, hring.head, hc, ?_, hnext, hd, ?_⟩
  · rw [hbd]
    exact (hring.ready.bdAddr_pos_iff H).mpr hH
  · have hnot := (hring.ready.bdAddr_pos_iff (H + 1)).not.mpr (by omega)
    rw [hbd']
    omega

/-- The blocks of the frames in the ring, and the frames that are complete. -/
theorem TxRefines.frames {i : ℕ} (hi : i < f.items.length) :
    (∃ b k, (s.wcn.txCh is_low).frameBlks f.items.length i = some (b, k) ∧
      (s.wcn.txCh is_low).skbAt k = f.items[i]?) ∧
    ((s.wcn.txCh is_low).processed f.items.length i = true ↔ f.Done i 0 ∧ f.Done i 1) := by
  obtain ⟨T, D, H, hring, -, -, -, -, hcomp⟩ := h
  refine ⟨⟨_, _, hring.frameBlks_eq hi, hring.part_skb hi⟩, ?_⟩
  rw [hring.processed_eq hi, decide_eq_true_iff]
  simp only [Fifo.Done]
  omega

end Steps

/-- The steps of a TX channel are matched by the steps of a queue of capacity `n / 2`. -/
theorem txChannel_simulation (is_low : Bool) {n : ℕ} (hn : 2 ≤ n) (heven : n % 2 = 0)
    (coherent : ℕ × BitVec 32) {pool : DxeMemPool} (hvirt : 0 < pool.virt_addr)
    (vif : Wcn → SkBuff → WcnVif) :
    System.Simulation (txChannel is_low n coherent pool vif) (Fifo.system (n / 2))
      (TxRefines is_low n pool) where
  init s hs := by
    obtain ⟨hsetup, hcur⟩ := hs
    obtain ⟨ch, hch, hdn, hring, htail⟩ := txChSetup_ring is_low hn heven coherent hvirt
    rw [hch, Option.some.injEq] at hsetup
    rw [hsetup] at hdn hring htail
    exact ⟨⟨n / 2, [], 0⟩, rfl, 0, 0, 0, hring, htail, hdn, by rw [hcur, Nat.zero_mod], rfl, rfl⟩
  step s f e s' h hstep := by
    cases e with
    | push skb acc =>
      obtain ⟨wcn, hrun, hR⟩ := h.dxeTxFrame (vif s.wcn skb) skb
      simp only [txChannel, hrun, Option.bind_eq_bind, Option.bind_some,
        Option.ite_none_right_eq_some, Option.some.injEq] at hstep
      obtain ⟨hacc, rfl⟩ := hstep
      have hcap : f.cap = n / 2 := by obtain ⟨_, _, _, _, _, _, _, hcap, _⟩ := h; exact hcap
      refine ⟨f.push skb, ?_, hR⟩
      have hval : acc = (f.items.length != f.cap) := by
        rw [hacc, hcap]
        by_cases hlen : f.items.length = n / 2
        · rw [if_pos hlen, hlen, bne_self_eq_false]
          rfl
        · rw [if_neg hlen, bne_iff_ne.mpr hlen]
          rfl
      simp only [Fifo.system, if_pos hval]
    | complete =>
      simp only [txChannel, h.valid_cursor, decide_eq_true_eq, Option.ite_none_right_eq_some,
        Option.some.injEq] at hstep
      obtain ⟨hlt, rfl⟩ := hstep
      exact ⟨_, by simp only [Fifo.system, if_pos hlt], h.dmaComplete hlt⟩
    | collect xs =>
      obtain ⟨wcn, hrun, hremoved, hR⟩ := h.reapTxDxes
      simp only [txChannel, hrun, hremoved, Option.bind_eq_bind, Option.bind_some,
        Option.ite_none_right_eq_some, Option.some.injEq] at hstep
      obtain ⟨rfl, rfl⟩ := hstep
      exact ⟨f.collect, by simp only [Fifo.system, if_true], hR⟩

/-- What the driver does on a TX channel of `n` descriptors on which the frames `q` have been accepted
and not been reaped. -/
structure TxQueue (is_low : Bool) (n : ℕ) (s : TxChState) (q : List SkBuff) : Prop where
  /-- `wcn36xx_dxe_tx_frame` returns `-EBUSY` exactly at `n / 2` frames, and 0 otherwise. -/
  tx_frame : ∀ vif_priv skb, ∃ wcn, dxeTxFrame s.wcn (some vif_priv) skb is_low =
    some (wcn, if q.length = n / 2 then -EBUSY else 0)
  /-- The frames are in the ring, in order, each in its own pair of blocks. -/
  frames : ∀ i, i < q.length → ∃ b k, (s.wcn.txCh is_low).frameBlks q.length i = some (b, k) ∧
    (s.wcn.txCh is_low).skbAt k = q[i]?
  /-- `reap_tx_dxes` returns, and removes the maximal prefix of frames whose two descriptors are
  not VALID. -/
  reap : ∃ wcn m, reapTxDxes s.wcn is_low = some wcn ∧ m ≤ q.length ∧
    unmapped (wcn.log.drop s.wcn.log.length) = q.take m ∧
    (∀ i, i < m → (s.wcn.txCh is_low).processed q.length i = true) ∧
    (m < q.length → (s.wcn.txCh is_low).processed q.length m = false)
  /-- The head has a BD, and the block after it has none. -/
  head_bd : ∃ b c k d, (s.wcn.txCh is_low).head_blk_ctl = some b ∧
    (s.wcn.txCh is_low).ctl b = some c ∧ 0 < c.bd_cpu_addr ∧ c.next = some k ∧
    (s.wcn.txCh is_low).ctl k = some d ∧ d.bd_cpu_addr = 0

/-- A channel that represents a queue does with its items what `TxQueue` says. -/
theorem TxRefines.txQueue {is_low : Bool} {n : ℕ} {pool : DxeMemPool} {s : TxChState}
    {f : Fifo SkBuff 2} (h : TxRefines is_low n pool s f) : TxQueue is_low n s f.items where
  tx_frame vif_priv skb := by
    obtain ⟨wcn, hrun, -⟩ := h.dxeTxFrame vif_priv skb
    exact ⟨wcn, hrun⟩
  frames i hi := (h.frames hi).1
  reap := by
    obtain ⟨wcn, hrun, hremoved, -⟩ := h.reapTxDxes
    refine ⟨wcn, min (f.completed / 2) f.items.length, hrun, Nat.min_le_right _ _, ?_,
      fun i hi => ?_, fun hlt => ?_⟩
    · rw [hremoved, Fifo.complete, ← List.take_eq_take_min]
    · have hi' : i < f.completed / 2 := lt_of_lt_of_le hi (Nat.min_le_left _ _)
      have hlen : i < f.items.length := lt_of_lt_of_le hi (Nat.min_le_right _ _)
      exact (h.frames hlen).2.mpr
        ⟨Fifo.done_of_lt hi' Nat.zero_lt_two, Fifo.done_of_lt hi' Nat.one_lt_two⟩
    · have hm : min (f.completed / 2) f.items.length = f.completed / 2 := by omega
      rw [hm] at hlt ⊢
      cases hproc : (s.wcn.txCh is_low).processed f.items.length (f.completed / 2) with
      | false => rfl
      | true => exact absurd ((h.frames hlt).2.mp hproc).2 (f.not_done_div Nat.zero_lt_two)
  head_bd := h.head_bd

/-- A TX channel of even size refines a queue of capacity `n / 2`. In every run the frames that were
accepted and not reaped are, in order, a queue with the behaviour of `TxQueue`: a frame is refused
exactly at capacity, never with `-EINVAL`, and reaping takes the maximal complete prefix. -/
theorem txChannel_refines_fifo {n : ℕ} (hn : 2 ≤ n) (heven : n % 2 = 0) (pool : DxeMemPool)
    (hvirt : 0 < pool.virt_addr) (is_low : Bool) (coherent : ℕ × BitVec 32)
    (vif : Wcn → SkBuff → WcnVif) :
    System.Simulation (txChannel is_low n coherent pool vif) (Fifo.system (n / 2))
        (TxRefines is_low n pool) ∧
      ∀ s₀ es s, (txChannel is_low n coherent pool vif).init s₀ →
        (txChannel is_low n coherent pool vif).runFrom s₀ es = some s →
        ∃ q, Fifo.accepted es = Fifo.removed es ++ q ∧ TxQueue is_low n s q := by
  have hsim := txChannel_simulation is_low hn heven coherent hvirt vif
  refine ⟨hsim, fun s₀ es s hinit hrun => ?_⟩
  obtain ⟨f₀, hf₀, hR₀⟩ := hsim.init s₀ hinit
  obtain ⟨f, hf, hR⟩ := hsim.run hR₀ hrun
  have hcons := Fifo.runFrom_conserves hf
  rw [show f₀.items = [] by rw [show f₀ = ⟨n / 2, [], 0⟩ from hf₀], List.nil_append] at hcons
  exact ⟨f.items, hcons, hR.txQueue⟩

/-- The ring of the TX high channel, with ten descriptors, is a queue of five frames. -/
theorem txChannel_refines_fifo_tx_h :
    System.Simulation
      (txChannel false WCN36XX_DXE_CH_DESC_NUMB_TX_H (0x1000, 0x1000) ⟨144, 0x2000, 0x2000⟩
        fun _ _ => { type := .STATION, addr := [] })
      (Fifo.system 5) (TxRefines false WCN36XX_DXE_CH_DESC_NUMB_TX_H ⟨144, 0x2000, 0x2000⟩) :=
  (txChannel_refines_fifo (by decide) (by decide) ⟨144, 0x2000, 0x2000⟩ (by decide) false
    (0x1000, 0x1000) fun _ _ => { type := .STATION, addr := [] }).1

end Wcn36xx
