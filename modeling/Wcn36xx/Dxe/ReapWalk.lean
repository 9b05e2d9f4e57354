import Wcn36xx.Dxe.TxRing

/-!
# The walk of `reap_tx_dxes`

What `reap_tx_dxes` does on any ring, whatever is in its blocks: it walks from the tail over blocks that are
not VALID, takes the frames out of them, and stops at a VALID block or at the head, after one lap at
the latest.
-/

namespace Wcn36xx

/-- A walk of `reap_tx_dxes` over the `m` blocks from `T` on in a ring with its head at `H`: they are not
VALID, the walk takes the frames `fs` from them, and ends at a VALID block or the head. -/
structure ReapWalk (pool : DxeMemPool) (ch ch' : DxeCh) (T H m : ℕ)
    (fs : List (BitVec 32 × SkBuff)) : Prop where
  ready : TxReady pool ch'
  same : ch' = { ch with ctl := ch'.ctl }
  taken : ∀ k, ∀ i < m, k % ch.desc_num = (T + i) % ch.desc_num → ch'.slotSkb k = none
  kept : ∀ k, (∀ i < m, k % ch.desc_num ≠ (T + i) % ch.desc_num) → ch'.slotSkb k = ch.slotSkb k
  frames : ∀ f ∈ fs, ∃ i < m, ch.slotSkb (T + i) = some f.2
  invalid : ∀ i < m, ch.slotValid (T + i) = false
  inner : ∀ i, 0 < i → i < m → ch.blk (T + i) ≠ ch.blk H
  stop : ch.slotValid (T + m) = true ∨ 0 < m ∧ ch.blk (T + m) = ch.blk H

/-- One block that is not VALID. -/
theorem reapSkb_walk {pool : DxeMemPool} {is_low : Bool} {wcn : Wcn}
    (h : TxReady pool (wcn.txCh is_low)) (k : ℕ) :
    ∃ ch fs, reapSkb wcn is_low ((wcn.txCh is_low).blk k) = some (reapedWcn wcn is_low ch fs) ∧
      TxReady pool ch ∧ ch = { wcn.txCh is_low with ctl := ch.ctl } ∧
      (∀ j, ch.slotSkb j = if j % (wcn.txCh is_low).desc_num = k % (wcn.txCh is_low).desc_num then
        none else (wcn.txCh is_low).slotSkb j) ∧
      ∀ f ∈ fs, (wcn.txCh is_low).slotSkb k = some f.2 := by
  cases hskb : (wcn.txCh is_low).slotSkb k with
  | none =>
    refine ⟨wcn.txCh is_low, [], ?_, h, rfl, fun j => ?_, fun f hf => absurd hf List.not_mem_nil⟩
    · rw [reapSkb_none h hskb, reapedWcn_nil]
    · split_ifs with hj
      · rw [DxeCh.slotSkb, ((wcn.txCh is_low).blk_eq_iff j k).mpr hj]
        exact hskb
      · rfl
  | some skb =>
    obtain ⟨addr, hreap⟩ := reapSkb_some h hskb
    refine ⟨_, _, hreap, h.setSkb k none, rfl, fun j => h.ring.slotSkb_setSkb k j none, ?_⟩
    intro f hf
    rw [List.mem_singleton.mp hf]

/-- The loop of `reap_tx_dxes` is a walk, when the head is less than `fuel` blocks ahead. -/
theorem reapTxDxesLoop_walk {pool : DxeMemPool} {is_low : Bool} {H : ℕ} (fuel : ℕ) {wcn : Wcn} {k : ℕ}
    (h : TxReady pool (wcn.txCh is_low))
    (hhead : (wcn.txCh is_low).head_blk_ctl = some ((wcn.txCh is_low).blk H))
    (hreach : ∃ i, 0 < i ∧ i ≤ fuel ∧ (wcn.txCh is_low).blk (k + i) = (wcn.txCh is_low).blk H) :
    ∃ ch fs m, m ≤ fuel ∧ reapTxDxesLoop is_low fuel ((wcn.txCh is_low).blk k) wcn =
        some ((wcn.txCh is_low).blk (k + m), reapedWcn wcn is_low ch fs) ∧
      ReapWalk pool (wcn.txCh is_low) ch k H m fs := by
  induction fuel generalizing wcn k with
  | zero =>
    obtain ⟨i, hi, hle, -⟩ := hreach
    omega
  | succ fuel ih =>
    cases hvalid : (wcn.txCh is_low).slotValid k with
    | true =>
      refine ⟨wcn.txCh is_low, [], 0, Nat.zero_le _, ?_, h, rfl,
        fun j i hi => absurd hi (Nat.not_lt_zero i), fun j _ => rfl,
        fun f hf => absurd hf List.not_mem_nil, fun i hi => absurd hi (Nat.not_lt_zero i),
        fun i _ hi => absurd hi (Nat.not_lt_zero i), .inl hvalid⟩
      rw [reapTxDxesLoop, h.ring.validAt, hvalid, reapedWcn_nil]
      rfl
    | false =>
      obtain ⟨ch, fs, hreap, hready, hch, hskb, hfs⟩ := reapSkb_walk h k
      have hnum : ch.desc_num = (wcn.txCh is_low).desc_num := by rw [hch]
      have hblk : ∀ j, ch.blk j = (wcn.txCh is_low).blk j := fun j => by
        rw [DxeCh.blk, DxeCh.blk, hnum]
      have hval : ∀ j, ch.slotValid j = (wcn.txCh is_low).slotValid j := fun j => by
        rw [DxeCh.slotValid, DxeCh.slotValid, hch]
      rw [reapTxDxesLoop_succ h (by rw [txCh_reapedWcn]; exact hready)
        (by rw [txCh_reapedWcn, hnum]) fuel k hvalid hreap]
      simp only [txCh_reapedWcn, hblk, hval]
      have hhead' : ch.head_blk_ctl = some ((wcn.txCh is_low).blk H) := by rw [hch]; exact hhead
      by_cases hstop : ch.head_blk_ctl = some ((wcn.txCh is_low).blk (k + 1)) ∨
          (wcn.txCh is_low).slotValid (k + 1) = true
      · -- The walk is over this block only.
        refine ⟨ch, fs, 1, by omega, by rw [if_pos hstop], hready, hch, fun j i hi hj => ?_,
          fun j hj => ?_, fun f hf => ?_, fun i hi => ?_, fun i hi hi' => by omega, ?_⟩
        · rw [Nat.lt_one_iff.mp hi, Nat.add_zero] at hj
          rw [hskb j, if_pos hj]
        · have hj0 := hj 0 Nat.one_pos
          rw [Nat.add_zero] at hj0
          rw [hskb j, if_neg hj0]
        · exact ⟨0, Nat.one_pos, hfs f hf⟩
        · rwa [Nat.lt_one_iff.mp hi]
        · rcases hstop with hstop | hstop
          · refine .inr ⟨Nat.one_pos, ?_⟩
            exact (Option.some.inj (hhead'.symm.trans hstop)).symm
          · exact .inl hstop
      · -- The next block is neither VALID nor the head.
        obtain ⟨hnohead, hnovalid⟩ := not_or.mp hstop
        have hnext : (wcn.txCh is_low).blk (k + 1) ≠ (wcn.txCh is_low).blk H := fun heq =>
          hnohead (by rw [hhead', heq])
        obtain ⟨i, hi, hle, hiH⟩ := hreach
        have hi1 : i ≠ 1 := by
          rintro rfl
          exact hnext hiH
        have hreach' : ∃ i, 0 < i ∧ i ≤ fuel ∧ ch.blk (k + 1 + i) = ch.blk H := by
          refine ⟨i - 1, by omega, by omega, ?_⟩
          rw [hblk, hblk, ← hiH]
          congr 1
          omega
        obtain ⟨ch', fs', m, hm, hloop, hwalk⟩ := @ih (reapedWcn wcn is_low ch fs) (k + 1)
          (by rw [txCh_reapedWcn]; exact hready) (by rw [txCh_reapedWcn, hhead', hblk])
          (by rw [txCh_reapedWcn]; exact hreach')
        rw [txCh_reapedWcn] at hloop hwalk
        have hsum : ∀ i, k + 1 + i = k + (i + 1) := fun i => by omega
        refine ⟨ch', fs ++ fs', m + 1, by omega, ?_, hwalk.ready, ?_, fun j i hi hj => ?_,
          fun j hj => ?_, fun f hf => ?_, fun i hi => ?_, fun i hi hi' => ?_, ?_⟩
        · rw [if_neg hstop, ← hblk, hloop, reapedWcn_append, hblk, hsum]
        · rw [hwalk.same, hch]
        · -- A block that is taken first stays empty.
          by_cases hlater : ∃ i < m, j % ch.desc_num = (k + 1 + i) % ch.desc_num
          · obtain ⟨i, hi, hj⟩ := hlater
            exact hwalk.taken j i hi hj
          · rw [hwalk.kept j (fun i hi heq => hlater ⟨i, hi, heq⟩), hskb j, if_pos]
            cases i with
            | zero => exact hj
            | succ i =>
              refine absurd ⟨i, by omega, ?_⟩ hlater
              rw [hnum, hsum]
              exact hj
        · have hj0 := hj 0 (Nat.succ_pos m)
          rw [Nat.add_zero] at hj0
          rw [hwalk.kept j (fun i hi => ?_), hskb j, if_neg hj0]
          rw [hnum, hsum]
          exact hj (i + 1) (by omega)
        · rcases List.mem_append.mp hf with hf | hf
          · exact ⟨0, Nat.succ_pos m, hfs f hf⟩
          · obtain ⟨i, hi, hslot⟩ := hwalk.frames f hf
            refine ⟨i + 1, by omega, ?_⟩
            rw [hskb, hsum] at hslot
            split_ifs at hslot
            exact hslot
        · cases i with
          | zero => exact hvalid
          | succ i =>
            rw [← hsum, ← hval]
            exact hwalk.invalid i (by omega)
        · obtain ⟨i, rfl⟩ : ∃ i', i = i' + 1 := ⟨i - 1, by omega⟩
          rcases Nat.eq_zero_or_pos i with rfl | hpos
          · exact hnext
          · rw [← hsum, ← hblk, ← hblk]
            exact hwalk.inner i hpos (by omega)
        · rw [← hsum, ← hval, ← hblk, ← hblk]
          rcases hwalk.stop with hstop | ⟨-, hstop⟩
          · exact .inl hstop
          · exact .inr ⟨Nat.succ_pos m, hstop⟩

/-- `reap_tx_dxes` is a walk from the tail, where it leaves the new tail. -/
theorem reapTxDxes_walk {pool : DxeMemPool} {wcn : Wcn} {is_low : Bool} {T H : ℕ}
    (h : TxReady pool (wcn.txCh is_low))
    (hhead : (wcn.txCh is_low).head_blk_ctl = some ((wcn.txCh is_low).blk H))
    (htail : (wcn.txCh is_low).tail_blk_ctl = some ((wcn.txCh is_low).blk T)) :
    ∃ ch fs m, m ≤ (wcn.txCh is_low).desc_num ∧
      reapTxDxes wcn is_low = some (reapedWcn wcn is_low
        { ch with tail_blk_ctl := some ((wcn.txCh is_low).blk (T + m)) } fs) ∧
      ReapWalk pool (wcn.txCh is_low) ch T H m fs := by
  have hn := h.two_le
  -- The head is at most one lap ahead.
  obtain ⟨j, hle, hlt, hj⟩ := (Support.Cycle.consecutive 1 (wcn.txCh is_low).desc_num).exists_window
    (by omega) (T + 1) H
  have hreach : ∃ i, 0 < i ∧ i ≤ (wcn.txCh is_low).desc_num ∧
      (wcn.txCh is_low).blk (T + i) = (wcn.txCh is_low).blk H := by
    refine ⟨j - T, by omega, by omega, ?_⟩
    rw [Nat.add_sub_cancel' (by omega)]
    exact hj
  obtain ⟨ch, fs, m, hm, hloop, hwalk⟩ := reapTxDxesLoop_walk _ h hhead hreach
  refine ⟨ch, fs, m, hm, ?_, hwalk⟩
  simp only [reapTxDxes, htail, Option.bind_eq_bind, Option.bind_some, hloop, Option.pure_def,
    txCh_reapedWcn]
  cases is_low <;> rfl

end Wcn36xx
