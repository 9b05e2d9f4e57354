import Wcn36xx.Dxe.Interrupt

/-!
# The runs of the interrupt handlers

An RX channel, the steps of the two handlers between all that can happen in between, and the results:
`rxNoLost` for the RX channels, and `noLost_of_notOvertaken` for all four.
-/

namespace Wcn36xx

open Support (Cycle System walk walk_run)

/-! ## An RX channel -/

/-- The buffers of an RX channel that are armed and not drained are in the blocks from `P` to `E`, and the DMA
engine is at `D`. -/
structure RxUndrained (ch : DxeCh) (cursor : ℕ) (armed : List ℕ) (P D E : ℕ) : Prop where
  ready : RingReady ch
  rx : ch.ch_type = .rxL ∨ ch.ch_type = .rxH
  cursor_eq : cursor = D % ch.desc_num
  next_le : P ≤ D
  dev_le : D ≤ E
  end_le : E ≤ P + ch.desc_num
  valid : ∀ k, P ≤ k → k < P + ch.desc_num → ch.slotValid k = decide (D ≤ k ∧ k < E)
  armed_eq : armed = (List.range (E - P)).map fun j => (P + j) % ch.desc_num

/-- `wcn36xx_rx_handle_packets` comes to the block at position `P` next. While it works on a block, that block
is not armed. -/
def DrainPos (ch : DxeCh) (P E : ℕ) : Option DrainPc → Prop
  | none | some .intClr => ch.head_blk_ctl = some (ch.blk P) ∧ E = P + ch.desc_num
  | some (.check ctl) | some (.store ctl) => ctl = ch.blk P ∧ E = P + ch.desc_num
  | some (.fill ctl) => ctl = ch.blk (P + ch.desc_num - 1) ∧ E = P + ch.desc_num - 1
  | some (.rearm ctl dxe _ _) => ctl = ch.blk (P + ch.desc_num - 1) ∧
      dxe = (P + ch.desc_num - 1) % ch.desc_num ∧ E = P + ch.desc_num - 1
  | some (.deliver ctl _ _) => ctl = ch.blk (P + ch.desc_num - 1) ∧ E = P + ch.desc_num

/-- Where `wcn36xx_rx_handle_packets` is. After its last check the bit is set if the oldest descriptor is
completed. -/
structure DrainAt (ch : DxeCh) (raw : Bool) (pc : Option DrainPc) (P D E : ℕ) : Prop where
  pos : DrainPos ch P E pc
  final : checksRx pc = false → P < D → raw = true

section RxChannel

variable {ch : DxeCh} {cursor : ℕ} {armed : List ℕ} {raw : Bool} {pc : Option DrainPc} {P D E : ℕ}

/-- The two ends of the armed blocks belong to the place of the handler. -/
theorem DrainPos.congr {ch' : DxeCh} (h : DrainPos ch P E pc) (hn : ch'.desc_num = ch.desc_num)
    (hhead : ch'.head_blk_ctl = ch.head_blk_ctl) : DrainPos ch' P E pc := by
  have hblk : ∀ k, ch'.blk k = ch.blk k := fun k => by rw [DxeCh.blk, DxeCh.blk, hn]
  cases pc with
  | none =>
    unfold DrainPos at h ⊢
    rw [hhead, hblk, hn]
    exact h
  | some pc =>
    cases pc <;> unfold DrainPos at h ⊢ <;> simp only [hhead, hblk, hn] <;> exact h

/-- Other bits may be raised. -/
theorem DrainAt.mono {raw' : Bool} (a : DrainAt ch raw pc P D E) (hraw : raw = true → raw' = true) :
    DrainAt ch raw' pc P D E :=
  ⟨a.pos, fun hlast hlt => hraw (a.final hlast hlt)⟩

/-- At least one block is armed and not drained. -/
theorem DrainAt.lt (a : DrainAt ch raw pc P D E) (h : RxUndrained ch cursor armed P D E) : P < E := by
  have hn := h.ready.two_le
  have hpos := a.pos
  cases pc with
  | none =>
    unfold DrainPos at hpos
    omega
  | some pc => cases pc <;> unfold DrainPos at hpos <;> omega

/-- The device completes a descriptor. -/
theorem RxUndrained.dma (h : RxUndrained ch cursor armed P D E)
    (hvalid : (ch.dxe cursor).valid = true) :
    RxUndrained (ch.modDesc cursor DxeDesc.clearValid) ((cursor + 1) % ch.desc_num) armed P (D + 1)
      E := by
  have hPD := h.next_le
  have hDE := h.dev_le
  have hle := h.end_le
  have hn := h.ready.two_le
  have hslot : ch.slotValid D = true := by
    rw [DxeCh.slotValid, ← h.cursor_eq]
    exact hvalid
  have hlt : D < E := by
    rcases Nat.lt_or_ge D (P + ch.desc_num) with hin | hout
    · rw [h.valid D hPD hin, decide_eq_true_iff] at hslot
      exact hslot.2
    · obtain ⟨k, hk⟩ : ∃ k, D = k + ch.desc_num := ⟨D - ch.desc_num, by omega⟩
      rw [hk, DxeCh.slotValid_add, h.valid k (by omega) (by omega), decide_eq_true_iff] at hslot
      omega
  refine
    { ready := h.ready.modDesc _ _
      rx := h.rx
      cursor_eq := ?_
      next_le := Nat.le_succ_of_le hPD
      dev_le := hlt
      end_le := hle
      valid := fun k hk hk' => ?_
      armed_eq := h.armed_eq }
  · rw [h.cursor_eq, Nat.mod_add_mod]
    rfl
  · have hkn : k < P + ch.desc_num := hk'
    rw [h.cursor_eq, DxeCh.slotValid_modDesc, DxeDesc.valid_clearValid, h.valid k hk hkn]
    split_ifs with hkD
    · rw [mod_eq_iff ⟨hk, hkn⟩ ⟨hPD, by omega⟩] at hkD
      exact (decide_eq_false (by omega)).symm
    · have hne : k ≠ D := fun heq => hkD (by rw [heq])
      exact decide_eq_decide.mpr (by omega)

/-- A VALID block ends the loop. It is not completed. -/
theorem DrainAt.stop {ctl : ℕ} (a : DrainAt ch raw (some (.check ctl)) P D E)
    (h : RxUndrained ch cursor armed P D E) (hvalid : ch.slotValid P = true) :
    DrainAt ch raw (some (.store ctl)) P D E := by
  have hn := h.ready.two_le
  rw [h.valid P le_rfl (by omega), decide_eq_true_iff] at hvalid
  exact ⟨a.pos, fun _ hlt => by omega⟩

/-- The check finds the oldest block completed. -/
theorem DrainAt.check {ctl : ℕ} (a : DrainAt ch raw (some (.check ctl)) P D E)
    (h : RxUndrained ch cursor armed P D E) (hvalid : ch.slotValid P = false) :
    RxUndrained ch cursor (armed.erase (P % ch.desc_num)) (P + 1) D E ∧
      DrainAt ch raw (some (.fill ctl)) (P + 1) D E := by
  have hPD := h.next_le
  have hDE := h.dev_le
  have hle := h.end_le
  have hn := h.ready.two_le
  have hlt := a.lt h
  obtain ⟨hctl, hE⟩ := a.pos
  rw [h.valid P le_rfl (by omega), decide_eq_false_iff_not] at hvalid
  have hcount : E - P = E - (P + 1) + 1 := by omega
  have hmap : (fun j => (P + j) % ch.desc_num) ∘ Nat.succ =
      fun j => (P + 1 + j) % ch.desc_num := by
    funext j
    rw [Function.comp_apply, show P + Nat.succ j = P + 1 + j by omega]
  refine ⟨{ h with
      next_le := by omega
      end_le := by omega
      valid := fun k hk hk' => ?_
      armed_eq := ?_ }, ⟨?_, by omega⟩, fun hlast => by cases hlast⟩
  · rcases Nat.lt_or_ge k (P + ch.desc_num) with hin | hout
    · exact h.valid k (by omega) hin
    · obtain rfl : k = P + ch.desc_num := by omega
      rw [DxeCh.slotValid_add, h.valid P le_rfl (by omega)]
      exact decide_eq_decide.mpr (by omega)
  · rw [h.armed_eq, hcount, List.range_succ_eq_map, List.map_cons, Nat.add_zero,
      List.erase_cons_head, List.map_map, hmap]
  · rw [hctl, show P + 1 + ch.desc_num - 1 = P + ch.desc_num by omega, DxeCh.blk_add]

/-- What `wcn36xx_dxe_fill_skb` leaves as it is. -/
theorem dxeFillSkb_keeps {s s' : RxState} {k : ℕ} {ret : ℤ} (h : RingReady s.ch)
    (hrun : dxeFillSkb s (s.ch.blk k) = some (s', ret)) :
    RingReady s'.ch ∧ s'.ch.desc_num = s.ch.desc_num ∧ s'.ch.ch_type = s.ch.ch_type ∧
      s'.ch.head_blk_ctl = s.ch.head_blk_ctl ∧ ∀ j, s'.ch.slotValid j = s.ch.slotValid j := by
  cases ha : s.allocs with
  | nil =>
    obtain ⟨c, hc, -⟩ := h.ctl k
    simp only [dxeFillSkb, hc, ha, Option.bind_eq_bind, Option.bind_some, reduceCtorEq] at hrun
  | cons a rest =>
    cases a with
    | none =>
      obtain ⟨c, hc, -⟩ := h.ctl k
      simp only [dxeFillSkb, hc, ha, Option.bind_eq_bind, Option.bind_some, Option.pure_def,
        Option.some.injEq, Prod.mk.injEq] at hrun
      obtain ⟨rfl, -⟩ := hrun
      exact ⟨h, rfl, rfl, rfl, fun _ => rfl⟩
    | some dma =>
      rw [dxeFillSkb_some h k dma rest ha, Option.some.injEq, Prod.mk.injEq] at hrun
      obtain ⟨rfl, -⟩ := hrun
      refine ⟨ready_filledCh h k _, rfl, rfl, rfl, fun j => ?_⟩
      -- The address is another field of the descriptor.
      have hslot : (filledRx s k dma rest).ch.slotValid j = (s.ch.modDesc (k % s.ch.desc_num)
          fun d => { d with dst_addr_l := (s.newSkb dma).dma }).slotValid j := rfl
      rw [hslot, DxeCh.slotValid_modDesc]
      split_ifs with hj
      · rw [DxeCh.slotValid, hj]
        rfl
      · rfl

/-- Only the ring, the VALID bits, the kind and the size of a channel matter. -/
theorem RxUndrained.congr {ch' : DxeCh} (h : RxUndrained ch cursor armed P D E)
    (hready : RingReady ch') (hn : ch'.desc_num = ch.desc_num) (hty : ch'.ch_type = ch.ch_type)
    (hvalid : ∀ j, ch'.slotValid j = ch.slotValid j) : RxUndrained ch' cursor armed P D E where
  ready := hready
  rx := hty ▸ h.rx
  cursor_eq := hn ▸ h.cursor_eq
  next_le := h.next_le
  dev_le := h.dev_le
  end_le := hn ▸ h.end_le
  valid k hk hk' := by rw [hvalid, h.valid k hk (hn ▸ hk')]
  armed_eq := hn ▸ h.armed_eq

/-- The `switch` arms a block again. -/
theorem RxUndrained.rearm {s : RxState} (h : RxUndrained s.ch cursor armed P D E)
    (hE : E = P + s.ch.desc_num - 1) :
    RxUndrained (rxRearm s ((P + s.ch.desc_num - 1) % s.ch.desc_num)).ch cursor
      (armed ++ [(P + s.ch.desc_num - 1) % s.ch.desc_num]) P D (P + s.ch.desc_num) := by
  have hPD := h.next_le
  have hDE := h.dev_le
  have hn := h.ready.two_le
  obtain ⟨hctl, hnum, -⟩ := rxRearm_spec s ((P + s.ch.desc_num - 1) % s.ch.desc_num)
  -- Both control words make the descriptor VALID.
  obtain ⟨ctrl, hctrl, hch⟩ : ∃ ctrl : BitVec 32, ctrl &&& WCN36XX_DXE_CTRL_VALID_MASK ≠ 0 ∧
      (rxRearm s ((P + s.ch.desc_num - 1) % s.ch.desc_num)).ch =
        s.ch.modDesc ((P + s.ch.desc_num - 1) % s.ch.desc_num) fun d => { d with ctrl := ctrl } := by
    rcases h.rx with hty | hty
    · exact ⟨WCN36XX_DXE_CTRL_RX_L, by decide, by simp only [rxRearm, hty, RxState.emit]⟩
    · exact ⟨WCN36XX_DXE_CTRL_RX_H, by decide, by simp only [rxRearm, hty, RxState.emit]⟩
  refine
    { ready := h.ready.congr hnum hctl
      rx := by rw [hch]; exact h.rx
      cursor_eq := by rw [hnum]; exact h.cursor_eq
      next_le := hPD
      dev_le := by omega
      end_le := by rw [hnum]
      valid := fun k hk hk' => ?_
      armed_eq := ?_ }
  · rw [hnum] at hk'
    rw [hch, DxeCh.slotValid_modDesc, h.valid k hk hk']
    split_ifs with hmod
    · rw [mod_eq_iff (t := P) ⟨hk, hk'⟩ ⟨by omega, by omega⟩] at hmod
      have hv : DxeDesc.valid { s.ch.dxe ((P + s.ch.desc_num - 1) % s.ch.desc_num) with
          ctrl := ctrl } = true := valid_of_ctrl hctrl
      rw [hv]
      exact (decide_eq_true (by omega)).symm
    · have hne : k ≠ P + s.ch.desc_num - 1 := fun heq => hmod (by rw [heq])
      exact decide_eq_decide.mpr (by omega)
  · have hcount : P + s.ch.desc_num - P = E - P + 1 := by omega
    have hlast : P + (E - P) = P + s.ch.desc_num - 1 := by omega
    rw [hnum, h.armed_eq, hcount, List.range_succ, List.map_append, List.map_singleton, hlast]

/-- No completion is lost on a channel. -/
theorem DrainAt.noLost (a : DrainAt ch raw pc P D E) (h : RxUndrained ch cursor armed P D E) {i : ℕ}
    (hi : armed.head? = some i) (hvalid : (ch.dxe i).valid = false) :
    raw = true ∨ checksRx pc = true := by
  cases hmore : checksRx pc with
  | true => exact .inr rfl
  | false =>
    refine .inl (a.final hmore ?_)
    have hn := h.ready.two_le
    have hlt := a.lt h
    have hcount : E - P = E - (P + 1) + 1 := by omega
    rw [h.armed_eq, hcount, List.range_succ_eq_map, List.map_cons, List.head?_cons,
      Option.some.injEq, Nat.add_zero] at hi
    rw [← hi] at hvalid
    have hslot := h.valid P le_rfl (by omega)
    rw [DxeCh.slotValid, hvalid] at hslot
    have hnot := of_decide_eq_false hslot.symm
    omega

end RxChannel

/-! ## The start of an RX channel -/

/-- All descriptors of an RX channel are armed. -/
structure RxArmed (n : ℕ) (s : RxState) : Prop where
  ready : RingReady s.ch
  rx : s.ch.ch_type = .rxL ∨ s.ch.ch_type = .rxH
  desc_num : s.ch.desc_num = n
  head : s.ch.head_blk_ctl = some (s.ch.blk 0)
  valid : ∀ k, s.ch.slotValid k = true

/-- The set-up arms the descriptors. -/
theorem rxArmed_setup {is_low : Bool} {n : ℕ} {coherent : ℕ × BitVec 32} {ch : DxeCh} (hn : 2 ≤ n)
    (hsetup : rxChSetup is_low n coherent = some ch) (allocs : List (Option (BitVec 32))) :
    RxArmed n { ch := ch, allocs := allocs } := by
  have hnum : (rxChConfig is_low n).desc_num = n := rfl
  obtain ⟨A, ch', halloc, hinit, hch⟩ := ringSetup_spec (rxChConfig is_low n)
    (by rw [hnum]; exact hn) rfl coherent.1 coherent.2
  simp only [rxChSetup, halloc, hinit, Option.bind_eq_bind, Option.bind_some, Option.pure_def,
    Option.some.injEq] at hsetup
  subst hsetup
  have hdn : ch'.desc_num = n := hch.desc_num
  refine ⟨hch.ready (by rw [hnum]; exact hn), ?_, hdn, ?_, fun k => ?_⟩
  · have hty : ch'.ch_type = (rxChConfig is_low n).ch_type := by rw [hch.rest]
    change ch'.ch_type = .rxL ∨ ch'.ch_type = .rxH
    rw [hty]
    cases is_low
    · exact .inr rfl
    · exact .inl rfl
  · change ch'.head_blk_ctl = some (ch'.blk 0)
    rw [hch.head, DxeCh.blk, hdn, Cycle.consecutive_pos (by omega)]
  · change (ch'.dxe (k % ch'.desc_num)).valid = true
    rw [hch.dxe, hdn, hnum, initializedDesc, if_pos (Nat.mod_lt k (by omega))]
    cases is_low
    · exact (by decide : (WCN36XX_DXE_CTRL_RX_H &&& WCN36XX_DXE_CTRL_VALID_MASK != 0) = true)
    · exact (by decide : (WCN36XX_DXE_CTRL_RX_L &&& WCN36XX_DXE_CTRL_VALID_MASK != 0) = true)

/-- `wcn36xx_dxe_ch_alloc_skb` leaves them armed, whether it finds memory or not. -/
theorem RxArmed.chAllocSkb {n : ℕ} {s s' : RxState} (h : RxArmed n s)
    (hrun : dxeChAllocSkb s = some s') : RxArmed n s' := by
  simp only [dxeChAllocSkb, h.head, h.desc_num, Option.bind_eq_bind, Option.bind_eq_some_iff,
    Option.pure_def, Option.some.injEq] at hrun
  obtain ⟨⟨u, s₁⟩, hwalk, rfl⟩ := hrun
  have hblk : ∀ t : RxState, t.ch.desc_num = n → ∀ j, t.ch.blk j = s.ch.blk j := fun t ht j => by
    rw [DxeCh.blk, DxeCh.blk, ht, h.desc_num]
  refine walk_run _ _ s.ch.blk (fun _ _ t => RxArmed n t) n ?_ n 0 () s u s₁ (Nat.zero_add n) h
    hwalk
  intro i _ t _ t' hi hI hbody
  obtain ⟨⟨t₁, ret⟩, hfill, heq⟩ := Option.map_eq_some_iff.mp hbody
  cases heq
  rw [← hblk t hI.desc_num] at hfill
  obtain ⟨hready, hnum, hty, hhead, hvalid⟩ := dxeFillSkb_keeps hI.ready hfill
  have hI' : RxArmed n t₁ :=
    ⟨hready, hty ▸ hI.rx, hnum.trans hI.desc_num,
      hhead.trans (by rw [hI.head, DxeCh.blk, DxeCh.blk, hnum]), fun k => by rw [hvalid, hI.valid]⟩
  refine ⟨?_, hI'⟩
  rw [← hblk _ hI'.desc_num, ← hblk _ hI'.desc_num]
  exact hready.nextOf i

/-- The channel after its start. -/
theorem RxArmed.undrained {n : ℕ} {s : RxState} (h : RxArmed n s) (raw : Bool) :
    RxUndrained s.ch 0 (List.range n) 0 0 s.ch.desc_num ∧
      DrainAt s.ch raw none 0 0 s.ch.desc_num := by
  have hn := h.ready.two_le
  refine ⟨
    { ready := h.ready
      rx := h.rx
      cursor_eq := (Nat.zero_mod _).symm
      next_le := le_rfl
      dev_le := Nat.zero_le _
      end_le := by omega
      valid := fun k _ hk => ?_
      armed_eq := ?_ }, ⟨h.head, by omega⟩, fun _ hlt => by omega⟩
  · rw [h.valid]
    exact (decide_eq_true (by omega)).symm
  · have hid : ∀ j ∈ List.range n, (0 + j) % s.ch.desc_num = j := fun j hj => by
      rw [Nat.zero_add, h.desc_num, Nat.mod_eq_of_lt (List.mem_range.mp hj)]
    rw [Nat.sub_zero, h.desc_num]
    conv_lhs => rw [← List.map_id (List.range n)]
    refine List.map_congr_left fun j hj => ?_
    rw [← h.desc_num, hid j hj]
    rfl

/-! ## The steps of the handlers -/

/-- The next step of the TX handler on its channel. -/
theorem TxIrq.pcOn_with (irq : TxIrq) (pc : ReapPc) (is_low : Bool) :
    ({ irq with pc := pc } : TxIrq).pcOn is_low =
      if irq.is_low = is_low then some pc else irq.pcOn is_low := by
  unfold TxIrq.pcOn
  split_ifs <;> rfl

/-- Where the handler is after it has read the bits. -/
theorem txIrqBegin_pcOn (int_src : BitVec 32) (is_low : Bool) :
    ((txIrqBegin int_src).bind fun irq => irq.pcOn is_low) =
      if intPending int_src (txIntMask is_low) then some .intClr else none := by
  unfold txIrqBegin txIrqLow
  cases hhigh : intPending int_src (txIntMask false) <;>
    cases hlow : intPending int_src (txIntMask true) <;> cases is_low <;>
      simp [TxIrq.pcOn, hhigh, hlow]

/-- Where it is after the section of a channel. -/
theorem txIrqNext_pcOn (irq : TxIrq) (is_low : Bool) :
    ((if irq.is_low then none else txIrqLow irq.int_src).bind fun irq => irq.pcOn is_low) =
      if irq.is_low = is_low then none else irq.pcOn is_low := by
  obtain ⟨int_src, is_low', pc⟩ := irq
  unfold txIrqLow
  cases hlow : intPending int_src (txIntMask true) <;> cases is_low <;> cases is_low' <;>
    simp [TxIrq.pcOn, hlow]

/-- The next step of the RX handler on its channel. -/
theorem RxIrq.pcOn_with (irq : RxIrq) (pc : DrainPc) (is_low : Bool) :
    ({ irq with pc := pc } : RxIrq).pcOn is_low =
      if irq.is_low = is_low then some pc else irq.pcOn is_low := by
  unfold RxIrq.pcOn
  split_ifs <;> rfl

/-- Where the handler is after it has read the bits. -/
theorem rxIrqBegin_pcOn (int_src : BitVec 32) (is_low : Bool) :
    ((rxIrqBegin int_src).bind fun irq => irq.pcOn is_low) =
      if intPending int_src (rxIntMask is_low) then some .intClr else none := by
  unfold rxIrqBegin rxIrqHigh
  cases hhigh : intPending int_src (rxIntMask false) <;>
    cases hlow : intPending int_src (rxIntMask true) <;> cases is_low <;>
      simp [RxIrq.pcOn, hhigh, hlow]

/-- Where it is after the section of a channel. -/
theorem rxIrqNext_pcOn (irq : RxIrq) (is_low : Bool) :
    ((if irq.is_low then rxIrqHigh irq.int_src else none).bind fun irq => irq.pcOn is_low) =
      if irq.is_low = is_low then none else irq.pcOn is_low := by
  obtain ⟨int_src, is_low', pc⟩ := irq
  unfold rxIrqHigh
  cases hhigh : intPending int_src (rxIntMask false) <;> cases is_low <;> cases is_low' <;>
    simp [RxIrq.pcOn, hhigh]

/-- What a check drains. -/
theorem completedAt_eq {ch : DxeCh} (hring : RingReady ch) (k : ℕ) :
    completedAt ch (ch.blk k) = if ch.slotValid k then none else some (k % ch.desc_num) := by
  obtain ⟨c, hc, -, hdesc⟩ := hring.ctl k
  simp only [completedAt, hc, hdesc, Option.bind_eq_bind, Option.bind_some, DxeCh.slotValid]
  rfl

/-- A step of the TX handler leaves the bits, or clears its channel's. -/
theorem txIrqStep_raw {wcn wcn' : Wcn} {raw raw' : BitVec 32} {irq : TxIrq} {irq' : Option TxIrq}
    (hstep : txIrqStep wcn raw irq = some (wcn', raw', irq')) :
    raw' = raw ∨ raw' = raw &&& ~~~txIntMask irq.is_low := by
  unfold txIrqStep at hstep
  cases hpc : irq.pc <;> rw [hpc] at hstep <;>
    simp only [Option.bind_eq_bind, Option.bind_eq_some_iff, Option.pure_def, Option.some.injEq,
      Prod.mk.injEq] at hstep
  case intClr =>
    obtain ⟨-, rfl, -⟩ := hstep
    exact .inr rfl
  case store =>
    obtain ⟨-, rfl, -⟩ := hstep
    exact .inl rfl
  case next =>
    obtain ⟨_, -, _, -, -, rfl, -⟩ := hstep
    exact .inl rfl
  all_goals
    obtain ⟨_, -, -, rfl, -⟩ := hstep
    exact .inl rfl

/-- A step of the RX handler leaves the bits, or clears its channel's. -/
theorem rxIrqStep_raw {s s' : RxState} {raw raw' : BitVec 32} {irq : RxIrq} {irq' : Option RxIrq}
    (hstep : rxIrqStep s raw irq = some (s', raw', irq')) :
    raw' = raw ∨ raw' = raw &&& ~~~rxIntMask irq.is_low := by
  unfold rxIrqStep at hstep
  cases hpc : irq.pc <;> rw [hpc] at hstep <;>
    simp only [Option.bind_eq_bind, Option.bind_eq_some_iff, Option.pure_def, Option.some.injEq,
      Prod.mk.injEq] at hstep
  case intClr =>
    obtain ⟨_, -, -, rfl, -⟩ := hstep
    exact .inr rfl
  case check =>
    obtain ⟨_, -, -, rfl, -⟩ := hstep
    exact .inl rfl
  case fill =>
    obtain ⟨_, -, _, -, _, -, -, rfl, -⟩ := hstep
    exact .inl rfl
  case deliver =>
    obtain ⟨_, -, _, -, _, -, -, rfl, -⟩ := hstep
    exact .inl rfl
  all_goals
    obtain ⟨-, rfl, -⟩ := hstep
    exact .inl rfl

/-- A step of the TX handler keeps the place of `reap_tx_dxes` on its channel, and touches no other. -/
theorem txIrqStep_spec {pool : DxeMemPool} {wcn wcn' : Wcn} {raw raw' : BitVec 32} {irq : TxIrq}
    {irq' : Option TxIrq} {cursor : ℕ} {frames : List ℕ} {P D H R : ℕ}
    (h : TxUndrained pool (wcn.txCh irq.is_low) cursor frames D H R)
    (a : ReapAt (wcn.txCh irq.is_low) (intPending raw (txIntMask irq.is_low)) (some irq.pc) P D H R)
    (hstep : txIrqStep wcn raw irq = some (wcn', raw', irq')) :
    (∃ P' R', TxUndrained pool (wcn'.txCh irq.is_low) cursor
        ((irq.pc.drains (wcn.txCh irq.is_low)).elim frames frames.erase) D H R' ∧
      ReapAt (wcn'.txCh irq.is_low) (intPending raw' (txIntMask irq.is_low))
        (irq'.bind fun i => i.pcOn irq.is_low) P' D H R') ∧
    ∀ b, b ≠ irq.is_low → wcn'.txCh b = wcn.txCh b ∧
      (irq'.bind fun i => i.pcOn b) = irq.pcOn b := by
  have hring := h.ready.ring
  have hon : ∀ pc, (some { irq with pc := pc }).bind (fun i : TxIrq => i.pcOn irq.is_low) =
      some pc := fun pc => by rw [Option.bind_some, irq.pcOn_with, if_pos rfl]
  have hother : ∀ pc b, b ≠ irq.is_low →
      (some { irq with pc := pc }).bind (fun i : TxIrq => i.pcOn b) = irq.pcOn b :=
    fun pc b hb => by rw [Option.bind_some, irq.pcOn_with, if_neg (Ne.symm hb)]
  unfold txIrqStep at hstep
  cases hpc : irq.pc with
  | intClr =>
    rw [hpc] at a hstep
    simp only [Option.pure_def, Option.some.injEq, Prod.mk.injEq] at hstep
    obtain ⟨rfl, rfl, rfl⟩ := hstep
    refine ⟨⟨P, R, h, ?_⟩, fun b hb => ⟨rfl, hother _ b hb⟩⟩
    rw [hon]
    exact a.clear _
  | intEdClr =>
    rw [hpc] at a hstep
    have htail : (wcn.txCh irq.is_low).tail_blk_ctl = some ((wcn.txCh irq.is_low).blk P) := a.pos
    simp only [htail, Option.bind_eq_bind, Option.bind_some, Option.pure_def, Option.some.injEq,
      Prod.mk.injEq] at hstep
    obtain ⟨rfl, rfl, rfl⟩ := hstep
    refine ⟨⟨P, R, h, ?_⟩, fun b hb => ⟨rfl, hother _ b hb⟩⟩
    rw [hon]
    exact a.enter
  | check ctl =>
    rw [hpc] at a hstep
    have hctl : ctl = (wcn.txCh irq.is_low).blk P := a.pos
    simp only [hctl, hring.validAt, Option.bind_eq_bind, Option.bind_some, Option.pure_def,
      Option.some.injEq, Prod.mk.injEq] at hstep
    obtain ⟨rfl, rfl, rfl⟩ := hstep
    refine ⟨?_, fun b hb => ⟨rfl, hother _ b hb⟩⟩
    rw [hon, ReapPc.drains, hctl, completedAt_eq hring]
    cases hvalid : (wcn.txCh irq.is_low).slotValid P with
    | true => exact ⟨P, R, h, hctl ▸ a.stop h (.inl rfl) hvalid⟩
    | false =>
      obtain ⟨P', R', h', a'⟩ := a.check h hvalid
      exact ⟨P', R', h', hctl ▸ a'⟩
  | release ctl =>
    rw [hpc] at a hstep
    have hctl : ctl = (wcn.txCh irq.is_low).blk (P + (wcn.txCh irq.is_low).desc_num - 1) := a.pos
    obtain ⟨ch, fs, hreap, hready, hsame, hskb, -⟩ := reapSkb_walk h.ready
      (P + (wcn.txCh irq.is_low).desc_num - 1)
    simp only [hctl, hreap, Option.bind_eq_bind, Option.bind_some, Option.pure_def,
      Option.some.injEq, Prod.mk.injEq] at hstep
    obtain ⟨rfl, rfl, rfl⟩ := hstep
    refine ⟨⟨P, R, ?_⟩, fun b hb => ⟨Wcn.txCh_setTxCh_ne wcn hb ch, hother _ b hb⟩⟩
    rw [hon, txCh_reapedWcn, ← hctl]
    exact a.release h hready hsame hskb
  | next ctl =>
    rw [hpc] at a hstep
    have hnext : (wcn.txCh irq.is_low).nextOf ctl = some (some ((wcn.txCh irq.is_low).blk P)) := by
      have hctl : ctl = (wcn.txCh irq.is_low).blk (P + (wcn.txCh irq.is_low).desc_num - 1) := a.pos
      rw [hctl, hring.nextOf, DxeCh.blk_pred h.ready.two_le]
    simp only [hnext, Option.bind_eq_bind, Option.bind_some, Option.pure_def, Option.some.injEq,
      Prod.mk.injEq] at hstep
    obtain ⟨rfl, rfl, rfl⟩ := hstep
    refine ⟨⟨P, R, h, ?_⟩, fun b hb => ⟨rfl, hother _ b hb⟩⟩
    rw [hon, h.head]
    split_ifs with hhead
    · exact a.atHead h (Option.some.inj hhead).symm
    · exact a.again
  | again ctl =>
    rw [hpc] at a hstep
    have hctl : ctl = (wcn.txCh irq.is_low).blk P := a.pos
    simp only [hctl, hring.validAt, Option.bind_eq_bind, Option.bind_some, Option.pure_def,
      Option.some.injEq, Prod.mk.injEq] at hstep
    obtain ⟨rfl, rfl, rfl⟩ := hstep
    refine ⟨⟨P, R, h, ?_⟩, fun b hb => ⟨rfl, hother _ b hb⟩⟩
    rw [hon]
    split_ifs with hvalid
    · exact hctl ▸ a.stop h (.inr rfl) hvalid
    · exact hctl ▸ a.goOn
  | store ctl =>
    rw [hpc] at a hstep
    simp only [Option.pure_def, Option.some.injEq, Prod.mk.injEq] at hstep
    obtain ⟨rfl, rfl, rfl⟩ := hstep
    refine ⟨⟨P, R, ?_⟩, fun b hb => ⟨Wcn.txCh_setTxCh_ne wcn hb _, ?_⟩⟩
    · rw [txIrqNext_pcOn, if_pos rfl, Wcn.txCh_setTxCh]
      exact a.stored h
    · rw [txIrqNext_pcOn, if_neg (Ne.symm hb)]

/-- A step of the RX handler keeps the place of `wcn36xx_rx_handle_packets` on its channel. -/
theorem rxIrqStep_spec {s s' : RxState} {raw raw' : BitVec 32} {irq : RxIrq} {irq' : Option RxIrq}
    {cursor : ℕ} {armed : List ℕ} {P D E : ℕ} (h : RxUndrained s.ch cursor armed P D E)
    (a : DrainAt s.ch (intPending raw (rxIntMask irq.is_low)) (some irq.pc) P D E)
    (hstep : rxIrqStep s raw irq = some (s', raw', irq')) :
    (∃ P' E', RxUndrained s'.ch cursor
        ((irq.pc.drains s.ch).elim armed armed.erase ++ irq.pc.arms.toList) P' D E' ∧
      DrainAt s'.ch (intPending raw' (rxIntMask irq.is_low))
        (irq'.bind fun i => i.pcOn irq.is_low) P' D E') ∧
    ∀ b, b ≠ irq.is_low → (irq'.bind fun i => i.pcOn b) = irq.pcOn b := by
  have hring := h.ready
  have hn := h.ready.two_le
  have hon : ∀ pc, (some { irq with pc := pc }).bind (fun i : RxIrq => i.pcOn irq.is_low) =
      some pc := fun pc => by rw [Option.bind_some, irq.pcOn_with, if_pos rfl]
  have hother : ∀ pc b, b ≠ irq.is_low →
      (some { irq with pc := pc }).bind (fun i : RxIrq => i.pcOn b) = irq.pcOn b :=
    fun pc b hb => by rw [Option.bind_some, irq.pcOn_with, if_neg (Ne.symm hb)]
  have hkeep : ∀ {l : List ℕ} {pc : DrainPc}, pc.arms = none → l ++ pc.arms.toList = l :=
    fun hnone => by rw [hnone, Option.toList_none, List.append_nil]
  unfold rxIrqStep at hstep
  cases hpc : irq.pc with
  | intClr =>
    rw [hpc] at a hstep
    obtain ⟨hhead, hE⟩ := a.pos
    simp only [hhead, Option.bind_eq_bind, Option.bind_some, Option.pure_def, Option.some.injEq,
      Prod.mk.injEq] at hstep
    obtain ⟨rfl, rfl, rfl⟩ := hstep
    refine ⟨⟨P, E, ?_, ?_⟩, hother _⟩
    · rw [hkeep rfl]
      exact h
    · rw [hon]
      exact ⟨⟨rfl, hE⟩, fun hlast => absurd hlast (Ne.symm Bool.false_ne_true)⟩
  | check ctl =>
    rw [hpc] at a hstep
    obtain ⟨hctl, hE⟩ := a.pos
    simp only [hctl, hring.validAt, Option.bind_eq_bind, Option.bind_some, Option.pure_def,
      Option.some.injEq, Prod.mk.injEq] at hstep
    obtain ⟨rfl, rfl, rfl⟩ := hstep
    refine ⟨?_, hother _⟩
    rw [hkeep rfl, hon, DrainPc.drains, hctl, completedAt_eq hring]
    cases hvalid : s.ch.slotValid P with
    | true => exact ⟨P, E, h, hctl ▸ a.stop h hvalid⟩
    | false =>
      obtain ⟨h', a'⟩ := a.check h hvalid
      exact ⟨P + 1, E, h', hctl ▸ a'⟩
  | fill ctl =>
    rw [hpc] at a hstep
    obtain ⟨hctl, hE⟩ := a.pos
    obtain ⟨c, hc, -, hdesc⟩ := hring.ctl (P + s.ch.desc_num - 1)
    rw [hctl] at hstep
    simp only [hc, hdesc, Option.bind_eq_bind, Option.bind_some, Option.bind_eq_some_iff,
      Option.pure_def, Option.some.injEq, Prod.mk.injEq] at hstep
    obtain ⟨⟨s₁, ret⟩, hfill, rfl, rfl, rfl⟩ := hstep
    obtain ⟨hready, hnum, hty, hhead, hvalid⟩ := dxeFillSkb_keeps hring hfill
    refine ⟨⟨P, E, ?_, ?_⟩, hother _⟩
    · rw [hkeep rfl]
      exact h.congr hready hnum hty hvalid
    · rw [hon]
      have hblk : s₁.ch.blk (P + s₁.ch.desc_num - 1) = s.ch.blk (P + s.ch.desc_num - 1) := by
        rw [DxeCh.blk, DxeCh.blk, hnum]
      exact ⟨⟨hblk.symm, by rw [hnum], by rw [hnum, hE]⟩,
        fun hlast => absurd hlast (Ne.symm Bool.false_ne_true)⟩
  | rearm ctl dxe skb dma_addr =>
    rw [hpc] at a hstep
    obtain ⟨hctl, hdxe, hE⟩ := a.pos
    simp only [Option.pure_def, Option.some.injEq, Prod.mk.injEq] at hstep
    obtain ⟨rfl, rfl, rfl⟩ := hstep
    obtain ⟨-, hnum, -⟩ := rxRearm_spec s dxe
    refine ⟨⟨P, P + s.ch.desc_num, ?_, ?_⟩, hother _⟩
    · rw [DrainPc.arms, hdxe]
      exact h.rearm hE
    · rw [hon]
      have hblk : ∀ k, (rxRearm s dxe).ch.blk k = s.ch.blk k := fun k => by
        rw [DxeCh.blk, DxeCh.blk, hnum]
      exact ⟨⟨by rw [hblk, hnum, hctl], by rw [hnum]⟩,
        fun hlast => absurd hlast (Ne.symm Bool.false_ne_true)⟩
  | deliver ctl skb dma_addr =>
    rw [hpc] at a hstep
    obtain ⟨hctl, hE⟩ := a.pos
    cases skb with
    | none =>
      simp only [rxSkb, Option.map_none, Option.bind_eq_bind, Option.bind_none,
        reduceCtorEq] at hstep
    | some skb =>
      have hnext : s.ch.nextOf ctl = some (some (s.ch.blk P)) := by
        rw [hctl, hring.nextOf, DxeCh.blk_pred hn]
      have hnext' : ((s.emit [.dmaUnmap dma_addr]).emit [.rxSkb skb]).ch.nextOf ctl =
          some (some (s.ch.blk P)) := hnext
      simp only [rxSkb, Option.map_some, hnext', Option.bind_eq_bind, Option.bind_some,
        Option.pure_def, Option.some.injEq, Prod.mk.injEq] at hstep
      obtain ⟨rfl, rfl, rfl⟩ := hstep
      refine ⟨⟨P, E, ?_, ?_⟩, hother _⟩
      · rw [hkeep rfl]
        exact h
      · rw [hon]
        exact ⟨⟨rfl, hE⟩, fun hlast => absurd hlast (Ne.symm Bool.false_ne_true)⟩
  | store ctl =>
    rw [hpc] at a hstep
    obtain ⟨hctl, hE⟩ := a.pos
    simp only [Option.pure_def, Option.some.injEq, Prod.mk.injEq] at hstep
    obtain ⟨rfl, rfl, rfl⟩ := hstep
    refine ⟨⟨P, E, ?_, ?_⟩, fun b hb => ?_⟩
    · rw [hkeep rfl]
      exact h.congr (h.ready.congr rfl rfl) rfl rfl fun _ => rfl
    · rw [rxIrqNext_pcOn, if_pos rfl]
      exact ⟨⟨congrArg some hctl, hE⟩, fun _ hlt => a.final rfl hlt⟩
    · rw [rxIrqNext_pcOn, if_neg (Ne.symm hb)]

/-! ## The invariant of a run -/

/-- The TX channels, and where the handler is on them. -/
def IrqTxInv (p : IrqParams) (w : IrqWorld) : Prop :=
  ∀ is_low, ∃ P D H R, TxUndrained (p.tx.pool is_low) (w.wcn.txCh is_low) (w.txCursor is_low)
      (w.frames is_low) D H R ∧
    ReapAt (w.wcn.txCh is_low) (intPending w.raw (txIntMask is_low)) (w.txPc is_low) P D H R

/-- The RX channels, and where the handler is on them. -/
def IrqRxInv (w : IrqWorld) : Prop :=
  ∀ is_low, ∃ P D E, RxUndrained (w.rx is_low).ch (w.rxCursor is_low) (w.armed is_low) P D E ∧
    DrainAt (w.rx is_low).ch (intPending w.raw (rxIntMask is_low)) (w.rxPc is_low) P D E

/-- A step that leaves a TX channel and the handler on it alone, and does not clear its bit. -/
def SameTx (w w' : IrqWorld) (b : Bool) : Prop :=
  w'.wcn.txCh b = w.wcn.txCh b ∧ w'.txCursor b = w.txCursor b ∧ w'.frames b = w.frames b ∧
    w'.txPc b = w.txPc b ∧
    (intPending w.raw (txIntMask b) = true → intPending w'.raw (txIntMask b) = true)

/-- The same for an RX channel. -/
def SameRx (w w' : IrqWorld) (b : Bool) : Prop :=
  (w'.rx b).ch = (w.rx b).ch ∧ w'.rxCursor b = w.rxCursor b ∧ w'.armed b = w.armed b ∧
    w'.rxPc b = w.rxPc b ∧
    (intPending w.raw (rxIntMask b) = true → intPending w'.raw (rxIntMask b) = true)

/-- It keeps what is known of the channel. -/
theorem IrqTxInv.same {p : IrqParams} {w w' : IrqWorld} (h : IrqTxInv p w) {b : Bool}
    (hsame : SameTx w w' b) : ∃ P D H R, TxUndrained (p.tx.pool b) (w'.wcn.txCh b) (w'.txCursor b)
      (w'.frames b) D H R ∧
    ReapAt (w'.wcn.txCh b) (intPending w'.raw (txIntMask b)) (w'.txPc b) P D H R := by
  obtain ⟨P, D, H, R, hring, hat⟩ := h b
  obtain ⟨hch, hcur, hframes, hpc, hraw⟩ := hsame
  rw [hch, hcur, hframes, hpc]
  exact ⟨P, D, H, R, hring, hat.mono hraw⟩

/-- It keeps what is known of the channel. -/
theorem IrqRxInv.same {w w' : IrqWorld} (h : IrqRxInv w) {b : Bool} (hsame : SameRx w w' b) :
    ∃ P D E, RxUndrained (w'.rx b).ch (w'.rxCursor b) (w'.armed b) P D E ∧
      DrainAt (w'.rx b).ch (intPending w'.raw (rxIntMask b)) (w'.rxPc b) P D E := by
  obtain ⟨P, D, E, hring, hat⟩ := h b
  obtain ⟨hch, hcur, harmed, hpc, hraw⟩ := hsame
  rw [hch, hcur, harmed, hpc]
  exact ⟨P, D, E, hring, hat.mono hraw⟩

/-- Initially the TX rings are empty. -/
theorem irqTxInv_init {p : IrqParams} {w : IrqWorld} (h : (irqSystem p).init w) : IrqTxInv p w := by
  obtain ⟨hsetup, -, hcur, -, hirq, -, hframes, -⟩ := h
  intro is_low
  obtain ⟨ch, hch, -, hring, htail⟩ := txChSetup_ring is_low (p.tx.two_le is_low)
    (p.tx.even is_low) (p.tx.coherent is_low)
    (show 0 < (p.tx.pool is_low).virt_addr from p.tx.virt_pos is_low)
  obtain rfl : ch = w.wcn.txCh is_low := Option.some.inj (hch.symm.trans (hsetup is_low))
  rw [hcur, hframes, IrqWorld.txPc, hirq, Option.bind_none]
  refine ⟨0, 0, 0, 0,
    { ready := hring.ready
      head := hring.head
      head_even := rfl
      rest_even := rfl
      cursor_eq := (Nat.zero_mod _).symm
      rest_le := le_rfl
      dev_le := le_rfl
      head_le := Nat.zero_le _
      valid := hring.valid
      skb := fun k _ _ hk => absurd hk (Nat.not_lt_zero k)
      frames_eq := rfl }, htail, .inl ⟨le_rfl, Nat.zero_le _⟩, fun _ hpc => (by cases hpc),
    fun _ hlt => absurd hlt (Nat.lt_irrefl 0)⟩

/-- Initially all RX buffers are armed. -/
theorem irqRxInv_init {p : IrqParams} {w : IrqWorld} (h : (irqSystem p).init w) : IrqRxInv w := by
  obtain ⟨-, hrx, -, hcur, -, hirq, -, harmed⟩ := h
  intro is_low
  obtain ⟨ch, allocs, hsetup, halloc⟩ := hrx is_low
  have hstart := (rxArmed_setup (p.rx_two_le is_low) hsetup allocs).chAllocSkb halloc
  rw [hcur, harmed, IrqWorld.rxPc, hirq, Option.bind_none]
  exact ⟨0, 0, _, hstart.undrained _⟩

/-- The descriptor that the data of the next frame will have. -/
theorem skbDesc_eq {ch : DxeCh} {H : ℕ} (hring : RingReady ch)
    (hhead : ch.head_blk_ctl = some (ch.blk H)) : ch.skbDesc = some ((H + 1) % ch.desc_num) := by
  obtain ⟨c, hc, -, hdesc⟩ := hring.ctl (H + 1)
  simp only [DxeCh.skbDesc, hhead, hring.nextOf, Option.join_some, hc, hdesc, Option.bind_eq_bind,
    Option.bind_some]

/-- Every step keeps the RX channels. -/
theorem irqRxInv_step {p : IrqParams} (w : IrqWorld) (e : IrqEvent) (w' : IrqWorld) (h : IrqRxInv w)
    (hstep : (irqSystem p).step w e = some w') : IrqRxInv w' := by
  cases e with
  | enqueue is_low vif_priv skb =>
    obtain ⟨⟨wcn, ret⟩, -, hstep⟩ := Option.bind_eq_some_iff.mp hstep
    have hw' : w'.rx = w.rx ∧ w'.rxCursor = w.rxCursor ∧ w'.armed = w.armed ∧ w'.rxIrq = w.rxIrq ∧
        w'.raw = w.raw := by
      dsimp only at hstep
      split_ifs at hstep
      · obtain ⟨i, -, hstep⟩ := Option.bind_eq_some_iff.mp hstep
        rw [Option.pure_def, Option.some.injEq] at hstep
        rw [← hstep]
        exact ⟨rfl, rfl, rfl, rfl, rfl⟩
      · rw [Option.pure_def, Option.some.injEq] at hstep
        rw [← hstep]
        exact ⟨rfl, rfl, rfl, rfl, rfl⟩
    obtain ⟨hrx, hcur, harmed, hirq, hraw⟩ := hw'
    exact fun b => h.same ⟨by rw [hrx], by rw [hcur], by rw [harmed],
      by rw [IrqWorld.rxPc, IrqWorld.rxPc, hirq], by rw [hraw]; exact id⟩
  | txDma is_low =>
    obtain ⟨-, hstep⟩ := Option.ite_none_right_eq_some.mp hstep
    rw [Option.some.injEq] at hstep
    rw [← hstep]
    exact fun b => h.same ⟨rfl, rfl, rfl, rfl, fun hset => intPending_or hset _⟩
  | rxDma is_low =>
    obtain ⟨hvalid, hstep⟩ := Option.ite_none_right_eq_some.mp hstep
    rw [Option.some.injEq] at hstep
    rw [← hstep]
    intro b
    rcases eq_or_ne b is_low with rfl | hb
    · obtain ⟨P, D, E, hring, hat⟩ := h b
      refine ⟨P, D + 1, E, ?_⟩
      dsimp only [IrqWorld.rxPc]
      rw [Function.update_self, Function.update_self,
        intPending_or_self w.raw (show rxIntMask b ≠ 0 by cases b <;> decide)]
      exact ⟨hring.dma hvalid, hat.pos.congr rfl rfl, fun _ _ => rfl⟩
    · exact h.same ⟨congrArg RxState.ch (Function.update_of_ne hb _ _),
        Function.update_of_ne hb _ _, rfl, rfl, fun hset => intPending_or hset _⟩
  | alloc is_low result =>
    rw [irqSystem, Option.some.injEq] at hstep
    rw [← hstep]
    intro b
    refine h.same ⟨?_, rfl, rfl, rfl, id⟩
    dsimp only
    rcases eq_or_ne b is_low with rfl | hb
    · rw [Function.update_self]
    · rw [Function.update_of_ne hb]
  | txIrq =>
    rw [irqSystem] at hstep
    dsimp only at hstep
    cases hirq : w.txIrq with
    | none =>
      rw [hirq, Option.some.injEq] at hstep
      rw [← hstep]
      exact fun b => h.same ⟨rfl, rfl, rfl, rfl, id⟩
    | some irq =>
      rw [hirq] at hstep
      obtain ⟨⟨wcn, raw, irq'⟩, hrun, hstep⟩ := Option.bind_eq_some_iff.mp hstep
      rw [Option.pure_def, Option.some.injEq] at hstep
      rw [← hstep]
      refine fun b => h.same ⟨rfl, rfl, rfl, rfl, fun hset => ?_⟩
      rcases txIrqStep_raw hrun with rfl | rfl
      · exact hset
      · dsimp only
        rw [intPending_clear w.raw (rxIntMask_clear_tx b irq.is_low)]
        exact hset
  | rxIrq =>
    rw [irqSystem] at hstep
    dsimp only at hstep
    cases hirq : w.rxIrq with
    | none =>
      rw [hirq, Option.some.injEq] at hstep
      rw [← hstep]
      -- The handler reads the bits.
      intro b
      obtain ⟨P, D, E, hring, hat⟩ := h b
      refine ⟨P, D, E, hring, ?_⟩
      rw [IrqWorld.rxPc, hirq, Option.bind_none] at hat
      dsimp only [IrqWorld.rxPc]
      rw [rxIrqBegin_pcOn]
      split_ifs with hbit
      · exact ⟨hat.pos, fun hlast => absurd hlast (Ne.symm Bool.false_ne_true)⟩
      · exact hat
    | some irq =>
      rw [hirq] at hstep
      obtain ⟨⟨s, raw, irq'⟩, hrun, hstep⟩ := Option.bind_eq_some_iff.mp hstep
      rw [Option.pure_def, Option.some.injEq] at hstep
      obtain ⟨P, D, E, hring, hat⟩ := h irq.is_low
      have hpcOn : ∀ b, w.rxPc b = irq.pcOn b := fun b => by
        rw [IrqWorld.rxPc, hirq, Option.bind_some]
      rw [hpcOn, RxIrq.pcOn, if_pos rfl] at hat
      obtain ⟨⟨P', E', hring', hat'⟩, hother⟩ := rxIrqStep_spec hring hat hrun
      rw [← hstep]
      intro b
      rcases eq_or_ne b irq.is_low with rfl | hb
      · refine ⟨P', D, E', ?_⟩
        dsimp only [IrqWorld.rxPc]
        rw [Function.update_self, Function.update_self]
        exact ⟨hring', hat'⟩
      · refine h.same ⟨congrArg RxState.ch (Function.update_of_ne hb _ _), rfl,
          Function.update_of_ne hb _ _, (hother b hb).trans (hpcOn b).symm, fun hset => ?_⟩
        rcases rxIrqStep_raw hrun with rfl | rfl
        · exact hset
        · dsimp only
          rw [intPending_clear w.raw (rxIntMask_clear hb)]
          exact hset

/-- Every step that meets the condition keeps the TX channels. -/
theorem irqTxInv_step {p : IrqParams} (w : IrqWorld) (e : IrqEvent) (w' : IrqWorld)
    (h : IrqTxInv p w) (hcond : NotOvertaken w e) (hstep : (irqSystem p).step w e = some w') :
    IrqTxInv p w' := by
  cases e with
  | enqueue is_low vif_priv skb =>
    obtain ⟨⟨wcn, ret⟩, hrun, hstep⟩ := Option.bind_eq_some_iff.mp hstep
    obtain ⟨P, D, H, R, hring, hat⟩ := h is_low
    cases hskb : (w.wcn.txCh is_low).slotSkb (H + 1) with
    | some skb' =>
      -- The ring is full.
      rw [dxeTxFrame_busy hring.ready hring.head (by rw [hskb]; rfl), Option.some.injEq,
        Prod.mk.injEq] at hrun
      obtain ⟨rfl, rfl⟩ := hrun
      dsimp only at hstep
      rw [if_neg (show ¬(-EBUSY = 0) by decide), Option.pure_def, Option.some.injEq] at hstep
      rw [← hstep]
      exact fun b => h.same ⟨rfl, rfl, rfl, rfl, id⟩
    | none =>
      obtain ⟨bd_phy_addr, haccept⟩ :=
        dxeTxFrame_accept hring.ready hring.head hring.head_even hskb vif_priv skb
      rw [haccept, Option.map_eq_some_iff] at hrun
      obtain ⟨wcn', hkick, hret⟩ := hrun
      rw [Prod.mk.injEq] at hret
      obtain ⟨rfl, rfl⟩ := hret
      obtain ⟨kick, rfl, -⟩ := dxeTxKick_cases hkick
      dsimp only at hstep
      rw [if_pos rfl, skbDesc_eq hring.ready.ring hring.head, Option.bind_eq_bind, Option.bind_some,
        Option.pure_def, Option.some.injEq] at hstep
      rw [← hstep]
      intro b
      rcases eq_or_ne b is_low with rfl | hb
      · refine ⟨P, D, H + 2, R, ?_⟩
        dsimp only [IrqWorld.txPc]
        rw [Function.update_self, Wcn.emit_txCh, Wcn.emit_txCh, Wcn.txCh_setTxCh]
        exact ⟨hring.accept hskb _ _, hat.accept hring hskb hcond _ _⟩
      · exact h.same ⟨Wcn.txCh_setTxCh_ne w.wcn hb _, rfl, Function.update_of_ne hb _ _, rfl, id⟩
  | txDma is_low =>
    obtain ⟨hvalid, hstep⟩ := Option.ite_none_right_eq_some.mp hstep
    rw [Option.some.injEq] at hstep
    rw [← hstep]
    intro b
    rcases eq_or_ne b is_low with rfl | hb
    · obtain ⟨P, D, H, R, hring, hat⟩ := h b
      refine ⟨P, D + 1, H, R, ?_⟩
      dsimp only [IrqWorld.txPc]
      rw [Function.update_self, dmaComplete, Wcn.txCh_setTxCh,
        intPending_or_self w.raw (show txIntMask b ≠ 0 by cases b <;> decide)]
      exact ⟨hring.dma hvalid, (hat.raise (D + 1)).congr rfl rfl⟩
    · exact h.same ⟨Wcn.txCh_setTxCh_ne w.wcn hb _, Function.update_of_ne hb _ _, rfl, rfl,
        fun hset => intPending_or hset _⟩
  | rxDma is_low =>
    obtain ⟨-, hstep⟩ := Option.ite_none_right_eq_some.mp hstep
    rw [Option.some.injEq] at hstep
    rw [← hstep]
    exact fun b => h.same ⟨rfl, rfl, rfl, rfl, fun hset => intPending_or hset _⟩
  | alloc is_low result =>
    rw [irqSystem, Option.some.injEq] at hstep
    rw [← hstep]
    exact fun b => h.same ⟨rfl, rfl, rfl, rfl, id⟩
  | rxIrq =>
    rw [irqSystem] at hstep
    dsimp only at hstep
    cases hirq : w.rxIrq with
    | none =>
      rw [hirq, Option.some.injEq] at hstep
      rw [← hstep]
      exact fun b => h.same ⟨rfl, rfl, rfl, rfl, id⟩
    | some irq =>
      rw [hirq] at hstep
      obtain ⟨⟨s, raw, irq'⟩, hrun, hstep⟩ := Option.bind_eq_some_iff.mp hstep
      rw [Option.pure_def, Option.some.injEq] at hstep
      rw [← hstep]
      refine fun b => h.same ⟨rfl, rfl, rfl, rfl, fun hset => ?_⟩
      rcases rxIrqStep_raw hrun with rfl | rfl
      · exact hset
      · dsimp only
        rw [intPending_clear w.raw (txIntMask_clear_rx b irq.is_low)]
        exact hset
  | txIrq =>
    rw [irqSystem] at hstep
    dsimp only at hstep
    cases hirq : w.txIrq with
    | none =>
      rw [hirq, Option.some.injEq] at hstep
      rw [← hstep]
      -- The handler reads the bits.
      intro b
      obtain ⟨P, D, H, R, hring, hat⟩ := h b
      refine ⟨P, D, H, R, hring, ?_⟩
      rw [IrqWorld.txPc, hirq, Option.bind_none] at hat
      dsimp only [IrqWorld.txPc]
      rw [txIrqBegin_pcOn]
      split_ifs with hbit
      · exact hat.pending
      · exact hat
    | some irq =>
      rw [hirq] at hstep
      obtain ⟨⟨wcn, raw, irq'⟩, hrun, hstep⟩ := Option.bind_eq_some_iff.mp hstep
      rw [Option.pure_def, Option.some.injEq] at hstep
      obtain ⟨P, D, H, R, hring, hat⟩ := h irq.is_low
      have hpcOn : ∀ b, w.txPc b = irq.pcOn b := fun b => by
        rw [IrqWorld.txPc, hirq, Option.bind_some]
      rw [hpcOn, TxIrq.pcOn, if_pos rfl] at hat
      obtain ⟨⟨P', R', hring', hat'⟩, hother⟩ := txIrqStep_spec hring hat hrun
      rw [← hstep]
      intro b
      rcases eq_or_ne b irq.is_low with rfl | hb
      · refine ⟨P', D, H, R', ?_⟩
        dsimp only [IrqWorld.txPc]
        rw [Function.update_self]
        exact ⟨hring', hat'⟩
      · obtain ⟨hch, hpc⟩ := hother b hb
        refine h.same ⟨hch, rfl, Function.update_of_ne hb _ _, hpc.trans (hpcOn b).symm,
          fun hset => ?_⟩
        rcases txIrqStep_raw hrun with rfl | rfl
        · exact hset
        · dsimp only
          rw [intPending_clear w.raw (txIntMask_clear hb)]
          exact hset

/-- On RX no completion is lost, in any run. -/
theorem rxNoLost {p : IrqParams} {w : IrqWorld} (h : (irqSystem p).Reachable w) (is_low : Bool)
    {i : ℕ} (hi : (w.armed is_low).head? = some i)
    (hvalid : ((w.rx is_low).ch.dxe i).valid = false) :
    intPending w.raw (rxIntMask is_low) = true ∨ checksRx (w.rxPc is_low) = true := by
  obtain ⟨P, D, E, hring, hat⟩ :=
    h.invariant (fun _ hw => irqRxInv_init hw) (fun w e w' hI he => irqRxInv_step w e w' hI he) is_low
  exact hat.noLost hring hi hvalid

/-- In every run in which no frame is accepted right before `reap_tx_dxes`, no completion is lost on any
channel. -/
theorem noLost_of_notOvertaken {p : IrqParams} {w : IrqWorld}
    (h : (irqSystem p).ReachableWhen NotOvertaken w) : NoLost w where
  tx is_low i hi hvalid := by
    obtain ⟨P, D, H, R, hring, hat⟩ := h.invariant (fun _ hw => irqTxInv_init hw) irqTxInv_step is_low
    exact hat.noLost hring (Option.mem_def.mp hi) hvalid
  rx is_low _ hi hvalid := rxNoLost h.reachable is_low (Option.mem_def.mp hi) hvalid

/-- The driver's TX channels, and two RX channels with two descriptors each. -/
def irqParams : IrqParams where
  tx := driverParams
  rx_desc_num _ := 2
  rx_coherent is_low := if is_low then (0x50000, 0x50000) else (0x60000, 0x60000)
  rx_two_le _ := le_rfl

/-- An RX channel after the set-up and `wcn36xx_dxe_ch_alloc_skb`. -/
def rxReady (p : IrqParams) (allocs : List (Option (BitVec 32))) (is_low : Bool) : Option RxState :=
  (rxChSetup is_low (p.rx_desc_num is_low) (p.rx_coherent is_low)).bind fun ch =>
    dxeChAllocSkb { ch := ch, allocs := allocs }

/-- The driver after its start. -/
def irqStart (p : IrqParams) (allocs : List (Option (BitVec 32))) : Option IrqWorld := do
  let s ← txStart p.tx {}
  let l ← rxReady p allocs true
  let h ← rxReady p allocs false
  return { wcn := s.wcn, rx := fun is_low => if is_low then l else h
           armed := fun is_low => List.range (p.rx_desc_num is_low) }

/-- It is an initial state. -/
theorem irqStart_init {p : IrqParams} {allocs : List (Option (BitVec 32))} {w : IrqWorld}
    (h : irqStart p allocs = some w) : (irqSystem p).init w := by
  obtain ⟨s, hs, h⟩ := Option.bind_eq_some_iff.mp h
  obtain ⟨l, hl, h⟩ := Option.bind_eq_some_iff.mp h
  obtain ⟨hi, hhi, h⟩ := Option.bind_eq_some_iff.mp h
  rw [Option.pure_def, Option.some.injEq] at h
  rw [← h]
  refine ⟨(txStart_init hs).1, fun is_low => ?_, rfl, rfl, rfl, rfl, rfl, rfl⟩
  have hrx : rxReady p allocs is_low = some (if is_low then l else hi) := by
    cases is_low
    · exact hhi
    · exact hl
  obtain ⟨ch, hch, halloc⟩ := Option.bind_eq_some_iff.mp hrx
  exact ⟨ch, allocs, hch, halloc⟩

/-- Two addresses for new buffers. -/
def twoBuffers : List (Option (BitVec 32)) := [some 0x70000, some 0x71000]

/-- Two frames are sent on the channel for management frames, the second while the interrupt handler runs, and
it is completed after the handler's last check. A buffer is received on RX meanwhile. In the end the
second frame and the buffer wait, with their bits set. -/
theorem noLost_of_notOvertaken_two_frames :
    ∃ w, (irqSystem irqParams).ReachableWhen NotOvertaken w ∧ NoLost w ∧
      w.frames false = [3] ∧ ((w.wcn.txCh false).dxe 3).valid = false ∧
      ((w.rx true).ch.dxe 0).valid = false := by
  have hany : ((irqStart irqParams twoBuffers).bind fun w =>
      (irqSystem irqParams).runWhen NotOvertaken w
        [.enqueue false none (authFrame 1 30 false), .txDma false, .txDma false, .txIrq, .txIrq,
          .enqueue false none (authFrame 2 30 false), .txIrq, .txIrq, .txIrq, .rxDma true, .txIrq,
          .txIrq, .txIrq, .txIrq, .txIrq, .txIrq, .txDma false, .txDma false, .txIrq]).any (fun w =>
      decide (w.frames false = [3] ∧ ((w.wcn.txCh false).dxe 3).valid = false ∧
        ((w.rx true).ch.dxe 0).valid = false)) = true := by
    decide +kernel
  obtain ⟨w, hrun, hw⟩ := (Option.any_eq_true _ _).mp hany
  obtain ⟨w₀, hw₀, hrun⟩ := Option.bind_eq_some_iff.mp hrun
  have hreach := System.ReachableWhen.runWhen (.init (irqStart_init hw₀)) hrun
  exact ⟨w, hreach, noLost_of_notOvertaken hreach, of_decide_eq_true hw⟩

/-- The ring for management frames is full, and all its frames are completed. When `reap_tx_dxes` has
released the first of them, a new frame is accepted in its place, and the loop stops at the new head: the
other frames are left, their bit is clear, and no handler runs. -/
theorem noLost_fails_on_full_ring :
    ∃ w, (irqSystem irqParams).Reachable w ∧ ¬NoLost w ∧ w.txIrq.isNone ∧
      w.frames false = [3, 5, 7, 9, 1] ∧ ((w.wcn.txCh false).dxe 3).valid = false := by
  have hany : ((irqStart irqParams twoBuffers).bind fun w => (irqSystem irqParams).runFrom w
      ((List.range 5).map (fun i => .enqueue false none (authFrame (i + 1) 30 false)) ++
        List.replicate 10 (.txDma false) ++ List.replicate 9 .txIrq ++
        [.enqueue false none (authFrame 6 30 false), .txIrq, .txIrq])).any (fun w =>
      decide (w.txIrq.isNone ∧ w.frames false = [3, 5, 7, 9, 1] ∧
        ((w.wcn.txCh false).dxe 3).valid = false ∧
        oldestTx (w.wcn.txCh false) (w.txPc false) (w.frames false) = some 2 ∧
        ((w.wcn.txCh false).dxe 2).valid = false ∧
        intPending w.raw (txIntMask false) = false ∧
        checksTx (w.wcn.txCh false) (w.txPc false) = false)) = true := by
    decide +kernel
  obtain ⟨w, hrun, hw⟩ := (Option.any_eq_true _ _).mp hany
  obtain ⟨w₀, hw₀, hrun⟩ := Option.bind_eq_some_iff.mp hrun
  obtain ⟨hirq, hframes, h3, hold, hvalid, hraw, hmore⟩ := of_decide_eq_true hw
  refine ⟨w, System.Reachable.runFrom (.init (irqStart_init hw₀)) hrun, fun hsafe => ?_, hirq,
    hframes, h3⟩
  rcases hsafe.tx false 2 (Option.mem_def.mpr hold) hvalid with hset | hset
  · rw [hraw] at hset
    exact Bool.false_ne_true hset
  · rw [hmore] at hset
    exact Bool.false_ne_true hset

end Wcn36xx
