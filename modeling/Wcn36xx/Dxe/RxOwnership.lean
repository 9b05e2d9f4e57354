import Wcn36xx.Dxe.Ring
import Wcn36xx.Dxe.Rx
import Wcn36xx.Dxe.Setup
import Wcn36xx.Support.System

/-!
# Who owns a receive buffer

A receive buffer belongs to the driver, which lends it to the device by a VALID descriptor, until
`wcn36xx_rx_skb` gives it to mac80211. `RxOwns` is the invariant: every control block has a buffer of
its own that has not been given away, and its descriptor points to it. One call of
`wcn36xx_rx_handle_packets` keeps it as long as `wcn36xx_dxe_fill_skb` finds memory; when it does not,
the descriptor is armed again with the buffer that mac80211 has just got.
-/

namespace Wcn36xx

open Support (Cycle System walk walk_spec walk_run)

/-- The set-up leaves the blocks of a channel in a ring. -/
theorem InitializedRing.ready {ch₀ ch : DxeCh} {cpu_addr : ℕ} {dma_addr : BitVec 32}
    (h : InitializedRing ch₀ ch cpu_addr dma_addr) (hn : 2 ≤ ch₀.desc_num) : RingReady ch where
  two_le := h.desc_num ▸ hn
  ctl k := by
    have hlt : k % ch₀.desc_num < ch₀.desc_num := Nat.mod_lt k (by omega)
    have hpos : ∀ j, ch.blk j = (Cycle.consecutive 1 ch₀.desc_num).pos j := fun j => by
      rw [DxeCh.blk, h.desc_num]
    have hctl := h.ctl _ hlt
    rw [show 1 + k % ch₀.desc_num = ch.blk k from (hpos k).symm] at hctl
    refine ⟨_, hctl, ?_, ?_⟩
    · rw [hpos]
      refine congrArg some (((Cycle.consecutive 1 ch₀.desc_num).pos_eq_iff _ _).mpr ?_)
      rw [Nat.mod_add_mod]
    · rw [h.desc_num]
      rfl

/-! ## Filling a block -/

/-- A block with a new buffer, to which its descriptor points. -/
def filledCh (ch : DxeCh) (k : ℕ) (skb : SkBuff) : DxeCh :=
  (ch.modDesc (k % ch.desc_num) fun d => { d with dst_addr_l := skb.dma }).setSkb k (some skb)

/-- The state after a successful `wcn36xx_dxe_fill_skb`. -/
def filledRx (s : RxState) (k : ℕ) (dma : BitVec 32) (rest : List (Option (BitVec 32))) : RxState :=
  { s with
    ch := filledCh s.ch k (s.newSkb dma), next_skb := s.next_skb + 1, allocs := rest
    log := s.log ++ [.dmaMap (s.newSkb dma)] }

section Fill

variable {s : RxState} (h : RingReady s.ch) (k : ℕ) (dma : BitVec 32)
  (rest : List (Option (BitVec 32)))
include h

/-- `wcn36xx_dxe_fill_skb` with memory. -/
theorem dxeFillSkb_some (ha : s.allocs = some dma :: rest) :
    dxeFillSkb s (s.ch.blk k) = some (filledRx s k dma rest, 0) := by
  obtain ⟨c, hc, -, hdesc⟩ := h.ctl k
  have hmod := (h.modDesc (k % s.ch.desc_num) fun d =>
    { d with dst_addr_l := (s.newSkb dma).dma }).modCtl_skb k (some (s.newSkb dma))
  have hblk : (s.ch.modDesc (k % s.ch.desc_num) fun d =>
      { d with dst_addr_l := (s.newSkb dma).dma }).blk k = s.ch.blk k := rfl
  rw [hblk] at hmod
  simp only [dxeFillSkb, hc, ha, hdesc, hmod, Option.bind_eq_bind, Option.bind_some,
    Option.pure_def, filledRx, filledCh]

/-- The ring is still there. -/
theorem ready_filledCh (skb : SkBuff) : RingReady (filledCh s.ch k skb) :=
  (h.modDesc _ _).setSkb k _

/-- The buffers after one has been filled in. -/
theorem slotSkb_filledCh (skb : SkBuff) (j : ℕ) :
    (filledCh s.ch k skb).slotSkb j =
      if j % s.ch.desc_num = k % s.ch.desc_num then some skb else s.ch.slotSkb j :=
  (h.modDesc _ _).slotSkb_setSkb k j _

end Fill

/-- The addresses in the descriptors after a buffer has been filled in. -/
theorem dst_filledCh (ch : DxeCh) (k : ℕ) (skb : SkBuff) (i : ℕ) :
    ((filledCh ch k skb).dxe i).dst_addr_l =
      if i = k % ch.desc_num then skb.dma else (ch.dxe i).dst_addr_l := by
  have hdxe : (filledCh ch k skb).dxe = Function.update ch.dxe (k % ch.desc_num)
      { ch.dxe (k % ch.desc_num) with dst_addr_l := skb.dma } := rfl
  rw [hdxe]
  split_ifs with hi
  · rw [hi, Function.update_self]
  · rw [Function.update_of_ne hi]

/-! ## The invariant -/

/-- Every block has a buffer of its own that has not been passed to `wcn36xx_rx_skb`, and its descriptor
points to it. -/
structure RxOwns (s : RxState) : Prop where
  ready : RingReady s.ch
  head : ∃ h, s.ch.head_blk_ctl = some (s.ch.blk h)
  skb : ∀ k, ∃ skb, s.ch.slotSkb k = some skb ∧
    (s.ch.dxe (k % s.ch.desc_num)).dst_addr_l = skb.dma ∧ skb.ptr < s.next_skb ∧
    skb.ptr ∉ s.delivered.map SkBuff.ptr
  inj : ∀ j k f g, s.ch.slotSkb j = some f → s.ch.slotSkb k = some g → f.ptr = g.ptr →
    j % s.ch.desc_num = k % s.ch.desc_num
  old : ∀ f ∈ s.delivered, f.ptr < s.next_skb
  nodup : (s.delivered.map SkBuff.ptr).Nodup

/-- Only the blocks, the head, the addresses in the descriptors and what has been delivered matter to
the invariant. -/
theorem RxOwns.congr {s s' : RxState} (h : RxOwns s) (hn : s'.ch.desc_num = s.ch.desc_num)
    (hctl : s'.ch.ctl = s.ch.ctl) (hhead : ∃ h, s'.ch.head_blk_ctl = some (s'.ch.blk h))
    (hdst : ∀ i, (s'.ch.dxe i).dst_addr_l = (s.ch.dxe i).dst_addr_l)
    (hnext : s'.next_skb = s.next_skb) (hdel : s'.delivered = s.delivered) : RxOwns s' := by
  have hslot : ∀ k, s'.ch.slotSkb k = s.ch.slotSkb k := fun k => by
    rw [DxeCh.slotSkb, DxeCh.slotSkb, DxeCh.skbAt, DxeCh.skbAt, DxeCh.blk, DxeCh.blk, hctl, hn]
  refine ⟨h.ready.congr hn hctl, hhead, fun k => ?_, fun j k f g hf hg heq => ?_, ?_, ?_⟩
  · rw [hslot, hn, hdst, hnext, hdel]
    exact h.skb k
  · rw [hslot] at hf hg
    rw [hn]
    exact h.inj j k f g hf hg heq
  · rw [hdel, hnext]
    exact h.old
  · rw [hdel]
    exact h.nodup

/-- The old buffer of a block has gone to mac80211, and the block has got a new one. -/
theorem RxOwns.refill {s s' : RxState} (h : RxOwns s) {k : ℕ} {old : SkBuff}
    (hold : s.ch.slotSkb k = some old) {dma : BitVec 32} {rest : List (Option (BitVec 32))}
    (hctl : s'.ch.ctl = (filledRx s k dma rest).ch.ctl) (hn : s'.ch.desc_num = s.ch.desc_num)
    (hhead : s'.ch.head_blk_ctl = s.ch.head_blk_ctl)
    (hdst : ∀ i, (s'.ch.dxe i).dst_addr_l = ((filledRx s k dma rest).ch.dxe i).dst_addr_l)
    (hnext : s'.next_skb = s.next_skb + 1) (hdel : s'.delivered = s.delivered ++ [old]) :
    RxOwns s' := by
  have hslot : ∀ j, s'.ch.slotSkb j =
      if j % s.ch.desc_num = k % s.ch.desc_num then some (s.newSkb dma) else s.ch.slotSkb j := by
    intro j
    rw [← slotSkb_filledCh h.ready]
    rw [DxeCh.slotSkb, DxeCh.slotSkb, DxeCh.skbAt, DxeCh.skbAt, DxeCh.blk, DxeCh.blk, hctl, hn]
    rfl
  have hfresh : ∀ j f, s.ch.slotSkb j = some f → f.ptr < s.next_skb := fun j f hf => by
    obtain ⟨g, hg, -, hlt, -⟩ := h.skb j
    rw [hf, Option.some.injEq] at hg
    rwa [hg]
  have hnew : (s.newSkb dma).ptr = s.next_skb := rfl
  refine ⟨(ready_filledCh h.ready k (s.newSkb dma)).congr hn hctl, ?_, fun j => ?_,
    fun i j f g hf hg heq => ?_, fun f hf => ?_, ?_⟩
  · obtain ⟨p, hp⟩ := h.head
    exact ⟨p, by rw [hhead, hp, DxeCh.blk, DxeCh.blk, hn]⟩
  · rw [hslot, hn, hdst, hnext, hdel, List.map_append, List.map_singleton]
    have hdst' := dst_filledCh s.ch k (s.newSkb dma) (j % s.ch.desc_num)
    by_cases hjk : j % s.ch.desc_num = k % s.ch.desc_num
    · rw [if_pos hjk] at hdst' ⊢
      refine ⟨_, rfl, hdst', by rw [hnew]; exact Nat.lt_succ_self _, fun hmem => ?_⟩
      -- The new buffer is younger than all that were delivered.
      rw [hnew, List.mem_append, List.mem_singleton] at hmem
      rcases hmem with hmem | hmem
      · obtain ⟨f, hf, hptr⟩ := List.mem_map.mp hmem
        exact absurd (h.old f hf) (by omega)
      · exact absurd (hfresh k old hold) (by omega)
    · rw [if_neg hjk] at hdst' ⊢
      obtain ⟨f, hf, hdma, hlt, hnot⟩ := h.skb j
      refine ⟨f, hf, hdst'.trans hdma, by omega, fun hmem => ?_⟩
      rw [List.mem_append, List.mem_singleton] at hmem
      exact hmem.elim hnot fun heq => hjk (h.inj j k f old hf hold heq)
  · rw [hn]
    rw [hslot] at hf hg
    split_ifs at hf hg with hi hj hj
    · rw [hi, hj]
    · rw [Option.some.injEq] at hf
      have := hfresh j g hg
      rw [← heq, ← hf, hnew] at this
      exact absurd this (Nat.lt_irrefl _)
    · rw [Option.some.injEq] at hg
      have := hfresh i f hf
      rw [heq, ← hg, hnew] at this
      exact absurd this (Nat.lt_irrefl _)
    · exact h.inj i j f g hf hg heq
  · rw [hnext]
    rw [hdel, List.mem_append, List.mem_singleton] at hf
    rcases hf with hf | rfl
    · exact Nat.lt_succ_of_lt (h.old f hf)
    · exact Nat.lt_succ_of_lt (hfresh k f hold)
  · rw [hdel, List.map_append, List.map_singleton]
    obtain ⟨f, hf, -, -, hnot⟩ := h.skb k
    rw [hold, Option.some.injEq] at hf
    refine List.nodup_append.mpr ⟨h.nodup, List.nodup_singleton _, fun a ha b hb => ?_⟩
    rw [List.mem_singleton] at hb
    rintro rfl
    exact hnot (hf ▸ hb ▸ ha)

/-! ## Receiving -/

/-- `rxRearm` changes a descriptor, but not where it points to. -/
theorem rxRearm_spec (s : RxState) (i : ℕ) :
    (rxRearm s i).ch.ctl = s.ch.ctl ∧ (rxRearm s i).ch.desc_num = s.ch.desc_num ∧
      (rxRearm s i).ch.head_blk_ctl = s.ch.head_blk_ctl ∧
      (∀ j, ((rxRearm s i).ch.dxe j).dst_addr_l = (s.ch.dxe j).dst_addr_l) ∧
      (rxRearm s i).next_skb = s.next_skb ∧ (rxRearm s i).allocs = s.allocs ∧
      (rxRearm s i).delivered = s.delivered := by
  have hupd : ∀ (ctrl : BitVec 32) j,
      (Function.update s.ch.dxe i { s.ch.dxe i with ctrl := ctrl } j).dst_addr_l =
        (s.ch.dxe j).dst_addr_l := fun ctrl j => by
    rcases eq_or_ne j i with rfl | hj
    · rw [Function.update_self]
    · rw [Function.update_of_ne hj]
  cases hty : s.ch.ch_type with
  | txL | txH =>
    simp only [rxRearm, hty]
    exact ⟨trivial, trivial, trivial, fun _ => trivial, trivial, trivial, trivial⟩
  | rxL =>
    simp only [rxRearm, hty]
    refine ⟨rfl, rfl, rfl, hupd _, rfl, rfl, ?_⟩
    exact List.filterMap_append.trans (List.append_nil _)
  | rxH =>
    simp only [rxRearm, hty]
    refine ⟨rfl, rfl, rfl, hupd _, rfl, rfl, ?_⟩
    exact List.filterMap_append.trans (List.append_nil _)

/-- One iteration of `wcn36xx_rx_handle_packets` keeps the invariant when `alloc_skb` succeeds. -/
theorem RxOwns.handlePacket {s s' : RxState} (h : RxOwns s) (hok : ∀ a ∈ s.allocs, a.isSome = true)
    {k : ℕ} (hrun : rxHandlePacket s (s.ch.blk k) = some s') :
    RxOwns s' ∧ s'.ch.desc_num = s.ch.desc_num ∧ ∀ a ∈ s'.allocs, a.isSome = true := by
  obtain ⟨c, hc, -, hdesc⟩ := h.ready.ctl k
  obtain ⟨old, hold, -⟩ := h.skb k
  have hskb : c.skb = some old := by
    rw [← hold, DxeCh.slotSkb, DxeCh.skbAt, hc, Option.bind_some]
  cases ha : s.allocs with
  | nil => simp [rxHandlePacket, dxeFillSkb, hc, ha] at hrun
  | cons a rest =>
    rw [ha] at hok
    obtain ⟨dma, rfl⟩ := Option.isSome_iff_exists.mp (hok a (List.mem_cons_self ..))
    simp only [rxHandlePacket, hc, hdesc, dxeFillSkb_some h.ready k dma rest ha, hskb, rxSkb,
      Option.bind_eq_bind, Option.bind_some, Option.map_some, Option.some.injEq] at hrun
    subst hrun
    obtain ⟨hctl, hn, hhead, hdst, hnext, hallocs, hdel⟩ :=
      rxRearm_spec (filledRx s k dma rest) (k % s.ch.desc_num)
    refine ⟨h.refill hold hctl hn hhead hdst hnext ?_, hn, ?_⟩
    · have hfill : (filledRx s k dma rest).delivered = s.delivered := by
        simp only [RxState.delivered, filledRx, List.filterMap_append, List.filterMap_cons,
          RxEffect.delivers, List.filterMap_nil, List.append_nil]
      rw [hfill] at hdel
      simp only [RxState.delivered, RxState.emit, List.filterMap_append, List.filterMap_cons,
        RxEffect.delivers, List.filterMap_nil, List.append_nil] at hdel ⊢
      rw [hdel]
    · have hallocs' : ((((rxRearm (filledRx s k dma rest) (k % s.ch.desc_num)).emit
          [.dmaUnmap (s.ch.dxe (k % s.ch.desc_num)).dst_addr_l]).emit [.rxSkb old]).allocs) = rest :=
        hallocs
      rw [hallocs']
      exact fun a ha => hok a (List.mem_cons_of_mem _ ha)

/-- So does the loop, which ends at a block of the ring. -/
theorem RxOwns.handlePacketsLoop (fuel : ℕ) : ∀ {s s' : RxState} {k ctl : ℕ}, RxOwns s →
    (∀ a ∈ s.allocs, a.isSome = true) →
    rxHandlePacketsLoop fuel (s.ch.blk k) s = some (ctl, s') →
    RxOwns s' ∧ ∃ j, ctl = s'.ch.blk j := by
  induction fuel with
  | zero =>
    intro s s' k ctl _ _ hrun
    cases hrun
  | succ fuel ih =>
    intro s s' k ctl h hok hrun
    simp only [rxHandlePacketsLoop, h.ready.validAt, Option.bind_eq_bind, Option.bind_some] at hrun
    split_ifs at hrun with hvalid
    · simp only [Option.pure_def, Option.some.injEq, Prod.mk.injEq] at hrun
      obtain ⟨rfl, rfl⟩ := hrun
      exact ⟨h, k, rfl⟩
    · simp only [Option.bind_eq_some_iff] at hrun
      obtain ⟨s₁, hpkt, _, hnext, next, rfl, hrun⟩ := hrun
      obtain ⟨h₁, hn, hok₁⟩ := h.handlePacket hok hpkt
      have hblk : ∀ j, s.ch.blk j = s₁.ch.blk j := fun j => by rw [DxeCh.blk, DxeCh.blk, hn]
      rw [hblk, h₁.ready.nextOf, Option.some.injEq, Option.some.injEq] at hnext
      rw [← hnext] at hrun
      exact ih h₁ hok₁ hrun

/-- `wcn36xx_rx_handle_packets` keeps the invariant when every `alloc_skb` succeeds. -/
theorem RxOwns.handlePackets {s s' : RxState} (h : RxOwns s) (hok : ∀ a ∈ s.allocs, a.isSome = true)
    (hrun : rxHandlePackets s = some s') : RxOwns s' := by
  obtain ⟨k, hk⟩ := h.head
  simp only [rxHandlePackets, hk, Option.bind_eq_bind, Option.bind_some, Option.bind_eq_some_iff,
    Option.pure_def, Option.some.injEq] at hrun
  obtain ⟨⟨ctl, s₁⟩, hloop, rfl⟩ := hrun
  obtain ⟨h₁, j, rfl⟩ := RxOwns.handlePacketsLoop _ h hok hloop
  exact h₁.congr rfl rfl ⟨j, rfl⟩ (fun _ => rfl) rfl rfl

/-! ## Start and stop -/

/-- The first `i` blocks of a channel that starts have a buffer each. -/
structure RxFilled (n i : ℕ) (s : RxState) : Prop where
  ready : RingReady s.ch
  desc_num : s.ch.desc_num = n
  head : s.ch.head_blk_ctl = some (s.ch.blk 0)
  ok : ∀ a ∈ s.allocs, a.isSome = true
  delivered : s.delivered = []
  skb : ∀ j, j < i → ∃ skb, s.ch.slotSkb j = some skb ∧
    (s.ch.dxe j).dst_addr_l = skb.dma ∧ skb.ptr < s.next_skb
  inj : ∀ j k f g, j < i → k < i → s.ch.slotSkb j = some f → s.ch.slotSkb k = some g →
    f.ptr = g.ptr → j = k

/-- One iteration of `wcn36xx_dxe_ch_alloc_skb`. -/
theorem RxFilled.fill {n i : ℕ} {s s' : RxState} {ret : ℤ} (h : RxFilled n i s) (hi : i < n)
    (hrun : dxeFillSkb s (s.ch.blk i) = some (s', ret)) : RxFilled n (i + 1) s' := by
  obtain ⟨c, hc, -, -⟩ := h.ready.ctl i
  have hok := h.ok
  cases ha : s.allocs with
  | nil => simp [dxeFillSkb, hc, ha] at hrun
  | cons a rest =>
    rw [ha] at hok
    obtain ⟨dma, rfl⟩ := Option.isSome_iff_exists.mp (hok a (List.mem_cons_self ..))
    rw [dxeFillSkb_some h.ready i dma rest ha, Option.some.injEq, Prod.mk.injEq] at hrun
    obtain ⟨rfl, -⟩ := hrun
    have hslot : ∀ j, j < n → (filledRx s i dma rest).ch.slotSkb j =
        if j = i then some (s.newSkb dma) else s.ch.slotSkb j := by
      intro j hj
      have hmod : ∀ k, k < n → k % s.ch.desc_num = k := fun k hk =>
        Nat.mod_eq_of_lt (by rw [h.desc_num]; exact hk)
      rw [filledRx, slotSkb_filledCh h.ready, hmod j hj, hmod i hi]
    have hnew : (s.newSkb dma).ptr = s.next_skb := rfl
    have hlt : ∀ j f, j < i → s.ch.slotSkb j = some f → f.ptr < s.next_skb := fun j f hj hf => by
      obtain ⟨g, hg, -, hlt⟩ := h.skb j hj
      rw [hf, Option.some.injEq] at hg
      rwa [hg]
    refine ⟨ready_filledCh h.ready i _, h.desc_num, h.head,
      fun a ha => hok a (List.mem_cons_of_mem _ ha), ?_, fun j hj => ?_,
      fun j k f g hj hk hf hg heq => ?_⟩
    · have hdel := h.delivered
      simp only [RxState.delivered, filledRx, List.filterMap_append, List.filterMap_cons,
        RxEffect.delivers, List.filterMap_nil, List.append_nil] at hdel ⊢
      exact hdel
    · have hdst := dst_filledCh s.ch i (s.newSkb dma) j
      rw [Nat.mod_eq_of_lt (by rw [h.desc_num]; exact hi)] at hdst
      rw [hslot j (by omega)]
      split_ifs at hdst ⊢ with hji
      · exact ⟨_, rfl, hdst, Nat.lt_succ_self _⟩
      · obtain ⟨f, hf, hdma, hptr⟩ := h.skb j (by omega)
        exact ⟨f, hf, hdst.trans hdma, Nat.lt_succ_of_lt hptr⟩
    · rw [hslot j (by omega)] at hf
      rw [hslot k (by omega)] at hg
      split_ifs at hf hg with hji hki hki
      · rw [hji, hki]
      · rw [Option.some.injEq] at hf
        have := hlt k g (by omega) hg
        rw [← heq, ← hf, hnew] at this
        exact absurd this (Nat.lt_irrefl _)
      · rw [Option.some.injEq] at hg
        have := hlt j f (by omega) hf
        rw [heq, ← hg, hnew] at this
        exact absurd this (Nat.lt_irrefl _)
      · exact h.inj j k f g (by omega) (by omega) hf hg heq

/-- `wcn36xx_dxe_ch_alloc_skb` establishes the invariant when every `alloc_skb` succeeds. -/
theorem RxFilled.chAllocSkb {n : ℕ} {s s' : RxState} (h : RxFilled n 0 s)
    (hrun : dxeChAllocSkb s = some s') : RxOwns s' := by
  simp only [dxeChAllocSkb, h.head, h.desc_num, Option.bind_eq_bind, Option.bind_eq_some_iff,
    Option.pure_def, Option.some.injEq] at hrun
  obtain ⟨⟨u, s₁⟩, hwalk, rfl⟩ := hrun
  have hblk : ∀ t : RxState, t.ch.desc_num = n → ∀ j, t.ch.blk j = s.ch.blk j := fun t ht j => by
    rw [DxeCh.blk, DxeCh.blk, ht, h.desc_num]
  have hfilled : RxFilled n n s₁ := by
    refine walk_run _ _ s.ch.blk (fun i _ t => RxFilled n i t) n ?_ n 0 () s u s₁ (Nat.zero_add n) h
      hwalk
    intro i _ t _ t' hi hI hbody
    obtain ⟨⟨t₁, ret⟩, hfill, heq⟩ := Option.map_eq_some_iff.mp hbody
    cases heq
    rw [← hblk t hI.desc_num] at hfill
    have hI' := hI.fill hi hfill
    refine ⟨?_, hI'⟩
    rw [← hblk _ hI'.desc_num, ← hblk _ hI'.desc_num]
    exact hI'.ready.nextOf i
  have hslot : ∀ k, s₁.ch.slotSkb k = s₁.ch.slotSkb (k % n) := fun k => by
    rw [DxeCh.slotSkb, DxeCh.slotSkb, DxeCh.blk_mod, hfilled.desc_num]
  have hn : 0 < n := by
    have := hfilled.ready.two_le
    rw [hfilled.desc_num] at this
    omega
  refine ⟨hfilled.ready, ⟨0, hfilled.head⟩, fun k => ?_, fun j k f g hf hg heq => ?_, ?_, ?_⟩
  · obtain ⟨f, hf, hdst, hptr⟩ := hfilled.skb (k % n) (Nat.mod_lt k hn)
    rw [hslot, hfilled.desc_num, hfilled.delivered]
    exact ⟨f, hf, hdst, hptr, List.not_mem_nil⟩
  · rw [hslot] at hf hg
    rw [hfilled.desc_num]
    exact hfilled.inj _ _ f g (Nat.mod_lt j hn) (Nat.mod_lt k hn) hf hg heq
  · rw [hfilled.delivered]
    exact fun f hf => absurd hf List.not_mem_nil
  · rw [hfilled.delivered]
    exact List.nodup_nil

/-- The buffers at the `i` blocks from a position on. -/
def rxSkbs (ch : DxeCh) (h i : ℕ) : List SkBuff :=
  (List.range i).flatMap fun j => (ch.slotSkb (h + j)).toList

/-- `wcn36xx_dxe_ch_free_skbs` frees the buffers of all blocks. -/
theorem dxeChFreeSkbs_spec {s : RxState} (hready : RingReady s.ch) {h : ℕ}
    (hhead : s.ch.head_blk_ctl = some (s.ch.blk h)) :
    dxeChFreeSkbs s =
      some (s.emit ((rxSkbs s.ch h s.ch.desc_num).map RxEffect.kfreeSkb)) := by
  have hwalk := walk_spec (fun s : RxState => s.ch.nextOf)
    (fun _ cur _ s => (s.ch.ctl cur).map fun c =>
      ((), s.emit (c.skb.toList.map RxEffect.kfreeSkb)))
    (fun i => s.ch.blk (h + i))
    (fun i _ t => t = s.emit ((rxSkbs s.ch h i).map RxEffect.kfreeSkb)) s.ch.desc_num
    (by
      rintro i b t _ rfl
      obtain ⟨c, hc, -⟩ := hready.ctl (h + i)
      have hskb : s.ch.slotSkb (h + i) = c.skb := by
        rw [DxeCh.slotSkb, DxeCh.skbAt, hc, Option.bind_some]
      refine ⟨(), s.emit ((rxSkbs s.ch h (i + 1)).map RxEffect.kfreeSkb), ?_,
        hready.nextOf (h + i), rfl⟩
      simp only [RxState.emit, hc, Option.map_some, rxSkbs, List.range_succ, List.flatMap_append,
        List.flatMap_singleton, hskb, List.map_append, List.append_assoc])
    s.ch.desc_num 0 () s (Nat.zero_add _) ?_
  · obtain ⟨u, t, hrun, rfl⟩ := hwalk
    rw [dxeChFreeSkbs, hhead]
    simp only [Nat.add_zero] at hrun
    simp only [hrun, Option.bind_eq_bind, Option.bind_some, Option.pure_def]
  · rw [rxSkbs, List.range_zero, List.flatMap_nil, List.map_nil, RxState.emit, List.append_nil]

/-! ## Runs -/

/-- What the set-up of an RX channel is given. -/
structure RxParams where
  is_low : Bool
  desc_num : ℕ
  coherent : ℕ × BitVec 32
  two_le : 2 ≤ desc_num

/-- The driver's own RX high channel. -/
def rxHighParams : RxParams where
  is_low := false
  desc_num := WCN36XX_DXE_CH_DESC_NUMB_RX_H
  coherent := (0x50000, 0x50000)
  two_le := by decide

/-- An RX channel, and whether `wcn36xx_dxe_ch_alloc_skb` has run. -/
structure RxWorld where
  rx : RxState
  started : Bool := false

/-- The steps of an RX channel. Those of the driver carry what its calls of `alloc_skb` come to. -/
inductive RxEvent where
  /-- `wcn36xx_dxe_ch_alloc_skb`. -/
  | start (allocs : List (Option (BitVec 32)))
  /-- The device has received into the buffer of a descriptor. -/
  | dma (i : ℕ)
  /-- `wcn36xx_rx_handle_packets`. -/
  | handle (allocs : List (Option (BitVec 32)))

/-- The transition system of an RX channel. The device may complete any VALID descriptor. -/
def rxSystem (p : RxParams) : System RxWorld RxEvent where
  init w :=
    rxChSetup p.is_low p.desc_num p.coherent = some w.rx.ch ∧ w.rx.log = [] ∧ w.started = false
  step w
    | .start allocs =>
      if w.started then none
      else do
        let rx ← dxeChAllocSkb { w.rx with allocs := allocs }
        if rx.allocs.isEmpty then return { rx := rx, started := true } else none
    | .dma i =>
      if w.started ∧ i < w.rx.ch.desc_num ∧ (w.rx.ch.dxe i).valid then
        some { w with rx := { w.rx with ch := w.rx.ch.modDesc i DxeDesc.clearValid } }
      else none
    | .handle allocs =>
      if w.started then do
        let rx ← rxHandlePackets { w.rx with allocs := allocs }
        if rx.allocs.isEmpty then return { w with rx := rx } else none
      else none

/-- Every call of `alloc_skb` that the step makes succeeds. -/
def AllocsSucceed (_ : RxWorld) : RxEvent → Prop
  | .start allocs | .handle allocs => ∀ a ∈ allocs, a.isSome = true
  | .dma _ => True

instance : ∀ w e, Decidable (AllocsSucceed w e)
  | _, .start allocs | _, .handle allocs =>
    -- by the list, and not by the 2^32 values that `a` can have
    show Decidable (∀ a ∈ allocs, a.isSome = true) from
      List.decidableBAll (fun a => a.isSome = true) allocs
  | _, .dma _ => isTrue trivial

/-- The buffers that have been freed between two states. -/
def rxFreed (s s' : RxState) : List SkBuff :=
  (s'.log.drop s.log.length).filterMap RxEffect.frees

/-- The buffers of an RX channel are with those who own them. -/
structure RxOwned (s : RxState) : Prop where
  /-- Every descriptor has a control block. -/
  block : ∀ i, i < s.ch.desc_num → ∃ p c, s.ch.ctl p = some c ∧ c.desc = some i
  /-- The buffer of a VALID descriptor's control block is there, is the one that the descriptor points
  to, and has not been passed to `wcn36xx_rx_skb`. -/
  armed : ∀ k c i, s.ch.ctl (s.ch.blk k) = some c → c.desc = some i → (s.ch.dxe i).valid = true →
    ∃ skb, c.skb = some skb ∧ (s.ch.dxe i).dst_addr_l = skb.dma ∧
      skb.ptr ∉ s.delivered.map SkBuff.ptr
  /-- No buffer is delivered twice. -/
  once : (s.delivered.map SkBuff.ptr).Nodup
  /-- `wcn36xx_dxe_ch_free_skbs` frees buffers that are still the driver's, each once. -/
  stop : ∃ s', dxeChFreeSkbs s = some s' ∧ ((rxFreed s s').map SkBuff.ptr).Nodup ∧
    ∀ f ∈ rxFreed s s', f.ptr ∉ s.delivered.map SkBuff.ptr

/-- The invariant says so. -/
theorem RxOwns.owned {s : RxState} (h : RxOwns s) : RxOwned s := by
  obtain ⟨p, hp⟩ := h.head
  have hn := h.ready.two_le
  refine ⟨fun i hi => ?_, fun k c i hc hi _ => ?_, h.nodup, _, dxeChFreeSkbs_spec h.ready hp, ?_⟩
  · obtain ⟨c, hc, -, hdesc⟩ := h.ready.ctl i
    rw [Nat.mod_eq_of_lt hi] at hdesc
    exact ⟨_, c, hc, hdesc⟩
  · obtain ⟨c', hc', -, hdesc⟩ := h.ready.ctl k
    obtain ⟨skb, hskb, hdst, -, hnot⟩ := h.skb k
    rw [hc, Option.some.injEq] at hc'
    rw [← hc', hi, Option.some.injEq] at hdesc
    rw [DxeCh.slotSkb, DxeCh.skbAt, hc, Option.bind_some] at hskb
    exact ⟨skb, hskb, by rw [hdesc]; exact hdst, hnot⟩
  · have hfreed : rxFreed s (s.emit ((rxSkbs s.ch p s.ch.desc_num).map RxEffect.kfreeSkb)) =
        rxSkbs s.ch p s.ch.desc_num := by
      have hid : (RxEffect.frees ∘ RxEffect.kfreeSkb) = some := rfl
      rw [rxFreed, RxState.emit, List.drop_left, List.filterMap_map, hid, List.filterMap_some]
    rw [hfreed]
    constructor
    · rw [rxSkbs, List.map_flatMap, List.nodup_flatMap]
      refine ⟨fun j _ => ?_, ?_⟩
      · cases s.ch.slotSkb (p + j) with
        | none => exact List.nodup_nil
        | some f => exact List.nodup_singleton _
      · refine List.Pairwise.imp_of_mem ?_ List.nodup_range
        intro i j hi hj hij
        rw [List.mem_range] at hi hj
        refine List.disjoint_left.mpr fun a ha hb => hij ?_
        obtain ⟨f, hf, rfl⟩ := List.mem_map.mp ha
        obtain ⟨g, hg, hptr⟩ := List.mem_map.mp hb
        rw [Option.mem_toList] at hf hg
        -- Two blocks of one lap with the same buffer are one block.
        have hmod := h.inj _ _ f g hf hg hptr.symm
        have := (Cycle.consecutive 1 s.ch.desc_num).pos_inj (t := p) (i := p + i) (j := p + j)
          (by omega) (by omega) (((Cycle.consecutive 1 s.ch.desc_num).pos_eq_iff _ _).mpr hmod)
        omega
    · intro f hf
      obtain ⟨j, -, hj⟩ := List.mem_flatMap.mp hf
      rw [Option.mem_toList] at hj
      obtain ⟨g, hg, -, -, hnot⟩ := h.skb (p + j)
      rw [hj, Option.some.injEq] at hg
      rwa [hg]

/-- What holds of a channel before and after `wcn36xx_dxe_ch_alloc_skb`. -/
def RxInv (p : RxParams) (w : RxWorld) : Prop :=
  if w.started then RxOwns w.rx else ∀ allocs, (∀ a ∈ allocs, a.isSome = true) →
    RxFilled p.desc_num 0 { w.rx with allocs := allocs }

/-- The set-up establishes it. -/
theorem rxInv_init {p : RxParams} {w : RxWorld} (h : (rxSystem p).init w) : RxInv p w := by
  obtain ⟨hsetup, hlog, hstarted⟩ := h
  have hn : (rxChConfig p.is_low p.desc_num).desc_num = p.desc_num := rfl
  obtain ⟨A, ch, halloc, hinit, hch⟩ := ringSetup_spec (rxChConfig p.is_low p.desc_num)
    (by rw [hn]; exact p.two_le) rfl p.coherent.1 p.coherent.2
  simp only [rxChSetup, halloc, hinit, Option.bind_eq_bind, Option.bind_some, Option.pure_def,
    Option.some.injEq] at hsetup
  subst hsetup
  rw [RxInv, hstarted, if_neg Bool.false_ne_true]
  intro allocs hok
  refine ⟨hch.ready (by rw [hn]; exact p.two_le), hch.desc_num, ?_, hok, ?_,
    fun j hj => absurd hj (Nat.not_lt_zero j), fun j _ _ _ hj => absurd hj (Nat.not_lt_zero j)⟩
  · rw [hch.head, DxeCh.blk, hch.desc_num, Cycle.consecutive_pos (by rw [hn]; have := p.two_le; omega)]
  · rw [RxState.delivered, hlog, List.filterMap_nil]

/-- Every step whose calls of `alloc_skb` succeed keeps it. -/
theorem rxInv_step {p : RxParams} {w w' : RxWorld} {e : RxEvent} (h : RxInv p w)
    (hP : AllocsSucceed w e) (hstep : (rxSystem p).step w e = some w') : RxInv p w' := by
  cases e with
  | start allocs =>
    simp only [rxSystem, Option.ite_none_left_eq_some, Option.bind_eq_bind,
      Option.bind_eq_some_iff, Option.ite_none_right_eq_some, Option.pure_def,
      Option.some.injEq] at hstep
    obtain ⟨hstarted, rx, hrun, -, rfl⟩ := hstep
    rw [RxInv, if_neg hstarted] at h
    rw [RxInv, if_pos rfl]
    exact (h allocs hP).chAllocSkb hrun
  | dma i =>
    simp only [rxSystem, Option.ite_none_right_eq_some, Option.some.injEq] at hstep
    obtain ⟨⟨hstarted, -, -⟩, rfl⟩ := hstep
    rw [RxInv, if_pos hstarted] at h ⊢
    refine h.congr rfl rfl h.head (fun j => ?_) rfl rfl
    simp only [DxeCh.modDesc]
    rcases eq_or_ne j i with rfl | hj
    · rw [Function.update_self]
      rfl
    · rw [Function.update_of_ne hj]
  | handle allocs =>
    simp only [rxSystem, Option.ite_none_right_eq_some, Option.bind_eq_bind,
      Option.bind_eq_some_iff, Option.pure_def, Option.some.injEq] at hstep
    obtain ⟨hstarted, rx, hrun, -, rfl⟩ := hstep
    rw [RxInv, if_pos hstarted] at h ⊢
    have h' : RxOwns { w.rx with allocs := allocs } :=
      h.congr rfl rfl h.head (fun _ => rfl) rfl rfl
    exact h'.handlePackets hP hrun

/-- In every run in which `alloc_skb` does not fail the buffers of a channel that has started are with
those who own them. -/
theorem rxOwned_of_allocsSucceed (p : RxParams) (w : RxWorld)
    (h : (rxSystem p).ReachableWhen AllocsSucceed w) (hstarted : w.started = true) :
    RxOwned w.rx := by
  have hI : RxInv p w := h.invariant (fun _ hw => rxInv_init hw)
    (fun _ _ _ hI hP he => rxInv_step hI hP he)
  rw [RxInv, if_pos hstarted] at hI
  exact hI.owned

/-- The channel after the set-up. -/
def rxStart (p : RxParams) : Option RxWorld :=
  (rxChSetup p.is_low p.desc_num p.coherent).map fun ch => { rx := { ch := ch } }

/-- It is an initial state. -/
theorem rxStart_init {p : RxParams} {w : RxWorld} (h : rxStart p = some w) :
    (rxSystem p).init w := by
  obtain ⟨ch, hch, rfl⟩ := Option.map_eq_some_iff.mp h
  exact ⟨hch, rfl, rfl⟩

/-- A full set of buffers, one for each descriptor of the RX high channel. -/
def rxHighBuffers : List (Option (BitVec 32)) :=
  (List.range WCN36XX_DXE_CH_DESC_NUMB_RX_H).map fun i => some (BitVec.ofNat 32 (0x1000 * (i + 1)))

/-- The device receives two frames on the RX high channel, and `wcn36xx_rx_handle_packets` hands both
over. -/
theorem rxOwned_of_allocsSucceed_two_frames :
    ∃ w, (rxSystem rxHighParams).ReachableWhen AllocsSucceed w ∧ w.rx.delivered.length = 2 ∧
      RxOwned w.rx := by
  obtain ⟨w, hrun, hw⟩ : ∃ w, ((rxStart rxHighParams).bind fun w =>
      (rxSystem rxHighParams).runWhen AllocsSucceed w [.start rxHighBuffers, .dma 0, .dma 1,
        .handle [some 0x90000, some 0x91000]]) = some w ∧
      (fun w : RxWorld => decide (w.started = true ∧ w.rx.delivered.length = 2)) w = true :=
    (Option.any_eq_true _ _).mp (by decide +kernel)
  obtain ⟨w₀, hw₀, hrun⟩ := Option.bind_eq_some_iff.mp hrun
  have hreach : (rxSystem rxHighParams).ReachableWhen AllocsSucceed w :=
    System.ReachableWhen.runWhen (.init (rxStart_init hw₀)) hrun
  obtain ⟨hstarted, hlen⟩ := of_decide_eq_true hw
  exact ⟨w, hreach, hlen, rxOwned_of_allocsSucceed rxHighParams w hreach hstarted⟩

/-- A VALID descriptor at a position still has a buffer that was delivered. -/
def rxLent (s : RxState) (k : ℕ) : Bool :=
  match s.ch.ctl (s.ch.blk k) with
  | some c =>
    match c.desc, c.skb with
    | some i, some skb => (s.ch.dxe i).valid && (s.delivered.map SkBuff.ptr).contains skb.ptr
    | _, _ => false
  | none => false

/-- That refutes `RxOwned`. -/
theorem not_rxOwned_of_rxLent {s : RxState} {k : ℕ} (h : rxLent s k = true) : ¬RxOwned s := by
  intro howned
  unfold rxLent at h
  split at h
  · rename_i c hc
    split at h
    · rename_i i skb hi hskb
      rw [Bool.and_eq_true, List.contains_iff_mem] at h
      obtain ⟨f, hf, -, hnot⟩ := howned.armed k c i hc hi h.1
      rw [hskb, Option.some.injEq] at hf
      exact hnot (hf ▸ h.2)
    · cases h
  · cases h

/-- The RX high channel starts with all its buffers and receives one frame; the `alloc_skb` of
`wcn36xx_rx_handle_packets` fails. The descriptor is VALID again with the buffer that mac80211 has
got. -/
theorem rxOwned_fails_without_memory :
    ∃ w, (rxSystem rxHighParams).Reachable w ∧ w.started = true ∧ ¬RxOwned w.rx := by
  obtain ⟨w, hrun, hw⟩ : ∃ w, ((rxStart rxHighParams).bind fun w =>
      (rxSystem rxHighParams).runFrom w [.start rxHighBuffers, .dma 0, .handle [none]]) = some w ∧
      (fun w : RxWorld => decide (w.started = true ∧ rxLent w.rx 0 = true)) w = true :=
    (Option.any_eq_true _ _).mp (by decide +kernel)
  obtain ⟨w₀, hw₀, hrun⟩ := Option.bind_eq_some_iff.mp hrun
  obtain ⟨hstarted, hlent⟩ := of_decide_eq_true hw
  exact ⟨w, System.Reachable.runFrom (.init (rxStart_init hw₀)) hrun, hstarted,
    not_rxOwned_of_rxLent hlent⟩

end Wcn36xx
