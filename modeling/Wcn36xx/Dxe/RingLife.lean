import Wcn36xx.Dxe.Links

/-!
# The life of a ring

A ring lives from `wcn36xx_dxe_allocate_ctl_block` to `wcn36xx_dxe_free_ctl_block`. `RingAt` describes it
at any address and with its head and tail anywhere on it, so that it holds while the driver runs
(`RingAt.moves`), and again after a restart. Freeing takes one lap from the head (`RingAt.free`). The
pointers are not cleared, so freeing twice is a fault (`dxeFreeCtlBlock_twice`).
-/

namespace Wcn36xx

open Support (Cycle walk_run walk_spec)

/-- The blocks of a channel form a ring from address `base`, on which its head and tail are. -/
structure RingAt (ch : DxeCh) (base : ℕ) : Prop where
  two_le : 2 ≤ ch.desc_num
  ctl : ∀ k, ∃ c, ch.ctl ((Cycle.consecutive base ch.desc_num).pos k) = some c ∧
    c.next = some ((Cycle.consecutive base ch.desc_num).pos (k + 1))
  head : ∃ h, ch.head_blk_ctl = some ((Cycle.consecutive base ch.desc_num).pos h)
  tail : ∃ t, ch.tail_blk_ctl = some ((Cycle.consecutive base ch.desc_num).pos t)

/-- Each block of the ring has its descriptor. -/
def DescribedAt (ch : DxeCh) (base : ℕ) : Prop :=
  ∀ k c, ch.ctl ((Cycle.consecutive base ch.desc_num).pos k) = some c → c.desc.isSome = true

/-- No block of the ring has a descriptor. -/
def BareAt (ch : DxeCh) (base : ℕ) : Prop :=
  ∀ k c, ch.ctl ((Cycle.consecutive base ch.desc_num).pos k) = some c → c.desc = none

namespace DxeCh

/-- `n` blocks, following `next` from a pointer, are allocated and have a descriptor. -/
def liveFrom (ch : DxeCh) : (n : ℕ) → Option ℕ → Bool
  | 0, _ => true
  | _ + 1, none => false
  | n + 1, some p => (ch.ctl p).any fun c => c.desc.isSome && ch.liveFrom n c.next

/-- One lap from the head and one lap from the tail go through allocated blocks that have
descriptors. -/
def live (ch : DxeCh) : Bool :=
  ch.desc_num != 0 && ch.liveFrom ch.desc_num ch.head_blk_ctl &&
    ch.liveFrom ch.desc_num ch.tail_blk_ctl

end DxeCh

namespace RingAt

variable {ch : DxeCh} {base : ℕ} (h : RingAt ch base)
include h

/-- A ring is not empty. -/
theorem pos : 0 < ch.desc_num := Nat.lt_of_lt_of_le Nat.zero_lt_two h.two_le

/-- Following `next` does not leave the ring. -/
theorem along {p : ℕ} {q : Option ℕ}
    (hp : ∃ k, p = (Cycle.consecutive base ch.desc_num).pos k) (hpq : ch.Along (some p) q) :
    ∃ k, q = some ((Cycle.consecutive base ch.desc_num).pos k) := by
  obtain ⟨k, rfl⟩ := hp
  induction hpq with
  | refl => exact ⟨k, rfl⟩
  | next _ hnext ih =>
    obtain ⟨j, hj⟩ := ih
    obtain ⟨c, hc, hsucc⟩ := h.ctl j
    rw [Option.some.injEq] at hj
    rw [DxeCh.nextOf, hj, hc, Option.map_some, Option.some.injEq, hsucc] at hnext
    exact ⟨j + 1, hnext.symm⟩

/-- A ring is a ring for as long as the driver runs. -/
theorem moves {ch' : DxeCh} (hmoves : ch.Moves ch') : RingAt ch' base where
  two_le := hmoves.desc_num ▸ h.two_le
  ctl k := by
    obtain ⟨c, hc, hnext⟩ := h.ctl k
    obtain ⟨c', hc', hnext', -⟩ := hmoves.ctl hc
    rw [hmoves.desc_num]
    exact ⟨c', hc', hnext'.trans hnext⟩
  head := by
    obtain ⟨k, hk⟩ := h.head
    rw [hmoves.desc_num]
    exact h.along ⟨k, rfl⟩ (hk ▸ hmoves.head)
  tail := by
    obtain ⟨k, hk⟩ := h.tail
    rw [hmoves.desc_num]
    exact h.along ⟨k, rfl⟩ (hk ▸ hmoves.tail)

/-- The descriptors of its blocks stay what they are. -/
theorem desc_moves {ch' : DxeCh} (hmoves : ch.Moves ch') {k : ℕ} {c' : DxeCtl}
    (hc' : ch'.ctl ((Cycle.consecutive base ch'.desc_num).pos k) = some c') :
    ∃ c, ch.ctl ((Cycle.consecutive base ch.desc_num).pos k) = some c ∧ c'.desc = c.desc := by
  obtain ⟨c, hc, -⟩ := h.ctl k
  obtain ⟨c₁, hc₁, -, heq⟩ := hmoves.ctl hc
  rw [hmoves.desc_num, hc₁, Option.some.injEq] at hc'
  exact ⟨c, hc, by rw [← hc', heq]⟩

/-- A ring keeps its descriptors. -/
theorem described_moves {ch' : DxeCh} (hmoves : ch.Moves ch') (hdesc : DescribedAt ch base) :
    DescribedAt ch' base := by
  intro k c' hc'
  obtain ⟨c, hc, heq⟩ := h.desc_moves hmoves hc'
  rw [heq]
  exact hdesc k c hc

/-- A ring gets no descriptors. -/
theorem bare_moves {ch' : DxeCh} (hmoves : ch.Moves ch') (hbare : BareAt ch base) :
    BareAt ch' base := by
  intro k c' hc'
  obtain ⟨c, hc, heq⟩ := h.desc_moves hmoves hc'
  rw [heq]
  exact hbare k c hc

/-- A walk along a ring with descriptors goes through allocated blocks that have descriptors. -/
theorem liveFrom (hdesc : DescribedAt ch base) (n : ℕ) :
    ∀ k, ch.liveFrom n (some ((Cycle.consecutive base ch.desc_num).pos k)) = true := by
  induction n with
  | zero => exact fun _ => rfl
  | succ n ih =>
    intro k
    obtain ⟨c, hc, hnext⟩ := h.ctl k
    rw [DxeCh.liveFrom, hc, Option.any_some, hdesc k c hc, hnext, ih, Bool.true_and]

/-- A ring with descriptors is live. -/
theorem live (hdesc : DescribedAt ch base) : ch.live = true := by
  obtain ⟨k, hk⟩ := h.head
  obtain ⟨j, hj⟩ := h.tail
  have hpos : ch.desc_num ≠ 0 := Nat.pos_iff_ne_zero.mp h.pos
  unfold DxeCh.live
  rw [hk, hj, h.liveFrom hdesc, h.liveFrom hdesc, bne_iff_ne.mpr hpos]
  rfl

end RingAt

/-! ## Allocating -/

/-- The loop of `wcn36xx_dxe_free_ctl_block` changes nothing but which blocks are allocated, and
allocates none. -/
theorem dxeFreeCtlBlockLoop_frame (left : ℕ) : ∀ {ctl : Option ℕ} {ch ch' : DxeCh},
    dxeFreeCtlBlockLoop left ctl ch = some ch' →
    ch' = { ch with ctl := ch'.ctl } ∧ ∀ p, ch.ctl p = none → ch'.ctl p = none := by
  induction left with
  | zero =>
    intro ctl ch ch' h
    rw [dxeFreeCtlBlockLoop, Option.some.injEq] at h
    rw [h]
    exact ⟨rfl, fun _ hp => hp⟩
  | succ left ih =>
    intro ctl ch ch' h
    cases ctl with
    | none =>
      rw [dxeFreeCtlBlockLoop, Option.some.injEq] at h
      rw [h]
      exact ⟨rfl, fun _ hp => hp⟩
    | some p =>
      simp only [dxeFreeCtlBlockLoop, Option.bind_eq_bind, Option.bind_eq_some_iff] at h
      obtain ⟨c, -, ch₁, hfree, hrest⟩ := h
      obtain ⟨_, -, rfl⟩ := Option.map_eq_some_iff.mp hfree
      obtain ⟨heq, hnone⟩ := ih hrest
      refine ⟨heq, fun q hq => hnone q ?_⟩
      rcases eq_or_ne q p with rfl | hne
      · exact Function.update_self ..
      · exact (Function.update_of_ne hne ..).trans hq

/-- `wcn36xx_dxe_free_ctl_block` changes nothing but which blocks are allocated, and allocates none. -/
theorem dxeFreeCtlBlock_frame {ch ch' : DxeCh} (h : dxeFreeCtlBlock ch = some ch') :
    ch' = { ch with ctl := ch'.ctl } ∧ ∀ p, ch.ctl p = none → ch'.ctl p = none :=
  dxeFreeCtlBlockLoop_frame _ h

/-- The ring that `wcn36xx_dxe_allocate_ctl_block` builds. -/
theorem ringAt_allocatedCh (ch : DxeCh) (hn : 2 ≤ ch.desc_num) :
    RingAt (allocatedCh ch ch.desc_num) ch.fresh where
  two_le := hn
  ctl k := by
    have hlt : k % ch.desc_num < ch.desc_num := Nat.mod_lt k (by omega)
    have hctl := allocatedCh_ctl ch hlt
    refine ⟨_, hctl, ?_⟩
    refine congrArg some (((Cycle.consecutive ch.fresh ch.desc_num).pos_eq_iff _ _).mpr ?_)
    rw [Nat.mod_add_mod]
  head := ⟨0, by rw [Cycle.consecutive_pos (show 0 < (allocatedCh ch ch.desc_num).desc_num by
    exact Nat.lt_of_lt_of_le Nat.zero_lt_two hn)]; rfl⟩
  tail := ⟨0, by rw [Cycle.consecutive_pos (show 0 < (allocatedCh ch ch.desc_num).desc_num by
    exact Nat.lt_of_lt_of_le Nat.zero_lt_two hn)]; rfl⟩

/-- The blocks of a new ring have no descriptors yet. -/
theorem bareAt_allocatedCh (ch : DxeCh) (hn : 2 ≤ ch.desc_num) :
    BareAt (allocatedCh ch ch.desc_num) ch.fresh := by
  intro k c hc
  have hlt : k % ch.desc_num < ch.desc_num := Nat.mod_lt k (by omega)
  have hpos : (Cycle.consecutive ch.fresh (allocatedCh ch ch.desc_num).desc_num).pos k =
      ch.fresh + k % ch.desc_num := rfl
  rw [hpos, allocatedCh_ctl ch hlt, Option.some.injEq] at hc
  rw [← hc]

/-- The loop of `wcn36xx_dxe_allocate_ctl_block` up to the first `kzalloc` that fails. -/
theorem dxeAllocateCtlBlockLoop_fail (kzalloc : ℕ → Bool) (ch : DxeCh) {m : ℕ}
    (hm : m < ch.desc_num) (hok : ∀ i, i < m → kzalloc i = true) (hfail : kzalloc m = false) :
    ∀ left i, 0 < i → i ≤ m → i + left = ch.desc_num →
      dxeAllocateCtlBlockLoop kzalloc left i (some (ch.fresh + i - 1)) (allocatedCh ch i) =
        (dxeFreeCtlBlock (allocatedCh ch m)).map fun ch => (ch, -ENOMEM) := by
  intro left
  induction left with
  | zero =>
    intro i hi him hsum
    omega
  | succ left ih =>
    intro i hi him hsum
    rcases Nat.lt_or_eq_of_le him with hlt | rfl
    · rw [dxeAllocateCtlBlockLoop, if_pos (hok i hlt),
        dxeAllocateCtlBlockBody_succ ch i hi (by omega)]
      exact ih (i + 1) (by omega) (by omega) (by omega)
    · rw [dxeAllocateCtlBlockLoop, if_neg (by rw [hfail]; exact Bool.false_ne_true)]
      cases dxeFreeCtlBlock (allocatedCh ch i) <;> rfl

/-- `wcn36xx_dxe_allocate_ctl_block` with memory only for the first blocks frees them again. -/
theorem dxeAllocateCtlBlock_fail (kzalloc : ℕ → Bool) (ch : DxeCh) (hn : 2 ≤ ch.desc_num) {m : ℕ}
    (hpos : 0 < m) (hm : m < ch.desc_num) (hok : ∀ i, i < m → kzalloc i = true)
    (hfail : kzalloc m = false) :
    dxeAllocateCtlBlock kzalloc ch =
      (dxeFreeCtlBlock (allocatedCh ch m)).map fun ch => (ch, -ENOMEM) := by
  obtain ⟨l, hl⟩ : ∃ l, ch.desc_num = l + 1 := ⟨ch.desc_num - 1, by omega⟩
  rw [dxeAllocateCtlBlock, hl, dxeAllocateCtlBlockLoop, if_pos (hok 0 hpos),
    dxeAllocateCtlBlockBody_zero ch hn]
  exact dxeAllocateCtlBlockLoop_fail kzalloc ch hm hok hfail l 1 Nat.one_pos hpos (by omega)

/-- Without memory for the first block, `wcn36xx_dxe_allocate_ctl_block` frees from where the head has
been so far. -/
theorem dxeAllocateCtlBlock_fail_zero (kzalloc : ℕ → Bool) (ch : DxeCh) (hn : 2 ≤ ch.desc_num)
    (hfail : kzalloc 0 = false) :
    dxeAllocateCtlBlock kzalloc ch = (dxeFreeCtlBlock ch).map fun ch => (ch, -ENOMEM) := by
  obtain ⟨l, hl⟩ : ∃ l, ch.desc_num = l + 1 := ⟨ch.desc_num - 1, by omega⟩
  rw [dxeAllocateCtlBlock, hl, dxeAllocateCtlBlockLoop, if_neg (by rw [hfail]; exact Bool.false_ne_true)]
  cases dxeFreeCtlBlock ch <;> rfl

/-- The loop of `wcn36xx_dxe_allocate_ctl_block` only looks at the calls of `kzalloc` that it makes. -/
theorem dxeAllocateCtlBlockLoop_congr {k k' : ℕ → Bool} (left : ℕ) :
    ∀ i prev ch, (∀ j, i ≤ j → j < i + left → k j = k' j) →
      dxeAllocateCtlBlockLoop k left i prev ch = dxeAllocateCtlBlockLoop k' left i prev ch := by
  induction left with
  | zero => exact fun _ _ _ _ => rfl
  | succ left ih =>
    intro i prev ch hk
    have hi : k i = k' i := hk i (Nat.le_refl i) (by omega)
    rw [dxeAllocateCtlBlockLoop, dxeAllocateCtlBlockLoop, hi]
    refine if_congr Iff.rfl ?_ rfl
    refine bind_congr fun r => ?_
    exact ih (i + 1) _ _ fun j hj hlt => hk j (by omega) (by omega)

/-- `wcn36xx_dxe_allocate_ctl_block` with enough memory. -/
theorem dxeAllocateCtlBlock_ok (kzalloc : ℕ → Bool) (ch : DxeCh) (hn : 2 ≤ ch.desc_num)
    (hok : ∀ i, i < ch.desc_num → kzalloc i = true) :
    dxeAllocateCtlBlock kzalloc ch = some (allocatedCh ch ch.desc_num, 0) := by
  rw [← dxeAllocateCtlBlock_spec ch hn]
  exact dxeAllocateCtlBlockLoop_congr _ _ _ _ fun j _ hlt => hok j (by omega)

/-- Without memory for some block, `wcn36xx_dxe_allocate_ctl_block` returns an error. Its head is null only
if it has been null, and there was no memory for the first block. -/
theorem dxeAllocateCtlBlock_error {kzalloc : ℕ → Bool} {ch ch' : DxeCh} {ret : ℤ}
    (hn : 2 ≤ ch.desc_num) (hfail : ∃ i, i < ch.desc_num ∧ kzalloc i = false)
    (h : dxeAllocateCtlBlock kzalloc ch = some (ch', ret)) :
    ret ≠ 0 ∧ ch'.desc_num = ch.desc_num ∧
      (ch'.head_blk_ctl = none → kzalloc 0 = false ∧ ch.head_blk_ctl = none) := by
  -- The first `kzalloc` that fails decides.
  obtain ⟨hlt, hfirst⟩ := Nat.find_spec hfail
  have hbefore : ∀ i, i < Nat.find hfail → kzalloc i = true := by
    intro i hi
    have hnot := Nat.find_min hfail hi
    simpa using fun hki => hnot ⟨by omega, hki⟩
  have hret : (-ENOMEM : ℤ) ≠ 0 := by decide
  rcases Nat.eq_zero_or_pos (Nat.find hfail) with hzero | hpos
  · rw [hzero] at hfirst
    rw [dxeAllocateCtlBlock_fail_zero kzalloc ch hn hfirst] at h
    obtain ⟨ch₁, hfree, heq⟩ := Option.map_eq_some_iff.mp h
    rw [Prod.mk.injEq] at heq
    obtain ⟨rfl, rfl⟩ := heq
    have hframe := (dxeFreeCtlBlock_frame hfree).1
    refine ⟨hret, by rw [hframe], fun hhead => ⟨hfirst, ?_⟩⟩
    rw [hframe] at hhead
    exact hhead
  · rw [dxeAllocateCtlBlock_fail kzalloc ch hn hpos hlt hbefore hfirst] at h
    obtain ⟨ch₁, hfree, heq⟩ := Option.map_eq_some_iff.mp h
    rw [Prod.mk.injEq] at heq
    obtain ⟨rfl, rfl⟩ := heq
    have hframe := (dxeFreeCtlBlock_frame hfree).1
    refine ⟨hret, by rw [hframe]; rfl, fun hhead => ?_⟩
    rw [hframe] at hhead
    cases hhead

/-- When `wcn36xx_dxe_allocate_ctl_block` returns 0, it has built the whole ring. -/
theorem dxeAllocateCtlBlock_eq_zero {kzalloc : ℕ → Bool} {ch ch' : DxeCh} (hn : 2 ≤ ch.desc_num)
    (h : dxeAllocateCtlBlock kzalloc ch = some (ch', 0)) : ch' = allocatedCh ch ch.desc_num := by
  by_cases hok : ∀ i, i < ch.desc_num → kzalloc i = true
  · rw [dxeAllocateCtlBlock_ok kzalloc ch hn hok, Option.some.injEq, Prod.mk.injEq] at h
    exact h.1.symm
  · push Not at hok
    obtain ⟨i, hi, hne⟩ := hok
    exact absurd rfl (dxeAllocateCtlBlock_error hn ⟨i, hi, Bool.eq_false_iff.mpr hne⟩ h).1

/-! ## Descriptors -/

/-- The body of the loop of `wcn36xx_dxe_init_descs` gives its block a descriptor, and changes no other
block. -/
theorem dxeInitDescsBody_ctl {i cur : ℕ} {prev prev' : Option ℕ} {ch ch' : DxeCh}
    (h : dxeInitDescsBody i cur prev ch = some (prev', ch')) :
    ∃ c, ch.ctl cur = some c ∧
      ch' = { ch with
        ctl := Function.update ch.ctl cur (some (initDescsCtl ch.dma_addr i c)), dxe := ch'.dxe } := by
  unfold dxeInitDescsBody at h
  simp only [Option.bind_eq_bind, Option.bind_eq_some_iff, Option.pure_def] at h
  obtain ⟨ch₁, hch₁, h⟩ := h
  obtain ⟨c, hc, rfl⟩ := Option.map_eq_some_iff.mp hch₁
  refine ⟨c, hc, ?_⟩
  split_ifs at h
  · rw [Option.some.injEq, Prod.mk.injEq] at h
    rw [← h.2]
    rfl
  · obtain ⟨prev, -, h⟩ := Option.bind_eq_some_iff.mp h
    split_ifs at h
    · rw [Option.some.injEq, Prod.mk.injEq] at h
      rw [← h.2]
      rfl
    · simp only [Option.bind_eq_some_iff, Option.some.injEq, Prod.mk.injEq] at h
      obtain ⟨_, -, _, -, -, rfl⟩ := h
      rfl

/-- The channel during `wcn36xx_dxe_init_descs` from position `s` of a ring: the blocks are linked as
before, and the first `i` of them have a descriptor. -/
structure InitDescsFrom (ch : DxeCh) (base s i : ℕ) (ch' : DxeCh) : Prop where
  next : ∀ p, (ch'.ctl p).map DxeCtl.next = (ch.ctl p).map DxeCtl.next
  desc : ∀ j, j < i → ∀ c,
    ch'.ctl ((Cycle.consecutive base ch.desc_num).pos (s + j)) = some c → c.desc.isSome = true
  rest : ch' = { ch with ctl := ch'.ctl, dxe := ch'.dxe }

/-- `wcn36xx_dxe_init_descs` with memory gives every block of a ring a descriptor. -/
theorem RingAt.initDescs {ch ch' : DxeCh} {base cpu_addr : ℕ} {dma_addr : BitVec 32} {ret : ℤ}
    (h : RingAt ch base) (hrun : dxeInitDescs (some (cpu_addr, dma_addr)) ch = some (ch', ret)) :
    RingAt ch' base ∧ DescribedAt ch' base ∧ ch'.cpu_addr = some cpu_addr ∧
      ch'.fresh = ch.fresh ∧ ∀ p, ch.ctl p = none → ch'.ctl p = none := by
  simp only [dxeInitDescs, Option.bind_eq_bind, Option.bind_eq_some_iff, Option.some.injEq,
    Prod.mk.injEq, Option.pure_def] at hrun
  obtain ⟨⟨prev, t⟩, hwalk, rfl, -⟩ := hrun
  obtain ⟨s, hs⟩ := h.head
  obtain ⟨ch₀, hch₀⟩ : ∃ ch₀ : DxeCh, ch₀ =
      { ch with cpu_addr := some cpu_addr, dma_addr := dma_addr, dxe := fun _ => {} } := ⟨_, rfl⟩
  have hn : ch₀.desc_num = ch.desc_num := by rw [hch₀]
  have hctl₀ : ch₀.ctl = ch.ctl := by rw [hch₀]
  rw [← hch₀] at hwalk
  have hpos : ch.head_blk_ctl = some ((Cycle.consecutive base ch.desc_num).pos (s + 0)) := hs
  rw [hpos] at hwalk
  have hinv := walk_run DxeCh.nextOf dxeInitDescsBody
    (fun i => (Cycle.consecutive base ch.desc_num).pos (s + i))
    (fun i _ ch' => InitDescsFrom ch₀ base s i ch') ch.desc_num
    (by
      intro i prev ch₁ prev' ch₂ hi hI hbody
      obtain ⟨c, hc, hch₂⟩ := dxeInitDescsBody_ctl hbody
      obtain ⟨c₀, hc₀, hnext⟩ := h.ctl (s + i)
      have hctl₂ : ch₂.ctl = Function.update ch₁.ctl
          ((Cycle.consecutive base ch.desc_num).pos (s + i))
          (some (initDescsCtl ch₁.dma_addr i c)) := by rw [hch₂]
      have hcnext : c.next = some ((Cycle.consecutive base ch.desc_num).pos (s + (i + 1))) := by
        have hlink := hI.next ((Cycle.consecutive base ch.desc_num).pos (s + i))
        rw [hc, hctl₀, hc₀, Option.map_some, Option.map_some, Option.some.injEq] at hlink
        rw [hlink, hnext, Nat.add_assoc]
      refine ⟨?_, ⟨fun p => ?_, fun j hj d hd => ?_, ?_⟩⟩
      · rw [DxeCh.nextOf, hctl₂, Function.update_self, Option.map_some]
        exact congrArg some hcnext
      · rw [← hI.next p, hctl₂]
        rcases eq_or_ne p ((Cycle.consecutive base ch.desc_num).pos (s + i)) with rfl | hne
        · rw [Function.update_self, hc]
          rfl
        · rw [Function.update_of_ne hne]
      · rw [hctl₂] at hd
        rw [hn] at hd
        rcases eq_or_ne ((Cycle.consecutive base ch.desc_num).pos (s + j))
          ((Cycle.consecutive base ch.desc_num).pos (s + i)) with heq | hne
        · rw [heq, Function.update_self, Option.some.injEq] at hd
          rw [← hd]
          rfl
        · rw [Function.update_of_ne hne] at hd
          rcases Nat.lt_succ_iff_lt_or_eq.mp hj with hlt | rfl
          · refine hI.desc j hlt d ?_
            rw [hn]
            exact hd
          · exact absurd rfl hne
      · rw [hch₂, hI.rest])
    ch.desc_num 0 none ch₀ prev t (Nat.zero_add _)
    ⟨fun _ => rfl, fun j hj => absurd hj (Nat.not_lt_zero j), rfl⟩ hwalk
  have htn : t.desc_num = ch.desc_num := by rw [hinv.rest, hn]
  have hnone : ∀ p, ch.ctl p = none → t.ctl p = none := by
    intro p hp
    have hlink := hinv.next p
    rw [hctl₀, hp] at hlink
    exact Option.map_eq_none_iff.mp hlink
  have hctl : ∀ p c, ch.ctl p = some c → ∃ c', t.ctl p = some c' ∧ c'.next = c.next := by
    intro p c hc
    have hlink := hinv.next p
    rw [hctl₀, hc, Option.map_some] at hlink
    exact Option.map_eq_some_iff.mp hlink
  refine ⟨⟨htn ▸ h.two_le, fun k => ?_, ?_, ?_⟩, fun k c hc => ?_, ?_, ?_, hnone⟩
  · obtain ⟨c, hc, hnext⟩ := h.ctl k
    obtain ⟨c', hc', hnext'⟩ := hctl _ c hc
    rw [htn]
    exact ⟨c', hc', hnext'.trans hnext⟩
  · rw [hinv.rest, hch₀]
    exact h.head
  · rw [hinv.rest, hch₀]
    exact h.tail
  · -- Every position of the ring is on the lap from `s`.
    have hn' := h.two_le
    rw [htn] at hc
    obtain ⟨j, hsj, hj, hpos⟩ :=
      (Cycle.consecutive base ch.desc_num).exists_window (by omega) s k
    refine hinv.desc (j - s) (by omega) c ?_
    rw [hn, show s + (j - s) = j by omega, hpos]
    exact hc
  · rw [hinv.rest, hch₀]
  · rw [hinv.rest, hch₀]

/-- Without memory `wcn36xx_dxe_init_descs` clears `cpu_addr`. -/
theorem dxeInitDescs_none {ch ch' : DxeCh} {ret : ℤ} (h : dxeInitDescs none ch = some (ch', ret)) :
    ch' = { ch with cpu_addr := none } ∧ ret = -ENOMEM := by
  simp only [dxeInitDescs, Option.some.injEq, Prod.mk.injEq] at h
  exact ⟨h.1.symm, h.2.symm⟩

/-! ## Loops that do not fault -/

/-- A ring whose head is its first block is the ring that `wcn36xx_dxe_allocate_ctl_block` builds. -/
theorem RingAt.consecutive {ch : DxeCh} {base : ℕ} (h : RingAt ch base)
    (hhead : ch.head_blk_ctl = some base) : ConsecutiveRing ch base where
  head := hhead
  ctl j hj := by
    obtain ⟨c, hc, hnext⟩ := h.ctl j
    rw [Cycle.consecutive_pos hj] at hc
    exact ⟨c, hc, hnext⟩

/-- `wcn36xx_dxe_init_descs` does not fault on a new ring. Its head stays where it is, and the same
blocks are allocated. -/
theorem RingAt.exists_initDescs {ch : DxeCh} {base : ℕ} (h : RingAt ch base)
    (hhead : ch.head_blk_ctl = some base) (cpu : ℕ × BitVec 32) :
    ∃ ch', dxeInitDescs (some cpu) ch = some (ch', 0) ∧ ch'.head_blk_ctl = some base ∧
      ch'.desc_num = ch.desc_num ∧ ∀ p, (ch'.ctl p).isSome = (ch.ctl p).isSome := by
  refine ⟨_, dxeInitDescs_spec ch base h.two_le (h.consecutive hhead) cpu.1 cpu.2, hhead, rfl,
    fun p => ?_⟩
  simp only [initializedCh, mapBlocks]
  split_ifs
  · rw [Option.isSome_map]
  · rfl

/-- `wcn36xx_dxe_init_tx_bd` does not fault on a new ring. -/
theorem RingAt.exists_initTxBd {ch : DxeCh} {base : ℕ} (h : RingAt ch base)
    (hhead : ch.head_blk_ctl = some base) (pool : DxeMemPool) :
    ∃ ch', dxeInitTxBd pool ch = some ch' :=
  ⟨_, dxeInitTxBd_spec ch base h.two_le (h.consecutive hhead) pool⟩

/-- `wcn36xx_dxe_fill_skb` does not fault on a block that has a descriptor. -/
theorem exists_dxeFillSkb {s : RxState} {ctl : ℕ} {c : DxeCtl} (hc : s.ch.ctl ctl = some c)
    (hdesc : c.desc.isSome = true) (hallocs : s.allocs ≠ []) :
    ∃ s' ret, dxeFillSkb s ctl = some (s', ret) ∧ s.allocs.length = s'.allocs.length + 1 := by
  obtain ⟨i, hi⟩ := Option.isSome_iff_exists.mp hdesc
  obtain ⟨a, allocs, heq⟩ := List.exists_cons_of_ne_nil hallocs
  unfold dxeFillSkb
  cases a with
  | none =>
    simp only [hc, heq, Option.bind_eq_bind, Option.bind_some, Option.pure_def]
    exact ⟨_, _, rfl, rfl⟩
  | some dma =>
    simp only [hc, heq, hi, Option.bind_eq_bind, Option.bind_some, Option.pure_def, DxeCh.modCtl,
      DxeCh.modDesc, Option.map_some]
    exact ⟨_, _, rfl, rfl⟩

/-- `wcn36xx_dxe_ch_alloc_skb` does not fault on a ring whose blocks have descriptors. -/
theorem RingAt.exists_chAllocSkb {s₀ : RxState} {base : ℕ} (h : RingAt s₀.ch base)
    (hdesc : DescribedAt s₀.ch base) (skb : ℕ → Option (BitVec 32)) :
    ∃ s', dxeChAllocSkb { s₀ with allocs := (List.range s₀.ch.desc_num).map skb } = some s' := by
  obtain ⟨s, hs⟩ : ∃ s : RxState, s = { s₀ with
    allocs := (List.range s₀.ch.desc_num).map skb } := ⟨_, rfl⟩
  have hch : s₀.ch = s.ch := by rw [hs]
  have hallocs : s.allocs.length = s.ch.desc_num := by
    rw [hs, List.length_map, List.length_range]
  rw [← hs]
  rw [hch] at h hdesc
  obtain ⟨k, hk⟩ := h.head
  have hwalk := walk_spec (fun s : RxState => s.ch.nextOf)
    (fun _ cur _ s => (dxeFillSkb s cur).map fun r => ((), r.1))
    (fun i => (Cycle.consecutive base s.ch.desc_num).pos (k + i))
    (fun i _ s' => s.ch.Moves s'.ch ∧ s'.allocs.length + i = s.ch.desc_num) s.ch.desc_num
    (by
      rintro i b s₁ hi ⟨hmoves, hleft⟩
      obtain ⟨c, hc, hnext⟩ := h.ctl (k + i)
      obtain ⟨c₁, hc₁, -, hdesc₁⟩ := hmoves.ctl hc
      have hsome : c₁.desc.isSome = true := by
        rw [hdesc₁]
        exact hdesc _ _ hc
      have hne : s₁.allocs ≠ [] := by
        intro hnil
        rw [hnil, List.length_nil] at hleft
        omega
      obtain ⟨s₂, ret, hfill, hlen⟩ := exists_dxeFillSkb hc₁ hsome hne
      have hmoves₂ := hmoves.trans (dxeFillSkb_moves hfill).1
      refine ⟨(), s₂, by rw [hfill]; rfl, ?_, hmoves₂, by omega⟩
      rw [hmoves₂.nextOf, DxeCh.nextOf, hc, Option.map_some, hnext, Nat.add_assoc])
    s.ch.desc_num 0 () s (Nat.zero_add _) ⟨.refl _, hallocs⟩
  obtain ⟨b, s', hrun, -⟩ := hwalk
  refine ⟨s', ?_⟩
  rw [Nat.add_zero, ← hk] at hrun
  rw [dxeChAllocSkb, hrun]
  rfl

/-! ## Freeing -/

/-- There is nothing to free from a null pointer. -/
theorem dxeFreeCtlBlock_none {ch : DxeCh} (h : ch.head_blk_ctl = none) :
    dxeFreeCtlBlock ch = some ch := by
  unfold dxeFreeCtlBlock
  rw [h]
  cases ch.desc_num <;> rfl

/-- Nothing can be freed from a block that is not allocated. -/
theorem dxeFreeCtlBlock_dangling {ch : DxeCh} {p : ℕ} (hhead : ch.head_blk_ctl = some p)
    (hpos : 0 < ch.desc_num) (hp : ch.ctl p = none) : dxeFreeCtlBlock ch = none := by
  obtain ⟨n, hn⟩ : ∃ n, ch.desc_num = n + 1 := ⟨ch.desc_num - 1, by omega⟩
  rw [dxeFreeCtlBlock, hn, hhead, dxeFreeCtlBlockLoop, hp]
  rfl

/-- After `wcn36xx_dxe_free_ctl_block` the head dangles. -/
theorem dxeFreeCtlBlock_head {ch ch' : DxeCh} {p : ℕ} (hhead : ch.head_blk_ctl = some p)
    (hpos : 0 < ch.desc_num) (h : dxeFreeCtlBlock ch = some ch') : ch'.ctl p = none := by
  obtain ⟨n, hn⟩ : ∃ n, ch.desc_num = n + 1 := ⟨ch.desc_num - 1, by omega⟩
  rw [dxeFreeCtlBlock, hn, hhead] at h
  simp only [dxeFreeCtlBlockLoop, Option.bind_eq_bind, Option.bind_eq_some_iff] at h
  obtain ⟨c, -, ch₁, hfree, hrest⟩ := h
  obtain ⟨_, -, rfl⟩ := Option.map_eq_some_iff.mp hfree
  exact (dxeFreeCtlBlockLoop_frame _ hrest).2 p (Function.update_self ..)

/-- Freeing the same ring twice is a fault. -/
theorem dxeFreeCtlBlock_twice {ch ch' : DxeCh} (hhead : ch.head_blk_ctl ≠ none)
    (hpos : 0 < ch.desc_num) (h : dxeFreeCtlBlock ch = some ch') : dxeFreeCtlBlock ch' = none := by
  obtain ⟨p, hp⟩ := Option.ne_none_iff_exists'.mp hhead
  have hframe := (dxeFreeCtlBlock_frame h).1
  have hhead' : ch'.head_blk_ctl = some p := by rw [hframe, ← hp]
  have hpos' : 0 < ch'.desc_num := by rw [hframe]; exact hpos
  exact dxeFreeCtlBlock_dangling hhead' hpos' (dxeFreeCtlBlock_head hp hpos h)

/-- The pointer to block `k` of `m` blocks `pos 0`, `pos 1`, and so on; after the last block it is
`stop`. -/
def chainLink (pos : ℕ → ℕ) (m : ℕ) (stop : Option ℕ) (k : ℕ) : Option ℕ :=
  if k < m then some (pos k) else stop

/-- The blocks from `pos i` up to `pos (m - 1)` are allocated and linked in this order, and the last
one is followed by `stop`. -/
def ChainFrom (ch : DxeCh) (pos : ℕ → ℕ) (m : ℕ) (stop : Option ℕ) (i : ℕ) : Prop :=
  ∀ k, i ≤ k → k < m → ∃ c, ch.ctl (pos k) = some c ∧ c.next = chainLink pos m stop (k + 1)

/-- The loop of `wcn36xx_dxe_free_ctl_block` frees the blocks of a chain and no others, when the chain
is as long as the loop runs or ends in a null pointer. -/
theorem dxeFreeCtlBlockLoop_chain {pos : ℕ → ℕ} {m : ℕ} {stop : Option ℕ}
    (hne : ∀ i j, i < j → j < m → pos i ≠ pos j) :
    ∀ left i (ch : DxeCh), i ≤ m → m ≤ i + left → (m < i + left → stop = none) →
      ChainFrom ch pos m stop i →
      ∃ ch', dxeFreeCtlBlockLoop left (chainLink pos m stop i) ch = some ch' ∧
        (∀ k, i ≤ k → k < m → ch'.ctl (pos k) = none) ∧
        ∀ p, (∀ k, i ≤ k → k < m → p ≠ pos k) → ch'.ctl p = ch.ctl p := by
  intro left
  induction left with
  | zero =>
    intro i ch _ hm _ _
    exact ⟨ch, rfl, fun k hi hlt => by omega, fun _ _ => rfl⟩
  | succ left ih =>
    intro i ch him hm hstop hchain
    rcases Nat.lt_or_eq_of_le him with hlt | rfl
    · obtain ⟨c, hc, hnext⟩ := hchain i (Nat.le_refl i) hlt
      have hother : ∀ k, i + 1 ≤ k → k < m → pos k ≠ pos i := fun k hi hk =>
        (hne i k hi hk).symm
      -- Freeing this block leaves the rest of the chain.
      obtain ⟨ch', hrun, hfreed, hkept⟩ := ih (i + 1)
        { ch with ctl := Function.update ch.ctl (pos i) none } hlt (by omega)
        (fun h => hstop (by omega)) fun k hi hk => by
          simp only [Function.update_of_ne (hother k hi hk)]
          exact hchain k (by omega) hk
      refine ⟨ch', ?_, fun k hi hk => ?_, fun p hp => ?_⟩
      · rw [chainLink, if_pos hlt]
        simp only [dxeFreeCtlBlockLoop, hc, DxeCh.kfree, Option.map_some, Option.bind_eq_bind,
          Option.bind_some, hnext]
        exact hrun
      · rcases Nat.lt_or_eq_of_le hi with hlt' | rfl
        · exact hfreed k hlt' hk
        · exact (dxeFreeCtlBlockLoop_frame _ hrun).2 _ (Function.update_self ..)
      · rw [hkept p fun k hi hk => hp k (by omega) hk]
        exact Function.update_of_ne (hp i (Nat.le_refl i) hlt) ..
    · -- The chain is at its end, and the loop stops at the null pointer.
      rw [chainLink, if_neg (Nat.lt_irrefl i), hstop (by omega)]
      exact ⟨ch, rfl, fun k hi hk => by omega, fun _ _ => rfl⟩

/-- `wcn36xx_dxe_free_ctl_block` takes one lap of a closed ring from wherever the head is: it frees
every block of the ring, and no others. -/
theorem dxeFreeCtlBlock_cycle {ch : DxeCh} (cyc : Cycle ℕ ch.desc_num) (s : ℕ)
    (hhead : ch.head_blk_ctl = some (cyc.pos s)) (hpos : 0 < ch.desc_num)
    (hctl : ∀ k, ∃ c, ch.ctl (cyc.pos k) = some c ∧ c.next = some (cyc.pos (k + 1))) :
    ∃ ch', dxeFreeCtlBlock ch = some ch' ∧ ch' = { ch with ctl := ch'.ctl } ∧
      (∀ k, ch'.ctl (cyc.pos k) = none) ∧
      ∀ p, (∀ k, p ≠ cyc.pos k) → ch'.ctl p = ch.ctl p := by
  have hchain : ChainFrom ch (fun k => cyc.pos (s + k)) ch.desc_num
      (some (cyc.pos (s + ch.desc_num))) 0 := by
    intro k _ hk
    obtain ⟨c, hc, hnext⟩ := hctl (s + k)
    refine ⟨c, hc, ?_⟩
    rw [hnext, chainLink]
    rcases Nat.lt_or_eq_of_le (Nat.succ_le_of_lt hk) with hlt | heq
    · rw [if_pos hlt, Nat.add_assoc]
    · rw [if_neg (by omega), show s + k + 1 = s + ch.desc_num by omega]
  obtain ⟨ch', hrun, hfreed, hkept⟩ := dxeFreeCtlBlockLoop_chain
    (fun i j hij hj => cyc.pos_ne (Nat.add_lt_add_left hij s) (by omega)) ch.desc_num 0 ch
    (Nat.zero_le _) (by omega) (by omega) hchain
  rw [chainLink, if_pos hpos, Nat.add_zero, ← hhead] at hrun
  refine ⟨ch', hrun, (dxeFreeCtlBlock_frame hrun).1, fun k => ?_, fun p hp =>
    hkept p fun k _ _ => hp _⟩
  -- Every block of the ring is on the lap.
  obtain ⟨j, hsj, hj, heq⟩ := cyc.exists_window hpos s k
  have hfree := hfreed (j - s) (Nat.zero_le _) (by omega)
  rwa [show s + (j - s) = j by omega, heq] at hfree

/-- `wcn36xx_dxe_free_ctl_block` frees the blocks of a ring and no others. -/
theorem RingAt.free {ch : DxeCh} {base : ℕ} (h : RingAt ch base) :
    ∃ ch', dxeFreeCtlBlock ch = some ch' ∧
    ch' = { ch with ctl := ch'.ctl } ∧
    (∀ p, base ≤ p → p < base + ch.desc_num → ch'.ctl p = none) ∧
    ∀ p, ¬(base ≤ p ∧ p < base + ch.desc_num) → ch'.ctl p = ch.ctl p := by
  obtain ⟨s, hs⟩ := h.head
  obtain ⟨ch', hrun, hframe, hfreed, hkept⟩ :=
    dxeFreeCtlBlock_cycle (Cycle.consecutive base ch.desc_num) s hs h.pos h.ctl
  refine ⟨ch', hrun, hframe, fun p hp hlt => ?_, fun p hp => hkept p fun k heq => hp ?_⟩
  · have hfree := hfreed (p - base)
    rwa [Cycle.consecutive_pos (show p - base < ch.desc_num by omega),
      show base + (p - base) = p by omega] at hfree
  · have hlt : k % ch.desc_num < ch.desc_num := Nat.mod_lt k h.pos
    rw [heq, Cycle.consecutive]
    exact ⟨Nat.le_add_right _ _, Nat.add_lt_add_left hlt _⟩

end Wcn36xx
