import Wcn36xx.Dxe.Channel
import Wcn36xx.Support.Cycle

/-!
# Positions on a channel's ring

Positions number the control blocks of a ring over and over, so they never wrap: position `k` and
position `k + desc_num` are the same block. `RingReady` is what the set-up of a channel establishes
and no operation changes, and the lemmas read and write a ring through positions.
-/

namespace Wcn36xx

open Support (Cycle)

namespace DxeCh

variable (ch : DxeCh)

/-- The control block at a position of the ring. -/
def blk (k : ℕ) : ℕ := (Cycle.consecutive 1 ch.desc_num).pos k

/-- The descriptor at a position is VALID. -/
def slotValid (k : ℕ) : Bool := (ch.dxe (k % ch.desc_num)).valid

/-- The frame at a position. -/
def slotSkb (k : ℕ) : Option SkBuff := ch.skbAt (ch.blk k)

/-- Store a frame, or NULL, at a position. -/
def setSkb (k : ℕ) (v : Option SkBuff) : DxeCh :=
  { ch with
    ctl := fun p =>
      if p = ch.blk k then (ch.ctl p).map fun c => { c with skb := v } else ch.ctl p }

/-- Two positions are the same block exactly when they agree modulo the size of the ring. -/
theorem blk_eq_iff (i j : ℕ) : ch.blk i = ch.blk j ↔ i % ch.desc_num = j % ch.desc_num :=
  (Cycle.consecutive 1 ch.desc_num).pos_eq_iff i j

/-- Every block of the ring is at a position below its size. -/
theorem blk_mod (k : ℕ) : ch.blk k = ch.blk (k % ch.desc_num) :=
  (ch.blk_eq_iff _ _).mpr (Nat.mod_mod k ch.desc_num).symm

/-- Less than a lap apart, different positions are different blocks. -/
theorem blk_ne {i j : ℕ} (hij : i < j) (hj : j < i + ch.desc_num) : ch.blk i ≠ ch.blk j :=
  (Cycle.consecutive 1 ch.desc_num).pos_ne hij hj

/-- One lap leads back to the same block. -/
@[simp]
theorem blk_add (k : ℕ) : ch.blk (k + ch.desc_num) = ch.blk k :=
  (Cycle.consecutive 1 ch.desc_num).pos_add k

/-- One lap leads back to the same descriptor. -/
@[simp]
theorem slotValid_add (k : ℕ) : ch.slotValid (k + ch.desc_num) = ch.slotValid k := by
  rw [slotValid, Nat.add_mod_right, slotValid]

/-- One lap leads back to the same frame. -/
@[simp]
theorem slotSkb_add (k : ℕ) : ch.slotSkb (k + ch.desc_num) = ch.slotSkb k := by
  rw [slotSkb, blk_add, slotSkb]

end DxeCh

/-- The blocks of a channel form a ring, and each has its descriptor. -/
structure RingReady (ch : DxeCh) : Prop where
  two_le : 2 ≤ ch.desc_num
  ctl : ∀ k, ∃ c, ch.ctl (ch.blk k) = some c ∧ c.next = some (ch.blk (k + 1)) ∧
    c.desc = some (k % ch.desc_num)

namespace RingReady

variable {ch : DxeCh} (h : RingReady ch)
include h

/-- The block after a position. -/
theorem nextOf (k : ℕ) : ch.nextOf (ch.blk k) = some (some (ch.blk (k + 1))) := by
  obtain ⟨c, hc, hnext, -⟩ := h.ctl k
  rw [DxeCh.nextOf, hc, Option.map_some, hnext]

/-- The VALID bit of the descriptor of a block. -/
theorem validAt (k : ℕ) : ch.validAt (ch.blk k) = some (ch.slotValid k) := by
  obtain ⟨c, hc, -, hdesc⟩ := h.ctl k
  simp only [DxeCh.validAt, hc, hdesc, Option.bind_eq_bind, Option.bind_some, Option.pure_def,
    DxeCh.slotValid]

/-- Storing a frame through the pointer to a block. -/
theorem modCtl_skb (k : ℕ) (v : Option SkBuff) :
    ch.modCtl (ch.blk k) (fun c => { c with skb := v }) = some (ch.setSkb k v) := by
  obtain ⟨c, hc, -⟩ := h.ctl k
  simp only [DxeCh.modCtl, hc, Option.map_some, DxeCh.setSkb, Option.some.injEq]
  congr 1
  funext p
  rcases eq_or_ne p (ch.blk k) with rfl | hp
  · rw [Function.update_self, if_pos rfl, hc, Option.map_some]
  · rw [Function.update_of_ne hp, if_neg hp]

/-- Reading a frame after a store. -/
theorem slotSkb_setSkb (k j : ℕ) (v : Option SkBuff) :
    (ch.setSkb k v).slotSkb j =
      if j % ch.desc_num = k % ch.desc_num then v else ch.slotSkb j := by
  obtain ⟨c, hc, -⟩ := h.ctl j
  have hblk : (ch.setSkb k v).blk j = ch.blk j := rfl
  rw [DxeCh.slotSkb, hblk, DxeCh.skbAt, DxeCh.setSkb]
  by_cases hjk : j % ch.desc_num = k % ch.desc_num
  · have heq := (ch.blk_eq_iff j k).mpr hjk
    simp only [if_pos heq, hc, Option.map_some, Option.bind_some, if_pos hjk]
  · have hne : ¬ch.blk j = ch.blk k := fun he => hjk ((ch.blk_eq_iff j k).mp he)
    simp only [if_neg hne, if_neg hjk, DxeCh.slotSkb, DxeCh.skbAt]

/-- Storing a frame keeps the ring. -/
theorem setSkb (k : ℕ) (v : Option SkBuff) : RingReady (ch.setSkb k v) where
  two_le := h.two_le
  ctl j := by
    obtain ⟨c, hc, hnext, hdesc⟩ := h.ctl j
    have hblk : (ch.setSkb k v).blk = ch.blk := rfl
    rw [hblk]
    by_cases hjk : ch.blk j = ch.blk k
    · refine ⟨{ c with skb := v }, ?_, hnext, hdesc⟩
      simp only [DxeCh.setSkb, if_pos hjk, hc, Option.map_some]
    · refine ⟨c, ?_, hnext, hdesc⟩
      simp only [DxeCh.setSkb, if_neg hjk, hc]

/-- Only the blocks and the size of a channel matter to `RingReady`. -/
theorem congr {ch' : DxeCh} (hn : ch'.desc_num = ch.desc_num) (hctl : ch'.ctl = ch.ctl) :
    RingReady ch' where
  two_le := hn ▸ h.two_le
  ctl k := by
    obtain ⟨c, hc, hnext, hdesc⟩ := h.ctl k
    refine ⟨c, ?_, ?_, ?_⟩
    · rw [hctl, DxeCh.blk, hn]
      exact hc
    · rw [hnext, DxeCh.blk, DxeCh.blk, hn]
    · rw [hdesc, hn]

/-- Writing a descriptor keeps the ring. -/
theorem modDesc (i : ℕ) (f : DxeDesc → DxeDesc) : RingReady (ch.modDesc i f) := h.congr rfl rfl

end RingReady

end Wcn36xx
