import Wcn36xx.Dxe.RxOwnership
import Wcn36xx.Support.InitialRun

/-!
# Draining a receive ring

The loop of `wcn36xx_rx_handle_packets` has no counter: it goes on while the descriptor that it has come to
is not VALID. Every iteration arms its descriptor again, so that a lap later the loop stops at the latest.
`rxDrain_exact` says what a call does when the device does nothing meanwhile: it takes the maximal run of
completed descriptors from the head on, and nothing else.
-/

namespace Wcn36xx

open Support (initialRun initialRun_le holds_of_lt_initialRun not_initialRun)

/-- The number of completed descriptors from a position on, before the first one that is VALID. -/
def rxCompletedRun (ch : DxeCh) (h : ℕ) : ℕ := initialRun ch.desc_num fun i => !ch.slotValid (h + i)

/-- What `wcn36xx_rx_handle_packets` writes to a completed descriptor's `ctrl`. -/
def rxCtrl : DxeChType → BitVec 32
  | .rxL => WCN36XX_DXE_CTRL_RX_L
  | _ => WCN36XX_DXE_CTRL_RX_H

/-- It arms the descriptor. -/
theorem valid_of_rxCtrl {ty : DxeChType} {d : DxeDesc} (h : d.ctrl = rxCtrl ty) : d.valid = true := by
  rw [DxeDesc.valid, h]
  cases ty <;> decide

/-- The body of the loop of `wcn36xx_rx_handle_packets` up to the call of `wcn36xx_rx_skb`, with the pointer
that it passes. -/
def rxPreparePacket (s : RxState) (ctl : ℕ) : Option (RxState × Option SkBuff) := do
  let c ← s.ch.ctl ctl
  let dxe ← c.desc
  let dma_addr := (s.ch.dxe dxe).dst_addr_l
  let (s, _) ← dxeFillSkb s ctl
  return ((rxRearm s dxe).emit [.dmaUnmap dma_addr], c.skb)

/-- The body is this and the call. -/
theorem rxHandlePacket_eq (s : RxState) (ctl : ℕ) :
    rxHandlePacket s ctl = (rxPreparePacket s ctl).bind fun r => rxSkb r.1 r.2 := by
  unfold rxHandlePacket rxPreparePacket
  simp only [Option.bind_eq_bind, Option.pure_def, Option.bind_assoc, Option.bind_some]

/-- The `m` blocks from position `h` on have been handled between two states: their buffers have been passed
to `wcn36xx_rx_skb` in this order, and exactly their descriptors are armed. -/
structure RxDrained (s t : RxState) (h m : ℕ) : Prop where
  ready : RingReady t.ch
  desc_num : t.ch.desc_num = s.ch.desc_num
  ch_type : t.ch.ch_type = s.ch.ch_type
  passed : t.delivered.map some =
    s.delivered.map some ++ (List.range m).map fun i => s.ch.slotSkb (h + i)
  armed : ∀ i < m, (t.ch.dxe ((h + i) % s.ch.desc_num)).ctrl = rxCtrl s.ch.ch_type
  kept : ∀ k, (∀ i < m, (h + i) % s.ch.desc_num ≠ k) → t.ch.dxe k = s.ch.dxe k
  later : ∀ i, m ≤ i → i < s.ch.desc_num → t.ch.slotSkb (h + i) = s.ch.slotSkb (h + i)
  allocs : t.allocs = s.allocs.drop m

/-- What a call of `wcn36xx_rx_handle_packets` does when `m` descriptors from the head's position `h` on are
completed. -/
structure RxDrain (s : RxState) (h m : ℕ) : Prop where
  le : m ≤ s.ch.desc_num
  completed : ∀ i < m, s.ch.slotValid (h + i) = false
  maximal : m < s.ch.desc_num → s.ch.slotValid (h + m) = true
  lap : m = s.ch.desc_num → s.ch.blk (h + m) = s.ch.blk h
  /-- The loop ends after `m` iterations, and the head is at the block after the run. -/
  drained : (∀ i < m, (s.ch.slotSkb (h + i)).isSome = true) →
    ∃ t, (∀ fuel, m < fuel →
        rxHandlePacketsLoop fuel (s.ch.blk h) s = some (s.ch.blk (h + m), t)) ∧
      rxHandlePackets s =
        some { t with ch := { t.ch with head_blk_ctl := some (s.ch.blk (h + m)) } } ∧
      RxDrained s t h m
  /-- A block that never got a buffer is no exception: its null pointer is passed in its turn, and
  `wcn36xx_rx_skb` faults. -/
  null : ∀ j < m, (∀ i < j, (s.ch.slotSkb (h + i)).isSome = true) → s.ch.slotSkb (h + j) = none →
    ∃ t u, (∀ fuel, rxHandlePacketsLoop (j + fuel) (s.ch.blk h) s =
        rxHandlePacketsLoop fuel (s.ch.blk (h + j)) t) ∧ RxDrained s t h j ∧
      rxPreparePacket t (s.ch.blk (h + j)) = some (u, none) ∧ rxSkb u none = none

/-! ## One iteration -/

/-- What `wcn36xx_dxe_fill_skb` can change, whatever `alloc_skb` comes to. -/
theorem dxeFillSkb_spec {s : RxState} (hready : RingReady s.ch) (k : ℕ) {a : Option (BitVec 32)}
    {rest : List (Option (BitVec 32))} (ha : s.allocs = a :: rest) :
    ∃ t ret, dxeFillSkb s (s.ch.blk k) = some (t, ret) ∧ RingReady t.ch ∧
      t.ch.desc_num = s.ch.desc_num ∧ t.ch.ch_type = s.ch.ch_type ∧
      (∀ i, i ≠ k % s.ch.desc_num → t.ch.dxe i = s.ch.dxe i) ∧
      (∀ j, j % s.ch.desc_num ≠ k % s.ch.desc_num → t.ch.slotSkb j = s.ch.slotSkb j) ∧
      t.delivered = s.delivered ∧ t.allocs = rest := by
  cases a with
  | none =>
    obtain ⟨c, hc, -⟩ := hready.ctl k
    refine ⟨{ s with allocs := rest }, -ENOMEM, ?_, hready, rfl, rfl, fun _ _ => rfl,
      fun _ _ => rfl, rfl, rfl⟩
    simp only [dxeFillSkb, hc, ha, Option.bind_eq_bind, Option.bind_some, Option.pure_def]
  | some dma =>
    refine ⟨filledRx s k dma rest, 0, dxeFillSkb_some hready k dma rest ha,
      ready_filledCh hready k _, rfl, rfl, fun i hi => Function.update_of_ne hi _ _,
      fun j hj => ?_, ?_, rfl⟩
    · exact (slotSkb_filledCh hready k _ j).trans (if_neg hj)
    · simp only [RxState.delivered, filledRx, List.filterMap_append, List.filterMap_cons,
        RxEffect.delivers, List.filterMap_nil, List.append_nil]

/-- The descriptors when one has gone back to the device. -/
theorem rxRearm_dxe {s : RxState} (hty : s.ch.ch_type = .rxL ∨ s.ch.ch_type = .rxH) (i : ℕ) :
    (rxRearm s i).ch.dxe =
      Function.update s.ch.dxe i { s.ch.dxe i with ctrl := rxCtrl s.ch.ch_type } ∧
    (rxRearm s i).ch.ch_type = s.ch.ch_type := by
  rcases hty with hty | hty
  all_goals
    unfold rxRearm
    rw [hty]
    exact ⟨rfl, hty⟩

/-- Less than a lap apart, positions have different descriptors. -/
theorem pos_mod_ne (ch : DxeCh) {h i j : ℕ} (hij : i < j) (hj : j < ch.desc_num) :
    (h + i) % ch.desc_num ≠ (h + j) % ch.desc_num := fun heq =>
  ch.blk_ne (show h + i < h + j by omega) (by omega) ((ch.blk_eq_iff _ _).mpr heq)

section Handled

variable {s t : RxState} {h m : ℕ} (hd : RxDrained s t h m)
include hd

/-- A descriptor that has not been come to is VALID as before. -/
theorem RxDrained.slotValid {i : ℕ} (hmi : m ≤ i)
    (hi : i < s.ch.desc_num) : t.ch.slotValid (h + i) = s.ch.slotValid (h + i) := by
  unfold DxeCh.slotValid
  rw [hd.desc_num, hd.kept _ fun j hj => pos_mod_ne s.ch (Nat.lt_of_lt_of_le hj hmi) hi]

/-- The blocks in the state after some have been handled. -/
theorem RxDrained.blk (k : ℕ) :
    t.ch.blk k = s.ch.blk k := by
  unfold DxeCh.blk
  rw [hd.desc_num]

/-- At the end of the run the loop stops: at a descriptor that was not completed, or a lap later at one
that the loop itself has armed. -/
theorem RxDrained.stop (hm : m ≤ s.ch.desc_num)
    (hmaximal : m < s.ch.desc_num → s.ch.slotValid (h + m) = true) :
    t.ch.validAt (s.ch.blk (h + m)) = some true := by
  rw [← hd.blk, hd.ready.validAt]
  rcases Nat.lt_or_ge m s.ch.desc_num with hlt | hge
  · rw [hd.slotValid (Nat.le_refl m) hlt, hmaximal hlt]
  · obtain rfl : m = s.ch.desc_num := by omega
    have hpos : 0 < s.ch.desc_num := by
      have := hd.ready.two_le
      have := hd.desc_num
      omega
    have harmed := hd.armed 0 hpos
    rw [← hd.desc_num, t.ch.slotValid_add, DxeCh.slotValid, hd.desc_num]
    exact congrArg some (valid_of_rxCtrl harmed)

end Handled

section Drain

variable {s : RxState} {h : ℕ} (hty : s.ch.ch_type = .rxL ∨ s.ch.ch_type = .rxH)
include hty

/-- One more iteration comes to `wcn36xx_rx_skb` with the buffer of the next block, and when that has been
passed the block is handled. -/
theorem RxDrained.prepare {t : RxState} {j : ℕ} (hd : RxDrained s t h j) (hj : j < s.ch.desc_num)
    (halloc : j < s.allocs.length) :
    ∃ u, rxPreparePacket t (s.ch.blk (h + j)) = some (u, s.ch.slotSkb (h + j)) ∧
      ∀ skb, s.ch.slotSkb (h + j) = some skb → RxDrained s (u.emit [.rxSkb skb]) h (j + 1) := by
  have hblk : t.ch.blk (h + j) = s.ch.blk (h + j) := by
    unfold DxeCh.blk
    rw [hd.desc_num]
  obtain ⟨c, hc, -, hdesc⟩ := hd.ready.ctl (h + j)
  have hskb : c.skb = s.ch.slotSkb (h + j) := by
    rw [← hd.later j (Nat.le_refl j) hj, DxeCh.slotSkb, DxeCh.skbAt, hc, Option.bind_some]
  have hallocs : t.allocs = s.allocs[j] :: s.allocs.drop (j + 1) := by
    rw [hd.allocs, List.drop_eq_getElem_cons halloc]
  obtain ⟨u, ret, hfill, hready, hn, hchty, hdxe, hslot, hdel, hrest⟩ :=
    dxeFillSkb_spec hd.ready (h + j) hallocs
  rw [hd.desc_num] at hdesc hdxe hslot hn
  obtain ⟨hctl', hn', -, -, -, hallocs', hdel'⟩ := rxRearm_spec u ((h + j) % s.ch.desc_num)
  have huty : u.ch.ch_type = s.ch.ch_type := hchty.trans hd.ch_type
  obtain ⟨hdxe', hty'⟩ := rxRearm_dxe (huty ▸ hty) ((h + j) % s.ch.desc_num)
  refine ⟨(rxRearm u ((h + j) % s.ch.desc_num)).emit
    [.dmaUnmap (t.ch.dxe ((h + j) % s.ch.desc_num)).dst_addr_l], ?_, fun skb hsome => ?_⟩
  · unfold rxPreparePacket
    simp only [← hblk, hc, hdesc, hfill, hskb, Option.bind_eq_bind, Option.bind_some,
      Option.pure_def]
  · constructor
    case ready => exact hready.congr hn' hctl'
    case desc_num => exact hn'.trans hn
    case ch_type => exact hty'.trans huty
    case passed =>
      rw [RxState.delivered, RxState.emit, RxState.emit, List.filterMap_append,
        List.filterMap_append, ← RxState.delivered, hdel', hdel]
      simp only [List.filterMap_cons, RxEffect.delivers, List.filterMap_nil, List.append_nil,
        List.map_append, hd.passed, List.range_succ, List.map_cons, List.map_nil, hsome,
        List.append_assoc]
    case armed =>
      intro i hi
      refine (congrArg DxeDesc.ctrl (congrFun hdxe' _)).trans ?_
      rcases Nat.lt_or_ge i j with hlt | hge
      · have hne := pos_mod_ne s.ch (h := h) hlt hj
        rw [Function.update_of_ne hne, hdxe _ hne]
        exact hd.armed i hlt
      · obtain rfl : i = j := by omega
        rw [Function.update_self, huty]
    case kept =>
      intro k hk
      have hne : k ≠ (h + j) % s.ch.desc_num := (hk j (Nat.lt_succ_self j)).symm
      refine (congrFun hdxe' k).trans ?_
      rw [Function.update_of_ne hne, hdxe k hne]
      exact hd.kept k fun i hi => hk i (Nat.lt_succ_of_lt hi)
    case later =>
      intro i hi hin
      have hne := pos_mod_ne s.ch (h := h) (show j < i by omega) hin
      rw [← hd.later i (by omega) hin, ← hslot (h + i) hne.symm]
      unfold DxeCh.slotSkb DxeCh.skbAt DxeCh.blk RxState.emit
      dsimp only
      rw [hctl', hn']
    case allocs => exact hallocs'.trans hrest

/-! ## The loop -/

/-- The loop handles the blocks of a completed run one after the other, as long as they have buffers. -/
theorem RxDrained.run {m : ℕ} (hready : RingReady s.ch) (hm : m ≤ s.ch.desc_num)
    (hcompleted : ∀ i < m, s.ch.slotValid (h + i) = false) (hallocs : m ≤ s.allocs.length) (j : ℕ) :
    j ≤ m → (∀ i < j, (s.ch.slotSkb (h + i)).isSome = true) →
      ∃ t, RxDrained s t h j ∧ ∀ fuel, rxHandlePacketsLoop (j + fuel) (s.ch.blk h) s =
        rxHandlePacketsLoop fuel (s.ch.blk (h + j)) t := by
  induction j with
  | zero =>
    intro _ _
    refine ⟨s, ⟨hready, rfl, rfl, ?_, fun i hi => absurd hi (Nat.not_lt_zero i), fun _ _ => rfl,
      fun _ _ _ => rfl, rfl⟩, fun fuel => ?_⟩
    · rw [List.range_zero, List.map_nil, List.append_nil]
    · rw [Nat.zero_add, Nat.add_zero]
  | succ j ih =>
    intro hj hsome
    obtain ⟨t, hd, hloop⟩ := ih (by omega) fun i hi => hsome i (Nat.lt_succ_of_lt hi)
    obtain ⟨skb, hskb⟩ := Option.isSome_iff_exists.mp (hsome j (Nat.lt_succ_self j))
    obtain ⟨u, hprepare, hnext⟩ := hd.prepare hty (by omega) (by omega)
    have hd' := hnext skb hskb
    refine ⟨u.emit [.rxSkb skb], hd', fun fuel => ?_⟩
    -- The iteration at position `h + j`.
    have hvalid : t.ch.validAt (s.ch.blk (h + j)) = some false := by
      rw [← hd.blk, hd.ready.validAt, hd.slotValid (Nat.le_refl j) (by omega), hcompleted j hj]
    have hpacket : rxHandlePacket t (s.ch.blk (h + j)) = some (u.emit [.rxSkb skb]) := by
      rw [rxHandlePacket_eq, hprepare, Option.bind_some, hskb]
      rfl
    have hstep : (u.emit [.rxSkb skb]).ch.nextOf (s.ch.blk (h + j)) =
        some (some (s.ch.blk (h + (j + 1)))) := by
      rw [← hd'.blk, hd'.ready.nextOf, ← Nat.add_assoc, hd'.blk]
    calc rxHandlePacketsLoop (j + 1 + fuel) (s.ch.blk h) s
        = rxHandlePacketsLoop (fuel + 1) (s.ch.blk (h + j)) t := by
          rw [← hloop (fuel + 1)]
          congr 1
          omega
      _ = rxHandlePacketsLoop fuel (s.ch.blk (h + (j + 1))) (u.emit [.rxSkb skb]) := by
          simp only [rxHandlePacketsLoop, hvalid, hpacket, hstep, Option.bind_eq_bind,
            Option.bind_some, Bool.false_eq_true, if_false]

end Drain

/-- For every state of an RX channel and all outcomes of `alloc_skb`, when the device does nothing meanwhile:
`wcn36xx_rx_handle_packets` ends after as many iterations as descriptors from the head on are completed,
which are a lap at most. It passes their buffers to `wcn36xx_rx_skb` in the order of the ring, arms exactly
their descriptors, and leaves the head at the first descriptor that was not completed, or where it was. -/
theorem rxDrain_exact {s : RxState} {h : ℕ} (hready : RingReady s.ch)
    (hhead : s.ch.head_blk_ctl = some (s.ch.blk h))
    (hty : s.ch.ch_type = .rxL ∨ s.ch.ch_type = .rxH)
    (hallocs : rxCompletedRun s.ch h ≤ s.allocs.length) : RxDrain s h (rxCompletedRun s.ch h) := by
  have hle : rxCompletedRun s.ch h ≤ s.ch.desc_num := initialRun_le _ _
  have hcompleted : ∀ i < rxCompletedRun s.ch h, s.ch.slotValid (h + i) = false := by
    intro i hi
    have hrun := holds_of_lt_initialRun s.ch.desc_num (p := fun i => !s.ch.slotValid (h + i)) hi
    rwa [Bool.not_eq_true'] at hrun
  have hmaximal : rxCompletedRun s.ch h < s.ch.desc_num →
      s.ch.slotValid (h + rxCompletedRun s.ch h) = true := by
    intro hlt
    have hstop := not_initialRun s.ch.desc_num (p := fun i => !s.ch.slotValid (h + i)) hlt
    rwa [Bool.not_eq_false'] at hstop
  generalize rxCompletedRun s.ch h = m at hle hcompleted hmaximal hallocs ⊢
  refine ⟨hle, hcompleted, hmaximal, fun hm => ?_, fun hsome => ?_, fun j hj hsome hnull => ?_⟩
  · rw [hm, s.ch.blk_add]
  · obtain ⟨t, hd, hloop⟩ := RxDrained.run hty hready hle hcompleted hallocs m (Nat.le_refl m) hsome
    have hend : ∀ fuel, m < fuel →
        rxHandlePacketsLoop fuel (s.ch.blk h) s = some (s.ch.blk (h + m), t) := by
      intro fuel hfuel
      have hrun := hloop (fuel - m)
      rw [Nat.add_sub_cancel' (Nat.le_of_lt hfuel)] at hrun
      rw [hrun]
      obtain ⟨left, hleft⟩ : ∃ left, fuel - m = left + 1 := ⟨fuel - m - 1, by omega⟩
      simp only [hleft, rxHandlePacketsLoop, hd.stop hle hmaximal, Option.bind_eq_bind,
        Option.bind_some, if_true, Option.pure_def]
    refine ⟨t, hend, ?_, hd⟩
    simp only [rxHandlePackets, hhead, hend _ (Nat.lt_succ_of_le hle), Option.bind_eq_bind,
      Option.bind_some, Option.pure_def]
  · obtain ⟨t, hd, hloop⟩ := RxDrained.run hty hready hle hcompleted hallocs j (Nat.le_of_lt hj) hsome
    obtain ⟨u, hprepare, -⟩ := hd.prepare hty (by omega) (by omega)
    rw [hnull] at hprepare
    exact ⟨t, u, hloop, hd, hprepare, rfl⟩

/-- A buffer of a receive ring. -/
def rxBuffer (ptr : ℕ) : SkBuff where
  ptr := ptr
  data := []
  dma := BitVec.ofNat 32 (0x1000 * ptr)
  flags := 0
  queue_mapping := 0

/-- A ring of two blocks whose descriptors are both completed; the head is at the second one. -/
def twoCompleted : RxState where
  ch :=
    { ch_type := .rxH, desc_num := 2, head_blk_ctl := some 2
      ctl := fun p =>
        if p = 1 then some { next := some 2, desc := some 0, skb := some (rxBuffer 1) }
        else if p = 2 then some { next := some 1, desc := some 1, skb := some (rxBuffer 2) }
        else none }
  next_skb := 3
  allocs := [none, some 0x3000]

/-- It is a ring. -/
theorem twoCompleted_ready : RingReady twoCompleted.ch where
  two_le := Nat.le_refl 2
  ctl k := by
    have hblk : ∀ j, twoCompleted.ch.blk j = 1 + j % 2 := fun _ => rfl
    rw [hblk, hblk, show twoCompleted.ch.desc_num = 2 from rfl]
    rcases Nat.mod_two_eq_zero_or_one k with hk | hk
    · have hk' : (k + 1) % 2 = 1 := by omega
      rw [hk, hk']
      exact ⟨_, rfl, rfl, rfl⟩
    · have hk' : (k + 1) % 2 = 0 := by omega
      rw [hk, hk']
      exact ⟨_, rfl, rfl, rfl⟩

/-- One `alloc_skb` fails and one succeeds: both buffers are handed over, and the head is back at the second
block. -/
theorem rxDrain_exact_lap : ∃ s', rxHandlePackets twoCompleted = some s' ∧
    s'.delivered.map some = [some (rxBuffer 2), some (rxBuffer 1)] ∧
    s'.ch.head_blk_ctl = some 2 := by
  have hrun : rxCompletedRun twoCompleted.ch 1 = 2 := by decide
  have hdrain := rxDrain_exact twoCompleted_ready (h := 1) rfl (.inr rfl) (by rw [hrun]; decide)
  rw [hrun] at hdrain
  obtain ⟨t, -, hcall, hd⟩ := hdrain.drained (by decide)
  exact ⟨_, hcall, hd.passed, rfl⟩

end Wcn36xx
