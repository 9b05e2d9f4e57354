import Wcn36xx.Dxe.RingLife

/-!
# One ring for the driver and the DMA engine

What `wcn36xx_dxe_allocate_ctl_block` leaves, and what `wcn36xx_dxe_free_ctl_block` takes apart again,
in terms of a cycle of blocks and not of their addresses. `wcn36xx_dxe_init_descs` links the
descriptors into the same cycle: the DMA engine, which follows bus addresses, and the driver, which
follows `next` pointers, are at the same descriptor after any number of steps (`CommonCycle`).
-/

namespace Wcn36xx

open Support (Cycle)

/-! ## The control blocks -/

/-- The blocks of a ring in the order of the cycle `cyc`: head and tail are the first block, block `i`
carries its number, and the `next` pointers are the cycle. -/
structure CompleteRing (ch : DxeCh) {n : ℕ} (cyc : Cycle ℕ n) : Prop where
  desc_num : ch.desc_num = n
  head : ch.head_blk_ctl = some (cyc.pos 0)
  tail : ch.tail_blk_ctl = some (cyc.pos 0)
  ctl : ∀ i, ∃ c, ch.ctl (cyc.pos i) = some c ∧ c.ctl_blk_order = i % n ∧
    c.next = some (cyc.pos (i + 1))

/-- The blocks that `wcn36xx_dxe_allocate_ctl_block` allocates, one after the other, are a ring. -/
theorem completeRing_allocatedCh (ch : DxeCh) (hn : 2 ≤ ch.desc_num) :
    CompleteRing (allocatedCh ch ch.desc_num) (Cycle.consecutive ch.fresh ch.desc_num) := by
  have hfirst : (Cycle.consecutive ch.fresh ch.desc_num).pos 0 = ch.fresh :=
    Cycle.consecutive_pos (by omega)
  constructor
  · rfl
  · exact congrArg some hfirst.symm
  · exact congrArg some hfirst.symm
  · intro i
    -- The last block leads back to the first: positions count modulo the length.
    have hlt : i % ch.desc_num < ch.desc_num := Nat.mod_lt i (by omega)
    refine ⟨_, allocatedCh_ctl ch hlt, rfl, congrArg some ?_⟩
    rw [Cycle.pos_eq_iff, Nat.mod_add_mod]

/-- The first `k` blocks of an unfinished ring are an open list that ends in a null pointer. -/
theorem chainFrom_allocatedCh (ch : DxeCh) {k : ℕ} (hk : k < ch.desc_num) :
    ChainFrom (allocatedCh ch k) (fun j => ch.fresh + j) k none 0 := by
  intro j _ hj
  have hin : ch.fresh ≤ ch.fresh + j ∧ ch.fresh + j < ch.fresh + k := by omega
  refine ⟨allocatedCtl ch.fresh ch.desc_num k j, ?_, ?_⟩
  · simp only [allocatedCh, if_pos hin, Nat.add_sub_cancel_left]
  · rw [allocatedCtl, chainLink, if_neg (Nat.ne_of_lt hk), Nat.add_assoc]

/-- Freeing an unfinished ring frees its blocks and no others. -/
theorem dxeFreeCtlBlock_allocatedCh (ch : DxeCh) {k : ℕ} (hpos : 0 < k) (hk : k < ch.desc_num) :
    ∃ ch', dxeFreeCtlBlock (allocatedCh ch k) = some ch' ∧ ch'.fresh = ch.fresh + k ∧
      (∀ p, ch.fresh ≤ p → p < ch.fresh + k → ch'.ctl p = none) ∧
      ∀ p, ¬(ch.fresh ≤ p ∧ p < ch.fresh + k) → ch'.ctl p = ch.ctl p := by
  -- The loop stops at the null pointer, before `desc_num` iterations.
  obtain ⟨ch', hrun, hfreed, hkept⟩ := dxeFreeCtlBlockLoop_chain
    (fun i j hij _ => Nat.ne_of_lt (Nat.add_lt_add_left hij ch.fresh)) ch.desc_num 0
    (allocatedCh ch k) (Nat.zero_le k) (by omega) (fun _ => rfl) (chainFrom_allocatedCh ch hk)
  rw [chainLink, if_pos hpos, Nat.add_zero] at hrun
  have hfree : dxeFreeCtlBlock (allocatedCh ch k) = some ch' := hrun
  refine ⟨ch', hfree, ?_, fun p hp hlt => ?_, fun p hp => ?_⟩
  · rw [(dxeFreeCtlBlock_frame hfree).1]
    rfl
  · have hfree := hfreed (p - ch.fresh) (Nat.zero_le _) (by omega)
    rwa [show ch.fresh + (p - ch.fresh) = p by omega] at hfree
  · rw [hkept p fun j _ hj => by omega]
    simp only [allocatedCh, if_neg hp]

/-- When the allocation of block `k` fails, `wcn36xx_dxe_allocate_ctl_block` on a channel without a ring
frees the `k` blocks before it and no others. -/
theorem dxeAllocateCtlBlock_enomem (ch : DxeCh) (hn : 2 ≤ ch.desc_num)
    (hhead : ch.head_blk_ctl = none) {kzalloc : ℕ → Bool} {k : ℕ} (hk : k < ch.desc_num)
    (hok : ∀ i, i < k → kzalloc i = true) (hfail : kzalloc k = false) :
    ∃ ch', dxeAllocateCtlBlock kzalloc ch = some (ch', -ENOMEM) ∧ ch'.fresh = ch.fresh + k ∧
      (∀ p, ch.fresh ≤ p → p < ch.fresh + k → ch'.ctl p = none) ∧
      ∀ p, ¬(ch.fresh ≤ p ∧ p < ch.fresh + k) → ch'.ctl p = ch.ctl p := by
  rcases Nat.eq_zero_or_pos k with rfl | hpos
  · -- Nothing has been allocated, and the head pointer is still null.
    refine ⟨ch, ?_, rfl, fun p hp hlt => by omega, fun _ _ => rfl⟩
    rw [dxeAllocateCtlBlock_fail_zero kzalloc ch hn hfail, dxeFreeCtlBlock_none hhead]
    rfl
  · obtain ⟨ch', hfree, hrest⟩ := dxeFreeCtlBlock_allocatedCh ch hpos hk
    refine ⟨ch', ?_, hrest⟩
    rw [dxeAllocateCtlBlock_fail kzalloc ch hn hpos hk hok hfail, hfree]
    rfl

/-- The construction and the destruction of a ring. With enough memory
`wcn36xx_dxe_allocate_ctl_block` leaves a complete ring. When the allocation of block `k` fails, the
`k` blocks that have been allocated are allocated no more, and no other block has changed. The same
holds of all the blocks of a ring after `wcn36xx_dxe_free_ctl_block`, wherever on the ring the head is.
Freeing a block that is not allocated and reading through a pointer to it are faults, so each block
is freed once and not looked at afterwards. -/
theorem ctlBlocks_built_and_freed (ch : DxeCh) (hn : 2 ≤ ch.desc_num) :
    (ch.head_blk_ctl = none → ∀ kzalloc : ℕ → Bool,
      ((∀ i, i < ch.desc_num → kzalloc i = true) →
        ∃ ch', dxeAllocateCtlBlock kzalloc ch = some (ch', 0) ∧
          ∃ cyc : Cycle ℕ ch.desc_num, CompleteRing ch' cyc) ∧
      ∀ k, k < ch.desc_num → (∀ i, i < k → kzalloc i = true) → kzalloc k = false →
        ∃ ch', dxeAllocateCtlBlock kzalloc ch = some (ch', -ENOMEM) ∧ ch'.fresh = ch.fresh + k ∧
          (∀ p, ch.fresh ≤ p → p < ch.fresh + k → ch'.ctl p = none) ∧
          ∀ p, ¬(ch.fresh ≤ p ∧ p < ch.fresh + k) → ch'.ctl p = ch.ctl p) ∧
    ∀ cyc : Cycle ℕ ch.desc_num,
      (∀ i, ∃ c, ch.ctl (cyc.pos i) = some c ∧ c.next = some (cyc.pos (i + 1))) →
      ∀ s, ch.head_blk_ctl = some (cyc.pos s) →
        ∃ ch', dxeFreeCtlBlock ch = some ch' ∧ (∀ i, ch'.ctl (cyc.pos i) = none) ∧
          ∀ p, (∀ i, p ≠ cyc.pos i) → ch'.ctl p = ch.ctl p := by
  constructor
  · intro hhead kzalloc
    constructor
    · intro hok
      exact ⟨_, dxeAllocateCtlBlock_ok kzalloc ch hn hok, _, completeRing_allocatedCh ch hn⟩
    · intro k hk hok hfail
      exact dxeAllocateCtlBlock_enomem ch hn hhead hk hok hfail
  · intro cyc hctl s hhead
    obtain ⟨ch', hrun, -, hrest⟩ := dxeFreeCtlBlock_cycle cyc s hhead (by omega) hctl
    exact ⟨ch', hrun, hrest⟩

/-- The high priority TX channel with ten blocks, of which the seventh cannot be allocated. -/
theorem ctlBlocks_built_and_freed_seventh :
    ∃ ch', dxeAllocateCtlBlock (fun i => i != 6) (txChConfig false 10) = some (ch', -ENOMEM) ∧
      ch'.fresh = 7 ∧ ∀ p, ch'.ctl p = none := by
  obtain ⟨ch', hrun, hfresh, hfreed, hkept⟩ :=
    ((ctlBlocks_built_and_freed (txChConfig false 10) (by decide)).1 rfl fun i => i != 6).2 6
      (by decide) (fun i hi => bne_iff_ne.mpr (Nat.ne_of_lt hi)) rfl
  refine ⟨ch', hrun, hfresh, fun p => ?_⟩
  by_cases hp : 1 ≤ p ∧ p < 7
  · exact hfreed p hp.1 hp.2
  · exact hkept p hp

/-! ## The descriptors -/

/-- The descriptor that a bus address denotes. -/
def DxeCh.descAt (ch : DxeCh) (phy : BitVec 32) : Option ℕ :=
  let off := phy.toNat - ch.dma_addr.toNat
  if ch.dma_addr.toNat ≤ phy.toNat ∧ off % DxeDesc.size = 0 ∧ off / DxeDesc.size < ch.desc_num then
    some (off / DxeDesc.size)
  else none

/-- Driver and DMA engine are on one cycle: the blocks are a ring, the descriptor of block `i` is the
one at the bus address `i` of the cycle `bus`, and its `phy_next_l` is the next bus address. -/
structure CommonCycle (ch : DxeCh) {n : ℕ} (cyc : Cycle ℕ n) (bus : Cycle (BitVec 32) n) : Prop where
  ring : CompleteRing ch cyc
  desc : ∀ i, ∃ c, ch.ctl (cyc.pos i) = some c ∧ c.desc = some (i % n) ∧
    c.desc_phy_addr = bus.pos i ∧ ch.descAt c.desc_phy_addr = c.desc ∧
    (ch.dxe (i % n)).phy_next_l = bus.pos (i + 1)

section Bus

variable {dma_addr : BitVec 32} {n : ℕ} (hwrap : dma_addr.toNat + n * DxeDesc.size ≤ 2 ^ 32)
include hwrap

/-- Bus addresses of an array that does not wrap. -/
theorem descPhy_toNat {j : ℕ} (hj : j < n) :
    (descPhy dma_addr j).toNat = dma_addr.toNat + j * DxeDesc.size := by
  have hlt : dma_addr.toNat + j * DxeDesc.size < 2 ^ 32 := by
    have hmul : (j + 1) * DxeDesc.size ≤ n * DxeDesc.size := Nat.mul_le_mul_right _ hj
    rw [Nat.add_mul, Nat.one_mul] at hmul
    have hsize : 0 < DxeDesc.size := by decide
    omega
  rw [descPhy, BitVec.toNat_add, BitVec.toNat_ofNat, Nat.add_mod_mod, Nat.mod_eq_of_lt hlt]

/-- The bus addresses of the descriptors, over and over. -/
def busCycle (hn : 0 < n) : Cycle (BitVec 32) n where
  pos i := descPhy dma_addr (i % n)
  pos_eq_iff i j := by
    constructor
    · intro h
      have hval := congrArg BitVec.toNat h
      rw [descPhy_toNat hwrap (Nat.mod_lt i hn), descPhy_toNat hwrap (Nat.mod_lt j hn)] at hval
      exact Nat.mul_right_cancel (show 0 < DxeDesc.size by decide) (Nat.add_left_cancel hval)
    · intro h
      rw [h]

/-- The bus address of a descriptor denotes it. -/
theorem descAt_descPhy (ch : DxeCh) (hdma : ch.dma_addr = dma_addr) (hn : ch.desc_num = n) {j : ℕ}
    (hj : j < n) : ch.descAt (descPhy dma_addr j) = some j := by
  have hsize : 0 < DxeDesc.size := by decide
  unfold DxeCh.descAt
  simp only [hdma, hn, descPhy_toNat hwrap hj, Nat.add_sub_cancel_left, Nat.mul_mod_left,
    Nat.mul_div_cancel j hsize]
  rw [if_pos ⟨Nat.le_add_right _ _, trivial, hj⟩]

end Bus

/-- The descriptors of a ring are linked in the order of the bus addresses. -/
theorem initializedDesc_next (ty : DxeChType) (dma_addr : BitVec 32) {n : ℕ} (hn : 0 < n) (i : ℕ) :
    (initializedDesc ty dma_addr n n (i % n)).phy_next_l = descPhy dma_addr ((i + 1) % n) := by
  have hlt : i % n < n := Nat.mod_lt i hn
  rw [initializedDesc, if_pos hlt]
  simp only [if_true]
  rw [← Nat.mod_add_mod i n 1]
  -- The back-edge is written in the last iteration.
  by_cases hlast : i % n + 1 < n
  · rw [if_pos hlast, Nat.mod_eq_of_lt hlast]
  · rw [if_neg hlast, show i % n + 1 = n by omega, Nat.mod_self]

/-- What the set-up of a ring leaves of a control block. -/
def describedCtl (base n : ℕ) (dma_addr : BitVec 32) (i : ℕ) : DxeCtl :=
  initDescsCtl dma_addr (i % n)
    { ctl_blk_order := i % n, next := some ((Cycle.consecutive base n).pos (i + 1)) }

/-- The control blocks after `wcn36xx_dxe_init_descs` on a new ring. -/
theorem initializedCh_allocatedCh_ctl (ch : DxeCh) (hn : 0 < ch.desc_num) (cpu_addr : ℕ)
    (dma_addr : BitVec 32) (i : ℕ) :
    (initializedCh { allocatedCh ch ch.desc_num with cpu_addr := some cpu_addr, dma_addr := dma_addr }
      ch.fresh ch.desc_num).ctl ((Cycle.consecutive ch.fresh ch.desc_num).pos i) =
      some (describedCtl ch.fresh ch.desc_num dma_addr i) := by
  have hlt : i % ch.desc_num < ch.desc_num := Nat.mod_lt i hn
  have hctl := allocatedCh_ctl ch hlt
  have hpos : (Cycle.consecutive ch.fresh ch.desc_num).pos (i % ch.desc_num + 1) =
      (Cycle.consecutive ch.fresh ch.desc_num).pos (i + 1) := by
    rw [Cycle.pos_eq_iff, Nat.mod_add_mod]
  have hmap := mapBlocks_ctl
    { allocatedCh ch ch.desc_num with cpu_addr := some cpu_addr, dma_addr := dma_addr } ch.fresh
    ch.desc_num (i % ch.desc_num) (initDescsCtl dma_addr) hlt
  rw [hctl, Option.map_some, hpos] at hmap
  exact hmap

/-- After `wcn36xx_dxe_init_descs` on a new ring, driver and DMA engine are on one cycle. -/
theorem commonCycle_initializedCh (ch : DxeCh) (hn : 0 < ch.desc_num) (cpu_addr : ℕ)
    {dma_addr : BitVec 32} (hwrap : dma_addr.toNat + ch.desc_num * DxeDesc.size ≤ 2 ^ 32) :
    CommonCycle
      (initializedCh { allocatedCh ch ch.desc_num with cpu_addr := some cpu_addr, dma_addr := dma_addr }
        ch.fresh ch.desc_num)
      (Cycle.consecutive ch.fresh ch.desc_num) (busCycle hwrap hn) := by
  have hctl := initializedCh_allocatedCh_ctl ch hn cpu_addr dma_addr
  have hfirst : (Cycle.consecutive ch.fresh ch.desc_num).pos 0 = ch.fresh :=
    Cycle.consecutive_pos hn
  refine ⟨⟨rfl, congrArg some hfirst.symm, congrArg some hfirst.symm, fun i => ?_⟩, fun i => ?_⟩
  · exact ⟨_, hctl i, rfl, rfl⟩
  · refine ⟨_, hctl i, rfl, rfl, ?_, ?_⟩
    · apply descAt_descPhy hwrap
      · rfl
      · rfl
      · exact Nat.mod_lt i hn
    · exact initializedDesc_next ch.ch_type dma_addr hn i

/-! ## The BD buffers -/

/-- Where in the pool the BD buffer of block `i` starts. -/
def bdOffset (pool : DxeMemPool) (n i : ℕ) : ℕ := pool.chunk_size * (i % n / 2)

/-- The even blocks of the ring, and only they, have a BD buffer, at the same offset on the CPU and on
the bus. The buffers have room for a BD, are in the pool of `chunk_size * n` bytes, and do not
overlap. -/
structure BdBuffers (ch : DxeCh) {n : ℕ} (cyc : Cycle ℕ n) (pool : DxeMemPool) : Prop where
  even : ∀ i, i % 2 = 0 → ∃ c, ch.ctl (cyc.pos i) = some c ∧ c.bd_cpu_addr ≠ 0 ∧
    c.bd_cpu_addr = pool.virt_addr + bdOffset pool n i ∧
    c.bd_phy_addr = pool.phy_addr + BitVec.ofNat 32 (bdOffset pool n i)
  odd : ∀ i, i % 2 = 1 → ∃ c, ch.ctl (cyc.pos i) = some c ∧ c.bd_cpu_addr = 0 ∧ c.bd_phy_addr = 0
  inside : ∀ i, bdOffset pool n i + TxBd.size ≤ pool.chunk_size * n
  disjoint : ∀ i j, i % 2 = 0 → j % 2 = 0 → cyc.pos i ≠ cyc.pos j →
    bdOffset pool n i + TxBd.size ≤ bdOffset pool n j ∨
      bdOffset pool n j + TxBd.size ≤ bdOffset pool n i
  bus : pool.phy_addr.toNat + pool.chunk_size * n ≤ 2 ^ 32 → ∀ i,
    (pool.phy_addr + BitVec.ofNat 32 (bdOffset pool n i)).toNat =
      pool.phy_addr.toNat + bdOffset pool n i

section Offset

variable {pool : DxeMemPool} {n : ℕ} (hchunk : TxBd.size ≤ pool.chunk_size)
include hchunk

/-- A BD that starts at an earlier offset ends before a later one. -/
theorem bdOffset_lt {i j : ℕ} (h : i % n / 2 < j % n / 2) :
    bdOffset pool n i + TxBd.size ≤ bdOffset pool n j := by
  calc bdOffset pool n i + TxBd.size ≤ pool.chunk_size * (i % n / 2) + pool.chunk_size :=
        Nat.add_le_add_left hchunk _
    _ = pool.chunk_size * (i % n / 2 + 1) := rfl
    _ ≤ pool.chunk_size * (j % n / 2) := Nat.mul_le_mul_left _ h

/-- The BDs are in the pool. -/
theorem bdOffset_inside (hn : 0 < n) (i : ℕ) :
    bdOffset pool n i + TxBd.size ≤ pool.chunk_size * n := by
  have hlt : i % n < n := Nat.mod_lt i hn
  calc bdOffset pool n i + TxBd.size ≤ pool.chunk_size * (i % n / 2) + pool.chunk_size :=
        Nat.add_le_add_left hchunk _
    _ = pool.chunk_size * (i % n / 2 + 1) := rfl
    _ ≤ pool.chunk_size * n := Nat.mul_le_mul_left _ (by omega)

end Offset

/-- In a ring of even length, one lap more does not change whether a position is even. -/
theorem mod_mod_two {n : ℕ} (heven : n % 2 = 0) (i : ℕ) : i % n % 2 = i % 2 :=
  Nat.mod_mod_of_dvd i (Nat.dvd_of_mod_eq_zero heven)

section TxBd

variable {ch : DxeCh} {base : ℕ} {bus : Cycle (BitVec 32) ch.desc_num}
  (h : CommonCycle ch (Cycle.consecutive base ch.desc_num) bus) (hn : 2 ≤ ch.desc_num)
  (pool : DxeMemPool)
include h hn

/-- The control blocks after `wcn36xx_dxe_init_tx_bd`. -/
theorem mapBlocks_initTxBdCtl (i : ℕ) :
    ∃ c, ch.ctl ((Cycle.consecutive base ch.desc_num).pos i) = some c ∧
      (mapBlocks ch base ch.desc_num (initTxBdCtl pool)).ctl
        ((Cycle.consecutive base ch.desc_num).pos i) =
        some (initTxBdCtl pool (i % ch.desc_num) c) := by
  obtain ⟨c, hc, -⟩ := h.ring.ctl i
  refine ⟨c, hc, ?_⟩
  have hmap := mapBlocks_ctl ch base ch.desc_num (i % ch.desc_num) (initTxBdCtl pool)
    (Nat.mod_lt i (by omega))
  have hpos : base + i % ch.desc_num = (Cycle.consecutive base ch.desc_num).pos i := rfl
  rw [hpos, hc, Option.map_some] at hmap
  exact hmap

/-- `wcn36xx_dxe_init_tx_bd` does not fault on a ring. -/
theorem CommonCycle.dxeInitTxBd_eq :
    dxeInitTxBd pool ch = some (mapBlocks ch base ch.desc_num (initTxBdCtl pool)) := by
  have hfirst : (Cycle.consecutive base ch.desc_num).pos 0 = base :=
    Cycle.consecutive_pos (by omega)
  apply dxeInitTxBd_spec ch base hn
  constructor
  · rw [h.ring.head, hfirst]
  · intro j hj
    obtain ⟨c, hc, -, hnext⟩ := h.ring.ctl j
    rw [Cycle.consecutive_pos hj] at hc
    exact ⟨c, hc, hnext⟩

/-- `wcn36xx_dxe_init_tx_bd` keeps driver and DMA engine on one cycle. -/
theorem CommonCycle.initTxBd :
    CommonCycle (mapBlocks ch base ch.desc_num (initTxBdCtl pool))
      (Cycle.consecutive base ch.desc_num) bus := by
  have hsame : ∀ j c, (initTxBdCtl pool j c).ctl_blk_order = c.ctl_blk_order ∧
      (initTxBdCtl pool j c).next = c.next ∧ (initTxBdCtl pool j c).desc = c.desc ∧
      (initTxBdCtl pool j c).desc_phy_addr = c.desc_phy_addr := by
    intro j c
    unfold initTxBdCtl
    split_ifs <;> exact ⟨rfl, rfl, rfl, rfl⟩
  refine ⟨⟨rfl, h.ring.head, h.ring.tail, fun i => ?_⟩, fun i => ?_⟩
  · obtain ⟨c, hc, hmap⟩ := mapBlocks_initTxBdCtl h hn pool i
    obtain ⟨c', hc', horder, hnext⟩ := h.ring.ctl i
    rw [hc, Option.some.injEq] at hc'
    subst hc'
    obtain ⟨ho, hx, -⟩ := hsame (i % ch.desc_num) c
    exact ⟨_, hmap, ho.trans horder, hx.trans hnext⟩
  · obtain ⟨c, hc, hmap⟩ := mapBlocks_initTxBdCtl h hn pool i
    obtain ⟨c', hc', hdesc, hphy, hat, hlink⟩ := h.desc i
    rw [hc, Option.some.injEq] at hc'
    subst hc'
    obtain ⟨-, -, hd, hp⟩ := hsame (i % ch.desc_num) c
    refine ⟨_, hmap, hd.trans hdesc, hp.trans hphy, ?_, hlink⟩
    rw [hd, hp]
    exact hat

/-- `wcn36xx_dxe_init_tx_bd` gives the even blocks of a ring of even length their buffers. -/
theorem bdBuffers_initTxBd (heven : ch.desc_num % 2 = 0) (hchunk : TxBd.size ≤ pool.chunk_size)
    (hvirt : pool.virt_addr ≠ 0) :
    BdBuffers (mapBlocks ch base ch.desc_num (initTxBdCtl pool))
      (Cycle.consecutive base ch.desc_num) pool := by
  constructor
  · intro i hi
    obtain ⟨c, -, hmap⟩ := mapBlocks_initTxBdCtl h hn pool i
    have hi' : i % ch.desc_num % 2 = 0 := (mod_mod_two heven i).trans hi
    rw [initTxBdCtl, if_pos hi'] at hmap
    refine ⟨_, hmap, ?_, rfl, rfl⟩
    change pool.virt_addr + _ ≠ 0
    omega
  · intro i hi
    obtain ⟨c, -, hmap⟩ := mapBlocks_initTxBdCtl h hn pool i
    have hi' : ¬i % ch.desc_num % 2 = 0 := by
      rw [mod_mod_two heven i, hi]
      exact Nat.one_ne_zero
    rw [initTxBdCtl, if_neg hi'] at hmap
    exact ⟨_, hmap, rfl, rfl⟩
  · exact bdOffset_inside hchunk (by omega)
  · intro i j hi hj hne
    have hi' : i % ch.desc_num % 2 = 0 := (mod_mod_two heven i).trans hi
    have hj' : j % ch.desc_num % 2 = 0 := (mod_mod_two heven j).trans hj
    have hmod : i % ch.desc_num ≠ j % ch.desc_num := fun heq =>
      hne (((Cycle.consecutive base ch.desc_num).pos_eq_iff i j).mpr heq)
    -- Two even positions have different halves.
    rcases Nat.lt_or_gt_of_ne (show i % ch.desc_num / 2 ≠ j % ch.desc_num / 2 by omega) with hlt | hgt
    · exact .inl (bdOffset_lt hchunk hlt)
    · exact .inr (bdOffset_lt hchunk hgt)
  · intro hwrap i
    have hinside := bdOffset_inside hchunk (by omega : 0 < ch.desc_num) i
    have hsize : 0 < TxBd.size := by decide
    rw [BitVec.toNat_add, BitVec.toNat_ofNat, Nat.add_mod_mod, Nat.mod_eq_of_lt (by omega)]

end TxBd

/-- The driver and the DMA engine share one cycle. After `wcn36xx_dxe_allocate_ctl_block` and
`wcn36xx_dxe_init_descs`, the blocks and the bus addresses of the descriptors run in parallel, for
every type of channel, every number of descriptors and every array of descriptors that does not wrap.
If that number is even, `wcn36xx_dxe_init_tx_bd` gives every second block its part of the pool. -/
theorem driver_and_engine_share_cycle (ch : DxeCh) (hn : 2 ≤ ch.desc_num) {kzalloc : ℕ → Bool}
    (hok : ∀ i, i < ch.desc_num → kzalloc i = true) (cpu_addr : ℕ) (dma_addr : BitVec 32)
    (hwrap : dma_addr.toNat + ch.desc_num * DxeDesc.size ≤ 2 ^ 32) :
    ∃ A B, dxeAllocateCtlBlock kzalloc ch = some (A, 0) ∧
      dxeInitDescs (some (cpu_addr, dma_addr)) A = some (B, 0) ∧
      ∃ (cyc : Cycle ℕ ch.desc_num) (bus : Cycle (BitVec 32) ch.desc_num),
        bus.pos 0 = dma_addr ∧ CommonCycle B cyc bus ∧
        (ch.desc_num % 2 = 0 → ∀ pool : DxeMemPool, pool.chunk_size = bdChunkSize →
          pool.virt_addr ≠ 0 →
          ∃ C, dxeInitTxBd pool B = some C ∧ CommonCycle C cyc bus ∧ BdBuffers C cyc pool) := by
  have hpos : 0 < ch.desc_num := by omega
  have hring := ringAt_allocatedCh ch hn
  have hinit := dxeInitDescs_spec (allocatedCh ch ch.desc_num) ch.fresh hn (hring.consecutive rfl)
    cpu_addr dma_addr
  have hcommon := commonCycle_initializedCh ch hpos cpu_addr hwrap
  refine ⟨_, _, dxeAllocateCtlBlock_ok kzalloc ch hn hok, hinit, _, _, ?_, hcommon, ?_⟩
  · have hzero : descPhy dma_addr (0 % ch.desc_num) = dma_addr := by
      rw [Nat.zero_mod, descPhy, Nat.zero_mul, BitVec.add_zero]
    exact hzero
  · intro heven pool hchunk hvirt
    have hroom : TxBd.size ≤ pool.chunk_size := by
      rw [hchunk]
      decide
    exact ⟨_, CommonCycle.dxeInitTxBd_eq hcommon hn pool, CommonCycle.initTxBd hcommon hn pool,
      bdBuffers_initTxBd hcommon hn pool heven hroom hvirt⟩

/-- In a ring of two descriptors of a TX channel the second one leads back to the first, as its block does;
the first block has the BD at the front of the pool, and the second one has none. -/
theorem driver_and_engine_share_cycle_two :
    ∃ A B C, dxeAllocateCtlBlock (fun _ => true) (txChConfig true 2) = some (A, 0) ∧
      dxeInitDescs (some (1, 0x80000000)) A = some (B, 0) ∧
      dxeInitTxBd ⟨bdChunkSize, 64, 0x90000000⟩ B = some C ∧
      (C.dxe 1).phy_next_l = 0x80000000 ∧
      ∃ p c p₀ c₀, C.ctl p = some c ∧ c.desc = some 1 ∧ c.next = C.head_blk_ctl ∧ c.bd_cpu_addr = 0 ∧
        C.head_blk_ctl = some p₀ ∧ C.ctl p₀ = some c₀ ∧ c₀.bd_phy_addr = 0x90000000 := by
  obtain ⟨A, B, hA, hB, cyc, bus, hstart, -, hbds⟩ :=
    driver_and_engine_share_cycle (txChConfig true 2) (by decide) (fun _ _ => rfl) 1 0x80000000
      (by decide)
  obtain ⟨C, hC, hcommon, hbd⟩ := hbds rfl ⟨bdChunkSize, 64, 0x90000000⟩ rfl (by decide)
  have hback : bus.pos (1 + 1) = bus.pos 0 := bus.pos_add 0
  have hback' : cyc.pos (1 + 1) = cyc.pos 0 := cyc.pos_add 0
  obtain ⟨c, hc, hdesc, -, -, hlink⟩ := hcommon.desc 1
  obtain ⟨c', hc', -, hnext⟩ := hcommon.ring.ctl 1
  obtain ⟨c'', hc'', hzero, -⟩ := hbd.odd 1 rfl
  rw [hc, Option.some.injEq] at hc' hc''
  subst hc'
  subst hc''
  rw [hback, hstart] at hlink
  obtain ⟨c₀, hc₀, -, -, hphy⟩ := hbd.even 0 rfl
  exact ⟨A, B, C, hA, hB, hC, hlink, cyc.pos 1, c, cyc.pos 0, c₀, hc, hdesc,
    by rw [hnext, hback', hcommon.ring.head], hzero, hcommon.ring.head, hc₀, hphy⟩

end Wcn36xx
