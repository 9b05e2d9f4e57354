import Wcn36xx.Dxe.CtlBlocks

/-!
# The ring that the set-up builds

`dxeAllocateCtlBlock_spec` gives the control blocks of a complete ring in closed form, and
`dxeInitDescs_spec` and `dxeInitTxBd_spec` do the same for the descriptors and the BD pointers.
-/

namespace Wcn36xx

open Support (walk walk_spec)

/-! ## The control blocks -/

/-- Control block `j` after `i` blocks of a ring of `n` have been allocated from address `base`: the
newest block has no successor until the last one closes the ring. -/
def allocatedCtl (base n i j : ℕ) : DxeCtl :=
  { ctl_blk_order := j
    next := if j + 1 < i then some (base + j + 1) else if i = n then some base else none }

/-- The channel after `i` control blocks have been allocated. -/
def allocatedCh (ch : DxeCh) (i : ℕ) : DxeCh :=
  { ch with
    head_blk_ctl := some ch.fresh
    tail_blk_ctl := some ch.fresh
    fresh := ch.fresh + i
    ctl := fun p =>
      if ch.fresh ≤ p ∧ p < ch.fresh + i then
        some (allocatedCtl ch.fresh ch.desc_num i (p - ch.fresh))
      else ch.ctl p }

/-- The first iteration allocates the block that head and tail point to. -/
theorem dxeAllocateCtlBlockBody_zero (ch : DxeCh) (hn : 2 ≤ ch.desc_num) :
    dxeAllocateCtlBlockBody 0 none ch = some (ch.fresh, allocatedCh ch 1) := by
  simp only [dxeAllocateCtlBlockBody, DxeCh.kzalloc, DxeCh.modCtl, Function.update_self,
    Option.map_some, Option.bind_eq_bind, Option.bind_some, if_true, Option.pure_def,
    Function.update_idem, Option.some.injEq, Prod.mk.injEq, true_and]
  unfold allocatedCh
  congr 1
  funext p
  rcases eq_or_ne p ch.fresh with rfl | hp
  · have h1 : (1 : ℕ) ≠ ch.desc_num := by omega
    simp [allocatedCtl, h1]
  · have hout : ¬(ch.fresh ≤ p ∧ p < ch.fresh + 1) := by omega
    rw [Function.update_of_ne hp, if_neg hout]

/-- A later iteration appends one block, and the last one closes the ring. -/
theorem dxeAllocateCtlBlockBody_succ (ch : DxeCh) (i : ℕ) (hi : 0 < i) (hin : i < ch.desc_num) :
    dxeAllocateCtlBlockBody i (some (ch.fresh + i - 1)) (allocatedCh ch i) =
      some (ch.fresh + i, allocatedCh ch (i + 1)) := by
  have hi0 : i ≠ 0 := by omega
  have hne : ch.fresh + i - 1 ≠ ch.fresh + i := by omega
  have hprev : ch.fresh ≤ ch.fresh + i - 1 ∧ ch.fresh + i - 1 < ch.fresh + i := by omega
  -- The block before gets its successor, and the new block the head when it is the last one.
  have hctl : ∀ last : DxeCtl,
      last = allocatedCtl ch.fresh ch.desc_num (i + 1) i →
      Function.update (Function.update (allocatedCh ch i).ctl (ch.fresh + i - 1)
        (some { allocatedCtl ch.fresh ch.desc_num i (i - 1) with next := some (ch.fresh + i) }))
        (ch.fresh + i) (some last) = (allocatedCh ch (i + 1)).ctl := by
    rintro last rfl
    funext p
    simp only [allocatedCh]
    rcases eq_or_ne p (ch.fresh + i) with rfl | hp
    · rw [Function.update_self, if_pos (by omega), Nat.add_sub_cancel_left]
    rw [Function.update_of_ne hp]
    rcases eq_or_ne p (ch.fresh + i - 1) with rfl | hp'
    · have hj : ch.fresh + i - 1 - ch.fresh = i - 1 := by omega
      have hnext : i - 1 + 1 < i + 1 := by omega
      have hsucc : ch.fresh + (i - 1) + 1 = ch.fresh + i := by omega
      rw [Function.update_self, if_pos (by omega), hj]
      simp only [allocatedCtl, if_pos hnext, hsucc]
    rw [Function.update_of_ne hp']
    by_cases hin' : ch.fresh ≤ p ∧ p < ch.fresh + i
    · rw [if_pos hin', if_pos (by omega)]
      simp only [allocatedCtl, if_pos (show p - ch.fresh + 1 < i by omega),
        if_pos (show p - ch.fresh + 1 < i + 1 by omega)]
    · rw [if_neg hin', if_neg (by omega)]
  have hfresh : (allocatedCh ch i).fresh = ch.fresh + i := rfl
  have hold : (allocatedCh ch i).ctl (ch.fresh + i - 1) =
      some (allocatedCtl ch.fresh ch.desc_num i (i - 1)) := by
    have hj : ch.fresh + i - 1 - ch.fresh = i - 1 := by omega
    simp only [allocatedCh, if_pos hprev, hj]
  simp only [dxeAllocateCtlBlockBody, DxeCh.kzalloc, DxeCh.modCtl, hfresh, Function.update_self,
    Option.map_some, Option.bind_eq_bind, Option.bind_some, if_neg hi0, Function.update_idem,
    Function.update_of_ne hne, hold, Option.pure_def]
  by_cases hlast : ch.desc_num - 1 = i
  · have hdn : (allocatedCh ch i).desc_num - 1 = i := hlast
    have hin1 : i + 1 = ch.desc_num := by omega
    rw [if_pos hdn]
    simp only [Function.update_of_ne hne.symm, Function.update_self, Option.map_some,
      Option.bind_some, Option.some.injEq, Prod.mk.injEq, true_and]
    rw [Function.update_comm hne, Function.update_idem, Function.update_comm hne.symm, hctl]
    · rfl
    · simp only [allocatedCtl, allocatedCh, Nat.lt_irrefl, if_false, if_pos hin1]
  · have hdn : ¬(allocatedCh ch i).desc_num - 1 = i := hlast
    have hin1 : i + 1 ≠ ch.desc_num := by omega
    rw [if_neg hdn, Function.update_comm hne.symm, hctl]
    · rfl
    · simp only [allocatedCtl, Nat.lt_irrefl, if_false, if_neg hin1]

/-- When every `kzalloc` succeeds, `wcn36xx_dxe_allocate_ctl_block` returns 0 and builds the whole
ring. -/
theorem dxeAllocateCtlBlock_spec (ch : DxeCh) (hn : 2 ≤ ch.desc_num) :
    dxeAllocateCtlBlock (fun _ => true) ch = some (allocatedCh ch ch.desc_num, 0) := by
  have hloop : ∀ left i, 0 < i → i + left = ch.desc_num →
      dxeAllocateCtlBlockLoop (fun _ => true) left i (some (ch.fresh + i - 1)) (allocatedCh ch i) =
        some (allocatedCh ch ch.desc_num, 0) := by
    intro left
    induction left with
    | zero =>
      intro i _ hi
      rw [dxeAllocateCtlBlockLoop, ← hi, Nat.add_zero]
    | succ left ih =>
      intro i hi0 hi
      rw [dxeAllocateCtlBlockLoop, if_pos rfl,
        dxeAllocateCtlBlockBody_succ ch i hi0 (by omega)]
      exact ih (i + 1) (by omega) (by omega)
  obtain ⟨m, hm⟩ : ∃ m, ch.desc_num = m + 1 := ⟨ch.desc_num - 1, by omega⟩
  rw [dxeAllocateCtlBlock, hm, dxeAllocateCtlBlockLoop, if_pos rfl,
    dxeAllocateCtlBlockBody_zero ch hn, ← hm]
  exact hloop m 1 (by omega) (by omega)

/-- Every control block of the complete ring, with its successor on the ring. -/
theorem allocatedCh_ctl (ch : DxeCh) {j : ℕ} (hj : j < ch.desc_num) :
    (allocatedCh ch ch.desc_num).ctl (ch.fresh + j) =
      some { ctl_blk_order := j
             next := some ((Support.Cycle.consecutive ch.fresh ch.desc_num).pos (j + 1)) } := by
  have hin : ch.fresh ≤ ch.fresh + j ∧ ch.fresh + j < ch.fresh + ch.desc_num := by omega
  simp only [allocatedCh, if_pos hin, Nat.add_sub_cancel_left, allocatedCtl]
  by_cases hlast : j + 1 < ch.desc_num
  · rw [if_pos hlast, Support.Cycle.consecutive_pos hlast, Nat.add_assoc]
  · have hj1 : j + 1 = ch.desc_num := by omega
    rw [if_neg hlast, if_pos trivial, hj1, Support.Cycle.consecutive_pos_self]

/-! ## Walks that rewrite one block after the other -/

/-- The channel in which the first `i` blocks from address `base` have been rewritten by `f`. -/
def mapBlocks (ch : DxeCh) (base i : ℕ) (f : ℕ → DxeCtl → DxeCtl) : DxeCh :=
  { ch with
    ctl := fun p =>
      if base ≤ p ∧ p < base + i then (ch.ctl p).map (f (p - base)) else ch.ctl p }

/-- Before the first block nothing has been rewritten. -/
theorem mapBlocks_zero (ch : DxeCh) (base : ℕ) (f : ℕ → DxeCtl → DxeCtl) :
    mapBlocks ch base 0 f = ch := by
  have hout : ∀ p, ¬(base ≤ p ∧ p < base + 0) := fun p => by omega
  simp only [mapBlocks, hout, if_false]

/-- Rewriting the next block is one more block rewritten. -/
theorem mapBlocks_modCtl (ch : DxeCh) (base i : ℕ) (f : ℕ → DxeCtl → DxeCtl) {c : DxeCtl}
    (hc : ch.ctl (base + i) = some c) :
    (mapBlocks ch base i f).modCtl (base + i) (f i) = some (mapBlocks ch base (i + 1) f) := by
  have hout : ¬(base ≤ base + i ∧ base + i < base + i) := by omega
  simp only [DxeCh.modCtl, mapBlocks, if_neg hout, hc, Option.map_some, Option.some.injEq]
  congr 1
  funext p
  rcases eq_or_ne p (base + i) with rfl | hp
  · have hin : base ≤ base + i ∧ base + i < base + (i + 1) := by omega
    rw [Function.update_self, if_pos hin, hc, Option.map_some, Nat.add_sub_cancel_left]
  · have hiff : (base ≤ p ∧ p < base + i) ↔ (base ≤ p ∧ p < base + (i + 1)) := by omega
    rw [Function.update_of_ne hp]
    simp only [hiff]

/-- A block that has been rewritten. -/
theorem mapBlocks_ctl (ch : DxeCh) (base i j : ℕ) (f : ℕ → DxeCtl → DxeCtl) (hj : j < i) :
    (mapBlocks ch base i f).ctl (base + j) = (ch.ctl (base + j)).map (f j) := by
  have hin : base ≤ base + j ∧ base + j < base + i := by omega
  simp only [mapBlocks, if_pos hin, Nat.add_sub_cancel_left]

/-! ## The descriptors -/

/-- The bus address of descriptor `j`. -/
def descPhy (dma_addr : BitVec 32) (j : ℕ) : BitVec 32 :=
  dma_addr + BitVec.ofNat 32 (j * DxeDesc.size)

/-- What `wcn36xx_dxe_init_descs` writes to control block `j`. -/
def initDescsCtl (dma_addr : BitVec 32) (j : ℕ) (c : DxeCtl) : DxeCtl :=
  { c with desc := some j, desc_phy_addr := descPhy dma_addr j }

/-- Descriptor `j` of `n` after `i` iterations of `wcn36xx_dxe_init_descs`: the newest one is not
linked until the last one closes the chain. -/
def initializedDesc (ty : DxeChType) (dma_addr : BitVec 32) (n i j : ℕ) : DxeDesc :=
  if j < i then
    { dxeInitDesc ty {} with
      phy_next_l :=
        if j + 1 < i then descPhy dma_addr (j + 1) else if i = n then descPhy dma_addr 0 else 0 }
  else {}

/-- The channel after `i` iterations of `wcn36xx_dxe_init_descs`. -/
def initializedCh (ch : DxeCh) (base i : ℕ) : DxeCh :=
  { mapBlocks ch base i (initDescsCtl ch.dma_addr) with
    dxe := initializedDesc ch.ch_type ch.dma_addr ch.desc_num i }

/-- The descriptors after one more iteration, before the last. -/
theorem initializedDesc_step (ty : DxeChType) (dma_addr : BitVec 32) (n i : ℕ) (hi : 0 < i)
    (hin : i < n - 1) :
    Function.update
        (Function.update (initializedDesc ty dma_addr n i) i (dxeInitDesc ty {})) (i - 1)
        { initializedDesc ty dma_addr n i (i - 1) with phy_next_l := descPhy dma_addr i } =
      initializedDesc ty dma_addr n (i + 1) := by
  have hne : i - 1 ≠ i := by omega
  funext j
  rcases eq_or_ne j (i - 1) with rfl | hj
  · have hsucc : i - 1 + 1 = i := by omega
    rw [Function.update_self]
    simp only [initializedDesc, hsucc, if_pos (show i - 1 < i by omega),
      if_pos (show i - 1 < i + 1 by omega), if_pos (Nat.lt_succ_self i)]
  rw [Function.update_of_ne hj]
  rcases eq_or_ne j i with rfl | hj'
  · have hend : j + 1 ≠ n := by omega
    rw [Function.update_self]
    simp only [initializedDesc, if_pos (Nat.lt_succ_self j), Nat.lt_irrefl, if_false, if_neg hend]
    cases ty <;> rfl
  rw [Function.update_of_ne hj']
  by_cases hlt : j < i
  · simp only [initializedDesc, if_pos hlt, if_pos (show j < i + 1 by omega),
      if_pos (show j + 1 < i by omega), if_pos (show j + 1 < i + 1 by omega)]
  · simp only [initializedDesc, if_neg hlt, if_neg (show ¬j < i + 1 by omega)]

/-- The descriptors after the last iteration: the last descriptor is linked to the first. -/
theorem initializedDesc_last (ty : DxeChType) (dma_addr : BitVec 32) (n i : ℕ) (hi : 0 < i)
    (hin : i + 1 = n) :
    Function.update
        (Function.update
          (Function.update (initializedDesc ty dma_addr n i) i (dxeInitDesc ty {})) (i - 1)
          { initializedDesc ty dma_addr n i (i - 1) with phy_next_l := descPhy dma_addr i })
        i { dxeInitDesc ty {} with phy_next_l := descPhy dma_addr 0 } =
      initializedDesc ty dma_addr n (i + 1) := by
  funext j
  rcases eq_or_ne j i with rfl | hj'
  · rw [Function.update_self]
    simp only [initializedDesc, if_pos (Nat.lt_succ_self j), Nat.lt_irrefl, if_false, if_pos hin]
  rw [Function.update_of_ne hj']
  rcases eq_or_ne j (i - 1) with rfl | hj
  · have hsucc : i - 1 + 1 = i := by omega
    rw [Function.update_self]
    simp only [initializedDesc, hsucc, if_pos (show i - 1 < i by omega),
      if_pos (show i - 1 < i + 1 by omega), if_pos (Nat.lt_succ_self i)]
  rw [Function.update_of_ne hj, Function.update_of_ne hj']
  by_cases hlt : j < i
  · simp only [initializedDesc, if_pos hlt, if_pos (show j < i + 1 by omega),
      if_pos (show j + 1 < i by omega), if_pos (show j + 1 < i + 1 by omega)]
  · simp only [initializedDesc, if_neg hlt, if_neg (show ¬j < i + 1 by omega)]

/-- A channel whose control blocks, at consecutive addresses from `base`, form the ring that
`wcn36xx_dxe_allocate_ctl_block` builds. -/
structure ConsecutiveRing (ch : DxeCh) (base : ℕ) : Prop where
  /-- The head is the first block. -/
  head : ch.head_blk_ctl = some base
  /-- Each block is allocated and points to the next one on the ring. -/
  ctl : ∀ j, j < ch.desc_num → ∃ c, ch.ctl (base + j) = some c ∧
    c.next = some ((Support.Cycle.consecutive base ch.desc_num).pos (j + 1))

section InitDescs

variable (ch : DxeCh) (base : ℕ) (hn : 2 ≤ ch.desc_num) (hring : ConsecutiveRing ch base)
include hn hring

/-- One iteration of `wcn36xx_dxe_init_descs`. -/
theorem dxeInitDescsBody_spec (i : ℕ) (hi : i < ch.desc_num) :
    dxeInitDescsBody i (base + i) (if i = 0 then none else some (i - 1))
        (initializedCh ch base i) =
      some (some i, initializedCh ch base (i + 1)) := by
  obtain ⟨c, hc, -⟩ := hring.ctl i hi
  have hmod : (initializedCh ch base i).modCtl (base + i)
      (fun c => { c with desc := some i, desc_phy_addr := descPhy ch.dma_addr i }) =
      some { mapBlocks ch base (i + 1) (initDescsCtl ch.dma_addr) with
        dxe := initializedDesc ch.ch_type ch.dma_addr ch.desc_num i } := by
    have h := mapBlocks_modCtl ch base i (initDescsCtl ch.dma_addr) hc
    obtain ⟨c', hc', heq⟩ := Option.map_eq_some_iff.mp h
    simp only [DxeCh.modCtl, initializedCh, hc', Option.map_some, ← heq]
    rfl
  have hphy : (initializedCh ch base i).dma_addr + BitVec.ofNat 32 (i * DxeDesc.size) =
      descPhy ch.dma_addr i := rfl
  have hnew : initializedDesc ch.ch_type ch.dma_addr ch.desc_num i i = {} := by
    simp only [initializedDesc, Nat.lt_irrefl, if_false]
  simp only [dxeInitDescsBody, hphy, hmod, Option.bind_eq_bind, Option.bind_some, DxeCh.modDesc,
    hnew, Function.update_self, Option.pure_def]
  rcases Nat.eq_zero_or_pos i with rfl | hpos
  · rw [if_pos rfl]
    simp only [initializedCh, mapBlocks, Function.update_idem, Option.some.injEq, Prod.mk.injEq,
      true_and]
    congr 1
    funext j
    have hend : (1 : ℕ) ≠ ch.desc_num := by omega
    rcases eq_or_ne j 0 with rfl | hj
    · simp only [Function.update_self, initializedDesc, Nat.zero_add, Nat.lt_irrefl, if_false,
        if_neg hend, if_pos Nat.zero_lt_one]
    · rw [Function.update_of_ne hj]
      simp only [initializedDesc, if_neg (show ¬j < 0 by omega), if_neg (show ¬j < 0 + 1 by omega)]
  · have hi0 : i ≠ 0 := by omega
    have hne : i - 1 ≠ i := by omega
    simp only [if_neg hi0, Option.bind_some, Function.update_of_ne hne,
      Function.update_of_ne hne.symm, Function.update_self]
    by_cases hlast : i < ch.desc_num - 1
    · rw [if_pos (show i < (mapBlocks ch base (i + 1) (initDescsCtl ch.dma_addr)).desc_num - 1
        from hlast)]
      simp only [mapBlocks, initializedDesc_step ch.ch_type ch.dma_addr ch.desc_num i hpos hlast]
      rfl
    · have hin : i + 1 = ch.desc_num := by omega
      have hhead : (mapBlocks ch base (i + 1) (initDescsCtl ch.dma_addr)).head_blk_ctl =
        some base := hring.head
      obtain ⟨c₀, hc₀, -⟩ := hring.ctl 0 (by omega)
      have hctl₀ : (mapBlocks ch base (i + 1) (initDescsCtl ch.dma_addr)).ctl base =
          some (initDescsCtl ch.dma_addr 0 c₀) := by
        have h := mapBlocks_ctl ch base (i + 1) 0 (initDescsCtl ch.dma_addr) (by omega)
        rwa [hc₀, Nat.add_zero] at h
      rw [if_neg (show ¬i < (mapBlocks ch base (i + 1) (initDescsCtl ch.dma_addr)).desc_num - 1
        from hlast)]
      simp only [hhead, Option.bind_some, hctl₀]
      have h := initializedDesc_last ch.ch_type ch.dma_addr ch.desc_num i hpos hin
      simp only [initializedCh, ← h, hhead]
      rfl

/-- The loop of `wcn36xx_dxe_init_descs` initializes every descriptor. -/
theorem dxeInitDescs_walk :
    ∃ prev, walk DxeCh.nextOf dxeInitDescsBody ch.desc_num 0 ch.head_blk_ctl none
      (initializedCh ch base 0) = some (prev, initializedCh ch base ch.desc_num) := by
  have hpos : ∀ j, j < ch.desc_num →
      (Support.Cycle.consecutive base ch.desc_num).pos j = base + j := fun j hj =>
    Support.Cycle.consecutive_pos hj
  have hwalk := walk_spec DxeCh.nextOf dxeInitDescsBody
    (Support.Cycle.consecutive base ch.desc_num).pos
    (fun i prev ch' => prev = (if i = 0 then none else some (i - 1)) ∧
      ch' = initializedCh ch base i) ch.desc_num
    (by
      rintro i prev _ hi ⟨rfl, rfl⟩
      obtain ⟨c, hc, hnext⟩ := hring.ctl i hi
      refine ⟨some i, initializedCh ch base (i + 1), ?_, ?_, ?_, rfl⟩
      · rw [hpos i hi, dxeInitDescsBody_spec ch base hn hring i hi]
      · have h := mapBlocks_ctl ch base (i + 1) i (initDescsCtl ch.dma_addr) (by omega)
        rw [hc, Option.map_some] at h
        rw [hpos i hi, DxeCh.nextOf, initializedCh, h, Option.map_some, ← hnext, initDescsCtl]
      · simp)
    ch.desc_num 0 none (initializedCh ch base 0) (by omega) ⟨rfl, rfl⟩
  obtain ⟨prev, _, hrun, -, rfl⟩ := hwalk
  rw [hpos 0 (by omega), Nat.add_zero] at hrun
  exact ⟨prev, by rw [hring.head]; exact hrun⟩

end InitDescs

/-- When `dma_alloc_coherent` succeeds, `wcn36xx_dxe_init_descs` returns 0, gives each control block
its descriptor, and links the descriptors. -/
theorem dxeInitDescs_spec (ch : DxeCh) (base : ℕ) (hn : 2 ≤ ch.desc_num)
    (hring : ConsecutiveRing ch base) (cpu_addr : ℕ) (dma_addr : BitVec 32) :
    dxeInitDescs (some (cpu_addr, dma_addr)) ch =
      some (initializedCh { ch with cpu_addr := some cpu_addr, dma_addr := dma_addr } base
        ch.desc_num, 0) := by
  have hring' : ConsecutiveRing
      { ch with cpu_addr := some cpu_addr, dma_addr := dma_addr } base := ⟨hring.head, hring.ctl⟩
  obtain ⟨prev, hwalk⟩ := dxeInitDescs_walk
    { ch with cpu_addr := some cpu_addr, dma_addr := dma_addr } base hn hring'
  have hstart : initializedCh { ch with cpu_addr := some cpu_addr, dma_addr := dma_addr } base 0 =
      { ch with cpu_addr := some cpu_addr, dma_addr := dma_addr, dxe := fun _ => {} } := by
    have hnone : initializedDesc ch.ch_type dma_addr ch.desc_num 0 = fun _ => {} := by
      funext j
      simp only [initializedDesc, Nat.not_lt_zero, if_false]
    simp only [initializedCh, mapBlocks_zero, hnone]
  rw [hstart] at hwalk
  simp only [dxeInitDescs, hwalk, Option.bind_eq_bind, Option.bind_some, Option.pure_def]

/-! ## The ring and its descriptors -/

/-- A channel of `n` descriptors after its control blocks and descriptors have been set up: head and
tail are the first block, the blocks form a ring, and each has its descriptor. -/
structure InitializedRing (ch₀ ch : DxeCh) (cpu_addr : ℕ) (dma_addr : BitVec 32) : Prop where
  head : ch.head_blk_ctl = some 1
  tail : ch.tail_blk_ctl = some 1
  ctl : ∀ j, j < ch₀.desc_num → ch.ctl (1 + j) = some (initDescsCtl dma_addr j
    { ctl_blk_order := j
      next := some ((Support.Cycle.consecutive 1 ch₀.desc_num).pos (j + 1)) })
  dxe : ch.dxe = initializedDesc ch₀.ch_type dma_addr ch₀.desc_num ch₀.desc_num
  rest : ch = { ch₀ with
    cpu_addr := some cpu_addr, dma_addr := dma_addr, head_blk_ctl := some 1
    tail_blk_ctl := some 1, ctl := ch.ctl, fresh := ch.fresh, dxe := ch.dxe }

/-- The size of the ring does not change. -/
theorem InitializedRing.desc_num {ch₀ ch : DxeCh} {cpu_addr : ℕ} {dma_addr : BitVec 32}
    (h : InitializedRing ch₀ ch cpu_addr dma_addr) : ch.desc_num = ch₀.desc_num := by
  rw [h.rest]

/-- When no allocation fails, `wcn36xx_dxe_allocate_ctl_block` and `wcn36xx_dxe_init_descs` set up the
ring of a channel whose memory is new. -/
theorem ringSetup_spec (ch₀ : DxeCh) (hn : 2 ≤ ch₀.desc_num) (hfresh : ch₀.fresh = 1)
    (cpu_addr : ℕ) (dma_addr : BitVec 32) :
    ∃ A ch, dxeAllocateCtlBlock (fun _ => true) ch₀ = some (A, 0) ∧
      dxeInitDescs (some (cpu_addr, dma_addr)) A = some (ch, 0) ∧
      InitializedRing ch₀ ch cpu_addr dma_addr := by
  obtain ⟨A, hA⟩ : ∃ A, A = allocatedCh ch₀ ch₀.desc_num := ⟨_, rfl⟩
  have hAn : A.desc_num = ch₀.desc_num := by rw [hA, allocatedCh]
  have hhead : A.head_blk_ctl = some 1 := by simp only [hA, allocatedCh, hfresh]
  have htail : A.tail_blk_ctl = some 1 := by simp only [hA, allocatedCh, hfresh]
  -- The control blocks.
  have hblk := dxeAllocateCtlBlock_spec ch₀ hn
  rw [← hA] at hblk
  have hctl : ∀ j, j < ch₀.desc_num → A.ctl (1 + j) = some
      { ctl_blk_order := j
        next := some ((Support.Cycle.consecutive 1 ch₀.desc_num).pos (j + 1)) } := by
    intro j hj
    have h := allocatedCh_ctl ch₀ (j := j) hj
    rwa [hfresh, ← hA] at h
  have hring : ConsecutiveRing A 1 :=
    ⟨hhead, fun j hj => ⟨_, hctl j (hAn ▸ hj), by rw [hAn]⟩⟩
  -- The descriptors.
  have hdesc := dxeInitDescs_spec A 1 (by omega) hring cpu_addr dma_addr
  obtain ⟨B, hB⟩ : ∃ B, B = { A with cpu_addr := some cpu_addr, dma_addr := dma_addr } := ⟨_, rfl⟩
  rw [← hB, hAn] at hdesc
  have hBctl : B.ctl = A.ctl := by rw [hB]
  refine ⟨A, initializedCh B 1 ch₀.desc_num, hblk, hdesc, ?_, ?_, fun j hj => ?_, ?_, ?_⟩
  · rw [hB]
    exact hhead
  · rw [hB]
    exact htail
  · have h := mapBlocks_ctl B 1 ch₀.desc_num j (initDescsCtl B.dma_addr) hj
    rw [hBctl, hctl j hj, Option.map_some] at h
    simpa only [hB, initializedCh] using h
  · rw [hB, initializedCh, hAn, hA]
    rfl
  · subst hB hA
    simp only [mapBlocks, initializedCh, allocatedCh, hfresh]

/-! ## The BD pointers -/

/-- What `wcn36xx_dxe_init_tx_bd` writes to control block `j`. -/
def initTxBdCtl (pool : DxeMemPool) (j : ℕ) (c : DxeCtl) : DxeCtl :=
  if j % 2 = 0 then
    { c with
      bd_phy_addr := pool.phy_addr + BitVec.ofNat 32 (pool.chunk_size * (j / 2))
      bd_cpu_addr := pool.virt_addr + pool.chunk_size * (j / 2) }
  else { c with bd_phy_addr := 0, bd_cpu_addr := 0 }

/-- `wcn36xx_dxe_init_tx_bd` gives the even blocks consecutive chunks of the pool, and the odd
blocks none. -/
theorem dxeInitTxBd_spec (ch : DxeCh) (base : ℕ) (hn : 2 ≤ ch.desc_num)
    (hring : ConsecutiveRing ch base) (pool : DxeMemPool) :
    dxeInitTxBd pool ch = some (mapBlocks ch base ch.desc_num (initTxBdCtl pool)) := by
  have hpos : ∀ j, j < ch.desc_num →
      (Support.Cycle.consecutive base ch.desc_num).pos j = base + j := fun j hj =>
    Support.Cycle.consecutive_pos hj
  have hwalk := walk_spec DxeCh.nextOf (dxeInitTxBdBody pool.chunk_size)
    (Support.Cycle.consecutive base ch.desc_num).pos
    (fun i bd ch' => bd = (pool.phy_addr + BitVec.ofNat 32 (pool.chunk_size * ((i + 1) / 2)),
        pool.virt_addr + pool.chunk_size * ((i + 1) / 2)) ∧
      ch' = mapBlocks ch base i (initTxBdCtl pool)) ch.desc_num
    (by
      rintro i bd _ hi ⟨rfl, rfl⟩
      obtain ⟨c, hc, hnext⟩ := hring.ctl i hi
      have hmod := mapBlocks_modCtl ch base i (initTxBdCtl pool) hc
      have hctl := mapBlocks_ctl ch base (i + 1) i (initTxBdCtl pool) (by omega)
      rw [hc, Option.map_some] at hctl
      have hnext' : DxeCh.nextOf (mapBlocks ch base (i + 1) (initTxBdCtl pool)) (base + i) =
          some (some ((Support.Cycle.consecutive base ch.desc_num).pos (i + 1))) := by
        rw [DxeCh.nextOf, hctl, Option.map_some, ← hnext, initTxBdCtl]
        split_ifs <;> rfl
      rw [hpos i hi]
      rcases Nat.mod_two_eq_zero_or_one i with heven | hodd
      · have hdiv : (i + 1) / 2 = i / 2 := by omega
        have hdiv' : (i + 1 + 1) / 2 = i / 2 + 1 := by omega
        have hf : initTxBdCtl pool i = fun c =>
            { c with
              bd_phy_addr := pool.phy_addr + BitVec.ofNat 32 (pool.chunk_size * (i / 2))
              bd_cpu_addr := pool.virt_addr + pool.chunk_size * (i / 2) } := by
          funext c
          rw [initTxBdCtl, if_pos heven]
        rw [hf] at hmod
        refine ⟨_, _, ?_, hnext', rfl, rfl⟩
        simp only [dxeInitTxBdBody, if_pos heven, hdiv, hdiv', hmod, Option.bind_eq_bind,
          Option.bind_some, Option.pure_def, Option.some.injEq, Prod.mk.injEq, and_true]
        refine ⟨?_, by rw [Nat.mul_add, Nat.mul_one, Nat.add_assoc]⟩
        rw [Nat.mul_add, Nat.mul_one, BitVec.ofNat_add, BitVec.add_assoc]
      · have hodd' : ¬i % 2 = 0 := by omega
        have hdiv : (i + 1 + 1) / 2 = (i + 1) / 2 := by omega
        have hf : initTxBdCtl pool i = fun c => { c with bd_phy_addr := 0, bd_cpu_addr := 0 } := by
          funext c
          rw [initTxBdCtl, if_neg hodd']
        rw [hf] at hmod
        refine ⟨_, _, ?_, hnext', rfl, rfl⟩
        simp only [dxeInitTxBdBody, if_neg hodd', hdiv, hmod, Option.bind_eq_bind,
          Option.bind_some, Option.pure_def])
    ch.desc_num 0 (pool.phy_addr, pool.virt_addr) ch (by omega)
    ⟨by simp, (mapBlocks_zero ch base _).symm⟩
  obtain ⟨bd, _, hrun, -, rfl⟩ := hwalk
  rw [hpos 0 (by omega), Nat.add_zero] at hrun
  simp only [dxeInitTxBd, hring.head, hrun, Option.bind_eq_bind, Option.bind_some, Option.pure_def]

/-! ## The whole set-up of a TX channel -/

/-- Control block `j` of a TX channel of `n` descriptors after the set-up. -/
def txReadyCtl (n : ℕ) (dma_addr : BitVec 32) (pool : DxeMemPool) (j : ℕ) : DxeCtl :=
  initTxBdCtl pool j (initDescsCtl dma_addr j
    { ctl_blk_order := j, next := some ((Support.Cycle.consecutive 1 n).pos (j + 1)) })

/-- The set-up of a TX channel succeeds. Head and tail are the first block, the blocks form the ring
of `desc_num` blocks, and the descriptors are those of the channel type, linked into the same
ring. -/
theorem txChSetup_spec (is_low : Bool) (n : ℕ) (hn : 2 ≤ n) (cpu_addr : ℕ) (dma_addr : BitVec 32)
    (pool : DxeMemPool) :
    ∃ ch, txChSetup is_low n (cpu_addr, dma_addr) pool = some ch ∧
      ch.head_blk_ctl = some 1 ∧ ch.tail_blk_ctl = some 1 ∧
      (∀ j, j < n → ch.ctl (1 + j) = some (txReadyCtl n dma_addr pool j)) ∧
      ch.dxe = initializedDesc (txChConfig is_low n).ch_type dma_addr n n ∧
      ch = { txChConfig is_low n with
        cpu_addr := some cpu_addr, dma_addr := dma_addr, head_blk_ctl := some 1
        tail_blk_ctl := some 1, ctl := ch.ctl, fresh := ch.fresh, dxe := ch.dxe } := by
  have hdn : (txChConfig is_low n).desc_num = n := by cases is_low <;> rfl
  have hfresh : (txChConfig is_low n).fresh = 1 := by cases is_low <;> rfl
  obtain ⟨A, C, hblk, hdesc, hC⟩ :=
    ringSetup_spec (txChConfig is_low n) (by omega) hfresh cpu_addr dma_addr
  have hCn : C.desc_num = n := hC.desc_num.trans hdn
  have hctl := hC.ctl
  have hdxe := hC.dxe
  rw [hdn] at hctl hdxe
  have hring : ConsecutiveRing C 1 := by
    refine ⟨hC.head, fun j hj => ⟨_, hctl j (hCn ▸ hj), ?_⟩⟩
    rw [hCn, initDescsCtl]
  -- The BD pointers.
  have hbd := dxeInitTxBd_spec C 1 (by omega) hring pool
  refine ⟨mapBlocks C 1 C.desc_num (initTxBdCtl pool), ?_, hC.head, hC.tail, fun j hj => ?_,
    hdxe, ?_⟩
  · simp only [txChSetup, hblk, Option.bind_eq_bind, Option.bind_some, hdesc, hbd]
  · rw [hCn, mapBlocks_ctl C 1 n j _ hj, hctl j hj]
    rfl
  · rw [mapBlocks, hC.rest]

end Wcn36xx
