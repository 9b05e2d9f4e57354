import Wcn36xx.Dxe.Construct
import Wcn36xx.Main.StartFailure

/-!
# When there is no memory for a control block

`wcn36xx_dxe_allocate_ctl_block` cleans up after itself: it frees the blocks that it has allocated for
its channel. Its caller `wcn36xx_dxe_alloc_ctl_blks` then frees the rings of all four channels, through
head pointers that nobody has reset. The two together are right exactly when the channel that has
failed, and those that have not been tried yet, have a null head pointer (`cleansUp_iff`).
-/

namespace Wcn36xx

open Support (Instr runOps runScript runScript_append)

/-- The four channels hold no control blocks: a head pointer is null, as before the first start, or
left from a ring that has been freed. No block is at an address that `kzalloc` has not returned
yet. -/
structure Dev.BlocksFreed (dev : Dev) : Prop where
  head : ∀ c, (dev.ch c).head_blk_ctl = none ∨
    ∃ p, (dev.ch c).head_blk_ctl = some p ∧ (dev.ch c).ctl p = none
  fresh : ∀ c p, (dev.ch c).fresh ≤ p → (dev.ch c).ctl p = none

/-- `wcn36xx_dxe_alloc_ctl_blks` returns `-ENOMEM`, and the same control blocks are allocated as before
the call, with the same contents: what it has allocated, it has freed. A block that is freed twice, or
looked at after it has been freed, is a fault. -/
def CleansUp (n : RingSizes) (env : CallEnv) (dev : Dev) : Prop :=
  ∃ dev', runScript (exec n env) dxeAllocCtlBlks dev = some (dev', -ENOMEM) ∧
    ∀ c, (dev'.ch c).ctl = (dev.ch c).ctl

/-- Before the first start. -/
theorem Dev.blocksFreed_init : ({} : Dev).BlocksFreed where
  head c := .inl (by cases c <;> rfl)
  fresh c _ _ := by cases c <;> rfl

/-- After `wcn36xx_dxe_free_ctl_blks` has freed four rings, every head pointer is left behind. -/
theorem Dev.blocksFreed_of_freeCtlBlks {n : RingSizes} {env : CallEnv} {dev dev' : Dev}
    (hring : ∀ c, ∃ base, RingAt (dev.ch c) base)
    (hfresh : ∀ c p, (dev.ch c).fresh ≤ p → (dev.ch c).ctl p = none)
    (hrun : runOps (exec n env) dxeFreeCtlBlks dev = some dev') :
    dev'.BlocksFreed ∧ ∀ c, (dev'.ch c).head_blk_ctl ≠ none := by
  have hfree := runOps_freeCtlBlks hrun
  have hhead : ∀ c, ∃ p, (dev'.ch c).head_blk_ctl = some p ∧ (dev'.ch c).ctl p = none := by
    intro c
    obtain ⟨base, h⟩ := hring c
    obtain ⟨k, hk⟩ := h.head
    refine ⟨_, ?_, dxeFreeCtlBlock_head hk h.pos (hfree c)⟩
    rw [(dxeFreeCtlBlock_frame (hfree c)).1]
    exact hk
  constructor
  · constructor
    · exact fun c => .inr (hhead c)
    · intro c p hp
      obtain ⟨hframe, hnone⟩ := dxeFreeCtlBlock_frame (hfree c)
      rw [hframe] at hp
      exact hnone p (hfresh c p hp)
  · intro c
    obtain ⟨p, hp, -⟩ := hhead c
    rw [hp]
    exact Option.some_ne_none p

/-! ## The steps of `wcn36xx_dxe_alloc_ctl_blks` -/

section Run

variable (n : RingSizes) (env : CallEnv)

/-- What the assignments to a channel leave as it is. -/
theorem DxeCh.configure_keeps (ch : DxeCh) (num : ℕ) (c : DxeChType) :
    (ch.configure num c).desc_num = num ∧ (ch.configure num c).head_blk_ctl = ch.head_blk_ctl ∧
      (ch.configure num c).ctl = ch.ctl ∧ (ch.configure num c).fresh = ch.fresh := by
  cases c <;> exact ⟨rfl, rfl, rfl, rfl⟩

/-- The assignments of `wcn36xx_dxe_alloc_ctl_blks`. -/
theorem runScript_dxeConfigure (dev : Dev) :
    ∃ dev', runScript (exec n env) dxeConfigure dev = some (dev', 0) ∧
      ∀ c, dev'.ch c = (dev.ch c).configure (n.num c) c := by
  refine ⟨_, rfl, fun c => ?_⟩
  cases c <;> rfl

/-- The calls of `wcn36xx_dxe_allocate_ctl_block` for some channels. -/
def allocateCtlBlocks (cs : List DxeChType) : List (Instr LifeOp) :=
  cs.map fun c => ⟨.allocateCtlBlock c, some dxeFreeCtlBlks⟩

/-- With enough memory for some channels, they get their rings, and the others are as before. -/
theorem runScript_allocateCtlBlocks {cs : List DxeChType} (hcs : cs.Nodup) (dev : Dev)
    (hn : ∀ c ∈ cs, 2 ≤ (dev.ch c).desc_num)
    (hok : ∀ c ∈ cs, ∀ i, i < (dev.ch c).desc_num → env.kzalloc c i = true) :
    ∃ dev', runScript (exec n env) (allocateCtlBlocks cs) dev = some (dev', 0) ∧
      (∀ c ∈ cs, dev'.ch c = allocatedCh (dev.ch c) (dev.ch c).desc_num) ∧
      ∀ c, c ∉ cs → dev'.ch c = dev.ch c := by
  induction cs generalizing dev with
  | nil => exact ⟨dev, rfl, nofun, fun _ _ => rfl⟩
  | cons c cs ih =>
    obtain ⟨hnot, hcs'⟩ := List.nodup_cons.mp hcs
    have hself := List.mem_cons_self (a := c) (l := cs)
    obtain ⟨dev₁, hdev₁⟩ : ∃ dev₁, dev₁ =
        dev.setCh c (allocatedCh (dev.ch c) (dev.ch c).desc_num) := ⟨_, rfl⟩
    have hother : ∀ c', c' ≠ c → dev₁.ch c' = dev.ch c' := by
      intro c' hne
      rw [hdev₁, dev.ch_setCh_ne hne]
    have hexec : exec n env (.allocateCtlBlock c) dev = some (dev₁, 0) := by
      rw [exec, dxeAllocateCtlBlock_ok _ _ (hn c hself) (hok c hself), hdev₁]
      rfl
    have hne : ∀ c' ∈ cs, c' ≠ c := fun c' hmem heq => hnot (heq ▸ hmem)
    obtain ⟨dev', hrun, hin, hout⟩ := ih hcs' dev₁
      (fun c' hmem => by
        rw [hother c' (hne c' hmem)]
        exact hn c' (List.mem_cons_of_mem c hmem))
      (fun c' hmem => by
        rw [hother c' (hne c' hmem)]
        exact hok c' (List.mem_cons_of_mem c hmem))
    refine ⟨dev', ?_, fun c' hmem => ?_, fun c' hmem => ?_⟩
    · rw [allocateCtlBlocks, List.map_cons, runScript, hexec]
      exact hrun
    · rcases List.mem_cons.mp hmem with rfl | hmem'
      · rw [hout c' hnot, hdev₁, Dev.ch_setCh]
      · rw [hin c' hmem', hother c' (hne c' hmem')]
    · rw [List.mem_cons, not_or] at hmem
      rw [hout c' hmem.2, hother c' hmem.1]

/-- `wcn36xx_dxe_free_ctl_blks` does not fault when none of its four calls does. -/
theorem exists_runOps_freeCtlBlks (dev : Dev)
    (h : ∀ c, ∃ ch, dxeFreeCtlBlock (dev.ch c) = some ch) :
    ∃ dev', runOps (exec n env) dxeFreeCtlBlks dev = some dev' := by
  obtain ⟨ch₁, h₁⟩ := h .txL
  obtain ⟨ch₂, h₂⟩ := h .txH
  obtain ⟨ch₃, h₃⟩ := h .rxL
  obtain ⟨ch₄, h₄⟩ := h .rxH
  have hstep : ∀ {c : DxeChType} {d : Dev} {ch : DxeCh}, dxeFreeCtlBlock (d.ch c) = some ch →
      exec n env (.freeCtlBlock c) d = some (d.setCh c ch, 0) := by
    intro c d ch hfree
    rw [exec, hfree]
    rfl
  obtain ⟨d₁, hd₁⟩ : ∃ d₁, d₁ = dev.setCh .txL ch₁ := ⟨_, rfl⟩
  obtain ⟨d₂, hd₂⟩ : ∃ d₂, d₂ = d₁.setCh .txH ch₂ := ⟨_, rfl⟩
  obtain ⟨d₃, hd₃⟩ : ∃ d₃, d₃ = d₂.setCh .rxL ch₃ := ⟨_, rfl⟩
  -- Each call frees its channel as it was before the others.
  have e₁ : exec n env (.freeCtlBlock .txL) dev = some (d₁, 0) := hd₁ ▸ hstep h₁
  have e₂ : exec n env (.freeCtlBlock .txH) d₁ = some (d₂, 0) := by
    rw [hd₂]
    exact hstep (by rw [hd₁]; exact h₂)
  have e₃ : exec n env (.freeCtlBlock .rxL) d₂ = some (d₃, 0) := by
    rw [hd₃]
    exact hstep (by rw [hd₂, hd₁]; exact h₃)
  have e₄ : exec n env (.freeCtlBlock .rxH) d₃ = some (d₃.setCh .rxH ch₄, 0) :=
    hstep (by rw [hd₃, hd₂, hd₁]; exact h₄)
  refine ⟨d₃.setCh .rxH ch₄, ?_⟩
  simp only [dxeFreeCtlBlks, runOps, e₁, e₂, e₃, e₄, Option.bind_some]

/-- The channels that come before a channel, and the calls from it on. -/
theorem dxeAllocCtlBlks_split (c : DxeChType) :
    ∃ before rest, before.Nodup ∧ (∀ c', c' ∈ before ↔ ctlStep c' < ctlStep c) ∧
      dxeAllocCtlBlks = dxeConfigure ++ (allocateCtlBlocks before ++
        (⟨.allocateCtlBlock c, some dxeFreeCtlBlks⟩ :: rest)) := by
  cases c with
  | txL => exact ⟨[], _, by decide, fun c' => by cases c' <;> decide, rfl⟩
  | txH => exact ⟨[.txL], _, by decide, fun c' => by cases c' <;> decide, rfl⟩
  | rxL => exact ⟨[.txL, .txH], _, by decide, fun c' => by cases c' <;> decide, rfl⟩
  | rxH => exact ⟨[.txL, .txH, .rxL], _, by decide, fun c' => by cases c' <;> decide, rfl⟩

end Run

/-! ## The failure -/

section Failure

variable {n : RingSizes} {env : CallEnv} {dev : Dev} {c : DxeChType} {k : ℕ}

/-- Up to the channel that fails, the channels before it get their rings, and the others are only
configured. -/
theorem runScript_dxeAllocCtlBlks (dev : Dev)
    (hbefore : ∀ c', ctlStep c' < ctlStep c → ∀ i, i < n.num c' → env.kzalloc c' i = true) :
    ∃ (d : Dev) (rest : List (Instr LifeOp)),
      runScript (exec n env) dxeAllocCtlBlks dev =
        runScript (exec n env) (⟨.allocateCtlBlock c, some dxeFreeCtlBlks⟩ :: rest) d ∧
      (∀ c', ctlStep c' < ctlStep c →
        d.ch c' = allocatedCh ((dev.ch c').configure (n.num c') c') (n.num c')) ∧
      ∀ c', ctlStep c ≤ ctlStep c' → d.ch c' = (dev.ch c').configure (n.num c') c' := by
  obtain ⟨before, rest, hnodup, hmem, hsplit⟩ := dxeAllocCtlBlks_split c
  obtain ⟨dev₁, hrun₁, hch₁⟩ := runScript_dxeConfigure n env dev
  have hnum : ∀ c', (dev₁.ch c').desc_num = n.num c' := by
    intro c'
    rw [hch₁]
    exact ((dev.ch c').configure_keeps (n.num c') c').1
  obtain ⟨d, hrun₂, hin, hout⟩ := runScript_allocateCtlBlocks n env hnodup dev₁
    (fun c' _ => by
      rw [hnum]
      exact n.two_le c')
    (fun c' hc' => by
      rw [hnum]
      exact hbefore c' ((hmem c').mp hc'))
  refine ⟨d, rest, ?_, fun c' hlt => ?_, fun c' hle => ?_⟩
  · rw [hsplit, runScript_append hrun₁, runScript_append hrun₂]
  · rw [hin c' ((hmem c').mpr hlt), hnum, hch₁]
  · rw [hout c' fun hc' => absurd ((hmem c').mp hc') (by omega), hch₁]

/-- When the allocation for a channel fails after it has freed what it had, all four rings are freed. -/
theorem runScript_allocateCtlBlock_fail {d : Dev} {ch : DxeCh} {rest : List (Instr LifeOp)}
    (hch : dxeAllocateCtlBlock (env.kzalloc c) (d.ch c) =
      (dxeFreeCtlBlock ch).map fun ch => (ch, -ENOMEM)) :
    runScript (exec n env) (⟨.allocateCtlBlock c, some dxeFreeCtlBlks⟩ :: rest) d =
      (dxeFreeCtlBlock ch).bind fun ch =>
        (runOps (exec n env) dxeFreeCtlBlks (d.setCh c ch)).map fun d => (d, -ENOMEM) := by
  have hret : (-ENOMEM : ℤ) ≠ 0 := by decide
  rw [runScript, exec, hch]
  cases dxeFreeCtlBlock ch with
  | none => rfl
  | some ch => simp only [Option.map_some, Option.bind_some, if_neg hret]

/-- A channel without blocks of which the head pointer is not null cannot be freed. -/
theorem dxeFreeCtlBlock_stale (hdev : dev.BlocksFreed) {c' : DxeChType}
    (hhead : (dev.ch c').head_blk_ctl ≠ none) :
    dxeFreeCtlBlock ((dev.ch c').configure (n.num c') c') = none := by
  obtain ⟨hnum, hhead', hctl, -⟩ := (dev.ch c').configure_keeps (n.num c') c'
  obtain ⟨p, hp, hgone⟩ := (hdev.head c').resolve_left hhead
  have htwo := n.two_le c'
  apply dxeFreeCtlBlock_dangling
  · rw [hhead', hp]
  · omega
  · rw [hctl, hgone]

/-- A ring that has just been allocated can be freed, and nothing of it is left. -/
theorem dxeFreeCtlBlock_configured (hdev : dev.BlocksFreed) (c' : DxeChType) :
    ∃ ch, dxeFreeCtlBlock (allocatedCh ((dev.ch c').configure (n.num c') c') (n.num c')) = some ch ∧
      ch.ctl = (dev.ch c').ctl := by
  obtain ⟨hnum, -, hctl, hfresh⟩ := (dev.ch c').configure_keeps (n.num c') c'
  have hring := ringAt_allocatedCh ((dev.ch c').configure (n.num c') c')
    (by rw [hnum]; exact n.two_le c')
  rw [hnum] at hring
  obtain ⟨ch, hrun, -, hfreed, hkept⟩ := hring.free
  refine ⟨ch, hrun, funext fun p => ?_⟩
  have hdesc : (allocatedCh ((dev.ch c').configure (n.num c') c') (n.num c')).desc_num =
    n.num c' := hnum
  rw [hdesc, hfresh] at hfreed hkept
  -- The addresses of the ring were free before, and the others have not changed.
  by_cases hp : (dev.ch c').fresh ≤ p ∧ p < (dev.ch c').fresh + n.num c'
  · rw [hfreed p hp.1 hp.2, hdev.fresh c' p hp.1]
  · rw [hkept p hp, allocatedCh, hfresh]
    dsimp only
    rw [if_neg hp, hctl]

variable (hdev : dev.BlocksFreed) (hk : k < n.num c)
  (hbefore : ∀ c', ctlStep c' < ctlStep c → ∀ i, i < n.num c' → env.kzalloc c' i = true)
  (hok : ∀ i, i < k → env.kzalloc c i = true) (hfail : env.kzalloc c k = false)
include hdev hk hbefore hok hfail

omit hk hok in
/-- When the first block of a channel cannot be allocated, and neither this channel nor a later one has
a head pointer, what has been allocated is freed once. -/
theorem cleansUp_of_first (hzero : k = 0)
    (hnull : ∀ c', ctlStep c ≤ ctlStep c' → (dev.ch c').head_blk_ctl = none) :
    CleansUp n env dev := by
  subst hzero
  obtain ⟨d, rest, hrun, hringed, hconf⟩ := runScript_dxeAllocCtlBlks dev hbefore
  have hnone : ∀ c', ctlStep c ≤ ctlStep c' → dxeFreeCtlBlock (d.ch c') = some (d.ch c') := by
    intro c' hle
    apply dxeFreeCtlBlock_none
    rw [hconf c' hle, ((dev.ch c').configure_keeps (n.num c') c').2.1]
    exact hnull c' hle
  have hn : 2 ≤ (d.ch c).desc_num := by
    rw [hconf c (Nat.le_refl _), ((dev.ch c).configure_keeps (n.num c) c).1]
    exact n.two_le c
  -- The channel is written back as it was.
  have hself : ∀ c', (d.setCh c (d.ch c)).ch c' = d.ch c' := by
    intro c'
    rcases eq_or_ne c' c with rfl | hne
    · rw [Dev.ch_setCh]
    · rw [d.ch_setCh_ne hne]
  have hfree : ∀ c', ∃ ch, dxeFreeCtlBlock (d.ch c') = some ch ∧ ch.ctl = (dev.ch c').ctl := by
    intro c'
    rcases Nat.lt_or_ge (ctlStep c') (ctlStep c) with hlt | hle
    · rw [hringed c' hlt]
      exact dxeFreeCtlBlock_configured hdev c'
    · refine ⟨d.ch c', hnone c' hle, ?_⟩
      rw [hconf c' hle, ((dev.ch c').configure_keeps (n.num c') c').2.2.1]
  obtain ⟨dev', hfreed⟩ := exists_runOps_freeCtlBlks n env (d.setCh c (d.ch c)) fun c' => by
      obtain ⟨ch, hch, -⟩ := hfree c'
      exact ⟨ch, by rw [hself, hch]⟩
  refine ⟨dev', ?_, fun c' => ?_⟩
  · rw [hrun, runScript_allocateCtlBlock_fail (dxeAllocateCtlBlock_fail_zero _ _ hn hfail),
      hnone c (Nat.le_refl _), Option.bind_some, hfreed]
    rfl
  · obtain ⟨ch, hch, hctl⟩ := hfree c'
    have hsame := runOps_freeCtlBlks hfreed c'
    rw [hself, hch, Option.some.injEq] at hsame
    rw [← hsame, hctl]

/-- When a head pointer is not null, or a later block cannot be allocated, a block is freed twice. -/
theorem first_of_cleansUp (hclean : CleansUp n env dev) :
    k = 0 ∧ ∀ c', ctlStep c ≤ ctlStep c' → (dev.ch c').head_blk_ctl = none := by
  obtain ⟨dev', hrun, -⟩ := hclean
  obtain ⟨d, rest, heq, -, hconf⟩ := runScript_dxeAllocCtlBlks dev hbefore
  have hdesc : (d.ch c).desc_num = n.num c := by
    rw [hconf c (Nat.le_refl _)]
    exact ((dev.ch c).configure_keeps (n.num c) c).1
  have hn : 2 ≤ (d.ch c).desc_num := by
    rw [hdesc]
    exact n.two_le c
  rw [heq] at hrun
  rcases Nat.eq_zero_or_pos k with rfl | hpos
  · refine ⟨rfl, fun c' hle => ?_⟩
    by_contra hhead
    have hstale := dxeFreeCtlBlock_stale (n := n) hdev hhead
    rw [← hconf c' hle] at hstale
    rw [runScript_allocateCtlBlock_fail (dxeAllocateCtlBlock_fail_zero _ _ hn hfail)] at hrun
    obtain ⟨ch, hch, hrun⟩ := Option.bind_eq_some_iff.mp hrun
    obtain ⟨d', hfreed, -⟩ := Option.map_eq_some_iff.mp hrun
    rcases eq_or_ne c' c with rfl | hne
    · -- The failing channel is freed at once.
      rw [hstale] at hch
      cases hch
    · -- A later channel is freed with the others.
      have hfree := runOps_freeCtlBlks hfreed c'
      rw [d.ch_setCh_ne hne, hstale] at hfree
      cases hfree
  · -- The blocks of the failing channel are freed by the function and again by its caller.
    exfalso
    rw [runScript_allocateCtlBlock_fail
      (dxeAllocateCtlBlock_fail _ _ hn hpos (by rw [hdesc]; exact hk) hok hfail)] at hrun
    obtain ⟨ch, hch, hrun⟩ := Option.bind_eq_some_iff.mp hrun
    obtain ⟨d', hfreed, -⟩ := Option.map_eq_some_iff.mp hrun
    have hfree := runOps_freeCtlBlks hfreed c
    have hlen : 0 < (allocatedCh (d.ch c) k).desc_num := Nat.lt_of_lt_of_le Nat.zero_lt_two hn
    rw [Dev.ch_setCh, dxeFreeCtlBlock_twice (Option.some_ne_none _) hlen hch] at hfree
    cases hfree

/-- A `kzalloc` that fails in `wcn36xx_dxe_alloc_ctl_blks`, for any channel and at any index, whether the
head pointers are null or left from rings that have been freed: everything is freed once exactly when
it is the first `kzalloc` for its channel, and this channel and the later ones have null head
pointers. -/
theorem cleansUp_iff : CleansUp n env dev ↔
    k = 0 ∧ ∀ c', ctlStep c ≤ ctlStep c' → (dev.ch c').head_blk_ctl = none := by
  constructor
  · exact first_of_cleansUp hdev hk hbefore hok hfail
  · rintro ⟨hzero, hnull⟩
    exact cleansUp_of_first hdev hbefore hfail hzero hnull

end Failure

/-- On the first start, with no memory for the first block of the low priority RX channel. -/
theorem cleansUp_iff_first_rx :
    CleansUp driverSizes { kzalloc := fun c _ => c != .rxL } {} := by
  refine (cleansUp_iff (c := .rxL) (k := 0) Dev.blocksFreed_init (by decide) ?_ nofun rfl).mpr
    ⟨rfl, fun c' _ => ?_⟩
  · intro c' hlt i _
    cases c' with
    | txL | txH => rfl
    | rxL | rxH => exact absurd hlt (by decide)
  · cases c' <;> rfl

/-- On the first start, with no memory for the second block of the first channel. -/
theorem cleansUp_fails_at_second :
    ¬CleansUp driverSizes { kzalloc := fun _ i => i != 1 } {} := by
  intro hclean
  have hfirst := first_of_cleansUp (c := .txL) (k := 1) Dev.blocksFreed_init (by decide)
    (fun c' hlt => by cases c' <;> exact absurd hlt (by decide))
    (fun i hi => bne_iff_ne.mpr (Nat.ne_of_lt hi)) rfl hclean
  exact absurd hfirst.1 Nat.one_ne_zero

end Wcn36xx
