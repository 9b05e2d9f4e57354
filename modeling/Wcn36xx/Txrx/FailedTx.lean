import Wcn36xx.Txrx.Release

/-!
# Frames that the driver does not take

When `wcn36xx_start_tx` returns an error, `wcn36xx_tx` frees the frame, so the driver must not keep a
reference to it. `wcn36xx_start_tx` stores the frame in `tx_ack_skb` before `wcn36xx_dxe_tx_frame` finds
that the ring is full; in that one case the reference stays. `startTx_failure` says that in every
reachable state a failure is clean exactly when the case does not apply, and that without it no frame
that was freed is handed to mac80211 later.
-/

namespace Wcn36xx

open Support (System)

/-- The case in which a failure keeps a reference: the frame asks for its status, no other frame
waits for one, and the ring is full. -/
def LeaksFrame (wcn : Wcn) (skb : SkBuff) : Prop :=
  skb.wantsStatus = true ∧ wcn.tx_ack_skb = none ∧ (wcn.txCh skb.isLow).full = true

instance (wcn : Wcn) (skb : SkBuff) : Decidable (LeaksFrame wcn skb) :=
  inferInstanceAs (Decidable (_ ∧ _ ∧ _))

/-- No frame is offered in that case. -/
def NoLeak (s : TxWorld) : TxEvent → Prop
  | .tx _ skb => ¬LeaksFrame s.wcn skb
  | _ => True

instance : ∀ s e, Decidable (NoLeak s e)
  | s, .tx _ skb => inferInstanceAs (Decidable (¬LeaksFrame s.wcn skb))
  | _, .dma _ | _, .reap _ | _, .ackInd _ | _, .config _ => isTrue trivial

/-- The driver after a call of `wcn36xx_start_tx` refers to the frame nowhere, and its references to
frames and its rings are what they were. -/
structure FailedClean (wcn wcn' : Wcn) (skb : SkBuff) : Prop where
  no_ack : ∀ f, wcn'.tx_ack_skb = some f → f.ptr ≠ skb.ptr
  no_ring : ∀ is_low k f, (wcn'.txCh is_low).slotSkb k = some f → f.ptr ≠ skb.ptr
  ack_eq : wcn'.tx_ack_skb = wcn.tx_ack_skb
  head_eq : ∀ is_low, (wcn'.txCh is_low).head_blk_ctl = (wcn.txCh is_low).head_blk_ctl
  tail_eq : ∀ is_low, (wcn'.txCh is_low).tail_blk_ctl = (wcn.txCh is_low).tail_blk_ctl
  ctl_eq : ∀ is_low, (wcn'.txCh is_low).ctl = (wcn.txCh is_low).ctl
  dxe_eq : ∀ is_low, (wcn'.txCh is_low).dxe = (wcn.txCh is_low).dxe

/-- The frames that the driver hands back between two states. -/
def handedBack (wcn wcn' : Wcn) : List SkBuff :=
  (wcn'.log.drop wcn.log.length).filterMap Effect.handsBack

/-- The frame at an address has been freed. -/
def Freed (log : List Effect) (ptr : ℕ) : Prop := ∃ f, Effect.freeTxskb f ∈ log ∧ f.ptr = ptr

/-- A freed frame has been handed back. -/
theorem Freed.released {log : List Effect} {ptr : ℕ} (h : Freed log ptr) : Released log ptr := by
  obtain ⟨f, hf, hptr⟩ := h
  exact ⟨_, hf, f, rfl, hptr⟩

/-- A call that changes only BD bytes of a channel, and not `tx_ack_skb`, fails cleanly. -/
theorem failedClean_of_writeBd {p : TxParams} {s : TxWorld} {q : Bool → List SkBuff}
    (hq : TxHoldsAll p s q) (h : FramesInv s q) {skb : SkBuff}
    (hfresh : skb.ptr ∉ s.submitted.map SkBuff.ptr) {wcn' : Wcn}
    (hch : ∀ b, ∃ addr bytes, wcn'.txCh b = (s.wcn.txCh b).writeBd addr bytes ∨
      wcn'.txCh b = s.wcn.txCh b)
    (hack : wcn'.tx_ack_skb = s.wcn.tx_ack_skb) : FailedClean s.wcn wcn' skb := by
  have hne : ∀ f ∈ s.submitted, f.ptr ≠ skb.ptr := fun f hf heq =>
    hfresh (heq ▸ List.mem_map_of_mem hf)
  refine ⟨fun f hf => ?_, fun b k f hf => ?_, hack, fun b => ?_, fun b => ?_, fun b => ?_,
    fun b => ?_⟩
  · rw [hack] at hf
    exact hne f (h.ack f hf).1
  · obtain ⟨T, D, H, hb⟩ := hq b
    have hslot : (s.wcn.txCh b).slotSkb k = some f := by
      obtain ⟨addr, bytes, heq | heq⟩ := hch b <;> rw [heq] at hf <;> exact hf
    exact hne f (h.queue_submitted ((hb.mem_iff f).mpr ⟨k, hslot⟩))
  all_goals
    obtain ⟨addr, bytes, heq | heq⟩ := hch b
    · rw [heq]
      rfl
    · rw [heq]

/-- The channels after `wcn36xx_start_tx` has filled a BD. -/
theorem txCh_filledWcn_cases (wcn : Wcn) (skb : SkBuff) (addr : ℕ) (bd : TxBd) (mac : MacConf)
    (es : List Effect) (b : Bool) :
    ∃ addr' bytes, (filledWcn wcn skb addr bd mac es).txCh b = (wcn.txCh b).writeBd addr' bytes ∨
      (filledWcn wcn skb addr bd mac es).txCh b = wcn.txCh b := by
  rcases eq_or_ne b skb.isLow with rfl | hb
  · exact ⟨addr, bd.sentBytes, Or.inl (txCh_filledWcn wcn skb addr bd mac es)⟩
  · exact ⟨addr, bd.sentBytes, Or.inr (txCh_filledWcn_ne hb addr bd mac es)⟩

/-- A failure of `wcn36xx_start_tx` is clean exactly when it does not store the frame in `tx_ack_skb` and
then find the ring full. -/
theorem failedClean_iff {p : TxParams} {s : TxWorld} {q : Bool → List SkBuff}
    (hq : TxHoldsAll p s q) (h : FramesInv s q) {sta_priv : Option ℕ} {skb : SkBuff}
    (hfresh : skb.ptr ∉ s.submitted.map SkBuff.ptr) {wcn' : Wcn} {ret : ℤ}
    (hrun : startTx s.wcn sta_priv skb = some (wcn', ret)) (hret : ret ≠ 0) :
    FailedClean s.wcn wcn' skb ↔ ¬LeaksFrame s.wcn skb := by
  obtain ⟨T, D, H, hlow⟩ := hq skb.isLow
  rcases hlow.startTx_cases hrun with ⟨-, hw, hack, rfl⟩ | ⟨hack, bd, vif_priv, mac, es, hbuilt,
      ⟨hfull, -, rfl⟩ | ⟨-, rfl, -⟩⟩
  · -- Another frame waits for its status.
    refine ⟨fun _ hleak => ?_, fun _ => failedClean_of_writeBd hq h hfresh (fun b => ?_) ?_⟩
    · rw [hleak.2.1] at hack
      cases hack
    · rcases eq_or_ne b skb.isLow with rfl | hb
      · exact ⟨_, _, Or.inl (Wcn.txCh_setTxCh _ _ _)⟩
      · exact ⟨0, [], Or.inr (Wcn.txCh_setTxCh_ne _ hb _)⟩
    · rw [Wcn.writeBd, Wcn.setTxCh_tx_ack_skb]
  · -- The ring is full, and what matters is whether the frame was stored.
    have hring : (s.wcn.txCh skb.isLow).full = true := by
      rw [hlow.full_eq]
      exact decide_eq_true hfull
    cases hw : skb.wantsStatus with
    | false =>
      refine ⟨fun _ hleak => ?_, fun _ => failedClean_of_writeBd hq h hfresh
        (txCh_filledWcn_cases s.wcn skb _ bd mac es) ?_⟩
      · have := hleak.1
        rw [hw] at this
        cases this
      · rw [Wcn.emit_tx_ack_skb]
        dsimp only
        rw [filledWcn_tx_ack_skb, hw, if_neg Bool.false_ne_true]
    | true =>
      refine ⟨fun hclean => ?_, fun hno => absurd ⟨hw, hack hw, hring⟩ hno⟩
      refine absurd rfl (hclean.no_ack skb ?_)
      rw [Wcn.emit_tx_ack_skb]
      dsimp only
      rw [filledWcn_tx_ack_skb, hw, if_pos rfl]
  · exact absurd rfl hret

/-! ## Later steps -/

/-- The frame that waits for its status has not been handed back. -/
structure AckInv (s : TxWorld) (q : Bool → List SkBuff) : Prop where
  frames : FramesInv s q
  ack : ∀ f, s.wcn.tx_ack_skb = some f → ¬Released s.wcn.log f.ptr

/-- Every step that meets the condition keeps the invariant. -/
theorem ackInv_step {p : TxParams} {s s' : TxWorld} {q q' : Bool → List SkBuff} {e : TxEvent}
    (hq : TxHoldsAll p s q) (h : AckInv s q) (hP : NoLeak s e) (hstep : TxStep p s q e s' q') :
    AckInv s' q' := by
  refine ⟨framesInv_step h.frames hstep, ?_⟩
  have hne : ∀ {skb : SkBuff}, skb.ptr ∉ s.submitted.map SkBuff.ptr → ∀ f,
      s.wcn.tx_ack_skb = some f → f.ptr ≠ skb.ptr := fun hfresh f hf heq =>
    hfresh (heq ▸ List.mem_map_of_mem (h.frames.ack f hf).1)
  cases hstep with
  | @refused sta_priv skb H hfresh _ _ _ =>
    intro f hf
    rw [Wcn.emit_tx_ack_skb, Wcn.writeBd, Wcn.setTxCh_tx_ack_skb] at hf
    rw [Wcn.emit_log, Wcn.writeBd, Wcn.setTxCh_log, released_append]
    refine not_or.mpr ⟨h.ack f hf, ?_⟩
    rintro ⟨e, he, g, hg, hptr⟩
    obtain rfl := List.mem_singleton.mp he
    exact hne hfresh f hf (by rw [← hptr, ← Option.some.inj hg])
  | @busy sta_priv skb H vif_priv bd mac es hfresh hack hhead hbuilt hfull =>
    -- The condition says that the frame does not ask for its status.
    have hw : skb.wantsStatus = false := by
      cases hw : skb.wantsStatus with
      | false => rfl
      | true =>
        obtain ⟨T, D, H', hlow⟩ := hq skb.isLow
        exact absurd ⟨hw, hack hw, hlow.full_eq.trans (decide_eq_true hfull)⟩ hP
    intro f hf
    have hf : s.wcn.tx_ack_skb = some f := by
      rw [Wcn.emit_tx_ack_skb] at hf
      dsimp only at hf
      rwa [filledWcn_tx_ack_skb, hw, if_neg Bool.false_ne_true] at hf
    rw [Wcn.emit_log]
    dsimp only
    rw [filledWcn_log, released_append, released_append]
    refine not_or.mpr ⟨not_or.mpr ⟨h.ack f hf,
      not_released_of_not_mentions fun e he => not_mentions_fill hbuilt he f.ptr⟩, ?_⟩
    rintro ⟨e, he, g, hg, hptr⟩
    simp only [List.mem_cons, List.not_mem_nil, or_false] at he
    rcases he with rfl | rfl
    · cases hg
    · exact hne hfresh f hf (by rw [← hptr, ← Option.some.inj hg])
  | @accepted sta_priv skb H vif_priv bd mac es phy kick hfresh _ _ hbuilt _ hback hreads =>
    intro f hf
    rw [Wcn.emit_tx_ack_skb, Wcn.setTxCh_tx_ack_skb, filledWcn_tx_ack_skb] at hf
    have hold : ¬Released s.wcn.log f.ptr := by
      split_ifs at hf with hw
      · obtain rfl := Option.some.inj hf
        exact fun hrel => hfresh (h.frames.released_submitted hrel)
      · exact h.ack f hf
    rw [Wcn.emit_log, Wcn.setTxCh_log, filledWcn_log, released_append, released_append]
    refine not_or.mpr ⟨not_or.mpr ⟨hold,
      not_released_of_not_mentions fun e he => not_mentions_fill hbuilt he f.ptr⟩, ?_⟩
    rintro ⟨e, he, g, hg, -⟩
    simp only [List.mem_cons, List.not_mem_nil, or_false] at he
    rcases he with rfl | rfl
    · cases hg
    · rw [hback] at hg
      cases hg
  | @dma is_low =>
    intro f hf
    unfold dmaComplete at hf ⊢
    rw [Wcn.setTxCh_tx_ack_skb] at hf
    rw [Wcn.setTxCh_log]
    exact h.ack f hf
  | @reap is_low ch fs m hfs _ =>
    intro f hf
    unfold reapedWcn at hf ⊢
    dsimp only at hf ⊢
    rw [Wcn.setTxCh_tx_ack_skb] at hf
    rw [released_append]
    refine not_or.mpr ⟨h.ack f hf, fun hrel => ?_⟩
    obtain ⟨g, hg, hptr, hwants⟩ := released_reapEffects hrel
    rw [hfs] at hg
    obtain rfl := h.frames.inj g (h.frames.queue_submitted (List.mem_of_mem_take hg)) f
      (h.frames.ack f hf).1 hptr
    rw [(h.frames.ack g hf).2] at hwants
    cases hwants
  | @ackInd status =>
    intro f hf
    cases hack : s.wcn.tx_ack_skb with
    | none =>
      rw [dxeTxAckInd_none hack] at hf
      rw [hack] at hf
      cases hf
    | some g =>
      obtain ⟨es, g', hrun, -, -⟩ := dxeTxAckInd_some hack status
      rw [hrun] at hf
      cases hf
  | config => exact h.ack

/-- What `wcn36xx_dxe_tx_ack_ind` and `wcn36xx_dxe_deinit` hand back is the frame that waits for its
status. -/
theorem handedBack_ack {wcn wcn' : Wcn}
    (hrun : wcn' = dxeDeinitTx wcn ∨ ∃ status, wcn' = dxeTxAckInd wcn status) {f : SkBuff}
    (hf : f ∈ handedBack wcn wcn') : ∃ g, wcn.tx_ack_skb = some g ∧ f.ptr = g.ptr := by
  unfold handedBack at hf
  cases hack : wcn.tx_ack_skb with
  | none =>
    have heq : wcn' = wcn := by
      rcases hrun with rfl | ⟨status, rfl⟩
      · unfold dxeDeinitTx
        rw [hack]
      · exact dxeTxAckInd_none hack status
    rw [heq, List.drop_length] at hf
    cases hf
  | some g =>
    refine ⟨g, rfl, ?_⟩
    rcases hrun with rfl | ⟨status, rfl⟩
    · unfold dxeDeinitTx at hf
      rw [hack] at hf
      simp only [Wcn.emit_log, List.drop_left, List.filterMap_cons, Effect.handsBack,
        List.filterMap_nil, List.mem_singleton] at hf
      rw [hf]
    · obtain ⟨es, g', hrun, hes, hptr⟩ := dxeTxAckInd_some hack status
      rw [hrun] at hf
      dsimp only at hf
      rw [List.append_assoc, List.drop_left] at hf
      have hf : f = g' := by
        rcases hes with rfl | rfl
        · exact List.mem_singleton.mp hf
        · exact List.mem_singleton.mp hf
      rw [hf, hptr]

/-- Five frames of 30 bytes for the TX high channel, which fill it. -/
def fiveFrames : List TxEvent :=
  (List.range 5).map fun i => .tx none (authFrame (i + 1) 30 false)

/-- In every reachable state a call of `wcn36xx_start_tx` that fails leaves no reference to its frame,
and the rings as they were, exactly when it is not the case that the frame asks for its status,
`tx_ack_skb` is free and the ring is full. In a run without that case neither
`wcn36xx_dxe_tx_ack_ind` nor `wcn36xx_dxe_deinit` hands back a frame that was freed. -/
theorem startTx_failure (p : TxParams) :
    (∀ s, (txSystem p).Reachable s → ∀ sta_priv skb wcn' ret,
      skb.ptr ∉ s.submitted.map SkBuff.ptr → startTx s.wcn sta_priv skb = some (wcn', ret) →
      ret ≠ 0 → (FailedClean s.wcn wcn' skb ↔ ¬LeaksFrame s.wcn skb)) ∧
    ∀ s, (txSystem p).ReachableWhen NoLeak s → ∀ wcn',
      (wcn' = dxeDeinitTx s.wcn ∨ ∃ status, wcn' = dxeTxAckInd s.wcn status) →
      ∀ f ∈ handedBack s.wcn wcn', ¬Freed s.wcn.log f.ptr := by
  constructor
  · intro s hs sta_priv skb wcn' ret hfresh hrun hret
    obtain ⟨q, hq, hI⟩ := txSystem_invariant (I := FramesInv) (fun _ => framesInv_init)
      (fun _ _ _ _ _ _ hI _ hTx _ => framesInv_step hI hTx) hs
    exact failedClean_iff hq hI hfresh hrun hret
  · intro s hs wcn' hwcn' f hf hfreed
    obtain ⟨q, -, hI⟩ := txSystem_invariant (I := AckInv)
      (fun s hs => ⟨framesInv_init hs, fun f hf => by rw [hs.2.1] at hf; cases hf⟩)
      (fun _ _ _ _ _ hq hI hP hTx _ => ackInv_step hq hI hP hTx) hs
    obtain ⟨g, hg, hptr⟩ := handedBack_ack hwcn' hf
    exact hI.ack g hg (hptr ▸ hfreed.released)

/-- Five accepted frames fill the TX high channel; a sixth, which does not ask for its status, is
refused and leaves nothing behind. -/
theorem startTx_failure_full_ring :
    ∃ s wcn', (txSystem driverParams).Reachable s ∧
      startTx s.wcn none (authFrame 6 30 false) = some (wcn', -EBUSY) ∧
      FailedClean s.wcn wcn' (authFrame 6 30 false) := by
  obtain ⟨s, hs, hrun⟩ : ∃ s, (txSystem driverParams).Reachable s ∧
      decide ((startTx s.wcn none (authFrame 6 30 false)).map Prod.snd = some (-EBUSY) ∧
        (authFrame 6 30 false).ptr ∉ s.submitted.map SkBuff.ptr ∧
        ¬LeaksFrame s.wcn (authFrame 6 30 false)) = true :=
    txStart_reachable oneStation fiveFrames (by decide +kernel)
  obtain ⟨hret, hfresh, hno⟩ := of_decide_eq_true hrun
  obtain ⟨⟨wcn', ret⟩, hrun, rfl⟩ := Option.map_eq_some_iff.mp hret
  exact ⟨s, wcn', hs, hrun, ((startTx_failure driverParams).1 s hs none (authFrame 6 30 false) wcn'
    (-EBUSY) hfresh hrun (by decide)).mpr hno⟩

/-- With a sixth frame that asks for its status, `tx_ack_skb` still refers to the frame that
`wcn36xx_tx` frees. -/
theorem startTx_failure_leaks :
    ∃ s wcn', (txSystem driverParams).Reachable s ∧
      startTx s.wcn none (authFrame 6 30 true) = some (wcn', -EBUSY) ∧
      ¬FailedClean s.wcn wcn' (authFrame 6 30 true) := by
  obtain ⟨s, hs, hrun⟩ : ∃ s, (txSystem driverParams).Reachable s ∧
      decide ((startTx s.wcn none (authFrame 6 30 true)).map (fun r => (r.1.tx_ack_skb, r.2)) =
        some (some (authFrame 6 30 true), -EBUSY)) = true :=
    txStart_reachable oneStation fiveFrames (by decide +kernel)
  obtain ⟨⟨wcn', ret⟩, hrun, heq⟩ := Option.map_eq_some_iff.mp (of_decide_eq_true hrun)
  obtain ⟨hack, rfl⟩ := Prod.mk.inj heq
  exact ⟨s, wcn', hs, hrun, fun hclean => hclean.no_ack _ hack rfl⟩

end Wcn36xx
