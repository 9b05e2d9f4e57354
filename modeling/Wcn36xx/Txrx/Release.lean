import Wcn36xx.Txrx.Frames

/-!
# Handing frames back

A frame that asks for its TX status is referred to from its ring slot and from `tx_ack_skb`. The
reaper clears the one and the TX-ack indication the other, and the indication hands the frame back
whether or not the reaper has been there. `releasedOnce_of_ackAfterReap` says that this is all that
can go wrong: in a run in which no indication finds its frame still in a ring, an accepted frame is
handed back at most once and not touched afterwards.
-/

namespace Wcn36xx

open Support (System)

/-- After the frame at an address has been handed back, nothing reads it or hands it back again. -/
def ReleasedOnce (log : List Effect) (ptr : ℕ) : Prop :=
  log.Pairwise fun e e' => e.Releases ptr → ¬e'.Mentions ptr

instance (log : List Effect) (ptr : ℕ) : Decidable (ReleasedOnce log ptr) :=
  inferInstanceAs (Decidable (log.Pairwise _))

/-- Handing back in a longer log. -/
theorem released_append {log es : List Effect} {ptr : ℕ} :
    Released (log ++ es) ptr ↔ Released log ptr ∨ Released es ptr := by
  unfold Released
  constructor
  · rintro ⟨e, he, hrel⟩
    rcases List.mem_append.mp he with he | he
    · exact Or.inl ⟨e, he, hrel⟩
    · exact Or.inr ⟨e, he, hrel⟩
  · rintro (⟨e, he, hrel⟩ | ⟨e, he, hrel⟩)
    · exact ⟨e, List.mem_append_left _ he, hrel⟩
    · exact ⟨e, List.mem_append_right _ he, hrel⟩

/-- What is not mentioned is not handed back. -/
theorem not_released_of_not_mentions {es : List Effect} {ptr : ℕ}
    (h : ∀ e ∈ es, ¬e.Mentions ptr) : ¬Released es ptr := by
  rintro ⟨e, he, hrel⟩
  exact h e he hrel.mentions

namespace ReleasedOnce

variable {log es : List Effect} {ptr : ℕ}

/-- A longer log: the new effects are in order among themselves, and they mention the frame only if
it has not been handed back before. -/
theorem append (h : ReleasedOnce log ptr) (hes : ReleasedOnce es ptr)
    (hcross : (∃ e ∈ es, e.Mentions ptr) → ¬Released log ptr) : ReleasedOnce (log ++ es) ptr := by
  unfold ReleasedOnce
  rw [List.pairwise_append]
  refine ⟨h, hes, fun e he e' he' hrel hmen => ?_⟩
  exact hcross ⟨e', he', hmen⟩ ⟨e, he, hrel⟩

/-- Effects that do not hand the frame back are in order. -/
theorem of_not_released (h : ¬Released es ptr) : ReleasedOnce es ptr :=
  List.pairwise_of_forall_mem_list fun e he _ _ hrel => absurd ⟨e, he, hrel⟩ h

/-- Effects that do not mention the frame are in order. -/
theorem of_not_mentions (h : ∀ e ∈ es, ¬e.Mentions ptr) : ReleasedOnce es ptr :=
  of_not_released (not_released_of_not_mentions h)

end ReleasedOnce

/-- The effects of reaping one frame. -/
def reapOneEffects (stopped : Bool) (addr : BitVec 32) (skb : SkBuff) : List Effect :=
  [.dmaUnmap addr skb, .txInfo skb] ++ (if skb.wantsStatus then [] else [.freeTxskb skb]) ++
    (if stopped then [.wakeQueues] else [])

/-- Reaping one frame reads it and then hands it back, unless it waits for its status. -/
theorem reapOneEffects_spec (stopped : Bool) (addr : BitVec 32) (skb : SkBuff) (ptr : ℕ) :
    ReleasedOnce (reapOneEffects stopped addr skb) ptr ∧
      (Released (reapOneEffects stopped addr skb) ptr → skb.ptr = ptr ∧ skb.wantsStatus = false) := by
  unfold reapOneEffects ReleasedOnce
  cases hw : skb.wantsStatus <;> cases stopped <;>
    simp [Released, Effect.Releases, Effect.Mentions, Effect.handsBack, Effect.frame, Effect.reads]

/-- Reaping hands back only frames that do not wait for their status. -/
theorem released_reapEffects {stopped : Bool} {fs : List (BitVec 32 × SkBuff)} {ptr : ℕ}
    (h : Released (reapEffects stopped fs) ptr) :
    ∃ skb ∈ fs.map Prod.snd, skb.ptr = ptr ∧ skb.wantsStatus = false := by
  induction fs generalizing stopped with
  | nil =>
    obtain ⟨e, he, -⟩ := h
    cases he
  | cons f fs ih =>
    obtain ⟨addr, skb⟩ := f
    unfold reapEffects at h
    rcases released_append.mp h with h | h
    · exact ⟨skb, List.mem_cons_self, (reapOneEffects_spec stopped addr skb ptr).2 h⟩
    · obtain ⟨g, hg, hspec⟩ := ih h
      exact ⟨g, List.mem_cons_of_mem _ hg, hspec⟩

/-- Reaping frames at different addresses reads each of them only before it is handed back. -/
theorem releasedOnce_reapEffects {stopped : Bool} {fs : List (BitVec 32 × SkBuff)}
    (hnodup : (fs.map fun f => f.2.ptr).Nodup) (ptr : ℕ) :
    ReleasedOnce (reapEffects stopped fs) ptr := by
  induction fs generalizing stopped with
  | nil => exact List.Pairwise.nil
  | cons f fs ih =>
    obtain ⟨addr, skb⟩ := f
    rw [List.map_cons, List.nodup_cons] at hnodup
    unfold reapEffects
    refine ReleasedOnce.append (reapOneEffects_spec stopped addr skb ptr).1 (ih hnodup.2) ?_
    -- A later frame is at another address than the one that is handed back here.
    rintro ⟨e, he, hmen⟩ hrel
    obtain ⟨g, hg, hgptr⟩ := mentions_reapEffects he hmen
    obtain ⟨f', hf', rfl⟩ := List.mem_map.mp hg
    have hptr := ((reapOneEffects_spec stopped addr skb ptr).2 hrel).1
    exact hnodup.1 (List.mem_map.mpr ⟨f', hf', hgptr.trans hptr.symm⟩)

/-! ## The condition -/

/-- A control block of the channel's ring refers to the frame. -/
def DxeCh.holds (ch : DxeCh) (skb : SkBuff) : Bool :=
  (List.range ch.desc_num).any fun k => ch.slotSkb k = some skb

/-- The frame that waits for its status is still in a ring. -/
def ackHeld (wcn : Wcn) : Bool :=
  match wcn.tx_ack_skb with
  | some skb => (wcn.txCh true).holds skb || (wcn.txCh false).holds skb
  | none => false

/-- No TX-ack indication finds its frame still in a ring. -/
def AckAfterReap (s : TxWorld) : TxEvent → Prop
  | .ackInd _ => ackHeld s.wcn = false
  | _ => True

instance : ∀ s e, Decidable (AckAfterReap s e)
  | s, .ackInd _ => inferInstanceAs (Decidable (ackHeld s.wcn = false))
  | _, .tx _ _ | _, .dma _ | _, .reap _ | _, .config _ => isTrue trivial

/-- The blocks of a channel refer to the frames that it holds. -/
theorem TxHolds.holds_iff {p : TxParams} {is_low : Bool} {ch : DxeCh} {cursor T D H : ℕ}
    {q : List SkBuff} (h : TxHolds p is_low ch cursor T D H q) (skb : SkBuff) :
    ch.holds skb = true ↔ skb ∈ q := by
  have hn := h.ring.ready.two_le
  rw [h.mem_iff]
  unfold DxeCh.holds
  simp only [List.any_eq_true, List.mem_range, decide_eq_true_eq]
  constructor
  · rintro ⟨k, -, hk⟩
    exact ⟨k, hk⟩
  · rintro ⟨k, hk⟩
    refine ⟨k % ch.desc_num, Nat.mod_lt k (by omega), ?_⟩
    have hblk : ch.blk (k % ch.desc_num) = ch.blk k := (ch.blk_eq_iff _ _).mpr (Nat.mod_mod _ _)
    rw [← hk, DxeCh.slotSkb, DxeCh.slotSkb, hblk]

/-! ## The invariant -/

/-- What holds of accepted frames in a run in which no indication finds its frame in a ring. -/
structure ReleaseInv (s : TxWorld) (q : Bool → List SkBuff) : Prop where
  frames : FramesInv s q
  /-- A frame in a ring has not been handed back. -/
  queue : ∀ is_low, ∀ f ∈ q is_low, ¬Released s.wcn.log f.ptr
  /-- Neither has an accepted frame that waits for its status. -/
  ack : ∀ f, s.wcn.tx_ack_skb = some f → f ∈ s.accepted → ¬Released s.wcn.log f.ptr
  /-- Every accepted frame was handed back at most once and not touched afterwards. -/
  once : ∀ f ∈ s.accepted, ReleasedOnce s.wcn.log f.ptr

/-- A step that hands over a frame which it does not accept, and mentions no other frame. -/
theorem ReleaseInv.not_accepted {s s' : TxWorld} {q : Bool → List SkBuff} (h : ReleaseInv s q)
    (hframes : FramesInv s' q) {skb : SkBuff} (hfresh : skb.ptr ∉ s.submitted.map SkBuff.ptr)
    (es : List Effect) (hlog : s'.wcn.log = s.wcn.log ++ es) (hacc : s'.accepted = s.accepted)
    (hes : ∀ e ∈ es, ∀ ptr, e.Mentions ptr → ptr = skb.ptr)
    (hack : ∀ f, s'.wcn.tx_ack_skb = some f → f ∈ s.accepted → s.wcn.tx_ack_skb = some f) :
    ReleaseInv s' q := by
  -- An accepted frame is at another address.
  have hother : ∀ f ∈ s.accepted, ∀ e ∈ es, ¬e.Mentions f.ptr := fun f hf e he hmen =>
    hfresh (hes e he _ hmen ▸ List.mem_map_of_mem (h.frames.accepted f hf))
  have hkeep : ∀ f ∈ s.accepted, ¬Released s.wcn.log f.ptr → ¬Released s'.wcn.log f.ptr := by
    intro f hf hnot
    rw [hlog, released_append]
    exact not_or.mpr ⟨hnot, not_released_of_not_mentions (hother f hf)⟩
  exact
    { frames := hframes
      queue := fun b f hf => hkeep f (h.frames.queue b f hf) (h.queue b f hf)
      ack := fun f hf hacc' => by
        rw [hacc] at hacc'
        exact hkeep f hacc' (h.ack f (hack f hf hacc') hacc')
      once := fun f hf => by
        rw [hacc] at hf
        rw [hlog]
        refine (h.once f hf).append (.of_not_mentions (hother f hf)) ?_
        rintro ⟨e, he, hmen⟩
        exact absurd hmen (hother f hf e he) }

/-- A step that accepts a frame, which it reads, and hands nothing back. -/
theorem ReleaseInv.accepted {s s' : TxWorld} {q q' : Bool → List SkBuff} (h : ReleaseInv s q)
    (hframes : FramesInv s' q') {skb : SkBuff} (hfresh : skb.ptr ∉ s.submitted.map SkBuff.ptr)
    (es : List Effect) (hlog : s'.wcn.log = s.wcn.log ++ es)
    (hacc : s'.accepted = s.accepted ++ [skb])
    (hes : ∀ e ∈ es, e.handsBack = none ∧ ∀ ptr, e.Mentions ptr → ptr = skb.ptr)
    (hqueue : ∀ b, ∀ f ∈ q' b, f ∈ q b ∨ f = skb)
    (hack : ∀ f, s'.wcn.tx_ack_skb = some f → s.wcn.tx_ack_skb = some f ∨ f = skb) :
    ReleaseInv s' q' := by
  -- Nothing is handed back, and the new frame is mentioned for the first time.
  have hkeep : ∀ ptr, ¬Released s.wcn.log ptr → ¬Released s'.wcn.log ptr := by
    intro ptr hnot
    rw [hlog, released_append]
    refine not_or.mpr ⟨hnot, ?_⟩
    rintro ⟨e, he, g, hg, -⟩
    rw [(hes e he).1] at hg
    cases hg
  have hnew : ¬Released s.wcn.log skb.ptr := fun hrel => hfresh (h.frames.released_submitted hrel)
  exact
    { frames := hframes
      queue := fun b f hf => by
        rcases hqueue b f hf with hf | rfl
        · exact hkeep _ (h.queue b f hf)
        · exact hkeep _ hnew
      ack := fun f hf hmem => by
        rcases hack f hf with hold | rfl
        · rw [hacc, List.mem_append, List.mem_singleton] at hmem
          rcases hmem with hmem | rfl
          · exact hkeep _ (h.ack f hold hmem)
          · exact hkeep _ hnew
        · exact hkeep _ hnew
      once := fun f hf => by
        rw [hacc, List.mem_append, List.mem_singleton] at hf
        rw [hlog]
        have hes' : ReleasedOnce es f.ptr := by
          refine .of_not_released ?_
          rintro ⟨e, he, g, hg, -⟩
          rw [(hes e he).1] at hg
          cases hg
        rcases hf with hf | rfl
        · refine (h.once f hf).append hes' ?_
          rintro ⟨e, he, hmen⟩
          have hptr := (hes e he).2 _ hmen
          exact absurd (hptr ▸ List.mem_map_of_mem (h.frames.accepted f hf)) hfresh
        · refine ReleasedOnce.append (.of_not_mentions fun e he hmen => ?_) hes' fun _ => hnew
          exact hfresh (h.frames.log e he _ hmen) }

/-- Reaping frames of one ring. -/
theorem ReleaseInv.reap {s s' : TxWorld} {q q' : Bool → List SkBuff} (h : ReleaseInv s q)
    (hframes : FramesInv s' q') {is_low : Bool} {fs : List (BitVec 32 × SkBuff)} {m : ℕ}
    {stopped : Bool} (hlog : s'.wcn.log = s.wcn.log ++ reapEffects stopped fs)
    (hacc : s'.accepted = s.accepted) (hack : s'.wcn.tx_ack_skb = s.wcn.tx_ack_skb)
    (hfs : fs.map Prod.snd = (q is_low).take m)
    (hq' : q' = Function.update q is_low ((q is_low).drop m)) : ReleaseInv s' q' := by
  have htake : ∀ g ∈ fs.map Prod.snd, g ∈ q is_low := fun g hg => by
    rw [hfs] at hg
    exact List.mem_of_mem_take hg
  have hnodup := h.frames.nodup_is_low is_low
  obtain ⟨hlow, -, hdisj⟩ := List.nodup_append'.mp hnodup
  -- A reaped frame is not in a ring afterwards.
  have hgone : ∀ b, ∀ f ∈ q' b, f ∉ fs.map Prod.snd := by
    intro b f hf hmem
    rw [hfs] at hmem
    rw [hq'] at hf
    rcases eq_or_ne b is_low with rfl | hb
    · rw [Function.update_self] at hf
      exact List.disjoint_take_drop hlow le_rfl hmem hf
    · rw [Function.update_of_ne hb] at hf
      have hb' : b = !is_low := by cases b <;> cases is_low <;> simp_all
      exact hdisj (List.mem_of_mem_take hmem) (hb' ▸ hf)
  have hold : ∀ b, ∀ f ∈ q' b, f ∈ q b := by
    intro b f hf
    rw [hq'] at hf
    rcases eq_or_ne b is_low with rfl | hb
    · rw [Function.update_self] at hf
      exact List.mem_of_mem_drop hf
    · rwa [Function.update_of_ne hb] at hf
  exact
    { frames := hframes
      queue := fun b f hf => by
        rw [hlog, released_append]
        refine not_or.mpr ⟨h.queue b f (hold b f hf), fun hrel => ?_⟩
        obtain ⟨g, hg, hptr, -⟩ := released_reapEffects hrel
        obtain rfl := h.frames.inj g (h.frames.queue_submitted (htake g hg)) f
          (h.frames.queue_submitted (hold b f hf)) hptr
        exact hgone b g hf hg
      ack := fun f hf hmem => by
        rw [hack] at hf
        rw [hacc] at hmem
        rw [hlog, released_append]
        refine not_or.mpr ⟨h.ack f hf hmem, fun hrel => ?_⟩
        -- The reaper keeps a frame that waits for its status.
        obtain ⟨g, hg, hptr, hwants⟩ := released_reapEffects hrel
        obtain rfl := h.frames.inj g (h.frames.queue_submitted (htake g hg)) f
          (h.frames.ack f hf).1 hptr
        rw [(h.frames.ack g hf).2] at hwants
        cases hwants
      once := fun f hf => by
        rw [hacc] at hf
        rw [hlog]
        refine (h.once f hf).append (releasedOnce_reapEffects ?_ _) ?_
        · have hmap : (fs.map fun f => f.2.ptr) = (fs.map Prod.snd).map SkBuff.ptr := by
            rw [List.map_map]
            rfl
          rw [hmap, hfs]
          refine List.Nodup.map_on (fun a ha b hb hptr => ?_) (hlow.sublist (List.take_sublist _ _))
          exact h.frames.inj a (h.frames.queue_submitted (List.mem_of_mem_take ha)) b
            (h.frames.queue_submitted (List.mem_of_mem_take hb)) hptr
        · rintro ⟨e, he, hmen⟩
          obtain ⟨g, hg, hptr⟩ := mentions_reapEffects he hmen
          rw [← hptr]
          exact h.queue is_low g (htake g hg) }

/-- The frame that waits for its status is handed back, and it is in no ring. -/
theorem ReleaseInv.ackInd {s s' : TxWorld} {q : Bool → List SkBuff} (h : ReleaseInv s q)
    (hframes : FramesInv s' q) {f f' : SkBuff} (hack : s.wcn.tx_ack_skb = some f)
    (hfree : ∀ b, f ∉ q b) {es : List Effect} (hes : es = [] ∨ es = [.txInfo f])
    (hptr : f'.ptr = f.ptr) (hlog : s'.wcn.log = s.wcn.log ++ (es ++ [.txStatus f', .wakeQueues]))
    (hacc : s'.accepted = s.accepted) (hack' : s'.wcn.tx_ack_skb = none) : ReleaseInv s' q := by
  have hsub := (h.frames.ack f hack).1
  have hmen : ∀ ptr, (∃ e ∈ es ++ [.txStatus f', .wakeQueues], e.Mentions ptr) → ptr = f.ptr := by
    rintro ptr ⟨e, he, g, hg, rfl⟩
    rcases hes with rfl | rfl <;> simp only [List.nil_append, List.cons_append, List.mem_cons,
      List.not_mem_nil, or_false] at he
    · rcases he with rfl | rfl
      · rw [← Option.some.inj hg, hptr]
      · cases hg
    · rcases he with rfl | rfl | rfl
      · rw [← Option.some.inj hg]
      · rw [← Option.some.inj hg, hptr]
      · cases hg
  have honce : ∀ ptr, ReleasedOnce (es ++ [.txStatus f', .wakeQueues]) ptr := by
    intro ptr
    unfold ReleasedOnce
    rcases hes with rfl | rfl <;>
      simp [Effect.Releases, Effect.Mentions, Effect.handsBack, Effect.frame, Effect.reads]
  exact
    { frames := hframes
      queue := fun b g hg => by
        rw [hlog, released_append]
        refine not_or.mpr ⟨h.queue b g hg, ?_⟩
        rintro ⟨e, he, hrel⟩
        have heq := hmen _ ⟨e, he, hrel.mentions⟩
        obtain rfl := h.frames.inj g (h.frames.queue_submitted hg) f hsub heq
        exact hfree b hg
      ack := fun g hg => by
        rw [hack'] at hg
        cases hg
      once := fun g hg => by
        rw [hacc] at hg
        rw [hlog]
        refine (h.once g hg).append (honce _) fun hg' => ?_
        obtain rfl := h.frames.inj g (h.frames.accepted g hg) f hsub (hmen _ hg')
        exact h.ack g hack hg }

/-- Every step that meets the condition keeps the invariant. -/
theorem releaseInv_step {p : TxParams} {s s' : TxWorld} {q q' : Bool → List SkBuff} {e : TxEvent}
    (hq : TxHoldsAll p s q) (h : ReleaseInv s q) (hP : AckAfterReap s e)
    (hstep : TxStep p s q e s' q') : ReleaseInv s' q' := by
  have hframes := framesInv_step h.frames hstep
  cases hstep with
  | @refused sta_priv skb H hfresh _ _ _ =>
    refine h.not_accepted hframes hfresh [.freeTxskb skb] ?_ rfl ?_ fun f hf _ => ?_
    · rw [Wcn.emit_log, Wcn.writeBd, Wcn.setTxCh_log]
    · intro e he ptr hmen
      obtain rfl := List.mem_singleton.mp he
      obtain ⟨g, hg, rfl⟩ := hmen
      exact (congrArg SkBuff.ptr (Option.some.inj hg)).symm
    · rwa [Wcn.emit_tx_ack_skb, Wcn.writeBd, Wcn.setTxCh_tx_ack_skb] at hf
  | @busy sta_priv skb H vif_priv bd mac es hfresh _ _ hbuilt _ =>
    refine h.not_accepted hframes hfresh ((if skb.wantsStatus then [.stopQueues] else []) ++ es ++
      [.stopQueues, .freeTxskb skb]) ?_ rfl ?_ fun f hf hacc => ?_
    · rw [Wcn.emit_log]
      dsimp only
      rw [filledWcn_log, List.append_assoc]
    · intro e he ptr hmen
      rcases List.mem_append.mp he with he | he
      · exact absurd hmen (not_mentions_fill hbuilt he ptr)
      · simp only [List.mem_cons, List.not_mem_nil, or_false] at he
        rcases he with rfl | rfl
        · exact absurd hmen (Effect.not_mentions rfl rfl ptr)
        · obtain ⟨g, hg, rfl⟩ := hmen
          exact (congrArg SkBuff.ptr (Option.some.inj hg)).symm
    · -- The new frame was not accepted, so it is not this one.
      have hf : (if skb.wantsStatus then some skb else s.wcn.tx_ack_skb) = some f := hf
      split_ifs at hf with hw
      · obtain rfl := Option.some.inj hf
        exact absurd (List.mem_map_of_mem (h.frames.accepted _ hacc)) hfresh
      · exact hf
  | @accepted sta_priv skb H vif_priv bd mac es phy kick hfresh _ _ hbuilt _ hback hreads =>
    refine h.accepted hframes hfresh ((if skb.wantsStatus then [.stopQueues] else []) ++ es ++
      [.dmaMap skb, kick]) ?_ rfl ?_ (fun b f hf => ?_) fun f hf => ?_
    · rw [Wcn.emit_log, Wcn.setTxCh_log, filledWcn_log, List.append_assoc]
    · intro e he
      rcases List.mem_append.mp he with he | he
      · exact ⟨handsBack_fill hbuilt he, fun ptr hmen =>
          absurd hmen (not_mentions_fill hbuilt he ptr)⟩
      · simp only [List.mem_cons, List.not_mem_nil, or_false] at he
        rcases he with rfl | rfl
        · refine ⟨rfl, ?_⟩
          rintro ptr ⟨g, hg, rfl⟩
          exact (congrArg SkBuff.ptr (Option.some.inj hg)).symm
        · exact ⟨hback, fun ptr hmen => absurd hmen (Effect.not_mentions hback hreads ptr)⟩
    · rcases eq_or_ne b skb.isLow with rfl | hb
      · rw [Function.update_self, List.mem_append, List.mem_singleton] at hf
        exact hf
      · rw [Function.update_of_ne hb] at hf
        exact Or.inl hf
    · rw [Wcn.emit_tx_ack_skb, Wcn.setTxCh_tx_ack_skb, filledWcn_tx_ack_skb] at hf
      split_ifs at hf with hw
      · exact Or.inr (Option.some.inj hf).symm
      · exact Or.inl hf
  | @dma is_low =>
    have hlog : (dmaComplete s.wcn is_low (s.cursor is_low)).log = s.wcn.log := by
      unfold dmaComplete
      rw [Wcn.setTxCh_log]
    refine ⟨hframes, ?_, fun f hf => ?_, ?_⟩ <;> dsimp only <;> rw [hlog]
    · exact h.queue
    · unfold dmaComplete at hf
      rw [Wcn.setTxCh_tx_ack_skb] at hf
      exact h.ack f hf
    · exact h.once
  | @reap is_low ch fs m hfs _ =>
    refine h.reap hframes rfl rfl ?_ hfs rfl
    unfold reapedWcn
    dsimp only
    rw [Wcn.setTxCh_tx_ack_skb]
  | @ackInd status =>
    cases hack : s.wcn.tx_ack_skb with
    | none =>
      rw [dxeTxAckInd_none hack]
      exact h
    | some f =>
      obtain ⟨es, f', hrun, hes, hptr⟩ := dxeTxAckInd_some hack status
      refine h.ackInd hframes hack (fun b hmem => ?_) hes hptr ?_ rfl ?_
      · obtain ⟨T, D, H, hb⟩ := hq b
        have hholds := (hb.holds_iff f).mpr hmem
        unfold AckAfterReap ackHeld at hP
        rw [hack, Bool.or_eq_false_iff] at hP
        cases b
        · rw [hP.2] at hholds
          cases hholds
        · rw [hP.1] at hholds
          cases hholds
      · dsimp only
        rw [hrun, List.append_assoc]
      · dsimp only
        rw [hrun]
  | config => exact ⟨hframes, h.queue, h.ack, h.once⟩

/-- In a run in which no TX-ack indication finds its frame still in a ring, every accepted frame is
handed back at most once, and nothing reads it afterwards. -/
theorem releasedOnce_of_ackAfterReap (p : TxParams) (s : TxWorld)
    (h : (txSystem p).ReachableWhen AckAfterReap s) :
    ∀ f ∈ s.accepted, ReleasedOnce s.wcn.log f.ptr := by
  obtain ⟨q, -, hI⟩ := txSystem_invariant (I := ReleaseInv)
    (fun s hs => by
      have hframes := framesInv_init hs
      obtain ⟨-, hack, -, -, -, hacc, -⟩ := hs
      refine ⟨hframes, fun b f hf => absurd hf List.not_mem_nil, fun f hf => ?_, fun f hf => ?_⟩
      · rw [hack] at hf
        cases hf
      · rw [hacc] at hf
        cases hf)
    (fun s q e s' q' hq hI hP hTx _ => releaseInv_step hq hI hP hTx) h
  exact hI.once

/-- A frame that asks for its status and one that does not go out on the TX high channel, and the
indication comes after the reaper. -/
theorem releasedOnce_of_ackAfterReap_two_frames :
    ∃ s, (txSystem driverParams).ReachableWhen AckAfterReap s ∧ s.wcn.tx_ack_skb = none ∧
      s.accepted.length = 2 ∧ ∀ f ∈ s.accepted, ReleasedOnce s.wcn.log f.ptr := by
  obtain ⟨s, hs, hrun⟩ : ∃ s, (txSystem driverParams).ReachableWhen AckAfterReap s ∧
      decide (s.wcn.tx_ack_skb = none ∧ s.accepted.length = 2) = true :=
    txStart_reachableWhen oneStation [.tx none (authFrame 1 30 true),
      .tx none (authFrame 2 30 false), .dma false, .dma false, .dma false, .dma false, .reap false,
      .ackInd 1] (by decide +kernel)
  have hrun := of_decide_eq_true hrun
  exact ⟨s, hs, hrun.1, hrun.2, releasedOnce_of_ackAfterReap driverParams s hs⟩

/-- The TX-ack indication of a frame comes before its reap: the frame is handed back, and the reaper
then reads its length and its flags. -/
theorem releasedOnce_fails_on_early_ack :
    ∃ s, (txSystem driverParams).Reachable s ∧
      ¬∀ f ∈ s.accepted, ReleasedOnce s.wcn.log f.ptr := by
  obtain ⟨s, hs, hbad⟩ : ∃ s, (txSystem driverParams).Reachable s ∧
      decide (¬∀ f ∈ s.accepted, ReleasedOnce s.wcn.log f.ptr) = true :=
    txStart_reachable oneStation [.tx none (authFrame 1 30 true), .dma false, .dma false,
      .ackInd 1, .reap false] (by decide +kernel)
  exact ⟨s, hs, of_decide_eq_true hbad⟩

end Wcn36xx
