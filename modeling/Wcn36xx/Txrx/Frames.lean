import Wcn36xx.Txrx.TxSystem

/-!
# Which frames the driver refers to

A frame that has been handed over can be in a ring, in `tx_ack_skb`, in both, or in neither.
`FramesInv` says of every reachable state that the references are to frames that were handed over,
that the rings hold accepted frames only and each of them once, and that the log speaks only of
frames that were handed over.
-/

namespace Wcn36xx

open Support (System)

/-- The frame that an effect reads or hands back. -/
def Effect.frame (e : Effect) : Option SkBuff := e.handsBack <|> e.reads

/-- The addresses of the frames that an effect reads or hands back. -/
def Effect.Mentions (e : Effect) (ptr : ℕ) : Prop := ∃ skb, e.frame = some skb ∧ skb.ptr = ptr

/-- The frame at an address is handed back. -/
def Effect.Releases (e : Effect) (ptr : ℕ) : Prop := ∃ skb, e.handsBack = some skb ∧ skb.ptr = ptr

instance (e : Effect) (ptr : ℕ) : Decidable (e.Mentions ptr) :=
  decidable_of_iff (e.frame.map SkBuff.ptr = some ptr) Option.map_eq_some_iff

instance (e : Effect) (ptr : ℕ) : Decidable (e.Releases ptr) :=
  decidable_of_iff (e.handsBack.map SkBuff.ptr = some ptr) Option.map_eq_some_iff

/-- The frame at an address has been handed back. -/
def Released (log : List Effect) (ptr : ℕ) : Prop := ∃ e ∈ log, e.Releases ptr

/-- Handing a frame back mentions it. -/
theorem Effect.Releases.mentions {e : Effect} {ptr : ℕ} (h : e.Releases ptr) : e.Mentions ptr := by
  obtain ⟨skb, hskb, hptr⟩ := h
  refine ⟨skb, ?_, hptr⟩
  unfold Effect.frame
  rw [hskb]
  rfl

/-- An effect that neither reads nor hands back mentions nothing. -/
theorem Effect.not_mentions {e : Effect} (hh : e.handsBack = none) (hr : e.reads = none) (ptr : ℕ) :
    ¬e.Mentions ptr := by
  rintro ⟨skb, hskb, -⟩
  unfold Effect.frame at hskb
  rw [hh, hr] at hskb
  cases hskb

/-- Reaping mentions the frames that it reaps. -/
theorem mentions_reapEffects {stopped : Bool} {fs : List (BitVec 32 × SkBuff)} {e : Effect}
    (he : e ∈ reapEffects stopped fs) {ptr : ℕ} (h : e.Mentions ptr) :
    ∃ skb ∈ fs.map Prod.snd, skb.ptr = ptr := by
  induction fs generalizing stopped with
  | nil => cases he
  | cons f fs ih =>
    obtain ⟨addr, skb⟩ := f
    simp only [reapEffects, List.mem_append] at he
    rcases he with ((he | he) | he) | he
    · refine ⟨skb, List.mem_cons_self, ?_⟩
      obtain ⟨g, hg, rfl⟩ := h
      simp only [List.mem_cons, List.not_mem_nil, or_false] at he
      rcases he with rfl | rfl <;> exact congrArg SkBuff.ptr (Option.some.inj hg)
    · refine ⟨skb, List.mem_cons_self, ?_⟩
      obtain ⟨g, hg, rfl⟩ := h
      split_ifs at he
      · cases he
      · obtain rfl := List.mem_singleton.mp he
        exact congrArg SkBuff.ptr (Option.some.inj hg)
    · obtain ⟨g, hg, -⟩ := h
      split_ifs at he
      · obtain rfl := List.mem_singleton.mp he
        cases hg
      · cases he
    · obtain ⟨g, hg, hptr⟩ := ih he
      exact ⟨g, List.mem_cons_of_mem _ hg, hptr⟩

/-- Without a frame that waits for its status, `wcn36xx_dxe_tx_ack_ind` does nothing. -/
theorem dxeTxAckInd_none {wcn : Wcn} (h : wcn.tx_ack_skb = none) (status : BitVec 32) :
    dxeTxAckInd wcn status = wcn := by
  unfold dxeTxAckInd
  rw [h]
  cases wcn
  simp_all

/-- `wcn36xx_dxe_tx_ack_ind` hands back the frame that waits for its status. -/
theorem dxeTxAckInd_some {wcn : Wcn} {skb : SkBuff} (h : wcn.tx_ack_skb = some skb)
    (status : BitVec 32) :
    ∃ es skb', dxeTxAckInd wcn status =
        { wcn with tx_ack_skb := none, log := wcn.log ++ es ++ [.txStatus skb', .wakeQueues] } ∧
      (es = [] ∨ es = [.txInfo skb]) ∧ skb'.ptr = skb.ptr := by
  unfold dxeTxAckInd
  rw [h]
  by_cases hstatus : status = 1
  · refine ⟨[.txInfo skb], { skb with flags := skb.flags ||| IEEE80211_TX_STAT_ACK }, ?_,
      Or.inr rfl, rfl⟩
    simp only [if_pos hstatus, Wcn.emit, List.append_assoc, List.cons_append, List.nil_append]
  · refine ⟨[], skb, ?_, Or.inl rfl, rfl⟩
    simp only [if_neg hstatus, Wcn.emit, List.append_nil]

/-- What holds of the driver's references to frames in every reachable state. -/
structure FramesInv (s : TxWorld) (q : Bool → List SkBuff) : Prop where
  /-- No two frames that were handed over share an address. -/
  inj : ∀ f ∈ s.submitted, ∀ g ∈ s.submitted, f.ptr = g.ptr → f = g
  /-- Accepted frames were handed over. -/
  accepted : ∀ f ∈ s.accepted, f ∈ s.submitted
  /-- The frames in the rings were accepted. -/
  queue : ∀ is_low, ∀ f ∈ q is_low, f ∈ s.accepted
  /-- No frame is in the rings twice. -/
  nodup : (q true ++ q false).Nodup
  /-- The frame that waits for its status was handed over with a request for it. -/
  ack : ∀ f, s.wcn.tx_ack_skb = some f → f ∈ s.submitted ∧ f.wantsStatus = true
  /-- The log mentions only frames that were handed over. -/
  log : ∀ e ∈ s.wcn.log, ∀ ptr, e.Mentions ptr → ptr ∈ s.submitted.map SkBuff.ptr

namespace FramesInv

variable {s : TxWorld} {q : Bool → List SkBuff} (h : FramesInv s q)
include h

/-- A frame in a ring was handed over. -/
theorem queue_submitted {is_low : Bool} {f : SkBuff} (hf : f ∈ q is_low) : f ∈ s.submitted :=
  h.accepted f (h.queue is_low f hf)

/-- What was handed back was handed over. -/
theorem released_submitted {ptr : ℕ} (hr : Released s.wcn.log ptr) :
    ptr ∈ s.submitted.map SkBuff.ptr := by
  obtain ⟨e, he, hrel⟩ := hr
  exact h.log e he ptr hrel.mentions

/-- Handing over a frame with a new address keeps the addresses apart. -/
theorem inj_append {skb : SkBuff} (hfresh : skb.ptr ∉ s.submitted.map SkBuff.ptr) :
    ∀ f ∈ s.submitted ++ [skb], ∀ g ∈ s.submitted ++ [skb], f.ptr = g.ptr → f = g := by
  have hnew : ∀ f ∈ s.submitted, f.ptr ≠ skb.ptr := fun f hf heq =>
    hfresh (heq ▸ List.mem_map_of_mem hf)
  intro f hf g hg heq
  rw [List.mem_append, List.mem_singleton] at hf hg
  rcases hf with hf | rfl <;> rcases hg with hg | rfl
  · exact h.inj f hf g hg heq
  · exact absurd heq (hnew f hf)
  · exact absurd heq.symm (hnew g hg)
  · rfl

end FramesInv

/-- The list of all frames in the rings, when the frames of one ring change. -/
theorem nodup_update {q : Bool → List SkBuff} {is_low : Bool} {fs : List SkBuff}
    (h : (fs ++ q (!is_low)).Nodup) :
    (Function.update q is_low fs true ++ Function.update q is_low fs false).Nodup := by
  cases is_low
  · simpa [Function.update] using List.nodup_append_comm.mp h
  · simpa [Function.update] using h

/-- The frames in the rings are distinct, starting with either ring. -/
theorem FramesInv.nodup_is_low {s : TxWorld} {q : Bool → List SkBuff} (h : FramesInv s q)
    (is_low : Bool) : (q is_low ++ q (!is_low)).Nodup := by
  cases is_low
  · exact List.nodup_append_comm.mp h.nodup
  · exact h.nodup

/-- The initial state refers to no frame. -/
theorem framesInv_init {p : TxParams} {s : TxWorld} (h : (txSystem p).init s) :
    FramesInv s fun _ => [] := by
  obtain ⟨-, hack, hlog, -, hsub, hacc, -⟩ := h
  exact
    { inj := fun f hf => by rw [hsub] at hf; cases hf
      accepted := fun f hf => by rw [hacc] at hf; cases hf
      queue := fun _ f hf => by cases hf
      nodup := List.nodup_nil
      ack := fun f hf => by rw [hack] at hf; cases hf
      log := fun e he => by rw [hlog] at he; cases he }

/-- The effects of filling a BD mention no frame. -/
theorem not_mentions_fill {mac mac' : MacConf} {sta_priv : Option ℕ} {skb : SkBuff} {bd : TxBd}
    {vif_priv : ℕ} {es : List Effect}
    (hbuilt : startTxBd mac sta_priv skb = some (bd, vif_priv, mac', es)) {e : Effect}
    (he : e ∈ (if skb.wantsStatus then [Effect.stopQueues] else []) ++ es) (ptr : ℕ) :
    ¬e.Mentions ptr := by
  rcases List.mem_append.mp he with he | he
  · split_ifs at he
    · obtain rfl := List.mem_singleton.mp he
      exact Effect.not_mentions rfl rfl ptr
    · cases he
  · rcases startTxBd_effects hbuilt with rfl | ⟨sta, tid, rfl⟩
    · cases he
    · obtain rfl := List.mem_singleton.mp he
      exact Effect.not_mentions rfl rfl ptr

/-- The effects of filling a BD hand nothing back. -/
theorem handsBack_fill {mac mac' : MacConf} {sta_priv : Option ℕ} {skb : SkBuff} {bd : TxBd}
    {vif_priv : ℕ} {es : List Effect}
    (hbuilt : startTxBd mac sta_priv skb = some (bd, vif_priv, mac', es)) {e : Effect}
    (he : e ∈ (if skb.wantsStatus then [Effect.stopQueues] else []) ++ es) :
    e.handsBack = none := by
  cases hb : e.handsBack with
  | none => rfl
  | some f =>
    have hrel : e.Releases f.ptr := ⟨f, hb, rfl⟩
    exact absurd hrel.mentions (not_mentions_fill hbuilt he f.ptr)

/-- The log after `wcn36xx_start_tx` has filled a BD. -/
theorem filledWcn_log (wcn : Wcn) (skb : SkBuff) (addr : ℕ) (bd : TxBd) (mac : MacConf)
    (es : List Effect) :
    (filledWcn wcn skb addr bd mac es).log =
      wcn.log ++ ((if skb.wantsStatus then [Effect.stopQueues] else []) ++ es) := by
  unfold filledWcn
  rw [List.append_assoc]

/-- The frame that waits for its status after `wcn36xx_start_tx` has filled a BD. -/
theorem filledWcn_tx_ack_skb (wcn : Wcn) (skb : SkBuff) (addr : ℕ) (bd : TxBd) (mac : MacConf)
    (es : List Effect) :
    (filledWcn wcn skb addr bd mac es).tx_ack_skb =
      if skb.wantsStatus then some skb else wcn.tx_ack_skb := rfl

namespace FramesInv

variable {s : TxWorld} {q : Bool → List SkBuff} (h : FramesInv s q)
include h

/-- A step that hands over a frame and mentions no other frame keeps the log. -/
theorem log_append {skb : SkBuff} {es : List Effect}
    (hes : ∀ e ∈ es, ∀ ptr, e.Mentions ptr → ptr = skb.ptr) :
    ∀ e ∈ s.wcn.log ++ es, ∀ ptr, e.Mentions ptr →
      ptr ∈ (s.submitted ++ [skb]).map SkBuff.ptr := by
  intro e he ptr hptr
  rw [List.map_append, List.mem_append]
  rcases List.mem_append.mp he with he | he
  · exact Or.inl (h.log e he ptr hptr)
  · rw [hes e he ptr hptr]
    exact Or.inr (List.mem_singleton_self _)

/-- Recording a frame that asks for its status keeps what is known of `tx_ack_skb`. -/
theorem ack_append {skb : SkBuff} :
    ∀ f, (if skb.wantsStatus then some skb else s.wcn.tx_ack_skb) = some f →
      f ∈ s.submitted ++ [skb] ∧ f.wantsStatus = true := by
  intro f hf
  split_ifs at hf with hw
  · obtain rfl := Option.some.inj hf
    exact ⟨List.mem_append_right _ (List.mem_singleton_self _), hw⟩
  · exact ⟨List.mem_append_left _ (h.ack f hf).1, (h.ack f hf).2⟩

end FramesInv

/-- Every step keeps the references in order. -/
theorem framesInv_step {p : TxParams} {s s' : TxWorld} {q q' : Bool → List SkBuff} {e : TxEvent}
    (h : FramesInv s q) (hstep : TxStep p s q e s' q') : FramesInv s' q' := by
  cases hstep with
  | @refused sta_priv skb H hfresh _ _ _ =>
    exact
      { inj := h.inj_append hfresh
        accepted := fun f hf => List.mem_append_left _ (h.accepted f hf)
        queue := h.queue
        nodup := h.nodup
        ack := fun f hf => by
          rw [Wcn.emit_tx_ack_skb, Wcn.writeBd, Wcn.setTxCh_tx_ack_skb] at hf
          exact ⟨List.mem_append_left _ (h.ack f hf).1, (h.ack f hf).2⟩
        log := by
          rw [Wcn.emit_log, Wcn.writeBd, Wcn.setTxCh_log]
          refine h.log_append fun e he ptr hptr => ?_
          obtain rfl := List.mem_singleton.mp he
          obtain ⟨g, hg, rfl⟩ := hptr
          exact (congrArg SkBuff.ptr (Option.some.inj hg)).symm }
  | @busy sta_priv skb H vif_priv bd mac es hfresh _ _ hbuilt _ =>
    exact
      { inj := h.inj_append hfresh
        accepted := fun f hf => List.mem_append_left _ (h.accepted f hf)
        queue := h.queue
        nodup := h.nodup
        ack := h.ack_append
        log := by
          rw [Wcn.emit_log]
          dsimp only
          rw [filledWcn_log, List.append_assoc]
          refine h.log_append fun e he ptr hptr => ?_
          rcases List.mem_append.mp he with he | he
          · exact absurd hptr (not_mentions_fill hbuilt he ptr)
          · simp only [List.mem_cons, List.not_mem_nil, or_false] at he
            rcases he with rfl | rfl
            · exact absurd hptr (Effect.not_mentions rfl rfl ptr)
            · obtain ⟨g, hg, rfl⟩ := hptr
              exact (congrArg SkBuff.ptr (Option.some.inj hg)).symm }
  | @accepted sta_priv skb H vif_priv bd mac es phy kick hfresh _ _ hbuilt _ hback hreads =>
    -- The new frame is in no ring yet.
    have hnew : ∀ b, skb ∉ q b := fun b hmem =>
      hfresh (List.mem_map_of_mem (h.queue_submitted hmem))
    exact
      { inj := h.inj_append hfresh
        accepted := fun f hf => by
          rcases List.mem_append.mp hf with hf | hf
          · exact List.mem_append_left _ (h.accepted f hf)
          · exact List.mem_append_right _ hf
        queue := fun b f hf => by
          rcases eq_or_ne b skb.isLow with rfl | hb
          · rw [Function.update_self, List.mem_append] at hf
            rcases hf with hf | hf
            · exact List.mem_append_left _ (h.queue _ f hf)
            · exact List.mem_append_right _ hf
          · rw [Function.update_of_ne hb] at hf
            exact List.mem_append_left _ (h.queue b f hf)
        nodup := by
          refine nodup_update ?_
          have hperm : (q skb.isLow ++ [skb] ++ q (!skb.isLow)).Perm
              (skb :: (q skb.isLow ++ q (!skb.isLow))) := by
            rw [List.append_assoc]
            exact List.perm_middle
          rw [hperm.nodup_iff, List.nodup_cons]
          refine ⟨fun hmem => ?_, h.nodup_is_low skb.isLow⟩
          rcases List.mem_append.mp hmem with hmem | hmem
          · exact hnew _ hmem
          · exact hnew _ hmem
        ack := by
          intro f hf
          rw [Wcn.emit_tx_ack_skb, Wcn.setTxCh_tx_ack_skb, filledWcn_tx_ack_skb] at hf
          exact h.ack_append f hf
        log := by
          rw [Wcn.emit_log, Wcn.setTxCh_log, filledWcn_log, List.append_assoc]
          refine h.log_append fun e he ptr hptr => ?_
          rcases List.mem_append.mp he with he | he
          · exact absurd hptr (not_mentions_fill hbuilt he ptr)
          · simp only [List.mem_cons, List.not_mem_nil, or_false] at he
            rcases he with rfl | rfl
            · obtain ⟨g, hg, rfl⟩ := hptr
              exact (congrArg SkBuff.ptr (Option.some.inj hg)).symm
            · exact absurd hptr (Effect.not_mentions hback hreads ptr) }
  | @dma is_low =>
    exact
      { inj := h.inj
        accepted := h.accepted
        queue := h.queue
        nodup := h.nodup
        ack := fun f hf => by
          unfold dmaComplete at hf
          rw [Wcn.setTxCh_tx_ack_skb] at hf
          exact h.ack f hf
        log := by
          unfold dmaComplete
          rw [Wcn.setTxCh_log]
          exact h.log }
  | @reap is_low ch fs m hfs _ =>
    exact
      { inj := h.inj
        accepted := h.accepted
        queue := fun b f hf => by
          rcases eq_or_ne b is_low with rfl | hb
          · rw [Function.update_self] at hf
            exact h.queue _ f (List.mem_of_mem_drop hf)
          · rw [Function.update_of_ne hb] at hf
            exact h.queue b f hf
        nodup := by
          refine nodup_update ((h.nodup_is_low is_low).sublist ?_)
          exact List.Sublist.append (List.drop_sublist m _) (List.Sublist.refl _)
        ack := fun f hf => by
          unfold reapedWcn at hf
          dsimp only at hf
          rw [Wcn.setTxCh_tx_ack_skb] at hf
          exact h.ack f hf
        log := fun e he ptr hptr => by
          unfold reapedWcn at he
          rcases List.mem_append.mp he with he | he
          · exact h.log e he ptr hptr
          · obtain ⟨f, hf, rfl⟩ := mentions_reapEffects he hptr
            rw [hfs] at hf
            exact List.mem_map_of_mem (h.queue_submitted (List.mem_of_mem_take hf)) }
  | @ackInd status =>
    cases hack : s.wcn.tx_ack_skb with
    | none =>
      rw [dxeTxAckInd_none hack]
      exact h
    | some f =>
      obtain ⟨es, f', hrun, hes, hptr'⟩ := dxeTxAckInd_some hack status
      rw [hrun]
      exact
        { inj := h.inj
          accepted := h.accepted
          queue := h.queue
          nodup := h.nodup
          ack := fun g hg => by cases hg
          log := fun e he ptr hptr => by
            have hsub := List.mem_map_of_mem (f := SkBuff.ptr) (h.ack f hack).1
            rw [List.append_assoc] at he
            rcases List.mem_append.mp he with he | he
            · exact h.log e he ptr hptr
            rcases List.mem_append.mp he with he | he
            · rcases hes with rfl | rfl
              · cases he
              · obtain rfl := List.mem_singleton.mp he
                obtain ⟨g, hg, rfl⟩ := hptr
                rwa [← Option.some.inj hg]
            · simp only [List.mem_cons, List.not_mem_nil, or_false] at he
              rcases he with rfl | rfl
              · obtain ⟨g, hg, rfl⟩ := hptr
                rw [← Option.some.inj hg, hptr']
                exact hsub
              · exact absurd hptr (Effect.not_mentions rfl rfl ptr) }
  | config => exact ⟨h.inj, h.accepted, h.queue, h.nodup, h.ack, h.log⟩

end Wcn36xx
