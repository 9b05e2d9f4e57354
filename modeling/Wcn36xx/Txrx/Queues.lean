import Wcn36xx.Txrx.Release

/-!
# The mac80211 queues

The driver stops the queues for two reasons: a frame waits for its TX status in `tx_ack_skb`, and a ring
was found full, which it notes in `queues_stopped`. `wcn36xx_dxe_tx_ack_ind` and `reap_tx_dxes` each end one
of the reasons, and wake all queues.

`no_stall` says that queues that are stopped are going to be woken: in every reachable state one of the two
functions has something to do that wakes them. The other way round it can be too early: each of them looks
at its own reason only. `stopped_of_wakesAlone` says that apart from these steps, the queues are stopped as
long as one of the reasons holds.
-/

namespace Wcn36xx

open Support (System)

/-! ## The state of the queues -/

/-- The queues after a call. -/
def Effect.queues (stopped : Bool) : Effect → Bool
  | .stopQueues => true
  | .wakeQueues => false
  | _ => stopped

/-- Whether the queues are stopped after the calls in a log, when they were awake before. -/
def queuesStopped (log : List Effect) : Bool := log.foldl Effect.queues false

/-- Other calls leave the queues as they are. -/
theorem queuesStopped_append {log es : List Effect} (h : ∀ e ∈ es, e.leavesQueues = true) :
    queuesStopped (log ++ es) = queuesStopped log := by
  have hfold : ∀ b, es.foldl Effect.queues b = b := by
    induction es with
    | nil => exact fun _ => rfl
    | cons e es ih =>
      intro b
      have he : Effect.queues b e = b := by
        have := h e List.mem_cons_self
        cases e <;> first | rfl | cases this
      rw [List.foldl_cons, he]
      exact ih (fun e he => h e (List.mem_cons_of_mem _ he)) b
  rw [queuesStopped, List.foldl_append, hfold]
  rfl

/-- The last call decides. -/
theorem queuesStopped_concat (log : List Effect) (e : Effect) :
    queuesStopped (log ++ [e]) = Effect.queues (queuesStopped log) e := by
  rw [queuesStopped, List.foldl_append]
  rfl

/-- After the queues have been stopped, other calls leave them stopped. -/
theorem queuesStopped_stop {log es : List Effect} (h : ∀ e ∈ es, e.leavesQueues = true) :
    queuesStopped (log ++ Effect.stopQueues :: es) = true := by
  rw [List.append_cons, queuesStopped_append h, queuesStopped_concat]
  rfl

/-- Filling a BD stops the queues if the frame waits for its status. -/
theorem queuesStopped_filledWcn {wcn : Wcn} {skb : SkBuff} {addr : ℕ} {bd : TxBd} {mac : MacConf}
    {es : List Effect} {sta_priv : Option ℕ} {vif_priv : ℕ}
    (hbuilt : startTxBd wcn.mac sta_priv skb = some (bd, vif_priv, mac, es)) :
    queuesStopped (filledWcn wcn skb addr bd mac es).log =
      (skb.wantsStatus || queuesStopped wcn.log) := by
  have hes : ∀ e ∈ es, e.leavesQueues = true := by
    rcases startTxBd_effects hbuilt with rfl | ⟨sta, tid, rfl⟩
    · exact nofun
    · intro e he
      rw [List.mem_singleton.mp he]
      rfl
  unfold filledWcn
  dsimp only
  rw [queuesStopped_append hes]
  cases skb.wantsStatus
  · rw [if_neg Bool.false_ne_true, List.append_nil, Bool.false_or]
  · rw [if_pos rfl, queuesStopped_concat]
    rfl

/-- Handing the filled frame to the device does not touch the queues. -/
theorem queuesStopped_accepted {wcn : Wcn} {skb : SkBuff} {addr : ℕ} {bd : TxBd} {mac : MacConf}
    {es : List Effect} {sta_priv : Option ℕ} {vif_priv : ℕ}
    (hbuilt : startTxBd wcn.mac sta_priv skb = some (bd, vif_priv, mac, es)) {kick : Effect}
    (hkick : kick.leavesQueues = true) (is_low : Bool) (ch : DxeCh) :
    queuesStopped (((filledWcn wcn skb addr bd mac es).setTxCh is_low ch).emit
      [.dmaMap skb, kick]).log = (skb.wantsStatus || queuesStopped wcn.log) := by
  have hes : ∀ e ∈ [Effect.dmaMap skb, kick], e.leavesQueues = true := by
    intro e he
    simp only [List.mem_cons, List.not_mem_nil, or_false] at he
    rcases he with rfl | rfl
    · rfl
    · exact hkick
  rw [Wcn.emit_log, queuesStopped_append hes, Wcn.setTxCh_log, queuesStopped_filledWcn hbuilt]

@[simp]
theorem filledWcn_queues_stopped (wcn : Wcn) (skb : SkBuff) (addr : ℕ) (bd : TxBd) (mac : MacConf)
    (es : List Effect) :
    (filledWcn wcn skb addr bd mac es).queues_stopped = wcn.queues_stopped := by
  unfold filledWcn Wcn.writeBd
  exact Wcn.setTxCh_queues_stopped _ _ _

/-- Reaping frames wakes the queues if `queues_stopped` is set. -/
theorem queuesStopped_reapEffects {log : List Effect} {stopped : Bool}
    {fs : List (BitVec 32 × SkBuff)} :
    queuesStopped (log ++ reapEffects stopped fs) =
      (queuesStopped log && (fs.isEmpty || !stopped)) := by
  induction fs generalizing stopped log with
  | nil => rw [reapEffects, List.append_nil, List.isEmpty_nil, Bool.true_or, Bool.and_true]
  | cons f fs ih =>
    obtain ⟨addr, skb⟩ := f
    rw [reapEffects, ← List.append_assoc, ih, Bool.not_false, Bool.or_true, Bool.and_true,
      List.isEmpty_cons, Bool.false_or, ← List.append_assoc]
    have hleaves : ∀ e ∈ [Effect.dmaUnmap addr skb, .txInfo skb] ++
        (if skb.wantsStatus then [] else [.freeTxskb skb]), e.leavesQueues = true := by
      intro e he
      rcases List.mem_append.mp he with he | he
      · simp only [List.mem_cons, List.not_mem_nil, or_false] at he
        rcases he with rfl | rfl <;> rfl
      · split_ifs at he
        · cases he
        · rw [List.mem_singleton.mp he]
          rfl
    cases stopped
    · rw [if_neg Bool.false_ne_true, List.append_nil, queuesStopped_append hleaves, Bool.not_false,
        Bool.and_true]
    · rw [if_pos rfl, queuesStopped_concat, Bool.not_true, Bool.and_false]
      rfl

/-- Reporting a status wakes the queues. -/
theorem queuesStopped_ackInd {wcn : Wcn} {skb : SkBuff} (h : wcn.tx_ack_skb = some skb)
    (status : BitVec 32) : queuesStopped (dxeTxAckInd wcn status).log = false := by
  obtain ⟨es, skb', hrun, -, -⟩ := dxeTxAckInd_some h status
  rw [hrun]
  dsimp only
  rw [List.append_cons, queuesStopped_concat]
  rfl

/-! ## Stopped queues are woken -/

/-- The frame in `tx_ack_skb` was accepted, and its status has not been reported. -/
def AckPending (s : TxWorld) : Prop :=
  ∃ f, s.wcn.tx_ack_skb = some f ∧ f ∈ s.accepted ∧
    ∀ g, Effect.txStatus g ∈ s.wcn.log → g.ptr ≠ f.ptr

/-- `queues_stopped` is set, and an accepted frame has not been reaped. -/
def ReapPending (s : TxWorld) : Prop :=
  s.wcn.queues_stopped = true ∧
    ∃ is_low k f, (s.wcn.txCh is_low).slotSkb k = some f ∧ f ∈ s.accepted

/-- Why the queues are stopped, with the frames `q` in the rings. -/
structure StallInv (s : TxWorld) (q : Bool → List SkBuff) : Prop where
  frames : FramesInv s q
  pending : queuesStopped s.wcn.log = true → AckPending s ∨
    s.wcn.queues_stopped = true ∧ ∃ is_low, q is_low ≠ []

/-- At first the queues are awake. -/
theorem stallInv_init {p : TxParams} {s : TxWorld} (h : (txSystem p).init s) :
    StallInv s fun _ => [] where
  frames := framesInv_init h
  pending hstop := by
    rw [h.2.2.1] at hstop
    cases hstop

/-- The frame in `tx_ack_skb` keeps waiting while nothing reports a status. -/
theorem AckPending.mono {s s' : TxWorld} (h : AckPending s)
    (hack : s'.wcn.tx_ack_skb = s.wcn.tx_ack_skb) (hacc : ∀ f ∈ s.accepted, f ∈ s'.accepted)
    {es : List Effect} (hlog : s'.wcn.log = s.wcn.log ++ es)
    (hes : ∀ g, Effect.txStatus g ∉ es) : AckPending s' := by
  obtain ⟨f, hf, hmem, hstatus⟩ := h
  refine ⟨f, hack.trans hf, hacc f hmem, fun g hg => ?_⟩
  rw [hlog] at hg
  exact hstatus g ((List.mem_append.mp hg).resolve_right (hes g))

/-- Reaping reports no status. -/
theorem not_txStatus_reapEffects (stopped : Bool) (fs : List (BitVec 32 × SkBuff)) (g : SkBuff) :
    Effect.txStatus g ∉ reapEffects stopped fs := by
  induction fs generalizing stopped with
  | nil => exact List.not_mem_nil
  | cons f fs ih =>
    obtain ⟨addr, skb⟩ := f
    intro hg
    simp only [reapEffects, List.mem_append] at hg
    rcases hg with ((hg | hg) | hg) | hg
    · simp at hg
    · split_ifs at hg
      · cases hg
      · cases List.mem_singleton.mp hg
    · split_ifs at hg
      · cases List.mem_singleton.mp hg
      · cases hg
    · exact ih _ hg

/-- Every step keeps the reason why the queues are stopped, or wakes them. -/
theorem stallInv_step {p : TxParams} {s s' : TxWorld} {q q' : Bool → List SkBuff} {e : TxEvent}
    (h : StallInv s q) (hstep : TxStep p s q e s' q') : StallInv s' q' := by
  refine ⟨framesInv_step h.frames hstep, ?_⟩
  cases hstep with
  | @refused sta_priv skb H hfresh _ _ _ =>
    intro hstop
    rw [Wcn.emit_log, queuesStopped_append (by intro e he; rw [List.mem_singleton.mp he]; rfl),
      Wcn.writeBd, Wcn.setTxCh_log] at hstop
    refine (h.pending hstop).imp (fun hack => ?_) fun hreap => ?_
    · have hfree : ∀ g, Effect.txStatus g ∉ [Effect.freeTxskb skb] := by
        intro g hg
        cases List.mem_singleton.mp hg
      refine hack.mono ?_ (fun _ hf => hf) ?_ hfree
      · rw [Wcn.emit_tx_ack_skb, Wcn.writeBd, Wcn.setTxCh_tx_ack_skb]
      · rw [Wcn.emit_log, Wcn.writeBd, Wcn.setTxCh_log]
    · rwa [Wcn.emit_queues_stopped, Wcn.writeBd, Wcn.setTxCh_queues_stopped]
  | @busy sta_priv skb H vif_priv bd mac es hfresh hack hhead hbuilt hfull =>
    -- The ring is full of accepted frames.
    refine fun _ => Or.inr ⟨rfl, skb.isLow, fun hnil => ?_⟩
    rw [hnil, List.length_nil] at hfull
    have htwo := p.two_le skb.isLow
    omega
  | @accepted sta_priv skb H vif_priv bd mac es phy kick hfresh hack hhead hbuilt hroom hback _ hleaves =>
    have hstatus : ∀ g, Effect.txStatus g ∉ (if skb.wantsStatus then [Effect.stopQueues] else []) ++
        es ++ [.dmaMap skb, kick] := by
      intro g hg
      rcases List.mem_append.mp hg with hg | hg
      · cases handsBack_fill hbuilt hg
      · simp only [List.mem_cons, List.not_mem_nil, or_false] at hg
        rcases hg with hg | rfl
        · cases hg
        · cases hback
    intro hstop
    rw [queuesStopped_accepted hbuilt hleaves] at hstop
    have hlog : ((filledWcn s.wcn skb (bdAddr (p.pool skb.isLow) (p.desc_num skb.isLow) H) bd mac
        es).log ++ [.dmaMap skb, kick]) = s.wcn.log ++
          ((if skb.wantsStatus then [Effect.stopQueues] else []) ++ es ++ [.dmaMap skb, kick]) := by
      rw [filledWcn_log]
      simp only [List.append_assoc]
    cases hw : skb.wantsStatus with
    | true =>
      -- The frame waits for its status, and no status has been reported for it.
      refine Or.inl ⟨skb, ?_, List.mem_append_right _ List.mem_cons_self, fun g hg hptr => ?_⟩
      · rw [Wcn.emit_tx_ack_skb, Wcn.setTxCh_tx_ack_skb, filledWcn_tx_ack_skb, hw, if_pos rfl]
      · rw [Wcn.emit_log, Wcn.setTxCh_log, hlog] at hg
        have hold := (List.mem_append.mp hg).resolve_right (hstatus g)
        exact hfresh (hptr ▸ h.frames.log _ hold g.ptr ⟨g, rfl, rfl⟩)
    | false =>
      rw [hw, Bool.false_or] at hstop
      refine (h.pending hstop).imp (fun hpend => ?_) fun hreap => ?_
      · refine hpend.mono ?_ (fun f hf => List.mem_append_left _ hf)
          ((Wcn.emit_log _ _).trans ((congrArg (· ++ _) (Wcn.setTxCh_log _ _ _)).trans hlog)) hstatus
        rw [Wcn.emit_tx_ack_skb, Wcn.setTxCh_tx_ack_skb, filledWcn_tx_ack_skb, hw,
          if_neg Bool.false_ne_true]
      · refine ⟨?_, skb.isLow, ?_⟩
        · rw [Wcn.emit_queues_stopped, Wcn.setTxCh_queues_stopped, filledWcn_queues_stopped]
          exact hreap.1
        · rw [Function.update_self]
          exact List.append_ne_nil_of_right_ne_nil _ (List.cons_ne_nil _ _)
  | @dma is_low =>
    intro hstop
    unfold dmaComplete at hstop ⊢
    rw [Wcn.setTxCh_log] at hstop
    refine (h.pending hstop).imp (fun hack => ?_) fun hreap => ?_
    · exact hack.mono (Wcn.setTxCh_tx_ack_skb _ _ _) (fun _ hf => hf)
        ((Wcn.setTxCh_log _ _ _).trans (List.append_nil _).symm) fun _ => List.not_mem_nil
    · rwa [Wcn.setTxCh_queues_stopped]
  | @reap is_low ch fs m hfs _ =>
    intro hstop
    unfold reapedWcn at hstop ⊢
    dsimp only at hstop
    rw [queuesStopped_reapEffects, Bool.and_eq_true, Bool.or_eq_true, Bool.not_eq_true'] at hstop
    refine (h.pending hstop.1).imp (fun hack => ?_) fun hreap => ?_
    · exact hack.mono (Wcn.setTxCh_tx_ack_skb _ _ _) (fun _ hf => hf) rfl
        (not_txStatus_reapEffects _ _)
    · -- `queues_stopped` is set, so that no frame was reaped.
      have hempty : fs.isEmpty = true := by
        refine hstop.2.resolve_right fun hs => ?_
        rw [hreap.1] at hs
        cases hs
      obtain ⟨b, hb⟩ := hreap.2
      refine ⟨?_, b, ?_⟩
      · dsimp only
        rw [hempty, hreap.1]
        rfl
      · rw [List.isEmpty_iff.mp hempty] at hfs
        rcases eq_or_ne b is_low with rfl | hne
        · rw [Function.update_self]
          intro hdrop
          have hlen := congrArg List.length (List.take_append_drop m (q b))
          rw [← hfs, hdrop] at hlen
          exact hb (List.length_eq_zero_iff.mp hlen.symm)
        · rwa [Function.update_of_ne hne]
  | @ackInd status =>
    intro hstop
    cases hack : s.wcn.tx_ack_skb with
    | none =>
      rw [dxeTxAckInd_none hack] at hstop ⊢
      exact h.pending hstop
    | some skb =>
      rw [queuesStopped_ackInd hack] at hstop
      cases hstop
  | config =>
    intro hstop
    refine (h.pending hstop).imp (fun hack => ?_) id
    exact hack.mono rfl (fun _ hf => hf) (List.append_nil _).symm fun _ => List.not_mem_nil

/-- The frames in a ring do not tell on which of a frame's two blocks the tail is. -/
theorem TxRing.slotSkb_eq {pool : DxeMemPool} {ch ch' : DxeCh} {T D H T' D' : ℕ} {q : List SkBuff}
    (h : TxRing pool ch T D H q) (h' : TxRing pool ch' T' D' H q) (hn : ch'.desc_num = ch.desc_num)
    (hT : T ≤ T') (hhalf : T' / 2 = T / 2) (k : ℕ) : ch'.slotSkb k = ch.slotSkb k := by
  have htwo := h.ready.two_le
  have heven := h.ready.even
  obtain ⟨j, hTj, hj, heq⟩ := (Support.Cycle.consecutive 1 ch.desc_num).exists_window (by omega) T k
  have hold : ch.slotSkb k = ch.slotSkb j := by
    rw [DxeCh.slotSkb, DxeCh.slotSkb, DxeCh.blk, DxeCh.blk, heq]
  have hnew : ch'.slotSkb k = ch'.slotSkb j := by
    rw [DxeCh.slotSkb, DxeCh.slotSkb, DxeCh.blk, DxeCh.blk, hn, heq]
  rw [hold, hnew, h.skb j hTj hj]
  rcases Nat.lt_or_ge j T' with hlt | hge
  · -- Only the BD block at the tail is before the new tail.
    rw [← DxeCh.slotSkb_add, hn, h'.skb (j + ch.desc_num) (by omega) (by omega), if_neg (by omega),
      if_neg (by omega)]
  · rw [h'.skb j hge (by omega), hhalf]

/-- A reap that takes a frame out of a ring wakes the queues, if `queues_stopped` is set. -/
theorem queuesStopped_reapTxDxes {p : TxParams} {s : TxWorld} {q : Bool → List SkBuff}
    (hq : TxHoldsAll p s q) {is_low : Bool} {wcn' : Wcn} (hreap : reapTxDxes s.wcn is_low = some wcn')
    (hstopped : s.wcn.queues_stopped = true) {k : ℕ}
    (hk : (wcn'.txCh is_low).slotSkb k ≠ (s.wcn.txCh is_low).slotSkb k) :
    queuesStopped wcn'.log = false := by
  obtain ⟨T, D, H, h⟩ := hq is_low
  obtain ⟨ch, fs, hrun, hring, -, htake, hch⟩ := reapTxDxes_spec h.ring h.tail
  rw [hreap, Option.some.injEq] at hrun
  subst hrun
  unfold reapedWcn
  dsimp only
  rw [queuesStopped_reapEffects, hstopped, Bool.not_true, Bool.or_false]
  cases fs with
  | cons f fs => rw [List.isEmpty_cons, Bool.and_false]
  | nil =>
    -- Without a frame reaped, the ring holds what it held.
    have hlen := h.ring.length
    have hTD := h.ring.tail_le
    have hDH := h.ring.dev_le
    have hnone := congrArg List.length htake
    rw [List.map_nil, List.length_nil, List.length_take] at hnone
    have hhalf : D / 2 - T / 2 = 0 := by omega
    rw [hhalf, List.drop_zero] at hring
    refine absurd ?_ hk
    rw [txCh_reapedWcn]
    exact h.ring.slotSkb_eq hring (by rw [hch]) hTD (by omega) k

/-- Whenever the queues are stopped, a frame that was accepted waits for its status and its TX-complete
indication wakes the queues, or `queues_stopped` is set while an accepted frame is in a ring, and the
reaping of a frame wakes them. -/
theorem no_stall (p : TxParams) {s : TxWorld} (h : (txSystem p).Reachable s)
    (hstop : queuesStopped s.wcn.log = true) :
    (AckPending s ∧ ∀ status, queuesStopped (dxeTxAckInd s.wcn status).log = false) ∨
      (ReapPending s ∧ ∀ is_low wcn', reapTxDxes s.wcn is_low = some wcn' →
        (∃ k, (wcn'.txCh is_low).slotSkb k ≠ (s.wcn.txCh is_low).slotSkb k) →
        queuesStopped wcn'.log = false) := by
  obtain ⟨q, hq, hI⟩ := txSystem_invariant (I := StallInv) (fun _ => stallInv_init)
    (fun _ _ _ _ _ _ hI _ hTx _ => stallInv_step hI hTx) h
  rcases hI.pending hstop with hack | ⟨hstopped, is_low, hne⟩
  · obtain ⟨f, hf, hacc⟩ := hack
    exact Or.inl ⟨⟨f, hf, hacc⟩, queuesStopped_ackInd hf⟩
  · obtain ⟨f, hf⟩ := List.exists_mem_of_ne_nil _ hne
    obtain ⟨T, D, H, hlow⟩ := hq is_low
    obtain ⟨k, hk⟩ := (hlow.mem_iff f).mp hf
    refine Or.inr ⟨⟨hstopped, is_low, k, f, hk, hI.frames.queue is_low f hf⟩, ?_⟩
    rintro b wcn' hreap ⟨j, hj⟩
    exact queuesStopped_reapTxDxes hq hreap hstopped hj

/-- A frame waits for its status, and the queues are stopped. -/
theorem no_stall_status : ∃ s, (txSystem driverParams).Reachable s ∧ queuesStopped s.wcn.log = true ∧
    ((AckPending s ∧ ∀ status, queuesStopped (dxeTxAckInd s.wcn status).log = false) ∨
      (ReapPending s ∧ ∀ is_low wcn', reapTxDxes s.wcn is_low = some wcn' →
        (∃ k, (wcn'.txCh is_low).slotSkb k ≠ (s.wcn.txCh is_low).slotSkb k) →
        queuesStopped wcn'.log = false)) := by
  obtain ⟨s, hs, hstop⟩ : ∃ s, (txSystem driverParams).Reachable s ∧
      queuesStopped s.wcn.log = true :=
    txStart_reachable oneStation [.tx none (authFrame 1 30 true)] (by decide +kernel)
  exact ⟨s, hs, hstop, no_stall driverParams hs hstop⟩

/-! ## Each reason by itself -/

/-- The driver as `wcn36xx_probe` leaves it: `queues_stopped` is not set. -/
def queueSystem (p : TxParams) : System TxWorld TxEvent :=
  { txSystem p with init := fun s => (txSystem p).init s ∧ s.wcn.queues_stopped = false }

/-- The queues are stopped as long as a frame waits for its status, and as long as `queues_stopped` is
set. -/
structure StopsHold (wcn : Wcn) : Prop where
  ack : wcn.tx_ack_skb ≠ none → queuesStopped wcn.log = true
  full : wcn.queues_stopped = true → queuesStopped wcn.log = true

/-- The DMA engine has completed a frame in the ring of a channel. -/
def DxeCh.reapable (ch : DxeCh) : Bool :=
  (List.range ch.desc_num).any fun k => (ch.slotSkb k).isSome && !ch.slotValid k

/-- When a TX-complete indication reports a status, `queues_stopped` is not set; when a frame is reaped
and `queues_stopped` is set, no frame waits for its status. -/
def WakesAlone (s : TxWorld) : TxEvent → Prop
  | .ackInd _ => s.wcn.tx_ack_skb ≠ none → s.wcn.queues_stopped = false
  | .reap is_low => (s.wcn.txCh is_low).reapable = true → s.wcn.queues_stopped = true →
    s.wcn.tx_ack_skb = none
  | _ => True

instance : ∀ s e, Decidable (WakesAlone s e)
  | s, .ackInd _ => inferInstanceAs (Decidable (s.wcn.tx_ack_skb ≠ none → _))
  | s, .reap is_low => inferInstanceAs (Decidable ((s.wcn.txCh is_low).reapable = true → _))
  | _, .tx _ _ | _, .dma _ | _, .config _ => isTrue trivial

/-- When a frame is reaped, the DMA engine has completed it. -/
theorem TxHolds.reapable {p : TxParams} {is_low : Bool} {ch : DxeCh} {cursor T D H : ℕ}
    {q : List SkBuff} (h : TxHolds p is_low ch cursor T D H q) (hlt : T / 2 < D / 2) :
    ch.reapable = true := by
  have htwo := h.ring.ready.two_le
  have hDH := h.ring.dev_le
  have hHT := h.ring.head_le
  have hlen := h.ring.length
  have heven := h.ring.head_even
  -- The oldest frame is in the second block of the pair at the tail.
  obtain ⟨k, hk⟩ : ∃ k, k = 2 * (T / 2) + 1 := ⟨_, rfl⟩
  have hvalid : ch.slotValid k = false := by
    rw [h.ring.valid k (by omega) (by omega)]
    exact decide_eq_false (by omega)
  have hskb : (ch.slotSkb k).isSome = true := by
    rw [h.ring.skb k (by omega) (by omega), if_pos (by omega), List.getElem?_eq_getElem (by omega)]
    rfl
  refine List.any_eq_true.mpr ⟨k % ch.desc_num, List.mem_range.mpr (Nat.mod_lt _ (by omega)), ?_⟩
  have hslot : ch.slotSkb (k % ch.desc_num) = ch.slotSkb k := by
    rw [DxeCh.slotSkb, DxeCh.slotSkb, ← DxeCh.blk_mod]
  have hmod : ch.slotValid (k % ch.desc_num) = ch.slotValid k := by
    rw [DxeCh.slotValid, DxeCh.slotValid, Nat.mod_mod]
  rw [hslot, hmod, hskb, hvalid]
  rfl

/-- A call of `wcn36xx_tx` wakes nothing. -/
theorem StopsHold.tx {p : TxParams} {s s' : TxWorld} {q q' : Bool → List SkBuff}
    {sta_priv : Option ℕ} {skb : SkBuff} (h : StopsHold s.wcn)
    (hstep : TxStep p s q (.tx sta_priv skb) s' q') : StopsHold s'.wcn := by
  cases hstep with
  | @refused _ _ H hfresh _ _ _ =>
    have hlog : queuesStopped ((s.wcn.writeBd skb.isLow (bdAddr (p.pool skb.isLow)
        (p.desc_num skb.isLow) H) (startTxBdInit skb).bytes).emit [.freeTxskb skb]).log =
          queuesStopped s.wcn.log := by
      rw [Wcn.emit_log, queuesStopped_append (by intro e he; rw [List.mem_singleton.mp he]; rfl),
        Wcn.writeBd, Wcn.setTxCh_log]
    constructor
    · intro hack
      rw [hlog]
      rw [Wcn.emit_tx_ack_skb, Wcn.writeBd, Wcn.setTxCh_tx_ack_skb] at hack
      exact h.ack hack
    · intro hfull
      rw [hlog]
      rw [Wcn.emit_queues_stopped, Wcn.writeBd, Wcn.setTxCh_queues_stopped] at hfull
      exact h.full hfull
  | @busy _ _ H vif_priv bd mac es hfresh hack hhead hbuilt hfull =>
    have hstop : ∀ {w : Wcn}, queuesStopped (w.emit [.stopQueues, .freeTxskb skb]).log = true :=
      queuesStopped_stop (by intro e he; rw [List.mem_singleton.mp he]; rfl)
    exact ⟨fun _ => hstop, fun _ => hstop⟩
  | @accepted _ _ H vif_priv bd mac es phy kick hfresh hnone hhead hbuilt hroom hback _ hleaves =>
    constructor
    · intro hack
      rw [Wcn.emit_tx_ack_skb, Wcn.setTxCh_tx_ack_skb, filledWcn_tx_ack_skb] at hack
      rw [queuesStopped_accepted hbuilt hleaves]
      cases hw : skb.wantsStatus with
      | true => rfl
      | false =>
        rw [hw, if_neg Bool.false_ne_true] at hack
        exact h.ack hack
    · intro hstopped
      rw [Wcn.emit_queues_stopped, Wcn.setTxCh_queues_stopped, filledWcn_queues_stopped] at hstopped
      rw [queuesStopped_accepted hbuilt hleaves, h.full hstopped, Bool.or_true]

/-- Every step that meets the condition keeps both reasons. -/
theorem stopsHold_step {p : TxParams} {s s' : TxWorld} {q : Bool → List SkBuff} {e : TxEvent}
    (hq : TxHoldsAll p s q) (h : StopsHold s.wcn) (hP : WakesAlone s e)
    (hstep : (txSystem p).step s e = some s') : StopsHold s'.wcn := by
  cases e with
  | tx sta_priv skb =>
    obtain ⟨q', hTx, -⟩ := txStep_cases_tx hq hstep
    exact h.tx hTx
  | dma is_low =>
    obtain ⟨q', hTx, -⟩ := txStep_cases hq hstep
    cases hTx
    unfold dmaComplete
    constructor
    · rw [Wcn.setTxCh_tx_ack_skb, Wcn.setTxCh_log]
      exact h.ack
    · rw [Wcn.setTxCh_queues_stopped, Wcn.setTxCh_log]
      exact h.full
  | reap is_low =>
    obtain ⟨T, D, H, hlow⟩ := hq is_low
    obtain ⟨ch, fs, hrun, -, -, htake, -⟩ := reapTxDxes_spec hlow.ring hlow.tail
    simp only [txSystem, hrun, Option.bind_eq_bind, Option.bind_some, Option.pure_def,
      Option.some.injEq] at hstep
    subst hstep
    have hlen := hlow.ring.length
    have hDH := hlow.ring.dev_le
    have hfs := congrArg List.length htake
    rw [List.length_map, List.length_take] at hfs
    unfold reapedWcn
    constructor
    · intro hack
      dsimp only at hack ⊢
      rw [Wcn.setTxCh_tx_ack_skb] at hack
      rw [queuesStopped_reapEffects, h.ack hack, Bool.true_and, Bool.or_eq_true, Bool.not_eq_true']
      -- Either no frame is reaped, or `queues_stopped` is not set.
      cases fs with
      | nil => exact Or.inl rfl
      | cons f fs =>
        rw [List.length_cons] at hfs
        have hreapable := hlow.reapable (by omega)
        refine Or.inr (Bool.eq_false_iff.mpr fun hstopped => hack ?_)
        exact hP hreapable hstopped
    · intro hstopped
      dsimp only at hstopped ⊢
      rw [Bool.and_eq_true] at hstopped
      rw [queuesStopped_reapEffects, h.full hstopped.1, hstopped.2]
      rfl
  | ackInd status =>
    simp only [txSystem, Option.some.injEq] at hstep
    subst hstep
    cases hack : s.wcn.tx_ack_skb with
    | none =>
      rw [dxeTxAckInd_none hack]
      exact h
    | some skb =>
      have hfull := hP (by rw [hack]; exact Option.some_ne_none _)
      obtain ⟨es, skb', hrun, -, -⟩ := dxeTxAckInd_some hack status
      rw [hrun]
      refine ⟨fun hne => absurd rfl hne, fun hstopped => ?_⟩
      dsimp only at hstopped
      rw [hfull] at hstopped
      cases hstopped
  | config mac =>
    simp only [txSystem, Option.some.injEq] at hstep
    subst hstep
    exact ⟨h.ack, h.full⟩

/-- After the set-up of both TX channels. -/
theorem queueSystem_init {p : TxParams} {mac : MacConf} {s : TxWorld}
    (h : txStart p mac = some s) : (queueSystem p).init s := by
  refine ⟨txStart_init h, ?_⟩
  simp only [txStart, Option.bind_eq_bind, Option.bind_eq_some_iff, Option.pure_def,
    Option.some.injEq] at h
  obtain ⟨l, -, h, -, rfl⟩ := h
  rfl

/-- A replay from the state after the set-up whose steps all meet a condition. -/
theorem queueStart_reachable {p : TxParams} (mac : MacConf) (es : List TxEvent)
    {C : TxWorld → TxEvent → Prop} [∀ s e, Decidable (C s e)] {P : TxWorld → Bool}
    (h : ((txStart p mac).bind fun s => (queueSystem p).runWhen C s es).any P = true) :
    ∃ s, (queueSystem p).ReachableWhen C s ∧ P s = true := by
  obtain ⟨s, hrun, hP⟩ := (Option.any_eq_true _ _).mp h
  obtain ⟨s₀, hs₀, hrun⟩ := Option.bind_eq_some_iff.mp hrun
  exact ⟨s, System.ReachableWhen.runWhen (.init (queueSystem_init hs₀)) hrun, hP⟩

/-- In a run in which no step that ends one reason finds the other one, the queues are stopped as long as
a frame waits for its status, and as long as `queues_stopped` is set. -/
theorem stopsHold_of_wakesAlone (p : TxParams) {s : TxWorld}
    (h : (queueSystem p).ReachableWhen WakesAlone s) : StopsHold s.wcn := by
  have hinv : ∃ q, TxHoldsAll p s q ∧ StopsHold s.wcn := by
    refine h.invariant (I := fun s => ∃ q, TxHoldsAll p s q ∧ StopsHold s.wcn) ?_ ?_
    · rintro s ⟨hinit, hstopped⟩
      refine ⟨_, txSystem_init_holds hinit, fun hack => absurd hinit.2.1 hack, fun hfull => ?_⟩
      rw [hstopped] at hfull
      cases hfull
    · rintro s e s' ⟨q, hq, hI⟩ hP hstep
      obtain ⟨q', -, hq'⟩ := txStep_cases hq hstep
      exact ⟨q', hq', stopsHold_step hq hI hP hstep⟩
  obtain ⟨q, -, hI⟩ := hinv
  exact hI

/-- A frame fills the ring of five while none waits for its status, one is reaped, the next one asks for
its status, and its status is reported. -/
def fullThenStatus : List TxEvent :=
  (List.range 6).map (fun i => .tx none (authFrame (i + 1) 30 false)) ++
    [.dma false, .dma false, .reap false, .tx none (authFrame 7 30 true), .ackInd 1]

/-- In that run the queues are stopped twice, and woken twice. -/
theorem stopsHold_of_wakesAlone_twice :
    ∃ s, (queueSystem driverParams).ReachableWhen WakesAlone s ∧
      s.wcn.log.count .stopQueues = 2 ∧ s.wcn.log.count .wakeQueues = 2 ∧ StopsHold s.wcn := by
  obtain ⟨s, hreach, hs⟩ : ∃ s, (queueSystem driverParams).ReachableWhen WakesAlone s ∧
      decide (s.wcn.log.count .stopQueues = 2 ∧ s.wcn.log.count .wakeQueues = 2) = true :=
    queueStart_reachable oneStation fullThenStatus (by decide +kernel)
  obtain ⟨hstop, hwake⟩ := of_decide_eq_true hs
  exact ⟨s, hreach, hstop, hwake, stopsHold_of_wakesAlone driverParams hreach⟩

/-- A frame that asks for its status and four others fill the ring, a sixth finds it full, and the first is
reaped. -/
def statusThenFull : List TxEvent :=
  (List.range 6).map (fun i => .tx none (authFrame (i + 1) 30 (i == 0))) ++
    [.dma false, .dma false, .reap false]

/-- The queues are woken while the status of the first frame is outstanding. -/
theorem stopsHold_fails_on_reap :
    ∃ s, (queueSystem driverParams).Reachable s ∧ ¬StopsHold s.wcn := by
  obtain ⟨s, hreach, hs⟩ : ∃ s, (queueSystem driverParams).Reachable s ∧
      (s.wcn.tx_ack_skb.isSome && !queuesStopped s.wcn.log) = true :=
    queueStart_reachable oneStation statusThenFull (by decide +kernel)
  refine ⟨s, hreach, fun h => ?_⟩
  rw [Bool.and_eq_true, Bool.not_eq_true'] at hs
  rw [h.ack (Option.isSome_iff_ne_none.mp hs.1)] at hs
  cases hs.2

end Wcn36xx
