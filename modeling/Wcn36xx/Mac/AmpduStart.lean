import Wcn36xx.Mac.Ampdu

/-!
# Refused A-MPDU sessions

`wcn36xx_tx_start_ampdu` writes `WCN36XX_AMPDU_START` before it asks mac80211 for a session, and does not
look at the answer. mac80211 calls `wcn36xx_ampdu_action` for a session only after it has accepted the
request, so that nothing takes the state of a refused one back. Here the answer is part of the event,
and the history says what a state that is not `WCN36XX_AMPDU_NONE` should stand for (`hasStarted`).
-/

namespace Wcn36xx

open Support (System)

/-! ## Histories -/

/-- The actions that start a TX session. -/
def AmpduMlmeAction.isTxStart : AmpduMlmeAction → Bool
  | .TX_START | .TX_OPERATIONAL => true
  | _ => false

/-- What has happened to the stations. -/
inductive BaNote where
  /-- The private data of a station was created, all zero. -/
  | created (sta : ℕ)
  /-- `ieee80211_start_tx_ba_session` was called, and returned 0 or an error. -/
  | requested (sta tid : ℕ) (accepted : Bool)
  /-- `wcn36xx_ampdu_action` was called. -/
  | action (action : AmpduMlmeAction) (sta tid : ℕ)
  deriving DecidableEq

/-- Since a TID of a station last became `WCN36XX_AMPDU_NONE`, mac80211 has accepted a request for a
session on it, or an action has started one; the history begins with the last note. -/
def hasStarted (sta tid : ℕ) : List BaNote → Bool
  | [] => false
  | .created s :: hist => if s = sta then false else hasStarted sta tid hist
  | .requested s t accepted :: hist =>
    (accepted && s == sta && t == tid) || hasStarted sta tid hist
  | .action a s t :: hist =>
    if s = sta ∧ t = tid then !a.isTxStop && (a.isTxStart || hasStarted sta tid hist)
    else hasStarted sta tid hist

/-! ## The system -/

/-- `wcn36xx_tx_start_ampdu` asks for a session: the conditions that it checks. -/
def requestsStart (mac : MacConf) (sta : ℕ) (skb : SkBuff) : Bool :=
  mac.is_ht && ieee80211IsDataQos skb.frameControl && skb.queue_mapping != IEEE80211_AC_VO &&
    (mac.sta sta).any fun s =>
      s.ampdu_state skb.tid == .NONE && decide (WCN36XX_AMPDU_START_THRESH ≤ s.non_agg_frame_ct)

/-- It asks for one exactly then. -/
theorem txStartAmpdu_requests {mac mac' : MacConf} {sta : ℕ} {skb : SkBuff} {es : List Effect}
    (h : txStartAmpdu mac sta skb = some (mac', es)) :
    es = if requestsStart mac sta skb then [.startTxBaSession sta skb.tid] else [] := by
  unfold requestsStart
  simp only [txStartAmpdu, Option.bind_eq_bind, Option.pure_def] at h
  split_ifs at h with hht hqos hvo
  · rw [Option.some.injEq, Prod.mk.injEq] at h
    rw [← h.2, if_neg (by simp_all)]
  · rw [Option.some.injEq, Prod.mk.injEq] at h
    rw [← h.2, if_neg (by simp_all)]
  · rw [Option.some.injEq, Prod.mk.injEq] at h
    rw [← h.2, if_neg (by simp_all)]
  · obtain ⟨s, hs, h⟩ := Option.bind_eq_some_iff.mp h
    have hfirst : (mac.is_ht && ieee80211IsDataQos skb.frameControl &&
        skb.queue_mapping != IEEE80211_AC_VO) = true := by simp_all
    rw [hfirst, Bool.true_and, hs, Option.any_some]
    split_ifs at h with hstate hthresh
    all_goals
      rw [Option.some.injEq, Prod.mk.injEq] at h
      rw [← h.2]
    · have hb : (s.ampdu_state skb.tid == .NONE) = false := beq_eq_false_iff_ne.mpr hstate
      rw [hb, Bool.false_and, if_neg Bool.false_ne_true]
    · have hb : (s.ampdu_state skb.tid == .NONE) = true := beq_iff_eq.mpr (not_not.mp hstate)
      rw [hb, Bool.true_and, if_pos (decide_eq_true hthresh)]
      rfl
    · rw [decide_eq_false hthresh, Bool.and_false, if_neg Bool.false_ne_true]

/-- The stations and their history. -/
structure BaWorld where
  mac : MacConf
  hist : List BaNote := []

/-- The steps of stations with sessions. -/
inductive BaEvent where
  /-- mac80211 creates a station on an interface and calls `wcn36xx_sta_add`. -/
  | create (sta : ℕ) (vif : Option ℕ)
  /-- A QoS data frame reaches `wcn36xx_tx_start_ampdu`; should it ask for a session, mac80211 accepts or
  refuses. -/
  | frame (sta : ℕ) (skb : SkBuff) (accepted : Bool)
  /-- mac80211 calls `wcn36xx_ampdu_action`. -/
  | action (vif : ℕ) (action : AmpduMlmeAction) (sta : ℕ) (tid : BitVec 16)
  /-- mac80211 changes the channel or the interfaces. -/
  | config (is_ht : Bool) (band : Band) (vif : ℕ → Option WcnVif)

/-- The notes about what `wcn36xx_tx_start_ampdu` calls. -/
def requestNotes (accepted : Bool) (es : List Effect) : List BaNote :=
  es.filterMap fun
    | .startTxBaSession s t => some (.requested s t accepted)
    | _ => none

/-- The stations as a transition system. -/
def baSystem : System BaWorld BaEvent where
  init w := w.mac.sta = (fun _ => none) ∧ w.hist = []
  step w
    | .create sta vif =>
      some { mac := w.mac.setSta sta { vif := vif }, hist := .created sta :: w.hist }
    | .frame sta skb accepted =>
      (txStartAmpdu w.mac sta skb).map fun r => ⟨r.1, requestNotes accepted r.2 ++ w.hist⟩
    | .action vif action sta tid =>
      (ampduAction w.mac vif action sta tid).map fun r =>
        ⟨r.1, .action action sta tid.toNat :: w.hist⟩
    | .config is_ht band vif =>
      some { w with mac := { w.mac with is_ht := is_ht, band := band, vif := vif } }

/-- A TID of which the state is not `WCN36XX_AMPDU_NONE` has been started. -/
def BaWorld.Remembered (w : BaWorld) : Prop :=
  ∀ sta s tid, w.mac.sta sta = some s → s.ampdu_state tid ≠ .NONE → hasStarted sta tid w.hist = true

/-- The step asks for a session that mac80211 refuses. -/
def startRefused (w : BaWorld) : BaEvent → Bool
  | .frame sta skb accepted => !accepted && requestsStart w.mac sta skb
  | _ => false

/-! ## What a step does to a TID -/

/-- A TID of a station before and after a step. -/
inductive TidStep (w w' : BaWorld) (refused : Bool) (sta : ℕ) (s' : WcnSta) (tid : ℕ) : Prop
  | same (s : WcnSta) : w.mac.sta sta = some s → s'.ampdu_state tid = s.ampdu_state tid →
      hasStarted sta tid w'.hist = hasStarted sta tid w.hist → TidStep w w' refused sta s' tid
  | stop : s'.ampdu_state tid = .NONE → hasStarted sta tid w'.hist = false →
      TidStep w w' refused sta s' tid
  | start : s'.ampdu_state tid ≠ .NONE → hasStarted sta tid w'.hist = true →
      TidStep w w' refused sta s' tid
  | refuse (s : WcnSta) : refused = true → w.mac.sta sta = some s → s.ampdu_state tid = .NONE →
      s'.ampdu_state tid ≠ .NONE → hasStarted sta tid w'.hist = hasStarted sta tid w.hist →
      TidStep w w' refused sta s' tid

/-- What happens to another station, or on another TID, does not matter. -/
theorem hasStarted_action_ne {a : AmpduMlmeAction} {sta other tid t : ℕ} (hist : List BaNote)
    (hne : ¬(other = sta ∧ t = tid)) :
    hasStarted sta tid (.action a other t :: hist) = hasStarted sta tid hist := by
  rw [hasStarted, if_neg hne]

/-- A request does not matter when it is refused, or is for another station or TID. -/
theorem hasStarted_requested_ne {accepted : Bool} {sta other tid t : ℕ} (hist : List BaNote)
    (hne : accepted = false ∨ ¬(other = sta ∧ t = tid)) :
    hasStarted sta tid (.requested other t accepted :: hist) = hasStarted sta tid hist := by
  have hb : (accepted && other == sta && t == tid) = false := by
    rcases hne with rfl | hne
    · rfl
    · rw [Bool.and_assoc]
      by_contra hcon
      simp only [Bool.not_eq_false, Bool.and_eq_true, beq_iff_eq] at hcon
      exact hne hcon.2
  rw [hasStarted, hb, Bool.false_or]

/-- A call of `wcn36xx_tx_start_ampdu`. -/
theorem tidStep_frame {w : BaWorld} {sta : ℕ} {skb : SkBuff} {accepted : Bool} {mac : MacConf}
    {es : List Effect} (hrun : txStartAmpdu w.mac sta skb = some (mac, es)) {sta' : ℕ} {s' : WcnSta}
    (hs' : mac.sta sta' = some s') (tid : ℕ) :
    TidStep w ⟨mac, requestNotes accepted es ++ w.hist⟩ (startRefused w (.frame sta skb accepted))
      sta' s' tid := by
  have hes := txStartAmpdu_requests hrun
  rcases txStartAmpdu_cases hrun with ⟨rfl, rfl⟩ | ⟨s, hs, hstate, ⟨-, rfl, rfl⟩ | ⟨-, rfl, rfl⟩⟩
  · exact .same s' hs' rfl rfl
  · -- The frame is counted.
    rcases MacConf.sta_setSta hs' with ⟨rfl, rfl⟩ | ⟨-, hs'⟩
    · exact .same s hs rfl rfl
    · exact .same s' hs' rfl rfl
  · -- A session is asked for.
    have hreq : requestsStart w.mac sta skb = true := by
      by_contra hno
      rw [if_neg hno] at hes
      cases hes
    rcases MacConf.sta_setSta hs' with ⟨rfl, rfl⟩ | ⟨hne, hs'⟩
    · rcases eq_or_ne tid skb.tid with rfl | hne
      · -- The state is START before mac80211 has answered.
        have hstart : Function.update s.ampdu_state skb.tid AmpduState.START skb.tid ≠ .NONE := by
          rw [Function.update_self]
          decide
        cases accepted with
        | true =>
          refine .start hstart ?_
          change hasStarted sta' skb.tid (.requested sta' skb.tid true :: w.hist) = true
          rw [hasStarted, beq_self_eq_true, beq_self_eq_true]
          rfl
        | false =>
          refine .refuse s ?_ hs hstate hstart (hasStarted_requested_ne w.hist (.inl rfl))
          rw [startRefused, hreq]
          rfl
      · exact .same s hs (Function.update_of_ne hne ..)
          (hasStarted_requested_ne w.hist (.inr fun h => hne h.2.symm))
    · exact .same s' hs' rfl (hasStarted_requested_ne w.hist (.inr fun h => hne h.1.symm))

/-- A receive action does not matter. -/
theorem hasStarted_rx {a : AmpduMlmeAction} {sta other tid t : ℕ} (hist : List BaNote)
    (hstop : a.isTxStop = false) (hstart : a.isTxStart = false) :
    hasStarted sta tid (.action a other t :: hist) = hasStarted sta tid hist := by
  rw [hasStarted, hstop, hstart]
  exact ite_self _

/-- What an action that writes the state of a TID does to the station. -/
theorem tidStep_setAmpduState {w : BaWorld} {sta : ℕ} {s s₁ : WcnSta} {tid : BitVec 16}
    {state : AmpduState} (hs : w.mac.sta sta = some s) (hset : setAmpduState s tid state = some s₁)
    {action : AmpduMlmeAction}
    (hstop : state = .NONE → action.isTxStop = true)
    (hstart : state ≠ .NONE → action.isTxStop = false ∧ action.isTxStart = true) {sta' : ℕ}
    {s' : WcnSta} (hs' : (w.mac.setSta sta s₁).sta sta' = some s') (t : ℕ) (refused : Bool) :
    TidStep w ⟨w.mac.setSta sta s₁, .action action sta tid.toNat :: w.hist⟩ refused sta' s' t := by
  obtain ⟨-, heq⟩ := Option.ite_none_right_eq_some.mp hset
  rw [Option.some.injEq] at heq
  subst heq
  rcases MacConf.sta_setSta hs' with ⟨rfl, rfl⟩ | ⟨hne, hs'⟩
  · rcases eq_or_ne t tid.toNat with rfl | hne
    · have hself : Function.update s.ampdu_state tid.toNat state tid.toNat = state :=
        Function.update_self ..
      have hnote : hasStarted sta' tid.toNat (.action action sta' tid.toNat :: w.hist) =
          (!action.isTxStop && (action.isTxStart || hasStarted sta' tid.toNat w.hist)) := by
        rw [hasStarted, if_pos ⟨rfl, rfl⟩]
      by_cases hnone : state = .NONE
      · refine .stop (hself.trans hnone) (hnote.trans ?_)
        rw [hstop hnone]
        rfl
      · refine .start (fun h => hnone (hself.symm.trans h)) (hnote.trans ?_)
        rw [(hstart hnone).1, (hstart hnone).2]
        rfl
    · exact .same s hs (Function.update_of_ne hne ..)
        (hasStarted_action_ne w.hist fun h => hne h.2.symm)
  · exact .same s' hs' rfl (hasStarted_action_ne w.hist fun h => hne h.1.symm)

/-- A call of `wcn36xx_ampdu_action`. -/
theorem tidStep_action {w : BaWorld} {vif : ℕ} {action : AmpduMlmeAction} {sta : ℕ}
    {tid : BitVec 16} {mac : MacConf} {calls : List AmpduCall}
    (hrun : ampduAction w.mac vif action sta tid = some (mac, calls)) {sta' : ℕ} {s' : WcnSta}
    (hs' : mac.sta sta' = some s') (t : ℕ) (refused : Bool) :
    TidStep w ⟨mac, .action action sta tid.toNat :: w.hist⟩ refused sta' s' t := by
  simp only [ampduAction, Option.bind_eq_bind, Option.bind_eq_some_iff] at hrun
  obtain ⟨vif_priv, -, s, hs, hrun⟩ := hrun
  cases action with
  | RX_START =>
    simp only [Option.pure_def, Option.some.injEq, Prod.mk.injEq] at hrun
    rw [← hrun.1] at hs' ⊢
    rcases MacConf.sta_setSta hs' with ⟨rfl, rfl⟩ | ⟨-, hs'⟩
    · exact .same s hs rfl (hasStarted_rx w.hist rfl rfl)
    · exact .same s' hs' rfl (hasStarted_rx w.hist rfl rfl)
  | RX_STOP =>
    simp only [Option.pure_def, Option.some.injEq, Prod.mk.injEq] at hrun
    rw [← hrun.1] at hs' ⊢
    exact .same s' hs' rfl (hasStarted_rx w.hist rfl rfl)
  | TX_START | TX_OPERATIONAL =>
    simp only [Option.bind_eq_some_iff, Option.pure_def, Option.some.injEq, Prod.mk.injEq] at hrun
    obtain ⟨s₁, hset, heq, -⟩ := hrun
    rw [← heq] at hs' ⊢
    exact tidStep_setAmpduState hs hset (fun h => by cases h) (fun _ => ⟨rfl, rfl⟩) hs' t refused
  | TX_STOP_CONT | TX_STOP_FLUSH | TX_STOP_FLUSH_CONT =>
    simp only [Option.bind_eq_some_iff, Option.pure_def, Option.some.injEq, Prod.mk.injEq] at hrun
    obtain ⟨s₁, hset, heq, -⟩ := hrun
    rw [← heq] at hs' ⊢
    exact tidStep_setAmpduState hs hset (fun _ => rfl) (fun h => absurd rfl h) hs' t refused

/-- Every step of the system, on every TID. -/
theorem tidStep_of_step {w w' : BaWorld} {e : BaEvent} (hstep : baSystem.step w e = some w')
    {sta : ℕ} {s' : WcnSta} (hs' : w'.mac.sta sta = some s') (tid : ℕ) :
    TidStep w w' (startRefused w e) sta s' tid := by
  cases e with
  | create other vif =>
    rw [baSystem, Option.some.injEq] at hstep
    subst hstep
    rcases MacConf.sta_setSta hs' with ⟨rfl, rfl⟩ | ⟨hne, hs'⟩
    · refine .stop rfl ?_
      rw [hasStarted, if_pos rfl]
    · refine .same s' hs' rfl ?_
      rw [hasStarted, if_neg hne.symm]
  | frame other skb accepted =>
    obtain ⟨⟨mac, es⟩, hrun, rfl⟩ := Option.map_eq_some_iff.mp hstep
    exact tidStep_frame hrun hs' tid
  | action vif action other t =>
    obtain ⟨⟨mac, calls⟩, hrun, rfl⟩ := Option.map_eq_some_iff.mp hstep
    exact tidStep_action hrun hs' tid _
  | config is_ht band vif =>
    rw [baSystem, Option.some.injEq] at hstep
    subst hstep
    exact .same s' hs' rfl rfl

/-! ## What runs keep -/

/-- A TID of which the state is `WCN36XX_AMPDU_NONE` has not been started. -/
def BaWorld.NotStarted (w : BaWorld) : Prop :=
  ∀ sta s tid, w.mac.sta sta = some s → s.ampdu_state tid = .NONE → hasStarted sta tid w.hist = false

/-- In every run, what is not remembered as started has not been started. -/
theorem BaWorld.notStarted_of_reachable {w : BaWorld} (h : baSystem.Reachable w) :
    w.NotStarted := by
  refine h.invariant (fun w hw sta s _ hs => ?_) fun w e w' ih hstep sta s' tid hs' hnone => ?_
  · rw [hw.1] at hs
    cases hs
  · cases tidStep_of_step hstep hs' tid with
    | same s hs hstate hhist =>
      rw [hhist]
      exact ih sta s tid hs (hstate ▸ hnone)
    | stop _ hhist => exact hhist
    | start hstate _ => exact absurd hnone hstate
    | refuse s _ _ _ hstate _ => exact absurd hnone hstate

/-- As long as no request is refused, a TID whose state is not `WCN36XX_AMPDU_NONE` has been
started. -/
theorem BaWorld.remembered_of_accepted {w : BaWorld}
    (h : baSystem.ReachableWhen (fun w e => startRefused w e = false) w) : w.Remembered := by
  refine h.invariant (fun w hw sta s _ hs => ?_)
    fun w e w' ih haccepted hstep sta s' tid hs' hstate' => ?_
  · rw [hw.1] at hs
    cases hs
  · cases tidStep_of_step hstep hs' tid with
    | same s hs hstate hhist =>
      rw [hhist]
      exact ih sta s tid hs fun hnone => hstate' (hstate.trans hnone)
    | stop hstate _ => exact absurd hstate hstate'
    | start _ hhist => exact hhist
    | refuse _ hrefused _ _ _ _ =>
      rw [haccepted] at hrefused
      cases hrefused

/-- A request that is refused leaves the TID behind as if it had been started. -/
theorem BaWorld.not_remembered_of_refused {w w' : BaWorld} {e : BaEvent}
    (h : baSystem.Reachable w) (hstep : baSystem.step w e = some w')
    (hrefused : startRefused w e = true) : ¬w'.Remembered := by
  intro hrem
  cases e with
  | create _ _ | action _ _ _ _ | config _ _ _ => cases hrefused
  | frame sta skb accepted =>
    obtain ⟨⟨mac, es⟩, hrun, rfl⟩ := Option.map_eq_some_iff.mp hstep
    rw [startRefused, Bool.and_eq_true, Bool.not_eq_true'] at hrefused
    obtain ⟨rfl, hreq⟩ := hrefused
    have hes := txStartAmpdu_requests hrun
    rw [if_pos hreq] at hes
    rcases txStartAmpdu_cases hrun with ⟨-, hnil⟩ | ⟨s, hs, hstate, ⟨-, hnil, -⟩ | ⟨-, -, hmac⟩⟩
    · rw [hnil] at hes
      cases hes
    · rw [hnil] at hes
      cases hes
    · -- The TID had not been started, and the refused request does not start it.
      have hbefore := BaWorld.notStarted_of_reachable h sta s skb.tid hs hstate
      have hafter := hrem sta { s with
        ampdu_state := Function.update s.ampdu_state skb.tid .START, non_agg_frame_ct := 0 } skb.tid
        (by rw [hmac]; exact Function.update_self ..)
        (by dsimp only; rw [Function.update_self]; decide)
      rw [hes] at hafter
      change hasStarted sta skb.tid (.requested sta skb.tid false :: w.hist) = true at hafter
      rw [hasStarted_requested_ne w.hist (.inl rfl), hbefore] at hafter
      cases hafter

/-- What is remembered as started has been started, in every state of every run in which no request for
a session is refused. As soon as one is refused, this is no longer so. -/
theorem remembered_until_refused (w : BaWorld) :
    (baSystem.ReachableWhen (fun w e => startRefused w e = false) w → w.Remembered) ∧
    ∀ e w', baSystem.Reachable w → baSystem.step w e = some w' → startRefused w e = true →
      ¬w'.Remembered := by
  constructor
  · exact BaWorld.remembered_of_accepted
  · intro e w' h hstep hrefused
    exact BaWorld.not_remembered_of_refused h hstep hrefused

/-- One station, 20 of whose frames are counted; mac80211 accepts the session that the next one asks
for. -/
theorem remembered_until_refused_accepted :
    ∃ (w : BaWorld) (s : WcnSta), w.mac.sta 7 = some s ∧ s.ampdu_state 3 = .START ∧
      w.Remembered := by
  obtain ⟨w, hrun, hw⟩ : ∃ w, baSystem.runWhen (fun w e => startRefused w e = false)
      ⟨{ is_ht := true }, []⟩ (.create 7 none :: List.replicate 21 (.frame 7 qosFrame true)) =
        some w ∧ (w.mac.sta 7).any (fun s => s.ampdu_state 3 == .START) = true :=
    (Option.any_eq_true _ _).mp (by decide +kernel)
  obtain ⟨s, hs, hstate⟩ := (Option.any_eq_true _ _).mp hw
  exact ⟨w, s, hs, beq_iff_eq.mp hstate,
    (remembered_until_refused w).1 (System.ReachableWhen.runWhen (.init ⟨rfl, rfl⟩) hrun)⟩

/-- The same, but mac80211 refuses. In the 29 frames that follow, no session is asked for again: nothing
has been noted but the station and the one request. -/
theorem remembered_fails_after_refusal :
    ∃ (w : BaWorld) (s : WcnSta), baSystem.Reachable w ∧ w.mac.sta 7 = some s ∧
      s.ampdu_state 3 = .START ∧ w.hist.length = 2 ∧ ¬w.Remembered := by
  obtain ⟨w, hrun, hw⟩ : ∃ w, baSystem.runFrom
      ⟨{ is_ht := true }, []⟩ (.create 7 none :: List.replicate 50 (.frame 7 qosFrame false)) =
        some w ∧ (w.hist == [.requested 7 3 false, .created 7] &&
          (w.mac.sta 7).any fun s => s.ampdu_state 3 == .START) = true :=
    (Option.any_eq_true _ _).mp (by decide +kernel)
  obtain ⟨hhist, hsta⟩ := Bool.and_eq_true_iff.mp hw
  obtain ⟨s, hs, hstate⟩ := (Option.any_eq_true _ _).mp hsta
  rw [beq_iff_eq] at hhist hstate
  refine ⟨w, s, System.Reachable.runFrom (.init ⟨rfl, rfl⟩) hrun, hs, hstate, ?_, fun hrem => ?_⟩
  · rw [hhist]
    rfl
  · have hstarted := hrem 7 s 3 hs (by rw [hstate]; decide)
    rw [hhist] at hstarted
    cases hstarted

end Wcn36xx
