import Wcn36xx.Support.System
import Wcn36xx.Txrx.StartTx

/-!
# A-MPDU sessions

`wcn36xx_tx_start_ampdu` counts the QoS data frames of a station on TIDs without a session, and starts a
session on the TID of the frame after `WCN36XX_AMPDU_START_THRESH` of them. `wcn36xx_ampdu_action` moves the
TID on as mac80211 sets the session up and stops it. The two are called in any order.

`ampdu_safe` is about all runs of both, on any number of stations. The history of a run says what the
counter and the states stand for: `countedSince` is the counter, and a TID whose state is
`WCN36XX_AMPDU_NONE` has had no session that was not stopped (`mayStart`).
-/

namespace Wcn36xx

open Support (System)

/-- `enum ieee80211_ampdu_mlme_action`. -/
inductive AmpduMlmeAction where
  | RX_START
  | RX_STOP
  | TX_START
  | TX_STOP_CONT
  | TX_STOP_FLUSH
  | TX_STOP_FLUSH_CONT
  | TX_OPERATIONAL
  deriving DecidableEq, Repr

/-- What `wcn36xx_ampdu_action` calls. -/
inductive AmpduCall where
  /-- `wcn36xx_smd_add_ba_session`. -/
  | addBaSession (tid : BitVec 16) (direction sta_index : Byte)
  /-- `wcn36xx_smd_add_ba`. -/
  | addBa
  /-- `wcn36xx_smd_trigger_ba`. -/
  | triggerBa (sta_index : Byte)
  /-- `wcn36xx_smd_del_ba`. -/
  | delBa (tid : BitVec 16) (sta_index : Byte)
  /-- `ieee80211_start_tx_ba_cb_irqsafe`. -/
  | startTxBaCb (sta : ℕ) (tid : BitVec 16)
  /-- `ieee80211_stop_tx_ba_cb_irqsafe`. -/
  | stopTxBaCb (sta : ℕ) (tid : BitVec 16)
  deriving DecidableEq

/-- `get_sta_index`. -/
def getStaIndex (vif : WcnVif) (sta_priv : WcnSta) : Byte :=
  if vif.type = .STATION then sta_priv.bss_sta_index else sta_priv.sta_index

/-- `sta_priv->ampdu_state[tid] = state`. There are 16 of them, and a write behind them is a fault. -/
def setAmpduState (sta_priv : WcnSta) (tid : BitVec 16) (state : AmpduState) : Option WcnSta :=
  if tid.toNat < 16 then
    some { sta_priv with ampdu_state := Function.update sta_priv.ampdu_state tid.toNat state }
  else none

/-- `wcn36xx_ampdu_action`. The outcomes of the requests are not looked at. -/
def ampduAction (mac : MacConf) (vif : ℕ) (action : AmpduMlmeAction) (sta : ℕ) (tid : BitVec 16) :
    Option (MacConf × List AmpduCall) := do
  let vif ← mac.vif vif
  let sta_priv ← mac.sta sta
  match action with
  | .RX_START =>
    let index := getStaIndex vif sta_priv
    return (mac.setSta sta { sta_priv with tid := tid },
      [.addBaSession tid 0 index, .addBa, .triggerBa index])
  | .RX_STOP => return (mac, [.delBa tid (getStaIndex vif sta_priv)])
  | .TX_START =>
    let sta_priv ← setAmpduState sta_priv tid .START
    return (mac.setSta sta sta_priv, [.startTxBaCb sta tid])
  | .TX_OPERATIONAL =>
    let sta_priv ← setAmpduState sta_priv tid .OPERATIONAL
    return (mac.setSta sta sta_priv, [.addBaSession tid 1 (getStaIndex vif sta_priv)])
  | .TX_STOP_FLUSH | .TX_STOP_FLUSH_CONT | .TX_STOP_CONT =>
    let sta_priv ← setAmpduState sta_priv tid .NONE
    return (mac.setSta sta sta_priv, [.stopTxBaCb sta tid])

/-- The actions that stop a TX session. -/
def AmpduMlmeAction.isTxStop : AmpduMlmeAction → Bool
  | .TX_STOP_CONT | .TX_STOP_FLUSH | .TX_STOP_FLUSH_CONT => true
  | _ => false

/-- What `wcn36xx_ampdu_action` can do to the stations: it writes `tid` when a receive session starts, and at
most `ampdu_state` otherwise. -/
theorem ampduAction_cases {mac mac' : MacConf} {vif : ℕ} {action : AmpduMlmeAction} {sta : ℕ}
    {tid : BitVec 16} {calls : List AmpduCall}
    (h : ampduAction mac vif action sta tid = some (mac', calls)) :
    ∃ s, mac.sta sta = some s ∧
      ((action = .RX_START ∧ mac' = mac.setSta sta { s with tid := tid }) ∨
        (action ≠ .RX_START ∧
          (mac' = mac ∨ ∃ state, mac' = mac.setSta sta { s with ampdu_state := state }))) := by
  unfold ampduAction at h
  simp only [Option.bind_eq_bind, Option.pure_def] at h
  obtain ⟨priv, -, h⟩ := Option.bind_eq_some_iff.mp h
  obtain ⟨s, hs, h⟩ := Option.bind_eq_some_iff.mp h
  refine ⟨s, hs, ?_⟩
  cases action with
  | RX_START =>
    simp only [Option.some.injEq, Prod.mk.injEq] at h
    exact .inl ⟨rfl, h.1.symm⟩
  | RX_STOP =>
    simp only [Option.some.injEq, Prod.mk.injEq] at h
    exact .inr ⟨nofun, .inl h.1.symm⟩
  | TX_START | TX_OPERATIONAL | TX_STOP_FLUSH | TX_STOP_FLUSH_CONT | TX_STOP_CONT =>
    obtain ⟨s', hs', h⟩ := Option.bind_eq_some_iff.mp h
    obtain ⟨-, hs'⟩ := Option.ite_none_right_eq_some.mp hs'
    simp only [Option.some.injEq, Prod.mk.injEq] at h hs'
    rw [← hs'] at h
    exact .inr ⟨nofun, .inr ⟨_, h.1.symm⟩⟩

/-! ## Histories -/

/-- What has happened to the stations. -/
inductive AmpduNote where
  /-- The private data of a station was created, all zero. -/
  | created (sta : ℕ)
  /-- A frame of a station was counted. -/
  | counted (sta : ℕ)
  /-- `ieee80211_start_tx_ba_session` was called. -/
  | started (sta tid : ℕ)
  /-- `wcn36xx_ampdu_action` was called. -/
  | action (action : AmpduMlmeAction) (sta tid : ℕ)
  deriving DecidableEq

/-- The frames of a station that were counted since it was created or a session was last started for it;
the history begins with the last note. -/
def countedSince (sta : ℕ) : List AmpduNote → ℕ
  | [] => 0
  | .created s :: hist => if s = sta then 0 else countedSince sta hist
  | .counted s :: hist => if s = sta then countedSince sta hist + 1 else countedSince sta hist
  | .started s _ :: hist => if s = sta then 0 else countedSince sta hist
  | .action _ _ _ :: hist => countedSince sta hist

/-- Since a session was last started on a TID of a station, an action has stopped it. -/
def mayStart (sta tid : ℕ) : List AmpduNote → Bool
  | [] => true
  | .created s :: hist => s == sta || mayStart sta tid hist
  | .counted _ :: hist => mayStart sta tid hist
  | .started s t :: hist => !(s == sta && t == tid) && mayStart sta tid hist
  | .action a s t :: hist => (a.isTxStop && s == sta && t == tid) || mayStart sta tid hist

/-- A frame of a station was counted. -/
def countedNotes (mac mac' : MacConf) (sta : ℕ) : List AmpduNote :=
  match mac.sta sta, mac'.sta sta with
  | some s, some s' => if s'.non_agg_frame_ct = s.non_agg_frame_ct + 1 then [.counted sta] else []
  | _, _ => []

/-- The notes about a frame: the sessions that were started, and whether it was counted. -/
def frameNotes (mac mac' : MacConf) (sta : ℕ) (es : List Effect) : List AmpduNote :=
  es.filterMap (fun
    | .startTxBaSession s t => some (.started s t)
    | _ => none) ++ countedNotes mac mac' sta

/-! ## The system -/

/-- The stations and their history. -/
structure AmpduWorld where
  mac : MacConf
  hist : List AmpduNote := []

/-- The steps of stations with sessions. -/
inductive AmpduEvent where
  /-- mac80211 creates a station on an interface and calls `wcn36xx_sta_add`. -/
  | create (sta : ℕ) (vif : Option ℕ)
  /-- A QoS data frame reaches `wcn36xx_tx_start_ampdu`. -/
  | frame (sta : ℕ) (skb : SkBuff)
  /-- mac80211 calls `wcn36xx_ampdu_action`. -/
  | action (vif : ℕ) (action : AmpduMlmeAction) (sta : ℕ) (tid : BitVec 16)
  /-- mac80211 changes the channel or the interfaces. -/
  | config (is_ht : Bool) (band : Band) (vif : ℕ → Option WcnVif)

/-- The stations as a transition system. -/
def ampduSystem : System AmpduWorld AmpduEvent where
  init w := w.mac.sta = (fun _ => none) ∧ w.hist = []
  step w
    | .create sta vif =>
      some { mac := w.mac.setSta sta { vif := vif }, hist := .created sta :: w.hist }
    | .frame sta skb =>
      (txStartAmpdu w.mac sta skb).map fun r => ⟨r.1, frameNotes w.mac r.1 sta r.2 ++ w.hist⟩
    | .action vif action sta tid =>
      (ampduAction w.mac vif action sta tid).map fun r =>
        ⟨r.1, .action action sta tid.toNat :: w.hist⟩
    | .config is_ht band vif =>
      some { w with mac := { w.mac with is_ht := is_ht, band := band, vif := vif } }

/-- The counter and the states of a station say what its history says. -/
structure StationInv (s : WcnSta) (sta : ℕ) (hist : List AmpduNote) : Prop where
  count : s.non_agg_frame_ct = countedSince sta hist
  count_le : s.non_agg_frame_ct ≤ WCN36XX_AMPDU_START_THRESH
  start : ∀ tid, s.ampdu_state tid = .NONE → mayStart sta tid hist = true

/-- The invariant of all stations. -/
def AmpduInv (w : AmpduWorld) : Prop := ∀ sta s, w.mac.sta sta = some s → StationInv s sta w.hist

/-- What happens to another station does not matter. -/
theorem StationInv.other {s : WcnSta} {sta other : ℕ} {hist : List AmpduNote}
    (h : StationInv s sta hist) (hne : other ≠ sta) {note : AmpduNote}
    (hnote : note = .created other ∨ note = .counted other ∨ (∃ tid, note = .started other tid) ∨
      ∃ a tid, note = .action a other tid) : StationInv s sta (note :: hist) := by
  have hb : (other == sta) = false := beq_eq_false_iff_ne.mpr hne
  rcases hnote with rfl | rfl | ⟨t, rfl⟩ | ⟨a, t, rfl⟩
  · refine ⟨?_, h.count_le, fun tid hs => ?_⟩
    · rw [countedSince, if_neg hne, h.count]
    · rw [mayStart, h.start tid hs, Bool.or_true]
  · refine ⟨?_, h.count_le, fun tid hs => h.start tid hs⟩
    rw [countedSince, if_neg hne, h.count]
  · refine ⟨?_, h.count_le, fun tid hs => ?_⟩
    · rw [countedSince, if_neg hne, h.count]
    · rw [mayStart, hb, h.start tid hs]
      rfl
  · refine ⟨h.count, h.count_le, fun tid hs => ?_⟩
    rw [mayStart, h.start tid hs, Bool.or_true]

/-- A new state of one TID. -/
theorem StationInv.setState {s s' : WcnSta} {sta : ℕ} {hist : List AmpduNote}
    (h : StationInv s sta hist) {tid : BitVec 16} {state : AmpduState}
    (hset : setAmpduState s tid state = some s') {a : AmpduMlmeAction}
    (ha : state = .NONE → a.isTxStop = true) : StationInv s' sta (.action a sta tid.toNat :: hist) := by
  obtain ⟨-, heq⟩ := Option.ite_none_right_eq_some.mp hset
  rw [Option.some.injEq] at heq
  subst heq
  refine ⟨h.count, h.count_le, fun t hs => ?_⟩
  dsimp only at hs
  rw [mayStart]
  rcases eq_or_ne t tid.toNat with rfl | hne
  · rw [Function.update_self] at hs
    rw [ha hs, beq_self_eq_true, beq_self_eq_true]
    rfl
  · rw [Function.update_of_ne hne] at hs
    rw [h.start t hs, Bool.or_true]

/-- A station of a configuration in which one station was written. -/
theorem MacConf.sta_setSta {mac : MacConf} {sta sta' : ℕ} {s s' : WcnSta}
    (h : (mac.setSta sta s).sta sta' = some s') :
    (sta' = sta ∧ s' = s) ∨ (sta' ≠ sta ∧ mac.sta sta' = some s') := by
  unfold MacConf.setSta at h
  rcases eq_or_ne sta' sta with rfl | hne
  · dsimp only at h
    rw [Function.update_self, Option.some.injEq] at h
    exact Or.inl ⟨rfl, h.symm⟩
  · dsimp only at h
    rw [Function.update_of_ne hne] at h
    exact Or.inr ⟨hne, h⟩

/-- When nothing changes, nothing is noted. -/
theorem frameNotes_same (mac : MacConf) (sta : ℕ) : frameNotes mac mac sta [] = [] := by
  unfold frameNotes countedNotes
  cases mac.sta sta with
  | none => rfl
  | some s =>
    have hne : ¬s.non_agg_frame_ct = s.non_agg_frame_ct + 1 := by omega
    simp only [List.filterMap_nil, List.nil_append, if_neg hne]

/-- What is noted when the private data of the frame's station was written. -/
theorem frameNotes_setSta {mac : MacConf} {sta : ℕ} {s : WcnSta} (hs : mac.sta sta = some s)
    (s' : WcnSta) (es : List Effect) :
    frameNotes mac (mac.setSta sta s') sta es = es.filterMap (fun
      | .startTxBaSession s t => some (.started s t)
      | _ => none) ++
      if s'.non_agg_frame_ct = s.non_agg_frame_ct + 1 then [.counted sta] else [] := by
  unfold frameNotes countedNotes MacConf.setSta
  dsimp only
  rw [hs, Function.update_self]

/-- A call of `wcn36xx_tx_start_ampdu` keeps the invariant. -/
theorem AmpduInv.frame {w : AmpduWorld} (h : AmpduInv w) {sta : ℕ} {skb : SkBuff} {mac : MacConf}
    {es : List Effect} (hrun : txStartAmpdu w.mac sta skb = some (mac, es)) :
    AmpduInv ⟨mac, frameNotes w.mac mac sta es ++ w.hist⟩ := by
  intro sta' s' hs'
  rcases txStartAmpdu_cases hrun with ⟨rfl, rfl⟩ | ⟨s, hs, hstate, ⟨hlt, rfl, rfl⟩ | ⟨hge, rfl, rfl⟩⟩
  · rw [frameNotes_same]
    exact h sta' s' hs'
  · -- The frame is counted.
    rw [frameNotes_setSta hs, if_pos rfl]
    have hinv := h sta s hs
    rcases MacConf.sta_setSta hs' with ⟨rfl, rfl⟩ | ⟨hne, hs'⟩
    · refine ⟨?_, Int.add_one_le_of_lt hlt, fun tid ht => hinv.start tid ht⟩
      dsimp only
      rw [hinv.count, List.filterMap_nil, List.nil_append, List.singleton_append, countedSince,
        if_pos rfl, Nat.cast_add, Nat.cast_one]
    · exact (h sta' s' hs').other hne.symm (.inr (.inl rfl))
  · -- A session is started.
    have hne : ¬(0 : ℤ) = s.non_agg_frame_ct + 1 := by
      have hthresh : WCN36XX_AMPDU_START_THRESH = 20 := rfl
      omega
    rw [frameNotes_setSta hs, if_neg hne]
    have hinv := h sta s hs
    rcases MacConf.sta_setSta hs' with ⟨rfl, rfl⟩ | ⟨hne, hs'⟩
    · refine ⟨?_, (by decide : (0 : ℤ) ≤ WCN36XX_AMPDU_START_THRESH), fun tid ht => ?_⟩
      · rw [List.append_nil, List.filterMap_cons, List.filterMap_nil, List.singleton_append,
          countedSince, if_pos rfl]
        rfl
      · rw [List.append_nil, List.filterMap_cons, List.filterMap_nil, List.singleton_append, mayStart]
        dsimp only at ht
        rcases eq_or_ne tid skb.tid with rfl | hne
        · rw [Function.update_self] at ht
          cases ht
        · rw [Function.update_of_ne hne] at ht
          rw [hinv.start tid ht, beq_eq_false_iff_ne.mpr hne.symm, Bool.and_false]
          rfl
    · exact (h sta' s' hs').other hne.symm (.inr (.inr (.inl ⟨_, rfl⟩)))

/-- A call of `wcn36xx_ampdu_action` keeps the invariant. -/
theorem AmpduInv.action {w : AmpduWorld} (h : AmpduInv w) {vif : ℕ} {action : AmpduMlmeAction}
    {sta : ℕ} {tid : BitVec 16} {mac : MacConf} {calls : List AmpduCall}
    (hrun : ampduAction w.mac vif action sta tid = some (mac, calls)) :
    AmpduInv ⟨mac, .action action sta tid.toNat :: w.hist⟩ := by
  simp only [ampduAction, Option.bind_eq_bind, Option.bind_eq_some_iff] at hrun
  obtain ⟨vif_priv, -, s, hs, hrun⟩ := hrun
  have hinv := h sta s hs
  -- The station itself is as its function says, and the others are as they were.
  have hset : ∀ s', StationInv s' sta (.action action sta tid.toNat :: w.hist) →
      AmpduInv ⟨w.mac.setSta sta s', .action action sta tid.toNat :: w.hist⟩ := by
    intro s' hs' sta₁ s₁ hs₁
    rcases MacConf.sta_setSta hs₁ with ⟨rfl, rfl⟩ | ⟨hne, hs₁⟩
    · exact hs'
    · exact (h sta₁ s₁ hs₁).other hne.symm (.inr (.inr (.inr ⟨_, _, rfl⟩)))
  have hsame : ∀ s', s'.non_agg_frame_ct = s.non_agg_frame_ct → s'.ampdu_state = s.ampdu_state →
      StationInv s' sta (.action action sta tid.toNat :: w.hist) := by
    intro s' hct hstate
    refine ⟨hct.trans hinv.count, hct ▸ hinv.count_le, fun t ht => ?_⟩
    rw [mayStart, hinv.start t (hstate ▸ ht), Bool.or_true]
  cases action with
  | RX_START =>
    simp only [Option.pure_def, Option.some.injEq, Prod.mk.injEq] at hrun
    rw [← hrun.1]
    exact hset _ (hsame _ rfl rfl)
  | RX_STOP =>
    simp only [Option.pure_def, Option.some.injEq, Prod.mk.injEq] at hrun
    rw [← hrun.1]
    intro sta₁ s₁ hs₁
    rcases eq_or_ne sta₁ sta with rfl | hne
    · rw [hs, Option.some.injEq] at hs₁
      exact hs₁ ▸ hsame s rfl rfl
    · exact (h sta₁ s₁ hs₁).other hne.symm (.inr (.inr (.inr ⟨_, _, rfl⟩)))
  | TX_START | TX_OPERATIONAL =>
    simp only [Option.bind_eq_some_iff, Option.pure_def, Option.some.injEq, Prod.mk.injEq] at hrun
    obtain ⟨s', hstate, heq, -⟩ := hrun
    rw [← heq]
    exact hset _ (hinv.setState hstate nofun)
  | TX_STOP_CONT | TX_STOP_FLUSH | TX_STOP_FLUSH_CONT =>
    simp only [Option.bind_eq_some_iff, Option.pure_def, Option.some.injEq, Prod.mk.injEq] at hrun
    obtain ⟨s', hstate, heq, -⟩ := hrun
    rw [← heq]
    exact hset _ (hinv.setState hstate fun _ => rfl)

/-- Every step keeps the invariant. -/
theorem ampduInv_step (w : AmpduWorld) (e : AmpduEvent) (w' : AmpduWorld) (h : AmpduInv w)
    (hstep : ampduSystem.step w e = some w') : AmpduInv w' := by
  cases e with
  | create sta vif =>
    rw [ampduSystem, Option.some.injEq] at hstep
    rw [← hstep]
    intro sta' s' hs'
    rcases MacConf.sta_setSta hs' with ⟨rfl, rfl⟩ | ⟨hne, hs'⟩
    · refine ⟨?_, (by decide : (0 : ℤ) ≤ WCN36XX_AMPDU_START_THRESH), fun tid _ => ?_⟩
      · rw [countedSince, if_pos rfl]
        rfl
      · rw [mayStart, beq_self_eq_true]
        rfl
    · exact (h sta' s' hs').other hne.symm (.inl rfl)
  | frame sta skb =>
    obtain ⟨⟨mac, es⟩, hrun, rfl⟩ := Option.map_eq_some_iff.mp hstep
    exact h.frame hrun
  | action vif action sta tid =>
    obtain ⟨⟨mac, calls⟩, hrun, rfl⟩ := Option.map_eq_some_iff.mp hstep
    exact h.action hrun
  | config is_ht band vif =>
    rw [ampduSystem, Option.some.injEq] at hstep
    rw [← hstep]
    exact h

/-- In every reachable state the counter of every station is between 0 and the threshold. A frame starts a
session only on its own TID, when that has the state `WCN36XX_AMPDU_NONE`, exactly the threshold of frames
of the station have been counted since the last start, and no session on the TID has been started that was
not stopped. A frame on a TID with another state changes nothing. -/
theorem ampdu_safe {w : AmpduWorld} (h : ampduSystem.Reachable w) :
    (∀ sta s, w.mac.sta sta = some s →
      0 ≤ s.non_agg_frame_ct ∧ s.non_agg_frame_ct ≤ WCN36XX_AMPDU_START_THRESH) ∧
    ∀ sta s skb mac es, w.mac.sta sta = some s → txStartAmpdu w.mac sta skb = some (mac, es) →
      (∀ sta' tid, Effect.startTxBaSession sta' tid ∈ es →
        sta' = sta ∧ tid = skb.tid ∧ s.ampdu_state tid = .NONE ∧
        (countedSince sta w.hist : ℤ) = WCN36XX_AMPDU_START_THRESH ∧ mayStart sta tid w.hist = true) ∧
      (s.ampdu_state skb.tid ≠ .NONE → mac = w.mac ∧ es = []) := by
  have hinv : AmpduInv w := by
    refine h.invariant (fun w hw sta s hs => ?_) (fun w e w' => ampduInv_step w e w')
    rw [hw.1] at hs
    cases hs
  refine ⟨fun sta s hs => ?_, fun sta s skb mac es hs hrun => ⟨fun sta' tid hmem => ?_, fun hne => ?_⟩⟩
  · have hsta := hinv sta s hs
    exact ⟨hsta.count ▸ Int.natCast_nonneg _, hsta.count_le⟩
  · rcases txStartAmpdu_cases hrun with ⟨-, rfl⟩ | ⟨s₁, hs₁, hstate, ⟨-, rfl, -⟩ | ⟨hge, rfl, -⟩⟩
    · cases hmem
    · cases hmem
    · rw [hs, Option.some.injEq] at hs₁
      subst hs₁
      have heq := List.mem_singleton.mp hmem
      rw [Effect.startTxBaSession.injEq] at heq
      obtain ⟨rfl, rfl⟩ := heq
      have hsta := hinv sta' s hs
      exact ⟨rfl, rfl, hstate, hsta.count ▸ le_antisymm hsta.count_le hge, hsta.start _ hstate⟩
  · rcases txStartAmpdu_cases hrun with hsame | ⟨s₁, hs₁, hstate, -⟩
    · exact hsame
    · rw [hs, Option.some.injEq] at hs₁
      exact absurd (hs₁ ▸ hstate) hne

/-- A QoS data frame on TID 3. -/
def qosFrame : SkBuff where
  ptr := 1
  data := [0x88, 0] ++ List.replicate 22 0 ++ [3, 0]
  dma := 0
  flags := 0
  queue_mapping := 2

/-- One station is created, 20 of its frames are counted, and the next one starts a session on TID 3. -/
theorem ampdu_safe_start :
    ∃ w s mac, ampduSystem.Reachable w ∧ w.mac.sta 7 = some s ∧
      txStartAmpdu w.mac 7 qosFrame = some (mac, [.startTxBaSession 7 3]) ∧
      s.ampdu_state 3 = .NONE ∧ (countedSince 7 w.hist : ℤ) = WCN36XX_AMPDU_START_THRESH := by
  obtain ⟨w, hrun, hw⟩ : ∃ w, ampduSystem.runFrom ⟨{ is_ht := true }, []⟩
      (.create 7 none :: List.replicate 20 (.frame 7 qosFrame)) = some w ∧
      decide ((txStartAmpdu w.mac 7 qosFrame).map Prod.snd = some [.startTxBaSession 7 3] ∧
        (w.mac.sta 7).isSome = true) = true :=
    (Option.any_eq_true _ _).mp (by decide +kernel)
  obtain ⟨hstart, hsta⟩ := of_decide_eq_true hw
  obtain ⟨⟨mac, es⟩, htx, rfl⟩ := Option.map_eq_some_iff.mp hstart
  obtain ⟨s, hs⟩ := Option.isSome_iff_exists.mp hsta
  have hreach : ampduSystem.Reachable w := System.Reachable.runFrom (.init ⟨rfl, rfl⟩) hrun
  obtain ⟨-, -, hstate, hcount, -⟩ :=
    ((ampdu_safe hreach).2 7 s qosFrame mac _ hs htx).1 7 3 List.mem_cons_self
  exact ⟨w, s, mac, hreach, hs, htx, hstate, hcount⟩

end Wcn36xx
