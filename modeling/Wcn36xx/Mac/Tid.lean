import Wcn36xx.Txrx.SentBd

/-!
# The TID of a frame

A QoS data frame says its TID itself, and `wcn36xx_tx_start_ampdu` counts it under that TID.
`wcn36xx_set_tx_data` writes another one to the BD: `tid` of the station, which only
`wcn36xx_ampdu_action` writes, when the station starts a receive session. `tids_agree_iff` is about all runs:
the two agree on every frame that a run has sent exactly when each had the TID of the last receive session
that its station had started before.
-/

namespace Wcn36xx

open Support (System)

/-- What has happened to the stations. -/
inductive TidNote where
  /-- The private data of a station was created, all zero. -/
  | created (sta : ℕ)
  /-- A receive session of a station was started. -/
  | rxStart (sta : ℕ) (tid : BitVec 16)
  /-- A frame was sent, with the bytes of its BD. -/
  | sent (sta_priv : Option ℕ) (skb : SkBuff) (bd : List Byte)

/-- The TID of the last receive session of a station since it was created, 0 if there is none; the history
begins with the last note. -/
def lastRxTid (sta : ℕ) : List TidNote → BitVec 16
  | [] => 0
  | .created s :: hist => if s = sta then 0 else lastRxTid sta hist
  | .rxStart s tid :: hist => if s = sta then tid else lastRxTid sta hist
  | .sent _ _ _ :: hist => lastRxTid sta hist

/-- Every QoS data frame that was sent to a station has a property, together with its BD and with what
happened before. -/
def EverySent (P : ℕ → SkBuff → List Byte → List TidNote → Prop) : List TidNote → Prop
  | [] => True
  | .sent (some sta) skb bd :: hist =>
    (ieee80211IsDataQos skb.frameControl = true → P sta skb bd hist) ∧ EverySent P hist
  | _ :: hist => EverySent P hist

instance EverySent.decidable {P : ℕ → SkBuff → List Byte → List TidNote → Prop}
    [∀ sta skb bd hist, Decidable (P sta skb bd hist)] : ∀ hist, Decidable (EverySent P hist)
  | [] => .isTrue trivial
  | .sent (some _) _ _ :: hist => @instDecidableAnd _ _ inferInstance (decidable hist)
  | .sent none _ _ :: hist => decidable hist
  | .created _ :: hist => decidable hist
  | .rxStart _ _ :: hist => decidable hist

/-- Two properties that agree wherever a third one holds. -/
theorem EverySent.congr {P Q R : ℕ → SkBuff → List Byte → List TidNote → Prop}
    (h : ∀ sta skb bd hist, P sta skb bd hist → (Q sta skb bd hist ↔ R sta skb bd hist)) :
    ∀ {hist}, EverySent P hist → (EverySent Q hist ↔ EverySent R hist)
  | [], _ => Iff.rfl
  | .sent (some _) _ _ :: _, hP =>
    and_congr (forall_congr' fun hqos => h _ _ _ _ (hP.1 hqos)) (EverySent.congr h hP.2)
  | .sent none _ _ :: hist, hP => @EverySent.congr _ _ _ h hist hP
  | .created _ :: hist, hP => @EverySent.congr _ _ _ h hist hP
  | .rxStart _ _ :: hist, hP => @EverySent.congr _ _ _ h hist hP

/-- The TID in the BD of every frame is that of the frame. -/
def TidsAgree : List TidNote → Prop := EverySent fun _ skb bd _ => txPdu bd .tid = skb.tid

/-- The TID of every frame is that of the last receive session of its station, as far as four bits hold
it. -/
def TidsFollowRx : List TidNote → Prop :=
  EverySent fun sta skb _ hist => skb.tid = (lastRxTid sta hist).toNat % 16

instance TidsAgree.decidable (hist : List TidNote) : Decidable (TidsAgree hist) :=
  @EverySent.decidable _ (fun _ _ _ _ => Nat.decEq _ _) hist

instance TidsFollowRx.decidable (hist : List TidNote) : Decidable (TidsFollowRx hist) :=
  @EverySent.decidable _ (fun _ _ _ _ => Nat.decEq _ _) hist

/-- The driver and the history of its stations. -/
structure TidWorld where
  wcn : Wcn
  hist : List TidNote := []

/-- The steps of a driver that aggregates. -/
inductive TidEvent where
  /-- mac80211 creates a station on an interface and calls `wcn36xx_sta_add`. -/
  | create (sta : ℕ) (vif : Option ℕ)
  /-- mac80211 calls `wcn36xx_ampdu_action`. -/
  | action (vif : ℕ) (action : AmpduMlmeAction) (sta : ℕ) (tid : BitVec 16)
  /-- mac80211 calls `wcn36xx_start_tx` through `wcn36xx_tx`. -/
  | startTx (sta_priv : Option ℕ) (skb : SkBuff)
  /-- Another callback changes a station: no other assigns to `tid`. -/
  | station (sta : ℕ) (sta_priv : WcnSta)
  /-- Anything else happens to the driver: interfaces and the channel change, and frames complete. -/
  | other (wcn : Wcn)

/-- The next world: the configuration after a call, and the note about it. -/
def TidWorld.next (w : TidWorld) (mac : MacConf) (notes : List TidNote) : TidWorld :=
  ⟨{ w.wcn with mac := mac }, notes ++ w.hist⟩

/-- The driver as a transition system. -/
def tidSystem : System TidWorld TidEvent where
  init w := w.wcn.mac.sta = (fun _ => none) ∧ w.hist = []
  step w
    | .create sta vif => some (w.next (w.wcn.mac.setSta sta { vif := vif }) [.created sta])
    | .action vif action sta tid => do
      let (mac, _) ← ampduAction w.wcn.mac vif action sta tid
      return w.next mac (if action = .RX_START then [.rxStart sta tid] else [])
    | .startTx sta_priv skb => do
      let addr ← dxeGetNextBd w.wcn skb.isLow
      let (wcn, ret) ← startTx w.wcn sta_priv skb
      if ret = 0 then
        return ⟨wcn, .sent sta_priv skb ((wcn.txCh skb.isLow).readBd addr) :: w.hist⟩
      else return ⟨wcn, w.hist⟩
    | .station sta sta_priv => do
      let s ← w.wcn.mac.sta sta
      return w.next (w.wcn.mac.setSta sta { sta_priv with tid := s.tid }) []
    | .other wcn => some ⟨{ wcn with mac := { wcn.mac with sta := w.wcn.mac.sta } }, w.hist⟩

/-! ## The invariant -/

/-- The station's `tid` is what the history says, and every BD has it. -/
structure TidInv (w : TidWorld) : Prop where
  sta : ∀ sta s, w.wcn.mac.sta sta = some s → s.tid = lastRxTid sta w.hist
  sent : EverySent (fun sta _ bd hist => txPdu bd .tid = (lastRxTid sta hist).toNat % 16) w.hist

/-- The TID in the BD of a data frame that is accepted is that of the station. -/
theorem txPdu_tid_startTx {wcn wcn' : Wcn} {sta : ℕ} {skb : SkBuff} {addr : ℕ}
    (h : startTx wcn (some sta) skb = some (wcn', 0))
    (haddr : dxeGetNextBd wcn skb.isLow = some addr)
    (hqos : ieee80211IsDataQos skb.frameControl = true) :
    ∃ s, wcn.mac.sta sta = some s ∧
      txPdu ((wcn'.txCh skb.isLow).readBd addr) .tid = s.tid.toNat % 16 := by
  obtain ⟨addr', bd, vif, mac, es, haddr', hbuilt, hread⟩ := readBd_startTx h
  obtain rfl : addr = addr' := Option.some.inj (haddr.symm.trans haddr')
  have hlow : skb.isLow = true := isData_of_isDataQos hqos
  obtain ⟨s, hs⟩ : ∃ s, wcn.mac.sta sta = some s := by
    have hdata := hbuilt
    rw [startTxBd, hlow, if_pos rfl] at hdata
    obtain ⟨-, bd₁, hsta, -⟩ := setTxData_eq hdata
    exact (setTxDataSta_keeps hsta).2.2 sta rfl
  have htid : startTxTid wcn.mac (some sta) skb = s.tid := by
    rw [startTxTid, hlow, if_pos rfl, Option.bind_some, hs]
    rfl
  refine ⟨s, hs, ?_⟩
  rw [hread, txPdu_sentBytes, pdu_startTxBd hbuilt, htid]
  exact BitVec.toNat_setWidth _ _

/-- A step that keeps the stations' `tid`, and is none of those that the history looks for. -/
theorem TidInv.same {w : TidWorld} (h : TidInv w) {wcn : Wcn}
    (htid : ∀ sta, (wcn.mac.sta sta).map WcnSta.tid = (w.wcn.mac.sta sta).map WcnSta.tid) :
    TidInv ⟨wcn, w.hist⟩ where
  sta sta s hs := by
    have hsame := htid sta
    rw [show wcn.mac.sta sta = some s from hs] at hsame
    obtain ⟨s', hs', heq⟩ := Option.map_eq_some_iff.mp hsame.symm
    rw [← heq]
    exact h.sta sta s' hs'
  sent := h.sent

/-- Writing the other fields of a station's private data. -/
theorem tid_setSta_same {mac : MacConf} {sta : ℕ} {s s' : WcnSta} (hs : mac.sta sta = some s)
    (htid : s'.tid = s.tid) (sta' : ℕ) :
    ((mac.setSta sta s').sta sta').map WcnSta.tid = (mac.sta sta').map WcnSta.tid := by
  unfold MacConf.setSta
  dsimp only
  rcases eq_or_ne sta' sta with rfl | hne
  · rw [Function.update_self, hs, Option.map_some, Option.map_some, htid]
  · rw [Function.update_of_ne hne]

/-- `wcn36xx_start_tx` keeps the stations' `tid`. -/
theorem tid_startTx {wcn wcn' : Wcn} {sta_priv : Option ℕ} {skb : SkBuff} {ret : ℤ}
    (h : startTx wcn sta_priv skb = some (wcn', ret)) (sta : ℕ) :
    (wcn'.mac.sta sta).map WcnSta.tid = (wcn.mac.sta sta).map WcnSta.tid := by
  have hmap : ∀ s : Option WcnSta, s.map WcnSta.tid =
      (s.map WcnSta.withoutAmpdu).map WcnSta.tid := by
    intro s
    rw [Option.map_map]
    rfl
  rcases mac_startTx h with heq | ⟨bd, vif, es, hbuilt⟩
  · rw [heq]
  · rw [hmap, withoutAmpdu_startTxBd hbuilt, ← hmap]

/-- Every step keeps the invariant. -/
theorem tidInv_step (w : TidWorld) (e : TidEvent) (w' : TidWorld) (h : TidInv w)
    (hstep : tidSystem.step w e = some w') : TidInv w' := by
  cases e with
  | create sta vif =>
    rw [tidSystem, Option.some.injEq] at hstep
    rw [← hstep]
    refine ⟨fun sta' s' hs' => ?_, h.sent⟩
    unfold TidWorld.next
    rcases MacConf.sta_setSta hs' with ⟨rfl, rfl⟩ | ⟨hne, hs'⟩
    · exact (if_pos rfl).symm
    · exact (h.sta sta' s' hs').trans (if_neg hne.symm).symm
  | action vif action sta tid =>
    obtain ⟨⟨mac, calls⟩, hrun, hstep⟩ := Option.bind_eq_some_iff.mp hstep
    rw [Option.pure_def, Option.some.injEq] at hstep
    rw [← hstep]
    obtain ⟨s, hs, ⟨rfl, rfl⟩ | ⟨hne, hmac⟩⟩ := ampduAction_cases hrun
    · -- A receive session starts.
      refine ⟨fun sta' s' hs' => ?_, h.sent⟩
      unfold TidWorld.next
      rcases MacConf.sta_setSta hs' with ⟨rfl, rfl⟩ | ⟨hne, hs'⟩
      · exact (if_pos rfl).symm
      · exact (h.sta sta' s' hs').trans (if_neg hne.symm).symm
    · rw [if_neg hne]
      refine h.same fun sta' => ?_
      rcases hmac with rfl | ⟨state, rfl⟩
      · rfl
      · exact tid_setSta_same hs (by rfl) sta'
  | startTx sta_priv skb =>
    obtain ⟨addr, haddr, hstep⟩ := Option.bind_eq_some_iff.mp hstep
    obtain ⟨⟨wcn, ret⟩, hrun, hstep⟩ := Option.bind_eq_some_iff.mp hstep
    have hsame := h.same (tid_startTx hrun)
    dsimp only at hstep
    split_ifs at hstep with hret
    · -- The frame is sent.
      rw [Option.pure_def, Option.some.injEq] at hstep
      rw [← hstep]
      refine ⟨hsame.sta, ?_⟩
      cases sta_priv with
      | none => exact h.sent
      | some sta =>
        refine ⟨fun hqos => ?_, h.sent⟩
        rw [hret] at hrun
        obtain ⟨s, hs, htid⟩ := txPdu_tid_startTx hrun haddr hqos
        rw [htid, h.sta sta s hs]
    · rw [Option.pure_def, Option.some.injEq] at hstep
      rw [← hstep]
      exact hsame
  | station sta sta_priv =>
    obtain ⟨s, hs, hstep⟩ := Option.bind_eq_some_iff.mp hstep
    rw [Option.pure_def, Option.some.injEq] at hstep
    rw [← hstep]
    exact h.same (tid_setSta_same hs (by rfl))
  | other wcn =>
    rw [tidSystem, Option.some.injEq] at hstep
    rw [← hstep]
    exact h.same fun _ => rfl

/-- In every run, the BD of every QoS data frame that was sent to a station has the frame's TID if and only
if every such frame had the TID of the last receive session of its station, or 0 where there was none. -/
theorem tids_agree_iff {w : TidWorld} (hreach : tidSystem.Reachable w) :
    TidsAgree w.hist ↔ TidsFollowRx w.hist := by
  have hinv : TidInv w := by
    refine hreach.invariant (fun w hw => ⟨fun sta s hs => ?_, ?_⟩) tidInv_step
    · rw [hw.1] at hs
      cases hs
    · rw [hw.2]
      trivial
  refine EverySent.congr (fun sta skb bd hist htid => ?_) hinv.sent
  rw [htid]
  exact eq_comm

/-- A replay from the state after the set-up. -/
theorem tidSystem_replay {p : TxParams} {mac : MacConf} (hmac : mac.sta = fun _ => none)
    {es : List TidEvent} {P : TidWorld → Bool}
    (h : ((txStart p mac).bind fun s => tidSystem.runFrom ⟨s.wcn, []⟩ es).any P = true) :
    ∃ w, tidSystem.Reachable w ∧ P w = true := by
  obtain ⟨w, hrun, hP⟩ := (Option.any_eq_true _ _).mp h
  obtain ⟨s, hs, hrun⟩ := Option.bind_eq_some_iff.mp hrun
  have hinit : tidSystem.init ⟨s.wcn, []⟩ := by
    refine ⟨?_, rfl⟩
    dsimp only
    rw [mac_txStart hs, hmac]
  exact ⟨w, System.Reachable.runFrom (.init hinit) hrun, hP⟩

/-- Nothing has been sent but a frame on the TID of the receive session. -/
theorem tids_agree_iff_rxStart : ∃ w, tidSystem.Reachable w ∧ w.hist.length = 3 ∧ TidsAgree w.hist := by
  obtain ⟨w, hreach, hw⟩ := @tidSystem_replay driverParams oneStation rfl
    [.create 5 (some 1), .action 1 .RX_START 5 3, .startTx (some 5) qosFrame]
    (fun w => decide (w.hist.length = 3 ∧ TidsFollowRx w.hist)) (by decide +kernel)
  obtain ⟨hlen, hfollow⟩ := of_decide_eq_true hw
  exact ⟨w, hreach, hlen, (tids_agree_iff hreach).mpr hfollow⟩

/-- A frame on TID 3 to a station that has not started a receive session. -/
theorem tids_agree_fails_without_session :
    ∃ w, tidSystem.Reachable w ∧ ¬TidsAgree w.hist := by
  obtain ⟨w, hreach, hw⟩ := @tidSystem_replay driverParams oneStation rfl
    [.create 5 (some 1), .startTx (some 5) qosFrame]
    (fun w => decide (¬TidsAgree w.hist)) (by decide +kernel)
  exact ⟨w, hreach, of_decide_eq_true hw⟩

end Wcn36xx
