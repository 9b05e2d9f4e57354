import Wcn36xx.Mac.Ampdu
import Wcn36xx.Txrx.BdIntegrity
import Wcn36xx.Txrx.BdLayout

/-!
# The BD of an accepted frame

What the device reads of the BD that `wcn36xx_start_tx` has built: the bytes in the channel's memory when
the frame has been accepted, and the PDU in them. Of the stations the function changes only what it counts
for A-MPDU sessions.
-/

namespace Wcn36xx

open Support

/-! ## The bytes -/

/-- The stores of `wcn36xx_dxe_tx_frame` are not to the BD, and not to the configuration. -/
theorem dxeTxFrame_keeps {wcn wcn' : Wcn} {priv : Option WcnVif} {skb : SkBuff} {is_low : Bool}
    {ret : ℤ} (h : dxeTxFrame wcn priv skb is_low = some (wcn', ret)) :
    (∀ addr, (wcn'.txCh is_low).readBd addr = (wcn.txCh is_low).readBd addr) ∧
      wcn'.mac = wcn.mac := by
  have hmodCtl : ∀ {ch ch' : DxeCh} {p : ℕ} {f : DxeCtl → DxeCtl}, ch.modCtl p f = some ch' →
      ch'.bd = ch.bd := by
    intro ch ch' p f hch
    obtain ⟨c, -, rfl⟩ := Option.map_eq_some_iff.mp hch
    rfl
  have hset : ∀ (wcn : Wcn) (ch : DxeCh), (wcn.setTxCh is_low ch).mac = wcn.mac := by
    intro wcn ch
    unfold Wcn.setTxCh
    split_ifs <;> rfl
  unfold dxeTxFrame at h
  simp only [Option.bind_eq_bind, Option.bind_eq_some_iff, Option.pure_def] at h
  obtain ⟨ctl, -, c, -, next, -, n, -, h⟩ := h
  by_cases hfull : n.skb.isSome = true
  · rw [if_pos hfull, Option.some.injEq, Prod.mk.injEq] at h
    rw [← h.1]
    exact ⟨fun _ => rfl, rfl⟩
  · simp only [if_neg hfull, Option.bind_eq_some_iff] at h
    obtain ⟨ch₁, hch₁, i, -, ch₂, hch₂, h⟩ := h
    have hbd₂ : ch₂.bd = (wcn.txCh is_low).bd := by
      rw [hmodCtl hch₂, ← hmodCtl hch₁]
      rfl
    by_cases hbd : n.bd_cpu_addr ≠ 0
    · rw [if_pos hbd, Option.some.injEq, Prod.mk.injEq] at h
      rw [← h.1]
      refine ⟨fun addr => ?_, hset _ _⟩
      rw [Wcn.txCh_setTxCh, DxeCh.readBd, hbd₂]
      rfl
    · simp only [if_neg hbd, Option.bind_eq_some_iff, Option.some.injEq, Prod.mk.injEq] at h
      obtain ⟨j, -, wcn₁, hkick, rfl, -⟩ := h
      obtain ⟨kick, rfl, -⟩ := dxeTxKick_cases hkick
      refine ⟨fun addr => ?_, hset _ _⟩
      rw [Wcn.emit_txCh, Wcn.emit_txCh, Wcn.txCh_setTxCh, DxeCh.readBd]
      dsimp only [DxeCh.modDesc]
      rw [hbd₂]
      rfl

/-- Where `wcn36xx_start_tx` comes to `wcn36xx_dxe_tx_frame`, the head's BD is the one that is built for
the frame. -/
theorem readBd_startTxFill {wcn wcn' : Wcn} {sta_priv : Option ℕ} {skb : SkBuff} {vif : ℕ}
    (h : startTxFill wcn sta_priv skb = some (wcn', .inr vif)) :
    ∃ addr bd mac es, dxeGetNextBd wcn skb.isLow = some addr ∧
      startTxBd wcn.mac sta_priv skb = some (bd, vif, mac, es) ∧
      (wcn'.txCh skb.isLow).readBd addr = bd.sentBytes := by
  unfold startTxFill at h
  obtain ⟨addr, haddr, h⟩ := Option.bind_eq_some_iff.mp h
  split_ifs at h with hnull hack hstatus
  · -- A null BD is an error.
    cases h
  · -- So is a second frame that wants its status.
    cases h
  all_goals
    obtain ⟨⟨bd, vif', mac, es⟩, hbuilt, h⟩ := Option.bind_eq_some_iff.mp h
    simp only [Option.pure_def, Option.some.injEq, Prod.mk.injEq, Sum.inr.injEq] at h
    obtain ⟨rfl, rfl⟩ := h
    refine ⟨addr, bd, mac, es, haddr, hbuilt, ?_⟩
    rw [Wcn.writeBd, Wcn.txCh_setTxCh]
    exact DxeCh.readBd_writeBd_self _ _ bd.length_sentBytes

/-- A frame that `wcn36xx_start_tx` accepts has the BD that is built for it. -/
theorem readBd_startTx {wcn wcn' : Wcn} {sta_priv : Option ℕ} {skb : SkBuff}
    (h : startTx wcn sta_priv skb = some (wcn', 0)) :
    ∃ addr bd vif mac es, dxeGetNextBd wcn skb.isLow = some addr ∧
      startTxBd wcn.mac sta_priv skb = some (bd, vif, mac, es) ∧
      (wcn'.txCh skb.isLow).readBd addr = bd.sentBytes := by
  unfold startTx at h
  obtain ⟨⟨wcn₁, r⟩, hfill, h⟩ := Option.bind_eq_some_iff.mp h
  cases r with
  | inl ret =>
    -- The errors of the first part are not success.
    have hret : ret = -EINVAL := by
      unfold startTxFill at hfill
      obtain ⟨addr, -, hfill⟩ := Option.bind_eq_some_iff.mp hfill
      split_ifs at hfill
      · cases hfill
        rfl
      · cases hfill
        rfl
      all_goals
        obtain ⟨⟨bd, vif, mac, es⟩, -, hfill⟩ := Option.bind_eq_some_iff.mp hfill
        cases hfill
    simp only [Option.pure_def, Option.some.injEq, Prod.mk.injEq] at h
    exact absurd (hret ▸ h.2) (by decide)
  | inr vif =>
    obtain ⟨addr, bd, mac, es, haddr, hbuilt, hread⟩ := readBd_startTxFill hfill
    exact ⟨addr, bd, vif, mac, es, haddr, hbuilt, ((dxeTxFrame_keeps h).1 addr).trans hread⟩

/-- `wcn36xx_start_tx` leaves the configuration as it was, or as building the BD leaves it. -/
theorem mac_startTx {wcn wcn' : Wcn} {sta_priv : Option ℕ} {skb : SkBuff} {ret : ℤ}
    (h : startTx wcn sta_priv skb = some (wcn', ret)) :
    wcn'.mac = wcn.mac ∨
      ∃ bd vif es, startTxBd wcn.mac sta_priv skb = some (bd, vif, wcn'.mac, es) := by
  have hset : ∀ (wcn : Wcn) (addr : ℕ) (bytes : List Byte),
      (wcn.writeBd skb.isLow addr bytes).mac = wcn.mac := by
    intro wcn addr bytes
    unfold Wcn.writeBd Wcn.setTxCh
    split_ifs <;> rfl
  unfold startTx at h
  obtain ⟨⟨wcn₁, r⟩, hfill, h⟩ := Option.bind_eq_some_iff.mp h
  -- The second part leaves it alone.
  have hmac : wcn'.mac = wcn₁.mac := by
    cases r with
    | inl ret =>
      simp only [Option.pure_def, Option.some.injEq, Prod.mk.injEq] at h
      rw [h.1]
    | inr vif => exact (dxeTxFrame_keeps h).2
  rw [hmac]
  unfold startTxFill at hfill
  obtain ⟨addr, -, hfill⟩ := Option.bind_eq_some_iff.mp hfill
  split_ifs at hfill
  · simp only [Option.pure_def, Option.some.injEq, Prod.mk.injEq] at hfill
    rw [← hfill.1]
    exact .inl rfl
  · simp only [Option.pure_def, Option.some.injEq, Prod.mk.injEq] at hfill
    rw [← hfill.1]
    exact .inl (hset _ _ _)
  all_goals
    obtain ⟨⟨bd, vif, mac, es⟩, hbuilt, hfill⟩ := Option.bind_eq_some_iff.mp hfill
    simp only [Option.pure_def, Option.some.injEq, Prod.mk.injEq] at hfill
    refine .inr ⟨bd, vif, es, ?_⟩
    rw [← hfill.1, hset]
    exact hbuilt

/-- The set-up leaves the configuration that it begins with. -/
theorem mac_txStart {p : TxParams} {mac : MacConf} {s : TxWorld} (h : txStart p mac = some s) :
    s.wcn.mac = mac := by
  unfold txStart at h
  obtain ⟨l, -, h⟩ := Option.bind_eq_some_iff.mp h
  obtain ⟨ch, -, h⟩ := Option.bind_eq_some_iff.mp h
  rw [Option.pure_def, Option.some.injEq] at h
  rw [← h]

/-- The first part of `wcn36xx_start_tx` of a frame that is sent right after the set-up. -/
theorem exists_startTxFill {p : TxParams} {mac : MacConf} {sta_priv : Option ℕ} {skb : SkBuff}
    (h : (((txStart p mac).bind fun s => startTxFill s.wcn sta_priv skb).any
      fun r => r.2.isRight) = true) :
    ∃ wcn wcn' vif, wcn.mac = mac ∧ startTxFill wcn sta_priv skb = some (wcn', .inr vif) := by
  obtain ⟨⟨wcn', r⟩, hfill, hr⟩ := (Option.any_eq_true _ _).mp h
  obtain ⟨vif, rfl⟩ := Sum.isRight_iff.mp hr
  obtain ⟨s, hs, hfill⟩ := Option.bind_eq_some_iff.mp hfill
  exact ⟨s.wcn, wcn', vif, mac_txStart hs, hfill⟩

/-- A frame that is accepted right after the set-up. -/
theorem exists_startTx {p : TxParams} {mac : MacConf} {sta_priv : Option ℕ} {skb : SkBuff}
    (h : (((txStart p mac).bind fun s => startTx s.wcn sta_priv skb).any fun r => r.2 = 0) = true) :
    ∃ wcn wcn', wcn.mac = mac ∧ startTx wcn sta_priv skb = some (wcn', 0) := by
  obtain ⟨⟨wcn', ret⟩, htx, hret⟩ := (Option.any_eq_true _ _).mp h
  obtain rfl : ret = 0 := of_decide_eq_true hret
  obtain ⟨s, hs, htx⟩ := Option.bind_eq_some_iff.mp htx
  exact ⟨s.wcn, wcn', mac_txStart hs, htx⟩

/-! ## The PDU -/

/-- A field of the PDU as the device reads it from the bytes of a BD. -/
def txPdu (bd : List Byte) (f : PduField) : ℕ := txLayout.read (beWords bd) (.pdu f)

/-- It is the field that was stored. -/
theorem txPdu_sentBytes (bd : TxBd) (f : PduField) : txPdu bd.sentBytes f = bd.pdu.get f := by
  have hread := read_sentBytes bd [] (.pdu f)
  rw [if_neg (fun hf => by cases hf), List.append_nil] at hread
  exact hread

/-- The station's part of a BD has no say in the PDU and in `dpu_ne`, and reads the station. -/
theorem setTxDataSta_keeps {bd bd' : TxBd} {mac : MacConf} {sta_priv : Option ℕ} {skb : SkBuff}
    {vif : ℕ} (h : setTxDataSta bd mac sta_priv skb = some (bd', vif)) :
    bd'.pdu = bd.pdu ∧ bd'.dpu_ne = bd.dpu_ne ∧
      ∀ sta, sta_priv = some sta → ∃ s, mac.sta sta = some s := by
  unfold setTxDataSta at h
  cases sta_priv with
  | none =>
    simp only [Option.bind_eq_bind, Option.bind_eq_some_iff, Option.pure_def, Option.some.injEq,
      Prod.mk.injEq] at h
    obtain ⟨-, -, -, -, -, -, rfl, -⟩ := h
    exact ⟨rfl, rfl, fun sta hsta => by cases hsta⟩
  | some S =>
    simp only [Option.bind_eq_bind, Option.bind_eq_some_iff, Option.pure_def] at h
    obtain ⟨s, hs, vif_priv, -, priv, -, h⟩ := h
    have hsta : ∀ sta, some S = some sta → ∃ s, mac.sta sta = some s := fun sta hsta =>
      ⟨s, Option.some.inj hsta ▸ hs⟩
    split at h
    all_goals
      simp only [Option.some.injEq, Prod.mk.injEq] at h
      rw [← h.1]
      exact ⟨rfl, rfl, hsta⟩

/-- The bits of a data frame's BD that depend on the frame and on its destination. -/
def TxBd.dataBits (bd : TxBd) (not_encrypted bcast : Bool) : TxBd :=
  let bd := if not_encrypted then { bd with dpu_ne := 1 } else bd
  if bcast then { bd with ub := 1, ack_policy := 1 } else bd

/-- They leave the PDU alone. -/
theorem pdu_dataBits (bd : TxBd) (not_encrypted bcast : Bool) :
    (bd.dataBits not_encrypted bcast).pdu = bd.pdu := by
  unfold TxBd.dataBits
  split_ifs
  all_goals rfl

/-- What `wcn36xx_set_tx_data` does: the BD from the station's part on, and A-MPDU for the station. -/
theorem setTxData_eq {bd bd' : TxBd} {mac mac' : MacConf} {sta_priv : Option ℕ} {skb : SkBuff}
    {bcast : Bool} {vif : ℕ} {es : List Effect}
    (h : setTxData bd mac sta_priv skb bcast = some (bd', vif, mac', es)) :
    (mac' = mac ∨ ∃ sta, txStartAmpdu mac sta skb = some (mac', es)) ∧
      ∃ bd₁, setTxDataSta { bd with bd_rate := WCN36XX_BD_RATE_DATA } mac sta_priv skb =
          some (bd₁, vif) ∧
        bd' = setTxPdu (bd₁.dataBits (ieee80211IsNullfunc skb.frameControl ||
            (sta_priv.bind mac.sta).any fun sta => !sta.is_data_encrypted) bcast)
          (mpduHeaderLen skb.frameControl) skb.len ((sta_priv.bind mac.sta).elim 0 WcnSta.tid) := by
  simp only [setTxData, Option.bind_eq_bind, Option.bind_eq_some_iff, Option.pure_def] at h
  obtain ⟨⟨bd₁, vif₁⟩, hsta, h⟩ := h
  cases sta_priv with
  | none =>
    rw [Option.some.injEq] at h
    cases h
    exact ⟨.inl rfl, bd₁, hsta, rfl⟩
  | some sta =>
    by_cases hqos : ieee80211IsDataQos skb.frameControl = true
    · simp only [if_pos hqos, Option.bind_eq_some_iff] at h
      obtain ⟨⟨mac₁, es₁⟩, hampdu, h⟩ := h
      rw [Option.some.injEq] at h
      cases h
      exact ⟨.inr ⟨sta, hampdu⟩, bd₁, hsta, rfl⟩
    · simp only [if_neg hqos, Option.some.injEq] at h
      cases h
      exact ⟨.inl rfl, bd₁, hsta, rfl⟩

/-! ## The stations -/

/-- A station without what `wcn36xx_tx_start_ampdu` keeps in it. -/
def WcnSta.withoutAmpdu (sta : WcnSta) : WcnSta :=
  { sta with ampdu_state := fun _ => .NONE, non_agg_frame_ct := 0 }

/-- Building a BD changes nothing else in the stations. -/
theorem withoutAmpdu_startTxBd {mac mac' : MacConf} {sta_priv : Option ℕ} {skb : SkBuff} {bd : TxBd}
    {vif : ℕ} {es : List Effect} (h : startTxBd mac sta_priv skb = some (bd, vif, mac', es))
    (sta : ℕ) :
    (mac'.sta sta).map WcnSta.withoutAmpdu = (mac.sta sta).map WcnSta.withoutAmpdu := by
  have hset : ∀ {S : ℕ} {s s' : WcnSta}, mac.sta S = some s → s'.withoutAmpdu = s.withoutAmpdu →
      ((mac.setSta S s').sta sta).map WcnSta.withoutAmpdu =
        (mac.sta sta).map WcnSta.withoutAmpdu := by
    intro S s s' hs hsame
    unfold MacConf.setSta
    dsimp only
    rcases eq_or_ne sta S with rfl | hne
    · rw [Function.update_self, hs, Option.map_some, Option.map_some, hsame]
    · rw [Function.update_of_ne hne]
  unfold startTxBd at h
  split_ifs at h
  · obtain ⟨rfl | ⟨S, hampdu⟩, -⟩ := setTxData_eq h
    · rfl
    · rcases txStartAmpdu_cases hampdu with ⟨rfl, -⟩ | ⟨s, hs, -, ⟨-, -, rfl⟩ | ⟨-, -, rfl⟩⟩
      · rfl
      · exact hset hs rfl
      · exact hset hs rfl
  · simp only [setTxMgmt, Option.bind_eq_bind, Option.bind_eq_some_iff, Option.pure_def,
      Option.some.injEq, Prod.mk.injEq] at h
    obtain ⟨-, -, -, -, -, -, -, -, rfl, -⟩ := h
    rfl

/-! ## What stands in the PDU -/

/-- A QoS data frame is a data frame. -/
theorem isData_of_isDataQos {fc : BitVec 16} (h : ieee80211IsDataQos fc = true) :
    ieee80211IsData fc = true := by
  have hmask : (IEEE80211_FCTL_FTYPE ||| IEEE80211_STYPE_QOS_DATA) &&& IEEE80211_FCTL_FTYPE =
      IEEE80211_FCTL_FTYPE := by decide
  have hqos : fc &&& (IEEE80211_FCTL_FTYPE ||| IEEE80211_STYPE_QOS_DATA) =
      IEEE80211_FTYPE_DATA ||| IEEE80211_STYPE_QOS_DATA := of_decide_eq_true h
  refine decide_eq_true ?_
  calc fc &&& IEEE80211_FCTL_FTYPE
      = fc &&& (IEEE80211_FCTL_FTYPE ||| IEEE80211_STYPE_QOS_DATA) &&& IEEE80211_FCTL_FTYPE := by
        rw [BitVec.and_assoc, hmask]
    _ = IEEE80211_FTYPE_DATA := by
        rw [hqos]
        decide

/-- The TID that `wcn36xx_start_tx` gives to `wcn36xx_set_tx_pdu`. -/
def startTxTid (mac : MacConf) (sta_priv : Option ℕ) (skb : SkBuff) : BitVec 16 :=
  if skb.isLow then (sta_priv.bind mac.sta).elim 0 WcnSta.tid else WCN36XX_TID

/-- The PDU of the BD that is built for a frame: `wcn36xx_set_tx_pdu` on one that is clear. -/
theorem pdu_startTxBd {mac mac' : MacConf} {sta_priv : Option ℕ} {skb : SkBuff} {bd : TxBd} {vif : ℕ}
    {es : List Effect} (h : startTxBd mac sta_priv skb = some (bd, vif, mac', es)) :
    bd.pdu = (setTxPdu {} (mpduHeaderLen skb.frameControl) skb.len
      (startTxTid mac sta_priv skb)).pdu := by
  have hset : ∀ {bd : TxBd} {tid : BitVec 16}, bd.pdu = {} →
      (setTxPdu bd (mpduHeaderLen skb.frameControl) skb.len tid).pdu =
        (setTxPdu {} (mpduHeaderLen skb.frameControl) skb.len tid).pdu := by
    intro bd tid hbd
    unfold setTxPdu
    dsimp only
    rw [hbd]
  unfold startTxBd at h
  unfold startTxTid
  split_ifs at h with hlow
  · obtain ⟨-, bd₁, hsta, rfl⟩ := setTxData_eq h
    have hclear : bd₁.pdu = {} := (setTxDataSta_keeps hsta).1
    rw [if_pos hlow]
    apply hset
    rw [pdu_dataBits, hclear]
  · simp only [setTxMgmt, Option.bind_eq_bind, Option.bind_eq_some_iff, Option.pure_def,
      Option.some.injEq, Prod.mk.injEq] at h
    obtain ⟨-, -, vif₁, -, priv, -, rfl, -⟩ := h
    rw [if_neg hlow]
    apply hset
    split_ifs
    all_goals rfl

end Wcn36xx
