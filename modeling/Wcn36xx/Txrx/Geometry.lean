import Wcn36xx.Txrx.SentBd

/-!
# The geometry of a frame

The PDU of a BD says where the frame's header begins, how long it is, where its data begins and how long the
frame is. `wcn36xx_set_tx_data` and `wcn36xx_set_tx_mgmt` take the length of the header from the same two
constants, that of a header with three addresses and that of one with a QoS field behind them.
`bdGeometry_iff` says for which frames this is the length of their header: not for control frames, not for
data frames with four addresses, and not where an HT control field follows.
-/

namespace Wcn36xx

/-! ## The length of an 802.11 header -/

/-- `IEEE80211_FCTL_ORDER`. -/
def IEEE80211_FCTL_ORDER : BitVec 16 := 0x8000

/-- `ieee80211_has_a4`: both DS bits are set, and a data frame has four addresses. -/
def ieee80211HasA4 (fc : BitVec 16) : Bool :=
  fc &&& IEEE80211_FCTL_TODS_FROMDS = IEEE80211_FCTL_TODS_FROMDS

/-- `ieee80211_has_order`. -/
def ieee80211HasOrder (fc : BitVec 16) : Bool := fc &&& IEEE80211_FCTL_ORDER != 0

/-- The control frame is an ACK or a CTS, which have one address. -/
def ieee80211IsAckOrCts (fc : BitVec 16) : Bool := fc &&& 0x00e0 = 0x00c0

/-- `ieee80211_hdrlen`, the length of the 802.11 header that a frame control field announces. -/
def ieee80211Hdrlen (fc : BitVec 16) : ℕ :=
  if ieee80211IsData fc then
    (if ieee80211HasA4 fc then 30 else 24) +
      if ieee80211IsDataQos fc then 2 + (if ieee80211HasOrder fc then 4 else 0) else 0
  else if ieee80211IsMgmt fc then 24 + (if ieee80211HasOrder fc then 4 else 0)
  else if ieee80211IsCtl fc then if ieee80211IsAckOrCts fc then 10 else 16
  else 24

/-- The headers with three addresses, and nothing behind them but a QoS field. -/
structure ThreeAddrHeader (fc : BitVec 16) : Prop where
  not_ctl : ieee80211IsCtl fc = false
  not_a4 : ieee80211IsData fc = true → ieee80211HasA4 fc = false
  data_order : ieee80211IsDataQos fc = true → ieee80211HasOrder fc = false
  mgmt_order : ieee80211IsMgmt fc = true → ieee80211HasOrder fc = false

/-- A frame has one type. -/
theorem type_eq_of {fc t t' : BitVec 16} (h : fc &&& IEEE80211_FCTL_FTYPE = t) (hne : t ≠ t') :
    decide (fc &&& IEEE80211_FCTL_FTYPE = t') = false := decide_eq_false (h ▸ hne)

/-- The two constants are right for the headers with three addresses, and for no other. -/
theorem mpduHeaderLen_eq_iff (fc : BitVec 16) :
    mpduHeaderLen fc = ieee80211Hdrlen fc ↔ ThreeAddrHeader fc := by
  have h3addr : sizeofHdr3addr = 24 := rfl
  have hqoshdr : sizeofQosHdr = 26 := rfl
  unfold mpduHeaderLen ieee80211Hdrlen
  cases hdata : ieee80211IsData fc with
  | true =>
    have htype : fc &&& IEEE80211_FCTL_FTYPE = IEEE80211_FTYPE_DATA := of_decide_eq_true hdata
    have hmgmt : ieee80211IsMgmt fc = false := type_eq_of htype (by decide)
    have hctl : ieee80211IsCtl fc = false := type_eq_of htype (by decide)
    rw [if_pos rfl]
    constructor
    · intro heq
      refine ⟨hctl, fun _ => Bool.eq_false_iff.mpr fun ha4 => ?_,
        fun hqos => Bool.eq_false_iff.mpr fun horder => ?_,
        fun h => absurd (hmgmt.symm.trans h) (by decide)⟩
      · rw [if_pos ha4] at heq
        split_ifs at heq
        all_goals omega
      · rw [if_pos hqos, if_pos hqos, if_pos horder] at heq
        split_ifs at heq
        all_goals omega
    · intro h
      have ha4 := h.not_a4 hdata
      rw [ha4, if_neg Bool.false_ne_true, h3addr, hqoshdr]
      by_cases hqos : ieee80211IsDataQos fc = true
      · rw [if_pos hqos, if_pos hqos, h.data_order hqos]
        rfl
      · rw [if_neg hqos, if_neg hqos]
  | false =>
    have hqos : ieee80211IsDataQos fc = false := Bool.eq_false_iff.mpr fun h => by
      rw [isData_of_isDataQos h] at hdata
      cases hdata
    rw [if_neg Bool.false_ne_true, hqos, if_neg Bool.false_ne_true, h3addr]
    cases hmgmt : ieee80211IsMgmt fc with
    | true =>
      have htype : fc &&& IEEE80211_FCTL_FTYPE = IEEE80211_FTYPE_MGMT := of_decide_eq_true hmgmt
      have hctl : ieee80211IsCtl fc = false := type_eq_of htype (by decide)
      rw [if_pos rfl]
      constructor
      · intro heq
        have horder : ieee80211HasOrder fc = false := by
          split_ifs at heq with horder
          · omega
          · exact Bool.eq_false_iff.mpr horder
        exact ⟨hctl, fun h => absurd (hdata.symm.trans h) (by decide),
          fun h => absurd (hqos.symm.trans h) (by decide), fun _ => horder⟩
      · intro h
        rw [h.mgmt_order hmgmt]
        rfl
    | false =>
      rw [if_neg Bool.false_ne_true]
      cases hctl : ieee80211IsCtl fc with
      | true =>
        rw [if_pos rfl]
        refine iff_of_false ?_ fun h => absurd (h.not_ctl.symm.trans hctl) (by decide)
        split_ifs
        all_goals omega
      | false =>
        exact iff_of_true rfl ⟨hctl, fun h => absurd (hdata.symm.trans h) (by decide),
          fun h => absurd (hqos.symm.trans h) (by decide),
          fun h => absurd (hmgmt.symm.trans h) (by decide)⟩

/-! ## The geometry that a BD gives -/

/-- The PDU in the bytes of a BD says how the frame lies behind it. -/
structure BdGeometry (bd : List Byte) (skb : SkBuff) : Prop where
  header_off : txPdu bd .mpdu_header_off = TxBd.size
  header_len : txPdu bd .mpdu_header_len = ieee80211Hdrlen skb.frameControl
  data_off : txPdu bd .mpdu_data_off = txPdu bd .mpdu_header_off + txPdu bd .mpdu_header_len
  len : txPdu bd .mpdu_len = skb.len
  header_le : txPdu bd .mpdu_header_len ≤ txPdu bd .mpdu_len

/-- What the BD says, with the length of the header that `wcn36xx_start_tx` takes the frame to have.
Nothing is cut off in the bit fields. -/
theorem pdu_startTxFill {wcn wcn' : Wcn} {sta_priv : Option ℕ} {skb : SkBuff} {vif : ℕ}
    (h : startTxFill wcn sta_priv skb = some (wcn', .inr vif)) (hlen : skb.len < 65536) :
    ∃ addr bd, dxeGetNextBd wcn skb.isLow = some addr ∧
      (wcn'.txCh skb.isLow).readBd addr = bd ∧
      txPdu bd .mpdu_header_off = TxBd.size ∧
      txPdu bd .mpdu_header_len = mpduHeaderLen skb.frameControl ∧
      txPdu bd .mpdu_data_off = txPdu bd .mpdu_header_off + txPdu bd .mpdu_header_len ∧
      txPdu bd .mpdu_len = skb.len := by
  obtain ⟨addr, bd, mac, es, haddr, hbuilt, hread⟩ := readBd_startTxFill h
  have hpdu := pdu_startTxBd hbuilt
  have hlt : mpduHeaderLen skb.frameControl < 256 := by
    unfold mpduHeaderLen
    split_ifs <;> decide
  have hoff : txPdu bd.sentBytes .mpdu_header_off = TxBd.size := by
    rw [txPdu_sentBytes, hpdu]
    rfl
  have hhdr : txPdu bd.sentBytes .mpdu_header_len = mpduHeaderLen skb.frameControl := by
    rw [txPdu_sentBytes, hpdu]
    exact (BitVec.toNat_ofNat _ _).trans (Nat.mod_eq_of_lt hlt)
  refine ⟨addr, bd.sentBytes, haddr, hread, hoff, hhdr, ?_, ?_⟩
  · have hsize : TxBd.size = 40 := rfl
    rw [hoff, hhdr, txPdu_sentBytes, hpdu]
    unfold Pdu.get setTxPdu
    simp only [BitVec.toNat_add, BitVec.toNat_setWidth, BitVec.toNat_ofNat]
    omega
  · rw [txPdu_sentBytes, hpdu]
    exact (BitVec.toNat_ofNat _ _).trans (Nat.mod_eq_of_lt hlen)

/-- For every frame below 64 KiB with a whole header, the BD that `wcn36xx_start_tx` builds has the frame's
geometry if and only if the header has three addresses, with nothing behind them but a QoS field. -/
theorem bdGeometry_iff {wcn wcn' : Wcn} {sta_priv : Option ℕ} {skb : SkBuff} {vif : ℕ}
    (h : startTxFill wcn sta_priv skb = some (wcn', .inr vif))
    (hframe : ieee80211Hdrlen skb.frameControl ≤ skb.len) (hlen : skb.len < 65536) :
    (∃ addr, dxeGetNextBd wcn skb.isLow = some addr ∧
      BdGeometry ((wcn'.txCh skb.isLow).readBd addr) skb) ↔ ThreeAddrHeader skb.frameControl := by
  obtain ⟨addr, bd, haddr, hread, hoff, hhdr, hdata, hmpdu⟩ := pdu_startTxFill h hlen
  rw [← mpduHeaderLen_eq_iff, ← hhdr]
  constructor
  · rintro ⟨addr', haddr', hgeo⟩
    obtain rfl : addr = addr' := Option.some.inj (haddr.symm.trans haddr')
    rw [← hread]
    exact hgeo.header_len
  · intro heq
    refine ⟨addr, haddr, ?_⟩
    rw [hread]
    exact ⟨hoff, heq, hdata, hmpdu, by rw [heq, hmpdu]; exact hframe⟩

/-- A management frame of an interface in station mode. -/
theorem bdGeometry_iff_auth :
    ∃ wcn wcn' vif addr, startTxFill wcn none (authFrame 1 30 false) = some (wcn', .inr vif) ∧
      dxeGetNextBd wcn false = some addr ∧
      BdGeometry ((wcn'.txCh false).readBd addr) (authFrame 1 30 false) := by
  obtain ⟨wcn, wcn', vif, -, hfill⟩ := @exists_startTxFill driverParams oneStation none
    (authFrame 1 30 false) (by decide +kernel)
  obtain ⟨addr, haddr, hgeo⟩ := (bdGeometry_iff hfill (by decide) (by decide)).mpr
    ⟨by decide, by decide, by decide, by decide⟩
  exact ⟨wcn, wcn', vif, addr, hfill, haddr, hgeo⟩

/-- A network of mesh points, one of which is a peer. -/
def oneMeshPeer : MacConf where
  vif_list := [1]
  vif vif_priv :=
    if vif_priv = 1 then some { type := .MESH_POINT, addr := [2, 0, 0, 0, 0, 1] } else none
  sta sta_priv := if sta_priv = 5 then some { vif := some 1 } else none

/-- A data frame with four addresses and a QoS field, as a mesh point forwards it. -/
def meshFrame : SkBuff where
  ptr := 1
  data := [0x88, 3, 0, 0, 2, 0, 0, 0, 0, 9, 2, 0, 0, 0, 0, 1] ++ List.replicate 48 0
  dma := 0
  flags := 0
  queue_mapping := 2

/-- The header of a forwarded mesh frame has 32 bytes, and its BD says 26. -/
theorem bdGeometry_fails_in_mesh :
    ∃ wcn wcn' vif addr, wcn.mac = oneMeshPeer ∧
      startTxFill wcn (some 5) meshFrame = some (wcn', .inr vif) ∧
      ieee80211Hdrlen meshFrame.frameControl ≤ meshFrame.len ∧ meshFrame.len < 65536 ∧
      dxeGetNextBd wcn true = some addr ∧
      ¬BdGeometry ((wcn'.txCh true).readBd addr) meshFrame := by
  obtain ⟨wcn, wcn', vif, hmac, hfill⟩ := @exists_startTxFill driverParams oneMeshPeer (some 5)
    meshFrame (by decide +kernel)
  obtain ⟨addr, bd, haddr, hread, -, hhdr, -⟩ := pdu_startTxFill hfill (by decide)
  refine ⟨wcn, wcn', vif, addr, hmac, hfill, by decide, by decide, haddr, fun hgeo => ?_⟩
  have hheader := hgeo.header_len
  rw [← show meshFrame.isLow = true from rfl, hread, hhdr] at hheader
  revert hheader
  decide

end Wcn36xx
