import Wcn36xx.Dxe.Tx

/-!
# Starting a transmission

`wcn36xx_start_tx` and what it calls in `txrx.c`. The function works in two steps: it takes the BD at
the head of the ring, clears it and fills it, and then gives the frame to `wcn36xx_dxe_tx_frame`. The
descriptor is built as a value and stored in the channel's BD memory, as far as the source gets.
-/

namespace Wcn36xx

/-- `get_vif_by_addr` over the rest of `wcn->vif_list`; the result is null when no interface has
the address. -/
def getVifByAddr (mac : MacConf) (addr : List Byte) : (vif_list : List ℕ) → Option (Option ℕ)
  | [] => some none
  | vif_priv :: rest => do
    let vif ← mac.vif vif_priv
    if vif.addr = addr then return some vif_priv else getVifByAddr mac addr rest

/-- `wcn36xx_set_tx_pdu`. -/
def setTxPdu (bd : TxBd) (mpdu_header_len len : ℕ) (tid : BitVec 16) : TxBd :=
  let header_len : BitVec 8 := BitVec.ofNat 8 mpdu_header_len
  let header_off : BitVec 8 := BitVec.ofNat 8 TxBd.size
  { bd with
    pdu := { bd.pdu with
      mpdu_header_len := header_len
      mpdu_header_off := header_off
      mpdu_data_off := header_len.setWidth 9 + header_off.setWidth 9
      mpdu_len := BitVec.ofNat 16 len
      tid := tid.setWidth 4
      bd_ssn := WCN36XX_TXBD_SSN_FILL_DPU_QOS } }

/-- The length of the 802.11 header that the BD announces. -/
def mpduHeaderLen (fc : BitVec 16) : ℕ :=
  if ieee80211IsDataQos fc then sizeofQosHdr else sizeofHdr3addr

/-- `wcn36xx_tx_start_ampdu`. -/
def txStartAmpdu (mac : MacConf) (sta_priv : ℕ) (skb : SkBuff) : Option (MacConf × List Effect) :=
  if !mac.is_ht then some (mac, [])
  else if !ieee80211IsDataQos skb.frameControl then some (mac, [])
  else if skb.queue_mapping = IEEE80211_AC_VO then some (mac, [])
  else do
    let tid := (skb.qosCtl &&& IEEE80211_QOS_CTL_TID_MASK).toNat
    let sta ← mac.sta sta_priv
    if sta.ampdu_state tid ≠ .NONE then
      return (mac, [])
    else if sta.non_agg_frame_ct ≥ WCN36XX_AMPDU_START_THRESH then
      let sta := { sta with
        ampdu_state := Function.update sta.ampdu_state tid .START, non_agg_frame_ct := 0 }
      return ({ mac with sta := Function.update mac.sta sta_priv (some sta) },
        [.startTxBaSession sta_priv tid])
    else
      let sta := { sta with non_agg_frame_ct := sta.non_agg_frame_ct + 1 }
      return ({ mac with sta := Function.update mac.sta sta_priv (some sta) }, [])

/-- Write the private data of a station. -/
def MacConf.setSta (mac : MacConf) (sta : ℕ) (sta_priv : WcnSta) : MacConf :=
  { mac with sta := Function.update mac.sta sta (some sta_priv) }

/-- The TID of a QoS data frame. -/
def SkBuff.tid (skb : SkBuff) : ℕ := (skb.qosCtl &&& IEEE80211_QOS_CTL_TID_MASK).toNat

/-- What `wcn36xx_tx_start_ampdu` can do: leave everything as it is, count the frame, or start a
session. -/
theorem txStartAmpdu_cases {mac mac' : MacConf} {sta : ℕ} {skb : SkBuff} {es : List Effect}
    (h : txStartAmpdu mac sta skb = some (mac', es)) :
    (mac' = mac ∧ es = []) ∨
    ∃ s, mac.sta sta = some s ∧ s.ampdu_state skb.tid = .NONE ∧
      ((s.non_agg_frame_ct < WCN36XX_AMPDU_START_THRESH ∧ es = [] ∧
        mac' = mac.setSta sta { s with non_agg_frame_ct := s.non_agg_frame_ct + 1 }) ∨
      (WCN36XX_AMPDU_START_THRESH ≤ s.non_agg_frame_ct ∧ es = [.startTxBaSession sta skb.tid] ∧
        mac' = mac.setSta sta { s with
          ampdu_state := Function.update s.ampdu_state skb.tid .START, non_agg_frame_ct := 0 })) := by
  simp only [txStartAmpdu, Option.bind_eq_bind, Option.pure_def] at h
  by_cases hquiet : mac.is_ht = false ∨ ieee80211IsDataQos skb.frameControl = false ∨
      skb.queue_mapping = IEEE80211_AC_VO
  · -- The three early returns.
    refine Or.inl ?_
    split_ifs at h <;> simp_all
  · simp only [not_or, Bool.not_eq_false] at hquiet
    obtain ⟨hht, hqos, hvo⟩ := hquiet
    rw [if_neg (by rw [hht]; decide), if_neg (by rw [hqos]; decide), if_neg hvo] at h
    obtain ⟨s, hs, h⟩ := Option.bind_eq_some_iff.mp h
    split_ifs at h with hstate hthresh
    all_goals
      simp only [Option.some.injEq, Prod.mk.injEq] at h
      obtain ⟨rfl, rfl⟩ := h
    · exact Or.inl ⟨rfl, rfl⟩
    · exact Or.inr ⟨s, hs, not_not.mp hstate, Or.inr ⟨hthresh, rfl, rfl⟩⟩
    · exact Or.inr ⟨s, hs, not_not.mp hstate, Or.inl ⟨not_le.mp hthresh, rfl, rfl⟩⟩

/-- The station and DPU fields of a data frame's BD, and its interface. -/
def setTxDataSta (bd : TxBd) (mac : MacConf) (sta_priv : Option ℕ) (skb : SkBuff) :
    Option (TxBd × ℕ) :=
  match sta_priv with
  | some sta_priv => do
    let sta ← mac.sta sta_priv
    let vif_priv ← sta.vif
    let vif ← mac.vif vif_priv
    let bd := { bd with dpu_sign := sta.ucast_dpu_sign.setWidth 3 }
    match vif.type with
    | .STATION =>
      return ({ bd with
        sta_index := sta.bss_sta_index, dpu_desc_idx := sta.bss_dpu_desc_index }, vif_priv)
    | .AP | .ADHOC | .MESH_POINT =>
      return ({ bd with
        sta_index := sta.sta_index, dpu_desc_idx := sta.dpu_desc_index }, vif_priv)
    | .other => return (bd, vif_priv)
  | none => do
    -- For not unicast frames mac80211 will not set the station.
    let vif_priv ← (← getVifByAddr mac skb.addr2 mac.vif_list)
    let vif ← mac.vif vif_priv
    return ({ bd with
      sta_index := vif.self_sta_index, dpu_desc_idx := vif.self_dpu_desc_index
      dpu_sign := vif.self_ucast_dpu_sign.setWidth 3 }, vif_priv)

/-- `wcn36xx_set_tx_data`. -/
def setTxData (bd : TxBd) (mac : MacConf) (sta_priv : Option ℕ) (skb : SkBuff) (bcast : Bool) :
    Option (TxBd × ℕ × MacConf × List Effect) := do
  let fc := skb.frameControl
  let (bd, vif_priv) ← setTxDataSta { bd with bd_rate := WCN36XX_BD_RATE_DATA } mac sta_priv skb
  let sta := sta_priv.bind mac.sta
  let bd :=
    if ieee80211IsNullfunc fc || sta.any fun sta => !sta.is_data_encrypted then
      { bd with dpu_ne := 1 }
    else bd
  let bd := if bcast then { bd with ub := 1, ack_policy := 1 } else bd
  let tid := sta.elim 0 WcnSta.tid
  let bd := setTxPdu bd (mpduHeaderLen fc) skb.len tid
  match sta_priv with
  | some sta_priv =>
    if ieee80211IsDataQos fc then
      let (mac, es) ← txStartAmpdu mac sta_priv skb
      return (bd, vif_priv, mac, es)
    else return (bd, vif_priv, mac, [])
  | none => return (bd, vif_priv, mac, [])

/-- `wcn36xx_set_tx_mgmt`. -/
def setTxMgmt (bd : TxBd) (mac : MacConf) (skb : SkBuff) (bcast : Bool) :
    Option (TxBd × ℕ × MacConf × List Effect) := do
  let fc := skb.frameControl
  let vif_priv ← (← getVifByAddr mac skb.addr2 mac.vif_list)
  let vif ← mac.vif vif_priv
  let bd := { bd with
    sta_index := vif.self_sta_index, dpu_desc_idx := vif.self_dpu_desc_index, dpu_ne := 1 }
  let bd :=
    if ieee80211IsMgmt fc then
      { bd with bd_rate :=
          if mac.band = .GHZ5 then WCN36XX_BD_RATE_CTRL else WCN36XX_BD_RATE_MGMT }
    else if ieee80211IsCtl fc then { bd with bd_rate := WCN36XX_BD_RATE_CTRL }
    else bd
  -- In joining state trick hardware that probe is sent as unicast even if address is broadcast.
  let bcast := if vif.is_joining && ieee80211IsProbeReq fc then false else bcast
  let bd :=
    if bcast then { bd with ub := 1, ack_policy := 1, queue_id := WCN36XX_TX_B_WQ_ID }
    else { bd with queue_id := WCN36XX_TX_U_WQ_ID }
  return (setTxPdu bd (mpduHeaderLen fc) skb.len WCN36XX_TID, vif_priv, mac, [])

namespace SkBuff

/-- `is_low`: data frames go through the low channel. -/
def isLow (skb : SkBuff) : Bool := ieee80211IsData skb.frameControl

/-- `bcast`. -/
def isBcast (skb : SkBuff) : Bool :=
  isBroadcastEtherAddr skb.addr1 || isMulticastEtherAddr skb.addr1

end SkBuff

/-- The BD as far as it is filled before its type-specific part. -/
def startTxBdInit (skb : SkBuff) : TxBd :=
  { dpu_rf := WCN36XX_BMU_WQ_TX, tx_comp := BitVec.ofBool skb.wantsStatus }

/-- The BD that `wcn36xx_start_tx` builds for a frame, with the frame's interface. -/
def startTxBd (mac : MacConf) (sta_priv : Option ℕ) (skb : SkBuff) :
    Option (TxBd × ℕ × MacConf × List Effect) :=
  if skb.isLow then setTxData (startTxBdInit skb) mac sta_priv skb skb.isBcast
  else setTxMgmt (startTxBdInit skb) mac skb skb.isBcast

namespace DxeCh

/-- Store bytes in the BD memory of a channel. -/
def writeBd (ch : DxeCh) (addr : ℕ) (bytes : List Byte) : DxeCh :=
  { ch with
    bd := fun a => if addr ≤ a then (bytes[a - addr]?).getD (ch.bd a) else ch.bd a }

/-- The bytes of a BD in the memory of a channel. -/
def readBd (ch : DxeCh) (addr : ℕ) : List Byte :=
  (List.range TxBd.size).map fun i => ch.bd (addr + i)

end DxeCh

/-- Store the bytes of a BD in the memory of a TX channel. -/
def Wcn.writeBd (wcn : Wcn) (is_low : Bool) (addr : ℕ) (bytes : List Byte) : Wcn :=
  wcn.setTxCh is_low ((wcn.txCh is_low).writeBd addr bytes)

/-- `wcn36xx_start_tx` up to the call of `wcn36xx_dxe_tx_frame`: the error that it returns, or the
frame's interface. -/
def startTxFill (wcn : Wcn) (sta_priv : Option ℕ) (skb : SkBuff) : Option (Wcn × (ℤ ⊕ ℕ)) := do
  let bd_addr ← dxeGetNextBd wcn skb.isLow
  if bd_addr = 0 then
    -- `bd address may not be NULL for BD DXE`
    return (wcn, .inl (-EINVAL))
  else if skb.wantsStatus && wcn.tx_ack_skb.isSome then
    -- `tx_ack_skb already set`
    return (wcn.writeBd skb.isLow bd_addr (startTxBdInit skb).bytes, .inl (-EINVAL))
  else
    let wcn :=
      if skb.wantsStatus then { wcn with tx_ack_skb := some skb }.emit [.stopQueues] else wcn
    let (bd, vif_priv, mac, es) ← startTxBd wcn.mac sta_priv skb
    let wcn := { wcn with mac := mac }.emit es
    return (wcn.writeBd skb.isLow bd_addr bd.sentBytes, .inr vif_priv)

/-- `wcn36xx_start_tx`. -/
def startTx (wcn : Wcn) (sta_priv : Option ℕ) (skb : SkBuff) : Option (Wcn × ℤ) := do
  let (wcn, r) ← startTxFill wcn sta_priv skb
  match r with
  | .inl ret => return (wcn, ret)
  | .inr vif_priv => dxeTxFrame wcn (wcn.mac.vif vif_priv) skb skb.isLow

/-- `wcn36xx_tx`: a frame that `wcn36xx_start_tx` fails to take is freed. -/
def tx (wcn : Wcn) (sta_priv : Option ℕ) (skb : SkBuff) : Option (Wcn × ℤ) := do
  let (wcn, ret) ← startTx wcn sta_priv skb
  if ret ≠ 0 then return (wcn.emit [.freeTxskb skb], ret) else return (wcn, ret)

end Wcn36xx
