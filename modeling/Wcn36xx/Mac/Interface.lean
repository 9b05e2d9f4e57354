import Wcn36xx.Driver
import Wcn36xx.Smd.MsgType

/-!
# Interfaces

What `main.c`, `pmc.c` and `smd.c` do for an interface that mac80211 adds, configures and removes.
`wcn36xx_bss_info_changed` is the list of the operations that a call makes, each an assignment to the
interface's private data or a request to the firmware; nothing in the call depends on what becomes
of a request before it, so the list is known when the call begins, and other calls may come between two
operations of it.
-/

namespace Wcn36xx

/-- `WCN36XX_HAL_BSS_INVALID_IDX`. -/
def WCN36XX_HAL_BSS_INVALID_IDX : Byte := 0xff

/-- `enum wcn36xx_hal_link_state`, as far as the driver sets it. -/
inductive LinkState where
  | IDLE
  | POSTASSOC
  | AP
  | IBSS
  deriving DecidableEq, Repr

/-- `is_zero_ether_addr`. -/
def isZeroEtherAddr (addr : List Byte) : Bool := addr.all fun b => b == 0

/-- `struct ieee80211_bss_conf`, as far as the driver reads it. -/
structure BssConf where
  bssid : List Byte := List.replicate 6 0
  ssid : List Byte := []
  assoc : Bool := false
  ps : Bool := false
  enable_beacon : Bool := false
  dtim_period : Byte := 0
  beacon_int : BitVec 16 := 0
  use_short_slot : Bool := false
  hidden_ssid : Byte := 0
  ht_operation_mode : BitVec 16 := 0
  sync_tsf : BitVec 64 := 0

/-- The bits of `changed` that the driver looks at, `BSS_CHANGED_` in front. -/
structure BssChanged where
  BEACON_INFO : Bool := false
  PS : Bool := false
  BSSID : Bool := false
  SSID : Bool := false
  ASSOC : Bool := false
  AP_PROBE_RESP : Bool := false
  BEACON_ENABLED : Bool := false
  BEACON : Bool := false

/-- What mac80211 returns to a call of `wcn36xx_bss_info_changed`. -/
structure BssEnv where
  /-- `ieee80211_find_sta`. -/
  find_sta : Option ℕ := none
  /-- `ieee80211_proberesp_get` returns a buffer. -/
  proberesp_get : Bool := true
  /-- `ieee80211_beacon_get_tim` returns a buffer. -/
  beacon_get_tim : Bool := true

/-- The operations of `wcn36xx_bss_info_changed`: assignments to `*vif_priv`, and requests. -/
inductive BssOp where
  | dtimPeriod (dtim_period : Byte)
  | isJoining (is_joining : Bool)
  | bssIndexInvalid
  | encryptTypeNone
  | ssid (ssid : List Byte)
  | staAssoc (sta_assoc : Bool)
  /-- `wcn36xx_pmc_enter_bmps_state`. -/
  | pmcEnterBmpsState
  /-- `wcn36xx_pmc_exit_bmps_state`. -/
  | pmcExitBmpsState
  | smdJoin (bssid : List Byte)
  | smdConfigBss (sta : Option ℕ) (bssid : List Byte) (update : Bool)
  | smdDeleteBss
  | smdSetLinkSt (bssid : List Byte) (state : LinkState)
  | smdConfigSta (sta : ℕ)
  | smdUpdateProberespTmpl
  | smdSendBeacon
  deriving DecidableEq, Repr

/-! ## `wcn36xx_bss_info_changed` -/

section BssInfoChanged

variable (vif : WcnVif) (conf : BssConf) (changed : BssChanged) (env : BssEnv)

/-- The part for `BSS_CHANGED_BEACON_INFO`. -/
def bssBeaconInfo : List BssOp :=
  if changed.BEACON_INFO then [.dtimPeriod conf.dtim_period] else []

/-- The part for `BSS_CHANGED_PS`. -/
def bssPs : List BssOp :=
  if changed.PS then
    if conf.ps then [.pmcEnterBmpsState] else [.pmcExitBmpsState]
  else []

/-- The part for `BSS_CHANGED_BSSID`. -/
def bssBssid : List BssOp :=
  if changed.BSSID then
    if !isZeroEtherAddr conf.bssid then
      [.isJoining true, .bssIndexInvalid, .smdJoin conf.bssid,
        .smdConfigBss none conf.bssid false]
    else [.isJoining false, .smdDeleteBss, .encryptTypeNone]
  else []

/-- The part for `BSS_CHANGED_SSID`. -/
def bssSsid : List BssOp := if changed.SSID then [.ssid conf.ssid] else []

/-- The part for `BSS_CHANGED_BEACON_ENABLED` and `BSS_CHANGED_BEACON`, the last of the function. -/
def bssBeacon : List BssOp :=
  if changed.BEACON_ENABLED || changed.BEACON then
    if conf.enable_beacon then
      [.dtimPeriod conf.dtim_period, .bssIndexInvalid, .smdConfigBss none vif.addr false] ++
        -- `goto out`
        if !env.beacon_get_tim then []
        else
          [.smdSendBeacon, .smdSetLinkSt vif.addr
            (if vif.type = .ADHOC ∨ vif.type = .MESH_POINT then .IBSS else .AP)]
    else [.smdSetLinkSt vif.addr .IDLE, .smdDeleteBss]
  else []

/-- From the part for `BSS_CHANGED_AP_PROBE_RESP` on. -/
def bssProbeResp : List BssOp :=
  if changed.AP_PROBE_RESP then
    -- `goto out`
    if !env.proberesp_get then []
    else .smdUpdateProberespTmpl :: bssBeacon vif conf changed env
  else bssBeacon vif conf changed env

/-- From the part for `BSS_CHANGED_ASSOC` on. -/
def bssAssoc : List BssOp :=
  if changed.ASSOC then
    .isJoining false ::
      if conf.assoc then
        .staAssoc true ::
          match env.find_sta with
          -- `goto out`
          | none => []
          | some sta =>
            [.smdSetLinkSt conf.bssid .POSTASSOC, .smdConfigBss (some sta) conf.bssid true,
              .smdConfigSta sta] ++ bssProbeResp vif conf changed env
      else
        [.staAssoc false, .smdSetLinkSt conf.bssid .IDLE] ++ bssProbeResp vif conf changed env
  else bssProbeResp vif conf changed env

/-- `wcn36xx_bss_info_changed`. -/
def bssInfoChanged : List BssOp :=
  bssBeaconInfo conf changed ++ bssPs conf changed ++ bssBssid conf changed ++
    bssSsid conf changed ++ bssAssoc vif conf changed env

end BssInfoChanged

/-! ## Adding an interface, and missed beacons -/

/-- `struct wcn36xx_hal_add_sta_self_rsp_msg`, as far as the driver keeps it. -/
structure AddStaSelfRsp where
  self_sta_index : Byte
  dpu_index : Byte

/-- `wcn36xx_add_interface`, for the interface `vif` with the private data that mac80211 hands over;
`rsp` is the response to `wcn36xx_smd_add_sta_self`, if there is one of success. -/
def addInterface (mac : MacConf) (vif : ℕ) (priv : WcnVif) (rsp : Option AddStaSelfRsp) :
    MacConf × ℤ :=
  if priv.type = .other then (mac, -EOPNOTSUPP)
  else
    let priv := match rsp with
      | none => priv
      | some rsp => { priv with
          self_sta_index := rsp.self_sta_index, self_dpu_desc_index := rsp.dpu_index }
    ({ mac with vif_list := vif :: mac.vif_list, vif := Function.update mac.vif vif (some priv) }, 0)

/-- `sizeof(struct wcn36xx_hal_missed_beacon_ind_msg)`. -/
def sizeofMissedBeaconInd : ℕ := HalMsgHeader.size + 1

/-- `wcn36xx_smd_missed_beacon_ind`: the interfaces whose connection is reported lost. `old_fw` is
`wcn36xx_is_fw_version(wcn, 1, 2, 2, 24)`. -/
def smdMissedBeaconInd (old_fw : Bool) (mac : MacConf) (msg : List Byte) : List ℕ × ℤ :=
  if old_fw then (mac.vif_list, 0)
  else if msg.length ≠ sizeofMissedBeaconInd then ([], - EIO)
  else
    match mac.vif_list.find? fun tmp =>
      (mac.vif tmp).any fun priv => some priv.bss_index == msg[HalMsgHeader.size]? with
    | some tmp => ([tmp], 0)
    | none => ([], -ENOENT)

end Wcn36xx
