import Wcn36xx.Mac.Interface

/-!
# The two formats of the configuration requests

`WCN36XX_HAL_CONFIG_STA_REQ` and `WCN36XX_HAL_CONFIG_BSS_REQ` come in two formats. The driver composes
them in the format of firmware 1.2.2.24, and copies them field by field to the format v1 for every
other firmware. The structures of v1 have the same fields in another order, and one more that is
reserved; `toParams` reads them back in the old format.

`sameInfo_iff` says when both formats carry the same information: `wcn36xx_smd_convert_sta_to_v1` leaves
out `max_amsdu_size`, which then is 0 for newer firmware only.
-/

namespace Wcn36xx

/-- `WCN36XX_HAL_STA_INVALID_IDX`. -/
def WCN36XX_HAL_STA_INVALID_IDX : Byte := 0xff
/-- `IEEE80211_HT_CAP_SUP_WIDTH_20_40`. -/
def IEEE80211_HT_CAP_SUP_WIDTH_20_40 : BitVec 16 := 0x0002
/-- `IEEE80211_HT_CAP_GRN_FLD`. -/
def IEEE80211_HT_CAP_GRN_FLD : BitVec 16 := 0x0010
/-- `IEEE80211_HT_CAP_SGI_20`. -/
def IEEE80211_HT_CAP_SGI_20 : BitVec 16 := 0x0020
/-- `IEEE80211_HT_CAP_SGI_40`. -/
def IEEE80211_HT_CAP_SGI_40 : BitVec 16 := 0x0040
/-- `IEEE80211_HT_CAP_DELAY_BA`. -/
def IEEE80211_HT_CAP_DELAY_BA : BitVec 16 := 0x0400
/-- `IEEE80211_HT_CAP_MAX_AMSDU`. -/
def IEEE80211_HT_CAP_MAX_AMSDU : BitVec 16 := 0x0800
/-- `IEEE80211_HT_CAP_DSSSCCK40`. -/
def IEEE80211_HT_CAP_DSSSCCK40 : BitVec 16 := 0x1000
/-- `IEEE80211_HT_CAP_LSIG_TXOP_PROT`. -/
def IEEE80211_HT_CAP_LSIG_TXOP_PROT : BitVec 16 := 0x8000
/-- `IEEE80211_HT_OP_MODE_NON_GF_STA_PRSNT`. -/
def IEEE80211_HT_OP_MODE_NON_GF_STA_PRSNT : BitVec 16 := 0x0004
/-- `IEEE80211_HT_PARAM_CHA_SEC_NONE`. -/
def IEEE80211_HT_PARAM_CHA_SEC_NONE : Byte := 0x00
/-- `IEEE80211_HT_PARAM_CHA_SEC_ABOVE`. -/
def IEEE80211_HT_PARAM_CHA_SEC_ABOVE : Byte := 0x01
/-- `IEEE80211_HT_PARAM_CHA_SEC_BELOW`. -/
def IEEE80211_HT_PARAM_CHA_SEC_BELOW : Byte := 0x03
/-- `WCN36XX_HAL_11A_NW_TYPE`. -/
def WCN36XX_HAL_11A_NW_TYPE : BitVec 32 := 0
/-- `WCN36XX_HAL_11B_NW_TYPE`. -/
def WCN36XX_HAL_11B_NW_TYPE : BitVec 32 := 1
/-- `WCN36XX_HAL_11G_NW_TYPE`. -/
def WCN36XX_HAL_11G_NW_TYPE : BitVec 32 := 2
/-- `WCN36XX_HAL_11N_NW_TYPE`. -/
def WCN36XX_HAL_11N_NW_TYPE : BitVec 32 := 3
/-- `STA_11n`. -/
def STA_11n : BitVec 32 := 6

/-! ## The structures of `hal.h` -/

/-- `struct wcn36xx_hal_supported_rates`. -/
structure HalSupportedRates where
  op_rate_mode : BitVec 32 := 0
  dsss_rates : Vector (BitVec 16) 4 := .replicate 4 0
  ofdm_rates : Vector (BitVec 16) 8 := .replicate 8 0
  legacy_rates : Vector (BitVec 16) 3 := .replicate 3 0
  reserved : BitVec 16 := 0
  enhanced_rate_bitmap : BitVec 32 := 0
  supported_mcs_set : Vector Byte 16 := .replicate 16 0
  rx_highest_data_rate : BitVec 16 := 0

/-- `struct wcn36xx_hal_mac_ssid`. -/
structure HalMacSsid where
  length : Byte := 0
  ssid : Vector Byte 32 := .replicate 32 0

/-- `struct wcn36xx_hal_config_sta_params`. -/
structure HalConfigStaParams where
  bssid : Vector Byte 6 := .replicate 6 0
  aid : BitVec 16 := 0
  type : Byte := 0
  short_preamble_supported : Byte := 0
  mac : Vector Byte 6 := .replicate 6 0
  listen_interval : BitVec 16 := 0
  wmm_enabled : Byte := 0
  ht_capable : Byte := 0
  tx_channel_width_set : Byte := 0
  rifs_mode : Byte := 0
  lsig_txop_protection : Byte := 0
  max_ampdu_size : Byte := 0
  max_ampdu_density : Byte := 0
  max_amsdu_size : Byte := 0
  sgi_40mhz : Byte := 0
  sgi_20Mhz : Byte := 0
  supported_rates : HalSupportedRates := {}
  rmf : Byte := 0
  encrypt_type : BitVec 32 := 0
  action : Byte := 0
  uapsd : Byte := 0
  max_sp_len : Byte := 0
  green_field_capable : Byte := 0
  mimo_ps : BitVec 32 := 0
  delayed_ba_support : Byte := 0
  max_ampdu_duration : Byte := 0
  dsss_cck_mode_40mhz : Byte := 0
  sta_index : Byte := 0
  bssid_index : Byte := 0
  p2p : Byte := 0

/-- `struct wcn36xx_hal_config_sta_params_v1`. -/
structure HalConfigStaParamsV1 where
  bssid : Vector Byte 6 := .replicate 6 0
  aid : BitVec 16 := 0
  type : Byte := 0
  short_preamble_supported : Byte := 0
  mac : Vector Byte 6 := .replicate 6 0
  listen_interval : BitVec 16 := 0
  wmm_enabled : Byte := 0
  ht_capable : Byte := 0
  tx_channel_width_set : Byte := 0
  rifs_mode : Byte := 0
  lsig_txop_protection : Byte := 0
  max_ampdu_size : Byte := 0
  max_ampdu_density : Byte := 0
  max_amsdu_size : Byte := 0
  sgi_40mhz : Byte := 0
  sgi_20Mhz : Byte := 0
  rmf : Byte := 0
  encrypt_type : BitVec 32 := 0
  action : Byte := 0
  uapsd : Byte := 0
  max_sp_len : Byte := 0
  green_field_capable : Byte := 0
  mimo_ps : BitVec 32 := 0
  delayed_ba_support : Byte := 0
  max_ampdu_duration : Byte := 0
  dsss_cck_mode_40mhz : Byte := 0
  sta_index : Byte := 0
  bssid_index : Byte := 0
  p2p : Byte := 0
  reserved : Byte := 0
  supported_rates : HalSupportedRates := {}

/-- `struct wcn36xx_hal_config_bss_params`. The records that the driver never sets are their bytes:
`rateset`, `acbe` to `acvo`, and `ext_set_sta_key_param`. -/
structure HalConfigBssParams where
  bssid : Vector Byte 6 := .replicate 6 0
  self_mac_addr : Vector Byte 6 := .replicate 6 0
  bss_type : BitVec 32 := 0
  oper_mode : Byte := 0
  nw_type : BitVec 32 := 0
  short_slot_time_supported : Byte := 0
  lla_coexist : Byte := 0
  llb_coexist : Byte := 0
  llg_coexist : Byte := 0
  ht20_coexist : Byte := 0
  lln_non_gf_coexist : Byte := 0
  lsig_tx_op_protection_full_support : Byte := 0
  rifs_mode : Byte := 0
  beacon_interval : BitVec 16 := 0
  dtim_period : Byte := 0
  tx_channel_width_set : Byte := 0
  oper_channel : Byte := 0
  ext_channel : Byte := 0
  reserved : Byte := 0
  sta : HalConfigStaParams := {}
  ssid : HalMacSsid := {}
  action : Byte := 0
  rateset : Vector Byte 13 := .replicate 13 0
  ht : Byte := 0
  obss_prot_enabled : Byte := 0
  rmf : Byte := 0
  ht_oper_mode : BitVec 32 := 0
  dual_cts_protection : Byte := 0
  max_probe_resp_retry_limit : Byte := 0
  hidden_ssid : Byte := 0
  proxy_probe_resp : Byte := 0
  edca_params_valid : Byte := 0
  acbe : Vector Byte 4 := .replicate 4 0
  acbk : Vector Byte 4 := .replicate 4 0
  acvi : Vector Byte 4 := .replicate 4 0
  acvo : Vector Byte 4 := .replicate 4 0
  ext_set_sta_key_param_valid : Byte := 0
  ext_set_sta_key_param : Vector Byte 240 := .replicate 240 0
  wcn36xx_hal_persona : Byte := 0
  spectrum_mgt_enable : Byte := 0
  tx_mgmt_power : Byte := 0
  max_tx_power : Byte := 0

/-- `struct wcn36xx_hal_config_bss_params_v1`. -/
structure HalConfigBssParamsV1 where
  bssid : Vector Byte 6 := .replicate 6 0
  self_mac_addr : Vector Byte 6 := .replicate 6 0
  bss_type : BitVec 32 := 0
  oper_mode : Byte := 0
  nw_type : BitVec 32 := 0
  short_slot_time_supported : Byte := 0
  lla_coexist : Byte := 0
  llb_coexist : Byte := 0
  llg_coexist : Byte := 0
  ht20_coexist : Byte := 0
  lln_non_gf_coexist : Byte := 0
  lsig_tx_op_protection_full_support : Byte := 0
  rifs_mode : Byte := 0
  beacon_interval : BitVec 16 := 0
  dtim_period : Byte := 0
  tx_channel_width_set : Byte := 0
  oper_channel : Byte := 0
  ext_channel : Byte := 0
  reserved : Byte := 0
  ssid : HalMacSsid := {}
  action : Byte := 0
  rateset : Vector Byte 13 := .replicate 13 0
  ht : Byte := 0
  obss_prot_enabled : Byte := 0
  rmf : Byte := 0
  ht_oper_mode : BitVec 32 := 0
  dual_cts_protection : Byte := 0
  max_probe_resp_retry_limit : Byte := 0
  hidden_ssid : Byte := 0
  proxy_probe_resp : Byte := 0
  edca_params_valid : Byte := 0
  acbe : Vector Byte 4 := .replicate 4 0
  acbk : Vector Byte 4 := .replicate 4 0
  acvi : Vector Byte 4 := .replicate 4 0
  acvo : Vector Byte 4 := .replicate 4 0
  ext_set_sta_key_param_valid : Byte := 0
  ext_set_sta_key_param : Vector Byte 240 := .replicate 240 0
  wcn36xx_hal_persona : Byte := 0
  spectrum_mgt_enable : Byte := 0
  tx_mgmt_power : Byte := 0
  max_tx_power : Byte := 0
  sta : HalConfigStaParamsV1 := {}

/-- The fields that both structures have. -/
def HalConfigStaParamsV1.toParams (v1 : HalConfigStaParamsV1) : HalConfigStaParams where
  bssid := v1.bssid
  aid := v1.aid
  type := v1.type
  short_preamble_supported := v1.short_preamble_supported
  mac := v1.mac
  listen_interval := v1.listen_interval
  wmm_enabled := v1.wmm_enabled
  ht_capable := v1.ht_capable
  tx_channel_width_set := v1.tx_channel_width_set
  rifs_mode := v1.rifs_mode
  lsig_txop_protection := v1.lsig_txop_protection
  max_ampdu_size := v1.max_ampdu_size
  max_ampdu_density := v1.max_ampdu_density
  max_amsdu_size := v1.max_amsdu_size
  sgi_40mhz := v1.sgi_40mhz
  sgi_20Mhz := v1.sgi_20Mhz
  supported_rates := v1.supported_rates
  rmf := v1.rmf
  encrypt_type := v1.encrypt_type
  action := v1.action
  uapsd := v1.uapsd
  max_sp_len := v1.max_sp_len
  green_field_capable := v1.green_field_capable
  mimo_ps := v1.mimo_ps
  delayed_ba_support := v1.delayed_ba_support
  max_ampdu_duration := v1.max_ampdu_duration
  dsss_cck_mode_40mhz := v1.dsss_cck_mode_40mhz
  sta_index := v1.sta_index
  bssid_index := v1.bssid_index
  p2p := v1.p2p

/-- The fields that both structures have. -/
def HalConfigBssParamsV1.toParams (v1 : HalConfigBssParamsV1) : HalConfigBssParams where
  bssid := v1.bssid
  self_mac_addr := v1.self_mac_addr
  bss_type := v1.bss_type
  oper_mode := v1.oper_mode
  nw_type := v1.nw_type
  short_slot_time_supported := v1.short_slot_time_supported
  lla_coexist := v1.lla_coexist
  llb_coexist := v1.llb_coexist
  llg_coexist := v1.llg_coexist
  ht20_coexist := v1.ht20_coexist
  lln_non_gf_coexist := v1.lln_non_gf_coexist
  lsig_tx_op_protection_full_support := v1.lsig_tx_op_protection_full_support
  rifs_mode := v1.rifs_mode
  beacon_interval := v1.beacon_interval
  dtim_period := v1.dtim_period
  tx_channel_width_set := v1.tx_channel_width_set
  oper_channel := v1.oper_channel
  ext_channel := v1.ext_channel
  reserved := v1.reserved
  sta := v1.sta.toParams
  ssid := v1.ssid
  action := v1.action
  rateset := v1.rateset
  ht := v1.ht
  obss_prot_enabled := v1.obss_prot_enabled
  rmf := v1.rmf
  ht_oper_mode := v1.ht_oper_mode
  dual_cts_protection := v1.dual_cts_protection
  max_probe_resp_retry_limit := v1.max_probe_resp_retry_limit
  hidden_ssid := v1.hidden_ssid
  proxy_probe_resp := v1.proxy_probe_resp
  edca_params_valid := v1.edca_params_valid
  acbe := v1.acbe
  acbk := v1.acbk
  acvi := v1.acvi
  acvo := v1.acvo
  ext_set_sta_key_param_valid := v1.ext_set_sta_key_param_valid
  ext_set_sta_key_param := v1.ext_set_sta_key_param
  wcn36xx_hal_persona := v1.wcn36xx_hal_persona
  spectrum_mgt_enable := v1.spectrum_mgt_enable
  tx_mgmt_power := v1.tx_mgmt_power
  max_tx_power := v1.max_tx_power

/-! ## What the requests are made of -/

/-- `struct ieee80211_sta_ht_cap`, as far as the driver reads it. -/
structure StaHtCap where
  ht_supported : Bool := false
  cap : BitVec 16 := 0
  ampdu_factor : Byte := 0
  ampdu_density : Byte := 0

/-- `struct ieee80211_sta` as far as the requests carry it, with two fields of its
`struct wcn36xx_sta`. -/
structure StaConf where
  addr : List Byte
  ht_cap : StaHtCap := {}
  /-- `supp_rates[IEEE80211_BAND_2GHZ]`. -/
  supp_rates_2ghz : BitVec 32 := 0
  wme : Bool := false
  max_sp : Byte := 0
  aid : BitVec 16 := 0
  supported_rates : HalSupportedRates := {}

/-- `wcn->hw`, as far as the requests carry it. -/
structure HwConf where
  /-- `WCN36XX_BAND`. -/
  band : Band := .GHZ2
  /-- `IEEE80211_HW_2GHZ_SHORT_PREAMBLE_INCAPABLE` in `WCN36XX_FLAGS`. -/
  short_preamble_incapable : Bool := false
  /-- `WCN36XX_LISTEN_INTERVAL`. -/
  listen_interval : BitVec 16 := 0
  /-- `WCN36XX_HW_CHANNEL`. -/
  hw_channel : BitVec 16 := 0
  /-- `conf_is_ht40_minus`. -/
  ht40_minus : Bool := false
  /-- `conf_is_ht40_plus`. -/
  ht40_plus : Bool := false
  /-- `WCN36XX_MAX_POWER`. -/
  max_power : ℤ := 0

/-- `memcpy` of `ETH_ALEN` bytes. -/
def ethAddr (addr : List Byte) : Vector Byte 6 := .ofFn fun i => addr.getD i 0

/-- A flag as a byte. -/
def flagByte (b : Bool) : Byte := if b then 1 else 0

/-- `WCN36XX_HAL_ED_` in front. -/
def AniEdType.num : AniEdType → BitVec 32
  | NONE => 0
  | WEP40 => 1
  | WEP104 => 2
  | TKIP => 3
  | CCMP => 4
  | WPI => 5
  | AES_128_CMAC => 6

/-! ## Composing -/

/-- `is_cap_supported`. -/
def isCapSupported (caps flag : BitVec 16) : Byte := flagByte (caps &&& flag != 0)

/-- `wcn36xx_set_default_rates`. -/
def setDefaultRates (rates : HalSupportedRates) : HalSupportedRates :=
  { rates with
    op_rate_mode := STA_11n
    dsss_rates := #v[0x82, 0x84, 0x8b, 0x96]
    ofdm_rates := #v[0x0c, 0x12, 0x18, 0x24, 0x30, 0x48, 0x60, 0x6c]
    supported_mcs_set := rates.supported_mcs_set.set 0 0xff }

/-- `wcn36xx_smd_set_sta_ht_params`. -/
def smdSetStaHtParams (sta : StaConf) (sta_params : HalConfigStaParams) : HalConfigStaParams :=
  if sta.ht_cap.ht_supported then
    let caps := sta.ht_cap.cap
    { sta_params with
      ht_capable := flagByte sta.ht_cap.ht_supported
      tx_channel_width_set := isCapSupported caps IEEE80211_HT_CAP_SUP_WIDTH_20_40
      lsig_txop_protection := isCapSupported caps IEEE80211_HT_CAP_LSIG_TXOP_PROT
      max_ampdu_size := sta.ht_cap.ampdu_factor
      max_ampdu_density := sta.ht_cap.ampdu_density
      max_amsdu_size := isCapSupported caps IEEE80211_HT_CAP_MAX_AMSDU
      sgi_20Mhz := isCapSupported caps IEEE80211_HT_CAP_SGI_20
      sgi_40mhz := isCapSupported caps IEEE80211_HT_CAP_SGI_40
      green_field_capable := isCapSupported caps IEEE80211_HT_CAP_GRN_FLD
      delayed_ba_support := isCapSupported caps IEEE80211_HT_CAP_DELAY_BA
      dsss_cck_mode_40mhz := isCapSupported caps IEEE80211_HT_CAP_DSSSCCK40 }
  else sta_params

/-- `wcn36xx_smd_set_sta_default_ht_params`. -/
def smdSetStaDefaultHtParams (sta_params : HalConfigStaParams) : HalConfigStaParams :=
  { sta_params with
    ht_capable := 1
    tx_channel_width_set := 1
    lsig_txop_protection := 1
    max_ampdu_size := 3
    max_ampdu_density := 5
    max_amsdu_size := 0
    sgi_20Mhz := 1
    sgi_40mhz := 1
    green_field_capable := 1
    delayed_ba_support := 0
    dsss_cck_mode_40mhz := 1 }

/-- `wcn36xx_smd_set_sta_params`, on a structure that is all zero. -/
def smdSetStaParams (hw : HwConf) (vif : WcnVif) (sta : Option StaConf) : HalConfigStaParams :=
  let p : HalConfigStaParams := {}
  let p :=
    if vif.type = .ADHOC ∨ vif.type = .AP ∨ vif.type = .MESH_POINT then
      { p with type := 1, sta_index := WCN36XX_HAL_STA_INVALID_IDX }
    else { p with type := 0, sta_index := vif.self_sta_index }
  let p := { p with listen_interval := hw.listen_interval }
  let p :=
    if vif.type = .STATION then { p with mac := ethAddr vif.addr }
    else { p with bssid := ethAddr vif.addr }
  let p := { p with
    encrypt_type := vif.encrypt_type.num
    short_preamble_supported := flagByte !hw.short_preamble_incapable
    rifs_mode := 0
    rmf := 0
    action := 0
    uapsd := 0
    mimo_ps := 0
    max_ampdu_duration := 0
    bssid_index := vif.bss_index
    p2p := 0 }
  match sta with
  | some sta =>
    let p :=
      if vif.type = .STATION then { p with bssid := ethAddr sta.addr }
      else { p with mac := ethAddr sta.addr }
    let p := { p with
      wmm_enabled := flagByte sta.wme, max_sp_len := sta.max_sp, aid := sta.aid }
    let p := smdSetStaHtParams sta p
    { p with supported_rates := sta.supported_rates }
  | none =>
    smdSetStaDefaultHtParams { p with supported_rates := setDefaultRates p.supported_rates }

/-- `wcn36xx_smd_set_bss_nw_type`. -/
def smdSetBssNwType (hw : HwConf) (sta : Option StaConf) (bss_params : HalConfigBssParams) :
    HalConfigBssParams :=
  { bss_params with
    nw_type :=
      if hw.band = .GHZ5 then WCN36XX_HAL_11A_NW_TYPE
      else if sta.any fun sta => sta.ht_cap.ht_supported then WCN36XX_HAL_11N_NW_TYPE
      else if sta.any fun sta => sta.supp_rates_2ghz &&& 0x7f != 0 then WCN36XX_HAL_11G_NW_TYPE
      else WCN36XX_HAL_11B_NW_TYPE }

/-- `wcn36xx_smd_set_bss_ht_params`. -/
def smdSetBssHtParams (bss_conf : BssConf) (sta : Option StaConf) (bss_params : HalConfigBssParams) :
    HalConfigBssParams :=
  match sta with
  | some sta =>
    if sta.ht_cap.ht_supported then
      { bss_params with
        ht := flagByte sta.ht_cap.ht_supported
        tx_channel_width_set := isCapSupported sta.ht_cap.cap IEEE80211_HT_CAP_SUP_WIDTH_20_40
        lsig_tx_op_protection_full_support :=
          isCapSupported sta.ht_cap.cap IEEE80211_HT_CAP_LSIG_TXOP_PROT
        ht_oper_mode := bss_conf.ht_operation_mode.setWidth 32
        lln_non_gf_coexist :=
          isCapSupported bss_conf.ht_operation_mode IEEE80211_HT_OP_MODE_NON_GF_STA_PRSNT
        dual_cts_protection := 0
        ht20_coexist := 0 }
    else bss_params
  | none => bss_params

/-- The `bss_type`, `oper_mode` and `wcn36xx_hal_persona` of a type of interface. -/
def smdSetBssType (type : Nl80211Iftype) (bss : HalConfigBssParams) : HalConfigBssParams :=
  match type with
  | .STATION => { bss with bss_type := 0, oper_mode := 1, wcn36xx_hal_persona := 0 }
  | .AP | .MESH_POINT => { bss with bss_type := 1, oper_mode := 0, wcn36xx_hal_persona := 1 }
  | .ADHOC => { bss with bss_type := 2, oper_mode := 1 }
  -- `Unknown type for bss config`
  | .other => bss

/-- `memcpy` to a zeroed array of `n` bytes; a copy beyond its end is a fault. -/
def memcpyTo (n : ℕ) (bs : List Byte) : Option (Vector Byte n) :=
  if bs.length ≤ n then some (.ofFn fun i => bs.getD i 0) else none

/-- What `wcn36xx_smd_config_bss` composes, on a structure that is all zero. -/
def smdConfigBssParams (hw : HwConf) (vif : WcnVif) (bss_conf : BssConf) (sta : Option StaConf)
    (bssid : List Byte) (update : Bool) : Option HalConfigBssParams := do
  let bss : HalConfigBssParams := { bssid := ethAddr bssid, self_mac_addr := ethAddr vif.addr }
  let bss := smdSetBssType vif.type bss
  let bss :=
    if vif.type = .STATION then smdSetBssNwType hw sta bss
    else { bss with nw_type := WCN36XX_HAL_11N_NW_TYPE }
  let bss := { bss with
    short_slot_time_supported := flagByte bss_conf.use_short_slot
    lla_coexist := 0
    llb_coexist := 0
    llg_coexist := 0
    rifs_mode := 0
    beacon_interval := bss_conf.beacon_int
    dtim_period := vif.dtim_period }
  let bss := smdSetBssHtParams bss_conf sta bss
  let bss := { bss with
    oper_channel := hw.hw_channel.setWidth 8
    ext_channel :=
      if hw.ht40_minus then IEEE80211_HT_PARAM_CHA_SEC_BELOW
      else if hw.ht40_plus then IEEE80211_HT_PARAM_CHA_SEC_ABOVE
      else IEEE80211_HT_PARAM_CHA_SEC_NONE
    reserved := 0
    sta := smdSetStaParams hw vif sta }
  let ssid ← memcpyTo 32 vif.ssid
  return { bss with
    ssid := { length := BitVec.ofNat 8 vif.ssid.length, ssid := ssid }
    obss_prot_enabled := 0
    rmf := 0
    max_probe_resp_retry_limit := 0
    hidden_ssid := bss_conf.hidden_ssid
    proxy_probe_resp := 0
    edca_params_valid := 0
    ext_set_sta_key_param_valid := 0
    spectrum_mgt_enable := 0
    tx_mgmt_power := 0
    max_tx_power := BitVec.ofInt 8 hw.max_power
    action := flagByte update }

/-! ## The format v1 -/

/-- `wcn36xx_smd_convert_sta_to_v1`, to a structure that is all zero. -/
def smdConvertStaToV1 (orig : HalConfigStaParams) : HalConfigStaParamsV1 where
  bssid := orig.bssid
  mac := orig.mac
  aid := orig.aid
  type := orig.type
  short_preamble_supported := orig.short_preamble_supported
  listen_interval := orig.listen_interval
  wmm_enabled := orig.wmm_enabled
  ht_capable := orig.ht_capable
  tx_channel_width_set := orig.tx_channel_width_set
  rifs_mode := orig.rifs_mode
  lsig_txop_protection := orig.lsig_txop_protection
  max_ampdu_size := orig.max_ampdu_size
  max_ampdu_density := orig.max_ampdu_density
  sgi_40mhz := orig.sgi_40mhz
  sgi_20Mhz := orig.sgi_20Mhz
  rmf := orig.rmf
  encrypt_type := orig.encrypt_type
  action := orig.action
  uapsd := orig.uapsd
  max_sp_len := orig.max_sp_len
  green_field_capable := orig.green_field_capable
  mimo_ps := orig.mimo_ps
  delayed_ba_support := orig.delayed_ba_support
  max_ampdu_duration := orig.max_ampdu_duration
  dsss_cck_mode_40mhz := orig.dsss_cck_mode_40mhz
  supported_rates := orig.supported_rates
  sta_index := orig.sta_index
  bssid_index := orig.bssid_index
  p2p := orig.p2p

/-- What `wcn36xx_smd_config_bss_v1` composes. Of `ext_set_sta_key_param` it copies as many bytes as
`acvo` has. -/
def smdConfigBssV1 (orig : HalConfigBssParams) : HalConfigBssParamsV1 where
  bssid := orig.bssid
  self_mac_addr := orig.self_mac_addr
  bss_type := orig.bss_type
  oper_mode := orig.oper_mode
  nw_type := orig.nw_type
  short_slot_time_supported := orig.short_slot_time_supported
  lla_coexist := orig.lla_coexist
  llb_coexist := orig.llb_coexist
  llg_coexist := orig.llg_coexist
  ht20_coexist := orig.ht20_coexist
  lln_non_gf_coexist := orig.lln_non_gf_coexist
  lsig_tx_op_protection_full_support := orig.lsig_tx_op_protection_full_support
  rifs_mode := orig.rifs_mode
  beacon_interval := orig.beacon_interval
  dtim_period := orig.dtim_period
  tx_channel_width_set := orig.tx_channel_width_set
  oper_channel := orig.oper_channel
  ext_channel := orig.ext_channel
  reserved := orig.reserved
  ssid := orig.ssid
  action := orig.action
  rateset := orig.rateset
  ht := orig.ht
  obss_prot_enabled := orig.obss_prot_enabled
  rmf := orig.rmf
  ht_oper_mode := orig.ht_oper_mode
  dual_cts_protection := orig.dual_cts_protection
  max_probe_resp_retry_limit := orig.max_probe_resp_retry_limit
  hidden_ssid := orig.hidden_ssid
  proxy_probe_resp := orig.proxy_probe_resp
  edca_params_valid := orig.edca_params_valid
  acbe := orig.acbe
  acbk := orig.acbk
  acvi := orig.acvi
  acvo := orig.acvo
  ext_set_sta_key_param_valid := orig.ext_set_sta_key_param_valid
  ext_set_sta_key_param := .ofFn fun i => if i < 4 then orig.ext_set_sta_key_param[i] else 0
  wcn36xx_hal_persona := orig.wcn36xx_hal_persona
  spectrum_mgt_enable := orig.spectrum_mgt_enable
  tx_mgmt_power := orig.tx_mgmt_power
  max_tx_power := orig.max_tx_power
  sta := smdConvertStaToV1 orig.sta

/-- What the format v1 of a station's parameters carries: all but `max_amsdu_size`. -/
theorem toParams_convertStaToV1 (orig : HalConfigStaParams) :
    (smdConvertStaToV1 orig).toParams = { orig with max_amsdu_size := 0 } := rfl

/-- Both formats carry the same information about a station exactly when it has no limit on its
A-MSDUs. -/
theorem convertStaToV1_eq_iff (orig : HalConfigStaParams) :
    (smdConvertStaToV1 orig).toParams = orig ↔ orig.max_amsdu_size = 0 := by
  rw [toParams_convertStaToV1]
  constructor
  · intro h
    rw [← h]
  · intro h
    rw [← h]

/-- What the format v1 of a BSS's parameters carries, when `ext_set_sta_key_param` has not been set. -/
theorem toParams_configBssV1 (orig : HalConfigBssParams)
    (hext : orig.ext_set_sta_key_param = .replicate 240 0) :
    (smdConfigBssV1 orig).toParams = { orig with sta := (smdConvertStaToV1 orig.sta).toParams } := by
  have hcopy : (Vector.ofFn fun i : Fin 240 =>
      if i < 4 then orig.ext_set_sta_key_param[i] else 0) = orig.ext_set_sta_key_param := by
    rw [hext]
    apply Vector.ext
    intro i hi
    rw [Vector.getElem_ofFn, Vector.getElem_replicate]
    split_ifs <;> simp
  unfold smdConfigBssV1 HalConfigBssParamsV1.toParams
  rw [hcopy]

/-- `max_amsdu_size` after `wcn36xx_smd_set_sta_params`. -/
theorem setStaParams_max_amsdu_size (hw : HwConf) (vif : WcnVif) (sta : Option StaConf) :
    (smdSetStaParams hw vif sta).max_amsdu_size =
      match sta with
      | some sta =>
        if sta.ht_cap.ht_supported then isCapSupported sta.ht_cap.cap IEEE80211_HT_CAP_MAX_AMSDU
        else 0
      | none => 0 := by
  cases sta with
  | none => rfl
  | some sta =>
    unfold smdSetStaParams smdSetStaHtParams
    dsimp only
    split_ifs <;> rfl

/-- The BSS type does not decide `ext_set_sta_key_param`. -/
theorem ext_smdSetBssType (type : Nl80211Iftype) (bss : HalConfigBssParams) :
    (smdSetBssType type bss).ext_set_sta_key_param = bss.ext_set_sta_key_param := by
  cases type <;> rfl

/-- The HT parameters do not decide `ext_set_sta_key_param`. -/
theorem ext_smdSetBssHtParams (bss_conf : BssConf) (sta : Option StaConf)
    (bss : HalConfigBssParams) :
    (smdSetBssHtParams bss_conf sta bss).ext_set_sta_key_param = bss.ext_set_sta_key_param := by
  unfold smdSetBssHtParams
  split
  · split_ifs <;> rfl
  · rfl

/-- `wcn36xx_smd_config_bss` composes the station's parameters with `wcn36xx_smd_set_sta_params`, and does not
set `ext_set_sta_key_param`. -/
theorem configBssParams_sta {hw : HwConf} {vif : WcnVif} {bss_conf : BssConf}
    {sta : Option StaConf} {bssid : List Byte} {update : Bool} {bss : HalConfigBssParams}
    (h : smdConfigBssParams hw vif bss_conf sta bssid update = some bss) :
    bss.sta = smdSetStaParams hw vif sta ∧ bss.ext_set_sta_key_param = .replicate 240 0 := by
  obtain ⟨ssid, -, heq⟩ := Option.bind_eq_some_iff.mp h
  cases heq
  refine ⟨rfl, ?_⟩
  dsimp only
  rw [ext_smdSetBssHtParams]
  dsimp only
  rw [apply_ite HalConfigBssParams.ext_set_sta_key_param]
  unfold smdSetBssNwType
  dsimp only
  rw [ext_smdSetBssType, ite_self]

/-- The requests in both formats carry the same information: every field that both structures have has the
same value. -/
structure SameInfo (sta : HalConfigStaParams) (bss : HalConfigBssParams) : Prop where
  config_sta : (smdConvertStaToV1 sta).toParams = sta
  config_bss : (smdConfigBssV1 bss).toParams = bss

/-- A station does not announce that it receives only short A-MSDUs: there is none, or it is not HT capable,
or its HT capabilities do not have `IEEE80211_HT_CAP_MAX_AMSDU`. -/
def NoMaxAmsdu (sta : Option StaConf) : Prop :=
  ∀ s ∈ sta, s.ht_cap.ht_supported = true → s.ht_cap.cap &&& IEEE80211_HT_CAP_MAX_AMSDU = 0

/-- Both formats of the configuration requests carry the same information exactly when no station with
`IEEE80211_HT_CAP_MAX_AMSDU` is configured. -/
theorem sameInfo_iff (hw : HwConf) (vif : WcnVif) (bss_conf : BssConf) (sta : Option StaConf)
    (bssid : List Byte) (update : Bool) {bss : HalConfigBssParams}
    (hbss : smdConfigBssParams hw vif bss_conf sta bssid update = some bss) :
    SameInfo (smdSetStaParams hw vif sta) bss ↔ NoMaxAmsdu sta := by
  obtain ⟨hsta, hext⟩ := configBssParams_sta hbss
  have hamsdu : (smdSetStaParams hw vif sta).max_amsdu_size = 0 ↔ NoMaxAmsdu sta := by
    rw [setStaParams_max_amsdu_size]
    unfold NoMaxAmsdu isCapSupported flagByte
    cases sta with
    | none => simp
    | some s =>
      cases hht : s.ht_cap.ht_supported <;> simp [hht]
  rw [← hamsdu]
  constructor
  · intro h
    exact (convertStaToV1_eq_iff _).mp h.config_sta
  · intro hzero
    have hsame := (convertStaToV1_eq_iff _).mpr hzero
    refine ⟨hsame, ?_⟩
    rw [toParams_configBssV1 bss hext, hsta, hsame, ← hsta]

/-! ## A station in an access point's BSS -/

/-- A station with some HT capabilities. -/
def htSta (cap : BitVec 16) : StaConf where
  addr := [2, 0, 0, 0, 0, 2]
  ht_cap := { ht_supported := true, cap := cap }

/-- An access point's interface. -/
def apVif : WcnVif where
  type := .AP
  addr := [2, 0, 0, 0, 0, 1]

/-- An SSID of at most 32 bytes is copied whole. -/
theorem configBssParams_of_ssid_le (hw : HwConf) (vif : WcnVif) (bss_conf : BssConf)
    (sta : Option StaConf) (bssid : List Byte) (update : Bool) (hssid : vif.ssid.length ≤ 32) :
    ∃ bss, smdConfigBssParams hw vif bss_conf sta bssid update = some bss := by
  exact ⟨_, Option.bind_eq_some_iff.mpr ⟨_, if_pos hssid, rfl⟩⟩

/-- A station with short guard intervals and no limit on its A-MSDUs. -/
theorem sameInfo_iff_short_gi : ∃ bss,
    smdConfigBssParams {} apVif {} (some (htSta IEEE80211_HT_CAP_SGI_20)) apVif.addr false =
      some bss ∧
    SameInfo (smdSetStaParams {} apVif (some (htSta IEEE80211_HT_CAP_SGI_20))) bss := by
  obtain ⟨bss, hbss⟩ := configBssParams_of_ssid_le {} apVif {}
    (some (htSta IEEE80211_HT_CAP_SGI_20)) apVif.addr false (by decide)
  refine ⟨bss, hbss, (sameInfo_iff {} apVif {} _ apVif.addr false hbss).mpr ?_⟩
  rintro s hs -
  obtain rfl := Option.some.inj hs
  decide

/-- A station that receives only short A-MSDUs. -/
theorem sameInfo_fails_on_max_amsdu : ∃ bss,
    smdConfigBssParams {} apVif {} (some (htSta IEEE80211_HT_CAP_MAX_AMSDU)) apVif.addr false =
      some bss ∧
    ¬SameInfo (smdSetStaParams {} apVif (some (htSta IEEE80211_HT_CAP_MAX_AMSDU))) bss := by
  obtain ⟨bss, hbss⟩ := configBssParams_of_ssid_le {} apVif {}
    (some (htSta IEEE80211_HT_CAP_MAX_AMSDU)) apVif.addr false (by decide)
  refine ⟨bss, hbss, fun h => ?_⟩
  have hzero := (convertStaToV1_eq_iff _).mp h.config_sta
  rw [setStaParams_max_amsdu_size] at hzero
  exact absurd hzero (by decide)

end Wcn36xx
