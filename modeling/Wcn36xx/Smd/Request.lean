import Wcn36xx.Smd.ConfigMsg
import Wcn36xx.Smd.LoadNv
import Wcn36xx.Smd.MsgType

/-!
# The request functions

A request function of `smd.c` composes a message in `hal_buf`, gives its `header.len` bytes to
`ctrl_ops->tx`, waits, and reads the response, which is then in `hal_buf`. `SmdFn` has what it does
before and after the wait, and each function is one under its own name.

Most messages are a structure of fixed size that `INIT_HAL_MSG` and `PREPARE_HAL_BUF` bring to the
buffer (`fixedMsg`). The others go on in the buffer: the configuration TLVs of
`wcn36xx_smd_start` and `wcn36xx_smd_update_cfg`, the candidate behind the message of
`wcn36xx_smd_trigger_ba`, and the list of `wcn36xx_smd_set_mc_list`, which is composed in place. The
messages of `wcn36xx_smd_load_nv` are in `Smd/LoadNv.lean`.

Fields are listed in the order of `hal.h`, and an enumerator is its number. What the functions print is
left out.
-/

namespace Wcn36xx

/-- `E2BIG`. -/
def E2BIG : ℤ := 7
/-- `BEACON_TEMPLATE_SIZE`. -/
def BEACON_TEMPLATE_SIZE : ℕ := 0x17C
/-- `TIM_MIN_PVM_SIZE`. -/
def TIM_MIN_PVM_SIZE : ℤ := 6
/-- `WCN36XX_HAL_MAC_MAX_KEY_LENGTH`. -/
def WCN36XX_HAL_MAC_MAX_KEY_LENGTH : ℕ := 32
/-- `WCN36XX_HAL_VERSION_LENGTH`. -/
def WCN36XX_HAL_VERSION_LENGTH : ℕ := 64
/-- `WCN36XX_AGGR_BUFFER_SIZE`. -/
def WCN36XX_AGGR_BUFFER_SIZE : ℕ := 64
/-- `WCN36XX_FW_MSG_PNO_VERSION_MASK`. -/
def WCN36XX_FW_MSG_PNO_VERSION_MASK : BitVec 32 := 0x8000
/-- `WCN36XX_KEEP_ALIVE_TIME_PERIOD`. -/
def WCN36XX_KEEP_ALIVE_TIME_PERIOD : BitVec 32 := 30
/-- `STA_POWERSAVE` of `enum place_holder_in_cap_bitmap`. -/
def STA_POWERSAVE : ℕ := 13

/-- `n` bytes that stay zero. -/
def zeros (n : ℕ) : List Byte := List.replicate n 0

/-- A `u8` or a `bool` in a field of 16 bits. -/
def wide16 (b : Byte) : BitVec 16 := b.setWidth 16

/-- The eight bytes of a 64-bit field. -/
def leBytes64 (w : BitVec 64) : List Byte :=
  leBytes (w.extractLsb' 0 32) ++ leBytes (w.extractLsb' 32 32)

/-! ## Composing and reading -/

/-- What a request function has done when it comes to the wait. -/
inductive Composed where
  /-- It returns an error without sending anything. -/
  | refused (ret : ℤ)
  /-- It calls `ctrl_ops->tx` with `hal_buf` and a length. -/
  | ready (hal_buf : HalBuf) (len : ℕ)

/-- What a request function keeps of a response. -/
inductive RspStored where
  | none
  /-- `crm_version`, `wlan_version`, and the four numbers of the firmware's version. -/
  | start (crm_version wlan_version : List Byte)
      (fw_revision fw_version fw_minor fw_major : Option Byte)
  | addStaSelf (self_sta_index self_dpu_desc_index : Option Byte)
  | configSta (sta_index dpu_desc_index ucast_dpu_sign : Option Byte)
  /-- The second and the third only when there is a station. -/
  | configBss (bss_index bss_sta_index bss_dpu_desc_index self_ucast_dpu_sign : Option Byte)
  | featureCaps (fw_feat_caps : List ℕ)
  deriving DecidableEq

/-- What a request function makes of a response. -/
structure RspResult where
  ret : ℤ
  stored : RspStored := .none
  deriving DecidableEq

/-- A request function: what it does before `wcn36xx_smd_send_and_wait`, and what it makes of the
response then, with `hal_buf` and `hal_rsp_len`. -/
structure SmdFn where
  compose : HalBuf → Option Composed
  rsp : List Byte → ℕ → RspResult

/-- `PREPARE_HAL_BUF`. -/
def prepareHalBuf (header : HalMsgHeader) (body : List Byte) (hal_buf : HalBuf) : Option HalBuf := do
  let hal_buf ← hal_buf.write 0 (zeros header.len.toNat)
  hal_buf.write 0 (header.bytes ++ body)

/-- `INIT_HAL_MSG` and `PREPARE_HAL_BUF` for a structure that is a header and a body. -/
def fixedMsg (req : HalReq) (body : List Byte) (hal_buf : HalBuf) : Option Composed := do
  let header := initHalMsg req.reqType (HalMsgHeader.size + body.length)
  let hal_buf ← prepareHalBuf header body hal_buf
  return .ready hal_buf header.len.toNat

/-- `wcn36xx_smd_rsp_status_check`, of which most functions return the result. -/
def smdRspStatus (buf : List Byte) (len : ℕ) : RspResult where
  ret := smdRspStatusCheck buf len

/-- A request function that sends a structure of fixed size, and checks the status of the response. -/
def statusFn (req : HalReq) (body : List Byte) : SmdFn where
  compose := fixedMsg req body
  rsp := smdRspStatus

/-- `status` of a response as the `int` that is returned. -/
def statusRet (status : ℕ) : ℤ := (BitVec.ofNat 32 status).toInt

/-! ## Structures of the messages -/

/-- The bytes of `struct wcn36xx_hal_supported_rates`. -/
def HalSupportedRates.bytes (rates : HalSupportedRates) : List Byte :=
  leBytes rates.op_rate_mode ++ rates.dsss_rates.toList.flatMap leBytes16 ++
    rates.ofdm_rates.toList.flatMap leBytes16 ++ rates.legacy_rates.toList.flatMap leBytes16 ++
    leBytes16 rates.reserved ++ leBytes rates.enhanced_rate_bitmap ++
    rates.supported_mcs_set.toList ++ leBytes16 rates.rx_highest_data_rate

/-- The bytes of `struct wcn36xx_hal_mac_ssid`. -/
def HalMacSsid.bytes (ssid : HalMacSsid) : List Byte := ssid.length :: ssid.ssid.toList

/-- The bytes of `struct wcn36xx_hal_config_sta_params`. -/
def HalConfigStaParams.bytes (p : HalConfigStaParams) : List Byte :=
  p.bssid.toList ++ leBytes16 p.aid ++ [p.type, p.short_preamble_supported] ++ p.mac.toList ++
    leBytes16 p.listen_interval ++
    [p.wmm_enabled, p.ht_capable, p.tx_channel_width_set, p.rifs_mode, p.lsig_txop_protection,
      p.max_ampdu_size, p.max_ampdu_density, p.max_amsdu_size, p.sgi_40mhz, p.sgi_20Mhz] ++
    p.supported_rates.bytes ++ [p.rmf] ++ leBytes p.encrypt_type ++
    [p.action, p.uapsd, p.max_sp_len, p.green_field_capable] ++ leBytes p.mimo_ps ++
    [p.delayed_ba_support, p.max_ampdu_duration, p.dsss_cck_mode_40mhz, p.sta_index,
      p.bssid_index, p.p2p]

/-- The bytes of `struct wcn36xx_hal_config_sta_params_v1`. -/
def HalConfigStaParamsV1.bytes (p : HalConfigStaParamsV1) : List Byte :=
  p.bssid.toList ++ leBytes16 p.aid ++ [p.type, p.short_preamble_supported] ++ p.mac.toList ++
    leBytes16 p.listen_interval ++
    [p.wmm_enabled, p.ht_capable, p.tx_channel_width_set, p.rifs_mode, p.lsig_txop_protection,
      p.max_ampdu_size, p.max_ampdu_density, p.max_amsdu_size, p.sgi_40mhz, p.sgi_20Mhz,
      p.rmf] ++ leBytes p.encrypt_type ++
    [p.action, p.uapsd, p.max_sp_len, p.green_field_capable] ++ leBytes p.mimo_ps ++
    [p.delayed_ba_support, p.max_ampdu_duration, p.dsss_cck_mode_40mhz, p.sta_index,
      p.bssid_index, p.p2p, p.reserved] ++ p.supported_rates.bytes

/-- The bytes of `struct wcn36xx_hal_config_bss_params`. -/
def HalConfigBssParams.bytes (p : HalConfigBssParams) : List Byte :=
  p.bssid.toList ++ p.self_mac_addr.toList ++ leBytes p.bss_type ++ [p.oper_mode] ++
    leBytes p.nw_type ++
    [p.short_slot_time_supported, p.lla_coexist, p.llb_coexist, p.llg_coexist, p.ht20_coexist,
      p.lln_non_gf_coexist, p.lsig_tx_op_protection_full_support, p.rifs_mode] ++
    leBytes16 p.beacon_interval ++
    [p.dtim_period, p.tx_channel_width_set, p.oper_channel, p.ext_channel, p.reserved] ++
    p.sta.bytes ++ p.ssid.bytes ++ [p.action] ++ p.rateset.toList ++
    [p.ht, p.obss_prot_enabled, p.rmf] ++ leBytes p.ht_oper_mode ++
    [p.dual_cts_protection, p.max_probe_resp_retry_limit, p.hidden_ssid, p.proxy_probe_resp,
      p.edca_params_valid] ++
    p.acbe.toList ++ p.acbk.toList ++ p.acvi.toList ++ p.acvo.toList ++
    [p.ext_set_sta_key_param_valid] ++ p.ext_set_sta_key_param.toList ++
    [p.wcn36xx_hal_persona, p.spectrum_mgt_enable, p.tx_mgmt_power, p.max_tx_power]

/-- The bytes of `struct wcn36xx_hal_config_bss_params_v1`. -/
def HalConfigBssParamsV1.bytes (p : HalConfigBssParamsV1) : List Byte :=
  p.bssid.toList ++ p.self_mac_addr.toList ++ leBytes p.bss_type ++ [p.oper_mode] ++
    leBytes p.nw_type ++
    [p.short_slot_time_supported, p.lla_coexist, p.llb_coexist, p.llg_coexist, p.ht20_coexist,
      p.lln_non_gf_coexist, p.lsig_tx_op_protection_full_support, p.rifs_mode] ++
    leBytes16 p.beacon_interval ++
    [p.dtim_period, p.tx_channel_width_set, p.oper_channel, p.ext_channel, p.reserved] ++
    p.ssid.bytes ++ [p.action] ++ p.rateset.toList ++
    [p.ht, p.obss_prot_enabled, p.rmf] ++ leBytes p.ht_oper_mode ++
    [p.dual_cts_protection, p.max_probe_resp_retry_limit, p.hidden_ssid, p.proxy_probe_resp,
      p.edca_params_valid] ++
    p.acbe.toList ++ p.acbk.toList ++ p.acvi.toList ++ p.acvo.toList ++
    [p.ext_set_sta_key_param_valid] ++ p.ext_set_sta_key_param.toList ++
    [p.wcn36xx_hal_persona, p.spectrum_mgt_enable, p.tx_mgmt_power, p.max_tx_power] ++ p.sta.bytes

/-- The bytes of an array of four `struct wcn36xx_hal_keys` of which the first is set. -/
def keysBytes (id unicast : Byte) (direction : BitVec 32) (pae_role : Byte) (length : BitVec 16)
    (key : Vector Byte WCN36XX_HAL_MAC_MAX_KEY_LENGTH) : List Byte :=
  [id, unicast] ++ leBytes direction ++ zeros 16 ++ [pae_role] ++ leBytes16 length ++ key.toList ++
    zeros (3 * 57)

/-! ## Start, stop and the NV image -/

/-- `wcn36xx_cfg_vals`. -/
def wcn36xx_cfg_vals : List (BitVec 32 × BitVec 32) :=
  [(1, 1), (2, 1), (3, 0), (4, 785), (5, 5), (6, 1), (7, 0), (8, 3), (9, 6000), (10, 64),
    (11, 2347), (12, 6), (13, 6), (14, 8000), (15, 5), (16, 10), (17, 15), (18, 0), (19, 4),
    (20, 0), (21, 0), (22, 5), (23, 1), (24, 5), (26, 5), (27, 40), (28, 200), (29, 1), (30, 1),
    (31, 20), (32, 10), (33, 30000), (34, 0), (40, 128), (41, 2560), (57, 0), (64, 1), (75, 1),
    (99, 0), (98, 10), (100, 0)]

/-- An entry of `struct wcn36xx_hal_cfg` with its value. -/
def cfgEntry (id value : BitVec 32) : List Byte :=
  leBytes16 (id.setWidth 16) ++ leBytes16 4 ++ leBytes16 0 ++ leBytes16 0 ++ leBytes value

/-- `put_cfg_tlv_u32`: the buffer, `*len` and the return value. -/
def putCfgTlvU32 (hal_buf : HalBuf) (len : ℕ) (id value : BitVec 32) :
    Option (HalBuf × ℕ × ℤ) := do
  -- `Not enough room for TLV entry`
  if len + 12 ≥ WCN36XX_HAL_BUF_SIZE then return (hal_buf, len, -ENOMEM)
  let hal_buf ← hal_buf.write len (cfgEntry id value)
  return (hal_buf, len + 12, 0)

/-- The loop over `wcn36xx_cfg_vals`. -/
def putCfgTlvs : List (BitVec 32 × BitVec 32) → HalBuf → ℕ → Option (HalBuf × ℕ × ℤ)
  | [], hal_buf, len => some (hal_buf, len, 0)
  | (id, value) :: vals, hal_buf, len => do
    let (hal_buf, len, ret) ← putCfgTlvU32 hal_buf len id value
    if ret ≠ 0 then return (hal_buf, len, ret) else putCfgTlvs vals hal_buf len

/-- `sizeof(struct wcn36xx_hal_mac_start_rsp_msg)`. -/
def sizeofStartRsp : ℕ := 144

/-- `wcn36xx_smd_start_rsp`. -/
def smdStartRsp (buf : List Byte) (len : ℕ) : RspResult :=
  if len < sizeofStartRsp then { ret := - EIO }
  else if WCN36XX_FW_MSG_RESULT_SUCCESS ≠ field buf 8 2 then { ret := - EIO }
  else
    { ret := 0
      stored := .start ((buf.drop 16).take WCN36XX_HAL_VERSION_LENGTH)
        ((buf.drop 80).take WCN36XX_HAL_VERSION_LENGTH) buf[12]? buf[13]? buf[14]? buf[15]? }

/-- `wcn36xx_smd_start`. -/
def SmdFn.start : SmdFn where
  compose hal_buf := do
    -- `DRIVER_TYPE_PRODUCTION`, and a length that is set below.
    let body := leBytes 0 ++ leBytes 0
    let hal_buf ← prepareHalBuf (initHalMsg HalReq.START.reqType 16) body hal_buf
    let len := field hal_buf.bytes 4 4
    let (hal_buf, len, ret) ← putCfgTlvs wcn36xx_cfg_vals hal_buf len
    if ret ≠ 0 then return .refused ret
    let hal_buf ← hal_buf.write 4 (leBytes (BitVec.ofNat 32 len))
    let hal_buf ← hal_buf.write 12 (leBytes (BitVec.ofNat 32 (len - 16)))
    return .ready hal_buf (field hal_buf.bytes 4 4)
  rsp := smdStartRsp

/-- `wcn36xx_smd_stop`, with the reason `HAL_STOP_TYPE_RF_KILL`. -/
def SmdFn.stop : SmdFn := statusFn .STOP (leBytes 2)

/-! ## Scanning and channels -/

/-- `wcn36xx_smd_init_scan`. -/
def SmdFn.initScan (mode : BitVec 32) : SmdFn :=
  statusFn .INIT_SCAN (leBytes mode ++ zeros 6 ++ [0, 0, 0] ++ zeros 24 ++ zeros 3)

/-- `wcn36xx_smd_start_scan`. -/
def SmdFn.startScan (hw : HwConf) : SmdFn := statusFn .START_SCAN [hw.hw_channel.setWidth 8]

/-- `wcn36xx_smd_end_scan`. -/
def SmdFn.endScan (hw : HwConf) : SmdFn := statusFn .END_SCAN [hw.hw_channel.setWidth 8]

/-- `wcn36xx_smd_finish_scan`. -/
def SmdFn.finishScan (mode : BitVec 32) : SmdFn :=
  statusFn .FINISH_SCAN
    (leBytes mode ++ [0] ++ leBytes 0 ++ zeros 6 ++ [0, 0, 0] ++ zeros 24 ++ zeros 3)

/-- `wcn36xx_smd_switch_channel`, with `wcn36xx_smd_switch_channel_rsp`. -/
def SmdFn.switchChannel (vif : WcnVif) (ch : BitVec 32) : SmdFn :=
  statusFn .CH_SWITCH
    ([ch.setWidth 8, 0] ++ leBytes 0 ++ [0xbf, 0xbf] ++ (ethAddr vif.addr).toList ++ zeros 6)

/-- `wcn36xx_smd_update_scan_params_rsp`. It does not look at the length. -/
def smdUpdateScanParamsRsp (buf : List Byte) : RspResult :=
  -- Remove the PNO version bit.
  let status := BitVec.ofNat 32 (field buf 8 4) &&& ~~~WCN36XX_FW_MSG_PNO_VERSION_MASK
  if WCN36XX_FW_MSG_RESULT_SUCCESS ≠ status.toNat then { ret := status.toInt } else { ret := 0 }

/-- `wcn36xx_smd_update_scan_params`. -/
def SmdFn.updateScanParams : SmdFn where
  compose := fixedMsg .UPDATE_SCAN_PARAM
    ([0, 0, 26] ++ zeros 26 ++ leBytes16 60 ++ leBytes16 120 ++ leBytes16 60 ++ leBytes16 110 ++
      leBytes 0)
  rsp buf _ := smdUpdateScanParamsRsp buf

/-! ## Interfaces and stations -/

/-- `sizeof(struct wcn36xx_hal_add_sta_self_rsp_msg)`. -/
def sizeofAddStaSelfRsp : ℕ := 15

/-- `wcn36xx_smd_add_sta_self_rsp`. -/
def smdAddStaSelfRsp (buf : List Byte) (len : ℕ) : RspResult :=
  if len < sizeofAddStaSelfRsp then { ret := -EINVAL }
  else
    let status := field buf 8 4
    if status ≠ WCN36XX_FW_MSG_RESULT_SUCCESS then { ret := statusRet status }
    else { ret := 0, stored := .addStaSelf buf[12]? buf[13]? }

/-- `wcn36xx_smd_add_sta_self`. -/
def SmdFn.addStaSelf (vif : WcnVif) : SmdFn where
  compose := fixedMsg .ADD_STA_SELF ((ethAddr vif.addr).toList ++ leBytes 0)
  rsp := smdAddStaSelfRsp

/-- `wcn36xx_smd_delete_sta_self`. -/
def SmdFn.deleteStaSelf (addr : List Byte) : SmdFn := statusFn .DEL_STA_SELF (ethAddr addr).toList

/-- `wcn36xx_smd_delete_sta`. -/
def SmdFn.deleteSta (sta_index : Byte) : SmdFn := statusFn .DELETE_STA [sta_index]

/-- `wcn36xx_smd_join_rsp`. -/
def smdJoinRsp (buf : List Byte) (len : ℕ) : RspResult where
  ret := if smdRspStatusCheck buf len ≠ 0 then - EIO else 0

/-- `wcn36xx_smd_join`; `vif` is the interface's address. -/
def SmdFn.join (hw : HwConf) (bssid vif : List Byte) (ch : Byte) : SmdFn where
  compose := fixedMsg .JOIN
    ((ethAddr bssid).toList ++ [ch] ++ (ethAddr vif).toList ++ [0] ++
      -- `PHY_DOUBLE_CHANNEL_HIGH_PRIMARY`, `PHY_DOUBLE_CHANNEL_LOW_PRIMARY`,
      -- `PHY_SINGLE_CHANNEL_CENTERED`
      leBytes (if hw.ht40_minus then 3 else if hw.ht40_plus then 1 else 0) ++
      -- `WCN36XX_HAL_LINK_PREASSOC_STATE`
      leBytes 1 ++ [0xbf])
  rsp := smdJoinRsp

/-- `wcn36xx_smd_set_link_st`. -/
def SmdFn.setLinkSt (bssid sta_mac : List Byte) (state : BitVec 32) : SmdFn :=
  statusFn .SET_LINK_ST ((ethAddr bssid).toList ++ leBytes state ++ (ethAddr sta_mac).toList)

/-- `sizeof(struct wcn36xx_hal_config_sta_rsp_msg)`. -/
def sizeofConfigStaRsp : ℕ := 21

/-- `wcn36xx_smd_config_sta_rsp`. -/
def smdConfigStaRsp (buf : List Byte) (len : ℕ) : RspResult :=
  if len < sizeofConfigStaRsp then { ret := -EINVAL }
  else if field buf 8 4 ≠ WCN36XX_FW_MSG_RESULT_SUCCESS then { ret := - EIO }
  else { ret := 0, stored := .configSta buf[12]? buf[14]? buf[17]? }

/-- `wcn36xx_smd_config_sta`, in the format v1 unless the firmware is 1.2.2.24. -/
def SmdFn.configSta (old_fw : Bool) (hw : HwConf) (vif : WcnVif) (sta : StaConf) : SmdFn where
  compose :=
    let sta_params := smdSetStaParams hw vif (some sta)
    fixedMsg .CONFIG_STA
      (if old_fw then sta_params.bytes else (smdConvertStaToV1 sta_params).bytes)
  rsp := smdConfigStaRsp

/-- `sizeof(struct wcn36xx_hal_config_bss_rsp_msg)`. -/
def sizeofConfigBssRsp : ℕ := 29

/-- `wcn36xx_smd_config_bss_rsp`; `sta` says that there is a station. -/
def smdConfigBssRsp (sta : Bool) (buf : List Byte) (len : ℕ) : RspResult :=
  if len < sizeofConfigBssRsp then { ret := -EINVAL }
  else if field buf 8 4 ≠ WCN36XX_FW_MSG_RESULT_SUCCESS then { ret := - EIO }
  else
    { ret := 0
      stored := .configBss buf[12]? (if sta then buf[19]? else none)
        (if sta then buf[13]? else none) buf[14]? }

/-- `wcn36xx_smd_config_bss`, in the format v1 unless the firmware is 1.2.2.24. -/
def SmdFn.configBss (old_fw : Bool) (hw : HwConf) (vif : WcnVif) (bss_conf : BssConf)
    (sta : Option StaConf) (bssid : List Byte) (update : Bool) : SmdFn where
  compose hal_buf := do
    let bss ← smdConfigBssParams hw vif bss_conf sta bssid update
    fixedMsg .CONFIG_BSS (if old_fw then bss.bytes else (smdConfigBssV1 bss).bytes) hal_buf
  rsp := smdConfigBssRsp sta.isSome

/-- `wcn36xx_smd_delete_bss`. -/
def SmdFn.deleteBss (vif : WcnVif) : SmdFn := statusFn .DELETE_BSS [vif.bss_index]

/-! ## Beacons and probe responses -/

/-- The padding of the TIM to the size that the firmware expects: `len` bytes of the template `beacon`
are in use, and the part behind the PVM moves back by `pad` bytes. -/
def padTim (beacon : List Byte) (len tim_off : ℕ) (pvm_len pad : ℤ) : Option (List Byte) :=
  if pad > 0 then
    let pvm_end := (tim_off + 5 + pvm_len).toNat
    if pvm_end ≤ len ∧ len + pad ≤ BEACON_TEMPLATE_SIZE then
      -- `memmove`, then `memset` of the gap
      let beacon := beacon.take pvm_end ++ zeros pad.toNat ++
        (beacon.drop pvm_end).take (len - pvm_end) ++ beacon.drop (len + pad.toNat)
      some (beacon.modify (tim_off + 1) fun b => b + BitVec.ofInt 8 pad)
    else none
  else some beacon

/-- `wcn36xx_smd_send_beacon`; the template is the data of `skb_beacon`. -/
def SmdFn.sendBeacon (vif : WcnVif) (skb_beacon : List Byte) (tim_off p2p_off : BitVec 16) : SmdFn where
  compose hal_buf := do
    let tim_len ← skb_beacon[tim_off.toNat + 1]?
    let pvm_len : ℤ := tim_len.toNat - 3
    -- Padding is irrelevant to mesh mode since tim_off is always 0.
    let pad := if vif.type = .MESH_POINT then 0 else TIM_MIN_PVM_SIZE - pvm_len
    let beacon_length := BitVec.ofInt 32 (skb_beacon.length + pad)
    -- `Beacon is to big`
    if beacon_length.toNat > BEACON_TEMPLATE_SIZE then return .refused (-ENOMEM)
    let beacon ← memcpyTo BEACON_TEMPLATE_SIZE skb_beacon
    let beacon ← padTim beacon.toList skb_beacon.length tim_off.toNat pvm_len pad
    let tim_ie_offset :=
      if vif.type = .MESH_POINT then 256 else BitVec.ofNat 32 (tim_off.toNat + 4)
    fixedMsg .SEND_BEACON
      (leBytes (beacon_length + 6) ++ leBytes beacon_length ++ beacon ++
        (ethAddr vif.addr).toList ++ leBytes tim_ie_offset ++ leBytes16 p2p_off) hal_buf
  rsp := smdRspStatus

/-- `wcn36xx_smd_update_proberesp_tmpl`; the template is the data of `skb`. The structure is not packed
and ends with two bytes of padding. -/
def SmdFn.updateProberespTmpl (vif : WcnVif) (skb : List Byte) : SmdFn where
  compose hal_buf := do
    -- `probe response template is too big`
    if skb.length > BEACON_TEMPLATE_SIZE then return .refused (-E2BIG)
    let probe_resp_template ← memcpyTo BEACON_TEMPLATE_SIZE skb
    fixedMsg .UPDATE_PROBE_RSP_TEMPLATE
      (probe_resp_template.toList ++ leBytes (BitVec.ofNat 32 skb.length) ++ zeros 32 ++
        (ethAddr vif.addr).toList ++ zeros 2) hal_buf
  rsp := smdRspStatus

/-! ## Keys -/

/-- `wcn36xx_smd_set_stakey`; `key` is the `keylen` bytes of the key. -/
def SmdFn.setStakey (enc_type : AniEdType) (keyidx : Byte) (key : List Byte) (sta_index : Byte) :
    SmdFn where
  compose hal_buf := do
    let keys ← memcpyTo WCN36XX_HAL_MAC_MAX_KEY_LENGTH key
    fixedMsg .SET_STAKEY
      (leBytes16 (wide16 sta_index) ++ leBytes enc_type.num ++ leBytes 0 ++ [0] ++
        -- `WCN36XX_HAL_TX_RX`
        keysBytes keyidx 1 2 0 (BitVec.ofNat 16 key.length) keys ++ [1]) hal_buf
  rsp := smdRspStatus

/-- `wcn36xx_smd_set_bsskey`; `key` is the `keylen` bytes of the key. -/
def SmdFn.setBsskey (enc_type : AniEdType) (keyidx : Byte) (key : List Byte) : SmdFn where
  compose hal_buf := do
    let keys ← memcpyTo WCN36XX_HAL_MAC_MAX_KEY_LENGTH key
    fixedMsg .SET_BSSKEY
      ([0] ++ leBytes enc_type.num ++ [1] ++
        -- `WCN36XX_HAL_RX_ONLY`
        keysBytes keyidx 0 1 0 (BitVec.ofNat 16 key.length) keys ++ [0]) hal_buf
  rsp := smdRspStatus

/-- `wcn36xx_smd_remove_stakey`. -/
def SmdFn.removeStakey (enc_type : AniEdType) (keyidx sta_index : Byte) : SmdFn :=
  statusFn .RMV_STAKEY (leBytes16 (wide16 sta_index) ++ leBytes enc_type.num ++ [keyidx, 0])

/-- `wcn36xx_smd_remove_bsskey`. -/
def SmdFn.removeBsskey (enc_type : AniEdType) (keyidx : Byte) : SmdFn :=
  statusFn .RMV_BSSKEY ([0] ++ leBytes enc_type.num ++ [keyidx] ++ leBytes 0)

/-! ## Power -/

/-- `wcn36xx_smd_enter_bmps`. -/
def SmdFn.enterBmps (vif : WcnVif) (bss_conf : BssConf) : SmdFn :=
  statusFn .ENTER_BMPS
    ([vif.bss_index] ++ leBytes64 bss_conf.sync_tsf ++ [0, vif.dtim_period] ++ leBytes 0 ++
      leBytes 0 ++ [0])

/-- `wcn36xx_smd_exit_bmps`. -/
def SmdFn.exitBmps (vif : WcnVif) : SmdFn := statusFn .EXIT_BMPS [0, vif.bss_index]

/-- `wcn36xx_smd_set_power_params`. It does not look at the response. -/
def SmdFn.setPowerParams (hw : HwConf) (ignore_dtim : Bool) : SmdFn where
  compose := fixedMsg .SET_POWER_PARAMS
    -- When host is down ignore every second dtim.
    ((if ignore_dtim then leBytes 1 ++ leBytes 2 else leBytes 0 ++ leBytes 0) ++
      leBytes (hw.listen_interval.setWidth 32) ++ leBytes 0 ++ leBytes 0 ++ leBytes 0)
  rsp _ _ := { ret := 0 }

/-- `wcn36xx_smd_keep_alive_req`. -/
def SmdFn.keepAliveReq (vif : WcnVif) (packet_type : ℤ) : SmdFn where
  compose hal_buf :=
    -- `WCN36XX_HAL_KEEP_ALIVE_NULL_PKT`
    if packet_type = 1 then
      fixedMsg .KEEP_ALIVE
        ([1] ++ leBytes WCN36XX_KEEP_ALIVE_TIME_PERIOD ++ zeros 4 ++ zeros 4 ++ zeros 6 ++
          [vif.bss_index]) hal_buf
    -- `WCN36XX_HAL_KEEP_ALIVE_UNSOLICIT_ARP_RSP`
    else if packet_type = 2 then
      fixedMsg .KEEP_ALIVE ([0] ++ leBytes 0 ++ zeros 4 ++ zeros 4 ++ zeros 6 ++ [0]) hal_buf
    -- `unknow keep alive packet type`
    else some (.refused (-EINVAL))
  rsp := smdRspStatus

/-- `wcn36xx_smd_dump_cmd_req`. -/
def SmdFn.dumpCmdReq (arg1 arg2 arg3 arg4 arg5 : BitVec 32) : SmdFn :=
  statusFn .DUMP_COMMAND
    (leBytes arg1 ++ leBytes arg2 ++ leBytes arg3 ++ leBytes arg4 ++ leBytes arg5)

/-- `set_feat_caps`. -/
def setFeatCaps (bitmap : List (BitVec 32)) (cap : ℕ) : List (BitVec 32) :=
  if cap > 127 then bitmap
  else bitmap.modify (cap / 32) fun w => w ||| 1#32 <<< (cap % 32)

/-- `sizeof(struct wcn36xx_hal_feat_caps_msg)`. -/
def sizeofFeatCapsMsg : ℕ := 24

/-- `wcn36xx_smd_feature_caps_exchange`. A response of another size is not an error. -/
def SmdFn.featureCapsExchange : SmdFn where
  compose := fixedMsg .FEATURE_CAPS_EXCHANGE
    ((setFeatCaps (List.replicate 4 0) STA_POWERSAVE).flatMap leBytes)
  rsp buf len :=
    -- `Invalid hal_feature_caps_exchange response`
    if len ≠ sizeofFeatCapsMsg then { ret := 0 }
    else
      { ret := 0
        stored := .featureCaps [field buf 8 4, field buf 12 4, field buf 16 4, field buf 20 4] }

/-! ## Aggregation -/

/-- `wcn36xx_smd_add_ba_session`; `addr` is the station's address. -/
def SmdFn.addBaSession (addr : List Byte) (tid : BitVec 16) (ssn : Option (BitVec 16))
    (direction sta_index : Byte) : SmdFn :=
  statusFn .ADD_BA_SESSION
    (leBytes16 (wide16 sta_index) ++ (ethAddr addr).toList ++ [0x10, tid.setWidth 8] ++
      -- Immediate BA because Delayed BA is not supported.
      [1] ++ leBytes16 (BitVec.ofNat 16 WCN36XX_AGGR_BUFFER_SIZE) ++ leBytes16 0 ++
      leBytes16 (ssn.getD 0) ++ [direction])

/-- `wcn36xx_smd_add_ba`. -/
def SmdFn.addBa : SmdFn := statusFn .ADD_BA [0, BitVec.ofNat 8 WCN36XX_AGGR_BUFFER_SIZE]

/-- `wcn36xx_smd_del_ba`. -/
def SmdFn.delBa (tid : BitVec 16) (sta_index : Byte) : SmdFn :=
  statusFn .DEL_BA (leBytes16 (wide16 sta_index) ++ [tid.setWidth 8, 0])

/-- `sizeof(struct wcn36xx_hal_trigger_ba_rsp_msg)`. -/
def sizeofTriggerBaRsp : ℕ := 20

/-- `wcn36xx_smd_trigger_ba_rsp`. -/
def smdTriggerBaRsp (buf : List Byte) (len : ℕ) : RspResult where
  ret := if len < sizeofTriggerBaRsp then -EINVAL else statusRet (field buf 14 4)

/-- `wcn36xx_smd_trigger_ba`: a candidate of two bytes behind the message. -/
def SmdFn.triggerBa (sta_index : Byte) : SmdFn where
  compose hal_buf := do
    let header := initHalMsg HalReq.TRIGGER_BA.reqType 11
    let header := { header with len := header.len + 2 }
    let hal_buf ← prepareHalBuf header ([0] ++ leBytes16 1) hal_buf
    let hal_buf ← hal_buf.write 11 [sta_index]
    let hal_buf ← hal_buf.write 12 [1]
    return .ready hal_buf header.len.toNat
  rsp := smdTriggerBaRsp

/-! ## Configuration and multicast -/

/-- `wcn36xx_smd_update_cfg`. It does not look at what `put_cfg_tlv_u32` returns. -/
def SmdFn.updateCfg (cfg_id value : BitVec 32) : SmdFn where
  compose hal_buf := do
    let header := initHalMsg HalReq.UPDATE_CFG.reqType 12
    let hal_buf ← prepareHalBuf header (leBytes 0) hal_buf
    let (hal_buf, len, _) ← putCfgTlvU32 hal_buf header.len.toNat cfg_id value
    let hal_buf ← hal_buf.write 4 (leBytes (BitVec.ofNat 32 len))
    let hal_buf ← hal_buf.write 8 (leBytes (BitVec.ofNat 32 (len - 12)))
    return .ready hal_buf (field hal_buf.bytes 4 4)
  rsp := smdRspStatus

/-- `sizeof(struct wcn36xx_hal_rcv_flt_mc_addr_list_type)`. -/
def sizeofMcAddrList : ℕ := 1446

/-- `init_hal_msg`, in `hal_buf`. -/
def initHalMsgAt (msg_type : BitVec 16) (msg_size : ℕ) (hal_buf : HalBuf) : Option HalBuf := do
  let hal_buf ← hal_buf.write 0 (zeros (msg_size + HalMsgHeader.size))
  hal_buf.write 0 (initHalMsg msg_type (msg_size + HalMsgHeader.size)).bytes

/-- `wcn36xx_smd_set_mc_list`; `fp` is the list that is passed, if any. -/
def SmdFn.setMcList (vif : WcnVif) (fp : Option (Vector Byte sizeofMcAddrList)) : SmdFn where
  compose hal_buf := do
    let hal_buf ← initHalMsgAt HalReq.MULTICAST_LIST_8023.reqType sizeofMcAddrList hal_buf
    -- An empty list means all mc traffic will be received.
    let hal_buf ← match fp with
      | some fp => hal_buf.write HalMsgHeader.size fp.toList
      | none => hal_buf.write (HalMsgHeader.size + 1) (leBytes 0)
    let hal_buf ← hal_buf.write (HalMsgHeader.size + sizeofMcAddrList - 1) [vif.bss_index]
    return .ready hal_buf (field hal_buf.bytes 4 4)
  rsp := smdRspStatus

/-! ## A call of a request function -/

/-- The request functions with their arguments, except `wcn36xx_smd_load_nv`. -/
inductive SmdRequest where
  | start
  | stop
  | initScan (mode : BitVec 32)
  | startScan (hw : HwConf)
  | endScan (hw : HwConf)
  | finishScan (mode : BitVec 32)
  | switchChannel (vif : WcnVif) (ch : BitVec 32)
  | updateScanParams
  | addStaSelf (vif : WcnVif)
  | deleteStaSelf (addr : List Byte)
  | deleteSta (sta_index : Byte)
  | join (hw : HwConf) (bssid vif : List Byte) (ch : Byte)
  | setLinkSt (bssid sta_mac : List Byte) (state : BitVec 32)
  | configSta (old_fw : Bool) (hw : HwConf) (vif : WcnVif) (sta : StaConf)
  | configBss (old_fw : Bool) (hw : HwConf) (vif : WcnVif) (bss_conf : BssConf)
      (sta : Option StaConf) (bssid : List Byte) (update : Bool)
  | deleteBss (vif : WcnVif)
  | sendBeacon (vif : WcnVif) (skb_beacon : List Byte) (tim_off p2p_off : BitVec 16)
  | updateProberespTmpl (vif : WcnVif) (skb : List Byte)
  | setStakey (enc_type : AniEdType) (keyidx : Byte) (key : List Byte) (sta_index : Byte)
  | setBsskey (enc_type : AniEdType) (keyidx : Byte) (key : List Byte)
  | removeStakey (enc_type : AniEdType) (keyidx sta_index : Byte)
  | removeBsskey (enc_type : AniEdType) (keyidx : Byte)
  | enterBmps (vif : WcnVif) (bss_conf : BssConf)
  | exitBmps (vif : WcnVif)
  | setPowerParams (hw : HwConf) (ignore_dtim : Bool)
  | keepAliveReq (vif : WcnVif) (packet_type : ℤ)
  | dumpCmdReq (arg1 arg2 arg3 arg4 arg5 : BitVec 32)
  | featureCapsExchange
  | addBaSession (addr : List Byte) (tid : BitVec 16) (ssn : Option (BitVec 16))
      (direction sta_index : Byte)
  | addBa
  | delBa (tid : BitVec 16) (sta_index : Byte)
  | triggerBa (sta_index : Byte)
  | updateCfg (cfg_id value : BitVec 32)
  | setMcList (vif : WcnVif) (fp : Option (Vector Byte sizeofMcAddrList))

/-- The function that is called. -/
def SmdRequest.fn : SmdRequest → SmdFn
  | start => .start
  | stop => .stop
  | initScan mode => .initScan mode
  | startScan hw => .startScan hw
  | endScan hw => .endScan hw
  | finishScan mode => .finishScan mode
  | switchChannel vif ch => .switchChannel vif ch
  | updateScanParams => .updateScanParams
  | addStaSelf vif => .addStaSelf vif
  | deleteStaSelf addr => .deleteStaSelf addr
  | deleteSta sta_index => .deleteSta sta_index
  | join hw bssid vif ch => .join hw bssid vif ch
  | setLinkSt bssid sta_mac state => .setLinkSt bssid sta_mac state
  | configSta old_fw hw vif sta => .configSta old_fw hw vif sta
  | configBss old_fw hw vif bss_conf sta bssid update =>
    .configBss old_fw hw vif bss_conf sta bssid update
  | deleteBss vif => .deleteBss vif
  | sendBeacon vif skb_beacon tim_off p2p_off => .sendBeacon vif skb_beacon tim_off p2p_off
  | updateProberespTmpl vif skb => .updateProberespTmpl vif skb
  | setStakey enc_type keyidx key sta_index => .setStakey enc_type keyidx key sta_index
  | setBsskey enc_type keyidx key => .setBsskey enc_type keyidx key
  | removeStakey enc_type keyidx sta_index => .removeStakey enc_type keyidx sta_index
  | removeBsskey enc_type keyidx => .removeBsskey enc_type keyidx
  | enterBmps vif bss_conf => .enterBmps vif bss_conf
  | exitBmps vif => .exitBmps vif
  | setPowerParams hw ignore_dtim => .setPowerParams hw ignore_dtim
  | keepAliveReq vif packet_type => .keepAliveReq vif packet_type
  | dumpCmdReq arg1 arg2 arg3 arg4 arg5 => .dumpCmdReq arg1 arg2 arg3 arg4 arg5
  | featureCapsExchange => .featureCapsExchange
  | addBaSession addr tid ssn direction sta_index =>
    .addBaSession addr tid ssn direction sta_index
  | addBa => .addBa
  | delBa tid sta_index => .delBa tid sta_index
  | triggerBa sta_index => .triggerBa sta_index
  | updateCfg cfg_id value => .updateCfg cfg_id value
  | setMcList vif fp => .setMcList vif fp

/-- A call of a request function; `request_firmware` is what that function comes to when
`wcn36xx_smd_load_nv` calls it. -/
inductive SmdCall where
  | loadNv (request_firmware : ℤ ⊕ List Byte)
  | request (r : SmdRequest)

/-- What a call makes of a response. `wcn36xx_smd_load_nv` checks one for each fragment. -/
def SmdCall.rsp : SmdCall → List Byte → ℕ → RspResult
  | loadNv _ => smdRspStatus
  | request r => r.fn.rsp

/-- The number of fragments after which the position in the NV file wraps. -/
def nvMaxFragments : ℕ := 22

/-- A request function, called with what becomes of its messages. -/
def smdCall (fw : Firmware) : SmdCall → Smd → Option (Smd × RspResult)
  | .loadNv request_firmware, smd => do
    let (smd, ret) ← smdLoadNv fw request_firmware nvMaxFragments smd
    return (smd, { ret := ret })
  | .request r, smd => do
    match ← r.fn.compose smd.hal_buf with
    | .refused ret => return (smd, { ret := ret })
    | .ready hal_buf len =>
      let (smd, ret) ← smdSendAndWait fw { smd with hal_buf := hal_buf } len
      if ret ≠ 0 then return (smd, { ret := ret })
      else return (smd, r.fn.rsp smd.hal_buf.bytes smd.hal_rsp_len)

end Wcn36xx
