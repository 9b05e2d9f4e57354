import Wcn36xx.Smd.ConfigMsg
import Wcn36xx.Smd.Wire

/-!
# The configuration requests as the firmware reads them

`CONFIG_STA` and `CONFIG_BSS` carry packed structures, one within another, in a layout of 1.2.2.24 and
in the one of every other firmware. Each structure has a layout in the sense of
`Support/ByteLayout.lean`, and the bytes that the driver copies to the message are those of the layout
(`write_configBssParams` and its like). So a firmware reads from the request what the driver has
composed, field by field (`configBss_read`), except that in the format v1 `max_amsdu_size` is zero.
-/

namespace Wcn36xx

open Support (ByteLayout)
open Support.ByteLayout (byte)

/-! ## The structures -/

/-- The layout of `struct wcn36xx_hal_supported_rates`. -/
def supportedRates : ByteLayout HalSupportedRates :=
  ByteLayout.map (le32.prod <| (le16.vector 4).prod <| (le16.vector 8).prod <|
      (le16.vector 3).prod <| le16.prod <| le32.prod <| (bytes 16).prod <| le16)
    { toFun := fun
        (op_rate_mode, dsss_rates, ofdm_rates, legacy_rates, reserved, enhanced_rate_bitmap,
         supported_mcs_set, rx_highest_data_rate) =>
        { op_rate_mode, dsss_rates, ofdm_rates, legacy_rates, reserved, enhanced_rate_bitmap,
          supported_mcs_set, rx_highest_data_rate }
      invFun := fun p =>
        (p.op_rate_mode, p.dsss_rates, p.ofdm_rates, p.legacy_rates, p.reserved,
         p.enhanced_rate_bitmap, p.supported_mcs_set, p.rx_highest_data_rate)
      left_inv := fun _ => rfl
      right_inv := fun _ => rfl }

/-- The layout of `struct wcn36xx_hal_mac_ssid`. -/
def macSsid : ByteLayout HalMacSsid :=
  ByteLayout.map (byte.prod <| bytes 32)
    { toFun := fun
        (length, ssid) =>
        { length, ssid }
      invFun := fun p =>
        (p.length, p.ssid)
      left_inv := fun _ => rfl
      right_inv := fun _ => rfl }

/-- The layout of `struct wcn36xx_hal_config_sta_params`. -/
def configStaParams : ByteLayout HalConfigStaParams :=
  ByteLayout.map ((bytes 6).prod <| le16.prod <| byte.prod <| byte.prod <| (bytes 6).prod <|
      le16.prod <| byte.prod <| byte.prod <| byte.prod <| byte.prod <| byte.prod <| byte.prod <|
      byte.prod <| byte.prod <| byte.prod <| byte.prod <| supportedRates.prod <| byte.prod <|
      le32.prod <| byte.prod <| byte.prod <| byte.prod <| byte.prod <| le32.prod <| byte.prod <|
      byte.prod <| byte.prod <| byte.prod <| byte.prod <| byte)
    { toFun := fun
        (bssid, aid, type, short_preamble_supported, mac, listen_interval, wmm_enabled,
         ht_capable, tx_channel_width_set, rifs_mode, lsig_txop_protection, max_ampdu_size,
         max_ampdu_density, max_amsdu_size, sgi_40mhz, sgi_20Mhz, supported_rates, rmf,
         encrypt_type, action, uapsd, max_sp_len, green_field_capable, mimo_ps,
         delayed_ba_support, max_ampdu_duration, dsss_cck_mode_40mhz, sta_index, bssid_index,
         p2p) =>
        { bssid, aid, type, short_preamble_supported, mac, listen_interval, wmm_enabled,
          ht_capable, tx_channel_width_set, rifs_mode, lsig_txop_protection, max_ampdu_size,
          max_ampdu_density, max_amsdu_size, sgi_40mhz, sgi_20Mhz, supported_rates, rmf,
          encrypt_type, action, uapsd, max_sp_len, green_field_capable, mimo_ps,
          delayed_ba_support, max_ampdu_duration, dsss_cck_mode_40mhz, sta_index, bssid_index,
          p2p }
      invFun := fun p =>
        (p.bssid, p.aid, p.type, p.short_preamble_supported, p.mac, p.listen_interval,
         p.wmm_enabled, p.ht_capable, p.tx_channel_width_set, p.rifs_mode,
         p.lsig_txop_protection, p.max_ampdu_size, p.max_ampdu_density, p.max_amsdu_size,
         p.sgi_40mhz, p.sgi_20Mhz, p.supported_rates, p.rmf, p.encrypt_type, p.action, p.uapsd,
         p.max_sp_len, p.green_field_capable, p.mimo_ps, p.delayed_ba_support,
         p.max_ampdu_duration, p.dsss_cck_mode_40mhz, p.sta_index, p.bssid_index, p.p2p)
      left_inv := fun _ => rfl
      right_inv := fun _ => rfl }

/-- The layout of `struct wcn36xx_hal_config_sta_params_v1`. -/
def configStaParamsV1 : ByteLayout HalConfigStaParamsV1 :=
  ByteLayout.map ((bytes 6).prod <| le16.prod <| byte.prod <| byte.prod <| (bytes 6).prod <|
      le16.prod <| byte.prod <| byte.prod <| byte.prod <| byte.prod <| byte.prod <| byte.prod <|
      byte.prod <| byte.prod <| byte.prod <| byte.prod <| byte.prod <| le32.prod <| byte.prod <|
      byte.prod <| byte.prod <| byte.prod <| le32.prod <| byte.prod <| byte.prod <| byte.prod <|
      byte.prod <| byte.prod <| byte.prod <| byte.prod <| supportedRates)
    { toFun := fun
        (bssid, aid, type, short_preamble_supported, mac, listen_interval, wmm_enabled,
         ht_capable, tx_channel_width_set, rifs_mode, lsig_txop_protection, max_ampdu_size,
         max_ampdu_density, max_amsdu_size, sgi_40mhz, sgi_20Mhz, rmf, encrypt_type, action,
         uapsd, max_sp_len, green_field_capable, mimo_ps, delayed_ba_support, max_ampdu_duration,
         dsss_cck_mode_40mhz, sta_index, bssid_index, p2p, reserved, supported_rates) =>
        { bssid, aid, type, short_preamble_supported, mac, listen_interval, wmm_enabled,
          ht_capable, tx_channel_width_set, rifs_mode, lsig_txop_protection, max_ampdu_size,
          max_ampdu_density, max_amsdu_size, sgi_40mhz, sgi_20Mhz, rmf, encrypt_type, action,
          uapsd, max_sp_len, green_field_capable, mimo_ps, delayed_ba_support,
          max_ampdu_duration, dsss_cck_mode_40mhz, sta_index, bssid_index, p2p, reserved,
          supported_rates }
      invFun := fun p =>
        (p.bssid, p.aid, p.type, p.short_preamble_supported, p.mac, p.listen_interval,
         p.wmm_enabled, p.ht_capable, p.tx_channel_width_set, p.rifs_mode,
         p.lsig_txop_protection, p.max_ampdu_size, p.max_ampdu_density, p.max_amsdu_size,
         p.sgi_40mhz, p.sgi_20Mhz, p.rmf, p.encrypt_type, p.action, p.uapsd, p.max_sp_len,
         p.green_field_capable, p.mimo_ps, p.delayed_ba_support, p.max_ampdu_duration,
         p.dsss_cck_mode_40mhz, p.sta_index, p.bssid_index, p.p2p, p.reserved, p.supported_rates)
      left_inv := fun _ => rfl
      right_inv := fun _ => rfl }

/-- The layout of `struct wcn36xx_hal_config_bss_params`. -/
def configBssParams : ByteLayout HalConfigBssParams :=
  ByteLayout.map ((bytes 6).prod <| (bytes 6).prod <| le32.prod <| byte.prod <| le32.prod <|
      byte.prod <| byte.prod <| byte.prod <| byte.prod <| byte.prod <| byte.prod <| byte.prod <|
      byte.prod <| le16.prod <| byte.prod <| byte.prod <| byte.prod <| byte.prod <| byte.prod <|
      configStaParams.prod <| macSsid.prod <| byte.prod <| (bytes 13).prod <| byte.prod <|
      byte.prod <| byte.prod <| le32.prod <| byte.prod <| byte.prod <| byte.prod <| byte.prod <|
      byte.prod <| (bytes 4).prod <| (bytes 4).prod <| (bytes 4).prod <| (bytes 4).prod <|
      byte.prod <| (bytes 240).prod <| byte.prod <| byte.prod <| byte.prod <| byte)
    { toFun := fun
        (bssid, self_mac_addr, bss_type, oper_mode, nw_type, short_slot_time_supported,
         lla_coexist, llb_coexist, llg_coexist, ht20_coexist, lln_non_gf_coexist,
         lsig_tx_op_protection_full_support, rifs_mode, beacon_interval, dtim_period,
         tx_channel_width_set, oper_channel, ext_channel, reserved, sta, ssid, action, rateset,
         ht, obss_prot_enabled, rmf, ht_oper_mode, dual_cts_protection,
         max_probe_resp_retry_limit, hidden_ssid, proxy_probe_resp, edca_params_valid, acbe,
         acbk, acvi, acvo, ext_set_sta_key_param_valid, ext_set_sta_key_param,
         wcn36xx_hal_persona, spectrum_mgt_enable, tx_mgmt_power, max_tx_power) =>
        { bssid, self_mac_addr, bss_type, oper_mode, nw_type, short_slot_time_supported,
          lla_coexist, llb_coexist, llg_coexist, ht20_coexist, lln_non_gf_coexist,
          lsig_tx_op_protection_full_support, rifs_mode, beacon_interval, dtim_period,
          tx_channel_width_set, oper_channel, ext_channel, reserved, sta, ssid, action, rateset,
          ht, obss_prot_enabled, rmf, ht_oper_mode, dual_cts_protection,
          max_probe_resp_retry_limit, hidden_ssid, proxy_probe_resp, edca_params_valid, acbe,
          acbk, acvi, acvo, ext_set_sta_key_param_valid, ext_set_sta_key_param,
          wcn36xx_hal_persona, spectrum_mgt_enable, tx_mgmt_power, max_tx_power }
      invFun := fun p =>
        (p.bssid, p.self_mac_addr, p.bss_type, p.oper_mode, p.nw_type,
         p.short_slot_time_supported, p.lla_coexist, p.llb_coexist, p.llg_coexist,
         p.ht20_coexist, p.lln_non_gf_coexist, p.lsig_tx_op_protection_full_support, p.rifs_mode,
         p.beacon_interval, p.dtim_period, p.tx_channel_width_set, p.oper_channel, p.ext_channel,
         p.reserved, p.sta, p.ssid, p.action, p.rateset, p.ht, p.obss_prot_enabled, p.rmf,
         p.ht_oper_mode, p.dual_cts_protection, p.max_probe_resp_retry_limit, p.hidden_ssid,
         p.proxy_probe_resp, p.edca_params_valid, p.acbe, p.acbk, p.acvi, p.acvo,
         p.ext_set_sta_key_param_valid, p.ext_set_sta_key_param, p.wcn36xx_hal_persona,
         p.spectrum_mgt_enable, p.tx_mgmt_power, p.max_tx_power)
      left_inv := fun _ => rfl
      right_inv := fun _ => rfl }

/-- The layout of `struct wcn36xx_hal_config_bss_params_v1`. -/
def configBssParamsV1 : ByteLayout HalConfigBssParamsV1 :=
  ByteLayout.map ((bytes 6).prod <| (bytes 6).prod <| le32.prod <| byte.prod <| le32.prod <|
      byte.prod <| byte.prod <| byte.prod <| byte.prod <| byte.prod <| byte.prod <| byte.prod <|
      byte.prod <| le16.prod <| byte.prod <| byte.prod <| byte.prod <| byte.prod <| byte.prod <|
      macSsid.prod <| byte.prod <| (bytes 13).prod <| byte.prod <| byte.prod <| byte.prod <|
      le32.prod <| byte.prod <| byte.prod <| byte.prod <| byte.prod <| byte.prod <|
      (bytes 4).prod <| (bytes 4).prod <| (bytes 4).prod <| (bytes 4).prod <| byte.prod <|
      (bytes 240).prod <| byte.prod <| byte.prod <| byte.prod <| byte.prod <| configStaParamsV1)
    { toFun := fun
        (bssid, self_mac_addr, bss_type, oper_mode, nw_type, short_slot_time_supported,
         lla_coexist, llb_coexist, llg_coexist, ht20_coexist, lln_non_gf_coexist,
         lsig_tx_op_protection_full_support, rifs_mode, beacon_interval, dtim_period,
         tx_channel_width_set, oper_channel, ext_channel, reserved, ssid, action, rateset, ht,
         obss_prot_enabled, rmf, ht_oper_mode, dual_cts_protection, max_probe_resp_retry_limit,
         hidden_ssid, proxy_probe_resp, edca_params_valid, acbe, acbk, acvi, acvo,
         ext_set_sta_key_param_valid, ext_set_sta_key_param, wcn36xx_hal_persona,
         spectrum_mgt_enable, tx_mgmt_power, max_tx_power, sta) =>
        { bssid, self_mac_addr, bss_type, oper_mode, nw_type, short_slot_time_supported,
          lla_coexist, llb_coexist, llg_coexist, ht20_coexist, lln_non_gf_coexist,
          lsig_tx_op_protection_full_support, rifs_mode, beacon_interval, dtim_period,
          tx_channel_width_set, oper_channel, ext_channel, reserved, ssid, action, rateset, ht,
          obss_prot_enabled, rmf, ht_oper_mode, dual_cts_protection, max_probe_resp_retry_limit,
          hidden_ssid, proxy_probe_resp, edca_params_valid, acbe, acbk, acvi, acvo,
          ext_set_sta_key_param_valid, ext_set_sta_key_param, wcn36xx_hal_persona,
          spectrum_mgt_enable, tx_mgmt_power, max_tx_power, sta }
      invFun := fun p =>
        (p.bssid, p.self_mac_addr, p.bss_type, p.oper_mode, p.nw_type,
         p.short_slot_time_supported, p.lla_coexist, p.llb_coexist, p.llg_coexist,
         p.ht20_coexist, p.lln_non_gf_coexist, p.lsig_tx_op_protection_full_support, p.rifs_mode,
         p.beacon_interval, p.dtim_period, p.tx_channel_width_set, p.oper_channel, p.ext_channel,
         p.reserved, p.ssid, p.action, p.rateset, p.ht, p.obss_prot_enabled, p.rmf,
         p.ht_oper_mode, p.dual_cts_protection, p.max_probe_resp_retry_limit, p.hidden_ssid,
         p.proxy_probe_resp, p.edca_params_valid, p.acbe, p.acbk, p.acvi, p.acvo,
         p.ext_set_sta_key_param_valid, p.ext_set_sta_key_param, p.wcn36xx_hal_persona,
         p.spectrum_mgt_enable, p.tx_mgmt_power, p.max_tx_power, p.sta)
      left_inv := fun _ => rfl
      right_inv := fun _ => rfl }

/-! ## The bytes of the structures -/

/-- The bytes of the rates. -/
@[simp]
theorem write_supportedRates (rates : HalSupportedRates) : supportedRates.write rates = rates.bytes := by
  unfold supportedRates
  rw [ByteLayout.write_map]
  simp only [ByteLayout.write_prod]
  simp only [ByteLayout.write_vector, write_le16, write_le32, write_bytes]
  unfold HalSupportedRates.bytes
  simp only [List.append_assoc]

/-- The bytes of an SSID. -/
@[simp]
theorem write_macSsid (ssid : HalMacSsid) : macSsid.write ssid = ssid.bytes := by
  unfold macSsid
  rw [ByteLayout.write_map]
  simp only [ByteLayout.write_prod]
  simp only [ByteLayout.write_byte, write_bytes]
  unfold HalMacSsid.bytes
  rw [List.singleton_append]

/-- The bytes of a station's parameters. -/
@[simp]
theorem write_configStaParams (p : HalConfigStaParams) : configStaParams.write p = p.bytes := by
  unfold configStaParams
  rw [ByteLayout.write_map]
  simp only [ByteLayout.write_prod]
  simp only [ByteLayout.write_byte, write_le16, write_le32, write_bytes, write_supportedRates]
  unfold HalConfigStaParams.bytes
  simp only [List.append_assoc, List.cons_append, List.nil_append]

/-- The bytes of a station's parameters in the format v1. -/
@[simp]
theorem write_configStaParamsV1 (p : HalConfigStaParamsV1) : configStaParamsV1.write p = p.bytes := by
  unfold configStaParamsV1
  rw [ByteLayout.write_map]
  simp only [ByteLayout.write_prod]
  simp only [ByteLayout.write_byte, write_le16, write_le32, write_bytes, write_supportedRates]
  unfold HalConfigStaParamsV1.bytes
  simp only [List.append_assoc, List.cons_append, List.nil_append]

/-- The bytes of a BSS's parameters. -/
@[simp]
theorem write_configBssParams (p : HalConfigBssParams) : configBssParams.write p = p.bytes := by
  unfold configBssParams
  rw [ByteLayout.write_map]
  simp only [ByteLayout.write_prod]
  simp only [ByteLayout.write_byte, write_le16, write_le32, write_bytes, write_macSsid,
    write_configStaParams]
  unfold HalConfigBssParams.bytes
  simp only [List.append_assoc, List.cons_append, List.nil_append]

/-- The bytes of a BSS's parameters in the format v1. -/
@[simp]
theorem write_configBssParamsV1 (p : HalConfigBssParamsV1) : configBssParamsV1.write p = p.bytes := by
  unfold configBssParamsV1
  rw [ByteLayout.write_map]
  simp only [ByteLayout.write_prod]
  simp only [ByteLayout.write_byte, write_le16, write_le32, write_bytes, write_macSsid,
    write_configStaParamsV1]
  unfold HalConfigBssParamsV1.bytes
  simp only [List.append_assoc, List.cons_append, List.nil_append]

/-! ## What is read -/

/-- What a firmware reads from `CONFIG_STA`: 1.2.2.24 has the one structure, every other the structure v1. -/
def fwConfigSta (old_fw : Bool) (msg : List Byte) : Option HalConfigStaParams :=
  if old_fw then configStaParams.read (msg.drop HalMsgHeader.size)
  else (configStaParamsV1.read (msg.drop HalMsgHeader.size)).map HalConfigStaParamsV1.toParams

/-- What a firmware reads from `CONFIG_BSS`. -/
def fwConfigBss (old_fw : Bool) (msg : List Byte) : Option HalConfigBssParams :=
  if old_fw then configBssParams.read (msg.drop HalMsgHeader.size)
  else (configBssParamsV1.read (msg.drop HalMsgHeader.size)).map HalConfigBssParamsV1.toParams

/-- The format of the firmware: v1 has no `max_amsdu_size` of a station. -/
def HalConfigStaParams.carried (old_fw : Bool) (p : HalConfigStaParams) : HalConfigStaParams :=
  if old_fw then p else { p with max_amsdu_size := 0 }

/-- A firmware reads from `CONFIG_STA` what the driver has composed. -/
theorem configSta_read {old_fw : Bool} {hw : HwConf} {vif : WcnVif} {sta : StaConf} {fw : Firmware}
    {smd smd' : Smd} {result : RspResult}
    (h : smdCall fw (.request (.configSta old_fw hw vif sta)) smd = some (smd', result)) :
    ∃ msg, smd'.sent = smd.sent ++ [msg] ∧ msgType msg = HalReq.CONFIG_STA.reqType ∧
      fwConfigSta old_fw msg = some ((smdSetStaParams hw vif (some sta)).carried old_fw) := by
  cases old_fw with
  | true =>
    refine read_of_fixedMsg configStaParams .CONFIG_STA ?_ (by decide) h
    rw [write_configStaParams]
    rfl
  | false =>
    obtain ⟨msg, hsent, htype, hread⟩ := read_of_fixedMsg configStaParamsV1 .CONFIG_STA
      (a := smdConvertStaToV1 (smdSetStaParams hw vif (some sta)))
      (by rw [write_configStaParamsV1]; rfl) (by decide) h
    refine ⟨msg, hsent, htype, ?_⟩
    rw [fwConfigSta, if_neg Bool.false_ne_true, hread, Option.map_some, toParams_convertStaToV1]
    rfl

/-- A firmware reads from `CONFIG_BSS` what the driver has composed for the BSS and the station in it, except
that a firmware other than 1.2.2.24 sees no `max_amsdu_size`. -/
theorem configBss_read {old_fw : Bool} {hw : HwConf} {vif : WcnVif} {bss_conf : BssConf}
    {sta : Option StaConf} {bssid : List Byte} {update : Bool} {fw : Firmware} {smd smd' : Smd}
    {result : RspResult}
    (h : smdCall fw (.request (.configBss old_fw hw vif bss_conf sta bssid update)) smd =
      some (smd', result)) :
    ∃ bss msg, smdConfigBssParams hw vif bss_conf sta bssid update = some bss ∧
      smd'.sent = smd.sent ++ [msg] ∧ msgType msg = HalReq.CONFIG_BSS.reqType ∧
      fwConfigBss old_fw msg =
        some { bss with sta := (smdSetStaParams hw vif sta).carried old_fw } := by
  obtain ⟨bss, hbss⟩ : ∃ bss, smdConfigBssParams hw vif bss_conf sta bssid update = some bss := by
    obtain ⟨composed, hcompose, -⟩ := Option.bind_eq_some_iff.mp h
    obtain ⟨bss, hbss, -⟩ := Option.bind_eq_some_iff.mp hcompose
    exact ⟨bss, hbss⟩
  obtain ⟨hsta, hext⟩ := configBssParams_sta hbss
  -- The message is the structure of the firmware's version, byte by byte.
  have hcompose : (SmdRequest.configBss old_fw hw vif bss_conf sta bssid update).fn.compose =
      fixedMsg .CONFIG_BSS (if old_fw then bss.bytes else (smdConfigBssV1 bss).bytes) := by
    funext hal_buf
    change (smdConfigBssParams hw vif bss_conf sta bssid update).bind _ = _
    rw [hbss]
    rfl
  cases old_fw with
  | true =>
    rw [if_pos rfl, ← write_configBssParams] at hcompose
    obtain ⟨msg, hsent, htype, hread⟩ := read_of_fixedMsg configBssParams .CONFIG_BSS hcompose (by decide) h
    refine ⟨bss, msg, hbss, hsent, htype, ?_⟩
    rw [fwConfigBss, if_pos rfl, hread, ← hsta]
    rfl
  | false =>
    rw [if_neg Bool.false_ne_true, ← write_configBssParamsV1] at hcompose
    obtain ⟨msg, hsent, htype, hread⟩ := read_of_fixedMsg configBssParamsV1 .CONFIG_BSS hcompose (by decide) h
    refine ⟨bss, msg, hbss, hsent, htype, ?_⟩
    rw [fwConfigBss, if_neg Bool.false_ne_true, hread, Option.map_some, toParams_configBssV1 bss hext,
      toParams_convertStaToV1, hsta]
    rfl

/-- A station that takes short A-MSDUs only, in an access point's BSS, and a firmware of the format v1. -/
theorem configBss_read_max_amsdu : ∃ smd' result,
    smdCall ackFirmware (.request (.configBss false {} apVif {}
      (some (htSta IEEE80211_HT_CAP_MAX_AMSDU)) apVif.addr false)) zeroSmd = some (smd', result) ∧
    ∃ bss msg, smdConfigBssParams {} apVif {} (some (htSta IEEE80211_HT_CAP_MAX_AMSDU)) apVif.addr
        false = some bss ∧
      smd'.sent = zeroSmd.sent ++ [msg] ∧ msgType msg = HalReq.CONFIG_BSS.reqType ∧
      fwConfigBss false msg = some { bss with
        sta := (smdSetStaParams {} apVif (some (htSta IEEE80211_HT_CAP_MAX_AMSDU))).carried
          false } := by
  have hbounds : SmdRequest.InBounds (.configBss false {} apVif {}
    (some (htSta IEEE80211_HT_CAP_MAX_AMSDU)) apVif.addr false) := Nat.zero_le 32
  obtain ⟨⟨smd', result⟩, hcall⟩ :=
    Option.isSome_iff_exists.mp (smdCall_isSome fitsHalBuf_ackFirmware hbounds zeroSmd)
  exact ⟨smd', result, hcall, configBss_read hcall⟩

end Wcn36xx
