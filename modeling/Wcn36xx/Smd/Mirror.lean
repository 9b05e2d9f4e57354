import Wcn36xx.Smd.Response

/-!
# The mirror of the firmware's state

Four responses carry numbers that the driver keeps: the versions of the firmware, and the indices and
signatures of an interface and of a station, which go into the BDs of later frames and into later
requests. `mirror_exact` says that a response is mirrored when it is long enough and has the status of
success, that exactly its own fields are then written, with the bytes at their offsets in the packed
structures of `hal.h`, and that nothing is written otherwise: neither by a decoder that refuses the
response, nor by a request function that fails before it has one.

The decoders are those of `Smd/Request.lean`, which return what they read. `Mirror.store` puts that into
the driver's structures.
-/

namespace Wcn36xx

/-! ## The structures of the responses -/

/-- `struct wcnss_wlan_version`. -/
structure WlanVersion where
  revision : Byte
  version : Byte
  minor : Byte
  major : Byte

/-- `struct wcn36xx_hal_mac_start_rsp_msg`. -/
structure HalMacStartRspMsg where
  header : HalMsgHeader
  status : BitVec 16
  stations : Byte
  bssids : Byte
  version : WlanVersion
  crm_version : Vector Byte WCN36XX_HAL_VERSION_LENGTH
  wlan_version : Vector Byte WCN36XX_HAL_VERSION_LENGTH

/-- `struct wcn36xx_hal_add_sta_self_rsp_msg`. -/
structure HalAddStaSelfRspMsg where
  header : HalMsgHeader
  status : BitVec 32
  self_sta_index : Byte
  dpu_index : Byte
  dpu_signature : Byte

/-- `struct wcn36xx_hal_config_sta_rsp_msg`. -/
structure HalConfigStaRspMsg where
  header : HalMsgHeader
  status : BitVec 32
  sta_index : Byte
  bssid_index : Byte
  dpu_index : Byte
  bcast_dpu_index : Byte
  bcast_mgmt_dpu_idx : Byte
  uc_ucast_sig : Byte
  uc_bcast_sig : Byte
  uc_mgmt_sig : Byte
  p2p : Byte

/-- `struct wcn36xx_hal_config_bss_rsp_msg`. -/
structure HalConfigBssRspMsg where
  header : HalMsgHeader
  status : BitVec 32
  bss_index : Byte
  dpu_desc_index : Byte
  ucast_dpu_signature : Byte
  bcast_dpu_desc_indx : Byte
  bcast_dpu_signature : Byte
  mgmt_dpu_desc_index : Byte
  mgmt_dpu_signature : Byte
  bss_sta_index : Byte
  bss_self_sta_index : Byte
  bss_bcast_sta_idx : Byte
  mac : Vector Byte 6
  tx_mgmt_power : Byte

/-- The packed bytes of the response to a start. -/
def HalMacStartRspMsg.bytes (rsp : HalMacStartRspMsg) : List Byte :=
  rsp.header.bytes ++ leBytes16 rsp.status ++ [rsp.stations, rsp.bssids] ++
    [rsp.version.revision, rsp.version.version, rsp.version.minor, rsp.version.major] ++
    (rsp.crm_version.toList ++ rsp.wlan_version.toList)

/-- The packed bytes of the response about an interface. -/
def HalAddStaSelfRspMsg.bytes (rsp : HalAddStaSelfRspMsg) : List Byte :=
  rsp.header.bytes ++ leBytes rsp.status ++ [rsp.self_sta_index, rsp.dpu_index, rsp.dpu_signature]

/-- The packed bytes of the response about a station. -/
def HalConfigStaRspMsg.bytes (rsp : HalConfigStaRspMsg) : List Byte :=
  rsp.header.bytes ++ leBytes rsp.status ++
    [rsp.sta_index, rsp.bssid_index, rsp.dpu_index, rsp.bcast_dpu_index, rsp.bcast_mgmt_dpu_idx,
      rsp.uc_ucast_sig, rsp.uc_bcast_sig, rsp.uc_mgmt_sig, rsp.p2p]

/-- The packed bytes of the response about a BSS. -/
def HalConfigBssRspMsg.bytes (rsp : HalConfigBssRspMsg) : List Byte :=
  rsp.header.bytes ++ leBytes rsp.status ++
    [rsp.bss_index, rsp.dpu_desc_index, rsp.ucast_dpu_signature, rsp.bcast_dpu_desc_indx,
      rsp.bcast_dpu_signature, rsp.mgmt_dpu_desc_index, rsp.mgmt_dpu_signature, rsp.bss_sta_index,
      rsp.bss_self_sta_index, rsp.bss_bcast_sta_idx] ++
    (rsp.mac.toList ++ [rsp.tx_mgmt_power])

/-! ## The mirror -/

/-- What the responses are mirrored in: the fields of `struct wcn36xx` for them and the rest of it as far
as transmission needs it, an interface and a station. -/
structure Mirror where
  fw_revision : Byte := 0
  fw_version : Byte := 0
  fw_minor : Byte := 0
  fw_major : Byte := 0
  fw_feat_caps : List ℕ := []
  crm_version : List Byte := zeros (WCN36XX_HAL_VERSION_LENGTH + 1)
  wlan_version : List Byte := zeros (WCN36XX_HAL_VERSION_LENGTH + 1)
  wcn : Wcn
  vif : WcnVif
  sta : WcnSta

/-- Write what a request function has read from its response. The versions are strings that are
terminated just in case. -/
def Mirror.store (st : Mirror) : RspStored → Mirror
  | .none => st
  | .start crm_version wlan_version fw_revision fw_version fw_minor fw_major =>
    { st with
      crm_version := crm_version ++ [0]
      wlan_version := wlan_version ++ [0]
      fw_revision := fw_revision.getD st.fw_revision
      fw_version := fw_version.getD st.fw_version
      fw_minor := fw_minor.getD st.fw_minor
      fw_major := fw_major.getD st.fw_major }
  | .addStaSelf self_sta_index self_dpu_desc_index =>
    { st with
      vif.self_sta_index := self_sta_index.getD st.vif.self_sta_index
      vif.self_dpu_desc_index := self_dpu_desc_index.getD st.vif.self_dpu_desc_index }
  | .configSta sta_index dpu_desc_index ucast_dpu_sign =>
    { st with
      sta.sta_index := sta_index.getD st.sta.sta_index
      sta.dpu_desc_index := dpu_desc_index.getD st.sta.dpu_desc_index
      sta.ucast_dpu_sign := ucast_dpu_sign.getD st.sta.ucast_dpu_sign }
  | .configBss bss_index bss_sta_index bss_dpu_desc_index self_ucast_dpu_sign =>
    { st with
      vif.bss_index := bss_index.getD st.vif.bss_index
      sta.bss_sta_index := bss_sta_index.getD st.sta.bss_sta_index
      sta.bss_dpu_desc_index := bss_dpu_desc_index.getD st.sta.bss_dpu_desc_index
      vif.self_ucast_dpu_sign := self_ucast_dpu_sign.getD st.vif.self_ucast_dpu_sign }
  | .featureCaps fw_feat_caps => { st with fw_feat_caps := fw_feat_caps }

/-- The decoders that mirror a response; `sta` says whether `wcn36xx_smd_config_bss_rsp` gets a station. -/
inductive MirrorFn where
  | startRsp
  | addStaSelfRsp
  | configStaRsp
  | configBssRsp (sta : Bool)

namespace MirrorFn

/-- The decoder. -/
def rsp : MirrorFn → List Byte → ℕ → RspResult
  | startRsp => smdStartRsp
  | addStaSelfRsp => smdAddStaSelfRsp
  | configStaRsp => smdConfigStaRsp
  | configBssRsp sta => smdConfigBssRsp sta

/-- The decoder with what it writes: the driver's structures afterwards, and the return value. -/
def decode (fn : MirrorFn) (hal_buf : HalBuf) (len : ℕ) (st : Mirror) : Mirror × ℤ :=
  (st.store (fn.rsp hal_buf.bytes len).stored, (fn.rsp hal_buf.bytes len).ret)

end MirrorFn

/-- A response of the structure that a decoder casts its buffer to. -/
inductive MirrorRsp : MirrorFn → Type where
  | start (rsp : HalMacStartRspMsg) : MirrorRsp .startRsp
  | addStaSelf (rsp : HalAddStaSelfRspMsg) : MirrorRsp .addStaSelfRsp
  | configSta (rsp : HalConfigStaRspMsg) : MirrorRsp .configStaRsp
  | configBss (sta : Bool) (rsp : HalConfigBssRspMsg) : MirrorRsp (.configBssRsp sta)

namespace MirrorRsp

variable {fn : MirrorFn}

/-- The packed bytes of the structure. -/
def bytes : MirrorRsp fn → List Byte
  | start rsp => rsp.bytes
  | addStaSelf rsp => rsp.bytes
  | configSta rsp => rsp.bytes
  | configBss _ rsp => rsp.bytes

/-- The status in it. -/
def status : MirrorRsp fn → ℕ
  | start rsp => rsp.status.toNat
  | addStaSelf rsp => rsp.status.toNat
  | configSta rsp => rsp.status.toNat
  | configBss _ rsp => rsp.status.toNat

/-- The driver's structures with the fields of the response in them, and nothing else changed. -/
def mirrored (st : Mirror) : MirrorRsp fn → Mirror
  | start rsp =>
    { st with
      fw_revision := rsp.version.revision
      fw_version := rsp.version.version
      fw_minor := rsp.version.minor
      fw_major := rsp.version.major
      crm_version := rsp.crm_version.toList ++ [0]
      wlan_version := rsp.wlan_version.toList ++ [0] }
  | addStaSelf rsp =>
    { st with
      vif.self_sta_index := rsp.self_sta_index
      vif.self_dpu_desc_index := rsp.dpu_index }
  | configSta rsp =>
    { st with
      sta.sta_index := rsp.sta_index
      sta.dpu_desc_index := rsp.dpu_index
      sta.ucast_dpu_sign := rsp.uc_ucast_sig }
  | configBss true rsp =>
    { st with
      vif.bss_index := rsp.bss_index
      vif.self_ucast_dpu_sign := rsp.ucast_dpu_signature
      sta.bss_sta_index := rsp.bss_sta_index
      sta.bss_dpu_desc_index := rsp.dpu_desc_index }
  | configBss false rsp =>
    { st with
      vif.bss_index := rsp.bss_index
      vif.self_ucast_dpu_sign := rsp.ucast_dpu_signature }

end MirrorRsp

/-- A decoder mirrors a response of `len` bytes exactly when it should, and then exactly. -/
structure MirrorsExactly (fn : MirrorFn) (rsp : MirrorRsp fn) (hal_buf : HalBuf) (len : ℕ)
    (st : Mirror) : Prop where
  /-- The response is what the buffer starts with. -/
  cast : rsp.bytes = hal_buf.bytes.take rsp.bytes.length
  zero : (fn.decode hal_buf len st).2 = 0 ↔
    rsp.bytes.length ≤ len ∧ rsp.status = WCN36XX_FW_MSG_RESULT_SUCCESS
  stored : (fn.decode hal_buf len st).2 = 0 → (fn.decode hal_buf len st).1 = rsp.mirrored st
  kept : (fn.decode hal_buf len st).2 ≠ 0 → (fn.decode hal_buf len st).1 = st

/-- A call of a request function that fails leaves the driver's structures as they were. -/
def FailureKeeps (st : Mirror) : Prop :=
  ∀ (fw : Firmware) (c : SmdCall) (smd smd' : Smd) (result : RspResult),
    smdCall fw c smd = some (smd', result) → result.ret ≠ 0 → st.store result.stored = st

/-! ## Every buffer starts with a response -/

/-- Two bytes are a 16-bit field. -/
theorem exists_leBytes16 (a b : Byte) : ∃ w, leBytes16 w = [a, b] := by
  refine ⟨b ++ a, ?_⟩
  have hlow : (b ++ a).extractLsb' 0 8 = a := BitVec.extractLsb'_append_eq_right
  have hhigh : (b ++ a).extractLsb' 8 8 = b := BitVec.extractLsb'_append_eq_left
  unfold leBytes16
  rw [hlow, hhigh]

/-- Four bytes are a 32-bit field. -/
theorem exists_leBytes (a b c d : Byte) : ∃ w, leBytes w = [a, b, c, d] := by
  obtain ⟨low, hlow⟩ := exists_leBytes16 a b
  obtain ⟨high, hhigh⟩ := exists_leBytes16 c d
  have h0 : (high ++ low).extractLsb' 0 8 = low.extractLsb' 0 8 :=
    BitVec.extractLsb'_append_eq_of_add_le (by decide)
  have h8 : (high ++ low).extractLsb' 8 8 = low.extractLsb' 8 8 :=
    BitVec.extractLsb'_append_eq_of_add_le (by decide)
  have h16 : (high ++ low).extractLsb' 16 8 = high.extractLsb' 0 8 :=
    BitVec.extractLsb'_append_eq_of_le (by decide)
  have h24 : (high ++ low).extractLsb' 24 8 = high.extractLsb' 8 8 :=
    BitVec.extractLsb'_append_eq_of_le (by decide)
  refine ⟨high ++ low, ?_⟩
  calc leBytes (high ++ low) = leBytes16 low ++ leBytes16 high := by
        unfold leBytes
        rw [h0, h8, h16, h24]
        rfl
    _ = [a, b, c, d] := by rw [hlow, hhigh]; rfl

/-- A list that is long enough has a first byte. -/
theorem exists_byte {l : List Byte} {n : ℕ} (h : n + 1 ≤ l.length) :
    ∃ b rest, l = b :: rest ∧ n ≤ rest.length := by
  match l, h with
  | b :: rest, h => exact ⟨b, rest, rfl, by rw [List.length_cons] at h; omega⟩

/-- Three bytes at once. -/
theorem exists_bytes₃ {l : List Byte} {n : ℕ} (h : n + 3 ≤ l.length) :
    ∃ a b c rest, l = a :: b :: c :: rest ∧ n ≤ rest.length := by
  obtain ⟨a, l, rfl, h₁⟩ := exists_byte (n := n + 2) h
  obtain ⟨b, l, rfl, h₂⟩ := exists_byte (n := n + 1) h₁
  obtain ⟨c, l, rfl, h₃⟩ := exists_byte h₂
  exact ⟨a, b, c, l, rfl, h₃⟩

/-- An array of bytes. -/
theorem exists_vector {l : List Byte} {n : ℕ} (m : ℕ) (h : n + m ≤ l.length) :
    ∃ (v : Vector Byte m) (rest : List Byte), l = v.toList ++ rest ∧ n ≤ rest.length := by
  have hlen : (l.take m).toArray.size = m := by
    rw [List.size_toArray, List.length_take, min_eq_left (by omega)]
  refine ⟨⟨(l.take m).toArray, hlen⟩, l.drop m, (List.take_append_drop m l).symm, ?_⟩
  rw [List.length_drop]
  omega

/-- A 16-bit field. -/
theorem exists_field16 {l : List Byte} {n : ℕ} (h : n + 2 ≤ l.length) :
    ∃ w rest, l = leBytes16 w ++ rest ∧ n ≤ rest.length := by
  obtain ⟨a, l, rfl, h₁⟩ := exists_byte (n := n + 1) h
  obtain ⟨b, l, rfl, h₂⟩ := exists_byte h₁
  obtain ⟨w, hw⟩ := exists_leBytes16 a b
  exact ⟨w, l, by rw [hw]; rfl, h₂⟩

/-- A 32-bit field. -/
theorem exists_field32 {l : List Byte} {n : ℕ} (h : n + 4 ≤ l.length) :
    ∃ w rest, l = leBytes w ++ rest ∧ n ≤ rest.length := by
  obtain ⟨a, b, c, l, rfl, h₁⟩ := exists_bytes₃ (n := n + 1) h
  obtain ⟨d, l, rfl, h₂⟩ := exists_byte h₁
  obtain ⟨w, hw⟩ := exists_leBytes a b c d
  exact ⟨w, l, by rw [hw]; rfl, h₂⟩

/-- A header. -/
theorem exists_header {l : List Byte} {n : ℕ} (h : n + HalMsgHeader.size ≤ l.length) :
    ∃ (header : HalMsgHeader) (rest : List Byte), l = header.bytes ++ rest ∧ n ≤ rest.length := by
  obtain ⟨msg_type, l, rfl, h₁⟩ := exists_field16 (n := n + 6) h
  obtain ⟨msg_version, l, rfl, h₂⟩ := exists_field16 (n := n + 4) h₁
  obtain ⟨len, l, rfl, h₃⟩ := exists_field32 h₂
  exact ⟨⟨msg_type, msg_version, len⟩, l, by simp [HalMsgHeader.bytes], h₃⟩

/-- A buffer that is long enough starts with a response of each of the structures. -/
theorem MirrorRsp.exists_rsp (fn : MirrorFn) {l : List Byte} (h : sizeofStartRsp ≤ l.length) :
    ∃ (rsp : MirrorRsp fn) (rest : List Byte), l = rsp.bytes ++ rest := by
  obtain ⟨header, l, rfl, h₁⟩ := exists_header (n := 136) h
  cases fn with
  | startRsp =>
    obtain ⟨status, l, rfl, h₂⟩ := exists_field16 (n := 134) h₁
    obtain ⟨stations, bssids, revision, l, rfl, h₃⟩ := exists_bytes₃ (n := 131) h₂
    obtain ⟨version, minor, major, l, rfl, h₄⟩ := exists_bytes₃ (n := 128) h₃
    obtain ⟨crm_version, l, rfl, h₅⟩ :=
      exists_vector (n := 64) WCN36XX_HAL_VERSION_LENGTH h₄
    obtain ⟨wlan_version, l, rfl, -⟩ :=
      exists_vector (n := 0) WCN36XX_HAL_VERSION_LENGTH h₅
    refine ⟨.start ⟨header, status, stations, bssids, ⟨revision, version, minor, major⟩,
      crm_version, wlan_version⟩, l, ?_⟩
    simp [MirrorRsp.bytes, HalMacStartRspMsg.bytes]
  | addStaSelfRsp =>
    obtain ⟨status, l, rfl, h₂⟩ := exists_field32 (n := 132) h₁
    obtain ⟨self_sta_index, dpu_index, dpu_signature, l, rfl, -⟩ := exists_bytes₃ (n := 129) h₂
    refine ⟨.addStaSelf ⟨header, status, self_sta_index, dpu_index, dpu_signature⟩, l, ?_⟩
    simp [MirrorRsp.bytes, HalAddStaSelfRspMsg.bytes]
  | configStaRsp =>
    obtain ⟨status, l, rfl, h₂⟩ := exists_field32 (n := 132) h₁
    obtain ⟨sta_index, bssid_index, dpu_index, l, rfl, h₃⟩ := exists_bytes₃ (n := 129) h₂
    obtain ⟨bcast_dpu_index, bcast_mgmt_dpu_idx, uc_ucast_sig, l, rfl, h₄⟩ :=
      exists_bytes₃ (n := 126) h₃
    obtain ⟨uc_bcast_sig, uc_mgmt_sig, p2p, l, rfl, -⟩ := exists_bytes₃ (n := 123) h₄
    refine ⟨.configSta ⟨header, status, sta_index, bssid_index, dpu_index, bcast_dpu_index,
      bcast_mgmt_dpu_idx, uc_ucast_sig, uc_bcast_sig, uc_mgmt_sig, p2p⟩, l, ?_⟩
    simp [MirrorRsp.bytes, HalConfigStaRspMsg.bytes]
  | configBssRsp sta =>
    obtain ⟨status, l, rfl, h₂⟩ := exists_field32 (n := 132) h₁
    obtain ⟨bss_index, dpu_desc_index, ucast_dpu_signature, l, rfl, h₃⟩ :=
      exists_bytes₃ (n := 129) h₂
    obtain ⟨bcast_dpu_desc_indx, bcast_dpu_signature, mgmt_dpu_desc_index, l, rfl, h₄⟩ :=
      exists_bytes₃ (n := 126) h₃
    obtain ⟨mgmt_dpu_signature, bss_sta_index, bss_self_sta_index, l, rfl, h₅⟩ :=
      exists_bytes₃ (n := 123) h₄
    obtain ⟨bss_bcast_sta_idx, l, rfl, h₆⟩ := exists_byte (n := 122) h₅
    obtain ⟨mac, l, rfl, h₇⟩ := exists_vector (n := 116) 6 h₆
    obtain ⟨tx_mgmt_power, l, rfl, -⟩ := exists_byte (n := 115) h₇
    refine ⟨.configBss sta ⟨header, status, bss_index, dpu_desc_index, ucast_dpu_signature,
      bcast_dpu_desc_indx, bcast_dpu_signature, mgmt_dpu_desc_index, mgmt_dpu_signature,
      bss_sta_index, bss_self_sta_index, bss_bcast_sta_idx, mac, tx_mgmt_power⟩, l, ?_⟩
    simp [MirrorRsp.bytes, HalConfigBssRspMsg.bytes]

/-! ## The decoders -/

/-- A decoder that refuses a response returns an error and keeps nothing of it. -/
def RspResult.Refuses (r : RspResult) : Prop := r.ret ≠ 0 ∧ r.stored = .none

/-- A decoder that refuses what is too short or has another status, and otherwise returns 0 with what is
mirrored. -/
theorem MirrorsExactly.of_cases {fn : MirrorFn} (rsp : MirrorRsp fn) (size status : ℕ)
    {hal_buf : HalBuf} {rest : List Byte} (hbuf : hal_buf.bytes = rsp.bytes ++ rest) {len : ℕ}
    {st : Mirror} (hsize : rsp.bytes.length = size) (hstatus : rsp.status = status)
    (hshort : len < size → (fn.rsp hal_buf.bytes len).Refuses)
    (hbad : size ≤ len → status ≠ WCN36XX_FW_MSG_RESULT_SUCCESS →
      (fn.rsp hal_buf.bytes len).Refuses)
    (hgood : size ≤ len → status = WCN36XX_FW_MSG_RESULT_SUCCESS →
      (fn.rsp hal_buf.bytes len).ret = 0 ∧
        st.store (fn.rsp hal_buf.bytes len).stored = rsp.mirrored st) :
    MirrorsExactly fn rsp hal_buf len st := by
  subst hsize hstatus
  have hcast : rsp.bytes = hal_buf.bytes.take rsp.bytes.length := by
    rw [hbuf, List.take_left]
  -- Each of the two checks refuses or lets through.
  rcases Nat.lt_or_ge len rsp.bytes.length with hlt | hge
  · obtain ⟨hret, hstored⟩ := hshort hlt
    refine ⟨hcast, ⟨fun h => absurd h hret, fun h => absurd h.1 (Nat.not_le.mpr hlt)⟩,
      fun h => absurd h hret, fun _ => ?_⟩
    unfold MirrorFn.decode
    rw [hstored]
    rfl
  · by_cases hstatus : rsp.status = WCN36XX_FW_MSG_RESULT_SUCCESS
    · obtain ⟨hret, hstored⟩ := hgood hge hstatus
      exact ⟨hcast, ⟨fun _ => ⟨hge, hstatus⟩, fun _ => hret⟩, fun _ => hstored,
        fun h => absurd hret h⟩
    · obtain ⟨hret, hstored⟩ := hbad hge hstatus
      refine ⟨hcast, ⟨fun h => absurd h hret, fun h => absurd h.2 hstatus⟩,
        fun h => absurd h hret, fun _ => ?_⟩
      unfold MirrorFn.decode
      rw [hstored]
      rfl

section Decoders

variable {hal_buf : HalBuf} {rest : List Byte}

/-- `wcn36xx_smd_start_rsp`. -/
theorem mirrors_startRsp (rsp : HalMacStartRspMsg)
    (hbuf : hal_buf.bytes = rsp.bytes ++ rest) (len : ℕ) (st : Mirror) :
    MirrorsExactly .startRsp (.start rsp) hal_buf len st := by
  have hsize : rsp.bytes.length = sizeofStartRsp := by
    simp only [HalMacStartRspMsg.bytes, HalMsgHeader.bytes, List.length_append, length_leBytes16,
      length_leBytes, Vector.length_toList, List.length_cons, List.length_nil]
    rfl
  have hstatus : field hal_buf.bytes 8 2 = rsp.status.toNat := by
    rw [← readLe_leBytes16, hbuf]
    rfl
  have hcrm : (hal_buf.bytes.drop 16).take WCN36XX_HAL_VERSION_LENGTH = rsp.crm_version.toList := by
    calc (hal_buf.bytes.drop 16).take WCN36XX_HAL_VERSION_LENGTH
        = (rsp.crm_version.toList ++ rsp.wlan_version.toList ++ rest).take
            WCN36XX_HAL_VERSION_LENGTH := by rw [hbuf]; rfl
      _ = rsp.crm_version.toList := by
        rw [List.append_assoc, List.take_left' rsp.crm_version.length_toList]
  have hwlan :
      (hal_buf.bytes.drop 80).take WCN36XX_HAL_VERSION_LENGTH = rsp.wlan_version.toList := by
    have hdrop : hal_buf.bytes.drop 80 = rsp.wlan_version.toList ++ rest := by
      calc hal_buf.bytes.drop 80
          = (rsp.crm_version.toList ++ rsp.wlan_version.toList ++ rest).drop
              WCN36XX_HAL_VERSION_LENGTH := by rw [hbuf]; rfl
        _ = rsp.wlan_version.toList ++ rest := by
          rw [List.append_assoc, List.drop_left' rsp.crm_version.length_toList]
    rw [hdrop, List.take_left' rsp.wlan_version.length_toList]
  have hversion : hal_buf.bytes[12]? = some rsp.version.revision ∧
      hal_buf.bytes[13]? = some rsp.version.version ∧
      hal_buf.bytes[14]? = some rsp.version.minor ∧
      hal_buf.bytes[15]? = some rsp.version.major := by
    rw [hbuf]
    exact ⟨rfl, rfl, rfl, rfl⟩
  obtain ⟨hrevision, hver, hminor, hmajor⟩ := hversion
  apply MirrorsExactly.of_cases (.start rsp) sizeofStartRsp rsp.status.toNat hbuf hsize rfl
  · intro hlt
    rw [MirrorFn.rsp]
    unfold smdStartRsp
    rw [if_pos hlt]
    exact ⟨by decide, rfl⟩
  · intro hge hbad
    rw [MirrorFn.rsp]
    unfold smdStartRsp
    rw [if_neg (Nat.not_lt.mpr hge), hstatus, if_pos (Ne.symm hbad)]
    exact ⟨by decide, rfl⟩
  · intro hge hgood
    rw [MirrorFn.rsp]
    unfold smdStartRsp
    rw [if_neg (Nat.not_lt.mpr hge), hstatus, if_neg (not_not.mpr hgood.symm), hcrm, hwlan,
      hrevision, hver, hminor, hmajor]
    exact ⟨rfl, rfl⟩

/-- `wcn36xx_smd_add_sta_self_rsp`. -/
theorem mirrors_addStaSelfRsp (rsp : HalAddStaSelfRspMsg)
    (hbuf : hal_buf.bytes = rsp.bytes ++ rest) (len : ℕ) (st : Mirror) :
    MirrorsExactly .addStaSelfRsp (.addStaSelf rsp) hal_buf len st := by
  have hsize : rsp.bytes.length = sizeofAddStaSelfRsp := rfl
  have hstatus : field hal_buf.bytes 8 4 = rsp.status.toNat := by
    rw [← readLe_leBytes, hbuf]
    rfl
  have hread : hal_buf.bytes[12]? = some rsp.self_sta_index ∧
      hal_buf.bytes[13]? = some rsp.dpu_index := by
    rw [hbuf]
    exact ⟨rfl, rfl⟩
  obtain ⟨hindex, hdpu⟩ := hread
  apply MirrorsExactly.of_cases (.addStaSelf rsp) sizeofAddStaSelfRsp rsp.status.toNat hbuf hsize rfl
  · intro hlt
    rw [MirrorFn.rsp]
    unfold smdAddStaSelfRsp
    rw [if_pos hlt]
    exact ⟨by decide, rfl⟩
  · intro hge hbad
    -- This decoder returns the status of the response.
    have hret : statusRet (field hal_buf.bytes 8 4) ≠ 0 := by
      rw [Ne, statusRet_eq_zero_iff, hstatus]
      exact hbad
    rw [MirrorFn.rsp]
    unfold smdAddStaSelfRsp
    rw [if_neg (Nat.not_lt.mpr hge)]
    dsimp only
    rw [if_pos (by rw [hstatus]; exact hbad)]
    exact ⟨hret, rfl⟩
  · intro hge hgood
    rw [MirrorFn.rsp]
    unfold smdAddStaSelfRsp
    rw [if_neg (Nat.not_lt.mpr hge), hstatus]
    dsimp only
    rw [if_neg (not_not.mpr hgood), hindex, hdpu]
    exact ⟨rfl, rfl⟩

/-- `wcn36xx_smd_config_sta_rsp`. -/
theorem mirrors_configStaRsp (rsp : HalConfigStaRspMsg)
    (hbuf : hal_buf.bytes = rsp.bytes ++ rest) (len : ℕ) (st : Mirror) :
    MirrorsExactly .configStaRsp (.configSta rsp) hal_buf len st := by
  have hsize : rsp.bytes.length = sizeofConfigStaRsp := rfl
  have hstatus : field hal_buf.bytes 8 4 = rsp.status.toNat := by
    rw [← readLe_leBytes, hbuf]
    rfl
  have hread : hal_buf.bytes[12]? = some rsp.sta_index ∧
      hal_buf.bytes[14]? = some rsp.dpu_index ∧ hal_buf.bytes[17]? = some rsp.uc_ucast_sig := by
    rw [hbuf]
    exact ⟨rfl, rfl, rfl⟩
  obtain ⟨hindex, hdpu, hsig⟩ := hread
  apply MirrorsExactly.of_cases (.configSta rsp) sizeofConfigStaRsp rsp.status.toNat hbuf hsize rfl
  · intro hlt
    rw [MirrorFn.rsp]
    unfold smdConfigStaRsp
    rw [if_pos hlt]
    exact ⟨by decide, rfl⟩
  · intro hge hbad
    rw [MirrorFn.rsp]
    unfold smdConfigStaRsp
    rw [if_neg (Nat.not_lt.mpr hge), hstatus, if_pos hbad]
    exact ⟨by decide, rfl⟩
  · intro hge hgood
    rw [MirrorFn.rsp]
    unfold smdConfigStaRsp
    rw [if_neg (Nat.not_lt.mpr hge), hstatus, if_neg (not_not.mpr hgood), hindex, hdpu, hsig]
    exact ⟨rfl, rfl⟩

/-- `wcn36xx_smd_config_bss_rsp`, with a station or without. -/
theorem mirrors_configBssRsp (sta : Bool) (rsp : HalConfigBssRspMsg)
    (hbuf : hal_buf.bytes = rsp.bytes ++ rest) (len : ℕ) (st : Mirror) :
    MirrorsExactly (.configBssRsp sta) (.configBss sta rsp) hal_buf len st := by
  have hsize : rsp.bytes.length = sizeofConfigBssRsp := by
    simp only [HalConfigBssRspMsg.bytes, HalMsgHeader.bytes, List.length_append, length_leBytes16,
      length_leBytes, Vector.length_toList, List.length_cons, List.length_nil]
    rfl
  have hstatus : field hal_buf.bytes 8 4 = rsp.status.toNat := by
    rw [← readLe_leBytes, hbuf]
    rfl
  have hread : hal_buf.bytes[12]? = some rsp.bss_index ∧
      hal_buf.bytes[13]? = some rsp.dpu_desc_index ∧
      hal_buf.bytes[14]? = some rsp.ucast_dpu_signature ∧
      hal_buf.bytes[19]? = some rsp.bss_sta_index := by
    rw [hbuf]
    exact ⟨rfl, rfl, rfl, rfl⟩
  obtain ⟨hindex, hdpu, hsig, hsta⟩ := hread
  apply MirrorsExactly.of_cases (.configBss sta rsp) sizeofConfigBssRsp rsp.status.toNat hbuf hsize rfl
  · intro hlt
    rw [MirrorFn.rsp]
    unfold smdConfigBssRsp
    rw [if_pos hlt]
    exact ⟨by decide, rfl⟩
  · intro hge hbad
    rw [MirrorFn.rsp]
    unfold smdConfigBssRsp
    rw [if_neg (Nat.not_lt.mpr hge), hstatus, if_pos hbad]
    exact ⟨by decide, rfl⟩
  · intro hge hgood
    rw [MirrorFn.rsp]
    unfold smdConfigBssRsp
    rw [if_neg (Nat.not_lt.mpr hge), hstatus, if_neg (not_not.mpr hgood), hindex, hdpu, hsig, hsta]
    cases sta <;> exact ⟨rfl, rfl⟩

end Decoders

/-! ## The request functions -/

/-- What a request function makes of a response: nothing that is kept when it fails. -/
def SmdFn.StoresOnSuccess (fn : SmdFn) : Prop :=
  ∀ (buf : List Byte) (len : ℕ), (fn.rsp buf len).ret ≠ 0 → (fn.rsp buf len).stored = .none

/-- Every request function keeps something only when it succeeds. -/
theorem SmdRequest.storesOnSuccess (r : SmdRequest) : r.fn.StoresOnSuccess := by
  intro buf len hret
  cases r with
  | start =>
    change (smdStartRsp buf len).ret ≠ 0 at hret
    change (smdStartRsp buf len).stored = .none
    unfold smdStartRsp at hret ⊢
    split_ifs at hret ⊢ with hlen hstatus
    · rfl
    · rfl
    · exact absurd rfl hret
  | addStaSelf vif =>
    change (smdAddStaSelfRsp buf len).ret ≠ 0 at hret
    change (smdAddStaSelfRsp buf len).stored = .none
    unfold smdAddStaSelfRsp at hret ⊢
    dsimp only at hret ⊢
    split_ifs at hret ⊢ with hlen hstatus
    · rfl
    · rfl
    · exact absurd rfl hret
  | configSta old_fw hw vif sta =>
    change (smdConfigStaRsp buf len).ret ≠ 0 at hret
    change (smdConfigStaRsp buf len).stored = .none
    unfold smdConfigStaRsp at hret ⊢
    split_ifs at hret ⊢ with hlen hstatus
    · rfl
    · rfl
    · exact absurd rfl hret
  | configBss old_fw hw vif bss_conf sta bssid update =>
    change (smdConfigBssRsp sta.isSome buf len).ret ≠ 0 at hret
    change (smdConfigBssRsp sta.isSome buf len).stored = .none
    unfold smdConfigBssRsp at hret ⊢
    split_ifs at hret ⊢ with hlen hstatus
    all_goals first | rfl | exact absurd rfl hret
  | updateScanParams =>
    change (smdUpdateScanParamsRsp buf).stored = .none
    rw [smdUpdateScanParamsRsp_eq]
  | featureCapsExchange =>
    -- It never fails on a response.
    simp only [SmdRequest.fn, SmdFn.featureCapsExchange] at hret
    split_ifs at hret with hlen
    · exact absurd rfl hret
    · exact absurd rfl hret
  | _ => rfl

/-- A request function that fails has changed nothing. -/
theorem failureKeeps (st : Mirror) : FailureKeeps st := by
  intro fw c smd smd' result hcall hret
  have hstored : result.stored = .none := by
    cases c with
    | loadNv request_firmware =>
      unfold smdCall at hcall
      obtain ⟨⟨_, ret⟩, -, heq⟩ := Option.bind_eq_some_iff.mp hcall
      injection heq with heq
      rw [← (Prod.mk.inj heq).2]
    | request r =>
      unfold smdCall at hcall
      obtain ⟨composed, -, hcall⟩ := Option.bind_eq_some_iff.mp hcall
      cases composed with
      | refused ret =>
        injection hcall with heq
        rw [← (Prod.mk.inj heq).2]
      | ready hal_buf len =>
        obtain ⟨⟨smd₁, ret⟩, -, hcall⟩ := Option.bind_eq_some_iff.mp hcall
        dsimp only at hcall
        split_ifs at hcall with hsend
        · -- The response is read only when there is one.
          injection hcall with heq
          rw [← (Prod.mk.inj heq).2]
        · injection hcall with heq
          obtain ⟨rfl, rfl⟩ := Prod.mk.inj heq
          exact r.storesOnSuccess _ _ hret
  rw [hstored]
  rfl

/-- Each of the four decoders, for every buffer and length, returns 0 if and only if the response has the
size of its structure and the status of success; then exactly the mirrored fields are what the response
has at its packed offsets, and otherwise nothing is changed. A request function that fails leaves all of
them alone. -/
theorem mirror_exact (st : Mirror) :
    (∀ (fn : MirrorFn) (hal_buf : HalBuf) (len : ℕ),
      ∃ rsp : MirrorRsp fn, MirrorsExactly fn rsp hal_buf len st) ∧ FailureKeeps st := by
  constructor
  · intro fn hal_buf len
    have hlen : sizeofStartRsp ≤ hal_buf.bytes.length := by
      rw [hal_buf.length_eq]
      decide
    obtain ⟨rsp, rest, hbuf⟩ := MirrorRsp.exists_rsp fn hlen
    refine ⟨rsp, ?_⟩
    cases rsp with
    | start rsp => exact mirrors_startRsp rsp hbuf len st
    | addStaSelf rsp => exact mirrors_addStaSelfRsp rsp hbuf len st
    | configSta rsp => exact mirrors_configStaRsp rsp hbuf len st
    | configBss sta rsp => exact mirrors_configBssRsp sta rsp hbuf len st
  · exact failureKeeps st

end Wcn36xx
