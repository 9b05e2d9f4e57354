import Wcn36xx.Smd.Request
import Mathlib.Tactic.Ring

/-!
# Reading responses

`wcn36xx_smd_rsp_process` leaves a response in `hal_buf`, and its length in `hal_rsp_len`. Behind it the
buffer still has bytes of the request, or of an earlier message. `successMeansGood_iff` says for
which functions and responses a return value of 0 means a good response, and that the rest of the
buffer has no say. Three functions are different: `wcn36xx_smd_update_scan_params` does not check the
length, `wcn36xx_smd_set_power_params` checks nothing, and `wcn36xx_smd_feature_caps_exchange` returns
0 for a response of the wrong size.
-/

namespace Wcn36xx

/-- The response to a call: its size as far as the call reads it, and its field `status`. -/
structure RspFormat where
  size : ℕ
  offset : ℕ
  width : ℕ

/-- `struct wcn36xx_fw_msg_status_rsp` behind a header. -/
def RspFormat.status : RspFormat := ⟨HalMsgHeader.size + 4, HalMsgHeader.size, 4⟩

/-- The format of the response to a call. -/
def SmdCall.format : SmdCall → RspFormat
  | .request .start => ⟨sizeofStartRsp, 8, 2⟩
  | .request (.addStaSelf _) => ⟨sizeofAddStaSelfRsp, 8, 4⟩
  | .request (.configSta ..) => ⟨sizeofConfigStaRsp, 8, 4⟩
  | .request (.configBss ..) => ⟨sizeofConfigBssRsp, 8, 4⟩
  | .request (.triggerBa _) => ⟨sizeofTriggerBaRsp, 14, 4⟩
  | _ => .status

/-- `status` of a response to `wcn36xx_smd_update_scan_params`, without the PNO version bit. -/
def scanStatus (rsp : List Byte) : BitVec 32 :=
  BitVec.ofNat 32 (field rsp 8 4) &&& ~~~WCN36XX_FW_MSG_PNO_VERSION_MASK

/-- A good response: it is as long as the fields that the call reads, and its status is that of success.
The exchange of capabilities has no status, but a size. -/
def SmdCall.GoodRsp (rsp : List Byte) : SmdCall → Prop
  | .request .featureCapsExchange => rsp.length = sizeofFeatCapsMsg
  | .request .updateScanParams => RspFormat.status.size ≤ rsp.length ∧ scanStatus rsp = 0
  | c => c.format.size ≤ rsp.length ∧
    field rsp c.format.offset c.format.width = WCN36XX_FW_MSG_RESULT_SUCCESS

/-- A call that has `len` bytes of response in `hal_buf` returns 0 only if they are a good response, and
what it makes of them does not depend on the rest of `hal_buf`. -/
structure SuccessMeansGood (c : SmdCall) (hal_buf : HalBuf) (len : ℕ) : Prop where
  good : (c.rsp hal_buf.bytes len).ret = 0 → c.GoodRsp (hal_buf.bytes.take len)
  rest : ∀ hal_buf' : HalBuf, hal_buf'.bytes.take len = hal_buf.bytes.take len →
    c.rsp hal_buf'.bytes len = c.rsp hal_buf.bytes len

/-- The response is one that the call's checks are enough for. -/
def RspChecked (hal_buf : HalBuf) (len : ℕ) : SmdCall → Prop
  | .request (.setPowerParams ..) => RspFormat.status.size ≤ len ∧ field hal_buf.bytes 8 4 = 0
  | .request .updateScanParams => RspFormat.status.size ≤ len
  | .request .featureCapsExchange => len = sizeofFeatCapsMsg
  | _ => True

/-! ## Fields inside the response -/

section Same

variable {buf buf' : List Byte} {len : ℕ} (h : buf'.take len = buf.take len)
include h

/-- A byte of the response. -/
theorem getElem?_of_take_eq {i : ℕ} (hi : i < len) : buf'[i]? = buf[i]? := by
  rw [← List.getElem?_take_of_lt hi, h, List.getElem?_take_of_lt hi]

/-- A part of the response. -/
theorem slice_of_take_eq {offset n : ℕ} (hle : offset + n ≤ len) :
    (buf'.drop offset).take n = (buf.drop offset).take n := by
  have htake : ∀ l : List Byte, (l.drop offset).take n = ((l.take len).drop offset).take n := by
    intro l
    rw [List.drop_take, List.take_take, min_eq_left (by omega)]
  rw [htake buf', h, ← htake buf]

/-- A field of the response. -/
theorem field_of_take_eq {offset n : ℕ} (hle : offset + n ≤ len) :
    field buf' offset n = field buf offset n := by
  rw [field, field, slice_of_take_eq h hle]

end Same

/-- A field has as many values as its bytes have. -/
theorem readLe_lt (bs : List Byte) : readLe bs < 256 ^ bs.length := by
  induction bs with
  | nil => simp [readLe]
  | cons b bs ih =>
    have hb := b.isLt
    rw [readLe, List.length_cons, Nat.pow_succ]
    omega

/-- A field of 32 bits. -/
theorem field_lt (msg : List Byte) (offset : ℕ) : field msg offset 4 < 2 ^ 32 := by
  have hlen : ((msg.drop offset).take 4).length ≤ 4 := by
    rw [List.length_take]
    exact Nat.min_le_left _ _
  calc field msg offset 4 < 256 ^ ((msg.drop offset).take 4).length := readLe_lt _
    _ ≤ 256 ^ 4 := Nat.pow_le_pow_right (by decide) hlen
    _ = 2 ^ 32 := by decide

/-- The status that is returned is 0 only if the status is. -/
theorem statusRet_eq_zero_iff (msg : List Byte) (offset : ℕ) :
    statusRet (field msg offset 4) = 0 ↔ field msg offset 4 = 0 := by
  have hlt := field_lt msg offset
  have hzero : (0 : BitVec 32).toInt = 0 := rfl
  rw [statusRet, ← hzero, BitVec.toInt_inj, ← BitVec.toNat_inj, BitVec.toNat_ofNat,
    Nat.mod_eq_of_lt hlt]
  rfl

/-! ## The checkers -/

/-- A checker that takes only responses that are long enough and have the status of success, and looks at
nothing behind them. -/
structure Checks (rsp : List Byte → ℕ → RspResult) (fmt : RspFormat) : Prop where
  zero : ∀ {buf len}, (rsp buf len).ret = 0 →
    fmt.size ≤ len ∧ field buf fmt.offset fmt.width = WCN36XX_FW_MSG_RESULT_SUCCESS
  same : ∀ {buf buf' : List Byte} {len}, buf'.take len = buf.take len →
    rsp buf' len = rsp buf len

/-- `wcn36xx_smd_rsp_status_check` returns 0 only for a response with the status of success. -/
theorem smdRspStatusCheck_eq_zero {buf : List Byte} {len : ℕ} (h : smdRspStatusCheck buf len = 0) :
    RspFormat.status.size ≤ len ∧ field buf 8 4 = 0 := by
  unfold smdRspStatusCheck at h
  split_ifs at h with hlen
  · cases h
  · refine ⟨Nat.not_lt.mp hlen, ?_⟩
    dsimp only at h
    split_ifs at h with hstatus
    · exact (statusRet_eq_zero_iff buf 8).mp h
    · exact (not_not.mp hstatus).symm

/-- `wcn36xx_smd_rsp_status_check` returns 0 exactly for a response with the status of success. -/
theorem smdRspStatusCheck_eq_zero_iff (buf : List Byte) (len : ℕ) :
    smdRspStatusCheck buf len = 0 ↔ RspFormat.status.size ≤ len ∧ field buf 8 4 = 0 := by
  refine ⟨smdRspStatusCheck_eq_zero, fun h => ?_⟩
  have hlen : ¬len < HalMsgHeader.size + 4 := Nat.not_lt.mpr h.1
  have hstatus : WCN36XX_FW_MSG_RESULT_SUCCESS = field buf HalMsgHeader.size 4 := h.2.symm
  unfold smdRspStatusCheck
  rw [if_neg hlen]
  dsimp only
  rw [if_neg (not_not.mpr hstatus)]

/-- `wcn36xx_smd_rsp_status_check` reads the response only. -/
theorem smdRspStatusCheck_same {buf buf' : List Byte} {len : ℕ}
    (h : buf'.take len = buf.take len) : smdRspStatusCheck buf' len = smdRspStatusCheck buf len := by
  unfold smdRspStatusCheck
  split_ifs with hlen
  · rfl
  · rw [field_of_take_eq h (Nat.not_lt.mp hlen)]

/-- The checker of most functions. -/
theorem checks_rspStatus : Checks smdRspStatus .status where
  zero h := smdRspStatusCheck_eq_zero h
  same h := congrArg (fun ret => ({ ret := ret } : RspResult)) (smdRspStatusCheck_same h)

/-- `wcn36xx_smd_join_rsp` goes by that checker. -/
theorem checks_joinRsp : Checks smdJoinRsp .status where
  zero := by
    intro buf len h
    unfold smdJoinRsp at h
    dsimp only at h
    split_ifs at h with hcheck
    · cases h
    · exact smdRspStatusCheck_eq_zero (not_not.mp hcheck)
  same := by
    intro buf buf' len h
    unfold smdJoinRsp
    rw [smdRspStatusCheck_same h]

/-- `wcn36xx_smd_start_rsp`. -/
theorem checks_startRsp : Checks smdStartRsp ⟨sizeofStartRsp, 8, 2⟩ where
  zero := by
    intro buf len h
    unfold smdStartRsp at h
    split_ifs at h with hlen hstatus
    · cases h
    · cases h
    · exact ⟨Nat.not_lt.mp hlen, (not_not.mp hstatus).symm⟩
  same := by
    intro buf buf' len h
    have hsize : sizeofStartRsp = 144 := rfl
    have hversion : WCN36XX_HAL_VERSION_LENGTH = 64 := rfl
    unfold smdStartRsp
    rcases Nat.lt_or_ge len sizeofStartRsp with hlt | hge
    · rw [if_pos hlt, if_pos hlt]
    · rw [if_neg (Nat.not_lt.mpr hge), if_neg (Nat.not_lt.mpr hge),
        field_of_take_eq h (by omega), slice_of_take_eq h (by omega),
        slice_of_take_eq h (by omega), getElem?_of_take_eq h (by omega),
        getElem?_of_take_eq h (by omega), getElem?_of_take_eq h (by omega),
        getElem?_of_take_eq h (by omega)]

/-- `wcn36xx_smd_add_sta_self_rsp`. -/
theorem checks_addStaSelfRsp : Checks smdAddStaSelfRsp ⟨sizeofAddStaSelfRsp, 8, 4⟩ where
  zero := by
    intro buf len h
    unfold smdAddStaSelfRsp at h
    dsimp only at h
    split_ifs at h with hlen hstatus
    · cases h
    · exact absurd ((statusRet_eq_zero_iff buf 8).mp h) hstatus
    · exact ⟨Nat.not_lt.mp hlen, not_not.mp hstatus⟩
  same := by
    intro buf buf' len h
    have hsize : sizeofAddStaSelfRsp = 15 := rfl
    unfold smdAddStaSelfRsp
    rcases Nat.lt_or_ge len sizeofAddStaSelfRsp with hlt | hge
    · rw [if_pos hlt, if_pos hlt]
    · rw [if_neg (Nat.not_lt.mpr hge), if_neg (Nat.not_lt.mpr hge),
        field_of_take_eq h (by omega), getElem?_of_take_eq h (by omega),
        getElem?_of_take_eq h (by omega)]

/-- `wcn36xx_smd_config_sta_rsp`. -/
theorem checks_configStaRsp : Checks smdConfigStaRsp ⟨sizeofConfigStaRsp, 8, 4⟩ where
  zero := by
    intro buf len h
    unfold smdConfigStaRsp at h
    split_ifs at h with hlen hstatus
    · cases h
    · cases h
    · exact ⟨Nat.not_lt.mp hlen, not_not.mp hstatus⟩
  same := by
    intro buf buf' len h
    have hsize : sizeofConfigStaRsp = 21 := rfl
    unfold smdConfigStaRsp
    rcases Nat.lt_or_ge len sizeofConfigStaRsp with hlt | hge
    · rw [if_pos hlt, if_pos hlt]
    · rw [if_neg (Nat.not_lt.mpr hge), if_neg (Nat.not_lt.mpr hge),
        field_of_take_eq h (by omega), getElem?_of_take_eq h (by omega),
        getElem?_of_take_eq h (by omega), getElem?_of_take_eq h (by omega)]

/-- `wcn36xx_smd_config_bss_rsp`. -/
theorem checks_configBssRsp (sta : Bool) :
    Checks (smdConfigBssRsp sta) ⟨sizeofConfigBssRsp, 8, 4⟩ where
  zero := by
    intro buf len h
    unfold smdConfigBssRsp at h
    split_ifs at h with hlen hstatus hsta
    · cases h
    · cases h
    · exact ⟨Nat.not_lt.mp hlen, not_not.mp hstatus⟩
    · exact ⟨Nat.not_lt.mp hlen, not_not.mp hstatus⟩
  same := by
    intro buf buf' len h
    have hsize : sizeofConfigBssRsp = 29 := rfl
    unfold smdConfigBssRsp
    rcases Nat.lt_or_ge len sizeofConfigBssRsp with hlt | hge
    · rw [if_pos hlt, if_pos hlt]
    · rw [if_neg (Nat.not_lt.mpr hge), if_neg (Nat.not_lt.mpr hge),
        field_of_take_eq h (by omega), getElem?_of_take_eq h (by omega),
        getElem?_of_take_eq h (by omega), getElem?_of_take_eq h (by omega),
        getElem?_of_take_eq h (by omega)]

/-- `wcn36xx_smd_trigger_ba_rsp`. -/
theorem checks_triggerBaRsp : Checks smdTriggerBaRsp ⟨sizeofTriggerBaRsp, 14, 4⟩ where
  zero := by
    intro buf len h
    unfold smdTriggerBaRsp at h
    dsimp only at h
    split_ifs at h with hlen
    · cases h
    · exact ⟨Nat.not_lt.mp hlen, (statusRet_eq_zero_iff buf 14).mp h⟩
  same := by
    intro buf buf' len h
    have hsize : sizeofTriggerBaRsp = 20 := rfl
    unfold smdTriggerBaRsp
    rcases Nat.lt_or_ge len sizeofTriggerBaRsp with hlt | hge
    · rw [if_pos hlt, if_pos hlt]
    · rw [if_neg (Nat.not_lt.mpr hge), if_neg (Nat.not_lt.mpr hge),
        field_of_take_eq h (by omega)]

/-! ## The function that does not check the length -/

/-- Bytes behind others count from where those end. -/
theorem readLe_append (as bs : List Byte) :
    readLe (as ++ bs) = readLe as + 256 ^ as.length * readLe bs := by
  induction as with
  | nil => simp [readLe]
  | cons a as ih =>
    rw [List.cons_append, readLe, readLe, ih, List.length_cons, Nat.pow_succ]
    ring

/-- The last byte of the status. -/
theorem scanStatus_byte {buf : List Byte} {b : Byte} (hb : buf[11]? = some b) :
    (scanStatus buf).extractLsb' 24 8 = b := by
  have hlt : 11 < buf.length := (List.getElem?_eq_some_iff.mp hb).choose
  have hfour : (buf.drop 8).take 4 = (buf.drop 8).take 3 ++ [b] := by
    rw [List.take_add_one, List.getElem?_drop, hb]
    rfl
  have hthree : ((buf.drop 8).take 3).length = 3 := by
    rw [List.length_take, List.length_drop]
    omega
  have hlow := readLe_lt ((buf.drop 8).take 3)
  have hbyte := b.isLt
  have hfield : field buf 8 4 = readLe ((buf.drop 8).take 3) + 2 ^ 24 * b.toNat := by
    rw [field, hfour, readLe_append, hthree]
    simp [readLe]
  have hmask : (~~~WCN36XX_FW_MSG_PNO_VERSION_MASK).extractLsb' 24 8 = BitVec.allOnes 8 := by
    decide
  rw [scanStatus, BitVec.extractLsb'_and, hmask, BitVec.and_allOnes]
  apply BitVec.eq_of_toNat_eq
  rw [BitVec.extractLsb'_toNat, BitVec.toNat_ofNat, hfield, Nat.shiftRight_eq_div_pow]
  rw [hthree] at hlow
  omega

/-- `wcn36xx_smd_update_scan_params_rsp` returns the status. -/
theorem smdUpdateScanParamsRsp_eq (buf : List Byte) :
    smdUpdateScanParamsRsp buf = { ret := (scanStatus buf).toInt } := by
  unfold smdUpdateScanParamsRsp
  dsimp only
  split_ifs with h
  · rfl
  · have hzero : scanStatus buf = 0 := by
      apply BitVec.eq_of_toNat_eq
      exact (not_not.mp h).symm
    rw [hzero]
    rfl

/-- `hal_buf` with another byte. -/
def HalBuf.setByte (hal_buf : HalBuf) (i : ℕ) (b : Byte) : HalBuf where
  bytes := hal_buf.bytes.set i b
  length_eq := by rw [List.length_set, hal_buf.length_eq]

/-- With a response shorter than the status, what is left in `hal_buf` decides. -/
theorem updateScanParams_rest (hal_buf : HalBuf) {len : ℕ} (hlen : len < RspFormat.status.size) :
    ∃ hal_buf' : HalBuf, hal_buf'.bytes.take len = hal_buf.bytes.take len ∧
      smdUpdateScanParamsRsp hal_buf'.bytes ≠ smdUpdateScanParamsRsp hal_buf.bytes := by
  have hsize : RspFormat.status.size = 12 := rfl
  have hbuf : 11 < hal_buf.bytes.length := by
    rw [hal_buf.length_eq]
    decide
  have hb : hal_buf.bytes[11]? = some hal_buf.bytes[11] := List.getElem?_eq_getElem hbuf
  refine ⟨hal_buf.setByte 11 (hal_buf.bytes[11] + 1), List.take_set_of_le (by omega), ?_⟩
  have hb' : (hal_buf.setByte 11 (hal_buf.bytes[11] + 1)).bytes[11]? =
      some (hal_buf.bytes[11] + 1) := List.getElem?_set_self hbuf
  intro heq
  rw [smdUpdateScanParamsRsp_eq, smdUpdateScanParamsRsp_eq, RspResult.mk.injEq,
    BitVec.toInt_inj] at heq
  have hsame := scanStatus_byte hb'
  rw [heq.1, scanStatus_byte hb] at hsame
  have hne : ∀ b : Byte, b ≠ b + 1 := by decide
  exact hne _ hsame

/-- The exact condition for `wcn36xx_smd_update_scan_params`. -/
theorem updateScanParams_iff (hal_buf : HalBuf) (len : ℕ) :
    SuccessMeansGood (.request .updateScanParams) hal_buf len ↔ RspFormat.status.size ≤ len := by
  have hrsp : ∀ buf, (SmdCall.request .updateScanParams).rsp buf len =
      smdUpdateScanParamsRsp buf := fun _ => rfl
  have hbuf := hal_buf.length_eq
  have hmax : RspFormat.status.size ≤ WCN36XX_HAL_BUF_SIZE := by decide
  constructor
  · intro h
    by_contra hlen
    obtain ⟨hal_buf', htake, hne⟩ := updateScanParams_rest hal_buf (Nat.not_le.mp hlen)
    exact hne (h.rest hal_buf' htake)
  · intro hlen
    have hstatus : ∀ {buf buf' : List Byte}, buf'.take len = buf.take len →
        scanStatus buf' = scanStatus buf := fun {buf buf'} htake => by
      have hfield : field buf' 8 4 = field buf 8 4 := field_of_take_eq htake hlen
      rw [scanStatus, hfield, scanStatus]
    constructor
    · intro hret
      rw [hrsp, smdUpdateScanParamsRsp_eq] at hret
      refine ⟨?_, ?_⟩
      · rw [List.length_take]
        omega
      · have htake : (hal_buf.bytes.take len).take len = hal_buf.bytes.take len := by
          rw [List.take_take, min_self]
        rw [hstatus htake]
        exact BitVec.toInt_inj.mp hret
    · intro hal_buf' htake
      rw [hrsp, hrsp, smdUpdateScanParamsRsp_eq, smdUpdateScanParamsRsp_eq, hstatus htake]

/-! ## All functions -/

/-- A response that is long enough to be read is in the buffer. -/
theorem SmdCall.format_le (c : SmdCall) : c.format.offset + c.format.width ≤ c.format.size ∧
    c.format.size ≤ WCN36XX_HAL_BUF_SIZE := by
  unfold SmdCall.format
  split <;> decide

/-- A call with one of the checkers. -/
theorem SuccessMeansGood.of_checks {c : SmdCall} {hal_buf : HalBuf} {len : ℕ}
    (hgood : ∀ rsp, c.GoodRsp rsp ↔ c.format.size ≤ rsp.length ∧
      field rsp c.format.offset c.format.width = WCN36XX_FW_MSG_RESULT_SUCCESS)
    (hchecks : Checks c.rsp c.format) : SuccessMeansGood c hal_buf len := by
  have hbuf := hal_buf.length_eq
  obtain ⟨hfield, hmax⟩ := c.format_le
  constructor
  · intro hret
    obtain ⟨hlen, hstatus⟩ := hchecks.zero hret
    rw [hgood]
    refine ⟨?_, ?_⟩
    · rw [List.length_take]
      omega
    · have htake : (hal_buf.bytes.take len).take len = hal_buf.bytes.take len := by
        rw [List.take_take, min_self]
      rw [← hstatus]
      exact field_of_take_eq htake (by omega)
  · intro hal_buf' htake
    exact hchecks.same htake

/-- The exact condition for `wcn36xx_smd_set_power_params`, which returns 0 for every response. -/
theorem setPowerParams_iff (hw : HwConf) (ignore_dtim : Bool) (hal_buf : HalBuf) (len : ℕ) :
    SuccessMeansGood (.request (.setPowerParams hw ignore_dtim)) hal_buf len ↔
      RspFormat.status.size ≤ len ∧ field hal_buf.bytes 8 4 = 0 := by
  have hbuf := hal_buf.length_eq
  have hmax : RspFormat.status.size ≤ WCN36XX_HAL_BUF_SIZE := by decide
  have htake : (hal_buf.bytes.take len).take len = hal_buf.bytes.take len := by
    rw [List.take_take, min_self]
  constructor
  · intro h
    obtain ⟨hlen, hstatus⟩ := h.good rfl
    rw [List.length_take] at hlen
    have hle : RspFormat.status.size ≤ len := le_trans hlen (Nat.min_le_left _ _)
    have hfield : field (hal_buf.bytes.take len) 8 4 = field hal_buf.bytes 8 4 :=
      field_of_take_eq htake hle
    exact ⟨hle, hfield ▸ hstatus⟩
  · rintro ⟨hle, hstatus⟩
    have hfield : field (hal_buf.bytes.take len) 8 4 = field hal_buf.bytes 8 4 :=
      field_of_take_eq htake hle
    have hlen : RspFormat.status.size ≤ (hal_buf.bytes.take len).length := by
      rw [List.length_take]
      omega
    exact ⟨fun _ => ⟨hlen, hfield ▸ hstatus⟩, fun _ _ => rfl⟩

/-- The exact condition for `wcn36xx_smd_feature_caps_exchange`, which returns 0 for every response. -/
theorem featureCapsExchange_iff (hal_buf : HalBuf) (len : ℕ) :
    SuccessMeansGood (.request .featureCapsExchange) hal_buf len ↔ len = sizeofFeatCapsMsg := by
  have hbuf := hal_buf.length_eq
  have hmax : sizeofFeatCapsMsg < WCN36XX_HAL_BUF_SIZE := by decide
  have hzero : ∀ buf, ((SmdCall.request .featureCapsExchange).rsp buf len).ret = 0 := by
    intro buf
    change (SmdFn.featureCapsExchange.rsp buf len).ret = 0
    unfold SmdFn.featureCapsExchange
    dsimp only
    split_ifs <;> rfl
  constructor
  · intro h
    have hlen : (hal_buf.bytes.take len).length = sizeofFeatCapsMsg := h.good (hzero _)
    rw [List.length_take] at hlen
    omega
  · rintro rfl
    have hlen : (hal_buf.bytes.take sizeofFeatCapsMsg).length = sizeofFeatCapsMsg := by
      rw [List.length_take]
      omega
    refine ⟨fun _ => hlen, fun hal_buf' htake => ?_⟩
    have hfield : ∀ offset, offset + 4 ≤ sizeofFeatCapsMsg →
        field hal_buf'.bytes offset 4 = field hal_buf.bytes offset 4 :=
      fun _ hle => field_of_take_eq htake hle
    change SmdFn.featureCapsExchange.rsp _ _ = SmdFn.featureCapsExchange.rsp _ _
    unfold SmdFn.featureCapsExchange
    dsimp only
    rw [hfield 8 (by decide), hfield 12 (by decide), hfield 16 (by decide), hfield 20 (by decide)]

/-- For every request function and every response, a return value of 0 means a good response and the rest
of `hal_buf` has no say exactly when the response is one that the function's checks are enough for. -/
theorem successMeansGood_iff (c : SmdCall) (hal_buf : HalBuf) (len : ℕ) :
    SuccessMeansGood c hal_buf len ↔ RspChecked hal_buf len c := by
  have hbuf := hal_buf.length_eq
  rcases c with request_firmware | r
  · exact ⟨fun _ => trivial, fun _ => .of_checks (fun _ => Iff.rfl) checks_rspStatus⟩
  · cases r with
    | start => exact ⟨fun _ => trivial, fun _ => .of_checks (fun _ => Iff.rfl) checks_startRsp⟩
    | addStaSelf =>
      exact ⟨fun _ => trivial, fun _ => .of_checks (fun _ => Iff.rfl) checks_addStaSelfRsp⟩
    | join => exact ⟨fun _ => trivial, fun _ => .of_checks (fun _ => Iff.rfl) checks_joinRsp⟩
    | configSta =>
      exact ⟨fun _ => trivial, fun _ => .of_checks (fun _ => Iff.rfl) checks_configStaRsp⟩
    | configBss =>
      exact ⟨fun _ => trivial, fun _ => .of_checks (fun _ => Iff.rfl) (checks_configBssRsp _)⟩
    | triggerBa =>
      exact ⟨fun _ => trivial, fun _ => .of_checks (fun _ => Iff.rfl) checks_triggerBaRsp⟩
    | updateScanParams => exact updateScanParams_iff hal_buf len
    | setPowerParams hw ignore_dtim => exact setPowerParams_iff hw ignore_dtim hal_buf len
    | featureCapsExchange => exact featureCapsExchange_iff hal_buf len
    | _ => exact ⟨fun _ => trivial, fun _ => .of_checks (fun _ => Iff.rfl) checks_rspStatus⟩

/-- A response of `wcn36xx_smd_set_power_params` that the firmware failed with
`WCN36XX_FW_MSG_RESULT_MEM_FAIL`, behind it zeros. -/
def failedPowerParams : HalBuf where
  bytes := (initHalMsg HalReq.SET_POWER_PARAMS.rspType 12).bytes ++ leBytes 5 ++ zeros 4084
  length_eq := by
    rw [List.length_append, zeros, List.length_replicate]
    rfl

/-- `wcn36xx_smd_set_power_params` takes a failure for success. -/
theorem successMeansGood_fails_on_power_params :
    ¬SuccessMeansGood (.request (.setPowerParams {} true)) failedPowerParams 12 := by
  intro h
  have hstatus : field (failedPowerParams.bytes.take 12) 8 4 = 0 := (h.good rfl).2
  have htake : failedPowerParams.bytes.take 12 =
      (initHalMsg HalReq.SET_POWER_PARAMS.rspType 12).bytes ++ leBytes 5 := by
    unfold failedPowerParams
    exact List.take_left' rfl
  rw [htake] at hstatus
  exact absurd hstatus (by decide)

/-! ## Responses in a run -/

/-- The response to a request is in `hal_buf` when the function reads it. -/
theorem smdCall_response {fw : Firmware} {r : SmdRequest} {smd : Smd} {hal_buf : HalBuf} {len : ℕ}
    {msg rsp : List Byte} (hcompose : r.fn.compose smd.hal_buf = some (.ready hal_buf len))
    (hmsg : hal_buf.read len = some msg) (hfw : fw (smd.sent ++ [msg]) = .response rsp)
    (hlen : rsp.length ≤ WCN36XX_HAL_BUF_SIZE) :
    ∃ smd', smdCall fw (.request r) smd =
        some (smd', (SmdCall.request r).rsp smd'.hal_buf.bytes rsp.length) ∧
      smd'.hal_buf.bytes.take rsp.length = rsp ∧ smd'.sent = smd.sent ++ [msg] := by
  obtain ⟨hal_buf', hwrite, hbytes⟩ := hal_buf.write_of_le 0 rsp (by omega)
  refine ⟨{ smd with hal_buf := hal_buf', hal_rsp_len := rsp.length, sent := smd.sent ++ [msg] },
    ?_, ?_, rfl⟩
  · simp only [smdCall, hcompose, smdSendAndWait, hmsg, hfw, hwrite, Option.bind_eq_bind,
      Option.bind_some, Option.pure_def, ne_eq, not_true_eq_false, if_false]
    rfl
  · rw [hbytes, List.take_zero, List.nil_append, List.take_left]

/-- When `wcn36xx_smd_send_and_wait` returns 0, the firmware has sent a response and it is in
`hal_buf`. -/
theorem smdSendAndWait_zero {fw : Firmware} {smd smd' : Smd} {len : ℕ}
    (h : smdSendAndWait fw smd len = some (smd', 0)) : ∃ msg rsp,
      smd'.sent = smd.sent ++ [msg] ∧ fw smd'.sent = .response rsp ∧
      smd'.hal_rsp_len = rsp.length ∧ smd'.hal_buf.bytes.take rsp.length = rsp := by
  obtain ⟨msg, hmsg, h⟩ := Option.bind_eq_some_iff.mp h
  dsimp only at h
  cases hfw : fw (smd.sent ++ [msg]) with
  | txError ret ne =>
    rw [hfw] at h
    cases h
    exact absurd rfl ne
  | timeout =>
    rw [hfw] at h
    cases h
  | response rsp =>
    rw [hfw] at h
    obtain ⟨hal_buf, hwrite, h⟩ := Option.bind_eq_some_iff.mp h
    cases h
    obtain ⟨-, hbytes⟩ := HalBuf.bytes_of_write hwrite
    refine ⟨msg, rsp, rfl, hfw, rfl, ?_⟩
    rw [hbytes, List.take_zero, List.nil_append, List.take_left]

/-- A response that passes the check of `wcn36xx_smd_load_nv` is a good one. -/
theorem goodRsp_of_check {smd : Smd} {rsp : List Byte} (rf : ℤ ⊕ List Byte)
    (hlen : smd.hal_rsp_len = rsp.length) (htake : smd.hal_buf.bytes.take rsp.length = rsp)
    (hcheck : smdRspStatusCheck smd.hal_buf.bytes smd.hal_rsp_len = 0) :
    (SmdCall.loadNv rf).GoodRsp rsp := by
  obtain ⟨hle, hstatus⟩ := smdRspStatusCheck_eq_zero hcheck
  rw [hlen] at hle
  refine ⟨hle, ?_⟩
  have hsame : rsp.take rsp.length = smd.hal_buf.bytes.take rsp.length := by
    rw [List.take_length, htake]
  exact (field_of_take_eq hsame hle).trans hstatus

/-- When `wcn36xx_smd_load_nv` returns 0, the response to each of its messages was a good one. The
induction is on the number of iterations that are still allowed. -/
theorem smdLoadNvLoop_good {fw : Firmware} {nv : List Byte} (rf : ℤ ⊕ List Byte) (fuel : ℕ) :
    ∀ (msg_body : NvImgDownloadReqMsg) (fm_offset : BitVec 16) (smd smd' : Smd),
      smdLoadNvLoop fw nv fuel msg_body fm_offset smd = some (smd', 0) →
      ∃ msgs, smd'.sent = smd.sent ++ msgs ∧ ∀ k < msgs.length, ∃ rsp,
        fw (smd.sent ++ msgs.take (k + 1)) = .response rsp ∧ (SmdCall.loadNv rf).GoodRsp rsp := by
  induction fuel with
  | zero =>
    intro _ _ _ _ h
    cases h
  | succ fuel ih =>
    intro msg_body fm_offset smd smd' h
    unfold smdLoadNvLoop at h
    dsimp only at h
    obtain ⟨buf₁, -, h⟩ := Option.bind_eq_some_iff.mp h
    obtain ⟨body, -, h⟩ := Option.bind_eq_some_iff.mp h
    obtain ⟨buf₂, -, h⟩ := Option.bind_eq_some_iff.mp h
    obtain ⟨⟨smd₁, ret⟩, hsend, h⟩ := Option.bind_eq_some_iff.mp h
    dsimp only at h
    by_cases hret : ret = 0
    · obtain ⟨msg, rsp, hsent, hfw, hlen, htake⟩ := smdSendAndWait_zero (hret ▸ hsend)
      rw [if_neg (not_not.mpr hret)] at h
      split_ifs at h with hcheck hlast
      · exact absurd (Prod.mk.inj (Option.some.inj h)).2 hcheck
      · -- One more fragment, and the rest by induction.
        obtain ⟨msgs, hmsgs, hgood⟩ := ih _ _ _ _ h
        rw [hsent, List.append_assoc, List.singleton_append] at hmsgs
        refine ⟨msg :: msgs, hmsgs, fun k hk => ?_⟩
        cases k with
        | zero => exact ⟨rsp, hsent ▸ hfw, goodRsp_of_check rf hlen htake (not_not.mp hcheck)⟩
        | succ k =>
          obtain ⟨rsp', hfw', hgood'⟩ := hgood k (Nat.lt_of_succ_lt_succ hk)
          rw [hsent, List.append_assoc, List.singleton_append] at hfw'
          exact ⟨rsp', hfw', hgood'⟩
      · cases h
        refine ⟨[msg], hsent, fun k hk => ?_⟩
        obtain rfl : k = 0 := Nat.lt_one_iff.mp hk
        exact ⟨rsp, hsent ▸ hfw, goodRsp_of_check rf hlen htake (not_not.mp hcheck)⟩
    · rw [if_pos hret] at h
      exact absurd (Prod.mk.inj (Option.some.inj h)).2 hret

end Wcn36xx
