import Wcn36xx.Mac.Keys
import Wcn36xx.Smd.Beacon

/-!
# Key messages

A key is installed by a `WCN36XX_HAL_SET_STAKEY_REQ` or a `WCN36XX_HAL_SET_BSSKEY_REQ`, by both if it is a
WEP group key, and removed by a `WCN36XX_HAL_RMV_STAKEY_REQ` or a `WCN36XX_HAL_RMV_BSSKEY_REQ`. Here the
messages are read as the firmware reads them, at the offsets of the packed structures.

The messages of a run of `wcn36xx_set_key` agree with the keys and with each other as long as three things
do not happen: a WEP104 key goes out as one of WEP40; a group key is removed with
`WCN36XX_HAL_ED_NONE`, since the call has just cleared `encrypt_type`; and in station mode the index of the
station may have become another one, since installing a pairwise key configures the BSS again.
-/

namespace Wcn36xx

open Support (System)

/-! ## What the messages carry -/

/-- The fields of a key message. -/
structure HalKeyMsg where
  keyidx : ℕ
  enc_type : ℕ
  /-- Only in a message for a station. -/
  sta_index : Option ℕ
  /-- Only in a message that sets a key. -/
  key : Option (List Byte)
  deriving DecidableEq

/-- The key in a `struct wcn36xx_hal_keys` at an offset: `length` bytes. -/
def halKey (msg : List Byte) (offset : ℕ) : List Byte :=
  (msg.drop (offset + 25)).take (field msg (offset + 23) 2)

/-- Read a key message. -/
def HalKeyMsg.read (msg : List Byte) : Option HalKeyMsg :=
  if msgType msg = HalReq.SET_STAKEY.reqType then
    some ⟨field msg 19 1, field msg 10 4, some (field msg 8 2), some (halKey msg 19)⟩
  else if msgType msg = HalReq.SET_BSSKEY.reqType then
    some ⟨field msg 14 1, field msg 9 4, none, some (halKey msg 14)⟩
  else if msgType msg = HalReq.RMV_STAKEY.reqType then
    some ⟨field msg 14 1, field msg 10 4, some (field msg 8 2), none⟩
  else if msgType msg = HalReq.RMV_BSSKEY.reqType then
    some ⟨field msg 13 1, field msg 9 4, none, none⟩
  else none

/-- A byte reads back. -/
@[simp]
theorem readLe_singleton (b : Byte) : readLe [b] = b.toNat := by
  rw [readLe, readLe, Nat.mul_zero, Nat.add_zero]

/-- A field behind the first part of a message. -/
theorem field_skip (pre rest : List Byte) {k offset n : ℕ} (hpre : pre.length = k) :
    field (pre ++ rest) (k + offset) n = field rest offset n := by
  rw [field, field, ← hpre, List.drop_length_add_append]

/-- A `struct wcn36xx_hal_keys` behind the first part of a message. -/
theorem read_keysBytes {pre post key : List Byte} {offset : ℕ} (hpre : pre.length = offset)
    (id unicast : Byte) (direction : BitVec 32) (pae_role : Byte)
    {keys : Vector Byte WCN36XX_HAL_MAC_MAX_KEY_LENGTH}
    (hkeys : memcpyTo WCN36XX_HAL_MAC_MAX_KEY_LENGTH key = some keys) {msg : List Byte}
    (hmsg : msg = pre ++
      (keysBytes id unicast direction pae_role (BitVec.ofNat 16 key.length) keys ++ post)) :
    field msg offset 1 = id.toNat ∧ halKey msg offset = key := by
  have hlen : key.length ≤ WCN36XX_HAL_MAC_MAX_KEY_LENGTH := (Option.ite_none_right_eq_some.mp hkeys).1
  have hmax : WCN36XX_HAL_MAC_MAX_KEY_LENGTH = 32 := rfl
  -- The bytes before `length`, and those behind the key.
  obtain ⟨front, hfront⟩ : ∃ front, front = [unicast] ++ leBytes direction ++ zeros 16 ++ [pae_role] :=
    ⟨_, rfl⟩
  obtain ⟨rest, hrest⟩ : ∃ rest, rest =
    zeros (WCN36XX_HAL_MAC_MAX_KEY_LENGTH - key.length) ++ zeros (3 * 57) ++ post := ⟨_, rfl⟩
  have hsplit : msg =
      pre ++ ([id] ++ (front ++ (leBytes16 (BitVec.ofNat 16 key.length) ++ (key ++ rest)))) := by
    rw [hmsg, keysBytes, memcpyTo_toList hkeys, hfront, hrest]
    simp only [List.append_assoc, List.cons_append, List.nil_append]
  have hfrontlen : front.length = 22 := by rw [hfront]; rfl
  have hlength : field msg (offset + 23) 2 = key.length := by
    have hassoc : msg =
        pre ++ ([id] ++ front) ++ (leBytes16 (BitVec.ofNat 16 key.length) ++ (key ++ rest)) := by
      rw [hsplit, List.append_assoc, List.append_assoc]
    rw [hassoc, @field_append _ _ _ (offset + 23) 2 (by simp [hpre, hfrontlen]) rfl,
      readLe_leBytes16, BitVec.toNat_ofNat, Nat.mod_eq_of_lt (by omega)]
  constructor
  · rw [hsplit, @field_append pre [id] _ offset 1 hpre rfl, readLe_singleton]
  · have hassoc : msg = (pre ++ ([id] ++ front) ++ leBytes16 (BitVec.ofNat 16 key.length)) ++
        (key ++ rest) := by
      rw [hsplit]
      simp only [List.append_assoc]
    have hdrop : msg.drop (offset + 25) = key ++ rest := by
      rw [hassoc]
      exact List.drop_left' (by simp [hpre, hfrontlen])
    rw [halKey, hlength, hdrop, List.take_left]

namespace KeyOp

/-- The call of a function of smd.c that sends a key message. -/
def request : KeyOp → Option SmdRequest
  | .configBss _ => none
  | .setStakey enc_type keyidx key sta_index => some (.setStakey enc_type keyidx key sta_index)
  | .setBsskey enc_type keyidx key => some (.setBsskey enc_type keyidx key)
  | .removeStakey enc_type keyidx sta_index => some (.removeStakey enc_type keyidx sta_index)
  | .removeBsskey enc_type keyidx => some (.removeBsskey enc_type keyidx)

/-- That function. -/
def smdFn (op : KeyOp) : Option SmdFn := op.request.map SmdRequest.fn

/-- The request sends a key message that reads as `m`, whatever `hal_buf` holds. -/
def Sends (op : KeyOp) (m : HalKeyMsg) : Prop :=
  ∃ f msg, op.smdFn = some f ∧ Composes f.compose msg ∧ HalKeyMsg.read msg = some m

/-- A request sends one message. -/
theorem Sends.unique {op : KeyOp} {m m' : HalKeyMsg} (h : op.Sends m) (h' : op.Sends m') : m = m' := by
  obtain ⟨f, msg, hf, hmsg, hm⟩ := h
  obtain ⟨f', msg', hf', hmsg', hm'⟩ := h'
  obtain rfl : f = f' := Option.some.inj (hf.symm.trans hf')
  obtain rfl : msg = msg' := hmsg.unique hmsg'
  exact Option.some.inj (hm.symm.trans hm')

/-- A byte in a field of 16 bits. -/
theorem toNat_wide16 (b : Byte) : (wide16 b).toNat = b.toNat := by
  have hb := b.isLt
  rw [wide16, BitVec.toNat_setWidth, Nat.mod_eq_of_lt (by omega)]

/-- The message of a request that fills a structure of fixed size. -/
theorem sends_of_fixedMsg {op : KeyOp} {f : SmdFn} {req : HalReq} {body : List Byte} {m : HalKeyMsg}
    (hf : op.smdFn = some f) (hcompose : f.compose = fixedMsg req body)
    (hle : HalMsgHeader.size + body.length ≤ WCN36XX_HAL_BUF_SIZE)
    (hread : ∀ header : HalMsgHeader, header.msg_type = req.reqType →
      HalKeyMsg.read (header.bytes ++ body) = some m) : op.Sends m :=
  ⟨f, _, hf, hcompose ▸ (composes_fixedMsg req body hle).2, hread _ rfl⟩

/-- `wcn36xx_smd_set_stakey`. -/
theorem sends_setStakey (enc_type : AniEdType) (keyidx : Byte) {key : List Byte} (sta_index : Byte)
    (hlen : key.length ≤ WCN36XX_HAL_MAC_MAX_KEY_LENGTH) :
    (setStakey enc_type keyidx key sta_index).Sends
      ⟨keyidx.toNat, enc_type.num.toNat, some sta_index.toNat, some key⟩ := by
  obtain ⟨keys, hkeys⟩ := memcpyTo_of_le hlen
  obtain ⟨body, hbody⟩ : ∃ body, body = leBytes16 (wide16 sta_index) ++ leBytes enc_type.num ++
    leBytes 0 ++ [0] ++ keysBytes keyidx 1 2 0 (BitVec.ofNat 16 key.length) keys ++ [1] := ⟨_, rfl⟩
  refine @sends_of_fixedMsg _ (.setStakey enc_type keyidx key sta_index) .SET_STAKEY body _ rfl
    (funext fun hal_buf => ?_) ?_ fun header htype => ?_
  · rw [hbody]
    simp only [SmdFn.setStakey, hkeys, Option.bind_eq_bind, Option.bind_some]
  · rw [hbody]
    simp only [List.length_append, length_leBytes, length_leBytes16, length_keysBytes]
    decide
  · have hindex : field (header.bytes ++ body) 8 2 = sta_index.toNat := by
      rw [hbody]
      simp only [List.append_assoc]
      rw [@field_append header.bytes _ _ 8 2 rfl rfl, readLe_leBytes16, toNat_wide16]
    have htypeField : field (header.bytes ++ body) 10 4 = enc_type.num.toNat := by
      rw [hbody]
      simp only [List.append_assoc]
      rw [@field_skip header.bytes _ 8 2 4 rfl, @field_append (leBytes16 _) _ _ 2 4 rfl rfl,
        readLe_leBytes]
    obtain ⟨hid, hkey⟩ := @read_keysBytes (header.bytes ++ (leBytes16 (wide16 sta_index) ++
      leBytes enc_type.num ++ leBytes 0 ++ [0])) [1] key 19 rfl keyidx 1 2 0 keys hkeys
      (header.bytes ++ body) (by rw [hbody]; simp only [List.append_assoc])
    rw [HalKeyMsg.read, msgType_header, htype, if_pos rfl, hid, htypeField, hindex, hkey]

/-- `wcn36xx_smd_set_bsskey`. -/
theorem sends_setBsskey (enc_type : AniEdType) (keyidx : Byte) {key : List Byte}
    (hlen : key.length ≤ WCN36XX_HAL_MAC_MAX_KEY_LENGTH) :
    (setBsskey enc_type keyidx key).Sends ⟨keyidx.toNat, enc_type.num.toNat, none, some key⟩ := by
  obtain ⟨keys, hkeys⟩ := memcpyTo_of_le hlen
  obtain ⟨body, hbody⟩ : ∃ body, body = [0] ++ leBytes enc_type.num ++ [1] ++
    keysBytes keyidx 0 1 0 (BitVec.ofNat 16 key.length) keys ++ [0] := ⟨_, rfl⟩
  refine @sends_of_fixedMsg _ (.setBsskey enc_type keyidx key) .SET_BSSKEY body _ rfl
    (funext fun hal_buf => ?_) ?_ fun header htype => ?_
  · rw [hbody]
    simp only [SmdFn.setBsskey, hkeys, Option.bind_eq_bind, Option.bind_some]
  · rw [hbody]
    simp only [List.length_append, length_leBytes, length_keysBytes]
    decide
  · have htypeField : field (header.bytes ++ body) 9 4 = enc_type.num.toNat := by
      rw [hbody]
      simp only [List.append_assoc]
      rw [@field_skip header.bytes _ 8 1 4 rfl, @field_append [0] _ _ 1 4 rfl rfl, readLe_leBytes]
    obtain ⟨hid, hkey⟩ := @read_keysBytes (header.bytes ++ ([0] ++ leBytes enc_type.num ++ [1])) [0]
      key 14 rfl keyidx 0 1 0 keys hkeys (header.bytes ++ body)
      (by rw [hbody]; simp only [List.append_assoc])
    rw [HalKeyMsg.read, msgType_header, htype, if_neg (by decide), if_pos rfl, hid, htypeField, hkey]

/-- `wcn36xx_smd_remove_stakey`. -/
theorem sends_removeStakey (enc_type : AniEdType) (keyidx sta_index : Byte) :
    (removeStakey enc_type keyidx sta_index).Sends
      ⟨keyidx.toNat, enc_type.num.toNat, some sta_index.toNat, none⟩ := by
  refine sends_of_fixedMsg rfl rfl ?_ fun header htype => ?_
  · simp only [List.length_append, List.length_cons, List.length_nil, length_leBytes,
      length_leBytes16]
    decide
  · have hid : field (leBytes enc_type.num ++ [keyidx, 0]) 4 1 = keyidx.toNat :=
      (@field_append (leBytes _) [keyidx] [0] 4 1 rfl rfl).trans (readLe_singleton keyidx)
    rw [HalKeyMsg.read, msgType_header, htype, if_neg (by decide), if_neg (by decide), if_pos rfl]
    simp only [List.append_assoc]
    rw [@field_append header.bytes _ _ 8 2 rfl rfl, readLe_leBytes16, toNat_wide16,
      @field_skip header.bytes _ 8 2 4 rfl, @field_append (leBytes16 _) _ _ 2 4 rfl rfl,
      readLe_leBytes, @field_skip header.bytes _ 8 6 1 rfl, @field_skip (leBytes16 _) _ 2 4 1 rfl, hid]

/-- `wcn36xx_smd_remove_bsskey`. -/
theorem sends_removeBsskey (enc_type : AniEdType) (keyidx : Byte) :
    (removeBsskey enc_type keyidx).Sends ⟨keyidx.toNat, enc_type.num.toNat, none, none⟩ := by
  refine sends_of_fixedMsg rfl rfl ?_ fun header htype => ?_
  · simp only [List.length_append, List.length_cons, List.length_nil, length_leBytes]
    decide
  · rw [HalKeyMsg.read, msgType_header, htype, if_neg (by decide), if_neg (by decide),
      if_neg (by decide), if_pos rfl]
    simp only [List.append_assoc]
    rw [@field_skip header.bytes _ 8 1 4 rfl, @field_append [0] _ _ 1 4 rfl rfl, readLe_leBytes,
      @field_skip header.bytes _ 8 5 1 rfl, @field_skip [0] _ 1 4 1 rfl,
      @field_append (leBytes _) [keyidx] _ 4 1 rfl rfl, readLe_singleton]

end KeyOp

/-! ## The requests of a call -/

namespace KeyConf

variable (conf : KeyConf)

/-- The encryption type of the cipher. -/
def edType : Option AniEdType :=
  if conf.cipher = WLAN_CIPHER_SUITE_WEP40 then some .WEP40
  else if conf.cipher = WLAN_CIPHER_SUITE_WEP104 then some .WEP104
  else if conf.cipher = WLAN_CIPHER_SUITE_TKIP then some .TKIP
  else if conf.cipher = WLAN_CIPHER_SUITE_CCMP then some .CCMP
  else none

/-- The key that is configured; in one for TKIP the two halves of the MIC key are exchanged. -/
def hwKey : List Byte :=
  if conf.cipher = WLAN_CIPHER_SUITE_TKIP then
    conf.key.take 16 ++ (conf.key.drop 24).take 8 ++ (conf.key.drop 16).take 8
  else conf.key

/-- The requests with key messages that install a key. -/
def installOps (enc_type : AniEdType) (sta_index : Byte) : List KeyOp :=
  if conf.pairwise then [.setStakey enc_type conf.keyidx conf.hwKey sta_index]
  else .setBsskey enc_type conf.keyidx conf.hwKey ::
    if conf.isWep then [.setStakey enc_type conf.keyidx conf.hwKey sta_index] else []

variable {conf}

/-- A pairwise key. -/
theorem installOps_pairwise (h : conf.pairwise = true) (enc_type : AniEdType) (sta_index : Byte) :
    conf.installOps enc_type sta_index =
      [.setStakey enc_type conf.keyidx conf.hwKey sta_index] := if_pos h

/-- A WEP group key. -/
theorem installOps_wep (h : conf.pairwise = false) (hwep : conf.isWep = true) (enc_type : AniEdType)
    (sta_index : Byte) :
    conf.installOps enc_type sta_index = [.setBsskey enc_type conf.keyidx conf.hwKey,
      .setStakey enc_type conf.keyidx conf.hwKey sta_index] := by
  rw [installOps, h, if_neg Bool.false_ne_true, if_pos hwep]

/-- Another group key. -/
theorem installOps_group (h : conf.pairwise = false) (hwep : conf.isWep = false)
    (enc_type : AniEdType) (sta_index : Byte) :
    conf.installOps enc_type sta_index = [.setBsskey enc_type conf.keyidx conf.hwKey] := by
  rw [installOps, h, if_neg Bool.false_ne_true, hwep, if_neg Bool.false_ne_true]

/-- The cipher of a key that is sent as one of TKIP. -/
theorem encryptType_eq_tkip_iff : conf.encryptType = some .TKIP ↔ conf.cipher = WLAN_CIPHER_SUITE_TKIP := by
  unfold encryptType
  constructor
  · intro h
    split_ifs at h with h40 h104 hccmp htkip
    · cases h
    · cases h
    · cases h
    · exact htkip
  · intro h
    rw [h]
    decide

/-- The type that is sent is the one of the cipher, but for WEP104. -/
theorem encryptType_eq_edType_iff {enc_type : AniEdType} (h : conf.encryptType = some enc_type) :
    conf.edType = some enc_type ↔ conf.cipher ≠ WLAN_CIPHER_SUITE_WEP104 := by
  unfold encryptType at h
  unfold edType
  split_ifs at h with h40 h104 hccmp htkip
  · rw [if_pos h40, ← h, h40]
    decide
  · rw [if_neg h40, if_pos h104, ← h, h104]
    decide
  · rw [hccmp, ← h]
    decide
  · rw [htkip, ← h]
    decide

/-- The copy of the key. -/
theorem eq_hwKey_of_copyKey {enc_type : AniEdType} (htype : conf.encryptType = some enc_type)
    {key : List Byte} (h : conf.copyKey enc_type = some key) :
    key = conf.hwKey ∧ key.length ≤ WCN36XX_HAL_MAC_MAX_KEY_LENGTH := by
  unfold copyKey at h
  unfold hwKey
  split_ifs at h with htkip hfull hlen
  · rw [htkip] at htype
    rw [if_pos (encryptType_eq_tkip_iff.mp htype), ← Option.some.inj h]
    refine ⟨rfl, ?_⟩
    simp only [List.length_append, List.length_take, List.length_drop, hfull]
    decide
  · have hcipher : conf.cipher ≠ WLAN_CIPHER_SUITE_TKIP := by
      intro hcipher
      rw [encryptType_eq_tkip_iff.mpr hcipher, Option.some.injEq] at htype
      exact htkip htype.symm
    rw [if_neg hcipher, ← Option.some.inj h]
    exact ⟨rfl, hlen⟩

end KeyConf

/-- The requests with key messages. -/
def keyRequests (ops : List KeyOp) : List KeyOp := ops.filter fun op => op.smdFn.isSome

/-- `get_sta_index` of a station that `wcn36xx_set_key` may be called with. -/
def MacConf.staIndex (mac : MacConf) (vif : ℕ) (sta : Option ℕ) : Option Byte := do
  let priv ← mac.vif vif
  let sta ← sta
  let sta_priv ← mac.sta sta
  return getStaIndex priv sta_priv

section Calls

variable {mac mac' : MacConf} {vif : ℕ} {sta : Option ℕ} {aid : BitVec 16} {conf : KeyConf}
  {rsp : Option ConfigBssRsp} {ops : List KeyOp} {ret : ℤ}

/-- A call that installs a key. -/
theorem setKey_install (h : setKey mac .SET_KEY vif sta aid conf rsp = some (mac', ops, ret)) :
    (conf.encryptType = none ∧ ret ≠ 0 ∧ mac' = mac ∧ ops = []) ∨
      ∃ enc_type sta_index, conf.encryptType = some enc_type ∧ ret = 0 ∧
        conf.hwKey.length ≤ WCN36XX_HAL_MAC_MAX_KEY_LENGTH ∧
        keyRequests ops = conf.installOps enc_type sta_index := by
  unfold setKey at h
  simp only [Option.bind_eq_bind, Option.pure_def] at h
  obtain ⟨priv, -, h⟩ := Option.bind_eq_some_iff.mp h
  cases htype : conf.encryptType with
  | none =>
    rw [htype, Option.some.injEq, Prod.mk.injEq, Prod.mk.injEq] at h
    rw [← h.2.2]
    exact .inl ⟨rfl, by decide, h.1.symm, h.2.1.symm⟩
  | some enc_type =>
    rw [htype] at h
    obtain ⟨key, hkey, h⟩ := Option.bind_eq_some_iff.mp h
    obtain ⟨rfl, hlen⟩ := KeyConf.eq_hwKey_of_copyKey htype hkey
    split_ifs at h with hpairwise hmode hwep
    · obtain ⟨S, -, h⟩ := Option.bind_eq_some_iff.mp h
      obtain ⟨s, -, h⟩ := Option.bind_eq_some_iff.mp h
      rw [Option.some.injEq, Prod.mk.injEq, Prod.mk.injEq] at h
      rw [← h.2.1, ← h.2.2]
      exact .inr ⟨enc_type, _, rfl, rfl, hlen,
        Eq.trans rfl (KeyConf.installOps_pairwise hpairwise enc_type _).symm⟩
    · obtain ⟨S, -, h⟩ := Option.bind_eq_some_iff.mp h
      obtain ⟨s, -, h⟩ := Option.bind_eq_some_iff.mp h
      rw [Option.some.injEq, Prod.mk.injEq, Prod.mk.injEq] at h
      rw [← h.2.1, ← h.2.2]
      exact .inr ⟨enc_type, _, rfl, rfl, hlen,
        Eq.trans rfl (KeyConf.installOps_pairwise hpairwise enc_type _).symm⟩
    · obtain ⟨S, -, h⟩ := Option.bind_eq_some_iff.mp h
      obtain ⟨s, -, h⟩ := Option.bind_eq_some_iff.mp h
      rw [Option.some.injEq, Prod.mk.injEq, Prod.mk.injEq] at h
      rw [← h.2.1, ← h.2.2]
      exact .inr ⟨enc_type, _, rfl, rfl, hlen,
        Eq.trans rfl (KeyConf.installOps_wep (Bool.eq_false_of_not_eq_true hpairwise) hwep
          enc_type _).symm⟩
    · rw [Option.some.injEq, Prod.mk.injEq, Prod.mk.injEq] at h
      rw [← h.2.1, ← h.2.2]
      exact .inr ⟨enc_type, 0, rfl, rfl, hlen,
        Eq.trans rfl (KeyConf.installOps_group (Bool.eq_false_of_not_eq_true hpairwise)
          (Bool.eq_false_of_not_eq_true hwep) enc_type 0).symm⟩

/-- A call that removes a key. -/
theorem setKey_remove (h : setKey mac .DISABLE_KEY vif sta aid conf rsp = some (mac', ops, ret))
    {enc_type : AniEdType} (htype : conf.encryptType = some enc_type) :
    (conf.pairwise = false ∧ ops = [.removeBsskey .NONE conf.keyidx]) ∨
      (conf.pairwise = true ∧ aid = 0 ∧ ops = []) ∨
      ∃ sta_index, conf.pairwise = true ∧ aid ≠ 0 ∧ mac.staIndex vif sta = some sta_index ∧
        ops = [.removeStakey enc_type conf.keyidx sta_index] := by
  unfold setKey at h
  simp only [Option.bind_eq_bind, Option.pure_def, htype] at h
  obtain ⟨priv, hpriv, h⟩ := Option.bind_eq_some_iff.mp h
  cases hpairwise : conf.pairwise with
  | false =>
    rw [hpairwise, if_pos (by decide), Option.some.injEq, Prod.mk.injEq, Prod.mk.injEq] at h
    exact .inl ⟨rfl, h.2.1.symm⟩
  | true =>
    rw [hpairwise, if_neg (by decide)] at h
    obtain ⟨S, hS, h⟩ := Option.bind_eq_some_iff.mp h
    obtain ⟨s, hs, h⟩ := Option.bind_eq_some_iff.mp h
    rw [Option.some.injEq, Prod.mk.injEq, Prod.mk.injEq] at h
    by_cases haid : aid = 0
    · rw [if_neg (not_not.mpr haid)] at h
      exact .inr (.inl ⟨rfl, haid, h.2.1.symm⟩)
    · rw [if_pos haid] at h
      refine .inr (.inr ⟨_, rfl, haid, ?_, h.2.1.symm⟩)
      simp only [MacConf.staIndex, hpriv, hS, hs, Option.bind_eq_bind, Option.bind_some,
        Option.pure_def]
      rfl

end Calls

/-! ## Runs of `wcn36xx_set_key` -/

/-- A key that has been installed: what it was installed with, and the requests that installed it. -/
structure UsedKey where
  vif : ℕ
  sta : Option ℕ
  conf : KeyConf
  sent : List KeyOp

/-- What calls of `wcn36xx_set_key` have sent. -/
inductive KeyNote where
  | installed (key : UsedKey)
  | removed (key : UsedKey) (sent : List KeyOp)

/-- The stations and interfaces, the keys that are installed, by the address of their
`struct ieee80211_key_conf`, and what was sent so far. -/
structure KeyMsgWorld where
  mac : MacConf
  keys : ℕ → Option UsedKey := fun _ => none
  hist : List KeyNote := []

/-- The calls of `wcn36xx_set_key`. -/
inductive KeyCall where
  /-- `SET_KEY`. -/
  | install (key vif : ℕ) (sta : Option ℕ) (aid : BitVec 16) (conf : KeyConf)
      (rsp : Option ConfigBssRsp)
  /-- `DISABLE_KEY` of a key that is installed. -/
  | remove (key : ℕ) (aid : BitVec 16)

/-- The world after a key has been installed. -/
def KeyMsgWorld.install (w : KeyMsgWorld) (mac : MacConf) (k : ℕ) (key : UsedKey) : KeyMsgWorld where
  mac := mac
  keys := Function.update w.keys k (some key)
  hist := .installed key :: w.hist

/-- The world after a key has been removed. -/
def KeyMsgWorld.remove (w : KeyMsgWorld) (mac : MacConf) (k : ℕ) (key : UsedKey)
    (sent : List KeyOp) : KeyMsgWorld where
  mac := mac
  keys := Function.update w.keys k none
  hist := .removed key sent :: w.hist

/-- The calls as a transition system. mac80211 removes a key with what it has installed it with, and only
one whose installation has returned 0. -/
def keyMsgSystem : System KeyMsgWorld KeyCall where
  init w := w.keys = (fun _ => none) ∧ w.hist = []
  step w
    | .install k vif sta aid conf rsp => do
      let (mac, ops, ret) ← setKey w.mac .SET_KEY vif sta aid conf rsp
      if (w.keys k).isSome then none
      else if ret ≠ 0 then return { w with mac := mac }
      else return w.install mac k ⟨vif, sta, conf, keyRequests ops⟩
    | .remove k aid => do
      let key ← w.keys k
      let (mac, ops, _) ← setKey w.mac .DISABLE_KEY key.vif key.sta aid key.conf none
      return w.remove mac k key (keyRequests ops)

/-- The message says what the key is. -/
structure KeyConf.Describes (conf : KeyConf) (m : HalKeyMsg) : Prop where
  keyidx : m.keyidx = conf.keyidx.toNat
  enc_type : ∃ enc_type, conf.edType = some enc_type ∧ m.enc_type = enc_type.num.toNat
  key : m.key = some conf.hwKey

/-- A message that removes a key fits the one that has installed it. -/
structure HalKeyMsg.Undoes (m set : HalKeyMsg) : Prop where
  keyidx : m.keyidx = set.keyidx
  enc_type : m.enc_type = set.enc_type
  sta_index : m.sta_index = set.sta_index

/-- The messages of a call agree with the key, and with the ones that have installed it. -/
def KeyNote.Agrees : KeyNote → Prop
  | .installed key => key.sent ≠ [] ∧ ∀ op ∈ key.sent, ∃ m, op.Sends m ∧ key.conf.Describes m
  | .removed key sent =>
    ∀ op ∈ sent, ∃ m, op.Sends m ∧ ∃ op' ∈ key.sent, ∃ set, op'.Sends set ∧ m.Undoes set

/-- All messages so far agree. -/
def KeyMsgWorld.Agrees (w : KeyMsgWorld) : Prop := ∀ note ∈ w.hist, note.Agrees

/-- The station index in the message that has installed a key, if there was one for a station. -/
def UsedKey.staIndex (key : UsedKey) : Option Byte :=
  key.sent.findSome? fun
    | .setStakey _ _ _ sta_index => some sta_index
    | _ => none

/-- No WEP104 key is installed, and no group key removed; and a pairwise key is removed without a message,
or when its station still has the index with which it was installed. -/
def keepsAgreement (w : KeyMsgWorld) : KeyCall → Bool
  | .install _ _ _ _ conf _ => conf.cipher != WLAN_CIPHER_SUITE_WEP104
  | .remove k aid => (w.keys k).all fun key => key.conf.pairwise &&
      (aid == 0 || w.mac.staIndex key.vif key.sta == key.staIndex)

/-! ## One call -/

/-- A key that is installed was installed by the requests of a call that returned 0. -/
def UsedKey.Installed (key : UsedKey) : Prop :=
  ∃ enc_type sta_index, key.conf.encryptType = some enc_type ∧
    key.conf.hwKey.length ≤ WCN36XX_HAL_MAC_MAX_KEY_LENGTH ∧
    key.sent = key.conf.installOps enc_type sta_index

/-- The requests that install a key. -/
theorem mem_installOps {conf : KeyConf} {enc_type : AniEdType} {sta_index : Byte} {op : KeyOp}
    (hop : op ∈ conf.installOps enc_type sta_index) :
    op = .setStakey enc_type conf.keyidx conf.hwKey sta_index ∨
      op = .setBsskey enc_type conf.keyidx conf.hwKey := by
  unfold KeyConf.installOps at hop
  split_ifs at hop <;> simp at hop <;> tauto

/-- The messages that install a key. -/
theorem sends_installOps {conf : KeyConf} (hlen : conf.hwKey.length ≤ WCN36XX_HAL_MAC_MAX_KEY_LENGTH)
    {enc_type : AniEdType} {sta_index : Byte} {op : KeyOp}
    (hop : op ∈ conf.installOps enc_type sta_index) :
    ∃ index, op.Sends ⟨conf.keyidx.toNat, enc_type.num.toNat, index, some conf.hwKey⟩ := by
  rcases mem_installOps hop with rfl | rfl
  · exact ⟨_, KeyOp.sends_setStakey enc_type conf.keyidx sta_index hlen⟩
  · exact ⟨_, KeyOp.sends_setBsskey enc_type conf.keyidx hlen⟩

/-- There is one. -/
theorem installOps_ne_nil (conf : KeyConf) (enc_type : AniEdType) (sta_index : Byte) :
    conf.installOps enc_type sta_index ≠ [] := by
  unfold KeyConf.installOps
  split_ifs <;> exact List.cons_ne_nil _ _

/-- The numbers of the types differ. -/
theorem AniEdType.num_injective : Function.Injective AniEdType.num := by
  intro a b h
  cases a <;> cases b <;> first | rfl | cases h

/-- The messages that install a key describe it unless it is one for WEP104. -/
theorem agrees_installed_iff {key : UsedKey} (h : key.Installed) :
    (KeyNote.installed key).Agrees ↔ key.conf.cipher ≠ WLAN_CIPHER_SUITE_WEP104 := by
  obtain ⟨enc_type, sta_index, htype, hlen, hsent⟩ := h
  rw [← KeyConf.encryptType_eq_edType_iff htype, KeyNote.Agrees, hsent]
  constructor
  · rintro ⟨hne, hall⟩
    obtain ⟨op, hop⟩ := List.exists_mem_of_ne_nil _ hne
    obtain ⟨m, hm, hdescribes⟩ := hall op hop
    obtain ⟨index, hsends⟩ := sends_installOps hlen hop
    rw [hm.unique hsends] at hdescribes
    obtain ⟨ed_type, hed, hnum⟩ := hdescribes.enc_type
    rw [hed, AniEdType.num_injective (BitVec.eq_of_toNat_eq hnum)]
  · intro hed
    refine ⟨installOps_ne_nil _ _ _, fun op hop => ?_⟩
    obtain ⟨index, hsends⟩ := sends_installOps hlen hop
    exact ⟨_, hsends, rfl, ⟨enc_type, hed, rfl⟩, rfl⟩

section Removed

variable {key : UsedKey} {enc_type : AniEdType} {sta_index : Byte}
  (hlen : key.conf.hwKey.length ≤ WCN36XX_HAL_MAC_MAX_KEY_LENGTH)
  (hsent : key.sent = key.conf.installOps enc_type sta_index)
include hlen hsent

/-- The message that removes a group key says `WCN36XX_HAL_ED_NONE`, and no cipher has that type. -/
theorem not_agrees_removed_group (htype : key.conf.encryptType = some enc_type) :
    ¬(KeyNote.removed key [.removeBsskey .NONE key.conf.keyidx]).Agrees := by
  intro hall
  obtain ⟨m, hm, op, hop, set, hset, hundoes⟩ := hall _ List.mem_cons_self
  rw [hsent] at hop
  obtain ⟨index, hsends⟩ := sends_installOps hlen hop
  have hnum := hundoes.enc_type
  rw [hm.unique (KeyOp.sends_removeBsskey .NONE key.conf.keyidx), hset.unique hsends] at hnum
  have hnone := AniEdType.num_injective (BitVec.eq_of_toNat_eq hnum)
  rw [← hnone] at htype
  unfold KeyConf.encryptType at htype
  split_ifs at htype <;> cases htype

/-- The message that removes a pairwise key fits the one that has installed it when the station has the
same index. -/
theorem agrees_removed_pairwise_iff (hpairwise : key.conf.pairwise = true) (index : Byte) :
    (KeyNote.removed key [.removeStakey enc_type key.conf.keyidx index]).Agrees ↔
      index = sta_index := by
  rw [KeyConf.installOps_pairwise hpairwise] at hsent
  have hrmv := KeyOp.sends_removeStakey enc_type key.conf.keyidx index
  have hstakey := KeyOp.sends_setStakey enc_type key.conf.keyidx sta_index hlen
  rw [KeyNote.Agrees, hsent]
  constructor
  · intro hall
    obtain ⟨m, hm, op, hop, set, hset, hundoes⟩ := hall _ List.mem_cons_self
    obtain rfl := List.mem_singleton.mp hop
    have hsame := hundoes.sta_index
    rw [hm.unique hrmv, hset.unique hstakey, Option.some.injEq] at hsame
    exact BitVec.eq_of_toNat_eq hsame
  · rintro rfl op hop
    obtain rfl := List.mem_singleton.mp hop
    exact ⟨_, hrmv, _, List.mem_cons_self, _, hstakey, rfl, rfl, rfl⟩

end Removed

/-- The messages that remove a key fit those that have installed it in two cases. -/
theorem agrees_removed_iff {w : KeyMsgWorld} {k : ℕ} {key : UsedKey} (hkey : w.keys k = some key)
    (h : key.Installed) {aid : BitVec 16} {rsp : Option ConfigBssRsp} {mac : MacConf}
    {ops : List KeyOp} {ret : ℤ}
    (hset : setKey w.mac .DISABLE_KEY key.vif key.sta aid key.conf rsp = some (mac, ops, ret)) :
    (KeyNote.removed key (keyRequests ops)).Agrees ↔ keepsAgreement w (.remove k aid) = true := by
  obtain ⟨enc_type, sta_index, htype, hlen, hsent⟩ := h
  rw [keepsAgreement, hkey, Option.all_some]
  rcases setKey_remove hset htype with ⟨hgroup, rfl⟩ | ⟨hpairwise, rfl, rfl⟩ |
    ⟨index, hpairwise, haid, hindex, rfl⟩
  · rw [hgroup, Bool.false_and]
    exact iff_of_false (not_agrees_removed_group hlen hsent htype) Bool.false_ne_true
  · -- The station is not associated any more, and no message is sent.
    rw [hpairwise, beq_self_eq_true, Bool.true_or, Bool.and_true]
    exact iff_of_true (fun op hop => by cases hop) rfl
  · rw [hpairwise, Bool.true_and, beq_eq_false_iff_ne.mpr haid, Bool.false_or, beq_iff_eq, hindex,
      UsedKey.staIndex, hsent, KeyConf.installOps_pairwise hpairwise]
    refine (agrees_removed_pairwise_iff hlen hsent hpairwise index).trans ?_
    exact Option.some_inj.symm

/-! ## All runs -/

namespace KeyMsgWorld

/-- The keys that are installed were installed by their requests. -/
def KeysInstalled (w : KeyMsgWorld) : Prop := ∀ k key, w.keys k = some key → key.Installed

/-- A new note. -/
theorem agrees_cons_iff {mac : MacConf} {keys : ℕ → Option UsedKey} {note : KeyNote}
    {w : KeyMsgWorld} : Agrees ⟨mac, keys, note :: w.hist⟩ ↔ w.Agrees ∧ note.Agrees := by
  unfold Agrees
  rw [List.forall_mem_cons]
  exact and_comm

variable {w w' : KeyMsgWorld} {e : KeyCall}

/-- What a call may do: nothing, for a cipher that is not supported; or one key is installed; or one is
removed. -/
theorem step_cases (h : keyMsgSystem.step w e = some w') :
    (∃ k vif sta aid conf rsp mac, e = .install k vif sta aid conf rsp ∧ conf.encryptType = none ∧
      w' = { w with mac := mac }) ∨
    (∃ k vif sta aid conf rsp mac key, e = .install k vif sta aid conf rsp ∧ key.conf = conf ∧
      key.Installed ∧ w' = w.install mac k key) ∨
    ∃ k aid key mac ops ret, e = .remove k aid ∧ w.keys k = some key ∧
      setKey w.mac .DISABLE_KEY key.vif key.sta aid key.conf none = some (mac, ops, ret) ∧
      w' = w.remove mac k key (keyRequests ops) := by
  cases e with
  | install k vif sta aid conf rsp =>
    simp only [keyMsgSystem, Option.bind_eq_bind, Option.pure_def] at h
    obtain ⟨⟨mac, ops, ret⟩, hset, h⟩ := Option.bind_eq_some_iff.mp h
    split_ifs at h with hused hret
    · rw [Option.some.injEq] at h
      rcases setKey_install hset with ⟨htype, -⟩ | ⟨-, -, -, hzero, -⟩
      · exact .inl ⟨k, vif, sta, aid, conf, rsp, mac, rfl, htype, h.symm⟩
      · exact absurd hzero hret
    · rw [Option.some.injEq] at h
      rcases setKey_install hset with ⟨-, hne, -, -⟩ | ⟨enc_type, index, htype, -, hlen, hops⟩
      · exact absurd hne hret
      · exact .inr (.inl ⟨k, vif, sta, aid, conf, rsp, mac, _, rfl, rfl,
          ⟨enc_type, index, htype, hlen, hops⟩, h.symm⟩)
  | remove k aid =>
    simp only [keyMsgSystem, Option.bind_eq_bind, Option.pure_def] at h
    obtain ⟨key, hkey, h⟩ := Option.bind_eq_some_iff.mp h
    obtain ⟨⟨mac, ops, ret⟩, hset, h⟩ := Option.bind_eq_some_iff.mp h
    rw [Option.some.injEq] at h
    exact .inr (.inr ⟨k, aid, key, mac, ops, ret, rfl, hkey, hset, h.symm⟩)

/-- In every run, each key that is installed was installed by its requests. -/
theorem keysInstalled_of_reachable (h : keyMsgSystem.Reachable w) : w.KeysInstalled := by
  refine h.invariant (fun w hw k key hkey => ?_) fun w e w' ih hstep k key hkey => ?_
  · rw [hw.1] at hkey
    cases hkey
  · rcases step_cases hstep with ⟨-, -, -, -, -, -, mac, -, -, rfl⟩ |
      ⟨k', -, -, -, -, -, mac, key', -, -, hinstalled, rfl⟩ |
      ⟨k', -, key', mac, ops, -, -, -, -, rfl⟩
    · exact ih k key hkey
    · change Function.update w.keys k' (some key') k = some key at hkey
      rcases eq_or_ne k k' with rfl | hne
      · rw [Function.update_self, Option.some.injEq] at hkey
        exact hkey ▸ hinstalled
      · rw [Function.update_of_ne hne] at hkey
        exact ih k key hkey
    · change Function.update w.keys k' none k = some key at hkey
      rcases eq_or_ne k k' with rfl | hne
      · rw [Function.update_self] at hkey
        cases hkey
      · rw [Function.update_of_ne hne] at hkey
        exact ih k key hkey

/-- After a call the messages agree exactly when they did so before it and the call keeps to the
condition. -/
theorem agrees_step_iff (hkeys : w.KeysInstalled) (h : keyMsgSystem.step w e = some w') :
    w'.Agrees ↔ w.Agrees ∧ keepsAgreement w e = true := by
  rcases step_cases h with ⟨k, vif, sta, aid, conf, rsp, mac, rfl, htype, rfl⟩ |
    ⟨k, vif, sta, aid, conf, rsp, mac, key, rfl, rfl, hinstalled, rfl⟩ |
    ⟨k, aid, key, mac, ops, ret, rfl, hkey, hset, rfl⟩
  · have hcipher : conf.cipher ≠ WLAN_CIPHER_SUITE_WEP104 := by
      intro hcipher
      rw [KeyConf.encryptType, hcipher] at htype
      cases htype
    rw [keepsAgreement, bne_iff_ne, and_iff_left hcipher]
    exact Iff.rfl
  · rw [keepsAgreement, bne_iff_ne, ← agrees_installed_iff hinstalled]
    exact agrees_cons_iff
  · rw [← agrees_removed_iff hkey (hkeys k key hkey) hset]
    exact agrees_cons_iff

/-- A call that does not keep to the condition sends a message that does not agree. -/
theorem not_agrees_of_step (h : keyMsgSystem.Reachable w) (hstep : keyMsgSystem.step w e = some w')
    (hbad : keepsAgreement w e = false) : ¬w'.Agrees := by
  intro hagrees
  have hkeeps := ((agrees_step_iff (keysInstalled_of_reachable h) hstep).mp hagrees).2
  rw [hbad] at hkeeps
  cases hkeeps

end KeyMsgWorld

/-- In every run of calls, all key messages agree with their keys and with each other exactly when each
call keeps to the condition: no WEP104 key is installed, no group key is removed, and no pairwise key is
removed under another station index. -/
theorem keyMessages_agree_iff {w₀ w : KeyMsgWorld} (hinit : keyMsgSystem.init w₀)
    {calls : List KeyCall} (hrun : keyMsgSystem.runFrom w₀ calls = some w) :
    w.Agrees ↔ keyMsgSystem.runWhen (fun w e => keepsAgreement w e = true) w₀ calls = some w := by
  have hnone : w₀.Agrees := by
    intro note hnote
    rw [hinit.2] at hnote
    cases hnote
  have hreach : keyMsgSystem.Reachable w₀ := .init hinit
  rw [hreach.runFrom_iff (fun w e w' h hstep =>
    KeyMsgWorld.agrees_step_iff (KeyMsgWorld.keysInstalled_of_reachable h) hstep) hrun,
    and_iff_right hnone]

/-- An access point's interface with one station, before the first key. -/
def noKeys : KeyMsgWorld where
  mac :=
    { vif := Function.update (fun _ => none) 1 (some { type := .AP, addr := [] })
      sta := Function.update (fun _ => none) 5 (some { sta_index := 3 }) }

/-- A group key of CCMP. -/
def ccmpGroup : KeyConf where
  cipher := WLAN_CIPHER_SUITE_CCMP
  key := List.replicate 16 0x5a

/-- A pairwise key of TKIP, of which all bytes differ. -/
def tkipPairwise : KeyConf where
  cipher := WLAN_CIPHER_SUITE_TKIP
  flags := IEEE80211_KEY_FLAG_PAIRWISE
  keyidx := 1
  key := (List.range 32).map (BitVec.ofNat 8)

/-- A pairwise key of WEP104. -/
def wep104Pairwise : KeyConf where
  cipher := WLAN_CIPHER_SUITE_WEP104
  flags := IEEE80211_KEY_FLAG_PAIRWISE
  key := List.replicate 13 0x5a

/-- A group key, and a pairwise one that is removed again. -/
theorem keyMessages_agree_iff_tkip : ∃ w : KeyMsgWorld, w.hist.length = 3 ∧ w.Agrees := by
  obtain ⟨w, hrun, hw⟩ : ∃ w, keyMsgSystem.runWhen (fun w e => keepsAgreement w e = true) noKeys
      [.install 10 1 none 0 ccmpGroup none, .install 11 1 (some 5) 1 tkipPairwise none,
        .remove 11 1] = some w ∧ decide (w.hist.length = 3) = true :=
    (Option.any_eq_true _ _).mp (by decide +kernel)
  exact ⟨w, of_decide_eq_true hw,
    (keyMessages_agree_iff ⟨rfl, rfl⟩ (System.runFrom_of_runWhen hrun)).mpr hrun⟩

/-- A pairwise key of WEP104 is installed; and a group key of CCMP is installed and removed. -/
theorem keyMessages_disagree :
    (∃ w, keyMsgSystem.runFrom noKeys [.install 10 1 (some 5) 1 wep104Pairwise none] = some w ∧
      ¬w.Agrees) ∧
    ∃ w, keyMsgSystem.runFrom noKeys [.install 10 1 none 0 ccmpGroup none, .remove 10 0] = some w ∧
      ¬w.Agrees := by
  have hinit : keyMsgSystem.Reachable noKeys := .init ⟨rfl, rfl⟩
  constructor
  · obtain ⟨w, hstep⟩ : ∃ w, keyMsgSystem.step noKeys
        (.install 10 1 (some 5) 1 wep104Pairwise none) = some w :=
      Option.isSome_iff_exists.mp (by decide +kernel)
    refine ⟨w, ?_, KeyMsgWorld.not_agrees_of_step hinit hstep rfl⟩
    rw [System.runFrom, hstep]
    rfl
  · obtain ⟨w₁, hfirst, hsecond⟩ : ∃ w₁, keyMsgSystem.step noKeys
        (.install 10 1 none 0 ccmpGroup none) = some w₁ ∧
        ((keyMsgSystem.step w₁ (.remove 10 0)).isSome && !keepsAgreement w₁ (.remove 10 0)) = true :=
      (Option.any_eq_true _ _).mp (by decide +kernel)
    obtain ⟨hstep, hbad⟩ := Bool.and_eq_true_iff.mp hsecond
    obtain ⟨w, hstep⟩ := Option.isSome_iff_exists.mp hstep
    rw [Bool.not_eq_true'] at hbad
    have hrun : keyMsgSystem.runFrom noKeys [.install 10 1 none 0 ccmpGroup none] = some w₁ := by
      rw [System.runFrom, hfirst]
      rfl
    refine ⟨w, ?_, KeyMsgWorld.not_agrees_of_step (hinit.runFrom hrun) hstep hbad⟩
    rw [System.runFrom, hfirst, Option.bind_some, System.runFrom, hstep]
    rfl

end Wcn36xx
