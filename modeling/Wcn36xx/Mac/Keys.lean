import Wcn36xx.Mac.Ampdu
import Wcn36xx.Mac.BssIndex
import Wcn36xx.Mac.StaIndex
import Wcn36xx.Txrx.SentBd

/-!
# Keys

`wcn36xx_set_key` installs and removes keys. Besides its requests to the firmware it keeps two things:
`encrypt_type` of the interface, which goes into later requests, and `is_data_encrypted` of a station, by
which `wcn36xx_set_tx_data` decides whether the device may encrypt a frame (`dpu_ne`).

`dpuNe_follows_keys` is about all runs of the callbacks: the bit in the BD of a data frame is what the last
key call for its station says. `restored_iff` is about installing keys and removing them again:
`encrypt_type` is written by every call for any key, and a WEP group key sets `is_data_encrypted` when it
is installed but does not clear it when it is removed.
-/

namespace Wcn36xx

open Support (System)

/-- `WLAN_CIPHER_SUITE_WEP40`. -/
def WLAN_CIPHER_SUITE_WEP40 : BitVec 32 := 0x000fac01
/-- `WLAN_CIPHER_SUITE_TKIP`. -/
def WLAN_CIPHER_SUITE_TKIP : BitVec 32 := 0x000fac02
/-- `WLAN_CIPHER_SUITE_CCMP`. -/
def WLAN_CIPHER_SUITE_CCMP : BitVec 32 := 0x000fac04
/-- `WLAN_CIPHER_SUITE_WEP104`. -/
def WLAN_CIPHER_SUITE_WEP104 : BitVec 32 := 0x000fac05
/-- `IEEE80211_KEY_FLAG_PAIRWISE`. -/
def IEEE80211_KEY_FLAG_PAIRWISE : Byte := 0x08
/-- `WLAN_MAX_KEY_LEN`. -/
def WLAN_MAX_KEY_LEN : ℕ := 32

/-- `enum set_key_cmd`. -/
inductive SetKeyCmd where
  | SET_KEY
  | DISABLE_KEY
  | other
  deriving DecidableEq, Repr

/-- `struct ieee80211_key_conf`; `key` has `keylen` bytes. -/
structure KeyConf where
  cipher : BitVec 32
  flags : Byte := 0
  keyidx : Byte := 0
  key : List Byte

/-- The requests of `wcn36xx_set_key`. -/
inductive KeyOp where
  /-- `wcn36xx_smd_config_bss(wcn, vif, sta, sta->addr, true)`. -/
  | configBss (sta : ℕ)
  /-- `wcn36xx_smd_set_stakey`. -/
  | setStakey (enc_type : AniEdType) (keyidx : Byte) (key : List Byte) (sta_index : Byte)
  /-- `wcn36xx_smd_set_bsskey`. -/
  | setBsskey (enc_type : AniEdType) (keyidx : Byte) (key : List Byte)
  /-- `wcn36xx_smd_remove_stakey`. -/
  | removeStakey (enc_type : AniEdType) (keyidx sta_index : Byte)
  /-- `wcn36xx_smd_remove_bsskey`. -/
  | removeBsskey (enc_type : AniEdType) (keyidx : Byte)
  deriving DecidableEq

namespace KeyConf

variable (conf : KeyConf)

/-- `IEEE80211_KEY_FLAG_PAIRWISE & key_conf->flags`. -/
def pairwise : Bool := IEEE80211_KEY_FLAG_PAIRWISE &&& conf.flags != 0

/-- The cipher is one of the two of WEP. -/
def isWep : Bool :=
  conf.cipher == WLAN_CIPHER_SUITE_WEP40 || conf.cipher == WLAN_CIPHER_SUITE_WEP104

/-- The `switch` over the cipher; there is none for a cipher that is not supported. -/
def encryptType : Option AniEdType :=
  if conf.cipher = WLAN_CIPHER_SUITE_WEP40 then some .WEP40
  else if conf.cipher = WLAN_CIPHER_SUITE_WEP104 then some .WEP40
  else if conf.cipher = WLAN_CIPHER_SUITE_CCMP then some .CCMP
  else if conf.cipher = WLAN_CIPHER_SUITE_TKIP then some .TKIP
  else none

/-- The copy of the key in the order that the hardware expects. A copy from behind the key, or to behind
the `WLAN_MAX_KEY_LEN` bytes of the array, is a fault. -/
def copyKey (encrypt_type : AniEdType) : Option (List Byte) :=
  if encrypt_type = .TKIP then
    -- Temporal Key (16 b) - RX MIC (8 b) - TX MIC (8 b)
    if conf.key.length = WLAN_MAX_KEY_LEN then
      some (conf.key.take 16 ++ (conf.key.drop 24).take 8 ++ (conf.key.drop 16).take 8)
    else none
  else if conf.key.length ≤ WLAN_MAX_KEY_LEN then some conf.key
  else none

end KeyConf

namespace MacConf

/-- Write the private data of an interface. -/
def setVif (mac : MacConf) (vif : ℕ) (priv : WcnVif) : MacConf :=
  { mac with vif := Function.update mac.vif vif (some priv) }

/-- `is_data_encrypted` of a station. -/
def encrypted (mac : MacConf) (sta : ℕ) : Option Bool := (mac.sta sta).map WcnSta.is_data_encrypted

end MacConf

/-- What `wcn36xx_smd_config_bss_rsp` keeps of a response of success for the interface. -/
def ConfigBssRsp.toVif (priv : WcnVif) (rsp : Option ConfigBssRsp) : WcnVif :=
  rsp.elim priv fun rsp =>
    { priv with bss_index := rsp.bss_index, self_ucast_dpu_sign := rsp.ucast_dpu_signature }

/-- What `wcn36xx_smd_config_bss_rsp` keeps of a response of success for the station. -/
def ConfigBssRsp.toSta (sta_priv : WcnSta) (rsp : Option ConfigBssRsp) : WcnSta :=
  rsp.elim sta_priv fun rsp =>
    { sta_priv with
      bss_sta_index := rsp.bss_sta_index, bss_dpu_desc_index := rsp.dpu_desc_index }

/-- `wcn36xx_set_key`. `aid` is `sta_priv->aid`, and `rsp` the response to `wcn36xx_smd_config_bss` if it
is one of success. The outcomes of the requests are not looked at. -/
def setKey (mac : MacConf) (cmd : SetKeyCmd) (vif : ℕ) (sta : Option ℕ) (aid : BitVec 16)
    (conf : KeyConf) (rsp : Option ConfigBssRsp) : Option (MacConf × List KeyOp × ℤ) := do
  let priv ← mac.vif vif
  match conf.encryptType with
  -- `Unsupported key type 0x%x`
  | none => return (mac, [], -EOPNOTSUPP)
  | some encrypt_type =>
    let priv := { priv with encrypt_type := encrypt_type }
    match cmd with
    | .SET_KEY =>
      let key ← conf.copyKey encrypt_type
      if conf.pairwise then
        let sta ← sta
        let sta_priv ← mac.sta sta
        let sta_priv := { sta_priv with is_data_encrypted := true }
        if priv.type = .STATION then
          -- Reconfigure bss with encrypt_type.
          let priv := ConfigBssRsp.toVif priv rsp
          let sta_priv := ConfigBssRsp.toSta sta_priv rsp
          return ((mac.setVif vif priv).setSta sta sta_priv,
            [.configBss sta,
              .setStakey encrypt_type conf.keyidx key (getStaIndex priv sta_priv)], 0)
        else
          return ((mac.setVif vif priv).setSta sta sta_priv,
            [.setStakey encrypt_type conf.keyidx key (getStaIndex priv sta_priv)], 0)
      else if conf.isWep then
        let sta ← sta
        let sta_priv ← mac.sta sta
        let sta_priv := { sta_priv with is_data_encrypted := true }
        return ((mac.setVif vif priv).setSta sta sta_priv,
          [.setBsskey encrypt_type conf.keyidx key,
            .setStakey encrypt_type conf.keyidx key (getStaIndex priv sta_priv)], 0)
      else return (mac.setVif vif priv, [.setBsskey encrypt_type conf.keyidx key], 0)
    | .DISABLE_KEY =>
      if !conf.pairwise then
        return (mac.setVif vif { priv with encrypt_type := .NONE },
          [.removeBsskey .NONE conf.keyidx], 0)
      else
        let sta ← sta
        let sta_priv ← mac.sta sta
        let sta_priv := { sta_priv with is_data_encrypted := false }
        -- Do not remove key if disassociated.
        return ((mac.setVif vif priv).setSta sta sta_priv,
          if aid ≠ 0 then
            [.removeStakey encrypt_type conf.keyidx (getStaIndex priv sta_priv)]
          else [], 0)
    -- `Unsupported key cmd 0x%x`
    | .other => return (mac.setVif vif priv, [], -EOPNOTSUPP)

/-- The calls that write `is_data_encrypted` of their station: a pairwise key is installed or removed, or
a WEP group key is installed. -/
def KeyConf.concerns (conf : KeyConf) : SetKeyCmd → Bool
  | .SET_KEY => conf.pairwise || conf.isWep
  | .DISABLE_KEY => conf.pairwise
  | .other => false

/-- What a call leaves in `encrypt_type`. -/
def KeyConf.encryptTypeAfter (conf : KeyConf) (cmd : SetKeyCmd) (encrypt_type : AniEdType) :
    AniEdType :=
  if cmd = .DISABLE_KEY ∧ conf.pairwise = false then .NONE else encrypt_type

/-- What a call with a supported cipher does to the two fields. -/
structure SetKeyWrites (mac mac' : MacConf) (cmd : SetKeyCmd) (vif : ℕ) (sta : Option ℕ)
    (conf : KeyConf) (encrypt_type : AniEdType) : Prop where
  vif : ∃ priv, mac'.vif = Function.update mac.vif vif (some priv) ∧
    priv.encrypt_type = conf.encryptTypeAfter cmd encrypt_type
  other : conf.concerns cmd = false → mac'.sta = mac.sta
  sta : conf.concerns cmd = true → ∃ S s s', sta = some S ∧ mac.sta S = some s ∧
    mac'.sta = Function.update mac.sta S (some s') ∧ s'.is_data_encrypted = decide (cmd = .SET_KEY)

section Writes

variable {mac : MacConf} {cmd : SetKeyCmd} {vif : ℕ} {sta : Option ℕ} {conf : KeyConf}
  {encrypt_type : AniEdType} {priv : WcnVif}
  (hpriv : priv.encrypt_type = conf.encryptTypeAfter cmd encrypt_type)
include hpriv

/-- A call that does not concern its station. -/
theorem SetKeyWrites.ofVif (hno : conf.concerns cmd = false) :
    SetKeyWrites mac (mac.setVif vif priv) cmd vif sta conf encrypt_type where
  vif := ⟨priv, rfl, hpriv⟩
  other _ := rfl
  sta hyes := by
    rw [hno] at hyes
    cases hyes

/-- A call that concerns its station. -/
theorem SetKeyWrites.ofSta (hyes : conf.concerns cmd = true) {S : ℕ} {s s' : WcnSta}
    (hS : sta = some S) (hs : mac.sta S = some s)
    (hflag : s'.is_data_encrypted = decide (cmd = .SET_KEY)) :
    SetKeyWrites mac ((mac.setVif vif priv).setSta S s') cmd vif sta conf encrypt_type where
  vif := ⟨priv, rfl, hpriv⟩
  other hno := by
    rw [hyes] at hno
    cases hno
  sta _ := ⟨S, s, s', hS, hs, rfl, hflag⟩

end Writes

/-- A call with a cipher that is not supported does nothing, and any other writes the two fields. -/
theorem setKey_cases {mac mac' : MacConf} {cmd : SetKeyCmd} {vif : ℕ} {sta : Option ℕ}
    {aid : BitVec 16} {conf : KeyConf} {rsp : Option ConfigBssRsp} {ops : List KeyOp} {ret : ℤ}
    (h : setKey mac cmd vif sta aid conf rsp = some (mac', ops, ret)) :
    (conf.encryptType = none ∧ mac' = mac) ∨
      ∃ encrypt_type, conf.encryptType = some encrypt_type ∧
        SetKeyWrites mac mac' cmd vif sta conf encrypt_type := by
  unfold setKey at h
  simp only [Option.bind_eq_bind, Option.pure_def] at h
  obtain ⟨priv, -, h⟩ := Option.bind_eq_some_iff.mp h
  cases htype : conf.encryptType with
  | none =>
    rw [htype, Option.some.injEq, Prod.mk.injEq] at h
    exact .inl ⟨rfl, h.1.symm⟩
  | some encrypt_type =>
    rw [htype] at h
    refine .inr ⟨encrypt_type, rfl, ?_⟩
    cases cmd with
    | SET_KEY =>
      have hafter : encrypt_type = conf.encryptTypeAfter .SET_KEY encrypt_type := by
        rw [KeyConf.encryptTypeAfter, if_neg (fun hcmd => by cases hcmd.1)]
      obtain ⟨key, -, h⟩ := Option.bind_eq_some_iff.mp h
      split_ifs at h with hpairwise hmode hwep
      · -- A pairwise key in station mode.
        have hconcerns : conf.concerns .SET_KEY = true := by rw [KeyConf.concerns, hpairwise]; rfl
        obtain ⟨S, hS, h⟩ := Option.bind_eq_some_iff.mp h
        obtain ⟨s, hs, h⟩ := Option.bind_eq_some_iff.mp h
        rw [Option.some.injEq, Prod.mk.injEq] at h
        rw [← h.1]
        apply SetKeyWrites.ofSta _ hconcerns hS hs
        · cases rsp <;> rfl
        · rw [← hafter]
          cases rsp <;> rfl
      · have hconcerns : conf.concerns .SET_KEY = true := by rw [KeyConf.concerns, hpairwise]; rfl
        obtain ⟨S, hS, h⟩ := Option.bind_eq_some_iff.mp h
        obtain ⟨s, hs, h⟩ := Option.bind_eq_some_iff.mp h
        rw [Option.some.injEq, Prod.mk.injEq] at h
        rw [← h.1]
        exact SetKeyWrites.ofSta hafter hconcerns hS hs rfl
      · -- A WEP group key.
        have hconcerns : conf.concerns .SET_KEY = true := by
          rw [KeyConf.concerns, hwep, Bool.or_true]
        obtain ⟨S, hS, h⟩ := Option.bind_eq_some_iff.mp h
        obtain ⟨s, hs, h⟩ := Option.bind_eq_some_iff.mp h
        rw [Option.some.injEq, Prod.mk.injEq] at h
        rw [← h.1]
        exact SetKeyWrites.ofSta hafter hconcerns hS hs rfl
      · have hconcerns : conf.concerns .SET_KEY = false := by
          rw [KeyConf.concerns, Bool.eq_false_of_not_eq_true hpairwise,
            Bool.eq_false_of_not_eq_true hwep]
          rfl
        rw [Option.some.injEq, Prod.mk.injEq] at h
        rw [← h.1]
        exact SetKeyWrites.ofVif hafter hconcerns
    | DISABLE_KEY =>
      cases hpairwise : conf.pairwise with
      | false =>
        dsimp only at h
        rw [hpairwise, if_pos (by decide), Option.some.injEq, Prod.mk.injEq] at h
        rw [← h.1]
        exact SetKeyWrites.ofVif (by rw [KeyConf.encryptTypeAfter, if_pos ⟨rfl, hpairwise⟩])
          hpairwise
      | true =>
        dsimp only at h
        rw [hpairwise, if_neg (by decide)] at h
        obtain ⟨S, hS, h⟩ := Option.bind_eq_some_iff.mp h
        obtain ⟨s, hs, h⟩ := Option.bind_eq_some_iff.mp h
        rw [Option.some.injEq, Prod.mk.injEq] at h
        rw [← h.1]
        have hafter : encrypt_type = conf.encryptTypeAfter .DISABLE_KEY encrypt_type := by
          rw [KeyConf.encryptTypeAfter, hpairwise, if_neg (fun hcmd => by cases hcmd.2)]
        have hconcerns : conf.concerns .DISABLE_KEY = true := hpairwise
        exact SetKeyWrites.ofSta hafter hconcerns hS hs rfl
    | other =>
      rw [Option.some.injEq, Prod.mk.injEq] at h
      rw [← h.1]
      apply SetKeyWrites.ofVif _ rfl
      rw [KeyConf.encryptTypeAfter, if_neg (fun hcmd => by cases hcmd.1)]

/-! ## Runs of the callbacks -/

/-- The callbacks, with what they are called with. -/
inductive KeyEvent where
  /-- mac80211 creates a station: its private data is zeroed. -/
  | create (sta : ℕ)
  /-- `wcn36xx_sta_add`. -/
  | staAdd (vif sta : ℕ) (rsp : Option ConfigStaRsp)
  /-- `wcn36xx_sta_remove`. -/
  | staRemove (sta : ℕ)
  /-- `wcn36xx_set_key`. -/
  | setKey (cmd : SetKeyCmd) (vif : ℕ) (sta : Option ℕ) (aid : BitVec 16) (conf : KeyConf)
      (rsp : Option ConfigBssRsp)
  /-- `wcn36xx_start_tx`, as far as it changes stations. -/
  | startTx (sta_priv : Option ℕ) (skb : SkBuff)
  /-- `wcn36xx_ampdu_action`. -/
  | ampduAction (vif : ℕ) (action : AmpduMlmeAction) (sta : ℕ) (tid : BitVec 16)
  /-- Another callback changes a station: no other assigns to `is_data_encrypted`. -/
  | station (sta : ℕ) (sta_priv : WcnSta)
  /-- Another callback changes an interface. -/
  | interface (vif : ℕ) (priv : Option WcnVif)
  /-- Another callback changes the list of interfaces or the channel. -/
  | conf (vif_list : List ℕ) (is_ht : Bool) (band : Band)

/-- The stations and interfaces, and the calls so far, latest first. -/
structure KeyWorld where
  mac : MacConf := {}
  hist : List KeyEvent := []

/-- The next world: the configuration after a call, and the call in the history. -/
def KeyWorld.next (w : KeyWorld) (e : KeyEvent) (mac : MacConf) : KeyWorld := ⟨mac, e :: w.hist⟩

/-- The callbacks as a transition system. -/
def keySystem : System KeyWorld KeyEvent where
  init w := w.mac.sta = (fun _ => none) ∧ w.hist = []
  step w e := (w.next e) <$> match e with
    | .create sta => some (w.mac.setSta sta {})
    | .staAdd vif sta rsp => do
      let priv ← w.mac.vif vif
      let sta_priv ← w.mac.sta sta
      return (staAdd { mac := w.mac } vif priv sta sta_priv rsp).mac
    | .staRemove sta => do
      let sta_priv ← w.mac.sta sta
      return (staRemove { mac := w.mac } sta sta_priv).mac
    | .setKey cmd vif sta aid conf rsp => do
      let (mac, _, _) ← setKey w.mac cmd vif sta aid conf rsp
      return mac
    | .startTx sta_priv skb => do
      let (_, _, mac, _) ← startTxBd w.mac sta_priv skb
      return mac
    | .ampduAction vif action sta tid => do
      let (mac, _) ← ampduAction w.mac vif action sta tid
      return mac
    | .station sta sta_priv =>
      if w.mac.encrypted sta = some sta_priv.is_data_encrypted then
        some (w.mac.setSta sta sta_priv)
      else none
    | .interface vif priv => some { w.mac with vif := Function.update w.mac.vif vif priv }
    | .conf vif_list is_ht band =>
      some { w.mac with vif_list := vif_list, is_ht := is_ht, band := band }

/-- The command of the last `wcn36xx_set_key` with a supported cipher since a station was created that
installs or removes a pairwise key for it, or installs a WEP group key. -/
def lastKey (sta : ℕ) : List KeyEvent → Option SetKeyCmd
  | [] => none
  | .create sta' :: hist => if sta' = sta then none else lastKey sta hist
  | .setKey cmd _ sta' _ conf _ :: hist =>
    if sta' = some sta ∧ conf.concerns cmd = true ∧ conf.encryptType.isSome = true then some cmd
    else lastKey sta hist
  | _ :: hist => lastKey sta hist

/-- `dpu_ne` as the device reads it from the bytes of a BD. -/
def txDpuNe (bd : List Byte) : BitVec 1 := (bd.getD 3 0).extractLsb' 3 1

/-- `dpu_ne` in the BD of a frame: set for management and control frames, and for a station's data frame
other than a plain nullfunc exactly when the last call was not the installation of a key. -/
structure DpuNeFollowsKeys (hist : List KeyEvent) (sta_priv : Option ℕ) (skb : SkBuff)
    (dpu_ne : BitVec 1) : Prop where
  mgmt : ieee80211IsMgmt skb.frameControl = true → dpu_ne = 1
  ctl : ieee80211IsCtl skb.frameControl = true → dpu_ne = 1
  data : ieee80211IsData skb.frameControl = true → ieee80211IsNullfunc skb.frameControl = false →
    ∀ sta, sta_priv = some sta →
      dpu_ne = if lastKey sta hist = some .SET_KEY then 0 else 1

/-- The invariant: `is_data_encrypted` of every station is what the history says. -/
def KeyInv (w : KeyWorld) : Prop :=
  ∀ sta b, w.mac.encrypted sta = some b → b = decide (lastKey sta w.hist = some .SET_KEY)

/-- A call that leaves `is_data_encrypted` of all stations alone, and is none of the calls that
`lastKey` looks for. -/
theorem KeyInv.same {w : KeyWorld} (h : KeyInv w) {mac : MacConf} {e : KeyEvent}
    (hmac : ∀ sta, mac.encrypted sta = w.mac.encrypted sta)
    (hlast : ∀ sta, lastKey sta (e :: w.hist) = lastKey sta w.hist) : KeyInv (w.next e mac) := by
  intro sta b hb
  rw [KeyWorld.next, hlast]
  exact h sta b (by rw [← hmac]; exact hb)

/-- Writing a station's private data. -/
theorem encrypted_setSta (mac : MacConf) (sta : ℕ) (sta_priv : WcnSta) (sta' : ℕ) :
    (mac.setSta sta sta_priv).encrypted sta' =
      if sta' = sta then some sta_priv.is_data_encrypted else mac.encrypted sta' := by
  rw [MacConf.encrypted, MacConf.setSta]
  dsimp only
  rw [Function.update_apply]
  split_ifs
  · rfl
  · rfl

/-- Writing a station's private data without its flag. -/
theorem encrypted_setSta_same {mac : MacConf} {sta : ℕ} {s sta_priv : WcnSta}
    (hs : mac.sta sta = some s) (hflag : sta_priv.is_data_encrypted = s.is_data_encrypted)
    (sta' : ℕ) : (mac.setSta sta sta_priv).encrypted sta' = mac.encrypted sta' := by
  rw [encrypted_setSta]
  split_ifs with heq
  · rw [heq, MacConf.encrypted, hs, hflag]
    rfl
  · rfl

/-- `wcn36xx_sta_add` leaves the flags alone. -/
theorem encrypted_staAdd {mac : MacConf} {vif : ℕ} {priv : WcnVif} {sta : ℕ} {s : WcnSta}
    {rsp : Option ConfigStaRsp} (hs : mac.sta sta = some s) (sta' : ℕ) :
    (staAdd { mac := mac } vif priv sta s rsp).mac.encrypted sta' = mac.encrypted sta' := by
  have hadd : (mac.setSta sta { s with vif := some vif }).encrypted sta' = mac.encrypted sta' :=
    encrypted_setSta_same hs (by rfl) sta'
  unfold staAdd
  dsimp only
  split_ifs with hmode
  · cases rsp with
    | none => exact hadd
    | some rsp =>
      -- The response is kept in other fields.
      rw [← hadd]
      unfold smdConfigSta MacConf.encrypted MacConf.setSta
      dsimp only
      rcases eq_or_ne sta' sta with rfl | hne
      · rw [Function.update_self, Function.update_self]
        rfl
      · rw [Function.update_of_ne hne]
  · exact hadd

/-- `dpu_ne` in the BD of a data frame. -/
theorem dpuNe_setTxData {bd bd' : TxBd} {mac mac' : MacConf} {sta_priv : Option ℕ} {skb : SkBuff}
    {bcast : Bool} {vif : ℕ} {es : List Effect}
    (h : setTxData bd mac sta_priv skb bcast = some (bd', vif, mac', es)) :
    (∀ sta, sta_priv = some sta → ∃ s, mac.sta sta = some s) ∧
      bd'.dpu_ne = if ieee80211IsNullfunc skb.frameControl ||
        (sta_priv.bind mac.sta).any fun sta => !sta.is_data_encrypted then 1 else bd.dpu_ne := by
  obtain ⟨-, bd₁, hsta, rfl⟩ := setTxData_eq h
  obtain ⟨-, hne, hsome⟩ := setTxDataSta_keeps hsta
  refine ⟨hsome, ?_⟩
  rw [← show bd₁.dpu_ne = bd.dpu_ne from hne]
  unfold setTxPdu TxBd.dataBits
  dsimp only
  split_ifs
  all_goals rfl

/-- `dpu_ne` in the BD of any other frame. -/
theorem dpuNe_setTxMgmt {bd bd' : TxBd} {mac mac' : MacConf} {skb : SkBuff} {bcast : Bool} {vif : ℕ}
    {es : List Effect} (h : setTxMgmt bd mac skb bcast = some (bd', vif, mac', es)) :
    bd'.dpu_ne = 1 := by
  unfold setTxMgmt at h
  simp only [Option.bind_eq_bind, Option.bind_eq_some_iff, Option.pure_def, Option.some.injEq,
    Prod.mk.injEq] at h
  obtain ⟨-, -, vif₁, -, priv, -, rfl, -⟩ := h
  unfold setTxPdu
  dsimp only
  split_ifs
  all_goals rfl

/-- Building a BD leaves the flags alone. -/
theorem encrypted_startTxBd {mac mac' : MacConf} {sta_priv : Option ℕ} {skb : SkBuff} {bd : TxBd}
    {vif : ℕ} {es : List Effect} (h : startTxBd mac sta_priv skb = some (bd, vif, mac', es))
    (sta : ℕ) : mac'.encrypted sta = mac.encrypted sta := by
  have hmap : ∀ s : Option WcnSta, s.map WcnSta.is_data_encrypted =
      (s.map WcnSta.withoutAmpdu).map WcnSta.is_data_encrypted := by
    intro s
    rw [Option.map_map]
    rfl
  rw [MacConf.encrypted, hmap, withoutAmpdu_startTxBd h, ← hmap, MacConf.encrypted]

/-- `wcn36xx_ampdu_action` leaves the flags alone. -/
theorem encrypted_ampduAction {mac mac' : MacConf} {vif : ℕ} {action : AmpduMlmeAction} {sta : ℕ}
    {tid : BitVec 16} {calls : List AmpduCall}
    (h : ampduAction mac vif action sta tid = some (mac', calls)) (sta' : ℕ) :
    mac'.encrypted sta' = mac.encrypted sta' := by
  obtain ⟨s, hs, ⟨-, rfl⟩ | ⟨-, rfl | ⟨state, rfl⟩⟩⟩ := ampduAction_cases h
  · exact encrypted_setSta_same hs (by rfl) sta'
  · rfl
  · exact encrypted_setSta_same hs (by rfl) sta'

/-- `wcn36xx_set_key` keeps the invariant: it writes the flag exactly when it is the last call that
concerns the station. -/
theorem KeyInv.setKey {w : KeyWorld} (h : KeyInv w) {mac : MacConf} {cmd : SetKeyCmd} {vif : ℕ}
    {sta : Option ℕ} {aid : BitVec 16} {conf : KeyConf} {rsp : Option ConfigBssRsp}
    {ops : List KeyOp} {ret : ℤ} (hrun : setKey w.mac cmd vif sta aid conf rsp = some (mac, ops, ret)) :
    KeyInv (w.next (.setKey cmd vif sta aid conf rsp) mac) := by
  rcases setKey_cases hrun with ⟨htype, rfl⟩ | ⟨encrypt_type, htype, hwrites⟩
  · refine h.same (fun _ => rfl) (fun sta' => ?_)
    rw [lastKey, htype, if_neg (fun hcall => by cases hcall.2.2)]
  · cases hconcerns : conf.concerns cmd with
    | false =>
      refine h.same (fun sta' => ?_) (fun sta' => ?_)
      · rw [MacConf.encrypted, hwrites.other hconcerns]
        rfl
      · rw [lastKey, hconcerns, if_neg (fun hcall => by cases hcall.2.1)]
    | true =>
      obtain ⟨S, s, s', rfl, -, hmac, hflag⟩ := hwrites.sta hconcerns
      intro sta' b hb
      rw [KeyWorld.next, MacConf.encrypted, hmac, Function.update_apply] at hb
      rw [KeyWorld.next, lastKey, hconcerns, htype]
      split_ifs at hb with heq
      · rw [if_pos ⟨congrArg some heq.symm, rfl, rfl⟩]
        rw [Option.map_some, Option.some.injEq] at hb
        rw [← hb, hflag]
        simp only [Option.some.injEq]
      · rw [if_neg (fun hcall => heq (Option.some.inj hcall.1).symm)]
        exact h sta' b hb

/-- Every step keeps the invariant. -/
theorem keyInv_step (w : KeyWorld) (e : KeyEvent) (w' : KeyWorld) (h : KeyInv w)
    (hstep : keySystem.step w e = some w') : KeyInv w' := by
  obtain ⟨mac, hmac, rfl⟩ := Option.map_eq_some_iff.mp hstep
  cases e with
  | create sta =>
    rw [Option.some.injEq] at hmac
    intro sta' b hb
    rw [KeyWorld.next, ← hmac, encrypted_setSta] at hb
    rw [KeyWorld.next, lastKey]
    split_ifs at hb with heq
    · rw [if_pos heq.symm]
      rw [Option.some.injEq] at hb
      exact hb.symm
    · rw [if_neg (Ne.symm heq)]
      exact h sta' b hb
  | staAdd vif sta rsp =>
    obtain ⟨priv, -, hmac⟩ := Option.bind_eq_some_iff.mp hmac
    obtain ⟨s, hs, hmac⟩ := Option.bind_eq_some_iff.mp hmac
    rw [Option.pure_def, Option.some.injEq] at hmac
    refine h.same (fun sta' => ?_) (fun _ => rfl)
    rw [← hmac]
    exact encrypted_staAdd hs sta'
  | staRemove sta =>
    obtain ⟨s, hs, hmac⟩ := Option.bind_eq_some_iff.mp hmac
    rw [Option.pure_def, Option.some.injEq] at hmac
    refine h.same (fun sta' => ?_) (fun _ => rfl)
    rw [← hmac]
    exact encrypted_setSta_same hs (by rfl) sta'
  | setKey cmd vif sta aid conf rsp =>
    obtain ⟨⟨mac₁, ops, ret⟩, hrun, hmac⟩ := Option.bind_eq_some_iff.mp hmac
    rw [Option.pure_def, Option.some.injEq] at hmac
    subst hmac
    exact h.setKey hrun
  | startTx sta_priv skb =>
    obtain ⟨⟨bd, vif, mac₁, es⟩, hrun, hmac⟩ := Option.bind_eq_some_iff.mp hmac
    rw [Option.pure_def, Option.some.injEq] at hmac
    subst hmac
    exact h.same (encrypted_startTxBd hrun) (fun _ => rfl)
  | ampduAction vif action sta tid =>
    obtain ⟨⟨mac₁, calls⟩, hrun, hmac⟩ := Option.bind_eq_some_iff.mp hmac
    rw [Option.pure_def, Option.some.injEq] at hmac
    subst hmac
    exact h.same (encrypted_ampduAction hrun) (fun _ => rfl)
  | station sta sta_priv =>
    obtain ⟨hflag, hmac⟩ := Option.ite_none_right_eq_some.mp hmac
    rw [Option.some.injEq] at hmac
    refine h.same (fun sta' => ?_) (fun _ => rfl)
    rw [← hmac, encrypted_setSta]
    split_ifs with heq
    · rw [heq, hflag]
    · rfl
  | interface vif priv =>
    rw [Option.some.injEq] at hmac
    exact h.same (fun sta' => by rw [← hmac]; rfl) (fun _ => rfl)
  | conf vif_list is_ht band =>
    rw [Option.some.injEq] at hmac
    exact h.same (fun sta' => by rw [← hmac]; rfl) (fun _ => rfl)

/-! ## What the device reads -/

/-- The first byte of a word is the last one in big-endian order. -/
theorem extractLsb'_cpuToBe32 (w : BitVec 32) :
    (cpuToBe32 w).extractLsb' 24 8 = w.extractLsb' 0 8 := by
  unfold cpuToBe32
  rw [BitVec.extractLsb'_append_eq_of_le (by omega),
    BitVec.extractLsb'_append_eq_of_le (by omega), BitVec.extractLsb'_append_eq_of_le (by omega)]
  exact BitVec.extractLsb'_eq_self

/-- The bit of `dpu_ne` in the bytes of a BD. -/
theorem txDpuNe_sentBytes (bd : TxBd) : txDpuNe bd.sentBytes = bd.dpu_ne := by
  have hword : ∀ {n : ℕ} (x : BitVec n),
      (x ++ bd.dpu_ne ++ bd.ft ++ bd.bdt).extractLsb' 3 1 = bd.dpu_ne := by
    intro n x
    rw [BitVec.extractLsb'_append_eq_of_le (show 2 ≤ 3 by decide),
      BitVec.extractLsb'_append_eq_of_le (show 1 ≤ 3 - 2 by decide),
      BitVec.extractLsb'_append_eq_right]
  calc txDpuNe bd.sentBytes
      = ((cpuToBe32 (bd.words.getD 0 0)).extractLsb' 24 8).extractLsb' 3 1 := rfl
    _ = ((bd.words.getD 0 0).extractLsb' 0 8).extractLsb' 3 1 := by rw [extractLsb'_cpuToBe32]
    _ = (bd.words.getD 0 0).extractLsb' 3 1 := by
      rw [BitVec.extractLsb'_extractLsb'_of_le (show 3 + 1 ≤ 8 by decide)]
    _ = bd.dpu_ne := hword _

/-- In every run of the callbacks, `dpu_ne` in the BD of a frame that `wcn36xx_start_tx` accepts follows
the key calls: it is set for management and control frames, and clear for a station's data frame
exactly when the last call that concerned the station installed a key. -/
theorem dpuNe_follows_keys {w : KeyWorld} (hreach : keySystem.Reachable w) {wcn wcn' : Wcn}
    (hmac : wcn.mac = w.mac) {sta_priv : Option ℕ} {skb : SkBuff}
    (h : startTx wcn sta_priv skb = some (wcn', 0)) :
    ∃ addr, dxeGetNextBd wcn skb.isLow = some addr ∧
      DpuNeFollowsKeys w.hist sta_priv skb (txDpuNe ((wcn'.txCh skb.isLow).readBd addr)) := by
  have hinv : KeyInv w := by
    refine hreach.invariant (fun w hw => ?_) keyInv_step
    intro sta b hb
    rw [MacConf.encrypted, hw.1] at hb
    cases hb
  obtain ⟨addr, bd, vif, mac, es, haddr, hbuilt, hread⟩ := readBd_startTx h
  refine ⟨addr, haddr, ?_⟩
  rw [hread, txDpuNe_sentBytes]
  rw [startTxBd, hmac] at hbuilt
  cases hlow : skb.isLow with
  | false =>
    rw [hlow, if_neg Bool.false_ne_true] at hbuilt
    have hne : bd.dpu_ne = 1 := dpuNe_setTxMgmt hbuilt
    refine ⟨fun _ => hne, fun _ => hne, fun hdata => ?_⟩
    rw [SkBuff.isLow, hdata] at hlow
    exact absurd hlow Bool.false_ne_true.symm
  | true =>
    rw [hlow, if_pos rfl] at hbuilt
    obtain ⟨hsome, hne⟩ := dpuNe_setTxData hbuilt
    have htype : skb.frameControl &&& IEEE80211_FCTL_FTYPE = IEEE80211_FTYPE_DATA :=
      of_decide_eq_true hlow
    refine ⟨fun hmgmt => ?_, fun hctl => ?_, fun _ hnull sta hsta => ?_⟩
    · -- A frame has one type.
      have hmgmt : skb.frameControl &&& IEEE80211_FCTL_FTYPE = IEEE80211_FTYPE_MGMT :=
        of_decide_eq_true hmgmt
      exact absurd (htype.symm.trans hmgmt) (by decide)
    · have hctl : skb.frameControl &&& IEEE80211_FCTL_FTYPE = IEEE80211_FTYPE_CTL :=
        of_decide_eq_true hctl
      exact absurd (htype.symm.trans hctl) (by decide)
    · obtain ⟨s, hs⟩ := hsome sta hsta
      have hflag : s.is_data_encrypted = decide (lastKey sta w.hist = some .SET_KEY) :=
        hinv sta _ (by rw [MacConf.encrypted, hs, Option.map_some])
      rw [hne, hnull, hsta, Option.bind_some, hs, Option.any_some, hflag, Bool.false_or]
      by_cases hlast : lastKey sta w.hist = some .SET_KEY
      · rw [if_pos hlast, decide_eq_true hlast]
        rfl
      · rw [if_neg hlast, decide_eq_false hlast]
        rfl

/-- A network with one access point. -/
def keyStart : KeyWorld where
  mac := oneStation

/-- A CCMP key for one station. -/
def pairwiseCcmp : KeyConf where
  cipher := WLAN_CIPHER_SUITE_CCMP
  flags := IEEE80211_KEY_FLAG_PAIRWISE
  key := List.replicate 16 0x5a

/-- After a pairwise key is installed for an access point, a data frame to it has `dpu_ne` clear. -/
theorem dpuNe_follows_keys_installed :
    ∃ w wcn wcn' addr, keySystem.Reachable w ∧ lastKey 5 w.hist = some .SET_KEY ∧
      startTx wcn (some 5) qosFrame = some (wcn', 0) ∧
      dxeGetNextBd wcn qosFrame.isLow = some addr ∧
      txDpuNe ((wcn'.txCh qosFrame.isLow).readBd addr) = 0 := by
  obtain ⟨w, hrun, hw⟩ : ∃ w, keySystem.runFrom keyStart [.create 5, .staAdd 1 5 none,
      .setKey .SET_KEY 1 (some 5) 1 pairwiseCcmp none] = some w ∧
      (decide (lastKey 5 w.hist = some .SET_KEY) &&
        ((txStart driverParams w.mac).bind fun s => startTx s.wcn (some 5) qosFrame).any
          fun r => r.2 = 0) = true :=
    (Option.any_eq_true _ _).mp (by decide +kernel)
  obtain ⟨hlast, hw⟩ := (Bool.and_eq_true _ _).mp hw
  have hlast : lastKey 5 w.hist = some .SET_KEY := of_decide_eq_true hlast
  obtain ⟨wcn, wcn', hmac, htx⟩ := exists_startTx hw
  have hreach : keySystem.Reachable w := System.Reachable.runFrom (.init ⟨rfl, rfl⟩) hrun
  obtain ⟨addr, haddr, hfollows⟩ := dpuNe_follows_keys hreach hmac htx
  refine ⟨w, wcn, wcn', addr, hreach, hlast, htx, haddr, ?_⟩
  rw [hfollows.data (by decide) (by decide) 5 rfl, if_pos hlast]

/-! ## Installing keys and removing them -/

/-- A key as mac80211 installs it on an interface and removes it again. A supported cipher and a key of its
length are checked before, and a pairwise key has a station. `aid` is the station's when the key is
removed, and `rsp` is what the firmware answers when it is installed. -/
structure VifKey where
  conf : KeyConf
  sta : Option ℕ := none
  aid : BitVec 16 := 0
  rsp : Option ConfigBssRsp := none
  supported : conf.encryptType.isSome = true
  fits : (conf.encryptType.bind conf.copyKey).isSome = true
  station : conf.pairwise = true → sta.isSome = true

/-- A call of `wcn36xx_set_key` for a key. -/
def VifKey.call (k : VifKey) (cmd : SetKeyCmd) (vif : ℕ) (mac : MacConf) : Option MacConf := do
  let (mac, _, _) ← setKey mac cmd vif k.sta k.aid k.conf k.rsp
  return mac

/-- The calls for a list of keys. -/
def callAll (cmd : SetKeyCmd) (vif : ℕ) : List VifKey → MacConf → Option MacConf
  | [], mac => some mac
  | k :: ks, mac => (k.call cmd vif mac).bind (callAll cmd vif ks)

/-- No encryption on the interface and for no station. -/
structure NotEncrypted (mac : MacConf) (vif : ℕ) : Prop where
  vif : ∃ priv, mac.vif vif = some priv ∧ priv.encrypt_type = .NONE
  sta : ∀ sta b, mac.encrypted sta = some b → b = false

/-- No cipher stands for `WCN36XX_HAL_ED_NONE`. -/
theorem KeyConf.encryptType_ne_none {conf : KeyConf} : conf.encryptType ≠ some .NONE := by
  unfold KeyConf.encryptType
  split_ifs
  all_goals exact fun h => by cases h

/-- What a call does to the flags of the stations. -/
theorem VifKey.encrypted_call {k : VifKey} {cmd : SetKeyCmd} {vif : ℕ} {mac mac' : MacConf}
    (h : k.call cmd vif mac = some mac') (sta : ℕ) :
    mac'.encrypted sta = if k.conf.concerns cmd = true ∧ k.sta = some sta then
      some (decide (cmd = .SET_KEY)) else mac.encrypted sta := by
  obtain ⟨⟨mac₁, ops, ret⟩, hrun, h⟩ := Option.bind_eq_some_iff.mp h
  rw [Option.pure_def, Option.some.injEq] at h
  subst h
  rcases setKey_cases hrun with ⟨htype, -⟩ | ⟨encrypt_type, -, hwrites⟩
  · exact absurd k.supported (by rw [htype]; exact Bool.false_ne_true)
  · cases hconcerns : k.conf.concerns cmd with
    | false =>
      rw [if_neg (fun hcall => Bool.false_ne_true hcall.1), MacConf.encrypted,
        hwrites.other hconcerns]
      rfl
    | true =>
      obtain ⟨S, s, s', hS, -, hmac, hflag⟩ := hwrites.sta hconcerns
      rw [MacConf.encrypted, hmac, Function.update_apply, hS]
      by_cases heq : sta = S
      · rw [if_pos heq, if_pos ⟨rfl, congrArg some heq.symm⟩, Option.map_some, hflag]
      · rw [if_neg heq, if_neg (fun hcall => heq (Option.some.inj hcall.2).symm)]
        rfl

/-- What a call leaves in `encrypt_type`. -/
theorem VifKey.encryptType_call {k : VifKey} {cmd : SetKeyCmd} {vif : ℕ} {mac mac' : MacConf}
    (h : k.call cmd vif mac = some mac') :
    ∃ priv encrypt_type, mac'.vif vif = some priv ∧ k.conf.encryptType = some encrypt_type ∧
      priv.encrypt_type = k.conf.encryptTypeAfter cmd encrypt_type := by
  obtain ⟨⟨mac₁, ops, ret⟩, hrun, h⟩ := Option.bind_eq_some_iff.mp h
  rw [Option.pure_def, Option.some.injEq] at h
  subst h
  rcases setKey_cases hrun with ⟨htype, -⟩ | ⟨encrypt_type, htype, hwrites⟩
  · exact absurd k.supported (by rw [htype]; exact Bool.false_ne_true)
  · obtain ⟨priv, hvif, hafter⟩ := hwrites.vif
    exact ⟨priv, encrypt_type, by rw [hvif, Function.update_self], htype, hafter⟩

/-- A call runs into no fault exactly when there is a station where it needs one. -/
theorem VifKey.call_isSome_iff {k : VifKey} {cmd : SetKeyCmd} {vif : ℕ} {mac : MacConf}
    (hvif : (mac.vif vif).isSome = true) :
    (k.call cmd vif mac).isSome = true ↔
      (k.conf.concerns cmd = true → ∃ S, k.sta = some S ∧ (mac.encrypted S).isSome = true) := by
  obtain ⟨priv, hpriv⟩ := Option.isSome_iff_exists.mp hvif
  obtain ⟨encrypt_type, htype⟩ := Option.isSome_iff_exists.mp k.supported
  obtain ⟨key, hkey⟩ := Option.isSome_iff_exists.mp k.fits
  rw [htype, Option.bind_some] at hkey
  have hmap : ∀ S, (mac.encrypted S).isSome = (mac.sta S).isSome := fun S => Option.isSome_map
  constructor
  · intro h hconcerns
    obtain ⟨mac', h⟩ := Option.isSome_iff_exists.mp h
    obtain ⟨⟨mac₁, ops, ret⟩, hrun, -⟩ := Option.bind_eq_some_iff.mp h
    rcases setKey_cases hrun with ⟨hnone, -⟩ | ⟨encrypt_type, -, hwrites⟩
    · rw [hnone] at htype
      cases htype
    · obtain ⟨S, s, -, hS, hs, -⟩ := hwrites.sta hconcerns
      exact ⟨S, hS, by rw [hmap, hs]; rfl⟩
  · intro h
    unfold VifKey.call setKey
    simp only [Option.bind_eq_bind, Option.pure_def, hpriv, htype, Option.bind_some]
    cases cmd with
    | SET_KEY =>
      simp only [hkey, Option.bind_some]
      split_ifs with hpairwise hmode hwep
      · obtain ⟨S, hS, hs⟩ := h (by rw [KeyConf.concerns, hpairwise]; rfl)
        obtain ⟨s, hs⟩ := Option.isSome_iff_exists.mp ((hmap S).symm.trans hs)
        simp only [hS, hs, Option.bind_some, Option.isSome_some]
      · obtain ⟨S, hS, hs⟩ := h (by rw [KeyConf.concerns, hpairwise]; rfl)
        obtain ⟨s, hs⟩ := Option.isSome_iff_exists.mp ((hmap S).symm.trans hs)
        simp only [hS, hs, Option.bind_some, Option.isSome_some]
      · obtain ⟨S, hS, hs⟩ := h (by rw [KeyConf.concerns, hwep, Bool.or_true])
        obtain ⟨s, hs⟩ := Option.isSome_iff_exists.mp ((hmap S).symm.trans hs)
        simp only [hS, hs, Option.bind_some, Option.isSome_some]
      · rfl
    | DISABLE_KEY =>
      cases hpairwise : k.conf.pairwise with
      | false => rfl
      | true =>
        obtain ⟨S, hS, hs⟩ := h hpairwise
        obtain ⟨s, hs⟩ := Option.isSome_iff_exists.mp ((hmap S).symm.trans hs)
        simp only [hS, hs, Option.bind_some, Bool.not_true, Bool.false_eq_true, if_false,
          Option.isSome_some]
    | other => rfl

section CallAll

variable {cmd : SetKeyCmd} {vif : ℕ}

/-- What the calls for a list of keys do to the flags of the stations. -/
theorem encrypted_callAll {ks : List VifKey} {mac mac' : MacConf}
    (h : callAll cmd vif ks mac = some mac') (sta : ℕ) :
    mac'.encrypted sta = if ∃ k ∈ ks, k.conf.concerns cmd = true ∧ k.sta = some sta then
      some (decide (cmd = .SET_KEY)) else mac.encrypted sta := by
  induction ks generalizing mac with
  | nil =>
    rw [callAll, Option.some.injEq] at h
    rw [if_neg (fun hk => by obtain ⟨k, hk, -⟩ := hk; exact List.not_mem_nil hk), h]
  | cons k ks ih =>
    obtain ⟨mac₁, hcall, hrest⟩ := Option.bind_eq_some_iff.mp h
    rw [ih hrest, k.encrypted_call hcall]
    simp only [List.exists_mem_cons_iff]
    by_cases hks : ∃ k ∈ ks, k.conf.concerns cmd = true ∧ k.sta = some sta
    · rw [if_pos hks, if_pos (.inr hks)]
    · rw [if_neg hks]
      by_cases hk : k.conf.concerns cmd = true ∧ k.sta = some sta
      · rw [if_pos hk, if_pos (.inl hk)]
      · rw [if_neg hk, if_neg (not_or.mpr ⟨hk, hks⟩)]

/-- The last of the calls leaves its `encrypt_type`. -/
theorem encryptType_callAll {ks : List VifKey} {k : VifKey} {mac mac' : MacConf}
    (h : callAll cmd vif (ks ++ [k]) mac = some mac') :
    ∃ priv encrypt_type, mac'.vif vif = some priv ∧ k.conf.encryptType = some encrypt_type ∧
      priv.encrypt_type = k.conf.encryptTypeAfter cmd encrypt_type := by
  induction ks generalizing mac with
  | nil =>
    obtain ⟨mac₁, hcall, hrest⟩ := Option.bind_eq_some_iff.mp h
    rw [callAll, Option.some.injEq] at hrest
    rw [← hrest]
    exact k.encryptType_call hcall
  | cons k' ks ih =>
    obtain ⟨mac₁, -, hrest⟩ := Option.bind_eq_some_iff.mp h
    exact ih hrest

/-- The calls run into no fault exactly when there is a station where one of them needs it. -/
theorem callAll_isSome_iff {ks : List VifKey} {mac : MacConf} (hvif : (mac.vif vif).isSome = true) :
    (callAll cmd vif ks mac).isSome = true ↔ ∀ k ∈ ks, k.conf.concerns cmd = true →
      ∃ S, k.sta = some S ∧ (mac.encrypted S).isSome = true := by
  induction ks generalizing mac with
  | nil => exact iff_of_true rfl fun k hk => absurd hk List.not_mem_nil
  | cons k ks ih =>
    rw [List.forall_mem_cons, ← k.call_isSome_iff hvif, callAll]
    cases hcall : k.call cmd vif mac with
    | none => exact iff_of_false Bool.false_ne_true fun h => Bool.false_ne_true h.1
    | some mac₁ =>
      obtain ⟨priv, -, hvif₁, -⟩ := k.encryptType_call hcall
      -- A call makes no station, and takes none away.
      have hsta : ∀ S, (mac₁.encrypted S).isSome = (mac.encrypted S).isSome := by
        intro S
        rw [k.encrypted_call hcall]
        split_ifs with hS
        · obtain ⟨S', hS', hs⟩ := (k.call_isSome_iff hvif).mp (by rw [hcall]; rfl) hS.1
          rw [hS.2, Option.some.injEq] at hS'
          rw [hS', hs]
          rfl
        · rfl
      rw [Option.bind_some, ih (by rw [hvif₁]; rfl)]
      simp only [hsta, Option.isSome_some, true_and]

end CallAll

/-- A key whose removal clears the flag of a station. -/
def VifKey.clears (k : VifKey) (S : ℕ) : Prop := k.conf.pairwise = true ∧ k.sta = some S

instance (k : VifKey) (S : ℕ) : Decidable (k.clears S) :=
  inferInstanceAs (Decidable (k.conf.pairwise = true ∧ k.sta = some S))

/-- A key's installation concerns a station if it is a pairwise key or one of WEP. -/
theorem KeyConf.concerns_set_iff {conf : KeyConf} :
    conf.concerns .SET_KEY = true ↔ conf.pairwise = true ∨ conf.isWep = true := Bool.or_eq_true_iff

/-- A group key whose installation concerns a station is one of WEP. -/
theorem KeyConf.isWep_of_concerns {conf : KeyConf} (hconcerns : conf.concerns .SET_KEY = true)
    (hpairwise : conf.pairwise = false) : conf.isWep = true := by
  rcases KeyConf.concerns_set_iff.mp hconcerns with hp | hw
  · rw [hpairwise] at hp
    exact absurd hp Bool.false_ne_true
  · exact hw

/-- One station of an access point, before its keys are installed. -/
def macNotEncrypted : MacConf := oneStation.setSta 5 {}

/-- The pairwise key of that station. -/
def ccmpKey : VifKey where
  conf := pairwiseCcmp
  sta := some 5
  supported := by decide
  fits := by decide
  station := by decide

/-- A group key of TKIP. -/
def tkipGroupKey : VifKey where
  conf := { cipher := WLAN_CIPHER_SUITE_TKIP, keyidx := 1, key := List.replicate 32 0x5a }
  supported := by decide
  fits := by decide
  station := by decide

/-- Nothing is encrypted there. -/
theorem macNotEncrypted_start : NotEncrypted macNotEncrypted 1 where
  vif := ⟨_, rfl, rfl⟩
  sta S b hb := by
    rw [macNotEncrypted, encrypted_setSta] at hb
    split_ifs at hb
    · exact (Option.some.inj hb).symm
    · cases hb

section Restored

variable {mac mac₁ mac₂ : MacConf} {vif : ℕ} {ks rs : List VifKey}

/-- After an installation and a removal the flag of a station is clear if one of the keys removed clears
it, and else it is what the installation has left. -/
theorem encrypted_restored (hset : callAll .SET_KEY vif ks mac = some mac₁)
    (hdisable : callAll .DISABLE_KEY vif rs mac₁ = some mac₂) (S : ℕ) :
    mac₂.encrypted S =
      if ∃ k ∈ rs, k.clears S then some false
      else if ∃ k ∈ ks, k.conf.concerns .SET_KEY = true ∧ k.sta = some S then some true
      else mac.encrypted S := by
  rw [encrypted_callAll hdisable, encrypted_callAll hset]
  rfl

/-- The removal of keys that are installed runs into no fault. -/
theorem callAll_disable_isSome (hset : callAll .SET_KEY vif ks mac = some mac₁)
    (hvif₁ : (mac₁.vif vif).isSome = true)
    (hstas : ∀ k ∈ ks, ∀ S, k.sta = some S → (mac.encrypted S).isSome = true)
    (hperm : rs.Perm ks) : (callAll .DISABLE_KEY vif rs mac₁).isSome = true := by
  refine (callAll_isSome_iff hvif₁).mpr fun k hk hpairwise => ?_
  obtain ⟨S, hS⟩ := Option.isSome_iff_exists.mp (k.station hpairwise)
  refine ⟨S, hS, ?_⟩
  rw [encrypted_callAll hset]
  split_ifs
  · rfl
  · exact hstas k (hperm.mem_iff.mp hk) S hS

/-- Calls for keys leave the interface in place. -/
theorem vif_callAll {cmd : SetKeyCmd} (hvif : (mac.vif vif).isSome = true)
    (h : callAll cmd vif ks mac = some mac₁) : (mac₁.vif vif).isSome = true := by
  rcases List.eq_nil_or_concat ks with rfl | ⟨l, k, rfl⟩
  · rw [callAll, Option.some.injEq] at h
    rw [← h]
    exact hvif
  · rw [List.concat_eq_append] at h
    obtain ⟨priv, -, hpriv, -⟩ := encryptType_callAll h
    rw [hpriv]
    rfl

/-- After a removal `encrypt_type` is `WCN36XX_HAL_ED_NONE` if the last key was no pairwise one. -/
theorem encryptType_restored {l : List VifKey} {k : VifKey}
    (hdisable : callAll .DISABLE_KEY vif (l ++ [k]) mac₁ = some mac₂) :
    (∃ priv, mac₂.vif vif = some priv ∧ priv.encrypt_type = .NONE) ↔ k.conf.pairwise = false := by
  obtain ⟨priv, encrypt_type, hpriv, htype, hafter⟩ := encryptType_callAll hdisable
  constructor
  · rintro ⟨priv', hpriv', hnone⟩
    obtain rfl : priv = priv' := Option.some.inj (hpriv.symm.trans hpriv')
    by_contra hpairwise
    rw [KeyConf.encryptTypeAfter, if_neg (fun hcall => hpairwise hcall.2)] at hafter
    rw [hafter] at hnone
    exact KeyConf.encryptType_ne_none (htype.trans (congrArg some hnone))
  · intro hpairwise
    exact ⟨priv, hpriv, by rw [hafter, KeyConf.encryptTypeAfter, if_pos ⟨rfl, hpairwise⟩]⟩

/-- Install all of a set of keys on an interface that has none, and remove all of them again in any
order: nothing is left of the encryption if and only if the last key to be removed is no pairwise one,
and for every WEP group key there is a pairwise key of the station that it was installed with. -/
theorem restored_iff (hstart : NotEncrypted mac vif)
    (hstas : ∀ k ∈ ks, ∀ S, k.sta = some S → (mac.encrypted S).isSome = true)
    (hperm : rs.Perm ks) :
    (∃ mac₁ mac₂, callAll .SET_KEY vif ks mac = some mac₁ ∧
      callAll .DISABLE_KEY vif rs mac₁ = some mac₂ ∧ NotEncrypted mac₂ vif) ↔
    (∀ k ∈ rs.getLast?, k.conf.pairwise = false) ∧
      ∀ k ∈ ks, k.conf.pairwise = false → k.conf.isWep = true →
        ∃ S, k.sta = some S ∧ ∃ k' ∈ ks, k'.clears S := by
  have hvif : (mac.vif vif).isSome = true := by
    obtain ⟨priv, hpriv, -⟩ := hstart.vif
    rw [hpriv]
    rfl
  constructor
  · rintro ⟨mac₁, mac₂, hset, hdisable, hend⟩
    refine ⟨fun k hk => ?_, fun k hk hpairwise hwep => ?_⟩
    · obtain ⟨l, rfl⟩ := List.getLast?_eq_some_iff.mp hk
      exact (encryptType_restored hdisable).mp hend.vif
    · -- The installation of the WEP key has set a flag, and a key that was removed has cleared it.
      have hconcerns : k.conf.concerns .SET_KEY = true := KeyConf.concerns_set_iff.mpr (.inr hwep)
      obtain ⟨S, hS, -⟩ := (callAll_isSome_iff hvif).mp (by rw [hset]; rfl) k hk hconcerns
      refine ⟨S, hS, ?_⟩
      by_contra hno
      have hflag : mac₂.encrypted S = some true := by
        rw [encrypted_restored hset hdisable, if_neg, if_pos ⟨k, hk, hconcerns, hS⟩]
        rintro ⟨k', hk', hclears⟩
        exact hno ⟨k', hperm.mem_iff.mp hk', hclears⟩
      exact Bool.false_ne_true (hend.sta S true hflag).symm
  · rintro ⟨hlast, hwep⟩
    have hset : (callAll .SET_KEY vif ks mac).isSome = true := by
      refine (callAll_isSome_iff hvif).mpr fun k hk hconcerns => ?_
      have hsta : ∃ S, k.sta = some S := by
        cases hpairwise : k.conf.pairwise with
        | true => exact Option.isSome_iff_exists.mp (k.station hpairwise)
        | false =>
          have hiswep : k.conf.isWep = true := KeyConf.isWep_of_concerns hconcerns hpairwise
          obtain ⟨S, hS, -⟩ := hwep k hk hpairwise hiswep
          exact ⟨S, hS⟩
      obtain ⟨S, hS⟩ := hsta
      exact ⟨S, hS, hstas k hk S hS⟩
    obtain ⟨mac₁, hset⟩ := Option.isSome_iff_exists.mp hset
    obtain ⟨mac₂, hdisable⟩ := Option.isSome_iff_exists.mp
      (callAll_disable_isSome hset (vif_callAll hvif hset) hstas hperm)
    refine ⟨mac₁, mac₂, hset, hdisable, ?_, fun S b hb => ?_⟩
    · rcases List.eq_nil_or_concat rs with rfl | ⟨l, k, rfl⟩
      · -- There was no key at all.
        rw [List.nil_perm.mp hperm, callAll, Option.some.injEq] at hset
        rw [callAll, Option.some.injEq] at hdisable
        rw [← hdisable, ← hset]
        exact hstart.vif
      · rw [List.concat_eq_append] at hdisable hlast
        exact (encryptType_restored hdisable).mpr (hlast k List.getLast?_concat)
    · rw [encrypted_restored hset hdisable] at hb
      split_ifs at hb with hclears hsets
      · exact (Option.some.inj hb).symm
      · exfalso
        apply hclears
        obtain ⟨k, hk, hconcerns, hS⟩ := hsets
        cases hpairwise : k.conf.pairwise with
        | true => exact ⟨k, hperm.mem_iff.mpr hk, hpairwise, hS⟩
        | false =>
          have hiswep : k.conf.isWep = true := KeyConf.isWep_of_concerns hconcerns hpairwise
          obtain ⟨S', hS', k', hk', hclears'⟩ := hwep k hk hpairwise hiswep
          obtain rfl : S = S' := Option.some.inj (hS.symm.trans hS')
          exact ⟨k', hperm.mem_iff.mpr hk', hclears'⟩
      · exact hstart.sta S b hb

end Restored

/-- The pairwise key is removed first, and the group key after it. -/
theorem restored_iff_groupLast : ∃ mac₁ mac₂,
    callAll .SET_KEY 1 [ccmpKey, tkipGroupKey] macNotEncrypted = some mac₁ ∧
      callAll .DISABLE_KEY 1 [ccmpKey, tkipGroupKey] mac₁ = some mac₂ ∧ NotEncrypted mac₂ 1 := by
  refine (restored_iff macNotEncrypted_start ?_ (List.Perm.refl _)).mpr ⟨?_, ?_⟩
  · intro k hk S hS
    rcases List.mem_pair.mp hk with rfl | rfl
    · rw [← Option.some.inj hS]
      rfl
    · cases hS
  · intro k hk
    rw [← Option.some.inj hk]
    rfl
  · intro k hk hpairwise hwep
    rcases List.mem_pair.mp hk with rfl | rfl
    · exact absurd hpairwise (by decide)
    · exact absurd hwep (by decide)

/-- A pairwise key is installed, and its removal leaves `encrypt_type` as it was. -/
theorem restored_fails_on_pairwise : ∃ mac₁ mac₂, NotEncrypted macNotEncrypted 1 ∧
    callAll .SET_KEY 1 [ccmpKey] macNotEncrypted = some mac₁ ∧
      callAll .DISABLE_KEY 1 [ccmpKey] mac₁ = some mac₂ ∧ ¬NotEncrypted mac₂ 1 := by
  obtain ⟨mac₂, hrun, htype⟩ : ∃ mac₂, (callAll .SET_KEY 1 [ccmpKey] macNotEncrypted).bind
      (callAll .DISABLE_KEY 1 [ccmpKey]) = some mac₂ ∧
      (mac₂.vif 1).any (fun priv => priv.encrypt_type = .CCMP) = true :=
    (Option.any_eq_true _ _).mp (by decide +kernel)
  obtain ⟨mac₁, hset, hdisable⟩ := Option.bind_eq_some_iff.mp hrun
  refine ⟨mac₁, mac₂, macNotEncrypted_start, hset, hdisable, fun hend => ?_⟩
  obtain ⟨priv, hpriv, hnone⟩ := hend.vif
  rw [hpriv, Option.any_some, hnone] at htype
  exact absurd htype (by decide)

end Wcn36xx
