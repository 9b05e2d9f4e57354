import Wcn36xx.Mac.Keys
import Wcn36xx.Smd.Request

/-!
# What `wcn36xx_set_key` touches

mac80211 gives `wcn36xx_set_key` a station for every pairwise key. For a group key, and for a default WEP
key, it may give none, and then `sta_priv` points to nothing. `setKeyAccesses` lists the reads and
writes of `sta_priv`, and the copies of the key, in the order in which the function makes them.
`accesses_inBounds_iff` says which calls are safe, and `setKey_isSome_iff` that these are the calls that
`setKey` has no fault for.
-/

namespace Wcn36xx

/-- An access of `wcn36xx_set_key` that can go wrong. -/
inductive KeyAccess where
  /-- A read or write of the private data of its station. -/
  | staPriv (sta : Option ℕ)
  /-- `memcpy(key + off, …, len)`, with the `WLAN_MAX_KEY_LEN` bytes of `key`. -/
  | keyBuf (off len : ℕ)
  /-- `memcpy` of `len` bytes to the key field of `struct wcn36xx_hal_keys`. -/
  | msgKey (len : ℕ)
  deriving DecidableEq

/-- The station is there, and the copy ends in its array. -/
def KeyAccess.inBounds : KeyAccess → Bool
  | .staPriv sta => sta.isSome
  | .keyBuf off len => decide (off + len ≤ WLAN_MAX_KEY_LEN)
  | .msgKey len => decide (len ≤ WCN36XX_HAL_MAC_MAX_KEY_LENGTH)

/-- The copies of the key to the buffer on the stack. -/
def KeyConf.copies (conf : KeyConf) (encrypt_type : AniEdType) : List KeyAccess :=
  if encrypt_type = .TKIP then [.keyBuf 0 16, .keyBuf 16 8, .keyBuf 24 8]
  else [.keyBuf 0 conf.key.length]

/-- The accesses of a call of `wcn36xx_set_key` on an interface of the type `type`. -/
def setKeyAccesses (type : Nl80211Iftype) (cmd : SetKeyCmd) (sta : Option ℕ) (aid : BitVec 16)
    (conf : KeyConf) : List KeyAccess :=
  match conf.encryptType with
  | none => []
  | some encrypt_type =>
    match cmd with
    | .SET_KEY =>
      conf.copies encrypt_type ++
        if conf.pairwise then
          -- `is_data_encrypted`, the station in `wcn36xx_smd_config_bss`, and `get_sta_index`.
          .staPriv sta :: ((if type = .STATION then [.staPriv sta] else []) ++
            [.staPriv sta, .msgKey conf.key.length])
        else
          .msgKey conf.key.length ::
            -- `is_data_encrypted` and `get_sta_index`.
            if conf.isWep then [.staPriv sta, .staPriv sta, .msgKey conf.key.length] else []
    | .DISABLE_KEY =>
      if !conf.pairwise then []
      else
        -- `is_data_encrypted`, `aid` and `get_sta_index`.
        .staPriv sta :: .staPriv sta :: if aid ≠ 0 then [.staPriv sta] else []
    | .other => []

/-- The call installs a WEP group key without a station. -/
def wepWithoutSta (cmd : SetKeyCmd) (sta : Option ℕ) (conf : KeyConf) : Bool :=
  cmd == .SET_KEY && !conf.pairwise && conf.isWep && sta.isNone

section Accesses

variable {conf : KeyConf}

/-- The copies end in the buffer when the key is not too long. -/
theorem copies_inBounds (hlen : conf.key.length ≤ WLAN_MAX_KEY_LEN) (encrypt_type : AniEdType) :
    ∀ a ∈ conf.copies encrypt_type, a.inBounds = true := by
  unfold KeyConf.copies
  split_ifs
  · decide
  · intro a ha
    rw [List.mem_singleton.mp ha]
    exact decide_eq_true (by omega)

/-- Only a cipher that is supported is one of WEP. -/
theorem KeyConf.isSome_of_isWep (h : conf.isWep = true) : conf.encryptType.isSome = true := by
  unfold KeyConf.isWep at h
  rw [Bool.or_eq_true, beq_iff_eq, beq_iff_eq] at h
  unfold KeyConf.encryptType
  rcases h with h | h
  · rw [if_pos h]
    rfl
  · rw [h]
    decide

variable (hlen : conf.key.length ≤ WLAN_MAX_KEY_LEN) {sta : Option ℕ}
include hlen

/-- With a station every access is in bounds. -/
theorem inBounds_of_isSome (hsta : sta.isSome = true) (type : Nl80211Iftype) (cmd : SetKeyCmd)
    (aid : BitVec 16) : ∀ a ∈ setKeyAccesses type cmd sta aid conf, a.inBounds = true := by
  have hmsg : (KeyAccess.msgKey conf.key.length).inBounds = true := decide_eq_true hlen
  have hpriv : (KeyAccess.staPriv sta).inBounds = true := hsta
  have hcopies := copies_inBounds hlen
  unfold setKeyAccesses
  cases conf.encryptType with
  | none => exact nofun
  | some encrypt_type =>
    dsimp only
    intro a ha
    have hcases : a ∈ conf.copies encrypt_type ∨ a = .msgKey conf.key.length ∨ a = .staPriv sta := by
      cases cmd with
      | SET_KEY =>
        dsimp only at ha
        rw [List.mem_append] at ha
        refine ha.imp_right fun ha => ?_
        split_ifs at ha <;> simp at ha <;> tauto
      | DISABLE_KEY =>
        dsimp only at ha
        refine .inr (.inr ?_)
        split_ifs at ha <;> simp at ha <;> tauto
      | other => cases ha
    rcases hcases with hcopy | rfl | rfl
    · exact hcopies encrypt_type a hcopy
    · exact hmsg
    · exact hpriv

/-- Without a station, the installation of a group key stays in bounds unless the key is one of WEP. -/
theorem inBounds_group_iff (hgroup : conf.pairwise = false) (type : Nl80211Iftype)
    (aid : BitVec 16) :
    (∀ a ∈ setKeyAccesses type .SET_KEY none aid conf, a.inBounds = true) ↔
      conf.isWep = false := by
  cases hwep : conf.isWep with
  | true =>
    refine iff_of_false (fun hall => ?_) Bool.noConfusion
    obtain ⟨encrypt_type, htype⟩ := Option.isSome_iff_exists.mp (KeyConf.isSome_of_isWep hwep)
    have hbad : (KeyAccess.staPriv none).inBounds = true :=
      hall (.staPriv none) (by simp [setKeyAccesses, htype, hgroup, hwep])
    cases hbad
  | false =>
    refine iff_of_true (fun a ha => ?_) rfl
    cases htype : conf.encryptType with
    | none =>
      rw [setKeyAccesses, htype] at ha
      cases ha
    | some encrypt_type =>
      simp only [setKeyAccesses, htype, hgroup, hwep, Bool.false_eq_true, if_false,
        List.mem_append, List.mem_singleton] at ha
      rcases ha with ha | rfl
      · exact copies_inBounds hlen encrypt_type a ha
      · exact decide_eq_true hlen

omit hlen in
/-- No other call with a group key has an access that can go wrong. -/
theorem setKeyAccesses_group {cmd : SetKeyCmd} (hcmd : cmd ≠ .SET_KEY)
    (hgroup : conf.pairwise = false) (type : Nl80211Iftype) (aid : BitVec 16) :
    setKeyAccesses type cmd sta aid conf = [] := by
  unfold setKeyAccesses
  cases conf.encryptType with
  | none => rfl
  | some encrypt_type =>
    cases cmd with
    | SET_KEY => exact absurd rfl hcmd
    | DISABLE_KEY =>
      dsimp only
      rw [hgroup, Bool.not_false, if_pos rfl]
    | other => rfl

/-- A call of `wcn36xx_set_key` with a key of at most 32 bytes, and with a station if the key is a pairwise
one, stays in bounds exactly when it does not install a WEP group key without a station. -/
theorem accesses_inBounds_iff (hsta : conf.pairwise = true → sta.isSome = true)
    (type : Nl80211Iftype) (cmd : SetKeyCmd) (aid : BitVec 16) :
    (∀ a ∈ setKeyAccesses type cmd sta aid conf, a.inBounds = true) ↔
      wepWithoutSta cmd sta conf = false := by
  unfold wepWithoutSta
  cases hnone : sta with
  | some S =>
    rw [Option.isNone_some, Bool.and_false]
    exact iff_of_true (inBounds_of_isSome hlen rfl type cmd aid) rfl
  | none =>
    have hgroup : conf.pairwise = false := by
      rw [hnone] at hsta
      exact Bool.eq_false_iff.mpr fun h => Bool.false_ne_true (hsta h)
    rw [hgroup, Option.isNone_none, Bool.not_false, Bool.and_true, Bool.and_true]
    by_cases hcmd : cmd = .SET_KEY
    · rw [hcmd, beq_self_eq_true, Bool.true_and]
      exact inBounds_group_iff hlen hgroup type aid
    · rw [setKeyAccesses_group hcmd hgroup, beq_eq_false_iff_ne.mpr hcmd, Bool.false_and]
      exact iff_of_true nofun rfl

end Accesses

/-! ## The faults of `setKey` -/

/-- The copy to the buffer on the stack. -/
theorem KeyConf.exists_copyKey {conf : KeyConf} (hlen : conf.key.length ≤ WLAN_MAX_KEY_LEN)
    {encrypt_type : AniEdType}
    (htkip : encrypt_type = .TKIP → conf.key.length = WLAN_MAX_KEY_LEN) :
    ∃ key, conf.copyKey encrypt_type = some key := by
  unfold KeyConf.copyKey
  split_ifs with htype hfull
  · exact ⟨_, rfl⟩
  · exact absurd (htkip htype) hfull
  · exact ⟨_, rfl⟩

section Faults

variable {mac : MacConf} {vif : ℕ} {priv : WcnVif} (hvif : mac.vif vif = some priv)
  {conf : KeyConf} (hlen : conf.key.length ≤ WLAN_MAX_KEY_LEN)
  (htkip : conf.encryptType = some .TKIP → conf.key.length = WLAN_MAX_KEY_LEN)
include hvif hlen htkip

/-- With a station `setKey` has no fault. -/
theorem setKey_isSome_with_sta {S : ℕ} {s : WcnSta} (hs : mac.sta S = some s) (cmd : SetKeyCmd)
    (aid : BitVec 16) (rsp : Option ConfigBssRsp) :
    (setKey mac cmd vif (some S) aid conf rsp).isSome = true := by
  unfold setKey
  simp only [Option.bind_eq_bind, Option.pure_def, hvif, Option.bind_some]
  cases htype : conf.encryptType with
  | none => rfl
  | some encrypt_type =>
    obtain ⟨key, hkey⟩ := KeyConf.exists_copyKey hlen fun h => htkip (h ▸ htype)
    cases cmd with
    | SET_KEY =>
      simp only [hkey, hs, Option.bind_some]
      split_ifs <;> rfl
    | DISABLE_KEY =>
      simp only [hs, Option.bind_some]
      split_ifs <;> rfl
    | other => rfl

/-- Without one, its fault is the first access of the station's data. -/
theorem setKey_isSome_without_sta_iff (cmd : SetKeyCmd) (aid : BitVec 16)
    (rsp : Option ConfigBssRsp) :
    (setKey mac cmd vif none aid conf rsp).isSome = true ↔
      ∀ a ∈ setKeyAccesses priv.type cmd none aid conf, a.inBounds = true := by
  have hbad : (KeyAccess.staPriv none).inBounds ≠ true := Bool.false_ne_true
  unfold setKey
  simp only [Option.bind_eq_bind, Option.pure_def, hvif, Option.bind_some]
  cases htype : conf.encryptType with
  | none =>
    refine iff_of_true rfl ?_
    rw [setKeyAccesses, htype]
    exact nofun
  | some encrypt_type =>
    obtain ⟨key, hkey⟩ := KeyConf.exists_copyKey hlen fun h => htkip (h ▸ htype)
    cases cmd with
    | SET_KEY =>
      simp only [hkey, Option.bind_some, Option.bind_none, setKeyAccesses, htype]
      split_ifs with hpairwise hmode hwep
      · exact iff_of_false Bool.false_ne_true fun hall => hbad (hall _ (by simp))
      · exact iff_of_false Bool.false_ne_true fun hall => hbad (hall _ (by simp))
      · exact iff_of_false Bool.false_ne_true fun hall => hbad (hall _ (by simp))
      · -- A group key of another cipher: only copies.
        refine iff_of_true rfl fun a ha => ?_
        rw [List.mem_append, List.mem_singleton] at ha
        rcases ha with ha | rfl
        · exact copies_inBounds hlen encrypt_type a ha
        · exact decide_eq_true hlen
    | DISABLE_KEY =>
      simp only [setKeyAccesses, htype, Option.bind_none]
      split_ifs with hpairwise
      · exact iff_of_true rfl nofun
      · exact iff_of_false Bool.false_ne_true fun hall => hbad (hall _ List.mem_cons_self)
      · exact iff_of_false Bool.false_ne_true fun hall => hbad (hall _ List.mem_cons_self)
    | other =>
      refine iff_of_true rfl ?_
      rw [setKeyAccesses, htype]
      exact nofun

/-- `setKey` has no fault exactly for the calls that stay in bounds. The private data of a station that is
given exists, and a key for TKIP has the 32 bytes that the function reads. -/
theorem setKey_isSome_iff {sta : Option ℕ} (hpriv : ∀ S, sta = some S → ∃ s, mac.sta S = some s)
    (cmd : SetKeyCmd) (aid : BitVec 16) (rsp : Option ConfigBssRsp) :
    (setKey mac cmd vif sta aid conf rsp).isSome = true ↔
      ∀ a ∈ setKeyAccesses priv.type cmd sta aid conf, a.inBounds = true := by
  cases hsta : sta with
  | some S =>
    obtain ⟨s, hs⟩ := hpriv S hsta
    exact iff_of_true (setKey_isSome_with_sta hvif hlen htkip hs cmd aid rsp)
      (inBounds_of_isSome hlen rfl priv.type cmd aid)
  | none => exact setKey_isSome_without_sta_iff hvif hlen htkip cmd aid rsp

end Faults

/-- A CCMP group key without a station. -/
theorem accesses_inBounds_iff_group :
    (setKeyAccesses .AP .SET_KEY none 0
      { cipher := WLAN_CIPHER_SUITE_CCMP, key := List.replicate 16 0x5a }).all KeyAccess.inBounds =
        true :=
  List.all_eq_true.mpr
    ((accesses_inBounds_iff (by decide) (by decide) .AP .SET_KEY 0).mpr (by decide))

/-- A default WEP key without a station. -/
theorem accesses_fail_without_station :
    ¬∀ a ∈ setKeyAccesses .STATION .SET_KEY none 0
      { cipher := WLAN_CIPHER_SUITE_WEP40, key := List.replicate 5 0x5a }, a.inBounds = true := by
  decide

end Wcn36xx
