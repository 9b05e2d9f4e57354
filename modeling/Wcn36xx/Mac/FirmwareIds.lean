import Wcn36xx.Mac.Keys

/-!
# The numbers of the firmware

The firmware numbers interfaces, stations and their DPU descriptors, and tells the driver in the responses
to `wcn36xx_smd_add_sta_self`, `wcn36xx_smd_config_sta` and `wcn36xx_smd_config_bss`. The driver keeps the
numbers in the private data of interfaces and stations, where every other callback writes too.

`FwIds` is what the firmware has answered last. `CfgWorld` runs the callbacks of mac80211 that change
interfaces and stations, in any order and on any number of them, and `CfgInv` says that the private data
has the numbers that the firmware has answered (`cfgStep_inv`).
-/

namespace Wcn36xx

/-! ## What the firmware has answered -/

/-- The last responses of success since mac80211 added the interface or the station. -/
structure FwIds where
  /-- The response to `wcn36xx_smd_add_sta_self` for an interface. -/
  self : ℕ → Option AddStaSelfRsp := fun _ => none
  /-- The last response to `wcn36xx_smd_config_bss` for an interface. -/
  bss : ℕ → Option ConfigBssRsp := fun _ => none
  /-- The last response to `wcn36xx_smd_config_sta` for a station. -/
  sta : ℕ → Option ConfigStaRsp := fun _ => none
  /-- The last response to a `wcn36xx_smd_config_bss` that was called with the station. -/
  bssSta : ℕ → Option ConfigBssRsp := fun _ => none

namespace FwIds

variable (fw : FwIds)

/-- An interface is added, with the response to `wcn36xx_smd_add_sta_self`. -/
def addVif (vif : ℕ) (rsp : Option AddStaSelfRsp) : FwIds :=
  { fw with self := Function.update fw.self vif rsp, bss := Function.update fw.bss vif none }

/-- A station is added. -/
def addSta (sta : ℕ) : FwIds :=
  { fw with sta := Function.update fw.sta sta none, bssSta := Function.update fw.bssSta sta none }

/-- A response to `wcn36xx_smd_config_sta`. -/
def configSta (sta : ℕ) : Option ConfigStaRsp → FwIds
  | none => fw
  | some rsp => { fw with sta := Function.update fw.sta sta (some rsp) }

/-- A response to `wcn36xx_smd_config_bss`. -/
def configBss (vif : ℕ) (sta : Option ℕ) : Option ConfigBssRsp → FwIds
  | none => fw
  | some rsp => { fw with
      bss := Function.update fw.bss vif (some rsp)
      bssSta := sta.elim fw.bssSta fun sta => Function.update fw.bssSta sta (some rsp) }

end FwIds

/-- The response to `wcn36xx_smd_config_bss`, if it is one of success. -/
def ReqOutcome.configBssRsp (out : ReqOutcome) : Option ConfigBssRsp :=
  if out.ok then some out.rsp else none

/-- What the firmware answers to an operation of `wcn36xx_bss_info_changed`. -/
def BssOp.answer (fw : FwIds) (vif : ℕ) (sta_rsp : Option ConfigStaRsp) (out : ReqOutcome) :
    BssOp → FwIds
  | .smdConfigBss sta _ _ => fw.configBss vif sta out.configBssRsp
  | .smdConfigSta sta => fw.configSta sta sta_rsp
  | _ => fw

/-- What the firmware answers to a request of `wcn36xx_set_key`. -/
def KeyOp.answer (vif : ℕ) (rsp : Option ConfigBssRsp) (fw : FwIds) : KeyOp → FwIds
  | .configBss sta => fw.configBss vif (some sta) rsp
  | _ => fw

/-! ## The callbacks -/

/-- The interfaces and stations of mac80211, the driver's data for them, and the firmware's answers. -/
structure CfgWorld where
  mac : MacConf := {}
  /-- The stations that mac80211 has added, each with its interface. -/
  stations : List (ℕ × ℕ) := []
  /-- What is left of the call of `wcn36xx_bss_info_changed` on each interface. -/
  todo : ℕ → List BssOp := fun _ => []
  fw : FwIds := {}

/-- The callbacks, with the responses to their requests. -/
inductive CfgEvent where
  /-- `wcn36xx_add_interface`. -/
  | addInterface (vif : ℕ) (priv : WcnVif) (rsp : Option AddStaSelfRsp)
  /-- `wcn36xx_remove_interface`. -/
  | removeInterface (vif : ℕ)
  /-- `wcn36xx_sta_add`. -/
  | staAdd (vif sta : ℕ) (sta_priv : WcnSta) (rsp : Option ConfigStaRsp)
  /-- `wcn36xx_sta_remove`. -/
  | staRemove (vif sta : ℕ)
  /-- `wcn36xx_bss_info_changed` is called. -/
  | bssInfoChanged (vif : ℕ) (conf : BssConf) (changed : BssChanged) (env : BssEnv)
  /-- The call on an interface makes its next operation. -/
  | op (vif : ℕ) (sta_rsp : Option ConfigStaRsp) (out : ReqOutcome)
  /-- `wcn36xx_set_key`. -/
  | setKey (cmd : SetKeyCmd) (vif : ℕ) (sta : Option ℕ) (aid : BitVec 16) (conf : KeyConf)
      (rsp : Option ConfigBssRsp)
  /-- `wcn36xx_ampdu_action`. -/
  | ampduAction (vif : ℕ) (action : AmpduMlmeAction) (sta : ℕ) (tid : BitVec 16)
  /-- mac80211 changes the channel. -/
  | channel (is_ht : Bool) (band : Band)

/-- `wcn36xx_smd_config_bss_rsp` for a response of success, whatever its numbers. -/
def configBssRspMac (mac : MacConf) (vif : ℕ) (priv : WcnVif) (sta : Option ℕ) (rsp : ConfigBssRsp) :
    MacConf :=
  { mac.setVif vif (ConfigBssRsp.toVif priv (some rsp)) with
    sta := sta.elim mac.sta fun sta => Function.update mac.sta sta
      ((mac.sta sta).map fun s => ConfigBssRsp.toSta s (some rsp)) }

/-- One operation of `wcn36xx_bss_info_changed` on the driver's data. -/
def opMac (mac : MacConf) (vif : ℕ) (sta_rsp : Option ConfigStaRsp) (out : ReqOutcome) :
    BssOp → Option MacConf
  | .smdConfigSta sta => some (smdConfigSta { mac := mac } sta sta_rsp).mac
  | .smdConfigBss sta _ _ =>
    (mac.vif vif).map fun priv => out.configBssRsp.elim mac (configBssRspMac mac vif priv sta)
  | op => (runOp { mac := mac } vif op out).map BssWorld.mac

-- Whether a station is one of an interface is decided by comparing the pairs.
local instance lawfulBEq_pair : LawfulBEq (ℕ × ℕ) := inferInstance

/-- A callback. mac80211 makes one call of `wcn36xx_bss_info_changed` at a time for an interface, finds
stations that it has added to the interface, and does not remove one that the call has found. -/
def cfgStep (w : CfgWorld) : CfgEvent → Option CfgWorld
  | .addInterface vif priv rsp =>
    if vif ∈ w.mac.vif_list then none
    else
      let (mac, ret) := addInterface w.mac vif priv rsp
      some { w with mac := mac, fw := if ret = 0 then w.fw.addVif vif rsp else w.fw }
  | .removeInterface vif =>
    if vif ∈ w.mac.vif_list ∧ w.todo vif = [] ∧ ∀ p ∈ w.stations, p.2 ≠ vif then
      some { w with mac := { w.mac with vif_list := w.mac.vif_list.erase vif } }
    else none
  | .staAdd vif sta sta_priv rsp => do
    let priv ← w.mac.vif vif
    if vif ∈ w.mac.vif_list ∧ ∀ p ∈ w.stations, p.1 ≠ sta then
      let fw := w.fw.addSta sta
      return { w with
        mac := (staAdd { mac := w.mac } vif priv sta sta_priv rsp).mac
        stations := (sta, vif) :: w.stations
        fw := if priv.type ≠ .STATION then fw.configSta sta rsp else fw }
    else none
  | .staRemove vif sta => do
    let sta_priv ← w.mac.sta sta
    if (sta, vif) ∈ w.stations ∧ BssOp.smdConfigSta sta ∉ w.todo vif then
      return { w with
        mac := (staRemove { mac := w.mac } sta sta_priv).mac
        stations := w.stations.filter fun p => p.1 != sta }
    else none
  | .bssInfoChanged vif conf changed env => do
    let priv ← w.mac.vif vif
    if vif ∈ w.mac.vif_list ∧ w.todo vif = [] ∧ ∀ sta ∈ env.find_sta, (sta, vif) ∈ w.stations then
      return { w with
        todo := Function.update w.todo vif (bssInfoChanged priv conf changed env) }
    else none
  | .op vif sta_rsp out =>
    match w.todo vif with
    | [] => none
    | op :: rest => do
      let mac ← opMac w.mac vif sta_rsp out op
      return { w with
        mac := mac, todo := Function.update w.todo vif rest, fw := op.answer w.fw vif sta_rsp out }
  | .setKey cmd vif sta aid conf rsp => do
    let (mac, ops, _) ← setKey w.mac cmd vif sta aid conf rsp
    return { w with mac := mac, fw := ops.foldl (KeyOp.answer vif rsp) w.fw }
  | .ampduAction vif action sta tid => do
    let (mac, _) ← ampduAction w.mac vif action sta tid
    return { w with mac := mac }
  | .channel is_ht band => some { w with mac := { w.mac with is_ht := is_ht, band := band } }

/-! ## The invariant -/

/-- The private data of an interface has the numbers of the responses. -/
structure WcnVif.Mirrors (priv : WcnVif) (vif : Option AddStaSelfRsp) (bss : Option ConfigBssRsp) :
    Prop where
  addStaSelf : ∀ rsp ∈ vif,
    priv.self_sta_index = rsp.self_sta_index ∧ priv.self_dpu_desc_index = rsp.dpu_index
  configBss : ∀ rsp ∈ bss, priv.self_ucast_dpu_sign = rsp.ucast_dpu_signature

/-- The private data of a station has the numbers of the responses. -/
structure WcnSta.Mirrors (sta_priv : WcnSta) (sta : Option ConfigStaRsp)
    (bssSta : Option ConfigBssRsp) : Prop where
  configSta : ∀ rsp ∈ sta, sta_priv.sta_index = rsp.sta_index ∧
    sta_priv.dpu_desc_index = rsp.dpu_index ∧ sta_priv.ucast_dpu_sign = rsp.uc_ucast_sig
  configBss : ∀ rsp ∈ bssSta, sta_priv.bss_sta_index = rsp.bss_sta_index ∧
    sta_priv.bss_dpu_desc_index = rsp.dpu_desc_index

/-- The invariant of the callbacks. -/
structure CfgInv (w : CfgWorld) : Prop where
  vif : ∀ vif, ∀ priv ∈ w.mac.vif vif, priv.Mirrors (w.fw.self vif) (w.fw.bss vif)
  sta : ∀ sta, ∀ sta_priv ∈ w.mac.sta sta, sta_priv.Mirrors (w.fw.sta sta) (w.fw.bssSta sta)
  /-- An added interface is of a type that the driver supports. -/
  type : ∀ vif ∈ w.mac.vif_list, ∃ priv, w.mac.vif vif = some priv ∧ priv.type ≠ .other
  /-- An added station is on an added interface. -/
  stations : ∀ p ∈ w.stations, p.2 ∈ w.mac.vif_list ∧
    ∃ sta_priv, w.mac.sta p.1 = some sta_priv ∧ sta_priv.vif = some p.2

/-- What the invariant reads of an interface. -/
def WcnVif.ids (priv : WcnVif) : Nl80211Iftype × Byte × Byte × Byte :=
  (priv.type, priv.self_sta_index, priv.self_dpu_desc_index, priv.self_ucast_dpu_sign)

/-- What the invariant reads of a station. -/
def WcnSta.ids (sta_priv : WcnSta) : Option ℕ × (Byte × Byte × Byte) × Byte × Byte :=
  (sta_priv.vif, (sta_priv.sta_index, sta_priv.dpu_desc_index, sta_priv.ucast_dpu_sign),
    sta_priv.bss_sta_index, sta_priv.bss_dpu_desc_index)

/-- The same interfaces and stations with the same numbers. -/
structure SameIds (mac mac' : MacConf) : Prop where
  list : mac'.vif_list = mac.vif_list
  vif : ∀ vif, (mac'.vif vif).map WcnVif.ids = (mac.vif vif).map WcnVif.ids
  sta : ∀ sta, (mac'.sta sta).map WcnSta.ids = (mac.sta sta).map WcnSta.ids

namespace SameIds

variable {mac mac' : MacConf}

theorem refl (mac : MacConf) : SameIds mac mac := ⟨rfl, fun _ => rfl, fun _ => rfl⟩

theorem trans {mac'' : MacConf} (h : SameIds mac mac') (h' : SameIds mac' mac'') :
    SameIds mac mac'' :=
  ⟨h'.list.trans h.list, fun vif => (h'.vif vif).trans (h.vif vif),
    fun sta => (h'.sta sta).trans (h.sta sta)⟩

/-- The private data of an interface is written, with the same numbers. -/
theorem setVif {vif : ℕ} {old priv : WcnVif} (hold : mac.vif vif = some old)
    (hids : priv.ids = old.ids) : SameIds mac (mac.setVif vif priv) where
  list := rfl
  vif := by
    intro v
    unfold MacConf.setVif
    dsimp only
    rcases eq_or_ne v vif with rfl | hne
    · rw [Function.update_self, hold, Option.map_some, Option.map_some, hids]
    · rw [Function.update_of_ne hne]
  sta _ := rfl

/-- The private data of a station is written, with the same numbers. -/
theorem setSta {sta : ℕ} {old sta_priv : WcnSta} (hold : mac.sta sta = some old)
    (hids : sta_priv.ids = old.ids) : SameIds mac (mac.setSta sta sta_priv) where
  list := rfl
  vif _ := rfl
  sta := by
    intro s
    unfold MacConf.setSta
    dsimp only
    rcases eq_or_ne s sta with rfl | hne
    · rw [Function.update_self, hold, Option.map_some, Option.map_some, hids]
    · rw [Function.update_of_ne hne]

/-- The private data of an interface changes, and its numbers do not. -/
theorem modPriv (w : BssWorld) (vif : ℕ) {f : WcnVif → WcnVif} (hf : ∀ priv, (f priv).ids = priv.ids) :
    SameIds w.mac (w.modPriv vif f).mac where
  list := rfl
  vif := by
    intro v
    unfold BssWorld.modPriv
    dsimp only
    rcases eq_or_ne v vif with rfl | hne
    · rw [Function.update_self, Option.map_map]
      exact congrFun (congrArg Option.map (funext hf)) _
    · rw [Function.update_of_ne hne]
  sta _ := rfl

/-- Of the operations of `wcn36xx_bss_info_changed` only `wcn36xx_smd_config_bss` gets a number. -/
theorem runOp {w w' : BssWorld} {vif : ℕ} {op : BssOp} {out : ReqOutcome}
    (hop : ∀ sta bssid update, op ≠ .smdConfigBss sta bssid update)
    (h : runOp w vif op out = some w') : SameIds w.mac w'.mac := by
  obtain ⟨priv, hpriv, h⟩ := Option.bind_eq_some_iff.mp h
  split_ifs at h
  cases op with
  | dtimPeriod | isJoining | bssIndexInvalid | encryptTypeNone | ssid | staAssoc =>
    cases h
    apply modPriv
    exact fun _ => rfl
  | pmcEnterBmpsState =>
    cases h
    unfold Wcn36xx.pmcEnterBmpsState
    dsimp only
    split_ifs
    · apply modPriv
      exact fun _ => rfl
    · exact refl _
  | pmcExitBmpsState =>
    cases h
    unfold Wcn36xx.pmcExitBmpsState
    split_ifs
    · exact refl _
    · apply modPriv (w.name .EXIT_BMPS vif priv)
      exact fun _ => rfl
  | smdConfigBss sta bssid update => exact absurd rfl (hop sta bssid update)
  | smdDeleteBss =>
    cases h
    unfold Wcn36xx.smdDeleteBss
    dsimp only
    split_ifs
    · exact refl _
    · exact refl _
  | smdJoin | smdSetLinkSt | smdConfigSta | smdUpdateProberespTmpl | smdSendBeacon =>
    cases h
    exact refl _

/-- Building a BD changes no number. -/
theorem startTxBd {sta_priv : Option ℕ} {skb : SkBuff} {bd : TxBd} {vif : ℕ} {es : List Effect}
    (h : startTxBd mac sta_priv skb = some (bd, vif, mac', es)) : SameIds mac mac' := by
  unfold Wcn36xx.startTxBd at h
  split_ifs at h
  · obtain ⟨rfl | ⟨S, hampdu⟩, -⟩ := setTxData_eq h
    · exact refl _
    · rcases txStartAmpdu_cases hampdu with ⟨rfl, -⟩ | ⟨s, hs, -, ⟨-, -, rfl⟩ | ⟨-, -, rfl⟩⟩
      · exact refl _
      · exact setSta hs rfl
      · exact setSta hs rfl
  · simp only [setTxMgmt, Option.bind_eq_bind, Option.bind_eq_some_iff, Option.pure_def,
      Option.some.injEq, Prod.mk.injEq] at h
    obtain ⟨-, -, -, -, -, -, -, -, rfl, -⟩ := h
    exact refl _

/-- `wcn36xx_ampdu_action` changes no number. -/
theorem ampduAction {vif : ℕ} {action : AmpduMlmeAction} {sta : ℕ} {tid : BitVec 16}
    {calls : List AmpduCall} (h : ampduAction mac vif action sta tid = some (mac', calls)) :
    SameIds mac mac' := by
  obtain ⟨s, hs, ⟨-, rfl⟩ | ⟨-, rfl | ⟨state, rfl⟩⟩⟩ := ampduAction_cases h
  · exact setSta hs rfl
  · exact refl _
  · exact setSta hs rfl

end SameIds

namespace CfgInv

variable {w : CfgWorld} (h : CfgInv w)
include h

/-- What does not change the numbers keeps the invariant. -/
theorem same {mac : MacConf} (hsame : SameIds w.mac mac) (todo : ℕ → List BssOp) :
    CfgInv { w with mac := mac, todo := todo } where
  vif := by
    intro vif priv hpriv
    have hids := hsame.vif vif
    rw [Option.mem_def.mp hpriv, Option.map_some] at hids
    obtain ⟨old, hold, heq⟩ := Option.map_eq_some_iff.mp hids.symm
    obtain ⟨-, hsta, hdpu, hsign⟩ : _ ∧ _ ∧ _ ∧ _ := by
      simpa only [WcnVif.ids, Prod.mk.injEq] using heq
    have hm := h.vif vif old hold
    constructor
    · intro rsp hrsp
      rw [← hsta, ← hdpu]
      exact hm.addStaSelf rsp hrsp
    · intro rsp hrsp
      rw [← hsign]
      exact hm.configBss rsp hrsp
  sta := by
    intro sta sta_priv hpriv
    have hids := hsame.sta sta
    rw [Option.mem_def.mp hpriv, Option.map_some] at hids
    obtain ⟨old, hold, heq⟩ := Option.map_eq_some_iff.mp hids.symm
    obtain ⟨-, ⟨hsta, hdpu, hsign⟩, hbsta, hbdpu⟩ : _ ∧ (_ ∧ _ ∧ _) ∧ _ ∧ _ := by
      simpa only [WcnSta.ids, Prod.mk.injEq] using heq
    have hm := h.sta sta old hold
    constructor
    · intro rsp hrsp
      rw [← hsta, ← hdpu, ← hsign]
      exact hm.configSta rsp hrsp
    · intro rsp hrsp
      rw [← hbsta, ← hbdpu]
      exact hm.configBss rsp hrsp
  type := by
    intro vif hvif
    dsimp only at hvif ⊢
    rw [hsame.list] at hvif
    obtain ⟨old, hold, htype⟩ := h.type vif hvif
    have hids := hsame.vif vif
    rw [hold, Option.map_some] at hids
    obtain ⟨priv, hpriv, heq⟩ := Option.map_eq_some_iff.mp hids
    exact ⟨priv, hpriv, (congrArg Prod.fst heq).trans_ne htype⟩
  stations := by
    intro p hp
    dsimp only
    rw [hsame.list]
    obtain ⟨hlist, old, hold, hvif⟩ := h.stations p hp
    have hids := hsame.sta p.1
    rw [hold, Option.map_some] at hids
    obtain ⟨sta_priv, hpriv, heq⟩ := Option.map_eq_some_iff.mp hids
    exact ⟨hlist, sta_priv, hpriv, (congrArg Prod.fst heq).trans hvif⟩

/-- The private data of an interface is written, with the numbers of a new response. -/
theorem writeBss {vif : ℕ} {old : WcnVif} (priv : WcnVif) (rsp : ConfigBssRsp)
    (hold : w.mac.vif vif = some old)
    (htype : priv.type = old.type) (hself : priv.self_sta_index = old.self_sta_index)
    (hdpu : priv.self_dpu_desc_index = old.self_dpu_desc_index)
    (hsign : priv.self_ucast_dpu_sign = rsp.ucast_dpu_signature) :
    CfgInv { w with
      mac := w.mac.setVif vif priv
      fw := { w.fw with bss := Function.update w.fw.bss vif (some rsp) } } where
  vif := by
    intro v priv' hpriv'
    unfold MacConf.setVif at hpriv'
    dsimp only at hpriv' ⊢
    rcases eq_or_ne v vif with rfl | hne
    · rw [Function.update_self, Option.mem_some_iff] at hpriv'
      rw [Function.update_self, ← hpriv']
      constructor
      · rw [hself, hdpu]
        exact (h.vif v old hold).addStaSelf
      · intro r hr
        rw [hsign, Option.mem_some_iff.mp hr]
    · rw [Function.update_of_ne hne] at hpriv' ⊢
      exact h.vif v priv' hpriv'
  sta := h.sta
  type := by
    intro v hv
    unfold MacConf.setVif
    dsimp only
    obtain ⟨p, hp, hne⟩ := h.type v hv
    rcases eq_or_ne v vif with rfl | hv
    · rw [Option.some.inj (hp.symm.trans hold), ← htype] at hne
      exact ⟨priv, Function.update_self _ _ _, hne⟩
    · rw [Function.update_of_ne hv]
      exact ⟨p, hp, hne⟩
  stations := h.stations

/-- The private data of a station is written, with the numbers of new responses. -/
theorem writeSta {sta : ℕ} {old : WcnSta} (sta_priv : WcnSta) (hold : w.mac.sta sta = some old)
    (hvif : sta_priv.vif = old.vif) {fw : FwIds} (hself : fw.self = w.fw.self)
    (hbss : fw.bss = w.fw.bss) (hm : sta_priv.Mirrors (fw.sta sta) (fw.bssSta sta))
    (hother : ∀ s, s ≠ sta → fw.sta s = w.fw.sta s ∧ fw.bssSta s = w.fw.bssSta s) :
    CfgInv { w with mac := w.mac.setSta sta sta_priv, fw := fw } where
  vif := by
    dsimp only
    rw [hself, hbss]
    exact h.vif
  sta := by
    intro s priv hpriv
    unfold MacConf.setSta at hpriv
    dsimp only at hpriv ⊢
    rcases eq_or_ne s sta with rfl | hne
    · rw [Function.update_self, Option.mem_some_iff] at hpriv
      exact hpriv ▸ hm
    · rw [Function.update_of_ne hne] at hpriv
      rw [(hother s hne).1, (hother s hne).2]
      exact h.sta s priv hpriv
  type := h.type
  stations := by
    intro p hp
    unfold MacConf.setSta
    dsimp only
    obtain ⟨hlist, priv, hpriv, hp⟩ := h.stations p hp
    refine ⟨hlist, ?_⟩
    -- The station that is written stays on its interface.
    rcases eq_or_ne p.1 sta with heq | hne
    · rw [heq] at hpriv ⊢
      rw [Option.some.inj (hpriv.symm.trans hold)] at hp
      exact ⟨sta_priv, Function.update_self _ _ _, hvif.trans hp⟩
    · rw [Function.update_of_ne hne]
      exact ⟨priv, hpriv, hp⟩

/-- A response about a station that has no private data changes no number. -/
theorem noSta {sta : ℕ} (hnone : w.mac.sta sta = none) {fw : FwIds} (hself : fw.self = w.fw.self)
    (hbss : fw.bss = w.fw.bss)
    (hother : ∀ s, s ≠ sta → fw.sta s = w.fw.sta s ∧ fw.bssSta s = w.fw.bssSta s) :
    CfgInv { w with fw := fw } where
  vif := by
    dsimp only
    rw [hself, hbss]
    exact h.vif
  sta := by
    intro s priv hpriv
    have hne : s ≠ sta := by
      rintro rfl
      rw [Option.mem_def.mp hpriv] at hnone
      cases hnone
    dsimp only
    rw [(hother s hne).1, (hother s hne).2]
    exact h.sta s priv hpriv
  type := h.type
  stations := h.stations

/-- `wcn36xx_smd_config_sta_rsp`. -/
theorem configSta (sta : ℕ) (rsp : Option ConfigStaRsp) :
    CfgInv { w with
      mac := (smdConfigSta { mac := w.mac } sta rsp).mac, fw := w.fw.configSta sta rsp } := by
  cases rsp with
  | none => exact h
  | some rsp =>
    cases hold : w.mac.sta sta with
    | none =>
      unfold smdConfigSta FwIds.configSta
      dsimp only
      rw [hold, Option.map_none, Function.update_eq_self_iff.mpr hold.symm]
      exact h.noSta hold rfl rfl fun s hne => ⟨Function.update_of_ne hne _ _, rfl⟩
    | some old =>
      unfold smdConfigSta FwIds.configSta
      dsimp only
      rw [hold, Option.map_some]
      refine h.writeSta { old with
        sta_index := rsp.sta_index
        dpu_desc_index := rsp.dpu_index
        ucast_dpu_sign := rsp.uc_ucast_sig } hold rfl rfl rfl
        ⟨fun r hr => ?_, (h.sta sta old hold).configBss⟩ ?_
      · dsimp only at hr
        rw [Function.update_self, Option.mem_some_iff] at hr
        rw [← hr]
        exact ⟨rfl, rfl, rfl⟩
      · exact fun s hne => ⟨Function.update_of_ne hne _ _, rfl⟩

/-- `wcn36xx_smd_config_bss_rsp`, for an interface and a station whose other data may change too. -/
theorem configBss {vif : ℕ} {old : WcnVif} (priv : WcnVif) (hold : w.mac.vif vif = some old)
    (hids : priv.ids = old.ids) (rsp : ConfigBssRsp) (sta : Option ℕ) {f : WcnSta → WcnSta}
    (hf : ∀ s, (f s).ids = s.ids) :
    CfgInv { w with
      mac := { w.mac.setVif vif (ConfigBssRsp.toVif priv (some rsp)) with
        sta := sta.elim w.mac.sta fun sta => Function.update w.mac.sta sta
          ((w.mac.sta sta).map fun s => ConfigBssRsp.toSta (f s) (some rsp)) }
      fw := w.fw.configBss vif sta (some rsp) } := by
  obtain ⟨htype, hself, hdpu, -⟩ : _ ∧ _ ∧ _ ∧ _ := by
    simpa only [WcnVif.ids, Prod.mk.injEq] using hids
  have hvif := h.writeBss (ConfigBssRsp.toVif priv (some rsp)) rsp hold htype hself hdpu rfl
  cases sta with
  | none => exact hvif
  | some sta =>
    cases hpriv : w.mac.sta sta with
    | none =>
      unfold FwIds.configBss
      simp only [Option.elim_some]
      rw [hpriv, Option.map_none, Function.update_eq_self_iff.mpr hpriv.symm]
      exact hvif.noSta hpriv rfl rfl fun s hne => ⟨rfl, Function.update_of_ne hne _ _⟩
    | some s =>
      obtain ⟨hsvif, ⟨hindex, hdesc, hsign⟩, -, -⟩ : _ ∧ (_ ∧ _ ∧ _) ∧ _ ∧ _ := by
        simpa only [WcnSta.ids, Prod.mk.injEq] using hf s
      unfold FwIds.configBss
      simp only [Option.elim_some]
      rw [hpriv, Option.map_some]
      refine hvif.writeSta (ConfigBssRsp.toSta (f s) (some rsp)) hpriv hsvif rfl rfl ⟨?_, ?_⟩ ?_
      · intro r hr
        obtain ⟨hr₁, hr₂, hr₃⟩ := (h.sta sta s hpriv).configSta r hr
        exact ⟨hindex.trans hr₁, hdesc.trans hr₂, hsign.trans hr₃⟩
      · intro r hr
        dsimp only at hr
        rw [Function.update_self, Option.mem_some_iff] at hr
        rw [← hr]
        exact ⟨rfl, rfl⟩
      · exact fun s hne => ⟨rfl, Function.update_of_ne hne _ _⟩

/-- Every operation of `wcn36xx_bss_info_changed`. -/
theorem op {vif : ℕ} {sta_rsp : Option ConfigStaRsp} {out : ReqOutcome} {op : BssOp} {mac : MacConf}
    (hop : opMac w.mac vif sta_rsp out op = some mac) :
    CfgInv { w with mac := mac, fw := op.answer w.fw vif sta_rsp out } := by
  cases op with
  | smdConfigSta sta =>
    rw [← Option.some.inj hop]
    exact h.configSta sta sta_rsp
  | smdConfigBss sta bssid update =>
    obtain ⟨priv, hpriv, rfl⟩ := Option.map_eq_some_iff.mp hop
    unfold BssOp.answer
    dsimp only
    cases hrsp : out.configBssRsp with
    | none => exact h
    | some rsp => exact h.configBss priv hpriv rfl rsp sta (f := id) fun _ => rfl
  | dtimPeriod | isJoining | bssIndexInvalid | encryptTypeNone | ssid | staAssoc | pmcEnterBmpsState
  | pmcExitBmpsState | smdDeleteBss | smdJoin | smdSetLinkSt | smdUpdateProberespTmpl
  | smdSendBeacon =>
    obtain ⟨w', hrun, rfl⟩ := Option.map_eq_some_iff.mp hop
    have hsame : SameIds w.mac w'.mac := SameIds.runOp (fun _ _ _ hop => by cases hop) hrun
    exact h.same hsame w.todo

/-- `wcn36xx_set_key`: a pairwise key in station mode configures the BSS again. -/
theorem setKey {cmd : SetKeyCmd} {vif : ℕ} {sta : Option ℕ} {aid : BitVec 16} {conf : KeyConf}
    {rsp : Option ConfigBssRsp} {mac : MacConf} {ops : List KeyOp} {ret : ℤ}
    (hkey : setKey w.mac cmd vif sta aid conf rsp = some (mac, ops, ret)) :
    CfgInv { w with mac := mac, fw := ops.foldl (KeyOp.answer vif rsp) w.fw } := by
  unfold Wcn36xx.setKey at hkey
  simp only [Option.bind_eq_bind, Option.pure_def] at hkey
  obtain ⟨priv, hpriv, hkey⟩ := Option.bind_eq_some_iff.mp hkey
  have hvif : ∀ enc, SameIds w.mac (w.mac.setVif vif { priv with encrypt_type := enc }) :=
    fun _ => SameIds.setVif hpriv rfl
  have hsta : ∀ enc enc' S s, w.mac.sta S = some s → SameIds w.mac
      ((w.mac.setVif vif { priv with encrypt_type := enc }).setSta S
        { s with is_data_encrypted := enc' }) :=
    fun enc _ S s hs => (hvif enc).trans (@SameIds.setSta _ _ s _ hs rfl)
  cases htype : conf.encryptType with
  | none =>
    rw [htype] at hkey
    cases hkey
    exact h
  | some encrypt_type =>
    rw [htype] at hkey
    cases cmd with
    | SET_KEY =>
      obtain ⟨key, -, hkey⟩ := Option.bind_eq_some_iff.mp hkey
      split_ifs at hkey with hpairwise hmode hwep
      · -- The BSS is configured again.
        obtain ⟨S, -, hkey⟩ := Option.bind_eq_some_iff.mp hkey
        obtain ⟨s, hs, hkey⟩ := Option.bind_eq_some_iff.mp hkey
        cases hkey
        cases rsp with
        | none => exact h.same (hsta encrypt_type true S s hs) w.todo
        | some rsp =>
          have hset := h.configBss { priv with encrypt_type := encrypt_type } hpriv rfl rsp
            (some S) (f := fun s => { s with is_data_encrypted := true }) fun _ => rfl
          rw [Option.elim_some, hs, Option.map_some] at hset
          exact hset
      · obtain ⟨S, -, hkey⟩ := Option.bind_eq_some_iff.mp hkey
        obtain ⟨s, hs, hkey⟩ := Option.bind_eq_some_iff.mp hkey
        cases hkey
        exact h.same (hsta encrypt_type true S s hs) w.todo
      · obtain ⟨S, -, hkey⟩ := Option.bind_eq_some_iff.mp hkey
        obtain ⟨s, hs, hkey⟩ := Option.bind_eq_some_iff.mp hkey
        cases hkey
        exact h.same (hsta encrypt_type true S s hs) w.todo
      · cases hkey
        exact h.same (hvif encrypt_type) w.todo
    | DISABLE_KEY =>
      dsimp only at hkey
      split_ifs at hkey
      · cases hkey
        exact h.same (hvif .NONE) w.todo
      · obtain ⟨S, -, hkey⟩ := Option.bind_eq_some_iff.mp hkey
        obtain ⟨s, hs, hkey⟩ := Option.bind_eq_some_iff.mp hkey
        cases hkey
        exact h.same (hsta encrypt_type false S s hs) w.todo
      · obtain ⟨S, -, hkey⟩ := Option.bind_eq_some_iff.mp hkey
        obtain ⟨s, hs, hkey⟩ := Option.bind_eq_some_iff.mp hkey
        cases hkey
        exact h.same (hsta encrypt_type false S s hs) w.todo
    | other =>
      cases hkey
      exact h.same (hvif encrypt_type) w.todo

/-- An interface is added, with the numbers of its response. -/
theorem addVif {vif : ℕ} {priv : WcnVif} {rsp : Option AddStaSelfRsp} (htype : priv.type ≠ .other)
    (hm : priv.Mirrors rsp none) :
    CfgInv { w with
      mac := { w.mac with
        vif_list := vif :: w.mac.vif_list, vif := Function.update w.mac.vif vif (some priv) }
      fw := w.fw.addVif vif rsp } where
  vif := by
    intro v priv' hpriv'
    unfold FwIds.addVif
    dsimp only at hpriv' ⊢
    rcases eq_or_ne v vif with rfl | hne
    · rw [Function.update_self, Option.mem_some_iff] at hpriv'
      rw [Function.update_self, Function.update_self, ← hpriv']
      exact hm
    · rw [Function.update_of_ne hne] at hpriv'
      rw [Function.update_of_ne hne, Function.update_of_ne hne]
      exact h.vif v priv' hpriv'
  sta := h.sta
  type := by
    intro v hv
    dsimp only
    rcases eq_or_ne v vif with rfl | hne
    · exact ⟨priv, Function.update_self _ _ _, htype⟩
    · rw [Function.update_of_ne hne]
      exact h.type v ((List.mem_cons.mp hv).resolve_left hne)
  stations := by
    intro p hp
    obtain ⟨hlist, hsta⟩ := h.stations p hp
    exact ⟨List.mem_cons_of_mem _ hlist, hsta⟩

/-- `wcn36xx_add_interface`. -/
theorem addInterface {vif : ℕ} (priv : WcnVif) (rsp : Option AddStaSelfRsp) :
    CfgInv { w with
      mac := (addInterface w.mac vif priv rsp).1
      fw := if (addInterface w.mac vif priv rsp).2 = 0 then w.fw.addVif vif rsp else w.fw } := by
  unfold Wcn36xx.addInterface
  by_cases htype : priv.type = .other
  · rw [if_pos htype, if_neg (by dsimp only; decide)]
    exact h
  · rw [if_neg htype, if_pos rfl]
    cases rsp with
    | none => exact h.addVif htype ⟨fun r hr => (by cases hr), fun r hr => (by cases hr)⟩
    | some rsp =>
      refine h.addVif htype ⟨fun r hr => ?_, fun r hr => (by cases hr)⟩
      rw [← Option.mem_some_iff.mp hr]
      exact ⟨rfl, rfl⟩

/-- A station is added, without numbers. -/
theorem addSta {vif sta : ℕ} (hvif : vif ∈ w.mac.vif_list) (hnew : ∀ p ∈ w.stations, p.1 ≠ sta)
    (sta_priv : WcnSta) :
    CfgInv { w with
      mac := w.mac.setSta sta { sta_priv with vif := some vif }
      stations := (sta, vif) :: w.stations
      fw := w.fw.addSta sta } where
  vif := h.vif
  sta := by
    intro s priv hpriv
    unfold FwIds.addSta
    unfold MacConf.setSta at hpriv
    dsimp only at hpriv ⊢
    rcases eq_or_ne s sta with rfl | hne
    · rw [Function.update_self, Function.update_self]
      exact ⟨fun r hr => (by cases hr), fun r hr => (by cases hr)⟩
    · rw [Function.update_of_ne hne] at hpriv
      rw [Function.update_of_ne hne, Function.update_of_ne hne]
      exact h.sta s priv hpriv
  type := h.type
  stations := by
    intro p hp
    unfold MacConf.setSta
    dsimp only at hp ⊢
    rcases List.mem_cons.mp hp with rfl | hp
    · exact ⟨hvif, _, Function.update_self _ _ _, rfl⟩
    · rw [Function.update_of_ne (hnew p hp)]
      exact h.stations p hp

/-- `wcn36xx_sta_add`. -/
theorem staAdd {vif sta : ℕ} (hvif : vif ∈ w.mac.vif_list) (hnew : ∀ p ∈ w.stations, p.1 ≠ sta)
    (priv : WcnVif) (sta_priv : WcnSta) (rsp : Option ConfigStaRsp) :
    CfgInv { w with
      mac := (staAdd { mac := w.mac } vif priv sta sta_priv rsp).mac
      stations := (sta, vif) :: w.stations
      fw := if priv.type ≠ .STATION then (w.fw.addSta sta).configSta sta rsp
        else w.fw.addSta sta } := by
  have hadded := h.addSta hvif hnew sta_priv
  unfold Wcn36xx.staAdd
  dsimp only
  split_ifs
  · cases rsp with
    | none => exact hadded
    | some rsp => exact hadded.configSta sta (some rsp)
  · exact hadded

/-- `wcn36xx_sta_remove`. -/
theorem staRemove {sta : ℕ} {sta_priv : WcnSta} (hpriv : w.mac.sta sta = some sta_priv) :
    CfgInv { w with
      mac := (staRemove { mac := w.mac } sta sta_priv).mac
      stations := w.stations.filter fun p => p.1 != sta } where
  vif := h.vif
  sta := by
    intro s priv hs
    unfold Wcn36xx.staRemove smdDeleteSta at hs
    dsimp only at hs
    rcases eq_or_ne s sta with rfl | hne
    · rw [Function.update_self, Option.mem_some_iff] at hs
      have hm := h.sta s sta_priv hpriv
      rw [← hs]
      exact ⟨hm.configSta, hm.configBss⟩
    · rw [Function.update_of_ne hne] at hs
      exact h.sta s priv hs
  type := h.type
  stations := by
    intro p hp
    obtain ⟨hp, hne⟩ := List.mem_filter.mp hp
    unfold Wcn36xx.staRemove smdDeleteSta
    dsimp only
    rw [Function.update_of_ne (bne_iff_ne.mp hne)]
    exact h.stations p hp

end CfgInv

/-- Every callback keeps the invariant. -/
theorem cfgStep_inv {w w' : CfgWorld} {e : CfgEvent} (h : CfgInv w) (hstep : cfgStep w e = some w') :
    CfgInv w' := by
  cases e with
  | addInterface vif priv rsp =>
    obtain ⟨-, hstep⟩ := Option.ite_none_left_eq_some.mp hstep
    cases hstep
    exact h.addInterface priv rsp
  | removeInterface vif =>
    obtain ⟨hcond, hstep⟩ := Option.ite_none_right_eq_some.mp hstep
    cases hstep
    constructor
    · exact h.vif
    · exact h.sta
    · exact fun v hv => h.type v (List.mem_of_mem_erase hv)
    · intro p hp
      obtain ⟨hlist, hsta⟩ := h.stations p hp
      exact ⟨(List.mem_erase_of_ne (hcond.2.2 p hp)).mpr hlist, hsta⟩
  | staAdd vif sta sta_priv rsp =>
    obtain ⟨priv, -, hstep⟩ := Option.bind_eq_some_iff.mp hstep
    obtain ⟨hcond, hstep⟩ := Option.ite_none_right_eq_some.mp hstep
    cases hstep
    exact h.staAdd hcond.1 hcond.2 priv sta_priv rsp
  | staRemove vif sta =>
    obtain ⟨sta_priv, hpriv, hstep⟩ := Option.bind_eq_some_iff.mp hstep
    split_ifs at hstep
    cases hstep
    exact h.staRemove hpriv
  | bssInfoChanged vif conf changed env =>
    obtain ⟨priv, -, hstep⟩ := Option.bind_eq_some_iff.mp hstep
    split_ifs at hstep
    cases hstep
    exact h.same (SameIds.refl _) _
  | op vif sta_rsp out =>
    unfold cfgStep at hstep
    dsimp only at hstep
    split at hstep
    · cases hstep
    · obtain ⟨mac, hop, hstep⟩ := Option.bind_eq_some_iff.mp hstep
      cases hstep
      exact (h.op hop).same (SameIds.refl _) _
  | setKey cmd vif sta aid conf rsp =>
    obtain ⟨⟨mac, ops, ret⟩, hkey, hstep⟩ := Option.bind_eq_some_iff.mp hstep
    cases hstep
    exact h.setKey hkey
  | ampduAction vif action sta tid =>
    obtain ⟨⟨mac, calls⟩, hampdu, hstep⟩ := Option.bind_eq_some_iff.mp hstep
    cases hstep
    exact h.same (SameIds.ampduAction hampdu) _
  | channel is_ht band =>
    cases hstep
    refine CfgInv.same h ?_ w.todo
    exact ⟨rfl, fun _ => rfl, fun _ => rfl⟩

end Wcn36xx
