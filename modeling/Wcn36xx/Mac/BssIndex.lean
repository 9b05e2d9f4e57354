import Wcn36xx.Mac.Interface
import Wcn36xx.Support.System

/-!
# Who owns a BSS index

The firmware numbers the BSSs that it has configured, and the driver keeps the number of each
interface's BSS in `bss_index`, where `wcn36xx_smd_delete_bss` and the power-save requests take it from, and
where `wcn36xx_smd_missed_beacon_ind` looks for the interface of an indication. Here any number of
interfaces come, are configured and go, in any order, against a firmware that carries a request out
or does not, and answers or does not.

`BssOwned` says that a valid `bss_index` is the number of the interface's own BSS, and with it what the
driver uses the index for. It needs interfaces that start without an index, and that no BSS is
deleted (`IndexKept`): nothing sets the index of a deleted BSS back.
-/

namespace Wcn36xx

open Support (System)

/-- `struct wcn36xx_hal_config_bss_rsp_params`, as far as the driver keeps it. -/
structure ConfigBssRsp where
  bss_index : Byte := 0
  dpu_desc_index : Byte := 0
  bss_sta_index : Byte := 0
  ucast_dpu_signature : Byte := 0

/-- What becomes of a request. -/
structure ReqOutcome where
  /-- The firmware carries it out. -/
  done : Bool
  /-- The driver gets its response, and the response is one of success. -/
  ok : Bool
  /-- For `WCN36XX_HAL_CONFIG_BSS_REQ`, what the firmware assigns. -/
  rsp : ConfigBssRsp := {}

/-- A request to delete a BSS or to change its power save, the interface that it was for, the index that
it named, and the interface that the BSS was configured for. -/
structure BssNamed where
  req : HalReq
  vif : ℕ
  bss_index : Byte
  owner : Option ℕ

/-- A report of `ieee80211_connection_loss`, and the interface that the BSS was configured for. -/
structure ConnectionLoss where
  vif : ℕ
  owner : Option ℕ

/-- The interfaces and the firmware's BSSs. -/
structure BssWorld where
  mac : MacConf := {}
  /-- The interface that the firmware configured each BSS for. -/
  live : Byte → Option ℕ := fun _ => none
  /-- What is left of the call of `wcn36xx_bss_info_changed` on each interface. -/
  todo : ℕ → List BssOp := fun _ => []
  /-- All such requests. -/
  named : List BssNamed := []
  /-- All reports of a lost connection. -/
  losses : List ConnectionLoss := []

namespace BssWorld

variable (w : BssWorld)

/-- Change the private data of an interface. -/
def modPriv (vif : ℕ) (f : WcnVif → WcnVif) : BssWorld :=
  { w with mac := { w.mac with vif := Function.update w.mac.vif vif ((w.mac.vif vif).map f) } }

/-- Change the private data of a station. -/
def modSta (sta : ℕ) (f : WcnSta → WcnSta) : BssWorld :=
  { w with mac := { w.mac with sta := Function.update w.mac.sta sta ((w.mac.sta sta).map f) } }

/-- A request names the BSS index of an interface. -/
def name (req : HalReq) (vif : ℕ) (priv : WcnVif) : BssWorld :=
  { w with named := w.named ++ [⟨req, vif, priv.bss_index, w.live priv.bss_index⟩] }

end BssWorld

/-- `wcn36xx_smd_config_bss`, and the firmware: it assigns an index that no other interface's BSS
has. -/
def smdConfigBss (w : BssWorld) (vif : ℕ) (sta : Option ℕ) (out : ReqOutcome) : Option BssWorld :=
  if out.done then
    if out.rsp.bss_index ≠ WCN36XX_HAL_BSS_INVALID_IDX ∧
        (w.live out.rsp.bss_index = none ∨ w.live out.rsp.bss_index = some vif) then
      let w := { w with live := Function.update w.live out.rsp.bss_index (some vif) }
      if out.ok then
        let w := w.modPriv vif fun priv => { priv with
          bss_index := out.rsp.bss_index, self_ucast_dpu_sign := out.rsp.ucast_dpu_signature }
        match sta with
        | none => some w
        | some sta => some (w.modSta sta fun sta_priv => { sta_priv with
            bss_sta_index := out.rsp.bss_sta_index
            bss_dpu_desc_index := out.rsp.dpu_desc_index })
      else some w
    else none
  else some w

/-- `wcn36xx_smd_delete_bss`, and the firmware: the BSS with the index is gone. -/
def smdDeleteBss (w : BssWorld) (vif : ℕ) (priv : WcnVif) (out : ReqOutcome) : BssWorld :=
  let w := w.name .DELETE_BSS vif priv
  if out.done then { w with live := Function.update w.live priv.bss_index none } else w

/-- `wcn36xx_pmc_enter_bmps_state`. -/
def pmcEnterBmpsState (w : BssWorld) (vif : ℕ) (priv : WcnVif) (out : ReqOutcome) : BssWorld :=
  let w := w.name .ENTER_BMPS vif priv
  if out.ok then w.modPriv vif fun priv => { priv with pw_state := .BMPS } else w

/-- `wcn36xx_pmc_exit_bmps_state`. -/
def pmcExitBmpsState (w : BssWorld) (vif : ℕ) (priv : WcnVif) : BssWorld :=
  if priv.pw_state ≠ .BMPS then w
  else (w.name .EXIT_BMPS vif priv).modPriv vif fun priv => { priv with pw_state := .FULL_POWER }

/-- One operation of `wcn36xx_bss_info_changed`. A request that the firmware does not carry out has no
response of success. -/
def runOp (w : BssWorld) (vif : ℕ) (op : BssOp) (out : ReqOutcome) : Option BssWorld := do
  let priv ← w.mac.vif vif
  if out.ok && !out.done then none
  else
    match op with
    | .dtimPeriod v => return w.modPriv vif fun priv => { priv with dtim_period := v }
    | .isJoining v => return w.modPriv vif fun priv => { priv with is_joining := v }
    | .bssIndexInvalid =>
      return w.modPriv vif fun priv => { priv with bss_index := WCN36XX_HAL_BSS_INVALID_IDX }
    | .encryptTypeNone => return w.modPriv vif fun priv => { priv with encrypt_type := .NONE }
    | .ssid v => return w.modPriv vif fun priv => { priv with ssid := v }
    | .staAssoc v => return w.modPriv vif fun priv => { priv with sta_assoc := v }
    | .pmcEnterBmpsState => return pmcEnterBmpsState w vif priv out
    | .pmcExitBmpsState => return pmcExitBmpsState w vif priv
    | .smdConfigBss sta _ _ => smdConfigBss w vif sta out
    | .smdDeleteBss => return smdDeleteBss w vif priv out
    -- these requests change no interface; a station's has `bss_index` as its `bssid_index`
    | .smdJoin _ | .smdSetLinkSt _ _ | .smdConfigSta _ | .smdUpdateProberespTmpl
    | .smdSendBeacon => return w

/-- The steps of mac80211, the driver and the firmware. -/
inductive BssEvent where
  /-- `wcn36xx_add_interface`. -/
  | addInterface (vif : ℕ) (priv : WcnVif) (rsp : Option AddStaSelfRsp)
  /-- `wcn36xx_remove_interface`. -/
  | removeInterface (vif : ℕ)
  /-- `wcn36xx_bss_info_changed` is called. -/
  | bssInfoChanged (vif : ℕ) (conf : BssConf) (changed : BssChanged) (env : BssEnv)
  /-- The call on an interface makes its next operation. -/
  | op (vif : ℕ) (out : ReqOutcome)
  /-- `wcn36xx_smd_missed_beacon_ind`, for a message that is about the BSS `bss`. -/
  | missedBeacon (bss : Byte) (msg : List Byte)

/-- The interfaces and the firmware as a transition system. mac80211 makes one call at a time for an
interface, and the firmware misses the beacons of BSSs that it has. -/
def bssSystem (old_fw : Bool) : System BssWorld BssEvent where
  init w :=
    w.mac.vif_list = [] ∧ w.live = (fun _ => none) ∧ w.todo = (fun _ => []) ∧ w.named = [] ∧
    w.losses = []
  step w
    | .addInterface vif priv rsp =>
      if vif ∈ w.mac.vif_list then none
      else some { w with mac := (addInterface w.mac vif priv rsp).1 }
    | .removeInterface vif =>
      if vif ∈ w.mac.vif_list ∧ w.todo vif = [] then
        some { w with mac := { w.mac with vif_list := w.mac.vif_list.erase vif } }
      else none
    | .bssInfoChanged vif conf changed env => do
      let priv ← w.mac.vif vif
      if vif ∈ w.mac.vif_list ∧ w.todo vif = [] then
        return { w with
          todo := Function.update w.todo vif (bssInfoChanged priv conf changed env) }
      else none
    | .op vif out =>
      match w.todo vif with
      | [] => none
      | op :: rest => runOp { w with todo := Function.update w.todo vif rest } vif op out
    | .missedBeacon bss msg =>
      if (w.live bss).isSome ∧
          (msg.length = sizeofMissedBeaconInd → msg[HalMsgHeader.size]? = some bss) then
        some { w with
          losses := w.losses ++
            (smdMissedBeaconInd old_fw w.mac msg).1.map fun vif => ⟨vif, w.live bss⟩ }
      else none

/-- The interfaces own their BSS indices. -/
structure BssOwned (w : BssWorld) : Prop where
  /-- An index is invalid, or that of a BSS that the firmware has configured for the interface. -/
  index : ∀ vif ∈ w.mac.vif_list, ∀ priv, w.mac.vif vif = some priv →
    priv.bss_index = WCN36XX_HAL_BSS_INVALID_IDX ∨ w.live priv.bss_index = some vif
  /-- Two interfaces do not share a valid index. -/
  distinct : ∀ vif ∈ w.mac.vif_list, ∀ vif' ∈ w.mac.vif_list, ∀ priv priv',
    w.mac.vif vif = some priv → w.mac.vif vif' = some priv' → priv.bss_index = priv'.bss_index →
    vif = vif' ∨ priv.bss_index = WCN36XX_HAL_BSS_INVALID_IDX
  /-- No request has named another interface's BSS. -/
  named : ∀ r ∈ w.named, r.owner = none ∨ r.owner = some r.vif
  /-- Missed beacons have been attributed to the interface of the BSS. -/
  losses : ∀ r ∈ w.losses, r.owner = some r.vif

/-- An interface is added without a BSS index (or with that of its own BSS), the firmware carries out
no request to delete a BSS that it has, and indications without an index are handled only when there is
no other interface. -/
def IndexKept (old_fw : Bool) (w : BssWorld) : BssEvent → Prop
  | .addInterface vif priv _ =>
    priv.type = .other ∨ priv.bss_index = WCN36XX_HAL_BSS_INVALID_IDX ∨
      w.live priv.bss_index = some vif
  | .op vif out => (w.todo vif).head? = some .smdDeleteBss → out.done = true →
    ∀ priv ∈ w.mac.vif vif, w.live priv.bss_index = none
  | .missedBeacon bss _ => old_fw = true → ∀ vif ∈ w.mac.vif_list, w.live bss = some vif
  | _ => True

instance (old_fw : Bool) : ∀ w e, Decidable (IndexKept old_fw w e)
  | w, .addInterface vif priv _ => inferInstanceAs (Decidable
      (priv.type = .other ∨ priv.bss_index = WCN36XX_HAL_BSS_INVALID_IDX ∨
        w.live priv.bss_index = some vif))
  | w, .op vif out => inferInstanceAs (Decidable ((w.todo vif).head? = some .smdDeleteBss →
      out.done = true → ∀ priv ∈ w.mac.vif vif, w.live priv.bss_index = none))
  | w, .missedBeacon bss _ => inferInstanceAs (Decidable
      (old_fw = true → ∀ vif ∈ w.mac.vif_list, w.live bss = some vif))
  | _, .removeInterface _ | _, .bssInfoChanged _ _ _ _ => isTrue trivial

/-! ## The invariant -/

namespace BssWorld

/-- The invariant of the runs in which the indices are kept. -/
structure Inv (w : BssWorld) : Prop where
  /-- The firmware does not use the invalid index. -/
  live_invalid : w.live WCN36XX_HAL_BSS_INVALID_IDX = none
  /-- mac80211 configures the interfaces that it has added. -/
  busy : ∀ vif, w.todo vif ≠ [] → vif ∈ w.mac.vif_list
  index : ∀ vif ∈ w.mac.vif_list, ∀ priv, w.mac.vif vif = some priv →
    priv.bss_index = WCN36XX_HAL_BSS_INVALID_IDX ∨ w.live priv.bss_index = some vif
  named : ∀ r ∈ w.named, r.owner = none ∨ r.owner = some r.vif
  losses : ∀ r ∈ w.losses, r.owner = some r.vif

namespace Inv

variable {w : BssWorld} (h : w.Inv)
include h

/-- The invariant gives the interfaces their indices. -/
theorem bssOwned : BssOwned w where
  index := h.index
  distinct := by
    intro vif hvif vif' hvif' priv priv' hpriv hpriv' heq
    rcases h.index vif hvif priv hpriv with hinv | hlive
    · exact .inr hinv
    rcases h.index vif' hvif' priv' hpriv' with hinv' | hlive'
    · exact .inr (heq.trans hinv')
    · rw [heq, hlive'] at hlive
      exact .inl (Option.some.inj hlive).symm
  named := h.named
  losses := h.losses

/-- Private data changes, and keeps its index or gets one that the interface owns. -/
theorem modPriv {vif : ℕ} {f : WcnVif → WcnVif}
    (hf : ∀ priv, w.mac.vif vif = some priv → (f priv).bss_index = WCN36XX_HAL_BSS_INVALID_IDX ∨
      w.live (f priv).bss_index = some vif) : (w.modPriv vif f).Inv where
  live_invalid := h.live_invalid
  busy := h.busy
  index := by
    intro vif' hvif' priv' hpriv'
    unfold BssWorld.modPriv at hpriv' ⊢
    dsimp only at hpriv' ⊢
    rcases eq_or_ne vif' vif with rfl | hne
    · rw [Function.update_self] at hpriv'
      obtain ⟨priv, hpriv, rfl⟩ := Option.map_eq_some_iff.mp hpriv'
      exact hf priv hpriv
    · rw [Function.update_of_ne hne] at hpriv'
      exact h.index vif' hvif' priv' hpriv'
  named := h.named
  losses := h.losses

/-- Private data changes, and keeps its index. -/
theorem modPriv_of_eq {vif : ℕ} (hvif : vif ∈ w.mac.vif_list) {f : WcnVif → WcnVif}
    (hf : ∀ priv, (f priv).bss_index = priv.bss_index) : (w.modPriv vif f).Inv := by
  refine h.modPriv fun priv hpriv => ?_
  rw [hf]
  exact h.index vif hvif priv hpriv

/-- Stations have no index. -/
theorem modSta (sta : ℕ) (f : WcnSta → WcnSta) : (w.modSta sta f).Inv :=
  ⟨h.live_invalid, h.busy, h.index, h.named, h.losses⟩

/-- A request names the index of the interface it is for. -/
theorem name (req : HalReq) {vif : ℕ} (hvif : vif ∈ w.mac.vif_list) {priv : WcnVif}
    (hpriv : w.mac.vif vif = some priv) : (w.name req vif priv).Inv where
  live_invalid := h.live_invalid
  busy := h.busy
  index := h.index
  named := by
    intro r hr
    rcases List.mem_append.mp hr with hr | hr
    · exact h.named r hr
    · obtain rfl := List.mem_singleton.mp hr
      rcases h.index vif hvif priv hpriv with hinv | hlive
      · dsimp only
        rw [hinv]
        exact .inl h.live_invalid
      · exact .inr hlive
  losses := h.losses

/-- The firmware configures a BSS under an index that no other interface's BSS has. -/
theorem configured {vif : ℕ} {idx : Byte} (hidx : idx ≠ WCN36XX_HAL_BSS_INVALID_IDX)
    (hfree : w.live idx = none ∨ w.live idx = some vif) :
    Inv { w with live := Function.update w.live idx (some vif) } where
  live_invalid := by
    dsimp only
    rw [Function.update_of_ne hidx.symm]
    exact h.live_invalid
  busy := h.busy
  index := by
    intro vif' hvif' priv hpriv
    refine (h.index vif' hvif' priv hpriv).imp_right fun hlive => ?_
    dsimp only
    rcases eq_or_ne priv.bss_index idx with heq | hne
    · -- the index was its own, so it is for the same interface
      rw [heq] at hlive ⊢
      rw [Function.update_self]
      rcases hfree with hnone | hsame
      · rw [hnone] at hlive
        cases hlive
      · rw [hsame] at hlive
        exact hlive
    · rwa [Function.update_of_ne hne]
  named := h.named
  losses := h.losses

/-- `wcn36xx_smd_config_bss`. -/
theorem smdConfigBss {vif : ℕ} {sta : Option ℕ} {out : ReqOutcome} {w' : BssWorld}
    (hrun : smdConfigBss w vif sta out = some w') : w'.Inv := by
  unfold Wcn36xx.smdConfigBss at hrun
  split_ifs at hrun with hdone hassign hok
  · have hlive := h.configured hassign.1 hassign.2
    have hown : Function.update w.live out.rsp.bss_index (some vif) out.rsp.bss_index = some vif :=
      Function.update_self _ _ _
    dsimp only at hrun
    split at hrun
    · cases hrun
      exact hlive.modPriv fun _ _ => .inr hown
    · cases hrun
      exact (hlive.modPriv fun _ _ => .inr hown).modSta _ _
  · cases hrun
    exact h.configured hassign.1 hassign.2
  · cases hrun
    exact h

/-- `wcn36xx_smd_delete_bss`, when there is no BSS to delete. -/
theorem smdDeleteBss {vif : ℕ} (hvif : vif ∈ w.mac.vif_list) {priv : WcnVif}
    (hpriv : w.mac.vif vif = some priv) {out : ReqOutcome}
    (hkept : out.done = true → w.live priv.bss_index = none) :
    (smdDeleteBss w vif priv out).Inv := by
  have hname := h.name .DELETE_BSS hvif hpriv
  unfold Wcn36xx.smdDeleteBss
  dsimp only
  split_ifs with hdone
  · have hlive : Function.update w.live priv.bss_index none = w.live :=
      Function.update_eq_self_iff.mpr (hkept hdone).symm
    exact ⟨by dsimp only [BssWorld.name]; rw [hlive]; exact hname.live_invalid, hname.busy,
      by dsimp only [BssWorld.name]; rw [hlive]; exact hname.index, hname.named, hname.losses⟩
  · exact hname

/-- Every operation of a call on an added interface keeps the invariant. -/
theorem runOp {vif : ℕ} (hvif : vif ∈ w.mac.vif_list) {op : BssOp} {out : ReqOutcome}
    (hkept : op = .smdDeleteBss → out.done = true →
      ∀ priv ∈ w.mac.vif vif, w.live priv.bss_index = none)
    {w' : BssWorld} (hrun : runOp w vif op out = some w') : w'.Inv := by
  obtain ⟨priv, hpriv, hrun⟩ := Option.bind_eq_some_iff.mp hrun
  split_ifs at hrun
  cases op with
  | dtimPeriod | isJoining | encryptTypeNone | ssid | staAssoc =>
    cases hrun
    exact h.modPriv_of_eq hvif fun _ => rfl
  | bssIndexInvalid =>
    cases hrun
    exact h.modPriv fun _ _ => .inl rfl
  | pmcEnterBmpsState =>
    cases hrun
    have hname := h.name .ENTER_BMPS hvif hpriv
    unfold pmcEnterBmpsState
    dsimp only
    split_ifs
    · exact hname.modPriv_of_eq hvif fun _ => rfl
    · exact hname
  | pmcExitBmpsState =>
    cases hrun
    unfold pmcExitBmpsState
    split_ifs
    · exact h
    · exact (h.name .EXIT_BMPS hvif hpriv).modPriv_of_eq hvif fun _ => rfl
  | smdConfigBss => exact h.smdConfigBss hrun
  | smdDeleteBss =>
    cases hrun
    exact h.smdDeleteBss hvif hpriv fun hdone => hkept rfl hdone priv hpriv
  | smdJoin | smdSetLinkSt | smdConfigSta | smdUpdateProberespTmpl | smdSendBeacon =>
    cases hrun
    exact h

/-- An interface is added with no index, or its own. -/
theorem addInterface {vif : ℕ} {priv : WcnVif} (rsp : Option AddStaSelfRsp)
    (hkept : priv.type = .other ∨ priv.bss_index = WCN36XX_HAL_BSS_INVALID_IDX ∨
      w.live priv.bss_index = some vif) :
    Inv { w with mac := (addInterface w.mac vif priv rsp).1 } := by
  unfold Wcn36xx.addInterface
  split_ifs with htype
  · exact h
  · have hkept := hkept.resolve_left htype
    refine ⟨h.live_invalid, fun v hv => List.mem_cons_of_mem _ (h.busy v hv), ?_, h.named, h.losses⟩
    intro vif' hvif' priv' hpriv'
    dsimp only at hvif' hpriv' ⊢
    rcases eq_or_ne vif' vif with rfl | hne
    · rw [Function.update_self, Option.some.injEq] at hpriv'
      have hindex : priv'.bss_index = priv.bss_index := by
        rw [← hpriv']
        cases rsp <;> rfl
      rw [hindex]
      exact hkept
    · rw [Function.update_of_ne hne] at hpriv'
      exact h.index vif' ((List.mem_cons.mp hvif').resolve_left hne) priv' hpriv'

/-- An interface is removed between two calls. -/
theorem removeInterface {vif : ℕ} (hidle : w.todo vif = []) :
    Inv { w with mac := { w.mac with vif_list := w.mac.vif_list.erase vif } } where
  live_invalid := h.live_invalid
  busy vif' hbusy := by
    have hne : vif' ≠ vif := by
      rintro rfl
      exact hbusy hidle
    exact (List.mem_erase_of_ne hne).mpr (h.busy vif' hbusy)
  index vif' hvif' := h.index vif' (List.mem_of_mem_erase hvif')
  named := h.named
  losses := h.losses

/-- What is left of a call changes. -/
theorem setTodo {vif : ℕ} (hvif : vif ∈ w.mac.vif_list) (ops : List BssOp) :
    Inv { w with todo := Function.update w.todo vif ops } where
  live_invalid := h.live_invalid
  busy vif' hbusy := by
    rcases eq_or_ne vif' vif with rfl | hne
    · exact hvif
    · dsimp only at hbusy
      rw [Function.update_of_ne hne] at hbusy
      exact h.busy vif' hbusy
  index := h.index
  named := h.named
  losses := h.losses

/-- An indication is for the interface that owns the BSS. -/
theorem missedBeacon {old_fw : Bool} {bss : Byte} {msg : List Byte}
    (hlive : (w.live bss).isSome)
    (hmsg : msg.length = sizeofMissedBeaconInd → msg[HalMsgHeader.size]? = some bss)
    (hkept : old_fw = true → ∀ vif ∈ w.mac.vif_list, w.live bss = some vif) :
    ∀ vif ∈ (smdMissedBeaconInd old_fw w.mac msg).1, w.live bss = some vif := by
  unfold smdMissedBeaconInd
  split_ifs with hold hlen
  · exact hkept hold
  · exact nofun
  · split
    · rename_i tmp hfind
      intro vif hvif
      obtain rfl := List.mem_singleton.mp hvif
      have hfound := List.find?_some hfind
      obtain ⟨priv, hpriv, heq⟩ := (Option.any_eq_true _ _).mp hfound
      rw [hmsg (not_not.mp hlen), beq_iff_eq, Option.some.injEq] at heq
      rcases h.index vif (List.mem_of_find?_eq_some hfind) priv hpriv with hinv | hown
      · rw [← heq, hinv, h.live_invalid] at hlive
        cases hlive
      · rwa [heq] at hown
    · exact nofun

end Inv

end BssWorld

/-- Every step in which the indices are kept keeps the invariant. -/
theorem bssStep_inv {old_fw : Bool} {w w' : BssWorld} {e : BssEvent} (h : w.Inv)
    (hkept : IndexKept old_fw w e) (hstep : (bssSystem old_fw).step w e = some w') : w'.Inv := by
  cases e with
  | addInterface vif priv rsp =>
    simp only [bssSystem] at hstep
    split_ifs at hstep
    cases hstep
    exact h.addInterface rsp hkept
  | removeInterface vif =>
    simp only [bssSystem] at hstep
    split_ifs at hstep with hcond
    cases hstep
    exact h.removeInterface hcond.2
  | bssInfoChanged vif conf changed env =>
    obtain ⟨priv, hpriv, hstep⟩ := Option.bind_eq_some_iff.mp hstep
    split_ifs at hstep with hcond
    cases hstep
    exact h.setTodo hcond.1 _
  | op vif out =>
    simp only [bssSystem] at hstep
    split at hstep
    · cases hstep
    · rename_i op rest htodo
      have hvif : vif ∈ w.mac.vif_list := h.busy vif (by rw [htodo]; exact List.cons_ne_nil _ _)
      have hdelete : op = .smdDeleteBss → out.done = true →
          ∀ priv ∈ w.mac.vif vif, w.live priv.bss_index = none := by
        rintro rfl
        exact hkept (by rw [htodo]; rfl)
      exact (h.setTodo hvif rest).runOp hvif hdelete hstep
  | missedBeacon bss msg =>
    simp only [bssSystem] at hstep
    split_ifs at hstep with hcond
    cases hstep
    have hright := h.missedBeacon hcond.1 hcond.2 hkept
    refine ⟨h.live_invalid, h.busy, h.index, h.named, fun r hr => ?_⟩
    rcases List.mem_append.mp hr with hr | hr
    · exact h.losses r hr
    · obtain ⟨vif, hvif, rfl⟩ := List.mem_map.mp hr
      exact hright vif hvif

/-- In every run in which the indices are kept, the interfaces own their BSS indices: a valid index is that of
the interface's own BSS and of no other interface, no request has named another interface's BSS, and no
missed beacon has been attributed to another interface. -/
theorem bssOwned_of_indexKept {old_fw : Bool} {w : BssWorld}
    (h : (bssSystem old_fw).ReachableWhen (IndexKept old_fw) w) : BssOwned w := by
  have hinv : w.Inv := by
    refine h.invariant (I := BssWorld.Inv) ?_ fun _ _ _ => bssStep_inv
    rintro w ⟨hlist, hlive, htodo, hnamed, hlosses⟩
    constructor
    · rw [hlive]
    · intro vif hbusy
      rw [htodo] at hbusy
      exact absurd rfl hbusy
    · rw [hlist]
      exact nofun
    · rw [hnamed]
      exact nofun
    · rw [hlosses]
      exact nofun
  exact hinv.bssOwned

/-! ## Two access points -/

/-- The private data of an access point's interface as mac80211 hands it over, all of it zero but for
`bss_index`. -/
def apPriv (n bss_index : Byte) : WcnVif where
  type := .AP
  addr := [2, 0, 0, 0, 0, n]
  bss_index := bss_index

/-- The firmware carries a request out and acknowledges it. -/
def acked : ReqOutcome where
  done := true
  ok := true

/-- The firmware configures a BSS under an index. -/
def configured (bss_index : Byte) : ReqOutcome where
  done := true
  ok := true
  rsp := { bss_index := bss_index }

/-- An access point starts to send beacons; its BSS gets an index. -/
def startAp (vif : ℕ) (bss_index : Byte) : List BssEvent :=
  [.bssInfoChanged vif { enable_beacon := true } { BEACON_ENABLED := true } {},
    -- `dtim_period`, `bss_index`, `config_bss`, `send_beacon`, `set_link_st`
    .op vif acked, .op vif acked, .op vif (configured bss_index), .op vif acked, .op vif acked]

/-- An access point stops to send beacons; the outcome is that of `wcn36xx_smd_delete_bss`. -/
def stopAp (vif : ℕ) (out : ReqOutcome) : List BssEvent :=
  [.bssInfoChanged vif {} { BEACON_ENABLED := true } {}, .op vif acked, .op vif out]

/-- `WCN36XX_HAL_MISSED_BEACON_IND`. -/
def missedBeaconInd (bss : Byte) : List Byte :=
  (initHalMsg HalInd.MISSED_BEACON.indType 9).bytes ++ [bss]

/-- Two access points get the indices 0 and 1, the first stops (but the firmware refuses to delete its
BSS), and the beacons of the second are missed. -/
theorem bssOwned_of_indexKept_two_aps :
    ∃ w, (bssSystem false).ReachableWhen (IndexKept false) w ∧ w.named.length = 1 ∧
      w.losses.length = 1 ∧ BssOwned w := by
  obtain ⟨w, hrun, hlen⟩ : ∃ w, (bssSystem false).runWhen (IndexKept false) {}
      ([.addInterface 1 (apPriv 1 0xff) none, .addInterface 2 (apPriv 2 0xff) none] ++
        startAp 1 0 ++ startAp 2 1 ++ stopAp 1 ⟨false, false, {}⟩ ++
        [.missedBeacon 1 (missedBeaconInd 1)]) = some w ∧
      (fun w : BssWorld => decide (w.named.length = 1 ∧ w.losses.length = 1)) w = true :=
    (Option.any_eq_true _ _).mp (by decide +kernel)
  have hw : (bssSystem false).ReachableWhen (IndexKept false) w :=
    System.ReachableWhen.runWhen (.init ⟨rfl, rfl, rfl, rfl, rfl⟩) hrun
  obtain ⟨hnamed, hlosses⟩ := of_decide_eq_true hlen
  exact ⟨w, hw, hnamed, hlosses, bssOwned_of_indexKept hw⟩

/-- An access point gets the index 0; a second interface is added with private data that is all zero, and
stops to send beacons before it has started: `wcn36xx_smd_delete_bss` names the BSS of the first. -/
theorem bssOwned_fails_on_zeroed_index : ∃ w, (bssSystem false).Reachable w ∧ ¬BssOwned w := by
  obtain ⟨w, hrun, hbad⟩ : ∃ w, (bssSystem false).runFrom {}
      ([.addInterface 1 (apPriv 1 0) none] ++ startAp 1 0 ++ [.addInterface 2 (apPriv 2 0) none] ++
        stopAp 2 acked) = some w ∧
      (fun w : BssWorld => w.named.any fun r => r.owner != none && r.owner != some r.vif) w =
        true :=
    (Option.any_eq_true _ _).mp (by decide +kernel)
  refine ⟨w, System.Reachable.runFrom (.init ⟨rfl, rfl, rfl, rfl, rfl⟩) hrun, fun hown => ?_⟩
  obtain ⟨r, hr, hne⟩ := List.any_eq_true.mp hbad
  obtain ⟨hnone, hother⟩ := Bool.and_eq_true_iff.mp hne
  rcases hown.named r hr with howner | howner
  · exact bne_iff_ne.mp hnone howner
  · exact bne_iff_ne.mp hother howner

end Wcn36xx
