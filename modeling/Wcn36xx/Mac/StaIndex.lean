import Wcn36xx.Mac.Interface
import Wcn36xx.Support.System

/-!
# Who owns a station index

The firmware numbers the stations that `wcn36xx_smd_config_sta` configures, and the driver keeps a
station's number in `sta_index`, from where `wcn36xx_sta_remove` deletes it. An access point configures
a station when it is added; in station mode the access point's station is configured when the
association is complete, if it ever is. Here stations come and go on any number of interfaces.

A deletion names an index that the firmware assigned to the station (`DeletesOwned`) if the station has
been configured by then, and if the firmware assigns no index that another configured station has
(`IndexAssigned`). `wcn36xx_sta_remove` checks neither.
-/

namespace Wcn36xx

open Support (System)

/-- `struct config_sta_rsp_params`, as far as the driver keeps it. -/
structure ConfigStaRsp where
  sta_index : Byte
  dpu_index : Byte := 0
  uc_ucast_sig : Byte := 0

/-- A `WCN36XX_HAL_DELETE_STA_REQ`. -/
structure StaDelete where
  /-- The station that is removed. -/
  sta : ℕ
  sta_index : Byte
  /-- The firmware had assigned the index to the station, and it had not been deleted since. -/
  assigned : Bool

/-- The stations and the firmware's indices. -/
structure StaWorld where
  mac : MacConf := {}
  /-- The stations that mac80211 has added, each with its interface. -/
  stations : List (ℕ × ℕ) := []
  /-- What is left of the call of `wcn36xx_bss_info_changed` on each interface. -/
  todo : ℕ → List BssOp := fun _ => []
  /-- Since the station was added, `wcn36xx_smd_config_sta` has succeeded for it. -/
  configured : ℕ → Bool := fun _ => false
  /-- The indices that the firmware has assigned, each with its station, and that have not been
  deleted. -/
  assigned : List (ℕ × Byte) := []
  /-- All deletions. -/
  deletes : List StaDelete := []

/-- `wcn36xx_smd_config_sta`, with the response if it is one of success. -/
def smdConfigSta (w : StaWorld) (sta : ℕ) : Option ConfigStaRsp → StaWorld
  | none => w
  | some rsp => { w with
      mac := { w.mac with sta := Function.update w.mac.sta sta ((w.mac.sta sta).map fun sta_priv =>
        { sta_priv with
          sta_index := rsp.sta_index
          dpu_desc_index := rsp.dpu_index
          ucast_dpu_sign := rsp.uc_ucast_sig }) }
      configured := Function.update w.configured sta true
      assigned := (sta, rsp.sta_index) :: w.assigned }

/-- `wcn36xx_smd_delete_sta`, for a station that is removed. -/
def smdDeleteSta (w : StaWorld) (sta : ℕ) (sta_index : Byte) : StaWorld :=
  { w with
    assigned := w.assigned.filter fun p => p.2 != sta_index
    deletes := w.deletes ++ [⟨sta, sta_index, decide ((sta, sta_index) ∈ w.assigned)⟩] }

/-- `wcn36xx_sta_add`, for the station `sta` with the private data that mac80211 hands over, on the
interface `vif`. -/
def staAdd (w : StaWorld) (vif : ℕ) (priv : WcnVif) (sta : ℕ) (sta_priv : WcnSta)
    (rsp : Option ConfigStaRsp) : StaWorld :=
  let w := { w with
    mac := { w.mac with sta := Function.update w.mac.sta sta (some { sta_priv with vif := some vif }) }
    stations := (sta, vif) :: w.stations
    configured := Function.update w.configured sta false
    assigned := w.assigned.filter fun p => p.1 != sta }
  if priv.type ≠ .STATION then smdConfigSta w sta rsp else w

/-- `wcn36xx_sta_remove`. -/
def staRemove (w : StaWorld) (sta : ℕ) (sta_priv : WcnSta) : StaWorld :=
  let w := smdDeleteSta w sta sta_priv.sta_index
  { w with
    mac := { w.mac with sta := Function.update w.mac.sta sta (some { sta_priv with vif := none }) }
    stations := w.stations.filter fun p => p.1 != sta }

/-- The steps of mac80211, with the driver's. -/
inductive StaEvent where
  /-- `wcn36xx_add_interface`. -/
  | addInterface (vif : ℕ) (priv : WcnVif) (rsp : Option AddStaSelfRsp)
  /-- `wcn36xx_remove_interface`. -/
  | removeInterface (vif : ℕ)
  /-- `wcn36xx_sta_add`. -/
  | staAdd (vif sta : ℕ) (sta_priv : WcnSta) (rsp : Option ConfigStaRsp)
  /-- `wcn36xx_sta_remove`. -/
  | staRemove (vif sta : ℕ)
  /-- `wcn36xx_bss_info_changed` is called. -/
  | bssInfoChanged (vif : ℕ) (conf : BssConf) (changed : BssChanged) (env : BssEnv)
  /-- The call on an interface makes its next operation. -/
  | op (vif : ℕ) (rsp : Option ConfigStaRsp)

/-- The stations as a transition system. mac80211 makes one call of `wcn36xx_bss_info_changed` at a
time for an interface, finds stations that it has added to the interface, and does not remove one that
the call has found. -/
def staSystem : System StaWorld StaEvent where
  init w :=
    w.mac.vif_list = [] ∧ w.stations = [] ∧ w.todo = (fun _ => []) ∧
    w.configured = (fun _ => false) ∧ w.assigned = [] ∧ w.deletes = []
  step w
    | .addInterface vif priv rsp =>
      if vif ∈ w.mac.vif_list then none
      else some { w with mac := (addInterface w.mac vif priv rsp).1 }
    | .removeInterface vif =>
      if vif ∈ w.mac.vif_list ∧ w.todo vif = [] ∧ ∀ p ∈ w.stations, p.2 ≠ vif then
        some { w with mac := { w.mac with vif_list := w.mac.vif_list.erase vif } }
      else none
    | .staAdd vif sta sta_priv rsp => do
      let priv ← w.mac.vif vif
      if vif ∈ w.mac.vif_list ∧ ∀ p ∈ w.stations, p.1 ≠ sta then
        return staAdd w vif priv sta sta_priv rsp
      else none
    | .staRemove vif sta => do
      let sta_priv ← w.mac.sta sta
      if (sta, vif) ∈ w.stations ∧ BssOp.smdConfigSta sta ∉ w.todo vif then
        return staRemove w sta sta_priv
      else none
    | .bssInfoChanged vif conf changed env => do
      let priv ← w.mac.vif vif
      if vif ∈ w.mac.vif_list ∧ w.todo vif = [] ∧ ∀ sta ∈ env.find_sta, (sta, vif) ∈ w.stations then
        return { w with
          todo := Function.update w.todo vif (bssInfoChanged priv conf changed env) }
      else none
    | .op vif rsp =>
      match w.todo vif with
      | [] => none
      | .smdConfigSta sta :: rest =>
        some (smdConfigSta { w with todo := Function.update w.todo vif rest } sta rsp)
      -- the other operations change no station's index, and no interface's type
      | _ :: rest => some { w with todo := Function.update w.todo vif rest }

/-- Every deletion has named an index that the firmware had assigned to the station that was removed, and
that had not been deleted since. -/
def DeletesOwned (w : StaWorld) : Prop := ∀ d ∈ w.deletes, d.assigned = true

/-- The firmware assigns no index that another configured station has. -/
def FreshIndex (w : StaWorld) (sta : ℕ) (rsp : Option ConfigStaRsp) : Prop :=
  ∀ p ∈ w.stations, p.1 ≠ sta → w.configured p.1 = true → ∀ sta_priv ∈ w.mac.sta p.1, ∀ r ∈ rsp,
    sta_priv.sta_index ≠ r.sta_index

instance (w : StaWorld) (sta : ℕ) (rsp : Option ConfigStaRsp) :
    Decidable (FreshIndex w sta rsp) :=
  show Decidable (∀ p ∈ w.stations, _) from List.decidableBAll _ _

/-- A station is removed when `wcn36xx_smd_config_sta` has succeeded for it, and the firmware assigns no
index that another configured station has. -/
def IndexAssigned (w : StaWorld) : StaEvent → Prop
  | .staAdd vif sta _ rsp => ∀ priv ∈ w.mac.vif vif, priv.type ≠ .STATION → FreshIndex w sta rsp
  | .staRemove _ sta => w.configured sta = true
  | .op vif rsp =>
    match w.todo vif with
    | .smdConfigSta sta :: _ => FreshIndex w sta rsp
    | _ => True
  | _ => True

instance : ∀ w e, Decidable (IndexAssigned w e)
  | w, .staAdd vif sta _ rsp => inferInstanceAs
      (Decidable (∀ priv ∈ w.mac.vif vif, priv.type ≠ .STATION → FreshIndex w sta rsp))
  | w, .staRemove _ sta => inferInstanceAs (Decidable (w.configured sta = true))
  | w, .op vif rsp => by
    unfold IndexAssigned
    dsimp only
    split
    · infer_instance
    · exact isTrue trivial
  | _, .addInterface _ _ _ | _, .removeInterface _ | _, .bssInfoChanged _ _ _ _ => isTrue trivial

/-! ## The invariant -/

namespace StaWorld

/-- The invariant of the runs in which the indices are assigned. -/
structure Inv (w : StaWorld) : Prop where
  /-- An added station has private data, and a configured one an index that is its own. -/
  index : ∀ p ∈ w.stations, ∃ sta_priv, w.mac.sta p.1 = some sta_priv ∧
    (w.configured p.1 = true → (p.1, sta_priv.sta_index) ∈ w.assigned)
  /-- Two configured stations do not share an index. -/
  distinct : ∀ p ∈ w.stations, ∀ p' ∈ w.stations, w.configured p.1 = true →
    w.configured p'.1 = true → ∀ sta_priv ∈ w.mac.sta p.1, ∀ sta_priv' ∈ w.mac.sta p'.1,
    sta_priv.sta_index = sta_priv'.sta_index → p.1 = p'.1
  deletes : DeletesOwned w

namespace Inv

variable {w : StaWorld} (h : w.Inv)
include h

/-- What is left of a call changes. -/
theorem setTodo (todo : ℕ → List BssOp) : Inv { w with todo := todo } :=
  ⟨h.index, h.distinct, h.deletes⟩

/-- The interfaces change. -/
theorem setMac {mac : MacConf} (hsta : mac.sta = w.mac.sta) : Inv { w with mac := mac } where
  index := by
    dsimp only
    rw [hsta]
    exact h.index
  distinct := by
    dsimp only
    rw [hsta]
    exact h.distinct
  deletes := h.deletes

/-- `wcn36xx_smd_config_sta`, when the index is not that of another configured station. -/
theorem smdConfigSta {sta : ℕ} {rsp : Option ConfigStaRsp} (hfresh : FreshIndex w sta rsp) :
    (smdConfigSta w sta rsp).Inv := by
  cases rsp with
  | none => exact h
  | some rsp =>
    have hself : ∀ sta_priv ∈ Function.update w.mac.sta sta ((w.mac.sta sta).map fun sta_priv =>
        { sta_priv with
          sta_index := rsp.sta_index
          dpu_desc_index := rsp.dpu_index
          ucast_dpu_sign := rsp.uc_ucast_sig }) sta, sta_priv.sta_index = rsp.sta_index := by
      intro sta_priv hpriv
      rw [Function.update_self] at hpriv
      obtain ⟨old, -, rfl⟩ := Option.map_eq_some_iff.mp hpriv
      rfl
    constructor
    · intro p hp
      obtain ⟨sta_priv, hpriv, hindex⟩ := h.index p hp
      unfold Wcn36xx.smdConfigSta
      dsimp only
      rcases eq_or_ne p.1 sta with heq | hne
      · rw [heq] at hpriv ⊢
        rw [Function.update_self, hpriv]
        exact ⟨_, rfl, fun _ => List.mem_cons_self⟩
      · rw [Function.update_of_ne hne, Function.update_of_ne hne]
        exact ⟨sta_priv, hpriv, fun hconf => List.mem_cons_of_mem _ (hindex hconf)⟩
    · intro p hp p' hp' hconf hconf' sta_priv hpriv sta_priv' hpriv' heq
      unfold Wcn36xx.smdConfigSta at hp hp' hconf hconf' hpriv hpriv'
      dsimp only at hp hp' hconf hconf' hpriv hpriv'
      rcases eq_or_ne p.1 sta with hsta | hne
      · rcases eq_or_ne p'.1 sta with hsta' | hne'
        · exact hsta.trans hsta'.symm
        · rw [hsta] at hpriv
          rw [Function.update_of_ne hne'] at hconf' hpriv'
          exact absurd (heq.symm.trans (hself sta_priv hpriv))
            (hfresh p' hp' hne' hconf' sta_priv' hpriv' rsp rfl)
      · rw [Function.update_of_ne hne] at hconf hpriv
        rcases eq_or_ne p'.1 sta with hsta' | hne'
        · rw [hsta'] at hpriv'
          exact absurd (heq.trans (hself sta_priv' hpriv'))
            (hfresh p hp hne hconf sta_priv hpriv rsp rfl)
        · rw [Function.update_of_ne hne'] at hconf' hpriv'
          exact h.distinct p hp p' hp' hconf hconf' sta_priv hpriv sta_priv' hpriv' heq
    · exact h.deletes

/-- A station is added; it is not configured. -/
theorem addStation {vif sta : ℕ} (hnew : ∀ p ∈ w.stations, p.1 ≠ sta) (sta_priv : WcnSta) :
    Inv { w with
      mac := { w.mac with sta := Function.update w.mac.sta sta (some sta_priv) }
      stations := (sta, vif) :: w.stations
      configured := Function.update w.configured sta false
      assigned := w.assigned.filter fun p => p.1 != sta } := by
  have hold : ∀ p ∈ (sta, vif) :: w.stations,
      Function.update w.configured sta false p.1 = true → p ∈ w.stations ∧ p.1 ≠ sta := by
    intro p hp hconf
    have hne : p.1 ≠ sta := by
      intro heq
      rw [heq, Function.update_self] at hconf
      cases hconf
    rcases List.mem_cons.mp hp with rfl | hp
    · exact absurd rfl hne
    · exact ⟨hp, hne⟩
  constructor
  · intro p hp
    dsimp only at hp ⊢
    rcases List.mem_cons.mp hp with rfl | hp
    · refine ⟨sta_priv, Function.update_self _ _ _, fun hconf => ?_⟩
      rw [Function.update_self] at hconf
      cases hconf
    · have hne : p.1 ≠ sta := hnew p hp
      obtain ⟨old, hpriv, hindex⟩ := h.index p hp
      rw [Function.update_of_ne hne, Function.update_of_ne hne]
      exact ⟨old, hpriv, fun hconf =>
        List.mem_filter.mpr ⟨hindex hconf, bne_iff_ne.mpr hne⟩⟩
  · intro p hp p' hp' hconf hconf' priv hpriv priv' hpriv'
    obtain ⟨hp, hne⟩ := hold p hp hconf
    obtain ⟨hp', hne'⟩ := hold p' hp' hconf'
    dsimp only at hconf hconf' hpriv hpriv'
    rw [Function.update_of_ne hne] at hconf hpriv
    rw [Function.update_of_ne hne'] at hconf' hpriv'
    exact h.distinct p hp p' hp' hconf hconf' priv hpriv priv' hpriv'
  · exact h.deletes

/-- `wcn36xx_sta_add`. -/
theorem staAdd {vif sta : ℕ} {priv : WcnVif} (hnew : ∀ p ∈ w.stations, p.1 ≠ sta)
    {sta_priv : WcnSta} {rsp : Option ConfigStaRsp}
    (hfresh : priv.type ≠ .STATION → FreshIndex w sta rsp) :
    (staAdd w vif priv sta sta_priv rsp).Inv := by
  have hadded := @addStation w h vif sta hnew { sta_priv with vif := some vif }
  unfold Wcn36xx.staAdd
  dsimp only
  split_ifs with htype
  · refine hadded.smdConfigSta fun p hp hne hconf old hold => ?_
    rcases List.mem_cons.mp hp with rfl | hp
    · exact absurd rfl hne
    · dsimp only at hconf hold
      rw [Function.update_of_ne hne] at hconf hold
      exact hfresh htype p hp hne hconf old hold
  · exact hadded

/-- `wcn36xx_sta_remove`, for a station that has been configured. -/
theorem staRemove {vif sta : ℕ} (hsta : (sta, vif) ∈ w.stations) (hconf : w.configured sta = true)
    {sta_priv : WcnSta} (hpriv : w.mac.sta sta = some sta_priv) :
    (staRemove w sta sta_priv).Inv := by
  have hstay : ∀ p ∈ w.stations.filter (fun p => p.1 != sta), p ∈ w.stations ∧ p.1 ≠ sta :=
    fun p hp => ⟨(List.mem_filter.mp hp).1, bne_iff_ne.mp (List.mem_filter.mp hp).2⟩
  constructor
  · intro p hp
    obtain ⟨hp, hne⟩ := hstay p hp
    obtain ⟨old, hold, hindex⟩ := h.index p hp
    unfold Wcn36xx.staRemove smdDeleteSta
    dsimp only
    rw [Function.update_of_ne hne]
    refine ⟨old, hold, fun hconf' => List.mem_filter.mpr ⟨hindex hconf', bne_iff_ne.mpr ?_⟩⟩
    exact fun heq => hne (h.distinct p hp (sta, vif) hsta hconf' hconf old hold sta_priv hpriv heq)
  · intro p hp p' hp' hc hc' priv hpriv priv' hpriv'
    obtain ⟨hp, hne⟩ := hstay p hp
    obtain ⟨hp', hne'⟩ := hstay p' hp'
    unfold Wcn36xx.staRemove smdDeleteSta at hc hc' hpriv hpriv'
    dsimp only at hc hc' hpriv hpriv'
    rw [Function.update_of_ne hne] at hpriv
    rw [Function.update_of_ne hne'] at hpriv'
    exact h.distinct p hp p' hp' hc hc' priv hpriv priv' hpriv'
  · intro d hd
    rcases List.mem_append.mp hd with hd | hd
    · exact h.deletes d hd
    · rw [List.mem_singleton.mp hd]
      obtain ⟨own, hown, hindex⟩ := h.index (sta, vif) hsta
      obtain rfl : own = sta_priv := Option.some.inj (hown.symm.trans hpriv)
      exact decide_eq_true (hindex hconf)

end Inv

end StaWorld

/-- Every step in which the indices are assigned keeps the invariant. -/
theorem staStep_inv {w w' : StaWorld} {e : StaEvent} (h : w.Inv) (hassigned : IndexAssigned w e)
    (hstep : staSystem.step w e = some w') : w'.Inv := by
  cases e with
  | addInterface vif priv rsp =>
    simp only [staSystem] at hstep
    split_ifs at hstep
    cases hstep
    refine h.setMac ?_
    unfold addInterface
    split_ifs <;> rfl
  | removeInterface vif =>
    simp only [staSystem] at hstep
    split_ifs at hstep
    cases hstep
    exact h.setMac rfl
  | staAdd vif sta sta_priv rsp =>
    obtain ⟨priv, hpriv, hstep⟩ := Option.bind_eq_some_iff.mp hstep
    split_ifs at hstep with hcond
    cases hstep
    exact h.staAdd hcond.2 (hassigned priv hpriv)
  | staRemove vif sta =>
    obtain ⟨sta_priv, hpriv, hstep⟩ := Option.bind_eq_some_iff.mp hstep
    split_ifs at hstep with hcond
    cases hstep
    exact h.staRemove hcond.1 hassigned hpriv
  | bssInfoChanged vif conf changed env =>
    obtain ⟨priv, hpriv, hstep⟩ := Option.bind_eq_some_iff.mp hstep
    split_ifs at hstep
    cases hstep
    exact h.setTodo _
  | op vif rsp =>
    simp only [staSystem] at hstep
    split at hstep
    · cases hstep
    · rename_i sta rest htodo
      cases hstep
      have hfresh : FreshIndex w sta rsp := by
        unfold IndexAssigned at hassigned
        dsimp only at hassigned
        rw [htodo] at hassigned
        exact hassigned
      exact (h.setTodo _).smdConfigSta hfresh
    · cases hstep
      exact h.setTodo _

/-- In every run in which a station is removed only when `wcn36xx_smd_config_sta` has succeeded for it, and
the firmware assigns no index that another configured station has, every deletion names an index that the
firmware assigned to the station that is removed, and that has not been deleted since. -/
theorem deletesOwned_of_indexAssigned {w : StaWorld}
    (hw : staSystem.ReachableWhen IndexAssigned w) : DeletesOwned w := by
  have hinv : w.Inv := by
    refine hw.invariant (I := StaWorld.Inv) ?_ fun _ _ _ => staStep_inv
    rintro w ⟨-, hstations, -, -, -, hdeletes⟩
    constructor
    · rw [hstations]
      exact nofun
    · rw [hstations]
      exact nofun
    · unfold DeletesOwned
      rw [hdeletes]
      exact nofun
  exact hinv.deletes

/-! ## An access point and a station -/

/-- The private data of an interface as mac80211 hands it over, all of it zero. -/
def vifPriv (type : Nl80211Iftype) : WcnVif where
  type := type
  addr := [2, 0, 0, 0, 0, 1]

/-- The interface associates with the access point's station `sta`; the first operations are
`is_joining`, `sta_assoc`, `set_link_st`, `config_bss` and `config_sta`. -/
def associate (vif sta : ℕ) (rsp : Option ConfigStaRsp) : List StaEvent :=
  [.bssInfoChanged vif { assoc := true } { ASSOC := true } { find_sta := some sta },
    .op vif none, .op vif none, .op vif none, .op vif none, .op vif rsp]

/-- Two stations of an access point, of which the first is removed, and an interface that associates and
loses its access point's station, to which the firmware has given the index of the removed one. -/
theorem deletesOwned_of_indexAssigned_three_stations :
    ∃ w, staSystem.ReachableWhen IndexAssigned w ∧ w.deletes.length = 2 ∧ DeletesOwned w := by
  obtain ⟨w, hrun, hlen⟩ : ∃ w, staSystem.runWhen IndexAssigned {}
      ([.addInterface 1 (vifPriv .AP) none, .staAdd 1 10 {} (some ⟨1, 0, 0⟩),
        .staAdd 1 11 {} (some ⟨2, 0, 0⟩), .staRemove 1 10, .addInterface 2 (vifPriv .STATION) none,
        .staAdd 2 20 {} none] ++ associate 2 20 (some ⟨1, 0, 0⟩) ++ [.staRemove 2 20]) = some w ∧
      (fun w : StaWorld => decide (w.deletes.length = 2)) w = true :=
    (Option.any_eq_true _ _).mp (by decide +kernel)
  have hw : staSystem.ReachableWhen IndexAssigned w :=
    System.ReachableWhen.runWhen (.init ⟨rfl, rfl, rfl, rfl, rfl, rfl⟩) hrun
  exact ⟨w, hw, of_decide_eq_true hlen, deletesOwned_of_indexAssigned hw⟩

/-- The access point of an interface is added as a station and removed before the association is complete:
`wcn36xx_sta_remove` deletes the index 0, which no response has assigned. -/
theorem deletesOwned_fails_without_association :
    ∃ w, staSystem.Reachable w ∧ ¬DeletesOwned w := by
  obtain ⟨w, hrun, hbad⟩ : ∃ w, staSystem.runFrom {}
      [.addInterface 1 (vifPriv .STATION) none, .staAdd 1 10 {} none, .staRemove 1 10] = some w ∧
      (fun w : StaWorld => w.deletes.any fun d => !d.assigned) w = true :=
    (Option.any_eq_true _ _).mp (by decide +kernel)
  refine ⟨w, System.Reachable.runFrom (.init ⟨rfl, rfl, rfl, rfl, rfl, rfl⟩) hrun, fun hown => ?_⟩
  obtain ⟨d, hd, hne⟩ := List.any_eq_true.mp hbad
  rw [hown d hd] at hne
  cases hne

end Wcn36xx
