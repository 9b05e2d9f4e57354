import Wcn36xx.Mac.Interface
import Wcn36xx.Support.Alternation

/-!
# Adding and deleting a BSS

`WCN36XX_HAL_CONFIG_BSS_REQ` with action 0 adds a BSS and `WCN36XX_HAL_DELETE_BSS_REQ` deletes it. A call
of `wcn36xx_bss_info_changed` adds or deletes one for a new BSSID, and again when the beacon is switched
on or off or changes. Neither part looks at what the interface has: they go by the bits of `changed`.

`bssBalanced_iff` says when the firmware has at most one BSS for an interface at any time, and a BSS
whenever it is told to delete one: when mac80211's calls switch the BSS on and off in turn (`InTurn`).
-/

namespace Wcn36xx

open Support (Alternates heldAfter alternates_append alternates_iff_count)

/-- A call of `wcn36xx_bss_info_changed`. -/
structure BssCall where
  conf : BssConf
  changed : BssChanged
  env : BssEnv := {}

/-- What a request does to the interface's BSS: `true` for `WCN36XX_HAL_CONFIG_BSS_REQ` with action 0,
`false` for `WCN36XX_HAL_DELETE_BSS_REQ`. -/
def BssOp.bssReq : BssOp → Option Bool
  | .smdConfigBss _ _ update => if update then none else some true
  | .smdDeleteBss => some false
  | _ => none

/-- The requests of a run of calls on an interface that add or delete a BSS. -/
def bssReqs (vif : WcnVif) (calls : List BssCall) : List Bool :=
  calls.flatMap fun c => (bssInfoChanged vif c.conf c.changed c.env).filterMap BssOp.bssReq

/-- After any of the requests the firmware has none or one BSS for the interface: between two requests to add
one there is a request to delete it, and a request to delete one comes when there is one. -/
def BssBalanced (reqs : List Bool) : Prop :=
  ∀ pre, pre <+: reqs →
    pre.count false ≤ pre.count true ∧ pre.count true ≤ pre.count false + 1

namespace BssCall

variable (c : BssCall)

/-- The call gets to its last part: the access point's station is found if there is an association,
and so is the probe response if it changes. -/
def getsToBeacon : Bool :=
  (!(c.changed.ASSOC && c.conf.assoc) || c.env.find_sta.isSome) &&
    (!c.changed.AP_PROBE_RESP || c.env.proberesp_get)

/-- The call has a beacon to switch on or off, and gets to it. -/
def setsBeacon : Bool :=
  (c.changed.BEACON_ENABLED || c.changed.BEACON) && c.getsToBeacon

end BssCall

/-- The calls switch the interface's BSS on and off in turn; `has_bss` says if it is on before the first.
Where a call sets the BSSID, it is zero if the BSS is on, and not zero if the BSS is off; where it has a
beacon to switch on or off, it is on if the BSS is off after that, and off if the BSS is on. -/
def InTurn : (has_bss : Bool) → List BssCall → Prop
  | _, [] => True
  | has_bss, c :: calls =>
    let has_bss' := if c.changed.BSSID then !isZeroEtherAddr c.conf.bssid else has_bss
    (c.changed.BSSID = true → isZeroEtherAddr c.conf.bssid = has_bss) ∧
    (c.setsBeacon = true → c.conf.enable_beacon = !has_bss') ∧
    InTurn (if c.setsBeacon then c.conf.enable_beacon else has_bss') calls

instance : ∀ has_bss calls, Decidable (InTurn has_bss calls)
  | _, [] => isTrue trivial
  | has_bss, c :: calls => by
    unfold InTurn
    have := instDecidableInTurn (if c.setsBeacon then c.conf.enable_beacon else
      if c.changed.BSSID then !isZeroEtherAddr c.conf.bssid else has_bss) calls
    infer_instance

/-! ## The requests of one call -/

section OneCall

variable (vif : WcnVif) (conf : BssConf) (changed : BssChanged) (env : BssEnv)

/-- The request of the part for `BSS_CHANGED_BSSID`. -/
theorem bssReq_bssBssid : (bssBssid conf changed).filterMap BssOp.bssReq =
    if changed.BSSID then [!isZeroEtherAddr conf.bssid] else [] := by
  unfold bssBssid
  split_ifs with hchanged hzero
  · rw [hzero]
    rfl
  · rw [Bool.not_eq_true] at hzero
    rw [hzero]
    rfl
  · rfl

/-- The request of the part for `BSS_CHANGED_BEACON_ENABLED` and `BSS_CHANGED_BEACON`. -/
theorem bssReq_bssBeacon : (bssBeacon vif conf changed env).filterMap BssOp.bssReq =
    if changed.BEACON_ENABLED || changed.BEACON then [conf.enable_beacon] else [] := by
  unfold bssBeacon
  split_ifs with hchanged henable hget
  · rw [henable]
    rfl
  · rw [henable]
    rfl
  · rw [henable]
    rfl
  · rw [Bool.not_eq_true] at henable
    rw [henable]
    rfl
  · rfl

/-- The part for `BSS_CHANGED_AP_PROBE_RESP` makes no request of its own. -/
theorem bssReq_bssProbeResp : (bssProbeResp vif conf changed env).filterMap BssOp.bssReq =
    if !changed.AP_PROBE_RESP || env.proberesp_get then
      (bssBeacon vif conf changed env).filterMap BssOp.bssReq
    else [] := by
  unfold bssProbeResp
  cases changed.AP_PROBE_RESP <;> cases env.proberesp_get <;> rfl

/-- The part for `BSS_CHANGED_ASSOC` updates a BSS, and does not add one. -/
theorem bssReq_bssAssoc : (bssAssoc vif conf changed env).filterMap BssOp.bssReq =
    if !(changed.ASSOC && conf.assoc) || env.find_sta.isSome then
      (bssProbeResp vif conf changed env).filterMap BssOp.bssReq
    else [] := by
  unfold bssAssoc
  cases changed.ASSOC <;> cases conf.assoc <;> cases env.find_sta <;> rfl

end OneCall

/-- The requests of a call: one for the BSSID if it is set, and one for the beacon if the call gets to
it. -/
theorem bssReq_bssInfoChanged (vif : WcnVif) (c : BssCall) :
    (bssInfoChanged vif c.conf c.changed c.env).filterMap BssOp.bssReq =
      (if c.changed.BSSID then [!isZeroEtherAddr c.conf.bssid] else []) ++
        (if c.setsBeacon then [c.conf.enable_beacon] else []) := by
  have hinfo : (bssBeaconInfo c.conf c.changed).filterMap BssOp.bssReq = [] := by
    unfold bssBeaconInfo
    split_ifs <;> rfl
  have hps : (bssPs c.conf c.changed).filterMap BssOp.bssReq = [] := by
    unfold bssPs
    split_ifs <;> rfl
  have hssid : (bssSsid c.conf c.changed).filterMap BssOp.bssReq = [] := by
    unfold bssSsid
    split_ifs <;> rfl
  have hassoc : (bssAssoc vif c.conf c.changed c.env).filterMap BssOp.bssReq =
      if c.setsBeacon then [c.conf.enable_beacon] else [] := by
    rw [bssReq_bssAssoc, bssReq_bssProbeResp, bssReq_bssBeacon, BssCall.setsBeacon,
      BssCall.getsToBeacon]
    cases !(c.changed.ASSOC && c.conf.assoc) || c.env.find_sta.isSome <;>
      cases !c.changed.AP_PROBE_RESP || c.env.proberesp_get <;>
      cases c.changed.BEACON_ENABLED || c.changed.BEACON <;> rfl
  unfold bssInfoChanged
  simp only [List.filterMap_append, hinfo, hps, bssReq_bssBssid, hssid, hassoc, List.nil_append,
    List.append_nil]

/-! ## A run of calls -/

/-- The requests find what they need exactly when the calls come in turn. -/
theorem alternates_bssReqs (vif : WcnVif) (has_bss : Bool) (calls : List BssCall) :
    Alternates has_bss (bssReqs vif calls) ↔ InTurn has_bss calls := by
  induction calls generalizing has_bss with
  | nil => exact Iff.rfl
  | cons c calls ih =>
    rw [bssReqs, List.flatMap_cons, ← bssReqs, bssReq_bssInfoChanged, List.append_assoc,
      alternates_append, alternates_append, ih, InTurn]
    have hbssid : Alternates has_bss
          (if c.changed.BSSID then [!isZeroEtherAddr c.conf.bssid] else []) ↔
        (c.changed.BSSID = true → isZeroEtherAddr c.conf.bssid = has_bss) := by
      cases c.changed.BSSID <;> simp [Alternates]
    have hheld : heldAfter has_bss
          (if c.changed.BSSID then [!isZeroEtherAddr c.conf.bssid] else []) =
        if c.changed.BSSID then !isZeroEtherAddr c.conf.bssid else has_bss := by
      cases c.changed.BSSID <;> rfl
    rw [hbssid, hheld]
    -- what the BSSID leaves
    generalize (if c.changed.BSSID then !isZeroEtherAddr c.conf.bssid else has_bss) = has
    have hbeacon : Alternates has (if c.setsBeacon then [c.conf.enable_beacon] else []) ↔
        (c.setsBeacon = true → c.conf.enable_beacon = !has) := by
      cases c.setsBeacon <;> simp [Alternates]
    have hheld' : heldAfter has (if c.setsBeacon then [c.conf.enable_beacon] else []) =
        if c.setsBeacon then c.conf.enable_beacon else has := by
      cases c.setsBeacon <;> rfl
    rw [hbeacon, hheld']

/-- The firmware has at most one BSS for an interface at any time of a run, and one whenever it is told
to delete it, exactly when mac80211's calls switch the BSS on and off in turn. -/
theorem bssBalanced_iff (vif : WcnVif) (calls : List BssCall) :
    BssBalanced (bssReqs vif calls) ↔ InTurn false calls := by
  rw [← alternates_bssReqs vif, alternates_iff_count]
  exact Iff.rfl

/-- An access point goes up, down and up again. -/
example : InTurn false [⟨{ enable_beacon := true }, { BEACON_ENABLED := true, BEACON := true }, {}⟩,
    ⟨{}, { BEACON_ENABLED := true }, {}⟩, ⟨{ enable_beacon := true }, { BEACON_ENABLED := true }, {}⟩] := by
  decide

/-- An access point that is up changes its beacon: mac80211 sets `BSS_CHANGED_BEACON`, and the driver adds a
second BSS. -/
theorem bssBalanced_fails_on_beacon_change :
    ∃ vif calls, ¬BssBalanced (bssReqs vif calls) := by
  let up : BssConf := { enable_beacon := true }
  refine ⟨{ type := .AP, addr := [2, 0, 0, 0, 0, 1] },
    [⟨up, { BEACON_ENABLED := true }, {}⟩, ⟨up, { BEACON := true }, {}⟩], fun h => ?_⟩
  have htwo := (h _ (List.prefix_refl _)).2
  exact absurd htwo (by decide +kernel)

end Wcn36xx
