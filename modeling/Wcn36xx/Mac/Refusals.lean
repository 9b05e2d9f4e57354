import Wcn36xx.Mac.KeyMessages
import Wcn36xx.Smd.Response

/-!
# Refused requests

mac80211 acts on what `wcn36xx_add_interface`, `wcn36xx_sta_add` and `wcn36xx_set_key` return. Here the
callbacks are put together with their requests: each request is sent, the firmware answers it or does
not, and the request function returns 0 or an error. None of the three callbacks looks at what its
requests return. They report a failure only for a type of interface, or a cipher, that they do not
support, and then they have not changed anything.
-/

namespace Wcn36xx

/-! ## The requests of a callback -/

/-- What the requests carry besides the private data of an interface. -/
structure ReqEnv where
  /-- `wcn36xx_is_fw_version(wcn, 1, 2, 2, 24)`. -/
  old_fw : Bool := false
  hw : HwConf := {}
  /-- `vif->bss_conf`. -/
  bss_conf : BssConf := {}
  /-- The station, with the rates and the `aid` that it has when the request is sent. -/
  sta : StaConf

/-- A request that a callback has issued. -/
structure Issued where
  req : SmdRequest
  /-- The messages that were sent when it waited for its response, its own the last. -/
  sent : List (List Byte)
  ret : ℤ

/-- The driver in a callback. -/
structure CallWorld where
  mac : MacConf := {}
  smd : Smd
  /-- The requests of the callback so far. -/
  issued : List Issued := []

/-- A request function is called. -/
def CallWorld.request (fw : Firmware) (w : CallWorld) (req : SmdRequest) :
    Option (CallWorld × RspStored) := do
  let (smd, res) ← smdCall fw (.request req) w.smd
  return ({ w with smd := smd, issued := w.issued ++ [⟨req, smd.sent, res.ret⟩] }, res.stored)

/-- What `wcn36xx_smd_add_sta_self_rsp` keeps. -/
def RspStored.addStaSelfRsp : RspStored → Option AddStaSelfRsp
  | .addStaSelf (some self_sta_index) (some dpu_index) => some ⟨self_sta_index, dpu_index⟩
  | _ => .none

/-- What `wcn36xx_smd_config_sta_rsp` keeps. -/
def RspStored.configStaRsp : RspStored → Option ConfigStaRsp
  | .configSta (some sta_index) (some dpu_index) (some uc_ucast_sig) =>
    some ⟨sta_index, dpu_index, uc_ucast_sig⟩
  | _ => .none

/-- What `wcn36xx_smd_config_bss_rsp` keeps. -/
def RspStored.configBssRsp : RspStored → Option ConfigBssRsp
  | .configBss (some bss_index) (some bss_sta_index) (some dpu_desc_index)
      (some ucast_dpu_signature) =>
    some ⟨bss_index, dpu_desc_index, bss_sta_index, ucast_dpu_signature⟩
  | _ => .none

/-- `wcn36xx_add_interface` with its request. -/
def addInterfaceCall (fw : Firmware) (w : CallWorld) (vif : ℕ) (priv : WcnVif) :
    Option (CallWorld × ℤ) :=
  if priv.type = .other then
    let (mac, ret) := addInterface w.mac vif priv none
    return ({ w with mac := mac }, ret)
  else do
    let (w, stored) ← w.request fw (.addStaSelf priv)
    let (mac, ret) := addInterface w.mac vif priv stored.addStaSelfRsp
    return ({ w with mac := mac }, ret)

/-- `wcn36xx_sta_add` with its request. -/
def staAddCall (fw : Firmware) (env : ReqEnv) (w : CallWorld) (vif sta : ℕ) (sta_priv : WcnSta) :
    Option (CallWorld × ℤ) := do
  let priv ← w.mac.vif vif
  if priv.type = .STATION then
    return ({ w with mac := (staAdd { mac := w.mac } vif priv sta sta_priv none).mac }, 0)
  else
    let (w, stored) ← w.request fw (.configSta env.old_fw env.hw priv env.sta)
    let rsp := stored.configStaRsp
    return ({ w with mac := (staAdd { mac := w.mac } vif priv sta sta_priv rsp).mac }, 0)

/-- The key requests of `wcn36xx_set_key`, one after the other. -/
def issueKeys (fw : Firmware) : List SmdRequest → CallWorld → Option CallWorld
  | [], w => some w
  | req :: reqs, w => do
    let (w, _) ← w.request fw req
    issueKeys fw reqs w

/-- `wcn36xx_smd_config_bss` in `wcn36xx_set_key`, with the type of the key that is installed: it is
called for a pairwise key in station mode. -/
def reconfigureBss (fw : Firmware) (env : ReqEnv) (w : CallWorld) (priv : WcnVif) (conf : KeyConf) :
    Option (CallWorld × Option ConfigBssRsp) :=
  match conf.encryptType with
  | none => some (w, none)
  | some encrypt_type =>
    if conf.pairwise && priv.type == .STATION then do
      let (w, stored) ← w.request fw (.configBss env.old_fw env.hw
        { priv with encrypt_type := encrypt_type } env.bss_conf (some env.sta) env.sta.addr true)
      return (w, stored.configBssRsp)
    else some (w, none)

/-- `wcn36xx_set_key` for `SET_KEY`, with its requests. -/
def setKeyCall (fw : Firmware) (env : ReqEnv) (w : CallWorld) (vif : ℕ) (sta : Option ℕ)
    (aid : BitVec 16) (conf : KeyConf) : Option (CallWorld × ℤ) := do
  let priv ← w.mac.vif vif
  let (w, rsp) ← reconfigureBss fw env w priv conf
  let (mac, ops, ret) ← setKey w.mac .SET_KEY vif sta aid conf rsp
  let w ← issueKeys fw (ops.filterMap KeyOp.request) { w with mac := mac }
  return (w, ret)

/-- The callbacks whose return value mac80211 acts on. -/
inductive MacCall where
  | addInterface (vif : ℕ) (priv : WcnVif)
  | staAdd (vif sta : ℕ) (sta_priv : WcnSta)
  | setKey (vif : ℕ) (sta : Option ℕ) (aid : BitVec 16) (conf : KeyConf)

/-- A callback with its requests. -/
def macCall (fw : Firmware) (env : ReqEnv) (w : CallWorld) : MacCall → Option (CallWorld × ℤ)
  | .addInterface vif priv => addInterfaceCall fw w vif priv
  | .staAdd vif sta sta_priv => staAddCall fw env w vif sta sta_priv
  | .setKey vif sta aid conf => setKeyCall fw env w vif sta aid conf

/-! ## What a request returns -/

/-- The requests of the callbacks. -/
def SmdRequest.isConfig : SmdRequest → Bool
  | .addStaSelf _ | .configSta .. | .configBss .. | .setStakey .. | .setBsskey .. => true
  | _ => false

/-- The firmware has granted a request: its response came in time, is as long as the fields that the
request function reads, and has the status of success. -/
def Granted (fw : Firmware) (i : Issued) : Prop :=
  ∃ rsp, fw i.sent = .response rsp ∧ (SmdCall.request i.req).GoodRsp rsp

/-- What the request functions make of a response. -/
theorem SmdRequest.ret_eq_zero_iff {req : SmdRequest} (hreq : req.isConfig = true)
    (buf : List Byte) (len : ℕ) :
    (req.fn.rsp buf len).ret = 0 ↔ (SmdCall.request req).format.size ≤ len ∧
      field buf (SmdCall.request req).format.offset (SmdCall.request req).format.width =
        WCN36XX_FW_MSG_RESULT_SUCCESS := by
  cases req with
  | addStaSelf _ =>
    refine ⟨checks_addStaSelfRsp.zero, fun h => ?_⟩
    have hlen : ¬len < sizeofAddStaSelfRsp := Nat.not_lt.mpr h.1
    have hstatus : field buf 8 4 = WCN36XX_FW_MSG_RESULT_SUCCESS := h.2
    change (smdAddStaSelfRsp buf len).ret = 0
    rw [smdAddStaSelfRsp, if_neg hlen]
    dsimp only
    rw [if_neg (not_not.mpr hstatus)]
  | configSta _ _ _ _ =>
    refine ⟨checks_configStaRsp.zero, fun h => ?_⟩
    have hlen : ¬len < sizeofConfigStaRsp := Nat.not_lt.mpr h.1
    have hstatus : field buf 8 4 = WCN36XX_FW_MSG_RESULT_SUCCESS := h.2
    change (smdConfigStaRsp buf len).ret = 0
    rw [smdConfigStaRsp, if_neg hlen, if_neg (not_not.mpr hstatus)]
  | configBss _ _ _ _ sta _ _ =>
    refine ⟨(checks_configBssRsp sta.isSome).zero, fun h => ?_⟩
    have hlen : ¬len < sizeofConfigBssRsp := Nat.not_lt.mpr h.1
    have hstatus : field buf 8 4 = WCN36XX_FW_MSG_RESULT_SUCCESS := h.2
    change (smdConfigBssRsp sta.isSome buf len).ret = 0
    rw [smdConfigBssRsp, if_neg hlen, if_neg (not_not.mpr hstatus)]
  | setStakey _ _ _ _ | setBsskey _ _ _ => exact smdRspStatusCheck_eq_zero_iff buf len
  | _ => cases hreq

/-- A good response to one of them. -/
theorem SmdRequest.goodRsp_iff {req : SmdRequest} (hreq : req.isConfig = true) (rsp : List Byte) :
    (SmdCall.request req).GoodRsp rsp ↔ (SmdCall.request req).format.size ≤ rsp.length ∧
      field rsp (SmdCall.request req).format.offset (SmdCall.request req).format.width =
        WCN36XX_FW_MSG_RESULT_SUCCESS := by
  cases req with
  | addStaSelf _ | configSta _ _ _ _ | configBss _ _ _ _ _ _ _ | setStakey _ _ _ _
  | setBsskey _ _ _ => exact Iff.rfl
  | _ => cases hreq

/-- None of them gives up before it sends. -/
theorem SmdRequest.compose_ready {req : SmdRequest} (hreq : req.isConfig = true) {hal_buf : HalBuf}
    {c : Composed} (h : req.fn.compose hal_buf = some c) : ∃ hal_buf' len, c = .ready hal_buf' len := by
  have hfixed : ∀ {r : HalReq} {body : List Byte}, fixedMsg r body hal_buf = some c →
      ∃ hal_buf' len, c = .ready hal_buf' len := by
    intro r body h
    obtain ⟨hal_buf', -, h⟩ := Option.bind_eq_some_iff.mp h
    exact ⟨hal_buf', _, (Option.some.inj h).symm⟩
  cases req with
  | addStaSelf _ | configSta _ _ _ _ => exact hfixed h
  | configBss _ _ _ _ _ _ _ | setStakey _ _ _ _ | setBsskey _ _ _ =>
    obtain ⟨_, -, h⟩ := Option.bind_eq_some_iff.mp h
    exact hfixed h
  | _ => cases hreq

/-- What they make of a response that has just been copied to `hal_buf`. -/
theorem SmdRequest.ret_written_iff {req : SmdRequest} (hreq : req.isConfig = true)
    {hal_buf hal_buf' : HalBuf} {rsp : List Byte} (hwrite : hal_buf.write 0 rsp = some hal_buf') :
    (req.fn.rsp hal_buf'.bytes rsp.length).ret = 0 ↔ (SmdCall.request req).GoodRsp rsp := by
  obtain ⟨-, hbytes⟩ := HalBuf.bytes_of_write hwrite
  have hsame : hal_buf'.bytes.take rsp.length = rsp.take rsp.length := by
    rw [hbytes, List.take_zero, List.nil_append, List.take_left, List.take_length]
  rw [SmdRequest.goodRsp_iff hreq, SmdRequest.ret_eq_zero_iff hreq]
  refine and_congr_right fun hlen => ?_
  rw [field_of_take_eq hsame (Nat.le_trans (SmdCall.request req).format_le.1 hlen)]

section Granted

variable {fw : Firmware} {i : Issued}

/-- A request without a response is not granted. -/
theorem not_granted (h : ∀ rsp, fw i.sent ≠ .response rsp) : ¬Granted fw i := by
  rintro ⟨rsp, hrsp, -⟩
  exact h rsp hrsp

/-- A request with one is granted when the response is good. -/
theorem granted_iff {rsp : List Byte} (h : fw i.sent = .response rsp) :
    Granted fw i ↔ (SmdCall.request i.req).GoodRsp rsp := by
  constructor
  · rintro ⟨rsp', hrsp', hgood⟩
    rw [h, TxOutcome.response.injEq] at hrsp'
    rw [hrsp']
    exact hgood
  · intro hgood
    exact ⟨rsp, h, hgood⟩

end Granted

/-- A request function returns 0 exactly when the firmware grants the request. -/
theorem smdCall_ret_iff {fw : Firmware} {req : SmdRequest} (hreq : req.isConfig = true)
    {smd smd' : Smd} {res : RspResult} (h : smdCall fw (.request req) smd = some (smd', res)) :
    res.ret = 0 ↔ Granted fw ⟨req, smd'.sent, res.ret⟩ := by
  obtain ⟨c, hcompose, h⟩ := Option.bind_eq_some_iff.mp h
  obtain ⟨hal_buf, len, rfl⟩ := SmdRequest.compose_ready hreq hcompose
  obtain ⟨⟨smd₁, ret⟩, hsend, h⟩ := Option.bind_eq_some_iff.mp h
  obtain ⟨msg, hmsg, hsend⟩ := Option.bind_eq_some_iff.mp hsend
  dsimp only at h hsend
  cases hfw : fw (smd.sent ++ [msg]) with
  | txError ret' ne =>
    rw [hfw, Option.pure_def, Option.some.injEq, Prod.mk.injEq] at hsend
    obtain ⟨rfl, rfl⟩ := hsend
    rw [if_pos ne, Option.pure_def, Option.some.injEq, Prod.mk.injEq] at h
    obtain ⟨rfl, rfl⟩ := h
    refine iff_of_false ne (not_granted fun rsp => ?_)
    rw [hfw]
    exact TxOutcome.noConfusion
  | timeout =>
    rw [hfw, Option.pure_def, Option.some.injEq, Prod.mk.injEq] at hsend
    obtain ⟨rfl, rfl⟩ := hsend
    rw [if_pos (by decide), Option.pure_def, Option.some.injEq, Prod.mk.injEq] at h
    obtain ⟨rfl, rfl⟩ := h
    refine iff_of_false (by decide) (not_granted fun rsp => ?_)
    rw [hfw]
    exact TxOutcome.noConfusion
  | response rsp =>
    rw [hfw] at hsend
    obtain ⟨hal_buf', hwrite, hsend⟩ := Option.bind_eq_some_iff.mp hsend
    rw [Option.pure_def, Option.some.injEq, Prod.mk.injEq] at hsend
    obtain ⟨rfl, rfl⟩ := hsend
    rw [if_neg (not_not.mpr rfl), Option.pure_def, Option.some.injEq, Prod.mk.injEq] at h
    obtain ⟨rfl, rfl⟩ := h
    rw [granted_iff hfw]
    exact SmdRequest.ret_written_iff hreq hwrite

/-! ## What the callbacks report -/

/-- The lists and flags of the driver are the same: `vif_list`, `encrypt_type`, `is_data_encrypted` and
the pointer of a station to its interface. -/
structure MacConf.SameFlags (mac mac' : MacConf) : Prop where
  vif_list : mac'.vif_list = mac.vif_list
  encrypt_type : ∀ vif, (mac'.vif vif).map WcnVif.encrypt_type = (mac.vif vif).map WcnVif.encrypt_type
  is_data_encrypted : ∀ sta, mac'.encrypted sta = mac.encrypted sta
  sta_vif : ∀ sta, (mac'.sta sta).map WcnSta.vif = (mac.sta sta).map WcnSta.vif

/-- A callback that has taken the driver from `w` to `w'` returns 0 only if all of its requests have
succeeded, and an error only if nothing has changed. -/
structure Reports (w w' : CallWorld) (ret : ℤ) : Prop where
  success : ret = 0 → ∀ i ∈ w'.issued, i.ret = 0
  failure : ret ≠ 0 → w.mac.SameFlags w'.mac

namespace CallWorld

/-- The requests so far are some of those of the callbacks, and have succeeded if they were granted. -/
def Settled (fw : Firmware) (w : CallWorld) : Prop := ∀ i ∈ w.issued, i.ret = 0 ↔ Granted fw i

variable {fw : Firmware} {w w' : CallWorld}

/-- One more request. -/
theorem Settled.request (h : w.Settled fw) {req : SmdRequest} (hreq : req.isConfig = true)
    {stored : RspStored} (hrun : w.request fw req = some (w', stored)) :
    w'.Settled fw ∧ w'.mac = w.mac := by
  obtain ⟨⟨smd, res⟩, hcall, hrun⟩ := Option.bind_eq_some_iff.mp hrun
  rw [Option.pure_def, Option.some.injEq, Prod.mk.injEq] at hrun
  obtain ⟨rfl, -⟩ := hrun
  refine ⟨fun i hi => ?_, rfl⟩
  rcases List.mem_append.mp hi with hold | hnew
  · exact h i hold
  · rw [List.mem_singleton.mp hnew]
    exact smdCall_ret_iff hreq hcall

/-- The key requests. -/
theorem Settled.issueKeys {reqs : List SmdRequest} (hreqs : ∀ req ∈ reqs, req.isConfig = true)
    (h : w.Settled fw) (hrun : issueKeys fw reqs w = some w') : w'.Settled fw := by
  induction reqs generalizing w with
  | nil =>
    rw [Wcn36xx.issueKeys, Option.some.injEq] at hrun
    exact hrun ▸ h
  | cons req reqs ih =>
    obtain ⟨⟨w₁, stored⟩, hfirst, hrest⟩ := Option.bind_eq_some_iff.mp hrun
    have hsettled := (h.request (hreqs req List.mem_cons_self) hfirst).1
    exact ih (fun req hreq => hreqs req (List.mem_cons_of_mem _ hreq)) hsettled hrest

end CallWorld

/-- A callback fails without having done anything, or it returns 0. -/
inductive CallEnd (fw : Firmware) (w w' : CallWorld) (ret : ℤ) : Prop
  | failed : ret ≠ 0 → w' = w → CallEnd fw w w' ret
  | done : ret = 0 → w'.Settled fw → CallEnd fw w w' ret

section Callbacks

variable {fw : Firmware} {env : ReqEnv} {w w' : CallWorld} {ret : ℤ} (hw : w.Settled fw)
include hw

/-- `wcn36xx_add_interface`. -/
theorem addInterfaceCall_end {vif : ℕ} {priv : WcnVif}
    (h : addInterfaceCall fw w vif priv = some (w', ret)) : CallEnd fw w w' ret := by
  unfold addInterfaceCall at h
  split_ifs at h with htype
  · unfold addInterface at h
    rw [if_pos htype, Option.pure_def, Option.some.injEq, Prod.mk.injEq] at h
    obtain ⟨rfl, rfl⟩ := h
    exact .failed (by decide) rfl
  · -- `vif_list` has the interface before the request, and what the request returns is dropped.
    obtain ⟨⟨w₁, stored⟩, hreq, h⟩ := Option.bind_eq_some_iff.mp h
    unfold addInterface at h
    dsimp only at h
    rw [if_neg htype, Option.pure_def, Option.some.injEq, Prod.mk.injEq] at h
    obtain ⟨rfl, rfl⟩ := h
    exact .done rfl (hw.request rfl hreq).1

/-- `wcn36xx_sta_add`. -/
theorem staAddCall_end {vif sta : ℕ} {sta_priv : WcnSta}
    (h : staAddCall fw env w vif sta sta_priv = some (w', ret)) : CallEnd fw w w' ret := by
  obtain ⟨priv, -, h⟩ := Option.bind_eq_some_iff.mp h
  split_ifs at h with htype
  · -- In station mode the firmware hears of the station on `BSS_CHANGED_ASSOC`.
    rw [Option.pure_def, Option.some.injEq, Prod.mk.injEq] at h
    obtain ⟨rfl, rfl⟩ := h
    exact .done rfl hw
  · obtain ⟨⟨w₁, stored⟩, hreq, h⟩ := Option.bind_eq_some_iff.mp h
    rw [Option.pure_def, Option.some.injEq, Prod.mk.injEq] at h
    obtain ⟨rfl, rfl⟩ := h
    exact .done rfl (hw.request rfl hreq).1

omit hw in
/-- The requests of a call that installs a key. -/
theorem isConfig_of_install {mac mac' : MacConf} {vif : ℕ} {sta : Option ℕ} {aid : BitVec 16}
    {conf : KeyConf} {rsp : Option ConfigBssRsp} {ops : List KeyOp} {ret : ℤ}
    (h : setKey mac .SET_KEY vif sta aid conf rsp = some (mac', ops, ret)) :
    ∀ req ∈ ops.filterMap KeyOp.request, req.isConfig = true := by
  intro req hreq
  obtain ⟨op, hop, hrequest⟩ := List.mem_filterMap.mp hreq
  rcases setKey_install h with ⟨-, -, -, rfl⟩ | ⟨enc_type, sta_index, -, -, -, hops⟩
  · cases hop
  · -- `wcn36xx_smd_config_bss` is not among them: it is sent before.
    have hmem : op ∈ keyRequests ops := by
      refine List.mem_filter.mpr ⟨hop, ?_⟩
      rw [KeyOp.smdFn, hrequest]
      rfl
    rw [hops] at hmem
    rcases mem_installOps hmem with rfl | rfl
    · rw [← Option.some.inj hrequest]
      rfl
    · rw [← Option.some.inj hrequest]
      rfl

/-- `wcn36xx_smd_config_bss` in `wcn36xx_set_key`. -/
theorem reconfigureBss_settled {priv : WcnVif} {conf : KeyConf} {rsp : Option ConfigBssRsp}
    (h : reconfigureBss fw env w priv conf = some (w', rsp)) :
    w'.Settled fw ∧ w'.mac = w.mac ∧ (conf.encryptType = none → w' = w) := by
  unfold reconfigureBss at h
  cases htype : conf.encryptType with
  | none =>
    rw [htype, Option.some.injEq, Prod.mk.injEq] at h
    obtain ⟨rfl, -⟩ := h
    exact ⟨hw, rfl, fun _ => rfl⟩
  | some enc_type =>
    rw [htype] at h
    dsimp only at h
    split_ifs at h with hbss
    · obtain ⟨⟨w₁, stored⟩, hreq, h⟩ := Option.bind_eq_some_iff.mp h
      rw [Option.pure_def, Option.some.injEq, Prod.mk.injEq] at h
      obtain ⟨rfl, -⟩ := h
      obtain ⟨hsettled, hmac⟩ := hw.request rfl hreq
      exact ⟨hsettled, hmac, fun h => by cases h⟩
    · rw [Option.some.injEq, Prod.mk.injEq] at h
      obtain ⟨rfl, -⟩ := h
      exact ⟨hw, rfl, fun h => by cases h⟩

/-- `wcn36xx_set_key`. -/
theorem setKeyCall_end {vif : ℕ} {sta : Option ℕ} {aid : BitVec 16} {conf : KeyConf}
    (h : setKeyCall fw env w vif sta aid conf = some (w', ret)) : CallEnd fw w w' ret := by
  obtain ⟨priv, -, h⟩ := Option.bind_eq_some_iff.mp h
  obtain ⟨⟨w₁, rsp⟩, hbss, h⟩ := Option.bind_eq_some_iff.mp h
  obtain ⟨⟨mac, ops, ret'⟩, hset, h⟩ := Option.bind_eq_some_iff.mp h
  obtain ⟨w₂, hkeys, h⟩ := Option.bind_eq_some_iff.mp h
  rw [Option.pure_def, Option.some.injEq, Prod.mk.injEq] at h
  obtain ⟨rfl, rfl⟩ := h
  obtain ⟨hsettled, hmac, hsame⟩ := reconfigureBss_settled hw hbss
  rcases setKey_install hset with ⟨htype, hne, hold, rfl⟩ | ⟨_, _, _, hzero, _⟩
  · -- A cipher that is not supported: no request has been sent.
    rw [hsame htype] at hold hkeys
    subst hold
    rw [List.filterMap_nil, issueKeys, Option.some.injEq] at hkeys
    exact .failed hne hkeys.symm
  · have hnew : CallWorld.Settled fw { w₁ with mac := mac } := hsettled
    exact .done hzero (hnew.issueKeys (isConfig_of_install hset) hkeys)

/-- Every callback. -/
theorem macCall_end {call : MacCall} (h : macCall fw env w call = some (w', ret)) :
    CallEnd fw w w' ret := by
  cases call with
  | addInterface vif priv => exact addInterfaceCall_end hw h
  | staAdd vif sta sta_priv => exact staAddCall_end hw h
  | setKey vif sta aid conf => exact setKeyCall_end hw h

end Callbacks

/-- The lists and flags are the same when nothing has happened. -/
theorem MacConf.SameFlags.refl (mac : MacConf) : mac.SameFlags mac :=
  ⟨rfl, fun _ => rfl, fun _ => rfl, fun _ => rfl⟩

/-- Whatever the firmware answers, a callback reports what has become of its requests exactly when all
of them are granted. -/
theorem reports_iff {fw : Firmware} {env : ReqEnv} {mac : MacConf} {smd : Smd} {call : MacCall}
    {w' : CallWorld} {ret : ℤ} (h : macCall fw env { mac := mac, smd := smd } call = some (w', ret)) :
    Reports { mac := mac, smd := smd } w' ret ↔ ∀ i ∈ w'.issued, Granted fw i := by
  have hnone : CallWorld.Settled fw { mac := mac, smd := smd } := fun i hi => by cases hi
  cases macCall_end hnone h with
  | failed hne hsame =>
    rw [hsame]
    refine iff_of_true ⟨fun hzero => absurd hzero hne, fun _ => .refl mac⟩ fun i hi => by cases hi
  | done hzero hsettled =>
    constructor
    · intro hreports i hi
      exact (hsettled i hi).mp (hreports.success hzero i hi)
    · intro hgranted
      exact ⟨fun _ i hi => (hsettled i hi).mpr (hgranted i hi), fun hne => absurd hzero hne⟩

/-- A WEP key of an access point's group, for a station. -/
def wepGroup : KeyConf where
  cipher := WLAN_CIPHER_SUITE_WEP40
  key := List.replicate 5 0x5a

/-- The firmware grants both requests that install it. -/
theorem reports_iff_wep : ∃ w' ret, macCall ackFirmware { sta := { addr := [] } }
    { mac := noKeys.mac, smd := zeroSmd } (.setKey 1 (some 5) 0 wepGroup) = some (w', ret) ∧
      w'.issued.length = 2 ∧ Reports { mac := noKeys.mac, smd := zeroSmd } w' ret := by
  obtain ⟨⟨w', ret⟩, hrun, hw⟩ : ∃ r, macCall ackFirmware { sta := { addr := [] } }
      { mac := noKeys.mac, smd := zeroSmd } (.setKey 1 (some 5) 0 wepGroup) = some r ∧
      (decide (r.1.issued.length = 2) && r.1.issued.all fun i => i.ret == 0) = true :=
    (Option.any_eq_true _ _).mp (by decide +kernel)
  obtain ⟨hlength, hall⟩ := Bool.and_eq_true_iff.mp hw
  refine ⟨w', ret, hrun, of_decide_eq_true hlength, (reports_iff hrun).mpr fun i hi => ?_⟩
  have hzero : i.ret = 0 := beq_iff_eq.mp (List.all_eq_true.mp hall i hi)
  have hnone : CallWorld.Settled ackFirmware { mac := noKeys.mac, smd := zeroSmd } :=
    fun i hi => by cases hi
  cases macCall_end hnone hrun with
  | failed hne hsame =>
    rw [hsame] at hi
    cases hi
  | done _ hsettled => exact (hsettled i hi).mp hzero

/-- An interface is added while the firmware does not answer, and the callback returns 0. -/
theorem reports_fails_on_timeout : ∃ w', macCall (fun _ => .timeout) { sta := { addr := [] } }
    { smd := zeroSmd } (.addInterface 1 { type := .AP, addr := [] }) = some (w', 0) ∧
      ¬Reports { smd := zeroSmd } w' 0 := by
  obtain ⟨⟨w', ret⟩, hrun, hw⟩ : ∃ r, macCall (fun _ => .timeout) { sta := { addr := [] } }
      { smd := zeroSmd } (.addInterface 1 { type := .AP, addr := [] }) = some r ∧
      (r.2 == 0 && r.1.issued.any fun i => i.ret != 0) = true :=
    (Option.any_eq_true _ _).mp (by decide +kernel)
  obtain ⟨hret, hany⟩ := Bool.and_eq_true_iff.mp hw
  obtain rfl : ret = 0 := beq_iff_eq.mp hret
  obtain ⟨i, hi, hne⟩ := List.any_eq_true.mp hany
  exact ⟨w', hrun, fun h => (bne_iff_ne.mp hne) (h.success rfl i hi)⟩

end Wcn36xx
