import Wcn36xx.Dxe.Tx
import Wcn36xx.Smd.Residue
import Wcn36xx.Support.System

/-!
# Power save

`wcn36xx_pmc_enter_bmps_state` and `wcn36xx_pmc_exit_bmps_state` ask the firmware to change its mode for an
interface, and keep the mode in `pw_state`, by which `wcn36xx_dxe_tx_frame` decides how to tell the
chip of a data frame. The firmware changes its mode exactly when it answers with success, and may do so
after the driver has given up waiting.

Entering looks at what becomes of the request, but not at an answer that comes later. Leaving does not look
at all: `pw_state` is full power afterwards in any case. So `pw_state` is the firmware's mode
(`powerMirrors_of_answeredInTime`) in the runs in which every request to leave is answered with success in
time, and no request to enter is answered with success but in time.
-/

namespace Wcn36xx

open Support (System)

/-! ## `pmc.c` -/

/-- `wcn36xx_pmc_enter_bmps_state`: the interface's private data afterwards and the return value. -/
def Pmc.enterBmpsState (fw : Firmware) (smd : Smd) (vif : WcnVif) (bss_conf : BssConf) :
    Option (Smd × WcnVif × ℤ) := do
  let (smd, result) ← smdCall fw (.request (.enterBmps vif bss_conf)) smd
  if result.ret = 0 then return (smd, { vif with pw_state := .BMPS }, result.ret)
  -- `Can not enter BMPS!`
  else return (smd, vif, result.ret)

/-- `wcn36xx_pmc_exit_bmps_state`: the interface's private data afterwards and the return value. -/
def Pmc.exitBmpsState (fw : Firmware) (smd : Smd) (vif : WcnVif) : Option (Smd × WcnVif × ℤ) :=
  -- `Not in BMPS mode, no need to exit from BMPS mode!`
  if vif.pw_state ≠ .BMPS then some (smd, vif, -EINVAL)
  else do
    let (smd, _) ← smdCall fw (.request (.exitBmps vif)) smd
    return (smd, { vif with pw_state := .FULL_POWER }, 0)

/-! ## The firmware's mode -/

/-- A response of success. -/
def rspSuccess (rsp : List Byte) : Bool :=
  decide (HalMsgHeader.size + 4 ≤ rsp.length ∧ field rsp HalMsgHeader.size 4 = 0)

/-- The driver sees a response of success. -/
def TxOutcome.isSuccess : TxOutcome → Bool
  | .response rsp => rspSuccess rsp
  | _ => false

/-- Whether the firmware is in BMPS when it has answered a message: it changes its mode exactly when it
answers with success. -/
def fwBmpsAfter (rsp : List Byte) (bmps : Bool) (msg : List Byte) : Bool :=
  if !rspSuccess rsp then bmps
  else if msgType msg = HalReq.ENTER_BMPS.reqType then true
  else if msgType msg = HalReq.EXIT_BMPS.reqType then false
  else bmps

/-- The messages, the interface, and the firmware's mode for it. -/
structure PmcWorld where
  smd : Smd
  vif : WcnVif
  /-- The firmware is in BMPS. -/
  bmps : Bool := false
  /-- The messages that the firmware had not answered when their calls returned, and has not since. -/
  unanswered : List (List Byte) := []

/-- The messages that a call has sent. -/
def sentSince (smd smd' : Smd) : List (List Byte) := smd'.sent.drop smd.sent.length

/-- The calls on an interface: what the driver sees of its request, and what the firmware answers to it
before the call returns. The one need not be the other, see `Smd/Correlation`. -/
inductive PmcEvent where
  | enter (bss_conf : BssConf) (outcome : TxOutcome) (answer : Option (List Byte))
  | exit (outcome : TxOutcome) (answer : Option (List Byte))
  /-- The firmware answers a message whose call has returned. -/
  | late (i : ℕ) (rsp : List Byte)
  /-- Another callback changes the interface: no other assigns to `pw_state`. -/
  | other (vif : WcnVif)

/-- The world after a call, with the firmware's mode after its answer to what the call has sent. -/
def PmcWorld.after (w : PmcWorld) (answer : Option (List Byte)) (r : Smd × WcnVif × ℤ) : PmcWorld :=
  match answer with
  | some rsp =>
    { w with
      smd := r.1, vif := r.2.1
      bmps := (sentSince w.smd r.1).foldl (fwBmpsAfter rsp) w.bmps }
  | none =>
    { w with smd := r.1, vif := r.2.1, unanswered := w.unanswered ++ sentSince w.smd r.1 }

/-- Power save as a transition system. -/
def pmcSystem : System PmcWorld PmcEvent where
  init w := w.vif.pw_state = .FULL_POWER ∧ w.bmps = false ∧ w.unanswered = []
  step w
    | .enter bss_conf outcome answer =>
      (Pmc.enterBmpsState (fun _ => outcome) w.smd w.vif bss_conf).map (w.after answer)
    | .exit outcome answer => (Pmc.exitBmpsState (fun _ => outcome) w.smd w.vif).map (w.after answer)
    | .late i rsp => w.unanswered[i]?.map fun msg =>
      { w with bmps := fwBmpsAfter rsp w.bmps msg, unanswered := w.unanswered.eraseIdx i }
    | .other vif => if vif.pw_state = w.vif.pw_state then some { w with vif := vif } else none

/-- No write to the channel's register. -/
def Effect.isWriteRegister : Effect → Bool
  | .writeRegister .. => true
  | _ => false

/-- `pw_state` is the firmware's mode, and a data frame does not go to the channel's register while the
firmware is in BMPS. -/
structure PowerMirrors (w : PmcWorld) : Prop where
  iff : w.vif.pw_state = .BMPS ↔ w.bmps = true
  kick : w.bmps = true → ∀ (wcn wcn' : Wcn) (skb : SkBuff) (ret : ℤ),
    dxeTxFrame wcn (some w.vif) skb true = some (wcn', ret) →
    ∃ es, wcn'.log = wcn.log ++ es ∧ ∀ e ∈ es, e.isWriteRegister = false

/-- A request to leave BMPS is answered with success before the call returns. While `pw_state` is full
power, what the driver sees of a request to enter is what the firmware answers, and the firmware does not
answer one with success later. -/
def AnsweredInTime (w : PmcWorld) : PmcEvent → Prop
  | .enter _ outcome answer =>
    w.vif.pw_state ≠ .BMPS → outcome.isSuccess = answer.any rspSuccess
  | .exit _ answer => w.vif.pw_state = .BMPS → answer.any rspSuccess = true
  | .late _ rsp => w.vif.pw_state ≠ .BMPS → rspSuccess rsp = false
  | .other _ => True

instance decidableAnsweredInTime : ∀ w e, Decidable (AnsweredInTime w e)
  | w, .enter _ outcome answer =>
    inferInstanceAs (Decidable (w.vif.pw_state ≠ .BMPS → outcome.isSuccess = answer.any rspSuccess))
  | w, .exit _ answer =>
    inferInstanceAs (Decidable (w.vif.pw_state = .BMPS → answer.any rspSuccess = true))
  | w, .late _ rsp => inferInstanceAs (Decidable (w.vif.pw_state ≠ .BMPS → rspSuccess rsp = false))
  | _, .other _ => isTrue trivial

/-! ## A request and its outcome -/

/-- The status check passes exactly the responses of success. -/
theorem smdRspStatusCheck_isSuccess_iff (rsp : List Byte) :
    smdRspStatusCheck rsp rsp.length = 0 ↔ (TxOutcome.response rsp).isSuccess = true := by
  rw [TxOutcome.isSuccess, rspSuccess, decide_eq_true_eq]
  exact smdRspStatusCheck_eq_zero_iff rsp rsp.length

/-- A request of fixed size with a status for a response: the message is sent, and 0 is returned exactly
for an answer of success. -/
theorem statusFn_call {r : SmdRequest} {req : HalReq} {body : List Byte}
    (hfn : r.fn = statusFn req body) (hle : HalMsgHeader.size + body.length ≤ WCN36XX_HAL_BUF_SIZE)
    {outcome : TxOutcome} {smd smd' : Smd} {result : RspResult}
    (h : smdCall (fun _ => outcome) (.request r) smd = some (smd', result)) :
    ∃ msg, smd'.sent = smd.sent ++ [msg] ∧ msgType msg = req.reqType ∧
      (result.ret = 0 ↔ outcome.isSuccess = true) := by
  obtain ⟨hal_buf, msg, hcompose, hread, htype⟩ : ∃ hal_buf msg,
      r.fn.compose smd.hal_buf = some (.ready hal_buf (List.length msg)) ∧
      hal_buf.read (List.length msg) = some msg ∧ msgType msg = req.reqType := by
    have hlen : (initHalMsg req.reqType (HalMsgHeader.size + body.length)).len.toNat =
        HalMsgHeader.size + body.length := by
      have hbs : WCN36XX_HAL_BUF_SIZE = 4096 := rfl
      rw [initHalMsg, BitVec.toNat_ofNat]
      omega
    obtain ⟨hal_buf, hprep, hmsg⟩ := prepareHalBuf_all smd.hal_buf hlen hle
    refine ⟨hal_buf, _, ?_, HalBuf.read_of_startsWith hmsg, msgType_header _ body⟩
    rw [hfn]
    simp only [statusFn, fixedMsg, hprep, hlen, Option.bind_eq_bind, Option.bind_some,
      Option.pure_def, List.length_append]
    rfl
  refine ⟨msg, ?_⟩
  simp only [smdCall, hcompose, smdSendAndWait, hread, Option.bind_eq_bind, Option.bind_some] at h
  cases outcome with
  | txError ret ne =>
    simp only [Option.pure_def, Option.bind_some, if_pos ne, Option.some.injEq, Prod.mk.injEq] at h
    obtain ⟨rfl, rfl⟩ := h
    exact ⟨rfl, htype, fun h0 => absurd h0 ne, fun h0 => by cases h0⟩
  | timeout =>
    have ne : -ETIME ≠ (0 : ℤ) := by decide
    simp only [Option.pure_def, Option.bind_some, if_pos ne, Option.some.injEq, Prod.mk.injEq] at h
    obtain ⟨rfl, rfl⟩ := h
    exact ⟨rfl, htype, fun h0 => absurd h0 ne, fun h0 => by cases h0⟩
  | response rsp =>
    obtain ⟨⟨smd₁, ret⟩, hwait, h⟩ := Option.bind_eq_some_iff.mp h
    obtain ⟨hal_buf₁, hwrite, hwait⟩ := Option.bind_eq_some_iff.mp hwait
    obtain ⟨-, hbytes⟩ := HalBuf.bytes_of_write hwrite
    have hsame : hal_buf₁.bytes.take rsp.length = rsp.take rsp.length := by
      rw [hbytes, List.take_zero, List.nil_append, List.take_left, List.take_length]
    simp only [Option.pure_def, Option.some.injEq, Prod.mk.injEq] at hwait
    obtain ⟨rfl, rfl⟩ := hwait
    simp only [ne_eq, not_true_eq_false, if_false, Option.pure_def, Option.some.injEq,
      Prod.mk.injEq] at h
    obtain ⟨rfl, rfl⟩ := h
    refine ⟨rfl, htype, ?_⟩
    rw [← smdRspStatusCheck_isSuccess_iff, ← smdRspStatusCheck_same hsame, hfn]
    rfl

/-! ## The steps -/

/-- What a call that has sent one message leaves. -/
theorem PmcWorld.after_sent {w : PmcWorld} {smd' : Smd} {msg : List Byte}
    (hsent : smd'.sent = w.smd.sent ++ [msg]) (answer : Option (List Byte)) (vif' : WcnVif) (ret : ℤ) :
    (w.after answer (smd', vif', ret)).vif = vif' ∧
    (w.after answer (smd', vif', ret)).bmps =
      answer.elim w.bmps (fun rsp => fwBmpsAfter rsp w.bmps msg) ∧
    (w.after answer (smd', vif', ret)).unanswered =
      w.unanswered ++ answer.elim [msg] fun _ => [] := by
  have hmsg : sentSince w.smd smd' = [msg] := by rw [sentSince, hsent, List.drop_left]
  cases answer with
  | some rsp =>
    refine ⟨rfl, ?_, (List.append_nil _).symm⟩
    change (sentSince w.smd smd').foldl (fwBmpsAfter rsp) w.bmps = _
    rw [hmsg]
    rfl
  | none =>
    refine ⟨rfl, rfl, ?_⟩
    change w.unanswered ++ sentSince w.smd smd' = _
    rw [hmsg]
    rfl

/-- Entering sets `pw_state` exactly when the driver sees success, and the firmware is in BMPS when it
answers with success. -/
theorem after_enter {w w' : PmcWorld} {bss_conf : BssConf} {outcome : TxOutcome}
    {answer : Option (List Byte)}
    (hstep : pmcSystem.step w (.enter bss_conf outcome answer) = some w') :
    w'.vif.pw_state = (if outcome.isSuccess then .BMPS else w.vif.pw_state) ∧
    w'.bmps = (if answer.any rspSuccess then true else w.bmps) ∧
    ∃ msg, msgType msg = HalReq.ENTER_BMPS.reqType ∧
      w'.unanswered = w.unanswered ++ answer.elim [msg] fun _ => [] := by
  obtain ⟨⟨smd', vif', ret⟩, hcall, rfl⟩ := Option.map_eq_some_iff.mp hstep
  unfold Pmc.enterBmpsState at hcall
  obtain ⟨⟨smd₁, result⟩, hreq, hcall⟩ := Option.bind_eq_some_iff.mp hcall
  obtain ⟨msg, hsent, htype, hret⟩ :=
    statusFn_call rfl (by exact Nat.le_of_ble_eq_true rfl) hreq
  have hfirmware : ∀ rsp, fwBmpsAfter rsp w.bmps msg = if rspSuccess rsp then true else w.bmps := by
    intro rsp
    rw [fwBmpsAfter, htype]
    cases rspSuccess rsp
    · rfl
    · rfl
  have hbmps : answer.elim w.bmps (fun rsp => fwBmpsAfter rsp w.bmps msg) =
      if answer.any rspSuccess then true else w.bmps := by
    cases answer with
    | none => rfl
    | some rsp => exact hfirmware rsp
  dsimp only at hcall
  split_ifs at hcall with hzero
  · simp only [Option.pure_def, Option.some.injEq, Prod.mk.injEq] at hcall
    obtain ⟨rfl, rfl, -⟩ := hcall
    obtain ⟨hvif, hmode, hunanswered⟩ :=
      PmcWorld.after_sent hsent answer { w.vif with pw_state := .BMPS } ret
    refine ⟨?_, hmode.trans hbmps, msg, htype, hunanswered⟩
    rw [hvif, if_pos (hret.mp hzero)]
  · simp only [Option.pure_def, Option.some.injEq, Prod.mk.injEq] at hcall
    obtain ⟨rfl, rfl, -⟩ := hcall
    obtain ⟨hvif, hmode, hunanswered⟩ := PmcWorld.after_sent hsent answer w.vif ret
    refine ⟨?_, hmode.trans hbmps, msg, htype, hunanswered⟩
    rw [hvif, if_neg fun hsuccess => hzero (hret.mpr hsuccess)]

/-- Leaving does nothing when `pw_state` is full power. Otherwise it sets it to full power, and the
firmware leaves BMPS if it answers with success. -/
theorem after_exit {w w' : PmcWorld} {outcome : TxOutcome} {answer : Option (List Byte)}
    (hstep : pmcSystem.step w (.exit outcome answer) = some w') :
    (w.vif.pw_state ≠ .BMPS ∧ w'.vif = w.vif ∧ w'.bmps = w.bmps ∧ w'.unanswered = w.unanswered) ∨
      (w.vif.pw_state = .BMPS ∧ w'.vif.pw_state = .FULL_POWER ∧
        w'.bmps = (if answer.any rspSuccess then false else w.bmps) ∧
        (answer.isSome = true → w'.unanswered = w.unanswered)) := by
  obtain ⟨⟨smd', vif', ret⟩, hcall, rfl⟩ := Option.map_eq_some_iff.mp hstep
  unfold Pmc.exitBmpsState at hcall
  split_ifs at hcall with hstate
  · simp only [Option.some.injEq, Prod.mk.injEq] at hcall
    obtain ⟨rfl, rfl, -⟩ := hcall
    have hnone : sentSince w.smd w.smd = [] := List.drop_length
    refine .inl ⟨hstate, ?_⟩
    cases answer with
    | some rsp => simp only [PmcWorld.after, hnone, List.foldl_nil, and_self]
    | none => simp only [PmcWorld.after, hnone, List.append_nil, and_self]
  · obtain ⟨⟨smd₁, result⟩, hreq, hcall⟩ := Option.bind_eq_some_iff.mp hcall
    obtain ⟨msg, hsent, htype, -⟩ :=
      statusFn_call rfl (by exact Nat.le_of_ble_eq_true rfl) hreq
    simp only [Option.pure_def, Option.some.injEq, Prod.mk.injEq] at hcall
    obtain ⟨rfl, rfl, -⟩ := hcall
    obtain ⟨hvif, hmode, hunanswered⟩ :=
      PmcWorld.after_sent hsent answer { w.vif with pw_state := .FULL_POWER } ret
    refine .inr ⟨not_not.mp hstate, congrArg WcnVif.pw_state hvif, ?_, fun hsome => ?_⟩
    · rw [hmode]
      cases answer with
      | none => rfl
      | some rsp =>
        rw [Option.elim_some, fwBmpsAfter, htype, Option.any_some]
        cases rspSuccess rsp
        · rfl
        · rfl
    · obtain ⟨rsp, rfl⟩ := Option.isSome_iff_exists.mp hsome
      rw [hunanswered, Option.elim_some, List.append_nil]

/-- A data frame of an interface in BMPS is told through SMSM, or not at all. -/
theorem dxeTxFrame_bmps {wcn wcn' : Wcn} {vif : WcnVif} {skb : SkBuff} {ret : ℤ}
    (hstate : vif.pw_state = .BMPS) (h : dxeTxFrame wcn (some vif) skb true = some (wcn', ret)) :
    ∃ es, wcn'.log = wcn.log ++ es ∧ ∀ e ∈ es, e.isWriteRegister = false := by
  unfold dxeTxFrame at h
  simp only [Option.bind_eq_bind, Option.bind_eq_some_iff, Option.pure_def] at h
  obtain ⟨ctl, -, c, -, next, -, n, -, h⟩ := h
  by_cases hfull : n.skb.isSome = true
  · rw [if_pos hfull, Option.some.injEq, Prod.mk.injEq] at h
    refine ⟨[.stopQueues], by rw [← h.1, Wcn.emit_log], fun e he => ?_⟩
    rw [List.mem_singleton.mp he]
    rfl
  · simp only [if_neg hfull, Option.bind_eq_some_iff] at h
    obtain ⟨ch₁, -, i, -, ch₂, -, h⟩ := h
    by_cases hbd : n.bd_cpu_addr ≠ 0
    · rw [if_pos hbd, Option.some.injEq, Prod.mk.injEq] at h
      exact ⟨[], by rw [← h.1, Wcn.setTxCh_log, List.append_nil], fun e he => by cases he⟩
    · simp only [if_neg hbd, Option.bind_eq_some_iff, Option.some.injEq, Prod.mk.injEq] at h
      obtain ⟨j, -, wcn₁, hkick, rfl, -⟩ := h
      -- The kick looks at `pw_state`.
      unfold dxeTxKick at hkick
      simp only [if_true, Option.bind_eq_bind, Option.bind_some, hstate, Option.pure_def,
        Option.some.injEq] at hkick
      refine ⟨[.dmaMap skb, .smsmChangeState 0 WCN36XX_SMSM_WLAN_TX_ENABLE], ?_, fun e he => ?_⟩
      · rw [← hkick, Wcn.emit_emit, Wcn.emit_log, Wcn.setTxCh_log]
        rfl
      · rcases List.mem_cons.mp he with rfl | he
        · rfl
        · rw [List.mem_singleton.mp he]
          rfl

/-- When `pw_state` is the firmware's mode, so are the registers left alone that do not wake the chip. -/
theorem PowerMirrors.of_iff {w : PmcWorld} (h : w.vif.pw_state = .BMPS ↔ w.bmps = true) :
    PowerMirrors w where
  iff := h
  kick hbmps _ _ _ _ hrun := dxeTxFrame_bmps (h.mpr hbmps) hrun

/-- `pw_state` is the firmware's mode, and only requests to enter are not answered. -/
structure PmcInv (w : PmcWorld) : Prop where
  iff : w.vif.pw_state = .BMPS ↔ w.bmps = true
  enters : ∀ msg ∈ w.unanswered, msgType msg = HalReq.ENTER_BMPS.reqType

/-- A step keeps `pw_state` the firmware's mode exactly when it meets the condition. -/
theorem pmcStep_iff {w w' : PmcWorld} {e : PmcEvent} (h : PmcInv w)
    (hstep : pmcSystem.step w e = some w') :
    (w'.vif.pw_state = .BMPS ↔ w'.bmps = true) ↔ AnsweredInTime w e := by
  have hiff := h.iff
  cases e with
  | enter bss_conf outcome answer =>
    obtain ⟨hstate, hbmps, -⟩ := after_enter hstep
    rw [hstate, hbmps, AnsweredInTime]
    by_cases hpw : w.vif.pw_state = .BMPS
    · rw [hpw, hiff.mp hpw, ite_self, ite_self]
      exact iff_of_true (iff_of_true rfl rfl) fun hne => absurd rfl hne
    · rw [Bool.eq_false_iff.mpr fun hb => hpw (hiff.mpr hb)]
      cases outcome.isSuccess <;> cases answer.any rspSuccess <;> simp [hpw]
  | exit outcome answer =>
    rw [AnsweredInTime]
    rcases after_exit hstep with ⟨hpw, hvif, hbmps, -⟩ | ⟨hpw, hfull, hbmps, -⟩
    · rw [hvif, hbmps]
      exact iff_of_true hiff fun hstate => absurd hstate hpw
    · rw [hfull, hbmps, hiff.mp hpw]
      cases answer.any rspSuccess <;> simp [hpw]
  | late i rsp =>
    obtain ⟨msg, hmsg, rfl⟩ := Option.map_eq_some_iff.mp hstep
    have htype := h.enters msg (List.mem_of_getElem? hmsg)
    have hbmps : fwBmpsAfter rsp w.bmps msg = if rspSuccess rsp then true else w.bmps := by
      rw [fwBmpsAfter, htype]
      cases rspSuccess rsp
      · rfl
      · rfl
    dsimp only
    rw [hbmps, AnsweredInTime]
    cases rspSuccess rsp with
    | true => simp [hiff]
    | false => exact iff_of_true hiff fun _ => rfl
  | other vif =>
    obtain ⟨hsame, hw⟩ := Option.ite_none_right_eq_some.mp hstep
    rw [Option.some.injEq] at hw
    rw [← hw, hsame]
    exact iff_of_true hiff trivial

/-- A step that meets the condition leaves no request to leave BMPS without an answer. -/
theorem pmcStep_enters {w w' : PmcWorld} {e : PmcEvent} (h : PmcInv w) (hcond : AnsweredInTime w e)
    (hstep : pmcSystem.step w e = some w') :
    ∀ msg ∈ w'.unanswered, msgType msg = HalReq.ENTER_BMPS.reqType := by
  cases e with
  | enter bss_conf outcome answer =>
    obtain ⟨-, -, new, htype, hunanswered⟩ := after_enter hstep
    rw [hunanswered]
    intro msg hmsg
    rcases List.mem_append.mp hmsg with hold | hnew
    · exact h.enters msg hold
    · cases answer with
      | some rsp => cases hnew
      | none =>
        rw [List.mem_singleton.mp hnew]
        exact htype
  | exit outcome answer =>
    rcases after_exit hstep with ⟨-, -, -, hunanswered⟩ | ⟨hpw, -, -, hunanswered⟩
    · rw [hunanswered]
      exact h.enters
    · have hsome : answer.isSome = true := by
        obtain ⟨rsp, hrsp, -⟩ := (Option.any_eq_true _ _).mp (hcond hpw)
        rw [hrsp, Option.isSome_some]
      rw [hunanswered hsome]
      exact h.enters
  | late i rsp =>
    obtain ⟨msg, -, rfl⟩ := Option.map_eq_some_iff.mp hstep
    exact fun m hm => h.enters m (List.mem_of_mem_eraseIdx hm)
  | other vif =>
    obtain ⟨-, hw⟩ := Option.ite_none_right_eq_some.mp hstep
    rw [Option.some.injEq] at hw
    rw [← hw]
    exact h.enters

/-- In the runs in which every request to leave BMPS is answered with success in time, and, while `pw_state`
is full power, a request to enter only when the driver sees it, `pw_state` is the firmware's mode, and no
data frame is told to a sleeping chip through its register. -/
theorem powerMirrors_of_answeredInTime {w : PmcWorld} (h : pmcSystem.ReachableWhen AnsweredInTime w) :
    PowerMirrors w := by
  have hinv : PmcInv w := by
    refine h.invariant (I := PmcInv) ?_ ?_
    · rintro w ⟨hstate, hbmps, hunanswered⟩
      refine ⟨?_, fun msg hmsg => ?_⟩
      · rw [hstate, hbmps]
        exact iff_of_false (fun h => by cases h) (fun h => by cases h)
      · rw [hunanswered] at hmsg
        cases hmsg
    · exact fun w e w' hinv hcond hstep =>
        ⟨(pmcStep_iff hinv hstep).mpr hcond, pmcStep_enters hinv hcond hstep⟩
  exact PowerMirrors.of_iff hinv.iff

/-- A station's interface before any request. -/
def pmcStart : PmcWorld where
  smd := { hal_buf := ⟨List.replicate WCN36XX_HAL_BUF_SIZE 0, HalBuf.length_zero⟩ }
  vif := { type := .STATION, addr := [] }

/-- A response with a status. -/
def rspOfStatus (status : BitVec 32) : List Byte :=
  List.replicate HalMsgHeader.size 0 ++ leBytes status

/-- BMPS is entered after a refusal, and after a request that times out and is answered late; left, and
entered again. -/
theorem powerMirrors_of_answeredInTime_again :
    ∃ w, pmcSystem.ReachableWhen AnsweredInTime w ∧ w.bmps = true ∧ PowerMirrors w := by
  obtain ⟨w, hrun, hbmps⟩ : ∃ w, pmcSystem.runWhen AnsweredInTime pmcStart
      [.enter {} (.response (rspOfStatus 5)) (some (rspOfStatus 5)), .enter {} .timeout none,
        .enter {} (.response (rspOfStatus 0)) (some (rspOfStatus 0)), .late 0 (rspOfStatus 0),
        .exit .timeout (some (rspOfStatus 0)), .exit .timeout none,
        .enter {} (.response (rspOfStatus 0)) (some (rspOfStatus 0))] = some w ∧ w.bmps = true :=
    (Option.any_eq_true _ _).mp (by decide +kernel)
  have hreach : pmcSystem.ReachableWhen AnsweredInTime w :=
    System.ReachableWhen.runWhen (.init ⟨rfl, rfl, rfl⟩) hrun
  exact ⟨w, hreach, hbmps, powerMirrors_of_answeredInTime hreach⟩

/-- When leaving times out, `pw_state` is full power and the firmware is in BMPS. -/
theorem powerMirrors_fails_on_timeout :
    ¬ ∀ w, pmcSystem.Reachable w → PowerMirrors w := by
  intro h
  obtain ⟨w, hrun, hw⟩ : ∃ w, pmcSystem.runFrom pmcStart
      [.enter {} (.response (rspOfStatus 0)) (some (rspOfStatus 0)), .exit .timeout none] = some w ∧
      (w.bmps && decide (w.vif.pw_state = .FULL_POWER)) = true :=
    (Option.any_eq_true _ _).mp (by decide +kernel)
  obtain ⟨hbmps, hstate⟩ := Bool.and_eq_true_iff.mp hw
  have hreach : pmcSystem.Reachable w := System.Reachable.runFrom (.init ⟨rfl, rfl, rfl⟩) hrun
  have hmirrors := (h w hreach).iff.mpr hbmps
  rw [of_decide_eq_true hstate] at hmirrors
  cases hmirrors

end Wcn36xx
