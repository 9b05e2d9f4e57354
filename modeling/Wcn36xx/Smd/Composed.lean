import Wcn36xx.Smd.Correlation

/-!
# What is composed and what is sent

A request function composes its message in `hal_buf` and hands `hal_buf` to `ctrl_ops->tx`. It holds
`hal_mutex` all the while, but `wcn36xx_smd_rsp_process` copies a response to `hal_buf` without it, and a
response may come at any time once an earlier request has timed out.

The control channel of `Smd/Correlation.lean` runs here with a record beside it: the message as the
request function composed it, and each message that went to `ctrl_ops->tx` next to it. They agree as
long as no response is copied between `PREPARE_HAL_BUF` and `ctrl_ops->tx` (`NotCopiedOver`).
-/

namespace Wcn36xx

open Support (System)

/-- The control channel, with what its request functions composed. -/
structure ComposeWorld where
  smd : SmdWorld
  /-- `hal_buf` as the request function that holds `hal_mutex` has written it. -/
  composed : HalBuf
  /-- What `ctrl_ops->tx` was called with, each next to what had been composed. -/
  sent : List (List Byte × List Byte) := []

/-- What a request function has composed after an event that leads to `smd'`: its own writes to
`hal_buf`, and no others. -/
def composedAfter (w : ComposeWorld) (smd' : SmdWorld) : SmdEvent → Option HalBuf
  | .compose _ _ => some smd'.hal_buf
  | .put offset bs => w.composed.write offset bs
  | _ => some w.composed

/-- What `ctrl_ops->tx` has been called with after an event. -/
def sentAfter (w : ComposeWorld) : SmdEvent → Option (List (List Byte × List Byte))
  | .tx _ =>
    match w.smd.phase with
    | .armed _ len => do
      let msg ← w.smd.hal_buf.read len
      let own ← w.composed.read len
      return w.sent ++ [(msg, own)]
    | _ => none
  | _ => some w.sent

/-- The control channel with its record. -/
def composeSystem : System ComposeWorld SmdEvent where
  init w := smdSystem.init w.smd ∧ w.sent = []
  step w e := do
    let smd ← smdSystem.step w.smd e
    let composed ← composedAfter w smd e
    let sent ← sentAfter w e
    return { smd := smd, composed := composed, sent := sent }

/-- The bytes that `ctrl_ops->tx` was called with are those that had been composed. -/
def SentAsComposed (w : ComposeWorld) : Prop := ∀ p ∈ w.sent, p.1 = p.2

/-- A request function has begun to compose its message and has not handed it to `ctrl_ops->tx`. -/
def ReqPhase.isComposed : ReqPhase → Bool
  | .composing _ | .armed _ _ => true
  | .idle | .waiting _ _ | .woken _ _ => false

/-- `wcn36xx_smd_rsp_process` takes the message for a response. -/
def isRsp (msg : List Byte) : Bool :=
  match smdMsgOf (msgType msg) with
  | .rsp _ => true
  | _ => false

/-- `wcn36xx_smd_rsp_process` copies no response to `hal_buf` while a request function is between
`PREPARE_HAL_BUF` and `ctrl_ops->tx`. -/
def NotCopiedOver (w : ComposeWorld) : SmdEvent → Prop
  | .rspCopy => ∀ a ∈ w.smd.inbox.head?, isRsp a.buf = true → w.smd.phase.isComposed = false
  | _ => True

instance : ∀ w e, Decidable (NotCopiedOver w e)
  | w, .rspCopy => inferInstanceAs
      (Decidable (∀ a ∈ w.smd.inbox.head?, isRsp a.buf = true → w.smd.phase.isComposed = false))
  | _, .compose _ _ | _, .put _ _ | _, .initCompletion _ | _, .tx _ | _, .answer _ _ _
  | _, .rspComplete | _, .wake | _, .timeout | _, .read => isTrue trivial

/-- Whether a copy into a buffer fits does not depend on what the buffer holds. -/
theorem HalBuf.write_isSome {buf buf' : HalBuf} {offset : ℕ} {bs : List Byte} {res : HalBuf}
    (h : buf.write offset bs = some res) : ∃ res', buf'.write offset bs = some res' := by
  obtain ⟨hle, -⟩ := HalBuf.bytes_of_write h
  obtain ⟨res', hres', -⟩ := buf'.write_of_le offset bs hle
  exact ⟨res', hres'⟩

/-- `ctrl_ops->tx` is called with a message that a request function has in `hal_buf`. -/
theorem smdStep_tx {w w' : SmdWorld} {ok : Bool} (hstep : smdSystem.step w (.tx ok) = some w') :
    ∃ req len msg, w.phase = .armed req len ∧ w.hal_buf.read len = some msg := by
  simp only [smdSystem] at hstep
  cases hphase : w.phase with
  | armed req len =>
    rw [hphase] at hstep
    obtain ⟨msg, hread, -⟩ := Option.bind_eq_some_iff.mp hstep
    exact ⟨req, len, msg, rfl, hread⟩
  | idle | composing | waiting | woken =>
    rw [hphase] at hstep
    cases hstep

/-- The record restricts nothing: the control channel runs with it as it does without. -/
theorem compose_simulates :
    System.Simulation smdSystem composeSystem fun smd w => w.smd = smd where
  init smd hsmd := ⟨{ smd := smd, composed := smd.hal_buf }, ⟨hsmd, rfl⟩, rfl⟩
  step := by
    rintro _ w e smd' rfl hstep
    have hcomposed : ∃ buf, composedAfter w smd' e = some buf := by
      unfold composedAfter
      split
      · exact ⟨_, rfl⟩
      · simp only [smdSystem] at hstep
        split at hstep
        · split_ifs at hstep
          obtain ⟨hal_buf, hbuf, -⟩ := Option.bind_eq_some_iff.mp hstep
          exact HalBuf.write_isSome hbuf
        · cases hstep
      · exact ⟨_, rfl⟩
    have hsent : ∃ sent, sentAfter w e = some sent := by
      cases e with
      | tx ok =>
        obtain ⟨req, len, msg, hphase, hread⟩ := smdStep_tx hstep
        have hfits : len ≤ WCN36XX_HAL_BUF_SIZE := by
          unfold HalBuf.read at hread
          split_ifs at hread with hle
          exact hle
        have hown : w.composed.read len = some (w.composed.bytes.take len) := if_pos hfits
        refine ⟨w.sent ++ [(msg, w.composed.bytes.take len)], ?_⟩
        rw [sentAfter, hphase]
        dsimp only
        rw [hread, hown]
        rfl
      | compose | put | initCompletion | answer | rspCopy | rspComplete | wake | timeout | read =>
        exact ⟨_, rfl⟩
    obtain ⟨composed, hcomposed⟩ := hcomposed
    obtain ⟨sent, hsent⟩ := hsent
    refine ⟨{ smd := smd', composed := composed, sent := sent }, ?_, rfl⟩
    simp only [composeSystem, hstep, hcomposed, hsent, Option.bind_eq_bind, Option.bind_some,
      Option.pure_def]

/-! ## The steps -/

/-- A step of the control channel that neither composes nor adds to a message, and that copies no
response to `hal_buf` from under one, leaves the message that is being composed as it is. -/
theorem halBuf_of_smdStep {w w' : SmdWorld} {e : SmdEvent} (hstep : smdSystem.step w e = some w')
    (hcompose : ∀ req body, e ≠ .compose req body) (hput : ∀ offset bs, e ≠ .put offset bs)
    (hcopy : e = .rspCopy → ∀ a ∈ w.inbox.head?, isRsp a.buf = true → w.phase.isComposed = false)
    (hcomposed : w'.phase.isComposed = true) :
    w.phase.isComposed = true ∧ w'.hal_buf = w.hal_buf := by
  cases e with
  | compose req body => exact absurd rfl (hcompose req body)
  | put offset bs => exact absurd rfl (hput offset bs)
  | initCompletion len =>
    simp only [smdSystem] at hstep
    split at hstep
    · rename_i req hphase
      split_ifs at hstep
      cases hstep
      rw [hphase]
      exact ⟨rfl, rfl⟩
    · cases hstep
  | tx ok =>
    simp only [smdSystem] at hstep
    split at hstep
    · obtain ⟨msg, hread, heq⟩ := Option.bind_eq_some_iff.mp hstep
      split_ifs at heq
      · cases heq
        cases hcomposed
      · cases heq
        cases hcomposed
    · cases hstep
  | answer i req buf =>
    obtain ⟨⟨seq, msg⟩, hi, heq⟩ := Option.bind_eq_some_iff.mp hstep
    dsimp only at heq
    split_ifs at heq
    cases heq
    exact ⟨hcomposed, rfl⟩
  | rspCopy =>
    simp only [smdSystem] at hstep
    split at hstep
    · rename_i a inbox hworker hinbox
      split_ifs at hstep
      split at hstep
      · rename_i req hreq
        obtain ⟨hal_buf, hbuf, heq⟩ := Option.bind_eq_some_iff.mp hstep
        cases heq
        have hrsp : isRsp a.buf = true := by rw [isRsp, hreq]
        have hnot : w.phase.isComposed = false := hcopy rfl a (by rw [hinbox]; rfl) hrsp
        exact absurd (hnot.symm.trans hcomposed) Bool.false_ne_true
      · cases hstep
        exact ⟨hcomposed, rfl⟩
    · cases hstep
  | rspComplete =>
    simp only [smdSystem] at hstep
    split at hstep
    · cases hstep
      exact ⟨hcomposed, rfl⟩
    · cases hstep
  | wake =>
    simp only [smdSystem] at hstep
    split at hstep
    · split_ifs at hstep
      cases hstep
      cases hcomposed
    · cases hstep
  | timeout =>
    simp only [smdSystem] at hstep
    split at hstep
    · split_ifs at hstep
      cases hstep
      cases hcomposed
    · cases hstep
  | read =>
    simp only [smdSystem] at hstep
    split at hstep
    · obtain ⟨bytes, hread, heq⟩ := Option.bind_eq_some_iff.mp hstep
      cases heq
      cases hcomposed
    · cases hstep

/-- The invariant of the runs in which no message is copied over. -/
structure ComposeWorld.Inv (w : ComposeWorld) : Prop where
  /-- `hal_buf` holds the message as it has been composed so far. -/
  hal_buf : w.smd.phase.isComposed = true → w.smd.hal_buf = w.composed
  sent : SentAsComposed w

/-- The parts of a step. -/
theorem composeStep_cases {w w' : ComposeWorld} {e : SmdEvent}
    (hstep : composeSystem.step w e = some w') :
    smdSystem.step w.smd e = some w'.smd ∧ composedAfter w w'.smd e = some w'.composed ∧
      sentAfter w e = some w'.sent := by
  obtain ⟨smd, hsmd, hrest⟩ := Option.bind_eq_some_iff.mp hstep
  obtain ⟨composed, hcomposed, hrest⟩ := Option.bind_eq_some_iff.mp hrest
  obtain ⟨sent, hsent, heq⟩ := Option.bind_eq_some_iff.mp hrest
  cases heq
  exact ⟨hsmd, hcomposed, hsent⟩

/-- `ctrl_ops->tx` is called with the message that has been composed. -/
theorem ComposeWorld.Inv.sentAfter {w : ComposeWorld} (h : w.Inv) {e : SmdEvent}
    {sent : List (List Byte × List Byte)} (hsent : Wcn36xx.sentAfter w e = some sent) :
    ∀ p ∈ sent, p.1 = p.2 := by
  unfold Wcn36xx.sentAfter at hsent
  split at hsent
  · split at hsent
    · rename_i req len hphase
      obtain ⟨msg, hmsg, hrest⟩ := Option.bind_eq_some_iff.mp hsent
      obtain ⟨own, hown, heq⟩ := Option.bind_eq_some_iff.mp hrest
      cases heq
      have hbuf : w.smd.hal_buf = w.composed := h.hal_buf (by rw [hphase]; rfl)
      intro p hp
      rcases List.mem_append.mp hp with hp | hp
      · exact h.sent p hp
      · rw [List.mem_singleton.mp hp]
        rw [hbuf] at hmsg
        exact Option.some.inj (hmsg.symm.trans hown)
    · cases hsent
  · cases hsent
    exact h.sent

/-- Every step that copies no response over a message keeps the invariant. -/
theorem composeStep_inv {w w' : ComposeWorld} {e : SmdEvent} (h : w.Inv) (hcopy : NotCopiedOver w e)
    (hstep : composeSystem.step w e = some w') : w'.Inv := by
  obtain ⟨hsmd, hcomposed, hsent⟩ := composeStep_cases hstep
  refine ⟨fun hphase => ?_, h.sentAfter hsent⟩
  by_cases hown : (∃ req body, e = .compose req body) ∨ ∃ offset bs, e = .put offset bs
  · rcases hown with ⟨req, body, rfl⟩ | ⟨offset, bs, rfl⟩
    · exact Option.some.inj hcomposed
    · simp only [smdSystem] at hsmd
      split at hsmd
      · rename_i req hreq
        split_ifs at hsmd
        obtain ⟨hal_buf, hbuf, heq⟩ := Option.bind_eq_some_iff.mp hsmd
        have hsame : w.smd.hal_buf = w.composed := h.hal_buf (by rw [hreq]; rfl)
        rw [hsame] at hbuf
        have hboth : some hal_buf = some w'.composed := hbuf.symm.trans hcomposed
        rw [← Option.some.inj heq]
        exact Option.some.inj hboth
      · cases hsmd
  · obtain ⟨hcompose, hput⟩ := not_or.mp hown
    have hkeep : w.composed = w'.composed := by
      unfold composedAfter at hcomposed
      split at hcomposed
      · exact absurd ⟨_, _, rfl⟩ hcompose
      · exact absurd ⟨_, _, rfl⟩ hput
      · exact Option.some.inj hcomposed
    obtain ⟨hwas, hbuf⟩ := halBuf_of_smdStep hsmd (fun req body he => hcompose ⟨req, body, he⟩)
      (fun offset bs he => hput ⟨offset, bs, he⟩) (fun he => by subst he; exact hcopy) hphase
    exact hbuf.trans ((h.hal_buf hwas).trans hkeep)

/-- In every run in which no response is copied between `PREPARE_HAL_BUF` and `ctrl_ops->tx`, the bytes
that are handed to `ctrl_ops->tx` are those that the request function composed. -/
theorem sentAsComposed_of_notCopiedOver {w : ComposeWorld}
    (hw : composeSystem.ReachableWhen NotCopiedOver w) : SentAsComposed w := by
  have hinv : w.Inv := by
    refine hw.invariant (I := ComposeWorld.Inv) ?_ fun _ _ _ => composeStep_inv
    rintro w ⟨⟨hphase, -⟩, hsent⟩
    constructor
    · rw [hphase]
      exact nofun
    · unfold SentAsComposed
      rw [hsent]
      exact nofun
  exact hinv.sent

/-! ## A scan that starts with a timeout -/

/-- The control channel after `wcn36xx_smd_open`, with an empty record. -/
def composeOpened : ComposeWorld where
  smd := smdOpened
  composed := smdOpened.hal_buf

/-- The response to `wcn36xx_smd_init_scan` is copied late, but before `wcn36xx_smd_start_scan` composes its
message. -/
theorem sentAsComposed_of_notCopiedOver_two_requests :
    ∃ w, composeSystem.ReachableWhen NotCopiedOver w ∧ w.sent.length = 2 ∧ SentAsComposed w := by
  obtain ⟨w, hrun, hlen⟩ : ∃ w, composeSystem.runWhen NotCopiedOver composeOpened
      (initScan ++ [.timeout, .answer 0 .INIT_SCAN (statusRsp .INIT_SCAN 0), .rspCopy,
        .rspComplete] ++ startScan) = some w ∧
      (fun w : ComposeWorld => decide (w.sent.length = 2)) w = true :=
    (Option.any_eq_true _ _).mp (by decide +kernel)
  have hw : composeSystem.ReachableWhen NotCopiedOver w :=
    System.ReachableWhen.runWhen (.init ⟨⟨rfl, rfl, rfl, rfl, rfl, rfl, rfl⟩, rfl⟩) hrun
  exact ⟨w, hw, of_decide_eq_true hlen, sentAsComposed_of_notCopiedOver hw⟩

/-- `wcn36xx_smd_init_scan` times out, and its response is copied when `wcn36xx_smd_start_scan` has composed
its message: the firmware is sent its own response. -/
theorem sentAsComposed_fails_on_late_response :
    ∃ w, composeSystem.Reachable w ∧ ¬SentAsComposed w := by
  obtain ⟨w, hrun, hbad⟩ : ∃ w, composeSystem.runFrom composeOpened
      (initScan ++ [.timeout, .compose .START_SCAN [6],
        .answer 0 .INIT_SCAN (statusRsp .INIT_SCAN 0), .rspCopy, .initCompletion 9, .tx true]) =
        some w ∧
      (fun w : ComposeWorld => w.sent.any fun p => p.1 != p.2) w = true :=
    (Option.any_eq_true _ _).mp (by decide +kernel)
  refine ⟨w, System.Reachable.runFrom
    (.init ⟨⟨rfl, rfl, rfl, rfl, rfl, rfl, rfl⟩, rfl⟩) hrun, fun hsent => ?_⟩
  obtain ⟨p, hp, hne⟩ := List.any_eq_true.mp hbad
  exact bne_iff_ne.mp hne (hsent p hp)

end Wcn36xx
