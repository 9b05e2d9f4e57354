import Wcn36xx.Smd.MsgType
import Wcn36xx.Support.System

/-!
# Requests and their responses

A request function holds `hal_mutex` from composing its message in `hal_buf` until it has read the
response from `hal_buf`. In between, `wcn36xx_smd_send_and_wait` initialises `hal_rsp_compl`, sends
the message and waits for at most `HAL_MSG_TIMEOUT`. The other side of the completion is
`wcn36xx_smd_rsp_process`, which copies any response over `hal_buf` and completes `hal_rsp_compl`
without the mutex and without a look at the request that is outstanding.

Here both sides run against a firmware that answers every request once, after any delay. Requests
are numbered in the order in which they are sent, so that a response can be traced to its request.
A request that does not time out reads its own response (`Correlated`) as long as no late response
gets between its `init_completion` and its reading of `hal_buf` (`NoLate`).
-/

namespace Wcn36xx

open Support (System)

/-- A response of the firmware: the number of the request that it answers, and its bytes. -/
structure HalRsp where
  seq : ℕ
  buf : List Byte
  deriving DecidableEq

/-- What a request function read from `hal_buf` as the response to its request. -/
structure RspRead where
  req : HalReq
  seq : ℕ
  bytes : List Byte
  deriving DecidableEq

/-- Where the request function that holds `hal_mutex` is. -/
inductive ReqPhase where
  /-- `hal_mutex` is free, or its holder has not begun its next message. -/
  | idle
  /-- The message is being composed in `hal_buf`. -/
  | composing (req : HalReq)
  /-- `init_completion` has run; `len` bytes are to be sent. -/
  | armed (req : HalReq) (len : ℕ)
  /-- In `wait_for_completion_timeout`. -/
  | waiting (req : HalReq) (seq : ℕ)
  /-- `wcn36xx_smd_send_and_wait` has returned 0. -/
  | woken (req : HalReq) (seq : ℕ)
  deriving DecidableEq

/-- The control channel: the driver's side, the firmware's, and what is under way between them. -/
structure SmdWorld where
  hal_buf : HalBuf
  hal_rsp_len : ℕ
  /-- `hal_rsp_compl.done`. -/
  hal_rsp_compl : ℕ
  phase : ReqPhase
  /-- The number of requests that have been sent. -/
  sent : ℕ := 0
  /-- The requests that the firmware has not answered, with their numbers. -/
  outstanding : List (ℕ × List Byte) := []
  /-- The responses that `wcn36xx_smd_rsp_process` has not been called with. -/
  inbox : List HalRsp := []
  /-- The response that `wcn36xx_smd_rsp_process` has copied and not completed. -/
  worker : Option HalRsp := none
  /-- All responses that the firmware has sent. -/
  answers : List HalRsp := []
  /-- All that request functions have read. -/
  reads : List RspRead := []

/-- The steps of the control channel. -/
inductive SmdEvent where
  /-- A request function takes `hal_mutex`, or goes on to its next message, and `PREPARE_HAL_BUF`
  copies the message to `hal_buf`. -/
  | compose (req : HalReq) (body : List Byte)
  /-- It adds to its message or sets a field of it in `hal_buf`. -/
  | put (offset : ℕ) (bs : List Byte)
  /-- `wcn36xx_smd_send_and_wait` is called, `init_completion`. -/
  | initCompletion (len : ℕ)
  /-- `ctrl_ops->tx`. -/
  | tx (ok : Bool)
  /-- The firmware answers a request that it has not answered. -/
  | answer (i : ℕ) (req : HalReq) (buf : List Byte)
  /-- `wcn36xx_smd_rsp_process` is called with the next message, and copies it. -/
  | rspCopy
  /-- `wcn36xx_smd_rsp_process` goes on to `complete`. -/
  | rspComplete
  /-- `wait_for_completion_timeout` returns because of the completion. -/
  | wake
  /-- `wait_for_completion_timeout` returns 0. -/
  | timeout
  /-- The request function reads its response, and is done with it. -/
  | read

/-- The control channel as a transition system. A copy beyond the end of `hal_buf` is a fault, and so
is reading the type of a message that is shorter than that. -/
def smdSystem : System SmdWorld SmdEvent where
  init w :=
    w.phase = .idle ∧ w.sent = 0 ∧ w.outstanding = [] ∧ w.inbox = [] ∧ w.worker = none ∧
    w.answers = [] ∧ w.reads = []
  step w
    | .compose req body =>
      match w.phase with
      | .idle => do
        let hdr := initHalMsg req.reqType (HalMsgHeader.size + body.length)
        let hal_buf ← w.hal_buf.write 0 (hdr.bytes ++ body)
        return { w with hal_buf := hal_buf, phase := .composing req }
      | _ => none
    | .put offset bs =>
      match w.phase with
      | .composing _ =>
        -- `header.len` and what is behind it
        if 4 ≤ offset then do
          let hal_buf ← w.hal_buf.write offset bs
          return { w with hal_buf := hal_buf }
        else none
      | _ => none
    | .initCompletion len =>
      match w.phase with
      | .composing req =>
        if HalMsgHeader.size ≤ len then
          some { w with hal_rsp_compl := 0, phase := .armed req len }
        else none
      | _ => none
    | .tx ok =>
      match w.phase with
      | .armed req len => do
        let msg ← w.hal_buf.read len
        if ok then
          return { w with
            phase := .waiting req w.sent
            sent := w.sent + 1
            outstanding := w.outstanding ++ [(w.sent, msg)] }
        else return { w with phase := .idle }
      | _ => none
    | .answer i req buf => do
      let (seq, msg) ← w.outstanding[i]?
      if msgType msg = req.reqType ∧ msgType buf = req.rspType then
        return { w with
          outstanding := w.outstanding.eraseIdx i
          inbox := w.inbox ++ [⟨seq, buf⟩]
          answers := w.answers ++ [⟨seq, buf⟩] }
      else none
    | .rspCopy =>
      match w.worker, w.inbox with
      | none, a :: inbox =>
        if a.buf.length < 2 then none
        else
          match smdMsgOf (msgType a.buf) with
          | .rsp _ => do
            let hal_buf ← w.hal_buf.write 0 a.buf
            return { w with
              hal_buf := hal_buf, hal_rsp_len := a.buf.length, inbox := inbox, worker := some a }
          -- indications do not touch `hal_buf`
          | _ => some { w with inbox := inbox }
      | _, _ => none
    | .rspComplete =>
      match w.worker with
      | some _ => some { w with hal_rsp_compl := w.hal_rsp_compl + 1, worker := none }
      | none => none
    | .wake =>
      match w.phase with
      | .waiting req seq =>
        if 0 < w.hal_rsp_compl then
          some { w with hal_rsp_compl := w.hal_rsp_compl - 1, phase := .woken req seq }
        else none
      | _ => none
    | .timeout =>
      match w.phase with
      | .waiting _ _ => if w.hal_rsp_compl = 0 then some { w with phase := .idle } else none
      | _ => none
    | .read =>
      match w.phase with
      | .woken req seq => do
        let bytes ← w.hal_buf.read w.hal_rsp_len
        return { w with phase := .idle, reads := w.reads ++ [⟨req, seq, bytes⟩] }
      | _ => none

/-- Every response that a request function has read is one that the firmware sent to that very
request, and of the type that belongs to it. -/
def Correlated (w : SmdWorld) : Prop :=
  ∀ r ∈ w.reads, ⟨r.seq, r.bytes⟩ ∈ w.answers ∧ msgType r.bytes = r.req.rspType

/-- A request function between `init_completion` and its reading of `hal_buf` is waiting for the
response to the request `seq`. -/
def ReqPhase.Expects (seq : ℕ) : ReqPhase → Prop
  | .idle | .composing _ => True
  | .armed _ _ => False
  | .waiting _ seq' | .woken _ seq' => seq' = seq

instance (seq : ℕ) : ∀ phase, Decidable (ReqPhase.Expects seq phase)
  | .idle | .composing _ => isTrue trivial
  | .armed _ _ => isFalse id
  | .waiting _ seq' | .woken _ seq' => inferInstanceAs (Decidable (seq' = seq))

/-- `wcn36xx_smd_rsp_process` neither copies nor completes the response to an earlier request while a
request function is between its `init_completion` and its reading of `hal_buf`. -/
def NoLate (w : SmdWorld) : SmdEvent → Prop
  | .rspCopy => ∀ a ∈ w.inbox.head?, w.phase.Expects a.seq
  | .rspComplete => ∀ a ∈ w.worker, w.phase.Expects a.seq
  | _ => True

instance : ∀ w e, Decidable (NoLate w e)
  | w, .rspCopy => inferInstanceAs (Decidable (∀ a ∈ w.inbox.head?, w.phase.Expects a.seq))
  | w, .rspComplete => inferInstanceAs (Decidable (∀ a ∈ w.worker, w.phase.Expects a.seq))
  | _, .compose _ _ | _, .put _ _ | _, .initCompletion _ | _, .tx _ | _, .answer _ _ _
  | _, .wake | _, .timeout | _, .read => isTrue trivial

/-! ## The invariant -/

/-- A message is the request `req`, or no request at all. -/
def IsReqOr (req : HalReq) (msg : List Byte) : Prop := ∀ q, msgType msg = q.reqType → q = req

namespace SmdWorld

variable (w : SmdWorld)

/-- `hal_buf` holds a response. -/
def Holds (a : HalRsp) : Prop := w.hal_buf.read w.hal_rsp_len = some a.buf

/-- `hal_buf` holds a response to the request `seq`. -/
def HoldsAnswer (seq : ℕ) : Prop := ∃ a ∈ w.answers, a.seq = seq ∧ w.Holds a

/-- The request with the number `seq` was sent as a request of type `req`: the firmware takes it for
nothing else, and has given it no other response. -/
structure SentAs (req : HalReq) (seq : ℕ) : Prop where
  outstanding : ∀ m ∈ w.outstanding, m.1 = seq → IsReqOr req m.2
  answers : ∀ a ∈ w.answers, a.seq = seq → msgType a.buf = req.rspType

/-- What holds between the steps of a request function. -/
def PhaseOk : ReqPhase → Prop
  | .idle => True
  | .composing req => IsReqOr req w.hal_buf.bytes
  | .armed req len =>
    HalMsgHeader.size ≤ len ∧ IsReqOr req w.hal_buf.bytes ∧ w.hal_rsp_compl = 0
  | .waiting req seq =>
    w.SentAs req seq ∧ (∀ a ∈ w.worker, a.seq = seq → w.Holds a) ∧
      (0 < w.hal_rsp_compl → w.HoldsAnswer seq)
  | .woken req seq => w.SentAs req seq ∧ w.HoldsAnswer seq

/-- The invariant of the runs without late responses. -/
structure Inv : Prop where
  /-- The numbers that the firmware knows have been given out. -/
  outstanding_lt : ∀ m ∈ w.outstanding, m.1 < w.sent
  answers_lt : ∀ a ∈ w.answers, a.seq < w.sent
  /-- What is on its way is an answer. -/
  inbox_sub : ∀ a ∈ w.inbox, a ∈ w.answers
  worker_sub : ∀ a ∈ w.worker, a ∈ w.answers
  phaseOk : w.PhaseOk w.phase
  correlated : Correlated w

end SmdWorld

/-- A message that is composed as a request is that request. -/
theorem isReqOr_of_msgType {req : HalReq} {msg : List Byte} (h : msgType msg = req.reqType) :
    IsReqOr req msg :=
  fun _ hq => (HalReq.reqType_injective (h.symm.trans hq)).symm

/-- A response is no request. -/
theorem isReqOr_of_rsp {req q : HalReq} {msg : List Byte} (h : msgType msg = q.rspType) :
    IsReqOr req msg :=
  fun q' hq' => absurd (hq'.symm.trans h) (HalReq.reqType_ne_rspType q' q)

/-- What a message is depends on its type alone. -/
theorem IsReqOr.congr {req : HalReq} {msg msg' : List Byte} (h : IsReqOr req msg)
    (htype : msgType msg' = msgType msg) : IsReqOr req msg' :=
  fun q hq => h q (htype.symm.trans hq)

/-- `wcn36xx_smd_rsp_process` copies only messages that it takes for responses. -/
theorem rspType_of_smdMsgOf {type : BitVec 16} {req : HalReq} (h : smdMsgOf type = .rsp req) :
    type = req.rspType := by
  unfold smdMsgOf at h
  split at h
  · rename_i q hfind
    cases h
    have hq := List.find?_some hfind
    exact (beq_iff_eq.mp hq).symm
  · split_ifs at h

namespace SmdWorld.Inv

variable {w : SmdWorld} (h : w.Inv)
include h

/-- Composing a message. -/
theorem compose {req : HalReq} {body : List Byte} {hal_buf : HalBuf}
    (hbuf : w.hal_buf.write 0
      ((initHalMsg req.reqType (HalMsgHeader.size + body.length)).bytes ++ body) = some hal_buf) :
    Inv { w with hal_buf := hal_buf, phase := .composing req } where
  outstanding_lt := h.outstanding_lt
  answers_lt := h.answers_lt
  inbox_sub := h.inbox_sub
  worker_sub := h.worker_sub
  phaseOk := isReqOr_of_msgType (HalBuf.msgType_of_compose hbuf)
  correlated := h.correlated

/-- Adding to a message. -/
theorem put {req : HalReq} (hphase : w.phase = .composing req) {offset : ℕ} {bs : List Byte}
    {hal_buf : HalBuf} (hoff : 4 ≤ offset) (hbuf : w.hal_buf.write offset bs = some hal_buf) :
    Inv { w with hal_buf := hal_buf } where
  outstanding_lt := h.outstanding_lt
  answers_lt := h.answers_lt
  inbox_sub := h.inbox_sub
  worker_sub := h.worker_sub
  phaseOk := by
    have hmsg := h.phaseOk
    rw [hphase] at hmsg
    have htype : msgType hal_buf.bytes = msgType w.hal_buf.bytes :=
      HalBuf.msgType_of_write (by omega) hbuf
    dsimp only
    rw [hphase]
    exact hmsg.congr htype
  correlated := h.correlated

/-- `init_completion`. -/
theorem initCompletion {req : HalReq} (hphase : w.phase = .composing req) {len : ℕ}
    (hlen : HalMsgHeader.size ≤ len) : Inv { w with hal_rsp_compl := 0, phase := .armed req len } where
  outstanding_lt := h.outstanding_lt
  answers_lt := h.answers_lt
  inbox_sub := h.inbox_sub
  worker_sub := h.worker_sub
  phaseOk := by
    have hmsg := h.phaseOk
    rw [hphase] at hmsg
    exact ⟨hlen, hmsg, rfl⟩
  correlated := h.correlated

/-- The message is sent, under a number that nothing on its way has. -/
theorem tx {req : HalReq} {len : ℕ} (hphase : w.phase = .armed req len) {msg : List Byte}
    (hread : w.hal_buf.read len = some msg) :
    Inv { w with
      phase := .waiting req w.sent
      sent := w.sent + 1
      outstanding := w.outstanding ++ [(w.sent, msg)] } := by
  have hok := h.phaseOk
  rw [hphase] at hok
  obtain ⟨hlen, hmsg, hcompl⟩ := hok
  have hanswers : ∀ a ∈ w.answers, a.seq ≠ w.sent := fun a ha => (h.answers_lt a ha).ne
  constructor
  · intro m hm
    rcases List.mem_append.mp hm with hm | hm
    · exact Nat.lt_succ_of_lt (h.outstanding_lt m hm)
    · rw [List.mem_singleton.mp hm]
      exact Nat.lt_succ_self _
  · exact fun a ha => Nat.lt_succ_of_lt (h.answers_lt a ha)
  · exact h.inbox_sub
  · exact h.worker_sub
  · refine ⟨⟨fun m hm hseq => ?_, fun a ha hseq => absurd hseq (hanswers a ha)⟩,
      fun a ha hseq => absurd hseq (hanswers a (h.worker_sub a ha)), fun hpos => ?_⟩
    · rcases List.mem_append.mp hm with hm | hm
      · exact absurd hseq (h.outstanding_lt m hm).ne
      · rw [List.mem_singleton.mp hm]
        exact hmsg.congr (HalBuf.msgType_of_read (le_trans (by decide) hlen) hread)
    · dsimp only at hpos
      omega
  · exact h.correlated

/-- The request function ends, or is between two messages. -/
theorem toIdle : Inv { w with phase := .idle } where
  outstanding_lt := h.outstanding_lt
  answers_lt := h.answers_lt
  inbox_sub := h.inbox_sub
  worker_sub := h.worker_sub
  phaseOk := trivial
  correlated := h.correlated

/-- The firmware answers a request; the one that is waited for, with the response that belongs to
it. -/
theorem answer {i : ℕ} {seq : ℕ} {msg buf : List Byte} {req : HalReq}
    (hi : w.outstanding[i]? = some (seq, msg)) (hmsg : msgType msg = req.reqType)
    (hbuf : msgType buf = req.rspType) :
    Inv { w with
      outstanding := w.outstanding.eraseIdx i
      inbox := w.inbox ++ [⟨seq, buf⟩]
      answers := w.answers ++ [⟨seq, buf⟩] } := by
  have hmem : (seq, msg) ∈ w.outstanding := List.mem_of_getElem? hi
  have hsub : w.outstanding.eraseIdx i ⊆ w.outstanding := (List.eraseIdx_sublist _ i).subset
  have hmono : ∀ a ∈ w.answers, a ∈ w.answers ++ [⟨seq, buf⟩] := fun a ha =>
    List.mem_append_left _ ha
  have hsent : ∀ q n, w.SentAs q n → SentAs { w with
      outstanding := w.outstanding.eraseIdx i
      inbox := w.inbox ++ [⟨seq, buf⟩]
      answers := w.answers ++ [⟨seq, buf⟩] } q n := by
    intro q n hs
    refine ⟨fun m hm => hs.outstanding m (hsub hm), fun a ha hseq => ?_⟩
    rcases List.mem_append.mp ha with ha | ha
    · exact hs.answers a ha hseq
    · obtain rfl := List.mem_singleton.mp ha
      -- the firmware took the message for `req`, and it was sent as `q`
      rw [← hs.outstanding (seq, msg) hmem hseq req hmsg]
      exact hbuf
  have hholds : ∀ n, w.HoldsAnswer n → HoldsAnswer { w with
      outstanding := w.outstanding.eraseIdx i
      inbox := w.inbox ++ [⟨seq, buf⟩]
      answers := w.answers ++ [⟨seq, buf⟩] } n := by
    rintro n ⟨a, ha, hseq, hbytes⟩
    exact ⟨a, hmono a ha, hseq, hbytes⟩
  constructor
  · exact fun m hm => h.outstanding_lt m (hsub hm)
  · intro a ha
    rcases List.mem_append.mp ha with ha | ha
    · exact h.answers_lt a ha
    · obtain rfl := List.mem_singleton.mp ha
      exact h.outstanding_lt _ hmem
  · intro a ha
    rcases List.mem_append.mp ha with ha | ha
    · exact hmono a (h.inbox_sub a ha)
    · exact List.mem_append_right _ ha
  · exact fun a ha => hmono a (h.worker_sub a ha)
  · have hok := h.phaseOk
    dsimp only
    revert hok
    cases w.phase with
    | idle => exact id
    | composing req => exact id
    | armed req len => exact id
    | waiting q n =>
      rintro ⟨hs, hw, hc⟩
      have hs' := hsent q n hs
      exact ⟨⟨hs'.outstanding, hs'.answers⟩, hw, fun hpos => hholds n (hc hpos)⟩
    | woken q n =>
      rintro ⟨hs, hh⟩
      have hs' := hsent q n hs
      exact ⟨⟨hs'.outstanding, hs'.answers⟩, hholds n hh⟩
  · exact fun r hr => ⟨hmono _ (h.correlated r hr).1, (h.correlated r hr).2⟩

/-- A response is copied to `hal_buf`: no request function expects another one. -/
theorem rspCopy {a : HalRsp} {inbox : List HalRsp} (hinbox : w.inbox = a :: inbox)
    (hexp : w.phase.Expects a.seq) (hlen : 2 ≤ a.buf.length) {req : HalReq}
    (hrsp : msgType a.buf = req.rspType) {hal_buf : HalBuf}
    (hbuf : w.hal_buf.write 0 a.buf = some hal_buf) :
    Inv { w with
      hal_buf := hal_buf, hal_rsp_len := a.buf.length, inbox := inbox, worker := some a } := by
  have ha : a ∈ w.answers := h.inbox_sub a (by rw [hinbox]; exact List.mem_cons_self)
  have hread : hal_buf.read a.buf.length = some a.buf := HalBuf.read_of_write hbuf
  constructor
  · exact h.outstanding_lt
  · exact h.answers_lt
  · exact fun b hb => h.inbox_sub b (by rw [hinbox]; exact List.mem_cons_of_mem _ hb)
  · intro b hb
    cases hb
    exact ha
  · have hok := h.phaseOk
    dsimp only
    revert hok hexp
    cases w.phase with
    | idle => exact fun _ => id
    | composing q =>
      -- what is sent now is a response, which the firmware does not answer
      have htype : msgType hal_buf.bytes = msgType a.buf := (HalBuf.msgType_of_read hlen hread).symm
      exact fun _ _ => isReqOr_of_rsp (htype.trans hrsp)
    | armed q len => exact fun hexp => hexp.elim
    | waiting q n =>
      rintro rfl ⟨hs, hw, hc⟩
      refine ⟨⟨hs.outstanding, hs.answers⟩, fun b hb _ => ?_, fun _ => ⟨a, ha, rfl, hread⟩⟩
      cases hb
      exact hread
    | woken q n =>
      rintro rfl ⟨hs, -⟩
      exact ⟨⟨hs.outstanding, hs.answers⟩, a, ha, rfl, hread⟩
  · exact h.correlated

/-- A response is completed: no request function expects another one. -/
theorem rspComplete {a : HalRsp} (hworker : w.worker = some a) (hexp : w.phase.Expects a.seq) :
    Inv { w with hal_rsp_compl := w.hal_rsp_compl + 1, worker := none } := by
  have ha : a ∈ w.answers := h.worker_sub a hworker
  constructor
  · exact h.outstanding_lt
  · exact h.answers_lt
  · exact h.inbox_sub
  · exact nofun
  · have hok := h.phaseOk
    dsimp only
    revert hok hexp
    cases w.phase with
    | idle => exact fun _ => id
    | composing q => exact fun _ => id
    | armed q len => exact fun hexp => hexp.elim
    | waiting q n =>
      rintro rfl ⟨hs, hw, hc⟩
      exact ⟨⟨hs.outstanding, hs.answers⟩, nofun, fun _ => ⟨a, ha, rfl, hw a hworker rfl⟩⟩
    | woken q n => exact fun _ ⟨hs, hh⟩ => ⟨⟨hs.outstanding, hs.answers⟩, hh⟩
  · exact h.correlated

/-- The request function is woken by a completion. -/
theorem wake {req : HalReq} {seq : ℕ} (hphase : w.phase = .waiting req seq)
    (hpos : 0 < w.hal_rsp_compl) :
    Inv { w with hal_rsp_compl := w.hal_rsp_compl - 1, phase := .woken req seq } where
  outstanding_lt := h.outstanding_lt
  answers_lt := h.answers_lt
  inbox_sub := h.inbox_sub
  worker_sub := h.worker_sub
  phaseOk := by
    have hok := h.phaseOk
    rw [hphase] at hok
    obtain ⟨hs, -, hc⟩ := hok
    exact ⟨⟨hs.outstanding, hs.answers⟩, hc hpos⟩
  correlated := h.correlated

/-- The request function reads its response. -/
theorem read {req : HalReq} {seq : ℕ} (hphase : w.phase = .woken req seq) {bytes : List Byte}
    (hread : w.hal_buf.read w.hal_rsp_len = some bytes) :
    Inv { w with phase := .idle, reads := w.reads ++ [⟨req, seq, bytes⟩] } where
  outstanding_lt := h.outstanding_lt
  answers_lt := h.answers_lt
  inbox_sub := h.inbox_sub
  worker_sub := h.worker_sub
  phaseOk := trivial
  correlated := by
    have hok := h.phaseOk
    rw [hphase] at hok
    obtain ⟨hs, a, ha, hseq, hholds⟩ := hok
    obtain rfl : bytes = a.buf := Option.some.inj (hread.symm.trans hholds)
    intro r hr
    rcases List.mem_append.mp hr with hr | hr
    · exact h.correlated r hr
    · obtain rfl := List.mem_singleton.mp hr
      subst hseq
      exact ⟨ha, hs.answers a ha rfl⟩

/-- Dropping a message that is no response. -/
theorem drop {a : HalRsp} {inbox : List HalRsp} (hinbox : w.inbox = a :: inbox) :
    Inv { w with inbox := inbox } where
  outstanding_lt := h.outstanding_lt
  answers_lt := h.answers_lt
  inbox_sub b hb := h.inbox_sub b (by rw [hinbox]; exact List.mem_cons_of_mem _ hb)
  worker_sub := h.worker_sub
  phaseOk := by
    have hok := h.phaseOk
    dsimp only
    revert hok
    cases w.phase with
    | idle => exact id
    | composing q => exact id
    | armed q len => exact id
    | waiting q n => exact fun ⟨hs, hw⟩ => ⟨⟨hs.outstanding, hs.answers⟩, hw⟩
    | woken q n => exact fun ⟨hs, hh⟩ => ⟨⟨hs.outstanding, hs.answers⟩, hh⟩
  correlated := h.correlated

end SmdWorld.Inv

/-- Without late responses every step keeps the invariant. -/
theorem smdStep_inv {w w' : SmdWorld} {e : SmdEvent} (h : w.Inv) (hlate : NoLate w e)
    (hstep : smdSystem.step w e = some w') : w'.Inv := by
  cases e with
  | compose req body =>
    simp only [smdSystem] at hstep
    split at hstep
    · obtain ⟨hal_buf, hbuf, heq⟩ := Option.bind_eq_some_iff.mp hstep
      cases heq
      exact h.compose hbuf
    · cases hstep
  | put offset bs =>
    simp only [smdSystem] at hstep
    split at hstep
    · rename_i req hphase
      split_ifs at hstep with hoff
      obtain ⟨hal_buf, hbuf, heq⟩ := Option.bind_eq_some_iff.mp hstep
      cases heq
      exact h.put hphase hoff hbuf
    · cases hstep
  | initCompletion len =>
    simp only [smdSystem] at hstep
    split at hstep
    · rename_i req hphase
      split_ifs at hstep with hlen
      cases hstep
      exact h.initCompletion hphase hlen
    · cases hstep
  | tx ok =>
    simp only [smdSystem] at hstep
    split at hstep
    · rename_i req len hphase
      obtain ⟨msg, hread, heq⟩ := Option.bind_eq_some_iff.mp hstep
      split_ifs at heq
      · cases heq
        exact h.tx hphase hread
      · cases heq
        exact h.toIdle
    · cases hstep
  | answer i req buf =>
    obtain ⟨⟨seq, msg⟩, hi, heq⟩ := Option.bind_eq_some_iff.mp hstep
    dsimp only at heq
    split_ifs at heq with htypes
    cases heq
    exact h.answer hi htypes.1 htypes.2
  | rspCopy =>
    simp only [smdSystem] at hstep
    split at hstep
    · rename_i a inbox hworker hinbox
      split_ifs at hstep with hlen
      have hexp : w.phase.Expects a.seq := hlate a (by rw [hinbox]; rfl)
      split at hstep
      · rename_i req hreq
        obtain ⟨hal_buf, hbuf, heq⟩ := Option.bind_eq_some_iff.mp hstep
        cases heq
        exact h.rspCopy hinbox hexp (Nat.not_lt.mp hlen) (rspType_of_smdMsgOf hreq) hbuf
      · cases hstep
        exact h.drop hinbox
    · cases hstep
  | rspComplete =>
    simp only [smdSystem] at hstep
    split at hstep
    · rename_i a hworker
      cases hstep
      exact h.rspComplete hworker (hlate a hworker)
    · cases hstep
  | wake =>
    simp only [smdSystem] at hstep
    split at hstep
    · rename_i req seq hphase
      split_ifs at hstep with hpos
      cases hstep
      exact h.wake hphase hpos
    · cases hstep
  | timeout =>
    simp only [smdSystem] at hstep
    split at hstep
    · split_ifs at hstep
      cases hstep
      exact h.toIdle
    · cases hstep
  | read =>
    simp only [smdSystem] at hstep
    split at hstep
    · rename_i req seq hphase
      obtain ⟨bytes, hread, heq⟩ := Option.bind_eq_some_iff.mp hstep
      cases heq
      exact h.read hphase hread
    · cases hstep

/-- In every run in which no late response gets between the `init_completion` of a request function
and its reading of `hal_buf`, every request function that does not time out reads the response that the
firmware sent to its request. -/
theorem correlated_of_noLate {w : SmdWorld} (hw : smdSystem.ReachableWhen NoLate w) :
    Correlated w := by
  have hinv : w.Inv := by
    refine hw.invariant (I := SmdWorld.Inv) ?_ fun _ _ _ => smdStep_inv
    rintro w ⟨hphase, -, hout, hinbox, hworker, hanswers, hreads⟩
    constructor
    · simp [hout]
    · simp [hanswers]
    · simp [hinbox]
    · simp [hworker]
    · rw [hphase]
      trivial
    · simp [Correlated, hreads]
  exact hinv.correlated

/-! ## A scan that starts with a timeout -/

/-- The control channel after `wcn36xx_smd_open`. -/
def smdOpened : SmdWorld where
  hal_buf := ⟨List.replicate WCN36XX_HAL_BUF_SIZE 0, HalBuf.length_zero⟩
  hal_rsp_len := 0
  hal_rsp_compl := 0
  phase := .idle

/-- A response of the firmware: a header and a status. -/
def statusRsp (req : HalReq) (status : BitVec 32) : List Byte :=
  (initHalMsg req.rspType 12).bytes ++ leBytes status

/-- `wcn36xx_smd_init_scan` for `HAL_SYS_MODE_SCAN` sends its message of 48 bytes. -/
def initScan : List SmdEvent :=
  [.compose .INIT_SCAN (leBytes 2 ++ List.replicate 36 0), .initCompletion 48, .tx true]

/-- `wcn36xx_smd_start_scan` on channel 6 sends its message of 9 bytes. -/
def startScan : List SmdEvent := [.compose .START_SCAN [6], .initCompletion 9, .tx true]

/-- The late response to `wcn36xx_smd_init_scan` comes while no request function is under way, and
`wcn36xx_smd_start_scan` reads its own. -/
theorem correlated_of_noLate_two_requests :
    ∃ w, smdSystem.ReachableWhen NoLate w ∧ w.answers.length = 2 ∧ w.reads.length = 1 ∧
      Correlated w := by
  obtain ⟨w, hrun, hlen⟩ : ∃ w, smdSystem.runWhen NoLate smdOpened (initScan ++ [.timeout,
      .answer 0 .INIT_SCAN (statusRsp .INIT_SCAN 0), .rspCopy, .rspComplete] ++ startScan ++
      [.answer 0 .START_SCAN (statusRsp .START_SCAN 0), .rspCopy, .rspComplete, .wake, .read]) =
        some w ∧
      (fun w : SmdWorld => decide (w.answers.length = 2 ∧ w.reads.length = 1)) w = true :=
    (Option.any_eq_true _ _).mp (by decide +kernel)
  have hw : smdSystem.ReachableWhen NoLate w :=
    System.ReachableWhen.runWhen (.init ⟨rfl, rfl, rfl, rfl, rfl, rfl, rfl⟩) hrun
  obtain ⟨hanswers, hreads⟩ := of_decide_eq_true hlen
  exact ⟨w, hw, hanswers, hreads, correlated_of_noLate hw⟩

/-- `wcn36xx_sw_scan_start`: `wcn36xx_smd_init_scan` times out, and the firmware answers it when
`wcn36xx_smd_start_scan` has sent its request, which then reads a `WCN36XX_HAL_INIT_SCAN_RSP`. -/
theorem correlated_fails_on_late_response : ∃ w, smdSystem.Reachable w ∧ ¬Correlated w := by
  obtain ⟨w, hrun, hbad⟩ : ∃ w, smdSystem.runFrom smdOpened (initScan ++ [.timeout] ++ startScan ++
      [.answer 0 .INIT_SCAN (statusRsp .INIT_SCAN 0), .rspCopy, .rspComplete, .wake, .read]) =
        some w ∧
      (fun w : SmdWorld => w.reads.any fun r => msgType r.bytes != r.req.rspType) w = true :=
    (Option.any_eq_true _ _).mp (by decide +kernel)
  refine ⟨w, System.Reachable.runFrom (.init ⟨rfl, rfl, rfl, rfl, rfl, rfl, rfl⟩) hrun, ?_⟩
  intro hcorr
  obtain ⟨r, hr, hne⟩ := List.any_eq_true.mp hbad
  exact bne_iff_ne.mp hne (hcorr r hr).2

end Wcn36xx
