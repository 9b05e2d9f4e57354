import Wcn36xx.Smd.Transport

/-!
# From the firmware to the handlers of indications

The control channel and the indication queue together: `rsp_cb` is `wcn36xx_smd_rsp_process`, which is called
with each message that `wcn36xx_msm_smd_work` has read and waits for `hal_ind_mutex` when the message is an
indication. In every run the handlers get indications that the firmware has written, in their order and none
twice. They get all of them when no allocation and no `smd_read` fails and `hal_ind_work` is not pending when
an indication comes.
-/

namespace Wcn36xx

open Support (System)

/-- The control channel and the indication queue. -/
structure CtrlPath where
  msm : MsmWorld := {}
  ind : IndWorld := {}

/-- The steps of the control channel and of the indication queue. -/
inductive CtrlEvent where
  /-- A step of the channel or of `wcn36xx_msm_smd_work`, but `rsp_cb`. -/
  | msm (e : MsmEvent)
  /-- `rsp_cb`, with what its two calls of `kmalloc` come to. -/
  | callback (ind_ok msg_ok : Bool)
  /-- A step of `hal_ind_work`. -/
  | ind (e : IndEvent)

/-- The transition system of both. -/
def ctrlSystem : System CtrlPath CtrlEvent where
  init c := c = {}
  step c
    | .msm .callback => none
    | .msm e => (msmSystem.step c.msm e).map fun msm => { c with msm := msm }
    | .callback ind_ok msg_ok =>
      match c.msm.worker with
      | .message _ bytes => do
        let ind ← indSystem.step c.ind (.rspProcess bytes ind_ok msg_ok)
        let msm ← msmSystem.step c.msm .callback
        return { msm := msm, ind := ind }
      | _ => none
    | .ind (.rspProcess _ _ _) => none
    | .ind e => (indSystem.step c.ind e).map fun ind => { c with ind := ind }

/-- The indications that have been queued: handled, and then to be handled. -/
def CtrlPath.queued (c : CtrlPath) : List (List Byte) := c.ind.calls.map Prod.snd ++ c.ind.todo

/-- Nothing fails in the step, and an indication is not queued while `hal_ind_work` is pending. -/
def CtrlSucceeds (c : CtrlPath) : CtrlEvent → Prop
  | .msm e => MsmSucceeds c.msm e
  | .callback ind_ok msg_ok =>
    match c.msm.worker with
    | .message _ bytes => isInd bytes = true → ind_ok = true ∧ msg_ok = true ∧ c.ind.pending = false
    | _ => True
  | .ind _ => True

instance (c : CtrlPath) : ∀ e, Decidable (CtrlSucceeds c e)
  | .msm e => inferInstanceAs (Decidable (MsmSucceeds c.msm e))
  | .callback ind_ok msg_ok =>
    match h : c.msm.worker with
    | .message _ bytes =>
      decidable_of_iff (isInd bytes = true → ind_ok = true ∧ msg_ok = true ∧ c.ind.pending = false)
        (by simp only [CtrlSucceeds, h])
    | .idle | .top | .sized _ | .arrived _ | .buffer _ _ | .called _ =>
      isTrue (by simp only [CtrlSucceeds, h])
  | .ind _ => isTrue trivial

/-! ## Steps -/

/-- What a step does to the two parts. -/
inductive CtrlStep (c : CtrlPath) : CtrlEvent → CtrlPath → Prop
  | msm (e : MsmEvent) (msm : MsmWorld) (step : MsmStep c.msm e msm)
      (calls : msm.calls = c.msm.calls) : CtrlStep c (.msm e) { c with msm := msm }
  | callback (msg : ℕ) (bytes : List Byte) (ind_ok msg_ok : Bool) (ind : IndWorld)
      (worker : c.msm.worker = .message msg bytes)
      (step : indSystem.step c.ind (.rspProcess bytes ind_ok msg_ok) = some ind) :
      CtrlStep c (.callback ind_ok msg_ok)
        { msm := { c.msm with worker := .called msg, calls := c.msm.calls ++ [bytes] }, ind := ind }
  | ind (e : IndEvent) (ind : IndWorld) (work : e.IsWork) (step : IndStep c.ind e ind) :
      CtrlStep c (.ind e) { c with ind := ind }

/-- Only `rsp_cb` is a call. -/
theorem msmStep_calls {w w' : MsmWorld} {e : MsmEvent} (h : MsmStep w e w') (hne : e ≠ .callback) :
    w'.calls = w.calls := by
  cases h with
  | callback => exact absurd rfl hne
  | write | arrive | report | data | other | workStart | empty | size | short | avail | nomem
  | kmalloc | readFails | readShort | read | kfree => rfl

/-- A step is one of these. -/
theorem ctrlStep_of_step {c c' : CtrlPath} {e : CtrlEvent} (h : ctrlSystem.step c e = some c') :
    CtrlStep c e c' := by
  cases e with
  | msm e =>
    -- The call of `rsp_cb` is an event of both parts, and none of the transport alone.
    have hne : e ≠ .callback := by
      rintro rfl
      cases h
    have hmap : (msmSystem.step c.msm e).map (fun msm => { c with msm := msm }) = some c' := by
      cases e with
      | callback => exact absurd rfl hne
      | write | arrive | report | notify | workStart | size | avail | kmalloc | read | kfree => exact h
    obtain ⟨msm, hmsm, rfl⟩ := Option.map_eq_some_iff.mp hmap
    have hstep := msmStep_of_step hmsm
    exact .msm e msm hstep (msmStep_calls hstep hne)
  | callback ind_ok msg_ok =>
    simp only [ctrlSystem] at h
    split at h
    · rename_i msg bytes hworker
      simp only [Option.bind_eq_bind, Option.bind_eq_some_iff, Option.pure_def,
        Option.some.injEq] at h
      obtain ⟨ind, hind, msm, hmsm, rfl⟩ := h
      simp only [msmSystem, hworker, Option.some.injEq] at hmsm
      subst hmsm
      exact .callback msg bytes ind_ok msg_ok ind hworker hind
    · cases h
  | ind e =>
    cases e with
    | rspProcess => cases h
    | workStart | workHandle | workDel | workReturn =>
      obtain ⟨ind, hind, rfl⟩ := Option.map_eq_some_iff.mp h
      exact .ind _ ind trivial (indStep_of_step hind)

/-- `wcn36xx_smd_rsp_process` queues a message when it is an indication and there is memory. -/
theorem queued_rspProcess (bytes : List Byte) (ind_ok msg_ok : Bool) :
    (IndEvent.rspProcess bytes ind_ok msg_ok).queued =
      if ind_ok = true ∧ msg_ok = true then [bytes].filter isInd else [] := by
  unfold IndEvent.queued
  dsimp only
  cases hisInd : isInd bytes with
  | true =>
    rw [Bool.true_and, List.filter_cons_of_pos hisInd, List.filter_nil]
    exact if_congr Bool.and_eq_true_iff rfl rfl
  | false =>
    rw [List.filter_cons_of_neg (Bool.not_eq_true _ ▸ hisInd), List.filter_nil, ite_self]
    rfl

/-- What a step queues are the indications among the messages that it hands over, unless memory is lacking;
all of them, when it is not. -/
theorem ctrlStep_queued {c c' : CtrlPath} {e : CtrlEvent} (hind : c.ind.Inv) (h : CtrlStep c e c') :
    ∃ bytes queued, c'.msm.calls = c.msm.calls ++ bytes ∧ c'.queued = c.queued ++ queued ∧
      List.Sublist queued (bytes.filter isInd) ∧
      (CtrlSucceeds c e → queued = bytes.filter isInd) := by
  cases h with
  | msm e msm hstep hcalls =>
    exact ⟨[], [], by rw [List.append_nil]; exact hcalls, (List.append_nil _).symm,
      List.Sublist.slnil, fun _ => rfl⟩
  | ind e ind hwork hstep =>
    refine ⟨[], [], (List.append_nil _).symm, ?_, List.Sublist.slnil, fun _ => rfl⟩
    rw [List.append_nil]
    exact indStep_calls hind hstep hwork
  | callback msg bytes ind_ok msg_ok ind hworker hstep =>
    obtain ⟨htodo, hcalls⟩ := indStep_queued hstep
    refine ⟨[bytes], (IndEvent.rspProcess bytes ind_ok msg_ok).queued, rfl, ?_, ?_, fun hok => ?_⟩
    · rw [CtrlPath.queued, CtrlPath.queued, htodo, hcalls, List.append_assoc]
    · rw [queued_rspProcess]
      split
      · exact List.Sublist.refl _
      · exact List.nil_sublist _
    · unfold CtrlSucceeds at hok
      simp only [hworker] at hok
      rw [queued_rspProcess]
      cases hisInd : isInd bytes with
      | true =>
        obtain ⟨hind_ok, hmsg_ok, -⟩ := hok hisInd
        rw [if_pos ⟨hind_ok, hmsg_ok⟩]
      | false =>
        rw [List.filter_cons_of_neg (Bool.not_eq_true _ ▸ hisInd), List.filter_nil, ite_self]

/-- The invariants of the two parts, and the handlers get the messages of their types. -/
structure CtrlInv (c : CtrlPath) : Prop where
  msm : MsmInv c.msm
  ind : c.ind.Inv
  typed : CallsTyped c.ind
  queued : List.Sublist c.queued (c.msm.calls.filter isInd)

/-- Every step keeps them. -/
theorem CtrlInv.step {c c' : CtrlPath} {e : CtrlEvent} (hc : CtrlInv c) (h : CtrlStep c e c') :
    CtrlInv c' := by
  obtain ⟨bytes, queued, hcalls, hqueued, hsub, -⟩ := ctrlStep_queued hc.ind h
  have hqueued' : List.Sublist c'.queued (c'.msm.calls.filter isInd) := by
    rw [hcalls, hqueued, List.filter_append]
    exact hc.queued.append hsub
  cases h with
  | msm e msm hstep => exact ⟨hc.msm.step hstep, hc.ind, hc.typed, hqueued'⟩
  | callback msg bytes ind_ok msg_ok ind hworker hstep =>
    have hind := indStep_of_step hstep
    exact ⟨hc.msm.step (.callback msg bytes hworker), indStep_inv hc.ind hind,
      indStep_callsTyped hc.typed hind, hqueued'⟩
  | ind e ind hwork hstep =>
    exact ⟨hc.msm, indStep_inv hc.ind hstep, indStep_callsTyped hc.typed hstep, hqueued'⟩

/-- What holds besides when nothing fails: nothing is left behind in either part, and all indications are
queued that have been handed over. -/
structure CtrlComplete (c : CtrlPath) : Prop where
  attended : c.msm.Waiting → c.msm.Attended
  due : c.ind.due = c.ind.hal_ind_queue.length
  queued : c.queued = c.msm.calls.filter isInd

/-- Every step without a failure keeps this. -/
theorem CtrlComplete.step {c c' : CtrlPath} {e : CtrlEvent} (hc : CtrlInv c) (hall : CtrlComplete c)
    (hok : CtrlSucceeds c e) (h : CtrlStep c e c') : CtrlComplete c' := by
  obtain ⟨bytes, queued, hcalls, hqueued, -, heq⟩ := ctrlStep_queued hc.ind h
  have hqueued' : c'.queued = c'.msm.calls.filter isInd := by
    rw [hcalls, hqueued, List.filter_append, hall.queued, heq hok]
  cases h with
  | msm e msm hstep => exact ⟨hc.msm.attended hall.attended hok hstep, hall.due, hqueued'⟩
  | ind e ind hwork hstep =>
    have hdue := indStep_due hc.ind hstep hwork
    have hbal := hall.due
    exact ⟨hall.attended, by dsimp only; omega, hqueued'⟩
  | callback msg bytes ind_ok msg_ok ind hworker hstep =>
    -- An indication that is queued makes the work pending, which it was not.
    have hcond : QueuedNotPending c.ind (.rspProcess bytes ind_ok msg_ok) := by
      unfold CtrlSucceeds at hok
      simp only [hworker] at hok
      intro hqueue
      exact (hok (Bool.and_eq_true_iff.mp (Bool.and_eq_true_iff.mp hqueue).1).1).2.2
    exact ⟨fun _ => .inr (.inr nofun),
      indStep_balanced hc.ind hall.due hcond (indStep_of_step hstep), hqueued'⟩

/-! ## Whole runs -/

/-- When the channel is opened and the queue is empty. -/
theorem ctrlInv_of_reachable {c : CtrlPath} (h : ctrlSystem.Reachable c) : CtrlInv c := by
  refine h.invariant (I := CtrlInv) ?_ fun _ _ _ hc he => hc.step (ctrlStep_of_step he)
  rintro c rfl
  exact ⟨msmInv_of_reachable (.init rfl), indInit_inv rfl, nofun, List.Sublist.slnil⟩

/-- In every run, whatever fails and however the packets arrive: the handlers of indications have been called
with indications that the firmware has written, each with those of its type, in the order in which they were
written and none twice. -/
theorem ctrlIndications_sublist (c : CtrlPath) (h : ctrlSystem.Reachable c) :
    List.Sublist (c.ind.calls.map Prod.snd) (c.msm.written.filter isInd) ∧ CallsTyped c.ind := by
  have hc := ctrlInv_of_reachable h
  refine ⟨?_, hc.typed⟩
  calc List.Sublist (c.ind.calls.map Prod.snd) c.queued := List.sublist_append_left _ _
    List.Sublist _ (c.msm.calls.filter isInd) := hc.queued
    List.Sublist _ (c.msm.written.filter isInd) := by
      rw [hc.msm.written, List.filter_append]
      exact List.sublist_append_left _ _

/-- Both parts are at rest, and all bytes that the firmware has written have arrived. -/
structure CtrlPath.AtRest (c : CtrlPath) : Prop where
  channel : ¬c.msm.Attended
  arrived : c.msm.ch.missing = 0
  work : c.ind.pending = false
  worker : c.ind.worker = .idle

/-- In the runs in which no allocation and no `smd_read` fails, and no indication comes while `hal_ind_work` is
pending, the handlers have got all indications that the firmware has written, in their order, when both parts
are at rest. -/
theorem ctrlIndications_complete (c : CtrlPath) (h : ctrlSystem.ReachableWhen CtrlSucceeds c)
    (hrest : c.AtRest) : c.ind.calls.map Prod.snd = c.msm.written.filter isInd := by
  obtain ⟨hc, hall⟩ : CtrlInv c ∧ CtrlComplete c := by
    refine h.invariant (I := fun c => CtrlInv c ∧ CtrlComplete c) ?_ ?_
    · intro c hc
      refine ⟨ctrlInv_of_reachable (.init hc), ?_⟩
      obtain rfl : c = {} := hc
      exact ⟨fun hwaiting => absurd rfl hwaiting.1, rfl, rfl⟩
    · rintro s e s' ⟨hs, hall⟩ hok he
      have hstep := ctrlStep_of_step he
      exact ⟨hs.step hstep, hall.step hs hok hstep⟩
  have hcalls := (hc.msm.all_called hall.attended hrest.channel).2.trans (if_pos hrest.arrived)
  -- No execution is to come, and so there is no entry.
  have hdue : c.ind.due = 0 := by simp [IndWorld.due, hrest.work, hrest.worker]
  have hempty : c.ind.hal_ind_queue = [] :=
    List.eq_nil_of_length_eq_zero (hall.due.symm.trans hdue)
  have hqueued := hall.queued
  rw [CtrlPath.queued, IndWorld.todo, hempty, List.tail_nil, ite_self, List.append_nil,
    hcalls] at hqueued
  exact hqueued

/-- A response and an indication come, and nothing fails. -/
def responseAndIndication : List CtrlEvent :=
  let loop : List CtrlEvent := [.msm .size, .msm .avail, .msm (.kmalloc true), .msm (.read true)]
  [.msm (.write (initHalMsg 1 12).bytes 8), .msm .report, .msm (.write (txComplInd 1) 3),
    .msm (.arrive 9), .msm .report, .msm .workStart] ++ loop ++
  [.callback true true, .msm .kfree] ++ loop ++
  [.callback true true, .ind .workStart, .msm .kfree, .msm .size, .ind .workHandle, .ind .workDel,
    .ind .workReturn]

/-- The handler has got the indication. -/
theorem ctrlIndications_complete_of_two : ∃ c : CtrlPath, c.AtRest ∧ c.msm.written.length = 2 ∧
    c.ind.calls.map Prod.snd = c.msm.written.filter isInd := by
  obtain ⟨c, hrun, hc⟩ : ∃ c, ctrlSystem.runWhen CtrlSucceeds {} responseAndIndication = some c ∧
      (fun c : CtrlPath => decide ((c.msm.news = false ∧ c.msm.pending = false ∧
        c.msm.worker = .idle) ∧ c.msm.ch.missing = 0 ∧ c.ind.pending = false ∧
        c.ind.worker = .idle ∧ c.msm.written.length = 2)) c = true :=
    (Option.any_eq_true _ _).mp (by decide +kernel)
  obtain ⟨⟨hnews, hpending, hidle⟩, hmissing, hwork, hworker, hlen⟩ := of_decide_eq_true hc
  have hrest : c.AtRest :=
    ⟨by simp [MsmWorld.Attended, hnews, hpending, hidle], hmissing, hwork, hworker⟩
  have hreach : ctrlSystem.ReachableWhen CtrlSucceeds c :=
    System.ReachableWhen.runWhen (.init rfl) hrun
  exact ⟨c, hrest, hlen, ctrlIndications_complete c hreach hrest⟩

/-- So it is as far as the firmware's order goes. -/
theorem ctrlIndications_sublist_of_two : ∃ c : CtrlPath, c.ind.calls.length = 1 ∧
    List.Sublist (c.ind.calls.map Prod.snd) (c.msm.written.filter isInd) ∧ CallsTyped c.ind := by
  obtain ⟨c, hrun, hc⟩ : ∃ c, ctrlSystem.runWhen CtrlSucceeds {} responseAndIndication = some c ∧
      (fun c : CtrlPath => decide (c.ind.calls.length = 1)) c = true :=
    (Option.any_eq_true _ _).mp (by decide +kernel)
  have hreach : ctrlSystem.Reachable c :=
    (System.ReachableWhen.runWhen (.init rfl) hrun).reachable
  exact ⟨c, of_decide_eq_true hc, ctrlIndications_sublist c hreach⟩

end Wcn36xx
