import Wcn36xx.Smd.MsgType
import Wcn36xx.Support.System

/-!
# The indication queue

`wcn36xx_smd_rsp_process` appends an indication to `hal_ind_queue` and queues `hal_ind_work`; its function
`wcn36xx_ind_smd_work` handles one entry of the queue. Queueing a work item that is pending does nothing, and
a work item that is only running becomes pending again: executions are counted by the pending bit,
entries by the queue.

The worker has never more executions to come than there are entries (`IndInv`), so that it finds an
entry whenever it looks. It has as many executions as entries (`IndBalanced`), so that no entry is
stranded, in the runs in which no indication is queued while `hal_ind_work` is pending.
-/

namespace Wcn36xx

open Support (System)

/-- Where an execution of `wcn36xx_ind_smd_work` is. -/
inductive IndWorker where
  /-- `hal_ind_work` is not executing. -/
  | idle
  /-- It has begun, and waits for `hal_ind_mutex`. -/
  | entered
  /-- It holds `hal_ind_mutex` and has handled the first entry, which is still in the queue. -/
  | handled
  /-- It has removed the entry and released `hal_ind_mutex`. -/
  | returning
  deriving DecidableEq

/-- The indication queue and its work item. -/
structure IndWorld where
  /-- The messages in `hal_ind_queue`, oldest first. -/
  hal_ind_queue : List (List Byte) := []
  /-- `hal_ind_work` is pending. -/
  pending : Bool := false
  worker : IndWorker := .idle
  /-- The handlers that the worker has called, and the message that each got. -/
  calls : List (HalInd × List Byte) := []

/-- The steps of the indication queue. -/
inductive IndEvent where
  /-- `wcn36xx_smd_rsp_process` is called with a message; the booleans say which of its two calls of
  `kmalloc` succeed. -/
  | rspProcess (msg : List Byte) (ind_ok msg_ok : Bool)
  /-- The workqueue runs `hal_ind_work`: it is no longer pending. -/
  | workStart
  /-- `mutex_lock`, `list_first_entry` and the handler of the message. -/
  | workHandle
  /-- `list_del`, `kfree` and `mutex_unlock`. -/
  | workDel
  /-- `wcn36xx_ind_smd_work` returns. -/
  | workReturn

/-- A step of the workqueue, with no message from the firmware. -/
def IndEvent.IsWork : IndEvent → Prop
  | .rspProcess _ _ _ => False
  | .workStart | .workHandle | .workDel | .workReturn => True

/-- The call that `wcn36xx_ind_smd_work` makes for a message. -/
def indCall (msg : List Byte) : List (HalInd × List Byte) :=
  if msgType msg = HalInd.OTA_TX_COMPL.indType then [(.OTA_TX_COMPL, msg)]
  else if msgType msg = HalInd.MISSED_BEACON.indType then [(.MISSED_BEACON, msg)]
  else if msgType msg = HalInd.DELETE_STA_CONTEXT.indType then [(.DELETE_STA_CONTEXT, msg)]
  else []

/-- The indication queue as a transition system. Taking the first entry of an empty queue is a
fault. -/
def indSystem : System IndWorld IndEvent where
  init w := w = {}
  step w
    | .rspProcess msg ind_ok msg_ok =>
      match smdMsgOf (msgType msg) with
      | .ind _ =>
        if ind_ok && msg_ok then
          -- the worker holds `hal_ind_mutex` until it has removed its entry
          if w.worker = .handled then none
          else some { w with hal_ind_queue := w.hal_ind_queue ++ [msg], pending := true }
        else some w
      | _ => some w
    | .workStart =>
      if w.pending ∧ w.worker = .idle then some { w with pending := false, worker := .entered }
      else none
    | .workHandle =>
      match w.worker, w.hal_ind_queue with
      | .entered, msg :: _ => some { w with worker := .handled, calls := w.calls ++ indCall msg }
      | _, _ => none
    | .workDel =>
      if w.worker = .handled then
        some { w with hal_ind_queue := w.hal_ind_queue.tail, worker := .returning }
      else none
    | .workReturn => if w.worker = .returning then some { w with worker := .idle } else none

/-- `hal_ind_work` is pending or executing as long as there are entries in the queue. -/
def NoneStranded (w : IndWorld) : Prop :=
  w.hal_ind_queue ≠ [] → w.pending = true ∨ w.worker ≠ .idle

/-- The entries that have not been handled. -/
def IndWorld.todo (w : IndWorld) : List (List Byte) :=
  if w.worker = .handled then w.hal_ind_queue.tail else w.hal_ind_queue

/-- Without a further message from the firmware, the worker comes to an end, and has then handled all
entries. -/
def WillHandleAll (w : IndWorld) : Prop :=
  ∃ n, ∀ es w', (∀ e ∈ es, e.IsWork) → indSystem.runFrom w es = some w' →
    es.length ≤ n ∧ ((∀ e : IndEvent, e.IsWork → indSystem.step w' e = none) →
      w'.hal_ind_queue = [] ∧ w'.calls.map Prod.snd = w.calls.map Prod.snd ++ w.todo)

/-- A message that is queued as an indication. -/
def isInd (msg : List Byte) : Bool :=
  match smdMsgOf (msgType msg) with
  | .ind _ => true
  | _ => false

/-- An indication is queued only when `hal_ind_work` is not pending. -/
def QueuedNotPending (w : IndWorld) : IndEvent → Prop
  | .rspProcess msg ind_ok msg_ok => (isInd msg && ind_ok && msg_ok) = true → w.pending = false
  | _ => True

instance : ∀ w e, Decidable (QueuedNotPending w e)
  | w, .rspProcess msg ind_ok msg_ok =>
    inferInstanceAs (Decidable ((isInd msg && ind_ok && msg_ok) = true → w.pending = false))
  | _, .workStart | _, .workHandle | _, .workDel | _, .workReturn => isTrue trivial

/-! ## What a step does -/

/-- `wcn36xx_smd_rsp_process` queues only messages that have the type of an indication. -/
theorem indType_of_smdMsgOf {type : BitVec 16} {ind : HalInd} (h : smdMsgOf type = .ind ind) :
    type = ind.indType := by
  unfold smdMsgOf at h
  split at h
  · cases h
  · split_ifs at h with hcompl hbeacon hsta
    all_goals
      cases h
      assumption

/-- The worker calls a handler with every message that has the type of an indication. -/
theorem indCall_indType {msg : List Byte} {ind : HalInd} (h : msgType msg = ind.indType) :
    (indCall msg).map Prod.snd = [msg] := by
  unfold indCall
  cases ind with
  | OTA_TX_COMPL => rw [h, if_pos rfl, List.map_singleton]
  | MISSED_BEACON => rw [h, if_neg (by decide), if_pos rfl, List.map_singleton]
  | DELETE_STA_CONTEXT =>
    rw [h, if_neg (by decide), if_neg (by decide), if_pos rfl, List.map_singleton]

/-- What a step does to the queue, the work item and the worker. -/
inductive IndStep (w : IndWorld) : IndEvent → IndWorld → Prop
  /-- A response, an unsupported message, or no memory. -/
  | ignore (msg : List Byte) (ind_ok msg_ok : Bool) : IndStep w (.rspProcess msg ind_ok msg_ok) w
  | queue (msg : List Byte) (ind : HalInd) (type : msgType msg = ind.indType)
      (isInd : isInd msg = true) (mutex : w.worker ≠ .handled) :
      IndStep w (.rspProcess msg true true)
        { w with hal_ind_queue := w.hal_ind_queue ++ [msg], pending := true }
  | start (pending : w.pending = true) (worker : w.worker = .idle) :
      IndStep w .workStart { w with pending := false, worker := .entered }
  | handle (msg : List Byte) (rest : List (List Byte)) (worker : w.worker = .entered)
      (first : w.hal_ind_queue = msg :: rest) :
      IndStep w .workHandle { w with worker := .handled, calls := w.calls ++ indCall msg }
  | del (worker : w.worker = .handled) :
      IndStep w .workDel { w with hal_ind_queue := w.hal_ind_queue.tail, worker := .returning }
  | ret (worker : w.worker = .returning) : IndStep w .workReturn { w with worker := .idle }

/-- A step is one of these. -/
theorem indStep_of_step {w w' : IndWorld} {e : IndEvent} (h : indSystem.step w e = some w') :
    IndStep w e w' := by
  cases e with
  | rspProcess msg ind_ok msg_ok =>
    simp only [indSystem] at h
    split at h
    · rename_i ind hind
      split_ifs at h with hok hworker
      · cases h
        obtain ⟨rfl, rfl⟩ := Bool.and_eq_true_iff.mp hok
        exact .queue msg ind (indType_of_smdMsgOf hind) (by rw [isInd, hind]) hworker
      · cases h
        exact .ignore msg ind_ok msg_ok
    · cases h
      exact .ignore msg ind_ok msg_ok
  | workStart =>
    simp only [indSystem] at h
    split_ifs at h with hcond
    cases h
    exact .start hcond.1 hcond.2
  | workHandle =>
    simp only [indSystem] at h
    split at h
    · rename_i msg rest hworker hfirst
      cases h
      exact .handle msg rest hworker hfirst
    · cases h
  | workDel =>
    simp only [indSystem] at h
    split_ifs at h with hworker
    cases h
    exact .del hworker
  | workReturn =>
    simp only [indSystem] at h
    split_ifs at h with hworker
    cases h
    exact .ret hworker

namespace IndWorld

/-- The executions of `wcn36xx_ind_smd_work` that have yet to remove their entry. -/
def due (w : IndWorld) : ℕ :=
  w.pending.toNat + if w.worker = .entered ∨ w.worker = .handled then 1 else 0

/-- The steps that the worker can make at most. -/
def rank (w : IndWorld) : ℕ :=
  4 * w.pending.toNat +
    match w.worker with
    | .idle => 0
    | .entered => 3
    | .handled => 2
    | .returning => 1

/-- The invariant of all runs: there is an entry for each execution to come, and it is an
indication. -/
structure Inv (w : IndWorld) : Prop where
  due_le : w.due ≤ w.hal_ind_queue.length
  indications : ∀ msg ∈ w.hal_ind_queue, ∃ ind : HalInd, msgType msg = ind.indType

end IndWorld

/-- The worker has an entry as long as it has not removed it. -/
theorem IndWorld.Inv.entry {w : IndWorld} (h : w.Inv)
    (hworker : w.worker = .entered ∨ w.worker = .handled) :
    ∃ msg rest, w.hal_ind_queue = msg :: rest := by
  have hle := h.due_le
  rw [IndWorld.due, if_pos hworker] at hle
  exact List.exists_cons_of_length_pos (by omega)

/-- Executions and entries go down together. -/
theorem indStep_due {w w' : IndWorld} {e : IndEvent} (hw : w.Inv) (h : IndStep w e w')
    (hwork : e.IsWork) :
    w'.due + w.hal_ind_queue.length = w.due + w'.hal_ind_queue.length := by
  cases h with
  | ignore | queue => exact hwork.elim
  | start hpending hworker => simp [IndWorld.due, hpending, hworker]
  | handle msg rest hworker hfirst => simp [IndWorld.due, hworker]
  | del hworker =>
    obtain ⟨msg, rest, hqueue⟩ := hw.entry (.inr hworker)
    simp only [IndWorld.due, hworker, hqueue, List.tail_cons, List.length_cons]
    simp
    omega
  | ret hworker => simp [IndWorld.due, hworker]

/-- Queueing an entry brings at most one execution, and exactly one when none is pending. -/
theorem due_queue (w : IndWorld) (queue : List (List Byte)) :
    IndWorld.due { w with hal_ind_queue := queue, pending := true } ≤ w.due + 1 ∧
      (w.pending = false →
        IndWorld.due { w with hal_ind_queue := queue, pending := true } = w.due + 1) := by
  constructor
  · simp only [IndWorld.due, Bool.toNat_true]
    omega
  · intro hpending
    simp only [IndWorld.due, hpending, Bool.toNat_true, Bool.toNat_false]
    omega

/-- Every step keeps the invariant. -/
theorem indStep_inv {w w' : IndWorld} {e : IndEvent} (hw : w.Inv) (h : IndStep w e w') :
    w'.Inv := by
  have hdue := hw.due_le
  have hwork := indStep_due hw h
  cases h with
  | ignore => exact hw
  | queue msg ind htype =>
    constructor
    · have hle := (due_queue w (w.hal_ind_queue ++ [msg])).1
      rw [List.length_append, List.length_singleton]
      omega
    · intro m hm
      rcases List.mem_append.mp hm with hm | hm
      · exact hw.indications m hm
      · exact ⟨ind, List.mem_singleton.mp hm ▸ htype⟩
  | start =>
    have := hwork trivial
    exact ⟨by omega, hw.indications⟩
  | handle =>
    have := hwork trivial
    exact ⟨by omega, hw.indications⟩
  | del =>
    have := hwork trivial
    exact ⟨by omega, fun m hm => hw.indications m (List.mem_of_mem_tail hm)⟩
  | ret =>
    have := hwork trivial
    exact ⟨by omega, hw.indications⟩

/-- As long as indications are queued only when `hal_ind_work` is not pending, there are as many
executions to come as entries. -/
theorem indStep_balanced {w w' : IndWorld} {e : IndEvent} (hw : w.Inv)
    (hbal : w.due = w.hal_ind_queue.length) (hcond : QueuedNotPending w e) (h : IndStep w e w') :
    w'.due = w'.hal_ind_queue.length := by
  have hwork := indStep_due hw h
  cases h with
  | ignore => exact hbal
  | queue msg ind htype hind =>
    have hpending : w.pending = false := hcond (by rw [hind]; rfl)
    have heq := (due_queue w (w.hal_ind_queue ++ [msg])).2 hpending
    rw [List.length_append, List.length_singleton]
    omega
  | start | handle | del | ret =>
    have := hwork trivial
    omega

/-- The workqueue's steps handle the entries in their order. -/
theorem indStep_calls {w w' : IndWorld} {e : IndEvent} (hw : w.Inv) (h : IndStep w e w')
    (hwork : e.IsWork) :
    w'.calls.map Prod.snd ++ w'.todo = w.calls.map Prod.snd ++ w.todo := by
  cases h with
  | ignore | queue => exact hwork.elim
  | start hpending hworker => simp [IndWorld.todo, hworker]
  | handle msg rest hworker hfirst =>
    obtain ⟨ind, htype⟩ := hw.indications msg (by rw [hfirst]; exact List.mem_cons_self)
    simp [IndWorld.todo, hworker, hfirst, indCall_indType htype]
  | del hworker => simp [IndWorld.todo, hworker]
  | ret hworker => simp [IndWorld.todo, hworker]

/-- The workqueue's steps come to an end. -/
theorem indStep_rank {w w' : IndWorld} {e : IndEvent} (h : IndStep w e w') (hwork : e.IsWork) :
    w'.rank < w.rank := by
  cases h with
  | ignore | queue => exact hwork.elim
  | start hpending hworker => simp [IndWorld.rank, hpending, hworker]
  | handle msg rest hworker => simp [IndWorld.rank, hworker]
  | del hworker => simp [IndWorld.rank, hworker]
  | ret hworker => simp [IndWorld.rank, hworker]

/-- Where the workqueue can do nothing, it has no execution to come. -/
theorem IndWorld.Inv.due_of_stuck {w : IndWorld} (hw : w.Inv)
    (hstuck : ∀ e : IndEvent, e.IsWork → indSystem.step w e = none) : w.due = 0 := by
  have hstart := hstuck .workStart trivial
  have hhandle := hstuck .workHandle trivial
  have hdel := hstuck .workDel trivial
  have hret := hstuck .workReturn trivial
  simp only [indSystem] at hstart hhandle hdel hret
  cases hworker : w.worker with
  | idle =>
    rw [hworker] at hstart
    have hpending : w.pending = false := by
      by_contra hne
      rw [if_pos ⟨Bool.not_eq_false _ ▸ hne, rfl⟩] at hstart
      cases hstart
    simp [IndWorld.due, hpending, hworker]
  | entered =>
    obtain ⟨msg, rest, hqueue⟩ := hw.entry (.inl hworker)
    rw [hworker, hqueue] at hhandle
    cases hhandle
  | handled =>
    rw [if_pos hworker] at hdel
    cases hdel
  | returning =>
    rw [if_pos hworker] at hret
    cases hret

/-! ## Whole runs -/

/-- The state after `wcn36xx_smd_open` has no entry and no execution. -/
theorem indInit_inv {w : IndWorld} (h : indSystem.init w) : w.Inv := by
  obtain rfl : w = {} := h
  exact ⟨Nat.le_refl 0, nofun⟩

/-- In every run in which indications are queued only when `hal_ind_work` is not pending, no entry is
stranded, and the worker handles all entries without a further message from the firmware. -/
theorem noneStranded_of_queuedNotPending {w : IndWorld}
    (h : indSystem.ReachableWhen QueuedNotPending w) : NoneStranded w ∧ WillHandleAll w := by
  obtain ⟨hw, hbal⟩ : w.Inv ∧ w.due = w.hal_ind_queue.length := by
    refine h.invariant (I := fun w => w.Inv ∧ w.due = w.hal_ind_queue.length) ?_ ?_
    · intro w hw
      refine ⟨indInit_inv hw, ?_⟩
      obtain rfl : w = {} := hw
      rfl
    · rintro s e s' ⟨hs, hbal⟩ hcond he
      have hstep := indStep_of_step he
      exact ⟨indStep_inv hs hstep, indStep_balanced hs hbal hcond hstep⟩
  constructor
  · intro hne
    by_contra hstranded
    obtain ⟨hpending, hworker⟩ := not_or.mp hstranded
    have hdue : w.due = 0 := by
      simp [IndWorld.due, not_not.mp hworker, Bool.not_eq_true _ ▸ hpending]
    exact hne (List.eq_nil_of_length_eq_zero (by omega))
  · refine ⟨w.rank, fun es w' hes hrun => ⟨?_, fun hstuck => ?_⟩⟩
    · have hrank : ∀ s e s', IndEvent.IsWork e → indSystem.step s e = some s' → s'.rank < s.rank :=
        fun s e s' hwork he => indStep_rank (indStep_of_step he) hwork
      have hle := System.length_add_rank_le hrank hes hrun
      omega
    · obtain ⟨hw', hbal', hcalls⟩ : w'.Inv ∧ w'.due = w'.hal_ind_queue.length ∧
          w'.calls.map Prod.snd ++ w'.todo = w.calls.map Prod.snd ++ w.todo := by
        refine System.runFrom_invariant (Q := IndEvent.IsWork) (I := fun v => v.Inv ∧
          v.due = v.hal_ind_queue.length ∧
          v.calls.map Prod.snd ++ v.todo = w.calls.map Prod.snd ++ w.todo) ?_ ⟨hw, hbal, rfl⟩
          hes hrun
        rintro s e s' ⟨hs, hbal, hcalls⟩ hwork he
        have hstep := indStep_of_step he
        have hdue := indStep_due hs hstep hwork
        exact ⟨indStep_inv hs hstep, by omega, (indStep_calls hs hstep hwork).trans hcalls⟩
      have hqueue : w'.hal_ind_queue = [] :=
        List.eq_nil_of_length_eq_zero (hbal'.symm.trans (hw'.due_of_stuck hstuck))
      refine ⟨hqueue, ?_⟩
      rw [← hcalls, IndWorld.todo, hqueue, List.tail_nil, ite_self, List.append_nil]

/-! ## The order of the indications -/

/-- What an event appends to `hal_ind_queue`. -/
def IndEvent.queued : IndEvent → List (List Byte)
  | .rspProcess msg ind_ok msg_ok => if isInd msg && ind_ok && msg_ok then [msg] else []
  | .workStart | .workHandle | .workDel | .workReturn => []

/-- The indications that have arrived in a run. -/
def arrivals (es : List IndEvent) : List (List Byte) := es.flatMap IndEvent.queued

/-- `wcn36xx_smd_rsp_process` appends what it queues to the entries that have not been handled, and calls no
handler. -/
theorem indStep_queued {w w' : IndWorld} {msg : List Byte} {ind_ok msg_ok : Bool}
    (h : indSystem.step w (.rspProcess msg ind_ok msg_ok) = some w') :
    w'.todo = w.todo ++ (IndEvent.rspProcess msg ind_ok msg_ok).queued ∧ w'.calls = w.calls := by
  simp only [indSystem] at h
  unfold IndEvent.queued
  split at h
  · rename_i ind hind
    have hisInd : isInd msg = true := by rw [isInd, hind]
    dsimp only
    rw [hisInd, Bool.true_and]
    split_ifs at h with hok hworker
    · cases h
      rw [if_pos hok]
      simp [IndWorld.todo, hworker]
    · cases h
      rw [if_neg hok, List.append_nil]
      exact ⟨rfl, rfl⟩
  · rename_i hind
    have hisInd : isInd msg = false := by
      unfold isInd
      split
      · rename_i ind heq
        exact absurd heq (hind ind)
      · rfl
    cases h
    dsimp only
    rw [hisInd, Bool.false_and, Bool.false_and, if_neg Bool.false_ne_true, List.append_nil]
    exact ⟨rfl, rfl⟩

/-- What has been handled and what has not are, in this order, what had not been handled and what has arrived
since. -/
theorem indRun_calls {w w' : IndWorld} {es : List IndEvent} (hw : w.Inv)
    (hrun : indSystem.runFrom w es = some w') :
    w'.calls.map Prod.snd ++ w'.todo = w.calls.map Prod.snd ++ w.todo ++ arrivals es := by
  induction es generalizing w with
  | nil =>
    rw [System.runFrom, Option.some.injEq] at hrun
    rw [hrun, arrivals, List.flatMap_nil, List.append_nil]
  | cons e es ih =>
    obtain ⟨v, hv, hrest⟩ := Option.bind_eq_some_iff.mp hrun
    have hstep := indStep_of_step hv
    have hone : v.calls.map Prod.snd ++ v.todo = w.calls.map Prod.snd ++ w.todo ++ e.queued := by
      cases e with
      | rspProcess msg ind_ok msg_ok =>
        obtain ⟨htodo, hcalls⟩ := indStep_queued hv
        rw [htodo, hcalls, List.append_assoc]
      | workStart | workHandle | workDel | workReturn =>
        rw [IndEvent.queued, List.append_nil]
        exact indStep_calls hw hstep trivial
    rw [ih (indStep_inv hw hstep) hrest, hone, arrivals, arrivals, List.flatMap_cons,
      List.append_assoc (_ ++ _)]

/-- The worker calls the handler of the message's type. -/
theorem indCall_type {msg : List Byte} {c : HalInd × List Byte} (hc : c ∈ indCall msg) :
    msgType c.2 = c.1.indType := by
  unfold indCall at hc
  split_ifs at hc with hcompl hbeacon hsta
  · obtain rfl := List.mem_singleton.mp hc
    exact hcompl
  · obtain rfl := List.mem_singleton.mp hc
    exact hbeacon
  · obtain rfl := List.mem_singleton.mp hc
    exact hsta
  · exact absurd hc List.not_mem_nil

/-- The calls of the handlers are of the types of their messages. -/
def CallsTyped (w : IndWorld) : Prop := ∀ c ∈ w.calls, msgType c.2 = c.1.indType

/-- Every step keeps the calls typed. -/
theorem indStep_callsTyped {w w' : IndWorld} {e : IndEvent} (hw : CallsTyped w)
    (h : IndStep w e w') : CallsTyped w' := by
  cases h with
  | ignore | queue | start | del | ret => exact hw
  | handle msg rest hworker hfirst =>
    intro c hc
    rcases List.mem_append.mp hc with hc | hc
    · exact hw c hc
    · exact indCall_type hc

/-- In every run after `wcn36xx_smd_open` the worker finds an entry when it takes the first one of the queue,
and the messages that it hands to their handlers are a prefix of those that have arrived: in their
order, none twice and none left out. -/
theorem indWorker_fifo {es : List IndEvent} {w : IndWorld}
    (hrun : indSystem.runFrom {} es = some w) :
    (w.worker = .entered → w.hal_ind_queue ≠ []) ∧ w.calls.map Prod.snd <+: arrivals es ∧
      CallsTyped w := by
  have hreach : indSystem.Reachable w := System.Reachable.runFrom (.init rfl) hrun
  have hw : w.Inv := hreach.invariant (fun _ => indInit_inv) fun _ _ _ hw he =>
    indStep_inv hw (indStep_of_step he)
  refine ⟨fun hworker => ?_, ⟨w.todo, ?_⟩, ?_⟩
  · obtain ⟨msg, rest, hqueue⟩ := hw.entry (.inl hworker)
    rw [hqueue]
    exact List.cons_ne_nil _ _
  · exact indRun_calls (indInit_inv rfl) hrun
  · refine hreach.invariant (I := CallsTyped) ?_ fun _ _ _ hc he =>
      indStep_callsTyped hc (indStep_of_step he)
    rintro w rfl
    exact nofun

/-! ## Two indications -/

/-- `WCN36XX_HAL_OTA_TX_COMPL_IND` with its status. -/
def txComplInd (status : BitVec 32) : List Byte :=
  (initHalMsg HalInd.OTA_TX_COMPL.indType 12).bytes ++ leBytes status

/-- Two indications of which the second comes when the worker has begun with the first. -/
theorem noneStranded_of_queuedNotPending_two_indications :
    ∃ w, indSystem.ReachableWhen QueuedNotPending w ∧ w.hal_ind_queue.length = 2 ∧
      NoneStranded w ∧ WillHandleAll w := by
  obtain ⟨w, hrun, hlen⟩ : ∃ w, indSystem.runWhen QueuedNotPending {}
      [.rspProcess (txComplInd 1) true true, .workStart, .rspProcess (txComplInd 0) true true] =
        some w ∧
      (fun w : IndWorld => decide (w.hal_ind_queue.length = 2)) w = true :=
    (Option.any_eq_true _ _).mp (by decide +kernel)
  have hw : indSystem.ReachableWhen QueuedNotPending w :=
    System.ReachableWhen.runWhen (.init rfl) hrun
  exact ⟨w, hw, of_decide_eq_true hlen, noneStranded_of_queuedNotPending hw⟩

/-- Of three indications the worker has handled two, and begins with the third. -/
theorem indWorker_fifo_three_indications :
    ∃ w, w.worker = .entered ∧ w.calls.length = 2 ∧ w.hal_ind_queue ≠ [] ∧
      w.calls.map Prod.snd <+: [txComplInd 1, txComplInd 0, txComplInd 1] ∧ CallsTyped w := by
  let work : List IndEvent := [.workHandle, .workDel, .workReturn]
  let es : List IndEvent := [.rspProcess (txComplInd 1) true true, .workStart,
    .rspProcess (txComplInd 0) true true] ++ work ++
      [.workStart, .rspProcess (txComplInd 1) true true] ++ work ++ [.workStart]
  obtain ⟨w, hrun, hw⟩ : ∃ w, indSystem.runFrom {} es = some w ∧
      (fun w : IndWorld => decide (w.worker = .entered ∧ w.calls.length = 2)) w = true :=
    (Option.any_eq_true _ _).mp (by decide +kernel)
  obtain ⟨hworker, hlen⟩ := of_decide_eq_true hw
  obtain ⟨hne, hfifo, htyped⟩ := indWorker_fifo hrun
  exact ⟨w, hworker, hlen, hne hworker, hfifo, htyped⟩

/-- Two indications come before the workqueue runs `hal_ind_work`: the one execution handles the first, and
nothing will handle the second. -/
theorem noneStranded_fails_on_burst :
    ∃ w, indSystem.Reachable w ∧ ¬NoneStranded w := by
  obtain ⟨w, hrun, hbad⟩ : ∃ w, indSystem.runFrom {}
      [.rspProcess (txComplInd 1) true true, .rspProcess (txComplInd 0) true true, .workStart,
        .workHandle, .workDel, .workReturn] = some w ∧
      (fun w : IndWorld =>
        decide (w.hal_ind_queue ≠ [] ∧ w.pending = false ∧ w.worker = .idle)) w = true :=
    (Option.any_eq_true _ _).mp (by decide +kernel)
  obtain ⟨hne, hpending, hworker⟩ := of_decide_eq_true hbad
  refine ⟨w, System.Reachable.runFrom (.init rfl) hrun, fun h => ?_⟩
  rcases h hne with htrue | hbusy
  · exact Bool.false_ne_true (hpending.symm.trans htrue)
  · exact hbusy hworker

end Wcn36xx
