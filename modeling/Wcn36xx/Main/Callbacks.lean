import Wcn36xx.Main.View
import Wcn36xx.Smd.Composed

/-!
# Callbacks use live objects

The firmware's messages, the indication worker and the interrupts use `hal_buf`, `vif_list`,
`dxe_lock` and the rings, and every request to the firmware takes `hal_mutex`. Four orders in the
source let them use an object that is not live. The channel is open before `wcn36xx_start` allocates
`hal_buf`, and on the way out of a failed start also after it is freed. `vif_list` and `dxe_lock` are
initialized last. `wcn36xx_dxe_init` does not look at the result of `wcn36xx_dxe_init_descs`. And
`wcn36xx_remove` destroys `hal_mutex` before `ieee80211_unregister_hw` stops the device.

`CallbackInTime` excludes what can go wrong there. In all other runs every object is live when it is
used (`uses_live_of_callbackInTime`): the scripts are checked step by step on views.
-/

namespace Wcn36xx

open Support (Call Checked Demand Instr System check)

/-! ## The condition -/

/-- The steps to come neither allocate `hal_buf` nor close the channel without freeing it first:
`wcn36xx_start` is past its `kmalloc`, and its way out not past the `kfree`. -/
def halBufInPlace (ops : List LifeOp) : Bool :=
  !ops.contains .kmallocHalBuf && (!ops.contains .ctrlClose || ops.contains .kfreeHalBuf)

/-- `wcn36xx_start` has returned 0 once, or the steps to come do not contain `init`, and neither do
they lead out of a failed start. -/
def pastInit (again : Bool) (init : LifeOp) (ops : List LifeOp) : Bool :=
  again || (!ops.contains .destroyWorkqueue && !ops.contains init)

/-- A response arrives while `hal_buf` is in place, an indication that uses `vif_list` or `dxe_lock` is
handled after the first start has initialized it, the TX interrupt arrives for a channel that has its
descriptors, and `wcn36xx_remove` is called when the device is stopped. -/
def CallbackInTime (w : LifeWorld) : LifeEvent → Prop
  | .run (.rspProcess msg _ _) => isRsp msg = true → halBufInPlace w.ops = true
  | .run .workHandle =>
    (.vifList ∈ indUses w.dev.old_fw (w.dev.ind.hal_ind_queue.headD []) →
      pastInit (0 < w.starts) .initVifList w.ops = true) ∧
    (.dxeLock ∈ indUses w.dev.old_fw (w.dev.ind.hal_ind_queue.headD []) →
      pastInit (0 < w.starts) .initDxeLock w.ops = true)
  | .run (.txIrq is_low) => (w.dev.tx.wcn.txCh is_low).cpu_addr ≠ none
  | .call .remove _ => w.started = false
  | _ => True

instance (w : LifeWorld) (e : LifeEvent) : Decidable (CallbackInTime w e) := by
  unfold CallbackInTime
  split <;> infer_instance

/-! ## What is checked at each step -/

/-- What a view must promise between two steps, given the steps to come: whatever can run then finds
its objects. -/
def viewOk (again : Bool) (ops : List LifeOp) (v : View) : Bool :=
  (!v.idle || !v.caps.smd_open) &&
  (!v.caps.smd_open || (v.caps.hal_ind_wq && v.caps.hal_ind_mutex)) &&
  (!v.caps.hal_ind_wq || v.caps.hal_ind_mutex || v.idle) &&
  (!(v.caps.smd_open && halBufInPlace ops) || v.hal_buf) &&
  (!(v.caps.hal_ind_wq && pastInit again .initVifList ops) || v.caps.vif_list) &&
  (!(v.caps.hal_ind_wq && pastInit again .initDxeLock ops) || v.caps.dxe_lock) &&
  (!v.caps.tx_irq || (v.ring.txL == .initialized && v.ring.txH == .initialized)) &&
  (!v.caps.rx_irq || (v.ring.rxL == .described && v.ring.rxH == .described)) &&
  match ops with
  | .smd _ :: _ => v.caps.hal_mutex && v.hal_buf
  | _ => true

/-- A stopped device. -/
def stoppedView (mutex again : Bool) : View where
  caps :=
    { hal_ind_wq := false, hal_ind_mutex := mutex, smd_open := false, tx_irq := false
      rx_irq := false, vif_list := again, dxe_lock := again, hal_mutex := true }
  idle := true
  hal_buf := false
  ring := ⟨.absent, .absent, .absent, .absent⟩

/-- A started device. -/
def startedView : View where
  caps :=
    { hal_ind_wq := true, hal_ind_mutex := true, smd_open := true, tx_irq := true
      rx_irq := true, vif_list := true, dxe_lock := true, hal_mutex := true }
  idle := false
  hal_buf := true
  ring := ⟨.initialized, .initialized, .described, .described⟩

/-- A device on which no callback can run. -/
def View.quiet (v : View) : Bool :=
  !v.caps.hal_ind_wq && !v.caps.smd_open && !v.caps.tx_irq && !v.caps.rx_irq && v.idle

/-- A view of a stopped device. -/
def View.stopped (again : Bool) (v : View) : Bool :=
  v.quiet && v.caps.vif_list == again && v.caps.dxe_lock == again && v.caps.hal_mutex

/-- What is demanded of a call: at each step, and of the device when it returns. -/
def callDemand (again : Bool) : LifeFn → Demand LifeOp View
  | .start => ⟨viewOk again, fun v => v == startedView, View.stopped again⟩
  | .stop => ⟨viewOk again, View.stopped again, fun _ => false⟩
  | .remove => ⟨viewOk again, View.quiet, fun _ => false⟩

/-- `wcn36xx_start` does its steps in order. -/
theorem check_start (mutex again : Bool) :
    check viewAbstraction (callDemand again .start) startScript (stoppedView mutex again) = true := by
  cases mutex <;> cases again <;> decide +kernel

/-- `wcn36xx_stop` does its steps in order. -/
theorem check_stop :
    check viewAbstraction (callDemand true .stop) (stopOps.map Instr.plain) startedView = true := by
  decide +kernel

/-- `wcn36xx_remove` of a stopped device does its steps in order. -/
theorem check_remove (mutex again : Bool) :
    check viewAbstraction (callDemand again .remove) ([LifeOp.destroyHalMutex].map Instr.plain)
      (stoppedView mutex again) = true := by
  cases mutex <;> cases again <;> decide +kernel

/-- What is known of a stopped device is known under the view of a stopped device. -/
theorem View.Has.stopped {v : View} {dev : Dev} {again : Bool} (h : v.Has dev)
    (hv : v.stopped again = true) : (stoppedView v.caps.hal_ind_mutex again).Has dev := by
  simp only [View.stopped, View.quiet, Bool.and_eq_true, Bool.not_eq_true', beq_iff_eq] at hv
  obtain ⟨⟨⟨⟨⟨⟨⟨hwq, hsmd⟩, htx⟩, hrx⟩, hidle⟩, hvif⟩, hlock⟩, hmutex⟩ := hv
  refine ⟨?_, fun _ => h.idle hidle, fun hb => Bool.noConfusion hb, fun c => ?_⟩
  · rw [h.caps, stoppedView, Caps.mk.injEq]
    exact ⟨hwq, rfl, hsmd, htx, hrx, hvif, hlock, hmutex⟩
  · cases c <;> trivial

/-! ## The invariant -/

/-- Where the driver is in its life, and what is known of the device there. -/
inductive LifeState (w : LifeWorld) : View → Prop
  | unprobed {v : View} : w.phase = .unprobed → w.running = none → w.started = false →
      w.starts = 0 → v.quiet = true → v.caps.vif_list = false → v.caps.dxe_lock = false →
      LifeState w v
  | stopped {v : View} : w.phase = .registered → w.running = none → w.started = false →
      v.stopped (0 < w.starts) = true → LifeState w v
  | started : w.phase = .registered → w.running = none → w.started = true → 0 < w.starts →
      LifeState w startedView
  | running {v : View} (r : Running) : w.phase = .registered → w.running = some r →
      w.started = false → (r.fn = .stop → 0 < w.starts) →
      Checked viewAbstraction (callDemand (0 < w.starts) r.fn) r.call v → LifeState w v
  | removed {v : View} : w.phase = .removed → w.running = none → w.started = false →
      v.quiet = true → LifeState w v

/-- The invariant: the objects used so far were live, and the device is what is known of it. -/
structure LifeInv (w : LifeWorld) : Prop where
  uses : ∀ u ∈ w.uses, u.2 = true
  state : ∃ v, v.Has w.dev ∧ LifeState w v

/-- On a quiet device nothing is demanded between calls. -/
theorem viewOk_quiet {v : View} (h : v.quiet = true) (again : Bool) : viewOk again [] v = true := by
  simp only [View.quiet, Bool.and_eq_true, Bool.not_eq_true'] at h
  obtain ⟨⟨⟨⟨hwq, hsmd⟩, htx⟩, hrx⟩, hidle⟩ := h
  simp [viewOk, hwq, hsmd, htx, hrx, hidle]

/-- Whatever can run finds its objects, in every state of a driver's life. -/
theorem LifeState.ok {w : LifeWorld} {v : View} (h : LifeState w v) :
    viewOk (0 < w.starts) w.ops v = true := by
  have hops : w.running = none → w.ops = [] := by
    intro hrun
    rw [LifeWorld.ops, hrun]
    rfl
  cases h with
  | unprobed _ hrun _ _ hquiet =>
    rw [hops hrun]
    exact viewOk_quiet hquiet _
  | stopped _ hrun _ hstopped =>
    rw [hops hrun]
    simp only [View.stopped, Bool.and_eq_true] at hstopped
    exact viewOk_quiet hstopped.1.1.1 _
  | started _ hrun _ hstarts =>
    rw [hops hrun, decide_eq_true hstarts]
    rfl
  | running r _ hrun _ _ hchecked =>
    have hok := hchecked.ok
    have hcall : w.ops = r.call.ops := by rw [LifeWorld.ops, hrun]; rfl
    rw [hcall]
    cases hfn : r.fn <;> rw [hfn] at hok <;> exact hok
  | removed _ hrun _ hquiet =>
    rw [hops hrun]
    exact viewOk_quiet hquiet _

/-- The parts of `viewOk`. -/
structure ViewOk (again : Bool) (ops : List LifeOp) (v : View) : Prop where
  idle : v.idle = true → v.caps.smd_open = false
  smd : v.caps.smd_open = true → v.caps.hal_ind_wq = true ∧ v.caps.hal_ind_mutex = true
  worker : v.caps.hal_ind_wq = true → v.caps.hal_ind_mutex = true ∨ v.idle = true
  hal_buf : v.caps.smd_open = true → halBufInPlace ops = true → v.hal_buf = true
  vif_list : v.caps.hal_ind_wq = true → pastInit again .initVifList ops = true →
    v.caps.vif_list = true
  dxe_lock : v.caps.hal_ind_wq = true → pastInit again .initDxeLock ops = true →
    v.caps.dxe_lock = true
  tx_irq : v.caps.tx_irq = true → ∀ is_low, v.ring.get (txType is_low) = .initialized
  rx_irq : v.caps.rx_irq = true → ∀ is_low, v.ring.get (rxType is_low) = .described
  smdOp : ∀ req rest, ops = .smd req :: rest → v.caps.hal_mutex = true ∧ v.hal_buf = true

/-- `viewOk` demands its parts. -/
theorem viewOk_spec {again : Bool} {ops : List LifeOp} {v : View} (h : viewOk again ops v = true) :
    ViewOk again ops v := by
  simp only [viewOk, Bool.and_eq_true] at h
  obtain ⟨⟨⟨⟨⟨⟨⟨⟨hidle, hsmd⟩, hworker⟩, hbuf⟩, hvif⟩, hlock⟩, htx⟩, hrx⟩, hop⟩ := h
  refine ⟨fun hi => ?_, fun hs => ?_, fun hw => ?_, fun hs hb => ?_, fun hw hp => ?_,
    fun hw hp => ?_, fun ht is_low => ?_, fun hr is_low => ?_, fun req rest heq => ?_⟩
  · rw [hi] at hidle
    simpa using hidle
  · rw [hs] at hsmd
    simpa using hsmd
  · rw [hw] at hworker
    simpa using hworker
  · rw [hs, hb] at hbuf
    simpa using hbuf
  · rw [hw, hp] at hvif
    simpa using hvif
  · rw [hw, hp] at hlock
    simpa using hlock
  · rw [ht] at htx
    simp only [Bool.not_true, Bool.false_or, Bool.and_eq_true, beq_iff_eq] at htx
    cases is_low
    · exact htx.2
    · exact htx.1
  · rw [hr] at hrx
    simp only [Bool.not_true, Bool.false_or, Bool.and_eq_true, beq_iff_eq] at hrx
    cases is_low
    · exact hrx.2
    · exact hrx.1
  · subst heq
    simpa using hop

/-! ## The uses -/

/-- The handlers of indications use `dxe_lock` or `vif_list`. -/
theorem mem_indUses {old_fw : Bool} {msg : List Byte} {o : Obj} (h : o ∈ indUses old_fw msg) :
    o = .dxeLock ∨ o = .vifList := by
  unfold indUses at h
  split_ifs at h
  · exact Or.inl (List.mem_singleton.mp h)
  · cases h
  · exact Or.inr (List.mem_singleton.mp h)
  · cases h
  · exact Or.inr (List.mem_singleton.mp h)
  · cases h
  · cases h

/-- What an event between two steps uses is live. -/
theorem RunEvent.uses_live {w : LifeWorld} {v : View} {e : RunEvent} {dev' : Dev} (h : v.Has w.dev)
    (hok : ViewOk (0 < w.starts) w.ops v) (hcan : w.canRun e = true)
    (htime : CallbackInTime w (.run e)) (hrun : e.effect w.dev = some dev') :
    ∀ o ∈ e.uses w.dev, w.dev.live o = true := by
  -- The worker only makes these steps when it is not idle, and then its mutex is initialized.
  have hmutex : w.dev.hal_ind_wq = true → w.dev.ind.worker ≠ .idle → w.dev.hal_ind_mutex = true := by
    intro hwq hworker
    rcases hok.worker ((congrArg Caps.hal_ind_wq h.caps).symm.trans hwq) with hm | hidle
    · exact (congrArg Caps.hal_ind_mutex h.caps).trans hm
    · exact absurd (h.idle hidle).2 hworker
  cases e with
  | tx _ _ | config _ | dma _ | rxDma _ _ | workStart | workReturn =>
    intro o ho
    cases ho
  | txIrq is_low =>
    intro o ho
    rw [List.mem_singleton.mp ho]
    have hring := h.ring (txType is_low)
    rw [hok.tx_irq ((congrArg Caps.tx_irq h.caps).symm.trans hcan) is_low] at hring
    obtain ⟨base, hring, hdesc⟩ := hring
    rw [Dev.ch_txType] at hring hdesc
    have hdesc := hdesc.resolve_right fun hnone => htime hnone.1
    rw [Dev.live, Dev.ch_txType]
    exact hring.live hdesc
  | rxIrq is_low allocs =>
    intro o ho
    rw [List.mem_singleton.mp ho]
    have hring := h.ring (rxType is_low)
    rw [hok.rx_irq ((congrArg Caps.rx_irq h.caps).symm.trans hcan) is_low] at hring
    obtain ⟨base, hring, hdesc⟩ := hring
    exact hring.live hdesc
  | rspProcess msg ind_ok msg_ok =>
    intro o ho
    have hopen : v.caps.smd_open = true := (congrArg Caps.smd_open h.caps).symm.trans hcan
    simp only [RunEvent.uses] at ho
    split at ho
    · rename_i hrsp
      rw [List.mem_singleton.mp ho]
      refine h.hal_buf (hok.hal_buf hopen (htime ?_))
      rw [isRsp, hrsp]
    · obtain ⟨hwq, hm⟩ := hok.smd hopen
      split_ifs at ho
      · rcases List.mem_cons.mp ho with rfl | ho
        · exact (congrArg Caps.hal_ind_mutex h.caps).trans hm
        · rw [List.mem_singleton.mp ho]
          exact (congrArg Caps.hal_ind_wq h.caps).trans hwq
      · cases ho
    · cases ho
  | workHandle =>
    intro o ho
    have hwq : v.caps.hal_ind_wq = true := (congrArg Caps.hal_ind_wq h.caps).symm.trans hcan
    rcases List.mem_cons.mp ho with rfl | ho
    · refine hmutex hcan fun hidle => ?_
      obtain ⟨d, hd, -⟩ := Option.map_eq_some_iff.mp hrun
      obtain ⟨ind, hstep, -⟩ := Option.map_eq_some_iff.mp hd
      cases indStep_of_step hstep with
      | handle msg rest hw _ =>
        rw [hidle] at hw
        cases hw
    · rcases mem_indUses ho with rfl | rfl
      · exact (congrArg Caps.dxe_lock h.caps).trans (hok.dxe_lock hwq (htime.2 ho))
      · exact (congrArg Caps.vif_list h.caps).trans (hok.vif_list hwq (htime.1 ho))
  | workDel =>
    intro o ho
    rw [List.mem_singleton.mp ho]
    refine hmutex hcan fun hidle => ?_
    obtain ⟨ind, hstep, -⟩ := Option.map_eq_some_iff.mp hrun
    cases indStep_of_step hstep with
    | del hw =>
      rw [hidle] at hw
      cases hw

/-- What a step of a call uses is live. -/
theorem Running.uses_live {r : Running} {v : View} {dev : Dev} {again : Bool} (h : v.Has dev)
    (hok : ViewOk again r.call.ops v) : ∀ o ∈ r.uses dev, dev.live o = true := by
  intro o ho
  unfold Running.uses at ho
  split at ho
  · cases ho
  · rename_i i rest hrest
    have hops : r.call.ops = i.op :: rest.map Instr.op := by rw [Call.ops, hrest, List.map_cons]
    cases hop : i.op with
    | smd req =>
      rw [hop] at ho hops
      obtain ⟨hmutex, hbuf⟩ := hok.smdOp req _ hops
      have hlive : ∀ o ∈ [Obj.halMutex, Obj.halBuf], dev.live o = true := by
        intro o ho
        rcases List.mem_cons.mp ho with rfl | ho
        · exact (congrArg Caps.hal_mutex h.caps).trans hmutex
        · rw [List.mem_singleton.mp ho]
          exact h.hal_buf hbuf
      cases req with
      | featureCapsExchange =>
        unfold LifeOp.uses at ho
        split_ifs at ho
        · cases ho
        · exact hlive o ho
      | loadNv | start | updateCfg | stop => exact hlive o ho
    | _ =>
      rw [hop] at ho
      cases ho

/-- Noting the use of live objects. -/
theorem uses_append {w : LifeWorld} {os : List Obj} (h : ∀ u ∈ w.uses, u.2 = true)
    (hlive : ∀ o ∈ os, w.dev.live o = true) : ∀ u ∈ (w.use os).uses, u.2 = true := by
  intro u hu
  rcases List.mem_append.mp hu with hu | hu
  · exact h u hu
  · obtain ⟨o, ho, rfl⟩ := List.mem_map.mp hu
    exact hlive o ho

/-! ## The runs -/

/-- Where the driver is in its life does not depend on the device. -/
theorem LifeState.congr {w w' : LifeWorld} {v : View} (h : LifeState w v) (hphase : w'.phase = w.phase)
    (hrunning : w'.running = w.running) (hstarted : w'.started = w.started)
    (hstarts : w'.starts = w.starts) : LifeState w' v := by
  cases h with
  | unprobed h₁ h₂ h₃ h₄ h₅ h₆ h₇ =>
    exact .unprobed (hphase.trans h₁) (hrunning.trans h₂) (hstarted.trans h₃) (hstarts.trans h₄) h₅ h₆ h₇
  | stopped h₁ h₂ h₃ h₄ =>
    refine .stopped (hphase.trans h₁) (hrunning.trans h₂) (hstarted.trans h₃) ?_
    rw [hstarts]
    exact h₄
  | started h₁ h₂ h₃ h₄ =>
    exact .started (hphase.trans h₁) (hrunning.trans h₂) (hstarted.trans h₃) (hstarts ▸ h₄)
  | running r h₁ h₂ h₃ h₄ h₅ =>
    refine .running r (hphase.trans h₁) (hrunning.trans h₂) (hstarted.trans h₃) ?_ ?_
    · rw [hstarts]
      exact h₄
    · rw [hstarts]
      exact h₅
  | removed h₁ h₂ h₃ h₄ => exact .removed (hphase.trans h₁) (hrunning.trans h₂) (hstarted.trans h₃) h₄

/-- Before `wcn36xx_probe` nothing runs. -/
theorem lifeInv_init : LifeInv {} where
  uses _ hu := by cases hu
  state := by
    refine ⟨{ stoppedView false false with
      caps := { (stoppedView false false).caps with hal_mutex := false } }, ?_, ?_⟩
    · refine ⟨rfl, fun _ => ⟨rfl, rfl⟩, fun hb => Bool.noConfusion hb, fun c => ?_⟩
      cases c <;> trivial
    · exact .unprobed rfl rfl rfl rfl rfl rfl rfl

/-- `wcn36xx_probe` initializes `hal_mutex`. -/
theorem LifeInv.probe {w : LifeWorld} (h : LifeInv w) (hphase : w.phase = .unprobed) :
    LifeInv { w with phase := .registered, dev := { w.dev with hal_mutex := true } } where
  uses := h.uses
  state := by
    obtain ⟨v, hv, hstate⟩ := h.state
    have hne : ∀ {p : DriverPhase}, p ≠ .unprobed → w.phase ≠ p := fun hp heq => hp (heq ▸ hphase)
    cases hstate with
    | unprobed _ hrun hstarted hstarts hquiet hvif hlock =>
      refine ⟨{ v with caps := { v.caps with hal_mutex := true } }, ?_, ?_⟩
      · exact hv.setCaps (fun cs => { cs with hal_mutex := true }) rfl hv.idle rfl
          fun c => by cases c <;> rfl
      · refine .stopped rfl hrun hstarted ?_
        have hsame : View.stopped (0 < w.starts) { v with caps := { v.caps with hal_mutex := true } } =
            (v.quiet && v.caps.vif_list == decide (0 < w.starts) &&
              v.caps.dxe_lock == decide (0 < w.starts) && true) := rfl
        rw [hsame, hquiet, hvif, hlock, hstarts]
        rfl
    | stopped h₁ | started h₁ | running _ h₁ | removed h₁ => exact absurd h₁ (hne (by decide))

/-- A call begins with everything in order for its first step. -/
theorem LifeInv.call {w : LifeWorld} (h : LifeInv w) {fn : LifeFn} (env : CallEnv)
    (hcan : w.canCall fn = true) (htime : fn = .remove → w.started = false) :
    LifeInv { w with running := some ⟨fn, env, ⟨w.script fn, 0⟩⟩, started := false } where
  uses := h.uses
  state := by
    obtain ⟨v, hv, hstate⟩ := h.state
    have hphase : w.phase = .registered ∧ w.running = none := by
      cases fn <;>
      simp only [LifeWorld.canCall, Bool.and_eq_true, beq_iff_eq, Option.isNone_iff_eq_none] at hcan
      · exact hcan.1
      · exact hcan.1
      · exact hcan
    -- Whether the driver is started decides which functions can be called.
    have hstopped : w.started = false → fn = .start ∨ fn = .remove := by
      intro hs
      cases fn with
      | start => exact Or.inl rfl
      | stop => simp [LifeWorld.canCall, hs] at hcan
      | remove => exact Or.inr rfl
    have hstop : w.started = true → fn = .stop := by
      intro hs
      cases fn with
      | start => simp [LifeWorld.canCall, hs] at hcan
      | stop => rfl
      | remove => rw [htime rfl] at hs; cases hs
    cases hstate with
    | unprobed h₁ | removed h₁ =>
      rw [h₁] at hphase
      cases hphase.1
    | running r _ h₂ =>
      rw [h₂] at hphase
      cases hphase.2
    | stopped h₁ _ h₃ h₄ =>
      refine ⟨_, hv.stopped h₄, .running ⟨fn, env, ⟨w.script fn, 0⟩⟩ h₁ rfl rfl ?_ (.main ?_)⟩
      · rintro rfl
        rcases hstopped h₃ with heq | heq <;> cases heq
      · rcases hstopped h₃ with rfl | rfl
        · exact check_start _ _
        · have hscript : w.script .remove = [LifeOp.destroyHalMutex].map Instr.plain := by
            rw [LifeWorld.script, h₃]
            rfl
          rw [hscript]
          exact check_remove _ _
    | started h₁ _ h₃ h₄ =>
      obtain rfl := hstop h₃
      refine ⟨_, hv, .running ⟨.stop, env, ⟨w.script .stop, 0⟩⟩ h₁ rfl rfl (fun _ => h₄) (.main ?_)⟩
      rw [decide_eq_true h₄]
      exact check_stop

/-- While a call is in progress, it has passed its check from where it is. -/
theorem LifeState.checked {w : LifeWorld} {v : View} (h : LifeState w v) {r : Running}
    (hr : w.running = some r) : w.phase = .registered ∧ w.started = false ∧
      (r.fn = .stop → 0 < w.starts) ∧
      Checked viewAbstraction (callDemand (0 < w.starts) r.fn) r.call v := by
  have hne : w.running ≠ none := by
    rw [hr]
    exact Option.some_ne_none r
  cases h with
  | unprobed _ h₂ | stopped _ h₂ | started _ h₂ | removed _ h₂ => exact absurd h₂ hne
  | running r' h₁ h₂ h₃ h₄ hchecked =>
    rw [hr, Option.some.injEq] at h₂
    subst h₂
    exact ⟨h₁, h₃, h₄, hchecked⟩

/-- The next step of a call. -/
theorem LifeInv.op {n : RingSizes} {w : LifeWorld} (h : LifeInv w) {r : Running}
    (hr : w.running = some r) {call : Call LifeOp} {dev : Dev}
    (hstep : r.call.step (exec n r.env) w.dev = some (call, dev)) :
    LifeInv { w.use (r.uses w.dev) with dev := dev, running := some { r with call := call } } := by
  obtain ⟨v, hv, hstate⟩ := h.state
  have hok := viewOk_spec hstate.ok
  rw [show w.ops = r.call.ops by rw [LifeWorld.ops, hr]; rfl] at hok
  refine ⟨uses_append h.uses (Running.uses_live hv hok), ?_⟩
  obtain ⟨hphase, hstarted, hstop, hchecked⟩ := hstate.checked hr
  obtain ⟨v', hchecked', hv'⟩ := hchecked.step (execView_sound n r.env) hv hstep
  exact ⟨v', hv', .running _ hphase rfl hstarted hstop hchecked'⟩

/-- A call returns. -/
theorem LifeInv.ret {w : LifeWorld} (h : LifeInv w) {r : Running} (hr : w.running = some r)
    (hrest : r.call.rest = []) : LifeInv (w.finish r) := by
  obtain ⟨v, hv, hstate⟩ := h.state
  obtain ⟨hphase, hstarted, -, hchecked⟩ := hstate.checked hr
  obtain ⟨fn, env, rest, ret⟩ := r
  obtain rfl : rest = [] := hrest
  by_cases hret : ret = 0
  · subst hret
    have hdone := hchecked.done
    cases fn with
    | start =>
      obtain rfl : v = startedView := beq_iff_eq.mp hdone
      exact ⟨h.uses, _, hv, .started hphase rfl rfl (Nat.succ_pos _)⟩
    | stop => exact ⟨h.uses, _, hv, .stopped hphase rfl hstarted hdone⟩
    | remove => exact ⟨h.uses, _, hv, .removed rfl rfl hstarted hdone⟩
  · have hfailed := hchecked.failed hret
    cases fn with
    | start =>
      rw [LifeWorld.finish, if_neg hret]
      exact ⟨h.uses, _, hv, .stopped hphase rfl hstarted hfailed⟩
    | stop | remove => cases hfailed

/-- A step that meets the condition keeps the invariant. -/
theorem lifeInv_step (n : RingSizes) (w : LifeWorld) (e : LifeEvent) (w' : LifeWorld) (h : LifeInv w)
    (htime : CallbackInTime w e) (hstep : (lifeSystem n).step w e = some w') : LifeInv w' := by
  cases lifeStep_of_step hstep with
  | probe hphase => exact h.probe hphase
  | call fn env hcan =>
    refine h.call env hcan ?_
    rintro rfl
    exact htime
  | op r call dev hr hcall => exact h.op hr hcall
  | ret r hr hrest => exact h.ret hr hrest
  | run e dev hcan heffect =>
    obtain ⟨v, hv, hstate⟩ := h.state
    have hok := viewOk_spec hstate.ok
    refine ⟨uses_append h.uses (RunEvent.uses_live hv hok hcan htime heffect), v, ?_, ?_⟩
    · refine hv.run hok.idle ?_ heffect
      rintro msg ind_ok msg_ok rfl
      exact hcan
    · exact hstate.congr rfl rfl rfl rfl

/-- In the runs whose steps all meet `CallbackInTime`, every object that a callback or a request to the
firmware uses is live when it is used. -/
theorem uses_live_of_callbackInTime (n : RingSizes) {w : LifeWorld}
    (h : (lifeSystem n).ReachableWhen CallbackInTime w) : ∀ u ∈ w.uses, u.2 = true :=
  (h.invariant (fun s hs => by
    obtain rfl : s = {} := hs
    exact lifeInv_init) (lifeInv_step n)).uses

/-- With rings of two descriptors: a start that fails for want of memory, a start, a response to it, an
indication and both interrupts, a stop and the removal. -/
theorem uses_live_of_callbackInTime_two_starts :
    ∃ n w, (lifeSystem n).ReachableWhen CallbackInTime w ∧ w.uses.length = 18 ∧
      w.phase = .removed ∧ ∀ u ∈ w.uses, u.2 = true := by
  let n : RingSizes := ⟨fun _ => 2, fun _ => Nat.le_refl 2⟩
  obtain ⟨w, hrun, hw⟩ : ∃ w, (lifeSystem n).runWhen CallbackInTime {}
      (List.flatten [
        [.probe, .call .start { mem_pool := fun _ => none }], List.replicate 9 .op,
        [.ret, .call .start {}], List.replicate 15 .op,
        [.run (.rspProcess (statusRsp .START 0) true true)], List.replicate 20 .op,
        [.ret, .run (.rspProcess (txComplInd 1) true true), .run .workStart, .run .workHandle,
          .run .workDel, .run .workReturn, .run (.txIrq true), .run (.rxIrq false []),
          .call .stop {}], List.replicate 16 .op, [.ret, .call .remove {}, .op, .ret]]) =
        some w ∧
      (fun w : LifeWorld => decide (w.uses.length = 18 ∧ w.phase = .removed)) w = true :=
    (Option.any_eq_true _ _).mp (by decide +kernel)
  have hreach : (lifeSystem n).ReachableWhen CallbackInTime w :=
    System.ReachableWhen.runWhen (.init rfl) hrun
  obtain ⟨hlen, hphase⟩ := of_decide_eq_true hw
  exact ⟨n, w, hreach, hlen, hphase, uses_live_of_callbackInTime n hreach⟩

/-- The download of the NV file times out, `wcn36xx_start` frees `hal_buf`, and before it closes the channel
the response comes. -/
theorem uses_live_fails_on_late_response :
    ∃ w, (lifeSystem driverSizes).Reachable w ∧ ¬∀ u ∈ w.uses, u.2 = true := by
  obtain ⟨w, hrun, hbad⟩ : ∃ w, (lifeSystem driverSizes).runFrom {}
      (List.flatten [
        [.probe, .call .start { smd := fun _ => -ETIME }], List.replicate 17 .op,
        [.run (.rspProcess (statusRsp .DOWNLOAD_NV 0) true true)]]) = some w ∧
      (fun w : LifeWorld => w.uses.any fun u => !u.2) w = true :=
    (Option.any_eq_true _ _).mp (by decide +kernel)
  refine ⟨w, System.Reachable.runFrom (.init rfl) hrun, fun hlive => ?_⟩
  obtain ⟨u, hu, hdead⟩ := List.any_eq_true.mp hbad
  rw [hlive u hu] at hdead
  cases hdead

end Wcn36xx
