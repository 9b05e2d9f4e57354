import Wcn36xx.Dxe.ReapWalk
import Wcn36xx.Dxe.Stores
import Wcn36xx.Txrx.BdIntegrity

/-!
# Publication of descriptors

A call of `wcn36xx_dxe_tx_frame` under way, store by store. Between any two of its stores the DMA engine may
consume descriptors, and the TX interrupt may run `reap_tx_dxes`, which takes a cleared VALID bit for a
frame that is done.

`publishSafe_of_notInWindow` is about all these runs. The interrupt takes a frame too early when the ring
is empty, the device has already consumed the frame's BD, and the pointer to the frame is stored but its
descriptor is not VALID yet. In every other state it takes completed frames only.
-/

namespace Wcn36xx

open Support (System)

/-! ## Runs -/

/-- What has become of the frame of a descriptor. -/
inductive FrameStage where
  /-- The pointer to the frame is stored in the block. -/
  | stored
  /-- The descriptor has been marked VALID for it. -/
  | marked
  /-- The device has completed the descriptor after that. -/
  | completed
  deriving DecidableEq

/-- The driver with a call of `wcn36xx_dxe_tx_frame` under way on each channel, or none. -/
structure PubWorld where
  wcn : Wcn
  /-- The descriptor that each channel's DMA engine is at. -/
  cursor : Bool → ℕ := fun _ => 0
  /-- The device works on the channel. -/
  enabled : Bool → Bool := fun _ => false
  call : Bool → Option TxFrameCall := fun _ => none
  /-- The stage of the frame of each descriptor. -/
  stage : Bool → ℕ → FrameStage := fun _ _ => .stored
  /-- The frames that `reap_tx_dxes` has released, or taken out of their blocks, too early. -/
  early : List SkBuff := []
  /-- The frames being enqueued that the tail has passed too early. -/
  passed : List SkBuff := []

/-- The steps of the driver and the device. -/
inductive PubEvent where
  /-- `wcn36xx_dxe_tx_frame` is called. -/
  | begin (is_low : Bool) (vif_priv : Option WcnVif) (skb : SkBuff)
  /-- The call on a channel makes its next store. -/
  | store (is_low : Bool)
  /-- The DMA engine consumes the descriptor that it is at. -/
  | dma (is_low : Bool)
  /-- The device stops working on the channel until it is told of a frame again. -/
  | idle (is_low : Bool)
  /-- The TX interrupt runs `reap_tx_dxes`. -/
  | reap (is_low : Bool)

/-- The stages after a store of a call, which is `call` then. -/
def stageAfterStore (stage : ℕ → FrameStage) (store : TxStore) (call : TxFrameCall) :
    ℕ → FrameStage :=
  match store with
  | .skbPtr => Function.update stage call.desc .stored
  | .skbCtrl => Function.update stage call.desc .marked
  | _ => stage

/-- The stages after the device has completed a descriptor. -/
def stageAfterDma (stage : ℕ → FrameStage) (i : ℕ) : ℕ → FrameStage :=
  if stage i = .marked then Function.update stage i .completed else stage

/-- The frames that are no longer in their blocks, and those that have been freed, without a completed
descriptor. -/
def takenEarly (stage : ℕ → FrameStage) (ch ch' : DxeCh) (es : List Effect) : List SkBuff :=
  ((List.range ch.desc_num).filterMap fun k =>
    if stage k = .completed ∨ ch'.slotSkb k = ch.slotSkb k then none else ch.slotSkb k) ++
  es.filterMap fun
    | .freeTxskb skb =>
      if (List.range ch.desc_num).any fun k =>
        decide (stage k = .completed ∧ ch.slotSkb k = some skb) then none else some skb
    | _ => none

/-- The blocks from `p` on to the one before `q`, at most `fuel` of them. -/
def DxeCh.stretch (ch : DxeCh) : (fuel : ℕ) → (p q : ℕ) → List ℕ
  | 0, _, _ => []
  | fuel + 1, p, q =>
    if p = q then []
    else p :: (((ch.nextOf p).join.map fun p' => stretch ch fuel p' q).getD [])

/-- Descriptors of the frame are VALID for the device, and the head is not behind them yet. -/
def TxStore.published : TxStore → Bool
  | skbPtr | skbSrc | skbDst | skbLen | skbCtrl | head => true
  | _ => false

/-- The pointer to the frame is stored, and the frame's descriptor is not VALID yet. -/
def TxStore.halfway : TxStore → Bool
  | skbSrc | skbDst | skbLen | skbCtrl => true
  | _ => false

/-- The skb block of a call. -/
def TxFrameCall.skbBlk (call : TxFrameCall) (ch : DxeCh) : Option ℕ :=
  if call.store.atBd then (ch.nextOf call.ctl).join else some call.ctl

/-- The frame being enqueued, if the tail has moved over its block and its descriptor is not completed. -/
def passedEarly (stage : ℕ → FrameStage) (call : Option TxFrameCall) (ch ch' : DxeCh) :
    List SkBuff :=
  (call.bind fun call => do
    let blk ← call.skbBlk ch
    let c ← ch.ctl blk
    let i ← c.desc
    let tail ← ch.tail_blk_ctl
    let tail' ← ch'.tail_blk_ctl
    if call.store.published ∧ blk ∈ ch.stretch ch.desc_num tail tail' ∧ stage i ≠ .completed then
      some call.skb
    else none).toList

/-- The transition system of the stores. -/
def pubSystem (p : TxParams) : System PubWorld PubEvent where
  init w :=
    (∀ is_low, txChSetup is_low (p.desc_num is_low) (p.coherent is_low) (p.pool is_low) =
      some (w.wcn.txCh is_low)) ∧
    w.cursor = (fun _ => 0) ∧ w.call = (fun _ => none) ∧ w.early = [] ∧ w.passed = []
  step w
    | .begin is_low vif_priv skb =>
      if (w.call is_low).isSome then none
      else do
        let (wcn, r) ← txFrameBegin w.wcn vif_priv skb is_low
        match r with
        | .inl _ => return { w with wcn := wcn }
        | .inr call => return { w with
            wcn := wcn, call := Function.update w.call is_low (some call) }
    | .store is_low => do
      let call ← w.call is_low
      let (wcn, r) ← txFrameStore w.wcn is_low call
      match r with
      | .inl _ => return { w with
          wcn := wcn, call := Function.update w.call is_low none
          enabled := Function.update w.enabled is_low
            (w.enabled is_low || decide (call.store = .kick)) }
      | .inr call' => return { w with
          wcn := wcn, call := Function.update w.call is_low (some call')
          stage := Function.update w.stage is_low
            (stageAfterStore (w.stage is_low) call.store call') }
    | .dma is_low =>
      let ch := w.wcn.txCh is_low
      let i := w.cursor is_low
      if w.enabled is_low && (ch.dxe i).valid then
        some { w with
          wcn := dmaComplete w.wcn is_low i
          cursor := Function.update w.cursor is_low ((i + 1) % ch.desc_num)
          stage := Function.update w.stage is_low (stageAfterDma (w.stage is_low) i) }
      else none
    | .idle is_low => some { w with enabled := Function.update w.enabled is_low false }
    | .reap is_low => do
      let wcn ← reapTxDxes w.wcn is_low
      return { w with
        wcn := wcn
        early := w.early ++ takenEarly (w.stage is_low) (w.wcn.txCh is_low) (wcn.txCh is_low)
          (wcn.log.drop w.wcn.log.length)
        passed := w.passed ++ passedEarly (w.stage is_low) (w.call is_low) (w.wcn.txCh is_low)
          (wcn.txCh is_low) }

/-- No frame is released, or taken out of its block, before its descriptor has been marked VALID and then
completed, and the tail passes no frame being enqueued. -/
structure PublishSafe (w : PubWorld) : Prop where
  early : w.early = []
  passed : w.passed = []

/-- `reap_tx_dxes` does not run on a channel with an empty ring while the pointer to a frame is stored,
its descriptor is not VALID yet, and the descriptor of its BD is not VALID any more. -/
def NotInWindow (w : PubWorld) : PubEvent → Prop
  | .reap is_low => ¬(((w.call is_low).any fun call => call.store.halfway) = true ∧
      (w.wcn.txCh is_low).tail_blk_ctl = (w.wcn.txCh is_low).head_blk_ctl ∧
      (w.wcn.txCh is_low).headValid = false)
  | _ => True

instance : ∀ w e, Decidable (NotInWindow w e)
  | w, .reap is_low => inferInstanceAs (Decidable (¬(((w.call is_low).any fun call =>
      call.store.halfway) = true ∧ (w.wcn.txCh is_low).tail_blk_ctl =
        (w.wcn.txCh is_low).head_blk_ctl ∧ (w.wcn.txCh is_low).headValid = false)))
  | _, .begin .. | _, .store _ | _, .dma _ | _, .idle _ => isTrue trivial

/-! ## One channel -/

/-- The blocks of a stretch of less than one lap. -/
theorem RingReady.mem_stretch {ch : DxeCh} (h : RingReady ch) {fuel p m b : ℕ} (hm : m ≤ ch.desc_num)
    (hb : b ∈ ch.stretch fuel (ch.blk p) (ch.blk (p + m))) :
    ∃ j < m, m < ch.desc_num ∧ b = ch.blk (p + j) := by
  induction fuel generalizing p m with
  | zero => exact absurd hb List.not_mem_nil
  | succ fuel ih =>
    rw [DxeCh.stretch] at hb
    split_ifs at hb with heq
    · exact absurd hb List.not_mem_nil
    · have hpos : 0 < m := by
        by_contra hzero
        exact heq (by rw [Nat.eq_zero_of_not_pos hzero, Nat.add_zero])
      have hlt : m < ch.desc_num := by
        refine lt_of_le_of_ne hm fun hlap => heq ?_
        rw [hlap, DxeCh.blk_add]
      rw [h.nextOf, Option.join_some, Option.map_some, Option.getD_some] at hb
      rcases List.mem_cons.mp hb with rfl | hb
      · exact ⟨0, hpos, hlt, rfl⟩
      · rw [show p + m = p + 1 + (m - 1) by omega] at hb
        obtain ⟨j, hj, -, rfl⟩ := ih (by omega) hb
        exact ⟨j + 1, by omega, hlt, by rw [show p + 1 + j = p + (j + 1) by omega]⟩

/-- Only frames that are reaped are freed. -/
theorem mem_of_freeTxskb {stopped : Bool} {fs : List (BitVec 32 × SkBuff)} {skb : SkBuff}
    (h : Effect.freeTxskb skb ∈ reapEffects stopped fs) : skb ∈ fs.map Prod.snd := by
  induction fs generalizing stopped with
  | nil => exact absurd h List.not_mem_nil
  | cons f fs ih =>
    obtain ⟨addr, skb'⟩ := f
    rw [reapEffects] at h
    rcases List.mem_append.mp h with h | h
    · rcases List.mem_append.mp h with h | h
      · rcases List.mem_append.mp h with h | h
        · simp only [List.mem_cons, reduceCtorEq, List.not_mem_nil, or_self] at h
        · split_ifs at h
          · exact absurd h List.not_mem_nil
          · rw [List.mem_singleton, Effect.freeTxskb.injEq] at h
            rw [h]
            exact List.mem_cons_self
      · split_ifs at h
        · rw [List.mem_singleton] at h
          cases h
        · exact absurd h List.not_mem_nil
    · exact List.mem_cons_of_mem _ (ih h)

/-- How many descriptors of the frame are VALID, or have been, while the head is still before them. -/
def TxStore.marks : TxStore → ℕ
  | skbPtr | skbSrc | skbDst | skbLen | skbCtrl => 1
  | head => 2
  | _ => 0

/-- The same for the call of a channel. -/
def marksOf (call : Option TxFrameCall) : ℕ := call.elim 0 fun call => call.store.marks

/-- A frame has two descriptors. -/
theorem marksOf_le (call : Option TxFrameCall) : marksOf call ≤ 2 := by
  cases call with
  | none => exact Nat.zero_le 2
  | some c =>
    rw [marksOf, Option.elim_some]
    cases c.store <;> decide

/-- What is published has at least one. -/
theorem TxStore.one_le_marks {store : TxStore} (h : store.published = true) : 1 ≤ store.marks := by
  cases store <;> first | decide | exact absurd h (by decide)

/-- The call is between the stores of the pointer to the frame and of the VALID bit. -/
def halfwayOf (call : Option TxFrameCall) : Bool := call.any fun call => call.store.halfway

/-- The call has not stored the pointer to the frame. -/
def atBdOf (call : Option TxFrameCall) : Bool := call.any fun call => call.store.atBd

/-- In the window of one lap from `D` on, the positions below `m` are VALID, and `m` becomes so too. -/
theorem decide_lt_mark {n D m k : ℕ} (hm : D ≤ m ∧ m < D + n) (hk : D ≤ k ∧ k < D + n) :
    (if k % n = m % n then true else decide (k < m)) = decide (k < m + 1) := by
  split_ifs with hkm
  · obtain rfl := (mod_eq_iff hk hm).mp hkm
    exact (decide_eq_true (Nat.lt_succ_self k)).symm
  · have hne : k ≠ m := fun heq => hkm (by rw [heq])
    exact decide_eq_decide.mpr (by omega)

/-- The ring of a TX channel with a call under way: the tail is at `T`, the DMA engine at `D` and the head
at `H`. The descriptors from `D` to the last one that has been marked are VALID. A frame in a block has
a VALID descriptor or a completed one, unless it is the frame of a call that is halfway. -/
structure PubRing (pool : DxeMemPool) (ch : DxeCh) (cursor : ℕ) (call : Option TxFrameCall)
    (stage : ℕ → FrameStage) (T D H : ℕ) : Prop where
  ready : TxReady pool ch
  head : ch.head_blk_ctl = some (ch.blk H)
  head_even : H % 2 = 0
  called : ∀ c, call = some c → c.store ≠ .kick → c = callAt ch H c.vif_priv c.skb c.store
  cursor_eq : cursor = D % ch.desc_num
  dev_le : D ≤ H + marksOf call
  lap : H + marksOf call ≤ D + ch.desc_num
  valid : ∀ k, D ≤ k → k < D + ch.desc_num → ch.slotValid k = decide (k < H + marksOf call)
  even : ∀ k, k % 2 = 0 → ch.slotSkb k = none
  marked : ∀ k, k % 2 = 1 → ch.slotValid k = true →
    (ch.slotSkb k).isSome = true ∧ stage (k % ch.desc_num) = .marked
  done : ∀ k, k % 2 = 1 → (ch.slotSkb k).isSome = true → ch.slotValid k = false →
    stage (k % ch.desc_num) = .completed ∨
      k % ch.desc_num = (H + 1) % ch.desc_num ∧ halfwayOf call = true
  free : atBdOf call = true → ch.slotSkb (H + 1) = none
  held : ∀ c, call = some c → c.store.halfway = true → ch.slotSkb (H + 1) = some c.skb
  tail : ch.tail_blk_ctl = some (ch.blk T)
  tail_odd : T % 2 = 1 → (ch.slotSkb T).isSome = true
  tail_ne : halfwayOf call = true → T % ch.desc_num ≠ (H + 1) % ch.desc_num
  unmarked : halfwayOf call = true → ch.slotValid (H + 1) = false

namespace PubRing

variable {pool : DxeMemPool} {ch : DxeCh} {cursor : ℕ} {call : Option TxFrameCall}
  {stage : ℕ → FrameStage} {T D H : ℕ}

section

variable (h : PubRing pool ch cursor call stage T D H)
include h

/-- Positions of different parity are different blocks. -/
theorem mod_ne {j k : ℕ} (hjk : j % 2 ≠ k % 2) : j % ch.desc_num ≠ k % ch.desc_num := by
  intro heq
  have hj := h.ready.mod_two j
  have hk := h.ready.mod_two k
  rw [heq] at hj
  omega

/-- A block without a frame is not VALID. -/
theorem not_valid_of_free {k : ℕ} (hk : k % 2 = 1) (hskb : ch.slotSkb k = none) :
    ch.slotValid k = false := by
  cases hv : ch.slotValid k with
  | false => rfl
  | true =>
    have hsome := (h.marked k hk hv).1
    rw [hskb] at hsome
    exact absurd hsome Bool.false_ne_true

/-- The VALID bit of the skb block of a call that has not stored it yet. -/
theorem not_valid_succ (hcall : atBdOf call = true ∨ halfwayOf call = true) :
    ch.slotValid (H + 1) = false := by
  have hH := h.head_even
  rcases hcall with hbd | hhalf
  · exact h.not_valid_of_free (by omega) (h.free hbd)
  · exact h.unmarked hhalf

/-- There is room for another VALID descriptor. -/
theorem room (hcall : atBdOf call = true ∨ halfwayOf call = true) :
    H + marksOf call + 1 ≤ D + ch.desc_num := by
  have hle := h.lap
  have hn := h.ready.two_le
  have hdev := h.dev_le
  have hH := h.head_even
  have heven := h.ready.even
  by_contra hfull
  have hfull : H + marksOf call = D + ch.desc_num := by omega
  have htwo := marksOf_le call
  have hmarks : marksOf call = 0 ∨ marksOf call = 1 ∨ marksOf call = 2 := by omega
  -- A full ring would have a VALID descriptor there, one lap before.
  have hnot := h.not_valid_succ hcall
  rcases hmarks with h0 | h1 | h2
  · have hk := h.valid (D + 1) (by omega) (by omega)
    rw [decide_eq_true (by omega), ← DxeCh.slotValid_add, show D + 1 + ch.desc_num = H + 1 by omega,
      hnot] at hk
    exact Bool.false_ne_true hk
  · have hk := h.valid D le_rfl (by omega)
    rw [decide_eq_true (by omega), ← DxeCh.slotValid_add, show D + ch.desc_num = H + 1 by omega,
      hnot] at hk
    exact Bool.false_ne_true hk
  · have hk := h.valid (D + ch.desc_num - 1) (by omega) (by omega)
    rw [decide_eq_true (by omega), show D + ch.desc_num - 1 = H + 1 by omega, hnot] at hk
    exact Bool.false_ne_true hk

/-- A step that changes neither the VALID bits, nor the pointers to frames, nor the two ends. -/
theorem same {ch' : DxeCh} {call' : Option TxFrameCall} (hready : TxReady pool ch')
    (hn : ch'.desc_num = ch.desc_num) (hhead : ch'.head_blk_ctl = ch.head_blk_ctl)
    (htail : ch'.tail_blk_ctl = ch.tail_blk_ctl) (hvalid : ∀ k, ch'.slotValid k = ch.slotValid k)
    (hskb : ∀ k, ch'.slotSkb k = ch.slotSkb k)
    (hcalled : ∀ c, call' = some c → c.store ≠ .kick → c = callAt ch H c.vif_priv c.skb c.store)
    (hmarks : marksOf call' = marksOf call) (hhalf : halfwayOf call' = halfwayOf call)
    (hbd : atBdOf call' = true → atBdOf call = true)
    (hheld : ∀ c, call' = some c → c.store.halfway = true →
      ∃ c₀, call = some c₀ ∧ c₀.store.halfway = true ∧ c₀.skb = c.skb) :
    PubRing pool ch' cursor call' stage T D H where
  ready := hready
  head := by rw [hhead, h.head, DxeCh.blk, DxeCh.blk, hn]
  head_even := h.head_even
  called c hc hkick := by
    rw [hcalled c hc hkick, callAt, callAt, DxeCh.blk, DxeCh.blk, DxeCh.blk, DxeCh.blk, hn]
  cursor_eq := by rw [hn]; exact h.cursor_eq
  dev_le := by rw [hmarks]; exact h.dev_le
  lap := by rw [hmarks, hn]; exact h.lap
  valid k hDk hk := by
    rw [hn] at hk
    rw [hvalid, hmarks]
    exact h.valid k hDk hk
  even k hk := by rw [hskb]; exact h.even k hk
  marked k hk hv := by
    rw [hvalid] at hv
    rw [hskb, hn]
    exact h.marked k hk hv
  done k hk hs hv := by
    rw [hskb] at hs
    rw [hvalid] at hv
    rw [hn, hhalf]
    exact h.done k hk hs hv
  free hat := by rw [hskb]; exact h.free (hbd hat)
  held c hc hhalfway := by
    obtain ⟨c₀, hc₀, hhalf₀, hskb₀⟩ := hheld c hc hhalfway
    rw [hskb, ← hskb₀]
    exact h.held c₀ hc₀ hhalf₀
  tail := by rw [htail, h.tail, DxeCh.blk, DxeCh.blk, hn]
  tail_odd hT := by rw [hskb]; exact h.tail_odd hT
  tail_ne hhalfway := by
    rw [hhalf] at hhalfway
    rw [hn]
    exact h.tail_ne hhalfway
  unmarked hhalfway := by
    rw [hhalf] at hhalfway
    rw [hvalid]
    exact h.unmarked hhalfway

end

/-- A call that finds room begins. -/
theorem begin (h : PubRing pool ch cursor none stage T D H) (hfree : ch.slotSkb (H + 1) = none)
    (vif_priv : Option WcnVif) (skb : SkBuff) :
    PubRing pool ch cursor (some (callAt ch H vif_priv skb .skbNull)) stage T D H where
  ready := h.ready
  head := h.head
  head_even := h.head_even
  called c hc _ := by
    rw [← Option.some.inj hc]
    rfl
  cursor_eq := h.cursor_eq
  dev_le := h.dev_le
  lap := h.lap
  valid := h.valid
  even := h.even
  marked := h.marked
  done := h.done
  free _ := hfree
  held c hc hhalf := by
    rw [← Option.some.inj hc] at hhalf
    exact absurd hhalf Bool.false_ne_true
  tail := h.tail
  tail_odd := h.tail_odd
  tail_ne hhalf := absurd hhalf Bool.false_ne_true
  unmarked hhalf := absurd hhalf Bool.false_ne_true

section Store

variable {vif_priv : Option WcnVif} {skb : SkBuff}

/-- The stores that say nothing to `reap_tx_dxes` and the DMA engine. -/
theorem storeField {store : TxStore}
    (h : PubRing pool ch cursor (some (callAt ch H vif_priv skb store)) stage T D H)
    (hstore : store ≠ .bdCtrl ∧ store ≠ .skbPtr ∧ store ≠ .skbCtrl ∧ store ≠ .head ∧
      store ≠ .kick) :
    PubRing pool (storeCh ch H skb store) cursor
      (some (callAt (storeCh ch H skb store) H vif_priv skb store.next)) stage T D H := by
  obtain ⟨hbdCtrl, hskbPtr, hskbCtrl, hhead, hkick⟩ := hstore
  refine h.same (h.ready.storeCh H skb store) (desc_num_storeCh H skb store) ?_
    (tail_storeCh H skb store) (fun k => ?_) (fun k => ?_) (fun c hc _ => ?_) ?_ ?_ ?_
    (fun c hc hhalf => ⟨_, rfl, ?_, ?_⟩)
  · rw [head_storeCh, if_neg hhead]
  · rw [slotValid_storeCh h.ready, if_neg]
    rintro (hc | hc)
    · exact hbdCtrl hc.1
    · exact hskbCtrl hc.1
  · rw [slotSkb_storeCh h.ready, if_neg (fun hc => hskbPtr hc.1)]
    split_ifs with hnull
    · -- The BD block has no frame.
      have hk := h.ready.mod_two k
      have hH := h.ready.mod_two H
      rw [hnull.2] at hk
      exact (h.even k (by have := h.head_even; omega)).symm
    · rfl
  · rw [← Option.some.inj hc, callAt_storeCh]
    rfl
  · cases store <;> first | rfl | contradiction
  · cases store <;> first | rfl | contradiction
  · intro hat
    cases store <;> first | rfl | contradiction
  · rw [← Option.some.inj hc] at hhalf
    cases store <;> first | rfl | contradiction
  · rw [← Option.some.inj hc]
    rfl

/-- The BD's descriptor is marked VALID. -/
theorem storeBdCtrl
    (h : PubRing pool ch cursor (some (callAt ch H vif_priv skb .bdCtrl)) stage T D H) :
    PubRing pool (storeCh ch H skb .bdCtrl) cursor
      (some (callAt (storeCh ch H skb .bdCtrl) H vif_priv skb .skbPtr)) stage T D H := by
  have hroom : H + 0 + 1 ≤ D + ch.desc_num := h.room (.inl rfl)
  have hH := h.head_even
  have hdev : D ≤ H + 0 := h.dev_le
  have hvalid : ∀ k, (storeCh ch H skb .bdCtrl).slotValid k =
      if k % ch.desc_num = H % ch.desc_num then true else ch.slotValid k := by
    intro k
    rw [slotValid_storeCh h.ready]
    simp only [true_and, reduceCtorEq, false_and, or_false]
  have hodd : ∀ k, k % 2 = 1 → (storeCh ch H skb .bdCtrl).slotValid k = ch.slotValid k := by
    intro k hk
    rw [hvalid, if_neg (h.mod_ne (by omega))]
  exact
    { ready := h.ready.storeCh H skb .bdCtrl
      head := h.head
      head_even := hH
      called := fun c hc _ => by rw [← Option.some.inj hc]; rfl
      cursor_eq := h.cursor_eq
      dev_le := Nat.le_succ_of_le h.dev_le
      lap := hroom
      valid := fun k hDk hk => by
        have hkk : k < D + ch.desc_num := hk
        have hmarks : marksOf (some (callAt (storeCh ch H skb .bdCtrl) H vif_priv skb .skbPtr)) = 1 :=
          rfl
        have hold : ch.slotValid k = decide (k < H + 0) := h.valid k hDk hkk
        rw [hvalid, hold, hmarks]
        exact decide_lt_mark ⟨hdev, by omega⟩ ⟨hDk, hkk⟩
      even := h.even
      marked := fun k hk hv => h.marked k hk (by rw [← hodd k hk]; exact hv)
      done := fun k hk hs hv => h.done k hk hs (by rw [← hodd k hk]; exact hv)
      free := fun _ => h.free rfl
      held := fun c hc hhalf => by
        rw [← Option.some.inj hc] at hhalf
        exact absurd hhalf Bool.false_ne_true
      tail := h.tail
      tail_odd := h.tail_odd
      tail_ne := fun hhalf => absurd hhalf Bool.false_ne_true
      unmarked := fun hhalf => absurd hhalf Bool.false_ne_true }

/-- The pointer to the frame is stored. -/
theorem storeSkbPtr
    (h : PubRing pool ch cursor (some (callAt ch H vif_priv skb .skbPtr)) stage T D H) :
    PubRing pool (storeCh ch H skb .skbPtr) cursor
      (some (callAt (storeCh ch H skb .skbPtr) H vif_priv skb .skbSrc))
      (Function.update stage ((H + 1) % ch.desc_num) .stored) T D H := by
  have hH := h.head_even
  have hfree : ch.slotSkb (H + 1) = none := h.free rfl
  have hnot : ch.slotValid (H + 1) = false := h.not_valid_succ (.inl rfl)
  have hskb : ∀ k, (storeCh ch H skb .skbPtr).slotSkb k =
      if k % ch.desc_num = (H + 1) % ch.desc_num then some skb else ch.slotSkb k := by
    intro k
    rw [slotSkb_storeCh h.ready]
    simp only [true_and, reduceCtorEq, false_and, if_false]
  have hvalid : ∀ k, (storeCh ch H skb .skbPtr).slotValid k = ch.slotValid k := fun k => rfl
  -- The block is one that the tail is not at, and no VALID one.
  have hslot : ∀ {k}, k % ch.desc_num = (H + 1) % ch.desc_num → ch.slotSkb k = none := by
    intro k hk
    rw [DxeCh.slotSkb, (ch.blk_eq_iff k (H + 1)).mpr hk]
    exact hfree
  have hval : ∀ {k}, k % ch.desc_num = (H + 1) % ch.desc_num → ch.slotValid k = false := by
    intro k hk
    rw [DxeCh.slotValid, hk]
    exact hnot
  exact
    { ready := h.ready.storeCh H skb .skbPtr
      head := h.head
      head_even := hH
      called := fun c hc _ => by rw [← Option.some.inj hc]; rfl
      cursor_eq := h.cursor_eq
      dev_le := h.dev_le
      lap := h.lap
      valid := h.valid
      even := fun k hk => by
        rw [hskb, if_neg (h.mod_ne (by omega))]
        exact h.even k hk
      marked := fun k hk hv => by
        have hne : k % ch.desc_num ≠ (H + 1) % ch.desc_num := fun heq => by
          rw [hvalid, hval heq] at hv
          exact Bool.false_ne_true hv
        rw [hskb, if_neg hne]
        refine ⟨(h.marked k hk hv).1, ?_⟩
        exact (Function.update_of_ne hne _ _).trans (h.marked k hk hv).2
      done := fun k hk hs hv => by
        rcases eq_or_ne (k % ch.desc_num) ((H + 1) % ch.desc_num) with heq | hne
        · exact .inr ⟨heq, rfl⟩
        · rw [hskb, if_neg hne] at hs
          rcases h.done k hk hs hv with hdone | ⟨-, hhalf⟩
          · exact .inl ((Function.update_of_ne hne _ _).trans hdone)
          · exact absurd hhalf Bool.false_ne_true
      free := fun hat => absurd hat Bool.false_ne_true
      held := fun c hc _ => by
        rw [hskb, if_pos rfl, ← Option.some.inj hc]
        rfl
      tail := h.tail
      tail_odd := fun hT => by
        rw [hskb]
        split_ifs
        · rfl
        · exact h.tail_odd hT
      tail_ne := fun _ heq => by
        rcases Nat.mod_two_eq_zero_or_one T with heven | hodd
        · exact h.mod_ne (by omega) heq
        · have hsome := h.tail_odd hodd
          rw [hslot heq] at hsome
          exact Bool.false_ne_true hsome
      unmarked := fun _ => hnot }

/-- The frame's descriptor is marked VALID. -/
theorem storeSkbCtrl
    (h : PubRing pool ch cursor (some (callAt ch H vif_priv skb .skbCtrl)) stage T D H) :
    PubRing pool (storeCh ch H skb .skbCtrl) cursor
      (some (callAt (storeCh ch H skb .skbCtrl) H vif_priv skb .head))
      (Function.update stage ((H + 1) % ch.desc_num) .marked) T D H := by
  have hroom : H + 1 + 1 ≤ D + ch.desc_num := h.room (.inr rfl)
  have hH := h.head_even
  have hdev : D ≤ H + 1 := h.dev_le
  have hheld : ch.slotSkb (H + 1) = some skb := h.held _ rfl rfl
  have hvalid : ∀ k, (storeCh ch H skb .skbCtrl).slotValid k =
      if k % ch.desc_num = (H + 1) % ch.desc_num then true else ch.slotValid k := by
    intro k
    rw [slotValid_storeCh h.ready]
    simp only [true_and, reduceCtorEq, false_and, false_or]
  have hslot : ∀ k, (storeCh ch H skb .skbCtrl).slotSkb k = ch.slotSkb k := fun k => rfl
  exact
    { ready := h.ready.storeCh H skb .skbCtrl
      head := h.head
      head_even := hH
      called := fun c hc _ => by rw [← Option.some.inj hc]; rfl
      cursor_eq := h.cursor_eq
      dev_le := Nat.le_succ_of_le h.dev_le
      lap := hroom
      valid := fun k hDk hk => by
        have hkk : k < D + ch.desc_num := hk
        have hmarks : marksOf (some (callAt (storeCh ch H skb .skbCtrl) H vif_priv skb .head)) = 2 :=
          rfl
        have hold : ch.slotValid k = decide (k < H + 1) := h.valid k hDk hkk
        rw [hvalid, hold, hmarks]
        exact decide_lt_mark ⟨hdev, by omega⟩ ⟨hDk, hkk⟩
      even := h.even
      marked := fun k hk hv => by
        rw [hslot]
        rcases eq_or_ne (k % ch.desc_num) ((H + 1) % ch.desc_num) with heq | hne
        · refine ⟨?_, ?_⟩
          · rw [DxeCh.slotSkb, (ch.blk_eq_iff k (H + 1)).mpr heq, ← DxeCh.slotSkb, hheld]
            rfl
          · have hn : (storeCh ch H skb .skbCtrl).desc_num = ch.desc_num := rfl
            rw [hn, heq, Function.update_self]
        · rw [hvalid, if_neg hne] at hv
          refine ⟨(h.marked k hk hv).1, ?_⟩
          exact (Function.update_of_ne hne _ _).trans (h.marked k hk hv).2
      done := fun k hk hs hv => by
        rw [hvalid] at hv
        split_ifs at hv with hne
        rcases h.done k hk hs hv with hdone | ⟨heq, -⟩
        · exact .inl ((Function.update_of_ne hne _ _).trans hdone)
        · exact absurd heq hne
      free := fun hat => absurd hat Bool.false_ne_true
      held := fun c hc hhalf => by
        rw [← Option.some.inj hc] at hhalf
        exact absurd hhalf Bool.false_ne_true
      tail := h.tail
      tail_odd := h.tail_odd
      tail_ne := fun hhalf => absurd hhalf Bool.false_ne_true
      unmarked := fun hhalf => absurd hhalf Bool.false_ne_true }

/-- The head moves on. -/
theorem storeHead
    (h : PubRing pool ch cursor (some (callAt ch H vif_priv skb .head)) stage T D H) :
    PubRing pool (storeCh ch H skb .head) cursor
      (some (callAt (storeCh ch H skb .head) H vif_priv skb .kick)) stage T D (H + 2) where
  ready := h.ready.storeCh H skb .head
  head := rfl
  head_even := by have := h.head_even; omega
  called c hc hkick := absurd (by rw [← Option.some.inj hc]; rfl) hkick
  cursor_eq := h.cursor_eq
  dev_le := h.dev_le
  lap := h.lap
  valid := h.valid
  even := h.even
  marked := h.marked
  done k hk hs hv := by
    rcases h.done k hk hs hv with hdone | ⟨-, hhalf⟩
    · exact .inl hdone
    · exact absurd hhalf Bool.false_ne_true
  free hat := absurd hat Bool.false_ne_true
  held c hc hhalf := by
    rw [← Option.some.inj hc] at hhalf
    exact absurd hhalf Bool.false_ne_true
  tail := h.tail
  tail_odd := h.tail_odd
  tail_ne hhalf := absurd hhalf Bool.false_ne_true
  unmarked hhalf := absurd hhalf Bool.false_ne_true

/-- The call returns. -/
theorem kick {c : TxFrameCall} (h : PubRing pool ch cursor (some c) stage T D H)
    (hc : c.store = .kick) : PubRing pool ch cursor none stage T D H := by
  have hmarks : marksOf (some c) = 0 := by rw [marksOf, Option.elim_some, hc]; rfl
  have hhalf : halfwayOf (some c) = false := by rw [halfwayOf, Option.any_some, hc]; rfl
  refine h.same h.ready rfl rfl rfl (fun _ => rfl) (fun _ => rfl) (fun c hc => ?_) hmarks.symm
    hhalf.symm (fun hat => absurd hat Bool.false_ne_true) (fun c hc => ?_)
  · cases hc
  · cases hc

end Store

/-- The DMA engine completes the descriptor that it is at. -/
theorem dma (h : PubRing pool ch cursor call stage T D H) (hv : (ch.dxe cursor).valid = true) :
    PubRing pool (ch.modDesc cursor DxeDesc.clearValid) ((cursor + 1) % ch.desc_num) call
      (stageAfterDma stage cursor) T (D + 1) H := by
  have hn := h.ready.two_le
  have hdev := h.dev_le
  have hlap := h.lap
  rw [h.cursor_eq] at hv ⊢
  have hlt : D < H + marksOf call := by
    have hD := h.valid D le_rfl (by omega)
    rw [DxeCh.slotValid, hv] at hD
    exact of_decide_eq_true hD.symm
  have hvalid : ∀ k, (ch.modDesc (D % ch.desc_num) DxeDesc.clearValid).slotValid k =
      if k % ch.desc_num = D % ch.desc_num then false else ch.slotValid k := by
    intro k
    rw [ch.slotValid_modDesc, DxeDesc.valid_clearValid]
  have hskb : ∀ k, (ch.modDesc (D % ch.desc_num) DxeDesc.clearValid).slotSkb k = ch.slotSkb k :=
    fun k => rfl
  -- A descriptor that is marked is completed now, and no other stage changes.
  have hstage : ∀ j, j ≠ D % ch.desc_num → stageAfterDma stage (D % ch.desc_num) j = stage j := by
    intro j hj
    rw [stageAfterDma]
    split_ifs
    · exact Function.update_of_ne hj _ _
    · rfl
  exact
    { ready := h.ready.congr rfl rfl rfl rfl
      head := h.head
      head_even := h.head_even
      called := h.called
      cursor_eq := by
        have hnum : (ch.modDesc (D % ch.desc_num) DxeDesc.clearValid).desc_num = ch.desc_num := rfl
        rw [hnum, Nat.mod_add_mod]
      dev_le := hlt
      lap := show H + marksOf call ≤ D + 1 + ch.desc_num by omega
      valid := fun k hDk hk => by
        have hkk : k < D + 1 + ch.desc_num := hk
        rw [hvalid]
        split_ifs with hkD
        · obtain rfl : k = D + ch.desc_num := by
            have := (mod_eq_iff (t := D + 1) (i := k) (j := D + ch.desc_num) ⟨hDk, hkk⟩
              ⟨by omega, by omega⟩).mp (by rw [hkD, Nat.add_mod_right])
            exact this
          exact (decide_eq_false (by omega)).symm
        · refine h.valid k (by omega) ?_
          rcases Nat.lt_or_ge k (D + ch.desc_num) with hlt' | hge
          · exact hlt'
          · obtain rfl : k = D + ch.desc_num := by omega
            exact absurd (Nat.add_mod_right D ch.desc_num) hkD
      even := h.even
      marked := fun k hk hv' => by
        rw [hvalid] at hv'
        split_ifs at hv' with hkD
        exact ⟨(h.marked k hk hv').1, (hstage _ hkD).trans (h.marked k hk hv').2⟩
      done := fun k hk hs hv' => by
        rcases eq_or_ne (k % ch.desc_num) (D % ch.desc_num) with heq | hne
        · have hmarked : stage (k % ch.desc_num) = .marked :=
            (h.marked k hk (by rw [DxeCh.slotValid, heq]; exact hv)).2
          refine .inl ?_
          rw [heq] at hmarked
          have hnum : (ch.modDesc (D % ch.desc_num) DxeDesc.clearValid).desc_num = ch.desc_num := rfl
          rw [hnum, heq, stageAfterDma, if_pos hmarked, Function.update_self]
        · rw [hvalid, if_neg hne] at hv'
          rcases h.done k hk hs hv' with hdone | hhalf
          · exact .inl ((hstage _ hne).trans hdone)
          · exact .inr hhalf
      free := h.free
      held := h.held
      tail := h.tail
      tail_odd := h.tail_odd
      tail_ne := h.tail_ne
      unmarked := fun hhalf => by
        rw [hvalid]
        split_ifs
        · rfl
        · exact h.unmarked hhalf }

section Reap

variable {ch' : DxeCh} {m : ℕ} {fs : List (BitVec 32 × SkBuff)}

/-- The walk does not get to the frame of a call that is halfway: it would have to start at the BD block,
at the head. -/
theorem not_walked (h : PubRing pool ch cursor call stage T D H)
    (hwalk : ReapWalk pool ch ch' T H m fs) (hhalf : halfwayOf call = true)
    (hwindow : ch.tail_blk_ctl = ch.head_blk_ctl → ch.slotValid H = true) {i : ℕ} (hi : i < m) :
    (T + i) % ch.desc_num ≠ (H + 1) % ch.desc_num := by
  intro heq
  have hH := h.head_even
  rcases Nat.eq_zero_or_pos i with rfl | hpos
  · exact h.tail_ne hhalf heq
  · -- The block before is the head.
    have hprev : (T + (i - 1)) % ch.desc_num = H % ch.desc_num := by
      have hmod : T + (i - 1) + 1 ≡ H + 1 [MOD ch.desc_num] := by
        rw [show T + (i - 1) + 1 = T + i by omega]
        exact heq
      exact Nat.ModEq.add_right_cancel' 1 hmod
    have hblk : ch.blk (T + (i - 1)) = ch.blk H := (ch.blk_eq_iff _ _).mpr hprev
    rcases Nat.eq_zero_or_pos (i - 1) with hzero | hpos'
    · rw [hzero, Nat.add_zero] at hblk hprev
      have hvalid := hwindow (by rw [h.tail, h.head, hblk])
      have hinvalid := hwalk.invalid 0 (by omega)
      rw [Nat.add_zero, DxeCh.slotValid, hprev, ← DxeCh.slotValid, hvalid] at hinvalid
      exact Bool.false_ne_true hinvalid.symm
    · exact hwalk.inner (i - 1) hpos' (by omega) hblk

/-- The frames that the walk takes are completed. -/
theorem completed_of_walked (h : PubRing pool ch cursor call stage T D H)
    (hwalk : ReapWalk pool ch ch' T H m fs)
    (hwindow : halfwayOf call = true → ch.tail_blk_ctl = ch.head_blk_ctl → ch.slotValid H = true)
    {i : ℕ} (hi : i < m) (hskb : (ch.slotSkb (T + i)).isSome = true) :
    stage ((T + i) % ch.desc_num) = .completed := by
  have hodd : (T + i) % 2 = 1 := by
    rcases Nat.mod_two_eq_zero_or_one (T + i) with heven | hodd
    · rw [h.even _ heven] at hskb
      exact absurd hskb Bool.false_ne_true
    · exact hodd
  rcases h.done _ hodd hskb (hwalk.invalid i hi) with hdone | ⟨heq, hhalf⟩
  · exact hdone
  · exact absurd heq (h.not_walked hwalk hhalf (hwindow hhalf) hi)

/-- The interrupt reaps. -/
theorem reap (h : PubRing pool ch cursor call stage T D H)
    (hwalk : ReapWalk pool ch ch' T H m fs)
    (hwindow : halfwayOf call = true → ch.tail_blk_ctl = ch.head_blk_ctl → ch.slotValid H = true) :
    PubRing pool { ch' with tail_blk_ctl := some (ch.blk (T + m)) } cursor call stage (T + m) D H := by
  have hH := h.head_even
  have hn : ch'.desc_num = ch.desc_num := by rw [hwalk.same]
  have hblk : ∀ k, ch'.blk k = ch.blk k := fun k => by rw [DxeCh.blk, DxeCh.blk, hn]
  have hvalid : ∀ k, ch'.slotValid k = ch.slotValid k := fun k => by
    rw [DxeCh.slotValid, DxeCh.slotValid, hwalk.same]
  have hnone : ∀ k, ch.slotSkb k = none → ch'.slotSkb k = none := by
    intro k hk
    by_cases htaken : ∃ i < m, k % ch.desc_num = (T + i) % ch.desc_num
    · obtain ⟨i, hi, heq⟩ := htaken
      exact hwalk.taken k i hi heq
    · rw [hwalk.kept k (fun i hi heq => htaken ⟨i, hi, heq⟩), hk]
  have hsome : ∀ k, (ch'.slotSkb k).isSome = true → ch'.slotSkb k = ch.slotSkb k := by
    intro k hk
    refine hwalk.kept k fun i hi heq => ?_
    rw [hwalk.taken k i hi heq] at hk
    exact Bool.false_ne_true hk
  -- A VALID block keeps its frame.
  have hkeep : ∀ k, ch.slotValid k = true → ch'.slotSkb k = ch.slotSkb k := by
    intro k hk
    refine hwalk.kept k fun i hi heq => ?_
    have hinvalid := hwalk.invalid i hi
    rw [DxeCh.slotValid, ← heq, ← DxeCh.slotValid, hk] at hinvalid
    exact Bool.false_ne_true hinvalid.symm
  have hstop : ch.slotValid (T + m) = true ∨ (T + m) % 2 = 0 := by
    rcases hwalk.stop with hv | ⟨-, hhead⟩
    · exact .inl hv
    · refine .inr ?_
      have hmod := (ch.blk_eq_iff _ _).mp hhead
      have h₁ := h.ready.mod_two (T + m)
      have h₂ := h.ready.mod_two H
      rw [hmod] at h₁
      omega
  exact
    { ready := hwalk.ready.congr rfl rfl rfl rfl
      head := by
        have hhead : ch'.head_blk_ctl = ch.head_blk_ctl := by rw [hwalk.same]
        exact hhead.trans (h.head.trans (congrArg some (hblk H).symm))
      head_even := hH
      called := fun c hc hkick => by
        have hcall : callAt ch' H c.vif_priv c.skb c.store = callAt ch H c.vif_priv c.skb c.store := by
          rw [callAt, callAt, hblk, hblk, hn]
        exact (h.called c hc hkick).trans hcall.symm
      cursor_eq := h.cursor_eq.trans (by rw [hn])
      dev_le := h.dev_le
      lap := h.lap.trans_eq (by rw [hn])
      valid := fun k hDk hk => (hvalid k).trans (h.valid k hDk (hk.trans_eq (by rw [hn])))
      even := fun k hk => hnone k (h.even k hk)
      marked := fun k hk hv => by
        have hv : ch.slotValid k = true := (hvalid k).symm.trans hv
        obtain ⟨hs, hst⟩ := h.marked k hk hv
        exact ⟨by rw [← hkeep k hv] at hs; exact hs, by rw [← hst, hn]⟩
      done := fun k hk hs hv => by
        have hs' : (ch.slotSkb k).isSome = true := by
          rw [← hsome k hs]
          exact hs
        rw [hn]
        exact h.done k hk hs' ((hvalid k).symm.trans hv)
      free := fun hat => hnone _ (h.free hat)
      held := fun c hc hhalf => by
        have hhalf' : halfwayOf call = true := by rw [hc]; exact hhalf
        rw [← h.held c hc hhalf]
        exact hwalk.kept _ fun i hi heq =>
          h.not_walked hwalk hhalf' (hwindow hhalf') hi heq.symm
      tail := congrArg some (hblk (T + m)).symm
      tail_odd := fun hT => by
        have hv : ch.slotValid (T + m) = true := hstop.resolve_right (by omega)
        have hs := (h.marked _ hT hv).1
        rw [← hkeep _ hv] at hs
        exact hs
      tail_ne := fun hhalf => by
        rw [hn]
        intro heq
        rcases hstop with hv | heven
        · have hnot := h.unmarked hhalf
          rw [DxeCh.slotValid, ← heq, ← DxeCh.slotValid, hv] at hnot
          exact Bool.false_ne_true hnot.symm
        · exact h.mod_ne (by omega) heq
      unmarked := fun hhalf => (hvalid _).trans (h.unmarked hhalf) }

/-- No frame is taken early. -/
theorem takenEarly_eq (h : PubRing pool ch cursor call stage T D H)
    (hwalk : ReapWalk pool ch ch' T H m fs)
    (hwindow : halfwayOf call = true → ch.tail_blk_ctl = ch.head_blk_ctl → ch.slotValid H = true)
    (stopped : Bool) : takenEarly stage ch ch' (reapEffects stopped fs) = [] := by
  have hpos : 0 < ch.desc_num := by have := h.ready.two_le; omega
  rw [takenEarly, List.append_eq_nil_iff, List.filterMap_eq_nil_iff, List.filterMap_eq_nil_iff]
  refine ⟨fun k hk => ?_, fun e he => ?_⟩
  · -- A frame that is gone was in a block of the walk.
    have hk : k < ch.desc_num := List.mem_range.mp hk
    refine if_pos (or_iff_not_imp_right.mpr fun hgone => ?_)
    have htaken : ∃ i < m, k % ch.desc_num = (T + i) % ch.desc_num := by
      by_contra hno
      exact hgone (hwalk.kept k fun i hi heq => hno ⟨i, hi, heq⟩)
    obtain ⟨i, hi, heq⟩ := htaken
    have hskb : (ch.slotSkb (T + i)).isSome = true := by
      rw [DxeCh.slotSkb, (ch.blk_eq_iff (T + i) k).mpr heq.symm, ← DxeCh.slotSkb]
      cases hk' : ch.slotSkb k with
      | none => exact absurd ((hwalk.taken k i hi heq).trans hk'.symm) hgone
      | some skb => rfl
    have hdone := h.completed_of_walked hwalk hwindow hi hskb
    rwa [← heq, Nat.mod_eq_of_lt hk] at hdone
  · cases e with
    | freeTxskb skb =>
      obtain ⟨f, hf, rfl⟩ := List.mem_map.mp (mem_of_freeTxskb he)
      obtain ⟨i, hi, hslot⟩ := hwalk.frames f hf
      have hdone := h.completed_of_walked hwalk hwindow hi (by rw [hslot]; rfl)
      refine if_pos (List.any_eq_true.mpr ⟨(T + i) % ch.desc_num,
        List.mem_range.mpr (Nat.mod_lt _ hpos), decide_eq_true ⟨hdone, ?_⟩⟩)
      rw [← hslot, DxeCh.slotSkb, DxeCh.slotSkb, (ch.blk_eq_iff _ _).mpr (Nat.mod_mod _ _)]
    | _ => rfl

/-- A block of the call that the walk goes over is completed, when the walk does not come back to where
it started. -/
theorem completed_of_passed (h : PubRing pool ch cursor call stage T D H)
    (hwalk : ReapWalk pool ch ch' T H m fs) (hm : m < ch.desc_num)
    (hwindow : halfwayOf call = true → ch.tail_blk_ctl = ch.head_blk_ctl → ch.slotValid H = true)
    (hmarks : 1 ≤ marksOf call) {i : ℕ} (hi : i < m)
    (heq : (T + i) % ch.desc_num = (H + 1) % ch.desc_num) :
    stage ((H + 1) % ch.desc_num) = .completed := by
  have hH := h.head_even
  have hlap := h.lap
  rcases Nat.eq_zero_or_pos i with rfl | hpos
  · -- The tail is at the block, so there is a frame in it.
    have hodd : T % 2 = 1 := by
      have hT := h.ready.mod_two T
      have hH1 := h.ready.mod_two (H + 1)
      rw [Nat.add_zero] at heq
      rw [heq] at hT
      omega
    rw [← heq]
    exact h.completed_of_walked hwalk hwindow hi (h.tail_odd hodd)
  · -- The block before is the head, and the walk starts there.
    exfalso
    have hprev : (T + (i - 1)) % ch.desc_num = H % ch.desc_num := by
      have hmod : T + (i - 1) + 1 ≡ H + 1 [MOD ch.desc_num] := by
        rw [show T + (i - 1) + 1 = T + i by omega]
        exact heq
      exact Nat.ModEq.add_right_cancel' 1 hmod
    have hone : i - 1 = 0 := by
      by_contra hne
      exact hwalk.inner (i - 1) (by omega) (by omega) ((ch.blk_eq_iff _ _).mpr hprev)
    rw [hone, Nat.add_zero] at hprev
    have hbd : ch.slotValid H = false := by
      have hinvalid := hwalk.invalid 0 (by omega)
      rwa [Nat.add_zero, DxeCh.slotValid, hprev, ← DxeCh.slotValid] at hinvalid
    have hskb : ch.slotValid (H + 1) = false := by
      have hinvalid := hwalk.invalid i hi
      rwa [DxeCh.slotValid, heq, ← DxeCh.slotValid] at hinvalid
    -- So the device has consumed everything.
    have hdev : H + marksOf call ≤ D := by
      by_contra hlt
      have htwo := marksOf_le call
      have hlt' : D ≤ H ∨ D = H + 1 ∧ H + 1 < H + marksOf call := by omega
      rcases hlt' with hle | ⟨rfl, hlt'⟩
      · have hv := h.valid H hle (by omega)
        rw [hbd, decide_eq_true (by omega)] at hv
        exact Bool.false_ne_true hv
      · have hv := h.valid (H + 1) le_rfl (by have := h.ready.two_le; omega)
        rw [hskb, decide_eq_true (by omega)] at hv
        exact Bool.false_ne_true hv
    rcases hwalk.stop with hv | ⟨-, hhead⟩
    · obtain ⟨k, hDk, hk, hblk⟩ := (Support.Cycle.consecutive 1 ch.desc_num).exists_window
        (by omega) D (T + m)
      have hmod : k % ch.desc_num = (T + m) % ch.desc_num := (ch.blk_eq_iff k (T + m)).mp hblk
      have hvk := h.valid k hDk hk
      rw [DxeCh.slotValid, hmod, ← DxeCh.slotValid, hv, decide_eq_false (by omega)] at hvk
      exact Bool.false_ne_true hvk.symm
    · rw [(ch.blk_eq_iff H T).mpr hprev.symm] at hhead
      exact ch.blk_ne (i := T) (j := T + m) (by omega) (by omega) hhead.symm

/-- The tail passes no frame early. -/
theorem passedEarly_eq (h : PubRing pool ch cursor call stage T D H)
    (hwalk : ReapWalk pool ch ch' T H m fs) (hm : m ≤ ch.desc_num)
    (hwindow : halfwayOf call = true → ch.tail_blk_ctl = ch.head_blk_ctl → ch.slotValid H = true)
    {ch'' : DxeCh} (htail' : ch''.tail_blk_ctl = some (ch.blk (T + m))) :
    passedEarly stage call ch ch'' = [] := by
  rw [passedEarly, Option.toList_eq_nil_iff, Option.eq_none_iff_forall_ne_some]
  intro f hf
  simp only [Option.bind_eq_bind, Option.bind_eq_some_iff] at hf
  obtain ⟨c, hc, blk, hblk, ctl, hctl, i, hi, tail, htail, tail', htail'', hf⟩ := hf
  split_ifs at hf with hcond
  obtain ⟨hpub, hmem, hstage⟩ := hcond
  have hkick : c.store ≠ .kick := fun hk => by rw [hk] at hpub; cases hpub
  -- The block is the second one of the call.
  have hblk : blk = ch.blk (H + 1) := by
    rw [h.called c hc hkick, TxFrameCall.skbBlk, callAt] at hblk
    dsimp only at hblk
    split_ifs at hblk with hat
    · rw [h.ready.ring.nextOf, Option.join_some] at hblk
      exact (Option.some.inj hblk).symm
    · exact (Option.some.inj hblk).symm
  obtain ⟨n, hn, -, hndesc, -⟩ := h.ready.ctl (H + 1)
  rw [hblk, hn, Option.some.injEq] at hctl
  rw [← hctl, hndesc, Option.some.injEq] at hi
  rw [h.tail, Option.some.injEq] at htail
  rw [htail', Option.some.injEq] at htail''
  rw [hblk, ← htail, ← htail''] at hmem
  obtain ⟨j, hj, hlt, hjblk⟩ := h.ready.ring.mem_stretch hm hmem
  have hmarks : 1 ≤ marksOf call := by
    rw [hc, marksOf, Option.elim_some]
    exact TxStore.one_le_marks hpub
  apply hstage
  rw [← hi]
  exact h.completed_of_passed hwalk hlt hwindow hmarks hj
    ((ch.blk_eq_iff _ _).mp hjblk.symm)

end Reap

end PubRing

/-- A store of a call. -/
theorem PubRing.storeStep {pool : DxeMemPool} {ch : DxeCh} {cursor : ℕ} {stage : ℕ → FrameStage}
    {T D H : ℕ} {vif_priv : Option WcnVif} {skb : SkBuff} {store : TxStore}
    (h : PubRing pool ch cursor (some (callAt ch H vif_priv skb store)) stage T D H)
    (hkick : store ≠ .kick) :
    ∃ H', PubRing pool (storeCh ch H skb store) cursor
      (some (callAt ch H vif_priv skb store.next))
      (stageAfterStore stage store (callAt ch H vif_priv skb store.next)) T D H' := by
  rw [← callAt_storeCh H skb store]
  cases store with
  | skbNull | bdSrc | bdDst | bdLen | skbSrc | skbDst | skbLen =>
    exact ⟨H, h.storeField (by decide)⟩
  | bdCtrl => exact ⟨H, h.storeBdCtrl⟩
  | skbPtr => exact ⟨H, h.storeSkbPtr⟩
  | skbCtrl => exact ⟨H, h.storeSkbCtrl⟩
  | head => exact ⟨H + 2, h.storeHead⟩
  | kick => exact absurd rfl hkick

/-- A call of `wcn36xx_dxe_tx_frame` finds the ring full, or begins. -/
theorem txFrameBegin_cases {pool : DxeMemPool} {wcn : Wcn} {is_low : Bool} {H : ℕ}
    (h : TxReady pool (wcn.txCh is_low))
    (hhead : (wcn.txCh is_low).head_blk_ctl = some ((wcn.txCh is_low).blk H))
    (vif_priv : Option WcnVif) (skb : SkBuff) :
    txFrameBegin wcn vif_priv skb is_low =
        some ({ wcn with queues_stopped := true }.emit [.stopQueues], .inl (-EBUSY)) ∨
      (wcn.txCh is_low).slotSkb (H + 1) = none ∧ txFrameBegin wcn vif_priv skb is_low =
        some (wcn, .inr (callAt (wcn.txCh is_low) H vif_priv skb .skbNull)) := by
  obtain ⟨c, hc, hnext, -⟩ := h.ctl H
  obtain ⟨n, hn, -⟩ := h.ctl (H + 1)
  cases hskb : n.skb with
  | some skb' =>
    left
    simp only [txFrameBegin, hhead, hc, hnext, hn, hskb, Option.isSome_some, Option.bind_eq_bind,
      Option.bind_some, if_true, Option.pure_def]
  | none =>
    right
    refine ⟨by rw [DxeCh.slotSkb, DxeCh.skbAt, hn, Option.bind_some, hskb], ?_⟩
    simp only [txFrameBegin, hhead, hc, hnext, hn, hskb, Option.isSome_none, Option.bind_eq_bind,
      Option.bind_some, Bool.false_eq_true, if_false, Option.pure_def]
    rfl

/-! ## The invariant of a run -/

/-- The invariant: both channels are rings of that kind, and nothing has been taken early. -/
structure PubInv (p : TxParams) (w : PubWorld) : Prop where
  ring : ∀ is_low, ∃ T D H, PubRing (p.pool is_low) (w.wcn.txCh is_low) (w.cursor is_low)
    (w.call is_low) (w.stage is_low) T D H
  safe : PublishSafe w

/-- A step that changes one channel. -/
theorem PubInv.update {p : TxParams} {w w' : PubWorld} (h : PubInv p w) (is_low : Bool)
    (hring : ∃ T D H, PubRing (p.pool is_low) (w'.wcn.txCh is_low) (w'.cursor is_low)
      (w'.call is_low) (w'.stage is_low) T D H)
    (hother : ∀ b, b ≠ is_low → w'.wcn.txCh b = w.wcn.txCh b ∧ w'.cursor b = w.cursor b ∧
      w'.call b = w.call b ∧ w'.stage b = w.stage b) (hsafe : PublishSafe w') : PubInv p w' where
  ring b := by
    rcases eq_or_ne b is_low with rfl | hb
    · exact hring
    · obtain ⟨hch, hcur, hcall, hstage⟩ := hother b hb
      rw [hch, hcur, hcall, hstage]
      exact h.ring b
  safe := hsafe

/-- Initially both rings are empty. -/
theorem pubInv_init {p : TxParams} {w : PubWorld} (h : (pubSystem p).init w) : PubInv p w := by
  obtain ⟨hsetup, hcur, hcall, hearly, hpassed⟩ := h
  refine ⟨fun is_low => ?_, hearly, hpassed⟩
  obtain ⟨ch, hch, -, hring, htail⟩ := txChSetup_ring is_low (p.two_le is_low) (p.even is_low)
    (p.coherent is_low) (show 0 < (p.pool is_low).virt_addr from p.virt_pos is_low)
  obtain rfl : ch = w.wcn.txCh is_low := Option.some.inj (hch.symm.trans (hsetup is_low))
  have hn := hring.ready.two_le
  have hslot : ∀ k, ∃ j, j < (w.wcn.txCh is_low).desc_num ∧
      (w.wcn.txCh is_low).slotValid k = (w.wcn.txCh is_low).slotValid j ∧
      (w.wcn.txCh is_low).slotSkb k = (w.wcn.txCh is_low).slotSkb j := by
    intro k
    refine ⟨k % (w.wcn.txCh is_low).desc_num, Nat.mod_lt _ (by omega), ?_, ?_⟩
    · rw [DxeCh.slotValid, DxeCh.slotValid, Nat.mod_mod]
    · rw [DxeCh.slotSkb, DxeCh.slotSkb, ((w.wcn.txCh is_low).blk_eq_iff _ _).mpr (Nat.mod_mod _ _)]
  have hvalid : ∀ k, (w.wcn.txCh is_low).slotValid k = false := by
    intro k
    obtain ⟨j, hj, hv, -⟩ := hslot k
    rw [hv, hring.valid j (Nat.zero_le j) (by omega)]
    exact decide_eq_false (by omega)
  have hskb : ∀ k, (w.wcn.txCh is_low).slotSkb k = none := by
    intro k
    obtain ⟨j, hj, -, hs⟩ := hslot k
    rw [hs, hring.skb j (Nat.zero_le j) (by omega), if_neg (by omega)]
  rw [hcall, hcur]
  exact ⟨0, 0, 0,
    { ready := hring.ready
      head := hring.head
      head_even := rfl
      called := fun c hc => by cases hc
      cursor_eq := (Nat.zero_mod _).symm
      dev_le := le_rfl
      lap := Nat.zero_le _
      valid := fun k _ _ => by rw [hvalid]; exact (decide_eq_false (Nat.not_lt_zero k)).symm
      even := fun k _ => hskb k
      marked := fun k _ hv => by rw [hvalid] at hv; cases hv
      done := fun k _ hs => by rw [hskb] at hs; cases hs
      free := fun hat => by cases hat
      held := fun c hc => by cases hc
      tail := htail
      tail_odd := fun hT => by cases hT
      tail_ne := fun hhalf => by cases hhalf
      unmarked := fun hhalf => by cases hhalf }⟩

/-- Every step that meets the condition keeps the invariant. -/
theorem pubInv_step {p : TxParams} (w : PubWorld) (e : PubEvent) (w' : PubWorld) (h : PubInv p w)
    (hcond : NotInWindow w e) (hstep : (pubSystem p).step w e = some w') : PubInv p w' := by
  cases e with
  | begin is_low vif_priv skb =>
    obtain ⟨T, D, H, hring⟩ := h.ring is_low
    obtain ⟨hcall, hstep⟩ := Option.ite_none_left_eq_some.mp hstep
    have hnone : w.call is_low = none := by
      cases hc : w.call is_low with
      | none => rfl
      | some c => rw [hc] at hcall; exact absurd rfl hcall
    obtain ⟨⟨wcn, r⟩, hrun, hstep⟩ := Option.bind_eq_some_iff.mp hstep
    rcases txFrameBegin_cases hring.ready hring.head vif_priv skb with hbusy | ⟨hfree, hbegin⟩
    · rw [hbusy, Option.some.injEq, Prod.mk.injEq] at hrun
      obtain ⟨rfl, rfl⟩ := hrun
      rw [Option.pure_def, Option.some.injEq] at hstep
      rw [← hstep]
      exact h.update is_low ⟨T, D, H, hring⟩ (fun b _ => ⟨rfl, rfl, rfl, rfl⟩)
        ⟨h.safe.early, h.safe.passed⟩
    · rw [hbegin, Option.some.injEq, Prod.mk.injEq] at hrun
      obtain ⟨rfl, rfl⟩ := hrun
      rw [Option.pure_def, Option.some.injEq] at hstep
      rw [← hstep]
      refine h.update is_low ⟨T, D, H, ?_⟩
        (fun b hb => ⟨rfl, rfl, Function.update_of_ne hb _ _, rfl⟩) ⟨h.safe.early, h.safe.passed⟩
      dsimp only
      rw [Function.update_self]
      rw [hnone] at hring
      exact hring.begin hfree vif_priv skb
  | store is_low =>
    obtain ⟨T, D, H, hring⟩ := h.ring is_low
    obtain ⟨c, hc, hstep⟩ := Option.bind_eq_some_iff.mp hstep
    obtain ⟨⟨wcn, r⟩, hrun, hstep⟩ := Option.bind_eq_some_iff.mp hstep
    rw [hc] at hring
    by_cases hkick : c.store = .kick
    · -- The call returns.
      simp only [txFrameStore, hkick, Option.bind_eq_bind, Option.bind_eq_some_iff, Option.pure_def,
        Option.some.injEq, Prod.mk.injEq] at hrun
      obtain ⟨wcn₁, htold, rfl, rfl⟩ := hrun
      obtain ⟨kick, rfl, -⟩ := dxeTxKick_cases htold
      rw [Option.pure_def, Option.some.injEq] at hstep
      rw [← hstep]
      refine h.update is_low ⟨T, D, H, ?_⟩
        (fun b hb => ⟨rfl, rfl, Function.update_of_ne hb _ _, rfl⟩) ⟨h.safe.early, h.safe.passed⟩
      dsimp only
      rw [Function.update_self]
      exact hring.kick hkick
    · have hcall := hring.called c rfl hkick
      have hreads : c.store.readsSkb = true → (w.wcn.txCh is_low).slotSkb (H + 1) = some c.skb := by
        intro hr
        refine hring.held c rfl ?_
        cases hs : c.store <;> rw [hs] at hr <;> first | rfl | cases hr
      rw [hcall, txFrameStore_eq hring.ready hring.head_even hreads hkick, Option.some.injEq,
        Prod.mk.injEq] at hrun
      obtain ⟨rfl, rfl⟩ := hrun
      rw [Option.pure_def, Option.some.injEq] at hstep
      rw [hcall] at hring
      obtain ⟨H', hring'⟩ := hring.storeStep hkick
      rw [← hstep]
      refine h.update is_low ⟨T, D, H', ?_⟩ (fun b hb => ⟨?_, rfl, Function.update_of_ne hb _ _,
        Function.update_of_ne hb _ _⟩) ⟨h.safe.early, h.safe.passed⟩
      · dsimp only
        rw [Function.update_self, Function.update_self, Wcn.emit_txCh, Wcn.txCh_setTxCh]
        exact hring'
      · exact Wcn.txCh_setTxCh_ne _ hb _
  | dma is_low =>
    obtain ⟨T, D, H, hring⟩ := h.ring is_low
    obtain ⟨hv, hstep⟩ := Option.ite_none_right_eq_some.mp hstep
    rw [Option.some.injEq] at hstep
    rw [← hstep]
    refine h.update is_low ⟨T, D + 1, H, ?_⟩ (fun b hb => ⟨Wcn.txCh_setTxCh_ne _ hb _,
      Function.update_of_ne hb _ _, rfl, Function.update_of_ne hb _ _⟩)
      ⟨h.safe.early, h.safe.passed⟩
    dsimp only
    rw [Function.update_self, Function.update_self, dmaComplete, Wcn.txCh_setTxCh]
    exact hring.dma ((Bool.and_eq_true _ _).mp hv).2
  | idle is_low =>
    rw [pubSystem, Option.some.injEq] at hstep
    rw [← hstep]
    exact ⟨h.ring, h.safe.early, h.safe.passed⟩
  | reap is_low =>
    obtain ⟨T, D, H, hring⟩ := h.ring is_low
    obtain ⟨ch, fs, m, hm, hreap, hwalk⟩ := reapTxDxes_walk hring.ready hring.head hring.tail
    have hwindow : halfwayOf (w.call is_low) = true →
        (w.wcn.txCh is_low).tail_blk_ctl = (w.wcn.txCh is_low).head_blk_ctl →
        (w.wcn.txCh is_low).slotValid H = true := by
      intro hhalf hempty
      rw [← DxeCh.headValid_eq hring.ready hring.head]
      by_contra hno
      exact hcond ⟨hhalf, hempty, Bool.eq_false_of_not_eq_true hno⟩
    obtain ⟨wcn, hrun, hstep⟩ := Option.bind_eq_some_iff.mp hstep
    rw [hreap, Option.some.injEq] at hrun
    rw [Option.pure_def, Option.some.injEq] at hstep
    rw [← hstep, ← hrun]
    refine h.update is_low ⟨T + m, D, H, ?_⟩
      (fun b hb => ⟨Wcn.txCh_setTxCh_ne w.wcn hb _, rfl, rfl, rfl⟩) ⟨?_, ?_⟩
    · dsimp only
      rw [txCh_reapedWcn]
      exact hring.reap hwalk hwindow
    · -- The log has grown by the effects of the walk.
      have hlog : (reapedWcn w.wcn is_low { ch with
          tail_blk_ctl := some ((w.wcn.txCh is_low).blk (T + m)) } fs).log.drop w.wcn.log.length =
          reapEffects w.wcn.queues_stopped fs := List.drop_left
      dsimp only
      rw [hlog, txCh_reapedWcn, h.safe.early, List.nil_append]
      exact hring.takenEarly_eq hwalk hwindow _
    · dsimp only
      rw [txCh_reapedWcn, h.safe.passed, List.nil_append]
      exact hring.passedEarly_eq hwalk hm hwindow rfl

/-- In every run in which `reap_tx_dxes` does not run in the window, no frame is released, or taken out of
its block, before its descriptor has been marked VALID and completed, and the tail passes no frame being
enqueued. -/
theorem publishSafe_of_notInWindow {p : TxParams} {w : PubWorld}
    (h : (pubSystem p).ReachableWhen NotInWindow w) : PublishSafe w :=
  (h.invariant (fun _ => pubInv_init) pubInv_step).safe

/-- The driver after the set-up of both TX channels. -/
def pubStart (p : TxParams) : Option PubWorld := (txStart p {}).map fun s => { wcn := s.wcn }

/-- It is an initial state. -/
theorem pubStart_init {p : TxParams} {w : PubWorld} (h : pubStart p = some w) :
    (pubSystem p).init w := by
  obtain ⟨s, hs, rfl⟩ := Option.map_eq_some_iff.mp h
  exact ⟨(txStart_init hs).1, rfl, rfl, rfl, rfl⟩

/-- A frame of 30 bytes on the channel for management frames, store by store: the first `n` stores. -/
def storesOf (n : ℕ) (ptr : ℕ) : List PubEvent :=
  .begin false none (authFrame ptr 30 false) :: List.replicate n (.store false)

/-- A frame is sent and reaped. While a second one is enqueued, the interrupt runs before the device has
consumed its BD, and again when both its descriptors are VALID. -/
theorem publishSafe_of_notInWindow_two_frames :
    ∃ w, (pubSystem driverParams).ReachableWhen NotInWindow w ∧ PublishSafe w ∧
      w.wcn.log.filter (fun e => e.handsBack.isSome) =
        [.freeTxskb (authFrame 1 30 false), .freeTxskb (authFrame 2 30 false)] := by
  have hany : ((pubStart driverParams).bind fun w => (pubSystem driverParams).runWhen NotInWindow w
      (storesOf 12 1 ++ [.dma false, .dma false, .reap false] ++ storesOf 7 2 ++
        [.reap false, .dma false] ++ List.replicate 5 (.store false) ++
        [.reap false, .dma false, .reap false])).any (fun w =>
      decide (w.wcn.log.filter (fun e => e.handsBack.isSome) =
        [.freeTxskb (authFrame 1 30 false), .freeTxskb (authFrame 2 30 false)])) = true := by
    decide +kernel
  obtain ⟨w, hrun, hw⟩ := (Option.any_eq_true _ _).mp hany
  obtain ⟨w₀, hw₀, hrun⟩ := Option.bind_eq_some_iff.mp hrun
  have hreach := System.ReachableWhen.runWhen (.init (pubStart_init hw₀)) hrun
  exact ⟨w, hreach, publishSafe_of_notInWindow hreach, of_decide_eq_true hw⟩

/-- A frame is sent and reaped. While a second one is enqueued, the device consumes its BD, and the interrupt
runs when the pointer to the frame is stored and its descriptor is not VALID yet: the frame is freed. -/
theorem publishSafe_fails_on_bd_consumed :
    ∃ w, (pubSystem driverParams).Reachable w ∧ ¬PublishSafe w ∧
      w.early = [authFrame 2 30 false, authFrame 2 30 false] := by
  have hany : ((pubStart driverParams).bind fun w => (pubSystem driverParams).runFrom w
      (storesOf 12 1 ++ [.dma false, .dma false, .reap false] ++ storesOf 5 2 ++
        [.dma false, .store false, .reap false])).any (fun w =>
      decide (w.early = [authFrame 2 30 false, authFrame 2 30 false])) = true := by
    decide +kernel
  obtain ⟨w, hrun, hw⟩ := (Option.any_eq_true _ _).mp hany
  obtain ⟨w₀, hw₀, hrun⟩ := Option.bind_eq_some_iff.mp hrun
  have hw : w.early = [authFrame 2 30 false, authFrame 2 30 false] := of_decide_eq_true hw
  refine ⟨w, System.Reachable.runFrom (.init (pubStart_init hw₀)) hrun, fun hsafe => ?_, hw⟩
  rw [hsafe.early] at hw
  cases hw

end Wcn36xx
