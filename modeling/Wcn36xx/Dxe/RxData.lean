import Wcn36xx.Dxe.RxDrain

/-!
# From the device to mac80211

The data path of a receive ring. The device stores frames in the order of the ring, each through the bus
address in its descriptor and into the buffer that is mapped there; `wcn36xx_rx_handle_packets` goes after
it. The device may act between any two iterations of the driver's loop, and between the two parts of one: an
iteration arms the descriptor again before it passes the descriptor's old buffer to `wcn36xx_rx_skb`, so that
from then on the device writes behind the back of a frame that is still to be delivered.

`RxPath` is the invariant of the runs in which `alloc_skb` does not fail. The frames in it, delivered or not,
are at every moment the frames that the device has stored, in their order.
-/

namespace Wcn36xx

/-! ## The system -/

/-- What an effect does to the buffers that are mapped for the device, by bus address. -/
def RxEffect.mapping (m : BitVec 32 → Option ℕ) : RxEffect → BitVec 32 → Option ℕ
  | .dmaMap skb => Function.update m skb.dma (some skb.ptr)
  | .dmaUnmap addr => Function.update m addr none
  | .writeRegister _ _ | .rxSkb _ | .kfreeSkb _ => m

/-- The buffers that are mapped for the device. -/
def RxState.mapped (s : RxState) : BitVec 32 → Option ℕ := s.log.foldl RxEffect.mapping fun _ => none

/-- Where a call of `wcn36xx_rx_handle_packets` is. -/
inductive RxReader where
  /-- No call is going on. -/
  | idle
  /-- It is about to look at the descriptor of the block `ctl`. -/
  | loop (ctl : ℕ)
  /-- It has armed the descriptor of `ctl`, and is about to pass the buffer. -/
  | pass (ctl : ℕ) (skb : Option SkBuff)
  deriving DecidableEq

/-- An RX channel with the device and the memory behind its buffers. -/
structure RxDataWorld where
  rx : RxState
  started : Bool := false
  reader : RxReader := .idle
  /-- The bytes behind a buffer. -/
  mem : ℕ → List Byte := fun _ => []
  /-- The position of the device on the ring. -/
  device : ℕ := 0
  /-- What the device has stored so far. -/
  stored : List (List Byte) := []
  /-- What has been in the buffers when they were passed to `wcn36xx_rx_skb`. -/
  received : List (List Byte) := []

/-- The steps of the data path. -/
inductive RxDataEvent where
  /-- `wcn36xx_dxe_ch_alloc_skb`, with what its calls of `alloc_skb` come to. -/
  | start (allocs : List (Option (BitVec 32)))
  /-- The device stores a frame and clears VALID. -/
  | store (frame : List Byte)
  /-- `wcn36xx_rx_handle_packets` begins. -/
  | enter
  /-- An iteration of its loop up to the call of `wcn36xx_rx_skb`, with what `alloc_skb` comes to. -/
  | prepare (alloc : Option (BitVec 32))
  /-- `wcn36xx_rx_skb`, and `ctl = ctl->next`. -/
  | pass
  /-- The loop has come to a VALID descriptor, and the call returns. -/
  | leave
  deriving DecidableEq

/-- A step of a call of `wcn36xx_rx_handle_packets` that has begun. -/
def RxDataEvent.IsCall : RxDataEvent → Prop
  | .prepare _ | .pass | .leave => True
  | .start _ | .store _ | .enter => False

/-- The device stores a frame into a buffer, and clears VALID in the descriptor at its position. -/
def RxDataWorld.storeAt (w : RxDataWorld) (ptr : ℕ) (frame : List Byte) : RxDataWorld :=
  { w with
    rx := { w.rx with ch := w.rx.ch.modDesc (w.device % w.rx.ch.desc_num) DxeDesc.clearValid }
    mem := Function.update w.mem ptr frame, device := w.device + 1
    stored := w.stored ++ [frame] }

/-- The device stores through the address in the descriptor at its position. A store to an address that is
not mapped is a fault. -/
def rxStore (w : RxDataWorld) (frame : List Byte) : Option RxDataWorld :=
  (w.rx.mapped (w.rx.ch.dxe (w.device % w.rx.ch.desc_num)).dst_addr_l).map fun ptr =>
    w.storeAt ptr frame

/-- The transition system of the data path. The device takes the descriptors in the order of the ring. -/
def rxDataSystem (p : RxParams) : Support.System RxDataWorld RxDataEvent where
  init w := ∃ ch, rxChSetup p.is_low p.desc_num p.coherent = some ch ∧ w = { rx := { ch := ch } }
  step w
    | .start allocs =>
      if w.started then none
      else do
        let rx ← dxeChAllocSkb { w.rx with allocs := allocs }
        if rx.allocs.isEmpty then return { w with rx := rx, started := true } else none
    | .store frame =>
      if w.started ∧ w.rx.ch.slotValid w.device then rxStore w frame else none
    | .enter =>
      if w.started ∧ w.reader = .idle then do
        let ctl ← w.rx.ch.head_blk_ctl
        return { w with reader := .loop ctl }
      else none
    | .prepare alloc =>
      match w.reader with
      | .loop ctl => do
        let valid ← w.rx.ch.validAt ctl
        if valid then none
        else
          let (rx, skb) ← rxPreparePacket { w.rx with allocs := [alloc] } ctl
          return { w with rx := rx, reader := .pass ctl skb }
      | _ => none
    | .pass =>
      match w.reader with
      | .pass ctl skb => do
        let rx ← rxSkb w.rx skb
        let next ← (← rx.ch.nextOf ctl)
        return { w with
          rx := rx, reader := .loop next
          received := w.received ++ (skb.toList.map fun skb => w.mem skb.ptr) }
      | _ => none
    | .leave =>
      match w.reader with
      | .loop ctl => do
        let valid ← w.rx.ch.validAt ctl
        if valid then
          return { w with
            rx := { w.rx with ch := { w.rx.ch with head_blk_ctl := some ctl } }, reader := .idle }
        else none
      | _ => none

/-- Every call of `alloc_skb` that the step makes succeeds, and `dma_map_single` returns an address at which
no buffer is mapped. -/
def DmaFresh (w : RxDataWorld) : RxDataEvent → Prop
  | .start allocs => (∀ a ∈ allocs, a.isSome = true) ∧ allocs.Nodup
  | .prepare alloc => ∃ dma ∈ alloc, w.rx.mapped dma = none
  | .store _ | .enter | .pass | .leave => True

instance : ∀ w e, Decidable (DmaFresh w e)
  | _, .start allocs =>
    -- by the list, and not by the 2^32 values that `a` can have
    have : Decidable (∀ a ∈ allocs, a.isSome = true) :=
      List.decidableBAll (fun a => a.isSome = true) allocs
    inferInstanceAs (Decidable (_ ∧ _))
  | w, .prepare (some dma) => decidable_of_iff (w.rx.mapped dma = none) (by simp [DmaFresh])
  | _, .prepare none => isFalse (by simp [DmaFresh])
  | _, .store _ | _, .enter | _, .pass | _, .leave => isTrue trivial

/-! ## Mappings -/

/-- The mappings after more effects. -/
theorem mapped_emit (s : RxState) (es : List RxEffect) :
    (s.emit es).mapped = es.foldl RxEffect.mapping s.mapped :=
  List.foldl_append

/-- A new buffer is mapped when it is filled in. -/
theorem mapped_filledRx (s : RxState) (k : ℕ) (dma : BitVec 32) (rest : List (Option (BitVec 32))) :
    (filledRx s k dma rest).mapped = Function.update s.mapped dma (some s.next_skb) :=
  List.foldl_append

/-- Arming a descriptor maps nothing. -/
theorem mapped_rxRearm (s : RxState) (i : ℕ) : (rxRearm s i).mapped = s.mapped := by
  unfold rxRearm
  split
  · exact mapped_emit { s with ch := _ } [.writeRegister _ _]
  · exact mapped_emit { s with ch := _ } [.writeRegister _ _]
  · rfl
  · rfl

/-- The buffers of the blocks are mapped where they should be. -/
def RxMapped (s : RxState) : Prop := ∀ k f, s.ch.slotSkb k = some f → s.mapped f.dma = some f.ptr

/-- The block at `k` has a new buffer, its old one is not mapped any more, and its descriptor is armed. -/
def preparedRx (s : RxState) (k : ℕ) (dma : BitVec 32) (old : SkBuff) : RxState :=
  (rxRearm (filledRx s k dma []) (k % s.ch.desc_num)).emit [.dmaUnmap old.dma]

section Prepare

variable {s : RxState} (h : RxOwns s) {k : ℕ} {dma : BitVec 32} {old : SkBuff}
  (hold : s.ch.slotSkb k = some old)
include h hold

/-- An iteration with memory, up to the call of `wcn36xx_rx_skb`. -/
theorem rxPreparePacket_some (ha : s.allocs = [some dma]) :
    rxPreparePacket s (s.ch.blk k) = some (preparedRx s k dma old, some old) := by
  obtain ⟨c, hc, -, hdesc⟩ := h.ready.ctl k
  have hskb : c.skb = some old := by
    rw [← hold, DxeCh.slotSkb, DxeCh.skbAt, hc, Option.bind_some]
  obtain ⟨f, hf, hdst, -, -⟩ := h.skb k
  rw [hold, Option.some.injEq] at hf
  simp only [rxPreparePacket, hc, hdesc, hskb, dxeFillSkb_some h.ready k dma [] ha, hdst, ← hf,
    Option.bind_eq_bind, Option.bind_some, Option.pure_def, preparedRx]

/-- Once the old buffer has been passed, the buffers are with those who own them. -/
theorem RxOwns.prepared (ha : s.allocs = [some dma]) :
    RxOwns ((preparedRx s k dma old).emit [.rxSkb old]) := by
  have hrun : rxHandlePacket s (s.ch.blk k) = some ((preparedRx s k dma old).emit [.rxSkb old]) := by
    rw [rxHandlePacket_eq, rxPreparePacket_some h hold ha]
    rfl
  have hok : ∀ a ∈ s.allocs, a.isSome = true := by
    rw [ha]
    intro a ha
    rw [List.mem_singleton.mp ha]
    rfl
  exact (h.handlePacket hok hrun).1

/-- The buffers of the blocks are mapped, the new one included. -/
theorem RxMapped.prepared (hm : RxMapped s) (hfree : s.mapped dma = none) :
    RxMapped (preparedRx s k dma old) := by
  intro j g hg
  obtain ⟨hctl, hn, -⟩ := rxRearm_spec (filledRx s k dma []) (k % s.ch.desc_num)
  have hslot : (preparedRx s k dma old).ch.slotSkb j =
      if j % s.ch.desc_num = k % s.ch.desc_num then some (s.newSkb dma) else s.ch.slotSkb j := by
    rw [← slotSkb_filledCh h.ready]
    unfold DxeCh.slotSkb DxeCh.skbAt DxeCh.blk preparedRx RxState.emit
    dsimp only
    rw [hctl, hn]
    rfl
  have hmapped : (preparedRx s k dma old).mapped =
      Function.update (Function.update s.mapped dma (some s.next_skb)) old.dma none := by
    unfold preparedRx
    rw [mapped_emit, mapped_rxRearm, mapped_filledRx]
    rfl
  -- A mapped address is not the new one.
  have hne : ∀ f i, s.ch.slotSkb i = some f → f.dma ≠ dma := fun f i hf heq => by
    have hat := hm i f hf
    rw [heq, hfree] at hat
    cases hat
  rw [hslot] at hg
  rw [hmapped]
  split_ifs at hg with hjk
  · rw [← Option.some.inj hg, show (s.newSkb dma).dma = dma from rfl,
      Function.update_of_ne (hne old k hold).symm, Function.update_self]
    rfl
  · have hdma : g.dma ≠ old.dma := fun heq => by
      have hat := hm j g hg
      rw [heq, hm k old hold, Option.some.injEq] at hat
      exact hjk (h.inj j k g old hg hold hat.symm)
    rw [Function.update_of_ne hdma, Function.update_of_ne (hne g j hg), hm j g hg]

end Prepare

/-! ## The invariant -/

namespace RxDataWorld

variable (w : RxDataWorld)

/-- The channel when the buffer that `wcn36xx_rx_skb` is about to get is counted as passed. -/
def passed : RxState :=
  match w.reader with
  | .pass _ (some skb) => w.rx.emit [.rxSkb skb]
  | _ => w.rx

/-- Which buffers count as passed is not written in the channel. -/
theorem passed_ch : w.passed.ch = w.rx.ch := by
  unfold passed
  split <;> rfl

/-- What is in the buffer that `wcn36xx_rx_skb` is about to get. -/
def passing : List (List Byte) :=
  match w.reader with
  | .pass _ (some skb) => [w.mem skb.ptr]
  | _ => []

/-- What is in the buffer of the block at a position. -/
def content (k : ℕ) : List Byte := ((w.rx.ch.slotSkb k).map fun skb => w.mem skb.ptr).getD []

/-- What is in the buffers of the `c` blocks from a position on. -/
def contents (h c : ℕ) : List (List Byte) := (List.range c).map fun i => w.content (h + i)

/-- The driver is at the position `h` of the ring. -/
def ReaderAt (h : ℕ) : Prop :=
  match w.reader with
  | .idle => w.rx.ch.head_blk_ctl = some (w.rx.ch.blk h)
  | .loop ctl => ctl = w.rx.ch.blk h
  | .pass ctl skb => ∃ k f, h = k + 1 ∧ ctl = w.rx.ch.blk k ∧ skb = some f

end RxDataWorld

/-- The driver is at position `h`. The device is `c` positions ahead, and what it has stored there is what
has not been passed on. -/
structure RxPath (n : ℕ) (w : RxDataWorld) (h c : ℕ) : Prop where
  owns : RxOwns w.passed
  desc_num : w.rx.ch.desc_num = n
  ch_type : w.rx.ch.ch_type = .rxL ∨ w.rx.ch.ch_type = .rxH
  reader : w.ReaderAt h
  le : c ≤ n
  device : w.device % n = (h + c) % n
  filled : ∀ i < c, w.rx.ch.slotValid (h + i) = false
  armed : ∀ i, c ≤ i → i < n → w.rx.ch.slotValid (h + i) = true
  mapped : RxMapped w.rx
  stored : w.stored = w.received ++ (w.passing ++ w.contents h c)

namespace RxPath

variable {n h c : ℕ} {w : RxDataWorld} (hw : RxPath n w h c)
include hw

/-- The blocks are in a ring. -/
theorem ready : RingReady w.rx.ch := w.passed_ch ▸ hw.owns.ready

/-- The ring is not empty. -/
theorem pos : 0 < n := by
  have htwo := hw.ready.two_le
  rw [hw.desc_num] at htwo
  omega

/-- Every block has a buffer to which its descriptor points, at an address where it is mapped. -/
theorem buffer (k : ℕ) : ∃ f, w.rx.ch.slotSkb k = some f ∧
    (w.rx.ch.dxe (k % n)).dst_addr_l = f.dma ∧ w.rx.mapped f.dma = some f.ptr := by
  obtain ⟨f, hf, hdst, -⟩ := hw.owns.skb k
  rw [w.passed_ch] at hf hdst
  rw [hw.desc_num] at hdst
  exact ⟨f, hf, hdst, hw.mapped k f hf⟩

/-- A VALID descriptor at the device's position is one that the driver has armed, so there is room. -/
theorem lt_of_valid (hvalid : w.rx.ch.slotValid w.device = true) : c < n := by
  refine Nat.lt_of_le_of_ne hw.le fun heq => ?_
  have hlap : w.device % n = (h + 0) % n := by
    rw [hw.device, heq, Nat.add_mod_right, Nat.add_zero]
  rw [DxeCh.slotValid, hw.desc_num, hlap, ← hw.desc_num] at hvalid
  exact Bool.false_ne_true ((hw.filled 0 (by have := hw.pos; omega)).symm.trans hvalid)

/-- The descriptor that the driver has come to is VALID exactly when nothing is left. -/
theorem valid_reader_iff : w.rx.ch.slotValid h = true ↔ c = 0 := by
  constructor
  · intro hvalid
    by_contra hne
    exact Bool.false_ne_true ((hw.filled 0 (by omega)).symm.trans hvalid)
  · rintro rfl
    exact hw.armed 0 (Nat.le_refl 0) hw.pos

/-- The device can store a frame whenever its descriptor is VALID: the address in it is mapped, to the
buffer of the block. -/
theorem rxStore_some (frame : List Byte) :
    ∃ f, w.rx.ch.slotSkb (h + c) = some f ∧ rxStore w frame = some (w.storeAt f.ptr frame) := by
  obtain ⟨f, hf, hdst, hmapped⟩ := hw.buffer (h + c)
  refine ⟨f, hf, ?_⟩
  rw [rxStore, hw.desc_num, hw.device, hdst, hmapped, Option.map_some]

/-- Two positions less than a lap apart have different descriptors. -/
theorem mod_ne {i j : ℕ} (hij : i < j) (hj : j < n) : (h + i) % n ≠ (h + j) % n :=
  hw.desc_num ▸ pos_mod_ne w.rx.ch hij (hw.desc_num.symm ▸ hj)

/-- Different positions of one lap have different buffers. -/
theorem ptr_ne {i j : ℕ} {f g : SkBuff} (hij : i < j) (hj : j < n)
    (hf : w.rx.ch.slotSkb (h + i) = some f) (hg : w.rx.ch.slotSkb (h + j) = some g) :
    f.ptr ≠ g.ptr := by
  intro heq
  rw [← w.passed_ch] at hf hg
  have hmod := hw.owns.inj _ _ f g hf hg heq
  rw [w.passed_ch, hw.desc_num] at hmod
  exact hw.mod_ne hij hj hmod

/-- A buffer that `wcn36xx_rx_skb` is about to get is no block's any more. -/
theorem passing_ne {ctl k : ℕ} {old f : SkBuff} (hreader : w.reader = .pass ctl (some old))
    (hf : w.rx.ch.slotSkb k = some f) : old.ptr ≠ f.ptr := by
  obtain ⟨g, hg, -, -, hnot⟩ := hw.owns.skb k
  rw [w.passed_ch, hf, Option.some.injEq] at hg
  intro heq
  refine hnot (List.mem_map.mpr ⟨old, ?_, hg ▸ heq⟩)
  simp only [RxDataWorld.passed, hreader, RxState.delivered, RxState.emit, List.filterMap_append,
    List.mem_append]
  exact .inr (List.mem_singleton.mpr rfl)

/-- What the device stores is not in the buffer that `wcn36xx_rx_skb` is about to get. -/
theorem passing_storeAt {k : ℕ} {f : SkBuff} (hf : w.rx.ch.slotSkb k = some f)
    (frame : List Byte) : (w.storeAt f.ptr frame).passing = w.passing := by
  unfold RxDataWorld.passing RxDataWorld.storeAt
  dsimp only
  split
  · rename_i ctl old hreader
    rw [Function.update_of_ne (hw.passing_ne hreader hf)]
  · rfl

/-- It comes behind the frames that are in the buffers. -/
theorem contents_storeAt {f : SkBuff} (hlt : c < n) (hf : w.rx.ch.slotSkb (h + c) = some f)
    (frame : List Byte) :
    (w.storeAt f.ptr frame).contents h (c + 1) = w.contents h c ++ [frame] := by
  have hslot : ∀ k, (w.storeAt f.ptr frame).rx.ch.slotSkb k = w.rx.ch.slotSkb k := fun _ => rfl
  have hkept : ∀ i ∈ List.range c,
      (w.storeAt f.ptr frame).content (h + i) = w.content (h + i) := by
    intro i hi
    rw [List.mem_range] at hi
    obtain ⟨g, hg, -⟩ := hw.buffer (h + i)
    unfold RxDataWorld.content
    rw [hslot, hg]
    exact Function.update_of_ne (hw.ptr_ne hi hlt hg hf) _ _
  have hnew : (w.storeAt f.ptr frame).content (h + c) = frame := by
    unfold RxDataWorld.content
    rw [hslot, hf]
    exact Function.update_self ..
  rw [RxDataWorld.contents, List.range_succ, List.map_append, List.map_singleton, hnew,
    List.map_congr_left hkept, RxDataWorld.contents]

/-- A store keeps the buffers with those who own them. -/
theorem owns_storeAt (ptr : ℕ) (frame : List Byte) : RxOwns (w.storeAt ptr frame).passed := by
  have hch : (w.storeAt ptr frame).passed.ch =
      w.rx.ch.modDesc (w.device % w.rx.ch.desc_num) DxeDesc.clearValid := RxDataWorld.passed_ch _
  refine hw.owns.congr ?_ ?_ ?_ (fun i => ?_) ?_ ?_
  · rw [hch, w.passed_ch]
    rfl
  · rw [hch, w.passed_ch]
    rfl
  · obtain ⟨k, hk⟩ := hw.owns.head
    rw [w.passed_ch] at hk
    exact ⟨k, by rw [hch]; exact hk⟩
  · rw [hch, w.passed_ch]
    unfold DxeCh.modDesc
    dsimp only
    rcases eq_or_ne i (w.device % w.rx.ch.desc_num) with rfl | hi
    · rw [Function.update_self]
      rfl
    · rw [Function.update_of_ne hi]
  all_goals
    unfold RxDataWorld.passed RxDataWorld.storeAt
    dsimp only
    split <;> rfl

/-- Of the descriptors on the lap only the one at the device's position changes. -/
theorem slotValid_storeAt {i : ℕ} (hi : i < n) (ptr : ℕ) (frame : List Byte) (hlt : c < n) :
    (w.storeAt ptr frame).rx.ch.slotValid (h + i) =
      if i = c then false else w.rx.ch.slotValid (h + i) := by
  have hdxe : (w.storeAt ptr frame).rx.ch.slotValid (h + i) =
      (Function.update w.rx.ch.dxe ((h + c) % n)
        (w.rx.ch.dxe ((h + c) % n)).clearValid ((h + i) % n)).valid := by
    rw [← hw.device, ← hw.desc_num]
    rfl
  rw [hdxe]
  split_ifs with hic
  · rw [hic, Function.update_self, DxeDesc.valid_clearValid]
  · have hne : (h + i) % n ≠ (h + c) % n := by
      rcases Nat.lt_or_gt_of_ne hic with hlt' | hgt
      · exact hw.mod_ne hlt' hlt
      · exact (hw.mod_ne hgt hi).symm
    rw [Function.update_of_ne hne, DxeCh.slotValid, hw.desc_num]

/-- The device stores a frame. -/
theorem store {frame : List Byte} {w' : RxDataWorld} (hvalid : w.rx.ch.slotValid w.device = true)
    (hrun : rxStore w frame = some w') : RxPath n w' h (c + 1) := by
  have hlt := hw.lt_of_valid hvalid
  obtain ⟨f, hf, hstore⟩ := hw.rxStore_some frame
  rw [hstore, Option.some.injEq] at hrun
  subst hrun
  constructor
  case owns => exact hw.owns_storeAt f.ptr frame
  case desc_num => exact hw.desc_num
  case ch_type => exact hw.ch_type
  case reader => exact hw.reader
  case le => exact hlt
  case device =>
    have hdev : w.device ≡ h + c [MOD n] := hw.device
    exact hdev.add_right 1
  case filled =>
    intro i hi
    rw [hw.slotValid_storeAt (by omega) f.ptr frame hlt]
    split_ifs with hic
    · rfl
    · exact hw.filled i (by omega)
  case armed =>
    intro i hi hin
    rw [hw.slotValid_storeAt hin f.ptr frame hlt, if_neg (by omega)]
    exact hw.armed i (by omega) hin
  case mapped => exact hw.mapped
  case stored =>
    -- The frame is in the buffer behind those that hold frames already.
    rw [hw.passing_storeAt hf, hw.contents_storeAt hlt hf, ← List.append_assoc, ← List.append_assoc]
    refine congrArg (· ++ [frame]) (hw.stored.trans ?_)
    exact (List.append_assoc ..).symm

/-- The call begins at the head. -/
theorem enter (hidle : w.reader = .idle) :
    w.rx.ch.head_blk_ctl = some (w.rx.ch.blk h) ∧
      RxPath n { w with reader := .loop (w.rx.ch.blk h) } h c := by
  have hhead := hw.reader
  have howns := hw.owns
  have hstored := hw.stored
  unfold RxDataWorld.ReaderAt at hhead
  unfold RxDataWorld.passed at howns
  unfold RxDataWorld.passing at hstored
  rw [hidle] at hhead howns hstored
  exact ⟨hhead, howns, hw.desc_num, hw.ch_type, rfl, hw.le, hw.device, hw.filled, hw.armed,
    hw.mapped, hstored⟩

/-- The call returns from the descriptor that it has come to. -/
theorem leave {ctl : ℕ} (hloop : w.reader = .loop ctl) :
    RxPath n { w with
      rx := { w.rx with ch := { w.rx.ch with head_blk_ctl := some ctl } }, reader := .idle } h c := by
  have hctl := hw.reader
  have howns := hw.owns
  have hstored := hw.stored
  unfold RxDataWorld.ReaderAt at hctl
  unfold RxDataWorld.passed at howns
  unfold RxDataWorld.passing at hstored
  rw [hloop] at hctl howns hstored
  exact ⟨howns.congr rfl rfl ⟨h, congrArg some hctl⟩ (fun _ => rfl) rfl rfl, hw.desc_num, hw.ch_type,
    congrArg some hctl, hw.le, hw.device, hw.filled, hw.armed, hw.mapped, hstored⟩

/-- The buffer is passed to `wcn36xx_rx_skb`, with the frame that was stored in it. -/
theorem pass {ctl : ℕ} {skb : Option SkBuff} (hpass : w.reader = .pass ctl skb) :
    ∃ f, skb = some f ∧ rxSkb w.rx skb = some (w.rx.emit [.rxSkb f]) ∧
      (w.rx.emit [.rxSkb f]).ch.nextOf ctl = some (some (w.rx.ch.blk h)) ∧
      RxPath n { w with
        rx := w.rx.emit [.rxSkb f], reader := .loop (w.rx.ch.blk h)
        received := w.received ++ [w.mem f.ptr] } h c := by
  have hat := hw.reader
  have howns := hw.owns
  have hstored := hw.stored
  unfold RxDataWorld.ReaderAt at hat
  rw [hpass] at hat
  obtain ⟨k, f, rfl, rfl, rfl⟩ := hat
  unfold RxDataWorld.passed at howns
  unfold RxDataWorld.passing at hstored
  rw [hpass] at howns hstored
  -- The buffer is in none of the blocks any more, so the rest of the path stays as it is.
  refine ⟨f, rfl, rfl, hw.ready.nextOf k, howns, hw.desc_num, hw.ch_type, rfl, hw.le, hw.device,
    hw.filled, hw.armed, ?_, ?_⟩
  · intro j g hg
    rw [mapped_emit]
    exact hw.mapped j g hg
  · refine hstored.trans ?_
    rw [← List.append_assoc]
    rfl

/-- The descriptors after an iteration: the first of the lap has become its last, and is armed. -/
theorem slotValid_prepared (dma : BitVec 32) (old : SkBuff) {i : ℕ} (hi : i < n) :
    (preparedRx w.rx h dma old).ch.slotValid (h + 1 + i) =
      if i + 1 = n then true else w.rx.ch.slotValid (h + (i + 1)) := by
  have hn : (preparedRx w.rx h dma old).ch.desc_num = n :=
    (rxRearm_spec (filledRx w.rx h dma []) (h % w.rx.ch.desc_num)).2.1.trans hw.desc_num
  have hpos := hw.pos
  have hdxe := (rxRearm_dxe (s := filledRx w.rx h dma []) hw.ch_type (h % w.rx.ch.desc_num)).1
  have hread : (preparedRx w.rx h dma old).ch.slotValid (h + 1 + i) =
      (Function.update (filledRx w.rx h dma []).ch.dxe (h % n)
        { (filledRx w.rx h dma []).ch.dxe (h % n) with
          ctrl := rxCtrl (filledRx w.rx h dma []).ch.ch_type } ((h + (i + 1)) % n)).valid := by
    rw [DxeCh.slotValid, hn, show h + 1 + i = h + (i + 1) by omega, ← hw.desc_num, ← hdxe]
    rfl
  rw [hread]
  split_ifs with hlast
  · rw [hlast, Nat.add_mod_right, Function.update_self]
    exact valid_of_rxCtrl rfl
  · have hne : (h + (i + 1)) % n ≠ h % n := (hw.mod_ne (i := 0) (Nat.succ_pos i) (by omega)).symm
    have hfill : (filledRx w.rx h dma []).ch.dxe ((h + (i + 1)) % n) =
        w.rx.ch.dxe ((h + (i + 1)) % n) :=
      Function.update_of_ne (by rw [hw.desc_num]; exact hne) _ _
    rw [Function.update_of_ne hne, hfill, DxeCh.slotValid, hw.desc_num]

/-- The later blocks of the lap keep their buffers in an iteration. -/
theorem slotSkb_prepared (dma : BitVec 32) (old : SkBuff) {i : ℕ} (hi : i + 1 < n) :
    (preparedRx w.rx h dma old).ch.slotSkb (h + 1 + i) = w.rx.ch.slotSkb (h + (i + 1)) := by
  obtain ⟨hctl, hn, -⟩ := rxRearm_spec (filledRx w.rx h dma []) (h % w.rx.ch.desc_num)
  have hfill := slotSkb_filledCh hw.ready h (w.rx.newSkb dma) (h + (i + 1))
  have hne : ¬(h + (i + 1)) % w.rx.ch.desc_num = h % w.rx.ch.desc_num := by
    rw [hw.desc_num]
    exact (hw.mod_ne (i := 0) (Nat.succ_pos i) hi).symm
  rw [if_neg hne] at hfill
  rw [← hfill, show h + 1 + i = h + (i + 1) by omega]
  unfold DxeCh.slotSkb DxeCh.skbAt DxeCh.blk preparedRx RxState.emit
  dsimp only
  rw [hctl, hn]
  rfl

/-- The later blocks of the lap keep what is in their buffers. -/
theorem contents_prepared (dma : BitVec 32) (old : SkBuff) (reader : RxReader) :
    RxDataWorld.contents { w with rx := preparedRx w.rx h dma old, reader := reader } (h + 1) (c - 1) =
      (List.range (c - 1)).map fun i => w.content (h + (i + 1)) := by
  refine List.map_congr_left fun i hi => ?_
  have hle := hw.le
  rw [List.mem_range] at hi
  unfold RxDataWorld.content
  dsimp only
  rw [hw.slotSkb_prepared dma old (by omega)]

/-- An iteration with memory, up to the call of `wcn36xx_rx_skb`. -/
theorem prepare {ctl : ℕ} {dma : BitVec 32} (hloop : w.reader = .loop ctl)
    (hvalid : w.rx.ch.validAt ctl = some false) (hfree : w.rx.mapped dma = none) :
    0 < c ∧ ∃ old, rxPreparePacket { w.rx with allocs := [some dma] } ctl =
        some (preparedRx w.rx h dma old, some old) ∧
      RxPath n { w with rx := preparedRx w.rx h dma old, reader := .pass ctl (some old) } (h + 1)
        (c - 1) := by
  have hat := hw.reader
  have howns := hw.owns
  have hstored := hw.stored
  unfold RxDataWorld.ReaderAt at hat
  unfold RxDataWorld.passed at howns
  unfold RxDataWorld.passing at hstored
  rw [hloop] at hat howns hstored
  obtain rfl : ctl = w.rx.ch.blk h := hat
  rw [hw.ready.validAt, Option.some.injEq] at hvalid
  have hpos : 0 < c := by
    by_contra hzero
    exact Bool.false_ne_true (hvalid.symm.trans (hw.valid_reader_iff.mpr (by omega)))
  obtain ⟨old, hold, -⟩ := hw.buffer h
  obtain ⟨hctl, hn, hhead, -⟩ := rxRearm_spec (filledRx w.rx h dma []) (h % w.rx.ch.desc_num)
  -- What the next calls of `alloc_skb` come to is not in the invariant.
  have howns' : RxOwns { w.rx with allocs := [some dma] } :=
    howns.congr rfl rfl howns.head (fun _ => rfl) rfl rfl
  refine ⟨hpos, old, rxPreparePacket_some howns' hold rfl, ?_⟩
  have hle := hw.le
  constructor
  case owns => exact howns'.prepared hold rfl
  case desc_num => exact hn.trans hw.desc_num
  case ch_type =>
    have hty := (rxRearm_dxe (s := filledRx w.rx h dma []) hw.ch_type (h % w.rx.ch.desc_num)).2
    have hch : (preparedRx w.rx h dma old).ch.ch_type = w.rx.ch.ch_type := hty
    rw [hch]
    exact hw.ch_type
  case reader =>
    refine ⟨h, old, rfl, ?_, rfl⟩
    show w.rx.ch.blk h = (preparedRx w.rx h dma old).ch.blk h
    have hn' : (preparedRx w.rx h dma old).ch.desc_num = w.rx.ch.desc_num := hn
    rw [DxeCh.blk, DxeCh.blk, hn']
  case le => omega
  case device =>
    rw [hw.device]
    congr 1
    omega
  case filled =>
    intro i hi
    rw [hw.slotValid_prepared dma old (by omega), if_neg (by omega)]
    exact hw.filled (i + 1) (by omega)
  case armed =>
    -- The descriptor that has been armed is now the last of the lap.
    intro i hi hin
    rw [hw.slotValid_prepared dma old hin]
    split_ifs with hlast
    · rfl
    · exact hw.armed (i + 1) (by omega) (by omega)
  case mapped => exact RxMapped.prepared howns' hold (fun k f hf => hw.mapped k f hf) hfree
  case stored =>
    -- The first of the frames on their way is the one that is to be passed.
    have hfirst : w.contents h c = w.mem old.ptr ::
        (List.range (c - 1)).map fun i => w.content (h + (i + 1)) := by
      obtain ⟨m, rfl⟩ : ∃ m, c = m + 1 := ⟨c - 1, by omega⟩
      rw [RxDataWorld.contents, List.range_succ_eq_map, List.map_cons, List.map_map]
      congr 1
      rw [RxDataWorld.content, Nat.add_zero, hold]
      rfl
    rw [hw.contents_prepared]
    rw [hfirst] at hstored
    exact hstored

end RxPath

/-! ## The start -/

/-- The first `i` blocks of a channel that starts have a buffer each, which is mapped; all descriptors are
armed, and `dma_map_single` has addresses left for the other blocks. -/
structure RxArming (n i : ℕ) (s : RxState) : Prop where
  filled : RxFilled n i s
  ch_type : s.ch.ch_type = .rxL ∨ s.ch.ch_type = .rxH
  valid : ∀ k, s.ch.slotValid k = true
  mapped : ∀ j f, j < i → s.ch.slotSkb j = some f → s.mapped f.dma = some f.ptr
  nodup : s.allocs.Nodup
  free : ∀ dma, some dma ∈ s.allocs → s.mapped dma = none

/-- One iteration of `wcn36xx_dxe_ch_alloc_skb`. -/
theorem RxArming.fill {n i : ℕ} {s s' : RxState} {ret : ℤ} (h : RxArming n i s) (hi : i < n)
    (hrun : dxeFillSkb s (s.ch.blk i) = some (s', ret)) : RxArming n (i + 1) s' := by
  have hfilled := h.filled.fill hi hrun
  have hready := h.filled.ready
  have hn := h.filled.desc_num
  have hok := h.filled.ok
  have hnodup := h.nodup
  have hfree := h.free
  cases ha : s.allocs with
  | nil =>
    obtain ⟨c, hc, -⟩ := hready.ctl i
    simp [dxeFillSkb, hc, ha] at hrun
  | cons a rest =>
    rw [ha] at hok hnodup hfree
    obtain ⟨dma, rfl⟩ := Option.isSome_iff_exists.mp (hok a List.mem_cons_self)
    rw [dxeFillSkb_some hready i dma rest ha, Option.some.injEq, Prod.mk.injEq] at hrun
    obtain ⟨rfl, -⟩ := hrun
    obtain ⟨hnew, hnodup⟩ := List.nodup_cons.mp hnodup
    have hnone : s.mapped dma = none := hfree dma List.mem_cons_self
    refine ⟨hfilled, h.ch_type, fun k => ?_, fun j f hj hf => ?_, hnodup, fun a ha => ?_⟩
    · -- VALID is not written.
      have hctrl : ((filledRx s i dma rest).ch.dxe (k % n)).ctrl = (s.ch.dxe (k % n)).ctrl := by
        unfold filledRx filledCh DxeCh.modDesc DxeCh.setSkb
        dsimp only
        rcases eq_or_ne (k % n) (i % s.ch.desc_num) with heq | hne
        · rw [heq, Function.update_self]
        · rw [Function.update_of_ne hne]
      have hvalid := h.valid k
      rw [DxeCh.slotValid, hn, DxeDesc.valid] at hvalid
      have hn' : (filledRx s i dma rest).ch.desc_num = n := hn
      rw [DxeCh.slotValid, hn', DxeDesc.valid, hctrl]
      exact hvalid
    · have hslot : (filledRx s i dma rest).ch.slotSkb j = _ :=
        slotSkb_filledCh hready i (s.newSkb dma) j
      rw [hslot, hn, Nat.mod_eq_of_lt hi, Nat.mod_eq_of_lt (by omega)] at hf
      rw [mapped_filledRx]
      split_ifs at hf with hji
      · rw [← Option.some.inj hf, show (s.newSkb dma).dma = dma from rfl, Function.update_self]
        rfl
      · have hat := h.mapped j f (by omega) hf
        -- `dma_map_single` has not returned the address of another buffer.
        have hne : f.dma ≠ dma := fun heq => by
          rw [heq, hnone] at hat
          cases hat
        rw [Function.update_of_ne hne]
        exact hat
    · have hne : a ≠ dma := fun heq => hnew (heq ▸ ha)
      rw [mapped_filledRx, Function.update_of_ne hne]
      exact hfree a (List.mem_cons_of_mem _ ha)

/-- `wcn36xx_dxe_ch_alloc_skb` leaves a buffer in every block. -/
theorem RxArming.chAllocSkb {n : ℕ} {s s' : RxState} (h : RxArming n 0 s)
    (hrun : dxeChAllocSkb s = some s') : RxArming n n s' := by
  have hrun' := hrun
  simp only [dxeChAllocSkb, h.filled.head, h.filled.desc_num, Option.bind_eq_bind,
    Option.bind_eq_some_iff, Option.pure_def, Option.some.injEq] at hrun
  obtain ⟨⟨u, s₁⟩, hwalk, rfl⟩ := hrun
  have hblk : ∀ t : RxState, t.ch.desc_num = n → ∀ j, t.ch.blk j = s.ch.blk j := fun t ht j => by
    rw [DxeCh.blk, DxeCh.blk, ht, h.filled.desc_num]
  refine Support.walk_run _ _ s.ch.blk (fun i _ t => RxArming n i t) n ?_ n 0 () s u s₁
    (Nat.zero_add n) h hwalk
  intro i _ t _ t' hi hI hbody
  obtain ⟨⟨t₁, ret⟩, hfill, heq⟩ := Option.map_eq_some_iff.mp hbody
  cases heq
  rw [← hblk t hI.filled.desc_num] at hfill
  have hI' := hI.fill hi hfill
  refine ⟨?_, hI'⟩
  rw [← hblk _ hI'.filled.desc_num, ← hblk _ hI'.filled.desc_num]
  exact hI'.filled.ready.nextOf i

/-- The set-up leaves all descriptors armed. -/
theorem rxArming_setup {p : RxParams} {ch : DxeCh}
    (hsetup : rxChSetup p.is_low p.desc_num p.coherent = some ch)
    {allocs : List (Option (BitVec 32))} (hok : ∀ a ∈ allocs, a.isSome = true)
    (hnodup : allocs.Nodup) : RxArming p.desc_num 0 { ch := ch, allocs := allocs } := by
  have hinit : RxInv p { rx := { ch := ch } } := rxInv_init ⟨hsetup, rfl, rfl⟩
  have hn : (rxChConfig p.is_low p.desc_num).desc_num = p.desc_num := rfl
  have hpos : 0 < p.desc_num := Nat.lt_of_lt_of_le Nat.zero_lt_two p.two_le
  obtain ⟨A, ch', halloc, hinit', hring⟩ := ringSetup_spec (rxChConfig p.is_low p.desc_num)
    (by rw [hn]; exact p.two_le) rfl p.coherent.1 p.coherent.2
  simp only [rxChSetup, halloc, hinit', Option.bind_eq_bind, Option.bind_some, Option.pure_def,
    Option.some.injEq] at hsetup
  obtain rfl := hsetup
  have hty : (rxChConfig p.is_low p.desc_num).ch_type = .rxL ∨
      (rxChConfig p.is_low p.desc_num).ch_type = .rxH := by
    unfold rxChConfig
    cases p.is_low
    · exact .inr rfl
    · exact .inl rfl
  have htype : ch'.ch_type = (rxChConfig p.is_low p.desc_num).ch_type := by rw [hring.rest]
  refine ⟨hinit allocs hok, htype ▸ hty, fun k => ?_,
    fun j _ hj => absurd hj (Nat.not_lt_zero j), hnodup, fun _ _ => rfl⟩
  rw [DxeCh.slotValid, hring.desc_num, hring.dxe, initializedDesc, hn,
    if_pos (Nat.mod_lt k hpos)]
  rcases hty with hty | hty
  · rw [hty]
    exact @valid_of_rxCtrl .rxL _ rfl
  · rw [hty]
    exact @valid_of_rxCtrl .rxH _ rfl

/-- After the start the driver and the device are both at the head. -/
theorem RxArming.path {p : RxParams} {ch : DxeCh} {s : RxState}
    (hsetup : rxChSetup p.is_low p.desc_num p.coherent = some ch)
    {allocs : List (Option (BitVec 32))} (hok : ∀ a ∈ allocs, a.isSome = true)
    (hnodup : allocs.Nodup) (hrun : dxeChAllocSkb { ch := ch, allocs := allocs } = some s) :
    RxPath p.desc_num { rx := s, started := true } 0 0 := by
  have harming := rxArming_setup hsetup hok hnodup
  have hfull := harming.chAllocSkb hrun
  have hn := hfull.filled.desc_num
  refine ⟨harming.filled.chAllocSkb hrun, hn, hfull.ch_type, hfull.filled.head, Nat.zero_le _, rfl,
    fun i hi => absurd hi (Nat.not_lt_zero i), fun i _ _ => hfull.valid _, fun k f hf => ?_, rfl⟩
  have hpos : 0 < p.desc_num := Nat.lt_of_lt_of_le Nat.zero_lt_two p.two_le
  have hlap : s.ch.slotSkb (k % p.desc_num) = some f := by
    rw [← hf, DxeCh.slotSkb, DxeCh.slotSkb, s.ch.blk_mod k, hn]
  exact hfull.mapped _ f (Nat.mod_lt k hpos) hlap

/-! ## Steps -/

/-- The steps that a call has left to do when the device does nothing meanwhile. -/
def RxDataWorld.rank (w : RxDataWorld) : ℕ :=
  match w.reader with
  | .idle => 0
  | .loop _ => 2 * (w.stored.length - w.received.length) + 1
  | .pass _ _ => 2 * (w.stored.length - w.received.length)

/-- What a step of a call does: it stores nothing and comes closer to the end of the call, at which
everything has been received. -/
structure RxCallStep (n : ℕ) (w w' : RxDataWorld) : Prop where
  path : ∃ h c, RxPath n w' h c
  started : w'.started = w.started
  rank : w'.rank < w.rank
  stored : w'.stored = w.stored
  drained : w'.reader = .idle → w'.received = w'.stored

/-- The frames that are on their way are as many as there are stored ones that were not received. -/
theorem RxPath.length_stored {n h c : ℕ} {w : RxDataWorld} (hw : RxPath n w h c) :
    w.stored.length = w.received.length + w.passing.length + c := by
  rw [hw.stored, List.length_append, List.length_append, RxDataWorld.contents, List.length_map,
    List.length_range, Nat.add_assoc]

/-- With no frame on its way, everything has been received. -/
theorem RxPath.drained {n h : ℕ} {w : RxDataWorld} (hw : RxPath n w h 0) (hpassing : w.passing = []) :
    w.received = w.stored := by
  have hstored := hw.stored
  rw [hpassing, RxDataWorld.contents, List.range_zero, List.map_nil, List.append_nil,
    List.append_nil] at hstored
  exact hstored.symm

section Call

variable {p : RxParams} {n h c : ℕ} {w w' : RxDataWorld} (hw : RxPath n w h c)
include hw

/-- An iteration up to the call of `wcn36xx_rx_skb`. -/
theorem RxPath.call_prepare {alloc : Option (BitVec 32)} (hfresh : DmaFresh w (.prepare alloc))
    (hstep : (rxDataSystem p).step w (.prepare alloc) = some w') : RxCallStep n w w' := by
  obtain ⟨dma, rfl, hfree⟩ := hfresh
  simp only [rxDataSystem] at hstep
  split at hstep
  · rename_i ctl hloop
    simp only [Option.bind_eq_bind, Option.bind_eq_some_iff, Option.ite_none_left_eq_some,
      Option.pure_def, Option.some.injEq, Bool.not_eq_true] at hstep
    obtain ⟨valid, hvalid, rfl, ⟨rx, skb⟩, hprepare, rfl⟩ := hstep
    obtain ⟨hpos, old, hrun, hpath⟩ := hw.prepare hloop hvalid hfree
    rw [hrun, Option.some.injEq, Prod.mk.injEq] at hprepare
    obtain ⟨rfl, rfl⟩ := hprepare
    refine ⟨⟨_, _, hpath⟩, rfl, ?_, rfl, nofun⟩
    unfold RxDataWorld.rank
    rw [hloop]
    exact Nat.lt_succ_self _
  · cases hstep

/-- The call of `wcn36xx_rx_skb`, after which one frame more has been received. -/
theorem RxPath.call_pass (hstep : (rxDataSystem p).step w .pass = some w') : RxCallStep n w w' := by
  have hlen := hw.length_stored
  simp only [rxDataSystem] at hstep
  split at hstep
  · rename_i ctl skb hpass
    obtain ⟨f, rfl, hskb, hnext, hpath⟩ := hw.pass hpass
    simp only [hskb, hnext, Option.bind_eq_bind, Option.bind_some, Option.pure_def,
      Option.some.injEq, Option.toList_some, List.map_singleton] at hstep
    subst hstep
    have hone : w.passing.length = 1 := by
      unfold RxDataWorld.passing
      rw [hpass]
      rfl
    refine ⟨⟨_, _, hpath⟩, rfl, ?_, rfl, nofun⟩
    unfold RxDataWorld.rank
    rw [hpass]
    dsimp only
    rw [List.length_append, List.length_singleton]
    omega
  · cases hstep

/-- The end of a call: the descriptor that it is at is VALID, and so no frame is on its way. -/
theorem RxPath.call_leave (hstep : (rxDataSystem p).step w .leave = some w') : RxCallStep n w w' := by
  simp only [rxDataSystem] at hstep
  split at hstep
  · rename_i ctl hloop
    simp only [Option.bind_eq_bind, Option.bind_eq_some_iff, Option.ite_none_right_eq_some,
      Option.pure_def, Option.some.injEq] at hstep
    obtain ⟨valid, hvalid, rfl, rfl⟩ := hstep
    have hat := hw.reader
    unfold RxDataWorld.ReaderAt at hat
    rw [hloop] at hat
    obtain rfl : ctl = w.rx.ch.blk h := hat
    rw [hw.ready.validAt, Option.some.injEq] at hvalid
    obtain rfl : c = 0 := hw.valid_reader_iff.mp hvalid
    refine ⟨⟨_, _, hw.leave hloop⟩, rfl, ?_, rfl, fun _ => ?_⟩
    · unfold RxDataWorld.rank
      rw [hloop]
      exact Nat.succ_pos _
    · have hpassing : w.passing = [] := by
        unfold RxDataWorld.passing
        rw [hloop]
      exact hw.drained hpassing
  · cases hstep

/-- The steps of a call keep the path. -/
theorem RxPath.call {e : RxDataEvent} (hcall : e.IsCall) (hfresh : DmaFresh w e)
    (hstep : (rxDataSystem p).step w e = some w') : RxCallStep n w w' := by
  cases e with
  | start | store | enter => exact hcall.elim
  | prepare alloc => exact hw.call_prepare hfresh hstep
  | pass => exact hw.call_pass hstep
  | leave => exact hw.call_leave hstep

end Call

/-- What holds of the data path before and after the start. -/
def RxDataInv (p : RxParams) (w : RxDataWorld) : Prop :=
  if w.started then ∃ h c, RxPath p.desc_num w h c
  else ∃ ch, rxChSetup p.is_low p.desc_num p.coherent = some ch ∧ w = { rx := { ch := ch } }

/-- A call goes on only after the start. -/
theorem RxDataInv.started_of_call {p : RxParams} {w w' : RxDataWorld} {e : RxDataEvent}
    (hw : RxDataInv p w) (hcall : e.IsCall) (hstep : (rxDataSystem p).step w e = some w') :
    w.started = true := by
  by_contra hstarted
  rw [RxDataInv, if_neg hstarted] at hw
  obtain ⟨ch, -, rfl⟩ := hw
  cases e with
  | start | store | enter => exact hcall.elim
  | prepare | pass | leave => cases hstep

/-- Every step keeps it. -/
theorem RxDataInv.step {p : RxParams} {w w' : RxDataWorld} {e : RxDataEvent} (hw : RxDataInv p w)
    (hfresh : DmaFresh w e) (hstep : (rxDataSystem p).step w e = some w') : RxDataInv p w' := by
  have hcalls : e.IsCall → RxDataInv p w' := fun hcall => by
    have hstarted := hw.started_of_call hcall hstep
    rw [RxDataInv, if_pos hstarted] at hw
    obtain ⟨h, c, hw⟩ := hw
    have hnext := hw.call hcall hfresh hstep
    rw [RxDataInv, if_pos (hnext.started.trans hstarted)]
    exact hnext.path
  cases e with
  | start allocs =>
    simp only [rxDataSystem, Option.ite_none_left_eq_some, Option.bind_eq_bind,
      Option.bind_eq_some_iff, Option.ite_none_right_eq_some, Option.pure_def,
      Option.some.injEq] at hstep
    obtain ⟨hstarted, rx, hrun, -, rfl⟩ := hstep
    rw [RxDataInv, if_neg hstarted] at hw
    obtain ⟨ch, hsetup, rfl⟩ := hw
    rw [RxDataInv, if_pos rfl]
    exact ⟨0, 0, RxArming.path hsetup hfresh.1 hfresh.2 hrun⟩
  | store frame =>
    simp only [rxDataSystem, Option.ite_none_right_eq_some] at hstep
    obtain ⟨⟨hstarted, hvalid⟩, hrun⟩ := hstep
    rw [RxDataInv, if_pos hstarted] at hw
    obtain ⟨h, c, hw⟩ := hw
    have hstarted' : w'.started = true := by
      obtain ⟨ptr, -, rfl⟩ := Option.map_eq_some_iff.mp hrun
      exact hstarted
    rw [RxDataInv, if_pos hstarted']
    exact ⟨h, c + 1, hw.store hvalid hrun⟩
  | enter =>
    simp only [rxDataSystem, Option.ite_none_right_eq_some, Option.bind_eq_bind,
      Option.bind_eq_some_iff, Option.pure_def, Option.some.injEq] at hstep
    obtain ⟨⟨hstarted, hidle⟩, ctl, hctl, rfl⟩ := hstep
    rw [RxDataInv, if_pos hstarted] at hw
    obtain ⟨h, c, hw⟩ := hw
    obtain ⟨hhead, hpath⟩ := hw.enter hidle
    rw [hhead, Option.some.injEq] at hctl
    rw [RxDataInv, if_pos hstarted, ← hctl]
    exact ⟨h, c, hpath⟩
  | prepare | pass | leave => exact hcalls trivial

/-! ## Whole runs -/

/-- It holds in every run in which `alloc_skb` does not fail. -/
theorem rxDataInv_of_reachable {p : RxParams} {w : RxDataWorld}
    (h : (rxDataSystem p).ReachableWhen DmaFresh w) : RxDataInv p w := by
  refine h.invariant (I := RxDataInv p) ?_ fun _ _ _ hw hfresh hstep => hw.step hfresh hstep
  rintro w ⟨ch, hsetup, rfl⟩
  exact ⟨ch, hsetup, rfl⟩

/-- What has been received when it holds. -/
theorem RxDataInv.received {p : RxParams} {w : RxDataWorld} (hw : RxDataInv p w) :
    w.received <+: w.stored ∧ (w.reader = .idle →
      w.rx.ch.head_blk_ctl.bind w.rx.ch.validAt = some true → w.received = w.stored) := by
  unfold RxDataInv at hw
  split_ifs at hw with hstarted
  · obtain ⟨k, c, hw⟩ := hw
    refine ⟨⟨_, hw.stored.symm⟩, fun hidle hvalid => ?_⟩
    obtain ⟨hhead, -⟩ := hw.enter hidle
    rw [hhead, Option.bind_some, hw.ready.validAt, Option.some.injEq] at hvalid
    obtain rfl : c = 0 := hw.valid_reader_iff.mp hvalid
    have hpassing : w.passing = [] := by
      unfold RxDataWorld.passing
      rw [hidle]
    exact hw.drained hpassing
  · obtain ⟨ch, -, rfl⟩ := hw
    exact ⟨List.prefix_rfl, fun _ _ => rfl⟩

/-- What has not been received when it holds is in one of the buffers, or about to be passed. -/
theorem RxDataInv.length_stored {p : RxParams} {w : RxDataWorld} (hw : RxDataInv p w) :
    w.stored.length ≤ w.received.length + (p.desc_num + 1) := by
  unfold RxDataInv at hw
  split_ifs at hw with hstarted
  · obtain ⟨k, c, hw⟩ := hw
    have hle := hw.le
    have hone : w.passing.length ≤ 1 := by
      unfold RxDataWorld.passing
      split
      · exact Nat.le_refl 1
      · exact Nat.zero_le 1
    rw [hw.length_stored]
    omega
  · obtain ⟨ch, -, rfl⟩ := hw
    exact Nat.zero_le _

/-- In every run in which `alloc_skb` does not fail, with the device storing frames between any two steps of
the driver, what has been received is a prefix of what the device has stored: in this order, nothing twice,
nothing left out and nothing overwritten. What has not been received is at most a lap and one frame, and
nothing when no call is going on and the descriptor at the head is VALID. -/
theorem rxReceived_fifo (p : RxParams) (w : RxDataWorld)
    (h : (rxDataSystem p).ReachableWhen DmaFresh w) :
    w.received <+: w.stored ∧ w.stored.length ≤ w.received.length + (p.desc_num + 1) ∧
      (w.reader = .idle → w.rx.ch.head_blk_ctl.bind w.rx.ch.validAt = some true →
        w.received = w.stored) := by
  have hw := rxDataInv_of_reachable h
  obtain ⟨hpre, hall⟩ := hw.received
  exact ⟨hpre, hw.length_stored, hall⟩

/-- The steps of a call without the device. -/
theorem RxPath.calls {p : RxParams} {n : ℕ} {w w' : RxDataWorld} {es : List RxDataEvent}
    (hw : ∃ h c, RxPath n w h c) (hcall : ∀ e ∈ es, e.IsCall)
    (hrun : (rxDataSystem p).runWhen DmaFresh w es = some w') :
    es.length + w'.rank ≤ w.rank ∧ (w.reader ≠ .idle → w'.reader = .idle →
      w'.received = w.stored) := by
  have hstep : ∀ (s : RxDataWorld) (e : RxDataEvent) (s' : RxDataWorld),
      ((∃ h c, RxPath n s h c) ∧ s.stored = w.stored ∧
        (w.reader ≠ .idle → s.reader = .idle → s.received = w.stored)) → e.IsCall →
      DmaFresh s e → (rxDataSystem p).step s e = some s' →
      ((∃ h c, RxPath n s' h c) ∧ s'.stored = w.stored ∧
        (w.reader ≠ .idle → s'.reader = .idle → s'.received = w.stored)) ∧ s'.rank < s.rank := by
    rintro s e s' ⟨⟨h, c, hs⟩, hstored, -⟩ hcall hfresh he
    have hone := hs.call hcall hfresh he
    have hstored' := hone.stored.trans hstored
    exact ⟨⟨hone.path, hstored', fun _ hidle => (hone.drained hidle).trans hstored'⟩, hone.rank⟩
  obtain ⟨⟨-, -, hdrained⟩, hrank⟩ := Support.System.runWhen_rank hstep
    ⟨hw, rfl, fun hbusy hidle => absurd hidle hbusy⟩ hcall hrun
  exact ⟨hrank, hdrained⟩

/-- The device never stores through an address that is not mapped, or into a buffer that mac80211 has got or
is about to get; a call of `wcn36xx_rx_handle_packets` never faults, and when the device does nothing
meanwhile it returns after two steps for each frame and one more, with everything received. -/
structure RxServed (p : RxParams) (w : RxDataWorld) : Prop where
  store : w.rx.ch.slotValid w.device = true → ∃ ptr,
    w.rx.mapped (w.rx.ch.dxe (w.device % w.rx.ch.desc_num)).dst_addr_l = some ptr ∧
      ptr ∉ w.passed.delivered.map SkBuff.ptr
  goes_on : w.reader ≠ .idle → ∀ dma, w.rx.mapped dma = none →
    ∃ e : RxDataEvent, e.IsCall ∧ DmaFresh w e ∧ ((rxDataSystem p).step w e).isSome = true
  ends : ∀ es w', (∀ e ∈ es, e.IsCall) → (rxDataSystem p).runWhen DmaFresh w es = some w' →
    es.length ≤ 2 * (w.stored.length - w.received.length) + 1 ∧
      (w.reader ≠ .idle → w'.reader = .idle → w'.received = w.stored)

/-- That is so in every run in which `alloc_skb` does not fail. -/
theorem rxServed_of_dmaFresh (p : RxParams) (w : RxDataWorld)
    (h : (rxDataSystem p).ReachableWhen DmaFresh w) (hstarted : w.started = true) :
    RxServed p w := by
  have hinv := rxDataInv_of_reachable h
  rw [RxDataInv, if_pos hstarted] at hinv
  obtain ⟨k, c, hw⟩ := hinv
  refine ⟨fun hvalid => ?_, fun hbusy dma hfree => ?_, fun es w' hcall hrun => ?_⟩
  · obtain ⟨f, hf, -, -, hnot⟩ := hw.owns.skb (k + c)
    rw [w.passed_ch] at hf
    obtain ⟨g, hg, hdst, hmapped⟩ := hw.buffer (k + c)
    rw [hf, Option.some.injEq] at hg
    subst hg
    refine ⟨f.ptr, ?_, hnot⟩
    rw [hw.desc_num, hw.device, hdst, hmapped]
  · cases hreader : w.reader with
    | idle => exact absurd hreader hbusy
    | loop ctl =>
      have hat := hw.reader
      unfold RxDataWorld.ReaderAt at hat
      rw [hreader] at hat
      obtain rfl : ctl = w.rx.ch.blk k := hat
      have hvalidAt := hw.ready.validAt k
      cases hvalid : w.rx.ch.slotValid k with
      | true =>
        refine ⟨.leave, trivial, trivial, ?_⟩
        simp only [rxDataSystem, hreader, hvalidAt, hvalid, Option.bind_eq_bind, Option.bind_some,
          if_true, Option.pure_def]
        rfl
      | false =>
        obtain ⟨-, old, hprepare, -⟩ := hw.prepare hreader (hvalid ▸ hvalidAt) hfree
        refine ⟨.prepare (some dma), trivial, ⟨dma, rfl, hfree⟩, ?_⟩
        simp only [rxDataSystem, hreader, hvalidAt, hvalid, hprepare, Option.bind_eq_bind,
          Option.bind_some, Bool.false_eq_true, if_false, Option.pure_def]
        rfl
    | pass ctl skb =>
      obtain ⟨f, rfl, hskb, hnext, -⟩ := hw.pass hreader
      refine ⟨.pass, trivial, trivial, ?_⟩
      simp only [rxDataSystem, hreader, hskb, hnext, Option.bind_eq_bind, Option.bind_some,
        Option.pure_def]
      rfl
  · obtain ⟨hrank, hdrained⟩ := RxPath.calls ⟨k, c, hw⟩ hcall hrun
    refine ⟨?_, hdrained⟩
    have hle : w.rank ≤ 2 * (w.stored.length - w.received.length) + 1 := by
      unfold RxDataWorld.rank
      split <;> omega
    omega

/-- The frame that a step of the device brings. -/
def RxDataEvent.frame : RxDataEvent → List (List Byte)
  | .store frame => [frame]
  | .start _ | .enter | .prepare _ | .pass | .leave => []

/-- `stored` is the record of these frames. -/
theorem rxData_stored {p : RxParams} {w w' : RxDataWorld} {e : RxDataEvent}
    (hstep : (rxDataSystem p).step w e = some w') : w'.stored = w.stored ++ e.frame := by
  cases e with
  | store frame =>
    obtain ⟨-, hrun⟩ := Option.ite_none_right_eq_some.mp hstep
    obtain ⟨ptr, -, rfl⟩ := Option.map_eq_some_iff.mp hrun
    rfl
  | start allocs =>
    simp only [rxDataSystem, Option.ite_none_left_eq_some, Option.bind_eq_bind,
      Option.bind_eq_some_iff, Option.ite_none_right_eq_some, Option.pure_def,
      Option.some.injEq] at hstep
    obtain ⟨-, rx, -, -, rfl⟩ := hstep
    exact (List.append_nil _).symm
  | enter =>
    simp only [rxDataSystem, Option.ite_none_right_eq_some, Option.bind_eq_bind,
      Option.bind_eq_some_iff, Option.pure_def, Option.some.injEq] at hstep
    obtain ⟨-, ctl, -, rfl⟩ := hstep
    exact (List.append_nil _).symm
  | prepare alloc =>
    simp only [rxDataSystem] at hstep
    split at hstep
    · simp only [Option.bind_eq_bind, Option.bind_eq_some_iff, Option.ite_none_left_eq_some,
        Option.pure_def, Option.some.injEq] at hstep
      obtain ⟨-, -, -, -, -, rfl⟩ := hstep
      exact (List.append_nil _).symm
    · cases hstep
  | pass =>
    simp only [rxDataSystem] at hstep
    split at hstep
    · simp only [Option.bind_eq_bind, Option.bind_eq_some_iff, Option.pure_def,
        Option.some.injEq] at hstep
      obtain ⟨-, -, -, -, -, -, rfl⟩ := hstep
      exact (List.append_nil _).symm
    · cases hstep
  | leave =>
    simp only [rxDataSystem] at hstep
    split at hstep
    · simp only [Option.bind_eq_bind, Option.bind_eq_some_iff, Option.ite_none_right_eq_some,
        Option.pure_def, Option.some.injEq] at hstep
      obtain ⟨-, -, -, rfl⟩ := hstep
      exact (List.append_nil _).symm
    · cases hstep

/-- So it is over a whole run. -/
theorem rxDataRun_stored {p : RxParams} {w w' : RxDataWorld} {es : List RxDataEvent}
    (hrun : (rxDataSystem p).runFrom w es = some w') :
    w'.stored = w.stored ++ es.flatMap RxDataEvent.frame := by
  induction es generalizing w with
  | nil =>
    rw [Support.System.runFrom, Option.some.injEq] at hrun
    rw [hrun, List.flatMap_nil, List.append_nil]
  | cons e es ih =>
    obtain ⟨v, hv, hrest⟩ := Option.bind_eq_some_iff.mp hrun
    rw [ih hrest, rxData_stored hv, List.flatMap_cons, List.append_assoc]

/-- The channel after the set-up, with its device. -/
def rxDataStart (p : RxParams) : Option RxDataWorld :=
  (rxChSetup p.is_low p.desc_num p.coherent).map fun ch => { rx := { ch := ch } }

/-- What a replay from there comes to is the end of a run, in which the device has stored the frames of the
replay. -/
theorem rxDataStart_run {p : RxParams} {es : List RxDataEvent} {w : RxDataWorld}
    (hrun : ((rxDataStart p).bind fun w => (rxDataSystem p).runWhen DmaFresh w es) = some w) :
    (rxDataSystem p).ReachableWhen DmaFresh w ∧ w.stored = es.flatMap RxDataEvent.frame := by
  obtain ⟨w₀, hw₀, hrun⟩ := Option.bind_eq_some_iff.mp hrun
  obtain ⟨ch, hch, rfl⟩ := Option.map_eq_some_iff.mp hw₀
  refine ⟨Support.System.ReachableWhen.runWhen (.init ⟨ch, hch, rfl⟩) hrun, ?_⟩
  exact rxDataRun_stored (Support.System.runFrom_of_runWhen hrun)

/-- The RX high channel receives a frame, and a second one while the driver handles the first. -/
def twoFrames (first second : List Byte) : List RxDataEvent :=
  [.start rxHighBuffers, .store first, .enter, .prepare (some 0x90000), .store second, .pass]

/-- The first frame has been received, and the second one is still to come. -/
theorem rxReceived_fifo_two_frames : ∃ w, (rxDataSystem rxHighParams).ReachableWhen DmaFresh w ∧
    w.received.length = 1 ∧ w.received <+: [[1], [2]] := by
  obtain ⟨w, hrun, hw⟩ : ∃ w, ((rxDataStart rxHighParams).bind fun w =>
      (rxDataSystem rxHighParams).runWhen DmaFresh w (twoFrames [1] [2])) = some w ∧
      (fun w : RxDataWorld => decide (w.received.length = 1)) w = true :=
    (Option.any_eq_true _ _).mp (by decide +kernel)
  obtain ⟨hreach, hstored⟩ := rxDataStart_run hrun
  have hpre := (rxReceived_fifo rxHighParams w hreach).1
  rw [hstored] at hpre
  exact ⟨w, hreach, of_decide_eq_true hw, hpre⟩

/-- There the call has three more steps to do at most. -/
theorem rxServed_of_dmaFresh_two_frames :
    ∃ w, w.started = true ∧ w.reader ≠ .idle ∧ RxServed rxHighParams w := by
  obtain ⟨w, hrun, hw⟩ : ∃ w, ((rxDataStart rxHighParams).bind fun w =>
      (rxDataSystem rxHighParams).runWhen DmaFresh w (twoFrames [1] [2])) = some w ∧
      (fun w : RxDataWorld => decide (w.started = true ∧ w.reader ≠ .idle)) w = true :=
    (Option.any_eq_true _ _).mp (by decide +kernel)
  obtain ⟨hstarted, hbusy⟩ := of_decide_eq_true hw
  exact ⟨w, hstarted, hbusy,
    rxServed_of_dmaFresh rxHighParams w (rxDataStart_run hrun).1 hstarted⟩

end Wcn36xx
