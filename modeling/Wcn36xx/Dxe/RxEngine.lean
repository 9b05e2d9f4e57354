import Wcn36xx.Dxe.Registers
import Wcn36xx.Dxe.RxData

/-!
# The DMA engine of an RX channel

`rxDataSystem` lets the device take the descriptors in the order of the ring. As on a TX channel, the engine
has a bus address and the links of the descriptors, and nothing else. `rxEngine_runs` says that from where
`wcn36xx_dxe_init` starts it, it takes them in that order, whatever the driver does meanwhile.
-/

namespace Wcn36xx

open Support (System walk)

/-! ## Nothing that the driver does reaches the links -/

/-- `wcn36xx_dxe_fill_skb`. -/
theorem dxeFillSkb_sameBus {s s' : RxState} {ctl : ℕ} {ret : ℤ}
    (h : dxeFillSkb s ctl = some (s', ret)) : s.ch.SameBus s'.ch := by
  unfold dxeFillSkb at h
  simp only [Option.bind_eq_bind, Option.bind_eq_some_iff, Option.pure_def] at h
  obtain ⟨c, -, h⟩ := h
  split at h
  · cases h
  · rw [Option.some.injEq, Prod.mk.injEq] at h
    rw [← h.1]
    exact .of_eq rfl rfl rfl
  · simp only [Option.bind_eq_some_iff, Option.some.injEq, Prod.mk.injEq] at h
    obtain ⟨dxe, -, ch, hch, rfl, -⟩ := h
    have hdst : ∀ dma, s.ch.SameBus (s.ch.modDesc dxe fun d => { d with dst_addr_l := dma }) :=
      fun dma => .modDesc _ _ fun _ => rfl
    exact (hdst _).trans (.modCtl hch)

/-- The `switch` of `wcn36xx_rx_handle_packets`. -/
theorem rxRearm_sameBus (s : RxState) (dxe : ℕ) : s.ch.SameBus (rxRearm s dxe).ch := by
  have hmod : ∀ ctrl, s.ch.SameBus (s.ch.modDesc dxe fun d => { d with ctrl := ctrl }) :=
    fun ctrl => .modDesc _ _ fun _ => rfl
  unfold rxRearm
  split
  · exact hmod _
  · exact hmod _
  · exact .of_eq rfl rfl rfl
  · exact .of_eq rfl rfl rfl

/-- The body of the loop of `wcn36xx_rx_handle_packets` up to the call of `wcn36xx_rx_skb`. -/
theorem rxPreparePacket_sameBus {s s' : RxState} {ctl : ℕ} {skb : Option SkBuff}
    (h : rxPreparePacket s ctl = some (s', skb)) : s.ch.SameBus s'.ch := by
  unfold rxPreparePacket at h
  simp only [Option.bind_eq_bind, Option.bind_eq_some_iff, Option.pure_def, Option.some.injEq,
    Prod.mk.injEq] at h
  obtain ⟨c, -, dxe, -, ⟨t, ret⟩, hfill, rfl, -⟩ := h
  exact (dxeFillSkb_sameBus hfill).trans (rxRearm_sameBus t dxe)

/-- A step of the driver changes neither the links nor what the device has done. -/
theorem rxData_driver {p : RxParams} {w w' : RxDataWorld} {e : RxDataEvent}
    (hstep : (rxDataSystem p).step w e = some w') (hstore : ∀ frame, e ≠ .store frame)
    (hstart : ∀ allocs, e ≠ .start allocs) :
    w.rx.ch.SameBus w'.rx.ch ∧ w'.device = w.device ∧ w'.stored = w.stored ∧
      w'.started = w.started := by
  cases e with
  | start allocs => exact absurd rfl (hstart allocs)
  | store frame => exact absurd rfl (hstore frame)
  | enter =>
    simp only [rxDataSystem, Option.ite_none_right_eq_some, Option.bind_eq_bind,
      Option.bind_eq_some_iff, Option.pure_def, Option.some.injEq] at hstep
    obtain ⟨-, ctl, -, rfl⟩ := hstep
    exact ⟨.of_eq rfl rfl rfl, rfl, rfl, rfl⟩
  | prepare alloc =>
    simp only [rxDataSystem] at hstep
    split at hstep
    · simp only [Option.bind_eq_bind, Option.bind_eq_some_iff, Option.ite_none_left_eq_some,
        Option.pure_def, Option.some.injEq] at hstep
      obtain ⟨valid, -, -, ⟨rx, skb⟩, hprepare, rfl⟩ := hstep
      have hbus := rxPreparePacket_sameBus hprepare
      exact ⟨hbus, rfl, rfl, rfl⟩
    · cases hstep
  | pass =>
    simp only [rxDataSystem] at hstep
    split at hstep
    · simp only [Option.bind_eq_bind, Option.bind_eq_some_iff, Option.pure_def,
        Option.some.injEq] at hstep
      obtain ⟨rx, hskb, next, -, ctl, -, rfl⟩ := hstep
      obtain ⟨skb, -, rfl⟩ := Option.map_eq_some_iff.mp hskb
      exact ⟨.of_eq rfl rfl rfl, rfl, rfl, rfl⟩
    · cases hstep
  | leave =>
    simp only [rxDataSystem] at hstep
    split at hstep
    · simp only [Option.bind_eq_bind, Option.bind_eq_some_iff, Option.ite_none_right_eq_some,
        Option.pure_def, Option.some.injEq] at hstep
      obtain ⟨valid, -, -, rfl⟩ := hstep
      exact ⟨.of_eq rfl rfl rfl, rfl, rfl, rfl⟩
    · cases hstep

/-! ## The system -/

/-- A started RX channel, and the bus address that its engine is at. -/
structure RxEngineWorld where
  rx : RxState
  next : BitVec 32
  reader : RxReader := .idle
  /-- The bytes behind a buffer. -/
  mem : ℕ → List Byte := fun _ => []
  /-- What the device has stored so far. -/
  stored : List (List Byte) := []
  /-- What has been in the buffers when they were passed to `wcn36xx_rx_skb`. -/
  received : List (List Byte) := []

namespace RxEngineWorld

variable (w : RxEngineWorld)

/-- The same state with a position on the ring instead of a bus address: the engine has gone as many steps
as it has stored frames. -/
def ring : RxDataWorld where
  rx := w.rx
  started := true
  reader := w.reader
  mem := w.mem
  device := w.stored.length
  stored := w.stored
  received := w.received

/-- The driver has taken a step, and the engine has not. -/
def setDriver (s : RxDataWorld) : RxEngineWorld where
  rx := s.rx
  next := w.next
  reader := s.reader
  mem := s.mem
  stored := s.stored
  received := s.received

/-- The engine stores a frame through descriptor `i` and follows its link. -/
def storeAt (i ptr : ℕ) (frame : List Byte) : RxEngineWorld :=
  { w with
    rx := { w.rx with ch := w.rx.ch.modDesc i DxeDesc.clearValid }
    next := (w.rx.ch.dxe i).phy_next_l
    mem := Function.update w.mem ptr frame, stored := w.stored ++ [frame] }

/-- The engine stores a frame if the descriptor at its address is VALID. A store to an address that is not
mapped is a fault. -/
def store (frame : List Byte) : Option RxEngineWorld := do
  let i ← w.rx.ch.descAt w.next
  if (w.rx.ch.dxe i).valid then
    let ptr ← w.rx.mapped (w.rx.ch.dxe i).dst_addr_l
    return w.storeAt i ptr frame
  else none

end RxEngineWorld

/-- The transition system of a started RX channel with its engine, which starts where `wcn36xx_dxe_init` has
programmed it to. -/
def rxEngineSystem (p : RxParams) : System RxEngineWorld RxDataEvent where
  init w := ∃ ch allocs rx chip_version chs regs regs',
    rxChSetup p.is_low p.desc_num p.coherent = some ch ∧
    dxeChAllocSkb { ch := ch, allocs := allocs } = some rx ∧ rx.allocs.isEmpty = true ∧
    chs (if p.is_low then .rxL else .rxH) = rx.ch ∧ dxeInitRegs chip_version chs regs = some regs' ∧
    w = { rx := rx
          next := regs' (WCN36XX_DXE_CH_NEXT_DESC_ADDR (if p.is_low then .rxL else .rxH)) }
  step w
    | .start _ => none
    | .store frame => w.store frame
    | e => ((rxDataSystem p).step w.ring e).map w.setDriver

/-! ## The engine stays on the ring -/

/-- The engine is at the descriptor at which `rxDataSystem` has the device, of a ring that its links do not
leave. -/
structure RxEngineOnRing (w : RxEngineWorld) : Prop where
  linked : w.rx.ch.BusLinked
  position : w.rx.ch.descAt w.next = some (w.stored.length % w.rx.ch.desc_num)

namespace RxEngineOnRing

variable {p : RxParams} {w w' : RxEngineWorld} (h : RxEngineOnRing w)
include h

/-- A step of the driver, as a step of `rxDataSystem`. -/
theorem driver {e : RxDataEvent} {s : RxDataWorld} (hstep : (rxDataSystem p).step w.ring e = some s)
    (hstore : ∀ frame, e ≠ .store frame) (hstart : ∀ allocs, e ≠ .start allocs) :
    (w.setDriver s).ring = s ∧ RxEngineOnRing (w.setDriver s) := by
  -- The driver moves neither the device nor what it has stored.
  obtain ⟨hbus, hdevice, hstored, hstarted⟩ := rxData_driver hstep hstore hstart
  obtain ⟨rx, started, reader, mem, device, stored, received⟩ := s
  obtain rfl : stored = w.stored := hstored
  obtain rfl : device = w.stored.length := hdevice
  obtain rfl : started = true := hstarted
  refine ⟨rfl, hbus.busLinked h.linked, ?_⟩
  refine (hbus.descAt w.next).trans (h.position.trans ?_)
  exact congrArg (fun n => some (w.stored.length % n)) hbus.desc_num.symm

/-- The engine stores a frame and follows the link of its descriptor. -/
theorem storeAt (ptr : ℕ) (frame : List Byte) :
    RxEngineOnRing (w.storeAt (w.stored.length % w.rx.ch.desc_num) ptr frame) := by
  have hbus : w.rx.ch.SameBus
      (w.storeAt (w.stored.length % w.rx.ch.desc_num) ptr frame).rx.ch :=
    .modDesc _ _ fun _ => rfl
  have hlen : (w.storeAt (w.stored.length % w.rx.ch.desc_num) ptr frame).stored.length =
      w.stored.length + 1 := List.length_append
  refine ⟨hbus.busLinked h.linked, ?_⟩
  rw [hbus.descAt, hbus.desc_num, hlen, ← Nat.mod_add_mod]
  exact h.linked _ (DxeCh.descAt_lt h.position)

/-- Every step is the step of `rxDataSystem` on the same event, and where there is none there is none. -/
theorem map_step (e : RxDataEvent) :
    ((rxEngineSystem p).step w e).map RxEngineWorld.ring = (rxDataSystem p).step w.ring e := by
  have hdriver : ∀ e, (∀ frame, e ≠ RxDataEvent.store frame) → (∀ allocs, e ≠ .start allocs) →
      (((rxDataSystem p).step w.ring e).map w.setDriver).map RxEngineWorld.ring =
        (rxDataSystem p).step w.ring e := by
    intro e hstore hstart
    cases hstep : (rxDataSystem p).step w.ring e with
    | none => rfl
    | some s => rw [Option.map_some, Option.map_some, (h.driver hstep hstore hstart).1]
  cases e with
  | start allocs => rfl
  | enter => exact hdriver .enter nofun nofun
  | prepare alloc => exact hdriver (.prepare alloc) nofun nofun
  | pass => exact hdriver .pass nofun nofun
  | leave => exact hdriver .leave nofun nofun
  | store frame =>
    have hvalid : w.ring.rx.ch.slotValid w.ring.device =
        (w.rx.ch.dxe (w.stored.length % w.rx.ch.desc_num)).valid := rfl
    simp only [rxEngineSystem, rxDataSystem, RxEngineWorld.store, h.position, hvalid,
      Option.bind_eq_bind, Option.bind_some, Option.pure_def]
    by_cases hv : (w.rx.ch.dxe (w.stored.length % w.rx.ch.desc_num)).valid = true
    · rw [if_pos hv, if_pos ⟨rfl, hv⟩]
      -- Both store through the same descriptor.
      change _ = (w.rx.mapped (w.rx.ch.dxe (w.stored.length % w.rx.ch.desc_num)).dst_addr_l).map _
      cases w.rx.mapped (w.rx.ch.dxe (w.stored.length % w.rx.ch.desc_num)).dst_addr_l with
      | none => rfl
      | some ptr =>
        rw [Option.bind_some, Option.map_some, Option.map_some, Option.some.injEq]
        unfold RxEngineWorld.ring RxEngineWorld.storeAt RxDataWorld.storeAt
        dsimp only
        rw [List.length_append, List.length_singleton]
    · rw [if_neg hv, if_neg fun hand => hv hand.2, Option.map_none]

/-- Every step keeps the engine on the ring. -/
theorem step {e : RxDataEvent} (hstep : (rxEngineSystem p).step w e = some w') : RxEngineOnRing w' := by
  have hdriver : ∀ e, (∀ frame, e ≠ RxDataEvent.store frame) → (∀ allocs, e ≠ .start allocs) →
      ((rxDataSystem p).step w.ring e).map w.setDriver = some w' → RxEngineOnRing w' := by
    intro e hstore hstart hrun
    obtain ⟨s, hs, rfl⟩ := Option.map_eq_some_iff.mp hrun
    exact (h.driver hs hstore hstart).2
  cases e with
  | start allocs => cases hstep
  | enter => exact hdriver .enter nofun nofun hstep
  | prepare alloc => exact hdriver (.prepare alloc) nofun nofun hstep
  | pass => exact hdriver .pass nofun nofun hstep
  | leave => exact hdriver .leave nofun nofun hstep
  | store frame =>
    simp only [rxEngineSystem, RxEngineWorld.store, h.position, Option.bind_eq_bind,
      Option.bind_some, Option.ite_none_right_eq_some, Option.bind_eq_some_iff, Option.pure_def,
      Option.some.injEq] at hstep
    obtain ⟨-, ptr, -, rfl⟩ := hstep
    exact h.storeAt ptr frame

end RxEngineOnRing

/-! ## Where the engine starts -/

/-- After the set-up of an RX channel its links are those of the ring, and the descriptor of its head is the
first of the array. -/
theorem rxChSetup_bus {is_low : Bool} {n cpu_addr : ℕ} {dma_addr : BitVec 32} {ch : DxeCh} (hn : 2 ≤ n)
    (hwrap : dma_addr.toNat + n * DxeDesc.size ≤ 2 ^ 32)
    (h : rxChSetup is_low n (cpu_addr, dma_addr) = some ch) :
    InitializedRing (rxChConfig is_low n) ch cpu_addr dma_addr ∧ ch.BusLinked := by
  have hnum : (rxChConfig is_low n).desc_num = n := rfl
  obtain ⟨A, ch', halloc, hinit, hring⟩ := ringSetup_spec (rxChConfig is_low n)
    (by rw [hnum]; exact hn) rfl cpu_addr dma_addr
  simp only [rxChSetup, halloc, hinit, Option.bind_eq_bind, Option.bind_some, Option.pure_def,
    Option.some.injEq] at h
  obtain rfl := h
  have hdma : ch'.dma_addr = dma_addr := by rw [hring.rest]
  refine ⟨hring, ?_⟩
  apply busLinked_of_initialized
  · rwa [hdma, hring.desc_num, hnum]
  · rw [hdma, hring.desc_num]
    exact hring.dxe

/-- The links are kept, and with them the head and the bus address of the descriptor of every block. -/
structure SameStart (ch ch' : DxeCh) : Prop where
  bus : ch.SameBus ch'
  head : ch'.head_blk_ctl = ch.head_blk_ctl
  phy : ∀ p, (ch'.ctl p).map DxeCtl.desc_phy_addr = (ch.ctl p).map DxeCtl.desc_phy_addr

/-- `wcn36xx_dxe_fill_skb` writes a buffer and its address. -/
theorem dxeFillSkb_sameStart {s s' : RxState} {ctl : ℕ} {ret : ℤ}
    (h : dxeFillSkb s ctl = some (s', ret)) : SameStart s.ch s'.ch := by
  have hbus := dxeFillSkb_sameBus h
  unfold dxeFillSkb at h
  simp only [Option.bind_eq_bind, Option.bind_eq_some_iff, Option.pure_def] at h
  obtain ⟨c, -, h⟩ := h
  split at h
  · cases h
  · rw [Option.some.injEq, Prod.mk.injEq] at h
    obtain ⟨rfl, -⟩ := h
    exact ⟨hbus, rfl, fun _ => rfl⟩
  · simp only [Option.bind_eq_some_iff, Option.some.injEq, Prod.mk.injEq] at h
    obtain ⟨dxe, -, ch, hch, rfl, -⟩ := h
    obtain ⟨c', hc', rfl⟩ := Option.map_eq_some_iff.mp hch
    refine ⟨hbus, rfl, fun p => ?_⟩
    dsimp only [DxeCh.modDesc] at hc' ⊢
    rcases eq_or_ne p ctl with rfl | hp
    · rw [Function.update_self, hc']
      rfl
    · rw [Function.update_of_ne hp]

/-- So does `wcn36xx_dxe_ch_alloc_skb`, block by block. -/
theorem dxeChAllocSkb_sameStart {s s' : RxState} (h : dxeChAllocSkb s = some s') :
    SameStart s.ch s'.ch := by
  unfold dxeChAllocSkb at h
  simp only [Option.bind_eq_bind, Option.bind_eq_some_iff, Option.some.injEq, Option.pure_def] at h
  obtain ⟨⟨_, t⟩, hwalk, rfl⟩ := h
  refine Support.walk_rel (R := fun s t : RxState => SameStart s.ch t.ch)
    (fun s => ⟨.of_eq rfl rfl rfl, rfl, fun _ => rfl⟩) (fun s t u h₁ h₂ => ?_) ?_ _ _ _ _ _ _ _ hwalk
  · exact ⟨h₁.bus.trans h₂.bus, h₂.head.trans h₁.head, fun p => (h₂.phy p).trans (h₁.phy p)⟩
  · intro i cur b s b' s' hb
    obtain ⟨r, hr, heq⟩ := Option.map_eq_some_iff.mp hb
    rw [Prod.mk.injEq] at heq
    rw [← heq.2]
    exact dxeFillSkb_sameStart hr

/-- The engine starts at the first descriptor, and its links are those of the ring. -/
theorem rxEngine_init_onRing {p : RxParams}
    (hwrap : p.coherent.2.toNat + p.desc_num * DxeDesc.size ≤ 2 ^ 32) {w : RxEngineWorld}
    (h : (rxEngineSystem p).init w) : RxEngineOnRing w := by
  obtain ⟨ch, allocs, rx, chip_version, chs, regs, regs', hsetup, halloc, -, hch, hregs, rfl⟩ := h
  obtain ⟨hring, hlinked⟩ := rxChSetup_bus p.two_le hwrap hsetup
  obtain ⟨hbus, hhead, hphy⟩ := dxeChAllocSkb_sameStart halloc
  obtain ⟨head, hhead', hnext⟩ := (dxeInitRegs_spec hregs).1 (if p.is_low then .rxL else .rxH)
  have hnum : ch.desc_num = p.desc_num := hring.desc_num
  have hpos : 0 < p.desc_num := Nat.lt_of_lt_of_le Nat.zero_lt_two p.two_le
  -- What the NEXT register holds is still the address of the first descriptor.
  have hphy₀ : head.desc_phy_addr = descPhy p.coherent.2 0 := by
    have h₁ : ch.ctl 1 = _ := hring.ctl 0 hpos
    rw [hch, hhead, hring.head, Option.bind_some] at hhead'
    have h₂ := hphy 1
    rw [hhead', h₁, Option.map_some, Option.map_some, Option.some.injEq] at h₂
    exact h₂
  have hat : ch.descAt (descPhy p.coherent.2 0) = some 0 :=
    descAt_descPhy hwrap ch (by rw [hring.rest]) hnum hpos
  refine ⟨hbus.busLinked hlinked, ?_⟩
  dsimp only
  rw [hnext, hphy₀, hbus.descAt, hat, List.length_nil, Nat.zero_mod]

/-- A started RX channel with the engine that follows bus addresses runs exactly as the one whose device
takes the descriptors in order: it starts where `wcn36xx_dxe_ch_alloc_skb` leaves a channel of
`rxDataSystem`, and every order of steps of one is one of the other, to the same state. -/
theorem rxEngine_runs {p : RxParams}
    (hwrap : p.coherent.2.toNat + p.desc_num * DxeDesc.size ≤ 2 ^ 32) {w : RxEngineWorld}
    (h : (rxEngineSystem p).init w) :
    (∃ w₀ allocs, (rxDataSystem p).init w₀ ∧
      (rxDataSystem p).step w₀ (.start allocs) = some w.ring) ∧
    ∀ es, ((rxEngineSystem p).runFrom w es).map RxEngineWorld.ring =
      (rxDataSystem p).runFrom w.ring es := by
  have honRing := rxEngine_init_onRing hwrap h
  constructor
  · obtain ⟨ch, allocs, rx, -, -, -, -, hsetup, halloc, hempty, -, -, rfl⟩ := h
    refine ⟨{ rx := { ch := ch } }, allocs, ⟨ch, hsetup, rfl⟩, ?_⟩
    simp only [rxDataSystem, Bool.false_eq_true, if_false, halloc, hempty, if_true,
      Option.bind_eq_bind, Option.bind_some, Option.pure_def]
    rfl
  · intro es
    apply System.runFrom_map (I := RxEngineOnRing)
    · intro w e hw
      exact hw.map_step e
    · intro w e w' hw hstep
      exact hw.step hstep
    · exact honRing

/-- The head of a channel that `wcn36xx_dxe_ch_alloc_skb` has left has a descriptor. -/
theorem rxHead_of_setup {is_low : Bool} {n : ℕ} {coherent : ℕ × BitVec 32} (hn : 2 ≤ n) {ch : DxeCh}
    (hsetup : rxChSetup is_low n coherent = some ch) {allocs : List (Option (BitVec 32))} {rx : RxState}
    (halloc : dxeChAllocSkb { ch := ch, allocs := allocs } = some rx) :
    ∃ head, rx.ch.head_blk_ctl.bind rx.ch.ctl = some head ∧ head.desc.isSome = true := by
  have hnum : (rxChConfig is_low n).desc_num = n := rfl
  obtain ⟨A, ch', hA, hinit, hring⟩ := ringSetup_spec (rxChConfig is_low n)
    (by rw [hnum]; exact hn) rfl coherent.1 coherent.2
  simp only [rxChSetup, hA, hinit, Option.bind_eq_bind, Option.bind_some, Option.pure_def,
    Option.some.injEq] at hsetup
  obtain rfl := hsetup
  obtain ⟨hmoves, hhead⟩ := dxeChAllocSkb_moves halloc
  obtain ⟨c, hc, -, hdesc⟩ := hmoves.ctl (hring.ctl 0 (Nat.lt_of_lt_of_le Nat.zero_lt_two hn))
  refine ⟨c, ?_, ?_⟩
  · rw [hhead, hring.head, Option.bind_some]
    exact hc
  · rw [hdesc]
    rfl

/-- So its engine can be programmed. -/
theorem exists_rxEngine_init {p : RxParams} {ch : DxeCh} {allocs : List (Option (BitVec 32))}
    {rx : RxState} (hsetup : rxChSetup p.is_low p.desc_num p.coherent = some ch)
    (halloc : dxeChAllocSkb { ch := ch, allocs := allocs } = some rx)
    (hempty : rx.allocs.isEmpty = true) :
    ∃ w, (rxEngineSystem p).init w ∧ w.ring = { rx := rx, started := true } := by
  obtain ⟨head, hhead, hdesc⟩ := rxHead_of_setup p.two_le hsetup halloc
  obtain ⟨regs', hregs⟩ := exists_dxeInitRegs .chip3660 (fun _ => 0) fun _ =>
    ⟨head, hhead, fun _ => hdesc⟩
  exact ⟨_, ⟨ch, allocs, rx, .chip3660, fun _ => rx.ch, _, regs', hsetup, halloc, hempty, rfl, hregs,
    rfl⟩, rfl⟩

/-- The engine of the RX high channel stores two frames, the second one while the driver handles the
first. -/
theorem rxEngine_runs_two_frames : ∃ w w', (rxEngineSystem rxHighParams).init w ∧
    (rxEngineSystem rxHighParams).runFrom w
      [.store [1], .enter, .prepare (some 0x90000), .store [2], .pass] = some w' ∧
    w'.stored = [[1], [2]] ∧ w'.received = [[1]] := by
  obtain ⟨s, hs, hstored⟩ : ∃ s, ((rxDataStart rxHighParams).bind fun w =>
      (rxDataSystem rxHighParams).runFrom w (twoFrames [1] [2])) = some s ∧
      (fun s : RxDataWorld => decide (s.stored = [[1], [2]] ∧ s.received = [[1]])) s = true :=
    (Option.any_eq_true _ _).mp (by decide +kernel)
  obtain ⟨w₀, hw₀, hrun⟩ := Option.bind_eq_some_iff.mp hs
  obtain ⟨ch, hch, rfl⟩ := Option.map_eq_some_iff.mp hw₀
  obtain ⟨w₁, hstart, hrun⟩ := Option.bind_eq_some_iff.mp hrun
  simp only [rxDataSystem, Bool.false_eq_true, if_false, Option.bind_eq_bind,
    Option.bind_eq_some_iff, Option.ite_none_right_eq_some, Option.pure_def,
    Option.some.injEq] at hstart
  obtain ⟨rx, halloc, hempty, rfl⟩ := hstart
  obtain ⟨w, hw, hring⟩ := exists_rxEngine_init hch halloc hempty
  have hmap := (rxEngine_runs (by decide) hw).2
    [.store [1], .enter, .prepare (some 0x90000), .store [2], .pass]
  rw [hring] at hmap
  obtain ⟨w', hw', rfl⟩ := Option.map_eq_some_iff.mp (hmap.trans hrun)
  exact ⟨w, w', hw, hw', of_decide_eq_true hstored⟩

end Wcn36xx
