import Wcn36xx.Txrx.TxSystem

/-!
# The buffer descriptors of frames in flight

`wcn36xx_start_tx` clears and fills the BD at the head of the ring before `wcn36xx_dxe_tx_frame`
looks whether the ring has room. When the ring is completely full the head is also the oldest block,
and if the device has not read that frame's BD yet the frame loses it. `bdIntact_of_headFree` says
that this is the only way: as long as no frame is offered while the head's descriptor is VALID, every
BD that the device has yet to read is the one that was built for its frame.
-/

namespace Wcn36xx

open Support (System)

/-! ## The BD memory -/

namespace DxeCh

variable (ch : DxeCh)

/-- Storing a BD keeps what the channel says of its blocks and descriptors. -/
@[simp]
theorem slotValid_writeBd (addr : ℕ) (bytes : List Byte) (k : ℕ) :
    (ch.writeBd addr bytes).slotValid k = ch.slotValid k := rfl

/-- A BD reads back as it was stored. -/
theorem readBd_writeBd_self (addr : ℕ) {bytes : List Byte} (hlen : bytes.length = TxBd.size) :
    (ch.writeBd addr bytes).readBd addr = bytes := by
  refine List.ext_getElem (by rw [readBd, List.length_map, List.length_range, hlen]) ?_
  intro i hi hi'
  have hle : addr ≤ addr + i := Nat.le_add_right addr i
  simp only [readBd, writeBd, List.getElem_map, List.getElem_range, if_pos hle,
    Nat.add_sub_cancel_left, List.getElem?_eq_getElem hi', Option.getD_some]

/-- Storing a BD leaves the bytes of a BD elsewhere. -/
theorem readBd_writeBd_of_disjoint {addr addr' : ℕ} {bytes : List Byte}
    (hlen : bytes.length = TxBd.size)
    (h : addr + TxBd.size ≤ addr' ∨ addr' + TxBd.size ≤ addr) :
    (ch.writeBd addr bytes).readBd addr' = ch.readBd addr' := by
  refine List.map_congr_left fun i hi => ?_
  have hi : i < TxBd.size := List.mem_range.mp hi
  rcases h with h | h
  · have hle : addr ≤ addr' + i := by omega
    have hout : bytes.length ≤ addr' + i - addr := by omega
    simp only [writeBd, if_pos hle, List.getElem?_eq_none hout, Option.getD_none]
  · have hlt : ¬addr ≤ addr' + i := by omega
    simp only [writeBd, if_neg hlt]

/-- The descriptor of the block at the head is VALID. -/
def headValid : Bool :=
  match ch.head_blk_ctl.bind ch.validAt with
  | some valid => valid
  | none => false

/-- The descriptor at the head position. -/
theorem headValid_eq {ch : DxeCh} {pool : DxeMemPool} (h : TxReady pool ch) {H : ℕ}
    (hH : ch.head_blk_ctl = some (ch.blk H)) : ch.headValid = ch.slotValid H := by
  rw [headValid, hH, Option.bind_some, h.ring.validAt]

end DxeCh

/-- The BDs of different blocks do not overlap. -/
theorem bdAddr_disjoint (p : TxParams) (is_low : Bool) {n j k : ℕ} (hj : j % n % 2 = 0)
    (hk : k % n % 2 = 0) (hne : k % n ≠ j % n) :
    bdAddr (p.pool is_low) n j + TxBd.size ≤ bdAddr (p.pool is_low) n k ∨
      bdAddr (p.pool is_low) n k + TxBd.size ≤ bdAddr (p.pool is_low) n j := by
  have hchunk : (p.pool is_low).chunk_size = 144 := rfl
  have hsize : TxBd.size = 40 := rfl
  rw [bdAddr, bdAddr, if_pos hj, if_pos hk, hchunk, hsize]
  omega

/-- Storing a BD at an even position leaves the BD of every other even position. -/
theorem TxReady.readBd_writeBd {p : TxParams} {is_low : Bool} {ch : DxeCh}
    (h : TxReady (p.pool is_low) ch) {H k : ℕ} (hH : H % 2 = 0) {bytes : List Byte}
    (hlen : bytes.length = TxBd.size) (hk : k % 2 = 0)
    (hne : k % ch.desc_num ≠ H % ch.desc_num) :
    (ch.writeBd (bdAddr (p.pool is_low) ch.desc_num H) bytes).readBd
        (bdAddr (p.pool is_low) ch.desc_num k) =
      ch.readBd (bdAddr (p.pool is_low) ch.desc_num k) :=
  ch.readBd_writeBd_of_disjoint hlen (bdAddr_disjoint p is_low
    (by rw [h.mod_two]; exact hH) (by rw [h.mod_two]; exact hk) hne)

/-- Accepting a frame stores no BD. -/
theorem readBd_acceptCh (ch : DxeCh) (H : ℕ) (phy : BitVec 32) (skb : SkBuff) (addr : ℕ) :
    (acceptCh ch H phy skb).readBd addr = ch.readBd addr := rfl

/-! ## The invariant -/

/-- Every BD that the device has yet to read is the one that was built for its frame. -/
def BdIntact (s : TxWorld) : Prop :=
  ∀ is_low blk bytes, s.built is_low blk = some bytes →
    (s.wcn.txCh is_low).validAt blk = some true →
    ∃ c, (s.wcn.txCh is_low).ctl blk = some c ∧
      (s.wcn.txCh is_low).readBd c.bd_cpu_addr = bytes

/-- No frame is offered to a channel while the descriptor at its head is VALID. -/
def HeadFree (s : TxWorld) : TxEvent → Prop
  | .tx _ skb => (s.wcn.txCh skb.isLow).headValid = false
  | _ => True

instance : ∀ s e, Decidable (HeadFree s e)
  | s, .tx _ skb => inferInstanceAs (Decidable ((s.wcn.txCh skb.isLow).headValid = false))
  | _, .dma _ | _, .reap _ | _, .ackInd _ | _, .config _ => isTrue trivial

/-- `BdIntact` of one channel, by positions: the blocks with a note are BD blocks. -/
def ChBdIntact (p : TxParams) (is_low : Bool) (ch : DxeCh) (built : ℕ → Option (List Byte)) :
    Prop :=
  ∀ blk bytes, built blk = some bytes → ∃ k, blk = ch.blk k ∧ k % 2 = 0 ∧
    (ch.slotValid k = true → ch.readBd (bdAddr (p.pool is_low) ch.desc_num k) = bytes)

section Channel

variable {p : TxParams} {is_low : Bool} {ch : DxeCh} {built : ℕ → Option (List Byte)}
  (h : ChBdIntact p is_low ch built)
include h

/-- The notes survive a step that makes no descriptor VALID and stores no BD. -/
theorem ChBdIntact.mono {ch' : DxeCh} (hn : ch'.desc_num = ch.desc_num) (hbd : ch'.bd = ch.bd)
    (hvalid : ∀ k, ch'.slotValid k = true → ch.slotValid k = true) :
    ChBdIntact p is_low ch' built := by
  intro blk bytes hb
  obtain ⟨k, hblk, heven, hread⟩ := h blk bytes hb
  refine ⟨k, by rw [hblk, DxeCh.blk, DxeCh.blk, hn], heven, fun hv => ?_⟩
  rw [hn, ← hread (hvalid k hv), DxeCh.readBd, DxeCh.readBd, hbd]

variable {H : ℕ} (hready : TxReady (p.pool is_low) ch) (hH : H % 2 = 0) {bytes : List Byte}
  (hlen : bytes.length = TxBd.size)
include hready hH hlen

/-- The notes survive a BD that is stored at a block whose descriptor is not VALID. -/
theorem ChBdIntact.writeBd (hfree : ch.slotValid H = false) :
    ChBdIntact p is_low (ch.writeBd (bdAddr (p.pool is_low) ch.desc_num H) bytes) built := by
  intro blk bs hb
  obtain ⟨k, hblk, heven, hread⟩ := h blk bs hb
  refine ⟨k, hblk, heven, fun hv => ?_⟩
  have hne : k % ch.desc_num ≠ H % ch.desc_num := by
    intro heq
    rw [DxeCh.slotValid_writeBd, DxeCh.slotValid, heq, ← DxeCh.slotValid, hfree] at hv
    exact Bool.false_ne_true hv
  rw [← hread hv]
  exact hready.readBd_writeBd hH hlen heven hne

/-- Accepting a frame at `H`, whose BD has just been stored there, notes the BD. -/
theorem ChBdIntact.accept (phy : BitVec 32) (skb : SkBuff) :
    ChBdIntact p is_low
      (acceptCh (ch.writeBd (bdAddr (p.pool is_low) ch.desc_num H) bytes) H phy skb)
      (Function.update built (ch.blk H) (some bytes)) := by
  intro blk bs hb
  have hready' : TxReady (p.pool is_low)
      (ch.writeBd (bdAddr (p.pool is_low) ch.desc_num H) bytes) := hready.congr rfl rfl rfl rfl
  have hn : (ch.writeBd (bdAddr (p.pool is_low) ch.desc_num H) bytes).desc_num = ch.desc_num := rfl
  have hn' := acceptCh_desc_num (ch.writeBd (bdAddr (p.pool is_low) ch.desc_num H) bytes) H phy skb
  rw [hn] at hn'
  have hblk := acceptCh_blk (ch.writeBd (bdAddr (p.pool is_low) ch.desc_num H) bytes) H phy skb
  rcases eq_or_ne blk (ch.blk H) with rfl | hne
  · rw [Function.update_self, Option.some.injEq] at hb
    refine ⟨H, (hblk H).symm, hH, fun _ => ?_⟩
    rw [readBd_acceptCh, hn', ← hb]
    exact ch.readBd_writeBd_self _ hlen
  · rw [Function.update_of_ne hne] at hb
    obtain ⟨k, rfl, heven, hread⟩ := h blk bs hb
    refine ⟨k, (hblk k).symm, heven, fun hv => ?_⟩
    have hkH : k % ch.desc_num ≠ H % ch.desc_num := fun heq => hne ((ch.blk_eq_iff k H).mpr heq)
    have hkH1 : k % ch.desc_num ≠ (H + 1) % ch.desc_num := by
      -- The skb block of the frame has the other parity.
      intro heq
      have h1 := hready.mod_two k
      have h2 := hready.mod_two (H + 1)
      rw [heq] at h1
      omega
    rw [hready'.slotValid_acceptCh, hn, if_neg (not_or.mpr ⟨hkH1, hkH⟩),
      DxeCh.slotValid_writeBd] at hv
    rw [readBd_acceptCh, hn', ← hread hv]
    exact hready.readBd_writeBd hH hlen heven hkH

end Channel

/-- `BdIntact` of both channels, by positions. -/
def BdIntactAll (p : TxParams) (s : TxWorld) : Prop :=
  ∀ is_low, ChBdIntact p is_low (s.wcn.txCh is_low) (s.built is_low)

/-- The notes of both channels when one of them has changed. -/
theorem BdIntactAll.update {p : TxParams} {s s' : TxWorld} (h : BdIntactAll p s) {is_low : Bool}
    (hne : ∀ b, b ≠ is_low → s'.wcn.txCh b = s.wcn.txCh b ∧ s'.built b = s.built b)
    (hch : ChBdIntact p is_low (s'.wcn.txCh is_low) (s'.built is_low)) : BdIntactAll p s' := by
  intro b
  rcases eq_or_ne b is_low with rfl | hb
  · exact hch
  · rw [(hne b hb).1, (hne b hb).2]
    exact h b

/-- A step that offers no frame to a channel whose head is VALID keeps every BD in flight. -/
theorem bdIntactAll_step {p : TxParams} {s s' : TxWorld} {q q' : Bool → List SkBuff} {e : TxEvent}
    (hq : TxHoldsAll p s q) (h : BdIntactAll p s) (hP : HeadFree s e)
    (hstep : TxStep p s q e s' q') : BdIntactAll p s' := by
  -- What is known of the channel to which a frame is offered.
  have hoffer : ∀ {sta_priv skb H}, HeadFree s (.tx sta_priv skb) →
      HeadAt (s.wcn.txCh skb.isLow) H →
      TxReady (p.pool skb.isLow) (s.wcn.txCh skb.isLow) ∧
        (s.wcn.txCh skb.isLow).desc_num = p.desc_num skb.isLow ∧
        (s.wcn.txCh skb.isLow).slotValid H = false := by
    intro sta_priv skb H hfree hhead
    obtain ⟨T, D, H', hholds⟩ := hq skb.isLow
    refine ⟨hholds.ring.ready, hholds.desc_num, ?_⟩
    rw [← DxeCh.headValid_eq hholds.ring.ready hhead.1]
    exact hfree
  cases hstep with
  | @refused sta_priv skb H _ _ _ hhead =>
    obtain ⟨hready, hn, hfree⟩ := hoffer hP hhead
    refine h.update (fun b hb => ⟨Wcn.txCh_setTxCh_ne _ hb _, rfl⟩) ?_
    rw [Wcn.emit_txCh, Wcn.writeBd, Wcn.txCh_setTxCh, ← hn]
    exact (h _).writeBd hready hhead.2 (TxBd.length_bytes _) hfree
  | @busy sta_priv skb H vif_priv bd mac es _ _ hhead _ _ =>
    obtain ⟨hready, hn, hfree⟩ := hoffer hP hhead
    refine h.update (fun b hb => ⟨txCh_filledWcn_ne hb _ bd mac es, rfl⟩) ?_
    have hch := (h _).writeBd hready hhead.2 bd.length_sentBytes hfree
    rw [hn, ← txCh_filledWcn s.wcn skb _ bd mac es] at hch
    exact hch
  | @accepted sta_priv skb H vif_priv bd mac es phy kick _ _ hhead _ _ _ _ =>
    obtain ⟨hready, hn, -⟩ := hoffer hP hhead
    refine h.update (fun b hb => ⟨?_, Function.update_of_ne hb _ _⟩) ?_
    · rw [Wcn.emit_txCh, Wcn.txCh_setTxCh_ne _ hb, txCh_filledWcn_ne hb]
    · dsimp only
      rw [Wcn.emit_txCh, Wcn.txCh_setTxCh, Function.update_self, ← hn]
      exact (h _).accept hready hhead.2 bd.length_sentBytes phy skb
  | @dma is_low =>
    refine h.update (fun b hb => ⟨Wcn.txCh_setTxCh_ne _ hb _, rfl⟩) ?_
    dsimp only
    rw [dmaComplete, Wcn.txCh_setTxCh]
    refine (h is_low).mono rfl rfl fun k hv => ?_
    simp only [DxeCh.slotValid, DxeCh.modDesc] at hv ⊢
    rcases eq_or_ne (k % (s.wcn.txCh is_low).desc_num) (s.cursor is_low) with heq | hne
    · rw [heq, Function.update_self, DxeDesc.valid_clearValid] at hv
      exact absurd hv Bool.false_ne_true
    · rwa [Function.update_of_ne hne] at hv
  | @reap is_low ch fs m hfs hch =>
    refine h.update (fun b hb => ⟨Wcn.txCh_setTxCh_ne _ hb _, rfl⟩) ?_
    dsimp only
    rw [txCh_reapedWcn]
    have hdxe : ch.dxe = (s.wcn.txCh is_low).dxe := by rw [hch]
    have hnum : ch.desc_num = (s.wcn.txCh is_low).desc_num := by rw [hch]
    refine (h is_low).mono hnum (by rw [hch]) fun k hv => ?_
    rwa [DxeCh.slotValid, hdxe, hnum] at hv
  | ackInd =>
    intro b
    dsimp only
    rw [dxeTxAckInd_txCh]
    exact h b
  | config => exact h

/-- The BD of every accepted frame stays as it was built until the device has read it, in every run
in which no frame is offered to a channel while the descriptor at its head is VALID. -/
theorem bdIntact_of_headFree (p : TxParams) (s : TxWorld)
    (h : (txSystem p).ReachableWhen HeadFree s) : BdIntact s := by
  obtain ⟨q, hq, hI⟩ := txSystem_invariant (I := fun s _ => BdIntactAll p s)
    (fun s hs => by
      obtain ⟨-, -, -, -, -, -, hbuilt⟩ := hs
      intro is_low blk bytes hb
      rw [hbuilt] at hb
      cases hb)
    (fun s q e s' q' hq hI hP hTx _ => bdIntactAll_step hq hI hP hTx) h
  intro is_low blk bytes hb hv
  obtain ⟨T, D, H, hholds⟩ := hq is_low
  obtain ⟨k, rfl, -, hread⟩ := hI is_low blk bytes hb
  obtain ⟨c, hc, -, -, hbd⟩ := hholds.ring.ready.ctl k
  rw [hholds.ring.ready.ring.validAt, Option.some.injEq] at hv
  exact ⟨c, hc, by rw [hbd]; exact hread hv⟩

/-- Two frames on the TX high channel, the first of which the device has read. -/
theorem bdIntact_of_headFree_two_frames :
    ∃ s, (txSystem driverParams).ReachableWhen HeadFree s ∧ s.accepted.length = 2 ∧ BdIntact s := by
  obtain ⟨s, hs, hlen⟩ : ∃ s, (txSystem driverParams).ReachableWhen HeadFree s ∧
      decide (s.accepted.length = 2) = true :=
    txStart_reachableWhen oneStation [.tx none (authFrame 1 30 false),
      .tx none (authFrame 2 40 false), .dma false] (by decide +kernel)
  exact ⟨s, hs, of_decide_eq_true hlen, bdIntact_of_headFree driverParams s hs⟩

/-- The bytes at the BD of a block whose descriptor is VALID differ from the BD that was built for its
frame. -/
def bdOverwritten (s : TxWorld) (is_low : Bool) (blk : ℕ) : Bool :=
  match s.built is_low blk, (s.wcn.txCh is_low).validAt blk, (s.wcn.txCh is_low).ctl blk with
  | some bytes, some true, some c => (s.wcn.txCh is_low).readBd c.bd_cpu_addr != bytes
  | _, _, _ => false

/-- A BD that was overwritten refutes `BdIntact`. -/
theorem not_bdIntact_of_bdOverwritten {s : TxWorld} {is_low : Bool} {blk : ℕ}
    (h : bdOverwritten s is_low blk = true) : ¬BdIntact s := by
  intro hintact
  rw [bdOverwritten] at h
  split at h
  · rename_i bytes c hb hv hc
    obtain ⟨c', hc', hread⟩ := hintact is_low blk bytes hb hv
    rw [hc, Option.some.injEq] at hc'
    rw [← hc'] at hread
    exact bne_iff_ne.mp h hread
  · exact absurd h Bool.false_ne_true

/-- Five frames of 30 bytes fill the TX high channel. The sixth, of 40 bytes, is refused with
`-EBUSY`, and its BD has replaced that of the first, which the device has not read. -/
theorem bdIntact_fails_on_full_ring :
    ∃ s, (txSystem driverParams).Reachable s ∧ ¬BdIntact s := by
  obtain ⟨s, hs, hbad⟩ : ∃ s, (txSystem driverParams).Reachable s ∧
      bdOverwritten s false 1 = true :=
    txStart_reachable oneStation [.tx none (authFrame 1 30 false), .tx none (authFrame 2 30 false),
      .tx none (authFrame 3 30 false), .tx none (authFrame 4 30 false),
      .tx none (authFrame 5 30 false), .tx none (authFrame 6 40 false)] (by decide +kernel)
  exact ⟨s, hs, not_bdIntact_of_bdOverwritten hbad⟩

end Wcn36xx
