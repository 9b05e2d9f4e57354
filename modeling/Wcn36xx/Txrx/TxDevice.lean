import Wcn36xx.Txrx.TxFlight

/-!
# What the device is given to send

`txBusSystem` is the transmitting driver together with what has been handed to the device and what the
device has fetched. `txFetched_front` says that the device gets every accepted frame once and in order,
its BD as `wcn36xx_start_tx` built it and then its bytes, and `txMapped_perm` is the other side: what
the device can still reach.
-/

namespace Wcn36xx

open Support (BusRegion System)

/-! ## The system -/

/-- The transmitting driver, the frames that it has accepted on each channel, and what the device has
fetched. -/
structure TxBusWorld where
  tx : TxWorld
  sent : Bool → List TxSent := fun _ => []
  fetched : Bool → List TxFetch := fun _ => []

/-- A frame is noted as sent when `wcn36xx_start_tx` has accepted it. -/
def noteSent (s s' : TxWorld) (sent : Bool → List TxSent) : TxEvent → Bool → List TxSent
  | .tx sta_priv skb =>
    if s'.accepted.length = s.accepted.length then sent
    else
      match startTxBd s.wcn.mac sta_priv skb with
      | some (bd, _) => Function.update sent skb.isLow (sent skb.isLow ++ [⟨bd, skb⟩])
      | none => sent
  | _ => sent

/-- The device fetches for a descriptor before it completes it. -/
def noteFetched (p : TxParams) (s : TxWorld) (fetched : Bool → List TxFetch) :
    TxEvent → Bool → List TxFetch
  | .dma is_low => Function.update fetched is_low (fetched is_low ++ [txFetch p s is_low])
  | _ => fetched

/-- The transmitting driver and the device. -/
def txBusSystem (p : TxParams) : System TxBusWorld TxEvent where
  init s := (txSystem p).init s.tx ∧ s.sent = (fun _ => []) ∧ s.fetched = fun _ => []
  step s e := do
    let tx ← (txSystem p).step s.tx e
    return { tx := tx, sent := noteSent s.tx tx s.sent e, fetched := noteFetched p s.tx s.fetched e }

/-- `dma_map_single` maps a frame where nothing else is mapped. -/
def DmaFits (p : TxParams) (s : TxWorld) (skb : SkBuff) : Prop :=
  0 < skb.len ∧ skb.len < 2 ^ 32 ∧ ∀ r ∈ p.bus s.wcn, skb.region.Apart r

instance (p : TxParams) (s : TxWorld) (skb : SkBuff) : Decidable (DmaFits p s skb) :=
  inferInstanceAs (Decidable (_ ∧ _ ∧ _))

/-- A frame is offered only while the descriptor at the head of its channel is not VALID, and is mapped
where nothing else is. -/
def BusFits (p : TxParams) (s : TxBusWorld) (e : TxEvent) : Prop :=
  HeadFree s.tx e ∧
    match e with
    | .tx _ skb => DmaFits p s.tx skb
    | _ => True

instance (p : TxParams) : ∀ s e, Decidable (BusFits p s e)
  | _, .tx _ _ => inferInstanceAs (Decidable (_ ∧ DmaFits p _ _))
  | _, .dma _ | _, .reap _ | _, .ackInd _ | _, .config _ => inferInstanceAs (Decidable (_ ∧ True))

/-! ## What is mapped -/

/-- Effects that map and unmap nothing. -/
theorem foldl_mapping_eq {es : List Effect} (h : ∀ e ∈ es, ∀ rs, Effect.mapping rs e = rs)
    (rs : List (BusRegion Byte)) : es.foldl Effect.mapping rs = rs := by
  induction es with
  | nil => rfl
  | cons e es ih =>
    rw [List.foldl_cons, h e List.mem_cons_self]
    exact ih fun e he => h e (List.mem_cons_of_mem _ he)

/-- An effect that reads no frame maps none. -/
theorem mapping_of_reads {e : Effect} (h : e.reads = none) (rs : List (BusRegion Byte)) :
    Effect.mapping rs e = rs := by
  cases e <;> first | rfl | cases h

/-- What is mapped after more effects. -/
theorem mappedRegions_append (log es : List Effect) :
    mappedRegions (log ++ es) = es.foldl Effect.mapping (mappedRegions log) := List.foldl_append

/-- Reaping unmaps each frame where it is mapped, when it is unmapped at its own address. -/
theorem foldl_mapping_reapEffects {fs : List (BitVec 32 × SkBuff)} (h : ∀ f ∈ fs, f.1 = f.2.dma)
    (stopped : Bool) (rs : List (BusRegion Byte)) :
    (reapEffects stopped fs).foldl Effect.mapping rs =
      ((fs.map Prod.snd).map SkBuff.region).foldl (fun rs r => BusRegion.unmap rs r.base) rs := by
  induction fs generalizing stopped rs with
  | nil => rfl
  | cons f fs ih =>
    obtain ⟨addr, skb⟩ := f
    have haddr : addr = skb.dma := h (addr, skb) List.mem_cons_self
    have hrest := ih (fun f hf => h f (List.mem_cons_of_mem _ hf)) false
      (BusRegion.unmap rs skb.dma.toNat)
    rw [List.map_cons, List.map_cons, List.foldl_cons]
    refine Eq.trans ?_ hrest
    rw [reapEffects, List.foldl_append, List.foldl_append, List.foldl_append, haddr]
    cases skb.wantsStatus <;> cases stopped <;> rfl

/-- Every frame that is reaped is unmapped. -/
theorem mem_reapEffects {fs : List (BitVec 32 × SkBuff)} {f : BitVec 32 × SkBuff} (hf : f ∈ fs)
    (stopped : Bool) : .dmaUnmap f.1 f.2 ∈ reapEffects stopped fs := by
  induction fs generalizing stopped with
  | nil => cases hf
  | cons g fs ih =>
    obtain ⟨addr, skb⟩ := g
    rw [reapEffects]
    rcases List.mem_cons.mp hf with rfl | hf
    · simp
    · exact List.mem_append_right _ (ih hf false)

/-- `wcn36xx_dxe_tx_ack_ind` maps nothing. -/
theorem mappedRegions_dxeTxAckInd (wcn : Wcn) (status : BitVec 32) :
    mappedRegions (dxeTxAckInd wcn status).log = mappedRegions wcn.log := by
  unfold dxeTxAckInd
  split
  · rfl
  · split_ifs <;> exact mappedRegions_append _ _

/-- Filling a BD maps nothing. -/
theorem mappedRegions_filledWcn {mac mac' : MacConf} {sta_priv : Option ℕ} {skb : SkBuff} {bd : TxBd}
    {vif_priv : ℕ} {es : List Effect}
    (h : startTxBd mac sta_priv skb = some (bd, vif_priv, mac', es)) (wcn : Wcn) (addr : ℕ) :
    mappedRegions (filledWcn wcn skb addr bd mac' es).log = mappedRegions wcn.log := by
  have hneutral : ∀ e ∈ (if skb.wantsStatus then [Effect.stopQueues] else []) ++ es, ∀ rs,
      Effect.mapping rs e = rs := by
    intro e he rs
    rcases List.mem_append.mp he with he | he
    · split_ifs at he
      · rw [List.mem_singleton.mp he]
        rfl
      · cases he
    · rcases startTxBd_effects h with rfl | ⟨sta, tid, rfl⟩
      · cases he
      · rw [List.mem_singleton.mp he]
        rfl
  rw [filledWcn, List.append_assoc, mappedRegions_append, foldl_mapping_eq hneutral]

/-- Whether something is apart from a pool does not depend on what the pool holds. -/
theorem TxParams.poolRegion_apart (p : TxParams) (is_low : Bool) (ch ch' : DxeCh)
    (r : BusRegion Byte) : (p.poolRegion is_low ch).Apart r ↔ (p.poolRegion is_low ch').Apart r := by
  unfold BusRegion.Apart TxParams.poolRegion
  dsimp only
  rw [List.length_map, List.length_map]

/-- Nothing on the bus overlaps: the pools do not, and what is mapped overlaps neither a pool nor
anything else that is mapped. -/
theorem bus_pairwise_iff {p : TxParams} (hp : p.PoolsApart) (wcn : Wcn) :
    (p.bus wcn).Pairwise BusRegion.Apart ↔
      (∀ r ∈ mappedRegions wcn.log, ∀ b, (p.poolRegion b {ch_type := .txL, desc_num := 0}).Apart r) ∧
      (mappedRegions wcn.log).Pairwise BusRegion.Apart := by
  unfold TxParams.bus
  rw [List.pairwise_cons, List.pairwise_cons]
  constructor
  · rintro ⟨hf, ht, hmapped⟩
    refine ⟨fun r hr b => ?_, hmapped⟩
    cases b
    · exact (p.poolRegion_apart _ _ _ r).mp (hf r (List.mem_cons_of_mem _ hr))
    · exact (p.poolRegion_apart _ _ _ r).mp (ht r hr)
  · rintro ⟨hpool, hmapped⟩
    refine ⟨fun r hr => ?_, fun r hr => (p.poolRegion_apart _ _ _ r).mp (hpool r hr true), hmapped⟩
    rcases List.mem_cons.mp hr with rfl | hr
    · exact hp.apart _ _
    · exact (p.poolRegion_apart _ _ _ r).mp (hpool r hr false)

/-! ## The invariant -/

/-- The frames of a channel that are in the ring when its tail is `T`. -/
def inRing (sent : Bool → List TxSent) (T : Bool → ℕ) (is_low : Bool) : List TxSent :=
  (sent is_low).drop (T is_low / 2)

/-- Both channels carry what has been sent, the frames in the rings and no others are mapped, and
nothing on the bus overlaps. -/
structure TxBusInv (p : TxParams) (s : TxBusWorld) (T : Bool → ℕ) : Prop where
  flight : ∀ b, TxFlight p b (s.tx.wcn.txCh b) (s.tx.cursor b) (T b) (s.sent b) (s.fetched b)
  mapped : (mappedRegions s.tx.wcn.log).Perm
    ((inRing s.sent T false ++ inRing s.sent T true).map fun f => f.skb.region)
  apart : (p.bus s.tx.wcn).Pairwise BusRegion.Apart
  fits : ∀ b, ∀ f ∈ s.sent b, 0 < f.skb.len ∧ f.skb.len < 2 ^ 32
  accepted : ∀ b, (s.sent b).map TxSent.skb = s.tx.accepted.filter fun skb => skb.isLow == b

namespace TxBusInv

variable {p : TxParams} {s : TxBusWorld} {T : Bool → ℕ} (h : TxBusInv p s T)
include h

/-- What is mapped are frames that have been sent. -/
theorem mem_mapped (r : BusRegion Byte) :
    r ∈ mappedRegions s.tx.wcn.log ↔ ∃ b, ∃ f ∈ inRing s.sent T b, f.skb.region = r := by
  rw [h.mapped.mem_iff, List.mem_map]
  constructor
  · rintro ⟨f, hf, rfl⟩
    rcases List.mem_append.mp hf with hf | hf
    · exact ⟨false, f, hf, rfl⟩
    · exact ⟨true, f, hf, rfl⟩
  · rintro ⟨b, f, hf, rfl⟩
    refine ⟨f, List.mem_append.mpr ?_, rfl⟩
    cases b
    · exact Or.inl hf
    · exact Or.inr hf

/-- Nothing that is mapped is empty. -/
theorem nonempty (r : BusRegion Byte) (hr : r ∈ mappedRegions s.tx.wcn.log) : r.data ≠ [] := by
  obtain ⟨b, f, hf, rfl⟩ := (h.mem_mapped r).mp hr
  exact List.ne_nil_of_length_pos (h.fits b f (List.mem_of_mem_drop hf)).1

/-- Both channels hold the frames in their rings. -/
theorem holdsAll : TxHoldsAll p s.tx fun b => (inRing s.sent T b).map TxSent.skb := fun b =>
  ⟨T b, (s.fetched b).length, 2 * (s.sent b).length, (h.flight b).holds⟩

/-- What the DMA engine of a channel fetches is the next part. -/
theorem fetch (hp : p.PoolsApart) {is_low : Bool}
    (hlt : (s.fetched is_low).length < 2 * (s.sent is_low).length) :
    ((s.sent is_low).flatMap (TxSent.fetches is_low))[(s.fetched is_low).length]? =
      some (txFetch p s.tx is_low) := by
  refine (h.flight is_low).fetch hp h.apart ?_ (fun f hf => (h.fits is_low f hf).2) (fun f hf => ?_)
    hlt
  · unfold TxParams.bus
    cases is_low
    · exact List.mem_cons_self
    · exact List.mem_cons_of_mem _ List.mem_cons_self
  · unfold TxParams.bus
    exact List.mem_cons_of_mem _ (List.mem_cons_of_mem _
      ((h.mem_mapped _).mpr ⟨is_low, f, hf, rfl⟩))

/-- A step that neither maps nor unmaps a frame. -/
theorem keep (hp : p.PoolsApart) {s' : TxBusWorld}
    (hflight : ∀ b, TxFlight p b (s'.tx.wcn.txCh b) (s'.tx.cursor b) (T b) (s'.sent b)
      (s'.fetched b))
    (hmapped : mappedRegions s'.tx.wcn.log = mappedRegions s.tx.wcn.log) (hsent : s'.sent = s.sent)
    (hacc : s'.tx.accepted = s.tx.accepted) : TxBusInv p s' T where
  flight := hflight
  mapped := by
    rw [hmapped, hsent]
    exact h.mapped
  apart := by
    rw [bus_pairwise_iff hp, hmapped, ← bus_pairwise_iff hp s.tx.wcn]
    exact h.apart
  fits := by
    rw [hsent]
    exact h.fits
  accepted := by
    rw [hsent, hacc]
    exact h.accepted

/-- The positions of the head of a channel name the same block. -/
theorem headAt {is_low : Bool} {H : ℕ} (hhead : HeadAt (s.tx.wcn.txCh is_low) H) :
    H % p.desc_num is_low = 2 * (s.sent is_low).length % p.desc_num is_low := by
  have hhold := (h.flight is_low).holds
  have heq : (s.tx.wcn.txCh is_low).blk H =
      (s.tx.wcn.txCh is_low).blk (2 * (s.sent is_low).length) :=
    Option.some.inj (hhead.1.symm.trans hhold.ring.head)
  rw [← hhold.desc_num]
  exact ((s.tx.wcn.txCh is_low).blk_eq_iff _ _).mp heq

/-- The head of a channel whose descriptor is not VALID. -/
theorem headFree {is_low : Bool} (hfree : (s.tx.wcn.txCh is_low).headValid = false) :
    (s.tx.wcn.txCh is_low).slotValid (2 * (s.sent is_low).length) = false := by
  have hring := (h.flight is_low).holds.ring
  rw [← DxeCh.headValid_eq hring.ready hring.head]
  exact hfree

/-- A BD is stored at the head of a channel whose descriptor there is not VALID. -/
theorem writeBd {is_low : Bool} (hfree : (s.tx.wcn.txCh is_low).headValid = false) {H : ℕ}
    (hhead : HeadAt (s.tx.wcn.txCh is_low) H) {bytes : List Byte} (hlen : bytes.length = TxBd.size) :
    TxFlight p is_low ((s.tx.wcn.txCh is_low).writeBd
      (bdAddr (p.pool is_low) (p.desc_num is_low) H) bytes) (s.tx.cursor is_low) (T is_low)
      (s.sent is_low) (s.fetched is_low) := by
  have hflight := (h.flight is_low).writeBd (h.headFree hfree) hlen
  have haddr : bdAddr (p.pool is_low) (p.desc_num is_low) H =
      bdAddr (p.pool is_low) (p.desc_num is_low) (2 * (s.sent is_low).length) := by
    rw [bdAddr, bdAddr, h.headAt hhead]
  rw [(h.flight is_low).holds.desc_num] at hflight
  rw [haddr]
  exact hflight

end TxBusInv

/-- `wcn36xx_dxe_tx_frame` writes the bus address of the BD of the head to its descriptor. -/
theorem TxHolds.dxeTxFrame_src {p : TxParams} {is_low : Bool} {wcn wcn' : Wcn} {cursor T D H : ℕ}
    {q : List SkBuff} (h : TxHolds p is_low (wcn.txCh is_low) cursor T D H q)
    {vif_priv : Option WcnVif} {skb : SkBuff}
    (hrun : dxeTxFrame wcn vif_priv skb is_low = some (wcn', 0)) {c : DxeCtl}
    (hc : (wcn.txCh is_low).ctl ((wcn.txCh is_low).blk H) = some c) :
    ((wcn'.txCh is_low).dxe (H % (wcn.txCh is_low).desc_num)).src_addr_l = c.bd_phy_addr := by
  cases hslot : (wcn.txCh is_low).slotSkb (H + 1) with
  | some other =>
    rw [dxeTxFrame_busy h.ring.ready h.ring.head (Option.isSome_of_eq_some hslot),
      Option.some.injEq, Prod.mk.injEq] at hrun
    exact absurd hrun.2 (by decide)
  | none =>
    rw [dxeTxFrame_acceptAt h.ring.ready h.ring.head h.ring.head_even hslot hc,
      Option.map_eq_some_iff] at hrun
    obtain ⟨w, hkick, heq⟩ := hrun
    obtain ⟨kick, rfl, -⟩ := dxeTxKick_cases hkick
    rw [Prod.mk.injEq] at heq
    rw [← heq.1, Wcn.emit_txCh, Wcn.emit_txCh, Wcn.txCh_setTxCh,
      acceptCh_dxe_bd _ _ (h.ring.ready.succ_mod_ne H).symm]

/-- The descriptor of the BD of a frame that has just been accepted says where the BD is. -/
theorem txStep_src {p : TxParams} {s s' : TxWorld} {sta_priv : Option ℕ} {skb : SkBuff}
    {cursor T D H : ℕ} {q : List SkBuff}
    (h : TxHolds p skb.isLow (s.wcn.txCh skb.isLow) cursor T D H q)
    (hstep : (txSystem p).step s (.tx sta_priv skb) = some s')
    (hacc : s'.accepted ≠ s.accepted) {c : DxeCtl}
    (hc : (s.wcn.txCh skb.isLow).ctl ((s.wcn.txCh skb.isLow).blk H) = some c) :
    ((s'.wcn.txCh skb.isLow).dxe (H % (s.wcn.txCh skb.isLow).desc_num)).src_addr_l =
      c.bd_phy_addr := by
  simp only [txSystem, tx, Option.bind_eq_bind, Option.bind_eq_some_iff, Option.pure_def,
    Option.ite_none_left_eq_some] at hstep
  obtain ⟨-, ⟨wcn, ret⟩, ⟨⟨wcn₁, ret₁⟩, hrun, htx⟩, hstep⟩ := hstep
  by_cases hret : ret₁ = 0
  · rw [if_neg (not_not.mpr hret), Option.some.injEq, Prod.mk.injEq] at htx
    obtain ⟨rfl, rfl⟩ := htx
    rw [if_pos hret, Option.some.injEq] at hstep
    subst hstep hret
    simp only [startTx, Option.bind_eq_bind, Option.bind_eq_some_iff] at hrun
    obtain ⟨⟨w, r⟩, hfill, hrun⟩ := hrun
    rcases startTxFill_cases (h.dxeGetNextBd rfl) h.bdAddr_pos hfill with ⟨rfl, -⟩ |
        ⟨-, bd, vif_priv, mac, es, -, rfl, rfl⟩
    · simp only [Option.pure_def, Option.some.injEq, Prod.mk.injEq] at hrun
      exact absurd hrun.2 (by decide)
    · -- The BD is stored before the frame is put into the ring, which changes no block.
      have h₁ : TxHolds p skb.isLow ((filledWcn s.wcn skb (bdAddr (p.pool skb.isLow)
          (s.wcn.txCh skb.isLow).desc_num H) bd mac es).txCh skb.isLow) cursor T D H q := by
        rw [txCh_filledWcn]
        exact h.writeBd _ _
      have hc₁ : ((filledWcn s.wcn skb (bdAddr (p.pool skb.isLow) (s.wcn.txCh skb.isLow).desc_num H)
          bd mac es).txCh skb.isLow).ctl (((filledWcn s.wcn skb (bdAddr (p.pool skb.isLow)
            (s.wcn.txCh skb.isLow).desc_num H) bd mac es).txCh skb.isLow).blk H) = some c := by
        rw [txCh_filledWcn]
        exact hc
      have hsrc := h₁.dxeTxFrame_src hrun hc₁
      rw [txCh_filledWcn] at hsrc
      exact hsrc
  · rw [if_pos hret, Option.some.injEq, Prod.mk.injEq] at htx
    obtain ⟨rfl, rfl⟩ := htx
    rw [if_neg hret, Option.some.injEq] at hstep
    rw [← hstep] at hacc
    exact absurd rfl hacc

/-! ## The steps -/

/-- The source of the descriptor of the BD of a frame that is put at the head. -/
theorem TxReady.acceptCh_src {pool : DxeMemPool} {ch : DxeCh} (h : TxReady pool ch) (H : ℕ)
    (phy : BitVec 32) (skb : SkBuff) :
    ((Wcn36xx.acceptCh ch H phy skb).dxe (H % ch.desc_num)).src_addr_l = phy := by
  rw [acceptCh_dxe_bd _ _ (h.succ_mod_ne H).symm]

/-- Positions of the same block take a frame in the same way. -/
theorem acceptCh_congr (ch : DxeCh) {H H' : ℕ} (h : H % ch.desc_num = H' % ch.desc_num)
    (phy : BitVec 32) (skb : SkBuff) : acceptCh ch H phy skb = acceptCh ch H' phy skb := by
  have hadd : ∀ i, (H + i) % ch.desc_num = (H' + i) % ch.desc_num := fun i =>
    Nat.ModEq.add_right i h
  have hblk : ∀ i, ch.blk (H + i) = ch.blk (H' + i) := fun i => (ch.blk_eq_iff _ _).mpr (hadd i)
  have hset : ∀ ch' : DxeCh, ch'.desc_num = ch.desc_num → ∀ i v,
      ch'.setSkb (H + i) v = ch'.setSkb (H' + i) v := by
    intro ch' hn i v
    have hb : ch'.blk (H + i) = ch'.blk (H' + i) :=
      (ch'.blk_eq_iff _ _).mpr (by rw [hn]; exact hadd i)
    unfold DxeCh.setSkb
    rw [hb]
  unfold acceptCh
  rw [hset (ch.setSkb H none) rfl 1, show ch.setSkb H none = ch.setSkb H' none from hset ch rfl 0 none,
    hblk 2, h, hadd 1]

/-- The frames in the rings when one has been added to a channel. -/
theorem inRing_append {sent : Bool → List TxSent} {T : Bool → ℕ} {is_low : Bool}
    (hle : T is_low / 2 ≤ (sent is_low).length) (f : TxSent) :
    (inRing (Function.update sent is_low (sent is_low ++ [f])) T false ++
      inRing (Function.update sent is_low (sent is_low ++ [f])) T true).Perm
      (f :: (inRing sent T false ++ inRing sent T true)) := by
  unfold inRing
  cases is_low
  · rw [Function.update_self, Function.update_of_ne (by decide), List.drop_append_of_le_length hle,
      List.append_assoc]
    exact List.perm_middle
  · rw [Function.update_self, Function.update_of_ne (by decide), List.drop_append_of_le_length hle,
      ← List.append_assoc]
    exact List.perm_append_singleton _ _

/-- The frames in the rings when the oldest ones of a channel have left. -/
theorem inRing_drop (sent : Bool → List TxSent) (T : Bool → ℕ) {is_low : Bool} {D : ℕ}
    (hle : T is_low ≤ D) :
    (inRing sent T false ++ inRing sent T true).Perm
      ((inRing sent T is_low).take (D / 2 - T is_low / 2) ++
        (inRing sent (Function.update T is_low D) false ++
          inRing sent (Function.update T is_low D) true)) := by
  have hrest : inRing sent (Function.update T is_low D) is_low =
      (inRing sent T is_low).drop (D / 2 - T is_low / 2) := by
    rw [inRing, inRing, Function.update_self, List.drop_drop,
      show T is_low / 2 + (D / 2 - T is_low / 2) = D / 2 by omega]
  have hother : ∀ b, b ≠ is_low → inRing sent (Function.update T is_low D) b = inRing sent T b :=
    fun b hb => by rw [inRing, inRing, Function.update_of_ne hb]
  cases is_low
  · rw [hrest, hother true (by decide), ← List.append_assoc, List.take_append_drop]
  · rw [hrest, hother false (by decide)]
    refine List.Perm.trans ?_ (List.perm_append_comm_assoc _ _ _)
    rw [List.take_append_drop]

/-- A frame that is not accepted is not noted. -/
theorem noteSent_of_eq {s s' : TxWorld} (heq : s'.accepted = s.accepted) (sent : Bool → List TxSent)
    (sta_priv : Option ℕ) (skb : SkBuff) : noteSent s s' sent (.tx sta_priv skb) = sent :=
  if_pos (by rw [heq])

/-- A frame that is accepted is noted with the BD that has been built for it. -/
theorem noteSent_of_append {s s' : TxWorld} {sta_priv : Option ℕ} {skb : SkBuff}
    (heq : s'.accepted = s.accepted ++ [skb]) {bd : TxBd}
    {vif_priv : ℕ} {mac : MacConf} {es : List Effect}
    (hbuilt : startTxBd s.wcn.mac sta_priv skb = some (bd, vif_priv, mac, es))
    (sent : Bool → List TxSent) :
    noteSent s s' sent (.tx sta_priv skb) =
      Function.update sent skb.isLow (sent skb.isLow ++ [⟨bd, skb⟩]) := by
  have hne : ¬s'.accepted.length = s.accepted.length := by
    rw [heq, List.length_append, List.length_singleton]
    omega
  unfold noteSent
  simp only [if_neg hne, hbuilt]

namespace TxBusInv

variable {p : TxParams} {s s' : TxBusWorld} {T : Bool → ℕ} (h : TxBusInv p s T)
  (hp : p.PoolsApart)
include h hp

/-- A frame that has been accepted is mapped where nothing else is. -/
theorem accept {f : TxSent} (hfits : DmaFits p s.tx f.skb)
    (hflight : ∀ b, TxFlight p b (s'.tx.wcn.txCh b) (s'.tx.cursor b) (T b) (s'.sent b)
      (s'.fetched b))
    (hmapped : mappedRegions s'.tx.wcn.log = mappedRegions s.tx.wcn.log ++ [f.skb.region])
    (hsent : s'.sent = Function.update s.sent f.skb.isLow (s.sent f.skb.isLow ++ [f]))
    (hacc : s'.tx.accepted = s.tx.accepted ++ [f.skb]) : TxBusInv p s' T := by
  obtain ⟨hpos, hlen, hapart⟩ := hfits
  have hring := (h.flight f.skb.isLow).holds.ring
  have hT := hring.tail_le
  have hD := hring.dev_le
  have hle : T f.skb.isLow / 2 ≤ (s.sent f.skb.isLow).length := by omega
  have hbus := (bus_pairwise_iff hp s.tx.wcn).mp h.apart
  have hmem : ∀ r ∈ mappedRegions s.tx.wcn.log, r ∈ p.bus s.tx.wcn := fun r hr =>
    List.mem_cons_of_mem _ (List.mem_cons_of_mem _ hr)
  refine
    { flight := hflight
      mapped := ?_
      apart := ?_
      fits := fun b g hg => ?_
      accepted := fun b => ?_ }
  · rw [hmapped, hsent]
    refine (List.perm_append_singleton _ _).trans ?_
    refine ((h.mapped.cons f.skb.region).trans ?_)
    exact ((inRing_append hle f).map fun f => f.skb.region).symm
  · rw [bus_pairwise_iff hp, hmapped]
    constructor
    · intro r hr b
      rcases List.mem_append.mp hr with hr | hr
      · exact hbus.1 r hr b
      · rw [List.mem_singleton.mp hr]
        cases b
        · exact (p.poolRegion_apart _ _ _ _).mp (symm (hapart _ List.mem_cons_self))
        · exact (p.poolRegion_apart _ _ _ _).mp
            (symm (hapart _ (List.mem_cons_of_mem _ List.mem_cons_self)))
    · rw [List.pairwise_append]
      refine ⟨hbus.2, List.pairwise_singleton _ _, fun r hr r' hr' => ?_⟩
      rw [List.mem_singleton.mp hr']
      exact symm (hapart r (hmem r hr))
  · rw [hsent] at hg
    rcases eq_or_ne b f.skb.isLow with rfl | hb
    · rw [Function.update_self] at hg
      rcases List.mem_append.mp hg with hg | hg
      · exact h.fits _ g hg
      · rw [List.mem_singleton.mp hg]
        exact ⟨hpos, hlen⟩
    · rw [Function.update_of_ne hb] at hg
      exact h.fits b g hg
  · rw [hsent, hacc, List.filter_append, ← h.accepted b]
    rcases eq_or_ne b f.skb.isLow with rfl | hb
    · -- On the frame's own channel it is the last one.
      have hown : [f.skb].filter (fun skb => skb.isLow == f.skb.isLow) = [f.skb] :=
        List.filter_cons_of_pos (beq_self_eq_true _)
      rw [Function.update_self, List.map_append, hown]
      rfl
    · have hother : [f.skb].filter (fun skb => skb.isLow == b) = [] :=
        List.filter_cons_of_neg (by simpa using hb.symm)
      rw [Function.update_of_ne hb, hother, List.append_nil]

omit hp in
/-- A frame is put with its BD at the head, when the head is not VALID. -/
theorem acceptAt {is_low : Bool} (hfree : (s.tx.wcn.txCh is_low).headValid = false) {H : ℕ}
    (hhead : HeadAt (s.tx.wcn.txCh is_low) H) {f : TxSent}
    (hroom : ((s.sent is_low).drop (T is_low / 2)).length ≠ p.desc_num is_low / 2) :
    TxFlight p is_low (acceptCh ((s.tx.wcn.txCh is_low).writeBd (bdAddr (p.pool is_low)
        (p.desc_num is_low) H) f.bd.sentBytes) H
        (bdPhy (p.pool is_low) (p.desc_num is_low) (2 * (s.sent is_low).length)) f.skb)
      (s.tx.cursor is_low) (T is_low) (s.sent is_low ++ [f]) (s.fetched is_low) := by
  have hn := (h.flight is_low).holds.desc_num
  have hmod := h.headAt hhead
  -- What has been stored at the head is the BD of the frame.
  have hread : ((s.tx.wcn.txCh is_low).writeBd (bdAddr (p.pool is_low) (p.desc_num is_low) H)
      f.bd.sentBytes).readBd (bdAddr (p.pool is_low) (s.tx.wcn.txCh is_low).desc_num
        (2 * (s.sent is_low).length)) = f.bd.sentBytes := by
    have haddr : bdAddr (p.pool is_low) (s.tx.wcn.txCh is_low).desc_num
        (2 * (s.sent is_low).length) = bdAddr (p.pool is_low) (p.desc_num is_low) H := by
      rw [hn, bdAddr, bdAddr, hmod]
    rw [haddr]
    exact DxeCh.readBd_writeBd_self _ _ f.bd.length_sentBytes
  have hflight := (h.writeBd hfree hhead f.bd.length_sentBytes).accept hroom hread
  have hset : ((s.tx.wcn.txCh is_low).writeBd (bdAddr (p.pool is_low) (p.desc_num is_low) H)
      f.bd.sentBytes).desc_num = p.desc_num is_low := hn
  rw [← hset] at hmod
  rw [hset] at hflight
  rw [acceptCh_congr _ hmod]
  exact hflight

omit hp in
/-- A step that leaves the other channel is one of the frame's own. -/
theorem flight_of_own (is_low : Bool) {w : Wcn} {sent : Bool → List TxSent}
    (hother : ∀ b, b ≠ is_low → w.txCh b = s.tx.wcn.txCh b ∧ sent b = s.sent b)
    (hown : TxFlight p is_low (w.txCh is_low) (s.tx.cursor is_low) (T is_low) (sent is_low)
      (s.fetched is_low)) (b : Bool) :
    TxFlight p b (w.txCh b) (s.tx.cursor b) (T b) (sent b) (s.fetched b) := by
  rcases eq_or_ne b is_low with rfl | hb
  · exact hown
  · rw [(hother b hb).1, (hother b hb).2]
    exact h.flight b

/-- A call of `wcn36xx_tx`. -/
theorem tx {sta_priv : Option ℕ} {skb : SkBuff} (hP : BusFits p s (.tx sta_priv skb))
    (hstep : (txBusSystem p).step s (.tx sta_priv skb) = some s') : TxBusInv p s' T := by
  obtain ⟨hfree, hfits⟩ := hP
  simp only [txBusSystem, Option.bind_eq_bind, Option.bind_eq_some_iff, Option.pure_def,
    Option.some.injEq] at hstep
  obtain ⟨t, ht, rfl⟩ := hstep
  obtain ⟨q', hTx, -⟩ := txStep_cases_tx h.holdsAll ht
  have hsent : ∀ t : TxWorld, t.accepted = s.tx.accepted →
      noteSent s.tx t s.sent (.tx sta_priv skb) = s.sent := fun t heq =>
    noteSent_of_eq heq s.sent sta_priv skb
  cases hTx with
  | @refused _ _ H hfresh hw hack hhead =>
    refine h.keep hp (h.flight_of_own skb.isLow (fun b hb => ⟨Wcn.txCh_setTxCh_ne _ hb _,
      congrFun (hsent _ rfl) b⟩) ?_) ?_ (hsent _ rfl) rfl
    · rw [hsent _ (by rfl)]
      dsimp only
      rw [Wcn.emit_txCh, Wcn.writeBd, Wcn.txCh_setTxCh]
      exact h.writeBd hfree hhead (TxBd.length_bytes _)
    · cases skb.isLow <;> exact mappedRegions_append _ _
  | @busy _ _ H vif_priv bd mac es hfresh hack hhead hbuilt hfull =>
    refine h.keep hp (h.flight_of_own skb.isLow (fun b hb => ⟨txCh_filledWcn_ne hb _ bd mac es,
      congrFun (hsent _ rfl) b⟩) ?_) ?_ (hsent _ rfl) rfl
    · rw [hsent _ (by rfl)]
      have hflight := h.writeBd hfree hhead bd.length_sentBytes
      rw [← txCh_filledWcn s.tx.wcn skb _ bd mac es] at hflight
      exact hflight
    · exact (mappedRegions_append _ _).trans (mappedRegions_filledWcn hbuilt s.tx.wcn
        (bdAddr (p.pool skb.isLow) (p.desc_num skb.isLow) H))
  | @accepted _ _ H vif_priv bd mac es phy kick hfresh hack hhead hbuilt hroom hback hreads
      hleaves =>
    have hhold := (h.flight skb.isLow).holds
    have hn := hhold.desc_num
    have hsent' : ∀ t : TxWorld, t.accepted = s.tx.accepted ++ [skb] →
        noteSent s.tx t s.sent (.tx sta_priv skb) =
          Function.update s.sent skb.isLow (s.sent skb.isLow ++ [⟨bd, skb⟩]) := fun t heq =>
      noteSent_of_append heq hbuilt s.sent
    -- The descriptor of the BD holds the bus address of the BD of the head.
    have hphy : phy = bdPhy (p.pool skb.isLow) (p.desc_num skb.isLow)
        (2 * (s.sent skb.isLow).length) := by
      obtain ⟨c, hc, -⟩ := hhold.ring.ready.ctl (2 * (s.sent skb.isLow).length)
      have hsrc := txStep_src hhold ht (by
        dsimp only
        simp) hc
      have hval := (h.flight skb.isLow).phy (2 * (s.sent skb.isLow).length) (by omega)
      rw [hc, Option.map_some, Option.some.injEq, hn] at hval
      rw [← hval, ← hsrc, hn, ← h.headAt hhead, ← hn]
      dsimp only
      rw [Wcn.emit_txCh, Wcn.txCh_setTxCh]
      exact (hhold.writeBd _ _).ring.ready.acceptCh_src H phy skb |>.symm
    refine h.accept hp (f := ⟨bd, skb⟩) hfits (h.flight_of_own skb.isLow (fun b hb => ⟨?_, ?_⟩) ?_) ?_
      (hsent' _ rfl) rfl
    · rw [Wcn.emit_txCh, Wcn.txCh_setTxCh_ne _ hb, txCh_filledWcn_ne hb]
    · exact (congrFun (hsent' _ rfl) b).trans (Function.update_of_ne hb _ _)
    · rw [hsent' _ (by rfl)]
      dsimp only
      rw [Function.update_self, Wcn.emit_txCh, Wcn.txCh_setTxCh, hphy]
      rw [List.length_map] at hroom
      exact h.acceptAt (f := ⟨bd, skb⟩) hfree hhead hroom
    · rw [Wcn.emit_log, Wcn.setTxCh_log, mappedRegions_append, mappedRegions_filledWcn hbuilt]
      exact mapping_of_reads hreads _

/-- The DMA engine fetches for a descriptor and completes it. -/
theorem dma {is_low : Bool} (hstep : (txBusSystem p).step s (.dma is_low) = some s') :
    TxBusInv p s' T := by
  have hhold := (h.flight is_low).holds
  simp only [txBusSystem, txSystem, hhold.valid_cursor, decide_eq_true_eq, Option.bind_eq_bind,
    Option.bind_eq_some_iff, Option.ite_none_right_eq_some, Option.some.injEq,
    Option.pure_def] at hstep
  obtain ⟨t, ⟨hlt, rfl⟩, rfl⟩ := hstep
  refine h.keep hp (fun b => ?_) ?_ rfl rfl
  · dsimp only
    unfold noteSent noteFetched
    rcases eq_or_ne b is_low with rfl | hb
    · dsimp only
      rw [dmaComplete, Wcn.txCh_setTxCh, Function.update_self, Function.update_self]
      exact (h.flight b).complete hlt (h.fetch hp hlt)
    · dsimp only
      rw [dmaComplete, Wcn.txCh_setTxCh_ne _ hb, Function.update_of_ne hb, Function.update_of_ne hb]
      exact h.flight b
  · dsimp only
    rw [dmaComplete, Wcn.setTxCh_log]

omit hp in
/-- The frame at a block of the ring is one that has been sent, and the descriptor of the block says
where it is mapped. -/
theorem src_of_slotSkb {is_low : Bool} {k : ℕ} {skb : SkBuff}
    (hk : (s.tx.wcn.txCh is_low).slotSkb k = some skb) :
    ((s.tx.wcn.txCh is_low).dxe (k % (s.tx.wcn.txCh is_low).desc_num)).src_addr_l = skb.dma := by
  have hring := (h.flight is_low).holds.ring
  have htwo := hring.ready.two_le
  have hT := hring.tail_le
  obtain ⟨j, hTj, hj, heq⟩ := (Support.Cycle.consecutive 1
    (s.tx.wcn.txCh is_low).desc_num).exists_window (by omega) (T is_low) k
  have hmod : j % (s.tx.wcn.txCh is_low).desc_num = k % (s.tx.wcn.txCh is_low).desc_num :=
    ((s.tx.wcn.txCh is_low).blk_eq_iff j k).mp heq
  have hslot : (s.tx.wcn.txCh is_low).slotSkb j = some skb := by
    rw [← hk, DxeCh.slotSkb, DxeCh.slotSkb, DxeCh.blk, DxeCh.blk, heq]
  rw [hring.skb j hTj hj] at hslot
  split_ifs at hslot with hodd
  rw [List.getElem?_map, List.getElem?_drop, Option.map_eq_some_iff] at hslot
  obtain ⟨f, hf, rfl⟩ := hslot
  have hidx : T is_low / 2 + (j / 2 - T is_low / 2) = j / 2 := by omega
  have hpos : 2 * (j / 2) + 1 = j := by omega
  rw [hidx] at hf
  have hsrc := (h.flight is_low).src _ f hf (by omega)
  rw [hpos, hmod] at hsrc
  exact hsrc

/-- `reap_tx_dxes`: the tail of the channel comes to the device, and the frames behind it are
unmapped. -/
theorem reap {is_low : Bool} (hstep : (txBusSystem p).step s (.reap is_low) = some s') :
    TxBusInv p s' (Function.update T is_low (s.fetched is_low).length) := by
  have hhold := (h.flight is_low).holds
  obtain ⟨ch, fs, hrun, hring, htail, htake, hch⟩ := reapTxDxes_spec hhold.ring hhold.tail
  have hreaped := reapTxDxes_reaped hhold.ring.ready hhold.tail hrun
  simp only [txBusSystem, txSystem, hrun, Option.bind_eq_bind, Option.bind_some, Option.pure_def,
    Option.some.injEq] at hstep
  subst hstep
  have hnum : ch.desc_num = (s.tx.wcn.txCh is_low).desc_num := by rw [hch]
  -- Every frame is unmapped where it is mapped.
  have haddr : ∀ f ∈ fs, f.1 = f.2.dma := by
    intro f hf
    obtain ⟨es, hlog, hes⟩ := hreaped.log
    obtain rfl : reapEffects s.tx.wcn.queues_stopped fs = es := List.append_cancel_left hlog
    obtain ⟨k, hk, hsrc⟩ := hes f.1 f.2 (mem_reapEffects hf _)
    rw [hsrc, h.src_of_slotSkb hk]
  rw [← List.map_take] at htake
  -- So the mappings that go are those of the frames that leave the ring.
  have hunmap : mappedRegions (reapedWcn s.tx.wcn is_low ch fs).log =
      (((inRing s.sent T is_low).take ((s.fetched is_low).length / 2 - T is_low / 2)).map
        fun f => f.skb.region).foldl (fun rs r => BusRegion.unmap rs r.base)
        (mappedRegions s.tx.wcn.log) := by
    rw [reapedWcn, mappedRegions_append, foldl_mapping_reapEffects haddr, htake, List.map_map]
    rfl
  have hbus := (bus_pairwise_iff hp s.tx.wcn).mp h.apart
  refine
    { flight := fun b => ?_
      mapped := ?_
      apart := ?_
      fits := h.fits
      accepted := h.accepted }
  · dsimp only
    rcases eq_or_ne b is_low with rfl | hb
    · rw [txCh_reapedWcn, Function.update_self]
      refine (h.flight b).reap hring htail hch fun k => ?_
      have hphy := hreaped.phy (ch.blk k)
      rw [txCh_reapedWcn] at hphy
      rw [hphy, DxeCh.blk, DxeCh.blk, hnum]
    · rw [Function.update_of_ne hb]
      have hsame : (reapedWcn s.tx.wcn is_low ch fs).txCh b = s.tx.wcn.txCh b :=
        Wcn.txCh_setTxCh_ne s.tx.wcn hb ch
      rw [hsame]
      exact h.flight b
  · dsimp only
    rw [hunmap]
    refine BusRegion.foldl_unmap_perm hbus.2 h.nonempty (h.mapped.trans ?_)
    rw [← List.map_append]
    exact (inRing_drop s.sent T hhold.ring.tail_le).map _
  · have hsub := BusRegion.foldl_unmap_sublist (mappedRegions s.tx.wcn.log)
      (((inRing s.sent T is_low).take ((s.fetched is_low).length / 2 - T is_low / 2)).map
        fun f => f.skb.region)
    rw [bus_pairwise_iff hp, hunmap]
    exact ⟨fun r hr => hbus.1 r (hsub.subset hr), hbus.2.sublist hsub⟩

/-- Every step from a state with the invariant leads to one. -/
theorem step {e : TxEvent} (hP : BusFits p s e) (hstep : (txBusSystem p).step s e = some s') :
    ∃ T', TxBusInv p s' T' := by
  cases e with
  | tx sta_priv skb => exact ⟨T, h.tx hp hP hstep⟩
  | dma is_low => exact ⟨T, h.dma hp hstep⟩
  | reap is_low => exact ⟨_, h.reap hp hstep⟩
  | ackInd status =>
    simp only [txBusSystem, txSystem, Option.bind_eq_bind, Option.bind_some, Option.pure_def,
      Option.some.injEq] at hstep
    subst hstep
    refine ⟨T, h.keep hp (fun b => ?_) ?_ rfl rfl⟩
    · dsimp only
      rw [dxeTxAckInd_txCh]
      exact h.flight b
    · exact mappedRegions_dxeTxAckInd _ _
  | config mac =>
    simp only [txBusSystem, txSystem, Option.bind_eq_bind, Option.bind_some, Option.pure_def,
      Option.some.injEq] at hstep
    subst hstep
    exact ⟨T, h.keep hp h.flight rfl rfl rfl⟩

end TxBusInv

/-- Initially nothing has been sent and nothing is mapped. -/
theorem txBusSystem_init {p : TxParams} (hp : p.PoolsApart) {s : TxBusWorld}
    (h : (txBusSystem p).init s) : TxBusInv p s fun _ => 0 := by
  obtain ⟨⟨hsetup, -, hlog, hcur, -, hacc, -⟩, hsent, hfetched⟩ := h
  have hmapped : mappedRegions s.tx.wcn.log = [] := by
    rw [hlog]
    rfl
  refine
    { flight := fun b => ?_
      mapped := ?_
      apart := ?_
      fits := ?_
      accepted := fun b => ?_ }
  · obtain ⟨ch, hch, hn, hring, htail⟩ := txChSetup_ring b (p.two_le b) (p.even b)
      (p.coherent b) (show 0 < (p.pool b).virt_addr from p.virt_pos b)
    obtain rfl : ch = s.tx.wcn.txCh b := Option.some.inj (hch.symm.trans (hsetup b))
    obtain ⟨ch', hch', -, -, hctl, -, hcfg⟩ := txChSetup_spec b (p.desc_num b) (p.two_le b)
      (p.coherent b).1 (p.coherent b).2 (p.pool b)
    obtain rfl : ch' = s.tx.wcn.txCh b := Option.some.inj (hch'.symm.trans (hsetup b))
    rw [hsent, hfetched, hcur]
    have hwq : (s.tx.wcn.txCh b).dxe_wq = (txChConfig b 0).dxe_wq ∧
        (s.tx.wcn.txCh b).ctrl_bd = (txChConfig b 0).ctrl_bd ∧
        (s.tx.wcn.txCh b).ctrl_skb = (txChConfig b 0).ctrl_skb := by
      rw [hcfg]
      cases b <;> exact ⟨rfl, rfl, rfl⟩
    exact
      { holds := { ring := hring, tail := htail, desc_num := hn, cursor_eq := (Nat.zero_mod _).symm }
        wq := hwq.1
        ctrl_bd := hwq.2.1
        ctrl_skb := hwq.2.2
        phy := fun k hk => by
          have htwo := p.two_le b
          have hblk : (s.tx.wcn.txCh b).blk k = 1 + k % p.desc_num b := by
            rw [DxeCh.blk, hn]
            rfl
          have heven : k % p.desc_num b % 2 = 0 := by
            have hmod := hring.ready.mod_two k
            rw [hn] at hmod
            omega
          rw [hblk, hctl _ (Nat.mod_lt _ (by omega)), Option.map_some, txReadyCtl, initTxBdCtl,
            if_pos heven, hn]
          rfl
        bd := fun i f hf => by cases hf
        skb := fun i f hf => by cases hf
        src := fun i f hf => by cases hf
        fetched := List.nil_prefix }
  · rw [hmapped, hsent]
    rfl
  · rw [bus_pairwise_iff hp, hmapped]
    exact ⟨fun r hr => absurd hr List.not_mem_nil, List.Pairwise.nil⟩
  · rw [hsent]
    exact fun b f hf => absurd hf List.not_mem_nil
  · rw [hsent, hacc]
    rfl

/-- The invariant of every run in which frames are offered and mapped as they should be. -/
theorem txBusInv_of_reachable {p : TxParams} (hp : p.PoolsApart) {s : TxBusWorld}
    (h : (txBusSystem p).ReachableWhen (BusFits p) s) : ∃ T, TxBusInv p s T := by
  refine h.invariant (I := fun s => ∃ T, TxBusInv p s T)
    (fun s hs => ⟨_, txBusSystem_init hp hs⟩) ?_
  rintro s e s' ⟨T, hT⟩ hP hstep
  exact hT.step hp hP hstep

/-! ## A run on given frames -/

/-- The pools of the driver's own numbers of descriptors do not overlap. -/
theorem driverParams_poolsApart : driverParams.PoolsApart where
  fits is_low := by cases is_low <;> decide
  apart ch ch' := by
    unfold BusRegion.Apart TxParams.poolRegion
    simp only [List.length_map, List.length_range]
    decide

/-- The state after a replay from the set-up, if every event could happen. -/
def txBusRun (mac : MacConf) (es : List TxEvent) : Option TxBusWorld :=
  (txStart driverParams mac).bind fun tx =>
    (txBusSystem driverParams).runWhen (BusFits driverParams) { tx := tx } es

/-- A replay from the set-up ends in a state of a run. -/
theorem txBusRun_reachable (mac : MacConf) (es : List TxEvent) {P : TxBusWorld → Bool}
    (h : (txBusRun mac es).any P = true) :
    ∃ s, (txBusSystem driverParams).ReachableWhen (BusFits driverParams) s ∧ P s = true := by
  obtain ⟨s, hrun, hP⟩ := (Option.any_eq_true _ _).mp h
  obtain ⟨tx, htx, hrun⟩ := Option.bind_eq_some_iff.mp hrun
  exact ⟨s, System.ReachableWhen.runWhen (.init ⟨txStart_init htx, rfl, rfl⟩) hrun, hP⟩

/-- Two frames on the TX high channel, of which the device has fetched the first and the BD of the
second; the first has been reaped. -/
theorem txBusRun_two_frames :
    ∃ s, (txBusSystem driverParams).ReachableWhen (BusFits driverParams) s ∧
      decide ((s.sent false).length = 2 ∧ (s.fetched false).length = 3 ∧
        (mappedRegions s.tx.wcn.log).length = 1) = true :=
  txBusRun_reachable oneStation [.tx none (authFrame 1 30 false), .tx none (authFrame 2 40 false),
    .dma false, .dma false, .reap false, .dma false] (by decide +kernel)

/-! ## What the device gets -/

/-- The device fetches the frames that `wcn36xx_start_tx` has accepted on a channel, once each and in
order: for each frame its BD as it was built and then its bytes, with the control words and the work
queue of the channel. It stops only when it has fetched them all. -/
theorem txFetched_front {p : TxParams} (hp : p.PoolsApart) {s : TxBusWorld}
    (h : (txBusSystem p).ReachableWhen (BusFits p) s) (is_low : Bool) :
    s.fetched is_low <+: (s.sent is_low).flatMap (TxSent.fetches is_low) ∧
    (((s.tx.wcn.txCh is_low).dxe (s.tx.cursor is_low)).valid = false ↔
      s.fetched is_low = (s.sent is_low).flatMap (TxSent.fetches is_low)) ∧
    (s.sent is_low).map TxSent.skb = s.tx.accepted.filter fun skb => skb.isLow == is_low := by
  obtain ⟨T, hT⟩ := txBusInv_of_reachable hp h
  have hpre := (hT.flight is_low).fetched
  have hhold := (hT.flight is_low).holds
  refine ⟨hpre, ?_, hT.accepted is_low⟩
  rw [hhold.valid_cursor, decide_eq_false_iff_not, Nat.not_lt, ← length_flatMap_fetches is_low]
  constructor
  · exact fun hle => hpre.eq_of_length (Nat.le_antisymm hpre.length_le hle)
  · exact fun heq => Nat.le_of_eq (congrArg List.length heq.symm)

/-- The run on two frames, of which the device has fetched one and the BD of the other. -/
theorem txFetched_front_two_frames :
    ∃ s, (txBusSystem driverParams).ReachableWhen (BusFits driverParams) s ∧
      (s.sent false).length = 2 ∧ (s.fetched false).length = 3 ∧
      s.fetched false <+: (s.sent false).flatMap (TxSent.fetches false) ∧
      (((s.tx.wcn.txCh false).dxe (s.tx.cursor false)).valid = false ↔
        s.fetched false = (s.sent false).flatMap (TxSent.fetches false)) ∧
      (s.sent false).map TxSent.skb = s.tx.accepted.filter fun skb => skb.isLow == false := by
  obtain ⟨s, hs, hlen⟩ := txBusRun_two_frames
  obtain ⟨hsent, hfetched, -⟩ := of_decide_eq_true hlen
  exact ⟨s, hs, hsent, hfetched, txFetched_front driverParams_poolsApart hs false⟩

end Wcn36xx
