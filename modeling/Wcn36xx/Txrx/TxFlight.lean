import Wcn36xx.Support.Bus
import Wcn36xx.Txrx.BdIntegrity

/-!
# A TX channel and its DMA engine

The DMA engine of a TX channel knows bus addresses only. For each descriptor it reads `fr_len` bytes at
`src_addr_l`, which is the bus address of a BD in the channel's memory pool or that of a mapped frame.
`TxFlight` describes a channel on which some frames have been accepted and of which the engine has
fetched a part: the steps of the driver and of the engine keep it, and as long as nothing on the bus
overlaps, what the engine fetches next is the next part (`TxFlight.fetch`).
-/

namespace Wcn36xx

open Support (BusRegion)

/-! ## The bus -/

/-- The memory pool of a TX channel on the bus, `chunk_size * desc_num` bytes. -/
def TxParams.poolRegion (p : TxParams) (is_low : Bool) (ch : DxeCh) : BusRegion Byte where
  base := (p.pool is_low).phy_addr.toNat
  data := (List.range ((p.pool is_low).chunk_size * p.desc_num is_low)).map fun i =>
    ch.bd ((p.pool is_low).virt_addr + i)

/-- A frame on the bus. -/
def SkBuff.region (skb : SkBuff) : BusRegion Byte where
  base := skb.dma.toNat
  data := skb.data

/-- What an effect does to the mapped frames. -/
def Effect.mapping (rs : List (BusRegion Byte)) : Effect → List (BusRegion Byte)
  | .dmaMap skb => rs ++ [skb.region]
  | .dmaUnmap addr _ => BusRegion.unmap rs addr.toNat
  | _ => rs

/-- The frames that are mapped after some effects. -/
def mappedRegions (log : List Effect) : List (BusRegion Byte) := log.foldl Effect.mapping []

/-- What the device can reach: the two memory pools and the mapped frames. -/
def TxParams.bus (p : TxParams) (wcn : Wcn) : List (BusRegion Byte) :=
  p.poolRegion false (wcn.txCh false) :: p.poolRegion true (wcn.txCh true) :: mappedRegions wcn.log

/-- What the DMA engine takes from a descriptor, and the bytes that it reads for it. -/
structure TxFetch where
  ctrl : BitVec 32
  dst_addr_l : BitVec 32
  fr_len : BitVec 32
  /-- `none` when the bus has nothing there. -/
  bytes : Option (List Byte)
  deriving DecidableEq

/-- What the DMA engine of a channel fetches at the descriptor that it is at. -/
def txFetch (p : TxParams) (s : TxWorld) (is_low : Bool) : TxFetch :=
  let d := (s.wcn.txCh is_low).dxe (s.cursor is_low)
  { ctrl := d.ctrl, dst_addr_l := d.dst_addr_l, fr_len := d.fr_len
    bytes := BusRegion.read (p.bus s.wcn) d.src_addr_l.toNat d.fr_len.toNat }

/-- A frame that `wcn36xx_start_tx` has accepted, with the BD that it has built for it. -/
structure TxSent where
  bd : TxBd
  skb : SkBuff

/-- What the device is to fetch for the BD of a frame. -/
def TxSent.bdFetch (is_low : Bool) (f : TxSent) : TxFetch where
  ctrl := (txChConfig is_low 0).ctrl_bd
  dst_addr_l := (txChConfig is_low 0).dxe_wq
  fr_len := BitVec.ofNat 32 TxBd.size
  bytes := some f.bd.sentBytes

/-- What the device is to fetch for a frame after its BD. -/
def TxSent.skbFetch (is_low : Bool) (f : TxSent) : TxFetch where
  ctrl := (txChConfig is_low 0).ctrl_skb
  dst_addr_l := (txChConfig is_low 0).dxe_wq
  fr_len := BitVec.ofNat 32 f.skb.len
  bytes := some f.skb.data

/-- What the device is to fetch for a frame. -/
def TxSent.fetches (is_low : Bool) (f : TxSent) : List TxFetch := [f.bdFetch is_low, f.skbFetch is_low]

/-- `dma_alloc_coherent` has returned two pools in the address space of the bus that do not overlap. -/
structure TxParams.PoolsApart (p : TxParams) : Prop where
  fits : ∀ is_low, (p.pool is_low).phy_addr.toNat +
    (p.pool is_low).chunk_size * p.desc_num is_low ≤ 2 ^ 32
  apart : ∀ ch ch', (p.poolRegion false ch).Apart (p.poolRegion true ch')

/-! ## One channel -/

/-- The bus address of the BD of position `k` in a ring of `n` blocks. -/
def bdPhy (pool : DxeMemPool) (n k : ℕ) : BitVec 32 :=
  pool.phy_addr + BitVec.ofNat 32 (pool.chunk_size * (k % n / 2))

/-- A descriptor has the given control word, destination, source and length. -/
def DxeDesc.Has (d : DxeDesc) (ctrl dst src len : BitVec 32) : Prop :=
  d.ctrl = ctrl ∧ d.dst_addr_l = dst ∧ d.src_addr_l = src ∧ d.fr_len = len

/-- The frames `sent` have been accepted on a channel with tail `T`, and the device has fetched
`fetched`: what is in the ring are the frames from `T / 2` on, and each descriptor that the device has
not come to says where the part of the frame is. -/
structure TxFlight (p : TxParams) (is_low : Bool) (ch : DxeCh) (cursor T : ℕ) (sent : List TxSent)
    (fetched : List TxFetch) : Prop where
  holds : TxHolds p is_low ch cursor T fetched.length (2 * sent.length)
    ((sent.drop (T / 2)).map TxSent.skb)
  wq : ch.dxe_wq = (txChConfig is_low 0).dxe_wq
  ctrl_bd : ch.ctrl_bd = (txChConfig is_low 0).ctrl_bd
  ctrl_skb : ch.ctrl_skb = (txChConfig is_low 0).ctrl_skb
  phy : ∀ k, k % 2 = 0 → (ch.ctl (ch.blk k)).map DxeCtl.bd_phy_addr =
    some (bdPhy (p.pool is_low) ch.desc_num k)
  bd : ∀ i f, sent[i]? = some f → fetched.length ≤ 2 * i →
    (ch.dxe (2 * i % ch.desc_num)).Has ch.ctrl_bd ch.dxe_wq
      (bdPhy (p.pool is_low) ch.desc_num (2 * i)) (BitVec.ofNat 32 TxBd.size) ∧
    ch.readBd (bdAddr (p.pool is_low) ch.desc_num (2 * i)) = f.bd.sentBytes
  skb : ∀ i f, sent[i]? = some f → fetched.length ≤ 2 * i + 1 →
    (ch.dxe ((2 * i + 1) % ch.desc_num)).Has ch.ctrl_skb ch.dxe_wq f.skb.dma
      (BitVec.ofNat 32 f.skb.len)
  -- Unmapping reads the source of a descriptor that the device has left behind.
  src : ∀ i f, sent[i]? = some f → T ≤ 2 * i + 1 →
    (ch.dxe ((2 * i + 1) % ch.desc_num)).src_addr_l = f.skb.dma
  fetched : fetched <+: sent.flatMap (TxSent.fetches is_low)

/-- Storing a frame leaves the BD of every block. -/
theorem DxeCh.phy_setSkb (ch : DxeCh) (k : ℕ) (v : Option SkBuff) (b : ℕ) :
    ((ch.setSkb k v).ctl b).map DxeCtl.bd_phy_addr = (ch.ctl b).map DxeCtl.bd_phy_addr := by
  unfold DxeCh.setSkb
  dsimp only
  split_ifs
  · rw [Option.map_map]
    rfl
  · rfl

/-- The two parts of frame `i`. -/
theorem getElem?_flatMap_fetches (is_low : Bool) (sent : List TxSent) (i : ℕ) :
    (sent.flatMap (TxSent.fetches is_low))[2 * i]? = sent[i]?.map (TxSent.bdFetch is_low) ∧
    (sent.flatMap (TxSent.fetches is_low))[2 * i + 1]? = sent[i]?.map (TxSent.skbFetch is_low) := by
  induction sent generalizing i with
  | nil => exact ⟨rfl, rfl⟩
  | cons f sent ih =>
    rw [List.flatMap_cons]
    unfold TxSent.fetches
    cases i with
    | zero => exact ⟨rfl, rfl⟩
    | succ i =>
      obtain ⟨hbd, hskb⟩ := ih i
      have h2 : 2 * (i + 1) = 2 * i + 1 + 1 := by omega
      rw [h2]
      simp only [List.cons_append, List.nil_append, List.getElem?_cons_succ]
      exact ⟨hbd, hskb⟩

/-- Two parts for each frame. -/
theorem length_flatMap_fetches (is_low : Bool) (sent : List TxSent) :
    (sent.flatMap (TxSent.fetches is_low)).length = 2 * sent.length := by
  induction sent with
  | nil => rfl
  | cons f sent ih =>
    rw [List.flatMap_cons, List.length_append, ih, List.length_cons, TxSent.fetches]
    simp only [List.length_cons, List.length_nil]
    omega

/-- An element of a list to which one has been appended. -/
theorem getElem?_concat_cases {α : Type*} {xs : List α} {x y : α} {i : ℕ}
    (h : (xs ++ [x])[i]? = some y) : (i < xs.length ∧ xs[i]? = some y) ∨ (i = xs.length ∧ y = x) := by
  rcases Nat.lt_trichotomy i xs.length with hlt | rfl | hgt
  · rw [List.getElem?_append_left hlt] at h
    exact .inl ⟨hlt, h⟩
  · rw [List.getElem?_concat_length, Option.some.injEq] at h
    exact .inr ⟨rfl, h.symm⟩
  · rw [List.getElem?_eq_none (by rw [List.length_append, List.length_singleton]; omega)] at h
    cases h

section Accept

variable {ch : DxeCh} {H : ℕ} (bd_phy_addr : BitVec 32) (skb : SkBuff)

/-- The descriptor of the accepted frame's BD. -/
theorem acceptCh_dxe_bd (hne : H % ch.desc_num ≠ (H + 1) % ch.desc_num) :
    (acceptCh ch H bd_phy_addr skb).dxe (H % ch.desc_num) =
      { ch.dxe (H % ch.desc_num) with
        src_addr_l := bd_phy_addr, dst_addr_l := ch.dxe_wq
        fr_len := BitVec.ofNat 32 TxBd.size, ctrl := ch.ctrl_bd } := by
  unfold acceptCh
  dsimp only
  rw [Function.update_of_ne hne, Function.update_self]

/-- The descriptor of the accepted frame's bytes. -/
theorem acceptCh_dxe_skb : (acceptCh ch H bd_phy_addr skb).dxe ((H + 1) % ch.desc_num) =
    { ch.dxe ((H + 1) % ch.desc_num) with
      src_addr_l := skb.dma, dst_addr_l := ch.dxe_wq
      fr_len := BitVec.ofNat 32 skb.len, ctrl := ch.ctrl_skb } := by
  unfold acceptCh
  exact Function.update_self _ _ _

/-- The descriptors between the tail and the head stay. -/
theorem acceptCh_dxe_of_lt {T k : ℕ} (hlap : H + 2 ≤ T + ch.desc_num) (hT : T ≤ k) (hk : k < H) :
    (acceptCh ch H bd_phy_addr skb).dxe (k % ch.desc_num) = ch.dxe (k % ch.desc_num) := by
  have hskb : k % ch.desc_num ≠ (H + 1) % ch.desc_num := fun heq => by
    have := (mod_eq_iff (t := T) ⟨hT, by omega⟩ ⟨by omega, by omega⟩).mp heq
    omega
  have hbd : k % ch.desc_num ≠ H % ch.desc_num := fun heq => by
    have := (mod_eq_iff (t := T) ⟨hT, by omega⟩ ⟨by omega, by omega⟩).mp heq
    omega
  unfold acceptCh
  dsimp only
  rw [Function.update_of_ne hskb, Function.update_of_ne hbd]

end Accept

namespace TxFlight

variable {p : TxParams} {is_low : Bool} {ch : DxeCh} {cursor T : ℕ} {sent : List TxSent}
  {fetched : List TxFetch} (h : TxFlight p is_low ch cursor T sent fetched)
include h

/-- The positions of a part that the device has not come to. -/
theorem window {i : ℕ} {f : TxSent} (hf : sent[i]? = some f) {k : ℕ} (hk : k / 2 = i) :
    k < 2 * sent.length ∧ k < T + ch.desc_num := by
  obtain ⟨hi, -⟩ := List.getElem?_eq_some_iff.mp hf
  have hlap := h.holds.ring.head_le
  omega

/-- A BD that is stored at the head, when the head is not VALID, touches nothing that the device has yet
to fetch. -/
theorem writeBd (hfree : ch.slotValid (2 * sent.length) = false) {bytes : List Byte}
    (hlen : bytes.length = TxBd.size) :
    TxFlight p is_low
      (ch.writeBd (bdAddr (p.pool is_low) ch.desc_num (2 * sent.length)) bytes) cursor T sent
      fetched where
  holds := h.holds.writeBd _ _
  wq := h.wq
  ctrl_bd := h.ctrl_bd
  ctrl_skb := h.ctrl_skb
  phy := h.phy
  bd i f hf hle := by
    obtain ⟨hdesc, hread⟩ := h.bd i f hf hle
    refine ⟨hdesc, ?_⟩
    have hT := h.holds.ring.tail_le
    obtain ⟨hlt, hlap⟩ := h.window hf (k := 2 * i) (by omega)
    -- The BD of the frame is at a VALID descriptor, so it is not the one at the head.
    have hvalid : ch.slotValid (2 * i) = true := by
      rw [h.holds.ring.valid _ (by omega) hlap]
      exact decide_eq_true ⟨hle, hlt⟩
    have hne : 2 * i % ch.desc_num ≠ 2 * sent.length % ch.desc_num := by
      intro heq
      rw [DxeCh.slotValid, heq, ← DxeCh.slotValid, hfree] at hvalid
      exact Bool.false_ne_true hvalid
    rw [← hread]
    exact h.holds.ring.ready.readBd_writeBd (by omega) hlen (by omega) hne
  skb := h.skb
  src := h.src
  fetched := h.fetched

/-- A frame whose BD has just been stored at the head is put into the ring. -/
theorem accept {f : TxSent} (hroom : (sent.drop (T / 2)).length ≠ p.desc_num is_low / 2)
    (hread : ch.readBd (bdAddr (p.pool is_low) ch.desc_num (2 * sent.length)) = f.bd.sentBytes) :
    TxFlight p is_low
      (acceptCh ch (2 * sent.length) (bdPhy (p.pool is_low) ch.desc_num (2 * sent.length)) f.skb)
      cursor T (sent ++ [f]) fetched := by
  have hT := h.holds.ring.tail_le
  have hD := h.holds.ring.dev_le
  have hn := h.holds.desc_num
  have hlast : 2 * sent.length + 2 ≤ T + ch.desc_num := by
    have hfull := h.holds.ring.full_iff
    rw [hn, List.length_map] at hfull
    omega
  -- The descriptors of the frame are those at the head, and the others stay.
  have hdxe : ∀ k, T ≤ k → k < 2 * sent.length →
      (acceptCh ch (2 * sent.length) (bdPhy (p.pool is_low) ch.desc_num (2 * sent.length))
        f.skb).dxe (k % ch.desc_num) = ch.dxe (k % ch.desc_num) :=
    fun k hTk hk => acceptCh_dxe_of_lt _ f.skb hlast hTk hk
  have hskb := @acceptCh_dxe_skb ch (2 * sent.length)
    (bdPhy (p.pool is_low) ch.desc_num (2 * sent.length)) f.skb
  have hbd := @acceptCh_dxe_bd ch (2 * sent.length)
    (bdPhy (p.pool is_low) ch.desc_num (2 * sent.length)) f.skb
    (h.holds.ring.ready.succ_mod_ne _).symm
  have hlen : 2 * (sent ++ [f]).length = 2 * sent.length + 2 := by
    rw [List.length_append, List.length_singleton]
    omega
  refine
    { holds := ?_
      wq := h.wq
      ctrl_bd := h.ctrl_bd
      ctrl_skb := h.ctrl_skb
      phy := ?_
      bd := fun i g hg hle => ?_
      skb := fun i g hg hle => ?_
      src := fun i g hg hle => ?_
      fetched := ?_ }
  · rw [hlen, List.drop_append_of_le_length (by omega), List.map_append]
    exact h.holds.accept (by rw [List.length_map]; exact hroom) _ f.skb
  · intro k hk
    unfold acceptCh
    dsimp only
    rw [DxeCh.phy_setSkb, DxeCh.phy_setSkb]
    exact h.phy k hk
  · rcases getElem?_concat_cases hg with ⟨hi, hg⟩ | ⟨rfl, rfl⟩
    · rw [acceptCh_desc_num, hdxe _ (by omega) (by omega)]
      exact h.bd i g hg hle
    · rw [acceptCh_desc_num, hbd]
      exact ⟨⟨rfl, rfl, rfl, rfl⟩, hread⟩
  · rcases getElem?_concat_cases hg with ⟨hi, hg⟩ | ⟨rfl, rfl⟩
    · rw [acceptCh_desc_num, hdxe _ (by omega) (by omega)]
      exact h.skb i g hg hle
    · rw [acceptCh_desc_num, hskb]
      exact ⟨rfl, rfl, rfl, rfl⟩
  · rcases getElem?_concat_cases hg with ⟨hi, hg⟩ | ⟨rfl, rfl⟩
    · rw [acceptCh_desc_num, hdxe _ (by omega) (by omega)]
      exact h.src i g hg hle
    · rw [acceptCh_desc_num, hskb]
  · rw [List.flatMap_append]
    exact h.fetched.trans (List.prefix_append _ _)

/-- The device has fetched for the descriptor that it is at, and completes it. -/
theorem complete (hlt : fetched.length < 2 * sent.length) {x : TxFetch}
    (hx : (sent.flatMap (TxSent.fetches is_low))[fetched.length]? = some x) :
    TxFlight p is_low (ch.modDesc cursor DxeDesc.clearValid) ((cursor + 1) % ch.desc_num) T sent
      (fetched ++ [x]) := by
  have hT := h.holds.ring.tail_le
  have hD := h.holds.ring.dev_le
  have hlap := h.holds.ring.head_le
  have hlen : (fetched ++ [x]).length = fetched.length + 1 := by
    rw [List.length_append, List.length_singleton]
  -- The descriptors behind the one that is completed stay, and of that one its addresses.
  have hdxe : ∀ k, fetched.length + 1 ≤ k → k < 2 * sent.length →
      (ch.modDesc cursor DxeDesc.clearValid).dxe (k % ch.desc_num) = ch.dxe (k % ch.desc_num) := by
    intro k hk hk'
    have hne : k % ch.desc_num ≠ cursor := by
      rw [h.holds.cursor_eq]
      intro heq
      have := (mod_eq_iff (t := T) ⟨by omega, by omega⟩ ⟨hT, by omega⟩).mp heq
      omega
    exact Function.update_of_ne hne _ _
  have hsrc : ∀ j, ((ch.modDesc cursor DxeDesc.clearValid).dxe j).src_addr_l =
      (ch.dxe j).src_addr_l := by
    intro j
    unfold DxeCh.modDesc
    dsimp only
    rcases eq_or_ne j cursor with rfl | hne
    · rw [Function.update_self]
      rfl
    · rw [Function.update_of_ne hne]
  refine
    { holds := ?_
      wq := h.wq
      ctrl_bd := h.ctrl_bd
      ctrl_skb := h.ctrl_skb
      phy := h.phy
      bd := fun i f hf hle => ?_
      skb := fun i f hf hle => ?_
      src := fun i f hf hle => (hsrc _).trans (h.src i f hf hle)
      fetched := ?_ }
  · rw [hlen]
    exact h.holds.complete hlt
  · rw [hlen] at hle
    obtain ⟨hi, -⟩ := List.getElem?_eq_some_iff.mp hf
    have hdesc := hdxe (2 * i) hle (by omega)
    unfold DxeCh.modDesc at hdesc ⊢
    rw [hdesc]
    exact h.bd i f hf (by omega)
  · rw [hlen] at hle
    obtain ⟨hi, -⟩ := List.getElem?_eq_some_iff.mp hf
    have hdesc := hdxe (2 * i + 1) hle (by omega)
    unfold DxeCh.modDesc at hdesc ⊢
    rw [hdesc]
    exact h.skb i f hf (by omega)
  · -- What is fetched goes on where it has come to in what is to be fetched.
    have hpre := List.prefix_iff_eq_take.mp h.fetched
    rw [List.prefix_iff_eq_take, hlen, List.take_add_one, hx, ← hpre]
    rfl

/-- The tail has come to the device. -/
theorem reap {ch' : DxeCh}
    (hring : TxRing (p.pool is_low) ch' fetched.length fetched.length (2 * sent.length)
      (((sent.drop (T / 2)).map TxSent.skb).drop (fetched.length / 2 - T / 2)))
    (htail : ch'.tail_blk_ctl = some (ch'.blk fetched.length))
    (hch : ch' = { ch with ctl := ch'.ctl, tail_blk_ctl := ch'.tail_blk_ctl })
    (hphy : ∀ k, (ch'.ctl (ch'.blk k)).map DxeCtl.bd_phy_addr =
      (ch.ctl (ch.blk k)).map DxeCtl.bd_phy_addr) :
    TxFlight p is_low ch' cursor fetched.length sent fetched := by
  have hT := h.holds.ring.tail_le
  have hnum : ch'.desc_num = ch.desc_num := by rw [hch]
  have hdxe : ch'.dxe = ch.dxe := by rw [hch]
  have hbd : ch'.readBd = ch.readBd := by rw [hch]; rfl
  have hcfg : ch'.dxe_wq = ch.dxe_wq ∧ ch'.ctrl_bd = ch.ctrl_bd ∧ ch'.ctrl_skb = ch.ctrl_skb := by
    rw [hch]
    exact ⟨rfl, rfl, rfl⟩
  obtain ⟨hwq, hcbd, hcskb⟩ := hcfg
  -- The frames in the ring are those that the device has not fetched completely.
  rw [← List.map_drop, List.drop_drop,
    show T / 2 + (fetched.length / 2 - T / 2) = fetched.length / 2 by omega] at hring
  exact
    { holds :=
        { ring := hring, tail := htail, desc_num := hnum.trans h.holds.desc_num
          cursor_eq := by rw [hnum]; exact h.holds.cursor_eq }
      wq := hwq.trans h.wq
      ctrl_bd := hcbd.trans h.ctrl_bd
      ctrl_skb := hcskb.trans h.ctrl_skb
      phy := fun k hk => by
        rw [hphy, hnum]
        exact h.phy k hk
      bd := fun i f hf hle => by
        rw [hdxe, hnum, hcbd, hwq, hbd]
        exact h.bd i f hf hle
      skb := fun i f hf hle => by
        rw [hdxe, hnum, hcskb, hwq]
        exact h.skb i f hf hle
      src := fun i f hf hle => by
        rw [hdxe, hnum]
        exact h.src i f hf (by omega)
      fetched := h.fetched }

/-- A BD in the memory pool, read at its bus address. -/
theorem read_pool (hp : p.PoolsApart) {rs : List (BusRegion Byte)} (hapart : rs.Pairwise BusRegion.Apart)
    (hpool : p.poolRegion is_low ch ∈ rs) {k : ℕ} (hk : k % 2 = 0) :
    BusRegion.read rs (bdPhy (p.pool is_low) ch.desc_num k).toNat (BitVec.ofNat 32 TxBd.size).toNat =
      some (ch.readBd (bdAddr (p.pool is_low) ch.desc_num k)) := by
  have hn := h.holds.desc_num
  have htwo := h.holds.ring.ready.two_le
  have hmod := h.holds.ring.ready.mod_two k
  have hlt : k % ch.desc_num < ch.desc_num := Nat.mod_lt _ (by omega)
  have hchunk : (p.pool is_low).chunk_size = 144 := rfl
  have hsize : TxBd.size = 40 := rfl
  have hfits := hp.fits is_low
  have hlen : (p.poolRegion is_low ch).data.length = 144 * ch.desc_num := by
    unfold TxParams.poolRegion
    rw [List.length_map, List.length_range, hchunk, hn]
  -- The address on the bus does not wrap around.
  have haddr : (bdPhy (p.pool is_low) ch.desc_num k).toNat =
      (p.poolRegion is_low ch).base + 144 * (k % ch.desc_num / 2) := by
    unfold bdPhy TxParams.poolRegion
    rw [hchunk, ← hn] at hfits
    rw [hchunk, BitVec.toNat_add, BitVec.toNat_ofNat, Nat.add_mod_mod]
    exact Nat.mod_eq_of_lt (by omega)
  have hfr : (BitVec.ofNat 32 TxBd.size).toNat = 40 := rfl
  rw [haddr, hfr, BusRegion.read_of_mem hapart hpool (by omega)]
  refine congrArg some (List.ext_getElem ?_ fun i hi hi' => ?_)
  · rw [List.length_take, List.length_drop, DxeCh.readBd, List.length_map, List.length_range, hlen]
    omega
  · have hbd : bdAddr (p.pool is_low) ch.desc_num k =
        (p.pool is_low).virt_addr + 144 * (k % ch.desc_num / 2) := by
      unfold bdAddr
      rw [if_pos (by omega), hchunk]
    simp only [List.getElem_take, List.getElem_drop, TxParams.poolRegion, List.getElem_map,
      List.getElem_range, DxeCh.readBd, hbd, Nat.add_assoc]

/-- What the DMA engine fetches at the descriptor that it is at is what it is to fetch. -/
theorem fetch (hp : p.PoolsApart) {rs : List (BusRegion Byte)} (hapart : rs.Pairwise BusRegion.Apart)
    (hpool : p.poolRegion is_low ch ∈ rs) (hlen : ∀ f ∈ sent, f.skb.len < 2 ^ 32)
    (hmapped : ∀ f ∈ sent.drop (T / 2), f.skb.region ∈ rs)
    (hlt : fetched.length < 2 * sent.length) :
    (sent.flatMap (TxSent.fetches is_low))[fetched.length]? =
      some { ctrl := (ch.dxe cursor).ctrl, dst_addr_l := (ch.dxe cursor).dst_addr_l
             fr_len := (ch.dxe cursor).fr_len
             bytes := BusRegion.read rs (ch.dxe cursor).src_addr_l.toNat
               (ch.dxe cursor).fr_len.toNat } := by
  have hT := h.holds.ring.tail_le
  obtain ⟨f, hf⟩ : ∃ f, sent[fetched.length / 2]? = some f :=
    ⟨_, List.getElem?_eq_getElem (by omega)⟩
  have hparts := getElem?_flatMap_fetches is_low sent (fetched.length / 2)
  have hcur := h.holds.cursor_eq
  have hn := h.holds.desc_num
  rcases Nat.mod_two_eq_zero_or_one fetched.length with heven | hodd
  · -- The BD of the frame, in the memory pool.
    have hk : 2 * (fetched.length / 2) = fetched.length := by omega
    obtain ⟨⟨hctrl, hdst, hsrc, hfr⟩, hread⟩ := h.bd _ f hf (by omega)
    rw [hk] at hctrl hdst hsrc hfr hread hparts
    rw [hparts.1, hf, hcur, hctrl, hdst, hsrc, hfr, h.wq, h.ctrl_bd, Option.map_some]
    unfold TxSent.bdFetch
    congr 2
    rw [← hread]
    exact (h.read_pool hp hapart hpool (by omega)).symm
  · -- The frame itself, where it is mapped.
    have hk : 2 * (fetched.length / 2) + 1 = fetched.length := by omega
    obtain ⟨hctrl, hdst, hsrc, hfr⟩ := h.skb _ f hf (by omega)
    rw [hk] at hctrl hdst hsrc hfr hparts
    rw [hparts.2, hf, hcur, hctrl, hdst, hsrc, hfr, h.wq, h.ctrl_skb, Option.map_some]
    unfold TxSent.skbFetch
    have hmem : f ∈ sent.drop (T / 2) :=
      List.mem_iff_getElem?.mpr ⟨fetched.length / 2 - T / 2, by
        rw [List.getElem?_drop, show T / 2 + (fetched.length / 2 - T / 2) = fetched.length / 2 by
          omega, hf]⟩
    have hfrlen : (BitVec.ofNat 32 f.skb.len).toNat = f.skb.data.length := by
      rw [BitVec.toNat_ofNat]
      exact Nat.mod_eq_of_lt (hlen f (List.mem_of_mem_drop hmem))
    have hread : BusRegion.read rs (f.skb.region.base + 0) f.skb.data.length =
        some ((f.skb.region.data.drop 0).take f.skb.data.length) :=
      BusRegion.read_of_mem hapart (hmapped f hmem) (Nat.le_of_eq (Nat.zero_add _))
    have hall : (f.skb.region.data.drop 0).take f.skb.data.length = f.skb.data := List.take_length
    rw [hall, Nat.add_zero] at hread
    rw [hfrlen]
    exact congrArg some (congrArg _ hread.symm)

end TxFlight

/-! ## What `reap_tx_dxes` unmaps -/

/-- `wcn'` is `wcn` after some frames of a channel have been reaped: the BDs of the blocks and the
descriptors stay, and a frame is unmapped at the source of the descriptor of its block. -/
structure Reaped (is_low : Bool) (wcn wcn' : Wcn) : Prop where
  desc_num : (wcn'.txCh is_low).desc_num = (wcn.txCh is_low).desc_num
  dxe : (wcn'.txCh is_low).dxe = (wcn.txCh is_low).dxe
  phy : ∀ b, ((wcn'.txCh is_low).ctl b).map DxeCtl.bd_phy_addr =
    ((wcn.txCh is_low).ctl b).map DxeCtl.bd_phy_addr
  slotSkb : ∀ k skb, (wcn'.txCh is_low).slotSkb k = some skb →
    (wcn.txCh is_low).slotSkb k = some skb
  log : ∃ es, wcn'.log = wcn.log ++ es ∧ ∀ addr skb, .dmaUnmap addr skb ∈ es →
    ∃ k, (wcn.txCh is_low).slotSkb k = some skb ∧
      addr = ((wcn.txCh is_low).dxe (k % (wcn.txCh is_low).desc_num)).src_addr_l

namespace Reaped

variable {is_low : Bool} {wcn wcn' wcn'' : Wcn}

/-- Nothing has been reaped. -/
theorem refl (is_low : Bool) (wcn : Wcn) : Reaped is_low wcn wcn where
  desc_num := rfl
  dxe := rfl
  phy _ := rfl
  slotSkb _ _ h := h
  log := ⟨[], (List.append_nil _).symm, fun _ _ h => absurd h List.not_mem_nil⟩

/-- Some frames after others. -/
theorem trans (h₁ : Reaped is_low wcn wcn') (h₂ : Reaped is_low wcn' wcn'') :
    Reaped is_low wcn wcn'' where
  desc_num := h₂.desc_num.trans h₁.desc_num
  dxe := h₂.dxe.trans h₁.dxe
  phy b := (h₂.phy b).trans (h₁.phy b)
  slotSkb k skb h := h₁.slotSkb k skb (h₂.slotSkb k skb h)
  log := by
    obtain ⟨es₁, hlog₁, hes₁⟩ := h₁.log
    obtain ⟨es₂, hlog₂, hes₂⟩ := h₂.log
    refine ⟨es₁ ++ es₂, by rw [hlog₂, hlog₁, List.append_assoc], fun addr skb hmem => ?_⟩
    rcases List.mem_append.mp hmem with hmem | hmem
    · exact hes₁ addr skb hmem
    · obtain ⟨k, hk, haddr⟩ := hes₂ addr skb hmem
      refine ⟨k, h₁.slotSkb k skb hk, ?_⟩
      rw [haddr, h₁.dxe, h₁.desc_num]

end Reaped

section Reap

variable {pool : DxeMemPool} {is_low : Bool}

/-- The frame of a block is reaped, or there is none. -/
theorem reapSkb_reaped {wcn wcn' : Wcn} (h : TxReady pool (wcn.txCh is_low)) {k : ℕ}
    (hrun : reapSkb wcn is_low ((wcn.txCh is_low).blk k) = some wcn') :
    Reaped is_low wcn wcn' ∧ TxReady pool (wcn'.txCh is_low) := by
  obtain ⟨c, hc, -, hdesc, -⟩ := h.ctl k
  cases hskb : c.skb with
  | none =>
    simp only [reapSkb, hc, hskb, Option.bind_eq_bind, Option.bind_some, Option.pure_def,
      Option.some.injEq] at hrun
    rw [← hrun]
    exact ⟨.refl is_low wcn, h⟩
  | some skb =>
    have hslot : (wcn.txCh is_low).slotSkb k = some skb := by
      rw [DxeCh.slotSkb, DxeCh.skbAt, hc]
      exact hskb
    simp only [reapSkb, hc, hskb, hdesc, Option.bind_eq_bind, Option.bind_some, h.ring.modCtl_skb,
      Option.pure_def, Option.some.injEq] at hrun
    subst hrun
    have hset := h.setSkb k none
    rw [Wcn.txCh_setTxCh]
    refine ⟨⟨?_, ?_, fun b => ?_, fun j s hj => ?_, ?_⟩, hset⟩
    · rw [Wcn.txCh_setTxCh]
      rfl
    · rw [Wcn.txCh_setTxCh]
      rfl
    · rw [Wcn.txCh_setTxCh]
      exact DxeCh.phy_setSkb _ k none b
    · rw [Wcn.txCh_setTxCh, h.ring.slotSkb_setSkb] at hj
      split_ifs at hj
      exact hj
    · refine ⟨[.dmaUnmap ((wcn.txCh is_low).dxe (k % (wcn.txCh is_low).desc_num)).src_addr_l skb,
        .txInfo skb] ++ (if skb.wantsStatus then [] else [.freeTxskb skb]) ++
        (if wcn.queues_stopped then [.wakeQueues] else []), ?_, fun addr s hmem => ?_⟩
      · cases hw : skb.wantsStatus <;> cases hq : wcn.queues_stopped <;> cases is_low <;>
          simp [Wcn.setTxCh, Wcn.emit, hq]
      · -- Only the first of these effects unmaps.
        refine ⟨k, ?_⟩
        split_ifs at hmem <;> simp at hmem <;> rw [hmem.1, hmem.2] <;> exact ⟨hslot, rfl⟩

/-- The frames of the blocks that the loop of `reap_tx_dxes` passes are reaped. -/
theorem reapTxDxesLoop_reaped (fuel : ℕ) {wcn wcn' : Wcn} (h : TxReady pool (wcn.txCh is_low))
    {k ctl' : ℕ}
    (hrun : reapTxDxesLoop is_low fuel ((wcn.txCh is_low).blk k) wcn = some (ctl', wcn')) :
    Reaped is_low wcn wcn' := by
  induction fuel generalizing wcn k with
  | zero => cases hrun
  | succ fuel ih =>
    simp only [reapTxDxesLoop, Option.bind_eq_bind, Option.bind_eq_some_iff, Option.pure_def] at hrun
    obtain ⟨valid, -, hrun⟩ := hrun
    split_ifs at hrun
    · rw [Option.some.injEq, Prod.mk.injEq] at hrun
      rw [← hrun.2]
      exact .refl is_low wcn
    · simp only [Option.bind_eq_some_iff] at hrun
      obtain ⟨w, hw, next, hnext, ctl₁, rfl, hrun⟩ := hrun
      obtain ⟨hreaped, hready⟩ := reapSkb_reaped h hw
      have hstop : some (ctl₁, w) = some (ctl', wcn') → Reaped is_low wcn wcn' := by
        intro heq
        rw [Option.some.injEq, Prod.mk.injEq] at heq
        rw [← heq.2]
        exact hreaped
      split_ifs at hrun
      · exact hstop hrun
      · simp only [Option.bind_eq_some_iff] at hrun
        obtain ⟨valid₁, -, hrun⟩ := hrun
        split_ifs at hrun
        · exact hstop hrun
        · -- The next block is the one at the next position.
          have hblk : (wcn.txCh is_low).blk k = (w.txCh is_low).blk k := by
            rw [DxeCh.blk, DxeCh.blk, hreaped.desc_num]
          rw [hblk, hready.ring.nextOf, Option.some.injEq, Option.some.injEq] at hnext
          rw [← hnext] at hrun
          exact hreaped.trans (ih hready hrun)

/-- `reap_tx_dxes` reaps frames of its channel. -/
theorem reapTxDxes_reaped {wcn wcn' : Wcn} (h : TxReady pool (wcn.txCh is_low)) {k : ℕ}
    (htail : (wcn.txCh is_low).tail_blk_ctl = some ((wcn.txCh is_low).blk k))
    (hrun : reapTxDxes wcn is_low = some wcn') : Reaped is_low wcn wcn' := by
  simp only [reapTxDxes, htail, Option.bind_eq_bind, Option.bind_some, Option.bind_eq_some_iff,
    Option.some.injEq, Option.pure_def] at hrun
  obtain ⟨⟨ctl', w⟩, hloop, rfl⟩ := hrun
  have hreaped := reapTxDxesLoop_reaped _ h hloop
  refine hreaped.trans ⟨?_, ?_, fun b => ?_, fun j s hj => ?_, [], ?_, ?_⟩
  · rw [Wcn.txCh_setTxCh]
  · rw [Wcn.txCh_setTxCh]
  · rw [Wcn.txCh_setTxCh]
  · rw [Wcn.txCh_setTxCh] at hj
    exact hj
  · rw [List.append_nil]
    cases is_low <;> rfl
  · exact fun _ _ hmem => absurd hmem List.not_mem_nil

end Reap

end Wcn36xx
