import Wcn36xx.Driver
import Wcn36xx.Txrx.BdLayout

/-!
# Received buffers

The device writes an RX BD and the frame into a DMA buffer, and `wcn36xx_rx_skb` takes the place of the frame
in the buffer from two fields of the BD. It looks at neither before it sets the buffer's length by them.
`rxSane_iff` says for which BDs what is delivered is a frame inside the buffer.
-/

namespace Wcn36xx

/-- `WCN36XX_PKT_SIZE`. -/
def WCN36XX_PKT_SIZE : ℕ := 0xF20

/-! ## Socket buffers with room behind the data -/

/-- A socket buffer from `alloc_skb`. -/
structure RxBuf where
  /-- The memory of the buffer, up to `skb->end`. -/
  bytes : List Byte
  /-- Where `skb->data` points to. -/
  data : ℕ := 0
  /-- `skb->len`. -/
  len : ℕ := 0

namespace RxBuf

/-- `skb_put`. More than the tail room is `skb_over_panic`, a fault. -/
def skbPut (skb : RxBuf) (len : ℕ) : Option RxBuf :=
  if skb.data + skb.len + len ≤ skb.bytes.length then some { skb with len := skb.len + len }
  else none

/-- `skb_pull`. More than the data is not pulled. -/
def skbPull (skb : RxBuf) (len : ℕ) : RxBuf :=
  if len > skb.len then skb else { skb with data := skb.data + len, len := skb.len - len }

/-- A 16-bit field of the header at `skb->data`. -/
def read16 (skb : RxBuf) (offset : ℕ) : Option (BitVec 16) := do
  let lo ← skb.bytes[skb.data + offset]?
  let hi ← skb.bytes[skb.data + offset + 1]?
  return hi ++ lo

end RxBuf

/-! ## `wcn36xx_rx_skb` -/

/-- The flags of a received frame that the driver sets, `RX_FLAG_` in front. -/
inductive RxFlag where
  | IV_STRIPPED
  | MMIC_STRIPPED
  | DECRYPTED
  deriving DecidableEq

/-- `struct ieee80211_rx_status`, as far as the driver sets it. -/
structure RxStatus where
  mactime : ℕ := 0
  freq : BitVec 16 := 0
  band : Band := .GHZ2
  /-- An `s8`. -/
  signal : BitVec 8 := 0
  antenna : ℕ := 0
  rate_idx : ℕ := 0
  flag : List RxFlag := []

/-- `get_rssi0`. -/
def getRssi0 (bd : RxBd) : ℤ := 100 - ((bd.phy_stat0 >>> 24) &&& 0xff).toNat

/-- `status` of `wcn36xx_rx_skb`. -/
def rxStatus (freq : BitVec 16) (band : Band) (bd : RxBd) : RxStatus where
  mactime := 10
  freq := freq
  band := band
  signal := BitVec.ofInt 8 (-getRssi0 bd)
  antenna := 1
  rate_idx := 1
  flag := [.IV_STRIPPED, .MMIC_STRIPPED, .DECRYPTED]

/-- What is given to `ieee80211_rx_irqsafe`, and what is printed of it. -/
structure RxFrame where
  skb : RxBuf
  status : RxStatus
  fc : BitVec 16
  sn : BitVec 16

/-- `wcn36xx_rx_skb`; `freq` and `band` are those of the channel. -/
def RxBuf.rxSkb (skb : RxBuf) (freq : BitVec 16) (band : Band) : Option RxFrame := do
  let image := (skb.bytes.drop skb.data).take RxBd.size
  if image.length < RxBd.size then none
  let bd := RxBd.decode image
  -- `buff_to_be` in place
  let skb := { skb with
    bytes := skb.bytes.take skb.data ++ TxBd.bytesOfWords ((leWords image).map cpuToBe32) ++
      skb.bytes.drop (skb.data + RxBd.size) }
  let skb ← skb.skbPut (bd.pdu.mpdu_header_off.toNat + bd.pdu.mpdu_len.toNat)
  let skb := skb.skbPull bd.pdu.mpdu_header_off.toNat
  let status := rxStatus freq band bd
  let frame_control ← skb.read16 0
  let seq_ctrl : BitVec 16 ← skb.read16 22
  return { skb := skb, status := status, fc := frame_control, sn := seq_ctrl >>> 4 }

/-! ## What is delivered -/

/-- The frame is in the DMA buffer behind the BD, and has the fields that are read from its header. -/
structure RxInside (skb : RxBuf) : Prop where
  behind : RxBd.size ≤ skb.data
  inside : skb.data + skb.len ≤ WCN36XX_PKT_SIZE
  header : 24 ≤ skb.len

/-- There is no fault, and the frame that is delivered is one of the buffer. No buffer is dropped. -/
def RxSane (bytes : List Byte) (freq : BitVec 16) (band : Band) : Prop :=
  ∃ frame, RxBuf.rxSkb { bytes := bytes } freq band = some frame ∧ RxInside frame.skb

/-- The PDU of the BD at the start of a buffer. -/
def rxPdu (bytes : List Byte) : Pdu := (RxBd.decode (bytes.take RxBd.size)).pdu

/-- Words have four bytes each. -/
theorem length_bytesOfWords (ws : List (BitVec 32)) : (TxBd.bytesOfWords ws).length = 4 * ws.length := by
  unfold TxBd.bytesOfWords
  induction ws with
  | nil => rfl
  | cons w ws ih =>
    have hword : (leBytes w).length = 4 := rfl
    rw [List.flatMap_cons, List.length_append, ih, hword, List.length_cons]
    omega

/-- A field is read when it is in the memory of the buffer. -/
theorem read16_isSome_iff (skb : RxBuf) (offset : ℕ) :
    (skb.read16 offset).isSome ↔ skb.data + offset + 1 < skb.bytes.length := by
  unfold RxBuf.read16
  rcases Nat.lt_or_ge (skb.data + offset + 1) skb.bytes.length with hlt | hge
  · have hprev : skb.data + offset < skb.bytes.length := by omega
    simp only [List.getElem?_eq_getElem hlt, List.getElem?_eq_getElem hprev, Option.bind_eq_bind,
      Option.bind_some, Option.pure_def, Option.isSome_some, hlt]
  · rw [List.getElem?_eq_none hge]
    cases skb.bytes[skb.data + offset]? <;> simp [Nat.not_lt.mpr hge]

/-- The buffer when the BD has been turned in place. -/
def turnedBytes (bytes : List Byte) : List Byte :=
  TxBd.bytesOfWords ((leWords (bytes.take RxBd.size)).map cpuToBe32) ++ bytes.drop RxBd.size

/-- It has the same size. -/
theorem length_turnedBytes {bytes : List Byte} (h : RxBd.size ≤ bytes.length) :
    (turnedBytes bytes).length = bytes.length := by
  have hsize : RxBd.size = 76 := rfl
  unfold turnedBytes
  rw [List.length_append, length_bytesOfWords, List.length_map, length_leWords, List.length_take,
    List.length_drop]
  omega

/-- The frame that is delivered has the place that the BD gives, when this is in the memory of the buffer
and so is the header that is read. -/
theorem rxSkb_spec {bytes : List Byte} (h : RxBd.size ≤ bytes.length) (freq : BitVec 16)
    (band : Band) :
    ((RxBuf.rxSkb { bytes := bytes } freq band).isSome ↔
      (rxPdu bytes).mpdu_header_off.toNat + (rxPdu bytes).mpdu_len.toNat ≤ bytes.length ∧
        (rxPdu bytes).mpdu_header_off.toNat + 24 ≤ bytes.length) ∧
      ∀ frame ∈ RxBuf.rxSkb { bytes := bytes } freq band,
        frame.skb.data = (rxPdu bytes).mpdu_header_off.toNat ∧
          frame.skb.len = (rxPdu bytes).mpdu_len.toNat := by
  obtain ⟨off, hoff⟩ : ∃ off, off = (rxPdu bytes).mpdu_header_off.toNat := ⟨_, rfl⟩
  obtain ⟨len, hlen⟩ : ∃ len, len = (rxPdu bytes).mpdu_len.toNat := ⟨_, rfl⟩
  have himage : ¬(bytes.take RxBd.size).length < RxBd.size := by
    rw [List.length_take]
    omega
  have hturned := length_turnedBytes h
  -- The function from `skb_put` on, in the buffer whose BD has been turned.
  have hrun : RxBuf.rxSkb { bytes := bytes } freq band =
      ({ bytes := turnedBytes bytes } : RxBuf).skbPut (off + len) >>= fun skb =>
        (skb.skbPull off).read16 0 >>= fun fc => (skb.skbPull off).read16 22 >>= fun seq_ctrl =>
          some { skb := skb.skbPull off, fc := fc, sn := seq_ctrl >>> 4
                 status := rxStatus freq band (RxBd.decode (bytes.take RxBd.size)) } := by
    unfold RxBuf.rxSkb
    simp only [List.drop_zero, List.take_zero, List.nil_append, Nat.zero_add, if_neg himage]
    rw [hoff, hlen]
    rfl
  rw [← hoff, ← hlen, hrun]
  rcases Nat.lt_or_ge bytes.length (off + len) with hbig | hfits
  · have hput : ({ bytes := turnedBytes bytes } : RxBuf).skbPut (off + len) = none := by
      refine if_neg ?_
      simp only [hturned]
      omega
    rw [hput]
    refine ⟨iff_of_false (by simp) (by omega), fun frame hframe => ?_⟩
    cases hframe
  · have hput : ({ bytes := turnedBytes bytes } : RxBuf).skbPut (off + len) =
        some { bytes := turnedBytes bytes, len := off + len } := by
      refine (if_pos ?_).trans ?_
      · simp only [hturned]
        omega
      · simp only [Nat.zero_add]
    have hpull : ({ bytes := turnedBytes bytes, len := off + len } : RxBuf).skbPull off =
        { bytes := turnedBytes bytes, data := off, len := len } := by
      refine (if_neg (by simp)).trans ?_
      simp only [Nat.zero_add, Nat.add_sub_cancel_left]
    have hread := read16_isSome_iff { bytes := turnedBytes bytes, data := off, len := len }
    simp only [hturned] at hread
    rw [hput]
    simp only [Option.bind_eq_bind, Option.bind_some, hpull]
    rcases Nat.lt_or_ge (off + 23) bytes.length with hheader | hshort
    · obtain ⟨fc, hfc⟩ := Option.isSome_iff_exists.mp ((hread 0).mpr (by omega))
      obtain ⟨seq_ctrl, hseq⟩ := Option.isSome_iff_exists.mp ((hread 22).mpr (by omega))
      simp only [hfc, hseq, Option.bind_some]
      refine ⟨iff_of_true rfl ⟨hfits, by omega⟩, fun frame hframe => ?_⟩
      rw [← Option.some.inj hframe]
      exact ⟨rfl, rfl⟩
    · have hseq : ({ bytes := turnedBytes bytes, data := off, len := len } : RxBuf).read16 22 =
          none := by
        rw [← Option.not_isSome_iff_eq_none, hread]
        omega
      simp only [hseq, Option.bind_none, Option.bind_fun_none]
      refine ⟨iff_of_false (by simp) (by omega), fun frame hframe => ?_⟩
      cases hframe

/-- For every content of a DMA buffer, what is delivered is a frame inside it if and only if the BD says
so. -/
theorem rxSane_iff (bytes : List Byte) (freq : BitVec 16) (band : Band)
    (h : WCN36XX_PKT_SIZE ≤ bytes.length) :
    RxSane bytes freq band ↔
      RxBd.size ≤ (rxPdu bytes).mpdu_header_off.toNat ∧
        (rxPdu bytes).mpdu_header_off.toNat + (rxPdu bytes).mpdu_len.toNat ≤ WCN36XX_PKT_SIZE ∧
        24 ≤ (rxPdu bytes).mpdu_len.toNat := by
  have hpkt : WCN36XX_PKT_SIZE = 3872 := rfl
  have hsize : RxBd.size = 76 := rfl
  obtain ⟨hsome, hplace⟩ := @rxSkb_spec bytes (by omega) freq band
  constructor
  · rintro ⟨frame, hframe, hin⟩
    obtain ⟨hdata, hlen⟩ := hplace frame hframe
    rw [← hdata, ← hlen]
    exact ⟨hin.behind, hin.inside, hin.header⟩
  · rintro ⟨hbehind, hinside, hheader⟩
    obtain ⟨frame, hframe⟩ := Option.isSome_iff_exists.mp (hsome.mpr ⟨by omega, by omega⟩)
    obtain ⟨hdata, hlen⟩ := hplace frame hframe
    refine ⟨frame, hframe, ?_, ?_, ?_⟩
    · rwa [hdata]
    · rwa [hdata, hlen]
    · rwa [hlen]

/-- A buffer that starts with a BD. -/
def rxBufOf (bd : RxBd) : List Byte := bd.beBytes ++ List.replicate (WCN36XX_PKT_SIZE - RxBd.size) 0

/-- It has the size of a DMA buffer. -/
theorem length_rxBufOf (bd : RxBd) : (rxBufOf bd).length = WCN36XX_PKT_SIZE := by
  have hlen : bd.beBytes.length = RxBd.size := rfl
  rw [rxBufOf, List.length_append, hlen, List.length_replicate]
  rfl

/-- The PDU of that BD. -/
theorem rxPdu_rxBufOf (bd : RxBd) : rxPdu (rxBufOf bd) = bd.pdu := by
  have hlen : bd.beBytes.length = RxBd.size := rfl
  rw [rxPdu, rxBufOf, ← hlen, List.take_left, RxBd.decode_beBytes]

/-- A frame of 100 bytes right behind the BD. -/
theorem rxSane_iff_behind :
    RxSane (rxBufOf { pdu := { mpdu_header_off := 76, mpdu_len := 100 } }) 0 .GHZ2 :=
  (rxSane_iff (rxBufOf { pdu := { mpdu_header_off := 76, mpdu_len := 100 } }) 0 .GHZ2
    (length_rxBufOf _).ge).mpr (by rw [rxPdu_rxBufOf]; decide)

/-- A length above the size of the buffer. -/
theorem rxSane_fails_on_long_mpdu :
    ¬RxSane (rxBufOf { pdu := { mpdu_header_off := 76, mpdu_len := 0xffff } }) 0 .GHZ2 := by
  rintro ⟨frame, hframe, hin⟩
  obtain ⟨-, hplace⟩ := @rxSkb_spec
    (rxBufOf { pdu := { mpdu_header_off := 76, mpdu_len := 0xffff } })
    (by rw [length_rxBufOf]; decide) 0 .GHZ2
  obtain ⟨hdata, hlen⟩ := hplace frame hframe
  have hinside := hin.inside
  rw [hdata, hlen, rxPdu_rxBufOf] at hinside
  revert hinside
  decide

end Wcn36xx
