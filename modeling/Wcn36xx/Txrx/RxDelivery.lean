import Wcn36xx.Dxe.RxData
import Wcn36xx.Txrx.RxSkb

/-!
# What mac80211 receives

The data path of a receive ring and `wcn36xx_rx_skb` together. The device stores an RX BD and a frame; the
driver passes the buffers on in the order in which they were stored, and cuts the frame out of each at the
place that its BD gives. As long as the device's BDs are sane, mac80211 gets the frames that the device has
stored.
-/

namespace Wcn36xx

/-- The frame of a socket buffer: `skb->len` bytes from `skb->data` on. -/
def RxBuf.payload (skb : RxBuf) : List Byte := (skb.bytes.drop skb.data).take skb.len

/-- The frame that the BD at the start of a buffer speaks of. -/
def rxMpdu (bytes : List Byte) : List Byte :=
  (bytes.drop (rxPdu bytes).mpdu_header_off.toNat).take (rxPdu bytes).mpdu_len.toNat

/-- Neither `skb_put` nor `skb_pull` writes to the buffer. -/
theorem skbPut_bytes {skb skb' : RxBuf} {len : ℕ} (h : skb.skbPut len = some skb') (off : ℕ) :
    (skb'.skbPull off).bytes = skb.bytes := by
  unfold RxBuf.skbPut at h
  obtain ⟨-, h⟩ := Option.ite_none_right_eq_some.mp h
  rw [← Option.some.inj h]
  unfold RxBuf.skbPull
  split <;> rfl

/-- The buffer of a frame that is delivered is the one that the device has stored, with the BD turned. -/
theorem rxSkb_bytes {bytes : List Byte} {freq : BitVec 16} {band : Band} {frame : RxFrame}
    (h : RxBuf.rxSkb { bytes := bytes } freq band = some frame) :
    frame.skb.bytes = turnedBytes bytes ∧ RxBd.size ≤ bytes.length := by
  unfold RxBuf.rxSkb at h
  by_cases hshort : (bytes.take RxBd.size).length < RxBd.size
  · simp only [List.drop_zero, if_pos hshort] at h
    cases h
  · simp only [List.drop_zero, List.take_zero, List.nil_append, Nat.zero_add, if_neg hshort,
      Option.bind_eq_bind, Option.bind_eq_some_iff, Option.pure_def, Option.some.injEq] at h
    obtain ⟨skb, hput, -, -, -, -, rfl⟩ := h
    refine ⟨skbPut_bytes hput _, ?_⟩
    rw [List.length_take] at hshort
    omega

/-- Turning the BD changes nothing behind it. -/
theorem drop_turnedBytes {bytes : List Byte} (h : RxBd.size ≤ bytes.length) {off : ℕ}
    (hoff : RxBd.size ≤ off) : (turnedBytes bytes).drop off = bytes.drop off := by
  have hsize : RxBd.size = 76 := rfl
  have hlen : (TxBd.bytesOfWords ((leWords (bytes.take RxBd.size)).map cpuToBe32)).length =
      RxBd.size := by
    rw [length_bytesOfWords, List.length_map, length_leWords, List.length_take]
    omega
  unfold turnedBytes
  rw [List.drop_append, hlen, List.drop_eq_nil_of_le (by omega), List.nil_append, List.drop_drop]
  congr 1
  omega

/-- Out of a buffer with a sane BD the frame is delivered that was stored. -/
theorem rxSkb_payload {bytes : List Byte} {freq : BitVec 16} {band : Band}
    (h : RxSane bytes freq band) :
    ∃ frame, RxBuf.rxSkb { bytes := bytes } freq band = some frame ∧
      frame.skb.payload = rxMpdu bytes := by
  obtain ⟨frame, hframe, hin⟩ := h
  obtain ⟨hbytes, hsize⟩ := rxSkb_bytes hframe
  obtain ⟨hdata, hlen⟩ := (rxSkb_spec hsize freq band).2 frame hframe
  refine ⟨frame, hframe, ?_⟩
  unfold RxBuf.payload rxMpdu
  rw [hbytes, drop_turnedBytes hsize hin.behind, hdata, hlen]

/-- The frames of a list of buffers with sane BDs. -/
theorem rxSkb_payloads {freq : BitVec 16} {band : Band} {bufs : List (List Byte)}
    (h : ∀ bytes ∈ bufs, RxSane bytes freq band) :
    ∃ frames : List RxFrame,
      (bufs.map fun bytes => RxBuf.rxSkb { bytes := bytes } freq band) = frames.map some ∧
        (frames.map fun frame => frame.skb.payload) = bufs.map rxMpdu := by
  induction bufs with
  | nil => exact ⟨[], rfl, rfl⟩
  | cons bytes bufs ih =>
    obtain ⟨frame, hframe, hpayload⟩ := rxSkb_payload (h bytes List.mem_cons_self)
    obtain ⟨frames, hframes, hpayloads⟩ := ih fun b hb => h b (List.mem_cons_of_mem _ hb)
    refine ⟨frame :: frames, ?_, ?_⟩
    · rw [List.map_cons, List.map_cons, hframe, hframes]
    · rw [List.map_cons, List.map_cons, hpayload, hpayloads]

/-- From the device to mac80211: in every run in which `alloc_skb` does not fail and the device stores BDs that
are sane, `wcn36xx_rx_skb` delivers out of the buffers that it is called with, without a fault, the frames that
the device has stored, in their order; and all of them, when no call of `wcn36xx_rx_handle_packets` is going on
and the descriptor at the head is VALID. -/
theorem rxDelivered_mpdus (p : RxParams) (w : RxDataWorld) (freq : BitVec 16) (band : Band)
    (h : (rxDataSystem p).ReachableWhen DmaFresh w)
    (hsane : ∀ bytes ∈ w.stored, RxSane bytes freq band) :
    ∃ frames : List RxFrame,
      (w.received.map fun bytes => RxBuf.rxSkb { bytes := bytes } freq band) = frames.map some ∧
        (frames.map fun frame => frame.skb.payload) <+: w.stored.map rxMpdu ∧
        (w.reader = .idle → w.rx.ch.head_blk_ctl.bind w.rx.ch.validAt = some true →
          (frames.map fun frame => frame.skb.payload) = w.stored.map rxMpdu) := by
  have hinv := rxDataInv_of_reachable h
  obtain ⟨hpre, hall⟩ : w.received <+: w.stored ∧ (w.reader = .idle →
      w.rx.ch.head_blk_ctl.bind w.rx.ch.validAt = some true → w.received = w.stored) :=
    hinv.received
  obtain ⟨frames, hframes, hpayloads⟩ :=
    rxSkb_payloads fun bytes hbytes => hsane bytes (hpre.subset hbytes)
  refine ⟨frames, hframes, ?_, fun hidle hvalid => ?_⟩
  · rw [hpayloads]
    exact hpre.map rxMpdu
  · rw [hpayloads, hall hidle hvalid]

/-- A buffer whose BD gives a place inside it, behind the BD and with room for a header. -/
theorem rxSane_of_pdu {bytes : List Byte} (h : WCN36XX_PKT_SIZE ≤ bytes.length)
    (hpdu : RxBd.size ≤ (rxPdu bytes).mpdu_header_off.toNat ∧
      (rxPdu bytes).mpdu_header_off.toNat + (rxPdu bytes).mpdu_len.toNat ≤ WCN36XX_PKT_SIZE ∧
      24 ≤ (rxPdu bytes).mpdu_len.toNat) (freq : BitVec 16) (band : Band) :
    RxSane bytes freq band := by
  have hpkt : WCN36XX_PKT_SIZE = 3872 := rfl
  have hsize : RxBd.size = 76 := rfl
  obtain ⟨hbehind, hinside, hheader⟩ := hpdu
  obtain ⟨hsome, hplace⟩ := @rxSkb_spec bytes (by omega) freq band
  obtain ⟨frame, hframe⟩ := Option.isSome_iff_exists.mp (hsome.mpr ⟨by omega, by omega⟩)
  obtain ⟨hdata, hlen⟩ := hplace frame hframe
  exact ⟨frame, hframe, by rwa [hdata], by rwa [hdata, hlen], by rwa [hlen]⟩

/-- Two frames of 100 bytes, behind BDs and two bytes further on, of which the first has been received. -/
theorem rxDelivered_mpdus_two_frames : ∃ (w : RxDataWorld) (frame : RxFrame),
    w.received.length = 1 ∧
    w.received.map (fun bytes => RxBuf.rxSkb { bytes := bytes } 0 .GHZ2) = [some frame] ∧
      [frame.skb.payload] <+:
        [rxMpdu (rxBufOf { pdu := { mpdu_header_off := 76, mpdu_len := 100 } }),
          rxMpdu (rxBufOf { pdu := { mpdu_header_off := 78, mpdu_len := 100 } })] := by
  obtain ⟨w, hrun, hw⟩ : ∃ w, ((rxDataStart rxHighParams).bind fun w =>
      (rxDataSystem rxHighParams).runWhen DmaFresh w
        (twoFrames (rxBufOf { pdu := { mpdu_header_off := 76, mpdu_len := 100 } })
          (rxBufOf { pdu := { mpdu_header_off := 78, mpdu_len := 100 } }))) = some w ∧
      (fun w : RxDataWorld => decide (w.received.length = 1)) w = true :=
    (Option.any_eq_true _ _).mp (by decide +kernel)
  obtain ⟨hreach, hstored⟩ := rxDataStart_run hrun
  have hlen := of_decide_eq_true hw
  have hsane : ∀ bytes ∈ w.stored, RxSane bytes 0 .GHZ2 := by
    rw [hstored]
    intro bytes hbytes
    simp only [twoFrames, RxDataEvent.frame, List.flatMap_cons, List.flatMap_nil, List.nil_append,
      List.cons_append, List.mem_cons, List.not_mem_nil, or_false] at hbytes
    rcases hbytes with rfl | rfl
    · exact rxSane_of_pdu (length_rxBufOf _).ge (by rw [rxPdu_rxBufOf]; decide) 0 .GHZ2
    · exact rxSane_of_pdu (length_rxBufOf _).ge (by rw [rxPdu_rxBufOf]; decide) 0 .GHZ2
  obtain ⟨frames, hframes, hpre, -⟩ := rxDelivered_mpdus rxHighParams w 0 .GHZ2 hreach hsane
  have hone : frames.length = 1 := by
    rw [← hlen, ← List.length_map (f := some), ← hframes, List.length_map]
  obtain ⟨frame, rfl⟩ := List.length_eq_one_iff.mp hone
  rw [hstored] at hpre
  exact ⟨w, frame, hlen, hframes, hpre⟩

end Wcn36xx
