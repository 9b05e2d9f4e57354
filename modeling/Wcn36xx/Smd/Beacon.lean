import Wcn36xx.Smd.Residue

/-!
# Beacon templates

`wcn36xx_smd_send_beacon` hands the firmware a template of `beacon_length` bytes. The firmware expects
`TIM_MIN_PVM_SIZE` bytes of partial virtual bitmap in the TIM, and the function pads a shorter one.
`beaconPadded_iff` says for which TIMs and lengths the template is the padded beacon: `pad` is negative
for a longer bitmap, and then shortens the template. `sentVerbatim_iff` is about the beacons that have no
TIM: those of a mesh are sent as they are, and those of an IBSS only when the byte that is taken for the
length of a TIM happens to be 9.
-/

namespace Wcn36xx

/-! ## What a call composes -/

/-- Whatever `hal_buf` holds, a message is sent with this template and its length in `beacon_length`. -/
def SendsTemplate (compose : HalBuf → Option Composed) (template : List Byte) : Prop :=
  ∃ msg, Composes compose msg ∧ field msg 12 4 = template.length ∧
    (msg.drop 16).take template.length = template

/-- What is refused is not sent. -/
theorem Refuses.not_sendsTemplate {compose : HalBuf → Option Composed} {ret : ℤ}
    (h : Refuses compose ret) (template : List Byte) : ¬SendsTemplate compose template := by
  rintro ⟨msg, hmsg, -, -⟩
  exact h.not_composes msg hmsg

/-- Nor is it after a fault. -/
theorem Faults.not_sendsTemplate {compose : HalBuf → Option Composed} (h : Faults compose)
    (template : List Byte) : ¬SendsTemplate compose template := by
  rintro ⟨msg, hmsg, -, -⟩
  exact h.not_composes msg hmsg

/-! ## The three outcomes of `wcn36xx_smd_send_beacon` -/

/-- `memcpy` leaves the rest of the structure zero. -/
theorem memcpyTo_toList {n : ℕ} {bs : List Byte} {v : Vector Byte n} (h : memcpyTo n bs = some v) :
    v.toList = bs ++ zeros (n - bs.length) := by
  unfold memcpyTo at h
  split_ifs at h with hle
  rw [Option.some.injEq] at h
  subst h
  refine List.ext_getElem ?_ fun i hi hi' => ?_
  · rw [Vector.length_toList, List.length_append, length_zeros]
    omega
  · rw [Vector.getElem_toList, Vector.getElem_ofFn, List.getD_eq_getElem?_getD]
    rcases Nat.lt_or_ge i bs.length with hlt | hge
    · rw [List.getElem?_eq_getElem hlt, List.getElem_append_left hlt, Option.getD_some]
    · rw [List.getElem?_eq_none hge, List.getElem_append_right hge, Option.getD_none]
      unfold zeros
      rw [List.getElem_replicate]

/-- The template of a message. -/
theorem beaconBody_template (header : HalMsgHeader) (vif : WcnVif) (tim_off p2p_off : BitVec 16)
    (beacon_length : BitVec 32) {beacon : List Byte} {n : ℕ} (h : n ≤ beacon.length) :
    field (header.bytes ++ beaconBody vif tim_off p2p_off beacon_length beacon) 12 4 =
        beacon_length.toNat ∧
      ((header.bytes ++ beaconBody vif tim_off p2p_off beacon_length beacon).drop 16).take n =
        beacon.take n := by
  unfold beaconBody
  constructor
  · rw [← readLe_leBytes beacon_length]
    simp only [List.append_assoc]
    rw [← List.append_assoc header.bytes]
    exact field_append _ _ _ rfl rfl
  · simp only [List.append_assoc]
    rw [← List.append_assoc (leBytes (beacon_length + 6)), ← List.append_assoc header.bytes]
    have hfront : (header.bytes ++ (leBytes (beacon_length + 6) ++ leBytes beacon_length)).length =
        16 := rfl
    rw [List.drop_left' hfront, List.take_append_of_le_length h]

/-- Padding keeps the size of the template. -/
theorem length_padTim {beacon beacon' : List Byte} {len tim_off : ℕ} {pvm_len pad : ℤ}
    (h : padTim beacon len tim_off pvm_len pad = some beacon')
    (hbeacon : beacon.length = BEACON_TEMPLATE_SIZE) (hlen : len ≤ BEACON_TEMPLATE_SIZE) :
    beacon'.length = BEACON_TEMPLATE_SIZE := by
  have hin : pad > 0 → (tim_off + 5 + pvm_len).toNat ≤ len ∧ len + pad ≤ BEACON_TEMPLATE_SIZE := by
    intro hpos
    unfold padTim at h
    rw [if_pos hpos] at h
    dsimp only at h
    split_ifs at h with hfits
    exact hfits
  obtain ⟨beacon'', h'', hlen'⟩ :=
    padTim_spec hbeacon hlen (fun hpos => (hin hpos).1) (fun hpos => (hin hpos).2)
  rw [h, Option.some.injEq] at h''
  rw [h'', hlen']

section Outcomes

variable {vif : WcnVif} {skb_beacon : List Byte} {tim_off : BitVec 16} (p2p_off : BitVec 16)
  {tim_len : Byte} (htim : skb_beacon[tim_off.toNat + 1]? = some tim_len)
  (hfits : (beaconLength vif skb_beacon tim_len).toNat ≤ BEACON_TEMPLATE_SIZE)
include htim hfits

/-- A beacon that is longer than the template, with a `beacon_length` that is not, is copied over the end
of the template. -/
theorem sendBeacon_faults (h : BEACON_TEMPLATE_SIZE < skb_beacon.length) :
    Faults (SmdFn.sendBeacon vif skb_beacon tim_off p2p_off).compose := by
  intro hal_buf
  rw [sendBeacon_eq p2p_off htim hfits, memcpyTo, if_neg (Nat.not_le.mpr h), Option.bind_none]

/-- A beacon that can be padded is sent with `beacon_length` bytes of what it is then. -/
theorem sendsTemplate_iff {beacon : List Byte} (hlen : skb_beacon.length ≤ BEACON_TEMPLATE_SIZE)
    (hpad : padTim (skb_beacon ++ zeros (BEACON_TEMPLATE_SIZE - skb_beacon.length))
      skb_beacon.length tim_off.toNat (tim_len.toNat - 3) (beaconPad vif tim_len) = some beacon)
    (template : List Byte) :
    SendsTemplate (SmdFn.sendBeacon vif skb_beacon tim_off p2p_off).compose template ↔
      (beaconLength vif skb_beacon tim_len).toNat = template.length ∧
        beacon.take template.length = template := by
  have hsize : beacon.length = BEACON_TEMPLATE_SIZE := by
    refine length_padTim hpad ?_ hlen
    rw [List.length_append, length_zeros]
    omega
  obtain ⟨copy, hcopy⟩ := memcpyTo_of_le hlen
  obtain ⟨body, hbody⟩ : ∃ body, body = beaconBody vif tim_off p2p_off
    (beaconLength vif skb_beacon tim_len) beacon := ⟨_, rfl⟩
  have hcompose : (SmdFn.sendBeacon vif skb_beacon tim_off p2p_off).compose =
      fixedMsg .SEND_BEACON body := by
    funext hal_buf
    rw [sendBeacon_eq p2p_off htim hfits, hcopy, Option.bind_some, memcpyTo_toList hcopy, hpad,
      Option.bind_some, hbody]
  have hle : HalMsgHeader.size + body.length ≤ WCN36XX_HAL_BUF_SIZE := by
    rw [hbody]
    exact length_beaconBody vif tim_off p2p_off _ hsize
  have hmsg := (composes_fixedMsg .SEND_BEACON body hle).2
  rw [hcompose]
  constructor
  · rintro ⟨msg, hmsg', hlength, htemplate⟩
    rw [← hmsg.unique hmsg', hbody] at hlength htemplate
    obtain ⟨hfield, -⟩ := beaconBody_template _ vif tim_off p2p_off
      (beaconLength vif skb_beacon tim_len) (Nat.le_refl beacon.length)
    rw [hfield] at hlength
    obtain ⟨-, hdrop⟩ := beaconBody_template (initHalMsg _ _) vif tim_off p2p_off
      (beaconLength vif skb_beacon tim_len) (hlength ▸ hsize ▸ hfits : template.length ≤ _)
    rw [hdrop] at htemplate
    exact ⟨hlength, htemplate⟩
  · rintro ⟨hlength, htemplate⟩
    obtain ⟨hfield, hdrop⟩ := beaconBody_template (initHalMsg HalReq.SEND_BEACON.reqType
      (HalMsgHeader.size + body.length)) vif tim_off p2p_off
      (beaconLength vif skb_beacon tim_len) (hlength ▸ hsize ▸ hfits : template.length ≤ _)
    rw [← hbody] at hfield hdrop
    exact ⟨_, hmsg, hfield.trans hlength, hdrop.trans htemplate⟩

end Outcomes

/-- A template that is sent is as long as `beacon_length`. -/
theorem SendsTemplate.length_eq {vif : WcnVif} {skb_beacon : List Byte}
    {tim_off p2p_off : BitVec 16} {tim_len : Byte}
    (htim : skb_beacon[tim_off.toNat + 1]? = some tim_len) {template : List Byte}
    (h : SendsTemplate (SmdFn.sendBeacon vif skb_beacon tim_off p2p_off).compose template) :
    (beaconLength vif skb_beacon tim_len).toNat = template.length := by
  rcases Nat.lt_or_ge BEACON_TEMPLATE_SIZE (beaconLength vif skb_beacon tim_len).toNat with
    hbig | hfits
  · exact absurd h (Refuses.not_sendsTemplate (sendBeacon_refused p2p_off htim hbig) _)
  · rcases Nat.lt_or_ge BEACON_TEMPLATE_SIZE skb_beacon.length with hlong | hlen
    · exact absurd h ((sendBeacon_faults p2p_off htim hfits hlong).not_sendsTemplate _)
    · cases hpad : padTim (skb_beacon ++ zeros (BEACON_TEMPLATE_SIZE - skb_beacon.length))
        skb_beacon.length tim_off.toNat (tim_len.toNat - 3) (beaconPad vif tim_len) with
      | some beacon => exact ((sendsTemplate_iff p2p_off htim hfits hlen hpad template).mp h).1
      | none =>
        obtain ⟨copy, hcopy⟩ := memcpyTo_of_le hlen
        refine absurd h (Faults.not_sendsTemplate (fun hal_buf => ?_) _)
        rw [sendBeacon_eq p2p_off htim hfits, hcopy, Option.bind_some, memcpyTo_toList hcopy, hpad,
          Option.bind_none]

/-- Without padding the template is the beacon. -/
theorem sendsTemplate_of_pad_eq_zero {vif : WcnVif} {skb_beacon : List Byte} {tim_off : BitVec 16}
    (p2p_off : BitVec 16) {tim_len : Byte} (htim : skb_beacon[tim_off.toNat + 1]? = some tim_len)
    (hpad : beaconPad vif tim_len = 0) (hlen : skb_beacon.length ≤ BEACON_TEMPLATE_SIZE) :
    SendsTemplate (SmdFn.sendBeacon vif skb_beacon tim_off p2p_off).compose skb_beacon := by
  have hsize : BEACON_TEMPLATE_SIZE = 380 := rfl
  have hlength : (beaconLength vif skb_beacon tim_len).toNat = skb_beacon.length := by
    rw [beaconLength, hpad, BitVec.toNat_ofInt]
    omega
  have hsame : padTim (skb_beacon ++ zeros (BEACON_TEMPLATE_SIZE - skb_beacon.length))
      skb_beacon.length tim_off.toNat (tim_len.toNat - 3) (beaconPad vif tim_len) =
        some (skb_beacon ++ zeros (BEACON_TEMPLATE_SIZE - skb_beacon.length)) := by
    rw [hpad]
    exact if_neg (lt_irrefl 0)
  apply (sendsTemplate_iff p2p_off htim (hlength ▸ hlen) hlen hsame skb_beacon).mpr
  exact ⟨hlength, List.take_left⟩

/-! ## Padding -/

/-- The padded beacon: `n` bytes that are zero behind the first `pvm_end` bytes, and the length of the TIM
raised by `n`. -/
def paddedBeacon (skb_beacon : List Byte) (tim_off pvm_end n : ℕ) : List Byte :=
  (skb_beacon.take pvm_end ++ zeros n ++ skb_beacon.drop pvm_end).modify (tim_off + 1)
    fun b => b + BitVec.ofNat 8 n

/-- The beacon with a bitmap of at least `TIM_MIN_PVM_SIZE` bytes is sent, for a TIM of `tim_len` bytes
behind its header; one that is longer than the template then is refused. -/
def BeaconPadded (vif : WcnVif) (skb_beacon : List Byte) (tim_off p2p_off : BitVec 16)
    (tim_len : Byte) : Prop :=
  let template := paddedBeacon skb_beacon tim_off.toNat (tim_off.toNat + 2 + tim_len.toNat)
    (9 - tim_len.toNat)
  if template.length ≤ BEACON_TEMPLATE_SIZE then
    SendsTemplate (SmdFn.sendBeacon vif skb_beacon tim_off p2p_off).compose template
  else Refuses (SmdFn.sendBeacon vif skb_beacon tim_off p2p_off).compose (-ENOMEM)

/-- The padded beacon is longer by the padding. -/
theorem length_paddedBeacon {skb_beacon : List Byte} {pvm_end : ℕ} (tim_off n : ℕ)
    (h : pvm_end ≤ skb_beacon.length) :
    (paddedBeacon skb_beacon tim_off pvm_end n).length = skb_beacon.length + n := by
  unfold paddedBeacon
  simp only [List.length_modify, List.length_append, List.length_take, List.length_drop,
    length_zeros]
  omega

/-- Nothing is padded with no bytes. -/
theorem paddedBeacon_zero (skb_beacon : List Byte) (tim_off pvm_end : ℕ) :
    paddedBeacon skb_beacon tim_off pvm_end 0 = skb_beacon := by
  unfold paddedBeacon zeros
  rw [List.replicate_zero, List.append_nil, List.take_append_drop]
  simp only [BitVec.add_zero]
  exact List.modify_id _ _

/-- `memmove` and `memset` bring about the padded beacon in the first bytes of the template. -/
theorem padTim_eq {skb_beacon : List Byte} {tim_off pvm_end n : ℕ} {pvm_len : ℤ}
    (hpos : 0 < n) (hend : (tim_off : ℤ) + 5 + pvm_len = pvm_end)
    (hinside : pvm_end ≤ skb_beacon.length)
    (hfits : skb_beacon.length + n ≤ BEACON_TEMPLATE_SIZE) :
    ∃ beacon, padTim (skb_beacon ++ zeros (BEACON_TEMPLATE_SIZE - skb_beacon.length))
        skb_beacon.length tim_off pvm_len n = some beacon ∧
      beacon.take (skb_beacon.length + n) = paddedBeacon skb_beacon tim_off pvm_end n := by
  have hpvm : ((tim_off : ℤ) + 5 + pvm_len).toNat = pvm_end := by omega
  have hroom : (skb_beacon.length : ℤ) + n ≤ BEACON_TEMPLATE_SIZE := by exact_mod_cast hfits
  unfold padTim
  rw [if_pos (by exact_mod_cast hpos)]
  dsimp only
  rw [hpvm, if_pos ⟨hinside, hroom⟩]
  refine ⟨_, rfl, ?_⟩
  have hbyte : BitVec.ofInt 8 (n : ℤ) = BitVec.ofNat 8 n := BitVec.ofInt_natCast 8 n
  -- What is behind the beacon is cut off, and the rest is the beacon in two parts.
  have hparts : (skb_beacon ++ zeros (BEACON_TEMPLATE_SIZE - skb_beacon.length)).take pvm_end =
      skb_beacon.take pvm_end := List.take_append_of_le_length hinside
  have hmoved : ((skb_beacon ++ zeros (BEACON_TEMPLATE_SIZE - skb_beacon.length)).drop pvm_end).take
      (skb_beacon.length - pvm_end) = skb_beacon.drop pvm_end := by
    rw [List.drop_append_of_le_length hinside, ← List.length_drop, List.take_left]
  rw [List.take_modify, hbyte, hparts, hmoved, Int.toNat_natCast]
  unfold paddedBeacon
  have hlength : (skb_beacon.take pvm_end ++ zeros n ++ skb_beacon.drop pvm_end).length =
      skb_beacon.length + n := by
    simp only [List.length_append, List.length_take, List.length_drop, length_zeros]
    omega
  rw [← hlength, List.take_left]

section Padding

variable {vif : WcnVif} {skb_beacon : List Byte} {tim_off : BitVec 16} (p2p_off : BitVec 16)
  {tim_len : Byte} (hap : vif.type = .AP) (htim : skb_beacon[tim_off.toNat + 1]? = some tim_len)
include hap

/-- `pad` on an AP. -/
theorem beaconPad_ap : beaconPad vif tim_len = 9 - tim_len.toNat := by
  have hmin : TIM_MIN_PVM_SIZE = 6 := rfl
  rw [beaconPad, if_neg (by rw [hap]; decide), hmin]
  omega

include htim

/-- A bitmap that is not longer than the firmware expects, in a beacon whose length does not wrap. -/
theorem beaconPadded_of_short
    (hinside : tim_off.toNat + 2 + tim_len.toNat ≤ skb_beacon.length) (hshort : tim_len.toNat ≤ 9)
    (hwrap : skb_beacon.length + (9 - tim_len.toNat) < 2 ^ 32) :
    BeaconPadded vif skb_beacon tim_off p2p_off tim_len := by
  obtain ⟨n, hn⟩ : ∃ n, n = 9 - tim_len.toNat := ⟨_, rfl⟩
  have hpad : beaconPad vif tim_len = n := by
    rw [beaconPad_ap hap]
    omega
  have hlength : (beaconLength vif skb_beacon tim_len).toNat = skb_beacon.length + n := by
    rw [beaconLength, hpad, BitVec.toNat_ofInt]
    omega
  unfold BeaconPadded
  dsimp only
  rw [length_paddedBeacon _ _ hinside, ← hn]
  split_ifs with hfits
  · rcases Nat.eq_zero_or_pos n with hzero | hpos
    · rw [hzero, paddedBeacon_zero]
      rw [hzero] at hpad hfits
      exact sendsTemplate_of_pad_eq_zero p2p_off htim hpad hfits
    · have hend : (tim_off.toNat : ℤ) + 5 + (tim_len.toNat - 3) =
          (tim_off.toNat + 2 + tim_len.toNat : ℕ) := by
        push_cast
        omega
      obtain ⟨beacon, hbeacon, htake⟩ := padTim_eq hpos hend hinside hfits
      rw [← hpad] at hbeacon
      refine (sendsTemplate_iff p2p_off htim (hlength ▸ hfits) (by omega) hbeacon _).mpr ?_
      rw [length_paddedBeacon _ _ hinside]
      exact ⟨hlength, htake⟩
  · exact sendBeacon_refused p2p_off htim (by omega)

/-- A length that wraps is taken for a short one. -/
theorem not_beaconPadded_of_wrap (hlen : skb_beacon.length < 2 ^ 32)
    (hinside : tim_off.toNat + 2 + tim_len.toNat ≤ skb_beacon.length) (hshort : tim_len.toNat ≤ 9)
    (hwrap : 2 ^ 32 ≤ skb_beacon.length + (9 - tim_len.toNat)) :
    ¬BeaconPadded vif skb_beacon tim_off p2p_off tim_len := by
  have hsize : BEACON_TEMPLATE_SIZE = 380 := rfl
  have hfits : (beaconLength vif skb_beacon tim_len).toNat ≤ BEACON_TEMPLATE_SIZE := by
    rw [beaconLength, beaconPad_ap hap, BitVec.toNat_ofInt]
    omega
  unfold BeaconPadded
  dsimp only
  rw [length_paddedBeacon _ _ hinside, if_neg (by omega)]
  exact (sendBeacon_faults p2p_off htim hfits (by omega)).not_refuses _

/-- A longer bitmap makes `beacon_length` smaller than the beacon. The length decides what comes of it: the
beacon is refused, copied over the end of the template, or sent without its end. -/
theorem beaconPadded_of_long (hlen : skb_beacon.length < 2 ^ 32)
    (hinside : tim_off.toNat + 2 + tim_len.toNat ≤ skb_beacon.length) (hlong : 9 < tim_len.toNat) :
    BeaconPadded vif skb_beacon tim_off p2p_off tim_len ↔
      BEACON_TEMPLATE_SIZE + (tim_len.toNat - 9) < skb_beacon.length := by
  have hlength : (beaconLength vif skb_beacon tim_len).toNat =
      skb_beacon.length - (tim_len.toNat - 9) := by
    rw [beaconLength, beaconPad_ap hap, BitVec.toNat_ofInt]
    omega
  have hzero : 9 - tim_len.toNat = 0 := by omega
  unfold BeaconPadded
  dsimp only
  rw [hzero, paddedBeacon_zero]
  rcases Nat.lt_or_ge (BEACON_TEMPLATE_SIZE + (tim_len.toNat - 9)) skb_beacon.length with
    hbig | hfits
  · rw [if_neg (by omega)]
    exact iff_of_true (sendBeacon_refused p2p_off htim (by omega)) hbig
  · refine iff_of_false ?_ (Nat.not_lt.mpr hfits)
    split_ifs with hsize
    · intro hsends
      have hsent := hsends.length_eq htim
      omega
    · exact (sendBeacon_faults p2p_off htim (by omega) (by omega)).not_refuses _

end Padding

/-- For an AP beacon with a well-formed TIM, the padded beacon is sent, or refused when it is too long, if
and only if the TIM has no more than `TIM_MIN_PVM_SIZE` bytes of bitmap and the length does not wrap, or it
has more and the beacon is too long even without as many bytes. -/
theorem beaconPadded_iff (vif : WcnVif) (skb_beacon : List Byte) (tim_off p2p_off : BitVec 16)
    (tim_len : Byte) (hap : vif.type = .AP) (hlen : skb_beacon.length < 2 ^ 32)
    (htim : skb_beacon[tim_off.toNat + 1]? = some tim_len)
    (hinside : tim_off.toNat + 2 + tim_len.toNat ≤ skb_beacon.length) :
    BeaconPadded vif skb_beacon tim_off p2p_off tim_len ↔
      tim_len.toNat ≤ 9 ∧ skb_beacon.length + (9 - tim_len.toNat) < 2 ^ 32 ∨
        9 < tim_len.toNat ∧ BEACON_TEMPLATE_SIZE + (tim_len.toNat - 9) < skb_beacon.length := by
  rcases Nat.lt_or_ge 9 tim_len.toNat with hlong | hshort
  · rw [beaconPadded_of_long p2p_off hap htim hlen hinside hlong]
    omega
  · rcases Nat.lt_or_ge (skb_beacon.length + (9 - tim_len.toNat)) (2 ^ 32) with hok | hwrap
    · exact iff_of_true (beaconPadded_of_short p2p_off hap htim hinside hshort hok)
        (.inl ⟨hshort, hok⟩)
    · refine iff_of_false
        (not_beaconPadded_of_wrap p2p_off hap htim hlen hinside hshort hwrap) ?_
      omega

/-- A beacon of an AP: its header and fixed parameters, a TIM with a bitmap of `n` bytes, and an element
behind it. -/
def apBeacon (n : ℕ) : List Byte :=
  [0x80, 0x00] ++ zeros 34 ++ [5, BitVec.ofNat 8 (3 + n), 0, 3, 0] ++ List.replicate n 0xff ++
    [42, 1, 4]

/-- A bitmap of one byte is padded. -/
theorem beaconPadded_iff_short_bitmap : BeaconPadded apVif (apBeacon 1) 36 0 4 :=
  (beaconPadded_iff apVif (apBeacon 1) 36 0 4 rfl (by decide) (by decide) (by decide)).mpr
    (by decide)

/-- A bitmap of seven bytes costs the beacon its last byte. -/
theorem beaconPadded_fails_on_long_bitmap : ¬BeaconPadded apVif (apBeacon 7) 36 0 10 := by
  rw [beaconPadded_of_long 0 rfl (by decide) (by decide) (by decide) (by decide)]
  decide

/-! ## Beacons without a TIM -/

/-- When there is no TIM, as on a mesh or in an IBSS, `tim_off` is 0. A beacon that fits the template is
then sent as it is if and only if the interface is one of a mesh, or the second byte of the frame, which is
taken for the length of a TIM, is 9. -/
theorem sentVerbatim_iff (vif : WcnVif) (skb_beacon : List Byte) (p2p_off : BitVec 16)
    (hlen : skb_beacon.length ≤ BEACON_TEMPLATE_SIZE) :
    SendsTemplate (SmdFn.sendBeacon vif skb_beacon 0 p2p_off).compose skb_beacon ↔
      ∃ b ∈ skb_beacon[1]?, vif.type = .MESH_POINT ∨ b = 9 := by
  have hsize : BEACON_TEMPLATE_SIZE = 380 := rfl
  have hmin : TIM_MIN_PVM_SIZE = 6 := rfl
  cases hbyte : skb_beacon[1]? with
  | none =>
    -- There is no second byte to read.
    have hfaults : Faults (SmdFn.sendBeacon vif skb_beacon 0 p2p_off).compose := by
      intro hal_buf
      have hread : skb_beacon[(0 : BitVec 16).toNat + 1]? = none := hbyte
      simp only [SmdFn.sendBeacon, hread, Option.bind_eq_bind, Option.bind_none]
    exact iff_of_false (hfaults.not_sendsTemplate _) (by simp)
  | some b =>
    have htim : skb_beacon[(0 : BitVec 16).toNat + 1]? = some b := hbyte
    have hlt := b.isLt
    have hpad : beaconPad vif b = 0 ↔ vif.type = .MESH_POINT ∨ b = 9 := by
      have hnine : b = 9 ↔ b.toNat = 9 := BitVec.toNat_inj.symm
      rw [beaconPad, hmin, hnine]
      split_ifs with hmesh
      · exact iff_of_true rfl (.inl hmesh)
      · rw [or_iff_right hmesh]
        omega
    have hiff : SendsTemplate (SmdFn.sendBeacon vif skb_beacon 0 p2p_off).compose skb_beacon ↔
        beaconPad vif b = 0 := by
      refine ⟨fun hsends => ?_, fun hzero => sendsTemplate_of_pad_eq_zero p2p_off htim hzero hlen⟩
      have hlength := hsends.length_eq htim
      have hrange : -252 < beaconPad vif b ∧ beaconPad vif b ≤ 9 := by
        rw [beaconPad, hmin]
        split_ifs <;> omega
      rw [beaconLength, BitVec.toNat_ofInt] at hlength
      omega
    rw [hiff, hpad]
    simp

/-- A beacon of a mesh point. -/
theorem sentVerbatim_iff_mesh :
    SendsTemplate (SmdFn.sendBeacon { apVif with type := .MESH_POINT } (apBeacon 1) 0 0).compose
      (apBeacon 1) :=
  (sentVerbatim_iff { apVif with type := .MESH_POINT } (apBeacon 1) 0 (by decide)).mpr
    ⟨0, rfl, .inl rfl⟩

/-- A beacon of an IBSS is sent with nine bytes more than it has. -/
theorem sentVerbatim_fails_in_ibss :
    ¬SendsTemplate (SmdFn.sendBeacon { apVif with type := .ADHOC } (apBeacon 1) 0 0).compose
      (apBeacon 1) := by
  intro hsends
  have hlength := @SendsTemplate.length_eq _ _ _ _ 0 rfl _ hsends
  revert hlength
  decide

end Wcn36xx
