import Wcn36xx.Support.BitField
import Wcn36xx.Txrx.Bd

/-!
# The layout of the buffer descriptors

The driver fills a TX BD through bit fields and turns its words into big-endian order; of an RX BD it
turns the words first and reads the bit fields then. The fields, their widths and their order are in
`txLayout` and `rxLayout`, both with the PDU in the second to fifth word. `bd_roundTrip` says that every
field of a BD that is sent stands where the layout says, and that an RX BD is read by the inverse of the
same encoding.
-/

namespace Wcn36xx

open Support

/-! ## The fields -/

/-- The fields of `struct wcn36xx_pdu`. -/
inductive PduField where
  | dpu_fb | adu_fb | pdu_id
  | tail_pdu_idx | head_pdu_idx
  | pdu_count | mpdu_data_off | mpdu_header_off | mpdu_header_len
  | reserved4 | tid | bd_ssn | reserved3 | mpdu_len
  deriving DecidableEq

/-- The fields of `struct wcn36xx_tx_bd`. -/
inductive TxField where
  | bdt | ft | dpu_ne | fw_tx_comp | tx_comp | reserved1 | ub | rmf | reserved0 | dpu_sign | dpu_rf
  | pdu (f : PduField)
  | reserved5 | queue_id | bd_rate | ack_policy | sta_index | dpu_desc_idx
  | tx_bd_sign | reserved6 | dxe_start_time | dxe_end_time
  deriving DecidableEq

/-- The fields of `struct wcn36xx_rx_bd`. -/
inductive RxField where
  | bdt | ft | dpu_ne | rx_key_id | ub | rmf | uma_bypass | csr11 | reserved0 | scan_learn | rx_ch
  | rtsf | bsf | a2hf | st_auf | dpu_sign | dpu_rf
  | pdu (f : PduField)
  | addr3 | addr2 | addr1 | dpu_desc_idx
  | rxp_flags | rate_id
  | phy_stat0 | phy_stat1 | rx_times
  | pmi_cmd (i : Fin 6)
  | reserved7 | reorder_slot_id | reorder_fwd_id | reserved6 | reorder_code
  | exp_seq_num | cur_seq_num | fr_type_subtype
  | msdu_size | sub_fr_id | proc_order | reserved9 | aef | lsf | esf | asf
  deriving DecidableEq

namespace PduField

/-- The width of a field. -/
def width : PduField → ℕ
  | dpu_fb => 8 | adu_fb => 8 | pdu_id => 16
  | tail_pdu_idx => 16 | head_pdu_idx => 16
  | pdu_count => 7 | mpdu_data_off => 9 | mpdu_header_off => 8 | mpdu_header_len => 8
  | reserved4 => 8 | tid => 4 | bd_ssn => 2 | reserved3 => 2 | mpdu_len => 16

/-- The word that a field is in, in a BD. -/
def word : PduField → ℕ
  | dpu_fb | adu_fb | pdu_id => 1
  | tail_pdu_idx | head_pdu_idx => 2
  | pdu_count | mpdu_data_off | mpdu_header_off | mpdu_header_len => 3
  | reserved4 | tid | bd_ssn | reserved3 | mpdu_len => 4

/-- The words of a PDU. -/
def words : List (List PduField) :=
  [[dpu_fb, adu_fb, pdu_id],
   [tail_pdu_idx, head_pdu_idx],
   [pdu_count, mpdu_data_off, mpdu_header_off, mpdu_header_len],
   [reserved4, tid, bd_ssn, reserved3, mpdu_len]]

end PduField

namespace TxField

/-- The width of a field. -/
def width : TxField → ℕ
  | bdt => 2 | ft => 1 | dpu_ne => 1 | fw_tx_comp => 1 | tx_comp => 1 | reserved1 => 1 | ub => 1
  | rmf => 1 | reserved0 => 12 | dpu_sign => 3 | dpu_rf => 8
  | pdu f => f.width
  | reserved5 => 7 | queue_id => 5 | bd_rate => 2 | ack_policy => 2 | sta_index => 8
  | dpu_desc_idx => 8
  | tx_bd_sign => 32 | reserved6 => 32 | dxe_start_time => 32 | dxe_end_time => 32

/-- The word that a field is in. -/
def word : TxField → ℕ
  | bdt | ft | dpu_ne | fw_tx_comp | tx_comp | reserved1 | ub | rmf | reserved0 | dpu_sign
  | dpu_rf => 0
  | pdu f => f.word
  | reserved5 | queue_id | bd_rate | ack_policy | sta_index | dpu_desc_idx => 5
  | tx_bd_sign => 6 | reserved6 => 7 | dxe_start_time => 8 | dxe_end_time => 9

/-- The words of a TX BD. -/
def words : List (List TxField) :=
  [bdt, ft, dpu_ne, fw_tx_comp, tx_comp, reserved1, ub, rmf, reserved0, dpu_sign, dpu_rf] ::
  PduField.words.map (List.map pdu) ++
  [[reserved5, queue_id, bd_rate, ack_policy, sta_index, dpu_desc_idx],
   [tx_bd_sign], [reserved6], [dxe_start_time], [dxe_end_time]]

end TxField

namespace RxField

/-- The width of a field. -/
def width : RxField → ℕ
  | bdt => 2 | ft => 1 | dpu_ne => 1 | rx_key_id => 3 | ub => 1 | rmf => 1 | uma_bypass => 1
  | csr11 => 1 | reserved0 => 1 | scan_learn => 1 | rx_ch => 4 | rtsf => 1 | bsf => 1 | a2hf => 1
  | st_auf => 1 | dpu_sign => 3 | dpu_rf => 8
  | pdu f => f.width
  | addr3 => 8 | addr2 => 8 | addr1 => 8 | dpu_desc_idx => 8
  | rxp_flags => 23 | rate_id => 9
  | phy_stat0 => 32 | phy_stat1 => 32 | rx_times => 32
  | pmi_cmd _ => 32
  | reserved7 => 4 | reorder_slot_id => 6 | reorder_fwd_id => 6 | reserved6 => 12
  | reorder_code => 4
  | exp_seq_num => 12 | cur_seq_num => 12 | fr_type_subtype => 8
  | msdu_size => 16 | sub_fr_id => 4 | proc_order => 4 | reserved9 => 4 | aef => 1 | lsf => 1
  | esf => 1 | asf => 1

/-- The word that a field is in. -/
def word : RxField → ℕ
  | bdt | ft | dpu_ne | rx_key_id | ub | rmf | uma_bypass | csr11 | reserved0 | scan_learn | rx_ch
  | rtsf | bsf | a2hf | st_auf | dpu_sign | dpu_rf => 0
  | pdu f => f.word
  | addr3 | addr2 | addr1 | dpu_desc_idx => 5
  | rxp_flags | rate_id => 6
  | phy_stat0 => 7 | phy_stat1 => 8 | rx_times => 9
  | pmi_cmd i => 10 + i
  | reserved7 | reorder_slot_id | reorder_fwd_id | reserved6 | reorder_code => 16
  | exp_seq_num | cur_seq_num | fr_type_subtype => 17
  | msdu_size | sub_fr_id | proc_order | reserved9 | aef | lsf | esf | asf => 18

/-- The words of an RX BD. -/
def words : List (List RxField) :=
  [bdt, ft, dpu_ne, rx_key_id, ub, rmf, uma_bypass, csr11, reserved0, scan_learn, rx_ch, rtsf, bsf,
   a2hf, st_auf, dpu_sign, dpu_rf] ::
  PduField.words.map (List.map pdu) ++
  [[addr3, addr2, addr1, dpu_desc_idx],
   [rxp_flags, rate_id],
   [phy_stat0], [phy_stat1], [rx_times],
   [pmi_cmd 0], [pmi_cmd 1], [pmi_cmd 2], [pmi_cmd 3], [pmi_cmd 4], [pmi_cmd 5],
   [reserved7, reorder_slot_id, reorder_fwd_id, reserved6, reorder_code],
   [exp_seq_num, cur_seq_num, fr_type_subtype],
   [msdu_size, sub_fr_id, proc_order, reserved9, aef, lsf, esf, asf]]

end RxField

/-- The layout of a TX BD. -/
def txLayout : Layout TxField 32 where
  words := TxField.words
  width := TxField.width
  word := TxField.word
  mem_word f := by
    cases f with
    | pdu f => cases f <;> exact ⟨_, rfl, by decide⟩
    | _ => exact ⟨_, rfl, by decide⟩
  word_of_mem := by decide
  nodup := by decide
  full := by decide

/-- The layout of an RX BD. -/
def rxLayout : Layout RxField 32 where
  words := RxField.words
  width := RxField.width
  word := RxField.word
  mem_word f := by
    cases f with
    | pdu f => cases f <;> exact ⟨_, rfl, by decide⟩
    | pmi_cmd i =>
      have hword : ∀ i : Fin 6, RxField.words[(RxField.pmi_cmd i).word]? = some [.pmi_cmd i] := by
        decide
      exact ⟨_, hword i, List.mem_singleton_self _⟩
    | _ => exact ⟨_, rfl, by decide⟩
  word_of_mem := by decide
  nodup := by decide
  full := by decide

/-- The header length of a PDU has the upper bits of its word. -/
example : txLayout.off (.pdu .mpdu_header_len) = 24 := by decide

/-! ## TX -/

/-- The value of a field. -/
def Pdu.get (pdu : Pdu) : PduField → ℕ
  | .dpu_fb => pdu.dpu_fb.toNat
  | .adu_fb => pdu.adu_fb.toNat
  | .pdu_id => pdu.pdu_id.toNat
  | .tail_pdu_idx => pdu.tail_pdu_idx.toNat
  | .head_pdu_idx => pdu.head_pdu_idx.toNat
  | .pdu_count => pdu.pdu_count.toNat
  | .mpdu_data_off => pdu.mpdu_data_off.toNat
  | .mpdu_header_off => pdu.mpdu_header_off.toNat
  | .mpdu_header_len => pdu.mpdu_header_len.toNat
  | .reserved4 => pdu.reserved4.toNat
  | .tid => pdu.tid.toNat
  | .bd_ssn => pdu.bd_ssn.toNat
  | .reserved3 => pdu.reserved3.toNat
  | .mpdu_len => pdu.mpdu_len.toNat

/-- Store a value in a field; the bits above its width are lost. -/
def Pdu.set (pdu : Pdu) (f : PduField) (v : ℕ) : Pdu :=
  match f with
  | .dpu_fb => { pdu with dpu_fb := BitVec.ofNat 8 v }
  | .adu_fb => { pdu with adu_fb := BitVec.ofNat 8 v }
  | .pdu_id => { pdu with pdu_id := BitVec.ofNat 16 v }
  | .tail_pdu_idx => { pdu with tail_pdu_idx := BitVec.ofNat 16 v }
  | .head_pdu_idx => { pdu with head_pdu_idx := BitVec.ofNat 16 v }
  | .pdu_count => { pdu with pdu_count := BitVec.ofNat 7 v }
  | .mpdu_data_off => { pdu with mpdu_data_off := BitVec.ofNat 9 v }
  | .mpdu_header_off => { pdu with mpdu_header_off := BitVec.ofNat 8 v }
  | .mpdu_header_len => { pdu with mpdu_header_len := BitVec.ofNat 8 v }
  | .reserved4 => { pdu with reserved4 := BitVec.ofNat 8 v }
  | .tid => { pdu with tid := BitVec.ofNat 4 v }
  | .bd_ssn => { pdu with bd_ssn := BitVec.ofNat 2 v }
  | .reserved3 => { pdu with reserved3 := BitVec.ofNat 2 v }
  | .mpdu_len => { pdu with mpdu_len := BitVec.ofNat 16 v }

namespace TxBd

/-- The value of a field. -/
def get (bd : TxBd) : TxField → ℕ
  | .bdt => bd.bdt.toNat
  | .ft => bd.ft.toNat
  | .dpu_ne => bd.dpu_ne.toNat
  | .fw_tx_comp => bd.fw_tx_comp.toNat
  | .tx_comp => bd.tx_comp.toNat
  | .reserved1 => bd.reserved1.toNat
  | .ub => bd.ub.toNat
  | .rmf => bd.rmf.toNat
  | .reserved0 => bd.reserved0.toNat
  | .dpu_sign => bd.dpu_sign.toNat
  | .dpu_rf => bd.dpu_rf.toNat
  | .pdu f => bd.pdu.get f
  | .reserved5 => bd.reserved5.toNat
  | .queue_id => bd.queue_id.toNat
  | .bd_rate => bd.bd_rate.toNat
  | .ack_policy => bd.ack_policy.toNat
  | .sta_index => bd.sta_index.toNat
  | .dpu_desc_idx => bd.dpu_desc_idx.toNat
  | .tx_bd_sign => bd.tx_bd_sign.toNat
  | .reserved6 => bd.reserved6.toNat
  | .dxe_start_time => bd.dxe_start_time.toNat
  | .dxe_end_time => bd.dxe_end_time.toNat

/-- Store a value in a field; the bits above its width are lost. -/
def set (bd : TxBd) (f : TxField) (v : ℕ) : TxBd :=
  match f with
  | .bdt => { bd with bdt := BitVec.ofNat 2 v }
  | .ft => { bd with ft := BitVec.ofNat 1 v }
  | .dpu_ne => { bd with dpu_ne := BitVec.ofNat 1 v }
  | .fw_tx_comp => { bd with fw_tx_comp := BitVec.ofNat 1 v }
  | .tx_comp => { bd with tx_comp := BitVec.ofNat 1 v }
  | .reserved1 => { bd with reserved1 := BitVec.ofNat 1 v }
  | .ub => { bd with ub := BitVec.ofNat 1 v }
  | .rmf => { bd with rmf := BitVec.ofNat 1 v }
  | .reserved0 => { bd with reserved0 := BitVec.ofNat 12 v }
  | .dpu_sign => { bd with dpu_sign := BitVec.ofNat 3 v }
  | .dpu_rf => { bd with dpu_rf := BitVec.ofNat 8 v }
  | .pdu f => { bd with pdu := bd.pdu.set f v }
  | .reserved5 => { bd with reserved5 := BitVec.ofNat 7 v }
  | .queue_id => { bd with queue_id := BitVec.ofNat 5 v }
  | .bd_rate => { bd with bd_rate := BitVec.ofNat 2 v }
  | .ack_policy => { bd with ack_policy := BitVec.ofNat 2 v }
  | .sta_index => { bd with sta_index := BitVec.ofNat 8 v }
  | .dpu_desc_idx => { bd with dpu_desc_idx := BitVec.ofNat 8 v }
  | .tx_bd_sign => { bd with tx_bd_sign := BitVec.ofNat 32 v }
  | .reserved6 => { bd with reserved6 := BitVec.ofNat 32 v }
  | .dxe_start_time => { bd with dxe_start_time := BitVec.ofNat 32 v }
  | .dxe_end_time => { bd with dxe_end_time := BitVec.ofNat 32 v }

end TxBd

/-- A value has the width of its field. -/
theorem Pdu.get_lt (pdu : Pdu) (f : PduField) : pdu.get f < 2 ^ f.width := by
  cases f <;> exact BitVec.isLt _

/-- A value has the width of its field. -/
theorem TxBd.get_lt (bd : TxBd) (f : TxField) : bd.get f < 2 ^ f.width := by
  cases f with
  | pdu f => exact bd.pdu.get_lt f
  | _ => exact BitVec.isLt _

/-- A store changes its field and no other. -/
theorem Pdu.get_set (pdu : Pdu) (f : PduField) (v : ℕ) (f' : PduField) :
    (pdu.set f v).get f' = if f' = f then v % 2 ^ f.width else pdu.get f' := by
  split_ifs with h
  · subst h
    cases f' <;> exact BitVec.toNat_ofNat v _
  · cases f <;> cases f' <;> first | rfl | exact absurd rfl h

/-- A store changes its field and no other. -/
theorem TxBd.get_set (bd : TxBd) (f : TxField) (v : ℕ) (f' : TxField) :
    (bd.set f v).get f' = if f' = f then v % 2 ^ f.width else bd.get f' := by
  split_ifs with h
  · subst h
    cases f' with
    | pdu f' =>
      have hset := bd.pdu.get_set f' v f'
      rwa [if_pos rfl] at hset
    | _ => exact BitVec.toNat_ofNat v _
  · cases f with
    | pdu f =>
      cases f' with
      | pdu f' =>
        have hset := bd.pdu.get_set f v f'
        rwa [if_neg fun heq => h (congrArg TxField.pdu heq)] at hset
      | _ => rfl
    | _ => cases f' <;> first | rfl | exact absurd rfl h

/-- A field that is appended in front of others is above them. -/
theorem toNat_append_add {m n : ℕ} (x : BitVec m) (y : BitVec n) :
    (x ++ y).toNat = y.toNat + 2 ^ n * x.toNat := by
  rw [BitVec.toNat_append, ← Nat.shiftLeft_add_eq_or_of_lt y.isLt, Nat.shiftLeft_eq]
  ring

/-- The words of a PDU have its fields in their places. -/
theorem Pdu.words_pack (pdu : Pdu) : pdu.words.map BitVec.toNat =
    PduField.words.map fun fs => pack (fs.map fun f => (f.width, pdu.get f)) := by
  simp only [Pdu.words, PduField.words, List.map_cons, List.map_nil, pack, toNat_append_add,
    Pdu.get, PduField.width, Nat.mul_zero, Nat.add_zero]

/-- The words of a BD have its fields in their places. -/
theorem TxBd.words_encode (bd : TxBd) : bd.words.map BitVec.toNat = txLayout.encode bd.get := by
  have hpdu : bd.pdu.words.map BitVec.toNat = (PduField.words.map (List.map TxField.pdu)).map
      fun fs => pack (fs.map fun f => (f.width, bd.get f)) := by
    rw [Pdu.words_pack, List.map_map]
    congr 1
    funext fs
    simp only [Function.comp, List.map_map]
    rfl
  unfold TxBd.words Layout.encode
  simp only [txLayout, TxField.words, List.map_cons, List.map_append, List.cons_append, List.map_nil,
    hpdu, pack, toNat_append_add, TxBd.get, TxField.width, Nat.mul_zero, Nat.add_zero]

/-! ## Words in memory -/

/-- The words of an image in big-endian order. -/
def beWords : List Byte → List ℕ
  | b₀ :: b₁ :: b₂ :: b₃ :: bs => (b₀ ++ b₁ ++ b₂ ++ b₃).toNat :: beWords bs
  | _ => []

/-- The words that the driver sees in an image. -/
def leWords : List Byte → List (BitVec 32)
  | b₀ :: b₁ :: b₂ :: b₃ :: bs => (b₃ ++ b₂ ++ b₁ ++ b₀) :: leWords bs
  | _ => []

/-- The bytes of a word that is made up of them. -/
theorem leBytes_append (b₀ b₁ b₂ b₃ : Byte) : leBytes (b₃ ++ b₂ ++ b₁ ++ b₀) = [b₀, b₁, b₂, b₃] := by
  have h₀ := b₀.isLt
  have h₁ := b₁.isLt
  have h₂ := b₂.isLt
  have h₃ := b₃.isLt
  -- The byte from bit `i` on, by the number that the word stands for.
  have hbyte : ∀ i (b : Byte), (b₃ ++ b₂ ++ b₁ ++ b₀).toNat / 2 ^ i % 2 ^ 8 = b.toNat →
      (b₃ ++ b₂ ++ b₁ ++ b₀).extractLsb' i 8 = b := by
    intro i b hb
    apply BitVec.eq_of_toNat_eq
    rw [BitVec.extractLsb'_toNat, Nat.shiftRight_eq_div_pow, hb]
  simp only [toNat_append_add] at hbyte
  unfold leBytes
  rw [hbyte 0 b₀ (by omega), hbyte 8 b₁ (by omega), hbyte 16 b₂ (by omega), hbyte 24 b₃ (by omega)]

/-- Every word is made up of its bytes. -/
theorem exists_append (w : BitVec 32) : ∃ b₀ b₁ b₂ b₃ : Byte, w = b₃ ++ b₂ ++ b₁ ++ b₀ := by
  refine ⟨w.extractLsb' 0 8, w.extractLsb' 8 8, w.extractLsb' 16 8, w.extractLsb' 24 8, ?_⟩
  have hlt := w.isLt
  apply BitVec.eq_of_toNat_eq
  simp only [toNat_append_add, BitVec.extractLsb'_toNat, Nat.shiftRight_eq_div_pow]
  omega

/-- `cpu_to_be32` turns the bytes of a word. -/
theorem cpuToBe32_append (b₀ b₁ b₂ b₃ : Byte) :
    cpuToBe32 (b₃ ++ b₂ ++ b₁ ++ b₀) = b₀ ++ b₁ ++ b₂ ++ b₃ := by
  have hbytes := leBytes_append b₀ b₁ b₂ b₃
  unfold leBytes at hbytes
  simp only [List.cons.injEq, and_true] at hbytes
  obtain ⟨h₀, h₁, h₂, h₃⟩ := hbytes
  rw [cpuToBe32, h₀, h₁, h₂, h₃]

/-- A word that `buff_to_be` has turned is in big-endian order in memory. -/
theorem beWords_leBytes (w : BitVec 32) (bs : List Byte) :
    beWords (leBytes (cpuToBe32 w) ++ bs) = w.toNat :: beWords bs := by
  obtain ⟨b₀, b₁, b₂, b₃, rfl⟩ := exists_append w
  rw [cpuToBe32_append, leBytes_append]
  rfl

/-- Words that `buff_to_be` has turned are in big-endian order in memory. -/
theorem beWords_bytesOfWords (ws : List (BitVec 32)) (bs : List Byte) :
    beWords (TxBd.bytesOfWords (ws.map cpuToBe32) ++ bs) = ws.map BitVec.toNat ++ beWords bs := by
  induction ws with
  | nil => rfl
  | cons w ws ih =>
    unfold TxBd.bytesOfWords at ih ⊢
    rw [List.map_cons, List.flatMap_cons, List.append_assoc, beWords_leBytes, ih, List.map_cons,
      List.cons_append]

/-- `buff_to_be` of what the driver sees gives the words in big-endian order. -/
theorem leWords_beWords (bs : List Byte) :
    (leWords bs).map (fun w => (cpuToBe32 w).toNat) = beWords bs := by
  induction bs using beWords.induct with
  | case1 b₀ b₁ b₂ b₃ bs ih =>
    rw [leWords, beWords, List.map_cons, ih, cpuToBe32_append]
  | case2 bs h =>
    rw [leWords, beWords, List.map_nil]
    · exact h
    · exact h

/-- Turning the bytes twice changes nothing. -/
theorem cpuToBe32_cpuToBe32 (w : BitVec 32) : cpuToBe32 (cpuToBe32 w) = w := by
  obtain ⟨b₀, b₁, b₂, b₃, rfl⟩ := exists_append w
  rw [cpuToBe32_append, cpuToBe32_append]

/-- Four bytes make up a word. -/
theorem length_leWords (bs : List Byte) : (leWords bs).length = bs.length / 4 := by
  induction bs using leWords.induct with
  | case1 b₀ b₁ b₂ b₃ bs ih =>
    rw [leWords, List.length_cons, ih]
    simp only [List.length_cons]
    omega
  | case2 bs h =>
    have hlen : bs.length < 4 := by
      rcases bs with _ | ⟨b₀, _ | ⟨b₁, _ | ⟨b₂, _ | ⟨b₃, bs⟩⟩⟩⟩
      · simp
      · simp
      · simp
      · simp
      · exact absurd rfl (h b₀ b₁ b₂ b₃ bs)
    rw [leWords, List.length_nil, Nat.div_eq_of_lt hlen]
    exact h

/-- Whole words are the bytes that they were read from. -/
theorem bytesOfWords_leWords (bs : List Byte) : 4 ∣ bs.length →
    TxBd.bytesOfWords (leWords bs) = bs := by
  induction bs using leWords.induct with
  | case1 b₀ b₁ b₂ b₃ bs ih =>
    intro hdvd
    simp only [List.length_cons] at hdvd
    have hrest := ih (by omega)
    unfold TxBd.bytesOfWords at hrest ⊢
    rw [leWords, List.flatMap_cons, hrest, leBytes_append]
    rfl
  | case2 bs h =>
    intro hdvd
    rcases bs with _ | ⟨b₀, _ | ⟨b₁, _ | ⟨b₂, _ | ⟨b₃, bs⟩⟩⟩⟩
    · rfl
    · exact absurd hdvd (by simp)
    · exact absurd hdvd (by simp)
    · exact absurd hdvd (by simp)
    · exact absurd rfl (h b₀ b₁ b₂ b₃ bs)

/-- The store of `tx_bd_sign` in big-endian order, which is the same in both orders. -/
theorem sentWords_eq (bd : TxBd) :
    bd.sentWords = ({ bd with tx_bd_sign := 0xbdbdbdbd } : TxBd).words.map cpuToBe32 := by
  have hsign : cpuToBe32 0xbdbdbdbd = 0xbdbdbdbd := by decide
  have hwords : ({ bd with tx_bd_sign := 0xbdbdbdbd } : TxBd).words =
      bd.words.set 6 0xbdbdbdbd := rfl
  rw [hwords, List.map_set, hsign]
  rfl

/-! ## RX -/

/-- `struct wcn36xx_rx_bd`. -/
@[ext]
structure RxBd where
  bdt : BitVec 2 := 0
  ft : BitVec 1 := 0
  dpu_ne : BitVec 1 := 0
  rx_key_id : BitVec 3 := 0
  ub : BitVec 1 := 0
  rmf : BitVec 1 := 0
  uma_bypass : BitVec 1 := 0
  csr11 : BitVec 1 := 0
  reserved0 : BitVec 1 := 0
  scan_learn : BitVec 1 := 0
  rx_ch : BitVec 4 := 0
  rtsf : BitVec 1 := 0
  bsf : BitVec 1 := 0
  a2hf : BitVec 1 := 0
  st_auf : BitVec 1 := 0
  dpu_sign : BitVec 3 := 0
  dpu_rf : BitVec 8 := 0
  pdu : Pdu := {}
  addr3 : BitVec 8 := 0
  addr2 : BitVec 8 := 0
  addr1 : BitVec 8 := 0
  dpu_desc_idx : BitVec 8 := 0
  rxp_flags : BitVec 23 := 0
  rate_id : BitVec 9 := 0
  phy_stat0 : BitVec 32 := 0
  phy_stat1 : BitVec 32 := 0
  rx_times : BitVec 32 := 0
  pmi_cmd : Vector (BitVec 32) 6 := .replicate 6 0
  reserved7 : BitVec 4 := 0
  reorder_slot_id : BitVec 6 := 0
  reorder_fwd_id : BitVec 6 := 0
  reserved6 : BitVec 12 := 0
  reorder_code : BitVec 4 := 0
  exp_seq_num : BitVec 12 := 0
  cur_seq_num : BitVec 12 := 0
  fr_type_subtype : BitVec 8 := 0
  msdu_size : BitVec 16 := 0
  sub_fr_id : BitVec 4 := 0
  proc_order : BitVec 4 := 0
  reserved9 : BitVec 4 := 0
  aef : BitVec 1 := 0
  lsf : BitVec 1 := 0
  esf : BitVec 1 := 0
  asf : BitVec 1 := 0
  deriving DecidableEq

/-- The PDU with these values in its fields. -/
def Pdu.ofFields (v : PduField → ℕ) : Pdu where
  dpu_fb := BitVec.ofNat 8 (v .dpu_fb)
  adu_fb := BitVec.ofNat 8 (v .adu_fb)
  pdu_id := BitVec.ofNat 16 (v .pdu_id)
  tail_pdu_idx := BitVec.ofNat 16 (v .tail_pdu_idx)
  head_pdu_idx := BitVec.ofNat 16 (v .head_pdu_idx)
  pdu_count := BitVec.ofNat 7 (v .pdu_count)
  mpdu_data_off := BitVec.ofNat 9 (v .mpdu_data_off)
  mpdu_header_off := BitVec.ofNat 8 (v .mpdu_header_off)
  mpdu_header_len := BitVec.ofNat 8 (v .mpdu_header_len)
  reserved4 := BitVec.ofNat 8 (v .reserved4)
  tid := BitVec.ofNat 4 (v .tid)
  bd_ssn := BitVec.ofNat 2 (v .bd_ssn)
  reserved3 := BitVec.ofNat 2 (v .reserved3)
  mpdu_len := BitVec.ofNat 16 (v .mpdu_len)

namespace RxBd

/-- `sizeof(struct wcn36xx_rx_bd)`. -/
def size : ℕ := 76

/-- The value of a field. -/
def get (bd : RxBd) : RxField → ℕ
  | .bdt => bd.bdt.toNat
  | .ft => bd.ft.toNat
  | .dpu_ne => bd.dpu_ne.toNat
  | .rx_key_id => bd.rx_key_id.toNat
  | .ub => bd.ub.toNat
  | .rmf => bd.rmf.toNat
  | .uma_bypass => bd.uma_bypass.toNat
  | .csr11 => bd.csr11.toNat
  | .reserved0 => bd.reserved0.toNat
  | .scan_learn => bd.scan_learn.toNat
  | .rx_ch => bd.rx_ch.toNat
  | .rtsf => bd.rtsf.toNat
  | .bsf => bd.bsf.toNat
  | .a2hf => bd.a2hf.toNat
  | .st_auf => bd.st_auf.toNat
  | .dpu_sign => bd.dpu_sign.toNat
  | .dpu_rf => bd.dpu_rf.toNat
  | .pdu f => bd.pdu.get f
  | .addr3 => bd.addr3.toNat
  | .addr2 => bd.addr2.toNat
  | .addr1 => bd.addr1.toNat
  | .dpu_desc_idx => bd.dpu_desc_idx.toNat
  | .rxp_flags => bd.rxp_flags.toNat
  | .rate_id => bd.rate_id.toNat
  | .phy_stat0 => bd.phy_stat0.toNat
  | .phy_stat1 => bd.phy_stat1.toNat
  | .rx_times => bd.rx_times.toNat
  | .pmi_cmd i => bd.pmi_cmd[i].toNat
  | .reserved7 => bd.reserved7.toNat
  | .reorder_slot_id => bd.reorder_slot_id.toNat
  | .reorder_fwd_id => bd.reorder_fwd_id.toNat
  | .reserved6 => bd.reserved6.toNat
  | .reorder_code => bd.reorder_code.toNat
  | .exp_seq_num => bd.exp_seq_num.toNat
  | .cur_seq_num => bd.cur_seq_num.toNat
  | .fr_type_subtype => bd.fr_type_subtype.toNat
  | .msdu_size => bd.msdu_size.toNat
  | .sub_fr_id => bd.sub_fr_id.toNat
  | .proc_order => bd.proc_order.toNat
  | .reserved9 => bd.reserved9.toNat
  | .aef => bd.aef.toNat
  | .lsf => bd.lsf.toNat
  | .esf => bd.esf.toNat
  | .asf => bd.asf.toNat

/-- The BD with these values in its fields. -/
def ofFields (v : RxField → ℕ) : RxBd where
  bdt := BitVec.ofNat 2 (v .bdt)
  ft := BitVec.ofNat 1 (v .ft)
  dpu_ne := BitVec.ofNat 1 (v .dpu_ne)
  rx_key_id := BitVec.ofNat 3 (v .rx_key_id)
  ub := BitVec.ofNat 1 (v .ub)
  rmf := BitVec.ofNat 1 (v .rmf)
  uma_bypass := BitVec.ofNat 1 (v .uma_bypass)
  csr11 := BitVec.ofNat 1 (v .csr11)
  reserved0 := BitVec.ofNat 1 (v .reserved0)
  scan_learn := BitVec.ofNat 1 (v .scan_learn)
  rx_ch := BitVec.ofNat 4 (v .rx_ch)
  rtsf := BitVec.ofNat 1 (v .rtsf)
  bsf := BitVec.ofNat 1 (v .bsf)
  a2hf := BitVec.ofNat 1 (v .a2hf)
  st_auf := BitVec.ofNat 1 (v .st_auf)
  dpu_sign := BitVec.ofNat 3 (v .dpu_sign)
  dpu_rf := BitVec.ofNat 8 (v .dpu_rf)
  pdu := .ofFields fun f => v (.pdu f)
  addr3 := BitVec.ofNat 8 (v .addr3)
  addr2 := BitVec.ofNat 8 (v .addr2)
  addr1 := BitVec.ofNat 8 (v .addr1)
  dpu_desc_idx := BitVec.ofNat 8 (v .dpu_desc_idx)
  rxp_flags := BitVec.ofNat 23 (v .rxp_flags)
  rate_id := BitVec.ofNat 9 (v .rate_id)
  phy_stat0 := BitVec.ofNat 32 (v .phy_stat0)
  phy_stat1 := BitVec.ofNat 32 (v .phy_stat1)
  rx_times := BitVec.ofNat 32 (v .rx_times)
  pmi_cmd := .ofFn fun i => BitVec.ofNat 32 (v (.pmi_cmd i))
  reserved7 := BitVec.ofNat 4 (v .reserved7)
  reorder_slot_id := BitVec.ofNat 6 (v .reorder_slot_id)
  reorder_fwd_id := BitVec.ofNat 6 (v .reorder_fwd_id)
  reserved6 := BitVec.ofNat 12 (v .reserved6)
  reorder_code := BitVec.ofNat 4 (v .reorder_code)
  exp_seq_num := BitVec.ofNat 12 (v .exp_seq_num)
  cur_seq_num := BitVec.ofNat 12 (v .cur_seq_num)
  fr_type_subtype := BitVec.ofNat 8 (v .fr_type_subtype)
  msdu_size := BitVec.ofNat 16 (v .msdu_size)
  sub_fr_id := BitVec.ofNat 4 (v .sub_fr_id)
  proc_order := BitVec.ofNat 4 (v .proc_order)
  reserved9 := BitVec.ofNat 4 (v .reserved9)
  aef := BitVec.ofNat 1 (v .aef)
  lsf := BitVec.ofNat 1 (v .lsf)
  esf := BitVec.ofNat 1 (v .esf)
  asf := BitVec.ofNat 1 (v .asf)

/-- The nineteen words of a BD. -/
def words (bd : RxBd) : List (BitVec 32) :=
  (bd.dpu_rf ++ bd.dpu_sign ++ bd.st_auf ++ bd.a2hf ++ bd.bsf ++ bd.rtsf ++ bd.rx_ch ++
    bd.scan_learn ++ bd.reserved0 ++ bd.csr11 ++ bd.uma_bypass ++ bd.rmf ++ bd.ub ++ bd.rx_key_id ++
    bd.dpu_ne ++ bd.ft ++ bd.bdt) ::
  bd.pdu.words ++
  [bd.dpu_desc_idx ++ bd.addr1 ++ bd.addr2 ++ bd.addr3,
   bd.rate_id ++ bd.rxp_flags,
   bd.phy_stat0, bd.phy_stat1, bd.rx_times,
   bd.pmi_cmd[0], bd.pmi_cmd[1], bd.pmi_cmd[2], bd.pmi_cmd[3], bd.pmi_cmd[4], bd.pmi_cmd[5],
   bd.reorder_code ++ bd.reserved6 ++ bd.reorder_fwd_id ++ bd.reorder_slot_id ++ bd.reserved7,
   bd.fr_type_subtype ++ bd.cur_seq_num ++ bd.exp_seq_num,
   bd.asf ++ bd.esf ++ bd.lsf ++ bd.aef ++ bd.reserved9 ++ bd.proc_order ++ bd.sub_fr_id ++
     bd.msdu_size]

/-- The image of a BD in big-endian order. -/
def beBytes (bd : RxBd) : List Byte := TxBd.bytesOfWords (bd.words.map cpuToBe32)

/-- `buff_to_be` over an image, and the bit fields of its words then. -/
def decode (bytes : List Byte) : RxBd :=
  ofFields (rxLayout.read (((leWords bytes).map cpuToBe32).map BitVec.toNat))

end RxBd

/-- A BD is determined by its fields. -/
theorem Pdu.ofFields_get (pdu : Pdu) : Pdu.ofFields pdu.get = pdu := by
  obtain ⟨_, _, _, _, _, _, _, _, _, _, _, _, _, _⟩ := pdu
  simp only [Pdu.ofFields, Pdu.get, BitVec.ofNat_toNat, BitVec.setWidth_eq]

/-- Fields that have their widths are those of the PDU with them. -/
theorem Pdu.get_ofFields {v : PduField → ℕ} (hv : ∀ f, v f < 2 ^ f.width) :
    (Pdu.ofFields v).get = v := by
  funext f
  cases f <;> exact (BitVec.toNat_ofNat _ _).trans (Nat.mod_eq_of_lt (hv _))

namespace RxBd

/-- A BD is determined by its fields. -/
theorem ofFields_get (bd : RxBd) : ofFields bd.get = bd := by
  ext1
  case pdu => exact bd.pdu.ofFields_get
  case pmi_cmd =>
    refine Vector.ext fun i hi => ?_
    simp only [ofFields, get, Vector.getElem_ofFn, BitVec.ofNat_toNat, BitVec.setWidth_eq]
    rfl
  all_goals simp only [ofFields, get, BitVec.ofNat_toNat, BitVec.setWidth_eq]

/-- Fields that have their widths are those of the BD with them. -/
theorem get_ofFields {v : RxField → ℕ} (hv : ∀ f, v f < 2 ^ f.width) : (ofFields v).get = v := by
  funext f
  cases f with
  | pdu f => exact congrFun (Pdu.get_ofFields fun f => hv (.pdu f)) f
  | pmi_cmd i =>
    simp only [get, ofFields, Fin.getElem_fin, Vector.getElem_ofFn, BitVec.toNat_ofNat]
    exact Nat.mod_eq_of_lt (hv (.pmi_cmd i))
  | _ => exact (BitVec.toNat_ofNat _ _).trans (Nat.mod_eq_of_lt (hv _))

/-- A value has the width of its field. -/
theorem get_lt (bd : RxBd) (f : RxField) : bd.get f < 2 ^ f.width := by
  cases f with
  | pdu f => exact bd.pdu.get_lt f
  | _ => exact BitVec.isLt _

/-- The words of a BD have its fields in their places. -/
theorem words_encode (bd : RxBd) : bd.words.map BitVec.toNat = rxLayout.encode bd.get := by
  have hpdu : bd.pdu.words.map BitVec.toNat = (PduField.words.map (List.map RxField.pdu)).map
      fun fs => pack (fs.map fun f => (f.width, bd.get f)) := by
    rw [Pdu.words_pack, List.map_map]
    congr 1
    funext fs
    simp only [Function.comp, List.map_map]
    rfl
  unfold words Layout.encode
  simp only [rxLayout, RxField.words, List.map_cons, List.map_append, List.cons_append, List.map_nil,
    hpdu, pack, toNat_append_add, get, RxField.width, Nat.mul_zero, Nat.add_zero]
  rfl

/-- A BD is read from the words of its image in big-endian order. -/
theorem decode_eq (bytes : List Byte) : decode bytes = ofFields (rxLayout.read (beWords bytes)) := by
  rw [decode, List.map_map, ← leWords_beWords]
  rfl

/-- An image is read as the BD that it is the image of. -/
theorem decode_beBytes (bd : RxBd) : decode bd.beBytes = bd := by
  have hwords : beWords bd.beBytes = rxLayout.encode bd.get := by
    have h := beWords_bytesOfWords bd.words []
    rw [List.append_nil] at h
    rw [beBytes, h, words_encode]
    exact List.append_nil _
  have hread : rxLayout.read (beWords bd.beBytes) = bd.get := by
    funext f
    rw [hwords]
    exact rxLayout.read_encode bd.get_lt f
  rw [decode_eq, hread, ofFields_get]

/-- An image of the size of a BD is the image of the BD that it is read as. -/
theorem beBytes_decode {bytes : List Byte} (h : bytes.length = size) :
    (decode bytes).beBytes = bytes := by
  have hlen : (beWords bytes).length = rxLayout.words.length := by
    rw [← leWords_beWords, List.length_map, length_leWords, h]
    rfl
  have hlt : ∀ n ∈ beWords bytes, n < 2 ^ 32 := by
    intro n hn
    rw [← leWords_beWords] at hn
    obtain ⟨w, -, rfl⟩ := List.mem_map.mp hn
    exact (cpuToBe32 w).isLt
  have hnat : (decode bytes).words.map BitVec.toNat =
      ((leWords bytes).map cpuToBe32).map BitVec.toNat := by
    rw [words_encode, decode_eq, get_ofFields (rxLayout.read_lt (beWords bytes)),
      rxLayout.encode_read hlen hlt, ← leWords_beWords, List.map_map]
    rfl
  have hwords : (decode bytes).words = (leWords bytes).map cpuToBe32 :=
    List.map_injective_iff.mpr (fun _ _ => BitVec.eq_of_toNat_eq) hnat
  have htwice : cpuToBe32 ∘ cpuToBe32 = id := funext cpuToBe32_cpuToBe32
  rw [beBytes, hwords, List.map_map, htwice, List.map_id]
  exact bytesOfWords_leWords bytes (by rw [h]; decide)

end RxBd

/-! ## The round trip -/

/-- A PDU stands at the same place in both BDs. -/
theorem off_pdu (f : PduField) : txLayout.off (.pdu f) = rxLayout.off (.pdu f) := by
  cases f <;> decide

/-- The words of a BD that is ready for the device. -/
theorem beWords_sentBytes (bd : TxBd) (rest : List Byte) :
    beWords (bd.sentBytes ++ rest) =
      txLayout.encode ({ bd with tx_bd_sign := 0xbdbdbdbd } : TxBd).get ++ beWords rest := by
  rw [TxBd.sentBytes, sentWords_eq, beWords_bytesOfWords, TxBd.words_encode]

/-- A field of a BD that is ready for the device, in the word and at the bit that the layout says. -/
theorem read_sentBytes (bd : TxBd) (rest : List Byte) (f : TxField) :
    txLayout.read (beWords (bd.sentBytes ++ rest)) f =
      if f = .tx_bd_sign then 0xbdbdbdbd else bd.get f := by
  obtain ⟨fs, hfs, -⟩ := txLayout.mem_word f
  have hword : txLayout.word f < (txLayout.encode
      ({ bd with tx_bd_sign := 0xbdbdbdbd } : TxBd).get).length := by
    rw [Layout.encode, List.length_map]
    exact (List.getElem?_eq_some_iff.mp hfs).1
  have hread : txLayout.read (beWords (bd.sentBytes ++ rest)) f =
      ({ bd with tx_bd_sign := 0xbdbdbdbd } : TxBd).get f := by
    rw [← txLayout.read_encode (TxBd.get_lt _) f, beWords_sentBytes]
    unfold Layout.read
    rw [List.getD_eq_getElem?_getD, List.getD_eq_getElem?_getD, List.getElem?_append_left hword]
  have hset := bd.get_set .tx_bd_sign 0xbdbdbdbd f
  rw [hread]
  exact hset

/-- The layout of the BDs, on both sides. -/
structure BdRoundTrip : Prop where
  /-- Every field of a BD that is sent is read back from its words in big-endian order. -/
  tx : ∀ (bd : TxBd) (f : TxField), f ≠ .tx_bd_sign →
    txLayout.read (beWords bd.sentBytes) f = bd.get f
  /-- The signature. -/
  sign : ∀ bd : TxBd, txLayout.read (beWords bd.sentBytes) .tx_bd_sign = 0xbdbdbdbd
  /-- A value that is too wide is reduced, and no other field changes. -/
  wide : ∀ (bd : TxBd) (f : TxField) (v : ℕ) (f' : TxField), f' ≠ .tx_bd_sign →
    txLayout.read (beWords (bd.set f v).sentBytes) f' =
      if f' = f then v % 2 ^ txLayout.width f else txLayout.read (beWords bd.sentBytes) f'
  /-- An RX BD is read from the image that the same encoding gives. -/
  rx : ∀ bd : RxBd, RxBd.decode bd.beBytes = bd
  /-- Every image is that of the RX BD that is read from it. -/
  image : ∀ bytes : List Byte, bytes.length = RxBd.size → (RxBd.decode bytes).beBytes = bytes
  /-- The PDU of a BD that is sent is read in the same way as that of an RX BD. -/
  pdu : ∀ (bd : TxBd) (rest : List Byte), (RxBd.decode (bd.sentBytes ++ rest)).pdu = bd.pdu

/-- The BDs make the round trip. -/
theorem bd_roundTrip : BdRoundTrip := by
  have htx : ∀ (bd : TxBd) (f : TxField), txLayout.read (beWords bd.sentBytes) f =
      if f = .tx_bd_sign then 0xbdbdbdbd else bd.get f := by
    intro bd f
    have h := read_sentBytes bd [] f
    rwa [List.append_nil] at h
  refine ⟨?_, ?_, ?_, RxBd.decode_beBytes, fun bytes => RxBd.beBytes_decode, ?_⟩
  · intro bd f hf
    rw [htx, if_neg hf]
  · intro bd
    rw [htx, if_pos rfl]
  · intro bd f v f' hf'
    rw [htx, htx, if_neg hf', if_neg hf', TxBd.get_set]
    rfl
  · intro bd rest
    have hpdu : (RxBd.decode (bd.sentBytes ++ rest)).pdu =
        .ofFields fun f => rxLayout.read (beWords (bd.sentBytes ++ rest)) (.pdu f) := by
      rw [RxBd.decode_eq]
      rfl
    have hget : (fun f => rxLayout.read (beWords (bd.sentBytes ++ rest)) (.pdu f)) =
        bd.pdu.get := by
      funext f
      have h := read_sentBytes bd rest (.pdu f)
      rw [if_neg (by simp), Layout.read, off_pdu] at h
      exact h
    rw [hpdu, hget, Pdu.ofFields_get]

end Wcn36xx
