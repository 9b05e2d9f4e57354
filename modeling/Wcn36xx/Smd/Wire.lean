import Wcn36xx.Smd.Residue
import Wcn36xx.Support.ByteLayout

/-!
# Reading a message

The layouts of the numbers in a message, in little-endian order. A structure that a request function
copies behind the header is what the layout of the structure reads there (`read_of_fixedMsg`).
-/

namespace Wcn36xx

open Support (ByteLayout)
open Support.ByteLayout (byte)

/-! ## Numbers -/

/-- The bytes of a number are those that it has been read from. -/
theorem extractLsb'_readLe {w : ℕ} (bs : List Byte) {k : ℕ} (hk : 8 * k + 8 ≤ w) :
    (BitVec.ofNat w (readLe bs)).extractLsb' (8 * k) 8 = bs.getD k 0 := by
  apply BitVec.eq_of_getLsbD_eq
  intro i hi
  have hw : 8 * k + i < w := by omega
  have hdiv : (8 * k + i) / 8 = k := by omega
  have hmod : (8 * k + i) % 8 = i := by omega
  rw [BitVec.getLsbD_extractLsb', decide_eq_true hi, Bool.true_and, BitVec.getLsbD_ofNat,
    decide_eq_true hw, Bool.true_and, testBit_readLe, hdiv, hmod, List.getD_eq_getElem?_getD]
  cases bs[k]? with
  | none => exact (BitVec.getLsbD_zero).symm
  | some b => rfl

/-- A 16-bit field. -/
def le16 : ByteLayout (BitVec 16) where
  size := 2
  write := leBytes16
  read bs := if bs.length = 2 then some (BitVec.ofNat 16 (readLe bs)) else none
  length_write := length_leBytes16
  read_iff bs w := by
    rw [Option.ite_none_right_eq_some, Option.some.injEq]
    constructor
    · rintro ⟨hlen, rfl⟩
      obtain ⟨b₀, b₁, rfl⟩ := List.length_eq_two.mp hlen
      unfold leBytes16
      rw [extractLsb'_readLe (k := 0) _ (by decide), extractLsb'_readLe (k := 1) _ (by decide)]
      rfl
    · rintro rfl
      rw [readLe_leBytes16, BitVec.ofNat_toNat, BitVec.setWidth_eq]
      exact ⟨rfl, rfl⟩

/-- A 32-bit field. -/
def le32 : ByteLayout (BitVec 32) where
  size := 4
  write := leBytes
  read bs := if bs.length = 4 then some (BitVec.ofNat 32 (readLe bs)) else none
  length_write := length_leBytes
  read_iff bs w := by
    rw [Option.ite_none_right_eq_some, Option.some.injEq]
    constructor
    · rintro ⟨hlen, rfl⟩
      obtain ⟨b₀, b₁, b₂, b₃, rfl⟩ := List.length_eq_four.mp hlen
      unfold leBytes
      rw [extractLsb'_readLe (k := 0) _ (by decide), extractLsb'_readLe (k := 1) _ (by decide),
        extractLsb'_readLe (k := 2) _ (by decide), extractLsb'_readLe (k := 3) _ (by decide)]
      rfl
    · rintro rfl
      rw [readLe_leBytes, BitVec.ofNat_toNat, BitVec.setWidth_eq]
      exact ⟨rfl, rfl⟩

/-- The bytes of a 16-bit field. -/
@[simp]
theorem write_le16 : le16.write = leBytes16 := rfl

/-- The bytes of a 32-bit field. -/
@[simp]
theorem write_le32 : le32.write = leBytes := rfl

/-- An array of bytes. -/
def bytes (n : ℕ) : ByteLayout (Vector Byte n) := byte.vector n

/-- The bytes of an array of bytes are those. -/
@[simp]
theorem write_bytes {n : ℕ} (v : Vector Byte n) : (bytes n).write v = v.toList :=
  List.flatMap_singleton' _

/-! ## A message of one structure -/

/-- A message that is a structure behind the header is composed, and read so. -/
theorem composes_read {α : Type} (L : ByteLayout α) {a : α} (req : HalReq)
    {compose : HalBuf → Option Composed} (hcompose : compose = fixedMsg req (L.write a))
    (hle : HalMsgHeader.size + L.size ≤ WCN36XX_HAL_BUF_SIZE) :
    ∃ msg, Composes compose msg ∧ msgType msg = req.reqType ∧
      L.read (msg.drop HalMsgHeader.size) = some a := by
  obtain ⟨-, hmsg⟩ := composes_fixedMsg req (L.write a) (by rw [L.length_write]; exact hle)
  rw [← hcompose] at hmsg
  exact ⟨_, hmsg, msgType_header _ _, L.read_write a⟩

/-- A message that is composed has been sent when the call ends. -/
theorem Composes.sent {r : SmdRequest} {msg : List Byte} (hmsg : Composes r.fn.compose msg)
    {fw : Firmware} {smd smd' : Smd} {result : RspResult}
    (h : smdCall fw (.request r) smd = some (smd', result)) : smd'.sent = smd.sent ++ [msg] := by
  have hsent := hmsg.sends fw smd
  rw [h, Option.map_some] at hsent
  exact sendAll_singleton hsent.symm

/-- A structure that has been sent is read behind the header. -/
theorem read_of_fixedMsg {α : Type} (L : ByteLayout α) {a : α} (req : HalReq) {r : SmdRequest}
    (hcompose : r.fn.compose = fixedMsg req (L.write a))
    (hle : HalMsgHeader.size + L.size ≤ WCN36XX_HAL_BUF_SIZE) {fw : Firmware} {smd smd' : Smd}
    {result : RspResult} (h : smdCall fw (.request r) smd = some (smd', result)) :
    ∃ msg, smd'.sent = smd.sent ++ [msg] ∧ msgType msg = req.reqType ∧
      L.read (msg.drop HalMsgHeader.size) = some a := by
  obtain ⟨msg, hmsg, htype, hread⟩ := composes_read L req hcompose hle
  exact ⟨msg, hmsg.sent h, htype, hread⟩

/-- There is no fault when the firmware's responses fit `hal_buf`. -/
theorem smdCall_isSome {fw : Firmware} (hfw : FitsHalBuf fw) {r : SmdRequest} (h : r.InBounds)
    (smd : Smd) : (smdCall fw (.request r) smd).isSome := by
  obtain ⟨msgs, -, hmsgs⟩ := request_sends fw h
  have hsome := sendAll_isSome hfw msgs smd.sent
  rwa [← hmsgs, Option.isSome_map] at hsome

/-- An acknowledgement fits. -/
theorem fitsHalBuf_ackFirmware : FitsHalBuf ackFirmware := by
  rintro sent rsp hrsp
  cases hrsp
  decide

end Wcn36xx
