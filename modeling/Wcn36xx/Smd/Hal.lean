import Wcn36xx.Kernel

/-!
# HAL messages

The driver talks to the firmware in messages of `hal.h`: packed little-endian structures behind a common
header. A request is composed in `hal_buf`, sent with its `header.len` bytes, and the response
overwrites `hal_buf`. `HalBuf` is that buffer of `WCN36XX_HAL_BUF_SIZE` bytes; access beyond its end
is a fault, `none`.
-/

namespace Wcn36xx

/-- `WCN36XX_HAL_BUF_SIZE`. -/
def WCN36XX_HAL_BUF_SIZE : ℕ := 4096
/-- `WCN36XX_HAL_MSG_VERSION0`. -/
def WCN36XX_HAL_MSG_VERSION0 : BitVec 16 := 0
/-- `WCN36XX_HAL_DOWNLOAD_NV_REQ`. -/
def WCN36XX_HAL_DOWNLOAD_NV_REQ : BitVec 16 := 55
/-- `WCN36XX_FW_MSG_RESULT_SUCCESS`. -/
def WCN36XX_FW_MSG_RESULT_SUCCESS : ℕ := 0

/-! ## Little-endian fields -/

/-- The two bytes of a 16-bit field. -/
def leBytes16 (w : BitVec 16) : List Byte := [w.extractLsb' 0 8, w.extractLsb' 8 8]

/-- The number that bytes in little-endian order stand for. -/
def readLe : List Byte → ℕ
  | [] => 0
  | b :: bs => b.toNat + 256 * readLe bs

/-- The field of `n` bytes at an offset of a packed structure. -/
def field (msg : List Byte) (offset n : ℕ) : ℕ := readLe ((msg.drop offset).take n)

/-- A 16-bit field reads back. -/
@[simp]
theorem readLe_leBytes16 (w : BitVec 16) : readLe (leBytes16 w) = w.toNat := by
  have hlt := w.isLt
  simp only [leBytes16, readLe, BitVec.extractLsb'_toNat, Nat.shiftRight_eq_div_pow]
  omega

/-- A 32-bit field reads back. -/
@[simp]
theorem readLe_leBytes (w : BitVec 32) : readLe (leBytes w) = w.toNat := by
  have hlt := w.isLt
  simp only [leBytes, readLe, BitVec.extractLsb'_toNat, Nat.shiftRight_eq_div_pow]
  omega

/-- A 16-bit field is two bytes. -/
@[simp]
theorem length_leBytes16 (w : BitVec 16) : (leBytes16 w).length = 2 := rfl

/-- A 32-bit field is four bytes. -/
@[simp]
theorem length_leBytes (w : BitVec 32) : (leBytes w).length = 4 := rfl

/-- A bit of a number in little-endian order is a bit of one of its bytes. -/
theorem testBit_readLe (bs : List Byte) (i : ℕ) :
    (readLe bs).testBit i = (bs[i / 8]?).any fun b => b.getLsbD (i % 8) := by
  induction bs generalizing i with
  | nil => exact Nat.zero_testBit i
  | cons b bs ih =>
    have hshape : readLe (b :: bs) = 2 ^ 8 * readLe bs + b.toNat := Nat.add_comm _ _
    rw [hshape, Nat.testBit_two_pow_mul_add _ b.isLt]
    split_ifs with hi
    · rw [Nat.div_eq_of_lt hi, Nat.mod_eq_of_lt hi]
      rfl
    · rw [ih, show i / 8 = (i - 8) / 8 + 1 by omega, List.getElem?_cons_succ,
        show (i - 8) % 8 = i % 8 by omega]

/-- A field that is stored between others reads back. -/
theorem field_append (pre bs post : List Byte) {offset n : ℕ} (hpre : pre.length = offset)
    (hbs : bs.length = n) : field (pre ++ (bs ++ post)) offset n = readLe bs := by
  rw [field, ← hpre, List.drop_left, ← hbs, List.take_left]

/-! ## The header and the buffer -/

/-- `struct wcn36xx_hal_msg_header`. -/
structure HalMsgHeader where
  msg_type : BitVec 16
  msg_version : BitVec 16
  len : BitVec 32

namespace HalMsgHeader

/-- `sizeof(struct wcn36xx_hal_msg_header)`. -/
def size : ℕ := 8

/-- The bytes of a header. -/
def bytes (hdr : HalMsgHeader) : List Byte :=
  leBytes16 hdr.msg_type ++ leBytes16 hdr.msg_version ++ leBytes hdr.len

end HalMsgHeader

/-- `INIT_HAL_MSG` of a message of `size` bytes, as far as its header goes. -/
def initHalMsg (type : BitVec 16) (size : ℕ) : HalMsgHeader where
  msg_type := type
  msg_version := WCN36XX_HAL_MSG_VERSION0
  len := BitVec.ofNat 32 size

/-- `hal_buf`. -/
structure HalBuf where
  bytes : List Byte
  length_eq : bytes.length = WCN36XX_HAL_BUF_SIZE

namespace HalBuf

/-- Zeros that fill the buffer. -/
theorem length_zero : (List.replicate WCN36XX_HAL_BUF_SIZE (0 : Byte)).length = WCN36XX_HAL_BUF_SIZE :=
  List.length_replicate

/-- Copy bytes into the buffer. -/
def write (buf : HalBuf) (offset : ℕ) (bs : List Byte) : Option HalBuf :=
  if h : offset + bs.length ≤ WCN36XX_HAL_BUF_SIZE then
    some
      { bytes := buf.bytes.take offset ++ bs ++ buf.bytes.drop (offset + bs.length)
        length_eq := by
          have hlen := buf.length_eq
          simp only [List.length_append, List.length_take, List.length_drop]
          omega }
  else none

/-- The first bytes of the buffer. -/
def read (buf : HalBuf) (len : ℕ) : Option (List Byte) :=
  if len ≤ WCN36XX_HAL_BUF_SIZE then some (buf.bytes.take len) else none

/-- A copy that fits. -/
theorem write_of_le (buf : HalBuf) (offset : ℕ) (bs : List Byte)
    (h : offset + bs.length ≤ WCN36XX_HAL_BUF_SIZE) :
    ∃ buf', buf.write offset bs = some buf' ∧
      buf'.bytes = buf.bytes.take offset ++ bs ++ buf.bytes.drop (offset + bs.length) :=
  ⟨_, dif_pos h, rfl⟩

/-- A copy that does not fit is a fault. -/
theorem write_of_gt (buf : HalBuf) {offset : ℕ} {bs : List Byte}
    (h : WCN36XX_HAL_BUF_SIZE < offset + bs.length) : buf.write offset bs = none :=
  dif_neg (Nat.not_le.mpr h)

/-- A message that is composed of a fixed part and a body behind it is sent as it was composed. -/
theorem compose (buf : HalBuf) (hdr body : List Byte)
    (h : hdr.length + body.length ≤ WCN36XX_HAL_BUF_SIZE) :
    ∃ buf₁ buf₂, buf.write 0 hdr = some buf₁ ∧ buf₁.write hdr.length body = some buf₂ ∧
      buf₂.read (hdr.length + body.length) = some (hdr ++ body) := by
  obtain ⟨buf₁, h₁, hbytes₁⟩ := buf.write_of_le 0 hdr (by omega)
  obtain ⟨buf₂, h₂, hbytes₂⟩ := buf₁.write_of_le hdr.length body h
  refine ⟨buf₁, buf₂, h₁, h₂, ?_⟩
  have htake : buf₁.bytes.take hdr.length = hdr := by
    rw [hbytes₁, List.take_zero, List.nil_append, List.take_left]
  rw [read, if_pos h, hbytes₂, htake, ← List.length_append, List.take_left]

end HalBuf

/-! ## Requests and responses -/

/-- What becomes of a request. -/
inductive TxOutcome where
  /-- `ctrl_ops->tx` returns an error. -/
  | txError (ret : ℤ) (ne : ret ≠ 0)
  /-- No response comes within `HAL_MSG_TIMEOUT`. -/
  | timeout
  /-- `wcn36xx_smd_rsp_process` gets this response. -/
  | response (buf : List Byte)

/-- The firmware and the transport: what becomes of the last request, given all that were sent. -/
abbrev Firmware := List (List Byte) → TxOutcome

/-- `struct wcn36xx`, as far as a request needs it. -/
structure Smd where
  hal_buf : HalBuf
  hal_rsp_len : ℕ := 0
  /-- `wcn->nv->data` when `wcn->nv` is not NULL. -/
  nv : Option (List Byte) := none
  /-- The requests that have been sent, oldest first. -/
  sent : List (List Byte) := []

/-- `wcn36xx_smd_send_and_wait`. A response has gone through `wcn36xx_smd_rsp_process`. -/
def smdSendAndWait (fw : Firmware) (smd : Smd) (len : ℕ) : Option (Smd × ℤ) := do
  let msg ← smd.hal_buf.read len
  let smd := { smd with sent := smd.sent ++ [msg] }
  match fw smd.sent with
  | .txError ret _ => return (smd, ret)
  | .timeout => return (smd, -ETIME)
  | .response buf =>
    let hal_buf ← smd.hal_buf.write 0 buf
    return ({ smd with hal_buf := hal_buf, hal_rsp_len := buf.length }, 0)

/-- `wcn36xx_smd_rsp_status_check`. -/
def smdRspStatusCheck (buf : List Byte) (len : ℕ) : ℤ :=
  if len < HalMsgHeader.size + 4 then - EIO
  else
    let status := field buf HalMsgHeader.size 4
    if WCN36XX_FW_MSG_RESULT_SUCCESS ≠ status then (BitVec.ofNat 32 status).toInt else 0

/-- The firmware acknowledges every request: its response fits the buffer and has the status of
success. -/
def Acknowledges (fw : Firmware) : Prop :=
  ∀ sent, ∃ buf, fw sent = .response buf ∧ HalMsgHeader.size + 4 ≤ buf.length ∧
    buf.length ≤ WCN36XX_HAL_BUF_SIZE ∧ field buf HalMsgHeader.size 4 = 0

/-- A request that is acknowledged. -/
theorem Acknowledges.sendAndWait {fw : Firmware} (hfw : Acknowledges fw) (smd : Smd) {len : ℕ}
    {msg : List Byte} (hread : smd.hal_buf.read len = some msg) :
    ∃ hal_buf hal_rsp_len,
      smdSendAndWait fw smd len = some ({ smd with
        hal_buf := hal_buf, hal_rsp_len := hal_rsp_len, sent := smd.sent ++ [msg] }, 0) ∧
      smdRspStatusCheck hal_buf.bytes hal_rsp_len = 0 := by
  obtain ⟨buf, hresp, hmin, hmax, hstatus⟩ := hfw (smd.sent ++ [msg])
  obtain ⟨hal_buf, hwrite, hbytes⟩ := smd.hal_buf.write_of_le 0 buf (by omega)
  refine ⟨hal_buf, buf.length, ?_, ?_⟩
  · simp only [smdSendAndWait, hread, hresp, hwrite, Option.bind_eq_bind, Option.bind_some,
      Option.pure_def]
  · have hfield : field hal_buf.bytes HalMsgHeader.size 4 = 0 := by
      rw [← hstatus, hbytes, List.take_zero, List.nil_append, field, field,
        List.drop_append_of_le_length (by omega), List.take_append_of_le_length]
      rw [List.length_drop]
      omega
    unfold smdRspStatusCheck
    rw [if_neg (by omega)]
    dsimp only
    rw [hfield, if_neg (by decide)]

end Wcn36xx
