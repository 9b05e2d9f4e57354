import Wcn36xx.Smd.Hal
import Wcn36xx.Support.Chunks

/-!
# Downloading the NV image

`wcn36xx_smd_load_nv` sends the NV file behind its 4-byte prefix in fragments of
`WCN36XX_NV_FRAGMENT_SIZE` bytes. The position in the file is a `u16`, the number of bytes left an
`int`, and the size of the file a `size_t`. `loadNv_iff` says for which sizes the firmware gets the
image: from 4 bytes, where the image is empty, to 22 fragments, after which the position wraps.
-/

namespace Wcn36xx

open Support (Chunks)

/-- `WCN36XX_NV_FRAGMENT_SIZE`. -/
def WCN36XX_NV_FRAGMENT_SIZE : ℕ := 3072

/-- The offset of `table` in `struct nv_data`. -/
def NvData.tableOffset : ℕ := 4

/-- `struct wcn36xx_hal_nv_img_download_req_msg`. -/
structure NvImgDownloadReqMsg where
  header : HalMsgHeader
  frag_number : BitVec 16 := 0
  last_fragment : BitVec 16 := 0
  nv_img_buffer_size : BitVec 32 := 0

namespace NvImgDownloadReqMsg

/-- `sizeof(struct wcn36xx_hal_nv_img_download_req_msg)`. -/
def size : ℕ := 16

/-- The bytes of the message, without the fragment behind it. -/
def bytes (msg : NvImgDownloadReqMsg) : List Byte :=
  msg.header.bytes ++ leBytes16 msg.frag_number ++ leBytes16 msg.last_fragment ++
    leBytes msg.nv_img_buffer_size

/-- The message is `sizeof(struct wcn36xx_hal_nv_img_download_req_msg)` bytes long. -/
@[simp]
theorem length_bytes (msg : NvImgDownloadReqMsg) : msg.bytes.length = size := rfl

end NvImgDownloadReqMsg

/-- `fw_bytes_left`: `wcn->nv->size - fm_offset - 4` as a 32-bit `int`. -/
def fwBytesLeft (nv_size : ℕ) (fm_offset : BitVec 16) : ℤ :=
  (BitVec.ofNat 32 nv_size - fm_offset.setWidth 32 - 4).toInt

/-- The fields of the message that depend on how much is left. -/
def nvFragmentMsg (msg_body : NvImgDownloadReqMsg) (fw_bytes_left : ℤ) : NvImgDownloadReqMsg :=
  if fw_bytes_left > WCN36XX_NV_FRAGMENT_SIZE then
    { msg_body with
      last_fragment := 0, nv_img_buffer_size := BitVec.ofNat 32 WCN36XX_NV_FRAGMENT_SIZE }
  else
    -- Do not forget update general message len.
    { msg_body with
      header := { msg_body.header with
        len := BitVec.ofInt 32 (NvImgDownloadReqMsg.size + fw_bytes_left) }
      last_fragment := 1, nv_img_buffer_size := BitVec.ofInt 32 fw_bytes_left }

/-- Read bytes of the NV file; beyond its end that is a fault. -/
def readNv (nv : List Byte) (offset n : ℕ) : Option (List Byte) :=
  if offset + n ≤ nv.length then some ((nv.drop offset).take n) else none

/-- The `do … while` loop of `wcn36xx_smd_load_nv`, with at most `fuel` iterations. -/
def smdLoadNvLoop (fw : Firmware) (nv : List Byte) :
    (fuel : ℕ) → NvImgDownloadReqMsg → (fm_offset : BitVec 16) → Smd → Option (Smd × ℤ)
  | 0, _, _, _ => none
  | fuel + 1, msg_body, fm_offset, smd => do
    let msg_body := nvFragmentMsg msg_body (fwBytesLeft nv.length fm_offset)
    -- Add load NV request message header, then the NV body itself.
    let hal_buf ← smd.hal_buf.write 0 msg_body.bytes
    let body ← readNv nv (NvData.tableOffset + fm_offset.toNat) msg_body.nv_img_buffer_size.toNat
    let hal_buf ← hal_buf.write NvImgDownloadReqMsg.size body
    let (smd, ret) ← smdSendAndWait fw { smd with hal_buf := hal_buf } msg_body.header.len.toNat
    if ret ≠ 0 then return (smd, ret)
    else
      let ret := smdRspStatusCheck smd.hal_buf.bytes smd.hal_rsp_len
      if ret ≠ 0 then return (smd, ret)
      else
        let msg_body := { msg_body with frag_number := msg_body.frag_number + 1 }
        let fm_offset := fm_offset + BitVec.ofNat 16 WCN36XX_NV_FRAGMENT_SIZE
        if msg_body.last_fragment ≠ 1 then smdLoadNvLoop fw nv fuel msg_body fm_offset smd
        else return (smd, 0)

/-- The message before the loop. -/
def nvMsgInit : NvImgDownloadReqMsg where
  header := initHalMsg WCN36XX_HAL_DOWNLOAD_NV_REQ
    (NvImgDownloadReqMsg.size + WCN36XX_NV_FRAGMENT_SIZE)

/-- `wcn36xx_smd_load_nv`; `request_firmware` is what that function comes to when it is called: an
error, or the file. -/
def smdLoadNv (fw : Firmware) (request_firmware : ℤ ⊕ List Byte) (fuel : ℕ) (smd : Smd) :
    Option (Smd × ℤ) :=
  match smd.nv, request_firmware with
  | some nv, _ => smdLoadNvLoop fw nv fuel nvMsgInit 0 smd
  | none, .inl ret => some (smd, ret)
  | none, .inr nv => smdLoadNvLoop fw nv fuel nvMsgInit 0 { smd with nv := some nv }

/-- The file that `wcn36xx_smd_load_nv` works on. -/
def nvFile (smd : Smd) (request_firmware : ℤ ⊕ List Byte) : Option (List Byte) :=
  smd.nv <|> request_firmware.getRight?

/-! ## What the firmware should get -/

/-- The fragment of a message: what comes behind the fixed part. -/
def nvFragment (msg : List Byte) : List Byte := msg.drop NvImgDownloadReqMsg.size

/-- A message carries fragment number `k`, and is the last one or not. -/
structure NvMessage (k : ℕ) (last : Bool) (msg : List Byte) : Prop where
  /-- `msg_type`. -/
  type : field msg 0 2 = WCN36XX_HAL_DOWNLOAD_NV_REQ.toNat
  /-- `frag_number`. -/
  number : field msg 8 2 = k
  /-- `last_fragment`. -/
  last_fragment : field msg 10 2 = if last then 1 else 0
  /-- `nv_img_buffer_size`. -/
  size : field msg 12 4 = (nvFragment msg).length
  size_le : (nvFragment msg).length ≤ WCN36XX_NV_FRAGMENT_SIZE
  /-- `header.len`. -/
  len : field msg 4 4 = NvImgDownloadReqMsg.size + (nvFragment msg).length
  /-- `header.len` bytes are sent. -/
  length : msg.length = NvImgDownloadReqMsg.size + (nvFragment msg).length

/-- The requests are numbered from 0, exactly the final one is marked as the last, each is framed as
it should be, and together they carry the image. -/
structure NvReassembles (image : List Byte) (sent : List (List Byte)) : Prop where
  messages : ∀ k msg, sent[k]? = some msg → NvMessage k (decide (k + 1 = sent.length)) msg
  image : (sent.map nvFragment).flatten = image

/-- What `wcn36xx_smd_load_nv` should do with a file: send the image behind the prefix, or return an error
without sending anything when the file has no room for the prefix. -/
def LoadsNv (fw : Firmware) (request_firmware : ℤ ⊕ List Byte) (smd : Smd) (nv : List Byte) : Prop :=
  if NvData.tableOffset ≤ nv.length then
    ∃ fuel smd' msgs, smdLoadNv fw request_firmware fuel smd = some (smd', 0) ∧
      smd'.sent = smd.sent ++ msgs ∧ NvReassembles (nv.drop NvData.tableOffset) msgs
  else
    ∃ fuel smd' ret, smdLoadNv fw request_firmware fuel smd = some (smd', ret) ∧ ret ≠ 0 ∧
      smd'.sent = smd.sent

/-! ## The arithmetic of a fragment -/

/-- The number of bytes left is computed modulo `2 ^ 32`. -/
theorem fwBytesLeft_eq (nv_size : ℕ) (fm_offset : BitVec 16) :
    fwBytesLeft nv_size fm_offset = ((nv_size : ℤ) - fm_offset.toNat - 4).bmod (2 ^ 32) := by
  have hoff : (fm_offset.setWidth 32).toNat = fm_offset.toNat := by
    have := fm_offset.isLt
    rw [BitVec.toNat_setWidth]
    omega
  have hfour : (4 : BitVec 32).toInt = 4 := by decide
  rw [fwBytesLeft, BitVec.toInt_sub, BitVec.toInt_sub, BitVec.toInt_ofNat', hfour,
    BitVec.toInt_eq_toNat_bmod (fm_offset.setWidth 32), hoff, Int.bmod_sub_bmod]
  rw [Int.sub_sub, Int.add_comm, ← Int.sub_sub, Int.sub_bmod_bmod, Int.sub_sub, Int.bmod_sub_bmod,
    Int.add_comm, ← Int.sub_sub]

/-- Inside a file of less than 2 GiB it is what is left, and negative when the file is too short. -/
theorem fwBytesLeft_of_lt {nv_size : ℕ} (hlt : nv_size < 2 ^ 31) (fm_offset : BitVec 16) :
    fwBytesLeft nv_size fm_offset = (nv_size : ℤ) - fm_offset.toNat - 4 := by
  have := fm_offset.isLt
  rw [fwBytesLeft_eq, Int.bmod_eq_of_le (by omega) (by omega)]

/-- What is left is in the file, for a file of any size. -/
theorem fwBytesLeft_le {nv_size : ℕ} {fm_offset : BitVec 16}
    (h : 0 ≤ fwBytesLeft nv_size fm_offset) :
    NvData.tableOffset + fm_offset.toNat + (fwBytesLeft nv_size fm_offset).toNat ≤ nv_size := by
  have hoff := fm_offset.isLt
  have htab : NvData.tableOffset = 4 := rfl
  rcases Nat.lt_or_ge nv_size (2 ^ 31) with hlt | hge
  · rw [fwBytesLeft_of_lt hlt] at h ⊢
    omega
  · -- The part that the conversion to `int` drops is not negative.
    rw [fwBytesLeft_eq] at h ⊢
    have hle : ((nv_size : ℤ) - fm_offset.toNat - 4).bmod (2 ^ 32) ≤
        (nv_size : ℤ) - fm_offset.toNat - 4 := by
      rw [Int.bmod_def]
      split_ifs <;> omega
    omega

/-- A message whose fields fit its fragment. -/
theorem nvMessage_of {msg : NvImgDownloadReqMsg} {chunk : List Byte} {last : Bool}
    (htype : msg.header.msg_type = WCN36XX_HAL_DOWNLOAD_NV_REQ)
    (hlast : msg.last_fragment.toNat = if last then 1 else 0)
    (hsize : msg.nv_img_buffer_size.toNat = chunk.length)
    (hle : chunk.length ≤ WCN36XX_NV_FRAGMENT_SIZE)
    (hlen : msg.header.len.toNat = NvImgDownloadReqMsg.size + chunk.length) :
    NvMessage msg.frag_number.toNat last (msg.bytes ++ chunk) := by
  have hfrag : nvFragment (msg.bytes ++ chunk) = chunk := by
    rw [nvFragment, ← msg.length_bytes, List.drop_left]
  have hbytes : msg.bytes ++ chunk = leBytes16 msg.header.msg_type ++
      (leBytes16 msg.header.msg_version ++ (leBytes msg.header.len ++ (leBytes16 msg.frag_number ++
        (leBytes16 msg.last_fragment ++ (leBytes msg.nv_img_buffer_size ++ chunk))))) := by
    simp only [NvImgDownloadReqMsg.bytes, HalMsgHeader.bytes, List.append_assoc]
  refine ⟨?_, ?_, ?_, ?_, by rw [hfrag]; exact hle, ?_, ?_⟩
  · rw [hbytes, ← htype, ← readLe_leBytes16]
    exact field_append [] (leBytes16 msg.header.msg_type) _ rfl rfl
  · rw [hbytes, ← readLe_leBytes16]
    exact field_append (leBytes16 _ ++ leBytes16 _ ++ leBytes _) _ _ rfl rfl
  · rw [hbytes, ← hlast, ← readLe_leBytes16]
    exact field_append (leBytes16 _ ++ leBytes16 _ ++ leBytes _ ++ leBytes16 _) _ _ rfl rfl
  · rw [hbytes, ← hbytes, hfrag, ← hsize, ← readLe_leBytes, hbytes]
    exact field_append (leBytes16 _ ++ leBytes16 _ ++ leBytes _ ++ leBytes16 _ ++ leBytes16 _) _ _
      rfl rfl
  · rw [hfrag, ← hlen, ← readLe_leBytes, hbytes]
    exact field_append (leBytes16 _ ++ leBytes16 _) _ _ rfl rfl
  · rw [hfrag, List.length_append, NvImgDownloadReqMsg.length_bytes]

/-! ## The message of a fragment -/

/-- Before the last fragment the general length of the message is left as it is. -/
theorem nvFragmentMsg_more (msg : NvImgDownloadReqMsg) {left : ℤ}
    (h : (WCN36XX_NV_FRAGMENT_SIZE : ℤ) < left) :
    (nvFragmentMsg msg left).nv_img_buffer_size.toNat = WCN36XX_NV_FRAGMENT_SIZE ∧
      (nvFragmentMsg msg left).last_fragment = 0 ∧ (nvFragmentMsg msg left).header = msg.header := by
  rw [nvFragmentMsg, if_pos h]
  exact ⟨rfl, rfl, rfl⟩

/-- The last fragment is what is left. -/
theorem nvFragmentMsg_last (msg : NvImgDownloadReqMsg) {left : ℤ} (hpos : 0 ≤ left)
    (h : left ≤ WCN36XX_NV_FRAGMENT_SIZE) :
    (nvFragmentMsg msg left).nv_img_buffer_size.toNat = left.toNat ∧
      (nvFragmentMsg msg left).last_fragment = 1 ∧
      (nvFragmentMsg msg left).header.len.toNat = NvImgDownloadReqMsg.size + left.toNat := by
  have hfs : WCN36XX_NV_FRAGMENT_SIZE = 3072 := rfl
  have hms : NvImgDownloadReqMsg.size = 16 := rfl
  rw [nvFragmentMsg, if_neg (not_lt.mpr h)]
  simp only [BitVec.toNat_ofInt, true_and]
  omega

/-- The position after one more fragment. -/
theorem ofNat_add_fragment (k : ℕ) : BitVec.ofNat 16 (k * WCN36XX_NV_FRAGMENT_SIZE) +
    BitVec.ofNat 16 WCN36XX_NV_FRAGMENT_SIZE =
      BitVec.ofNat 16 ((k + 1) * WCN36XX_NV_FRAGMENT_SIZE) := by
  rw [← BitVec.ofNat_add, Nat.add_mul, Nat.one_mul]

/-- Reading a fragment that is in the file. -/
theorem readNv_of_le (nv : List Byte) {offset n : ℕ} (h : offset + n ≤ nv.length) :
    readNv nv offset n = some ((nv.drop offset).take n) ∧
      ((nv.drop offset).take n).length = n := by
  refine ⟨if_pos h, ?_⟩
  rw [List.length_take, List.length_drop]
  omega

/-- With more than a fragment left, the file has a whole one. -/
theorem readNv_more {nv : List Byte} {fm_offset : BitVec 16}
    (h : (WCN36XX_NV_FRAGMENT_SIZE : ℤ) < fwBytesLeft nv.length fm_offset) :
    readNv nv (NvData.tableOffset + fm_offset.toNat) WCN36XX_NV_FRAGMENT_SIZE =
        some ((nv.drop (NvData.tableOffset + fm_offset.toNat)).take WCN36XX_NV_FRAGMENT_SIZE) ∧
      ((nv.drop (NvData.tableOffset + fm_offset.toNat)).take WCN36XX_NV_FRAGMENT_SIZE).length =
        WCN36XX_NV_FRAGMENT_SIZE := by
  have hpos : 0 ≤ fwBytesLeft nv.length fm_offset := by omega
  have hin := fwBytesLeft_le hpos
  exact readNv_of_le nv (by omega)

/-! ## One iteration -/

section Iteration

variable {fw : Firmware} {nv : List Byte} {fm_offset : BitVec 16} (msg : NvImgDownloadReqMsg)
  (smd : Smd) (fuel : ℕ)

/-- The message of one iteration goes out as it was composed, and is acknowledged. -/
theorem smdLoadNvLoop_send (hfw : Acknowledges fw) {m : NvImgDownloadReqMsg} {chunk : List Byte}
    (hm : nvFragmentMsg msg (fwBytesLeft nv.length fm_offset) = m)
    (hread : readNv nv (NvData.tableOffset + fm_offset.toNat) m.nv_img_buffer_size.toNat =
      some chunk)
    (hle : chunk.length ≤ WCN36XX_NV_FRAGMENT_SIZE)
    (hlen : m.header.len.toNat = NvImgDownloadReqMsg.size + chunk.length) :
    ∃ smd', smd'.sent = smd.sent ++ [m.bytes ++ chunk] ∧
      smdLoadNvLoop fw nv (fuel + 1) msg fm_offset smd =
        if m.last_fragment ≠ 1 then
          smdLoadNvLoop fw nv fuel { m with frag_number := m.frag_number + 1 }
            (fm_offset + BitVec.ofNat 16 WCN36XX_NV_FRAGMENT_SIZE) smd'
        else some (smd', 0) := by
  have hsize : NvImgDownloadReqMsg.size + WCN36XX_NV_FRAGMENT_SIZE ≤ WCN36XX_HAL_BUF_SIZE := by
    decide
  obtain ⟨buf₁, buf₂, h₁, h₂, hsent⟩ := smd.hal_buf.compose m.bytes chunk
    (by rw [NvImgDownloadReqMsg.length_bytes]; omega)
  rw [NvImgDownloadReqMsg.length_bytes] at h₂ hsent
  obtain ⟨hal_buf, hal_rsp_len, hrun, hstatus⟩ :=
    hfw.sendAndWait { smd with hal_buf := buf₂ } hsent
  refine ⟨{ smd with hal_buf := hal_buf, hal_rsp_len := hal_rsp_len
                     sent := smd.sent ++ [m.bytes ++ chunk] }, rfl, ?_⟩
  simp only [smdLoadNvLoop, hm, h₁, hread, h₂, hlen, hrun, hstatus, Option.bind_eq_bind,
    Option.bind_some, ne_eq, not_true_eq_false, if_false, Option.pure_def]

/-- An iteration with more than a fragment left. -/
theorem smdLoadNvLoop_more (hfw : Acknowledges fw)
    (hleft : (WCN36XX_NV_FRAGMENT_SIZE : ℤ) < fwBytesLeft nv.length fm_offset)
    (hlen : msg.header.len.toNat = NvImgDownloadReqMsg.size + WCN36XX_NV_FRAGMENT_SIZE) :
    ∃ m chunk smd', m = nvFragmentMsg msg (fwBytesLeft nv.length fm_offset) ∧
      chunk = (nv.drop (NvData.tableOffset + fm_offset.toNat)).take WCN36XX_NV_FRAGMENT_SIZE ∧
      chunk.length = WCN36XX_NV_FRAGMENT_SIZE ∧ smd'.sent = smd.sent ++ [m.bytes ++ chunk] ∧
      smdLoadNvLoop fw nv (fuel + 1) msg fm_offset smd =
        smdLoadNvLoop fw nv fuel { m with frag_number := m.frag_number + 1 }
          (fm_offset + BitVec.ofNat 16 WCN36XX_NV_FRAGMENT_SIZE) smd' := by
  obtain ⟨m, hm⟩ : ∃ m, m = nvFragmentMsg msg (fwBytesLeft nv.length fm_offset) := ⟨_, rfl⟩
  obtain ⟨hn, hlast, hheader⟩ := nvFragmentMsg_more msg hleft
  rw [← hm] at hn hlast hheader
  obtain ⟨hread, hclen⟩ := readNv_more hleft
  obtain ⟨smd', hsent, hrun⟩ := smdLoadNvLoop_send msg smd fuel hfw hm.symm (by rw [hn]; exact hread)
    hclen.le (by rw [hclen, hheader, hlen])
  refine ⟨m, _, smd', hm, rfl, hclen, hsent, ?_⟩
  rw [hrun, hlast, if_pos (by decide)]

/-- The last iteration. -/
theorem smdLoadNvLoop_last (hfw : Acknowledges fw) (hpos : 0 ≤ fwBytesLeft nv.length fm_offset)
    (hleft : fwBytesLeft nv.length fm_offset ≤ WCN36XX_NV_FRAGMENT_SIZE) :
    ∃ m chunk smd', m = nvFragmentMsg msg (fwBytesLeft nv.length fm_offset) ∧
      chunk = (nv.drop (NvData.tableOffset + fm_offset.toNat)).take
        (fwBytesLeft nv.length fm_offset).toNat ∧
      chunk.length = (fwBytesLeft nv.length fm_offset).toNat ∧
      smd'.sent = smd.sent ++ [m.bytes ++ chunk] ∧
      smdLoadNvLoop fw nv (fuel + 1) msg fm_offset smd = some (smd', 0) := by
  obtain ⟨m, hm⟩ : ∃ m, m = nvFragmentMsg msg (fwBytesLeft nv.length fm_offset) := ⟨_, rfl⟩
  obtain ⟨hn, hlast, hlen⟩ := nvFragmentMsg_last msg hpos hleft
  rw [← hm] at hn hlast hlen
  obtain ⟨hread, hclen⟩ := readNv_of_le nv (fwBytesLeft_le hpos)
  obtain ⟨smd', hsent, hrun⟩ := smdLoadNvLoop_send msg smd fuel hfw hm.symm (by rw [hn]; exact hread)
    (by omega) (by rw [hclen]; exact hlen)
  refine ⟨m, _, smd', hm, rfl, hclen, hsent, ?_⟩
  rw [hrun, hlast, if_neg (by decide)]

/-- With a negative number of bytes left the copy into `hal_buf` overruns it. -/
theorem smdLoadNvLoop_neg (hneg : fwBytesLeft nv.length fm_offset < 0) :
    smdLoadNvLoop fw nv fuel msg fm_offset smd = none := by
  cases fuel with
  | zero => rfl
  | succ fuel =>
    have hfs : WCN36XX_NV_FRAGMENT_SIZE = 3072 := rfl
    have hmin : -(2 ^ 31 : ℤ) ≤ fwBytesLeft nv.length fm_offset := by
      have := BitVec.le_toInt (BitVec.ofNat 32 nv.length - fm_offset.setWidth 32 - 4)
      exact this
    obtain ⟨m, hm⟩ : ∃ m, m = nvFragmentMsg msg (fwBytesLeft nv.length fm_offset) := ⟨_, rfl⟩
    have hm' := hm
    rw [nvFragmentMsg, if_neg (by omega)] at hm'
    have hn : 2 ^ 31 ≤ m.nv_img_buffer_size.toNat := by
      rw [hm', BitVec.toNat_ofInt]
      omega
    simp only [smdLoadNvLoop, ← hm]
    cases h₁ : smd.hal_buf.write 0 m.bytes with
    | none => rfl
    | some buf₁ =>
      cases hread : readNv nv (NvData.tableOffset + fm_offset.toNat)
          m.nv_img_buffer_size.toNat with
      | none => rfl
      | some body =>
        have hbody : body.length = m.nv_img_buffer_size.toNat := by
          unfold readNv at hread
          split_ifs at hread with hle
          rw [Option.some.injEq] at hread
          rw [← hread, List.length_take, List.length_drop]
          omega
        have h₂ : buf₁.write NvImgDownloadReqMsg.size body = none := by
          refine buf₁.write_of_gt ?_
          have hbs : WCN36XX_HAL_BUF_SIZE = 4096 := rfl
          omega
        simp only [h₂, Option.bind_eq_bind, Option.bind_some, Option.bind_none]

end Iteration

/-! ## The whole download -/

section Run

variable {fw : Firmware} (hfw : Acknowledges fw) {nv : List Byte}
include hfw

/-- The rest of the download from fragment `k` on, as long as the position does not wrap. The induction
is on the number of iterations that are still allowed. -/
theorem smdLoadNvLoop_run
    (hmax : nv.length ≤ NvData.tableOffset + 22 * WCN36XX_NV_FRAGMENT_SIZE) (fuel : ℕ) :
    ∀ k (msg : NvImgDownloadReqMsg) (smd : Smd),
      msg.header.msg_type = WCN36XX_HAL_DOWNLOAD_NV_REQ →
      msg.header.len.toNat = NvImgDownloadReqMsg.size + WCN36XX_NV_FRAGMENT_SIZE →
      msg.frag_number.toNat = k → k < 22 →
      NvData.tableOffset + k * WCN36XX_NV_FRAGMENT_SIZE ≤ nv.length →
      nv.length < NvData.tableOffset + (k + fuel) * WCN36XX_NV_FRAGMENT_SIZE →
      ∃ smd' msgs,
        smdLoadNvLoop fw nv fuel msg (BitVec.ofNat 16 (k * WCN36XX_NV_FRAGMENT_SIZE)) smd =
          some (smd', 0) ∧
        smd'.sent = smd.sent ++ msgs ∧
        Chunks WCN36XX_NV_FRAGMENT_SIZE (msgs.map nvFragment)
          (nv.drop (NvData.tableOffset + k * WCN36XX_NV_FRAGMENT_SIZE)) ∧
        ∀ j m, msgs[j]? = some m → NvMessage (k + j) (decide (j + 1 = msgs.length)) m := by
  have hfs : WCN36XX_NV_FRAGMENT_SIZE = 3072 := rfl
  have htab : NvData.tableOffset = 4 := rfl
  induction fuel with
  | zero =>
    intro k msg smd _ _ _ _ hle hlt
    exact absurd hle (Nat.not_le.mpr hlt)
  | succ fuel ih =>
    intro k msg smd htype hlen hfrag hk hle hlt
    have hk₀ : k * WCN36XX_NV_FRAGMENT_SIZE = 3072 * k := Nat.mul_comm _ _
    have hk₁ : (k + 1) * WCN36XX_NV_FRAGMENT_SIZE = 3072 * k + 3072 := by rw [Nat.mul_comm]; rfl
    have hk₂ : (k + (fuel + 1)) * WCN36XX_NV_FRAGMENT_SIZE =
        (k + 1 + fuel) * WCN36XX_NV_FRAGMENT_SIZE := by congr 1; omega
    have hoff : (BitVec.ofNat 16 (k * WCN36XX_NV_FRAGMENT_SIZE)).toNat =
        k * WCN36XX_NV_FRAGMENT_SIZE := by
      rw [BitVec.toNat_ofNat]
      omega
    have hleft : fwBytesLeft nv.length (BitVec.ofNat 16 (k * WCN36XX_NV_FRAGMENT_SIZE)) =
        (nv.length - 4 - k * WCN36XX_NV_FRAGMENT_SIZE : ℕ) := by
      rw [fwBytesLeft_of_lt (by omega), hoff]
      omega
    have hfragment : ∀ (m : NvImgDownloadReqMsg) (chunk : List Byte),
        nvFragment (m.bytes ++ chunk) = chunk := fun m chunk => by
      rw [nvFragment, ← m.length_bytes, List.drop_left]
    rcases Nat.lt_or_ge WCN36XX_NV_FRAGMENT_SIZE (nv.length - 4 - k * WCN36XX_NV_FRAGMENT_SIZE)
      with hmore | hlast
    · -- A full fragment, and the rest by induction.
      obtain ⟨m, chunk, smd₁, hm, hchunk, hclen, hsent, hrun⟩ :=
        smdLoadNvLoop_more msg smd fuel hfw (by rw [hleft]; omega) hlen
      rw [nvFragmentMsg, if_pos (by rw [hleft]; omega)] at hm
      have hfrag' : ({ m with frag_number := m.frag_number + 1 } :
          NvImgDownloadReqMsg).frag_number.toNat = k + 1 := by
        have hmk : m.frag_number.toNat = k := by rw [hm]; exact hfrag
        have hone : (1 : BitVec 16).toNat = 1 := rfl
        dsimp only
        rw [BitVec.toNat_add, hmk, hone]
        omega
      obtain ⟨smd', msgs, hrest, hsent', hchunks, hmsgs⟩ := ih (k + 1)
        { m with frag_number := m.frag_number + 1 } smd₁ (by rw [hm]; exact htype)
        (by rw [hm]; exact hlen) hfrag' (by omega) (by omega) (by omega)
      refine ⟨smd', (m.bytes ++ chunk) :: msgs, ?_, ?_, ?_, ?_⟩
      · rw [hrun, ofNat_add_fragment, hrest]
      · rw [hsent', hsent, List.append_assoc, List.singleton_append]
      · rw [List.map_cons, hfragment, ← List.take_append_drop WCN36XX_NV_FRAGMENT_SIZE
          (nv.drop (NvData.tableOffset + k * WCN36XX_NV_FRAGMENT_SIZE)), List.drop_drop]
        rw [hoff] at hchunk
        rw [← hchunk]
        refine .cons hclen ?_
        rw [show NvData.tableOffset + k * WCN36XX_NV_FRAGMENT_SIZE + WCN36XX_NV_FRAGMENT_SIZE =
          NvData.tableOffset + (k + 1) * WCN36XX_NV_FRAGMENT_SIZE by omega]
        exact hchunks
      · intro j m' hj
        have hmore : msgs.length ≠ 0 := by
          have := hchunks.ne_nil
          rw [ne_eq, List.map_eq_nil_iff] at this
          exact fun h => this (List.length_eq_zero_iff.mp h)
        cases j with
        | zero =>
          rw [List.getElem?_cons_zero, Option.some.injEq] at hj
          have hmk : m.frag_number.toNat = k := by rw [hm]; exact hfrag
          rw [← hj, List.length_cons, decide_eq_false (by omega), Nat.add_zero, ← hmk]
          exact nvMessage_of (by rw [hm]; exact htype) (by rw [hm]; rfl)
            (by rw [hm, hclen]; rfl) hclen.le (by rw [hm, hclen]; exact hlen)
        | succ j =>
          rw [List.getElem?_cons_succ] at hj
          rw [List.length_cons, show k + (j + 1) = k + 1 + j by omega,
            decide_eq_decide.mpr (Nat.add_right_cancel_iff (n := 1))]
          exact hmsgs j m' hj
    · -- The last fragment.
      obtain ⟨m, chunk, smd', hm, hchunk, hclen, hsent, hrun⟩ :=
        smdLoadNvLoop_last msg smd fuel hfw (by rw [hleft]; omega) (by rw [hleft]; omega)
      rw [nvFragmentMsg, if_neg (by rw [hleft]; omega)] at hm
      rw [hleft] at hm hclen
      rw [hoff, hleft] at hchunk
      have hall : chunk = nv.drop (NvData.tableOffset + k * WCN36XX_NV_FRAGMENT_SIZE) := by
        rw [hchunk]
        refine List.take_of_length_le ?_
        rw [List.length_drop]
        omega
      refine ⟨smd', [m.bytes ++ chunk], hrun, hsent, ?_, ?_⟩
      · rw [List.map_singleton, hfragment, hall]
        refine .last ?_
        rw [List.length_drop]
        omega
      · intro j m' hj
        rw [List.getElem?_singleton] at hj
        split_ifs at hj with hzero
        rw [Option.some.injEq] at hj
        have hmk : m.frag_number.toNat = k := by rw [hm]; exact hfrag
        rw [hzero, ← hj, Nat.add_zero, List.length_singleton, decide_eq_true rfl, ← hmk]
        have hms : NvImgDownloadReqMsg.size = 16 := rfl
        refine nvMessage_of (by rw [hm]; exact htype) (by rw [hm]; rfl) ?_ (by omega) ?_
        · rw [hm, BitVec.toNat_ofInt]
          omega
        · rw [hm, BitVec.toNat_ofInt]
          omega

/-- What a download that ends without an error has sent, for a file of any size: `m` full fragments,
and then the first one for which at most a fragment is left. -/
theorem smdLoadNvLoop_trace (fuel : ℕ) :
    ∀ (msg : NvImgDownloadReqMsg) (fm_offset : BitVec 16) (smd smd' : Smd),
      msg.header.len.toNat = NvImgDownloadReqMsg.size + WCN36XX_NV_FRAGMENT_SIZE →
      smdLoadNvLoop fw nv fuel msg fm_offset smd = some (smd', 0) →
      ∃ m msgs, smd'.sent = smd.sent ++ msgs ∧
        (∀ j, j < m → (WCN36XX_NV_FRAGMENT_SIZE : ℤ) < fwBytesLeft nv.length
          (fm_offset + BitVec.ofNat 16 (j * WCN36XX_NV_FRAGMENT_SIZE))) ∧
        fwBytesLeft nv.length (fm_offset + BitVec.ofNat 16 (m * WCN36XX_NV_FRAGMENT_SIZE)) ≤
          WCN36XX_NV_FRAGMENT_SIZE ∧
        ((msgs.map nvFragment).flatten.length : ℤ) = m * WCN36XX_NV_FRAGMENT_SIZE +
          fwBytesLeft nv.length (fm_offset + BitVec.ofNat 16 (m * WCN36XX_NV_FRAGMENT_SIZE)) := by
  have hfragment : ∀ (m : NvImgDownloadReqMsg) (chunk : List Byte),
      nvFragment (m.bytes ++ chunk) = chunk := fun m chunk => by
    rw [nvFragment, ← m.length_bytes, List.drop_left]
  induction fuel with
  | zero =>
    intro msg fm_offset smd smd' _ hrun
    cases hrun
  | succ fuel ih =>
    intro msg fm_offset smd smd' hlen hrun
    rcases lt_or_ge (fwBytesLeft nv.length fm_offset) 0 with hneg | hpos
    · rw [smdLoadNvLoop_neg msg smd (fuel + 1) hneg] at hrun
      cases hrun
    · rcases lt_or_ge (WCN36XX_NV_FRAGMENT_SIZE : ℤ) (fwBytesLeft nv.length fm_offset) with
        hmore | hlast
      · obtain ⟨m, chunk, smd₁, hm, -, hclen, hsent, hstep⟩ :=
          smdLoadNvLoop_more msg smd fuel hfw hmore hlen
        rw [nvFragmentMsg, if_pos hmore] at hm
        rw [hstep] at hrun
        obtain ⟨n, msgs, hsent', hbefore, hend, htotal⟩ := ih _ _ _ _ (by rw [hm]; exact hlen) hrun
        have hoff : ∀ j, fm_offset + BitVec.ofNat 16 WCN36XX_NV_FRAGMENT_SIZE +
            BitVec.ofNat 16 (j * WCN36XX_NV_FRAGMENT_SIZE) =
              fm_offset + BitVec.ofNat 16 ((j + 1) * WCN36XX_NV_FRAGMENT_SIZE) := fun j => by
          rw [BitVec.add_assoc, BitVec.add_comm (BitVec.ofNat 16 _), ofNat_add_fragment]
        rw [hoff] at hend htotal
        refine ⟨n + 1, (m.bytes ++ chunk) :: msgs, ?_, fun j hj => ?_, hend, ?_⟩
        · rw [hsent', hsent, List.append_assoc, List.singleton_append]
        · cases j with
          | zero => rwa [Nat.zero_mul, BitVec.add_zero]
          | succ j =>
            rw [← hoff]
            exact hbefore j (by omega)
        · rw [List.map_cons, hfragment, List.flatten_cons, List.length_append, hclen]
          push_cast
          rw [htotal, Int.add_mul, Int.one_mul]
          omega
      · obtain ⟨m, chunk, smd₁, -, -, hclen, hsent, hstep⟩ :=
          smdLoadNvLoop_last msg smd fuel hfw hpos hlast
        rw [hstep, Option.some.injEq, Prod.mk.injEq] at hrun
        obtain ⟨rfl, -⟩ := hrun
        refine ⟨0, [m.bytes ++ chunk], hsent, fun j hj => absurd hj (Nat.not_lt_zero j), ?_, ?_⟩
        · rwa [Nat.zero_mul, BitVec.add_zero]
        · rw [Nat.zero_mul, BitVec.add_zero, List.map_singleton, hfragment,
            List.flatten_singleton, hclen]
          push_cast
          omega

end Run

/-- Beyond 22 fragments a download that ends has not sent as many bytes as the image has: the position
is back where it was after 64 fragments, so the end comes before that or never. -/
theorem fwBytesLeft_wraps {n m : ℕ}
    (hmax : NvData.tableOffset + 22 * WCN36XX_NV_FRAGMENT_SIZE < n)
    (hbefore : ∀ j, j < m → (WCN36XX_NV_FRAGMENT_SIZE : ℤ) <
      fwBytesLeft n (BitVec.ofNat 16 (j * WCN36XX_NV_FRAGMENT_SIZE)))
    (hend : fwBytesLeft n (BitVec.ofNat 16 (m * WCN36XX_NV_FRAGMENT_SIZE)) ≤
      WCN36XX_NV_FRAGMENT_SIZE) :
    ((n - NvData.tableOffset : ℕ) : ℤ) ≠ m * WCN36XX_NV_FRAGMENT_SIZE +
      fwBytesLeft n (BitVec.ofNat 16 (m * WCN36XX_NV_FRAGMENT_SIZE)) := by
  have hfs : WCN36XX_NV_FRAGMENT_SIZE = 3072 := rfl
  have htab : NvData.tableOffset = 4 := rfl
  have hmul : ∀ a, a * WCN36XX_NV_FRAGMENT_SIZE = a * 3072 := fun _ => rfl
  intro htotal
  have hm : m < 64 := by
    by_contra hge
    have hsame : BitVec.ofNat 16 ((m - 64) * WCN36XX_NV_FRAGMENT_SIZE) =
        BitVec.ofNat 16 (m * WCN36XX_NV_FRAGMENT_SIZE) := by
      refine BitVec.eq_of_toNat_eq ?_
      rw [BitVec.toNat_ofNat, BitVec.toNat_ofNat, hmul, hmul]
      omega
    have hlt := hbefore (m - 64) (by omega)
    rw [hsame] at hlt
    omega
  have hoff : (BitVec.ofNat 16 (m * WCN36XX_NV_FRAGMENT_SIZE)).toNat = m * 3072 % 65536 := by
    rw [BitVec.toNat_ofNat, hfs]
  rw [hfs] at htotal hend
  have hlt : n < 2 ^ 31 := by
    push_cast at htotal hend
    omega
  have hleft := fwBytesLeft_of_lt hlt (BitVec.ofNat 16 (m * WCN36XX_NV_FRAGMENT_SIZE))
  rw [hoff, hfs] at hleft
  push_cast at htotal
  omega

/-- `wcn36xx_smd_load_nv` is its loop on the file. -/
theorem smdLoadNv_eq (fw : Firmware) {request_firmware : ℤ ⊕ List Byte} {smd : Smd} {nv : List Byte}
    (hfile : nvFile smd request_firmware = some nv) :
    ∃ smd₀, smd₀.sent = smd.sent ∧ ∀ fuel, smdLoadNv fw request_firmware fuel smd =
      smdLoadNvLoop fw nv fuel nvMsgInit 0 smd₀ := by
  unfold nvFile at hfile
  cases hnv : smd.nv with
  | some nv' =>
    rw [hnv] at hfile
    cases hfile
    exact ⟨smd, rfl, fun fuel => by simp only [smdLoadNv, hnv]⟩
  | none =>
    rw [hnv] at hfile
    cases request_firmware with
    | inl ret => cases hfile
    | inr nv' =>
      cases hfile
      exact ⟨{ smd with nv := some nv }, rfl, fun fuel => by simp only [smdLoadNv, hnv]⟩

/-- With a firmware that acknowledges every fragment, `wcn36xx_smd_load_nv` does what it should exactly
for the files that have the prefix and at most 22 fragments behind it. -/
theorem loadNv_iff (fw : Firmware) (hfw : Acknowledges fw) (request_firmware : ℤ ⊕ List Byte)
    (smd : Smd) (nv : List Byte) (hfile : nvFile smd request_firmware = some nv) :
    LoadsNv fw request_firmware smd nv ↔ NvData.tableOffset ≤ nv.length ∧
      nv.length ≤ NvData.tableOffset + 22 * WCN36XX_NV_FRAGMENT_SIZE := by
  obtain ⟨smd₀, hsent₀, hloop⟩ := smdLoadNv_eq fw hfile
  have hfs : WCN36XX_NV_FRAGMENT_SIZE = 3072 := rfl
  have htab : NvData.tableOffset = 4 := rfl
  have hlen : nvMsgInit.header.len.toNat =
      NvImgDownloadReqMsg.size + WCN36XX_NV_FRAGMENT_SIZE := by decide
  unfold LoadsNv
  simp only [hloop]
  constructor
  · intro hloads
    split_ifs at hloads with hpre
    · obtain ⟨fuel, smd', msgs, hrun, hsent, -, himage⟩ := hloads
      refine ⟨hpre, ?_⟩
      by_contra hmax
      obtain ⟨m, msgs', hsent', hbefore, hend, htotal⟩ :=
        smdLoadNvLoop_trace hfw fuel _ _ _ _ hlen hrun
      rw [hsent, hsent₀, List.append_cancel_left_eq] at hsent'
      have hzero : ∀ x : BitVec 16, 0 + x = x := BitVec.zero_add
      simp only [hzero] at hbefore hend htotal
      rw [← hsent', himage, List.length_drop] at htotal
      exact fwBytesLeft_wraps (by omega) hbefore hend htotal
    · -- Without the prefix the number of bytes left is negative.
      obtain ⟨fuel, smd', ret, hrun, -, -⟩ := hloads
      have hzero : (0 : BitVec 16).toNat = 0 := rfl
      have hneg : fwBytesLeft nv.length 0 < 0 := by
        rw [fwBytesLeft_of_lt (by omega), hzero]
        omega
      rw [smdLoadNvLoop_neg nvMsgInit smd₀ fuel hneg] at hrun
      cases hrun
  · rintro ⟨hpre, hmax⟩
    rw [if_pos hpre]
    obtain ⟨smd', msgs, hrun, hsent, hchunks, hmsgs⟩ :=
      smdLoadNvLoop_run hfw hmax 23 0 nvMsgInit smd₀ rfl hlen rfl (by omega) (by omega) (by omega)
    refine ⟨23, smd', msgs, ?_, by rw [hsent, hsent₀], ?_, ?_⟩
    · rw [Nat.zero_mul] at hrun
      exact hrun
    · intro k msg hk
      have := hmsgs k msg hk
      rwa [Nat.zero_add] at this
    · rw [Nat.zero_mul, Nat.add_zero] at hchunks
      exact hchunks.flatten

/-- A firmware that answers every request with a response of success. -/
def ackFirmware : Firmware := fun _ => .response (List.replicate 12 0)

/-- It does acknowledge them. -/
theorem ackFirmware_acknowledges : Acknowledges ackFirmware :=
  fun _ => ⟨_, rfl, by decide, by decide, by decide⟩

/-- A buffer of zeros. -/
def zeroSmd : Smd where
  hal_buf := ⟨List.replicate WCN36XX_HAL_BUF_SIZE 0, HalBuf.length_zero⟩

/-- The file comes from `request_firmware`. -/
theorem nvFile_zeroSmd (nv : List Byte) : nvFile zeroSmd (.inr nv) = some nv := rfl

/-- A file of two fragments is downloaded. -/
theorem loadNv_iff_two_fragments :
    ∃ nv : List Byte, nv.length = 3100 ∧ LoadsNv ackFirmware (.inr nv) zeroSmd nv := by
  obtain ⟨nv, hlen⟩ : ∃ nv : List Byte, nv.length = 3100 :=
    ⟨List.replicate 3100 1, List.length_replicate⟩
  refine ⟨nv, hlen, (loadNv_iff ackFirmware ackFirmware_acknowledges (.inr nv) zeroSmd nv
    (nvFile_zeroSmd nv)).mpr ?_⟩
  rw [hlen]
  decide

/-- With a file of three bytes the driver neither returns an error nor gets past the first copy. -/
theorem loadNv_fails_on_short_file : ¬LoadsNv ackFirmware (.inr [0, 0, 0]) zeroSmd [0, 0, 0] := by
  intro hloads
  unfold LoadsNv at hloads
  rw [if_neg (by decide)] at hloads
  obtain ⟨fuel, smd', ret, hrun, -, -⟩ := hloads
  obtain ⟨smd₀, -, hloop⟩ := smdLoadNv_eq ackFirmware (nvFile_zeroSmd [0, 0, 0])
  have hneg : fwBytesLeft [(0 : Byte), 0, 0].length 0 < 0 := by decide
  rw [hloop, smdLoadNvLoop_neg nvMsgInit smd₀ fuel hneg] at hrun
  cases hrun

end Wcn36xx
