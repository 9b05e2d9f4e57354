import Wcn36xx.Smd.Response

/-!
# No residue in requests

All messages are composed in one buffer, `hal_buf`, which holds whatever the last message or response
left there: keys, for example. `sentAlike` says that what a request function sends does not
depend on that, and that its length is the `header.len` of the message: for every function there is a
message that it composes whatever the buffer held before (`Clean`). A structure of fixed size covers all
of its bytes (`clean_fixedMsg`); the messages that go on in the buffer are followed byte by byte.
-/

namespace Wcn36xx

/-! ## What a buffer starts with -/

namespace HalBuf

/-- A copy to the end of what has been composed. -/
theorem write_end {buf : HalBuf} {msg bs : List Byte} (h : msg <+: buf.bytes)
    (hle : msg.length + bs.length ≤ WCN36XX_HAL_BUF_SIZE) :
    ∃ buf', buf.write msg.length bs = some buf' ∧ msg ++ bs <+: buf'.bytes := by
  obtain ⟨buf', hwrite, hbytes⟩ := buf.write_of_le msg.length bs hle
  refine ⟨buf', hwrite, ?_⟩
  rw [hbytes, ← List.prefix_iff_eq_take.mp h]
  exact List.prefix_append _ _

/-- A copy over a part of what has been composed. -/
theorem write_over {buf : HalBuf} {pre old post new : List Byte}
    (h : pre ++ (old ++ post) <+: buf.bytes) (hlen : new.length = old.length) :
    ∃ buf', buf.write pre.length new = some buf' ∧ pre ++ (new ++ post) <+: buf'.bytes := by
  obtain ⟨rest, hrest⟩ := h
  have hsize := buf.length_eq
  have hle : pre.length + new.length ≤ WCN36XX_HAL_BUF_SIZE := by
    rw [← hsize, ← hrest]
    simp only [List.length_append]
    omega
  obtain ⟨buf', hwrite, hbytes⟩ := buf.write_of_le pre.length new hle
  refine ⟨buf', hwrite, rest, ?_⟩
  have hfront : buf.bytes.take pre.length = pre := by
    rw [← hrest, List.append_assoc, List.take_left]
  have hback : buf.bytes.drop (pre.length + new.length) = post ++ rest := by
    rw [← hrest, hlen, ← List.length_append, ← List.append_assoc, List.append_assoc,
      List.drop_left]
  rw [hbytes, hfront, hback]
  simp only [List.append_assoc]

/-- What a buffer starts with is read from it. -/
theorem read_of_startsWith {buf : HalBuf} {msg : List Byte} (h : msg <+: buf.bytes) :
    buf.read msg.length = some msg := by
  have hle : msg.length ≤ WCN36XX_HAL_BUF_SIZE := buf.length_eq ▸ h.length_le
  rw [read, if_pos hle, ← List.prefix_iff_eq_take.mp h]

/-- So are its fields. -/
theorem field_of_startsWith {buf : HalBuf} {msg : List Byte} {offset n : ℕ} (h : msg <+: buf.bytes)
    (hle : offset + n ≤ msg.length) : field buf.bytes offset n = field msg offset n := by
  have htake : buf.bytes.take msg.length = msg.take msg.length := by
    rw [List.take_length]
    exact (List.prefix_iff_eq_take.mp h).symm
  exact field_of_take_eq htake hle

end HalBuf

/-! ## Messages that do not depend on the buffer -/

/-- There is a header, its `len` is the number of bytes, and they fit `hal_buf`. -/
structure Framed (msg : List Byte) : Prop where
  size : HalMsgHeader.size ≤ msg.length
  len : field msg 4 4 = msg.length
  le : msg.length ≤ WCN36XX_HAL_BUF_SIZE

/-- Whatever `hal_buf` holds, this message is composed in it. -/
def Composes (compose : HalBuf → Option Composed) (msg : List Byte) : Prop :=
  ∀ hal_buf, ∃ hal_buf', compose hal_buf = some (.ready hal_buf' msg.length) ∧
    msg <+: hal_buf'.bytes

/-- A request function is refused whatever `hal_buf` holds, or composes a framed message that does not
depend on it. -/
def Clean (compose : HalBuf → Option Composed) : Prop :=
  (∃ ret, ∀ hal_buf, compose hal_buf = some (.refused ret)) ∨
    ∃ msg, Framed msg ∧ Composes compose msg

/-- Whatever `hal_buf` holds, the function returns an error without sending anything. -/
def Refuses (compose : HalBuf → Option Composed) (ret : ℤ) : Prop :=
  ∀ hal_buf, compose hal_buf = some (.refused ret)

/-- Whatever `hal_buf` holds, there is a fault. -/
def Faults (compose : HalBuf → Option Composed) : Prop := ∀ hal_buf, compose hal_buf = none

/-- A function composes one message. -/
theorem Composes.unique {compose : HalBuf → Option Composed} {msg msg' : List Byte}
    (h : Composes compose msg) (h' : Composes compose msg') : msg = msg' := by
  obtain ⟨buf, hbuf, hmsg⟩ := h zeroSmd.hal_buf
  obtain ⟨buf', hbuf', hmsg'⟩ := h' zeroSmd.hal_buf
  rw [hbuf, Option.some.injEq, Composed.ready.injEq] at hbuf'
  obtain ⟨rfl, hlen⟩ := hbuf'
  have htake := List.prefix_iff_eq_take.mp hmsg
  rwa [hlen, ← List.prefix_iff_eq_take.mp hmsg'] at htake

/-- What is refused does not compose a message. -/
theorem Refuses.not_composes {compose : HalBuf → Option Composed} {ret : ℤ}
    (h : Refuses compose ret) (msg : List Byte) : ¬Composes compose msg := by
  intro hmsg
  obtain ⟨buf, hbuf, -⟩ := hmsg zeroSmd.hal_buf
  rw [h] at hbuf
  cases hbuf

/-- Nor does a fault. -/
theorem Faults.not_composes {compose : HalBuf → Option Composed} (h : Faults compose)
    (msg : List Byte) : ¬Composes compose msg := by
  intro hmsg
  obtain ⟨buf, hbuf, -⟩ := hmsg zeroSmd.hal_buf
  rw [h] at hbuf
  cases hbuf

/-- A fault is not an error that is returned. -/
theorem Faults.not_refuses {compose : HalBuf → Option Composed} (h : Faults compose) (ret : ℤ) :
    ¬Refuses compose ret := by
  intro href
  have hnone := h zeroSmd.hal_buf
  rw [href] at hnone
  cases hnone

/-- A header with the number of bytes in `len`. -/
theorem framed_header {header : HalMsgHeader} {body : List Byte}
    (hlen : header.len.toNat = HalMsgHeader.size + body.length)
    (hle : HalMsgHeader.size + body.length ≤ WCN36XX_HAL_BUF_SIZE) :
    Framed (header.bytes ++ body) := by
  have hlength : (header.bytes ++ body).length = HalMsgHeader.size + body.length := by
    rw [List.length_append]
    rfl
  refine ⟨by rw [hlength]; exact Nat.le_add_right _ _, ?_, by rw [hlength]; exact hle⟩
  rw [hlength, ← hlen, ← readLe_leBytes, HalMsgHeader.bytes, List.append_assoc]
  exact field_append (leBytes16 _ ++ leBytes16 _) _ _ rfl rfl

/-- `PREPARE_HAL_BUF` clears as many bytes as the header says, and brings the message to the front of
them. -/
theorem prepareHalBuf_spec (hal_buf : HalBuf) {header : HalMsgHeader} {body : List Byte} {n : ℕ}
    (hlen : header.len.toNat = HalMsgHeader.size + body.length + n)
    (hle : HalMsgHeader.size + body.length + n ≤ WCN36XX_HAL_BUF_SIZE) :
    ∃ hal_buf', prepareHalBuf header body hal_buf = some hal_buf' ∧
      header.bytes ++ body ++ zeros n <+: hal_buf'.bytes := by
  have hsize : (header.bytes ++ body).length = HalMsgHeader.size + body.length := by
    rw [List.length_append]
    rfl
  obtain ⟨buf₁, h₁, hzeros⟩ := @HalBuf.write_end hal_buf [] (zeros header.len.toNat)
    List.nil_prefix (by rw [zeros, List.length_replicate, hlen, List.length_nil]; omega)
  have hsplit : [] ++ zeros header.len.toNat =
      [] ++ (zeros (header.bytes ++ body).length ++ zeros n) := by
    rw [hlen, hsize, zeros, zeros, zeros, List.replicate_append_replicate]
  rw [hsplit] at hzeros
  have hold : (header.bytes ++ body).length = (zeros (header.bytes ++ body).length).length := by
    rw [zeros, List.length_replicate]
  obtain ⟨buf₂, h₂, hmsg⟩ := HalBuf.write_over hzeros hold
  refine ⟨buf₂, ?_, ?_⟩
  · rw [List.length_nil] at h₁ h₂
    simp only [prepareHalBuf, h₁, h₂, Option.bind_eq_bind, Option.bind_some]
  · rw [List.nil_append] at hmsg
    exact hmsg

/-- `PREPARE_HAL_BUF` of a message that is as long as its header says. -/
theorem prepareHalBuf_all (hal_buf : HalBuf) {header : HalMsgHeader} {body : List Byte}
    (hlen : header.len.toNat = HalMsgHeader.size + body.length)
    (hle : HalMsgHeader.size + body.length ≤ WCN36XX_HAL_BUF_SIZE) :
    ∃ hal_buf', prepareHalBuf header body hal_buf = some hal_buf' ∧
      header.bytes ++ body <+: hal_buf'.bytes := by
  obtain ⟨hal_buf', h, hmsg⟩ := prepareHalBuf_spec hal_buf (n := 0) hlen hle
  refine ⟨hal_buf', h, ?_⟩
  rwa [zeros, List.replicate_zero, List.append_nil] at hmsg

/-- A structure of fixed size: the message is its header with the body behind it. -/
theorem composes_fixedMsg (req : HalReq) (body : List Byte)
    (hle : HalMsgHeader.size + body.length ≤ WCN36XX_HAL_BUF_SIZE) :
    Framed ((initHalMsg req.reqType (HalMsgHeader.size + body.length)).bytes ++ body) ∧
      Composes (fixedMsg req body)
        ((initHalMsg req.reqType (HalMsgHeader.size + body.length)).bytes ++ body) := by
  have hlen : (initHalMsg req.reqType (HalMsgHeader.size + body.length)).len.toNat =
      HalMsgHeader.size + body.length := by
    have hbs : WCN36XX_HAL_BUF_SIZE = 4096 := rfl
    rw [initHalMsg, BitVec.toNat_ofNat]
    omega
  refine ⟨framed_header hlen hle, fun hal_buf => ?_⟩
  obtain ⟨hal_buf', h, hmsg⟩ := prepareHalBuf_all hal_buf hlen hle
  refine ⟨hal_buf', ?_, hmsg⟩
  simp only [fixedMsg, h, hlen, Option.bind_eq_bind, Option.bind_some, Option.pure_def,
    List.length_append]
  rfl

/-- A structure of fixed size does not depend on the buffer. -/
theorem clean_fixedMsg (req : HalReq) (body : List Byte)
    (hle : HalMsgHeader.size + body.length ≤ WCN36XX_HAL_BUF_SIZE) : Clean (fixedMsg req body) :=
  .inr ⟨_, composes_fixedMsg req body hle⟩

/-! ## Messages that go on in the buffer -/

/-- A message of which the header says the length, in the buffer. -/
theorem Framed.field_len {hal_buf : HalBuf} {msg : List Byte} (hmsg : Framed msg)
    (h : msg <+: hal_buf.bytes) : field hal_buf.bytes 4 4 = msg.length := by
  rw [HalBuf.field_of_startsWith h hmsg.size, hmsg.len]

/-- `wcn36xx_smd_trigger_ba`: the candidate is behind the message, in what has been cleared. -/
theorem clean_triggerBa (sta_index : Byte) : Clean (SmdFn.triggerBa sta_index).compose := by
  obtain ⟨header, hheader⟩ : ∃ header : HalMsgHeader, header =
      { initHalMsg HalReq.TRIGGER_BA.reqType 11 with
        len := (initHalMsg HalReq.TRIGGER_BA.reqType 11).len + 2 } := ⟨_, rfl⟩
  have hlen : header.len.toNat = 13 := by rw [hheader]; rfl
  have hle : 13 ≤ WCN36XX_HAL_BUF_SIZE := by decide
  have hframed : Framed (header.bytes ++ ([0] ++ leBytes16 1 ++ [sta_index] ++ [1])) :=
    framed_header hlen hle
  refine .inr ⟨_, hframed, fun hal_buf => ?_⟩
  obtain ⟨buf₁, h₁, hmsg₁⟩ := @prepareHalBuf_spec hal_buf header ([0] ++ leBytes16 1) 2
    (by rw [hlen]; rfl) (by decide)
  obtain ⟨buf₂, h₂, hmsg₂⟩ := @HalBuf.write_over buf₁ (header.bytes ++ ([0] ++ leBytes16 1)) [0] [0]
    [sta_index] hmsg₁ rfl
  obtain ⟨buf₃, h₃, hmsg₃⟩ := @HalBuf.write_over buf₂
    (header.bytes ++ ([0] ++ leBytes16 1) ++ [sta_index]) [0] [] [1]
    (by rw [List.append_assoc]; exact hmsg₂) rfl
  refine ⟨buf₃, ?_, ?_⟩
  · have h₂' : buf₁.write 11 [sta_index] = some buf₂ := h₂
    have h₃' : buf₂.write 12 [1] = some buf₃ := h₃
    simp only [SmdFn.triggerBa, ← hheader, h₁, h₂', h₃', Option.bind_eq_bind, Option.bind_some,
      Option.pure_def]
    rfl
  · simpa only [List.append_assoc, List.append_nil] using hmsg₃

/-- An entry goes to the end of what has been composed. -/
theorem putCfgTlvU32_spec {hal_buf : HalBuf} {msg : List Byte} (id value : BitVec 32)
    (h : msg <+: hal_buf.bytes) (hle : msg.length + 12 < WCN36XX_HAL_BUF_SIZE) :
    ∃ hal_buf', putCfgTlvU32 hal_buf msg.length id value = some (hal_buf', msg.length + 12, 0) ∧
      msg ++ cfgEntry id value <+: hal_buf'.bytes := by
  have hentry : (cfgEntry id value).length = 12 := rfl
  obtain ⟨hal_buf', hwrite, hmsg⟩ := @HalBuf.write_end hal_buf msg (cfgEntry id value) h
    (by rw [hentry]; omega)
  refine ⟨hal_buf', ?_, hmsg⟩
  unfold putCfgTlvU32
  rw [if_neg (Nat.not_le.mpr hle)]
  simp only [hwrite, Option.bind_eq_bind, Option.bind_some, Option.pure_def]

/-- The entries follow one another. The induction is on the entries that are left. -/
theorem putCfgTlvs_spec (vals : List (BitVec 32 × BitVec 32)) : ∀ {hal_buf : HalBuf}
    {msg : List Byte}, msg <+: hal_buf.bytes →
    msg.length + 12 * vals.length < WCN36XX_HAL_BUF_SIZE →
    ∃ hal_buf', putCfgTlvs vals hal_buf msg.length =
        some (hal_buf', msg.length + 12 * vals.length, 0) ∧
      msg ++ vals.flatMap (fun val => cfgEntry val.1 val.2) <+: hal_buf'.bytes := by
  induction vals with
  | nil =>
    intro hal_buf msg h hle
    refine ⟨hal_buf, rfl, ?_⟩
    rwa [List.flatMap_nil, List.append_nil]
  | cons val vals ih =>
    intro hal_buf msg h hle
    obtain ⟨id, value⟩ := val
    rw [List.length_cons] at hle
    have hentry : (msg ++ cfgEntry id value).length = msg.length + 12 := List.length_append
    obtain ⟨buf₁, h₁, hmsg₁⟩ := putCfgTlvU32_spec id value h (by omega)
    obtain ⟨buf₂, h₂, hmsg₂⟩ := ih hmsg₁ (by rw [hentry]; omega)
    refine ⟨buf₂, ?_, ?_⟩
    · rw [putCfgTlvs, h₁]
      change putCfgTlvs vals buf₁ (msg.length + 12) = _
      rw [← hentry, h₂, hentry, List.length_cons]
      congr 3
      omega
    · rw [List.flatMap_cons, ← List.append_assoc]
      exact hmsg₂

/-- An entry is 12 bytes long. -/
theorem length_cfgEntries (vals : List (BitVec 32 × BitVec 32)) :
    (vals.flatMap fun val => cfgEntry val.1 val.2).length = 12 * vals.length := by
  induction vals with
  | nil => rfl
  | cons val vals ih =>
    have hentry : (cfgEntry val.1 val.2).length = 12 := rfl
    rw [List.flatMap_cons, List.length_append, ih, hentry, List.length_cons]
    omega

/-- The two lengths of a message with entries are set at the end: `len` of the header, and the one in front
of the entries. -/
theorem setLengths_spec {hal_buf : HalBuf} {header : HalMsgHeader} {mid entries : List Byte}
    {old : BitVec 32} (len len' : BitVec 32)
    (h : header.bytes ++ (mid ++ (leBytes old ++ entries)) <+: hal_buf.bytes) :
    ∃ buf₁ buf₂, hal_buf.write 4 (leBytes len) = some buf₁ ∧
      buf₁.write (HalMsgHeader.size + mid.length) (leBytes len') = some buf₂ ∧
      { header with len := len }.bytes ++ (mid ++ (leBytes len' ++ entries)) <+: buf₂.bytes := by
  have hsplit : ∀ hdr : HalMsgHeader, ∀ rest, hdr.bytes ++ rest =
      (leBytes16 hdr.msg_type ++ leBytes16 hdr.msg_version) ++ (leBytes hdr.len ++ rest) := by
    intro hdr rest
    simp only [HalMsgHeader.bytes, List.append_assoc]
  rw [hsplit] at h
  obtain ⟨buf₁, h₁, hmsg₁⟩ := @HalBuf.write_over _ _ _ _ (leBytes len) h rfl
  have hmsg₁' : ({ header with len := len }.bytes ++ mid) ++ (leBytes old ++ entries) <+:
      buf₁.bytes := by
    rw [List.append_assoc, hsplit]
    exact hmsg₁
  obtain ⟨buf₂, h₂, hmsg₂⟩ := @HalBuf.write_over _ _ _ _ (leBytes len') hmsg₁' rfl
  have hlen : ({ header with len := len }.bytes ++ mid).length =
      HalMsgHeader.size + mid.length := List.length_append
  refine ⟨buf₁, buf₂, h₁, hlen ▸ h₂, ?_⟩
  rwa [List.append_assoc] at hmsg₂

/-- `wcn36xx_smd_update_cfg`: one entry. -/
theorem clean_updateCfg (cfg_id value : BitVec 32) : Clean (SmdFn.updateCfg cfg_id value).compose := by
  obtain ⟨header, hheader⟩ : ∃ header, header = initHalMsg HalReq.UPDATE_CFG.reqType 12 := ⟨_, rfl⟩
  have hlen : header.len.toNat = 12 := by rw [hheader]; rfl
  have hle : 24 < WCN36XX_HAL_BUF_SIZE := by decide
  have hframed : Framed ({ header with len := 24 }.bytes ++
      ([] ++ (leBytes 12 ++ cfgEntry cfg_id value))) := framed_header rfl hle.le
  refine .inr ⟨_, hframed, fun hal_buf => ?_⟩
  obtain ⟨buf₁, h₁, hmsg₁⟩ := @prepareHalBuf_all hal_buf header (leBytes 0) hlen (by decide)
  obtain ⟨buf₂, h₂, hmsg₂⟩ := putCfgTlvU32_spec cfg_id value hmsg₁ hle
  rw [List.append_assoc] at hmsg₂
  obtain ⟨buf₃, buf₄, h₃, h₄, hmsg₄⟩ :=
    @setLengths_spec buf₂ header [] (cfgEntry cfg_id value) 0 24 12 hmsg₂
  refine ⟨buf₄, ?_, hmsg₄⟩
  have h₂' : putCfgTlvU32 buf₁ 12 cfg_id value = some (buf₂, 24, 0) := h₂
  have h₃' : buf₂.write 4 (leBytes (BitVec.ofNat 32 24)) = some buf₃ := h₃
  have h₄' : buf₃.write 8 (leBytes (BitVec.ofNat 32 (24 - 12))) = some buf₄ := h₄
  simp only [SmdFn.updateCfg, ← hheader, h₁, hlen, h₂', h₃', h₄', Option.bind_eq_bind,
    Option.bind_some, Option.pure_def, hframed.field_len hmsg₄]

/-- `wcn36xx_smd_start` with a list of its own in the place of `wcn36xx_cfg_vals`. -/
def SmdFn.startWith (cfg_vals : List (BitVec 32 × BitVec 32)) : SmdFn where
  compose hal_buf := do
    -- `DRIVER_TYPE_PRODUCTION`, and a length that is set below.
    let body := leBytes 0 ++ leBytes 0
    let hal_buf ← prepareHalBuf (initHalMsg HalReq.START.reqType 16) body hal_buf
    let len := field hal_buf.bytes 4 4
    let (hal_buf, len, ret) ← putCfgTlvs cfg_vals hal_buf len
    if ret ≠ 0 then return .refused ret
    let hal_buf ← hal_buf.write 4 (leBytes (BitVec.ofNat 32 len))
    let hal_buf ← hal_buf.write 12 (leBytes (BitVec.ofNat 32 (len - 16)))
    return .ready hal_buf (field hal_buf.bytes 4 4)
  rsp := smdStartRsp

/-- The list that the driver has. -/
theorem SmdFn.start_eq : SmdFn.start = SmdFn.startWith wcn36xx_cfg_vals := rfl

/-- The message of `wcn36xx_smd_start`: the parameters, and an entry for each of the list. -/
def startMsg (cfg_vals : List (BitVec 32 × BitVec 32)) : List Byte :=
  (initHalMsg HalReq.START.reqType (16 + 12 * cfg_vals.length)).bytes ++
    (leBytes 0 ++ (leBytes (BitVec.ofNat 32 (12 * cfg_vals.length)) ++
      cfg_vals.flatMap fun val => cfgEntry val.1 val.2))

/-- Before the loop there are the header and the parameters. -/
theorem startWith_prepare (hal_buf : HalBuf) :
    ∃ hal_buf', prepareHalBuf (initHalMsg HalReq.START.reqType 16) (leBytes 0 ++ leBytes 0) hal_buf =
        some hal_buf' ∧
      (initHalMsg HalReq.START.reqType 16).bytes ++ (leBytes 0 ++ leBytes 0) <+: hal_buf'.bytes ∧
      field hal_buf'.bytes 4 4 = 16 := by
  have hlen : (initHalMsg HalReq.START.reqType 16).len.toNat = 16 := rfl
  have hframed : Framed ((initHalMsg HalReq.START.reqType 16).bytes ++ (leBytes 0 ++ leBytes 0)) :=
    framed_header hlen (by decide)
  obtain ⟨buf₁, h₁, hmsg₁⟩ := @prepareHalBuf_all hal_buf (initHalMsg HalReq.START.reqType 16)
    (leBytes 0 ++ leBytes 0) hlen (by decide)
  exact ⟨buf₁, h₁, hmsg₁, hframed.field_len hmsg₁⟩

/-- The message is composed when there is room for more than its entries. -/
theorem startWith_composes (cfg_vals : List (BitVec 32 × BitVec 32))
    (hle : 16 + 12 * cfg_vals.length < WCN36XX_HAL_BUF_SIZE) :
    Framed (startMsg cfg_vals) ∧ Composes (SmdFn.startWith cfg_vals).compose (startMsg cfg_vals) := by
  have hsize : WCN36XX_HAL_BUF_SIZE = 4096 := rfl
  obtain ⟨entries, hentries⟩ : ∃ entries, entries =
    cfg_vals.flatMap fun val => cfgEntry val.1 val.2 := ⟨_, rfl⟩
  obtain ⟨n, hn⟩ : ∃ n, n = 12 * cfg_vals.length := ⟨_, rfl⟩
  have hnum : entries.length = n := by rw [hentries, length_cfgEntries, hn]
  have hbody : (leBytes 0 ++ (leBytes (BitVec.ofNat 32 n) ++ entries)).length = 8 + n := by
    simp only [List.length_append, length_leBytes, hnum]
    omega
  have hframed : Framed (startMsg cfg_vals) := by
    unfold startMsg
    rw [← hentries, ← hn]
    refine framed_header ?_ ?_
    · rw [hbody, initHalMsg, BitVec.toNat_ofNat, HalMsgHeader.size]
      omega
    · rw [hbody, HalMsgHeader.size]
      omega
  refine ⟨hframed, fun hal_buf => ?_⟩
  obtain ⟨buf₁, h₁, hmsg₁, hlen₁⟩ := startWith_prepare hal_buf
  obtain ⟨buf₂, h₂, hmsg₂⟩ := putCfgTlvs_spec cfg_vals hmsg₁ hle
  rw [← hentries, List.append_assoc, List.append_assoc] at hmsg₂
  obtain ⟨buf₃, buf₄, h₃, h₄, hmsg₄⟩ := @setLengths_spec buf₂ _ (leBytes 0) entries 0
    (BitVec.ofNat 32 (16 + n)) (BitVec.ofNat 32 n) hmsg₂
  have hmsg : startMsg cfg_vals <+: buf₄.bytes := by
    unfold startMsg
    rw [← hentries, ← hn]
    exact hmsg₄
  refine ⟨buf₄, ?_, hmsg⟩
  have h₂' : putCfgTlvs cfg_vals buf₁ 16 = some (buf₂, 16 + n, 0) := by
    rw [hn]
    exact h₂
  have h₄' : buf₃.write 12 (leBytes (BitVec.ofNat 32 (16 + n - 16))) = some buf₄ := by
    rw [Nat.add_sub_cancel_left]
    exact h₄
  simp only [SmdFn.startWith, h₁, hlen₁, h₂', h₃, h₄', Option.bind_eq_bind, Option.bind_some,
    Option.pure_def, ne_eq, not_true_eq_false, if_false, hframed.field_len hmsg]

/-- `wcn36xx_smd_start`: an entry for each of `wcn36xx_cfg_vals`. -/
theorem clean_start : Clean SmdFn.start.compose := by
  rw [SmdFn.start_eq]
  exact .inr ⟨_, startWith_composes wcn36xx_cfg_vals (by decide)⟩

/-- `init_hal_msg` clears the message in the buffer, and brings the header to its front. -/
theorem initHalMsgAt_spec (hal_buf : HalBuf) (msg_type : BitVec 16) :
    ∃ hal_buf', initHalMsgAt msg_type sizeofMcAddrList hal_buf = some hal_buf' ∧
      (initHalMsg msg_type (sizeofMcAddrList + HalMsgHeader.size)).bytes ++ zeros sizeofMcAddrList <+:
        hal_buf'.bytes := by
  obtain ⟨hal_buf', h, hmsg⟩ := @prepareHalBuf_spec hal_buf
    (initHalMsg msg_type (sizeofMcAddrList + HalMsgHeader.size)) [] sizeofMcAddrList rfl (by decide)
  exact ⟨hal_buf', h, hmsg⟩

/-- The last byte of the list is set when everything else has been. -/
theorem setBssIndex_spec {hal_buf : HalBuf} {header : HalMsgHeader} {list : List Byte}
    (bss_index : Byte) (hlist : list.length = sizeofMcAddrList)
    (h : header.bytes ++ list <+: hal_buf.bytes) :
    ∃ hal_buf', hal_buf.write (HalMsgHeader.size + sizeofMcAddrList - 1) [bss_index] =
        some hal_buf' ∧
      header.bytes ++ (list.take (sizeofMcAddrList - 1) ++ [bss_index]) <+: hal_buf'.bytes := by
  have hlast : (list.drop (sizeofMcAddrList - 1)).length = 1 := by
    rw [List.length_drop, hlist]
    rfl
  have hfront : (header.bytes ++ list.take (sizeofMcAddrList - 1)).length =
      HalMsgHeader.size + sizeofMcAddrList - 1 := by
    rw [List.length_append, List.length_take, hlist]
    rfl
  have hmsg : (header.bytes ++ list.take (sizeofMcAddrList - 1)) ++
      (list.drop (sizeofMcAddrList - 1) ++ []) <+: hal_buf.bytes := by
    rwa [List.append_nil, List.append_assoc, List.take_append_drop]
  obtain ⟨hal_buf', hwrite, hmsg'⟩ := @HalBuf.write_over _ _ _ _ [bss_index] hmsg hlast.symm
  refine ⟨hal_buf', hfront ▸ hwrite, ?_⟩
  rwa [List.append_nil, List.append_assoc] at hmsg'

/-- The list that is in the buffer before `bss_index` is set. -/
def mcAddrList (fp : Option (Vector Byte sizeofMcAddrList)) : List Byte :=
  match fp with
  | some fp => fp.toList
  | none => zeros sizeofMcAddrList

/-- The message of `wcn36xx_smd_set_mc_list`. -/
def mcListMsg (bss_index : Byte) (list : List Byte) : List Byte :=
  (initHalMsg HalReq.MULTICAST_LIST_8023.reqType (sizeofMcAddrList + HalMsgHeader.size)).bytes ++
    (list.take (sizeofMcAddrList - 1) ++ [bss_index])

/-- The list has its size. -/
theorem length_mcAddrList (fp : Option (Vector Byte sizeofMcAddrList)) :
    (mcAddrList fp).length = sizeofMcAddrList := by
  cases fp with
  | some fp => exact fp.length_toList
  | none => exact List.length_replicate

/-- `wcn36xx_smd_set_mc_list`: the list is composed in the buffer. -/
theorem composes_setMcList (vif : WcnVif) (fp : Option (Vector Byte sizeofMcAddrList)) :
    Framed (mcListMsg vif.bss_index (mcAddrList fp)) ∧
      Composes (SmdFn.setMcList vif fp).compose (mcListMsg vif.bss_index (mcAddrList fp)) := by
  obtain ⟨header, hheader⟩ : ∃ header, header =
    initHalMsg HalReq.MULTICAST_LIST_8023.reqType (sizeofMcAddrList + HalMsgHeader.size) := ⟨_, rfl⟩
  have hlen : header.len.toNat = HalMsgHeader.size + sizeofMcAddrList := by rw [hheader]; rfl
  obtain ⟨list, hlist⟩ : ∃ list, list = mcAddrList fp := ⟨_, rfl⟩
  have hsize : list.length = sizeofMcAddrList := by rw [hlist, length_mcAddrList]
  unfold mcListMsg
  rw [← hheader, ← hlist]
  have hbody : (list.take (sizeofMcAddrList - 1) ++ [vif.bss_index]).length = sizeofMcAddrList := by
    rw [List.length_append, List.length_take, hsize]
    rfl
  have hframed : Framed (header.bytes ++ (list.take (sizeofMcAddrList - 1) ++ [vif.bss_index])) :=
    framed_header (by rw [hbody, hlen]) (by rw [hbody]; decide)
  refine ⟨hframed, fun hal_buf => ?_⟩
  obtain ⟨buf₁, h₁, hmsg₁⟩ := initHalMsgAt_spec hal_buf HalReq.MULTICAST_LIST_8023.reqType
  rw [← hheader] at hmsg₁
  have hcopy : ∃ buf₂, (match fp with
      | some fp => buf₁.write HalMsgHeader.size fp.toList
      | none => buf₁.write (HalMsgHeader.size + 1) (leBytes 0)) = some buf₂ ∧
      header.bytes ++ list <+: buf₂.bytes := by
    rw [hlist]
    unfold mcAddrList
    cases fp with
    | some fp =>
      have hold : fp.toList.length = (zeros sizeofMcAddrList).length := by
        rw [fp.length_toList, zeros, List.length_replicate]
      obtain ⟨buf₂, h₂, hmsg₂⟩ := @HalBuf.write_over buf₁ header.bytes (zeros sizeofMcAddrList) []
        fp.toList (by rw [List.append_nil]; exact hmsg₁) hold
      rw [List.append_nil] at hmsg₂
      exact ⟨buf₂, h₂, hmsg₂⟩
    | none =>
      have hsplit : zeros sizeofMcAddrList = [0] ++ (leBytes 0 ++ zeros 1441) := rfl
      rw [hsplit, ← List.append_assoc] at hmsg₁ ⊢
      obtain ⟨buf₂, h₂, hmsg₂⟩ := @HalBuf.write_over _ _ _ _ (leBytes 0) hmsg₁ rfl
      exact ⟨buf₂, h₂, hmsg₂⟩
  obtain ⟨buf₂, h₂, hmsg₂⟩ := hcopy
  obtain ⟨buf₃, h₃, hmsg₃⟩ := setBssIndex_spec vif.bss_index hsize hmsg₂
  refine ⟨buf₃, ?_, hmsg₃⟩
  cases fp with
  | some fp =>
    have h₂' : buf₁.write HalMsgHeader.size fp.toList = some buf₂ := h₂
    simp only [SmdFn.setMcList, h₁, h₂', h₃, Option.bind_eq_bind, Option.bind_some, Option.pure_def,
      hframed.field_len hmsg₃]
  | none =>
    have h₂' : buf₁.write (HalMsgHeader.size + 1) (leBytes 0) = some buf₂ := h₂
    simp only [SmdFn.setMcList, h₁, h₂', h₃, Option.bind_eq_bind, Option.bind_some, Option.pure_def,
      hframed.field_len hmsg₃]

/-- It does not depend on the buffer. -/
theorem clean_setMcList (vif : WcnVif) (fp : Option (Vector Byte sizeofMcAddrList)) :
    Clean (SmdFn.setMcList vif fp).compose :=
  .inr ⟨_, composes_setMcList vif fp⟩

/-! ## Messages of fixed size -/

/-- 16-bit fields are two bytes each. -/
theorem length_flatMap_leBytes16 (ws : List (BitVec 16)) :
    (ws.flatMap leBytes16).length = 2 * ws.length := by
  induction ws with
  | nil => rfl
  | cons w ws ih =>
    rw [List.flatMap_cons, List.length_append, ih, length_leBytes16, List.length_cons]
    omega

/-- A 64-bit field is eight bytes. -/
theorem length_leBytes64 (w : BitVec 64) : (leBytes64 w).length = 8 := rfl

/-- A part that is all zero. -/
@[simp]
theorem length_zeros (n : ℕ) : (zeros n).length = n := List.length_replicate

/-- `sizeof(struct wcn36xx_hal_supported_rates)`. -/
@[simp]
theorem length_supportedRates (rates : HalSupportedRates) : rates.bytes.length = 58 := by
  simp only [HalSupportedRates.bytes, List.length_append, length_flatMap_leBytes16, length_leBytes,
    length_leBytes16, Vector.length_toList]

/-- `sizeof(struct wcn36xx_hal_mac_ssid)`. -/
@[simp]
theorem length_macSsid (ssid : HalMacSsid) : ssid.bytes.length = 33 := by
  simp only [HalMacSsid.bytes, List.length_cons, Vector.length_toList]

/-- `sizeof(struct wcn36xx_hal_config_sta_params)`. -/
@[simp]
theorem length_configStaParams (p : HalConfigStaParams) : p.bytes.length = 105 := by
  simp only [HalConfigStaParams.bytes, List.length_append, List.length_cons, List.length_nil,
    length_leBytes, length_leBytes16, Vector.length_toList, length_supportedRates]

/-- `sizeof(struct wcn36xx_hal_config_sta_params_v1)`. -/
@[simp]
theorem length_configStaParamsV1 (p : HalConfigStaParamsV1) : p.bytes.length = 106 := by
  simp only [HalConfigStaParamsV1.bytes, List.length_append, List.length_cons, List.length_nil,
    length_leBytes, length_leBytes16, Vector.length_toList, length_supportedRates]

/-- `sizeof(struct wcn36xx_hal_config_bss_params)`. -/
theorem length_configBssParams (p : HalConfigBssParams) : p.bytes.length = 461 := by
  have hvec : ∀ (n : ℕ) (v : Vector Byte n), v.toList.length = n := fun _ v => v.length_toList
  unfold HalConfigBssParams.bytes
  simp only [List.length_append, List.length_cons, List.length_nil,
    length_leBytes, length_leBytes16, length_configStaParams, length_macSsid]
  rw [hvec 6, hvec 6, hvec 13, hvec 4, hvec 4, hvec 4, hvec 4, hvec 240]

/-- `sizeof(struct wcn36xx_hal_config_bss_params_v1)`. -/
theorem length_configBssParamsV1 (p : HalConfigBssParamsV1) : p.bytes.length = 462 := by
  have hvec : ∀ (n : ℕ) (v : Vector Byte n), v.toList.length = n := fun _ v => v.length_toList
  unfold HalConfigBssParamsV1.bytes
  simp only [List.length_append, List.length_cons, List.length_nil,
    length_leBytes, length_leBytes16, length_configStaParamsV1, length_macSsid]
  rw [hvec 6, hvec 6, hvec 13, hvec 4, hvec 4, hvec 4, hvec 4, hvec 240]

/-- A key's array is four of `struct wcn36xx_hal_keys`. -/
@[simp]
theorem length_keysBytes (id unicast : Byte) (direction : BitVec 32) (pae_role : Byte)
    (length : BitVec 16) (key : Vector Byte WCN36XX_HAL_MAC_MAX_KEY_LENGTH) :
    (keysBytes id unicast direction pae_role length key).length = 4 * 57 := by
  simp only [keysBytes, List.length_append, List.length_cons, List.length_nil, length_leBytes,
    length_leBytes16, length_zeros]
  rw [key.length_toList]
  rfl

/-- A copy that fits. -/
theorem memcpyTo_of_le {n : ℕ} {bs : List Byte} (h : bs.length ≤ n) :
    ∃ v, memcpyTo n bs = some v := ⟨_, if_pos h⟩

/-- A message whose body is composed on the way: nothing of that depends on the buffer. -/
theorem clean_of_fixedMsg {compose : HalBuf → Option Composed} {req : HalReq} {body : List Byte}
    (hcompose : ∀ hal_buf, compose hal_buf = fixedMsg req body hal_buf)
    (hle : HalMsgHeader.size + body.length ≤ WCN36XX_HAL_BUF_SIZE) : Clean compose := by
  rw [funext hcompose]
  exact clean_fixedMsg req body hle

/-- The template of a beacon stays as long as the field it is copied to. -/
theorem padTim_spec {beacon : List Byte} {len tim_off : ℕ} {pvm_len pad : ℤ}
    (hbeacon : beacon.length = BEACON_TEMPLATE_SIZE) (hlen : len ≤ BEACON_TEMPLATE_SIZE)
    (htim : pad > 0 → (tim_off + 5 + pvm_len).toNat ≤ len)
    (hpad : pad > 0 → len + pad ≤ BEACON_TEMPLATE_SIZE) :
    ∃ beacon', padTim beacon len tim_off pvm_len pad = some beacon' ∧
      beacon'.length = BEACON_TEMPLATE_SIZE := by
  unfold padTim
  split_ifs with hpos
  · dsimp only
    rw [if_pos ⟨htim hpos, hpad hpos⟩]
    refine ⟨_, rfl, ?_⟩
    have hend := htim hpos
    have hroom := hpad hpos
    simp only [List.length_modify, List.length_append, List.length_take, List.length_drop, hbeacon,
      length_zeros]
    omega
  · exact ⟨beacon, rfl, hbeacon⟩

/-- The template of a beacon fits the field it is copied to, and a TIM ends inside it. On a mesh `tim_off`
is 0 and there is no TIM. -/
def BeaconInBounds (vif : WcnVif) (skb_beacon : List Byte) (tim_off : BitVec 16) : Prop :=
  skb_beacon.length ≤ BEACON_TEMPLATE_SIZE ∧
    ∃ tim_len ∈ skb_beacon[tim_off.toNat + 1]?,
      vif.type = .MESH_POINT ∨ tim_off.toNat + 2 + tim_len.toNat ≤ skb_beacon.length

/-- `pad` of `wcn36xx_smd_send_beacon`, for the length byte of the TIM. -/
def beaconPad (vif : WcnVif) (tim_len : Byte) : ℤ :=
  if vif.type = .MESH_POINT then 0 else TIM_MIN_PVM_SIZE - (tim_len.toNat - 3)

/-- `beacon_length`, a `u32`. -/
def beaconLength (vif : WcnVif) (skb_beacon : List Byte) (tim_len : Byte) : BitVec 32 :=
  BitVec.ofInt 32 (skb_beacon.length + beaconPad vif tim_len)

/-- What is composed for a beacon when the template is known. -/
def beaconBody (vif : WcnVif) (tim_off p2p_off : BitVec 16) (beacon_length : BitVec 32)
    (beacon : List Byte) : List Byte :=
  leBytes (beacon_length + 6) ++ leBytes beacon_length ++ beacon ++ (ethAddr vif.addr).toList ++
    leBytes (if vif.type = .MESH_POINT then 256 else BitVec.ofNat 32 (tim_off.toNat + 4)) ++
    leBytes16 p2p_off

section SendBeacon

variable {vif : WcnVif} {skb_beacon : List Byte} {tim_off : BitVec 16} (p2p_off : BitVec 16)
  {tim_len : Byte} (htim : skb_beacon[tim_off.toNat + 1]? = some tim_len)
include htim

/-- A `beacon_length` above the size of the template is refused. -/
theorem sendBeacon_refused (h : BEACON_TEMPLATE_SIZE < (beaconLength vif skb_beacon tim_len).toNat)
    (hal_buf : HalBuf) :
    (SmdFn.sendBeacon vif skb_beacon tim_off p2p_off).compose hal_buf =
      some (.refused (-ENOMEM)) := by
  unfold beaconLength beaconPad at h
  simp only [SmdFn.sendBeacon, htim, if_pos h, Option.bind_eq_bind, Option.bind_some,
    Option.pure_def]

/-- Otherwise the beacon is copied and padded. -/
theorem sendBeacon_eq (h : (beaconLength vif skb_beacon tim_len).toNat ≤ BEACON_TEMPLATE_SIZE)
    (hal_buf : HalBuf) :
    (SmdFn.sendBeacon vif skb_beacon tim_off p2p_off).compose hal_buf =
      (memcpyTo BEACON_TEMPLATE_SIZE skb_beacon).bind fun beacon =>
        (padTim beacon.toList skb_beacon.length tim_off.toNat (tim_len.toNat - 3)
            (beaconPad vif tim_len)).bind fun beacon =>
          fixedMsg .SEND_BEACON (beaconBody vif tim_off p2p_off
            (beaconLength vif skb_beacon tim_len) beacon) hal_buf := by
  unfold beaconLength beaconPad at h
  simp only [SmdFn.sendBeacon, htim, if_neg (Nat.not_lt.mpr h), Option.bind_eq_bind,
    Option.bind_some]
  rfl

end SendBeacon

/-- A message with a template of the size of its field fits `hal_buf`. -/
theorem length_beaconBody (vif : WcnVif) (tim_off p2p_off : BitVec 16) (beacon_length : BitVec 32)
    {beacon : List Byte} (h : beacon.length = BEACON_TEMPLATE_SIZE) :
    HalMsgHeader.size + (beaconBody vif tim_off p2p_off beacon_length beacon).length ≤
      WCN36XX_HAL_BUF_SIZE := by
  simp only [beaconBody, List.length_append, h, length_leBytes, length_leBytes16,
    Vector.length_toList]
  decide

/-- `wcn36xx_smd_send_beacon`: too long with its padding, or a structure of fixed size. -/
theorem clean_sendBeacon {vif : WcnVif} {skb_beacon : List Byte} {tim_off p2p_off : BitVec 16}
    (h : BeaconInBounds vif skb_beacon tim_off) :
    Clean (SmdFn.sendBeacon vif skb_beacon tim_off p2p_off).compose := by
  obtain ⟨hlen, tim_len, htim, hinside⟩ := h
  have hsize : BEACON_TEMPLATE_SIZE = 380 := rfl
  have hmin : TIM_MIN_PVM_SIZE = 6 := rfl
  have hbyte := tim_len.isLt
  rcases Nat.lt_or_ge BEACON_TEMPLATE_SIZE (beaconLength vif skb_beacon tim_len).toNat with
    hbig | hfits
  · exact .inl ⟨-ENOMEM, sendBeacon_refused p2p_off htim hbig⟩
  · obtain ⟨beacon, hbeacon⟩ := memcpyTo_of_le hlen
    have hroom : beaconPad vif tim_len > 0 →
        skb_beacon.length + beaconPad vif tim_len ≤ BEACON_TEMPLATE_SIZE := by
      intro hpos
      have hmax : beaconPad vif tim_len ≤ 9 := by
        unfold beaconPad
        split_ifs <;> omega
      rw [beaconLength, BitVec.toNat_ofInt] at hfits
      omega
    have hend : beaconPad vif tim_len > 0 →
        ((tim_off.toNat : ℤ) + 5 + (tim_len.toNat - 3)).toNat ≤ skb_beacon.length := by
      intro hpos
      rcases hinside with hmesh | hle
      · rw [beaconPad, if_pos hmesh] at hpos
        exact absurd hpos (lt_irrefl 0)
      · omega
    obtain ⟨beacon', hpadded, hlen'⟩ := padTim_spec beacon.length_toList hlen hend hroom
    refine @clean_of_fixedMsg _ .SEND_BEACON _ (fun hal_buf => ?_)
      (length_beaconBody vif tim_off p2p_off (beaconLength vif skb_beacon tim_len) hlen')
    rw [sendBeacon_eq p2p_off htim hfits hal_buf, hbeacon, Option.bind_some, hpadded,
      Option.bind_some]

/-- `wcn36xx_smd_update_proberesp_tmpl`: too long, or a structure of fixed size. -/
theorem clean_updateProberespTmpl (vif : WcnVif) (skb : List Byte) :
    Clean (SmdFn.updateProberespTmpl vif skb).compose := by
  rcases Nat.lt_or_ge BEACON_TEMPLATE_SIZE skb.length with hbig | hfits
  · refine .inl ⟨-E2BIG, fun hal_buf => ?_⟩
    simp only [SmdFn.updateProberespTmpl, if_pos hbig, Option.pure_def]
  · obtain ⟨template, htemplate⟩ := memcpyTo_of_le hfits
    have hcompose : ∀ hal_buf, (SmdFn.updateProberespTmpl vif skb).compose hal_buf =
        fixedMsg .UPDATE_PROBE_RSP_TEMPLATE
          (template.toList ++ leBytes (BitVec.ofNat 32 skb.length) ++ zeros 32 ++
            (ethAddr vif.addr).toList ++ zeros 2) hal_buf := by
      intro hal_buf
      simp only [SmdFn.updateProberespTmpl, if_neg (Nat.not_lt.mpr hfits), htemplate,
        Option.bind_eq_bind, Option.bind_some]
    refine clean_of_fixedMsg hcompose ?_
    simp only [List.length_append, length_leBytes, length_zeros, Vector.length_toList]
    decide

/-- `wcn36xx_smd_set_stakey`. -/
theorem clean_setStakey (enc_type : AniEdType) (keyidx : Byte) {key : List Byte} (sta_index : Byte)
    (hkey : key.length ≤ WCN36XX_HAL_MAC_MAX_KEY_LENGTH) :
    Clean (SmdFn.setStakey enc_type keyidx key sta_index).compose := by
  obtain ⟨keys, hkeys⟩ := memcpyTo_of_le hkey
  have hcompose : ∀ hal_buf, (SmdFn.setStakey enc_type keyidx key sta_index).compose hal_buf =
      fixedMsg .SET_STAKEY
        (leBytes16 (wide16 sta_index) ++ leBytes enc_type.num ++ leBytes 0 ++ [0] ++
          keysBytes keyidx 1 2 0 (BitVec.ofNat 16 key.length) keys ++ [1]) hal_buf := by
    intro hal_buf
    simp only [SmdFn.setStakey, hkeys, Option.bind_eq_bind, Option.bind_some]
  refine clean_of_fixedMsg hcompose ?_
  simp only [List.length_append, length_leBytes, length_leBytes16, length_keysBytes]
  decide

/-- `wcn36xx_smd_set_bsskey`. -/
theorem clean_setBsskey (enc_type : AniEdType) (keyidx : Byte) {key : List Byte}
    (hkey : key.length ≤ WCN36XX_HAL_MAC_MAX_KEY_LENGTH) :
    Clean (SmdFn.setBsskey enc_type keyidx key).compose := by
  obtain ⟨keys, hkeys⟩ := memcpyTo_of_le hkey
  have hcompose : ∀ hal_buf, (SmdFn.setBsskey enc_type keyidx key).compose hal_buf =
      fixedMsg .SET_BSSKEY
        ([0] ++ leBytes enc_type.num ++ [1] ++
          keysBytes keyidx 0 1 0 (BitVec.ofNat 16 key.length) keys ++ [0]) hal_buf := by
    intro hal_buf
    simp only [SmdFn.setBsskey, hkeys, Option.bind_eq_bind, Option.bind_some]
  refine clean_of_fixedMsg hcompose ?_
  simp only [List.length_append, length_leBytes, length_keysBytes]
  decide

/-- `wcn36xx_smd_keep_alive_req`: one structure for both types of packets that there are. -/
theorem clean_keepAliveReq (vif : WcnVif) (packet_type : ℤ) :
    Clean (SmdFn.keepAliveReq vif packet_type).compose := by
  by_cases hnull : packet_type = 1
  · exact clean_of_fixedMsg (fun hal_buf => if_pos hnull)
      (show HalMsgHeader.size + 20 ≤ WCN36XX_HAL_BUF_SIZE by decide)
  · by_cases harp : packet_type = 2
    · exact clean_of_fixedMsg (fun hal_buf => (if_neg hnull).trans (if_pos harp)) (by decide)
    · exact .inl ⟨-EINVAL, fun hal_buf => (if_neg hnull).trans (if_neg harp)⟩

/-- `wcn36xx_smd_config_sta` in both formats. -/
theorem clean_configSta (old_fw : Bool) (hw : HwConf) (vif : WcnVif) (sta : StaConf) :
    Clean (SmdFn.configSta old_fw hw vif sta).compose := by
  refine clean_fixedMsg .CONFIG_STA _ ?_
  split_ifs
  · rw [length_configStaParams]
    decide
  · rw [length_configStaParamsV1]
    decide

/-- `wcn36xx_smd_config_bss` in both formats. -/
theorem clean_configBss (old_fw : Bool) (hw : HwConf) {vif : WcnVif} (bss_conf : BssConf)
    (sta : Option StaConf) (bssid : List Byte) (update : Bool) (hssid : vif.ssid.length ≤ 32) :
    Clean (SmdFn.configBss old_fw hw vif bss_conf sta bssid update).compose := by
  obtain ⟨bss, hbss⟩ := configBssParams_of_ssid_le hw vif bss_conf sta bssid update hssid
  have hcompose : ∀ hal_buf,
      (SmdFn.configBss old_fw hw vif bss_conf sta bssid update).compose hal_buf =
        fixedMsg .CONFIG_BSS (if old_fw then bss.bytes else (smdConfigBssV1 bss).bytes) hal_buf := by
    intro hal_buf
    simp only [SmdFn.configBss, hbss, Option.bind_eq_bind, Option.bind_some]
  refine clean_of_fixedMsg hcompose ?_
  split_ifs
  · rw [length_configBssParams]
    decide
  · rw [length_configBssParamsV1]
    decide

/-- The arguments are in the bounds that the callers keep. -/
def SmdRequest.InBounds : SmdRequest → Prop
  | .setStakey _ _ key _ => key.length ≤ WCN36XX_HAL_MAC_MAX_KEY_LENGTH
  | .setBsskey _ _ key => key.length ≤ WCN36XX_HAL_MAC_MAX_KEY_LENGTH
  | .configBss _ _ vif _ _ _ _ => vif.ssid.length ≤ 32
  | .sendBeacon vif skb_beacon tim_off _ => BeaconInBounds vif skb_beacon tim_off
  | .updateProberespTmpl _ skb => skb.length ≤ BEACON_TEMPLATE_SIZE
  | _ => True

/-- Every request function composes a message that does not depend on the buffer. -/
theorem SmdRequest.clean (r : SmdRequest) (h : r.InBounds) : Clean r.fn.compose := by
  cases r with
  | start => exact clean_start
  | configSta old_fw hw vif sta => exact clean_configSta old_fw hw vif sta
  | configBss old_fw hw vif bss_conf sta bssid update =>
    exact clean_configBss old_fw hw bss_conf sta bssid update h
  | sendBeacon vif skb_beacon tim_off p2p_off => exact clean_sendBeacon h
  | updateProberespTmpl vif skb => exact clean_updateProberespTmpl vif skb
  | setStakey enc_type keyidx key sta_index => exact clean_setStakey enc_type keyidx sta_index h
  | setBsskey enc_type keyidx key => exact clean_setBsskey enc_type keyidx h
  | setPowerParams hw ignore_dtim =>
    refine clean_fixedMsg .SET_POWER_PARAMS _ ?_
    simp only [List.length_append, apply_ite List.length, length_leBytes, ite_self]
    decide
  | keepAliveReq vif packet_type => exact clean_keepAliveReq vif packet_type
  | featureCapsExchange => exact clean_fixedMsg .FEATURE_CAPS_EXCHANGE _ (by decide)
  | triggerBa sta_index => exact clean_triggerBa sta_index
  | updateCfg cfg_id value => exact clean_updateCfg cfg_id value
  | setMcList vif fp => exact clean_setMcList vif fp
  | _ =>
    refine clean_fixedMsg _ _ ?_
    simp only [List.length_append, List.length_cons, List.length_nil, length_leBytes,
      length_leBytes16, length_leBytes64, length_zeros, Vector.length_toList]
    decide

/-! ## What is sent -/

/-- What has been sent when the messages are sent one after another, each when the response to the one before
it is one of success. A response longer than `hal_buf` is a fault. -/
def sendAll (fw : Firmware) : (sent : List (List Byte)) → (msgs : List (List Byte)) →
    Option (List (List Byte))
  | sent, [] => some sent
  | sent, msg :: msgs =>
    match fw (sent ++ [msg]) with
    | .txError _ _ => some (sent ++ [msg])
    | .timeout => some (sent ++ [msg])
    | .response rsp =>
      if rsp.length ≤ WCN36XX_HAL_BUF_SIZE then
        if smdRspStatusCheck rsp rsp.length ≠ 0 then some (sent ++ [msg])
        else sendAll fw (sent ++ [msg]) msgs
      else none

/-- Only these messages are sent. -/
theorem sendAll_append {fw : Firmware} (msgs : List (List Byte)) : ∀ {sent sent' : List (List Byte)},
    sendAll fw sent msgs = some sent' → ∃ msgs', sent' = sent ++ msgs' ∧ msgs' <+: msgs := by
  induction msgs with
  | nil =>
    intro sent sent' h
    cases h
    exact ⟨[], (List.append_nil _).symm, List.nil_prefix⟩
  | cons msg msgs ih =>
    intro sent sent' h
    have hfirst : ∃ msgs', sent ++ [msg] = sent ++ msgs' ∧ msgs' <+: msg :: msgs :=
      ⟨[msg], rfl, msgs, rfl⟩
    unfold sendAll at h
    split at h
    · cases h
      exact hfirst
    · cases h
      exact hfirst
    · split_ifs at h with hle hstatus
      · cases h
        exact hfirst
      · obtain ⟨msgs', rfl, hmsgs'⟩ := ih h
        exact ⟨msg :: msgs', by rw [List.append_assoc, List.singleton_append],
          List.cons_prefix_cons.mpr ⟨rfl, hmsgs'⟩⟩

/-- One message is sent, whatever the response to it is. -/
theorem sendAll_singleton {fw : Firmware} {sent sent' : List (List Byte)} {msg : List Byte}
    (h : sendAll fw sent [msg] = some sent') : sent' = sent ++ [msg] := by
  unfold sendAll at h
  split at h
  · exact (Option.some.inj h).symm
  · exact (Option.some.inj h).symm
  · split_ifs at h
    · exact (Option.some.inj h).symm
    · exact (Option.some.inj h).symm

/-- The firmware's responses fit `hal_buf`. -/
def FitsHalBuf (fw : Firmware) : Prop :=
  ∀ sent rsp, fw sent = .response rsp → rsp.length ≤ WCN36XX_HAL_BUF_SIZE

/-- Then there is no fault. -/
theorem sendAll_isSome {fw : Firmware} (hfw : FitsHalBuf fw) (msgs : List (List Byte)) :
    ∀ sent, (sendAll fw sent msgs).isSome := by
  induction msgs with
  | nil => exact fun _ => rfl
  | cons msg msgs ih =>
    intro sent
    unfold sendAll
    split
    · rfl
    · rfl
    · rename_i rsp hrsp
      rw [if_pos (hfw _ _ hrsp)]
      split_ifs
      · rfl
      · exact ih _

/-- What a function has sent that sends a message, returns an error of `wcn36xx_smd_send_and_wait`, and goes
on with the response. -/
theorem sent_sendAndWait {ρ : Type} {fw : Firmware} {smd : Smd} {len : ℕ} {msg : List Byte}
    {msgs : List (List Byte)} {cont : Smd × ℤ → Option (Smd × ρ)}
    (hread : smd.hal_buf.read len = some msg)
    (herror : ∀ smd₁ ret, ret ≠ 0 →
      (cont (smd₁, ret)).map (fun out => out.1.sent) = some smd₁.sent)
    (hrsp : ∀ smd₁ : Smd, smd₁.sent = smd.sent ++ [msg] → ∀ rsp : List Byte,
      smd₁.hal_rsp_len = rsp.length → smd₁.hal_buf.bytes.take rsp.length = rsp →
      (cont (smd₁, 0)).map (fun out => out.1.sent) =
        if smdRspStatusCheck rsp rsp.length ≠ 0 then some smd₁.sent
        else sendAll fw smd₁.sent msgs) :
    ((smdSendAndWait fw smd len).bind cont).map (fun out => out.1.sent) =
      sendAll fw smd.sent (msg :: msgs) := by
  unfold smdSendAndWait sendAll
  rw [hread]
  simp only [Option.bind_eq_bind, Option.bind_some]
  cases hfw : fw (smd.sent ++ [msg]) with
  | txError ret ne =>
    simp only [Option.pure_def, Option.bind_some]
    exact herror _ _ ne
  | timeout =>
    simp only [Option.pure_def, Option.bind_some]
    exact herror _ _ (by decide)
  | response rsp =>
    rcases Nat.lt_or_ge WCN36XX_HAL_BUF_SIZE rsp.length with hbig | hle
    · have hwrite : smd.hal_buf.write 0 rsp = none := smd.hal_buf.write_of_gt (by omega)
      simp only [hwrite, Option.bind_none, Option.map_none, if_neg (Nat.not_le.mpr hbig)]
    · obtain ⟨hal_buf, hwrite, hbytes⟩ := smd.hal_buf.write_of_le 0 rsp (by omega)
      simp only [hwrite, Option.bind_some, Option.pure_def, if_pos hle]
      refine hrsp _ rfl rsp rfl ?_
      rw [hbytes, List.take_zero, List.nil_append, List.take_left]

/-- A message that is composed is what a request sends. -/
theorem Composes.sends {r : SmdRequest} {msg : List Byte} (h : Composes r.fn.compose msg)
    (fw : Firmware) (smd : Smd) :
    (smdCall fw (.request r) smd).map (fun out => out.1.sent) = sendAll fw smd.sent [msg] := by
  obtain ⟨hal_buf, hcompose, hmsg⟩ := h smd.hal_buf
  simp only [smdCall, hcompose, Option.bind_eq_bind, Option.bind_some]
  refine @sent_sendAndWait _ fw { smd with hal_buf := hal_buf } _ msg [] _
    (HalBuf.read_of_startsWith hmsg) (fun smd₁ ret hne => ?_) (fun smd₁ _ rsp _ _ => ?_)
  · simp only [if_pos hne, Option.pure_def, Option.map_some]
  · simp only [ne_eq, not_true_eq_false, if_false, Option.pure_def, Option.map_some, sendAll,
      ite_self]

/-- A request is one message, or none. -/
theorem request_sends (fw : Firmware) {r : SmdRequest} (h : r.InBounds) :
    ∃ msgs : List (List Byte), (∀ msg ∈ msgs, Framed msg) ∧ ∀ smd : Smd,
      (smdCall fw (.request r) smd).map (fun out => out.1.sent) = sendAll fw smd.sent msgs := by
  rcases r.clean h with ⟨ret, hrefused⟩ | ⟨msg, hframed, hcomposes⟩
  · refine ⟨[], by simp, fun smd => ?_⟩
    simp only [smdCall, hrefused, Option.bind_eq_bind, Option.bind_some, Option.pure_def,
      Option.map_some, sendAll]
  · exact ⟨[msg], by simpa using hframed, hcomposes.sends fw⟩

/-! ## The fragments of the NV image -/

section LoadNv

variable {fw : Firmware} {nv : List Byte} {fm_offset : BitVec 16}

/-- One iteration sends its fragment, and the next ones what is left. -/
theorem smdLoadNvLoop_sends {msg m : NvImgDownloadReqMsg} {chunk : List Byte} {fuel : ℕ}
    {rest : List (List Byte)} (hm : nvFragmentMsg msg (fwBytesLeft nv.length fm_offset) = m)
    (hread : readNv nv (NvData.tableOffset + fm_offset.toNat) m.nv_img_buffer_size.toNat =
      some chunk)
    (hle : chunk.length ≤ WCN36XX_NV_FRAGMENT_SIZE)
    (hlen : m.header.len.toNat = NvImgDownloadReqMsg.size + chunk.length)
    (hrest : ∀ smd : Smd, (if m.last_fragment ≠ 1 then
        smdLoadNvLoop fw nv fuel { m with frag_number := m.frag_number + 1 }
          (fm_offset + BitVec.ofNat 16 WCN36XX_NV_FRAGMENT_SIZE) smd
      else some (smd, 0)).map (fun out => out.1.sent) = sendAll fw smd.sent rest) (smd : Smd) :
    (smdLoadNvLoop fw nv (fuel + 1) msg fm_offset smd).map (fun out => out.1.sent) =
      sendAll fw smd.sent ((m.bytes ++ chunk) :: rest) := by
  have hfs : NvImgDownloadReqMsg.size + WCN36XX_NV_FRAGMENT_SIZE ≤ WCN36XX_HAL_BUF_SIZE := by
    decide
  obtain ⟨buf₁, buf₂, h₁, h₂, hmsg⟩ := smd.hal_buf.compose m.bytes chunk
    (by rw [NvImgDownloadReqMsg.length_bytes]; omega)
  rw [NvImgDownloadReqMsg.length_bytes] at h₂ hmsg
  unfold smdLoadNvLoop
  simp only [hm, h₁, hread, h₂, hlen, Option.bind_eq_bind, Option.bind_some]
  refine @sent_sendAndWait _ fw { smd with hal_buf := buf₂ } _ _ rest _ hmsg
    (fun smd₁ ret hne => ?_) (fun smd₁ _ rsp hrsp htake => ?_)
  · simp only [if_pos hne, Option.pure_def, Option.map_some]
  · have hsame : smdRspStatusCheck smd₁.hal_buf.bytes rsp.length =
        smdRspStatusCheck rsp rsp.length := by
      refine smdRspStatusCheck_same ?_
      rw [htake, List.take_length]
    simp only [ne_eq, not_true_eq_false, if_false, Option.pure_def, hrsp, hsame]
    split_ifs with hok hlast
    · rw [← hrest smd₁, if_neg (not_not.mpr hlast)]
    · rw [← hrest smd₁, if_pos hlast]
    · rfl

/-- A fragment behind its message is framed. -/
theorem framed_fragment {m : NvImgDownloadReqMsg} {chunk : List Byte}
    (hle : chunk.length ≤ WCN36XX_NV_FRAGMENT_SIZE)
    (hlen : m.header.len.toNat = NvImgDownloadReqMsg.size + chunk.length) :
    Framed (m.bytes ++ chunk) := by
  have hfs : NvImgDownloadReqMsg.size + WCN36XX_NV_FRAGMENT_SIZE ≤ WCN36XX_HAL_BUF_SIZE := by
    decide
  have hbytes : m.bytes ++ chunk = m.header.bytes ++ (leBytes16 m.frag_number ++
      leBytes16 m.last_fragment ++ leBytes m.nv_img_buffer_size ++ chunk) := by
    simp only [NvImgDownloadReqMsg.bytes, List.append_assoc]
  have hbody : HalMsgHeader.size + (leBytes16 m.frag_number ++ leBytes16 m.last_fragment ++
      leBytes m.nv_img_buffer_size ++ chunk).length = NvImgDownloadReqMsg.size + chunk.length := by
    simp only [List.length_append, length_leBytes, length_leBytes16, HalMsgHeader.size,
      NvImgDownloadReqMsg.size]
    omega
  rw [hbytes]
  exact framed_header (by rw [hbody, hlen]) (by rw [hbody]; omega)

/-- The last iteration. -/
theorem smdLoadNvLoop_last_message (msg : NvImgDownloadReqMsg) (fuel : ℕ)
    (hpos : 0 ≤ fwBytesLeft nv.length fm_offset)
    (hleft : fwBytesLeft nv.length fm_offset ≤ WCN36XX_NV_FRAGMENT_SIZE) :
    ∃ msgs : List (List Byte), (∀ m ∈ msgs, Framed m) ∧ ∀ smd : Smd,
      (smdLoadNvLoop fw nv (fuel + 1) msg fm_offset smd).map (fun out => out.1.sent) =
        sendAll fw smd.sent msgs := by
  obtain ⟨m, hm⟩ : ∃ m, nvFragmentMsg msg (fwBytesLeft nv.length fm_offset) = m := ⟨_, rfl⟩
  obtain ⟨hn, hlast, hheader⟩ := nvFragmentMsg_last msg hpos hleft
  rw [hm] at hn hlast hheader
  obtain ⟨hread, hclen⟩ := readNv_of_le nv (fwBytesLeft_le hpos)
  rw [← hn] at hread hclen hheader
  have hlen : m.header.len.toNat = NvImgDownloadReqMsg.size +
      ((nv.drop (NvData.tableOffset + fm_offset.toNat)).take
        m.nv_img_buffer_size.toNat).length := by
    rw [hclen, hheader]
  have hle : ((nv.drop (NvData.tableOffset + fm_offset.toNat)).take
      m.nv_img_buffer_size.toNat).length ≤ WCN36XX_NV_FRAGMENT_SIZE := by
    rw [hclen, hn]
    omega
  refine ⟨_, by simpa using framed_fragment hle hlen,
    @smdLoadNvLoop_sends _ _ _ _ _ _ _ [] hm hread hle hlen fun smd => ?_⟩
  rw [if_neg (not_not.mpr hlast)]
  rfl

/-- An iteration with more than a fragment left. -/
theorem smdLoadNvLoop_more_messages {msg : NvImgDownloadReqMsg} {fuel : ℕ}
    (hmsg : msg.header.len.toNat = NvImgDownloadReqMsg.size + WCN36XX_NV_FRAGMENT_SIZE)
    (hleft : (WCN36XX_NV_FRAGMENT_SIZE : ℤ) < fwBytesLeft nv.length fm_offset)
    (hnext : ∀ next : NvImgDownloadReqMsg,
      next.header.len.toNat = NvImgDownloadReqMsg.size + WCN36XX_NV_FRAGMENT_SIZE →
      ∃ msgs : List (List Byte), (∀ m ∈ msgs, Framed m) ∧ ∀ smd : Smd,
        (smdLoadNvLoop fw nv fuel next (fm_offset + BitVec.ofNat 16 WCN36XX_NV_FRAGMENT_SIZE)
          smd).map (fun out => out.1.sent) = sendAll fw smd.sent msgs) :
    ∃ msgs : List (List Byte), (∀ m ∈ msgs, Framed m) ∧ ∀ smd : Smd,
      (smdLoadNvLoop fw nv (fuel + 1) msg fm_offset smd).map (fun out => out.1.sent) =
        sendAll fw smd.sent msgs := by
  obtain ⟨m, hm⟩ : ∃ m, nvFragmentMsg msg (fwBytesLeft nv.length fm_offset) = m := ⟨_, rfl⟩
  obtain ⟨hn, hlast, hsame⟩ := nvFragmentMsg_more msg hleft
  rw [hm] at hn hlast hsame
  obtain ⟨hread, hclen⟩ := readNv_more hleft
  rw [← hn] at hread hclen
  have hheader : m.header.len.toNat = NvImgDownloadReqMsg.size + WCN36XX_NV_FRAGMENT_SIZE := by
    rw [hsame, hmsg]
  have hlen : m.header.len.toNat = NvImgDownloadReqMsg.size +
      ((nv.drop (NvData.tableOffset + fm_offset.toNat)).take
        m.nv_img_buffer_size.toNat).length := by
    rw [hclen, hheader, hn]
  have hle : ((nv.drop (NvData.tableOffset + fm_offset.toNat)).take
      m.nv_img_buffer_size.toNat).length ≤ WCN36XX_NV_FRAGMENT_SIZE := by
    rw [hclen, hn]
  have hmore : m.last_fragment ≠ 1 := by
    rw [hlast]
    decide
  obtain ⟨rest, hframed, hrest⟩ := hnext { m with frag_number := m.frag_number + 1 } hheader
  refine ⟨_, List.forall_mem_cons.mpr ⟨framed_fragment hle hlen, hframed⟩,
    smdLoadNvLoop_sends hm hread hle hlen fun smd => ?_⟩
  rw [if_pos hmore]
  exact hrest smd

end LoadNv

/-- The messages from fragment `k` on depend on the file only. The induction is on the number of iterations
that are allowed after this one. -/
theorem smdLoadNvLoop_messages (fw : Firmware) (nv : List Byte) (fuel : ℕ) :
    ∀ k (msg : NvImgDownloadReqMsg),
      msg.header.len.toNat = NvImgDownloadReqMsg.size + WCN36XX_NV_FRAGMENT_SIZE →
      k + fuel < nvMaxFragments →
      NvData.tableOffset + k * WCN36XX_NV_FRAGMENT_SIZE ≤ nv.length →
      nv.length ≤ NvData.tableOffset + (k + fuel + 1) * WCN36XX_NV_FRAGMENT_SIZE →
      ∃ msgs : List (List Byte), (∀ m ∈ msgs, Framed m) ∧ ∀ smd : Smd,
        (smdLoadNvLoop fw nv (fuel + 1) msg
          (BitVec.ofNat 16 (k * WCN36XX_NV_FRAGMENT_SIZE)) smd).map (fun out => out.1.sent) =
            sendAll fw smd.sent msgs := by
  have hfs : WCN36XX_NV_FRAGMENT_SIZE = 3072 := rfl
  have htab : NvData.tableOffset = 4 := rfl
  have hmax : nvMaxFragments = 22 := rfl
  have hmul : ∀ a, a * WCN36XX_NV_FRAGMENT_SIZE = 3072 * a := fun a => Nat.mul_comm a _
  -- What is left from fragment `k` on: the position has not wrapped.
  have hleft : ∀ k, k < nvMaxFragments →
      NvData.tableOffset + k * WCN36XX_NV_FRAGMENT_SIZE ≤ nv.length →
      nv.length ≤ NvData.tableOffset + nvMaxFragments * WCN36XX_NV_FRAGMENT_SIZE →
      fwBytesLeft nv.length (BitVec.ofNat 16 (k * WCN36XX_NV_FRAGMENT_SIZE)) =
        nv.length - 4 - 3072 * k := by
    intro k hk hge hle
    rw [hmul] at hge hle
    rw [fwBytesLeft_of_lt (by omega), BitVec.toNat_ofNat, hmul]
    omega
  induction fuel with
  | zero =>
    intro k msg hlen hk hge hle
    have hk₀ := hmul k
    have hk₁ := hmul (k + 0 + 1)
    have hk' := hleft k (by omega) hge (by rw [hmul]; omega)
    exact smdLoadNvLoop_last_message msg 0 (by omega) (by omega)
  | succ fuel ih =>
    intro k msg hlen hk hge hle
    have hk₀ := hmul k
    have hk₁ := hmul (k + 1)
    have hk₂ := hmul (k + (fuel + 1) + 1)
    have hk₃ := hmul (k + 1 + fuel + 1)
    have hk' := hleft k (by omega) hge (by rw [hmul]; omega)
    rcases Nat.lt_or_ge (NvData.tableOffset + (k + 1) * WCN36XX_NV_FRAGMENT_SIZE) nv.length with
      hmore | hlast
    · refine smdLoadNvLoop_more_messages hlen (by omega) fun next hnext => ?_
      rw [ofNat_add_fragment]
      exact ih (k + 1) next hnext (by omega) (by omega) (by omega)
    · exact smdLoadNvLoop_last_message msg (fuel + 1) (by omega) (by omega)

/-! ## All functions -/

/-- The call is in the bounds that the callers keep; an NV file has its prefix, and no more fragments than the
position can count. -/
def SmdCall.InBounds (smd : Smd) : SmdCall → Prop
  | .loadNv request_firmware => ∀ nv ∈ nvFile smd request_firmware,
    NvData.tableOffset ≤ nv.length ∧
      nv.length ≤ NvData.tableOffset + nvMaxFragments * WCN36XX_NV_FRAGMENT_SIZE
  | .request r => r.InBounds

/-- What `wcn36xx_smd_load_nv` sends depends on the file only. -/
theorem loadNv_sends (fw : Firmware) {request_firmware : ℤ ⊕ List Byte} {smd : Smd}
    (h : (SmdCall.loadNv request_firmware).InBounds smd) :
    ∃ msgs : List (List Byte), (∀ msg ∈ msgs, Framed msg) ∧ ∀ smd' : Smd, smd'.nv = smd.nv →
      (smdCall fw (.loadNv request_firmware) smd').map (fun out => out.1.sent) =
        sendAll fw smd'.sent msgs := by
  have hcall : ∀ smd' : Smd, (smdCall fw (.loadNv request_firmware) smd').map
      (fun out => out.1.sent) =
        (smdLoadNv fw request_firmware nvMaxFragments smd').map fun out => out.1.sent := by
    intro smd'
    cases hrun : smdLoadNv fw request_firmware nvMaxFragments smd' with
    | none => simp only [smdCall, hrun, Option.bind_eq_bind, Option.bind_none, Option.map_none]
    | some out =>
      simp only [smdCall, hrun, Option.bind_eq_bind, Option.bind_some, Option.pure_def,
        Option.map_some]
  simp only [hcall]
  cases hfile : nvFile smd request_firmware with
  | none =>
    -- No file: an error of `request_firmware` is returned.
    refine ⟨[], by simp, fun smd' hnv => ?_⟩
    unfold nvFile at hfile
    rw [← hnv] at hfile
    unfold smdLoadNv
    cases hnv' : smd'.nv with
    | some nv =>
      rw [hnv'] at hfile
      cases hfile
    | none =>
      cases request_firmware with
      | inl ret => rfl
      | inr nv =>
        rw [hnv'] at hfile
        cases hfile
  | some nv =>
    obtain ⟨hge, hle⟩ := h nv (by rw [hfile]; rfl)
    have hhdr : nvMsgInit.header.len.toNat =
        NvImgDownloadReqMsg.size + WCN36XX_NV_FRAGMENT_SIZE := by decide
    obtain ⟨msgs, hframed, hmsgs⟩ := smdLoadNvLoop_messages fw nv 21 0 nvMsgInit hhdr (by decide)
      (by rw [Nat.zero_mul]; exact hge) hle
    rw [Nat.zero_mul] at hmsgs
    refine ⟨msgs, hframed, fun smd' hnv => ?_⟩
    have hfile' : nvFile smd' request_firmware = some nv := by
      rw [← hfile, nvFile, nvFile, hnv]
    obtain ⟨smd₀, hsent, hloop⟩ := smdLoadNv_eq fw hfile'
    rw [hloop, ← hsent]
    exact hmsgs smd₀

/-- A call sends the same messages whatever is in `hal_buf`, and each is framed. -/
theorem call_sends (fw : Firmware) {c : SmdCall} {smd : Smd} (h : c.InBounds smd) :
    ∃ msgs : List (List Byte), (∀ msg ∈ msgs, Framed msg) ∧ ∀ smd' : Smd, smd'.nv = smd.nv →
      (smdCall fw c smd').map (fun out => out.1.sent) = sendAll fw smd'.sent msgs := by
  cases c with
  | loadNv request_firmware => exact loadNv_sends fw h
  | request r =>
    obtain ⟨msgs, hframed, hmsgs⟩ := request_sends fw h
    exact ⟨msgs, hframed, fun smd' _ => hmsgs smd'⟩

/-- A call from two states of the driver that differ in `hal_buf`. -/
structure SentAlike (fw : Firmware) (c : SmdCall) (smd smd' : Smd) : Prop where
  /-- The bytes that are given to `ctrl_ops->tx` are the same. -/
  same : (smdCall fw c smd).map (fun out => out.1.sent) =
    (smdCall fw c smd').map (fun out => out.1.sent)
  /-- They are as many as `header.len` says, and fit `hal_buf`. -/
  framed : ∀ out ∈ smdCall fw c smd, ∃ msgs, out.1.sent = smd.sent ++ msgs ∧
    ∀ msg ∈ msgs, Framed msg
  /-- There is no fault, unless a response is longer than `hal_buf`. -/
  runs : FitsHalBuf fw → (smdCall fw c smd).isSome

/-- Whatever `hal_buf` holds, every request function sends the same bytes, as many as `header.len` says and no
more than `WCN36XX_HAL_BUF_SIZE`. -/
theorem sentAlike (fw : Firmware) (c : SmdCall) (smd smd' : Smd) (h : c.InBounds smd)
    (hnv : smd'.nv = smd.nv) (hsent : smd'.sent = smd.sent) : SentAlike fw c smd smd' := by
  obtain ⟨msgs, hframed, hmsgs⟩ := call_sends fw h
  have hself := hmsgs smd rfl
  refine ⟨?_, ?_, ?_⟩
  · rw [hself, hmsgs smd' hnv, hsent]
  · intro out hout
    rw [Option.mem_def.mp hout, Option.map_some] at hself
    obtain ⟨msgs', hout', hfront⟩ := sendAll_append msgs hself.symm
    exact ⟨msgs', hout', fun msg hmsg => hframed msg (hfront.subset hmsg)⟩
  · intro hfw
    have hsome := sendAll_isSome hfw msgs smd.sent
    rwa [← hself, Option.isSome_map] at hsome

/-- A buffer in which every byte is left over. -/
def dirtySmd : Smd where
  hal_buf := ⟨List.replicate WCN36XX_HAL_BUF_SIZE 0xff, List.length_replicate⟩

/-- A key of 16 bytes, set with a buffer of zeros and with a dirty one. -/
theorem sentAlike_set_stakey : SentAlike ackFirmware
    (.request (.setStakey .CCMP 0 (List.replicate 16 0x5a) 1)) zeroSmd dirtySmd :=
  sentAlike ackFirmware _ zeroSmd dirtySmd
    (show (List.replicate 16 (0x5a : Byte)).length ≤ WCN36XX_HAL_MAC_MAX_KEY_LENGTH by decide)
    rfl rfl

end Wcn36xx
