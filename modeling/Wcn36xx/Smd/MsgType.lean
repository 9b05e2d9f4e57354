import Wcn36xx.Smd.Hal

/-!
# Message types

`enum wcn36xx_hal_host_msg_type`, as far as the driver uses it: the requests that the functions of `smd.c`
send with the response that belongs to each, and the indications that the firmware sends on its
own. `wcn36xx_smd_rsp_process` tells the three apart by these numbers alone.
-/

namespace Wcn36xx

/-- The requests that the driver sends: `WCN36XX_HAL_` in front and `_REQ` behind give the names of
the source. -/
inductive HalReq where
  | START
  | STOP
  | INIT_SCAN
  | START_SCAN
  | END_SCAN
  | FINISH_SCAN
  | CONFIG_STA
  | DELETE_STA
  | CONFIG_BSS
  | DELETE_BSS
  | JOIN
  | SET_BSSKEY
  | SET_STAKEY
  | RMV_BSSKEY
  | RMV_STAKEY
  | ADD_BA
  | DEL_BA
  | CH_SWITCH
  | SET_LINK_ST
  | UPDATE_CFG
  | DOWNLOAD_NV
  | ADD_BA_SESSION
  | TRIGGER_BA
  | SEND_BEACON
  | UPDATE_PROBE_RSP_TEMPLATE
  | ENTER_BMPS
  | EXIT_BMPS
  | DUMP_COMMAND
  | ADD_STA_SELF
  | DEL_STA_SELF
  | KEEP_ALIVE
  | UPDATE_SCAN_PARAM
  | MULTICAST_LIST_8023
  | SET_POWER_PARAMS
  | FEATURE_CAPS_EXCHANGE
  deriving DecidableEq, Repr

namespace HalReq

/-- All requests. -/
def all : List HalReq :=
  [START, STOP, INIT_SCAN, START_SCAN, END_SCAN, FINISH_SCAN, CONFIG_STA, DELETE_STA, CONFIG_BSS,
    DELETE_BSS, JOIN, SET_BSSKEY, SET_STAKEY, RMV_BSSKEY, RMV_STAKEY, ADD_BA, DEL_BA, CH_SWITCH,
    SET_LINK_ST, UPDATE_CFG, DOWNLOAD_NV, ADD_BA_SESSION, TRIGGER_BA, SEND_BEACON,
    UPDATE_PROBE_RSP_TEMPLATE, ENTER_BMPS, EXIT_BMPS, DUMP_COMMAND, ADD_STA_SELF, DEL_STA_SELF,
    KEEP_ALIVE, UPDATE_SCAN_PARAM, MULTICAST_LIST_8023, SET_POWER_PARAMS, FEATURE_CAPS_EXCHANGE]

/-- The `_REQ` number. -/
def reqType : HalReq → BitVec 16
  | START => 0
  | STOP => 2
  | INIT_SCAN => 4
  | START_SCAN => 6
  | END_SCAN => 8
  | FINISH_SCAN => 10
  | CONFIG_STA => 12
  | DELETE_STA => 14
  | CONFIG_BSS => 16
  | DELETE_BSS => 18
  | JOIN => 20
  | SET_BSSKEY => 24
  | SET_STAKEY => 26
  | RMV_BSSKEY => 28
  | RMV_STAKEY => 30
  | ADD_BA => 38
  | DEL_BA => 40
  | CH_SWITCH => 42
  | SET_LINK_ST => 44
  | UPDATE_CFG => 48
  | DOWNLOAD_NV => WCN36XX_HAL_DOWNLOAD_NV_REQ
  | ADD_BA_SESSION => 57
  | TRIGGER_BA => 59
  | SEND_BEACON => 63
  | UPDATE_PROBE_RSP_TEMPLATE => 68
  | ENTER_BMPS => 78
  | EXIT_BMPS => 79
  | DUMP_COMMAND => 121
  | ADD_STA_SELF => 125
  | DEL_STA_SELF => 127
  | KEEP_ALIVE => 145
  | UPDATE_SCAN_PARAM => 151
  | MULTICAST_LIST_8023 => 157
  | SET_POWER_PARAMS => 166
  | FEATURE_CAPS_EXCHANGE => 175

/-- The `_RSP` number of the response that belongs to the request. -/
def rspType : HalReq → BitVec 16
  | START => 1
  | STOP => 3
  | INIT_SCAN => 5
  | START_SCAN => 7
  | END_SCAN => 9
  | FINISH_SCAN => 11
  | CONFIG_STA => 13
  | DELETE_STA => 15
  | CONFIG_BSS => 17
  | DELETE_BSS => 19
  | JOIN => 21
  | SET_BSSKEY => 25
  | SET_STAKEY => 27
  | RMV_BSSKEY => 29
  | RMV_STAKEY => 31
  | ADD_BA => 39
  | DEL_BA => 41
  | CH_SWITCH => 43
  | SET_LINK_ST => 45
  | UPDATE_CFG => 49
  | DOWNLOAD_NV => 56
  | ADD_BA_SESSION => 58
  | TRIGGER_BA => 60
  | SEND_BEACON => 64
  | UPDATE_PROBE_RSP_TEMPLATE => 69
  | ENTER_BMPS => 97
  | EXIT_BMPS => 98
  | DUMP_COMMAND => 122
  | ADD_STA_SELF => 126
  | DEL_STA_SELF => 128
  | KEEP_ALIVE => 146
  | UPDATE_SCAN_PARAM => 152
  | MULTICAST_LIST_8023 => 158
  | SET_POWER_PARAMS => 167
  | FEATURE_CAPS_EXCHANGE => 176

/-- The list of requests is complete. -/
theorem mem_all (req : HalReq) : req ∈ all := by cases req <;> decide

/-- A request is known by its number. -/
theorem reqType_injective {req req' : HalReq} (h : req.reqType = req'.reqType) : req = req' := by
  have hall : ∀ q ∈ all, ∀ q' ∈ all, q.reqType = q'.reqType → q = q' := by decide +kernel
  exact hall req req.mem_all req' req'.mem_all h

/-- No number is that of a request and of a response. -/
theorem reqType_ne_rspType (req req' : HalReq) : req.reqType ≠ req'.rspType := by
  have hall : ∀ q ∈ all, ∀ q' ∈ all, q.reqType ≠ q'.rspType := by decide +kernel
  exact hall req req.mem_all req' req'.mem_all

end HalReq

/-- The indications that the driver handles: `WCN36XX_HAL_` in front and `_IND` behind. -/
inductive HalInd where
  | OTA_TX_COMPL
  | MISSED_BEACON
  | DELETE_STA_CONTEXT
  deriving DecidableEq, Repr

/-- The `_IND` number. -/
def HalInd.indType : HalInd → BitVec 16
  | OTA_TX_COMPL => 130
  | MISSED_BEACON => 50
  | DELETE_STA_CONTEXT => 67

/-- `msg_type` of a message. -/
def msgType (msg : List Byte) : BitVec 16 := BitVec.ofNat 16 (field msg 0 2)

/-- What `wcn36xx_smd_rsp_process` takes a message for. -/
inductive SmdMsg where
  | rsp (req : HalReq)
  | ind (ind : HalInd)
  | notSupported
  deriving DecidableEq, Repr

/-- The `switch` of `wcn36xx_smd_rsp_process`. -/
def smdMsgOf (type : BitVec 16) : SmdMsg :=
  match HalReq.all.find? fun req => req.rspType == type with
  | some req => .rsp req
  | none =>
    if type = HalInd.OTA_TX_COMPL.indType then .ind .OTA_TX_COMPL
    else if type = HalInd.MISSED_BEACON.indType then .ind .MISSED_BEACON
    else if type = HalInd.DELETE_STA_CONTEXT.indType then .ind .DELETE_STA_CONTEXT
    else .notSupported

/-- Every response is taken for what it is. -/
@[simp]
theorem smdMsgOf_rspType (req : HalReq) : smdMsgOf req.rspType = .rsp req := by
  cases req <;> rfl

/-- Every indication is taken for what it is: no response has its number. -/
@[simp]
theorem smdMsgOf_indType (ind : HalInd) : smdMsgOf ind.indType = .ind ind := by
  cases ind <;> rfl

/-- The type of a message that starts with a header. -/
theorem msgType_header (hdr : HalMsgHeader) (body : List Byte) :
    msgType (hdr.bytes ++ body) = hdr.msg_type := by
  have hfield : field (hdr.bytes ++ body) 0 2 = readLe (leBytes16 hdr.msg_type) := by
    rw [HalMsgHeader.bytes, List.append_assoc, List.append_assoc]
    exact @field_append [] (leBytes16 hdr.msg_type) _ 0 2 rfl rfl
  rw [msgType, hfield, readLe_leBytes16, BitVec.ofNat_toNat, BitVec.setWidth_eq]

/-! ## Messages in `hal_buf` -/

namespace HalBuf

/-- A copy into the buffer fits, and replaces the bytes it covers. -/
theorem bytes_of_write {buf buf' : HalBuf} {offset : ℕ} {bs : List Byte}
    (h : buf.write offset bs = some buf') : offset + bs.length ≤ WCN36XX_HAL_BUF_SIZE ∧
      buf'.bytes = buf.bytes.take offset ++ bs ++ buf.bytes.drop (offset + bs.length) := by
  unfold write at h
  split_ifs at h with hle
  cases h
  exact ⟨hle, rfl⟩

/-- What is copied to the front of the buffer is read from it. -/
theorem read_of_write {buf buf' : HalBuf} {bs : List Byte} (h : buf.write 0 bs = some buf') :
    buf'.read bs.length = some bs := by
  obtain ⟨hle, hbytes⟩ := bytes_of_write h
  rw [Nat.zero_add] at hle
  rw [read, if_pos hle, hbytes, List.take_zero, List.nil_append, List.take_left]

/-- The message that is sent is of the type of the buffer. -/
theorem msgType_of_read {buf : HalBuf} {len : ℕ} {msg : List Byte} (hlen : 2 ≤ len)
    (h : buf.read len = some msg) : msgType msg = msgType buf.bytes := by
  unfold read at h
  split_ifs at h
  cases h
  have hmin : min 2 len = 2 := min_eq_left hlen
  rw [msgType, msgType, field, field, List.drop_zero, List.drop_zero, List.take_take, hmin]

/-- A write behind the type does not change it. -/
theorem msgType_of_write {buf buf' : HalBuf} {offset : ℕ} {bs : List Byte} (hoff : 2 ≤ offset)
    (h : buf.write offset bs = some buf') : msgType buf'.bytes = msgType buf.bytes := by
  obtain ⟨hle, hbytes⟩ := bytes_of_write h
  have hlen : 2 ≤ (buf.bytes.take offset).length := by
    rw [List.length_take, buf.length_eq]
    omega
  have hmin : min 2 offset = 2 := min_eq_left hoff
  rw [msgType, msgType, field, field, hbytes, List.drop_zero, List.drop_zero, List.append_assoc,
    List.take_append_of_le_length hlen, List.take_take, hmin]

/-- A message that is composed at the front of the buffer gives it its type. -/
theorem msgType_of_compose {buf buf' : HalBuf} {hdr : HalMsgHeader} {body : List Byte}
    (h : buf.write 0 (hdr.bytes ++ body) = some buf') : msgType buf'.bytes = hdr.msg_type := by
  have hlen : 2 ≤ (hdr.bytes ++ body).length := by
    rw [List.length_append]
    exact Nat.le_add_right_of_le (show 2 ≤ HalMsgHeader.size by decide)
  rw [← msgType_of_read hlen (read_of_write h), msgType_header]

end HalBuf

end Wcn36xx
