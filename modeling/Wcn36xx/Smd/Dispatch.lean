import Wcn36xx.Mac.Interface

/-!
# The bytes that the dispatcher and the handlers touch

`wcn36xx_smd_rsp_process` gets a message from the transport, with its length. It reads `msg_type`, copies
a response to `hal_buf`, and an indication to a buffer of its own, which `wcn36xx_ind_smd_work` gives to
a handler later. The model records every access with its place and size (`SmdAccess`). Memory goes on
behind a message, so that a read beyond its end has a value too, which may be any (`SmdRx`).

The handlers compare the length with the size of their structure first. The dispatcher compares it with
nothing: neither with the two bytes of `msg_type` that it reads nor with `WCN36XX_HAL_BUF_SIZE`.
`inBounds_iff` says that these two comparisons are exactly what is missing.
-/

namespace Wcn36xx

/-- The memory that is accessed. -/
inductive SmdRegion where
  /-- The message that the transport delivers. -/
  | msg
  /-- `hal_buf`. -/
  | halBuf
  /-- `msg_ind->msg`. -/
  | indMsg
  deriving DecidableEq

/-- An access to `size` bytes. -/
structure SmdAccess where
  region : SmdRegion
  offset : ℕ
  size : ℕ
  deriving DecidableEq

/-- A message with the memory behind it, and behind its copy in `msg_ind->msg` if it gets one. -/
structure SmdRx where
  msg : List Byte
  behind : ℕ → Byte
  copy_behind : ℕ → Byte

namespace SmdRx

variable (rx : SmdRx)

/-- A byte at the address of the message. -/
def byte (i : ℕ) : Byte := rx.msg.getD i (rx.behind i)

/-- A byte at the address of the copy. -/
def copyByte (i : ℕ) : Byte := rx.msg.getD i (rx.copy_behind i)

/-- `msg_header->msg_type`. -/
def msg_type : BitVec 16 := rx.byte 1 ++ rx.byte 0

/-- `msg_header->msg_type` of the copy. -/
def copyType : BitVec 16 := rx.copyByte 1 ++ rx.copyByte 0

/-- The bytes of a region, as they were allocated. `kmalloc` has the length for its size. -/
def sizeOf : SmdRegion → ℕ
  | .msg => rx.msg.length
  | .halBuf => WCN36XX_HAL_BUF_SIZE
  | .indMsg => rx.msg.length

/-- The access stays inside its region. -/
def Inside (a : SmdAccess) : Prop := a.offset + a.size ≤ rx.sizeOf a.region

end SmdRx

/-! ## `wcn36xx_smd_rsp_process` -/

/-- What the dispatcher does with a message. -/
inductive SmdDispatch where
  /-- `complete(&wcn->hal_rsp_compl)`; `hal_buf` is `none` when the copy has gone beyond its end. -/
  | response (hal_buf : Option HalBuf) (hal_rsp_len : ℕ)
  /-- The copy is in `hal_ind_queue`. -/
  | queued
  /-- An error is printed. -/
  | dropped

/-- A read of `msg_header->msg_type`. -/
def SmdAccess.msgType (region : SmdRegion) : SmdAccess := ⟨region, 0, 2⟩

/-- `wcn36xx_smd_rsp_process`, with the accesses in their order; the booleans say which of its two calls
of `kmalloc` succeed. -/
def smdRspProcess (rx : SmdRx) (hal_buf : HalBuf) (ind_ok msg_ok : Bool) :
    SmdDispatch × List SmdAccess :=
  let len := rx.msg.length
  -- `wcn36xx_dbg_dump`, and the `switch`
  let accesses := [⟨.msg, 0, len⟩, .msgType .msg]
  match smdMsgOf rx.msg_type with
  | .rsp _ =>
    (.response (hal_buf.write 0 rx.msg) len, accesses ++ [⟨.msg, 0, len⟩, ⟨.halBuf, 0, len⟩])
  | .ind _ =>
    if ind_ok && msg_ok then (.queued, accesses ++ [⟨.msg, 0, len⟩, ⟨.indMsg, 0, len⟩])
    -- `Run out of memory while handling SMD_EVENT (%d)`
    else (.dropped, accesses ++ [.msgType .msg])
  -- `SMD_EVENT (%d) not supported`
  | .notSupported => (.dropped, accesses ++ [.msgType .msg])

/-! ## The handlers -/

/-- What a handler tells mac80211, or `wcn36xx_dxe_tx_ack_ind`. -/
inductive IndCall where
  | txAckInd (status : BitVec 32)
  | connectionLoss (vif : ℕ)
  | reportLowAck (sta : ℕ)

/-- What a handler does: its calls, its reads of the message (offset and size), and the return value. -/
structure IndResult where
  ret : ℤ
  calls : List IndCall := []
  reads : List (ℕ × ℕ) := []

/-- What the handlers look at besides the message: the version of the firmware, the interfaces, and
`ieee80211_find_sta`. -/
structure IndEnv where
  old_fw : Bool
  mac : MacConf
  find_sta : ℕ → List Byte → Option ℕ

/-- `sizeof(struct wcn36xx_hal_tx_compl_ind_msg)`. -/
def sizeofTxComplInd : ℕ := 12
/-- `sizeof(struct wcn36xx_hal_delete_sta_context_ind_msg)`. -/
def sizeofDeleteStaContextInd : ℕ := 26

namespace Recorded

/-- `wcn36xx_smd_tx_compl_ind`. -/
def smdTxComplInd (msg : List Byte) : IndResult :=
  -- `Bad TX complete indication`
  if msg.length ≠ sizeofTxComplInd then { ret := - EIO }
  else
    { ret := 0
      calls := [.txAckInd (BitVec.ofNat 32 (field msg 8 4))]
      reads := [(8, 4)] }

/-- The loop over the interfaces for the one with the index. -/
def missedBeaconLoop (mac : MacConf) (bss_index : Byte) : List ℕ → IndResult
  -- `BSS index %d not found`
  | [] => { ret := -ENOENT, reads := [(8, 1)] }
  | tmp :: rest =>
    if (mac.vif tmp).any fun priv => priv.bss_index == bss_index then
      { ret := 0, calls := [.connectionLoss tmp], reads := [(8, 1), (8, 1)] }
    else
      let result := missedBeaconLoop mac bss_index rest
      { result with reads := (8, 1) :: result.reads }

/-- `wcn36xx_smd_missed_beacon_ind`. -/
def smdMissedBeaconInd (env : IndEnv) (msg : List Byte) : IndResult :=
  -- Old FW does not have bss index.
  if env.old_fw then { ret := 0, calls := env.mac.vif_list.map .connectionLoss }
  -- `Corrupted missed beacon indication`
  else if msg.length ≠ sizeofMissedBeaconInd then { ret := - EIO }
  else missedBeaconLoop env.mac (BitVec.ofNat 8 (field msg 8 1)) env.mac.vif_list

/-- The loop over the interfaces for the one that has the station. -/
def deleteStaLoop (env : IndEnv) (addr2 : List Byte) : List ℕ → IndResult
  -- `STA with addr %pM and index %d not found`
  | [] => { ret := -ENOENT, reads := [(18, 6), (10, 2)] }
  | tmp :: rest =>
    match env.find_sta tmp addr2 with
    | some sta => { ret := 0, calls := [.reportLowAck sta], reads := [(18, 6)] }
    | none =>
      let result := deleteStaLoop env addr2 rest
      { result with reads := (18, 6) :: result.reads }

/-- `wcn36xx_smd_delete_sta_context_ind`. -/
def smdDeleteStaContextInd (env : IndEnv) (msg : List Byte) : IndResult :=
  -- `Corrupted delete sta indication`
  if msg.length ≠ sizeofDeleteStaContextInd then { ret := - EIO }
  else
    let result := deleteStaLoop env ((msg.drop 18).take 6) env.mac.vif_list
    -- `delete station indication %pM index %d`
    { result with reads := (18, 6) :: (10, 2) :: result.reads }

end Recorded

/-- The handler of an indication. -/
def indHandler (env : IndEnv) : HalInd → List Byte → IndResult
  | .OTA_TX_COMPL, msg => Recorded.smdTxComplInd msg
  | .MISSED_BEACON, msg => Recorded.smdMissedBeaconInd env msg
  | .DELETE_STA_CONTEXT, msg => Recorded.smdDeleteStaContextInd env msg

/-- `wcn36xx_ind_smd_work` with the copy of a message: what it reads. -/
def indSmdWork (env : IndEnv) (rx : SmdRx) : List SmdAccess :=
  .msgType .indMsg ::
    match smdMsgOf rx.copyType with
    | .ind ind => (indHandler env ind rx.msg).reads.map fun read => ⟨.indMsg, read.1, read.2⟩
    -- `SMD_EVENT (%d) not supported`
    | _ => [.msgType .indMsg]

/-! ## The bounds -/

/-- No byte outside is touched: not by the dispatcher, not by a handler, and not by the worker when the
message is queued for it. -/
structure InBounds (rx : SmdRx) (hal_buf : HalBuf) (ind_ok msg_ok : Bool) (env : IndEnv) : Prop where
  dispatcher : ∀ a ∈ (smdRspProcess rx hal_buf ind_ok msg_ok).2, rx.Inside a
  handlers : ∀ ind, ∀ read ∈ (indHandler env ind rx.msg).reads, read.1 + read.2 ≤ rx.msg.length
  worker : (smdRspProcess rx hal_buf ind_ok msg_ok).1 = .queued →
    ∀ a ∈ indSmdWork env rx, rx.Inside a

/-- The message has a type, and fits `hal_buf` if it is a response. -/
def SmdRx.Fits (rx : SmdRx) : Prop :=
  2 ≤ rx.msg.length ∧
    ∀ req, smdMsgOf (msgType rx.msg) = .rsp req → rx.msg.length ≤ WCN36XX_HAL_BUF_SIZE

/-! ## The handlers stay inside -/

/-- The reads of a handler that are inside the structure of its message. -/
def IndResult.Within (size : ℕ) (result : IndResult) : Prop :=
  ∀ read ∈ result.reads, read.1 + read.2 ≤ size

/-- A handler that returns at once reads nothing. -/
theorem IndResult.within_nil (size : ℕ) {result : IndResult} (h : result.reads = []) :
    result.Within size := by
  intro read hread
  rw [h] at hread
  exact absurd hread List.not_mem_nil

namespace Recorded

/-- The loop over the interfaces reads `bss_index` only. -/
theorem missedBeaconLoop_within (mac : MacConf) (bss_index : Byte) (vifs : List ℕ) :
    (missedBeaconLoop mac bss_index vifs).Within sizeofMissedBeaconInd := by
  have hbound : 8 + 1 ≤ sizeofMissedBeaconInd := le_refl _
  induction vifs with
  | nil =>
    intro read hread
    rw [List.mem_singleton.mp hread]
    exact hbound
  | cons tmp rest ih =>
    intro read hread
    unfold missedBeaconLoop at hread
    split_ifs at hread with hindex
    · rcases List.mem_cons.mp hread with rfl | hread
      · exact hbound
      · rw [List.mem_singleton.mp hread]
        exact hbound
    · rcases List.mem_cons.mp hread with rfl | hread
      · exact hbound
      · exact ih read hread

/-- The loop over the interfaces reads `addr2` and `sta_id` only. -/
theorem deleteStaLoop_within (env : IndEnv) (addr2 : List Byte) (vifs : List ℕ) :
    (deleteStaLoop env addr2 vifs).Within sizeofDeleteStaContextInd := by
  have haddr2 : 18 + 6 ≤ sizeofDeleteStaContextInd := by decide
  have hsta_id : 10 + 2 ≤ sizeofDeleteStaContextInd := by decide
  induction vifs with
  | nil =>
    intro read hread
    rcases List.mem_cons.mp hread with rfl | hread
    · exact haddr2
    · rw [List.mem_singleton.mp hread]
      exact hsta_id
  | cons tmp rest ih =>
    intro read hread
    unfold deleteStaLoop at hread
    split at hread
    · rw [List.mem_singleton.mp hread]
      exact haddr2
    · rcases List.mem_cons.mp hread with rfl | hread
      · exact haddr2
      · exact ih read hread

/-- The loop reports the first interface with the index. -/
theorem missedBeaconLoop_eq (mac : MacConf) (bss_index : Byte) (vifs : List ℕ) :
    ((missedBeaconLoop mac bss_index vifs).calls, (missedBeaconLoop mac bss_index vifs).ret) =
      match vifs.find? fun tmp => (mac.vif tmp).any fun priv => priv.bss_index == bss_index with
      | some tmp => ([.connectionLoss tmp], 0)
      | none => ([], -ENOENT) := by
  induction vifs with
  | nil => rfl
  | cons tmp rest ih =>
    unfold missedBeaconLoop
    rw [List.find?_cons]
    split_ifs with hindex
    · rw [hindex]
    · rw [Bool.not_eq_true] at hindex
      rw [hindex]
      exact ih

/-- With its reads recorded, the handler of missed beacons does what it does without. -/
theorem smdMissedBeaconInd_eq (env : IndEnv) (msg : List Byte) :
    ((smdMissedBeaconInd env msg).calls, (smdMissedBeaconInd env msg).ret) =
      ((Wcn36xx.smdMissedBeaconInd env.old_fw env.mac msg).1.map .connectionLoss,
        (Wcn36xx.smdMissedBeaconInd env.old_fw env.mac msg).2) := by
  unfold smdMissedBeaconInd Wcn36xx.smdMissedBeaconInd
  split_ifs with hfw hlen
  · rfl
  · rfl
  · have hindex : ∀ b : Byte, (some b == msg[HalMsgHeader.size]?) =
        (b == BitVec.ofNat 8 (field msg 8 1)) := by
      have hlt : 8 < msg.length := by
        rw [not_not.mp hlen]
        decide
      have hdrop : (msg.drop 8).take 1 = [msg[8]] := by
        rw [List.drop_eq_getElem_cons hlt]
        rfl
      have hfield : BitVec.ofNat 8 (field msg 8 1) = msg[8] := by
        rw [field, hdrop, readLe, readLe, Nat.mul_zero, Nat.add_zero, BitVec.ofNat_toNat,
          BitVec.setWidth_eq]
      intro b
      rw [HalMsgHeader.size, List.getElem?_eq_getElem hlt, hfield]
      rfl
    simp only [hindex]
    rw [missedBeaconLoop_eq]
    cases env.mac.vif_list.find? fun tmp =>
        (env.mac.vif tmp).any fun priv => priv.bss_index == BitVec.ofNat 8 (field msg 8 1) with
    | none => rfl
    | some tmp => rfl

end Recorded

/-- Every handler stays inside every message: it compares the length with the size of its structure
before it reads a field. -/
theorem indHandler_within (env : IndEnv) (ind : HalInd) (msg : List Byte) :
    (indHandler env ind msg).Within msg.length := by
  cases ind with
  | OTA_TX_COMPL =>
    rw [indHandler]
    unfold Recorded.smdTxComplInd
    split_ifs with hlen
    · exact IndResult.within_nil _ rfl
    · intro read hread
      rw [List.mem_singleton.mp hread, not_not.mp hlen]
      decide
  | MISSED_BEACON =>
    rw [indHandler]
    unfold Recorded.smdMissedBeaconInd
    split_ifs with hfw hlen
    · exact IndResult.within_nil _ rfl
    · exact IndResult.within_nil _ rfl
    · rw [not_not.mp hlen]
      exact Recorded.missedBeaconLoop_within _ _ _
  | DELETE_STA_CONTEXT =>
    rw [indHandler]
    unfold Recorded.smdDeleteStaContextInd
    split_ifs with hlen
    · exact IndResult.within_nil _ rfl
    · rw [not_not.mp hlen]
      intro read hread
      rcases List.mem_cons.mp hread with rfl | hread
      · decide
      · rcases List.mem_cons.mp hread with rfl | hread
        · decide
        · exact Recorded.deleteStaLoop_within _ _ _ read hread

/-! ## The dispatcher -/

namespace SmdRx

variable {rx : SmdRx}

/-- The type of a message that has one, whatever lies behind the message. -/
theorem type_eq (h : 2 ≤ rx.msg.length) (behind : ℕ → Byte) :
    rx.msg.getD 1 (behind 1) ++ rx.msg.getD 0 (behind 0) = msgType rx.msg := by
  match hmsg : rx.msg, h with
  | a :: b :: rest, _ =>
    have ha := a.isLt
    have hfield : field (a :: b :: rest) 0 2 = a.toNat + 256 * b.toNat := rfl
    apply BitVec.eq_of_toNat_eq
    rw [msgType, hfield]
    simp only [List.getD_cons_succ, List.getD_cons_zero, BitVec.toNat_append, BitVec.toNat_ofNat]
    rw [← Nat.shiftLeft_add_eq_or_of_lt ha, Nat.shiftLeft_eq]
    have hb := b.isLt
    omega

/-- An access to the type is inside the message if it has one. -/
theorem inside_msgType_iff (region : SmdRegion) (h : rx.sizeOf region = rx.msg.length) :
    rx.Inside (.msgType region) ↔ 2 ≤ rx.msg.length := by
  rw [Inside, SmdAccess.msgType, h, Nat.zero_add]

end SmdRx

/-- The dispatcher reads the type of every message. -/
theorem msgType_mem_accesses (rx : SmdRx) (hal_buf : HalBuf) (ind_ok msg_ok : Bool) :
    SmdAccess.msgType .msg ∈ (smdRspProcess rx hal_buf ind_ok msg_ok).2 := by
  unfold smdRspProcess
  dsimp only
  split
  · simp
  · split_ifs
    · simp
    · simp
  · simp

/-- The dispatcher copies all bytes of a response. -/
theorem halBuf_mem_accesses {rx : SmdRx} {req : HalReq} (h : smdMsgOf rx.msg_type = .rsp req)
    (hal_buf : HalBuf) (ind_ok msg_ok : Bool) :
    ⟨.halBuf, 0, rx.msg.length⟩ ∈ (smdRspProcess rx hal_buf ind_ok msg_ok).2 := by
  unfold smdRspProcess
  rw [h]
  simp

/-- An access of the dispatcher is to the type, or to a whole message, or it is the copy of a
response. -/
theorem smdRspProcess_accesses {rx : SmdRx} {hal_buf : HalBuf} {ind_ok msg_ok : Bool}
    {a : SmdAccess} (h : a ∈ (smdRspProcess rx hal_buf ind_ok msg_ok).2) :
    a = .msgType .msg ∨ a = ⟨.msg, 0, rx.msg.length⟩ ∨ a = ⟨.indMsg, 0, rx.msg.length⟩ ∨
      a = ⟨.halBuf, 0, rx.msg.length⟩ ∧ ∃ req, smdMsgOf rx.msg_type = .rsp req := by
  unfold smdRspProcess at h
  dsimp only at h
  split at h
  · rename_i req hreq
    simp only [List.cons_append, List.nil_append, List.mem_cons, List.not_mem_nil, or_false] at h
    rcases h with h | h | h | h
    · exact .inr (.inl h)
    · exact .inl h
    · exact .inr (.inl h)
    · exact .inr (.inr (.inr ⟨h, req, hreq⟩))
  · split_ifs at h
    · simp only [List.cons_append, List.nil_append, List.mem_cons, List.not_mem_nil,
        or_false] at h
      rcases h with h | h | h | h
      · exact .inr (.inl h)
      · exact .inl h
      · exact .inr (.inl h)
      · exact .inr (.inr (.inl h))
    · simp only [List.cons_append, List.nil_append, List.mem_cons, List.not_mem_nil,
        or_false] at h
      rcases h with h | h | h
      · exact .inr (.inl h)
      · exact .inl h
      · exact .inl h
  · simp only [List.cons_append, List.nil_append, List.mem_cons, List.not_mem_nil, or_false] at h
    rcases h with h | h | h
    · exact .inr (.inl h)
    · exact .inl h
    · exact .inl h

/-- The worker reads the type and what the handler reads. -/
theorem indSmdWork_inside (env : IndEnv) {rx : SmdRx} (h : 2 ≤ rx.msg.length) :
    ∀ a ∈ indSmdWork env rx, rx.Inside a := by
  have htype : rx.Inside (.msgType .indMsg) := (SmdRx.inside_msgType_iff .indMsg rfl).mpr h
  intro a ha
  unfold indSmdWork at ha
  rcases List.mem_cons.mp ha with rfl | ha
  · exact htype
  · split at ha
    · rename_i ind hind
      obtain ⟨read, hread, rfl⟩ := List.mem_map.mp ha
      exact indHandler_within env ind rx.msg read hread
    · rw [List.mem_singleton.mp ha]
      exact htype

/-- All accesses are in bounds if and only if the message has at least the two bytes of its type, and is
not longer than `hal_buf` if it is a response. -/
theorem inBounds_iff (rx : SmdRx) (hal_buf : HalBuf) (ind_ok msg_ok : Bool) (env : IndEnv) :
    InBounds rx hal_buf ind_ok msg_ok env ↔ rx.Fits := by
  constructor
  · intro h
    have htype := h.dispatcher _ (msgType_mem_accesses rx hal_buf ind_ok msg_ok)
    have hlen : 2 ≤ rx.msg.length := (SmdRx.inside_msgType_iff .msg rfl).mp htype
    refine ⟨hlen, fun req hreq => ?_⟩
    rw [← SmdRx.type_eq hlen rx.behind] at hreq
    have hcopy := h.dispatcher _ (halBuf_mem_accesses hreq hal_buf ind_ok msg_ok)
    rwa [SmdRx.Inside, Nat.zero_add] at hcopy
  · rintro ⟨hlen, hrsp⟩
    refine ⟨fun a ha => ?_, fun ind => indHandler_within env ind rx.msg,
      fun _ => indSmdWork_inside env hlen⟩
    rcases smdRspProcess_accesses ha with rfl | rfl | rfl | ⟨rfl, req, hreq⟩
    · exact (SmdRx.inside_msgType_iff .msg rfl).mpr hlen
    · exact (Nat.zero_add _).le
    · exact (Nat.zero_add _).le
    · rw [SmdRx.msg_type, SmdRx.byte, SmdRx.byte, SmdRx.type_eq hlen rx.behind] at hreq
      rw [SmdRx.Inside, Nat.zero_add]
      exact hrsp req hreq

/-- A response to a start with a byte more than `hal_buf` has. -/
def longResponse : SmdRx where
  msg := 1 :: 0 :: List.replicate (WCN36XX_HAL_BUF_SIZE - 1) 0
  behind _ := 0
  copy_behind _ := 0

/-- It is copied beyond the end of `hal_buf`. -/
theorem inBounds_fails_on_longResponse :
    ¬ ∀ (rx : SmdRx) (hal_buf : HalBuf) (ind_ok msg_ok : Bool) (env : IndEnv),
      InBounds rx hal_buf ind_ok msg_ok env := by
  intro h
  have hbuf : HalBuf := ⟨List.replicate WCN36XX_HAL_BUF_SIZE 0, HalBuf.length_zero⟩
  have henv : IndEnv := ⟨false, {}, fun _ _ => none⟩
  have hrsp : smdMsgOf longResponse.msg_type = .rsp .START := by decide +kernel
  have hcopy := (h longResponse hbuf true true henv).dispatcher _
    (halBuf_mem_accesses hrsp hbuf true true)
  have hlen : longResponse.msg.length = WCN36XX_HAL_BUF_SIZE + 1 := by
    rw [longResponse, List.length_cons, List.length_cons, List.length_replicate]
    rfl
  rw [SmdRx.Inside, hlen, Nat.zero_add] at hcopy
  exact absurd hcopy (by decide)

end Wcn36xx
