import Wcn36xx.Smd.Indication
import Wcn36xx.Smd.Open

/-!
# The work that reads the control channel

`wcn36xx_msm_smd_notify` queues `smd_work` when the channel reports data, and `wcn36xx_msm_smd_work` reads
packets, each into a buffer of its own, until none has arrived completely. The channel is the environment: its
packets come in order, but a packet may arrive in pieces, and it reports what is new at some later time. All of
this happens between any two calls of the work's loop.

The messages that `rsp_cb` gets are a prefix of the packets, whatever fails. That the work is not at rest
while a packet is waiting depends on `kmalloc` and `smd_read`: when one of them fails the work returns, and is
not queued again for the packet that it leaves.
-/

namespace Wcn36xx

open Support (Heap System)

/-! ## The channel -/

/-- The receiving side of an SMD packet channel. -/
structure SmdChannel where
  /-- The packets that have not been read, oldest first. All but the last have arrived. -/
  packets : List (List Byte) := []
  /-- How many bytes of the last packet have not arrived. -/
  missing : ℕ := 0

namespace SmdChannel

variable (ch : SmdChannel)

/-- `smd_cur_packet_size`: the size of the first packet, or 0. -/
def curPacketSize : ℕ := (ch.packets.head?.map List.length).getD 0

/-- `smd_read_avail`: how many bytes of the first packet have arrived. -/
def readAvail : ℕ :=
  match ch.packets with
  | [] => 0
  | [packet] => packet.length - ch.missing
  | packet :: _ => packet.length

/-- `smd_read`: as many bytes of the first packet as there are, and what is left of the channel. -/
def read (len : ℕ) : List Byte × SmdChannel :=
  match ch.packets with
  | [] => ([], ch)
  | packet :: rest =>
    let data := packet.take (min len ch.readAvail)
    (data,
      { ch with
        packets :=
          if data.length = packet.length then rest else packet.drop data.length :: rest })

end SmdChannel

/-! ## The system -/

/-- Where an execution of `wcn36xx_msm_smd_work` is. -/
inductive MsmWorker where
  /-- `smd_work` is not executing. -/
  | idle
  /-- At the top of the loop. -/
  | top
  /-- `smd_cur_packet_size` has been called. -/
  | sized (msg_len : ℕ)
  /-- As much as that has arrived. -/
  | arrived (msg_len : ℕ)
  /-- `kmalloc` has returned the address `msg`. -/
  | buffer (msg msg_len : ℕ)
  /-- `smd_read` has filled the buffer. -/
  | message (msg : ℕ) (bytes : List Byte)
  /-- `rsp_cb` has returned. -/
  | called (msg : ℕ)
  deriving DecidableEq

/-- The buffer that the execution has. -/
def MsmWorker.msg : MsmWorker → Option ℕ
  | .idle | .top | .sized _ | .arrived _ => none
  | .buffer msg _ | .message msg _ | .called msg => some msg

/-- The message that the execution has read and not passed on. -/
def MsmWorker.hand : MsmWorker → List (List Byte)
  | .message _ bytes => [bytes]
  | .idle | .top | .sized _ | .arrived _ | .buffer _ _ | .called _ => []

/-- `struct wcn36xx_msm` with the channel and the heap. -/
structure MsmWorld where
  ch : SmdChannel := {}
  /-- The channel has something new, and has not reported it. -/
  news : Bool := false
  /-- `smd_work` is pending. -/
  pending : Bool := false
  worker : MsmWorker := .idle
  /-- The buffers, with their sizes. -/
  mem : Heap ℕ := .empty
  /-- What the other side has written so far. -/
  written : List (List Byte) := []
  /-- What `rsp_cb` has been called with. -/
  calls : List (List Byte) := []
  /-- The buffers for which `smd_read` has failed. -/
  failed : List ℕ := []

/-- The steps of the control channel. -/
inductive MsmEvent where
  /-- The other side writes a packet, of which some bytes arrive at once. -/
  | write (packet : List Byte) (arrived : ℕ)
  /-- More bytes of the last packet arrive. -/
  | arrive (bytes : ℕ)
  /-- The channel reports what is new: `wcn36xx_msm_smd_notify` with `SMD_EVENT_DATA`. -/
  | report
  /-- `wcn36xx_msm_smd_notify` for another reason, or for none. -/
  | notify (event : SmdPortEvent)
  /-- The workqueue runs `smd_work`: it is no longer pending. -/
  | workStart
  /-- `smd_cur_packet_size`. -/
  | size
  /-- `smd_read_avail`. -/
  | avail
  /-- `kmalloc`, which may fail. -/
  | kmalloc (ok : Bool)
  /-- `smd_read`, which may fail without reading. -/
  | read (ok : Bool)
  /-- `rsp_cb`. -/
  | callback
  /-- `kfree`. -/
  | kfree
  deriving DecidableEq

/-- A step of the driver, or the channel's report. -/
def MsmEvent.IsWork : MsmEvent → Prop
  | .write _ _ | .arrive _ | .notify _ => False
  | .report | .workStart | .size | .avail | .kmalloc _ | .read _ | .callback | .kfree => True

/-- The transition system of the control channel. Freeing what is not allocated is a fault. -/
def msmSystem : System MsmWorld MsmEvent where
  init w := w = {}
  step w
    | .write packet arrived =>
      if w.ch.missing = 0 ∧ packet ≠ [] ∧ arrived ≤ packet.length then
        some { w with
          ch := { packets := w.ch.packets ++ [packet], missing := packet.length - arrived }
          news := true, written := w.written ++ [packet] }
      else none
    | .arrive bytes =>
      if 0 < bytes ∧ bytes ≤ w.ch.missing then
        some { w with ch := { w.ch with missing := w.ch.missing - bytes }, news := true }
      else none
    | .report => if w.news then some { w with news := false, pending := true } else none
    | .notify .DATA => some { w with pending := true }
    | .notify _ => some w
    | .workStart =>
      if w.pending ∧ w.worker = .idle then some { w with pending := false, worker := .top }
      else none
    | .size =>
      if w.worker = .top then
        let msg_len := w.ch.curPacketSize
        some { w with worker := if msg_len = 0 then .idle else .sized msg_len }
      else none
    | .avail =>
      match w.worker with
      | .sized msg_len =>
        some { w with worker := if w.ch.readAvail < msg_len then .idle else .arrived msg_len }
      | _ => none
    | .kmalloc ok =>
      match w.worker with
      | .arrived msg_len =>
        if ok then
          let (msg, mem) := w.mem.alloc msg_len
          some { w with mem := mem, worker := .buffer msg msg_len }
        else some { w with worker := .idle }
      | _ => none
    | .read ok =>
      match w.worker with
      | .buffer msg msg_len =>
        if ok then
          let (bytes, ch) := w.ch.read msg_len
          -- The buffer is not freed when less was read.
          if bytes.length = msg_len then
            some { w with ch := ch, worker := .message msg bytes }
          else some { w with ch := ch, worker := .idle, failed := w.failed ++ [msg] }
        else some { w with worker := .idle, failed := w.failed ++ [msg] }
      | _ => none
    | .callback =>
      match w.worker with
      | .message msg bytes => some { w with worker := .called msg, calls := w.calls ++ [bytes] }
      | _ => none
    | .kfree =>
      match w.worker with
      | .called msg => do
        let size ← w.mem.cells msg
        let mem ← w.mem.free msg size
        return { w with mem := mem, worker := .top }
      | _ => none

/-- What a step does. -/
inductive MsmStep (w : MsmWorld) : MsmEvent → MsmWorld → Prop
  | write (packet : List Byte) (arrived : ℕ) (complete : w.ch.missing = 0) (nonempty : packet ≠ []) :
      MsmStep w (.write packet arrived) { w with
        ch := { packets := w.ch.packets ++ [packet], missing := packet.length - arrived }
        news := true, written := w.written ++ [packet] }
  | arrive (bytes : ℕ) (pos : 0 < bytes) (le : bytes ≤ w.ch.missing) : MsmStep w (.arrive bytes)
      { w with ch := { w.ch with missing := w.ch.missing - bytes }, news := true }
  | report (news : w.news = true) : MsmStep w .report { w with news := false, pending := true }
  | data : MsmStep w (.notify .DATA) { w with pending := true }
  | other (event : SmdPortEvent) : MsmStep w (.notify event) w
  | workStart (pending : w.pending = true) (worker : w.worker = .idle) :
      MsmStep w .workStart { w with pending := false, worker := .top }
  | empty (worker : w.worker = .top) (zero : w.ch.curPacketSize = 0) :
      MsmStep w .size { w with worker := .idle }
  | size (worker : w.worker = .top) (pos : w.ch.curPacketSize ≠ 0) :
      MsmStep w .size { w with worker := .sized w.ch.curPacketSize }
  | short (msg_len : ℕ) (worker : w.worker = .sized msg_len) (lt : w.ch.readAvail < msg_len) :
      MsmStep w .avail { w with worker := .idle }
  | avail (msg_len : ℕ) (worker : w.worker = .sized msg_len) (le : msg_len ≤ w.ch.readAvail) :
      MsmStep w .avail { w with worker := .arrived msg_len }
  | nomem (msg_len : ℕ) (worker : w.worker = .arrived msg_len) :
      MsmStep w (.kmalloc false) { w with worker := .idle }
  | kmalloc (msg_len : ℕ) (worker : w.worker = .arrived msg_len) : MsmStep w (.kmalloc true)
      { w with mem := (w.mem.alloc msg_len).2, worker := .buffer w.mem.next msg_len }
  | readFails (msg msg_len : ℕ) (worker : w.worker = .buffer msg msg_len) :
      MsmStep w (.read false) { w with worker := .idle, failed := w.failed ++ [msg] }
  | readShort (msg msg_len : ℕ) (worker : w.worker = .buffer msg msg_len)
      (ne : (w.ch.read msg_len).1.length ≠ msg_len) : MsmStep w (.read true)
        { w with ch := (w.ch.read msg_len).2, worker := .idle, failed := w.failed ++ [msg] }
  | read (msg msg_len : ℕ) (worker : w.worker = .buffer msg msg_len)
      (eq : (w.ch.read msg_len).1.length = msg_len) : MsmStep w (.read true)
        { w with ch := (w.ch.read msg_len).2, worker := .message msg (w.ch.read msg_len).1 }
  | callback (msg : ℕ) (bytes : List Byte) (worker : w.worker = .message msg bytes) :
      MsmStep w .callback { w with worker := .called msg, calls := w.calls ++ [bytes] }
  | kfree (msg size : ℕ) (mem : Heap ℕ) (worker : w.worker = .called msg)
      (free : w.mem.free msg size = some mem) :
      MsmStep w .kfree { w with mem := mem, worker := .top }

/-- A step is one of these. -/
theorem msmStep_of_step {w w' : MsmWorld} {e : MsmEvent} (h : msmSystem.step w e = some w') :
    MsmStep w e w' := by
  cases e with
  | write packet arrived =>
    simp only [msmSystem, Option.ite_none_right_eq_some, Option.some.injEq] at h
    obtain ⟨⟨hmissing, hne, -⟩, rfl⟩ := h
    exact .write packet arrived hmissing hne
  | arrive bytes =>
    simp only [msmSystem, Option.ite_none_right_eq_some, Option.some.injEq] at h
    obtain ⟨⟨hpos, hle⟩, rfl⟩ := h
    exact .arrive bytes hpos hle
  | report =>
    simp only [msmSystem, Option.ite_none_right_eq_some, Option.some.injEq] at h
    obtain ⟨hnews, rfl⟩ := h
    exact .report hnews
  | notify event =>
    cases event with
    | DATA =>
      obtain rfl := Option.some.inj h
      exact .data
    | OPEN | CLOSE | STATUS | REOPEN_READY | notSupported =>
      obtain rfl := Option.some.inj h
      exact .other _
  | workStart =>
    simp only [msmSystem, Option.ite_none_right_eq_some, Option.some.injEq] at h
    obtain ⟨⟨hpending, hidle⟩, rfl⟩ := h
    exact .workStart hpending hidle
  | size =>
    simp only [msmSystem, Option.ite_none_right_eq_some, Option.some.injEq] at h
    obtain ⟨hworker, rfl⟩ := h
    split_ifs with hzero
    · exact .empty hworker hzero
    · exact .size hworker hzero
  | avail =>
    simp only [msmSystem] at h
    split at h
    · rename_i msg_len hworker
      obtain rfl := Option.some.inj h
      split_ifs with hlt
      · exact .short msg_len hworker hlt
      · exact .avail msg_len hworker (by omega)
    · cases h
  | kmalloc ok =>
    simp only [msmSystem] at h
    split at h
    · rename_i msg_len hworker
      cases ok with
      | true =>
        obtain rfl := Option.some.inj h
        exact .kmalloc msg_len hworker
      | false =>
        obtain rfl := Option.some.inj h
        exact .nomem msg_len hworker
    · cases h
  | read ok =>
    simp only [msmSystem] at h
    split at h
    · rename_i msg msg_len hworker
      cases ok with
      | true =>
        simp only [if_true] at h
        split_ifs at h with hlen
        · obtain rfl := Option.some.inj h
          exact .read msg msg_len hworker hlen
        · obtain rfl := Option.some.inj h
          exact .readShort msg msg_len hworker hlen
      | false =>
        obtain rfl := Option.some.inj h
        exact .readFails msg msg_len hworker
    · cases h
  | callback =>
    simp only [msmSystem] at h
    split at h
    · rename_i msg bytes hworker
      obtain rfl := Option.some.inj h
      exact .callback msg bytes hworker
    · cases h
  | kfree =>
    simp only [msmSystem] at h
    split at h
    · rename_i msg hworker
      simp only [Option.bind_eq_bind, Option.bind_eq_some_iff, Option.pure_def,
        Option.some.injEq] at h
      obtain ⟨size, -, mem, hfree, rfl⟩ := h
      exact .kfree msg size mem hworker hfree
    · cases h

/-! ## The channel's order -/

namespace SmdChannel

variable {ch : SmdChannel} {packet : List Byte} {rest : List (List Byte)}
  (hpackets : ch.packets = packet :: rest)
include hpackets

/-- Of a packet that has arrived completely all bytes are there. -/
theorem readAvail_eq (hcomplete : rest = [] → ch.missing = 0) : ch.readAvail = packet.length := by
  unfold readAvail
  rw [hpackets]
  cases rest with
  | nil => exact congrArg (packet.length - ·) (hcomplete rfl)
  | cons next rest => rfl

/-- A packet of which all bytes are there has arrived completely. -/
theorem complete_of_le (hne : packet ≠ []) (hle : packet.length ≤ ch.readAvail) :
    rest = [] → ch.missing = 0 := by
  rintro rfl
  have hpos := List.length_pos_of_ne_nil hne
  unfold readAvail at hle
  rw [hpackets] at hle
  dsimp only at hle
  omega

/-- The size of the first packet. -/
theorem curPacketSize_eq : ch.curPacketSize = packet.length := by
  rw [curPacketSize, hpackets]
  rfl

/-- A packet that has arrived completely is read as a whole. -/
theorem read_eq (hcomplete : rest = [] → ch.missing = 0) :
    ch.read packet.length = (packet, { ch with packets := rest }) := by
  have havail := readAvail_eq hpackets hcomplete
  unfold read
  rw [hpackets]
  dsimp only
  rw [havail, Nat.min_self, List.take_length, if_pos rfl]

end SmdChannel

/-- What the execution of `wcn36xx_msm_smd_work` knows of the channel: no one else reads it. -/
def MsmWorld.Knows (w : MsmWorld) : Prop :=
  match w.worker with
  | .sized msg_len =>
    ∃ packet rest, w.ch.packets = packet :: rest ∧ packet.length = msg_len
  | .arrived msg_len | .buffer _ msg_len =>
    ∃ packet rest, w.ch.packets = packet :: rest ∧ packet.length = msg_len ∧
      (rest = [] → w.ch.missing = 0)
  | .idle | .top | .message _ _ | .called _ => True

/-- The invariant of all runs: the packets come one after the other, and exactly the buffer of the execution
and those for which `smd_read` has failed are allocated. -/
structure MsmInv (w : MsmWorld) : Prop where
  nonempty : ∀ packet ∈ w.ch.packets, packet ≠ []
  complete : w.ch.packets = [] → w.ch.missing = 0
  knows : w.Knows
  written : w.written = w.calls ++ (w.worker.hand ++ w.ch.packets)
  mem : ∀ p, (w.mem.cells p).isSome = true ↔ w.worker.msg = some p ∨ p ∈ w.failed
  disjoint : ∀ p, w.worker.msg = some p → p ∉ w.failed

namespace MsmInv

variable {w : MsmWorld} (hw : MsmInv w)
include hw

/-- The execution returns, or goes on without a buffer. -/
theorem go {worker : MsmWorker} (hmsg : worker.msg = w.worker.msg) (hhand : worker.hand = w.worker.hand)
    (hknows : MsmWorld.Knows { w with worker := worker }) : MsmInv { w with worker := worker } :=
  ⟨hw.nonempty, hw.complete, hknows, by dsimp only; rw [hhand]; exact hw.written,
    fun p => by dsimp only; rw [hmsg]; exact hw.mem p,
    fun p => by dsimp only; rw [hmsg]; exact hw.disjoint p⟩

/-- Flags are not in the invariant. -/
theorem flags (news pending : Bool) : MsmInv { w with news := news, pending := pending } :=
  ⟨hw.nonempty, hw.complete, hw.knows, hw.written, hw.mem, hw.disjoint⟩

/-- `smd_read` has failed: the buffer stays allocated. -/
theorem fail {msg msg_len : ℕ} (hworker : w.worker = .buffer msg msg_len) :
    MsmInv { w with worker := .idle, failed := w.failed ++ [msg] } := by
  have hmsg : w.worker.msg = some msg := by rw [hworker]; rfl
  refine ⟨hw.nonempty, hw.complete, trivial, ?_, fun p => ?_, nofun⟩
  · have hwritten := hw.written
    rw [hworker] at hwritten
    exact hwritten
  · rw [hw.mem p, hmsg, Option.some.injEq, List.mem_append, List.mem_singleton]
    constructor
    · rintro (rfl | hp)
      · exact .inr (.inr rfl)
      · exact .inr (.inl hp)
    · rintro (hp | hp | rfl)
      · cases hp
      · exact .inr hp
      · exact .inl rfl

/-- The execution that has read the size of the first packet. -/
theorem sized {msg_len : ℕ} (hworker : w.worker = .sized msg_len) :
    ∃ packet rest, w.ch.packets = packet :: rest ∧ packet.length = msg_len := by
  have hknows := hw.knows
  unfold MsmWorld.Knows at hknows
  rw [hworker] at hknows
  exact hknows

/-- The execution that has a buffer: it reads the first packet, as a whole. -/
theorem read_buffer {msg msg_len : ℕ} (hworker : w.worker = .buffer msg msg_len) :
    ∃ packet rest, w.ch.packets = packet :: rest ∧ packet.length = msg_len ∧
      w.ch.read msg_len = (packet, { w.ch with packets := rest }) ∧
      (rest = [] → w.ch.missing = 0) := by
  have hknows := hw.knows
  unfold MsmWorld.Knows at hknows
  rw [hworker] at hknows
  obtain ⟨packet, rest, hpackets, rfl, hcomplete⟩ := hknows
  exact ⟨packet, rest, hpackets, rfl, SmdChannel.read_eq hpackets hcomplete, hcomplete⟩

/-- The other side writes a packet behind those that are in the channel. -/
theorem write {packet : List Byte} (hne : packet ≠ []) (missing : ℕ) :
    MsmInv { w with
      ch := { packets := w.ch.packets ++ [packet], missing := missing }
      news := true, written := w.written ++ [packet] } := by
  have hlast : ∀ rest : List (List Byte), rest ++ [packet] ≠ [] := fun rest =>
    List.append_ne_nil_of_right_ne_nil rest (List.cons_ne_nil _ _)
  refine ⟨fun q hq => ?_, fun hnil => absurd hnil (hlast _), ?_, ?_, hw.mem, hw.disjoint⟩
  · rcases List.mem_append.mp hq with hq | hq
    · exact hw.nonempty q hq
    · rwa [List.mem_singleton.mp hq]
  · -- The first packet stays the first, and has another one behind it now.
    have hknows := hw.knows
    unfold MsmWorld.Knows at hknows ⊢
    dsimp only
    split at hknows
    · obtain ⟨first, rest, hpackets, hlen⟩ := hknows
      exact ⟨first, rest ++ [packet], by rw [hpackets]; rfl, hlen⟩
    · obtain ⟨first, rest, hpackets, hlen, -⟩ := hknows
      exact ⟨first, rest ++ [packet], by rw [hpackets]; rfl, hlen, fun hnil => absurd hnil (hlast _)⟩
    · obtain ⟨first, rest, hpackets, hlen, -⟩ := hknows
      exact ⟨first, rest ++ [packet], by rw [hpackets]; rfl, hlen, fun hnil => absurd hnil (hlast _)⟩
    all_goals trivial
  · dsimp only
    rw [hw.written]
    simp only [List.append_assoc]

/-- Bytes of the last packet arrive. -/
theorem arrive {missing : ℕ} (hle : missing ≤ w.ch.missing) :
    MsmInv { w with ch := { w.ch with missing := missing }, news := true } := by
  have hzero : w.ch.missing = 0 → missing = 0 := fun hzero => Nat.le_zero.mp (hzero ▸ hle)
  refine ⟨hw.nonempty, fun hnil => hzero (hw.complete hnil), ?_, hw.written, hw.mem, hw.disjoint⟩
  have hknows := hw.knows
  unfold MsmWorld.Knows at hknows ⊢
  dsimp only
  split at hknows
  · exact hknows
  · obtain ⟨first, rest, hpackets, hlen, hcomplete⟩ := hknows
    exact ⟨first, rest, hpackets, hlen, fun hnil => hzero (hcomplete hnil)⟩
  · obtain ⟨first, rest, hpackets, hlen, hcomplete⟩ := hknows
    exact ⟨first, rest, hpackets, hlen, fun hnil => hzero (hcomplete hnil)⟩
  all_goals trivial

/-- The execution has read the size of the first packet. -/
theorem size (hworker : w.worker = .top) (hpos : w.ch.curPacketSize ≠ 0) :
    MsmInv { w with worker := .sized w.ch.curPacketSize } := by
  refine hw.go (by rw [hworker]; rfl) (by rw [hworker]; rfl) ?_
  cases hpackets : w.ch.packets with
  | nil =>
    rw [SmdChannel.curPacketSize, hpackets] at hpos
    exact absurd rfl hpos
  | cons packet rest => exact ⟨packet, rest, hpackets, (SmdChannel.curPacketSize_eq hpackets).symm⟩

/-- The execution has found that the first packet has arrived. -/
theorem avail {msg_len : ℕ} (hworker : w.worker = .sized msg_len) (hle : msg_len ≤ w.ch.readAvail) :
    MsmInv { w with worker := .arrived msg_len } := by
  refine hw.go (by rw [hworker]; rfl) (by rw [hworker]; rfl) ?_
  obtain ⟨packet, rest, hpackets, rfl⟩ := hw.sized hworker
  have hne := hw.nonempty packet (by rw [hpackets]; exact List.mem_cons_self)
  exact ⟨packet, rest, hpackets, rfl, SmdChannel.complete_of_le hpackets hne hle⟩

/-- The execution has allocated a buffer. -/
theorem kmalloc {msg_len : ℕ} (hworker : w.worker = .arrived msg_len) :
    MsmInv { w with mem := (w.mem.alloc msg_len).2, worker := .buffer w.mem.next msg_len } := by
  have hknows := hw.knows
  have hmem := hw.mem
  have hwritten := hw.written
  unfold MsmWorld.Knows at hknows
  rw [hworker] at hknows hmem hwritten
  -- The address is new, and not that of a buffer for which `smd_read` has failed.
  have hnew : w.mem.next ∉ w.failed := fun hin => by
    have hsome := (hmem w.mem.next).mpr (.inr hin)
    rw [w.mem.cells_next _ (Nat.le_refl _)] at hsome
    cases hsome
  refine ⟨hw.nonempty, hw.complete, hknows, hwritten, fun p => ?_, fun p hp => ?_⟩
  · dsimp only
    rw [Heap.alloc_cells]
    rcases eq_or_ne p w.mem.next with rfl | hp
    · rw [Function.update_self]
      exact iff_of_true rfl (.inl rfl)
    · rw [Function.update_of_ne hp, hmem p]
      have hne : (MsmWorker.buffer w.mem.next msg_len).msg ≠ some p := fun heq =>
        hp (Option.some.inj heq).symm
      exact or_congr_left (iff_of_false nofun hne)
  · obtain rfl := Option.some.inj hp
    exact hnew

/-- The execution has read the packet: it is in hand instead of the channel. -/
theorem read {msg msg_len : ℕ} (hworker : w.worker = .buffer msg msg_len) :
    MsmInv { w with ch := (w.ch.read msg_len).2, worker := .message msg (w.ch.read msg_len).1 } := by
  obtain ⟨packet, rest, hpackets, -, hread, hcomplete⟩ := hw.read_buffer hworker
  have hmem := hw.mem
  have hdisjoint := hw.disjoint
  have hwritten := hw.written
  rw [hworker] at hmem hdisjoint hwritten
  rw [hread]
  refine ⟨fun q hq => hw.nonempty q ?_, hcomplete, trivial, ?_, hmem, hdisjoint⟩
  · rw [hpackets]
    exact List.mem_cons_of_mem _ hq
  · rw [hpackets] at hwritten
    exact hwritten

/-- `rsp_cb` has been called with the packet in hand. -/
theorem callback {msg : ℕ} {bytes : List Byte} (hworker : w.worker = .message msg bytes) :
    MsmInv { w with worker := .called msg, calls := w.calls ++ [bytes] } := by
  have hmem := hw.mem
  have hdisjoint := hw.disjoint
  have hwritten := hw.written
  rw [hworker] at hmem hdisjoint hwritten
  refine ⟨hw.nonempty, hw.complete, trivial, ?_, hmem, hdisjoint⟩
  rw [hwritten]
  exact (List.append_assoc w.calls [bytes] w.ch.packets).symm

/-- The execution has freed its buffer. -/
theorem kfree {msg size : ℕ} {mem : Heap ℕ} (hworker : w.worker = .called msg)
    (hfree : w.mem.free msg size = some mem) : MsmInv { w with mem := mem, worker := .top } := by
  have hmem := hw.mem
  have hwritten := hw.written
  have hnot : msg ∉ w.failed := hw.disjoint msg (by rw [hworker]; rfl)
  rw [hworker] at hmem hwritten
  obtain ⟨-, -, hcells⟩ := Heap.free_eq_some hfree
  refine ⟨hw.nonempty, hw.complete, trivial, hwritten, fun p => ?_, nofun⟩
  dsimp only
  rw [hcells]
  rcases eq_or_ne p msg with rfl | hp
  · rw [Function.update_self]
    exact iff_of_false Bool.false_ne_true (not_or.mpr ⟨nofun, hnot⟩)
  · rw [Function.update_of_ne hp, hmem p]
    have hne : (MsmWorker.called msg).msg ≠ some p := fun heq => hp (Option.some.inj heq).symm
    exact or_congr_left (iff_of_false hne nofun)

/-- Every step keeps the invariant. -/
theorem step {w' : MsmWorld} {e : MsmEvent} (h : MsmStep w e w') : MsmInv w' := by
  cases h with
  | write packet arrived hcomplete hne => exact hw.write hne _
  | arrive bytes hpos hle => exact hw.arrive (Nat.sub_le _ _)
  | report => exact hw.flags false true
  | data => exact hw.flags w.news true
  | other => exact hw
  | workStart hpending hworker =>
    have hgo : MsmInv { w with worker := .top } :=
      hw.go (by rw [hworker]; rfl) (by rw [hworker]; rfl) trivial
    exact hgo.flags w.news false
  | empty hworker => exact hw.go (by rw [hworker]; rfl) (by rw [hworker]; rfl) trivial
  | size hworker hpos => exact hw.size hworker hpos
  | short msg_len hworker => exact hw.go (by rw [hworker]; rfl) (by rw [hworker]; rfl) trivial
  | avail msg_len hworker hle => exact hw.avail hworker hle
  | nomem msg_len hworker => exact hw.go (by rw [hworker]; rfl) (by rw [hworker]; rfl) trivial
  | kmalloc msg_len hworker => exact hw.kmalloc hworker
  | readFails msg msg_len hworker => exact hw.fail hworker
  | readShort msg msg_len hworker hne =>
    -- A packet that has arrived is not read in part.
    obtain ⟨packet, rest, -, hlen, hread, -⟩ := hw.read_buffer hworker
    rw [hread] at hne
    exact absurd hlen hne
  | read msg msg_len hworker => exact hw.read hworker
  | callback msg bytes hworker => exact hw.callback hworker
  | kfree msg size mem hworker hfree => exact hw.kfree hworker hfree

end MsmInv

/-! ## Whole runs -/

/-- Neither `kmalloc` nor `smd_read` fails in the step. -/
def MsmSucceeds (_ : MsmWorld) : MsmEvent → Prop
  | .kmalloc ok | .read ok => ok = true
  | .write _ _ | .arrive _ | .report | .notify _ | .workStart | .size | .avail | .callback | .kfree =>
    True

instance : ∀ w e, Decidable (MsmSucceeds w e)
  | _, .kmalloc ok | _, .read ok => inferInstanceAs (Decidable (ok = true))
  | _, .write _ _ | _, .arrive _ | _, .report | _, .notify _ | _, .workStart | _, .size | _, .avail
  | _, .callback | _, .kfree => isTrue trivial

/-- Something is under way that will make `smd_work` look at the channel. -/
def MsmWorld.Attended (w : MsmWorld) : Prop := w.news = true ∨ w.pending = true ∨ w.worker ≠ .idle

/-- A packet has arrived and has not been read. -/
def MsmWorld.Waiting (w : MsmWorld) : Prop :=
  w.ch.packets ≠ [] ∧ w.ch.curPacketSize ≤ w.ch.readAvail

/-- The packets that have arrived completely: all that the other side has written, but the last one as long
as bytes of it are missing. -/
def MsmWorld.arrived (w : MsmWorld) : List (List Byte) :=
  if w.ch.missing = 0 then w.written else w.written.dropLast

/-- Every step without a failure keeps a waiting packet attended. -/
theorem MsmInv.attended {w w' : MsmWorld} {e : MsmEvent} (hw : MsmInv w)
    (hattended : w.Waiting → w.Attended) (hok : MsmSucceeds w e) (h : MsmStep w e w') :
    w'.Waiting → w'.Attended := by
  cases h with
  | write | arrive => exact fun _ => .inl rfl
  | report | data => exact fun _ => .inr (.inl rfl)
  | other => exact hattended
  | workStart | size | avail | kmalloc | read | callback | kfree => exact fun _ => .inr (.inr nofun)
  | nomem | readFails => cases hok
  | empty hworker hzero =>
    -- The work returns when the first packet has size 0, and no packet has.
    rintro ⟨hne, -⟩
    cases hpackets : w.ch.packets with
    | nil => exact absurd hpackets hne
    | cons packet rest =>
      rw [SmdChannel.curPacketSize_eq hpackets] at hzero
      have hnil := List.eq_nil_of_length_eq_zero hzero
      exact absurd hnil (hw.nonempty packet (by rw [hpackets]; exact List.mem_cons_self))
  | short msg_len hworker hlt =>
    -- The work returns when the first packet has not arrived completely, and nothing waits.
    rintro ⟨-, hle⟩
    obtain ⟨packet, rest, hpackets, rfl⟩ := hw.sized hworker
    have hle' : w.ch.curPacketSize ≤ w.ch.readAvail := hle
    rw [SmdChannel.curPacketSize_eq hpackets] at hle'
    omega
  | readShort msg msg_len hworker hne =>
    obtain ⟨packet, rest, -, hlen, hread, -⟩ := hw.read_buffer hworker
    rw [hread] at hne
    exact absurd hlen hne

/-- The steps that the driver can make at most without the other side. -/
def MsmWorld.rank (w : MsmWorld) : ℕ :=
  7 * w.news.toNat + 6 * w.pending.toNat + 6 * w.ch.packets.length +
    match w.worker with
    | .idle => 0
    | .top => 5
    | .sized _ => 4
    | .arrived _ => 3
    | .buffer _ _ => 2
    | .message _ _ => 7
    | .called _ => 6

/-- The driver's steps come to an end. -/
theorem MsmInv.rank_lt {w w' : MsmWorld} {e : MsmEvent} (hw : MsmInv w) (hwork : e.IsWork)
    (h : MsmStep w e w') : w'.rank < w.rank := by
  cases h with
  | write | arrive | data | other => exact hwork.elim
  | report hnews =>
    unfold MsmWorld.rank
    rw [hnews]
    dsimp only
    have := Bool.toNat_le w.pending
    rw [Bool.toNat_true, Bool.toNat_false]
    omega
  | workStart hpending hworker =>
    simp [MsmWorld.rank, hpending, hworker]
    omega
  | empty hworker | size hworker => simp [MsmWorld.rank, hworker]
  | short msg_len hworker | avail msg_len hworker => simp [MsmWorld.rank, hworker]
  | nomem msg_len hworker | kmalloc msg_len hworker => simp [MsmWorld.rank, hworker]
  | readFails msg msg_len hworker => simp [MsmWorld.rank, hworker]
  | callback msg bytes hworker => simp [MsmWorld.rank, hworker]
  | kfree msg size mem hworker => simp [MsmWorld.rank, hworker]
  | readShort msg msg_len hworker =>
    obtain ⟨packet, rest, hpackets, -, hread, -⟩ := hw.read_buffer hworker
    rw [hread]
    simp [MsmWorld.rank, hworker, hpackets]
    omega
  | read msg msg_len hworker =>
    obtain ⟨packet, rest, hpackets, -, hread, -⟩ := hw.read_buffer hworker
    rw [hread]
    simp [MsmWorld.rank, hworker, hpackets]
    omega

/-- The driver can go on as long as something is under way. -/
theorem MsmInv.goes_on {w : MsmWorld} (hw : MsmInv w) (hattended : w.Attended) :
    ∃ e : MsmEvent, e.IsWork ∧ MsmSucceeds w e ∧ (msmSystem.step w e).isSome = true := by
  cases hworker : w.worker with
  | idle =>
    rcases hattended with hnews | hpending | hbusy
    · exact ⟨.report, trivial, trivial, by simp [msmSystem, hnews]⟩
    · exact ⟨.workStart, trivial, trivial, by simp [msmSystem, hpending, hworker]⟩
    · exact absurd hworker hbusy
  | top => exact ⟨.size, trivial, trivial, by simp [msmSystem, hworker]⟩
  | sized msg_len => exact ⟨.avail, trivial, trivial, by simp [msmSystem, hworker]⟩
  | arrived msg_len => exact ⟨.kmalloc true, trivial, rfl, by simp [msmSystem, hworker]⟩
  | buffer msg msg_len =>
    refine ⟨.read true, trivial, rfl, ?_⟩
    simp only [msmSystem, hworker, if_true]
    split <;> rfl
  | message msg bytes => exact ⟨.callback, trivial, trivial, by simp [msmSystem, hworker]⟩
  | called msg =>
    -- The buffer is there to be freed.
    obtain ⟨size, hsize⟩ := Option.isSome_iff_exists.mp ((hw.mem msg).mpr (.inl (by rw [hworker]; rfl)))
    obtain ⟨mem, hfree, -⟩ := Heap.exists_free hsize
    refine ⟨.kfree, trivial, trivial, ?_⟩
    simp only [msmSystem, hworker, hsize, hfree, Option.bind_eq_bind, Option.bind_some,
      Option.pure_def, Option.isSome_some]

/-- After `wcn36xx_msm_smd_open` the channel is empty. -/
theorem msmInv_of_reachable {w : MsmWorld} (h : msmSystem.Reachable w) : MsmInv w := by
  refine h.invariant (I := MsmInv) ?_ fun _ _ _ hw he => hw.step (msmStep_of_step he)
  rintro w rfl
  exact ⟨nofun, fun _ => rfl, trivial, rfl, fun p => iff_of_false Bool.false_ne_true (by simp [MsmWorker.msg]),
    nofun⟩

/-- In every run, whatever fails: what `rsp_cb` has been called with is a prefix of the packets that the other
side has written, each as a whole, and with the message that the execution has in hand and the packets in the
channel it makes up all of them; and a buffer is allocated exactly if the execution has it or `smd_read` has
failed for it, so that none is freed twice and none is lost but these. -/
theorem msmCalls_front (w : MsmWorld) (h : msmSystem.Reachable w) :
    w.written = w.calls ++ (w.worker.hand ++ w.ch.packets) ∧
      (∀ p, (w.mem.cells p).isSome = true ↔ w.worker.msg = some p ∨ p ∈ w.failed) ∧
      ∀ p ∈ w.failed, w.worker.msg ≠ some p :=
  have hw := msmInv_of_reachable h
  ⟨hw.written, hw.mem, fun p hp heq => hw.disjoint p heq hp⟩

/-- `smd_read` makes nothing arrive. -/
theorem SmdChannel.read_missing (ch : SmdChannel) (len : ℕ) : (ch.read len).2.missing = ch.missing := by
  unfold SmdChannel.read
  split <;> rfl

/-- The driver's steps write nothing and make nothing arrive. -/
theorem msmStep_other_side {w w' : MsmWorld} {e : MsmEvent} (hwork : e.IsWork)
    (h : MsmStep w e w') : w'.written = w.written ∧ w'.ch.missing = w.ch.missing := by
  cases h with
  | write | arrive | data | other => exact hwork.elim
  | report | workStart | empty | size | short | avail | nomem | kmalloc | readFails | callback
  | kfree => exact ⟨rfl, rfl⟩
  | readShort | read => exact ⟨rfl, SmdChannel.read_missing _ _⟩

/-- When no packet waits, the channel holds none, or one that has not arrived completely. -/
theorem MsmInv.packets_of_not_waiting {w : MsmWorld} (hw : MsmInv w) (hnot : ¬w.Waiting) :
    if w.ch.missing = 0 then w.ch.packets = [] else ∃ packet, w.ch.packets = [packet] := by
  cases hpackets : w.ch.packets with
  | nil =>
    rw [if_pos (hw.complete hpackets)]
  | cons packet rest =>
    -- A packet that is complete would wait.
    have hincomplete : ¬(rest = [] → w.ch.missing = 0) := by
      refine fun hcomplete => hnot ⟨?_, ?_⟩
      · rw [hpackets]
        exact List.cons_ne_nil _ _
      · rw [SmdChannel.curPacketSize_eq hpackets, SmdChannel.readAvail_eq hpackets hcomplete]
    obtain ⟨rfl, hmissing⟩ := Classical.not_imp.mp hincomplete
    rw [if_neg hmissing]
    exact ⟨packet, rfl⟩

/-- When the driver has come to rest, the packets that have arrived completely have been passed on. -/
theorem MsmInv.all_called {w : MsmWorld} (hw : MsmInv w) (hwaiting : w.Waiting → w.Attended)
    (hrest : ¬w.Attended) : ¬w.Waiting ∧ w.calls = w.arrived := by
  have hnot : ¬w.Waiting := fun h => hrest (hwaiting h)
  refine ⟨hnot, ?_⟩
  obtain ⟨-, -, hidle⟩ : ¬w.news = true ∧ ¬w.pending = true ∧ w.worker = .idle := by
    simpa [MsmWorld.Attended] using hrest
  have hwritten := hw.written
  rw [hidle] at hwritten
  have hpackets := hw.packets_of_not_waiting hnot
  unfold MsmWorld.arrived
  split_ifs at hpackets ⊢ with hmissing
  · rw [hpackets] at hwritten
    exact (hwritten.trans (List.append_nil _)).symm
  · obtain ⟨packet, hpackets⟩ := hpackets
    rw [hpackets] at hwritten
    rw [hwritten]
    exact List.dropLast_concat.symm

/-- What follows for the packets of the other side: one that has arrived is attended, and when the other side
pauses the driver comes to rest after a bounded number of steps, having passed on the packets that have arrived
completely and no others. -/
structure MsmDelivers (w : MsmWorld) : Prop where
  attended : w.Waiting → w.Attended
  comes_to_rest : ∀ es w', (∀ e ∈ es, e.IsWork) → msmSystem.runWhen MsmSucceeds w es = some w' →
    es.length ≤ w.rank ∧
      ((∀ e : MsmEvent, e.IsWork → MsmSucceeds w' e → msmSystem.step w' e = none) →
        ¬w'.Waiting ∧ w'.calls = w.arrived)

/-- In the runs in which neither `kmalloc` nor `smd_read` fails, for every way in which packets arrive and are
reported, no packet is left behind. -/
theorem msmDelivers_of_succeeds (w : MsmWorld) (h : msmSystem.ReachableWhen MsmSucceeds w) :
    MsmDelivers w := by
  have hw := msmInv_of_reachable h.reachable
  have hattended : w.Waiting → w.Attended := by
    obtain ⟨-, hattended⟩ : MsmInv w ∧ (w.Waiting → w.Attended) := by
      refine h.invariant (I := fun w => MsmInv w ∧ (w.Waiting → w.Attended)) ?_ ?_
      · intro w hw
        refine ⟨msmInv_of_reachable (.init hw), ?_⟩
        obtain rfl : w = {} := hw
        exact fun hwaiting => absurd rfl hwaiting.1
      · rintro s e s' ⟨hs, hattended⟩ hok he
        have hstep := msmStep_of_step he
        exact ⟨hs.step hstep, hs.attended hattended hok hstep⟩
    exact hattended
  refine ⟨hattended, fun es w' hes hrun => ?_⟩
  have hstep : ∀ (s : MsmWorld) (e : MsmEvent) (s' : MsmWorld),
      (MsmInv s ∧ (s.Waiting → s.Attended) ∧ s.written = w.written ∧ s.ch.missing = w.ch.missing) →
      e.IsWork → MsmSucceeds s e → msmSystem.step s e = some s' →
      (MsmInv s' ∧ (s'.Waiting → s'.Attended) ∧ s'.written = w.written ∧
        s'.ch.missing = w.ch.missing) ∧ s'.rank < s.rank := by
    rintro s e s' ⟨hs, hattended, hwritten, hmissing⟩ hwork hok he
    have hone := msmStep_of_step he
    obtain ⟨hwritten', hmissing'⟩ := msmStep_other_side hwork hone
    exact ⟨⟨hs.step hone, hs.attended hattended hok hone, hwritten'.trans hwritten,
      hmissing'.trans hmissing⟩, hs.rank_lt hwork hone⟩
  obtain ⟨⟨hw', hattended', hwritten, hmissing⟩, hrank⟩ :=
    System.runWhen_rank hstep ⟨hw, hattended, rfl, rfl⟩ hes hrun
  refine ⟨by omega, fun hstuck => ?_⟩
  have hrest : ¬w'.Attended := fun hbusy => by
    obtain ⟨e, hwork, hok, hsome⟩ := hw'.goes_on hbusy
    rw [hstuck e hwork hok] at hsome
    cases hsome
  obtain ⟨hnot, hall⟩ := hw'.all_called hattended' hrest
  rw [MsmWorld.arrived, hwritten, hmissing] at hall
  exact ⟨hnot, hall⟩

/-- A packet arrives in two pieces, the second one after the work has looked: the work is attended to by the
channel's next report. -/
theorem msmDelivers_of_succeeds_two_pieces : ∃ w, w.Waiting ∧ w.worker = .idle ∧ MsmDelivers w := by
  obtain ⟨w, hrun, hw⟩ : ∃ w, msmSystem.runWhen MsmSucceeds {}
      [.write [1, 2] 1, .report, .workStart, .size, .avail, .arrive 1] = some w ∧
      (fun w : MsmWorld => decide (w.ch.packets ≠ [] ∧ w.ch.curPacketSize ≤ w.ch.readAvail ∧
        w.worker = .idle)) w = true :=
    (Option.any_eq_true _ _).mp (by decide +kernel)
  obtain ⟨hne, hle, hidle⟩ := of_decide_eq_true hw
  exact ⟨w, ⟨hne, hle⟩, hidle,
    msmDelivers_of_succeeds w (System.ReachableWhen.runWhen (.init rfl) hrun)⟩

/-- Two packets are written, and `smd_read` fails for the second one. -/
theorem msmCalls_front_read_fails : ∃ w : MsmWorld, w.calls = [[1]] ∧ w.failed ≠ [] ∧
    w.written = w.calls ++ (w.worker.hand ++ w.ch.packets) := by
  obtain ⟨w, hrun, hw⟩ : ∃ w, msmSystem.runFrom {}
      [.write [1] 1, .write [2] 1, .report, .workStart, .size, .avail, .kmalloc true, .read true,
        .callback, .kfree, .size, .avail, .kmalloc true, .read false] = some w ∧
      (fun w : MsmWorld => decide (w.calls = [[1]] ∧ w.failed ≠ [])) w = true :=
    (Option.any_eq_true _ _).mp (by decide +kernel)
  obtain ⟨hcalls, hfailed⟩ := of_decide_eq_true hw
  have hreach : msmSystem.Reachable w := System.Reachable.runFrom (.init rfl) hrun
  exact ⟨w, hcalls, hfailed, (msmCalls_front w hreach).1⟩

end Wcn36xx
