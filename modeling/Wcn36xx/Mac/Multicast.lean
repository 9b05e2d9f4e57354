import Wcn36xx.Smd.Residue
import Wcn36xx.Support.Heap

/-!
# The multicast filter

`wcn36xx_prepare_multicast` puts the multicast addresses into a list on the heap and hands its address to
mac80211 as a number; `wcn36xx_configure_filter` gets the number, tells the firmware of the list, and
frees it. The casts between the address and the number keep it; 0 is the null pointer.
`multicast_filtered` says that no address is lost on the way: the firmware is told of all addresses or
to accept all, whatever the number of addresses, the filter flags and the interfaces are.
-/

namespace Wcn36xx

open Support

/-- `WCN36XX_HAL_MAX_NUM_MULTICAST_ADDRESS`. -/
def WCN36XX_HAL_MAX_NUM_MULTICAST_ADDRESS : ℕ := 240
/-- `FIF_PROMISC_IN_BSS`. -/
def FIF_PROMISC_IN_BSS : BitVec 32 := 0x1
/-- `FIF_ALLMULTI`. -/
def FIF_ALLMULTI : BitVec 32 := 0x2
/-- `WCN36XX_SUPPORTED_FILTERS`. -/
def WCN36XX_SUPPORTED_FILTERS : BitVec 32 := FIF_PROMISC_IN_BSS ||| FIF_ALLMULTI

/-- `struct wcn36xx_hal_rcv_flt_mc_addr_list_type`. -/
structure McAddrList where
  data_offset : Byte := 0
  mc_addr_count : BitVec 32 := 0
  mc_addr : Vector (Vector Byte 6) WCN36XX_HAL_MAX_NUM_MULTICAST_ADDRESS :=
    .replicate _ (.replicate 6 0)
  bss_index : Byte := 0
  deriving DecidableEq

/-- The bytes of the addresses. -/
def addrBytes (addrs : List (Vector Byte 6)) : List Byte := addrs.flatMap Vector.toList

/-- The bytes of an array of addresses. -/
theorem length_addrBytes (addrs : List (Vector Byte 6)) :
    (addrBytes addrs).length = 6 * addrs.length := by
  unfold addrBytes
  induction addrs with
  | nil => rfl
  | cons addr addrs ih =>
    rw [List.flatMap_cons, List.length_append, ih, Vector.length_toList, List.length_cons]
    omega

/-- The bytes of the structure. -/
def McAddrList.bytes (fp : McAddrList) : Vector Byte sizeofMcAddrList where
  toArray := ([fp.data_offset] ++ leBytes fp.mc_addr_count ++ addrBytes fp.mc_addr.toList ++
    [fp.bss_index]).toArray
  size_toArray := by
    simp only [List.size_toArray, List.length_append, length_leBytes, length_addrBytes,
      Vector.length_toList]
    rfl

/-! ## The two callbacks -/

/-- An iteration of the loop over `mc_list`. -/
def mcAddAddr (fp : McAddrList) (addr : Vector Byte 6) : Option McAddrList :=
  if h : fp.mc_addr_count.toNat < WCN36XX_HAL_MAX_NUM_MULTICAST_ADDRESS then
    some { fp with
      mc_addr := fp.mc_addr.set fp.mc_addr_count.toNat addr
      mc_addr_count := fp.mc_addr_count + 1 }
  else none

/-- `wcn36xx_prepare_multicast`; `kzalloc` says that there is memory. -/
def prepareMulticast (kzalloc : Bool) (mc_list : List (Vector Byte 6)) (heap : Heap McAddrList) :
    Option (ℕ × Heap McAddrList) := do
  -- `Out of memory setting filters.`
  if !kzalloc then return (0, heap)
  let fp : McAddrList := {}
  let fp ←
    if mc_list.length ≤ WCN36XX_HAL_MAX_NUM_MULTICAST_ADDRESS then mc_list.foldlM mcAddAddr fp
    else pure fp
  return heap.alloc fp

/-- `kfree`. -/
def kfree (heap : Heap McAddrList) (fp : ℕ) : Option (Heap McAddrList) :=
  if fp = 0 then some heap
  else (heap.cells fp).bind fun list => heap.free fp list

/-- The list at an address, when it is not NULL. -/
def readMcList (heap : Heap McAddrList) (fp : ℕ) : Option (Option McAddrList) :=
  if fp = 0 then some none else (heap.cells fp).map some

/-- An iteration of the loop over `vif_list`. -/
def configureFilterVif (fw : Firmware) (total : BitVec 32) (heap : Heap McAddrList) (fp : ℕ)
    (smd : Smd) (vif : WcnVif) : Option Smd :=
  -- FW handles MC filtering only when connected as STA.
  if total &&& (FIF_ALLMULTI ||| FIF_PROMISC_IN_BSS) ≠ 0 then
    (smdCall fw (.request (.setMcList vif none)) smd).map Prod.fst
  else if vif.type = .STATION ∧ vif.sta_assoc then do
    let list ← readMcList heap fp
    (smdCall fw (.request (.setMcList vif (list.map McAddrList.bytes))) smd).map Prod.fst
  else some smd

/-- `wcn36xx_configure_filter`: the driver, the heap, and `*total`. -/
def configureFilter (fw : Firmware) (vif_list : List WcnVif) (total : BitVec 32) (multicast : ℕ)
    (heap : Heap McAddrList) (smd : Smd) : Option (Smd × Heap McAddrList × BitVec 32) := do
  let total := total &&& WCN36XX_SUPPORTED_FILTERS
  let fp := multicast
  let smd ← vif_list.foldlM (configureFilterVif fw total heap fp) smd
  let heap ← kfree heap fp
  return (smd, heap, total)

/-- mac80211 prepares the list and configures the filter with it. -/
def filterMulticast (fw : Firmware) (kzalloc : Bool) (mc_list : List (Vector Byte 6))
    (vif_list : List WcnVif) (total : BitVec 32) (heap : Heap McAddrList) (smd : Smd) :
    Option (Smd × Heap McAddrList × BitVec 32) := do
  let (multicast, heap) ← prepareMulticast kzalloc mc_list heap
  configureFilter fw vif_list total multicast heap smd

/-! ## The list -/

/-- An address goes behind the others. -/
theorem mcAddAddr_spec {fp : McAddrList} (addr : Vector Byte 6)
    (h : fp.mc_addr_count.toNat < WCN36XX_HAL_MAX_NUM_MULTICAST_ADDRESS) :
    ∃ fp', mcAddAddr fp addr = some fp' ∧
      fp'.mc_addr_count.toNat = fp.mc_addr_count.toNat + 1 ∧
      fp'.mc_addr.toList.take (fp.mc_addr_count.toNat + 1) =
        fp.mc_addr.toList.take fp.mc_addr_count.toNat ++ [addr] := by
  have hmax : WCN36XX_HAL_MAX_NUM_MULTICAST_ADDRESS = 240 := rfl
  refine ⟨_, dif_pos h, ?_, ?_⟩
  · have hone : (1 : BitVec 32).toNat = 1 := rfl
    rw [BitVec.toNat_add, hone]
    omega
  · have hlen : fp.mc_addr_count.toNat < fp.mc_addr.toList.length := by
      rw [Vector.length_toList]
      exact h
    rw [Vector.toList_set, List.take_succ_eq_append_getElem (by rw [List.length_set]; exact hlen),
      List.take_set_of_le (Nat.le_refl _), List.getElem_set_self]

/-- The addresses are copied in their order. The induction is on those that are left. -/
theorem mcAddAddrs_spec (mc_list : List (Vector Byte 6)) : ∀ {fp : McAddrList},
    fp.mc_addr_count.toNat + mc_list.length ≤ WCN36XX_HAL_MAX_NUM_MULTICAST_ADDRESS →
    ∃ fp', mc_list.foldlM mcAddAddr fp = some fp' ∧
      fp'.mc_addr_count.toNat = fp.mc_addr_count.toNat + mc_list.length ∧
      fp'.mc_addr.toList.take (fp.mc_addr_count.toNat + mc_list.length) =
        fp.mc_addr.toList.take fp.mc_addr_count.toNat ++ mc_list := by
  induction mc_list with
  | nil =>
    intro fp h
    exact ⟨fp, rfl, rfl, (List.append_nil _).symm⟩
  | cons addr mc_list ih =>
    intro fp h
    rw [List.length_cons] at h ⊢
    obtain ⟨fp₁, h₁, hcount₁, haddr₁⟩ := @mcAddAddr_spec fp addr (by omega)
    obtain ⟨fp₂, h₂, hcount₂, haddr₂⟩ := @ih fp₁ (by omega)
    have hcount : fp₁.mc_addr_count.toNat + mc_list.length =
        fp.mc_addr_count.toNat + (mc_list.length + 1) := by omega
    refine ⟨fp₂, ?_, ?_, ?_⟩
    · rw [List.foldlM_cons, h₁]
      exact h₂
    · rw [hcount₂, hcount]
    · rw [← hcount, haddr₂, hcount₁, haddr₁, List.append_assoc, List.singleton_append]

/-- The list has all addresses, or none. -/
structure McListOf (mc_list : List (Vector Byte 6)) (fp : McAddrList) : Prop where
  count : fp.mc_addr_count = 0 ∨
    fp.mc_addr_count.toNat = mc_list.length ∧
      mc_list.length ≤ WCN36XX_HAL_MAX_NUM_MULTICAST_ADDRESS ∧
      fp.mc_addr.toList.take mc_list.length = mc_list

/-- What `wcn36xx_prepare_multicast` hands over: NULL, or a list in a new allocation. -/
theorem prepareMulticast_spec (kzalloc : Bool) (mc_list : List (Vector Byte 6))
    (heap : Heap McAddrList) :
    prepareMulticast kzalloc mc_list heap = some (0, heap) ∨
      ∃ fp, McListOf mc_list fp ∧
        prepareMulticast kzalloc mc_list heap = some (heap.alloc fp) := by
  unfold prepareMulticast
  cases kzalloc with
  | false => exact .inl rfl
  | true =>
    right
    by_cases hlen : mc_list.length ≤ WCN36XX_HAL_MAX_NUM_MULTICAST_ADDRESS
    · have hzero : ({} : McAddrList).mc_addr_count.toNat + mc_list.length = mc_list.length :=
        Nat.zero_add _
      obtain ⟨fp, hfp, hcount, haddr⟩ := @mcAddAddrs_spec mc_list {} (hzero.symm ▸ hlen)
      rw [hzero] at hcount haddr
      refine ⟨fp, ⟨.inr ⟨hcount, hlen, haddr⟩⟩, ?_⟩
      simp only [if_pos hlen, hfp, Option.bind_eq_bind, Option.bind_some, Option.pure_def]
      rfl
    · refine ⟨{}, ⟨.inl rfl⟩, ?_⟩
      simp only [if_neg hlen, Option.bind_eq_bind, Option.bind_some, Option.pure_def]
      rfl

/-! ## The requests -/

/-- A request that tells the interface of all addresses or to accept all; of addresses only when it is
an associated station and neither ALLMULTI nor PROMISC_IN_BSS is requested. -/
structure McRequest (mc_list : List (Vector Byte 6)) (total : BitVec 32) (vif : WcnVif)
    (msg : List Byte) : Prop where
  type : field msg 0 2 = HalReq.MULTICAST_LIST_8023.reqType.toNat
  bss_index : msg[HalMsgHeader.size + sizeofMcAddrList - 1]? = some vif.bss_index
  list : field msg 9 4 = 0 ∨
    field msg 9 4 = mc_list.length ∧ mc_list.length ≤ WCN36XX_HAL_MAX_NUM_MULTICAST_ADDRESS ∧
      (msg.drop 13).take (6 * mc_list.length) = addrBytes mc_list ∧
      vif.type = .STATION ∧ vif.sta_assoc ∧ total &&& (FIF_ALLMULTI ||| FIF_PROMISC_IN_BSS) = 0

/-- What the message of `wcn36xx_smd_set_mc_list` has of the list that is given to it. -/
theorem mcListMsg_parts (bss_index : Byte) {list : List Byte}
    (hlist : list.length = sizeofMcAddrList) :
    field (mcListMsg bss_index list) 0 2 = HalReq.MULTICAST_LIST_8023.reqType.toNat ∧
      (mcListMsg bss_index list)[HalMsgHeader.size + sizeofMcAddrList - 1]? = some bss_index ∧
      field (mcListMsg bss_index list) 9 4 = field list 1 4 ∧
      ∀ n ≤ 1440, ((mcListMsg bss_index list).drop 13).take n = (list.drop 5).take n := by
  have hsize : sizeofMcAddrList = 1446 := rfl
  obtain ⟨header, hheader⟩ : ∃ header, header =
    initHalMsg HalReq.MULTICAST_LIST_8023.reqType (sizeofMcAddrList + HalMsgHeader.size) := ⟨_, rfl⟩
  obtain ⟨front, hfront⟩ : ∃ front, front = list.take 1445 := ⟨_, rfl⟩
  have hmsg : mcListMsg bss_index list = header.bytes ++ (front ++ [bss_index]) := by
    rw [hheader, hfront]
    rfl
  have hbytes : header.bytes.length = 8 := rfl
  have hlen : front.length = 1445 := by
    rw [hfront, List.length_take]
    omega
  -- What is taken from the list is in front of its last byte.
  have hpart : ∀ k n, k + n ≤ 1445 →
      ((mcListMsg bss_index list).drop (8 + k)).take n = (list.drop k).take n := by
    intro k n hkn
    rw [hmsg, ← List.drop_drop, List.drop_left' hbytes, List.drop_append_of_le_length (by omega),
      List.take_append_of_le_length (by rw [List.length_drop]; omega), hfront, List.drop_take,
      List.take_take]
    congr 1
    omega
  refine ⟨?_, ?_, ?_, ?_⟩
  · rw [hmsg, hheader, ← readLe_leBytes16, HalMsgHeader.bytes]
    simp only [List.append_assoc]
    exact field_append [] (leBytes16 HalReq.MULTICAST_LIST_8023.reqType) _ rfl rfl
  · have hpos : (header.bytes ++ front).length = HalMsgHeader.size + sizeofMcAddrList - 1 := by
      rw [List.length_append, hlen]
      rfl
    rw [hmsg, ← List.append_assoc, ← hpos, List.getElem?_concat_length]
  · unfold field
    rw [hpart 1 4 (by decide)]
  · intro n hn
    exact hpart 5 n (by omega)

/-- A part of an array of addresses. -/
theorem take_addrBytes (addrs : List (Vector Byte 6)) {n : ℕ} (h : n ≤ addrs.length) :
    (addrBytes addrs).take (6 * n) = addrBytes (addrs.take n) := by
  have hsplit : addrBytes addrs = addrBytes (addrs.take n) ++ addrBytes (addrs.drop n) := by
    unfold addrBytes
    rw [← List.flatMap_append, List.take_append_drop]
  have hlen : (addrBytes (addrs.take n)).length = 6 * n := by
    rw [length_addrBytes, List.length_take, Nat.min_eq_left h]
  rw [hsplit, ← hlen, List.take_left]

/-- The message for a list of the heap. -/
theorem mcRequest_list {mc_list : List (Vector Byte 6)} {fp : McAddrList} {total : BitVec 32}
    {vif : WcnVif} (h : McListOf mc_list fp) (htype : vif.type = .STATION)
    (hassoc : vif.sta_assoc) (htotal : total &&& (FIF_ALLMULTI ||| FIF_PROMISC_IN_BSS) = 0) :
    McRequest mc_list total vif (mcListMsg vif.bss_index (mcAddrList (some fp.bytes))) := by
  obtain ⟨htyp, hbss, hcount, haddr⟩ := mcListMsg_parts vif.bss_index
    (length_mcAddrList (some fp.bytes))
  have hbytes : mcAddrList (some fp.bytes) =
      [fp.data_offset] ++ leBytes fp.mc_addr_count ++ addrBytes fp.mc_addr.toList ++
        [fp.bss_index] := rfl
  have hfield : field (mcAddrList (some fp.bytes)) 1 4 = fp.mc_addr_count.toNat := by
    rw [hbytes, ← readLe_leBytes]
    simp only [List.append_assoc]
    exact field_append [fp.data_offset] _ _ rfl rfl
  refine ⟨htyp, hbss, ?_⟩
  rw [hcount, hfield]
  rcases h.count with hzero | ⟨hall, hle, htake⟩
  · left
    rw [hzero]
    rfl
  · refine .inr ⟨hall, hle, ?_, htype, hassoc, htotal⟩
    have hmax : WCN36XX_HAL_MAX_NUM_MULTICAST_ADDRESS = 240 := rfl
    have harray : fp.mc_addr.toList.length = 240 := fp.mc_addr.length_toList
    have hfront : ([fp.data_offset] ++ leBytes fp.mc_addr_count).length = 5 := rfl
    rw [haddr _ (by omega), hbytes, List.append_assoc _ (addrBytes _), List.drop_left' hfront,
      List.take_append_of_le_length (by rw [length_addrBytes]; omega),
      take_addrBytes _ (by omega), htake]

/-- The message without a list. -/
theorem mcRequest_none (mc_list : List (Vector Byte 6)) (total : BitVec 32) (vif : WcnVif) :
    McRequest mc_list total vif (mcListMsg vif.bss_index (mcAddrList none)) := by
  obtain ⟨htyp, hbss, hcount, -⟩ := mcListMsg_parts vif.bss_index (length_mcAddrList none)
  refine ⟨htyp, hbss, .inl ?_⟩
  rw [hcount]
  rfl

/-! ## `wcn36xx_configure_filter` -/

/-- An interface for which there is a request. -/
def GetsMcRequest (total : BitVec 32) (vif : WcnVif) : Prop :=
  total &&& (FIF_ALLMULTI ||| FIF_PROMISC_IN_BSS) ≠ 0 ∨ vif.type = .STATION ∧ vif.sta_assoc

instance (total : BitVec 32) : DecidablePred (GetsMcRequest total) := fun _ =>
  inferInstanceAs (Decidable (_ ∨ _))

/-- A request is sent; there is no fault if the response to it fits. -/
theorem setMcList_sends (fw : Firmware) (vif : WcnVif)
    (fp : Option (Vector Byte sizeofMcAddrList)) (smd : Smd) :
    (FitsHalBuf fw → (smdCall fw (.request (.setMcList vif fp)) smd).isSome) ∧
      ∀ out ∈ smdCall fw (.request (.setMcList vif fp)) smd,
        out.1.sent = smd.sent ++ [mcListMsg vif.bss_index (mcAddrList fp)] := by
  have hsent := @Composes.sends (.setMcList vif fp) _ (composes_setMcList vif fp).2 fw smd
  constructor
  · intro hfw
    have hsome := sendAll_isSome hfw [mcListMsg vif.bss_index (mcAddrList fp)] smd.sent
    rwa [← hsent, Option.isSome_map] at hsome
  · intro out hout
    rw [Option.mem_def.mp hout, Option.map_some] at hsent
    exact sendAll_singleton hsent.symm

/-- What the address of the list stands for while the filter is configured. -/
def McListAt (mc_list : List (Vector Byte 6)) (heap : Heap McAddrList) (fp : ℕ) : Prop :=
  ∃ list, readMcList heap fp = some list ∧ ∀ l ∈ list, McListOf mc_list l

section ConfigureFilter

variable (fw : Firmware) {mc_list : List (Vector Byte 6)} {total : BitVec 32}
  {heap : Heap McAddrList} {fp : ℕ} (hfp : McListAt mc_list heap fp)
include hfp

/-- An interface gets its request, or nothing is sent. -/
theorem configureFilterVif_spec (smd : Smd) (vif : WcnVif) :
    (FitsHalBuf fw → (configureFilterVif fw total heap fp smd vif).isSome) ∧
      ∀ smd' ∈ configureFilterVif fw total heap fp smd vif,
        (GetsMcRequest total vif ∧
          ∃ msg, McRequest mc_list total vif msg ∧ smd'.sent = smd.sent ++ [msg]) ∨
        ¬GetsMcRequest total vif ∧ smd'.sent = smd.sent := by
  obtain ⟨list, hlist, hof⟩ := hfp
  unfold configureFilterVif
  by_cases htotal : total &&& (FIF_ALLMULTI ||| FIF_PROMISC_IN_BSS) ≠ 0
  · rw [if_pos htotal]
    obtain ⟨hruns, hsent⟩ := setMcList_sends fw vif none smd
    refine ⟨fun hfw => by rw [Option.isSome_map]; exact hruns hfw, fun smd' hsmd' => ?_⟩
    obtain ⟨out, hout, rfl⟩ := Option.map_eq_some_iff.mp hsmd'
    exact .inl ⟨.inl htotal, _, mcRequest_none mc_list total vif, hsent out hout⟩
  · rw [if_neg htotal]
    by_cases hsta : vif.type = .STATION ∧ vif.sta_assoc
    · rw [if_pos hsta, hlist]
      obtain ⟨hruns, hsent⟩ := setMcList_sends fw vif (list.map McAddrList.bytes) smd
      refine ⟨fun hfw => ?_, fun smd' hsmd' => ?_⟩
      · simp only [Option.bind_eq_bind, Option.bind_some, Option.isSome_map]
        exact hruns hfw
      · simp only [Option.bind_eq_bind, Option.bind_some] at hsmd'
        obtain ⟨out, hout, rfl⟩ := Option.map_eq_some_iff.mp hsmd'
        refine .inl ⟨.inr hsta, _, ?_, hsent out hout⟩
        cases list with
        | none => exact mcRequest_none mc_list total vif
        | some l => exact mcRequest_list (hof l rfl) hsta.1 hsta.2 (not_not.mp htotal)
    · rw [if_neg hsta]
      refine ⟨fun _ => rfl, fun smd' hsmd' => .inr ⟨not_or.mpr ⟨htotal, hsta⟩, ?_⟩⟩
      rw [← Option.some.inj hsmd']

/-- The interfaces get their requests one after another. The induction is on the interfaces that are left. -/
theorem configureFilterVifs_spec (vif_list : List WcnVif) : ∀ smd : Smd,
    (FitsHalBuf fw → (vif_list.foldlM (configureFilterVif fw total heap fp) smd).isSome) ∧
      ∀ smd' ∈ vif_list.foldlM (configureFilterVif fw total heap fp) smd,
        ∃ msgs, smd'.sent = smd.sent ++ msgs ∧
          List.Forall₂ (McRequest mc_list total) (vif_list.filter (GetsMcRequest total)) msgs := by
  induction vif_list with
  | nil =>
    intro smd
    refine ⟨fun _ => rfl, fun smd' hsmd' => ⟨[], ?_, .nil⟩⟩
    rw [← Option.some.inj hsmd', List.append_nil]
  | cons vif vif_list ih =>
    intro smd
    obtain ⟨hruns, hsent⟩ := @configureFilterVif_spec fw mc_list total heap fp hfp smd vif
    rw [List.foldlM_cons]
    constructor
    · intro hfw
      obtain ⟨smd₁, h₁⟩ := Option.isSome_iff_exists.mp (hruns hfw)
      rw [h₁]
      exact (ih smd₁).1 hfw
    · intro smd' hsmd'
      obtain ⟨smd₁, h₁, h₂⟩ := Option.bind_eq_some_iff.mp hsmd'
      obtain ⟨msgs, hmsgs, hall⟩ := (ih smd₁).2 smd' h₂
      rcases hsent smd₁ h₁ with ⟨hgets, msg, hmsg, hsent₁⟩ | ⟨hgets, hsent₁⟩
      · refine ⟨msg :: msgs, ?_, ?_⟩
        · rw [hmsgs, hsent₁, List.append_assoc, List.singleton_append]
        · simp only [List.filter_cons, decide_eq_true hgets, if_true]
          exact .cons hmsg hall
      · refine ⟨msgs, by rw [hmsgs, hsent₁], ?_⟩
        simpa only [List.filter_cons, decide_eq_false hgets, Bool.false_eq_true, if_false] using hall

end ConfigureFilter

/-! ## No address is lost -/

/-- The list is prepared and the filter is configured with it. -/
structure McFiltered (fw : Firmware) (kzalloc : Bool) (mc_list : List (Vector Byte 6))
    (vif_list : List WcnVif) (total : BitVec 32) (heap : Heap McAddrList) (smd : Smd) : Prop where
  /-- No address is written outside `mc_addr`. -/
  prepared : (prepareMulticast kzalloc mc_list heap).isSome
  /-- There is no fault, unless a response is longer than `hal_buf`. -/
  runs : FitsHalBuf fw → (filterMulticast fw kzalloc mc_list vif_list total heap smd).isSome
  /-- What is sent are the requests of the interfaces. -/
  requests : ∀ out ∈ filterMulticast fw kzalloc mc_list vif_list total heap smd,
    ∃ msgs, out.1.sent = smd.sent ++ msgs ∧
      List.Forall₂ (McRequest mc_list total) (vif_list.filter (GetsMcRequest total)) msgs
  /-- The list has been freed: the heap has what it had before. Freeing it twice is a fault. -/
  freed : ∀ out ∈ filterMulticast fw kzalloc mc_list vif_list total heap smd,
    out.2.1.cells = heap.cells

/-- The flags that the driver does not support are not looked at. -/
theorem supportedFilters_and (total : BitVec 32) :
    total &&& WCN36XX_SUPPORTED_FILTERS &&& (FIF_ALLMULTI ||| FIF_PROMISC_IN_BSS) =
      total &&& (FIF_ALLMULTI ||| FIF_PROMISC_IN_BSS) := by
  have hmask : WCN36XX_SUPPORTED_FILTERS &&& (FIF_ALLMULTI ||| FIF_PROMISC_IN_BSS) =
      FIF_ALLMULTI ||| FIF_PROMISC_IN_BSS := by decide
  rw [BitVec.and_assoc, hmask]

/-- The requests are the same for all flags that are requested and for the supported ones. -/
theorem mcRequests_supported {mc_list : List (Vector Byte 6)} {total : BitVec 32}
    {vif_list : List WcnVif} {msgs : List (List Byte)}
    (h : List.Forall₂ (McRequest mc_list (total &&& WCN36XX_SUPPORTED_FILTERS))
      (vif_list.filter (GetsMcRequest (total &&& WCN36XX_SUPPORTED_FILTERS))) msgs) :
    List.Forall₂ (McRequest mc_list total) (vif_list.filter (GetsMcRequest total)) msgs := by
  have hgets : ∀ vif, GetsMcRequest (total &&& WCN36XX_SUPPORTED_FILTERS) vif ↔
      GetsMcRequest total vif := by
    intro vif
    unfold GetsMcRequest
    rw [supportedFilters_and]
  have hfilter : vif_list.filter (GetsMcRequest (total &&& WCN36XX_SUPPORTED_FILTERS)) =
      vif_list.filter (GetsMcRequest total) :=
    List.filter_congr fun vif _ => decide_eq_decide.mpr (hgets vif)
  rw [hfilter] at h
  refine h.imp fun vif msg hmsg => ⟨hmsg.type, hmsg.bss_index, ?_⟩
  have hlist := hmsg.list
  rwa [supportedFilters_and] at hlist

/-- `kfree` of what `wcn36xx_prepare_multicast` has handed over, and nothing else. -/
theorem configureFilter_spec (fw : Firmware) {mc_list : List (Vector Byte 6)}
    (vif_list : List WcnVif) (total : BitVec 32) {heap heap' : Heap McAddrList} {fp : ℕ} (smd : Smd)
    (hfp : McListAt mc_list heap fp) (hfree : kfree heap fp = some heap') :
    (FitsHalBuf fw → (configureFilter fw vif_list total fp heap smd).isSome) ∧
      ∀ out ∈ configureFilter fw vif_list total fp heap smd, out.2.1 = heap' ∧
        ∃ msgs, out.1.sent = smd.sent ++ msgs ∧
          List.Forall₂ (McRequest mc_list total) (vif_list.filter (GetsMcRequest total)) msgs := by
  obtain ⟨hruns, hsent⟩ := @configureFilterVifs_spec fw mc_list
    (total &&& WCN36XX_SUPPORTED_FILTERS) heap fp hfp vif_list smd
  unfold configureFilter
  simp only [hfree, Option.bind_eq_bind, Option.bind_some, Option.pure_def]
  constructor
  · intro hfw
    obtain ⟨smd', hsmd'⟩ := Option.isSome_iff_exists.mp (hruns hfw)
    rw [hsmd']
    rfl
  · intro out hout
    obtain ⟨smd', hsmd', heq⟩ := Option.bind_eq_some_iff.mp hout
    obtain ⟨msgs, hmsgs, hall⟩ := hsent smd' hsmd'
    rw [← Option.some.inj heq]
    exact ⟨rfl, msgs, hmsgs, mcRequests_supported hall⟩

/-- For every list of addresses, with or without memory for it, all interfaces and filter flags: the
requests that are sent have all addresses or accept all, and the list is freed. -/
theorem multicast_filtered (fw : Firmware) (kzalloc : Bool) (mc_list : List (Vector Byte 6))
    (vif_list : List WcnVif) (total : BitVec 32) (heap : Heap McAddrList) (smd : Smd) :
    McFiltered fw kzalloc mc_list vif_list total heap smd := by
  -- What is handed over, and the heap after it has been freed.
  obtain ⟨fp, heap₁, heap₂, hprepare, hfp, hfree, hcells⟩ : ∃ fp heap₁ heap₂,
      prepareMulticast kzalloc mc_list heap = some (fp, heap₁) ∧ McListAt mc_list heap₁ fp ∧
        kfree heap₁ fp = some heap₂ ∧ heap₂.cells = heap.cells := by
    rcases prepareMulticast_spec kzalloc mc_list heap with hnull | ⟨list, hof, halloc⟩
    · exact ⟨0, heap, heap, hnull, ⟨none, rfl, by simp⟩, rfl, rfl⟩
    · have hne : heap.next ≠ 0 := Nat.ne_of_gt heap.next_pos
      have hcell : (heap.alloc list).2.cells heap.next = some list := by
        rw [Heap.alloc_cells, Function.update_self]
      obtain ⟨heap₂, hfree, -, hcells⟩ := Heap.exists_free hcell
      refine ⟨heap.next, (heap.alloc list).2, heap₂, halloc, ⟨some list, ?_, ?_⟩, ?_, ?_⟩
      · rw [readMcList, if_neg hne, hcell]
        rfl
      · intro l hl
        rw [← Option.some.inj hl]
        exact hof
      · rw [kfree, if_neg hne, hcell]
        exact hfree
      · have hnone : heap.cells heap.next = none := heap.cells_next _ (Nat.le_refl _)
        rw [hcells, Heap.alloc_cells, Function.update_idem, ← hnone, Function.update_eq_self]
  obtain ⟨hruns, hout⟩ := configureFilter_spec fw vif_list total smd hfp hfree
  have hrun : filterMulticast fw kzalloc mc_list vif_list total heap smd =
      configureFilter fw vif_list total fp heap₁ smd := by
    simp only [filterMulticast, hprepare, Option.bind_eq_bind, Option.bind_some]
  refine ⟨by rw [hprepare]; rfl, ?_, ?_, ?_⟩
  · rw [hrun]
    exact hruns
  · intro out h
    exact (hout out (hrun ▸ h)).2
  · intro out h
    rw [(hout out (hrun ▸ h)).1, hcells]

end Wcn36xx
