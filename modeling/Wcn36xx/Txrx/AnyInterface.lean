import Wcn36xx.Mac.Interface
import Wcn36xx.Txrx.FailedTx
import Wcn36xx.Txrx.SentBd

/-!
# Frames of interfaces that are not there

`wcn36xx_set_tx_data` without a station and `wcn36xx_set_tx_mgmt` look for the interface that has the
frame's transmitter address, and read the interface that they find. `get_vif_by_addr` finds none when no
interface in `vif_list` has the address, and neither of the two looks at that. With a station, a
data frame goes through the station's interface, whatever its address.

`transmits_iff` says for every set of interfaces that runs of `wcn36xx_add_interface` and
`wcn36xx_remove_interface` lead to, and every frame, whether `wcn36xx_start_tx` gets by.
-/

namespace Wcn36xx

open Support (System)

/-! ## Sets of interfaces -/

/-- The callbacks for interfaces. -/
inductive VifEvent where
  /-- `wcn36xx_add_interface`. -/
  | addInterface (vif : ℕ) (priv : WcnVif) (rsp : Option AddStaSelfRsp)
  /-- `wcn36xx_remove_interface`. -/
  | removeInterface (vif : ℕ)

/-- The interfaces as a transition system. -/
def vifSystem : System MacConf VifEvent where
  init mac := mac.vif_list = []
  step mac
    | .addInterface vif priv rsp =>
      if vif ∈ mac.vif_list then none else some (addInterface mac vif priv rsp).1
    | .removeInterface vif =>
      if vif ∈ mac.vif_list then some { mac with vif_list := mac.vif_list.erase vif } else none

/-- The interfaces in `vif_list` have their private data. -/
def MacConf.Listed (mac : MacConf) : Prop := ∀ vif ∈ mac.vif_list, ∃ priv, mac.vif vif = some priv

/-- They have it in every reachable set. -/
theorem MacConf.listed_of_reachable {mac : MacConf} (h : vifSystem.Reachable mac) : mac.Listed := by
  refine h.invariant (fun mac hinit vif hvif => ?_) fun mac e mac' ih hstep vif hvif => ?_
  · rw [hinit] at hvif
    cases hvif
  · cases e with
    | addInterface v priv rsp =>
      obtain ⟨-, hstep⟩ := Option.ite_none_left_eq_some.mp hstep
      obtain rfl := Option.some.inj hstep
      unfold addInterface at hvif ⊢
      split_ifs at hvif ⊢ with htype
      · exact ih vif hvif
      · dsimp only at hvif ⊢
        rcases eq_or_ne vif v with rfl | hne
        · exact ⟨_, Function.update_self ..⟩
        · rw [Function.update_of_ne hne]
          exact ih vif ((List.mem_cons.mp hvif).resolve_left hne)
    | removeInterface v =>
      obtain ⟨-, hstep⟩ := Option.ite_none_right_eq_some.mp hstep
      obtain rfl := Option.some.inj hstep
      exact ih vif (List.mem_of_mem_erase hvif)

/-! ## Finding the interface -/

/-- Some interface in `vif_list` has the frame's transmitter address. -/
def MacConf.knowsAddr2 (mac : MacConf) (skb : SkBuff) : Bool :=
  mac.vif_list.any fun vif => (mac.vif vif).any fun priv => priv.addr = skb.addr2

/-- The station that a frame is for has an interface, and it is still there. -/
def MacConf.StaVifSet (mac : MacConf) (sta_priv : Option ℕ) : Prop :=
  ∀ sta, sta_priv = some sta → ∃ s vif priv, mac.sta sta = some s ∧ s.vif = some vif ∧
    mac.vif vif = some priv

/-- What `get_vif_by_addr` finds. -/
theorem getVifByAddr_eq {mac : MacConf} {addr : List Byte} {vif_list : List ℕ}
    (h : ∀ vif ∈ vif_list, ∃ priv, mac.vif vif = some priv) :
    getVifByAddr mac addr vif_list =
      some (vif_list.find? fun vif => (mac.vif vif).any fun priv => priv.addr = addr) := by
  induction vif_list with
  | nil => rfl
  | cons vif rest ih =>
    obtain ⟨priv, hpriv⟩ := h vif List.mem_cons_self
    have hrest := ih fun v hv => h v (List.mem_cons_of_mem _ hv)
    rw [getVifByAddr, List.find?_cons, hpriv, Option.any_some]
    by_cases haddr : priv.addr = addr
    · simp [haddr]
    · simp [haddr, hrest]

section Lookup

variable {mac : MacConf} (h : mac.Listed) {skb : SkBuff}
include h

/-- With the address in `vif_list`, the interface is found. -/
theorem exists_getVifByAddr (hknown : mac.knowsAddr2 skb = true) : ∃ vif priv,
    getVifByAddr mac skb.addr2 mac.vif_list = some (some vif) ∧ mac.vif vif = some priv := by
  rw [getVifByAddr_eq h]
  obtain ⟨vif, hvif, hany⟩ := List.any_eq_true.mp hknown
  obtain ⟨found, hfound⟩ : ∃ found, (mac.vif_list.find? fun vif =>
      (mac.vif vif).any fun priv => priv.addr = skb.addr2) = some found :=
    Option.isSome_iff_exists.mp (List.find?_isSome.mpr ⟨vif, hvif, hany⟩)
  obtain ⟨priv, hpriv⟩ := h found (List.mem_of_find?_eq_some hfound)
  exact ⟨found, priv, by rw [hfound], hpriv⟩

/-- Without it, none is. -/
theorem getVifByAddr_none (hunknown : mac.knowsAddr2 skb = false) :
    getVifByAddr mac skb.addr2 mac.vif_list = some none := by
  rw [getVifByAddr_eq h, Option.some.injEq, List.find?_eq_none]
  exact List.any_eq_false.mp hunknown

end Lookup

/-! ## Building the BD -/

/-- The frame's interface is found: it is that of the station of a data frame, or has the frame's
transmitter address. -/
def MacConf.findsVif (mac : MacConf) (sta_priv : Option ℕ) (skb : SkBuff) : Bool :=
  (skb.isLow && sta_priv.isSome) || mac.knowsAddr2 skb

/-- `wcn36xx_tx_start_ampdu` has no fault for a station that is there. -/
theorem exists_txStartAmpdu {mac : MacConf} {sta : ℕ} {s : WcnSta} (hs : mac.sta sta = some s)
    (skb : SkBuff) : ∃ mac' es, txStartAmpdu mac sta skb = some (mac', es) := by
  unfold txStartAmpdu
  split_ifs
  · exact ⟨_, _, rfl⟩
  · exact ⟨_, _, rfl⟩
  · exact ⟨_, _, rfl⟩
  · simp only [hs, Option.bind_eq_bind, Option.bind_some, Option.pure_def]
    split_ifs
    · exact ⟨_, _, rfl⟩
    · exact ⟨_, _, rfl⟩
    · exact ⟨_, _, rfl⟩

section Build

variable {mac : MacConf} {sta_priv : Option ℕ} {skb : SkBuff}

/-- The station's part of a BD. -/
theorem exists_setTxDataSta (h : mac.Listed) (hsta : mac.StaVifSet sta_priv) (bd : TxBd)
    (hfinds : sta_priv.isSome = true ∨ mac.knowsAddr2 skb = true) :
    ∃ bd' vif, setTxDataSta bd mac sta_priv skb = some (bd', vif) := by
  unfold setTxDataSta
  cases sta_priv with
  | some sta =>
    obtain ⟨s, vif, priv, hs, hvif, hpriv⟩ := hsta sta rfl
    simp only [hs, hvif, hpriv, Option.bind_eq_bind, Option.bind_some, Option.pure_def]
    cases priv.type <;> exact ⟨_, _, rfl⟩
  | none =>
    obtain ⟨vif, priv, hvif, hpriv⟩ := exists_getVifByAddr h (hfinds.resolve_left Bool.false_ne_true)
    simp only [hvif, hpriv, Option.bind_eq_bind, Option.bind_some, Option.pure_def]
    exact ⟨_, _, rfl⟩

/-- The BD is built when the interface is found. -/
theorem exists_startTxBd (h : mac.Listed) (hsta : mac.StaVifSet sta_priv)
    (hfinds : mac.findsVif sta_priv skb = true) : ∃ r, startTxBd mac sta_priv skb = some r := by
  rw [MacConf.findsVif, Bool.or_eq_true, Bool.and_eq_true] at hfinds
  unfold startTxBd
  split_ifs with hlow
  · obtain ⟨bd, vif, hbd⟩ := exists_setTxDataSta h hsta
      { startTxBdInit skb with bd_rate := WCN36XX_BD_RATE_DATA } (hfinds.imp_left And.right)
    unfold setTxData
    simp only [hbd, Option.bind_eq_bind, Option.bind_some, Option.pure_def]
    cases sta_priv with
    | none => exact ⟨_, rfl⟩
    | some sta =>
      obtain ⟨s, -, -, hs, -, -⟩ := hsta sta rfl
      obtain ⟨mac', es, hampdu⟩ := exists_txStartAmpdu hs skb
      by_cases hqos : ieee80211IsDataQos skb.frameControl = true
      · simp only [if_pos hqos, hampdu, Option.bind_some]
        exact ⟨_, rfl⟩
      · simp only [if_neg hqos]
        exact ⟨_, rfl⟩
  · have hknown : mac.knowsAddr2 skb = true := hfinds.resolve_left fun hlow' => hlow hlow'.1
    obtain ⟨vif, priv, hvif, hpriv⟩ := exists_getVifByAddr h hknown
    unfold setTxMgmt
    simp only [hvif, hpriv, Option.bind_eq_bind, Option.bind_some, Option.pure_def]
    exact ⟨_, rfl⟩

/-- It is not built when the interface is not found: that is the fault. -/
theorem findsVif_of_startTxBd (h : mac.Listed) {r : TxBd × ℕ × MacConf × List Effect}
    (hrun : startTxBd mac sta_priv skb = some r) : mac.findsVif sta_priv skb = true := by
  by_contra hno
  rw [Bool.not_eq_true, MacConf.findsVif, Bool.or_eq_false_iff] at hno
  obtain ⟨hsta, hunknown⟩ := hno
  have hnone := getVifByAddr_none h hunknown
  unfold startTxBd at hrun
  split_ifs at hrun with hlow
  · -- Without a station a data frame is looked up by its address, as the others are.
    rw [hlow, Bool.true_and, Option.isSome_eq_false_iff, Option.isNone_iff_eq_none] at hsta
    rw [hsta, setTxData, setTxDataSta] at hrun
    simp only [hnone, Option.bind_eq_bind, Option.bind_some, Option.bind_none] at hrun
    cases hrun
  · rw [setTxMgmt] at hrun
    simp only [hnone, Option.bind_eq_bind, Option.bind_some, Option.bind_none] at hrun
    cases hrun

/-- The interface that is found is still there when the frame is put into the ring. -/
theorem vif_of_startTxBd {bd : TxBd} {vif : ℕ} {mac' : MacConf} {es : List Effect}
    (hrun : startTxBd mac sta_priv skb = some (bd, vif, mac', es)) :
    ∃ priv, mac'.vif vif = some priv := by
  unfold startTxBd at hrun
  split_ifs at hrun
  · obtain ⟨hmac, bd₁, hsta, -⟩ := setTxData_eq hrun
    -- A-MPDU changes stations only.
    have hkeep : mac'.vif = mac.vif := by
      rcases hmac with rfl | ⟨sta, hampdu⟩
      · rfl
      · rcases txStartAmpdu_cases hampdu with ⟨rfl, -⟩ | ⟨s, -, -, ⟨-, -, rfl⟩ | ⟨-, -, rfl⟩⟩
        · rfl
        · rfl
        · rfl
    rw [hkeep]
    unfold setTxDataSta at hsta
    cases sta_priv with
    | some sta =>
      obtain ⟨s, -, hsta⟩ := Option.bind_eq_some_iff.mp hsta
      obtain ⟨v, -, hsta⟩ := Option.bind_eq_some_iff.mp hsta
      obtain ⟨priv, hpriv, hsta⟩ := Option.bind_eq_some_iff.mp hsta
      refine ⟨priv, ?_⟩
      cases htype : priv.type <;> rw [htype] at hsta <;> cases hsta <;> exact hpriv
    | none =>
      obtain ⟨v, -, hsta⟩ := Option.bind_eq_some_iff.mp hsta
      obtain ⟨v', -, hsta⟩ := Option.bind_eq_some_iff.mp hsta
      obtain ⟨priv, hpriv, hsta⟩ := Option.bind_eq_some_iff.mp hsta
      cases hsta
      exact ⟨priv, hpriv⟩
  · obtain ⟨v, -, hrun⟩ := Option.bind_eq_some_iff.mp hrun
    obtain ⟨v', -, hrun⟩ := Option.bind_eq_some_iff.mp hrun
    obtain ⟨priv, hpriv, hrun⟩ := Option.bind_eq_some_iff.mp hrun
    cases hrun
    exact ⟨priv, hpriv⟩

end Build

/-! ## The whole of `wcn36xx_start_tx` -/

section Exists

variable {p : TxParams} {wcn : Wcn} {skb : SkBuff} {cursor T D H : ℕ} {q : List SkBuff}

/-- `wcn36xx_dxe_tx_frame` has no fault when the interface is there. -/
theorem TxHolds.exists_dxeTxFrame {is_low : Bool}
    (h : TxHolds p is_low (wcn.txCh is_low) cursor T D H q) (priv : WcnVif) (skb : SkBuff) :
    ∃ r, dxeTxFrame wcn (some priv) skb is_low = some r := by
  cases hslot : (wcn.txCh is_low).slotSkb (H + 1) with
  | some other =>
    have hfull : ((wcn.txCh is_low).slotSkb (H + 1)).isSome = true := by rw [hslot]; rfl
    exact ⟨_, dxeTxFrame_busy h.ring.ready h.ring.head hfull (some priv) skb⟩
  | none =>
    obtain ⟨phy, hacc⟩ :=
      dxeTxFrame_accept h.ring.ready h.ring.head h.ring.head_even hslot (some priv) skb
    rw [dxeTxKick_spec, Option.map_some] at hacc
    exact ⟨_, hacc⟩

/-- The frame is refused before the interface is looked for: another one waits for its status. -/
def Wcn.ackPending (wcn : Wcn) (skb : SkBuff) : Bool := skb.wantsStatus && wcn.tx_ack_skb.isSome

/-- Filling the BD, when no other frame waits. -/
theorem startTxFill_eq {sta_priv : Option ℕ} {addr : ℕ}
    (hbd : dxeGetNextBd wcn skb.isLow = some addr) (hpos : 0 < addr)
    (hpending : wcn.ackPending skb = false) {bd : TxBd} {vif : ℕ} {mac : MacConf} {es : List Effect}
    (hbuilt : startTxBd wcn.mac sta_priv skb = some (bd, vif, mac, es)) :
    startTxFill wcn sta_priv skb = some (filledWcn wcn skb addr bd mac es, .inr vif) := by
  have hne : addr ≠ 0 := Nat.pos_iff_ne_zero.mp hpos
  unfold Wcn.ackPending at hpending
  simp only [startTxFill, hbd, Option.bind_eq_bind, Option.bind_some, if_neg hne, hpending,
    Bool.false_eq_true, if_false, Option.pure_def]
  cases hw : skb.wantsStatus with
  | false =>
    simp only [Bool.false_eq_true, if_false, hbuilt, Option.bind_some, Option.some.injEq,
      Prod.mk.injEq, and_true, filledWcn, Wcn.writeBd, Wcn.emit, hw, List.append_nil]
    cases skb.isLow <;> rfl
  | true =>
    simp only [if_true, Wcn.emit, hbuilt, Option.bind_some, Option.some.injEq, Prod.mk.injEq, and_true,
      filledWcn, Wcn.writeBd, hw]
    cases skb.isLow <;> rfl

section Run

variable (h : TxHolds p skb.isLow (wcn.txCh skb.isLow) cursor T D H q) {sta_priv : Option ℕ}
include h

/-- A frame that asks for its status while another one waits for it is refused without a fault. -/
theorem TxHolds.exists_startTx_pending (hpending : wcn.ackPending skb = true) :
    ∃ r, startTx wcn sta_priv skb = some r := by
  have hbd := h.dxeGetNextBd rfl
  have hne := Nat.pos_iff_ne_zero.mp h.bdAddr_pos
  unfold Wcn.ackPending at hpending
  simp only [startTx, startTxFill, hbd, Option.bind_eq_bind, Option.bind_some, if_neg hne, hpending,
    if_true, Option.pure_def]
  exact ⟨_, rfl⟩

/-- Any other frame is sent, or finds the ring full, when its interface is found. -/
theorem TxHolds.exists_startTx_found (hpending : wcn.ackPending skb = false)
    (hlisted : wcn.mac.Listed) (hsta : wcn.mac.StaVifSet sta_priv)
    (hfinds : wcn.mac.findsVif sta_priv skb = true) : ∃ r, startTx wcn sta_priv skb = some r := by
  have hbd := h.dxeGetNextBd rfl
  obtain ⟨⟨bd, vif, mac, es⟩, hbuilt⟩ := exists_startTxBd hlisted hsta hfinds
  obtain ⟨priv, hpriv⟩ := vif_of_startTxBd hbuilt
  have hfilled : TxHolds p skb.isLow
      ((filledWcn wcn skb (bdAddr (p.pool skb.isLow) (wcn.txCh skb.isLow).desc_num H) bd mac
        es).txCh skb.isLow) cursor T D H q := by
    rw [txCh_filledWcn]
    exact h.writeBd _ _
  obtain ⟨r, hr⟩ := hfilled.exists_dxeTxFrame priv skb
  refine ⟨r, ?_⟩
  rw [startTx, startTxFill_eq hbd h.bdAddr_pos hpending hbuilt]
  have hvif : (filledWcn wcn skb (bdAddr (p.pool skb.isLow) (wcn.txCh skb.isLow).desc_num H) bd mac
      es).mac.vif vif = some priv := hpriv
  simp only [Option.bind_eq_bind, Option.bind_some, hvif]
  exact hr

/-- `wcn36xx_start_tx` has no fault exactly when it does not come to look for the interface, or the
interface is found. -/
theorem TxHolds.exists_startTx_iff (hlisted : wcn.mac.Listed) (hsta : wcn.mac.StaVifSet sta_priv) :
    (∃ r, startTx wcn sta_priv skb = some r) ↔
      wcn.ackPending skb = true ∨ wcn.mac.findsVif sta_priv skb = true := by
  constructor
  · rintro ⟨⟨wcn', ret⟩, hrun⟩
    rcases h.startTx_cases hrun with ⟨-, hw, hack, -⟩ | ⟨-, bd, vif, mac, es, hbuilt, -⟩
    · refine .inl ?_
      rw [Wcn.ackPending, hw, hack]
      rfl
    · exact .inr (findsVif_of_startTxBd hlisted hbuilt)
  · intro hor
    by_cases hpending : wcn.ackPending skb = true
    · exact h.exists_startTx_pending hpending
    · have hfinds := hor.resolve_left hpending
      exact h.exists_startTx_found (Bool.not_eq_true _ ▸ hpending) hlisted hsta hfinds

end Run

end Exists

/-! ## What becomes of a frame -/

/-- The rings are as they were: their control blocks, their descriptors, head and tail. -/
structure SameRings (wcn wcn' : Wcn) : Prop where
  head_eq : ∀ is_low, (wcn'.txCh is_low).head_blk_ctl = (wcn.txCh is_low).head_blk_ctl
  tail_eq : ∀ is_low, (wcn'.txCh is_low).tail_blk_ctl = (wcn.txCh is_low).tail_blk_ctl
  ctl_eq : ∀ is_low, (wcn'.txCh is_low).ctl = (wcn.txCh is_low).ctl
  dxe_eq : ∀ is_low, (wcn'.txCh is_low).dxe = (wcn.txCh is_low).dxe

/-- A call that changes only BD bytes. -/
theorem SameRings.of_writeBd {wcn wcn' : Wcn}
    (hch : ∀ b, ∃ addr bytes, wcn'.txCh b = (wcn.txCh b).writeBd addr bytes ∨
      wcn'.txCh b = wcn.txCh b) : SameRings wcn wcn' := by
  constructor
  all_goals
    intro b
    obtain ⟨addr, bytes, heq | heq⟩ := hch b
    · rw [heq]
      rfl
    · rw [heq]

/-- `wcn36xx_start_tx` returns; and when no interface in `vif_list` has the frame's transmitter address it
returns an error, with the rings and `tx_ack_skb` as they were. -/
def Transmits (wcn : Wcn) (sta_priv : Option ℕ) (skb : SkBuff) : Prop :=
  ∃ wcn' ret, startTx wcn sta_priv skb = some (wcn', ret) ∧
    (wcn.mac.knowsAddr2 skb = false →
      ret ≠ 0 ∧ SameRings wcn wcn' ∧ wcn'.tx_ack_skb = wcn.tx_ack_skb)

/-- The condition: an interface has the address; or another frame waits for its status, and this one asks
for it too; or this is a data frame with a station that does not ask for its status, and the ring is
full. -/
def Wcn.transmitsSafely (wcn : Wcn) (sta_priv : Option ℕ) (skb : SkBuff) : Bool :=
  wcn.mac.knowsAddr2 skb || wcn.ackPending skb ||
    (skb.isLow && sta_priv.isSome && !skb.wantsStatus && (wcn.txCh skb.isLow).full)

/-- What a call does that returns, for a frame whose address no interface has. -/
theorem TxHolds.error_iff {p : TxParams} {wcn wcn' : Wcn} {skb : SkBuff} {cursor T D H : ℕ}
    {q : List SkBuff} (h : TxHolds p skb.isLow (wcn.txCh skb.isLow) cursor T D H q)
    {sta_priv : Option ℕ} {ret : ℤ} (hrun : startTx wcn sta_priv skb = some (wcn', ret)) :
    (ret ≠ 0 ∧ SameRings wcn wcn' ∧ wcn'.tx_ack_skb = wcn.tx_ack_skb) ↔
      wcn.ackPending skb = true ∨
        (skb.wantsStatus = false ∧ (wcn.txCh skb.isLow).full = true) := by
  unfold Wcn.ackPending
  rw [h.full_eq, decide_eq_true_iff]
  rcases h.startTx_cases hrun with ⟨rfl, hw, hack, rfl⟩ | ⟨hack, bd, vif, mac, es, -,
      ⟨hfull, rfl, rfl⟩ | ⟨hroom, rfl, -⟩⟩
  · -- Refused. What the function has cleared is the BD at the head.
    refine iff_of_true ⟨by decide, .of_writeBd fun b => ?_, ?_⟩ (.inl (by rw [hw, hack]; rfl))
    · rcases eq_or_ne b skb.isLow with rfl | hb
      · exact ⟨_, _, .inl (Wcn.txCh_setTxCh _ _ _)⟩
      · exact ⟨0, [], .inr (Wcn.txCh_setTxCh_ne _ hb _)⟩
    · rw [Wcn.writeBd, Wcn.setTxCh_tx_ack_skb]
  · -- The ring is full.
    have hrings : SameRings wcn ({ filledWcn wcn skb (bdAddr (p.pool skb.isLow)
        (p.desc_num skb.isLow) H) bd mac es with queues_stopped := true }.emit [.stopQueues]) :=
      .of_writeBd (txCh_filledWcn_cases wcn skb _ bd mac es)
    have hafter : ({ filledWcn wcn skb (bdAddr (p.pool skb.isLow) (p.desc_num skb.isLow) H) bd mac es
        with queues_stopped := true }.emit [.stopQueues]).tx_ack_skb =
        if skb.wantsStatus then some skb else wcn.tx_ack_skb := by
      rw [Wcn.emit_tx_ack_skb]
      exact filledWcn_tx_ack_skb wcn skb (bdAddr (p.pool skb.isLow) (p.desc_num skb.isLow) H) bd mac es
    rw [hafter]
    cases hw : skb.wantsStatus with
    | false =>
      rw [if_neg Bool.false_ne_true]
      exact iff_of_true ⟨by decide, hrings, rfl⟩ (.inr ⟨rfl, hfull⟩)
    | true =>
      -- The frame is in `tx_ack_skb` now, and was not before.
      rw [if_pos rfl, hack hw]
      refine iff_of_false (fun hsame => ?_) ?_
      · cases hsame.2.2
      · rintro (hpending | ⟨hno, -⟩)
        · cases hpending
        · cases hno
  · -- The frame is in the ring, and the function returns 0.
    refine iff_of_false (fun herr => herr.1 rfl) ?_
    rintro (hpending | ⟨-, hfull⟩)
    · rw [Bool.and_eq_true] at hpending
      rw [hack hpending.1] at hpending
      cases hpending.2
    · exact hroom hfull

/-- In every state of the rings, with every set of interfaces that additions and removals lead to, and
for every frame, with or without a station whose interface is set: `wcn36xx_start_tx` gets by exactly
under the condition. -/
theorem transmits_iff {p : TxParams} {s : TxWorld} (hs : (txSystem p).Reachable s)
    (hmac : vifSystem.Reachable s.wcn.mac) {sta_priv : Option ℕ}
    (hsta : s.wcn.mac.StaVifSet sta_priv) (skb : SkBuff) :
    Transmits s.wcn sta_priv skb ↔ s.wcn.transmitsSafely sta_priv skb = true := by
  obtain ⟨q, hq, -⟩ := txSystem_invariant (I := fun _ _ => True) (fun _ _ => trivial)
    (fun _ _ _ _ _ _ _ _ _ _ => trivial) hs
  obtain ⟨T, D, H, hlow⟩ := hq skb.isLow
  have hexists := hlow.exists_startTx_iff (MacConf.listed_of_reachable hmac) hsta
  unfold Transmits Wcn.transmitsSafely
  cases hknown : s.wcn.mac.knowsAddr2 skb with
  | true =>
    rw [Bool.true_or, Bool.true_or]
    have hfinds : s.wcn.mac.findsVif sta_priv skb = true := by
      rw [MacConf.findsVif, hknown, Bool.or_true]
    obtain ⟨⟨wcn', ret⟩, hrun⟩ := hexists.mpr (.inr hfinds)
    exact iff_of_true ⟨wcn', ret, hrun, fun h => by cases h⟩ rfl
  | false =>
    -- Only the interface of a station can be found, and the call must return an error.
    have hfinds : s.wcn.mac.findsVif sta_priv skb = (skb.isLow && sta_priv.isSome) := by
      rw [MacConf.findsVif, hknown, Bool.or_false]
    rw [hfinds] at hexists
    rw [Bool.false_or, Bool.or_eq_true, Bool.and_eq_true, Bool.and_eq_true, Bool.not_eq_true']
    constructor
    · rintro ⟨wcn', ret, hrun, herr⟩
      rcases (hlow.error_iff hrun).mp (herr rfl) with hpending | ⟨hw, hfull⟩
      · exact .inl hpending
      · rcases hexists.mp ⟨_, hrun⟩ with hpending | hstation
        · exact .inl hpending
        · exact .inr ⟨⟨hstation, hw⟩, hfull⟩
    · intro hcond
      obtain ⟨⟨wcn', ret⟩, hrun⟩ := hexists.mpr (hcond.imp_right fun h => h.1.1)
      exact ⟨wcn', ret, hrun, fun _ =>
        (hlow.error_iff hrun).mpr (hcond.imp_right fun h => ⟨h.1.2, h.2⟩)⟩

/-- An interface is added. -/
def oneVif : MacConf :=
  (addInterface {} 1 { type := .STATION, addr := [2, 0, 0, 0, 0, 1] } none).1

/-- That set is reachable. -/
theorem oneVif_reachable : vifSystem.Reachable oneVif := by
  have hinit : vifSystem.Reachable {} := .init rfl
  exact System.Reachable.step hinit
    (e := .addInterface 1 { type := .STATION, addr := [2, 0, 0, 0, 0, 1] } none) rfl

/-- A frame of that interface is sent. -/
theorem transmits_iff_authFrame : ∃ s, (txSystem driverParams).Reachable s ∧ s.wcn.mac = oneVif ∧
    Transmits s.wcn none (authFrame 1 30 true) := by
  obtain ⟨s, hstart, hsafe⟩ : ∃ s, txStart driverParams oneVif = some s ∧
      s.wcn.transmitsSafely none (authFrame 1 30 true) = true :=
    (Option.any_eq_true _ _).mp (by decide +kernel)
  have hmac := mac_txStart hstart
  have hs : (txSystem driverParams).Reachable s := .init (txStart_init hstart)
  refine ⟨s, hs, hmac, (transmits_iff hs (hmac ▸ oneVif_reachable) ?_ _).mpr hsafe⟩
  intro sta hsta
  cases hsta

/-- After the interface has been removed, the same frame is the end. -/
theorem transmits_fails_without_interface : ∃ s, (txSystem driverParams).Reachable s ∧
    vifSystem.Reachable s.wcn.mac ∧ startTx s.wcn none (authFrame 1 30 true) = none ∧
    ¬Transmits s.wcn none (authFrame 1 30 true) := by
  obtain ⟨mac, hremove, hsome⟩ : ∃ mac, vifSystem.step oneVif (.removeInterface 1) = some mac ∧
      (txStart driverParams mac).any
        (fun s => (startTx s.wcn none (authFrame 1 30 true)).isNone) = true :=
    (Option.any_eq_true _ _).mp (by decide +kernel)
  obtain ⟨s, hstart, hnone⟩ := (Option.any_eq_true _ _).mp hsome
  rw [Option.isNone_iff_eq_none] at hnone
  have hmac : vifSystem.Reachable s.wcn.mac :=
    mac_txStart hstart ▸ oneVif_reachable.step hremove
  refine ⟨s, .init (txStart_init hstart), hmac, hnone, fun ⟨wcn', ret, hrun, _⟩ => ?_⟩
  rw [hnone] at hrun
  cases hrun

end Wcn36xx
