import Wcn36xx.Mac.FirmwareIds
import Wcn36xx.Txrx.AnyInterface
import Wcn36xx.Txrx.TxDevice

/-!
# For whom the device sends

The device finds the receiver of a frame by `sta_index` and `dpu_desc_idx` of the frame's BD, which are the
firmware's numbers. `dataSystem` puts the callbacks of mac80211, the transmitting driver and the device
together: the BD is built from the private data as the callbacks have left it, and is fetched at any
time later. `txFetched_addressed` says that what the device fetches for a frame has the numbers that
the firmware had answered, for the frame's station or interface, when the frame was accepted.
-/

namespace Wcn36xx

open Support (System)

/-! ## The numbers in a BD -/

/-- The BD of a data frame has the firmware's numbers for the frame's station: as an interface of the
type `type` names it, by the BSS or by the station itself. -/
structure TxBd.NamesSta (bd : TxBd) (fw : FwIds) (type : Nl80211Iftype) (sta : ℕ) : Prop where
  sign : ∀ rsp ∈ fw.sta sta, bd.dpu_sign = rsp.uc_ucast_sig.setWidth 3
  ofBss : type = .STATION → ∀ rsp ∈ fw.bssSta sta,
    bd.sta_index = rsp.bss_sta_index ∧ bd.dpu_desc_idx = rsp.dpu_desc_index
  ofSta : type ≠ .STATION → ∀ rsp ∈ fw.sta sta,
    bd.sta_index = rsp.sta_index ∧ bd.dpu_desc_idx = rsp.dpu_index

/-- A BD has the firmware's numbers for an interface itself. -/
def TxBd.NamesVif (bd : TxBd) (fw : FwIds) (vif : ℕ) : Prop :=
  ∀ rsp ∈ fw.self vif, bd.sta_index = rsp.self_sta_index ∧ bd.dpu_desc_idx = rsp.dpu_index

/-- A frame that has been accepted, and the interfaces and stations and the firmware's answers when it
was. -/
structure TxNote where
  sent : TxSent
  sta_priv : Option ℕ
  cfg : CfgWorld

/-- The BD of a data frame for a station names the station, and any other BD the interface with the
frame's transmitter address. A data frame has the low three bits of the signature, as many as there is room
for; other frames have none. -/
def TxNote.Addressed (n : TxNote) : Prop :=
  match n.sta_priv, n.sent.skb.isLow with
  | some sta, true => ∃ vif priv, (sta, vif) ∈ n.cfg.stations ∧ n.cfg.mac.vif vif = some priv ∧
      n.sent.bd.NamesSta n.cfg.fw priv.type sta
  | none, true => ∃ vif ∈ n.cfg.mac.vif_list, ∃ priv, n.cfg.mac.vif vif = some priv ∧
      priv.addr = n.sent.skb.addr2 ∧ n.sent.bd.NamesVif n.cfg.fw vif ∧
      ∀ rsp ∈ n.cfg.fw.bss vif, n.sent.bd.dpu_sign = rsp.ucast_dpu_signature.setWidth 3
  | _, false => ∃ vif ∈ n.cfg.mac.vif_list, ∃ priv, n.cfg.mac.vif vif = some priv ∧
      priv.addr = n.sent.skb.addr2 ∧ n.sent.bd.NamesVif n.cfg.fw vif ∧ n.sent.bd.dpu_sign = 0

/-- What of a BD depends on its receiver. -/
def TxBd.receiver (bd : TxBd) : Byte × Byte × BitVec 3 := (bd.sta_index, bd.dpu_desc_idx, bd.dpu_sign)

/-- The rest of `wcn36xx_set_tx_data` leaves it. -/
theorem receiver_setTxPdu_dataBits (bd : TxBd) (not_encrypted bcast : Bool) (header_len len : ℕ)
    (tid : BitVec 16) :
    (setTxPdu (bd.dataBits not_encrypted bcast) header_len len tid).receiver = bd.receiver := by
  unfold TxBd.dataBits setTxPdu TxBd.receiver
  split_ifs <;> rfl

/-- BDs with the same receiver name the same station. -/
theorem TxBd.NamesSta.congr {bd bd' : TxBd} {fw : FwIds} {type : Nl80211Iftype} {sta : ℕ}
    (h : bd.NamesSta fw type sta) (heq : bd'.receiver = bd.receiver) : bd'.NamesSta fw type sta := by
  obtain ⟨hindex, hdpu, hsign⟩ : _ ∧ _ ∧ _ := by
    simpa only [TxBd.receiver, Prod.mk.injEq] using heq
  refine ⟨fun rsp hrsp => ?_, fun htype rsp hrsp => ?_, fun htype rsp hrsp => ?_⟩
  · rw [hsign]
    exact h.sign rsp hrsp
  · rw [hindex, hdpu]
    exact h.ofBss htype rsp hrsp
  · rw [hindex, hdpu]
    exact h.ofSta htype rsp hrsp

section Build

variable {w : CfgWorld} (h : CfgInv w) {sta_priv : Option ℕ} {skb : SkBuff}
include h

/-- The interface that `get_vif_by_addr` finds. -/
theorem CfgInv.getVifByAddr {addr : List Byte} {vif : ℕ}
    (hfind : getVifByAddr w.mac addr w.mac.vif_list = some (some vif)) :
    vif ∈ w.mac.vif_list ∧ ∃ priv, w.mac.vif vif = some priv ∧ priv.addr = addr := by
  rw [getVifByAddr_eq fun v hv => (h.type v hv).imp fun _ hp => hp.1, Option.some.injEq] at hfind
  obtain ⟨priv, hpriv, haddr⟩ := (Option.any_eq_true _ _).mp
    (List.find?_some (p := fun v => (w.mac.vif v).any fun priv => priv.addr = addr) hfind)
  exact ⟨List.mem_of_find?_eq_some hfind, priv, hpriv, of_decide_eq_true haddr⟩

/-- A BD that is built from the numbers of an interface. -/
theorem CfgInv.namesVif {vif : ℕ} {priv : WcnVif} (hpriv : w.mac.vif vif = some priv) {bd : TxBd}
    (hsta : bd.sta_index = priv.self_sta_index) (hdpu : bd.dpu_desc_idx = priv.self_dpu_desc_index) :
    bd.NamesVif w.fw vif := by
  intro rsp hrsp
  rw [hsta, hdpu]
  exact (h.vif vif priv hpriv).addStaSelf rsp hrsp

/-- The numbers of a data frame for a station that mac80211 has added to the interface `v`. -/
theorem CfgInv.setTxDataSta_some {bd bd₁ : TxBd} {sta v vif : ℕ} (hmem : (sta, v) ∈ w.stations)
    (hset : setTxDataSta bd w.mac (some sta) skb = some (bd₁, vif)) :
    ∃ priv, w.mac.vif v = some priv ∧ bd₁.NamesSta w.fw priv.type sta := by
  unfold setTxDataSta at hset
  obtain ⟨s, hs, hset⟩ := Option.bind_eq_some_iff.mp hset
  obtain ⟨v', hv', hset⟩ := Option.bind_eq_some_iff.mp hset
  obtain ⟨priv, hpriv, hset⟩ := Option.bind_eq_some_iff.mp hset
  -- The interface that the driver has noted for the station is the one that it has been added to.
  obtain ⟨hlist, s', hs', hv⟩ := h.stations _ hmem
  obtain rfl : s' = s := Option.some.inj (hs'.symm.trans hs)
  obtain rfl : v = v' := Option.some.inj (hv.symm.trans hv')
  obtain ⟨priv', hpriv', hother⟩ := h.type v hlist
  obtain rfl : priv' = priv := Option.some.inj (hpriv'.symm.trans hpriv)
  have hm := h.sta sta s' hs
  refine ⟨priv', hpriv, fun rsp hrsp => ?_, fun htype rsp hrsp => ?_, fun htype rsp hrsp => ?_⟩
  · have hsign : bd₁.dpu_sign = s'.ucast_dpu_sign.setWidth 3 := by
      cases htype : priv'.type <;> rw [htype] at hset <;> cases hset <;> rfl
    rw [hsign, (hm.configSta rsp hrsp).2.2]
  · rw [htype] at hset
    cases hset
    exact hm.configBss rsp hrsp
  · obtain ⟨hsta, hdesc, -⟩ := hm.configSta rsp hrsp
    rw [← hsta, ← hdesc]
    cases hcase : priv'.type with
    | STATION => exact absurd hcase htype
    | AP | ADHOC | MESH_POINT =>
      rw [hcase] at hset
      cases hset
      exact ⟨rfl, rfl⟩
    | other => exact absurd hcase hother

/-- The numbers of a data frame without a station. -/
theorem CfgInv.setTxDataSta_none {bd bd₁ : TxBd} {vif : ℕ}
    (hset : setTxDataSta bd w.mac none skb = some (bd₁, vif)) :
    ∃ priv, vif ∈ w.mac.vif_list ∧ w.mac.vif vif = some priv ∧ priv.addr = skb.addr2 ∧
      bd₁.receiver = (priv.self_sta_index, priv.self_dpu_desc_index,
        priv.self_ucast_dpu_sign.setWidth 3) := by
  unfold setTxDataSta at hset
  obtain ⟨found, hfind, hset⟩ := Option.bind_eq_some_iff.mp hset
  obtain ⟨v, hv, hset⟩ := Option.bind_eq_some_iff.mp hset
  obtain ⟨priv, hpriv, hset⟩ := Option.bind_eq_some_iff.mp hset
  rw [hv] at hfind
  obtain ⟨hlist, priv', hpriv', haddr⟩ := h.getVifByAddr hfind
  obtain rfl : priv' = priv := Option.some.inj (hpriv'.symm.trans hpriv)
  cases hset
  exact ⟨priv', hlist, hpriv, haddr, rfl⟩

/-- The numbers of a management frame. -/
theorem CfgInv.setTxMgmt_names {bd bd' : TxBd} {bcast : Bool} {vif : ℕ} {mac' : MacConf}
    {es : List Effect} (hset : setTxMgmt bd w.mac skb bcast = some (bd', vif, mac', es)) :
    ∃ vif ∈ w.mac.vif_list, ∃ priv, w.mac.vif vif = some priv ∧ priv.addr = skb.addr2 ∧
      bd'.NamesVif w.fw vif ∧ bd'.dpu_sign = bd.dpu_sign := by
  obtain ⟨found, hfind, hset⟩ := Option.bind_eq_some_iff.mp hset
  obtain ⟨v, hv, hset⟩ := Option.bind_eq_some_iff.mp hset
  obtain ⟨priv, hpriv, hset⟩ := Option.bind_eq_some_iff.mp hset
  rw [hv] at hfind
  cases hset
  obtain ⟨hlist, priv', hpriv', haddr⟩ := h.getVifByAddr hfind
  obtain rfl : priv' = priv := Option.some.inj (hpriv'.symm.trans hpriv)
  refine ⟨vif, hlist, priv', hpriv, haddr, h.namesVif hpriv ?_ ?_, ?_⟩
  · split_ifs <;> rfl
  · split_ifs <;> rfl
  · split_ifs <;> rfl

/-- The BD that is built for a frame, of which mac80211 has added the station. -/
theorem CfgInv.addressed (hsta : ∀ sta ∈ sta_priv, ∃ vif, (sta, vif) ∈ w.stations) {bd : TxBd}
    {vif : ℕ} {mac' : MacConf} {es : List Effect}
    (hbuilt : startTxBd w.mac sta_priv skb = some (bd, vif, mac', es)) :
    TxNote.Addressed ⟨⟨bd, skb⟩, sta_priv, w⟩ := by
  unfold startTxBd at hbuilt
  split_ifs at hbuilt with hlow
  · obtain ⟨-, bd₁, hset, rfl⟩ := setTxData_eq hbuilt
    have hreceiver := receiver_setTxPdu_dataBits bd₁ (ieee80211IsNullfunc skb.frameControl ||
      (sta_priv.bind w.mac.sta).any fun sta => !sta.is_data_encrypted) skb.isBcast
      (mpduHeaderLen skb.frameControl) skb.len ((sta_priv.bind w.mac.sta).elim 0 WcnSta.tid)
    unfold TxNote.Addressed
    rw [hlow]
    cases sta_priv with
    | some sta =>
      obtain ⟨v, hmem⟩ := hsta sta rfl
      obtain ⟨priv, hpriv, hnames⟩ := h.setTxDataSta_some hmem hset
      exact ⟨v, priv, hmem, hpriv, hnames.congr hreceiver⟩
    | none =>
      obtain ⟨priv, hlist, hpriv, haddr, heq⟩ := h.setTxDataSta_none hset
      obtain ⟨hindex, hdpu, hsign⟩ : _ ∧ _ ∧ _ := by
        simpa only [TxBd.receiver, Prod.mk.injEq] using hreceiver.trans heq
      refine ⟨vif, hlist, priv, hpriv, haddr, h.namesVif hpriv hindex hdpu, fun rsp hrsp => ?_⟩
      rw [hsign, (h.vif vif priv hpriv).configBss rsp hrsp]
  · have hnames := h.setTxMgmt_names hbuilt
    unfold TxNote.Addressed
    rw [Bool.eq_false_of_not_eq_true hlow]
    cases sta_priv with
    | none => exact hnames
    | some sta => exact hnames

end Build

/-! ## The system -/

/-- The callbacks of mac80211 with the transmitting driver and the device. -/
structure DataWorld where
  bus : TxBusWorld
  cfg : CfgWorld := {}
  /-- The frames that have been accepted on each channel. -/
  notes : Bool → List TxNote := fun _ => []

/-- The steps: a callback, or a step of the transmitting driver or of the device. -/
inductive DataEvent where
  | cfg (e : CfgEvent)
  | bus (e : TxEvent)

/-- mac80211 transmits to stations that it has added. -/
def CfgWorld.allows (w : CfgWorld) : TxEvent → Bool
  | .tx (some sta) _ => w.stations.any fun p => p.1 == sta
  -- the callbacks are what changes the configuration
  | .config _ => false
  | _ => true

/-- The frames that a step has accepted on a channel. -/
def newNotes (w : DataWorld) (sent : Bool → List TxSent) (e : TxEvent) (is_low : Bool) : List TxNote :=
  ((sent is_low).drop (w.bus.sent is_low).length).map fun f =>
    { sent := f, cfg := w.cfg
      sta_priv := match e with
        | .tx sta_priv _ => sta_priv
        | _ => none }

/-- The callbacks, the transmitting driver and the device. The driver has one configuration, which the
callbacks change and which `wcn36xx_start_tx` reads, and changes too. -/
def dataSystem (p : TxParams) : System DataWorld DataEvent where
  init w :=
    (txBusSystem p).init w.bus ∧ w.cfg.mac = w.bus.tx.wcn.mac ∧ w.cfg.mac.vif_list = [] ∧
    w.cfg.stations = [] ∧ w.cfg.todo = (fun _ => []) ∧ w.cfg.fw = {} ∧ w.notes = fun _ => []
  step w
    | .cfg e => do
      let cfg ← cfgStep w.cfg e
      let bus ← (txBusSystem p).step w.bus (.config cfg.mac)
      return { w with bus := bus, cfg := cfg }
    | .bus e =>
      if w.cfg.allows e then do
        let bus ← (txBusSystem p).step w.bus e
        return {
          bus := bus
          cfg := { w.cfg with mac := bus.tx.wcn.mac }
          notes := fun is_low => w.notes is_low ++ newNotes w bus.sent e is_low }
      else none

/-- The steps of the driver and of the device are as they should be. -/
def DataFits (p : TxParams) (w : DataWorld) : DataEvent → Prop
  | .cfg _ => True
  | .bus e => BusFits p w.bus e

/-! ## The invariant -/

/-- The configuration is the driver's, and every frame that has been accepted is addressed. -/
structure DataInv (p : TxParams) (w : DataWorld) : Prop where
  bus : (txBusSystem p).ReachableWhen (BusFits p) w.bus
  cfg : CfgInv w.cfg
  mac : w.cfg.mac = w.bus.tx.wcn.mac
  notes : ∀ is_low, (w.notes is_low).map TxNote.sent = w.bus.sent is_low
  addressed : ∀ is_low, ∀ n ∈ w.notes is_low, n.Addressed

/-- A step of the driver or the device leaves the numbers in the configuration. -/
theorem TxStep.sameIds {p : TxParams} {s s' : TxWorld} {q q' : Bool → List SkBuff} {e : TxEvent}
    (hstep : TxStep p s q e s' q') (hne : ∀ mac, e ≠ .config mac) :
    SameIds s.wcn.mac s'.wcn.mac := by
  have hset : ∀ (wcn : Wcn) (is_low : Bool) (ch : DxeCh), (wcn.setTxCh is_low ch).mac = wcn.mac := by
    intro wcn is_low ch
    unfold Wcn.setTxCh
    split_ifs <;> rfl
  cases hstep with
  | refused =>
    dsimp only
    rw [Wcn.emit, Wcn.writeBd, hset]
    exact SameIds.refl _
  | busy _ _ _ hbuilt => exact SameIds.startTxBd hbuilt
  | accepted _ _ _ hbuilt =>
    dsimp only
    rw [Wcn.emit, hset]
    exact SameIds.startTxBd hbuilt
  | dma =>
    dsimp only
    rw [dmaComplete, hset]
    exact SameIds.refl _
  | reap =>
    dsimp only
    rw [reapedWcn, hset]
    exact SameIds.refl _
  | ackInd =>
    dsimp only
    unfold dxeTxAckInd
    cases s.wcn.tx_ack_skb with
    | none => exact SameIds.refl _
    | some skb =>
      dsimp only
      split_ifs <;> exact SameIds.refl _
  | config => exact absurd rfl (hne _)

/-- A step notes at most the frame that it transmits, with the BD that is built for it. -/
theorem noteSent_cases (s s' : TxWorld) (sent : Bool → List TxSent) (e : TxEvent) (is_low : Bool) :
    noteSent s s' sent e is_low = sent is_low ∨
    ∃ sta_priv skb bd vif mac es, e = .tx sta_priv skb ∧
      startTxBd s.wcn.mac sta_priv skb = some (bd, vif, mac, es) ∧
      noteSent s s' sent e is_low = sent is_low ++ [⟨bd, skb⟩] := by
  cases e with
  | tx sta_priv skb =>
    unfold noteSent
    dsimp only
    split_ifs
    · exact .inl rfl
    · cases hbuilt : startTxBd s.wcn.mac sta_priv skb with
      | none => exact .inl rfl
      | some r =>
        obtain ⟨bd, vif, mac, es⟩ := r
        dsimp only
        rcases eq_or_ne is_low skb.isLow with rfl | hne
        · rw [Function.update_self]
          exact .inr ⟨sta_priv, skb, bd, vif, mac, es, rfl, hbuilt, rfl⟩
        · rw [Function.update_of_ne hne]
          exact .inl rfl
  | dma is_low | reap is_low | ackInd status | config mac => exact .inl rfl

namespace DataInv

variable {p : TxParams} {w w' : DataWorld} (h : DataInv p w)
include h

/-- A callback. -/
theorem cfgStep {e : CfgEvent} (hstep : (dataSystem p).step w (.cfg e) = some w') : DataInv p w' := by
  obtain ⟨cfg, hcfg, hstep⟩ := Option.bind_eq_some_iff.mp hstep
  obtain ⟨bus, hbus, hstep⟩ := Option.bind_eq_some_iff.mp hstep
  have hfits : BusFits p w.bus (.config cfg.mac) := ⟨trivial, trivial⟩
  have hreach := System.ReachableWhen.step h.bus hfits hbus
  cases hstep
  cases hbus
  exact
    { bus := hreach
      cfg := cfgStep_inv h.cfg hcfg
      mac := rfl
      notes := h.notes
      addressed := h.addressed }

/-- A step of the driver or of the device. -/
theorem busStep (hp : p.PoolsApart) {e : TxEvent} (hP : BusFits p w.bus e)
    (hstep : (dataSystem p).step w (.bus e) = some w') : DataInv p w' := by
  obtain ⟨hallows, hstep⟩ := Option.ite_none_right_eq_some.mp hstep
  have hne : ∀ mac, e ≠ .config mac := by
    rintro mac rfl
    cases hallows
  obtain ⟨bus, hbus, hstep⟩ := Option.bind_eq_some_iff.mp hstep
  cases hstep
  obtain ⟨T, hT⟩ := txBusInv_of_reachable hp h.bus
  have hreach := System.ReachableWhen.step h.bus hP hbus
  obtain ⟨tx, htx, hbus⟩ := Option.bind_eq_some_iff.mp hbus
  obtain ⟨q', hTx, -⟩ := txStep_cases hT.holdsAll htx
  cases hbus
  have hsame : SameIds w.cfg.mac tx.wcn.mac := by
    rw [h.mac]
    exact hTx.sameIds hne
  have hnew : ∀ is_low, noteSent w.bus.tx tx w.bus.sent e is_low = w.bus.sent is_low ++
      (newNotes w (noteSent w.bus.tx tx w.bus.sent e) e is_low).map TxNote.sent ∧
      ∀ n ∈ newNotes w (noteSent w.bus.tx tx w.bus.sent e) e is_low, n.Addressed := by
    intro is_low
    unfold newNotes
    rcases noteSent_cases w.bus.tx tx w.bus.sent e is_low with hsent |
        ⟨sta_priv, skb, bd, vif, mac, es, rfl, hbuilt, hsent⟩
    · rw [hsent, List.drop_length]
      exact ⟨(List.append_nil _).symm, fun n hn => absurd hn List.not_mem_nil⟩
    · rw [hsent, List.drop_left, List.map_singleton, List.map_singleton]
      refine ⟨rfl, fun n hn => ?_⟩
      rw [List.mem_singleton.mp hn]
      rw [← h.mac] at hbuilt
      refine h.cfg.addressed (fun sta hsta => ?_) hbuilt
      obtain rfl := Option.mem_def.mp hsta
      obtain ⟨q, hq, heq⟩ := List.any_eq_true.mp hallows
      exact ⟨q.2, beq_iff_eq.mp heq ▸ hq⟩
  exact
    { bus := hreach
      cfg := h.cfg.same hsame w.cfg.todo
      mac := rfl
      notes := fun is_low => by
        rw [List.map_append, h.notes is_low]
        exact (hnew is_low).1.symm
      addressed := fun is_low n hn =>
        (List.mem_append.mp hn).elim (h.addressed is_low n) ((hnew is_low).2 n) }

end DataInv

/-- The invariant of every run in which frames are offered and mapped as they should be. -/
theorem dataInv_of_reachable {p : TxParams} (hp : p.PoolsApart) {w : DataWorld}
    (h : (dataSystem p).ReachableWhen (DataFits p) w) : DataInv p w := by
  refine h.invariant (I := DataInv p) ?_ fun w e w' hw hP hstep => ?_
  · rintro w ⟨hbus, hmac, hlist, hstations, -, hfw, hnotes⟩
    refine ⟨.init hbus, ⟨fun v priv _ => ?_, fun sta s _ => ?_, fun v hv => ?_, fun q hq => ?_⟩, hmac,
      fun is_low => ?_, fun is_low n hn => ?_⟩
    · rw [hfw]
      exact ⟨fun r hr => (by cases hr), fun r hr => (by cases hr)⟩
    · rw [hfw]
      exact ⟨fun r hr => (by cases hr), fun r hr => (by cases hr)⟩
    · rw [hlist] at hv
      cases hv
    · rw [hstations] at hq
      cases hq
    · rw [hnotes, hbus.2.1]
      rfl
    · rw [hnotes] at hn
      cases hn
  · cases e with
    | cfg e => exact hw.cfgStep hstep
    | bus e => exact hw.busStep hp hP hstep

/-! ## A run on given callbacks -/

instance (p : TxParams) : ∀ w e, Decidable (DataFits p w e)
  | _, .cfg _ => isTrue trivial
  | w, .bus e => inferInstanceAs (Decidable (BusFits p w.bus e))

/-- The state after a replay from the set-up, if every event could happen. -/
def dataRun (es : List DataEvent) : Option DataWorld :=
  (txStart driverParams {}).bind fun tx =>
    (dataSystem driverParams).runWhen (DataFits driverParams) { bus := { tx := tx } } es

/-- A replay from the set-up ends in a state of a run. -/
theorem dataRun_reachable (es : List DataEvent) {P : DataWorld → Bool}
    (h : (dataRun es).any P = true) :
    ∃ w, (dataSystem driverParams).ReachableWhen (DataFits driverParams) w ∧ P w = true := by
  obtain ⟨w, hrun, hP⟩ := (Option.any_eq_true _ _).mp h
  obtain ⟨tx, htx, hrun⟩ := Option.bind_eq_some_iff.mp hrun
  have hinit : (dataSystem driverParams).init { bus := { tx := tx } } :=
    ⟨⟨txStart_init htx, rfl, rfl⟩, (mac_txStart htx).symm, rfl, rfl, rfl, rfl, rfl⟩
  exact ⟨w, System.ReachableWhen.runWhen (.init hinit) hrun, hP⟩

/-- A data frame of an access point for its station. -/
def dataFrame : SkBuff where
  ptr := 1
  data := [0x08, 2, 0, 0, 2, 0, 0, 0, 0, 9, 2, 0, 0, 0, 0, 1] ++ List.replicate 14 0
  dma := 0x1000
  flags := 0
  queue_mapping := 0

/-- An access point adds a station, transmits to it and removes it, and the device fetches the frame. -/
def apSendsOne : List DataEvent :=
  [.cfg (.addInterface 1 { type := .AP, addr := [2, 0, 0, 0, 0, 1] } (some ⟨3, 4⟩)),
    .cfg (.staAdd 1 7 {} (some ⟨5, 6, 1⟩)), .bus (.tx (some 7) dataFrame), .cfg (.staRemove 1 7),
    .bus (.dma true), .bus (.dma true)]

/-! ## What the device gets -/

/-- The device fetches the frames that `wcn36xx_start_tx` has accepted, in order, and the BD of each names
the frame's station or interface by the numbers that the firmware had answered when the frame was
accepted. -/
theorem txFetched_addressed {p : TxParams} (hp : p.PoolsApart) {w : DataWorld}
    (h : (dataSystem p).ReachableWhen (DataFits p) w) (is_low : Bool) :
    w.bus.fetched is_low <+: (w.notes is_low).flatMap (fun n => n.sent.fetches is_low) ∧
      ∀ n ∈ w.notes is_low, n.Addressed := by
  have hinv := dataInv_of_reachable hp h
  obtain ⟨T, hT⟩ := txBusInv_of_reachable hp hinv.bus
  have hpre := (hT.flight is_low).fetched
  rw [← hinv.notes is_low, List.flatMap_map] at hpre
  exact ⟨hpre, hinv.addressed is_low⟩

/-- The run of an access point: the BD has the station's index. -/
theorem txFetched_addressed_ap : ∃ w,
    (dataSystem driverParams).ReachableWhen (DataFits driverParams) w ∧
      (w.notes true).map (fun n => (n.sta_priv, n.sent.bd.sta_index)) = [(some 7, 5)] ∧
      (w.bus.fetched true).length = 2 ∧
      w.bus.fetched true <+: (w.notes true).flatMap (fun n => n.sent.fetches true) ∧
      ∀ n ∈ w.notes true, n.Addressed := by
  obtain ⟨w, hw, hrun⟩ := dataRun_reachable apSendsOne (P := fun w => decide
    ((w.notes true).map (fun n => (n.sta_priv, n.sent.bd.sta_index)) = [(some 7, 5)] ∧
      (w.bus.fetched true).length = 2)) (by decide +kernel)
  obtain ⟨hindex, hlen⟩ := of_decide_eq_true hrun
  exact ⟨w, hw, hindex, hlen, txFetched_addressed driverParams_poolsApart hw true⟩

end Wcn36xx
