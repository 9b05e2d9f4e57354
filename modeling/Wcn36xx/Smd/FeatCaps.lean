import Wcn36xx.Dxe.Registers
import Wcn36xx.Smd.Response
import Wcn36xx.Support.System
import Wcn36xx.Support.WordSet

/-!
# Feature capabilities

The driver and the firmware tell each other their capabilities by bitmaps, four words with a bit for
each of 128 capabilities, and `wcn36xx_start` tells the chips apart by one of the firmware's. The three
functions on bitmaps do what inserting, removing and looking up does on a set (`getFeatCaps_ops_iff`).
Over any run of starts, `fw_feat_caps` is the set in the last response that had a capability bitmap, and
the chip version, which decides where `wcn36xx_dxe_init` writes, follows it (`chipVersion_follows`): a
response of another size is no error, and leaves what an earlier start has read.
-/

namespace Wcn36xx

open Support (System)
open Support.WordSet (toSet)

/-- `DOT11AC` of `enum place_holder_in_cap_bitmap`. -/
def DOT11AC : ℕ := 2

/-- `get_feat_caps`. -/
def getFeatCaps (bitmap : List (BitVec 32)) (cap : ℕ) : ℤ :=
  -- `error cap idx %d`
  if cap > 127 then -EINVAL
  else if (bitmap[cap / 32]?).any fun w => w &&& 1#32 <<< (cap % 32) != 0 then 1 else 0

/-- `clear_feat_caps`. -/
def clearFeatCaps (bitmap : List (BitVec 32)) (cap : ℕ) : List (BitVec 32) :=
  if cap > 127 then bitmap
  else bitmap.modify (cap / 32) fun w => w &&& ~~~(1#32 <<< (cap % 32))

/-- `wcn36xx_detect_chip_version`. -/
def detectChipVersion (fw_feat_caps : List (BitVec 32)) : ChipVersion :=
  if getFeatCaps fw_feat_caps DOT11AC ≠ 0 then .chip3680 else .chip3660

/-! ## Bitmaps as sets -/

/-- A change of a bitmap. -/
inductive FeatCapOp where
  /-- `set_feat_caps`. -/
  | set (cap : ℕ)
  /-- `clear_feat_caps`. -/
  | clear (cap : ℕ)

/-- The change of the bitmap. -/
def FeatCapOp.run (bitmap : List (BitVec 32)) : FeatCapOp → List (BitVec 32)
  | set cap => setFeatCaps bitmap cap
  | clear cap => clearFeatCaps bitmap cap

/-- The change of the set of capabilities: there are 128. -/
def FeatCapOp.onSet (caps : Set ℕ) : FeatCapOp → Set ℕ
  | set cap => if cap > 127 then caps else insert cap caps
  | clear cap => caps \ {cap}

section Bitmap

variable {bitmap : List (BitVec 32)} (hlen : bitmap.length = 4)
include hlen

/-- A bitmap has the capabilities that there are. -/
theorem le_of_mem_featCaps {cap : ℕ} (h : cap ∈ toSet bitmap) : cap ≤ 127 := by
  obtain ⟨v, hv, -⟩ := h
  have hlt := (List.getElem?_eq_some_iff.mp hv).1
  omega

/-- Looking up. -/
theorem getFeatCaps_iff (cap : ℕ) : getFeatCaps bitmap cap = 1 ↔ cap ∈ toSet bitmap := by
  rw [← Support.WordSet.contains_iff (by decide)]
  unfold getFeatCaps Support.WordSet.contains
  split_ifs with hcap hbit
  · refine iff_of_false (by decide) fun hbit => ?_
    have hle := le_of_mem_featCaps hlen ((Support.WordSet.contains_iff (by decide) _ _).mp hbit)
    omega
  · exact iff_of_true rfl hbit
  · exact iff_of_false (by decide) hbit

/-- A change of the bitmap is the change of the set. -/
theorem FeatCapOp.toSet_run (op : FeatCapOp) :
    (op.run bitmap).length = 4 ∧ toSet (op.run bitmap) = op.onSet (toSet bitmap) := by
  cases op with
  | set cap =>
    unfold run onSet setFeatCaps
    dsimp only
    split_ifs with hcap
    · exact ⟨hlen, rfl⟩
    · have hlt : cap / 32 < bitmap.length := by omega
      exact ⟨(Support.WordSet.length_insert _ _).trans hlen,
        Support.WordSet.toSet_insert (by decide) hlt⟩
  | clear cap =>
    unfold run onSet clearFeatCaps
    dsimp only
    split_ifs with hcap
    · refine ⟨hlen, (Set.sdiff_singleton_eq_self fun hmem => ?_).symm⟩
      have hle := le_of_mem_featCaps hlen hmem
      omega
    · exact ⟨(Support.WordSet.length_erase _ _).trans hlen,
        Support.WordSet.toSet_erase (by decide) bitmap cap⟩

end Bitmap

/-- The bitmap after any changes. -/
theorem toSet_foldl_run (ops : List FeatCapOp) : ∀ {bitmap : List (BitVec 32)}, bitmap.length = 4 →
    (ops.foldl FeatCapOp.run bitmap).length = 4 ∧
      toSet (ops.foldl FeatCapOp.run bitmap) = ops.foldl FeatCapOp.onSet (toSet bitmap) := by
  induction ops with
  | nil => exact fun hlen => ⟨hlen, rfl⟩
  | cons op ops ih =>
    intro bitmap hlen
    obtain ⟨hlen', hset⟩ := op.toSet_run hlen
    rw [List.foldl_cons, List.foldl_cons, ← hset]
    exact ih hlen'

/-- After any changes of a bitmap, `get_feat_caps` finds the capabilities that are in the set after the
same changes of the set. -/
theorem getFeatCaps_ops_iff {bitmap : List (BitVec 32)} (hlen : bitmap.length = 4)
    (ops : List FeatCapOp) (cap : ℕ) : getFeatCaps (ops.foldl FeatCapOp.run bitmap) cap = 1 ↔
      cap ∈ ops.foldl FeatCapOp.onSet (toSet bitmap) := by
  obtain ⟨hlen', hset⟩ := toSet_foldl_run ops hlen
  rw [getFeatCaps_iff hlen', hset]

/-- The driver's own bitmap, and then without the capability again. -/
theorem getFeatCaps_ops_iff_powersave :
    getFeatCaps ([FeatCapOp.set STA_POWERSAVE, .set 200, .clear STA_POWERSAVE].foldl FeatCapOp.run
      (List.replicate 4 0)) STA_POWERSAVE = 1 ↔
      STA_POWERSAVE ∈ [FeatCapOp.set STA_POWERSAVE, .set 200, .clear STA_POWERSAVE].foldl
        FeatCapOp.onSet (toSet (List.replicate 4 0#32)) :=
  getFeatCaps_ops_iff rfl _ _

/-! ## The firmware's bitmap -/

/-- The capabilities that a response to `wcn36xx_smd_feature_caps_exchange` tells: bit `cap % 8` of byte
`cap / 8` behind the header. -/
def rspCaps (rsp : List Byte) : Set ℕ := toSet (rsp.drop HalMsgHeader.size)

/-- The words of a response have its capabilities. -/
theorem toSet_rspWords {rsp : List Byte} (hlen : rsp.length = sizeofFeatCapsMsg) :
    toSet ((List.range 4).map fun k => BitVec.ofNat 32 (field rsp (8 + 4 * k) 4)) = rspCaps rsp := by
  have hsize : sizeofFeatCapsMsg = 24 := rfl
  have hheader : HalMsgHeader.size = 8 := rfl
  ext i
  unfold rspCaps
  rw [Support.WordSet.mem_toSet, Support.WordSet.mem_toSet, hheader, List.getElem?_drop]
  by_cases hi : i / 32 < 4
  · have hbyte : (((rsp.drop (8 + 4 * (i / 32))).take 4)[i % 32 / 8]?) = rsp[8 + i / 8]? := by
      rw [List.getElem?_take_of_lt (by omega), List.getElem?_drop]
      congr 1
      omega
    have hmod : i % 32 < 32 := Nat.mod_lt i (by decide)
    rw [List.getElem?_map, List.getElem?_range hi, Option.map_some]
    simp only [Option.some.injEq, exists_eq_left', BitVec.getLsbD_ofNat, decide_eq_true hmod,
      Bool.true_and]
    rw [field, testBit_readLe, hbyte, Option.any_eq_true, show i % 32 % 8 = i % 8 by omega]
  · have hout : rsp[8 + i / 8]? = none := List.getElem?_eq_none (by omega)
    rw [hout, List.getElem?_eq_none (by rw [List.length_map, List.length_range]; omega)]
    constructor
    · rintro ⟨v, hv, -⟩
      cases hv
    · rintro ⟨v, hv, -⟩
      cases hv

/-! ## Runs of starts -/

/-- What the starts leave: `fw_feat_caps` and the chip version, and the last response that had a bitmap. -/
structure CapsWorld where
  smd : Smd
  fw_feat_caps : List (BitVec 32) := List.replicate 4 0
  /-- There is none before the first start. -/
  chip_version : Option ChipVersion := none
  rsp : Option (List Byte) := none

/-- What `wcn36xx_smd_feature_caps_exchange` writes to `fw_feat_caps`. -/
def RspStored.featCaps (fw_feat_caps : List (BitVec 32)) : RspStored → List (BitVec 32)
  | .featureCaps caps => caps.map (BitVec.ofNat 32)
  | _ => fw_feat_caps

/-- The response that the firmware has given, if it has a bitmap. -/
def TxOutcome.capsRsp (rsp : Option (List Byte)) : TxOutcome → Option (List Byte)
  | .response buf => if buf.length = sizeofFeatCapsMsg then some buf else rsp
  | _ => rsp

/-- The exchange of `wcn36xx_start`; `Exchange feature caps failed` is a warning. -/
def startExchange (outcome : TxOutcome) (w : CapsWorld) : Option CapsWorld := do
  let (smd, result) ← smdCall (fun _ => outcome) (.request .featureCapsExchange) w.smd
  return { w with
    smd := smd
    fw_feat_caps := result.stored.featCaps w.fw_feat_caps
    rsp := outcome.capsRsp w.rsp }

/-- The part of `wcn36xx_start` about capabilities; `old_fw` is `wcn36xx_is_fw_version(wcn, 1, 2, 2, 24)`. -/
def startFeatCaps (old_fw : Bool) (outcome : TxOutcome) (w : CapsWorld) : Option CapsWorld :=
  (if old_fw then some w else startExchange outcome w).map fun w =>
    { w with chip_version := some (detectChipVersion w.fw_feat_caps) }

/-- The steps: a start, and the other requests. -/
inductive CapsEvent where
  | start (old_fw : Bool) (outcome : TxOutcome)
  | other (smd : Smd)

/-- The starts as a transition system. -/
def capsSystem : System CapsWorld CapsEvent where
  init w := w.fw_feat_caps = List.replicate 4 0 ∧ w.chip_version = none ∧ w.rsp = none
  step w
    | .start old_fw outcome => startFeatCaps old_fw outcome w
    | .other smd => some { w with smd := smd }

/-- What the firmware has told. -/
def CapsWorld.told (w : CapsWorld) : Set ℕ := w.rsp.elim ∅ rspCaps

/-- `fw_feat_caps` is what the firmware has told, and the chip version follows it. -/
structure CapsInv (w : CapsWorld) : Prop where
  length : w.fw_feat_caps.length = 4
  caps : toSet w.fw_feat_caps = w.told
  chip : ∀ v ∈ w.chip_version, v = detectChipVersion w.fw_feat_caps

/-- What the response leaves in `fw_feat_caps` when it is of the size of the message: its bitmap. -/
theorem featCaps_rsp_of_length {bytes rsp : List Byte} {len : ℕ} (hlen : len = sizeofFeatCapsMsg)
    (hsame : bytes.take sizeofFeatCapsMsg = rsp.take sizeofFeatCapsMsg) (caps : List (BitVec 32)) :
    (SmdFn.featureCapsExchange.rsp bytes len).stored.featCaps caps =
      (List.range 4).map fun k => BitVec.ofNat 32 (field rsp (8 + 4 * k) 4) := by
  have hsize : sizeofFeatCapsMsg = 24 := rfl
  have hfield : ∀ k, k < 4 → field bytes (8 + 4 * k) 4 = field rsp (8 + 4 * k) 4 :=
    fun k hk => field_of_take_eq hsame (by omega)
  unfold SmdFn.featureCapsExchange
  dsimp only
  rw [if_neg (not_not.mpr hlen), hfield 0 (by decide), hfield 1 (by decide), hfield 2 (by decide),
    hfield 3 (by decide)]
  rfl

/-- And otherwise: what was there. -/
theorem featCaps_rsp_of_ne {bytes : List Byte} {len : ℕ} (hlen : len ≠ sizeofFeatCapsMsg)
    (caps : List (BitVec 32)) :
    (SmdFn.featureCapsExchange.rsp bytes len).stored.featCaps caps = caps := by
  unfold SmdFn.featureCapsExchange
  dsimp only
  rw [if_pos hlen]
  rfl

/-- The request leaves `fw_feat_caps` as it is unless the response has a bitmap. -/
theorem featCaps_of_call {outcome : TxOutcome} {smd smd' : Smd} {result : RspResult}
    (h : smdCall (fun _ => outcome) (.request .featureCapsExchange) smd = some (smd', result)) :
    (∃ rsp, outcome = .response rsp ∧ rsp.length = sizeofFeatCapsMsg ∧
      ∀ caps, result.stored.featCaps caps =
        (List.range 4).map fun k => BitVec.ofNat 32 (field rsp (8 + 4 * k) 4)) ∨
    ((∀ rsp, outcome = .response rsp → rsp.length ≠ sizeofFeatCapsMsg) ∧
      ∀ caps, result.stored.featCaps caps = caps) := by
  unfold smdCall at h
  obtain ⟨composed, hcompose, hsent⟩ := Option.bind_eq_some_iff.mp h
  clear h
  cases composed with
  | refused ret =>
    change fixedMsg .FEATURE_CAPS_EXCHANGE _ smd.hal_buf = _ at hcompose
    unfold fixedMsg at hcompose
    obtain ⟨_, -, hcompose⟩ := Option.bind_eq_some_iff.mp hcompose
    cases hcompose
  | ready hal_buf len =>
    obtain ⟨⟨smd₁, ret⟩, hwait, hrun⟩ := Option.bind_eq_some_iff.mp hsent
    clear hsent
    dsimp only at hrun
    cases outcome with
    | txError ret' ne =>
      obtain ⟨msg, -, hend⟩ := Option.bind_eq_some_iff.mp hwait
      cases hend
      rw [if_pos ne] at hrun
      cases hrun
      exact .inr ⟨fun rsp hrsp => (by cases hrsp), fun caps => rfl⟩
    | timeout =>
      obtain ⟨msg, -, hend⟩ := Option.bind_eq_some_iff.mp hwait
      cases hend
      rw [if_pos (by decide)] at hrun
      cases hrun
      exact .inr ⟨fun rsp hrsp => (by cases hrsp), fun caps => rfl⟩
    | response rsp =>
      have hret : ret = 0 := by
        obtain ⟨msg, -, hwait⟩ := Option.bind_eq_some_iff.mp hwait
        obtain ⟨hal_buf', -, hwait⟩ := Option.bind_eq_some_iff.mp hwait
        cases hwait
        rfl
      subst hret
      obtain ⟨msg, rsp', -, hrsp, hrsplen, htake⟩ := smdSendAndWait_zero hwait
      obtain rfl : rsp = rsp' := TxOutcome.response.inj hrsp
      rw [if_neg (not_not.mpr rfl)] at hrun
      cases hrun
      by_cases hlen : rsp.length = sizeofFeatCapsMsg
      · have hsame : smd'.hal_buf.bytes.take sizeofFeatCapsMsg = rsp.take sizeofFeatCapsMsg := by
          rw [← hlen, htake, List.take_length]
        exact .inl ⟨rsp, rfl, hlen, fun caps =>
          featCaps_rsp_of_length (hrsplen.trans hlen) hsame caps⟩
      · refine .inr ⟨fun rsp' hrsp => ?_, fun caps => ?_⟩
        · cases hrsp
          exact hlen
        · exact featCaps_rsp_of_ne (by rw [hrsplen]; exact hlen) caps

/-- A start keeps the invariant. -/
theorem CapsInv.start {w w' : CapsWorld} (h : CapsInv w) {old_fw : Bool} {outcome : TxOutcome}
    (hstart : startFeatCaps old_fw outcome w = some w') : CapsInv w' := by
  obtain ⟨w₁, hw₁, rfl⟩ := Option.map_eq_some_iff.mp hstart
  have hinv : w₁.fw_feat_caps.length = 4 ∧ toSet w₁.fw_feat_caps = w₁.told := by
    cases old_fw with
    | true =>
      cases hw₁
      exact ⟨h.length, h.caps⟩
    | false =>
      rw [if_neg (by decide)] at hw₁
      obtain ⟨⟨smd, result⟩, hcall, hw₁⟩ := Option.bind_eq_some_iff.mp hw₁
      cases hw₁
      unfold CapsWorld.told
      rcases featCaps_of_call hcall with ⟨rsp, rfl, hlen, hcaps⟩ | ⟨hnone, hcaps⟩
      · dsimp only
        rw [hcaps, TxOutcome.capsRsp, if_pos hlen]
        exact ⟨by rw [List.length_map, List.length_range], toSet_rspWords hlen⟩
      · have hrsp : outcome.capsRsp w.rsp = w.rsp := by
          cases outcome with
          | response rsp => exact if_neg (hnone rsp rfl)
          | txError | timeout => rfl
        dsimp only
        rw [hcaps, hrsp]
        exact ⟨h.length, h.caps⟩
  exact ⟨hinv.1, hinv.2, fun v hv => (Option.mem_some_iff.mp hv).symm⟩

/-- Over any run of starts, the capabilities that `get_feat_caps` finds in `fw_feat_caps` are those of the
last response that had a bitmap, and the chip version says whether `DOT11AC` is one of them. -/
theorem chipVersion_follows {w : CapsWorld} (h : capsSystem.Reachable w) :
    (∀ cap, getFeatCaps w.fw_feat_caps cap = 1 ↔ cap ∈ w.told) ∧
      ∀ v ∈ w.chip_version, v = .chip3680 ↔ DOT11AC ∈ w.told := by
  have hinv : CapsInv w := by
    refine h.invariant (I := CapsInv) ?_ ?_
    · rintro w ⟨hcaps, hchip, hrsp⟩
      refine ⟨by rw [hcaps]; rfl, ?_, fun v hv => ?_⟩
      · rw [hcaps, CapsWorld.told, hrsp]
        ext i
        refine iff_of_false ?_ (Set.notMem_empty i)
        rintro ⟨v, hv, hbit⟩
        obtain rfl : v = 0#32 := List.eq_of_mem_replicate (List.mem_of_getElem? hv)
        rw [BitVec.getLsbD_zero] at hbit
        cases hbit
      · rw [hchip] at hv
        cases hv
    · intro w e w' hw hstep
      cases e with
      | start old_fw outcome => exact hw.start hstep
      | other smd =>
        cases hstep
        exact ⟨hw.length, hw.caps, hw.chip⟩
  have hcaps : ∀ cap, getFeatCaps w.fw_feat_caps cap = 1 ↔ cap ∈ w.told := fun cap => by
    rw [getFeatCaps_iff hinv.length, hinv.caps]
  refine ⟨hcaps, fun v hv => ?_⟩
  rw [hinv.chip v hv, ← hcaps]
  unfold detectChipVersion
  have hbool : getFeatCaps w.fw_feat_caps DOT11AC = 0 ∨ getFeatCaps w.fw_feat_caps DOT11AC = 1 := by
    unfold getFeatCaps
    rw [if_neg (show ¬DOT11AC > 127 by decide)]
    split_ifs
    · exact .inr rfl
    · exact .inl rfl
  rcases hbool with hzero | hone
  · rw [hzero]
    exact iff_of_false (by decide) (by decide)
  · rw [hone]
    exact iff_of_true rfl rfl

/-- A module that has just been probed. -/
def capsStart : CapsWorld where
  smd := { hal_buf := ⟨List.replicate WCN36XX_HAL_BUF_SIZE 0, HalBuf.length_zero⟩ }

/-- A response of a firmware that has 802.11ac only. -/
def dot11acRsp : List Byte :=
  List.replicate HalMsgHeader.size 0 ++ (1#8 <<< DOT11AC) :: List.replicate 15 0

/-- A response that has no bitmap. -/
def shortRsp : List Byte := List.replicate (HalMsgHeader.size + 4) 0

/-- A first start with a firmware that has 802.11ac, and one that gets a response of another size. -/
theorem chipVersion_follows_two_starts : ∃ w, capsSystem.Reachable w ∧
    w.chip_version = some .chip3680 ∧
      (∀ cap, getFeatCaps w.fw_feat_caps cap = 1 ↔ cap ∈ w.told) ∧
      ∀ v ∈ w.chip_version, v = .chip3680 ↔ DOT11AC ∈ w.told := by
  obtain ⟨w, hrun, hchip⟩ : ∃ w, capsSystem.runFrom capsStart
      [.start false (.response dot11acRsp), .start false (.response shortRsp)] = some w ∧
        decide (w.chip_version = some .chip3680) = true :=
    (Option.any_eq_true _ _).mp (by decide +kernel)
  have hreach : capsSystem.Reachable w := System.Reachable.runFrom (.init ⟨rfl, rfl, rfl⟩) hrun
  exact ⟨w, hreach, of_decide_eq_true hchip, chipVersion_follows hreach⟩

end Wcn36xx
