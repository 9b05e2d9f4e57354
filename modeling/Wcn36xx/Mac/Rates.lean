import Wcn36xx.Smd.ConfigMsg
import Wcn36xx.Support.InitialRun

/-!
# The rates of a station

`wcn36xx_update_allowed_rates` turns the bitmap of a station's rates into the tables that are told to the
firmware. Two loops take one bit after the other from the bitmap, and shift it only past the bits that
are set: a bit that is clear stays in front for the rest of the loops (`allowedRatesLoop_spec`). The tables are
those of the bitmap exactly when it has no gap (`ratesDecoded_iff`).
-/

namespace Wcn36xx

open Support

/-- `hw_value` of `wcn_2ghz_rates`. -/
def wcn_2ghz_rates : List (BitVec 16) :=
  [0x82, 0x84, 0x8b, 0x96, 0x0c, 0x12, 0x18, 0x24, 0x30, 0x48, 0x60, 0x6c]

/-- `hw_value` of `wcn_5ghz_rates`. -/
def wcn_5ghz_rates : List (BitVec 16) := [0x0c, 0x12, 0x18, 0x24, 0x30, 0x48, 0x60, 0x6c]

/-! ## `wcn36xx_update_allowed_rates` -/

/-- `memset` of the structure. -/
def HalSupportedRates.memset (_ : HalSupportedRates) : HalSupportedRates := {}

/-- An iteration of either loop: `rates_table` and `rates`. -/
def rateStep {n : ℕ} (wcn_rates : List (BitVec 16)) (s : Vector (BitVec 16) n × BitVec 32)
    (i : ℕ) : Vector (BitVec 16) n × BitVec 32 :=
  if s.2 &&& 0x01 ≠ 0 then (s.1.setIfInBounds i (wcn_rates.getD i 0), s.2 >>> 1) else s

/-- Either loop. -/
def allowedRatesLoop {n : ℕ} (wcn_rates : List (BitVec 16)) (size : ℕ)
    (rates_table : Vector (BitVec 16) n) (rates : BitVec 32) : Vector (BitVec 16) n × BitVec 32 :=
  (List.range size).foldl (rateStep wcn_rates) (rates_table, rates)

/-- `wcn36xx_update_allowed_rates`; `rx_mask` is `ht_cap.mcs.rx_mask`. -/
def updateAllowedRates (supp_rates : Band → BitVec 32) (ht_supported : Bool)
    (rx_mask : Vector Byte 10) (band : Band) (supported_rates : HalSupportedRates) :
    HalSupportedRates :=
  let rates := supp_rates band
  let supported_rates := { supported_rates.memset with op_rate_mode := STA_11n }
  let (dsss_rates, rates) :=
    if band = .GHZ2 then allowedRatesLoop wcn_2ghz_rates 4 supported_rates.dsss_rates rates
    else (supported_rates.dsss_rates, rates)
  let (ofdm_rates, _) := allowedRatesLoop wcn_5ghz_rates 8 supported_rates.ofdm_rates rates
  let supported_rates := { supported_rates with dsss_rates := dsss_rates, ofdm_rates := ofdm_rates }
  if ht_supported then
    { supported_rates with
      supported_mcs_set := .ofFn fun i => rx_mask.toList.getD i supported_rates.supported_mcs_set[i] }
  else supported_rates

/-! ## What the loops do -/

/-- The bits that a loop gets past in a bitmap. -/
def ratesRun (size : ℕ) (rates : BitVec 32) : ℕ := initialRun size rates.getLsbD

/-- The bit in front of the bitmap. -/
theorem and_one_ne_zero_iff (rates : BitVec 32) : rates &&& 0x01 ≠ 0 ↔ rates.getLsbD 0 := by
  have hmod : (rates &&& 0x01).toNat = rates.toNat % 2 := by
    rw [BitVec.toNat_and]
    exact Nat.and_one_is_mod _
  have hbit : rates.getLsbD 0 ↔ rates.toNat % 2 = 1 := by
    rw [BitVec.getLsbD, Nat.testBit_zero, decide_eq_true_eq]
  have hzero : (0 : BitVec 32).toNat = 0 := rfl
  rw [hbit, ne_eq, BitVec.toNat_eq, hmod, hzero]
  omega

/-- A loop fills the table for the bits before the first that is clear, and the bitmap is shifted past them.
The induction is on the number of iterations. -/
theorem allowedRatesLoop_spec {n : ℕ} (wcn_rates : List (BitVec 16)) (rates : BitVec 32)
    (size : ℕ) :
    (allowedRatesLoop wcn_rates size (.replicate n 0) rates).2 = rates >>> ratesRun size rates ∧
      ∀ i (h : i < n), (allowedRatesLoop wcn_rates size (.replicate n 0) rates).1[i] =
        if i < ratesRun size rates then wcn_rates.getD i 0 else 0 := by
  induction size with
  | zero =>
    refine ⟨(BitVec.ushiftRight_zero rates).symm, fun i h => ?_⟩
    exact (Vector.getElem_replicate h).trans (if_neg (Nat.not_lt_zero i)).symm
  | succ size ih =>
    obtain ⟨hrates, htable⟩ := ih
    have hstep : allowedRatesLoop wcn_rates (size + 1) (.replicate n 0) rates =
        rateStep wcn_rates (allowedRatesLoop wcn_rates size (.replicate n 0) rates) size := by
      rw [allowedRatesLoop, List.range_succ, List.foldl_append]
      rfl
    have hrun : ratesRun (size + 1) rates = if rates.getLsbD (ratesRun size rates) then
        ratesRun size rates + 1 else ratesRun size rates := initialRun_succ size rates.getLsbD
    have hle : ratesRun size rates ≤ size := initialRun_le size _
    have hstuck : ratesRun size rates < size → rates.getLsbD (ratesRun size rates) = false :=
      fun hlt => not_initialRun size hlt
    obtain ⟨k, hk⟩ : ∃ k, ratesRun size rates = k := ⟨_, rfl⟩
    rw [hk] at hrates htable hrun hle hstuck
    have hbit : (rates >>> k).getLsbD 0 = rates.getLsbD k := by
      rw [BitVec.getLsbD_ushiftRight, Nat.add_zero]
    rw [hstep, rateStep, hrates, hrun]
    simp only [and_one_ne_zero_iff, hbit]
    split_ifs with hset
    · -- The loop is not stuck: the bit that it takes is that of its index.
      have hfull : k = size := by
        rcases Nat.lt_or_ge k size with hlt | hge
        · rw [hstuck hlt] at hset
          cases hset
        · exact Nat.le_antisymm hle hge
      refine ⟨(BitVec.shiftRight_add rates k 1).symm, fun i h => ?_⟩
      rw [Vector.getElem_setIfInBounds h]
      split_ifs with heq hlt hlt
      · rw [heq]
      · omega
      · rw [htable i h, if_pos (by omega)]
      · rw [htable i h, if_neg (by omega)]
    · exact ⟨hrates, htable⟩

/-! ## The rates that the firmware is told -/

/-- The tables have the hardware values of the rates of the bitmap, and 0 for the others. In the 2.4 GHz
band the first four bits are for the DSSS rates. -/
structure RatesDecoded (band : Band) (rates : BitVec 32) (supported_rates : HalSupportedRates) :
    Prop where
  dsss : ∀ i (h : i < 4), supported_rates.dsss_rates[i] =
    if band = .GHZ2 ∧ rates.getLsbD i then wcn_2ghz_rates.getD i 0 else 0
  ofdm : ∀ i (h : i < 8), supported_rates.ofdm_rates[i] =
    if rates.getLsbD (if band = .GHZ2 then 4 + i else i) then wcn_5ghz_rates.getD i 0 else 0

/-- An entry says whether there is the rate. -/
theorem rateEntry_iff {value : BitVec 16} (hvalue : value ≠ 0) (p q : Prop) [Decidable p]
    [Decidable q] : (if p then value else 0) = (if q then value else 0) ↔ (p ↔ q) := by
  have hne : ¬0 = value := Ne.symm hvalue
  by_cases hp : p
  · by_cases hq : q
    · simp only [hp, hq]
    · simp only [hp, hq, if_true, if_false, hvalue, iff_false, not_true_eq_false]
  · by_cases hq : q
    · simp only [hp, hq, if_true, if_false, hne, iff_true]
    · simp only [hp, hq]

/-- The loop over the OFDM rates takes the bitmap from where the other has left it. -/
theorem ratesRun_shift (rates : BitVec 32) (k size : ℕ) :
    ratesRun size (rates >>> k) = initialRun size fun i => rates.getLsbD (k + i) := by
  unfold ratesRun
  congr 1
  funext i
  exact BitVec.getLsbD_ushiftRight rates k i

/-- The tables after a call are those of the two loops, whatever was there before. -/
theorem updateAllowedRates_tables (supp_rates : Band → BitVec 32) (ht_supported : Bool)
    (rx_mask : Vector Byte 10) (band : Band) (supported_rates : HalSupportedRates) :
    let tables := updateAllowedRates supp_rates ht_supported rx_mask band supported_rates
    let dsss := allowedRatesLoop (n := 4) wcn_2ghz_rates 4 (.replicate 4 0) (supp_rates band)
    tables.dsss_rates = (if band = .GHZ2 then dsss.1 else .replicate 4 0) ∧
      tables.ofdm_rates = (allowedRatesLoop wcn_5ghz_rates 8 (.replicate 8 0)
        (if band = .GHZ2 then dsss.2 else supp_rates band)).1 := by
  cases band <;> cases ht_supported <;> exact ⟨rfl, rfl⟩

/-- In the 5 GHz band the bitmap is that of the OFDM rates. -/
theorem ratesDecoded_iff_5ghz (rates : BitVec 32) {supported_rates : HalSupportedRates}
    (hdsss : supported_rates.dsss_rates = .replicate 4 0)
    (hofdm : supported_rates.ofdm_rates =
      (allowedRatesLoop wcn_5ghz_rates 8 (.replicate 8 0) rates).1) :
    RatesDecoded .GHZ5 rates supported_rates ↔ NoGap 8 rates.getLsbD := by
  have hvalues : ∀ i < 8, wcn_5ghz_rates.getD i 0 ≠ 0 := by decide
  have hband : ¬Band.GHZ5 = Band.GHZ2 := by decide
  have htable := (allowedRatesLoop_spec (n := 8) wcn_5ghz_rates rates 8).2
  rw [← hofdm] at htable
  rw [← initialRun_covers_iff]
  constructor
  · intro h i hi
    have hentry := h.ofdm i hi
    rw [htable i hi, if_neg hband, rateEntry_iff (hvalues i hi)] at hentry
    exact hentry
  · intro h
    refine ⟨fun i hi => ?_, fun i hi => ?_⟩
    · rw [hdsss, if_neg (by simp)]
      exact Vector.getElem_replicate hi
    · rw [htable i hi, if_neg hband, rateEntry_iff (hvalues i hi)]
      exact h i hi

/-- In the 2.4 GHz band the second loop goes on where the first has come to, or is stuck with it. -/
theorem ratesDecoded_iff_2ghz (rates : BitVec 32) {supported_rates : HalSupportedRates}
    (hdsss : supported_rates.dsss_rates =
      (allowedRatesLoop wcn_2ghz_rates 4 (.replicate 4 0) rates).1)
    (hofdm : supported_rates.ofdm_rates = (allowedRatesLoop wcn_5ghz_rates 8 (.replicate 8 0)
      (rates >>> ratesRun 4 rates)).1) :
    RatesDecoded .GHZ2 rates supported_rates ↔ NoGap (4 + 8) rates.getLsbD := by
  have hvalues₂ : ∀ i < 4, wcn_2ghz_rates.getD i 0 ≠ 0 := by decide
  have hvalues₅ : ∀ i < 8, wcn_5ghz_rates.getD i 0 ≠ 0 := by decide
  have hfirst := (allowedRatesLoop_spec (n := 4) wcn_2ghz_rates rates 4).2
  have hsecond := (allowedRatesLoop_spec (n := 8) wcn_5ghz_rates
    (rates >>> ratesRun 4 rates) 8).2
  rw [← hdsss] at hfirst
  rw [← hofdm, ratesRun_shift] at hsecond
  -- The first table, and the second by what the first loop has left.
  have hentries : RatesDecoded .GHZ2 rates supported_rates ↔
      (∀ i < 4, (i < ratesRun 4 rates ↔ rates.getLsbD i)) ∧
        ∀ i < 8, (i < initialRun 8 (fun i => rates.getLsbD (ratesRun 4 rates + i)) ↔
          rates.getLsbD (4 + i)) := by
    constructor
    · intro h
      refine ⟨fun i hi => ?_, fun i hi => ?_⟩
      · have hentry := h.dsss i hi
        rw [hfirst i hi, rateEntry_iff (hvalues₂ i hi)] at hentry
        rw [hentry]
        exact and_iff_right rfl
      · have hentry := h.ofdm i hi
        rw [hsecond i hi, if_pos rfl, rateEntry_iff (hvalues₅ i hi)] at hentry
        exact hentry
    · rintro ⟨h₁, h₂⟩
      refine ⟨fun i hi => ?_, fun i hi => ?_⟩
      · rw [hfirst i hi, rateEntry_iff (hvalues₂ i hi), h₁ i hi]
        exact (and_iff_right rfl).symm
      · rw [hsecond i hi, if_pos rfl, rateEntry_iff (hvalues₅ i hi)]
        exact h₂ i hi
  rw [hentries, noGap_add_iff]
  refine and_congr (initialRun_covers_iff 4 rates.getLsbD) ?_
  rcases Nat.lt_or_ge (ratesRun 4 rates) 4 with hstuck | hfull
  · -- The second loop has a clear bit in front: it tells no rate.
    have hclear : rates.getLsbD (ratesRun 4 rates) = false := not_initialRun 4 hstuck
    have hzero : initialRun 8 (fun i => rates.getLsbD (ratesRun 4 rates + i)) = 0 := by
      refine initialRun_eq (Nat.zero_le 8) (fun i hi => absurd hi (Nat.not_lt_zero i)) fun _ => ?_
      rw [Nat.add_zero, hclear]
    rw [hzero]
    constructor
    · intro h
      have hnone : ∀ i < 8, rates.getLsbD (4 + i) = false := fun i hi =>
        Bool.eq_false_iff.mpr fun hset => Nat.not_lt_zero i ((h i hi).mpr hset)
      refine ⟨fun i j hij hj hset => ?_, fun _ => hnone⟩
      have hclear := hnone j hj
      dsimp only at hset
      rw [hclear] at hset
      cases hset
    · rintro ⟨-, hnone⟩ i hi
      rw [hnone hstuck i hi]
      simp
  · have hrun : ratesRun 4 rates = 4 := Nat.le_antisymm (initialRun_le 4 _) hfull
    rw [hrun, initialRun_covers_iff]
    exact ⟨fun h => ⟨h, fun hlt => absurd hlt (by unfold ratesRun at hrun; omega)⟩, And.left⟩

/-- The tables are those of the bitmap if and only if it has no gap, in as many bits as there are rates in
the band. -/
theorem ratesDecoded_iff (supp_rates : Band → BitVec 32) (ht_supported : Bool)
    (rx_mask : Vector Byte 10) (band : Band) (supported_rates : HalSupportedRates) :
    RatesDecoded band (supp_rates band)
        (updateAllowedRates supp_rates ht_supported rx_mask band supported_rates) ↔
      NoGap (if band = .GHZ2 then 12 else 8) (supp_rates band).getLsbD := by
  obtain ⟨hdsss, hofdm⟩ :=
    updateAllowedRates_tables supp_rates ht_supported rx_mask band supported_rates
  cases band with
  | GHZ2 =>
    rw [if_pos rfl] at hdsss
    rw [if_pos rfl, (allowedRatesLoop_spec (n := 4) wcn_2ghz_rates (supp_rates .GHZ2) 4).1] at hofdm
    exact ratesDecoded_iff_2ghz _ hdsss hofdm
  | GHZ5 =>
    rw [if_neg (by decide)] at hdsss hofdm
    exact ratesDecoded_iff_5ghz _ hdsss hofdm

/-- A station with all rates but 5.5 Mbps has no rate above 2 Mbps in the tables. -/
theorem ratesDecoded_fails_on_gap : ¬RatesDecoded .GHZ2 0xffb
    (updateAllowedRates (fun _ => 0xffb) false (.replicate 10 0) .GHZ2 {}) := by
  intro h
  have hentry := h.ofdm 0 (by decide)
  revert hentry
  decide

end Wcn36xx
