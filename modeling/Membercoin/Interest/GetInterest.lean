import Membercoin.ArithUint256
import Membercoin.Transaction
import Membercoin.Interest.RateTable

/-!
# Valuation of an output (`getRateForAmount`, `GetInterest`)

`getRateForAmount` computes the interest on an amount over a number of blocks as
`amount * rateTable[periods] / rateTable[0] - amount` in `arith_uint256`, cut to its low 64 bits.
`GetInterest` returns the face value for a malformed pair of heights, and otherwise adds the
interest over `min(MAXINTERESTPERIOD, valuationHeight - outputBlockHeight)` blocks.

`effectiveValue` is the spec's valuation (§4.3) over the integers, with the table `R` of
`rate`.

* `getRateForAmount_ok`: over the filled table, for `0 ≤ periods ≤ MAXINTERESTPERIOD` and an
  amount in `[0, 2^62]`, the interest is `amount * R periods / 2^62 - amount`: no product, cut or
  subtraction of the code changes the value.
* `GetInterest_ok`: `GetInterest` returns `effectiveValue` for every amount in `[0, 2^62]` and every
  pair of `int` heights.
-/

namespace Membercoin

/-- `getRateForAmount(periods, theAmount)`. -/
def getRateForAmount (rateTable : RateTable) (periods : CInt) (theAmount : CAmount) :
    Result CAmount := do
  let amount256 := ArithUint256.ofUInt64 theAmount.toUInt64
  let rate256 := ArithUint256.ofUInt64 (← rateTable.read periods.val)
  let rate0256 := ArithUint256.ofUInt64 (← rateTable.read 0)
  let product := amount256 * rate256
  let result ← ArithUint256.div product rate0256
  pure (CAmount.ofUInt64 (ArithUint256.GetLow64 result - theAmount.toUInt64))

/-- `GetInterest(nValue, outputBlockHeight, valuationHeight)`. -/
def GetInterest (rateTable : RateTable) (nValue : CAmount)
    (outputBlockHeight valuationHeight : CInt) : Result CAmount :=
  if outputBlockHeight.val < 0 ∨ valuationHeight.val < 0 ∨
      valuationHeight.val < outputBlockHeight.val then
    pure nValue
  else do
    let blocks := SInt.min MAXINTERESTPERIOD (← valuationHeight.sub outputBlockHeight)
    let standardInterest ← getRateForAmount rateTable blocks nValue
    nValue.add standardInterest

/-- `CTxOut::GetValueWithInterest(outputBlockHeight, valuationHeight)`. -/
def CTxOut.GetValueWithInterest (rateTable : RateTable) (out : CTxOut)
    (outputBlockHeight valuationHeight : CInt) : Result CAmount :=
  GetInterest rateTable out.nValue outputBlockHeight valuationHeight

/-- The spec's `effectiveValue(v, hc, hv)` (§4.3): `v` for a malformed pair of heights, and
otherwise `v + interest` with `periods = clamp(hv − hc, 0, MAX_PERIOD)`,
`scaled = (v × R[periods]) / R[0]` and `interest = scaled − v`. -/
def effectiveValue (v hc hv : Int) : Int :=
  if hc < 0 ∨ hv < 0 ∨ hv < hc then v
  else
    let periods := min (hv - hc) 404420
    let scaled := v * rate periods.toNat / rate 0
    let interest := scaled - v
    v + interest

/-- The valuation over `p` elapsed blocks, `⌊v * R p / 2^62⌋`. -/
theorem effectiveValue_eq {v hc hv : Int} (h : ¬(hc < 0 ∨ hv < 0 ∨ hv < hc)) :
    effectiveValue v hc hv = v * rate (min (hv - hc) 404420).toNat / 2 ^ 62 := by
  simp [effectiveValue, h]

theorem effectiveValue_of_malformed {v hc hv : Int} (h : hc < 0 ∨ hv < 0 ∨ hv < hc) :
    effectiveValue v hc hv = v := by
  simp [effectiveValue, h]

section FilledTable

variable (t : RateTable)

theorem read_initRateTable {p : Int} (h0 : 0 ≤ p) (h1 : p ≤ 404420) :
    ∃ r : BitVec 64, (initRateTable t).read p = .ok r ∧ r.toNat = rate p.toNat :=
  ⟨_, RateTable.read_ok _ h0 h1, initRateTable_get t (by omega)⟩

/-- The interest over `p` blocks of an amount in `[0, 2^62]`. -/
theorem getRateForAmount_ok {p : CInt} {v : CAmount} (hp0 : 0 ≤ p.val) (hp1 : p.val ≤ 404420)
    (hv0 : 0 ≤ v.val) (hv1 : v.val ≤ 2 ^ 62) :
    ∃ r : CAmount, getRateForAmount (initRateTable t) p v = .ok r ∧
      r.val = v.val * rate p.val.toNat / 2 ^ 62 - v.val := by
  obtain ⟨r, hr, hrv⟩ := read_initRateTable t hp0 hp1
  obtain ⟨r0, hr0, hr0v⟩ := read_initRateTable t le_rfl (by norm_num)
  have hR := rate_lt (i := p.val.toNat) (by omega)
  have hR0 := two_pow_le_rate p.val.toNat
  have hvn := CAmount.toUInt64_toNat hv0
  have hprod : (ArithUint256.ofUInt64 v.toUInt64 * ArithUint256.ofUInt64 r).toNat =
      v.val.toNat * rate p.val.toNat := by
    rw [BitVec.toNat_mul, ArithUint256.ofUInt64_toNat, ArithUint256.ofUInt64_toNat, hvn, hrv]
    apply Nat.mod_eq_of_lt
    calc v.val.toNat * rate p.val.toNat ≤ 2 ^ 62 * 2 ^ 63 :=
          Nat.mul_le_mul (by omega) hR.le
      _ < 2 ^ 256 := by norm_num
  have hne : ArithUint256.ofUInt64 r0 ≠ 0 := by
    intro h; have := congrArg BitVec.toNat h; simp [hr0v] at this
  -- the quotient `v * R p / 2^62` lies in `[v, 2v]`, so the cut and the subtraction are exact
  have hq1 : v.val.toNat * 2 ^ 62 ≤ v.val.toNat * rate p.val.toNat := Nat.mul_le_mul_left _ hR0
  have hq2 : v.val.toNat * rate p.val.toNat < v.val.toNat * 2 ^ 63 + 2 ^ 62 := by
    have := Nat.mul_le_mul_left v.val.toNat hR.le; omega
  have hq : v.val.toNat ≤ v.val.toNat * rate p.val.toNat / 2 ^ 62 ∧
      v.val.toNat * rate p.val.toNat / 2 ^ 62 < 2 * v.val.toNat + 1 :=
    ⟨(Nat.le_div_iff_mul_le (by positivity)).mpr hq1,
      (Nat.div_lt_iff_lt_mul (by positivity)).mpr (by omega)⟩
  refine ⟨CAmount.ofUInt64 (ArithUint256.GetLow64 (ArithUint256.ofUInt64 v.toUInt64 *
    ArithUint256.ofUInt64 r / ArithUint256.ofUInt64 r0) - v.toUInt64), ?_, ?_⟩
  · simp only [getRateForAmount, hr, hr0, Result.ok_bind, ArithUint256.div_ok hne]
    rfl
  · have hlow : (ArithUint256.GetLow64 (ArithUint256.ofUInt64 v.toUInt64 *
        ArithUint256.ofUInt64 r / ArithUint256.ofUInt64 r0) - v.toUInt64).toNat =
        v.val.toNat * rate p.val.toNat / 2 ^ 62 - v.val.toNat := by
      simp only [BitVec.toNat_sub, ArithUint256.GetLow64_toNat, BitVec.toNat_udiv, hprod,
        ArithUint256.ofUInt64_toNat, hr0v, Int.toNat_zero, rate_zero, hvn]
      omega
    rw [CAmount.ofUInt64_val (by omega), hlow, Nat.cast_sub hq.1]
    push_cast
    rw [Int.toNat_of_nonneg hv0]

/-- `GetInterest` returns the spec's `effectiveValue` for every amount in `[0, 2^62]` and every
pair of `int` heights. -/
theorem GetInterest_ok (v : CAmount) (hc hv : CInt) (hv0 : 0 ≤ v.val) (hv1 : v.val ≤ 2 ^ 62) :
    ∃ r : CAmount, GetInterest (initRateTable t) v hc hv = .ok r ∧
      r.val = effectiveValue v.val hc.val hv.val := by
  by_cases hm : hc.val < 0 ∨ hv.val < 0 ∨ hv.val < hc.val
  · exact ⟨v, if_pos hm, (effectiveValue_of_malformed hm).symm⟩
  · obtain ⟨d, hd⟩ : ∃ d : CInt, d.val = hv.val - hc.val :=
      ⟨⟨_, by have := hc.range; have := hv.range; omega⟩, rfl⟩
    have hsub : hv.sub hc = .ok d := SInt.sub_eq_ok_iff.mpr hd
    have hb := SInt.min_val MAXINTERESTPERIOD d
    rw [MAXINTERESTPERIOD_val] at hb
    obtain ⟨r, hr, hrv⟩ := getRateForAmount_ok t (p := SInt.min MAXINTERESTPERIOD d)
      (by omega) (by omega) hv0 hv1
    have hR := rate_lt (i := (SInt.min MAXINTERESTPERIOD d).val.toNat) (by omega)
    -- the valuation `v * R / 2^62` stays below `2^63`
    have htot : v.val * rate (SInt.min MAXINTERESTPERIOD d).val.toNat / 2 ^ 62 < 2 ^ 63 := by
      rw [Int.ediv_lt_iff_lt_mul (by norm_num)]
      calc v.val * rate (SInt.min MAXINTERESTPERIOD d).val.toNat ≤ 2 ^ 62 * (2 ^ 63 - 1) :=
            mul_le_mul hv1 (by omega) (by positivity) (by norm_num)
        _ < 2 ^ 63 * 2 ^ 62 := by norm_num
    obtain ⟨s, hs⟩ : ∃ s : CAmount, s.val = v.val + r.val :=
      ⟨⟨_, by have := r.range; omega, by omega⟩, rfl⟩
    refine ⟨s, ?_, ?_⟩
    · simp only [GetInterest, if_neg hm, hsub, Result.ok_bind, hr, SInt.add_eq_ok_iff.mpr hs]
    · have hp : (SInt.min MAXINTERESTPERIOD d).val = min (hv.val - hc.val) 404420 := by
        rw [hb, hd, min_comm]
      rw [hs, hrv, effectiveValue_eq hm, hp]
      omega

/-- After `initRateTable` every entry of the period is `R` exactly, and for every valid face
value and every pair of `int` heights `GetInterest` returns `effectiveValue`. -/
theorem GetInterest_eq_effectiveValue (v : CAmount) (hc hv : CInt) (h0 : 0 ≤ v.val)
    (h1 : v.val ≤ MAX_MONEY) :
    (∀ i ≤ 404420, ((initRateTable t).get i).toNat = rate i) ∧
      ∃ r : CAmount, GetInterest (initRateTable t) v hc hv = .ok r ∧
        r.val = effectiveValue v.val hc.val hv.val :=
  ⟨fun _ hi => initRateTable_get t hi,
    GetInterest_ok t v hc hv h0 (le_trans h1 (by norm_num))⟩

end FilledTable

/-- `GetInterest_eq_effectiveValue` for 100 coins created at height 0 and valued a day later. -/
theorem GetInterest_eq_effectiveValue_hundred_coins :
    (0 ≤ (10000000000 : Int) ∧ (10000000000 : Int) ≤ MAX_MONEY) ∧
    (∀ i ≤ 404420, ((initRateTable RateTable.zero).get i).toNat = rate i) ∧
      ∃ r : CAmount, GetInterest (initRateTable RateTable.zero) ⟨10000000000, by norm_num⟩
        SInt.zero ONEDAY = .ok r ∧ r.val = effectiveValue 10000000000 0 1108 :=
  ⟨by decide, GetInterest_eq_effectiveValue RateTable.zero _ _ _ (by decide) (by decide)⟩

end Membercoin
