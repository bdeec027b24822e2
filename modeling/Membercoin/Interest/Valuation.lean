import Membercoin.Interest.GetInterest

/-!
# Laws of the valuation

Over the filled table every valuation `GetInterest` makes is the spec's
`effectiveValue` (`GetInterest_ok`), so the laws below are laws of `⌊v * R p / 2^62⌋` with
`p = min(hv - hc, MAXINTERESTPERIOD)`.

* `GetInterest_mono_saturates`: the value never decreases as the face value or the valuation
  height grows, and stops growing `MAXINTERESTPERIOD` blocks after creation.
* `GetInterest_split_merge`: splitting an output never raises the total value; merging two gains
  at most one satoshi.
* `GetInterest_one_satoshi_one_block`: one satoshi earns nothing over one block, although a block
  has elapsed.
* `GetInterest_ge_face_value`: no output loses value, and a positive one gains exactly when
  `v * R p ≥ (v + 1) * 2^62`.
-/

namespace Membercoin

section FilledTable

variable (t : RateTable)

/-- Over the clamped period `p`, `GetInterest` is `⌊v * R p / 2^62⌋`. -/
theorem GetInterest_of_ordered (v : CAmount) (hc hv : CInt) (hv0 : 0 ≤ v.val)
    (hv1 : v.val ≤ MAX_MONEY) (hc0 : 0 ≤ hc.val) (h : hc.val ≤ hv.val) :
    ∃ r : CAmount, GetInterest (initRateTable t) v hc hv = .ok r ∧
      r.val = v.val * rate (min (hv.val - hc.val) 404420).toNat / 2 ^ 62 := by
  obtain ⟨r, hr, hrv⟩ := GetInterest_ok t v hc hv hv0 (le_trans hv1 (by norm_num))
  exact ⟨r, hr, by rw [hrv, effectiveValue_eq (by omega)]⟩

theorem min_MAXINTERESTPERIOD {d : CInt} (h : 404420 ≤ d.val) :
    SInt.min MAXINTERESTPERIOD d = MAXINTERESTPERIOD :=
  if_neg (by rw [MAXINTERESTPERIOD_val]; omega)

/-- From `MAXINTERESTPERIOD` blocks after creation on, `GetInterest` is the valuation over the
whole period. -/
theorem GetInterest_saturated (v : CAmount) {hc h : CInt} (hc0 : 0 ≤ hc.val)
    (hh : hc.val + 404420 ≤ h.val) :
    GetInterest t v hc h = getRateForAmount t MAXINTERESTPERIOD v >>= v.add := by
  obtain ⟨d, hd⟩ : ∃ d : CInt, d.val = h.val - hc.val :=
    ⟨⟨_, by have := h.range; omega, by have := h.range; omega⟩, rfl⟩
  rw [GetInterest, if_neg (by omega)]
  simp only [SInt.sub_eq_ok_iff.mpr hd, Result.ok_bind, min_MAXINTERESTPERIOD (d := d) (by omega)]

/-- The value never decreases as the face value or the valuation height grows, and it stops
growing `MAXINTERESTPERIOD` blocks after creation. -/
theorem GetInterest_mono_saturates :
    (∀ (v v' : CAmount) (hc hv hv' : CInt), 0 ≤ v.val → v.val ≤ v'.val → v'.val ≤ MAX_MONEY →
      0 ≤ hc.val → hc.val ≤ hv.val → hv.val ≤ hv'.val →
      ∃ r r' : CAmount, GetInterest (initRateTable t) v hc hv = .ok r ∧
        GetInterest (initRateTable t) v' hc hv' = .ok r' ∧ r.val ≤ r'.val) ∧
    (∀ (v : CAmount) (hc hv hcMax : CInt), 0 ≤ hc.val → hcMax.val = hc.val + 404420 →
      hcMax.val ≤ hv.val →
      GetInterest (initRateTable t) v hc hv = GetInterest (initRateTable t) v hc hcMax) := by
  refine ⟨fun v v' hc hv hv' h0 hvv' h1 hc0 hchv hvhv' => ?_, fun v hc hv hcMax hc0 hm hmv => ?_⟩
  · obtain ⟨r, hr, hrv⟩ := GetInterest_of_ordered t v hc hv h0 (le_trans hvv' h1) hc0 hchv
    obtain ⟨r', hr', hrv'⟩ := GetInterest_of_ordered t v' hc hv' (le_trans h0 hvv') h1 hc0
      (le_trans hchv hvhv')
    refine ⟨r, r', hr, hr', ?_⟩
    have hR := rate_mono (show (min (hv.val - hc.val) 404420).toNat ≤
      (min (hv'.val - hc.val) 404420).toNat by omega)
    rw [hrv, hrv']
    exact Int.ediv_le_ediv (by norm_num)
      (mul_le_mul hvv' (by exact_mod_cast hR) (by positivity) (by omega))
  · rw [GetInterest_saturated _ v hc0 (by omega), GetInterest_saturated _ v hc0 (by omega)]

/-- `GetInterest_mono_saturates` at 100 and 200 coins valued a day and two days after height 0,
and at 100 coins valued at height 500000, past the end of the period. -/
theorem GetInterest_mono_saturates_days :
    (∃ r r' : CAmount,
      GetInterest (initRateTable RateTable.zero) ⟨10000000000, by norm_num⟩ SInt.zero ONEDAY =
        .ok r ∧
      GetInterest (initRateTable RateTable.zero) ⟨20000000000, by norm_num⟩ SInt.zero
        ⟨2216, by norm_num⟩ = .ok r' ∧ r.val ≤ r'.val) ∧
    GetInterest (initRateTable RateTable.zero) ⟨10000000000, by norm_num⟩ SInt.zero
        ⟨500000, by norm_num⟩ =
      GetInterest (initRateTable RateTable.zero) ⟨10000000000, by norm_num⟩ SInt.zero
        MAXINTERESTPERIOD :=
  ⟨(GetInterest_mono_saturates RateTable.zero).1 _ _ _ _ _ (by decide) (by decide) (by decide)
      (by decide) (by decide) (by decide),
    (GetInterest_mono_saturates RateTable.zero).2 _ _ _ _ (by decide) (by decide) (by decide)⟩

/-- Splitting an output never raises the total value, and merging two outputs gains at most one
satoshi: the floor of a sum is the sum of the floors, or one more. -/
theorem GetInterest_split_merge (a b c : CAmount) (hc hv : CInt) (ha : 0 ≤ a.val)
    (hb : 0 ≤ b.val) (habc : c.val = a.val + b.val) (hmax : c.val ≤ MAX_MONEY) :
    ∃ ra rb rc : CAmount, GetInterest (initRateTable t) a hc hv = .ok ra ∧
      GetInterest (initRateTable t) b hc hv = .ok rb ∧
      GetInterest (initRateTable t) c hc hv = .ok rc ∧
      ra.val + rb.val ≤ rc.val ∧ rc.val ≤ ra.val + rb.val + 1 := by
  have hM : MAX_MONEY ≤ 2 ^ 62 := by norm_num
  obtain ⟨ra, hra, hrav⟩ := GetInterest_ok t a hc hv ha (by omega)
  obtain ⟨rb, hrb, hrbv⟩ := GetInterest_ok t b hc hv hb (by omega)
  obtain ⟨rc, hrc, hrcv⟩ := GetInterest_ok t c hc hv (by omega) (by omega)
  refine ⟨ra, rb, rc, hra, hrb, hrc, ?_⟩
  rw [hrav, hrbv, hrcv]
  by_cases hm : hc.val < 0 ∨ hv.val < 0 ∨ hv.val < hc.val
  · simp only [effectiveValue_of_malformed hm]; omega
  · simp only [effectiveValue_eq hm, habc]
    have hsplit : (a.val + b.val) * rate (min (hv.val - hc.val) 404420).toNat =
        a.val * rate (min (hv.val - hc.val) 404420).toNat +
          b.val * rate (min (hv.val - hc.val) 404420).toNat := add_mul _ _ _
    omega

/-- `GetInterest_split_merge` for outputs of 1 and 2 coins valued a day after height 0. -/
theorem GetInterest_split_merge_coins :
    ∃ ra rb rc : CAmount,
      GetInterest (initRateTable RateTable.zero) ⟨100000000, by norm_num⟩ SInt.zero ONEDAY =
        .ok ra ∧
      GetInterest (initRateTable RateTable.zero) ⟨200000000, by norm_num⟩ SInt.zero ONEDAY =
        .ok rb ∧
      GetInterest (initRateTable RateTable.zero) ⟨300000000, by norm_num⟩ SInt.zero ONEDAY =
        .ok rc ∧
      ra.val + rb.val ≤ rc.val ∧ rc.val ≤ ra.val + rb.val + 1 :=
  GetInterest_split_merge RateTable.zero _ _ _ _ _ (by decide) (by decide) (by decide) (by decide)

/-- No output loses value. A positive output created at `hc` and valued at `hv` keeps exactly its
face value when `hv ≤ hc`, or when the floor of `v * R p / 2^62` is still `v`. -/
theorem GetInterest_ge_face_value (v : CAmount) (hc hv : CInt) (h0 : 0 < v.val)
    (h1 : v.val ≤ MAX_MONEY) (hc0 : 0 ≤ hc.val) (hv0 : 0 ≤ hv.val) :
    ∃ r : CAmount, GetInterest (initRateTable t) v hc hv = .ok r ∧ v.val ≤ r.val ∧
      (r.val = v.val ↔ hv.val ≤ hc.val ∨
        v.val * rate (min (hv.val - hc.val) 404420).toNat < (v.val + 1) * 2 ^ 62) := by
  by_cases hlt : hv.val < hc.val
  · exact ⟨v, if_pos (Or.inr (Or.inr hlt)), le_rfl, by simp [hlt.le]⟩
  · obtain ⟨r, hr, hrv⟩ := GetInterest_of_ordered t v hc hv h0.le h1 hc0 (by omega)
    have hR := two_pow_le_rate (min (hv.val - hc.val) 404420).toNat
    have hlow : v.val * 2 ^ 62 ≤ v.val * rate (min (hv.val - hc.val) 404420).toNat :=
      mul_le_mul_of_nonneg_left (by exact_mod_cast hR) h0.le
    refine ⟨r, hr, by rw [hrv]; omega, ?_⟩
    rcases Nat.lt_or_ge hc.val.toNat hv.val.toNat with hgt | heq
    · rw [hrv]; omega
    · have hp : (min (hv.val - hc.val) 404420).toNat = 0 := by omega
      rw [hrv, hp, rate_zero]; push_cast; omega

end FilledTable

/-- `GetInterest_ge_face_value` for 100 coins valued a day after height 0. -/
theorem GetInterest_ge_face_value_hundred_coins :
    ∃ r : CAmount,
      GetInterest (initRateTable RateTable.zero) ⟨10000000000, by norm_num⟩ SInt.zero ONEDAY =
        .ok r ∧ 10000000000 ≤ r.val ∧
      (r.val = 10000000000 ↔ (1108 : Int) ≤ 0 ∨
        (10000000000 : Int) * rate (min ((1108 : Int) - 0) 404420).toNat <
          (10000000000 + 1) * 2 ^ 62) :=
  GetInterest_ge_face_value RateTable.zero _ _ _ (by decide) (by decide) (by decide) (by decide)

/-- One satoshi created at height 0 is still worth one satoshi at height 1. -/
theorem GetInterest_one_satoshi_one_block :
    GetInterest (initRateTable RateTable.zero) ⟨1, by norm_num⟩ SInt.zero ⟨1, by norm_num⟩ =
      .ok ⟨1, by norm_num⟩ := by
  obtain ⟨r, hr, hrv⟩ := GetInterest_of_ordered RateTable.zero ⟨1, by norm_num⟩ SInt.zero
    ⟨1, by norm_num⟩ (by norm_num) (by norm_num) le_rfl (by simp)
  rw [hr, Result.ok.injEq, SInt.ext_iff, hrv]
  decide

end Membercoin
