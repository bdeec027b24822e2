import Membercoin.Interest.Valuation

/-!
# Respending a coin to oneself

`respend v h hs` respends a coin of face value `v` created at `h` to oneself at each height of
`hs` in turn, recreating it at its value there: `v_{k+1} = GetInterest(v_k, h_k, h_{k+1})`.

Each table step `R (i+1) = R i + ⌊R i / 2^22⌋` loses less than one unit against exact compounding
at `1 + 2^-22`, and so does each floor of a valuation. With `K = 2^22`:

* `pow_mul_rate_le`: `K^d * R d ≤ (K+1)^d * 2^62`, so a chain of valuations never beats exact
  compounding (`respend_growth`);
* `rate_lower`: what `R d` loses against exact compounding is below `(K-1)((K+1)^d - K^d) / K^d`;
* `pow_bernoulli`: `(K+1)^d (K+1-d) ≤ K^d (K+1)`, which bounds that loss over one period.

* `respend_two_blocks_gains`: respending at height 2 a coin created at 0 and valuing it at 4
  gives one satoshi more than holding it to 4.
* `respend_le_hold`: within one period, respending along any chain of heights gives at most
  9706 satoshi more than holding the coin.
-/

namespace Membercoin

/-- Respending a coin to oneself at each height of `hs` in turn. -/
def respend (rateTable : RateTable) : CAmount → CInt → List CInt → Result CAmount
  | v, _, [] => .ok v
  | v, h, h' :: hs => GetInterest rateTable v h h' >>= fun v' => respend rateTable v' h' hs

/-! ## Exact compounding against the table -/

theorem pow_mul_rate_le (d : Nat) : (2 ^ 22) ^ d * rate d ≤ (2 ^ 22 + 1) ^ d * 2 ^ 62 := by
  induction d with
  | zero => simp
  | succ d ih =>
    have step : 2 ^ 22 * rate (d + 1) ≤ (2 ^ 22 + 1) * rate d := by rw [rate_succ]; omega
    calc (2 ^ 22) ^ (d + 1) * rate (d + 1) = (2 ^ 22) ^ d * (2 ^ 22 * rate (d + 1)) := by ring
      _ ≤ (2 ^ 22) ^ d * ((2 ^ 22 + 1) * rate d) := Nat.mul_le_mul_left _ step
      _ = (2 ^ 22 + 1) * ((2 ^ 22) ^ d * rate d) := by ring
      _ ≤ (2 ^ 22 + 1) * ((2 ^ 22 + 1) ^ d * 2 ^ 62) := Nat.mul_le_mul_left _ ih
      _ = (2 ^ 22 + 1) ^ (d + 1) * 2 ^ 62 := by ring

theorem rate_lower (d : Nat) :
    (2 ^ 22 + 1) ^ d * 2 ^ 62 + (2 ^ 22 - 1) * (2 ^ 22) ^ d ≤
      (2 ^ 22) ^ d * rate d + (2 ^ 22 - 1) * (2 ^ 22 + 1) ^ d := by
  induction d with
  | zero => simp
  | succ d ih =>
    have step : (2 ^ 22 + 1) * rate d ≤ 2 ^ 22 * rate (d + 1) + (2 ^ 22 - 1) := by
      rw [rate_succ]; omega
    have h2 := Nat.mul_le_mul_left ((2 ^ 22) ^ d) step
    rw [pow_succ (2 ^ 22 + 1) d, pow_succ (2 ^ 22) d]
    generalize (2 ^ 22 + 1) ^ d = P at *
    generalize (2 ^ 22) ^ d = Q at *
    generalize rate (d + 1) = R' at *
    generalize rate d = R at *
    norm_num at ih h2 ⊢
    linarith

theorem pow_bernoulli {d : Nat} (h : d ≤ 2 ^ 22 + 1) :
    (2 ^ 22 + 1) ^ d * (2 ^ 22 + 1 - d) ≤ (2 ^ 22) ^ d * (2 ^ 22 + 1) := by
  induction d with
  | zero => simp
  | succ d ih =>
    have key : (2 ^ 22 + 1) * (2 ^ 22 + 1 - (d + 1)) ≤ 2 ^ 22 * (2 ^ 22 + 1 - d) := by omega
    calc (2 ^ 22 + 1) ^ (d + 1) * (2 ^ 22 + 1 - (d + 1))
        = (2 ^ 22 + 1) ^ d * ((2 ^ 22 + 1) * (2 ^ 22 + 1 - (d + 1))) := by
          rw [pow_succ, Nat.mul_assoc]
      _ ≤ (2 ^ 22 + 1) ^ d * (2 ^ 22 * (2 ^ 22 + 1 - d)) := Nat.mul_le_mul_left _ key
      _ = 2 ^ 22 * ((2 ^ 22 + 1) ^ d * (2 ^ 22 + 1 - d)) := by ring
      _ ≤ 2 ^ 22 * ((2 ^ 22) ^ d * (2 ^ 22 + 1)) := Nat.mul_le_mul_left _ (ih (by omega))
      _ = (2 ^ 22) ^ (d + 1) * (2 ^ 22 + 1) := by ring

/-- Bernoulli's bound over one period, `((K+1)/K)^e ≤ (K+1)/(K+1-MAXINTERESTPERIOD)`. -/
theorem pow_growth_le {e : Nat} (he : e ≤ 404420) :
    ((2 : Int) ^ 22 + 1) ^ e * 3789885 ≤ (2 ^ 22) ^ e * 4194305 := by
  have hb := pow_bernoulli (d := e) (by omega)
  have hm : (2 ^ 22 + 1) ^ e * 3789885 ≤ (2 ^ 22 + 1) ^ e * (2 ^ 22 + 1 - e) :=
    Nat.mul_le_mul_left _ (by omega)
  exact_mod_cast le_trans hm hb

/-- An amount that has grown by at most `((K+1)/K)^e` from a valid face value, within one
period, stays below `2^62`. -/
theorem le_of_growth {w v : Int} {e : Nat} (he : e ≤ 404420) (hv0 : 0 ≤ v)
    (hv1 : v ≤ MAX_MONEY) (h : w * (2 ^ 22) ^ e ≤ v * (2 ^ 22 + 1) ^ e) : w ≤ 2 ^ 62 := by
  have hb := pow_growth_le he
  have hQ : (0 : Int) < (2 ^ 22) ^ e := by positivity
  have : w * 3789885 * (2 ^ 22) ^ e ≤ v * 4194305 * (2 ^ 22) ^ e := by
    calc w * 3789885 * (2 ^ 22) ^ e = w * (2 ^ 22) ^ e * 3789885 := by ring
      _ ≤ v * (2 ^ 22 + 1) ^ e * 3789885 := by
          exact mul_le_mul_of_nonneg_right h (by norm_num)
      _ = v * ((2 ^ 22 + 1) ^ e * 3789885) := by ring
      _ ≤ v * ((2 ^ 22) ^ e * 4194305) := mul_le_mul_of_nonneg_left hb hv0
      _ = v * 4194305 * (2 ^ 22) ^ e := by ring
  have := le_of_mul_le_mul_right this hQ
  rw [MAX_MONEY_eq] at hv1
  omega

/-- The last height of a nondecreasing chain is at least its first. -/
theorem chain_le_getLastD {h : CInt} {hs : List CInt}
    (hc : (h :: hs).Chain' (fun a b => a.val ≤ b.val)) : h.val ≤ (hs.getLastD h).val := by
  induction hs generalizing h with
  | nil => exact le_rfl
  | cons h' hs ih =>
    rw [List.chain'_cons] at hc
    rw [List.getLastD_cons]
    exact le_trans hc.1 (ih hc.2)

/-- Holding a valid face value for `D ≤ MAXINTERESTPERIOD` blocks gives less than 9707 satoshi
below exact compounding: `v (K+1)^D < (⌊v R D / 2^62⌋ + 9707) K^D`. -/
theorem hold_lower {v : Int} {D : Nat} (hD : D ≤ 404420) (hv0 : 0 ≤ v) (hv1 : v ≤ MAX_MONEY) :
    v * (2 ^ 22 + 1) ^ D < (v * rate D / 2 ^ 62 + 9707) * (2 ^ 22) ^ D := by
  have hl : ((2 : Int) ^ 22 + 1) ^ D * 2 ^ 62 + 4194303 * (2 ^ 22) ^ D ≤
      (2 ^ 22) ^ D * rate D + 4194303 * (2 ^ 22 + 1) ^ D := by
    exact_mod_cast rate_lower D
  have hb := pow_growth_le hD
  have hf := Int.lt_ediv_add_one_mul_self (v * rate D) (show (0 : Int) < 2 ^ 62 by norm_num)
  have hQ : (0 : Int) < (2 ^ 22) ^ D := by positivity
  rw [MAX_MONEY_eq] at hv1
  generalize ((2 : Int) ^ 22 + 1) ^ D = P at *
  generalize ((2 : Int) ^ 22) ^ D = Q at *
  generalize v * rate D / 2 ^ 62 = W at *
  have ha := mul_le_mul_of_nonneg_left hl hv0
  have hb' := mul_le_mul_of_nonneg_left hb hv0
  have hf' := mul_lt_mul_of_pos_left hf hQ
  have hd := mul_le_mul_of_nonneg_right hv1 hQ.le
  linarith

section FilledTable

variable (t : RateTable)

/-- One valuation over `d ≤ MAXINTERESTPERIOD` blocks grows an amount by at most `((K+1)/K)^d`. -/
theorem GetInterest_growth {w : CAmount} {h h' : CInt} (hw0 : 0 ≤ w.val) (hw1 : w.val ≤ 2 ^ 62)
    (hh0 : 0 ≤ h.val) (hhh : h.val ≤ h'.val) (hd : h'.val - h.val ≤ 404420) :
    ∃ w' : CAmount, GetInterest (initRateTable t) w h h' = .ok w' ∧ 0 ≤ w'.val ∧
      w'.val * (2 ^ 22) ^ (h'.val - h.val).toNat ≤
        w.val * (2 ^ 22 + 1) ^ (h'.val - h.val).toNat := by
  obtain ⟨w', hw', hv⟩ := GetInterest_ok t w h h' hw0 hw1
  rw [effectiveValue_eq (by omega), show min (h'.val - h.val) 404420 = h'.val - h.val by omega]
    at hv
  refine ⟨w', hw', by rw [hv]; exact Int.ediv_nonneg (by positivity) (by norm_num), ?_⟩
  generalize (h'.val - h.val).toNat = d at hv ⊢
  have hR : ((2 : Int) ^ 22) ^ d * rate d ≤ (2 ^ 22 + 1) ^ d * 2 ^ 62 := by
    exact_mod_cast pow_mul_rate_le d
  have hfl : w'.val * 2 ^ 62 ≤ w.val * rate d := by rw [hv]; exact Int.ediv_mul_le _ (by norm_num)
  have : w'.val * (2 ^ 22) ^ d * 2 ^ 62 ≤ w.val * (2 ^ 22 + 1) ^ d * 2 ^ 62 := by
    calc w'.val * (2 ^ 22) ^ d * 2 ^ 62 = w'.val * 2 ^ 62 * (2 ^ 22) ^ d := by ring
      _ ≤ w.val * rate d * (2 ^ 22) ^ d := mul_le_mul_of_nonneg_right hfl (by positivity)
      _ = w.val * ((2 ^ 22) ^ d * rate d) := by ring
      _ ≤ w.val * ((2 ^ 22 + 1) ^ d * 2 ^ 62) := mul_le_mul_of_nonneg_left hR hw0
      _ = w.val * (2 ^ 22 + 1) ^ d * 2 ^ 62 := by ring
  exact le_of_mul_le_mul_right this (by norm_num)

/-- Along a nondecreasing chain of heights the amount has grown by at most `((K+1)/K)^D` over
the `D` blocks elapsed since the face value `v`; `e` of them elapsed before `h`. -/
theorem respend_growth {v : CAmount} (hv0 : 0 ≤ v.val) (hv1 : v.val ≤ MAX_MONEY) :
    ∀ (hs : List CInt) (w : CAmount) (h : CInt) (e : Nat), 0 ≤ h.val →
      (h :: hs).Chain' (fun a b => a.val ≤ b.val) →
      e + ((hs.getLastD h).val - h.val).toNat ≤ 404420 → 0 ≤ w.val →
      w.val * (2 ^ 22) ^ e ≤ v.val * (2 ^ 22 + 1) ^ e →
      ∃ vn : CAmount, respend (initRateTable t) w h hs = .ok vn ∧
        vn.val * (2 ^ 22) ^ (e + ((hs.getLastD h).val - h.val).toNat) ≤
          v.val * (2 ^ 22 + 1) ^ (e + ((hs.getLastD h).val - h.val).toNat) := by
  intro hs
  induction hs with
  | nil => intro w h e _ _ _ _ hw; exact ⟨w, rfl, by simpa using hw⟩
  | cons h' hs ih =>
    intro w h e hh0 hc he hw0 hw
    rw [List.chain'_cons] at hc
    have hlast := chain_le_getLastD hc.2
    rw [List.getLastD_cons] at he ⊢
    obtain ⟨w', hw', hw'0, hgrow⟩ := GetInterest_growth t hw0
      (le_of_growth (by omega) hv0 hv1 hw) hh0 hc.1 (by omega)
    have hstep : w'.val * (2 ^ 22) ^ (e + (h'.val - h.val).toNat) ≤
        v.val * (2 ^ 22 + 1) ^ (e + (h'.val - h.val).toNat) := by
      rw [pow_add, pow_add]
      calc w'.val * ((2 ^ 22) ^ e * (2 ^ 22) ^ (h'.val - h.val).toNat)
          = w'.val * (2 ^ 22) ^ (h'.val - h.val).toNat * (2 ^ 22) ^ e := by ring
        _ ≤ w.val * (2 ^ 22 + 1) ^ (h'.val - h.val).toNat * (2 ^ 22) ^ e :=
            mul_le_mul_of_nonneg_right hgrow (by positivity)
        _ = w.val * (2 ^ 22) ^ e * (2 ^ 22 + 1) ^ (h'.val - h.val).toNat := by ring
        _ ≤ v.val * (2 ^ 22 + 1) ^ e * (2 ^ 22 + 1) ^ (h'.val - h.val).toNat :=
            mul_le_mul_of_nonneg_right hw (by positivity)
        _ = v.val * ((2 ^ 22 + 1) ^ e * (2 ^ 22 + 1) ^ (h'.val - h.val).toNat) := by ring
    obtain ⟨vn, hvn, hb⟩ := ih w' h' (e + (h'.val - h.val).toNat) (by omega) hc.2 (by omega)
      hw'0 hstep
    refine ⟨vn, by simp [respend, hw', hvn], ?_⟩
    rwa [show e + (h'.val - h.val).toNat + ((hs.getLastD h').val - h'.val).toNat =
      e + ((hs.getLastD h').val - h.val).toNat by omega] at hb

/-- Within one period, respending a coin to oneself along any nondecreasing chain of heights gives
at most 9706 satoshi more than holding it. -/
theorem respend_le_hold (v : CAmount) (h0 : CInt) (hs : List CInt) (hv0 : 0 ≤ v.val)
    (hv1 : v.val ≤ MAX_MONEY) (hh0 : 0 ≤ h0.val)
    (hchain : (h0 :: hs).Chain' (fun a b => a.val ≤ b.val))
    (hD : (hs.getLastD h0).val - h0.val ≤ 404420) :
    ∃ vn w : CAmount, respend (initRateTable t) v h0 hs = .ok vn ∧
      GetInterest (initRateTable t) v h0 (hs.getLastD h0) = .ok w ∧ vn.val ≤ w.val + 9706 := by
  have hle := chain_le_getLastD hchain
  obtain ⟨vn, hvn, hgrow⟩ :=
    respend_growth t hv0 hv1 hs v h0 0 hh0 hchain (by omega) hv0 (by simp)
  obtain ⟨w, hw, hwv⟩ := GetInterest_of_ordered t v h0 (hs.getLastD h0) hv0 hv1 hh0 hle
  refine ⟨vn, w, hvn, hw, ?_⟩
  rw [zero_add] at hgrow
  rw [show min ((hs.getLastD h0).val - h0.val) 404420 = (hs.getLastD h0).val - h0.val by omega]
    at hwv
  have hh := hold_lower (D := ((hs.getLastD h0).val - h0.val).toNat) (by omega) hv0 hv1
  rw [← hwv] at hh
  have := lt_of_mul_lt_mul_right (lt_of_le_of_lt hgrow hh) (by positivity)
  omega

/-- `respend_le_hold` for 100 coins created at height 0, respent a day later and valued two days
later. -/
theorem respend_le_hold_two_days :
    ∃ vn w : CAmount, respend (initRateTable RateTable.zero) ⟨10000000000, by norm_num⟩ SInt.zero
        [ONEDAY, ⟨2216, by norm_num⟩] = .ok vn ∧
      GetInterest (initRateTable RateTable.zero) ⟨10000000000, by norm_num⟩ SInt.zero
        ⟨2216, by norm_num⟩ = .ok w ∧ vn.val ≤ w.val + 9706 :=
  respend_le_hold RateTable.zero _ _ _ (by decide) (by decide) (by decide)
    (by simp [ONEDAY, SInt.zero]) (by decide)

end FilledTable

/-- A coin of 90115946228751299 satoshi created at height 0, respent to oneself at height 2 and
valued at height 4, is worth one satoshi more than the same coin held from 0 to 4. -/
theorem respend_two_blocks_gains :
    respend (initRateTable RateTable.zero) ⟨90115946228751299, by norm_num⟩ SInt.zero
        [⟨2, by norm_num⟩, ⟨4, by norm_num⟩] = .ok ⟨90116032170045451, by norm_num⟩ ∧
      GetInterest (initRateTable RateTable.zero) ⟨90115946228751299, by norm_num⟩ SInt.zero
        ⟨4, by norm_num⟩ = .ok ⟨90116032170045450, by norm_num⟩ := by
  obtain ⟨a, ha, hav⟩ := GetInterest_of_ordered RateTable.zero ⟨90115946228751299, by norm_num⟩
    SInt.zero ⟨2, by norm_num⟩ (by norm_num) (by norm_num) le_rfl (by simp)
  obtain ⟨b, hb, hbv⟩ := GetInterest_of_ordered RateTable.zero a ⟨2, by norm_num⟩
    ⟨4, by norm_num⟩ (by rw [hav]; decide) (by rw [hav]; decide) (by norm_num) (by norm_num)
  obtain ⟨c, hc, hcv⟩ := GetInterest_of_ordered RateTable.zero ⟨90115946228751299, by norm_num⟩
    SInt.zero ⟨4, by norm_num⟩ (by norm_num) (by norm_num) le_rfl (by simp)
  refine ⟨?_, ?_⟩
  · rw [respend, ha, Result.ok_bind, respend, hb, Result.ok_bind, respend, Result.ok.injEq,
      SInt.ext_iff, hbv, hav]
    decide
  · rw [hc, Result.ok.injEq, SInt.ext_iff, hcv]; decide

end Membercoin
