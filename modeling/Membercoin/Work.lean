import Membercoin.ArithUint256

/-!
# Chain work of a block (`GetWorkForDifficultyBits`)

The work of a target `T` is `⌊2^256 / (T + 1)⌋`, which does not fit an `arith_uint256` when
`T = 0`. The code computes it as `(~T / (T + 1)) + 1`, which equals it for every `T` in
`[1, 2^256 - 2]` (`workOfTarget_ok`); at `T = 2^256 - 1` the divisor `T + 1` wraps to zero.
`GetWorkForDifficultyBits` returns `0` for a negative, overflowing or zero target.

* `SetCompact_ne_allOnes`: a decoded target is never `2^256 - 1`, so the division never sees
  a zero divisor.
* `GetWorkForDifficultyBits_eq`: the work is the exact quotient for every valid target, and `0`
  otherwise; the function never throws.
-/

namespace Membercoin

/-- The expression `(~bnTarget / (bnTarget + 1)) + 1` of `GetWorkForDifficultyBits`. -/
def workOfTarget (bnTarget : ArithUint256) : Result ArithUint256 := do
  let q ← ArithUint256.div (~~~bnTarget) (bnTarget + 1)
  pure (q + 1)

/-- `GetWorkForDifficultyBits(nBits)`. -/
def GetWorkForDifficultyBits (nBits : BitVec 32) : Result ArithUint256 :=
  match SetCompact nBits with
  | (bnTarget, fNegative, fOverflow) =>
    if fNegative || fOverflow || bnTarget == 0 then pure 0 else workOfTarget bnTarget

/-- For `1 ≤ T ≤ 2^256 - 2`, `~T / (T + 1) + 1` divides by a nonzero value and is
`⌊2^256 / (T + 1)⌋`: `~T = 2^256 - 1 - T`, and the quotient is below `2^255`, so the final
`+ 1` does not wrap. -/
theorem workOfTarget_ok {T : ArithUint256} (h1 : 1 ≤ T.toNat) (h2 : T.toNat ≤ 2 ^ 256 - 2) :
    workOfTarget T = .ok (BitVec.ofNat 256 (2 ^ 256 / (T.toNat + 1))) := by
  have hone : (1 : ArithUint256).toNat = 1 := rfl
  have hT1 : (T + 1).toNat = T.toNat + 1 := by rw [BitVec.toNat_add, hone]; omega
  have hne : T + 1 ≠ 0 := by
    intro h; have := congrArg BitVec.toNat h; rw [hT1] at this; simp at this
  have hq : (2 ^ 256 - 1 - T.toNat) / (T.toNat + 1) < 2 ^ 255 :=
    (Nat.div_lt_iff_lt_mul (by omega)).mpr (by omega)
  have hsum : (2 ^ 256 - 1 - T.toNat) / (T.toNat + 1) + 1 = 2 ^ 256 / (T.toNat + 1) := by
    rw [← Nat.add_div_right _ (by omega)]; congr 1; omega
  simp only [workOfTarget, ArithUint256.div_ok hne, Result.ok_bind, Result.pure_eq,
    Result.ok.injEq]
  apply BitVec.eq_of_toNat_eq
  rw [BitVec.toNat_add, BitVec.toNat_udiv, BitVec.toNat_not, hT1, hone, BitVec.toNat_ofNat,
    Nat.mod_eq_of_lt (by omega), hsum, Nat.mod_eq_of_lt]
  exact Nat.div_lt_self (by positivity) (by omega)

/-- A decoded target is never `2^256 - 1`: a mantissa below `2^23` shifted by no byte is small,
and one shifted by at least a byte is even. -/
theorem SetCompact_ne_allOnes (nBits : BitVec 32) : (SetCompact nBits).1.toNat ≠ 2 ^ 256 - 1 := by
  obtain ⟨m, k, hm, hT⟩ := SetCompact_shape nBits
  rw [hT]
  rcases k with _ | k
  · rw [mul_zero, pow_zero, mul_one, Nat.mod_eq_of_lt (by omega)]; omega
  · intro h
    have h2 : 2 ∣ m * 2 ^ (8 * (k + 1)) % 2 ^ 256 :=
      (Nat.dvd_mod_iff (dvd_pow_self 2 (by norm_num))).mpr
        (Dvd.dvd.mul_left (dvd_pow_self 2 (by omega)) m)
    rw [h] at h2
    omega

/-- The expression `(~T / (T + 1)) + 1` is `⌊2^256 / (T + 1)⌋` for every `T` in
`[1, 2^256 - 2]`; `GetWorkForDifficultyBits` returns it for a decoded target that is not
negative, does not overflow and is not zero, and `0` otherwise; and a decoded target is a
mantissa below `2^23` shifted by whole bytes, never `2^256 - 1`. -/
theorem GetWorkForDifficultyBits_eq :
    (∀ T : ArithUint256, 1 ≤ T.toNat → T.toNat ≤ 2 ^ 256 - 2 →
      ∃ w : ArithUint256, workOfTarget T = .ok w ∧ w.toNat = 2 ^ 256 / (T.toNat + 1)) ∧
    (∀ nBits : BitVec 32, GetWorkForDifficultyBits nBits =
      if (SetCompact nBits).2.1 || (SetCompact nBits).2.2 || (SetCompact nBits).1 == 0 then .ok 0
      else .ok (BitVec.ofNat 256 (2 ^ 256 / ((SetCompact nBits).1.toNat + 1)))) ∧
    (∀ nBits : BitVec 32, ∃ m k, m < 2 ^ 23 ∧
      (SetCompact nBits).1.toNat = m * 2 ^ (8 * k) % 2 ^ 256 ∧
      (SetCompact nBits).1.toNat ≠ 2 ^ 256 - 1) := by
  refine ⟨fun T h1 h2 => ⟨_, workOfTarget_ok h1 h2, ?_⟩, fun nBits => ?_, fun nBits => ?_⟩
  · rw [BitVec.toNat_ofNat, Nat.mod_eq_of_lt (Nat.div_lt_self (by positivity) (by omega))]
  · have hall := SetCompact_ne_allOnes nBits
    rcases hs : SetCompact nBits with ⟨T, neg, ovf⟩
    simp only [hs] at hall
    simp only [GetWorkForDifficultyBits, hs]
    split
    · rfl
    · have h0 : T.toNat ≠ 0 := by
        intro h; simp_all [BitVec.toNat_eq]
      exact workOfTarget_ok (by omega) (by have := T.isLt; omega)
  · obtain ⟨m, k, hm, hT⟩ := SetCompact_shape nBits
    exact ⟨m, k, hm, hT, SetCompact_ne_allOnes nBits⟩

/-- `GetWorkForDifficultyBits_eq` at the target `1`. -/
theorem workOfTarget_one :
    (1 ≤ (1 : ArithUint256).toNat ∧ (1 : ArithUint256).toNat ≤ 2 ^ 256 - 2) ∧
      ∃ w : ArithUint256, workOfTarget 1 = .ok w ∧
        w.toNat = 2 ^ 256 / ((1 : ArithUint256).toNat + 1) :=
  ⟨by decide, GetWorkForDifficultyBits_eq.1 1 (by decide) (by decide)⟩

end Membercoin
