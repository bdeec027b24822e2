import Membercoin.Basic

/-!
# `arith_uint256`

`arith_uint256.cpp` is not among the sources, so the type is modelled from the spec's account of
it (§4.1): a 256-bit unsigned integer with wrapping arithmetic and a truncating divide, and the
compact encoding of a target as a one-byte exponent and a three-byte signed mantissa, whose
decoding flags negative and overflowing targets. The value is a `BitVec 256`: `*`, `+` and `~~~`
wrap modulo `2^256`; `ArithUint256.div` refuses a zero divisor.

* `SetCompact`: the decoded target with its negative and overflow flags.
* `SetCompact_shape`: a decoded target is a mantissa below `2^23` shifted by whole bytes.
-/

namespace Membercoin

/-- Modelled from the spec: `arith_uint256`, a 256-bit unsigned integer. -/
abbrev ArithUint256 := BitVec 256

namespace ArithUint256

/-- Modelled from the spec: `arith_uint256(uint64_t)`. -/
def ofUInt64 (x : BitVec 64) : ArithUint256 := x.setWidth 256

/-- Modelled from the spec: `GetLow64()`, the low 64 bits. -/
def GetLow64 (x : ArithUint256) : BitVec 64 := x.setWidth 64

/-- Modelled from the spec: the truncating divide `x / y`, an error when `y` is zero. -/
def div (x y : ArithUint256) : Result ArithUint256 :=
  if y = 0 then .thrown "Division by zero" else .ok (x / y)

@[simp] theorem ofUInt64_toNat (x : BitVec 64) : (ofUInt64 x).toNat = x.toNat := by
  simp only [ofUInt64, BitVec.toNat_setWidth]
  exact Nat.mod_eq_of_lt (lt_trans x.isLt (by norm_num))

@[simp] theorem GetLow64_toNat (x : ArithUint256) : (GetLow64 x).toNat = x.toNat % 2 ^ 64 :=
  BitVec.toNat_setWidth 64 x

theorem div_ok {x y : ArithUint256} (h : y ≠ 0) : div x y = .ok (x / y) := if_neg h

end ArithUint256

/-- Modelled from the spec: `SetCompact(nCompact, &fNegative, &fOverflow)`. The exponent
`nSize` is the top byte and the mantissa `nWord` the low 23 bits; a mantissa with an exponent
of at most 3 is shifted right, otherwise the value is shifted left by whole bytes. The result
is the target, `fNegative` and `fOverflow`. -/
def SetCompact (nCompact : BitVec 32) : ArithUint256 × Bool × Bool :=
  let nSize := (nCompact >>> 24).toNat
  let nWord : BitVec 32 :=
    if nSize ≤ 3 then (nCompact &&& 0x007fffff#32) >>> (8 * (3 - nSize))
    else nCompact &&& 0x007fffff#32
  let target : ArithUint256 :=
    if nSize ≤ 3 then nWord.setWidth 256 else nWord.setWidth 256 <<< (8 * (nSize - 3))
  let fNegative := nWord != 0 && nCompact &&& 0x00800000#32 != 0
  let fOverflow := nWord != 0 &&
    (decide (nSize > 34) || (decide (nWord > 0xff#32) && decide (nSize > 33)) ||
      (decide (nWord > 0xffff#32) && decide (nSize > 32)))
  (target, fNegative, fOverflow)

/-- A decoded target is a mantissa below `2^23` shifted left by a whole number of bytes. -/
theorem SetCompact_shape (nCompact : BitVec 32) :
    ∃ m k, m < 2 ^ 23 ∧ (SetCompact nCompact).1.toNat = m * 2 ^ (8 * k) % 2 ^ 256 := by
  have hw : (nCompact &&& 0x007fffff#32).toNat < 2 ^ 23 := by
    rw [BitVec.toNat_and]
    exact lt_of_le_of_lt Nat.and_le_right (by decide)
  simp only [SetCompact]
  split
  · refine ⟨((nCompact &&& 0x007fffff#32) >>> (8 * (3 - (nCompact >>> 24).toNat))).toNat, 0,
      ?_, ?_⟩
    · rw [BitVec.toNat_ushiftRight, Nat.shiftRight_eq_div_pow]
      exact lt_of_le_of_lt (Nat.div_le_self _ _) hw
    · simp only [BitVec.toNat_setWidth, mul_zero, pow_zero, mul_one]
  · refine ⟨(nCompact &&& 0x007fffff#32).toNat, (nCompact >>> 24).toNat - 3, hw, ?_⟩
    simp only [BitVec.toNat_shiftLeft, BitVec.toNat_setWidth, Nat.shiftLeft_eq]
    rw [Nat.mod_eq_of_lt (lt_trans hw (by norm_num))]

end Membercoin
