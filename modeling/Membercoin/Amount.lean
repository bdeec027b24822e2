import Membercoin.Basic

/-!
# Amounts (`amount.h`)

`CAmount` is `int64_t`, a count of satoshi. `MoneyRange` is the consensus range check
`0 ≤ nValue ≤ MAX_MONEY`. An amount meets `uint64_t` arithmetic through the two integral
conversions: to unsigned modulo `2^64` (`CAmount.toUInt64`), and back by the two's-complement
reading (`CAmount.ofUInt64`). Both are the identity on what a valid amount can hold
(`toUInt64_toNat`, `ofUInt64_val`).
-/

namespace Membercoin

/-- `typedef int64_t CAmount`. -/
abbrev CAmount := SInt 64

/-- `COIN`: satoshi per coin. -/
def COIN : Int := 100000000

/-- `MAX_MONEY`: no amount larger than this (in satoshi) is valid. -/
def MAX_MONEY : Int := 1000000000 * COIN

/-- `MoneyRange(nValue)`. -/
def MoneyRange (nValue : CAmount) : Bool := nValue.val ≥ 0 && nValue.val ≤ MAX_MONEY

@[simp] theorem MAX_MONEY_eq : MAX_MONEY = 100000000000000000 := rfl

@[simp] theorem MoneyRange_iff (nValue : CAmount) :
    MoneyRange nValue = true ↔ 0 ≤ nValue.val ∧ nValue.val ≤ MAX_MONEY := by
  simp [MoneyRange]

namespace CAmount

/-- The conversion of an amount to `uint64_t` (modulo `2^64`). -/
def toUInt64 (a : CAmount) : BitVec 64 := BitVec.ofInt 64 a.val

/-- The conversion of a `uint64_t` to `CAmount` (two's complement). -/
def ofUInt64 (x : BitVec 64) : CAmount :=
  ⟨x.toInt, by have := x.isLt; rw [BitVec.toInt_eq_toNat_cond]; split <;> omega⟩

theorem toUInt64_toNat {a : CAmount} (h : 0 ≤ a.val) : a.toUInt64.toNat = a.val.toNat := by
  have := a.range
  rw [toUInt64, BitVec.toNat_ofInt]; omega

theorem ofUInt64_val {x : BitVec 64} (h : x.toNat < 2 ^ 63) : (ofUInt64 x).val = x.toNat := by
  simp only [ofUInt64, BitVec.toInt_eq_toNat_cond]; split <;> omega

end CAmount

end Membercoin
