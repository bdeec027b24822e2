import Membercoin.Basic

/-!
# Script numbers (`CScriptNum`)

`script.h` is not under `src/`: the opcodes `GetHeight` compares with are parameters
(`Opcodes`), and `CScriptNum` is modelled from the spec's "minimally-encoded script number", a
little-endian sign-magnitude byte string whose top bit is the sign.

* `leValue_leBytes`: the little-endian bytes of `n` read back as `n`.
* `minimalEncoding_length_le`: a value below `2^31` takes at most four bytes.
* `ofVch_minimalEncoding`: `CScriptNum` decodes the minimal encoding of every positive value
  within `nMaxNumSize ≤ 8` bytes back to that value.
-/

namespace Membercoin

/-- The opcodes of `script.h` that `GetHeight` reads. A byte `n` in `1..75` pushes the next `n`
bytes; `OP_0` and the sixteen consecutive `OP_1..OP_16` push `0` and `1..16`, and none of them is
a direct push. -/
structure Opcodes where
  OP_0 : Nat
  OP_1 : Nat
  OP_16 : Nat
  OP_16_eq : OP_16 = OP_1 + 15
  OP_16_lt : OP_16 < 256
  OP_0_lt : OP_0 < OP_1
  push_lt : 75 < OP_1
  OP_0_not_push : OP_0 = 0 ∨ 75 < OP_0

/-! ## Little-endian bytes -/

/-- The value of a little-endian byte string. The loop of `set_vch` ORs byte `i` in at bit
`8 * i`; the bytes occupy disjoint bits, so the OR is this sum. -/
def leValue : List (BitVec 8) → Nat
  | [] => 0
  | b :: bs => b.toNat + 256 * leValue bs

/-- The shortest little-endian bytes of `n`: none for `0`. -/
def leBytes (n : Nat) : List (BitVec 8) :=
  if h : n = 0 then [] else BitVec.ofNat 8 (n % 256) :: leBytes (n / 256)
termination_by n
decreasing_by omega

@[simp] theorem leValue_nil : leValue [] = 0 := rfl

@[simp] theorem leValue_cons (b : BitVec 8) (bs : List (BitVec 8)) :
    leValue (b :: bs) = b.toNat + 256 * leValue bs := rfl

@[simp] theorem leBytes_zero : leBytes 0 = [] := by
  rw [leBytes]; rfl

theorem leBytes_of_pos {n : Nat} (h : 0 < n) :
    leBytes n = BitVec.ofNat 8 (n % 256) :: leBytes (n / 256) := by
  rw [leBytes, dif_neg (by omega)]

/-- A trailing zero byte does not change the value. -/
@[simp] theorem leValue_append_zero (l : List (BitVec 8)) : leValue (l ++ [0]) = leValue l := by
  induction l with
  | nil => rfl
  | cons b bs ih => rw [List.cons_append, leValue_cons, leValue_cons, ih]

theorem leValue_leBytes (n : Nat) : leValue (leBytes n) = n := by
  induction n using Nat.strong_induction_on with
  | _ n ih =>
    rcases Nat.eq_zero_or_pos n with rfl | h
    · simp
    · rw [leBytes_of_pos h, leValue_cons, ih _ (Nat.div_lt_self h (by norm_num)),
        BitVec.toNat_ofNat]
      omega

theorem leBytes_length_le {n k : Nat} (h : n < 256 ^ k) : (leBytes n).length ≤ k := by
  induction k generalizing n with
  | zero => rw [Nat.lt_one_iff.mp h, leBytes_zero]; rfl
  | succ k ih =>
    rcases Nat.eq_zero_or_pos n with rfl | hn
    · simp
    · rw [leBytes_of_pos hn, List.length_cons]
      exact Nat.succ_le_succ (ih (Nat.div_lt_of_lt_mul (by rw [← pow_succ']; exact h)))

/-- The last byte of the bytes of a positive `n` is its top byte, `n / 256^k` for `k + 1`
bytes. -/
theorem leBytes_getLastD {n : Nat} (h : 0 < n) (d : BitVec 8) :
    ∃ k, (leBytes n).length = k + 1 ∧
      (leBytes n).getLastD d = BitVec.ofNat 8 (n / 256 ^ k) := by
  induction n using Nat.strong_induction_on generalizing d with
  | _ n ih =>
    rw [leBytes_of_pos h]
    rcases Nat.eq_zero_or_pos (n / 256) with h0 | hpos
    · refine ⟨0, by rw [List.length_cons, h0, leBytes_zero]; rfl, ?_⟩
      rw [h0, leBytes_zero, List.getLastD_cons, List.getLastD_nil, pow_zero, Nat.div_one,
        Nat.mod_eq_of_lt (by omega)]
    · obtain ⟨k, hk, hl⟩ :=
        ih _ (Nat.div_lt_self h (by norm_num)) hpos (BitVec.ofNat 8 (n % 256))
      refine ⟨k + 1, by rw [List.length_cons, hk], ?_⟩
      rw [List.getLastD_cons, hl, Nat.div_div_eq_div_mul, ← pow_succ']

/-! ## `CScriptNum` -/

/-- Modelled from the spec: `CScriptNum`, a script number held as an `int64_t`. -/
structure CScriptNum where
  m_value : Int

namespace CScriptNum

/-- Modelled from the spec: `set_vch(vch)`, the little-endian sign-magnitude value of `vch`. The
sign is the top bit of the last byte (`vch.back() & 0x80`); the magnitude is the value with that
bit cleared. The shift by `8 * i` of the loop is undefined from the ninth byte on. -/
def set_vch (vch : List (BitVec 8)) : Result Int :=
  if vch = [] then pure 0
  else if 8 < vch.length then .undefined
  else if (vch.getLastD 0).msb then pure (-((leValue vch % 2 ^ (8 * vch.length - 1) : Nat) : Int))
  else pure (leValue vch)

/-- Modelled from the spec: `CScriptNum(vch, fRequireMinimal, nMaxNumSize)`. A string longer
than `nMaxNumSize` is refused; with `fRequireMinimal`, so is one whose last byte carries no
magnitude bit unless the byte before needs the sign byte. -/
def ofVch (vch : List (BitVec 8)) (fRequireMinimal : Bool) (nMaxNumSize : Nat) :
    Result CScriptNum :=
  if nMaxNumSize < vch.length then .thrown "script number overflow"
  else if fRequireMinimal && vch ≠ [] && (vch.getLastD 0 &&& 0x7f) == 0 &&
      (vch.length ≤ 1 || !(vch.getD (vch.length - 2) 0).msb) then
    .thrown "non-minimally encoded script number"
  else do
    let m_value ← set_vch vch
    pure ⟨m_value⟩

/-- Modelled from the spec: `getint()`, the value clamped to the `int` range. -/
def getint (n : CScriptNum) : Int :=
  if n.m_value > 2 ^ 31 - 1 then 2 ^ 31 - 1
  else if n.m_value < -2 ^ 31 then -2 ^ 31
  else n.m_value

end CScriptNum

/-! ## The minimal encoding of a height -/

/-- The spec's minimal little-endian sign-magnitude encoding of a non-negative value: its
shortest little-endian bytes, and a `0x00` sign byte when the top byte has its top bit set. -/
def minimalEncoding (n : Nat) : List (BitVec 8) :=
  if 128 ≤ ((leBytes n).getLastD 0).toNat then leBytes n ++ [0] else leBytes n

theorem leValue_minimalEncoding (n : Nat) : leValue (minimalEncoding n) = n := by
  unfold minimalEncoding
  split
  · rw [leValue_append_zero, leValue_leBytes]
  · exact leValue_leBytes n

/-- The sign bit of the last byte of a minimal encoding is clear. -/
theorem minimalEncoding_getLastD_msb (n : Nat) : ((minimalEncoding n).getLastD 0).msb = false := by
  unfold minimalEncoding
  split
  · rw [List.getLastD_concat]; rfl
  · rw [BitVec.msb_eq_decide, decide_eq_false_iff_not]; omega

theorem minimalEncoding_ne_nil {n : Nat} (h : 0 < n) : minimalEncoding n ≠ [] := by
  unfold minimalEncoding
  split
  · simp
  · rw [leBytes_of_pos h]; simp

/-- A value below `2^31` takes at most four bytes: four magnitude bytes leave the top bit of
the top byte clear. -/
theorem minimalEncoding_length_le {n : Nat} (h : n < 2 ^ 31) :
    (minimalEncoding n).length ≤ 4 := by
  rcases Nat.eq_zero_or_pos n with rfl | hn
  · simp [minimalEncoding]
  have h4 : (leBytes n).length ≤ 4 := leBytes_length_le (by omega)
  obtain ⟨k, hk, hl⟩ := leBytes_getLastD hn 0
  unfold minimalEncoding
  split
  · rename_i htop
    rw [List.length_append, List.length_singleton]
    have hk3 : k ≠ 3 := by
      rintro rfl
      rw [hl, BitVec.toNat_ofNat] at htop
      omega
    omega
  · exact h4

/-- `CScriptNum` reads the minimal encoding of a positive value back, whenever it is within
`nMaxNumSize ≤ 8` bytes. -/
theorem ofVch_minimalEncoding {n : Nat} (h : 0 < n) {nMaxNumSize : Nat}
    (hlen : (minimalEncoding n).length ≤ nMaxNumSize) (h8 : nMaxNumSize ≤ 8) :
    CScriptNum.ofVch (minimalEncoding n) false nMaxNumSize = .ok ⟨n⟩ := by
  simp only [CScriptNum.ofVch, CScriptNum.set_vch, if_neg (Nat.not_lt.mpr hlen),
    Bool.false_and, Bool.false_eq_true, if_false, if_neg (minimalEncoding_ne_nil h),
    if_neg (show ¬8 < (minimalEncoding n).length by omega), minimalEncoding_getLastD_msb,
    leValue_minimalEncoding, Result.pure_eq, Result.ok_bind]

end Membercoin
