import Membercoin.Transaction
import Membercoin.Script

/-!
# The height in the coinbase (`CBlock::GetHeight`)

From version 2 on, a block carries its height at the start of the coinbase's `scriptSig`:
`OP_0`, one of `OP_1..OP_16`, or a direct push of a script number. `GetHeight` reads the first
byte of the script as `numlen` and decodes the pushed bytes with `CScriptNum`.

* `GetHeight_heightPush`: for every height below `2^31` and every block of version at least 2
  whose coinbase script starts with the minimal push of that height, followed by any bytes,
  `GetHeight` returns the height.
* `VersionKnown_iff`: `VersionKnown` accepts the versions `1` to `4` and the versions with the
  BIP 9 bit set whose other set bits are all vote bits.
-/

namespace Membercoin

/-- `CBlock`: the header's version and the transactions. -/
structure CBlock where
  nVersion : CInt
  vtx : List CTransaction

/-- `vtx[0]->vin[0].scriptSig`: `none` when the block has no transaction or its first transaction
has no input, where the indexing is undefined. -/
def CBlock.coinbaseScriptSig (block : CBlock) : Option (List (BitVec 8)) := do
  let tx ← block.vtx.head?
  let txin ← tx.vin.head?
  pure txin.scriptSig

/-- `CBlock::GetHeight()`. `sig[0]` of an empty script is undefined; `numlen` is the first byte
as an `int`, and the result is the `int` of `getint()` converted to `uint64_t`. -/
def CBlock.GetHeight (op : Opcodes) (block : CBlock) : Result (BitVec 64) :=
  if block.nVersion.val < 2 then .thrown "Block does not contain height"
  else
    match block.coinbaseScriptSig with
    | none => .undefined
    | some sig =>
      match sig.head? with
      | none => .undefined
      | some b =>
        let numlen : Int := b.toNat
        if numlen = op.OP_0 then pure 0
        else if op.OP_1 ≤ numlen ∧ numlen ≤ op.OP_16 then
          pure (BitVec.ofInt 64 (numlen - op.OP_1 + 1))
        else if (sig.length : Int) - 1 < numlen then .thrown "Invalid block height"
        else do
          let heightScript := (sig.drop 1).take numlen.toNat
          let coinbaseHeight ← CScriptNum.ofVch heightScript false numlen.toNat
          pure (BitVec.ofInt 64 coinbaseHeight.getint)

/-- The spec's push of a coinbase height: `OP_0` for `0`, `OP_1..OP_16` for `1..16`, and
otherwise a direct push of the minimal encoding. -/
def heightPush (op : Opcodes) (h : Nat) : List (BitVec 8) :=
  if h = 0 then [BitVec.ofNat 8 op.OP_0]
  else if h ≤ 16 then [BitVec.ofNat 8 (op.OP_1 + h - 1)]
  else BitVec.ofNat 8 (minimalEncoding h).length :: minimalEncoding h

section Decode

variable (op : Opcodes) (block : CBlock) (suffix : List (BitVec 8))

/-- The branches of `GetHeight` after the version check, on a script that starts with the byte
`b`. -/
theorem GetHeight_of_script (b : BitVec 8) (bs : List (BitVec 8))
    (hv : 2 ≤ block.nVersion.val) (hsig : block.coinbaseScriptSig = some (b :: bs)) :
    block.GetHeight op =
      if (b.toNat : Int) = op.OP_0 then pure 0
      else if op.OP_1 ≤ (b.toNat : Int) ∧ (b.toNat : Int) ≤ op.OP_16 then
        pure (BitVec.ofInt 64 (b.toNat - op.OP_1 + 1))
      else if (bs.length : Int) < b.toNat then .thrown "Invalid block height"
      else CScriptNum.ofVch (bs.take b.toNat) false b.toNat >>= fun coinbaseHeight =>
        pure (BitVec.ofInt 64 coinbaseHeight.getint) := by
  rw [CBlock.GetHeight, if_neg (by omega), hsig]
  simp only [List.head?_cons, List.length_cons, List.drop_one, List.tail_cons, Int.toNat_ofNat]
  congr 2
  simp only [Nat.cast_add, Nat.cast_one, add_sub_cancel_right]

/-- Every height below `2^31`, pushed minimally at the start of the coinbase script of a block of
version at least 2, is decoded back by `GetHeight`, whatever bytes follow. -/
theorem GetHeight_heightPush (h : Nat) (hh : h < 2 ^ 31) (hv : 2 ≤ block.nVersion.val)
    (hsig : block.coinbaseScriptSig = some (heightPush op h ++ suffix)) :
    block.GetHeight op = .ok (BitVec.ofNat 64 h) := by
  have h16 := op.OP_16_eq
  have h256 := op.OP_16_lt
  have h01 := op.OP_0_lt
  rcases Nat.eq_zero_or_pos h with rfl | hpos
  · rw [GetHeight_of_script op block _ suffix hv (by simpa [heightPush] using hsig),
      BitVec.toNat_ofNat, if_pos (by omega)]
    rfl
  rcases Nat.lt_or_ge h 17 with hsmall | hlarge
  · rw [GetHeight_of_script op block _ suffix hv
      (by simpa [heightPush, Nat.pos_iff_ne_zero.mp hpos, Nat.lt_succ_iff.mp hsmall] using hsig),
      BitVec.toNat_ofNat, if_neg (by omega), if_pos (by omega)]
    have : (((op.OP_1 + h - 1) % 2 ^ 8 : Nat) : Int) - op.OP_1 + 1 = (h : Int) := by omega
    rw [this, BitVec.ofInt_natCast]
    rfl
  · have hL := minimalEncoding_length_le hh
    have hL0 := List.length_pos.mpr (minimalEncoding_ne_nil hpos)
    have hpush := op.push_lt
    have hop0 := op.OP_0_not_push
    rw [GetHeight_of_script op block _ (minimalEncoding h ++ suffix) hv
      (by simpa [heightPush, show h ≠ 0 by omega, show ¬h ≤ 16 by omega] using hsig),
      BitVec.toNat_ofNat,
      Nat.mod_eq_of_lt (by omega), if_neg (by omega), if_neg (by omega),
      if_neg (by simp only [List.length_append]; omega), List.take_left' rfl,
      ofVch_minimalEncoding hpos le_rfl (by omega), Result.ok_bind]
    simp only [CScriptNum.getint, if_neg (show ¬(h : Int) > 2 ^ 31 - 1 by omega),
      if_neg (show ¬(h : Int) < -2 ^ 31 by omega), BitVec.ofInt_natCast, Result.pure_eq]

end Decode

/-- `GetHeight_heightPush` at height 500000, under the opcode values of Bitcoin's script format
(`OP_0 = 0x00`, `OP_1 = 0x51`, `OP_16 = 0x60`), with one byte after the push. -/
theorem GetHeight_heightPush_500000 :
    (500000 < 2 ^ 31 ∧ 2 ≤ (2 : Int) ∧
      (CBlock.mk ⟨2, by decide⟩ [⟨[⟨heightPush ⟨0x00, 0x51, 0x60, rfl, by decide,
        by decide, by decide, Or.inl rfl⟩ 500000 ++ [0x2a]⟩], []⟩]).coinbaseScriptSig =
        some (heightPush ⟨0x00, 0x51, 0x60, rfl, by decide, by decide, by decide, Or.inl rfl⟩
          500000 ++ [0x2a])) ∧
    (CBlock.mk ⟨2, by decide⟩ [⟨[⟨heightPush ⟨0x00, 0x51, 0x60, rfl, by decide, by decide,
        by decide, Or.inl rfl⟩ 500000 ++ [0x2a]⟩], []⟩]).GetHeight
      ⟨0x00, 0x51, 0x60, rfl, by decide, by decide, by decide, Or.inl rfl⟩ =
      .ok (BitVec.ofNat 64 500000) :=
  ⟨⟨by decide, by decide, rfl⟩,
    GetHeight_heightPush _ _ _ 500000 (by decide) (by decide) rfl⟩

/-! ## Known versions (`CBlock::VersionKnown`) -/

/-- `BIP_009_MASK`: the bit that marks a version of BIP 9 votes. -/
def BIP_009_MASK : BitVec 32 := 0x20000000

/-- `CBlock::VersionKnown(nVersion, voteBits)`: the versions `1` to `4`, and the BIP 9 versions
whose other bits are among the vote bits. The bit operations convert the `int32_t`s to
`uint32_t`. -/
def CBlock.VersionKnown (nVersion voteBits : CInt) : Bool :=
  if nVersion.val ≥ 1 ∧ nVersion.val ≤ 4 then true
  else if BitVec.ofInt 32 nVersion.val &&& BIP_009_MASK ≠ 0 then
    let v := BitVec.ofInt 32 nVersion.val &&& ~~~BIP_009_MASK
    v &&& ~~~BitVec.ofInt 32 voteBits.val == 0
  else false

theorem BIP_009_MASK_eq : BIP_009_MASK = BitVec.twoPow 32 29 := by decide

/-- `x & ~y` is zero exactly when every bit of `x` is a bit of `y`. -/
theorem and_not_eq_zero_iff {x y : BitVec 32} :
    x &&& ~~~y = 0 ↔ ∀ i, x.getLsbD i → y.getLsbD i := by
  constructor
  · intro h i hi
    have := congrArg (·.getLsbD i) h
    simpa [BitVec.lt_of_getLsbD hi, hi] using this
  · intro h
    apply BitVec.eq_of_getLsbD_eq
    intro i
    cases hx : x.getLsbD i <;> simp [hx, h i]

theorem and_BIP_009_MASK_ne_zero_iff {x : BitVec 32} : x &&& BIP_009_MASK ≠ 0 ↔ x.getLsbD 29 := by
  constructor
  · intro h
    by_contra h29
    exact h (BitVec.eq_of_getLsbD_eq fun i => by
      by_cases hi : (i : Nat) = 29
      · simp [BIP_009_MASK_eq, hi, h29]
      · simp [BIP_009_MASK_eq, Ne.symm hi])
  · intro h29 h
    have := congrArg (·.getLsbD 29) h
    simp [BIP_009_MASK_eq, h29] at this

/-- The known versions: `1` to `4`, and every version with bit 29 set whose other set bits are
vote bits. -/
theorem VersionKnown_iff (nVersion voteBits : CInt) :
    CBlock.VersionKnown nVersion voteBits ↔ (1 ≤ nVersion.val ∧ nVersion.val ≤ 4) ∨
      ((BitVec.ofInt 32 nVersion.val).getLsbD 29 ∧ ∀ i, i ≠ 29 →
        (BitVec.ofInt 32 nVersion.val).getLsbD i → (BitVec.ofInt 32 voteBits.val).getLsbD i) := by
  unfold CBlock.VersionKnown
  split_ifs with h14 hbip
  · simpa using Or.inl h14
  · rw [and_BIP_009_MASK_ne_zero_iff] at hbip
    simp only [beq_iff_eq, and_not_eq_zero_iff, BitVec.getLsbD_and, BitVec.getLsbD_not,
      BIP_009_MASK_eq, BitVec.getLsbD_twoPow, Bool.and_eq_true, Bool.not_eq_true',
      decide_eq_false_iff_not, hbip, true_and]
    constructor
    · intro h
      exact Or.inr fun i hi hx =>
        h i ⟨hx, by simpa using BitVec.lt_of_getLsbD hx, by simp [Ne.symm hi]⟩
    · rintro (h | h) i ⟨hx, -, hi⟩
      · omega
      · exact h i (by rintro rfl; simp at hi) hx
  · rw [and_BIP_009_MASK_ne_zero_iff] at hbip
    simp [hbip]
    omega

/-- A BIP 9 version voting for bit 1 is known when bit 1 is a vote bit, and not otherwise. -/
example : CBlock.VersionKnown ⟨0x20000002, by norm_num⟩ ⟨2, by norm_num⟩ = true ∧
    CBlock.VersionKnown ⟨0x20000002, by norm_num⟩ ⟨1, by norm_num⟩ = false := by
  decide

end Membercoin
