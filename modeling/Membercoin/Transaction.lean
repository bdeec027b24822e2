import Membercoin.Amount

/-!
# Transactions and `CTransaction::GetValueOut`

The transaction records keep the fields that the modelled functions read: an output's
`nValue`, an input's `scriptSig`, a transaction's inputs and outputs.

`GetValueOut` adds the output values into an `int64_t` and, after each addition, checks the
output and the running sum with `MoneyRange`. The range check comes after the addition, so an
output value near `INT64_MAX` overflows the sum before it can be rejected.

* `GetValueOut_ok_iff`: `GetValueOut` returns exactly when every output is in `MoneyRange` and
  the total is at most `MAX_MONEY`, and then it returns the exact total.
* `GetValueOut_overflow`: the outputs `1, INT64_MAX` overflow the running sum.

`CalculateModifiedSize` takes off the size each input's overhead of 41 bytes and up to 110 bytes
of its `scriptSig`, in `unsigned int` arithmetic, but only while the size is larger.

* `CalculateModifiedSize_toNat`: no subtraction wraps; the result is `0` only for the size `0`,
  is the size less all the offsets when the size is larger than their sum, and at most `151`
  otherwise.
-/

namespace Membercoin

/-- `CTxIn`: the input's unlocking script (a coinbase input carries the block height there). -/
structure CTxIn where
  scriptSig : List (BitVec 8)

/-- `CTxOut`: the output's face value. -/
structure CTxOut where
  nValue : CAmount

/-- `CTransaction`: its inputs and outputs. -/
structure CTransaction where
  vin : List CTxIn
  vout : List CTxOut

/-- One pass of the loop of `GetValueOut`: `nValueOut += it->nValue`, then the range check. -/
def valueOutStep (nValueOut : CAmount) (out : CTxOut) : Result CAmount := do
  let nValueOut ← nValueOut.add out.nValue
  if !MoneyRange out.nValue || !MoneyRange nValueOut then
    .thrown "CTransaction::GetValueOut(): value out of range"
  else pure nValueOut

/-- `CTransaction::GetValueOut()`. -/
def CTransaction.GetValueOut (tx : CTransaction) : Result CAmount :=
  tx.vout.foldlM valueOutStep SInt.zero

/-- The sum of a list of output values, over the integers. -/
def sumValues (outs : List CTxOut) : Int := (outs.map fun o => o.nValue.val).sum

/-- A pass returns `s` exactly when the output and the new sum `s` are in `MoneyRange`. -/
theorem valueOutStep_eq_ok_iff {acc s : CAmount} {out : CTxOut} :
    valueOutStep acc out = .ok s ↔
      MoneyRange out.nValue ∧ MoneyRange s ∧ s.val = acc.val + out.nValue.val := by
  simp only [valueOutStep, Result.bind_eq_ok, SInt.add_eq_ok_iff]
  constructor
  · rintro ⟨a, ha, h⟩
    split at h
    · cases h
    · cases h; simp_all
  · rintro ⟨h1, h2, h3⟩
    exact ⟨s, h3, by simp [h1, h2]⟩

@[simp] theorem sumValues_nil : sumValues [] = 0 := rfl

@[simp] theorem sumValues_cons (o : CTxOut) (outs : List CTxOut) :
    sumValues (o :: outs) = o.nValue.val + sumValues outs := List.sum_cons

theorem sumValues_nonneg {outs : List CTxOut} (h : ∀ o ∈ outs, MoneyRange o.nValue) :
    0 ≤ sumValues outs := by
  induction outs with
  | nil => rfl
  | cons o outs ih =>
    rw [List.forall_mem_cons] at h
    have := ih h.2; have := (MoneyRange_iff _).mp h.1; rw [sumValues_cons]; omega

/-- The loop of `GetValueOut` from a running sum in range. -/
theorem foldlM_valueOutStep_eq_ok_iff (outs : List CTxOut) (acc : CAmount) {s : CAmount}
    (h0 : 0 ≤ acc.val)
    (h1 : acc.val ≤ MAX_MONEY) :
    outs.foldlM valueOutStep acc = .ok s ↔ (∀ o ∈ outs, MoneyRange o.nValue) ∧
      acc.val + sumValues outs ≤ MAX_MONEY ∧ s.val = acc.val + sumValues outs := by
  induction outs generalizing acc with
  | nil =>
    simp only [List.foldlM_nil, Result.pure_eq, Result.ok.injEq, SInt.ext_iff, sumValues_nil]
    exact ⟨fun h => ⟨by simp, by omega, by omega⟩, fun h => by omega⟩
  | cons o outs ih =>
    simp only [List.foldlM_cons, Result.bind_eq_ok, valueOutStep_eq_ok_iff,
      List.forall_mem_cons, sumValues_cons]
    constructor
    · rintro ⟨a, ⟨ho, ha, hav⟩, hrest⟩
      have ha' := (MoneyRange_iff a).mp ha
      obtain ⟨hall, hle, hs⟩ := (ih a ha'.1 ha'.2).mp hrest
      exact ⟨⟨ho, hall⟩, by omega, by omega⟩
    · rintro ⟨⟨ho, hall⟩, hle, hs⟩
      have hn := sumValues_nonneg hall
      have ho' := (MoneyRange_iff _).mp ho
      simp only [MAX_MONEY_eq] at ho' hle h1
      obtain ⟨a, hav⟩ : ∃ a : CAmount, a.val = acc.val + o.nValue.val :=
        ⟨⟨_, by omega, by omega⟩, rfl⟩
      refine ⟨a, ⟨ho, (MoneyRange_iff a).mpr ⟨by omega, by simp; omega⟩, hav⟩, ?_⟩
      exact (ih a (by omega) (by simp; omega)).mpr ⟨hall, by simp; omega, by omega⟩

/-- `GetValueOut` returns exactly when every output value is in `MoneyRange` and the total is at
most `MAX_MONEY`; it then returns the exact total. -/
theorem GetValueOut_ok_iff (tx : CTransaction) (s : CAmount) :
    tx.GetValueOut = .ok s ↔ (∀ o ∈ tx.vout, MoneyRange o.nValue) ∧
      sumValues tx.vout ≤ MAX_MONEY ∧ s.val = sumValues tx.vout := by
  simpa using foldlM_valueOutStep_eq_ok_iff tx.vout SInt.zero le_rfl (by simp)

/-- The outputs `1` and `INT64_MAX`: the second `nValueOut += it->nValue` overflows `int64_t`
before the range check can reject the value. -/
theorem GetValueOut_overflow :
    (CTransaction.mk [] [⟨⟨1, by norm_num⟩⟩, ⟨⟨9223372036854775807, by norm_num⟩⟩]).GetValueOut =
      .undefined := by
  decide

/-! ## The size for priority (`CalculateModifiedSize`) -/

/-- `unsigned int offset = 41U + std::min(110U, (unsigned int)it->scriptSig.size())`. -/
def modifiedSizeStep.offset (txin : CTxIn) : BitVec 32 :=
  let scriptSize := BitVec.ofNat 32 txin.scriptSig.length
  41 + (if scriptSize < 110 then scriptSize else 110)

/-- One pass of the loop of `CalculateModifiedSize`: the offset of the input comes off the size
when the size is larger. -/
def modifiedSizeStep (nSize : BitVec 32) (txin : CTxIn) : BitVec 32 :=
  let offset := modifiedSizeStep.offset txin
  if nSize > offset then nSize - offset else nSize

/-- `CTransaction::CalculateModifiedSize(nSize)`, where `GetTxSize()` is the serialized size. -/
def CTransaction.CalculateModifiedSize (GetTxSize : Nat) (tx : CTransaction) (nSize : BitVec 32) :
    BitVec 32 :=
  let nSize := if nSize = 0 then BitVec.ofNat 32 GetTxSize else nSize
  tx.vin.foldl modifiedSizeStep nSize

/-- The offset of an input, over the naturals: at least 41 and at most 151. -/
def modifiedOffset (txin : CTxIn) : Nat := 41 + min 110 (txin.scriptSig.length % 2 ^ 32)

theorem modifiedSizeStep.offset_toNat (txin : CTxIn) :
    (modifiedSizeStep.offset txin).toNat = modifiedOffset txin := by
  have h41 : (41 : BitVec 32).toNat = 41 := rfl
  have h110 : (110 : BitVec 32).toNat = 110 := rfl
  simp only [modifiedSizeStep.offset, modifiedOffset]
  split <;> rename_i h <;> rw [BitVec.lt_def, BitVec.toNat_ofNat, h110] at h <;>
    rw [BitVec.toNat_add, h41] <;> simp only [BitVec.toNat_ofNat, h110] <;> omega

theorem modifiedSizeStep_toNat (nSize : BitVec 32) (txin : CTxIn) :
    (modifiedSizeStep nSize txin).toNat =
      if modifiedOffset txin < nSize.toNat then nSize.toNat - modifiedOffset txin
      else nSize.toNat := by
  simp only [modifiedSizeStep, gt_iff_lt, BitVec.lt_def, modifiedSizeStep.offset_toNat]
  split
  · rw [BitVec.toNat_sub_of_le (by rw [BitVec.le_def, modifiedSizeStep.offset_toNat]; omega),
      modifiedSizeStep.offset_toNat]
  · rfl

/-- Over any inputs from any size: the size never grows, stays positive, loses every offset when
it is larger than their sum, and otherwise ends at most `151`. -/
theorem foldl_modifiedSizeStep (vin : List CTxIn) (nSize : BitVec 32) :
    (vin.foldl modifiedSizeStep nSize).toNat ≤ nSize.toNat ∧
      (0 < nSize.toNat → 0 < (vin.foldl modifiedSizeStep nSize).toNat) ∧
      ((vin.map modifiedOffset).sum < nSize.toNat →
        (vin.foldl modifiedSizeStep nSize).toNat = nSize.toNat - (vin.map modifiedOffset).sum) ∧
      (nSize.toNat ≤ (vin.map modifiedOffset).sum → (vin.foldl modifiedSizeStep nSize).toNat ≤ 151) := by
  induction vin generalizing nSize with
  | nil => simp only [List.foldl_nil, List.map_nil, List.sum_nil]; omega
  | cons txin vin ih =>
    have hstep := modifiedSizeStep_toNat nSize txin
    have hoff : 41 ≤ modifiedOffset txin ∧ modifiedOffset txin ≤ 151 := by
      simp only [modifiedOffset]; omega
    obtain ⟨hle, hpos, hsub, hsmall⟩ := ih (modifiedSizeStep nSize txin)
    simp only [List.foldl_cons, List.map_cons, List.sum_cons]
    split at hstep <;> omega

/-- `CalculateModifiedSize` from the size `start` (the argument, or the serialized size modulo
`2^32` for the argument `0`): the result is at most `start`, `0` only when `start` is, `start`
less the offsets of all inputs when `start` is larger than their sum, and otherwise at most
`151`. No subtraction wraps. -/
theorem CalculateModifiedSize_toNat (GetTxSize : Nat) (tx : CTransaction) (nSize : BitVec 32) :
    let start := if nSize = 0 then GetTxSize % 2 ^ 32 else nSize.toNat
    let r := (tx.CalculateModifiedSize GetTxSize nSize).toNat
    r ≤ start ∧ (r = 0 ↔ start = 0) ∧
      ((tx.vin.map modifiedOffset).sum < start → r = start - (tx.vin.map modifiedOffset).sum) ∧
      (start ≤ (tx.vin.map modifiedOffset).sum → r ≤ 151) := by
  have hstart : (if nSize = 0 then BitVec.ofNat 32 GetTxSize else nSize).toNat =
      if nSize = 0 then GetTxSize % 2 ^ 32 else nSize.toNat := by
    split <;> simp
  obtain ⟨hle, hpos, hsub, hsmall⟩ := foldl_modifiedSizeStep tx.vin
    (if nSize = 0 then BitVec.ofNat 32 GetTxSize else nSize)
  rw [hstart] at hle hpos hsub hsmall
  dsimp only [CTransaction.CalculateModifiedSize]
  generalize (if nSize = 0 then GetTxSize % 2 ^ 32 else nSize.toNat) = start at *
  exact ⟨hle, ⟨fun h => by by_contra hs; have := hpos (by omega); omega, fun h => by omega⟩,
    hsub, hsmall⟩

end Membercoin
