import Membercoin.Transaction
import Membercoin.Script

/-!
# Transactions with every field (`CMutableTransaction`, `CTransaction::HasData`)

`bitcoin-tx` edits a `CMutableTransaction`: its version, its inputs (the outpoint each one spends,
its script and its sequence number), its outputs (a value and a script) and its lock time. The
records of `Membercoin.Transaction` keep only the fields that `GetValueOut` and `GetHeight` read;
`CTxIn.Full` and `CTxOut.Full` extend them with the others, and `toCTransaction` forgets them again.

`HasData()` looks for an output whose script starts with `OP_RETURN`. `HasData(dataID)` looks for
one whose script is `OP_RETURN`, a push of four bytes, and `dataID` in those bytes, read by
`ReadLE32`. The opcode `OP_RETURN` of `script.h` is a parameter.

* `HasData_of_HasDataID`: an output tagged with a protocol id is a data output.
* `IsTaggedOutput_push`: a script `OP_RETURN, 4, d₀ d₁ d₂ d₃` tags its output with the
  little-endian value of the four bytes.
-/

namespace Membercoin

deriving instance DecidableEq for CTxIn
deriving instance DecidableEq for CTxOut

/-- A script, as its bytes. -/
abbrev CScript := List (BitVec 8)

/-- `COutPoint`: the id of a transaction and the index of one of its outputs. -/
structure COutPoint where
  hash : BitVec 256
  n : BitVec 32
deriving DecidableEq

/-- `CTxIn` with every field: the outpoint it spends and its sequence number. -/
structure CTxIn.Full extends CTxIn where
  prevout : COutPoint
  nSequence : BitVec 32
deriving DecidableEq

/-- `CTxOut` with every field: its script besides its value. -/
structure CTxOut.Full extends CTxOut where
  scriptPubKey : CScript
deriving DecidableEq

/-- `CMutableTransaction`. -/
structure CMutableTransaction where
  nVersion : CInt
  vin : List CTxIn.Full
  vout : List CTxOut.Full
  nLockTime : BitVec 32
deriving DecidableEq

/-- The transaction with the fields the records of `Membercoin.Transaction` keep. -/
def CMutableTransaction.toCTransaction (tx : CMutableTransaction) : CTransaction :=
  ⟨tx.vin.map (·.toCTxIn), tx.vout.map (·.toCTxOut)⟩

/-! ## `IsEquivalentTo` -/

/-- The input with its script cleared: `tx1.vin[i].scriptSig = CScript()`. -/
def CTxIn.Full.clearScriptSig (txin : CTxIn.Full) : CTxIn.Full := { txin with scriptSig := [] }

/-- `CTransaction::IsEquivalentTo(tx)`: the transactions agree once every input's script is
cleared. The source compares the two transactions by their hashes; the model compares what they
hash. -/
def CMutableTransaction.IsEquivalentTo (tx tx' : CMutableTransaction) : Bool :=
  { tx with vin := tx.vin.map CTxIn.Full.clearScriptSig } ==
    { tx' with vin := tx'.vin.map CTxIn.Full.clearScriptSig }

/-- Two transactions are equivalent when they agree everywhere but in the inputs' scripts. -/
theorem CMutableTransaction.IsEquivalentTo_of_eq {tx tx' : CMutableTransaction}
    (hv : tx.nVersion = tx'.nVersion) (ho : tx.vout = tx'.vout) (hl : tx.nLockTime = tx'.nLockTime)
    (hlen : tx.vin.length = tx'.vin.length)
    (hin : ∀ i (h : i < tx.vin.length) (h' : i < tx'.vin.length),
      tx.vin[i].prevout = tx'.vin[i].prevout ∧ tx.vin[i].nSequence = tx'.vin[i].nSequence) :
    tx.IsEquivalentTo tx' := by
  have hvin : tx.vin.map CTxIn.Full.clearScriptSig = tx'.vin.map CTxIn.Full.clearScriptSig :=
    List.ext_getElem (by simpa using hlen) fun i h h' => by
      simp only [List.getElem_map, CTxIn.Full.clearScriptSig]
      obtain ⟨hp, hs⟩ := hin i (by simpa using h) (by simpa using h')
      rw [hp, hs]
  simp [CMutableTransaction.IsEquivalentTo, hv, ho, hl, hvin]

/-! ## `HasData` -/

section HasData

variable (OP_RETURN : BitVec 8)

/-- `ReadLE32(p)`: the four bytes at `p`, little-endian. -/
def ReadLE32 (p : List (BitVec 8)) : BitVec 32 := BitVec.ofNat 32 (leValue (p.take 4))

/-- The test of `HasData()` on one output. -/
def IsDataOutput (out : CTxOut.Full) : Bool :=
  decide (1 ≤ out.scriptPubKey.length) && out.scriptPubKey.getD 0 0 == OP_RETURN

/-- The test of `HasData(dataID)` on one output: a 4-byte push after `OP_RETURN` (the pushdata
opcode of four bytes is the byte `4`), holding `dataID`. -/
def IsTaggedOutput (dataID : BitVec 32) (out : CTxOut.Full) : Bool :=
  decide (6 ≤ out.scriptPubKey.length) && out.scriptPubKey.getD 0 0 == OP_RETURN &&
    out.scriptPubKey.getD 1 0 == 4 && ReadLE32 (out.scriptPubKey.drop 2) == dataID

/-- `CTransaction::HasData()`. -/
def CMutableTransaction.HasData (tx : CMutableTransaction) : Bool :=
  tx.vout.any (IsDataOutput OP_RETURN)

/-- `CTransaction::HasData(dataID)`. -/
def CMutableTransaction.HasDataID (tx : CMutableTransaction) (dataID : BitVec 32) : Bool :=
  tx.vout.any (IsTaggedOutput OP_RETURN dataID)

theorem IsDataOutput_of_IsTaggedOutput {dataID : BitVec 32} {out : CTxOut.Full}
    (h : IsTaggedOutput OP_RETURN dataID out) : IsDataOutput OP_RETURN out := by
  simp only [IsTaggedOutput, IsDataOutput, Bool.and_eq_true, decide_eq_true_eq] at h ⊢
  exact ⟨by omega, h.1.1.2⟩

/-- An output tagged with a protocol id is a data output. -/
theorem HasData_of_HasDataID (tx : CMutableTransaction) (dataID : BitVec 32)
    (h : tx.HasDataID OP_RETURN dataID) : tx.HasData OP_RETURN := by
  obtain ⟨out, hm, ho⟩ := List.any_eq_true.mp h
  exact List.any_eq_true.mpr ⟨out, hm, IsDataOutput_of_IsTaggedOutput OP_RETURN ho⟩

/-- The script `OP_RETURN, 4, d` of four data bytes `d` tags its output with their little-endian
value. -/
theorem IsTaggedOutput_push (out : CTxOut.Full) {d : List (BitVec 8)} (hd : d.length = 4)
    (h : out.scriptPubKey = OP_RETURN :: 4 :: d) :
    IsTaggedOutput OP_RETURN (BitVec.ofNat 32 (leValue d)) out := by
  simp [IsTaggedOutput, h, hd, ReadLE32, List.take_of_length_le (le_of_eq hd)]

end HasData

end Membercoin
