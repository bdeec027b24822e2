import Membercoin.Transaction.Mutable
import Membercoin.UniValue

/-!
# What the commands of `bitcoin-tx` call

`std::string::find(c)` is the index of the first `c`, or `npos = SIZE_MAX` when there is none, and
`substr(pos)` is the text from `pos` on. Every call in `bitcoin-tx` passes a position within the
string, so `substr` never throws there. `boost::split(v, s, is_any_of(":"))` cuts `s` at every
`':'` and keeps the empty pieces. Positions count characters: `':'` and `'='` are single bytes of
UTF-8, so the pieces are those the byte positions of `std::string` give, and where the code
compares a size with a number the model takes the size in bytes.

The functions of the other libraries that the commands call (number and money parsers, address
and script encoders, the key store, the signer, the file system) are the parameters of
`BitcoinTxLib`: `D` is the type of destinations, `J` of JSON values and `Key` of private keys.
-/

namespace Membercoin

/-- `std::string::npos`. -/
def npos : Nat := 2 ^ 64 - 1

/-- `s.find(c)`. -/
def strFind (s : String) (c : Char) : Nat :=
  if c ∈ s.toList then s.toList.indexOf c else npos

/-- `s.substr(0, n)`. -/
def strPrefix (s : String) (n : Nat) : String := ⟨s.toList.take n⟩

/-- `s.substr(pos)`. -/
def strSuffix (s : String) (pos : Nat) : String := ⟨s.toList.drop pos⟩

/-- The pieces of `boost::split` at `sep`, after the piece `cur` read so far (reversed). -/
def splitAt (sep : Char) : List Char → List Char → List (List Char)
  | [], cur => [cur.reverse]
  | c :: cs, cur => if c = sep then cur.reverse :: splitAt sep cs [] else splitAt sep cs (c :: cur)

/-- `boost::split(v, s, boost::is_any_of(":"))`. -/
def boostSplit (s : String) : List String := (splitAt ':' s.toList []).map String.mk

/-- Text without `sep` ends in one piece. -/
theorem splitAt_of_not_mem {sep : Char} {cs : List Char} (h : sep ∉ cs) (cur : List Char) :
    splitAt sep cs cur = [cur.reverse ++ cs] := by
  induction cs generalizing cur with
  | nil => simp [splitAt]
  | cons c cs ih =>
    simp only [List.mem_cons, not_or] at h
    rw [splitAt, if_neg (Ne.symm h.1), ih h.2]
    simp

/-- A `sep` after text without one ends a piece. -/
theorem splitAt_append {sep : Char} {a b : List Char} (h : sep ∉ a) (cur : List Char) :
    splitAt sep (a ++ sep :: b) cur = (cur.reverse ++ a) :: splitAt sep b [] := by
  induction a generalizing cur with
  | nil => simp [splitAt]
  | cons c a ih =>
    simp only [List.mem_cons, not_or] at h
    rw [List.cons_append, splitAt, if_neg (Ne.symm h.1), ih h.2]
    simp

theorem boostSplit_of_not_mem {s : String} (h : ':' ∉ s.toList) : boostSplit s = [s] := by
  rw [boostSplit, splitAt_of_not_mem h]
  rfl

/-- `a:b` with no `':'` in `a` splits into `a` and the pieces of `b`. -/
theorem boostSplit_append {a b : String} (h : ':' ∉ a.toList) :
    boostSplit (a ++ ":" ++ b) = a :: boostSplit b := by
  have hs : (a ++ ":" ++ b).toList = a.toList ++ ':' :: b.toList := by simp
  rw [boostSplit, hs, splitAt_append h]
  rfl

section Cut

variable {s : String} {a b : List Char} {c : Char}

/-- In a text `a`, `c`, `b` with no `c` in `a`, `find(c)` is the length of `a`. -/
theorem strFind_of_toList (hs : s.toList = a ++ c :: b) (ha : c ∉ a) : strFind s c = a.length := by
  rw [strFind, hs, if_pos (by simp), List.indexOf_append_of_not_mem ha, List.indexOf_cons_self,
    add_zero]

/-- `substr(0, pos)` at that position is `a`. -/
theorem strPrefix_of_toList (hs : s.toList = a ++ c :: b) : strPrefix s a.length = ⟨a⟩ := by
  rw [strPrefix, hs, List.take_left]

/-- `substr(pos + 1)` at that position is `b`. -/
theorem strSuffix_of_toList (hs : s.toList = a ++ c :: b) : strSuffix s (a.length + 1) = ⟨b⟩ := by
  rw [strSuffix, hs, List.drop_append_eq_append_drop, List.drop_of_length_le (by omega),
    List.nil_append, Nat.add_sub_cancel_left, List.drop_one, List.tail_cons]

end Cut

/-- How a file reads: it does not open, a read fails, or its whole text. -/
inductive FileRead
  | cannotOpen
  | readError
  | contents (text : String)

/-- The key store that `MutateTxSign` fills (`CBasicKeyStore`): the keys and redeem scripts
added. -/
structure TempKeystore (Key : Type) where
  keys : List Key
  scripts : List CScript

/-- The functions that the commands of `bitcoin-tx` call from libraries not under `src/`. -/
structure BitcoinTxLib (D J Key : Type) where
  /-- `atoi`. -/
  atoi : String → CInt
  /-- `atoi64`. -/
  atoi64 : String → SInt 64
  /-- `std::stoul`, which throws on a bad number. -/
  stoul : String → Result (BitVec 64)
  IsHex : String → Bool
  ParseHex : String → List (BitVec 8)
  uint256S : String → BitVec 256
  /-- `ParseMoney(s, value)`: `none` when it fails. -/
  ParseMoney : String → Option CAmount
  /-- `ParseFixedPoint(s, decimals, &value)`: `none` when it fails. -/
  ParseFixedPoint : String → Nat → Option CAmount
  DecodeDestination : String → D
  IsValidDestination : D → Bool
  GetScriptForDestination : D → CScript
  CScriptID : CScript → D
  /-- `ParseScript`, which throws on a bad script. -/
  ParseScript : String → Result CScript
  /-- The opcode of `CScript() << OP_RETURN`. -/
  OP_RETURN : BitVec 8
  /-- `<< data`: the push of the data. -/
  pushData : List (BitVec 8) → CScript
  CURRENT_VERSION : CInt
  /-- `CBitcoinSecret::SetString`, then `GetKey`. -/
  SetString : String → Option Key
  ParseHashUV : J → String → Result (BitVec 256)
  ParseHexUV : J → String → Result (List (BitVec 8))
  IsPayToScriptHash : CScript → Bool
  ScriptToAsmStr : CScript → String
  /-- `SignSignature(keystore, prevPubKey, mergedTx, i, amount, nHashType)`: the script it
  writes to input `i`. -/
  SignSignature : TempKeystore Key → CScript → CMutableTransaction → Nat → CAmount → BitVec 32 →
    CScript
  /-- `CombineSignatures(prevPubKey, checker of input i of mergedTx, sig1, sig2)`. -/
  CombineSignatures : CScript → CMutableTransaction → Nat → CAmount → CScript → CScript → CScript
  /-- The text of a file, or why reading it failed. -/
  readFile : String → FileRead

end Membercoin
