import Membercoin.Basic

/-!
# JSON values (`UniValue`)

The wallet RPCs and the registers of `bitcoin-tx` hold JSON values of `univalue`, which is not
under `src/`. A value is of a parameter type `J`, and the operations the modelled code calls are
the fields of `UniValueOps`: the type tests, the string of a scalar, the elements of an array or
object (what `size()` and `operator[](i)` walk), the keys of an object, the member of a key
(`NullUniValue` when it is missing), `exists`, `checkObject`, `read`, and `get_str`, which
throws when the value is not a string.
-/

namespace Membercoin

/-- `UniValue::VType`. -/
inductive VType
  | VNULL
  | VOBJ
  | VARR
  | VSTR
  | VNUM
  | VBOOL
deriving DecidableEq

/-- The operations of `UniValue` the modelled code calls. -/
structure UniValueOps (J : Type) where
  isStr : J → Bool
  isNum : J → Bool
  isObject : J → Bool
  getValStr : J → String
  getValues : J → List J
  getKeys : J → List String
  get : J → String → J
  existsKey : J → String → Bool
  checkObject : J → List (String × VType) → Bool
  read : String → Option J
  /-- `get_str()`: the string, or the text of the exception it throws. -/
  get_str : J → Except String String

/-- `get_str()` as a step of the modelled code: its exception ends the call. -/
def UniValueOps.getStr {J : Type} (U : UniValueOps J) (v : J) : Result String :=
  match U.get_str v with
  | .error what => .thrown what
  | .ok s => pure s

/-- Stand-ins for the operations of `UniValue`, on which the modelled code can run: the one JSON
value is the empty string, with no elements and no keys, and every text parses to it. -/
def sampleUniValue : UniValueOps Unit where
  isStr _ := true
  isNum _ := false
  isObject _ := false
  getValStr _ := ""
  getValues _ := []
  getKeys _ := []
  get _ _ := ()
  existsKey _ _ := false
  checkObject _ _ := false
  read _ := some ()
  get_str _ := .ok ""

/-- JSON strings, each its own text: only `60` is a number. -/
def sampleStringJson : UniValueOps String where
  isStr _ := true
  isNum j := j = "60"
  isObject _ := false
  getValStr j := j
  getValues _ := []
  getKeys _ := []
  get j _ := j
  existsKey _ _ := false
  checkObject _ _ := false
  read j := some j
  get_str j := .ok j

end Membercoin
