import Membercoin.BitcoinTx.Sign
import Membercoin.Consensus

/-!
# The commands of `bitcoin-tx` (`MutateTx`, `CommandLineRawTx`)

`bitcoin-tx [options] <hex-tx> [commands]` decodes a transaction (or starts from an empty one with
`-create`), applies each command `key=value` in turn with `MutateTx`, and prints the result. The
first command that throws ends the run: the tool prints `error: ` and the exception's text and
exits with `EXIT_FAILURE`.

The commands act on a `RawTxState`: the transaction and the JSON registers (the global
`registers` of the source). Each command but `sign` reads and writes one part of it:

* `nversion`, `locktime`: the version and the lock time, each from `atoi64` of the value, checked
  against its range;
* `in`, `delin`: the inputs; `in=TXID:VOUT[:SEQUENCE]` appends one, `delin=N` erases the `N`-th;
* `outaddr`, `outdata`, `outscript`, `delout`: the outputs;
* `set`, `load`: the registers, from a JSON text or from the text of a file.

`sign` reads the registers and the outputs and writes the scripts of the inputs
(`Membercoin.BitcoinTx.Sign`).

Each command that appends builds its input or output from the value alone
(`MutateTxAddInput.txin` and the `txout` of each output command), then appends it; the two
deletions are one definition, `eraseAtIndex`, at the input or output list.
-/

namespace Membercoin

/-- The state the commands act on: the transaction and the registers. -/
structure RawTxState (J : Type) where
  tx : CMutableTransaction
  registers : String → Option J

/-- `static const unsigned int minTxOutSz` of `MutateTxAddInput`. -/
def minTxOutSz : Nat := 9

/-- `static const unsigned int maxVout` of `MutateTxAddInput`: `111111`. -/
def maxVout : Nat := BLOCKSTREAM_CORE_MAX_BLOCK_SIZE / minTxOutSz

section Commands

variable {D J Key : Type} (L : BitcoinTxLib D J Key) (U : UniValueOps J) (K : SighashTypes)

/-- `MutateTxVersion(tx, cmdVal)`. -/
def MutateTxVersion (tx : CMutableTransaction) (cmdVal : String) : Result CMutableTransaction :=
  let newVersion := L.atoi64 cmdVal
  if newVersion.val < 1 ∨ newVersion.val > L.CURRENT_VERSION.val then
    .thrown "Invalid TX version requested"
  else pure { tx with nVersion := toCInt newVersion.val }

/-- `MutateTxLocktime(tx, cmdVal)`. -/
def MutateTxLocktime (tx : CMutableTransaction) (cmdVal : String) : Result CMutableTransaction :=
  let newLocktime := L.atoi64 cmdVal
  if newLocktime.val < 0 ∨ newLocktime.val > 0xffffffff then .thrown "Invalid TX locktime requested"
  else pure { tx with nLockTime := BitVec.ofInt 32 newLocktime.val }

/-- The input that `MutateTxAddInput(tx, strInput)` builds from `TXID:VOUT[:SEQUENCE]`. The
sequence is `std::stoul` of the third piece, an `unsigned long` stored in a `uint32_t`. -/
def MutateTxAddInput.txin (strInput : String) : Result CTxIn.Full :=
  let vStrInputParts := boostSplit strInput
  if vStrInputParts.length < 2 then .thrown "TX input missing separator"
  else
    let strTxid := vStrInputParts.getD 0 ""
    if strTxid.utf8ByteSize ≠ 64 ∨ !L.IsHex strTxid then .thrown "invalid TX input txid"
    else
      let txid := L.uint256S strTxid
      let strVout := vStrInputParts.getD 1 ""
      let vout := L.atoi strVout
      if vout.val < 0 ∨ vout.val > (maxVout : Int) then .thrown "invalid TX input vout"
      else do
        let nSequenceIn ← if vStrInputParts.length > 2 then
            (fun n : BitVec 64 => n.setWidth 32) <$> L.stoul (vStrInputParts.getD 2 "")
          else pure (BitVec.allOnes 32)
        pure { scriptSig := [], prevout := ⟨txid, BitVec.ofInt 32 vout.val⟩, nSequence := nSequenceIn }

/-- `MutateTxAddInput(tx, strInput)`. -/
def MutateTxAddInput (tx : CMutableTransaction) (strInput : String) : Result CMutableTransaction := do
  let txin ← MutateTxAddInput.txin L strInput
  pure { tx with vin := tx.vin ++ [txin] }

/-- `ExtractAndValidateValue(strValue)`. -/
def ExtractAndValidateValue (strValue : String) : Result CAmount :=
  match L.ParseMoney strValue with
  | none => .thrown "Invalid TX output value"
  | some value => pure value

/-- The output that `MutateTxAddOutAddr(tx, strInput)` builds from `VALUE:[TYPE:]ADDRESS`. -/
def MutateTxAddOutAddr.txout (strInput : String) : Result CTxOut.Full := do
  let vStrInputParts := boostSplit strInput
  if vStrInputParts.length ≠ 2 ∧ vStrInputParts.length ≠ 3 then
    .thrown "TX output missing or too many separators"
  else
    let vStrInputParts ← if vStrInputParts.length = 3 then
        let addrType := vStrInputParts.getD 1 ""
        if addrType ≠ "bchreg" ∧ addrType ≠ "bitcoincash" ∧ addrType ≠ "bchnol" ∧
            addrType ≠ "bchtest" then
          .thrown ("TX output unknown destination address type " ++ addrType ++ ".")
        else pure (vStrInputParts.eraseIdx 1)
      else pure vStrInputParts
    let value ← ExtractAndValidateValue L (vStrInputParts.getD 0 "")
    let strAddr := vStrInputParts.getD 1 ""
    let destination := L.DecodeDestination strAddr
    if !L.IsValidDestination destination then .thrown "invalid TX output address"
    else pure { nValue := value, scriptPubKey := L.GetScriptForDestination destination }

/-- `MutateTxAddOutAddr(tx, strInput)`. -/
def MutateTxAddOutAddr (tx : CMutableTransaction) (strInput : String) :
    Result CMutableTransaction := do
  let txout ← MutateTxAddOutAddr.txout L strInput
  pure { tx with vout := tx.vout ++ [txout] }

/-- `strData` of `MutateTxAddOutData(tx, strInput)`: `strInput.substr(pos + 1)` for the first
`':'` at `pos`. Without a `':'`, `pos + 1` is `npos + 1`, which wraps to `0` in `size_t`. -/
def MutateTxAddOutData.strData (strInput : String) : String :=
  strSuffix strInput ((strFind strInput ':' + 1) % 2 ^ 64)

/-- `value` of `MutateTxAddOutData(tx, strInput)`: `ParseMoney` of the text before the first
`':'`, or `0` without one. -/
def MutateTxAddOutData.value (strInput : String) : Result CAmount :=
  let pos := strFind strInput ':'
  if pos ≠ npos then
    match L.ParseMoney (strPrefix strInput pos) with
    | none => .thrown "invalid TX output value"
    | some value => pure value
  else pure SInt.zero

/-- The output that `MutateTxAddOutData(tx, strInput)` builds from `[VALUE:]DATA`. -/
def MutateTxAddOutData.txout (strInput : String) : Result CTxOut.Full :=
  if strFind strInput ':' = 0 then .thrown "TX output value not specified"
  else do
    let value ← MutateTxAddOutData.value L strInput
    let strData := MutateTxAddOutData.strData strInput
    if !L.IsHex strData then .thrown "invalid TX output data"
    else
      let data := L.ParseHex strData
      pure { nValue := value, scriptPubKey := L.OP_RETURN :: L.pushData data }

/-- `MutateTxAddOutData(tx, strInput)`. -/
def MutateTxAddOutData (tx : CMutableTransaction) (strInput : String) :
    Result CMutableTransaction := do
  let txout ← MutateTxAddOutData.txout L strInput
  pure { tx with vout := tx.vout ++ [txout] }

/-- The output that `MutateTxAddOutScript(tx, strInput)` builds from `VALUE:SCRIPT[:FLAGS]`;
with an `S` in the last piece the script is wrapped in a pay-to-script-hash output. -/
def MutateTxAddOutScript.txout (strInput : String) : Result CTxOut.Full := do
  let vStrInputParts := boostSplit strInput
  if vStrInputParts.length < 2 then .thrown "TX output missing separator"
  else
    let value ← ExtractAndValidateValue L (vStrInputParts.getD 0 "")
    let scriptPubKey ← L.ParseScript (vStrInputParts.getD 1 "")
    let bScriptHash := decide (vStrInputParts.length > 2) &&
      decide ('S' ∈ (vStrInputParts.getLastD "").toList)
    let scriptPubKey := if bScriptHash then L.GetScriptForDestination (L.CScriptID scriptPubKey)
      else scriptPubKey
    pure { nValue := value, scriptPubKey := scriptPubKey }

/-- `MutateTxAddOutScript(tx, strInput)`. -/
def MutateTxAddOutScript (tx : CMutableTransaction) (strInput : String) :
    Result CMutableTransaction := do
  let txout ← MutateTxAddOutScript.txout L strInput
  pure { tx with vout := tx.vout ++ [txout] }

/-- The deletion of `MutateTxDelInput` and `MutateTxDelOutput` from the list `v` of the
`what`s: the index is `atoi` of the value, checked against `(int)v.size()`. -/
def eraseAtIndex {α : Type} (what : String) (v : List α) (strIdx : String) : Result (List α) :=
  let idx := L.atoi strIdx
  if idx.val < 0 ∨ idx.val ≥ (toCInt v.length).val then
    .thrown ("Invalid TX " ++ what ++ " index '" ++ strIdx ++ "'")
  else pure (v.eraseIdx idx.val.toNat)

/-- `MutateTxDelInput(tx, strInIdx)`. -/
def MutateTxDelInput (tx : CMutableTransaction) (strInIdx : String) : Result CMutableTransaction :=
  (fun vin => { tx with vin := vin }) <$> eraseAtIndex L "input" tx.vin strInIdx

/-- `MutateTxDelOutput(tx, strOutIdx)`. -/
def MutateTxDelOutput (tx : CMutableTransaction) (strOutIdx : String) :
    Result CMutableTransaction :=
  (fun vout => { tx with vout := vout }) <$> eraseAtIndex L "output" tx.vout strOutIdx

/-! ## The registers -/

/-- `RegisterSetJson(key, rawJson)`. -/
def RegisterSetJson (registers : String → Option J) (key rawJson : String) :
    Result (String → Option J) :=
  match U.read rawJson with
  | none => .thrown ("Cannot parse JSON for key " ++ key)
  | some val => pure (Function.update registers key (some val))

/-- The split of `NAME:VALUE` in `RegisterSet` and `RegisterLoad`: none when the first `':'` is
missing, first or last. -/
def registerSplit (strInput : String) : Option (String × String) :=
  let pos := strFind strInput ':'
  if pos = npos ∨ pos = 0 ∨ pos = strInput.length - 1 then none
  else some (strPrefix strInput pos, strSuffix strInput (pos + 1))

/-- `RegisterSet(strInput)`. -/
def RegisterSet (registers : String → Option J) (strInput : String) :
    Result (String → Option J) :=
  match registerSplit strInput with
  | none => .thrown "Register input requires NAME:VALUE"
  | some (key, valStr) => RegisterSetJson U registers key valStr

/-- `RegisterLoad(strInput)`: the register takes the text of the file. -/
def RegisterLoad (registers : String → Option J) (strInput : String) :
    Result (String → Option J) :=
  match registerSplit strInput with
  | none => .thrown "Register load requires NAME:FILENAME"
  | some (key, filename) =>
    match L.readFile filename with
    | .cannotOpen => .thrown ("Cannot open file " ++ filename)
    | .readError => .thrown ("Error reading file " ++ filename)
    | .contents valStr => RegisterSetJson U registers key valStr

/-! ## `MutateTx` and the run of the commands -/

/-- `MutateTx(tx, command, commandVal)`. -/
def MutateTx (st : RawTxState J) (command commandVal : String) : Result (RawTxState J) :=
  let setTx := fun tx => { st with tx := tx }
  if command = "nversion" then setTx <$> MutateTxVersion L st.tx commandVal
  else if command = "locktime" then setTx <$> MutateTxLocktime L st.tx commandVal
  else if command = "delin" then setTx <$> MutateTxDelInput L st.tx commandVal
  else if command = "in" then setTx <$> MutateTxAddInput L st.tx commandVal
  else if command = "delout" then setTx <$> MutateTxDelOutput L st.tx commandVal
  else if command = "outaddr" then setTx <$> MutateTxAddOutAddr L st.tx commandVal
  else if command = "outdata" then setTx <$> MutateTxAddOutData L st.tx commandVal
  else if command = "outscript" then setTx <$> MutateTxAddOutScript L st.tx commandVal
  else if command = "sign" then setTx <$> MutateTxSign L U K st.registers st.tx commandVal
  else if command = "load" then
    (fun registers => { st with registers := registers }) <$> RegisterLoad L U st.registers commandVal
  else if command = "set" then
    (fun registers => { st with registers := registers }) <$> RegisterSet U st.registers commandVal
  else .thrown "unknown command"

/-- The command and the value of an argument: the text before and after its first `'='`, or the
whole argument and an empty value. -/
def splitArg (arg : String) : String × String :=
  let eqpos := strFind arg '='
  if eqpos = npos then (arg, "") else (strPrefix arg eqpos, strSuffix arg (eqpos + 1))

/-- The loop of `CommandLineRawTx` over the command arguments. -/
def commandLoop (st : RawTxState J) (args : List String) : Result (RawTxState J) :=
  args.foldlM (fun st arg => MutateTx L U K st (splitArg arg).1 (splitArg arg).2) st

/-- `IsSwitchChar(c)`, outside Windows. -/
def IsSwitchChar (c : Char) : Bool := c = '-'

/-- An argument the switch loop of `CommandLineRawTx` skips: a switch character and at least one
more character. -/
def isSwitchArg (arg : String) : Bool := IsSwitchChar (arg.toList.headD ' ') && 2 ≤ arg.length

/-- `readStdin()`, of the text on standard input (`none` when reading it fails), without its
trailing spaces. -/
def readStdin (stdin : Option String) : Result String :=
  match stdin with
  | none => .thrown "error reading stdin"
  | some ret => pure ⟨(ret.toList.reverse.dropWhile isSpace).reverse⟩

/-- The transaction of `-create`: `CTransaction()`. -/
def CMutableTransaction.empty (CURRENT_VERSION : CInt) : CMutableTransaction :=
  ⟨CURRENT_VERSION, [], [], 0⟩

/-- The body of the `try` of `CommandLineRawTx(argc, argv)` on the arguments after the program
name, up to the output: the transaction it prints. -/
def CommandLineRawTx.run (fCreateBlank : Bool) (DecodeHexTx : String → Option CMutableTransaction)
    (stdin : Option String) (args : List String) : Result CMutableTransaction := do
  let args := args.dropWhile isSwitchArg
  let (txDecodeTmp, commands) ← if !fCreateBlank then
      match args with
      | [] => .thrown "too few parameters"
      | strHexTx :: commands => do
        let strHexTx ← if strHexTx = "-" then readStdin stdin else pure strHexTx
        match DecodeHexTx strHexTx with
        | none => .thrown "invalid transaction encoding"
        | some tx => pure (tx, commands)
    else pure (CMutableTransaction.empty L.CURRENT_VERSION, args)
  let st ← commandLoop L U K ⟨txDecodeTmp, fun _ => none⟩ commands
  pure st.tx

/-- `CommandLineRawTx(argc, argv)`: the exit code and the line it prints, the output of the
transaction (`OutputTx`) on standard output, or the error on standard error. -/
def CommandLineRawTx (fCreateBlank : Bool) (DecodeHexTx : String → Option CMutableTransaction)
    (OutputTx : CMutableTransaction → String) (stdin : Option String) (args : List String) :
    Result (Int × String) :=
  match CommandLineRawTx.run L U K fCreateBlank DecodeHexTx stdin args with
  | .ok tx => .ok (0, OutputTx tx)
  | .thrown what => .ok (1, "error: " ++ what)
  | .undefined => .undefined

/-! ## The argument formats -/

/-- `command=value`, for a command without `'='`: `splitArg` gives the command and the value
back. -/
theorem splitArg_append {command value : String} (hcommand : '=' ∉ command.toList)
    (hlen : command.length < npos) : splitArg (command ++ "=" ++ value) = (command, value) := by
  have hs : (command ++ "=" ++ value).toList = command.toList ++ '=' :: value.toList := by simp
  have hnpos : command.toList.length < npos := hlen
  rw [splitArg, strFind_of_toList hs hcommand, if_neg (by omega), strPrefix_of_toList hs,
    strSuffix_of_toList hs]
  rfl

/-- `NAME:VALUE`, for a non-empty name without `':'` and a non-empty value: `registerSplit` gives
the name and the value back. -/
theorem registerSplit_append {name value : String} (hname : ':' ∉ name.toList) (hne : name ≠ "")
    (hvalue : value ≠ "") (hlen : name.length < npos) :
    registerSplit (name ++ ":" ++ value) = some (name, value) := by
  have hs : (name ++ ":" ++ value).toList = name.toList ++ ':' :: value.toList := by simp
  have hfind := strFind_of_toList hs hname
  have hn : name.toList.length ≠ 0 := fun h => hne (String.ext (List.eq_nil_of_length_eq_zero h))
  have hv : value.toList.length ≠ 0 := fun h => hvalue (String.ext (List.eq_nil_of_length_eq_zero h))
  have hlen' : (name ++ ":" ++ value).length = name.toList.length + 1 + value.toList.length := by
    show (name ++ ":" ++ value).toList.length = _
    rw [hs, List.length_append, List.length_cons]
    omega
  have hnpos : name.toList.length < npos := hlen
  rw [registerSplit, hfind, if_neg (by rw [hlen']; omega), strPrefix_of_toList hs,
    strSuffix_of_toList hs]
  rfl

/-! ## What each command does -/

theorem MutateTxVersion_eq_ok {tx tx' : CMutableTransaction} {cmdVal : String}
    (h : MutateTxVersion L tx cmdVal = .ok tx') : ∃ nVersion, tx' = { tx with nVersion := nVersion } := by
  unfold MutateTxVersion at h
  dsimp only at h
  split at h
  · cases h
  · exact ⟨_, (Result.ok.inj h).symm⟩

theorem MutateTxLocktime_eq_ok {tx tx' : CMutableTransaction} {cmdVal : String}
    (h : MutateTxLocktime L tx cmdVal = .ok tx') :
    ∃ nLockTime, tx' = { tx with nLockTime := nLockTime } := by
  unfold MutateTxLocktime at h
  dsimp only at h
  split at h
  · cases h
  · exact ⟨_, (Result.ok.inj h).symm⟩

theorem eraseAtIndex_eq_ok {α : Type} {what : String} {v v' : List α} {strIdx : String}
    (h : eraseAtIndex L what v strIdx = .ok v') :
    (L.atoi strIdx).val.toNat < v.length ∧ v' = v.eraseIdx (L.atoi strIdx).val.toNat := by
  unfold eraseAtIndex at h
  dsimp only at h
  split at h
  · cases h
  · rename_i hidx
    have hv : (toCInt v.length).val ≤ v.length := toCInt_val_le (Int.ofNat_nonneg _)
    exact ⟨by omega, (Result.ok.inj h).symm⟩

/-- Erasing at the index of the element just appended gives the list back, while the new size
fits an `int`. -/
theorem eraseAtIndex_append {α : Type} (what : String) (v : List α) (x : α) {strIdx : String}
    (hidx : (L.atoi strIdx).val = v.length) (hlen : v.length + 1 < 2 ^ 31) :
    eraseAtIndex L what (v ++ [x]) strIdx = .ok v := by
  have hsize : (toCInt (v ++ [x]).length).val = v.length + 1 := by
    rw [List.length_append, List.length_singleton]
    exact toCInt_val (by omega) (by exact_mod_cast hlen)
  rw [eraseAtIndex, if_neg (by omega), hidx, Int.toNat_natCast,
    List.eraseIdx_append_of_length_le le_rfl, Nat.sub_self]
  simp

/-- Without a `':'`, `npos + 1` wraps to `0`: the data is the whole text. -/
theorem MutateTxAddOutData.strData_of_not_mem {strInput : String} (h : ':' ∉ strInput.toList) :
    MutateTxAddOutData.strData strInput = strInput := by
  rw [MutateTxAddOutData.strData, strFind, if_neg h, show (npos + 1) % 2 ^ 64 = 0 by norm_num [npos]]
  rfl

/-- The output `outdata` appends: `OP_RETURN` and the push of the data. -/
theorem MutateTxAddOutData.txout_scriptPubKey {strInput : String} {txout : CTxOut.Full}
    (h : MutateTxAddOutData.txout L strInput = .ok txout) :
    txout.scriptPubKey = L.OP_RETURN :: L.pushData (L.ParseHex (MutateTxAddOutData.strData strInput)) := by
  unfold MutateTxAddOutData.txout at h
  split at h
  · cases h
  obtain ⟨value, -, h⟩ := Result.bind_eq_ok.mp h
  dsimp only at h
  split at h
  · cases h
  · cases h; rfl

end Commands

/-! ## A library of stand-ins

The library functions are parameters; the stand-ins below let commands run on concrete values:
decimal `atoi`, hexadecimal `ParseHex` of digit pairs, every amount `0`, every value valid, the push
of up to 75 bytes as its length and the bytes; `sampleUniValue` stands for `UniValue`. -/

/-- The value of a text of decimal digits. -/
def sampleDecimal (s : String) : Nat :=
  s.toList.foldl (fun n c => 10 * n + (c.toNat - '0'.toNat)) 0

/-- The value of a hexadecimal digit. -/
def sampleHexDigit (c : Char) : Nat :=
  if c.isDigit then c.toNat - '0'.toNat else c.toNat - 'a'.toNat + 10

/-- The bytes of a text of hexadecimal digit pairs. -/
def sampleParseHex : List Char → List (BitVec 8)
  | a :: b :: rest => BitVec.ofNat 8 (16 * sampleHexDigit a + sampleHexDigit b) :: sampleParseHex rest
  | _ => []

/-- Stand-ins for the library functions. -/
def sampleLib : BitcoinTxLib Unit Unit Unit where
  atoi s := toCInt (sampleDecimal s)
  atoi64 s := ⟨(sampleDecimal s % 2 ^ 63 : Nat), by constructor <;> norm_num <;> omega⟩
  stoul _ := .ok 0
  IsHex _ := true
  ParseHex s := sampleParseHex s.toList
  uint256S _ := 0
  ParseMoney _ := some SInt.zero
  ParseFixedPoint _ _ := some SInt.zero
  DecodeDestination _ := ()
  IsValidDestination _ := true
  GetScriptForDestination _ := []
  CScriptID _ := ()
  ParseScript _ := .ok []
  OP_RETURN := 0x6a
  pushData d := BitVec.ofNat 8 d.length :: d
  CURRENT_VERSION := toCInt 2
  SetString _ := some ()
  ParseHashUV _ _ := .ok 0
  ParseHexUV _ _ := .ok []
  IsPayToScriptHash _ := false
  ScriptToAsmStr _ := ""
  SignSignature _ _ _ _ _ _ := [0x30]
  CombineSignatures _ _ _ _ sig _ := sig
  readFile _ := .contents "[]"

/-- The flags of `script/sighashtype.h`. -/
def sampleSighashTypes : SighashTypes := ⟨0x01, 0x02, 0x03, 0x80, 0x40⟩

/-- The state of `bitcoin-tx -create` on the stand-ins, with outputs `vout`. -/
def sampleState (vout : List CTxOut.Full) : RawTxState Unit :=
  ⟨{ CMutableTransaction.empty sampleLib.CURRENT_VERSION with vout := vout }, fun _ => none⟩

end Membercoin
