import Membercoin.UniValue
import Membercoin.Transaction.Mutable

/-!
# `lockunspent`

`lockunspent unlock ([{"txid":"txid","vout":n},...])` locks or unlocks outputs of the wallet one
entry at a time: each entry is checked, and its outpoint is then at once locked or unlocked. The
first entry that fails its check throws after the entries before it have taken effect, so the
call is not atomic. Without the list, `lockunspent true` unlocks every coin and
`lockunspent false` changes nothing.

The locks of the wallet (`LockCoin`, `UnlockCoin` and `UnlockAllCoins` of `CWallet`, over a state
of a parameter type `S`), `RPCTypeCheckObj`, `get_int`, `IsHex` and `uint256S` are parameters. A
call gives the wallet state after it and its outcome.

* `lockunspent_ok`: when every entry is valid, the outpoints are locked or unlocked in order.
* `lockunspent_partial`: an invalid entry throws its error, and the entries before it stay locked
  or unlocked.
-/

namespace Membercoin

/-- The locks of `CWallet`. -/
structure CoinLocks (S : Type) where
  LockCoin : S → COutPoint → S
  UnlockCoin : S → COutPoint → S
  UnlockAllCoins : S → S

/-- The functions of the RPC server, `univalue` and `utilstrencodings` that `lockunspent` calls:
`RPCTypeCheckObj` and `get_int` give the text of the exception they throw. -/
structure LockUnspentLib (J : Type) where
  RPCTypeCheckObj : J → List (String × VType) → Except String Unit
  get_int : J → Except String CInt
  IsHex : String → Bool
  uint256S : String → BitVec 256

section LockUnspent

variable {S J : Type} (W : CoinLocks S) (L : LockUnspentLib J) (U : UniValueOps J)

/-- The checks of one entry of `outputs`, and the outpoint it names. -/
def lockunspent.outpoint (output : J) : Result COutPoint :=
  if !U.isObject output then .thrown "Invalid parameter, expected object"
  else
    match L.RPCTypeCheckObj output [("txid", .VSTR), ("vout", .VNUM)] with
    | .error what => .thrown what
    | .ok () => do
      let txid ← U.getStr (U.get output "txid")
      if !L.IsHex txid then .thrown "Invalid parameter, expected hex txid"
      else
        match L.get_int (U.get output "vout") with
        | .error what => .thrown what
        | .ok nOutput =>
          if nOutput.val < 0 then .thrown "Invalid parameter, vout must be positive"
          else pure ⟨L.uint256S txid, BitVec.ofInt 32 nOutput.val⟩

/-- `UnlockCoin` or `LockCoin`, after `fUnlock`. -/
def lockunspent.apply (fUnlock : Bool) (s : S) (outpt : COutPoint) : S :=
  if fUnlock then W.UnlockCoin s outpt else W.LockCoin s outpt

/-- The loop of `lockunspent` over `outputs`, from the wallet state `s`. -/
def lockunspent.loop (fUnlock : Bool) : S → List J → S × Result Unit
  | s, [] => (s, pure ())
  | s, output :: outputs =>
    match lockunspent.outpoint L U output with
    | .ok outpt => lockunspent.loop fUnlock (lockunspent.apply W fUnlock s outpt) outputs
    | .thrown what => (s, .thrown what)
    | .undefined => (s, .undefined)

/-- `lockunspent(params)` with `unlock` and, when given, the entries of the list, from the wallet
state `s`. -/
def lockunspent (fUnlock : Bool) (outputs : Option (List J)) (s : S) : S × Result Bool :=
  match outputs with
  | none => (if fUnlock then W.UnlockAllCoins s else s, pure true)
  | some outputs =>
    let r := lockunspent.loop W L U fUnlock s outputs
    (r.1, (fun _ => true) <$> r.2)

/-- The valid entries before the rest of the list take effect first, in order. -/
theorem lockunspent.loop_append (fUnlock : Bool) {pre : List J} {outpts : List COutPoint}
    (h : pre.mapM (lockunspent.outpoint L U) = .ok outpts) (s : S) (rest : List J) :
    lockunspent.loop W L U fUnlock s (pre ++ rest) =
      lockunspent.loop W L U fUnlock (outpts.foldl (lockunspent.apply W fUnlock) s) rest := by
  induction pre generalizing s outpts with
  | nil => cases h; rfl
  | cons output pre ih =>
    rw [List.mapM_cons] at h
    obtain ⟨outpt, hout, h⟩ := Result.bind_eq_ok.mp h
    obtain ⟨outpts', h', h⟩ := Result.bind_eq_ok.mp h
    cases h
    rw [List.cons_append, lockunspent.loop, hout]
    exact ih h' _

/-- When every entry is valid, `lockunspent` locks or unlocks their outpoints in order and
returns `true`. -/
theorem lockunspent_ok (fUnlock : Bool) {outputs : List J} {outpts : List COutPoint}
    (h : outputs.mapM (lockunspent.outpoint L U) = .ok outpts) (s : S) :
    lockunspent W L U fUnlock (some outputs) s =
      (outpts.foldl (lockunspent.apply W fUnlock) s, .ok true) := by
  have := lockunspent.loop_append W L U fUnlock h s []
  rw [List.append_nil] at this
  simp only [lockunspent, this, lockunspent.loop, Result.pure_eq, Result.map_ok]

/-- Locks kept as a list: `LockCoin` adds the outpoint, `UnlockCoin` removes it. -/
def sampleCoinLocks : CoinLocks (List COutPoint) where
  LockCoin s outpt := outpt :: s
  UnlockCoin s outpt := s.erase outpt
  UnlockAllCoins _ := []

/-- Stand-ins: every entry passes the type check, and names output `1` of the txid `00`. -/
def sampleLockUnspentLib : LockUnspentLib Bool where
  RPCTypeCheckObj _ _ := .ok ()
  get_int _ := .ok ⟨1, by norm_num⟩
  IsHex _ := true
  uint256S _ := 0

/-- JSON values that are an object (`true`) or not (`false`), each member of which is itself. -/
def sampleLockJson : UniValueOps Bool where
  isStr _ := true
  isNum _ := false
  isObject v := v
  getValStr _ := "00"
  getValues _ := []
  getKeys _ := []
  get v _ := v
  existsKey _ _ := true
  checkObject _ _ := true
  read _ := none
  get_str _ := .ok "00"

theorem lockunspent_ok_two :
    [true, true].mapM (lockunspent.outpoint sampleLockUnspentLib sampleLockJson) =
      .ok [⟨0, 1⟩, ⟨0, 1⟩] ∧
    lockunspent sampleCoinLocks sampleLockUnspentLib sampleLockJson false (some [true, true]) [] =
      ([⟨0, 1⟩, ⟨0, 1⟩].foldl (lockunspent.apply sampleCoinLocks false) [], .ok true) :=
  have h : [true, true].mapM (lockunspent.outpoint sampleLockUnspentLib sampleLockJson) =
      .ok [⟨0, 1⟩, ⟨0, 1⟩] := by rfl
  ⟨h, lockunspent_ok sampleCoinLocks sampleLockUnspentLib sampleLockJson false h []⟩

/-- `lockunspent` is not atomic: an invalid entry throws its error, and the valid entries before
it stay locked or unlocked. -/
theorem lockunspent_partial (fUnlock : Bool) {pre post : List J} {bad : J}
    {outpts : List COutPoint} {what : String}
    (h : pre.mapM (lockunspent.outpoint L U) = .ok outpts)
    (hbad : lockunspent.outpoint L U bad = .thrown what) (s : S) :
    lockunspent W L U fUnlock (some (pre ++ bad :: post)) s =
      (outpts.foldl (lockunspent.apply W fUnlock) s, .thrown what) := by
  simp only [lockunspent, lockunspent.loop_append W L U fUnlock h, lockunspent.loop, hbad,
    Result.map_thrown]

theorem lockunspent_partial_lock :
    [true].mapM (lockunspent.outpoint sampleLockUnspentLib sampleLockJson) = .ok [⟨0, 1⟩] ∧
    lockunspent.outpoint sampleLockUnspentLib sampleLockJson false =
      .thrown "Invalid parameter, expected object" ∧
    lockunspent sampleCoinLocks sampleLockUnspentLib sampleLockJson false
        (some ([true] ++ false :: [true])) [] =
      ([⟨0, 1⟩].foldl (lockunspent.apply sampleCoinLocks false) [],
        .thrown "Invalid parameter, expected object") :=
  have h : [true].mapM (lockunspent.outpoint sampleLockUnspentLib sampleLockJson) =
      .ok [⟨0, 1⟩] := by rfl
  have hbad : lockunspent.outpoint sampleLockUnspentLib sampleLockJson false =
      .thrown "Invalid parameter, expected object" := by rfl
  ⟨h, hbad, lockunspent_partial sampleCoinLocks sampleLockUnspentLib sampleLockJson false h hbad []⟩

end LockUnspent

end Membercoin
