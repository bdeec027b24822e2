import Membercoin.UniValue

/-!
# The passphrase RPCs (`walletpassphrase`, `walletlock`, `walletpassphrasechange`,
`encryptwallet`)

The four RPCs check the encryption state of the wallet, read their string parameters through
`c_str()` (so a passphrase ends at its first NUL character), and call `CWallet`:
`walletpassphrase` unlocks the wallet, tops up the key pool, sets `nWalletUnlockTime` to
`GetTime() + timeout` and schedules `LockWallet` after `timeout` seconds; `walletlock` locks it at
once; `walletpassphrasechange` changes the passphrase; `encryptwallet` encrypts the wallet and
requests shutdown.

`walletpassphrase` reads its timeout only after it has unlocked the wallet, so a timeout that is
not an integer throws with the wallet left unlocked and no relock scheduled; the sum
`GetTime() + timeout` is an `int64_t` sum that no check bounds; and `RPCRunLater`, which schedules
the relock, is called after `nWalletUnlockTime` is set, so when it throws the wallet stays
unlocked with no relock scheduled.

The calls of `CWallet` (`IsCrypted`, `Unlock`, `Lock`, `ChangeWalletPassphrase`,
`EncryptWallet`, `TopUpKeyPool`) act on a wallet state of a parameter type `S`; `get_int64`,
`RPCRunLater` and the help texts are parameters. A call gives the state after it and its outcome.

* `walletpassphrase_eq`: with a correct passphrase, an integer timeout and a relock that can be
  scheduled, the call unlocks the wallet and schedules the relock, or overflows exactly when
  `GetTime() + timeout` does.
* `walletpassphrase_timeout_thrown`, `walletpassphrase_RPCRunLater_thrown`: with a correct
  passphrase, a bad timeout or a failed `RPCRunLater` throws and leaves the wallet unlocked with
  no relock scheduled.
* `passphrase_thrown_unchanged`: every other failure of the four RPCs leaves the state as it was.
-/

namespace Membercoin

/-- The calls of `CWallet` the passphrase RPCs make, over a wallet state `S`: `Unlock`,
`ChangeWalletPassphrase` and `EncryptWallet` give the wallet after them, or `none` when they
fail. -/
structure WalletCrypter (S : Type) where
  IsCrypted : S → Bool
  Unlock : S → String → Option S
  Lock : S → S
  ChangeWalletPassphrase : S → String → String → Option S
  EncryptWallet : S → String → Option S
  TopUpKeyPool : S → S

/-- What else the RPCs use: `get_int64`; `RPCRunLater(name, f, nSeconds)`, which schedules `f`
under `name` after `nSeconds` seconds or throws the text it gives (its body is not part of the
wallet's source); and the help text each throws with the wrong number of parameters. -/
structure PassphraseLib (J : Type) where
  get_int64 : J → Except String (SInt 64)
  RPCRunLater : String → SInt 64 → Except String Unit
  help : String → String

/-- What the passphrase RPCs change: the wallet, `nWalletUnlockTime`, the delay of the
`lockwallet` call that `RPCRunLater` has scheduled, and `fRequestShutdown`. -/
structure PassphraseState (S : Type) where
  wallet : S
  nWalletUnlockTime : SInt 64
  lockwallet : Option (SInt 64)
  fRequestShutdown : Bool

/-- `SecureString s; s = str.c_str()`: the text before the first NUL character. -/
def cStr (s : String) : String := ⟨s.toList.takeWhile (· ≠ Char.ofNat 0)⟩

section Passphrase

variable {S J : Type} (W : WalletCrypter S) (L : PassphraseLib J) (U : UniValueOps J)

/-- `walletpassphrase "passphrase" timeout` at the time `GetTime`. -/
def walletpassphrase (GetTime : SInt 64) (params : List J) (st : PassphraseState S) :
    PassphraseState S × Result Unit :=
  if W.IsCrypted st.wallet then
    match params with
    | [passphrase, timeout] =>
      match U.get_str passphrase with
      | .error what => (st, .thrown what)
      | .ok str =>
        let strWalletPass := cStr str
        if strWalletPass.length > 0 then
          match W.Unlock st.wallet strWalletPass with
          | none => (st, .thrown "Error: The wallet passphrase entered was incorrect.")
          | some wallet =>
            let wallet := W.TopUpKeyPool wallet
            match L.get_int64 timeout with
            | .error what => ({ st with wallet }, .thrown what)
            | .ok nSleepTime =>
              match GetTime.add nSleepTime with
              | .ok nWalletUnlockTime =>
                match L.RPCRunLater "lockwallet" nSleepTime with
                | .error what => ({ st with wallet, nWalletUnlockTime }, .thrown what)
                | .ok () =>
                  ({ st with wallet, nWalletUnlockTime, lockwallet := some nSleepTime }, .ok ())
              | .thrown what => ({ st with wallet }, .thrown what)
              | .undefined => ({ st with wallet }, .undefined)
        else
          (st, .thrown ("walletpassphrase <passphrase> <timeout>\n" ++
            "Stores the wallet decryption key in memory for <timeout> seconds."))
    | _ => (st, .thrown (L.help "walletpassphrase"))
  else
    (st, .thrown "Error: running with an unencrypted wallet, but walletpassphrase was called.")

/-- `LockWallet`, the call `walletpassphrase` schedules. -/
def LockWallet (st : PassphraseState S) : PassphraseState S :=
  { st with nWalletUnlockTime := SInt.zero, wallet := W.Lock st.wallet }

/-- `walletlock`. -/
def walletlock (params : List J) (st : PassphraseState S) : PassphraseState S × Result Unit :=
  if W.IsCrypted st.wallet then
    if params.length ≠ 0 then (st, .thrown (L.help "walletlock"))
    else ({ st with wallet := W.Lock st.wallet, nWalletUnlockTime := SInt.zero }, .ok ())
  else (st, .thrown "Error: running with an unencrypted wallet, but walletlock was called.")

/-- `walletpassphrasechange "oldpassphrase" "newpassphrase"`. -/
def walletpassphrasechange (params : List J) (st : PassphraseState S) :
    PassphraseState S × Result Unit :=
  if W.IsCrypted st.wallet then
    match params with
    | [oldpassphrase, newpassphrase] =>
      match U.get_str oldpassphrase, U.get_str newpassphrase with
      | .error what, _ => (st, .thrown what)
      | .ok _, .error what => (st, .thrown what)
      | .ok strOld, .ok strNew =>
        let strOldWalletPass := cStr strOld
        let strNewWalletPass := cStr strNew
        if strOldWalletPass.length < 1 ∨ strNewWalletPass.length < 1 then
          (st, .thrown ("walletpassphrasechange <oldpassphrase> <newpassphrase>\n" ++
            "Changes the wallet passphrase from <oldpassphrase> to <newpassphrase>."))
        else
          match W.ChangeWalletPassphrase st.wallet strOldWalletPass strNewWalletPass with
          | none => (st, .thrown "Error: The wallet passphrase entered was incorrect.")
          | some wallet => ({ st with wallet }, .ok ())
    | _ => (st, .thrown (L.help "walletpassphrasechange"))
  else
    (st, .thrown
      "Error: running with an unencrypted wallet, but walletpassphrasechange was called.")

/-- `encryptwallet "passphrase"`: it encrypts the wallet and requests shutdown. -/
def encryptwallet (params : List J) (st : PassphraseState S) : PassphraseState S × Result String :=
  if !W.IsCrypted st.wallet then
    match params with
    | [passphrase] =>
      match U.get_str passphrase with
      | .error what => (st, .thrown what)
      | .ok str =>
        let strWalletPass := cStr str
        if strWalletPass.length < 1 then
          (st, .thrown "encryptwallet <passphrase>\nEncrypts the wallet with <passphrase>.")
        else
          match W.EncryptWallet st.wallet strWalletPass with
          | none => (st, .thrown "Error: Failed to encrypt the wallet.")
          | some wallet =>
            ({ st with wallet, fRequestShutdown := true }, .ok ("wallet encrypted; Member server " ++
              "stopping, restart to run with encrypted wallet. The keypool has been flushed and " ++
              "a new HD seed was generated (if you are using HD). You need to make a new backup."))
    | _ => (st, .thrown (L.help "encryptwallet"))
  else
    (st, .thrown "Error: running with an encrypted wallet, but encryptwallet was called.")

end Passphrase

/-- A wallet that is encrypted or not (first component) and unlocked or not (second), under the
one passphrase `pw`. -/
def sampleWalletCrypter : WalletCrypter (Bool × Bool) where
  IsCrypted s := s.1
  Unlock s p := if p = "pw" then some (s.1, true) else none
  Lock s := (s.1, false)
  ChangeWalletPassphrase s p _ := if p = "pw" then some s else none
  EncryptWallet _ _ := some (true, false)
  TopUpKeyPool s := s

/-- `get_int64` of `sampleStringJson`, and a timer that schedules every call. -/
def samplePassphraseLib : PassphraseLib String where
  get_int64 j :=
    if j = "60" then .ok ⟨60, by norm_num⟩ else .error "JSON value is not an integer as expected"
  RPCRunLater _ _ := .ok ()
  help s := s

/-- An encrypted, locked wallet. -/
def samplePassphraseState : PassphraseState (Bool × Bool) := ⟨(true, false), SInt.zero, none, false⟩

section Outcomes

variable {S J : Type} (W : WalletCrypter S) (L : PassphraseLib J) (U : UniValueOps J)
  {GetTime : SInt 64} {passphrase timeout : J} {st : PassphraseState S} {str : String}
  {wallet : S}

/-- Once the passphrase has unlocked the wallet, what is left of `walletpassphrase` is the
timeout. -/
theorem walletpassphrase_unlocked (hcrypted : W.IsCrypted st.wallet)
    (hstr : U.get_str passphrase = .ok str) (hlen : 0 < (cStr str).length)
    (hunlock : W.Unlock st.wallet (cStr str) = some wallet) :
    walletpassphrase W L U GetTime [passphrase, timeout] st =
      match L.get_int64 timeout with
      | .error what => ({ st with wallet := W.TopUpKeyPool wallet }, .thrown what)
      | .ok nSleepTime =>
        match GetTime.add nSleepTime with
        | .ok nWalletUnlockTime =>
          match L.RPCRunLater "lockwallet" nSleepTime with
          | .error what =>
            ({ st with
                wallet := W.TopUpKeyPool wallet
                nWalletUnlockTime := nWalletUnlockTime }, .thrown what)
          | .ok () =>
            ({ st with
                wallet := W.TopUpKeyPool wallet
                nWalletUnlockTime := nWalletUnlockTime
                lockwallet := some nSleepTime }, .ok ())
        | .thrown what => ({ st with wallet := W.TopUpKeyPool wallet }, .thrown what)
        | .undefined => ({ st with wallet := W.TopUpKeyPool wallet }, .undefined) := by
  simp only [walletpassphrase, hcrypted, ↓reduceIte, hstr]
  rw [if_pos hlen, hunlock]

/-- With the right passphrase, an integer timeout and a timer that takes the relock,
`walletpassphrase` unlocks the wallet, tops up its key pool, sets `nWalletUnlockTime` to
`GetTime() + timeout` and schedules the relock after `timeout` seconds; the sum overflows, and
nothing bounds the timeout, exactly when it leaves the range of `int64_t`. -/
theorem walletpassphrase_eq {nSleepTime : SInt 64} (hcrypted : W.IsCrypted st.wallet)
    (hstr : U.get_str passphrase = .ok str) (hlen : 0 < (cStr str).length)
    (hunlock : W.Unlock st.wallet (cStr str) = some wallet)
    (htimeout : L.get_int64 timeout = .ok nSleepTime)
    (hrun : L.RPCRunLater "lockwallet" nSleepTime = .ok ()) :
    walletpassphrase W L U GetTime [passphrase, timeout] st =
      if h : -2 ^ 63 ≤ GetTime.val + nSleepTime.val ∧ GetTime.val + nSleepTime.val < 2 ^ 63 then
        ({ st with
            wallet := W.TopUpKeyPool wallet
            nWalletUnlockTime := ⟨_, h⟩
            lockwallet := some nSleepTime }, .ok ())
      else ({ st with wallet := W.TopUpKeyPool wallet }, .undefined) := by
  rw [walletpassphrase_unlocked W L U hcrypted hstr hlen hunlock, htimeout]
  dsimp only
  by_cases h : -2 ^ 63 ≤ GetTime.val + nSleepTime.val ∧ GetTime.val + nSleepTime.val < 2 ^ 63
  · rw [dif_pos h, SInt.add, SInt.ofInt?_ok (w := 64) h, hrun]
  · rw [dif_neg h, SInt.add, SInt.ofInt?_undefined (w := 64) h]

/-- `walletpassphrase` is not atomic: with the right passphrase and a timeout that is not an
integer, it throws the error of `get_int64` and leaves the wallet unlocked, with neither
`nWalletUnlockTime` nor a relock set. -/
theorem walletpassphrase_timeout_thrown {what : String} (hcrypted : W.IsCrypted st.wallet)
    (hstr : U.get_str passphrase = .ok str) (hlen : 0 < (cStr str).length)
    (hunlock : W.Unlock st.wallet (cStr str) = some wallet)
    (htimeout : L.get_int64 timeout = .error what) :
    walletpassphrase W L U GetTime [passphrase, timeout] st =
      ({ st with wallet := W.TopUpKeyPool wallet }, .thrown what) := by
  rw [walletpassphrase_unlocked W L U hcrypted hstr hlen hunlock, htimeout]

example : (walletpassphrase sampleWalletCrypter samplePassphraseLib sampleStringJson SInt.zero
    ["pw", "sixty"] samplePassphraseState).1.wallet = (true, true) := by decide

/-- When `RPCRunLater` throws, `walletpassphrase` throws its text after it has unlocked the wallet
and set `nWalletUnlockTime`: the wallet stays unlocked with no relock scheduled. -/
theorem walletpassphrase_RPCRunLater_thrown {nSleepTime nWalletUnlockTime : SInt 64}
    {what : String} (hcrypted : W.IsCrypted st.wallet)
    (hstr : U.get_str passphrase = .ok str) (hlen : 0 < (cStr str).length)
    (hunlock : W.Unlock st.wallet (cStr str) = some wallet)
    (htimeout : L.get_int64 timeout = .ok nSleepTime)
    (hsum : GetTime.add nSleepTime = .ok nWalletUnlockTime)
    (hrun : L.RPCRunLater "lockwallet" nSleepTime = .error what) :
    walletpassphrase W L U GetTime [passphrase, timeout] st =
      ({ st with wallet := W.TopUpKeyPool wallet, nWalletUnlockTime }, .thrown what) := by
  rw [walletpassphrase_unlocked W L U hcrypted hstr hlen hunlock, htimeout]
  dsimp only
  rw [hsum, hrun]

end Outcomes

section Failures

variable {S J : Type} (W : WalletCrypter S) (L : PassphraseLib J) (U : UniValueOps J)
  (params : List J) (st : PassphraseState S)

theorem walletlock_settles :
    (walletlock W L params st).1 = st ∨ ∃ x, (walletlock W L params st).2 = .ok x := by
  unfold walletlock
  split_ifs <;> simp

theorem walletpassphrasechange_settles :
    (walletpassphrasechange W L U params st).1 = st ∨
      ∃ x, (walletpassphrasechange W L U params st).2 = .ok x := by
  unfold walletpassphrasechange
  dsimp only
  repeat' split
  all_goals simp

theorem encryptwallet_settles :
    (encryptwallet W L U params st).1 = st ∨ ∃ x, (encryptwallet W L U params st).2 = .ok x := by
  unfold encryptwallet
  dsimp only
  repeat' split
  all_goals simp

/-- A `walletpassphrase` that fails changes at most the wallet and `nWalletUnlockTime`. -/
theorem walletpassphrase_keeps (GetTime : SInt 64) :
    (walletpassphrase W L U GetTime params st).2 = .ok () ∨
      (walletpassphrase W L U GetTime params st).1 =
        { st with
          wallet := (walletpassphrase W L U GetTime params st).1.wallet
          nWalletUnlockTime := (walletpassphrase W L U GetTime params st).1.nWalletUnlockTime } := by
  unfold walletpassphrase
  dsimp only
  repeat' split
  all_goals simp

/-- What a thrown call returns next to its state. -/
theorem unchanged_of_settles {α : Type} {r : PassphraseState S × Result α} {what : String}
    (h : r.1 = st ∨ ∃ x, r.2 = .ok x) (ht : r.2 = .thrown what) : r.1 = st :=
  h.resolve_right fun ⟨_, hx⟩ => by rw [ht] at hx; cases hx

/-- A `walletlock`, `walletpassphrasechange` or `encryptwallet` that throws leaves the wallet, the
unlock time, the scheduled relock and the shutdown request as they were. A `walletpassphrase` that
fails may leave the wallet unlocked, and `nWalletUnlockTime` set when `RPCRunLater` throws, but it
never schedules a relock or requests shutdown. -/
theorem passphrase_thrown_unchanged (GetTime : SInt 64) {what : String} :
    ((walletlock W L params st).2 = .thrown what → (walletlock W L params st).1 = st) ∧
    ((walletpassphrasechange W L U params st).2 = .thrown what →
      (walletpassphrasechange W L U params st).1 = st) ∧
    ((encryptwallet W L U params st).2 = .thrown what → (encryptwallet W L U params st).1 = st) ∧
    ((walletpassphrase W L U GetTime params st).2 ≠ .ok () →
      (walletpassphrase W L U GetTime params st).1 =
        { st with
          wallet := (walletpassphrase W L U GetTime params st).1.wallet
          nWalletUnlockTime := (walletpassphrase W L U GetTime params st).1.nWalletUnlockTime }) :=
  ⟨unchanged_of_settles st (walletlock_settles W L params st),
    unchanged_of_settles st (walletpassphrasechange_settles W L U params st),
    unchanged_of_settles st (encryptwallet_settles W L U params st),
    (walletpassphrase_keeps W L U params st GetTime).resolve_left⟩

end Failures

end Membercoin
