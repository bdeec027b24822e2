import Membercoin.BitcoinTx.Lib
import Membercoin.Sighash

/-!
# The `sign` command of `bitcoin-tx` (`MutateTxSign`)

`MutateTxSign(tx, flagStr)` reads the hash type from `flagStr`, fills a key store from the
`privatekeys` register and a coin view from the `prevtxs` register, then signs each input whose
outpoint the view knows and merges the result with the input's old script. The view sits on
`CCoinsViewDummy`, so it knows exactly the outpoints that the entries of `prevtxs` add.

The registers are passed in: in the source they are the global `registers` map.

* `CMutableTransaction.ScriptSigsOnly`: the relation "only the scripts of the inputs in `P`
  changed", reflexive and transitive, which each pass of the signing loop keeps.
* `foldlM_addPrevOut_known`: the view knows an outpoint only when an entry of `prevtxs` names it.
* `MutateTxSign_scriptSigs`: signing changes nothing but the scripts of inputs, and only of inputs
  whose outpoint an entry of `prevtxs` names.
* `MutateTxSign_registers`: signing throws unless both registers are set.
-/

namespace Membercoin

/-! ## The scripts of the inputs -/

namespace CMutableTransaction

/-- The script of input `i` (`vin[i].scriptSig`). -/
def scriptSigAt (tx : CMutableTransaction) (i : Nat) : CScript :=
  (tx.vin[i]?.map (·.scriptSig)).getD []

/-- `tx.vin[i].scriptSig = s`. -/
def setScriptSig (tx : CMutableTransaction) (i : Nat) (s : CScript) : CMutableTransaction :=
  { tx with vin := tx.vin.modify (fun txin => { txin with scriptSig := s }) i }

/-- `tx'` is `tx` with, at most, the scripts of the inputs `i` with `P i` changed. -/
def ScriptSigsOnly (P : Nat → Prop) (tx tx' : CMutableTransaction) : Prop :=
  tx'.nVersion = tx.nVersion ∧ tx'.vout = tx.vout ∧ tx'.nLockTime = tx.nLockTime ∧
    tx'.vin.length = tx.vin.length ∧
    ∀ i (h : i < tx.vin.length) (h' : i < tx'.vin.length),
      tx'.vin[i].prevout = tx.vin[i].prevout ∧ tx'.vin[i].nSequence = tx.vin[i].nSequence ∧
        (¬P i → tx'.vin[i].scriptSig = tx.vin[i].scriptSig)

namespace ScriptSigsOnly

variable {P Q : Nat → Prop} {tx tx' tx'' : CMutableTransaction}

theorem refl (P : Nat → Prop) (tx : CMutableTransaction) : ScriptSigsOnly P tx tx :=
  ⟨rfl, rfl, rfl, rfl, fun _ _ _ => ⟨rfl, rfl, fun _ => rfl⟩⟩

theorem mono (h : ScriptSigsOnly P tx tx') (hPQ : ∀ i, P i → Q i) : ScriptSigsOnly Q tx tx' :=
  ⟨h.1, h.2.1, h.2.2.1, h.2.2.2.1, fun i hi hi' =>
    let ⟨hp, hs, hsig⟩ := h.2.2.2.2 i hi hi'
    ⟨hp, hs, fun hq => hsig (mt (hPQ i) hq)⟩⟩

theorem trans (h : ScriptSigsOnly P tx tx') (h' : ScriptSigsOnly P tx' tx'') :
    ScriptSigsOnly P tx tx'' := by
  obtain ⟨h1, h2, h3, h4, h5⟩ := h
  obtain ⟨h1', h2', h3', h4', h5'⟩ := h'
  refine ⟨h1'.trans h1, h2'.trans h2, h3'.trans h3, h4'.trans h4, fun i hi hi'' => ?_⟩
  have hi' : i < tx'.vin.length := by omega
  obtain ⟨hp, hs, hsig⟩ := h5 i hi hi'
  obtain ⟨hp', hs', hsig'⟩ := h5' i hi' hi''
  exact ⟨hp'.trans hp, hs'.trans hs, fun hn => (hsig' hn).trans (hsig hn)⟩

/-- A change of input scripts alone gives an equivalent transaction. -/
theorem isEquivalentTo (h : ScriptSigsOnly P tx tx') : tx'.IsEquivalentTo tx :=
  IsEquivalentTo_of_eq h.1 h.2.1 h.2.2.1 h.2.2.2.1 fun i hi' hi =>
    let ⟨hp, hs, _⟩ := h.2.2.2.2 i hi hi'
    ⟨hp, hs⟩

end ScriptSigsOnly

theorem setScriptSig_scriptSigsOnly (tx : CMutableTransaction) (i : Nat) (s : CScript) :
    ScriptSigsOnly (· = i) tx (tx.setScriptSig i s) := by
  refine ⟨rfl, rfl, rfl, List.length_modify _ _ _, fun j hj hj' => ?_⟩
  simp only [setScriptSig, List.getElem_modify]
  split
  · exact ⟨rfl, rfl, fun hne => absurd (Eq.symm ‹i = j›) hne⟩
  · exact ⟨rfl, rfl, fun _ => rfl⟩

theorem foldl_setScriptSig_scriptSigsOnly {α : Type} (f : CMutableTransaction → α → CScript)
    (tx : CMutableTransaction) (l : List α) (i : Nat) :
    ScriptSigsOnly (· = i) tx (l.foldl (fun m a => m.setScriptSig i (f m a)) tx) := by
  induction l generalizing tx with
  | nil => exact .refl _ _
  | cons a as ih => exact (setScriptSig_scriptSigsOnly _ _ _).trans (ih _)

end CMutableTransaction

/-! ## `MutateTxSign` -/

/-- The coin view of `MutateTxSign`: the output an outpoint holds, `none` for a spent or unknown
coin. -/
abbrev CoinsView := COutPoint → Option CTxOut.Full

section Sign

variable {D J Key : Type} (L : BitcoinTxLib D J Key) (U : UniValueOps J) (K : SighashTypes)

/-- `AmountFromValue(value)` of `bitcoin-tx`. -/
def AmountFromValue (value : J) : Result CAmount :=
  if !U.isNum value && !U.isStr value then .thrown "Amount is not a number or string"
  else
    match L.ParseFixedPoint (U.getValStr value) 8 with
    | none => .thrown "Invalid amount"
    | some amount => if !MoneyRange amount then .thrown "Amount out of range" else pure amount

/-- One pass of the loop over the `privatekeys` register. -/
def addPrivateKey (tempKeystore : TempKeystore Key) (key : J) : Result (TempKeystore Key) :=
  if !U.isStr key then .thrown "privatekey not a string"
  else
    match L.SetString (U.getValStr key) with
    | none => .thrown "privatekey not valid"
    | some k => pure { tempKeystore with keys := tempKeystore.keys ++ [k] }

/-- The types `checkObject` requires of an entry of `prevtxs`. -/
def prevOutTypes : List (String × VType) :=
  [("txid", .VSTR), ("vout", .VNUM), ("scriptPubKey", .VSTR)]

/-- `newcoin.out.nValue`: `0`, or the entry's `amount` when it has one. -/
def prevOutAmount (prevOut : J) : Result CAmount :=
  if U.existsKey prevOut "amount" then AmountFromValue L U (U.get prevOut "amount")
  else pure SInt.zero

/-- The end of a pass of the loop over `prevtxs`, once its outpoint and script are read and
checked against the view: the coin goes into the view, and the `redeemScript` of a
pay-to-script-hash output into the key store. -/
def addPrevOutCoin (fGivenKeys : Bool) (view : CoinsView) (tempKeystore : TempKeystore Key)
    (prevOut : J) (out : COutPoint) (scriptPubKey : CScript) :
    Result (CoinsView × TempKeystore Key) := do
  let nValue ← prevOutAmount L U prevOut
  let view := Function.update view out (some ⟨⟨nValue⟩, scriptPubKey⟩)
  if fGivenKeys && L.IsPayToScriptHash scriptPubKey && U.existsKey prevOut "redeemScript" then do
    let redeemScript ← L.ParseHexUV (U.get prevOut "redeemScript") "redeemScript"
    pure (view, { tempKeystore with scripts := tempKeystore.scripts ++ [redeemScript] })
  else pure (view, tempKeystore)

/-- One pass of the loop over the `prevtxs` register. -/
def addPrevOut (fGivenKeys : Bool) (acc : CoinsView × TempKeystore Key) (prevOut : J) :
    Result (CoinsView × TempKeystore Key) :=
  if !U.isObject prevOut then .thrown "expected prevtxs internal object"
  else if !U.checkObject prevOut prevOutTypes then .thrown "prevtxs internal object typecheck fail"
  else do
    let txid ← L.ParseHashUV (U.get prevOut "txid") "txid"
    let nOut := L.atoi (U.getValStr (U.get prevOut "vout"))
    if nOut.val < 0 then .thrown "vout must be positive"
    else do
      let out : COutPoint := ⟨txid, BitVec.ofInt 32 nOut.val⟩
      let scriptPubKey ← L.ParseHexUV (U.get prevOut "scriptPubKey") "scriptPubKey"
      match acc.1 out with
      | some coin =>
        if coin.scriptPubKey ≠ scriptPubKey then
          .thrown ("Previous output scriptPubKey mismatch:\n" ++ L.ScriptToAsmStr coin.scriptPubKey ++
            "\nvs:\n" ++ L.ScriptToAsmStr scriptPubKey)
        else addPrevOutCoin L U fGivenKeys acc.1 acc.2 prevOut out scriptPubKey
      | none => addPrevOutCoin L U fGivenKeys acc.1 acc.2 prevOut out scriptPubKey

/-- One pass of the signing loop, on input `i`: an input whose coin the view does not know is
skipped; otherwise its script is cleared, signed (unless `SIGHASH_SINGLE` has no output `i`) and
merged with the script of each variant. -/
def signInput (keystore : TempKeystore Key) (view : CoinsView) (nHashType : BitVec 32)
    (fHashSingle : Bool) (txVariants : List CMutableTransaction) (mergedTx : CMutableTransaction)
    (i : Nat) : CMutableTransaction :=
  match mergedTx.vin[i]? with
  | none => mergedTx
  | some txin =>
    match view txin.prevout with
    | none => mergedTx
    | some coin =>
      let prevPubKey := coin.scriptPubKey
      let amount := coin.nValue
      let mergedTx := mergedTx.setScriptSig i []
      let mergedTx :=
        if !fHashSingle || decide (i < mergedTx.vout.length) then
          mergedTx.setScriptSig i (L.SignSignature keystore prevPubKey mergedTx i amount nHashType)
        else mergedTx
      txVariants.foldl (fun mergedTx txv => mergedTx.setScriptSig i
        (L.CombineSignatures prevPubKey mergedTx i amount (mergedTx.scriptSigAt i)
          (txv.scriptSigAt i))) mergedTx

/-- `MutateTxSign(tx, flagStr)` with the registers `registers`. -/
def MutateTxSign (registers : String → Option J) (tx : CMutableTransaction) (flagStr : String) :
    Result CMutableTransaction := do
  let nHashType ← MutateTxSign.nHashType K flagStr
  let txVariants := [tx]
  let mergedTx := tx
  match registers "privatekeys" with
  | none => .thrown "privatekeys register variable must be set."
  | some keysObj =>
    let fGivenKeys := true
    let tempKeystore ← (U.getValues keysObj).foldlM (addPrivateKey L U) ⟨[], []⟩
    match registers "prevtxs" with
    | none => .thrown "prevtxs register variable must be set."
    | some prevtxsObj =>
      let (view, keystore) ←
        (U.getValues prevtxsObj).foldlM (addPrevOut L U fGivenKeys) (fun _ => none, tempKeystore)
      let fHashSingle :=
        nHashType &&& ~~~(K.SIGHASH_ANYONECANPAY ||| K.SIGHASH_FORKID) == K.SIGHASH_SINGLE
      pure ((List.range mergedTx.vin.length).foldl
        (signInput L keystore view nHashType fHashSingle txVariants) mergedTx)

/-! ## What signing changes -/

/-- An entry of `prevtxs` names the outpoint `out`: its `txid` parses to the hash and its `vout`
to the index. -/
def NamesOutPoint (prevOut : J) (out : COutPoint) : Prop :=
  L.ParseHashUV (U.get prevOut "txid") "txid" = .ok out.hash ∧
    BitVec.ofInt 32 (L.atoi (U.getValStr (U.get prevOut "vout"))).val = out.n

theorem addPrevOutCoin_known {fGivenKeys : Bool} {view view' : CoinsView}
    {ks ks' : TempKeystore Key} {prevOut : J} {out o : COutPoint} {scriptPubKey : CScript}
    (h : addPrevOutCoin L U fGivenKeys view ks prevOut out scriptPubKey = .ok (view', ks'))
    (ho : view' o ≠ none) : view o ≠ none ∨ o = out := by
  rw [addPrevOutCoin] at h
  obtain ⟨nValue, -, h⟩ := Result.bind_eq_ok.mp h
  have hview : view' = Function.update view out (some ⟨⟨nValue⟩, scriptPubKey⟩) := by
    split at h
    · obtain ⟨_, -, h⟩ := Result.bind_eq_ok.mp h
      exact (congrArg Prod.fst (Result.ok.inj h)).symm
    · exact (congrArg Prod.fst (Result.ok.inj h)).symm
  by_cases hoo : o = out
  · exact .inr hoo
  · rw [hview, Function.update_noteq hoo] at ho
    exact .inl ho

/-- A pass of the loop over `prevtxs` adds to the view only the outpoint its entry names. -/
theorem addPrevOut_known {fGivenKeys : Bool} {acc acc' : CoinsView × TempKeystore Key}
    {prevOut : J} (h : addPrevOut L U fGivenKeys acc prevOut = .ok acc') {o : COutPoint}
    (ho : acc'.1 o ≠ none) : acc.1 o ≠ none ∨ NamesOutPoint L U prevOut o := by
  obtain ⟨view', ks'⟩ := acc'
  simp only [addPrevOut, Bool.not_eq_true', ite_eq_left_iff] at h
  split at h
  · cases h
  split at h
  · cases h
  obtain ⟨txid, htxid, h⟩ := Result.bind_eq_ok.mp h
  split at h
  · cases h
  obtain ⟨spk, -, h⟩ := Result.bind_eq_ok.mp h
  have hcoin : addPrevOutCoin L U fGivenKeys acc.1 acc.2 prevOut
      ⟨txid, BitVec.ofInt 32 (L.atoi (U.getValStr (U.get prevOut "vout"))).val⟩ spk =
      .ok (view', ks') := by
    split at h
    · split at h
      · cases h
      · exact h
    · exact h
  rcases addPrevOutCoin_known L U hcoin ho with h1 | rfl
  · exact .inl h1
  · exact .inr ⟨htxid, rfl⟩

/-- After the loop over `prevtxs`, from a view that knows nothing, the view knows an outpoint only
when an entry of `prevtxs` names it. -/
theorem foldlM_addPrevOut_known {fGivenKeys : Bool} (prevtxs : List J)
    {acc acc' : CoinsView × TempKeystore Key}
    (h : prevtxs.foldlM (addPrevOut L U fGivenKeys) acc = .ok acc') {o : COutPoint}
    (ho : acc'.1 o ≠ none) : acc.1 o ≠ none ∨ ∃ p ∈ prevtxs, NamesOutPoint L U p o := by
  induction prevtxs generalizing acc with
  | nil => exact .inl (by cases h; exact ho)
  | cons p ps ih =>
    obtain ⟨acc₁, h₁, hrest⟩ := Result.bind_eq_ok.mp (by simpa only [List.foldlM_cons] using h)
    rcases ih hrest with h2 | ⟨q, hq, hn⟩
    · rcases addPrevOut_known L U h₁ h2 with h3 | h3
      · exact .inl h3
      · exact .inr ⟨p, List.mem_cons_self _ _, h3⟩
    · exact .inr ⟨q, List.mem_cons_of_mem _ hq, hn⟩

/-- A pass of the signing loop changes at most the script of input `i`, and only when the view
knows its outpoint. -/
theorem signInput_scriptSigsOnly (keystore : TempKeystore Key) (view : CoinsView)
    (nHashType : BitVec 32) (fHashSingle : Bool) (txVariants : List CMutableTransaction)
    (mergedTx : CMutableTransaction) (i : Nat) :
    mergedTx.ScriptSigsOnly (fun j => j = i ∧ ∃ txin ∈ mergedTx.vin[i]?, view txin.prevout ≠ none)
      (signInput L keystore view nHashType fHashSingle txVariants mergedTx i) := by
  unfold signInput
  split
  · exact .refl _ _
  rename_i txin htxin
  split
  · exact .refl _ _
  rename_i coin hcoin
  have hP : ∀ j, j = i → j = i ∧ ∃ t ∈ mergedTx.vin[i]?, view t.prevout ≠ none :=
    fun j hj => ⟨hj, txin, htxin, by simp [hcoin]⟩
  refine CMutableTransaction.ScriptSigsOnly.mono ?_ hP
  have hset := CMutableTransaction.setScriptSig_scriptSigsOnly
  dsimp only
  split
  · exact (hset _ _ _).trans
      ((hset _ _ _).trans (CMutableTransaction.foldl_setScriptSig_scriptSigsOnly _ _ _ _))
  · exact (hset _ _ _).trans (CMutableTransaction.foldl_setScriptSig_scriptSigsOnly _ _ _ _)

/-- The signing loop changes at most the scripts of the inputs whose outpoint the view knows. -/
theorem foldl_signInput_scriptSigsOnly (keystore : TempKeystore Key) (view : CoinsView)
    (nHashType : BitVec 32) (fHashSingle : Bool) (txVariants : List CMutableTransaction)
    (tx : CMutableTransaction) (idx : List Nat) :
    tx.ScriptSigsOnly (fun j => ∃ txin ∈ tx.vin[j]?, view txin.prevout ≠ none)
      (idx.foldl (signInput L keystore view nHashType fHashSingle txVariants) tx) := by
  induction idx generalizing tx with
  | nil => exact .refl _ _
  | cons i is ih =>
    have h1 := signInput_scriptSigsOnly L keystore view nHashType fHashSingle txVariants tx i
    refine (h1.mono fun j ⟨hj, hk⟩ => hj ▸ hk).trans ?_
    refine (ih _).mono fun j ⟨txin, hm, hv⟩ => ?_
    obtain ⟨-, -, -, hlen, hin⟩ := h1
    obtain ⟨hj, hget⟩ := List.getElem?_eq_some_iff.mp (Option.mem_def.mp hm)
    obtain ⟨hp, -, -⟩ := hin j (hlen ▸ hj) hj
    exact ⟨_, Option.mem_def.mpr (List.getElem?_eq_getElem _), by rw [← hp, hget]; exact hv⟩

/-- Signing changes nothing but the scripts of inputs, and only of inputs whose outpoint an entry
of the `prevtxs` register names. -/
theorem MutateTxSign_scriptSigs {registers : String → Option J} {tx tx' : CMutableTransaction}
    {flagStr : String} (h : MutateTxSign L U K registers tx flagStr = .ok tx') :
    ∃ prevtxs, registers "prevtxs" = some prevtxs ∧
      tx.ScriptSigsOnly (fun i => ∃ txin ∈ tx.vin[i]?, ∃ p ∈ U.getValues prevtxs,
        NamesOutPoint L U p txin.prevout) tx' := by
  obtain ⟨nHashType, -, h⟩ := Result.bind_eq_ok.mp h
  simp only at h
  split at h
  · cases h
  obtain ⟨ks, -, h⟩ := Result.bind_eq_ok.mp h
  split at h
  · cases h
  rename_i prevtxs hprev
  obtain ⟨⟨view, keystore⟩, hview, h⟩ := Result.bind_eq_ok.mp h
  refine ⟨prevtxs, hprev, ?_⟩
  rw [← Result.ok.inj h]
  refine (foldl_signInput_scriptSigsOnly L keystore view _ _ _ tx _).mono fun i ⟨txin, hm, hv⟩ =>
    ⟨txin, hm, ?_⟩
  rcases foldlM_addPrevOut_known L U _ hview hv with h0 | h0
  · exact absurd rfl h0
  · exact h0

/-- Signing throws unless both the `privatekeys` and the `prevtxs` registers are set. -/
theorem MutateTxSign_registers {registers : String → Option J} {tx tx' : CMutableTransaction}
    {flagStr : String} (h : MutateTxSign L U K registers tx flagStr = .ok tx') :
    registers "privatekeys" ≠ none ∧ registers "prevtxs" ≠ none := by
  obtain ⟨nHashType, -, h⟩ := Result.bind_eq_ok.mp h
  simp only at h
  split at h
  · cases h
  rename_i keysObj hkeys
  obtain ⟨ks, -, h⟩ := Result.bind_eq_ok.mp h
  split at h
  · cases h
  rename_i prevtxs hprev
  exact ⟨by simp [hkeys], by simp [hprev]⟩

end Sign

end Membercoin
