import Membercoin.BitcoinTx.Parts

/-!
# Runs of `bitcoin-tx` commands

`MutateTx_cases` says once what a command that returns can have done; the invariants of whole
runs follow from it by induction on the arguments.

* `commandLoop_lengths`: after a run, the inputs are the old ones plus the `in` commands minus the
  `delin` commands, and the outputs the old ones plus the `outaddr`, `outdata` and `outscript`
  commands minus the `delout` commands.
* `MutateTx_append_erase`: a command that appends an input or an output, followed by the deletion
  at the index of the new element, gives the state back.
* `commandLoop_HasData`: a run that has an `outdata` command and no `delout` after it ends with
  a transaction that carries data.
* `MutateTx_outdata_HasDataID`: `outdata` of four bytes tags the transaction with their
  little-endian value, which `HasData(dataID)` reads back.
* `commandLoop_sign_registers`: in a run from a state without the `privatekeys` or the `prevtxs`
  register, a `sign` that returns comes after a `set` or `load` of that register.
* `MutateTx_sign_frame`: `sign` keeps the registers and changes only the scripts of the inputs
  whose outpoints the `prevtxs` register names.
* `MutateTx_in`: `in=TXID:VOUT[:SEQ]` with valid parts appends the one input they name.
* `commandLoop_set`: `set=NAME:JSON` sets the one register `NAME` and keeps the transaction.
* `commandLoop_IsEquivalentTo`: a run of `sign`, `load` and `set` commands ends with a
  transaction equivalent to the one it started from.
-/

namespace Membercoin

section Runs

variable {D J Key : Type} (L : BitcoinTxLib D J Key) (U : UniValueOps J) (K : SighashTypes)

/-! ## What one command does -/

theorem RegisterSetJson_eq_ok {registers registers' : String → Option J} {key rawJson : String}
    (h : RegisterSetJson U registers key rawJson = .ok registers') :
    ∃ val, registers' = Function.update registers key (some val) := by
  unfold RegisterSetJson at h
  split at h
  · cases h
  · exact ⟨_, (Result.ok.inj h).symm⟩

/-- `set` and `load` write the register that their value names, and no other. -/
theorem RegisterSetLoad_eq_ok {registers registers' : String → Option J} {strInput : String}
    (h : RegisterSet U registers strInput = .ok registers' ∨
      RegisterLoad L U registers strInput = .ok registers') :
    ∃ key val, (registerSplit strInput).map Prod.fst = some key ∧
      registers' = Function.update registers key (some val) := by
  rcases h with h | h
  · unfold RegisterSet at h
    split at h
    · cases h
    · rename_i key valStr hsplit
      exact ⟨key, RegisterSetJson_eq_ok U h |>.imp fun _ hv => ⟨by rw [hsplit]; rfl, hv⟩⟩
  · unfold RegisterLoad at h
    split at h
    · cases h
    · rename_i key filename hsplit
      split at h
      · cases h
      · cases h
      · exact ⟨key, RegisterSetJson_eq_ok U h |>.imp fun _ hv => ⟨by rw [hsplit]; rfl, hv⟩⟩

/-- What a command that returns can have done to the state, one constructor per command. -/
inductive Mutated (st : RawTxState J) : String → String → RawTxState J → Prop
  | nversion (commandVal : String) (nVersion : CInt) :
    Mutated st "nversion" commandVal ⟨{ st.tx with nVersion := nVersion }, st.registers⟩
  | locktime (commandVal : String) (nLockTime : BitVec 32) :
    Mutated st "locktime" commandVal ⟨{ st.tx with nLockTime := nLockTime }, st.registers⟩
  | delin (commandVal : String) (hidx : (L.atoi commandVal).val.toNat < st.tx.vin.length) :
    Mutated st "delin" commandVal
      ⟨{ st.tx with vin := st.tx.vin.eraseIdx (L.atoi commandVal).val.toNat }, st.registers⟩
  | addIn (commandVal : String) (txin : CTxIn.Full) :
    Mutated st "in" commandVal ⟨{ st.tx with vin := st.tx.vin ++ [txin] }, st.registers⟩
  | delout (commandVal : String) (hidx : (L.atoi commandVal).val.toNat < st.tx.vout.length) :
    Mutated st "delout" commandVal
      ⟨{ st.tx with vout := st.tx.vout.eraseIdx (L.atoi commandVal).val.toNat }, st.registers⟩
  | addOut (command commandVal : String) (txout : CTxOut.Full)
    (hcommand : command = "outaddr" ∨ command = "outscript") :
    Mutated st command commandVal ⟨{ st.tx with vout := st.tx.vout ++ [txout] }, st.registers⟩
  | outdata (commandVal : String) (txout : CTxOut.Full)
    (htxout : MutateTxAddOutData.txout L commandVal = .ok txout) :
    Mutated st "outdata" commandVal ⟨{ st.tx with vout := st.tx.vout ++ [txout] }, st.registers⟩
  | sign (commandVal : String) (tx : CMutableTransaction)
    (hsign : MutateTxSign L U K st.registers st.tx commandVal = .ok tx) :
    Mutated st "sign" commandVal ⟨tx, st.registers⟩
  | register (command commandVal key : String) (val : J) (hcommand : command = "load" ∨ command = "set")
    (hkey : (registerSplit commandVal).map Prod.fst = some key) :
    Mutated st command commandVal ⟨st.tx, Function.update st.registers key (some val)⟩

/-- Everything a command that returns can have done. -/
theorem MutateTx_cases {st s : RawTxState J} {command commandVal : String}
    (h : MutateTx L U K st command commandVal = .ok s) : Mutated L U K st command commandVal s := by
  unfold MutateTx at h
  by_cases h1 : command = "nversion"
  · rw [if_pos h1] at h
    obtain ⟨tx, htx, rfl⟩ := Result.map_eq_ok.mp h
    obtain ⟨nVersion, rfl⟩ := MutateTxVersion_eq_ok L htx
    exact h1 ▸ .nversion _ _
  rw [if_neg h1] at h
  by_cases h2 : command = "locktime"
  · rw [if_pos h2] at h
    obtain ⟨tx, htx, rfl⟩ := Result.map_eq_ok.mp h
    obtain ⟨nLockTime, rfl⟩ := MutateTxLocktime_eq_ok L htx
    exact h2 ▸ .locktime _ _
  rw [if_neg h2] at h
  by_cases h3 : command = "delin"
  · rw [if_pos h3] at h
    obtain ⟨tx, htx, rfl⟩ := Result.map_eq_ok.mp h
    obtain ⟨vin, hvin, rfl⟩ := Result.map_eq_ok.mp htx
    obtain ⟨hidx, rfl⟩ := eraseAtIndex_eq_ok L hvin
    exact h3 ▸ .delin _ hidx
  rw [if_neg h3] at h
  by_cases h4 : command = "in"
  · rw [if_pos h4] at h
    obtain ⟨tx, htx, rfl⟩ := Result.map_eq_ok.mp h
    obtain ⟨txin, -, htx⟩ := Result.bind_eq_ok.mp htx
    cases htx
    exact h4 ▸ .addIn _ _
  rw [if_neg h4] at h
  by_cases h5 : command = "delout"
  · rw [if_pos h5] at h
    obtain ⟨tx, htx, rfl⟩ := Result.map_eq_ok.mp h
    obtain ⟨vout, hvout, rfl⟩ := Result.map_eq_ok.mp htx
    obtain ⟨hidx, rfl⟩ := eraseAtIndex_eq_ok L hvout
    exact h5 ▸ .delout _ hidx
  rw [if_neg h5] at h
  by_cases h6 : command = "outaddr"
  · rw [if_pos h6] at h
    obtain ⟨tx, htx, rfl⟩ := Result.map_eq_ok.mp h
    obtain ⟨txout, -, htx⟩ := Result.bind_eq_ok.mp htx
    cases htx
    exact .addOut _ _ _ (.inl h6)
  rw [if_neg h6] at h
  by_cases h7 : command = "outdata"
  · rw [if_pos h7] at h
    obtain ⟨tx, htx, rfl⟩ := Result.map_eq_ok.mp h
    obtain ⟨txout, hout, htx⟩ := Result.bind_eq_ok.mp htx
    cases htx
    exact h7 ▸ .outdata _ _ hout
  rw [if_neg h7] at h
  by_cases h8 : command = "outscript"
  · rw [if_pos h8] at h
    obtain ⟨tx, htx, rfl⟩ := Result.map_eq_ok.mp h
    obtain ⟨txout, -, htx⟩ := Result.bind_eq_ok.mp htx
    cases htx
    exact .addOut _ _ _ (.inr h8)
  rw [if_neg h8] at h
  by_cases h9 : command = "sign"
  · rw [if_pos h9] at h
    obtain ⟨tx, htx, rfl⟩ := Result.map_eq_ok.mp h
    exact h9 ▸ .sign _ _ htx
  rw [if_neg h9] at h
  by_cases h10 : command = "load"
  · rw [if_pos h10] at h
    obtain ⟨regs, hregs, rfl⟩ := Result.map_eq_ok.mp h
    obtain ⟨key, val, hkey, rfl⟩ := RegisterSetLoad_eq_ok L U (.inr hregs)
    exact .register _ _ _ _ (.inl h10) hkey
  rw [if_neg h10] at h
  by_cases h11 : command = "set"
  · rw [if_pos h11] at h
    obtain ⟨regs, hregs, rfl⟩ := Result.map_eq_ok.mp h
    obtain ⟨key, val, hkey, rfl⟩ := RegisterSetLoad_eq_ok L U (.inl hregs)
    exact .register _ _ _ _ (.inr h11) hkey
  rw [if_neg h11] at h
  cases h

theorem commandLoop_cons (st : RawTxState J) (arg : String) (args : List String) :
    commandLoop L U K st (arg :: args) =
      MutateTx L U K st (splitArg arg).1 (splitArg arg).2 >>= fun s => commandLoop L U K s args :=
  List.foldlM_cons _ _ _ _

theorem commandLoop_append (st : RawTxState J) (pre post : List String) :
    commandLoop L U K st (pre ++ post) =
      commandLoop L U K st pre >>= fun s => commandLoop L U K s post :=
  List.foldlM_append _ _ _ _

/-! ## The sizes of the inputs and outputs -/

/-- How many arguments of `args` are the command `command`. -/
def countCommand (command : String) (args : List String) : Nat :=
  args.countP fun arg => (splitArg arg).1 = command

/-- One command adds an input (`in`) or removes one (`delin`), adds an output or removes one
(`delout`), or keeps both counts. -/
theorem Mutated_lengths {st s : RawTxState J} {command commandVal : String}
    (h : Mutated L U K st command commandVal s) :
    s.tx.vin.length + (if command = "delin" then 1 else 0) =
      st.tx.vin.length + (if command = "in" then 1 else 0) ∧
    s.tx.vout.length + (if command = "delout" then 1 else 0) =
      st.tx.vout.length + (if command = "outaddr" then 1 else 0) +
        (if command = "outdata" then 1 else 0) + (if command = "outscript" then 1 else 0) := by
  cases h with
  | nversion | locktime | addIn | outdata => simp
  | register _ _ _ _ hcommand | addOut _ _ _ hcommand => rcases hcommand with rfl | rfl <;> simp
  | delin _ hidx => simp [List.length_eraseIdx, hidx]; omega
  | delout _ hidx => simp [List.length_eraseIdx, hidx]; omega
  | sign _ tx hsign =>
    obtain ⟨_, _, -, hvout, -, hvin, -⟩ := MutateTxSign_scriptSigs L U K hsign
    simp [hvin, hvout]

/-- After a run, the inputs are the old ones plus the `in` commands minus the `delin` commands,
and the outputs the old ones plus the `outaddr`, `outdata` and `outscript` commands minus the
`delout` commands. -/
theorem commandLoop_lengths {args : List String} {st s : RawTxState J}
    (h : commandLoop L U K st args = .ok s) :
    s.tx.vin.length + countCommand "delin" args = st.tx.vin.length + countCommand "in" args ∧
    s.tx.vout.length + countCommand "delout" args =
      st.tx.vout.length + countCommand "outaddr" args + countCommand "outdata" args +
        countCommand "outscript" args := by
  induction args generalizing st with
  | nil => cases h; simp [countCommand]
  | cons arg args ih =>
    rw [commandLoop_cons] at h
    obtain ⟨s₁, h₁, hrest⟩ := Result.bind_eq_ok.mp h
    have := Mutated_lengths L U K (MutateTx_cases L U K h₁)
    have := ih hrest
    simp only [countCommand, List.countP_cons, decide_eq_true_eq] at this ⊢
    omega

theorem commandLoop_lengths_outdata :
    commandLoop sampleLib sampleUniValue sampleSighashTypes (sampleState [])
        ["outdata=ab", "outdata=cd", "delout=0"] =
      .ok (sampleState [⟨⟨SInt.zero⟩, [0x6a, 1, 0xcd]⟩]) ∧
    (sampleState [⟨⟨SInt.zero⟩, [0x6a, 1, 0xcd]⟩]).tx.vin.length +
        countCommand "delin" ["outdata=ab", "outdata=cd", "delout=0"] =
      (sampleState []).tx.vin.length + countCommand "in" ["outdata=ab", "outdata=cd", "delout=0"] ∧
    (sampleState [⟨⟨SInt.zero⟩, [0x6a, 1, 0xcd]⟩]).tx.vout.length +
        countCommand "delout" ["outdata=ab", "outdata=cd", "delout=0"] =
      (sampleState []).tx.vout.length +
        countCommand "outaddr" ["outdata=ab", "outdata=cd", "delout=0"] +
        countCommand "outdata" ["outdata=ab", "outdata=cd", "delout=0"] +
        countCommand "outscript" ["outdata=ab", "outdata=cd", "delout=0"] :=
  have h : commandLoop sampleLib sampleUniValue sampleSighashTypes (sampleState [])
        ["outdata=ab", "outdata=cd", "delout=0"] =
      .ok (sampleState [⟨⟨SInt.zero⟩, [0x6a, 1, 0xcd]⟩]) := by rfl
  ⟨h, commandLoop_lengths sampleLib sampleUniValue sampleSighashTypes h⟩

/-! ## Deleting what was appended -/

/-- A command that appends an input (`in`) or an output (`outaddr`, `outdata`, `outscript`) is
undone by `delin` or `delout` at the index of the new element, while the count stays below
`2^31 - 1`, where `(int)v.size()` does not wrap. -/
theorem MutateTx_append_erase {st s : RawTxState J} {command commandVal strIdx : String}
    (h : MutateTx L U K st command commandVal = .ok s)
    (hadd : command = "in" ∨ command = "outaddr" ∨ command = "outdata" ∨ command = "outscript")
    (hidx : (L.atoi strIdx).val = if command = "in" then st.tx.vin.length else st.tx.vout.length)
    (hlen : (if command = "in" then st.tx.vin.length else st.tx.vout.length) + 1 < 2 ^ 31) :
    MutateTx L U K s (if command = "in" then "delin" else "delout") strIdx = .ok st := by
  have hout (txout : CTxOut.Full) (hidx : (L.atoi strIdx).val = st.tx.vout.length)
      (hlen : st.tx.vout.length + 1 < 2 ^ 31) :
      MutateTx L U K ⟨{ st.tx with vout := st.tx.vout ++ [txout] }, st.registers⟩ "delout" strIdx =
        .ok st := by
    simp only [MutateTx, MutateTxDelOutput, String.reduceEq, ↓reduceIte,
      eraseAtIndex_append L _ _ _ hidx hlen, Result.map_ok]
  cases MutateTx_cases L U K h with
  | addIn _ txin =>
    simp only [↓reduceIte] at hidx hlen ⊢
    simp only [MutateTx, MutateTxDelInput, String.reduceEq, ↓reduceIte,
      eraseAtIndex_append L _ _ _ hidx hlen, Result.map_ok]
  | addOut command _ txout hcommand =>
    rcases hcommand with rfl | rfl <;> simp only [String.reduceEq, ↓reduceIte] at hidx hlen ⊢ <;>
      exact hout txout hidx hlen
  | outdata _ txout =>
    simp only [String.reduceEq, ↓reduceIte] at hidx hlen ⊢
    exact hout txout hidx hlen
  | register _ _ _ _ hcommand => rcases hcommand with rfl | rfl <;> simp at hadd
  | _ => simp at hadd

theorem MutateTx_append_erase_outdata :
    MutateTx sampleLib sampleUniValue sampleSighashTypes (sampleState []) "outdata" "ab" =
      .ok (sampleState [⟨⟨SInt.zero⟩, [0x6a, 1, 0xab]⟩]) ∧
    ("outdata" = "in" ∨ "outdata" = "outaddr" ∨ "outdata" = "outdata" ∨ "outdata" = "outscript") ∧
    (sampleLib.atoi "0").val =
      (if "outdata" = "in" then (sampleState []).tx.vin.length else (sampleState []).tx.vout.length) ∧
    (if "outdata" = "in" then (sampleState []).tx.vin.length else (sampleState []).tx.vout.length) + 1 <
      2 ^ 31 ∧
    MutateTx sampleLib sampleUniValue sampleSighashTypes (sampleState [⟨⟨SInt.zero⟩, [0x6a, 1, 0xab]⟩])
      (if "outdata" = "in" then "delin" else "delout") "0" = .ok (sampleState []) :=
  have h : MutateTx sampleLib sampleUniValue sampleSighashTypes (sampleState []) "outdata" "ab" =
      .ok (sampleState [⟨⟨SInt.zero⟩, [0x6a, 1, 0xab]⟩]) := by rfl
  have hidx : (sampleLib.atoi "0").val =
      (if "outdata" = "in" then (sampleState []).tx.vin.length else (sampleState []).tx.vout.length) := by
    rfl
  ⟨h, by decide, hidx, by decide, MutateTx_append_erase sampleLib sampleUniValue sampleSighashTypes h
    (by decide) hidx (by decide)⟩

/-! ## Inputs -/

/-- The argument `in=TXID:VOUT[:SEQUENCE]`, for a valid txid and output index: the new input spends
that outpoint with an empty script, and its sequence number is `0xffffffff` by default, or the
`unsigned long` that `std::stoul` reads, cut to its low 32 bits. -/
theorem MutateTx_in {st : RawTxState J} {txid vout : String} (htxid : ':' ∉ txid.toList)
    (hvout : ':' ∉ vout.toList) (hsize : txid.utf8ByteSize = 64) (hhex : L.IsHex txid)
    (hrange : 0 ≤ (L.atoi vout).val ∧ (L.atoi vout).val ≤ maxVout) :
    MutateTx L U K st "in" (txid ++ ":" ++ vout) =
      .ok ⟨{ st.tx with vin := st.tx.vin ++
        [⟨⟨[]⟩, ⟨L.uint256S txid, BitVec.ofInt 32 (L.atoi vout).val⟩, BitVec.allOnes 32⟩] },
        st.registers⟩ ∧
    ∀ seq : String, ':' ∉ seq.toList →
      MutateTx L U K st "in" (txid ++ ":" ++ vout ++ ":" ++ seq) =
        (fun n : BitVec 64 => (⟨{ st.tx with vin := st.tx.vin ++
          [⟨⟨[]⟩, ⟨L.uint256S txid, BitVec.ofInt 32 (L.atoi vout).val⟩, n.setWidth 32⟩] },
          st.registers⟩ : RawTxState J)) <$> L.stoul seq := by
  have hvout' : ¬((L.atoi vout).val < 0 ∨ (L.atoi vout).val > (maxVout : Int)) := by omega
  constructor
  · have hsplit : boostSplit (txid ++ ":" ++ vout) = [txid, vout] := by
      rw [boostSplit_append htxid, boostSplit_of_not_mem hvout]
    simp [MutateTx, MutateTxAddInput, MutateTxAddInput.txin, hsplit, hsize, hhex, hvout']
  · intro seq hseq
    have hsplit : boostSplit (txid ++ ":" ++ vout ++ ":" ++ seq) = [txid, vout, seq] := by
      rw [String.append_assoc, String.append_assoc, boostSplit_append htxid,
        ← String.append_assoc, boostSplit_append hvout, boostSplit_of_not_mem hseq]
    simp [MutateTx, MutateTxAddInput, MutateTxAddInput.txin, hsplit, hsize, hhex, hvout']
    cases L.stoul seq <;> rfl

/-! ## Data outputs -/

/-- A command other than `delout` keeps a data output, and `outdata` writes one. -/
theorem Mutated_HasData {st s : RawTxState J} {command commandVal : String}
    (h : Mutated L U K st command commandVal s) (hdel : command ≠ "delout")
    (hd : st.tx.HasData L.OP_RETURN ∨ command = "outdata") : s.tx.HasData L.OP_RETURN := by
  cases h with
  | delout => exact absurd rfl hdel
  | outdata _ txout htxout =>
    have hscript := MutateTxAddOutData.txout_scriptPubKey L htxout
    simp [CMutableTransaction.HasData, List.any_append, IsDataOutput, hscript]
  | addOut command _ txout hcommand =>
    rcases hcommand with rfl | rfl <;>
      simp only [CMutableTransaction.HasData, String.reduceEq, or_false] at hd <;>
      simp [CMutableTransaction.HasData, List.any_append, hd]
  | sign _ tx hsign =>
    obtain ⟨_, _, -, hvout, -⟩ := MutateTxSign_scriptSigs L U K hsign
    simp only [String.reduceEq, or_false] at hd
    simpa [CMutableTransaction.HasData, hvout] using hd
  | register _ _ _ _ hcommand =>
    rcases hcommand with rfl | rfl <;> simpa only [String.reduceEq, or_false] using hd
  | _ => simpa only [String.reduceEq, or_false] using hd

/-- A run without `delout` keeps a data output, and ends with one when it has an `outdata`. -/
theorem commandLoop_keeps_HasData {args : List String} {st s : RawTxState J}
    (h : commandLoop L U K st args = .ok s) (hdel : ∀ arg ∈ args, (splitArg arg).1 ≠ "delout")
    (hd : st.tx.HasData L.OP_RETURN ∨ ∃ arg ∈ args, (splitArg arg).1 = "outdata") :
    s.tx.HasData L.OP_RETURN := by
  induction args generalizing st with
  | nil => cases h; simpa using hd
  | cons arg args ih =>
    rw [commandLoop_cons] at h
    obtain ⟨s₁, h₁, hrest⟩ := Result.bind_eq_ok.mp h
    simp only [List.mem_cons, forall_eq_or_imp, exists_eq_or_imp] at hdel hd
    have hstep := Mutated_HasData L U K (MutateTx_cases L U K h₁) hdel.1
    exact ih hrest hdel.2 ((or_assoc.mpr hd).imp_left hstep)

/-- A run that has an `outdata` command and no `delout` after it ends with a transaction that
carries data. -/
theorem commandLoop_HasData {pre post : List String} {st s : RawTxState J}
    (h : commandLoop L U K st (pre ++ post) = .ok s)
    (hout : ∃ arg ∈ post, (splitArg arg).1 = "outdata")
    (hdel : ∀ arg ∈ post, (splitArg arg).1 ≠ "delout") : s.tx.HasData L.OP_RETURN := by
  rw [commandLoop_append] at h
  obtain ⟨s₁, -, h⟩ := Result.bind_eq_ok.mp h
  exact commandLoop_keeps_HasData L U K h hdel (.inr hout)

theorem commandLoop_HasData_outdata :
    commandLoop sampleLib sampleUniValue sampleSighashTypes (sampleState [])
        (["outdata=ab", "delout=0"] ++ ["outdata=cd"]) =
      .ok (sampleState [⟨⟨SInt.zero⟩, [0x6a, 1, 0xcd]⟩]) ∧
    (∃ arg ∈ ["outdata=cd"], (splitArg arg).1 = "outdata") ∧
    (∀ arg ∈ ["outdata=cd"], (splitArg arg).1 ≠ "delout") ∧
    (sampleState [⟨⟨SInt.zero⟩, [0x6a, 1, 0xcd]⟩]).tx.HasData sampleLib.OP_RETURN :=
  have h : commandLoop sampleLib sampleUniValue sampleSighashTypes (sampleState [])
        (["outdata=ab", "delout=0"] ++ ["outdata=cd"]) =
      .ok (sampleState [⟨⟨SInt.zero⟩, [0x6a, 1, 0xcd]⟩]) := by rfl
  have hout : ∃ arg ∈ ["outdata=cd"], (splitArg arg).1 = "outdata" := by decide
  have hdel : ∀ arg ∈ ["outdata=cd"], (splitArg arg).1 ≠ "delout" := by decide
  ⟨h, hout, hdel, commandLoop_HasData sampleLib sampleUniValue sampleSighashTypes h hout hdel⟩

/-- `outdata` of four bytes of data, which `pushData` pushes behind the opcode `4`, tags the
transaction with their little-endian value: what `HasData(dataID)` reads is what `outdata`
wrote. -/
theorem MutateTx_outdata_HasDataID {st s : RawTxState J} {commandVal : String}
    (h : MutateTx L U K st "outdata" commandVal = .ok s) {d : List (BitVec 8)}
    (hd : L.ParseHex (MutateTxAddOutData.strData commandVal) = d) (hlen : d.length = 4)
    (hpush : L.pushData d = 4 :: d) :
    s.tx.HasDataID L.OP_RETURN (BitVec.ofNat 32 (leValue d)) := by
  simp only [MutateTx, MutateTxAddOutData, String.reduceEq, ↓reduceIte] at h
  obtain ⟨tx, htx, rfl⟩ := Result.map_eq_ok.mp h
  obtain ⟨txout, hout, htx⟩ := Result.bind_eq_ok.mp htx
  cases htx
  have hscript := MutateTxAddOutData.txout_scriptPubKey L hout
  rw [hd, hpush] at hscript
  simp [CMutableTransaction.HasDataID, List.any_append, IsTaggedOutput_push _ _ hlen hscript]

/-! ## The registers -/

/-- Only `set` and `load` write a register, and only the one their value names. -/
theorem Mutated_registers {st s : RawTxState J} {command commandVal : String}
    (h : Mutated L U K st command commandVal s) (key : String) :
    s.registers key = st.registers key ∨
      ((command = "load" ∨ command = "set") ∧ (registerSplit commandVal).map Prod.fst = some key) := by
  cases h with
  | register _ _ key' _ hcommand hkey =>
    by_cases hk : key = key'
    · exact .inr ⟨hcommand, hk ▸ hkey⟩
    · exact .inl (Function.update_noteq hk _ _)
  | _ => exact .inl rfl

/-- A register that no `set` or `load` of the run names keeps its value. -/
theorem commandLoop_registers {args : List String} {st s : RawTxState J}
    (h : commandLoop L U K st args = .ok s) {key : String}
    (hkey : ∀ arg ∈ args, (splitArg arg).1 = "load" ∨ (splitArg arg).1 = "set" →
      (registerSplit (splitArg arg).2).map Prod.fst ≠ some key) :
    s.registers key = st.registers key := by
  induction args generalizing st with
  | nil => cases h; rfl
  | cons arg args ih =>
    rw [commandLoop_cons] at h
    obtain ⟨s₁, h₁, hrest⟩ := Result.bind_eq_ok.mp h
    simp only [List.mem_cons, forall_eq_or_imp] at hkey
    rw [ih hrest hkey.2]
    rcases Mutated_registers L U K (MutateTx_cases L U K h₁) key with h | ⟨hc, hk⟩
    · exact h
    · exact absurd hk (hkey.1 hc)

/-- The argument `set=NAME:JSON`, for a non-empty register name without `':'` and a non-empty
JSON text: the register `NAME` takes the parsed value and nothing else changes, or the command
throws `Cannot parse JSON for key NAME`. -/
theorem commandLoop_set {st : RawTxState J} {name json : String} (hname : ':' ∉ name.toList)
    (hne : name ≠ "") (hjson : json ≠ "") (hlen : name.length < npos) :
    commandLoop L U K st ["set=" ++ name ++ ":" ++ json] =
      match U.read json with
      | some val => .ok ⟨st.tx, Function.update st.registers name (some val)⟩
      | none => .thrown ("Cannot parse JSON for key " ++ name) := by
  have harg : splitArg ("set=" ++ name ++ ":" ++ json) = ("set", name ++ ":" ++ json) := by
    have hstr : "set=" ++ name ++ ":" ++ json = "set" ++ "=" ++ (name ++ ":" ++ json) :=
      String.ext (by simp)
    rw [hstr]
    exact splitArg_append (by decide) (by decide)
  rw [commandLoop_cons, harg]
  simp only [MutateTx, String.reduceEq, ↓reduceIte, RegisterSet,
    registerSplit_append hname hne hjson hlen, RegisterSetJson]
  cases U.read json <;> rfl

/-- In a run from a state without the `privatekeys` or the `prevtxs` register, a `sign` that
returns comes after a `set` or `load` of that register. -/
theorem commandLoop_sign_registers {pre post : List String} {arg name : String}
    {st s : RawTxState J} (h : commandLoop L U K st (pre ++ arg :: post) = .ok s)
    (harg : (splitArg arg).1 = "sign") (hname : name = "privatekeys" ∨ name = "prevtxs")
    (hst : st.registers name = none) :
    ∃ b ∈ pre, ((splitArg b).1 = "load" ∨ (splitArg b).1 = "set") ∧
      (registerSplit (splitArg b).2).map Prod.fst = some name := by
  by_contra hno
  push_neg at hno
  rw [commandLoop_append] at h
  obtain ⟨s₁, h₁, h⟩ := Result.bind_eq_ok.mp h
  rw [commandLoop_cons, harg] at h
  obtain ⟨s₂, h₂, -⟩ := Result.bind_eq_ok.mp h
  simp only [MutateTx, String.reduceEq, ↓reduceIte] at h₂
  obtain ⟨tx, hsign, -⟩ := Result.map_eq_ok.mp h₂
  have hkeep := commandLoop_registers L U K h₁ fun b hb hc => hno b hb hc
  have hset := MutateTxSign_registers L U K hsign
  rcases hname with rfl | rfl
  · exact hset.1 (hkeep.trans hst)
  · exact hset.2 (hkeep.trans hst)

theorem commandLoop_sign_registers_set :
    commandLoop sampleLib sampleUniValue sampleSighashTypes (sampleState [])
        (["set=privatekeys:[]", "set=prevtxs:[]"] ++ "sign" :: []) =
      .ok ⟨(sampleState []).tx, Function.update (Function.update (fun _ => none) "privatekeys" (some ()))
        "prevtxs" (some ())⟩ ∧
    (splitArg "sign").1 = "sign" ∧ ("prevtxs" = "privatekeys" ∨ "prevtxs" = "prevtxs") ∧
    (sampleState []).registers "prevtxs" = none ∧
    ∃ b ∈ ["set=privatekeys:[]", "set=prevtxs:[]"], ((splitArg b).1 = "load" ∨ (splitArg b).1 = "set") ∧
      (registerSplit (splitArg b).2).map Prod.fst = some "prevtxs" :=
  have h : commandLoop sampleLib sampleUniValue sampleSighashTypes (sampleState [])
        (["set=privatekeys:[]", "set=prevtxs:[]"] ++ "sign" :: []) =
      .ok ⟨(sampleState []).tx, Function.update (Function.update (fun _ => none) "privatekeys" (some ()))
        "prevtxs" (some ())⟩ := by rfl
  have harg : (splitArg "sign").1 = "sign" := by rfl
  ⟨h, harg, .inr rfl, rfl, commandLoop_sign_registers sampleLib sampleUniValue sampleSighashTypes h harg
    (.inr rfl) rfl⟩

/-- `sign` keeps the registers, needs the `prevtxs` register, and changes only the scripts of the
inputs whose outpoints an entry of `prevtxs` names. -/
theorem MutateTx_sign_frame {st s : RawTxState J} {commandVal : String}
    (h : MutateTx L U K st "sign" commandVal = .ok s) :
    s.registers = st.registers ∧ ∃ prevtxs, st.registers "prevtxs" = some prevtxs ∧
      st.tx.ScriptSigsOnly (fun i => ∃ txin ∈ st.tx.vin[i]?, ∃ p ∈ U.getValues prevtxs,
        NamesOutPoint L U p txin.prevout) s.tx := by
  simp only [MutateTx, String.reduceEq, ↓reduceIte] at h
  obtain ⟨tx, hsign, rfl⟩ := Result.map_eq_ok.mp h
  exact ⟨rfl, MutateTxSign_scriptSigs L U K hsign⟩

theorem MutateTx_sign_frame_unknown :
    MutateTx sampleLib sampleUniValue sampleSighashTypes
        ⟨⟨toCInt 2, [⟨⟨[]⟩, ⟨0, 0⟩, 0⟩], [], 0⟩, fun _ => some ()⟩ "sign" "" =
      .ok ⟨⟨toCInt 2, [⟨⟨[]⟩, ⟨0, 0⟩, 0⟩], [], 0⟩, fun _ => some ()⟩ ∧
    (fun _ : String => some ()) = (fun _ => some ()) ∧
    ∃ prevtxs, (fun _ : String => some ()) "prevtxs" = some prevtxs ∧
      CMutableTransaction.ScriptSigsOnly (fun i => ∃ txin ∈ [(⟨⟨[]⟩, ⟨0, 0⟩, 0⟩ : CTxIn.Full)][i]?,
          ∃ p ∈ sampleUniValue.getValues prevtxs, NamesOutPoint sampleLib sampleUniValue p txin.prevout)
        ⟨toCInt 2, [⟨⟨[]⟩, ⟨0, 0⟩, 0⟩], [], 0⟩ ⟨toCInt 2, [⟨⟨[]⟩, ⟨0, 0⟩, 0⟩], [], 0⟩ :=
  have h : MutateTx sampleLib sampleUniValue sampleSighashTypes
        ⟨⟨toCInt 2, [⟨⟨[]⟩, ⟨0, 0⟩, 0⟩], [], 0⟩, fun _ => some ()⟩ "sign" "" =
      .ok ⟨⟨toCInt 2, [⟨⟨[]⟩, ⟨0, 0⟩, 0⟩], [], 0⟩, fun _ => some ()⟩ := by rfl
  ⟨h, MutateTx_sign_frame sampleLib sampleUniValue sampleSighashTypes h⟩

/-! ## Equivalent transactions -/

/-- `sign`, `load` and `set` change at most the inputs' scripts. -/
theorem Mutated_scriptSigsOnly {st s : RawTxState J} {command commandVal : String}
    (h : Mutated L U K st command commandVal s)
    (hcommand : command = "sign" ∨ command = "load" ∨ command = "set") :
    st.tx.ScriptSigsOnly (fun _ => True) s.tx := by
  cases h with
  | sign _ tx hsign =>
    obtain ⟨_, -, hsigs⟩ := MutateTxSign_scriptSigs L U K hsign
    exact hsigs.mono fun _ _ => trivial
  | register => exact .refl _ _
  | addOut _ _ _ hout => rcases hout with rfl | rfl <;> simp at hcommand
  | _ => simp at hcommand

/-- A run of `sign`, `load` and `set` commands ends with a transaction equivalent to the one it
started from (`IsEquivalentTo`): it changes no outpoint, sequence, output, version or lock
time. -/
theorem commandLoop_IsEquivalentTo {args : List String} {st s : RawTxState J}
    (h : commandLoop L U K st args = .ok s)
    (hargs : ∀ arg ∈ args, (splitArg arg).1 = "sign" ∨ (splitArg arg).1 = "load" ∨
      (splitArg arg).1 = "set") :
    s.tx.IsEquivalentTo st.tx := by
  suffices hsigs : st.tx.ScriptSigsOnly (fun _ => True) s.tx from hsigs.isEquivalentTo
  induction args generalizing st with
  | nil => cases h; exact .refl _ _
  | cons arg args ih =>
    rw [commandLoop_cons] at h
    obtain ⟨s₁, h₁, hrest⟩ := Result.bind_eq_ok.mp h
    obtain ⟨harg, hargs⟩ := List.forall_mem_cons.mp hargs
    exact (Mutated_scriptSigsOnly L U K (MutateTx_cases L U K h₁) harg).trans (ih hrest hargs)

theorem commandLoop_IsEquivalentTo_sign :
    commandLoop sampleLib sampleUniValue sampleSighashTypes
        ⟨⟨toCInt 2, [⟨⟨[0x51]⟩, ⟨0, 0⟩, 0⟩], [], 0⟩, fun _ => none⟩
        ["set=privatekeys:[]", "set=prevtxs:[]", "sign"] =
      .ok ⟨⟨toCInt 2, [⟨⟨[0x51]⟩, ⟨0, 0⟩, 0⟩], [], 0⟩, Function.update
        (Function.update (fun _ => none) "privatekeys" (some ())) "prevtxs" (some ())⟩ ∧
    (∀ arg ∈ ["set=privatekeys:[]", "set=prevtxs:[]", "sign"], (splitArg arg).1 = "sign" ∨
      (splitArg arg).1 = "load" ∨ (splitArg arg).1 = "set") ∧
    CMutableTransaction.IsEquivalentTo ⟨toCInt 2, [⟨⟨[0x51]⟩, ⟨0, 0⟩, 0⟩], [], 0⟩
      ⟨toCInt 2, [⟨⟨[0x51]⟩, ⟨0, 0⟩, 0⟩], [], 0⟩ :=
  have h : commandLoop sampleLib sampleUniValue sampleSighashTypes
      ⟨⟨toCInt 2, [⟨⟨[0x51]⟩, ⟨0, 0⟩, 0⟩], [], 0⟩, fun _ => none⟩
      ["set=privatekeys:[]", "set=prevtxs:[]", "sign"] =
    .ok ⟨⟨toCInt 2, [⟨⟨[0x51]⟩, ⟨0, 0⟩, 0⟩], [], 0⟩, Function.update
      (Function.update (fun _ => none) "privatekeys" (some ())) "prevtxs" (some ())⟩ := by rfl
  have hargs : ∀ arg ∈ ["set=privatekeys:[]", "set=prevtxs:[]", "sign"], (splitArg arg).1 = "sign" ∨
      (splitArg arg).1 = "load" ∨ (splitArg arg).1 = "set" := by decide
  ⟨h, hargs, commandLoop_IsEquivalentTo sampleLib sampleUniValue sampleSighashTypes h hargs⟩

end Runs

end Membercoin
