import Membercoin.BitcoinTx.Commands

/-!
# The parts of the state of `bitcoin-tx`, and reordering commands

Every command but `sign` reads and writes one part of the state (`commandPart`): the version, the
lock time, the inputs, the outputs or the registers. Its run on any state is its run on that part,
with the rest kept (`MutateTx_local`). `partEffect` is that run on one part, and `partRun` the run
of a list of arguments on one part, in which the commands of the other parts do nothing.

* `commandLoop_eq_ok_iff`: a run of such commands returns a state exactly when each part's run
  returns that state's part; the five parts run independently.
* `commandLoop_reorder`: two argument lists whose commands of each part come in the same order
  give the same result, whatever the interleaving of the parts.
-/

namespace Membercoin

/-- A part of the state of `bitcoin-tx`. -/
inductive Part
  | version
  | locktime
  | inputs
  | outputs
  | registers
deriving DecidableEq

/-- What a part holds. -/
def Part.carrier (J : Type) : Part → Type
  | .version => CInt
  | .locktime => BitVec 32
  | .inputs => List CTxIn.Full
  | .outputs => List CTxOut.Full
  | .registers => String → Option J

/-- The part the command `command` reads and writes: none for `sign`, which reads the registers and
the outputs and writes the inputs, and none for an unknown command. -/
def commandPart (command : String) : Option Part :=
  if command = "nversion" then some .version
  else if command = "locktime" then some .locktime
  else if command = "delin" ∨ command = "in" then some .inputs
  else if command = "delout" ∨ command = "outaddr" ∨ command = "outdata" ∨ command = "outscript" then
    some .outputs
  else if command = "load" ∨ command = "set" then some .registers
  else none

namespace RawTxState

variable {J : Type}

/-- The part `p` of the state. -/
def get (st : RawTxState J) : (p : Part) → p.carrier J
  | .version => st.tx.nVersion
  | .locktime => st.tx.nLockTime
  | .inputs => st.tx.vin
  | .outputs => st.tx.vout
  | .registers => st.registers

/-- The state with part `p` replaced. -/
def set (st : RawTxState J) : (p : Part) → p.carrier J → RawTxState J
  | .version, x => { st with tx := { st.tx with nVersion := x } }
  | .locktime, x => { st with tx := { st.tx with nLockTime := x } }
  | .inputs, x => { st with tx := { st.tx with vin := x } }
  | .outputs, x => { st with tx := { st.tx with vout := x } }
  | .registers, x => { st with registers := x }

/-- A fixed state, on whose parts `partEffect` runs the commands. -/
def base : RawTxState J := ⟨⟨SInt.zero, [], [], 0⟩, fun _ => none⟩

@[simp] theorem get_set_self (st : RawTxState J) (p : Part) (x : p.carrier J) :
    (st.set p x).get p = x := by
  cases p <;> rfl

theorem get_set_ne (st : RawTxState J) {p q : Part} (h : p ≠ q) (x : p.carrier J) :
    (st.set p x).get q = st.get q := by
  cases p <;> cases q <;> first | rfl | exact absurd rfl h

theorem ext_get {s t : RawTxState J} (h : ∀ p, s.get p = t.get p) : s = t := by
  obtain ⟨⟨v, i, o, l⟩, r⟩ := s
  obtain ⟨⟨v', i', o', l'⟩, r'⟩ := t
  have := h .version; have := h .locktime; have := h .inputs; have := h .outputs
  have := h .registers
  simp_all [get]

end RawTxState

section Parts

variable {D J Key : Type} (L : BitcoinTxLib D J Key) (U : UniValueOps J) (K : SighashTypes)

/-- What the command `command=commandVal` does to part `p` of the state: its run on part `p` of a
fixed state when `p` is the command's part, and nothing otherwise. -/
def partEffect (command commandVal : String) (p : Part) (x : p.carrier J) : Result (p.carrier J) :=
  if commandPart command = some p then
    (·.get p) <$> MutateTx L U K (RawTxState.base.set p x) command commandVal
  else pure x

/-- A command that has a part runs on that part alone: the other parts are kept, and what it does
to its part depends on nothing else. -/
theorem MutateTx_local {command commandVal : String} {p : Part} (h : commandPart command = some p)
    (st : RawTxState J) :
    MutateTx L U K st command commandVal =
      st.set p <$> partEffect L U K command commandVal p (st.get p) := by
  rw [partEffect, if_pos h]
  unfold commandPart at h
  split_ifs at h with h1 h2 h3 h4 h5 <;> cases h
  · subst h1
    simp only [MutateTx, MutateTxVersion, String.reduceEq, ↓reduceIte, RawTxState.get, RawTxState.set]
    split <;> rfl
  · subst h2
    simp only [MutateTx, MutateTxLocktime, String.reduceEq, ↓reduceIte, RawTxState.get, RawTxState.set]
    split <;> rfl
  · rcases h3 with rfl | rfl
    · simp only [MutateTx, MutateTxDelInput, String.reduceEq, ↓reduceIte, RawTxState.get, RawTxState.set]
      cases eraseAtIndex L "input" st.tx.vin commandVal <;> rfl
    · simp only [MutateTx, MutateTxAddInput, String.reduceEq, ↓reduceIte, RawTxState.get, RawTxState.set]
      cases MutateTxAddInput.txin L commandVal <;> rfl
  · rcases h4 with rfl | rfl | rfl | rfl
    · simp only [MutateTx, MutateTxDelOutput, String.reduceEq, ↓reduceIte, RawTxState.get, RawTxState.set]
      cases eraseAtIndex L "output" st.tx.vout commandVal <;> rfl
    · simp only [MutateTx, MutateTxAddOutAddr, String.reduceEq, ↓reduceIte, RawTxState.get, RawTxState.set]
      cases MutateTxAddOutAddr.txout L commandVal <;> rfl
    · simp only [MutateTx, MutateTxAddOutData, String.reduceEq, ↓reduceIte, RawTxState.get, RawTxState.set]
      cases MutateTxAddOutData.txout L commandVal <;> rfl
    · simp only [MutateTx, MutateTxAddOutScript, String.reduceEq, ↓reduceIte, RawTxState.get, RawTxState.set]
      cases MutateTxAddOutScript.txout L commandVal <;> rfl
  · rcases h5 with rfl | rfl
    · simp only [MutateTx, String.reduceEq, ↓reduceIte, RawTxState.get, RawTxState.set]
      cases RegisterLoad L U st.registers commandVal <;> rfl
    · simp only [MutateTx, String.reduceEq, ↓reduceIte, RawTxState.get, RawTxState.set]
      cases RegisterSet U st.registers commandVal <;> rfl

/-- The run of the arguments `args` on part `p`. -/
def partRun (p : Part) (args : List String) (x : p.carrier J) : Result (p.carrier J) :=
  args.foldlM (fun x arg => partEffect L U K (splitArg arg).1 (splitArg arg).2 p x) x

theorem partEffect_of_ne {command commandVal : String} {p : Part}
    (h : commandPart command ≠ some p) (x : p.carrier J) :
    partEffect L U K command commandVal p x = pure x := if_neg h

/-- A run of commands that all have a part returns `s` exactly when the run of each part returns
the part of `s`. -/
theorem commandLoop_eq_ok_iff {args : List String}
    (hargs : ∀ arg ∈ args, (commandPart (splitArg arg).1).isSome) (st s : RawTxState J) :
    commandLoop L U K st args = .ok s ↔ ∀ p, partRun L U K p args (st.get p) = .ok (s.get p) := by
  induction args generalizing st with
  | nil =>
    simp only [commandLoop, partRun, List.foldlM_nil, Result.pure_eq, Result.ok.injEq]
    exact ⟨fun h _ => h ▸ rfl, RawTxState.ext_get⟩
  | cons a as ih =>
    obtain ⟨p₀, hp₀⟩ := Option.isSome_iff_exists.mp (hargs a (List.mem_cons_self _ _))
    have ih' := ih fun arg h => hargs arg (List.mem_cons_of_mem _ h)
    simp only [commandLoop, partRun, List.foldlM_cons] at ih' ⊢
    rw [MutateTx_local L U K hp₀]
    cases he : partEffect L U K (splitArg a).1 (splitArg a).2 p₀ (st.get p₀) with
    | ok x =>
      rw [Result.map_ok, Result.ok_bind, ih']
      refine forall_congr' fun p => ?_
      by_cases hp : p₀ = p
      · subst hp; rw [he, Result.ok_bind, RawTxState.get_set_self]
      · rw [partEffect_of_ne L U K (by rw [hp₀]; simpa using hp), Result.pure_eq, Result.ok_bind,
          RawTxState.get_set_ne _ hp]
    | thrown w =>
      simp only [Result.map_thrown, Result.thrown_bind, reduceCtorEq, false_iff, not_forall]
      exact ⟨p₀, by rw [he, Result.thrown_bind]; exact Result.noConfusion⟩
    | undefined =>
      simp only [Result.map_undefined, Result.undefined_bind, reduceCtorEq, false_iff, not_forall]
      exact ⟨p₀, by rw [he, Result.undefined_bind]; exact Result.noConfusion⟩

/-- On part `p` only the commands of part `p` act. -/
theorem partRun_filter (p : Part) (args : List String) (x : p.carrier J) :
    partRun L U K p args x =
      partRun L U K p (args.filter fun arg => commandPart (splitArg arg).1 = some p) x := by
  induction args generalizing x with
  | nil => rfl
  | cons a as ih =>
    by_cases h : commandPart (splitArg a).1 = some p
    · simp only [partRun, List.foldlM_cons, List.filter_cons, h, decide_eq_true_eq, ↓reduceIte] at ih ⊢
      exact congrArg _ (funext ih)
    · simp only [partRun, List.foldlM_cons, List.filter_cons, h, decide_eq_true_eq, ↓reduceIte,
        partEffect_of_ne L U K h, Result.pure_eq, Result.ok_bind] at ih ⊢
      exact ih x

/-- Reordering the commands, when each part's commands keep their order, does not change the
result: `bitcoin-tx` gives the same transaction and registers for both lists. -/
theorem commandLoop_reorder {args args' : List String}
    (hargs : ∀ arg ∈ args, (commandPart (splitArg arg).1).isSome)
    (hargs' : ∀ arg ∈ args', (commandPart (splitArg arg).1).isSome)
    (hsame : ∀ p : Part, args.filter (fun arg => commandPart (splitArg arg).1 = some p) =
      args'.filter (fun arg => commandPart (splitArg arg).1 = some p))
    (st s : RawTxState J) :
    commandLoop L U K st args = .ok s ↔ commandLoop L U K st args' = .ok s := by
  rw [commandLoop_eq_ok_iff L U K hargs, commandLoop_eq_ok_iff L U K hargs']
  refine forall_congr' fun p => ?_
  rw [partRun_filter, hsame, ← partRun_filter]

theorem commandLoop_reorder_version :
    (∀ arg ∈ ["nversion=1", "outdata=ab"], (commandPart (splitArg arg).1).isSome) ∧
    (∀ arg ∈ ["outdata=ab", "nversion=1"], (commandPart (splitArg arg).1).isSome) ∧
    (∀ p : Part, ["nversion=1", "outdata=ab"].filter (fun arg => commandPart (splitArg arg).1 = some p) =
      ["outdata=ab", "nversion=1"].filter (fun arg => commandPart (splitArg arg).1 = some p)) ∧
    (commandLoop sampleLib sampleUniValue sampleSighashTypes (sampleState []) ["nversion=1", "outdata=ab"] =
        .ok ⟨⟨toCInt 1, [], [⟨⟨SInt.zero⟩, [0x6a, 1, 0xab]⟩], 0⟩, fun _ => none⟩ ↔
      commandLoop sampleLib sampleUniValue sampleSighashTypes (sampleState []) ["outdata=ab", "nversion=1"] =
        .ok ⟨⟨toCInt 1, [], [⟨⟨SInt.zero⟩, [0x6a, 1, 0xab]⟩], 0⟩, fun _ => none⟩) :=
  have hargs : ∀ arg ∈ ["nversion=1", "outdata=ab"], (commandPart (splitArg arg).1).isSome := by decide
  have hargs' : ∀ arg ∈ ["outdata=ab", "nversion=1"], (commandPart (splitArg arg).1).isSome := by decide
  have hsame : ∀ p : Part, ["nversion=1", "outdata=ab"].filter (fun arg => commandPart (splitArg arg).1 = some p) =
      ["outdata=ab", "nversion=1"].filter (fun arg => commandPart (splitArg arg).1 = some p) := by
    intro p; cases p <;> decide
  ⟨hargs, hargs', hsame, commandLoop_reorder sampleLib sampleUniValue sampleSighashTypes hargs hargs'
    hsame _ _⟩

end Parts

end Membercoin
