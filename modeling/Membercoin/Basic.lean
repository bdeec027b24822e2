import Mathlib.Tactic

/-!
# C++ results and signed machine integers

`Result α` is the outcome of running a C++ function: it returns a value (`ok`), throws an
exception (`thrown`, with the text of its `what()`), or reaches undefined behaviour
(`undefined`: a signed overflow, an array read out of bounds). Every function of the model is
`Result`-valued, so a theorem that a call returns `.ok v` also says that it neither throws nor
overflows on the way.

`SInt w` is a value of a `w`-bit signed C++ type (`int`, `int64_t`), held as the integer it
denotes. Its range is a field, so no value outside the type can be built. The checked operations
`SInt.add` and `SInt.sub` are undefined exactly when the exact result leaves the range
(`SInt.ofInt?_ok`, `SInt.ofInt?_undefined`).
-/

namespace Membercoin

/-- The outcome of a C++ computation. -/
inductive Result (α : Type) where
  | ok (a : α)
  | thrown (what : String)
  | undefined
deriving Repr, DecidableEq

namespace Result

instance : Monad Result where
  pure := ok
  bind x f := match x with
    | ok a => f a
    | thrown w => thrown w
    | undefined => undefined

variable {α β : Type}

@[simp] theorem pure_eq (a : α) : (pure a : Result α) = ok a := rfl

@[simp] theorem ok_bind (a : α) (f : α → Result β) : ok a >>= f = f a := rfl

@[simp] theorem thrown_bind (w : String) (f : α → Result β) : thrown w >>= f = thrown w := rfl

@[simp] theorem undefined_bind (f : α → Result β) : (undefined : Result α) >>= f = undefined :=
  rfl

@[simp] theorem map_ok (f : α → β) (a : α) : f <$> ok a = ok (f a) := rfl

@[simp] theorem map_thrown (f : α → β) (w : String) : f <$> (thrown w : Result α) = thrown w := rfl

@[simp] theorem map_undefined (f : α → β) : f <$> (undefined : Result α) = undefined := rfl

instance : LawfulMonad Result :=
  LawfulMonad.mk' Result (fun x => by cases x <;> rfl) (fun _ _ => rfl)
    (fun x _ _ => by cases x <;> rfl)

/-- A run of `x >>= f` that returns went through a return of `x`. -/
theorem bind_eq_ok {x : Result α} {f : α → Result β} {b : β} :
    x >>= f = ok b ↔ ∃ a, x = ok a ∧ f a = ok b := by
  cases x <;> simp

theorem map_eq_ok {x : Result α} {f : α → β} {b : β} :
    f <$> x = ok b ↔ ∃ a, x = ok a ∧ f a = b := by
  cases x <;> simp

end Result

/-- A value of a `w`-bit signed C++ type. -/
@[ext] structure SInt (w : Nat) where
  val : Int
  range : -2 ^ (w - 1) ≤ val ∧ val < 2 ^ (w - 1)
deriving DecidableEq

/-- C++ `int` and `int32_t`. -/
abbrev CInt := SInt 32

namespace SInt

variable {w : Nat}

/-- The integer `x` as a value of the type, or undefined behaviour when it is out of range: what
a signed operation whose exact result is `x` does. -/
def ofInt? (x : Int) : Result (SInt w) :=
  if h : -2 ^ (w - 1) ≤ x ∧ x < 2 ^ (w - 1) then .ok ⟨x, h⟩ else .undefined

/-- Signed `a + b`. -/
def add (a b : SInt w) : Result (SInt w) := ofInt? (a.val + b.val)

/-- Signed `a - b`. -/
def sub (a b : SInt w) : Result (SInt w) := ofInt? (a.val - b.val)

/-- Signed `a * b`. -/
def mul (a b : SInt w) : Result (SInt w) := ofInt? (a.val * b.val)

/-- `std::min(a, b)`, that is `(b < a) ? b : a`. -/
def min (a b : SInt w) : SInt w := if b.val < a.val then b else a

/-- The value `0`. -/
def zero : SInt w := ⟨0, neg_nonpos.mpr (by positivity), by positivity⟩

@[simp] theorem zero_val : (zero : SInt w).val = 0 := rfl

theorem ofInt?_ok {x : Int} (h : -2 ^ (w - 1) ≤ x ∧ x < 2 ^ (w - 1)) :
    (ofInt? x : Result (SInt w)) = .ok ⟨x, h⟩ := dif_pos h

theorem ofInt?_undefined {x : Int} (h : ¬(-2 ^ (w - 1) ≤ x ∧ x < 2 ^ (w - 1))) :
    (ofInt? x : Result (SInt w)) = .undefined := dif_neg h

/-- A checked result returns `a` exactly when `a` denotes the exact result. -/
theorem ofInt?_eq_ok_iff {x : Int} {a : SInt w} : ofInt? x = .ok a ↔ a.val = x := by
  unfold ofInt?
  split
  · simp [SInt.ext_iff, eq_comm]
  · simp only [reduceCtorEq, false_iff]
    rintro rfl
    exact absurd a.range ‹_›

@[simp] theorem add_eq_ok_iff {a b c : SInt w} : a.add b = .ok c ↔ c.val = a.val + b.val :=
  ofInt?_eq_ok_iff

@[simp] theorem sub_eq_ok_iff {a b c : SInt w} : a.sub b = .ok c ↔ c.val = a.val - b.val :=
  ofInt?_eq_ok_iff

@[simp] theorem mul_eq_ok_iff {a b c : SInt w} : a.mul b = .ok c ↔ c.val = a.val * b.val :=
  ofInt?_eq_ok_iff

@[simp] theorem min_val (a b : SInt w) : (min a b).val = Min.min a.val b.val := by
  unfold min; split <;> omega

end SInt

/-- The `int` a `size_t` value `x` converts to: `x` modulo `2^32`, read as two's complement. -/
def toCInt (x : Int) : CInt :=
  ⟨if x % 2 ^ 32 < 2 ^ 31 then x % 2 ^ 32 else x % 2 ^ 32 - 2 ^ 32, by split <;> omega⟩

theorem toCInt_val {x : Int} (h0 : 0 ≤ x) (h : x < 2 ^ 31) : (toCInt x).val = x := by
  simp only [toCInt]
  split <;> omega

/-- A non-negative `size_t` never converts to a larger `int`. -/
theorem toCInt_val_le {x : Int} (h0 : 0 ≤ x) : (toCInt x).val ≤ x := by
  simp only [toCInt]
  split <;> omega

end Membercoin
