import Membercoin.Basic

/-!
# The interest-rate table (`initRateTable`)

`rateTable` is the global `static uint64_t rateTable[1108*365+1]`. `initRateTable` stores
`1 << 62` at index 0 and then runs `rateTable[i]=rateTable[i-1]+(rateTable[i-1]>>22)` for
`i = 1 .. MAXINTERESTPERIOD`, in `uint64_t` arithmetic.

`rate` is the spec's table `R` (§4.3) over the naturals: `R 0 = 2^62`,
`R (i+1) = R i + R i / 2^22`.

* `rate_le`: the linear bound `R i ≤ 2^62 + i * 2^41` up to `i = 2^21`, so `R i < 2^63`
  over the whole period (`rate_lt`).
* `initRateTable_get`: after `initRateTable`, from any earlier contents of the table, entry
  `i ≤ MAXINTERESTPERIOD` holds `R i` exactly: no `uint64_t` addition of the loop wraps.
-/

namespace Membercoin

/-- `ONEDAY`: the target number of blocks in a day. -/
def ONEDAY : CInt := ⟨1108, by norm_num⟩

/-- `MAXINTERESTPERIOD = ONEDAY*365`: interest stops accruing after a year of blocks. -/
def MAXINTERESTPERIOD : CInt := ⟨ONEDAY.val * 365, by simp only [ONEDAY]; norm_num⟩

@[simp] theorem MAXINTERESTPERIOD_val : MAXINTERESTPERIOD.val = 404420 := rfl

/-- The spec's rate table `R`, over the naturals. -/
def rate : Nat → Nat
  | 0 => 2 ^ 62
  | i + 1 => rate i + rate i / 2 ^ 22

@[simp] theorem rate_zero : rate 0 = 2 ^ 62 := rfl

@[simp] theorem rate_succ (i : Nat) : rate (i + 1) = rate i + rate i / 2 ^ 22 := rfl

theorem rate_mono {i j : Nat} (h : i ≤ j) : rate i ≤ rate j :=
  monotone_nat_of_le_succ (fun n => by simp) h

theorem two_pow_le_rate (i : Nat) : 2 ^ 62 ≤ rate i := rate_mono (Nat.zero_le i)

/-- Each step adds at most `2^41` while the entry stays below `2^63`. -/
theorem rate_le {i : Nat} (h : i ≤ 2 ^ 21) : rate i ≤ 2 ^ 62 + i * 2 ^ 41 := by
  induction i with
  | zero => simp
  | succ i ih =>
    have hi := ih (by omega)
    have hd : rate i / 2 ^ 22 ≤ (2 ^ 62 + i * 2 ^ 41) / 2 ^ 22 := Nat.div_le_div_right hi
    rw [rate_succ]; omega

theorem rate_lt {i : Nat} (h : i ≤ 404420) : rate i < 2 ^ 63 := by
  have := rate_le (i := i) (by omega); omega

/-- The global `static uint64_t rateTable[1108*365+1]`. -/
structure RateTable where
  entry : Fin (1108 * 365 + 1) → BitVec 64

namespace RateTable

/-- Static storage: every entry `0` before `initRateTable` runs. -/
def zero : RateTable := ⟨fun _ => 0⟩

/-- `rateTable[i]` as the fill loop reads it; the loop only reads indices in bounds. -/
def get (t : RateTable) (i : Nat) : BitVec 64 :=
  if h : i < 1108 * 365 + 1 then t.entry ⟨i, h⟩ else 0

/-- `rateTable[i] = x`. -/
def set (t : RateTable) (i : Nat) (x : BitVec 64) : RateTable :=
  ⟨fun j => if j.val = i then x else t.entry j⟩

/-- The read `rateTable[periods]` of `getRateForAmount`: undefined out of bounds. -/
def read (t : RateTable) (periods : Int) : Result (BitVec 64) :=
  if h : 0 ≤ periods ∧ periods < 1108 * 365 + 1 then .ok (t.entry ⟨periods.toNat, by omega⟩)
  else .undefined

/-- One pass of the fill loop: `rateTable[i]=rateTable[i-1]+(rateTable[i-1]>>22)`. -/
def fill (t : RateTable) (i : Nat) : RateTable :=
  t.set i (t.get (i - 1) + (t.get (i - 1) >>> 22))

theorem get_set_self (t : RateTable) {i : Nat} (x : BitVec 64) (h : i < 1108 * 365 + 1) :
    (t.set i x).get i = x := by
  simp [get, set, h]

theorem get_set_ne (t : RateTable) {i j : Nat} (x : BitVec 64) (h : j ≠ i) :
    (t.set i x).get j = t.get j := by
  unfold get set; split <;> simp [h]

theorem read_ok (t : RateTable) {p : Int} (h0 : 0 ≤ p) (h1 : p ≤ 404420) :
    t.read p = .ok (t.get p.toNat) := by
  have h : p.toNat < 1108 * 365 + 1 := by omega
  simp [read, get, h, h0, show p < 404421 by omega]

end RateTable

open RateTable

/-- `initRateTable()`: `rateTable[0] = 1 << 62`, then the fill loop for
`i = 1 .. MAXINTERESTPERIOD`. The text it returns, a dump of the table that the node hashes at
startup, is not modelled. -/
def initRateTable (t : RateTable) : RateTable :=
  (List.range' 1 MAXINTERESTPERIOD.val.toNat).foldl fill (t.set 0 (1 <<< 62))

/-- The fill loop after its first `k` passes: entries `0 .. k` hold `R` exactly. -/
theorem fill_loop_get (t : RateTable) {k : Nat} (hk : k ≤ 404420) :
    ∀ j ≤ k, (((List.range' 1 k).foldl fill (t.set 0 (1 <<< 62))).get j).toNat = rate j := by
  induction k with
  | zero =>
    intro j hj
    rw [Nat.le_zero.mp hj, List.range'_zero, List.foldl_nil, get_set_self _ _ (by norm_num)]
    rfl
  | succ k ih =>
    intro j hj
    rw [List.range'_concat, List.foldl_append, List.foldl_cons, List.foldl_nil]
    have hk' := rate_lt (i := k + 1) hk
    rcases Nat.lt_or_ge j (k + 1) with hlt | hge
    · rw [fill, get_set_ne _ _ (by omega)]
      exact ih (by omega) j (by omega)
    · have hj' : j = k + 1 := by omega
      subst hj'
      rw [fill, show 1 + 1 * k = k + 1 by omega, get_set_self _ _ (by omega),
        show k + 1 - 1 = k by omega]
      have hr := ih (by omega) k le_rfl
      simp only [BitVec.toNat_add, BitVec.toNat_ushiftRight, Nat.shiftRight_eq_div_pow, hr]
      rw [rate_succ] at hk' ⊢
      omega

/-- After `initRateTable`, entry `i` of the period holds `R i`, whatever the table held. -/
theorem initRateTable_get (t : RateTable) {i : Nat} (h : i ≤ 404420) :
    ((initRateTable t).get i).toNat = rate i :=
  fill_loop_get t le_rfl i h

end Membercoin
