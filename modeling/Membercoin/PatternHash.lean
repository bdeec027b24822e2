import Membercoin.ArithUint256

/-!
# Thread count of the pattern search (`CBlockHeader::FindBestPatternHash`)

`FindBestPatternHash` returns the sentinel `0xFF…FF` when no thread is requested. Otherwise it
rounds `nThreads` up to a power of two with `newThreadNumber = 1` and
`while (newThreadNumber < nThreads) newThreadNumber *= 2`, hands the result to `pattern_search`,
and keeps the smallest header hash over the candidates it gets back.

The loop is a step function on its states (`ThreadLoop`); `*= 2` past `INT_MAX` is undefined.
Each pass doubles a positive `int`, so 31 passes leave the loop, by its exit or by an overflow,
and `roundThreadNumber` is the state after them, which no further pass changes.

* `roundThreadNumber_ne_loop`: for every `nThreads` the loop has ended after 31 passes.
* `roundThreadNumber_pow`: for `nThreads ≤ 2^30` it exits with the least power of two at least
  `nThreads`.
* `roundThreadNumber_overflow`: for `nThreads > 2^30` it doubles `2^30` past `INT_MAX`.
* `FindBestPatternHash_threads`: for `nThreads ≠ 0` up to `2^30`, `pattern_search` gets that
  power of two and the result is the header's hash or the sentinel.
* `FindBestPatternHash_thread_overflow`: `nThreads = 2^30 + 1` overflows.
-/

namespace Membercoin

/-! ## The rounding loop -/

/-- A state of the loop: in it with `newThreadNumber`, out of it with `newThreadNumber`, or
undefined after an overflow. -/
inductive ThreadLoop
  | loop (newThreadNumber : CInt)
  | exit (newThreadNumber : CInt)
  | undefined
deriving DecidableEq

/-- One pass: test `newThreadNumber < nThreads`, then `newThreadNumber *= 2`. -/
def ThreadLoop.step (nThreads : CInt) : ThreadLoop → ThreadLoop
  | loop n =>
    if n.val < nThreads.val then
      match n.mul ⟨2, by norm_num⟩ with
      | .ok n' => loop n'
      | _ => undefined
    else exit n
  | s => s

/-- The state of the loop after 31 passes from `newThreadNumber = 1`. -/
def roundThreadNumber (nThreads : CInt) : ThreadLoop :=
  (ThreadLoop.step nThreads)^[31] (.loop ⟨1, by norm_num⟩)

section Loop

variable (nThreads : CInt)

@[simp] theorem step_exit (n : CInt) : ThreadLoop.step nThreads (.exit n) = .exit n := rfl

@[simp] theorem step_undefined : ThreadLoop.step nThreads .undefined = .undefined := rfl

theorem step_loop_of_le {n : CInt} (h : nThreads.val ≤ n.val) :
    ThreadLoop.step nThreads (.loop n) = .exit n :=
  if_neg (not_lt.mpr h)

theorem step_loop_double {n : CInt} (h : n.val < nThreads.val) (h0 : 0 ≤ n.val)
    (h2 : 2 * n.val < 2 ^ 31) :
    ∃ n' : CInt, ThreadLoop.step nThreads (.loop n) = .loop n' ∧ n'.val = 2 * n.val := by
  have hr : -2 ^ (32 - 1) ≤ n.val * 2 ∧ n.val * 2 < 2 ^ (32 - 1) := by omega
  refine ⟨⟨_, hr⟩, ?_, by simp only; omega⟩
  simp only [ThreadLoop.step, if_pos h, SInt.mul, SInt.ofInt?_ok hr]

theorem step_loop_overflow {n : CInt} (h : n.val < nThreads.val) (h2 : 2 ^ 31 ≤ 2 * n.val) :
    ThreadLoop.step nThreads (.loop n) = .undefined := by
  rw [ThreadLoop.step, if_pos h, SInt.mul, SInt.ofInt?_undefined (w := 32) (x := n.val * 2)
    (by omega)]

/-- While every smaller power of two is below `nThreads`, `k ≤ 30` passes double
`newThreadNumber` to `2^k`. -/
theorem iterate_step_pow {k : Nat} (hk : k ≤ 30) (hlt : ∀ j < k, 2 ^ j < nThreads.val) :
    ∃ n : CInt, (ThreadLoop.step nThreads)^[k] (.loop ⟨1, by norm_num⟩) = .loop n ∧
      n.val = 2 ^ k := by
  induction k with
  | zero => exact ⟨_, rfl, rfl⟩
  | succ k ih =>
    obtain ⟨n, hn, hv⟩ := ih (by omega) fun j hj => hlt j (by omega)
    have hpow : (2 : Int) ^ k ≤ 2 ^ 29 := pow_le_pow_right₀ (by norm_num) (by omega)
    obtain ⟨n', hn', hv'⟩ := step_loop_double nThreads (n := n) (by rw [hv]; exact hlt k (by omega))
      (by rw [hv]; positivity) (by rw [hv]; omega)
    exact ⟨n', by rw [Function.iterate_succ_apply', hn, hn'], by rw [hv', hv, pow_succ]; ring⟩

/-- An exit or an overflow is final: further passes change nothing. -/
theorem iterate_step_of_ne_loop {s : ThreadLoop} (hs : ∀ n, s ≠ .loop n) (k : Nat) :
    (ThreadLoop.step nThreads)^[k] s = s := by
  apply Function.iterate_fixed
  cases s with
  | loop n => exact absurd rfl (hs n)
  | exit n => rfl
  | undefined => rfl

end Loop

/-- For `nThreads ≤ 2^30` the loop exits with the least power of two at least `nThreads`. -/
theorem roundThreadNumber_pow {nThreads : CInt} (h1 : nThreads.val ≤ 2 ^ 30) :
    ∃ (p : CInt) (k : Nat), roundThreadNumber nThreads = .exit p ∧ p.val = 2 ^ k ∧
      nThreads.val ≤ 2 ^ k ∧ ∀ j : Nat, nThreads.val ≤ 2 ^ j → k ≤ j := by
  have hex : ∃ k : Nat, nThreads.val ≤ 2 ^ k := ⟨30, h1⟩
  have hm30 : Nat.find hex ≤ 30 := Nat.find_min' hex h1
  obtain ⟨n, hn, hv⟩ := iterate_step_pow nThreads hm30 fun j hj => not_le.mp (Nat.find_min hex hj)
  have hexit := step_loop_of_le nThreads (n := n) (by rw [hv]; exact Nat.find_spec hex)
  refine ⟨n, Nat.find hex, ?_, hv, Nat.find_spec hex, fun j hj => Nat.find_min' hex hj⟩
  rw [roundThreadNumber, show 31 = (30 - Nat.find hex) + (Nat.find hex + 1) by omega,
    Function.iterate_add_apply, Function.iterate_succ_apply', hn, hexit]
  exact iterate_step_of_ne_loop nThreads (fun _ => ThreadLoop.noConfusion) _

/-- For `nThreads > 2^30` the loop reaches `newThreadNumber = 2^30`, still below `nThreads`,
and doubles it past `INT_MAX`. -/
theorem roundThreadNumber_overflow {nThreads : CInt} (h : 2 ^ 30 < nThreads.val) :
    roundThreadNumber nThreads = .undefined := by
  obtain ⟨n, hn, hv⟩ := iterate_step_pow nThreads (k := 30) le_rfl fun j hj =>
    lt_of_le_of_lt (pow_le_pow_right₀ (by norm_num) hj.le) h
  rw [roundThreadNumber, Function.iterate_succ_apply', hn]
  exact step_loop_overflow nThreads (by rw [hv]; exact h) (by rw [hv]; norm_num)

/-- For every `nThreads` the loop has ended after 31 passes: by its exit, or by an overflow. -/
theorem roundThreadNumber_ne_loop (nThreads n : CInt) : roundThreadNumber nThreads ≠ .loop n := by
  rcases le_or_lt nThreads.val (2 ^ 30) with h1 | h1
  · obtain ⟨p, k, hp, -⟩ := roundThreadNumber_pow h1
    rw [hp]; exact ThreadLoop.noConfusion
  · rw [roundThreadNumber_overflow h1]; exact ThreadLoop.noConfusion

/-! ## `FindBestPatternHash` -/

/-- The sentinel `0xFF…FF`, the worst hash. -/
def worstHash : ArithUint256 := BitVec.allOnes 256

/-- The loop over the candidates of `pattern_search`: each candidate hashes the header, to
`fullHash`, and keeps it when it is below the smallest hash so far. -/
def smallestHash (fullHash : ArithUint256) (results : List (BitVec 32 × BitVec 32)) :
    ArithUint256 :=
  results.foldl (fun smallestHashSoFar _ =>
    if fullHash < smallestHashSoFar then fullHash else smallestHashSoFar) worstHash

/-- `CBlockHeader::FindBestPatternHash(collisions, scratchpad, nThreads)`: what it writes to
`collisions` (`none`: nothing) and the hash it returns. The mid-hash, the hash of the header and
`pattern_search` over the scratchpad are parameters. The state `loop` cannot follow 31 passes
(`roundThreadNumber_ne_loop`). -/
def FindBestPatternHash (GetMidHash fullHash : ArithUint256)
    (pattern_search : ArithUint256 → CInt → List (BitVec 32 × BitVec 32)) (nThreads : CInt) :
    Result (Option CInt × ArithUint256) :=
  if nThreads.val = 0 then pure (none, worstHash)
  else
    match roundThreadNumber nThreads with
    | .exit newThreadNumber =>
      let results := pattern_search GetMidHash newThreadNumber
      pure (some (toCInt results.length), smallestHash fullHash results)
    | _ => .undefined

/-- The search keeps the header's hash when there is a candidate and the hash is below the
sentinel. -/
theorem smallestHash_eq (fullHash : ArithUint256) (results : List (BitVec 32 × BitVec 32)) :
    smallestHash fullHash results =
      if results ≠ [] ∧ fullHash < worstHash then fullHash else worstHash := by
  unfold smallestHash
  induction results using List.reverseRecOn with
  | nil => simp
  | append_singleton rs r ih =>
    rw [List.foldl_append, ih]
    by_cases h : fullHash < worstHash <;> by_cases hr : rs = [] <;> simp [h, hr]

/-- For every `nThreads ≠ 0` up to `2^30`, `pattern_search` runs with the least power of two at
least `nThreads` (one thread for a negative `nThreads`), `collisions` is its number of candidates,
and the result is the header's hash when there is a candidate and the hash is below the sentinel,
or the sentinel. -/
theorem FindBestPatternHash_threads (GetMidHash fullHash : ArithUint256)
    (pattern_search : ArithUint256 → CInt → List (BitVec 32 × BitVec 32)) {nThreads : CInt}
    (h0 : nThreads.val ≠ 0) (h1 : nThreads.val ≤ 2 ^ 30) :
    ∃ (p : CInt) (k : Nat), p.val = 2 ^ k ∧ nThreads.val ≤ 2 ^ k ∧
      (∀ j : Nat, nThreads.val ≤ 2 ^ j → k ≤ j) ∧
      FindBestPatternHash GetMidHash fullHash pattern_search nThreads =
        .ok (some (toCInt (pattern_search GetMidHash p).length),
          if pattern_search GetMidHash p ≠ [] ∧ fullHash < worstHash then fullHash
          else worstHash) := by
  obtain ⟨p, k, hp, hpk, hle, hleast⟩ := roundThreadNumber_pow h1
  refine ⟨p, k, hpk, hle, hleast, ?_⟩
  rw [← smallestHash_eq]
  simp only [FindBestPatternHash, if_neg h0, hp]
  rfl

/-- Three threads run as four. -/
theorem FindBestPatternHash_threads_three :
    (3 : Int) ≠ 0 ∧ (3 : Int) ≤ 2 ^ 30 ∧
    ∃ (p : CInt) (k : Nat), p.val = 2 ^ k ∧ (3 : Int) ≤ 2 ^ k ∧
      (∀ j : Nat, (3 : Int) ≤ 2 ^ j → k ≤ j) ∧
      FindBestPatternHash 0 0 (fun _ _ => []) ⟨3, by norm_num⟩ =
        .ok (some (toCInt ([] : List (BitVec 32 × BitVec 32)).length),
          if ([] : List (BitVec 32 × BitVec 32)) ≠ [] ∧ (0 : ArithUint256) < worstHash then 0
          else worstHash) :=
  ⟨by norm_num, by norm_num,
    @FindBestPatternHash_threads 0 0 (fun _ _ => []) ⟨3, by norm_num⟩ (by norm_num) (by norm_num)⟩

/-- With `nThreads = 2^30 + 1` the rounding loop doubles `newThreadNumber = 2^30` past
`INT_MAX`, whatever the header and the search. -/
theorem FindBestPatternHash_thread_overflow (GetMidHash fullHash : ArithUint256)
    (pattern_search : ArithUint256 → CInt → List (BitVec 32 × BitVec 32)) :
    FindBestPatternHash GetMidHash fullHash pattern_search ⟨1073741825, by norm_num⟩ =
      .undefined := by
  have hround : roundThreadNumber ⟨1073741825, by norm_num⟩ = .undefined :=
    roundThreadNumber_overflow (by norm_num)
  simp only [FindBestPatternHash, hround]
  rfl

end Membercoin
