import Membercoin.AppInit
import Membercoin.Consensus

/-!
# Parameter checks at start-up (`AppInit2`, steps 2 and 3)

Step 2 of `AppInit2` refuses `-prune` together with `-txindex` or `-rescan`, then sizes the
connection limits (`Membercoin.AppInit`). Step 3 turns options into internal flags: the
`-checkmempool` ratio, clamped to `[0, 1000000]` after the `int64_t` is cut to `int`; the mempool
limit `-maxmempool * 1000000`, at least `1 << 22`; the prune target `-prune * 1024 * 1024` in
bytes, `0` or at least `MIN_DISK_SPACE_FOR_BLOCK_FILES`; the fee rate of `::minRelayTxFee`,
`(CAmount)(dMinLimiterTxFee.Value()) * 1000`; the chain's rule on standard transactions;
`CWallet::ParameterInteraction`; and the Bloom filter size of thin blocks,
`(uint32_t)-xthinbloomfiltersize`, at least `SMALLEST_MAX_BLOOM_FILTER_SIZE`.

The three products are `int64_t` products, which overflow for large options, and the conversion
of the `double` tweak `dMinLimiterTxFee` to `int64_t` is undefined when the value is not finite or
its integer part does not fit. The cast to `uint32_t` keeps the value modulo `2^32`, so a
negative `-xthinbloomfiltersize` down to `-2^32 + 36000` passes as a size of almost `4 GiB`.

The model is of a build with the wallet (`ENABLE_WALLET`). `GetArg`, `GetBoolArg`, the chain
parameters, the value of the tweak `dMinLimiterTxFee`, the constants of headers that are not under
`src/`, `RaiseFileDescriptorLimit` and `CWallet::ParameterInteraction` are the fields of
`InitArgs`. `InitError` ends the call with its text, which `_` leaves as it is; `strprintf` puts
the decimal number in place of `%d`. The writes to other globals (`fDebug`, the chunk sizes of the
block files, the services, the dust settings, `nConnectTimeout`, `nMaxDatacarrierBytes`) are left
out.

* `internalFlags_eq_ok`: the flags step 3 sets, and what its checks guarantee of them.
* `internalFlags_undefined_iff`: step 3 is undefined exactly when one of its three computations
  that can overflow does, once the checks before it have passed.
* `parameters_prune`: prune mode is never set together with `-txindex` or `-rescan`.
-/

namespace Membercoin

/-- What steps 2 and 3 of `AppInit2` read: the options, the chain parameters, the constants of
headers not under `src/`, and the calls into code not under `src/`. -/
structure InitArgs where
  /-- `GetArg(name, default)`: the `int64_t` value of an option. -/
  GetArg : String → SInt 64 → SInt 64
  /-- `GetBoolArg(name, default)`. -/
  GetBoolArg : String → Bool → Bool
  /-- `mapArgs.count(name)`, which is `0` or `1`. -/
  hasArg : String → Bool
  DefaultConsistencyChecks : Bool
  RequireStandard : Bool
  NetworkIDString : String
  DEFAULT_TXINDEX : Bool
  DEFAULT_MAX_PEER_CONNECTIONS : SInt 64
  DEFAULT_MAX_OUTBOUND_CONNECTIONS : SInt 64
  DEFAULT_MAX_MEMPOOL_SIZE : SInt 64
  MIN_DISK_SPACE_FOR_BLOCK_FILES : BitVec 64
  /-- `dMinLimiterTxFee.Value()`, a `double`: its exact value when it is finite, `none` for an
  infinity or a NaN. -/
  dMinLimiterTxFee : Option ℚ
  RaiseFileDescriptorLimit : CInt → CInt
  /-- `CWallet::ParameterInteraction()`: the text of the `InitError` it fails with. -/
  ParameterInteraction : Except String Unit

/-- The flags step 3 sets: the `-checkmempool` ratio (the mempool checks one transaction in
`ratio`, none at `0`), `nMempoolSizeMax`, `nPruneTarget`, `fPruneMode` (false until step 3 sets
it), the fee rate (`nSatoshisPerK`) of `::minRelayTxFee` and `nXthinBloomFilterSize`. -/
structure InitFlags where
  ratio : CInt
  nMempoolSizeMax : SInt 64
  nPruneTarget : BitVec 64
  fPruneMode : Bool
  minRelayTxFee : SInt 64
  nXthinBloomFilterSize : BitVec 32

namespace AppInit2

variable (A : InitArgs)

/-- Step 2: `-prune` refuses `-txindex` and `-rescan`. -/
def checkPrune : Result Unit :=
  if (A.GetArg "-prune" SInt.zero).val ≠ 0 then
    if A.GetBoolArg "-txindex" A.DEFAULT_TXINDEX then
      .thrown "Prune mode is incompatible with -txindex."
    else if A.GetBoolArg "-rescan" false then
      .thrown ("Rescans are not possible in pruned mode. You will need to use -reindex " ++
        "which will download the whole blockchain again.")
    else pure ()
  else pure ()

/-- `chainparams.DefaultConsistencyChecks() ? 1 : 0`. -/
def checkmempoolDefault : SInt 64 :=
  if A.DefaultConsistencyChecks then ⟨1, by norm_num⟩ else SInt.zero

/-- `std::min<int>(std::max<int>(GetArg("-checkmempool", ...), 0), 1000000)`: the `int64_t` is
converted to `int` first. -/
def checkmempoolRatio : CInt :=
  let x := toCInt (A.GetArg "-checkmempool" (checkmempoolDefault A)).val
  SInt.min (if x.val < 0 then SInt.zero else x) ⟨1000000, by norm_num⟩

/-- `nMempoolSizeMin = 1 << 22`. -/
def nMempoolSizeMin : SInt 64 := ⟨2 ^ 22, by norm_num⟩

/-- `std::ceil(nMempoolSizeMin / 1000000.0)`, the megabytes the message names. -/
def nMempoolSizeMinMB : Nat := (2 ^ 22 + 1000000 - 1) / 1000000

/-- `nMempoolSizeMax = GetArg("-maxmempool", DEFAULT_MAX_MEMPOOL_SIZE) * 1000000` and its
check. -/
def mempoolSizeMax : Result (SInt 64) := do
  let nMempoolSizeMax ←
    (A.GetArg "-maxmempool" A.DEFAULT_MAX_MEMPOOL_SIZE).mul ⟨1000000, by norm_num⟩
  if nMempoolSizeMax.val < 0 ∨ nMempoolSizeMax.val < nMempoolSizeMin.val then
    .thrown ("-maxmempool must be at least " ++ toString nMempoolSizeMinMB ++ " MB")
  else pure nMempoolSizeMax

/-- `nSignedPruneTarget = GetArg("-prune", 0) * 1024 * 1024`, its checks, `nPruneTarget` and
`fPruneMode`. -/
def pruneTarget : Result (BitVec 64 × Bool) := do
  let nSignedPruneTarget ← do
    let x ← (A.GetArg "-prune" SInt.zero).mul ⟨1024, by norm_num⟩
    x.mul ⟨1024, by norm_num⟩
  if nSignedPruneTarget.val < 0 then .thrown "Prune cannot be configured with a negative value."
  else
    let nPruneTarget := BitVec.ofInt 64 nSignedPruneTarget.val
    if nPruneTarget ≠ 0 then
      if nPruneTarget < A.MIN_DISK_SPACE_FOR_BLOCK_FILES then
        .thrown ("Prune configured below the minimum of " ++
          toString (A.MIN_DISK_SPACE_FOR_BLOCK_FILES / 1024 / 1024).toNat ++
          " MiB.  Please use a higher number.")
      else pure (nPruneTarget, true)
    else pure (nPruneTarget, false)

/-- The conversion of a finite `double` to an integer type: its value truncated toward zero. -/
def truncToInt (d : ℚ) : Int := d.num.tdiv d.den

/-- `(CAmount)(dMinLimiterTxFee.Value()) * 1000`, the fee rate that `::minRelayTxFee` is built
from: the conversion is undefined when the `double` is not finite or its integer part does not
fit `int64_t`, and the product is an `int64_t` product. -/
def minRelayTxFee : Result (SInt 64) :=
  match A.dMinLimiterTxFee with
  | none => .undefined
  | some d => do
    let nFee ← SInt.ofInt? (truncToInt d)
    nFee.mul ⟨1000, by norm_num⟩

/-- `fStandard = !GetBoolArg("-acceptnonstdtxn", !Params().RequireStandard())` must keep the
chain's rule. -/
def checkStandard : Result Unit :=
  let fStandard := !A.GetBoolArg "-acceptnonstdtxn" (!A.RequireStandard)
  if fStandard ≠ A.RequireStandard then
    .thrown ("acceptnonstdtxn is not currently supported for " ++ A.NetworkIDString ++ " chain")
  else pure ()

/-- `SMALLEST_MAX_BLOOM_FILTER_SIZE` as the `int64_t` default of `GetArg`. -/
def xthinDefault : SInt 64 :=
  ⟨SMALLEST_MAX_BLOOM_FILTER_SIZE, by norm_num [SMALLEST_MAX_BLOOM_FILTER_SIZE]⟩

/-- `nXthinBloomFilterSize = (uint32_t)GetArg("-xthinbloomfiltersize", ...)` and its check. -/
def xthinBloomFilterSize : Result (BitVec 32) :=
  let nXthinBloomFilterSize := BitVec.ofInt 32 (A.GetArg "-xthinbloomfiltersize" xthinDefault).val
  if nXthinBloomFilterSize.toNat < SMALLEST_MAX_BLOOM_FILTER_SIZE then
    .thrown ("-xthinbloomfiltersize must be at least " ++ toString SMALLEST_MAX_BLOOM_FILTER_SIZE ++
      " Bytes")
  else pure nXthinBloomFilterSize

/-- Step 3 of `AppInit2`, from `-checkmempool` to `-xthinbloomfiltersize`. -/
def internalFlags : Result InitFlags := do
  let ratio := checkmempoolRatio A
  let nMempoolSizeMax ← mempoolSizeMax A
  let (nPruneTarget, fPruneMode) ← pruneTarget A
  let minRelayTxFee ← minRelayTxFee A
  checkStandard A
  match A.ParameterInteraction with
  | .error what => .thrown what
  | .ok () => do
    let nXthinBloomFilterSize ← xthinBloomFilterSize A
    pure ⟨ratio, nMempoolSizeMax, nPruneTarget, fPruneMode, minRelayTxFee, nXthinBloomFilterSize⟩

/-- Steps 2 and 3 of `AppInit2`, with the connection limits between them: `-maxconnections` and
`-maxoutconnections` are read into `int`s. -/
def parameters : Result (ConnectionLimits × InitFlags) := do
  checkPrune A
  let limits ← connectionLimits A.RaiseFileDescriptorLimit (A.hasArg "-bind")
    (A.hasArg "-whitebind")
    (toCInt (A.GetArg "-maxconnections" A.DEFAULT_MAX_PEER_CONNECTIONS).val)
    (toCInt (A.GetArg "-maxoutconnections" A.DEFAULT_MAX_OUTBOUND_CONNECTIONS).val)
  let flags ← internalFlags A
  pure (limits, flags)

end AppInit2

/-- What the checks of step 3 guarantee of the flags they set. -/
structure InitFlags.Valid (A : InitArgs) (f : InitFlags) : Prop where
  ratio_range : 0 ≤ f.ratio.val ∧ f.ratio.val ≤ 1000000
  mempool_min : 2 ^ 22 ≤ f.nMempoolSizeMax.val
  prune_mode : f.fPruneMode = true ↔ f.nPruneTarget ≠ 0
  prune_min : f.fPruneMode = true → A.MIN_DISK_SPACE_FOR_BLOCK_FILES ≤ f.nPruneTarget
  bloom_min : SMALLEST_MAX_BLOOM_FILTER_SIZE ≤ f.nXthinBloomFilterSize.toNat

theorem Result.bind_eq_undefined {α β : Type} {x : Result α} {f : α → Result β} :
    x >>= f = .undefined ↔ x = .undefined ∨ ∃ a, x = .ok a ∧ f a = .undefined := by
  cases x <;> simp

theorem SInt.ofInt?_eq_undefined_iff {w : Nat} {x : Int} :
    (SInt.ofInt? x : Result (SInt w)) = .undefined ↔
      ¬(-2 ^ (w - 1) ≤ x ∧ x < 2 ^ (w - 1)) := by
  by_cases h : -2 ^ (w - 1) ≤ x ∧ x < 2 ^ (w - 1)
  · simp only [SInt.ofInt?_ok h, h, reduceCtorEq, and_self, not_true_eq_false]
  · simp only [SInt.ofInt?_undefined h, h, not_false_eq_true]

/-- The two products by `1024` overflow exactly when the product by `1048576` does. -/
theorem SInt.mul_mul_1024_bind {β : Type} (a : SInt 64) (k : SInt 64 → Result β) :
    (a.mul ⟨1024, by norm_num⟩ >>= fun x => x.mul ⟨1024, by norm_num⟩ >>= k) =
      (SInt.ofInt? (a.val * 1048576) >>= k) := by
  by_cases h : -2 ^ (64 - 1) ≤ a.val * 1024 ∧ a.val * 1024 < 2 ^ (64 - 1)
  · rw [SInt.mul, SInt.ofInt?_ok h, Result.ok_bind, SInt.mul]
    show SInt.ofInt? (a.val * 1024 * 1024) >>= k = _
    rw [mul_assoc]
    rfl
  · rw [SInt.mul, SInt.ofInt?_undefined h, Result.undefined_bind, SInt.ofInt?_undefined (by omega),
      Result.undefined_bind]

namespace AppInit2

variable (A : InitArgs)

theorem checkmempoolRatio_val : (checkmempoolRatio A).val =
    min (max (toCInt (A.GetArg "-checkmempool" (checkmempoolDefault A)).val).val 0) 1000000 := by
  rw [checkmempoolRatio, SInt.min_val, SInt.max_zero_val]

theorem mempoolSizeMax_eq_ok {n : SInt 64} (h : mempoolSizeMax A = .ok n) :
    n.val = (A.GetArg "-maxmempool" A.DEFAULT_MAX_MEMPOOL_SIZE).val * 1000000 ∧
      2 ^ 22 ≤ n.val := by
  obtain ⟨m, hm, h⟩ := Result.bind_eq_ok.mp h
  rw [SInt.mul_eq_ok_iff] at hm
  split at h
  · cases h
  · rename_i hmin
    cases h
    exact ⟨hm, by simp only [nMempoolSizeMin] at hmin; omega⟩

/-- `-maxmempool * 1000000` overflows `int64_t`; nothing else can. -/
theorem mempoolSizeMax_undefined_iff : mempoolSizeMax A = .undefined ↔
    ¬(-2 ^ 63 ≤ (A.GetArg "-maxmempool" A.DEFAULT_MAX_MEMPOOL_SIZE).val * 1000000 ∧
      (A.GetArg "-maxmempool" A.DEFAULT_MAX_MEMPOOL_SIZE).val * 1000000 < 2 ^ 63) := by
  rw [mempoolSizeMax, Result.bind_eq_undefined, SInt.mul, SInt.ofInt?_eq_undefined_iff]
  constructor
  · rintro (h | ⟨n, -, h⟩)
    · exact h
    · split at h <;> cases h
  · exact Or.inl

theorem mempoolSizeMax_exists_ok
    (hmin : 2 ^ 22 ≤ (A.GetArg "-maxmempool" A.DEFAULT_MAX_MEMPOOL_SIZE).val * 1000000)
    (hmax : (A.GetArg "-maxmempool" A.DEFAULT_MAX_MEMPOOL_SIZE).val * 1000000 < 2 ^ 63) :
    ∃ n, mempoolSizeMax A = .ok n := by
  have hr : -2 ^ (64 - 1) ≤ (A.GetArg "-maxmempool" A.DEFAULT_MAX_MEMPOOL_SIZE).val * 1000000 ∧
      (A.GetArg "-maxmempool" A.DEFAULT_MAX_MEMPOOL_SIZE).val * 1000000 < 2 ^ (64 - 1) := by
    omega
  rw [mempoolSizeMax, SInt.mul, SInt.ofInt?_ok hr, Result.ok_bind,
    if_neg (by simp only [nMempoolSizeMin]; omega)]
  exact ⟨_, rfl⟩

theorem pruneTarget_eq_ok {t : BitVec 64} {b : Bool} (h : pruneTarget A = .ok (t, b)) :
    (t.toNat : Int) = (A.GetArg "-prune" SInt.zero).val * 1048576 ∧ (b = true ↔ t ≠ 0) ∧
      (b = true → A.MIN_DISK_SPACE_FOR_BLOCK_FILES ≤ t) := by
  rw [pruneTarget, SInt.mul_mul_1024_bind] at h
  obtain ⟨n, hn, h⟩ := Result.bind_eq_ok.mp h
  rw [SInt.ofInt?_eq_ok_iff] at hn
  have hr := n.range
  dsimp only at h
  split at h
  · cases h
  rename_i hneg
  have ht : ((BitVec.ofInt 64 n.val).toNat : Int) = n.val := by
    rw [BitVec.toNat_ofInt]
    omega
  split at h
  · split at h
    · cases h
    · rename_i hne hmin
      cases h
      exact ⟨ht.trans hn, by simpa using hne, fun _ => BitVec.not_lt.mp hmin⟩
  · rename_i hz
    cases h
    exact ⟨ht.trans hn, by simpa using hz, by simp⟩

/-- `-prune * 1024 * 1024` overflows `int64_t`; nothing else can. -/
theorem pruneTarget_undefined_iff : pruneTarget A = .undefined ↔
    ¬(-2 ^ 63 ≤ (A.GetArg "-prune" SInt.zero).val * 1048576 ∧
      (A.GetArg "-prune" SInt.zero).val * 1048576 < 2 ^ 63) := by
  rw [pruneTarget, SInt.mul_mul_1024_bind, Result.bind_eq_undefined, SInt.ofInt?_eq_undefined_iff]
  constructor
  · rintro (h | ⟨n, -, h⟩)
    · exact h
    · dsimp only at h
      split at h
      · cases h
      · split at h
        · split at h <;> cases h
        · cases h
  · exact Or.inl

/-- The prune target passes its checks exactly when `-prune * 1048576` is in `[0, 2^63)` and is
`0` or at least `MIN_DISK_SPACE_FOR_BLOCK_FILES`. -/
theorem pruneTarget_isOk_iff : (∃ p, pruneTarget A = .ok p) ↔
    0 ≤ (A.GetArg "-prune" SInt.zero).val * 1048576 ∧
      (A.GetArg "-prune" SInt.zero).val * 1048576 < 2 ^ 63 ∧
      ((A.GetArg "-prune" SInt.zero).val * 1048576 = 0 ∨
        (A.MIN_DISK_SPACE_FOR_BLOCK_FILES.toNat : Int) ≤
          (A.GetArg "-prune" SInt.zero).val * 1048576) := by
  rw [pruneTarget, SInt.mul_mul_1024_bind]
  generalize (A.GetArg "-prune" SInt.zero).val * 1048576 = P
  by_cases hr : -2 ^ (64 - 1) ≤ P ∧ P < 2 ^ (64 - 1)
  · rw [SInt.ofInt?_ok hr, Result.ok_bind]
    dsimp only
    by_cases hneg : P < 0
    · rw [if_pos hneg]
      simp only [reduceCtorEq, exists_false, false_iff]
      omega
    rw [if_neg hneg]
    have ht : ((BitVec.ofInt 64 P).toNat : Int) = P := by
      rw [BitVec.toNat_ofInt]
      omega
    have hz : BitVec.ofInt 64 P = 0 ↔ P = 0 := by
      have h0 : (0 : BitVec 64).toNat = 0 := rfl
      rw [BitVec.toNat_eq, h0]
      omega
    split_ifs with hne hmin
    · rw [BitVec.lt_def, ← Int.ofNat_lt, ht] at hmin
      have := hz.not.mp hne
      simp only [reduceCtorEq, exists_false, false_iff]
      omega
    · rw [BitVec.lt_def, ← Int.ofNat_lt, ht] at hmin
      simp only [Result.pure_eq, Result.ok.injEq, exists_eq', true_iff]
      omega
    · simp only [Result.pure_eq, Result.ok.injEq, exists_eq', true_iff]
      exact ⟨by omega, by omega, .inl (hz.mp (not_not.mp hne))⟩
  · rw [SInt.ofInt?_undefined hr, Result.undefined_bind]
    simp only [reduceCtorEq, exists_false, false_iff]
    omega

theorem minRelayTxFee_eq_ok {n : SInt 64} (h : minRelayTxFee A = .ok n) :
    ∃ d, A.dMinLimiterTxFee = some d ∧ n.val = truncToInt d * 1000 := by
  unfold minRelayTxFee at h
  split at h
  · cases h
  · rename_i d hd
    obtain ⟨x, hx, h⟩ := Result.bind_eq_ok.mp h
    rw [SInt.ofInt?_eq_ok_iff] at hx
    exact ⟨d, hd, by rw [SInt.mul_eq_ok_iff.mp h, hx]⟩

/-- The conversion and the product are undefined exactly when the `double` is not finite or its
integer part times `1000` leaves `int64_t`: a product in range has its factor in range. -/
theorem minRelayTxFee_undefined_iff : minRelayTxFee A = .undefined ↔
    ¬∃ d, A.dMinLimiterTxFee = some d ∧
      -2 ^ 63 ≤ truncToInt d * 1000 ∧ truncToInt d * 1000 < 2 ^ 63 := by
  unfold minRelayTxFee
  split
  · rename_i hd
    simp [hd]
  · rename_i d hd
    simp only [hd, Option.some.injEq, exists_eq_left']
    rw [Result.bind_eq_undefined, SInt.ofInt?_eq_undefined_iff]
    constructor
    · rintro (h | ⟨x, hx, h⟩) hin
      · exact h ⟨by omega, by omega⟩
      · rw [SInt.ofInt?_eq_ok_iff] at hx
        rw [SInt.mul, SInt.ofInt?_eq_undefined_iff, hx] at h
        exact h hin
    · intro h
      by_cases ht : -2 ^ (64 - 1) ≤ truncToInt d ∧ truncToInt d < 2 ^ (64 - 1)
      · refine .inr ⟨_, SInt.ofInt?_ok ht, ?_⟩
        rw [SInt.mul, SInt.ofInt?_eq_undefined_iff]
        exact h
      · exact .inl ht

theorem checkStandard_ne_undefined : checkStandard A ≠ .undefined := by
  dsimp only [checkStandard]
  split <;> exact Result.noConfusion

theorem xthinBloomFilterSize_eq_ok {n : BitVec 32} (h : xthinBloomFilterSize A = .ok n) :
    SMALLEST_MAX_BLOOM_FILTER_SIZE ≤ n.toNat ∧
      (n.toNat : Int) = (A.GetArg "-xthinbloomfiltersize" xthinDefault).val % 2 ^ 32 := by
  dsimp only [xthinBloomFilterSize] at h
  split at h
  · cases h
  · rename_i hmin
    cases h
    refine ⟨Nat.le_of_not_lt hmin, ?_⟩
    rw [BitVec.toNat_ofInt]
    omega

theorem xthinBloomFilterSize_ne_undefined : xthinBloomFilterSize A ≠ .undefined := by
  dsimp only [xthinBloomFilterSize]
  split <;> exact Result.noConfusion

/-- What a successful step 3 is made of. -/
theorem internalFlags_parts {f : InitFlags} (h : internalFlags A = .ok f) :
    f.ratio = checkmempoolRatio A ∧ mempoolSizeMax A = .ok f.nMempoolSizeMax ∧
      pruneTarget A = .ok (f.nPruneTarget, f.fPruneMode) ∧
      minRelayTxFee A = .ok f.minRelayTxFee ∧
      xthinBloomFilterSize A = .ok f.nXthinBloomFilterSize := by
  obtain ⟨n, hn, h⟩ := Result.bind_eq_ok.mp h
  obtain ⟨⟨t, b⟩, hp, h⟩ := Result.bind_eq_ok.mp h
  obtain ⟨fee, hfee, h⟩ := Result.bind_eq_ok.mp h
  obtain ⟨⟨⟩, -, h⟩ := Result.bind_eq_ok.mp h
  split at h
  · cases h
  · obtain ⟨x, hx, h⟩ := Result.bind_eq_ok.mp h
    cases h
    exact ⟨rfl, hn, hp, hfee, hx⟩

end AppInit2

/-- Options as the defaults give them, with `-prune=600` and a limiter fee of `1` satoshi per byte;
stand-ins for the chain parameters and the constants, with `MIN_DISK_SPACE_FOR_BLOCK_FILES` of
`550 MiB`, and every file descriptor asked for granted. -/
def sampleInitArgs : InitArgs where
  GetArg name d := if name = "-prune" then ⟨600, by norm_num⟩ else d
  GetBoolArg _ d := d
  hasArg _ := false
  DefaultConsistencyChecks := false
  RequireStandard := true
  NetworkIDString := "main"
  DEFAULT_TXINDEX := false
  DEFAULT_MAX_PEER_CONNECTIONS := ⟨125, by norm_num⟩
  DEFAULT_MAX_OUTBOUND_CONNECTIONS := ⟨8, by norm_num⟩
  DEFAULT_MAX_MEMPOOL_SIZE := ⟨300, by norm_num⟩
  MIN_DISK_SPACE_FOR_BLOCK_FILES := 550 * 1024 * 1024
  dMinLimiterTxFee := some 1
  RaiseFileDescriptorLimit n := n
  ParameterInteraction := .ok ()

/-- The flags of `sampleInitArgs`: no mempool checks, a mempool of `300 MB`, a prune target of
`600 MiB`, a relay fee rate of `1000` satoshi per kB. -/
def sampleInitFlags : InitFlags :=
  ⟨SInt.zero, ⟨300000000, by norm_num⟩, 600 * 1048576, true, ⟨1000, by norm_num⟩, 36000⟩

section Step3

variable (A : InitArgs)

/-- Step 3 sets the ratio of `-checkmempool` clamped to `[0, 1000000]`, the mempool limit
`-maxmempool * 1000000`, the prune target `-prune * 1048576` bytes and the Bloom filter size
`-xthinbloomfiltersize` modulo `2^32`, and its checks make the flags valid. -/
theorem internalFlags_eq_ok {f : InitFlags} (h : AppInit2.internalFlags A = .ok f) :
    f.Valid A ∧
    f.ratio.val = min (max (toCInt (A.GetArg "-checkmempool"
      (AppInit2.checkmempoolDefault A)).val).val 0) 1000000 ∧
    f.nMempoolSizeMax.val = (A.GetArg "-maxmempool" A.DEFAULT_MAX_MEMPOOL_SIZE).val * 1000000 ∧
    (f.nPruneTarget.toNat : Int) = (A.GetArg "-prune" SInt.zero).val * 1048576 ∧
    (∃ d, A.dMinLimiterTxFee = some d ∧ f.minRelayTxFee.val = AppInit2.truncToInt d * 1000) ∧
    (f.nXthinBloomFilterSize.toNat : Int) =
      (A.GetArg "-xthinbloomfiltersize" AppInit2.xthinDefault).val % 2 ^ 32 := by
  obtain ⟨hr, hm, hp, hfee, hx⟩ := AppInit2.internalFlags_parts A h
  obtain ⟨hmv, hmmin⟩ := AppInit2.mempoolSizeMax_eq_ok A hm
  obtain ⟨hpv, hmode, hpmin⟩ := AppInit2.pruneTarget_eq_ok A hp
  obtain ⟨hxmin, hxv⟩ := AppInit2.xthinBloomFilterSize_eq_ok A hx
  have hrv : f.ratio.val = _ := hr ▸ AppInit2.checkmempoolRatio_val A
  exact ⟨⟨by omega, hmmin, hmode, hpmin, hxmin⟩, hrv, hmv, hpv, AppInit2.minRelayTxFee_eq_ok A hfee,
    hxv⟩

/-- Step 3 is undefined exactly when `-maxmempool * 1000000` overflows; or when that product
passes its check and `-prune * 1024 * 1024` overflows; or when the prune target passes its checks
too and the conversion of `dMinLimiterTxFee` or its product by `1000` is undefined. Nothing after
them can be. -/
theorem internalFlags_undefined_iff : AppInit2.internalFlags A = .undefined ↔
    ¬(-2 ^ 63 ≤ (A.GetArg "-maxmempool" A.DEFAULT_MAX_MEMPOOL_SIZE).val * 1000000 ∧
      (A.GetArg "-maxmempool" A.DEFAULT_MAX_MEMPOOL_SIZE).val * 1000000 < 2 ^ 63) ∨
    (2 ^ 22 ≤ (A.GetArg "-maxmempool" A.DEFAULT_MAX_MEMPOOL_SIZE).val * 1000000 ∧
      (A.GetArg "-maxmempool" A.DEFAULT_MAX_MEMPOOL_SIZE).val * 1000000 < 2 ^ 63 ∧
      (¬(-2 ^ 63 ≤ (A.GetArg "-prune" SInt.zero).val * 1048576 ∧
          (A.GetArg "-prune" SInt.zero).val * 1048576 < 2 ^ 63) ∨
        (0 ≤ (A.GetArg "-prune" SInt.zero).val * 1048576 ∧
          (A.GetArg "-prune" SInt.zero).val * 1048576 < 2 ^ 63 ∧
          ((A.GetArg "-prune" SInt.zero).val * 1048576 = 0 ∨
            (A.MIN_DISK_SPACE_FOR_BLOCK_FILES.toNat : Int) ≤
              (A.GetArg "-prune" SInt.zero).val * 1048576) ∧
          ¬∃ d, A.dMinLimiterTxFee = some d ∧ -2 ^ 63 ≤ AppInit2.truncToInt d * 1000 ∧
            AppInit2.truncToInt d * 1000 < 2 ^ 63))) := by
  simp only [AppInit2.internalFlags]
  rw [Result.bind_eq_undefined, AppInit2.mempoolSizeMax_undefined_iff]
  refine or_congr_right ⟨?_, ?_⟩
  · rintro ⟨n, hn, h⟩
    obtain ⟨hv, hmin⟩ := AppInit2.mempoolSizeMax_eq_ok A hn
    have hr := n.range
    rw [Result.bind_eq_undefined, AppInit2.pruneTarget_undefined_iff] at h
    refine ⟨by omega, by omega, h.imp_right ?_⟩
    rintro ⟨p, hp, h⟩
    rw [Result.bind_eq_undefined, AppInit2.minRelayTxFee_undefined_iff] at h
    obtain ⟨hp0, hp1, hpmin⟩ := (AppInit2.pruneTarget_isOk_iff A).mp ⟨p, hp⟩
    refine ⟨hp0, hp1, hpmin, h.resolve_right ?_⟩
    rintro ⟨fee, -, h⟩
    rw [Result.bind_eq_undefined] at h
    rcases h with h | ⟨⟨⟩, -, h⟩
    · exact AppInit2.checkStandard_ne_undefined A h
    · split at h
      · cases h
      · rw [Result.bind_eq_undefined] at h
        rcases h with h | ⟨x, -, h⟩
        · exact AppInit2.xthinBloomFilterSize_ne_undefined A h
        · cases h
  · rintro ⟨hmin, hmax, hp⟩
    obtain ⟨n, hn⟩ := AppInit2.mempoolSizeMax_exists_ok A hmin hmax
    refine ⟨n, hn, Result.bind_eq_undefined.mpr ?_⟩
    rcases hp with hp | ⟨hp0, hp1, hpmin, hfee⟩
    · exact .inl ((AppInit2.pruneTarget_undefined_iff A).mpr hp)
    · obtain ⟨p, hp⟩ := (AppInit2.pruneTarget_isOk_iff A).mpr ⟨hp0, hp1, hpmin⟩
      exact .inr ⟨p, hp, Result.bind_eq_undefined.mpr
        (.inl ((AppInit2.minRelayTxFee_undefined_iff A).mpr hfee))⟩

/-- `AppInit2` never sets prune mode together with `-txindex` or `-rescan`: step 2 refuses both
once `-prune` is not `0`, and step 3 sets prune mode only for a positive prune target. -/
theorem parameters_prune {limits : ConnectionLimits} {f : InitFlags}
    (h : AppInit2.parameters A = .ok (limits, f)) (hprune : f.fPruneMode = true) :
    A.GetBoolArg "-txindex" A.DEFAULT_TXINDEX = false ∧ A.GetBoolArg "-rescan" false = false := by
  obtain ⟨⟨⟩, hc, h⟩ := Result.bind_eq_ok.mp h
  obtain ⟨l, -, h⟩ := Result.bind_eq_ok.mp h
  obtain ⟨f', hf, h⟩ := Result.bind_eq_ok.mp h
  cases h
  obtain ⟨-, -, hp, -, -⟩ := AppInit2.internalFlags_parts A hf
  obtain ⟨hpv, hmode, -⟩ := AppInit2.pruneTarget_eq_ok A hp
  have hp0 : (A.GetArg "-prune" SInt.zero).val ≠ 0 := by
    intro h0
    rw [h0, zero_mul] at hpv
    have hz : (0 : BitVec 64).toNat = 0 := rfl
    exact hmode.mp hprune (BitVec.eq_of_toNat_eq (by omega))
  rw [AppInit2.checkPrune, if_pos hp0] at hc
  split_ifs at hc with htx hre
  exact ⟨by simpa using htx, by simpa using hre⟩

theorem parameters_prune_sample :
    AppInit2.parameters sampleInitArgs =
      .ok (⟨⟨125, by norm_num⟩, ⟨8, by norm_num⟩⟩, sampleInitFlags) ∧
    sampleInitFlags.fPruneMode = true ∧
    sampleInitArgs.GetBoolArg "-txindex" sampleInitArgs.DEFAULT_TXINDEX = false ∧
    sampleInitArgs.GetBoolArg "-rescan" false = false :=
  have h : AppInit2.parameters sampleInitArgs =
      .ok (⟨⟨125, by norm_num⟩, ⟨8, by norm_num⟩⟩, sampleInitFlags) := by rfl
  have hprune : sampleInitFlags.fPruneMode = true := rfl
  ⟨h, hprune, parameters_prune sampleInitArgs h hprune⟩

end Step3

end Membercoin
