import Mathlib.Tactic

/-!
# Consensus limits (`consensus/consensus.h`)

`GetMaxBlockSigOpsCount(nBlockSize)` allows `MAX_BLOCK_SIGOPS_PER_MB` signature operations per
started megabyte, `1 + (nBlockSize - 1) / 1000000` megabytes in `uint64_t` arithmetic. For every
positive size that is the ceiling of the size in megabytes and nothing wraps; for the size `0` the
subtraction wraps to `2^64 - 1`, and the limit becomes `20000 * 18446744073710`.

* `GetMaxBlockSigOpsCount_toNat`: both cases, for every `uint64_t` size.
-/

namespace Membercoin

/-- `BLOCKSTREAM_CORE_MAX_BLOCK_SIZE`. -/
def BLOCKSTREAM_CORE_MAX_BLOCK_SIZE : Nat := 1000000

/-- `MAX_BLOCK_SIGOPS_PER_MB`. -/
def MAX_BLOCK_SIGOPS_PER_MB : Nat := 20000

/-- `SMALLEST_MAX_BLOOM_FILTER_SIZE`, in bytes. -/
def SMALLEST_MAX_BLOOM_FILTER_SIZE : Nat := 36000

/-- `GetMaxBlockSigOpsCount(nBlockSize)`. -/
def GetMaxBlockSigOpsCount (nBlockSize : BitVec 64) : BitVec 64 :=
  let nMbRoundedUp := 1 + (nBlockSize - 1) / 1000000
  nMbRoundedUp * BitVec.ofNat 64 MAX_BLOCK_SIGOPS_PER_MB

/-- For a positive size, `MAX_BLOCK_SIGOPS_PER_MB` per started megabyte, with no wrap-around; for
the size `0`, `nBlockSize - 1` wraps to `2^64 - 1`. -/
theorem GetMaxBlockSigOpsCount_toNat (nBlockSize : BitVec 64) :
    (GetMaxBlockSigOpsCount nBlockSize).toNat =
      if nBlockSize.toNat = 0 then MAX_BLOCK_SIGOPS_PER_MB * ((2 ^ 64 - 1) / 1000000 + 1)
      else MAX_BLOCK_SIGOPS_PER_MB * ((nBlockSize.toNat + 999999) / 1000000) := by
  split
  · rename_i h0
    rw [show nBlockSize = 0 from BitVec.eq_of_toNat_eq h0]
    rfl
  · rename_i h0
    have hn := nBlockSize.isLt
    have h1 : (1 : BitVec 64).toNat = 1 := rfl
    have hsub : (nBlockSize - 1).toNat = nBlockSize.toNat - 1 :=
      BitVec.toNat_sub_of_le (by rw [BitVec.le_def, h1]; omega)
    have hdiv : ((nBlockSize - 1) / 1000000).toNat = (nBlockSize.toNat - 1) / 1000000 := by
      rw [BitVec.toNat_udiv, hsub]; rfl
    simp only [GetMaxBlockSigOpsCount, MAX_BLOCK_SIGOPS_PER_MB, BitVec.toNat_mul, BitVec.toNat_add,
      hdiv, BitVec.toNat_ofNat, h1]
    omega

end Membercoin
