import Mathlib.Algebra.Order.Ring.Rat
import Mathlib.Tactic.Linarith
import Mathlib.Tactic.Ring
import QueueForge.Domain.ValueObjects

/-! The delays of a retry strategy over the attempts: how `calculateDelay` grows within its bounds,
and where `calculateBackoff`, its alias, gives the same.
-/

namespace QueueForge.Domain

open QueueForge.Js

-----------------------------------------------------------------------------------------
-- Whole delays under a maximum
-----------------------------------------------------------------------------------------

theorem ofInt_add_ofInt (left right : Int)
    : (Number.ofInt left).add (.ofInt right) = .ofInt (left + right) :=
  congrArg Number.finite (Rat.intCast_add left right).symm

/-- The larger of two integers, as numbers. -/
theorem max_ofInt (left right : Int)
    : Number.max (.ofInt left) (.ofInt right) = .ofInt (max left right) := by
  have compared := Number.ofInt_le_ofInt left right
  unfold Number.max
  simp only [Number.ofInt] at compared ⊢
  by_cases order : left ≤ right
  · simp only [compared, order, decide_true, if_true, max_eq_right]
  · have other : right ≤ left := by omega
    simp only [compared, order, decide_false, max_eq_left other]
    exact if_neg Bool.false_ne_true

theorem finite_lt_finite (left right : Rat)
    : (Number.finite left).lt (.finite right) = decide (left < right) := by
  by_cases below : left < right
  · simp [Number.lt, Number.le, below, below.le]
  · simp [Number.lt, Number.le, not_lt.mp below]

/-- The smaller of two integers, as numbers. -/
theorem min_ofInt (left right : Int)
    : Number.min (.ofInt left) (.ofInt right) = .ofInt (min left right) := by
  have compared := Number.ofInt_le_ofInt left right
  unfold Number.min
  simp only [Number.ofInt] at compared ⊢
  by_cases order : left ≤ right
  · simp only [compared, order, decide_true, if_true, min_eq_left]
  · have other : right ≤ left := by omega
    simp only [compared, order, decide_false, min_eq_right other]
    exact if_neg Bool.false_ne_true

namespace RetryStrategyVO

/-- The types whose delay grows, and is jittered. -/
def Grows (strategy : RetryStrategyVO) : Prop :=
  strategy.type = "EXPONENTIAL" ∨ strategy.type = "LINEAR"

instance (strategy : RetryStrategyVO) : Decidable strategy.Grows :=
  inferInstanceAs (Decidable (_ ∨ _))

/-- How often an attempt takes the initial delay. -/
def growth (type : String) (attempt : Int) : Rat :=
  if type = "EXPONENTIAL" then 2 ^ (attempt - 1).toNat
  else if type = "LINEAR" then attempt
  else 1

/-- What a draw stretches a delay by. A factor that is not a number counts as none. -/
def stretch (strategy : RetryStrategyVO) (random : Rat) : Rat :=
  match strategy.config.jitterFactor with
  | .finite factor => if 0 < factor then 1 + factor * random else 1
  | _ => 1

/-- The delay of an attempt from the first on, before it is rounded and capped. -/
def exactDelay (strategy : RetryStrategyVO) (initial random : Rat) (attempt : Int) : Rat :=
  initial * growth strategy.type attempt * if strategy.Grows then strategy.stretch random else 1

section
variable {strategy : RetryStrategyVO} {initial random : Rat} {attempt later : Int}

/-- A base delay with its jitter. -/
theorem add_jitter (strategy : RetryStrategyVO) (runtime : Runtime) (baseDelay : Rat)
    : Number.add (.finite baseDelay) (strategy.jitter runtime (.finite baseDelay))
      = .finite (baseDelay * strategy.stretch runtime.random) := by
  have within := strategy.accepted.jitterWithinUnit.2
  have zero : (0 : Number) = .finite 0 := rfl
  unfold jitter stretch
  cases factor : strategy.config.jitterFactor with
  | nan =>
      simp only [mul_one]
      exact congrArg Number.finite (add_zero baseDelay)
  | negInfinity =>
      simp only [mul_one]
      exact congrArg Number.finite (add_zero baseDelay)
  | posInfinity =>
      rw [factor] at within
      exact nomatch within
  | finite share =>
      by_cases positive : 0 < share
      · have drawn : Number.lt 0 (.finite share) = true := by
          simpa only [zero, finite_lt_finite, decide_eq_true_eq] using positive
        rw [if_pos drawn]
        simp only [positive, if_true]
        exact congrArg Number.finite (by ring)
      · have undrawn : ¬Number.lt 0 (.finite share) = true := by
          simpa only [zero, finite_lt_finite, decide_eq_true_eq] using positive
        rw [if_neg undrawn]
        simp only [positive, if_false, mul_one]
        exact congrArg Number.finite (add_zero baseDelay)

/-- The delay of a finite strategy: rounded down and capped. -/
theorem calculateDelay_finite (given : strategy.config.initialDelayMs = .finite initial)
    (runtime : Runtime) (attempt : Int)
    : strategy.calculateDelay runtime (.ofInt attempt)
      = Number.min
        (.finite (strategy.exactDelay initial runtime.random (max 1 attempt)).floor)
        strategy.config.maxDelayMs := by
  have counted : Number.max 1 (.ofInt attempt) = .ofInt (max 1 attempt) :=
    max_ofInt 1 attempt
  have earlier
      : (Number.ofInt (max 1 attempt)).add (.ofInt (-1)) = .ofInt (max 1 attempt - 1) :=
    ofInt_add_ofInt (max 1 attempt) (-1)
  have nonneg : 0 ≤ max 1 attempt - 1 := by omega
  unfold calculateDelay
  simp only [counted, earlier, Number.pow2_ofInt _ nonneg, given]
  congr 1
  by_cases exponential : strategy.type = "EXPONENTIAL"
  · simp only [exponential, if_true, Number.mul, add_jitter, Number.floor, exactDelay, Grows,
      growth, true_or]
  · by_cases linear : strategy.type = "LINEAR"
    · have other : ¬"LINEAR" = "EXPONENTIAL" := by decide
      simp only [linear, other, if_true, if_false, Number.mul, Number.ofInt, add_jitter,
        Number.floor, exactDelay, Grows, growth, or_true]
    · simp only [exponential, linear, if_false, Number.floor, exactDelay, Grows, growth, or_self,
        mul_one]

/-- A draw never shortens a delay. -/
theorem one_le_stretch (strategy : RetryStrategyVO) (drawn : 0 ≤ random)
    : 1 ≤ strategy.stretch random := by
  unfold stretch
  split
  case h_1 factor _ =>
    split
    case isTrue positive =>
      have product : 0 ≤ factor * random := mul_nonneg positive.le drawn
      linarith
    case isFalse => exact le_refl 1
  case h_2 => exact le_refl 1

/-- An initial delay that is a finite number is not negative. -/
theorem initial_nonneg (given : strategy.config.initialDelayMs = .finite initial)
    : 0 ≤ initial := by
  have accepted := strategy.accepted.delaysNonnegative.1
  have zero : (0 : Number) = .finite 0 := rfl
  rw [given, zero, finite_lt_finite] at accepted
  exact not_lt.mp (of_decide_eq_false accepted)

/-- A later attempt takes the initial delay as often, or more often. -/
theorem growth_le_growth (type : String) (order : attempt ≤ later)
    : growth type attempt ≤ growth type later := by
  unfold growth
  split
  case isTrue =>
    exact pow_le_pow_right₀ one_le_two (Int.toNat_le_toNat (by omega))
  case isFalse =>
    split
    case isTrue => exact Rat.intCast_le_intCast.mpr order
    case isFalse => exact le_refl 1

theorem growth_one (type : String) : growth type 1 = 1 := by
  simp [growth]

/-- A later attempt waits as long, or longer. -/
theorem exactDelay_le_exactDelay (nonneg : 0 ≤ initial) (drawn : 0 ≤ random)
    (order : attempt ≤ later)
    : strategy.exactDelay initial random attempt
      ≤ strategy.exactDelay initial random later := by
  have stretched : 0 ≤ if strategy.Grows then strategy.stretch random else 1 := by
    have least := strategy.one_le_stretch drawn
    split <;> linarith
  have grown := mul_le_mul_of_nonneg_left (growth_le_growth strategy.type order) nonneg
  exact mul_le_mul_of_nonneg_right grown stretched

/-- The first attempt waits the initial delay at least. -/
theorem initial_le_exactDelay (nonneg : 0 ≤ initial) (drawn : 0 ≤ random)
    (counted : 1 ≤ attempt)
    : initial ≤ strategy.exactDelay initial random attempt := by
  have first : initial ≤ strategy.exactDelay initial random 1 := by
    have least := strategy.one_le_stretch drawn
    unfold exactDelay
    rw [growth_one, mul_one]
    split
    case isTrue => exact le_mul_of_one_le_right nonneg least
    case isFalse => exact le_of_eq (mul_one initial).symm
  exact le_trans first (exactDelay_le_exactDelay nonneg drawn counted)

/-- A retry that draws nothing. -/
def undrawn : Runtime where
  now := 0
  random := 0
  fractional := id

/-- The delay of integer bounds is an integer. -/
theorem calculateDelay_ofInt {least most : Int}
    (initial : strategy.config.initialDelayMs = .ofInt least)
    (maximum : strategy.config.maxDelayMs = .ofInt most) (runtime : Runtime) (attempt : Int)
    : strategy.calculateDelay runtime (.ofInt attempt)
      = .ofInt
          (min (strategy.exactDelay least runtime.random (max 1 attempt)).floor most) := by
  rw [calculateDelay_finite initial, maximum]
  exact min_ofInt _ most

/-- A delay stays between the initial and the maximal one, and does not shrink with the
attempts.
-/
theorem calculateDelay_grows_within {least most : Int} (strategy : RetryStrategyVO)
    (initial : strategy.config.initialDelayMs = .ofInt least)
    (maximum : strategy.config.maxDelayMs = .ofInt most) (runtime again : Runtime)
    (drawn : 0 ≤ runtime.random) (same : again.random = runtime.random)
    (order : attempt ≤ later)
    : (Number.ofInt least).le (strategy.calculateDelay runtime (.ofInt attempt)) = true
      ∧ (strategy.calculateDelay runtime (.ofInt attempt)).le (.ofInt most) = true
      ∧ (strategy.calculateDelay runtime (.ofInt attempt)).le
          (strategy.calculateDelay again (.ofInt later)) = true := by
  have nonneg : (0 : Rat) ≤ least := initial_nonneg initial
  have accepted := strategy.accepted.initialWithinMax
  rw [initial, maximum, Number.ofInt_lt_ofInt] at accepted
  have within : least ≤ most := not_lt.mp (of_decide_eq_false accepted)
  have waited
      : least ≤ (strategy.exactDelay least runtime.random (max 1 attempt)).floor :=
    Rat.le_floor_iff.mpr (initial_le_exactDelay nonneg drawn (le_max_left 1 attempt))
  have grown
      : (strategy.exactDelay least runtime.random (max 1 attempt)).floor
        ≤ (strategy.exactDelay least runtime.random (max 1 later)).floor :=
    Rat.floor_monotone (exactDelay_le_exactDelay nonneg drawn (by omega))
  rw [calculateDelay_ofInt initial maximum, calculateDelay_ofInt initial maximum, same]
  simp only [Number.ofInt_le_ofInt, decide_eq_true_eq]
  omega

/-- The default strategy over its first attempts. -/
theorem calculateDelay_grows_by_default
    : (Number.ofInt 1000).le (exponentialDefault.calculateDelay undrawn (.ofInt (-3))) = true
      ∧ (exponentialDefault.calculateDelay undrawn (.ofInt (-3))).le (.ofInt 3600000) = true
      ∧ (exponentialDefault.calculateDelay undrawn (.ofInt (-3))).le
          (exponentialDefault.calculateDelay undrawn (.ofInt 12)) = true :=
  calculateDelay_grows_within exponentialDefault rfl rfl undrawn undrawn (le_refl 0) rfl
    (by decide)

end

end RetryStrategyVO

end QueueForge.Domain
