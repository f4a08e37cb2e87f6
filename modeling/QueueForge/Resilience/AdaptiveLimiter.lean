import QueueForge.Js.Doubles

/-! `AdaptiveLimiter`: a concurrency that follows the pressure, by steps that are each bounded on
one side. The bounds hold on both sides from a concurrency within them, which the initial one need
not be.
-/

namespace QueueForge.Resilience

open QueueForge.Js

/-- The stages of pressure by queue utilization. -/
inductive PressureLevel where
  | low
  | medium
  | high
  | critical
deriving DecidableEq, Repr

/-- The settings of the limiter; `none` stands for a member that is absent. -/
structure AdaptiveLimiterConfig where
  minConcurrency : Option Double := none
  maxConcurrency : Option Double := none
  initialConcurrency : Option Double := none

structure AdaptiveLimiter where
  minConcurrency : Double
  maxConcurrency : Double
  currentConcurrency : Double

/-- `given || fallback` on an optional number. -/
def orDouble (given : Option Double) (fallback : Double) : Double :=
  (given.filter (fun value => value.number.truthy)).getD fallback

namespace AdaptiveLimiter

def new (config : AdaptiveLimiterConfig) : AdaptiveLimiter where
  minConcurrency := orDouble config.minConcurrency (.literal 1)
  maxConcurrency := orDouble config.maxConcurrency (.literal 100)
  currentConcurrency := orDouble config.initialConcurrency (.literal 20)

variable (limiter : AdaptiveLimiter)

def getMaxConcurrency : Double := limiter.currentConcurrency

/-- The concurrency a stage of pressure asks for. -/
def target (level : PressureLevel) (current : Double) : Double :=
  match level with
  | .critical => limiter.minConcurrency.max (current.times (.literal (5 / 10))).floor
  | .high => limiter.minConcurrency.max (current.times (.literal (8 / 10))).floor
  | .low => limiter.maxConcurrency.min (current.times (.literal (11 / 10))).ceil
  | .medium => current

/-- Adjusts current concurrency gradually according to pressure stage. -/
def adjustConcurrency (level : PressureLevel) (current : Double) : AdaptiveLimiter × Double :=
  let target := limiter.target level current
  if target.number ≠ current.number then
    ({ limiter with currentConcurrency := target }, target)
  else
    (limiter, target)

/-- A limiter after a sequence of stages, newest first, and the concurrency it gives: each result is
fed back as the next current one.
-/
def afterLevels : List PressureLevel → AdaptiveLimiter × Double
  | [] => (limiter, limiter.getMaxConcurrency)
  | level :: earlier =>
      let (limiter, current) := afterLevels earlier
      limiter.adjustConcurrency level current

/-- The concurrency is within the bounds after every sequence of stages. -/
def StaysWithin : Prop :=
  ∀ levels,
    limiter.minConcurrency.number.le (limiter.afterLevels levels).2.number = true
    ∧ (limiter.afterLevels levels).2.number.le limiter.maxConcurrency.number = true

/-- A concurrency that is within the bounds, and not negative. -/
structure Within (current : Double) : Prop where
  nonneg : Number.le 0 current.number = true
  atLeast : limiter.minConcurrency.number.le current.number = true
  atMost : current.number.le limiter.maxConcurrency.number = true

variable {limiter} {level : PressureLevel} {current : Double}

/-- A step down keeps within the bounds: it is clamped below, and not above the current one. -/
theorem Within.stepDown (within : limiter.Within current) {factor : Double} {share : Rat}
    (exact : factor.number = .finite share) (positive : 0 < share) (atMost : share ≤ 1)
    : limiter.Within (limiter.minConcurrency.max (current.times factor).floor) := by
  have lowered : (current.times factor).number.le current.number = true :=
    Double.times_le exact positive atMost within.nonneg
  have floored : (current.times factor).floor.number.le current.number = true :=
    Number.le_trans (Number.floor_le (Number.ne_nan_of_le lowered).1) lowered
  have nonneg : Number.le 0 (current.times factor).floor.number = true :=
    Number.zero_le_floor (Double.zero_le_times exact positive within.nonneg)
  have numbers := (Number.ne_nan_of_le within.atLeast).1
  have above := Number.le_max_right numbers (Number.ne_nan_of_le floored).1
  exact {
    nonneg := Number.le_trans nonneg above
    atLeast := Number.le_max (Number.ne_nan_of_le above).2
    atMost := Number.le_trans (Number.max_le within.atLeast floored) within.atMost
  }

/-- A step up keeps within the bounds: it is clamped above, and not below the current one. -/
theorem Within.stepUp (within : limiter.Within current) {factor : Double} {multiple : Rat}
    (exact : factor.number = .finite multiple) (atLeast : 1 ≤ multiple)
    : limiter.Within (limiter.maxConcurrency.min (current.times factor).ceil) := by
  have raised : current.number.le (current.times factor).number = true :=
    Double.le_times exact atLeast within.nonneg
  have ceiled : current.number.le (current.times factor).ceil.number = true :=
    Number.le_trans raised (Number.le_ceil (Number.ne_nan_of_le raised).2)
  have above
      : current.number.le (limiter.maxConcurrency.min (current.times factor).ceil).number = true :=
    Number.le_min within.atMost ceiled
  exact {
    nonneg := Number.le_trans within.nonneg above
    atLeast := Number.le_trans within.atLeast above
    atMost :=
      Number.min_le (Number.ne_nan_of_le within.atMost).2 (Number.ne_nan_of_le ceiled).2
  }

/-- Every step keeps within the bounds. -/
theorem Within.target (within : limiter.Within current)
    : limiter.Within (limiter.target level current) := by
  cases level with
  | critical =>
      have half : (Double.literal (5 / 10)).number = .finite (1 / 2) := by decide +kernel
      exact within.stepDown half (by norm_num) (by norm_num)
  | high =>
      have most : (Double.literal (8 / 10)).number = .finite (3602879701896397 / 2 ^ 52) := by
        decide +kernel
      exact within.stepDown most (by norm_num) (by norm_num)
  | medium => exact within
  | low =>
      have more : (Double.literal (11 / 10)).number = .finite (2476979795053773 / 2 ^ 51) := by
        decide +kernel
      exact within.stepUp more (by norm_num)

/-- Adjusting gives the target, and leaves the bounds. -/
theorem adjustConcurrency_eq
    : (limiter.adjustConcurrency level current).2 = limiter.target level current
      ∧ (limiter.adjustConcurrency level current).1.minConcurrency = limiter.minConcurrency
      ∧ (limiter.adjustConcurrency level current).1.maxConcurrency = limiter.maxConcurrency := by
  unfold adjustConcurrency
  simp only
  split <;> exact ⟨rfl, rfl, rfl⟩

/-- From a concurrency within the bounds on, every sequence of stages keeps it there, and leaves the
bounds. By induction on the stages.
-/
theorem afterLevels_within (within : limiter.Within limiter.currentConcurrency)
    (levels : List PressureLevel)
    : limiter.Within (limiter.afterLevels levels).2
      ∧ (limiter.afterLevels levels).1.minConcurrency = limiter.minConcurrency
      ∧ (limiter.afterLevels levels).1.maxConcurrency = limiter.maxConcurrency := by
  induction levels with
  | nil => exact ⟨within, rfl, rfl⟩
  | cons level earlier ih =>
      obtain ⟨inside, low, high⟩ := ih
      have adjusted :=
        @adjustConcurrency_eq (limiter.afterLevels earlier).1 level (limiter.afterLevels earlier).2
      have target
          : (limiter.afterLevels earlier).1.target level (limiter.afterLevels earlier).2
            = limiter.target level (limiter.afterLevels earlier).2 := by
        unfold AdaptiveLimiter.target
        rw [low, high]
      refine ⟨?_, adjusted.2.1.trans low, adjusted.2.2.trans high⟩
      rw [afterLevels, adjusted.1, target]
      exact inside.target

/-- The concurrency stays within the bounds from an initial one within them that is not negative,
and only from one within them.
-/
theorem staysWithin_of_initial (config : AdaptiveLimiterConfig)
    : ((new config).Within (new config).currentConcurrency → (new config).StaysWithin)
      ∧ ((new config).StaysWithin
          → (new config).minConcurrency.number.le (new config).currentConcurrency.number = true
            ∧ (new config).currentConcurrency.number.le (new config).maxConcurrency.number
              = true) := by
  constructor
  · intro within levels
    have inside := (afterLevels_within within levels).1
    exact ⟨inside.atLeast, inside.atMost⟩
  · exact fun stays => stays []

/-- With a minimum alone the limiter starts below it, from its own default. -/
theorem default_below_minimum
    : (new ⟨some (.literal 50), none, none⟩).minConcurrency.number.le
          (new ⟨some (.literal 50), none, none⟩).maxConcurrency.number
        = true
      ∧ ¬(new ⟨some (.literal 50), none, none⟩).StaysWithin := by
  refine ⟨by decide +kernel, fun stays => ?_⟩
  have started := (stays []).1
  have below
      : (new ⟨some (.literal 50), none, none⟩).minConcurrency.number.le
            (new ⟨some (.literal 50), none, none⟩).currentConcurrency.number
          = false := by
    decide +kernel
  exact Bool.false_ne_true (below.symm.trans started)

end AdaptiveLimiter

end QueueForge.Resilience
