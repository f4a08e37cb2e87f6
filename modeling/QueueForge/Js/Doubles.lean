import Mathlib.Data.Int.Log
import Mathlib.Data.Rat.Floor
import Mathlib.Tactic.Linarith
import QueueForge.Js.Values

/-! Floating-point numbers: rounding to a format, to nearest with ties to even, and the operations
on numbers that round. The format is a parameter up to the last section.
-/

namespace QueueForge.Js

/-- The nearest integer, and the even one of two. -/
def roundHalfEven (value : Rat) : Int :=
  let below := ⌊value⌋
  if value - below < 1 / 2 then
    below
  else if 1 / 2 < value - below then
    below + 1
  else if below % 2 = 0 then
    below
  else
    below + 1

theorem roundHalfEven_intCast (value : Int) : roundHalfEven value = value := by
  simp [roundHalfEven]

/-- Rounding gives the integer below or the one above. -/
theorem roundHalfEven_bounds (value : Rat)
    : ⌊value⌋ ≤ roundHalfEven value ∧ roundHalfEven value ≤ ⌊value⌋ + 1 := by
  unfold roundHalfEven
  simp only
  split_ifs <;> omega

/-- Rounding keeps the order: between the same integers by the rest, else by the integers. -/
theorem roundHalfEven_mono {left right : Rat} (order : left ≤ right)
    : roundHalfEven left ≤ roundHalfEven right := by
  rcases (Int.floor_le_floor order).lt_or_eq with apart | together
  · have below := (roundHalfEven_bounds left).2
    have above := (roundHalfEven_bounds right).1
    omega
  · have rest : left - ⌊left⌋ ≤ right - ⌊right⌋ := by
      rw [together]
      linarith
    unfold roundHalfEven
    simp only
    rw [together] at rest ⊢
    split_ifs <;> first | omega | (exfalso; linarith)

/-- Rounding does not depend on the sign. -/
theorem roundHalfEven_neg (value : Rat) : roundHalfEven (-value) = -roundHalfEven value := by
  by_cases whole : value = ⌊value⌋
  · rw [whole, ← Int.cast_neg, roundHalfEven_intCast, roundHalfEven_intCast]
  · have below : (⌊value⌋ : Rat) < value := lt_of_le_of_ne (Int.floor_le value) (Ne.symm whole)
    have above : value < ⌊value⌋ + 1 := Int.lt_floor_add_one value
    have mirrored : ⌊-value⌋ = -⌊value⌋ - 1 := by
      rw [Int.floor_eq_iff]
      push_cast
      constructor <;> linarith
    unfold roundHalfEven
    simp only
    rw [mirrored]
    push_cast
    split_ifs <;> first | omega | (exfalso; linarith)

/-- A format: the bits of a significand, the exponent of the last place of the smallest numbers,
and the exponent of the first power of two that is too large.
-/
structure FloatFormat where
  precision : Nat
  minPlace : Int
  maxExponent : Int

namespace FloatFormat

variable (format : FloatFormat)

/-- The exponent of the last place of a number. -/
def place (value : Rat) : Int :=
  max (Int.log 2 |value| + 1 - format.precision) format.minPlace

/-- Rounding to the format, as if it had no largest number. -/
def round (value : Rat) : Rat :=
  roundHalfEven (value / 2 ^ format.place value) * 2 ^ format.place value

variable {format} {value : Rat}

theorem round_neg : format.round (-value) = -format.round value := by
  have same : format.place (-value) = format.place value := by rw [place, place, abs_neg]
  rw [round, round, same, neg_div, roundHalfEven_neg, Int.cast_neg, neg_mul]

/-- A power of two is a whole number of smaller ones. -/
theorem exists_multiple {smaller larger : Int} (order : smaller ≤ larger)
    : ∃ count : Int, (2 : Rat) ^ larger = count * 2 ^ smaller := by
  refine ⟨2 ^ (larger - smaller).toNat, ?_⟩
  push_cast
  rw [← zpow_natCast, ← zpow_add₀ (by norm_num)]
  congr 1
  omega

section
variable {count : Int}

/-- A number is not rounded across a multiple of its last place. -/
theorem round_le_multiple (order : value ≤ count * 2 ^ format.place value)
    : format.round value ≤ count * 2 ^ format.place value := by
  have positive : (0 : Rat) < 2 ^ format.place value := zpow_pos (by norm_num) _
  have scaled := roundHalfEven_mono ((div_le_iff₀ positive).mpr order)
  rw [roundHalfEven_intCast] at scaled
  exact mul_le_mul_of_nonneg_right (Int.cast_le.mpr scaled) positive.le

theorem multiple_le_round (order : count * 2 ^ format.place value ≤ value)
    : count * 2 ^ format.place value ≤ format.round value := by
  have positive : (0 : Rat) < 2 ^ format.place value := zpow_pos (by norm_num) _
  have scaled := roundHalfEven_mono ((le_div_iff₀ positive).mpr order)
  rw [roundHalfEven_intCast] at scaled
  exact mul_le_mul_of_nonneg_right (Int.cast_le.mpr scaled) positive.le

end

/-- A number that is not negative is rounded to one that is not. -/
theorem round_nonneg (nonneg : 0 ≤ value) : 0 ≤ format.round value := by
  have above : (0 : Int) * 2 ^ format.place value ≤ format.round value :=
    multiple_le_round (by simpa using nonneg)
  simpa using above

/-- Rounding keeps the order of positive numbers: on the same grid by the multiples, else by the
leading power of two of the larger one, which lies between.
-/
theorem round_mono_of_pos (wide : 0 < format.precision) {left right : Rat} (positive : 0 < left)
    (order : left ≤ right)
    : format.round left ≤ format.round right := by
  have positive' : 0 < right := positive.trans_le order
  have logs := Int.log_mono_right (b := 2) positive order
  have places : format.place left ≤ format.place right := by
    rw [place, place, abs_of_pos positive, abs_of_pos positive']
    omega
  rcases places.eq_or_lt with same | finer
  · have scale : (0 : Rat) < 2 ^ format.place right := zpow_pos (by norm_num) _
    rw [round, round, same]
    refine mul_le_mul_of_nonneg_right (Int.cast_le.mpr ?_) scale.le
    exact roundHalfEven_mono (div_le_div_of_nonneg_right order scale.le)
  · have leading
        : format.place right ≤ Int.log 2 right ∧ Int.log 2 left < Int.log 2 right := by
      rw [place, place, abs_of_pos positive, abs_of_pos positive'] at *
      omega
    have missed := ((Int.lt_zpow_iff_log_lt one_lt_two positive).mpr leading.2).le
    have reached := Int.zpow_log_le_self one_lt_two positive'
    rw [Nat.cast_ofNat] at missed reached
    obtain ⟨few, fewer⟩ := exists_multiple leading.1
    obtain ⟨many, more⟩ := exists_multiple (finer.le.trans leading.1)
    calc format.round left
        ≤ many * 2 ^ format.place left := round_le_multiple (more ▸ missed)
      _ = few * 2 ^ format.place right := more.symm.trans fewer
      _ ≤ format.round right := multiple_le_round (fewer ▸ reached)

/-- Rounding keeps the order. -/
theorem round_mono (wide : 0 < format.precision) {left right : Rat} (order : left ≤ right)
    : format.round left ≤ format.round right := by
  rcases lt_or_ge 0 left with positive | notPositive
  · exact round_mono_of_pos wide positive order
  · have below : format.round left ≤ 0 := by
      have mirrored : 0 ≤ format.round (-left) := round_nonneg (by linarith)
      rw [round_neg] at mirrored
      linarith
    rcases lt_or_ge right 0 with negative | notNegative
    · have mirrored : format.round (-right) ≤ format.round (-left) :=
        round_mono_of_pos wide (by linarith) (by linarith)
      rw [round_neg, round_neg] at mirrored
      linarith
    · exact below.trans (round_nonneg notNegative)

/-- Multiples of their last place are in the format. -/
theorem round_multiple {count : Int} (multiple : value = count * 2 ^ format.place value)
    : format.round value = value := by
  have below : format.round value ≤ value := by
    refine (round_le_multiple multiple.le).trans ?_
    exact multiple.symm.le
  have above : value ≤ format.round value := by
    refine multiple.le.trans ?_
    exact multiple_le_round multiple.symm.le
  exact below.antisymm above

theorem round_zero : format.round 0 = 0 := by simp [round, roundHalfEven]

/-- A few times a power of two is in the format. -/
theorem round_scaled {factor exponent : Int} (whole : format.minPlace ≤ exponent)
    (short : |(factor : Rat)| < 2 ^ format.precision)
    : format.round (factor * 2 ^ exponent) = factor * 2 ^ exponent := by
  rcases eq_or_ne factor 0 with rfl | nonzero
  · simpa using round_zero
  · have scale : (0 : Rat) < 2 ^ exponent := zpow_pos (by norm_num) _
    have positive : 0 < |factor * (2 : Rat) ^ exponent| :=
      abs_pos.mpr (mul_ne_zero (Int.cast_ne_zero.mpr nonzero) scale.ne')
    have log : Int.log 2 |factor * (2 : Rat) ^ exponent| < format.precision + exponent := by
      refine (Int.lt_zpow_iff_log_lt one_lt_two positive).mp ?_
      rw [abs_mul, abs_of_pos scale, Nat.cast_ofNat, zpow_add₀ (by norm_num), zpow_natCast]
      exact mul_lt_mul_of_pos_right short scale
    have places : format.place (factor * 2 ^ exponent) ≤ exponent := by
      unfold place
      omega
    obtain ⟨count, multiple⟩ := exists_multiple places
    have scaled
        : (factor : Rat) * 2 ^ exponent
          = (factor * count : Int) * 2 ^ format.place (factor * 2 ^ exponent) := by
      rw [Int.cast_mul, mul_assoc, ← multiple]
    exact round_multiple scaled

/-- Integers with few enough bits are in the format. -/
theorem round_intCast (whole : format.minPlace ≤ 0) {value : Int}
    (short : |(value : Rat)| < 2 ^ format.precision)
    : format.round value = value := by
  simpa using round_scaled whole short

/-- A number has at most the bits of a significand above its last place. -/
theorem abs_lt_place : |value| < 2 ^ format.precision * 2 ^ format.place value := by
  have leading : |value| < 2 ^ (Int.log 2 |value| + 1) := by
    have above := Int.lt_zpow_succ_log_self one_lt_two |value|
    rwa [Nat.cast_ofNat] at above
  have places : Int.log 2 |value| + 1 ≤ format.precision + format.place value := by
    unfold place
    omega
  have above := leading.trans_le (zpow_le_zpow_right₀ (one_le_two (α := Rat)) places)
  rwa [zpow_add₀ (by norm_num), zpow_natCast] at above

/-- The significand of a rounded number has the bits there are, or is the next power of two. -/
theorem abs_roundHalfEven_le
    : |roundHalfEven (value / 2 ^ format.place value)| ≤ 2 ^ format.precision := by
  have scale : (0 : Rat) < 2 ^ format.place value := zpow_pos (by norm_num) _
  have short : |value / 2 ^ format.place value| ≤ ((2 ^ format.precision : Int) : Rat) := by
    rw [abs_div, abs_of_pos scale, div_le_iff₀ scale]
    push_cast
    exact abs_lt_place.le
  obtain ⟨below, above⟩ := abs_le.mp short
  have upper := roundHalfEven_mono above
  have lower := roundHalfEven_mono below
  rw [roundHalfEven_intCast] at upper
  rw [roundHalfEven_neg, roundHalfEven_intCast] at lower
  exact abs_le.mpr ⟨lower, upper⟩

/-- Rounding once more changes nothing. -/
theorem round_round (wide : 0 < format.precision)
    : format.round (format.round value) = format.round value := by
  have whole : format.minPlace ≤ format.place value := le_max_right _ _
  rcases (@abs_roundHalfEven_le format value).lt_or_eq with short | full
  · exact round_scaled whole (by exact_mod_cast short)
  · have power (sign : Int) (unit : |(sign : Rat)| = 1)
        : format.round (sign * 2 ^ format.precision * 2 ^ format.place value)
          = sign * 2 ^ format.precision * 2 ^ format.place value := by
      have joined
          : (sign : Rat) * 2 ^ format.precision * 2 ^ format.place value
            = sign * 2 ^ ((format.precision : Int) + format.place value) := by
        rw [zpow_add₀ (by norm_num), zpow_natCast, mul_assoc]
      rw [joined]
      refine round_scaled (by omega) ?_
      rw [unit]
      exact one_lt_pow₀ one_lt_two wide.ne'
    have single : format.round value
        = roundHalfEven (value / 2 ^ format.place value) * 2 ^ format.place value :=
      rfl
    rcases (abs_eq (by positivity)).mp full with positive | negative
    · rw [single, positive]
      simpa using power 1 (by norm_num)
    · rw [single, negative]
      simpa using power (-1) (by norm_num)

/-- A number of the format is whole, or has few bits above the point. -/
theorem floor_eq_or_short (wide : 0 < format.precision) (exact : format.round value = value)
    : ⌊value⌋ = value ∨ |(⌊value⌋ : Rat)| < 2 ^ format.precision := by
  rcases le_or_gt 0 (format.place value) with coarse | fine
  · obtain ⟨count, multiple⟩ := exists_multiple coarse
    have integer
        : value = (roundHalfEven (value / 2 ^ format.place value) * count : Int) := by
      rw [zpow_zero, mul_one] at multiple
      rw [Int.cast_mul, ← multiple]
      exact exact.symm
    left
    rw [integer, Int.floor_intCast]
  · right
    have scale : (2 : Rat) ^ format.place value ≤ 2 ^ (-1 : Int) :=
      zpow_le_zpow_right₀ one_le_two (by omega)
    have bits : (2 : Rat) ≤ 2 ^ format.precision := le_self_pow₀ one_le_two wide.ne'
    have short : |value| < 2 ^ format.precision / 2 := by
      refine (@abs_lt_place format value).trans_le ?_
      rw [div_eq_mul_inv, ← zpow_neg_one]
      exact mul_le_mul_of_nonneg_left scale (by positivity)
    have below := Int.floor_le value
    have above := Int.lt_floor_add_one value
    rw [abs_lt] at short ⊢
    constructor <;> linarith

end FloatFormat

-----------------------------------------------------------------------------------------
-- Numbers
-----------------------------------------------------------------------------------------

/-- The format of `number`. -/
def double : FloatFormat := ⟨53, -1074, 1024⟩

namespace Number

/-- The `number` nearest to an exact result. -/
def rounded : Number → Number
  | finite value =>
      if 2 ^ double.maxExponent ≤ double.round value then
        posInfinity
      else if double.round value ≤ -2 ^ double.maxExponent then
        negInfinity
      else
        finite (double.round value)
  | special => special

/-- The quotient of two numbers. A zero divides as a positive one. -/
def div : Number → Number → Number
  | nan, _ => nan
  | _, nan => nan
  | finite left, finite right =>
      if right ≠ 0 then
        finite (left / right)
      else if left = 0 then
        nan
      else if 0 < left then
        posInfinity
      else
        negInfinity
  | finite _, _ => 0
  | infinity, finite right => if 0 ≤ right then infinity else infinity.neg
  | _, _ => nan

/-- `left * right`. -/
def times (left right : Number) : Number := (left.mul right).rounded

/-- `left / right`. -/
def dividedBy (left right : Number) : Number := (left.div right).rounded

/-- A decimal literal. -/
def literal (value : Rat) : Number := (finite value).rounded

/-- `left + right`. -/
def plus (left right : Number) : Number := (left.add right).rounded

variable {left right : Number}

@[simp] theorem finite_le_finite {left right : Rat}
    : (finite left).le (finite right) = true ↔ left ≤ right := by
  simp only [le, decide_eq_true_eq]

@[simp] theorem finite_lt_finite {left right : Rat}
    : (finite left).lt (finite right) = true ↔ left < right := by
  rw [lt, Bool.and_eq_true, Bool.not_eq_true', Bool.eq_false_iff, finite_le_finite, ne_eq,
    finite_le_finite, ← lt_iff_le_not_ge]

theorem le_refl (isNumber : left ≠ nan) : left.le left = true := by
  cases left with
  | nan => exact absurd rfl isNumber
  | finite value => exact finite_le_finite.mpr (le_refl (α := Rat) value)
  | _ => rfl

/-- The order of numbers is transitive, by cases on which of them are finite. -/
theorem le_trans {middle : Number} (first : left.le middle = true)
    (second : middle.le right = true)
    : left.le right = true := by
  cases left <;> cases middle <;> cases right <;> first | rfl | contradiction | skip
  rw [finite_le_finite] at first second ⊢
  exact first.trans second

theorem negInfinity_le (isNumber : right ≠ nan) : negInfinity.le right = true := by
  cases right <;> first | rfl | contradiction

theorem max_of_ne_nan (isNumber : left ≠ nan) (isNumber' : right ≠ nan)
    : left.max right = if left.le right then right else left := by
  cases left <;> cases right <;> first | contradiction | rfl

theorem max_of_le (order : left.le right = true) : left.max right = right := by
  cases left <;> cases right <;> first | contradiction | rfl | skip
  exact if_pos order

theorem min_of_le (order : left.le right = true) : left.min right = left := by
  cases left <;> cases right <;> first | contradiction | rfl | skip
  exact if_pos order

theorem min_of_lt (order : right.lt left = true) : left.min right = right := by
  rw [lt, Bool.and_eq_true, Bool.not_eq_true'] at order
  obtain ⟨below, above⟩ := order
  cases left <;> cases right <;> first | contradiction | rfl | skip
  exact if_neg (Bool.eq_false_iff.mp above)

/-- A maximum is at least what it is over. -/
theorem le_max (isNumber : left.max right ≠ nan) : left.le (left.max right) = true := by
  have leftNumber : left ≠ nan := by
    rintro rfl
    exact isNumber rfl
  have rightNumber : right ≠ nan := by
    rintro rfl
    cases left <;> exact isNumber rfl
  rw [max_of_ne_nan leftNumber rightNumber]
  split
  next order => exact order
  next => exact le_refl leftNumber

theorem le_posInfinity (isNumber : left ≠ nan) : left.le posInfinity = true := by
  cases left <;> first | rfl | contradiction

theorem rounded_ne_nan {value : Rat} : (finite value).rounded ≠ nan := by
  unfold rounded
  simp only
  split_ifs <;> exact nofun

/-- Rounding keeps the order of numbers. -/
theorem rounded_mono (order : left.le right = true) : left.rounded.le right.rounded = true := by
  cases left with
  | nan => contradiction
  | negInfinity =>
      cases right with
      | nan => contradiction
      | finite value => exact negInfinity_le rounded_ne_nan
      | _ => rfl
  | posInfinity => cases right <;> first | rfl | contradiction
  | finite left =>
      cases right with
      | nan => contradiction
      | negInfinity => contradiction
      | posInfinity => exact le_posInfinity rounded_ne_nan
      | finite right =>
          have mono : double.round left ≤ double.round right :=
            FloatFormat.round_mono (by decide) (finite_le_finite.mp order)
          have limit : (0 : Rat) < 2 ^ double.maxExponent := zpow_pos (by norm_num) _
          simp only [rounded]
          split_ifs
          all_goals
            first
            | rfl
            | exact finite_le_finite.mpr mono
            | (exfalso; linarith)

/-- Of two numbers that are not `NaN`, one is at most the other. -/
theorem ne_nan_of_le (order : left.le right = true) : left ≠ nan ∧ right ≠ nan := by
  cases left <;> cases right <;> first | contradiction | exact ⟨nofun, nofun⟩

theorem floor_le (isNumber : left ≠ nan) : left.floor.le left = true := by
  cases left with
  | nan => contradiction
  | finite value => exact finite_le_finite.mpr (Rat.floor_le value)
  | _ => rfl

theorem le_ceil (isNumber : left ≠ nan) : left.le left.ceil = true := by
  cases left with
  | nan => contradiction
  | finite value => exact finite_le_finite.mpr Rat.le_ceil
  | _ => rfl

/-- Rounding down keeps what is not negative so. -/
theorem zero_le_floor (nonneg : le 0 left = true) : le 0 left.floor = true := by
  cases left with
  | nan => contradiction
  | negInfinity => contradiction
  | posInfinity => rfl
  | finite value =>
      have nonneg : (0 : Rat) ≤ value := finite_le_finite.mp nonneg
      have floored : 0 ≤ value.floor := Rat.le_floor_iff.mpr nonneg
      exact finite_le_finite.mpr (Int.cast_nonneg floored)

theorem max_le {bound : Number} (atMost : left.le bound = true) (atMost' : right.le bound = true)
    : (left.max right).le bound = true := by
  rw [max_of_ne_nan (ne_nan_of_le atMost).1 (ne_nan_of_le atMost').1]
  split
  next => exact atMost'
  next => exact atMost

theorem le_total (isNumber : left ≠ nan) (isNumber' : right ≠ nan)
    : left.le right = true ∨ right.le left = true := by
  cases left <;> cases right <;> first | contradiction | exact .inl rfl | exact .inr rfl | skip
  rw [finite_le_finite, finite_le_finite]
  exact Rat.le_total

/-- What is above a number is one. -/
theorem ne_nan_of_lt (below : left.lt right = true) : right ≠ nan := by
  rintro rfl
  cases left <;> contradiction

theorem lt_of_not_le (isNumber : left ≠ nan) (isNumber' : right ≠ nan)
    (above : right.le left = false)
    : left.lt right = true := by
  have below := (le_total isNumber isNumber').resolve_right (Bool.eq_false_iff.mp above)
  rw [lt, below, above]
  rfl

theorem lt_of_le_of_lt {middle : Number} (first : left.le middle = true)
    (second : middle.lt right = true)
    : left.lt right = true := by
  rw [lt, Bool.and_eq_true, Bool.not_eq_true'] at second ⊢
  refine ⟨le_trans first second.1, Bool.eq_false_iff.mpr (fun above => ?_)⟩
  exact Bool.eq_false_iff.mp second.2 (le_trans above first)

theorem le_min {bound : Number} (atLeast : bound.le left = true) (atLeast' : bound.le right = true)
    : bound.le (left.min right) = true := by
  cases order : left.le right with
  | true => rwa [min_of_le order]
  | false =>
      have below := lt_of_not_le (ne_nan_of_le atLeast').2 (ne_nan_of_le atLeast).2 order
      rwa [min_of_lt below]

theorem le_max_right (isNumber : left ≠ nan) (isNumber' : right ≠ nan)
    : right.le (left.max right) = true := by
  rw [max_of_ne_nan isNumber isNumber']
  split
  next => exact le_refl isNumber'
  next above => exact (le_total isNumber isNumber').resolve_left above

theorem min_le (isNumber : left ≠ nan) (isNumber' : right ≠ nan)
    : (left.min right).le left = true := by
  cases order : left.le right with
  | true =>
      rw [min_of_le order]
      exact le_refl isNumber
  | false =>
      have below := lt_of_not_le isNumber' isNumber order
      rw [min_of_lt below]
      rw [lt, Bool.and_eq_true] at below
      exact below.1

theorem not_lt_iff (isNumber : left ≠ nan) (isNumber' : right ≠ nan)
    : left.lt right = false ↔ right.le left = true := by
  constructor
  · intro above
    rcases le_total isNumber' isNumber with order | order
    · exact order
    · rw [lt, order, Bool.true_and, Bool.not_eq_false'] at above
      exact above
  · intro order
    rw [lt, order]
    exact Bool.and_false _

/-- The sign of an exact difference. -/
theorem zero_lt_sub (isNumber : left ≠ nan) (isNumber' : right ≠ nan)
    : lt 0 (left.add right.neg) = right.lt left := by
  cases left <;> cases right <;> first | contradiction | rfl | skip
  rw [Bool.eq_iff_iff]
  exact finite_lt_finite.trans ((iff_of_eq (by simp)).trans finite_lt_finite.symm)

theorem sub_lt_zero (isNumber : left ≠ nan) (isNumber' : right ≠ nan)
    : (left.add right.neg).lt 0 = left.lt right := by
  cases left <;> cases right <;> first | contradiction | rfl | skip
  rw [Bool.eq_iff_iff]
  exact finite_lt_finite.trans ((iff_of_eq (by simp)).trans finite_lt_finite.symm)

/-- An infinity stays itself when it is multiplied with a positive number. -/
theorem scaleInfinity_of_pos {infinity : Number} {factor : Rat} (positive : 0 < factor)
    : scaleInfinity infinity factor = infinity := by
  rw [scaleInfinity, if_neg positive.ne', if_neg (not_lt.mpr positive.le)]

theorem posInfinity_mul {factor : Rat} (positive : 0 < factor)
    : posInfinity.mul (finite factor) = posInfinity :=
  scaleInfinity_of_pos positive

/-- Multiplying with a positive finite number keeps the order. -/
theorem mul_le_mul_right {factor : Rat} (positive : 0 < factor) (order : left.le right = true)
    : (left.mul (finite factor)).le (right.mul (finite factor)) = true := by
  have infinite (infinity : Number) : scaleInfinity infinity factor = infinity :=
    scaleInfinity_of_pos positive
  cases left <;> cases right <;> simp only [mul, infinite] <;>
    first | contradiction | rfl | skip
  rw [finite_le_finite] at order ⊢
  exact mul_le_mul_of_nonneg_right order positive.le

/-- A number that the format has is its own rounding. -/
theorem rounded_of_round {value : Rat} (same : double.round value = value)
    (short : |value| < 2 ^ double.maxExponent)
    : (finite value).rounded = finite value := by
  rw [abs_lt] at short
  simp only [rounded, same]
  rw [if_neg (by linarith), if_neg (by linarith)]

/-- A few times a power of two is exact, or too large. -/
theorem rounded_scaled {factor exponent : Int} (whole : double.minPlace ≤ exponent)
    (short : |(factor : Rat)| < 2 ^ double.precision) (nonneg : 0 ≤ factor)
    : (finite (factor * 2 ^ exponent)).rounded
      = if (2 : Rat) ^ double.maxExponent ≤ factor * 2 ^ exponent then
          posInfinity
        else
          finite (factor * 2 ^ exponent) := by
  have scale : (0 : Rat) < 2 ^ exponent := zpow_pos (by norm_num) _
  have limit : (0 : Rat) < 2 ^ double.maxExponent := zpow_pos (by norm_num) _
  have positive : (0 : Rat) ≤ factor * 2 ^ exponent :=
    mul_nonneg (Int.cast_nonneg nonneg) scale.le
  simp only [rounded, FloatFormat.round_scaled whole short]
  split
  next => rfl
  next => exact if_neg (by linarith)

/-- Integers are exact below `2 ** 53`. -/
theorem rounded_ofInt {value : Int} (short : |(value : Rat)| < 2 ^ double.precision)
    : (ofInt value).rounded = ofInt value := by
  refine rounded_of_round (FloatFormat.round_intCast (by decide) short) (short.trans ?_)
  rw [← zpow_natCast]
  exact zpow_lt_zpow_right₀ one_lt_two (by decide)

@[simp] theorem rounded_zero : rounded 0 = 0 :=
  @rounded_ofInt 0 (by norm_num)

@[simp] theorem zero_times {factor : Rat} : times 0 (finite factor) = 0 := by
  change (finite (0 * factor)).rounded = 0
  rw [zero_mul]
  exact rounded_zero

/-- A number that is not `NaN` stays one when it is multiplied with a positive one. -/
theorem times_ne_nan_of_pos {factor : Rat} (positive : 0 < factor) (isNumber : left ≠ nan)
    : left.times (finite factor) ≠ nan := by
  have infinite (infinity : Number) : scaleInfinity infinity factor = infinity :=
    scaleInfinity_of_pos positive
  cases left with
  | nan => contradiction
  | finite value => exact rounded_ne_nan
  | _ =>
      simp only [times, mul, infinite]
      exact nofun

theorem mul_comm : left.mul right = right.mul left := by
  cases left <;> cases right <;> first | rfl | skip
  exact congrArg finite (Rat.mul_comm _ _)

/-- A share of a number that is not negative is at most the number. -/
theorem mul_le_self {share : Rat} (positive : 0 < share) (atMost : share ≤ 1)
    (nonneg : le 0 left = true)
    : (left.mul (finite share)).le left = true := by
  cases left with
  | nan => contradiction
  | negInfinity => contradiction
  | posInfinity => exact le_posInfinity (by rw [posInfinity_mul positive]; exact nofun)
  | finite value =>
      have nonneg : (0 : Rat) ≤ value := finite_le_finite.mp nonneg
      exact finite_le_finite.mpr (mul_le_of_le_one_right nonneg atMost)

/-- A multiple of a number that is not negative is at least the number. -/
theorem le_mul_self {multiple : Rat} (atLeast : 1 ≤ multiple) (nonneg : le 0 left = true)
    : left.le (left.mul (finite multiple)) = true := by
  cases left with
  | nan => contradiction
  | negInfinity => contradiction
  | posInfinity =>
      rw [posInfinity_mul (by linarith)]
      rfl
  | finite value =>
      have nonneg : (0 : Rat) ≤ value := finite_le_finite.mp nonneg
      exact finite_le_finite.mpr (le_mul_of_one_le_right nonneg atLeast)

/-- Multiplying with a positive finite number keeps the order. -/
theorem times_mono {factor : Rat} (positive : 0 < factor) (order : left.le right = true)
    : (left.times (finite factor)).le (right.times (finite factor)) = true :=
  rounded_mono (mul_le_mul_right positive order)

end Number

-----------------------------------------------------------------------------------------
-- Numbers that are their own rounding
-----------------------------------------------------------------------------------------

namespace Number

variable {number left right : Number}

/-- Rounding gives an infinity, or a number of the format that is not too large. -/
theorem rounded_cases (value : Rat)
    : ((finite value).rounded = posInfinity ∧ (2 : Rat) ^ double.maxExponent ≤ double.round value)
      ∨ ((finite value).rounded = negInfinity
          ∧ double.round value ≤ -(2 : Rat) ^ double.maxExponent)
      ∨ ((finite value).rounded = finite (double.round value)
          ∧ |double.round value| < (2 : Rat) ^ double.maxExponent) := by
  by_cases large : (2 : Rat) ^ double.maxExponent ≤ double.round value
  · exact .inl ⟨if_pos large, large⟩
  · by_cases small : double.round value ≤ -(2 : Rat) ^ double.maxExponent
    · exact .inr (.inl ⟨(if_neg large).trans (if_pos small), small⟩)
    · refine .inr (.inr ⟨(if_neg large).trans (if_neg small), ?_⟩)
      exact abs_lt.mpr ⟨not_le.mp small, not_le.mp large⟩

/-- What is rounded is its own rounding. -/
theorem rounded_rounded : number.rounded.rounded = number.rounded := by
  cases number with
  | finite value =>
      rcases rounded_cases value with ⟨infinite, _⟩ | ⟨infinite, _⟩ | ⟨same, short⟩
      · rw [infinite]
        rfl
      · rw [infinite]
        rfl
      · rw [same]
        exact rounded_of_round (FloatFormat.round_round (by decide)) short
  | _ => rfl

theorem round_of_rounded {value : Rat} (exact : (finite value).rounded = finite value)
    : double.round value = value := by
  rcases rounded_cases value with ⟨infinite, _⟩ | ⟨infinite, _⟩ | ⟨same, _⟩
  · exact nomatch infinite.symm.trans exact
  · exact nomatch infinite.symm.trans exact
  · exact finite.inj (same.symm.trans exact)

/-- Rounding a number down leaves it one that is its own rounding. -/
theorem rounded_floor (exact : number.rounded = number)
    : number.floor.rounded = number.floor := by
  cases number with
  | finite value =>
      have same := round_of_rounded exact
      rcases FloatFormat.floor_eq_or_short (by decide) same with whole | short
      · have itself : (finite value).floor = finite value := congrArg finite whole
        rw [itself, exact]
      · exact rounded_ofInt short
  | _ => rfl

/-- The opposite of a number that is its own rounding. -/
theorem rounded_neg (exact : number.rounded = number) : number.neg.rounded = number.neg := by
  cases number with
  | finite value =>
      rcases rounded_cases value with ⟨infinite, _⟩ | ⟨infinite, _⟩ | ⟨_, short⟩
      · exact nomatch infinite.symm.trans exact
      · exact nomatch infinite.symm.trans exact
      · have same := round_of_rounded exact
        rw [same] at short
        refine rounded_of_round ?_ (by rwa [abs_neg])
        rw [FloatFormat.round_neg, same]
  | _ => rfl

theorem ceil_eq : number.ceil = number.neg.floor.neg := by
  cases number with
  | finite value =>
      have mirrored : ((value.ceil : Int) : Rat) = -((-value).floor : Int) := by
        rw [Rat.ceil_eq_neg_floor_neg, Int.cast_neg]
      exact congrArg finite mirrored
  | _ => rfl

/-- Rounding a number up leaves it one that is its own rounding. -/
theorem rounded_ceil (exact : number.rounded = number) : number.ceil.rounded = number.ceil := by
  rw [ceil_eq]
  exact rounded_neg (rounded_floor (rounded_neg exact))

theorem max_choice : left.max right = nan ∨ left.max right = left ∨ left.max right = right := by
  unfold max
  split
  · exact .inl rfl
  · exact .inl rfl
  · split
    · exact .inr (.inr rfl)
    · exact .inr (.inl rfl)

theorem min_choice : left.min right = nan ∨ left.min right = left ∨ left.min right = right := by
  unfold min
  split
  · exact .inl rfl
  · exact .inl rfl
  · split
    · exact .inr (.inl rfl)
    · exact .inr (.inr rfl)

/-- A choice of two numbers that are their own rounding is one. -/
theorem rounded_choice (choice : number = nan ∨ number = left ∨ number = right)
    (exact : left.rounded = left) (exact' : right.rounded = right)
    : number.rounded = number := by
  rcases choice with rfl | rfl | rfl
  · rfl
  · exact exact
  · exact exact'

end Number

/-- A value of the language's `number`: one that is its own rounding. -/
structure Double where
  number : Number
  exact : number.rounded = number

namespace Double

/-- A decimal literal. -/
def literal (value : Rat) : Double := ⟨Number.literal value, Number.rounded_rounded⟩

variable (left right : Double)

def times : Double := ⟨left.number.times right.number, Number.rounded_rounded⟩

def floor : Double := ⟨left.number.floor, Number.rounded_floor left.exact⟩

def ceil : Double := ⟨left.number.ceil, Number.rounded_ceil left.exact⟩

def max : Double where
  number := left.number.max right.number
  exact := Number.rounded_choice Number.max_choice left.exact right.exact

def min : Double where
  number := left.number.min right.number
  exact := Number.rounded_choice Number.min_choice left.exact right.exact

variable {left right}

/-- A share of a number that is not negative is at most the number, also when it is rounded. -/
theorem times_le {share : Rat} (factor : right.number = .finite share) (positive : 0 < share)
    (atMost : share ≤ 1) (nonneg : Number.le 0 left.number = true)
    : (left.times right).number.le left.number = true := by
  have rounded := Number.rounded_mono (Number.mul_le_self positive atMost nonneg)
  rwa [left.exact, ← factor] at rounded

theorem zero_le_times {share : Rat} (factor : right.number = .finite share) (positive : 0 < share)
    (nonneg : Number.le 0 left.number = true)
    : Number.le 0 (left.times right).number = true := by
  have scaled := Number.times_mono positive nonneg
  rwa [Number.zero_times, ← factor] at scaled

/-- A multiple of a number that is not negative is at least the number, also when it is rounded. -/
theorem le_times {multiple : Rat} (factor : right.number = .finite multiple)
    (atLeast : 1 ≤ multiple) (nonneg : Number.le 0 left.number = true)
    : left.number.le (left.times right).number = true := by
  have rounded := Number.rounded_mono (Number.le_mul_self atLeast nonneg)
  rwa [left.exact, ← factor] at rounded

end Double

end QueueForge.Js
