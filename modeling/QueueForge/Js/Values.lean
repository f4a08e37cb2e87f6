import Mathlib.Data.List.Infix
import Mathlib.Data.Rat.Defs

/-! The built-in values the program computes with: numbers, dates and dynamic values.
Arithmetic is exact on finite numbers; the special values follow the language.
-/

namespace QueueForge.Js

/-- A `number`: a finite value or one of the three special ones. -/
inductive Number where
  | nan
  | negInfinity
  | posInfinity
  | finite (value : Rat)
deriving DecidableEq, Repr

namespace Number

instance (n : Nat) : OfNat Number n := ⟨.finite n⟩

def ofInt (value : Int) : Number := .finite value

/-- `left <= right`; comparisons with `NaN` are false. -/
def le : Number → Number → Bool
  | nan, _ => false
  | _, nan => false
  | negInfinity, _ => true
  | _, posInfinity => true
  | finite left, finite right => decide (left ≤ right)
  | _, _ => false

/-- `left < right`; comparisons with `NaN` are false. -/
def lt (left right : Number) : Bool :=
  left.le right && !right.le left

def add : Number → Number → Number
  | nan, _ => nan
  | _, nan => nan
  | negInfinity, posInfinity => nan
  | posInfinity, negInfinity => nan
  | negInfinity, _ => negInfinity
  | _, negInfinity => negInfinity
  | posInfinity, _ => posInfinity
  | _, posInfinity => posInfinity
  | finite left, finite right => finite (left + right)

def neg : Number → Number
  | nan => nan
  | negInfinity => posInfinity
  | posInfinity => negInfinity
  | finite value => finite (-value)

/-- An infinity times a finite number: `NaN` at zero, else an infinity by sign. -/
def scaleInfinity (infinity : Number) (factor : Rat) : Number :=
  if factor = 0 then nan else if factor < 0 then infinity.neg else infinity

def mul : Number → Number → Number
  | nan, _ => nan
  | _, nan => nan
  | finite left, finite right => finite (left * right)
  | finite left, infinity => scaleInfinity infinity left
  | infinity, finite right => scaleInfinity infinity right
  | negInfinity, right => right.neg
  | posInfinity, right => right

/-- `Math.max(left, right)`. -/
def max (left right : Number) : Number :=
  match left, right with
  | nan, _ => nan
  | _, nan => nan
  | _, _ => if left.le right then right else left

/-- `Math.min(left, right)`. -/
def min (left right : Number) : Number :=
  match left, right with
  | nan, _ => nan
  | _, nan => nan
  | _, _ => if left.le right then left else right

/-- `Math.floor(value)`. -/
def floor : Number → Number
  | finite value => finite value.floor
  | special => special

/-- `Math.ceil(value)`. -/
def ceil : Number → Number
  | finite value => finite value.ceil
  | special => special

/-- `Math.pow(2, exponent)`. The language leaves fractional powers to the implementation,
which `fractional` stands for.
-/
def pow2 (fractional : Rat → Rat) : Number → Number
  | finite exponent =>
      if exponent.den = 1 then
        if 0 ≤ exponent.num then
          finite (2 ^ exponent.num.toNat)
        else
          finite (1 / 2 ^ (-exponent.num).toNat)
      else
        finite (fractional exponent)
  | negInfinity => 0
  | special => special

/-- A whole power that is not negative needs no approximation. -/
theorem pow2_ofInt (fractional : Rat → Rat) {exponent : Int} (nonneg : 0 ≤ exponent)
    : pow2 fractional (ofInt exponent) = finite (2 ^ exponent.toNat) := by
  simp [pow2, ofInt, nonneg]

attribute [local simp] le

/-- Comparing two integers as numbers compares the integers. -/
theorem ofInt_le_ofInt (left right : Int)
    : (ofInt left).le (ofInt right) = decide (left ≤ right) := by
  simp only [ofInt, le, Rat.intCast_le_intCast]

theorem ofInt_lt_ofInt (left right : Int)
    : (ofInt left).lt (ofInt right) = decide (left < right) := by
  simp only [lt, ofInt_le_ofInt]
  by_cases below : left < right
  · simp [below, Int.le_of_lt below]
  · simp [below, Int.not_lt.mp below]

/-- A number that is not at most an integer, and not `NaN`, is above it. -/
theorem ofInt_lt_of_not_le {number : Number} {value : Int} (isNumber : number ≠ nan)
    (above : number.le (ofInt value) = false)
    : (ofInt value).lt number = true := by
  cases number with
  | nan => exact absurd rfl isNumber
  | negInfinity => contradiction
  | posInfinity => rfl
  | finite bound =>
      simp only [ofInt, le, decide_eq_false_iff_not] at above
      have below : (value : Rat) ≤ bound := (Rat.le_total (a := bound)).resolve_left above
      simp [ofInt, lt, le, above, below]

/-- What is above an integer is above every smaller one. -/
theorem ofInt_lt_of_le {number : Number} {smaller larger : Int} (order : smaller ≤ larger)
    (below : (ofInt larger).lt number = true)
    : (ofInt smaller).lt number = true := by
  cases number with
  | nan => contradiction
  | negInfinity => contradiction
  | posInfinity => rfl
  | finite bound =>
      simp only [ofInt, lt, le, Bool.and_eq_true, decide_eq_true_eq, Bool.not_eq_true',
        decide_eq_false_iff_not] at below ⊢
      have order : (smaller : Rat) ≤ larger := Rat.intCast_le_intCast.mpr order
      exact ⟨Rat.le_trans order below.1, fun above => below.2 (Rat.le_trans above order)⟩

/-- What is at least an integer is at least every smaller one. -/
theorem ofInt_le_of_le {number : Number} {smaller larger : Int} (order : smaller ≤ larger)
    (atMost : (ofInt larger).le number = true)
    : (ofInt smaller).le number = true := by
  cases number with
  | nan => contradiction
  | negInfinity => contradiction
  | posInfinity => rfl
  | finite bound =>
      simp only [ofInt, le, decide_eq_true_eq] at atMost ⊢
      exact Rat.le_trans (Rat.intCast_le_intCast.mpr order) atMost

/-- What is less than one above a number is at most the number rounded up. -/
theorem ofInt_le_ceil {number : Number} {count : Int}
    (below : (ofInt (count - 1)).lt number = true)
    : (ofInt count).le number.ceil = true := by
  cases number with
  | nan => contradiction
  | negInfinity => contradiction
  | posInfinity => rfl
  | finite bound =>
      simp only [ofInt, lt, le, Bool.and_eq_true, decide_eq_true_eq, Bool.not_eq_true',
        decide_eq_false_iff_not] at below
      have under : count - 1 < bound.ceil := Rat.lt_ceil_iff.mpr (Rat.not_le.mp below.2)
      simp only [ofInt, ceil, le, decide_eq_true_eq]
      exact Rat.intCast_le_intCast.mpr (by omega)

/-- A number is falsy when it is zero or `NaN`. -/
def truthy : Number → Bool
  | nan => false
  | finite value => decide (value ≠ 0)
  | _ => true

end Number

/-- A `Date`: milliseconds since the epoch, or the invalid date. -/
abbrev Date : Type := Option Int

/-- `new Date(value)` for a number: truncation towards zero, invalid out of range. -/
def Date.ofNumber : Number → Date
  | .finite value =>
      let time := if value < 0 then -(-value).floor else value.floor
      if time.natAbs ≤ 8640000000000000 then some time else none
  | _ => none

/-- What the runtime supplies to a stretch of synchronous code: the time, a draw of
`Math.random()` and its approximation of fractional powers of two.
-/
structure Runtime where
  now : Int
  random : Rat
  fractional : Rat → Rat

/-- A value the program receives without a static type. An object is known by its keys.
-/
inductive Value where
  | undefined
  | null
  | bool (value : Bool)
  | number (value : Number)
  | string (value : String)
  | date (value : Date)
  | object (keys : List String)
deriving DecidableEq, Repr

def Value.truthy : Value → Bool
  | undefined => false
  | null => false
  | bool value => value
  | number value => value.truthy
  | string value => decide (value ≠ "")
  | date _ => true
  | object _ => true

/-- A non-empty string: truthy and of type `string`. -/
def Value.isText : Value → Bool
  | string value => decide (value ≠ "")
  | _ => false

/-- `text.includes(part)`. -/
def includes (text part : String) : Bool :=
  decide (part.toList <:+: text.toList)

/-- `text.toLowerCase()`. -/
def toLowerCase (text : String) : String :=
  String.ofList (text.toList.map Char.toLower)

/-- `text.toUpperCase()`. -/
def toUpperCase (text : String) : String :=
  String.ofList (text.toList.map Char.toUpper)

/-- `left || right` on two optional strings: the empty string is falsy. -/
def orString (left right : Option String) : Option String :=
  match left with
  | some "" => right
  | some text => some text
  | none => right

/-- A text that replaces an empty one is not empty. -/
theorem orString_getD_ne_empty (text : Option String) {fallback : String}
    (nonempty : fallback ≠ "")
    : (orString text none).getD fallback ≠ "" := by
  cases text with
  | none => exact nonempty
  | some text =>
      by_cases empty : text = ""
      · simpa [orString, empty] using nonempty
      · simp [orString, empty]

/-- A text that is not empty wins a disjunction. -/
theorem orString_of_ne_empty {text : String} (filled : text ≠ "") (right : Option String)
    : orString (some text) right = some text := by
  unfold orString
  split
  case h_1 empty => exact absurd (Option.some.inj empty) filled
  case h_2 other => exact other.symm
  case h_3 missing => exact nomatch missing

/-- `left || right` on two optional integers: zero is falsy. -/
def orInt (left right : Option Int) : Option Int :=
  match left with
  | some 0 => right
  | some value => some value
  | none => right

/-- A number other than zero wins a disjunction. -/
@[simp] theorem orInt_of_ne_zero {value : Int} (nonzero : value ≠ 0) (right : Option Int)
    : orInt (some value) right = some value := by
  unfold orInt
  split
  case h_1 zero => exact absurd (Option.some.inj zero) nonzero
  case h_2 other => exact other.symm
  case h_3 missing => exact nomatch missing

end QueueForge.Js
