import Mathlib.Algebra.Order.Group.Unbundled.Int
import Mathlib.Tactic.IntervalCases
import QueueForge.Js.Text
import QueueForge.Js.Values

/-! Dates as text: `toISOString` and the reading of its own format. -/

namespace QueueForge.Js

/-- Days from the epoch to a day of the Gregorian calendar, whose years begin in March here. A day
past the end of its month counts on into the next one.
-/
def daysFromCivil (year month day : Int) : Int :=
  let marchYear := if month ≤ 2 then year - 1 else year
  let era := marchYear / 400
  let yearOfEra := marchYear % 400
  let dayOfYear := (153 * ((month + 9) % 12) + 2) / 5 + day - 1
  let dayOfEra := yearOfEra * 365 + yearOfEra / 4 - yearOfEra / 100 + dayOfYear
  era * 146097 + dayOfEra - 719468

/-- Year, month and day of a day counted from the epoch. -/
def civilFromDays (days : Int) : Int × Int × Int :=
  let era := (days + 719468) / 146097
  let dayOfEra := (days + 719468) % 146097
  let yearOfEra := (dayOfEra - dayOfEra / 1460 + dayOfEra / 36524 - dayOfEra / 146096) / 365
  let dayOfYear := dayOfEra - (365 * yearOfEra + yearOfEra / 4 - yearOfEra / 100)
  let marchMonth := (5 * dayOfYear + 2) / 153
  let day := dayOfYear - (153 * marchMonth + 2) / 5 + 1
  let month := if marchMonth < 10 then marchMonth + 3 else marchMonth - 9
  let year := yearOfEra + era * 400
  (if month ≤ 2 then year + 1 else year, month, day)

/-- The last digits of a number, with zeros in front. -/
def padded : (width value : Nat) → List Char
  | 0, _ => []
  | width + 1, value => padded width (value / 10) ++ [(value % 10).digitChar]

/-- `date.toISOString()` of a valid date. A year that does not fit four digits has a sign and six.
-/
def toISOString (time : Int) : String :=
  let (year, month, day) := civilFromDays (time / 86400000)
  let millis := (time % 86400000).toNat
  let yearText :=
    if 0 ≤ year ∧ year ≤ 9999 then
      padded 4 year.toNat
    else
      (if year < 0 then '-' else '+') :: padded 6 year.natAbs
  String.ofList
    (yearText ++ '-' :: padded 2 month.toNat ++ '-' :: padded 2 day.toNat
      ++ 'T' :: padded 2 (millis / 3600000) ++ ':' :: padded 2 (millis / 60000 % 60)
      ++ ':' :: padded 2 (millis / 1000 % 60) ++ '.' :: padded 3 (millis % 1000) ++ ['Z'])

/-- The year of a moment. -/
def yearOf (time : Int) : Int :=
  (civilFromDays (time / 86400000)).1

/-- The moments a date can hold. -/
def IsMoment (time : Int) : Prop :=
  |time| ≤ 8640000000000000

/-- Years have at most six digits. -/
theorem yearOf_bounds {time : Int} (valid : IsMoment time) : |yearOf time| < 300000 := by
  have bounds := abs_le.mp valid
  rw [abs_lt]
  simp only [yearOf, civilFromDays]
  split <;> omega

theorem isDigit_digitChar {digit : Nat} (small : digit < 10)
    : isDigit digit.digitChar = true ∧ digit.digitChar.toNat - '0'.toNat = digit := by
  interval_cases digit <;> decide

/-- What is padded is of digits, by induction on the width. -/
theorem isDigit_of_mem_padded {width value : Nat} {char : Char} (mem : char ∈ padded width value)
    : isDigit char = true := by
  induction width generalizing value with
  | zero => exact nomatch mem
  | succ width ih =>
      rcases List.mem_append.mp mem with front | last
      · exact ih front
      · obtain rfl := List.mem_singleton.mp last
        exact (isDigit_digitChar (Nat.mod_lt _ (by decide))).1

/-- A number that fits is read from its padded digits, by induction on the width. -/
theorem readNumber_padded (width value : Nat) (fits : value < 10 ^ width)
    : readNumber 0 (padded width value) = value := by
  induction width generalizing value with
  | zero =>
      obtain rfl : value = 0 := by simpa using fits
      rfl
  | succ width ih =>
      have front := ih (value / 10) (by rw [pow_succ] at fits; omega)
      have last := (isDigit_digitChar (Nat.mod_lt value (by decide : 10 > 0))).2
      have whole
          : readNumber 0 (padded (width + 1) value)
            = 10 * readNumber 0 (padded width (value / 10))
              + ((value % 10).digitChar.toNat - '0'.toNat) := by
        rw [padded, readNumber, List.foldl_append]
        rfl
      rw [whole, front, last]
      omega

/-- The number before a mark is the leading one. -/
theorem leadingNumber_padded {width value : Nat} (wide : width ≠ 0) (fits : value < 10 ^ width)
    (rest : List Char)
    : leadingNumber (padded width value ++ '-' :: rest) = some value := by
  have digits
      : (padded width value ++ '-' :: rest).takeWhile isDigit = padded width value := by
    rw [List.takeWhile_append_of_pos (fun char mem => isDigit_of_mem_padded mem)]
    simp [isDigit]
  unfold leadingNumber
  rw [digits]
  split
  · next empty =>
    cases width with
    | zero => exact absurd rfl wide
    | succ width => simp [padded] at empty
  · rw [readNumber_padded width value fits]

/-- A number without a sign is read as it is. -/
theorem parseInt_of_digit {char : Char} {rest : List Char} (digit : isDigit char = true)
    : parseInt (String.ofList (char :: rest)) = (leadingNumber (char :: rest)).map Int.ofNat := by
  have visible : isWhiteSpace char = false := by
    simp only [isDigit, Char.isDigit, Bool.and_eq_true, decide_eq_true_eq] at digit
    have low : 48 ≤ char.toNat := UInt32.le_iff_toNat_le.mp digit.1
    have high : char.toNat ≤ 57 := UInt32.le_iff_toNat_le.mp digit.2
    simp [isWhiteSpace]
    omega
  have unsigned : char ≠ '-' ∧ char ≠ '+' := by
    constructor <;> rintro rfl <;> exact absurd digit (by decide)
  simp only [parseInt, String.toList_ofList, List.dropWhile_cons, visible, Bool.false_eq_true,
    if_false]
  split
  · next same => exact absurd (List.cons.inj same).1 unsigned.1
  · next same => exact absurd (List.cons.inj same).1 unsigned.2
  · rfl

/-- Padded digits before a mark are read as their number. -/
theorem parseInt_padded {width value : Nat} (fits : value < 10 ^ (width + 1)) (rest : List Char)
    : parseInt (String.ofList (padded (width + 1) value ++ '-' :: rest)) = some (value : Int) := by
  have number := leadingNumber_padded (Nat.succ_ne_zero width) fits rest
  cases digits : padded (width + 1) value with
  | nil => simp [padded] at digits
  | cons first others =>
      rw [digits, List.cons_append] at number
      rw [List.cons_append, parseInt_of_digit, number]
      · rfl
      · exact isDigit_of_mem_padded (digits ▸ List.mem_cons_self)

/-- What `parseInt` reads of a date as text is its year. -/
theorem parseInt_toISOString {time : Int} (valid : IsMoment time)
    : parseInt (toISOString time) = some (yearOf time) := by
  have bounds := abs_lt.mp (yearOf_bounds valid)
  unfold toISOString
  unfold yearOf at bounds ⊢
  generalize civilFromDays (time / 86400000) = civil at bounds ⊢
  obtain ⟨year, month, day⟩ := civil
  simp only [List.append_assoc, List.cons_append] at bounds ⊢
  split
  case isTrue inside =>
    have fits : year.toNat < 10 ^ 4 := by omega
    rw [parseInt_padded fits, Int.toNat_of_nonneg inside.1]
  case isFalse outside =>
    have fits : year.natAbs < 10 ^ 6 := by omega
    have number := leadingNumber_padded (by decide : 6 ≠ 0) fits
    have minus : isWhiteSpace '-' = false := by decide
    have plus : isWhiteSpace '+' = false := by decide
    split
    case isTrue negative =>
      have whole : -(year.natAbs : Int) = year := by omega
      simp only [parseInt, String.toList_ofList, List.cons_append, List.dropWhile_cons, minus,
        Bool.false_eq_true, if_false, number, Option.map_some, whole]
    case isFalse positive =>
      have whole : Int.ofNat year.natAbs = year := Int.natAbs_of_nonneg (by omega)
      simp only [parseInt, String.toList_ofList, List.cons_append, List.dropWhile_cons, plus,
        Bool.false_eq_true, if_false, number, Option.map_some, whole]

/-- The numbers of a date in the format of `toISOString`. -/
structure IsoFields where
  year : Nat
  month : Nat
  day : Nat
  hour : Nat
  minute : Nat
  second : Nat
  millisecond : Nat
deriving DecidableEq

/-- So many digits, as the continuation of a number, and the characters after them. -/
def readDigits : (count number : Nat) → List Char → Option (Nat × List Char)
  | 0, number, chars => some (number, chars)
  | count + 1, number, char :: rest =>
      if isDigit char then
        readDigits count (10 * number + (char.toNat - '0'.toNat)) rest
      else
        none
  | _ + 1, _, [] => none

/-- One character, and the characters after it. -/
def readChar (expected : Char) : List Char → Option (List Char)
  | char :: rest => if char = expected then some rest else none
  | [] => none

/-- `^\d{4}-\d{2}-\d{2}T\d{2}:\d{2}:\d{2}\.\d{3}Z$`. -/
def isoFields (text : String) : Option IsoFields := do
  let (year, rest) ← readDigits 4 0 text.toList
  let (month, rest) ← readDigits 2 0 (← readChar '-' rest)
  let (day, rest) ← readDigits 2 0 (← readChar '-' rest)
  let (hour, rest) ← readDigits 2 0 (← readChar 'T' rest)
  let (minute, rest) ← readDigits 2 0 (← readChar ':' rest)
  let (second, rest) ← readDigits 2 0 (← readChar ':' rest)
  let (millisecond, rest) ← readDigits 3 0 (← readChar '.' rest)
  if rest = ['Z'] then
    some ⟨year, month, day, hour, minute, second, millisecond⟩
  else
    none

namespace IsoFields

/-- Each number is in its range: days go up to 31 in every month, and a day may end at 24:00. -/
def inRange (fields : IsoFields) : Bool :=
  1 ≤ fields.month && fields.month ≤ 12 && 1 ≤ fields.day && fields.day ≤ 31
  && (fields.hour < 24 && fields.minute < 60 && fields.second < 60
    || fields.hour = 24 && fields.minute = 0 && fields.second = 0 && fields.millisecond = 0)

/-- `new Date(text)` for a text with these numbers. -/
def date (fields : IsoFields) : Date :=
  if fields.inRange then
    some (daysFromCivil fields.year fields.month fields.day * 86400000
      + fields.hour * 3600000 + fields.minute * 60000 + fields.second * 1000
      + fields.millisecond)
  else
    none

end IsoFields

example : toISOString 951782400000 = "2000-02-29T00:00:00.000Z" := by decide

example : (isoFields "2001-02-29T23:59:59.999Z").bind IsoFields.date = some 983491199999 := by decide

end QueueForge.Js
