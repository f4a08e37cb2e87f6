import QueueForge.Js.DateTime

/-! A date that is written with a year of four digits is read back as the same moment. -/

namespace QueueForge.Js

-----------------------------------------------------------------------------------------
-- The calendar
-----------------------------------------------------------------------------------------

/-- The year of a day in an era of 400 years, both counted from its first day. -/
def yearOfEra (dayOfEra : Int) : Int :=
  (dayOfEra - dayOfEra / 1460 + dayOfEra / 36524 - dayOfEra / 146096) / 365

/-- The day in its year, which begins in March. -/
def dayOfYear (dayOfEra : Int) : Int :=
  dayOfEra - (365 * yearOfEra dayOfEra + yearOfEra dayOfEra / 4 - yearOfEra dayOfEra / 100)

theorem yearOfEra_bounds {dayOfEra : Int} (first : 0 ≤ dayOfEra) (last : dayOfEra < 146097)
    : 0 ≤ yearOfEra dayOfEra ∧ yearOfEra dayOfEra < 400 := by
  rw [yearOfEra]
  omega

/-- A year has at most 366 days. The four centuries of an era are told apart, and the last day of
the era is on its own.
-/
theorem dayOfYear_bounds {dayOfEra : Int} (first : 0 ≤ dayOfEra) (last : dayOfEra < 146097)
    : 0 ≤ dayOfYear dayOfEra ∧ dayOfYear dayOfEra ≤ 365 := by
  by_cases leap : dayOfEra = 146096
  · subst leap
    decide
  · generalize centuries : dayOfEra / 36524 = century
    generalize whole : yearOfEra dayOfEra = year
    have inEra : dayOfEra / 146096 = 0 := by omega
    have century_cases : century = 0 ∨ century = 1 ∨ century = 2 ∨ century = 3 := by omega
    rw [dayOfYear, whole]
    rw [yearOfEra, centuries, inEra] at whole
    have hundreds : year / 100 = century := by
      rcases century_cases with rfl | rfl | rfl | rfl <;> omega
    have leaps : dayOfEra / 1460 = year / 4 ∨ dayOfEra / 1460 = year / 4 + 1 := by
      rcases century_cases with rfl | rfl | rfl | rfl <;> omega
    rw [hundreds]
    rcases leaps with leaps | leaps
    · rcases century_cases with rfl | rfl | rfl | rfl <;> omega
    · rcases century_cases with rfl | rfl | rfl | rfl <;> omega

theorem civilFromDays_eq (days : Int)
    : civilFromDays days
      = let dayOfEra := (days + 719468) % 146097
        let marchMonth := (5 * dayOfYear dayOfEra + 2) / 153
        let month := if marchMonth < 10 then marchMonth + 3 else marchMonth - 9
        let year := yearOfEra dayOfEra + (days + 719468) / 146097 * 400
        (if month ≤ 2 then year + 1 else year, month,
          dayOfYear dayOfEra - (153 * marchMonth + 2) / 5 + 1) := rfl

/-- A month is one of twelve, and a day at most the 31st. -/
theorem civilFromDays_bounds (days : Int)
    : (1 ≤ (civilFromDays days).2.1 ∧ (civilFromDays days).2.1 ≤ 12)
      ∧ 1 ≤ (civilFromDays days).2.2 ∧ (civilFromDays days).2.2 ≤ 31 := by
  have ⟨first, last⟩ :=
    @dayOfYear_bounds ((days + 719468) % 146097) (Int.emod_nonneg _ (by decide))
      (Int.emod_lt_of_pos _ (by decide))
  rw [civilFromDays_eq]
  dsimp only
  generalize dayOfYear ((days + 719468) % 146097) = day at first last ⊢
  constructor
  · split <;> omega
  · omega

/-- A day is the one its year, month and day name. The year and the month are taken apart as they
were put together.
-/
theorem daysFromCivil_civilFromDays (days : Int)
    : daysFromCivil (civilFromDays days).1 (civilFromDays days).2.1 (civilFromDays days).2.2
      = days := by
  have inEra : 0 ≤ (days + 719468) % 146097 := Int.emod_nonneg _ (by decide)
  have short : (days + 719468) % 146097 < 146097 := Int.emod_lt_of_pos _ (by decide)
  have whole := Int.mul_ediv_add_emod (days + 719468) 146097
  have ⟨firstYear, lastYear⟩ := yearOfEra_bounds inEra short
  have ⟨firstDay, lastDay⟩ := dayOfYear_bounds inEra short
  have total
      : 365 * yearOfEra ((days + 719468) % 146097) + yearOfEra ((days + 719468) % 146097) / 4
          - yearOfEra ((days + 719468) % 146097) / 100 + dayOfYear ((days + 719468) % 146097)
        = (days + 719468) % 146097 := by
    rw [dayOfYear]
    omega
  rw [civilFromDays_eq]
  dsimp only [daysFromCivil]
  generalize yearOfEra ((days + 719468) % 146097) = year at *
  generalize dayOfYear ((days + 719468) % 146097) = day at *
  generalize (days + 719468) / 146097 = era at *
  generalize named : (5 * day + 2) / 153 = marchMonth
  have marchMonths : 0 ≤ marchMonth ∧ marchMonth < 12 := by omega
  have month
      : ((if marchMonth < 10 then marchMonth + 3 else marchMonth - 9) + 9) % 12 = marchMonth := by
    split <;> omega
  have marchYear
      : (if (if marchMonth < 10 then marchMonth + 3 else marchMonth - 9) ≤ 2 then
          (if (if marchMonth < 10 then marchMonth + 3 else marchMonth - 9) ≤ 2 then
            year + era * 400 + 1
          else
            year + era * 400) - 1
        else if (if marchMonth < 10 then marchMonth + 3 else marchMonth - 9) ≤ 2 then
          year + era * 400 + 1
        else
          year + era * 400)
        = year + era * 400 := by
    split <;> omega
  have eras : (year + era * 400) / 400 = era := by omega
  have years : (year + era * 400) % 400 = year := by omega
  rw [month, marchYear, eras, years]
  omega

-----------------------------------------------------------------------------------------
-- The text
-----------------------------------------------------------------------------------------

@[simp] theorem length_padded (width value : Nat) : (padded width value).length = width := by
  induction width generalizing value with
  | zero => rfl
  | succ width ih => rw [padded, List.length_append, ih, List.length_singleton]

/-- As many digits as there are make up the number. By induction on the digits. -/
theorem readDigits_digits {digits : List Char}
    (allDigits : ∀ char ∈ digits, isDigit char = true) (number : Nat) (rest : List Char)
    : readDigits digits.length number (digits ++ rest) = some (readNumber number digits, rest) := by
  induction digits generalizing number with
  | nil => rfl
  | cons char digits ih =>
      have digit : isDigit char = true := allDigits char List.mem_cons_self
      rw [List.length_cons, List.cons_append, readDigits, if_pos digit,
        ih (fun char mem => allDigits char (List.mem_cons_of_mem _ mem))]
      rfl

/-- A number that fits is read from its padded digits, and the rest of the text is left. -/
theorem readDigits_padded {width value : Nat} (fits : value < 10 ^ width) (rest : List Char)
    : readDigits width 0 (padded width value ++ rest) = some (value, rest) := by
  have digits :=
    readDigits_digits (fun char mem => @isDigit_of_mem_padded width value char mem) 0 rest
  rwa [length_padded, readNumber_padded width value fits] at digits

@[simp] theorem readChar_cons (char : Char) (rest : List Char)
    : readChar char (char :: rest) = some rest := by
  rw [readChar, if_pos rfl]

/-- A mark and a number are read, and the reading goes on after them. -/
theorem read_part {α : Type} {width value : Nat} (fits : value < 10 ^ width) (mark : Char)
    (rest : List Char) (next : Nat × List Char → Option α)
    : (do
        let chars ← readChar mark (mark :: (padded width value ++ rest))
        let part ← readDigits width 0 chars
        next part)
      = next (value, rest) := by
  rw [readChar_cons, Option.bind_eq_bind, Option.bind_some, readDigits_padded fits]
  rfl

/-- A text that is put together from seven numbers that fit is taken apart into them. -/
theorem isoFields_padded (fields : IsoFields)
    (year : fields.year < 10 ^ 4) (month : fields.month < 10 ^ 2) (day : fields.day < 10 ^ 2)
    (hour : fields.hour < 10 ^ 2) (minute : fields.minute < 10 ^ 2)
    (second : fields.second < 10 ^ 2) (millisecond : fields.millisecond < 10 ^ 3)
    : isoFields (String.ofList
        (padded 4 fields.year ++ '-' :: padded 2 fields.month ++ '-' :: padded 2 fields.day
          ++ 'T' :: padded 2 fields.hour ++ ':' :: padded 2 fields.minute
          ++ ':' :: padded 2 fields.second ++ '.' :: padded 3 fields.millisecond ++ ['Z']))
      = some fields := by
  simp only [List.append_assoc, List.cons_append]
  rw [isoFields, String.toList_ofList, readDigits_padded year]
  calc
    _ = _ := read_part month '-' _ _
    _ = _ := read_part day '-' _ _
    _ = _ := read_part hour 'T' _ _
    _ = _ := read_part minute ':' _ _
    _ = _ := read_part second ':' _ _
    _ = _ := read_part millisecond '.' _ _
    _ = some fields := if_pos rfl

/-- The numbers `toISOString` writes of a moment. -/
def fieldsOf (time : Int) : IsoFields where
  year := (civilFromDays (time / 86400000)).1.toNat
  month := (civilFromDays (time / 86400000)).2.1.toNat
  day := (civilFromDays (time / 86400000)).2.2.toNat
  hour := (time % 86400000).toNat / 3600000
  minute := (time % 86400000).toNat / 60000 % 60
  second := (time % 86400000).toNat / 1000 % 60
  millisecond := (time % 86400000).toNat % 1000

/-- A year has four digits. -/
def HasFourDigitYear (time : Int) : Prop :=
  0 ≤ yearOf time ∧ yearOf time ≤ 9999

instance (time : Int) : Decidable (HasFourDigitYear time) :=
  inferInstanceAs (Decidable (0 ≤ yearOf time ∧ yearOf time ≤ 9999))

theorem toISOString_eq {time : Int} (short : HasFourDigitYear time)
    : toISOString time
      = String.ofList
        (padded 4 (fieldsOf time).year ++ '-' :: padded 2 (fieldsOf time).month
          ++ '-' :: padded 2 (fieldsOf time).day ++ 'T' :: padded 2 (fieldsOf time).hour
          ++ ':' :: padded 2 (fieldsOf time).minute ++ ':' :: padded 2 (fieldsOf time).second
          ++ '.' :: padded 3 (fieldsOf time).millisecond ++ ['Z']) := by
  rw [HasFourDigitYear, yearOf] at short
  rw [toISOString]
  dsimp only
  rw [if_pos short]
  rfl

/-- Every number `toISOString` writes is in its range. -/
theorem inRange_fieldsOf (time : Int) : (fieldsOf time).inRange = true := by
  have ⟨⟨firstMonth, lastMonth⟩, firstDay, lastDay⟩ := civilFromDays_bounds (time / 86400000)
  have month : 1 ≤ (fieldsOf time).month ∧ (fieldsOf time).month ≤ 12 := by
    dsimp only [fieldsOf]
    omega
  have day : 1 ≤ (fieldsOf time).day ∧ (fieldsOf time).day ≤ 31 := by
    dsimp only [fieldsOf]
    omega
  have clock
      : (fieldsOf time).hour < 24 ∧ (fieldsOf time).minute < 60 ∧ (fieldsOf time).second < 60 := by
    dsimp only [fieldsOf]
    omega
  simp [IsoFields.inRange, month, day, clock]

theorem isoFields_toISOString {time : Int} (short : HasFourDigitYear time)
    : isoFields (toISOString time) = some (fieldsOf time) := by
  have ⟨⟨_, lastMonth⟩, _, lastDay⟩ := civilFromDays_bounds (time / 86400000)
  have lastYear : (civilFromDays (time / 86400000)).1 ≤ 9999 := short.2
  rw [toISOString_eq short]
  apply isoFields_padded <;> dsimp only [fieldsOf] <;> omega

/-- A moment is the one its numbers name. -/
theorem date_fieldsOf {time : Int} (notNegative : 0 ≤ yearOf time)
    : (fieldsOf time).date = some time := by
  have ⟨⟨firstMonth, _⟩, firstDay, _⟩ := civilFromDays_bounds (time / 86400000)
  have year : ((fieldsOf time).year : Int) = (civilFromDays (time / 86400000)).1 :=
    Int.toNat_of_nonneg notNegative
  have month : ((fieldsOf time).month : Int) = (civilFromDays (time / 86400000)).2.1 :=
    Int.toNat_of_nonneg (by omega)
  have day : ((fieldsOf time).day : Int) = (civilFromDays (time / 86400000)).2.2 :=
    Int.toNat_of_nonneg (by omega)
  have clock
      : ((fieldsOf time).hour * 3600000 + (fieldsOf time).minute * 60000
          + (fieldsOf time).second * 1000 + (fieldsOf time).millisecond : Int)
        = time % 86400000 := by
    dsimp only [fieldsOf]
    omega
  rw [IsoFields.date, if_pos (inRange_fieldsOf time), year, month, day,
    daysFromCivil_civilFromDays]
  congr 1
  omega

end QueueForge.Js
