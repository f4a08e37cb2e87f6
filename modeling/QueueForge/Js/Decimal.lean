import Mathlib.Algebra.Group.Nat.Defs
import Mathlib.Data.List.Lex
import Mathlib.Data.Nat.Basic
import QueueForge.Js.DateTime

/-! Numbers in digits: whole numbers as `String` spells them, which `parseInt` reads back, and
numbers as digits of a fixed width, the highest digit first. Below the power of the width such
digits are ordered as the numbers are, by the first digit that differs.
-/

namespace QueueForge.Js

-----------------------------------------------------------------------------------------
-- Whole numbers as they are spelled
-----------------------------------------------------------------------------------------

/-- A number is spelled in digits. -/
theorem isDigit_of_mem_repr {value : Nat} {char : Char} (mem : char ∈ value.repr.toList)
    : isDigit char = true := by
  rw [Nat.toList_repr] at mem
  exact Nat.isDigit_of_mem_toDigits (by decide) (by decide) mem

/-- Digits alone are read as the number they spell. -/
theorem leadingNumber_repr (value : Nat) : leadingNumber value.repr.toList = some value := by
  have digits : value.repr.toList.takeWhile isDigit = value.repr.toList := by
    exact List.takeWhile_eq_self_iff.mpr (fun char mem => isDigit_of_mem_repr mem)
  have read : readNumber 0 value.repr.toList = value := by
    rw [readNumber, ← Nat.ofDigitChars_eq_foldl, Nat.toList_repr, Nat.ofDigitChars_ten_toDigits]
  unfold leadingNumber
  rw [digits]
  split
  · next empty =>
    rw [Nat.toList_repr] at empty
    exact absurd empty Nat.toDigits_ne_nil
  · rw [read]

/-- A whole number is read from its text. -/
theorem parseInt_toString (value : Int) : parseInt (toString value) = some value := by
  rw [Int.toString_eq_repr]
  cases value with
  | ofNat value =>
      have spelled : (Int.ofNat value).repr = value.repr := rfl
      have read := leadingNumber_repr value
      rw [spelled]
      cases chars : value.repr.toList with
      | nil =>
          rw [Nat.toList_repr] at chars
          exact absurd chars Nat.toDigits_ne_nil
      | cons first rest =>
          have digit : isDigit first = true := isDigit_of_mem_repr (chars ▸ List.mem_cons_self)
          rw [chars] at read
          rw [← String.ofList_toList (s := value.repr), chars, parseInt_of_digit digit, read]
          rfl
  | negSucc value =>
      have spelled : (Int.negSucc value).repr.toList = '-' :: (value + 1).repr.toList := by
        have signed : (Int.negSucc value).repr = "-" ++ (value + 1).repr := rfl
        rw [signed, String.toList_append]
        rfl
      have sign : isWhiteSpace '-' = false := by decide
      rw [parseInt, spelled, List.dropWhile_cons, sign]
      exact congrArg (Option.map (fun number : Nat => -(number : Int)))
        (leadingNumber_repr (value + 1))

/-- Two whole numbers have two texts. -/
theorem toString_inj {value other : Int} (same : toString value = toString other)
    : value = other := by
  have read := parseInt_toString value
  rw [same, parseInt_toString] at read
  exact (Option.some.inj read).symm

/-- The text of a number is not empty. -/
theorem toString_ne_empty (value : Int) : toString value ≠ "" := by
  intro empty
  have read := parseInt_toString value
  rw [empty] at read
  exact nomatch read

/-- A whole number is spelled in digits, after a sign where it is negative. -/
theorem mem_toString {value : Int} {char : Char} (mem : char ∈ (toString value).toList)
    : isDigit char = true ∨ char = '-' := by
  rw [Int.toString_eq_repr] at mem
  cases value with
  | ofNat value => exact Or.inl (isDigit_of_mem_repr mem)
  | negSucc value =>
      have signed : (Int.negSucc value).repr = "-" ++ (value + 1).repr := rfl
      rw [signed, String.toList_append] at mem
      rcases List.mem_append.mp mem with sign | digit
      · exact Or.inr (List.mem_singleton.mp sign)
      · exact Or.inl (isDigit_of_mem_repr digit)

-----------------------------------------------------------------------------------------
-- Digits of a fixed width
-----------------------------------------------------------------------------------------

/-- The lowest digits of a number, as many as the width, the highest of them first. -/
def fixedDigits (base : Nat) : Nat → Nat → List Nat
  | 0, _ => []
  | width + 1, value => fixedDigits base width (value / base) ++ [value % base]

theorem length_fixedDigits (base width value : Nat)
    : (fixedDigits base width value).length = width := by
  induction width generalizing value with
  | zero => rfl
  | succ width ih => rw [fixedDigits, List.length_append, ih, List.length_singleton]

theorem lt_of_mem_fixedDigits {base width value digit : Nat} (positive : 0 < base)
    (mem : digit ∈ fixedDigits base width value)
    : digit < base := by
  induction width generalizing value with
  | zero => exact nomatch mem
  | succ width ih =>
      rcases List.mem_append.mp mem with higher | last
      · exact ih higher
      · rw [List.mem_singleton.mp last]
        exact Nat.mod_lt value positive

section
variable {α β : Type} {less : α → α → Prop} {front other back otherBack : List α}

/-- What differs early differs in the same way with anything appended. -/
theorem lex_append_of_length (differ : List.Lex less front other)
    (width : front.length = other.length)
    : List.Lex less (front ++ back) (other ++ otherBack) := by
  induction differ with
  | nil => exact nomatch width
  | rel smaller => exact .rel smaller
  | cons _ ih => exact .cons (ih (Nat.succ.inj width))

/-- Elements that are replaced in their order keep the order of the lists. -/
theorem lex_map {more : β → β → Prop} {change : α → β} (differ : List.Lex less front other)
    (kept : ∀ left ∈ front, ∀ right ∈ other, less left right → more (change left) (change right))
    : List.Lex more (front.map change) (other.map change) := by
  induction differ with
  | nil => exact .nil
  | rel smaller => exact .rel (kept _ List.mem_cons_self _ List.mem_cons_self smaller)
  | cons _ ih =>
      refine .cons (ih (fun left inFront right inOther => ?_))
      exact kept left (List.mem_cons_of_mem _ inFront) right (List.mem_cons_of_mem _ inOther)

end

/-- The digits of a smaller number come first, by induction on the width: either the higher digits
tell, or the last one does.
-/
theorem fixedDigits_lex {base width value larger : Nat} (positive : 0 < base)
    (less : value < larger) (fits : larger < base ^ width)
    : List.Lex (· < ·) (fixedDigits base width value) (fixedDigits base width larger) := by
  induction width generalizing value larger with
  | zero =>
      rw [Nat.pow_zero] at fits
      omega
  | succ width ih =>
      rw [fixedDigits, fixedDigits]
      have higher : value / base ≤ larger / base := Nat.div_le_div_right (Nat.le_of_lt less)
      rcases Nat.lt_or_eq_of_le higher with below | same
      · have within : larger / base < base ^ width := by
          rw [Nat.div_lt_iff_lt_mul positive, ← Nat.pow_succ]
          exact fits
        have width : (fixedDigits base width (value / base)).length
            = (fixedDigits base width (larger / base)).length := by
          rw [length_fixedDigits, length_fixedDigits]
        exact lex_append_of_length (ih below within) width
      · rw [same]
        refine .append_left _ (.rel ?_) _
        have split := Nat.div_add_mod value base
        have splitLarger := Nat.div_add_mod larger base
        rw [same] at split
        omega

end QueueForge.Js
