import Mathlib.Algebra.Order.Ring.Rat
import Mathlib.Data.Rat.Floor
import QueueForge.Js.Decimal
import QueueForge.Js.Text

/-! Sortable identifiers: a time in Crockford's Base32 in front of random characters. The
characters of the alphabet are ordered as their digits are, so that a later time sorts after an
earlier one.
-/

namespace QueueForge.Shared

open QueueForge.Js

/-- Crockford's Base32 alphabet, which leaves out I, L, O and U. -/
def base32Encoding : String :=
  "0123456789ABCDEFGHJKMNPQRSTVWXYZ"

/-- `text.charAt(index)`, which is empty outside of the text. -/
def charAt (text : String) (index : Int) : String :=
  if 0 ≤ index then
    match text.toList[index.toNat]? with
    | some char => String.singleton char
    | none => ""
  else
    ""

/-- The loop of `encodeBase32`, which has some digits left to prefix. -/
def encodeFrom : Nat → Nat → String → String
  | 0, _, str => str
  | remaining + 1, temp, str =>
      encodeFrom remaining (temp / 32) (charAt base32Encoding (temp % 32 : Nat) ++ str)

/-- Encodes a number into its Crockford's Base32 string representation. -/
def encodeBase32 (time length : Nat) : String :=
  encodeFrom length time ""

/-- The loop of `encodeRandom`; the numbers are the draws of `Math.random()`. -/
def encodeRandom (random : Nat → Rat) : Nat → String
  | 0 => ""
  | length + 1 => encodeRandom random length ++ charAt base32Encoding (random length * 32).floor

/-- A ULID: ten characters of the time in milliseconds and sixteen random ones. -/
def generateULID (now : Nat) (random : Nat → Rat) : String :=
  encodeBase32 now 10 ++ encodeRandom random 16

/-- `text < other` for two strings: the order of their code units. -/
def sortsBefore (text other : String) : Prop :=
  List.Lex (· < ·) (codeUnits text) (codeUnits other)

/-- The character of a digit. -/
def base32Char (digit : Nat) : Char :=
  base32Encoding.toList.getD digit '0'

theorem charAt_base32Encoding {digit : Nat} (below : digit < 32)
    : charAt base32Encoding digit = String.singleton (base32Char digit) := by
  have within : digit < base32Encoding.toList.length := below
  simp [charAt, base32Char, within]

/-- The loop prefixes the digits of a fixed width, by induction on their number. -/
theorem toList_encodeFrom (remaining temp : Nat) (str : String)
    : (encodeFrom remaining temp str).toList
      = (fixedDigits 32 remaining temp).map base32Char ++ str.toList := by
  induction remaining generalizing temp str with
  | zero => rfl
  | succ remaining ih =>
      rw [encodeFrom, ih, charAt_base32Encoding (Nat.mod_lt temp (by decide)), fixedDigits]
      simp

theorem toList_encodeBase32 (time length : Nat)
    : (encodeBase32 time length).toList = (fixedDigits 32 length time).map base32Char := by
  rw [encodeBase32, toList_encodeFrom]
  simp

/-- The alphabet is in the order of the code points, and has no others than ASCII characters. -/
theorem base32Char_lt {digit larger : Nat} (less : digit < larger) (below : larger < 32)
    : (base32Char digit).toNat < (base32Char larger).toNat := by
  have ordered
      : ∀ larger : Fin 32, ∀ digit : Fin larger,
          (base32Char digit).toNat < (base32Char larger).toNat := by
    decide +kernel
  exact ordered ⟨larger, below⟩ ⟨digit, less⟩

/-- The length of a text is the number of its code units. -/
theorem length_codeUnits (text : String) : (codeUnits text).length = lengthOf text := by
  rw [codeUnits, List.length_flatMap, lengthOf]
  congr 1
  refine List.map_congr_left (fun char _ => ?_)
  split <;> rfl

theorem codeUnits_append (text rest : String)
    : codeUnits (text ++ rest) = codeUnits text ++ codeUnits rest := by
  simp only [codeUnits, String.toList_append, List.flatMap_append]

/-- A digit is one code unit. -/
theorem codeUnits_encodeBase32 (time length : Nat)
    : codeUnits (encodeBase32 time length)
      = (fixedDigits 32 length time).map (fun digit => (base32Char digit).toNat) := by
  have ascii : ∀ digit : Fin 32, (base32Char digit).toNat < 0x10000 := by decide +kernel
  rw [codeUnits, toList_encodeBase32, List.flatMap_map, ← List.flatMap_pure_eq_map]
  refine List.flatMap_congr (fun digit mem => ?_)
  have below : digit < 32 := lt_of_mem_fixedDigits (by decide) mem
  exact if_pos (ascii ⟨digit, below⟩)

/-- As many characters as asked for, whatever the number is. -/
theorem lengthOf_encodeBase32 (time length : Nat)
    : lengthOf (encodeBase32 time length) = length := by
  rw [← length_codeUnits, codeUnits_encodeBase32, List.length_map, length_fixedDigits]

/-- A smaller number sorts before a larger one that fits. -/
theorem encodeBase32_sortsBefore {time later length : Nat} (less : time < later)
    (fits : later < 32 ^ length)
    : sortsBefore (encodeBase32 time length) (encodeBase32 later length) := by
  rw [sortsBefore, codeUnits_encodeBase32, codeUnits_encodeBase32]
  refine lex_map (fixedDigits_lex (by decide) less fits) ?_
  intro digit _ larger mem smaller
  exact base32Char_lt smaller (lt_of_mem_fixedDigits (by decide) mem)

/-- Identifiers of a later millisecond sort later, whatever is drawn. -/
theorem generateULID_sortsBefore {now later : Nat} (less : now < later) (fits : later < 32 ^ 10)
    (random laterRandom : Nat → Rat)
    : sortsBefore (generateULID now random) (generateULID later laterRandom) := by
  have times := encodeBase32_sortsBefore less fits
  rw [sortsBefore] at times ⊢
  rw [generateULID, generateULID, codeUnits_append, codeUnits_append]
  refine lex_append_of_length times ?_
  rw [length_codeUnits, length_codeUnits, lengthOf_encodeBase32, lengthOf_encodeBase32]

/-- An encoded number has the length asked for and is in the order of the numbers, so that
identifiers are in the order of their milliseconds.
-/
theorem encodeBase32_sorted
    : (∀ time length, lengthOf (encodeBase32 time length) = length)
      ∧ (∀ time later length,
          time < later
          → later < 32 ^ length
          → sortsBefore (encodeBase32 time length) (encodeBase32 later length))
      ∧ ∀ now later random laterRandom,
          now < later
          → later < 32 ^ 10
          → sortsBefore (generateULID now random) (generateULID later laterRandom) := by
  refine ⟨lengthOf_encodeBase32, ?_, ?_⟩
  · exact fun _ _ _ less fits => encodeBase32_sortsBefore less fits
  · exact fun _ _ random laterRandom less fits =>
      generateULID_sortsBefore less fits random laterRandom

/-- The last digit runs over, and the digit before it tells: "0Z" is before "10". -/
theorem encodeBase32_sorted_carry : sortsBefore (encodeBase32 31 2) (encodeBase32 32 2) :=
  encodeBase32_sorted.2.1 31 32 2 (by decide) (by decide)

end QueueForge.Shared
