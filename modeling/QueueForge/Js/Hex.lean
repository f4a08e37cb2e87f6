import Mathlib.Tactic.IntervalCases
import QueueForge.Js.Text

/-! Bytes as hexadecimal digits, as digests are written and buffers read. -/

namespace QueueForge.Js

/-- `digest.toString('hex')`. -/
def hexOf (bytes : List UInt8) : String :=
  String.ofList
    (bytes.flatMap (fun byte => [hexDigit (byte.toNat / 16), hexDigit (byte.toNat % 16)]))

/-- What a hexadecimal digit of either case stands for. -/
def hexValue? (char : Char) : Option Nat :=
  "0123456789abcdef".toList.idxOf? char.toLower

/-- Reading ends before the first pair that is not of digits. -/
def readHex : List Char → List UInt8
  | high :: low :: rest =>
      match hexValue? high, hexValue? low with
      | some upper, some lower => UInt8.ofNat (16 * upper + lower) :: readHex rest
      | _, _ => []
  | _ => []

/-- `Buffer.from(text, 'hex')`. -/
def bufferFromHex (text : String) : List UInt8 :=
  readHex text.toList

theorem hexValue?_hexDigit {digit : Nat} (small : digit < 16)
    : hexValue? (hexDigit digit) = some digit := by
  interval_cases digit <;> decide

/-- The digits of bytes are read back, by induction on the bytes. -/
theorem readHex_digits (bytes : List UInt8)
    : readHex
          (bytes.flatMap (fun byte => [hexDigit (byte.toNat / 16), hexDigit (byte.toNat % 16)]))
      = bytes := by
  induction bytes with
  | nil => rfl
  | cons byte rest ih =>
      have bound := byte.toNat_lt
      have high : hexValue? (hexDigit (byte.toNat / 16)) = some (byte.toNat / 16) :=
        hexValue?_hexDigit (by omega)
      have low : hexValue? (hexDigit (byte.toNat % 16)) = some (byte.toNat % 16) :=
        hexValue?_hexDigit (by omega)
      simp only [List.flatMap_cons, List.cons_append, List.nil_append, readHex, high, low, ih]
      rw [Nat.div_add_mod, UInt8.ofNat_toNat]

theorem bufferFromHex_hexOf (bytes : List UInt8) : bufferFromHex (hexOf bytes) = bytes := by
  rw [bufferFromHex, hexOf, String.toList_ofList, readHex_digits]

theorem hexOf_injective {left right : List UInt8} (same : hexOf left = hexOf right)
    : left = right := by
  rw [← bufferFromHex_hexOf left, same, bufferFromHex_hexOf]

theorem hexOf_ne_empty {bytes : List UInt8} (given : bytes ≠ []) : hexOf bytes ≠ "" := by
  intro empty
  exact given (hexOf_injective empty)

/-- What is written has only digits. -/
theorem exists_digit_of_mem {char : Char} {bytes : List UInt8}
    (mem : char ∈ (hexOf bytes).toList)
    : ∃ digit < 16, char = hexDigit digit := by
  rw [hexOf, String.toList_ofList, List.mem_flatMap] at mem
  obtain ⟨byte, _, digit⟩ := mem
  have bound := byte.toNat_lt
  rcases List.mem_pair.mp digit with high | low
  · exact ⟨_, by omega, high⟩
  · exact ⟨_, by omega, low⟩

theorem isSome_hexValue?_of_mem {char : Char} {bytes : List UInt8}
    (mem : char ∈ (hexOf bytes).toList)
    : (hexValue? char).isSome = true := by
  obtain ⟨digit, small, rfl⟩ := exists_digit_of_mem mem
  rw [hexValue?_hexDigit small]
  rfl

/-- Two digits for each byte. -/
theorem length_hexOf (bytes : List UInt8) : (hexOf bytes).toList.length = 2 * bytes.length := by
  rw [hexOf, String.toList_ofList, List.length_flatMap]
  simp [Nat.mul_comm]

theorem isHexDigit_hexDigit {digit : Nat} (small : digit < 16)
    : isHexDigit (hexDigit digit) = true := by
  interval_cases digit <;> decide

end QueueForge.Js
