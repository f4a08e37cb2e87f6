import Mathlib.Algebra.GroupWithZero.Nat
import Mathlib.Data.List.Basic
import Mathlib.Data.List.TakeWhile

/-! Operations of the language on strings, and the character classes of its patterns.
A string is a list of code points here; where the language counts code units, so do we.
-/

namespace QueueForge.Js

/-- A character `trim` removes: white space and line terminators. -/
def isWhiteSpace (char : Char) : Bool :=
  [
    0x09, 0x0a, 0x0b, 0x0c, 0x0d, 0x20, 0xa0, 0x1680, 0x2000, 0x2001, 0x2002, 0x2003,
    0x2004, 0x2005, 0x2006, 0x2007, 0x2008, 0x2009, 0x200a, 0x2028, 0x2029, 0x202f,
    0x205f, 0x3000, 0xfeff
  ].contains char.toNat

/-- `text.trim()`. -/
def trim (text : String) : String :=
  let fromStart := text.toList.dropWhile isWhiteSpace
  String.ofList (fromStart.reverse.dropWhile isWhiteSpace).reverse

/-- A list whose first element is not dropped is kept. -/
theorem dropWhile_of_head {α : Type} {drops : α → Bool} {list : List α}
    (first : ∀ char, list.head? = some char → drops char = false)
    : list.dropWhile drops = list := by
  cases list with
  | nil => rfl
  | cons char rest => simp [first char rfl]

/-- A text without white space at its ends is its own trimming. -/
theorem trim_of_ends {text : String}
    (first : ∀ char, text.toList.head? = some char → isWhiteSpace char = false)
    (last : ∀ char, text.toList.getLast? = some char → isWhiteSpace char = false)
    : trim text = text := by
  have back : ∀ char, text.toList.reverse.head? = some char → isWhiteSpace char = false := by
    simpa only [List.head?_reverse] using last
  simp only [trim, dropWhile_of_head first, dropWhile_of_head back, List.reverse_reverse,
    String.ofList_toList]

/-- Trimming leaves a stretch of the text. -/
theorem trim_isInfix (text : String) : (trim text).toList <:+: text.toList := by
  have front := (text.toList.dropWhile_suffix isWhiteSpace).isInfix
  have back := List.dropWhile_suffix (l := (text.toList.dropWhile isWhiteSpace).reverse) isWhiteSpace
  rw [trim, String.toList_ofList]
  refine List.IsInfix.trans ?_ front
  simpa only [List.reverse_reverse] using (List.reverse_prefix.mpr back).isInfix

/-- What trimming removes is white space. -/
theorem mem_trim {text : String} {char : Char} (listed : char ∈ text.toList)
    (visible : isWhiteSpace char = false)
    : char ∈ (trim text).toList := by
  have kept {chars : List Char} (listed : char ∈ chars) : char ∈ chars.dropWhile isWhiteSpace := by
    rw [← List.takeWhile_append_dropWhile (p := isWhiteSpace) (l := chars), List.mem_append]
      at listed
    rcases listed with dropped | kept
    · exact nomatch visible.symm.trans (List.mem_takeWhile_imp dropped)
    · exact kept
  rw [trim, String.toList_ofList, List.mem_reverse]
  exact kept (List.mem_reverse.mpr (kept listed))

/-- `text.length`, which counts a code point beyond the basic plane twice. -/
def lengthOf (text : String) : Nat :=
  (text.toList.map (fun char => if char.toNat < 0x10000 then 1 else 2)).sum

/-- The code units of a text, by which the language orders texts. -/
def codeUnits (text : String) : List Nat :=
  text.toList.flatMap
    (fun char =>
      if char.toNat < 0x10000 then
        [char.toNat]
      else
        [0xd800 + (char.toNat - 0x10000) / 0x400, 0xdc00 + (char.toNat - 0x10000) % 0x400])

/-- `text.split(separator)` for a separator of one character. -/
def splitAt (separator : Char) (text : String) : List String :=
  (text.toList.splitOn separator).map String.ofList

/-- No part of a split list has the separator, by induction on the list. -/
theorem not_mem_of_mem_splitOn {α : Type} [BEq α] [LawfulBEq α] {separator : α}
    {list part : List α} (mem : part ∈ list.splitOn separator)
    : separator ∉ part := by
  induction list generalizing part with
  | nil =>
      obtain rfl := List.mem_singleton.mp mem
      exact List.not_mem_nil
  | cons first rest ih =>
      rw [List.splitOn_cons_eq_if_modifyHead] at mem
      split at mem
      · rcases List.mem_cons.mp mem with rfl | later
        · exact List.not_mem_nil
        · exact ih later
      · next other =>
        cases parts : rest.splitOn separator with
        | nil => exact absurd parts (List.splitOn_ne_nil separator rest)
        | cons head tail =>
            rw [parts] at mem ih
            rcases List.mem_cons.mp mem with rfl | later
            · refine List.not_mem_cons_of_ne_of_not_mem ?_ (ih (List.mem_cons_self ..))
              rintro rfl
              exact other (beq_self_eq_true _)
            · exact ih (List.mem_cons_of_mem _ later)

/-- What is no separator is in a part of the split list, by induction on the list. -/
theorem exists_part_of_mem (separator : Char) {char : Char} (other : char ≠ separator)
    {chars : List Char}
    (listed : char ∈ chars)
    : ∃ part ∈ chars.splitOn separator, char ∈ part := by
  induction chars with
  | nil => exact nomatch listed
  | cons first rest ih =>
      rw [List.splitOn_cons_eq_if_modifyHead]
      split
      · next same =>
        rcases List.mem_cons.mp listed with rfl | later
        · exact absurd (beq_iff_eq.mp same) other
        · obtain ⟨part, found, inside⟩ := ih later
          exact ⟨part, List.mem_cons_of_mem _ found, inside⟩
      · cases parts : rest.splitOn separator with
        | nil => exact absurd parts (List.splitOn_ne_nil separator rest)
        | cons head tail =>
            rw [parts] at ih
            rcases List.mem_cons.mp listed with rfl | later
            · exact ⟨char :: head, List.mem_cons_self, List.mem_cons_self⟩
            · obtain ⟨part, found, inside⟩ := ih later
              rcases List.mem_cons.mp found with rfl | further
              · exact ⟨first :: part, List.mem_cons_self, List.mem_cons_of_mem _ inside⟩
              · exact ⟨part, List.mem_cons_of_mem _ further, inside⟩

/-- What is joined is there, by induction on the parts. -/
theorem isInfix_intercalate {α : Type} {separator part : List α} {parts : List (List α)}
    (mem : part ∈ parts)
    : part <:+: separator.intercalate parts := by
  induction parts with
  | nil => exact nomatch mem
  | cons head tail ih =>
      cases tail with
      | nil =>
          refine ⟨[], [], ?_⟩
          simpa [List.intercalate_singleton] using List.mem_singleton.mp mem
      | cons next rest =>
          rw [List.intercalate_cons_cons]
          rcases List.mem_cons.mp mem with rfl | later
          · rw [List.append_assoc]
            exact (List.prefix_append part _).isInfix
          · exact (ih later).trans (List.suffix_append (head ++ separator) _).isInfix

/-- Any part of a split list is a stretch of it. -/
theorem isInfix_of_mem_splitAt {separator : Char} {text part : String}
    (mem : part ∈ splitAt separator text)
    : part.toList <:+: text.toList := by
  obtain ⟨chars, inner, rfl⟩ := List.mem_map.mp mem
  have joined : [separator].intercalate (text.toList.splitOn separator) = text.toList :=
    List.intercalate_splitOn separator
  rw [String.toList_ofList, ← joined]
  exact isInfix_intercalate inner

theorem splitAt_of_not_mem {separator : Char} {text : String} (absent : separator ∉ text.toList)
    : splitAt separator text = [text] := by
  rw [splitAt, List.splitOn_eq_singleton absent, List.map_singleton, String.ofList_toList]

theorem splitAt_append_cons {separator : Char} {text : String} (rest : String)
    (absent : separator ∉ text.toList)
    : splitAt separator (text ++ (String.singleton separator ++ rest))
      = text :: splitAt separator rest := by
  have chars
      : (text ++ (String.singleton separator ++ rest)).toList
        = text.toList ++ separator :: rest.toList := by
    simp
  rw [splitAt, chars, List.splitOn_append_cons_self_of_not_mem absent, List.map_cons,
    String.ofList_toList, splitAt]

/-- Texts that are joined by a character the first ones do not have are told apart. -/
theorem joined_inj {separator : Char} {text other rest otherRest : String}
    (absent : separator ∉ text.toList) (absentOther : separator ∉ other.toList)
    : text ++ (String.singleton separator ++ rest)
        = other ++ (String.singleton separator ++ otherRest)
      ↔ text = other ∧ rest = otherRest := by
  constructor
  · intro same
    have parts := congrArg (splitAt separator) same
    rw [splitAt_append_cons rest absent, splitAt_append_cons otherRest absentOther] at parts
    obtain rfl := (List.cons.inj parts).1
    have chars := congrArg String.toList same
    rw [String.toList_append, String.toList_append, String.toList_append, String.toList_append]
      at chars
    have rests := List.append_cancel_left (List.append_cancel_left chars)
    exact ⟨rfl, String.toList_inj.mp rests⟩
  · rintro ⟨rfl, rfl⟩
    rfl

theorem not_mem_of_mem_splitAt {separator : Char} {text part : String}
    (mem : part ∈ splitAt separator text)
    : separator ∉ part.toList := by
  obtain ⟨chars, inner, rfl⟩ := List.mem_map.mp mem
  rw [String.toList_ofList]
  exact not_mem_of_mem_splitOn inner

/-- `\d`, or `[0-9]`. -/
def isDigit (char : Char) : Bool :=
  char.isDigit

/-- The number of decimal digits, as the continuation of another. -/
def readNumber (number : Nat) (digits : List Char) : Nat :=
  digits.foldl (fun number char => 10 * number + (char.toNat - '0'.toNat)) number

/-- The number that leads a list of characters. -/
def leadingNumber (chars : List Char) : Option Nat :=
  match chars.takeWhile isDigit with
  | [] => none
  | digits => some (readNumber 0 digits)

/-- `parseInt(text, 10)`; `none` stands for `NaN`. -/
def parseInt (text : String) : Option Int :=
  match text.toList.dropWhile isWhiteSpace with
  | '-' :: rest => (leadingNumber rest).map (fun number : Nat => -(number : Int))
  | '+' :: rest => (leadingNumber rest).map Int.ofNat
  | chars => (leadingNumber chars).map Int.ofNat

/-- `[a-zA-Z0-9]`. -/
def isAlphanumeric (char : Char) : Bool :=
  char.isAlphanum

/-- `[a-fA-F0-9]`. -/
def isHexDigit (char : Char) : Bool :=
  char.isDigit || "abcdefABCDEF".toList.contains char

/-- `^[class]+$`: one character or more, all of the class. -/
def isRunOf (inClass : Char → Bool) (chars : List Char) : Bool :=
  !chars.isEmpty && chars.all inClass

/-- The digits of a number below sixteen, in lower case. -/
def hexDigit (digit : Nat) : Char :=
  "0123456789abcdef".toList.getD digit '0'

/-- How `JSON.stringify` writes a character of a string. -/
def quoteChar (char : Char) : List Char :=
  match char.toNat with
  | 0x22 => ['\\', '"']
  | 0x5c => ['\\', '\\']
  | 0x08 => ['\\', 'b']
  | 0x0c => ['\\', 'f']
  | 0x0a => ['\\', 'n']
  | 0x0d => ['\\', 'r']
  | 0x09 => ['\\', 't']
  | code =>
      if code < 0x20 then
        ['\\', 'u', '0', '0', hexDigit (code / 16), hexDigit (code % 16)]
      else
        [char]

/-- `JSON.stringify(text)`. -/
def quote (text : String) : String :=
  String.ofList ('"' :: text.toList.flatMap quoteChar ++ ['"'])

/-- A letter or a digit is no white space. -/
theorem visible_of_isAlphanumeric {char : Char} (alphanumeric : isAlphanumeric char = true)
    : isWhiteSpace char = false := by
  have ranged {low high : UInt32} (least : low ≤ char.val) (most : char.val ≤ high)
      : low.toNat ≤ char.toNat ∧ char.toNat ≤ high.toNat :=
    ⟨UInt32.le_iff_toNat_le.mp least, UInt32.le_iff_toNat_le.mp most⟩
  rcases (Bool.or_eq_true _ _).mp alphanumeric with letter | digit
  · rcases (Bool.or_eq_true _ _).mp letter with upper | lower
    · obtain ⟨least, most⟩ := of_decide_eq_true upper
      have bounds := @ranged 65 90 least most
      simp [isWhiteSpace] at bounds ⊢
      omega
    · obtain ⟨least, most⟩ := (Bool.and_eq_true _ _).mp lower
      have bounds := @ranged 97 122 (of_decide_eq_true least) (of_decide_eq_true most)
      simp [isWhiteSpace] at bounds ⊢
      omega
  · obtain ⟨least, most⟩ := (Bool.and_eq_true _ _).mp digit
    have bounds := @ranged 48 57 (of_decide_eq_true least) (of_decide_eq_true most)
    simp [isWhiteSpace] at bounds ⊢
    omega

theorem visible_of_all {text : String} (plain : text.toList.all (fun char => !isWhiteSpace char))
    {char : Char} (mem : char ∈ text.toList)
    : isWhiteSpace char = false := by
  simpa using List.all_eq_true.mp plain char mem

/-- A text without white space is its own trimming. -/
theorem trim_of_visible {text : String}
    (visible : ∀ char ∈ text.toList, isWhiteSpace char = false)
    : trim text = text :=
  trim_of_ends (fun char first => visible char (List.mem_of_head? first))
    (fun char last => visible char (List.mem_of_getLast? last))

end QueueForge.Js
