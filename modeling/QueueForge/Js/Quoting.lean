import QueueForge.Js.Hex

/-! Codes whose words tell where they end. The code units of a character and the way
`JSON.stringify` writes one are such codes, so a text is known from its units and from its
quotation, whatever follows it.
-/

namespace QueueForge.Js

variable {α β : Type}

/-- No word of the code is empty, and none is the start of another. -/
structure SelfDelimiting (code : α → List β) : Prop where
  nonempty : ∀ letter, code letter ≠ []
  ends : ∀ {letter other : α} {rest otherRest : List β},
    code letter ++ rest = code other ++ otherRest → letter = other ∧ rest = otherRest

/-- Spelled letters are known, and so is what follows them where it starts no word. -/
theorem SelfDelimiting.flatMap_inj {code : α → List β} (delimiting : SelfDelimiting code)
    {letters others : List α} {rest otherRest : List β}
    (stops : ∀ letter tail, rest ≠ code letter ++ tail)
    (otherStops : ∀ letter tail, otherRest ≠ code letter ++ tail)
    (same : letters.flatMap code ++ rest = others.flatMap code ++ otherRest)
    : letters = others ∧ rest = otherRest := by
  induction letters generalizing others with
  | nil =>
      cases others with
      | nil => exact ⟨rfl, same⟩
      | cons other others =>
          rw [List.flatMap_cons, List.append_assoc] at same
          exact absurd same (stops other _)
  | cons letter letters ih =>
      cases others with
      | nil =>
          rw [List.flatMap_cons, List.append_assoc] at same
          exact absurd same.symm (otherStops letter _)
      | cons other others =>
          rw [List.flatMap_cons, List.flatMap_cons, List.append_assoc, List.append_assoc] at same
          obtain ⟨rfl, further⟩ := delimiting.ends same
          obtain ⟨rfl, rests⟩ := ih further
          exact ⟨rfl, rests⟩

/-- The code units of one character. -/
def unitsOf (char : Char) : List Nat :=
  if char.toNat < 0x10000 then
    [char.toNat]
  else
    [0xd800 + (char.toNat - 0x10000) / 0x400, 0xdc00 + (char.toNat - 0x10000) % 0x400]

theorem codeUnits_eq (text : String) : codeUnits text = text.toList.flatMap unitsOf :=
  rfl

/-- A character is no surrogate itself, so that its first unit tells how many there are. -/
theorem unitsOf_selfDelimiting : SelfDelimiting unitsOf where
  nonempty := by
    intro char
    unfold unitsOf
    split <;> exact List.cons_ne_nil _ _
  ends := by
    intro char other rest otherRest same
    have valid : char.toNat.isValidChar := char.valid
    have otherValid : other.toNat.isValidChar := other.valid
    simp only [Nat.isValidChar] at valid otherValid
    suffices toNats : char.toNat = other.toNat ∧ rest = otherRest by
      exact ⟨Char.toNat_inj.mp toNats.1, toNats.2⟩
    unfold unitsOf at same
    split at same <;> split at same <;>
      simp only [List.cons_append, List.nil_append, List.cons.injEq] at same
    · exact same
    · omega
    · omega
    · refine ⟨by omega, same.2.2⟩

/-- The language orders texts, and does not take two for one. -/
theorem codeUnits_inj {text other : String} (same : codeUnits text = codeUnits other)
    : text = other := by
  have never (char : Char) (tail : List Nat) : [] ≠ unitsOf char ++ tail := by
    intro empty
    exact unitsOf_selfDelimiting.nonempty char (List.append_eq_nil_iff.mp empty.symm).1
  rw [codeUnits_eq, codeUnits_eq, ← List.append_nil (text.toList.flatMap unitsOf),
    ← List.append_nil (other.toList.flatMap unitsOf)] at same
  exact String.toList_inj.mp (unitsOf_selfDelimiting.flatMap_inj never never same).1

/-- The character a quotation starts with, and what follows it. -/
def unquoteChar : List Char → Option (Char × List Char)
  | '\\' :: 'u' :: '0' :: '0' :: high :: low :: rest =>
      some (Char.ofNat (16 * (hexValue? high).getD 0 + (hexValue? low).getD 0), rest)
  | '\\' :: 'b' :: rest => some (Char.ofNat 0x08, rest)
  | '\\' :: 'f' :: rest => some (Char.ofNat 0x0c, rest)
  | '\\' :: 'n' :: rest => some (Char.ofNat 0x0a, rest)
  | '\\' :: 'r' :: rest => some (Char.ofNat 0x0d, rest)
  | '\\' :: 't' :: rest => some (Char.ofNat 0x09, rest)
  | '\\' :: char :: rest => some (char, rest)
  | char :: rest => some (char, rest)
  | [] => none

theorem quoteChar_of_visible {char : Char} (visible : 0x20 ≤ char.toNat) (quotation : char ≠ '"')
    (backslash : char ≠ '\\')
    : quoteChar char = [char] := by
  have notQuotation : char.toNat ≠ 0x22 := fun same => quotation (Char.toNat_inj.mp same)
  have notBackslash : char.toNat ≠ 0x5c := fun same => backslash (Char.toNat_inj.mp same)
  unfold quoteChar
  split <;> first | omega | skip
  exact if_neg (by omega)

theorem unquoteChar_quoteChar (char : Char) (rest : List Char)
    : unquoteChar (quoteChar char ++ rest) = some (char, rest) := by
  by_cases visible : 0x20 ≤ char.toNat
  · by_cases quotation : char = '"'
    · rw [quotation]
      rfl
    · by_cases backslash : char = '\\'
      · rw [backslash]
        rfl
      · rw [quoteChar_of_visible visible quotation backslash, List.singleton_append]
        unfold unquoteChar
        split <;> simp_all
  · rw [← Char.ofNat_toNat char]
    have control : char.toNat < 0x20 := by omega
    generalize char.toNat = code at control ⊢
    interval_cases code <;> rfl

theorem quoteChar_selfDelimiting : SelfDelimiting quoteChar where
  nonempty := by
    intro char empty
    have read := unquoteChar_quoteChar char []
    rw [empty] at read
    exact nomatch read
  ends := by
    intro char other rest otherRest same
    have read := unquoteChar_quoteChar char rest
    rw [same, unquoteChar_quoteChar other otherRest, Option.some.injEq, Prod.mk.injEq] at read
    exact ⟨read.1.symm, read.2.symm⟩

/-- Within a string a quotation mark is never the start of a character. -/
theorem quotation_stops (rest : List Char) (char : Char) (tail : List Char)
    : '"' :: rest ≠ quoteChar char ++ tail := by
  intro same
  have read := unquoteChar_quoteChar char tail
  rw [← same] at read
  obtain ⟨rfl, _⟩ := Prod.mk.inj (Option.some.inj read)
  exact nomatch (List.cons.inj same).1

theorem quote_toList (text : String)
    : (quote text).toList = '"' :: text.toList.flatMap quoteChar ++ ['"'] :=
  String.toList_ofList

/-- A quoted text is known, and so is what follows it. -/
theorem quote_append_inj {text other : String} {rest otherRest : List Char}
    (same : (quote text).toList ++ rest = (quote other).toList ++ otherRest)
    : text = other ∧ rest = otherRest := by
  rw [quote_toList, quote_toList, List.cons_append, List.cons_append, List.cons_append,
    List.cons_append, List.append_assoc, List.append_assoc, List.singleton_append,
    List.singleton_append] at same
  have stops := quotation_stops
  obtain ⟨texts, rests⟩ :=
    quoteChar_selfDelimiting.flatMap_inj (stops rest) (stops otherRest) (List.cons.inj same).2
  exact ⟨String.toList_inj.mp texts, (List.cons.inj rests).2⟩

end QueueForge.Js
