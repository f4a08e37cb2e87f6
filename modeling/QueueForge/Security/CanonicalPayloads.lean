import Mathlib.Data.List.Perm.Basic
import QueueForge.Js.Decimal
import QueueForge.Js.JsonOrder
import QueueForge.Js.Quoting
import QueueForge.Security.HmacSigner

/-! What `deterministicStringify` writes says which value it was given, up to the order of the
keys. A text is read from its front: its first character tells the kind of the value, and what
may follow a value within another continues no number.
-/

namespace QueueForge.Security

open QueueForge.Js

/-- A character of a number's text. -/
def isNumeral (char : Char) : Bool :=
  char.isDigit || ['+', '-', '.', 'e'].contains char

/-- How the language spells numbers: in these characters, and no two numbers alike. -/
structure SpellsNumbers (numberText : Number → String) : Prop where
  injective : ∀ {value other : Rat},
    numberText (.finite value) = numberText (.finite other) → value = other
  nonempty : ∀ value : Rat, (numberText (.finite value)).toList ≠ []
  numerals : ∀ value : Rat, ∀ char ∈ (numberText (.finite value)).toList, isNumeral char = true

/-- What may follow a value: nothing, a comma or a closing bracket. -/
def Follows : List Char → Prop
  | [] => True
  | char :: _ => char ∈ [',', ']', '\x7d']

/-- A text that does not start as a bracket closes. -/
def Opened (text : String) : Prop :=
  ∃ char tail, text.toList = char :: tail ∧ char ∉ [']', '\x7d']

section Lists

variable {α : Type}

/-- Each element after the first, with the comma before it. -/
def continued (code : α → String) (elements : List α) : List Char :=
  elements.flatMap (fun element => ',' :: (code element).toList)

theorem intercalate_toList (code : α → String) (first : α) (rest : List α)
    : (",".intercalate ((first :: rest).map code)).toList
      = (code first).toList ++ continued code rest := by
  induction rest generalizing first with
  | nil => simp [continued]
  | cons next rest ih =>
      rw [List.map_cons, List.map_cons, String.intercalate_cons_cons, String.toList_append,
        String.toList_append, ← List.map_cons, ih next]
      simp [continued]

theorem continued_follows (code : α → String) (elements : List α) {closing : Char}
    (closes : closing ∈ [']', '\x7d']) (rest : List Char)
    : Follows (continued code elements ++ closing :: rest) := by
  cases elements with
  | nil => exact List.mem_cons_of_mem _ closes
  | cons element elements => exact List.mem_cons_self

/-- An element's text tells the element and where the text ends. -/
def Tells (code : α → String) (alike : α → α → Prop) (element other : α) : Prop :=
  ∀ rest otherRest, Follows rest → Follows otherRest →
    (code element).toList ++ rest = (code other).toList ++ otherRest
    → alike element other ∧ rest = otherRest

variable {code : α → String} {alike : α → α → Prop} {closing : Char}

/-- What follows the first element is told by its elements, by induction on them. -/
theorem continued_tells (closes : closing ∈ [']', '\x7d']) {elements others : List α}
    (tells : ∀ element ∈ elements, ∀ other ∈ others, Tells code alike element other)
    {rest otherRest : List Char}
    (same : continued code elements ++ closing :: rest
      = continued code others ++ closing :: otherRest)
    : List.Forall₂ alike elements others ∧ rest = otherRest := by
  have noComma : closing ≠ ',' := by
    rintro rfl
    contradiction
  induction elements generalizing others with
  | nil =>
      cases others with
      | nil => exact ⟨.nil, (List.cons.inj same).2⟩
      | cons other others => exact absurd (List.cons.inj same).1 noComma
  | cons element elements ih =>
      cases others with
      | nil => exact absurd (List.cons.inj same).1.symm noComma
      | cons other others =>
          have first := tells element List.mem_cons_self other List.mem_cons_self
          simp only [continued, List.flatMap_cons, List.cons_append, List.append_assoc,
            List.cons.injEq, true_and] at same
          obtain ⟨alikeFirst, later⟩ :=
            first _ _ (continued_follows code elements closes rest)
              (continued_follows code others closes otherRest) same
          obtain ⟨alikeRest, rests⟩ :=
            ih (fun element mem other otherMem =>
              tells element (List.mem_cons_of_mem _ mem) other (List.mem_cons_of_mem _ otherMem))
              later
          exact ⟨.cons alikeFirst alikeRest, rests⟩

/-- A list between brackets is told by its elements. -/
theorem joined_tells (closes : closing ∈ [']', '\x7d']) {elements others : List α}
    (tells : ∀ element ∈ elements, ∀ other ∈ others, Tells code alike element other)
    (opened : ∀ element ∈ elements, Opened (code element))
    (otherOpened : ∀ other ∈ others, Opened (code other))
    {rest otherRest : List Char}
    (same : (",".intercalate (elements.map code)).toList ++ closing :: rest
      = (",".intercalate (others.map code)).toList ++ closing :: otherRest)
    : List.Forall₂ alike elements others ∧ rest = otherRest := by
  cases elements with
  | nil =>
      cases others with
      | nil => exact ⟨.nil, (List.cons.inj same).2⟩
      | cons other others =>
          obtain ⟨char, tail, spelled, unclosed⟩ := otherOpened other List.mem_cons_self
          rw [intercalate_toList, spelled] at same
          exact absurd ((List.cons.inj same).1 ▸ closes) unclosed
  | cons element elements =>
      cases others with
      | nil =>
          obtain ⟨char, tail, spelled, unclosed⟩ := opened element List.mem_cons_self
          rw [intercalate_toList, spelled] at same
          exact absurd ((List.cons.inj same).1 ▸ closes) unclosed
      | cons other others =>
          rw [intercalate_toList, intercalate_toList, List.append_assoc, List.append_assoc] at same
          obtain ⟨alikeFirst, later⟩ :=
            tells element List.mem_cons_self other List.mem_cons_self _ _
              (continued_follows code elements closes rest)
              (continued_follows code others closes otherRest) same
          obtain ⟨alikeRest, rests⟩ :=
            continued_tells closes (fun element mem other otherMem =>
              tells element (List.mem_cons_of_mem _ mem) other (List.mem_cons_of_mem _ otherMem))
              later
          exact ⟨.cons alikeFirst alikeRest, rests⟩

end Lists

section Payloads

variable {numberText : Number → String}

/-- A member as it is written. -/
def propertyText (numberText : Number → String) (member : String × Json) : String :=
  quote member.1 ++ ":" ++ deterministicStringify numberText member.2

/-- The order in which members are written. -/
def keyBefore (left right : String × Json) : Prop :=
  codeUnits left.1 ≤ codeUnits right.1

instance : DecidableRel keyBefore :=
  fun left right => inferInstanceAs (Decidable (codeUnits left.1 ≤ codeUnits right.1))

theorem deterministicElements_eq (elements : List Json)
    : deterministicElements numberText elements
      = elements.map (deterministicStringify numberText) := by
  induction elements with
  | nil => rfl
  | cons element rest ih => rw [deterministicElements, List.map_cons, ih]

theorem deterministicMembers_eq (members : List (String × Json))
    : deterministicMembers numberText members
      = members.map (fun member => (member.1, propertyText numberText member)) := by
  induction members with
  | nil => rfl
  | cons member rest ih =>
      rw [deterministicMembers, List.map_cons, ih]
      rfl

theorem stringify_array (elements : List Json)
    : (deterministicStringify numberText (.array elements)).toList
      = '[' :: ((",".intercalate (elements.map (deterministicStringify numberText))).toList
        ++ [']']) := by
  simp [deterministicStringify, deterministicElements_eq]

theorem stringify_object (members : List (String × Json))
    : (deterministicStringify numberText (.object members)).toList
      = '\x7b'
        :: ((",".intercalate
          ((members.insertionSort keyBefore).map (propertyText numberText))).toList
            ++ ['\x7d']) := by
  have sorted
      : ((deterministicMembers numberText members).insertionSort sortedBefore).map Prod.snd
        = (members.insertionSort keyBefore).map (propertyText numberText) := by
    have entries :=
      List.map_insertionSort keyBefore sortedBefore
        (fun member => (member.1, propertyText numberText member)) members
        (fun _ _ _ _ => Iff.rfl)
    rw [deterministicMembers_eq, ← entries, List.map_map]
    rfl
  simp [deterministicStringify, sorted]

/-- The character a value's text starts with, where a numeral stands for all of them. -/
def opening : Json → Char
  | .null => 'n'
  | .bool true => 't'
  | .bool false => 'f'
  | .number _ => '0'
  | .string _ => '"'
  | .array _ => '['
  | .object _ => '\x7b'

def kindOf (char : Char) : Char :=
  if isNumeral char then '0' else char

theorem opening_unclosed (value : Json) : opening value ∉ [']', '\x7d'] := by
  cases value with
  | bool value => cases value <;> simp [opening]
  | _ => simp [opening]

theorem stringify_opening (spells : SpellsNumbers numberText) {value : Json}
    (wellFormed : value.WellFormed)
    : ∃ char tail, (deterministicStringify numberText value).toList = char :: tail
        ∧ kindOf char = opening value := by
  cases value with
  | null =>
      refine ⟨'n', ['u', 'l', 'l'], ?_, rfl⟩
      simp [deterministicStringify, Json.stringify]
  | bool value =>
      cases value with
      | false =>
          refine ⟨'f', ['a', 'l', 's', 'e'], ?_, rfl⟩
          simp [deterministicStringify, Json.stringify]
      | true =>
          refine ⟨'t', ['r', 'u', 'e'], ?_, rfl⟩
          simp [deterministicStringify, Json.stringify]
  | number value =>
      obtain ⟨value, rfl⟩ := wellFormed
      obtain ⟨char, tail, spelled⟩ := List.exists_cons_of_ne_nil (spells.nonempty value)
      have numeral := spells.numerals value char (spelled ▸ List.mem_cons_self)
      exact ⟨char, tail, spelled, if_pos numeral⟩
  | string value => exact ⟨'"', _, quote_toList value, rfl⟩
  | array elements => exact ⟨'[', _, stringify_array elements, rfl⟩
  | object members => exact ⟨'\x7b', _, stringify_object members, rfl⟩

theorem stringify_opened (spells : SpellsNumbers numberText) {value : Json}
    (wellFormed : value.WellFormed)
    : Opened (deterministicStringify numberText value) := by
  obtain ⟨char, tail, spelled, kind⟩ := stringify_opening spells wellFormed
  refine ⟨char, tail, spelled, ?_⟩
  intro closes
  have kept : kindOf char = char := by
    rcases List.mem_pair.mp closes with rfl | rfl <;> rfl
  rw [← kept, kind] at closes
  exact opening_unclosed value closes

theorem propertyText_toList (numberText : Number → String) (member : String × Json)
    : (propertyText numberText member).toList
      = (quote member.1).toList
        ++ ':' :: (deterministicStringify numberText member.2).toList := by
  rw [propertyText, String.toList_append, String.toList_append, List.append_assoc]
  rfl

theorem propertyText_opened (member : String × Json)
    : Opened (propertyText numberText member) := by
  have spelled := propertyText_toList numberText member
  rw [quote_toList, List.cons_append, List.cons_append] at spelled
  exact ⟨'"', _, spelled, by decide⟩

/-- Texts that start alike are those of values of one kind. -/
theorem opening_eq (spells : SpellsNumbers numberText) {value other : Json}
    (wellFormed : value.WellFormed) (otherWellFormed : other.WellFormed)
    {rest otherRest : List Char}
    (same : (deterministicStringify numberText value).toList ++ rest
      = (deterministicStringify numberText other).toList ++ otherRest)
    : opening value = opening other := by
  obtain ⟨char, tail, spelled, kind⟩ := stringify_opening spells wellFormed
  obtain ⟨otherChar, otherTail, otherSpelled, otherKind⟩ :=
    stringify_opening spells otherWellFormed
  rw [spelled, otherSpelled] at same
  rw [← kind, ← otherKind, (List.cons.inj same).1]

/-- What follows a number is no numeral, so the number's text is what comes before. -/
theorem takeWhile_numerals {numerals rest : List Char}
    (isNumber : ∀ char ∈ numerals, isNumeral char = true) (follows : Follows rest)
    : (numerals ++ rest).takeWhile isNumeral = numerals := by
  rw [List.takeWhile_append_of_pos isNumber]
  cases rest with
  | nil => rw [List.takeWhile_nil, List.append_nil]
  | cons char rest =>
      have ends : isNumeral char = false := by
        rcases List.mem_cons.mp follows with rfl | closes
        · rfl
        · rcases List.mem_pair.mp closes with rfl | rfl <;> rfl
      rw [List.takeWhile_cons, ends, if_neg Bool.false_ne_true, List.append_nil]

theorem tells_number (spells : SpellsNumbers numberText) (value other : Rat)
    : Tells (deterministicStringify numberText) Json.Alike (.number (.finite value))
        (.number (.finite other)) := by
  intro rest otherRest follows otherFollows same
  have texts := congrArg (List.takeWhile isNumeral) same
  change ((numberText _).toList ++ _).takeWhile _ = ((numberText _).toList ++ _).takeWhile _
    at texts
  rw [takeWhile_numerals (spells.numerals value) follows,
    takeWhile_numerals (spells.numerals other) otherFollows] at texts
  obtain rfl := spells.injective (String.toList_inj.mp texts)
  exact ⟨rfl, List.append_cancel_left same⟩

/-- The elements of two arrays are told one by one. -/
theorem tells_array (spells : SpellsNumbers numberText) {elements others : List Json}
    (wellFormed : (Json.array elements).WellFormed)
    (otherWellFormed : (Json.array others).WellFormed)
    (tells : ∀ element ∈ elements, element.WellFormed → ∀ other : Json, other.WellFormed →
      Tells (deterministicStringify numberText) Json.Alike element other)
    : Tells (deterministicStringify numberText) Json.Alike (.array elements) (.array others) := by
  intro rest otherRest _ _ same
  have wellFormed := Json.wellFormedElements_iff.mp wellFormed
  have otherWellFormed := Json.wellFormedElements_iff.mp otherWellFormed
  rw [stringify_array, stringify_array, List.cons_append, List.cons_append, List.append_assoc,
    List.append_assoc] at same
  obtain ⟨alike, rests⟩ :=
    joined_tells List.mem_cons_self
      (fun element mem other otherMem =>
        tells element mem (wellFormed element mem) other (otherWellFormed other otherMem))
      (fun element mem => stringify_opened spells (wellFormed element mem))
      (fun other mem => stringify_opened spells (otherWellFormed other mem))
      (List.cons.inj same).2
  exact ⟨Json.alikeElements_iff.mpr alike, rests⟩

/-- A member's text tells its key, and its value where the value's text does. -/
theorem tells_property {member other : String × Json}
    (tells : Tells (deterministicStringify numberText) Json.Alike member.2 other.2)
    : Tells (propertyText numberText) Json.AlikeMember member other := by
  intro rest otherRest follows otherFollows same
  rw [propertyText_toList, propertyText_toList, List.append_assoc, List.append_assoc] at same
  obtain ⟨keys, later⟩ := quote_append_inj same
  obtain ⟨values, rests⟩ := tells rest otherRest follows otherFollows (List.cons.inj later).2
  exact ⟨⟨keys, values⟩, rests⟩

/-- The members of two objects are told from how they are written in order. -/
theorem tells_object {members others : List (String × Json)}
    (wellFormed : (Json.object members).WellFormed)
    (otherWellFormed : (Json.object others).WellFormed)
    (tells : ∀ member ∈ members, member.2.WellFormed → ∀ other : Json, other.WellFormed →
      Tells (deterministicStringify numberText) Json.Alike member.2 other)
    : Tells (deterministicStringify numberText) Json.Alike (.object members)
        (.object others) := by
  intro rest otherRest _ _ same
  have wellFormed := Json.wellFormedMembers_iff.mp wellFormed.2
  have otherWellFormed := Json.wellFormedMembers_iff.mp otherWellFormed.2
  have sorted := List.perm_insertionSort keyBefore members
  have otherSorted := List.perm_insertionSort keyBefore others
  rw [stringify_object, stringify_object, List.cons_append, List.cons_append,
    List.append_assoc, List.append_assoc] at same
  obtain ⟨inOrder, rests⟩ :=
    joined_tells (List.mem_cons_of_mem _ List.mem_cons_self)
      (fun member mem other otherMem =>
        have listed := sorted.mem_iff.mp mem
        tells_property (tells member listed (wellFormed member listed) other.2
          (otherWellFormed other (otherSorted.mem_iff.mp otherMem))))
      (fun member _ => propertyText_opened member) (fun other _ => propertyText_opened other)
      (List.cons.inj same).2
  -- the members as they are listed, beside a reordering of the others
  obtain ⟨reordered, beside, perm⟩ := List.perm_comp_forall₂ sorted.symm inOrder
  exact ⟨⟨reordered, perm.trans otherSorted, Json.alikeMembers_iff.mpr beside⟩, rests⟩

/-- A value's text tells the value and where the text ends, by induction on its parts. -/
theorem tells_value (spells : SpellsNumbers numberText) (value : Json)
    : value.WellFormed → ∀ other : Json, other.WellFormed →
        Tells (deterministicStringify numberText) Json.Alike value other := by
  induction value using Json.byParts with
  | ofNull =>
      intro wellFormed other otherWellFormed rest otherRest _ _ same
      have kinds := opening_eq spells wellFormed otherWellFormed same
      cases other with
      | null => exact ⟨trivial, List.append_cancel_left same⟩
      | bool other => cases other <;> simp [opening] at kinds
      | _ => simp [opening] at kinds
  | ofBool value =>
      intro wellFormed other otherWellFormed rest otherRest _ _ same
      have kinds := opening_eq spells wellFormed otherWellFormed same
      cases other with
      | bool other =>
          obtain rfl : value = other := by
            cases value <;> cases other <;> first | rfl | simp [opening] at kinds
          exact ⟨rfl, List.append_cancel_left same⟩
      | _ => cases value <;> simp [opening] at kinds
  | ofNumber value =>
      intro wellFormed other otherWellFormed rest otherRest follows otherFollows same
      have kinds := opening_eq spells wellFormed otherWellFormed same
      cases other with
      | number other =>
          obtain ⟨value, rfl⟩ := wellFormed
          obtain ⟨other, rfl⟩ := otherWellFormed
          exact tells_number spells value other rest otherRest follows otherFollows same
      | bool other => cases other <;> simp [opening] at kinds
      | _ => simp [opening] at kinds
  | ofString value =>
      intro wellFormed other otherWellFormed rest otherRest _ _ same
      have kinds := opening_eq spells wellFormed otherWellFormed same
      cases other with
      | string other => exact quote_append_inj same
      | bool other => cases other <;> simp [opening] at kinds
      | _ => simp [opening] at kinds
  | ofArray elements ih =>
      intro wellFormed other otherWellFormed rest otherRest follows otherFollows same
      have kinds := opening_eq spells wellFormed otherWellFormed same
      cases other with
      | array others =>
          exact tells_array spells wellFormed otherWellFormed ih rest otherRest follows
            otherFollows same
      | bool other => cases other <;> simp [opening] at kinds
      | _ => simp [opening] at kinds
  | ofObject members ih =>
      intro wellFormed other otherWellFormed rest otherRest follows otherFollows same
      have kinds := opening_eq spells wellFormed otherWellFormed same
      cases other with
      | object others =>
          exact tells_object wellFormed otherWellFormed ih rest otherRest follows otherFollows
            same
      | bool other => cases other <;> simp [opening] at kinds
      | _ => simp [opening] at kinds

instance : Std.Total sortedBefore :=
  ⟨fun left right => le_total (codeUnits left.1) (codeUnits right.1)⟩

instance : IsTrans (String × String) sortedBefore :=
  ⟨fun first _ third before after =>
    show codeUnits first.1 ≤ codeUnits third.1 from le_trans before after⟩

/-- Members that are the same in some order are written in one order. -/
theorem insertionSort_eq {entries others : List (String × String)}
    (distinct : (entries.map Prod.fst).Nodup) (perm : entries.Perm others)
    : entries.insertionSort sortedBefore = others.insertionSort sortedBefore := by
  refine List.Perm.eq_of_pairwise ?_ (List.pairwise_insertionSort sortedBefore entries)
    (List.pairwise_insertionSort sortedBefore others)
    ((List.perm_insertionSort _ entries).trans
      (perm.trans (List.perm_insertionSort _ others).symm))
  intro entry other mem otherMem before after
  have keys : entry.1 = other.1 := codeUnits_inj (le_antisymm before after)
  exact List.inj_on_of_nodup_map distinct ((List.perm_insertionSort _ entries).mem_iff.mp mem)
    (perm.mem_iff.mpr ((List.perm_insertionSort _ others).mem_iff.mp otherMem)) keys

/-- Lists whose elements are written alike one by one, by induction on the first. -/
theorem map_eq_of_alike {α β : Type} {alike : α → α → Prop} {code : α → β}
    {elements others : List α}
    (beside : List.Forall₂ alike elements others)
    (same : ∀ element ∈ elements, ∀ other, alike element other → code element = code other)
    : elements.map code = others.map code := by
  induction beside with
  | nil => rfl
  | cons first _ ih =>
      rw [List.map_cons, List.map_cons, same _ List.mem_cons_self _ first,
        ih (fun element mem => same element (List.mem_cons_of_mem _ mem))]

/-- Alike values are written alike, by induction on their parts. -/
theorem stringify_alike (value : Json)
    : value.WellFormed → ∀ other : Json, value.Alike other →
        deterministicStringify numberText value = deterministicStringify numberText other := by
  induction value using Json.byParts with
  | ofArray elements ih =>
      intro wellFormed other alike
      cases other with
      | array others =>
          have wellFormed := Json.wellFormedElements_iff.mp wellFormed
          have texts :=
            map_eq_of_alike (Json.alikeElements_iff.mp alike)
              (fun element mem other => ih element mem (wellFormed element mem) other)
          rw [deterministicStringify, deterministicStringify, deterministicElements_eq,
            deterministicElements_eq, texts]
      | _ => simp [Json.Alike] at alike
  | ofObject members ih =>
      intro wellFormed other alike
      cases other with
      | object others =>
          obtain ⟨reordered, perm, beside⟩ := alike
          have each := Json.wellFormedMembers_iff.mp wellFormed.2
          have entries
              : deterministicMembers numberText members
                = deterministicMembers numberText reordered := by
            rw [deterministicMembers_eq, deterministicMembers_eq]
            refine map_eq_of_alike (Json.alikeMembers_iff.mp beside) ?_
            intro member mem other same
            rw [propertyText, propertyText, same.1, ih member mem (each member mem) other.2 same.2]
          have distinct : ((deterministicMembers numberText members).map Prod.fst).Nodup := by
            rw [deterministicMembers_eq, List.map_map]
            exact wellFormed.1
          have listed
              : (deterministicMembers numberText members).Perm
                  (deterministicMembers numberText others) := by
            rw [entries, deterministicMembers_eq, deterministicMembers_eq]
            exact perm.map _
          rw [deterministicStringify, deterministicStringify, insertionSort_eq distinct listed]
      | _ => simp [Json.Alike] at alike
  | _ =>
      intro _ other alike
      cases other <;> simp_all [Json.Alike]

/-- Two JSON values have one text exactly when they are equal up to the order of their keys. -/
theorem deterministicStringify_eq_iff (spells : SpellsNumbers numberText) {value other : Json}
    (wellFormed : value.WellFormed) (otherWellFormed : other.WellFormed)
    : deterministicStringify numberText value = deterministicStringify numberText other
      ↔ value.Alike other := by
  constructor
  · intro same
    have texts := congrArg (fun text => text.toList ++ []) same
    exact (tells_value spells value wellFormed other otherWellFormed [] [] trivial trivial texts).1
  · exact stringify_alike value wellFormed other

end Payloads

/-- Whole numbers as the language spells them, and no two numbers alike. -/
def wholeNumberText : Number → String
  | .finite value =>
      if value.den = 1 then
        toString value.num
      else
        toString value.num ++ (String.singleton 'e' ++ toString (value.den : Int))
  | _ => "null"

theorem spelled_not_exponent (value : Int) : 'e' ∉ (toString value).toList := by
  intro mem
  rcases mem_toString mem with digit | sign
  · contradiction
  · contradiction

/-- The parts a number is spelled in. -/
theorem splitAt_wholeNumberText (value : Rat)
    : splitAt 'e' (wholeNumberText (.finite value))
      = if value.den = 1 then [toString value.num]
        else [toString value.num, toString (value.den : Int)] := by
  unfold wholeNumberText
  dsimp only
  split
  · exact splitAt_of_not_mem (spelled_not_exponent _)
  · rw [splitAt_append_cons _ (spelled_not_exponent _),
      splitAt_of_not_mem (spelled_not_exponent _)]

theorem wholeNumberText_spells : SpellsNumbers wholeNumberText where
  injective := by
    intro value other same
    have parts := congrArg (splitAt 'e') same
    rw [splitAt_wholeNumberText, splitAt_wholeNumberText] at parts
    split at parts <;> split at parts <;> simp only [List.cons.injEq, reduceCtorEq] at parts
    · next whole otherWhole =>
      exact Rat.ext (toString_inj parts.1) (whole.trans otherWhole.symm)
    · simp at parts
    · simp at parts
    · exact Rat.ext (toString_inj parts.1) (Int.ofNat_inj.mp (toString_inj parts.2.1))
  nonempty := by
    intro value empty
    have parts := splitAt_wholeNumberText value
    rw [String.toList_eq_nil_iff.mp empty] at parts
    split at parts <;> have number := (List.cons.inj parts).1 <;>
      exact toString_ne_empty value.num number.symm
  numerals := by
    intro value char mem
    have spelled (value : Int) {char : Char} (mem : char ∈ (toString value).toList)
        : isNumeral char = true := by
      rcases mem_toString mem with digit | rfl
      · exact Bool.or_eq_true_iff.mpr (Or.inl digit)
      · decide
    unfold wholeNumberText at mem
    dsimp only at mem
    split at mem
    · exact spelled _ mem
    · rw [String.toList_append, String.toList_append] at mem
      rcases List.mem_append.mp mem with number | later
      · exact spelled _ number
      · rcases List.mem_append.mp later with exponent | number
        · rw [List.mem_singleton.mp exponent]
          decide
        · exact spelled _ number

/-- The keys are in no order of their own at any depth, and a number is not the text that
spells it.
-/
theorem deterministicStringify_reordered
    : deterministicStringify wholeNumberText
          (.object
            [("id", .number 1), ("tags", .array [.object [("b", .null), ("a", .bool true)]])])
        = deterministicStringify wholeNumberText
          (.object
            [("tags", .array [.object [("a", .bool true), ("b", .null)]]), ("id", .number 1)])
      ∧ deterministicStringify wholeNumberText (.object [("id", .number 1)])
        ≠ deterministicStringify wholeNumberText (.object [("id", .string "1")]) := by
  have one : (Json.number 1).WellFormed := ⟨1, rfl⟩
  have inside : (Json.object [("a", .bool true), ("b", .null)]).WellFormed := by
    simp [Json.WellFormed, Json.WellFormedMembers]
  have insideOut : (Json.object [("b", .null), ("a", .bool true)]).WellFormed := by
    simp [Json.WellFormed, Json.WellFormedMembers]
  constructor
  · refine (deterministicStringify_eq_iff wholeNumberText_spells ?_ ?_).mpr ?_
    · exact ⟨by decide, one, ⟨insideOut, trivial⟩, trivial⟩
    · exact ⟨by decide, ⟨inside, trivial⟩, one, trivial⟩
    · refine ⟨_, List.Perm.swap _ _ _, rfl, rfl, rfl, ⟨?_, trivial⟩, trivial⟩
      exact ⟨_, List.Perm.swap _ _ _, rfl, trivial, rfl, rfl, trivial⟩
  · intro same
    rw [deterministicStringify_eq_iff wholeNumberText_spells] at same
    · obtain ⟨_, perm, alike⟩ := same
      rw [List.perm_singleton.mp perm] at alike
      exact alike.2.1
    · exact ⟨by decide, one, trivial⟩
    · exact ⟨by decide, trivial, trivial⟩

end QueueForge.Security
