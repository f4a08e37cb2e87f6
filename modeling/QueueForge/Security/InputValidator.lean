import QueueForge.Js.Lists

/-! `InputValidator.sanitizeString`: six characters are replaced by HTML entities one after the
other. The ampersand comes first, so that the six replacements are one, and reading the entities
back undoes it. Texts are lists of code units here. `sanitizeJSON` does so with every text of an
object.
-/

namespace QueueForge.Security

open QueueForge.Js

/-- The code unit of a character of ASCII. -/
def unit (char : Char) : UInt16 :=
  char.toNat.toUInt16

/-- The code units of a text of ASCII. -/
def units (text : String) : List UInt16 :=
  text.toList.map unit

/-- `text.replace(/char/g, replacement)`. -/
def replaceAll (char : UInt16) (replacement text : List UInt16) : List UInt16 :=
  text.flatMap (fun other => if other = char then replacement else [other])

namespace InputValidator

/-- Sanitizes dangerous HTML tags and script injections from raw input strings. -/
def sanitizeString (input : List UInt16) (maxLength : Option Number := none) : List UInt16 :=
  if input = [] then
    []
  else
    let ampersands := replaceAll (unit '&') (units "&amp;") input
    let openings := replaceAll (unit '<') (units "&lt;") ampersands
    let closings := replaceAll (unit '>') (units "&gt;") openings
    let quotes := replaceAll (unit '"') (units "&quot;") closings
    let apostrophes := replaceAll (unit '\'') (units "&#x27;") quotes
    let sanitized := replaceAll (unit '/') (units "&#x2F;") apostrophes
    match maxLength with
    | some limit =>
        if limit.truthy ∧ Number.lt 0 limit ∧ limit.lt (.ofInt sanitized.length) then
          slice sanitized 0 limit
        else
          sanitized
    | none => sanitized

/-- The characters that are replaced, with what is written for them. -/
def entities : List (UInt16 × List UInt16) :=
  [
    (unit '&', units "&amp;"), (unit '<', units "&lt;"), (unit '>', units "&gt;"),
    (unit '"', units "&quot;"), (unit '\'', units "&#x27;"), (unit '/', units "&#x2F;")
  ]

/-- The entity that a text starts with. -/
def leadingEntity (text : List UInt16) : Option (UInt16 × List UInt16) :=
  entities.find? (fun entity => entity.2.isPrefixOf text)

/-- One pass from left to right, with some code units to skip: an entity is read as its character.
-/
def unescapeFrom : Nat → List UInt16 → List UInt16
  | _, [] => []
  | skip + 1, _ :: rest => unescapeFrom skip rest
  | 0, first :: rest =>
      match leadingEntity (first :: rest) with
      | some (char, entity) => char :: unescapeFrom (entity.length - 1) rest
      | none => first :: unescapeFrom 0 rest

/-- Every entity is replaced by its character. -/
def unescape (text : List UInt16) : List UInt16 :=
  unescapeFrom 0 text

-----------------------------------------------------------------------------------------
-- The replacements as one
-----------------------------------------------------------------------------------------

/-- What is written for a code unit. -/
def escapeUnit (char : UInt16) : List UInt16 :=
  (entities.lookup char).getD [char]

/-- Replacing in what a text was replaced by is replacing in each part. -/
theorem replaceAll_flatMap (char : UInt16) (replacement text : List UInt16)
    (parts : UInt16 → List UInt16)
    : replaceAll char replacement (text.flatMap parts)
      = text.flatMap (fun other => replaceAll char replacement (parts other)) :=
  List.flatMap_assoc

/-- A code unit is written as an entity or as itself. -/
theorem escapeUnit_cases (char : UInt16)
    : (char, escapeUnit char) ∈ entities
      ∨ (∀ entity ∈ entities, entity.1 ≠ char) ∧ escapeUnit char = [char] := by
  unfold escapeUnit
  cases found : entities.lookup char with
  | some entity =>
      obtain ⟨before, after, split, _⟩ := List.lookup_eq_some_iff.mp found
      rw [split]
      exact .inl (List.mem_append_right _ List.mem_cons_self)
  | none =>
      refine .inr ⟨fun entity mem same => ?_, rfl⟩
      have differs := List.lookup_eq_none_iff.mp found entity mem
      rw [same] at differs
      exact absurd differs (by simp)

/-- What a later replacement looks for is in no entity that is written before it. -/
theorem sanitizeString_eq (input : List UInt16)
    : sanitizeString input = input.flatMap escapeUnit := by
  unfold sanitizeString
  split
  case isTrue empty => rw [empty, List.flatMap_nil]
  case isFalse =>
    dsimp only
    have ampersands
        : replaceAll (unit '&') (units "&amp;") input
          = input.flatMap (fun char => if char = unit '&' then units "&amp;" else [char]) :=
      rfl
    simp only [ampersands, replaceAll_flatMap]
    refine List.flatMap_congr (fun char _ => ?_)
    rcases escapeUnit_cases char with listed | ⟨other, itself⟩
    · generalize escapeUnit char = written at listed ⊢
      simp only [entities, List.mem_cons, List.not_mem_nil, or_false, Prod.mk.injEq] at listed
      rcases listed with
        ⟨rfl, rfl⟩ | ⟨rfl, rfl⟩ | ⟨rfl, rfl⟩ | ⟨rfl, rfl⟩ | ⟨rfl, rfl⟩ | ⟨rfl, rfl⟩
      all_goals rfl
    · rw [itself]
      simp only [entities, List.forall_mem_cons] at other
      obtain ⟨ampersand, opening, closing, quote, apostrophe, slash, _⟩ := other
      simp [replaceAll, ampersand.symm, opening.symm, closing.symm, quote.symm, apostrophe.symm,
        slash.symm]

-----------------------------------------------------------------------------------------
-- What the output tells
-----------------------------------------------------------------------------------------

/-- An entity starts with its only ampersand and has no other character that is replaced. -/
theorem entity_shape
    : ∀ entity ∈ entities,
        entity.2.head? = some (unit '&')
        ∧ unit '&' ∉ entity.2.tail
        ∧ (units "<>\"'/").all (fun raw => !entity.2.contains raw) = true := by
  decide

theorem raw_notMem {raw : UInt16} (mem : raw ∈ units "<>\"'/") (input : List UInt16)
    : raw ∉ sanitizeString input := by
  rw [sanitizeString_eq, List.mem_flatMap]
  rintro ⟨char, _, written⟩
  rcases escapeUnit_cases char with listed | ⟨other, itself⟩
  · have apart := List.all_eq_true.mp (entity_shape _ listed).2.2 raw mem
    rw [List.contains_iff_mem.mpr written] at apart
    exact nomatch apart
  · rw [itself, List.mem_singleton] at written
    subst written
    have replaced
        : (units "<>\"'/").all (fun raw => entities.any (fun entity => entity.1 == raw)) = true := by
      decide
    obtain ⟨entity, listed, same⟩ := List.any_eq_true.mp (List.all_eq_true.mp replaced raw mem)
    exact other entity listed (beq_iff_eq.mp same)

/-- Any ampersand of the output starts an entity, by induction on the input. -/
theorem ampersand_starts_entity {input tail : List UInt16}
    (suffix : unit '&' :: tail <:+ input.flatMap escapeUnit)
    : ∃ entity ∈ entities, entity.2 <+: unit '&' :: tail := by
  induction input with
  | nil => exact absurd (List.suffix_nil.mp suffix) (List.cons_ne_nil _ _)
  | cons char rest ih =>
      obtain ⟨before, split⟩ := suffix
      rw [List.flatMap_cons, List.append_eq_append_iff] at split
      rcases split with ⟨written, here, later⟩ | ⟨written, here, later⟩
      · cases written with
        | nil => exact ih (later ▸ List.suffix_refl _)
        | cons first others =>
            obtain ⟨rfl, later⟩ := List.cons.inj later
            rcases escapeUnit_cases char with listed | ⟨other, itself⟩
            · -- the ampersand of an entity is its first character
              obtain ⟨_, only, _⟩ := entity_shape _ listed
              cases before with
              | nil => exact ⟨_, listed, by rw [here, later]; exact List.prefix_append _ _⟩
              | cons start between =>
                  rw [here] at only
                  exact absurd (List.mem_append_right between List.mem_cons_self) only
            · have ampersand : char = unit '&' := by
                have mem : unit '&' ∈ escapeUnit char := by
                  rw [here]
                  exact List.mem_append_right _ List.mem_cons_self
                rw [itself] at mem
                exact (List.mem_singleton.mp mem).symm
              exact absurd ampersand.symm (other (unit '&', units "&amp;") (by decide))
      · exact ih ⟨written, later.symm⟩

theorem unescapeFrom_append (front rest : List UInt16)
    : unescapeFrom front.length (front ++ rest) = unescapeFrom 0 rest := by
  induction front with
  | nil => rfl
  | cons _ _ ih => exact ih

/-- What is written for a code unit is read back as that one. -/
theorem unescapeFrom_escapeUnit (char : UInt16) (rest : List UInt16)
    : unescapeFrom 0 (escapeUnit char ++ rest) = char :: unescapeFrom 0 rest := by
  rcases escapeUnit_cases char with listed | ⟨other, itself⟩
  · have leading : leadingEntity (escapeUnit char ++ rest) = some (char, escapeUnit char) := by
      generalize escapeUnit char = written at listed ⊢
      simp only [entities, List.mem_cons, List.not_mem_nil, or_false, Prod.mk.injEq] at listed
      rcases listed with
        ⟨rfl, rfl⟩ | ⟨rfl, rfl⟩ | ⟨rfl, rfl⟩ | ⟨rfl, rfl⟩ | ⟨rfl, rfl⟩ | ⟨rfl, rfl⟩
      all_goals rfl
    have shape := (entity_shape _ listed).1
    cases written : escapeUnit char with
    | nil =>
        rw [written] at shape
        exact nomatch shape
    | cons first others =>
        rw [written, List.cons_append] at leading
        rw [List.cons_append, unescapeFrom, leading]
        exact congrArg (char :: ·) (unescapeFrom_append others rest)
  · have plain : leadingEntity (char :: rest) = none := by
      refine List.find?_eq_none.mpr (fun entity listed leads => ?_)
      obtain ⟨tail, same⟩ := List.isPrefixOf_iff_prefix.mp leads
      have shape := (entity_shape _ listed).1
      cases start : entity.2 with
      | nil =>
          rw [start] at shape
          exact nomatch shape
      | cons first others =>
          rw [start, List.head?_cons] at shape
          rw [start, List.cons_append] at same
          have ampersand := (List.cons.inj same).1.symm.trans (Option.some.inj shape)
          exact other (unit '&', units "&amp;") (by decide) ampersand.symm
    rw [itself, List.singleton_append, unescapeFrom, plain]

/-- The entities read back are the input, by induction on it. -/
theorem unescape_sanitizeString (input : List UInt16)
    : unescape (sanitizeString input) = input := by
  rw [sanitizeString_eq, unescape]
  induction input with
  | nil => rfl
  | cons char rest ih => rw [List.flatMap_cons, unescapeFrom_escapeUnit, ih]

/-- Without a limit the output has none of five characters and ampersands only in entities, and the
input can be read back, so that distinct inputs stay distinct.
-/
theorem sanitizeString_faithful (input : List UInt16)
    : (∀ raw ∈ units "<>\"'/", raw ∉ sanitizeString input)
      ∧ (∀ tail,
          unit '&' :: tail <:+ sanitizeString input
          → ∃ entity ∈ entities, entity.2 <+: unit '&' :: tail)
      ∧ unescape (sanitizeString input) = input
      ∧ ∀ other, sanitizeString other = sanitizeString input → other = input := by
  refine ⟨fun raw mem => raw_notMem mem input, ?_, unescape_sanitizeString input, ?_⟩
  · intro tail suffix
    rw [sanitizeString_eq] at suffix
    exact ampersand_starts_entity suffix
  · intro other same
    have read := congrArg unescape same
    rwa [unescape_sanitizeString, unescape_sanitizeString] at read

end InputValidator

-----------------------------------------------------------------------------------------
-- Whole objects
-----------------------------------------------------------------------------------------

/-- What an object of JSON holds: the own members, whose keys are distinct. -/
inductive JsonTree where
  | null
  | bool (value : Bool)
  | number (value : Number)
  | text (value : List UInt16)
  | array (elements : List JsonTree)
  | object (members : List (List UInt16 × JsonTree))

namespace JsonTree

/-- `typeof value === 'object'` of what is not null. -/
def isObject : JsonTree → Bool
  | array _ | object _ => true
  | _ => false

/-- A step from an array or an object to what it holds. -/
inductive Step where
  | index (place : Nat)
  | key (name : List UInt16)

/-- What is at the end of a path, if it leads anywhere. -/
def follow : List Step → JsonTree → Option JsonTree
  | [], tree => some tree
  | .index place :: rest, array elements => elements[place]?.bind (follow rest)
  | .key name :: rest, object members => (members.lookup name).bind (follow rest)
  | _ :: _, _ => none

end JsonTree

namespace InputValidator

/-- An assignment to this key sets the prototype or nothing, so that no member comes of it. -/
def prototypeKey : List UInt16 :=
  units "__proto__"

mutual

/-- What a member is copied as: for an array or an object that is `sanitizeJSON`. -/
def sanitizeValue : JsonTree → JsonTree
  | .text value => .text (sanitizeString value)
  | .array elements => .array (sanitizeElements elements)
  | .object members => .object (sanitizeMembers members)
  | .null => .null
  | .bool value => .bool value
  | .number value => .number value

def sanitizeElements : List JsonTree → List JsonTree
  | [] => []
  | value :: rest => sanitizeValue value :: sanitizeElements rest

def sanitizeMembers : List (List UInt16 × JsonTree) → List (List UInt16 × JsonTree)
  | [] => []
  | (key, value) :: rest =>
      if key = prototypeKey then
        sanitizeMembers rest
      else
        (key, sanitizeValue value) :: sanitizeMembers rest

end

/-- Recursively sanitizes string properties within nested JSON objects. -/
def sanitizeJSON (input : JsonTree) : JsonTree :=
  if input.isObject then sanitizeValue input else .object []

theorem sanitizeElements_eq (elements : List JsonTree)
    : sanitizeElements elements = elements.map sanitizeValue := by
  induction elements with
  | nil => rw [sanitizeElements, List.map_nil]
  | cons value rest ih => rw [sanitizeElements, List.map_cons, ih]

theorem lookup_sanitizeMembers (members : List (List UInt16 × JsonTree)) (name : List UInt16)
    : (sanitizeMembers members).lookup name
      = if name = prototypeKey then none else (members.lookup name).map sanitizeValue := by
  induction members with
  | nil => simp [sanitizeMembers]
  | cons member rest ih =>
      obtain ⟨key, value⟩ := member
      rw [sanitizeMembers]
      by_cases dropped : key = prototypeKey
      · rw [if_pos dropped, ih]
        by_cases asked : name = prototypeKey
        · rw [if_pos asked, if_pos asked]
        · have apart : (name == key) = false := beq_false_of_ne (dropped ▸ asked)
          rw [if_neg asked, if_neg asked, List.lookup_cons, apart]
      · rw [if_neg dropped, List.lookup_cons, List.lookup_cons]
        by_cases same : name = key
        · rw [same, beq_self_eq_true, if_neg dropped]
          rfl
        · rw [beq_false_of_ne same]
          exact ih

/-- No path passes the key of the prototype, by induction on it. -/
theorem follow_prototypeKey {path : List JsonTree.Step} (passes : .key prototypeKey ∈ path)
    (tree : JsonTree)
    : (sanitizeValue tree).follow path = none := by
  induction path generalizing tree with
  | nil => exact absurd passes List.not_mem_nil
  | cons step rest ih =>
      cases step with
      | index place =>
          have later : .key prototypeKey ∈ rest := by simpa using passes
          cases tree with
          | array elements =>
              rw [sanitizeValue, JsonTree.follow, sanitizeElements_eq, List.getElem?_map]
              cases elements[place]? with
              | none => rfl
              | some value => exact ih later value
          | _ => rfl
      | key name =>
          cases tree with
          | object members =>
              rw [sanitizeValue, JsonTree.follow, lookup_sanitizeMembers]
              by_cases asked : name = prototypeKey
              · rw [if_pos asked]
                rfl
              · have later : .key prototypeKey ∈ rest := by simpa [Ne.symm asked] using passes
                rw [if_neg asked]
                cases members.lookup name with
                | none => rfl
                | some value => exact ih later value
          | _ => rfl

/-- Any other path leads to the copy of what it led to, by induction on it. -/
theorem follow_sanitizeValue {path : List JsonTree.Step} (apart : .key prototypeKey ∉ path)
    (tree : JsonTree)
    : (sanitizeValue tree).follow path = (tree.follow path).map sanitizeValue := by
  induction path generalizing tree with
  | nil => rfl
  | cons step rest ih =>
      have later : .key prototypeKey ∉ rest := fun passes => apart (List.mem_cons_of_mem _ passes)
      cases step with
      | index place =>
          cases tree with
          | array elements =>
              rw [sanitizeValue, JsonTree.follow, JsonTree.follow, sanitizeElements_eq,
                List.getElem?_map]
              cases elements[place]? with
              | none => rfl
              | some value => exact ih later value
          | _ => rfl
      | key name =>
          cases tree with
          | object members =>
              have other : name ≠ prototypeKey := fun asked => apart (asked ▸ List.mem_cons_self)
              rw [sanitizeValue, JsonTree.follow, JsonTree.follow, lookup_sanitizeMembers,
                if_neg other]
              cases members.lookup name with
              | none => rfl
              | some value => exact ih later value
          | _ => rfl

/-- Only a text is copied as a text. -/
theorem text_of_sanitizeValue {value : JsonTree} {text : List UInt16}
    (copy : sanitizeValue value = .text text)
    : ∃ original, value = .text original ∧ text = sanitizeString original := by
  cases value with
  | text original =>
      cases copy
      exact ⟨original, rfl, rfl⟩
  | _ => cases copy

/-- At each place of the output is the copy of what the input has there, but nothing at and below
an own key `__proto__`. Each text is as `sanitizeString` leaves it, so that what the input has at
its place can be read back. What is not an object becomes an empty one.
-/
theorem sanitizeJSON_throughout (input : JsonTree) (path : List JsonTree.Step)
    : (input.isObject = false → sanitizeJSON input = .object [])
      ∧ (input.isObject = true → .key prototypeKey ∉ path →
          (sanitizeJSON input).follow path = (input.follow path).map sanitizeValue)
      ∧ (.key prototypeKey ∈ path → (sanitizeJSON input).follow path = none)
      ∧ ∀ text, (sanitizeJSON input).follow path = some (.text text) →
          (∀ raw ∈ units "<>\"'/", raw ∉ text)
          ∧ (∀ tail, unit '&' :: tail <:+ text → ∃ entity ∈ entities, entity.2 <+: unit '&' :: tail)
          ∧ input.follow path = some (.text (unescape text)) := by
  cases object : input.isObject with
  | false =>
      have empty : sanitizeJSON input = .object [] := by rw [sanitizeJSON, object]; rfl
      refine ⟨fun _ => empty, (by rintro ⟨⟩), fun passes => ?_, fun text found => ?_⟩
      · rw [empty]
        cases path with
        | nil => exact absurd passes List.not_mem_nil
        | cons step rest => cases step <;> rfl
      · rw [empty] at found
        cases path with
        | nil => cases found
        | cons step rest => cases step <;> cases found
  | true =>
      have copied : sanitizeJSON input = sanitizeValue input := by rw [sanitizeJSON, object]; rfl
      rw [copied]
      refine ⟨(by rintro ⟨⟩), fun _ apart => follow_sanitizeValue apart input,
        fun passes => follow_prototypeKey passes input, fun text found => ?_⟩
      have apart : .key prototypeKey ∉ path := by
        intro passes
        rw [follow_prototypeKey passes] at found
        cases found
      rw [follow_sanitizeValue apart] at found
      obtain ⟨value, there, copy⟩ := Option.map_eq_some_iff.mp found
      obtain ⟨original, rfl, rfl⟩ := text_of_sanitizeValue copy
      rw [there, unescape_sanitizeString]
      refine ⟨fun raw mem => raw_notMem mem original, fun tail suffix => ?_, rfl⟩
      rw [sanitizeString_eq] at suffix
      exact ampersand_starts_entity suffix

example
    : sanitizeJSON
        (.object [(units "__proto__", .object []), (units "note", .array [.text (units "a<b")])])
      = .object [(units "note", .array [.text (units "a&lt;b")])] := by
  rfl

end InputValidator

end QueueForge.Security
