import QueueForge.Js.Doubles
import QueueForge.Js.JsonOrder
import QueueForge.Js.Quoting

/-! JSON texts: what `JSON.parse` reads, and that it reads what `JSON.stringify` has written.
The text is taken letter by letter by an automaton with a stack of what is still open.
-/

namespace QueueForge.Js

-----------------------------------------------------------------------------------------
-- Words: literals and numerals
-----------------------------------------------------------------------------------------

inductive JsonToken where
  | openArray
  | closeArray
  | openObject
  | closeObject
  | comma
  | colon
  | null
  | bool (value : Bool)
  | number (value : Number)
  | string (text : String)

namespace JsonText

def isBlank (char : Char) : Bool :=
  char = ' ' || char = '\t' || char = '\n' || char = '\r'

def punctuation? (char : Char) : Option JsonToken :=
  if char = '[' then some .openArray
  else if char = ']' then some .closeArray
  else if char = '\x7b' then some .openObject
  else if char = '\x7d' then some .closeObject
  else if char = ',' then some .comma
  else if char = ':' then some .colon
  else none

/-- The character is within a literal or a numeral. -/
def isLetter (char : Char) : Bool :=
  !isBlank char && char != '"' && (punctuation? char).isNone

/-- The digits after a decimal point, and what follows them. -/
def fraction? : List Char → Option (List Char × List Char)
  | '.' :: rest =>
      if (rest.takeWhile isDigit).isEmpty then
        none
      else
        some (rest.takeWhile isDigit, rest.dropWhile isDigit)
  | rest => some ([], rest)

def magnitude? (digits : List Char) : Option Int :=
  if isRunOf isDigit digits then some (readNumber 0 digits) else none

/-- The exponent that ends a numeral. -/
def exponent? : List Char → Option Int
  | [] => some 0
  | 'e' :: '-' :: digits => (magnitude? digits).map (fun value => -value)
  | 'E' :: '-' :: digits => (magnitude? digits).map (fun value => -value)
  | 'e' :: '+' :: digits => magnitude? digits
  | 'E' :: '+' :: digits => magnitude? digits
  | 'e' :: digits => magnitude? digits
  | 'E' :: digits => magnitude? digits
  | _ => none

/-- The digits before the decimal point do not start with a needless zero. -/
def isWhole (digits : List Char) : Bool :=
  isRunOf isDigit digits && (digits.head? != some '0' || digits.length = 1)

/-- A numeral without its sign. -/
def unsigned? (letters : List Char) : Option Rat :=
  if isWhole (letters.takeWhile isDigit) then
    (fraction? (letters.dropWhile isDigit)).bind
      (fun parts => (exponent? parts.2).map
        (fun exponent =>
          readNumber 0 (letters.takeWhile isDigit ++ parts.1)
          * 10 ^ (exponent - parts.1.length : Int)))
  else
    none

/-- The number a numeral stands for. -/
def numeral? : List Char → Option Number
  | '-' :: letters => (unsigned? letters).map (fun value => Number.literal (-value))
  | letters => (unsigned? letters).map Number.literal

def word? (letters : List Char) : Option JsonToken :=
  if letters = "null".toList then some .null
  else if letters = "true".toList then some (.bool true)
  else if letters = "false".toList then some (.bool false)
  else (numeral? letters).map JsonToken.number

end JsonText

-----------------------------------------------------------------------------------------
-- The order of the members of an object
-----------------------------------------------------------------------------------------

/-- A key that is an index of an array: the language lists these first. -/
def arrayIndex? (key : String) : Option Nat :=
  if JsonText.isWhole key.toList && decide (readNumber 0 key.toList < 2 ^ 32 - 1) then
    some (readNumber 0 key.toList)
  else
    none

/-- A member that is listed before a new one with an index for its key. -/
def hasSmallerIndex (index : Nat) (member : String × Json) : Bool :=
  (arrayIndex? member.1).any (fun other => decide (other < index))

/-- `object[key] = value` as `JSON.parse` defines it. -/
def defineMember (members : List (String × Json)) (key : String) (value : Json)
    : List (String × Json) :=
  if members.any (fun member => member.1 == key) then
    members.map (fun member => if member.1 = key then (key, value) else member)
  else
    match arrayIndex? key with
    | none => members ++ [(key, value)]
    | some index =>
        members.takeWhile (hasSmallerIndex index)
        ++ (key, value) :: members.dropWhile (hasSmallerIndex index)

/-- The order of the keys of one object. -/
def precedes (key other : String) : Bool :=
  key != other
  && match arrayIndex? key, arrayIndex? other with
    | some index, some otherIndex => decide (index < otherIndex)
    | none, some _ => false
    | _, none => true

/-- The members are in the order in which the language lists them. -/
def Listed (members : List (String × Json)) : Prop :=
  members.Pairwise (fun member other => precedes member.1 other.1 = true)

-----------------------------------------------------------------------------------------
-- The automaton
-----------------------------------------------------------------------------------------

namespace JsonText

/-- An array or an object that is still open, with what has been read of it. -/
inductive Frame where
  | array (elements : List Json)
  | object (members : List (String × Json)) (key : String)

/-- What may come next, within the frames that are open. -/
inductive Expected where
  | value (frames : List Frame)
  | firstElement (frames : List Frame)
  | firstKey (frames : List Frame)
  | laterKey (members : List (String × Json)) (frames : List Frame)
  | colon (members : List (String × Json)) (key : String) (frames : List Frame)
  | afterValue (value : Json) (frames : List Frame)

/-- A value starts, or is there as a whole. -/
def begin (frames : List Frame) : JsonToken → Option Expected
  | .null => some (.afterValue .null frames)
  | .bool value => some (.afterValue (.bool value) frames)
  | .number value => some (.afterValue (.number value) frames)
  | .string text => some (.afterValue (.string text) frames)
  | .openArray => some (.firstElement frames)
  | .openObject => some (.firstKey frames)
  | _ => none

def Expected.take : Expected → JsonToken → Option Expected
  | .value frames, token => begin frames token
  | .firstElement frames, .closeArray => some (.afterValue (.array []) frames)
  | .firstElement frames, token => begin (.array [] :: frames) token
  | .firstKey frames, .closeObject => some (.afterValue (.object []) frames)
  | .firstKey frames, .string key => some (.colon [] key frames)
  | .laterKey members frames, .string key => some (.colon members key frames)
  | .colon members key frames, .colon => some (.value (.object members key :: frames))
  | .afterValue last (.array elements :: frames), .comma =>
      some (.value (.array (elements ++ [last]) :: frames))
  | .afterValue last (.array elements :: frames), .closeArray =>
      some (.afterValue (.array (elements ++ [last])) frames)
  | .afterValue last (.object members key :: frames), .comma =>
      some (.laterKey (defineMember members key last) frames)
  | .afterValue last (.object members key :: frames), .closeObject =>
      some (.afterValue (.object (defineMember members key last)) frames)
  | _, _ => none

/-- Where in the text the automaton is. A string is known by its code units. -/
inductive Place where
  | word (letters : List Char)
  | string (units : List Nat)
  | escape (units : List Nat)
  | escapedUnit (units digits : List Nat)

/-- The characters that code units stand for; half of a surrogate pair stands for none. -/
def charsOf : List Nat → Option (List Char)
  | [] => some []
  | [unit] =>
      if 0xd800 ≤ unit ∧ unit < 0xe000 then none else some [Char.ofNat unit]
  | unit :: low :: rest =>
      if 0xd800 ≤ unit ∧ unit < 0xdc00 ∧ 0xdc00 ≤ low ∧ low < 0xe000 then
        (charsOf rest).map
          (fun chars => Char.ofNat (0x10000 + 0x400 * (unit - 0xd800) + (low - 0xdc00)) :: chars)
      else if 0xd800 ≤ unit ∧ unit < 0xe000 then
        none
      else
        (charsOf (low :: rest)).map (fun chars => Char.ofNat unit :: chars)

/-- The code unit that a character stands for after a backslash. -/
def escaped? (char : Char) : Option Nat :=
  if char = '"' then some 0x22
  else if char = '\\' then some 0x5c
  else if char = '/' then some 0x2f
  else if char = 'b' then some 0x08
  else if char = 'f' then some 0x0c
  else if char = 'n' then some 0x0a
  else if char = 'r' then some 0x0d
  else if char = 't' then some 0x09
  else none

/-- The automaton. It notes whether every string so far is one of whole characters. -/
structure Reader where
  place : Place
  whole : Bool
  expected : Expected

/-- The word that ends here, if there is one, is taken. -/
def Reader.endWord (reader : Reader) (letters : List Char) : Option Reader :=
  if letters.isEmpty then
    some reader
  else
    (word? letters).bind (fun token => (reader.expected.take token).map
      (fun expected => { reader with place := .word [], expected }))

/-- A string ends here; one with half of a surrogate pair is read on without its text. -/
def Reader.endString (reader : Reader) (units : List Nat) : Option Reader :=
  match charsOf units with
  | some chars =>
      (reader.expected.take (.string (String.ofList chars))).map
        (fun expected => { reader with place := .word [], expected })
  | none =>
      (reader.expected.take (.string "")).map
        (fun expected => { place := .word [], whole := false, expected })

def Reader.next (reader : Reader) (char : Char) : Option Reader :=
  match reader.place with
  | .word letters =>
      if isBlank char then
        reader.endWord letters
      else if char = '"' then
        (reader.endWord letters).map (fun after => { after with place := .string [] })
      else
        match punctuation? char with
        | some token =>
            (reader.endWord letters).bind (fun after => (after.expected.take token).map
              (fun expected => { after with expected }))
        | none => some { reader with place := .word (letters ++ [char]) }
  | .string units =>
      if char = '"' then reader.endString units
      else if char = '\\' then some { reader with place := .escape units }
      else if char.toNat < 0x20 then none
      else some { reader with place := .string (units ++ unitsOf char) }
  | .escape units =>
      if char = 'u' then
        some { reader with place := .escapedUnit units [] }
      else
        (escaped? char).map (fun unit => { reader with place := .string (units ++ [unit]) })
  | .escapedUnit units digits =>
      (hexValue? char).map (fun digit =>
        if digits.length < 3 then
          { reader with place := .escapedUnit units (digits ++ [digit]) }
        else
          { reader with
            place := .string (units ++ [(digits ++ [digit]).foldl (16 * · + ·) 0]) })

end JsonText

/-- A value that a text tells: one with half of a surrogate pair in a string is none of `Json`. -/
inductive Told where
  | json (value : Json)
  | halfPair

namespace JsonText

/-- The whole text has been read, and is of one value. -/
def Reader.finish (reader : Reader) : Option Told :=
  match reader.place with
  | .word letters =>
      (reader.endWord letters).bind (fun after =>
        match after.expected with
        | .afterValue value [] => some (if after.whole then .json value else .halfPair)
        | _ => none)
  | _ => none

def start : Reader :=
  { place := .word [], whole := true, expected := .value [] }

end JsonText

/-- `JSON.parse(text)`, where `none` stands for a `SyntaxError`. -/
def parseJson (text : String) : Option Told :=
  (text.toList.foldlM JsonText.Reader.next JsonText.start).bind JsonText.Reader.finish

-----------------------------------------------------------------------------------------
-- A list of members in order
-----------------------------------------------------------------------------------------

/-- A member that comes after all the others is listed last. -/
theorem defineMember_last {members : List (String × Json)} {key : String}
    (last : ∀ member ∈ members, precedes member.1 key = true) (value : Json)
    : defineMember members key value = members ++ [(key, value)] := by
  have new : members.any (fun member => member.1 == key) = false := by
    rw [List.any_eq_false]
    intro member listed same
    have before := last member listed
    rw [eq_of_beq same] at before
    simp [precedes] at before
  unfold defineMember
  rw [if_neg (by rw [new]; exact Bool.false_ne_true)]
  cases indexed : arrayIndex? key with
  | none => rfl
  | some index =>
      have smaller : ∀ member ∈ members, hasSmallerIndex index member = true := by
        intro member listed
        have before := last member listed
        unfold precedes at before
        unfold hasSmallerIndex
        cases other : arrayIndex? member.1 with
        | none => simp [other, indexed] at before
        | some other =>
            rw [other, indexed, Bool.and_eq_true] at before
            exact before.2
      dsimp only
      rw [List.takeWhile_eq_self_iff.mpr smaller, List.dropWhile_eq_nil_iff.mpr smaller]

namespace JsonText

-----------------------------------------------------------------------------------------
-- Strings
-----------------------------------------------------------------------------------------

theorem charsOf_unitsOf (char : Char) (units : List Nat)
    : charsOf (unitsOf char ++ units) = (charsOf units).map (fun chars => char :: chars) := by
  have valid : char.toNat.isValidChar := char.valid
  simp only [Nat.isValidChar] at valid
  unfold unitsOf
  by_cases basic : char.toNat < 0x10000
  · have noSurrogate : ¬(0xd800 ≤ char.toNat ∧ char.toNat < 0xe000) := by omega
    have noHigh (low : Nat)
        : ¬(0xd800 ≤ char.toNat ∧ char.toNat < 0xdc00 ∧ 0xdc00 ≤ low ∧ low < 0xe000) := by
      omega
    rw [if_pos basic, List.singleton_append]
    cases units with
    | nil => simp only [charsOf, if_neg noSurrogate, Char.ofNat_toNat, Option.map_some]
    | cons low rest => rw [charsOf, if_neg (noHigh low), if_neg noSurrogate, Char.ofNat_toNat]
  · have point
        : 0x10000 + 0x400 * (0xd800 + (char.toNat - 0x10000) / 0x400 - 0xd800)
            + (0xdc00 + (char.toNat - 0x10000) % 0x400 - 0xdc00)
          = char.toNat := by
      omega
    rw [if_neg basic, List.cons_append, List.cons_append, List.nil_append, charsOf,
      if_pos (by omega), point, Char.ofNat_toNat]

/-- The code units of whole characters are read back. By induction on the characters. -/
theorem charsOf_codeUnits (chars : List Char) : charsOf (chars.flatMap unitsOf) = some chars := by
  induction chars with
  | nil => rfl
  | cons char rest ih => rw [List.flatMap_cons, charsOf_unitsOf, ih, Option.map_some]

section Strings

variable {whole : Bool} {expected : Expected}

/-- What is written for a character stands for it. The characters that are escaped are
enumerated.
-/
theorem read_quoteChar (char : Char) (units : List Nat)
    : (quoteChar char).foldlM Reader.next ⟨.string units, whole, expected⟩
      = some ⟨.string (units ++ unitsOf char), whole, expected⟩ := by
  by_cases visible : 0x20 ≤ char.toNat
  · by_cases quotation : char = '"'
    · subst quotation
      rfl
    · by_cases backslash : char = '\\'
      · subst backslash
        rfl
      · rw [quoteChar_of_visible visible quotation backslash]
        simp [Reader.next, quotation, backslash, visible]
  · rw [← Char.ofNat_toNat char]
    have control : char.toNat < 0x20 := by omega
    generalize char.toNat = code at control ⊢
    interval_cases code <;> rfl

theorem read_quoteChars (chars : List Char) (units : List Nat)
    : (chars.flatMap quoteChar).foldlM Reader.next ⟨.string units, whole, expected⟩
      = some ⟨.string (units ++ chars.flatMap unitsOf), whole, expected⟩ := by
  induction chars generalizing units with
  | nil => simp
  | cons char rest ih =>
      rw [List.flatMap_cons, List.foldlM_append, read_quoteChar]
      simp [ih]

/-- A quoted text is taken as one string. -/
theorem read_quote (text : String)
    : (quote text).toList.foldlM Reader.next ⟨.word [], whole, expected⟩
      = (expected.take (.string text)).map (fun after => ⟨.word [], whole, after⟩) := by
  rw [quote_toList, List.cons_append, List.foldlM_cons]
  have opened
      : Reader.next ⟨.word [], whole, expected⟩ '"' = some ⟨.string [], whole, expected⟩ :=
    rfl
  rw [opened]
  simp only [Option.bind_eq_bind, Option.bind_some]
  rw [List.foldlM_append, read_quoteChars]
  simp [Reader.next, Reader.endString, charsOf_codeUnits]

end Strings

-----------------------------------------------------------------------------------------
-- Words
-----------------------------------------------------------------------------------------

theorem isLetter_of_isDigit {char : Char} (digit : isDigit char = true) : isLetter char = true := by
  have other (delimiter : Char) (isNone : isDigit delimiter = false) : char ≠ delimiter := by
    intro same
    rw [← same, digit] at isNone
    contradiction
  simp [isLetter, isBlank, punctuation?, other ' ' rfl, other '\t' rfl, other '\n' rfl,
    other '\r' rfl, other '"' rfl, other '[' rfl, other ']' rfl, other '\x7b' rfl,
    other '\x7d' rfl, other ',' rfl, other ':' rfl]

theorem magnitude?_letters {digits : List Char} {value : Int} (read : magnitude? digits = some value)
    : ∀ char ∈ digits, isLetter char = true := by
  unfold magnitude? at read
  split at read
  · next run =>
      rw [isRunOf, Bool.and_eq_true] at run
      exact fun char listed => isLetter_of_isDigit (List.all_eq_true.mp run.2 char listed)
  · contradiction

theorem exponent?_letters {letters : List Char} {value : Int} (read : exponent? letters = some value)
    : ∀ char ∈ letters, isLetter char = true := by
  have marked {mark : Char} {rest : List Char} (isMark : isLetter mark = true)
      (others : ∀ char ∈ rest, isLetter char = true)
      : ∀ char ∈ mark :: rest, isLetter char = true :=
    List.forall_mem_cons.mpr ⟨isMark, others⟩
  unfold exponent? at read
  split at read
  · exact fun _ listed => absurd listed List.not_mem_nil
  · obtain ⟨_, digits, _⟩ := Option.map_eq_some_iff.mp read
    exact marked rfl (marked rfl (magnitude?_letters digits))
  · obtain ⟨_, digits, _⟩ := Option.map_eq_some_iff.mp read
    exact marked rfl (marked rfl (magnitude?_letters digits))
  · exact marked rfl (marked rfl (magnitude?_letters read))
  · exact marked rfl (marked rfl (magnitude?_letters read))
  · exact marked rfl (magnitude?_letters read)
  · exact marked rfl (magnitude?_letters read)
  · contradiction

theorem takeWhile_letters (letters : List Char)
    : ∀ char ∈ letters.takeWhile isDigit, isLetter char = true :=
  fun _ listed => isLetter_of_isDigit (List.mem_takeWhile_imp listed)

theorem fraction?_letters {letters : List Char} {parts : List Char × List Char}
    (read : fraction? letters = some parts)
    (others : ∀ char ∈ parts.2, isLetter char = true)
    : ∀ char ∈ letters, isLetter char = true := by
  unfold fraction? at read
  split at read
  · next rest =>
      split at read
      · contradiction
      · cases read
        intro char listed
        rcases List.mem_cons.mp listed with point | listed
        · rw [point]
          rfl
        · rw [← List.takeWhile_append_dropWhile (p := isDigit) (l := rest)] at listed
          rcases List.mem_append.mp listed with digit | later
          · exact takeWhile_letters rest char digit
          · exact others char later
  · cases read
    exact others

theorem unsigned?_letters {letters : List Char} {value : Rat} (read : unsigned? letters = some value)
    : letters ≠ [] ∧ ∀ char ∈ letters, isLetter char = true := by
  unfold unsigned? at read
  split at read
  · next isNumeral =>
      obtain ⟨parts, fraction, read⟩ := Option.bind_eq_some_iff.mp read
      obtain ⟨_, exponent, _⟩ := Option.map_eq_some_iff.mp read
      constructor
      · rintro rfl
        contradiction
      · intro char listed
        rw [← List.takeWhile_append_dropWhile (p := isDigit) (l := letters)] at listed
        rcases List.mem_append.mp listed with digit | later
        · exact takeWhile_letters letters char digit
        · exact fraction?_letters fraction (exponent?_letters exponent) char later
  · contradiction

/-- A numeral is one word. -/
theorem numeral?_letters {letters : List Char} {value : Number} (read : numeral? letters = some value)
    : letters ≠ [] ∧ ∀ char ∈ letters, isLetter char = true := by
  unfold numeral? at read
  split at read
  · obtain ⟨_, unsigned, _⟩ := Option.map_eq_some_iff.mp read
    exact ⟨List.cons_ne_nil _ _, List.forall_mem_cons.mpr ⟨rfl, (unsigned?_letters unsigned).2⟩⟩
  · obtain ⟨_, unsigned, _⟩ := Option.map_eq_some_iff.mp read
    exact unsigned?_letters unsigned

/-- A numeral is none of the literals. -/
theorem word?_numeral {letters : List Char} {value : Number} (read : numeral? letters = some value)
    : word? letters = some (.number value) := by
  have other (literal : List Char) (isNone : numeral? literal = none) : letters ≠ literal := by
    intro same
    rw [← same, read] at isNone
    contradiction
  rw [word?, if_neg (other _ rfl), if_neg (other _ rfl), if_neg (other _ rfl), read]
  rfl

/-- Letters are gathered into a word. By induction on the letters. -/
theorem read_letters {whole : Bool} {expected : Expected} {letters : List Char}
    (isWord : ∀ char ∈ letters, isLetter char = true) (before : List Char)
    : letters.foldlM Reader.next ⟨.word before, whole, expected⟩
      = some ⟨.word (before ++ letters), whole, expected⟩ := by
  induction letters generalizing before with
  | nil => simp
  | cons char rest ih =>
      obtain ⟨first, others⟩ := List.forall_mem_cons.mp isWord
      simp only [isLetter, Bool.and_eq_true, Bool.not_eq_true', bne_iff_ne, ne_eq,
        Option.isNone_iff_eq_none] at first
      have gathered
          : Reader.next ⟨.word before, whole, expected⟩ char
            = some ⟨.word (before ++ [char]), whole, expected⟩ := by
        simp [Reader.next, first]
      rw [List.foldlM_cons, gathered]
      simpa using ih others (before ++ [char])

-----------------------------------------------------------------------------------------
-- What has been written is read back
-----------------------------------------------------------------------------------------

/-- A value may start here, within the frames. -/
def Expected.AtValue (expected : Expected) (frames : List Frame) : Prop :=
  expected = .value frames
  ∨ ∃ outer, expected = .firstElement outer ∧ frames = .array [] :: outer

/-- The text leads to the end of the value: at most its last word is still to be taken. -/
def Completes (reader : Reader) (text : List Char) (value : Json) (frames : List Frame) : Prop :=
  ∃ letters expected,
    text.foldlM Reader.next reader = some ⟨.word letters, true, expected⟩
    ∧ Reader.endWord ⟨.word letters, true, expected⟩ letters
      = some ⟨.word [], true, .afterValue value frames⟩

/-- The text of the value is read as the value wherever one may start. -/
def ReadBack (value : Json) (text : List Char) : Prop :=
  ∀ expected frames,
    Expected.AtValue expected frames → Completes ⟨.word [], true, expected⟩ text value frames

theorem Expected.AtValue.take {expected : Expected} {frames : List Frame}
    (here : expected.AtValue frames) {token : JsonToken} {after : Expected}
    (begun : begin frames token = some after)
    : expected.take token = some after := by
  rcases here with rfl | ⟨outer, rfl, rfl⟩
  · exact begun
  · cases token <;> first | exact begun | contradiction

/-- The letters of a word may be checked one after the other. -/
theorem isWord_of_all {letters : List Char}
    (checked : (!letters.isEmpty && letters.all isLetter) = true)
    : letters ≠ [] ∧ ∀ char ∈ letters, isLetter char = true := by
  rw [Bool.and_eq_true, List.all_eq_true] at checked
  exact ⟨by simpa using checked.1, checked.2⟩

theorem readBack_word (letters : List Char) {token : JsonToken} {value : Json}
    (isWord : letters ≠ [] ∧ ∀ char ∈ letters, isLetter char = true)
    (read : word? letters = some token)
    (begun : ∀ frames, begin frames token = some (.afterValue value frames))
    : ReadBack value letters := by
  intro expected frames here
  refine ⟨letters, expected, read_letters isWord.2 [], ?_⟩
  have nonempty : letters.isEmpty = false := by simpa using isWord.1
  simp [Reader.endWord, nonempty, read, here.take (begun frames)]

theorem readBack_string (text : String) : ReadBack (.string text) (quote text).toList := by
  intro expected frames here
  refine ⟨[], .afterValue (.string text) frames, ?_, rfl⟩
  rw [read_quote, here.take (show begin frames (.string text) = _ from rfl)]
  rfl

/-- A value ends where a comma or a bracket follows. -/
theorem Completes.close {reader : Reader} {text : List Char} {value : Json} {frames : List Frame}
    (completes : Completes reader text value frames) (char : Char) {token : JsonToken}
    {after : Expected} (isNoBlank : isBlank char = false) (isNoQuotation : char ≠ '"')
    (isPunctuation : punctuation? char = some token)
    (taken : (Expected.afterValue value frames).take token = some after)
    : (text ++ [char]).foldlM Reader.next reader = some ⟨.word [], true, after⟩ := by
  obtain ⟨letters, expected, read, ended⟩ := completes
  rw [List.foldlM_append, read]
  simp [Reader.next, isNoBlank, isNoQuotation, isPunctuation, ended, taken]

theorem Completes.of_read {reader : Reader} {text : List Char} {value : Json}
    {frames : List Frame}
    (read : text.foldlM Reader.next reader = some ⟨.word [], true, .afterValue value frames⟩)
    : Completes reader text value frames :=
  ⟨[], _, read, rfl⟩

/-- The text of one part, read from where a text before it has led to. -/
theorem Completes.append {reader middle : Reader} {before text : List Char} {value : Json}
    {frames : List Frame} (first : before.foldlM Reader.next reader = some middle)
    (second : Completes middle text value frames)
    : Completes reader (before ++ text) value frames := by
  obtain ⟨letters, expected, read, ended⟩ := second
  refine ⟨letters, expected, ?_, ended⟩
  rw [List.foldlM_append, first]
  exact read

section Parts

variable {reader : Reader} {frames : List Frame} (code : Json → List Char)

/-- The other elements of an array are read, and its end. By induction on the elements. -/
theorem completes_elements {rest : List Json}
    (parts : ∀ element ∈ rest, ReadBack element (code element))
    {text : List Char} {elements : List Json} {last : Json}
    (completes : Completes reader text last (.array elements :: frames))
    : Completes reader
        (text ++ rest.flatMap (fun element => ',' :: code element) ++ [']'])
        (.array (elements ++ last :: rest)) frames := by
  induction rest generalizing text elements last with
  | nil =>
      rw [List.flatMap_nil, List.append_nil]
      exact .of_read (completes.close ']' rfl (by decide) rfl rfl)
  | cons element rest ih =>
      obtain ⟨first, others⟩ := List.forall_mem_cons.mp parts
      have separated := completes.close ',' rfl (by decide) rfl rfl
      have further := (first _ (.array (elements ++ [last]) :: frames) (.inl rfl)).append separated
      have closed := ih others further
      rw [List.append_assoc elements] at closed
      simpa [List.flatMap_cons] using closed

/-- How a member of an object is written. -/
def memberText (member : String × Json) : List Char :=
  (quote member.1).toList ++ ':' :: code member.2

/-- One member is read where its key may stand. -/
theorem completes_member {expected : Expected} {members : List (String × Json)}
    (member : String × Json) (part : ReadBack member.2 (code member.2))
    (keyed : expected.take (.string member.1) = some (.colon members member.1 frames))
    : Completes ⟨.word [], true, expected⟩ (memberText code member) member.2
        (.object members member.1 :: frames) := by
  have named
      : ((quote member.1).toList ++ [':']).foldlM Reader.next ⟨.word [], true, expected⟩
        = some ⟨.word [], true, .value (.object members member.1 :: frames)⟩ := by
    rw [List.foldlM_append, read_quote, keyed]
    rfl
  have read := (part _ (.object members member.1 :: frames) (.inl rfl)).append named
  simpa [memberText] using read

/-- The other members of an object are read, and its end. By induction on the members, which are
in order.
-/
theorem completes_members {rest : List (String × Json)}
    (parts : ∀ member ∈ rest, ReadBack member.2 (code member.2))
    {text : List Char} {members : List (String × Json)} {key : String} {last : Json}
    (listed : Listed (members ++ (key, last) :: rest))
    (completes : Completes reader text last (.object members key :: frames))
    : Completes reader
        (text ++ rest.flatMap (fun member => ',' :: memberText code member) ++ ['\x7d'])
        (.object (members ++ (key, last) :: rest)) frames := by
  induction rest generalizing text members key last with
  | nil =>
      have before : ∀ member ∈ members, precedes member.1 key = true := by
        intro member mem
        exact (List.pairwise_append.mp listed).2.2 member mem _ List.mem_cons_self
      rw [List.flatMap_nil, List.append_nil, ← defineMember_last before]
      exact .of_read (completes.close '\x7d' rfl (by decide) rfl rfl)
  | cons member rest ih =>
      obtain ⟨first, others⟩ := List.forall_mem_cons.mp parts
      have before : ∀ member ∈ members, precedes member.1 key = true := by
        intro member mem
        exact (List.pairwise_append.mp listed).2.2 member mem _ List.mem_cons_self
      have separated
          : (text ++ [',']).foldlM Reader.next reader
            = some ⟨.word [], true, .laterKey (members ++ [(key, last)]) frames⟩ := by
        rw [← defineMember_last before]
        exact completes.close ',' rfl (by decide) rfl rfl
      have further := (completes_member code member first rfl).append separated
      have closed := ih others (by simpa using listed) further
      rw [List.append_assoc members] at closed
      simpa [List.flatMap_cons] using closed

end Parts

end JsonText

namespace Json

variable (numberText : Number → String)

mutual

/-- A value that a text can stand for: its numbers are finite and read back from their numerals,
and the members of its objects are in order.
-/
def Readable : Json → Prop
  | number value =>
      (∃ finite, value = .finite finite)
      ∧ JsonText.numeral? (numberText value).toList = some value
  | array elements => ReadableElements elements
  | object members => Listed members ∧ ReadableMembers members
  | _ => True

def ReadableElements : List Json → Prop
  | [] => True
  | element :: rest => element.Readable ∧ ReadableElements rest

def ReadableMembers : List (String × Json) → Prop
  | [] => True
  | (_, value) :: rest => value.Readable ∧ ReadableMembers rest

end

theorem readableElements_iff {elements : List Json}
    : ReadableElements numberText elements
      ↔ ∀ element ∈ elements, element.Readable numberText := by
  induction elements with
  | nil => simp [ReadableElements]
  | cons element rest ih => simp [ReadableElements, ih]

theorem readableMembers_iff {members : List (String × Json)}
    : ReadableMembers numberText members
      ↔ ∀ member ∈ members, member.2.Readable numberText := by
  induction members with
  | nil => simp [ReadableMembers]
  | cons member rest ih => simp [ReadableMembers, ih]

theorem stringifyElements_eq (elements : List Json)
    : stringifyElements numberText elements = elements.map (stringify numberText) := by
  induction elements with
  | nil => rfl
  | cons element rest ih => rw [stringifyElements, ih, List.map_cons]

theorem stringifyMembers_eq (members : List (String × Json))
    : stringifyMembers numberText members
      = members.map (fun member => quote member.1 ++ ":" ++ member.2.stringify numberText) := by
  induction members with
  | nil => rfl
  | cons member rest ih => rw [stringifyMembers, ih, List.map_cons]

end Json

namespace JsonText

/-- A list of texts with commas between them. -/
theorem separated_toList (first : String) (rest : List String)
    : (",".intercalate (first :: rest)).toList
      = first.toList ++ rest.flatMap (fun text => ',' :: text.toList) := by
  induction rest generalizing first with
  | nil => simp
  | cons next rest ih =>
      rw [String.intercalate_cons_cons, String.toList_append, String.toList_append, ih next]
      simp

theorem stringify_array_cons (numberText : Number → String) (first : Json) (rest : List Json)
    : ((Json.array (first :: rest)).stringify numberText).toList
      = '[' :: ((first.stringify numberText).toList
        ++ rest.flatMap (fun element => ',' :: (element.stringify numberText).toList) ++ [']']) := by
  rw [Json.stringify, Json.stringifyElements_eq, List.map_cons, String.toList_append,
    String.toList_append, separated_toList, List.flatMap_map]
  rfl

theorem stringify_object_cons (numberText : Number → String) (first : String × Json)
    (rest : List (String × Json))
    : ((Json.object (first :: rest)).stringify numberText).toList
      = '\x7b' :: (memberText (fun value => (value.stringify numberText).toList) first
        ++ rest.flatMap (fun member =>
          ',' :: memberText (fun value => (value.stringify numberText).toList) member)
        ++ ['\x7d']) := by
  rw [Json.stringify, Json.stringifyMembers_eq, List.map_cons, String.toList_append,
    String.toList_append, separated_toList, List.flatMap_map]
  simp [memberText]

/-- What `JSON.stringify` writes is read as the value it was given. By parts of the value. -/
theorem readBack_stringify (numberText : Number → String) (value : Json)
    (readable : value.Readable numberText)
    : ReadBack value (value.stringify numberText).toList := by
  induction value using Json.byParts with
  | ofNull => exact readBack_word "null".toList (isWord_of_all rfl) rfl (fun _ => rfl)
  | ofBool value =>
      cases value with
      | true => exact readBack_word "true".toList (isWord_of_all rfl) rfl (fun _ => rfl)
      | false => exact readBack_word "false".toList (isWord_of_all rfl) rfl (fun _ => rfl)
  | ofNumber value =>
      obtain ⟨⟨finite, rfl⟩, read⟩ := readable
      exact readBack_word _ (numeral?_letters read) (word?_numeral read) (fun _ => rfl)
  | ofString text => exact readBack_string text
  | ofArray elements ih =>
      have parts := (Json.readableElements_iff numberText).mp readable
      intro expected frames here
      have opened
          : ['['].foldlM Reader.next ⟨.word [], true, expected⟩
            = some ⟨.word [], true, .firstElement frames⟩ := by
        simp [Reader.next, Reader.endWord, isBlank, punctuation?,
          here.take (show begin frames .openArray = _ from rfl)]
      cases elements with
      | nil =>
          have written : ((Json.array []).stringify numberText).toList = ['['] ++ [']'] := by
            simp [Json.stringify, Json.stringifyElements]
          rw [written]
          exact .append opened (.of_read rfl)
      | cons first rest =>
          rw [stringify_array_cons]
          have firstRead := ih first List.mem_cons_self (parts first List.mem_cons_self)
            (.firstElement frames) (.array [] :: frames) (.inr ⟨frames, rfl, rfl⟩)
          have restRead := completes_elements _
            (fun element listed => ih element (List.mem_cons_of_mem _ listed)
              (parts element (List.mem_cons_of_mem _ listed))) firstRead
          exact Completes.append opened restRead
  | ofObject members ih =>
      obtain ⟨listed, parts⟩ := readable
      rw [Json.readableMembers_iff] at parts
      intro expected frames here
      have opened
          : ['\x7b'].foldlM Reader.next ⟨.word [], true, expected⟩
            = some ⟨.word [], true, .firstKey frames⟩ := by
        simp [Reader.next, Reader.endWord, isBlank, punctuation?,
          here.take (show begin frames .openObject = _ from rfl)]
      cases members with
      | nil =>
          have written : ((Json.object []).stringify numberText).toList = ['\x7b'] ++ ['\x7d'] := by
            simp [Json.stringify, Json.stringifyMembers]
          rw [written]
          exact .append opened (.of_read rfl)
      | cons first rest =>
          rw [stringify_object_cons]
          have firstRead := completes_member (fun value => (value.stringify numberText).toList) first
            (ih first List.mem_cons_self (parts first List.mem_cons_self))
            (show Expected.take (.firstKey frames) _ = _ from rfl)
          have restRead := completes_members (fun value => (value.stringify numberText).toList)
            (fun member mem => ih member (List.mem_cons_of_mem _ mem)
              (parts member (List.mem_cons_of_mem _ mem))) listed firstRead
          rw [← List.singleton_append]
          exact .append opened restRead

end JsonText

/-- `JSON.parse(JSON.stringify(value))` is the value. -/
theorem parseJson_stringify {numberText : Number → String} {value : Json}
    (readable : value.Readable numberText)
    : parseJson (value.stringify numberText) = some (.json value) := by
  obtain ⟨letters, expected, read, ended⟩ :=
    JsonText.readBack_stringify numberText value readable (.value []) [] (.inl rfl)
  have finished
      : JsonText.Reader.finish ⟨.word letters, true, expected⟩ = some (.json value) := by
    rw [JsonText.Reader.finish]
    dsimp only
    rw [ended]
    rfl
  rw [parseJson, JsonText.start, read]
  exact finished

-----------------------------------------------------------------------------------------
-- A text is longer than the string it tells
-----------------------------------------------------------------------------------------

namespace JsonText

/-- How many code units of a text a unit takes up at most. -/
def width (unit : Nat) : Nat :=
  if unit < 0x10000 then 1 else 2

def widths (units : List Nat) : Nat :=
  (units.map width).sum

theorem widths_append (units more : List Nat)
    : widths (units ++ more) = widths units + widths more := by
  rw [widths, List.map_append, List.sum_append]
  rfl

theorem one_le_width (unit : Nat) : 1 ≤ width unit := by
  unfold width
  split <;> omega

theorem width_le_two (unit : Nat) : width unit ≤ 2 := by
  unfold width
  split <;> omega

theorem widths_unitsOf (char : Char) : widths (unitsOf char) = (unitsOf char).length := by
  have valid : char.toNat.isValidChar := char.valid
  simp only [Nat.isValidChar] at valid
  unfold unitsOf widths width
  split
  · next basic => simp [basic]
  · have high : 0xd800 + (char.toNat - 0x10000) / 0x400 < 0x10000 := by omega
    have low : 0xdc00 + (char.toNat - 0x10000) % 0x400 < 0x10000 := by omega
    simp [high, low]

theorem unitsOf_length_le (char : Char) : (unitsOf char).length ≤ 2 := by
  unfold unitsOf
  split <;> simp

theorem unitsOf_ofNat_length_le (unit : Nat) : (unitsOf (Char.ofNat unit)).length ≤ width unit := by
  unfold width
  split
  · next basic =>
      have small : (Char.ofNat unit).toNat < 0x10000 := by
        by_cases isChar : unit.isValidChar
        · rw [Char.ofNat, dif_pos isChar]
          exact basic
        · rw [Char.ofNat, dif_neg isChar]
          decide
      rw [unitsOf, if_pos small]
      exact le_rfl
  · exact unitsOf_length_le _

/-- The characters take up no more than their code units. By induction along the pairs. -/
theorem charsOf_length_le {units : List Nat} {chars : List Char}
    (read : charsOf units = some chars)
    : (chars.flatMap unitsOf).length ≤ widths units := by
  induction units using charsOf.induct generalizing chars with
  | case1 =>
      cases read
      exact le_rfl
  | case2 unit surrogate =>
      rw [charsOf, if_pos surrogate] at read
      contradiction
  | case3 unit basic =>
      rw [charsOf, if_neg basic] at read
      cases read
      simpa [widths] using unitsOf_ofNat_length_le unit
  | case4 unit low rest pair ih =>
      rw [charsOf, if_pos pair] at read
      obtain ⟨others, told, rfl⟩ := Option.map_eq_some_iff.mp read
      have further := ih told
      have first := unitsOf_length_le
        (Char.ofNat (0x10000 + 0x400 * (unit - 0xd800) + (low - 0xdc00)))
      have high := one_le_width unit
      have second := one_le_width low
      simp only [List.flatMap_cons, List.length_append, widths, List.map_cons, List.sum_cons]
        at further ⊢
      omega
  | case5 unit low rest noPair surrogate =>
      rw [charsOf, if_neg noPair, if_pos surrogate] at read
      contradiction
  | case6 unit low rest noPair basic ih =>
      rw [charsOf, if_neg noPair, if_neg basic] at read
      obtain ⟨others, told, rfl⟩ := Option.map_eq_some_iff.mp read
      have further := ih told
      have first := unitsOf_ofNat_length_le unit
      simp only [List.flatMap_cons, List.length_append, widths, List.map_cons, List.sum_cons]
        at further ⊢
      omega

/-- A value that has been read as a whole and is a string takes up less than has been read. -/
def Expected.Within (read : Nat) : Expected → Prop
  | .afterValue (.string text) [] => (codeUnits text).length < read
  | _ => True

def Place.Within (read : Nat) : Place → Prop
  | .word _ => True
  | .string units => widths units < read
  | .escape units => widths units + 1 < read
  | .escapedUnit units _ => widths units + 2 < read

/-- How much of the text has been read bounds what is known of its strings. -/
def Reader.Within (read : Nat) (reader : Reader) : Prop :=
  reader.place.Within read ∧ reader.expected.Within read

theorem Expected.Within.mono {expected : Expected} {read more : Nat} (order : read ≤ more)
    (within : expected.Within read)
    : expected.Within more := by
  unfold Expected.Within at within ⊢
  split <;> simp_all
  omega

theorem Place.Within.mono {place : Place} {read more : Nat} (order : read ≤ more)
    (within : place.Within read)
    : place.Within more := by
  cases place with
  | word letters => trivial
  | string units => exact Nat.lt_of_lt_of_le within order
  | escape units => exact Nat.lt_of_lt_of_le within order
  | escapedUnit units digits => exact Nat.lt_of_lt_of_le within order

theorem Reader.Within.mono {reader : Reader} {read more : Nat} (order : read ≤ more)
    (within : reader.Within read)
    : reader.Within more :=
  ⟨within.1.mono order, within.2.mono order⟩

/-- Only a string token is a string as a whole. -/
theorem Expected.take_within {expected after : Expected} {token : JsonToken} {read : Nat}
    (taken : expected.take token = some after)
    (short : ∀ text, token = .string text → (codeUnits text).length < read)
    : after.Within read := by
  have begun {frames : List Frame} (begun : begin frames token = some after)
      : after.Within read := by
    cases token with
    | string text =>
        cases begun
        cases frames with
        | nil => exact short text rfl
        | cons frame frames => trivial
    | _ => first | contradiction | (cases begun; trivial)
  unfold Expected.take at taken
  split at taken
  all_goals first | exact begun taken | contradiction | (cases taken; trivial)

theorem word?_ne_string (letters : List Char) (text : String)
    : word? letters ≠ some (.string text) := by
  unfold word?
  split_ifs <;> simp

theorem punctuation?_ne_string (char : Char) (text : String)
    : punctuation? char ≠ some (.string text) := by
  unfold punctuation?
  split_ifs <;> simp

theorem Reader.endWord_within {reader after : Reader} {letters : List Char} {read more : Nat}
    (order : read ≤ more) (within : reader.Within read) (isWord : reader.place = .word letters)
    (ended : reader.endWord letters = some after)
    : after.Within more ∧ ∃ letters, after.place = .word letters := by
  unfold Reader.endWord at ended
  split at ended
  · cases ended
    refine ⟨⟨?_, within.2.mono order⟩, letters, isWord⟩
    rw [isWord]
    trivial
  · obtain ⟨token, word, ended⟩ := Option.bind_eq_some_iff.mp ended
    obtain ⟨expected, taken, rfl⟩ := Option.map_eq_some_iff.mp ended
    refine ⟨⟨trivial, Expected.take_within taken ?_⟩, [], rfl⟩
    rintro text rfl
    exact absurd word (word?_ne_string letters text)

theorem Reader.endString_within {reader after : Reader} {units : List Nat} {read : Nat}
    (short : widths units < read) (ended : reader.endString units = some after)
    : after.Within (read + 1) := by
  unfold Reader.endString at ended
  split at ended
  · next chars told =>
      obtain ⟨expected, taken, rfl⟩ := Option.map_eq_some_iff.mp ended
      refine ⟨trivial, Expected.take_within taken ?_⟩
      rintro text ⟨⟩
      have narrow := charsOf_length_le told
      rw [codeUnits_eq, String.toList_ofList]
      omega
  · obtain ⟨expected, taken, rfl⟩ := Option.map_eq_some_iff.mp ended
    refine ⟨trivial, Expected.take_within taken ?_⟩
    rintro text ⟨⟩
    exact Nat.succ_pos read

/-- Each character that is read widens the bound by its code units. -/
theorem Reader.next_within {reader after : Reader} {char : Char} {read : Nat}
    (within : reader.Within read) (next : reader.next char = some after)
    : after.Within (read + (unitsOf char).length) := by
  have wider : 1 ≤ (unitsOf char).length := by
    exact List.length_pos_iff.mpr (unitsOf_selfDelimiting.nonempty char)
  have later : reader.expected.Within (read + (unitsOf char).length) :=
    within.2.mono (Nat.le_add_right _ _)
  unfold Reader.next at next
  split at next
  · next letters place =>
      have ended {middle : Reader} (ends : reader.endWord letters = some middle)
          : middle.Within (read + (unitsOf char).length)
            ∧ ∃ letters, middle.place = .word letters :=
        reader.endWord_within (Nat.le_add_right _ _) within place ends
      split at next
      · exact (ended next).1
      · split at next
        · obtain ⟨middle, ends, rfl⟩ := Option.map_eq_some_iff.mp next
          refine ⟨?_, (ended ends).1.2⟩
          have start : widths [] < read + (unitsOf char).length := by
            simp only [widths, List.map_nil, List.sum_nil]
            omega
          exact start
        · split at next
          · next token punctuation =>
              obtain ⟨middle, ends, next⟩ := Option.bind_eq_some_iff.mp next
              obtain ⟨expected, taken, rfl⟩ := Option.map_eq_some_iff.mp next
              refine ⟨(ended ends).1.1, Expected.take_within taken ?_⟩
              rintro text rfl
              exact absurd punctuation (punctuation?_ne_string char text)
          · cases next
            exact ⟨trivial, later⟩
  · next units place =>
      have short : widths units < read := by
        have here := within.1
        rwa [place] at here
      split at next
      · have ends := reader.endString_within short next
        exact ends.mono (Nat.add_le_add_left wider read)
      · split at next
        · cases next
          refine ⟨?_, later⟩
          have escape : widths units + 1 < read + (unitsOf char).length := by omega
          exact escape
        · split at next
          · contradiction
          · cases next
            refine ⟨?_, later⟩
            have longer : widths (units ++ unitsOf char) < read + (unitsOf char).length := by
              rw [widths_append, widths_unitsOf]
              omega
            exact longer
  · next units place =>
      have short : widths units + 1 < read := by
        have here := within.1
        rwa [place] at here
      split at next
      · cases next
        refine ⟨?_, later⟩
        have escaped : widths units + 2 < read + (unitsOf char).length := by omega
        exact escaped
      · obtain ⟨unit, told, rfl⟩ := Option.map_eq_some_iff.mp next
        refine ⟨?_, later⟩
        have narrow := width_le_two unit
        have longer : widths (units ++ [unit]) < read + (unitsOf char).length := by
          rw [widths_append]
          simp only [widths, List.map_cons, List.map_nil, List.sum_cons, List.sum_nil] at short ⊢
          omega
        exact longer
  · next units digits place =>
      have short : widths units + 2 < read := by
        have here := within.1
        rwa [place] at here
      obtain ⟨digit, _, rfl⟩ := Option.map_eq_some_iff.mp next
      split
      · refine ⟨?_, later⟩
        have longer : widths units + 2 < read + (unitsOf char).length := by omega
        exact longer
      · refine ⟨?_, later⟩
        have narrow := width_le_two ((digits ++ [digit]).foldl (16 * · + ·) 0)
        have longer
            : widths (units ++ [(digits ++ [digit]).foldl (16 * · + ·) 0])
              < read + (unitsOf char).length := by
          rw [widths_append]
          simp only [widths, List.map_cons, List.map_nil, List.sum_cons, List.sum_nil]
            at short narrow ⊢
          omega
        exact longer

/-- So the whole text bounds the string. By induction on the text. -/
theorem Reader.read_within {reader after : Reader} {chars : List Char} {read : Nat}
    (within : reader.Within read) (done : chars.foldlM Reader.next reader = some after)
    : after.Within (read + (chars.flatMap unitsOf).length) := by
  induction chars generalizing reader read with
  | nil =>
      cases done
      simpa using within
  | cons char rest ih =>
      rw [List.foldlM_cons] at done
      obtain ⟨middle, next, done⟩ := Option.bind_eq_some_iff.mp done
      have further := ih (reader.next_within within next) done
      rwa [Nat.add_assoc, ← List.length_append, ← List.flatMap_cons] at further

end JsonText

/-- No text is read as itself: a string that it tells is shorter. -/
theorem parseJson_ne_self (text : String) : parseJson text ≠ some (.json (.string text)) := by
  intro told
  obtain ⟨reader, read, finished⟩ := Option.bind_eq_some_iff.mp told
  have initial : JsonText.start.Within 0 := ⟨trivial, trivial⟩
  have within := JsonText.Reader.read_within initial read
  unfold JsonText.Reader.finish at finished
  split at finished
  · next letters place =>
      obtain ⟨after, ends, finished⟩ := Option.bind_eq_some_iff.mp finished
      have bound := (reader.endWord_within le_rfl within place ends).1.2
      split at finished
      · next value expected =>
          split at finished
          · cases finished
            rw [expected] at bound
            have shorter
                : (codeUnits text).length < 0 + (text.toList.flatMap unitsOf).length :=
              bound
            rw [codeUnits_eq] at shorter
            omega
          · cases finished
      · contradiction
  · contradiction

end QueueForge.Js
