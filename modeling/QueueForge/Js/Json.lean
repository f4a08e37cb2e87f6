import QueueForge.Js.Text
import QueueForge.Js.Values

/-! JSON values: how the program reads, compares and writes them.
How the language spells a number is left to a parameter.
-/

namespace QueueForge.Js

/-- A JSON value. The keys of an object are distinct. -/
inductive Json where
  | null
  | bool (value : Bool)
  | number (value : Number)
  | string (value : String)
  | array (elements : List Json)
  | object (members : List (String × Json))

/-- `left === right` for two numbers. -/
def Number.strictEqual (left right : Number) : Bool :=
  decide (left = right) && decide (left ≠ .nan)

namespace Json

/-- `value[key]` as an own member of an object; `none` stands for `undefined`. -/
def member? : Json → String → Option Json
  | object members, key => members.lookup key
  | _, _ => none

def truthy : Json → Bool
  | null => false
  | bool value => value
  | number value => value.truthy
  | string value => decide (value ≠ "")
  | array _ => true
  | object _ => true

/-- `left === right`. Values that come from different places never share an array or an
object, and these are equal to nothing else.
-/
def strictEqual : Json → Json → Bool
  | null, null => true
  | bool left, bool right => decide (left = right)
  | number left, number right => left.strictEqual right
  | string left, string right => decide (left = right)
  | _, _ => false

mutual

/-- `JSON.stringify(value)`. -/
def stringify (numberText : Number → String) : Json → String
  | null => "null"
  | bool value => if value then "true" else "false"
  | number (.finite value) => numberText (.finite value)
  | number _ => "null"
  | string value => quote value
  | array elements => "[" ++ ",".intercalate (stringifyElements numberText elements) ++ "]"
  | object members =>
      "\x7b" ++ ",".intercalate (stringifyMembers numberText members) ++ "\x7d"

def stringifyElements (numberText : Number → String) : List Json → List String
  | [] => []
  | element :: rest =>
      element.stringify numberText :: stringifyElements numberText rest

def stringifyMembers (numberText : Number → String) : List (String × Json) → List String
  | [] => []
  | (key, value) :: rest =>
      (quote key ++ ":" ++ value.stringify numberText) :: stringifyMembers numberText rest

end

mutual

/-- `String(value)`, the text a pattern tests when it is given any other value. -/
def text (numberText : Number → String) : Json → String
  | null => "null"
  | bool value => if value then "true" else "false"
  | number value => numberText value
  | string value => value
  | array elements => ",".intercalate (elementTexts numberText elements)
  | object _ => "[object Object]"

/-- The elements of an array in its text, where `null` is left empty. -/
def elementTexts (numberText : Number → String) : List Json → List String
  | [] => []
  | null :: rest => "" :: elementTexts numberText rest
  | element :: rest => element.text numberText :: elementTexts numberText rest

end

/-- Only a value that is no array and no object equals itself, `NaN` aside. -/
def isComparable : Json → Bool
  | number value => decide (value ≠ .nan)
  | array _ => false
  | object _ => false
  | _ => true

/-- Two values are identical when they are the same comparable value. -/
theorem strictEqual_iff {left right : Json}
    : left.strictEqual right = true ↔ left = right ∧ left.isComparable = true := by
  cases left <;> cases right <;> simp [strictEqual, isComparable, Number.strictEqual]

end Json

/-- `members[key] === value`. -/
def hasMember (members : List (String × Json)) (key : String) (value : Json) : Bool :=
  match members.lookup key with
  | some member => member.strictEqual value
  | none => false

/-- A member is strictly equal to a comparable value it is the same as. -/
theorem hasMember_iff {members : List (String × Json)} {key : String} {value : Json}
    : hasMember members key value = true
      ↔ members.lookup key = some value ∧ value.isComparable = true := by
  unfold hasMember
  cases members.lookup key with
  | none => exact iff_of_false Bool.false_ne_true (fun both => nomatch both.1)
  | some member =>
      dsimp only
      rw [Json.strictEqual_iff, Option.some.injEq]
      refine and_congr_right (fun same => ?_)
      rw [same]

end QueueForge.Js
