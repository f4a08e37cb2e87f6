import QueueForge.Async.Program
import QueueForge.Js.DateTime
import QueueForge.Js.Errors
import QueueForge.Js.Json

/-! `JobSerializer`: job data as the program holds them, with dates, and the records a queue stores.
Both directions clone member by member. A member called `__proto__` is no member of the clone but
its prototype.
-/

namespace QueueForge.Queue

open QueueForge.Async QueueForge.Js

/-- A value of job data in the program. An object knows the members it inherits; a member that is
`undefined` is left out.
-/
inductive JobValue where
  | null
  | bool (value : Bool)
  | number (value : Number)
  | string (value : String)
  | date (value : Date)
  | array (items : List JobValue)
  | object (members inherited : List (String × JobValue))

/-- What a queue stores as the data of a job. -/
abbrev JobRecord : Type := List (String × Json)

/-- `JobData`: the members of an object. -/
structure JobData where
  members : List (String × JobValue)
  inherited : List (String × JobValue) := []

def JobData.value (data : JobData) : JobValue :=
  .object data.members data.inherited

/-- `value[key]`; `none` stands for `undefined`. -/
def JobValue.get (value : JobValue) (key : String) : Option JobValue :=
  match value with
  | object members inherited => (members ++ inherited).lookup key
  | _ => none

/-- The members an object keeps when they are assigned one by one. -/
def ownMembers {α : Type} (cloned : List (String × α)) : List (String × α) :=
  cloned.filter (fun member => member.1 ≠ "__proto__")

/-- The members an object inherits after they are assigned one by one. -/
def inheritedMembers (cloned : List (String × JobValue)) : List (String × JobValue) :=
  match cloned.lookup "__proto__" with
  | some (.object members inherited) => members ++ inherited
  | _ => []

namespace JobSerializer

/-- A text in the format of `toISOString` becomes a date, which may be invalid. -/
def parseText (text : String) : JobValue :=
  match isoFields text with
  | some fields => .date fields.date
  | none => .string text

mutual

def deepCloneAndParseDates : Json → JobValue
  | .null => .null
  | .bool value => .bool value
  | .number value => .number value
  | .string text => parseText text
  | .array elements => .array (parseElements elements)
  | .object members =>
      .object (ownMembers (parseMembers members)) (inheritedMembers (parseMembers members))

def parseElements : List Json → List JobValue
  | [] => []
  | element :: rest => deepCloneAndParseDates element :: parseElements rest

def parseMembers : List (String × Json) → List (String × JobValue)
  | [] => []
  | (key, value) :: rest => (key, deepCloneAndParseDates value) :: parseMembers rest

end

mutual

/-- An invalid date throws. -/
def deepCloneAndConvertDates : JobValue → Except Thrown Json
  | .null => .ok .null
  | .bool value => .ok (.bool value)
  | .number value => .ok (.number value)
  | .string text => .ok (.string text)
  | .date (some time) => .ok (.string (toISOString time))
  | .date none => .error (.error (builtinError .error "RangeError" "Invalid time value"))
  | .array items => do
      let elements ← convertItems items
      return .array elements
  | .object members _ => do
      let cloned ← convertMembers members
      return .object (ownMembers cloned)

def convertItems : List JobValue → Except Thrown (List Json)
  | [] => .ok []
  | item :: rest => do
      let element ← deepCloneAndConvertDates item
      let elements ← convertItems rest
      return element :: elements

def convertMembers : List (String × JobValue) → Except Thrown JobRecord
  | [] => .ok []
  | (key, value) :: rest => do
      let value ← deepCloneAndConvertDates value
      let members ← convertMembers rest
      return (key, value) :: members

end

/-- Serializes a JobData object, converting Date objects to ISO strings. -/
def serialize (jobData : JobData) : Except Thrown JobRecord := do
  let cloned ← convertMembers jobData.members
  return ownMembers cloned

/-- Deserializes a record back to JobData, converting date-like ISO strings to Date objects where
applicable.
-/
def deserialize : Option JobRecord → Except Thrown JobData
  | none => .error (.error (validationError "Job data record is empty or invalid."))
  | some record =>
      .ok ⟨ownMembers (parseMembers record), inheritedMembers (parseMembers record)⟩

/-- `typeof value === 'object'`, and not `null`. -/
def isObject : JobValue → Bool
  | .date _ => true
  | .array _ => true
  | .object _ _ => true
  | _ => false

/-- Asserts the validity of JobData schemas. -/
def validateJobData (data : JobValue) : Except Thrown Unit := do
  if !isObject data then
    throw (.error (validationError "Job data must be a valid object."))
  match data.get "deliveryId" with
  | some (.string deliveryId) =>
      if trim deliveryId = "" then
        throw (.error (validationError "Job data requires a non-empty string deliveryId."))
  | _ => throw (.error (validationError "Job data requires a non-empty string deliveryId."))
  if (data.get "payload").isNone then
    throw (.error (validationError "Job data requires a valid payload."))

-----------------------------------------------------------------------------------------
-- What a record becomes when it is read and written again
-----------------------------------------------------------------------------------------

mutual

/-- Every date in a value can be written. -/
def writable : Json → Bool
  | .string text => (isoFields text).all (fun fields => fields.date.isSome)
  | .array elements => writableElements elements
  | .object members => writableMembers members
  | _ => true

def writableElements : List Json → Bool
  | [] => true
  | element :: rest => writable element && writableElements rest

def writableMembers : List (String × Json) → Bool
  | [] => true
  | (key, value) :: rest => (key = "__proto__" || writable value) && writableMembers rest

end

mutual

/-- Every date in a value is written as it was, and no member is called `__proto__`. -/
def restorable : Json → Bool
  | .string text =>
      (isoFields text).all (fun fields => fields.date.map toISOString = some text)
  | .array elements => restorableElements elements
  | .object members => restorableMembers members
  | _ => true

def restorableElements : List Json → Bool
  | [] => true
  | element :: rest => restorable element && restorableElements rest

def restorableMembers : List (String × Json) → Bool
  | [] => true
  | (key, value) :: rest => key ≠ "__proto__" && restorable value && restorableMembers rest

end

/-- A value read and written again. -/
def copy (value : Json) : Except Thrown Json :=
  deepCloneAndConvertDates (deepCloneAndParseDates value)

/-- The members of a record read and written again. -/
def copyMembers (record : JobRecord) : Except Thrown JobRecord :=
  convertMembers (ownMembers (parseMembers record))

theorem copyMembers_cons_proto (value : Json) (rest : JobRecord)
    : copyMembers (("__proto__", value) :: rest) = copyMembers rest := by
  rw [copyMembers, parseMembers, ownMembers, List.filter_cons_of_neg (by simp), copyMembers,
    ownMembers]

theorem copyMembers_cons {key : String} (own : key ≠ "__proto__") (value : Json) (rest : JobRecord)
    : copyMembers ((key, value) :: rest) = do
        let value ← copy value
        let members ← copyMembers rest
        return (key, value) :: members := by
  rw [copyMembers, parseMembers, ownMembers, List.filter_cons_of_pos (by simpa using own),
    convertMembers, copyMembers, ownMembers, copy]

/-- The keys of a copy are those of the record, less `__proto__`. By induction on the record. -/
theorem keys_copyMembers {record copied : JobRecord} (written : copyMembers record = .ok copied)
    : copied.map Prod.fst = (ownMembers record).map Prod.fst := by
  induction record generalizing copied with
  | nil =>
      cases written
      rfl
  | cons member rest ih =>
      obtain ⟨key, value⟩ := member
      by_cases own : key = "__proto__"
      · subst own
        rw [copyMembers_cons_proto] at written
        rw [ih written, ownMembers, ownMembers, List.filter_cons_of_neg (by simp)]
      · rw [copyMembers_cons own] at written
        obtain ⟨copiedValue, _, written⟩ := Settled.bind_eq_ok.mp written
        obtain ⟨others, restWritten, written⟩ := Settled.bind_eq_ok.mp written
        cases written
        rw [ownMembers, List.filter_cons_of_pos (by simpa using own), List.map_cons, List.map_cons,
          ih restWritten, ownMembers]

theorem ownMembers_copied {record copied : JobRecord} (written : copyMembers record = .ok copied)
    : ownMembers copied = copied := by
  refine List.filter_eq_self.mpr (fun member found => ?_)
  have key : member.1 ∈ (ownMembers record).map Prod.fst :=
    keys_copyMembers written ▸ List.mem_map_of_mem found
  obtain ⟨other, own, same⟩ := List.mem_map.mp key
  rw [← same]
  exact (List.mem_filter.mp own).2

theorem copy_object (members : JobRecord)
    : copy (.object members) = (copyMembers members).map Json.object := by
  have unfolded
      : copy (.object members) = do
          let cloned ← copyMembers members
          return .object (ownMembers cloned) := by
    rw [copy, deepCloneAndParseDates, deepCloneAndConvertDates, copyMembers]
  rw [unfolded]
  cases written : copyMembers members with
  | error error => rfl
  | ok copied =>
      have same := ownMembers_copied written
      exact congrArg (fun members => Except.ok (Json.object members)) same

theorem copy_array (elements : List Json)
    : copy (.array elements) = (convertItems (parseElements elements)).map Json.array := by
  rw [copy, deepCloneAndParseDates, deepCloneAndConvertDates]
  cases convertItems (parseElements elements) <;> rfl

theorem convert_date (date : Date)
    : deepCloneAndConvertDates (.date date)
      = match date with
        | some time => .ok (.string (toISOString time))
        | none => .error (.error (builtinError .error "RangeError" "Invalid time value")) := by
  cases date <;> rfl

theorem copy_string (text : String)
    : copy (.string text)
      = match isoFields text with
        | none => .ok (.string text)
        | some fields => deepCloneAndConvertDates (.date fields.date) := by
  rw [copy, deepCloneAndParseDates, parseText]
  cases isoFields text <;> rfl

theorem copy_string_ok_iff (text : String)
    : (∃ copied, copy (.string text) = .ok copied) ↔ writable (.string text) = true := by
  rw [copy_string, writable]
  cases isoFields text with
  | none => simp
  | some fields =>
      simp only [convert_date, Option.all_some]
      cases fields.date <;> simp

theorem copy_string_self_iff (text : String)
    : copy (.string text) = .ok (.string text) ↔ restorable (.string text) = true := by
  rw [copy_string, restorable]
  cases isoFields text with
  | none => simp
  | some fields =>
      simp only [convert_date, Option.all_some]
      cases fields.date <;> simp

section
variable {α β : Type} (result : Except Thrown α) (others : Except Thrown (List β))
  (change : α → β)

theorem map_isOk : (∃ value, result.map change = .ok value) ↔ ∃ value, result = .ok value := by
  cases result <;> simp [Except.map]

theorem map_eq_ok (injective : Function.Injective change) (value : α)
    : result.map change = .ok (change value) ↔ result = .ok value := by
  cases result <;> simp [Except.map, injective.eq_iff]

/-- A list is written when its first element and the others are. -/
theorem cons_isOk
    : (∃ values,
        (do
          let value ← result
          let rest ← others
          return change value :: rest)
        = .ok values)
      ↔ (∃ value, result = .ok value) ∧ ∃ rest, others = .ok rest := by
  cases result <;> cases others <;> simp [bind, Except.bind, pure, Except.pure]

theorem cons_eq_ok (value : β) (rest : List β)
    : (do
        let value ← result
        let rest ← others
        return change value :: rest)
        = .ok (value :: rest)
      ↔ (∃ before, result = .ok before ∧ change before = value) ∧ others = .ok rest := by
  cases result <;> cases others <;> simp [bind, Except.bind, pure, Except.pure]

end

mutual

/-- A value can be written again if and only if every date in it can, by induction on the value.
-/
theorem copy_ok_iff
    : (value : Json) → ((∃ copied, copy value = .ok copied) ↔ writable value = true)
  | .null => by simp [copy, deepCloneAndParseDates, deepCloneAndConvertDates, writable]
  | .bool _ => by simp [copy, deepCloneAndParseDates, deepCloneAndConvertDates, writable]
  | .number _ => by simp [copy, deepCloneAndParseDates, deepCloneAndConvertDates, writable]
  | .string text => copy_string_ok_iff text
  | .array elements => by
      rw [copy_array, writable, map_isOk]
      exact copyElements_ok_iff elements
  | .object members => by
      rw [copy_object, writable, map_isOk]
      exact copyMembers_ok_iff members

theorem copyElements_ok_iff
    : (elements : List Json)
      → ((∃ copied, convertItems (parseElements elements) = .ok copied)
        ↔ writableElements elements = true)
  | [] => by simp [parseElements, convertItems, writableElements]
  | element :: rest => by
      rw [parseElements, convertItems, writableElements, Bool.and_eq_true, ← copy_ok_iff element,
        ← copyElements_ok_iff rest]
      exact cons_isOk (copy element) (convertItems (parseElements rest)) id

theorem copyMembers_ok_iff
    : (members : JobRecord)
      → ((∃ copied, copyMembers members = .ok copied) ↔ writableMembers members = true)
  | [] => by simp [copyMembers, parseMembers, ownMembers, convertMembers, writableMembers]
  | (key, value) :: rest => by
      have others := copyMembers_ok_iff rest
      by_cases own : key = "__proto__"
      · subst own
        rw [copyMembers_cons_proto, writableMembers, others]
        simp
      · rw [copyMembers_cons own, writableMembers, Bool.and_eq_true, ← others]
        simp only [own, decide_false, Bool.false_or, ← copy_ok_iff value]
        exact cons_isOk (copy value) (copyMembers rest) (fun value => (key, value))

end

mutual

/-- A value is the same when it is written again if and only if every date in it is, and none of
its members is called `__proto__`. By induction on the value.
-/
theorem copy_self_iff : (value : Json) → (copy value = .ok value ↔ restorable value = true)
  | .null => by simp [copy, deepCloneAndParseDates, deepCloneAndConvertDates, restorable]
  | .bool _ => by simp [copy, deepCloneAndParseDates, deepCloneAndConvertDates, restorable]
  | .number _ => by simp [copy, deepCloneAndParseDates, deepCloneAndConvertDates, restorable]
  | .string text => copy_string_self_iff text
  | .array elements => by
      rw [copy_array, restorable, map_eq_ok _ _ (fun _ _ same => Json.array.inj same)]
      exact copyElements_self_iff elements
  | .object members => by
      rw [copy_object, restorable, map_eq_ok _ _ (fun _ _ same => Json.object.inj same)]
      exact copyMembers_self_iff members

theorem copyElements_self_iff
    : (elements : List Json)
      → (convertItems (parseElements elements) = .ok elements ↔ restorableElements elements = true)
  | [] => by simp [parseElements, convertItems, restorableElements]
  | element :: rest => by
      rw [parseElements, convertItems, restorableElements, Bool.and_eq_true,
        ← copy_self_iff element, ← copyElements_self_iff rest]
      have both := cons_eq_ok (copy element) (convertItems (parseElements rest)) id element rest
      simp only [id, exists_eq_right] at both
      exact both

theorem copyMembers_self_iff
    : (members : JobRecord) → (copyMembers members = .ok members ↔ restorableMembers members = true)
  | [] => by simp [copyMembers, parseMembers, ownMembers, convertMembers, restorableMembers]
  | (key, value) :: rest => by
      by_cases own : key = "__proto__"
      · subst own
        rw [restorableMembers]
        simp only [ne_eq, not_true_eq_false, decide_false, Bool.false_and, Bool.false_eq_true,
          iff_false]
        intro written
        have kept := ownMembers_copied written
        rw [ownMembers, List.filter_cons_of_neg (by simp)] at kept
        have shorter := List.length_filter_le (fun member => member.1 ≠ "__proto__") rest
        rw [kept, List.length_cons] at shorter
        omega
      · rw [copyMembers_cons own, restorableMembers]
        simp only [ne_eq, own, not_false_eq_true, decide_true, Bool.true_and, Bool.and_eq_true,
          ← copy_self_iff value, ← copyMembers_self_iff rest]
        have both := cons_eq_ok (copy value) (copyMembers rest) (fun value => (key, value))
          (key, value) rest
        simpa only [Prod.mk.injEq, true_and, exists_eq_right] using both

end

end JobSerializer

end QueueForge.Queue
