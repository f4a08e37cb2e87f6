import QueueForge.Js.IsoDates
import QueueForge.Queue.ManagerEffects

/-! Job data that a queue stores and gives back, and records that are read and stored again. -/

namespace QueueForge.Queue.JobSerializer
open QueueForge.Async QueueForge.Js

/-- Job data after it was stored as a record and read back. -/
def restored (data : JobData) : Except Thrown JobData := do
  let record ← serialize data
  deserialize (some record)

/-- A record after it was read and stored again. -/
def rewritten (record : JobRecord) : Except Thrown JobRecord := do
  let data ← deserialize (some record)
  serialize data

mutual

/-- A value of JSON values and of dates whose years have four digits. Its objects are plain ones,
and no member is called `__proto__`.
-/
def plain : JobValue → Bool
  | .date date => date.any (fun time => HasFourDigitYear time)
  | .array items => plainItems items
  | .object members inherited => inherited.isEmpty && plainMembers members
  | _ => true

def plainItems : List JobValue → Bool
  | [] => true
  | item :: rest => plain item && plainItems rest

def plainMembers : List (String × JobValue) → Bool
  | [] => true
  | (key, value) :: rest => key ≠ "__proto__" && plain value && plainMembers rest

end

mutual

/-- A value with the date in place of every text in the format of `toISOString`. -/
def revived : JobValue → JobValue
  | .string text => parseText text
  | .array items => .array (revivedItems items)
  | .object members inherited => .object (revivedMembers members) inherited
  | value => value

def revivedItems : List JobValue → List JobValue
  | [] => []
  | item :: rest => revived item :: revivedItems rest

def revivedMembers : List (String × JobValue) → List (String × JobValue)
  | [] => []
  | (key, value) :: rest => (key, revived value) :: revivedMembers rest

end

mutual

/-- No text in a value has the format of `toISOString`. -/
def undated : JobValue → Bool
  | .string text => (isoFields text).isNone
  | .array items => undatedItems items
  | .object members _ => undatedMembers members
  | _ => true

def undatedItems : List JobValue → Bool
  | [] => true
  | item :: rest => undated item && undatedItems rest

def undatedMembers : List (String × JobValue) → Bool
  | [] => true
  | (_, value) :: rest => undated value && undatedMembers rest

end

-----------------------------------------------------------------------------------------
-- What is stored is read back
-----------------------------------------------------------------------------------------

/-- A date is stored as a text that is read back as the date. -/
theorem parseText_toISOString {time : Int} (short : HasFourDigitYear time)
    : parseText (toISOString time) = .date (some time) := by
  rw [parseText, isoFields_toISOString short]
  exact congrArg JobValue.date (date_fieldsOf short.1)

/-- No member is lost where none is called `__proto__`. By induction on the members. -/
theorem ownMembers_converted {members : List (String × JobValue)} {record : JobRecord}
    (isPlain : plainMembers members = true) (converted : convertMembers members = .ok record)
    : ownMembers record = record := by
  induction members generalizing record with
  | nil =>
      cases converted
      rfl
  | cons member rest ih =>
      obtain ⟨key, value⟩ := member
      simp only [plainMembers, Bool.and_eq_true, decide_eq_true_eq] at isPlain
      obtain ⟨json, _, converted⟩ := Settled.bind_eq_ok.mp converted
      obtain ⟨others, restConverted, converted⟩ := Settled.bind_eq_ok.mp converted
      cases converted
      rw [ownMembers, List.filter_cons_of_pos (by simpa using isPlain.1.1)]
      exact congrArg _ (ih isPlain.2 restConverted)

/-- Members none of which is called `__proto__` are all kept, and nothing is inherited. By induction
on the members.
-/
theorem revivedMembers_own {members : List (String × JobValue)}
    (isPlain : plainMembers members = true)
    : ownMembers (revivedMembers members) = revivedMembers members
      ∧ inheritedMembers (revivedMembers members) = [] := by
  induction members with
  | nil => exact ⟨rfl, rfl⟩
  | cons member rest ih =>
      obtain ⟨key, value⟩ := member
      simp only [plainMembers, Bool.and_eq_true, decide_eq_true_eq] at isPlain
      have ⟨kept, bare⟩ := ih isPlain.2
      have named : ("__proto__" == key) = false := by simpa using Ne.symm isPlain.1.1
      constructor
      · rw [revivedMembers, ownMembers, List.filter_cons_of_pos (by simpa using isPlain.1.1)]
        exact congrArg _ kept
      · rw [revivedMembers, inheritedMembers, List.lookup_cons, named]
        exact bare

mutual

/-- A plain value is stored without an error, and what is stored is read back as the value with its
texts revived. By induction on the value.
-/
theorem parse_convert
    : (value : JobValue) → plain value = true
      → ∃ json, deepCloneAndConvertDates value = .ok json
          ∧ deepCloneAndParseDates json = revived value
  | .null, _ => ⟨.null, rfl, rfl⟩
  | .bool value, _ => ⟨.bool value, rfl, rfl⟩
  | .number value, _ => ⟨.number value, rfl, rfl⟩
  | .string text, _ => ⟨.string text, rfl, rfl⟩
  | .date none, isPlain => by simp [plain] at isPlain
  | .date (some time), isPlain => by
      rw [plain, Option.any_some, decide_eq_true_eq] at isPlain
      refine ⟨.string (toISOString time), rfl, ?_⟩
      rw [deepCloneAndParseDates, parseText_toISOString isPlain]
      rfl
  | .array items, isPlain => by
      obtain ⟨elements, converted, parsed⟩ := parse_convertItems items isPlain
      refine ⟨.array elements, ?_, ?_⟩
      · rw [deepCloneAndConvertDates, converted]
        rfl
      · rw [deepCloneAndParseDates, parsed, revived]
  | .object members inherited, isPlain => by
      rw [plain, Bool.and_eq_true, List.isEmpty_iff] at isPlain
      obtain ⟨rfl, isPlain⟩ := isPlain
      obtain ⟨record, converted, parsed⟩ := parse_convertMembers members isPlain
      have ⟨kept, bare⟩ := revivedMembers_own isPlain
      refine ⟨.object record, ?_, ?_⟩
      · rw [deepCloneAndConvertDates, converted]
        exact congrArg (fun record => Except.ok (Json.object record))
          (ownMembers_converted isPlain converted)
      · rw [deepCloneAndParseDates, parsed, kept, bare, revived]

theorem parse_convertItems
    : (items : List JobValue) → plainItems items = true
      → ∃ elements, convertItems items = .ok elements ∧ parseElements elements = revivedItems items
  | [], _ => ⟨[], rfl, rfl⟩
  | item :: rest, isPlain => by
      rw [plainItems, Bool.and_eq_true] at isPlain
      obtain ⟨element, converted, parsed⟩ := parse_convert item isPlain.1
      obtain ⟨elements, restConverted, restParsed⟩ := parse_convertItems rest isPlain.2
      refine ⟨element :: elements, ?_, ?_⟩
      · rw [convertItems, converted, restConverted]
        rfl
      · rw [parseElements, parsed, restParsed, revivedItems]

theorem parse_convertMembers
    : (members : List (String × JobValue)) → plainMembers members = true
      → ∃ record, convertMembers members = .ok record ∧ parseMembers record = revivedMembers members
  | [], _ => ⟨[], rfl, rfl⟩
  | (key, value) :: rest, isPlain => by
      simp only [plainMembers, Bool.and_eq_true] at isPlain
      obtain ⟨json, converted, parsed⟩ := parse_convert value isPlain.1.2
      obtain ⟨record, restConverted, restParsed⟩ := parse_convertMembers rest isPlain.2
      refine ⟨(key, json) :: record, ?_, ?_⟩
      · rw [convertMembers, converted, restConverted]
        rfl
      · rw [parseMembers, parsed, restParsed, revivedMembers]

end

mutual

/-- Reviving changes nothing if and only if there is nothing to revive. By induction on the value.
-/
theorem revived_self_iff : (value : JobValue) → (revived value = value ↔ undated value = true)
  | .null => by simp [revived, undated]
  | .bool _ => by simp [revived, undated]
  | .number _ => by simp [revived, undated]
  | .date _ => by simp [revived, undated]
  | .string text => by
      rw [revived, undated, parseText]
      cases isoFields text <;> simp
  | .array items => by
      rw [revived, undated, JobValue.array.injEq]
      exact revivedItems_self_iff items
  | .object members inherited => by
      rw [revived, undated, JobValue.object.injEq, and_iff_left rfl]
      exact revivedMembers_self_iff members

theorem revivedItems_self_iff
    : (items : List JobValue) → (revivedItems items = items ↔ undatedItems items = true)
  | [] => by simp [revivedItems, undatedItems]
  | item :: rest => by
      rw [revivedItems, undatedItems, List.cons.injEq, Bool.and_eq_true, revived_self_iff item,
        revivedItems_self_iff rest]

theorem revivedMembers_self_iff
    : (members : List (String × JobValue))
      → (revivedMembers members = members ↔ undatedMembers members = true)
  | [] => by simp [revivedMembers, undatedMembers]
  | (key, value) :: rest => by
      rw [revivedMembers, undatedMembers, List.cons.injEq, Prod.mk.injEq, and_iff_right rfl,
        Bool.and_eq_true, revived_self_iff value, revivedMembers_self_iff rest]

end

-----------------------------------------------------------------------------------------
-- Both round trips
-----------------------------------------------------------------------------------------

theorem restored_eq {data : JobData} (isPlain : plain data.value = true)
    : restored data = .ok ⟨revivedMembers data.members, []⟩ := by
  rw [JobData.value, plain, Bool.and_eq_true] at isPlain
  obtain ⟨record, converted, parsed⟩ := parse_convertMembers data.members isPlain.2
  have ⟨kept, bare⟩ := revivedMembers_own isPlain.2
  have serialized : serialize data = .ok record := by
    rw [serialize, converted]
    exact congrArg Except.ok (ownMembers_converted isPlain.2 converted)
  calc
    restored data = deserialize (some record) := by
      rw [restored, serialized]
      rfl
    _ = .ok ⟨ownMembers (parseMembers record), inheritedMembers (parseMembers record)⟩ := rfl
    _ = .ok ⟨revivedMembers data.members, []⟩ := by rw [parsed, kept, bare]

/-- Job data of JSON values and dates come back with a date in place of every text that looks like
one, and so as they were if and only if there is no such text. A record comes back as it was where
no member is called `__proto__` and every such text is what `toISOString` writes of its date.
-/
theorem round_trips
    : (∀ data : JobData, plain data.value = true →
        restored data = .ok ⟨revivedMembers data.members, []⟩
        ∧ (restored data = .ok data ↔ undated data.value = true))
      ∧ ∀ record : JobRecord, restorableMembers record = true → rewritten record = .ok record := by
  constructor
  · intro data isPlain
    have back := restored_eq isPlain
    refine ⟨back, ?_⟩
    obtain ⟨members, inherited⟩ := data
    rw [JobData.value, plain, Bool.and_eq_true, List.isEmpty_iff] at isPlain
    obtain ⟨rfl, isPlain⟩ := isPlain
    rw [back, Except.ok.injEq, JobData.mk.injEq, and_iff_left rfl, revivedMembers_self_iff,
      JobData.value, undated]
  · intro record isRestorable
    calc
      rewritten record = serialize (readBack record) := rfl
      _ = copyMembers record := serialize_readBack record
      _ = .ok record := (copyMembers_self_iff record).mpr isRestorable

/-- A date that is stored comes back, and so does the record of one. -/
theorem round_trips_of_a_date
    : (restored ⟨[("deliveryId", .string "d1"), ("payload", .array [.date (some 1704067200000)])],
          []⟩
        = .ok ⟨[("deliveryId", .string "d1"),
            ("payload", .array [.date (some 1704067200000)])], []⟩)
      ∧ rewritten [("deliveryId", .string "d1"), ("payload", .string "2024-01-01T00:00:00.000Z")]
        = .ok [("deliveryId", .string "d1"),
            ("payload", .string "2024-01-01T00:00:00.000Z")] :=
  ⟨(round_trips.1 _ (by decide)).2.mpr (by decide), round_trips.2 _ (by decide)⟩

/-- A job whose payload is the text of a date. -/
def datedText : JobData :=
  ⟨[("deliveryId", .string "d1"), ("payload", .string "2024-01-01T00:00:00.000Z")], []⟩

/-- A text that looks like a date comes back as the date, and not as it was. -/
theorem text_comes_back_as_date
    : plain datedText.value = true
      ∧ restored datedText
        = .ok ⟨[("deliveryId", .string "d1"), ("payload", .date (some 1704067200000))], []⟩
      ∧ restored datedText ≠ .ok datedText := by
  have back
      : restored datedText
        = .ok ⟨[("deliveryId", .string "d1"), ("payload", .date (some 1704067200000))], []⟩ := rfl
  refine ⟨by decide, back, ?_⟩
  rw [back]
  simp [datedText]

end QueueForge.Queue.JobSerializer
