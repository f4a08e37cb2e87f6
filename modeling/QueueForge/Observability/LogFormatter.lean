import QueueForge.Js.JsonOrder

/-! `LogFormatter.sanitizeData`: what a log record shows of values stored under sensitive keys. Two
records that differ in such values only should read alike. They do where the values are strings
that objects alone lead to; arrays are shown as they are, and so are values of other types.
-/

namespace QueueForge.Observability

open QueueForge.Js

namespace LogFormatter

/-- The words that make a key sensitive. -/
def sensitiveKeys : List String :=
  ["password", "secret", "token", "authorization", "apiKey", "api_key", "privateKey"]

/-- `typeof value === 'string'`. -/
def isString : Json → Bool
  | .string _ => true
  | _ => false

section
-- `toLowerCase` of the language.
variable (lowerCase : String → String)

/-- Whether a sensitive word is part of the key, in any case. -/
def isSecret (key : String) : Bool :=
  sensitiveKeys.any (fun word => includes (lowerCase key) (lowerCase word))

mutual

/-- What is shown of the value under a key: other objects than arrays are sanitized themselves. -/
def sanitizeValue (key : String) : Json → Json
  | .string value => if isSecret lowerCase key then .string "[REDACTED]" else .string value
  | .object members => .object (sanitizeMembers members)
  | value => value

/-- The loop over the entries. An assignment to `__proto__` sets the prototype and makes no member.
-/
def sanitizeMembers : List (String × Json) → List (String × Json)
  | [] => []
  | (key, value) :: rest =>
      if key = "__proto__" then
        sanitizeMembers rest
      else
        (key, sanitizeValue key value) :: sanitizeMembers rest

end

/-- Sanitizes object data masking sensitive password, token, and secret fields. The entries of an
array are those of its indices.
-/
def sanitizeData : Json → Json
  | .object members => .object (sanitizeMembers lowerCase members)
  | .array elements =>
      .object
        (sanitizeMembers lowerCase
          (elements.zipIdx.map (fun entry => (toString entry.2, entry.1))))
  | data => data

-----------------------------------------------------------------------------------------
-- Data that differ in secrets
-----------------------------------------------------------------------------------------

mutual

/-- The values differ, at any depth, only in what is stored under sensitive keys. -/
def SameButSecrets : Json → Json → Prop
  | .object members, .object others => SameMembers members others
  | .array elements, .array others => SameElements elements others
  | value, other => value = other

def SameMembers : List (String × Json) → List (String × Json) → Prop
  | [], [] => True
  | (key, value) :: rest, (otherKey, other) :: others =>
      key = otherKey ∧ (isSecret lowerCase key = true ∨ SameButSecrets value other)
        ∧ SameMembers rest others
  | _, _ => False

def SameElements : List Json → List Json → Prop
  | [], [] => True
  | element :: rest, other :: others => SameButSecrets element other ∧ SameElements rest others
  | _, _ => False

end

/-- Two records that differ in secrets only read alike. -/
def Noninterfering (members others : List (String × Json)) : Prop :=
  SameButSecrets lowerCase (.object members) (.object others)
  → sanitizeData lowerCase (.object members) = sanitizeData lowerCase (.object others)

mutual

/-- A value without the members of its objects that are called `__proto__`. -/
def visible : Json → Json
  | .object members => .object (visibleMembers members)
  | value => value

def visibleMembers : List (String × Json) → List (String × Json)
  | [] => []
  | (key, value) :: rest =>
      if key = "__proto__" then
        visibleMembers rest
      else
        (key, visible value) :: visibleMembers rest

end

mutual

/-- The values differ only where both have a string under a sensitive key and objects lead to it.
-/
def SameButMasked : Json → Json → Prop
  | .object members, .object others => MaskedMembers members others
  | value, other => value = other

def MaskedMembers : List (String × Json) → List (String × Json) → Prop
  | [], [] => True
  | (key, value) :: rest, (otherKey, other) :: others =>
      key = otherKey
        ∧ (isSecret lowerCase key = true ∧ isString value = true ∧ isString other = true
          ∨ SameButMasked value other)
        ∧ MaskedMembers rest others
  | _, _ => False

end

-----------------------------------------------------------------------------------------
-- What the sanitized data tells
-----------------------------------------------------------------------------------------

variable {lowerCase : String → String}

theorem isString_visible (value : Json) : isString (visible value) = isString value := by
  cases value <;> rfl

/-- The values under a key read alike. -/
def ReadsAlike (lowerCase : String → String) (value : Json) : Prop :=
  ∀ key other,
    sanitizeValue lowerCase key value = sanitizeValue lowerCase key other
    ↔ isSecret lowerCase key = true ∧ isString value = true ∧ isString other = true
      ∨ SameButMasked lowerCase (visible value) (visible other)

/-- Members read alike if their values do: a member that makes none is passed over on either side,
and all others are compared in order. By induction on the members of both.
-/
theorem sanitizeMembers_eq_iff_of {members : List (String × Json)}
    (alike : ∀ member ∈ members, ReadsAlike lowerCase member.2) (others : List (String × Json))
    : sanitizeMembers lowerCase members = sanitizeMembers lowerCase others
      ↔ MaskedMembers lowerCase (visibleMembers members) (visibleMembers others) := by
  induction members generalizing others with
  | nil =>
      induction others with
      | nil => simp [visibleMembers, MaskedMembers]
      | cons other others ih =>
          obtain ⟨key, value⟩ := other
          by_cases proto : key = "__proto__"
          · simpa [sanitizeMembers, visibleMembers, proto] using ih
          · simp [sanitizeMembers, visibleMembers, MaskedMembers, proto]
  | cons member rest restAlike =>
      obtain ⟨key, value⟩ := member
      obtain ⟨first, later⟩ := List.forall_mem_cons.mp alike
      by_cases proto : key = "__proto__"
      · simpa [sanitizeMembers, visibleMembers, proto] using restAlike later others
      · induction others with
        | nil => simp [sanitizeMembers, visibleMembers, MaskedMembers, proto]
        | cons other others ih =>
            obtain ⟨otherKey, other⟩ := other
            by_cases otherProto : otherKey = "__proto__"
            · simpa [sanitizeMembers, visibleMembers, otherProto] using ih
            · simp only [sanitizeMembers, visibleMembers, proto, otherProto, if_false,
                MaskedMembers, List.cons.injEq, Prod.mk.injEq, isString_visible,
                restAlike later others, and_assoc]
              refine and_congr_right (fun same => and_congr_left (fun _ => ?_))
              subst same
              exact first key other

/-- A value that is shown as it is reads like itself only. -/
theorem readsAlike_of_plain {value : Json} (shown : ∀ key, sanitizeValue lowerCase key value = value)
    (noString : isString value = false) (noObject : ∀ members, value ≠ .object members)
    : ReadsAlike lowerCase value := by
  intro key other
  have same : SameButMasked lowerCase (visible value) (visible other) ↔ value = visible other := by
    cases value <;> first | rfl | exact absurd rfl (noObject _)
  rw [shown key, noString, same]
  cases other with
  | string text =>
      have differs : value ≠ .string text := by
        rintro rfl
        exact nomatch noString
      have masked : value ≠ .string "[REDACTED]" := by
        rintro rfl
        exact nomatch noString
      by_cases secret : isSecret lowerCase key = true <;>
        simp [sanitizeValue, visible, secret, differs, masked]
  | object members => simp [sanitizeValue, visible, noObject]
  | _ => simp [sanitizeValue, visible]

/-- Every value reads like those it differs from in masked strings only, by induction on it. -/
theorem readsAlike (value : Json) : ReadsAlike lowerCase value := by
  refine Json.byParts ?_ ?_ ?_ ?_ ?_ ?_ value
  · exact readsAlike_of_plain (fun _ => rfl) rfl nofun
  · exact fun _ => readsAlike_of_plain (fun _ => rfl) rfl nofun
  · exact fun _ => readsAlike_of_plain (fun _ => rfl) rfl nofun
  · intro text key other
    by_cases secret : isSecret lowerCase key = true <;>
      cases other <;> simp [sanitizeValue, visible, SameButMasked, isString, secret]
  · exact fun _ _ => readsAlike_of_plain (fun _ => rfl) rfl nofun
  · intro members alike key other
    cases other with
    | object others =>
        simp only [sanitizeValue, visible, SameButMasked, isString, Json.object.injEq,
          Bool.false_eq_true, and_false, false_or]
        exact sanitizeMembers_eq_iff_of alike others
    | string text =>
        by_cases secret : isSecret lowerCase key = true <;>
          simp [sanitizeValue, visible, SameButMasked, isString, secret]
    | _ => simp [sanitizeValue, visible, SameButMasked, isString]

/-- Two records are sanitized alike exactly when they differ only in strings that are masked. -/
theorem sanitizeData_eq_iff (members others : List (String × Json))
    : sanitizeData lowerCase (.object members) = sanitizeData lowerCase (.object others)
      ↔ SameButMasked lowerCase (visible (.object members)) (visible (.object others)) := by
  simp only [sanitizeData, visible, SameButMasked, Json.object.injEq]
  exact sanitizeMembers_eq_iff_of (fun member _ => readsAlike member.2) others

/-- Redaction hides what two records differ in, if and only if wherever they differ both have a
string under a sensitive key, and objects lead to it.
-/
theorem noninterfering_iff (members others : List (String × Json))
    : Noninterfering lowerCase members others
      ↔ (SameButSecrets lowerCase (.object members) (.object others)
        → SameButMasked lowerCase (visible (.object members)) (visible (.object others))) :=
  imp_congr_right (fun _ => sanitizeData_eq_iff members others)

/-- A password in a list of users is shown. -/
theorem listed_password_shown
    : ¬∀ (lowerCase : String → String) (members others : List (String × Json)),
        Noninterfering lowerCase members others := by
  intro hidden
  let users (password : String) : List (String × Json) :=
    [("users", .array [.object [("password", .string password)]])]
  have secret : isSecret toLowerCase "password" = true := by decide +kernel
  have alike := hidden toLowerCase (users "hunter2") (users "letmein")
  have same : SameButSecrets toLowerCase (.object (users "hunter2")) (.object (users "letmein")) := by
    simp [users, SameButSecrets, SameMembers, SameElements, secret]
  exact absurd (alike same) (by simp [users, sanitizeData, sanitizeMembers, sanitizeValue])

end

end LogFormatter

end QueueForge.Observability
