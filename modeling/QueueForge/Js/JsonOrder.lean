import Mathlib.Data.List.Forall2
import QueueForge.Js.Json

/-! JSON values up to the order of their keys. An object lists its members in some order that
is no part of the value, at any depth, so that two values may be alike without being equal.
-/

namespace QueueForge.Js

namespace Json

/-- Every value is built from parts that have the property themselves. -/
theorem byParts {property : Json → Prop} (ofNull : property null)
    (ofBool : ∀ value, property (bool value)) (ofNumber : ∀ value, property (number value))
    (ofString : ∀ value, property (string value))
    (ofArray : ∀ elements, (∀ element ∈ elements, property element) → property (array elements))
    (ofObject : ∀ members, (∀ member ∈ members, property member.2) → property (object members))
    (value : Json)
    : property value :=
  @Json.rec property (fun elements => ∀ element ∈ elements, property element)
    (fun members => ∀ member ∈ members, property member.2) (fun member => property member.2)
    ofNull ofBool ofNumber ofString ofArray ofObject
    (fun _ mem => nomatch mem)
    (fun _ _ first rest => List.forall_mem_cons.mpr ⟨first, rest⟩)
    (fun _ mem => nomatch mem)
    (fun _ _ first rest => List.forall_mem_cons.mpr ⟨first, rest⟩)
    (fun _ _ value => value)
    value

mutual

/-- A value some text stands for: its numbers are finite, and no object has a key twice. -/
def WellFormed : Json → Prop
  | number value => ∃ finite, value = .finite finite
  | array elements => WellFormedElements elements
  | object members => (members.map Prod.fst).Nodup ∧ WellFormedMembers members
  | _ => True

def WellFormedElements : List Json → Prop
  | [] => True
  | element :: rest => element.WellFormed ∧ WellFormedElements rest

def WellFormedMembers : List (String × Json) → Prop
  | [] => True
  | (_, value) :: rest => value.WellFormed ∧ WellFormedMembers rest

end

theorem wellFormedElements_iff {elements : List Json}
    : WellFormedElements elements ↔ ∀ element ∈ elements, element.WellFormed := by
  induction elements with
  | nil => simp [WellFormedElements]
  | cons element rest ih => simp [WellFormedElements, ih]

theorem wellFormedMembers_iff {members : List (String × Json)}
    : WellFormedMembers members ↔ ∀ member ∈ members, member.2.WellFormed := by
  induction members with
  | nil => simp [WellFormedMembers]
  | cons member rest ih => simp [WellFormedMembers, ih]

mutual

/-- The values are equal up to the order of object keys at every depth. -/
def Alike : Json → Json → Prop
  | null, null => True
  | bool value, bool other => value = other
  | number value, number other => value = other
  | string value, string other => value = other
  | array elements, array others => AlikeElements elements others
  | object members, object others =>
      ∃ reordered, reordered.Perm others ∧ AlikeMembers members reordered
  | _, _ => False

def AlikeElements : List Json → List Json → Prop
  | [], [] => True
  | element :: rest, other :: others => element.Alike other ∧ AlikeElements rest others
  | _, _ => False

def AlikeMembers : List (String × Json) → List (String × Json) → Prop
  | [], [] => True
  | (key, value) :: rest, (otherKey, other) :: others =>
      key = otherKey ∧ value.Alike other ∧ AlikeMembers rest others
  | _, _ => False

end

/-- Two members are of one key, and their values alike. -/
def AlikeMember (member other : String × Json) : Prop :=
  member.1 = other.1 ∧ member.2.Alike other.2

theorem alikeElements_iff {elements others : List Json}
    : AlikeElements elements others ↔ List.Forall₂ Alike elements others := by
  induction elements generalizing others with
  | nil => cases others <;> simp [AlikeElements]
  | cons element rest ih => cases others <;> simp [AlikeElements, ih]

theorem alikeMembers_iff {members others : List (String × Json)}
    : AlikeMembers members others ↔ List.Forall₂ AlikeMember members others := by
  induction members generalizing others with
  | nil => cases others <;> simp [AlikeMembers]
  | cons member rest ih => cases others <;> simp [AlikeMembers, AlikeMember, ih, and_assoc]

end Json

end QueueForge.Js
