import Mathlib.Algebra.Order.Ring.Rat
import Mathlib.Data.List.Nodup
import Mathlib.Data.Rat.Floor
import QueueForge.Js.Values

/-! Lists of the language: what `slice` takes of them, and what is found in a list of keys and
values.
-/

namespace QueueForge.Js

/-- An index that `slice` is given, within a list of some length: truncated, and counted from the
end if it is negative.
-/
def sliceIndex (length : Nat) : Number → Nat
  | .nan => 0
  | .negInfinity => 0
  | .posInfinity => length
  | .finite value =>
      let index := if value < 0 then -(-value).floor else value.floor
      if index < 0 then (length + index).toNat else min index.toNat length

/-- `list.slice(start, stop)`. -/
def slice {T : Type} (list : List T) (start stop : Number) : List T :=
  (list.take (sliceIndex list.length stop)).drop (sliceIndex list.length start)

theorem sliceIndex_ofInt (length index : Nat)
    : sliceIndex length (.ofInt index) = min index length := by
  have nonneg : ¬((index : Rat) < 0) := by simp
  have whole : (index : Rat).floor = index := Rat.floor_intCast index
  simp [sliceIndex, Number.ofInt, nonneg, whole]

/-- A slice between two indices from the start is what is taken and dropped. -/
theorem slice_ofInt {T : Type} (list : List T) (start stop : Nat)
    : slice list (.ofInt start) (.ofInt stop) = (list.take stop).drop start := by
  rw [slice, sliceIndex_ofInt, sliceIndex_ofInt]
  have taken : list.take (min stop list.length) = list.take stop := by
    rcases Nat.le_total stop list.length with within | beyond
    · rw [Nat.min_eq_left within]
    · rw [Nat.min_eq_right beyond, List.take_length, List.take_of_length_le beyond]
  rw [taken]
  rcases Nat.le_total start list.length with within | beyond
  · rw [Nat.min_eq_left within]
  · have short : (list.take stop).length ≤ list.length := List.length_take_le' stop list
    rw [Nat.min_eq_right beyond, List.drop_of_length_le short,
      List.drop_of_length_le (short.trans beyond)]

section

variable {K V : Type} [BEq K] [LawfulBEq K]

/-- Filtering by the keys leaves what is found under the keys that are kept. By induction on the
entries.
-/
theorem lookup_filter (keep : K → Bool) (entries : List (K × V)) (key : K)
    : (entries.filter (fun entry => keep entry.1)).lookup key
      = if keep key then entries.lookup key else none := by
  induction entries with
  | nil => simp
  | cons entry rest ih =>
      obtain ⟨name, value⟩ := entry
      by_cases same : key = name
      · subst same
        cases kept : keep key <;> simp [kept, ih]
      · have differs : (key == name) = false := beq_eq_false_iff_ne.mpr same
        cases kept : keep name <;> simp [kept, ih, List.lookup_cons, differs]

theorem mem_of_lookup {entries : List (K × V)} {key : K} {value : V}
    (found : entries.lookup key = some value)
    : (key, value) ∈ entries := by
  obtain ⟨before, after, rfl, _⟩ := List.lookup_eq_some_iff.mp found
  exact List.mem_append_right _ List.mem_cons_self

/-- An entry is found if each key is there once. By induction on the entries. -/
theorem lookup_of_mem {entries : List (K × V)} (distinct : (entries.map Prod.fst).Nodup)
    {key : K} {value : V} (listed : (key, value) ∈ entries)
    : entries.lookup key = some value := by
  induction entries with
  | nil => exact nomatch listed
  | cons entry rest ih =>
      obtain ⟨new, others⟩ := List.nodup_cons.mp distinct
      rcases List.mem_cons.mp listed with same | later
      · rw [← same, List.lookup_cons_self]
      · have differs : (key == entry.1) = false := by
          refine beq_eq_false_iff_ne.mpr (fun same => new ?_)
          exact List.mem_map.mpr ⟨(key, value), later, same⟩
        rw [List.lookup_cons, differs]
        exact ih others later

end

end QueueForge.Js
