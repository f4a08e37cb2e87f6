import QueueForge.Js.Doubles

/-! Sorting and shuffling lists: what the language promises of `sort` with a comparator, and the
shuffle that exchanges each element with one that is drawn.
-/

namespace QueueForge.Js

variable {T : Type}

-----------------------------------------------------------------------------------------
-- Sorting
-----------------------------------------------------------------------------------------

/-- A comparator does not place an element after another one; `NaN` counts as zero. -/
def notAfter (compare : T → T → Number) (left right : T) : Bool :=
  !(Number.lt 0 (compare left right))

/-- A comparator orders the elements of a list: it turns round with its arguments, and is
transitive.
-/
structure ConsistentOn (compare : T → T → Number) (list : List T) : Prop where
  turned
    : ∀ left ∈ list, ∀ right ∈ list,
        Number.lt 0 (compare left right) = (compare right left).lt 0
  chained
    : ∀ left ∈ list, ∀ middle ∈ list, ∀ right ∈ list,
        notAfter compare left middle = true
        → notAfter compare middle right = true
        → notAfter compare left right = true

/-- What the language promises of `list.sort(compare)`: a rearrangement, and with a comparator that
is consistent the stable sorting.
-/
structure ArraySort (T : Type) where
  sort : (T → T → Number) → List T → List T
  rearranges (compare : T → T → Number) (list : List T) : (sort compare list).Perm list
  sorts (compare : T → T → Number) (list : List T)
    : ConsistentOn compare list → sort compare list = list.mergeSort (notAfter compare)

/-- Sorting as a comparator says, whatever it says. -/
def ArraySort.merging : ArraySort T where
  sort compare list := list.mergeSort (notAfter compare)
  rearranges _ list := List.mergeSort_perm list _
  sorts _ _ _ := rfl

variable {compare : T → T → Number} {list : List T}

theorem notAfter_total (consistent : ConsistentOn compare list) {left right : T}
    (listed : left ∈ list) (listed' : right ∈ list)
    : (notAfter compare left right || notAfter compare right left) = true := by
  have turned := consistent.turned left listed right listed'
  unfold notAfter
  rw [turned]
  cases below : (compare right left).lt 0 with
  | false => rfl
  | true =>
      rw [Number.lt, Bool.and_eq_true, Bool.not_eq_true'] at below
      rw [Number.lt, below.2]
      rfl

/-- Sorting a list by a comparator that is consistent on it orders it: as a list of its own
elements, among which the comparator is total and transitive.
-/
theorem pairwise_sort (sorting : ArraySort T) (consistent : ConsistentOn compare list)
    : (sorting.sort compare list).Pairwise
        (fun left right => notAfter compare left right = true) := by
  let among (left right : { element // element ∈ list }) : Bool := notAfter compare left right
  have chained (left middle right : { element // element ∈ list })
      : among left middle = true → among middle right = true → among left right = true :=
    consistent.chained left left.2 middle middle.2 right right.2
  have total (left right : { element // element ∈ list })
      : (among left right || among right left) = true :=
    notAfter_total consistent left.2 right.2
  have mapped
      : (list.attach.mergeSort among).map Subtype.val
        = (list.attach.map Subtype.val).mergeSort (notAfter compare) :=
    List.map_mergeSort (fun _ _ _ _ => rfl)
  rw [List.attach_map_subtype_val] at mapped
  rw [sorting.sorts compare list consistent, ← mapped, List.pairwise_map]
  exact List.pairwise_mergeSort chained total list.attach

-----------------------------------------------------------------------------------------
-- Shuffling
-----------------------------------------------------------------------------------------

/-- A value of `Math.random()`. -/
structure RandomDraw where
  value : Rat
  nonneg : 0 ≤ value
  below : value < 1

/-- `Math.floor(Math.random() * (last + 1))`: a place up to the last one. -/
def RandomDraw.place (draw : RandomDraw) (last : Nat) : Fin (last + 1) where
  val := (draw.value * (last + 1)).floor.toNat
  isLt := by
    have positive : (0 : Rat) < last + 1 := by positivity
    have under : draw.value * (last + 1) < last + 1 :=
      mul_lt_of_lt_one_left positive draw.below
    have floored : (draw.value * (last + 1)).floor < last + 1 :=
      Rat.floor_lt_iff.mpr (by exact_mod_cast under)
    omega

/-- From the last place on down each element is exchanged with one up to it. -/
def shuffleFrom (draws : Nat → RandomDraw)
    : (last : Nat) → (copy : Array T) → last < copy.size → Array T
  | 0, copy, _ => copy
  | last + 1, copy, within =>
      let place := (draws (last + 1)).place (last + 1)
      let exchanged := copy.swap (last + 1) place within (by omega)
      shuffleFrom draws last exchanged (by simp only [exchanged, Array.size_swap]; omega)

/-- Shuffling loses and doubles nothing, by induction on the last place. -/
theorem shuffleFrom_perm (draws : Nat → RandomDraw) (last : Nat) (copy : Array T)
    (within : last < copy.size)
    : (shuffleFrom draws last copy within).Perm copy := by
  induction last generalizing copy with
  | zero => exact Array.Perm.refl copy
  | succ last ih => exact (ih _ _).trans (Array.swap_perm within _)

/-- Shuffling in place, from the last element on down to the second. -/
def shuffle (draws : Nat → RandomDraw) (copy : Array T) : Array T :=
  if some : 0 < copy.size then
    shuffleFrom draws (copy.size - 1) copy (by omega)
  else
    copy

theorem shuffle_perm (draws : Nat → RandomDraw) (copy : Array T)
    : (shuffle draws copy).Perm copy := by
  unfold shuffle
  split
  next => exact shuffleFrom_perm draws _ copy _
  next => exact Array.Perm.refl copy

end QueueForge.Js
