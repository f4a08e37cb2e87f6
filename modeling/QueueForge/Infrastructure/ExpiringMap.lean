import Mathlib.Logic.Function.Basic
import Mathlib.Order.Basic
import Mathlib.Order.Lattice

/-! Maps whose entries expire, and when two of them are read alike from some time on. -/

namespace QueueForge.Infrastructure

variable {K V T : Type} [LinearOrder T]

/-- Entries with the time from which they are gone. -/
abbrev ExpiringMap (K V T : Type) : Type := K → Option (V × T)

namespace ExpiringMap

/-- What is found under a key at a time. -/
def find? (map : ExpiringMap K V T) (now : T) (key : K) : Option V :=
  ((map key).filter (fun entry => decide (now < entry.2))).map Prod.fst

/-- What is there under a key at a time, and until when. -/
def live? (map : ExpiringMap K V T) (now : T) (key : K) : Option (V × T) :=
  (map key).filter (fun entry => decide (now < entry.2))

def empty : ExpiringMap K V T :=
  fun _ => none

theorem find?_of_eq {first second : ExpiringMap K V T} {key : K} (same : first key = second key)
    (now : T)
    : first.find? now key = second.find? now key := by
  rw [find?, find?, same]

/-- What is gone stays gone. -/
theorem find?_of_later {map : ExpiringMap K V T} {now later : T} {key : K} (ordered : now ≤ later)
    (gone : map.find? now key = none)
    : map.find? later key = none := by
  unfold find? at gone ⊢
  cases held : map key with
  | none => rfl
  | some entry =>
      simp only [held, Option.filter, Option.map_eq_none_iff, ite_eq_right_iff, reduceCtorEq,
        imp_false, decide_eq_true_eq, not_lt] at gone
      simp [Option.filter, gone.trans ordered]

def insert [DecidableEq K] (map : ExpiringMap K V T) (key : K) (value : V) (expiry : T)
    : ExpiringMap K V T :=
  Function.update map key (some (value, expiry))

def erase [DecidableEq K] (map : ExpiringMap K V T) (key : K) : ExpiringMap K V T :=
  Function.update map key none

/-- From a time on every key is found alike in two maps. -/
def AlikeFrom (now : T) (first second : ExpiringMap K V T) : Prop :=
  ∀ later, now ≤ later → ∀ key, first.find? later key = second.find? later key

namespace AlikeFrom

variable {now later : T} {first second : ExpiringMap K V T}

theorem refl (map : ExpiringMap K V T) : AlikeFrom now map map :=
  fun _ _ _ => rfl

theorem mono (alike : AlikeFrom now first second) (ordered : now ≤ later)
    : AlikeFrom later first second :=
  fun time after => alike time (ordered.trans after)

/-- A key may be written alike in both. -/
theorem update [DecidableEq K] (alike : AlikeFrom now first second) (key : K)
    (entry : Option (V × T))
    : AlikeFrom now (Function.update first key entry) (Function.update second key entry) := by
  intro time after other
  by_cases same : other = key
  · subst same
    exact find?_of_eq (by rw [Function.update_self, Function.update_self]) time
  · rw [find?_of_eq (Function.update_of_ne same entry first),
      find?_of_eq (Function.update_of_ne same entry second)]
    exact alike time after other

/-- A map is read as an empty one when nothing is found in it. -/
theorem empty_iff : AlikeFrom now first empty ↔ ∀ key, first.find? now key = none := by
  constructor
  · exact fun alike key => alike now le_rfl key
  · exact fun gone later ordered key => find?_of_later ordered (gone key)

end AlikeFrom

end ExpiringMap

end QueueForge.Infrastructure
