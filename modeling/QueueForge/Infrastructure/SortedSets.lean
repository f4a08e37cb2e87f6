import Mathlib.Algebra.Order.Ring.Rat
import Mathlib.Data.List.Nodup
import Mathlib.Logic.Function.Basic

/-! The sorted-set commands of Redis, on sets with expiry times. The order of the members is left
out.
-/

namespace QueueForge.Infrastructure

/-- The members of a sorted set, each once, with their scores. -/
structure SortedSet where
  entries : List (String × Rat)
  distinct : (entries.map Prod.fst).Nodup

namespace SortedSet

instance : EmptyCollection SortedSet :=
  ⟨[], List.nodup_nil⟩

instance : Membership String SortedSet where
  mem set member := member ∈ set.entries.map Prod.fst

instance (member : String) (set : SortedSet) : Decidable (member ∈ set) :=
  inferInstanceAs (Decidable (member ∈ set.entries.map Prod.fst))

/-- The entries that a test picks. -/
def keep (set : SortedSet) (test : String × Rat → Bool) : SortedSet where
  entries := set.entries.filter test
  distinct := set.distinct.sublist (List.filter_sublist.map Prod.fst)

/-- A member that is there gets the new score. -/
def zadd (set : SortedSet) (score : Rat) (member : String) : SortedSet where
  entries := (member, score) :: set.entries.filter (fun entry => entry.1 != member)
  distinct := by
    rw [List.map_cons, List.nodup_cons]
    refine ⟨?_, set.distinct.sublist (List.filter_sublist.map Prod.fst)⟩
    simp

def zremrangebyscore (set : SortedSet) (min max : Rat) : SortedSet :=
  set.keep (fun entry => !decide (min ≤ entry.2 ∧ entry.2 ≤ max))

def zcard (set : SortedSet) : Nat :=
  set.entries.length

/-- `zcount` from a score to `+inf`. -/
def zcount (set : SortedSet) (min : Rat) : Nat :=
  set.entries.countP (fun entry => decide (min ≤ entry.2))

theorem entries_zadd_of_notMem {set : SortedSet} {member : String} (new : member ∉ set)
    (score : Rat)
    : (set.zadd score member).entries = (member, score) :: set.entries := by
  have kept : set.entries.filter (fun entry => entry.1 != member) = set.entries := by
    refine List.filter_eq_self.mpr (fun entry listed => ?_)
    refine bne_iff_ne.mpr (fun same => new ?_)
    exact List.mem_map.mpr ⟨entry, listed, same⟩
  exact congrArg ((member, score) :: ·) kept

theorem zcard_zadd (set : SortedSet) (score : Rat) (member : String)
    : (set.zadd score member).zcard = if member ∈ set then set.zcard else set.zcard + 1 := by
  split
  · rename_i listed
    have others
        : (set.entries.filter (fun entry => entry.1 != member)).length
          = ((set.entries.map Prod.fst).erase member).length := by
      rw [set.distinct.erase_eq_filter, List.filter_map, List.length_map]
      rfl
    have some : 0 < (set.entries.map Prod.fst).length := List.length_pos_of_mem listed
    rw [List.length_erase_of_mem listed, List.length_map] at others
    rw [List.length_map] at some
    simp only [zcard, zadd, List.length_cons, others]
    omega
  · rename_i new
    rw [zcard, entries_zadd_of_notMem new, List.length_cons]
    rfl

end SortedSet

/-- A sorted set with the moment from which it is gone, in milliseconds. -/
structure StoredSet where
  members : SortedSet
  expiresAt : Option Int

/-- The sorted sets by their keys. A key without a set has the empty one. -/
abbrev SortedSets : Type := String → StoredSet

namespace SortedSets

/-- What is under a key at a time. -/
def liveAt (sets : SortedSets) (now : Int) (key : String) : StoredSet :=
  if (sets key).expiresAt.all (fun expiry => decide (now < expiry)) then sets key else ⟨∅, none⟩

/-- A command that changes the members of a set keeps its expiry. -/
def modify (sets : SortedSets) (now : Int) (key : String) (change : SortedSet → SortedSet)
    : SortedSets :=
  let live := sets.liveAt now key
  Function.update sets key { live with members := change live.members }

def zadd (sets : SortedSets) (now : Int) (key : String) (score : Rat) (member : String)
    : SortedSets :=
  sets.modify now key (fun set => set.zadd score member)

def zremrangebyscore (sets : SortedSets) (now : Int) (key : String) (min max : Rat)
    : SortedSets :=
  sets.modify now key (fun set => set.zremrangebyscore min max)

def zcard (sets : SortedSets) (now : Int) (key : String) : Nat :=
  (sets.liveAt now key).members.zcard

def zcount (sets : SortedSets) (now : Int) (key : String) (min : Rat) : Nat :=
  (sets.liveAt now key).members.zcount min

def pexpire (sets : SortedSets) (now : Int) (key : String) (ms : Int) : SortedSets :=
  Function.update sets key { sets.liveAt now key with expiresAt := some (now + ms) }

/-- `pexpire` is rejected unless it is given a whole number. -/
def pexpire? (sets : SortedSets) (now : Int) (key : String) (ms : Rat) : Option SortedSets :=
  if ms.den = 1 then some (sets.pexpire now key ms.num) else none

/-- `del`. -/
def delete (sets : SortedSets) (key : String) : SortedSets :=
  Function.update sets key ⟨∅, none⟩

/-- A set without an expiry is there at any time. -/
theorem liveAt_of_lasting {sets : SortedSets} {key : String}
    (lasting : (sets key).expiresAt = none) (now : Int)
    : sets.liveAt now key = sets key := by
  simp [liveAt, lasting]

/-- A set that is changed is there with its changed members. -/
theorem liveAt_modify (sets : SortedSets) (now : Int) (key : String)
    (change : SortedSet → SortedSet)
    : (sets.modify now key change).liveAt now key
      = { sets.liveAt now key with members := change (sets.liveAt now key).members } := by
  by_cases live : (sets key).expiresAt.all (fun expiry => decide (now < expiry)) = true
  · simp [modify, liveAt, live]
  · simp [modify, liveAt, live]

/-- A set that expires is there until then. -/
theorem liveAt_pexpire (sets : SortedSets) (now later : Int) (key : String) (ms : Int)
    : ((sets.pexpire now key ms).liveAt later key).members
      = if later < now + ms then (sets.liveAt now key).members else ∅ := by
  have reads
      : (sets.pexpire now key ms).liveAt later key
        = if later < now + ms then
            { sets.liveAt now key with expiresAt := some (now + ms) }
          else
            ⟨∅, none⟩ := by
    simp [pexpire, liveAt]
  rw [reads]
  split <;> rfl

end SortedSets

end QueueForge.Infrastructure
