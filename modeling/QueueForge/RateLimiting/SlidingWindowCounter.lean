import QueueForge.Async.Throughout
import QueueForge.Infrastructure.SortedSets

/-! `SlidingWindowCounter`: hits in a sorted set of Redis, or in memory where the store lacks a
command. `RedisOperations` has no command that trims a set and none that counts a part of it.
-/

namespace QueueForge.RateLimiting

open QueueForge.Async QueueForge.Infrastructure

namespace SlidingWindowCounter

/-- The functions a store has. -/
structure RedisOps where
  zremrangebyscore : Bool
  zadd : Bool
  pexpire : Bool
  zcard : Bool
  zcount : Bool
  delete : Bool

/-- The functions of `RedisOperations`. -/
def redisOperations : RedisOps where
  zremrangebyscore := false
  zadd := true
  pexpire := false
  zcard := true
  zcount := false
  delete := true

/-- The sorted sets of the store and the timestamps in memory. -/
structure Counts where
  sets : SortedSets
  fallbackCounts : String → Option (List Int)

def fullKey (key : String) : String :=
  s!"queueforge:ratelimit:sw:{key}"

def reqId (now : Int) (random : String) : String :=
  s!"{now}-{random}"

/-- The timestamps that are in the window. -/
def validTimestamps (now : Int) (windowMs : Rat) (timestamps : List Int) : List Int :=
  timestamps.filter (fun ts => decide ((now : Rat) - windowMs < ts))

/-- The in-memory fallback of `increment`. -/
def incrementInMemory (counts : Counts) (now : Int) (key : String) (windowMs : Rat)
    : Nat × Counts :=
  let timestamps := (counts.fallbackCounts key).getD []
  let valid := validTimestamps now windowMs timestamps ++ [now]
  (valid.length,
    { counts with fallbackCounts := Function.update counts.fallbackCounts key (some valid) })

/-- Records a request hit, and returns the current window hit count. `random` is what
`randomBytes` gives.
-/
def increment (redisOps : Option RedisOps) (counts : Counts) (now : Int) (random key : String)
    (windowMs : Rat)
    : Nat × Counts :=
  match redisOps.filter RedisOps.zadd with
  | some ops =>
      let trimmed :=
        if ops.zremrangebyscore then
          counts.sets.zremrangebyscore now (fullKey key) 0 (now - windowMs)
        else
          counts.sets
      let added := trimmed.zadd now (fullKey key) now (reqId now random)
      let expiring := if ops.pexpire then added.pexpire? now (fullKey key) windowMs else some added
      match expiring with
      | none => incrementInMemory { counts with sets := added } now key windowMs
      | some sets =>
          if ops.zcard then
            (sets.zcard now (fullKey key), { counts with sets })
          else
            incrementInMemory { counts with sets } now key windowMs
  | none => incrementInMemory counts now key windowMs

/-- Queries the current count of hits within the past window without recording a new hit. -/
def getCount (redisOps : Option RedisOps) (counts : Counts) (now : Int) (key : String)
    (windowMs : Rat)
    : Nat :=
  if redisOps.any RedisOps.zcount then
    counts.sets.zcount now (fullKey key) (now - windowMs)
  else
    match counts.fallbackCounts key with
    | none => 0
    | some timestamps => (validTimestamps now windowMs timestamps).length

/-- Clears counter history for a key. -/
def reset (redisOps : Option RedisOps) (counts : Counts) (key : String) : Counts where
  sets := if redisOps.any RedisOps.delete then counts.sets.delete (fullKey key) else counts.sets
  fallbackCounts := Function.update counts.fallbackCounts key none

-----------------------------------------------------------------------------------------
-- Sequences of calls
-----------------------------------------------------------------------------------------

inductive Call where
  | increment (now : Int) (random : String)
  | getCount (now : Int)
  | reset

/-- A call on a key, and the count it returns. -/
def call (redisOps : Option RedisOps) (key : String) (windowMs : Rat) (next : Call)
    (counts : Counts)
    : Option Nat × Counts :=
  match next with
  | .increment now random =>
      let incremented := increment redisOps counts now random key windowMs
      (some incremented.1, incremented.2)
  | .getCount now => (some (getCount redisOps counts now key windowMs), counts)
  | .reset => (none, reset redisOps counts key)

/-- Nothing has been counted. -/
def initial : Counts where
  sets _ := ⟨∅, none⟩
  fallbackCounts _ := none

-----------------------------------------------------------------------------------------
-- The two stores on the same calls
-----------------------------------------------------------------------------------------

section
variable {key : String} {windowMs : Rat} {counts : Counts} {now : Int} {random : String}

/-- The hits since the last reset that the store holds. -/
def storedHits (key : String) (counts : Counts) : SortedSet :=
  (counts.sets (fullKey key)).members

/-- The hits since the last reset that are listed in memory. -/
def listedHits (key : String) (counts : Counts) : List Int :=
  (counts.fallbackCounts key).getD []

/-- The set of a key never expires, and nothing is listed in memory. -/
structure Stored (key : String) (counts : Counts) : Prop where
  lasting : (counts.sets (fullKey key)).expiresAt = none
  unlisted : counts.fallbackCounts key = none

/-- A hit that is recorded in the store adds its member to all that are there. -/
theorem increment_stored (stored : Stored key counts)
    : increment (some redisOperations) counts now random key windowMs
      = (((storedHits key counts).zadd now (reqId now random)).zcard,
          { counts with
            sets :=
              Function.update counts.sets (fullKey key)
                ⟨(storedHits key counts).zadd now (reqId now random), none⟩ }) := by
  simp [increment, redisOperations, Option.filter, SortedSets.zadd, SortedSets.modify,
    SortedSets.zcard, SortedSets.liveAt_of_lasting, stored.lasting, storedHits]

/-- The answers of the store to the calls. -/
theorem call_stored (windowMs : Rat) (stored : Stored key counts) (next : Call)
    : let called := call (some redisOperations) key windowMs next counts
      Stored key called.2
      ∧ match next with
        | .increment now random =>
            called.1 = some ((storedHits key counts).zadd now (reqId now random)).zcard
            ∧ storedHits key called.2 = (storedHits key counts).zadd now (reqId now random)
        | .getCount _ => called.1 = some 0 ∧ storedHits key called.2 = storedHits key counts
        | .reset => called.1 = none ∧ storedHits key called.2 = ∅ := by
  cases next with
  | increment now random =>
      simp only [call, increment_stored stored]
      refine ⟨⟨?_, stored.unlisted⟩, trivial, ?_⟩
      · simp only [Function.update_self]
      · simp only [storedHits, Function.update_self]
  | getCount now =>
      refine ⟨stored, ?_, rfl⟩
      simp [call, getCount, redisOperations, stored.unlisted]
  | reset =>
      refine ⟨⟨?_, ?_⟩, rfl, ?_⟩
      · simp [call, reset, redisOperations, SortedSets.delete]
      · simp [call, reset]
      · simp [call, reset, redisOperations, SortedSets.delete, storedHits]

/-- The answers without a store. -/
theorem call_listed (key : String) (windowMs : Rat) (counts : Counts) (next : Call)
    : let called := call none key windowMs next counts
      match next with
      | .increment now _ =>
          called.1
            = some ((validTimestamps now windowMs (listedHits key counts)).length + 1)
          ∧ listedHits key called.2
            = validTimestamps now windowMs (listedHits key counts) ++ [now]
      | .getCount now =>
          called.1 = some (validTimestamps now windowMs (listedHits key counts)).length
          ∧ listedHits key called.2 = listedHits key counts
      | .reset => called.1 = none ∧ listedHits key called.2 = [] := by
  cases next with
  | increment now random =>
      simp [call, increment, incrementInMemory, listedHits]
  | getCount now =>
      refine ⟨?_, rfl⟩
      cases listed : counts.fallbackCounts key <;>
        simp [call, getCount, listedHits, listed, validTimestamps]
  | reset => simp [call, reset, listedHits]

-----------------------------------------------------------------------------------------
-- When the two answer alike
-----------------------------------------------------------------------------------------

/-- The hits listed in memory that have left the window. -/
def expiredHits (now : Int) (windowMs : Rat) (key : String) (counts : Counts) : Nat :=
  (listedHits key counts).length
    - (validTimestamps now windowMs (listedHits key counts)).length

/-- The calls on which the store and the memory agree: a hit comes when no hit has left the window
and adds a new member (or it repeats a member when one hit has left), and the count is asked for
when no hit is in the window.
-/
def Agreed (key : String) (windowMs : Rat) (next : Call) (counts : Counts × Counts) : Prop :=
  match next with
  | .increment now random =>
      expiredHits now windowMs key counts.2
        = if reqId now random ∈ storedHits key counts.1 then 1 else 0
  | .getCount now => validTimestamps now windowMs (listedHits key counts.2) = []
  | .reset => True

/-- As many hits are stored as are listed in memory. -/
def Level (key : String) (first second : Counts) : Prop :=
  Stored key first ∧ (storedHits key first).zcard = (listedHits key second).length

theorem validTimestamps_le (now : Int) (windowMs : Rat) (timestamps : List Int)
    : (validTimestamps now windowMs timestamps).length ≤ timestamps.length :=
  List.length_filter_le _ _

variable {first second : Counts}

/-- The calls they agree on are answered alike, and only these. -/
theorem call_alike (windowMs : Rat) (level : Level key first second) (next : Call)
    : (call (some redisOperations) key windowMs next first).1
        = (call none key windowMs next second).1
      ↔ Agreed key windowMs next (first, second) := by
  obtain ⟨stored, same⟩ := level
  obtain ⟨_, left⟩ := call_stored windowMs stored next
  have right := call_listed key windowMs second next
  cases next with
  | increment now random =>
      rw [left.1, right.1, SortedSet.zcard_zadd, same, Option.some.injEq]
      have fewer := validTimestamps_le now windowMs (listedHits key second)
      simp only [Agreed, expiredHits]
      by_cases repeated : reqId now random ∈ storedHits key first
      · rw [if_pos repeated, if_pos repeated]
        omega
      · rw [if_neg repeated, if_neg repeated]
        omega
  | getCount now =>
      rw [left.1, right.1, Option.some.injEq, eq_comm, List.length_eq_zero_iff]
      exact Iff.rfl
  | reset =>
      rw [left.1, right.1]
      exact iff_of_true rfl trivial

/-- These calls store as many hits as they list. -/
theorem call_level (windowMs : Rat) (level : Level key first second) {next : Call}
    (agreed : Agreed key windowMs next (first, second))
    : Level key (call (some redisOperations) key windowMs next first).2
        (call none key windowMs next second).2 := by
  have alike := (call_alike windowMs level next).mpr agreed
  obtain ⟨stored, same⟩ := level
  obtain ⟨keeps, left⟩ := call_stored windowMs stored next
  have right := call_listed key windowMs second next
  refine ⟨keeps, ?_⟩
  cases next with
  | increment now random =>
      rw [left.1, right.1, Option.some.injEq] at alike
      rw [left.2, right.2, alike, List.length_append, List.length_singleton]
  | getCount now => rw [left.2, right.2, same]
  | reset =>
      rw [left.2, right.2]
      rfl

end

/-- With `RedisOperations` and without a store the same counts are returned at every call, if and
only if the calls are such as the two agree on.
-/
theorem answers_eq_iff (key : String) (windowMs : Rat) (calls : List Call)
    : answers (call (some redisOperations) key windowMs) calls initial
        = answers (call none key windowMs) calls initial
      ↔ EveryStep
          (together (call (some redisOperations) key windowMs) (call none key windowMs))
          (Agreed key windowMs) calls (initial, initial) := by
  refine answers_eq_iff_everyStep (Level key) (Agreed key windowMs) ?_ ?_ calls ?_
  · exact fun next _ _ level => call_alike windowMs level next
  · exact fun _ _ _ level agreed => call_level windowMs level agreed
  · exact ⟨⟨rfl, rfl⟩, rfl⟩

/-- A hit is counted without a store and not with `RedisOperations`. -/
theorem counts_differ
    : ¬∀ (key : String) (windowMs : Rat) (calls : List Call),
        answers (call (some redisOperations) key windowMs) calls initial
          = answers (call none key windowMs) calls initial := by
  intro alike
  have same := alike "client" 1000 [.increment 0 "1f2e3d4c", .getCount 0]
  revert same
  decide +kernel

end SlidingWindowCounter

end QueueForge.RateLimiting
