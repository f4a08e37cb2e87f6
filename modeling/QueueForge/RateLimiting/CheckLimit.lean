import Mathlib.Algebra.Order.Field.Rat
import Mathlib.Data.Rat.Cast.Order
import Mathlib.Tactic.Linarith
import QueueForge.Js.Values
import QueueForge.RateLimiting.SlidingWindowCounter

/-! `RateLimiter.checkLimit`: a hit is counted before it is judged, one that is refused too.
Numbers are exact.
-/

namespace QueueForge.RateLimiting

open QueueForge.Infrastructure QueueForge.Js

namespace CheckLimit

open SlidingWindowCounter

/-- A call of `checkLimit`: the key, the two readings of the clock and what `randomBytes` gives.
If a command of the store is rejected, then the store holds some sets after it.
-/
structure Hit where
  key : String
  time : Int
  judgedAt : Int
  random : String
  rejected : Option SortedSets

/-- `counter.increment`. When a command of the store is rejected, the hit is counted in memory. -/
def increment (redisOps : Option RedisOps) (counts : Counts) (hit : Hit) (windowMs : Rat)
    : Nat × Counts :=
  match hit.rejected.filter (fun _ => redisOps.any RedisOps.zadd) with
  | some sets => incrementInMemory { counts with sets } hit.time hit.key windowMs
  | none => SlidingWindowCounter.increment redisOps counts hit.time hit.random hit.key windowMs

structure RateLimitCheckResult where
  allowed : Bool
  limit : Number
  remaining : Number
  resetTime : Date
  retryAfterSeconds : Int

/-- Asserts whether a key has exceeded its allowed hit capacity over the windowMs duration. -/
def checkLimit (redisOps : Option RedisOps) (counts : Counts) (hit : Hit) (limit : Number)
    (windowMs : Rat)
    : RateLimitCheckResult × Counts :=
  let incremented := increment redisOps counts hit windowMs
  let currentCount : Number := .ofInt incremented.1
  ({
    allowed := currentCount.le limit
    limit
    remaining := Number.max 0 (limit.add currentCount.neg)
    resetTime := Date.ofNumber (.finite (hit.judgedAt + windowMs))
    retryAfterSeconds := (windowMs / 1000).ceil
  }, incremented.2)

-----------------------------------------------------------------------------------------
-- Checks in the order they come
-----------------------------------------------------------------------------------------

/-- A check of a key, and when it came. -/
structure Check where
  key : String
  time : Int
  result : RateLimitCheckResult

/-- Checks with one limit and one window, newest first, on a limiter that has counted nothing. -/
def checksAt (redisOps : Option RedisOps) (limit : Number) (windowMs : Rat)
    : List Hit → List Check × Counts
  | [] => ([], initial)
  | hit :: earlier =>
      let before := checksAt redisOps limit windowMs earlier
      let checked := checkLimit redisOps before.2 hit limit windowMs
      (⟨hit.key, hit.time, checked.1⟩ :: before.1, checked.2)

/-- The number of checks of a key allowed in the window that ends at a time, without its start. -/
def allowedBefore (key : String) (windowMs stop : Rat) (checks : List Check) : Nat :=
  checks.countP (fun check =>
    decide (check.key = key) && check.result.allowed
      && decide (stop - windowMs < check.time ∧ (check.time : Rat) ≤ stop))

/-- A hit that the in-memory fallback counts. -/
def InMemory (redisOps : Option RedisOps) (windowMs : Rat) (hit : Hit) : Prop :=
  ∀ counts,
    ∃ sets,
      increment redisOps counts hit windowMs
      = incrementInMemory { counts with sets } hit.time hit.key windowMs

section
variable {redisOps : Option RedisOps} {windowMs : Rat} {hit : Hit}

/-- The fallback counts where the store has no command to add a hit or none to count the hits. -/
theorem inMemory_of_missing (missing : redisOps.any (fun ops => ops.zadd && ops.zcard) = false)
    : InMemory redisOps windowMs hit := by
  intro counts
  cases rejected : hit.rejected.filter (fun _ => redisOps.any RedisOps.zadd) with
  | some sets => exact ⟨sets, by simp only [increment, rejected]⟩
  | none =>
      simp only [increment, rejected, SlidingWindowCounter.increment]
      split
      · next ops found =>
        obtain ⟨rfl, adds⟩ := Option.filter_eq_some_iff.mp found
        have uncounted : ops.zcard = false := by simpa [adds] using missing
        split
        · exact ⟨_, rfl⟩
        · exact ⟨_, by rw [uncounted]; rfl⟩
      · exact ⟨counts.sets, rfl⟩

/-- The fallback counts where a command of the store is rejected. -/
theorem inMemory_of_rejected {sets : SortedSets} (rejected : hit.rejected = some sets)
    (adds : redisOps.any RedisOps.zadd = true)
    : InMemory redisOps windowMs hit := by
  intro counts
  refine ⟨sets, ?_⟩
  simp only [increment, rejected, adds, Option.filter, if_true]

end

-----------------------------------------------------------------------------------------
-- The timestamps in memory tell the hits of a window
-----------------------------------------------------------------------------------------

/-- The number of times in the window that ends at a later time. -/
def recent (windowMs : Rat) (later : Int) (times : List Int) : Nat :=
  times.countP (fun time : Int => decide ((later : Rat) - windowMs < time))

/-- The times of the hits of a key. -/
def timesOf (key : String) (hits : List Hit) : List Int :=
  (hits.filter (fun hit => decide (hit.key = key))).map Hit.time

section
variable {redisOps : Option RedisOps} {windowMs : Rat} {key : String}

theorem recent_cons (later time : Int) (times : List Int)
    : recent windowMs later (time :: times)
      = recent windowMs later times + if (later : Rat) - windowMs < time then 1 else 0 := by
  simp [recent, List.countP_cons]

/-- What a hit drops has left every later window. -/
theorem recent_append_validTimestamps {now later : Int} (ordered : now ≤ later)
    (timestamps : List Int)
    : recent windowMs later (validTimestamps now windowMs timestamps ++ [now])
      = recent windowMs later (now :: timestamps) := by
  have cast : (now : Rat) ≤ later := Int.cast_le.mpr ordered
  have kept
      : recent windowMs later (validTimestamps now windowMs timestamps)
        = recent windowMs later timestamps := by
    rw [recent, recent, validTimestamps, List.countP_filter]
    refine List.countP_congr (fun time _ => ?_)
    simp only [Bool.and_eq_true, decide_eq_true_eq, and_iff_left_iff_imp]
    intro inside
    exact lt_of_le_of_lt (sub_le_sub_right cast windowMs) inside
  rw [recent_cons, ← kept]
  simp [recent]

/-- The count of a hit is that of the listed hits that are still in its window, with itself. -/
theorem length_validTimestamps (now : Int) (timestamps : List Int)
    : (validTimestamps now windowMs timestamps).length = recent windowMs now timestamps :=
  (List.countP_eq_length_filter ..).symm

theorem timesOf_cons_self (hit : Hit) (hits : List Hit)
    : timesOf hit.key (hit :: hits) = hit.time :: timesOf hit.key hits := by
  simp [timesOf]

theorem timesOf_cons_of_ne {hit : Hit} (other : hit.key ≠ key) (hits : List Hit)
    : timesOf key (hit :: hits) = timesOf key hits := by
  simp [timesOf, other]

variable (limit : Number) {hits : List Hit}
  (ordered : hits.Pairwise (fun later earlier => earlier.time ≤ later.time))
  (memory : ∀ hit ∈ hits, InMemory redisOps windowMs hit)
include ordered memory

/-- At no time the list of a key misses a hit that is still in the window or has one too many, by
induction on the hits.
-/
theorem checksAt_lists (key : String) {later : Int} (ended : ∀ hit ∈ hits, hit.time ≤ later)
    : recent windowMs later (listedHits key (checksAt redisOps limit windowMs hits).2)
      = recent windowMs later (timesOf key hits) := by
  induction hits with
  | nil => rfl
  | cons hit earlier ih =>
      obtain ⟨newer, before⟩ := List.pairwise_cons.mp ordered
      have listed :=
        ih before (fun hit mem => memory hit (List.mem_cons_of_mem _ mem))
          (fun hit mem => ended hit (List.mem_cons_of_mem _ mem))
      obtain ⟨sets, counted⟩ :=
        memory hit List.mem_cons_self (checksAt redisOps limit windowMs earlier).2
      rw [checksAt, checkLimit, counted]
      by_cases same : hit.key = key
      · subst same
        rw [timesOf_cons_self, recent_cons, ← listed, ← recent_cons,
          ← recent_append_validTimestamps (ended hit List.mem_cons_self)]
        simp [listedHits, incrementInMemory]
      · rw [timesOf_cons_of_ne same, ← listed]
        simp [listedHits, incrementInMemory, Function.update_of_ne (Ne.symm same)]

/-- The newest hit is counted with all that are in its window. -/
theorem increment_counts_recent {hit : Hit} (newer : ∀ earlier ∈ hits, earlier.time ≤ hit.time)
    (inMemory : InMemory redisOps windowMs hit) (positive : 0 < windowMs)
    : (increment redisOps (checksAt redisOps limit windowMs hits).2 hit windowMs).1
      = recent windowMs hit.time (timesOf hit.key (hit :: hits)) := by
  obtain ⟨sets, counted⟩ := inMemory (checksAt redisOps limit windowMs hits).2
  have inside : (hit.time : Rat) - windowMs < hit.time := sub_lt_self _ positive
  rw [counted, timesOf_cons_self, recent_cons, if_pos inside,
    ← checksAt_lists limit ordered memory hit.key newer]
  simp [incrementInMemory, length_validTimestamps, listedHits]

end

-----------------------------------------------------------------------------------------
-- Any window of a run
-----------------------------------------------------------------------------------------

section
variable {redisOps : Option RedisOps} {limit : Number} {windowMs : Rat}

/-- What is allowed in a window has been hit in the window of a time before its end. -/
theorem allowedBefore_le_recent (redisOps : Option RedisOps) (limit : Number) (windowMs : Rat)
    (key : String) {now : Int} {stop : Rat} (inside : (now : Rat) ≤ stop) (hits : List Hit)
    : allowedBefore key windowMs stop (checksAt redisOps limit windowMs hits).1
      ≤ recent windowMs now (timesOf key hits) := by
  induction hits with
  | nil => exact Nat.zero_le _
  | cons hit earlier ih =>
      rw [checksAt, allowedBefore, List.countP_cons]
      by_cases same : hit.key = key
      · subst same
        rw [timesOf_cons_self, recent_cons]
        refine Nat.add_le_add ih ?_
        by_cases within : (now : Rat) - windowMs < hit.time
        · rw [if_pos within]
          split <;> simp
        · have before : ¬stop - windowMs < hit.time := by linarith
          simp [before]
      · rw [timesOf_cons_of_ne same]
        simpa [same, allowedBefore] using ih

/-- In any window a key is allowed at most the limit, whenever the checks come and however many are
refused. Where the limit is no number of checks, below zero or `NaN`, none is allowed.
-/
theorem allows_at_most_limit (limit : Number) (positive : 0 < windowMs) {hits : List Hit}
    (ordered : hits.Pairwise (fun later earlier => earlier.time ≤ later.time))
    (memory : ∀ hit ∈ hits, InMemory redisOps windowMs hit) (key : String) (stop : Rat)
    : let allowed := allowedBefore key windowMs stop (checksAt redisOps limit windowMs hits).1
      (Number.ofInt allowed).le limit = true ∨ allowed = 0 := by
  induction hits with
  | nil => exact .inr rfl
  | cons hit earlier ih =>
      obtain ⟨newer, before⟩ := List.pairwise_cons.mp ordered
      have others : ∀ hit ∈ earlier, InMemory redisOps windowMs hit :=
        fun hit mem => memory hit (List.mem_cons_of_mem _ mem)
      let checked :=
        checkLimit redisOps (checksAt redisOps limit windowMs earlier).2 hit limit windowMs
      by_cases counts
          : (decide (hit.key = key) && checked.1.allowed
              && decide (stop - windowMs < hit.time ∧ (hit.time : Rat) ≤ stop)) = true
      · -- the newest check is allowed, and it counts all that is allowed with it
        simp only [Bool.and_eq_true, decide_eq_true_eq] at counts
        obtain ⟨⟨rfl, allowed⟩, _, inside⟩ := counts
        have counted : checked.1.allowed
            = (Number.ofInt (recent windowMs hit.time (timesOf hit.key (hit :: earlier)))).le
              limit := by
          rw [← increment_counts_recent limit before others newer (memory hit List.mem_cons_self)
            positive]
          rfl
        rw [counted] at allowed
        have fewer :=
          allowedBefore_le_recent redisOps limit windowMs hit.key inside (hit :: earlier)
        exact .inl (Number.ofInt_le_of_le (Int.ofNat_le.mpr fewer) allowed)
      · have same
            : allowedBefore key windowMs stop (checksAt redisOps limit windowMs (hit :: earlier)).1
              = allowedBefore key windowMs stop (checksAt redisOps limit windowMs earlier).1 :=
          List.countP_cons_of_neg counts
        rw [same]
        exact ih before others

end

/-- Three hits within a second, of which the last is refused, and one after them. -/
theorem allows_at_most_limit_of_four
    : let hits : List Hit :=
        [⟨"client", 1500, 1500, "", none⟩, ⟨"client", 700, 700, "", none⟩,
          ⟨"client", 300, 300, "", none⟩, ⟨"client", 0, 0, "", none⟩]
      let allowed := allowedBefore "client" 1000 1500 (checksAt none 2 1000 hits).1
      (Number.ofInt allowed).le 2 = true ∨ allowed = 0 :=
  allows_at_most_limit 2 (by norm_num) (by decide) (fun _ _ => inMemory_of_missing rfl) "client" 1500

end CheckLimit

end QueueForge.RateLimiting
