import Mathlib.Algebra.Order.Field.Rat
import Mathlib.Data.Rat.Cast.Order
import QueueForge.Infrastructure.SortedSets

/-! `AdvancedRateLimiter`: the arrivals of a minute, in a sorted set where each is a member named
by its millisecond.
-/

namespace QueueForge.RateLimiting

open QueueForge.Infrastructure

namespace AdvancedRateLimiter

/-- A count that is stored as a text, until the moment from which it is gone, in milliseconds. -/
structure StoredCount where
  count : Nat
  expiresAt : Int

/-- What the limiter keeps in Redis. -/
structure Redis where
  sets : SortedSets
  counts : String → Option StoredCount

/-- `redis.get` and `parseInt`. -/
def countAt (redis : Redis) (now : Int) (key : String) : Nat :=
  match redis.counts key with
  | some stored => if now < stored.expiresAt then stored.count else 0
  | none => 0

/-- `SlidingWindowCounter.increment`. Where `redis` has no `zadd` it counts in a text that expires.
-/
def increment (zadd : Bool) (windowMs : Int) (redis : Redis) (now : Int) (key : String)
    : Nat × Redis :=
  let minTimestamp := now - windowMs
  if zadd then
    let added := redis.sets.zadd now key now (toString now)
    let removed := added.zremrangebyscore now key 0 minTimestamp
    (removed.zcard now key, { redis with sets := removed.pexpire now key windowMs })
  else
    let val := countAt redis now key + 1
    let expiresAt := now + 1000 * ((windowMs : Rat) / 1000).ceil
    (val, { redis with counts := Function.update redis.counts key (some ⟨val, expiresAt⟩) })

structure RateLimitResult where
  allowed : Bool
  limit : Nat
  remaining : Nat
  resetSeconds : Nat

def limitKey (identifier endpoint : String) : String :=
  s!"ratelimit:{identifier}:{endpoint}"

/-- The window of the limiter, one minute. -/
def windowMs : Int :=
  60000

def limit : Nat :=
  1000

/-- Asserts request limit checks. -/
def checkRateLimit (zadd : Bool) (redis : Redis) (now : Int) (identifier endpoint : String)
    : RateLimitResult × Redis :=
  let incremented := increment zadd windowMs redis now (limitKey identifier endpoint)
  let currentUsage := incremented.1
  let remaining := limit - currentUsage
  if limit < currentUsage then
    (⟨false, limit, 0, 60⟩, incremented.2)
  else
    (⟨true, limit, remaining, 60⟩, incremented.2)

-----------------------------------------------------------------------------------------
-- Checks in the order they come
-----------------------------------------------------------------------------------------

/-- A check and when it came. -/
structure Check where
  time : Int
  result : RateLimitResult

/-- Checks of a client at some times, newest first, on an empty store. -/
def checksAt (zadd : Bool) (identifier endpoint : String) : List Int → List Check × Redis
  | [] => ([], ⟨fun _ => ⟨∅, none⟩, fun _ => none⟩)
  | now :: earlier =>
      let before := checksAt zadd identifier endpoint earlier
      let checked := checkRateLimit zadd before.2 now identifier endpoint
      (⟨now, checked.1⟩ :: before.1, checked.2)

/-- The number of checks allowed in the window that begins at a time. -/
def allowedWithin (start : Int) (checks : List Check) : Nat :=
  checks.countP (fun check =>
    check.result.allowed && decide (start ≤ check.time ∧ check.time < start + windowMs))

-----------------------------------------------------------------------------------------
-- What the sorted set holds of the arrivals
-----------------------------------------------------------------------------------------

/-- The arrivals that are still in the window at a time. -/
def recent (now : Int) (times : List Int) : List Int :=
  times.filter (fun time => decide (now - windowMs < time))

section
variable {key : String} {redis : Redis} {now later : Int} {times : List Int}

theorem recent_of_later (ordered : now ≤ later)
    : (recent later times).Sublist (recent now times) := by
  refine List.monotone_filter_right _ (fun time inside => ?_)
  simp only [decide_eq_true_eq] at inside ⊢
  omega

/-- Nothing is recent one window after the newest arrival. -/
theorem recent_of_over (ended : ∀ time ∈ times, time ≤ now) (passed : now + windowMs ≤ later)
    : recent later times = [] := by
  refine List.filter_eq_nil_iff.mpr (fun time mem => ?_)
  have before := ended time mem
  simp only [decide_eq_true_eq]
  omega

theorem recent_cons_self (now : Int) (times : List Int)
    : recent now (now :: times) = now :: recent now times :=
  List.filter_cons_of_pos (by simp [windowMs])

/-- The entry of an arrival in the set. -/
def arrival (time : Int) : String × Rat :=
  (toString time, (time : Rat))

/-- The set of a key holds the arrivals that are recent at a time. -/
def Holds (key : String) (redis : Redis) (times : List Int) (now : Int) : Prop :=
  ((recent now times).map arrival).Sublist (redis.sets.liveAt now key).members.entries

theorem toString_injective : Function.Injective (toString : Int → String) := by
  have digits {first second : Nat} (same : first.repr = second.repr) : first = second := by
    have listed := congrArg (fun text => Nat.ofDigitChars 10 text.toList 0) same
    simpa only [Nat.toList_repr, Nat.ofDigitChars_ten_toDigits] using listed
  have signed (first second : Nat) : ¬first.repr = "-" ++ second.repr := by
    intro same
    have sign : '-' ∈ first.repr.toList := by
      rw [same, String.toList_append]
      exact List.mem_append_left _ (by decide)
    rw [Nat.toList_repr] at sign
    exact absurd (Nat.isDigit_of_mem_toDigits (by decide) (by decide) sign) (by decide)
  intro first second same
  rw [Int.toString_eq_repr, Int.toString_eq_repr] at same
  cases first with
  | ofNat first =>
      cases second with
      | ofNat second => exact congrArg Int.ofNat (digits same)
      | negSucc second => exact absurd same (signed _ _)
  | negSucc first =>
      cases second with
      | ofNat second => exact absurd same.symm (signed _ _)
      | negSucc second =>
          have magnitude := digits (String.append_right_inj _ |>.mp same)
          exact congrArg Int.negSucc (Nat.succ.inj magnitude)

/-- The set after an arrival, less what has left the window. -/
def arrived (set : SortedSet) (now : Int) : SortedSet :=
  (set.zadd now (toString now)).zremrangebyscore 0 (now - windowMs : Int)

/-- Arrivals that are recent stay in the set when an arrival at a new millisecond is added to it
and what has left the window is removed.
-/
theorem recent_kept {set : SortedSet} (new : now ∉ times)
    (holds : ((recent now times).map arrival).Sublist set.entries)
    : ((recent now (now :: times)).map arrival).Sublist
        (arrived set now).entries := by
  have added
      : ((recent now times).map arrival).Sublist
          (set.entries.filter (fun entry => entry.1 != toString now)) := by
    have apart
        : ((recent now times).map arrival).filter (fun entry => entry.1 != toString now)
          = (recent now times).map arrival := by
      refine List.filter_eq_self.mpr (fun entry mem => ?_)
      obtain ⟨time, made, rfl⟩ := List.mem_map.mp mem
      refine bne_iff_ne.mpr (fun same => new ?_)
      rw [← toString_injective same]
      exact List.mem_of_mem_filter made
    rw [← apart]
    exact holds.filter _
  have stays : ∀ entry ∈ (recent now (now :: times)).map arrival,
      (!decide (0 ≤ entry.2 ∧ entry.2 ≤ ((now - windowMs : Int) : Rat))) = true := by
    intro entry mem
    obtain ⟨time, made, rfl⟩ := List.mem_map.mp mem
    have after : now - windowMs < time := by
      simpa only [decide_eq_true_eq] using List.of_mem_filter made
    have removed : ¬(time : Rat) ≤ ((now - windowMs : Int) : Rat) := by
      rw [Int.cast_le]
      omega
    rw [Bool.not_eq_true', decide_eq_false_iff_not]
    exact fun both => removed both.2
  rw [← List.filter_eq_self.mpr stays]
  refine List.Sublist.filter _ ?_
  rw [recent_cons_self]
  exact added.cons_cons _

/-- A check counts the set with its arrival, which is kept for a window. -/
theorem increment_set (redis : Redis) (now : Int) (key : String)
    : let set := arrived (redis.sets.liveAt now key).members now
      (increment true windowMs redis now key).1 = set.zcard
      ∧ ∀ later,
          ((increment true windowMs redis now key).2.sets.liveAt later key).members
            = if later < now + windowMs then set else ∅ := by
  intro set
  have seen
      : (((redis.sets.zadd now key now (toString now)).zremrangebyscore now key 0
            (now - windowMs : Int)).liveAt now key).members
        = set := by
    rw [SortedSets.zremrangebyscore, SortedSets.liveAt_modify, SortedSets.zadd,
      SortedSets.liveAt_modify]
    rfl
  refine ⟨congrArg SortedSet.zcard seen, fun later => ?_⟩
  rw [← seen]
  exact SortedSets.liveAt_pexpire _ now later key windowMs

/-- A check at a new millisecond keeps what is recent and sees it. -/
theorem increment_holds (new : now ∉ times) (ended : ∀ time ∈ times, time ≤ now)
    (holds : Holds key redis times now)
    : let incremented := increment true windowMs redis now key
      (recent now (now :: times)).length ≤ incremented.1
      ∧ ∀ later, now ≤ later → Holds key incremented.2 (now :: times) later := by
  intro incremented
  obtain ⟨counted, stored⟩ := increment_set redis now key
  have kept := recent_kept new holds
  constructor
  · have fewer := kept.length_le
    rw [List.length_map] at fewer
    exact fewer.trans counted.ge
  · intro later ordered
    unfold Holds
    rw [stored later]
    split
    · exact ((recent_of_later ordered).map arrival).trans kept
    · rename_i passed
      rw [recent_of_over (List.forall_mem_cons.mpr ⟨le_rfl, ended⟩) (not_lt.mp passed)]
      exact List.nil_sublist _

/-- A check counts in the text what is recent, and renews its expiry. -/
theorem increment_counts (ended : ∀ time ∈ times, time ≤ now)
    (counted : (recent now times).length ≤ countAt redis now key)
    : let incremented := increment false windowMs redis now key
      (recent now (now :: times)).length ≤ incremented.1
      ∧ ∀ later,
          now ≤ later
          → (recent later (now :: times)).length ≤ countAt incremented.2 later key := by
  intro incremented
  have seen : (recent now (now :: times)).length ≤ countAt redis now key + 1 := by
    rw [recent_cons_self]
    exact Nat.succ_le_succ counted
  refine ⟨seen, fun later ordered => ?_⟩
  have lasts : 1000 * ((windowMs : Rat) / 1000).ceil = windowMs := by decide +kernel
  have stored
      : countAt incremented.2 later key
        = if later < now + windowMs then countAt redis now key + 1 else 0 := by
    simp [incremented, increment, countAt, lasts]
  rw [stored]
  split
  · exact (recent_of_later ordered).length_le.trans seen
  · rename_i passed
    rw [recent_of_over (List.forall_mem_cons.mpr ⟨le_rfl, ended⟩) (not_lt.mp passed)]
    exact Nat.zero_le _

/-- What is kept for a key sees the arrivals that are recent at a time. -/
def Sees (zadd : Bool) (key : String) (redis : Redis) (times : List Int) (now : Int) : Prop :=
  match zadd with
  | true => Holds key redis times now
  | false => (recent now times).length ≤ countAt redis now key

theorem increment_sees {zadd : Bool} (new : zadd = true → now ∉ times)
    (ended : ∀ time ∈ times, time ≤ now) (sees : Sees zadd key redis times now)
    : let incremented := increment zadd windowMs redis now key
      (recent now (now :: times)).length ≤ incremented.1
      ∧ ∀ later, now ≤ later → Sees zadd key incremented.2 (now :: times) later := by
  cases zadd with
  | true => exact increment_holds (new rfl) ended sees
  | false => exact increment_counts ended sees

end

-----------------------------------------------------------------------------------------
-- Any window of a run
-----------------------------------------------------------------------------------------

theorem checkRateLimit_allowed (zadd : Bool) (redis : Redis) (now : Int)
    (identifier endpoint : String)
    : (checkRateLimit zadd redis now identifier endpoint).1.allowed = true
      ↔ (increment zadd windowMs redis now (limitKey identifier endpoint)).1 ≤ limit := by
  unfold checkRateLimit
  dsimp only
  split
  · exact iff_of_false Bool.false_ne_true (by omega)
  · exact iff_of_true rfl (by omega)

theorem checkRateLimit_redis (zadd : Bool) (redis : Redis) (now : Int)
    (identifier endpoint : String)
    : (checkRateLimit zadd redis now identifier endpoint).2
      = (increment zadd windowMs redis now (limitKey identifier endpoint)).2 := by
  unfold checkRateLimit
  dsimp only
  split <;> rfl

theorem checksAt_times (zadd : Bool) (identifier endpoint : String) (times : List Int)
    : (checksAt zadd identifier endpoint times).1.map Check.time = times := by
  induction times with
  | nil => rfl
  | cons now earlier ih => exact congrArg (now :: ·) ih

/-- At no time a later check misses a recent arrival, by induction on the checks. -/
theorem checksAt_sees {zadd : Bool} (identifier endpoint : String) {times : List Int}
    (ordered : times.Pairwise (fun later earlier => earlier ≤ later))
    (apart : zadd = true → times.Nodup) (later : Int) (ended : ∀ time ∈ times, time ≤ later)
    : Sees zadd (limitKey identifier endpoint) (checksAt zadd identifier endpoint times).2 times
        later := by
  induction times generalizing later with
  | nil =>
      cases zadd with
      | true => exact List.nil_sublist _
      | false => exact Nat.zero_le _
  | cons now earlier ih =>
      obtain ⟨newer, ordered⟩ := List.pairwise_cons.mp ordered
      have sees := ih ordered (fun used => (List.nodup_cons.mp (apart used)).2) now newer
      have kept :=
        increment_sees (fun used => (List.nodup_cons.mp (apart used)).1) newer sees
      rw [checksAt, checkRateLimit_redis]
      exact kept.2 later (ended now List.mem_cons_self)

theorem allowedWithin_cons {start now : Int} {result : RateLimitResult}
    (allowed : result.allowed = true) (within : start ≤ now ∧ now < start + windowMs)
    (checks : List Check)
    : allowedWithin start (⟨now, result⟩ :: checks) = allowedWithin start checks + 1 :=
  List.countP_cons_of_pos (by rw [allowed, decide_eq_true within]; rfl)

/-- What is allowed in a window is recent before the window ends. -/
theorem allowedWithin_le_recent {start now : Int} (within : now < start + windowMs)
    (checks : List Check)
    : allowedWithin start checks ≤ (recent now (checks.map Check.time)).length := by
  rw [recent, ← List.countP_eq_length_filter, List.countP_map]
  refine List.countP_mono_left (fun check _ counted => ?_)
  simp only [Bool.and_eq_true, decide_eq_true_eq] at counted
  simp only [Function.comp_apply, decide_eq_true_eq]
  omega

/-- In any window of a minute a client is allowed at most the limit at an endpoint, if no two of
its checks there come in the same millisecond.
-/
theorem allowedWithin_le_limit (zadd : Bool) (identifier endpoint : String) {times : List Int}
    (ordered : times.Pairwise (fun later earlier => earlier ≤ later))
    (apart : zadd = true → times.Nodup) (start : Int)
    : allowedWithin start (checksAt zadd identifier endpoint times).1 ≤ limit := by
  induction times with
  | nil => exact Nat.zero_le _
  | cons now earlier ih =>
      obtain ⟨newer, before⟩ := List.pairwise_cons.mp ordered
      have others : zadd = true → earlier.Nodup := fun used => (List.nodup_cons.mp (apart used)).2
      by_cases counts
          : ((checkRateLimit zadd (checksAt zadd identifier endpoint earlier).2 now identifier
                endpoint).1.allowed
              && decide (start ≤ now ∧ now < start + windowMs)) = true
      · -- the newest check is allowed, and what is allowed with it is recent
        rw [Bool.and_eq_true, decide_eq_true_eq, checkRateLimit_allowed] at counts
        obtain ⟨allowed, _, within⟩ := counts
        have sees := checksAt_sees identifier endpoint before others now newer
        have usage :=
          (increment_sees (fun used => (List.nodup_cons.mp (apart used)).1) newer sees).1
        calc
          allowedWithin start (checksAt zadd identifier endpoint (now :: earlier)).1
              ≤ (recent now (now :: earlier)).length := by
            have bounded := allowedWithin_le_recent within
              (checksAt zadd identifier endpoint (now :: earlier)).1
            rwa [checksAt_times] at bounded
          _ ≤ limit := usage.trans allowed
      · have same
            : allowedWithin start (checksAt zadd identifier endpoint (now :: earlier)).1
              = allowedWithin start (checksAt zadd identifier endpoint earlier).1 :=
          List.countP_cons_of_neg counts
        rw [same]
        exact ih before others

/-- Two checks a second apart and one after the window. -/
theorem allowedWithin_le_limit_of_three
    : allowedWithin 0 (checksAt true "client" "/results" [61000, 1000, 0]).1 ≤ limit :=
  allowedWithin_le_limit true "client" "/results" (by decide) (fun _ => by decide) 0

-----------------------------------------------------------------------------------------
-- Arrivals of one millisecond
-----------------------------------------------------------------------------------------

/-- An arrival whose member is all that a set holds leaves it as it is. -/
theorem arrived_repeated {set : SortedSet}
    (holds : ∀ entry ∈ set.entries, entry.1 = toString (0 : Int))
    : (arrived set 0).entries = [(toString (0 : Int), 0)] := by
  have none : set.entries.filter (fun entry => entry.1 != toString (0 : Int)) = [] := by
    refine List.filter_eq_nil_iff.mpr (fun entry mem => ?_)
    simp [holds entry mem]
  have added : (set.zadd 0 (toString (0 : Int))).entries = [(toString (0 : Int), 0)] :=
    congrArg ((toString (0 : Int), (0 : Rat)) :: ·) none
  have kept
      : (arrived set 0).entries
        = (set.zadd 0 (toString (0 : Int))).entries.filter (fun entry =>
            !decide (0 ≤ entry.2 ∧ entry.2 ≤ ((0 - windowMs : Int) : Rat))) :=
    rfl
  rw [kept, added]
  decide +kernel

/-- Any number of checks in one millisecond are one member, by induction on the number. -/
theorem checksAt_simultaneous (identifier endpoint : String) (count : Nat)
    : let checks := checksAt true identifier endpoint (List.replicate count 0)
      allowedWithin 0 checks.1 = count
      ∧ ∀ entry ∈ (checks.2.sets.liveAt 0 (limitKey identifier endpoint)).members.entries,
          entry.1 = toString (0 : Int) := by
  induction count with
  | zero => exact ⟨rfl, fun _ mem => nomatch mem⟩
  | succ count ih =>
      obtain ⟨allowed, repeated⟩ := ih
      have single := arrived_repeated repeated
      obtain ⟨counted, stored⟩ := increment_set
        (checksAt true identifier endpoint (List.replicate count 0)).2 0
        (limitKey identifier endpoint)
      have within
          : (checkRateLimit true (checksAt true identifier endpoint (List.replicate count 0)).2 0
              identifier endpoint).1.allowed = true := by
        rw [checkRateLimit_allowed, counted, SortedSet.zcard, single]
        decide
      rw [List.replicate_succ, checksAt, checkRateLimit_redis]
      dsimp only
      rw [stored 0, if_pos (by decide), single]
      constructor
      · rw [allowedWithin_cons within (by decide), allowed]
      · exact List.forall_mem_singleton.mpr rfl

/-- A thousand and one checks in one millisecond are allowed. -/
theorem simultaneous_over_limit
    : ¬∀ (identifier endpoint : String) (times : List Int),
        times.Pairwise (fun later earlier => earlier ≤ later)
        → ∀ start, allowedWithin start (checksAt true identifier endpoint times).1 ≤ limit := by
  intro bounded
  have ended := bounded "client" "/results" (List.replicate 1001 0)
    (List.pairwise_replicate.mpr (.inr le_rfl)) 0
  rw [(checksAt_simultaneous "client" "/results" 1001).1] at ended
  exact absurd ended (by decide)

end AdvancedRateLimiter

end QueueForge.RateLimiting
