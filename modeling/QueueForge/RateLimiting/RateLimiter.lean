import Mathlib.Algebra.Order.Field.Rat
import Mathlib.Data.Rat.Cast.Order
import Mathlib.Tactic.Linarith
import Mathlib.Tactic.Ring
import QueueForge.Js.Errors
import QueueForge.RateLimiting.Funding

/-! `RateLimiter`: a token bucket in Redis, which a call refills by the time that has passed and
takes a token from. Numbers are exact, and a call takes place at one time of the clock.
-/

namespace QueueForge.RateLimiting

open QueueForge.Js

structure TokenBucketState where
  tokens : Rat
  lastRefillAt : Int
deriving DecidableEq

/-- A bucket as `setex` stores it, until the moment from which it is gone, in milliseconds. -/
structure StoredBucket where
  state : TokenBucketState
  expiresAt : Int
deriving DecidableEq

/-- The buckets in the store, by their keys. -/
abbrev Buckets : Type := String → Option StoredBucket

namespace Buckets

/-- `redis.get`. -/
def get (buckets : Buckets) (now : Int) (key : String) : Option TokenBucketState :=
  ((buckets key).filter (fun stored => decide (now < stored.expiresAt))).map StoredBucket.state

/-- `redis.setex`, which takes a positive whole number of seconds. -/
def setex (buckets : Buckets) (now : Int) (key : String) (seconds : Rat)
    (state : TokenBucketState)
    : Except Thrown Buckets :=
  if seconds.den ≠ 1 then
    .error (newError "ERR value is not an integer or out of range")
  else if seconds.num ≤ 0 then
    .error (newError "ERR invalid expire time in 'setex' command")
  else
    .ok (Function.update buckets key (some ⟨state, now + 1000 * seconds.num⟩))

end Buckets

/-- A time of the clock in seconds. -/
def seconds (time : Int) : Rat :=
  time / 1000

namespace RateLimiter

def cacheKey (key : String) : String :=
  s!"rate_limiter:{key}"

/-- Evaluates bucket state and refills tokens based on elapsed time. -/
def getRefilledBucket (buckets : Buckets) (now : Int) (key : String) (limit windowSeconds : Rat)
    : TokenBucketState :=
  match buckets.get now (cacheKey key) with
  | none => { tokens := limit, lastRefillAt := now }
  | some state =>
      let refillRate := limit / windowSeconds
      let elapsedSeconds : Rat := ((now - state.lastRefillAt : Int) : Rat) / 1000
      { tokens := min limit (state.tokens + elapsedSeconds * refillRate), lastRefillAt := now }

/-- Asserts if request complies with token quotas, updating bucket levels. -/
def isAllowed (buckets : Buckets) (now : Int) (key : String) (limit windowSeconds : Rat)
    : Except Thrown Bool × Buckets :=
  let state := getRefilledBucket buckets now key limit windowSeconds
  if 1 ≤ state.tokens then
    match
      buckets.setex now (cacheKey key) windowSeconds { state with tokens := state.tokens - 1 }
    with
    | .ok written => (.ok true, written)
    | .error error => (.error error, buckets)
  else
    (.ok false, buckets)

/-- A call, when it came and whether it was allowed. -/
structure Call where
  time : Int
  allowed : Bool
deriving DecidableEq

/-- Calls at some times, newest first, on a key that has no bucket yet. -/
def callsAt (key : String) (limit windowSeconds : Rat) : List Int → List Call × Buckets
  | [] => ([], fun _ => none)
  | now :: earlier =>
      let before := callsAt key limit windowSeconds earlier
      let called := isAllowed before.2 now key limit windowSeconds
      (⟨now, decide (called.1 = .ok true)⟩ :: before.1, called.2)

/-- The number of calls allowed in an interval of seconds. -/
def allowedWithin (start stop : Rat) (calls : List Call) : Nat :=
  calls.countP (fun call =>
    call.allowed && decide (start ≤ seconds call.time ∧ seconds call.time ≤ stop))

-----------------------------------------------------------------------------------------
-- The bucket of a key over any calls
-----------------------------------------------------------------------------------------

section
variable {key : String} {limit windowSeconds : Rat} {buckets : Buckets} {now later : Int}

/-- The tokens a call finds. -/
def level (key : String) (limit windowSeconds : Rat) (buckets : Buckets) (now : Int) : Rat :=
  (getRefilledBucket buckets now key limit windowSeconds).tokens

/-- A stored bucket is not overdrawn and is there for a window from its last refill. -/
def Kept (key : String) (windowSeconds : Rat) (buckets : Buckets) : Prop :=
  ∀ stored,
    buckets (cacheKey key) = some stored
    → 0 ≤ stored.state.tokens
      ∧ seconds stored.state.lastRefillAt + windowSeconds ≤ seconds stored.expiresAt

theorem level_missing (missing : buckets (cacheKey key) = none)
    : level key limit windowSeconds buckets now = limit := by
  simp [level, getRefilledBucket, Buckets.get, missing]

theorem level_expired {stored : StoredBucket} (found : buckets (cacheKey key) = some stored)
    (expired : stored.expiresAt ≤ now)
    : level key limit windowSeconds buckets now = limit := by
  simp [level, getRefilledBucket, Buckets.get, found, Option.filter, not_lt.mpr expired]

theorem level_live {stored : StoredBucket} (found : buckets (cacheKey key) = some stored)
    (live : now < stored.expiresAt)
    : level key limit windowSeconds buckets now
      = min limit
        (stored.state.tokens
          + limit / windowSeconds * (seconds now - seconds stored.state.lastRefillAt)) := by
  simp only [level, getRefilledBucket, Buckets.get, found, Option.filter, live, decide_true,
    if_true, Option.map_some, seconds]
  congr 2
  push_cast
  ring

/-- A bucket is never more than full. -/
theorem level_le_limit : level key limit windowSeconds buckets now ≤ limit := by
  cases found : buckets (cacheKey key) with
  | none => exact (level_missing found).le
  | some stored =>
      by_cases live : now < stored.expiresAt
      · rw [level_live found live]
        exact min_le_left _ _
      · exact (level_expired found (not_lt.mp live)).le

theorem seconds_le_seconds (ordered : now ≤ later) : seconds now ≤ seconds later := by
  have cast : (now : Rat) ≤ later := Int.cast_le.mpr ordered
  unfold seconds
  linarith

/-- Time adds to a bucket no more than the refill rate does. When the bucket expires, the rate has
filled it.
-/
theorem level_le_level_add (nonneg : 0 ≤ limit) (positive : 0 < windowSeconds)
    (kept : Kept key windowSeconds buckets) (ordered : now ≤ later)
    : level key limit windowSeconds buckets later
      ≤ level key limit windowSeconds buckets now
        + limit / windowSeconds * (seconds later - seconds now) := by
  have rate : 0 ≤ limit / windowSeconds := div_nonneg nonneg positive.le
  have passed : 0 ≤ limit / windowSeconds * (seconds later - seconds now) :=
    mul_nonneg rate (sub_nonneg.mpr (seconds_le_seconds ordered))
  cases found : buckets (cacheKey key) with
  | none =>
      rw [level_missing found, level_missing found]
      exact le_add_of_nonneg_right passed
  | some stored =>
      obtain ⟨solvent, lasts⟩ := kept stored found
      by_cases live : now < stored.expiresAt
      · rw [level_live found live]
        rcases le_total limit
            (stored.state.tokens
              + limit / windowSeconds * (seconds now - seconds stored.state.lastRefillAt))
          with full | below
        · rw [min_eq_left full]
          exact level_le_limit.trans (le_add_of_nonneg_right passed)
        · rw [min_eq_right below]
          have total
              : limit / windowSeconds * (seconds now - seconds stored.state.lastRefillAt)
                  + limit / windowSeconds * (seconds later - seconds now)
                = limit / windowSeconds * (seconds later - seconds stored.state.lastRefillAt) := by
            ring
          rw [add_assoc, total]
          by_cases after : later < stored.expiresAt
          · rw [level_live found after]
            exact min_le_right _ _
          · have ended := seconds_le_seconds (not_lt.mp after)
            have window
                : windowSeconds ≤ seconds later - seconds stored.state.lastRefillAt := by
              linarith
            calc
              level key limit windowSeconds buckets later ≤ limit := level_le_limit
              _ = limit / windowSeconds * windowSeconds :=
                (div_mul_cancel₀ limit positive.ne').symm
              _ ≤ limit / windowSeconds * (seconds later - seconds stored.state.lastRefillAt) :=
                mul_le_mul_of_nonneg_left window rate
              _ ≤ stored.state.tokens
                  + limit / windowSeconds * (seconds later - seconds stored.state.lastRefillAt) :=
                le_add_of_nonneg_left solvent
      · have gone := not_lt.mp live
        rw [level_expired found gone, level_expired found (gone.trans ordered)]
        exact le_add_of_nonneg_right passed

/-- A call takes a token that is there, or leaves the buckets as they are. -/
theorem isAllowed_cases (key : String) (limit windowSeconds : Rat) (buckets : Buckets) (now : Int)
    : (isAllowed buckets now key limit windowSeconds).1 ≠ .ok true
        ∧ (isAllowed buckets now key limit windowSeconds).2 = buckets
      ∨ (isAllowed buckets now key limit windowSeconds).1 = .ok true
        ∧ 1 ≤ level key limit windowSeconds buckets now
        ∧ level key limit windowSeconds (isAllowed buckets now key limit windowSeconds).2 now
          = level key limit windowSeconds buckets now - 1
        ∧ Kept key windowSeconds (isAllowed buckets now key limit windowSeconds).2 := by
  unfold isAllowed
  by_cases enough : 1 ≤ (getRefilledBucket buckets now key limit windowSeconds).tokens
  · rw [if_pos enough]
    unfold Buckets.setex
    by_cases whole : windowSeconds.den ≠ 1
    · rw [if_pos whole]
      exact .inl ⟨nofun, rfl⟩
    · rw [if_neg whole]
      by_cases short : windowSeconds.num ≤ 0
      · rw [if_pos short]
        exact .inl ⟨nofun, rfl⟩
      · rw [if_neg short]
        have refilled
            : (getRefilledBucket buckets now key limit windowSeconds).lastRefillAt = now := by
          unfold getRefilledBucket
          split <;> rfl
        refine .inr ⟨rfl, enough, ?_, ?_⟩
        · rw [level_live (Function.update_self ..) (by simp only; omega)]
          simp only [refilled, sub_self, mul_zero, add_zero]
          have full : (getRefilledBucket buckets now key limit windowSeconds).tokens ≤ limit :=
            level_le_limit
          exact min_eq_right ((sub_le_self _ zero_le_one).trans full)
        · intro stored found
          simp only [Function.update_self] at found
          obtain rfl := Option.some.inj found
          refine ⟨sub_nonneg.mpr enough, ?_⟩
          have counted : (windowSeconds.num : Rat) = windowSeconds :=
            (Rat.den_eq_one_iff _).mp (not_not.mp whole)
          simp only [refilled, seconds]
          push_cast
          rw [counted]
          linarith
  · rw [if_neg enough]
    exact .inl ⟨by simp, rfl⟩

-----------------------------------------------------------------------------------------
-- Allowed calls as draws from that level
-----------------------------------------------------------------------------------------

/-- What a call draws from the bucket. -/
def Call.draw (call : Call) : Draw Rat Rat where
  time := seconds call.time
  amount := if call.allowed then 1 else 0

/-- The number of calls that are allowed is what they draw. -/
theorem drawnWithin_calls (start stop : Rat) (calls : List Call)
    : drawnWithin start stop (calls.map Call.draw) = allowedWithin start stop calls := by
  induction calls with
  | nil => rfl
  | cons call earlier ih =>
      have more
          : allowedWithin start stop (call :: earlier)
            = allowedWithin start stop earlier
              + if call.allowed && decide (start ≤ seconds call.time ∧ seconds call.time ≤ stop)
                then 1 else 0 :=
        List.countP_cons
      rw [List.map_cons, drawnWithin_cons, ih, more]
      cases allowed : call.allowed with
      | false => simp [Call.draw, allowed]
      | true =>
          by_cases inside : start ≤ seconds call.time ∧ seconds call.time ≤ stop
          · simp [Call.draw, allowed, inside, add_comm]
          · simp [Call.draw, allowed, inside]

theorem callsAt_times (key : String) (limit windowSeconds : Rat) (times : List Int)
    : (callsAt key limit windowSeconds times).1.map Call.time = times := by
  induction times with
  | nil => rfl
  | cons now earlier ih => exact congrArg (now :: ·) ih

/-- What has flowed into a bucket since a time. -/
def inflow (limit windowSeconds now start : Rat) : Rat :=
  limit / windowSeconds * max 0 (now - start)

section
variable {calls : List Call} (nonneg : 0 ≤ limit) (positive : 0 < windowSeconds)
include nonneg positive

theorem inflow_nonneg (start : Rat) : 0 ≤ inflow limit windowSeconds (seconds now) start :=
  mul_nonneg (div_nonneg nonneg positive.le) (le_max_left _ _)

/-- Time passes after the calls so far. -/
theorem funded_later (kept : Kept key windowSeconds buckets) (ordered : now ≤ later)
    (ended : ∀ call ∈ calls, call.time ≤ now)
    (funded
      : Funded limit (inflow limit windowSeconds (seconds now)) (calls.map Call.draw)
          (level key limit windowSeconds buckets now))
    : Funded limit (inflow limit windowSeconds (seconds later)) (calls.map Call.draw)
        (level key limit windowSeconds buckets later) := by
  have rate : 0 ≤ limit / windowSeconds := div_nonneg nonneg positive.le
  have passed : 0 ≤ seconds later - seconds now := sub_nonneg.mpr (seconds_le_seconds ordered)
  refine funded.refill nonneg level_le_limit (inflow_nonneg nonneg positive) ?_
    (mul_nonneg rate passed)
    (.inl (level_le_level_add nonneg positive kept ordered))
  rintro start ⟨_, mem, counts⟩
  obtain ⟨call, made, rfl⟩ := List.mem_map.mp mem
  have begun : start ≤ seconds now := counts.trans (seconds_le_seconds (ended call made))
  unfold inflow
  rw [max_eq_right (sub_nonneg.mpr begun), ← mul_add]
  refine mul_le_mul_of_nonneg_left ?_ rate
  have total : seconds now - start + (seconds later - seconds now) = seconds later - start := by
    ring
  rw [total]
  exact le_max_right _ _

end

/-- A call keeps the bucket and draws what is there. -/
theorem funded_call {calls : List Call} {inflow : Rat → Rat}
    (kept : Kept key windowSeconds buckets)
    (funded
      : Funded limit inflow (calls.map Call.draw) (level key limit windowSeconds buckets now))
    : let called := isAllowed buckets now key limit windowSeconds
      Kept key windowSeconds called.2
      ∧ Funded limit inflow
          ((⟨now, decide (called.1 = .ok true)⟩ :: calls : List Call).map Call.draw)
          (level key limit windowSeconds called.2 now) := by
  intro called
  rcases isAllowed_cases key limit windowSeconds buckets now with
    ⟨refused, same⟩ | ⟨allowed, enough, left, keeps⟩
  · have drawn := funded.spend (seconds now) le_rfl (.inl rfl)
    rw [sub_zero] at drawn
    simpa [called, refused, same, Call.draw] using ⟨kept, drawn⟩
  · have drawn := funded.spend (seconds now) zero_le_one (.inr enough)
    rw [← left] at drawn
    refine ⟨keeps, ?_⟩
    simpa [called, allowed, Call.draw] using drawn

/-- The limit and the inflow cover the calls so far, by induction on them. -/
theorem callsAt_funded (nonneg : 0 ≤ limit) (positive : 0 < windowSeconds) {earlier : List Int}
    (ordered : (now :: earlier).Pairwise (fun later earlier => earlier ≤ later))
    : Kept key windowSeconds (callsAt key limit windowSeconds (now :: earlier)).2
      ∧ Funded limit (inflow limit windowSeconds (seconds now))
          ((callsAt key limit windowSeconds (now :: earlier)).1.map Call.draw)
          (level key limit windowSeconds (callsAt key limit windowSeconds (now :: earlier)).2
            now) := by
  induction earlier generalizing now with
  | nil =>
      exact funded_call (fun _ found => nomatch found)
        (.nil nonneg level_le_limit (inflow_nonneg nonneg positive))
  | cons last earlier ih =>
      obtain ⟨newer, ordered⟩ := List.pairwise_cons.mp ordered
      obtain ⟨kept, funded⟩ := ih ordered
      refine funded_call kept (funded_later nonneg positive kept ?_ ?_ funded)
      · exact newer last List.mem_cons_self
      · intro call mem
        have listed := List.mem_map_of_mem (f := Call.time) mem
        rw [callsAt_times] at listed
        rcases List.mem_cons.mp listed with same | before
        · exact same.le
        · exact (List.pairwise_cons.mp ordered).1 _ before

end

-----------------------------------------------------------------------------------------
-- Any interval of a run
-----------------------------------------------------------------------------------------

theorem callsAt_drop (key : String) (limit windowSeconds : Rat) (times : List Int) (dropped : Nat)
    : (callsAt key limit windowSeconds times).1.drop dropped
      = (callsAt key limit windowSeconds (times.drop dropped)).1 :=
  drop_history (fun times => (callsAt key limit windowSeconds times).1) rfl (fun _ _ => ⟨_, rfl⟩)
    times dropped

/-- In any interval a key is allowed at most the limit and what the refill rate gives in the time
of the interval, whenever the calls come.
-/
theorem allowedWithin_le {limit windowSeconds : Rat} (nonneg : 0 ≤ limit)
    (positive : 0 < windowSeconds) (key : String) {times : List Int}
    (ordered : times.Pairwise (fun later earlier => earlier ≤ later)) {start stop : Rat}
    (begun : start ≤ stop)
    : (allowedWithin start stop (callsAt key limit windowSeconds times).1 : Rat)
      ≤ limit + limit / windowSeconds * (stop - start) := by
  have rate : 0 ≤ limit / windowSeconds := div_nonneg nonneg positive.le
  have elapsed : 0 ≤ stop - start := sub_nonneg.mpr begun
  rw [← drawnWithin_calls]
  refine drawnWithin_le ?_ (fun dropped ended => ?_)
  · have timed : (callsAt key limit windowSeconds times).1.map Call.time = times :=
      callsAt_times key limit windowSeconds times
    rw [← timed, List.pairwise_map] at ordered
    exact List.pairwise_map.mpr (ordered.imp seconds_le_seconds)
  · rw [← List.map_drop, callsAt_drop] at ended ⊢
    have later : (times.drop dropped).Pairwise (fun later earlier => earlier ≤ later) :=
      ordered.drop
    cases left : times.drop dropped with
    | nil =>
        exact (add_nonneg nonneg (mul_nonneg rate elapsed))
    | cons now earlier =>
        rw [left] at ended later
        have inTime : seconds now ≤ stop := ended _ List.mem_cons_self
        calc
          drawnSince start ((callsAt key limit windowSeconds (now :: earlier)).1.map Call.draw)
              ≤ limit + inflow limit windowSeconds (seconds now) start :=
            (callsAt_funded nonneg positive later).2.drawn start
          _ ≤ limit + limit / windowSeconds * (stop - start) := by
            refine add_le_add_right (mul_le_mul_of_nonneg_left ?_ rate) limit
            exact max_le elapsed (sub_le_sub_right inTime start)

/-- Two calls at once and a third half a second later. -/
theorem allowedWithin_le_of_burst
    : (allowedWithin 0 1 (callsAt "client" 2 1 [500, 0, 0]).1 : Rat) ≤ 2 + 2 / 1 * (1 - 0) :=
  allowedWithin_le (by norm_num) (by norm_num) "client" (by decide) (by norm_num)

end RateLimiter

end QueueForge.RateLimiting
