import Mathlib.Algebra.Order.Group.Unbundled.Int
import Mathlib.Data.Rat.Cast.Order
import QueueForge.Js.Values
import QueueForge.RateLimiting.Funding

/-! `RateLimit`: the times at which a decorated method was let through, of the last minute.
What is thrown tells when the oldest of them leaves it.
-/

namespace QueueForge.RateLimiting

open QueueForge.Js

namespace RateLimitDecorator

/-- How the language spells a number is left to a parameter. -/
structure RateLimit where
  requestsPerMinute : Number
  className : String
  methodName : String
  numberText : Number → String

/-- `new RateLimitError(message, context)`. -/
structure RateLimitError where
  message : String
  limit : Number
  resetInSeconds : Number

variable (decorator : RateLimit)

/-- 1 minute sliding window. -/
def cutoff (now : Int) : Int :=
  now - 60000

/-- Evict expired timestamps. -/
def evict (now : Int) (timestamps : List Int) : List Int :=
  timestamps.dropWhile (fun timestamp => decide (timestamp < cutoff now))

/-- Without a timestamp the next window is `NaN`. -/
def resetInSeconds (now : Int) (timestamps : List Int) : Number :=
  match timestamps with
  | [] => .nan
  | oldest :: _ => Number.max 1 (.ofInt (((oldest + 60000 - now : Int) : Rat) / 1000).ceil)

def rateLimitError (now : Int) (timestamps : List Int) : RateLimitError where
  message :=
    s!"Rate limit exceeded on {decorator.className}.{decorator.methodName}. "
    ++ s!"Max threshold: {decorator.numberText decorator.requestsPerMinute}/min."
  limit := decorator.requestsPerMinute
  resetInSeconds := resetInSeconds now timestamps

/-- A call of the decorated method is let through to the original one, or an error is thrown. -/
def call (now : Int) (timestamps : List Int) : Except RateLimitError Unit × List Int :=
  let kept := evict now timestamps
  if decorator.requestsPerMinute.le (.ofInt kept.length) then
    (.error (rateLimitError decorator now kept), kept)
  else
    (.ok (), kept ++ [now])

-----------------------------------------------------------------------------------------
-- Calls in the order they come
-----------------------------------------------------------------------------------------

/-- A call, and what came of it. -/
structure Call where
  time : Int
  outcome : Except RateLimitError Unit

def Call.letThrough (call : Call) : Bool :=
  match call.outcome with
  | .ok () => true
  | .error _ => false

/-- Calls at some times, newest first, of a method that has not been called before. -/
def callsAt : List Int → List Call × List Int
  | [] => ([], [])
  | now :: earlier =>
      let before := callsAt earlier
      let called := call decorator now before.2
      (⟨now, called.1⟩ :: before.1, called.2)

/-- The number of calls let through at a time or later. -/
def letThroughSince (start : Int) (calls : List Call) : Nat :=
  calls.countP (fun call => call.letThrough && decide (start ≤ call.time))

/-- Every call is let through exactly if fewer than the limit were in the minute before. -/
def ExactlyLimited (limit : Number) (calls : List Call) : Prop :=
  ∀ later call earlier,
    calls = later ++ call :: earlier
    → (call.letThrough = true
      ↔ (Number.ofInt (letThroughSince (call.time - 60000) earlier)).lt limit = true)

/-- The times of the calls that were let through, oldest first. -/
def grants (calls : List Call) : List Int :=
  ((calls.filter Call.letThrough).map Call.time).reverse

section
variable {now later : Int} {timestamps times : List Int}

/-- Of times in order the front is evicted, and that is all that has left the minute. -/
theorem evict_eq_filter (ordered : timestamps.Pairwise (· ≤ ·))
    : evict now timestamps = timestamps.filter (fun timestamp => decide (cutoff now ≤ timestamp))
    := by
  induction timestamps with
  | nil => rfl
  | cons oldest rest ih =>
      obtain ⟨older, ordered⟩ := List.pairwise_cons.mp ordered
      by_cases expired : oldest < cutoff now
      · rw [evict, List.dropWhile_cons_of_pos (by simpa using expired),
          List.filter_cons_of_neg (by simpa using expired)]
        exact ih ordered
      · have kept : ∀ timestamp ∈ oldest :: rest, decide (cutoff now ≤ timestamp) = true := by
          intro timestamp mem
          rw [decide_eq_true_eq]
          rcases List.mem_cons.mp mem with rfl | further
          · exact not_lt.mp expired
          · exact (not_lt.mp expired).trans (older timestamp further)
        rw [evict, List.dropWhile_cons_of_neg (by simpa using expired),
          List.filter_eq_self.mpr kept]

/-- What has been evicted before is evicted at any later time. -/
theorem filter_evict (ordered : now ≤ later) (timestamps : List Int)
    : (timestamps.filter (fun timestamp => decide (cutoff now ≤ timestamp))).filter
        (fun timestamp => decide (cutoff later ≤ timestamp))
      = timestamps.filter (fun timestamp => decide (cutoff later ≤ timestamp)) := by
  rw [List.filter_filter]
  refine List.filter_congr (fun timestamp _ => ?_)
  rw [← Bool.decide_and, decide_eq_decide, cutoff, cutoff]
  omega

/-- The number let through since a time counts the times of those let through. -/
theorem letThroughSince_eq (start : Int) (calls : List Call)
    : letThroughSince start calls
      = ((grants calls).filter (fun timestamp => decide (start ≤ timestamp))).length := by
  rw [grants, List.filter_reverse, List.length_reverse, List.filter_map, List.length_map,
    List.filter_filter, letThroughSince, List.countP_eq_length_filter]
  congr 1
  exact List.filter_congr (fun call _ => Bool.and_comm _ _)

theorem callsAt_times (times : List Int) : (callsAt decorator times).1.map Call.time = times := by
  induction times with
  | nil => rfl
  | cons now earlier ih => exact congrArg (now :: ·) ih

/-- The times of what is let through are in order. -/
theorem grants_ordered (ordered : times.Pairwise (fun later earlier => earlier ≤ later))
    : (grants (callsAt decorator times).1).Pairwise (· ≤ ·) := by
  rw [grants, List.pairwise_reverse]
  refine ordered.sublist ?_
  have listed := (List.filter_sublist (p := Call.letThrough)
    (l := (callsAt decorator times).1)).map Call.time
  rwa [callsAt_times] at listed

/-- A call adds its time to what it has not evicted, if it is let through. -/
theorem call_kept (now : Int) (timestamps : List Int)
    : (call decorator now timestamps).2
      = evict now timestamps
        ++ if (Call.mk now (call decorator now timestamps).1).letThrough then [now] else [] := by
  unfold call
  dsimp only
  split
  · exact (List.append_nil _).symm
  · rfl

theorem grants_cons (call : Call) (calls : List Call)
    : grants (call :: calls) = grants calls ++ if call.letThrough then [call.time] else [] := by
  cases through : call.letThrough <;> simp [grants, through]

/-- A call that comes after the calls so far finds the times of those let through in the last
minute, by induction on the calls.
-/
theorem evict_callsAt (ordered : times.Pairwise (fun later earlier => earlier ≤ later))
    (ended : ∀ time ∈ times, time ≤ now)
    : evict now (callsAt decorator times).2
      = (grants (callsAt decorator times).1).filter (fun timestamp =>
          decide (cutoff now ≤ timestamp)) := by
  induction times generalizing now with
  | nil => rfl
  | cons newest earlier ih =>
      obtain ⟨newer, before⟩ := List.pairwise_cons.mp ordered
      have kept
          : (callsAt decorator (newest :: earlier)).2
            = (grants (callsAt decorator (newest :: earlier)).1).filter (fun timestamp =>
                decide (cutoff newest ≤ timestamp)) := by
        have own : cutoff newest ≤ newest := by
          rw [cutoff]
          omega
        rw [callsAt]
        dsimp only
        rw [call_kept, grants_cons, List.filter_append, ih before newer]
        split <;> simp [own]
      have sorted := grants_ordered decorator ordered
      rw [kept, evict_eq_filter (sorted.filter _)]
      exact filter_evict (ended newest List.mem_cons_self) _

/-- A call is let through exactly if fewer than the limit were in the minute before it. -/
theorem letThrough_iff (ordered : times.Pairwise (fun later earlier => earlier ≤ later))
    (ended : ∀ time ∈ times, time ≤ now) (isNumber : decorator.requestsPerMinute ≠ .nan)
    : (Call.mk now (call decorator now (callsAt decorator times).2).1).letThrough = true
      ↔ (Number.ofInt (letThroughSince (now - 60000) (callsAt decorator times).1)).lt
            decorator.requestsPerMinute
          = true := by
  have counted
      : (evict now (callsAt decorator times).2).length
        = letThroughSince (now - 60000) (callsAt decorator times).1 := by
    rw [evict_callsAt decorator ordered ended, letThroughSince_eq]
    rfl
  unfold call
  dsimp only
  rw [counted]
  cases full
      : decorator.requestsPerMinute.le
          (.ofInt (letThroughSince (now - 60000) (callsAt decorator times).1)) with
  | true =>
      rw [if_pos rfl, Number.lt, full, Bool.not_true, Bool.and_false]
      exact iff_of_false Bool.false_ne_true Bool.false_ne_true
  | false =>
      rw [if_neg Bool.false_ne_true]
      refine iff_of_true rfl ?_
      exact Number.ofInt_lt_of_not_le isNumber full

/-- Whenever the calls come, every call is let through exactly if fewer than the limit were let
through in the minute before it.
-/
theorem rateLimit_exact (limited : Number.le 1 decorator.requestsPerMinute = true)
    {times : List Int} (ordered : times.Pairwise (fun later earlier => earlier ≤ later))
    : ExactlyLimited decorator.requestsPerMinute (callsAt decorator times).1 := by
  have isNumber : decorator.requestsPerMinute ≠ .nan := by
    intro missing
    rw [missing] at limited
    exact nomatch limited
  intro later call earlier listed
  have rest : (callsAt decorator (times.drop later.length)).1 = call :: earlier := by
    rw [← drop_history (fun times => (callsAt decorator times).1) rfl (fun _ _ => ⟨_, rfl⟩), listed,
      List.drop_left]
  have begun : (times.drop later.length).Pairwise (fun later earlier => earlier ≤ later) :=
    ordered.drop
  cases left : times.drop later.length with
  | nil =>
      rw [left] at rest
      exact nomatch rest
  | cons now before =>
      rw [left] at rest begun
      obtain ⟨newer, begun⟩ := List.pairwise_cons.mp begun
      obtain ⟨rfl, rfl⟩ := List.cons.inj rest
      exact letThrough_iff decorator begun newer isNumber

end

/-- A method that may be called twice a minute. -/
def getSecrets : RateLimit where
  requestsPerMinute := 2
  className := "RateLimitedService"
  methodName := "getSecrets"
  numberText _ := "2"

/-- Three calls within a minute, and one a minute after the first. -/
theorem rateLimit_exact_getSecrets
    : ExactlyLimited getSecrets.requestsPerMinute (callsAt getSecrets [60001, 900, 300, 0]).1 :=
  rateLimit_exact getSecrets rfl (by decide)

/-- The third of them is refused, and the fourth is let through. -/
example
    : (callsAt getSecrets [60001, 900, 300, 0]).1.map Call.letThrough = [true, false, true, true] :=
  by decide

end RateLimitDecorator

end QueueForge.RateLimiting
