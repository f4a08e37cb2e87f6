import QueueForge.Js.Doubles
import QueueForge.Js.Errors

/-! Rules governing retries: how many attempts, the delay before each and which errors. The timeout
caps the delays that grow, and one of zero caps them to nothing.
-/

namespace QueueForge.Resilience

open QueueForge.Js

abbrev RetryPredicate : Type := Thrown → Bool

/-- Default predicate identifying transient network errors, HTTP 5xx server errors, or timeouts. The
stack of an error is the runtime's.
-/
def isTransientError (stackOf : ErrorObject → Option String) : RetryPredicate
  | .nullish => false
  | error =>
      let stack := match error with
        | .error object => stackOf object
        | _ => none
      let msg := toLowerCase ((orString error.message (orString stack none)).getD error.rendered)
      let status := orInt error.statusCode (orInt error.status error.responseStatus)
      let code := toUpperCase (error.code.getD "")
      error.truthy
      && (status.any (fun status => (500 ≤ status ∧ status ≤ 599) ∨ status = 429 ∨ status = 408)
          || ["ETIMEDOUT", "ECONNRESET", "ECONNREFUSED", "ENOTFOUND", "EPIPE", "EHOSTUNREACH",
              "EAI_AGAIN"].contains code
          || ["etimedout", "timeout", "econnreset", "econnrefused", "connection refused", "reset",
              "socket hang up", "network error", "transient"].any (includes msg))

-----------------------------------------------------------------------------------------
-- Delays
-----------------------------------------------------------------------------------------

namespace BackoffCalculator

/-- Exponential backoff delay capped at `maxDelayMs`. -/
def exponentialBackoff (runtime : Runtime) (attempt baseDelayMs maxDelayMs jitterFactor : Number)
    : Number :=
  let attemptIndex := Number.max 0 (attempt.plus (.ofInt (-1)))
  let rawDelay := baseDelayMs.times (Number.pow2 runtime.fractional attemptIndex).rounded
  let jitter := rawDelay.times ((Number.finite runtime.random).times jitterFactor)
  (Number.min (rawDelay.plus jitter) maxDelayMs).floor

/-- Linear backoff delay (`delayMs * attempt`) capped at `maxDelayMs`. -/
def linearBackoff (attempt delayMs maxDelayMs : Number) : Number :=
  let attemptIndex := Number.max 1 attempt
  (Number.min (delayMs.times attemptIndex) maxDelayMs).floor

/-- Fixed constant backoff delay. -/
def fixedBackoff (delayMs : Number) : Number := (Number.max 0 delayMs).floor

end BackoffCalculator

/-- Immutable value object holding rules governing retry attempts, backoff calculation, and error
predicates. The bounds its constructor sets hold unless `NaN` was given.
-/
structure RetryPolicy where
  maxAttempts : Number
  strategy : String
  timeout : Number
  predicates : List RetryPredicate
  atLeastOnce : maxAttempts ≠ .nan → (1 : Number).le maxAttempts = true
  notNegative : timeout ≠ .nan → (0 : Number).le timeout = true
  predicated : predicates ≠ []

namespace RetryPolicy

def create (stackOf : ErrorObject → Option String) (maxAttempts : Number := 3)
    (strategy : String := "EXPONENTIAL") (timeout : Number := 30000)
    (predicates : List RetryPredicate := [isTransientError stackOf])
    : RetryPolicy where
  maxAttempts := Number.max 1 maxAttempts
  strategy := toUpperCase strategy
  timeout := Number.max 0 timeout
  predicates := if predicates.length > 0 then predicates else [isTransientError stackOf]
  atLeastOnce := Number.le_max
  notNegative := Number.le_max
  predicated := by
    split
    next some => exact List.ne_nil_of_length_pos some
    next => exact nofun

variable (policy : RetryPolicy)

def shouldRetry (error : Thrown) (attemptNumber : Number) : Bool :=
  if policy.maxAttempts.le attemptNumber then
    false
  else
    policy.predicates.any (fun predicate => predicate error)

/-- Only before the last attempt is an error retried. -/
theorem lt_of_shouldRetry {policy : RetryPolicy} {limit attempt : Int} {error : Thrown}
    (whole : policy.maxAttempts = .ofInt limit)
    (retried : policy.shouldRetry error (.ofInt attempt) = true)
    : attempt < limit := by
  rw [shouldRetry, whole, Number.ofInt_le_ofInt] at retried
  split at retried
  next => contradiction
  next early => simpa using early

/-- The delay after an attempt; `environment` is `process.env.NODE_ENV`. -/
def getNextDelay (environment : Option String) (runtime : Runtime) (attemptNumber : Number)
    : Number :=
  if environment = some "test" then
    1
  else if policy.strategy = "LINEAR" then
    BackoffCalculator.linearBackoff attemptNumber 1000 policy.timeout
  else if policy.strategy = "FIXED" then
    BackoffCalculator.fixedBackoff 1000
  else
    BackoffCalculator.exponentialBackoff runtime attemptNumber 1000 policy.timeout
      (Number.literal (2 / 10))

end RetryPolicy

end QueueForge.Resilience
