import Mathlib.Logic.Function.Basic
import QueueForge.Application.ServiceCalls
import QueueForge.Async.Throughout

/-! `CircuitBreakerHttpClient`: a post goes through the breaker of its host, whose answer is
left open. A breaker records how the request executor settles, and that one resolves with a response
of any status.
-/

namespace QueueForge.Infrastructure

open QueueForge.Async QueueForge.Js QueueForge.Application

/-- A request as a breaker takes it. -/
structure BreakerRequest where
  breakerKey : Value
  url : Value
  payload : Value
  headers : List (String × String)
  timeoutMs : Value
deriving DecidableEq

/-- What the request executor of a breaker resolves with: any status is accepted, and the time
is the difference of two readings of the clock.
-/
structure BreakerResponse where
  status : Int
  durationMs : Int
deriving DecidableEq

namespace CircuitBreakerHttpClient

/-- The host of the URL, or the URL itself where it does not parse. -/
def breakerKey (host : Value → Option String) (url : Value) : Value :=
  ((host url).map Value.string).getD url

/-- Post through the breaker of the host. A response that tells of a server error is thrown
away for an error without a status.
-/
def post (host : Value → Option String)
    (fire : BreakerRequest → Settled Thrown BreakerResponse) (url payload : Value)
    (headers : List (String × String)) (timeoutMs : Value)
    : Settled Thrown HttpResponse := do
  let result ← fire {
    breakerKey := breakerKey host url
    url := url
    payload := payload
    headers := headers
    timeoutMs := coalesce timeoutMs (.number 5000)
  }
  if 500 ≤ result.status then
    .error (newError s!"Server error response: {result.status}")
  else
    .ok { status := some (.ofInt result.status), durationMs := some (.ofInt result.durationMs) }

end CircuitBreakerHttpClient

-----------------------------------------------------------------------------------------
-- What the breakers record
-----------------------------------------------------------------------------------------

/-- The options of a breaker. -/
structure BreakerOptions where
  timeout : Number := 5000
  errorThresholdPercentage : Number := 50
  resetTimeout : Number := 10000
  volumeThreshold : Number := 3

/-- An outcome that a breaker has counted. -/
structure BreakerRecord where
  time : Int
  failed : Bool
deriving DecidableEq

/-- The breaker library: when the circuit is open, by the outcomes it has counted, newest first, and
what it rejects with. It does not open by itself.
-/
structure BreakerLibrary where
  isOpen : BreakerOptions → List BreakerRecord → Int → Bool
  openError : Thrown
  timeoutError : BreakerOptions → Thrown
  closed_of_successes
    : ∀ options records now,
        (∀ record ∈ records, record.failed = false) → isOpen options records now = false

/-- A call of `post` and what happens to it: how the transport settles it, at which times, and
whether the breaker has given it up before that.
-/
structure Exchange where
  url : Value
  payload : Value
  headers : List (String × String)
  timeoutMs : Value
  startTime : Int
  endTime : Int
  answer : Settled Thrown Int
  timedOut : Bool

/-- The breakers by their keys. One that has not been made has counted nothing. -/
abbrev Breakers : Type := Value → List BreakerRecord

namespace CircuitBreakerHttpClient

/-- Accept all status codes so we can log them ourselves. -/
def requestExecutor (exchange : Exchange) : Settled Thrown BreakerResponse :=
  exchange.answer.map
    (fun status => { status, durationMs := exchange.endTime - exchange.startTime })

section
variable (library : BreakerLibrary) (options : BreakerOptions)

/-- `breaker.fire`: an open circuit rejects, and otherwise it is counted how the executor settles or
that it has taken too long.
-/
def fire (records : List BreakerRecord) (exchange : Exchange)
    : Settled Thrown BreakerResponse × List BreakerRecord :=
  if library.isOpen options records exchange.startTime then
    (.error library.openError, records)
  else if exchange.timedOut then
    (.error (library.timeoutError options), ⟨exchange.endTime, true⟩ :: records)
  else
    match requestExecutor exchange with
    | .ok response => (.ok response, ⟨exchange.endTime, false⟩ :: records)
    | .error error => (.error error, ⟨exchange.endTime, true⟩ :: records)

variable (host : Value → Option String)

/-- A call of `post`, and the breakers after it. -/
def postThrough (exchange : Exchange) (breakers : Breakers)
    : Settled Thrown HttpResponse × Breakers :=
  let key := breakerKey host exchange.url
  let posted :=
    post host (fun request => (fire library options (breakers request.breakerKey) exchange).1)
      exchange.url exchange.payload exchange.headers exchange.timeoutMs
  (posted, Function.update breakers key (fire library options (breakers key) exchange).2)

def step (exchange : Exchange) (breakers : Breakers) : Breakers :=
  (postThrough library options host exchange breakers).2

/-- The server answers with an error, and the circuit lets the request through. -/
def ServerError (exchange : Exchange) (breakers : Breakers) : Prop :=
  library.isOpen options (breakers (breakerKey host exchange.url)) exchange.startTime = false
  ∧ ∃ status, exchange.answer = .ok status ∧ 500 ≤ status

/-- The answer of a server error is counted as a failure. -/
def RecordedAsFailure (exchange : Exchange) (breakers : Breakers) : Prop :=
  ServerError library options host exchange breakers
  → ∃ record,
      record.failed = true
      ∧ step library options host exchange breakers (breakerKey host exchange.url)
        = record :: breakers (breakerKey host exchange.url)

/-- The answer of a server error comes when the breaker has given up the request. -/
def TooLate (exchange : Exchange) (breakers : Breakers) : Prop :=
  ServerError library options host exchange breakers → exchange.timedOut = true

/-- No breaker has counted a failure. -/
def NoFailures (breakers : Breakers) : Prop :=
  ∀ key, ∀ record ∈ breakers key, record.failed = false

end

-----------------------------------------------------------------------------------------
-- What is counted
-----------------------------------------------------------------------------------------

section
variable {library : BreakerLibrary} {options : BreakerOptions} {host : Value → Option String}
  {exchange : Exchange} {breakers : Breakers}

/-- The breaker of the request counts it, and no other does. -/
theorem step_apply (key : Value)
    : step library options host exchange breakers key
      = if key = breakerKey host exchange.url then
          (fire library options (breakers key) exchange).2
        else
          breakers key := by
  change Function.update breakers (breakerKey host exchange.url) _ key = _
  rw [Function.update_apply]
  split
  · next same => rw [same]
  · rfl

/-- A response that is not too late is counted as a success, whatever its status is. -/
theorem fire_answered {records : List BreakerRecord} {status : Int}
    (isClosed : library.isOpen options records exchange.startTime = false)
    (inTime : exchange.timedOut = false) (answered : exchange.answer = .ok status)
    : fire library options records exchange
      = (.ok ⟨status, exchange.endTime - exchange.startTime⟩,
          ⟨exchange.endTime, false⟩ :: records) := by
  rw [fire, isClosed, inTime, requestExecutor, answered]
  rfl

/-- A server error is counted as a failure only when the breaker has given up the request. -/
theorem recordedAsFailure_iff
    : RecordedAsFailure library options host exchange breakers
      ↔ TooLate library options host exchange breakers := by
  refine imp_congr_right (fun serverError => ?_)
  obtain ⟨isClosed, status, answered, _⟩ := serverError
  rw [step_apply, if_pos rfl]
  cases given : exchange.timedOut with
  | true =>
      refine iff_of_true ⟨⟨exchange.endTime, true⟩, rfl, ?_⟩ rfl
      rw [fire, isClosed, given]
      rfl
  | false =>
      rw [fire_answered isClosed given answered]
      refine iff_of_false ?_ Bool.false_ne_true
      rintro ⟨record, failed, same⟩
      have counted := (List.cons.inj same).1
      rw [← counted] at failed
      exact Bool.false_ne_true failed

/-- A breaker that has counted no failure lets the request through, and counts none if it is
answered in time.
-/
theorem NoFailures.step (none : NoFailures breakers) (inTime : exchange.timedOut = false)
    (answered : ∃ status, exchange.answer = .ok status)
    : NoFailures (step library options host exchange breakers) := by
  obtain ⟨status, answered⟩ := answered
  intro key record mem
  rw [step_apply] at mem
  split at mem
  · have isClosed := library.closed_of_successes options (breakers key) exchange.startTime (none key)
    rw [fire_answered isClosed inTime answered] at mem
    rcases List.mem_cons.mp mem with rfl | before
    · rfl
    · exact none key record before
  · exact none key record mem

/-- Each server error of a run is counted as a failure exactly when each comes too late, and no
breaker opens as long as all requests are answered in time, whatever the statuses are.
-/
theorem serverErrors_recorded_iff (library : BreakerLibrary) (options : BreakerOptions)
    (host : Value → Option String) (exchanges : List Exchange)
    : (EveryStep (step library options host) (RecordedAsFailure library options host) exchanges
          (fun _ => [])
        ↔ EveryStep (step library options host) (TooLate library options host) exchanges
          (fun _ => []))
      ∧ ((∀ exchange ∈ exchanges,
            exchange.timedOut = false ∧ ∃ status, exchange.answer = .ok status)
        → ∀ key now,
            library.isOpen options
              (stateAfter (step library options host) exchanges (fun _ => []) key) now
            = false) := by
  constructor
  · exact
      @everyStep_congr _ _ _ (fun _ => True) _ _ (fun _ _ _ => trivial)
        (fun _ _ _ => recordedAsFailure_iff) exchanges _ trivial
  · intro answered key now
    have counted (breakers : Breakers) (none : NoFailures breakers)
        : NoFailures (stateAfter (step library options host) exchanges breakers) := by
      induction exchanges generalizing breakers with
      | nil => exact none
      | cons exchange rest ih =>
          obtain ⟨first, later⟩ := List.forall_mem_cons.mp answered
          exact ih later _ (none.step first.1 first.2)
    exact library.closed_of_successes options _ now (counted _ (fun _ => List.forall_mem_nil _) key)

end

/-- A library that opens when there are enough outcomes and too many of them are failures. -/
def rateLibrary : BreakerLibrary where
  isOpen options records _ :=
    let failures := records.countP BreakerRecord.failed
    options.volumeThreshold.le (.ofInt records.length)
      && decide (0 < failures)
      && ((Number.ofInt records.length).mul options.errorThresholdPercentage).lt
        (.ofInt (100 * failures))
  openError := newError "Breaker is open"
  timeoutError _ := newError "Timed out"
  closed_of_successes := by
    intro options records now successes
    have none : records.countP BreakerRecord.failed = 0 := by
      rw [List.countP_eq_zero]
      exact fun record mem failed => nomatch (successes record mem).symm.trans failed
    simp [none]

/-- Three answers of a host that is out of service are three successes. -/
theorem unavailable_host_succeeds
    : ¬∀ (library : BreakerLibrary) (options : BreakerOptions) (host : Value → Option String)
        (exchanges : List Exchange),
        EveryStep (step library options host) (RecordedAsFailure library options host) exchanges
          (fun _ => []) := by
  intro recorded
  let unavailable (startTime : Int) : Exchange := {
    url := .string "https://hooks"
    payload := .object []
    headers := []
    timeoutMs := .undefined
    startTime := startTime
    endTime := startTime + 20
    answer := .ok 503
    timedOut := false
  }
  have first := (recorded rateLibrary {} (fun _ => some "hooks")
    [unavailable 0, unavailable 100, unavailable 200]).1
  have late := recordedAsFailure_iff.mp first ⟨rfl, 503, rfl, by decide⟩
  exact Bool.false_ne_true late

end CircuitBreakerHttpClient

end QueueForge.Infrastructure
