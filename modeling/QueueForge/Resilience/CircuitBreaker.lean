import QueueForge.Js.Values

/-! The circuit breaker: its state, the operations on it and what a sequence of them records.
An operation reads the clock at most twice, first to see whether an open breaker has waited
long enough and then to note when it opened.
-/

namespace QueueForge.Resilience

open QueueForge.Js

inductive CircuitState where
  | closed
  | open
  | halfOpen
deriving DecidableEq, Repr

/-- The members of the configuration the breaker reads. -/
structure CircuitBreakerConfig where
  threshold : Number := 5
  timeout : Number := 60000
  successThreshold : Number := 2

/-- `CircuitBreakerState`; the counters are never below zero. -/
structure CircuitBreakerState where
  state : CircuitState := .closed
  openedAt : Option Int := none
  failureCount : Nat := 0
  successCount : Nat := 0
deriving DecidableEq, Repr

/-- Checks if an OPEN circuit breaker has exceeded its reset timeout. -/
def CircuitBreakerState.canAttemptReset (instant : CircuitBreakerState) (now : Int)
    (timeoutMs : Number)
    : Bool :=
  match instant.state, instant.openedAt with
  | .halfOpen, _ => true
  | .open, some openedAt => timeoutMs.le (.ofInt (now - openedAt))
  | _, _ => false

structure CircuitBreaker where
  config : CircuitBreakerConfig
  stateInstance : CircuitBreakerState := {}

/-- The moments an operation reads the clock at. -/
structure ClockReadings where
  checked : Int
  opened : Int
deriving DecidableEq, Repr

namespace CircuitBreaker

abbrev state (breaker : CircuitBreaker) : CircuitState :=
  breaker.stateInstance.state

def transitionTo (breaker : CircuitBreaker) (now : Int) (newState : CircuitState)
    : CircuitBreaker :=
  if breaker.state = newState then
    breaker
  else
    let openedAt := if newState = .open then some now else none
    { breaker with stateInstance := { state := newState, openedAt := openedAt } }

/-- Evaluates auto-transitions based on timeouts (OPEN -> HALF_OPEN). -/
def checkStateTransition (breaker : CircuitBreaker) (now : Int) : CircuitBreaker :=
  if breaker.state = .open ∧ breaker.stateInstance.canAttemptReset now breaker.config.timeout then
    breaker.transitionTo now .halfOpen
  else
    breaker

def getState (breaker : CircuitBreaker) (now : Int) : CircuitState × CircuitBreaker :=
  let checked := breaker.checkStateTransition now
  (checked.state, checked)

def canExecute (breaker : CircuitBreaker) (now : Int) : Bool × CircuitBreaker :=
  let current := breaker.getState now
  (current.1 = .closed || current.1 = .halfOpen, current.2)

def recordSuccess (breaker : CircuitBreaker) (clock : ClockReadings) : CircuitBreaker :=
  let current := (breaker.getState clock.checked).2
  match current.state with
  | .halfOpen =>
      let newSuccessCount := current.stateInstance.successCount + 1
      if current.config.successThreshold.le (.ofInt newSuccessCount) then
        current.transitionTo clock.opened .closed
      else
        {
          current with
          stateInstance := {
            state := .halfOpen
            openedAt := current.stateInstance.openedAt
            failureCount := 0
            successCount := newSuccessCount
          }
        }
  | .closed =>
      if 0 < current.stateInstance.failureCount then
        { current with stateInstance := { state := .closed } }
      else
        current
  | .open => current

def recordFailure (breaker : CircuitBreaker) (clock : ClockReadings) : CircuitBreaker :=
  let current := (breaker.getState clock.checked).2
  match current.state with
  | .closed =>
      let newFailureCount := current.stateInstance.failureCount + 1
      if current.config.threshold.le (.ofInt newFailureCount) then
        current.transitionTo clock.opened .open
      else
        {
          current with
          stateInstance := { state := .closed, failureCount := newFailureCount }
        }
  | .halfOpen => current.transitionTo clock.opened .open
  | .open => current

def reset (breaker : CircuitBreaker) : CircuitBreaker :=
  { breaker with stateInstance := {} }

end CircuitBreaker

/-- The operations a breaker offers. -/
inductive BreakerOperation where
  | recordSuccess
  | recordFailure
  | canExecute
  | getState
  | reset
deriving DecidableEq, Repr

/-- An operation and the moments it reads the clock at. -/
structure BreakerEvent where
  operation : BreakerOperation
  clock : ClockReadings
deriving DecidableEq, Repr

namespace CircuitBreaker

def perform (breaker : CircuitBreaker) (event : BreakerEvent) : CircuitBreaker :=
  match event.operation with
  | .recordSuccess => breaker.recordSuccess event.clock
  | .recordFailure => breaker.recordFailure event.clock
  | .canExecute => (breaker.canExecute event.clock.checked).2
  | .getState => (breaker.getState event.clock.checked).2
  | .reset => breaker.reset

/-- The breaker after a sequence of operations, newest first. -/
def after (config : CircuitBreakerConfig) : List BreakerEvent → CircuitBreaker
  | [] => { config := config }
  | event :: earlier => (after config earlier).perform event

end CircuitBreaker

end QueueForge.Resilience
