import Mathlib.Logic.Function.Basic
import QueueForge.Resilience.CircuitBreaker

/-! The manager of circuit breakers, one for each destination, made when it is first asked for.
Callers hold the breakers it returns, so breakers are told apart by the number of their creation.
-/

namespace QueueForge.Resilience

open QueueForge.Js

/-- `Partial<CircuitBreakerConfig>`, as far as the breaker reads it. A member given as `undefined`
is `NaN`, which compares alike.
-/
structure PartialBreakerConfig where
  threshold : Option Number := none
  timeout : Option Number := none
  successThreshold : Option Number := none

/-- `{ ...config, ...overrides }`. -/
def PartialBreakerConfig.spread (config overrides : PartialBreakerConfig)
    : PartialBreakerConfig where
  threshold := overrides.threshold.or config.threshold
  timeout := overrides.timeout.or config.timeout
  successThreshold := overrides.successThreshold.or config.successThreshold

/-- Creates a default config with the overrides. -/
def createDefaultConfig (overrides : PartialBreakerConfig) : CircuitBreakerConfig where
  threshold := overrides.threshold.getD 5
  timeout := overrides.timeout.getD 60000
  successThreshold := overrides.successThreshold.getD 2

/-- The default configuration of the manager, which may hold that of its breakers. -/
structure ManagerConfig where
  circuitBreaker : Option PartialBreakerConfig := none
  members : PartialBreakerConfig := {}

/-- What a breaker is created with. -/
def breakerConfig (defaultConfig : Option ManagerConfig) (destinationConfig : PartialBreakerConfig)
    : CircuitBreakerConfig :=
  let shared :=
    match defaultConfig with
    | some config => config.circuitBreaker.getD config.members
    | none => {}
  createDefaultConfig (shared.spread destinationConfig)

structure CircuitBreakerManager where
  defaultConfig : Option ManagerConfig
  created : List CircuitBreaker
  /-- The breaker of a destination, by its number. -/
  breakers : String → Option Nat
  there : ∀ destinationId number, breakers destinationId = some number → number < created.length
  apart
    : ∀ first second number,
        breakers first = some number → breakers second = some number → first = second

namespace CircuitBreakerManager

def new (defaultConfig : Option ManagerConfig) : CircuitBreakerManager where
  defaultConfig
  created := []
  breakers _ := none
  there := nofun
  apart := nofun

def createBreaker (manager : CircuitBreakerManager) (destinationId : String)
    (destinationConfig : PartialBreakerConfig)
    : Nat × CircuitBreakerManager :=
  let breaker : CircuitBreaker := { config := breakerConfig manager.defaultConfig destinationConfig }
  (manager.created.length, {
    manager with
    created := manager.created ++ [breaker]
    breakers := Function.update manager.breakers destinationId (some manager.created.length)
    there := by
      intro other number held
      rw [List.length_append, List.length_singleton]
      by_cases same : other = destinationId
      · subst same
        rw [Function.update_self, Option.some.injEq] at held
        omega
      · rw [Function.update_of_ne same] at held
        exact Nat.lt_succ_of_lt (manager.there other number held)
    apart := by
      intro first second number one two
      by_cases left : first = destinationId
      · by_cases right : second = destinationId
        · exact left.trans right.symm
        · rw [left, Function.update_self, Option.some.injEq] at one
          rw [Function.update_of_ne right] at two
          exact absurd (manager.there second number two) (by omega)
      · rw [Function.update_of_ne left] at one
        by_cases right : second = destinationId
        · rw [right, Function.update_self, Option.some.injEq] at two
          exact absurd (manager.there first number one) (by omega)
        · rw [Function.update_of_ne right] at two
          exact manager.apart first second number one two
  })

def getOrCreateBreaker (manager : CircuitBreakerManager) (destinationId : String)
    (destinationConfig : PartialBreakerConfig)
    : Nat × CircuitBreakerManager :=
  match manager.breakers destinationId with
  | some number => (number, manager)
  | none => manager.createBreaker destinationId destinationConfig

def getBreaker (manager : CircuitBreakerManager) (destinationId : String)
    : Nat × CircuitBreakerManager :=
  manager.getOrCreateBreaker destinationId {}

/-- An operation on a breaker that was returned. -/
def perform (manager : CircuitBreakerManager) (number : Nat) (event : BreakerEvent)
    : CircuitBreakerManager := {
  manager with
  created := manager.created.modify number (fun breaker => breaker.perform event)
  there := by
    intro destinationId other held
    rw [List.length_modify]
    exact manager.there destinationId other held
}

/-- What the breaker of a destination tells. -/
def ask {α : Type} (manager : CircuitBreakerManager) (destinationId : String)
    (tells : CircuitBreaker → α)
    : Option α :=
  let got := manager.getBreaker destinationId
  got.2.created[got.1]?.map tells

/-- The breaker of a destination, after it is asked. -/
def asked (manager : CircuitBreakerManager) (destinationId : String) (event : BreakerEvent)
    : CircuitBreakerManager :=
  let got := manager.getBreaker destinationId
  got.2.perform got.1 event

def getState (manager : CircuitBreakerManager) (destinationId : String) (now : Int)
    : Option CircuitState × CircuitBreakerManager :=
  (manager.ask destinationId (fun breaker => (breaker.getState now).1),
    manager.asked destinationId ⟨.getState, ⟨now, now⟩⟩)

def isOpen (manager : CircuitBreakerManager) (destinationId : String) (now : Int)
    : Option Bool × CircuitBreakerManager :=
  let state := manager.getState destinationId now
  (state.1.map (fun current => decide (current = .open)), state.2)

def isDestinationAvailable (manager : CircuitBreakerManager) (destinationId : String) (now : Int)
    : Option Bool × CircuitBreakerManager :=
  (manager.ask destinationId (fun breaker => (breaker.canExecute now).1),
    manager.asked destinationId ⟨.canExecute, ⟨now, now⟩⟩)

/-- `reset` reads no clock. -/
def resetEvent : BreakerEvent :=
  ⟨.reset, ⟨0, 0⟩⟩

def resetBreaker (manager : CircuitBreakerManager) (destinationId : String)
    : CircuitBreakerManager :=
  match manager.breakers destinationId with
  | some number => manager.perform number resetEvent
  | none => manager

end CircuitBreakerManager

/-- The calls of the manager, and the operations on the breaker that some call before returned,
told by the number of calls since then.
-/
inductive ManagerCall where
  | getBreaker (destinationId : String)
  | getOrCreateBreaker (destinationId : String) (destinationConfig : PartialBreakerConfig)
  | getState (destinationId : String) (now : Int)
  | isOpen (destinationId : String) (now : Int)
  | isDestinationAvailable (destinationId : String) (now : Int)
  | resetBreaker (destinationId : String)
  | record (ago : Nat) (event : BreakerEvent)

/-- The manager and what each call returned, newest first. -/
structure ManagerRun where
  manager : CircuitBreakerManager
  returned : List (Option Nat)

namespace ManagerRun

def call (run : ManagerRun) : ManagerCall → ManagerRun
  | .getBreaker destinationId =>
      let got := run.manager.getBreaker destinationId
      ⟨got.2, some got.1 :: run.returned⟩
  | .getOrCreateBreaker destinationId destinationConfig =>
      let got := run.manager.getOrCreateBreaker destinationId destinationConfig
      ⟨got.2, some got.1 :: run.returned⟩
  | .getState destinationId now =>
      ⟨(run.manager.getState destinationId now).2, none :: run.returned⟩
  | .isOpen destinationId now =>
      ⟨(run.manager.isOpen destinationId now).2, none :: run.returned⟩
  | .isDestinationAvailable destinationId now =>
      ⟨(run.manager.isDestinationAvailable destinationId now).2, none :: run.returned⟩
  | .resetBreaker destinationId =>
      ⟨run.manager.resetBreaker destinationId, none :: run.returned⟩
  | .record ago event =>
      match (run.returned[ago]?).join with
      | some number => ⟨run.manager.perform number event, none :: run.returned⟩
      | none => ⟨run.manager, none :: run.returned⟩

/-- The run of some calls, newest first. -/
def after (defaultConfig : Option ManagerConfig) : List ManagerCall → ManagerRun
  | [] => ⟨.new defaultConfig, []⟩
  | call :: earlier => (after defaultConfig earlier).call call

end ManagerRun

/-! The calls that concern one destination. -/

namespace ManagerCall

/-- The destination whose breaker a call returns. -/
def returns : ManagerCall → Option String
  | .getBreaker destinationId => some destinationId
  | .getOrCreateBreaker destinationId _ => some destinationId
  | _ => none

/-- The configuration a call gives to a destination that is first seen in it. -/
def configures (defaultConfig : Option ManagerConfig) (destination : String)
    : ManagerCall → Option CircuitBreakerConfig
  | .getBreaker destinationId =>
      if destinationId = destination then some (breakerConfig defaultConfig {}) else none
  | .getOrCreateBreaker destinationId destinationConfig =>
      if destinationId = destination then
        some (breakerConfig defaultConfig destinationConfig)
      else
        none
  | .getState destinationId _ =>
      if destinationId = destination then some (breakerConfig defaultConfig {}) else none
  | .isOpen destinationId _ =>
      if destinationId = destination then some (breakerConfig defaultConfig {}) else none
  | .isDestinationAvailable destinationId _ =>
      if destinationId = destination then some (breakerConfig defaultConfig {}) else none
  | .resetBreaker _ => none
  | .record _ _ => none

/-- The operation of a call on the breaker of a destination. -/
def operates (destination : String) (earlier : List ManagerCall) : ManagerCall → Option BreakerEvent
  | .getBreaker _ => none
  | .getOrCreateBreaker _ _ => none
  | .getState destinationId now =>
      if destinationId = destination then some ⟨.getState, ⟨now, now⟩⟩ else none
  | .isOpen destinationId now =>
      if destinationId = destination then some ⟨.getState, ⟨now, now⟩⟩ else none
  | .isDestinationAvailable destinationId now =>
      if destinationId = destination then some ⟨.canExecute, ⟨now, now⟩⟩ else none
  | .resetBreaker destinationId =>
      if destinationId = destination then some CircuitBreakerManager.resetEvent else none
  | .record ago event => if earlier[ago]?.bind returns = some destination then some event else none

end ManagerCall

/-- The configuration given when a destination was first seen. -/
def firstConfig (defaultConfig : Option ManagerConfig) (destination : String)
    : List ManagerCall → Option CircuitBreakerConfig
  | [] => none
  | call :: earlier =>
      (firstConfig defaultConfig destination earlier).or (call.configures defaultConfig destination)

/-- The operations on the breaker of a destination, newest first. -/
def operationsOn (destination : String) : List ManagerCall → List BreakerEvent
  | [] => []
  | call :: earlier =>
      (call.operates destination earlier).toList ++ operationsOn destination earlier

end QueueForge.Resilience
