import Mathlib.Data.Bool.Count
import Mathlib.Data.List.TakeWhile
import QueueForge.Js.Doubles
import QueueForge.Resilience.CircuitBreaker

/-! `CircuitBreakerStateMachine`: a breaker that opens by the rate of failures. The rate is
evaluated when a failure is recorded, so it is below the threshold as of the last failure.
-/

namespace QueueForge.Resilience

open QueueForge.Js

/-- The arguments of the constructor. -/
structure StateMachineConfig where
  threshold : Number
  timeoutMs : Number
  volumeThreshold : Number

structure CircuitBreakerStateMachine where
  config : StateMachineConfig
  currentState : CircuitState := .closed
  lastStateChange : Int
  failureCount : Nat := 0
  successCount : Nat := 0

/-- The moments an operation reads the clock at: to see how long the state lasts, and as it leaves
it and the next one.
-/
structure MachineClock where
  now : Int
  left : Int
  leftNext : Int

namespace CircuitBreakerStateMachine

variable (machine : CircuitBreakerStateMachine)

def transitionTo (now : Int) (nextState : CircuitState) : CircuitBreakerStateMachine := {
  machine with
  currentState := nextState
  lastStateChange := now
  failureCount := 0
  successCount := 0
}

/-- If OPEN, evaluate if recovery window elapsed to transition to HALF_OPEN. -/
def getState (clock : MachineClock) : CircuitBreakerStateMachine :=
  if machine.currentState = .open
      ∧ machine.config.timeoutMs.le (.ofInt (clock.now - machine.lastStateChange)) = true then
    machine.transitionTo clock.left .halfOpen
  else
    machine

def recordSuccess (clock : MachineClock) : CircuitBreakerStateMachine :=
  let machine := machine.getState clock
  let counted := { machine with successCount := machine.successCount + 1 }
  match machine.currentState with
  | .halfOpen => counted.transitionTo clock.leftNext .closed
  | .closed => counted
  | .open => machine

/-- `(failureCount / total) * 100`. -/
def failureRate (failureCount total : Nat) : Number :=
  ((Number.ofInt failureCount).dividedBy (.ofInt total)).times 100

def recordFailure (clock : MachineClock) : CircuitBreakerStateMachine :=
  let machine := machine.getState clock
  let counted := { machine with failureCount := machine.failureCount + 1 }
  match machine.currentState with
  | .closed =>
      let total : Nat := counted.successCount + counted.failureCount
      if machine.config.volumeThreshold.le (.ofInt total)
          ∧ machine.config.threshold.le (failureRate counted.failureCount total) then
        counted.transitionTo clock.leftNext .open
      else
        counted
  | .halfOpen => counted.transitionTo clock.leftNext .open
  | .open => counted

end CircuitBreakerStateMachine

inductive MachineOperation where
  | getState
  | recordSuccess
  | recordFailure
deriving DecidableEq

/-- An operation and the moments it reads the clock at. -/
structure MachineEvent where
  operation : MachineOperation
  clock : MachineClock

/-- A machine and the outcomes recorded since its last transition, newest first: whether each was
a failure.
-/
structure MachineRun where
  machine : CircuitBreakerStateMachine
  outcomes : List Bool

namespace MachineRun

open CircuitBreakerStateMachine

/-- The machine after an operation. -/
def performed (machine : CircuitBreakerStateMachine) (event : MachineEvent)
    : CircuitBreakerStateMachine :=
  match event.operation with
  | .getState => machine.getState event.clock
  | .recordSuccess => machine.recordSuccess event.clock
  | .recordFailure => machine.recordFailure event.clock

/-- The outcome an operation records. -/
def outcome : MachineOperation → List Bool
  | .getState => []
  | .recordSuccess => [false]
  | .recordFailure => [true]

/-- An operation makes a transition as it looks at the state, or after it. -/
def transitions (machine : CircuitBreakerStateMachine) (event : MachineEvent) : Bool :=
  (machine.getState event.clock).currentState ≠ machine.currentState
  || (performed machine event).currentState ≠ (machine.getState event.clock).currentState

def perform (run : MachineRun) (event : MachineEvent) : MachineRun where
  machine := performed run.machine event
  outcomes :=
    if transitions run.machine event then [] else outcome event.operation ++ run.outcomes

/-- A new machine after a sequence of operations, newest first. -/
def after (config : StateMachineConfig) (created : Int) : List MachineEvent → MachineRun
  | [] => ⟨{ config := config, lastStateChange := created }, []⟩
  | event :: earlier => (after config created earlier).perform event

/-- How many of some outcomes are failures. -/
def failures (outcomes : List Bool) : Nat := outcomes.count true

/-- The outcomes up to the last failure. -/
def upToFailure (outcomes : List Bool) : List Bool := outcomes.dropWhile (fun failed => !failed)

/-- The counters are those of the outcomes, and the rate as of the last failure is below the
threshold if it was evaluated.
-/
structure Counted (run : MachineRun) : Prop where
  failed : run.machine.failureCount = failures run.outcomes
  succeeded : run.machine.successCount = run.outcomes.count false
  below
    : upToFailure run.outcomes ≠ []
      → run.machine.config.volumeThreshold.le (.ofInt (upToFailure run.outcomes).length) = true
      → (failureRate (failures run.outcomes) (upToFailure run.outcomes).length).lt
          run.machine.config.threshold
        = true

variable {machine : CircuitBreakerStateMachine} {event : MachineEvent} {run : MachineRun}

/-- A machine that is not OPEN is observed as it is. -/
theorem getState_of_not_open {clock : MachineClock} (shut : machine.currentState ≠ .open)
    : machine.getState clock = machine :=
  if_neg (fun waits => shut waits.1)

theorem getState_config {clock : MachineClock}
    : (machine.getState clock).config = machine.config := by
  unfold getState
  split <;> rfl

theorem performed_config : (performed machine event).config = machine.config := by
  have same := @getState_config machine event.clock
  unfold performed recordSuccess recordFailure
  cases event.operation with
  | getState => exact same
  | recordSuccess =>
      simp only
      split <;> exact same
  | recordFailure =>
      simp only
      split
      · split <;> exact same
      · exact same
      · exact same

/-- Looking at the state never closes the machine. -/
theorem getState_not_closed {clock : MachineClock} (other : machine.currentState ≠ .closed)
    : (machine.getState clock).currentState ≠ .closed := by
  unfold getState
  split
  · exact nofun
  · exact other

theorem recordSuccess_of_closed {clock : MachineClock} (shut : machine.currentState = .closed)
    : machine.recordSuccess clock = { machine with successCount := machine.successCount + 1 } := by
  have seen : machine.getState clock = machine :=
    getState_of_not_open (by rw [shut]; exact nofun)
  simp only [recordSuccess, seen, shut]

theorem recordFailure_of_closed {clock : MachineClock} (shut : machine.currentState = .closed)
    (stays : (machine.recordFailure clock).currentState = .closed)
    : machine.recordFailure clock = { machine with failureCount := machine.failureCount + 1 }
      ∧ ¬(machine.config.volumeThreshold.le
              (.ofInt (machine.successCount + (machine.failureCount + 1) : Nat))
            = true
          ∧ machine.config.threshold.le
              (failureRate (machine.failureCount + 1)
                (machine.successCount + (machine.failureCount + 1)))
            = true) := by
  have seen : machine.getState clock = machine :=
    getState_of_not_open (by rw [shut]; exact nofun)
  simp only [recordFailure, seen, shut] at stays ⊢
  split at stays
  next => contradiction
  next spared => exact ⟨if_neg spared, spared⟩

/-- Into CLOSED leads a success in HALF_OPEN, with fresh counters. -/
theorem performed_of_not_closed (other : machine.currentState ≠ .closed)
    (closes : (performed machine event).currentState = .closed)
    : transitions machine event = true
      ∧ (performed machine event).failureCount = 0
      ∧ (performed machine event).successCount = 0 := by
  have observed := @getState_not_closed machine event.clock other
  have left : transitions machine event = true := by
    rw [transitions, closes, Bool.or_eq_true]
    exact .inr (decide_eq_true (Ne.symm observed))
  refine ⟨left, ?_⟩
  unfold performed recordSuccess recordFailure at closes ⊢
  cases operation : event.operation with
  | getState =>
      rw [operation] at closes
      exact absurd closes observed
  | recordSuccess =>
      rw [operation] at closes
      simp only at closes ⊢
      split at closes
      next half => exact ⟨rfl, rfl⟩
      next shut => exact absurd shut observed
      next opened => exact absurd closes observed
  | recordFailure =>
      rw [operation] at closes
      simp only at closes ⊢
      split at closes
      next shut => exact absurd shut observed
      next half => contradiction
      next opened => exact absurd closes observed

theorem after_config {config : StateMachineConfig} {created : Int} {events : List MachineEvent}
    : (after config created events).machine.config = config := by
  induction events with
  | nil => rfl
  | cons event earlier ih => exact performed_config.trans ih

-----------------------------------------------------------------------------------------
-- The rate
-----------------------------------------------------------------------------------------

/-- The share of the failures among some outcomes, before it is rounded. -/
theorem div_of_pos {failed total : Nat} (positive : 0 < total)
    : (Number.ofInt failed).div (.ofInt total) = .finite (failed / total) := by
  simp [Number.ofInt, Number.div, positive.ne']

theorem failureRate_ne_nan {failed total : Nat} (positive : 0 < total)
    : failureRate failed total ≠ .nan := by
  rw [failureRate, Number.dividedBy, div_of_pos positive]
  exact Number.times_ne_nan_of_pos (by norm_num) Number.rounded_ne_nan

/-- Among more outcomes the same failures have at most the same rate. -/
theorem failureRate_anti {failed few many : Nat} (positive : 0 < few) (order : few ≤ many)
    : (failureRate failed many).le (failureRate failed few) = true := by
  have fewer : (0 : Rat) < few := by exact_mod_cast positive
  have more : (few : Rat) ≤ many := by exact_mod_cast order
  have quotients : (failed : Rat) / many ≤ failed / few :=
    div_le_div_of_nonneg_left (Nat.cast_nonneg failed) fewer more
  rw [failureRate, failureRate, Number.dividedBy, Number.dividedBy, div_of_pos positive,
    div_of_pos (positive.trans_le order)]
  refine Number.times_mono (by norm_num) (Number.rounded_mono ?_)
  exact Number.finite_le_finite.mpr quotients

theorem failureRate_zero {total : Nat} (positive : 0 < total) : failureRate 0 total = 0 := by
  rw [failureRate, Number.dividedBy, div_of_pos positive, Nat.cast_zero, zero_div]
  change Number.times (Number.rounded 0) 100 = 0
  rw [Number.rounded_zero]
  exact Number.zero_times

-----------------------------------------------------------------------------------------
-- Runs
-----------------------------------------------------------------------------------------

/-- A transition leaves nothing to count. -/
theorem counted_of_fresh (fresh : run.machine.failureCount = 0 ∧ run.machine.successCount = 0)
    (none : run.outcomes = [])
    : Counted run where
  failed := by rw [fresh.1, none]; rfl
  succeeded := by rw [fresh.2, none]; rfl
  below some := by simp [none, upToFailure] at some

/-- Recording an outcome that makes no transition keeps the counters those of the outcomes, and a
failure that does not open the machine is below the threshold if there is enough volume.
-/
theorem Counted.perform (positive : (0 : Number).lt run.machine.config.threshold = true)
    (shut : run.machine.currentState = .closed) (counted : Counted run)
    (stays : (performed run.machine event).currentState = .closed)
    : Counted (run.perform event) := by
  have seen : run.machine.getState event.clock = run.machine :=
    getState_of_not_open (by rw [shut]; exact nofun)
  have kept : transitions run.machine event = false := by
    rw [transitions, seen, stays, shut]
    rfl
  have recorded
      : run.perform event
        = ⟨performed run.machine event, outcome event.operation ++ run.outcomes⟩ := by
    rw [MachineRun.perform, kept]
    rfl
  rw [recorded]
  unfold performed at stays ⊢
  cases operation : event.operation with
  | getState =>
      simp only [seen]
      exact counted
  | recordSuccess =>
      simp only [recordSuccess_of_closed shut]
      exact {
        failed := counted.failed
        succeeded := by simp [outcome, counted.succeeded]
        below := counted.below
      }
  | recordFailure =>
      simp only [operation] at stays
      obtain ⟨spared, unevaluated⟩ := recordFailure_of_closed shut stays
      have total
          : run.machine.successCount + (run.machine.failureCount + 1)
            = (true :: run.outcomes).length := by
        have sum := List.count_false_add_count_true run.outcomes
        rw [counted.failed, counted.succeeded, List.length_cons, failures]
        omega
      rw [total, counted.failed] at unevaluated
      simp only [spared]
      exact {
        failed := by simp [outcome, counted.failed, failures]
        succeeded := by simp [outcome, counted.succeeded]
        below := fun _ enough => by
          have rate : failures (true :: run.outcomes) = failures run.outcomes + 1 :=
            List.count_cons_self
          change (failureRate (failures (true :: run.outcomes)) (true :: run.outcomes).length).lt _
            = true
          rw [rate]
          refine Number.lt_of_not_le ?_ (Number.ne_nan_of_lt positive) ?_
          · exact failureRate_ne_nan (List.length_pos_of_ne_nil nofun)
          · exact Bool.eq_false_iff.mpr (fun above => unevaluated ⟨enough, above⟩)
      }

/-- Whenever a machine is CLOSED its counters are those of the outcomes since the last transition.
-/
theorem after_counted {config : StateMachineConfig} {created : Int}
    (positive : (0 : Number).lt config.threshold = true) (events : List MachineEvent)
    (closed : (after config created events).machine.currentState = .closed)
    : Counted (after config created events) := by
  induction events with
  | nil => exact counted_of_fresh ⟨rfl, rfl⟩ rfl
  | cons event earlier ih =>
      by_cases shut : (after config created earlier).machine.currentState = .closed
      · refine (ih shut).perform ?_ shut closed
        rw [after_config]
        exact positive
      · obtain ⟨left, fresh⟩ := performed_of_not_closed shut closed
        exact counted_of_fresh fresh (if_pos left)

/-- Without a failure nothing fails, and else the rate as of the last one only falls. -/
theorem Counted.rate_lt (counted : Counted run)
    (positive : (0 : Number).lt run.machine.config.threshold = true) (some : run.outcomes ≠ [])
    (evaluated
      : true ∈ run.outcomes
        → run.machine.config.volumeThreshold.le (.ofInt (upToFailure run.outcomes).length) = true)
    : (failureRate (failures run.outcomes) run.outcomes.length).lt run.machine.config.threshold
      = true := by
  by_cases failed : true ∈ run.outcomes
  · have last : upToFailure run.outcomes ≠ [] := by
      intro none
      have all := List.dropWhile_eq_nil_iff.mp none true failed
      contradiction
    have shorter : (upToFailure run.outcomes).length ≤ run.outcomes.length :=
      (List.dropWhile_suffix _).length_le
    have falls
        : (failureRate (failures run.outcomes) run.outcomes.length).le
            (failureRate (failures run.outcomes) (upToFailure run.outcomes).length)
          = true :=
      failureRate_anti (List.length_pos_of_ne_nil last) shorter
    exact Number.lt_of_le_of_lt falls (counted.below last (evaluated failed))
  · have none : failures run.outcomes = 0 := List.count_eq_zero_of_not_mem failed
    rw [none, failureRate_zero (List.length_pos_of_ne_nil some)]
    exact positive

/-- Whenever a machine is CLOSED and enough outcomes are recorded since its last transition, the
failure rate of these is below the threshold, unless the last failure among them came before there
was enough volume to evaluate the rate.
-/
theorem rate_below_threshold {config : StateMachineConfig} {created : Int}
    {events : List MachineEvent} (positive : (0 : Number).lt config.threshold = true)
    (volume : (1 : Number).le config.volumeThreshold = true)
    (closed : (after config created events).machine.currentState = .closed)
    (enough
      : config.volumeThreshold.le (.ofInt (after config created events).outcomes.length) = true)
    (evaluated
      : true ∈ (after config created events).outcomes
        → config.volumeThreshold.le
              (.ofInt (upToFailure (after config created events).outcomes).length)
          = true)
    : (failureRate (failures (after config created events).outcomes)
          (after config created events).outcomes.length).lt
        config.threshold
      = true := by
  have counted := after_counted positive events closed
  have some : (after config created events).outcomes ≠ [] := by
    intro none
    have atLeast : (1 : Number).le 0 = true := by
      refine Number.le_trans volume ?_
      rw [none] at enough
      exact enough
    contradiction
  have configured : (after config created events).machine.config = config := after_config
  have below := counted.rate_lt (by rwa [configured]) some (by rwa [configured])
  rwa [configured] at below

/-- A sequence of operations at one moment, newest first. -/
def atOnce (operations : List MachineOperation) : List MachineEvent :=
  operations.map (fun operation => ⟨operation, 0, 0, 0⟩)

/-- A failure after two successes is evaluated: a third of the outcomes is below half of them. -/
theorem rate_below_of_third
    : let run := after ⟨50, 1000, 3⟩ 0 (atOnce [.recordFailure, .recordSuccess, .recordSuccess])
      run.outcomes = [true, false, false]
        ∧ (failureRate (failures run.outcomes) run.outcomes.length).lt 50 = true :=
  ⟨by decide +kernel,
    rate_below_threshold (by decide) (by decide) (by decide +kernel) (by decide +kernel)
      (by decide +kernel)⟩

-- The rate is the machine's own: 29 of 50 outcomes are 58 percent, and are computed as less.
example : (failureRate 29 50).lt 58 = true := by decide +kernel

/-- A failure before there is enough volume is never evaluated: with the next success the machine
is CLOSED at half of two outcomes.
-/
theorem rate_reaches_threshold
    : let run := after ⟨50, 1000, 2⟩ 0 (atOnce [.recordSuccess, .recordFailure])
      run.machine.currentState = .closed
        ∧ run.outcomes = [false, true]
        ∧ run.machine.config.volumeThreshold.le (.ofInt run.outcomes.length) = true
        ∧ (failureRate (failures run.outcomes) run.outcomes.length).lt run.machine.config.threshold
          = false := by
  decide +kernel

end MachineRun

end QueueForge.Resilience
