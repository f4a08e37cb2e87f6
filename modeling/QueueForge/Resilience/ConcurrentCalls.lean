import Mathlib.Logic.Function.Basic
import Mathlib.Logic.Relation
import QueueForge.Resilience.BreakerLaws

/-! Concurrent calls of `execute` on one breaker.
A call asks the breaker once before it awaits its function and records the outcome when the
function has settled; in between any number of other calls do the same.
-/

namespace QueueForge.Resilience

open QueueForge.Js

inductive CallStage where
  | waiting
  | running
  | settled
deriving DecidableEq

/-- The stretches of `execute` between its awaits, with what they come to. -/
inductive CallStep where
  | admitted
  | rejected
  | succeeded
  | failed
deriving DecidableEq

namespace CallStep

def operation : CallStep → BreakerOperation
  | admitted => .canExecute
  | rejected => .canExecute
  | succeeded => .recordSuccess
  | failed => .recordFailure

def stage : CallStep → CallStage
  | admitted => .running
  | _ => .settled

/-- The function of the call has settled. -/
def completes : CallStep → Bool
  | succeeded => true
  | failed => true
  | _ => false

theorem operation_eq_recordSuccess {step : CallStep}
    : step.operation = .recordSuccess ↔ step = .succeeded := by
  cases step <;> decide

end CallStep

/-- What is told of a stretch afterwards. -/
structure CallRecord (ι : Type) where
  caller : ι
  step : CallStep
  before : CircuitState
  after : CircuitState

structure BreakerWorld (ι : Type) where
  breaker : CircuitBreaker
  stage : ι → CallStage
  trace : List (CallRecord ι)

section
variable {ι : Type} [DecidableEq ι]

namespace BreakerWorld

def start (config : CircuitBreakerConfig) : BreakerWorld ι where
  breaker := { config := config }
  stage _ := .waiting
  trace := []

/-- A stretch of a call: its operation on the breaker, with a record of it. -/
def stretch (world : BreakerWorld ι) (caller : ι) (step : CallStep) (clock : ClockReadings)
    : BreakerWorld ι :=
  let breaker := world.breaker.perform ⟨step.operation, clock⟩
  {
    breaker := breaker
    stage := Function.update world.stage caller step.stage
    trace := ⟨caller, step, world.breaker.state, breaker.state⟩ :: world.trace
  }

/-- `execute` up to `await fn()`: the call is admitted or rejected. -/
def executeStart (world : BreakerWorld ι) (caller : ι) (clock : ClockReadings)
    : BreakerWorld ι :=
  let allowed := (world.breaker.canExecute clock.checked).1
  world.stretch caller (if allowed then .admitted else .rejected) clock

/-- `execute` after `await fn()`: the outcome is recorded. -/
def executeSettled (world : BreakerWorld ι) (caller : ι) (resolved : Bool)
    (clock : ClockReadings)
    : BreakerWorld ι :=
  world.stretch caller (if resolved then .succeeded else .failed) clock

end BreakerWorld

/-- One stretch of one call, at any time. -/
inductive ExecuteStep : BreakerWorld ι → BreakerWorld ι → Prop
  | starts {world : BreakerWorld ι} (caller : ι) (clock : ClockReadings)
    (waiting : world.stage caller = .waiting)
    : ExecuteStep world (world.executeStart caller clock)
  | settles {world : BreakerWorld ι} (caller : ι) (resolved : Bool) (clock : ClockReadings)
    (running : world.stage caller = .running)
    : ExecuteStep world (world.executeSettled caller resolved clock)

/-- The worlds some interleaving of calls leads to. -/
abbrev Interleaved (config : CircuitBreakerConfig) (world : BreakerWorld ι) : Prop :=
  Relation.ReflTransGen ExecuteStep (BreakerWorld.start config) world

/-- The records since the breaker last entered HALF_OPEN, newest first. The record that
enters it is the first of them.
-/
def episode : List (CallRecord ι) → List (CallRecord ι)
  | [] => []
  | record :: earlier => record :: if record.before = .halfOpen then episode earlier else []

def successes (records : List (CallRecord ι)) : Nat :=
  records.countP (fun record => record.step = .succeeded)

/-- The call was admitted in one of the records. -/
def admittedIn (records : List (CallRecord ι)) (caller : ι) : Bool :=
  records.any (fun record => record.step = .admitted && record.caller = caller)

/-- The successes of calls that were admitted in the same records. -/
def probeSuccesses (records : List (CallRecord ι)) : Nat :=
  records.countP (fun record => record.step = .succeeded && admittedIn records record.caller)

/-- A stretch that takes the breaker from HALF_OPEN to CLOSED. -/
def CallRecord.closes (record : CallRecord ι) : Prop :=
  record.before ≠ .closed ∧ record.after = .closed

/-- The breaker closes only by probes: successes of calls admitted since HALF_OPEN. -/
def ClosesByProbes (config : CircuitBreakerConfig) (ι : Type) [DecidableEq ι] : Prop :=
  ∀ (world : BreakerWorld ι) (record : CallRecord ι) (earlier : List (CallRecord ι)),
    Interleaved config world
    → world.trace = record :: earlier
    → record.closes
    → config.successThreshold.le (.ofInt (probeSuccesses (episode world.trace))) = true

/-- What decides between CLOSED and OPEN while the breaker is HALF_OPEN: the outcomes of the
calls that complete, whenever these were admitted.
-/
structure ClosesByCompletions (config : CircuitBreakerConfig) (record : CallRecord ι)
    (earlier : List (CallRecord ι))
    : Prop where
  closing
    : record.closes
      → record.step = .succeeded
        ∧ config.successThreshold.le (.ofInt (successes (episode (record :: earlier)))) = true
        ∧ ∀ past ∈ episode (record :: earlier), past.step ≠ .failed
  reopening : record.before = .halfOpen → record.step = .failed → record.after = .open
  probes
    : record.closes
      → (∀ past ∈ episode (record :: earlier),
          past.step.completes = true
          → admittedIn (episode (record :: earlier)) past.caller = true)
      → config.successThreshold.le (.ofInt (probeSuccesses (episode (record :: earlier))))
          = true

/-- The records of the episode the next stretch continues. -/
def BreakerWorld.ongoing (world : BreakerWorld ι) : List (CallRecord ι) :=
  if world.breaker.state = .halfOpen then episode world.trace else []

/-- While it is HALF_OPEN, the breaker counts the successes of the episode. -/
def CountsEpisode (records : List (CallRecord ι)) (instant : CircuitBreakerState) : Prop :=
  instant.state = .halfOpen
  → instant.successCount = successes records ∧ ∀ past ∈ records, past.step ≠ .failed

end

section
variable {ι : Type} {config : CircuitBreakerConfig} {world : BreakerWorld ι}

/-- The automatic transition starts an episode anew. -/
theorem CountsEpisode.checked (counts : CountsEpisode world.ongoing world.breaker.stateInstance)
    {now : Int} {current : CircuitBreakerState}
    (checked : Checked config now world.breaker.stateInstance current)
    : CountsEpisode world.ongoing current := by
  cases checked with
  | kept => exact counts
  | waited openedAt opened since elapsed =>
      intro _
      have fresh : world.ongoing = [] := by simp [BreakerWorld.ongoing, opened]
      rw [fresh]
      exact ⟨rfl, nofun⟩

variable {records : List (CallRecord ι)} {clock : ClockReadings}
  {current next : CircuitBreakerState}

/-- A stretch counts itself, one case for each effect. -/
theorem CountsEpisode.effect (counts : CountsEpisode records current) (record : CallRecord ι)
    (effect : Effect config ⟨record.step.operation, clock⟩ current next)
    : CountsEpisode (record :: records) next := by
  intro probing
  cases effect with
  | observed observes =>
      obtain ⟨counted, noFailure⟩ := counts probing
      have notSuccess : record.step ≠ .succeeded := by
        intro success
        rw [success] at observes
        exact nomatch observes
      have notFailure : record.step ≠ .failed := by
        intro failure
        rw [failure] at observes
        exact nomatch observes
      refine ⟨?_, List.forall_mem_cons.mpr ⟨notFailure, noFailure⟩⟩
      simpa [successes, notSuccess] using counted
  | ignored records isOpen => exact nomatch isOpen.symm.trans probing
  | untroubled succeeded isClosed none => exact nomatch isClosed.symm.trans probing
  | probed succeeded wasProbing more =>
      obtain ⟨counted, noFailure⟩ := counts wasProbing
      have success := CallStep.operation_eq_recordSuccess.mp succeeded
      refine ⟨?_, List.forall_mem_cons.mpr ⟨by simp [success], noFailure⟩⟩
      simp [successes, success, counted]
  | forgave succeeded isClosed => contradiction
  | closed succeeded wasProbing enough => contradiction
  | counted failed isClosed below => contradiction
  | tripped failed isClosed reached => contradiction
  | reopened failed wasProbing => contradiction
  | reset resets => contradiction

/-- A stretch that closes the breaker is the success that completes the count. -/
theorem CountsEpisode.closing (counts : CountsEpisode records current) (record : CallRecord ι)
    (effect : Effect config ⟨record.step.operation, clock⟩ current next)
    (wasNot : current.state ≠ .closed) (closes : next.state = .closed)
    : record.step = .succeeded
      ∧ config.successThreshold.le (.ofInt (successes (record :: records))) = true
      ∧ ∀ past ∈ record :: records, past.step ≠ .failed := by
  cases effect with
  | closed succeeded wasProbing enough =>
      obtain ⟨counted, noFailure⟩ := counts wasProbing
      have success := CallStep.operation_eq_recordSuccess.mp succeeded
      refine ⟨success, ?_, List.forall_mem_cons.mpr ⟨by simp [success], noFailure⟩⟩
      have one : successes (record :: records) = current.successCount + 1 := by
        simp [successes, success, counted]
      rw [one]
      exact enough
  | observed observes => exact absurd closes wasNot
  | ignored records isOpen => exact absurd closes wasNot
  | untroubled succeeded isClosed none => exact absurd closes wasNot
  | forgave succeeded isClosed => exact absurd isClosed wasNot
  | probed succeeded wasProbing more => contradiction
  | counted failed isClosed below => exact absurd isClosed wasNot
  | tripped failed isClosed reached => contradiction
  | reopened failed wasProbing => contradiction
  | reset resets =>
      have never : record.step.operation ≠ .reset := by cases record.step <;> decide
      exact absurd resets never

/-- A failure that completes in HALF_OPEN opens the breaker. -/
theorem Effect.reopening (record : CallRecord ι)
    (effect : Effect config ⟨record.step.operation, clock⟩ current next)
    (probing : current.state = .halfOpen) (failure : record.step = .failed)
    : next.state = .open := by
  rw [failure] at effect
  cases effect with
  | reopened failed wasProbing => rfl
  | tripped failed isClosed reached => rfl
  | observed observes => exact nomatch observes
  | ignored records isOpen => exact isOpen
  | untroubled succeeded isClosed none => contradiction
  | forgave succeeded isClosed => contradiction
  | probed succeeded wasProbing more => contradiction
  | closed succeeded wasProbing enough => contradiction
  | counted failed isClosed below => exact nomatch isClosed.symm.trans probing
  | reset resets => contradiction

end

section
variable {ι : Type} [DecidableEq ι] {config : CircuitBreakerConfig} {world : BreakerWorld ι}

/-- Where all completions are of calls admitted in the records, so are the successes. -/
theorem successes_eq_probeSuccesses {records : List (CallRecord ι)}
    (probes
      : ∀ past ∈ records,
          past.step.completes = true → admittedIn records past.caller = true)
    : successes records = probeSuccesses records := by
  refine List.countP_congr ?_
  intro past member
  simp only [Bool.and_eq_true, decide_eq_true_eq]
  refine ⟨fun success => ⟨success, probes past member ?_⟩, And.left⟩
  rw [success]
  rfl

/-- What holds of every interleaving. -/
structure VerdictSound (config : CircuitBreakerConfig) (world : BreakerWorld ι) : Prop where
  sameConfig : world.breaker.config = config
  counts : CountsEpisode world.ongoing world.breaker.stateInstance
  last
    : ∀ record earlier,
        world.trace = record :: earlier → ClosesByCompletions config record earlier

/-- A stretch keeps what holds of every interleaving. -/
theorem VerdictSound.stretch (sound : VerdictSound config world) (caller : ι) (step : CallStep)
    (clock : ClockReadings)
    : VerdictSound config (world.stretch caller step clock) := by
  obtain ⟨current, checked, effect, same⟩ :=
    world.breaker.perform_effect ⟨step.operation, clock⟩
  rw [sound.sameConfig] at checked effect same
  let after := world.breaker.perform ⟨step.operation, clock⟩
  let record : CallRecord ι := ⟨caller, step, world.breaker.state, after.state⟩
  have counts := sound.counts.checked checked
  have next : CountsEpisode (record :: world.ongoing) after.stateInstance :=
    counts.effect record effect
  have whole : episode (record :: world.trace) = record :: world.ongoing := rfl
  have closing (closes : record.closes) :=
    counts.closing record effect
      (fun closed => closes.1 (checked.closed_iff.mp closed)) closes.2
  refine ⟨same, ?_, ?_⟩
  · intro probing
    have ongoing : (world.stretch caller step clock).ongoing = record :: world.ongoing :=
      if_pos probing
    rw [ongoing]
    exact next probing
  · rintro _ _ ⟨⟩
    refine ⟨?_, ?_, ?_⟩
    · rw [whole]
      exact closing
    · intro wasProbing failure
      cases checked with
      | kept => exact Effect.reopening record effect wasProbing failure
      | waited openedAt opened since elapsed => exact nomatch wasProbing.symm.trans opened
    · intro closes probes
      rw [whole] at probes ⊢
      rw [← successes_eq_probeSuccesses probes]
      exact (closing closes).2.1

/-- In every interleaving of calls, what closes or reopens the breaker are the outcomes of
the calls that complete while it is HALF_OPEN, whenever these were admitted; where all of
them were admitted since, it is closed by the successes of such calls.
-/
theorem closes_by_completions {world : BreakerWorld ι} {record : CallRecord ι}
    {earlier : List (CallRecord ι)} (reached : Interleaved config world)
    (last : world.trace = record :: earlier)
    : ClosesByCompletions config record earlier := by
  suffices sound : VerdictSound config world from sound.last record earlier last
  clear last
  induction reached with
  | refl => exact ⟨rfl, nofun, nofun⟩
  | tail _ step ih =>
      cases step with
      | starts caller clock waiting => exact ih.stretch caller _ clock
      | settles caller resolved clock running => exact ih.stretch caller _ clock

end

/-- A breaker that one failure opens and one success closes. -/
def touchy : CircuitBreakerConfig := { threshold := 1, successThreshold := 1 }

/-- Two calls are admitted, and the failure of the first opens the breaker. -/
def twoAdmitted : BreakerWorld Bool :=
  (((BreakerWorld.start touchy).executeStart false ⟨0, 0⟩).executeStart true ⟨0, 0⟩).executeSettled
    false false ⟨1, 1⟩

theorem twoAdmitted_reached : Interleaved touchy twoAdmitted :=
  ((Relation.ReflTransGen.single (.starts false ⟨0, 0⟩ rfl)).tail
    (.starts true ⟨0, 0⟩ rfl)).tail (.settles false false ⟨1, 1⟩ rfl)

/-- The success of the second call, admitted in CLOSED, completes the count. -/
theorem closes_by_completions_late
    : ∃ record earlier,
        (twoAdmitted.executeSettled true true ⟨60001, 60001⟩).trace = record :: earlier
        ∧ record.closes
        ∧ ClosesByCompletions touchy record earlier :=
  ⟨_, _, rfl, ⟨nofun, rfl⟩,
    closes_by_completions (twoAdmitted_reached.tail (.settles true true ⟨60001, 60001⟩ rfl)) rfl⟩

/-- It is counted as a probe, and closes the breaker without one. -/
theorem late_success_closes : ¬ClosesByProbes touchy Bool := by
  intro probes
  have closed :=
    probes (twoAdmitted.executeSettled true true ⟨60001, 60001⟩) _ _
      (twoAdmitted_reached.tail (.settles true true ⟨60001, 60001⟩ rfl)) rfl ⟨nofun, rfl⟩
  have none
      : probeSuccesses (episode (twoAdmitted.executeSettled true true ⟨60001, 60001⟩).trace)
        = 0 := by
    decide +kernel
  rw [none] at closed
  exact absurd closed (by decide)

end QueueForge.Resilience
