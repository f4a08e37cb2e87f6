import QueueForge.Resilience.CircuitBreaker

/-! The laws of the circuit breaker over any sequence of its operations.
What one operation does to the state is said once, as the automatic transition it starts
with and the effect of its own; the laws follow by induction on the sequence.
-/

namespace QueueForge.Resilience

open QueueForge.Js

/-- The automatic transition an operation starts with. -/
inductive Checked (config : CircuitBreakerConfig) (now : Int) (before : CircuitBreakerState)
    : CircuitBreakerState → Prop
  | kept : Checked config now before before
  | waited (openedAt : Int) (opened : before.state = .open)
    (since : before.openedAt = some openedAt)
    (elapsed : config.timeout.le (.ofInt (now - openedAt)) = true)
    : Checked config now before { state := .halfOpen }

/-- What an operation does to the state it finds after the automatic transition. -/
inductive Effect (config : CircuitBreakerConfig) (event : BreakerEvent)
    (current : CircuitBreakerState)
    : CircuitBreakerState → Prop
  | observed (observes : event.operation = .canExecute ∨ event.operation = .getState)
    : Effect config event current current
  | ignored
    (records : event.operation = .recordSuccess ∨ event.operation = .recordFailure)
    (isOpen : current.state = .open)
    : Effect config event current current
  | untroubled (succeeded : event.operation = .recordSuccess)
    (isClosed : current.state = .closed) (none : current.failureCount = 0)
    : Effect config event current current
  | forgave (succeeded : event.operation = .recordSuccess) (isClosed : current.state = .closed)
    : Effect config event current { state := .closed }
  | probed (succeeded : event.operation = .recordSuccess)
    (probing : current.state = .halfOpen)
    (more : config.successThreshold.le (.ofInt (current.successCount + 1 : Nat)) = false)
    : Effect config event current {
        state := .halfOpen
        openedAt := current.openedAt
        successCount := current.successCount + 1
      }
  | closed (succeeded : event.operation = .recordSuccess)
    (probing : current.state = .halfOpen)
    (enough : config.successThreshold.le (.ofInt (current.successCount + 1 : Nat)) = true)
    : Effect config event current { state := .closed }
  | counted (failed : event.operation = .recordFailure) (isClosed : current.state = .closed)
    (below : config.threshold.le (.ofInt (current.failureCount + 1 : Nat)) = false)
    : Effect config event current {
        state := .closed
        failureCount := current.failureCount + 1
      }
  | tripped (failed : event.operation = .recordFailure) (isClosed : current.state = .closed)
    (reached : config.threshold.le (.ofInt (current.failureCount + 1 : Nat)) = true)
    : Effect config event current { state := .open, openedAt := some event.clock.opened }
  | reopened (failed : event.operation = .recordFailure)
    (probing : current.state = .halfOpen)
    : Effect config event current { state := .open, openedAt := some event.clock.opened }
  | reset (resets : event.operation = .reset) : Effect config event current {}

namespace CircuitBreaker

variable {breaker : CircuitBreaker} {config : CircuitBreakerConfig} {event : BreakerEvent}

theorem transitionTo_of_ne {now : Int} {newState : CircuitState}
    (moves : breaker.state ≠ newState)
    : breaker.transitionTo now newState = {
        breaker with
        stateInstance := {
          state := newState
          openedAt := if newState = .open then some now else none
        }
      } :=
  if_neg moves

/-- The automatic transition leads from OPEN to HALF_OPEN, after the timeout. -/
theorem checkStateTransition_checked (breaker : CircuitBreaker) (now : Int)
    : Checked breaker.config now breaker.stateInstance
        (breaker.checkStateTransition now).stateInstance
      ∧ (breaker.checkStateTransition now).config = breaker.config := by
  unfold checkStateTransition
  split
  case isTrue waits =>
    obtain ⟨opened, waits⟩ := waits
    have moves : breaker.state ≠ .halfOpen := by
      rw [opened]
      exact nofun
    rw [transitionTo_of_ne moves]
    have here : breaker.stateInstance.state = .open := opened
    unfold CircuitBreakerState.canAttemptReset at waits
    cases since : breaker.stateInstance.openedAt with
    | none =>
        simp only [here, since] at waits
        contradiction
    | some openedAt =>
        simp only [here, since] at waits
        exact ⟨.waited openedAt opened since waits, rfl⟩
  case isFalse => exact ⟨.kept, rfl⟩

/-- A success has one of the effects of a success. -/
theorem recordSuccess_effect (succeeded : event.operation = .recordSuccess)
    : Effect breaker.config event
          (breaker.checkStateTransition event.clock.checked).stateInstance
          (breaker.recordSuccess event.clock).stateInstance
      ∧ (breaker.recordSuccess event.clock).config = breaker.config := by
  obtain ⟨_, same⟩ := checkStateTransition_checked breaker event.clock.checked
  unfold recordSuccess getState
  generalize breaker.checkStateTransition event.clock.checked = current at same ⊢
  rw [← same]
  simp only
  cases now : current.state with
  | halfOpen =>
      simp only
      split
      case isTrue enough =>
        rw [transitionTo_of_ne (by rw [now]; exact nofun)]
        exact ⟨.closed succeeded now enough, rfl⟩
      case isFalse more => exact ⟨.probed succeeded now (by simpa using more), rfl⟩
  | closed =>
      simp only
      split
      case isTrue => exact ⟨.forgave succeeded now, rfl⟩
      case isFalse none => exact ⟨.untroubled succeeded now (by omega), rfl⟩
  | «open» => exact ⟨.ignored (.inl succeeded) now, rfl⟩

/-- A failure has one of the effects of a failure. -/
theorem recordFailure_effect (failed : event.operation = .recordFailure)
    : Effect breaker.config event
          (breaker.checkStateTransition event.clock.checked).stateInstance
          (breaker.recordFailure event.clock).stateInstance
      ∧ (breaker.recordFailure event.clock).config = breaker.config := by
  obtain ⟨_, same⟩ := checkStateTransition_checked breaker event.clock.checked
  unfold recordFailure getState
  generalize breaker.checkStateTransition event.clock.checked = current at same ⊢
  rw [← same]
  simp only
  cases now : current.state with
  | closed =>
      simp only
      split
      case isTrue reached =>
        rw [transitionTo_of_ne (by rw [now]; exact nofun)]
        exact ⟨.tripped failed now reached, rfl⟩
      case isFalse below => exact ⟨.counted failed now (by simpa using below), rfl⟩
  | halfOpen =>
      simp only
      rw [transitionTo_of_ne (by rw [now]; exact nofun)]
      exact ⟨.reopened failed now, rfl⟩
  | «open» => exact ⟨.ignored (.inr failed) now, rfl⟩

/-- An operation other than a reset has its effect on what the automatic transition leaves. -/
theorem checked_effect (breaker : CircuitBreaker) (observes : event.operation ≠ .reset)
    : Effect breaker.config event
          (breaker.checkStateTransition event.clock.checked).stateInstance
          (breaker.perform event).stateInstance
      ∧ (breaker.perform event).config = breaker.config := by
  unfold perform
  have same := (checkStateTransition_checked breaker event.clock.checked).2
  cases operation : event.operation with
  | recordSuccess => exact recordSuccess_effect operation
  | recordFailure => exact recordFailure_effect operation
  | canExecute => exact ⟨.observed (.inl operation), same⟩
  | getState => exact ⟨.observed (.inr operation), same⟩
  | reset => exact absurd operation observes

/-- Every operation is an automatic transition and an effect of its own. -/
theorem perform_effect (breaker : CircuitBreaker) (event : BreakerEvent)
    : ∃ current,
        Checked breaker.config event.clock.checked breaker.stateInstance current
        ∧ Effect breaker.config event current (breaker.perform event).stateInstance
        ∧ (breaker.perform event).config = breaker.config := by
  by_cases resets : event.operation = .reset
  · unfold perform
    rw [resets]
    exact ⟨_, .kept, .reset resets, rfl⟩
  · have checked := (checkStateTransition_checked breaker event.clock.checked).1
    exact ⟨_, checked, checked_effect breaker resets⟩

@[simp] theorem after_config (events : List BreakerEvent)
    : (after config events).config = config := by
  induction events with
  | nil => rfl
  | cons event earlier ih =>
      obtain ⟨_, _, _, same⟩ := perform_effect (after config earlier) event
      exact same.trans ih

/-- What one more operation does. -/
theorem after_cons (config : CircuitBreakerConfig) (event : BreakerEvent) (earlier : List BreakerEvent)
    : ∃ current,
        Checked config event.clock.checked (after config earlier).stateInstance current
        ∧ Effect config event current (after config (event :: earlier)).stateInstance := by
  obtain ⟨current, checked, effect, _⟩ := perform_effect (after config earlier) event
  rw [after_config] at checked effect
  exact ⟨current, checked, effect⟩

end CircuitBreaker

/-- What is told of an operation afterwards. -/
structure BreakerRecord where
  operation : BreakerOperation
  before : CircuitState
  after : CircuitState

namespace BreakerRecord

/-- A success, a reset or an entry into CLOSED: failures are counted anew from it. -/
def restarts (record : BreakerRecord) : Bool :=
  record.operation = .recordSuccess
  || record.operation = .reset
  || (record.before ≠ .closed && record.after = .closed)

/-- A failure recorded in CLOSED. -/
def failsClosed (record : BreakerRecord) : Bool :=
  record.operation = .recordFailure && record.before = .closed

end BreakerRecord

open CircuitBreaker

/-- What is told of a sequence of operations, newest first. -/
def breakerHistory (config : CircuitBreakerConfig) : List BreakerEvent → List BreakerRecord
  | [] => []
  | event :: earlier =>
      {
        operation := event.operation
        before := (after config earlier).state
        after := (after config (event :: earlier)).state
      }
      :: breakerHistory config earlier

/-- The failures recorded in CLOSED since the last success, reset or entry into CLOSED. -/
def closedFailures (records : List BreakerRecord) : Nat :=
  (records.takeWhile (fun record => !record.restarts)).countP BreakerRecord.failsClosed

/-- The laws of a breaker after a sequence of operations, the last of which is its head. -/
structure BreakerLaws (config : CircuitBreakerConfig) (events : List BreakerEvent) : Prop where
  openedAt
    : (after config events).stateInstance.openedAt.isSome = true
      ↔ (after config events).state = .open
  closed
    : (after config events).state = .closed
      → Number.lt (.ofInt (after config events).stateInstance.failureCount) config.threshold
          = true
        ∧ (after config events).stateInstance.successCount = 0
  halfOpen
    : (after config events).state = .halfOpen
      → Number.lt (.ofInt (after config events).stateInstance.successCount)
          config.successThreshold
          = true
        ∧ (after config events).stateInstance.failureCount = 0
  leavesOpen
    : ∀ event earlier,
        events = event :: earlier
        → (after config earlier).state = .open
        → (after config events).stateInstance ≠ (after config earlier).stateInstance
        → event.operation = .reset
          ∨ ∃ openedAt,
              (after config earlier).stateInstance.openedAt = some openedAt
              ∧ config.timeout.le (.ofInt (event.clock.checked - openedAt)) = true
  trips
    : ∀ event earlier,
        events = event :: earlier
        → (after config earlier).state = .closed
        → ((after config events).state = .open
          ↔ event.operation = .recordFailure
            ∧ config.threshold.le (.ofInt (closedFailures (breakerHistory config earlier))) = false
            ∧ config.threshold.le (.ofInt (closedFailures (breakerHistory config events))) = true)

/-! The invariant: what the counters stand for. -/

/-- What holds of the state after the operations a history tells of. -/
structure BreakerSound (config : CircuitBreakerConfig) (records : List BreakerRecord)
    (instant : CircuitBreakerState)
    : Prop where
  openedAt : instant.openedAt.isSome = true ↔ instant.state = .open
  closed
    : instant.state = .closed
      → config.threshold.le (.ofInt instant.failureCount) = false
        ∧ instant.successCount = 0
        ∧ closedFailures records = instant.failureCount
  halfOpen
    : instant.state = .halfOpen
      → config.successThreshold.le (.ofInt instant.successCount) = false
        ∧ instant.failureCount = 0

section
variable {config : CircuitBreakerConfig} {records : List BreakerRecord}
  {record : BreakerRecord} {event : BreakerEvent} {current next : CircuitBreakerState}

theorem closedFailures_restarts (restarts : record.restarts = true)
    : closedFailures (record :: records) = 0 := by
  simp [closedFailures, restarts]

theorem closedFailures_continues (continues : record.restarts = false)
    : closedFailures (record :: records)
      = closedFailures records + record.failsClosed.toNat := by
  cases fails : record.failsClosed <;> simp [closedFailures, continues, fails]

/-- A positive number is above zero, and no `NaN`. -/
theorem not_le_zero_of_one_le {number : Number} (positive : Number.le 1 number = true)
    : number.le (.ofInt 0) = false := by
  cases number with
  | nan => contradiction
  | negInfinity => contradiction
  | posInfinity => rfl
  | finite value =>
      have atLeast : (1 : Rat) ≤ value := by
        simpa [Number.le, OfNat.ofNat] using positive
      simp only [Number.le, Number.ofInt, decide_eq_false_iff_not]
      intro below
      exact absurd (Rat.le_trans atLeast below) (by decide)

theorem BreakerSound.ofClosed (positive : Number.le 1 config.threshold = true)
    (noFailures : closedFailures records = 0)
    : BreakerSound config records { state := .closed } :=
  ⟨⟨nofun, nofun⟩, fun _ => ⟨not_le_zero_of_one_le positive, rfl, noFailures⟩, nofun⟩

theorem BreakerSound.ofHalfOpen (probes : Number.le 1 config.successThreshold = true)
    : BreakerSound config records { state := .halfOpen } :=
  ⟨⟨nofun, nofun⟩, nofun, fun _ => ⟨not_le_zero_of_one_le probes, rfl⟩⟩

theorem BreakerSound.ofOpen (now : Int)
    : BreakerSound config records { state := .open, openedAt := some now } :=
  ⟨⟨fun _ => rfl, fun _ => rfl⟩, nofun, nofun⟩

theorem BreakerSound.checked (sound : BreakerSound config records current)
    (probes : Number.le 1 config.successThreshold = true) {now : Int}
    (checked : Checked config now current next)
    : BreakerSound config records next := by
  cases checked with
  | kept => exact sound
  | waited openedAt opened since elapsed => exact .ofHalfOpen probes

/-- The automatic transition neither leads to CLOSED nor away from it. -/
theorem Checked.closed_iff {now : Int} (checked : Checked config now current next)
    : next.state = .closed ↔ current.state = .closed := by
  cases checked with
  | kept => rfl
  | waited openedAt opened since elapsed =>
      rw [opened]
      exact ⟨nofun, nofun⟩

/-- An operation keeps the invariant, one case for each effect. -/
theorem BreakerSound.effect (positive : Number.le 1 config.threshold = true)
    (sound : BreakerSound config records current) (effect : Effect config event current next)
    (told : record.operation = event.operation)
    (before : current.state = .closed ↔ record.before = .closed)
    (after : record.after = next.state)
    : BreakerSound config (record :: records) next := by
  have anew
      (restart : event.operation = .recordSuccess ∨ event.operation = .reset)
      : closedFailures (record :: records) = 0 := by
    refine closedFailures_restarts ?_
    rcases restart with success | reset
    · simp [BreakerRecord.restarts, told, success]
    · simp [BreakerRecord.restarts, told, reset]
  cases effect with
  | observed observes =>
      refine ⟨sound.openedAt, ?_, sound.halfOpen⟩
      intro isClosed
      have continues : record.restarts = false := by
        have wasClosed := before.mp isClosed
        rcases observes with asks | asks <;> simp [BreakerRecord.restarts, told, asks, wasClosed]
      have quiet : record.failsClosed = false := by
        rcases observes with asks | asks <;> simp [BreakerRecord.failsClosed, told, asks]
      rw [closedFailures_continues continues, quiet]
      exact sound.closed isClosed
  | ignored records isOpen =>
      refine ⟨sound.openedAt, ?_, ?_⟩
      · exact fun isClosed => nomatch isOpen.symm.trans isClosed
      · exact fun probing => nomatch isOpen.symm.trans probing
  | untroubled succeeded isClosed none =>
      refine ⟨sound.openedAt, ?_, sound.halfOpen⟩
      intro _
      obtain ⟨below, noSuccesses, _⟩ := sound.closed isClosed
      exact ⟨below, noSuccesses, (anew (.inl succeeded)).trans none.symm⟩
  | forgave succeeded isClosed => exact .ofClosed positive (anew (.inl succeeded))
  | probed succeeded probing more =>
      have noTime : current.openedAt.isSome ≠ true := by
        rw [ne_eq, sound.openedAt, probing]
        exact nofun
      exact ⟨⟨fun set => absurd set noTime, nofun⟩, nofun, fun _ => ⟨more, rfl⟩⟩
  | closed succeeded probing enough => exact .ofClosed positive (anew (.inl succeeded))
  | counted failed isClosed below =>
      refine ⟨⟨nofun, nofun⟩, ?_, nofun⟩
      intro _
      have wasClosed := before.mp isClosed
      have continues : record.restarts = false := by
        simp [BreakerRecord.restarts, told, failed, wasClosed]
      have fails : record.failsClosed = true := by
        simp [BreakerRecord.failsClosed, told, failed, wasClosed]
      obtain ⟨_, _, counted⟩ := sound.closed isClosed
      rw [closedFailures_continues continues, fails, counted]
      exact ⟨below, rfl, rfl⟩
  | tripped failed isClosed reached => exact .ofOpen event.clock.opened
  | reopened failed probing => exact .ofOpen event.clock.opened
  | reset resets => exact .ofClosed positive (anew (.inr resets))

/-- The invariant holds after every sequence of operations, by induction on the sequence. -/
theorem sound_after (positive : Number.le 1 config.threshold = true)
    (probes : Number.le 1 config.successThreshold = true) (events : List BreakerEvent)
    : BreakerSound config (breakerHistory config events) (after config events).stateInstance := by
  induction events with
  | nil => exact .ofClosed positive rfl
  | cons event earlier ih =>
      obtain ⟨current, checked, effect⟩ := after_cons config event earlier
      exact (ih.checked probes checked).effect positive effect rfl checked.closed_iff rfl

end

/-- An operation that changes an open breaker resets it or comes after the timeout. -/
theorem leavesOpen {config : CircuitBreakerConfig} {event : BreakerEvent}
    {before current next : CircuitBreakerState}
    (checked : Checked config event.clock.checked before current)
    (effect : Effect config event current next) (wasOpen : before.state = .open)
    (changes : next ≠ before)
    : event.operation = .reset
      ∨ ∃ openedAt,
          before.openedAt = some openedAt
          ∧ config.timeout.le (.ofInt (event.clock.checked - openedAt)) = true := by
  cases checked with
  | waited openedAt opened since elapsed => exact .inr ⟨openedAt, since, elapsed⟩
  | kept =>
      have notClosed : before.state ≠ .closed := by simp [wasOpen]
      have notProbing : before.state ≠ .halfOpen := by simp [wasOpen]
      cases effect with
      | reset resets => exact .inl resets
      | observed observes => exact absurd rfl changes
      | ignored records isOpen => exact absurd rfl changes
      | untroubled succeeded isClosed none => exact absurd isClosed notClosed
      | forgave succeeded isClosed => exact absurd isClosed notClosed
      | probed succeeded probing more => exact absurd probing notProbing
      | closed succeeded probing enough => exact absurd probing notProbing
      | counted failed isClosed below => exact absurd isClosed notClosed
      | tripped failed isClosed reached => exact absurd isClosed notClosed
      | reopened failed probing => exact absurd probing notProbing

/-- A closed breaker opens exactly at the failure that brings the count to the threshold. -/
theorem trips_iff {config : CircuitBreakerConfig} {records : List BreakerRecord}
    {record : BreakerRecord} {event : BreakerEvent} {before current next : CircuitBreakerState}
    (sound : BreakerSound config records before)
    (checked : Checked config event.clock.checked before current)
    (effect : Effect config event current next) (told : record.operation = event.operation)
    (wasClosed : before.state = .closed) (same : record.before = before.state)
    : next.state = .open
      ↔ event.operation = .recordFailure
        ∧ config.threshold.le (.ofInt (closedFailures records)) = false
        ∧ config.threshold.le (.ofInt (closedFailures (record :: records))) = true := by
  obtain ⟨below, _, counted⟩ := sound.closed wasClosed
  have here : current = before := by
    cases checked with
    | kept => rfl
    | waited openedAt opened since elapsed => cases wasClosed.symm.trans opened
  subst here
  rw [counted]
  -- Only a failure counts, and in CLOSED it counts one more.
  have more (failed : event.operation = .recordFailure)
      : closedFailures (record :: records) = current.failureCount + 1 := by
    have continues : record.restarts = false := by
      simp [BreakerRecord.restarts, told, failed, same, wasClosed]
    have fails : record.failsClosed = true := by
      simp [BreakerRecord.failsClosed, told, failed, same, wasClosed]
    rw [closedFailures_continues continues, fails, counted]
    rfl
  have stays (isClosed : next.state = .closed) (other : event.operation ≠ .recordFailure)
      : next.state = .open
        ↔ event.operation = .recordFailure
          ∧ config.threshold.le (.ofInt current.failureCount) = false
          ∧ config.threshold.le (.ofInt (closedFailures (record :: records))) = true := by
    rw [isClosed]
    exact ⟨(by rintro ⟨⟩), fun trip => absurd trip.1 other⟩
  cases effect with
  | observed observes =>
      refine stays wasClosed ?_
      rcases observes with asks | asks <;> simp [asks]
  | ignored records isOpen => cases wasClosed.symm.trans isOpen
  | untroubled succeeded isClosed none => exact stays wasClosed (by simp [succeeded])
  | forgave succeeded isClosed => exact stays rfl (by simp [succeeded])
  | probed succeeded probing more => cases wasClosed.symm.trans probing
  | closed succeeded probing enough => cases wasClosed.symm.trans probing
  | counted failed isClosed fewer =>
      rw [more failed]
      exact ⟨(by rintro ⟨⟩), fun trip => (by cases fewer.symm.trans trip.2.2)⟩
  | tripped failed isClosed reached =>
      rw [more failed]
      exact ⟨fun _ => ⟨failed, below, reached⟩, fun _ => rfl⟩
  | reopened failed probing => cases wasClosed.symm.trans probing
  | reset resets => exact stays rfl (by simp [resets])

/-- Every sequence of operations keeps the laws, whatever the clock shows. -/
theorem breaker_laws (config : CircuitBreakerConfig)
    (positive : Number.le 1 config.threshold = true)
    (probes : Number.le 1 config.successThreshold = true) (events : List BreakerEvent)
    : BreakerLaws config events := by
  have isNumber {number : Number} (atLeast : Number.le 1 number = true) : number ≠ .nan := by
    rintro rfl
    contradiction
  have sound := sound_after positive probes events
  refine ⟨sound.openedAt, ?_, ?_, ?_, ?_⟩
  · intro isClosed
    obtain ⟨below, noSuccesses, _⟩ := sound.closed isClosed
    exact ⟨Number.ofInt_lt_of_not_le (isNumber positive) below, noSuccesses⟩
  · intro probing
    obtain ⟨fewer, noFailures⟩ := sound.halfOpen probing
    exact ⟨Number.ofInt_lt_of_not_le (isNumber probes) fewer, noFailures⟩
  · rintro event earlier rfl wasOpen changes
    obtain ⟨current, checked, effect⟩ := after_cons config event earlier
    exact leavesOpen checked effect wasOpen changes
  · rintro event earlier rfl wasClosed
    obtain ⟨current, checked, effect⟩ := after_cons config event earlier
    exact trips_iff (sound_after positive probes earlier) checked effect rfl wasClosed rfl

/-- After a success in between, a threshold of two takes two failures more. -/
theorem breaker_laws_two_failures
    : (after { threshold := 2 } [
        ⟨.recordFailure, ⟨9, 9⟩⟩, ⟨.recordFailure, ⟨7, 7⟩⟩, ⟨.recordSuccess, ⟨5, 5⟩⟩,
        ⟨.recordFailure, ⟨2, 2⟩⟩
      ]).state = .open
      ∧ BreakerLaws { threshold := 2 } [
        ⟨.recordFailure, ⟨9, 9⟩⟩, ⟨.recordFailure, ⟨7, 7⟩⟩, ⟨.recordSuccess, ⟨5, 5⟩⟩,
        ⟨.recordFailure, ⟨2, 2⟩⟩
      ] :=
  ⟨by decide +kernel, breaker_laws { threshold := 2 } rfl rfl _⟩

end QueueForge.Resilience
