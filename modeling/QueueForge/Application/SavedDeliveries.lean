import QueueForge.Application.RetryServices
import QueueForge.Domain.DeliveryEffects

/-! What the services save of the delivery they loaded.
A service is observed through the last entity it has saved; its spec says which entity that
is when its collaborators resolve.
-/

namespace QueueForge.Application

open QueueForge.Async QueueForge.Js QueueForge.Domain

/-- The last entity a service has saved, if any. -/
def lastSaved (last : Option Delivery) (call : ServiceCall) : Option Delivery :=
  call.saved?.or last

/-- An answer that is no rejection. -/
def Resolved (call : ServiceCall) (result : Settled Thrown call.Result) : Prop :=
  ∃ value, result = .ok value

/-- The rejections of a service's attempt log and of its event publisher, if they reject. -/
structure Faults where
  attempt : Option Thrown
  publish : Option Thrown

namespace Faults

/-- Neither rejects. -/
def quiet : Faults := ⟨none, none⟩

/-- The rejection of a call. -/
def of (faults : Faults) : ServiceCall → Option Thrown
  | .recordAttempt _ _ _ => faults.attempt
  | .publish _ => faults.publish
  | _ => none

/-- A service with these collaborators runs into a rejection. -/
def interrupts (faults : Faults) (config : ServiceConfig) : Bool :=
  config.attemptRepository && faults.attempt.isSome
  || config.eventPublisher && faults.publish.isSome

@[simp] theorem quiet_of (call : ServiceCall) : quiet.of call = none := by
  cases call <;> rfl

end Faults

/-- The answer of a call that rejects with the fault, or resolves if there is none. -/
def Answers (fault : Option Thrown) (call : ServiceCall) (result : Settled Thrown call.Result)
    : Prop :=
  match fault with
  | none => Resolved call result
  | some error => result = .error error

/-- The contract of a service whose calls resolve but for the faults, observed by what it
saves. Attempts under a number are not among its calls.
-/
def saving (faults : Faults) : Contract ServiceSignature Thrown (Option Delivery) where
  allows _ call := call.isNumberedAttempt = false
  answers last call result after :=
    Answers (faults.of call) call result ∧ after = lastSaved last call

section
variable {faults : Faults} {last : Option Delivery} {call : ServiceCall}
  {post : Settled Thrown call.Result → Option Delivery → Prop}

theorem meets_awaitCall_saving (sound : faults.of call = none)
    : Program.Meets (α := no_index call.Result) (saving faults) (awaitCall call) last post
      ↔ call.isNumberedAttempt = false ∧ ∀ value, post (.ok value) (lastSaved last call) := by
  refine meets_awaitCall.trans (and_congr_right (fun _ => ?_))
  simp only [saving, sound, Answers]
  constructor
  · intro owed value
    exact owed _ _ ⟨⟨value, rfl⟩, rfl⟩
  · rintro owed _ _ ⟨⟨value, rfl⟩, rfl⟩
    exact owed value

/-- Awaiting a call that rejects. -/
theorem meets_awaitCall_rejecting {error : Thrown} (fault : faults.of call = some error)
    (unnumbered : call.isNumberedAttempt = false)
    (rejected : post (.error error) (lastSaved last call))
    : Program.Meets (α := no_index call.Result) (saving faults) (awaitCall call) last post := by
  refine meets_awaitCall.mpr ⟨unnumbered, ?_⟩
  simp only [saving, fault, Answers]
  rintro _ _ ⟨rfl, rfl⟩
  exact rejected

end

/-- A method call that returns goes on with the delivery it leaves. -/
theorem applied_of_returns {mutation : Mutation Unit} {delivery after : Delivery}
    (returned : mutation.apply delivery = (.ok (), after))
    : applied mutation delivery = .done after := by
  simp only [applied, returned]

/-- A method call that throws ends the service. -/
theorem applied_of_throws {mutation : Mutation Unit} {delivery : Delivery} {error : Thrown}
    (thrown : (mutation.apply delivery).1 = .error error)
    : applied mutation delivery = .fail error := by
  unfold applied
  rcases result : mutation.apply delivery with ⟨outcome, after⟩
  rw [result] at thrown
  subst thrown
  rfl

/-- Marking PROCESSING where the services do it succeeds and keeps the count; a delivery that
is neither PENDING nor SCHEDULED_RETRY stays as it is.
-/
theorem startProcessing_returns (runtime : Runtime) (delivery : Delivery)
    : ∃ after,
        startProcessing runtime delivery = .done after
        ∧ delivery.SameEntity after
        ∧ after.retryCount = delivery.retryCount := by
  by_cases startable : delivery.status = .pending ∨ delivery.status = .scheduledRetry
  · obtain ⟨after, returned, same, count, _⟩ :=
      Delivery.markAsProcessing_spec runtime startable
    exact ⟨after, (if_pos startable).trans (applied_of_returns returned), same, count⟩
  · exact ⟨delivery, if_neg startable, .refl delivery, rfl⟩

section
variable {faults : Faults} {α : Type} {first : ServiceProgram Unit}
  {rest : Unit → ServiceProgram α} {last : Option Delivery}

/-- A step that returns and saves nothing can be left out of account. -/
theorem meets_after_quiet {post : Settled Thrown α → Option Delivery → Prop}
    (quiet
      : first.Meets (saving faults) last
          (fun outcome saved => outcome = .ok () ∧ saved = last))
    (met : (rest ()).Meets (saving faults) last post)
    : (first.bind rest).Meets (saving faults) last post := by
  rw [Program.meets_bind]
  refine quiet.mono ?_
  rintro _ _ ⟨rfl, rfl⟩
  exact met

/-- A step that throws and saves nothing is all that happens. -/
theorem meets_after_throw
    (throws
      : first.Meets (saving faults) last
          (fun outcome saved => (∃ thrown, outcome = .error thrown) ∧ saved = last))
    : (first.bind rest).Meets (saving faults) last
        (fun outcome saved => (∃ thrown, outcome = .error thrown) ∧ saved = last) := by
  rw [Program.meets_bind]
  refine throws.mono ?_
  rintro _ _ ⟨⟨thrown, rfl⟩, rfl⟩
  exact ⟨⟨thrown, rfl⟩, rfl⟩

end

namespace HandleFailureService

/-- A verdict the entity can record: a boolean, or a falsy value. -/
def recordable : Value → Bool
  | .bool _ => true
  | verdict => !verdict.truthy

/-- Whether a failure leads to another attempt, judged before it is recorded. -/
def retries (verdict : Value) (delivery : Delivery) : Bool :=
  verdict.truthy && decide (delivery.retryCount < 5)

/-- A failure that can be recorded is, and the service then finds the delivery eligible for
a retry exactly when its count before was below five.
-/
theorem markFailed_spec (runtime : Runtime) {delivery : Delivery} {error : FailureArgument}
    {verdict : Value} (usable : error.usable = true) (recorded : recordable verdict = true)
    : ∃ after,
        (markFailed runtime error verdict).apply delivery = (.ok (), after)
        ∧ delivery.SameEntity after
        ∧ after.retryCount = delivery.failureCount
        ∧ after.lastError.isSome = true
        ∧ (verdict.truthy && after.canRetry) = retries verdict delivery := by
  have limit
      : Number.le 5 (.ofInt delivery.failureCount) = decide (5 ≤ delivery.retryCount) :=
    Delivery.five_le_failureCount
  by_cases truthy : verdict.truthy = true
  · obtain rfl : verdict = .bool true := by
      cases verdict <;> simp_all [recordable, Value.truthy]
    obtain ⟨after, returned, same, count, known, status⟩ :=
      @Delivery.markFailed_spec runtime delivery _ (.decided true) 5 usable
    refine ⟨after, returned, same, count, known, ?_⟩
    have gives : delivery.givesUp (.decided true) 5 = decide (5 ≤ delivery.retryCount) := limit
    rw [gives] at status
    simp only [retries, Delivery.canRetry, count, limit, status, truthy, Bool.true_and]
    by_cases reached : 5 ≤ delivery.retryCount
    · simp [reached, DeliveryStatus.isFinal]
    · simp [reached, DeliveryStatus.isFinal]
      omega
  · have falsy : verdict.truthy = false := eq_false_of_ne_true truthy
    obtain ⟨argument, records⟩
        : ∃ argument, markFailed runtime error verdict
          = Delivery.markFailed runtime error argument := by
      cases verdict with
      | bool retry => exact ⟨.decided retry, rfl⟩
      | _ => exact ⟨.absent, by simp only [markFailed, falsy, Bool.false_eq_true, if_false]⟩
    obtain ⟨after, returned, same, count, known, _⟩ :=
      @Delivery.markFailed_spec runtime delivery _ argument 5 usable
    rw [records]
    exact ⟨after, returned, same, count, known, by simp [retries, falsy]⟩

/-- Any other failure throws out of the service. -/
theorem markFailed_throws (runtime : Runtime) (delivery : Delivery) {error : FailureArgument}
    {verdict : Value} (rejected : ¬error.usable = true ∨ ¬recordable verdict = true)
    : ∃ thrown, ((markFailed runtime error verdict).apply delivery).1 = .error thrown := by
  cases usable : error.usable with
  | false =>
      refine ⟨DeliveryError.new.rejected, ?_⟩
      have made := FailureArgument.toDeliveryError_of_not_usable usable
      have thrown
          : ∀ argument,
              ((Delivery.markFailed runtime error argument).apply delivery).1
              = .error DeliveryError.new.rejected := by
        intro argument
        rw [Delivery.markFailed_not_usable runtime delivery argument 5 usable]
      cases verdict with
      | bool retry => exact thrown (.decided retry)
      | _ =>
          simp only [markFailed]
          split
          · simp [made]
          · exact thrown .absent
  | true =>
      obtain ⟨errObj, made⟩ := FailureArgument.toDeliveryError_of_usable usable
      have unrecordable : recordable verdict = false := by
        simpa [usable] using rejected
      have truthy : verdict.truthy = true := by
        cases verdict <;> simp_all [recordable]
      refine ⟨newTypeError "retryStrategy.canRetry is not a function", ?_⟩
      cases verdict with
      | bool retry => cases unrecordable
      | _ => simp [markFailed, truthy, made]

section
variable {config : ServiceConfig} {faults : Faults} {deliveryId : String}
  {last : Option Delivery}

/-- Recording an attempt saves nothing. -/
theorem recordAttempt_saves {data : AttemptData}
    (sound : (config.attemptRepository && faults.attempt.isSome) = false)
    : (recordAttempt config deliveryId data).Meets (saving faults) last
        (fun outcome saved => outcome = .ok () ∧ saved = last) := by
  unfold recordAttempt
  split
  · rename_i present
    have resolves : faults.of (.recordAttempt deliveryId none data) = none := by
      simpa [present, Faults.of] using sound
    exact (meets_awaitCall_saving resolves).mpr ⟨rfl, fun _ => ⟨rfl, rfl⟩⟩
  · exact ⟨rfl, rfl⟩

theorem recordAttempt_throws {data : AttemptData}
    (fault : (config.attemptRepository && faults.attempt.isSome) = true)
    : (recordAttempt config deliveryId data).Meets (saving faults) last
        (fun outcome saved => (∃ thrown, outcome = .error thrown) ∧ saved = last) := by
  rw [Bool.and_eq_true, Option.isSome_iff_exists] at fault
  obtain ⟨present, error, rejects⟩ := fault
  rw [recordAttempt, if_pos present]
  exact meets_awaitCall_rejecting rejects rfl ⟨⟨error, rfl⟩, rfl⟩

/-- Publishing an event saves nothing. -/
theorem publish_saves {event : PublishedEvent}
    (sound : (config.eventPublisher && faults.publish.isSome) = false)
    : (publish config event).Meets (saving faults) last
        (fun outcome saved => outcome = .ok () ∧ saved = last) := by
  unfold publish
  split
  · rename_i present
    have resolves : faults.of (.publish event) = none := by
      simpa [present, Faults.of] using sound
    exact (meets_awaitCall_saving resolves).mpr ⟨rfl, fun _ => ⟨rfl, rfl⟩⟩
  · exact ⟨rfl, rfl⟩

theorem publish_throws {event : PublishedEvent}
    (fault : (config.eventPublisher && faults.publish.isSome) = true)
    : (publish config event).Meets (saving faults) last
        (fun outcome saved => (∃ thrown, outcome = .error thrown) ∧ saved = last) := by
  rw [Bool.and_eq_true, Option.isSome_iff_exists] at fault
  obtain ⟨present, error, rejects⟩ := fault
  rw [publish, if_pos present]
  exact meets_awaitCall_rejecting rejects rfl ⟨⟨error, rfl⟩, rfl⟩

end

section
variable {config : ServiceConfig} {faults : Faults} {deliveryId : String} {runtime : Runtime}
  {errorMessage : Value} {failed : Delivery} {last : Option Delivery}

/-- The retry branch saves the delivery as SCHEDULED_RETRY under its count. -/
theorem scheduleRetry_saves
    (sound : (config.eventPublisher && faults.publish.isSome) = false)
    : (scheduleRetry config deliveryId errorMessage runtime failed).Meets (saving faults)
        last
        (fun outcome saved =>
          outcome = .ok ()
          ∧ ∃ after,
              saved = some after
              ∧ failed.SameEntity after
              ∧ after.retryCount = failed.retryCount
              ∧ after.status = .scheduledRetry) := by
  obtain ⟨after, returned, same, count, status⟩ :=
    @Delivery.scheduleRetry_spec runtime failed
      (.number (doublingDelay runtime (.ofInt failed.retryCount)))
  simp only [scheduleRetry, applied_of_returns returned, Program.bind_eq, Program.bind]
  refine meets_after_quiet (publish_saves sound) ?_
  exact (meets_awaitCall_saving rfl).mpr
    ⟨rfl, fun _ => ⟨rfl, after, rfl, same, count, status⟩⟩

/-- The other branch saves the delivery as FAILED_DLQ under its count. -/
theorem moveToDeadLetterQueue_saves (known : failed.lastError.isSome = true)
    (sound : (config.eventPublisher && faults.publish.isSome) = false)
    : (moveToDeadLetterQueue config deliveryId errorMessage runtime failed).Meets
        (saving faults) last
        (fun outcome saved =>
          outcome = .ok ()
          ∧ ∃ after,
              saved = some after
              ∧ failed.SameEntity after
              ∧ after.retryCount = failed.retryCount
              ∧ after.status = .failedDlq) := by
  obtain ⟨after, returned, same, count, _, status⟩ :=
    @Delivery.moveToDeadLetterQueue_spec runtime failed errorMessage (.inl known)
  simp only [moveToDeadLetterQueue, applied_of_returns returned, Program.bind_eq, Program.bind]
  refine meets_after_quiet (publish_saves sound) ?_
  exact (meets_awaitCall_saving rfl).mpr
    ⟨rfl, fun _ => ⟨rfl, after, rfl, same, count, status⟩⟩

/-- When the publisher rejects, neither branch comes to its save. -/
theorem scheduleRetry_throws
    (fault : (config.eventPublisher && faults.publish.isSome) = true)
    : (scheduleRetry config deliveryId errorMessage runtime failed).Meets (saving faults) last
        (fun outcome saved => (∃ thrown, outcome = .error thrown) ∧ saved = last) := by
  obtain ⟨after, returned, _⟩ :=
    @Delivery.scheduleRetry_spec runtime failed
      (.number (doublingDelay runtime (.ofInt failed.retryCount)))
  simp only [scheduleRetry, applied_of_returns returned, Program.bind_eq, Program.bind]
  exact meets_after_throw (publish_throws fault)

theorem moveToDeadLetterQueue_throws (known : failed.lastError.isSome = true)
    (fault : (config.eventPublisher && faults.publish.isSome) = true)
    : (moveToDeadLetterQueue config deliveryId errorMessage runtime failed).Meets
        (saving faults) last
        (fun outcome saved => (∃ thrown, outcome = .error thrown) ∧ saved = last) := by
  obtain ⟨after, returned, _⟩ :=
    @Delivery.moveToDeadLetterQueue_spec runtime failed errorMessage (.inl known)
  simp only [moveToDeadLetterQueue, applied_of_returns returned, Program.bind_eq, Program.bind]
  exact meets_after_throw (publish_throws fault)

end

section
variable {config : ServiceConfig} {faults : Faults} {deliveryId : String}
  {error : ReportedError} {verdict : FailureVerdict} {isRetryable : Value}

/-- Uninterrupted, a failure that can be recorded is saved: SCHEDULED_RETRY if it is retried,
else FAILED_DLQ.
-/
theorem recordFailure_saves
    (judged : HandleFailureService.isRetryable config.language error verdict = .ok isRetryable)
    (usable : error.argument.usable = true) (recorded : recordable isRetryable = true)
    (sound : faults.interrupts config = false) (delivery : Delivery) (last : Option Delivery)
    : (recordFailure config deliveryId error verdict delivery).Meets (saving faults) last
        (fun outcome saved =>
          outcome = .ok ()
          ∧ ∃ after,
              saved = some after
              ∧ delivery.SameEntity after
              ∧ after.retryCount = delivery.failureCount
              ∧ after.status
                = if retries isRetryable delivery then .scheduledRetry else .failedDlq) := by
  rw [Faults.interrupts, Bool.or_eq_false_iff] at sound
  simp only [recordFailure, judged, settled, Program.bind_eq, Program.bind]
  refine meets_after_quiet (recordAttempt_saves sound.1) ?_
  rw [Program.meets_bind, meets_awaitCall_saving rfl]
  refine ⟨rfl, fun runtime => ?_⟩
  obtain ⟨processing, started, sameStarted, countStarted⟩ :=
    startProcessing_returns runtime delivery
  obtain ⟨failed, returned, sameFailed, countFailed, known, eligible⟩ :=
    @markFailed_spec runtime processing _ _ usable recorded
  have same := sameStarted.trans sameFailed
  have count : failed.retryCount = delivery.failureCount := by
    rw [countFailed, Delivery.failureCount, Delivery.failureCount, countStarted]
  have retried : retries isRetryable processing = retries isRetryable delivery := by
    rw [retries, retries, countStarted]
  simp only [started, applied_of_returns returned, Program.bind, eligible, retried]
  cases again : retries isRetryable delivery with
  | true =>
      refine (scheduleRetry_saves sound.2).mono ?_
      rintro outcome saved ⟨resolved, after, rfl, sameAfter, countAfter, status⟩
      exact ⟨resolved, after, rfl, same.trans sameAfter, countAfter.trans count, status⟩
  | false =>
      refine (moveToDeadLetterQueue_saves known sound.2).mono ?_
      rintro outcome saved ⟨resolved, after, rfl, sameAfter, countAfter, status⟩
      exact ⟨resolved, after, rfl, same.trans sameAfter, countAfter.trans count, status⟩

/-- A failure that cannot be recorded, or whose recording is interrupted, throws before
anything is saved.
-/
theorem recordFailure_throws
    (judged : HandleFailureService.isRetryable config.language error verdict = .ok isRetryable)
    (rejected
      : faults.interrupts config = true
        ∨ ¬error.argument.usable = true
        ∨ ¬recordable isRetryable = true)
    (delivery : Delivery) (last : Option Delivery)
    : (recordFailure config deliveryId error verdict delivery).Meets (saving faults) last
        (fun outcome saved => (∃ thrown, outcome = .error thrown) ∧ saved = last) := by
  simp only [recordFailure, judged, settled, Program.bind_eq, Program.bind]
  cases logFault : config.attemptRepository && faults.attempt.isSome with
  | true => exact meets_after_throw (recordAttempt_throws logFault)
  | false =>
      refine meets_after_quiet (recordAttempt_saves logFault) ?_
      rw [Program.meets_bind, meets_awaitCall_saving rfl]
      refine ⟨rfl, fun runtime => ?_⟩
      obtain ⟨processing, started, _, _⟩ := startProcessing_returns runtime delivery
      by_cases recorded : error.argument.usable = true ∧ recordable isRetryable = true
      · have fault : (config.eventPublisher && faults.publish.isSome) = true := by
          rcases rejected with interrupted | unrecorded
          · simpa only [Faults.interrupts, logFault, Bool.false_or] using interrupted
          · exact absurd recorded (not_and_or.mpr unrecorded)
        obtain ⟨failed, returned, _, _, known, _⟩ :=
          @markFailed_spec runtime processing _ _ recorded.1 recorded.2
        simp only [started, applied_of_returns returned, Program.bind]
        split
        · exact scheduleRetry_throws fault
        · exact moveToDeadLetterQueue_throws known fault
      · obtain ⟨thrown, throws⟩ :=
          markFailed_throws runtime processing (not_and_or.mp recorded)
        simp only [started, applied_of_throws throws, Program.bind]
        exact ⟨⟨thrown, rfl⟩, rfl⟩

end

end HandleFailureService

namespace ScheduleRetryService

/-- The reason given for an exceeded maximum is never empty. -/
theorem exceededReason_isText (language : Language) (retryCount : Int) (maximum : Value)
    : (exceededReason language retryCount maximum).isText = true := by
  have opening : toString "Max retries exceeded (" ≠ "" := by decide
  simp [exceededReason, Value.isText, opening]

/-- Whether a strategy finds no delay for the attempt, because its method throws. -/
def delayThrows (retryCountOrStrategy maxRetriesOrStrategy : RetryOption)
    (attemptNum : Number)
    : Bool :=
  match calculateDelay retryCountOrStrategy maxRetriesOrStrategy with
  | none => false
  | some method => !(method (attemptNum.add 1)).isOk

/-- A delay is found whatever the runtime, unless the strategy's method throws. -/
theorem delay_found {retryCountOrStrategy maxRetriesOrStrategy : RetryOption}
    {attemptNum : Number}
    (found : delayThrows retryCountOrStrategy maxRetriesOrStrategy attemptNum = false)
    (runtime : Runtime)
    : ∃ value, delay runtime retryCountOrStrategy maxRetriesOrStrategy attemptNum = .ok value := by
  unfold delayThrows at found
  unfold delay
  cases strategy : calculateDelay retryCountOrStrategy maxRetriesOrStrategy with
  | none =>
      dsimp only
      split
      · split <;> exact ⟨_, rfl⟩
      · exact ⟨_, rfl⟩
  | some method =>
      simp only [strategy] at found
      cases answer : method (attemptNum.add 1) with
      | ok value => exact ⟨value, answer⟩
      | error error =>
          rw [answer] at found
          exact nomatch found

theorem delay_throws {retryCountOrStrategy maxRetriesOrStrategy : RetryOption}
    {attemptNum : Number}
    (throws : delayThrows retryCountOrStrategy maxRetriesOrStrategy attemptNum = true)
    (runtime : Runtime)
    : ∃ error,
        delay runtime retryCountOrStrategy maxRetriesOrStrategy attemptNum = .error error := by
  unfold delayThrows at throws
  unfold delay
  cases strategy : calculateDelay retryCountOrStrategy maxRetriesOrStrategy with
  | none =>
      simp only [strategy] at throws
      exact nomatch throws
  | some method =>
      simp only [strategy] at throws
      cases answer : method (attemptNum.add 1) with
      | error error => exact ⟨error, answer⟩
      | ok value =>
          rw [answer] at throws
          exact nomatch throws

section
variable {config : ServiceConfig} {faults : Faults} {deliveryId : String}
  {retryCountOrStrategy maxRetriesOrStrategy : RetryOption} {delivery : Delivery}
  {last : Option Delivery}

/-- Putting the retry in the queue saves nothing. -/
theorem enqueue_saves {attempt : Number} {delay : Value}
    : (enqueue config delivery deliveryId attempt delay).Meets (saving faults) last
        (fun outcome saved => outcome = .ok () ∧ saved = last) := by
  unfold enqueue
  split
  · exact (meets_awaitCall_saving rfl).mpr ⟨rfl, fun _ => ⟨rfl, rfl⟩⟩
  · exact (meets_awaitCall_saving rfl).mpr ⟨rfl, fun _ => ⟨rfl, rfl⟩⟩
  · exact ⟨rfl, rfl⟩
  · exact ⟨rfl, rfl⟩

/-- With collaborators that resolve, a delivery at its maximum is saved as FAILED_DLQ. -/
theorem reschedule_saves_exceeded {maximum : Value}
    (given : maxAllowed maxRetriesOrStrategy = .ok maximum)
    (reached : (config.language.number maximum).le (.ofInt delivery.retryCount) = true)
    : (reschedule config deliveryId retryCountOrStrategy maxRetriesOrStrategy delivery).Meets
        (saving faults) last
        (fun _ saved =>
          ∃ after, saved = some after ∧ delivery.SameEntity after ∧ after.status = .failedDlq) := by
  simp only [reschedule, given, settled, Program.bind_eq, Program.bind, reached, if_true]
  rw [Program.meets_bind, meets_awaitCall_saving rfl]
  refine ⟨rfl, fun runtime => ?_⟩
  obtain ⟨after, returned, same, _, _, status⟩ :=
    @Delivery.moveToDeadLetterQueue_spec runtime delivery
      (exceededReason config.language delivery.retryCount maximum)
      (.inr (exceededReason_isText config.language delivery.retryCount maximum))
  simp only [applied_of_returns returned, Program.bind]
  rw [Program.meets_bind, meets_awaitCall_saving rfl]
  exact ⟨rfl, fun _ => ⟨after, rfl, same, status⟩⟩

/-- With collaborators that resolve, any other delivery whose delay is found is saved as
SCHEDULED_RETRY.
-/
theorem reschedule_saves_scheduled {maximum : Value}
    (given : maxAllowed maxRetriesOrStrategy = .ok maximum)
    (reached : (config.language.number maximum).le (.ofInt delivery.retryCount) = false)
    (delayed
      : ∀ runtime, ∃ value,
          delay runtime retryCountOrStrategy maxRetriesOrStrategy
              (attemptNum retryCountOrStrategy delivery.retryCount)
            = .ok value)
    : (reschedule config deliveryId retryCountOrStrategy maxRetriesOrStrategy delivery).Meets
        (saving faults) last
        (fun _ saved =>
          ∃ after,
            saved = some after ∧ delivery.SameEntity after ∧ after.status = .scheduledRetry) := by
  simp only [reschedule, given, settled, Program.bind_eq, Program.bind, reached,
    Bool.false_eq_true, if_false]
  rw [Program.meets_bind, meets_awaitCall_saving rfl]
  refine ⟨rfl, fun runtime => ?_⟩
  obtain ⟨value, found⟩ := delayed runtime
  obtain ⟨processing, started, sameStarted, _⟩ := startProcessing_returns runtime delivery
  obtain ⟨after, returned, sameScheduled, _, status⟩ :=
    @Delivery.scheduleRetry_spec runtime processing (config.language.timeArgument value)
  simp only [found, started, applied_of_returns returned, Program.bind]
  rw [Program.meets_bind, meets_awaitCall_saving rfl]
  refine ⟨rfl, fun _ => ?_⟩
  refine enqueue_saves.mono ?_
  rintro _ _ ⟨_, rfl⟩
  exact ⟨after, rfl, sameStarted.trans sameScheduled, status⟩

end

end ScheduleRetryService

end QueueForge.Application
