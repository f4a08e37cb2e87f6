import QueueForge.Domain.DeliveryEntity

/-! The status law of the delivery entity over sequences of mutator calls.
Each mutator has one lemma about the status and the exception it leaves; a run is lawful
exactly while the calls to the unguarded mutators are made from the right statuses.
-/

namespace QueueForge.Domain

open QueueForge.Js

namespace Delivery

variable (runtime : Runtime) (delivery : Delivery)

section
variable {delivery}

/-- From PENDING and SCHEDULED_RETRY the call succeeds, by the check it starts with. -/
theorem markAsProcessing_startable
    (startable : delivery.status = .pending ∨ delivery.status = .scheduledRetry)
    : ((markAsProcessing runtime).apply delivery).1 = .ok ()
      ∧ ((markAsProcessing runtime).apply delivery).2.status = .processing := by
  have checked : ¬(delivery.status ≠ .pending ∧ delivery.status ≠ .scheduledRetry) := by
    rcases startable with pending | scheduled
    · exact fun both => both.1 pending
    · exact fun both => both.2 scheduled
  simp only [markAsProcessing, Mutation.apply_bind, Mutation.apply_get, if_neg checked,
    Mutation.apply_set]
  exact ⟨trivial, trivial⟩

/-- From any other status the call throws and assigns nothing. -/
theorem markAsProcessing_not_startable
    (startable : ¬(delivery.status = .pending ∨ delivery.status = .scheduledRetry))
    : (markAsProcessing runtime).apply delivery
      = (.error (.error (invalidDeliveryStateError delivery.status .processing)),
          delivery) := by
  have checked : delivery.status ≠ .pending ∧ delivery.status ≠ .scheduledRetry :=
    not_or.mp startable
  simp only [markAsProcessing, Mutation.apply_bind, Mutation.apply_get, if_pos checked,
    Mutation.apply_throw]

end

/-- Completion succeeds from PROCESSING only; elsewhere it throws and assigns nothing. -/
theorem markAsCompleted_effect (completedAt : Option TimeArgument)
    : (delivery.status = .processing
        ∧ ((markAsCompleted runtime completedAt).apply delivery).1 = .ok ()
        ∧ ((markAsCompleted runtime completedAt).apply delivery).2.status = .completed)
      ∨ ((markAsCompleted runtime completedAt).apply delivery).2 = delivery := by
  by_cases processing : delivery.status = .processing
  · left
    refine ⟨processing, ?_⟩
    simp [markAsCompleted, processing]
  · right
    simp [markAsCompleted, processing]

/-- Scheduling never throws and assigns SCHEDULED_RETRY from every status. -/
@[simp] theorem scheduleRetry_effect (delay : TimeArgument)
    : ((scheduleRetry runtime delay).apply delivery).1 = .ok ()
      ∧ ((scheduleRetry runtime delay).apply delivery).2.status = .scheduledRetry := by
  simp [scheduleRetry]

@[simp] theorem moveToRetry_effect (retryStrategy : RetryStrategyVO)
    : ((moveToRetry runtime retryStrategy).apply delivery).1 = .ok ()
      ∧ ((moveToRetry runtime retryStrategy).apply delivery).2.status
        = .scheduledRetry := by
  simp [moveToRetry]

/-- Dead-lettering assigns FAILED_DLQ from every status, also when it throws. -/
theorem moveToDeadLetterQueue_status (reason : Value)
    : ((moveToDeadLetterQueue runtime reason).apply delivery).2.status = .failedDlq := by
  cases known : delivery.lastError with
  | some error => simp [moveToDeadLetterQueue, known]
  | none =>
      simp only [moveToDeadLetterQueue, Mutation.apply_bind, Mutation.apply_modify,
        Mutation.apply_get, known, Option.isNone_none, if_true, Mutation.apply_construct]
      cases DeliveryError.new "PERMANENT" reason <;> rfl

/-- It returns exactly when an error is already recorded or the reason makes one. -/
theorem moveToDeadLetterQueue_returns (reason : Value)
    : ((moveToDeadLetterQueue runtime reason).apply delivery).1 = .ok ()
      ↔ delivery.lastError.isSome = true ∨ reason.isText = true := by
  cases known : delivery.lastError with
  | some error => simp [moveToDeadLetterQueue, known]
  | none =>
      simp only [moveToDeadLetterQueue, Mutation.apply_bind, Mutation.apply_modify,
        Mutation.apply_get, known, Option.isNone_none, if_true, Mutation.apply_construct]
      cases text : reason.isText with
      | true =>
          obtain ⟨error, made⟩ :=
            DeliveryError.new_of_isText "PERMANENT" .undefined none text
          simp [made]
      | false =>
          have made := DeliveryError.new_of_not_isText "PERMANENT" .undefined none text
          simp [made]

/-- A failure leaves PROCESSING for SCHEDULED_RETRY or FAILED_DLQ, or throws before the
status is assigned.
-/
theorem markAsFailed_effect (error : FailureArgument) (retryStrategy : RetryArgument)
    (maxRetries : Number)
    : ((markAsFailed runtime error retryStrategy maxRetries).apply delivery).2 = delivery
      ∨ delivery.status = .processing
        ∧ ((markAsFailed runtime error retryStrategy maxRetries).apply delivery).1 = .ok ()
        ∧ (((markAsFailed runtime error retryStrategy maxRetries).apply delivery).2.status
            = .scheduledRetry
          ∨ ((markAsFailed runtime error retryStrategy maxRetries).apply delivery).2.status
            = .failedDlq) := by
  by_cases processing : delivery.status = .processing
  case neg =>
    left
    simp [markAsFailed, processing]
  case pos =>
    cases usable : error.usable with
    | false =>
        left
        simp [markAsFailed, processing, FailureArgument.toDeliveryError_of_not_usable usable]
    | true =>
        obtain ⟨errObj, made⟩ := FailureArgument.toDeliveryError_of_usable usable
        right
        refine ⟨processing, ?_⟩
        simp only [markAsFailed, processing, Mutation.apply_bind, Mutation.apply_get,
          ne_eq, not_true_eq_false, if_false, Mutation.apply_construct, made,
          Mutation.apply_set]
        split
        · have recorded : (some errObj).isSome = true := rfl
          exact ⟨(moveToDeadLetterQueue_returns runtime _ _).mpr (.inl recorded),
            .inr (moveToDeadLetterQueue_status runtime _ _)⟩
        · cases retryStrategy <;> simp

/-- Whether `markFailed` gives up on retrying, judged before the call. -/
def givesUp (delivery : Delivery) (retryStrategy : RetryArgument) (maxRetries : Number)
    : Bool :=
  let retryCount := if delivery.retryCount = 0 then 1 else delivery.retryCount
  !isRetry retryStrategy retryCount || maxRetries.le (.ofInt retryCount)

section
variable {error : FailureArgument} (retryStrategy : RetryArgument) (maxRetries : Number)

/-- An argument that makes no `DeliveryError` throws before anything is assigned. -/
theorem markFailed_not_usable (usable : error.usable = false)
    : (markFailed runtime error retryStrategy maxRetries).apply delivery
      = (.error DeliveryError.new.rejected, delivery) := by
  simp [markFailed, FailureArgument.toDeliveryError_of_not_usable usable]

/-- Any other argument assigns FAILED_DLQ or SCHEDULED_RETRY from every status. -/
theorem markFailed_usable (usable : error.usable = true)
    : ((markFailed runtime error retryStrategy maxRetries).apply delivery).1 = .ok ()
      ∧ ((markFailed runtime error retryStrategy maxRetries).apply delivery).2.status
        = if delivery.givesUp retryStrategy maxRetries then .failedDlq
          else .scheduledRetry := by
  obtain ⟨errObj, made⟩ := FailureArgument.toDeliveryError_of_usable usable
  cases exhausted : delivery.givesUp retryStrategy maxRetries with
  | true =>
      simp only [givesUp] at exhausted
      simp only [markFailed, Mutation.apply_bind, Mutation.apply_construct, made,
        Mutation.apply_get, Mutation.apply_set, exhausted, if_true]
      have recorded : (some errObj).isSome = true := rfl
      exact ⟨(moveToDeadLetterQueue_returns runtime _ _).mpr (.inl recorded),
        moveToDeadLetterQueue_status runtime _ _⟩
  | false =>
      simp only [givesUp] at exhausted
      simp only [markFailed, Mutation.apply_bind, Mutation.apply_construct, made,
        Mutation.apply_get, Mutation.apply_set, exhausted, Bool.false_eq_true, if_false]
      exact ⟨rfl, rfl⟩

end

end Delivery

/-- The public mutators of a delivery with their arguments. -/
inductive MutatorCall where
  | markAsProcessing
  | markProcessing
  | markAsCompleted (completedAt : Option TimeArgument)
  | markCompleted (completedAt : Option TimeArgument)
  | markAsFailed (error : FailureArgument) (retryStrategy : RetryArgument)
      (maxRetries : Number)
  | markFailed (error : FailureArgument) (retryStrategy : RetryArgument)
      (maxRetries : Number)
  | scheduleRetry (delay : TimeArgument)
  | moveToRetry (retryStrategy : RetryStrategyVO)
  | moveToDeadLetterQueue (reason : Value)
  | moveToDLQ (reason : Value)
  | incrementRetryCount
  | addAttempt (attempt : Option RetryAttempt)

/-- The method the call runs. -/
def MutatorCall.body (runtime : Runtime) : MutatorCall → Mutation Unit
  | markAsProcessing => Delivery.markAsProcessing runtime
  | markProcessing => Delivery.markProcessing runtime
  | markAsCompleted completedAt => Delivery.markAsCompleted runtime completedAt
  | markCompleted completedAt => Delivery.markCompleted runtime completedAt
  | markAsFailed error retryStrategy maxRetries =>
      Delivery.markAsFailed runtime error retryStrategy maxRetries
  | markFailed error retryStrategy maxRetries =>
      Delivery.markFailed runtime error retryStrategy maxRetries
  | scheduleRetry delay => Delivery.scheduleRetry runtime delay
  | moveToRetry retryStrategy => Delivery.moveToRetry runtime retryStrategy
  | moveToDeadLetterQueue reason => Delivery.moveToDeadLetterQueue runtime reason
  | moveToDLQ reason => Delivery.moveToDLQ runtime reason
  | incrementRetryCount => Delivery.incrementRetryCount runtime
  | addAttempt attempt => Delivery.addAttempt runtime attempt

namespace Delivery

/-- Call a mutator; the runtime supplies the time and the random draw of this call. -/
def call (delivery : Delivery) (next : Runtime × MutatorCall)
    : Except Thrown Unit × Delivery :=
  (next.2.body next.1).apply delivery

/-- The delivery after a sequence of calls, whichever of them threw. -/
def afterCalls (delivery : Delivery) (calls : List (Runtime × MutatorCall)) : Delivery :=
  calls.foldl (fun current next => (current.call next).2) delivery

/-- The law of one call: it leaves the status, or it returns and moves it along an edge of
`VALID_DELIVERY_TRANSITIONS`.
-/
def LawfulCall (delivery : Delivery) (next : Runtime × MutatorCall) : Prop :=
  (delivery.call next).2.status = delivery.status
  ∨ (delivery.call next).1 = .ok ()
    ∧ isValidStateTransition delivery.status (delivery.call next).2.status = true

/-- When a call keeps the law, judged on the delivery before it. Only the mutators that
do not check the status ask for anything.
-/
def Guarded (delivery : Delivery) : MutatorCall → Prop
  | .scheduleRetry _ | .moveToRetry _ =>
      delivery.status = .processing ∨ delivery.status = .scheduledRetry
  | .moveToDeadLetterQueue reason | .moveToDLQ reason =>
      delivery.status = .failedDlq
      ∨ delivery.status = .processing
        ∧ (delivery.lastError.isSome = true ∨ reason.isText = true)
  | .markFailed error retryStrategy maxRetries =>
      error.usable = false
      ∨ delivery.status = .processing
      ∨ delivery.status
        = if delivery.givesUp retryStrategy maxRetries then .failedDlq else .scheduledRetry
  | _ => True

/-- A call that returns from every status is lawful exactly from the source of an edge to
its target and from the target itself.
-/
theorem lawfulCall_of_target {delivery : Delivery} {next : Runtime × MutatorCall}
    {target : DeliveryStatus} (outcome : target = .scheduledRetry ∨ target = .failedDlq)
    (returned : (delivery.call next).1 = .ok ())
    (moved : (delivery.call next).2.status = target)
    : delivery.LawfulCall next
      ↔ delivery.status = .processing ∨ delivery.status = target := by
  simp only [LawfulCall, returned, moved, true_and]
  rcases outcome with rfl | rfl <;> cases delivery.status <;> decide

/-- Dead-lettering is lawful from FAILED_DLQ, and from PROCESSING when it does not throw. -/
theorem lawfulCall_deadLetter {delivery : Delivery} {runtime : Runtime}
    {mutator : MutatorCall} {reason : Value}
    (body : mutator.body runtime = moveToDeadLetterQueue runtime reason)
    : delivery.LawfulCall (runtime, mutator)
      ↔ delivery.status = .failedDlq
        ∨ delivery.status = .processing
          ∧ (delivery.lastError.isSome = true ∨ reason.isText = true) := by
  simp only [LawfulCall, call, body, moveToDeadLetterQueue_status,
    moveToDeadLetterQueue_returns]
  cases delivery.status <;> simp [isValidStateTransition, validDeliveryTransitions]

/-- Marking PROCESSING is always lawful: both sources it accepts have that edge. -/
theorem lawfulCall_processing {delivery : Delivery} {runtime : Runtime}
    {mutator : MutatorCall} (body : mutator.body runtime = markAsProcessing runtime)
    : delivery.LawfulCall (runtime, mutator) := by
  by_cases startable : delivery.status = .pending ∨ delivery.status = .scheduledRetry
  · obtain ⟨returned, moved⟩ := markAsProcessing_startable runtime startable
    right
    simp only [call, body, returned, moved, true_and]
    rcases startable with pending | scheduled
    · rw [pending]; decide
    · rw [scheduled]; decide
  · left
    simp only [call, body, markAsProcessing_not_startable runtime startable]

/-- Marking COMPLETED is always lawful: it accepts PROCESSING only. -/
theorem lawfulCall_completed {delivery : Delivery} {runtime : Runtime}
    {mutator : MutatorCall} {completedAt : Option TimeArgument}
    (body : mutator.body runtime = markAsCompleted runtime completedAt)
    : delivery.LawfulCall (runtime, mutator) := by
  rcases markAsCompleted_effect runtime delivery completedAt with
    ⟨processing, returned, moved⟩ | same
  · right
    simp only [call, body, returned, moved, processing, true_and]
    decide
  · left
    simp only [call, body, same]

/-- One call keeps the law exactly when it is guarded, by cases on the mutator. -/
theorem lawfulCall_iff (delivery : Delivery) (next : Runtime × MutatorCall)
    : delivery.LawfulCall next ↔ delivery.Guarded next.2 := by
  obtain ⟨runtime, mutator⟩ := next
  cases mutator with
  | markAsProcessing => exact iff_of_true (lawfulCall_processing rfl) trivial
  | markProcessing => exact iff_of_true (lawfulCall_processing rfl) trivial
  | markAsCompleted completedAt => exact iff_of_true (lawfulCall_completed rfl) trivial
  | markCompleted completedAt => exact iff_of_true (lawfulCall_completed rfl) trivial
  | markAsFailed error retryStrategy maxRetries =>
      refine iff_of_true ?_ trivial
      rcases markAsFailed_effect runtime delivery error retryStrategy maxRetries with
        same | ⟨processing, returned, moved⟩
      · exact .inl (congrArg Delivery.status same)
      · right
        simp only [call, MutatorCall.body, returned, processing, true_and]
        rcases moved with scheduled | deadLettered
        · rw [scheduled]; decide
        · rw [deadLettered]; decide
  | markFailed error retryStrategy maxRetries =>
      cases usable : error.usable with
      | false =>
          have unchanged :=
            markFailed_not_usable runtime delivery retryStrategy maxRetries usable
          exact iff_of_true
            (.inl (congrArg (fun result => result.2.status) unchanged)) (.inl usable)
      | true =>
          obtain ⟨returned, moved⟩ :=
            markFailed_usable runtime delivery retryStrategy maxRetries usable
          have judged
              : delivery.LawfulCall (runtime, .markFailed error retryStrategy maxRetries)
                ↔ delivery.status = .processing
                  ∨ delivery.status
                    = if delivery.givesUp retryStrategy maxRetries then .failedDlq
                      else .scheduledRetry := by
            refine lawfulCall_of_target ?_ returned moved
            cases delivery.givesUp retryStrategy maxRetries
            · exact .inl rfl
            · exact .inr rfl
          rw [judged]
          simp only [Guarded, usable, Bool.true_eq_false, false_or]
  | scheduleRetry delay =>
      exact lawfulCall_of_target (.inl rfl) (scheduleRetry_effect runtime delivery delay).1
        (scheduleRetry_effect runtime delivery delay).2
  | moveToRetry retryStrategy =>
      exact lawfulCall_of_target (.inl rfl) (moveToRetry_effect runtime delivery retryStrategy).1
        (moveToRetry_effect runtime delivery retryStrategy).2
  | moveToDeadLetterQueue reason => exact lawfulCall_deadLetter rfl
  | moveToDLQ reason => exact lawfulCall_deadLetter rfl
  | incrementRetryCount => exact iff_of_true (.inl rfl) trivial
  | addAttempt attempt =>
      cases attempt with
      | none => exact iff_of_true (.inl rfl) trivial
      | some attempt => exact iff_of_true (.inl rfl) trivial

/-- Every call of the sequence keeps the law on the delivery it finds. -/
def LawfulRun : Delivery → List (Runtime × MutatorCall) → Prop
  | _, [] => True
  | delivery, next :: rest =>
      delivery.LawfulCall next ∧ LawfulRun (delivery.call next).2 rest

/-- Every call of the sequence is guarded on the delivery it finds. -/
def GuardedRun : Delivery → List (Runtime × MutatorCall) → Prop
  | _, [] => True
  | delivery, next :: rest =>
      delivery.Guarded next.2 ∧ GuardedRun (delivery.call next).2 rest

/-- A run is lawful exactly when it is guarded, by induction on the calls. -/
theorem lawfulRun_iff (delivery : Delivery) (calls : List (Runtime × MutatorCall))
    : delivery.LawfulRun calls ↔ delivery.GuardedRun calls := by
  induction calls generalizing delivery with
  | nil => rfl
  | cons next rest ih =>
      exact and_congr (lawfulCall_iff delivery next) (ih (delivery.call next).2)

/-- A lawful call leaves a final status alone, as no edge of the table starts there. -/
theorem LawfulCall.final {delivery : Delivery} {next : Runtime × MutatorCall}
    (lawful : delivery.LawfulCall next) (final : delivery.status.isFinal = true)
    : (delivery.call next).2.status = delivery.status := by
  rcases lawful with same | ⟨_, edge⟩
  · exact same
  · refine admitsTransition_final final ?_
    simp only [admitsTransition, edge, Bool.or_true]

/-- A lawful run leaves a final status alone, by induction on the calls. -/
theorem LawfulRun.final {delivery : Delivery} {calls : List (Runtime × MutatorCall)}
    (lawful : delivery.LawfulRun calls) (final : delivery.status.isFinal = true)
    : (delivery.afterCalls calls).status = delivery.status := by
  induction calls generalizing delivery with
  | nil => rfl
  | cons next rest ih =>
      have kept := lawful.1.final final
      have finalNext : (delivery.call next).2.status.isFinal = true := kept ▸ final
      exact (ih lawful.2 finalNext).trans kept

/-- The calls after a prefix of a lawful run are lawful, by induction on the prefix. -/
theorem LawfulRun.suffix {delivery : Delivery} {earlier later : List (Runtime × MutatorCall)}
    (lawful : delivery.LawfulRun (earlier ++ later))
    : (delivery.afterCalls earlier).LawfulRun later := by
  induction earlier generalizing delivery with
  | nil => exact lawful
  | cons next rest ih => exact ih lawful.2

/-- From every delivery, so from one `create` made, a run of mutator calls keeps the status
law exactly when its calls to the unguarded mutators are made from the right statuses;
then a delivery that is COMPLETED or FAILED_DLQ never changes status again.
-/
theorem mutators_follow_transitions (delivery : Delivery)
    (calls : List (Runtime × MutatorCall))
    : (delivery.LawfulRun calls ↔ delivery.GuardedRun calls)
      ∧ (delivery.GuardedRun calls
        → ∀ earlier later,
            calls = earlier ++ later
            → (delivery.afterCalls earlier).status.isFinal = true
            → (delivery.afterCalls calls).status
              = (delivery.afterCalls earlier).status) := by
  refine ⟨lawfulRun_iff delivery calls, ?_⟩
  rintro guarded earlier later rfl final
  have lawful := ((lawfulRun_iff delivery _).mpr guarded).suffix
  have joined
      : delivery.afterCalls (earlier ++ later)
        = (delivery.afterCalls earlier).afterCalls later :=
    List.foldl_append
  rw [joined]
  exact lawful.final final

/-- A new delivery that was processed and completed is reopened by `scheduleRetry(0)`. -/
theorem scheduleRetry_reopens_completed
    : ∃ delivery,
        create ⟨0, 0, fun _ => 0⟩ "uuid" "task-result" "destination" = .ok delivery
        ∧ (delivery.afterCalls [
            (⟨0, 0, fun _ => 0⟩, .markProcessing),
            (⟨1, 0, fun _ => 0⟩, .markCompleted none)
          ]).status = .completed
        ∧ ¬delivery.LawfulRun [
            (⟨0, 0, fun _ => 0⟩, .markProcessing),
            (⟨1, 0, fun _ => 0⟩, .markCompleted none),
            (⟨2, 0, fun _ => 0⟩, .scheduleRetry (.number 0))
          ] := by
  refine ⟨_, rfl, rfl, ?_⟩
  rw [lawfulRun_iff]
  rintro ⟨_, _, completed | completed, _⟩
  · exact nomatch completed
  · exact nomatch completed

end Delivery

end QueueForge.Domain
