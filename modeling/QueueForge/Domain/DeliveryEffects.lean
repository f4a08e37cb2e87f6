import QueueForge.Domain.DeliveryLifecycle

/-! What the mutators keep of a delivery, for callers that run several of them in a row. -/

namespace QueueForge.Domain

open QueueForge.Js

/-- The two deliveries are the same entity: they agree on the identifiers. -/
structure Delivery.SameEntity (before after : Delivery) : Prop where
  id : after.id = before.id
  taskResultId : after.taskResultId = before.taskResultId
  destinationId : after.destinationId = before.destinationId

namespace Delivery

theorem SameEntity.refl (delivery : Delivery) : delivery.SameEntity delivery :=
  ⟨rfl, rfl, rfl⟩

theorem SameEntity.trans {before middle after : Delivery} (first : before.SameEntity middle)
    (second : middle.SameEntity after)
    : before.SameEntity after :=
  ⟨second.id.trans first.id, second.taskResultId.trans first.taskResultId,
    second.destinationId.trans first.destinationId⟩

variable (runtime : Runtime) {delivery : Delivery}

/-- The count a failure is judged by: `markFailed` raises a zero to one. -/
def failureCount (delivery : Delivery) : Int :=
  if delivery.retryCount = 0 then 1 else delivery.retryCount

/-- From PENDING and SCHEDULED_RETRY a delivery becomes PROCESSING and keeps its count. -/
theorem markAsProcessing_spec
    (startable : delivery.status = .pending ∨ delivery.status = .scheduledRetry)
    : ∃ after,
        (markAsProcessing runtime).apply delivery = (.ok (), after)
        ∧ delivery.SameEntity after
        ∧ after.retryCount = delivery.retryCount
        ∧ after.status = .processing := by
  have checked : ¬(delivery.status ≠ .pending ∧ delivery.status ≠ .scheduledRetry) := by
    rcases startable with pending | scheduled
    · exact fun both => both.1 pending
    · exact fun both => both.2 scheduled
  simp only [markAsProcessing, Mutation.apply_bind, Mutation.apply_get, if_neg checked,
    Mutation.apply_set]
  exact ⟨_, rfl, ⟨rfl, rfl, rfl⟩, rfl, rfl⟩

/-- From PROCESSING a delivery becomes COMPLETED and keeps its count. -/
theorem markAsCompleted_spec (completedAt : Option TimeArgument)
    (processing : delivery.status = .processing)
    : ∃ after,
        (markAsCompleted runtime completedAt).apply delivery = (.ok (), after)
        ∧ delivery.SameEntity after
        ∧ after.retryCount = delivery.retryCount
        ∧ after.status = .completed := by
  have checked : ¬delivery.status ≠ .processing := not_not_intro processing
  simp only [markAsCompleted, Mutation.apply_bind, Mutation.apply_get, if_neg checked,
    Mutation.apply_set]
  exact ⟨_, rfl, ⟨rfl, rfl, rfl⟩, rfl, rfl⟩

/-- Scheduling makes a delivery SCHEDULED_RETRY and keeps its count. -/
theorem scheduleRetry_spec (delay : TimeArgument)
    : ∃ after,
        (scheduleRetry runtime delay).apply delivery = (.ok (), after)
        ∧ delivery.SameEntity after
        ∧ after.retryCount = delivery.retryCount
        ∧ after.status = .scheduledRetry := by
  simp only [scheduleRetry, Mutation.apply_modify]
  exact ⟨_, rfl, ⟨rfl, rfl, rfl⟩, rfl, rfl⟩

/-- Dead-lettering with an error on record or a usable reason makes a delivery FAILED_DLQ
and keeps its count.
-/
theorem moveToDeadLetterQueue_spec {reason : Value}
    (known : delivery.lastError.isSome = true ∨ reason.isText = true)
    : ∃ after,
        (moveToDeadLetterQueue runtime reason).apply delivery = (.ok (), after)
        ∧ delivery.SameEntity after
        ∧ after.retryCount = delivery.retryCount
        ∧ after.lastError.isSome = true
        ∧ after.status = .failedDlq := by
  cases recorded : delivery.lastError with
  | some error =>
      simp only [moveToDeadLetterQueue, Mutation.apply_bind, Mutation.apply_modify,
        Mutation.apply_get, recorded, Option.isNone_some, Bool.false_eq_true, if_false]
      exact ⟨_, rfl, ⟨rfl, rfl, rfl⟩, rfl, rfl, rfl⟩
  | none =>
      have text : reason.isText = true := by
        rcases known with some | text
        · simp [recorded] at some
        · exact text
      obtain ⟨error, made⟩ := DeliveryError.new_of_isText "PERMANENT" .undefined none text
      simp only [moveToDeadLetterQueue, Mutation.apply_bind, Mutation.apply_modify,
        Mutation.apply_get, recorded, Option.isNone_none, if_true, Mutation.apply_construct,
        made]
      exact ⟨_, rfl, ⟨rfl, rfl, rfl⟩, rfl, rfl, rfl⟩

/-- A failure with a usable error is recorded from every status, under the count it is
judged by.
-/
theorem markFailed_spec {error : FailureArgument} (retryStrategy : RetryArgument)
    (maxRetries : Number) (usable : error.usable = true)
    : ∃ after,
        (markFailed runtime error retryStrategy maxRetries).apply delivery = (.ok (), after)
        ∧ delivery.SameEntity after
        ∧ after.retryCount = delivery.failureCount
        ∧ after.lastError.isSome = true
        ∧ after.status
          = if delivery.givesUp retryStrategy maxRetries then .failedDlq
            else .scheduledRetry := by
  obtain ⟨errObj, made⟩ := FailureArgument.toDeliveryError_of_usable usable
  cases exhausted : delivery.givesUp retryStrategy maxRetries with
  | true =>
      simp only [givesUp] at exhausted
      simp only [markFailed, Mutation.apply_bind, Mutation.apply_construct, made,
        Mutation.apply_get, Mutation.apply_set, exhausted, if_true]
      obtain ⟨after, dead, same, count, recorded, status⟩ :=
        @moveToDeadLetterQueue_spec runtime
          {
            delivery with
            lastError := some errObj
            retryCount := if delivery.retryCount = 0 then 1 else delivery.retryCount
          }
          (.string errObj.message) (.inl rfl)
      exact ⟨after, dead, ⟨same.id, same.taskResultId, same.destinationId⟩, count, recorded,
        status⟩
  | false =>
      simp only [givesUp] at exhausted
      simp only [markFailed, Mutation.apply_bind, Mutation.apply_construct, made,
        Mutation.apply_get, Mutation.apply_set, exhausted, Bool.false_eq_true, if_false]
      exact ⟨_, rfl, ⟨rfl, rfl, rfl⟩, rfl, rfl, rfl⟩

/-- Wherever a method returns, the delivery it leaves is the same entity. -/
def Keeps (mutation : Mutation Unit) (delivery : Delivery) : Prop :=
  ∀ after, mutation.apply delivery = (.ok (), after) → delivery.SameEntity after

/-- What a method gives when it returns is what it keeps. -/
theorem keeps_of_returns {mutation : Mutation Unit} {after : Delivery}
    (returned : mutation.apply delivery = (.ok (), after)) (same : delivery.SameEntity after)
    : Keeps mutation delivery := by
  intro other again
  rw [returned] at again
  exact (Prod.mk.inj again).2 ▸ same

/-- A method that throws keeps nothing it would have to. -/
theorem keeps_of_throws {mutation : Mutation Unit} {error : Thrown}
    (thrown : (mutation.apply delivery).1 = .error error)
    : Keeps mutation delivery := by
  intro after returned
  rw [returned] at thrown
  exact nomatch thrown

theorem markAsProcessing_keeps : Keeps (markAsProcessing runtime) delivery := by
  by_cases startable : delivery.status = .pending ∨ delivery.status = .scheduledRetry
  · obtain ⟨after, returned, same, _⟩ := markAsProcessing_spec runtime startable
    exact keeps_of_returns returned same
  · exact keeps_of_throws
      (congrArg Prod.fst (markAsProcessing_not_startable runtime startable))

theorem markAsCompleted_keeps (completedAt : Option TimeArgument)
    : Keeps (markAsCompleted runtime completedAt) delivery := by
  intro after returned
  simp only [markAsCompleted, Mutation.apply_bind, Mutation.apply_get] at returned
  split at returned
  · cases returned
  · simp only [Mutation.apply_set, Prod.mk.injEq] at returned
    rw [← returned.2]
    exact ⟨rfl, rfl, rfl⟩

theorem scheduleRetry_keeps (delay : TimeArgument)
    : Keeps (scheduleRetry runtime delay) delivery := by
  obtain ⟨after, returned, same, _⟩ := @scheduleRetry_spec runtime delivery delay
  exact keeps_of_returns returned same

theorem moveToDeadLetterQueue_keeps (reason : Value)
    : Keeps (moveToDeadLetterQueue runtime reason) delivery := by
  intro after returned
  have known := (moveToDeadLetterQueue_returns runtime delivery reason).mp
    (congrArg Prod.fst returned)
  obtain ⟨dead, moved, same, _⟩ := moveToDeadLetterQueue_spec runtime known
  exact keeps_of_returns moved same after returned

/-! Changes of the status leave the attempt history alone, whether they throw or not. -/

theorem markAsProcessing_attempts
    : ((markAsProcessing runtime).apply delivery).2.attempts = delivery.attempts := by
  simp only [markAsProcessing, Mutation.apply_bind, Mutation.apply_get]
  split <;> rfl

theorem markAsCompleted_attempts (completedAt : Option TimeArgument)
    : ((markAsCompleted runtime completedAt).apply delivery).2.attempts = delivery.attempts := by
  simp only [markAsCompleted, Mutation.apply_bind, Mutation.apply_get]
  split <;> rfl

theorem scheduleRetry_attempts (delay : TimeArgument)
    : ((scheduleRetry runtime delay).apply delivery).2.attempts = delivery.attempts :=
  rfl

theorem moveToDeadLetterQueue_attempts (reason : Value)
    : ((moveToDeadLetterQueue runtime reason).apply delivery).2.attempts
      = delivery.attempts := by
  simp only [moveToDeadLetterQueue, Mutation.apply_bind, Mutation.apply_modify,
    Mutation.apply_get]
  split
  · cases made : DeliveryError.new "PERMANENT" reason with
    | error error => rfl
    | ok error => rfl
  · rfl

/-- A failure reaches the limit of five exactly when the count before it does. -/
theorem five_le_failureCount
    : Number.le 5 (.ofInt delivery.failureCount) = decide (5 ≤ delivery.retryCount) := by
  have limit : (5 : Number) = .ofInt 5 := rfl
  have count : 5 ≤ delivery.failureCount ↔ 5 ≤ delivery.retryCount := by
    unfold failureCount
    split <;> omega
  rw [limit, Number.ofInt_le_ofInt]
  exact decide_eq_decide.mpr count

end Delivery

end QueueForge.Domain
