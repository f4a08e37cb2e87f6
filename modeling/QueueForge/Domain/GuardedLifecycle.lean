import QueueForge.Domain.DeliveryLifecycle

/-! A delivery driven by its guarded mutators only, under one limit on the failures. -/

namespace QueueForge.Domain

open QueueForge.Js

/-- The calls of the lifecycle with their arguments; failures are recorded under a shared limit. -/
inductive LifecycleCall where
  | markAsProcessing
  | markAsCompleted (completedAt : Option TimeArgument)
  | markAsFailed (error : FailureArgument) (retryStrategy : RetryArgument)
  | addAttempt (attempt : Option RetryAttempt)

/-- The mutator that is called. -/
def LifecycleCall.mutator (maxRetries : Int) : LifecycleCall → MutatorCall
  | markAsProcessing => .markAsProcessing
  | markAsCompleted completedAt => .markAsCompleted completedAt
  | markAsFailed error retryStrategy => .markAsFailed error retryStrategy (.ofInt maxRetries)
  | addAttempt attempt => .addAttempt attempt

namespace Delivery

/-- Call a mutator of the lifecycle. -/
def lifecycleCall (maxRetries : Int) (delivery : Delivery) (next : Runtime × LifecycleCall)
    : Except Thrown Unit × Delivery :=
  delivery.call (next.1, next.2.mutator maxRetries)

-----------------------------------------------------------------------------------------
-- What a call that returns does
-----------------------------------------------------------------------------------------

/-- What a call that returns makes of a delivery. -/
def Moved (maxRetries : Int) (delivery after : Delivery) : LifecycleCall → Prop
  | .markAsProcessing =>
      (delivery.status = .pending ∨ delivery.status = .scheduledRetry)
      ∧ after.status = .processing
      ∧ after.retryCount = delivery.retryCount
      ∧ after.completedAt = delivery.completedAt
  | .markAsCompleted _ =>
      delivery.status = .processing
      ∧ after.status = .completed
      ∧ after.retryCount = delivery.retryCount
      ∧ after.completedAt.isSome = true
  | .markAsFailed _ _ =>
      delivery.status = .processing
      ∧ after.retryCount = delivery.retryCount + 1
      ∧ after.completedAt = delivery.completedAt
      ∧ (after.status = .failedDlq
        ∨ after.status = .scheduledRetry
          ∧ after.nextRetryAt.isSome = true
          ∧ after.retryCount < maxRetries)
  | .addAttempt _ =>
      after.status = delivery.status
      ∧ after.retryCount = delivery.retryCount
      ∧ after.completedAt = delivery.completedAt
      ∧ after.nextRetryAt = delivery.nextRetryAt

/-- A mutation throws and assigns nothing, or returns what is said. -/
def ThrowsOr (outcome : Except Thrown Unit × Delivery) (delivery : Delivery)
    (moved : Delivery → Prop)
    : Prop :=
  (∃ error, outcome = (.error error, delivery)) ∨ ∃ after, outcome = (.ok (), after) ∧ moved after

section
variable (maxRetries : Int) (runtime : Runtime) (delivery : Delivery)

theorem markAsProcessing_moved
    : ThrowsOr ((markAsProcessing runtime).apply delivery) delivery
        (fun after => delivery.Moved maxRetries after .markAsProcessing) := by
  by_cases startable : delivery.status = .pending ∨ delivery.status = .scheduledRetry
  · right
    have checked : ¬(delivery.status ≠ .pending ∧ delivery.status ≠ .scheduledRetry) := by
      rwa [← not_or, not_not]
    simp only [markAsProcessing, Mutation.apply_bind, Mutation.apply_get, if_neg checked,
      Mutation.apply_set]
    exact ⟨_, rfl, startable, rfl, rfl, rfl⟩
  · exact .inl ⟨_, markAsProcessing_not_startable runtime startable⟩

theorem markAsCompleted_moved (completedAt : Option TimeArgument)
    : ThrowsOr ((markAsCompleted runtime completedAt).apply delivery) delivery
        (fun after => delivery.Moved maxRetries after (.markAsCompleted completedAt)) := by
  by_cases processing : delivery.status = .processing
  · right
    simp only [markAsCompleted, Mutation.apply_bind, Mutation.apply_get, processing, ne_eq,
      not_true_eq_false, if_false, Mutation.apply_set]
    exact ⟨_, rfl, processing, rfl, rfl, rfl⟩
  · left
    simp only [markAsCompleted, Mutation.apply_bind, Mutation.apply_get, ne_eq, processing,
      not_false_eq_true, if_true, Mutation.apply_throw]
    exact ⟨_, rfl⟩

theorem markAsFailed_moved (error : FailureArgument) (retryStrategy : RetryArgument)
    : ThrowsOr ((markAsFailed runtime error retryStrategy (.ofInt maxRetries)).apply delivery)
        delivery
        (fun after => delivery.Moved maxRetries after (.markAsFailed error retryStrategy)) := by
  by_cases processing : delivery.status = .processing
  case neg =>
    left
    simp only [markAsFailed, Mutation.apply_bind, Mutation.apply_get, ne_eq, processing,
      not_false_eq_true, if_true, Mutation.apply_throw]
    exact ⟨_, rfl⟩
  case pos =>
    cases usable : error.usable with
    | false =>
        left
        simp only [markAsFailed, Mutation.apply_bind, Mutation.apply_get, processing, ne_eq,
          not_true_eq_false, if_false, Mutation.apply_construct,
          FailureArgument.toDeliveryError_of_not_usable usable]
        exact ⟨_, rfl⟩
    | true =>
        obtain ⟨errObj, made⟩ := FailureArgument.toDeliveryError_of_usable usable
        right
        simp only [markAsFailed, Mutation.apply_bind, Mutation.apply_get, processing, ne_eq,
          not_true_eq_false, if_false, Mutation.apply_construct, made, Mutation.apply_set]
        split
        · simp only [moveToDeadLetterQueue, Mutation.apply_bind, Mutation.apply_modify,
            Mutation.apply_get, Option.isNone_some, Bool.false_eq_true, if_false]
          exact ⟨_, rfl, processing, rfl, rfl, .inl rfl⟩
        · rename_i retries
          have below : delivery.retryCount + 1 < maxRetries := by
            rw [Number.ofInt_le_ofInt, Bool.or_eq_true, not_or, decide_eq_true_eq] at retries
            exact Int.not_le.mp retries.2
          -- a strategy computes the delay, and without one it doubles with the count
          cases retryStrategy with
          | strategy strategy => exact ⟨_, rfl, processing, rfl, rfl, .inr ⟨rfl, rfl, below⟩⟩
          | absent => exact ⟨_, rfl, processing, rfl, rfl, .inr ⟨rfl, rfl, below⟩⟩
          | decided retry => exact ⟨_, rfl, processing, rfl, rfl, .inr ⟨rfl, rfl, below⟩⟩

theorem addAttempt_moved (attempt : Option RetryAttempt)
    : ThrowsOr ((addAttempt runtime attempt).apply delivery) delivery
        (fun after => delivery.Moved maxRetries after (.addAttempt attempt)) := by
  cases attempt with
  | none => exact .inl ⟨_, rfl⟩
  | some attempt => exact .inr ⟨_, rfl, rfl, rfl, rfl, rfl⟩

/-- A call of the lifecycle throws and changes nothing, or moves the delivery. -/
theorem lifecycleCall_moved (next : Runtime × LifecycleCall)
    : ThrowsOr (delivery.lifecycleCall maxRetries next) delivery
        (fun after => delivery.Moved maxRetries after next.2) := by
  obtain ⟨runtime, call⟩ := next
  cases call with
  | markAsProcessing => exact markAsProcessing_moved maxRetries runtime delivery
  | markAsCompleted completedAt =>
      exact markAsCompleted_moved maxRetries runtime delivery completedAt
  | markAsFailed error retryStrategy =>
      exact markAsFailed_moved maxRetries runtime delivery error retryStrategy
  | addAttempt attempt => exact addAttempt_moved maxRetries runtime delivery attempt

end

-----------------------------------------------------------------------------------------
-- Counted over a sequence of calls
-----------------------------------------------------------------------------------------

/-- A delivery and how many calls of two mutators have returned. -/
structure Lived where
  delivery : Delivery
  processed : Nat
  failed : Nat

def isProcessed : LifecycleCall → Bool
  | .markAsProcessing => true
  | _ => false

def isFailed : LifecycleCall → Bool
  | .markAsFailed _ _ => true
  | _ => false

/-- One call more. -/
def Lived.step (maxRetries : Int) (next : Runtime × LifecycleCall) (lived : Lived) : Lived :=
  let called := lived.delivery.lifecycleCall maxRetries next
  match called.1 with
  | .ok () =>
      {
        delivery := called.2
        processed := lived.processed + (isProcessed next.2).toNat
        failed := lived.failed + (isFailed next.2).toNat
      }
  | .error _ => { lived with delivery := called.2 }

/-- The delivery after some calls, newest first. -/
def lived (maxRetries : Int) (delivery : Delivery) : List (Runtime × LifecycleCall) → Lived
  | [] => ⟨delivery, 0, 0⟩
  | next :: earlier => (lived maxRetries delivery earlier).step maxRetries next

/-- A delivery counts the failures, stays under the limit unless it is dead-lettered, and has
started once for each failure and once more while it is processed or since it is completed.
-/
structure Budgeted (maxRetries : Int) (lived : Lived) : Prop where
  counted : lived.delivery.retryCount = lived.failed
  below : lived.delivery.status ≠ .failedDlq → lived.delivery.retryCount < maxRetries
  within : lived.delivery.retryCount ≤ maxRetries
  started
    : lived.processed
      = lived.failed
        + if lived.delivery.status = .processing ∨ lived.delivery.status = .completed then 1
          else 0
  completed : lived.delivery.completedAt.isSome = true ↔ lived.delivery.status = .completed
  scheduled
    : lived.delivery.status = .scheduledRetry → lived.delivery.nextRetryAt.isSome = true

/-- Every call keeps the budget, by cases on the calls that return. -/
theorem Budgeted.step {maxRetries : Int} {lived : Lived} (budgeted : Budgeted maxRetries lived)
    (next : Runtime × LifecycleCall)
    : Budgeted maxRetries (lived.step maxRetries next) := by
  unfold Lived.step
  rcases lifecycleCall_moved maxRetries lived.delivery next with
    ⟨error, thrown⟩ | ⟨after, returned, moved⟩
  · rw [thrown]
    exact budgeted
  · rw [returned]
    obtain ⟨runtime, call⟩ := next
    have counted := budgeted.counted
    have started := budgeted.started
    have completed := budgeted.completed
    cases call with
    | markAsProcessing =>
        obtain ⟨startable, status, count, done⟩ := moved
        have waiting
            : lived.delivery.status ≠ .failedDlq
              ∧ ¬(lived.delivery.status = .processing ∨ lived.delivery.status = .completed) := by
          rcases startable with pending | scheduled
          · simp [pending]
          · simp [scheduled]
        have below := budgeted.below waiting.1
        rw [if_neg waiting.2] at started
        constructor <;> simp only [isProcessed, isFailed, status, count, done, completed]
        · exact counted
        · exact fun _ => below
        · exact budgeted.within
        · simpa using started
        · exact iff_of_false (fun same => waiting.2 (.inr same)) (by decide)
        · exact nofun
    | markAsCompleted completedAt =>
        obtain ⟨processing, status, count, done⟩ := moved
        have below := budgeted.below (by rw [processing]; decide)
        rw [if_pos (.inl processing)] at started
        constructor <;> simp only [isProcessed, isFailed, status, count, done]
        · exact counted
        · exact fun _ => below
        · exact budgeted.within
        · simpa using started
        · exact nofun
    | markAsFailed error retryStrategy =>
        obtain ⟨processing, count, done, outcome⟩ := moved
        have below := budgeted.below (by rw [processing]; decide)
        rw [if_pos (.inl processing)] at started
        have ended : after.status ≠ .processing ∧ after.status ≠ .completed := by
          rcases outcome with dead | ⟨scheduled, _, _⟩
          · simp [dead]
          · simp [scheduled]
        constructor <;> simp only [isProcessed, isFailed, count, done, completed]
        · simp [counted]
        · intro alive
          rcases outcome with dead | ⟨_, _, fewer⟩
          · exact absurd dead alive
          · rwa [count] at fewer
        · omega
        · simp [started, ended]
        · exact iff_of_false (by rw [processing]; decide) ended.2
        · intro scheduled
          rcases outcome with dead | ⟨_, dated, _⟩
          · rw [dead] at scheduled
            exact nomatch scheduled
          · exact dated
    | addAttempt attempt =>
        obtain ⟨status, count, done, dated⟩ := moved
        constructor <;> simp only [isProcessed, isFailed, status, count, done, dated]
        · exact counted
        · exact budgeted.below
        · exact budgeted.within
        · simpa using started
        · exact completed
        · exact budgeted.scheduled

section
variable {maxRetries : Int} {runtime : Runtime} {uuid taskResultId destinationId : String}
  {id : Option String} {delivery : Delivery}

theorem create_budgeted (positive : 1 ≤ maxRetries)
    (created : create runtime uuid taskResultId destinationId id = .ok delivery)
    : Budgeted maxRetries ⟨delivery, 0, 0⟩ := by
  unfold create at created
  dsimp only at created
  split at created
  · exact nomatch created
  · obtain rfl := Except.ok.inj created
    constructor <;> simp only [reduceCtorEq, or_self, if_false]
    · rfl
    · exact fun _ => by omega
    · omega
    · exact iff_of_false (by decide) not_false
    · exact nofun

/-- By induction on the calls. -/
theorem lived_budgeted (budgeted : Budgeted maxRetries ⟨delivery, 0, 0⟩)
    (calls : List (Runtime × LifecycleCall))
    : Budgeted maxRetries (lived maxRetries delivery calls) := by
  induction calls with
  | nil => exact budgeted
  | cons next earlier ih => exact ih.step next

theorem Budgeted.processed_le {lived : Lived} (budgeted : Budgeted maxRetries lived)
    : (lived.processed : Int) ≤ maxRetries := by
  have counted := budgeted.counted
  have started := budgeted.started
  have within := budgeted.within
  by_cases running : lived.delivery.status = .processing ∨ lived.delivery.status = .completed
  · have below := budgeted.below (by rcases running with same | same <;> simp [same])
    rw [if_pos running] at started
    omega
  · rw [if_neg running] at started
    omega

/-- From its creation a delivery that is driven by its guarded mutators counts the failures, stays
under the limit until it is final, starts at most as often as the limit says, is dated as its
status says, and is left as it is by a call that throws.
-/
theorem guarded_lifecycle (runtime : Runtime) (uuid taskResultId destinationId : String)
    (id : Option String) (positive : 1 ≤ maxRetries)
    (created : create runtime uuid taskResultId destinationId id = .ok delivery)
    (calls : List (Runtime × LifecycleCall))
    : let after := lived maxRetries delivery calls
      after.delivery.retryCount = after.failed
      ∧ (after.delivery.status.isFinal = false → after.delivery.retryCount < maxRetries)
      ∧ (after.processed : Int) ≤ maxRetries
      ∧ (after.delivery.completedAt.isSome = true ↔ after.delivery.status = .completed)
      ∧ (after.delivery.status = .scheduledRetry → after.delivery.nextRetryAt.isSome = true)
      ∧ ∀ next error,
          (after.delivery.lifecycleCall maxRetries next).1 = .error error
          → (after.delivery.lifecycleCall maxRetries next).2 = after.delivery := by
  intro after
  have budgeted := lived_budgeted (create_budgeted positive created) calls
  refine ⟨budgeted.counted, fun unfinished => ?_, budgeted.processed_le, budgeted.completed,
    budgeted.scheduled, fun next error threw => ?_⟩
  · refine budgeted.below (fun dead => ?_)
    rw [dead] at unfinished
    exact nomatch unfinished
  · rcases lifecycleCall_moved maxRetries after.delivery next with
      ⟨_, thrown⟩ | ⟨_, returned, _⟩
    · rw [thrown]
    · rw [returned] at threw
      exact nomatch threw

/-- A delivery that failed once, and whose second attempt is marked twice. -/
theorem guarded_lifecycle_of_retry
    : let after :=
        lived 2
          ⟨"delivery", "task-result", "destination", .pending, 0, none, none, none, none,
            some 0, some 0, [], by decide, by decide, by decide⟩
          [
            (⟨3, 0, fun _ => 0⟩, .markAsProcessing),
            (⟨2, 0, fun _ => 0⟩, .markAsProcessing),
            (⟨1, 0, fun _ => 0⟩, .markAsFailed (.text "HTTP 503") .absent),
            (⟨0, 0, fun _ => 0⟩, .markAsProcessing)
          ]
      after.delivery.retryCount = after.failed
      ∧ (after.delivery.status.isFinal = false → after.delivery.retryCount < 2)
      ∧ (after.processed : Int) ≤ 2
      ∧ (after.delivery.completedAt.isSome = true ↔ after.delivery.status = .completed)
      ∧ (after.delivery.status = .scheduledRetry → after.delivery.nextRetryAt.isSome = true)
      ∧ ∀ next error,
          (after.delivery.lifecycleCall 2 next).1 = .error error
          → (after.delivery.lifecycleCall 2 next).2 = after.delivery :=
  guarded_lifecycle ⟨0, 0, fun _ => 0⟩ "delivery" "task-result" "destination" none (by decide) rfl _

end

end Delivery

end QueueForge.Domain
