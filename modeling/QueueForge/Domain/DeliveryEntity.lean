import Mathlib.Data.Fintype.Basic
import QueueForge.Domain.ValueObjects

/-! The delivery entity: one result delivered to one destination.
A mutator that throws keeps the assignments it made before, as the object it works on
does.
-/

namespace QueueForge.Domain

open QueueForge.Js

structure Delivery where
  id : String
  taskResultId : String
  destinationId : String
  status : DeliveryStatus
  retryCount : Int
  nextRetryAt : Option Date
  lastAttemptAt : Option Date
  lastError : Option DeliveryError
  completedAt : Option Date
  createdAt : Date
  updatedAt : Date
  attempts : List AttemptEntry
  idNonempty : id ≠ ""
  taskResultIdNonempty : taskResultId ≠ ""
  destinationIdNonempty : destinationId ≠ ""

/-- A synchronous method body on a delivery, which may throw half way. -/
abbrev Mutation (α : Type) : Type := ExceptT Thrown (StateM Delivery) α

/-- Call the method on a delivery: what it settles with and the delivery it leaves. -/
def Mutation.apply {α : Type} (mutation : Mutation α) (delivery : Delivery)
    : Except Thrown α × Delivery :=
  (ExceptT.run mutation).run delivery

/-- A constructor call inside a method body. -/
def Mutation.construct {α : Type} (result : Except Thrown α) : Mutation α :=
  match result with
  | .ok value => pure value
  | .error error => throw error

namespace Mutation

variable {α β : Type} {delivery : Delivery}

@[simp] theorem apply_pure {value : α}
    : apply (pure value : Mutation α) delivery = (.ok value, delivery) :=
  rfl

@[simp] theorem apply_throw {error : Thrown}
    : apply (throw error : Mutation α) delivery = (.error error, delivery) :=
  rfl

@[simp] theorem apply_get
    : apply (get : Mutation Delivery) delivery = (.ok delivery, delivery) :=
  rfl

@[simp] theorem apply_set {after : Delivery}
    : apply (set after : Mutation PUnit) delivery = (.ok ⟨⟩, after) :=
  rfl

@[simp] theorem apply_modify {change : Delivery → Delivery}
    : apply (modify change : Mutation PUnit) delivery = (.ok ⟨⟩, change delivery) :=
  rfl

@[simp] theorem apply_construct {result : Except Thrown α}
    : apply (construct result) delivery = (result, delivery) := by
  cases result <;> rfl

/-- Sequencing keeps what the first body assigned, also when it threw. -/
@[simp] theorem apply_bind {first : Mutation α} {next : α → Mutation β}
    : apply (first >>= next) delivery
      = match apply first delivery with
        | (.ok value, after) => apply (next value) after
        | (.error error, after) => (.error error, after) := by
  simp only [apply, ExceptT.run_bind, StateT.run_bind]
  cases (ExceptT.run first).run delivery with
  | mk result after => cases result <;> rfl

end Mutation

/-- The `error` argument of the failure mutators: a `DeliveryError`, a string, or any other
value, of which only the `message` member is read.
-/
inductive FailureArgument where
  | delivery (error : DeliveryError)
  | text (value : String)
  | other (message : Value)

/-- The `retryStrategy` argument of the failure mutators. -/
inductive RetryArgument where
  | absent
  | decided (retry : Bool)
  | strategy (strategy : RetryStrategyVO)

/-- A `number | Date` argument. -/
inductive TimeArgument where
  | number (value : Number)
  | date (value : Date)

/-- The `DeliveryError` a failure mutator keeps of its argument. -/
def FailureArgument.toDeliveryError : FailureArgument → Except Thrown DeliveryError
  | .delivery error => .ok error
  | .text value => DeliveryError.new "UNKNOWN" (.string value)
  | .other message =>
      DeliveryError.new "UNKNOWN"
        (if message.truthy then message else .string "Delivery failed")

/-- Whether the argument makes a `DeliveryError`: an explicit empty string does not, and
neither does a message that is truthy without being a string.
-/
def FailureArgument.usable : FailureArgument → Bool
  | .delivery _ => true
  | .text value => decide (value ≠ "")
  | .other message => !message.truthy || message.isText

theorem FailureArgument.toDeliveryError_of_usable {error : FailureArgument}
    (usable : error.usable = true)
    : ∃ made, error.toDeliveryError = .ok made := by
  cases error with
  | delivery given => exact ⟨given, rfl⟩
  | text value =>
      have text : (Value.string value).isText = true := usable
      exact DeliveryError.new_of_isText "UNKNOWN" .undefined none text
  | other message =>
      have text
          : (if message.truthy then message else .string "Delivery failed").isText
            = true := by
        cases truthy : message.truthy with
        | true => simpa [FailureArgument.usable, truthy] using usable
        | false => rfl
      exact DeliveryError.new_of_isText "UNKNOWN" .undefined none text

theorem FailureArgument.toDeliveryError_of_not_usable {error : FailureArgument}
    (usable : error.usable = false)
    : error.toDeliveryError = .error DeliveryError.new.rejected := by
  cases error with
  | delivery given => contradiction
  | text value =>
      have text : (Value.string value).isText = false := usable
      exact DeliveryError.new_of_not_isText "UNKNOWN" .undefined none text
  | other message =>
      have both : message.truthy = true ∧ message.isText = false := by
        simpa [FailureArgument.usable] using usable
      simpa [FailureArgument.toDeliveryError, both.1]
        using DeliveryError.new_of_not_isText "UNKNOWN" .undefined none both.2

namespace Delivery

variable (runtime : Runtime)

/-- Transitions delivery state to PROCESSING. Allowed from: PENDING, SCHEDULED_RETRY. -/
def markAsProcessing : Mutation Unit := do
  let delivery ← get
  if delivery.status ≠ .pending ∧ delivery.status ≠ .scheduledRetry then
    throw (.error (invalidDeliveryStateError delivery.status .processing))
  else
    set {
      delivery with
      status := .processing
      lastAttemptAt := some (some runtime.now)
      updatedAt := some runtime.now
    }

def markProcessing : Mutation Unit :=
  markAsProcessing runtime

/-- Transitions delivery state to COMPLETED. Allowed from: PROCESSING. -/
def markAsCompleted (completedAt : Option TimeArgument) : Mutation Unit := do
  let delivery ← get
  if delivery.status ≠ .processing then
    throw (.error (invalidDeliveryStateError delivery.status .completed))
  else
    let now : Date :=
      match completedAt with
      | some (.number value) => .ofNumber value
      | some (.date value) => value
      | none => some runtime.now
    set {
      delivery with
      status := .completed
      completedAt := some now
      nextRetryAt := none
      updatedAt := now
    }

def markCompleted (completedAt : Option TimeArgument) : Mutation Unit :=
  markAsCompleted runtime completedAt

/-- Schedules a retry with specified delay in milliseconds or explicit date. -/
def scheduleRetry (delay : TimeArgument) : Mutation Unit :=
  modify fun delivery => {
    delivery with
    status := .scheduledRetry
    nextRetryAt :=
      match delay with
      | .number value =>
          some (.ofNumber (Number.add (.ofInt runtime.now) (Number.max 0 value)))
      | .date value => some value
    updatedAt := some runtime.now
  }

/-- Calculates next retry schedule using `RetryStrategyVO`. -/
def moveToRetry (retryStrategy : RetryStrategyVO) : Mutation Unit := do
  let delivery ← get
  let delayMs := retryStrategy.calculateDelay runtime (.ofInt delivery.retryCount)
  scheduleRetry runtime (.number delayMs)

/-- Transitions delivery state to FAILED_DLQ. The status is assigned before the reason is
checked.
-/
def moveToDeadLetterQueue (reason : Value) : Mutation Unit := do
  modify fun delivery => { delivery with status := .failedDlq }
  let delivery ← get
  if delivery.lastError.isNone then
    let error ← Mutation.construct (DeliveryError.new "PERMANENT" reason)
    modify fun delivery => { delivery with lastError := some error }
  modify fun delivery => {
    delivery with
    nextRetryAt := none
    updatedAt := some runtime.now
  }

def moveToDLQ (reason : Value) : Mutation Unit :=
  moveToDeadLetterQueue runtime reason

/-- Transitions delivery state following a failure attempt. -/
def markAsFailed (error : FailureArgument) (retryStrategy : RetryArgument)
    (maxRetries : Number := 5)
    : Mutation Unit := do
  let delivery ← get
  if delivery.status ≠ .processing then
    throw (.error (invalidDeliveryStateError delivery.status .scheduledRetry))
  else
    let errObj ← Mutation.construct error.toDeliveryError
    let retryCount := delivery.retryCount + 1
    set { delivery with lastError := some errObj, retryCount := retryCount }
    let shouldDLQ := !errObj.isRetryable || maxRetries.le (.ofInt retryCount)
    if shouldDLQ then
      moveToDeadLetterQueue runtime (.string errObj.message)
    else
      match retryStrategy with
      | .strategy strategy => moveToRetry runtime strategy
      | _ =>
          scheduleRetry runtime
            (.number
              (Number.mul 1000 (Number.pow2 runtime.fractional (.ofInt retryCount))))

def incrementRetryCount : Mutation Unit :=
  modify fun delivery => {
    delivery with
    retryCount := delivery.retryCount + 1
    updatedAt := some runtime.now
  }

/-- The retry decision of `markFailed`, for the count it has settled on. -/
def isRetry (retryStrategy : RetryArgument) (retryCount : Int) : Bool :=
  match retryStrategy with
  | .decided retry => retry
  | .strategy strategy => strategy.canRetry (.ofInt retryCount)
  | .absent => true

def markFailed (error : FailureArgument) (retryStrategy : RetryArgument)
    (maxRetries : Number := 5)
    : Mutation Unit := do
  let errObj ← Mutation.construct error.toDeliveryError
  let delivery ← get
  let retryCount := if delivery.retryCount = 0 then 1 else delivery.retryCount
  set { delivery with lastError := some errObj, retryCount := retryCount }
  if !isRetry retryStrategy retryCount || maxRetries.le (.ofInt retryCount) then
    moveToDeadLetterQueue runtime (.string errObj.message)
  else
    modify fun delivery => {
      delivery with
      status := .scheduledRetry
      updatedAt := some runtime.now
    }

/-- Appends an attempt execution record; anything else is rejected. -/
def addAttempt (attempt : Option RetryAttempt) : Mutation Unit :=
  match attempt with
  | none =>
      throw (.error (validationError "Attempt must be a valid RetryAttempt instance."))
  | some attempt =>
      modify fun delivery => {
        delivery with
        attempts := delivery.attempts ++ [.valueObject attempt]
        lastAttemptAt := some attempt.timestamp
        updatedAt := some runtime.now
      }

/-- Evaluates if delivery is eligible for further retry attempts. -/
def canRetry (delivery : Delivery) (maxRetries : Number := 5) : Bool :=
  !delivery.status.isFinal && !maxRetries.le (.ofInt delivery.retryCount)

/-- The checks of the constructor on the three identifiers. -/
def checkIds (id taskResultId destinationId : String)
    : Except Thrown (PLift (id ≠ "" ∧ taskResultId ≠ "" ∧ destinationId ≠ "")) :=
  if idNonempty : id ≠ "" then
    if taskResultIdNonempty : taskResultId ≠ "" then
      if destinationIdNonempty : destinationId ≠ "" then
        .ok ⟨idNonempty, taskResultIdNonempty, destinationIdNonempty⟩
      else
        .error
          (.error (validationError "Delivery destinationId must be a non-empty string."))
    else
      .error (.error (validationError "Delivery taskResultId must be a non-empty string."))
  else
    .error (.error (validationError "Delivery ID must be a non-empty string."))

/-- Factory method for creating a new delivery; `uuid` is the identifier generated when
none is given.
-/
def create (uuid taskResultId destinationId : String) (id : Option String := none)
    : Except Thrown Delivery :=
  let entityId := (orString id none).getD uuid
  match checkIds entityId taskResultId destinationId with
  | .error error => .error error
  | .ok ⟨nonempty⟩ =>
      .ok {
        id := entityId
        taskResultId := taskResultId
        destinationId := destinationId
        status := .pending
        retryCount := 0
        nextRetryAt := none
        lastAttemptAt := none
        lastError := none
        completedAt := none
        createdAt := some runtime.now
        updatedAt := some runtime.now
        attempts := []
        idNonempty := nonempty.1
        taskResultIdNonempty := nonempty.2.1
        destinationIdNonempty := nonempty.2.2
      }

/-- Creation succeeds on three identifiers that are not empty. -/
theorem create_returns {uuid taskResultId destinationId : String} (idNonempty : uuid ≠ "")
    (taskResultIdNonempty : taskResultId ≠ "") (destinationIdNonempty : destinationId ≠ "")
    : ∃ delivery,
        create runtime uuid taskResultId destinationId = .ok delivery
        ∧ delivery.id = uuid
        ∧ delivery.taskResultId = taskResultId
        ∧ delivery.destinationId = destinationId
        ∧ delivery.status = .pending := by
  simp only [create, orString, Option.getD_none, checkIds, idNonempty, taskResultIdNonempty,
    destinationIdNonempty, ne_eq, not_false_eq_true, dif_pos]
  exact ⟨_, rfl, rfl, rfl, rfl, rfl⟩

end Delivery

end QueueForge.Domain
