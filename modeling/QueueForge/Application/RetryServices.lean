import QueueForge.Application.ServiceCalls

/-! The services that reschedule a delivery or give it up: `ScheduleRetryService`,
`HandleFailureService` and `RetryScheduler`.
-/

namespace QueueForge.Application

open QueueForge.Async QueueForge.Js QueueForge.Domain

/-- Mark a delivery PROCESSING where it is PENDING or SCHEDULED_RETRY. The two application
services share this body.
-/
def startProcessing (runtime : Runtime) (delivery : Delivery) : ServiceProgram Delivery :=
  if delivery.status = .pending ∨ delivery.status = .scheduledRetry then
    applied (Delivery.markAsProcessing runtime) delivery
  else
    pure delivery

/-- The members of an options object that a service looks for. -/
structure StrategyMembers where
  maxRetries : Value
  getMaxRetries : Option (Except Thrown Value)
  calculateDelay : Option (Number → Except Thrown Value)

/-- A count, a delay or a strategy: the dynamic arguments of `scheduleRetry`. Strings and
booleans have none of the members.
-/
inductive RetryOption where
  | absent
  | primitive
  | number (value : Number)
  | object (members : StrategyMembers)

/-- `new MaxRetriesExceededError(deliveryId, maxRetries, attemptedRetry)`. -/
def maxRetriesExceededError (deliveryId maxRetries attemptedRetry : String) : ErrorObject :=
  domainError .maxRetriesExceeded "MaxRetriesExceededError" "MAX_RETRIES_EXCEEDED" 400
    s!"Delivery {deliveryId} exceeded max retries ({maxRetries}). Attempted retry: {attemptedRetry}."

/-- `1000 * Math.pow(2, exponent)`. -/
def doublingDelay (runtime : Runtime) (exponent : Number) : Number :=
  Number.mul 1000 (Number.pow2 runtime.fractional exponent)

namespace ScheduleRetryService

/-- The maximum an argument gives, five if it gives none. -/
def maxAllowed : RetryOption → Except Thrown Value
  | .number value => .ok (.number value)
  | .object members =>
      match coalesce members.maxRetries .undefined, members.getMaxRetries with
      | .undefined, none => .ok (.number 5)
      | .undefined, some result => result.map (fun value => coalesce value (.number 5))
      | value, _ => .ok value
  | _ => .ok (.number 5)

/-- Why a delivery at its maximum is given up. -/
def exceededReason (language : Language) (retryCount : Int) (maxAllowed : Value) : Value :=
  .string s!"Max retries exceeded ({retryCount}/{language.toText maxAllowed})"

/-- A small number as first argument is the attempt; otherwise the delivery's count is. -/
def attemptNum (retryCountOrStrategy : RetryOption) (currentRetryCount : Int) : Number :=
  match retryCountOrStrategy with
  | .number value => if value.lt 100 then value else .ofInt currentRetryCount
  | _ => .ofInt currentRetryCount

/-- The strategy's method, taken from the second argument when that is an object. -/
def calculateDelay (retryCountOrStrategy maxRetriesOrStrategy : RetryOption)
    : Option (Number → Except Thrown Value) :=
  match maxRetriesOrStrategy, retryCountOrStrategy with
  | .object members, _ => members.calculateDelay
  | _, .object members => members.calculateDelay
  | _, _ => none

/-- The delay: the strategy's, or a large first argument, or a power of two seconds. -/
def delay (runtime : Runtime) (retryCountOrStrategy maxRetriesOrStrategy : RetryOption)
    (attemptNum : Number)
    : Except Thrown Value :=
  match calculateDelay retryCountOrStrategy maxRetriesOrStrategy with
  | some method => method (attemptNum.add 1)
  | none =>
      match retryCountOrStrategy with
      | .number value =>
          if Number.le 100 value then
            .ok (.number value)
          else
            .ok (.number (doublingDelay runtime attemptNum))
      | _ => .ok (.number (doublingDelay runtime attemptNum))

/-- Put the retry in the queue by the first method it has. -/
def enqueue (config : ServiceConfig) (delivery : Delivery) (deliveryId : String)
    (attempt : Number) (delay : Value)
    : ServiceProgram Unit :=
  match config.queue with
  | .enqueueDelivery =>
      awaitCall (.enqueueDelivery delivery.taskResultId delivery.destinationId attempt delay)
  | .add =>
      awaitCall
        (.add "deliver-task-result" deliveryId delay 5
          s!"retry:{deliveryId}:{config.language.toText (.number attempt)}")
  | .absent | .none => pure ()

/-- What `scheduleRetry` does with the delivery it has loaded. -/
def reschedule (config : ServiceConfig) (deliveryId : String)
    (retryCountOrStrategy maxRetriesOrStrategy : RetryOption) (delivery : Delivery)
    : ServiceProgram Unit := do
  let maxAllowed ← settled (maxAllowed maxRetriesOrStrategy)
  let runtime ← awaitCall .runtime
  if (config.language.number maxAllowed).le (.ofInt delivery.retryCount) then
    let reason := exceededReason config.language delivery.retryCount maxAllowed
    let exceeded ← applied (Delivery.moveToDeadLetterQueue runtime reason) delivery
    awaitCall (.save exceeded [])
    throw
      (.error
        (maxRetriesExceededError deliveryId (toString delivery.retryCount)
          (config.language.toText maxAllowed)))
  else
    let attemptNum := attemptNum retryCountOrStrategy delivery.retryCount
    let delay ← settled (delay runtime retryCountOrStrategy maxRetriesOrStrategy attemptNum)
    let processing ← startProcessing runtime delivery
    let scheduled ←
      applied (Delivery.scheduleRetry runtime (config.language.timeArgument delay)) processing
    awaitCall (.save scheduled [])
    enqueue config scheduled deliveryId (attemptNum.add 1) delay

/-- Schedules a delayed retry job for a delivery. -/
def scheduleRetry (config : ServiceConfig) (deliveryId : String)
    (retryCountOrStrategy maxRetriesOrStrategy : RetryOption)
    : ServiceProgram Unit := do
  let delivery ← loadDelivery config deliveryId
  reschedule config deliveryId retryCountOrStrategy maxRetriesOrStrategy delivery

end ScheduleRetryService

/-- The `isRetryable` member of a reported error. -/
inductive VerdictMember where
  | method (result : Except Thrown Value)
  | property (value : Value)

/-- The `error` argument of `handleFailure`. A nullish one has only undefined members. -/
inductive ReportedError where
  | delivery (error : DeliveryError)
  | text (value : String)
  | other (message statusCode status : Value) (isRetryable : VerdictMember)

/-- The `statusCodeOrIsRetryable` argument. -/
inductive FailureVerdict where
  | absent
  | statusCode (value : Number)
  | isRetryable (value : Bool)

namespace ReportedError

/-- The error as the entity's mutators take it. -/
def argument : ReportedError → FailureArgument
  | delivery error => .delivery error
  | text value => .text value
  | other message _ _ _ => .other message

/-- `error?.message`, which a string has none of. -/
def message : ReportedError → Value
  | delivery error => .string error.message
  | text _ => .undefined
  | other message _ _ _ => message

def statusCode : ReportedError → Value
  | delivery error => (error.statusCode.map Value.number).getD .null
  | text _ => .undefined
  | other _ statusCode _ _ => statusCode

def status : ReportedError → Value
  | other _ _ status _ => status
  | _ => .undefined

def isRetryable : ReportedError → VerdictMember
  | delivery error => .method (.ok (.bool error.isRetryable))
  | text _ => .property .undefined
  | other _ _ _ isRetryable => isRetryable

end ReportedError

namespace HandleFailureService

/-- The message of a failure, for its log, its event and the dead letter queue. -/
def errorMessage : ReportedError → Value
  | .text value => .string value
  | error => orValue error.message (.string "Unknown delivery failure")

/-- The status code of a failure, 500 if nothing gives one. -/
def statusCode (error : ReportedError) : FailureVerdict → Value
  | .statusCode value => .number value
  | _ => orValue (orValue error.statusCode error.status) (.number 500)

/-- Whether a failure is retryable, as a dynamic value. -/
def isRetryable (language : Language) (error : ReportedError) (verdict : FailureVerdict)
    : Except Thrown Value :=
  match verdict with
  | .isRetryable value => .ok (.bool value)
  | verdict =>
      match error.isRetryable with
      | .method result => result
      | .property value =>
          let statusCode := statusCode error verdict
          .ok
            (coalesce value
              (.bool
                (Number.le 500 (language.number statusCode)
                  || statusCode = .number 0
                  || statusCode = .number 429)))

/-- `delivery.markFailed(error, isRetryable)`. A truthy verdict that is no boolean is taken
for a strategy, which it is not.
-/
def markFailed (runtime : Runtime) (error : FailureArgument) : Value → Mutation Unit
  | .bool retry => Delivery.markFailed runtime error (.decided retry)
  | verdict =>
      if verdict.truthy then do
        let errObj ← Mutation.construct error.toDeliveryError
        modify fun delivery => {
          delivery with
          lastError := some errObj
          retryCount := if delivery.retryCount = 0 then 1 else delivery.retryCount
        }
        throw (newTypeError "retryStrategy.canRetry is not a function")
      else
        Delivery.markFailed runtime error .absent

/-- Record failure attempt log if repo available. -/
def recordAttempt (config : ServiceConfig) (deliveryId : String) (data : AttemptData)
    : ServiceProgram Unit :=
  if config.attemptRepository then
    awaitCall (.recordAttempt deliveryId none data)
  else
    pure ()

/-- `eventPublisher.publish(name, ...)`, if there is a publisher. -/
def publish (config : ServiceConfig) (event : PublishedEvent) : ServiceProgram Unit :=
  if config.eventPublisher then awaitCall (.publish event) else pure ()

/-- The retry branch: schedule the delivery, announce the failure and save. -/
def scheduleRetry (config : ServiceConfig) (deliveryId : String) (errorMessage : Value)
    (runtime : Runtime) (failed : Delivery)
    : ServiceProgram Unit := do
  let delayMs := doublingDelay runtime (.ofInt failed.retryCount)
  let scheduled ← applied (Delivery.scheduleRetry runtime (.number delayMs)) failed
  publish config {
    name := "DeliveryFailedEvent"
    deliveryId := deliveryId
    errorMessage := errorMessage
    retryCount := some scheduled.retryCount
  }
  awaitCall
    (.save scheduled
      [.deliveryFailed deliveryId runtime.now errorMessage true scheduled.retryCount])

/-- The other branch: move to DLQ permanently, announce it and save. -/
def moveToDeadLetterQueue (config : ServiceConfig) (deliveryId : String)
    (errorMessage : Value) (runtime : Runtime) (failed : Delivery)
    : ServiceProgram Unit := do
  let dead ← applied (Delivery.moveToDeadLetterQueue runtime errorMessage) failed
  publish config {
    name := "DeliveryMovedToDLQEvent"
    deliveryId := deliveryId
    errorMessage := errorMessage
    retryCount := none
  }
  awaitCall
    (.save dead [.deliveryMovedToDLQ deliveryId runtime.now errorMessage dead.retryCount])

/-- What `handleFailure` does with the delivery it has loaded. -/
def recordFailure (config : ServiceConfig) (deliveryId : String) (error : ReportedError)
    (verdict : FailureVerdict) (delivery : Delivery)
    : ServiceProgram Unit := do
  let isRetryable ← settled (isRetryable config.language error verdict)
  recordAttempt config deliveryId {
    responseStatus := statusCode error verdict
    responseTimeMs := .undefined
    errorMessage := errorMessage error
  }
  let runtime ← awaitCall .runtime
  let processing ← startProcessing runtime delivery
  let failed ← applied (markFailed runtime error.argument isRetryable) processing
  if isRetryable.truthy && failed.canRetry then
    scheduleRetry config deliveryId (errorMessage error) runtime failed
  else
    moveToDeadLetterQueue config deliveryId (errorMessage error) runtime failed

/-- Evaluates failed webhook calls, schedules backoffs, or directs task results to the
DLQ.
-/
def handleFailure (config : ServiceConfig) (deliveryId : String) (error : ReportedError)
    (verdict : FailureVerdict)
    : ServiceProgram Unit := do
  let delivery ← loadDelivery config deliveryId
  recordFailure config deliveryId error verdict delivery

end HandleFailureService

namespace RetryScheduler

/-- Look a delivery up among those with the task result of its identifier. -/
def findDelivery (deliveryId : String) : ServiceProgram (Option Delivery) := do
  let deliveries ← awaitCall (.findByTaskResultId deliveryId)
  pure (chosenDelivery deliveryId deliveries)

/-- `config.maxRetries || 5`. -/
def maxRetries (configured : Number) : Number :=
  if configured.truthy then configured else 5

/-- What `scheduleRetry` does with the delivery it has found, if any. -/
def reschedule (deliveryId : String) (retryCount delayMs : Number)
    : Option Delivery → ServiceProgram Unit
  | none => throw (newError s!"Delivery with ID {deliveryId} not found")
  | some delivery => do
      let runtime ← awaitCall .runtime
      let nextRetryAt := Date.ofNumber (Number.add (.ofInt runtime.now) delayMs)
      let processing ←
        if delivery.status ≠ .processing then
          applied (Delivery.markProcessing runtime) delivery
        else
          pure delivery
      let scheduled ← applied (Delivery.scheduleRetry runtime (.date nextRetryAt)) processing
      awaitCall (.save scheduled [])
      awaitCall
        (.enqueueDelivery scheduled.taskResultId scheduled.destinationId (retryCount.add 1)
          (.number delayMs))

/-- Reschedules a delivery job to the delayed queue with the given delay. -/
def scheduleRetry (config : ServiceConfig) (configuredMaxRetries : Number)
    (deliveryId : String) (retryCount delayMs : Number)
    : ServiceProgram Unit := do
  let maxRetries := maxRetries configuredMaxRetries
  if maxRetries.le retryCount then
    throw
      (newError s!"Maximum retry attempts reached ({config.language.toText (.number maxRetries)})")
  else
    let delivery ← findDelivery deliveryId
    reschedule deliveryId retryCount delayMs delivery

/-- What `cancelRetry` does with the delivery it has found, if any. -/
def cancel : Option Delivery → ServiceProgram Unit
  | none => pure ()
  | some delivery => do
      let runtime ← awaitCall .runtime
      let processing ←
        if delivery.status ≠ .processing ∧ delivery.status ≠ .scheduledRetry then
          applied (Delivery.markProcessing runtime) delivery
        else
          pure delivery
      let cancelled ←
        applied (Delivery.moveToDLQ runtime (.string "Retry cancelled by supervisor action"))
          processing
      awaitCall (.save cancelled [])

/-- Cancels scheduled retry states. -/
def cancelRetry (deliveryId : String) : ServiceProgram Unit := do
  let delivery ← findDelivery deliveryId
  cancel delivery

end RetryScheduler

end QueueForge.Application
