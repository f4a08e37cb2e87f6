import QueueForge.Application.ServiceCalls

/-! `ProcessDeliveryService`: posts a delivery to its destination, records the attempt and
adjusts the delivery by the outcome.
-/

namespace QueueForge.Application

open QueueForge.Async QueueForge.Js QueueForge.Domain

structure ProcessResult where
  deliveryId : String
  status : String
  success : Bool
  statusCode : Number
  latencyMs : Number
  nextRetryAt : Option Date
  error : Option String

/-- What the service knows of a transmission once it has settled. -/
structure Outcome where
  responseStatus : Number
  durationMs : Number
  errorMessage : Option String
  success : Bool
deriving DecidableEq

namespace ProcessDeliveryService

def loadDestination (config : ServiceConfig) (destinationId : String)
    : ServiceProgram DeliveryTarget := do
  let found ← ifPresent config.destinationRepository (awaitCall (.findDestination destinationId)) none
  match found with
  | some destination => pure destination
  | none => throw (.error (destinationNotFoundError destinationId))

/-- The destination given, or else the delivery's own. -/
def chooseDestination (config : ServiceConfig) (delivery : Delivery)
    : Option DeliveryTarget → ServiceProgram DeliveryTarget
  | some destination => pure destination
  | none => loadDestination config delivery.destinationId

/-- Transition status to PROCESSING. -/
def beginProcessing (runtime : Runtime) (delivery : Delivery) : ServiceProgram Delivery :=
  if delivery.status = .processing then
    pure delivery
  else
    applied (Delivery.markAsProcessing runtime) delivery

/-- The payload of the task result, or an empty object. -/
def taskResultPayload (config : ServiceConfig) (taskResultId : String) : ServiceProgram Value := do
  let payload ← ifPresent config.resultRepository (awaitCall (.findResult taskResultId)) none
  pure (payload.getD (.object []))

/-- The number of the attempt a delivery is at. -/
def attemptNumber (delivery : Delivery) : Int :=
  delivery.retryCount + 1

def headers (deliveryId : String) (delivery : Delivery) : List (String × String) :=
  [("Content-Type", "application/json"), ("X-QueueForge-Task-Id", delivery.taskResultId),
    ("X-QueueForge-Delivery-Id", deliveryId),
    ("X-QueueForge-Attempt", toString (attemptNumber delivery))]

/-- The outcome of a response: a success if its status is 2xx, where a missing or zero status
counts as 200.
-/
def received (language : Language) (elapsed : Number) (response : HttpResponse) : Outcome :=
  let responseStatus :=
    match response.status with
    | some status => if status.truthy then status else 200
    | none => 200
  let success := Number.le 200 responseStatus && responseStatus.lt 300
  {
    responseStatus := responseStatus
    durationMs :=
      match response.durationMs with
      | some duration => if duration.truthy then duration else elapsed
      | none => elapsed
    errorMessage :=
      if success then
        none
      else
        some s!"Received non-2xx response status: {language.toText (.number responseStatus)}"
    success := success
  }

/-- The outcome of an exception, which must not be nullish. -/
def notReceived (elapsed : Number) (error : Thrown) : Except Thrown Outcome :=
  match error with
  | .nullish => .error (newTypeError "Cannot read properties of undefined (reading 'message')")
  | error =>
      .ok {
        responseStatus := .ofInt ((orInt error.status error.statusCode).getD 0)
        durationMs := elapsed
        errorMessage := orString error.message (some "Network connection failed")
        success := false
      }

/-- The outcome of what the HTTP client settled with. A null response fails where its members
are read.
-/
def outcome (language : Language) (elapsed : Number)
    : Settled Thrown (Option HttpResponse) → Except Thrown Outcome
  | .ok (some response) => .ok (received language elapsed response)
  | .ok none =>
      notReceived elapsed
        (newTypeError "Cannot read properties of null (reading 'durationMs')")
  | .error error => notReceived elapsed error

/-- Post the payload. Without an HTTP client the transmission counts as a success. -/
def transmit (config : ServiceConfig) (deliveryId : String) (delivery : Delivery)
    (destination : DeliveryTarget) (payload : Value)
    : ServiceProgram Outcome := do
  let started ← awaitCall .runtime
  if config.httpClient then
    let answer ←
      (awaitCall
        (.post destination.url payload (headers deliveryId delivery)
          destination.timeoutMs)).settle
    let settledAt ← awaitCall .runtime
    settled (outcome config.language (.ofInt (settledAt.now - started.now)) answer)
  else
    pure { responseStatus := 200, durationMs := 0, errorMessage := none, success := true }

/-- The fields of an attempt log, with the given value for no error. -/
def attemptData (outcome : Outcome) (noError : Value) : AttemptData where
  responseStatus := .number outcome.responseStatus
  responseTimeMs := .number outcome.durationMs
  errorMessage := ((orString outcome.errorMessage none).map Value.string).getD noError

/-- Record attempt log using both 2-arg and 3-arg calling shapes. -/
def recordAttempt (config : ServiceConfig) (deliveryId : String) (delivery : Delivery)
    (outcome : Outcome)
    : ServiceProgram Unit :=
  if config.attemptRepository then
    (awaitCall
      (.recordAttempt deliveryId (some (attemptNumber delivery))
        (attemptData outcome .null))).catchError
      (fun _ => awaitCall (.recordAttempt deliveryId none (attemptData outcome .undefined)))
  else
    pure ()

/-- The attempt as the service makes it. The measured time is passed for the error and the
error for the latency.
-/
def attemptVO (language : Language) (runtime : Runtime) (outcome : Outcome) (delivery : Delivery)
    : Except Thrown RetryAttempt :=
  RetryAttempt.create runtime language.toText (.ofInt (attemptNumber delivery))
    (.number outcome.responseStatus) (.number outcome.durationMs)
    (((orString outcome.errorMessage none).map Value.string).getD .undefined)

/-- The object the service pushes where it cannot make the attempt. -/
def plainAttempt (outcome : Outcome) (delivery : Delivery) : PlainAttempt where
  number := .ofInt (attemptNumber delivery)
  statusCode := outcome.responseStatus
  latencyMs := outcome.durationMs
  error := outcome.errorMessage

/-- Add the attempt to the history of the delivery, or push an object past the entity. -/
def noteAttempt (language : Language) (runtime : Runtime) (outcome : Outcome)
    (delivery : Delivery)
    : Delivery :=
  match attemptVO language runtime outcome delivery with
  | .ok attempt => ((Delivery.addAttempt runtime (some attempt)).apply delivery).2
  | .error _ => {
      delivery with
      attempts := delivery.attempts ++ [.plain (plainAttempt outcome delivery)]
    }

/-- Whether a failed transmission is worth another. -/
def isRetryable (responseStatus : Number) : Bool :=
  Number.le 500 responseStatus || responseStatus = 0 || responseStatus = 429
  || responseStatus = 408

/-- Update state based on outcome. -/
def updateState (runtime : Runtime) (outcome : Outcome) (delivery : Delivery)
    : ServiceProgram Delivery :=
  if outcome.success then
    applied (Delivery.markAsCompleted runtime none) delivery
  else if isRetryable outcome.responseStatus && delivery.canRetry then
    let delay := Number.mul 1000 (Number.pow2 runtime.fractional (.ofInt delivery.retryCount))
    applied (Delivery.scheduleRetry runtime (.number delay)) delivery
  else
    let reason := orString outcome.errorMessage (some "Delivery failed permanently")
    applied
      (Delivery.moveToDeadLetterQueue runtime ((reason.map Value.string).getD .undefined))
      delivery

def result (deliveryId : String) (outcome : Outcome) (delivery : Delivery) : ProcessResult where
  deliveryId := deliveryId
  status := toLowerCase delivery.status.getValue
  success := outcome.success
  statusCode := outcome.responseStatus
  latencyMs := outcome.durationMs
  nextRetryAt := delivery.nextRetryAt
  error := outcome.errorMessage

/-- What `processDelivery` does once the transmission has settled. -/
def conclude (config : ServiceConfig) (deliveryId : String) (delivery : Delivery)
    (outcome : Outcome)
    : ServiceProgram ProcessResult := do
  recordAttempt config deliveryId delivery outcome
  let runtime ← awaitCall .runtime
  let updated ← updateState runtime outcome (noteAttempt config.language runtime outcome delivery)
  awaitCall (.save updated [])
  pure (result deliveryId outcome updated)

/-- What `processDelivery` does with the delivery it has loaded. -/
def deliver (config : ServiceConfig) (deliveryId : String)
    (destinationParam : Option DeliveryTarget) (delivery : Delivery)
    : ServiceProgram ProcessResult := do
  let destination ← chooseDestination config delivery destinationParam
  let runtime ← awaitCall .runtime
  let processing ← beginProcessing runtime delivery
  awaitCall (.save processing [])
  let payload ← taskResultPayload config processing.taskResultId
  let outcome ← transmit config deliveryId processing destination payload
  conclude config deliveryId processing outcome

/-- An exception as the service passes it on once its message is logged. -/
def rethrown : Thrown → Thrown
  | .nullish => newTypeError "Cannot read properties of undefined (reading 'message')"
  | error => error

/-- Executes a delivery webhook post, logs attempt details, and adjusts state transitions.
-/
def processDelivery (config : ServiceConfig) (deliveryId : String)
    (destinationParam : Option DeliveryTarget)
    : ServiceProgram ProcessResult :=
  ((do
    let delivery ← loadDelivery config deliveryId
    deliver config deliveryId destinationParam delivery)
    : ServiceProgram ProcessResult).catchError (fun error => throw (rethrown error))

end ProcessDeliveryService

end QueueForge.Application
