import QueueForge.Infrastructure.Collaborators
import QueueForge.Worker.ErrorClassifier

/-! The executor: one protected transmission of a delivery.
Its awaited calls are kept abstract here; wiring them to the state machine, the recorder
and the repositories comes later.
-/

namespace QueueForge.Worker

open QueueForge.Async QueueForge.Js QueueForge.Infrastructure

/-- A delivery as far as the executor reads it. -/
structure LoadedDelivery where
  id : String
  taskResultId : String
  destinationId : String
deriving DecidableEq

/-- The calls an executor run awaits of the repositories, the state machine, the attempt
recorder and its other collaborators.
-/
inductive WorkerCall where
  | now
  | findDelivery (id : String)
  | external (call : ExternalCall)
  | markProcessing (deliveryId : String)
  | markCompleted (deliveryId : String) (latencyMs : Int)
  | scheduleRetry (deliveryId : String) (delayMs : Int) (error : Thrown)
  | moveToDeadLetterQueue (deliveryId : String) (reason : Value)
  | attemptSuccess (deliveryId : String) (latencyMs : Int) (response : Value)
  | attemptFailure (deliveryId : String) (latencyMs : Int) (statusCode : Option Int)
      (error : Thrown)
deriving DecidableEq

abbrev WorkerCall.Result : WorkerCall → Type
  | now => Int
  | findDelivery _ => Option LoadedDelivery
  | external call => call.Result
  | markProcessing _ => Unit
  | markCompleted _ _ => Unit
  | scheduleRetry _ _ _ => Unit
  | moveToDeadLetterQueue _ _ => Unit
  | attemptSuccess _ _ _ => Unit
  | attemptFailure _ _ _ _ => Unit

abbrev WorkerSignature : Signature where
  Op := WorkerCall
  Result := WorkerCall.Result

abbrev WorkerProgram (α : Type) : Type := Program WorkerSignature Thrown α

/-- Await a call of the run. -/
def await (call : WorkerCall) : WorkerProgram call.Result :=
  Program.perform (S := WorkerSignature) call

/-- Await a collaborator. -/
def awaitExternal (call : ExternalCall) : WorkerProgram call.Result :=
  Program.perform (S := WorkerSignature) (.external call)

section
variable {Φ : Type} {contract : Contract WorkerSignature Thrown Φ} {phase : Φ}

theorem meets_await {call : WorkerCall}
    {post : Settled Thrown call.Result → Φ → Prop}
    : Program.Meets (α := no_index call.Result) contract (await call) phase post
      ↔ contract.allows phase call
        ∧ ∀ result after, contract.answers phase call result after → post result after :=
  Program.meets_perform

theorem meets_awaitExternal {call : ExternalCall}
    {post : Settled Thrown call.Result → Φ → Prop}
    : Program.Meets (α := no_index call.Result) contract (awaitExternal call) phase post
      ↔ contract.allows phase (.external call)
        ∧ ∀ result after,
            contract.answers phase (.external call) result after → post result after :=
  Program.meets_perform

end

/-- Which of its optional collaborators an executor has. -/
structure ExecutorConfig where
  deliveries : Bool
  destinations : Bool
  results : Bool
  circuitBreaker : Bool
  acquire : Bool
  release : Bool
  logger : Bool

/-- An executor with repositories of deliveries only. -/
def ExecutorConfig.bare : ExecutorConfig where
  deliveries := true
  destinations := false
  results := false
  circuitBreaker := false
  acquire := false
  release := false
  logger := false

/-- The `deliveryOrId` argument. -/
inductive DeliveryArgument where
  | id (deliveryId : String)
  | entity (delivery : LoadedDelivery)

structure ExecutionResult where
  success : Bool
  statusCode : Option Int
  latencyMs : Int
  error : Thrown
  errorCategory : Option ErrorCategory

namespace DeliveryExecutor

variable (config : ExecutorConfig)

/-- `Date.now() - start`. -/
def elapsed (start : Int) : WorkerProgram Int := do
  let now ← await .now
  pure (now - start)

/-- Load delivery from repository if a string identifier was passed. -/
def loadDelivery : DeliveryArgument → WorkerProgram (Option LoadedDelivery)
  | .entity delivery => pure (some delivery)
  | .id deliveryId => if config.deliveries then await (.findDelivery deliveryId) else pure none

/-- The identifier the run works on: the given one, or the delivery's if that is empty. -/
def identifier (deliveryOrId : DeliveryArgument) (delivery : LoadedDelivery) : String :=
  match deliveryOrId with
  | .entity delivery => delivery.id
  | .id deliveryId => if deliveryId = "" then delivery.id else deliveryId

/-- The destination identifier of a run. -/
def destinationId (delivery : LoadedDelivery) (destination : Option Destination) : String :=
  let fallback :=
    match destination with
    | some destination => destination.id
    | none => some "unknown"
  ((orString (some delivery.destinationId) fallback).getD "undefined")

/-- Load destination if missing. -/
def loadDestination (destinationArg : Option Destination) (destId : String)
    : WorkerProgram (Option Destination) :=
  match destinationArg with
  | some destination => pure (some destination)
  | none =>
      if config.destinations then awaitExternal (.findDestination destId) else pure none

/-- The type of a destination, which names its bulkhead pool. -/
def destinationType (destination : Option Destination) : String :=
  (orString (destination.bind Destination.destinationType) none).getD "WEBHOOK"

/-- Mark the delivery PROCESSING; a rejection is logged and the run goes on. Logging an
exception that is nullish throws in turn.
-/
def claim (deliveryId : String) : WorkerProgram Unit :=
  tryCatch (await (.markProcessing deliveryId)) (fun error =>
    if config.logger ∧ error = .nullish then
      throw (newTypeError "Cannot read properties of undefined (reading 'message')")
    else
      pure ())

/-- Report a success to the breaker, where there is one. -/
def reportSuccess (breaker : Bool) : WorkerProgram Unit :=
  if breaker then awaitExternal .recordSuccess else pure ()

/-- Report a failure to the breaker, where there is one. -/
def reportFailure (breaker : Bool) (error : Thrown) : WorkerProgram Unit :=
  if breaker then awaitExternal (.recordFailure error) else pure ()

/-- `error.message` as a reason. -/
def reasonOf (error : Thrown) : Value :=
  match error.message with
  | some message => .string message
  | none => .undefined

/-- Hand a classified failure to the state machine. -/
def settleFailure (deliveryId : String) (error : Thrown) (retryable : Bool)
    : WorkerProgram Unit :=
  if retryable then
    await (.scheduleRetry deliveryId 5000 error)
  else
    await (.moveToDeadLetterQueue deliveryId (reasonOf error))

/-- The bookkeeping of a successful response. -/
def onSuccess (deliveryId : String) (breaker : Bool) (latencyMs : Int) (res : Response)
    : WorkerProgram ExecutionResult := do
  reportSuccess breaker
  await (.attemptSuccess deliveryId latencyMs res.response)
  await (.markCompleted deliveryId latencyMs)
  pure {
    success := true
    statusCode := orInt res.statusCode (some 200)
    latencyMs := latencyMs
    error := .nullish
    errorCategory := none
  }

/-- The error of an unsuccessful response. -/
def responseError (res : Response) : Thrown :=
  if res.error.truthy then
    res.error
  else
    newError ((orString res.message none).getD "Connector transmission failed")

/-- The bookkeeping of an unsuccessful response. -/
def onFailure (deliveryId : String) (breaker : Bool) (latencyMs : Int) (res : Response)
    : WorkerProgram ExecutionResult := do
  let err := responseError res
  reportFailure breaker err
  let classification := ErrorClassifier.classify err res.statusCode
  await (.attemptFailure deliveryId latencyMs res.statusCode err)
  settleFailure deliveryId err classification.retryable
  pure {
    success := false
    statusCode := orInt res.statusCode (some 500)
    latencyMs := latencyMs
    error := err
    errorCategory := some classification.category
  }

/-- The payload of a transmission: the stored result, or an empty object. -/
def loadPayload (delivery : LoadedDelivery) : WorkerProgram Value :=
  if config.results ∧ delivery.taskResultId ≠ "" then do
    let resultRecord ← awaitExternal (.findResult delivery.taskResultId)
    pure (resultRecord.getD (.object []))
  else
    pure (.object [])

/-- Execute delivery via connector; without one the transmission counts as successful. -/
def transmit (connector : Bool) (payload : Value) (timeoutMs : Int)
    : WorkerProgram (Option Response) :=
  if connector then
    awaitExternal (.execute payload timeoutMs)
  else
    pure (some {
      success := true
      statusCode := some 200
      error := .nullish
      message := none
      response := .undefined
    })

/-- The body of the `try` block, once the ticket is acquired. -/
def deliver (start : Int) (deliveryId : String) (delivery : LoadedDelivery)
    (destination : Option Destination) (breaker : Bool)
    : WorkerProgram ExecutionResult := do
  let connector ← awaitExternal (.createConnector destination)
  let payload ← loadPayload config delivery
  let timeoutMs := (orInt (destination.bind Destination.timeout) none).getD 30000
  let res ← transmit connector payload timeoutMs
  let latencyMs ← elapsed start
  match res with
  | none => throw (newTypeError "Cannot read properties of undefined (reading 'success')")
  | some res =>
      if res.success then
        onSuccess deliveryId breaker latencyMs res
      else
        onFailure deliveryId breaker latencyMs res

/-- The `catch` block: it judges every exception of the `try` block as a failed
transmission.
-/
def onError (start : Int) (deliveryId : String) (breaker : Bool) (err : Thrown)
    : WorkerProgram ExecutionResult := do
  let latencyMs ← elapsed start
  reportFailure breaker err
  let classification := ErrorClassifier.classify err
  if err = .nullish then
    throw (newTypeError "Cannot read properties of undefined (reading 'statusCode')")
  else
    let statusCode := orInt err.statusCode (some 500)
    await (.attemptFailure deliveryId latencyMs statusCode err)
    settleFailure deliveryId err classification.retryable
    pure {
      success := false
      statusCode := none
      latencyMs := latencyMs
      error := err
      errorCategory := some classification.category
    }

/-- The `finally` block: give the ticket back, whatever that throws. -/
def releaseTicket (poolName : String) (ticketId : Option String) : WorkerProgram Unit :=
  match orString ticketId none with
  | some ticket =>
      if config.release then
        tryCatch (awaitExternal (.release poolName ticket)) (fun _ => pure ())
      else
        pure ()
  | none => pure ()

/-- The bulkhead execution: acquire, deliver, handle, release. A failed acquisition is
handled like a failed transmission, without a ticket to give back.
-/
def protect (start : Int) (deliveryId : String) (delivery : LoadedDelivery)
    (destination : Option Destination) (breaker : Bool)
    : WorkerProgram ExecutionResult := do
  let poolName := toLowerCase (destinationType destination)
  let acquired ←
    if config.acquire then
      (awaitExternal (.acquire poolName)).settle
    else
      pure (.ok none)
  match acquired with
  | .error err => onError start deliveryId breaker err
  | .ok ticketId =>
      let attempt :=
        tryCatch (deliver config start deliveryId delivery destination breaker)
          (onError start deliveryId breaker)
      attempt.finallyRun (releaseTicket config poolName ticketId)

/-- The result of a run that stops at an open breaker. -/
def aborted (start : Int) (destId : String) : WorkerProgram ExecutionResult := do
  let latencyMs ← elapsed start
  pure {
    success := false
    statusCode := none
    latencyMs := latencyMs
    error := newError ("Circuit breaker is OPEN for destination " ++ destId)
    errorCategory := some .transient
  }

/-- The result of a run that finds no delivery. -/
def notFound (start : Int) (deliveryOrId : DeliveryArgument)
    : WorkerProgram ExecutionResult := do
  let deliveryId :=
    match deliveryOrId with
    | .id deliveryId => deliveryId
    | .entity delivery => delivery.id
  let latencyMs ← elapsed start
  pure {
    success := false
    statusCode := none
    latencyMs := latencyMs
    error := newError ("Delivery record \"" ++ deliveryId ++ "\" not found")
    errorCategory := some .permanent
  }

/-- The circuit breaker check, then the protected execution. -/
def guardedDelivery (start : Int) (deliveryId destId : String) (delivery : LoadedDelivery)
    (destination : Option Destination)
    : WorkerProgram ExecutionResult :=
  if config.circuitBreaker then do
    let breaker ← awaitExternal (.getBreaker destId)
    let isCbOpen ← awaitExternal (.isOpen destId)
    if isCbOpen then
      aborted start destId
    else
      protect config start deliveryId delivery destination breaker
  else
    protect config start deliveryId delivery destination false

/-- Executes outbound delivery applying circuit breaker, bulkhead, retry, and timeout
patterns.
-/
def executeWithResilience (deliveryOrId : DeliveryArgument)
    (destinationArg : Option Destination := none)
    : WorkerProgram ExecutionResult := do
  let start ← await .now
  let loaded ← loadDelivery config deliveryOrId
  match loaded with
  | none => notFound start deliveryOrId
  | some delivery =>
      let deliveryId := identifier deliveryOrId delivery
      let destId := destinationId delivery destinationArg
      let destination ← loadDestination config destinationArg destId
      claim config deliveryId
      guardedDelivery config start deliveryId destId delivery destination

end DeliveryExecutor

end QueueForge.Worker
