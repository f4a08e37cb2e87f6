import QueueForge.Worker.AttemptRecorder
import QueueForge.Worker.DeliveryExecutor
import QueueForge.Worker.StateMachine

/-! The wiring of the worker module: the calls of an executor run go to the state machine,
the attempt recorder and the repositories.
-/

namespace QueueForge.Worker

open QueueForge.Async QueueForge.Js QueueForge.Infrastructure

/-- A row as the executor reads it. -/
def LoadedDelivery.ofRow (row : DeliveryRow) : LoadedDelivery where
  id := row.id
  taskResultId := row.taskResultId
  destinationId := row.destinationId

/-- The parts an executor is constructed from, as programs over one signature. -/
structure WorkerParts (S : Signature) where
  stateMachine : DeliveryStateMachine S
  clock : Program S Thrown Int
  external : (call : ExternalCall) → Program S Thrown call.Result
  attemptSuccess : String → Int → Value → Program S Thrown Unit
  attemptFailure : String → Int → Option Int → Thrown → Program S Thrown Unit

namespace WorkerParts

variable {S : Signature} (parts : WorkerParts S)

/-- The executor loads a delivery from the store its state machine works on. -/
def findDelivery (id : String) : Program S Thrown (Option LoadedDelivery) :=
  match parts.stateMachine.deliveryRepository.findById with
  | some findById => (findById id).bind (fun row => .done (row.map .ofRow))
  | none => .done none

/-- The methods behind the calls of a run. -/
def methods : (call : WorkerCall) → Program S Thrown call.Result
  | .now => parts.clock
  | .findDelivery id => parts.findDelivery id
  | .external call => parts.external call
  | .markProcessing id => (parts.stateMachine.markProcessing id).bind (fun _ => .done ())
  | .markCompleted id latencyMs =>
      (parts.stateMachine.markCompleted id latencyMs).bind (fun _ => .done ())
  | .scheduleRetry id delayMs error =>
      (parts.stateMachine.scheduleRetry id delayMs error).bind (fun _ => .done ())
  | .moveToDeadLetterQueue id reason =>
      (parts.stateMachine.moveToDeadLetterQueue id reason).bind (fun _ => .done ())
  | .attemptSuccess id latencyMs response => parts.attemptSuccess id latencyMs response
  | .attemptFailure id latencyMs statusCode error =>
      parts.attemptFailure id latencyMs statusCode error

/-- A run of the executor over its parts. -/
def execute (config : ExecutorConfig) (deliveryOrId : DeliveryArgument)
    (destinationArg : Option Destination := none)
    : Program S Thrown ExecutionResult :=
  (DeliveryExecutor.executeWithResilience config deliveryOrId destinationArg).implement
    parts.methods

end WorkerParts

/-- The parts the worker module constructs, over the database and the outside world. -/
def workerParts (production logger : Bool) : WorkerParts SystemSignature where
  stateMachine := workerStateMachine production
  clock := awaitNow
  external := fun call => Program.perform (S := SystemSignature) (.external call)
  attemptSuccess := fun id latencyMs response =>
    ((workerAttemptRecorder production logger).recordSuccess id latencyMs response).bind
      (fun _ => .done ())
  attemptFailure := fun id latencyMs statusCode error =>
    ((workerAttemptRecorder production logger).recordFailure id latencyMs statusCode
      error).bind (fun _ => .done ())

end QueueForge.Worker
