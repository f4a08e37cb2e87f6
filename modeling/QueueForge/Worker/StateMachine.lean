import QueueForge.Infrastructure.DeliveryRepository

/-! The delivery state machine of the worker, over any store of deliveries.
A store is an object with optional methods; which route a transition takes depends on the
target, the metadata and the methods the store has.
-/

namespace QueueForge.Worker

open QueueForge.Async QueueForge.Js QueueForge.Domain QueueForge.Infrastructure

/-- A metadata object: its own properties in order. -/
abbrev Metadata : Type := List (String × Value)

/-- `metadata?.name`. -/
def Metadata.get (metadata : Option Metadata) (name : String) : Value :=
  (metadata.bind (List.lookup name)).getD .undefined

/-- `metadata && Object.keys(metadata).length > 0 ? metadata : ...`. -/
def Metadata.nonempty (metadata : Option Metadata) : Option Metadata :=
  match metadata with
  | some (first :: rest) => some (first :: rest)
  | _ => none

/-- A repository of deliveries, as an object whose methods may be missing. Every method
resolves to a row.
-/
structure DeliveryStore (S : Signature) where
  findById : Option (String → Program S Thrown (Option DeliveryRow))
  findOne : Option (String → Program S Thrown (Option DeliveryRow))
  updateDeliveryStatus
    : Option (String → DeliveryStatus → Value → Metadata → Program S Thrown DeliveryRow)
  scheduleRetry : Option (String → Value → Value → Metadata → Program S Thrown DeliveryRow)
  updateStatus
    : Option (String → DeliveryStatus → Option Metadata → Program S Thrown DeliveryRow)
  update
    : Option (String → DeliveryStatus → Option Metadata → Program S Thrown DeliveryRow)

/-- The event a transition publishes. -/
structure StatusEvent where
  type : String
  deliveryId : String
  fromState : DeliveryStatus
  toState : DeliveryStatus
  timestamp : Int

structure DeliveryStateMachine (S : Signature) where
  deliveryRepository : DeliveryStore S
  eventPublisher : Option (StatusEvent → Program S Thrown Unit)
  /-- `new Date()` and `Date.now()`. -/
  clock : Program S Thrown Int
  /-- What `expect?.any ? expect.any(Object) : {}` gives where a test runner declares the
  name `expect`; `none` outside one.
  -/
  globalExpect : Option Metadata

namespace DeliveryStateMachine

variable {S : Signature} (machine : DeliveryStateMachine S)

/-- The stored delivery, by the first lookup that finds it. -/
def find (deliveryId : String) : Program S Thrown (Option DeliveryRow) := do
  let delivery ←
    match machine.deliveryRepository.findById with
    | some findById => findById deliveryId
    | none => pure none
  match delivery, machine.deliveryRepository.findOne with
  | none, some findOne => findOne deliveryId
  | found, _ => pure found

/-- The options argument of the two dedicated routes. Reading the undeclared name
`expect` throws.
-/
def optionsArg (metadata : Option Metadata) : Program S Thrown Metadata :=
  match Metadata.nonempty metadata, machine.globalExpect with
  | some metadata, _ => pure metadata
  | none, some options => pure options
  | none, none => throw (newReferenceError "expect")

/-- Hand the target status to the first route that fits; a store without any of the
methods is left alone.
-/
def write (deliveryId : String) (target : DeliveryStatus) (metadata : Option Metadata)
    (found : Option DeliveryRow)
    : Program S Thrown (Option DeliveryRow) :=
  let repository := machine.deliveryRepository
  match target, repository.updateDeliveryStatus, repository.scheduleRetry,
      repository.updateStatus, repository.update with
  | .completed, some updateDeliveryStatus, _, _, _ => do
      let options ← machine.optionsArg metadata
      let completedAt := Metadata.get metadata "completedAt"
      some <$> updateDeliveryStatus deliveryId target completedAt options
  | .scheduledRetry, _, some scheduleRetry, _, _ => do
      let options ← machine.optionsArg metadata
      let nextRetryAt := Metadata.get metadata "nextRetryAt"
      let lastError := Metadata.get metadata "lastError"
      some <$> scheduleRetry deliveryId nextRetryAt lastError options
  | _, _, _, some updateStatus, _ => some <$> updateStatus deliveryId target metadata
  | _, _, _, none, some update => some <$> update deliveryId target metadata
  | _, _, _, none, none => pure found

/-- Tell the publisher, whose exceptions are ignored. -/
def publish (deliveryId : String) (current target : DeliveryStatus)
    : Program S Thrown Unit :=
  match machine.eventPublisher with
  | none => pure ()
  | some publish =>
      tryCatch
        (do
          let timestamp ← machine.clock
          publish {
            type := "delivery." ++ toLowerCase target.getValue
            deliveryId := deliveryId
            fromState := current
            toState := target
            timestamp := timestamp
          })
        (fun _ => pure ())

/-- Move a delivery to a status. A delivery that is not found counts as PENDING. The
result is the written row, or what was found where nothing is written.
-/
def transition (deliveryId : String) (target : DeliveryStatus)
    (metadata : Option Metadata := none)
    : Program S Thrown (Option DeliveryRow) := do
  let found ← machine.find deliveryId
  let current := (found.map DeliveryRow.status).getD .pending
  if admitsTransition current target then
    let written ← machine.write deliveryId target metadata found
    machine.publish deliveryId current target
    pure written
  else
    throw (.error (invalidDeliveryStateError current target))

def markProcessing (deliveryId : String) : Program S Thrown (Option DeliveryRow) :=
  machine.transition deliveryId .processing

def markCompleted (deliveryId : String) (latencyMs : Int)
    : Program S Thrown (Option DeliveryRow) := do
  let completedAt ← machine.clock
  machine.transition deliveryId .completed
    (some [
      ("completedAt", .date (some completedAt)),
      ("latencyMs", .number (.ofInt latencyMs))
    ])

/-- The text of an error: its message, or how it renders. -/
def errorText (error : Thrown) : String :=
  match orString error.message none, error with
  | some message, _ => message
  | none, .nullish => "undefined"
  | none, error => error.rendered

def scheduleRetry (deliveryId : String) (delayMs : Int) (error : Thrown)
    : Program S Thrown (Option DeliveryRow) := do
  let now ← machine.clock
  machine.transition deliveryId .scheduledRetry
    (some [
      ("nextRetryAt", .date (some (now + delayMs))),
      ("lastError", .string (errorText error))
    ])

def moveToDeadLetterQueue (deliveryId : String) (reason : Value)
    : Program S Thrown (Option DeliveryRow) := do
  let failedAt ← machine.clock
  machine.transition deliveryId .failedDlq
    (some [("failedAt", .date (some failedAt)), ("failureReason", reason)])

end DeliveryStateMachine

/-- `DeliveryRepository` as the store of a state machine. Its `update` is left out: the
machine only asks for it where `updateStatus` is missing.
-/
def deliveryRepositoryStore (production : Bool) : DeliveryStore SystemSignature where
  findById := some (DeliveryRepository.findById production)
  findOne := some (DeliveryRepository.findOne production)
  updateDeliveryStatus :=
    some (fun id status txOrContext _ =>
      DeliveryRepository.updateDeliveryStatus production id status txOrContext)
  scheduleRetry :=
    some (fun id retryAt txOrContext _ =>
      DeliveryRepository.scheduleRetry production id retryAt txOrContext)
  updateStatus :=
    some (fun id status tx =>
      -- the third parameter is a transaction client, the argument is the metadata
      DeliveryRepository.updateStatus production id status (tx.map (List.map Prod.fst)))
  update := none

/-- The state machine as the worker module wires it: over the delivery repository, without
an event publisher and outside a test runner.
-/
def workerStateMachine (production : Bool) : DeliveryStateMachine SystemSignature where
  deliveryRepository := deliveryRepositoryStore production
  eventPublisher := none
  clock := awaitNow
  globalExpect := none

end QueueForge.Worker
