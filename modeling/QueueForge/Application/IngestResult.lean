import QueueForge.Application.ValidateResult
import QueueForge.Async.Execution
import QueueForge.Domain.DeliveryEntity
import QueueForge.Domain.Destination

/-! Ingestion of a task result: the calls `IngestResultService` makes and its body.
The service probes its collaborators for the methods they have, so these are part of what
it is given.
-/

namespace QueueForge.Application

open QueueForge.Async QueueForge.Js QueueForge.Domain

/-- `IngestResultResponse`; the optional members may be absent from a cached one. -/
structure IngestResultResponse where
  resultId : String
  status : String
  deliveryCount : Option Nat
  destinationCount : Option Nat
  timestamp : Option Int
  queuedAt : Option Int
deriving DecidableEq

/-- What `ResultMapper.toDTO` makes of a task result. -/
structure ResultDTO where
  id : String
  emailId : String
  agentId : String
  agentVersion : String
  confidenceScore : Number
  resultPayload : List (String × Json)
  llmMetadata : Json
  createdAt : Int
  updatedAt : Int

/-- The `data` argument of a delivery creation. -/
structure DeliveryData where
  id : String
  taskResultId : String
  destinationId : String
  status : DeliveryStatus
  retryCount : Int
  nextRetryAt : Option Date
  createdAt : Date
  updatedAt : Date
deriving DecidableEq

/-- A destination as a repository returns it: an entity or a plain record. -/
structure RoutingTarget where
  destination : Destination
  methods : List String

inductive IngestCall where
  | runtime
  | randomUUID
  | redisGet (key : String)
  | redisSetex (key : String) (ttlSeconds : Nat) (value : IngestResultResponse)
  | findAllActive
  | findAll
  | saveResult (result : AiTaskResult)
  | createResult (data : ResultDTO)
  | createResultRecord (data : ResultDTO)
  | saveDelivery (delivery : Delivery)
  | createDelivery (data : DeliveryData)
  | enqueueDelivery (taskResultId destinationId : String) (attempt : Nat)
  | add (name deliveryId : String)

abbrev IngestCall.Result : IngestCall → Type
  | runtime => Runtime
  | randomUUID => Uuid
  | redisGet _ => Option IngestResultResponse
  | redisSetex _ _ _ => Unit
  | findAllActive => List RoutingTarget
  | findAll => List RoutingTarget
  | saveResult _ => Unit
  | createResult _ => Unit
  | createResultRecord _ => Unit
  | saveDelivery _ => Unit
  | createDelivery _ => Unit
  | enqueueDelivery _ _ _ => Unit
  | add _ _ => Unit

abbrev IngestSignature : Signature where
  Op := IngestCall
  Result := IngestCall.Result

abbrev IngestProgram (α : Type) : Type := Program IngestSignature Thrown α

/-- Await a call of the service. -/
def awaitIngest (call : IngestCall) : IngestProgram call.Result :=
  Program.perform (S := IngestSignature) call

/-- The names of the methods a collaborator has, if there is one. -/
abbrev Collaborator : Type := Option (List String)

/-- `typeof collaborator?.method === 'function'`. -/
def Collaborator.has (collaborator : Collaborator) (method : String) : Bool :=
  collaborator.any (fun methods => methods.contains method)

/-- What the service is constructed from, and how the language spells numbers. -/
structure IngestDependencies where
  resultRepository : Collaborator
  deliveryRepository : Collaborator
  destinationRepository : Collaborator
  queue : Collaborator
  cache : Collaborator
  numberText : Number → String

/-- The methods of the class. Of an entry, `get` returns the wrapped value; its expiry date
is read by no caller.
-/
def IdempotencyCache.methods : List String :=
  ["set", "get", "exists", "delete", "clear"]

def IdempotencyCache.get (key : String) : IngestProgram (Option IngestResultResponse) :=
  awaitIngest (.redisGet key)

def IdempotencyCache.set (key : String) (value : IngestResultResponse) (ttlHours : Nat := 2)
    : IngestProgram Unit :=
  awaitIngest (.redisSetex key (ttlHours * 3600) value)

namespace ResultMapper

/-- Instantiates a new task result using parameter validation checks. -/
def toDomain (numberText : Number → String) (id : Uuid) (createdAt updatedAt : Int)
    (request : IngestResultRequest)
    : Except Thrown AiTaskResult :=
  let props : AiTaskResultProps := {
    emailId := request.emailId
    agentId := request.agentId
    agentVersion := request.agentVersion
    confidenceScore := request.confidenceScore
    resultPayload := request.resultPayload
    metadata := request.llmMetadata
  }
  (AiTaskResult.create numberText id createdAt updatedAt props).mapError
    (fun error =>
      let fallback := "Failed mapping ingestion payload properties."
      .error (validationError ((orString error.message none).getD fallback)))

/-- Serializes a task result into a raw generic DTO object. -/
def toDTO (result : AiTaskResult) : ResultDTO where
  id := result.id.text
  emailId := result.emailId.value
  agentId := result.agentId.value
  agentVersion := result.agentVersion
  confidenceScore := result.confidenceScore.value
  resultPayload := result.resultPayload
  llmMetadata := result.metadata
  createdAt := result.createdAt
  updatedAt := result.updatedAt

end ResultMapper

/-- The members the service passes to `create` of a delivery repository. -/
def DeliveryData.ofDelivery (delivery : Delivery) : DeliveryData where
  id := delivery.id
  taskResultId := delivery.taskResultId
  destinationId := delivery.destinationId
  status := delivery.status
  retryCount := delivery.retryCount
  nextRetryAt := delivery.nextRetryAt
  createdAt := delivery.createdAt
  updatedAt := delivery.updatedAt

namespace IngestResultService

/-- The key a request is remembered under. -/
def idempotencyKey (request : IngestResultRequest) : String :=
  s!"idem:result:{request.emailId}:{request.agentId}:{request.agentVersion}"

def lookUpCached (deps : IngestDependencies) (key : String)
    : IngestProgram (Option IngestResultResponse) :=
  if deps.cache.has "get" then IdempotencyCache.get key else .done none

/-- The answer to a request whose key is cached. -/
def answerCached (value : IngestResultResponse) : IngestProgram IngestResultResponse := do
  let deliveryCount := (value.deliveryCount.or value.destinationCount).getD 0
  let queuedDate ←
    match value.timestamp.or value.queuedAt with
    | some date => pure date
    | none => do
        let runtime ← awaitIngest .runtime
        pure runtime.now
  return {
    resultId := value.resultId
    status := "accepted"
    deliveryCount := some deliveryCount
    destinationCount := some deliveryCount
    timestamp := some queuedDate
    queuedAt := some queuedDate
  }

/-- Map to the domain entity; the constructor draws an identifier and reads the clock. -/
def newTaskResult (deps : IngestDependencies) (request : IngestResultRequest)
    : IngestProgram AiTaskResult := do
  let id ← awaitIngest .randomUUID
  let createdAt ← awaitIngest .runtime
  let updatedAt ← awaitIngest .runtime
  .ofResult (ResultMapper.toDomain deps.numberText id createdAt.now updatedAt.now request)

/-- The destinations the service finds, by the first method its repository has. -/
def activeDestinations (deps : IngestDependencies) : IngestProgram (List RoutingTarget) :=
  if deps.destinationRepository.has "findAllActive" then
    awaitIngest .findAllActive
  else if deps.destinationRepository.has "findAll" then
    awaitIngest .findAll
  else
    .done []

/-- The event a destination is matched with. The members of the payload come last, so they
replace the others.
-/
def routingEvent (emailId agentId : String) (confidenceScore : Number)
    (resultPayload : List (String × Json))
    : List (String × Json) :=
  resultPayload
  ++ [
    ("emailId", .string emailId),
    ("agentId", .string agentId),
    ("confidenceScore", .number confidenceScore)
  ]

/-- Whether an event goes to a destination, by the first method the object has. -/
def isRouted (event resultPayload : List (String × Json)) (target : RoutingTarget) : Bool :=
  if target.methods.contains "matches" then
    target.destination.matches event
  else if target.methods.contains "matchesEventFilter" then
    target.destination.matchesEventFilter resultPayload
  else
    true

/-- The destinations a result goes to. -/
def matchedTargets (result : AiTaskResult) (targets : List RoutingTarget)
    : List RoutingTarget :=
  let event :=
    routingEvent result.emailId.value result.agentId.value result.confidenceScore.value
      result.resultPayload
  targets.filter (isRouted event result.resultPayload)

/-- Create a delivery entity for each matched route. -/
def createDeliveries (resultId : String)
    : List RoutingTarget → IngestProgram (List Delivery)
  | [] => return []
  | target :: rest => do
      let uuid ← awaitIngest .randomUUID
      let runtime ← awaitIngest .runtime
      let delivery ←
        .ofResult (Delivery.create runtime uuid.text resultId target.destination.id)
      let deliveries ← createDeliveries resultId rest
      return delivery :: deliveries

def persistResult (deps : IngestDependencies) (result : AiTaskResult)
    : IngestProgram Unit :=
  if deps.resultRepository.has "save" then
    awaitIngest (.saveResult result)
  else if deps.resultRepository.has "createResult" then
    awaitIngest (.createResult (ResultMapper.toDTO result))
  else if deps.resultRepository.has "create" then
    awaitIngest (.createResultRecord (ResultMapper.toDTO result))
  else
    .done ()

def persistDelivery (deps : IngestDependencies) (delivery : Delivery)
    : IngestProgram Unit :=
  if deps.deliveryRepository.has "save" then
    awaitIngest (.saveDelivery delivery)
  else if deps.deliveryRepository.has "create" then
    awaitIngest (.createDelivery (.ofDelivery delivery))
  else
    .done ()

def enqueue (deps : IngestDependencies) (resultId : String) (delivery : Delivery)
    : IngestProgram Unit :=
  if deps.queue.has "enqueueDelivery" then
    awaitIngest (.enqueueDelivery resultId delivery.destinationId 1)
  else if deps.queue.has "add" then
    awaitIngest (.add "deliver-task-result" delivery.id)
  else
    .done ()

/-- Record to the idempotency cache, for 24 hours. -/
def record (deps : IngestDependencies) (key : String) (response : IngestResultResponse)
    : IngestProgram Unit :=
  if deps.cache.has "set" then IdempotencyCache.set key response 24 else .done ()

/-- The response to a request that was ingested now. -/
def accepted (resultId : String) (matched : Nat) (now : Int) : IngestResultResponse where
  resultId := resultId
  status := "accepted"
  deliveryCount := some matched
  destinationCount := some matched
  timestamp := some now
  queuedAt := some now

/-- Database persistence, then the delivery jobs. -/
def persist (deps : IngestDependencies) (result : AiTaskResult)
    (deliveries : List Delivery)
    : IngestProgram Unit := do
  persistResult deps result
  .forEach (persistDelivery deps) deliveries
  .forEach (enqueue deps result.id.text) deliveries

/-- Everything after the cache lookup of a request that is not cached. -/
def accept (deps : IngestDependencies) (request : IngestResultRequest)
    : IngestProgram IngestResultResponse := do
  let taskResult ← newTaskResult deps request
  let destinations ← activeDestinations deps
  let matched := matchedTargets taskResult destinations
  let deliveries ← createDeliveries taskResult.id.text matched
  persist deps taskResult deliveries
  let runtime ← awaitIngest .runtime
  let response := accepted taskResult.id.text matched.length runtime.now
  record deps (idempotencyKey request) response
  return response

/-- The catch block reads `err.message` for its log before it throws the error on. -/
def rethrow : Thrown → IngestProgram IngestResultResponse
  | .nullish => throw (newTypeError "Cannot read properties of undefined (reading 'message')")
  | error => throw error

/-- Checks cache duplicates, persists matching routes, enqueues jobs, and returns the status
details.
-/
def ingest (deps : IngestDependencies) (body : Option RequestBody)
    : IngestProgram IngestResultResponse :=
  Program.catchError
    (do
      let request ← .ofResult (ValidateResultService.validateRequest deps.numberText body)
      let cached ← lookUpCached deps (idempotencyKey request)
      match cached with
      | some value => answerCached value
      | none => accept deps request)
    rethrow

end IngestResultService

end QueueForge.Application
