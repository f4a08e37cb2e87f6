import QueueForge.Application.IngestStore

/-! The collaborators `DependencyContainer` gives the ingestion service.
A method is found on a repository when its class or `BaseRepository` declares it.
-/

namespace QueueForge.Application

open QueueForge.Async QueueForge.Js QueueForge.Domain

def BaseRepository.methods : List String := [
  "parseTxAndContext", "logAudit", "exists", "findById", "findOne", "count", "findMany",
  "findFirst", "findUnique", "createMany", "updateMany", "deleteMany", "executeQuery",
  "mapDatabaseError"
]

def ResultRepository.methods : List String := [
  "getAll", "getById", "create", "update", "delete", "createResult", "findPendingResults",
  "getResultStats", "findByEmailId", "findByAgentId", "findByDateRange",
  "findWithDeliveries", "getLineage", "countByEmailId", "countByStatus", "deleteOlderThan"
] ++ BaseRepository.methods

def DeliveryRepository.methods : List String := [
  "getAll", "getById", "create", "update", "delete", "createDelivery", "recordAttempt",
  "findByStatus", "findByStatusAndDestination", "findScheduledRetries", "findInDLQ",
  "findByResultId", "findByDestinationId", "updateStatus", "findDeliveryById",
  "findDeliveriesByResultId", "updateDeliveryStatus", "moveToFailed", "moveToDLQ",
  "scheduleRetry", "getDeliveryTimeline", "countByStatus", "getDeliveryStats"
] ++ BaseRepository.methods

def DestinationRepository.methods : List String := [
  "getAll", "getById", "create", "update", "delete", "findDestinationById",
  "createDestination", "findDestinationsByEventFilter", "findByType", "findEnabled",
  "findByTypeAndEnabled", "findMatching", "toggleEnabled",
  "updateCircuitBreakerThreshold", "getDestinationStats", "countByType",
  "validateEndpoint"
] ++ BaseRepository.methods

/-- The methods of a queue the program relies on. -/
def Queue.methods : List String :=
  ["add", "addBulk", "getJob", "getJobs", "getJobCounts", "pause", "resume", "close"]

/-- The collaborators the container passes on. -/
def DependencyContainer.wired (numberText : Number → String) : IngestDependencies where
  resultRepository := some ResultRepository.methods
  deliveryRepository := some DeliveryRepository.methods
  destinationRepository := some DestinationRepository.methods
  queue := some Queue.methods
  cache := some IdempotencyCache.methods
  numberText := numberText

/-! A concrete request in quiet surroundings. -/

namespace Sample

/-- An identifier that tells how many calls went before. -/
def uuid (calls : Nat) : Uuid :=
  ⟨String.ofList ('u' :: List.replicate calls 'x'), by simp⟩

/-- Time passes by a millisecond a call. -/
def environment {ι : Type} (targets : List RoutingTarget) (fault : Option IngestFault)
    : IngestEnvironment ι where
  start := 0
  elapsed _ := 1
  uuid trace := uuid trace.length
  random _ := 0
  fractional _ := 1
  destinations _ := targets
  fault _ := fault

def body (subject : String) : RequestBody where
  emailId := some "user@example.com"
  agentId := some "classifier"
  agentVersion := some "1.0.0"
  resultPayload := some (.object [("subject", .string subject)])
  confidenceScore := some 1
  llmMetadata := none

def request (subject : String) : IngestResultRequest where
  emailId := "user@example.com"
  agentId := "classifier"
  agentVersion := "1.0.0"
  resultPayload := [("subject", .string subject)]
  confidenceScore := 1
  llmMetadata := none

def store : IngestStore where
  redis _ := none
  results := []
  deliveries := []
  jobs := []
  destinations := []

end Sample

end QueueForge.Application
