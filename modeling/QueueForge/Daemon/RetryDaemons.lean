import QueueForge.Async.Execution
import QueueForge.Daemon.RecoveryCalls
import QueueForge.Js.Text

/-! The daemons that put jobs of stored deliveries in the main queue: `StateSyncDaemon` enqueues
pending deliveries it does not find in the queue, `DelayedQueueProcessor` makes overdue retries
pending and enqueues them.
-/

namespace QueueForge.Daemon

open QueueForge.Async QueueForge.Js QueueForge.Domain QueueForge.Infrastructure QueueForge.Queue

/-- The name of a job for a result and a destination. -/
def jobName (taskResultId destinationId : String) : String :=
  taskResultId ++ ":" ++ destinationId

/-- The data of a job that names its result and destination. -/
def pairData (taskResultId destinationId : String) (attempt : Int) : DeliveryJobData where
  taskResultId := some taskResultId
  destinationId := some destinationId
  attempt := some attempt

namespace StoredDelivery

/-- `${delivery.taskResultId}:${delivery.destinationId}`. -/
def expectedJobId (delivery : StoredDelivery) : String :=
  jobName delivery.taskResultId delivery.destinationId

/-- The data both daemons enqueue a delivery with. -/
def retryJobData (delivery : StoredDelivery) : DeliveryJobData :=
  pairData delivery.taskResultId delivery.destinationId delivery.retryCount

end StoredDelivery

structure SyncResult where
  synced : Nat := 0
  errors : Nat := 0
deriving DecidableEq

namespace StateSync

/-- The identifiers of the jobs that were read from the queue. -/
def queueJobIds (queueJobs : List (QueueJob DeliveryJobData)) : List String :=
  (queueJobs.map (fun job => job.id.text)).filter (fun text => text ≠ "")

/-- Enqueue one delivery under its expected identifier. -/
def enqueueMissing (delivery : StoredDelivery) (counts : SyncResult) : DaemonProgram SyncResult :=
  tryCatch
    (do
      awaitDaemon (.add .main delivery.expectedJobId delivery.retryJobData
        { jobId := some delivery.expectedJobId })
      pure { counts with synced := counts.synced + 1 })
    (fun _ => pure { counts with errors := counts.errors + 1 })

/-- Scan for pending items missing in the main queue. -/
def enqueueEach (ids : List String)
    : List StoredDelivery → SyncResult → DaemonProgram SyncResult
  | [], counts => pure counts
  | delivery :: rest, counts =>
      if delivery.expectedJobId ∈ ids then
        enqueueEach ids rest counts
      else do
        let counts ← enqueueMissing delivery counts
        enqueueEach ids rest counts

/-- The first two parts of a job identifier, if neither is missing or empty. -/
def pairOfId (text : String) : Option (String × String) :=
  match (text.toList.splitOn ':').map String.ofList with
  | taskResultId :: destinationId :: _ =>
      if taskResultId = "" || destinationId = "" then none else some (taskResultId, destinationId)
  | _ => none

/-- Remove one job if its delivery is missing or marked deleted. -/
def pruneJob (job : QueueJob DeliveryJobData) (pair : String × String) (counts : SyncResult)
    : DaemonProgram SyncResult :=
  tryCatch
    (do
      let delivery ← awaitDaemon (.findOne pair.1 pair.2)
      if delivery.all (fun delivery => delivery.deletedAt.isSome) then
        awaitDaemon (.remove .main job.id)
        pure { counts with synced := counts.synced + 1 }
      else
        pure counts)
    (fun _ => pure { counts with errors := counts.errors + 1 })

/-- Scan for queue jobs referencing non-existent or soft-deleted deliveries. -/
def pruneEach : List (QueueJob DeliveryJobData) → SyncResult → DaemonProgram SyncResult
  | [], counts => pure counts
  | job :: rest, counts =>
      match pairOfId job.id.text with
      | none => pruneEach rest counts
      | some pair => do
          let counts ← pruneJob job pair counts
          pruneEach rest counts

/-- A cycle of `sync`. A failed read ends it with one error. -/
def reconcile : DaemonProgram SyncResult :=
  tryCatch
    (do
      let pendingDeliveries ← awaitDaemon (.findMany .pending)
      let queueJobs ← awaitDaemon (.getJobs .main)
      let counts ← enqueueEach (queueJobIds queueJobs) pendingDeliveries {}
      pruneEach queueJobs counts)
    (fun _ => pure { errors := 1 })

end StateSync

namespace DelayedQueueProcessor

/-- Move a delivery back to PENDING, and enqueue it under an identifier the queue chooses. -/
def dispatch (delivery : StoredDelivery) : DaemonProgram Unit := do
  awaitDaemon (.updateDeliveryStatus delivery.id .pending)
  awaitDaemon (.add .main (jobName delivery.taskResultId delivery.destinationId)
    delivery.retryJobData {})

/-- The body of `processScheduledRetries`. An exception ends the loop; the number of deliveries
that were found is returned all the same.
-/
def processOverdue : DaemonProgram Nat :=
  tryCatch
    (do
      let now ← awaitDaemon .now
      let overdueDeliveries ← awaitDaemon (.findOverdue now)
      tryCatch
        (do
          Program.forEach dispatch overdueDeliveries
          pure overdueDeliveries.length)
        (fun _ => pure overdueDeliveries.length))
    (fun _ => pure 0)

end DelayedQueueProcessor

/-- The two daemons with what they share, and the flags that keep a run from overlapping another
of the same daemon.
-/
structure RetryDaemons where
  world : DaemonWorld
  syncing : Bool := false
  processing : Bool := false

namespace RetryDaemons

variable (env : DaemonEnvironment) (daemons : RetryDaemons)

/-- Reconciles discrepancies between the database status records and the queue. -/
def sync : Settled Thrown SyncResult × RetryDaemons :=
  if daemons.syncing then
    (.ok {}, daemons)
  else
    let ran := StateSync.reconcile.run (daemonSystem env) daemons.world
    (ran.1, { daemons with world := ran.2 })

/-- Fetches overdue retry jobs, marks them PENDING, and enqueues to main queue. A tracer without
spans makes `span.end()` throw before the flag is cleared.
-/
def processScheduledRetries (spans : Bool) : Settled Thrown Nat × RetryDaemons :=
  if daemons.processing then
    (.ok 0, daemons)
  else
    let ran := DelayedQueueProcessor.processOverdue.run (daemonSystem env) daemons.world
    if spans then
      (ran.1, { daemons with world := ran.2 })
    else
      (.error (newTypeError "Cannot read properties of null (reading 'end')"),
        { daemons with world := ran.2, processing := true })

end RetryDaemons

end QueueForge.Daemon
