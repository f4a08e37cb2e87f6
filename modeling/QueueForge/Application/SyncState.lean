import QueueForge.Daemon.RecoveryCalls
import QueueForge.Domain.DeliveryEntity

/-! `SyncStateService`: pending deliveries of the database are compared with the jobs of the queue,
in both directions. The service takes its repository and its queue as they come, so which methods
they have is part of the configuration.
-/

namespace QueueForge.Application

open QueueForge.Async QueueForge.Js QueueForge.Domain QueueForge.Queue
open QueueForge.Daemon (DeliveryJobData)

structure SyncResult where
  synced : Nat := 0
  errors : Nat := 0
  discrepancies : Nat := 0
deriving DecidableEq

/-- How the repository lists pending deliveries, if it can. -/
inductive PendingLookup where
  | findByStatus
  | findAll
  | neither
deriving DecidableEq

/-- How the queue takes a delivery, if it can. -/
inductive EnqueueMethod where
  | enqueueDelivery
  | add
  | neither
deriving DecidableEq

/-- The methods of the repository and of the queue. -/
structure SyncConfig where
  pending : PendingLookup
  findByTaskResultId : Bool
  getQueueInstance : Bool
  enqueue : EnqueueMethod

inductive SyncCall where
  | findByStatus (status : DeliveryStatus)
  | findAll
  | getJobs
  | enqueueDelivery (taskResultId destinationId : String) (attempt : Int)
  | add (name : String) (data : DeliveryJobData)
  | findByTaskResultId (taskResultId : String)
  | remove (id : JobId)

abbrev SyncCall.Result : SyncCall → Type
  | findByStatus _ => List Delivery
  | findAll => List Delivery
  | getJobs => List (QueueJob DeliveryJobData)
  | enqueueDelivery _ _ _ => Unit
  | add _ _ => Unit
  | findByTaskResultId _ => List Delivery
  | remove _ => Unit

abbrev SyncSignature : Signature where
  Op := SyncCall
  Result := SyncCall.Result

abbrev SyncProgram (α : Type) : Type := Program SyncSignature Thrown α

/-- Await a call of the service. -/
def awaitSync (call : SyncCall) : SyncProgram call.Result :=
  Program.perform (S := SyncSignature) call

@[simp] theorem run_awaitSync {σ : Type} {handler : Handler SyncSignature Thrown σ}
    {call : SyncCall} {world : σ}
    : Program.run (α := no_index call.Result) handler (awaitSync call) world
      = handler call world :=
  Program.run_perform

namespace SyncState

/-- `${j.data?.taskResultId || j.data?.deliveryId}:${j.data?.destinationId || ''}`. -/
def activeJobKey (data : DeliveryJobData) : String :=
  (orString data.taskResultId data.deliveryId).getD "undefined" ++ ":"
    ++ (orString data.destinationId (some "")).getD ""

/-- `${trId}:${destId}`. -/
def deliveryKey (delivery : Delivery) : String :=
  delivery.taskResultId ++ ":" ++ delivery.destinationId

/-- Fetch pending delivery records from database. -/
def dbPending (config : SyncConfig) : SyncProgram (List Delivery) :=
  match config.pending with
  | .findByStatus => awaitSync (.findByStatus .pending)
  | .findAll => do
      let all ← awaitSync .findAll
      return all.filter (fun delivery => delivery.status = .pending)
  | .neither => return []

/-- Enqueue a delivery by the method the queue has. -/
def enqueue (config : SyncConfig) (delivery : Delivery) : SyncProgram Unit :=
  match config.enqueue with
  | .enqueueDelivery =>
      awaitSync (.enqueueDelivery delivery.taskResultId delivery.destinationId
        (delivery.retryCount + 1))
  | .add => awaitSync (.add "deliver-task-result" { deliveryId := some delivery.id })
  | .neither => return ()

/-- Re-enqueue a delivery whose job is missing. -/
def enqueueMissing (config : SyncConfig) (delivery : Delivery) (counts : SyncResult)
    : SyncProgram SyncResult :=
  let counts := { counts with discrepancies := counts.discrepancies + 1 }
  tryCatch
    (do
      enqueue config delivery
      return { counts with synced := counts.synced + 1 })
    (fun _ => return { counts with errors := counts.errors + 1 })

/-- Match database records to active queue jobs. -/
def enqueueEach (config : SyncConfig) (activeJobKeys : List String)
    : List Delivery → SyncResult → SyncProgram SyncResult
  | [], counts => return counts
  | delivery :: rest, counts =>
      if deliveryKey delivery ∈ activeJobKeys then
        enqueueEach config activeJobKeys rest counts
      else do
        let counts ← enqueueMissing config delivery counts
        enqueueEach config activeJobKeys rest counts

/-- The result and the destination a job names, if it names both. -/
def namedPair (data : DeliveryJobData) : Option (String × String) := do
  let trId ← orString data.taskResultId none
  let destId ← orString data.destinationId none
  return (trId, destId)

/-- No record of the list goes to the destination, or the first one that does is in a terminal
state.
-/
def isObsolete (recordList : List Delivery) (destId : String) : Bool :=
  (recordList.find? (fun delivery => delivery.destinationId = destId)).all
    (fun delivery => delivery.status.isFinal)

/-- Remove a job that has no record any more, or one in a terminal state. -/
def removeObsolete (job : QueueJob DeliveryJobData) (pair : String × String) (counts : SyncResult)
    : SyncProgram SyncResult := do
  let recordList ← Program.settle (awaitSync (.findByTaskResultId pair.1))
  match recordList with
  | .error _ => return counts
  | .ok recordList =>
      if isObsolete recordList pair.2 then do
        let removed ← Program.settle (awaitSync (.remove job.id))
        match removed with
        | .error _ => return { counts with discrepancies := counts.discrepancies + 1 }
        | .ok _ =>
            return {
              counts with
              synced := counts.synced + 1
              discrepancies := counts.discrepancies + 1
            }
      else
        return counts

/-- Remove active jobs that no longer exist in DB or are in terminal state. -/
def removeEach (config : SyncConfig)
    : List (QueueJob DeliveryJobData) → SyncResult → SyncProgram SyncResult
  | [], counts => return counts
  | job :: rest, counts =>
      match namedPair job.data with
      | none => removeEach config rest counts
      | some pair =>
          if config.findByTaskResultId then do
            let counts ← removeObsolete job pair counts
            removeEach config rest counts
          else
            removeEach config rest counts

/-- Identifies database records missing in Redis queues and schedules missing dispatches. -/
def sync (config : SyncConfig) : SyncProgram SyncResult := do
  let pending ← dbPending config
  if config.getQueueInstance then do
    let activeJobs ← awaitSync .getJobs
    let activeJobKeys := activeJobs.map (fun job => activeJobKey job.data)
    let counts ← enqueueEach config activeJobKeys pending {}
    removeEach config activeJobs counts
  else
    return {}

end SyncState

-----------------------------------------------------------------------------------------
-- The repository and the queue
-----------------------------------------------------------------------------------------

/-- The result a delivery is of, and where it goes. -/
def deliveryPair (delivery : Delivery) : String × String :=
  (delivery.taskResultId, delivery.destinationId)

/-- The deliveries, of which no two are of one result to one destination, and the queue. -/
structure SyncWorld where
  deliveries : List Delivery
  paired : (deliveries.map deliveryPair).Nodup
  queue : BullQueue DeliveryJobData

/-- Faults of the repository and the queue. -/
abbrev SyncFaults : Type := SyncWorld → SyncCall → Option Thrown

/-- What a call does without a fault. -/
def performSync (world : SyncWorld) : (call : SyncCall) → Settled Thrown call.Result × SyncWorld
  | .findByStatus status =>
      (.ok (world.deliveries.filter (fun delivery => delivery.status = status)), world)
  | .findAll => (.ok world.deliveries, world)
  | .getJobs => (.ok world.queue.jobs, world)
  | .enqueueDelivery taskResultId destinationId attempt =>
      let data : DeliveryJobData := {
        taskResultId := some taskResultId
        destinationId := some destinationId
        attempt := some attempt
      }
      (.ok (),
        { world with queue := world.queue.add (taskResultId ++ ":" ++ destinationId) data })
  | .add name data => (.ok (), { world with queue := world.queue.add name data })
  | .findByTaskResultId taskResultId =>
      (.ok (world.deliveries.filter (fun delivery => delivery.taskResultId = taskResultId)), world)
  | .remove id => (.ok (), { world with queue := world.queue.remove id })

/-- The collaborators of the service. -/
def syncSystem (faults : SyncFaults) : Handler SyncSignature Thrown SyncWorld :=
  fun call world =>
    match faults world call with
    | some error => (.error error, world)
    | none => performSync world call

/-- No call fails. -/
def noSyncFaults : SyncFaults := fun _ _ => none

/-- A call without faults is performed. -/
@[simp] theorem syncSystem_noFaults (call : SyncCall) (world : SyncWorld)
    : syncSystem noSyncFaults call world = performSync world call :=
  rfl

/-- What a sync settles with, and what it leaves. -/
def runSync (config : SyncConfig) (world : SyncWorld) : Settled Thrown SyncResult × SyncWorld :=
  (SyncState.sync config).run (syncSystem noSyncFaults) world

end QueueForge.Application
