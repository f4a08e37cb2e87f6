import QueueForge.Async.Execution
import QueueForge.Queue.BullQueue
import QueueForge.Queue.JobSerializer

/-! `QueueManager`: jobs are added to a main, a delayed and a dead-letter queue, looked up in all
three, moved and cancelled. Each job carries the ticket of the call that enqueued it, which no
method reads.
-/

namespace QueueForge.Queue

open QueueForge.Async QueueForge.Js

inductive ManagedQueue where
  | main
  | delayed
  | dlq
deriving DecidableEq, Repr

/-- What is stored with a job: its record, and whose job it is. -/
structure ManagedData where
  ticket : Nat
  record : Option JobRecord

abbrev ManagedJob : Type := QueueJob ManagedData

structure ManagerWorld where
  main : BullQueue ManagedData
  delayed : BullQueue ManagedData
  dlq : BullQueue ManagedData

namespace ManagerWorld

def empty : ManagerWorld :=
  ⟨.empty, .empty, .empty⟩

def queue (world : ManagerWorld) : ManagedQueue → BullQueue ManagedData
  | .main => world.main
  | .delayed => world.delayed
  | .dlq => world.dlq

def setQueue (world : ManagerWorld) (name : ManagedQueue) (queue : BullQueue ManagedData)
    : ManagerWorld :=
  match name with
  | .main => { world with main := queue }
  | .delayed => { world with delayed := queue }
  | .dlq => { world with dlq := queue }

end ManagerWorld

inductive ManagerCall where
  | now
  | fromId (queue : ManagedQueue) (id : String)
  | remove (queue : ManagedQueue) (id : JobId)
  | add (queue : ManagedQueue) (name : Option JobValue) (data : ManagedData)
      (options : AddOptions)

abbrev ManagerCall.Result : ManagerCall → Type
  | now => Int
  | fromId _ _ => Option ManagedJob
  | remove _ _ => Unit
  | add _ _ _ _ => String

abbrev ManagerSignature : Signature where
  Op := ManagerCall
  Result := ManagerCall.Result

abbrev ManagerProgram (α : Type) : Type := Program ManagerSignature Thrown α

/-- Await a call of the manager. -/
def awaitManager (call : ManagerCall) : ManagerProgram call.Result :=
  Program.perform (S := ManagerSignature) call

@[simp] theorem run_awaitManager {σ : Type} {handler : Handler ManagerSignature Thrown σ}
    {call : ManagerCall} {world : σ}
    : Program.run (α := no_index call.Result) handler (awaitManager call) world
      = handler call world :=
  Program.run_perform

/-- A step of a queue that may fail. -/
inductive QueueStep where
  | fromId (queue : ManagedQueue)
  | remove (queue : ManagedQueue)
  | add (queue : ManagedQueue)
deriving DecidableEq, Repr

/-- What is left open: the clock, faults of the queues, and how a queue writes the name of a job
that is not a text.
-/
structure ManagerEnvironment where
  clock : ManagerWorld → Int
  fault : ManagerWorld → QueueStep → Option Thrown
  jobName : Option JobValue → String

/-- A manager whose queues do not fail. -/
def ManagerEnvironment.quiet : ManagerEnvironment where
  clock := fun _ => 0
  fault := fun _ _ => none
  jobName := fun _ => "deliver"

/-- A step that fails has no effect. -/
def guarded {α : Type} (env : ManagerEnvironment) (world : ManagerWorld) (step : QueueStep)
    (performed : α × ManagerWorld)
    : Settled Thrown α × ManagerWorld :=
  match env.fault world step with
  | some error => (.error error, world)
  | none => (.ok performed.1, performed.2)

/-- The queues and the clock. -/
def managerSystem (env : ManagerEnvironment) : Handler ManagerSignature Thrown ManagerWorld
  | .now, world => (.ok (env.clock world), world)
  | .fromId queue id, world =>
      guarded env world (.fromId queue) ((world.queue queue).fromId id, world)
  | .remove queue id, world =>
      guarded env world (.remove queue) ((), world.setQueue queue ((world.queue queue).remove id))
  | .add queue name data options, world =>
      guarded env world (.add queue)
        (((world.queue queue).nextId options.jobId).text,
          world.setQueue queue
            ((world.queue queue).add (env.jobName name) data options.delay options.jobId))

/-- `new InfrastructureError(message, ErrorCode.UNKNOWN_ERROR)`. -/
def infrastructureError (message : String) : Thrown :=
  .error (baseError .infrastructure "UNKNOWN_ERROR" 500 message)

/-- `error instanceof ValidationError`. -/
def isValidationError : Thrown → Bool
  | .error object => object.kind = .validation
  | _ => false

namespace QueueManager

/-- The queues in the order they are searched. -/
def queues : List ManagedQueue := [.main, .delayed, .dlq]

def findIn : List ManagedQueue → String → ManagerProgram (Option (ManagedJob × ManagedQueue))
  | [], _ => pure none
  | queue :: rest, jobId => do
      let job ← awaitManager (.fromId queue jobId)
      match job with
      | some job => pure (some (job, queue))
      | none => findIn rest jobId

/-- Helper to locate a Job instance across the three managed queues. -/
def findJob (jobId : String) : ManagerProgram (Option (ManagedJob × ManagedQueue)) :=
  findIn queues jobId

/-- Validate job data, serialize them and add them to a queue. Any other error than that of the
validation is wrapped.
-/
def enqueue (queue : ManagedQueue) (failure : String) (ticket : Nat) (jobData : JobData)
    (options : AddOptions)
    : ManagerProgram String :=
  tryCatch
    (do
      Program.ofResult (JobSerializer.validateJobData jobData.value)
      let serialized ← Program.ofResult (JobSerializer.serialize jobData)
      awaitManager
        (.add queue (jobData.value.get "deliveryId") ⟨ticket, some serialized⟩ options))
    (fun err =>
      if isValidationError err then
        throw err
      else
        throw (infrastructureError (failure ++ (err.message.getD "undefined"))))

/-- Enqueues a job into the main processing queue. -/
def enqueueJob (ticket : Nat) (jobData : JobData) (options : AddOptions)
    : ManagerProgram String :=
  enqueue .main "Failed to enqueue job: " ticket jobData options

/-- Enqueues a job into the delayed queue scheduled to run after delayMs. -/
def enqueueDelayedJob (ticket : Nat) (jobData : JobData) (delayMs : Number)
    (options : AddOptions)
    : ManagerProgram String :=
  enqueue .delayed "Failed to enqueue delayed job: " ticket jobData
    { options with delay := delayMs }

/-- Retrieves a job by ID. -/
def getJob (jobId : String) : ManagerProgram (Option ManagedJob) := do
  let found ← findJob jobId
  return found.map Prod.fst

def jobNotFound (jobId : String) : Thrown :=
  .error (notFoundError s!"Job not found with id: {jobId}")

/-- Cancels (removes) a job. -/
def cancelJob (jobId : String) : ManagerProgram Unit := do
  let found ← findJob jobId
  match found with
  | none => throw (jobNotFound jobId)
  | some (job, queue) => awaitManager (.remove queue job.id)

/-- Find a job, read its data, remove it, and go on with the data. -/
def moveJob (jobId : String) (next : Nat → JobData → ManagerProgram Unit)
    : ManagerProgram Unit := do
  let found ← findJob jobId
  match found with
  | none => throw (jobNotFound jobId)
  | some (job, queue) => do
      let data ← Program.ofResult (JobSerializer.deserialize job.data.record)
      awaitManager (.remove queue job.id)
      next job.data.ticket data

/-- Moves a job to delayed state with delayMs. -/
def moveToDelayed (jobId : String) (delayMs : Number) : ManagerProgram Unit :=
  moveJob jobId (fun ticket data => do
    let _ ← enqueueDelayedJob ticket data delayMs {}
    pure ())

/-- `{ ...record, [key]: value }`. -/
def assign (record : JobRecord) (key : String) (value : Json) : JobRecord :=
  if record.any (fun member => member.1 = key) then
    record.map (fun member => if member.1 = key then (key, value) else member)
  else
    record ++ [(key, value)]

/-- A record with the reason and the time it came to the dead-letter queue. -/
def annotate (record : JobRecord) (reason : String) (now : Int) : JobRecord :=
  assign (assign record "dlqReason" (.string reason)) "dlqAt" (.string (toISOString now))

/-- Moves a job to DLQ (Dead Letter Queue). -/
def moveToDLQ (jobId reason : String) : ManagerProgram Unit :=
  moveJob jobId (fun ticket data => do
    let serialized ← Program.ofResult (JobSerializer.serialize data)
    let now ← awaitManager .now
    let _ ← awaitManager
      (.add .dlq (data.value.get "deliveryId") ⟨ticket, some (annotate serialized reason now)⟩ {})
    pure ())

end QueueManager

end QueueForge.Queue
