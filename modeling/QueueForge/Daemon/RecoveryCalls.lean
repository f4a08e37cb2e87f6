import QueueForge.Infrastructure.Database
import QueueForge.Queue.BullQueue

/-! The calls the recovery daemons make: of the delivery table, of the main and the delayed
queue, and of the clock.
-/

namespace QueueForge.Daemon

open QueueForge.Async QueueForge.Js QueueForge.Domain QueueForge.Infrastructure QueueForge.Queue

/-- A delivery as the daemons read it: the whole row, which may be marked deleted. -/
abbrev StoredDelivery : Type := DeliveryRow

/-- The result a delivery is of, and where it goes. -/
def StoredDelivery.pair (delivery : StoredDelivery) : String × String :=
  (delivery.taskResultId, delivery.destinationId)

/-- The delivery table, with its primary key and its unique pair. -/
structure DeliveryTable where
  rows : List StoredDelivery
  keyed : (rows.map (fun row => row.id)).Nodup
  named : ∀ row ∈ rows, row.id ≠ ""
  paired : (rows.map StoredDelivery.pair).Nodup

namespace DeliveryTable

variable (table : DeliveryTable)

def findById (id : String) : Option StoredDelivery :=
  table.rows.find? (fun row => row.id = id)

def findOne (taskResultId destinationId : String) : Option StoredDelivery :=
  table.rows.find? (fun row =>
    row.taskResultId = taskResultId && row.destinationId = destinationId)

def inStatus (status : DeliveryStatus) : List StoredDelivery :=
  table.rows.filter (fun row => row.status = status)

/-- Scheduled retries whose time has come. -/
def overdue (now : Int) : List StoredDelivery :=
  table.rows.filter (fun row =>
    row.status = .scheduledRetry && row.nextRetryAt.any (fun nextRetryAt => nextRetryAt ≤ now))

/-- Store a status. -/
def setStatus (id : String) (status : DeliveryStatus) (now : Int) : DeliveryTable :=
  let change (row : StoredDelivery) : StoredDelivery :=
    if row.id = id then { row with status := status, updatedAt := now } else row
  {
    rows := table.rows.map change
    keyed := by
      have sameId : (fun row => row.id) ∘ change = fun row : StoredDelivery => row.id := by
        funext row
        simp only [Function.comp, change]
        split <;> rfl
      rw [List.map_map, sameId]
      exact table.keyed
    named := by
      intro row member
      obtain ⟨old, stored, rfl⟩ := List.mem_map.mp member
      simp only [change]
      split
      · exact table.named old stored
      · exact table.named old stored
    paired := by
      have samePair : StoredDelivery.pair ∘ change = StoredDelivery.pair := by
        funext row
        simp only [Function.comp, change]
        split <;> rfl
      rw [List.map_map, samePair]
      exact table.paired
  }

end DeliveryTable

/-- The data of a job; `none` stands for a member that is absent. -/
structure DeliveryJobData where
  deliveryId : Option String := none
  taskResultId : Option String := none
  destinationId : Option String := none
  attempt : Option Int := none
deriving DecidableEq, Repr

/-- A job for a delivery names it, or names its result and destination. -/
def StoredDelivery.isJob (delivery : StoredDelivery) (data : DeliveryJobData) : Bool :=
  data.deliveryId = some delivery.id
  || data.taskResultId = some delivery.taskResultId
    && data.destinationId = some delivery.destinationId

inductive QueueName where
  | main
  | delayed
deriving DecidableEq, Repr

inductive DaemonCall where
  | now
  | findPendingDeliveries
  | findScheduledRetryDeliveries
  | findByStatus (status : DeliveryStatus)
  | findMany (status : DeliveryStatus)
  | findOverdue (now : Int)
  | findStaleDeliveries (cutoff : Int)
  | findUpdatedBefore (cutoff : Int)
  | findById (id : String)
  | findOne (taskResultId destinationId : String)
  | updateDeliveryStatus (id : String) (status : DeliveryStatus)
  | add (queue : QueueName) (name : String) (data : DeliveryJobData) (options : AddOptions)
  | getJobs (queue : QueueName)
  | remove (queue : QueueName) (id : JobId)
  | monitorDLQ

abbrev DaemonCall.Result : DaemonCall → Type
  | now => Int
  | findPendingDeliveries => List StoredDelivery
  | findScheduledRetryDeliveries => List StoredDelivery
  | findByStatus _ => List StoredDelivery
  | findMany _ => List StoredDelivery
  | findOverdue _ => List StoredDelivery
  | findStaleDeliveries _ => List StoredDelivery
  | findUpdatedBefore _ => List StoredDelivery
  | findById _ => Option StoredDelivery
  | findOne _ _ => Option StoredDelivery
  | updateDeliveryStatus _ _ => Unit
  | add _ _ _ _ => Unit
  | getJobs _ => List (QueueJob DeliveryJobData)
  | remove _ _ => Unit
  | monitorDLQ => Unit

abbrev DaemonSignature : Signature where
  Op := DaemonCall
  Result := DaemonCall.Result

abbrev DaemonProgram (α : Type) : Type := Program DaemonSignature Thrown α

/-- Await a call of a daemon. -/
def awaitDaemon (call : DaemonCall) : DaemonProgram call.Result :=
  Program.perform (S := DaemonSignature) call

@[simp] theorem run_awaitDaemon {σ : Type} {handler : Handler DaemonSignature Thrown σ}
    {call : DaemonCall} {world : σ}
    : Program.run (α := no_index call.Result) handler (awaitDaemon call) world
      = handler call world :=
  Program.run_perform

structure DaemonWorld where
  table : DeliveryTable
  main : BullQueue DeliveryJobData
  delayed : BullQueue DeliveryJobData

namespace DaemonWorld

def queue (world : DaemonWorld) : QueueName → BullQueue DeliveryJobData
  | .main => world.main
  | .delayed => world.delayed

def setQueue (world : DaemonWorld) (name : QueueName) (queue : BullQueue DeliveryJobData)
    : DaemonWorld :=
  match name with
  | .main => { world with main := queue }
  | .delayed => { world with delayed := queue }

end DaemonWorld

def sampleDelivery (status : DeliveryStatus) (nextRetryAt : Option Int) (updatedAt : Int)
    : StoredDelivery where
  id := "d1"
  taskResultId := "t1"
  destinationId := "w1"
  status := status
  retryCount := 0
  nextRetryAt := nextRetryAt
  lastAttemptAt := none
  lastError := none
  createdAt := 0
  updatedAt := updatedAt

/-- One delivery in the table, and no job in the queues. -/
def oneDelivery (status : DeliveryStatus) (nextRetryAt : Option Int) (updatedAt : Int)
    : DaemonWorld where
  table := {
    rows := [sampleDelivery status nextRetryAt updatedAt]
    keyed := List.nodup_singleton _
    named := by simp [sampleDelivery]
    paired := List.nodup_singleton _
  }
  main := .empty
  delayed := .empty

/-- What is left open: the clock, faults of the database and the queues, and which deliveries
`findStaleDeliveries` reports, of which no repository here has a definition. It reports
deliveries in PROCESSING.
-/
structure DaemonEnvironment where
  clock : DaemonWorld → Int
  fault : DaemonWorld → DaemonCall → Option Thrown
  stale : DeliveryTable → Int → List StoredDelivery
  staleProcessing : ∀ table cutoff, ∀ row ∈ stale table cutoff, row ∈ table.inStatus .processing

/-- No call fails by a fault. -/
def DaemonEnvironment.Working (env : DaemonEnvironment) : Prop :=
  ∀ world call, env.fault world call = none

theorem nothingStale (table : DeliveryTable) (cutoff : Int)
    : ∀ row ∈ ([] : List StoredDelivery), row ∈ table.inStatus .processing := by
  intro row found
  exact absurd found List.not_mem_nil

/-- No faults, a clock that stands still, and nothing reported as stale. -/
def DaemonEnvironment.quiet (now : Int) : DaemonEnvironment where
  clock _ := now
  fault _ _ := none
  stale _ _ := []
  staleProcessing := nothingStale

/-- What a call does without faults. The column `updatedBefore` does not exist, so a query
with it is rejected.
-/
def performDaemon (env : DaemonEnvironment) (world : DaemonWorld)
    : (call : DaemonCall) → Settled Thrown call.Result × DaemonWorld
  | .now => (.ok (env.clock world), world)
  | .findPendingDeliveries => (.ok (world.table.inStatus .pending), world)
  | .findScheduledRetryDeliveries => (.ok (world.table.inStatus .scheduledRetry), world)
  | .findByStatus status => (.ok (world.table.inStatus status), world)
  | .findMany status => (.ok (world.table.inStatus status), world)
  | .findOverdue now => (.ok (world.table.overdue now), world)
  | .findStaleDeliveries cutoff => (.ok (env.stale world.table cutoff), world)
  | .findUpdatedBefore _ => (.error argumentRejected, world)
  | .findById id => (.ok (world.table.findById id), world)
  | .findOne taskResultId destinationId =>
      (.ok (world.table.findOne taskResultId destinationId), world)
  | .updateDeliveryStatus id status =>
      match world.table.findById id with
      | none => (.error recordNotFound, world)
      | some _ =>
          (.ok (), { world with table := world.table.setStatus id status (env.clock world) })
  | .add queue name data options =>
      (.ok (),
        world.setQueue queue ((world.queue queue).add name data options.delay options.jobId))
  | .getJobs queue => (.ok (world.queue queue).jobs, world)
  | .remove queue id => (.ok (), world.setQueue queue ((world.queue queue).remove id))
  | .monitorDLQ => (.ok (), world)

/-- The collaborators of the daemons. -/
def daemonSystem (env : DaemonEnvironment) : Handler DaemonSignature Thrown DaemonWorld :=
  fun call world =>
    match env.fault world call with
    | some error => (.error error, world)
    | none => performDaemon env world call

theorem daemonSystem_of_working {env : DaemonEnvironment} (working : env.Working)
    (call : DaemonCall) (world : DaemonWorld)
    : daemonSystem env call world = performDaemon env world call := by
  simp only [daemonSystem, working world call]

/-- A call is performed, or it fails by a fault and changes nothing. -/
theorem daemonSystem_cases (env : DaemonEnvironment) (call : DaemonCall) (world : DaemonWorld)
    : daemonSystem env call world = performDaemon env world call
      ∨ ¬env.Working ∧ ∃ error, daemonSystem env call world = (.error error, world) := by
  cases fault : env.fault world call with
  | none => exact .inl (by simp only [daemonSystem, fault])
  | some error =>
      refine .inr ⟨fun working => ?_, error, by simp only [daemonSystem, fault]⟩
      rw [working world call] at fault
      contradiction

end QueueForge.Daemon
