import QueueForge.Daemon.QueueReconstructor
import QueueForge.Daemon.RetryDaemons

/-! What `removeOrphaned` does to the jobs the program enqueues itself. The test for an orphan
reads `deliveryId`, which only the reconstructor writes; for the others it takes the identifier of
the job for that of the delivery.
-/

namespace QueueForge.Daemon

open QueueForge.Async QueueForge.Js QueueForge.Domain QueueForge.Infrastructure QueueForge.Queue
open QueueReconstructor (keeps deliveryIdOf pendingData retryData)

/-- The places of the program that enqueue a delivery. -/
inductive EnqueuePath where
  | bullMQService (taskResultId destinationId : String) (attempt : Int) (delayMs : Number)
  | stateSync (delivery : StoredDelivery)
  | delayedQueueProcessor (delivery : StoredDelivery)
  | pendingDelivery (delivery : StoredDelivery)
  | scheduledRetry (delivery : StoredDelivery) (delayMs : Number)

namespace EnqueuePath

def name : EnqueuePath → String
  | bullMQService taskResultId destinationId _ _ => jobName taskResultId destinationId
  | stateSync delivery => delivery.expectedJobId
  | delayedQueueProcessor delivery => jobName delivery.taskResultId delivery.destinationId
  | pendingDelivery _ => "deliver"
  | scheduledRetry _ _ => "deliver_retry"

def data : EnqueuePath → DeliveryJobData
  | bullMQService taskResultId destinationId attempt _ =>
      pairData taskResultId destinationId attempt
  | stateSync delivery => delivery.retryJobData
  | delayedQueueProcessor delivery => delivery.retryJobData
  | pendingDelivery delivery => pendingData delivery
  | scheduledRetry delivery _ => retryData delivery

def delay : EnqueuePath → Number
  | bullMQService _ _ _ delayMs => delayMs
  | scheduledRetry _ delayMs => delayMs
  | _ => 0

/-- Only the synchronisation chooses the identifier of the job. -/
def jobId : EnqueuePath → Option String
  | stateSync delivery => some delivery.expectedJobId
  | _ => none

def enqueue (path : EnqueuePath) (queue : BullQueue DeliveryJobData) : BullQueue DeliveryJobData :=
  queue.add path.name path.data path.delay path.jobId

end EnqueuePath

/-- The contents of a queue the program enqueues jobs to, some of which are finished. -/
inductive Produced : BullQueue DeliveryJobData → Prop
  | empty : Produced .empty
  | enqueue {queue} (path : EnqueuePath) (before : Produced queue) : Produced (path.enqueue queue)
  | finish {queue} (id : JobId) (before : Produced queue) : Produced (queue.remove id)

/-- A job names its delivery by its identifier alone, or not by it. It has an identifier of its
own in any case.
-/
structure ProducedShape (job : QueueJob DeliveryJobData) : Prop where
  named : job.data.deliveryId = none ∨ job.data.taskResultId = none
  identified : job.id.text ≠ ""

theorem EnqueuePath.shape {path : EnqueuePath} {queue : BullQueue DeliveryJobData}
    {job : QueueJob DeliveryJobData} (data : job.data = path.data)
    (id : job.id = queue.nextId path.jobId)
    : ProducedShape job := by
  constructor
  · rw [data]
    cases path with
    | bullMQService | stateSync | delayedQueueProcessor => exact .inl rfl
    | pendingDelivery | scheduledRetry => exact .inr rfl
  · rw [id]
    cases path with
    | stateSync delivery =>
        simp [BullQueue.nextId, jobId, JobId.text, StoredDelivery.expectedJobId, jobName]
    | _ => simp [BullQueue.nextId, jobId, JobId.text]

/-- Every queued job has the shape of one that was enqueued, by induction on the content. -/
theorem Produced.shape {queue : BullQueue DeliveryJobData} (produced : Produced queue)
    : ∀ job ∈ queue.jobs, ProducedShape job := by
  induction produced with
  | empty => exact fun job member => absurd member List.not_mem_nil
  | enqueue path before ih =>
      intro job member
      rcases BullQueue.mem_add member with old | ⟨data, id⟩
      · exact ih job old
      · exact EnqueuePath.shape data id
  | finish id before ih => exact fun job member => ih job (List.mem_of_mem_filter member)

section
variable {table : DeliveryTable} {delivery : StoredDelivery} {job : QueueJob DeliveryJobData}

/-- A job of a stored delivery is kept if and only if it names the delivery by its identifier, or
its own identifier is that of a stored delivery.
-/
theorem keeps_iff (shape : ProducedShape job) (stored : delivery ∈ table.rows)
    (isJob : delivery.isJob job.data = true)
    : keeps table job = true
      ↔ (job.data.deliveryId = none → (table.findById job.id.text).isSome = true) := by
  have identified := shape.identified
  cases named : job.data.deliveryId with
  | none => simp [keeps, deliveryIdOf, orString, named]
  | some deliveryId =>
      obtain rfl : deliveryId = delivery.id := by
        rcases shape.named with missing | missing
        · rw [named] at missing
          contradiction
        · simpa [StoredDelivery.isJob, named, missing] using isJob
      have present := table.named delivery stored
      have found : (table.findById delivery.id).isSome = true :=
        List.find?_isSome.mpr ⟨delivery, stored, decide_eq_true rfl⟩
      simp [keeps, deliveryIdOf, orString, named, found]

end

/-- The job is one of a stored delivery. -/
def ofStored (table : DeliveryTable) (job : QueueJob DeliveryJobData) : Prop :=
  ∃ delivery ∈ table.rows, delivery.isJob job.data = true

/-- Every job of a stored delivery is still in its queue. -/
def KeepsStored (world after : DaemonWorld) : Prop :=
  ∀ name, ∀ job ∈ (world.queue name).jobs, ofStored world.table job → job ∈ (after.queue name).jobs

/-- A removal keeps the jobs of stored deliveries if every one of them that does not name its
delivery by its identifier has itself the identifier of a stored delivery. Without faults it
keeps them only then.
-/
theorem removeOrphaned_keeps_iff (stale : Bool) (env : DaemonEnvironment) (world : DaemonWorld)
    (produced : Produced world.main)
    : let after :=
        ((QueueReconstructor.removeOrphaned (.wired stale)).run (daemonSystem env) world).2
      let identified :=
        ∀ job ∈ world.main.jobs,
          ofStored world.table job
          → job.data.deliveryId = none
          → (world.table.findById job.id.text).isSome = true
      (identified → KeepsStored world after)
        ∧ (env.Working → KeepsStored world after → identified) := by
  intro after identified
  obtain ⟨removed, final, ran, purged⟩ :=
    QueueReconstructor.run_removeOrphaned env stale world
  have same : after = final := congrArg Prod.snd ran
  rw [same]
  constructor
  · intro identified name job member ofStored
    cases name with
    | main =>
        obtain ⟨delivery, stored, isJob⟩ := ofStored
        have shape := produced.shape job member
        refine purged.kept job member ((keeps_iff shape stored isJob).mpr ?_)
        exact identified job member ⟨delivery, stored, isJob⟩
    | delayed =>
        simp only [DaemonWorld.queue, purged.delayed]
        exact member
  · intro working keepsStored job member ofStored
    have kept := keepsStored .main job member ofStored
    simp only [DaemonWorld.queue, purged.all working] at kept
    obtain ⟨delivery, stored, isJob⟩ := ofStored
    exact (keeps_iff (produced.shape job member) stored isJob).mp (List.mem_filter.mp kept).2

-----------------------------------------------------------------------------------------
-- The daemons enqueue along these paths
-----------------------------------------------------------------------------------------

/-- A call that adds a job along one of the paths, or adds none. -/
def DaemonCall.enqueuesBy : DaemonCall → Prop
  | add _ name data options =>
      ∃ path : EnqueuePath,
        name = path.name ∧ data = path.data ∧ options = ⟨path.delay, path.jobId⟩
  | _ => True

/-- Both queues hold what the program enqueued. -/
def BothProduced (world : DaemonWorld) : Prop :=
  ∀ name, Produced (world.queue name)

theorem BothProduced.setQueue {world : DaemonWorld} (produced : BothProduced world)
    {name : QueueName} {queue : BullQueue DeliveryJobData} (changed : Produced queue)
    : BothProduced (world.setQueue name queue) := by
  intro other
  cases name <;> cases other
  · exact changed
  · exact produced .delayed
  · exact produced .main
  · exact changed

/-- What a call leaves in the queues was enqueued along the paths. -/
theorem enqueuesBy_produces {env : DaemonEnvironment} {call : DaemonCall} {world : DaemonWorld}
    (enqueues : call.enqueuesBy) (produced : BothProduced world)
    : BothProduced (daemonSystem env call world).2 := by
  rcases daemonSystem_cases env call world with performed | ⟨-, error, failed⟩
  · rw [performed]
    cases call with
    | add queue name data options =>
        obtain ⟨path, rfl, rfl, rfl⟩ := enqueues
        exact produced.setQueue (.enqueue path (produced queue))
    | remove queue id => exact produced.setQueue (.finish id (produced queue))
    | updateDeliveryStatus id status =>
        simp only [performDaemon]
        cases world.table.findById id with
        | none => exact produced
        | some stored =>
            intro name
            cases name with
            | main => exact produced .main
            | delayed => exact produced .delayed
    | _ => exact produced
  · rw [failed]
    exact produced

section
variable (deps : RecoveryDependencies)

theorem lookUp_enqueuesBy {present : Bool} {find : DaemonProgram (List StoredDelivery)}
    (finds : find.Awaits DaemonCall.enqueuesBy) (status : DeliveryStatus)
    : (QueueReconstructor.lookUp deps present find status).Awaits DaemonCall.enqueuesBy := by
  unfold QueueReconstructor.lookUp
  split
  · exact finds
  · split
    · exact Program.Awaits.perform trivial
    · split
      · exact Program.Awaits.perform trivial
      · trivial

theorem addEach_enqueuesBy {addJob : QueueName → StoredDelivery → DaemonProgram Unit}
    (adds : ∀ name delivery, (addJob name delivery).Awaits DaemonCall.enqueuesBy)
    (queue : Option QueueName) (deliveries : List StoredDelivery) (count : Nat)
    : (QueueReconstructor.addEach deps queue addJob deliveries count).Awaits
        DaemonCall.enqueuesBy := by
  induction deliveries generalizing count with
  | nil => trivial
  | cons delivery rest ih =>
      unfold QueueReconstructor.addEach
      split
      · exact ih count
      · exact Program.Awaits.bind (adds _ delivery) (fun _ => ih _)

theorem enqueueFound_enqueuesBy {found : DaemonProgram (List StoredDelivery)}
    (finds : found.Awaits DaemonCall.enqueuesBy)
    {addJob : QueueName → StoredDelivery → DaemonProgram Unit}
    (adds : ∀ name delivery, (addJob name delivery).Awaits DaemonCall.enqueuesBy)
    (queue : Option QueueName)
    : (QueueReconstructor.enqueueFound deps found queue addJob).Awaits DaemonCall.enqueuesBy :=
  Program.Awaits.catchError
    (Program.Awaits.bind finds (fun deliveries => addEach_enqueuesBy deps adds queue deliveries 0))
    (fun _ => trivial)

theorem addPending_enqueuesBy (name : QueueName) (delivery : StoredDelivery)
    : (QueueReconstructor.addPending name delivery).Awaits DaemonCall.enqueuesBy :=
  Program.Awaits.perform ⟨.pendingDelivery delivery, rfl, rfl, rfl⟩

theorem addRetry_enqueuesBy (name : QueueName) (delivery : StoredDelivery)
    : (QueueReconstructor.addRetry name delivery).Awaits DaemonCall.enqueuesBy := by
  refine Program.Awaits.bind ?_ (fun delay => ?_)
  · unfold QueueReconstructor.retryDelay
    split
    · exact Program.Awaits.bind (Program.Awaits.perform trivial) (fun _ => trivial)
    · trivial
  · exact Program.Awaits.perform ⟨.scheduledRetry delivery delay, rfl, rfl, rfl⟩

theorem removeEach_enqueuesBy (queue : QueueName) (jobs : List (QueueJob DeliveryJobData))
    (removed : Nat)
    : (QueueReconstructor.removeEach deps queue jobs removed).Awaits DaemonCall.enqueuesBy := by
  induction jobs generalizing removed with
  | nil => trivial
  | cons job rest ih =>
      unfold QueueReconstructor.removeEach
      split
      · exact ih removed
      · refine Program.Awaits.bind ?_ (fun stored => ?_)
        · unfold QueueReconstructor.isStored
          split
          · exact Program.Awaits.bind (Program.Awaits.perform trivial) (fun _ => trivial)
          · trivial
        · split
          · exact ih removed
          · exact Program.Awaits.bind (Program.Awaits.perform trivial) (fun _ => ih _)

theorem reconstruct_enqueuesBy
    : (QueueReconstructor.reconstruct deps).Awaits DaemonCall.enqueuesBy := by
  refine Program.Awaits.bind ?_ (fun pendingCount => ?_)
  · exact enqueueFound_enqueuesBy deps
      (lookUp_enqueuesBy deps (Program.Awaits.perform trivial) .pending) addPending_enqueuesBy _
  · refine Program.Awaits.bind ?_ (fun retriesCount => ?_)
    · exact enqueueFound_enqueuesBy deps
        (lookUp_enqueuesBy deps (Program.Awaits.perform trivial) .scheduledRetry)
        addRetry_enqueuesBy _
    · refine Program.Awaits.bind (Program.Awaits.catchError ?_ (fun _ => trivial))
        (fun _ => trivial)
      split
      · trivial
      · exact Program.Awaits.bind (Program.Awaits.perform trivial)
          (fun jobs => removeEach_enqueuesBy deps _ jobs 0)

end

theorem enqueueEach_enqueuesBy (ids : List String) (deliveries : List StoredDelivery)
    (counts : SyncResult)
    : (StateSync.enqueueEach ids deliveries counts).Awaits DaemonCall.enqueuesBy := by
  induction deliveries generalizing counts with
  | nil => trivial
  | cons delivery rest ih =>
      unfold StateSync.enqueueEach
      split
      · exact ih counts
      · refine Program.Awaits.bind (Program.Awaits.catchError ?_ (fun _ => trivial)) ih
        have adds : (DaemonCall.add .main delivery.expectedJobId delivery.retryJobData
            { jobId := some delivery.expectedJobId }).enqueuesBy :=
          ⟨.stateSync delivery, rfl, rfl, rfl⟩
        exact Program.Awaits.bind (Program.Awaits.perform adds) (fun _ => trivial)

theorem pruneEach_enqueuesBy (jobs : List (QueueJob DeliveryJobData)) (counts : SyncResult)
    : (StateSync.pruneEach jobs counts).Awaits DaemonCall.enqueuesBy := by
  induction jobs generalizing counts with
  | nil => trivial
  | cons job rest ih =>
      unfold StateSync.pruneEach
      split
      · exact ih counts
      · refine Program.Awaits.bind (Program.Awaits.catchError ?_ (fun _ => trivial)) ih
        refine Program.Awaits.bind (Program.Awaits.perform trivial) (fun delivery => ?_)
        split
        · exact Program.Awaits.bind (Program.Awaits.perform trivial) (fun _ => trivial)
        · trivial

theorem reconcile_enqueuesBy : StateSync.reconcile.Awaits DaemonCall.enqueuesBy := by
  refine Program.Awaits.catchError ?_ (fun _ => trivial)
  refine Program.Awaits.bind (Program.Awaits.perform trivial) (fun pendingDeliveries => ?_)
  refine Program.Awaits.bind (Program.Awaits.perform trivial) (fun queueJobs => ?_)
  exact Program.Awaits.bind (enqueueEach_enqueuesBy _ pendingDeliveries {})
    (pruneEach_enqueuesBy queueJobs)

theorem dispatch_enqueuesBy (delivery : StoredDelivery)
    : (DelayedQueueProcessor.dispatch delivery).Awaits DaemonCall.enqueuesBy :=
  Program.Awaits.bind (Program.Awaits.perform trivial)
    (fun _ => Program.Awaits.perform ⟨.delayedQueueProcessor delivery, rfl, rfl, rfl⟩)

theorem dispatchEach_enqueuesBy (deliveries : List StoredDelivery)
    : (Program.forEach DelayedQueueProcessor.dispatch deliveries).Awaits
        DaemonCall.enqueuesBy := by
  induction deliveries with
  | nil => trivial
  | cons delivery rest ih => exact Program.Awaits.bind (dispatch_enqueuesBy delivery) (fun _ => ih)

theorem processOverdue_enqueuesBy
    : DelayedQueueProcessor.processOverdue.Awaits DaemonCall.enqueuesBy := by
  refine Program.Awaits.catchError ?_ (fun _ => trivial)
  refine Program.Awaits.bind (Program.Awaits.perform trivial) (fun now => ?_)
  refine Program.Awaits.bind (Program.Awaits.perform trivial) (fun overdueDeliveries => ?_)
  refine Program.Awaits.catchError ?_ (fun _ => trivial)
  exact Program.Awaits.bind (dispatchEach_enqueuesBy overdueDeliveries) (fun _ => trivial)

/-- Whatever the daemons run, and whatever fails, what the queues hold was enqueued along the
paths.
-/
theorem daemons_produce {env : DaemonEnvironment} {world : DaemonWorld}
    (produced : BothProduced world)
    : (∀ deps,
        BothProduced
          ((QueueReconstructor.reconstruct deps).run (daemonSystem env) world).2)
      ∧ BothProduced (StateSync.reconcile.run (daemonSystem env) world).2
      ∧ BothProduced (DelayedQueueProcessor.processOverdue.run (daemonSystem env) world).2 := by
  have keeps (call : DaemonCall) (world : DaemonWorld) (enqueues : call.enqueuesBy)
      (produced : BothProduced world)
      : BothProduced (daemonSystem env call world).2 :=
    enqueuesBy_produces enqueues produced
  exact ⟨fun deps => (reconstruct_enqueuesBy deps).run keeps produced,
    reconcile_enqueuesBy.run keeps produced, processOverdue_enqueuesBy.run keeps produced⟩

-----------------------------------------------------------------------------------------
-- A removal where it goes right and where it goes wrong
-----------------------------------------------------------------------------------------

/-- A pending delivery whose job was enqueued along a path. -/
def enqueuedBy (path : EnqueuePath) : DaemonWorld :=
  { oneDelivery .pending none 0 with main := path.enqueue .empty }

theorem enqueuedBy_produced (path : EnqueuePath) : Produced (enqueuedBy path).main :=
  .enqueue path .empty

theorem removeOrphaned_keeps_reconstructed
    : KeepsStored (enqueuedBy (.pendingDelivery (sampleDelivery .pending none 0)))
        ((QueueReconstructor.removeOrphaned (.wired false)).run (daemonSystem (.quiet 0))
          (enqueuedBy (.pendingDelivery (sampleDelivery .pending none 0)))).2 := by
  refine (removeOrphaned_keeps_iff false (.quiet 0)
    (enqueuedBy (.pendingDelivery (sampleDelivery .pending none 0))) (enqueuedBy_produced _)).1 ?_
  intro job member _ unnamed
  rw [List.mem_singleton.mp member] at unnamed
  exact nomatch unnamed

/-- The job `BullMQService` enqueued for a stored delivery is removed as orphaned. -/
theorem service_job_removed
    : Produced (enqueuedBy (.bullMQService "t1" "w1" 1 0)).main
      ∧ ¬KeepsStored (enqueuedBy (.bullMQService "t1" "w1" 1 0))
          ((QueueReconstructor.removeOrphaned (.wired false)).run (daemonSystem (.quiet 0))
            (enqueuedBy (.bullMQService "t1" "w1" 1 0))).2 := by
  refine ⟨enqueuedBy_produced _, fun kept => ?_⟩
  have queued := kept .main _ (List.mem_singleton.mpr rfl) ⟨_, List.mem_singleton.mpr rfl, by decide⟩
  revert queued
  decide +kernel

end QueueForge.Daemon
