import QueueForge.Daemon.RetryDaemons

/-! Runs of the two daemons in any order. They keep one job per delivery as long as no run finds a
delivery it is about to enqueue in the queue already, under an identifier it does not look for.
-/

namespace QueueForge.Daemon

open QueueForge.Async QueueForge.Js QueueForge.Domain QueueForge.Infrastructure QueueForge.Queue

/-- What identifies a delivery and its jobs. -/
def StoredDelivery.key (delivery : StoredDelivery) : String × String × String :=
  (delivery.id, delivery.pair)

/-- The keys of a table, which no daemon changes. -/
def DeliveryTable.keys (table : DeliveryTable) : List (String × String × String) :=
  table.rows.map StoredDelivery.key

/-- How many jobs a queue holds for a delivery. -/
def jobsIn (queue : BullQueue DeliveryJobData) (delivery : StoredDelivery) : Nat :=
  queue.contents.countP delivery.isJob

/-- The queue holds at most one job for every delivery. -/
def OneJobQueued (world : DaemonWorld) : Prop :=
  ∀ delivery ∈ world.table.rows, jobsIn world.main delivery ≤ 1

-----------------------------------------------------------------------------------------
-- Jobs and keys
-----------------------------------------------------------------------------------------

section
variable {delivery other : StoredDelivery} {queue : BullQueue DeliveryJobData}

theorem isJob_retryJobData
    : delivery.isJob other.retryJobData = decide (other.pair = delivery.pair) := by
  simp [StoredDelivery.isJob, StoredDelivery.retryJobData, pairData, StoredDelivery.pair]

/-- The jobs of a delivery are told by its key. -/
theorem jobsIn_congr (same : delivery.key = other.key)
    : jobsIn queue delivery = jobsIn queue other := by
  obtain ⟨sameId, samePair⟩ := Prod.mk.inj same
  obtain ⟨sameResult, sameDestination⟩ := Prod.mk.inj samePair
  have sameJobs : delivery.isJob = other.isJob := by
    funext data
    simp only [StoredDelivery.isJob, sameId, sameResult, sameDestination]
  rw [jobsIn, jobsIn, sameJobs]

/-- A job that is added is one for the deliveries with its pair. -/
theorem jobsIn_add_le {name : String} {delay : Number} {jobId : Option String}
    : jobsIn (queue.add name other.retryJobData delay jobId) delivery
      ≤ jobsIn queue delivery + if other.pair = delivery.pair then 1 else 0 := by
  rcases queue.contents_add name other.retryJobData delay jobId with same | added
  · rw [jobsIn, same]
    exact Nat.le_add_right _ _
  · rw [jobsIn, added, List.countP_append, List.countP_singleton, isJob_retryJobData]
    simp only [decide_eq_true_eq]
    exact Nat.le_refl _

theorem jobsIn_remove_le {id : JobId} : jobsIn (queue.remove id) delivery ≤ jobsIn queue delivery :=
  (List.filter_sublist.map QueueJob.data).countP_le

theorem keys_setStatus (table : DeliveryTable) (id : String) (status : DeliveryStatus) (now : Int)
    : (table.setStatus id status now).keys = table.keys := by
  simp only [DeliveryTable.keys, DeliveryTable.setStatus, List.map_map]
  refine List.map_congr_left (fun row _ => ?_)
  simp only [Function.comp]
  split <;> rfl

/-- A pair belongs to one key. -/
theorem key_eq_of_pair_eq {table : DeliveryTable} (stored : delivery.key ∈ table.keys)
    (otherStored : other.key ∈ table.keys) (same : delivery.pair = other.pair)
    : delivery.key = other.key := by
  obtain ⟨row, member, sameKey⟩ := List.mem_map.mp stored
  obtain ⟨otherRow, otherMember, otherSameKey⟩ := List.mem_map.mp otherStored
  have samePair : row.pair = otherRow.pair :=
    (congrArg Prod.snd sameKey).trans (same.trans (congrArg Prod.snd otherSameKey).symm)
  rw [← sameKey, ← otherSameKey,
    List.inj_on_of_nodup_map table.paired member otherMember samePair]

end

/-- With the same keys and no more jobs, there is still at most one job for every delivery. -/
theorem OneJobQueued.mono {world after : DaemonWorld} (single : OneJobQueued world)
    (sameKeys : after.table.keys = world.table.keys)
    (fewer : ∀ delivery, jobsIn after.main delivery ≤ jobsIn world.main delivery)
    : OneJobQueued after := by
  intro delivery stored
  have found : delivery.key ∈ world.table.keys := sameKeys ▸ List.mem_map_of_mem stored
  obtain ⟨old, member, same⟩ := List.mem_map.mp found
  calc jobsIn after.main delivery
      ≤ jobsIn world.main delivery := fewer delivery
    _ = jobsIn world.main old := jobsIn_congr same.symm
    _ ≤ 1 := single old member

-----------------------------------------------------------------------------------------
-- Deliveries that are still to be enqueued
-----------------------------------------------------------------------------------------

/-- There is at most one job for every delivery, and none for those that are still to be
enqueued, which are stored and have different pairs. Those whose identifier was in the queue are
passed over.
-/
structure Frontier (ids : List String) (world : DaemonWorld) (rest : List StoredDelivery) : Prop
    where
  single : OneJobQueued world
  apart : (rest.map StoredDelivery.pair).Nodup
  stored : ∀ delivery ∈ rest, delivery.key ∈ world.table.keys
  clear : ∀ delivery ∈ rest, delivery.expectedJobId ∉ ids → jobsIn world.main delivery = 0

namespace Frontier

variable {ids : List String} {world after : DaemonWorld} {delivery : StoredDelivery}
  {rest : List StoredDelivery}

theorem skip (frontier : Frontier ids world (delivery :: rest)) : Frontier ids world rest where
  single := frontier.single
  apart := (List.nodup_cons.mp frontier.apart).2
  stored other member := frontier.stored other (List.mem_cons_of_mem _ member)
  clear other member := frontier.clear other (List.mem_cons_of_mem _ member)

/-- A job was added for the first delivery. -/
theorem enqueue (frontier : Frontier ids world (delivery :: rest))
    (missing : delivery.expectedJobId ∉ ids)
    (sameKeys : after.table.keys = world.table.keys)
    (added
      : ∀ other,
          jobsIn after.main other
            ≤ jobsIn world.main other + if delivery.pair = other.pair then 1 else 0)
    : Frontier ids after rest where
  single := by
    intro row stored
    have found : row.key ∈ world.table.keys := sameKeys ▸ List.mem_map_of_mem stored
    by_cases same : delivery.pair = row.pair
    · have sameKey : delivery.key = row.key :=
        key_eq_of_pair_eq (frontier.stored delivery List.mem_cons_self) found same
      calc jobsIn after.main row
          ≤ jobsIn world.main row + 1 := by simpa only [if_pos same] using added row
        _ = jobsIn world.main delivery + 1 := by rw [jobsIn_congr sameKey]
        _ = 1 := by rw [frontier.clear delivery List.mem_cons_self missing]
    · obtain ⟨old, member, sameKey⟩ := List.mem_map.mp found
      calc jobsIn after.main row
          ≤ jobsIn world.main row := by simpa only [if_neg same, Nat.add_zero] using added row
        _ = jobsIn world.main old := jobsIn_congr sameKey.symm
        _ ≤ 1 := frontier.single old member
  apart := (List.nodup_cons.mp frontier.apart).2
  stored other member := sameKeys ▸ frontier.stored other (List.mem_cons_of_mem _ member)
  clear other member passed := by
    have most := added other
    have different : delivery.pair ≠ other.pair :=
      fun same => (List.nodup_cons.mp frontier.apart).1 (same ▸ List.mem_map_of_mem member)
    rw [if_neg different, frontier.clear other (List.mem_cons_of_mem _ member) passed] at most
    exact Nat.le_zero.mp most

end Frontier

-----------------------------------------------------------------------------------------
-- One run of each daemon
-----------------------------------------------------------------------------------------

section
variable (env : DaemonEnvironment) {world : DaemonWorld} {ids : List String}

/-- A delivery that is missing from the queue is enqueued, or an addition fails. -/
theorem run_enqueueMissing {delivery : StoredDelivery} {rest : List StoredDelivery}
    (frontier : Frontier ids world (delivery :: rest)) (missing : delivery.expectedJobId ∉ ids)
    (counts : SyncResult)
    : ∃ counted after,
        (StateSync.enqueueMissing delivery counts).run (daemonSystem env) world
          = (.ok counted, after)
        ∧ Frontier ids after rest := by
  simp only [StateSync.enqueueMissing, Program.tryCatch_eq, Program.run_catchError,
    Program.bind_eq, Program.run_bind, run_awaitDaemon]
  let call : DaemonCall := .add .main delivery.expectedJobId delivery.retryJobData
    { jobId := some delivery.expectedJobId }
  rcases daemonSystem_cases env call world with added | ⟨-, error, failed⟩
  · rw [added]
    exact ⟨_, _, rfl, frontier.enqueue missing rfl (fun other => jobsIn_add_le)⟩
  · rw [failed]
    exact ⟨_, world, rfl, frontier.skip⟩

/-- Enqueueing what is missing, by induction on the pending deliveries. -/
theorem run_enqueueEach {rest : List StoredDelivery} (frontier : Frontier ids world rest)
    (counts : SyncResult)
    : ∃ counted after,
        (StateSync.enqueueEach ids rest counts).run (daemonSystem env) world = (.ok counted, after)
        ∧ OneJobQueued after := by
  induction rest generalizing world counts with
  | nil => exact ⟨counts, world, rfl, frontier.single⟩
  | cons delivery rest ih =>
      unfold StateSync.enqueueEach
      by_cases present : delivery.expectedJobId ∈ ids
      · simp only [if_pos present]
        exact ih frontier.skip counts
      · obtain ⟨counted, middle, enqueued, next⟩ :=
          run_enqueueMissing env frontier present counts
        simp only [if_neg present, Program.bind_eq, Program.run_bind, enqueued]
        exact ih next counted

/-- A call that reads the table or takes a job out of the main queue. -/
def DaemonCall.prunes : DaemonCall → Prop
  | findOne _ _ => True
  | remove .main _ => True
  | _ => False

theorem pruneEach_prunes (jobs : List (QueueJob DeliveryJobData)) (counts : SyncResult)
    : (StateSync.pruneEach jobs counts).Awaits DaemonCall.prunes := by
  induction jobs generalizing counts with
  | nil => trivial
  | cons job rest ih =>
      unfold StateSync.pruneEach
      cases StateSync.pairOfId job.id.text with
      | none => exact ih counts
      | some pair =>
          refine Program.Awaits.bind (Program.Awaits.catchError ?_ (fun _ => trivial)) ih
          refine Program.Awaits.bind (Program.Awaits.perform trivial) (fun delivery => ?_)
          split
          · exact Program.Awaits.bind (Program.Awaits.perform trivial) (fun _ => trivial)
          · trivial

/-- Pruning keeps at most one job for every delivery. -/
theorem prunes_single {call : DaemonCall} (prunes : call.prunes) (single : OneJobQueued world)
    : OneJobQueued (daemonSystem env call world).2 := by
  rcases daemonSystem_cases env call world with performed | ⟨-, error, failed⟩
  · rw [performed]
    cases call with
    | findOne => exact single
    | remove queue id =>
        cases queue with
        | main => exact single.mono rfl (fun delivery => jobsIn_remove_le)
        | delayed => exact nomatch prunes
    | _ => exact nomatch prunes
  · rw [failed]
    exact single

/-- A run of `sync`, whatever fails. -/
theorem run_reconcile (single : OneJobQueued world)
    (expected
      : ∀ delivery ∈ world.table.inStatus .pending,
          delivery.expectedJobId ∉ StateSync.queueJobIds world.main.jobs
          → jobsIn world.main delivery = 0)
    : OneJobQueued (StateSync.reconcile.run (daemonSystem env) world).2 := by
  have frontier
      : Frontier (StateSync.queueJobIds world.main.jobs) world (world.table.inStatus .pending) := by
    refine ⟨single, ?_, ?_, expected⟩
    · exact (List.filter_sublist.map _).nodup world.table.paired
    · exact fun delivery member => List.mem_map_of_mem (List.mem_of_mem_filter member)
  simp only [StateSync.reconcile, Program.tryCatch_eq, Program.run_catchError, Program.bind_eq,
    Program.run_bind, run_awaitDaemon]
  rcases daemonSystem_cases env (.findMany .pending) world with found | ⟨-, error, failed⟩
  · rcases daemonSystem_cases env (.getJobs .main) world with read | ⟨-, error, failed⟩
    · obtain ⟨counted, middle, enqueued, kept⟩ :=
        run_enqueueEach env frontier {}
      have pruned
          : OneJobQueued
              ((StateSync.pruneEach world.main.jobs counted).run (daemonSystem env) middle).2 :=
        (pruneEach_prunes world.main.jobs counted).run
          (fun _ _ prunes single => prunes_single env prunes single) kept
      simp only [found, performDaemon, read, DaemonWorld.queue, enqueued]
      revert pruned
      cases (StateSync.pruneEach world.main.jobs counted).run (daemonSystem env) middle with
      | mk outcome after => cases outcome <;> exact id
    · simp only [found, performDaemon, failed]
      exact single
  · simp only [failed]
    exact single

/-- A delivery is marked and enqueued, or a call fails on the way. -/
theorem run_dispatch {delivery : StoredDelivery} {rest : List StoredDelivery}
    (frontier : Frontier [] world (delivery :: rest))
    : ∃ after,
        (DelayedQueueProcessor.dispatch delivery).run (daemonSystem env) world = (.ok (), after)
          ∧ Frontier [] after rest
        ∨ ∃ error,
            (DelayedQueueProcessor.dispatch delivery).run (daemonSystem env) world
              = (.error error, after)
            ∧ OneJobQueued after := by
  let add : DaemonCall := .add .main (jobName delivery.taskResultId delivery.destinationId)
    delivery.retryJobData {}
  simp only [DelayedQueueProcessor.dispatch, Program.bind_eq, Program.run_bind, run_awaitDaemon]
  rcases daemonSystem_cases env (.updateDeliveryStatus delivery.id .pending) world
    with updated | ⟨-, error, failed⟩
  · rw [updated]
    simp only [performDaemon]
    cases world.table.findById delivery.id with
    | none => exact ⟨world, .inr ⟨_, rfl, frontier.single⟩⟩
    | some stored =>
        let marked : DaemonWorld :=
          { world with table := world.table.setStatus delivery.id .pending (env.clock world) }
        have sameKeys : marked.table.keys = world.table.keys := keys_setStatus _ _ _ _
        rcases daemonSystem_cases env add marked with added | ⟨-, error, failed⟩
        · exact ⟨_, .inl ⟨added,
            frontier.enqueue List.not_mem_nil sameKeys (fun other => jobsIn_add_le)⟩⟩
        · exact ⟨marked, .inr ⟨error, failed,
            frontier.single.mono sameKeys (fun _ => Nat.le_refl _)⟩⟩
  · exact ⟨world, .inr ⟨error, by rw [failed], frontier.single⟩⟩

/-- Overdue deliveries one after the other, by induction on them. -/
theorem run_dispatchEach {rest : List StoredDelivery} (frontier : Frontier [] world rest)
    : OneJobQueued
        ((Program.forEach DelayedQueueProcessor.dispatch rest).run (daemonSystem env) world).2 := by
  induction rest generalizing world with
  | nil => exact frontier.single
  | cons delivery rest ih =>
      rw [Program.forEach, Program.run_bind]
      obtain ⟨after, ⟨dispatched, next⟩ | ⟨error, failed, single⟩⟩ :=
        run_dispatch env frontier
      · rw [dispatched]
        exact ih next
      · rw [failed]
        exact single

/-- A run of `processScheduledRetries`, whatever fails. -/
theorem run_processOverdue (single : OneJobQueued world)
    (absent
      : ∀ delivery ∈ world.table.overdue (env.clock world), jobsIn world.main delivery = 0)
    : OneJobQueued
        (DelayedQueueProcessor.processOverdue.run (daemonSystem env) world).2 := by
  have frontier : Frontier [] world (world.table.overdue (env.clock world)) := by
    refine ⟨single, ?_, ?_, fun delivery member _ => absent delivery member⟩
    · exact (List.filter_sublist.map _).nodup world.table.paired
    · exact fun delivery member => List.mem_map_of_mem (List.mem_of_mem_filter member)
  have dispatched := run_dispatchEach env frontier
  simp only [DelayedQueueProcessor.processOverdue, Program.tryCatch_eq, Program.run_catchError,
    Program.bind_eq, Program.run_bind, run_awaitDaemon]
  rcases daemonSystem_cases env .now world with read | ⟨-, error, failed⟩
  · rcases daemonSystem_cases env (.findOverdue (env.clock world)) world
      with found | ⟨-, error, failed⟩
    · simp only [read, performDaemon, found]
      revert dispatched
      generalize (Program.forEach DelayedQueueProcessor.dispatch
        (world.table.overdue (env.clock world))).run (daemonSystem env) world = ran
      obtain ⟨outcome, after⟩ := ran
      cases outcome <;> exact id
    · simp only [read, performDaemon, failed]
      exact single
  · simp only [failed]
    exact single

end

-----------------------------------------------------------------------------------------
-- Runs in any order
-----------------------------------------------------------------------------------------

/-- One run of a daemon, with the faults and the clock it meets. -/
inductive RetryRun where
  | sync (env : DaemonEnvironment)
  | processScheduledRetries (env : DaemonEnvironment) (spans : Bool)

namespace RetryRun

def after : RetryRun → RetryDaemons → RetryDaemons
  | sync env, daemons => (daemons.sync env).2
  | processScheduledRetries env spans, daemons => (daemons.processScheduledRetries env spans).2

/-- A run that is not skipped finds no job where it is about to add one: of a pending delivery
whose expected identifier is not in the queue, or of an overdue retry.
-/
def Unqueued : RetryRun → RetryDaemons → Prop
  | sync _, ⟨world, syncing, _⟩ =>
      syncing = false
      → ∀ delivery ∈ world.table.inStatus .pending,
          delivery.expectedJobId ∉ StateSync.queueJobIds world.main.jobs
          → jobsIn world.main delivery = 0
  | processScheduledRetries env _, ⟨world, _, processing⟩ =>
      processing = false
      → ∀ delivery ∈ world.table.overdue (env.clock world), jobsIn world.main delivery = 0

/-- One run keeps at most one job for every delivery. -/
theorem after_single {run : RetryRun} {daemons : RetryDaemons} (single : OneJobQueued daemons.world)
    (unqueued : run.Unqueued daemons)
    : OneJobQueued (run.after daemons).world := by
  obtain ⟨world, syncing, processing⟩ := daemons
  cases run with
  | sync env =>
      cases syncing with
      | true => exact single
      | false => exact run_reconcile env single (unqueued rfl)
  | processScheduledRetries env spans =>
      cases processing with
      | true => exact single
      | false =>
          have kept := run_processOverdue env single (unqueued rfl)
          cases spans <;> exact kept

end RetryRun

/-- The daemons after some runs, one after the other. -/
def afterRetryRuns (runs : List RetryRun) (start : RetryDaemons) : RetryDaemons :=
  runs.foldl (fun daemons run => run.after daemons) start

/-- Every run finds no job where it is about to add one. -/
def AllUnqueued : List RetryRun → RetryDaemons → Prop
  | [], _ => True
  | run :: rest, daemons => run.Unqueued daemons ∧ AllUnqueued rest (run.after daemons)

/-- As long as every run finds no job where it is about to add one, the queue holds at most one job
for every delivery in every state that is reached. By induction on the runs.
-/
theorem retry_runs_single (start : RetryDaemons) (runs : List RetryRun)
    (single : OneJobQueued start.world) (unqueued : AllUnqueued runs start)
    : ∀ reached, reached <+: runs → OneJobQueued (afterRetryRuns reached start).world := by
  induction runs generalizing start with
  | nil =>
      intro reached begun
      rw [List.prefix_nil.mp begun]
      exact single
  | cons run rest ih =>
      intro reached begun
      cases reached with
      | nil => exact single
      | cons first later =>
          obtain ⟨rfl, others⟩ := List.cons_prefix_cons.mp begun
          have next := RetryRun.after_single single unqueued.1
          exact ih (first.after start) next unqueued.2 later others

/-- Two runs of `sync` over a pending delivery. -/
theorem retry_runs_single_pending
    : OneJobQueued
        (afterRetryRuns [.sync (.quiet 0), .sync (.quiet 0)] ⟨oneDelivery .pending none 0, false, false⟩).world :=
  retry_runs_single ⟨oneDelivery .pending none 0, false, false⟩
    [.sync (.quiet 0), .sync (.quiet 0)] (by unfold OneJobQueued; decide +kernel)
    ⟨fun _ => by decide +kernel, fun _ => by decide +kernel, trivial⟩ _ List.prefix_rfl

/-- The processor enqueues an overdue retry under an identifier of the queue's own, and the next
`sync` does not find it.
-/
theorem overdue_retry_enqueued_twice
    : OneJobQueued (oneDelivery .scheduledRetry (some 0) 0)
      ∧ ¬OneJobQueued
          (afterRetryRuns [.processScheduledRetries (.quiet 0) true, .sync (.quiet 0)]
            ⟨oneDelivery .scheduledRetry (some 0) 0, false, false⟩).world := by
  unfold OneJobQueued
  decide +kernel

end QueueForge.Daemon
