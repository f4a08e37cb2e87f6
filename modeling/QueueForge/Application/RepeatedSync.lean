import QueueForge.Application.EntityStore
import QueueForge.Application.SyncState
import QueueForge.Js.Text

/-! Two syncs, one right after the other. The second one finds the jobs the first one added only
where their keys are those of the deliveries they were added for.
-/

namespace QueueForge.Application

open QueueForge.Async QueueForge.Js QueueForge.Domain QueueForge.Queue
open QueueForge.Daemon (DeliveryJobData)
open SyncState (activeJobKey deliveryKey namedPair isObsolete)

-----------------------------------------------------------------------------------------
-- What a sync does to the queue
-----------------------------------------------------------------------------------------

/-- The pending deliveries a sync reads. -/
def SyncWorld.pending (world : SyncWorld) (config : SyncConfig) : List Delivery :=
  match config.pending with
  | .neither => []
  | _ => world.deliveries.filter (fun delivery => delivery.status = .pending)

/-- The keys of the queued jobs. -/
def SyncWorld.keys (world : SyncWorld) : List String :=
  world.queue.jobs.map (fun job => activeJobKey job.data)

/-- The pending deliveries whose key no job has. -/
def SyncWorld.missing (world : SyncWorld) (config : SyncConfig) : List Delivery :=
  (world.pending config).filter (fun delivery => deliveryKey delivery ∉ world.keys)

/-- A job is one that a sync removes. -/
def SyncWorld.obsolete (world : SyncWorld) (config : SyncConfig) (data : DeliveryJobData) : Bool :=
  config.findByTaskResultId
  && (namedPair data).any (fun pair =>
    isObsolete (world.deliveries.filter (fun delivery => delivery.taskResultId = pair.1)) pair.2)

namespace EnqueueMethod

/-- The name of the job a delivery is enqueued with. -/
def jobName (method : EnqueueMethod) (delivery : Delivery) : String :=
  match method with
  | .enqueueDelivery => deliveryKey delivery
  | _ => "deliver-task-result"

/-- The data a delivery is enqueued with, if it is. -/
def jobData (method : EnqueueMethod) (delivery : Delivery) : Option DeliveryJobData :=
  match method with
  | .enqueueDelivery => some {
      taskResultId := some delivery.taskResultId
      destinationId := some delivery.destinationId
      attempt := some (delivery.retryCount + 1)
    }
  | .add => some { deliveryId := some delivery.id }
  | .neither => none

/-- The queue after a delivery was enqueued. -/
def after (method : EnqueueMethod) (queue : BullQueue DeliveryJobData) (delivery : Delivery)
    : BullQueue DeliveryJobData :=
  match method.jobData delivery with
  | some data => queue.add (method.jobName delivery) data
  | none => queue

end EnqueueMethod

/-- The queue after some jobs were removed. -/
def removeAll (queue : BullQueue DeliveryJobData) (jobs : List (QueueJob DeliveryJobData))
    : BullQueue DeliveryJobData :=
  jobs.foldl (fun queue job => queue.remove job.id) queue

/-- The queue a sync leaves. -/
def SyncWorld.synced (world : SyncWorld) (config : SyncConfig) : BullQueue DeliveryJobData :=
  if config.getQueueInstance then
    removeAll ((world.missing config).foldl config.enqueue.after world.queue)
      (world.queue.jobs.filter (fun job => world.obsolete config job.data))
  else
    world.queue

section
variable (config : SyncConfig) (world : SyncWorld)

theorem run_dbPending
    : (SyncState.dbPending config).run (syncSystem noSyncFaults) world
      = (.ok (world.pending config), world) := by
  cases method : config.pending <;>
    simp [SyncState.dbPending, SyncWorld.pending, method, performSync]

theorem run_enqueue (delivery : Delivery)
    : (SyncState.enqueue config delivery).run (syncSystem noSyncFaults) world
      = (.ok (), { world with queue := config.enqueue.after world.queue delivery }) := by
  cases method : config.enqueue <;>
    simp only [SyncState.enqueue, method, run_awaitSync, syncSystem_noFaults, performSync] <;> rfl

/-- What is missing is enqueued, by induction on the deliveries. -/
theorem run_enqueueEach (keys : List String) (deliveries : List Delivery) (counts : SyncResult)
    : ∃ counted,
        (SyncState.enqueueEach config keys deliveries counts).run (syncSystem noSyncFaults) world
          = (.ok counted,
            {
              world with
              queue :=
                (deliveries.filter (fun delivery => deliveryKey delivery ∉ keys)).foldl
                  config.enqueue.after world.queue
            }) := by
  induction deliveries generalizing world counts with
  | nil => exact ⟨counts, rfl⟩
  | cons delivery rest ih =>
      rw [SyncState.enqueueEach]
      by_cases listed : deliveryKey delivery ∈ keys
      · rw [if_pos listed, List.filter_cons_of_neg (by simpa using listed)]
        exact ih world counts
      · rw [if_neg listed, List.filter_cons_of_pos (by simpa using listed), List.foldl_cons]
        simp only [SyncState.enqueueMissing, Program.bind_eq, Program.tryCatch_eq,
          Program.run_bind, Program.run_catchError, run_enqueue, Program.pure_eq,
          Program.run_done]
        exact ih { world with queue := config.enqueue.after world.queue delivery } _

/-- One job is removed if it is obsolete. -/
theorem run_removeObsolete (job : QueueJob DeliveryJobData) (pair : String × String)
    (counts : SyncResult)
    : ∃ counted,
        (SyncState.removeObsolete job pair counts).run (syncSystem noSyncFaults) world
          = (.ok counted,
            {
              world with
              queue :=
                if isObsolete
                    (world.deliveries.filter (fun delivery => delivery.taskResultId = pair.1))
                    pair.2 then
                  world.queue.remove job.id
                else
                  world.queue
            }) := by
  simp only [SyncState.removeObsolete, Program.bind_eq, Program.run_bind, Program.run_settle,
    run_awaitSync, syncSystem_noFaults, performSync]
  split
  · simp only [Program.run_bind, Program.run_settle, run_awaitSync, syncSystem_noFaults,
      performSync]
    exact ⟨_, rfl⟩
  · exact ⟨_, rfl⟩

/-- What is obsolete is removed, by induction on the jobs. -/
theorem run_removeEach (jobs : List (QueueJob DeliveryJobData)) (counts : SyncResult)
    : ∃ counted,
        (SyncState.removeEach config jobs counts).run (syncSystem noSyncFaults) world
          = (.ok counted,
            {
              world with
              queue :=
                removeAll world.queue (jobs.filter (fun job => world.obsolete config job.data))
            }) := by
  induction jobs generalizing world counts with
  | nil => exact ⟨counts, rfl⟩
  | cons job rest ih =>
      rw [SyncState.removeEach]
      cases named : namedPair job.data with
      | none =>
          rw [List.filter_cons_of_neg (by simp [SyncWorld.obsolete, named])]
          exact ih world counts
      | some pair =>
          cases finds : config.findByTaskResultId with
          | false =>
              rw [List.filter_cons_of_neg (by simp [SyncWorld.obsolete, finds])]
              exact ih world counts
          | true =>
              obtain ⟨counted, removed⟩ := run_removeObsolete world job pair counts
              simp only [if_true, Program.bind_eq, Program.run_bind, removed]
              cases gone : isObsolete
                  (world.deliveries.filter (fun delivery => delivery.taskResultId = pair.1))
                  pair.2 with
              | false =>
                  rw [List.filter_cons_of_neg (by simp [SyncWorld.obsolete, named, gone])]
                  exact ih world counted
              | true =>
                  rw [List.filter_cons_of_pos (by simp [SyncWorld.obsolete, finds, named, gone])]
                  exact ih { world with queue := world.queue.remove job.id } counted

/-- A sync leaves the deliveries as they are, and the queue with what was missing and without what
was obsolete.
-/
theorem runSync_world : (runSync config world).2 = { world with queue := world.synced config } := by
  rw [runSync, SyncState.sync]
  simp only [Program.bind_eq, Program.run_bind, run_dbPending]
  cases accessible : config.getQueueInstance with
  | false => simp [SyncWorld.synced, accessible]
  | true =>
      obtain ⟨counted, enqueued⟩ :=
        run_enqueueEach config world world.keys (world.pending config) {}
      obtain ⟨final, removed⟩ :=
        run_removeEach config
          { world with queue := (world.missing config).foldl config.enqueue.after world.queue }
          world.queue.jobs counted
      simp only [if_true, Program.run_bind, run_awaitSync, syncSystem_noFaults, performSync]
      rw [SyncWorld.keys] at enqueued
      rw [enqueued, SyncWorld.synced, if_pos accessible]
      exact congrArg Prod.snd removed

end

-----------------------------------------------------------------------------------------
-- The jobs of the queue a sync leaves
-----------------------------------------------------------------------------------------

/-- Jobs are added at the end, one for each delivery that is enqueued. By induction on the
deliveries.
-/
theorem jobs_foldl_after (method : EnqueueMethod) (deliveries : List Delivery)
    (queue : BullQueue DeliveryJobData)
    : ∃ added,
        (deliveries.foldl method.after queue).jobs = queue.jobs ++ added
        ∧ added.map QueueJob.data = deliveries.filterMap method.jobData
        ∧ (deliveries.foldl method.after queue).counter = queue.counter + added.length := by
  induction deliveries generalizing queue with
  | nil => exact ⟨[], (List.append_nil _).symm, rfl, rfl⟩
  | cons delivery rest ih =>
      rw [List.foldl_cons]
      cases enqueued : method.jobData delivery with
      | none =>
          rw [List.filterMap_cons_none enqueued, EnqueueMethod.after, enqueued]
          exact ih queue
      | some data =>
          rw [List.filterMap_cons_some enqueued, EnqueueMethod.after, enqueued]
          obtain ⟨added, jobs, contents, counter⟩ :=
            ih (queue.add (method.jobName delivery) data)
          refine ⟨⟨.auto (queue.counter + 1), method.jobName delivery, data, 0⟩ :: added,
            ?_, ?_, ?_⟩
          · rw [jobs, BullQueue.jobs_add_auto, List.append_assoc, List.singleton_append]
          · rw [List.map_cons, contents]
          · rw [counter, List.length_cons]
            exact Nat.add_right_comm queue.counter 1 added.length

/-- By induction on the jobs that are removed. -/
theorem jobs_removeAll (queue : BullQueue DeliveryJobData) (jobs : List (QueueJob DeliveryJobData))
    : (removeAll queue jobs).jobs
        = queue.jobs.filter (fun job => job.id ∉ jobs.map QueueJob.id)
      ∧ (removeAll queue jobs).counter = queue.counter := by
  induction jobs generalizing queue with
  | nil => simp [removeAll]
  | cons job rest ih =>
      obtain ⟨others, counter⟩ := ih (queue.remove job.id)
      refine ⟨?_, counter⟩
      rw [removeAll, List.foldl_cons]
      rw [removeAll] at others
      rw [others, BullQueue.remove, List.filter_filter]
      refine List.filter_congr (fun other _ => ?_)
      simp only [List.map_cons, List.mem_cons, not_or, Bool.decide_and, Bool.and_comm]

section
variable {config : SyncConfig} {world : SyncWorld} {data : DeliveryJobData}

/-- The data a sync adds jobs with. -/
def SyncWorld.addedData (world : SyncWorld) (config : SyncConfig) : List DeliveryJobData :=
  (world.missing config).filterMap config.enqueue.jobData

/-- The queue holds the jobs that are not obsolete and those that were added. -/
theorem mem_contents_synced (accessible : config.getQueueInstance = true)
    : data ∈ (world.synced config).contents
      ↔ data ∈ world.queue.contents ∧ world.obsolete config data = false
        ∨ data ∈ world.addedData config := by
  obtain ⟨added, jobs, contents, -⟩ :=
    jobs_foldl_after config.enqueue (world.missing config) world.queue
  have distinct := ((world.missing config).foldl config.enqueue.after world.queue).distinct
  rw [jobs, List.map_append] at distinct
  have apart := List.disjoint_of_nodup_append distinct
  rw [BullQueue.contents, SyncWorld.synced, if_pos accessible, (jobs_removeAll _ _).1, jobs,
    SyncWorld.addedData, ← contents]
  simp only [List.mem_map, List.mem_filter, List.mem_append, decide_eq_true_eq, BullQueue.contents]
  constructor
  · rintro ⟨job, ⟨old | new, kept⟩, rfl⟩
    · refine .inl ⟨⟨job, old, rfl⟩, ?_⟩
      by_contra gone
      exact kept ⟨job, ⟨old, by simpa using gone⟩, rfl⟩
    · exact .inr ⟨job, new, rfl⟩
  · rintro (⟨⟨job, old, rfl⟩, kept⟩ | ⟨job, new, rfl⟩)
    · refine ⟨job, ⟨.inl old, ?_⟩, rfl⟩
      rintro ⟨other, ⟨member, gone⟩, same⟩
      rw [BullQueue.eq_of_id_eq member old same, kept] at gone
      contradiction
    · refine ⟨job, ⟨.inr new, ?_⟩, rfl⟩
      rintro ⟨other, ⟨member, -⟩, same⟩
      exact apart (List.mem_map_of_mem member) (same ▸ List.mem_map_of_mem new)

theorem orString_some {text : String} (nonempty : text ≠ "") (other : Option String)
    : orString (some text) other = some text := by
  unfold orString
  split
  · next same => exact absurd (Option.some.inj same) nonempty
  · next same => rw [same]
  · next same => exact nomatch same

/-- A job for the result and the destination of a delivery has its key. -/
theorem activeJobKey_enqueueDelivery (delivery : Delivery) (attempt : Option Int)
    : activeJobKey {
        taskResultId := some delivery.taskResultId
        destinationId := some delivery.destinationId
        attempt := attempt
      }
      = deliveryKey delivery := by
  rw [activeJobKey, orString_some delivery.taskResultIdNonempty,
    orString_some delivery.destinationIdNonempty]
  rfl

/-- A job for the identifier of a delivery has another key. -/
theorem activeJobKey_add (delivery : Delivery)
    : activeJobKey { deliveryId := some delivery.id } = delivery.id ++ ":" := by
  have named : orString none (some delivery.id) = some delivery.id := rfl
  have empty : orString none (some "") = some "" := rfl
  rw [activeJobKey, named, empty]
  exact String.append_empty

theorem mem_pending {delivery : Delivery} (member : delivery ∈ world.pending config)
    : delivery ∈ world.deliveries ∧ delivery.status = .pending := by
  rw [SyncWorld.pending] at member
  cases lookup : config.pending with
  | neither =>
      rw [lookup] at member
      exact absurd member List.not_mem_nil
  | findByStatus =>
      rw [lookup] at member
      simpa using member
  | findAll =>
      rw [lookup] at member
      simpa using member

/-- The record of a delivery is the only one with its result and its destination. -/
theorem isObsolete_pending {delivery : Delivery} (stored : delivery ∈ world.deliveries)
    (pending : delivery.status = .pending)
    : isObsolete
        (world.deliveries.filter (fun other => other.taskResultId = delivery.taskResultId))
        delivery.destinationId
      = false := by
  have listed
      : delivery ∈ world.deliveries.filter
          (fun other => other.taskResultId = delivery.taskResultId) := by
    simpa using stored
  rw [isObsolete]
  cases found : (world.deliveries.filter
      (fun other => other.taskResultId = delivery.taskResultId)).find?
      (fun other => other.destinationId = delivery.destinationId) with
  | none =>
      have absent := List.find?_eq_none.mp found delivery listed
      simp at absent
  | some record =>
      have ⟨member, sameResult⟩ := List.mem_filter.mp (List.mem_of_find?_eq_some found)
      have sameDestination := List.find?_some found
      have same : deliveryPair record = deliveryPair delivery := by
        simp only [decide_eq_true_eq] at sameResult sameDestination
        rw [deliveryPair, deliveryPair, sameResult, sameDestination]
      rw [List.inj_on_of_nodup_map world.paired member stored same]
      simp [pending, DeliveryStatus.isFinal]

/-- What a pending delivery is enqueued with is not obsolete. -/
theorem obsolete_enqueued {delivery : Delivery} (member : delivery ∈ world.pending config)
    (enqueued : config.enqueue.jobData delivery = some data)
    : world.obsolete config data = false := by
  have ⟨stored, pending⟩ := mem_pending member
  rw [SyncWorld.obsolete]
  cases method : config.enqueue with
  | neither =>
      rw [method] at enqueued
      exact nomatch enqueued
  | add =>
      rw [method] at enqueued
      cases enqueued
      simp [namedPair, orString]
  | enqueueDelivery =>
      rw [method] at enqueued
      cases enqueued
      have named
          : namedPair {
              taskResultId := some delivery.taskResultId
              destinationId := some delivery.destinationId
              attempt := some (delivery.retryCount + 1)
            }
            = some (deliveryPair delivery) := by
        rw [namedPair, orString_some delivery.taskResultIdNonempty,
          orString_some delivery.destinationIdNonempty]
        rfl
      rw [named, Option.any_some]
      have current := isObsolete_pending stored pending
      exact (congrArg (config.findByTaskResultId && ·) current).trans (Bool.and_false _)

/-- After a sync no job is obsolete. -/
theorem obsolete_synced (accessible : config.getQueueInstance = true)
    {job : QueueJob DeliveryJobData} (member : job ∈ (world.synced config).jobs)
    : world.obsolete config job.data = false := by
  rcases (mem_contents_synced accessible).mp (List.mem_map_of_mem member) with ⟨-, kept⟩ | added
  · exact kept
  · obtain ⟨delivery, missing, enqueued⟩ := List.mem_filterMap.mp added
    exact obsolete_enqueued (List.mem_of_mem_filter missing) enqueued

-----------------------------------------------------------------------------------------
-- The second sync
-----------------------------------------------------------------------------------------

/-- A job with the key of a delivery is kept. -/
def SyncWorld.Kept (world : SyncWorld) (config : SyncConfig) (delivery : Delivery) : Prop :=
  ∃ data ∈ world.queue.contents,
    world.obsolete config data = false ∧ activeJobKey data = deliveryKey delivery

/-- No pending delivery is missing after a sync. Where deliveries are enqueued by their result and
destination, a delivery that is missing gets a job with its key, so only the removal of all the
jobs with a key makes one missing. Where they are enqueued by their identifier, every pending
delivery needs a job that is kept, unless the key of its pair is that of another one's identifier.
-/
def SyncWorld.Settles (world : SyncWorld) (config : SyncConfig) : Prop :=
  config.getQueueInstance = true →
    ∀ delivery ∈ world.pending config,
      match config.enqueue with
      | .enqueueDelivery => deliveryKey delivery ∈ world.keys → world.Kept config delivery
      | .add =>
          world.Kept config delivery
          ∨ ∃ other ∈ world.missing config, deliveryKey delivery = other.id ++ ":"
      | .neither => True

/-- A queue is its jobs and its counter. -/
theorem queue_eq {queue other : BullQueue DeliveryJobData} (jobs : queue.jobs = other.jobs)
    (counter : queue.counter = other.counter)
    : queue = other := by
  obtain ⟨_, _, _, _⟩ := queue
  obtain ⟨_, _, _, _⟩ := other
  cases jobs
  cases counter
  rfl

/-- The queue is the same after a second sync if and only if nothing is enqueued. -/
theorem synced_twice_iff (accessible : config.getQueueInstance = true)
    : ({ world with queue := world.synced config } : SyncWorld).synced config
        = world.synced config
      ↔ ({ world with queue := world.synced config } : SyncWorld).addedData config = [] := by
  let next : SyncWorld := { world with queue := world.synced config }
  have none : next.queue.jobs.filter (fun job => next.obsolete config job.data) = [] := by
    refine List.filter_eq_nil_iff.mpr (fun job member => ?_)
    have kept : next.obsolete config job.data = false :=
      @obsolete_synced config world accessible job member
    simp [kept]
  have second
      : next.synced config = (next.missing config).foldl config.enqueue.after next.queue := by
    rw [SyncWorld.synced, if_pos accessible, none]
    rfl
  obtain ⟨added, jobs, contents, counter⟩ :=
    jobs_foldl_after config.enqueue (next.missing config) next.queue
  rw [← second] at jobs counter
  constructor
  · intro same
    have more : next.queue.counter = next.queue.counter + added.length :=
      (congrArg BullQueue.counter same).symm.trans counter
    have empty : added = [] := List.eq_nil_of_length_eq_zero (by omega)
    rw [SyncWorld.addedData, ← contents, empty, List.map_nil]
  · intro nothing
    rw [SyncWorld.addedData, ← contents, List.map_eq_nil_iff] at nothing
    rw [nothing] at jobs counter
    exact queue_eq (jobs.trans (List.append_nil _)) counter

/-- A delivery is enqueued by the second sync if and only if no job has its key. -/
theorem addedData_eq_nil_iff
    : world.addedData config = []
      ↔ ∀ delivery ∈ world.pending config,
          config.enqueue.jobData delivery = none ∨ deliveryKey delivery ∈ world.keys := by
  rw [SyncWorld.addedData, List.filterMap_eq_nil_iff]
  constructor
  · intro nothing delivery member
    by_cases listed : deliveryKey delivery ∈ world.keys
    · exact .inr listed
    · exact .inl (nothing delivery (List.mem_filter.mpr ⟨member, by simpa using listed⟩))
  · intro all delivery missing
    have ⟨member, unlisted⟩ := List.mem_filter.mp missing
    exact (all delivery member).resolve_right (by simpa using unlisted)

theorem mem_keys_iff {key : String}
    : key ∈ world.keys ↔ ∃ data ∈ world.queue.contents, activeJobKey data = key := by
  simp [SyncWorld.keys, BullQueue.contents]

/-- A key is one of the jobs after a sync if a job with it is kept or added. -/
theorem mem_keys_synced (accessible : config.getQueueInstance = true) (delivery : Delivery)
    : deliveryKey delivery
        ∈ ({ world with queue := world.synced config } : SyncWorld).keys
      ↔ world.Kept config delivery
        ∨ ∃ data ∈ world.addedData config, activeJobKey data = deliveryKey delivery := by
  rw [mem_keys_iff]
  simp only [mem_contents_synced accessible]
  constructor
  · rintro ⟨data, ⟨old, kept⟩ | added, same⟩
    · exact .inl ⟨data, old, kept, same⟩
    · exact .inr ⟨data, added, same⟩
  · rintro (⟨data, old, kept, same⟩ | ⟨data, added, same⟩)
    · exact ⟨data, .inl ⟨old, kept⟩, same⟩
    · exact ⟨data, .inr added, same⟩

/-- No pending delivery is left to be enqueued after a sync. -/
theorem settles_iff (accessible : config.getQueueInstance = true)
    : ({ world with queue := world.synced config } : SyncWorld).addedData config = []
      ↔ world.Settles config := by
  rw [addedData_eq_nil_iff, SyncWorld.Settles]
  simp only [accessible, true_implies]
  refine forall₂_congr (fun delivery member => ?_)
  have member : delivery ∈ world.pending config := member
  rw [mem_keys_synced accessible]
  cases method : config.enqueue with
  | neither => simp [EnqueueMethod.jobData]
  | add =>
      simp only [EnqueueMethod.jobData, reduceCtorEq, false_or]
      refine or_congr_right ?_
      constructor
      · rintro ⟨data, added, same⟩
        obtain ⟨other, missing, enqueued⟩ := List.mem_filterMap.mp added
        rw [method] at enqueued
        cases enqueued
        exact ⟨other, missing, same.symm.trans (activeJobKey_add other)⟩
      · rintro ⟨other, missing, same⟩
        refine ⟨{ deliveryId := some other.id }, ?_, (activeJobKey_add other).trans same.symm⟩
        exact List.mem_filterMap.mpr ⟨other, missing, by rw [method]; rfl⟩
  | enqueueDelivery =>
      simp only [EnqueueMethod.jobData, reduceCtorEq, false_or]
      constructor
      · rintro (kept | ⟨data, added, same⟩) listed
        · exact kept
        · obtain ⟨other, missing, enqueued⟩ := List.mem_filterMap.mp added
          rw [method] at enqueued
          cases enqueued
          have unlisted := (List.mem_filter.mp missing).2
          rw [activeJobKey_enqueueDelivery other] at same
          rw [same] at unlisted
          exact absurd listed (by simpa using unlisted)
      · intro kept
        by_cases listed : deliveryKey delivery ∈ world.keys
        · exact .inl (kept listed)
        · refine .inr ⟨_, List.mem_filterMap.mpr ⟨delivery, ?_, by rw [method]; rfl⟩,
            activeJobKey_enqueueDelivery delivery _⟩
          exact List.mem_filter.mpr ⟨member, by simpa using listed⟩

end

/-- A second sync leaves the queue as the first one left it if and only if the first one settles
every pending delivery.
-/
theorem sync_twice_iff (config : SyncConfig) (world : SyncWorld)
    : (runSync config (runSync config world).2).2.queue = (runSync config world).2.queue
      ↔ world.Settles config := by
  rw [runSync_world, runSync_world]
  cases accessible : config.getQueueInstance with
  | false =>
      refine iff_of_true ?_ (fun reached => ?_)
      · simp only [SyncWorld.synced, accessible, Bool.false_eq_true, if_false]
      · rw [accessible] at reached
        contradiction
  | true => exact (synced_twice_iff accessible).trans (settles_iff accessible)

/-- A job that names a pair has its key. -/
theorem namedPair_eq_some {data : DeliveryJobData} {taskResultId destinationId : String}
    (named : namedPair data = some (taskResultId, destinationId))
    : data.taskResultId = some taskResultId
      ∧ activeJobKey data = taskResultId ++ ":" ++ destinationId := by
  have given {text : Option String} {value : String} (read : orString text none = some value)
      : text = some value ∧ value ≠ "" := by
    unfold orString at read
    split at read
    · contradiction
    · next nonempty =>
        cases read
        exact ⟨rfl, nonempty⟩
    · contradiction
  simp only [namedPair, Option.bind_eq_bind, Option.bind_eq_some_iff, Option.pure_def,
    Option.some.injEq, Prod.mk.injEq] at named
  obtain ⟨_, result, _, destination, rfl, rfl⟩ := named
  have ⟨sameResult, resultNonempty⟩ := given result
  have ⟨sameDestination, destinationNonempty⟩ := given destination
  refine ⟨sameResult, ?_⟩
  rw [activeJobKey, sameResult, sameDestination, orString_some resultNonempty,
    orString_some destinationNonempty]
  rfl

/-- Where deliveries are enqueued by their result and destination and no result has a colon in its
identifier, a key is of one pair only, and a sync settles every pending delivery.
-/
theorem settles_of_plain_ids {config : SyncConfig} {world : SyncWorld}
    (byPair : config.enqueue = .enqueueDelivery)
    (plain : ∀ delivery ∈ world.deliveries, ':' ∉ delivery.taskResultId.toList)
    (plainJobs
      : ∀ data ∈ world.queue.contents,
          ∀ taskResultId ∈ data.taskResultId, ':' ∉ taskResultId.toList)
    : world.Settles config := by
  intro _ delivery member
  have ⟨stored, pending⟩ := mem_pending member
  rw [byPair]
  intro listed
  obtain ⟨data, held, same⟩ := mem_keys_iff.mp listed
  refine ⟨data, held, ?_, same⟩
  rw [SyncWorld.obsolete]
  cases named : namedPair data with
  | none => rw [Option.any_none, Bool.and_false]
  | some pair =>
      obtain ⟨taskResultId, destinationId⟩ := pair
      have ⟨given, key⟩ := namedPair_eq_some named
      have joined
          : taskResultId ++ (String.singleton ':' ++ destinationId)
            = delivery.taskResultId ++ (String.singleton ':' ++ delivery.destinationId) := by
        rw [← String.append_assoc, ← String.append_assoc]
        exact key.symm.trans same
      obtain ⟨rfl, rfl⟩ :=
        (joined_inj (plainJobs data held taskResultId given) (plain delivery stored)).mp joined
      rw [Option.any_some, isObsolete_pending stored pending, Bool.and_false]

theorem newDelivery_paired : [deliveryPair newDelivery].Nodup := List.nodup_singleton _

/-- One pending delivery, and no job in the queue. -/
def onePending : SyncWorld where
  deliveries := [newDelivery]
  paired := newDelivery_paired
  queue := .empty

/-- A queue that takes deliveries by `add`. -/
def addingConfig : SyncConfig where
  pending := .findByStatus
  findByTaskResultId := true
  getQueueInstance := true
  enqueue := .add

/-- The second sync does not find the job of the first one by its key, and adds another one. -/
theorem sync_adds_twice
    : (runSync addingConfig onePending).2.queue.jobs.length = 1
      ∧ (runSync addingConfig (runSync addingConfig onePending).2).2.queue.jobs.length = 2 := by
  decide

end QueueForge.Application
