import QueueForge.Async.Execution
import QueueForge.Daemon.RecoveryCalls

/-! `QueueReconstructor`: puts pending and scheduled deliveries in the queues and takes jobs out
whose delivery is not found. Its collaborators are untyped, so which methods they have is part
of the configuration.
-/

namespace QueueForge.Daemon

open QueueForge.Async QueueForge.Js QueueForge.Domain QueueForge.Infrastructure QueueForge.Queue

/-- The methods of the repository and of the queues. A manager that has no `getMainQueue` or
`getDelayedQueue` is taken for the queue itself, and may not be there at all.
-/
structure RecoveryDependencies where
  findStaleDeliveries : Bool
  findPendingDeliveries : Bool
  findScheduledRetryDeliveries : Bool
  findByStatus : Bool
  findMany : Bool
  findById : Bool
  mainQueue : Option QueueName
  delayedQueue : Option QueueName
  hasAdd : QueueName → Bool
  hasGetJobs : QueueName → Bool

/-- The repository `DeliveryRepository`, perhaps with a query for stale deliveries, and a
manager of two queues.
-/
def RecoveryDependencies.wired (findStaleDeliveries : Bool) : RecoveryDependencies where
  findStaleDeliveries := findStaleDeliveries
  findPendingDeliveries := false
  findScheduledRetryDeliveries := false
  findByStatus := true
  findMany := true
  findById := true
  mainQueue := some .main
  delayedQueue := some .delayed
  hasAdd _ := true
  hasGetJobs _ := true

structure ReconstructionResult where
  enqueued : Nat
  main : Nat
  delayed : Nat
  deleted : Nat
deriving DecidableEq

namespace QueueReconstructor

variable (deps : RecoveryDependencies)

/-- Look deliveries up by the method for them, by `findByStatus` or by `findMany`. -/
def lookUp (present : Bool) (find : DaemonProgram (List StoredDelivery))
    (status : DeliveryStatus)
    : DaemonProgram (List StoredDelivery) :=
  if present then
    find
  else if deps.findByStatus then
    awaitDaemon (.findByStatus status)
  else if deps.findMany then
    awaitDaemon (.findMany status)
  else
    pure []

/-- Add a job for each delivery, if there is a queue with `add`, and count them. -/
def addEach (queue : Option QueueName) (addJob : QueueName → StoredDelivery → DaemonProgram Unit)
    : List StoredDelivery → Nat → DaemonProgram Nat
  | [], count => pure count
  | delivery :: rest, count =>
      match queue.filter deps.hasAdd with
      | none => addEach queue addJob rest count
      | some name => do
          addJob name delivery
          addEach queue addJob rest (count + 1)

/-- The data of a job in the main queue. -/
def pendingData (delivery : StoredDelivery) : DeliveryJobData where
  deliveryId := some delivery.id
  destinationId := some delivery.destinationId

/-- The data of a job in the delayed queue. -/
def retryData (delivery : StoredDelivery) : DeliveryJobData where
  deliveryId := some delivery.id

def addPending (queue : QueueName) (delivery : StoredDelivery) : DaemonProgram Unit :=
  awaitDaemon (.add queue "deliver" (pendingData delivery) {})

/-- The clock is read for a delivery with a retry time only. -/
def retryDelay (delivery : StoredDelivery) : DaemonProgram Number :=
  match delivery.nextRetryAt with
  | some nextRetryAt => do
      let now ← awaitDaemon .now
      pure (Number.max 0 (.ofInt (nextRetryAt - now)))
  | none => pure 5000

def addRetry (queue : QueueName) (delivery : StoredDelivery) : DaemonProgram Unit := do
  let delay ← retryDelay delivery
  awaitDaemon (.add queue "deliver_retry" (retryData delivery) { delay := delay })

/-- Look deliveries up and add a job for each. Every exception is logged and dropped. -/
def enqueueFound (found : DaemonProgram (List StoredDelivery)) (queue : Option QueueName)
    (addJob : QueueName → StoredDelivery → DaemonProgram Unit)
    : DaemonProgram Nat :=
  tryCatch
    (do
      let deliveries ← found
      addEach deps queue addJob deliveries 0)
    (fun _ => pure 0)

/-- Scans for PENDING deliveries and re-enqueues them to main delivery queue. -/
def enqueuePending : DaemonProgram Nat :=
  enqueueFound deps
    (lookUp deps deps.findPendingDeliveries (awaitDaemon .findPendingDeliveries) .pending)
    deps.mainQueue addPending

/-- Scans for SCHEDULED_RETRY deliveries and re-enqueues them to delayed delivery queue. -/
def enqueueScheduledRetries : DaemonProgram Nat :=
  enqueueFound deps
    (lookUp deps deps.findScheduledRetryDeliveries (awaitDaemon .findScheduledRetryDeliveries)
      .scheduledRetry)
    deps.delayedQueue addRetry

/-- `job?.data?.deliveryId || job?.id`. -/
def deliveryIdOf (job : QueueJob DeliveryJobData) : Option String :=
  orString job.data.deliveryId (orString (some job.id.text) none)

/-- Whether there is a delivery record for the identifier. -/
def isStored (deliveryId : String) : DaemonProgram Bool :=
  if deps.findById then do
    let record ← awaitDaemon (.findById deliveryId)
    pure record.isSome
  else
    pure false

/-- Remove the jobs without a delivery record, and count them. -/
def removeEach (queue : QueueName) : List (QueueJob DeliveryJobData) → Nat → DaemonProgram Nat
  | [], removed => pure removed
  | job :: rest, removed =>
      match deliveryIdOf job with
      | none => removeEach queue rest removed
      | some deliveryId => do
          let stored ← isStored deps deliveryId
          if stored then
            removeEach queue rest removed
          else
            awaitDaemon (.remove queue job.id)
            removeEach queue rest (removed + 1)

/-- Purges jobs from queue that have no matching delivery record in database. -/
def removeOrphaned : DaemonProgram Nat :=
  tryCatch
    (match deps.mainQueue.filter deps.hasGetJobs with
      | none => pure 0
      | some queue => do
          let jobs ← awaitDaemon (.getJobs queue)
          removeEach deps queue jobs 0)
    (fun _ => pure 0)

/-- Executes full queue reconstruction flow. -/
def reconstruct : DaemonProgram ReconstructionResult := do
  let pendingCount ← enqueuePending deps
  let retriesCount ← enqueueScheduledRetries deps
  let removedCount ← removeOrphaned deps
  return {
    enqueued := pendingCount + retriesCount
    main := pendingCount
    delayed := retriesCount
    deleted := removedCount
  }

end QueueReconstructor

/-- Jobs with these data were added to the queues, and nothing else changed. -/
structure Grown (world after : DaemonWorld) (mainData delayedData : List DeliveryJobData)
    : Prop where
  table : after.table = world.table
  main
    : ∃ new, after.main.jobs = world.main.jobs ++ new ∧ new.map QueueJob.data = mainData
  delayed
    : ∃ new, after.delayed.jobs = world.delayed.jobs ++ new ∧ new.map QueueJob.data = delayedData

namespace Grown

variable {world middle after : DaemonWorld}

theorem refl (world : DaemonWorld) : Grown world world [] [] :=
  ⟨rfl, ⟨[], (List.append_nil _).symm, rfl⟩, ⟨[], (List.append_nil _).symm, rfl⟩⟩

/-- Additions one after the other. -/
theorem trans {mainData moreMain delayedData moreDelayed : List DeliveryJobData}
    (first : Grown world middle mainData delayedData)
    (second : Grown middle after moreMain moreDelayed)
    : Grown world after (mainData ++ moreMain) (delayedData ++ moreDelayed) := by
  obtain ⟨newMain, mainJobs, mainSame⟩ := first.main
  obtain ⟨laterMain, laterMainJobs, laterMainSame⟩ := second.main
  obtain ⟨newDelayed, delayedJobs, delayedSame⟩ := first.delayed
  obtain ⟨laterDelayed, laterDelayedJobs, laterDelayedSame⟩ := second.delayed
  refine ⟨second.table.trans first.table, ⟨newMain ++ laterMain, ?_, ?_⟩,
    ⟨newDelayed ++ laterDelayed, ?_, ?_⟩⟩
  · rw [laterMainJobs, mainJobs, List.append_assoc]
  · rw [List.map_append, mainSame, laterMainSame]
  · rw [laterDelayedJobs, delayedJobs, List.append_assoc]
  · rw [List.map_append, delayedSame, laterDelayedSame]

end Grown

namespace QueueReconstructor

section
variable (env : DaemonEnvironment) (stale : Bool)

/-- Jobs were added for the deliveries up to the first fault, and for all of them without one.
-/
def Enqueued (world after : DaemonWorld)
    (deliveries : List StoredDelivery) (mainData delayedData : StoredDelivery → List DeliveryJobData)
    : Prop :=
  ∃ done,
    done <+: deliveries
    ∧ Grown world after (done.flatMap mainData) (done.flatMap delayedData)
    ∧ (env.Working → done = deliveries)

/-- Adding a job for one delivery adds its data, or fails by a fault and changes nothing. -/
def AddsJob (addJob : StoredDelivery → DaemonProgram Unit)
    (mainData delayedData : StoredDelivery → List DeliveryJobData)
    : Prop :=
  ∀ delivery world,
    (∃ after,
      (addJob delivery).run (daemonSystem env) world = (.ok (), after)
      ∧ Grown world after (mainData delivery) (delayedData delivery))
    ∨ ¬env.Working ∧ ∃ error, (addJob delivery).run (daemonSystem env) world = (.error error, world)

variable {deps : RecoveryDependencies} {queue : Option QueueName} {name : QueueName}
  {addJob : QueueName → StoredDelivery → DaemonProgram Unit}
  {mainData delayedData : StoredDelivery → List DeliveryJobData}

/-- Adding the jobs of some deliveries one after the other, by induction on the deliveries. -/
theorem run_addEach (usable : queue.filter deps.hasAdd = some name)
    (adds : AddsJob env (addJob name) mainData delayedData) (deliveries : List StoredDelivery)
    (count : Nat) (world : DaemonWorld)
    : ∃ result after,
        (addEach deps queue addJob deliveries count).run (daemonSystem env) world = (result, after)
        ∧ Enqueued env world after deliveries mainData delayedData := by
  induction deliveries generalizing count world with
  | nil => exact ⟨.ok count, world, rfl, [], List.prefix_rfl, Grown.refl world, fun _ => rfl⟩
  | cons delivery rest ih =>
      rcases adds delivery world with ⟨middle, added, grown⟩ | ⟨faulty, error, failed⟩
      · obtain ⟨result, after, others, done, begun, grew, all⟩ := ih (count + 1) middle
        refine ⟨result, after, ?_, delivery :: done, ?_, grown.trans grew, ?_⟩
        · simp only [addEach, usable, Program.bind_eq, Program.run_bind, added, others]
        · exact List.prefix_cons_inj delivery |>.mpr begun
        · exact fun working => congrArg (delivery :: ·) (all working)
      · refine ⟨.error error, world, ?_, [], List.nil_prefix, Grown.refl world, ?_⟩
        · simp only [addEach, usable, Program.bind_eq, Program.run_bind, failed]
        · exact fun working => absurd working faulty

/-- The deliveries that are found get a job each. -/
theorem run_enqueueFound (usable : queue.filter deps.hasAdd = some name)
    (adds : AddsJob env (addJob name) mainData delayedData)
    {look : DaemonProgram (List StoredDelivery)}
    {deliveries : List StoredDelivery} {world : DaemonWorld}
    (looks : look.run (daemonSystem env) world = (.ok deliveries, world)
      ∨ ¬env.Working ∧ ∃ error, look.run (daemonSystem env) world = (.error error, world))
    : ∃ count after,
        (enqueueFound deps look queue addJob).run (daemonSystem env) world = (.ok count, after)
        ∧ Enqueued env world after deliveries mainData delayedData := by
  rcases looks with found | ⟨faulty, error, failed⟩
  · obtain ⟨result, after, added, grown⟩ := run_addEach env usable adds deliveries 0 world
    have looked
        : (enqueueFound deps look queue addJob).run (daemonSystem env) world
          = match result with
            | .ok count => (.ok count, after)
            | .error _ => (.ok 0, after) := by
      simp only [enqueueFound, Program.tryCatch_eq, Program.run_catchError, Program.bind_eq,
        Program.run_bind, found, added]
      cases result <;> rfl
    cases result with
    | ok count => exact ⟨count, after, looked, grown⟩
    | error error => exact ⟨0, after, looked, grown⟩
  · refine ⟨0, world, ?_, [], List.nil_prefix, Grown.refl world, fun working => absurd working faulty⟩
    simp only [enqueueFound, Program.tryCatch_eq, Program.run_catchError, Program.bind_eq,
      Program.run_bind, failed]
    rfl

/-- Looking deliveries up by their status. -/
theorem run_lookUp (status : DeliveryStatus) (find : DaemonProgram (List StoredDelivery))
    (world : DaemonWorld)
    : (lookUp (.wired stale) false find status).run (daemonSystem env) world
        = (.ok (world.table.inStatus status), world)
      ∨ ¬env.Working
        ∧ ∃ error,
            (lookUp (.wired stale) false find status).run (daemonSystem env) world
              = (.error error, world) := by
  have looked
      : (lookUp (.wired stale) false find status).run (daemonSystem env) world
        = daemonSystem env (.findByStatus status) world :=
    run_awaitDaemon
  rw [looked]
  exact daemonSystem_cases env (.findByStatus status) world

theorem addPending_adds
    : AddsJob env (addPending .main) (fun delivery => [pendingData delivery]) (fun _ => []) := by
  intro delivery world
  let call : DaemonCall := .add .main "deliver" (pendingData delivery) {}
  have calls : (addPending .main delivery).run (daemonSystem env) world = daemonSystem env call world :=
    run_awaitDaemon
  rw [calls]
  rcases daemonSystem_cases env call world with added | faulty
  · exact .inl ⟨_, added, rfl, ⟨_, rfl, rfl⟩, [], (List.append_nil _).symm, rfl⟩
  · exact .inr faulty

/-- Pending deliveries get a job each in the main queue. -/
theorem run_enqueuePending (world : DaemonWorld)
    : ∃ count after,
        (enqueuePending (.wired stale)).run (daemonSystem env) world = (.ok count, after)
        ∧ Enqueued env world after (world.table.inStatus .pending)
            (fun delivery => [pendingData delivery]) (fun _ => []) :=
  run_enqueueFound env rfl (addPending_adds env) (run_lookUp env stale .pending _ world)

/-- The delay of a retry is found without changing anything. -/
theorem run_retryDelay (delivery : StoredDelivery) (world : DaemonWorld)
    : (∃ delay, (retryDelay delivery).run (daemonSystem env) world = (.ok delay, world))
      ∨ ¬env.Working
        ∧ ∃ error, (retryDelay delivery).run (daemonSystem env) world = (.error error, world) := by
  unfold retryDelay
  cases delivery.nextRetryAt with
  | none => exact .inl ⟨5000, rfl⟩
  | some nextRetryAt =>
      simp only [Program.bind_eq, Program.run_bind, run_awaitDaemon]
      rcases daemonSystem_cases env .now world with read | ⟨faulty, error, failed⟩
      · exact .inl ⟨_, by rw [read]; rfl⟩
      · exact .inr ⟨faulty, error, by rw [failed]⟩

theorem addRetry_adds
    : AddsJob env (addRetry .delayed) (fun _ => []) (fun delivery => [retryData delivery]) := by
  intro delivery world
  simp only [addRetry, Program.bind_eq, Program.run_bind, run_awaitDaemon]
  rcases run_retryDelay env delivery world with ⟨delay, found⟩ | ⟨faulty, error, failed⟩
  · rw [found]
    let call : DaemonCall := .add .delayed "deliver_retry" (retryData delivery) { delay := delay }
    rcases daemonSystem_cases env call world with added | faulty
    · exact .inl ⟨_, added, rfl, ⟨[], (List.append_nil _).symm, rfl⟩, _, rfl, rfl⟩
    · exact .inr faulty
  · exact .inr ⟨faulty, error, by rw [failed]⟩

/-- Scheduled retries get a job each in the delayed queue. -/
theorem run_enqueueScheduledRetries (world : DaemonWorld)
    : ∃ count after,
        (enqueueScheduledRetries (.wired stale)).run (daemonSystem env) world = (.ok count, after)
        ∧ Enqueued env world after (world.table.inStatus .scheduledRetry) (fun _ => [])
            (fun delivery => [retryData delivery]) :=
  run_enqueueFound env rfl (addRetry_adds env) (run_lookUp env stale .scheduledRetry _ world)

/-- A job that is not removed as orphaned: one without an identifier, or with that of a stored
delivery.
-/
def keeps (table : DeliveryTable) (job : QueueJob DeliveryJobData) : Bool :=
  (deliveryIdOf job).all (fun deliveryId => (table.findById deliveryId).isSome)

/-- A job that is kept is passed over. One that is not is removed, unless a call fails. -/
theorem run_removeEach_cons (job : QueueJob DeliveryJobData)
    (rest : List (QueueJob DeliveryJobData)) (removed : Nat) (world : DaemonWorld)
    : (removeEach (.wired stale) .main (job :: rest) removed).run (daemonSystem env) world
        = (if keeps world.table job then
            (removeEach (.wired stale) .main rest removed).run (daemonSystem env) world
          else
            (removeEach (.wired stale) .main rest (removed + 1)).run (daemonSystem env)
              { world with main := world.main.remove job.id })
      ∨ ¬env.Working
        ∧ ∃ error,
            (removeEach (.wired stale) .main (job :: rest) removed).run (daemonSystem env) world
              = (.error error, world) := by
  rw [removeEach]
  cases named : deliveryIdOf job with
  | none => exact .inl (by simp only [keeps, named, Option.all_none, if_true])
  | some deliveryId =>
      simp only [isStored, RecoveryDependencies.wired, if_true, Program.bind_eq, Program.run_bind,
        run_awaitDaemon]
      rcases daemonSystem_cases env (.findById deliveryId) world
        with found | ⟨faulty, error, failed⟩
      · rw [found]
        cases stored : (world.table.findById deliveryId).isSome with
        | true =>
            left
            simp [performDaemon, keeps, named, stored]
        | false =>
            rcases daemonSystem_cases env (.remove .main job.id) world
              with gone | ⟨faulty, error, failed⟩
            · left
              simp [performDaemon, keeps, named, stored, gone, DaemonWorld.setQueue,
                DaemonWorld.queue]
            · exact .inr ⟨faulty, error, by simp [performDaemon, stored, failed]⟩
      · exact .inr ⟨faulty, error, by rw [failed]⟩

/-- The identifiers of the jobs that are not kept. -/
def orphans (table : DeliveryTable) (jobs : List (QueueJob DeliveryJobData)) : List JobId :=
  (jobs.filter (fun job => !keeps table job)).map QueueJob.id

theorem orphans_cons_kept {table : DeliveryTable} {job : QueueJob DeliveryJobData}
    (kept : keeps table job = true) (rest : List (QueueJob DeliveryJobData))
    : orphans table (job :: rest) = orphans table rest := by
  rw [orphans, List.filter_cons_of_neg (by simp [kept]), orphans]

theorem orphans_cons_gone {table : DeliveryTable} {job : QueueJob DeliveryJobData}
    (gone : keeps table job = false) (rest : List (QueueJob DeliveryJobData))
    : orphans table (job :: rest) = job.id :: orphans table rest := by
  rw [orphans, List.filter_cons_of_pos (by simp [gone]), List.map_cons, orphans]

/-- The removal takes out the orphaned jobs up to the first fault, and all of them without one,
by induction on the jobs still to be looked at.
-/
theorem run_removeEach (jobs : List (QueueJob DeliveryJobData)) (removed : Nat)
    (world : DaemonWorld)
    : ∃ result gone after,
        (removeEach (.wired stale) .main jobs removed).run (daemonSystem env) world
          = (result, after)
        ∧ after.table = world.table
        ∧ after.delayed = world.delayed
        ∧ after.main.jobs = world.main.jobs.filter (fun job => job.id ∉ gone)
        ∧ gone <+: orphans world.table jobs
        ∧ (env.Working → gone = orphans world.table jobs) := by
  induction jobs generalizing removed world with
  | nil => exact ⟨.ok removed, [], world, rfl, rfl, rfl, by simp, List.prefix_rfl, fun _ => rfl⟩
  | cons job rest ih =>
      rcases run_removeEach_cons env stale job rest removed world
        with looked | ⟨faulty, error, failed⟩
      · cases kept : keeps world.table job with
        | true =>
            rw [looked, kept, orphans_cons_kept kept]
            exact ih removed world
        | false =>
            obtain ⟨result, gone, after, others, table, delayed, main, begun, all⟩ :=
              ih (removed + 1) { world with main := world.main.remove job.id }
            rw [looked, kept, orphans_cons_gone kept]
            refine ⟨result, job.id :: gone, after, others, table, delayed, ?_, ?_, ?_⟩
            · rw [main]
              simp only [BullQueue.remove, List.filter_filter, List.mem_cons, not_or]
              refine List.filter_congr (fun other _ => ?_)
              rw [Bool.and_comm, ← Bool.decide_and]
            · exact (List.prefix_cons_inj job.id).mpr begun
            · exact fun working => congrArg (job.id :: ·) (all working)
      · refine ⟨.error error, [], world, failed, rfl, rfl, by simp, List.nil_prefix, ?_⟩
        exact fun working => absurd working faulty

/-- Jobs of the main queue were taken out of it, none that is kept, and nothing else changed. -/
structure Purged (world after : DaemonWorld) : Prop where
  table : after.table = world.table
  delayed : after.delayed = world.delayed
  main : after.main.jobs.Sublist world.main.jobs
  kept : ∀ job ∈ world.main.jobs, keeps world.table job = true → job ∈ after.main.jobs
  all : env.Working → after.main.jobs = world.main.jobs.filter (keeps world.table)

theorem Purged.refl_of_faulty (faulty : ¬env.Working) (world : DaemonWorld)
    : Purged env world world where
  table := rfl
  delayed := rfl
  main := List.Sublist.refl _
  kept _ member _ := member
  all working := absurd working faulty

/-- A job shares its identifier with no other, so it is among the orphans if and only if it is
not kept.
-/
theorem mem_orphans_iff {table : DeliveryTable} {queue : BullQueue DeliveryJobData}
    {job : QueueJob DeliveryJobData} (member : job ∈ queue.jobs)
    : job.id ∈ orphans table queue.jobs ↔ keeps table job = false := by
  constructor
  · intro orphaned
    obtain ⟨other, found, same⟩ := List.mem_map.mp orphaned
    obtain ⟨otherMember, gone⟩ := List.mem_filter.mp found
    rw [BullQueue.eq_of_id_eq otherMember member same] at gone
    simpa using gone
  · intro gone
    exact List.mem_map_of_mem (List.mem_filter.mpr ⟨member, by rw [gone]; rfl⟩)

/-- The main queue keeps the jobs of stored deliveries. -/
theorem run_removeOrphaned (world : DaemonWorld)
    : ∃ removed after,
        (removeOrphaned (.wired stale)).run (daemonSystem env) world = (.ok removed, after)
        ∧ Purged env world after := by
  have usable
      : (RecoveryDependencies.wired stale).mainQueue.filter
          (RecoveryDependencies.wired stale).hasGetJobs
        = some .main :=
    rfl
  simp only [removeOrphaned, usable, Program.tryCatch_eq, Program.run_catchError,
    Program.bind_eq, Program.run_bind, run_awaitDaemon]
  rcases daemonSystem_cases env (.getJobs .main) world with read | ⟨faulty, error, failed⟩
  · obtain ⟨result, gone, after, looked, table, delayed, main, begun, all⟩ :=
      run_removeEach env stale world.main.jobs 0 world
    have purged : Purged env world after := by
      refine ⟨table, delayed, main ▸ List.filter_sublist, ?_, ?_⟩
      · intro job member kept
        rw [main]
        refine List.mem_filter.mpr ⟨member, decide_eq_true (fun taken => ?_)⟩
        have orphaned := (mem_orphans_iff member).mp (begun.subset taken)
        rw [kept] at orphaned
        contradiction
      · intro working
        rw [main, all working]
        refine List.filter_congr (fun job member => ?_)
        simp only [mem_orphans_iff member, Bool.not_eq_false, Bool.decide_eq_true]
    rw [read]
    simp only [performDaemon, DaemonWorld.queue, looked]
    cases result with
    | ok total => exact ⟨total, after, rfl, purged⟩
    | error error => exact ⟨0, after, rfl, purged⟩
  · refine ⟨0, world, ?_, Purged.refl_of_faulty env faulty world⟩
    rw [failed]
    rfl

/-- A reconstruction adds a job for every pending and scheduled delivery, and the main queue
keeps the jobs of stored deliveries.
-/
theorem run_reconstruct (world : DaemonWorld)
    : ∃ result first second after,
        (reconstruct (.wired stale)).run (daemonSystem env) world = (.ok result, after)
        ∧ Enqueued env world first (world.table.inStatus .pending)
            (fun delivery => [pendingData delivery]) (fun _ => [])
        ∧ Enqueued env first second (world.table.inStatus .scheduledRetry) (fun _ => [])
            (fun delivery => [retryData delivery])
        ∧ Purged env second after := by
  obtain ⟨pendingCount, first, enqueued, pending⟩ :=
    run_enqueuePending env stale world
  obtain ⟨retriesCount, second, scheduled, retries⟩ :=
    run_enqueueScheduledRetries env stale first
  obtain ⟨removedCount, after, purge, purged⟩ :=
    run_removeOrphaned env stale second
  have sameTable : first.table = world.table := by
    obtain ⟨_, _, grown, _⟩ := pending
    exact grown.table
  rw [sameTable] at retries
  refine ⟨⟨pendingCount + retriesCount, pendingCount, retriesCount, removedCount⟩, first, second,
    after, ?_, pending, retries, purged⟩
  simp only [reconstruct, Program.bind_eq, Program.run_bind, enqueued, scheduled, purge]
  rfl

end

end QueueReconstructor

end QueueForge.Daemon
