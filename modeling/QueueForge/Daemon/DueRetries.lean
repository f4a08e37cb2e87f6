import QueueForge.Daemon.RetryRuns

/-! What a run of `processScheduledRetries` leaves of the retries that are due when a status cannot
be updated or a job not be added.
-/

namespace QueueForge.Daemon

open QueueForge.Async QueueForge.Js QueueForge.Domain QueueForge.Infrastructure QueueForge.Queue

/-- The status a delivery is stored with. -/
def DaemonWorld.statusOf (world : DaemonWorld) (delivery : StoredDelivery)
    : Option DeliveryStatus :=
  (world.table.findById delivery.id).map (fun row => row.status)

/-- The queue has more jobs for a delivery than before. -/
def Enqueued (before after : DaemonWorld) (delivery : StoredDelivery) : Prop :=
  jobsIn before.main delivery < jobsIn after.main delivery

instance (before after : DaemonWorld) : DecidablePred (Enqueued before after) :=
  fun delivery =>
    inferInstanceAs (Decidable (jobsIn before.main delivery < jobsIn after.main delivery))

/-- A retry that was due is pending if it was enqueued and still scheduled if not, and as many are
counted as were enqueued.
-/
structure Accounted (before after : DaemonWorld) (due : List StoredDelivery) (count : Nat) : Prop
    where
  waiting
    : ∀ delivery ∈ due,
        ¬Enqueued before after delivery → after.statusOf delivery = some .scheduledRetry
  pending
    : ∀ delivery ∈ due, Enqueued before after delivery → after.statusOf delivery = some .pending
  counted : count = due.countP (fun delivery => decide (Enqueued before after delivery))

/-- The call that enqueues a retry. -/
def StoredDelivery.addCall (delivery : StoredDelivery) : DaemonCall :=
  .add .main (jobName delivery.taskResultId delivery.destinationId) delivery.retryJobData {}

namespace DaemonWorld

/-- A delivery was moved back to PENDING. -/
def marked (env : DaemonEnvironment) (world : DaemonWorld) (delivery : StoredDelivery)
    : DaemonWorld :=
  { world with table := world.table.setStatus delivery.id .pending (env.clock world) }

/-- A delivery was moved back to PENDING and enqueued. -/
def dispatched (env : DaemonEnvironment) (world : DaemonWorld) (delivery : StoredDelivery)
    : DaemonWorld :=
  {
    world.marked env delivery with
    main :=
      world.main.add (jobName delivery.taskResultId delivery.destinationId) delivery.retryJobData
  }

end DaemonWorld

namespace DaemonEnvironment

/-- The retries that are due are read. -/
def ReadsDue (env : DaemonEnvironment) (world : DaemonWorld) : Prop :=
  env.fault world .now = none ∧ env.fault world (.findOverdue (env.clock world)) = none

/-- No status update and no addition for the deliveries is rejected, one after the other. -/
def GoesThrough (env : DaemonEnvironment) : List StoredDelivery → DaemonWorld → Prop
  | [], _ => True
  | delivery :: rest, world =>
      env.fault world (.updateDeliveryStatus delivery.id .pending) = none
      ∧ env.fault (world.marked env delivery) delivery.addCall = none
      ∧ env.GoesThrough rest (world.dispatched env delivery)

end DaemonEnvironment

-----------------------------------------------------------------------------------------
-- One delivery
-----------------------------------------------------------------------------------------

section
variable (env : DaemonEnvironment) {world : DaemonWorld} {delivery other : StoredDelivery}

theorem findById_eq_some {table : DeliveryTable} {id : String} {row : StoredDelivery}
    (found : table.findById id = some row)
    : row ∈ table.rows ∧ row.id = id :=
  ⟨List.mem_of_find?_eq_some found, by simpa using List.find?_some found⟩

theorem findById_of_key {table : DeliveryTable} (stored : delivery.key ∈ table.keys)
    : (table.findById delivery.id).isSome = true := by
  obtain ⟨row, member, same⟩ := List.mem_map.mp stored
  have sameId : row.id = delivery.id := congrArg Prod.fst same
  rw [DeliveryTable.findById, List.find?_isSome]
  exact ⟨row, member, decide_eq_true sameId⟩

/-- The delivery that is stored under an identifier. -/
theorem findById_of_mem {table : DeliveryTable} (stored : delivery ∈ table.rows)
    : table.findById delivery.id = some delivery := by
  obtain ⟨row, found⟩ :=
    Option.isSome_iff_exists.mp (findById_of_key (List.mem_map_of_mem stored))
  have ⟨member, sameId⟩ := findById_eq_some found
  rw [found, List.inj_on_of_nodup_map table.keyed member stored sameId]

/-- The status of one delivery changes. -/
theorem statusOf_marked (stored : delivery.key ∈ world.table.keys)
    : (world.marked env delivery).statusOf other
      = if other.id = delivery.id then some .pending else world.statusOf other := by
  have lookup
      : (world.marked env delivery).table.findById other.id
        = (world.table.findById other.id).map (fun row =>
            if row.id = delivery.id then
              { row with status := .pending, updatedAt := env.clock world }
            else
              row) := by
    simp only [DeliveryTable.findById, DaemonWorld.marked, DeliveryTable.setStatus,
      List.find?_map]
    refine congrArg _ (congrArg (fun test => List.find? test world.table.rows) (funext fun row => ?_))
    simp only [Function.comp]
    split <;> rfl
  rw [DaemonWorld.statusOf, lookup, DaemonWorld.statusOf, Option.map_map]
  by_cases same : other.id = delivery.id
  · obtain ⟨row, found⟩ := Option.isSome_iff_exists.mp (findById_of_key stored)
    have sameId : row.id = delivery.id := (findById_eq_some found).2
    rw [if_pos same, same, found, Option.map_some, Function.comp, if_pos sameId]
  · rw [if_neg same]
    cases found : world.table.findById other.id with
    | none => rfl
    | some row =>
        have sameId : row.id = other.id := (findById_eq_some found).2
        rw [Option.map_some, Option.map_some, Function.comp, if_neg (sameId ▸ same)]

/-- One job is added, for the deliveries with its pair. -/
theorem jobsIn_dispatched
    : jobsIn (world.dispatched env delivery).main other
      = jobsIn world.main other + if delivery.pair = other.pair then 1 else 0 := by
  rw [DaemonWorld.dispatched, jobsIn, BullQueue.contents, BullQueue.jobs_add_auto, List.map_append,
    List.countP_append, List.map_singleton, List.countP_singleton, isJob_retryJobData, jobsIn,
    BullQueue.contents]
  simp only [decide_eq_true_eq]

theorem keys_dispatched : (world.dispatched env delivery).table.keys = world.table.keys :=
  keys_setStatus _ _ _ _

/-- The other deliveries are stored all the same. -/
theorem stored_dispatched {rest : List StoredDelivery}
    (stored : ∀ other ∈ delivery :: rest, other.key ∈ world.table.keys)
    : ∀ other ∈ rest, other.key ∈ (world.dispatched env delivery).table.keys := by
  intro other member
  rw [keys_dispatched]
  exact stored other (List.mem_cons_of_mem _ member)

theorem statusOf_dispatched (stored : delivery.key ∈ world.table.keys)
    : (world.dispatched env delivery).statusOf other
      = if other.id = delivery.id then some .pending else world.statusOf other :=
  statusOf_marked env stored

/-- A stored delivery is dispatched when neither call is rejected, and not enqueued otherwise. -/
theorem run_dispatch_cases (stored : delivery.key ∈ world.table.keys)
    : ((DelayedQueueProcessor.dispatch delivery).run (daemonSystem env) world
          = (.ok (), world.dispatched env delivery)
        ∧ env.fault world (.updateDeliveryStatus delivery.id .pending) = none
        ∧ env.fault (world.marked env delivery) delivery.addCall = none)
      ∨ ((∃ error after,
            (DelayedQueueProcessor.dispatch delivery).run (daemonSystem env) world
              = (.error error, after)
            ∧ after.main = world.main)
          ∧ ¬(env.fault world (.updateDeliveryStatus delivery.id .pending) = none
            ∧ env.fault (world.marked env delivery) delivery.addCall = none)) := by
  obtain ⟨row, found⟩ := Option.isSome_iff_exists.mp (findById_of_key stored)
  simp only [DelayedQueueProcessor.dispatch, Program.bind_eq, Program.run_bind, run_awaitDaemon]
  cases update : env.fault world (.updateDeliveryStatus delivery.id .pending) with
  | some error =>
      refine .inr ⟨⟨error, world, ?_, rfl⟩, (by simp)⟩
      simp only [daemonSystem, update]
  | none =>
      have updated
          : daemonSystem env (.updateDeliveryStatus delivery.id .pending) world
            = (.ok (), world.marked env delivery) := by
        simp only [daemonSystem, update, performDaemon, found]
        rfl
      rw [updated]
      cases added : env.fault (world.marked env delivery) delivery.addCall with
      | some error =>
          refine .inr ⟨⟨error, world.marked env delivery, ?_, rfl⟩, fun both => (by cases both.2)⟩
          rw [StoredDelivery.addCall] at added
          simp only [daemonSystem, added]
      | none =>
          refine .inl ⟨?_, rfl, rfl⟩
          rw [StoredDelivery.addCall] at added
          simp only [daemonSystem, added, performDaemon]
          rfl

end

-----------------------------------------------------------------------------------------
-- All that are due
-----------------------------------------------------------------------------------------

section
variable (env : DaemonEnvironment) {world : DaemonWorld} {rest : List StoredDelivery}

/-- Where nothing is rejected, every delivery gets one job more and is pending. By induction on the
deliveries.
-/
theorem run_dispatchEach_through (stored : ∀ delivery ∈ rest, delivery.key ∈ world.table.keys)
    (through : env.GoesThrough rest world)
    : ∃ after,
        (Program.forEach DelayedQueueProcessor.dispatch rest).run (daemonSystem env) world
          = (.ok (), after)
        ∧ (∀ delivery, jobsIn world.main delivery ≤ jobsIn after.main delivery)
        ∧ (∀ delivery, world.statusOf delivery = some .pending
            → after.statusOf delivery = some .pending)
        ∧ ∀ delivery ∈ rest,
            Enqueued world after delivery ∧ after.statusOf delivery = some .pending := by
  induction rest generalizing world with
  | nil =>
      exact ⟨world, rfl, fun _ => Nat.le_refl _, fun _ same => same,
        fun _ member => absurd member List.not_mem_nil⟩
  | cons delivery rest ih =>
      obtain ⟨updated, added, through⟩ := through
      have first : delivery.key ∈ world.table.keys := stored delivery List.mem_cons_self
      rcases run_dispatch_cases env first with ⟨ran, -⟩ | ⟨-, rejected⟩
      · obtain ⟨after, others, more, kept, each⟩ :=
          ih (stored_dispatched env stored) through
        have marked (other : StoredDelivery) (same : other.id = delivery.id)
            : after.statusOf other = some .pending :=
          kept other (by rw [statusOf_dispatched env first, if_pos same])
        have grown (other : StoredDelivery)
            : jobsIn world.main other ≤ jobsIn (world.dispatched env delivery).main other := by
          rw [jobsIn_dispatched]
          exact Nat.le_add_right _ _
        refine ⟨after, ?_, ?_, ?_, ?_⟩
        · rw [Program.forEach, Program.run_bind, ran]
          exact others
        · exact fun other => (grown other).trans (more other)
        · intro other pending
          apply kept
          rw [statusOf_dispatched env first, pending, ite_self]
        · intro other member
          rcases List.mem_cons.mp member with rfl | later
          · have next := more other
            rw [jobsIn_dispatched, if_pos rfl] at next
            exact ⟨next, marked other rfl⟩
          · obtain ⟨enqueued, pending⟩ := each other later
            exact ⟨Nat.lt_of_le_of_lt (grown other) enqueued, pending⟩
      · exact absurd ⟨updated, added⟩ rejected

/-- Where a call is rejected, the run ends there, and a delivery has no job more than before. By
induction on the deliveries.
-/
theorem run_dispatchEach_rejected (stored : ∀ delivery ∈ rest, delivery.key ∈ world.table.keys)
    (apart : (rest.map StoredDelivery.pair).Nodup) (rejected : ¬env.GoesThrough rest world)
    : ∃ error after,
        (Program.forEach DelayedQueueProcessor.dispatch rest).run (daemonSystem env) world
          = (.error error, after)
        ∧ ∃ delivery ∈ rest, ¬Enqueued world after delivery := by
  induction rest generalizing world with
  | nil => exact absurd trivial rejected
  | cons delivery rest ih =>
      have first : delivery.key ∈ world.table.keys := stored delivery List.mem_cons_self
      have ⟨alone, apart⟩ := List.nodup_cons.mp apart
      rw [Program.forEach, Program.run_bind]
      rcases run_dispatch_cases env first with ⟨ran, updated, added⟩ | ⟨⟨error, after, ran, same⟩, -⟩
      · rw [ran]
        have later : ¬env.GoesThrough rest (world.dispatched env delivery) :=
          fun through => rejected ⟨updated, added, through⟩
        obtain ⟨error, after, others, other, member, none⟩ :=
          ih (stored_dispatched env stored) apart later
        have different : delivery.pair ≠ other.pair :=
          fun same => alone (same ▸ List.mem_map_of_mem member)
        refine ⟨error, after, others, other, List.mem_cons_of_mem _ member, ?_⟩
        rwa [Enqueued, jobsIn_dispatched, if_neg different] at none
      · rw [ran]
        refine ⟨error, after, rfl, delivery, List.mem_cons_self, ?_⟩
        rw [Enqueued, same]
        exact Nat.lt_irrefl _

end

section
variable (env : DaemonEnvironment) (world : DaemonWorld)

/-- Nothing is owed where nothing was enqueued and nothing is counted. -/
theorem accounted_unchanged : Accounted world world (world.table.overdue (env.clock world)) 0 where
  waiting := by
    intro delivery member _
    have ⟨stored, due⟩ := List.mem_filter.mp member
    rw [Bool.and_eq_true, decide_eq_true_eq] at due
    rw [DaemonWorld.statusOf, findById_of_mem stored, Option.map_some, due.1]
  pending := fun _ _ enqueued => absurd enqueued (Nat.lt_irrefl _)
  counted := by
    symm
    rw [List.countP_eq_zero]
    exact fun _ _ enqueued => absurd (of_decide_eq_true enqueued) (Nat.lt_irrefl _)

/-- Nothing is done where what is due is not read. -/
theorem run_processOverdue_unread (unread : ¬env.ReadsDue world)
    : DelayedQueueProcessor.processOverdue.run (daemonSystem env) world = (.ok 0, world) := by
  simp only [DelayedQueueProcessor.processOverdue, Program.tryCatch_eq, Program.run_catchError,
    Program.bind_eq, Program.run_bind, run_awaitDaemon]
  cases clock : env.fault world .now with
  | some error => simp only [daemonSystem, clock, Program.pure_eq, Program.run_done]
  | none =>
      cases lookup : env.fault world (.findOverdue (env.clock world)) with
      | some error =>
          simp only [daemonSystem, clock, performDaemon, lookup, Program.pure_eq, Program.run_done]
      | none => exact absurd ⟨clock, lookup⟩ unread

/-- Every delivery is dispatched up to the first call that is rejected, and all that are due are
counted.
-/
theorem run_processOverdue_read (read : env.ReadsDue world)
    : DelayedQueueProcessor.processOverdue.run (daemonSystem env) world
      = (.ok (world.table.overdue (env.clock world)).length,
          ((Program.forEach DelayedQueueProcessor.dispatch
            (world.table.overdue (env.clock world))).run (daemonSystem env) world).2) := by
  have now : daemonSystem env .now world = (.ok (env.clock world), world) := by
    simp only [daemonSystem, read.1, performDaemon]
  have found
      : daemonSystem env (.findOverdue (env.clock world)) world
        = (.ok (world.table.overdue (env.clock world)), world) := by
    simp only [daemonSystem, read.2, performDaemon]
  simp only [DelayedQueueProcessor.processOverdue, Program.tryCatch_eq, Program.run_catchError,
    Program.bind_eq, Program.run_bind, run_awaitDaemon, now, found]
  generalize (Program.forEach DelayedQueueProcessor.dispatch
    (world.table.overdue (env.clock world))).run (daemonSystem env) world = ran
  obtain ⟨outcome, after⟩ := ran
  cases outcome <;> rfl

/-- The retries that are due are accounted for if and only if they are not read or nothing that is
done with them is rejected.
-/
theorem accounted_iff
    : (∃ count,
        (DelayedQueueProcessor.processOverdue.run (daemonSystem env) world).1 = .ok count
        ∧ Accounted world (DelayedQueueProcessor.processOverdue.run (daemonSystem env) world).2
            (world.table.overdue (env.clock world)) count)
      ↔ (env.ReadsDue world → env.GoesThrough (world.table.overdue (env.clock world)) world) := by
  by_cases read : env.ReadsDue world
  · have stored
        : ∀ delivery ∈ world.table.overdue (env.clock world), delivery.key ∈ world.table.keys :=
      fun delivery member => List.mem_map_of_mem (List.mem_of_mem_filter member)
    have apart : ((world.table.overdue (env.clock world)).map StoredDelivery.pair).Nodup :=
      (List.filter_sublist.map _).nodup world.table.paired
    rw [run_processOverdue_read env world read]
    constructor
    · rintro ⟨count, counted, accounted⟩ _
      by_contra rejected
      obtain ⟨error, after, ran, delivery, member, missing⟩ :=
        run_dispatchEach_rejected env stored apart rejected
      cases counted
      rw [ran] at accounted
      have all := List.countP_eq_length.mp accounted.counted.symm delivery member
      exact missing (of_decide_eq_true all)
    · intro through
      obtain ⟨after, ran, -, -, each⟩ := run_dispatchEach_through env stored (through read)
      rw [ran]
      refine ⟨_, rfl, ?_, ?_, ?_⟩
      · exact fun delivery member waiting => absurd (each delivery member).1 waiting
      · exact fun delivery member _ => (each delivery member).2
      · symm
        rw [List.countP_eq_length]
        exact fun delivery member => decide_eq_true (each delivery member).1
  · rw [run_processOverdue_unread env world read]
    refine iff_of_true ⟨0, rfl, accounted_unchanged env world⟩ (fun reads => absurd reads read)

end

/-- After a run of `processScheduledRetries` with a working tracer, a retry that was due is pending
if it was enqueued and still scheduled if not, and the number of those that were enqueued is
returned, if and only if the run is skipped or cannot read what is due, or no status update and no
addition of the run is rejected.
-/
theorem due_retries_accounted_iff (env : DaemonEnvironment) (daemons : RetryDaemons)
    : (∃ count,
        (daemons.processScheduledRetries env true).1 = .ok count
        ∧ Accounted daemons.world (daemons.processScheduledRetries env true).2.world
            (daemons.world.table.overdue (env.clock daemons.world)) count)
      ↔ (daemons.processing = false → env.ReadsDue daemons.world
          → env.GoesThrough (daemons.world.table.overdue (env.clock daemons.world))
              daemons.world) := by
  obtain ⟨world, syncing, processing⟩ := daemons
  cases processing with
  | true => exact iff_of_true ⟨0, rfl, accounted_unchanged env world⟩ nofun
  | false => exact (accounted_iff env world).trans ⟨fun holds _ => holds, fun holds => holds rfl⟩

/-- An environment in which no job can be added. -/
def queueDown : DaemonEnvironment where
  clock _ := 0
  fault _ call :=
    match call with
    | .add _ _ _ _ => some (.error (builtinError .error "Error" "Connection is closed."))
    | _ => none
  stale _ _ := []
  staleProcessing := nothingStale

/-- One retry that is due, and no job for it. -/
def oneDue : RetryDaemons :=
  ⟨oneDelivery .scheduledRetry (some 0) 0, false, false⟩

/-- A retry whose job cannot be added is pending although it was not enqueued, and is counted. -/
theorem due_retry_stranded
    : sampleDelivery .scheduledRetry (some 0) 0 ∈ oneDue.world.table.overdue 0
      ∧ (oneDue.processScheduledRetries queueDown true).1 = .ok 1
      ∧ ¬Enqueued oneDue.world (oneDue.processScheduledRetries queueDown true).2.world
          (sampleDelivery .scheduledRetry (some 0) 0)
      ∧ (oneDue.processScheduledRetries queueDown true).2.world.statusOf
          (sampleDelivery .scheduledRetry (some 0) 0)
        = some .pending := by
  decide

end QueueForge.Daemon
