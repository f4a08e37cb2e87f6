import Mathlib.Data.List.Count
import QueueForge.Daemon.RecoveryDaemon

/-! Runs of reconstructions and recovery cycles: every one adds its jobs again, whatever is
queued, and none changes a stored delivery.
-/

namespace QueueForge.Daemon

open QueueForge.Async QueueForge.Js QueueForge.Domain QueueForge.Infrastructure QueueForge.Queue
open QueueReconstructor (keeps pendingData retryData Enqueued Purged)

/-- How many jobs the queues hold for a delivery. -/
def jobsFor (delivery : StoredDelivery) (world : DaemonWorld) : Nat :=
  (world.main.contents ++ world.delayed.contents).countP delivery.isJob

/-- How many of them are not removed as orphaned. -/
def lastingJobsFor (delivery : StoredDelivery) (world : DaemonWorld) : Nat :=
  ((world.main.jobs.filter (keeps world.table)).map QueueJob.data
    ++ world.delayed.contents).countP delivery.isJob

/-- A delivery that waits for its job. -/
def StoredDelivery.awaitsJob (delivery : StoredDelivery) : Prop :=
  delivery.status = .pending ∨ delivery.status = .scheduledRetry

/-- A number for a delivery in a status, and none for the others. -/
def ifStatus (delivery : StoredDelivery) (status : DeliveryStatus) (number : Nat) : Nat :=
  if delivery.status = status then number else 0

section
variable {table : DeliveryTable} {delivery : StoredDelivery}

theorem eq_of_id_eq {other : StoredDelivery} (stored : delivery ∈ table.rows)
    (otherStored : other ∈ table.rows) (same : delivery.id = other.id)
    : delivery = other :=
  List.inj_on_of_nodup_map table.keyed stored otherStored same

theorem findById_isSome (stored : delivery ∈ table.rows)
    : (table.findById delivery.id).isSome = true :=
  List.find?_isSome.mpr ⟨delivery, stored, decide_eq_true rfl⟩

/-- A delivery is found once among those in its status, and never among the others. -/
theorem countP_inStatus (stored : delivery ∈ table.rows) (status : DeliveryStatus)
    : (table.inStatus status).countP (fun other => other.id = delivery.id)
      = ifStatus delivery status 1 := by
  unfold ifStatus
  split
  next same =>
    have member : delivery ∈ table.inStatus status :=
      List.mem_filter.mpr ⟨stored, decide_eq_true same⟩
    have distinct : ((table.inStatus status).map (fun row => row.id)).Nodup :=
      (List.filter_sublist.map _).nodup table.keyed
    have once := List.count_eq_one_of_mem distinct (List.mem_map_of_mem member)
    rw [List.count, List.countP_map] at once
    exact once
  next differs =>
    refine List.countP_eq_zero.mpr (fun other member same => differs ?_)
    obtain ⟨otherStored, inStatus⟩ := List.mem_filter.mp member
    rw [eq_of_id_eq stored otherStored (of_decide_eq_true same).symm]
    exact of_decide_eq_true inStatus

/-- A job that names a stored delivery is not removed as orphaned. -/
theorem keeps_of_deliveryId {job : QueueJob DeliveryJobData} (stored : delivery ∈ table.rows)
    (named : job.data.deliveryId = some delivery.id)
    : keeps table job = true := by
  have present := table.named delivery stored
  simp [keeps, QueueReconstructor.deliveryIdOf, named, orString, findById_isSome stored]

end

section
variable {env : DaemonEnvironment} {world after : DaemonWorld} {delivery : StoredDelivery}
  {mainData delayedData : List DeliveryJobData}

theorem Grown.jobsFor (grown : Grown world after mainData delayedData) (delivery : StoredDelivery)
    : jobsFor delivery after
      = jobsFor delivery world
        + mainData.countP delivery.isJob + delayedData.countP delivery.isJob := by
  obtain ⟨newMain, mainJobs, rfl⟩ := grown.main
  obtain ⟨newDelayed, delayedJobs, rfl⟩ := grown.delayed
  simp only [Daemon.jobsFor, BullQueue.contents, mainJobs, delayedJobs, List.map_append,
    List.countP_append]
  omega

/-- Jobs that name stored deliveries are added to those that last. -/
theorem Grown.lastingJobsFor (grown : Grown world after mainData delayedData)
    (delivery : StoredDelivery)
    (named : ∀ data ∈ mainData, ∃ other ∈ world.table.rows, data.deliveryId = some other.id)
    : lastingJobsFor delivery after
      = lastingJobsFor delivery world
        + mainData.countP delivery.isJob + delayedData.countP delivery.isJob := by
  obtain ⟨newMain, mainJobs, rfl⟩ := grown.main
  obtain ⟨newDelayed, delayedJobs, rfl⟩ := grown.delayed
  have allKept : newMain.filter (keeps world.table) = newMain := by
    refine List.filter_eq_self.mpr (fun job member => ?_)
    obtain ⟨other, stored, same⟩ := named job.data (List.mem_map_of_mem member)
    exact keeps_of_deliveryId stored same
  simp only [Daemon.lastingJobsFor, grown.table, BullQueue.contents, mainJobs, delayedJobs,
    List.filter_append, allKept, List.map_append, List.countP_append]
  omega

theorem lastingJobsFor_le (delivery : StoredDelivery) (world : DaemonWorld)
    : lastingJobsFor delivery world ≤ jobsFor delivery world := by
  simp only [lastingJobsFor, jobsFor, BullQueue.contents, List.countP_append]
  exact Nat.add_le_add_right (List.Sublist.countP_le (List.filter_sublist.map _)) _

theorem isJob_pendingData (other : StoredDelivery)
    : delivery.isJob (pendingData other) = decide (other.id = delivery.id) := by
  simp [StoredDelivery.isJob, pendingData]

theorem isJob_retryData (other : StoredDelivery)
    : delivery.isJob (retryData other) = decide (other.id = delivery.id) := by
  simp [StoredDelivery.isJob, retryData]

/-- A delivery gets at most one of the jobs that are added for the deliveries in a status, and
exactly one without faults.
-/
theorem countP_jobs {table : DeliveryTable} (stored : delivery ∈ table.rows)
    {status : DeliveryStatus} {data : StoredDelivery → DeliveryJobData}
    (isJob : ∀ other, delivery.isJob (data other) = decide (other.id = delivery.id))
    {done : List StoredDelivery} (begun : done <+: table.inStatus status)
    : (done.flatMap (fun other => [data other])).countP delivery.isJob
        ≤ ifStatus delivery status 1
      ∧ (done = table.inStatus status →
          (done.flatMap (fun other => [data other])).countP delivery.isJob
            = ifStatus delivery status 1) := by
  have counted
      : (done.flatMap (fun other => [data other])).countP delivery.isJob
        = done.countP (fun other => other.id = delivery.id) := by
    rw [← List.map_eq_flatMap, List.countP_map]
    exact congrArg (List.countP · done) (funext isJob)
  rw [counted, ← countP_inStatus stored status]
  exact ⟨begun.sublist.countP_le, fun all => by rw [all]⟩

theorem named_of_mem {status : DeliveryStatus} {done : List StoredDelivery}
    (begun : done <+: world.table.inStatus status)
    : ∀ data ∈ done.flatMap (fun other => [pendingData other]),
        ∃ other ∈ world.table.rows, data.deliveryId = some other.id := by
  rw [← List.map_eq_flatMap]
  intro data member
  obtain ⟨other, found, rfl⟩ := List.mem_map.mp member
  exact ⟨other, (List.mem_filter.mp (begun.subset found)).1, rfl⟩

theorem flatMap_nil (done : List StoredDelivery)
    : done.flatMap (fun _ => ([] : List DeliveryJobData)) = [] :=
  List.flatMap_eq_nil_iff.mpr (fun _ _ => rfl)

theorem countP_repeated (found : List StoredDelivery) (data : List DeliveryJobData)
    : (found.flatMap (fun _ => data)).countP delivery.isJob
      = found.length * data.countP delivery.isJob := by
  induction found with
  | nil => exact (Nat.zero_mul _).symm
  | cons _ rest ih =>
      rw [List.flatMap_cons, List.countP_append, ih, List.length_cons, Nat.succ_mul, Nat.add_comm]

/-- Enqueueing the pending deliveries over and over adds a job for a pending one each time. -/
theorem repeated_counts {found : List StoredDelivery}
    (grown
      : Grown world after
          (found.flatMap (fun _ => (world.table.inStatus .pending).map pendingData)) [])
    (stored : delivery ∈ world.table.rows)
    : lastingJobsFor delivery after
      = lastingJobsFor delivery world + ifStatus delivery .pending found.length := by
  have once
      : ((world.table.inStatus .pending).map pendingData).countP delivery.isJob
        = ifStatus delivery .pending 1 := by
    rw [List.map_eq_flatMap]
    exact (countP_jobs stored isJob_pendingData List.prefix_rfl).2 rfl
  rw [grown.lastingJobsFor]
  · rw [countP_repeated, once]
    simp [ifStatus]
  · intro data member
    obtain ⟨_, _, pending⟩ := List.mem_flatMap.mp member
    rw [List.map_eq_flatMap] at pending
    exact named_of_mem List.prefix_rfl data pending

/-- A reconstruction leaves the table alone and adds at most one job for a delivery that awaits
one. Without faults it adds exactly one, and every job is one that lasts.
-/
theorem reconstruct_counts {stale : Bool} {result : ReconstructionResult}
    (ran
      : (QueueReconstructor.reconstruct (.wired stale)).run (daemonSystem env) world
        = (.ok result, after))
    : after.table = world.table
      ∧ ∀ delivery ∈ world.table.rows,
          jobsFor delivery after
            ≤ jobsFor delivery world + ifStatus delivery .pending 1
              + ifStatus delivery .scheduledRetry 1
          ∧ (env.Working →
              jobsFor delivery after = lastingJobsFor delivery after
              ∧ lastingJobsFor delivery after
                = lastingJobsFor delivery world + ifStatus delivery .pending 1
                  + ifStatus delivery .scheduledRetry 1) := by
  obtain ⟨_, first, second, _, reran, ⟨pending, begun, grew, allPending⟩,
    ⟨scheduled, begunRetries, grewRetries, allScheduled⟩, purged⟩ :=
    QueueReconstructor.run_reconstruct env stale world
  obtain ⟨-, rfl⟩ := Prod.mk.inj (ran.symm.trans reran)
  rw [flatMap_nil] at grew grewRetries
  refine ⟨purged.table.trans (grewRetries.table.trans grew.table), ?_⟩
  intro delivery stored
  obtain ⟨mostPending, eachPending⟩ := countP_jobs stored isJob_pendingData begun
  obtain ⟨mostScheduled, eachScheduled⟩ := countP_jobs stored isJob_retryData begunRetries
  have added := grew.jobsFor delivery
  have addedRetries := grewRetries.jobsFor delivery
  have none : [].countP delivery.isJob = 0 := rfl
  constructor
  · have fewer : jobsFor delivery after ≤ jobsFor delivery second := by
      simp only [jobsFor, BullQueue.contents, purged.delayed, List.countP_append]
      exact Nat.add_le_add_right (purged.main.map _).countP_le _
    omega
  · intro working
    have lasts := grew.lastingJobsFor delivery (named_of_mem begun)
    have lastRetries := grewRetries.lastingJobsFor delivery (by rintro _ ⟨⟩)
    have sameTable := purged.table
    have kept : jobsFor delivery after = lastingJobsFor delivery second := by
      simp only [jobsFor, lastingJobsFor, BullQueue.contents, purged.delayed, purged.all working]
    have keptTwice : lastingJobsFor delivery after = lastingJobsFor delivery second := by
      simp only [lastingJobsFor, purged.table, purged.delayed, purged.all working,
        List.filter_filter, Bool.and_self]
    have exact := eachPending (allPending working)
    have exactRetries := eachScheduled (allScheduled working)
    omega

end

/-- One run: a reconstruction, or a recovery cycle with it. -/
inductive RecoveryStep where
  | reconstruct
  | cycle (detector : Option StaleJobDetector) (dlqMonitor : Bool)

/-- A run, with the faults and the clock it meets. -/
structure RecoveryRun where
  env : DaemonEnvironment
  step : RecoveryStep

namespace RecoveryRun

variable (stale : Bool) (run : RecoveryRun) (world : DaemonWorld)

/-- The world after a run. -/
def after : DaemonWorld :=
  match run.step with
  | .reconstruct =>
      ((QueueReconstructor.reconstruct (.wired stale)).run (daemonSystem run.env) world).2
  | .cycle detector dlqMonitor =>
      ((RecoveryDaemon.execute (.wired stale) ⟨detector, true, dlqMonitor⟩).run
        (daemonSystem run.env) world).2

/-- How often a run enqueues the pending deliveries, when no call fails. -/
def passes : Nat :=
  match run.step with
  | .reconstruct => 1
  | .cycle detector _ => (reported run.env stale detector world).countP RecoveryDaemon.retriesLeft + 1

theorem passes_pos : 1 ≤ run.passes stale world := by
  unfold passes
  split
  next => exact Nat.le_refl 1
  next => exact Nat.le_add_left 1 _

/-- A run without faults adds a job for each of its passes and one for a scheduled retry, and
every job is one that lasts.
-/
theorem after_counts (working : run.env.Working)
    : (run.after stale world).table = world.table
      ∧ ∀ delivery ∈ world.table.rows,
          jobsFor delivery (run.after stale world) = lastingJobsFor delivery (run.after stale world)
          ∧ lastingJobsFor delivery (run.after stale world)
            = lastingJobsFor delivery world + ifStatus delivery .pending (run.passes stale world)
              + ifStatus delivery .scheduledRetry 1 := by
  obtain ⟨env, step⟩ := run
  cases step with
  | reconstruct =>
      obtain ⟨result, _, _, after, ran, _⟩ :=
        QueueReconstructor.run_reconstruct env stale world
      obtain ⟨table, counts⟩ := reconstruct_counts ran
      simp only [RecoveryRun.after, ran, passes]
      exact ⟨table, fun delivery stored => (counts delivery stored).2 working⟩
  | cycle detector dlqMonitor =>
      obtain ⟨cycle, middle, result, after, ran, grown, reconstructed⟩ :=
        RecoveryDaemon.run_execute env stale ⟨detector, true, dlqMonitor⟩ working rfl world
      obtain ⟨table, counts⟩ := reconstruct_counts reconstructed
      rw [grown.table] at table counts
      simp only [RecoveryRun.after, ran, passes]
      refine ⟨table, fun delivery stored => ?_⟩
      obtain ⟨same, lasts⟩ := (counts delivery stored).2 working
      refine ⟨same, lasts.trans ?_⟩
      rw [repeated_counts grown stored, ← List.countP_eq_length_filter]
      simp only [ifStatus]
      split <;> omega

/-- A single pass adds at most one job for a delivery that awaits one, whatever fails. -/
theorem after_single (single : run.passes stale world = 1)
    : (run.after stale world).table = world.table
      ∧ ∀ delivery ∈ world.table.rows,
          jobsFor delivery (run.after stale world)
            ≤ jobsFor delivery world + ifStatus delivery .pending 1
              + ifStatus delivery .scheduledRetry 1 := by
  obtain ⟨env, step⟩ := run
  cases step with
  | reconstruct =>
      obtain ⟨result, _, _, after, ran, _⟩ :=
        QueueReconstructor.run_reconstruct env stale world
      obtain ⟨table, counts⟩ := reconstruct_counts ran
      simp only [RecoveryRun.after, ran]
      exact ⟨table, fun delivery stored => (counts delivery stored).1⟩
  | cycle detector dlqMonitor =>
      have idle
          : ∀ row ∈ reported env stale detector world, RecoveryDaemon.retriesLeft row = false := by
        intro row found
        have none := List.countP_eq_zero.mp (Nat.succ.inj single) row found
        simpa using none
      obtain ⟨outcome, after, ran, unchanged⟩ :=
        RecoveryDaemon.run_execute_idle env stale ⟨detector, true, dlqMonitor⟩ rfl idle
      simp only [RecoveryRun.after, ran]
      rcases unchanged with rfl | ⟨result, reconstructed⟩
      · exact ⟨rfl, fun delivery _ => by omega⟩
      · obtain ⟨table, counts⟩ := reconstruct_counts reconstructed
        exact ⟨table, fun delivery stored => (counts delivery stored).1⟩

end RecoveryRun

/-- The world after some runs, one after the other. -/
def afterRuns (stale : Bool) (runs : List RecoveryRun) (start : DaemonWorld) : DaemonWorld :=
  runs.foldl (fun world run => run.after stale world) start

section
variable {runs : List RecoveryRun} {delivery : StoredDelivery}

/-- Every run adds a job for a delivery that awaits one, by induction on the runs. -/
theorem afterRuns_counts (stale : Bool) (start : DaemonWorld)
    (working : ∀ run ∈ runs, run.env.Working)
    : (afterRuns stale runs start).table = start.table
      ∧ ∀ delivery ∈ start.table.rows,
          lastingJobsFor delivery start + ifStatus delivery .pending runs.length
              + ifStatus delivery .scheduledRetry runs.length
            ≤ lastingJobsFor delivery (afterRuns stale runs start) := by
  induction runs generalizing start with
  | nil => exact ⟨rfl, fun delivery _ => by simp [afterRuns, ifStatus]⟩
  | cons run rest ih =>
      obtain ⟨table, counts⟩ :=
        run.after_counts stale start (working run List.mem_cons_self)
      obtain ⟨tables, others⟩ := ih (run.after stale start)
        (fun other member => working other (List.mem_cons_of_mem _ member))
      rw [table] at tables others
      refine ⟨tables, fun delivery stored => ?_⟩
      have first := (counts delivery stored).2
      have later := others delivery stored
      have pass := run.passes_pos stale start
      have all : afterRuns stale (run :: rest) start = afterRuns stale rest (run.after stale start) :=
        rfl
      rw [all]
      simp only [ifStatus, List.length_cons] at first later ⊢
      split at first <;> split at first <;> simp_all <;> omega

end

/-- At most one job is queued for every delivery that awaits one. -/
def OneJobEach (world : DaemonWorld) : Prop :=
  ∀ delivery ∈ world.table.rows, delivery.awaitsJob → jobsFor delivery world ≤ 1

/-- Runs of reconstructions and recovery cycles leave at most one job for every delivery that
awaits one if and only if, where there is such a delivery, they are a single run, with a single
pass for a pending one, and no job for the delivery lasts from before. If a call fails, a single
pass still adds no more than one job.
-/
theorem runs_enqueue_once_iff (stale : Bool) (first : RecoveryRun) (later : List RecoveryRun)
    (start : DaemonWorld)
    : ((∀ run ∈ first :: later, run.env.Working)
        → (OneJobEach (afterRuns stale (first :: later) start)
          ↔ ∀ delivery ∈ start.table.rows,
              delivery.awaitsJob
              → later = []
                ∧ (delivery.status = .pending → first.passes stale start = 1)
                ∧ lastingJobsFor delivery start = 0))
      ∧ (first.passes stale start = 1
        → (∀ delivery ∈ start.table.rows, delivery.awaitsJob → jobsFor delivery start = 0)
        → OneJobEach (afterRuns stale [first] start)) := by
  constructor
  · intro working
    obtain ⟨table, atLeast⟩ := afterRuns_counts stale start working
    obtain ⟨firstTable, counts⟩ :=
      first.after_counts stale start (working first List.mem_cons_self)
    unfold OneJobEach
    rw [table]
    refine forall₂_congr (fun delivery stored => forall_congr' (fun awaits => ?_))
    obtain ⟨same, exact⟩ := counts delivery stored
    have lower := atLeast delivery stored
    have all := lastingJobsFor_le delivery (afterRuns stale (first :: later) start)
    constructor
    · intro most
      have waits
          : ifStatus delivery .pending (first :: later).length
              + ifStatus delivery .scheduledRetry (first :: later).length
            = later.length + 1 := by
        rcases awaits with pending | scheduled
        · simp [ifStatus, pending]
        · simp [ifStatus, scheduled]
      obtain rfl : later = [] := List.length_eq_zero_iff.mp (by omega)
      refine ⟨rfl, fun pending => ?_, by omega⟩
      have one : afterRuns stale [first] start = first.after stale start := rfl
      have pass := first.passes_pos stale start
      rw [one] at most all
      simp only [ifStatus, pending, if_true] at exact
      omega
    · rintro ⟨rfl, single, clean⟩
      have one : afterRuns stale [first] start = first.after stale start := rfl
      rw [one, same, exact, clean]
      rcases awaits with pending | scheduled
      · simp [ifStatus, pending, single pending]
      · simp [ifStatus, scheduled]
  · intro single clean delivery stored awaits
    obtain ⟨table, counts⟩ := first.after_single stale start single
    have one : afterRuns stale [first] start = first.after stale start := rfl
    rw [one] at stored ⊢
    rw [table] at stored
    have most := counts delivery stored
    rw [clean delivery stored awaits] at most
    rcases awaits with pending | scheduled
    · simpa [ifStatus, pending] using most
    · simpa [ifStatus, scheduled] using most

/-- The second reconstruction adds the job of a pending delivery again. -/
theorem second_reconstruction_duplicates
    : ¬OneJobEach
        (afterRuns false
          [⟨.quiet 0, .reconstruct⟩, ⟨.quiet 0, .reconstruct⟩] (oneDelivery .pending none 0)) := by
  intro each
  have one := each _ (by exact List.mem_singleton.mpr rfl) (.inl rfl)
  revert one
  decide +kernel

/-- What a cycle owes the stale deliveries: one reported with retries left is stored as PENDING
with a job in the queues, and none that was reported, or was not updated since the cutoff, is
left in PROCESSING.
-/
structure StaleRecovered (found : List StoredDelivery) (cutoff : Int) (after : DaemonWorld) : Prop
    where
  reset
    : ∀ row ∈ found,
        RecoveryDaemon.retriesLeft row = true
        → ∃ stored ∈ after.table.rows,
            stored.id = row.id ∧ stored.status = .pending ∧ 1 ≤ jobsFor stored after
  left
    : ∀ stored ∈ after.table.rows,
        stored.status = .processing
        → (∀ row ∈ found, row.id ≠ stored.id) ∧ ¬stored.updatedAt < cutoff

/-- A recovery cycle does what it owes the stale deliveries if and only if there are none: the
detector reports nothing, and no stored delivery is stuck in PROCESSING.
-/
theorem cycle_recovers_iff (stale : Bool) (detector : StaleJobDetector) (dlqMonitor : Bool)
    (env : DaemonEnvironment) (working : env.Working) (world : DaemonWorld)
    : StaleRecovered (reported env stale (some detector) world)
          (env.clock world - detector.defaultTimeoutMs)
          ((RecoveryRun.mk env (.cycle (some detector) dlqMonitor)).after stale world)
      ↔ reported env stale (some detector) world = []
        ∧ ∀ stored ∈ world.table.rows,
            stored.status = .processing
            → ¬stored.updatedAt < env.clock world - detector.defaultTimeoutMs := by
  let run : RecoveryRun := ⟨env, .cycle (some detector) dlqMonitor⟩
  have table : (run.after stale world).table = world.table :=
    (run.after_counts stale world working).1
  have processing
      : ∀ row ∈ reported env stale (some detector) world,
          row ∈ world.table.rows ∧ row.status = .processing := by
    intro row found
    unfold reported at found
    cases stale with
    | false => exact nomatch found
    | true =>
        obtain ⟨stored, inStatus⟩ := List.mem_filter.mp (env.staleProcessing _ _ row found)
        exact ⟨stored, of_decide_eq_true inStatus⟩
  constructor
  · intro recovered
    have left := recovered.left
    rw [table] at left
    constructor
    · -- A reported delivery is stored in PROCESSING, before the cycle and after it.
      refine List.eq_nil_iff_forall_not_mem.mpr (fun row found => ?_)
      obtain ⟨stored, status⟩ := processing row found
      exact (left row stored status).1 row found rfl
    · exact fun stored member status => (left stored member status).2
  · rintro ⟨nothing, fresh⟩
    rw [nothing]
    refine ⟨fun row found => absurd found List.not_mem_nil, ?_⟩
    rw [table]
    intro stored member status
    exact ⟨fun row found => absurd found List.not_mem_nil, fresh stored member status⟩

theorem cycle_recovers_iff_pending
    : (DaemonEnvironment.quiet 50000).Working
      ∧ StaleRecovered [] 20000
          ((RecoveryRun.mk (.quiet 50000) (.cycle (some ⟨none⟩) true)).after true
            (oneDelivery .pending none 0)) :=
  ⟨fun _ _ => rfl,
    (cycle_recovers_iff true ⟨none⟩ true (.quiet 50000) (fun _ _ => rfl) (oneDelivery .pending none 0)).mpr
      ⟨rfl, by decide⟩⟩

/-- A working repository that reports the deliveries in PROCESSING not updated since the cutoff. -/
def DaemonEnvironment.reporting (now : Int) : DaemonEnvironment where
  clock _ := now
  fault _ _ := none
  stale table cutoff := (table.inStatus .processing).filter (fun row => row.updatedAt < cutoff)
  staleProcessing _ _ _ found := (List.mem_filter.mp found).1

/-- A delivery that is reported as stale is still in PROCESSING after the cycle. -/
theorem stale_delivery_stays
    : ¬StaleRecovered
        (reported (.reporting 50000) true (some ⟨none⟩) (oneDelivery .processing none 0)) 20000
        ((RecoveryRun.mk (.reporting 50000) (.cycle (some ⟨none⟩) true)).after true
          (oneDelivery .processing none 0)) := by
  intro recovered
  obtain ⟨stored, member, -, status, -⟩ := recovered.reset _ (List.mem_singleton.mpr rfl) rfl
  revert status
  revert stored
  decide +kernel

end QueueForge.Daemon
