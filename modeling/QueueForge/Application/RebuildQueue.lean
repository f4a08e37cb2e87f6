import QueueForge.Application.RepeatedSync

/-! `RebuildQueueService`: the queue is cleaned, up to a limit for each type of job, and what the
database says is due is enqueued again.
-/

namespace QueueForge.Application

open QueueForge.Async QueueForge.Js QueueForge.Domain QueueForge.Queue
open QueueForge.Daemon (DeliveryJobData)

structure RebuildResult where
  main : Nat
  delayed : Nat
  dlq : Nat
deriving DecidableEq

/-- The types of jobs that are cleaned. -/
inductive JobType where
  | wait
  | active
  | delayed
deriving DecidableEq

/-- Which methods the collaborators have. There may be no queue to clean. -/
structure RebuildConfig where
  clean : Bool
  lookup : PendingLookup
  enqueue : EnqueueMethod
  logger : Bool

inductive RebuildCall where
  | clean (grace limit : Nat) (type : JobType)
  | findByStatus (status : DeliveryStatus)
  | findAll
  | now
  | enqueueDelivery (taskResultId destinationId : String) (attempt : Int) (delay : Option Number)
  | add (name : String) (data : DeliveryJobData) (delay : Option Number)

abbrev RebuildCall.Result : RebuildCall → Type
  | clean _ _ _ => Unit
  | findByStatus _ => List Delivery
  | findAll => List Delivery
  | now => Int
  | enqueueDelivery _ _ _ _ => Unit
  | add _ _ _ => Unit

abbrev RebuildSignature : Signature where
  Op := RebuildCall
  Result := RebuildCall.Result

abbrev RebuildProgram (α : Type) : Type := Program RebuildSignature Thrown α

def awaitRebuild (call : RebuildCall) : RebuildProgram call.Result :=
  Program.perform (S := RebuildSignature) call

@[simp] theorem run_awaitRebuild {σ : Type} {handler : Handler RebuildSignature Thrown σ}
    {call : RebuildCall} {world : σ}
    : Program.run (α := no_index call.Result) handler (awaitRebuild call) world
      = handler call world :=
  Program.run_perform

namespace RebuildQueueService

/-- A catch block that logs `e.message`, if there is a logger, before it goes on. -/
def logged {α : Type} (config : RebuildConfig) (error : Thrown) (next : RebuildProgram α)
    : RebuildProgram α :=
  match config.logger, error with
  | true, .nullish => throw (newTypeError "Cannot read properties of undefined (reading 'message')")
  | _, _ => next

/-- Clear current queue jobs if possible. -/
def clear (config : RebuildConfig) : RebuildProgram Unit :=
  if config.clean then
    Program.catchError
      (do
        awaitRebuild (.clean 0 1000 .wait)
        awaitRebuild (.clean 0 1000 .active)
        awaitRebuild (.clean 0 1000 .delayed))
      (fun error => logged config error (return ()))
  else
    return ()

/-- Query deliveries by status. -/
def findByStatus (config : RebuildConfig) (status : DeliveryStatus)
    : RebuildProgram (List Delivery) :=
  match config.lookup with
  | .findByStatus => awaitRebuild (.findByStatus status)
  | .findAll => do
      let all ← awaitRebuild .findAll
      return all.filter (fun delivery => delivery.status = status)
  | .neither => return []

/-- Enqueue a delivery by the method the queue has, with a delay if one is given. -/
def enqueue (config : RebuildConfig) (delivery : Delivery) (delay : Option Number)
    : RebuildProgram Unit :=
  match config.enqueue with
  | .enqueueDelivery =>
      awaitRebuild (.enqueueDelivery delivery.taskResultId delivery.destinationId
        (delivery.retryCount + 1) delay)
  | .add => awaitRebuild (.add "deliver-task-result" { deliveryId := some delivery.id } delay)
  | .neither => return ()

/-- `nextRetry ? Math.max(0, nextRetry - Date.now()) : 5000`. -/
def delayMs (nextRetryAt : Option Date) : RebuildProgram Number :=
  match nextRetryAt with
  | none => return 5000
  | some nextRetry => do
      let now ← awaitRebuild .now
      let remaining :=
        match nextRetry with
        | some time => Number.ofInt (time - now)
        | none => .nan
      return Number.max 0 remaining

def enqueuePending (config : RebuildConfig) : List Delivery → RebuildProgram Unit :=
  Program.forEach (fun delivery => enqueue config delivery none)

def enqueueRetrying (config : RebuildConfig) : List Delivery → RebuildProgram Unit :=
  Program.forEach (fun delivery => do
    let delay ← delayMs delivery.nextRetryAt
    enqueue config delivery (some delay))

/-- Clears active BullMQ queues and reconstructs jobs from PENDING, SCHEDULED_RETRY, and FAILED_DLQ
records.
-/
def rebuild (config : RebuildConfig) : RebuildProgram RebuildResult :=
  Program.catchError
    (do
      clear config
      let pendingDeliveries ← findByStatus config .pending
      enqueuePending config pendingDeliveries
      let retryingDeliveries ← findByStatus config .scheduledRetry
      enqueueRetrying config retryingDeliveries
      let dlqDeliveries ← findByStatus config .failedDlq
      return {
        main := pendingDeliveries.length
        delayed := retryingDeliveries.length
        dlq := dlqDeliveries.length
      })
    (fun error => logged config error (throw error))

end RebuildQueueService

-----------------------------------------------------------------------------------------
-- The repository and the queue
-----------------------------------------------------------------------------------------

/-- A queued job. A worker holds the lock of an active job it works on. -/
structure TypedJob where
  type : JobType
  locked : Bool
  data : DeliveryJobData

/-- Deliveries of which no two have one identifier or are of one result to one destination. -/
structure DeliveryTable where
  deliveries : List Delivery
  identified : (deliveries.map Delivery.id).Nodup
  paired : (deliveries.map deliveryPair).Nodup

/-- The deliveries, and the jobs of the queue, the oldest first. -/
structure RebuildWorld extends DeliveryTable where
  jobs : List TypedJob

/-- A job that is cleaned with the jobs of a type: one that is locked is not. -/
def TypedJob.isCleaned (job : TypedJob) (type : JobType) : Bool :=
  job.type = type && !job.locked

/-- `queue.clean(0, limit, type)`: the oldest jobs are removed, up to the limit. -/
def clean (type : JobType) : Nat → List TypedJob → List TypedJob
  | _, [] => []
  | 0, jobs => jobs
  | limit + 1, job :: rest =>
      if job.isCleaned type then clean type limit rest else job :: clean type (limit + 1) rest

/-- A job with a delay waits for its time. -/
def newJob (data : DeliveryJobData) (delay : Option Number) : TypedJob where
  type := if delay.any (Number.lt 0) then .delayed else .wait
  locked := false
  data := data

/-- The time, and the faults of the repository and the queue. -/
structure RebuildEnvironment where
  clock : RebuildWorld → Int
  fault : RebuildWorld → RebuildCall → Option Thrown

/-- What a call does without a fault. -/
def performRebuild (env : RebuildEnvironment) (world : RebuildWorld)
    : (call : RebuildCall) → Settled Thrown call.Result × RebuildWorld
  | .clean _ limit type => (.ok (), { world with jobs := clean type limit world.jobs })
  | .findByStatus status =>
      (.ok (world.deliveries.filter (fun delivery => delivery.status = status)), world)
  | .findAll => (.ok world.deliveries, world)
  | .now => (.ok (env.clock world), world)
  | .enqueueDelivery taskResultId destinationId attempt delay =>
      let data : DeliveryJobData := {
        taskResultId := some taskResultId
        destinationId := some destinationId
        attempt := some attempt
      }
      (.ok (), { world with jobs := world.jobs ++ [newJob data delay] })
  | .add _ data delay => (.ok (), { world with jobs := world.jobs ++ [newJob data delay] })

/-- The collaborators of the service; the clock does not fail. -/
def rebuildSystem (env : RebuildEnvironment) : Handler RebuildSignature Thrown RebuildWorld :=
  fun call world =>
    match call, env.fault world call with
    | .now, _ => performRebuild env world .now
    | _, some error => (.error error, world)
    | call, none => performRebuild env world call

/-- A job for a delivery names it, or names its result and destination. -/
def isJobFor (delivery : Delivery) (data : DeliveryJobData) : Bool :=
  data.deliveryId = some delivery.id
  || data.taskResultId = some delivery.taskResultId
    && data.destinationId = some delivery.destinationId

/-- A job that names an identifier is for the delivery that has it. -/
theorem isJobFor_of_id (delivery owner : Delivery) (data : DeliveryJobData)
    (named : data.deliveryId = some owner.id) (unpaired : data.taskResultId = none)
    : isJobFor delivery data = decide (owner.id = delivery.id) := by
  simp only [isJobFor, named, unpaired, Option.some.injEq, reduceCtorEq, decide_false,
    Bool.false_and, Bool.or_false]

namespace DeliveryTable

variable (table : DeliveryTable) {delivery owner : Delivery}

theorem eq_of_same_id (member : delivery ∈ table.deliveries) (owned : owner ∈ table.deliveries)
    (same : delivery.id = owner.id)
    : delivery = owner :=
  List.inj_on_of_nodup_map table.identified member owned same

/-- A job that names a pair is for the delivery that has it. -/
theorem isJobFor_of_pair (member : delivery ∈ table.deliveries)
    (owned : owner ∈ table.deliveries) (data : DeliveryJobData) (unnamed : data.deliveryId = none)
    (result : data.taskResultId = some owner.taskResultId)
    (destination : data.destinationId = some owner.destinationId)
    : isJobFor delivery data = decide (owner.id = delivery.id) := by
  have paired : deliveryPair owner = deliveryPair delivery ↔ owner.id = delivery.id := by
    constructor
    · exact fun same =>
        congrArg Delivery.id (List.inj_on_of_nodup_map table.paired owned member same)
    · exact fun same => congrArg deliveryPair (table.eq_of_same_id owned member same)
  simp only [isJobFor, unnamed, result, destination, reduceCtorEq, decide_false, Bool.false_or,
    Option.some.injEq, ← Bool.decide_and]
  rw [decide_eq_decide, ← paired, deliveryPair, deliveryPair, Prod.mk.injEq]

end DeliveryTable

/-- A delivery that is to be in the queue. -/
def isQueueable (delivery : Delivery) : Bool :=
  delivery.status = .pending || delivery.status = .scheduledRetry

/-- The queue holds exactly one job for every queueable delivery, and none for any other. -/
structure ExactlyQueued (world : RebuildWorld) : Prop where
  one
    : ∀ delivery ∈ world.deliveries,
        isQueueable delivery = true
        → world.jobs.countP (fun job => isJobFor delivery job.data) = 1
  others
    : ∀ job ∈ world.jobs,
        ∃ delivery ∈ world.deliveries,
          isQueueable delivery = true ∧ isJobFor delivery job.data = true

-----------------------------------------------------------------------------------------
-- What the cleaning leaves
-----------------------------------------------------------------------------------------

namespace RebuildWorld

/-- How many jobs there are of a type. -/
def count (world : RebuildWorld) (type : JobType) : Nat :=
  world.jobs.countP (fun job => job.type = type)

/-- The world after the jobs of a type were cleaned. -/
def cleaned (world : RebuildWorld) (type : JobType) : RebuildWorld :=
  { world with jobs := clean type 1000 world.jobs }

/-- The clean of a type is not rejected. -/
def accepts (world : RebuildWorld) (env : RebuildEnvironment) (type : JobType) : Bool :=
  (env.fault world (.clean 0 1000 type)).isNone

/-- The jobs of a type come to be cleaned: no clean up to theirs is rejected. -/
def reaches (world : RebuildWorld) (env : RebuildEnvironment) : JobType → Bool
  | .wait => world.accepts env .wait
  | .active => world.accepts env .wait && (world.cleaned .wait).accepts env .active
  | .delayed =>
      world.accepts env .wait
      && (world.cleaned .wait).accepts env .active
      && ((world.cleaned .wait).cleaned .active).accepts env .delayed

/-- The cleaning leaves no job: of every type there is none, or they come to be cleaned, are not
too many and none of them is locked.
-/
def Emptied (world : RebuildWorld) (config : RebuildConfig) (env : RebuildEnvironment) : Prop :=
  ∀ type,
    world.count type = 0
    ∨ config.clean = true
      ∧ world.reaches env type = true
      ∧ world.count type ≤ 1000
      ∧ ∀ job ∈ world.jobs, job.type = type → job.locked = false

/-- The world after the cleaning. -/
def survivors (world : RebuildWorld) (config : RebuildConfig) (env : RebuildEnvironment)
    : RebuildWorld :=
  if config.clean && world.reaches env .wait then
    if world.reaches env .active then
      if world.reaches env .delayed then
        ((world.cleaned .wait).cleaned .active).cleaned .delayed
      else
        (world.cleaned .wait).cleaned .active
    else
      world.cleaned .wait
  else
    world

end RebuildWorld

section
variable {type : JobType} {limit : Nat} {jobs : List TypedJob}

theorem isCleaned_type {job : TypedJob} (cleaned : job.isCleaned type = true)
    : job.type = type := by
  rw [TypedJob.isCleaned, Bool.and_eq_true] at cleaned
  exact of_decide_eq_true cleaned.1

/-- A clean leaves the jobs that are not cleaned with its type, by induction on the jobs. -/
theorem countP_clean_other {property : TypedJob → Bool}
    (apart : ∀ job, property job = true → job.type ≠ type)
    : (clean type limit jobs).countP property = jobs.countP property := by
  induction jobs generalizing limit with
  | nil => rfl
  | cons job rest ih =>
      cases limit with
      | zero => rfl
      | succ limit =>
          rw [clean]
          cases cleaned : job.isCleaned type with
          | true =>
              have lacks : ¬property job = true := fun has => apart job has (isCleaned_type cleaned)
              rw [if_pos rfl, ih, List.countP_cons_of_neg lacks]
          | false =>
              rw [if_neg Bool.false_ne_true, List.countP_cons, List.countP_cons, ih]

/-- A clean removes the jobs of its type that are not locked, up to the limit, by induction on the
jobs.
-/
theorem countP_clean
    : (clean type limit jobs).countP (fun job => job.type = type)
      = jobs.countP (fun job => job.type = type)
        - min limit (jobs.countP (fun job => job.isCleaned type)) := by
  induction jobs generalizing limit with
  | nil => simp [clean]
  | cons job rest ih =>
      have fewer
          : rest.countP (fun job => job.isCleaned type)
            ≤ rest.countP (fun job => job.type = type) :=
        List.countP_mono_left (fun job _ cleaned => decide_eq_true (isCleaned_type cleaned))
      cases limit with
      | zero => simp [clean]
      | succ limit =>
          rw [clean, List.countP_cons, List.countP_cons]
          cases cleaned : job.isCleaned type with
          | true =>
              rw [if_pos rfl, ih, if_pos (decide_eq_true (isCleaned_type cleaned)), if_pos rfl]
              omega
          | false =>
              rw [if_neg Bool.false_ne_true, List.countP_cons, ih, if_neg Bool.false_ne_true]
              split <;> omega

/-- No job of the type is left exactly when there were not too many and none was locked. -/
theorem countP_clean_eq_zero
    : (clean type limit jobs).countP (fun job => job.type = type) = 0
      ↔ jobs.countP (fun job => job.type = type) = 0
        ∨ jobs.countP (fun job => job.type = type) ≤ limit
          ∧ ∀ job ∈ jobs, job.type = type → job.locked = false := by
  have split
      : jobs.countP (fun job => job.type = type)
        = jobs.countP (fun job => job.isCleaned type)
          + jobs.countP (fun job => job.type = type && job.locked) := by
    rw [List.countP_eq_countP_filter_add jobs _ (fun job => !job.locked), List.countP_filter,
      List.countP_filter]
    simp only [Bool.not_not]
    rfl
  have unlocked
      : jobs.countP (fun job => job.type = type && job.locked) = 0
        ↔ ∀ job ∈ jobs, job.type = type → job.locked = false := by
    rw [List.countP_eq_zero]
    refine forall₂_congr (fun job _ => ?_)
    simp
  rw [countP_clean, ← unlocked]
  omega

end

section
variable (config : RebuildConfig) (env : RebuildEnvironment) (world : RebuildWorld)

theorem rebuildSystem_fault {call : RebuildCall} {error : Thrown}
    (fault : env.fault world call = some error) (fallible : call ≠ .now)
    : rebuildSystem env call world = (.error error, world) := by
  cases call with
  | now => exact absurd rfl fallible
  | _ => simp only [rebuildSystem, fault]

theorem rebuildSystem_ok {call : RebuildCall} (working : env.fault world call = none)
    : rebuildSystem env call world = performRebuild env world call := by
  cases call <;> simp only [rebuildSystem, working]

/-- A clean that is not rejected is made. -/
theorem run_clean {type : JobType} (accepted : world.accepts env type = true)
    : (awaitRebuild (.clean 0 1000 type)).run (rebuildSystem env) world
      = (.ok (), world.cleaned type) := by
  rw [run_awaitRebuild, rebuildSystem_ok env world (Option.isNone_iff_eq_none.mp accepted)]
  rfl

theorem run_clean_rejected {type : JobType} (rejected : world.accepts env type = false)
    : ∃ error,
        (awaitRebuild (.clean 0 1000 type)).run (rebuildSystem env) world
          = (.error error, world) := by
  obtain ⟨error, fault⟩ := Option.isSome_iff_exists.mp (Option.isNone_eq_false_iff.mp rejected)
  rw [run_awaitRebuild]
  exact ⟨error, rebuildSystem_fault env world fault nofun⟩

/-- Logging changes nothing. -/
theorem run_logged {α : Type} (error : Thrown) {next : RebuildProgram α}
    (still : (next.run (rebuildSystem env) world).2 = world)
    : ((RebuildQueueService.logged config error next).run (rebuildSystem env) world).2
      = world := by
  unfold RebuildQueueService.logged
  split
  · rfl
  · exact still

/-- The cleaning, up to the first clean that is rejected. -/
theorem run_clear
    : ((RebuildQueueService.clear config).run (rebuildSystem env) world).2
      = world.survivors config env := by
  unfold RebuildQueueService.clear RebuildWorld.survivors RebuildWorld.reaches
  cases config.clean with
  | false => rfl
  | true =>
      simp only [if_pos, Program.run_catchError, Program.bind_eq, Program.run_bind, Bool.true_and]
      cases waiting : world.accepts env .wait with
      | false =>
          obtain ⟨error, rejected⟩ := run_clean_rejected env world waiting
          simp only [rejected]
          exact run_logged config env world error rfl
      | true =>
          simp only [run_clean env world waiting, Bool.true_and]
          cases active : (world.cleaned .wait).accepts env .active with
          | false =>
              obtain ⟨error, rejected⟩ := run_clean_rejected env (world.cleaned .wait) active
              simp only [rejected]
              exact run_logged config env (world.cleaned .wait) error rfl
          | true =>
              simp only [run_clean env _ active, Bool.true_and]
              cases delayed : ((world.cleaned .wait).cleaned .active).accepts env .delayed with
              | false =>
                  obtain ⟨error, rejected⟩ := run_clean_rejected env _ delayed
                  simp only [rejected]
                  exact run_logged config env _ error rfl
              | true =>
                  simp only [run_clean env _ delayed]
                  rfl

/-- Of each type the cleaning leaves what it leaves of its own clean, if it comes to that. -/
theorem count_survivors (type : JobType)
    : (world.survivors config env).count type
      = if config.clean && world.reaches env type then
          (world.cleaned type).count type
        else
          world.count type := by
  have other (world : RebuildWorld) (cleaned counted : JobType) (apart : counted ≠ cleaned)
      : (world.cleaned cleaned).count counted = world.count counted :=
    countP_clean_other (fun job same => of_decide_eq_true same ▸ apart)
  -- a clean of another type before it removes no job that is cleaned with this one
  have after (world : RebuildWorld) (cleaned counted : JobType) (apart : counted ≠ cleaned)
      : ((world.cleaned cleaned).cleaned counted).count counted
        = (world.cleaned counted).count counted := by
    have unlocked
        : (world.cleaned cleaned).jobs.countP (fun job => job.isCleaned counted)
          = world.jobs.countP (fun job => job.isCleaned counted) :=
      countP_clean_other (fun job counts => isCleaned_type counts ▸ apart)
    have removed := congrArg₂ (· - min 1000 ·) (other world cleaned counted apart) unlocked
    exact (countP_clean.trans removed).trans countP_clean.symm
  unfold RebuildWorld.survivors RebuildWorld.reaches
  cases config.clean with
  | false => rfl
  | true =>
      cases world.accepts env .wait with
      | false => cases type <;> rfl
      | true =>
          cases (world.cleaned .wait).accepts env .active with
          | false =>
              cases type with
              | wait => rfl
              | active => exact other world .wait .active nofun
              | delayed => exact other world .wait .delayed nofun
          | true =>
              have twice := other (world.cleaned .wait) .active .wait nofun
              cases ((world.cleaned .wait).cleaned .active).accepts env .delayed with
              | false =>
                  cases type with
                  | wait => exact twice
                  | active => exact after world .wait .active nofun
                  | delayed =>
                      exact (other (world.cleaned .wait) .active .delayed nofun).trans
                        (other world .wait .delayed nofun)
              | true =>
                  cases type with
                  | wait =>
                      exact (other ((world.cleaned .wait).cleaned .active) .delayed .wait nofun).trans
                        twice
                  | active =>
                      exact
                        (other ((world.cleaned .wait).cleaned .active) .delayed .active nofun).trans
                          (after world .wait .active nofun)
                  | delayed =>
                      exact (after (world.cleaned .wait) .active .delayed nofun).trans
                        (after world .wait .delayed nofun)

/-- No job survives exactly if the queue is emptied. -/
theorem jobs_survivors_eq_nil
    : (world.survivors config env).jobs = [] ↔ world.Emptied config env := by
  have none
      : (world.survivors config env).jobs = []
        ↔ ∀ type, (world.survivors config env).count type = 0 := by
    constructor
    · intro empty type
      rw [RebuildWorld.count, empty]
      rfl
    · intro zero
      refine List.eq_nil_iff_forall_not_mem.mpr (fun job member => ?_)
      exact List.countP_eq_zero.mp (zero job.type) job member (decide_eq_true rfl)
  rw [none]
  refine forall_congr' (fun type => ?_)
  rw [count_survivors]
  cases come : config.clean && world.reaches env type with
  | true =>
      rw [if_pos rfl, RebuildWorld.count, RebuildWorld.cleaned, countP_clean_eq_zero]
      rw [Bool.and_eq_true] at come
      simp only [come.1, come.2, true_and]
      rfl
  | false =>
      rw [if_neg Bool.false_ne_true]
      rw [Bool.and_eq_false_iff] at come
      refine ⟨.inl, fun emptied => emptied.resolve_right ?_⟩
      rintro ⟨cleanable, reached, _⟩
      rcases come with uncleanable | unreached
      · exact Bool.noConfusion (cleanable.symm.trans uncleanable)
      · exact Bool.noConfusion (reached.symm.trans unreached)

end

-----------------------------------------------------------------------------------------
-- What is enqueued
-----------------------------------------------------------------------------------------

/-- Jobs with some data were added to a world. -/
structure RebuildWorld.Adds (world after : RebuildWorld) (data : List DeliveryJobData) : Prop where
  deliveries : after.deliveries = world.deliveries
  jobs : ∃ new, after.jobs = world.jobs ++ new ∧ new.map TypedJob.data = data

theorem RebuildWorld.Adds.trans {world middle after : RebuildWorld}
    {first second : List DeliveryJobData} (before : world.Adds middle first)
    (next : middle.Adds after second)
    : world.Adds after (first ++ second) := by
  obtain ⟨old, earlier, rfl⟩ := before.jobs
  obtain ⟨new, later, rfl⟩ := next.jobs
  refine ⟨next.deliveries.trans before.deliveries, old ++ new, ?_, List.map_append⟩
  rw [later, earlier, List.append_assoc]

theorem RebuildWorld.Adds.nothing (world : RebuildWorld) : world.Adds world [] :=
  ⟨rfl, [], (List.append_nil _).symm, rfl⟩

/-- The data a delivery is enqueued with, if it is. -/
def RebuildConfig.data (config : RebuildConfig) (delivery : Delivery) : List DeliveryJobData :=
  (config.enqueue.jobData delivery).toList

/-- The deliveries of a status, if the repository can list them. -/
def RebuildConfig.listed (config : RebuildConfig) (world : RebuildWorld) (status : DeliveryStatus)
    : List Delivery :=
  match config.lookup with
  | .neither => []
  | _ => world.deliveries.filter (fun delivery => delivery.status = status)

section
variable {config : RebuildConfig} {env : RebuildEnvironment} {world after : RebuildWorld}

/-- A call that has returned was made without a fault. -/
theorem performed_of_returned {call : RebuildCall} {value : call.Result}
    (returned : rebuildSystem env call world = (.ok value, after))
    : performRebuild env world call = (.ok value, after) := by
  cases fault : env.fault world call with
  | none => rwa [rebuildSystem_ok env world fault] at returned
  | some error =>
      cases call with
      | now => exact returned
      | _ =>
          rw [rebuildSystem_fault env world fault nofun] at returned
          exact nomatch returned

theorem adds_of_enqueue {delivery : Delivery} {delay : Option Number}
    (returned
      : (RebuildQueueService.enqueue config delivery delay).run (rebuildSystem env) world
        = (.ok (), after))
    : world.Adds after (config.data delivery) := by
  unfold RebuildQueueService.enqueue at returned
  unfold RebuildConfig.data
  cases method : config.enqueue with
  | enqueueDelivery =>
      rw [method] at returned
      cases performed_of_returned (run_awaitRebuild ▸ returned)
      exact ⟨rfl, [_], rfl, rfl⟩
  | add =>
      rw [method] at returned
      cases performed_of_returned (run_awaitRebuild ▸ returned)
      exact ⟨rfl, [_], rfl, rfl⟩
  | neither =>
      rw [method] at returned
      cases returned
      exact .nothing _

/-- A loop adds what its rounds add, by induction on the deliveries. -/
theorem adds_of_forEach {body : Delivery → RebuildProgram Unit}
    (adds
      : ∀ delivery world after,
          (body delivery).run (rebuildSystem env) world = (.ok (), after)
          → world.Adds after (config.data delivery))
    {deliveries : List Delivery}
    (returned
      : (Program.forEach body deliveries).run (rebuildSystem env) world = (.ok (), after))
    : world.Adds after (deliveries.flatMap config.data) := by
  induction deliveries generalizing world with
  | nil =>
      cases returned
      exact .nothing _
  | cons delivery rest ih =>
      rw [Program.forEach, Program.run_bind_eq_ok] at returned
      obtain ⟨_, middle, first, later⟩ := returned
      exact (adds delivery world middle first).trans (ih later)

theorem adds_of_enqueuePending {deliveries : List Delivery}
    (returned
      : (RebuildQueueService.enqueuePending config deliveries).run (rebuildSystem env) world
        = (.ok (), after))
    : world.Adds after (deliveries.flatMap config.data) :=
  adds_of_forEach (fun _ _ _ => adds_of_enqueue) returned

theorem adds_of_enqueueRetrying {deliveries : List Delivery}
    (returned
      : (RebuildQueueService.enqueueRetrying config deliveries).run (rebuildSystem env) world
        = (.ok (), after))
    : world.Adds after (deliveries.flatMap config.data) := by
  refine adds_of_forEach (fun delivery world after returned => ?_) returned
  have delayed
      : ∃ delay,
          (RebuildQueueService.delayMs delivery.nextRetryAt).run (rebuildSystem env) world
          = (.ok delay, world) := by
    unfold RebuildQueueService.delayMs
    cases delivery.nextRetryAt with
    | none => exact ⟨_, rfl⟩
    | some nextRetry => exact ⟨_, rfl⟩
  obtain ⟨delay, ran⟩ := delayed
  rw [Program.bind_eq, Program.run_bind, ran] at returned
  exact adds_of_enqueue returned

theorem run_findByStatus {status : DeliveryStatus} {found : List Delivery}
    (returned
      : (RebuildQueueService.findByStatus config status).run (rebuildSystem env) world
        = (.ok found, after))
    : found = config.listed world status ∧ after = world := by
  unfold RebuildQueueService.findByStatus at returned
  unfold RebuildConfig.listed
  cases lookup : config.lookup with
  | neither =>
      rw [lookup] at returned
      cases returned
      exact ⟨rfl, rfl⟩
  | findByStatus =>
      rw [lookup] at returned
      cases performed_of_returned (run_awaitRebuild ▸ returned)
      exact ⟨rfl, rfl⟩
  | findAll =>
      rw [lookup] at returned
      simp only [Program.bind_eq, Program.run_bind_eq_ok, run_awaitRebuild] at returned
      obtain ⟨all, middle, called, filtered⟩ := returned
      cases performed_of_returned called
      cases filtered
      exact ⟨rfl, rfl⟩

/-- The data a rebuild adds jobs with. -/
def RebuildConfig.addedData (config : RebuildConfig) (world : RebuildWorld)
    : List DeliveryJobData :=
  (config.listed world .pending ++ config.listed world .scheduledRetry).flatMap config.data

/-- A rebuild that returned has added the jobs of the deliveries that are listed. -/
theorem adds_of_rebuild {result : RebuildResult}
    (returned
      : (RebuildQueueService.rebuild config).run (rebuildSystem env) world = (.ok result, after))
    : (world.survivors config env).Adds after
        (config.addedData (world.survivors config env)) := by
  rw [RebuildQueueService.rebuild, Program.run_catchError] at returned
  split at returned
  next ran =>
      cases returned
      simp only [Program.bind_eq, Program.run_bind_eq_ok] at ran
      obtain ⟨_, first, cleared, pendingDeliveries, second, pending, _, third, enqueued,
        retryingDeliveries, fourth, retrying, _, fifth, scheduled, _, _, dlq, ⟨⟩⟩ := ran
      obtain rfl : first = world.survivors config env :=
        (congrArg Prod.snd cleared).symm.trans (run_clear config env world)
      obtain ⟨rfl, rfl⟩ := run_findByStatus pending
      have adds := adds_of_enqueuePending enqueued
      have relisted
          : config.listed third .scheduledRetry
            = config.listed (world.survivors config env) .scheduledRetry := by
        unfold RebuildConfig.listed
        rw [adds.deliveries]
      obtain ⟨rfl, rfl⟩ := run_findByStatus retrying
      obtain ⟨-, rfl⟩ := run_findByStatus dlq
      rw [RebuildConfig.addedData, List.flatMap_append, ← relisted]
      exact adds.trans (adds_of_enqueueRetrying scheduled)
  next error _ ran =>
      -- the error is thrown again, or an error of the logging is
      unfold RebuildQueueService.logged at returned
      split at returned <;> exact nomatch returned

/-- The service can list the deliveries and add jobs. -/
def RebuildConfig.Rebuilds (config : RebuildConfig) : Prop :=
  config.lookup ≠ .neither ∧ config.enqueue ≠ .neither

/-- The data of a delivery is for it alone. -/
theorem countP_data (enqueues : config.enqueue ≠ .neither) {delivery owner : Delivery}
    (member : delivery ∈ world.deliveries) (owned : owner ∈ world.deliveries)
    : (config.data owner).countP (isJobFor delivery)
      = if owner.id = delivery.id then 1 else 0 := by
  unfold RebuildConfig.data
  cases method : config.enqueue with
  | neither => exact absurd method enqueues
  | add =>
      have named :=
        isJobFor_of_id delivery owner { deliveryId := some owner.id } rfl rfl
      simp only [EnqueueMethod.jobData, Option.toList_some, List.countP_singleton, named,
        decide_eq_true_eq]
  | enqueueDelivery =>
      have named :=
        world.isJobFor_of_pair member owned
          {
            taskResultId := some owner.taskResultId
            destinationId := some owner.destinationId
            attempt := some (owner.retryCount + 1)
          }
          rfl rfl rfl
      simp only [EnqueueMethod.jobData, Option.toList_some, List.countP_singleton, named,
        decide_eq_true_eq]

/-- A delivery is listed once if it has the status. -/
theorem countP_listed (lookups : config.lookup ≠ .neither) {delivery : Delivery}
    (member : delivery ∈ world.deliveries) (status : DeliveryStatus)
    : (config.listed world status).countP (fun owner => owner.id = delivery.id)
      = if delivery.status = status then 1 else 0 := by
  have listed
      : config.listed world status
        = world.deliveries.filter (fun delivery => delivery.status = status) := by
    unfold RebuildConfig.listed
    cases lookup : config.lookup with
    | neither => exact absurd lookup lookups
    | _ => rfl
  rw [listed, List.countP_filter]
  have once : world.deliveries.countP (fun owner => owner.id = delivery.id) = 1 := by
    have counted := List.count_eq_one_of_mem world.identified (List.mem_map_of_mem member)
    rwa [List.count, List.countP_map] at counted
  split
  next has =>
      rw [← once]
      refine List.countP_congr (fun owner owned => ?_)
      simp only [Bool.and_eq_true, decide_eq_true_eq, and_iff_left_iff_imp]
      exact fun same => world.eq_of_same_id owned member same ▸ has
  next lacks =>
      rw [List.countP_eq_zero]
      intro owner owned
      simp only [Bool.and_eq_true, decide_eq_true_eq, not_and]
      exact fun same => world.eq_of_same_id owned member same ▸ lacks

/-- The jobs for a delivery are those added for it, by induction on the deliveries listed. -/
theorem countP_flatMap_data (enqueues : config.enqueue ≠ .neither) {delivery : Delivery}
    (member : delivery ∈ world.deliveries) {deliveries : List Delivery}
    (listed : ∀ owner ∈ deliveries, owner ∈ world.deliveries)
    : (deliveries.flatMap config.data).countP (isJobFor delivery)
      = deliveries.countP (fun owner => owner.id = delivery.id) := by
  induction deliveries with
  | nil => rfl
  | cons owner rest ih =>
      have owned := listed owner List.mem_cons_self
      rw [List.flatMap_cons, List.countP_append, countP_data enqueues member owned,
        ih (fun other within => listed other (List.mem_cons_of_mem owner within)),
        List.countP_cons, Nat.add_comm]
      simp only [decide_eq_true_eq]

theorem mem_listed {delivery : Delivery} {status : DeliveryStatus}
    (member : delivery ∈ config.listed world status)
    : delivery ∈ world.deliveries ∧ delivery.status = status := by
  unfold RebuildConfig.listed at member
  split at member
  · exact absurd member List.not_mem_nil
  · rw [List.mem_filter, decide_eq_true_eq] at member
    exact member

/-- For a queueable delivery one job is added, for any other none. -/
theorem countP_addedData (rebuilds : config.Rebuilds) {delivery : Delivery}
    (member : delivery ∈ world.deliveries)
    : (config.addedData world).countP (isJobFor delivery)
      = if isQueueable delivery then 1 else 0 := by
  have listed
      : ∀ owner ∈ config.listed world .pending ++ config.listed world .scheduledRetry,
          owner ∈ world.deliveries := by
    intro owner within
    rcases List.mem_append.mp within with pending | retrying
    · exact (mem_listed pending).1
    · exact (mem_listed retrying).1
  rw [RebuildConfig.addedData, countP_flatMap_data rebuilds.2 member listed, List.countP_append,
    countP_listed rebuilds.1 member, countP_listed rebuilds.1 member, isQueueable]
  cases delivery.status <;> rfl

/-- Every job that is added is for a queueable delivery. -/
theorem queueable_of_mem_addedData {data : DeliveryJobData}
    (member : data ∈ config.addedData world)
    : ∃ delivery ∈ world.deliveries,
        isQueueable delivery = true ∧ isJobFor delivery data = true := by
  obtain ⟨owner, within, made⟩ := List.mem_flatMap.mp member
  have named : isJobFor owner data = true := by
    unfold RebuildConfig.data EnqueueMethod.jobData at made
    cases method : config.enqueue <;> simp_all [isJobFor]
  rcases List.mem_append.mp within with pending | retrying
  · obtain ⟨owned, status⟩ := mem_listed pending
    exact ⟨owner, owned, by rw [isQueueable, status]; rfl, named⟩
  · obtain ⟨owned, status⟩ := mem_listed retrying
    exact ⟨owner, owned, by rw [isQueueable, status]; rfl, named⟩

/-- Without a method to list or to add by, nothing is added. -/
theorem addedData_eq_nil (unable : ¬config.Rebuilds) : config.addedData world = [] := by
  rw [RebuildConfig.Rebuilds, not_and_or, not_not, not_not] at unable
  unfold RebuildConfig.addedData
  rcases unable with lookup | enqueue
  · rw [RebuildConfig.listed, RebuildConfig.listed, lookup]
    rfl
  · refine List.flatMap_eq_nil_iff.mpr (fun owner _ => ?_)
    rw [RebuildConfig.data, enqueue]
    rfl

/-- A world to which what is queueable was added holds exactly that if it held nothing before. -/
theorem exactlyQueued_iff_of_adds (rebuilds : config.Rebuilds)
    (adds : world.Adds after (config.addedData world))
    : ExactlyQueued after ↔ world.jobs = [] := by
  obtain ⟨new, jobs, data⟩ := adds.jobs
  have added (delivery : Delivery) (member : delivery ∈ world.deliveries)
      : new.countP (fun job => isJobFor delivery job.data)
        = if isQueueable delivery then 1 else 0 := by
    rw [← countP_addedData rebuilds member, ← data, List.countP_map]
    rfl
  constructor
  · intro exactly
    refine List.eq_nil_iff_forall_not_mem.mpr (fun job old => ?_)
    have kept : job ∈ after.jobs := jobs ▸ List.mem_append_left new old
    obtain ⟨delivery, member, queueable, named⟩ := exactly.others job kept
    have two := exactly.one delivery member queueable
    rw [adds.deliveries] at member
    rw [jobs, List.countP_append, added delivery member, if_pos queueable] at two
    have one : 0 < world.jobs.countP (fun job => isJobFor delivery job.data) :=
      List.countP_pos_iff.mpr ⟨job, old, named⟩
    omega
  · intro empty
    rw [empty, List.nil_append] at jobs
    constructor
    · intro delivery member queueable
      rw [adds.deliveries] at member
      rw [jobs, added delivery member, if_pos queueable]
    · intro job member
      rw [jobs] at member
      rw [adds.deliveries]
      exact queueable_of_mem_addedData (data ▸ List.mem_map_of_mem member)

/-- A rebuild leaves exactly the jobs of what is queueable if the cleaning emptied the queue; one
that adds nothing does if the cleaning already left exactly these.
-/
theorem rebuild_exactlyQueued_iff {result : RebuildResult}
    (returned
      : (RebuildQueueService.rebuild config).run (rebuildSystem env) world = (.ok result, after))
    : ExactlyQueued after
      ↔ config.Rebuilds ∧ world.Emptied config env
        ∨ ¬config.Rebuilds ∧ ExactlyQueued (world.survivors config env) := by
  have adds := adds_of_rebuild returned
  by_cases rebuilds : config.Rebuilds
  · rw [exactlyQueued_iff_of_adds rebuilds adds, jobs_survivors_eq_nil]
    simp only [rebuilds, true_and, not_true, false_and, or_false]
  · obtain ⟨new, jobs, data⟩ := adds.jobs
    rw [addedData_eq_nil rebuilds, List.map_eq_nil_iff] at data
    rw [data, List.append_nil] at jobs
    simp only [rebuilds, false_and, not_false_eq_true, true_and, false_or]
    constructor
    · rintro ⟨one, others⟩
      rw [jobs, adds.deliveries] at one others
      exact ⟨one, others⟩
    · rintro ⟨one, others⟩
      rw [← jobs, ← adds.deliveries] at one others
      exact ⟨one, others⟩

end

/-- Collaborators that do not fail. -/
def workingRebuild : RebuildEnvironment where
  clock := fun _ => 0
  fault := fun _ _ => none

/-- A service whose collaborators have the methods it asks for. -/
def cleaningConfig : RebuildConfig where
  clean := true
  lookup := .findByStatus
  enqueue := .enqueueDelivery
  logger := true

theorem newDelivery_identified : [newDelivery.id].Nodup := List.nodup_singleton _

/-- One pending delivery, and a number of waiting jobs for it. -/
def waitingJobs (number : Nat) : RebuildWorld where
  deliveries := [newDelivery]
  identified := newDelivery_identified
  paired := newDelivery_paired
  jobs := List.replicate number (newJob { deliveryId := some newDelivery.id } none)

/-- A few waiting jobs are cleaned, and the delivery gets its one job. -/
theorem rebuild_two_waiting
    : ∃ after,
        (RebuildQueueService.rebuild cleaningConfig).run (rebuildSystem workingRebuild)
            (waitingJobs 2)
          = (.ok ⟨1, 0, 0⟩, after)
        ∧ ExactlyQueued after := by
  have rebuilds : cleaningConfig.Rebuilds := ⟨by decide, by decide⟩
  have emptied : (waitingJobs 2).Emptied cleaningConfig workingRebuild := by
    intro type
    cases type with
    | wait => exact .inr ⟨rfl, rfl, by decide, by decide⟩
    | active => exact .inl rfl
    | delayed => exact .inl rfl
  have returned
      : ∃ after,
          (RebuildQueueService.rebuild cleaningConfig).run (rebuildSystem workingRebuild)
              (waitingJobs 2)
            = (.ok ⟨1, 0, 0⟩, after) :=
    ⟨_, rfl⟩
  obtain ⟨after, returned⟩ := returned
  exact ⟨after, returned, (rebuild_exactlyQueued_iff returned).mpr (.inl ⟨rebuilds, emptied⟩)⟩

/-- One job more than are cleaned stays in the queue, beside the new one. -/
theorem rebuild_leaves_job
    : (waitingJobs 1001).jobs.length = 1001
      ∧ ∃ after,
          (RebuildQueueService.rebuild cleaningConfig).run (rebuildSystem workingRebuild)
              (waitingJobs 1001)
            = (.ok ⟨1, 0, 0⟩, after)
          ∧ after.jobs.length = 2
          ∧ ¬ExactlyQueued after := by
  refine ⟨List.length_replicate, _, rfl, by decide +kernel, fun exactly => ?_⟩
  have one := exactly.one newDelivery List.mem_cons_self (by decide)
  revert one
  decide +kernel

end QueueForge.Application
