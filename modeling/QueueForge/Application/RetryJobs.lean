import QueueForge.Application.EntityStore
import QueueForge.Async.Throughout
import QueueForge.Queue.BullQueue

/-! The jobs `ScheduleRetryService` leaves in a queue that retains executed jobs, over sequences of
its calls, executions of the jobs and failed attempts.
-/

namespace QueueForge.Application

open QueueForge.Async QueueForge.Js QueueForge.Domain QueueForge.Queue

/-- The data of a retry job, and whether it has been executed and is only retained. -/
structure RetryJob where
  deliveryId : String
  attempts : Nat
  executed : Bool
deriving DecidableEq, Repr

namespace RetryJob

/-- A retry job for the delivery is in the queue and has not been executed. -/
def Waits (deliveryId : String) (queue : BullQueue RetryJob) : Prop :=
  ∃ job ∈ queue.jobs, job.data.deliveryId = deliveryId ∧ job.data.executed = false

instance (deliveryId : String) (queue : BullQueue RetryJob) : Decidable (Waits deliveryId queue) :=
  inferInstanceAs (Decidable (∃ job ∈ queue.jobs, _ ∧ _))

/-- The queue retains no job under the identifier. -/
def Unused (jobId : String) (queue : BullQueue RetryJob) : Prop :=
  JobId.custom jobId ∉ queue.jobs.map QueueJob.id

/-- Mark a job executed. -/
def execute (id : JobId) (job : QueueJob RetryJob) : QueueJob RetryJob :=
  if job.id = id then { job with data := { job.data with executed := true } } else job

@[simp] theorem execute_id (id : JobId) (job : QueueJob RetryJob) : (execute id job).id = job.id := by
  unfold execute
  split
  · rfl
  · rfl

theorem map_id_execute (id : JobId) (jobs : List (QueueJob RetryJob))
    : (jobs.map (execute id)).map QueueJob.id = jobs.map QueueJob.id := by
  rw [List.map_map]
  exact List.map_congr_left (fun job _ => execute_id id job)

/-- The queue in which the job has been executed and is retained. -/
def retain (id : JobId) (queue : BullQueue RetryJob) : BullQueue RetryJob where
  jobs := queue.jobs.map (execute id)
  counter := queue.counter
  distinct := by
    rw [map_id_execute]
    exact queue.distinct
  issued := by
    rw [map_id_execute]
    exact queue.issued

/-- After an addition a job for its delivery waits if one did, or if the identifier was unused. -/
theorem waits_add {queue : BullQueue RetryJob} {name deliveryId jobId : String} {attempts : Nat}
    {delay : Number}
    : Waits deliveryId
          (queue.add name { deliveryId := deliveryId, attempts := attempts, executed := false }
            delay (some jobId))
      ↔ Waits deliveryId queue ∨ Unused jobId queue := by
  by_cases unused : Unused jobId queue
  · refine iff_of_true ?_ (.inr unused)
    unfold Waits
    rw [BullQueue.jobs_add_custom unused]
    exact ⟨_, List.mem_append_right _ List.mem_cons_self, rfl, rfl⟩
  · rw [BullQueue.add_taken (not_not.mp unused)]
    exact (or_iff_left unused).symm

end RetryJob

section
variable {σ : Type} (language : Language) (handler : Handler ServiceSignature Thrown σ)

/-- The collaborators with a queue that has no method but `add`. -/
def overQueue : Handler ServiceSignature Thrown (σ × BullQueue RetryJob)
  | .add name deliveryId delay attempts jobId, world =>
      let job : RetryJob := { deliveryId := deliveryId, attempts := attempts, executed := false }
      (.ok (), world.1, world.2.add name job (language.number delay) (some jobId))
  | op, world => ((handler op world.1).1, (handler op world.1).2, world.2)

end

-----------------------------------------------------------------------------------------
-- Calls, executions and failed attempts
-----------------------------------------------------------------------------------------

/-- What happens to a delivery: a call of the service, an execution of a job, after which the
queue retains it or does not, and a failed attempt, which leaves the delivery as it is given.
-/
inductive RetryStep (deliveryId : String) where
  | scheduleRetry (retryCountOrStrategy maxRetriesOrStrategy : RetryOption)
  | execute (id : JobId) (retained : Bool)
  | attempt (after : Delivery) (named : after.id = deliveryId)

namespace RetryStep

section
variable {σ : Type} (config : ServiceConfig) (handler : Handler ServiceSignature Thrown σ)
  (deliveryId : String)

/-- Run a call of the service. -/
def call (retryCountOrStrategy maxRetriesOrStrategy : RetryOption)
    (state : σ × BullQueue RetryJob)
    : Settled Thrown Unit × σ × BullQueue RetryJob :=
  (ScheduleRetryService.scheduleRetry config deliveryId retryCountOrStrategy
    maxRetriesOrStrategy).run (overQueue config.language handler) state

/-- The state a step leaves. -/
def after (step : RetryStep deliveryId) (state : σ × BullQueue RetryJob)
    : σ × BullQueue RetryJob :=
  match step with
  | scheduleRetry retryCountOrStrategy maxRetriesOrStrategy =>
      (call config handler deliveryId retryCountOrStrategy maxRetriesOrStrategy state).2
  | execute id retained =>
      (state.1, if retained then RetryJob.retain id state.2 else state.2.remove id)
  | attempt after _ => ((handler (.save after []) state.1).2, state.2)

/-- A call that returns leaves a retry job for the delivery that has not been executed. -/
def LeavesJob (step : RetryStep deliveryId) (state : σ × BullQueue RetryJob) : Prop :=
  match step with
  | scheduleRetry retryCountOrStrategy maxRetriesOrStrategy =>
      (call config handler deliveryId retryCountOrStrategy maxRetriesOrStrategy state).1 = .ok ()
      → RetryJob.Waits deliveryId
          (call config handler deliveryId retryCountOrStrategy maxRetriesOrStrategy state).2.2
  | _ => True

end

end RetryStep

namespace ScheduleRetryService

-----------------------------------------------------------------------------------------
-- What one call returns and leaves in the queue
-----------------------------------------------------------------------------------------

/-- The delivery has retries left, and a strategy that is given computes a delay. -/
def accepts (language : Language) (retryCountOrStrategy maxRetriesOrStrategy : RetryOption)
    (retryCount : Int)
    : Bool :=
  match maxAllowed maxRetriesOrStrategy with
  | .error _ => false
  | .ok maximum =>
      !(language.number maximum).le (.ofInt retryCount)
      && !delayThrows retryCountOrStrategy maxRetriesOrStrategy
            (attemptNum retryCountOrStrategy retryCount)

/-- The identifier of the job, which names the attempt after the one that is counted. -/
def retryJobId (language : Language) (deliveryId : String)
    (retryCountOrStrategy : RetryOption) (retryCount : Int)
    : String :=
  s!"retry:{deliveryId}:{language.toText
    (.number ((attemptNum retryCountOrStrategy retryCount).add 1))}"

section
variable {σ : Type} {config : ServiceConfig} {handler : Handler ServiceSignature Thrown σ}
  {stored : σ → String → Option Delivery} {delivery : Delivery} {world : σ}
  {queue : BullQueue RetryJob} {retryCountOrStrategy maxRetriesOrStrategy : RetryOption}

/-- Loading over the queue is loading from the store. -/
theorem run_loadDelivery_overQueue (store : EntityStore config handler stored)
    (found : stored world delivery.id = some delivery)
    : ∃ loaded,
        (loadDelivery config delivery.id).run (overQueue config.language handler)
            (world, queue)
          = (.ok delivery, loaded, queue)
        ∧ stored loaded = stored world := by
  obtain ⟨loaded, loads, kept⟩ := store.run_loadDelivery found
  refine ⟨loaded, ?_, kept⟩
  rw [run_lookups (loadDelivery_awaits config delivery.id) (fun inner => (inner, queue))
    (fun _ _ => rfl) (fun _ _ => rfl) world, loads]

/-- The store holds some version of the delivery. -/
def Holds (stored : σ → String → Option Delivery) (id : String) (world : σ) : Prop :=
  ∃ delivery, stored world id = some delivery ∧ delivery.id = id

theorem holds_of_save (store : EntityStore config handler stored) {saved : Delivery}
    (same : delivery.SameEntity saved) (world : σ)
    : Holds stored delivery.id (handler (.save saved []) world).2 :=
  ⟨saved, ((store.saves saved [] world).2 delivery.id).trans (if_pos same.id.symm), same.id⟩

/-- A call that is accepted reschedules the delivery and adds its job. -/
theorem run_reschedule_accepted (store : EntityStore config handler stored)
    (resolves : ∀ op world, Resolved op (handler op world).1) (queued : config.queue = .add)
    (accepted
      : accepts config.language retryCountOrStrategy maxRetriesOrStrategy delivery.retryCount
        = true)
    : ∃ after delay,
        (reschedule config delivery.id retryCountOrStrategy maxRetriesOrStrategy delivery).run
            (overQueue config.language handler) (world, queue)
          = (.ok (), after,
              queue.add "deliver-task-result"
                { deliveryId := delivery.id, attempts := 5, executed := false } delay
                (some
                  (retryJobId config.language delivery.id retryCountOrStrategy
                    delivery.retryCount)))
        ∧ Holds stored delivery.id after := by
  unfold accepts at accepted
  cases given : maxAllowed maxRetriesOrStrategy with
  | error error =>
      rw [given] at accepted
      exact nomatch accepted
  | ok maximum =>
      rw [given, Bool.and_eq_true, Bool.not_eq_true', Bool.not_eq_true'] at accepted
      obtain ⟨reached, delayed⟩ := accepted
      obtain ⟨runtime, known⟩ := resolves .runtime world
      obtain ⟨value, delays⟩ := delay_found delayed runtime
      obtain ⟨processing, started, sameStarted, _⟩ := startProcessing_returns runtime delivery
      obtain ⟨after, returned, sameScheduled, _, status⟩ :=
        @Delivery.scheduleRetry_spec runtime processing (config.language.timeArgument value)
      have saved := store.saves after [] (handler .runtime world).2
      refine ⟨_, config.language.number value, ?_,
        holds_of_save store (sameStarted.trans sameScheduled) (handler .runtime world).2⟩
      simp only [reschedule, given, Program.bind_eq, Program.run_bind, run_settled,
        run_awaitCall, overQueue, known, reached, Bool.false_eq_true, if_false, delays, started,
        Program.run_done, applied_of_returns returned, saved.1, enqueue, queued]
      rfl

/-- Any other throws and leaves the queue as it is. -/
theorem run_reschedule_rejected (store : EntityStore config handler stored)
    (resolves : ∀ op world, Resolved op (handler op world).1)
    (found : stored world delivery.id = some delivery)
    (rejected
      : accepts config.language retryCountOrStrategy maxRetriesOrStrategy delivery.retryCount
        = false)
    : ∃ error after,
        (reschedule config delivery.id retryCountOrStrategy maxRetriesOrStrategy delivery).run
            (overQueue config.language handler) (world, queue)
          = (.error error, after, queue)
        ∧ Holds stored delivery.id after := by
  obtain ⟨runtime, known⟩ := resolves .runtime world
  have unchanged : Holds stored delivery.id (handler .runtime world).2 := by
    refine ⟨delivery, ?_, rfl⟩
    rw [store.kept .runtime world rfl rfl]
    exact found
  unfold accepts at rejected
  cases given : maxAllowed maxRetriesOrStrategy with
  | error error =>
      refine ⟨error, world, ?_, ⟨delivery, found, rfl⟩⟩
      simp only [reschedule, given, Program.bind_eq, Program.run_bind, run_settled]
  | ok maximum =>
      rw [given, Bool.and_eq_false_iff, Bool.not_eq_false', Bool.not_eq_false'] at rejected
      cases reached : (config.language.number maximum).le (.ofInt delivery.retryCount) with
      | true =>
          obtain ⟨dead, returned, same, _⟩ :=
            @Delivery.moveToDeadLetterQueue_spec runtime delivery
              (exceededReason config.language delivery.retryCount maximum)
              (.inr (exceededReason_isText config.language delivery.retryCount maximum))
          have saved := store.saves dead [] (handler .runtime world).2
          refine ⟨.error
            (maxRetriesExceededError delivery.id (toString delivery.retryCount)
              (config.language.toText maximum)), _, ?_,
            holds_of_save store same (handler .runtime world).2⟩
          simp only [reschedule, given, Program.bind_eq, Program.run_bind, run_settled,
            run_awaitCall, overQueue, known, reached, if_true, applied_of_returns returned,
            Program.run_done, saved.1]
          rfl
      | false =>
          have throws := rejected.resolve_left (by rw [reached]; exact Bool.false_ne_true)
          obtain ⟨error, thrown⟩ := delay_throws throws runtime
          refine ⟨error, _, ?_, unchanged⟩
          simp only [reschedule, given, Program.bind_eq, Program.run_bind, run_settled,
            run_awaitCall, overQueue, known, reached, Bool.false_eq_true, if_false, thrown]

/-- What a call leaves of a stored delivery and of the queue: it returns exactly if it is
accepted, and then its job has been added.
-/
theorem call_leaves (store : EntityStore config handler stored)
    (resolves : ∀ op world, Resolved op (handler op world).1) (queued : config.queue = .add)
    (found : stored world delivery.id = some delivery)
    : Holds stored delivery.id
          (RetryStep.call config handler delivery.id retryCountOrStrategy maxRetriesOrStrategy
            (world, queue)).2.1
      ∧ ((RetryStep.call config handler delivery.id retryCountOrStrategy
            maxRetriesOrStrategy (world, queue)).1
          = .ok ()
        ↔ accepts config.language retryCountOrStrategy maxRetriesOrStrategy
              delivery.retryCount
            = true)
      ∧ (accepts config.language retryCountOrStrategy maxRetriesOrStrategy delivery.retryCount
            = true
        → ∃ delay,
            (RetryStep.call config handler delivery.id retryCountOrStrategy
                maxRetriesOrStrategy (world, queue)).2.2
            = queue.add "deliver-task-result"
                { deliveryId := delivery.id, attempts := 5, executed := false } delay
                (some
                  (retryJobId config.language delivery.id retryCountOrStrategy
                    delivery.retryCount))) := by
  obtain ⟨loaded, loads, kept⟩ := @run_loadDelivery_overQueue _ _ _ _ _ _ queue store found
  have ran
      : RetryStep.call config handler delivery.id retryCountOrStrategy maxRetriesOrStrategy
            (world, queue)
        = (reschedule config delivery.id retryCountOrStrategy maxRetriesOrStrategy delivery).run
            (overQueue config.language handler) (loaded, queue) := by
    simp only [RetryStep.call, scheduleRetry, Program.bind_eq, Program.run_bind, loads]
  rw [ran]
  cases accepted
      : accepts config.language retryCountOrStrategy maxRetriesOrStrategy
          delivery.retryCount with
  | true =>
      obtain ⟨after, delay, left, holds⟩ :=
        @run_reschedule_accepted _ _ _ _ _ loaded queue _ _ store resolves queued accepted
      rw [left]
      exact ⟨holds, iff_of_true rfl rfl, fun _ => ⟨delay, rfl⟩⟩
  | false =>
      rw [← kept] at found
      obtain ⟨error, after, left, holds⟩ :=
        @run_reschedule_rejected _ _ _ _ _ loaded queue _ _ store resolves found accepted
      rw [left]
      exact ⟨holds, iff_of_false (by rintro ⟨⟩) (by rintro ⟨⟩), (by rintro ⟨⟩)⟩

end

end ScheduleRetryService

namespace RetryStep

-----------------------------------------------------------------------------------------
-- Every step of a run
-----------------------------------------------------------------------------------------

/-- A call that is accepted finds a retry job for the delivery still waiting, or no job retained
under the identifier it derives.
-/
def FindsUnused {σ : Type} (language : Language) (stored : σ → String → Option Delivery)
    (deliveryId : String) (step : RetryStep deliveryId) (state : σ × BullQueue RetryJob)
    : Prop :=
  match step with
  | scheduleRetry retryCountOrStrategy maxRetriesOrStrategy =>
      ∀ delivery,
        stored state.1 deliveryId = some delivery
        → ScheduleRetryService.accepts language retryCountOrStrategy maxRetriesOrStrategy
              delivery.retryCount
            = true
        → RetryJob.Waits deliveryId state.2
          ∨ RetryJob.Unused
              (ScheduleRetryService.retryJobId language deliveryId retryCountOrStrategy
                delivery.retryCount)
              state.2
  | _ => True

section
variable {σ : Type} {config : ServiceConfig} {handler : Handler ServiceSignature Thrown σ}
  {stored : σ → String → Option Delivery} {deliveryId : String} {step : RetryStep deliveryId}
  {state : σ × BullQueue RetryJob}

/-- Every step leaves the delivery in the store. -/
theorem holds_after (store : EntityStore config handler stored)
    (resolves : ∀ op world, Resolved op (handler op world).1) (queued : config.queue = .add)
    (holds : ScheduleRetryService.Holds stored deliveryId state.1)
    : ScheduleRetryService.Holds stored deliveryId
        (step.after config handler deliveryId state).1 := by
  cases step with
  | scheduleRetry retryCountOrStrategy maxRetriesOrStrategy =>
      obtain ⟨delivery, found, rfl⟩ := holds
      exact (ScheduleRetryService.call_leaves store resolves queued found).1
  | execute id retained => exact holds
  | attempt after named =>
      refine ⟨after, ?_, named⟩
      exact ((store.saves after [] state.1).2 deliveryId).trans (if_pos named.symm)

/-- A call leaves a job exactly where it finds one or its identifier is unused. -/
theorem leavesJob_iff (store : EntityStore config handler stored)
    (resolves : ∀ op world, Resolved op (handler op world).1) (queued : config.queue = .add)
    (holds : ScheduleRetryService.Holds stored deliveryId state.1)
    : step.LeavesJob config handler deliveryId state
      ↔ step.FindsUnused config.language stored deliveryId state := by
  cases step with
  | execute id retained => exact .rfl
  | attempt after named => exact .rfl
  | scheduleRetry retryCountOrStrategy maxRetriesOrStrategy =>
      obtain ⟨delivery, found, rfl⟩ := holds
      obtain ⟨_, returns, adds⟩ :=
        @ScheduleRetryService.call_leaves _ _ _ _ _ state.1 state.2 retryCountOrStrategy
          maxRetriesOrStrategy store resolves queued found
      simp only [LeavesJob, FindsUnused]
      rw [returns]
      constructor
      · intro leaves other same accepted
        obtain rfl : delivery = other := Option.some.inj (found.symm.trans same)
        obtain ⟨delay, added⟩ := adds accepted
        have waits := leaves accepted
        rw [added] at waits
        exact RetryJob.waits_add.mp waits
      · intro finds accepted
        obtain ⟨delay, added⟩ := adds accepted
        rw [added]
        exact RetryJob.waits_add.mpr (finds delivery found accepted)

end

end RetryStep

/-- Over a store that returns the last saved entity and a queue that retains executed jobs, each
call of a sequence leaves a retry job that has not been executed if and only if each finds one
or an unused identifier.
-/
theorem retries_leave_jobs_iff {σ : Type} {config : ServiceConfig}
    {handler : Handler ServiceSignature Thrown σ} {stored : σ → String → Option Delivery}
    {delivery : Delivery} {world : σ} (store : EntityStore config handler stored)
    (resolves : ∀ op world, Resolved op (handler op world).1) (queued : config.queue = .add)
    (queue : BullQueue RetryJob) (steps : List (RetryStep delivery.id))
    (found : stored world delivery.id = some delivery)
    : EveryStep (RetryStep.after config handler delivery.id)
          (RetryStep.LeavesJob config handler delivery.id) steps (world, queue)
      ↔ EveryStep (RetryStep.after config handler delivery.id)
          (RetryStep.FindsUnused config.language stored delivery.id) steps (world, queue) := by
  have keeps
      : ∀ (step : RetryStep delivery.id) (state : σ × BullQueue RetryJob),
          ScheduleRetryService.Holds stored delivery.id state.1
          → ScheduleRetryService.Holds stored delivery.id
              (step.after config handler delivery.id state).1 :=
    fun step state holds => RetryStep.holds_after store resolves queued holds
  have agree
      : ∀ (step : RetryStep delivery.id) (state : σ × BullQueue RetryJob),
          ScheduleRetryService.Holds stored delivery.id state.1
          → (step.LeavesJob config handler delivery.id state
            ↔ step.FindsUnused config.language stored delivery.id state) :=
    fun step state holds => RetryStep.leavesJob_iff store resolves queued holds
  exact everyStep_congr keeps agree steps ⟨delivery, found, rfl⟩

/-- The services over the store in memory, with a queue to add to and whole numbers as text. -/
def queueingConfig : ServiceConfig := {
  memoryConfig with
  queue := .add
  language := {
    memoryConfig.language with
    toText := fun value =>
      match value with
      | .number (.finite number) => toString number.num
      | _ => ""
  }
}

/-- The memory is a store of entities for them too. -/
theorem queueing_entityStore (runtime : Runtime)
    : EntityStore queueingConfig (memory runtime) (fun entities => entities) where
  loads := (memory_entityStore runtime).loads
  saves := (memory_entityStore runtime).saves
  kept := (memory_entityStore runtime).kept

theorem first_retry_leaves_job
    : EveryStep (RetryStep.after queueingConfig (memory ⟨0, 0, fun _ => 1⟩) newDelivery.id)
        (RetryStep.LeavesJob queueingConfig (memory ⟨0, 0, fun _ => 1⟩) newDelivery.id)
        [.scheduleRetry .absent .absent, .execute (.custom "retry:delivery:1") true]
        (holdingNew, .empty) := by
  refine (retries_leave_jobs_iff (queueing_entityStore ⟨0, 0, fun _ => 1⟩) (memory_resolves _)
    rfl .empty _ (show holdingNew newDelivery.id = some newDelivery from rfl)).mpr ?_
  exact ⟨fun _ _ _ => .inr List.not_mem_nil, trivial, trivial⟩

/-- A second call after the job of the first has been executed returns and leaves no job: both
derive one identifier, as the count is still zero.
-/
theorem second_retry_leaves_none
    : ¬EveryStep (RetryStep.after queueingConfig (memory ⟨0, 0, fun _ => 1⟩) newDelivery.id)
        (RetryStep.LeavesJob queueingConfig (memory ⟨0, 0, fun _ => 1⟩) newDelivery.id)
        [.scheduleRetry .absent .absent, .execute (.custom "retry:delivery:1") true,
          .scheduleRetry .absent .absent]
        (holdingNew, .empty) := by
  rintro ⟨_, _, second, _⟩
  have waits := second (by decide +kernel)
  revert waits
  decide +kernel

end QueueForge.Application
