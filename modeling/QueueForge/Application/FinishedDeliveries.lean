import QueueForge.Application.SavedDeliveries
import QueueForge.Infrastructure.PrismaDeliveryLogRepository

/-! Finished deliveries and the services that reschedule or give up: when a call leaves a
COMPLETED or FAILED_DLQ delivery alone.
-/

namespace QueueForge.Application

open QueueForge.Async QueueForge.Js QueueForge.Domain QueueForge.Infrastructure

/-- A call of one of the services, without the identifier it is made with. -/
inductive RetryServiceCall where
  | scheduleRetry (retryCountOrStrategy maxRetriesOrStrategy : RetryOption)
  | handleFailure (error : ReportedError) (verdict : FailureVerdict)
  | schedulerScheduleRetry (configuredMaxRetries retryCount delayMs : Number)
  | schedulerCancelRetry

namespace RetryServiceCall

variable (config : ServiceConfig) (deliveryId : String)

/-- The method the call runs. -/
def body : RetryServiceCall → ServiceProgram Unit
  | scheduleRetry retryCountOrStrategy maxRetriesOrStrategy =>
      ScheduleRetryService.scheduleRetry config deliveryId retryCountOrStrategy
        maxRetriesOrStrategy
  | handleFailure error verdict =>
      HandleFailureService.handleFailure config deliveryId error verdict
  | schedulerScheduleRetry configuredMaxRetries retryCount delayMs =>
      RetryScheduler.scheduleRetry config configuredMaxRetries deliveryId retryCount delayMs
  | schedulerCancelRetry => RetryScheduler.cancelRetry deliveryId

/-- The lookup the method starts with. -/
def lookup : RetryServiceCall → ServiceProgram (Option Delivery)
  | scheduleRetry _ _ | handleFailure _ _ => some <$> loadDelivery config deliveryId
  | schedulerScheduleRetry _ _ _ | schedulerCancelRetry =>
      RetryScheduler.findDelivery deliveryId

/-- What the method does with the delivery it looked up. -/
def proceed (delivery : Delivery) : RetryServiceCall → ServiceProgram Unit
  | scheduleRetry retryCountOrStrategy maxRetriesOrStrategy =>
      ScheduleRetryService.reschedule config deliveryId retryCountOrStrategy
        maxRetriesOrStrategy delivery
  | handleFailure error verdict =>
      HandleFailureService.recordFailure config deliveryId error verdict delivery
  | schedulerScheduleRetry _ retryCount delayMs =>
      RetryScheduler.reschedule deliveryId retryCount delayMs (some delivery)
  | schedulerCancelRetry => RetryScheduler.cancel (some delivery)

/-- Whether a call leaves a finished delivery alone: the scheduler always does; the other
services do when they throw before they save, or when they give up a delivery that is
FAILED_DLQ already.
-/
def spares (language : Language) (delivery : Delivery) : RetryServiceCall → Bool
  | scheduleRetry retryCountOrStrategy maxRetriesOrStrategy =>
      match ScheduleRetryService.maxAllowed maxRetriesOrStrategy with
      | .error _ => true
      | .ok maximum =>
          if (language.number maximum).le (.ofInt delivery.retryCount) then
            delivery.status = .failedDlq
          else
            ScheduleRetryService.delayThrows retryCountOrStrategy maxRetriesOrStrategy
              (ScheduleRetryService.attemptNum retryCountOrStrategy delivery.retryCount)
  | handleFailure error verdict =>
      match HandleFailureService.isRetryable language error verdict with
      | .error _ => true
      | .ok isRetryable =>
          !error.argument.usable
          || !HandleFailureService.recordable isRetryable
          || (delivery.status = .failedDlq && !HandleFailureService.retries isRetryable delivery)
  | schedulerScheduleRetry _ _ _ => true
  | schedulerCancelRetry => true

end RetryServiceCall

/-- What the services rely on of the store and the queue behind their calls: only a save
changes a stored status, only to that of the saved delivery, and only an enqueue changes
the queue.
-/
structure StatusStore {σ : Type} (handler : Handler ServiceSignature Thrown σ)
    (status? : σ → String → Option DeliveryStatus) (queued : σ → Nat)
    : Prop where
  kept
    : ∀ (call : ServiceCall) world id,
        call.saved? = none → status? (handler call world).2 id = status? world id
  saved
    : ∀ delivery events world id,
        status? (handler (.save delivery events) world).2 id = status? world id
        ∨ id = delivery.id
          ∧ status? (handler (.save delivery events) world).2 id = some delivery.status
  resolved
    : ∀ delivery events world,
        (handler (.save delivery events) world).1 = .ok ()
        → status? (handler (.save delivery events) world).2 delivery.id
          = some delivery.status
  unqueued
    : ∀ (call : ServiceCall) world,
        call.isEnqueue = false → queued (handler call world).2 = queued world

/-- The deployment over Prisma is such a store. -/
theorem deployment_statusStore (env : ServiceEnvironment)
    : StatusStore (deployment env) ServiceWorld.status? (fun world => world.jobs.length) where
  kept call world id reads := by
    cases call with
    | save delivery events => exact nomatch reads
    | findByTaskResultId taskResultId =>
        exact congrArg (fun after => ServiceWorld.status? after id)
          (PrismaDeliveryLogRepository.run_findByTaskResultId taskResultId world)
    | enqueueDelivery taskResultId destinationId attempt delay =>
        exact congrArg (fun database => World.status? database id) (enqueueJob_database env _ world)
    | add name deliveryId delay attempts jobId =>
        exact congrArg (fun database => World.status? database id) (enqueueJob_database env _ world)
    | _ => rfl
  saved delivery events world id :=
    (PrismaDeliveryLogRepository.status?_save delivery events world id).1
  resolved delivery events world :=
    (PrismaDeliveryLogRepository.status?_save delivery events world delivery.id).2
  unqueued call world quiet := by
    cases call with
    | enqueueDelivery taskResultId destinationId attempt delay => exact nomatch quiet
    | add name deliveryId delay attempts jobId => exact nomatch quiet
    | save delivery events =>
        exact congrArg List.length
          (PrismaDeliveryLogRepository.jobs_save delivery events world)
    | findByTaskResultId taskResultId =>
        exact congrArg (fun after => after.jobs.length)
          (PrismaDeliveryLogRepository.run_findByTaskResultId taskResultId world)
    | _ => rfl

/-- A call that would leave a finished delivery alone: it saves the delivery only under its
status and puts no job in the queue.
-/
def SparingCall (delivery : Delivery) (call : ServiceCall) : Prop :=
  call.isEnqueue = false
  ∧ ∀ saved ∈ call.saved?, saved.id = delivery.id → saved.status = delivery.status

/-- A program made of a sparing call. -/
theorem awaits_sparing {delivery : Delivery} {call : ServiceCall}
    (sparing : SparingCall delivery call)
    : Program.Awaits (α := no_index call.Result) (S := ServiceSignature)
        (SparingCall delivery) (awaitCall call) :=
  Program.Awaits.perform (S := ServiceSignature) sparing

/-- A call that neither saves nor enqueues spares every delivery. -/
theorem sparing_quiet {delivery : Delivery} {call : ServiceCall}
    (unqueued : call.isEnqueue = false) (unsaved : call.saved? = none)
    : SparingCall delivery call := by
  refine ⟨unqueued, ?_⟩
  rw [unsaved]
  exact fun saved member => nomatch member

/-- A save under the status of the delivery spares it. -/
theorem sparing_save {delivery saved : Delivery} {events : List DomainEvent}
    (same : saved.status = delivery.status)
    : SparingCall delivery (.save saved events) := by
  refine ⟨rfl, ?_⟩
  rintro other member _
  rw [← Option.some.inj member]
  exact same

/-- A finished delivery has none of the other statuses. -/
theorem finished_ne {delivery : Delivery} {status : DeliveryStatus}
    (finished : delivery.status.isFinal = true) (open_ : status.isFinal = false)
    : delivery.status ≠ status := by
  intro same
  rw [same, open_] at finished
  cases finished

/-- A finished delivery is not marked PROCESSING first. -/
theorem startProcessing_finished (runtime : Runtime) {delivery : Delivery}
    (finished : delivery.status.isFinal = true)
    : startProcessing runtime delivery = .done delivery := by
  refine if_neg (not_or.mpr ⟨?_, ?_⟩)
  · exact finished_ne finished rfl
  · exact finished_ne finished rfl

/-- Marking a finished delivery PROCESSING throws. -/
theorem applied_markProcessing_finished (runtime : Runtime) {delivery : Delivery}
    (finished : delivery.status.isFinal = true)
    : ∃ error, applied (Delivery.markProcessing runtime) delivery = .fail error := by
  have final : ¬(delivery.status = .pending ∨ delivery.status = .scheduledRetry) :=
    not_or.mpr ⟨finished_ne finished rfl, finished_ne finished rfl⟩
  exact ⟨_, applied_of_throws
    (congrArg Prod.fst (Delivery.markAsProcessing_not_startable runtime final))⟩

section
variable {config : ServiceConfig} {deliveryId : String} {delivery : Delivery}

/-- `ScheduleRetryService` spares a delivery under its condition. -/
theorem reschedule_sparing {retryCountOrStrategy maxRetriesOrStrategy : RetryOption}
    (spared
      : (RetryServiceCall.scheduleRetry retryCountOrStrategy maxRetriesOrStrategy).spares
          config.language delivery
        = true)
    : (ScheduleRetryService.reschedule config deliveryId retryCountOrStrategy
          maxRetriesOrStrategy delivery).Awaits (SparingCall delivery) := by
  simp only [RetryServiceCall.spares] at spared
  cases given : ScheduleRetryService.maxAllowed maxRetriesOrStrategy with
  | error error =>
      simp only [ScheduleRetryService.reschedule, given, settled, Program.bind_eq, Program.bind]
      trivial
  | ok maximum =>
      simp only [given] at spared
      simp only [ScheduleRetryService.reschedule, given, settled, Program.bind_eq, Program.bind]
      refine .bind (awaits_sparing (sparing_quiet rfl rfl)) (fun runtime => ?_)
      cases reached : (config.language.number maximum).le (.ofInt delivery.retryCount) with
      | true =>
          rw [reached, if_pos rfl] at spared
          have deadLettered : delivery.status = .failedDlq := of_decide_eq_true spared
          obtain ⟨after, returned, same, _, _, status⟩ :=
            @Delivery.moveToDeadLetterQueue_spec runtime delivery _
              (.inr (ScheduleRetryService.exceededReason_isText config.language
                delivery.retryCount maximum))
          simp only [applied_of_returns returned, Program.bind, if_true]
          have unchanged : after.status = delivery.status := status.trans deadLettered.symm
          exact .bind (awaits_sparing (sparing_save unchanged)) (fun _ => trivial)
      | false =>
          rw [reached, if_neg Bool.false_ne_true] at spared
          obtain ⟨error, thrown⟩ := ScheduleRetryService.delay_throws spared runtime
          simp only [thrown, Program.bind, Bool.false_eq_true, if_false]
          trivial

/-- `HandleFailureService` spares a finished delivery under its condition. -/
theorem recordFailure_sparing {error : ReportedError} {verdict : FailureVerdict}
    (finished : delivery.status.isFinal = true)
    (spared
      : (RetryServiceCall.handleFailure error verdict).spares config.language delivery = true)
    : (HandleFailureService.recordFailure config deliveryId error verdict delivery).Awaits
        (SparingCall delivery) := by
  simp only [RetryServiceCall.spares] at spared
  cases judged : HandleFailureService.isRetryable config.language error verdict with
  | error error =>
      simp only [HandleFailureService.recordFailure, judged, settled, Program.bind_eq,
        Program.bind]
      trivial
  | ok isRetryable =>
      simp only [judged, Bool.or_eq_true, Bool.not_eq_true', Bool.and_eq_true,
        decide_eq_true_eq] at spared
      simp only [HandleFailureService.recordFailure, judged, settled, Program.bind_eq,
        Program.bind]
      refine .bind ?_ (fun _ => .bind (awaits_sparing (sparing_quiet rfl rfl)) ?_)
      · unfold HandleFailureService.recordAttempt
        split
        · exact awaits_sparing (sparing_quiet rfl rfl)
        · trivial
      intro runtime
      simp only [startProcessing_finished runtime finished, Program.bind]
      by_cases recorded
          : error.argument.usable = true
            ∧ HandleFailureService.recordable isRetryable = true
      · -- a failure that is recorded must be given up by a delivery that was given up before
        obtain ⟨deadLettered, kept⟩
            : delivery.status = .failedDlq
              ∧ HandleFailureService.retries isRetryable delivery = false := by
          rcases spared with (unusable | unrecordable) | both
          · exact absurd recorded.1 (Bool.eq_false_iff.mp unusable)
          · exact absurd recorded.2 (Bool.eq_false_iff.mp unrecordable)
          · exact both
        obtain ⟨failed, returned, same, _, known, eligible⟩ :=
          @HandleFailureService.markFailed_spec runtime delivery _ _ recorded.1 recorded.2
        obtain ⟨dead, moved, _, _, _, status⟩ :=
          @Delivery.moveToDeadLetterQueue_spec runtime failed
            (HandleFailureService.errorMessage error) (.inl known)
        simp only [applied_of_returns returned, Program.bind, eligible, kept,
          Bool.false_eq_true, if_false, HandleFailureService.moveToDeadLetterQueue,
          applied_of_returns moved, Program.bind_eq]
        refine .bind ?_ (fun _ => awaits_sparing (sparing_save (status.trans deadLettered.symm)))
        unfold HandleFailureService.publish
        split
        · exact awaits_sparing (sparing_quiet rfl rfl)
        · trivial
      · obtain ⟨thrown, throws⟩ :=
          HandleFailureService.markFailed_throws runtime delivery (not_and_or.mp recorded)
        simp only [applied_of_throws throws, Program.bind]
        trivial

/-- The scheduler spares every finished delivery: it throws before it saves. -/
theorem scheduler_reschedule_sparing (finished : delivery.status.isFinal = true)
    (retryCount delayMs : Number)
    : (RetryScheduler.reschedule deliveryId retryCount delayMs (some delivery)).Awaits
        (SparingCall delivery) := by
  refine .bind (awaits_sparing (sparing_quiet rfl rfl)) (fun runtime => ?_)
  obtain ⟨error, thrown⟩ := applied_markProcessing_finished runtime finished
  have notProcessing : delivery.status ≠ .processing := finished_ne finished rfl
  simp only [if_pos notProcessing, thrown]
  trivial

theorem scheduler_cancel_sparing (finished : delivery.status.isFinal = true)
    : (RetryScheduler.cancel (some delivery)).Awaits (SparingCall delivery) := by
  refine .bind (awaits_sparing (sparing_quiet rfl rfl)) (fun runtime => ?_)
  obtain ⟨error, thrown⟩ := applied_markProcessing_finished runtime finished
  have both : delivery.status ≠ .processing ∧ delivery.status ≠ .scheduledRetry :=
    ⟨finished_ne finished rfl, finished_ne finished rfl⟩
  simp only [if_pos both, thrown]
  trivial

/-- Under its condition a call makes only sparing calls, by cases on the service. -/
theorem proceed_sparing {call : RetryServiceCall} (finished : delivery.status.isFinal = true)
    (spared : call.spares config.language delivery = true)
    : (call.proceed config deliveryId delivery).Awaits (SparingCall delivery) := by
  cases call with
  | scheduleRetry retryCountOrStrategy maxRetriesOrStrategy =>
      exact reschedule_sparing spared
  | handleFailure error verdict => exact recordFailure_sparing finished spared
  | schedulerScheduleRetry configuredMaxRetries retryCount delayMs =>
      exact @scheduler_reschedule_sparing deliveryId delivery finished retryCount delayMs
  | schedulerCancelRetry => exact scheduler_cancel_sparing finished

/-- Otherwise, with collaborators that resolve, it saves the delivery under another status.
-/
theorem proceed_reopens {call : RetryServiceCall} (finished : delivery.status.isFinal = true)
    (spared : call.spares config.language delivery = false)
    : (call.proceed config deliveryId delivery).Meets (saving .quiet) none
        (fun _ saved =>
          ∃ after,
            saved = some after ∧ after.id = delivery.id ∧ after.status ≠ delivery.status) := by
  cases call with
  | scheduleRetry retryCountOrStrategy maxRetriesOrStrategy =>
      simp only [RetryServiceCall.spares] at spared
      cases given : ScheduleRetryService.maxAllowed maxRetriesOrStrategy with
      | error error =>
          simp only [given] at spared
          cases spared
      | ok maximum =>
          simp only [given] at spared
          cases reached : (config.language.number maximum).le (.ofInt delivery.retryCount) with
          | true =>
              rw [reached, if_pos rfl] at spared
              refine (ScheduleRetryService.reschedule_saves_exceeded given reached).mono ?_
              rintro _ _ ⟨after, rfl, same, status⟩
              exact ⟨after, rfl, same.id,
                fun unchanged => of_decide_eq_false spared (unchanged.symm.trans status)⟩
          | false =>
              rw [reached, if_neg Bool.false_ne_true] at spared
              have delayed := ScheduleRetryService.delay_found spared
              refine
                (ScheduleRetryService.reschedule_saves_scheduled given reached delayed).mono ?_
              rintro _ _ ⟨after, rfl, same, status⟩
              exact ⟨after, rfl, same.id,
                fun unchanged => finished_ne finished rfl (unchanged.symm.trans status)⟩
  | handleFailure error verdict =>
      simp only [RetryServiceCall.spares] at spared
      cases judged : HandleFailureService.isRetryable config.language error verdict with
      | error error =>
          simp only [judged] at spared
          cases spared
      | ok isRetryable =>
          simp only [judged, Bool.or_eq_false_iff, Bool.not_eq_false'] at spared
          obtain ⟨⟨usable, recorded⟩, kept⟩ := spared
          have sound : Faults.quiet.interrupts config = false := by
            simp [Faults.interrupts, Faults.quiet]
          refine (HandleFailureService.recordFailure_saves judged usable recorded sound delivery
            none).mono ?_
          rintro _ _ ⟨_, after, rfl, same, _, status⟩
          refine ⟨after, rfl, same.id, ?_⟩
          intro unchanged
          cases retried : HandleFailureService.retries isRetryable delivery with
          | true =>
              rw [retried, if_pos rfl] at status
              exact finished_ne finished rfl (unchanged.symm.trans status)
          | false =>
              rw [retried, if_neg Bool.false_ne_true] at status
              have deadLettered : delivery.status = .failedDlq := unchanged.symm.trans status
              simp [retried, deadLettered] at kept
  | schedulerScheduleRetry configuredMaxRetries retryCount delayMs => cases spared
  | schedulerCancelRetry => cases spared

end

/-- The delivery and the queue are as they were. -/
def Untouched {σ : Type} (status? : σ → String → Option DeliveryStatus) (queued : σ → Nat)
    (deliveryId : String) (before after : σ)
    : Prop :=
  status? after deliveryId = status? before deliveryId ∧ queued after = queued before

section
variable {σ : Type} {handler : Handler ServiceSignature Thrown σ}
  {status? : σ → String → Option DeliveryStatus} {queued : σ → Nat} {delivery : Delivery}

/-- A sparing call leaves a delivery in its status and the queue as it is. -/
theorem StatusStore.sparing (store : StatusStore handler status? queued)
    {call : ServiceCall} (sparing : SparingCall delivery call) {world : σ}
    (stored : status? world delivery.id = some delivery.status)
    : Untouched status? queued delivery.id world (handler call world).2 := by
  refine ⟨?_, store.unqueued call world sparing.1⟩
  cases call with
  | save saved events =>
      rcases store.saved saved events world delivery.id with same | ⟨named, written⟩
      · exact same
      · rw [written, stored, sparing.2 saved rfl named.symm]
  | _ => exact store.kept _ world delivery.id rfl

/-- So is what any of the calls starts with. -/
theorem lookup_awaits (config : ServiceConfig) (deliveryId : String) (call : RetryServiceCall)
    : (call.lookup config deliveryId).Awaits (fun call : ServiceCall => call.isLookup = true) := by
  cases call with
  | scheduleRetry retryCountOrStrategy maxRetriesOrStrategy =>
      exact (loadDelivery_awaits config deliveryId).bind (fun _ => trivial)
  | handleFailure error verdict =>
      exact (loadDelivery_awaits config deliveryId).bind (fun _ => trivial)
  | schedulerScheduleRetry configuredMaxRetries retryCount delayMs =>
      exact (awaits_lookup rfl).bind (fun _ => trivial)
  | schedulerCancelRetry => exact (awaits_lookup rfl).bind (fun _ => trivial)

/-- A run of lookups changes nothing. -/
theorem StatusStore.lookups (store : StatusStore handler status? queued) {α : Type}
    {program : ServiceProgram α}
    (lookups : program.Awaits (fun call : ServiceCall => call.isLookup = true)) (id : String) (world : σ)
    : Untouched status? queued id world (program.run handler world).2 := by
  let unchanged (after : σ) : Prop := Untouched status? queued id world after
  have step
      : ∀ (call : ServiceCall) before,
          call.isLookup = true → unchanged before → unchanged (handler call before).2 := by
    rintro call before lookup ⟨status, queue⟩
    obtain ⟨unsaved, unqueued, _⟩ := ServiceCall.isLookup_quiet lookup
    exact ⟨(store.kept call before id unsaved).trans status,
      (store.unqueued call before unqueued).trans queue⟩
  exact lookups.run step ⟨rfl, rfl⟩

/-- A program whose result shows under `some` has settled with it. -/
theorem run_of_map {program : ServiceProgram Delivery} {world after : σ}
    (found : (some <$> program).run handler world = (.ok (some delivery), after))
    : program.run handler world = (.ok delivery, after) := by
  simp only [Program.map_eq, Program.run_bind] at found
  rcases settled : program.run handler world with ⟨error | value, final⟩
  · rw [settled] at found
    exact nomatch found
  · rw [settled] at found
    simpa using found

/-- A service that has loaded a delivery proceeds with it, but for a scheduler that throws
before it looks.
-/
theorem run_body {config : ServiceConfig} {call : RetryServiceCall} {deliveryId : String}
    {world after : σ}
    (found : (call.lookup config deliveryId).run handler world = (.ok (some delivery), after))
    : (call.body config deliveryId).run handler world
        = (call.proceed config deliveryId delivery).run handler after
      ∨ call.spares config.language delivery = true
        ∧ ((call.body config deliveryId).run handler world).2 = world := by
  cases call with
  | scheduleRetry retryCountOrStrategy maxRetriesOrStrategy =>
      left
      have loaded := run_of_map found
      simp only [RetryServiceCall.body, ScheduleRetryService.scheduleRetry, Program.bind_eq,
        Program.run_bind, loaded]
      rfl
  | handleFailure error verdict =>
      left
      have loaded := run_of_map found
      simp only [RetryServiceCall.body, HandleFailureService.handleFailure, Program.bind_eq,
        Program.run_bind, loaded]
      rfl
  | schedulerScheduleRetry configuredMaxRetries retryCount delayMs =>
      simp only [RetryServiceCall.body, RetryScheduler.scheduleRetry]
      split
      · exact .inr ⟨rfl, rfl⟩
      · left
        simp only [RetryServiceCall.lookup] at found
        simp only [Program.bind_eq, Program.run_bind, found]
        rfl
  | schedulerCancelRetry =>
      left
      simp only [RetryServiceCall.lookup] at found
      simp only [RetryServiceCall.body, RetryScheduler.cancelRetry, Program.bind_eq,
        Program.run_bind, found]
      rfl

/-- A store shows the status of the last saved delivery. -/
def ShowsLast (status? : σ → String → Option DeliveryStatus) (last : Option Delivery)
    (world : σ)
    : Prop :=
  ∀ saved ∈ last, status? world saved.id = some saved.status

/-- Over such a store, collaborators that resolve honour the contract of what is saved. -/
theorem StatusStore.honours_saving (store : StatusStore handler status? queued)
    (resolves : ∀ call world, Resolved call (handler call world).1)
    : handler.Honours (saving .quiet) (ShowsLast status?) := by
  intro last world call shown _
  have answers : Answers (Faults.quiet.of call) call (handler call world).1 := by
    rw [Faults.quiet_of]
    exact resolves call world
  refine ⟨_, ⟨answers, rfl⟩, ?_⟩
  cases call with
  | save delivery events =>
      obtain ⟨value, resolved⟩ := resolves (.save delivery events) world
      intro saved member
      obtain rfl : delivery = saved := Option.some.inj member
      exact store.resolved delivery events world resolved
  | _ =>
      intro saved member
      rw [store.kept _ world saved.id rfl]
      exact shown saved member

/-- A call of a service on a finished delivery leaves its stored status and the queue alone
under its condition; with collaborators that resolve it does so under no other.
-/
theorem services_spare_finished (store : StatusStore handler status? queued)
    (config : ServiceConfig) (call : RetryServiceCall) {deliveryId : String} {world after : σ}
    (found : (call.lookup config deliveryId).run handler world = (.ok (some delivery), after))
    (stored : status? world delivery.id = some delivery.status)
    (finished : delivery.status.isFinal = true)
    : (call.spares config.language delivery = true
        → Untouched status? queued delivery.id world
            ((call.body config deliveryId).run handler world).2)
      ∧ ((∀ call world, Resolved call (handler call world).1)
        → Untouched status? queued delivery.id world
            ((call.body config deliveryId).run handler world).2
        → call.spares config.language delivery = true) := by
  have looked := store.lookups (lookup_awaits config deliveryId call) delivery.id world
  rw [found] at looked
  have storedAfter : status? after delivery.id = some delivery.status := looked.1.trans stored
  rcases run_body found with proceeded | ⟨spared, unchanged⟩
  case inr =>
    rw [unchanged]
    exact ⟨fun _ => ⟨rfl, rfl⟩, fun _ _ => spared⟩
  rw [proceeded]
  constructor
  · intro spared
    let spare (world : σ) : Prop :=
      status? world delivery.id = some delivery.status ∧ queued world = queued after
    have step
        : ∀ call world,
            SparingCall delivery call → spare world → spare (handler call world).2 := by
      rintro call world sparing ⟨status, queue⟩
      obtain ⟨sameStatus, sameQueue⟩ := store.sparing sparing status
      exact ⟨sameStatus.trans status, sameQueue.trans queue⟩
    obtain ⟨status, queue⟩ := (proceed_sparing finished spared).run step ⟨storedAfter, rfl⟩
    exact ⟨status.trans stored.symm, queue.trans looked.2⟩
  · intro resolves untouched
    by_contra unspared
    have spared : call.spares config.language delivery = false := eq_false_of_ne_true unspared
    have start : ShowsLast status? none after := fun saved member => nomatch member
    obtain ⟨_, ⟨saved, rfl, named, moved⟩, written⟩ :=
      (@proceed_reopens config deliveryId delivery call finished spared).run
        (store.honours_saving resolves) start
    have status : status? world delivery.id = some saved.status := by
      rw [← untouched.1, ← named]
      exact written saved rfl
    rw [stored] at status
    exact moved (Option.some.inj status).symm

end

/-- The services as the repository's own modules wire them, over Prisma. -/
def prismaConfig : ServiceConfig where
  language := {
    toNumber := fun _ => .nan
    toDate := fun _ => none
    toText := fun _ => ""
  }
  findById := false
  findByTaskResultId := true
  queue := .enqueueDelivery
  attemptRepository := false
  eventPublisher := false
  destinationRepository := false
  resultRepository := false
  httpClient := false

/-- A deployment without faults whose clock stands still. -/
def quietEnvironment : ServiceEnvironment where
  runtime _ := ⟨0, 0, fun _ => 0⟩
  fault _ _ := none
  queueFault _ _ := none
  answer _ _ := .error (newError "not deployed")

/-- A database that holds one delivery. -/
def storing (status : DeliveryStatus) : ServiceWorld where
  database := {
    deliveries := [{
      id := "delivery"
      taskResultId := "delivery"
      destinationId := "destination"
      status := status
      retryCount := 0
      nextRetryAt := none
      lastAttemptAt := none
      lastError := none
      createdAt := 0
      updatedAt := 0
    }]
    attempts := []
    queue := []
    history := []
  }
  jobs := []

/-- The entity of that delivery. -/
def storedDelivery (status : DeliveryStatus) : Delivery where
  id := "delivery"
  taskResultId := "delivery"
  destinationId := "destination"
  status := status
  retryCount := 0
  nextRetryAt := none
  lastAttemptAt := none
  lastError := none
  completedAt := none
  createdAt := some 0
  updatedAt := some 0
  attempts := []
  idNonempty := delivery_named
  taskResultIdNonempty := delivery_named
  destinationIdNonempty := destination_named

theorem cancelRetry_spares_completed
    : Untouched ServiceWorld.status? (fun world => world.jobs.length) "delivery"
        (storing .completed)
        ((RetryServiceCall.schedulerCancelRetry.body prismaConfig "delivery").run
          (deployment quietEnvironment) (storing .completed)).2 := by
  have found
      : (RetryServiceCall.schedulerCancelRetry.lookup prismaConfig "delivery").run
          (deployment quietEnvironment) (storing .completed)
        = (.ok (some (storedDelivery .completed)), storing .completed) :=
    rfl
  exact (services_spare_finished (deployment_statusStore quietEnvironment) prismaConfig
    .schedulerCancelRetry found rfl rfl).1 rfl

/-- `ScheduleRetryService` reopens a COMPLETED delivery and puts a job for it in the queue. -/
theorem scheduleRetry_reopens_stored
    : (storing .completed).status? "delivery" = some .completed
      ∧ ((ScheduleRetryService.scheduleRetry prismaConfig "delivery" .absent .absent).run
          (deployment quietEnvironment) (storing .completed)).2.status? "delivery"
        = some .scheduledRetry
      ∧ ((ScheduleRetryService.scheduleRetry prismaConfig "delivery" .absent .absent).run
          (deployment quietEnvironment) (storing .completed)).2.jobs.length
        = 1 := by
  decide +kernel

end QueueForge.Application
