import QueueForge.Worker.DeadLetters
import QueueForge.Worker.Redelivery

/-! Retries of the wired worker. No part of it compares the number of retries with a maximum:
a delivery whose transmissions keep failing is scheduled again by every run.
-/

namespace QueueForge.Worker

open QueueForge.Async QueueForge.Js QueueForge.Domain QueueForge.Infrastructure

/-- A transmission that fails in a way the classifier retries. Reading an absent response
throws a `TypeError`, which it retries too.
-/
def FailsRetryably : (call : ExternalCall) → Settled Thrown call.Result → Prop
  | .execute _ _, .ok (some res) =>
      res.success = false
      ∧ (ErrorClassifier.classify (DeliveryExecutor.responseError res)
        res.statusCode).retryable = true
  | .execute _ _, .error err =>
      err ≠ .nullish ∧ (ErrorClassifier.classify err).retryable = true
  | _, _ => True

/-- Answers of the other collaborators that let a run reach its connector. -/
def LetsThrough : (call : ExternalCall) → Settled Thrown call.Result → Prop
  | .findDestination _, result => ∃ destination, result = .ok destination
  | .findResult _, result => ∃ payload, result = .ok payload
  | .getBreaker _, result => ∃ breaker, result = .ok breaker
  | .isOpen _, result => result = .ok false
  | .recordFailure _, result => result = .ok ()
  | .acquire _, result => ∃ ticket, result = .ok ticket
  | .createConnector _, result => result = .ok true
  | _, _ => True

/-- A move of a delivery the store writes, as far as failing runs make it. -/
def Reaches (found target : DeliveryStatus) (result : Settled Thrown Unit)
    (after : DeliveryStatus)
    : Prop :=
  admitsTransition found target = true → result = .ok () ∧ after = target

/-- The contract of a run all of whose transmissions fail in a retryable way, and that is
let through to its connector. The phase is the stored status.
-/
def failingContract (id : String) : Contract WorkerSignature Thrown DeliveryStatus where
  allows _ call := ∀ other ∈ call.about, other = id
  answers found call result after :=
    match call with
    | .now => (∃ time, result = .ok time) ∧ after = found
    | .findDelivery _ =>
        (∃ delivery, result = .ok (some delivery) ∧ delivery.id = id) ∧ after = found
    | .external call => (FailsRetryably call result ∧ LetsThrough call result) ∧ after = found
    | .attemptFailure _ _ _ _ => result = .ok () ∧ after = found
    | .markProcessing _ => Reaches found .processing result after
    | .scheduleRetry _ _ _ => Reaches found .scheduledRetry result after
    | _ => True

section
variable {id : String}

namespace DeliveryExecutor

variable (config : ExecutorConfig) (start : Int) (breaker : Bool)

/-- Reading the clock and reporting a failure succeed and move nothing. -/
theorem elapsed_failing (found : DeliveryStatus)
    : (elapsed start).Meets (failingContract id) found
        (fun outcome after => (∃ latencyMs, outcome = .ok latencyMs) ∧ after = found) := by
  simp only [elapsed, Program.bind_eq, Program.meets_bind, meets_await]
  refine ⟨nofun, ?_⟩
  intro result after answered
  obtain ⟨⟨time, rfl⟩, rfl⟩ := answered
  exact ⟨⟨_, rfl⟩, rfl⟩

theorem reportFailure_failing (found : DeliveryStatus) (error : Thrown)
    : (reportFailure breaker error).Meets (failingContract id) found
        (fun outcome after => outcome = .ok () ∧ after = found) := by
  cases breaker with
  | false => exact ⟨rfl, rfl⟩
  | true =>
      simp only [reportFailure, if_true, meets_awaitExternal]
      refine ⟨(by rintro _ ⟨⟩), ?_⟩
      intro result after answered
      exact ⟨answered.1.2, answered.2⟩

/-- A retryable failure of a claimed delivery is scheduled again. -/
theorem settleFailure_failing (error : Thrown)
    : (settleFailure id error true).Meets (failingContract id) .processing
        (fun outcome after => outcome = .ok () ∧ after = .scheduledRetry) := by
  simp only [settleFailure, if_true, meets_await]
  refine ⟨fun other named => (Option.some.inj named).symm, ?_⟩
  intro result after answered
  exact answered rfl

/-- A run that has returned with a retry scheduled. -/
def Rescheduled (outcome : Settled Thrown ExecutionResult) (after : DeliveryStatus) : Prop :=
  (∃ result, outcome = .ok result) ∧ after = .scheduledRetry

/-- The `catch` block schedules a retry of a retryable error. -/
theorem onError_failing {err : Thrown} (given : err ≠ .nullish)
    (retryable : (ErrorClassifier.classify err).retryable = true)
    : (onError start id breaker err).Meets (failingContract id) .processing Rescheduled := by
  simp only [onError, Program.bind_eq, Program.meets_bind, given, if_false, retryable]
  refine (elapsed_failing start .processing).mono ?_
  intro read after kept
  obtain ⟨⟨latencyMs, rfl⟩, rfl⟩ := kept
  refine (reportFailure_failing breaker .processing err).mono ?_
  intro reported after kept
  obtain ⟨rfl, rfl⟩ := kept
  rw [meets_await]
  refine ⟨nofun, ?_⟩
  intro recorded after kept
  obtain ⟨rfl, rfl⟩ := kept
  refine (settleFailure_failing err).mono ?_
  intro settled after kept
  obtain ⟨rfl, rfl⟩ := kept
  exact ⟨⟨_, rfl⟩, rfl⟩

/-- So does the bookkeeping of a response that may be retried. -/
theorem onFailure_failing (latencyMs : Int) {res : Response}
    (retryable
      : (ErrorClassifier.classify (responseError res) res.statusCode).retryable = true)
    : (onFailure id breaker latencyMs res).Meets (failingContract id) .processing
        Rescheduled := by
  simp only [onFailure, Program.bind_eq, Program.meets_bind, retryable]
  refine (reportFailure_failing breaker .processing _).mono ?_
  intro reported after kept
  obtain ⟨rfl, rfl⟩ := kept
  rw [meets_await]
  refine ⟨nofun, ?_⟩
  intro recorded after kept
  obtain ⟨rfl, rfl⟩ := kept
  refine (settleFailure_failing _).mono ?_
  intro settled after kept
  obtain ⟨rfl, rfl⟩ := kept
  exact ⟨⟨_, rfl⟩, rfl⟩

/-- Reading the success of an absent response is of an unknown category, so it is retried.
-/
theorem absentResponse_retryable
    : (ErrorClassifier.classify
        (newTypeError "Cannot read properties of undefined (reading 'success')")).retryable
      = true := by
  decide +kernel

/-- What the body of the `try` block owes: a returned failure is scheduled again, and a
thrown one may be retried.
-/
def Retryable (outcome : Settled Thrown ExecutionResult) (after : DeliveryStatus) : Prop :=
  match outcome with
  | .ok _ => after = .scheduledRetry
  | .error err =>
      after = .processing
      ∧ err ≠ .nullish
      ∧ (ErrorClassifier.classify err).retryable = true

/-- The payload is loaded. -/
theorem loadPayload_failing (found : DeliveryStatus) (delivery : LoadedDelivery)
    : (loadPayload config delivery).Meets (failingContract id) found
        (fun outcome after => (∃ payload, outcome = .ok payload) ∧ after = found) := by
  unfold loadPayload
  split
  · rw [Program.bind_eq, Program.meets_bind, meets_awaitExternal]
    refine ⟨nofun, ?_⟩
    intro result after answered
    obtain ⟨⟨_, payload, rfl⟩, rfl⟩ := answered
    exact ⟨⟨_, rfl⟩, rfl⟩
  · exact ⟨⟨_, rfl⟩, rfl⟩

/-- The body of the `try` block transmits and fails in a retryable way. -/
theorem deliver_failing (delivery : LoadedDelivery)
    (destination : Option Infrastructure.Destination)
    : (deliver config start id delivery destination breaker).Meets (failingContract id)
        .processing Retryable := by
  simp only [deliver, Program.bind_eq, Program.meets_bind, meets_awaitExternal]
  refine ⟨(by rintro _ ⟨⟩), ?_⟩
  intro made after answered
  obtain ⟨⟨_, rfl⟩, rfl⟩ := answered
  refine (loadPayload_failing config .processing delivery).mono ?_
  intro loaded after kept
  obtain ⟨⟨payload, rfl⟩, rfl⟩ := kept
  simp only [transmit, if_true, meets_awaitExternal]
  refine ⟨(by rintro _ ⟨⟩), ?_⟩
  intro transmitted after answered
  obtain ⟨⟨failed, _⟩, rfl⟩ := answered
  rcases transmitted with err | res
  · exact ⟨rfl, failed⟩
  · refine (elapsed_failing start .processing).mono ?_
    intro read after kept
    obtain ⟨⟨latencyMs, rfl⟩, rfl⟩ := kept
    rcases res with _ | res
    · -- the absent response throws when its success is read
      exact ⟨rfl, (fun nullish => by cases nullish), absentResponse_retryable⟩
    · obtain ⟨unsuccessful, retryable⟩ := failed
      simp only [Program.meets_ite, unsuccessful]
      refine ⟨(by rintro ⟨⟩), fun _ => ?_⟩
      refine (onFailure_failing breaker latencyMs retryable).mono ?_
      intro settled after rescheduled
      obtain ⟨⟨result, rfl⟩, rfl⟩ := rescheduled
      rfl

/-- Giving the ticket back succeeds and moves nothing. -/
theorem releaseTicket_failing (found : DeliveryStatus) (poolName : String)
    (ticketId : Option String)
    : (releaseTicket config poolName ticketId).Meets (failingContract id) found
        (fun outcome after => outcome = .ok () ∧ after = found) := by
  unfold releaseTicket
  split
  · split
    · rw [Program.tryCatch_eq, Program.meets_catchError, meets_awaitExternal]
      refine ⟨nofun, ?_⟩
      intro result after answered
      cases result with
      | ok value => exact ⟨rfl, answered.2⟩
      | error error => exact ⟨rfl, answered.2⟩
    · exact ⟨rfl, rfl⟩
  · exact ⟨rfl, rfl⟩

/-- The protected execution returns with a retry scheduled. -/
theorem protect_failing (delivery : LoadedDelivery)
    (destination : Option Infrastructure.Destination)
    : (protect config start id delivery destination breaker).Meets (failingContract id)
        .processing Rescheduled := by
  have attempted
      : ∀ ticketId,
          ((tryCatch (deliver config start id delivery destination breaker)
              (onError start id breaker)).finallyRun
            (releaseTicket config (toLowerCase (destinationType destination))
              ticketId)).Meets (failingContract id) .processing Rescheduled := by
    intro ticketId
    refine Program.Meets.finallyRun ?_
      (fun found => releaseTicket_failing config found _ ticketId)
    rw [Program.tryCatch_eq, Program.meets_catchError]
    refine (deliver_failing config start breaker delivery destination).mono ?_
    intro outcome after retryable
    rcases outcome with err | result
    · obtain ⟨rfl, given, retried⟩ := retryable
      exact onError_failing start breaker given retried
    · exact ⟨⟨result, rfl⟩, retryable⟩
  simp only [protect, Program.bind_eq, Program.pure_eq, Program.meets_bind, Program.meets_ite,
    Program.meets_settle, Program.meets_done, meets_awaitExternal]
  constructor
  · intro _
    refine ⟨(by rintro _ ⟨⟩), ?_⟩
    intro acquired after answered
    obtain ⟨⟨_, ticketId, rfl⟩, rfl⟩ := answered
    exact attempted ticketId
  · intro _
    exact attempted none

/-- A closed breaker lets the run through. -/
theorem guardedDelivery_failing (destId : String) (delivery : LoadedDelivery)
    (destination : Option Infrastructure.Destination)
    : (guardedDelivery config start id destId delivery destination).Meets
        (failingContract id) .processing Rescheduled := by
  simp only [guardedDelivery, Program.bind_eq, Program.meets_bind, Program.meets_ite,
    meets_awaitExternal]
  constructor
  · intro _
    refine ⟨(by rintro _ ⟨⟩), ?_⟩
    intro got after answered
    obtain ⟨⟨_, breaker, rfl⟩, rfl⟩ := answered
    refine ⟨(by rintro _ ⟨⟩), ?_⟩
    intro told after answered
    obtain ⟨⟨_, rfl⟩, rfl⟩ := answered
    refine ⟨(by rintro ⟨⟩), fun _ => ?_⟩
    exact protect_failing config start breaker delivery destination
  · intro _
    exact protect_failing config start false delivery destination

/-- A loadable argument is loaded. -/
theorem loadDelivery_failing {deliveryOrId : DeliveryArgument}
    (named : argumentId deliveryOrId = id) (loadable : Loadable config deliveryOrId)
    (found : DeliveryStatus)
    : (loadDelivery config deliveryOrId).Meets (failingContract id) found
        (fun outcome after =>
          (∃ delivery, outcome = .ok (some delivery) ∧ identifier deliveryOrId delivery = id)
          ∧ after = found) := by
  cases deliveryOrId with
  | entity delivery => exact ⟨⟨delivery, rfl, named⟩, rfl⟩
  | id deliveryId =>
      obtain rfl : deliveryId = id := named
      have configured : config.deliveries = true := loadable
      simp only [loadDelivery, configured, if_true, meets_await]
      refine ⟨fun other same => (Option.some.inj same).symm, ?_⟩
      intro result after answered
      obtain ⟨⟨delivery, rfl, same⟩, rfl⟩ := answered
      exact ⟨⟨delivery, rfl, identifier_found same⟩, rfl⟩

theorem loadDestination_failing (destinationArg : Option Infrastructure.Destination)
    (destId : String)
    (found : DeliveryStatus)
    : (loadDestination config destinationArg destId).Meets (failingContract id) found
        (fun outcome after => (∃ destination, outcome = .ok destination) ∧ after = found) := by
  cases destinationArg with
  | some destination => exact ⟨⟨_, rfl⟩, rfl⟩
  | none =>
      simp only [loadDestination, Program.meets_ite, meets_awaitExternal]
      constructor
      · intro _
        refine ⟨(by rintro _ ⟨⟩), ?_⟩
        intro result after answered
        obtain ⟨⟨_, destination, rfl⟩, rfl⟩ := answered
        exact ⟨⟨destination, rfl⟩, rfl⟩
      · intro _
        exact ⟨⟨none, rfl⟩, rfl⟩

/-- A whole run on a startable delivery returns with a retry scheduled. -/
theorem executeWithResilience_failing {deliveryOrId : DeliveryArgument}
    (named : argumentId deliveryOrId = id) (loadable : Loadable config deliveryOrId)
    (destinationArg : Option Infrastructure.Destination) {found : DeliveryStatus}
    (startable : admitsTransition found .processing = true)
    : (executeWithResilience config deliveryOrId destinationArg).Meets (failingContract id)
        found Rescheduled := by
  simp only [executeWithResilience, Program.bind_eq, Program.meets_bind, meets_await]
  refine ⟨nofun, ?_⟩
  intro started after answered
  obtain ⟨⟨start, rfl⟩, rfl⟩ := answered
  refine (loadDelivery_failing config named loadable after).mono ?_
  intro loaded after' found
  obtain ⟨⟨delivery, rfl, identified⟩, rfl⟩ := found
  simp only [Program.meets_bind, identified]
  refine (loadDestination_failing config destinationArg _ after').mono ?_
  intro looked after found
  obtain ⟨⟨destination, rfl⟩, rfl⟩ := found
  simp only [claim, Program.tryCatch_eq, Program.meets_catchError, meets_await]
  refine ⟨fun other same => (Option.some.inj same).symm, ?_⟩
  intro claimed after' answered
  obtain ⟨rfl, rfl⟩ := answered startable
  exact guardedDelivery_failing config start _ delivery destination

end DeliveryExecutor

end

/-- Collaborators that let every run through, to a connector that fails in a retryable way.
-/
def KeepsFailing (env : Environment) : Prop :=
  ∀ process world call,
    FailsRetryably call (env.answer process world call)
    ∧ LetsThrough call (env.answer process world call)

/-- What lets a run through does not stop it. -/
theorem letsThrough_runs {call : ExternalCall} {result : Settled Thrown call.Result}
    (through : LetsThrough call result)
    : stops (.external call) result = false := by
  cases call with
  | findDestination destId =>
      obtain ⟨destination, rfl⟩ := through
      rfl
  | findResult resultId =>
      obtain ⟨payload, rfl⟩ := through
      rfl
  | getBreaker destId =>
      obtain ⟨breaker, rfl⟩ := through
      rfl
  | isOpen destId =>
      obtain rfl : result = .ok false := through
      rfl
  | acquire pool =>
      obtain ⟨ticket, rfl⟩ := through
      rfl
  | createConnector destination =>
      obtain rfl : result = .ok true := through
      rfl
  | recordSuccess => rfl
  | recordFailure error => rfl
  | release pool ticket => rfl
  | execute payload timeoutMs => rfl

/-- A stored move reaches its target if the store writes it. -/
theorem MovesStored.reaches {σ : Type} {S : Signature} {lower : Handler S Thrown σ}
    {status : σ → String → Option DeliveryStatus} {id : String} {target : DeliveryStatus}
    {program : Program S Thrown Unit}
    (moves : MovesStored lower status storesTarget id target program)
    (written : storesTarget target = true) {world : σ} {found : DeliveryStatus}
    (stored : status world id = some found)
    : ∃ next,
        Reaches found target (program.run lower world).1 next
        ∧ status (program.run lower world).2 id = some next := by
  obtain ⟨next, moved, kept⟩ := moves world found stored
  refine ⟨next.status, ?_, kept⟩
  intro admitted
  rw [Moved, if_pos admitted, if_pos written] at moved
  obtain ⟨returned, rfl⟩ := moved
  exact ⟨returned, rfl⟩

/-- The wired parts hand an external call on. -/
theorem workerParts_external_answers (env : Environment) (process : Nat)
    (production logger : Bool) (call : ExternalCall) (world : World)
    : (((workerParts production logger).external call).run (system env process) world).1
      = env.answer process world call := by
  have performed
      : (workerParts production logger).external call
        = Program.perform (S := SystemSignature) (.external call) :=
    rfl
  rw [performed, Program.run_perform]
  rfl

/-- Recording a failure returns, whatever becomes of the record. -/
theorem workerParts_attemptFailure_returns (env : Environment) (process : Nat)
    (production logger : Bool) (deliveryId : String) (latencyMs : Int)
    (statusCode : Option Int) (error : Thrown) (world : World)
    : (((workerParts production logger).attemptFailure deliveryId latencyMs statusCode error).run
        (system env process) world).1
      = .ok () := by
  obtain ⟨recorded, returned⟩ :=
    run_record_returns production env process logger deliveryId {
      latencyMs := latencyMs
      statusCode := statusCode
      error := error
      response := .undefined
    } world
  have records
      : (workerParts production logger).attemptFailure deliveryId latencyMs statusCode error
        = ((workerAttemptRecorder production logger).record deliveryId {
            latencyMs := latencyMs
            statusCode := statusCode
            error := error
            response := .undefined
          }).bind (fun _ => .done ()) :=
    rfl
  rw [records, Program.run_bind]
  generalize ((workerAttemptRecorder production logger).record deliveryId _).run
    (system env process) world = outcome at returned ⊢
  obtain ⟨settled, after⟩ := outcome
  obtain rfl : settled = .ok recorded := returned
  rfl

/-- The wired parts honour the contract of failing runs. -/
theorem workerParts_honours_failing {env : Environment} (faultless : env.Faultless)
    (failing : KeepsFailing env) (process : Nat) (production logger : Bool) (id : String)
    : (Program.implementing (S := WorkerSignature) (workerParts production logger).methods
        (system env process)).logged.Honours (failingContract id)
        (fun found world => world.1.status? id = some found ∧ stopped world.2 = false) := by
  intro found world call related allowed
  obtain ⟨stored, runs⟩ := related
  have parts := workerParts_runParts faultless process production logger
  have here : ∀ {other}, call.about = some other → other = id :=
    fun about => allowed _ about
  cases call with
  | now =>
      exact ⟨found, ⟨⟨env.clock world.1, rfl⟩, rfl⟩, (parts.clock world.1 id).trans stored, runs⟩
  | findDelivery deliveryId =>
      obtain rfl := here rfl
      obtain ⟨delivery, after, ran, named, kept⟩ := parts.finds world.1 deliveryId found stored
      have returned := congrArg Prod.fst ran
      have left := congrArg Prod.snd ran
      refine ⟨found, ⟨⟨delivery, returned, named⟩, rfl⟩, ?_, ?_⟩
      · exact (congrArg (World.status? · deliveryId) left).trans
          ((kept deliveryId).trans stored)
      · have looked
            : stops (.findDelivery deliveryId)
                (((workerParts production logger).findDelivery deliveryId).run
                  (system env process) world.1).1 = false :=
          (congrArg (stops (.findDelivery deliveryId)) returned).trans rfl
        exact (congrArg (· || stopped world.2) looked).trans runs
  | external call =>
      obtain ⟨fails, through⟩ := failing process world.1 call
      have answered := workerParts_external_answers env process production logger call world.1
      refine ⟨found, ⟨⟨?_, ?_⟩, rfl⟩, (parts.external call world.1 id).trans stored, ?_⟩
      · exact answered ▸ fails
      · exact answered ▸ through
      · have unstopped
            : stops (.external call)
                (((workerParts production logger).external call).run (system env process)
                  world.1).1 = false :=
          letsThrough_runs (answered ▸ through)
        exact (congrArg (· || stopped world.2) unstopped).trans runs
  | markProcessing deliveryId =>
      obtain rfl := here rfl
      obtain ⟨next, reached, kept⟩ := (parts.markProcessing deliveryId).reaches rfl stored
      exact ⟨next, reached, kept, runs⟩
  | markCompleted deliveryId latencyMs =>
      obtain rfl := here rfl
      obtain ⟨next, _, kept⟩ := parts.markCompleted deliveryId latencyMs world.1 found stored
      exact ⟨next.status, trivial, kept, runs⟩
  | scheduleRetry deliveryId delayMs error =>
      obtain rfl := here rfl
      obtain ⟨next, reached, kept⟩ :=
        (parts.scheduleRetry deliveryId delayMs error).reaches rfl stored
      exact ⟨next, reached, kept, runs⟩
  | moveToDeadLetterQueue deliveryId reason =>
      obtain rfl := here rfl
      obtain ⟨next, _, kept⟩ := parts.moveToDeadLetterQueue deliveryId reason world.1 found stored
      exact ⟨next.status, trivial, kept, runs⟩
  | attemptSuccess deliveryId latencyMs response =>
      exact ⟨found, trivial, (parts.attemptSuccess _ _ _ world.1 id).trans stored, runs⟩
  | attemptFailure deliveryId latencyMs statusCode error =>
      exact ⟨
        found,
        ⟨
          workerParts_attemptFailure_returns env process production logger deliveryId latencyMs
            statusCode error world.1,
          rfl
        ⟩,
        (parts.attemptFailure _ _ _ _ world.1 id).trans stored,
        runs
      ⟩

/-- A run on a startable delivery, whose transmissions keep failing, transmits once and leaves
the delivery scheduled for the next.
-/
theorem perform_failing {system : WorkerSystem} (faultless : system.env.Faultless)
    (failing : KeepsFailing system.env) {id : String} {run : WorkerRun}
    (named : DeliveryExecutor.argumentId run.deliveryOrId = id)
    (loadable : DeliveryExecutor.Loadable run.config run.deliveryOrId) {world : World}
    {found : DeliveryStatus} (stored : world.status? id = some found)
    (startable : admitsTransition found .processing = true)
    : transmissions (system.trace run world) = 1
      ∧ (system.perform run world).2.status? id = some .scheduledRetry := by
  have begun : WiredRun.Follows id { status := found } (world, []) := ⟨stored, rfl, rfl⟩
  obtain ⟨after, decided, _, sent, stop⟩ :=
    (DeliveryExecutor.executeWithResilience_decides run.config named loadable
      run.destinationArg ⟨rfl, rfl⟩).trace
      (workerParts_honours system.env run.process system.production system.logger id) begun
  obtain ⟨left, rescheduled, kept, runs⟩ :=
    (DeliveryExecutor.executeWithResilience_failing run.config named loadable
      run.destinationArg startable).trace
      (workerParts_honours_failing faultless failing run.process system.production
        system.logger id) ⟨stored, rfl⟩
  constructor
  · rw [WiredRun.Decided, sent, stop, runs] at decided
    exact decided
  · rw [WorkerSystem.perform, WorkerParts.execute, Program.run_implement, ← rescheduled.2]
    exact kept

/-- How often some runs transmit, one after the other. -/
def totalTransmissions (system : WorkerSystem) : List WorkerRun → World → Nat
  | [], _ => 0
  | run :: rest, world =>
      transmissions (system.trace run world)
      + totalTransmissions system rest (system.perform run world).2

/-- Each of the runs transmits and schedules the next, by induction on the runs. -/
theorem performAll_failing {system : WorkerSystem} (faultless : system.env.Faultless)
    (failing : KeepsFailing system.env) {id : String} (runs : List WorkerRun)
    (named : ∀ run ∈ runs, DeliveryExecutor.argumentId run.deliveryOrId = id)
    (loadable : ∀ run ∈ runs, DeliveryExecutor.Loadable run.config run.deliveryOrId)
    {world : World} {found : DeliveryStatus} (stored : world.status? id = some found)
    (startable : admitsTransition found .processing = true)
    : totalTransmissions system runs world = runs.length
      ∧ (runs ≠ [] → (system.performAll runs world).status? id = some .scheduledRetry) := by
  induction runs generalizing world found with
  | nil => exact ⟨rfl, fun empty => absurd rfl empty⟩
  | cons run rest ih =>
      have here := List.mem_cons_self (a := run) (l := rest)
      obtain ⟨sent, scheduled⟩ :=
        perform_failing faultless failing (named run here) (loadable run here) stored startable
      obtain ⟨total, last⟩ :=
        ih (fun other member => named other (List.mem_cons_of_mem run member))
          (fun other member => loadable other (List.mem_cons_of_mem run member)) scheduled rfl
      constructor
      · rw [totalTransmissions, sent, total, List.length_cons, Nat.add_comm]
      · intro _
        cases rest with
        | nil => exact scheduled
        | cons next more => exact last (List.cons_ne_nil next more)

/-- However often a delivery is retried, it is never given up: no number of runs stores
FAILED_DLQ, and as long as the runs are let through to the failing connector each of them
transmits and schedules the next.
-/
theorem retries_never_exhausted (system : WorkerSystem) {id : String} (runs : List WorkerRun)
    (named : ∀ run ∈ runs, DeliveryExecutor.argumentId run.deliveryOrId = id) {world : World}
    {found : DeliveryStatus} (stored : world.status? id = some found)
    (startable : found = .pending ∨ found = .scheduledRetry)
    : (system.performAll runs world).status? id ≠ some .failedDlq
      ∧ (system.env.Faultless
        → KeepsFailing system.env
        → (∀ run ∈ runs, DeliveryExecutor.Loadable run.config run.deliveryOrId)
        → totalTransmissions system runs world = runs.length
          ∧ (runs ≠ [] → (system.performAll runs world).status? id = some .scheduledRetry))
    := by
  have unburied : found ≠ .failedDlq := by
    rcases startable with rfl | rfl
    · exact nofun
    · exact nofun
  have admitted : admitsTransition found .processing = true := by
    rcases startable with rfl | rfl
    · rfl
    · rfl
  constructor
  · obtain ⟨left, kept, alive⟩ :=
      performAll_follows system (· ≠ .failedDlq) storedAnswer_unburied runs named stored unburied
    rw [kept]
    intro buried
    exact alive (Option.some.inj buried)
  · intro faultless failing loadable
    exact performAll_failing faultless failing runs named loadable stored admitted

/-- A job for the delivery of an executor without a breaker. -/
def WorkerRun.plain : WorkerRun where
  process := 0
  config := .bare
  deliveryOrId := .id "delivery"
  destinationArg := none

/-- A connector that is answered with 503 keeps failing in a retryable way. -/
theorem keepsFailing_unavailable : KeepsFailing (.answering (failingAnswers 503)) := by
  intro process world call
  cases call with
  | execute payload timeoutMs => exact ⟨⟨rfl, rfl⟩, trivial⟩
  | findDestination destId => exact ⟨trivial, none, rfl⟩
  | findResult resultId => exact ⟨trivial, none, rfl⟩
  | getBreaker destId => exact ⟨trivial, true, rfl⟩
  | acquire pool => exact ⟨trivial, none, rfl⟩
  | isOpen destId => exact ⟨trivial, rfl⟩
  | recordFailure error => exact ⟨trivial, rfl⟩
  | createConnector destination => exact ⟨trivial, rfl⟩
  | recordSuccess => exact ⟨trivial, trivial⟩
  | release pool ticket => exact ⟨trivial, trivial⟩

/-- Ten runs against it make ten transmissions, and no dead letter. -/
theorem retries_never_exhausted_unavailable
    : ((WorkerSystem.answering (failingAnswers 503)).performAll (List.replicate 10 .plain)
          (World.ofDelivery (.fresh .pending))).status? "delivery" ≠ some .failedDlq
      ∧ totalTransmissions (.answering (failingAnswers 503)) (List.replicate 10 .plain)
          (World.ofDelivery (.fresh .pending)) = 10 := by
  have plain : ∀ run ∈ List.replicate 10 WorkerRun.plain, run = .plain :=
    fun run member => List.eq_of_mem_replicate member
  refine And.imp_right ?_
    (retries_never_exhausted (.answering (failingAnswers 503)) (List.replicate 10 .plain)
      (fun run member => by rw [plain run member]; rfl) rfl (.inl rfl))
  intro counted
  exact (counted (Environment.answering_faultless (failingAnswers 503)) keepsFailing_unavailable
    (fun run member => by rw [plain run member]; rfl)).1

/-- A delivery answered with 503 is transmitted by its seventh run too, and still not given up.
-/
theorem seventh_run_transmits
    : totalTransmissions (.answering (failingAnswers 503)) (List.replicate 7 .plain)
          (World.ofDelivery (.fresh .pending)) = 7
      ∧ ((WorkerSystem.answering (failingAnswers 503)).performAll (List.replicate 7 .plain)
          (World.ofDelivery (.fresh .pending))).status? "delivery" = some .scheduledRetry :=
  ⟨rfl, rfl⟩

end QueueForge.Worker
