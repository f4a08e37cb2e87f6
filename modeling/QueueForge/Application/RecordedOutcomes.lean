import QueueForge.Application.AttemptBudget
import QueueForge.Infrastructure.AttemptLog
import QueueForge.Infrastructure.CircuitBreakerHttpClient

/-! What `ProcessDeliveryService` leaves stored when it transmits by `CircuitBreakerHttpClient`
and records the attempt in `AttemptRepository`, between marking the delivery PROCESSING and
saving the outcome.
-/

namespace QueueForge.Application

open QueueForge.Async QueueForge.Js QueueForge.Domain QueueForge.Infrastructure

/-- The parts of a run that lie outside the services: whether it is a production process, how
URLs are read, the destination argument and the answer of the breaker.
-/
structure Transmission where
  production : Bool
  host : Value → Option String
  destination : Option DeliveryTarget
  fired : Settled Thrown BreakerResponse

namespace Transmission

/-- The status code an exception carries, zero if it carries none. -/
def errorStatus (error : Thrown) : Int :=
  (orInt error.status error.statusCode).getD 0

/-- The breaker answers with a response from 100 to 499, or of status zero, which counts as 200;
or with an exception that carries a status code.
-/
def Recordable (transmission : Transmission) : Prop :=
  match transmission.fired with
  | .ok response => response.status = 0 ∨ 100 ≤ response.status ∧ response.status < 500
  | .error error => 100 ≤ errorStatus error ∧ errorStatus error ≤ 599

instance (transmission : Transmission) : Decidable transmission.Recordable :=
  match transmission with
  | ⟨_, _, _, .ok response⟩ =>
      inferInstanceAs
        (Decidable (response.status = 0 ∨ 100 ≤ response.status ∧ response.status < 500))
  | ⟨_, _, _, .error error⟩ =>
      inferInstanceAs (Decidable (100 ≤ errorStatus error ∧ errorStatus error ≤ 599))

/-- What the client settles with. -/
def answer (transmission : Transmission) (url payload : Value)
    (headers : List (String × String)) (timeoutMs : Value)
    : Settled Thrown (Option HttpResponse) :=
  (CircuitBreakerHttpClient.post transmission.host (fun _ => transmission.fired) url payload
    headers timeoutMs).map some

section
variable {σ : Type} (config : ServiceConfig) (tables : Handler SystemSignature Thrown σ)
  (handler : Handler ServiceSignature Thrown σ)

/-- The collaborators of a run: the client, the attempt log over its tables, and the rest. -/
def during (transmission : Transmission) : Handler ServiceSignature Thrown σ
  | .post url payload headers timeoutMs, world =>
      (transmission.answer url payload headers timeoutMs, world)
  | .recordAttempt deliveryId attemptNumber data, world =>
      (AttemptRepository.recordArguments transmission.production config.language deliveryId
        attemptNumber data).run tables world
  | op, world => handler op world

/-- Process a delivery. -/
def run (transmission : Transmission) (deliveryId : String) (world : σ)
    : Settled Thrown ProcessResult × σ :=
  (ProcessDeliveryService.processDelivery config deliveryId transmission.destination).run
    (transmission.during config tables handler) world

end

end Transmission

-----------------------------------------------------------------------------------------
-- Statuses a call may leave
-----------------------------------------------------------------------------------------

/-- The statuses a processed delivery may be left in. -/
def Concluded (status : DeliveryStatus) : Prop :=
  status = .completed ∨ status = .scheduledRetry ∨ status = .failedDlq

/-- A finished delivery is in one of them. -/
theorem concluded_of_final {status : DeliveryStatus} (finished : status.isFinal = true)
    : Concluded status := by
  cases status with
  | completed => exact .inl rfl
  | failedDlq => exact .inr (.inr rfl)
  | _ => exact nomatch finished

/-- So is a delivery that an outcome has been applied to. -/
theorem concluded_statusAfter (outcome : Outcome) (retryCount : Int)
    : Concluded (ProcessDeliveryService.statusAfter outcome retryCount) := by
  unfold ProcessDeliveryService.statusAfter
  split
  · exact .inl rfl
  · split
    · exact .inr (.inl rfl)
    · exact .inr (.inr rfl)

/-- One that is still PROCESSING is not. -/
theorem not_concluded_of_processing {status : DeliveryStatus} (processing : status = .processing)
    : ¬Concluded status := by
  rw [processing]
  rintro (completed | scheduled | deadLettered)
  · exact nomatch completed
  · exact nomatch scheduled
  · exact nomatch deadLettered

/-- The entity a store is known to show: the last one saved, unless an attempt under a number
has been recorded since.
-/
def shownAfter (shown : Option Delivery) (op : ServiceCall) (result : Settled Thrown op.Result)
    : Option Delivery :=
  match op, result with
  | .save delivery _, _ => some delivery
  | .recordAttempt _ (some _) _, .ok _ => none
  | _, _ => shown

namespace Transmission

-----------------------------------------------------------------------------------------
-- What the client makes of an answer
-----------------------------------------------------------------------------------------

section
variable {transmission : Transmission} {language : Language} {elapsed : Int}

/-- A response makes an outcome of whole numbers. -/
theorem received_whole (language : Language) (elapsed : Int) (response : BreakerResponse)
    : ∃ duration,
        (ProcessDeliveryService.received language (.ofInt elapsed) {
              status := some (.ofInt response.status)
              durationMs := some (.ofInt response.durationMs)
            }).responseStatus
          = .ofInt (if response.status = 0 then 200 else response.status)
        ∧ (ProcessDeliveryService.received language (.ofInt elapsed) {
              status := some (.ofInt response.status)
              durationMs := some (.ofInt response.durationMs)
            }).durationMs
          = .ofInt duration := by
  refine ⟨if response.durationMs = 0 then elapsed else response.durationMs, ?_, ?_⟩
  · by_cases zero : response.status = 0
    · simp [ProcessDeliveryService.received, zero, Number.truthy, Number.ofInt]
      rfl
    · simp [ProcessDeliveryService.received, zero, Number.truthy, Number.ofInt]
  · by_cases zero : response.durationMs = 0
    · simp [ProcessDeliveryService.received, zero, Number.truthy, Number.ofInt]
    · simp [ProcessDeliveryService.received, zero, Number.truthy, Number.ofInt]

/-- So does an exception, unless it is nullish and has no outcome. -/
theorem notReceived_whole (elapsed : Int) (error : Thrown)
    : (∃ outcome,
          ProcessDeliveryService.notReceived (.ofInt elapsed) error = .ok outcome
          ∧ outcome.responseStatus = .ofInt (errorStatus error)
          ∧ outcome.durationMs = .ofInt elapsed)
      ∨ (∃ thrown, ProcessDeliveryService.notReceived (.ofInt elapsed) error = .error thrown)
        ∧ errorStatus error = 0 := by
  cases error with
  | nullish => exact .inr ⟨⟨_, rfl⟩, rfl⟩
  | text value => exact .inl ⟨_, rfl, rfl, rfl⟩
  | error object => exact .inl ⟨_, rfl, rfl, rfl⟩

/-- An outcome is in the range of the attempt log exactly where the answer of the breaker is
recordable.
-/
theorem outcome_of_answer
    : (∃ outcome status duration,
          ProcessDeliveryService.outcome language (.ofInt elapsed)
              (transmission.answer .undefined .undefined [] .undefined)
            = .ok outcome
          ∧ outcome.responseStatus = .ofInt status
          ∧ outcome.durationMs = .ofInt duration
          ∧ (100 ≤ status ∧ status ≤ 599 ↔ transmission.Recordable))
      ∨ (∃ error,
          ProcessDeliveryService.outcome language (.ofInt elapsed)
              (transmission.answer .undefined .undefined [] .undefined)
            = .error error)
        ∧ ¬transmission.Recordable := by
  unfold answer Recordable
  cases fired : transmission.fired with
  | ok response =>
      left
      by_cases serverError : 500 ≤ response.status
      · -- the error thrown instead of the response carries no status
        have thrown
            : CircuitBreakerHttpClient.post transmission.host (fun _ => .ok response)
                .undefined .undefined [] .undefined
              = .error (newError s!"Server error response: {response.status}") :=
          if_pos serverError
        rw [thrown]
        refine ⟨_, 0, elapsed, rfl, rfl, rfl, ?_⟩
        dsimp only
        omega
      · have passed
            : CircuitBreakerHttpClient.post transmission.host (fun _ => .ok response)
                .undefined .undefined [] .undefined
              = .ok {
                  status := some (.ofInt response.status)
                  durationMs := some (.ofInt response.durationMs)
                } :=
          if_neg serverError
        obtain ⟨duration, status, time⟩ := received_whole language elapsed response
        rw [passed]
        refine ⟨_, _, duration, rfl, status, time, ?_⟩
        dsimp only
        split <;> omega
  | error error =>
      rcases notReceived_whole elapsed error with
        ⟨outcome, given, status, time⟩ | ⟨⟨thrown, given⟩, statusless⟩
      · exact .inl ⟨outcome, errorStatus error, elapsed, given, status, time, .rfl⟩
      · refine .inr ⟨⟨thrown, given⟩, ?_⟩
        dsimp only
        omega

end

-----------------------------------------------------------------------------------------
-- The steps of one call
-----------------------------------------------------------------------------------------

section
variable {σ : Type} {config : ServiceConfig} {tables : Handler SystemSignature Thrown σ}
  {handler : Handler ServiceSignature Thrown σ} {transmission : Transmission}
  {shown : Option Delivery} {deliveryId : String} {delivery : Delivery} {outcome : Outcome}
  {status duration : Int}

/-- The answers there are in a run. -/
def Admits (config : ServiceConfig) (tables : Handler SystemSignature Thrown σ)
    (handler : Handler ServiceSignature Thrown σ) (transmission : Transmission)
    (op : ServiceCall) (result : Settled Thrown op.Result)
    : Prop :=
  ∃ world, result = (transmission.during config tables handler op world).1

/-- An attempt of whole numbers reaches the repository as it is. -/
theorem recordArguments_whole (production : Bool) (language : Language) (attemptNumber : Int)
    (whole : outcome.responseStatus = .ofInt status ∧ outcome.durationMs = .ofInt duration)
    : AttemptRepository.recordArguments production language deliveryId (some attemptNumber)
        (ProcessDeliveryService.attemptData outcome .null)
      = AttemptRepository.recordAttempt production deliveryId attemptNumber (some status)
          duration (orString outcome.errorMessage none) := by
  unfold AttemptRepository.recordArguments ProcessDeliveryService.attemptData
  rw [whole.1, whole.2]
  cases orString outcome.errorMessage none with
  | none => rfl
  | some message => rfl

/-- An attempt in the range comes to be recorded. -/
theorem recordAttempt_records (working : AttemptRepository.WorkingTables tables)
    (whole : outcome.responseStatus = .ofInt status ∧ outcome.durationMs = .ofInt duration)
    (inRange : 100 ≤ status ∧ status ≤ 599)
    : (ProcessDeliveryService.recordAttempt config deliveryId delivery outcome).Meets
        (.observing (transmission.Admits config tables handler) shownAfter) shown
        (fun result _ => result = .ok ()) := by
  unfold ProcessDeliveryService.recordAttempt
  split
  · rw [Program.meets_catchError]
    refine Program.meets_perform_observing.mpr ⟨?_, fun _ _ => rfl⟩
    rintro error ⟨world, rejected⟩
    simp only [during, recordArguments_whole _ _ _ whole,
      AttemptRepository.run_recordAttempt _ working
        (AttemptRepository.statusAccepted inRange)] at rejected
    exact nomatch rejected
  · rfl

/-- Any other is rejected in both shapes, and the service throws. -/
theorem recordAttempt_throws (log : config.attemptRepository = true)
    (whole : outcome.responseStatus = .ofInt status ∧ outcome.durationMs = .ofInt duration)
    (outOfRange : ¬(100 ≤ status ∧ status ≤ 599))
    : (ProcessDeliveryService.recordAttempt config deliveryId delivery outcome).Meets
        (.observing (transmission.Admits config tables handler) shownAfter) shown
        (fun result after => (∃ error, result = .error error) ∧ after = shown) := by
  unfold ProcessDeliveryService.recordAttempt
  rw [if_pos log, Program.meets_catchError]
  refine Program.meets_perform_observing.mpr ⟨?_, ?_⟩
  · rintro error ⟨world, rejected⟩
    -- the shape with two arguments has no data
    refine Program.meets_perform_observing.mpr ⟨fun error _ => ⟨⟨error, rfl⟩, rfl⟩, ?_⟩
    rintro value ⟨world, resolved⟩
    exact nomatch resolved
  · rintro value ⟨world, resolved⟩
    simp only [during, recordArguments_whole _ _ _ whole,
      AttemptRepository.run_recordAttempt_rejected _
        (AttemptRepository.statusOutOfRange outOfRange)] at resolved
    exact nomatch resolved

/-- Once a transmission has settled, a delivery whose attempt is in the range is concluded; any
other is still shown as it was.
-/
theorem conclude_meets (resolves : ∀ op world, Resolved op (handler op world).1)
    (working : AttemptRepository.WorkingTables tables) (log : config.attemptRepository = true)
    (whole : outcome.responseStatus = .ofInt status ∧ outcome.durationMs = .ofInt duration)
    (processing : delivery.status = .processing)
    : (ProcessDeliveryService.conclude config deliveryId delivery outcome).Meets
        (.observing (transmission.Admits config tables handler) shownAfter) (some delivery)
        (fun _ after =>
          ∃ saved,
            after = some saved
            ∧ delivery.SameEntity saved
            ∧ (Concluded saved.status ↔ 100 ≤ status ∧ status ≤ 599)) := by
  unfold ProcessDeliveryService.conclude
  rw [Program.bind_eq, Program.meets_bind]
  by_cases inRange : 100 ≤ status ∧ status ≤ 599
  · refine (recordAttempt_records working whole inRange).mono ?_
    rintro _ recorded rfl
    refine ProcessDeliveryService.meets_after_resolving ?_ (fun runtime _ => ?_)
    · rintro _ ⟨world, rfl⟩
      exact resolves .runtime world
    obtain ⟨sameNoted, countNoted, statusNoted⟩ :=
      @ProcessDeliveryService.noteAttempt_keeps config.language runtime outcome delivery
    obtain ⟨saved, returned, same, count, status⟩ :=
      ProcessDeliveryService.updateState_returns runtime outcome (statusNoted.trans processing)
    rw [returned]
    refine ProcessDeliveryService.meets_after_resolving ?_ (fun _ _ => ?_)
    · rintro _ ⟨world, rfl⟩
      exact resolves (.save saved []) world
    refine ⟨saved, rfl, sameNoted.trans same, iff_of_true ?_ inRange⟩
    rw [status]
    exact concluded_statusAfter outcome _
  · refine (recordAttempt_throws log whole inRange).mono ?_
    rintro _ _ ⟨⟨error, rfl⟩, rfl⟩
    exact ⟨delivery, rfl, .refl delivery,
      iff_of_false (not_concluded_of_processing processing) inRange⟩

/-- The destination is given, or the repository finds it whenever it is asked. -/
def FindsDestination (config : ServiceConfig) (handler : Handler ServiceSignature Thrown σ)
    (transmission : Transmission) (destinationId : String)
    : Prop :=
  transmission.destination = none
  → config.destinationRepository = true ∧ ProcessCall.Finds handler destinationId

/-- Such a destination is known to whoever observes the run. -/
theorem FindsDestination.known
    (finds : transmission.FindsDestination config handler delivery.destinationId)
    : ProcessDeliveryService.DestinationKnown (transmission.Admits config tables handler) config
        delivery transmission.destination := by
  intro absent
  obtain ⟨present, found⟩ := finds absent
  refine ⟨present, ?_⟩
  rintro _ ⟨world, rfl⟩
  exact found world

/-- A delivery that is not finished comes to be PROCESSING, and is concluded where the answer of
the breaker is recordable.
-/
theorem deliver_meets (resolves : ∀ op world, Resolved op (handler op world).1)
    (working : AttemptRepository.WorkingTables tables) (log : config.attemptRepository = true)
    (client : config.httpClient = true)
    (finds : transmission.FindsDestination config handler delivery.destinationId)
    (unfinished : delivery.status.isFinal = false)
    : (ProcessDeliveryService.deliver config deliveryId transmission.destination
        delivery).Meets (.observing (transmission.Admits config tables handler) shownAfter)
        shown
        (fun _ after =>
          ∃ saved,
            after = some saved
            ∧ delivery.SameEntity saved
            ∧ (Concluded saved.status ↔ transmission.Recordable)) := by
  unfold ProcessDeliveryService.deliver
  rw [Program.bind_eq, Program.meets_bind]
  refine (ProcessDeliveryService.chooseDestination_observed (fun _ => rfl)).mono ?_
  rintro _ _ ⟨rfl, chosen⟩
  obtain ⟨target, rfl⟩ := chosen finds.known
  have timed
      : ∀ result,
          transmission.Admits config tables handler .runtime result
          → Resolved .runtime result := by
    rintro _ ⟨world, rfl⟩
    exact resolves .runtime world
  refine ProcessDeliveryService.meets_after_resolving timed (fun runtime _ => ?_)
  obtain ⟨processing, returned, sameProcessing, _, started⟩ :=
    ProcessDeliveryService.beginProcessing_returns runtime unfinished
  rw [returned]
  refine ProcessDeliveryService.meets_after_resolving ?_ (fun _ _ => ?_)
  · rintro _ ⟨world, rfl⟩
    exact resolves (.save processing []) world
  rw [Program.bind_eq, Program.meets_bind]
  refine (ProcessDeliveryService.taskResultPayload_observed (fun _ => rfl)).mono ?_
  rintro _ _ ⟨rfl, looked⟩
  obtain ⟨payload, rfl⟩ := looked (by
    rintro _ ⟨world, rfl⟩
    exact resolves _ world)
  dsimp only
  rw [Program.bind_eq, Program.meets_bind]
  have posted
      : ∀ url payload headers timeoutMs result,
          transmission.Admits config tables handler (.post url payload headers timeoutMs)
            result
          → result = transmission.answer .undefined .undefined [] .undefined
            ∧ shownAfter (some processing) (.post url payload headers timeoutMs) result
              = some processing := by
    rintro url payload headers timeoutMs _ ⟨world, rfl⟩
    exact ⟨rfl, rfl⟩
  refine (ProcessDeliveryService.transmit_observed (some processing) client timed
    (fun _ _ => rfl) posted).mono ?_
  rintro _ _ ⟨rfl, elapsed, rfl⟩
  rcases @outcome_of_answer transmission config.language elapsed with
    ⟨outcome, status, duration, given, whole, time, recordable⟩ | ⟨⟨error, given⟩, unrecordable⟩
  · rw [given]
    refine (conclude_meets resolves working log ⟨whole, time⟩ started).mono ?_
    rintro _ _ ⟨saved, rfl, same, concluded⟩
    exact ⟨saved, rfl, sameProcessing.trans same, concluded.trans recordable⟩
  · rw [given]
    refine ⟨processing, rfl, sameProcessing, iff_of_false ?_ unrecordable⟩
    exact not_concluded_of_processing started

/-- A finished delivery makes the service throw before it saves anything. -/
theorem deliver_finished (finished : delivery.status.isFinal = true)
    (resolves : ∀ op world, Resolved op (handler op world).1)
    (finds : transmission.FindsDestination config handler delivery.destinationId)
    : (ProcessDeliveryService.deliver config deliveryId transmission.destination
        delivery).Meets (.observing (transmission.Admits config tables handler) shownAfter)
        shown (fun _ after => after = shown) := by
  unfold ProcessDeliveryService.deliver
  rw [Program.bind_eq, Program.meets_bind]
  refine (ProcessDeliveryService.chooseDestination_observed (fun _ => rfl)).mono ?_
  rintro _ _ ⟨rfl, chosen⟩
  obtain ⟨target, rfl⟩ := chosen finds.known
  refine ProcessDeliveryService.meets_after_resolving ?_ (fun runtime _ => ?_)
  · rintro _ ⟨world, rfl⟩
    exact resolves .runtime world
  obtain ⟨error, thrown⟩ := ProcessDeliveryService.beginProcessing_throws runtime finished
  rw [thrown]
  rfl

end

-----------------------------------------------------------------------------------------
-- A call over the tables
-----------------------------------------------------------------------------------------

section
variable {σ : Type} {config : ServiceConfig} {tables : Handler SystemSignature Thrown σ}
  {handler : Handler ServiceSignature Thrown σ} {stored : σ → String → Option Delivery}
  {delivery : Delivery}

/-- The collaborators of a run over a store of entities are one too. -/
theorem during_entityStore (store : EntityStore config handler stored)
    (transmission : Transmission)
    : EntityStore config (transmission.during config tables handler) stored where
  loads world id delivery found := by
    rw [run_lookups (loadDelivery_awaits config id) (fun world => world) (fun _ _ => rfl)
      (fun _ _ => rfl) world]
    exact store.loads world id delivery found
  saves := store.saves
  kept op world unsaved uncounted := by
    cases op with
    | post url payload headers timeoutMs => rfl
    | recordAttempt deliveryId attemptNumber data =>
        cases attemptNumber with
        | none => rfl
        | some number => exact nomatch uncounted
    | _ => exact store.kept _ world unsaved uncounted

/-- They show what an observer of the run knows. -/
theorem during_shows (store : EntityStore config handler stored)
    (working : AttemptRepository.WorkingTables tables) (transmission : Transmission)
    : (transmission.during config tables handler).Honours
        (.observing (transmission.Admits config tables handler) shownAfter) (Shows stored) := by
  intro shown world op shows _
  have during : EntityStore config (transmission.during config tables handler) stored :=
    during_entityStore store transmission
  refine ⟨_, ⟨⟨world, rfl⟩, rfl⟩, ?_⟩
  cases op with
  | save saved events => exact during.shows_save saved events world
  | recordAttempt deliveryId attemptNumber data =>
      cases attemptNumber with
      | none => exact during.shows_kept shows rfl rfl
      | some number =>
          cases recorded
              : (transmission.during config tables handler
                  (.recordAttempt deliveryId (some number) data) world).1 with
          | ok value => exact fun delivery known => nomatch known
          | error error =>
              -- nothing was touched
              have unchanged :=
                AttemptRepository.recordArguments_rejected transmission.production working
                  recorded
              intro delivery known
              have same
                  : (transmission.during config tables handler
                      (.recordAttempt deliveryId (some number) data) world).2
                    = world :=
                unchanged
              rw [same]
              exact shows delivery known
  | _ => exact during.shows_kept shows rfl rfl

end

end Transmission

/-- Over working stores and tables, a processed delivery is left COMPLETED, SCHEDULED_RETRY or
FAILED_DLQ if and only if it was finished before or the answer of the breaker is recordable.
-/
theorem processing_concludes_iff {σ : Type} {config : ServiceConfig}
    {handler : Handler ServiceSignature Thrown σ} {tables : Handler SystemSignature Thrown σ}
    {stored : σ → String → Option Delivery} {delivery : Delivery} {world : σ}
    (store : EntityStore config handler stored)
    (resolves : ∀ op world, Resolved op (handler op world).1)
    (working : AttemptRepository.WorkingTables tables) (log : config.attemptRepository = true)
    (client : config.httpClient = true) (transmission : Transmission)
    (finds : transmission.FindsDestination config handler delivery.destinationId)
    (found : stored world delivery.id = some delivery)
    : (∃ after,
          stored (transmission.run config tables handler delivery.id world).2 delivery.id
            = some after
          ∧ Concluded after.status)
      ↔ delivery.status.isFinal = true ∨ transmission.Recordable := by
  have during : EntityStore config (transmission.during config tables handler) stored :=
    Transmission.during_entityStore store transmission
  obtain ⟨loaded, loads, kept⟩ := during.run_loadDelivery found
  have ran
      : (transmission.run config tables handler delivery.id world).2
        = ((ProcessDeliveryService.deliver config delivery.id transmission.destination
              delivery).run (transmission.during config tables handler) loaded).2 := by
    rw [Transmission.run, ProcessDeliveryService.run_processDelivery loads]
  have start : Shows stored (some delivery) loaded := by
    rw [← kept] at found
    exact shows_found found
  have honoured := Transmission.during_shows store working transmission
  rw [ran]
  cases finished : delivery.status.isFinal with
  | true =>
      obtain ⟨_, rfl, shows⟩ :=
        (Transmission.deliver_finished finished resolves finds).run honoured start
      exact iff_of_true ⟨delivery, shows delivery rfl, concluded_of_final finished⟩ (.inl rfl)
  | false =>
      obtain ⟨_, ⟨saved, rfl, same, concluded⟩, shows⟩ :=
        (Transmission.deliver_meets resolves working log client finds finished).run honoured
          start
      have shown := shows saved rfl
      rw [same.id] at shown
      rw [shown, or_iff_right Bool.false_ne_true, ← concluded]
      constructor
      · rintro ⟨after, known, left⟩
        rwa [← Option.some.inj known] at left
      · exact fun left => ⟨saved, rfl, left⟩

-----------------------------------------------------------------------------------------
-- A store of rows
-----------------------------------------------------------------------------------------

/-- The row of a delivery. -/
def rowOf (delivery : Delivery) : DeliveryRow where
  id := delivery.id
  taskResultId := delivery.taskResultId
  destinationId := delivery.destinationId
  status := delivery.status
  retryCount := delivery.retryCount
  nextRetryAt := delivery.nextRetryAt.bind id
  lastAttemptAt := delivery.lastAttemptAt.bind id
  lastError := delivery.lastError.map DeliveryError.message
  createdAt := delivery.createdAt.getD 0
  updatedAt := delivery.updatedAt.getD 0

/-- The tables of the store in memory, where attempts leave nothing but the count. -/
def countingTables : Handler SystemSignature Thrown (String → Option Delivery)
  | .now, entities => (.ok 0, entities)
  | .external _, entities => (.error (newError "not deployed"), entities)
  | .queueAdd _, entities => (.ok (), entities)
  | .database (.attemptCreate _ _ _ _ _), entities => (.ok (), entities)
  | .database (.deliveryUpdate id data), entities =>
      match entities id with
      | none => (.error recordNotFound, entities)
      | some delivery => (.ok (rowOf delivery), countAttempt id data.retryCount entities)
  | .database (.deliveryFindUnique id), entities => (.ok ((entities id).map rowOf), entities)
  | .database (.deliveryFindFirst id), entities => (.ok ((entities id).map rowOf), entities)
  | .database (.deliveryFindStale _), entities => (.ok [], entities)
  | .database (.deliveryCountStale _), entities => (.ok 0, entities)
  | .database (.attemptFindMany _), entities => (.ok [], entities)
  | .database (.attemptCount _), entities => (.ok 0, entities)

theorem countingTables_working : AttemptRepository.WorkingTables countingTables where
  timed _ := ⟨0, rfl⟩
  stores _ _ _ _ _ _ := rfl
  updates deliveryId data entities := by
    cases found : entities deliveryId with
    | none =>
        obtain ⟨object, gone, code⟩
            : ∃ object : ErrorObject,
                recordNotFound = .error object ∧ object.code = some "P2025" :=
          ⟨_, rfl, rfl⟩
        refine .inr ⟨object, ?_, code⟩
        simp only [countingTables, found, gone]
    | some delivery =>
        refine .inl ⟨rowOf delivery, ?_⟩
        simp only [countingTables, found]

/-- A transmission that the breaker answers with a response. -/
def answeredWith (status : Int) : Transmission where
  production := true
  host _ := some "destination"
  destination := some { url := .string "https://destination/hook", timeoutMs := .number 30000 }
  fired := .ok { status := status, durationMs := 80 }

theorem processing_concludes_of_success
    : ∃ after,
        ((answeredWith 200).run deliveringConfig countingTables (memory ⟨0, 0, fun _ => 1⟩)
            newDelivery.id holdingNew).2
            newDelivery.id
          = some after
        ∧ Concluded after.status :=
  (processing_concludes_iff (delivering_entityStore ⟨0, 0, fun _ => 1⟩) (memory_resolves _)
    countingTables_working rfl rfl (answeredWith 200) nofun rfl).mpr (.inr (by decide))

/-- A response of 503 leaves the delivery PROCESSING: the error it becomes has no status, and
neither shape of the attempt log takes a zero.
-/
theorem unavailable_left_processing
    : ¬∃ after,
        ((answeredWith 503).run deliveringConfig countingTables (memory ⟨0, 0, fun _ => 1⟩)
            newDelivery.id holdingNew).2
            newDelivery.id
          = some after
        ∧ Concluded after.status := by
  have processing
      : (((answeredWith 503).run deliveringConfig countingTables (memory ⟨0, 0, fun _ => 1⟩)
            newDelivery.id holdingNew).2 newDelivery.id).map Delivery.status
        = some .processing := by
    decide +kernel
  rintro ⟨after, left, concluded⟩
  rw [left] at processing
  exact not_concluded_of_processing (Option.some.inj processing) concluded

end QueueForge.Application
