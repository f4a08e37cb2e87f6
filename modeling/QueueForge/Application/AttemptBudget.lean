import Mathlib.Data.List.Induction
import QueueForge.Application.EntityStore
import QueueForge.Application.ProcessingSteps

/-! How the attempts of a delivery are counted: runs of `ProcessDeliveryService.processDelivery`
whose transmissions fail, over a store of entities.
-/

namespace QueueForge.Application

open QueueForge.Async QueueForge.Js QueueForge.Domain

/-- The destination argument of a call, what its transmission settles with, and what the
attempt log rejects with when it is given a number and when it is not.
-/
structure ProcessCall where
  destination : Option DeliveryTarget
  answer : Settled Thrown (Option HttpResponse)
  numbered : Option Thrown
  unnumbered : Option Thrown

namespace ProcessCall

/-- What the attempt log rejects a call with. -/
def attemptFault (call : ProcessCall) (attemptNumber : Option Int) : Option Thrown :=
  if attemptNumber.isSome then call.numbered else call.unnumbered

/-- An attempt of the call comes to be recorded, if there is a log for it. -/
def recordable (config : ServiceConfig) (call : ProcessCall) : Bool :=
  !config.attemptRepository || call.numbered.isNone || call.unnumbered.isNone

section
variable {σ : Type} (config : ServiceConfig) (handler : Handler ServiceSignature Thrown σ)

/-- The collaborators during a call. The world also counts the transmissions. -/
def during (call : ProcessCall) : Handler ServiceSignature Thrown (σ × Nat)
  | .post _ _ _ _, world => (call.answer, world.1, world.2 + 1)
  | .recordAttempt deliveryId attemptNumber data, world =>
      match call.attemptFault attemptNumber with
      | some error => (.error error, world)
      | none =>
          let recorded := handler (.recordAttempt deliveryId attemptNumber data) world.1
          (recorded.1, recorded.2, world.2)
  | op, world => ((handler op world.1).1, (handler op world.1).2, world.2)

/-- Run the call on a delivery. -/
def run (call : ProcessCall) (deliveryId : String) (world : σ × Nat)
    : Settled Thrown ProcessResult × σ × Nat :=
  (ProcessDeliveryService.processDelivery config deliveryId call.destination).run
    (call.during handler) world

/-- The repository finds a destination whenever it is asked for this one. -/
def Finds (destinationId : String) : Prop :=
  ∀ world, ∃ target, (handler (.findDestination destinationId) world).1 = .ok (some target)

/-- The call has a client and a destination for its transmission, which fails with an outcome
the service retries.
-/
structure FailsRetryably (destinationId : String) (call : ProcessCall) : Prop where
  client : config.httpClient = true
  destination
    : call.destination = none
      → config.destinationRepository = true ∧ Finds handler destinationId
  outcome
    : ∀ elapsed,
        ∃ outcome,
          ProcessDeliveryService.outcome config.language elapsed call.answer = .ok outcome
          ∧ outcome.success = false
          ∧ ProcessDeliveryService.isRetryable outcome.responseStatus = true

/-- The world after a sequence of calls, whichever of them threw. -/
def after (deliveryId : String) (calls : List ProcessCall) (world : σ) : σ × Nat :=
  calls.foldl (fun current call => (call.run config handler deliveryId current).2) (world, 0)

end

end ProcessCall

/-- The law of a sequence of failing calls: a retry that is scheduled after the call at some
place is stored under the number of that place, and after five transmissions the delivery is
FAILED_DLQ.
-/
structure CountsAttempts {σ : Type} (config : ServiceConfig)
    (handler : Handler ServiceSignature Thrown σ) (stored : σ → String → Option Delivery)
    (deliveryId : String) (calls : List ProcessCall) (world : σ)
    : Prop where
  counted
    : ∀ earlier call later after,
        calls = earlier ++ call :: later
        → stored (ProcessCall.after config handler deliveryId (earlier ++ [call]) world).1
              deliveryId
            = some after
        → after.status = .scheduledRetry
        → after.retryCount = earlier.length + 1
  exhausted
    : ∀ earlier later,
        calls = earlier ++ later
        → 5 ≤ (ProcessCall.after config handler deliveryId earlier world).2
        → ∃ after,
            stored (ProcessCall.after config handler deliveryId earlier world).1 deliveryId
                = some after
              ∧ after.status = .failedDlq

/-- When a sequence keeps the law: the delivery is finished; or its retries are spent and an
attempt is recorded among the first five calls, if there are five; or there are fewer, and
a recorded one stands at the place that the count names.
-/
def CountedAlready (config : ServiceConfig) (delivery : Delivery) (calls : List ProcessCall)
    : Prop :=
  delivery.status.isFinal = true
  ∨ 5 ≤ delivery.retryCount
    ∧ (5 ≤ calls.length → (calls.take 5).any (ProcessCall.recordable config) = true)
  ∨ delivery.retryCount < 5
    ∧ calls.length < 5
    ∧ ∀ earlier call later,
        calls = earlier ++ call :: later
        → call.recordable config = true
        → delivery.retryCount = earlier.length + 1

/-- The status a failing call leaves: finished deliveries stay as they are, and an attempt
that is not recorded leaves the delivery PROCESSING.
-/
def statusAfterAttempt (status : DeliveryStatus) (retryCount : Int) (recordable : Bool)
    : DeliveryStatus :=
  if status.isFinal then status
  else if !recordable then .processing
  else if retryCount < 5 then .scheduledRetry
  else .failedDlq

theorem statusAfterAttempt_unfinished {status : DeliveryStatus} {retryCount : Int}
    {recordable : Bool} (unfinished : status.isFinal = false)
    : statusAfterAttempt status retryCount recordable
      = if !recordable then .processing
        else if retryCount < 5 then .scheduledRetry
        else .failedDlq := by
  rw [statusAfterAttempt, unfinished, if_neg Bool.false_ne_true]

-----------------------------------------------------------------------------------------
-- What a call does of a delivery that is stored
-----------------------------------------------------------------------------------------

/-- What is known in the course of a call: the entity the store shows, unless an attempt under
a number has been recorded since, and the number of transmissions.
-/
structure Progress where
  shown : Option Delivery
  transmitted : Nat

namespace Progress

/-- How an answer changes what is known. -/
def enter (progress : Progress) (call : ServiceCall) (result : Settled Thrown call.Result)
    : Progress :=
  match call, result with
  | .save delivery _, _ => { progress with shown := some delivery }
  | .recordAttempt _ (some _) _, .ok _ => { progress with shown := none }
  | .post _ _ _ _, _ => { progress with transmitted := progress.transmitted + 1 }
  | _, _ => progress

end Progress

namespace ProcessCall

/-- The answers during a call over a store, where the destinations are found. -/
def Admits (destinations : String → Prop) (call : ProcessCall) (op : ServiceCall)
    (result : Settled Thrown op.Result)
    : Prop :=
  match op, result with
  | .post _ _ _ _, result => result = call.answer
  | .recordAttempt deliveryId attemptNumber data, result =>
      Answers (call.attemptFault attemptNumber) (.recordAttempt deliveryId attemptNumber data)
        result
  | .findDestination id, result =>
      Resolved (.findDestination id) result
      ∧ (destinations id → ∃ target, result = .ok (some target))
  | op, result => Resolved op result

/-- The contract of a call, observed by its progress. -/
abbrev attempting (destinations : String → Prop) (call : ProcessCall)
    : Contract ServiceSignature Thrown Progress :=
  .observing (call.Admits destinations) Progress.enter

section
variable {σ : Type} {config : ServiceConfig} {destinations : String → Prop} {call : ProcessCall}
  {progress : Progress} {deliveryId : String} {delivery : Delivery}

/-- Going on after a call that resolves. -/
theorem meets_after_attempting {α : Type} {op : ServiceCall}
    {next : op.Result → ServiceProgram α} {post : Settled Thrown α → Progress → Prop}
    (resolves : ∀ result, call.Admits destinations op result → Resolved op result)
    (owed
      : ∀ value,
          call.Admits destinations op (.ok value)
          → (next value).Meets (call.attempting destinations)
              (progress.enter op (.ok value)) post)
    : (Program.bind (awaitCall op) next).Meets (call.attempting destinations) progress post :=
  ProcessDeliveryService.meets_after_resolving resolves owed

/-- The destination given, or the one that is found, is chosen. -/
theorem chooseDestination_meets
    (found
      : call.destination = none
        → config.destinationRepository = true ∧ destinations delivery.destinationId)
    : (ProcessDeliveryService.chooseDestination config delivery call.destination).Meets
        (call.attempting destinations) progress
        (fun outcome after => (∃ target, outcome = .ok target) ∧ after = progress) := by
  refine (ProcessDeliveryService.chooseDestination_observed (fun _ => rfl)).mono ?_
  rintro outcome after ⟨unnoticed, chosen⟩
  refine ⟨chosen ?_, unnoticed⟩
  intro absent
  obtain ⟨present, known⟩ := found absent
  exact ⟨present, fun result admitted => admitted.2 known⟩

/-- Looking up the payload changes nothing. -/
theorem taskResultPayload_meets {taskResultId : String}
    : (ProcessDeliveryService.taskResultPayload config taskResultId).Meets
        (call.attempting destinations) progress
        (fun outcome after => (∃ payload, outcome = .ok payload) ∧ after = progress) := by
  refine (ProcessDeliveryService.taskResultPayload_observed (fun _ => rfl)).mono ?_
  rintro outcome after ⟨unnoticed, given⟩
  exact ⟨given (fun result admitted => admitted), unnoticed⟩

/-- A transmission is counted and gives the outcome of what it settled with. -/
theorem transmit_meets {target : DeliveryTarget} {payload : Value}
    (client : config.httpClient = true)
    : (ProcessDeliveryService.transmit config deliveryId delivery target payload).Meets
        (call.attempting destinations) progress
        (fun outcome after =>
          (∃ elapsed,
            outcome = ProcessDeliveryService.outcome config.language elapsed call.answer)
          ∧ after = { progress with transmitted := progress.transmitted + 1 }) := by
  let transmitted : Progress := { progress with transmitted := progress.transmitted + 1 }
  have posted
      : ∀ url payload headers timeoutMs result,
          call.Admits destinations (.post url payload headers timeoutMs) result
          → result = call.answer
            ∧ progress.enter (.post url payload headers timeoutMs) result = transmitted :=
    fun url payload headers timeoutMs result admitted => ⟨admitted, rfl⟩
  have timed
      : ∀ result, call.Admits destinations .runtime result → Resolved .runtime result :=
    fun result admitted => admitted
  refine (ProcessDeliveryService.transmit_observed transmitted client timed (fun _ _ => rfl)
    posted).mono ?_
  rintro outcome after ⟨counted, elapsed, given⟩
  exact ⟨⟨.ofInt elapsed, given⟩, counted⟩

/-- An attempt that can be recorded is, in one shape or the other. -/
theorem recordAttempt_meets {outcome : Outcome} (recordable : call.recordable config = true)
    : (ProcessDeliveryService.recordAttempt config deliveryId delivery outcome).Meets
        (call.attempting destinations) progress
        (fun result after =>
          result = .ok () ∧ after.transmitted = progress.transmitted) := by
  unfold ProcessDeliveryService.recordAttempt
  split
  · rename_i present
    rw [Program.meets_catchError]
    refine Program.meets_perform_observing.mpr ⟨?_, fun value _ => ⟨rfl, rfl⟩⟩
    intro error rejected
    have resolves : call.unnumbered = none := by
      by_contra fault
      have numbered : call.numbered = none := by
        simpa [ProcessCall.recordable, present, fault] using recordable
      simp [Admits, attemptFault, numbered, Answers, Resolved] at rejected
    refine Program.meets_perform_observing.mpr ⟨?_, fun value _ => ⟨rfl, rfl⟩⟩
    intro error rejected
    simp [Admits, attemptFault, resolves, Answers, Resolved] at rejected
  · exact ⟨rfl, rfl⟩

/-- Any other makes the service throw, and the store still shows what it showed. -/
theorem recordAttempt_throws {outcome : Outcome} (recordable : call.recordable config = false)
    : (ProcessDeliveryService.recordAttempt config deliveryId delivery outcome).Meets
        (call.attempting destinations) progress
        (fun result after => (∃ thrown, result = .error thrown) ∧ after = progress) := by
  simp only [ProcessCall.recordable, Bool.or_eq_false_iff, Bool.not_eq_false',
    Option.isNone_eq_false_iff, Option.isSome_iff_exists] at recordable
  obtain ⟨⟨present, first, numbered⟩, second, unnumbered⟩ := recordable
  rw [ProcessDeliveryService.recordAttempt, if_pos present, Program.meets_catchError]
  refine Program.meets_perform_observing.mpr ⟨?_, ?_⟩
  · intro error rejected
    refine Program.meets_perform_observing.mpr ⟨fun error _ => ⟨⟨error, rfl⟩, rfl⟩, ?_⟩
    intro value admitted
    simp [Admits, attemptFault, unnumbered, Answers] at admitted
  · intro value admitted
    simp [Admits, attemptFault, numbered, Answers] at admitted

/-- A failed transmission never completes a delivery: it is rescheduled below five, or else
dead-lettered.
-/
theorem statusAfter_of_failed {outcome : Outcome} {retryCount : Int}
    (failed : outcome.success = false)
    (retryable : ProcessDeliveryService.isRetryable outcome.responseStatus = true)
    : ProcessDeliveryService.statusAfter outcome retryCount
      = statusAfterAttempt .processing retryCount true := by
  simp only [ProcessDeliveryService.statusAfter, failed, retryable, Bool.true_and,
    Bool.false_eq_true, if_false, decide_eq_true_eq]
  exact (@statusAfterAttempt_unfinished .processing retryCount true rfl).symm

/-- Once a transmission has failed, the service saves what its outcome makes of the delivery,
or throws for an attempt it could not record.
-/
theorem conclude_meets {outcome : Outcome} (shown : progress.shown = some delivery)
    (processing : delivery.status = .processing) (failed : outcome.success = false)
    (retryable : ProcessDeliveryService.isRetryable outcome.responseStatus = true)
    : (ProcessDeliveryService.conclude config deliveryId delivery outcome).Meets
        (call.attempting destinations) progress
        (fun _ after =>
          after.transmitted = progress.transmitted
          ∧ ∃ saved,
              after.shown = some saved
              ∧ delivery.SameEntity saved
              ∧ saved.retryCount = delivery.retryCount
              ∧ saved.status
                = statusAfterAttempt .processing delivery.retryCount
                    (call.recordable config)) := by
  simp only [ProcessDeliveryService.conclude, Program.bind_eq]
  rw [Program.meets_bind]
  cases recordable : call.recordable config with
  | false =>
      refine (recordAttempt_throws recordable).mono ?_
      rintro _ _ ⟨⟨thrown, rfl⟩, rfl⟩
      refine ⟨rfl, delivery, shown, .refl delivery, rfl, ?_⟩
      simp [processing, statusAfterAttempt, DeliveryStatus.isFinal]
  | true =>
      refine (recordAttempt_meets recordable).mono ?_
      rintro _ recorded ⟨rfl, transmitted⟩
      refine meets_after_attempting (fun result admitted => admitted) (fun runtime _ => ?_)
      obtain ⟨sameNoted, countNoted, statusNoted⟩ :=
        @ProcessDeliveryService.noteAttempt_keeps config.language runtime outcome delivery
      obtain ⟨saved, returned, same, count, status⟩ :=
        ProcessDeliveryService.updateState_returns runtime outcome (statusNoted.trans processing)
      rw [returned]
      refine meets_after_attempting (fun result admitted => admitted) (fun _ _ => ?_)
      rw [countNoted] at count status
      exact ⟨transmitted, saved, rfl, sameNoted.trans same, count,
        status.trans (statusAfter_of_failed failed retryable)⟩

/-- A call on a delivery that is not finished transmits once and leaves the count as it is. -/
theorem deliver_meets {handler : Handler ServiceSignature Thrown σ}
    (fails : call.FailsRetryably config handler delivery.destinationId)
    (unfinished : delivery.status.isFinal = false)
    : (ProcessDeliveryService.deliver config deliveryId call.destination delivery).Meets
        (call.attempting (Finds handler)) progress
        (fun _ after =>
          after.transmitted = progress.transmitted + 1
          ∧ ∃ saved,
              after.shown = some saved
              ∧ delivery.SameEntity saved
              ∧ saved.retryCount = delivery.retryCount
              ∧ saved.status
                = statusAfterAttempt .processing delivery.retryCount
                    (call.recordable config)) := by
  simp only [ProcessDeliveryService.deliver, Program.bind_eq]
  rw [Program.meets_bind]
  refine (chooseDestination_meets fails.destination).mono ?_
  rintro _ _ ⟨⟨target, rfl⟩, rfl⟩
  refine meets_after_attempting (fun result admitted => admitted) (fun runtime _ => ?_)
  obtain ⟨processing, returned, sameProcessing, countProcessing, status⟩ :=
    ProcessDeliveryService.beginProcessing_returns runtime unfinished
  rw [returned]
  refine meets_after_attempting (fun result admitted => admitted) (fun _ _ => ?_)
  rw [Program.meets_bind]
  refine taskResultPayload_meets.mono ?_
  rintro _ _ ⟨⟨payload, rfl⟩, rfl⟩
  dsimp only
  rw [Program.meets_bind]
  refine (transmit_meets fails.client).mono ?_
  rintro _ _ ⟨⟨elapsed, rfl⟩, rfl⟩
  obtain ⟨outcome, given, failed, retryable⟩ := fails.outcome elapsed
  rw [given]
  refine (conclude_meets rfl status failed retryable).mono ?_
  rintro _ after ⟨transmitted, saved, shown, same, count, status⟩
  rw [countProcessing] at count status
  exact ⟨transmitted, saved, shown, sameProcessing.trans same, count, status⟩

/-- A call on a finished delivery throws before it saves or transmits. -/
theorem deliver_finished {handler : Handler ServiceSignature Thrown σ}
    (fails : call.FailsRetryably config handler delivery.destinationId)
    (finished : delivery.status.isFinal = true)
    : (ProcessDeliveryService.deliver config deliveryId call.destination delivery).Meets
        (call.attempting (Finds handler)) progress (fun _ after => after = progress) := by
  simp only [ProcessDeliveryService.deliver, Program.bind_eq]
  rw [Program.meets_bind]
  refine (chooseDestination_meets fails.destination).mono ?_
  rintro _ _ ⟨⟨target, rfl⟩, rfl⟩
  refine meets_after_attempting (fun result admitted => admitted) (fun runtime _ => ?_)
  obtain ⟨error, thrown⟩ := ProcessDeliveryService.beginProcessing_throws runtime finished
  rw [thrown]
  exact rfl

end

/-- The store shows the entity that is known, and the world counts the transmissions. -/
def ShowsProgress {σ : Type} (stored : σ → String → Option Delivery) (before : Nat)
    (progress : Progress) (world : σ × Nat)
    : Prop :=
  (∀ delivery ∈ progress.shown, stored world.1 delivery.id = some delivery)
  ∧ world.2 = before + progress.transmitted

-----------------------------------------------------------------------------------------
-- One call over a store of entities
-----------------------------------------------------------------------------------------

section
variable {σ : Type} {config : ServiceConfig} {handler : Handler ServiceSignature Thrown σ}
  {stored : σ → String → Option Delivery} {delivery : Delivery}

/-- Over a store of entities, the collaborators of a call honour its contract. -/
theorem honours_attempting (store : EntityStore config handler stored)
    (resolves : ∀ op world, Resolved op (handler op world).1) (call : ProcessCall) (before : Nat)
    : (call.during handler).Honours (call.attempting (Finds handler))
        (ShowsProgress stored before) := by
  rintro progress ⟨world, transmitted⟩ op ⟨shown, counted⟩ _
  have keeps (op : ServiceCall) (unsaved : op.saved? = none)
      (uncounted : op.isNumberedAttempt = false)
      : Shows stored progress.shown (handler op world).2 :=
    store.shows_kept shown unsaved uncounted
  cases op with
  | save saved events =>
      exact ⟨_, ⟨resolves (.save saved events) world, rfl⟩,
        store.shows_save saved events world, counted⟩
  | post url payload headers timeoutMs =>
      refine ⟨_, ⟨rfl, rfl⟩, shown, ?_⟩
      exact congrArg Nat.succ counted
  | recordAttempt deliveryId attemptNumber data =>
      cases fault : call.attemptFault attemptNumber with
      | some error =>
          refine ⟨_, ⟨?_, rfl⟩, ?_⟩
          · simp only [Admits, during, fault, Answers]
          · simp only [during, fault, Progress.enter]
            cases attemptNumber <;> exact ⟨shown, counted⟩
      | none =>
          obtain ⟨value, resolved⟩ :=
            resolves (.recordAttempt deliveryId attemptNumber data) world
          refine ⟨_, ⟨?_, rfl⟩, ?_⟩
          · simp only [Admits, during, fault, Answers, resolved]
            exact ⟨value, rfl⟩
          · simp only [during, fault, resolved]
            cases attemptNumber with
            | none => exact ⟨keeps _ rfl rfl, counted⟩
            | some number => exact ⟨fun delivery known => (by cases known), counted⟩
  | findDestination id =>
      refine ⟨_, ⟨⟨resolves (.findDestination id) world, fun finds => finds world⟩, rfl⟩, ?_⟩
      exact ⟨keeps _ rfl rfl, counted⟩
  | runtime => exact ⟨_, ⟨resolves .runtime world, rfl⟩, keeps .runtime rfl rfl, counted⟩
  | findById id => exact ⟨_, ⟨resolves _ world, rfl⟩, keeps (.findById id) rfl rfl, counted⟩
  | findByTaskResultId id =>
      exact ⟨_, ⟨resolves _ world, rfl⟩, keeps (.findByTaskResultId id) rfl rfl, counted⟩
  | enqueueDelivery taskResultId destinationId attempt delay =>
      exact ⟨_, ⟨resolves _ world, rfl⟩,
        keeps (.enqueueDelivery taskResultId destinationId attempt delay) rfl rfl, counted⟩
  | add name deliveryId delay attempts jobId =>
      exact ⟨_, ⟨resolves _ world, rfl⟩,
        keeps (.add name deliveryId delay attempts jobId) rfl rfl, counted⟩
  | publish event =>
      exact ⟨_, ⟨resolves _ world, rfl⟩, keeps (.publish event) rfl rfl, counted⟩
  | findResult id =>
      exact ⟨_, ⟨resolves _ world, rfl⟩, keeps (.findResult id) rfl rfl, counted⟩

/-- Loading during a call is loading from the store. -/
theorem run_loadDelivery_over (store : EntityStore config handler stored) (call : ProcessCall)
    {world : σ × Nat} (found : stored world.1 delivery.id = some delivery)
    : ∃ loaded,
        (loadDelivery config delivery.id).run (call.during handler) world
          = (.ok delivery, loaded, world.2)
        ∧ stored loaded = stored world.1 := by
  obtain ⟨loaded, loads, kept⟩ := store.run_loadDelivery found
  refine ⟨loaded, ?_, kept⟩
  have embedded :=
    @run_lookups _ _ _ handler (call.during handler) _ (loadDelivery_awaits config delivery.id)
      (fun inner => (inner, world.2)) (fun _ _ => rfl) (fun _ _ => rfl) world.1
  rw [loads] at embedded
  exact embedded

/-- What a failing call leaves stored of a delivery: its count, the status its attempt gives it,
and one transmission more unless the delivery is finished.
-/
theorem run_stored (store : EntityStore config handler stored)
    (resolves : ∀ op world, Resolved op (handler op world).1) {call : ProcessCall}
    (fails : call.FailsRetryably config handler delivery.destinationId) {world : σ × Nat}
    (found : stored world.1 delivery.id = some delivery)
    : ∃ after,
        stored (call.run config handler delivery.id world).2.1 delivery.id = some after
        ∧ delivery.SameEntity after
        ∧ after.retryCount = delivery.retryCount
        ∧ after.status
          = statusAfterAttempt delivery.status delivery.retryCount (call.recordable config)
        ∧ (call.run config handler delivery.id world).2.2
          = if delivery.status.isFinal then world.2 else world.2 + 1 := by
  obtain ⟨loaded, loads, kept⟩ := run_loadDelivery_over store call found
  have start : ShowsProgress stored world.2 ⟨some delivery, 0⟩ (loaded, world.2) := by
    refine ⟨shows_found ?_, rfl⟩
    rw [kept]
    exact found
  have ran
      : (call.run config handler delivery.id world).2
        = ((ProcessDeliveryService.deliver config delivery.id call.destination delivery).run
            (call.during handler) (loaded, world.2)).2 := by
    rw [ProcessCall.run, ProcessDeliveryService.run_processDelivery loads]
  rw [ran]
  cases finished : delivery.status.isFinal with
  | true =>
      obtain ⟨_, rfl, shown, counted⟩ :=
        (deliver_finished fails finished).run (honours_attempting store resolves call world.2) start
      refine ⟨delivery, shown delivery rfl, .refl delivery, rfl, ?_, counted⟩
      rw [statusAfterAttempt, if_pos finished]
  | false =>
      obtain ⟨progress, ⟨transmitted, saved, known, same, count, status⟩, shown, counted⟩ :=
        (deliver_meets fails finished).run (honours_attempting store resolves call world.2) start
      have found := shown saved known
      rw [same.id] at found
      refine ⟨saved, found, same, count, ?_, ?_⟩
      · rw [status, statusAfterAttempt_unfinished rfl, statusAfterAttempt_unfinished finished]
      · rw [counted, transmitted, if_neg Bool.false_ne_true]

end

-----------------------------------------------------------------------------------------
-- Sequences of calls
-----------------------------------------------------------------------------------------

/-- The status and the number of transmissions a call leaves. -/
def attempted (config : ServiceConfig) (retryCount : Int) (reached : DeliveryStatus × Nat)
    (call : ProcessCall)
    : DeliveryStatus × Nat :=
  (statusAfterAttempt reached.1 retryCount (call.recordable config),
    if reached.1.isFinal then reached.2 else reached.2 + 1)

/-- The status and the number of transmissions a sequence of calls leaves. -/
def attemptedAll (config : ServiceConfig) (delivery : Delivery) (calls : List ProcessCall)
    : DeliveryStatus × Nat :=
  calls.foldl (attempted config delivery.retryCount) (delivery.status, 0)

theorem attemptedAll_concat (config : ServiceConfig) (delivery : Delivery)
    (earlier : List ProcessCall) (call : ProcessCall)
    : attemptedAll config delivery (earlier ++ [call])
      = attempted config delivery.retryCount (attemptedAll config delivery earlier) call := by
  rw [attemptedAll, List.foldl_append]
  rfl

section
variable {config : ServiceConfig} {delivery : Delivery}

/-- A finished delivery is never transmitted, by induction on the calls from their end. -/
theorem attemptedAll_finished (finished : delivery.status.isFinal = true)
    (calls : List ProcessCall)
    : attemptedAll config delivery calls = (delivery.status, 0) := by
  induction calls using List.reverseRecOn with
  | nil => rfl
  | append_singleton earlier call ih =>
      rw [attemptedAll_concat, ih, attempted, statusAfterAttempt, if_pos finished,
        if_pos finished]

/-- Below five every call transmits and none finishes the delivery, by induction on the calls
from their end.
-/
theorem attemptedAll_below (unfinished : delivery.status.isFinal = false)
    (below : delivery.retryCount < 5) (calls : List ProcessCall)
    : (attemptedAll config delivery calls).1.isFinal = false
      ∧ (attemptedAll config delivery calls).2 = calls.length := by
  induction calls using List.reverseRecOn with
  | nil => exact ⟨unfinished, rfl⟩
  | append_singleton earlier call ih =>
      obtain ⟨open_, transmitted⟩ := ih
      rw [attemptedAll_concat, attempted, open_, if_neg Bool.false_ne_true, transmitted,
        List.length_append]
      refine ⟨?_, rfl⟩
      rw [statusAfterAttempt_unfinished open_, if_pos below]
      cases call.recordable config <;> rfl

/-- With the retries spent, the first recorded attempt dead-letters the delivery, and until
then every call transmits. By induction on the calls from their end.
-/
theorem attemptedAll_spent (unfinished : delivery.status.isFinal = false)
    (spent : 5 ≤ delivery.retryCount) (calls : List ProcessCall)
    : if calls.any (ProcessCall.recordable config) then
        (attemptedAll config delivery calls).1 = .failedDlq
      else
        (attemptedAll config delivery calls).1.isFinal = false
        ∧ (attemptedAll config delivery calls).2 = calls.length := by
  induction calls using List.reverseRecOn with
  | nil => exact ⟨unfinished, rfl⟩
  | append_singleton earlier call ih =>
      rw [attemptedAll_concat, List.any_append, List.any_cons, List.any_nil, Bool.or_false]
      cases recorded : earlier.any (ProcessCall.recordable config) with
      | true =>
          rw [recorded, if_pos rfl] at ih
          rw [Bool.true_or, if_pos rfl, attempted, ih]
          rfl
      | false =>
          rw [recorded, if_neg Bool.false_ne_true] at ih
          obtain ⟨open_, transmitted⟩ := ih
          have notBelow : ¬delivery.retryCount < 5 := by omega
          rw [Bool.false_or, attempted, statusAfterAttempt_unfinished open_, if_neg notBelow,
            open_, transmitted, List.length_append]
          cases call.recordable config with
          | true => rfl
          | false => exact ⟨rfl, rfl⟩

/-- The last call leaves SCHEDULED_RETRY only where it is recorded below five. -/
theorem attemptedAll_scheduled {earlier : List ProcessCall} {call : ProcessCall}
    (unfinished : (attemptedAll config delivery earlier).1.isFinal = false)
    : (attemptedAll config delivery (earlier ++ [call])).1 = .scheduledRetry
      ↔ call.recordable config = true ∧ delivery.retryCount < 5 := by
  rw [attemptedAll_concat, attempted, statusAfterAttempt_unfinished unfinished]
  cases call.recordable config with
  | false => simp
  | true => by_cases below : delivery.retryCount < 5 <;> simp [below]

end

section
variable {σ : Type} {config : ServiceConfig} {handler : Handler ServiceSignature Thrown σ}
  {stored : σ → String → Option Delivery} {delivery : Delivery} {world : σ}

/-- After a sequence of failing calls the store holds the delivery under its count, in the
status the sequence leaves. By induction on the calls from their end.
-/
theorem stored_after (store : EntityStore config handler stored)
    (resolves : ∀ op world, Resolved op (handler op world).1) (calls : List ProcessCall)
    (fails : ∀ call ∈ calls, call.FailsRetryably config handler delivery.destinationId)
    (found : stored world delivery.id = some delivery)
    : ∃ reached,
        stored (ProcessCall.after config handler delivery.id calls world).1 delivery.id
          = some reached
        ∧ delivery.SameEntity reached
        ∧ reached.retryCount = delivery.retryCount
        ∧ reached.status = (attemptedAll config delivery calls).1
        ∧ (ProcessCall.after config handler delivery.id calls world).2
          = (attemptedAll config delivery calls).2 := by
  induction calls using List.reverseRecOn with
  | nil => exact ⟨delivery, found, .refl delivery, rfl, rfl, rfl⟩
  | append_singleton earlier call ih =>
      obtain ⟨before, foundBefore, sameBefore, countBefore, statusBefore, transmitted⟩ :=
        ih (fun other member => fails other (List.mem_append_left [call] member))
      have here := fails call (List.mem_append_right earlier (List.mem_singleton_self call))
      rw [← sameBefore.destinationId] at here
      rw [← sameBefore.id] at foundBefore
      obtain ⟨after, foundAfter, same, count, status, counted⟩ :=
        run_stored store resolves here foundBefore
      have last
          : ProcessCall.after config handler delivery.id (earlier ++ [call]) world
            = (call.run config handler delivery.id
                (ProcessCall.after config handler delivery.id earlier world)).2 := by
        simp only [ProcessCall.after, List.foldl_append, List.foldl_cons, List.foldl_nil]
      rw [sameBefore.id] at foundAfter counted
      rw [last, attemptedAll_concat]
      refine ⟨after, foundAfter, sameBefore.trans same, count.trans countBefore, ?_, ?_⟩
      · rw [status, statusBefore, countBefore, attempted]
      · rw [counted, statusBefore, transmitted, attempted]

end

end ProcessCall

/-- At every place in a sequence the store holds the delivery under its count, in the status
and after the transmissions that the calls so far leave.
-/
def Reached {σ : Type} (config : ServiceConfig) (handler : Handler ServiceSignature Thrown σ)
    (stored : σ → String → Option Delivery) (delivery : Delivery) (calls : List ProcessCall)
    (world : σ)
    : Prop :=
  ∀ earlier later,
    calls = earlier ++ later
    → ∃ reached,
        stored (ProcessCall.after config handler delivery.id earlier world).1 delivery.id
          = some reached
        ∧ reached.retryCount = delivery.retryCount
        ∧ reached.status = (ProcessCall.attemptedAll config delivery earlier).1
        ∧ (ProcessCall.after config handler delivery.id earlier world).2
          = (ProcessCall.attemptedAll config delivery earlier).2

/-- What the law asks of the statuses and the transmissions that the calls leave. -/
structure LeavesCounted (config : ServiceConfig) (delivery : Delivery) (calls : List ProcessCall)
    : Prop where
  counted
    : ∀ earlier call later,
        calls = earlier ++ call :: later
        → (ProcessCall.attemptedAll config delivery (earlier ++ [call])).1 = .scheduledRetry
        → delivery.retryCount = earlier.length + 1
  exhausted
    : ∀ earlier later,
        calls = earlier ++ later
        → 5 ≤ (ProcessCall.attemptedAll config delivery earlier).2
        → (ProcessCall.attemptedAll config delivery earlier).1 = .failedDlq

section
variable {σ : Type} {config : ServiceConfig} {handler : Handler ServiceSignature Thrown σ}
  {stored : σ → String → Option Delivery} {delivery : Delivery} {calls : List ProcessCall}
  {world : σ}

/-- The law in terms of what the calls leave. -/
theorem Reached.counts_iff (reached : Reached config handler stored delivery calls world)
    : CountsAttempts config handler stored delivery.id calls world
      ↔ LeavesCounted config delivery calls := by
  constructor
  · intro law
    constructor
    · intro earlier call later split scheduled
      obtain ⟨after, foundAfter, count, status, _⟩ :=
        reached (earlier ++ [call]) later (split.trans (List.append_cons earlier call later))
      rw [← count]
      exact law.counted earlier call later after split foundAfter (status.trans scheduled)
    · intro earlier later split five
      obtain ⟨after, foundAfter, _, status, transmitted⟩ := reached earlier later split
      rw [← transmitted] at five
      obtain ⟨dead, foundDead, failed⟩ := law.exhausted earlier later split five
      obtain rfl : after = dead := Option.some.inj (foundAfter.symm.trans foundDead)
      exact status.symm.trans failed
  · rintro ⟨counted, exhausted⟩
    constructor
    · intro earlier call later after split foundAfter scheduled
      obtain ⟨same, foundSame, count, status, _⟩ :=
        reached (earlier ++ [call]) later (split.trans (List.append_cons earlier call later))
      obtain rfl : after = same := Option.some.inj (foundAfter.symm.trans foundSame)
      rw [count]
      exact counted earlier call later split (status.symm.trans scheduled)
    · intro earlier later split five
      obtain ⟨after, foundAfter, _, status, transmitted⟩ := reached earlier later split
      rw [transmitted] at five
      exact ⟨after, foundAfter, status.trans (exhausted earlier later split five)⟩

end

-----------------------------------------------------------------------------------------
-- Where the counts say so already: finished, below five, and with the retries spent
-----------------------------------------------------------------------------------------

section
variable {config : ServiceConfig} {delivery : Delivery} {calls : List ProcessCall}

/-- A finished delivery is not transmitted and stays as it is. -/
theorem leavesCounted_of_finished (finished : delivery.status.isFinal = true)
    : LeavesCounted config delivery calls where
  counted earlier call later _ scheduled := by
    rw [ProcessCall.attemptedAll_finished finished] at scheduled
    rw [show delivery.status = .scheduledRetry from scheduled] at finished
    exact nomatch finished
  exhausted earlier later _ five := by
    rw [ProcessCall.attemptedAll_finished finished] at five
    exact absurd five (Nat.not_succ_le_zero 4)

/-- Below five no call dead-letters the delivery, so there must be fewer than five calls. -/
theorem leavesCounted_below_iff (unfinished : delivery.status.isFinal = false)
    (below : delivery.retryCount < 5)
    : LeavesCounted config delivery calls
      ↔ calls.length < 5
        ∧ ∀ earlier call later,
            calls = earlier ++ call :: later
            → call.recordable config = true
            → delivery.retryCount = earlier.length + 1 := by
  have open_ := @ProcessCall.attemptedAll_below config delivery unfinished below
  constructor
  · rintro ⟨counted, exhausted⟩
    constructor
    · by_contra long
      have five : 5 ≤ (ProcessCall.attemptedAll config delivery calls).2 := by
        rw [(open_ calls).2]
        omega
      have dead := exhausted calls [] (List.append_nil calls).symm five
      have left := (open_ calls).1
      rw [dead] at left
      exact nomatch left
    · intro earlier call later split recordable
      exact counted earlier call later split
        ((ProcessCall.attemptedAll_scheduled (open_ earlier).1).mpr ⟨recordable, below⟩)
  · rintro ⟨short, placed⟩
    constructor
    · intro earlier call later split scheduled
      exact placed earlier call later split
        ((ProcessCall.attemptedAll_scheduled (open_ earlier).1).mp scheduled).1
    · intro earlier later split five
      rw [(open_ earlier).2] at five
      have length : calls.length = earlier.length + later.length := by
        rw [split, List.length_append]
      omega

/-- With the retries spent no call leaves SCHEDULED_RETRY, and one of the first five must be
recorded to leave FAILED_DLQ.
-/
theorem leavesCounted_spent_iff (unfinished : delivery.status.isFinal = false)
    (spent : 5 ≤ delivery.retryCount)
    : LeavesCounted config delivery calls
      ↔ (5 ≤ calls.length → (calls.take 5).any (ProcessCall.recordable config) = true) := by
  have left := @ProcessCall.attemptedAll_spent config delivery unfinished spent
  constructor
  · rintro ⟨_, exhausted⟩ long
    by_contra unrecorded
    have open_ := left (calls.take 5)
    rw [if_neg unrecorded, List.length_take, Nat.min_eq_left long] at open_
    have dead :=
      exhausted (calls.take 5) (calls.drop 5) (List.take_append_drop 5 calls).symm
        (Nat.le_of_eq open_.2.symm)
    rw [dead] at open_
    exact nomatch open_.1
  · intro recorded
    constructor
    · intro earlier call later split scheduled
      have here := left (earlier ++ [call])
      cases any : (earlier ++ [call]).any (ProcessCall.recordable config) with
      | true =>
          rw [if_pos any, scheduled] at here
          exact nomatch here
      | false =>
          rw [List.any_append, Bool.or_eq_false_iff] at any
          have open_ := left earlier
          rw [any.1, if_neg Bool.false_ne_true] at open_
          have below := ((ProcessCall.attemptedAll_scheduled open_.1).mp scheduled).2
          omega
    · intro earlier later split five
      have here := left earlier
      split at here
      · exact here
      · -- Without a recorded call every call so far transmitted, so the first five are here.
        rename_i unrecorded
        rw [here.2] at five
        have firstFive : calls.take 5 = earlier.take 5 := by
          rw [split, List.take_append_of_le_length five]
        have long : 5 ≤ calls.length := by
          rw [split, List.length_append]
          omega
        obtain ⟨call, member, recordable⟩ := List.any_eq_true.mp (recorded long)
        rw [firstFive] at member
        exact absurd
          (List.any_eq_true.mpr ⟨call, List.mem_of_mem_take member, recordable⟩) unrecorded

theorem leavesCounted_iff
    : LeavesCounted config delivery calls ↔ CountedAlready config delivery calls := by
  unfold CountedAlready
  cases unfinished : delivery.status.isFinal with
  | true => exact iff_of_true (leavesCounted_of_finished unfinished) (.inl rfl)
  | false =>
      by_cases below : delivery.retryCount < 5
      · rw [leavesCounted_below_iff unfinished below]
        simp [below, Int.not_le.mpr below]
      · have spent : 5 ≤ delivery.retryCount := by omega
        rw [leavesCounted_spent_iff unfinished spent]
        simp [below, spent]

end

/-- Over a store that returns the last saved entity, with collaborators that resolve but for
the attempt log, a sequence of calls whose transmissions fail keeps the law exactly where
the count says so already: the service never raises it.
-/
theorem processing_counts_attempts {σ : Type} {config : ServiceConfig}
    {handler : Handler ServiceSignature Thrown σ} {stored : σ → String → Option Delivery}
    {delivery : Delivery} {world : σ} (store : EntityStore config handler stored)
    (resolves : ∀ op world, Resolved op (handler op world).1) (calls : List ProcessCall)
    (fails : ∀ call ∈ calls, call.FailsRetryably config handler delivery.destinationId)
    (found : stored world delivery.id = some delivery)
    : CountsAttempts config handler stored delivery.id calls world
      ↔ CountedAlready config delivery calls := by
  have reached : Reached config handler stored delivery calls world := by
    rintro earlier later rfl
    obtain ⟨after, foundAfter, _, left⟩ :=
      ProcessCall.stored_after store resolves earlier
        (fun call member => fails call (List.mem_append_left later member)) found
    exact ⟨after, foundAfter, left⟩
  exact reached.counts_iff.trans leavesCounted_iff

/-- A call given its destination, whose transmission is answered with 503. -/
def unavailable : ProcessCall where
  destination := some { url := .string "https://destination/hook", timeoutMs := .number 30000 }
  answer := .ok (some { status := some 503, durationMs := some 80 })
  numbered := none
  unnumbered := none

/-- The services over the store in memory, with an attempt log and a client. -/
def deliveringConfig : ServiceConfig := {
  memoryConfig with
  attemptRepository := true
  httpClient := true
}

/-- The memory is a store of entities for them too. -/
theorem delivering_entityStore (runtime : Runtime)
    : EntityStore deliveringConfig (memory runtime) (fun entities => entities) where
  loads := (memory_entityStore runtime).loads
  saves := (memory_entityStore runtime).saves
  kept := (memory_entityStore runtime).kept

/-- The transmission fails with an outcome the service retries. -/
theorem unavailable_fails {σ : Type} (handler : Handler ServiceSignature Thrown σ)
    (destinationId : String)
    : unavailable.FailsRetryably deliveringConfig handler destinationId where
  client := rfl
  destination given := nomatch given
  outcome elapsed := by
    have status : (503 : Number).truthy = true := by decide +kernel
    refine ⟨_, rfl, ?_, ?_⟩
    · simp only [ProcessDeliveryService.received, status, if_true]
      decide +kernel
    · simp only [ProcessDeliveryService.received, status, if_true]
      decide +kernel

/-- A store in memory that holds a delivery at its first retry. -/
def holdingRetried (id : String) : Option Delivery :=
  if id = newDelivery.id then some { newDelivery with retryCount := 1 } else none

theorem first_attempt_counted_already
    : CountsAttempts deliveringConfig (memory ⟨0, 0, fun _ => 1⟩) (fun entities => entities)
        newDelivery.id [unavailable] holdingRetried := by
  refine (@processing_counts_attempts _ _ _ _ { newDelivery with retryCount := 1 } holdingRetried
    (delivering_entityStore _) (memory_resolves _) [unavailable]
    (fun call member => ?_) rfl).mpr (.inr (.inr ⟨by decide, by decide, ?_⟩))
  · obtain rfl := List.mem_singleton.mp member
    exact unavailable_fails _ _
  · rintro ( _ | ⟨head, tail⟩) call later split _
    · rfl
    · simp at split

/-- After the first failed attempt of a new delivery its retry is stored under zero. -/
theorem first_attempt_uncounted
    : ¬CountsAttempts deliveringConfig (memory ⟨0, 0, fun _ => 1⟩) (fun entities => entities)
        newDelivery.id [unavailable] holdingNew := by
  intro law
  obtain ⟨after, foundAfter, _, count, status, _⟩ :=
    @ProcessCall.run_stored _ _ _ _ newDelivery (delivering_entityStore ⟨0, 0, fun _ => 1⟩)
      (memory_resolves _) unavailable (unavailable_fails _ _) (holdingNew, 0) rfl
  have one := law.counted [] unavailable [] after rfl foundAfter status
  rw [count] at one
  exact absurd one (by decide)

end QueueForge.Application
