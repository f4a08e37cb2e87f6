import QueueForge.Async.Execution
import QueueForge.Worker.DeliveryExecutor

/-! What a run does after a successful transmission.
An observer keeps a ledger of the run; the bookkeeping of a success runs in the `try`
block of the transmission, so the ledger tells when a failed step turns it into a failure.
-/

namespace QueueForge.Worker

open QueueForge.Async QueueForge.Js QueueForge.Infrastructure

/-- `Date.now()` does not throw. -/
def TellsTime : (call : WorkerCall) → Settled Thrown call.Result → Prop
  | .now, result => ∃ time, result = .ok time
  | _, _ => True

/-- What an observer notes of a run: whether there is a breaker, whether `connector.execute`
resolved to a success, what was then reported and recorded, and whether a step of the
bookkeeping threw in a way the `catch` block acts on.
-/
structure Ledger where
  breaker : Bool := false
  succeeded : Bool := false
  retried : Bool := false
  failedAttempt : Bool := false
  reports : Nat := 0
  upset : Bool := false

namespace Ledger

/-- Note an exception of the success bookkeeping. Without a breaker a nullish one is cut
short before anything is recorded.
-/
def threw (ledger : Ledger) (error : Thrown) : Ledger := {
  ledger with
  upset := ledger.upset || ledger.breaker || decide (error ≠ .nullish)
}

/-- The ledger after one more call. -/
def enter (ledger : Ledger) : (call : WorkerCall) → Settled Thrown call.Result → Ledger
  | .external (.getBreaker _), .ok true => { ledger with breaker := true }
  | .external (.execute _ _), .ok (some res) =>
      { ledger with succeeded := ledger.succeeded || res.success }
  | .external .recordSuccess, .ok _ => { ledger with reports := ledger.reports + 1 }
  | .external .recordSuccess, .error error =>
      { ledger with reports := ledger.reports + 1 }.threw error
  | .external (.recordFailure _), _ => { ledger with reports := ledger.reports + 1 }
  | .attemptSuccess _ _ _, .error error => ledger.threw error
  | .markCompleted _ _, .error error => ledger.threw error
  | .attemptFailure _ _ _ _, _ => { ledger with failedAttempt := true }
  | .scheduleRetry _ _ _, _ => { ledger with retried := true }
  | _, _ => ledger

/-- The ledger of a trace. -/
def ofTrace (trace : List (Answered WorkerSignature Thrown)) : Ledger :=
  notes (S := WorkerSignature) enter {} trace

/-- A success is kept: no retry, no failed attempt, and at most one outcome reported. -/
def KeepsSuccess (ledger : Ledger) : Prop :=
  ledger.retried = false ∧ ledger.failedAttempt = false ∧ ledger.reports ≤ 1

end Ledger

/-- The observer's contract. -/
def ledgerContract : Contract WorkerSignature Thrown Ledger :=
  Contract.observing (S := WorkerSignature) TellsTime Ledger.enter

section
variable {ledger : Ledger}

@[simp] theorem meets_await_ledger {call : WorkerCall}
    {post : Settled Thrown call.Result → Ledger → Prop}
    : Program.Meets (α := no_index call.Result) ledgerContract (await call) ledger post
      ↔ (∀ error,
          TellsTime call (.error error)
          → post (.error error) (ledger.enter call (.error error)))
        ∧ ∀ value,
            TellsTime call (.ok value) → post (.ok value) (ledger.enter call (.ok value)) :=
  Program.meets_perform_observing

@[simp] theorem meets_awaitExternal_ledger {call : ExternalCall}
    {post : Settled Thrown call.Result → Ledger → Prop}
    : Program.Meets (α := no_index call.Result) ledgerContract (awaitExternal call) ledger
        post
      ↔ (∀ error, post (.error error) (ledger.enter (.external call) (.error error)))
        ∧ ∀ value, post (.ok value) (ledger.enter (.external call) (.ok value)) := by
  refine Program.meets_perform_observing.trans ?_
  simp only [TellsTime, true_implies]

end

namespace DeliveryExecutor

variable (config : ExecutorConfig) (start : Int) (deliveryId : String) (breaker : Bool)

attribute [local simp] Ledger.enter

/-- The `catch` block transmits nothing. -/
theorem onError_succeeded (ledger : Ledger) (err : Thrown)
    : (onError start deliveryId breaker err).Meets ledgerContract ledger
        (fun _ after => after.succeeded = ledger.succeeded) := by
  simp [onError, elapsed, reportFailure, settleFailure]

/-- Neither does the bookkeeping of a failed response. -/
theorem onFailure_succeeded (ledger : Ledger) (latencyMs : Int) (res : Response)
    : (onFailure deliveryId breaker latencyMs res).Meets ledgerContract ledger
        (fun _ after => after.succeeded = ledger.succeeded) := by
  simp [onFailure, reportFailure, settleFailure]

/-- Nor that of a successful one. -/
theorem onSuccess_succeeded (ledger : Ledger) (latencyMs : Int) (res : Response)
    : (onSuccess deliveryId breaker latencyMs res).Meets ledgerContract ledger
        (fun _ after => after.succeeded = ledger.succeeded) := by
  simp [onSuccess, reportSuccess, Ledger.threw]

/-- The obligation of a run: once it has transmitted successfully, it keeps the success
exactly if nothing upset it.
-/
def SuccessSettled (ledger : Ledger) : Prop :=
  ledger.succeeded = true → (ledger.KeepsSuccess ↔ ledger.upset = false)

theorem SuccessSettled.of_unsuccessful {ledger : Ledger} (failed : ledger.succeeded = false)
    : SuccessSettled ledger :=
  fun succeeded => absurd succeeded (Bool.eq_false_iff.mp failed)

/-- Before a successful transmission the `catch` block owes nothing. -/
theorem onError_unsuccessful {ledger : Ledger} (failed : ledger.succeeded = false)
    (err : Thrown)
    : (onError start deliveryId breaker err).Meets ledgerContract ledger
        (fun _ after => SuccessSettled after) := by
  refine (onError_succeeded start deliveryId breaker ledger err).mono ?_
  intro outcome after kept
  exact .of_unsuccessful (kept.trans failed)

/-- What the body of the `try` block owes: an exception is handed to the `catch` block. -/
def CaughtSettled {α : Type} (outcome : Settled Thrown α) (ledger : Ledger) : Prop :=
  match outcome with
  | .ok _ => SuccessSettled ledger
  | .error err =>
      (onError start deliveryId breaker err).Meets ledgerContract ledger
        (fun _ after => SuccessSettled after)

/-- Before a successful transmission nothing is owed. -/
theorem CaughtSettled.of_unsuccessful {α : Type} {outcome : Settled Thrown α}
    {ledger : Ledger} (failed : ledger.succeeded = false)
    : CaughtSettled start deliveryId breaker outcome ledger := by
  cases outcome with
  | ok value => exact SuccessSettled.of_unsuccessful failed
  | error err => exact onError_unsuccessful start deliveryId breaker failed err

/-- The bookkeeping after a successful transmission, by running every way it can throw. -/
theorem onSuccess_settled (latencyMs : Int) (res : Response)
    : (onSuccess deliveryId breaker latencyMs res).Meets ledgerContract
        { breaker := breaker, succeeded := true }
        (CaughtSettled start deliveryId breaker) := by
  cases breaker with
  | false =>
      simp +contextual [onSuccess, reportSuccess, CaughtSettled, SuccessSettled, onError,
        elapsed, reportFailure, settleFailure, TellsTime, Ledger.threw,
        Ledger.KeepsSuccess]
  | true =>
      simp [onSuccess, reportSuccess, CaughtSettled, SuccessSettled, onError, elapsed,
        reportFailure, settleFailure, TellsTime, Ledger.threw,
        Ledger.KeepsSuccess]

/-- Reading the clock succeeds and is not noted. -/
theorem elapsed_ledger (ledger : Ledger)
    : (elapsed start).Meets ledgerContract ledger
        (fun outcome after => (∃ latencyMs, outcome = .ok latencyMs) ∧ after = ledger) := by
  simp [elapsed, TellsTime]

/-- Loading the payload is not noted. -/
theorem loadPayload_ledger (ledger : Ledger) (delivery : LoadedDelivery)
    : (loadPayload config delivery).Meets ledgerContract ledger
        (fun _ after => after = ledger) := by
  simp [loadPayload]

/-- Of a transmission only the success of a connector is noted. -/
theorem transmit_ledger (connector : Bool) (payload : Value) (timeoutMs : Int)
    : (transmit connector payload timeoutMs).Meets ledgerContract { breaker := breaker }
        (fun outcome after =>
          match outcome with
          | .ok (some res) =>
              after = { breaker := breaker, succeeded := connector && res.success }
          | _ => after = { breaker := breaker }) := by
  cases connector with
  | false => simp [transmit]
  | true =>
      simp only [transmit, if_true, meets_awaitExternal_ledger, Ledger.enter, true_and,
        implies_true]
      rintro (_ | res)
      · rfl
      · simp

/-- The body of the `try` block, from a ledger that notes no more than a breaker. -/
theorem deliver_settled (delivery : LoadedDelivery) (destination : Option Destination)
    : (deliver config start deliveryId delivery destination breaker).Meets ledgerContract
        { breaker := breaker } (CaughtSettled start deliveryId breaker) := by
  have quiet
      : ∀ {α : Type} (outcome : Settled Thrown α),
          CaughtSettled start deliveryId breaker outcome { breaker := breaker } :=
    fun _ => .of_unsuccessful start deliveryId breaker rfl
  simp only [deliver, Program.bind_eq, Program.meets_bind, meets_awaitExternal_ledger,
    Ledger.enter]
  refine ⟨fun error => quiet (.error error), fun connector => ?_⟩
  refine (loadPayload_ledger config _ delivery).mono ?_
  rintro (error | payload) _ rfl
  · exact quiet (.error error)
  · refine (transmit_ledger breaker connector payload _).mono ?_
    rintro (error | _ | res) after transmitted
    · subst transmitted
      exact quiet (.error error)
    · subst transmitted
      refine (elapsed_ledger start _).mono ?_
      rintro _ _ ⟨⟨latencyMs, rfl⟩, rfl⟩
      exact quiet (.error _)
    · subst transmitted
      refine (elapsed_ledger start _).mono ?_
      rintro _ _ ⟨⟨latencyMs, rfl⟩, rfl⟩
      simp only [Program.meets_ite]
      refine ⟨fun success => ?_, fun failure => ?_⟩
      · cases connector with
        | true =>
            simp only [success, Bool.and_true]
            exact onSuccess_settled start deliveryId breaker latencyMs res
        | false =>
            -- without a connector nothing was transmitted
            refine (onSuccess_succeeded deliveryId breaker _ latencyMs res).mono ?_
            intro outcome after kept
            exact .of_unsuccessful start deliveryId breaker kept
      · have unsuccessful : (connector && res.success) = false := by
          simp [failure]
        refine (onFailure_succeeded deliveryId breaker _ latencyMs res).mono ?_
        intro outcome after kept
        exact .of_unsuccessful start deliveryId breaker (kept.trans unsuccessful)

/-- Giving the ticket back is not noted and does not throw. -/
theorem releaseTicket_ledger (ledger : Ledger) (poolName : String) (ticketId : Option String)
    : (releaseTicket config poolName ticketId).Meets ledgerContract ledger
        (fun outcome after => outcome = .ok () ∧ after = ledger) := by
  unfold releaseTicket
  split
  · simp
  · simp

/-- The protected execution, from a ledger that notes no more than a breaker. -/
theorem protect_settled (delivery : LoadedDelivery) (destination : Option Destination)
    : (protect config start deliveryId delivery destination breaker).Meets ledgerContract
        { breaker := breaker } (fun _ after => SuccessSettled after) := by
  have handled := onError_unsuccessful start deliveryId breaker
    (rfl : ({ breaker := breaker } : Ledger).succeeded = false)
  have delivered
      : ∀ ticketId,
          ((tryCatch (deliver config start deliveryId delivery destination breaker)
              (onError start deliveryId breaker)).finallyRun
            (releaseTicket config (toLowerCase (destinationType destination))
              ticketId)).Meets ledgerContract { breaker := breaker }
            (fun _ after => SuccessSettled after) := by
    intro ticketId
    refine Program.Meets.finallyRun ?_
      (fun ledger => releaseTicket_ledger config ledger _ ticketId)
    rw [Program.tryCatch_eq, Program.meets_catchError]
    refine (deliver_settled config start deliveryId breaker delivery destination).mono ?_
    rintro (err | result) after settled
    · exact settled
    · exact settled
  simp only [protect, Program.bind_eq, Program.pure_eq, Program.meets_bind, Program.meets_ite,
    Program.meets_settle, Program.meets_done, meets_awaitExternal_ledger, Ledger.enter]
  exact ⟨fun _ => ⟨handled, delivered⟩, fun _ => delivered none⟩

/-- The breaker check and what follows, from an empty ledger. -/
theorem guardedDelivery_settled (destId : String) (delivery : LoadedDelivery)
    (destination : Option Destination)
    : (guardedDelivery config start deliveryId destId delivery destination).Meets
        ledgerContract {} (fun _ after => SuccessSettled after) := by
  have delivered
      : ∀ breaker,
          (protect config start deliveryId delivery destination breaker).Meets
            ledgerContract { breaker := breaker } (fun _ after => SuccessSettled after) :=
    fun breaker => protect_settled config start deliveryId breaker delivery destination
  have stopped : ∀ breaker, SuccessSettled { breaker := breaker } :=
    fun _ => .of_unsuccessful rfl
  simp only [guardedDelivery, Program.bind_eq, Program.meets_ite, Program.meets_bind,
    meets_awaitExternal_ledger]
  refine ⟨fun _ => ⟨fun error => stopped false, fun breaker => ?_⟩, fun _ => delivered false⟩
  have noted
      : Ledger.enter {} (.external (.getBreaker destId)) (.ok breaker)
        = { breaker := breaker } := by
    cases breaker <;> rfl
  rw [noted]
  refine ⟨fun error => stopped breaker, fun isCbOpen => ⟨fun _ => ?_, fun _ => ?_⟩⟩
  · simp only [aborted, Program.bind_eq, Program.meets_bind]
    refine (elapsed_ledger start _).mono ?_
    rintro _ _ ⟨⟨latencyMs, rfl⟩, rfl⟩
    exact stopped breaker
  · exact delivered breaker

/-- What precedes the breaker check is not noted. -/
theorem loadDelivery_ledger (ledger : Ledger) (deliveryOrId : DeliveryArgument)
    : (loadDelivery config deliveryOrId).Meets ledgerContract ledger
        (fun _ after => after = ledger) := by
  cases deliveryOrId <;> simp [loadDelivery, Ledger.enter]

theorem loadDestination_ledger (ledger : Ledger) (destinationArg : Option Destination)
    (destId : String)
    : (loadDestination config destinationArg destId).Meets ledgerContract ledger
        (fun _ after => after = ledger) := by
  cases destinationArg <;> simp [loadDestination, Ledger.enter]

theorem claim_ledger (ledger : Ledger) (deliveryId : String)
    : (claim config deliveryId).Meets ledgerContract ledger
        (fun _ after => after = ledger) := by
  simp [claim, Ledger.enter]

/-- A whole run under observation. -/
theorem executeWithResilience_settled (deliveryOrId : DeliveryArgument)
    (destinationArg : Option Destination)
    : (executeWithResilience config deliveryOrId destinationArg).Meets ledgerContract {}
        (fun _ after => SuccessSettled after) := by
  have nothing : SuccessSettled {} := .of_unsuccessful rfl
  simp only [executeWithResilience, Program.bind_eq, Program.meets_bind, meets_await_ledger,
    Ledger.enter]
  refine ⟨fun _ _ => nothing, fun start _ => ?_⟩
  refine (loadDelivery_ledger config {} deliveryOrId).mono ?_
  rintro (error | _ | delivery) _ rfl
  · exact nothing
  · simp only [notFound, Program.bind_eq, Program.meets_bind]
    refine (elapsed_ledger start _).mono ?_
    rintro _ _ ⟨⟨latencyMs, rfl⟩, rfl⟩
    exact nothing
  · simp only [Program.meets_bind]
    refine (loadDestination_ledger config {} destinationArg _).mono ?_
    rintro (error | destination) _ rfl
    · exact nothing
    · refine (claim_ledger config {} _).mono ?_
      rintro (error | _) _ rfl
      · exact nothing
      · exact guardedDelivery_settled config start _ _ delivery destination

/-- In every run whose connector returned a successful response, whatever the collaborators
answer, the success is kept exactly if no step of the bookkeeping threw, leaving aside a
nullish exception where there is no breaker.
-/
theorem executeWithResilience_keeps_success {σ : Type}
    (handler : Handler WorkerSignature Thrown σ)
    (clock : ∀ world, ∃ time, (handler .now world).1 = .ok time)
    (deliveryOrId : DeliveryArgument) (destinationArg : Option Destination) (world : σ)
    (succeeded
      : (Ledger.ofTrace ((executeWithResilience config deliveryOrId destinationArg).trace
          handler world)).succeeded = true)
    : (Ledger.ofTrace ((executeWithResilience config deliveryOrId destinationArg).trace
          handler world)).KeepsSuccess
      ↔ (Ledger.ofTrace ((executeWithResilience config deliveryOrId destinationArg).trace
          handler world)).upset = false := by
  have admitted : ∀ call world, TellsTime call (handler call world).1 := by
    intro call world
    cases call with
    | now => exact clock world
    | _ => trivial
  have settled
      : SuccessSettled
          (Ledger.ofTrace ((executeWithResilience config deliveryOrId destinationArg).trace
            handler world)) :=
    (executeWithResilience_settled config deliveryOrId destinationArg).observed admitted
  exact settled succeeded

end DeliveryExecutor

/-- Collaborators that transmit successfully, and a state machine whose `markCompleted`
settles as given.
-/
def transmittingWorker (completed : Settled Thrown Unit) : Handler WorkerSignature Thrown Unit :=
  fun call _ =>
    (match call with
      | .now => .ok 0
      | .findDelivery id =>
          .ok (some { id := id, taskResultId := "task-result", destinationId := "destination" })
      | .external (.createConnector _) => .ok true
      | .external (.execute _ _) =>
          .ok (some {
            success := true
            statusCode := some 200
            error := .nullish
            message := none
            response := .undefined
          })
      | .external _ => .error (newError "not available")
      | .markProcessing _ => .ok ()
      | .markCompleted _ _ => completed
      | .scheduleRetry _ _ _ => .ok ()
      | .moveToDeadLetterQueue _ _ => .ok ()
      | .attemptSuccess _ _ _ => .ok ()
      | .attemptFailure _ _ _ _ => .ok (),
    ())

/-- A transmission whose bookkeeping succeeds is kept. -/
theorem executeWithResilience_keeps_success_bare
    : (Ledger.ofTrace ((DeliveryExecutor.executeWithResilience .bare (.id "delivery")).trace
        (transmittingWorker (.ok ())) ())).KeepsSuccess :=
  (DeliveryExecutor.executeWithResilience_keeps_success .bare (transmittingWorker (.ok ()))
    (fun _ => ⟨0, rfl⟩) (.id "delivery") none () rfl).mpr rfl

/-- When the database fails while the delivery is marked COMPLETED, the transmitted
delivery is recorded as a failed attempt and scheduled for a retry.
-/
theorem executeWithResilience_retries_success
    : (Ledger.ofTrace ((DeliveryExecutor.executeWithResilience .bare (.id "delivery")).trace
        (transmittingWorker (.error (.error (internalError true "connection lost"))))
        ())).succeeded = true
      ∧ ¬(Ledger.ofTrace ((DeliveryExecutor.executeWithResilience .bare
            (.id "delivery")).trace
            (transmittingWorker (.error (.error (internalError true "connection lost"))))
            ())).KeepsSuccess := by
  refine ⟨rfl, ?_⟩
  intro kept
  have retried : true = false := kept.1
  exact nomatch retried

end QueueForge.Worker
