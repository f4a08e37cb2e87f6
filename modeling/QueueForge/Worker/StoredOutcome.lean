import QueueForge.Worker.RunContract
import QueueForge.Worker.Wiring

/-! The stored status a run leaves behind, over any store whose calls do not fail.
A run that returns after its breaker check has stored an outcome on every path; a run that
stops at an open breaker has only claimed the delivery.
-/

namespace QueueForge.Worker

open QueueForge.Async QueueForge.Js QueueForge.Domain QueueForge.Infrastructure

namespace DeliveryExecutor

variable (config : ExecutorConfig) (start : Int) (breaker : Bool) (id : String)
  (writes : DeliveryStatus → Bool)

/-- What the protected execution owes: it does not consult the breaker again, and it
returns only once an outcome is stored. After a failure that is not retried a store without
dead letters is left with a scheduled retry.
-/
def Ends {α : Type} (opened : Bool) (outcome : Settled Thrown α) (run : RunState) : Prop :=
  run.opened = opened
  ∧ ∀ result,
      outcome = .ok result
      → run.status.isOutcome = true
        ∧ (run.failed = true → writes .failedDlq = false → run.status = .scheduledRetry)

theorem Ends.of_error {α : Type} {writes : DeliveryStatus → Bool} {run : RunState}
    (error : Thrown)
    : Ends writes run.opened (.error error : Settled Thrown α) run := by
  refine ⟨rfl, ?_⟩
  intro result impossible
  exact nomatch impossible

/-- A settled failure is stored as a retry, or as a dead letter where these are written.
-/
theorem settleFailure_ends (run : RunState) (error : Thrown) (retryable : Bool)
    : (settleFailure id error retryable).Meets (runContract id writes) run
        (Ends writes run.opened) := by
  cases retryable with
  | true =>
      simp only [settleFailure, if_true, meets_scheduleRetry_run, true_and, Moves]
      split
      · split
        · refine ⟨rfl, fun _ _ => ⟨rfl, fun _ _ => rfl⟩⟩
        · exact fun error _ => .of_error _
      · exact .of_error _
  | false =>
      simp only [settleFailure, Bool.false_eq_true, if_false,
        meets_moveToDeadLetterQueue_run, true_and, Moves]
      split
      · split
        · rename_i written
          refine ⟨rfl, fun _ _ => ⟨rfl, ?_⟩⟩
          intro _ unwritten
          exact absurd (written.symm.trans unwritten) Bool.noConfusion
        · exact fun error _ => .of_error _
      · exact .of_error _

/-- Reports to the breaker and clock readings are not noted. -/
theorem reportFailure_run (run : RunState) (error : Thrown)
    : (reportFailure breaker error).Meets (runContract id writes) run
        (fun _ after => after = run) := by
  simp [reportFailure, RunState.note, reportsOpen, failsForGood]

theorem reportSuccess_run (run : RunState)
    : (reportSuccess breaker).Meets (runContract id writes) run
        (fun _ after => after = run) := by
  simp [reportSuccess, RunState.note, reportsOpen, failsForGood]

theorem elapsed_run (run : RunState)
    : (elapsed start).Meets (runContract id writes) run (fun _ after => after = run) := by
  simp [elapsed]

/-- The `catch` block returns only with a settled failure. -/
theorem onError_ends (run : RunState) (err : Thrown)
    : (onError start id breaker err).Meets (runContract id writes) run
        (Ends writes run.opened) := by
  have settled := settleFailure_ends id writes run err
    (ErrorClassifier.classify err).retryable
  simp only [onError, Program.bind_eq, Program.meets_bind]
  refine (elapsed_run start id writes run).mono ?_
  intro read after unchanged
  subst unchanged
  rcases read with error | latencyMs
  · exact .of_error error
  · refine (reportFailure_run breaker id writes after err).mono ?_
    intro reported after' unchanged
    subst unchanged
    rcases reported with error | _
    · exact .of_error error
    · simp only [Program.meets_ite, Program.throw_eq, Program.meets_fail, Program.meets_bind,
        meets_attemptFailure_run]
      refine ⟨fun _ => .of_error _, fun _ => ⟨fun error => .of_error error, fun _ => ?_⟩⟩
      refine settled.mono ?_
      intro stored final ends
      rcases stored with error | _
      · exact ⟨ends.1, fun result impossible => (by cases impossible)⟩
      · exact ⟨ends.1, fun _ _ => ends.2 () rfl⟩

/-- So does the bookkeeping of an unsuccessful response. -/
theorem onFailure_ends (run : RunState) (latencyMs : Int) (res : Response)
    : (onFailure id breaker latencyMs res).Meets (runContract id writes) run
        (Ends writes run.opened) := by
  have settled := settleFailure_ends id writes run (responseError res)
    (ErrorClassifier.classify (responseError res) res.statusCode).retryable
  simp only [onFailure, Program.bind_eq, Program.meets_bind]
  refine (reportFailure_run breaker id writes run _).mono ?_
  intro reported after unchanged
  subst unchanged
  rcases reported with error | _
  · exact .of_error error
  · simp only [meets_attemptFailure_run]
    refine ⟨fun error => .of_error error, fun _ => ?_⟩
    refine settled.mono ?_
    intro stored final ends
    rcases stored with error | _
    · exact ⟨ends.1, fun result impossible => (by cases impossible)⟩
    · exact ⟨ends.1, fun _ _ => ends.2 () rfl⟩

/-- The bookkeeping of a successful response returns only once it is stored as COMPLETED.
-/
theorem onSuccess_ends {run : RunState} (flawless : run.failed = false) (latencyMs : Int)
    (res : Response)
    : (onSuccess id breaker latencyMs res).Meets (runContract id writes) run
        (Ends writes run.opened) := by
  simp only [onSuccess, Program.bind_eq, Program.meets_bind]
  refine (reportSuccess_run breaker id writes run).mono ?_
  intro reported after unchanged
  subst unchanged
  rcases reported with error | _
  · exact .of_error error
  · simp only [meets_attemptSuccess_run, meets_markCompleted_run, true_and, Moves]
    refine ⟨fun error => .of_error error, fun _ => ?_⟩
    split
    · split
      · refine ⟨rfl, fun _ _ => ⟨rfl, ?_⟩⟩
        intro failed
        exact absurd (failed.symm.trans flawless) Bool.noConfusion
      · exact fun error _ => .of_error _
    · exact .of_error _

/-- A failed lookup of the payload may be a failure that is not retried. -/
theorem loadPayload_run (run : RunState) (delivery : LoadedDelivery)
    : (loadPayload config delivery).Meets (runContract id writes) run
        (fun outcome after =>
          after.opened = run.opened ∧ ((∃ payload, outcome = .ok payload) → after = run)) := by
  simp [loadPayload, RunState.note, reportsOpen, failsForGood]

/-- A successful transmission is no failure. -/
theorem transmit_run {run : RunState} (flawless : run.failed = false) (connector : Bool)
    (payload : Value) (timeoutMs : Int)
    : (transmit connector payload timeoutMs).Meets (runContract id writes) run
        (fun outcome after =>
          after.opened = run.opened
          ∧ ∀ res, outcome = .ok (some res) → res.success = true → after.failed = false) := by
  cases connector with
  | false => simp [transmit, flawless]
  | true =>
      simp only [transmit, if_true, meets_external_run]
      refine ⟨fun error => ⟨?_, fun res impossible => (by cases impossible)⟩, fun answer => ?_⟩
      · simp [RunState.note, reportsOpen]
      · refine ⟨by simp [RunState.note, reportsOpen], ?_⟩
        intro res answered success
        obtain rfl : answer = some res := Except.ok.inj answered
        simp [RunState.note, failsForGood, flawless, success]

/-- The body of the `try` block, from a run that has not failed yet. -/
theorem deliver_ends {run : RunState} (flawless : run.failed = false)
    (delivery : LoadedDelivery) (destination : Option Infrastructure.Destination)
    : (deliver config start id delivery destination breaker).Meets (runContract id writes) run
        (Ends writes run.opened) := by
  simp only [deliver, Program.bind_eq, Program.meets_bind, meets_external_run]
  refine ⟨fun error => ⟨?_, fun _ impossible => (by cases impossible)⟩, fun connector => ?_⟩
  · simp [RunState.note, reportsOpen]
  · have unnoted : run.note (.createConnector destination) (.ok connector) = run := by
      simp [RunState.note, reportsOpen, failsForGood]
    rw [unnoted]
    refine (loadPayload_run config id writes run delivery).mono ?_
    intro loaded after kept
    rcases loaded with error | payload
    · exact ⟨kept.1, fun _ impossible => (by cases impossible)⟩
    · obtain rfl := kept.2 ⟨payload, rfl⟩
      refine (transmit_run id writes flawless connector payload _).mono ?_
      intro transmitted sent noted
      rcases transmitted with error | res
      · exact ⟨noted.1, fun _ impossible => (by cases impossible)⟩
      · refine (elapsed_run start id writes sent).mono ?_
        intro read after' unchanged
        subst unchanged
        rw [← noted.1]
        rcases read with error | latencyMs
        · exact .of_error error
        · rcases res with _ | res
          · exact .of_error _
          · simp only [Program.meets_ite]
            refine ⟨fun success => ?_, fun _ => ?_⟩
            · exact onSuccess_ends breaker id writes (noted.2 res rfl success) latencyMs res
            · exact onFailure_ends breaker id writes after' latencyMs res

/-- Giving the ticket back is not noted and does not throw. -/
theorem releaseTicket_run (run : RunState) (poolName : String) (ticketId : Option String)
    : (releaseTicket config poolName ticketId).Meets (runContract id writes) run
        (fun outcome after => outcome = .ok () ∧ after = run) := by
  unfold releaseTicket
  split
  · simp [RunState.note, reportsOpen, failsForGood]
  · simp

/-- The protected execution, from a run that has not failed yet. -/
theorem protect_ends {run : RunState} (flawless : run.failed = false)
    (delivery : LoadedDelivery) (destination : Option Infrastructure.Destination)
    : (protect config start id delivery destination breaker).Meets (runContract id writes) run
        (Ends writes run.opened) := by
  have delivered
      : ∀ ticketId,
          ((tryCatch (deliver config start id delivery destination breaker)
              (onError start id breaker)).finallyRun
            (releaseTicket config (toLowerCase (destinationType destination))
              ticketId)).Meets (runContract id writes) run (Ends writes run.opened) := by
    intro ticketId
    refine Program.Meets.finallyRun ?_
      (fun run => releaseTicket_run config id writes run _ ticketId)
    rw [Program.tryCatch_eq, Program.meets_catchError]
    refine (deliver_ends config start breaker id writes flawless delivery destination).mono ?_
    intro attempted after ends
    rcases attempted with err | result
    · rw [← ends.1]
      exact onError_ends start breaker id writes after err
    · exact ends
  simp only [protect, Program.bind_eq, Program.pure_eq, Program.meets_bind, Program.meets_ite,
    Program.meets_settle, Program.meets_done, meets_external_run]
  refine ⟨fun _ => ⟨fun err => ?_, fun ticketId => ?_⟩, fun _ => delivered none⟩
  · have unopened
        : (run.note (.acquire (toLowerCase (destinationType destination)))
            (.error err)).opened = run.opened := by
      simp [RunState.note, reportsOpen]
    rw [← unopened]
    exact onError_ends start breaker id writes _ err
  · have unnoted
        : run.note (.acquire (toLowerCase (destinationType destination))) (.ok ticketId)
          = run := by
      simp [RunState.note, reportsOpen, failsForGood]
    rw [unnoted]
    exact delivered ticketId

/-- What a run owes that started on a delivery in status `found`: a run that returns without
an open breaker has stored an outcome, and one that stops there keeps its claim.
-/
def Left {α : Type} (found : DeliveryStatus) (outcome : Settled Thrown α) (run : RunState)
    : Prop :=
  ∀ result,
    outcome = .ok result
    → (run.opened = false
        → run.status.isOutcome = true
          ∧ (run.failed = true → writes .failedDlq = false → run.status = .scheduledRetry))
      ∧ (run.opened = true
        → run.failed = false
          ∧ (admitsTransition found .processing = true
            → writes .processing = true
            → run.status = .processing))

theorem Left.of_error {α : Type} {writes : DeliveryStatus → Bool} {found : DeliveryStatus}
    {run : RunState} (error : Thrown)
    : Left writes found (.error error : Settled Thrown α) run := by
  intro result impossible
  exact nomatch impossible

/-- The breaker check and what follows it, from a claimed delivery. -/
theorem guardedDelivery_left {run : RunState} {found : DeliveryStatus}
    (unopened : run.opened = false) (flawless : run.failed = false)
    (claimed
      : admitsTransition found .processing = true
        → writes .processing = true
        → run.status = .processing)
    (destId : String) (delivery : LoadedDelivery) (destination : Option Infrastructure.Destination)
    : (guardedDelivery config start id destId delivery destination).Meets
        (runContract id writes) run (Left writes found) := by
  have delivered
      : ∀ breaker,
          (protect config start id delivery destination breaker).Meets (runContract id writes)
            run (Left writes found) := by
    intro breaker
    refine (protect_ends config start breaker id writes flawless delivery destination).mono ?_
    intro outcome after ends result returned
    refine ⟨fun _ => ends.2 result returned, ?_⟩
    intro opened
    exact absurd (opened.symm.trans (ends.1.trans unopened)) Bool.noConfusion
  simp only [guardedDelivery, Program.bind_eq, Program.meets_ite, Program.meets_bind,
    meets_external_run]
  refine ⟨fun _ => ⟨fun error => .of_error error, fun breaker => ?_⟩, fun _ => delivered false⟩
  have unnoted : run.note (.getBreaker destId) (.ok breaker) = run := by
    simp [RunState.note, reportsOpen, failsForGood]
  rw [unnoted]
  refine ⟨fun error => .of_error error, fun isCbOpen => ⟨fun opened => ?_, fun closed => ?_⟩⟩
  · -- the run stops here, with the delivery claimed
    simp only [aborted, Program.bind_eq, Program.meets_bind]
    refine (elapsed_run start id writes _).mono ?_
    intro read after unchanged
    subst unchanged
    rcases read with error | latencyMs
    · exact .of_error error
    · have noted
          : run.note (.isOpen destId) (.ok isCbOpen) = { run with opened := true } := by
        simp [RunState.note, reportsOpen, failsForGood, opened]
      intro result _
      rw [noted]
      refine ⟨?_, fun _ => ⟨flawless, claimed⟩⟩
      intro impossible
      cases impossible
  · have noted : run.note (.isOpen destId) (.ok isCbOpen) = run := by
      simp [RunState.note, reportsOpen, failsForGood, closed]
    rw [noted]
    exact delivered breaker

/-- A claim moves the delivery to PROCESSING if the table admits that; a rejection is
swallowed.
-/
theorem claim_run (run : RunState)
    : (claim config id).Meets (runContract id writes) run
        (fun _ after =>
          after.opened = run.opened
          ∧ after.failed = run.failed
          ∧ (admitsTransition run.status .processing = true
            → writes .processing = true
            → after.status = .processing)) := by
  have swallowed
      : ∀ {error : Thrown} {after : RunState},
          after = run
          → ¬(admitsTransition run.status .processing = true ∧ writes .processing = true)
          → Program.Meets (runContract id writes)
              (if config.logger ∧ error = .nullish then
                throw (newTypeError "Cannot read properties of undefined (reading 'message')")
              else
                pure () : WorkerProgram Unit)
              after
              (fun _ after =>
                after.opened = run.opened
                ∧ after.failed = run.failed
                ∧ (admitsTransition run.status .processing = true
                  → writes .processing = true
                  → after.status = .processing)) := by
    intro error after unchanged kept
    subst unchanged
    rw [Program.meets_ite]
    refine ⟨fun _ => ⟨rfl, rfl, ?_⟩, fun _ => ⟨rfl, rfl, ?_⟩⟩
    · intro admitted written
      exact absurd ⟨admitted, written⟩ kept
    · intro admitted written
      exact absurd ⟨admitted, written⟩ kept
  rw [claim, Program.tryCatch_eq, Program.meets_catchError, meets_markProcessing_run]
  refine ⟨rfl, ?_⟩
  unfold Moves
  split
  · split
    · exact ⟨rfl, rfl, fun _ _ => rfl⟩
    · rename_i unwritten
      exact fun error _ => swallowed rfl (fun kept => unwritten kept.2)
  · rename_i rejected
    exact swallowed rfl (fun kept => rejected kept.1)

/-- The argument carries the delivery or names one the executor can look up. -/
def Loadable (deliveryOrId : DeliveryArgument) : Prop :=
  match deliveryOrId with
  | .entity _ => True
  | .id _ => config.deliveries = true

/-- The delivery an argument is about. -/
def argumentId : DeliveryArgument → String
  | .entity delivery => delivery.id
  | .id deliveryId => deliveryId

/-- A delivery found by its identifier is the one the run works on. -/
theorem identifier_found {deliveryId : String} {delivery : LoadedDelivery}
    (same : delivery.id = deliveryId)
    : identifier (.id deliveryId) delivery = deliveryId := by
  simp only [identifier]
  split
  · exact same
  · rfl

/-- A loadable argument is loaded. -/
theorem loadDelivery_run {deliveryOrId : DeliveryArgument}
    (named : argumentId deliveryOrId = id) (loadable : Loadable config deliveryOrId)
    (run : RunState)
    : (loadDelivery config deliveryOrId).Meets (runContract id writes) run
        (fun outcome after =>
          after = run
          ∧ ∃ delivery,
              outcome = .ok (some delivery) ∧ identifier deliveryOrId delivery = id) := by
  cases deliveryOrId with
  | entity delivery => exact ⟨rfl, delivery, rfl, named⟩
  | id deliveryId =>
      obtain rfl : deliveryId = id := named
      have configured : config.deliveries = true := loadable
      simp only [loadDelivery, configured, if_true, meets_findDelivery_run, true_and]
      intro delivery same
      exact ⟨delivery, rfl, identifier_found same⟩

theorem loadDestination_run (run : RunState) (destinationArg : Option Infrastructure.Destination)
    (destId : String)
    : (loadDestination config destinationArg destId).Meets (runContract id writes) run
        (fun _ after => after = run) := by
  cases destinationArg with
  | some destination => rfl
  | none => simp [loadDestination, RunState.note, reportsOpen, failsForGood]

/-- A whole run on a loadable argument. -/
theorem executeWithResilience_left {deliveryOrId : DeliveryArgument}
    (named : argumentId deliveryOrId = id) (loadable : Loadable config deliveryOrId)
    (destinationArg : Option Infrastructure.Destination) (found : DeliveryStatus)
    : (executeWithResilience config deliveryOrId destinationArg).Meets (runContract id writes)
        { status := found } (Left writes found) := by
  simp only [executeWithResilience, Program.bind_eq, Program.meets_bind, meets_now_run]
  refine ⟨fun error => .of_error error, fun start => ?_⟩
  refine (loadDelivery_run config id writes named loadable _).mono ?_
  intro loaded after found
  obtain ⟨rfl, delivery, rfl, identified⟩ := found
  simp only [Program.meets_bind, identified]
  refine (loadDestination_run config id writes _ destinationArg _).mono ?_
  intro looked after unchanged
  subst unchanged
  rcases looked with error | destination
  · exact .of_error error
  · refine (claim_run config id writes _).mono ?_
    intro claimed after kept
    obtain ⟨unopened, flawless, moved⟩ := kept
    rcases claimed with error | _
    · exact .of_error error
    · exact guardedDelivery_left config start id writes unopened flawless moved _ delivery
        destination

/-- A run that cannot load its delivery stops before it touches anything. -/
theorem executeWithResilience_unloaded {deliveryOrId : DeliveryArgument}
    (unloadable : ¬Loadable config deliveryOrId)
    (destinationArg : Option Infrastructure.Destination)
    (run : RunState)
    : (executeWithResilience config deliveryOrId destinationArg).Meets (runContract id writes)
        run (fun _ after => after = run) := by
  cases deliveryOrId with
  | entity delivery => exact absurd trivial unloadable
  | id deliveryId =>
      have missing : ¬config.deliveries = true := unloadable
      simp [executeWithResilience, loadDelivery, missing, notFound, elapsed]

end DeliveryExecutor

end QueueForge.Worker
