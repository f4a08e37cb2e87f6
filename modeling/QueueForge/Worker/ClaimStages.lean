import QueueForge.Worker.StoredOutcome
import QueueForge.Worker.WiredRun

/-! The stages of an executor run that shares its delivery with other processes.
These may change the delivery between any two calls, so a stage only remembers what the run
itself has read and written.
-/

namespace QueueForge.Worker

open QueueForge.Async QueueForge.Js QueueForge.Domain QueueForge.Infrastructure

/-- How far a run has come: `looking` before its claim, `holding` once it has written it,
`free` once its claim was turned down, which lets it run on without one, `spent` once it has
transmitted, and `done` once it has written an outcome.
-/
inductive Stage where
  | looking
  | holding
  | free
  | spent
  | done
deriving DecidableEq

namespace Stage

/-- The stages in which a run may still transmit. -/
def isReady : Stage → Bool
  | holding | free => true
  | _ => false

/-- The stages in which a run may still write an outcome. -/
def isActive : Stage → Bool
  | holding | free | spent => true
  | _ => false

/-- The stages in which a run may write its claim. -/
def mayClaim : Stage → Bool
  | looking | free => true
  | _ => false

theorem isActive_of_isReady {stage : Stage} (ready : stage.isReady = true)
    : stage.isActive = true := by
  cases stage <;> first | rfl | contradiction

end Stage

/-- The calls of a run, with the stages they are made in and lead to. -/
def stageContract (id : String) : Contract WorkerSignature Thrown Stage where
  allows stage call :=
    (∀ other ∈ call.about, other = id)
    ∧ match call with
      | .external call => call.isTransmission = true → stage.isReady = true
      | .findDelivery _ => stage.mayClaim = true
      | .markProcessing _ => stage.mayClaim = true
      | .markCompleted _ _ => stage.isActive = true
      | .scheduleRetry _ _ _ => stage.isActive = true
      | .moveToDeadLetterQueue _ _ => stage.isActive = true
      | _ => True
  answers stage call result after :=
    match call with
    | .now => (∃ time, result = .ok time) ∧ after = stage
    | .findDelivery _ =>
        ((∃ error, result = .error error)
          ∨ ∃ delivery, result = .ok (some delivery) ∧ delivery.id = id)
        ∧ after.mayClaim = true
    | .external call => after = if call.isTransmission then .spent else stage
    | .markProcessing _ =>
        (∀ error, result = .error error → error ≠ .nullish) ∧ after.isReady = true
    | .markCompleted _ _ => result = .ok () ∨ after = stage
    | .scheduleRetry _ _ _ => result = .ok () ∨ after = stage
    | .moveToDeadLetterQueue _ _ => result = .ok () ∨ after = stage
    | _ => after = stage

section
variable {id : String}

/-- A call that keeps the stage of a run. -/
def KeepsStage (call : WorkerCall) : Prop :=
  match call with
  | .now | .attemptSuccess _ _ _ | .attemptFailure _ _ _ _ => True
  | .external call => call.isTransmission = false
  | _ => False

theorem await_keepsStage {call : WorkerCall} (keeps : KeepsStage call)
    : Program.Awaits (α := no_index call.Result) (ε := Thrown) KeepsStage (await call) :=
  .perform keeps

theorem awaitExternal_keepsStage {call : ExternalCall} (silent : call.isTransmission = false)
    : Program.Awaits (α := no_index call.Result) (ε := Thrown) KeepsStage
        (awaitExternal call) :=
  .perform silent

/-- A program of such calls keeps the stage. -/
theorem keepsStage_run {α : Type} {program : WorkerProgram α}
    (h : program.Awaits KeepsStage) (stage : Stage)
    : program.Meets (stageContract id) stage (fun _ after => after = stage) := by
  refine h.meets ?_ ?_ rfl
  · intro before call _ keeps
    cases call with
    | now => exact ⟨nofun, trivial⟩
    | attemptSuccess deliveryId latencyMs response => exact ⟨nofun, trivial⟩
    | attemptFailure deliveryId latencyMs statusCode error => exact ⟨nofun, trivial⟩
    | external call =>
        refine ⟨nofun, ?_⟩
        intro transmission
        exact absurd (transmission.symm.trans keeps) Bool.noConfusion
    | _ => exact keeps.elim
  · intro before call result after same keeps answered
    subst same
    cases call with
    | now => exact answered.2
    | attemptSuccess deliveryId latencyMs response => exact answered
    | attemptFailure deliveryId latencyMs statusCode error => exact answered
    | external call =>
        have silent : call.isTransmission = false := keeps
        have kept : after = if call.isTransmission then .spent else before := answered
        rw [silent] at kept
        exact kept
    | _ => exact keeps.elim

/-- Sequencing after a program that keeps the stage. -/
theorem keepsStage_bind {α β : Type} {program : WorkerProgram β}
    {next : β → WorkerProgram α} {stage : Stage} {post : Settled Thrown α → Stage → Prop}
    (h : program.Awaits KeepsStage)
    (rest : ∀ value, (next value).Meets (stageContract id) stage post)
    (threw : ∀ error, post (.error error) stage)
    : (program.bind next).Meets (stageContract id) stage post := by
  rw [Program.meets_bind]
  refine (keepsStage_run h stage).mono ?_
  intro outcome after same
  subst same
  cases outcome with
  | ok value => exact rest value
  | error error => exact threw error

namespace DeliveryExecutor

variable (config : ExecutorConfig) (start : Int) (breaker : Bool)

theorem elapsed_keepsStage : (elapsed start).Awaits KeepsStage :=
  .bind (await_keepsStage trivial) (fun _ => trivial)

theorem reportFailure_keepsStage (error : Thrown)
    : (reportFailure breaker error).Awaits KeepsStage := by
  cases breaker with
  | true => exact awaitExternal_keepsStage rfl
  | false => trivial

theorem reportSuccess_keepsStage : (reportSuccess breaker).Awaits KeepsStage := by
  cases breaker with
  | true => exact awaitExternal_keepsStage rfl
  | false => trivial

theorem releaseTicket_keepsStage (poolName : String) (ticketId : Option String)
    : (releaseTicket config poolName ticketId).Awaits KeepsStage := by
  unfold releaseTicket
  split
  · split
    · exact .catchError (awaitExternal_keepsStage rfl) (fun _ => trivial)
    · trivial
  · trivial

theorem loadPayload_keepsStage (delivery : LoadedDelivery)
    : (loadPayload config delivery).Awaits KeepsStage := by
  unfold loadPayload
  split
  · exact .bind (awaitExternal_keepsStage rfl) (fun _ => trivial)
  · trivial

theorem loadDestination_keepsStage (destinationArg : Option Infrastructure.Destination)
    (destId : String)
    : (loadDestination config destinationArg destId).Awaits KeepsStage := by
  cases destinationArg with
  | some destination => trivial
  | none =>
      simp only [loadDestination]
      split
      · exact awaitExternal_keepsStage rfl
      · trivial

/-- What part of a run leaves if it throws: a run that may still write an outcome. -/
def StaysActive {α : Type} (outcome : Settled Thrown α) (stage : Stage) : Prop :=
  ∀ error, outcome = .error error → stage.isActive = true

theorem StaysActive.of_active {α : Type} {outcome : Settled Thrown α} {stage : Stage}
    (active : stage.isActive = true)
    : StaysActive outcome stage :=
  fun _ _ => active

theorem StaysActive.of_ok {α : Type} {value : α} {stage : Stage}
    : StaysActive (.ok value) stage :=
  fun _ isError => nomatch isError

/-- Settling a failure throws only as long as no outcome is written. -/
theorem settleFailure_active {stage : Stage} (active : stage.isActive = true)
    (error : Thrown) (retryable : Bool)
    : (settleFailure id error retryable).Meets (stageContract id) stage StaysActive := by
  have written
      : ∀ {result : Settled Thrown Unit} {after : Stage},
          result = .ok () ∨ after = stage → StaysActive result after := by
    intro result after answered
    rcases answered with rfl | rfl
    · exact .of_ok
    · exact .of_active active
  have about : ∀ other ∈ some id, other = id := fun other same => (Option.some.inj same).symm
  unfold settleFailure
  split
  · rw [meets_await]
    exact ⟨⟨about, active⟩, fun result after answered => written answered⟩
  · rw [meets_await]
    exact ⟨⟨about, active⟩, fun result after answered => written answered⟩

/-- The `catch` block, from a run that is active. -/
theorem onError_stages {stage : Stage} (active : stage.isActive = true) (err : Thrown)
    : (onError start id breaker err).Meets (stageContract id) stage (fun _ _ => True) := by
  refine keepsStage_bind (elapsed_keepsStage start) (fun latencyMs => ?_) (fun _ => trivial)
  refine keepsStage_bind (reportFailure_keepsStage breaker err) (fun _ => ?_)
    (fun _ => trivial)
  simp only [Program.meets_ite]
  refine ⟨fun _ => trivial, fun _ => ?_⟩
  refine keepsStage_bind (await_keepsStage trivial) (fun _ => ?_) (fun _ => trivial)
  rw [Program.bind_eq, Program.meets_bind]
  refine (settleFailure_active active err _).mono ?_
  intro outcome after _
  cases outcome <;> trivial

/-- The bookkeeping of a response throws only as long as no outcome is written. -/
theorem onFailure_active {stage : Stage} (active : stage.isActive = true) (latencyMs : Int)
    (res : Response)
    : (onFailure id breaker latencyMs res).Meets (stageContract id) stage StaysActive := by
  refine keepsStage_bind (reportFailure_keepsStage breaker _) (fun _ => ?_)
    (fun _ => .of_active active)
  refine keepsStage_bind (await_keepsStage trivial) (fun _ => ?_) (fun _ => .of_active active)
  rw [Program.bind_eq, Program.meets_bind]
  refine (settleFailure_active active _ _).mono ?_
  intro outcome after stays
  cases outcome with
  | ok value => exact .of_ok
  | error error => exact .of_active (stays error rfl)

theorem onSuccess_active {stage : Stage} (active : stage.isActive = true) (latencyMs : Int)
    (res : Response)
    : (onSuccess id breaker latencyMs res).Meets (stageContract id) stage StaysActive := by
  refine keepsStage_bind (reportSuccess_keepsStage breaker) (fun _ => ?_)
    (fun _ => .of_active active)
  refine keepsStage_bind (await_keepsStage trivial) (fun _ => ?_) (fun _ => .of_active active)
  rw [Program.bind_eq, Program.meets_bind, meets_await]
  refine ⟨⟨fun other same => (Option.some.inj same).symm, active⟩, ?_⟩
  intro result after answered
  rcases answered with rfl | rfl
  · exact .of_ok
  · cases result with
    | ok value => exact .of_ok
    | error error => exact .of_active active

/-- The body of the `try` block transmits once at most, and throws only as long as no outcome
is written.
-/
theorem deliver_active {stage : Stage} (ready : stage.isReady = true)
    (delivery : LoadedDelivery) (destination : Option Infrastructure.Destination)
    : (deliver config start id delivery destination breaker).Meets (stageContract id) stage
        StaysActive := by
  have active := Stage.isActive_of_isReady ready
  refine keepsStage_bind (awaitExternal_keepsStage rfl) (fun connector => ?_)
    (fun _ => .of_active active)
  refine keepsStage_bind (loadPayload_keepsStage config delivery) (fun payload => ?_)
    (fun _ => .of_active active)
  have transmitted
      : ∀ timeoutMs,
          (transmit connector payload timeoutMs).Meets (stageContract id) stage
            (fun _ after => after.isActive = true) := by
    intro timeoutMs
    cases connector with
    | false => exact active
    | true =>
        simp only [transmit, if_true, meets_awaitExternal]
        refine ⟨⟨(by rintro _ ⟨⟩), fun _ => ready⟩, ?_⟩
        intro result after answered
        obtain rfl : after = .spent := answered
        rfl
  rw [Program.bind_eq, Program.meets_bind]
  refine (transmitted _).mono ?_
  intro outcome after active
  cases outcome with
  | error error => exact .of_active active
  | ok res =>
      refine keepsStage_bind (elapsed_keepsStage start) (fun latencyMs => ?_)
        (fun _ => .of_active active)
      cases res with
      | none => exact .of_active active
      | some res =>
          simp only [Program.meets_ite]
          constructor
          · intro _
            exact onSuccess_active breaker active latencyMs res
          · intro _
            exact onFailure_active breaker active latencyMs res

/-- The protected execution, from a run that may still transmit. -/
theorem protect_stages {stage : Stage} (ready : stage.isReady = true)
    (delivery : LoadedDelivery) (destination : Option Infrastructure.Destination)
    : (protect config start id delivery destination breaker).Meets (stageContract id) stage
        (fun _ _ => True) := by
  have active := Stage.isActive_of_isReady ready
  have attempted
      : ∀ ticketId,
          ((tryCatch (deliver config start id delivery destination breaker)
              (onError start id breaker)).finallyRun
            (releaseTicket config (toLowerCase (destinationType destination))
              ticketId)).Meets (stageContract id) stage (fun _ _ => True) := by
    intro ticketId
    rw [Program.meets_finallyRun]
    have released
        : ∀ after : Stage,
            (releaseTicket config (toLowerCase (destinationType destination))
              ticketId).Meets (stageContract id) after (fun _ _ => True) := by
      intro after
      refine (keepsStage_run (releaseTicket_keepsStage config _ ticketId) after).mono ?_
      intro _ _ _
      trivial
    rw [Program.tryCatch_eq, Program.meets_catchError]
    refine (deliver_active config start breaker ready delivery destination).mono ?_
    intro outcome after stays
    cases outcome with
    | ok result =>
        refine (released after).mono ?_
        intro cleaned _ _
        cases cleaned <;> trivial
    | error err =>
        refine (onError_stages start breaker (stays err rfl) err).mono ?_
        intro handled final _
        refine (released final).mono ?_
        intro cleaned _ _
        cases cleaned <;> trivial
  simp only [protect, Program.bind_eq, Program.pure_eq, Program.meets_bind, Program.meets_ite,
    Program.meets_settle, Program.meets_done]
  constructor
  · intro _
    refine (keepsStage_run (awaitExternal_keepsStage rfl) stage).mono ?_
    intro acquired after same
    subst same
    cases acquired with
    | error err => exact onError_stages start breaker active err
    | ok ticketId => exact attempted ticketId
  · intro _
    exact attempted none

/-- The breaker check and what follows it. -/
theorem guardedDelivery_stages {stage : Stage} (ready : stage.isReady = true)
    (destId : String) (delivery : LoadedDelivery) (destination : Option Infrastructure.Destination)
    : (guardedDelivery config start id destId delivery destination).Meets (stageContract id)
        stage (fun _ _ => True) := by
  unfold guardedDelivery
  simp only [Program.meets_ite]
  constructor
  · intro _
    refine keepsStage_bind (awaitExternal_keepsStage rfl) (fun breaker => ?_) (fun _ => trivial)
    refine keepsStage_bind (awaitExternal_keepsStage rfl) (fun isCbOpen => ?_)
      (fun _ => trivial)
    simp only [Program.meets_ite]
    constructor
    · intro _
      exact keepsStage_bind (elapsed_keepsStage start) (fun _ => trivial) (fun _ => trivial)
    · intro _
      exact protect_stages config start breaker ready delivery destination
  · intro _
    exact protect_stages config start false ready delivery destination

/-- A claim returns in a stage that may transmit: what rejects it is no nullish exception,
so it can be logged.
-/
theorem claim_stages {stage : Stage} (mayClaim : stage.mayClaim = true)
    : (claim config id).Meets (stageContract id) stage
        (fun outcome after => outcome = .ok () ∧ after.isReady = true) := by
  rw [claim, Program.tryCatch_eq, Program.meets_catchError, meets_await]
  refine ⟨⟨fun other same => (Option.some.inj same).symm, mayClaim⟩, ?_⟩
  intro result after answered
  obtain ⟨thrown, ready⟩ := answered
  cases result with
  | ok value => exact ⟨rfl, ready⟩
  | error error =>
      have logged : ¬(config.logger = true ∧ error = .nullish) :=
        fun both => thrown error rfl both.2
      simp only [logged, if_false]
      exact ⟨rfl, ready⟩

/-- Loading the delivery leaves the claim to be made. -/
theorem loadDelivery_stages {stage : Stage} (mayClaim : stage.mayClaim = true)
    (deliveryOrId : DeliveryArgument)
    : (loadDelivery config deliveryOrId).Meets (stageContract (argumentId deliveryOrId)) stage
        (fun outcome after =>
          ∀ delivery,
            outcome = .ok (some delivery)
            → after.mayClaim = true
              ∧ identifier deliveryOrId delivery = argumentId deliveryOrId) := by
  cases deliveryOrId with
  | entity delivery =>
      intro loaded same
      obtain rfl := Option.some.inj (Except.ok.inj same)
      exact ⟨mayClaim, rfl⟩
  | id deliveryId =>
      simp only [loadDelivery, Program.meets_ite, meets_await]
      constructor
      · intro _
        refine ⟨⟨fun other same => (Option.some.inj same).symm, mayClaim⟩, ?_⟩
        intro result after answered delivery found
        obtain ⟨returned, mayClaim⟩ := answered
        rcases returned with ⟨error, rfl⟩ | ⟨loaded, rfl, same⟩
        · cases found
        · obtain rfl := Option.some.inj (Except.ok.inj found)
          exact ⟨mayClaim, identifier_found same⟩
      · intro _ delivery found
        cases found

/-- A whole run goes through its stages. -/
theorem executeWithResilience_stages (deliveryOrId : DeliveryArgument)
    (destinationArg : Option Infrastructure.Destination)
    : (executeWithResilience config deliveryOrId destinationArg).Meets
        (stageContract (argumentId deliveryOrId)) .looking (fun _ _ => True) := by
  refine keepsStage_bind (await_keepsStage trivial) (fun start => ?_) (fun _ => trivial)
  rw [Program.bind_eq, Program.meets_bind]
  refine (loadDelivery_stages config rfl deliveryOrId).mono ?_
  intro loaded after loads
  rcases loaded with error | _ | delivery
  · trivial
  · exact keepsStage_bind (elapsed_keepsStage start) (fun _ => trivial) (fun _ => trivial)
  · obtain ⟨mayClaim, identified⟩ := loads delivery rfl
    simp only [identified]
    refine keepsStage_bind (loadDestination_keepsStage config destinationArg _)
      (fun destination => ?_) (fun _ => trivial)
    rw [Program.bind_eq, Program.meets_bind]
    refine (claim_stages config mayClaim).mono ?_
    intro claimed final returned
    obtain ⟨rfl, ready⟩ := returned
    exact guardedDelivery_stages config start ready _ delivery destination

end DeliveryExecutor

end

end QueueForge.Worker
