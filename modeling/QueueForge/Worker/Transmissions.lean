import QueueForge.Worker.StoredOutcome
import QueueForge.Worker.WiredRun

/-! How often a wired run transmits: once, unless an answer ends it before the connector.
The claim of the delivery plays no part in that, since its rejection is swallowed.
-/

namespace QueueForge.Worker

open QueueForge.Async QueueForge.Js QueueForge.Domain QueueForge.Infrastructure

/-- A call on no other delivery than `id` that neither transmits nor can end the run. -/
def Neutral (id : String) (call : WorkerCall) : Prop :=
  (∀ other ∈ call.about, other = id)
  ∧ transmits call = false
  ∧ ∀ result, stops call result = false

section
variable {id : String}

theorem Neutral.anywhere {call : WorkerCall} (about : call.about = none)
    (silent : transmits call = false) (runs : ∀ result, stops call result = false)
    : Neutral id call := by
  refine ⟨?_, silent, runs⟩
  intro other named
  rw [about] at named
  exact nomatch named

theorem Neutral.here {call : WorkerCall} (about : call.about = some id)
    (silent : transmits call = false) (runs : ∀ result, stops call result = false)
    : Neutral id call := by
  refine ⟨?_, silent, runs⟩
  intro other named
  rw [about] at named
  exact (Option.some.inj named).symm

theorem await_neutral {call : WorkerCall} (neutral : Neutral id call)
    : Program.Awaits (α := no_index call.Result) (ε := Thrown) (Neutral id) (await call) :=
  .perform neutral

theorem awaitExternal_neutral {call : ExternalCall} (neutral : Neutral id (.external call))
    : Program.Awaits (α := no_index call.Result) (ε := Thrown) (Neutral id)
        (awaitExternal call) :=
  .perform neutral

/-- A program of such calls neither transmits nor is stopped. -/
theorem neutral_run {α : Type} {program : WorkerProgram α} (h : program.Awaits (Neutral id))
    (run : WiredRun)
    : program.Meets (wiredContract id) run
        (fun _ after => after.sent = run.sent ∧ after.stopped = run.stopped) := by
  refine h.meets (fun _ call _ neutral => neutral.1) ?_ ⟨rfl, rfl⟩
  intro before call result after same neutral answered
  obtain ⟨_, sent, stopped⟩ := answered
  obtain ⟨_, silent, runs⟩ := neutral
  constructor
  · rw [sent, silent, same.1]
    rfl
  · rw [stopped, runs result, same.2, Bool.or_false]

namespace DeliveryExecutor

variable (config : ExecutorConfig) (start : Int) (breaker : Bool)

theorem elapsed_neutral : (elapsed start).Awaits (Neutral id) :=
  .bind (await_neutral (.anywhere rfl rfl (fun _ => rfl))) (fun _ => trivial)

theorem reportFailure_neutral (error : Thrown)
    : (reportFailure breaker error).Awaits (Neutral id) := by
  cases breaker with
  | true => exact awaitExternal_neutral (.anywhere rfl rfl (fun _ => rfl))
  | false => trivial

theorem reportSuccess_neutral : (reportSuccess breaker).Awaits (Neutral id) := by
  cases breaker with
  | true => exact awaitExternal_neutral (.anywhere rfl rfl (fun _ => rfl))
  | false => trivial

theorem settleFailure_neutral (error : Thrown) (retryable : Bool)
    : (settleFailure id error retryable).Awaits (Neutral id) := by
  cases retryable with
  | true => exact await_neutral (.here rfl rfl (fun _ => rfl))
  | false => exact await_neutral (.here rfl rfl (fun _ => rfl))

/-- The `catch` block is neutral. -/
theorem onError_neutral (err : Thrown)
    : (onError start id breaker err).Awaits (Neutral id) := by
  refine (elapsed_neutral start).bind (fun latencyMs => ?_)
  refine (reportFailure_neutral breaker err).bind (fun _ => ?_)
  split
  · trivial
  · refine .bind (await_neutral (.anywhere rfl rfl (fun _ => rfl))) (fun _ => ?_)
    exact (settleFailure_neutral err _).bind (fun _ => trivial)

/-- So is the bookkeeping of a response. -/
theorem onFailure_neutral (latencyMs : Int) (res : Response)
    : (onFailure id breaker latencyMs res).Awaits (Neutral id) := by
  refine (reportFailure_neutral breaker _).bind (fun _ => ?_)
  refine .bind (await_neutral (.anywhere rfl rfl (fun _ => rfl))) (fun _ => ?_)
  exact (settleFailure_neutral _ _).bind (fun _ => trivial)

theorem onSuccess_neutral (latencyMs : Int) (res : Response)
    : (onSuccess id breaker latencyMs res).Awaits (Neutral id) := by
  refine (reportSuccess_neutral breaker).bind (fun _ => ?_)
  refine .bind (await_neutral (.anywhere rfl rfl (fun _ => rfl))) (fun _ => ?_)
  exact .bind (await_neutral (.here rfl rfl (fun _ => rfl))) (fun _ => trivial)

theorem releaseTicket_neutral (poolName : String) (ticketId : Option String)
    : (releaseTicket config poolName ticketId).Awaits (Neutral id) := by
  unfold releaseTicket
  split
  · split
    · exact .catchError (awaitExternal_neutral (.anywhere rfl rfl (fun _ => rfl))) (fun _ => trivial)
    · trivial
  · trivial

theorem claim_neutral (id : String) : (claim config id).Awaits (Neutral id) := by
  refine Program.Awaits.catchError (await_neutral (.here rfl rfl (fun _ => rfl))) (fun error => ?_)
  split <;> trivial

end DeliveryExecutor

/-- A run whose transmission is settled: it was stopped, or it has transmitted. -/
def WiredRun.Decided (run : WiredRun) : Prop :=
  run.sent = if run.stopped then 0 else 1

/-- A run that has neither transmitted nor been stopped. -/
def WiredRun.Undecided (run : WiredRun) : Prop :=
  run.sent = 0 ∧ run.stopped = false

/-- A run that was stopped before it transmitted. -/
def WiredRun.Halted (run : WiredRun) : Prop :=
  run.sent = 0 ∧ run.stopped = true

theorem WiredRun.Halted.decided {run : WiredRun} (halted : run.Halted) : run.Decided := by
  rw [Decided, halted.1, halted.2]
  rfl

/-- Neutral programs decide nothing. -/
theorem WiredRun.Decided.neutral {α : Type} {program : WorkerProgram α} {run : WiredRun}
    (decided : run.Decided) (h : program.Awaits (Neutral id))
    : program.Meets (wiredContract id) run (fun _ after => after.Decided) := by
  refine (neutral_run h run).mono ?_
  intro _ after same
  rw [Decided, same.1, same.2]
  exact decided

theorem WiredRun.Undecided.neutral {α : Type} {program : WorkerProgram α} {run : WiredRun}
    (undecided : run.Undecided) (h : program.Awaits (Neutral id))
    : program.Meets (wiredContract id) run (fun _ after => after.Undecided) := by
  refine (neutral_run h run).mono ?_
  intro _ after same
  exact ⟨same.1.trans undecided.1, same.2.trans undecided.2⟩

/-- Any other call but a transmission halts the run if its answer stops it. -/
theorem WiredRun.Undecided.external {run : WiredRun} (undecided : run.Undecided)
    {call : ExternalCall} (silent : call.isTransmission = false)
    : Program.Meets (α := no_index call.Result) (wiredContract id) (awaitExternal call) run
        (fun outcome after =>
          if stops (.external call) outcome then after.Halted else after.Undecided) := by
  rw [meets_awaitExternal]
  refine ⟨nofun, ?_⟩
  intro result after answered
  obtain ⟨_, sent, stopped⟩ := answered
  have unsent : after.sent = 0 := by
    rw [sent, transmits, silent, undecided.1]
    rfl
  rw [undecided.2, Bool.false_or] at stopped
  split
  · rename_i stop
    exact ⟨unsent, stopped.trans stop⟩
  · rename_i runs
    exact ⟨unsent, stopped.trans (Bool.eq_false_iff.mpr runs)⟩

/-- A halted run stays so. -/
theorem WiredRun.Halted.external {run : WiredRun} (halted : run.Halted) {call : ExternalCall}
    (silent : call.isTransmission = false)
    : Program.Meets (α := no_index call.Result) (wiredContract id) (awaitExternal call) run
        (fun _ after => after.Halted) := by
  rw [meets_awaitExternal]
  refine ⟨nofun, ?_⟩
  intro result after answered
  obtain ⟨_, sent, stopped⟩ := answered
  constructor
  · rw [sent, transmits, silent, halted.1]
    rfl
  · rw [stopped, halted.2, Bool.true_or]

namespace DeliveryExecutor

variable (config : ExecutorConfig) (start : Int) (breaker : Bool)

/-- Before the transmission: the run goes on if it has a connector, and is halted if not. -/
def Ready (connector : Bool) (run : WiredRun) : Prop :=
  if connector then run.Undecided else run.Halted

theorem Ready.settled {connector : Bool} {run : WiredRun} (ready : Ready connector run)
    (unmade : connector = false)
    : run.Decided := by
  subst unmade
  exact WiredRun.Halted.decided ready

/-- Loading the payload keeps a run ready, or decides it by an exception. -/
theorem loadPayload_decides {run : WiredRun} {connector : Bool} (ready : Ready connector run)
    (delivery : LoadedDelivery)
    : (loadPayload config delivery).Meets (wiredContract id) run
        (fun outcome after =>
          match outcome with
          | .ok _ => Ready connector after
          | .error _ => after.Decided) := by
  have kept : ∀ error : Thrown, connector = false → run.Decided :=
    fun _ unmade => ready.settled unmade
  unfold loadPayload
  split
  · rw [Program.bind_eq, Program.meets_bind]
    cases connector with
    | true =>
        have undecided : run.Undecided := ready
        refine (undecided.external rfl).mono ?_
        intro outcome after decided
        cases outcome with
        | ok payload => exact decided
        | error error => exact decided.decided
    | false =>
        have halted : run.Halted := ready
        refine (halted.external rfl).mono ?_
        intro outcome after still
        cases outcome with
        | ok payload => exact still
        | error error => exact still.decided
  · exact ready

/-- With a connector the run transmits; without one it was stopped before. -/
theorem transmit_decides {run : WiredRun} {connector : Bool} (ready : Ready connector run)
    (payload : Value) (timeoutMs : Int)
    : (transmit connector payload timeoutMs).Meets (wiredContract id) run
        (fun _ after => after.Decided) := by
  cases connector with
  | false => exact ready.settled rfl
  | true =>
      have undecided : run.Undecided := ready
      simp only [transmit, if_true, meets_awaitExternal]
      refine ⟨(by rintro _ ⟨⟩), ?_⟩
      intro result after answered
      obtain ⟨_, sent, stopped⟩ := answered
      rw [WiredRun.Decided, sent, stopped, undecided.1, undecided.2]
      rfl

/-- The body of the `try` block decides the run. -/
theorem deliver_decides {run : WiredRun} (undecided : run.Undecided)
    (delivery : LoadedDelivery) (destination : Option Infrastructure.Destination)
    : (deliver config start id delivery destination breaker).Meets (wiredContract id) run
        (fun _ after => after.Decided) := by
  simp only [deliver, Program.bind_eq, Program.meets_bind]
  refine (undecided.external rfl).mono ?_
  intro made after decided
  rcases made with error | connector
  · exact WiredRun.Halted.decided decided
  · have ready : Ready connector after := by
      cases connector with
      | true => exact decided
      | false => exact decided
    refine (loadPayload_decides config ready delivery).mono ?_
    intro loaded after ready
    rcases loaded with error | payload
    · exact ready
    · refine (transmit_decides ready payload _).mono ?_
      intro transmitted after decided
      rcases transmitted with error | res
      · exact decided
      · refine (decided.neutral (elapsed_neutral start)).mono ?_
        intro read after decided
        rcases read with error | latencyMs
        · exact decided
        · rcases res with _ | res
          · exact decided
          · simp only [Program.meets_ite]
            constructor
            · intro _
              exact decided.neutral (onSuccess_neutral breaker latencyMs res)
            · intro _
              exact decided.neutral (onFailure_neutral breaker latencyMs res)

/-- The protected execution decides the run. -/
theorem protect_decides {run : WiredRun} (undecided : run.Undecided)
    (delivery : LoadedDelivery) (destination : Option Infrastructure.Destination)
    : (protect config start id delivery destination breaker).Meets (wiredContract id) run
        (fun _ after => after.Decided) := by
  have attempted
      : ∀ (run : WiredRun) (ticketId : Option String),
          run.Undecided
          → ((tryCatch (deliver config start id delivery destination breaker)
                (onError start id breaker)).finallyRun
              (releaseTicket config (toLowerCase (destinationType destination))
                ticketId)).Meets (wiredContract id) run (fun _ after => after.Decided) := by
    intro run ticketId undecided
    rw [Program.meets_finallyRun, Program.tryCatch_eq, Program.meets_catchError]
    refine (deliver_decides config start breaker undecided delivery destination).mono ?_
    intro outcome after decided
    have released
        : ∀ after : WiredRun,
            after.Decided
            → (releaseTicket config (toLowerCase (destinationType destination))
                ticketId).Meets (wiredContract id) after (fun _ final => final.Decided) :=
      fun after decided => decided.neutral (releaseTicket_neutral config _ ticketId)
    rcases outcome with err | result
    · refine (decided.neutral (onError_neutral start breaker err)).mono ?_
      intro handled after decided
      refine (released after decided).mono ?_
      intro cleaned final decided
      cases cleaned <;> exact decided
    · refine (released after decided).mono ?_
      intro cleaned final decided
      cases cleaned <;> exact decided
  simp only [protect, Program.bind_eq, Program.pure_eq, Program.meets_bind, Program.meets_ite,
    Program.meets_settle, Program.meets_done]
  constructor
  · intro _
    refine (undecided.external rfl).mono ?_
    intro acquired after decided
    rcases acquired with err | ticketId
    · exact (WiredRun.Halted.decided decided).neutral (onError_neutral start breaker err)
    · exact attempted after ticketId decided
  · intro _
    exact attempted run none undecided

/-- The breaker check decides the run, or what follows does. -/
theorem guardedDelivery_decides {run : WiredRun} (undecided : run.Undecided)
    (destId : String) (delivery : LoadedDelivery) (destination : Option Infrastructure.Destination)
    : (guardedDelivery config start id destId delivery destination).Meets (wiredContract id)
        run (fun _ after => after.Decided) := by
  simp only [guardedDelivery, Program.bind_eq, Program.meets_bind, Program.meets_ite]
  constructor
  · intro _
    refine (undecided.external rfl).mono ?_
    intro got after decided
    rcases got with error | breaker
    · exact WiredRun.Halted.decided decided
    · have undecided : after.Undecided := decided
      refine (undecided.external rfl).mono ?_
      intro told after decided
      rcases told with error | isCbOpen
      · exact WiredRun.Halted.decided decided
      · cases isCbOpen with
        | true =>
            refine ⟨fun _ => ?_, fun closed => absurd rfl closed⟩
            have halted : after.Halted := decided
            refine halted.decided.neutral ?_
            exact .bind (elapsed_neutral start) (fun _ => trivial)
        | false =>
            refine ⟨(fun isOpen => by cases isOpen), fun _ => ?_⟩
            exact protect_decides config start breaker decided delivery destination
  · intro _
    exact protect_decides config start false undecided delivery destination

/-- A claim returns: what rejects it is no nullish exception, so it can be logged. -/
theorem claim_returns {run : WiredRun} (undecided : run.Undecided)
    : (claim config id).Meets (wiredContract id) run
        (fun outcome after => outcome = .ok () ∧ after.Undecided) := by
  have neutral := undecided.neutral (claim_neutral config id)
  have returns
      : (claim config id).Meets (wiredContract id) run
          (fun outcome _ => outcome = .ok ()) := by
    rw [claim, Program.tryCatch_eq, Program.meets_catchError, meets_await]
    refine ⟨fun other same => (Option.some.inj same).symm, ?_⟩
    intro result after answered
    rcases answered.1 with ⟨⟨error, rfl, thrown⟩, _⟩ | ⟨⟨value, rfl⟩, _⟩
    · have logged : ¬(config.logger = true ∧ error = .nullish) := fun both => thrown both.2
      simp only [logged, if_false]
      rfl
    · rfl
  exact returns.and neutral

/-- A loadable argument is loaded, unless the lookup fails. -/
theorem loadDelivery_decides {deliveryOrId : DeliveryArgument}
    (named : argumentId deliveryOrId = id) (loadable : Loadable config deliveryOrId)
    {run : WiredRun} (undecided : run.Undecided)
    : (loadDelivery config deliveryOrId).Meets (wiredContract id) run
        (fun outcome after =>
          match outcome with
          | .ok loaded =>
              after.Undecided
              ∧ ∃ delivery, loaded = some delivery ∧ identifier deliveryOrId delivery = id
          | .error _ => after.Decided) := by
  cases deliveryOrId with
  | entity delivery => exact ⟨undecided, delivery, rfl, named⟩
  | id deliveryId =>
      obtain rfl : deliveryId = id := named
      have configured : config.deliveries = true := loadable
      simp only [loadDelivery, configured, if_true, meets_await]
      refine ⟨fun other same => (Option.some.inj same).symm, ?_⟩
      intro result after answered
      obtain ⟨⟨found, _⟩, sent, stopped⟩ := answered
      have unsent : after.sent = 0 := sent.trans undecided.1
      rw [undecided.2, Bool.false_or] at stopped
      rcases found with ⟨error, rfl⟩ | ⟨delivery, rfl, same⟩
      · exact WiredRun.Halted.decided ⟨unsent, stopped⟩
      · exact ⟨⟨unsent, stopped⟩, delivery, rfl, identifier_found same⟩

/-- A run whose argument is loadable transmits once, unless it is stopped. -/
theorem executeWithResilience_decides {deliveryOrId : DeliveryArgument}
    (named : argumentId deliveryOrId = id) (loadable : Loadable config deliveryOrId)
    (destinationArg : Option Infrastructure.Destination)
    {run : WiredRun} (undecided : run.Undecided)
    : (executeWithResilience config deliveryOrId destinationArg).Meets (wiredContract id) run
        (fun _ after => after.Decided) := by
  simp only [executeWithResilience, Program.bind_eq, Program.meets_bind, meets_await]
  refine ⟨nofun, ?_⟩
  intro started after answered
  obtain ⟨⟨⟨start, rfl⟩, _⟩, sent, stopped⟩ := answered
  have begun : after.Undecided := by
    constructor
    · exact sent.trans undecided.1
    · rw [stopped, undecided.2]
      rfl
  refine (loadDelivery_decides config named loadable begun).mono ?_
  intro loaded after loads
  rcases loaded with error | found
  · exact loads
  · obtain ⟨undecided, delivery, rfl, identified⟩ := loads
    simp only [Program.meets_bind, identified]
    have looked
        : (loadDestination config destinationArg
              (destinationId delivery destinationArg)).Meets (wiredContract id) after
            (fun outcome after =>
              match outcome with
              | .ok _ => after.Undecided
              | .error _ => after.Decided) := by
      cases destinationArg with
      | some destination => exact undecided
      | none =>
          simp only [loadDestination, Program.meets_ite]
          constructor
          · intro _
            refine (undecided.external rfl).mono ?_
            intro outcome after decided
            cases outcome with
            | ok destination => exact decided
            | error error => exact WiredRun.Halted.decided decided
          · intro _
            exact undecided
    refine looked.mono ?_
    intro outcome after decided
    rcases outcome with error | destination
    · exact decided
    · refine (claim_returns config decided).mono ?_
      intro claimed after returned
      obtain ⟨rfl, undecided⟩ := returned
      exact guardedDelivery_decides config start undecided _ delivery destination

/-- A run transmits nothing exactly if it cannot load its delivery or is stopped. -/
theorem executeWithResilience_sends (deliveryOrId : DeliveryArgument)
    (destinationArg : Option Infrastructure.Destination) (found : DeliveryStatus)
    : (executeWithResilience config deliveryOrId destinationArg).Meets
        (wiredContract (argumentId deliveryOrId)) { status := found }
        (fun _ after =>
          after.sent = 0 ↔ ¬Loadable config deliveryOrId ∨ after.stopped = true) := by
  by_cases loadable : Loadable config deliveryOrId
  · refine (executeWithResilience_decides config rfl loadable destinationArg
      ⟨rfl, rfl⟩).mono ?_
    intro _ after decided
    rw [decided]
    cases after.stopped with
    | true => exact iff_of_true rfl (.inr rfl)
    | false =>
        exact iff_of_false Nat.one_ne_zero (fun silent => silent.elim (· loadable) (by rintro ⟨⟩))
  · have silent
        : (executeWithResilience config deliveryOrId destinationArg).Awaits
            (Neutral (argumentId deliveryOrId)) := by
      cases deliveryOrId with
      | entity delivery => exact absurd trivial loadable
      | id deliveryId =>
          have missing : config.deliveries = false := Bool.eq_false_iff.mpr loadable
          rw [executeWithResilience, loadDelivery, missing]
          refine .bind (await_neutral (.anywhere rfl rfl (fun _ => rfl))) (fun start => ?_)
          have unfound
              : (notFound start (.id deliveryId)).Awaits
                  (Neutral (argumentId (.id deliveryId))) :=
            .bind (elapsed_neutral start) (fun _ => trivial)
          exact unfound
    refine (neutral_run silent _).mono ?_
    intro _ after same
    exact iff_of_true same.1 (.inl loadable)

end DeliveryExecutor

end

end QueueForge.Worker
