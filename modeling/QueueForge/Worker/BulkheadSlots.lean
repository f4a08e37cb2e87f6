import QueueForge.Resilience.BulkheadManager
import QueueForge.Worker.DeliveryExecutor

/-! The slots a run takes of its bulkhead: each is given back, however the run ends.
An observer keeps the tickets handed out and those given back; only the acquisition and the
`finally` block of the protected execution touch either.
-/

namespace QueueForge.Worker

open QueueForge.Async QueueForge.Js QueueForge.Infrastructure
open QueueForge.Resilience (BulkheadManager.acquire BulkheadManager.ne_empty_of_acquire
  BulkheadSignature)

/-- A slot: the name of the bulkhead and the ticket. -/
abbrev Slot : Type := String × Option String

/-- The slot a call was given. -/
def slotAcquired : (call : WorkerCall) → Settled Thrown call.Result → Option Slot
  | .external (.acquire pool), .ok ticket => some (pool, ticket)
  | _, _ => none

/-- The slot a call gives back, whether that throws or not. -/
def slotReleased : WorkerCall → Option Slot
  | .external (.release pool ticket) => some (pool, some ticket)
  | _ => none

/-- The slots a run was given, newest first. -/
def acquiredSlots (trace : List (Answered WorkerSignature Thrown)) : List Slot :=
  trace.filterMap (fun answered => slotAcquired answered.op answered.result)

/-- The slots a run gave back, newest first. -/
def releasedSlots (trace : List (Answered WorkerSignature Thrown)) : List Slot :=
  trace.filterMap (fun answered => slotReleased answered.op)

/-- The slots taken and given back so far. -/
structure SlotNotes where
  acquired : List Slot := []
  released : List Slot := []

namespace SlotNotes

/-- The notes after one more call. -/
def enter (notes : SlotNotes) (call : WorkerCall) (result : Settled Thrown call.Result)
    : SlotNotes where
  acquired := (slotAcquired call result).toList ++ notes.acquired
  released := (slotReleased call).toList ++ notes.released

/-- The notes on a trace are its slots, by induction on the trace. -/
theorem notes_eq (trace : List (Answered WorkerSignature Thrown))
    : notes (S := WorkerSignature) enter {} trace
      = ⟨acquiredSlots trace, releasedSlots trace⟩ := by
  induction trace with
  | nil => rfl
  | cons answered earlier ih =>
      have step
          : notes (S := WorkerSignature) enter {} (answered :: earlier)
            = enter (notes (S := WorkerSignature) enter {} earlier) answered.op
                answered.result :=
        rfl
      rw [step, ih]
      unfold enter acquiredSlots releasedSlots
      rw [List.filterMap_cons, List.filterMap_cons]
      cases slotAcquired answered.op answered.result <;> cases slotReleased answered.op <;> rfl

end SlotNotes

/-- An acquire that returns hands out a ticket. -/
def HandsOutTickets : (call : WorkerCall) → Settled Thrown call.Result → Prop
  | .external (.acquire _), result =>
      ∀ ticket, result = .ok ticket → ∃ text, ticket = some text ∧ text ≠ ""
  | _, _ => True

/-- The observer's contract. -/
def slotContract : Contract WorkerSignature Thrown SlotNotes :=
  Contract.observing (S := WorkerSignature) HandsOutTickets SlotNotes.enter

section
variable {slots : SlotNotes}

@[simp] theorem meets_await_slots {call : WorkerCall}
    {post : Settled Thrown call.Result → SlotNotes → Prop}
    : Program.Meets (α := no_index call.Result) slotContract (await call) slots post
      ↔ (∀ error,
          HandsOutTickets call (.error error)
          → post (.error error) (slots.enter call (.error error)))
        ∧ ∀ value,
            HandsOutTickets call (.ok value) → post (.ok value) (slots.enter call (.ok value)) :=
  Program.meets_perform_observing

@[simp] theorem meets_awaitExternal_slots {call : ExternalCall}
    {post : Settled Thrown call.Result → SlotNotes → Prop}
    : Program.Meets (α := no_index call.Result) slotContract (awaitExternal call) slots post
      ↔ (∀ error,
          HandsOutTickets (.external call) (.error error)
          → post (.error error) (slots.enter (.external call) (.error error)))
        ∧ ∀ value,
            HandsOutTickets (.external call) (.ok value)
            → post (.ok value) (slots.enter (.external call) (.ok value)) :=
  Program.meets_perform_observing

end

namespace DeliveryExecutor

variable (config : ExecutorConfig) (start : Int) (deliveryId : String) (breaker : Bool)
  (slots : SlotNotes)

attribute [local simp] HandsOutTickets SlotNotes.enter slotAcquired slotReleased

theorem elapsed_slots
    : (elapsed start).Meets slotContract slots (fun _ after => after = slots) := by
  simp [elapsed]

theorem loadDelivery_slots (deliveryOrId : DeliveryArgument)
    : (loadDelivery config deliveryOrId).Meets slotContract slots
        (fun _ after => after = slots) := by
  cases deliveryOrId <;> simp [loadDelivery]

theorem loadDestination_slots (destinationArg : Option Destination) (destId : String)
    : (loadDestination config destinationArg destId).Meets slotContract slots
        (fun _ after => after = slots) := by
  cases destinationArg <;> simp [loadDestination]

theorem claim_slots
    : (claim config deliveryId).Meets slotContract slots (fun _ after => after = slots) := by
  simp [claim]

theorem onError_slots (err : Thrown)
    : (onError start deliveryId breaker err).Meets slotContract slots
        (fun _ after => after = slots) := by
  simp [onError, elapsed, reportFailure, settleFailure]

theorem onSuccess_slots (latencyMs : Int) (res : Response)
    : (onSuccess deliveryId breaker latencyMs res).Meets slotContract slots
        (fun _ after => after = slots) := by
  simp [onSuccess, reportSuccess]

theorem onFailure_slots (latencyMs : Int) (res : Response)
    : (onFailure deliveryId breaker latencyMs res).Meets slotContract slots
        (fun _ after => after = slots) := by
  simp [onFailure, reportFailure, settleFailure]

theorem deliver_slots (delivery : LoadedDelivery) (destination : Option Destination)
    : (deliver config start deliveryId delivery destination breaker).Meets slotContract slots
        (fun _ after => after = slots) := by
  have loaded
      : (loadPayload config delivery).Meets slotContract slots (fun _ after => after = slots) := by
    simp [loadPayload]
  have sent (connector : Bool) (payload : Value) (timeoutMs : Int)
      : (transmit connector payload timeoutMs).Meets slotContract slots
          (fun _ after => after = slots) := by
    simp [transmit]
  simp only [deliver, Program.bind_eq, Program.meets_bind, meets_awaitExternal_slots]
  refine ⟨fun _ _ => rfl, fun connector _ => loaded.mono ?_⟩
  rintro (error | payload) after same
  · exact same
  · subst same
    refine (sent connector payload _).mono ?_
    rintro (error | res) after same
    · exact same
    · subst same
      refine (elapsed_slots start _).mono ?_
      rintro (error | latencyMs) after same
      · exact same
      · subst same
        rcases res with _ | res
        · exact rfl
        · simp only [Program.meets_ite]
          exact ⟨fun _ => onSuccess_slots deliveryId breaker _ latencyMs res,
            fun _ => onFailure_slots deliveryId breaker _ latencyMs res⟩

/-- The `finally` block gives back the ticket, where there is one. -/
theorem releaseTicket_slots (poolName : String) {ticket : String} (filled : ticket ≠ "")
    (released : config.release = true)
    : (releaseTicket config poolName (some ticket)).Meets slotContract slots
        (fun outcome after =>
          outcome = .ok ()
          ∧ after = { slots with released := (poolName, some ticket) :: slots.released }) := by
  simp [releaseTicket, orString_of_ne_empty filled, released]

/-- The `try` block and its handler neither take a slot nor give one back. -/
theorem attempt_slots (delivery : LoadedDelivery) (destination : Option Destination)
    : (tryCatch (deliver config start deliveryId delivery destination breaker)
        (onError start deliveryId breaker)).Meets slotContract slots
        (fun _ after => after = slots) := by
  rw [Program.tryCatch_eq, Program.meets_catchError]
  refine (deliver_slots config start deliveryId breaker slots delivery destination).mono ?_
  rintro (error | result) after same
  · subst same
    exact onError_slots start deliveryId breaker _ error
  · exact same

/-- The protected execution gives back the slot it is given, if any. -/
theorem protect_slots (whole : config.acquire = config.release) (delivery : LoadedDelivery)
    (destination : Option Destination)
    : (protect config start deliveryId delivery destination breaker).Meets slotContract {}
        (fun _ after => after.released = after.acquired) := by
  have attempted (slots : SlotNotes) := attempt_slots config start deliveryId breaker slots delivery
    destination
  simp only [protect, Program.bind_eq, Program.pure_eq, Program.meets_bind, Program.meets_ite,
    Program.meets_settle, Program.meets_done, Program.meets_finallyRun, meets_awaitExternal_slots]
  constructor
  · intro bulkhead
    constructor
    · intro error _
      refine (onError_slots start deliveryId breaker _ error).mono ?_
      rintro _ _ rfl
      rfl
    · intro ticket handed
      obtain ⟨text, rfl, filled⟩ := handed ticket rfl
      refine (attempted _).mono ?_
      rintro outcome _ rfl
      refine (releaseTicket_slots config _ _ filled (whole ▸ bulkhead)).mono ?_
      rintro _ _ ⟨rfl, rfl⟩
      rfl
  · intro _
    refine (attempted _).mono ?_
    rintro outcome _ rfl
    exact rfl

/-- So does the whole run, of which the protected execution is the last part. -/
theorem executeWithResilience_slots (whole : config.acquire = config.release)
    (deliveryOrId : DeliveryArgument) (destinationArg : Option Destination)
    : (executeWithResilience config deliveryOrId destinationArg).Meets slotContract {}
        (fun _ after => after.released = after.acquired) := by
  have protected_ (start : Int) (deliveryId : String) (breaker : Bool) :=
    protect_slots config start deliveryId breaker whole
  have guarded (start : Int) (deliveryId destId : String) (delivery : LoadedDelivery)
      (destination : Option Destination)
      : (guardedDelivery config start deliveryId destId delivery destination).Meets slotContract {}
          (fun _ after => after.released = after.acquired) := by
    simp [guardedDelivery, aborted, elapsed, protected_, SlotNotes.enter]
  simp only [executeWithResilience, Program.bind_eq, Program.meets_bind, meets_await_slots]
  refine ⟨fun _ _ => rfl, fun start _ => ?_⟩
  refine (loadDelivery_slots config {} deliveryOrId).mono ?_
  rintro (error | _ | delivery) _ rfl
  · rfl
  · simp only [notFound, Program.bind_eq, Program.meets_bind]
    refine (elapsed_slots start _).mono ?_
    rintro (error | latencyMs) _ rfl
    · rfl
    · rfl
  · simp only [Program.meets_bind]
    refine (loadDestination_slots config {} destinationArg _).mono ?_
    rintro (error | destination) _ rfl
    · rfl
    · refine (claim_slots config _ {}).mono ?_
      rintro (error | _) _ rfl
      · rfl
      · exact guarded start _ _ delivery destination

/-- An acquire through the manager throws, or hands out a ticket. -/
theorem handsOut_of_managed {σ : Type} {bulkheads : Handler BulkheadSignature Thrown σ}
    {pool : String} {world : σ} {answer : Settled Thrown (Option String) × σ}
    (run
      : answer
        = ((BulkheadManager.acquire pool).bind (fun ticket => .done (some ticket))).run bulkheads
            world)
    : HandsOutTickets (.external (.acquire pool)) answer.1 := by
  intro ticket returned
  rw [run, Program.run_bind] at returned
  rcases acquired : (BulkheadManager.acquire pool).run bulkheads world with ⟨_ | text, after⟩
  · rw [acquired] at returned
    exact nomatch returned
  · rw [acquired] at returned
    refine ⟨text, (Except.ok.inj returned).symm, ?_⟩
    exact BulkheadManager.ne_empty_of_acquire (congrArg Prod.fst acquired)

/-- However a run ends, and whatever its calls throw, it gives back the slots that the manager
gave it, and no other: each on the bulkhead it is of, with its ticket.
-/
theorem executeWithResilience_returns_slots {σ : Type} (handler : Handler WorkerSignature Thrown σ)
    (managed
      : ∀ pool world,
          ∃ bulkheads : Handler BulkheadSignature Thrown σ,
            handler (.external (.acquire pool)) world
              = ((BulkheadManager.acquire pool).bind (fun ticket => .done (some ticket))).run
                  bulkheads world)
    (whole : config.acquire = config.release) (deliveryOrId : DeliveryArgument)
    (destinationArg : Option Destination) (world : σ)
    : releasedSlots
          ((executeWithResilience config deliveryOrId destinationArg).trace handler world)
        = acquiredSlots
            ((executeWithResilience config deliveryOrId destinationArg).trace handler world) := by
  have admitted : ∀ call world, HandsOutTickets call (handler call world).1 := by
    intro call world
    cases call with
    | external call =>
        cases call with
        | acquire pool =>
            obtain ⟨bulkheads, run⟩ := managed pool world
            exact handsOut_of_managed run
        | _ => trivial
    | _ => trivial
  have settled
      : (notes (S := WorkerSignature) SlotNotes.enter {}
          ((executeWithResilience config deliveryOrId destinationArg).trace handler
            world)).released
        = (notes (S := WorkerSignature) SlotNotes.enter {}
          ((executeWithResilience config deliveryOrId destinationArg).trace handler
            world)).acquired :=
    (executeWithResilience_slots config whole deliveryOrId destinationArg).observed admitted
  rw [SlotNotes.notes_eq] at settled
  exact settled

end DeliveryExecutor

/-- Bulkheads with a slot for everyone. -/
def roomyBulkheads : Handler BulkheadSignature Thrown Unit :=
  fun call _ =>
    (match call with
      | .getBulkhead _ => .ok 30000
      | .acquireSlot _ _ => .ok ()
      | .releaseSlot _ => .ok ()
      | .now => .ok 1700000000000
      | .draw => .ok "k3x9q",
    ())

/-- Collaborators that fail wherever they can, behind such bulkheads. -/
def failingWorker : Handler WorkerSignature Thrown Unit :=
  fun call world =>
    match call with
    | .now => (.ok 0, ())
    | .findDelivery id =>
        (.ok (some { id := id, taskResultId := "task-result", destinationId := "destination" }), ())
    | .external (.acquire pool) =>
        ((BulkheadManager.acquire pool).bind (fun ticket => .done (some ticket))).run roomyBulkheads
          world
    | _ => (.error (newError "not available"), ())

/-- An executor behind the manager. -/
def ExecutorConfig.bulkheaded : ExecutorConfig where
  deliveries := true
  destinations := false
  results := false
  circuitBreaker := false
  acquire := true
  release := true
  logger := false

/-- A failing run returns its slot, though even that throws. -/
theorem executeWithResilience_returns_slot_when_failing
    : releasedSlots
          ((DeliveryExecutor.executeWithResilience .bulkheaded (.id "delivery")).trace failingWorker ())
        = acquiredSlots
            ((DeliveryExecutor.executeWithResilience .bulkheaded (.id "delivery")).trace failingWorker
              ())
      ∧ acquiredSlots
            ((DeliveryExecutor.executeWithResilience .bulkheaded (.id "delivery")).trace failingWorker
              ())
          = [("webhook", some "webhook-1700000000000-k3x9q")] :=
  ⟨DeliveryExecutor.executeWithResilience_returns_slots .bulkheaded failingWorker
      (fun _ _ => ⟨roomyBulkheads, rfl⟩) rfl (.id "delivery") none (),
    by decide +kernel⟩

end QueueForge.Worker
