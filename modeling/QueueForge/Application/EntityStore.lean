import QueueForge.Application.SavedDeliveries

/-! Stores that return the last saved entity for its identifier, and what a service run over
one leaves stored.
-/

namespace QueueForge.Application

open QueueForge.Async QueueForge.Js QueueForge.Domain

/-- What the services rely on of a store: a save resolves and stores its entity, a load gives
the stored entity, and only a numbered attempt changes a delivery besides.
-/
structure EntityStore {σ : Type} (config : ServiceConfig)
    (handler : Handler ServiceSignature Thrown σ) (stored : σ → String → Option Delivery)
    : Prop where
  loads
    : ∀ world id delivery,
        stored world id = some delivery
        → ((loadDelivery config id).run handler world).1 = .ok delivery
  saves
    : ∀ delivery events world,
        (handler (.save delivery events) world).1 = .ok ()
        ∧ ∀ id,
            stored (handler (.save delivery events) world).2 id
            = if id = delivery.id then some delivery else stored world id
  kept
    : ∀ (call : ServiceCall) world,
        call.saved? = none
        → call.isNumberedAttempt = false
        → stored (handler call world).2 = stored world

section
variable {σ : Type} {config : ServiceConfig} {handler : Handler ServiceSignature Thrown σ}
  {stored : σ → String → Option Delivery}

/-- Loading a stored delivery gives it and changes nothing. -/
theorem EntityStore.run_loadDelivery (store : EntityStore config handler stored) {world : σ}
    {id : String} {delivery : Delivery} (found : stored world id = some delivery)
    : ∃ after,
        (loadDelivery config id).run handler world = (.ok delivery, after)
        ∧ stored after = stored world := by
  have loaded := store.loads world id delivery found
  let unchanged (after : σ) : Prop := stored after = stored world
  have step
      : ∀ (call : ServiceCall) before,
          call.isLookup = true → unchanged before → unchanged (handler call before).2 := by
    intro call before lookup same
    obtain ⟨unsaved, _, uncounted⟩ := ServiceCall.isLookup_quiet lookup
    exact (store.kept call before unsaved uncounted).trans same
  have kept := (loadDelivery_awaits config id).run step (show unchanged world from rfl)
  exact ⟨_, Prod.ext loaded rfl, kept⟩

/-- The store shows the entity that is known, if one is. -/
def Shows (stored : σ → String → Option Delivery) (shown : Option Delivery) (world : σ) : Prop :=
  ∀ delivery ∈ shown, stored world delivery.id = some delivery

theorem shows_found {world : σ} {delivery : Delivery}
    (found : stored world delivery.id = some delivery)
    : Shows stored (some delivery) world := by
  intro other known
  obtain rfl : delivery = other := Option.some.inj known
  exact found

/-- It shows what has just been saved. -/
theorem EntityStore.shows_save (store : EntityStore config handler stored) (saved : Delivery)
    (events : List DomainEvent) (world : σ)
    : Shows stored (some saved) (handler (.save saved events) world).2 :=
  shows_found (((store.saves saved events world).2 saved.id).trans (if_pos rfl))

/-- It goes on to show it through calls that neither save nor count an attempt. -/
theorem EntityStore.shows_kept (store : EntityStore config handler stored)
    {shown : Option Delivery} {call : ServiceCall} {world : σ} (shows : Shows stored shown world)
    (unsaved : call.saved? = none) (uncounted : call.isNumberedAttempt = false)
    : Shows stored shown (handler call world).2 := by
  intro delivery known
  rw [store.kept call world unsaved uncounted]
  exact shows delivery known

/-- The store shows what a service saved last, or is as it was before. -/
def ShowsSaved (stored : σ → String → Option Delivery) (before : String → Option Delivery)
    (last : Option Delivery) (world : σ)
    : Prop :=
  match last with
  | none => stored world = before
  | some saved => stored world saved.id = some saved

/-- The collaborators with some rejections of the attempt log and the publisher put in. -/
def Faults.over (faults : Faults) (handler : Handler ServiceSignature Thrown σ)
    : Handler ServiceSignature Thrown σ := fun call world =>
  match faults.of call with
  | none => handler call world
  | some error => (.error error, world)

/-- What looks up only does not notice the rejections. -/
theorem Faults.run_over_of_lookups (faults : Faults) {α : Type} {program : ServiceProgram α}
    (lookups : program.Awaits (fun call : ServiceCall => call.isLookup = true)) (world : σ)
    : program.run (faults.over handler) world = program.run handler world :=
  run_lookups lookups id (fun _ _ => rfl) (fun _ _ => rfl) world

/-- They leave a store of entities a store of entities. -/
theorem EntityStore.over (store : EntityStore config handler stored) (faults : Faults)
    : EntityStore config (faults.over handler) stored where
  loads world id delivery found := by
    rw [faults.run_over_of_lookups (loadDelivery_awaits config id)]
    exact store.loads world id delivery found
  saves := store.saves
  kept call world unsaved uncounted := by
    unfold Faults.over
    split
    · exact store.kept call world unsaved uncounted
    · rfl

/-- Over such a store, collaborators that resolve but for the rejections honour the contract
of what is saved.
-/
theorem EntityStore.honours_saving (store : EntityStore config handler stored)
    (resolves : ∀ call world, Resolved call (handler call world).1) (faults : Faults)
    (before : String → Option Delivery)
    : (faults.over handler).Honours (saving faults) (ShowsSaved stored before) := by
  intro last world call shown uncounted
  refine ⟨_, ⟨?_, rfl⟩, ?_⟩
  · unfold Faults.over Answers
    split <;> simp_all
  cases saved : call.saved? with
  | none =>
      have kept := (store.over faults).kept call world saved uncounted
      cases last with
      | none =>
          simp only [lastSaved, saved, Option.or, ShowsSaved]
          exact kept.trans shown
      | some previous =>
          simp only [lastSaved, saved, Option.or, ShowsSaved, kept]
          exact shown
  | some delivery =>
      cases call with
      | save other events =>
          obtain rfl : other = delivery := Option.some.inj saved
          exact ((store.saves other events world).2 other.id).trans (if_pos rfl)
      | _ => exact nomatch saved

end

/-- What an attempt under a number makes of the count of its delivery. -/
def countAttempt (deliveryId : String) (attemptNumber : Option Int)
    (entities : String → Option Delivery)
    : String → Option Delivery :=
  match attemptNumber with
  | none => entities
  | some number => fun id =>
      if id = deliveryId then
        (entities id).map (fun delivery => { delivery with retryCount := number })
      else
        entities id

/-- A store in memory. The other collaborators do nothing and find nothing, but for the attempt
log.
-/
def memory (runtime : Runtime)
    : Handler ServiceSignature Thrown (String → Option Delivery)
  | .runtime, entities => (.ok runtime, entities)
  | .findById id, entities => (.ok (entities id), entities)
  | .findByTaskResultId _, entities => (.ok [], entities)
  | .save delivery _, entities =>
      (.ok (), fun id => if id = delivery.id then some delivery else entities id)
  | .enqueueDelivery _ _ _ _, entities => (.ok (), entities)
  | .add _ _ _ _ _, entities => (.ok (), entities)
  | .recordAttempt deliveryId attemptNumber _, entities =>
      (.ok (), countAttempt deliveryId attemptNumber entities)
  | .publish _, entities => (.ok (), entities)
  | .findDestination _, entities => (.ok none, entities)
  | .findResult _, entities => (.ok none, entities)
  | .post _ _ _ _, entities => (.ok none, entities)

/-- Its calls all resolve. -/
theorem memory_resolves (runtime : Runtime) (call : ServiceCall)
    (entities : String → Option Delivery)
    : Resolved call (memory runtime call entities).1 := by
  cases call <;> exact ⟨_, rfl⟩

/-- The services over a store in memory that finds entities by their identifiers. -/
def memoryConfig : ServiceConfig where
  language := {
    toNumber := fun _ => .nan
    toDate := fun _ => none
    toText := fun _ => ""
  }
  findById := true
  findByTaskResultId := false
  queue := .absent
  attemptRepository := false
  eventPublisher := false
  destinationRepository := false
  resultRepository := false
  httpClient := false

/-- It returns the last saved entity for its identifier. -/
theorem memory_entityStore (runtime : Runtime)
    : EntityStore memoryConfig (memory runtime) (fun entities => entities) where
  loads entities id delivery found := by
    simp only [loadDelivery, ifPresent, memoryConfig, if_true, Program.bind_eq, Program.run_bind,
      run_awaitCall, memory, found]
    rfl
  saves delivery events entities := ⟨rfl, fun id => rfl⟩
  kept call entities unsaved uncounted := by
    cases call with
    | save delivery events => exact nomatch unsaved
    | recordAttempt deliveryId attemptNumber data =>
        cases attemptNumber with
        | none => rfl
        | some number => exact nomatch uncounted
    | _ => rfl

/-- A PENDING delivery none of whose retries is spent. -/
def newDelivery : Delivery where
  id := "delivery"
  taskResultId := "result"
  destinationId := "destination"
  status := .pending
  retryCount := 0
  nextRetryAt := none
  lastAttemptAt := none
  lastError := none
  completedAt := none
  createdAt := some 0
  updatedAt := some 0
  attempts := []
  idNonempty := delivery_named
  taskResultIdNonempty := result_named
  destinationIdNonempty := destination_named

/-- A store in memory that holds the new delivery. -/
def holdingNew (id : String) : Option Delivery :=
  if id = newDelivery.id then some newDelivery else none

end QueueForge.Application
