import QueueForge.Application.IngestRun
import QueueForge.Application.IngestWiring

/-! Sequences of ingestions and the idempotency cache.
The key leaves the payload and the score out, so a request that differs from all before it
in these is served anew exactly when no live entry is found under its key.
-/

namespace QueueForge.Application

open QueueForge.Async QueueForge.Js QueueForge.Domain

/-- The collaborators of the container, over any destination repository. -/
def deployment (numberText : Number → String) (destinationRepository : Collaborator)
    : IngestDependencies := {
  DependencyContainer.wired numberText with
  destinationRepository := destinationRepository
}

/-- A call of the service with a valid request. -/
structure Ingestion (numberText : Number → String) where
  body : RequestBody
  request : IngestResultRequest
  accepted : ValidateResultService.validateRequest numberText (some body) = .ok request
  env : IngestEnvironment Unit

section
variable {numberText : Number → String} (destinationRepository : Collaborator)

/-- What a call settles with, and the store it leaves. -/
def Ingestion.run (call : Ingestion numberText) (store : IngestStore)
    : Settled Thrown IngestResultResponse × IngestStore :=
  runIngest call.env (deployment numberText destinationRepository) (some call.body) store

/-- The store after a sequence of calls. -/
def ingestAll (calls : List (Ingestion numberText)) (start : IngestStore) : IngestStore :=
  calls.foldl (fun store call => (call.run destinationRepository store).2) start

/-- The destinations a request is to be delivered to, of those the service finds. -/
def Ingestion.matched (call : Ingestion numberText) : List RoutingTarget :=
  call.request.matchedTargets
    (foundTargets (deployment numberText destinationRepository) (call.env.destinations ()))

/-- A call that returns has made a task result and deliveries of its own, and answers with
them. It does return unless one of its collaborators rejects.
-/
structure ServedAnew (call : Ingestion numberText) (store : IngestStore) : Prop where
  own
    : ∀ response,
        (call.run destinationRepository store).1 = .ok response
        → ∃ plan : IngestPlan call.request (call.matched destinationRepository),
            let left := (call.run destinationRepository store).2
            response.resultId = plan.result.id.text
            ∧ left.results = store.results ++ [ResultMapper.toDTO plan.result]
            ∧ left.deliveries = store.deliveries ++ plan.deliveries.map .ofDelivery
            ∧ left.jobs
              = store.jobs
                ++ plan.deliveries.map
                  (fun delivery => .named "deliver-task-result" delivery.id)
  returns
    : call.env.fault () = none
      → ∃ response, (call.run destinationRepository store).1 = .ok response

/-- The lookup of a call finds a live entry under its key. -/
def FindsLiveEntry (call : Ingestion numberText) (store : IngestStore) : Prop :=
  IngestFault.Spares (call.env.fault ()) 0 1
  ∧ (store.cached? (IngestResultService.idempotencyKey call.request)
    call.env.start).isSome = true

end

/-- The request differs from another in its payload or its score. -/
def IngestResultRequest.DiffersFrom (request other : IngestResultRequest) : Prop :=
  request.resultPayload ≠ other.resultPayload
  ∨ request.confidenceScore ≠ other.confidenceScore

namespace IngestStore

/-- Writing deliveries one by one appends them, by induction on the list. -/
theorem writeAll_createDelivery (store : IngestStore) (deliveries : List Delivery)
    : store.writeAll
        (deliveries.flatMap (fun delivery => [.createDelivery (.ofDelivery delivery)]))
      = { store with deliveries := store.deliveries ++ deliveries.map .ofDelivery } := by
  induction deliveries generalizing store with
  | nil => simp [writeAll]
  | cons delivery rest ih =>
      rw [List.flatMap_cons, writeAll_append, ih]
      simp [writeAll, write]

/-- Adding jobs one by one appends them, by induction on the list. -/
theorem writeAll_add (store : IngestStore) (deliveries : List Delivery)
    : store.writeAll
        (deliveries.flatMap (fun delivery => [.add "deliver-task-result" delivery.id]))
      = {
          store with
          jobs :=
            store.jobs
            ++ deliveries.map (fun delivery => .named "deliver-task-result" delivery.id)
        } := by
  induction deliveries generalizing store with
  | nil => simp [writeAll]
  | cons delivery rest ih =>
      rw [List.flatMap_cons, writeAll_append, ih]
      simp [writeAll, write]

end IngestStore

section
variable {numberText : Number → String} {destinationRepository : Collaborator}

theorem deployment_calls
    : cacheCalls (deployment numberText destinationRepository) = 1
      ∧ recordCalls (deployment numberText destinationRepository) = 1 := by
  have gets : Collaborator.has (some IdempotencyCache.methods) "get" = true := by decide
  have sets : Collaborator.has (some IdempotencyCache.methods) "set" = true := by decide
  exact ⟨congrArg Bool.toNat gets, congrArg Bool.toNat sets⟩

/-- What the container's repositories and queue hold after the writes of a plan. -/
theorem deployment_writes (store : IngestStore) (result : AiTaskResult)
    (deliveries : List Delivery)
    : store.writeAll
        (plannedWrites (deployment numberText destinationRepository) result deliveries)
      = {
          store with
          results := store.results ++ [ResultMapper.toDTO result]
          deliveries := store.deliveries ++ deliveries.map .ofDelivery
          jobs :=
            store.jobs
            ++ deliveries.map (fun delivery => .named "deliver-task-result" delivery.id)
        } := by
  have ofResult
      : resultWrites (deployment numberText destinationRepository) result
        = [.createResult (ResultMapper.toDTO result)] :=
    rfl
  have ofDelivery
      : deliveryWrites (deployment numberText destinationRepository)
        = fun delivery => [.createDelivery (.ofDelivery delivery)] :=
    rfl
  have ofJob
      : jobWrites (deployment numberText destinationRepository) result.id.text
        = fun delivery => [.add "deliver-task-result" delivery.id] :=
    rfl
  rw [plannedWrites, ofResult, ofDelivery, ofJob, IngestStore.writeAll_append,
    IngestStore.writeAll_append, IngestStore.writeAll_createDelivery,
    IngestStore.writeAll_add]
  rfl

theorem deployment_cachedFor (store : IngestStore) (now : Int)
    (request : IngestResultRequest)
    : cachedFor (deployment numberText destinationRepository) store now request
      = store.cached? (IngestResultService.idempotencyKey request) now :=
  if_pos deployment_calls.1

/-- Recording a response adds no task result, delivery or job. -/
theorem recordAt_keeps (deps : IngestDependencies) (now : Int)
    (request : IngestResultRequest) (response : IngestResultResponse) (store : IngestStore)
    : (recordAt deps now request response store).results = store.results
      ∧ (recordAt deps now request response store).deliveries = store.deliveries
      ∧ (recordAt deps now request response store).jobs = store.jobs := by
  unfold recordAt
  split
  · exact ⟨rfl, rfl, rfl⟩
  · exact ⟨rfl, rfl, rfl⟩

/-- A call that throws is served anew unless none of its collaborators rejects. -/
theorem servedAnew_of_throws {call : Ingestion numberText} {store : IngestStore}
    (faulty : call.env.fault () ≠ none)
    (throws : ∃ thrown, (call.run destinationRepository store).1 = .error thrown)
    : ServedAnew destinationRepository call store := by
  obtain ⟨thrown, throws⟩ := throws
  refine ⟨?_, fun faultless => absurd faultless faulty⟩
  intro response returned
  rw [throws] at returned
  exact nomatch returned

/-- A call that finds no live entry makes a task result and deliveries of its own. -/
theorem servedAnew_of_missed {call : Ingestion numberText} {store : IngestStore}
    (answered : IngestFault.Spares (call.env.fault ()) 0 1)
    (missed : store.cached? (IngestResultService.idempotencyKey call.request) call.env.start
      = none)
    : ServedAnew destinationRepository call store := by
  rw [← deployment_calls.1] at answered
  rw [← deployment_cachedFor] at missed
  obtain ⟨outcome, ingested, settled⟩ := runIngest_missed call.accepted answered missed
  rcases ran
      : runIngest call.env (deployment numberText destinationRepository) (some call.body) store
    with ⟨settledWith, left⟩
  have whole : call.run destinationRepository store = (settledWith, left) := ran
  rw [ran] at ingested settled
  cases ingested with
  | unrouted hit given reached =>
      refine servedAnew_of_throws (fun faultless => nomatch given.symm.trans faultless) ?_
      rw [whole]
      exact settled
  | interrupted hit plan given reached =>
      refine servedAnew_of_throws (fun faultless => nomatch given.symm.trans faultless) ?_
      rw [whole]
      exact settled
  | finished now recordedAt plan kept response told =>
      have returns : settledWith = .ok response := settled
      refine ⟨?_, fun _ => ⟨response, by rw [whole]; exact returns⟩⟩
      intro other returned
      rw [whole, returns] at returned
      cases returned
      obtain ⟨results, deliveries, jobs⟩ :=
        recordAt_keeps (deployment numberText destinationRepository) recordedAt call.request
          response
          (store.writeAll
            (plannedWrites (deployment numberText destinationRepository) plan.result
              plan.deliveries))
      rw [deployment_writes] at results deliveries jobs
      refine ⟨plan, ?_⟩
      rw [whole, deployment_writes, told]
      exact ⟨rfl, results, deliveries, jobs⟩

/-- A call is served anew exactly when it finds no live entry under its key. -/
theorem servedAnew_iff (call : Ingestion numberText) (store : IngestStore)
    : ServedAnew destinationRepository call store ↔ ¬FindsLiveEntry call store := by
  constructor
  · rintro served ⟨answered, live⟩
    obtain ⟨value, cached⟩ := Option.isSome_iff_exists.mp live
    rw [← deployment_calls.1] at answered
    rw [← deployment_cachedFor] at cached
    obtain ⟨response, ran, _⟩ := runIngest_cached call.accepted answered cached
    obtain ⟨plan, _, results, _⟩ := served.own response (congrArg Prod.fst ran)
    have same : (call.run destinationRepository store).2 = store := congrArg Prod.snd ran
    rw [same] at results
    simpa using congrArg List.length results
  · intro missed
    by_cases answered : IngestFault.Spares (call.env.fault ()) 0 1
    · refine servedAnew_of_missed answered ?_
      exact Option.not_isSome_iff_eq_none.mp (fun live => missed ⟨answered, live⟩)
    · have faultless : call.env.fault () ≠ none := by
        rintro none
        exact answered (fun hit given => nomatch none.symm.trans given)
      rw [← deployment_calls.1] at answered
      obtain ⟨thrown, ran⟩ := runIngest_unspared call.accepted answered
      exact servedAnew_of_throws faultless ⟨thrown, congrArg Prod.fst ran⟩

end

/-- Every request of a sequence that differs from all before it is served anew. -/
def ServesFreshRequests {numberText : Number → String}
    (destinationRepository : Collaborator) (calls : List (Ingestion numberText))
    (start : IngestStore)
    : Prop :=
  ∀ earlier call later,
    calls = earlier ++ call :: later
    → (∀ past ∈ earlier, call.request.DiffersFrom past.request)
    → ServedAnew destinationRepository call (ingestAll destinationRepository earlier start)

/-- The fresh requests of a sequence are served anew exactly when none of them finds a live
entry under its key in the store the requests before it leave.
-/
theorem fresh_requests_served_iff {numberText : Number → String}
    (destinationRepository : Collaborator) (calls : List (Ingestion numberText))
    (start : IngestStore)
    : ServesFreshRequests destinationRepository calls start
      ↔ ∀ earlier call later,
          calls = earlier ++ call :: later
          → (∀ past ∈ earlier, call.request.DiffersFrom past.request)
          → ¬FindsLiveEntry call (ingestAll destinationRepository earlier start) := by
  constructor
  · intro served earlier call later split fresh
    exact (servedAnew_iff call _).mp (served earlier call later split fresh)
  · intro missed earlier call later split fresh
    exact (servedAnew_iff call _).mpr (missed earlier call later split fresh)

/-- A quiet call with the sample request. -/
def Sample.ingestion (subject : String)
    (accepted
      : ValidateResultService.validateRequest (fun _ => "1") (some (Sample.body subject))
        = .ok (Sample.request subject))
    : Ingestion (fun _ => "1") where
  body := Sample.body subject
  request := Sample.request subject
  accepted := accepted
  env := Sample.environment [] none

/-- A later request with the same identifiers and another payload is answered with the task
result of the first.
-/
theorem changed_payload_answered_from_cache
    : ¬ServesFreshRequests none
        [Sample.ingestion "greeting" rfl, Sample.ingestion "farewell" rfl] Sample.store := by
  intro served
  let first := Sample.ingestion "greeting" rfl
  let second := Sample.ingestion "farewell" rfl
  have fresh : ∀ past ∈ [first], second.request.DiffersFrom past.request := by
    intro past found
    rw [List.mem_singleton.mp found]
    exact .inl (by simp [first, second, Sample.ingestion, Sample.request])
  obtain ⟨own, returns⟩ := served [first] second [] rfl fresh
  obtain ⟨response, returned⟩ := returns rfl
  obtain ⟨plan, _, results, _⟩ := own response returned
  have before : (ingestAll none [first] Sample.store).results.length = 1 := by
    decide +kernel
  have after
      : (second.run none (ingestAll none [first] Sample.store)).2.results.length = 1 := by
    decide +kernel
  rw [results, List.length_append, before] at after
  exact nomatch after

section
variable {numberText : Number → String} {destinationRepository : Collaborator}

/-- Writes leave the cache alone, by induction on the writes. -/
theorem IngestStore.redis_writeAll (store : IngestStore) (calls : List IngestCall)
    : (store.writeAll calls).redis = store.redis := by
  induction calls generalizing store with
  | nil => rfl
  | cons call rest ih =>
      refine (ih (store.write call)).trans ?_
      cases call <;> rfl

/-- Recording a response touches no other entry than the one under its key. -/
theorem recordAt_redis {deps : IngestDependencies} {now : Int}
    {request : IngestResultRequest} {response : IngestResultResponse} {store : IngestStore}
    {key : String} (other : IngestResultService.idempotencyKey request ≠ key)
    : (recordAt deps now request response store).redis key = store.redis key := by
  unfold recordAt
  split
  · exact Function.update_of_ne other.symm _ _
  · rfl

/-- An ingestion touches no other entry than the one under its key. -/
theorem ingested_redis {deps : IngestDependencies} {request : IngestResultRequest}
    {targets : List RoutingTarget} {fault : Option IngestFault} {start : IngestProgress}
    {outcome : Settled Thrown IngestResultResponse} {left : IngestStore}
    (ingested : Ingested deps request targets fault start outcome left) {key : String}
    (other : IngestResultService.idempotencyKey request ≠ key)
    : left.redis key = start.store.redis key := by
  cases ingested with
  | unrouted hit given reached => rfl
  | interrupted hit plan given reached =>
      exact congrFun (IngestStore.redis_writeAll _ _) key
  | finished now recordedAt plan kept response told =>
      exact (recordAt_redis other).trans (congrFun (IngestStore.redis_writeAll _ _) key)

/-- A call touches no other cache entry than the one under its own key. -/
theorem run_redis (call : Ingestion numberText) (store : IngestStore) {key : String}
    (other : IngestResultService.idempotencyKey call.request ≠ key)
    : (call.run destinationRepository store).2.redis key = store.redis key := by
  let keeps (left : IngestStore) : Prop := left.redis key = store.redis key
  have before : keeps store := rfl
  exact runIngest_keeps call.accepted before
    (fun _ _ ingested => ingested_redis ingested other)

/-- A cache entry is from the start or from a request with the same key, by induction on the
sequence.
-/
theorem redis_ingestAll (calls : List (Ingestion numberText)) (start : IngestStore)
    {key : String}
    (others
      : ∀ past ∈ calls, IngestResultService.idempotencyKey past.request ≠ key)
    : (ingestAll destinationRepository calls start).redis key = start.redis key := by
  induction calls generalizing start with
  | nil => rfl
  | cons call rest ih =>
      refine (ih (call.run destinationRepository start).2
        (fun past later => others past (List.mem_cons_of_mem call later))).trans ?_
      exact run_redis call start (others call List.mem_cons_self)

/-- A request whose key no request before it had is served anew, from an empty cache. -/
theorem new_key_served {earlier : List (Ingestion numberText)} {call : Ingestion numberText}
    {start : IngestStore} (empty : ∀ key, start.redis key = none)
    (newKey
      : ∀ past ∈ earlier,
          IngestResultService.idempotencyKey past.request
          ≠ IngestResultService.idempotencyKey call.request)
    : ServedAnew destinationRepository call
        (ingestAll destinationRepository earlier start) := by
  refine (servedAnew_iff call _).mpr ?_
  rintro ⟨_, live⟩
  unfold IngestStore.cached? at live
  rw [redis_ingestAll earlier start newKey, empty] at live
  exact nomatch live

end

end QueueForge.Application
