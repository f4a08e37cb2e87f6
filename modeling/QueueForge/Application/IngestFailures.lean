import QueueForge.Application.IngestRun
import QueueForge.Application.IngestWiring

/-! Ingestions that throw.
Nothing undoes a write, so an ingestion that throws rolls back only when it has not
written yet. Which call that is follows from the wiring and the number of matched
destinations.
-/

namespace QueueForge.Application

open QueueForge.Async QueueForge.Js QueueForge.Domain

section
variable (deps : IngestDependencies)

/-- Whether a task result is written, as the number of calls that takes. -/
def resultCalls : Nat :=
  (deps.resultRepository.has "save"
    || deps.resultRepository.has "createResult"
    || deps.resultRepository.has "create").toNat

/-- Whether a delivery is written, as the number of calls that takes. -/
def deliveryCalls : Nat :=
  (deps.deliveryRepository.has "save" || deps.deliveryRepository.has "create").toNat

/-- Whether a delivery is enqueued, as the number of calls that takes. -/
def jobCalls : Nat :=
  (deps.queue.has "enqueueDelivery" || deps.queue.has "add").toNat

/-- The dependency calls that read: the cache lookup and the destination lookup. -/
def readCalls : Nat :=
  cacheCalls deps + lookupCalls deps

/-- The dependency calls of an ingestion that matches so many destinations. -/
def dependencyCalls (matched : Nat) : Nat :=
  readCalls deps + (resultCalls deps + matched * (deliveryCalls deps + jobCalls deps))
  + recordCalls deps

theorem length_resultWrites (result : AiTaskResult)
    : (resultWrites deps result).length = resultCalls deps := by
  unfold resultWrites resultCalls
  split_ifs <;> simp_all

theorem length_deliveryWrites (delivery : Delivery)
    : (deliveryWrites deps delivery).length = deliveryCalls deps := by
  unfold deliveryWrites deliveryCalls
  split_ifs <;> simp_all

theorem length_jobWrites (resultId : String) (delivery : Delivery)
    : (jobWrites deps resultId delivery).length = jobCalls deps := by
  unfold jobWrites jobCalls
  split_ifs <;> simp_all

/-- The number of planned writes depends on the number of deliveries only. -/
theorem length_plannedWrites (result : AiTaskResult) (deliveries : List Delivery)
    : (plannedWrites deps result deliveries).length
      = resultCalls deps + deliveries.length * (deliveryCalls deps + jobCalls deps) := by
  have each (calls : Delivery → List IngestCall) (count : Nat)
      (same : ∀ delivery, (calls delivery).length = count)
      : (deliveries.flatMap calls).length = deliveries.length * count := by
    simp [List.length_flatMap, same]
  simp only [plannedWrites, List.length_append, length_resultWrites,
    each _ _ (length_deliveryWrites deps), each _ _ (length_jobWrites deps result.id.text)]
  rw [Nat.mul_add]

end

namespace IngestStore

/-- How many task results, deliveries and jobs there are. -/
def records (store : IngestStore) : Nat :=
  store.results.length + store.deliveries.length + store.jobs.length

theorem records_write {call : IngestCall} (writes : call.isWrite = true)
    (store : IngestStore)
    : (store.write call).records = store.records + 1 := by
  cases call with
  | saveResult result => simp [write, records]; omega
  | createResult data => simp [write, records]; omega
  | createResultRecord data => simp [write, records]; omega
  | saveDelivery delivery => simp [write, records]; omega
  | createDelivery data => simp [write, records]; omega
  | enqueueDelivery taskResultId destinationId attempt => simp [write, records]; omega
  | add name deliveryId => simp [write, records]; omega
  | _ => contradiction

/-- Every write adds a record, by induction on the writes. -/
theorem records_writeAll {calls : List IngestCall}
    (writes : ∀ call ∈ calls, call.isWrite = true) (store : IngestStore)
    : (store.writeAll calls).records = store.records + calls.length := by
  induction calls generalizing store with
  | nil => rfl
  | cons call rest ih =>
      have first := records_write (writes call List.mem_cons_self) store
      have others := ih (fun call later => writes call (List.mem_cons_of_mem _ later))
        (store.write call)
      simp only [writeAll, List.foldl_cons, List.length_cons] at others ⊢
      omega

end IngestStore

/-- If the ingestion throws, nothing of it remains, and a later ingestion of the request
leaves what it would have left without it.
-/
def RollsBack (env : IngestEnvironment Unit) (deps : IngestDependencies)
    (body : Option RequestBody) (store : IngestStore)
    : Prop :=
  ∀ thrown,
    (runIngest env deps body store).1 = .error thrown
    → let left := (runIngest env deps body store).2
      left.results = store.results
      ∧ left.deliveries = store.deliveries
      ∧ left.jobs = store.jobs
      ∧ ∀ later : IngestEnvironment Unit,
          (runIngest later deps body left).2 = (runIngest later deps body store).2

/-- The fault hits a call after the first write of the request and before the ingestion has
made all its calls.
-/
def HitsBetweenWrites (env : IngestEnvironment Unit) (deps : IngestDependencies)
    (request : IngestResultRequest) (hit : IngestFault)
    : Prop :=
  let targets := foundTargets deps (env.destinations ())
  readCalls deps < hit.position
  ∧ hit.position < dependencyCalls deps (request.matchedTargets targets).length

section
variable {env : IngestEnvironment Unit} {deps : IngestDependencies} {store : IngestStore}
  {body : Option RequestBody} {request : IngestResultRequest}

/-- An ingestion that leaves the store as it was has rolled back. -/
theorem rollsBack_of_unchanged (unchanged : (runIngest env deps body store).2 = store)
    : RollsBack env deps body store := by
  intro _ _
  simp only [unchanged, and_self, implies_true]

/-- The calls of a plan are those of its number of matched destinations. -/
theorem allCalls_eq {matched : List RoutingTarget} (plan : IngestPlan request matched)
    : allCalls deps (cacheCalls deps) plan.result plan.deliveries
      = dependencyCalls deps matched.length := by
  have count : plan.deliveries.length = matched.length := plan.routed.length_eq.symm
  rw [allCalls, firstWrite, length_plannedWrites, count]
  rfl

/-- A fault between the writes leaves the ones before it. -/
theorem records_grow_of_hit
    (valid : ValidateResultService.validateRequest deps.numberText body = .ok request)
    (missed : cachedFor deps store env.start request = none) {hit : IngestFault}
    (given : env.fault () = some hit) (between : HitsBetweenWrites env deps request hit)
    : (∃ thrown, (runIngest env deps body store).1 = .error thrown)
      ∧ store.records < (runIngest env deps body store).2.records := by
  obtain ⟨late, early⟩ := between
  have spared : IngestFault.Spares (env.fault ()) 0 (cacheCalls deps) := by
    intro other same
    rw [given] at same
    cases same
    unfold readCalls at late
    omega
  obtain ⟨outcome, ingested, settled⟩ := runIngest_missed valid spared missed
  generalize runIngest env deps body store = ran at ingested settled ⊢
  obtain ⟨settledWith, left⟩ := ran
  cases ingested with
  | unrouted other same reached =>
      rw [given] at same
      cases same
      unfold firstWrite at reached
      unfold readCalls at late
      simp only at reached
      omega
  | interrupted other plan same reached =>
      rw [given] at same
      cases same
      refine ⟨settled, ?_⟩
      simp only [allCalls_eq] at reached
      have planned := length_plannedWrites deps plan.result plan.deliveries
      have count : plan.deliveries.length = _ := plan.routed.length_eq.symm
      rw [count] at planned
      refine Nat.lt_of_lt_of_eq ?_
        (IngestStore.records_writeAll
          (fun call taken => isWrite_of_planned deps (List.mem_of_mem_take taken))
          store).symm
      unfold dependencyCalls at early
      have atMostOne : recordCalls deps ≤ 1 := Bool.toNat_le _
      have first : firstWrite deps (cacheCalls deps) = readCalls deps := rfl
      rw [List.length_take, planned, first]
      omega
  | finished now recordedAt plan kept response answered =>
      have apart := kept hit given
      rw [allCalls_eq] at apart
      unfold readCalls at late
      simp only at apart
      omega

/-- An ingestion that misses the cache and is not hit between its writes rolls back. -/
theorem rollsBack_of_missed
    (valid : ValidateResultService.validateRequest deps.numberText body = .ok request)
    (answered : IngestFault.Spares (env.fault ()) 0 (cacheCalls deps))
    (missed : cachedFor deps store env.start request = none)
    (spared : ∀ hit, env.fault () = some hit → ¬HitsBetweenWrites env deps request hit)
    : RollsBack env deps body store := by
  obtain ⟨outcome, ingested, settled⟩ := runIngest_missed valid answered missed
  suffices ended
      : (∃ response, (runIngest env deps body store).1 = .ok response)
        ∨ (runIngest env deps body store).2 = store by
    rcases ended with ⟨response, returned⟩ | unchanged
    · intro thrown throws
      rw [returned] at throws
      exact nomatch throws
    · exact rollsBack_of_unchanged unchanged
  generalize runIngest env deps body store = ran at ingested settled ⊢
  obtain ⟨settledWith, left⟩ := ran
  cases ingested with
  | unrouted hit given reached => exact .inr rfl
  | interrupted hit plan given reached =>
      -- The fault hits a planned call, so it is the first write it hits.
      have outside := spared hit given
      simp only [allCalls_eq] at reached
      have first : hit.position - firstWrite deps (cacheCalls deps) = 0 := by
        have reads : firstWrite deps (cacheCalls deps) = readCalls deps := rfl
        unfold HitsBetweenWrites at outside
        omega
      right
      simp only [first, List.take_zero]
      rfl
  | finished now recordedAt plan kept response told => exact .inl ⟨response, settled⟩

/-- An ingestion rolls back unless it misses the cache and is hit between its writes. -/
theorem ingest_rolls_back_iff (env : IngestEnvironment Unit) (deps : IngestDependencies)
    (body : Option RequestBody) (store : IngestStore)
    : RollsBack env deps body store
      ↔ ∀ request,
          ValidateResultService.validateRequest deps.numberText body = .ok request
          → cachedFor deps store env.start request = none
          → ∀ hit, env.fault () = some hit → ¬HitsBetweenWrites env deps request hit := by
  constructor
  · intro rollsBack request valid missed hit given between
    obtain ⟨⟨thrown, throws⟩, grown⟩ := records_grow_of_hit valid missed given between
    obtain ⟨results, deliveries, jobs, _⟩ := rollsBack thrown throws
    unfold IngestStore.records at grown
    rw [results, deliveries, jobs] at grown
    exact Nat.lt_irrefl _ grown
  · intro spared
    cases valid : ValidateResultService.validateRequest deps.numberText body with
    | error error =>
        obtain ⟨thrown, ran⟩ := runIngest_invalid valid
        exact rollsBack_of_unchanged (congrArg Prod.snd ran)
    | ok request =>
        by_cases answered : IngestFault.Spares (env.fault ()) 0 (cacheCalls deps)
        · cases missed : cachedFor deps store env.start request with
          | some value =>
              obtain ⟨response, ran, _⟩ := runIngest_cached valid answered missed
              exact rollsBack_of_unchanged (congrArg Prod.snd ran)
          | none => exact rollsBack_of_missed valid answered missed (spared request valid missed)
        · obtain ⟨thrown, ran⟩ := runIngest_unspared valid answered
          exact rollsBack_of_unchanged (congrArg Prod.snd ran)

end

/-- As the container wires it, an ingestion whose response cannot be recorded throws and
leaves its task result behind.
-/
theorem unrecorded_result_remains
    : ¬RollsBack (Sample.environment [] (some ⟨2, newError "Connection is closed."⟩))
        (DependencyContainer.wired (fun _ => "1")) (some (Sample.body "greeting"))
        Sample.store := by
  intro rollsBack
  have throws
      : (runIngest (Sample.environment [] (some ⟨2, newError "Connection is closed."⟩))
          (DependencyContainer.wired (fun _ => "1")) (some (Sample.body "greeting"))
          Sample.store).1
        = .error (newError "Connection is closed.") := by
    decide +kernel
  have left
      : (runIngest (Sample.environment [] (some ⟨2, newError "Connection is closed."⟩))
          (DependencyContainer.wired (fun _ => "1")) (some (Sample.body "greeting"))
          Sample.store).2.results.length
        = 1 := by
    decide +kernel
  rw [(rollsBack _ throws).1] at left
  exact nomatch left

end QueueForge.Application
