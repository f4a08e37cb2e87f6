import QueueForge.Application.IngestRun

/-! The stages of one ingestion: it looks its key up, writes the records of one result and
records the response. A contract over the stages holds of the service whatever its
collaborators do.
-/

namespace QueueForge.Application

open QueueForge.Async QueueForge.Js QueueForge.Domain

/-- The calls are writes of one task result and its deliveries, under this identifier. -/
inductive OneSet (deps : IngestDependencies) (resultId : String) : List IngestCall → Prop
  | empty : OneSet deps resultId []
  | planned {request : IngestResultRequest} {targets : List RoutingTarget}
    {calls : List IngestCall} (plan : IngestPlan request (request.matchedTargets targets))
    (own : plan.result.id.text = resultId)
    (made : calls <+: plannedWrites deps plan.result plan.deliveries)
    : OneSet deps resultId calls

inductive IngestStage where
  | waiting
  | answered (resultId : String)
  | ingesting (made : List IngestCall)
  | recorded (made : List IngestCall) (resultId : String)
  | failed (made : List IngestCall)

namespace IngestStage

/-- The writes a call has made. -/
def made : IngestStage → List IngestCall
  | waiting => []
  | answered _ => []
  | ingesting made => made
  | recorded made _ => made
  | failed made => made

/-- The result a call answers with. -/
def resultId? : IngestStage → Option String
  | answered resultId => some resultId
  | recorded _ resultId => some resultId
  | _ => none

/-- A call that has done nothing, or nothing that lasts. -/
inductive Idle : IngestStage → Prop
  | waiting : Idle waiting
  | failed : Idle (failed [])

/-- The stage a lookup leads to. -/
def lookedUp : Option IngestResultResponse → IngestStage
  | none => ingesting []
  | some value => answered value.resultId

/-- The stage after a call resolved. -/
def resolved (stage : IngestStage) : (call : IngestCall) → call.Result → IngestStage
  | .redisGet _, found => lookedUp found
  | .redisSetex _ _ value, _ => recorded stage.made value.resultId
  | call, _ => if call.isWrite then ingesting (stage.made ++ [call]) else stage

/-- The stage after a call settled. -/
def next (stage : IngestStage) (call : IngestCall)
    : Settled Thrown call.Result → IngestStage
  | .ok value => stage.resolved call value
  | .error _ => failed stage.made

/-- The dependency calls a stage leads to. -/
inductive Leads (deps : IngestDependencies) (key : String) : IngestStage → IngestCall → Prop
  | lookUp : Leads deps key waiting (.redisGet key)
  | route {made call} (routes : call = .findAllActive ∨ call = .findAll)
    : Leads deps key (ingesting made) call
  | write {made call resultId} (writes : call.isWrite = true)
    (own : OneSet deps resultId (made ++ [call]))
    : Leads deps key (ingesting made) call
  | record {made ttlSeconds value} (own : OneSet deps value.resultId made)
    : Leads deps key (ingesting made) (.redisSetex key ttlSeconds value)

end IngestStage

/-- A call looks its key up, writes one set and records it; only its collaborators reject. -/
def oneIngestion (deps : IngestDependencies) (key : String)
    : Contract IngestSignature Thrown IngestStage where
  allows stage call := call.isDependency = false ∨ stage.Leads deps key call
  answers stage call result next :=
    next = stage.next call result
    ∧ (call.isDependency = false → ∃ value, result = .ok value)

/-- A call that returned answers with the result its stage tells. -/
def IngestStage.Answers (outcome : Settled Thrown IngestResultResponse) (stage : IngestStage)
    : Prop :=
  ∀ response, outcome = .ok response → stage.resultId? = some response.resultId

section
variable {deps : IngestDependencies} {key : String}

theorem oneIngestion_undisturbed {stage : IngestStage}
    : Undisturbed (oneIngestion deps key) stage := by
  intro call free
  refine ⟨.inl free, ?_⟩
  rintro result next ⟨rfl, resolves⟩
  obtain ⟨value, rfl⟩ := resolves free
  refine ⟨⟨value, rfl⟩, ?_⟩
  cases call with
  | runtime => rfl
  | randomUUID => rfl
  | _ => contradiction

/-- A write that resolves is added to the writes made. -/
theorem next_write {call : IngestCall} (writes : call.isWrite = true) {made : List IngestCall}
    {value : call.Result}
    : (IngestStage.ingesting made).next call (.ok value) = .ingesting (made ++ [call]) := by
  cases call with
  | saveResult result => rfl
  | createResult data => rfl
  | createResultRecord data => rfl
  | saveDelivery delivery => rfl
  | createDelivery data => rfl
  | enqueueDelivery taskResultId destinationId attempt => rfl
  | add name deliveryId => rfl
  | _ => contradiction

/-- The destinations are looked up before anything is written. -/
theorem activeDestinations_ingesting {made : List IngestCall}
    : (IngestResultService.activeDestinations deps).Meets (oneIngestion deps key)
        (.ingesting made)
        (fun outcome stage => ∀ found, outcome = .ok found → stage = .ingesting made) := by
  unfold IngestResultService.activeDestinations
  split
  · refine Program.meets_perform.mpr ⟨.inr (.route (.inl rfl)), ?_⟩
    rintro (error | found) _ ⟨rfl, _⟩ _ ⟨⟩
    rfl
  · split
    · refine Program.meets_perform.mpr ⟨.inr (.route (.inr rfl)), ?_⟩
      rintro (error | found) _ ⟨rfl, _⟩ _ ⟨⟩
      rfl
    · exact fun _ _ => rfl

/-- A plan is written as far as its calls resolve. -/
theorem persist_ingesting {request : IngestResultRequest} {targets : List RoutingTarget}
    (plan : IngestPlan request (request.matchedTargets targets))
    : (IngestResultService.persist deps plan.result plan.deliveries).Meets
        (oneIngestion deps key) (.ingesting [])
        (fun outcome stage =>
          ∀ written,
            outcome = .ok written
            → stage = .ingesting (plannedWrites deps plan.result plan.deliveries)) := by
  refine (performs_persist deps plan.result plan.deliveries).meets
    (fun earlier stage => stage = .ingesting earlier) ?_ ?_ rfl
  · rintro earlier call later _ split rfl
    have planned : call ∈ plannedWrites deps plan.result plan.deliveries := by simp [split]
    have writes := isWrite_of_planned deps planned
    have reached : earlier ++ [call] <+: plannedWrites deps plan.result plan.deliveries :=
      ⟨later, by rw [split, List.append_assoc]; rfl⟩
    refine ⟨.inr (.write writes (.planned plan rfl reached)), ?_, ?_⟩
    · rintro value _ ⟨rfl, _⟩
      exact next_write writes
    · rintro error _ _ _ ⟨⟩
  · rintro _ rfl _ _
    rfl

/-- A call that missed writes one set and records the result of it. -/
theorem accept_ingesting {body : RequestBody} {request : IngestResultRequest}
    (valid : ValidateResultService.Validated deps.numberText body request)
    (records : deps.cache.has "set" = true)
    : (IngestResultService.accept deps request).Meets
        (oneIngestion deps (IngestResultService.idempotencyKey request)) (.ingesting [])
        IngestStage.Answers := by
  unfold IngestResultService.accept
  simp only [Program.bind_eq, Program.pure_eq, Program.meets_bind, Program.meets_done]
  refine (newTaskResult_meets oneIngestion_undisturbed valid).mono ?_
  rintro _ _ ⟨result, rfl, made, rfl⟩
  refine activeDestinations_ingesting.mono ?_
  rintro (error | targets) stage routed
  · intro _ thrown
    cases thrown
  cases routed targets rfl
  refine (createDeliveries_meets oneIngestion_undisturbed result.id.nonempty _).mono ?_
  rintro _ _ ⟨deliveries, rfl, owed, rfl⟩
  rw [matchedTargets_eq made] at owed
  let plan : IngestPlan request (request.matchedTargets targets) :=
    ⟨result, deliveries, made, owed⟩
  refine (persist_ingesting plan).mono ?_
  rintro (error | written) stage persisted
  · intro _ thrown
    cases thrown
  cases persisted written rfl
  refine meets_awaitIngest_free oneIngestion_undisturbed rfl (fun runtime => ?_)
  simp only [IngestResultService.record, records, if_true]
  refine Program.meets_perform.mpr ⟨.inr (.record (.planned plan rfl (List.prefix_refl _))), ?_⟩
  rintro (error | recorded) _ ⟨rfl, _⟩
  · intro _ thrown
    cases thrown
  · rintro _ ⟨⟩
    rfl

/-- A call meets its contract from the start. -/
theorem ingest_meets {body : RequestBody} (gets : deps.cache.has "get" = true)
    (records : deps.cache.has "set" = true)
    (sameKey
      : ∀ request,
          ValidateResultService.validateRequest deps.numberText (some body) = .ok request
          → IngestResultService.idempotencyKey request = key)
    : (IngestResultService.ingest deps (some body)).Meets (oneIngestion deps key) .waiting
        IngestStage.Answers := by
  unfold IngestResultService.ingest
  simp only [Program.bind_eq, Program.meets_catchError, Program.meets_bind,
    Program.meets_ofResult]
  have rethrown (error : Thrown) (stage : IngestStage)
      : (IngestResultService.rethrow error).Meets (oneIngestion deps key) stage
          IngestStage.Answers := by
    obtain ⟨thrown, rethrows⟩ := rethrow_fails error
    rw [rethrows]
    intro _ returned
    cases returned
  cases accepted : ValidateResultService.validateRequest deps.numberText (some body) with
  | error error => exact rethrown error .waiting
  | ok request =>
      have valid := ValidateResultService.validated accepted
      cases sameKey request accepted
      simp only [IngestResultService.lookUpCached, gets, if_true, IdempotencyCache.get]
      refine Program.meets_perform.mpr ⟨.inr .lookUp, ?_⟩
      rintro (error | cached) _ ⟨rfl, _⟩
      · exact rethrown error _
      cases cached with
      | none =>
          refine (accept_ingesting valid records).mono ?_
          rintro (error | response) stage answers
          · exact rethrown error stage
          · exact answers
      | some value =>
          refine (answerCached_meets oneIngestion_undisturbed value).mono ?_
          rintro _ _ ⟨response, rfl, same, rfl⟩ _ ⟨⟩
          exact congrArg some same.symm

end

end QueueForge.Application
