import Mathlib.Data.List.Forall2
import QueueForge.Application.IngestStore
import QueueForge.Async.StraightLine

/-! What one ingestion leaves behind.
A request that is not cached makes a fixed list of writes; what it leaves is the part of
that list before the dependency call that rejects.
-/

namespace QueueForge.Application

open QueueForge.Async QueueForge.Js QueueForge.Domain

namespace IngestResultRequest

/-- The event a request is routed by. -/
def event (request : IngestResultRequest) : List (String × Json) :=
  IngestResultService.routingEvent (trim request.emailId) (trim request.agentId)
    request.confidenceScore request.resultPayload

/-- The destinations a request goes to. -/
def matchedTargets (request : IngestResultRequest) (targets : List RoutingTarget)
    : List RoutingTarget :=
  targets.filter (IngestResultService.isRouted request.event request.resultPayload)

end IngestResultRequest

/-- A task result made of a request. -/
structure AiTaskResult.IsOf (result : AiTaskResult) (request : IngestResultRequest)
    : Prop where
  emailId : result.emailId.value = trim request.emailId
  agentId : result.agentId.value = trim request.agentId
  confidenceScore : result.confidenceScore.value = request.confidenceScore
  resultPayload : result.resultPayload = request.resultPayload

/-- A validated request makes a task result under the identifier drawn for it. -/
theorem toDomain_returns {numberText : Number → String} {body : RequestBody}
    {request : IngestResultRequest}
    (valid : ValidateResultService.Validated numberText body request) (id : Uuid)
    (createdAt updatedAt : Int)
    : ∃ result,
        ResultMapper.toDomain numberText id createdAt updatedAt request = .ok result
        ∧ result.id = id
        ∧ AiTaskResult.IsOf result request := by
  obtain ⟨email, hasEmail⟩ := valid.emailIdValid
  obtain ⟨agent, hasAgent⟩ := valid.agentIdValid
  obtain ⟨score, hasScore⟩ := valid.confidenceScoreValid
  let result : AiTaskResult := {
    id := id
    emailId := email
    agentId := agent
    agentVersion := if request.agentVersion = "" then "1.0.0" else request.agentVersion
    confidenceScore := score
    resultPayload := request.resultPayload
    metadata := (request.llmMetadata.filter Json.truthy).getD (.object [])
    createdAt := createdAt
    updatedAt := updatedAt
  }
  refine ⟨result, ?_, rfl, ?_⟩
  · simp only [ResultMapper.toDomain, AiTaskResult.create, hasEmail, hasAgent, hasScore]
    rfl
  · exact ⟨EmailId.value_of_create hasEmail, AgentId.value_of_create hasAgent,
      ConfidenceScore.value_of_create hasScore, rfl⟩

/-- A task result goes where its request goes. -/
theorem matchedTargets_eq {result : AiTaskResult} {request : IngestResultRequest}
    (made : AiTaskResult.IsOf result request) (targets : List RoutingTarget)
    : IngestResultService.matchedTargets result targets = request.matchedTargets targets := by
  unfold IngestResultService.matchedTargets IngestResultRequest.matchedTargets
    IngestResultRequest.event
  simp only [made.emailId, made.agentId, made.confidenceScore, made.resultPayload]

/-! The calls an ingestion makes, as lists. -/

section
variable (deps : IngestDependencies)

/-- Whether the service looks destinations up, as the number of calls that takes. -/
def lookupCalls : Nat :=
  (deps.destinationRepository.has "findAllActive"
    || deps.destinationRepository.has "findAll").toNat

/-- Whether the service records its response, as the number of calls that takes. -/
def recordCalls : Nat :=
  (deps.cache.has "set").toNat

/-- The destinations the service finds among those its repository would give. -/
def foundTargets (targets : List RoutingTarget) : List RoutingTarget :=
  if lookupCalls deps = 1 then targets else []

def resultWrites (result : AiTaskResult) : List IngestCall :=
  if deps.resultRepository.has "save" then
    [.saveResult result]
  else if deps.resultRepository.has "createResult" then
    [.createResult (ResultMapper.toDTO result)]
  else if deps.resultRepository.has "create" then
    [.createResultRecord (ResultMapper.toDTO result)]
  else
    []

def deliveryWrites (delivery : Delivery) : List IngestCall :=
  if deps.deliveryRepository.has "save" then
    [.saveDelivery delivery]
  else if deps.deliveryRepository.has "create" then
    [.createDelivery (.ofDelivery delivery)]
  else
    []

def jobWrites (resultId : String) (delivery : Delivery) : List IngestCall :=
  if deps.queue.has "enqueueDelivery" then
    [.enqueueDelivery resultId delivery.destinationId 1]
  else if deps.queue.has "add" then
    [.add "deliver-task-result" delivery.id]
  else
    []

/-- The writes of an ingestion, in order. -/
def plannedWrites (result : AiTaskResult) (deliveries : List Delivery) : List IngestCall :=
  resultWrites deps result
  ++ (deliveries.flatMap (deliveryWrites deps)
    ++ deliveries.flatMap (jobWrites deps result.id.text))

theorem performs_persist (result : AiTaskResult) (deliveries : List Delivery)
    : Program.Performs (plannedWrites deps result deliveries)
        (IngestResultService.persist deps result deliveries) := by
  refine .bind ?_ (.bind (Program.performs_forEach ?_ _) (Program.performs_forEach ?_ _))
  · unfold resultWrites IngestResultService.persistResult
    split
    · exact ⟨_, rfl, fun _ => rfl, fun _ => rfl⟩
    · split
      · exact ⟨_, rfl, fun _ => rfl, fun _ => rfl⟩
      · split
        · exact ⟨_, rfl, fun _ => rfl, fun _ => rfl⟩
        · exact Program.performs_done
  · intro delivery
    unfold deliveryWrites IngestResultService.persistDelivery
    split
    · exact ⟨_, rfl, fun _ => rfl, fun _ => rfl⟩
    · split
      · exact ⟨_, rfl, fun _ => rfl, fun _ => rfl⟩
      · exact Program.performs_done
  · intro delivery
    unfold jobWrites IngestResultService.enqueue
    split
    · exact ⟨_, rfl, fun _ => rfl, fun _ => rfl⟩
    · split
      · exact ⟨_, rfl, fun _ => rfl, fun _ => rfl⟩
      · exact Program.performs_done

/-- Nothing but writes is planned. -/
theorem isWrite_of_planned {result : AiTaskResult} {deliveries : List Delivery}
    {call : IngestCall} (planned : call ∈ plannedWrites deps result deliveries)
    : call.isWrite = true := by
  have ofResult : ∀ call ∈ resultWrites deps result, call.isWrite = true := by
    unfold resultWrites
    split_ifs <;> simp [IngestCall.isWrite]
  have ofDelivery
      : ∀ delivery, ∀ call ∈ deliveryWrites deps delivery, call.isWrite = true := by
    intro delivery
    unfold deliveryWrites
    split_ifs <;> simp [IngestCall.isWrite]
  have ofJob
      : ∀ delivery, ∀ call ∈ jobWrites deps result.id.text delivery, call.isWrite = true := by
    intro delivery
    unfold jobWrites
    split_ifs <;> simp [IngestCall.isWrite]
  simp only [plannedWrites, List.mem_append, List.mem_flatMap] at planned
  rcases planned with written | ⟨delivery, _, written⟩ | ⟨delivery, _, written⟩
  · exact ofResult call written
  · exact ofDelivery delivery call written
  · exact ofJob delivery call written

end

/-- A write is a dependency call, and the time it resolves at does not matter. -/
theorem IngestCall.after_of_isWrite {call : IngestCall} (writes : call.isWrite = true)
    : call.isDependency = true
      ∧ ∀ (now : Int) (store : IngestStore), store.after now call = store.write call := by
  cases call with
  | saveResult result => exact ⟨rfl, fun _ _ => rfl⟩
  | createResult data => exact ⟨rfl, fun _ _ => rfl⟩
  | createResultRecord data => exact ⟨rfl, fun _ _ => rfl⟩
  | saveDelivery delivery => exact ⟨rfl, fun _ _ => rfl⟩
  | createDelivery data => exact ⟨rfl, fun _ _ => rfl⟩
  | enqueueDelivery taskResultId destinationId attempt => exact ⟨rfl, fun _ _ => rfl⟩
  | add name deliveryId => exact ⟨rfl, fun _ _ => rfl⟩
  | _ => contradiction

/-- The store after a list of writes. -/
def IngestStore.writeAll (store : IngestStore) (calls : List IngestCall) : IngestStore :=
  calls.foldl IngestStore.write store

theorem IngestStore.writeAll_append (store : IngestStore) (first second : List IngestCall)
    : store.writeAll (first ++ second) = (store.writeAll first).writeAll second :=
  List.foldl_append

/-- Deliveries of a result to its destinations. -/
abbrev DeliveriesTo (resultId : String) : List RoutingTarget → List Delivery → Prop :=
  List.Forall₂
    (fun target delivery =>
      delivery.taskResultId = resultId
      ∧ delivery.destinationId = target.destination.id
      ∧ delivery.status = .pending)

/-! The steps of an ingestion that make no dependency call, under any contract. -/

/-- Where the contract stands, reading the clock or drawing an identifier is allowed, never
rejects and changes nothing.
-/
def Undisturbed {Φ : Type} (contract : Contract IngestSignature Thrown Φ) (phase : Φ)
    : Prop :=
  ∀ call : IngestCall,
    call.isDependency = false
    → contract.allows phase call
      ∧ ∀ result next,
          contract.answers phase call result next
          → (∃ value, result = .ok value) ∧ next = phase

section
variable {Φ : Type} {contract : Contract IngestSignature Thrown Φ} {phase : Φ}
  (undisturbed : Undisturbed contract phase)
include undisturbed

theorem meets_awaitIngest_free {call : IngestCall} (free : call.isDependency = false)
    {post : Settled Thrown call.Result → Φ → Prop} (met : ∀ value, post (.ok value) phase)
    : Program.Meets (α := no_index call.Result) contract (awaitIngest call) phase post := by
  obtain ⟨allowed, answers⟩ := undisturbed call free
  refine Program.meets_perform.mpr ⟨allowed, ?_⟩
  intro result next answered
  obtain ⟨⟨value, rfl⟩, rfl⟩ := answers result next answered
  exact met value

/-- A new task result costs no dependency call. -/
theorem newTaskResult_meets {deps : IngestDependencies} {body : RequestBody}
    {request : IngestResultRequest}
    (valid : ValidateResultService.Validated deps.numberText body request)
    : (IngestResultService.newTaskResult deps request).Meets contract phase
        (fun outcome final =>
          ∃ result, outcome = .ok result ∧ AiTaskResult.IsOf result request ∧ final = phase) := by
  unfold IngestResultService.newTaskResult
  simp only [Program.bind_eq, Program.meets_bind, Program.meets_ofResult]
  refine meets_awaitIngest_free undisturbed rfl (fun id => ?_)
  refine meets_awaitIngest_free undisturbed rfl (fun createdAt => ?_)
  refine meets_awaitIngest_free undisturbed rfl (fun updatedAt => ?_)
  obtain ⟨result, returned, _, made⟩ :=
    toDomain_returns valid id createdAt.now updatedAt.now
  exact ⟨result, returned, made, rfl⟩

/-- A cached response is answered without a dependency call. -/
theorem answerCached_meets (value : IngestResultResponse)
    : (IngestResultService.answerCached value).Meets contract phase
        (fun outcome final =>
          ∃ response,
            outcome = .ok response ∧ response.resultId = value.resultId ∧ final = phase) := by
  unfold IngestResultService.answerCached
  cases dated : value.timestamp.or value.queuedAt with
  | some date => exact ⟨_, rfl, rfl, rfl⟩
  | none =>
      simp only [Program.bind_eq, Program.pure_eq, Program.meets_bind]
      refine meets_awaitIngest_free undisturbed rfl (fun runtime => ?_)
      exact ⟨_, rfl, rfl, rfl⟩

/-- A delivery is made for each destination, in order. -/
theorem createDeliveries_meets {resultId : String} (nonempty : resultId ≠ "")
    (matched : List RoutingTarget)
    : (IngestResultService.createDeliveries resultId matched).Meets contract phase
        (fun outcome final =>
          ∃ deliveries,
            outcome = .ok deliveries
            ∧ DeliveriesTo resultId matched deliveries
            ∧ final = phase) := by
  induction matched with
  | nil => exact ⟨[], rfl, .nil, rfl⟩
  | cons target rest ih =>
      unfold IngestResultService.createDeliveries
      simp only [Program.bind_eq, Program.meets_bind, Program.meets_ofResult]
      refine meets_awaitIngest_free undisturbed rfl (fun uuid => ?_)
      refine meets_awaitIngest_free undisturbed rfl (fun runtime => ?_)
      obtain ⟨delivery, created, _, ofResult, toTarget, pending⟩ :=
        Delivery.create_returns runtime uuid.nonempty nonempty target.destination.idNonempty
      simp only [created]
      refine ih.mono ?_
      rintro _ _ ⟨deliveries, rfl, others, rfl⟩
      exact ⟨delivery :: deliveries, rfl, .cons ⟨ofResult, toTarget, pending⟩ others, rfl⟩

end

/-! The course of one ingestion: which of its dependency calls rejects is known. -/

/-- The dependency calls made so far, and the store. -/
structure IngestProgress where
  calls : Nat
  store : IngestStore

/-- The fault, if any, does not hit a call with a number in the range. -/
def IngestFault.Spares (fault : Option IngestFault) (first last : Nat) : Prop :=
  ∀ hit, fault = some hit → hit.position < first ∨ last ≤ hit.position

/-- A lookup of destinations gives the targets. -/
def Finds (targets : List RoutingTarget) : (call : IngestCall) → call.Result → Prop
  | .findAllActive, found => found = targets
  | .findAll, found => found = targets
  | _, _ => True

def course (targets : List RoutingTarget) (fault : Option IngestFault)
    : Contract IngestSignature Thrown IngestProgress where
  allows _ _ := True
  answers progress call result next :=
    match IngestFault.rejection fault progress.calls call with
    | some error => result = .error error ∧ next = ⟨progress.calls + 1, progress.store⟩
    | none =>
        (∃ value, result = .ok value ∧ Finds targets call value)
        ∧ ∃ now,
            next = ⟨progress.calls + call.isDependency.toNat, progress.store.after now call⟩

section
variable {ι : Type} [DecidableEq ι] (env : IngestEnvironment ι) (caller : ι)

/-- The environment honours the course its destinations and its fault set. -/
theorem serve_honours_course
    : (env.serve caller).Honours (course (env.destinations caller) (env.fault caller))
        (fun progress world =>
          progress.calls = IngestEnvironment.calls caller world.trace
          ∧ progress.store = world.store) := by
  rintro ⟨calls, store⟩ world call ⟨counted, same⟩ _
  subst counted same
  simp only [course, IngestEnvironment.serve, IngestEnvironment.rejection]
  cases rejects
      : IngestFault.rejection (env.fault caller)
          (IngestEnvironment.calls caller world.trace) call with
  | some error =>
      have dependency : call.isDependency = true := by
        unfold IngestFault.rejection at rejects
        split at rejects
        · split at rejects
          · rename_i hit
            exact hit.1
          · contradiction
        · contradiction
      exact ⟨_, ⟨rfl, rfl⟩, by simp [IngestEnvironment.calls, dependency], rfl⟩
  | none =>
      refine ⟨_, ⟨⟨_, rfl, ?_⟩, _, rfl⟩, ?_, rfl⟩
      · cases call <;> trivial
      · cases dependency : call.isDependency <;>
          simp [IngestEnvironment.calls, dependency]

end

section
variable {targets : List RoutingTarget} {fault : Option IngestFault} {start : IngestProgress}

/-- In its course, reading the clock or drawing an identifier never rejects and leaves the
store alone.
-/
theorem course_undisturbed : Undisturbed (course targets fault) start := by
  intro call free
  refine ⟨trivial, ?_⟩
  intro result next answered
  have quiet : IngestFault.rejection fault start.calls call = none := by
    unfold IngestFault.rejection
    cases fault <;> simp [free]
  have unchanged : ∀ now, start.store.after now call = start.store := by
    intro now
    cases call with
    | runtime => rfl
    | randomUUID => rfl
    | _ => contradiction
  simp only [course, quiet, free, unchanged, Bool.toNat_false, Nat.add_zero] at answered
  obtain ⟨⟨value, rfl, _⟩, _, rfl⟩ := answered
  exact ⟨⟨value, rfl⟩, rfl⟩

/-- A dependency call rejects when the fault says so, and else resolves. -/
theorem course_answers {call : IngestCall} (dependency : call.isDependency = true)
    {result : Settled Thrown call.Result} {next : IngestProgress}
    (answered : (course targets fault).answers start call result next)
    : (∃ hit,
        fault = some hit
        ∧ hit.position = start.calls
        ∧ result = .error hit.error
        ∧ next = ⟨start.calls + 1, start.store⟩)
      ∨ (IngestFault.Spares fault start.calls (start.calls + 1)
        ∧ ∃ value now,
            result = .ok value
            ∧ Finds targets call value
            ∧ next = ⟨start.calls + 1, start.store.after now call⟩) := by
  by_cases meets : ∃ hit, fault = some hit ∧ hit.position = start.calls
  · obtain ⟨hit, rfl, here⟩ := meets
    simp only [course, IngestFault.rejection, dependency, here, and_self, if_true] at answered
    exact .inl ⟨hit, rfl, here, answered.1, answered.2⟩
  · have quiet : IngestFault.rejection fault start.calls call = none := by
      unfold IngestFault.rejection
      split
      case h_1 hit => exact if_neg (fun here => meets ⟨hit, rfl, here.2⟩)
      case h_2 => rfl
    have spared : IngestFault.Spares fault start.calls (start.calls + 1) := by
      intro hit given
      have apart : hit.position ≠ start.calls := fun here => meets ⟨hit, given, here⟩
      omega
    simp only [course, quiet, dependency, Bool.toNat_true] at answered
    obtain ⟨⟨value, rfl, finds⟩, now, rfl⟩ := answered
    exact .inr ⟨spared, value, now, rfl, finds, rfl⟩

/-- A list of writes leaves the part of it before the call that rejects. -/
theorem performs_meets {calls : List IngestCall} {program : IngestProgram Unit}
    (performs : Program.Performs calls program)
    (writes : ∀ call ∈ calls, call.isWrite = true)
    : program.Meets (course targets fault) start
        (fun outcome final =>
          (∃ hit,
            fault = some hit
            ∧ start.calls ≤ hit.position
            ∧ hit.position < start.calls + calls.length
            ∧ outcome = .error hit.error
            ∧ final.store
              = start.store.writeAll (calls.take (hit.position - start.calls)))
          ∨ (IngestFault.Spares fault start.calls (start.calls + calls.length)
            ∧ outcome = .ok ()
            ∧ final = ⟨start.calls + calls.length, start.store.writeAll calls⟩)) := by
  refine performs.meets
    (fun earlier progress =>
      IngestFault.Spares fault start.calls (start.calls + earlier.length)
      ∧ progress = ⟨start.calls + earlier.length, start.store.writeAll earlier⟩)
    ?_ ?_ ?_
  · rintro earlier call later _ split ⟨spared, rfl⟩
    have written := writes call (by simp [split])
    obtain ⟨dependency, effect⟩ := IngestCall.after_of_isWrite written
    refine ⟨trivial, ?_, ?_⟩
    · intro value next answered
      rcases course_answers dependency answered with
        ⟨_, _, _, ⟨⟩, _⟩ | ⟨onward, _, now, _, _, rfl⟩
      constructor
      · intro hit given
        have before := spared hit given
        have here := onward hit given
        simp only [List.length_append, List.length_singleton] at here ⊢
        omega
      · simp [effect, IngestStore.writeAll, Nat.add_assoc]
    · intro error next answered
      rcases course_answers dependency answered with
        ⟨hit, given, here, ⟨⟩, rfl⟩ | ⟨_, _, _, ⟨⟩, _⟩
      have taken : hit.position - start.calls = earlier.length := by
        simp only at here
        omega
      refine .inl ⟨hit, given, ?_, ?_, rfl, ?_⟩
      · simp only at here
        omega
      · simp only [split, List.length_append, List.length_cons] at here ⊢
        omega
      · simp [split, taken]
  · rintro _ ⟨spared, rfl⟩
    exact .inr ⟨spared, rfl, rfl⟩
  · refine ⟨?_, rfl⟩
    intro hit _
    simp only [List.length_nil, Nat.add_zero]
    omega

/-- The lookup of destinations is at most one call. -/
theorem activeDestinations_meets {deps : IngestDependencies}
    : (IngestResultService.activeDestinations deps).Meets (course targets fault) start
        (fun outcome final =>
          (∃ hit,
            fault = some hit
            ∧ start.calls ≤ hit.position
            ∧ hit.position < start.calls + lookupCalls deps
            ∧ outcome = .error hit.error
            ∧ final.store = start.store)
          ∨ (IngestFault.Spares fault start.calls (start.calls + lookupCalls deps)
            ∧ outcome = .ok (foundTargets deps targets)
            ∧ final = ⟨start.calls + lookupCalls deps, start.store⟩)) := by
  unfold IngestResultService.activeDestinations
  by_cases active : deps.destinationRepository.has "findAllActive" = true
  · have one : lookupCalls deps = 1 := by simp [lookupCalls, active]
    simp only [active, if_true, foundTargets, one]
    refine Program.meets_perform.mpr ⟨trivial, ?_⟩
    intro result next answered
    rcases course_answers rfl answered with
      ⟨hit, given, here, rfl, rfl⟩ | ⟨spared, value, now, rfl, rfl, rfl⟩
    · exact .inl ⟨hit, given, by omega, by omega, rfl, rfl⟩
    · exact .inr ⟨spared, rfl, rfl⟩
  · by_cases all : deps.destinationRepository.has "findAll" = true
    · have one : lookupCalls deps = 1 := by simp [lookupCalls, all]
      simp only [active, all, if_true, foundTargets, one]
      refine Program.meets_perform.mpr ⟨trivial, ?_⟩
      intro result next answered
      rcases course_answers rfl answered with
        ⟨hit, given, here, rfl, rfl⟩ | ⟨spared, value, now, rfl, rfl, rfl⟩
      · exact .inl ⟨hit, given, by omega, by omega, rfl, rfl⟩
      · exact .inr ⟨spared, rfl, rfl⟩
    · have none : lookupCalls deps = 0 := by simp [lookupCalls, active, all]
      simp only [active, all, foundTargets, none]
      refine .inr ⟨?_, rfl, rfl⟩
      intro hit _
      omega

end

/-- The number of the first write of an ingestion that has made `calls` dependency calls. -/
def firstWrite (deps : IngestDependencies) (calls : Nat) : Nat :=
  calls + lookupCalls deps

/-- How many dependency calls an ingestion has made when it has made all of them. -/
def allCalls (deps : IngestDependencies) (calls : Nat) (result : AiTaskResult)
    (deliveries : List Delivery)
    : Nat :=
  firstWrite deps calls + (plannedWrites deps result deliveries).length + recordCalls deps

/-- The store with the response recorded, if the service has a cache to record it in. -/
def recordAt (deps : IngestDependencies) (now : Int) (request : IngestResultRequest)
    (response : IngestResultResponse) (store : IngestStore)
    : IngestStore :=
  if recordCalls deps = 1 then
    store.after now
      (.redisSetex (IngestResultService.idempotencyKey request) (24 * 3600) response)
  else
    store

/-- The result and the deliveries an ingestion makes of a request. -/
structure IngestPlan (request : IngestResultRequest) (matched : List RoutingTarget) where
  result : AiTaskResult
  deliveries : List Delivery
  made : AiTaskResult.IsOf result request
  routed : DeliveriesTo result.id.text matched deliveries

/-- How the ingestion of a request that is not cached settles, and the store it leaves. -/
inductive Ingested (deps : IngestDependencies) (request : IngestResultRequest)
    (targets : List RoutingTarget) (fault : Option IngestFault) (start : IngestProgress)
    : Settled Thrown IngestResultResponse → IngestStore → Prop
  | unrouted (hit : IngestFault) (rejects : fault = some hit)
    (reached : start.calls ≤ hit.position ∧ hit.position < firstWrite deps start.calls)
    : Ingested deps request targets fault start (.error hit.error) start.store
  | interrupted (hit : IngestFault)
    (plan : IngestPlan request (request.matchedTargets (foundTargets deps targets)))
    (rejects : fault = some hit)
    (reached
      : firstWrite deps start.calls ≤ hit.position
        ∧ hit.position < allCalls deps start.calls plan.result plan.deliveries)
    : Ingested deps request targets fault start (.error hit.error)
        (start.store.writeAll
          ((plannedWrites deps plan.result plan.deliveries).take
            (hit.position - firstWrite deps start.calls)))
  | finished (now recordedAt : Int)
    (plan : IngestPlan request (request.matchedTargets (foundTargets deps targets)))
    (spared
      : IngestFault.Spares fault start.calls
          (allCalls deps start.calls plan.result plan.deliveries))
    (response : IngestResultResponse)
    (answered
      : response
        = IngestResultService.accepted plan.result.id.text plan.deliveries.length now)
    : Ingested deps request targets fault start (.ok response)
        (recordAt deps recordedAt request response
          (start.store.writeAll (plannedWrites deps plan.result plan.deliveries)))

section
variable {targets : List RoutingTarget} {fault : Option IngestFault} {start : IngestProgress}

/-- Recording the response is at most one call. -/
theorem record_meets {deps : IngestDependencies} {request : IngestResultRequest}
    {response : IngestResultResponse}
    : (IngestResultService.record deps (IngestResultService.idempotencyKey request)
        response).Meets (course targets fault) start
        (fun outcome final =>
          (∃ hit,
            fault = some hit
            ∧ start.calls ≤ hit.position
            ∧ hit.position < start.calls + recordCalls deps
            ∧ outcome = .error hit.error
            ∧ final.store = start.store)
          ∨ (IngestFault.Spares fault start.calls (start.calls + recordCalls deps)
            ∧ outcome = .ok ()
            ∧ ∃ now, final.store = recordAt deps now request response start.store)) := by
  unfold IngestResultService.record
  by_cases recorded : deps.cache.has "set" = true
  · have one : recordCalls deps = 1 := by simp [recordCalls, recorded]
    simp only [recorded, if_true, recordAt, one]
    refine Program.meets_perform.mpr ⟨trivial, ?_⟩
    intro result next answered
    rcases course_answers rfl answered with
      ⟨hit, given, here, rfl, rfl⟩ | ⟨spared, value, now, rfl, _, rfl⟩
    · exact .inl ⟨hit, given, by omega, by omega, rfl, rfl⟩
    · exact .inr ⟨spared, rfl, now, rfl⟩
  · have none : recordCalls deps = 0 := by simp [recordCalls, recorded]
    simp only [recorded, recordAt, none]
    refine .inr ⟨?_, rfl, 0, rfl⟩
    intro hit _
    omega

/-- A validated request that is not cached is ingested along its course. -/
theorem accept_meets {deps : IngestDependencies} {body : RequestBody}
    {request : IngestResultRequest}
    (valid : ValidateResultService.Validated deps.numberText body request)
    : (IngestResultService.accept deps request).Meets (course targets fault) start
        (fun outcome final => Ingested deps request targets fault start outcome final.store) := by
  unfold IngestResultService.accept
  simp only [Program.bind_eq, Program.pure_eq, Program.meets_bind, Program.meets_done]
  refine (newTaskResult_meets course_undisturbed valid).mono ?_
  rintro _ start ⟨result, rfl, made, rfl⟩
  refine activeDestinations_meets.mono ?_
  rintro _ ⟨_, _⟩ (⟨hit, given, reached, before, rfl, rfl⟩ | ⟨spared, rfl, ⟨⟩⟩)
  · exact .unrouted hit given ⟨reached, before⟩
  refine (createDeliveries_meets course_undisturbed result.id.nonempty _).mono ?_
  rintro _ _ ⟨deliveries, rfl, routed, rfl⟩
  rw [matchedTargets_eq made] at routed
  let plan : IngestPlan request (request.matchedTargets (foundTargets deps targets)) :=
    ⟨result, deliveries, made, routed⟩
  refine (performs_meets (performs_persist deps result deliveries)
    (fun call planned => isWrite_of_planned deps planned)).mono ?_
  rintro _ ⟨_, _⟩ (⟨hit, given, reached, before, rfl, rfl⟩ | ⟨unhit, rfl, ⟨⟩⟩)
  · refine .interrupted hit plan given ⟨reached, ?_⟩
    unfold allCalls firstWrite
    exact Nat.lt_of_lt_of_le before (Nat.le_add_right _ _)
  refine meets_awaitIngest_free course_undisturbed rfl (fun runtime => ?_)
  refine record_meets.mono ?_
  rintro _ ⟨_, _⟩ (⟨hit, given, reached, before, rfl, rfl⟩ | ⟨kept, rfl, recordedAt, rfl⟩)
  · -- Every write was made before the recording rejected.
    simp only at reached before
    have all
        : (plannedWrites deps result deliveries).take
            (hit.position - firstWrite deps start.calls)
          = plannedWrites deps result deliveries :=
      List.take_of_length_le (by unfold firstWrite; omega)
    have settled
        : Ingested deps request targets fault start (.error hit.error)
            (start.store.writeAll
              ((plannedWrites deps result deliveries).take
                (hit.position - firstWrite deps start.calls))) :=
      .interrupted hit plan given ⟨by unfold firstWrite; omega, before⟩
    rwa [all] at settled
  · refine .finished runtime.now recordedAt plan ?_ _ ?_
    · intro hit given
      have first := spared hit given
      have second := unhit hit given
      have third := kept hit given
      simp only at second third
      simp only [plan, allCalls, firstWrite]
      omega
    · rw [matchedTargets_eq made, routed.length_eq]

end

/-! One ingestion as a whole, by what the cache answers. -/

/-- Whether the service looks its key up, as the number of calls that takes. -/
def cacheCalls (deps : IngestDependencies) : Nat :=
  (deps.cache.has "get").toNat

/-- The response cached for a request at a time, if the service has a cache to look in. -/
def cachedFor (deps : IngestDependencies) (store : IngestStore) (now : Int)
    (request : IngestResultRequest)
    : Option IngestResultResponse :=
  if cacheCalls deps = 1 then
    store.cached? (IngestResultService.idempotencyKey request) now
  else
    none

section
variable {env : IngestEnvironment Unit} {deps : IngestDependencies} {store : IngestStore}
  {body : Option RequestBody} {request : IngestResultRequest}

/-- The catch block throws, whatever it caught. -/
theorem rethrow_fails (error : Thrown)
    : ∃ thrown, IngestResultService.rethrow error = .fail thrown := by
  cases error with
  | nullish => exact ⟨_, rfl⟩
  | text value => exact ⟨_, rfl⟩
  | error object => exact ⟨_, rfl⟩

/-- The lookup gives what is cached and leaves the store alone. -/
theorem lookUpCached_run (store : IngestStore) (request : IngestResultRequest)
    (spared : IngestFault.Spares (env.fault ()) 0 (cacheCalls deps))
    : ∃ after,
        (IngestResultService.lookUpCached deps
          (IngestResultService.idempotencyKey request)).run (env.serve ()) ⟨store, []⟩
          = (.ok (cachedFor deps store env.start request), after)
        ∧ after.store = store
        ∧ IngestEnvironment.calls () after.trace = cacheCalls deps := by
  unfold IngestResultService.lookUpCached
  by_cases present : deps.cache.has "get" = true
  · have one : cacheCalls deps = 1 := by simp [cacheCalls, present]
    let call : IngestCall := .redisGet (IngestResultService.idempotencyKey request)
    have quiet : env.rejection () ⟨store, []⟩ call = none := by
      unfold IngestEnvironment.rejection IngestFault.rejection
      split
      case h_1 hit given =>
        have first := spared hit given
        refine if_neg ?_
        rintro ⟨_, here⟩
        simp only [IngestEnvironment.calls, List.countP_nil] at here
        omega
      case h_2 => rfl
    simp only [present, if_true, cachedFor, one]
    exact ⟨_, run_awaitIngest.trans (IngestEnvironment.serve_of_quiet quiet), rfl, rfl⟩
  · have zero : cacheCalls deps = 0 := by simp [cacheCalls, present]
    simp only [present, cachedFor, zero]
    exact ⟨⟨store, []⟩, rfl, rfl, rfl⟩

/-- A cached response is answered without a dependency call. -/
theorem answerCached_run (env : IngestEnvironment Unit) (value : IngestResultResponse)
    (world : IngestWorld Unit)
    : ∃ response after,
        (IngestResultService.answerCached value).run (env.serve ()) world
          = (.ok response, after)
        ∧ response.resultId = value.resultId
        ∧ after.store = world.store := by
  unfold IngestResultService.answerCached
  cases dated : value.timestamp.or value.queuedAt with
  | some date => exact ⟨_, world, rfl, rfl, rfl⟩
  | none =>
      have quiet : env.rejection () world .runtime = none :=
        IngestEnvironment.rejection_of_free rfl
      simp only [Program.bind_eq, Program.pure_eq, Program.run_bind, run_awaitIngest,
        IngestEnvironment.serve_of_quiet quiet, Program.run_done]
      exact ⟨_, _, rfl, rfl, rfl⟩

/-- An invalid request is rejected before anything is read or written. -/
theorem runIngest_invalid {error : Thrown}
    (invalid : ValidateResultService.validateRequest deps.numberText body = .error error)
    : ∃ thrown, runIngest env deps body store = (.error thrown, store) := by
  obtain ⟨thrown, rethrows⟩ := rethrow_fails error
  refine ⟨thrown, ?_⟩
  simp [runIngest, IngestResultService.ingest, invalid, rethrows]

section
variable
  (valid : ValidateResultService.validateRequest deps.numberText body = .ok request)
include valid

/-- A cache that rejects the lookup ends the ingestion. -/
theorem runIngest_unanswered {hit : IngestFault} (given : env.fault () = some hit)
    (first : hit.position = 0) (looksUp : cacheCalls deps = 1)
    : ∃ thrown, runIngest env deps body store = (.error thrown, store) := by
  obtain ⟨thrown, rethrows⟩ := rethrow_fails hit.error
  refine ⟨thrown, ?_⟩
  have present : deps.cache.has "get" = true := by simpa [cacheCalls] using looksUp
  have rejects (key : String)
      : env.rejection () ⟨store, []⟩ (.redisGet key) = some hit.error := by
    simp [IngestEnvironment.rejection, IngestFault.rejection, IngestEnvironment.calls, given,
      first, IngestCall.isDependency]
  simp only [runIngest, IngestResultService.ingest, valid, IngestResultService.lookUpCached,
    present, if_true, IdempotencyCache.get, Program.bind_eq, Program.run_catchError,
    Program.run_bind, Program.run_ofResult, run_awaitIngest,
    IngestEnvironment.serve_of_rejects (rejects _), rethrows, Program.run_fail]

/-- A fault that does not spare the lookup hits it. -/
theorem runIngest_unspared
    (faulty : ¬IngestFault.Spares (env.fault ()) 0 (cacheCalls deps))
    : ∃ thrown, runIngest env deps body store = (.error thrown, store) := by
  have looksUp : cacheCalls deps ≤ 1 := Bool.toNat_le _
  unfold IngestFault.Spares at faulty
  push Not at faulty
  obtain ⟨hit, given, _, first⟩ := faulty
  exact runIngest_unanswered valid given (by omega) (by omega)

/-- A cached request is answered with the cached result. -/
theorem runIngest_cached {value : IngestResultResponse}
    (spared : IngestFault.Spares (env.fault ()) 0 (cacheCalls deps))
    (cached : cachedFor deps store env.start request = some value)
    : ∃ response,
        runIngest env deps body store = (.ok response, store)
        ∧ response.resultId = value.resultId := by
  obtain ⟨found, looked, untouched, _⟩ := lookUpCached_run store request spared
  obtain ⟨response, after, answered, same, kept⟩ := answerCached_run env value found
  refine ⟨response, ?_, same⟩
  simp only [runIngest, IngestResultService.ingest, valid, Program.bind_eq,
    Program.run_catchError, Program.run_bind, Program.run_ofResult, looked, cached, answered,
    kept, untouched]

/-- A request that is not cached is ingested along its course. -/
theorem runIngest_missed (spared : IngestFault.Spares (env.fault ()) 0 (cacheCalls deps))
    (missed : cachedFor deps store env.start request = none)
    : ∃ outcome,
        Ingested deps request (env.destinations ()) (env.fault ()) ⟨cacheCalls deps, store⟩
          outcome (runIngest env deps body store).2
        ∧ match outcome with
          | .ok response => (runIngest env deps body store).1 = .ok response
          | .error _ => ∃ thrown, (runIngest env deps body store).1 = .error thrown := by
  obtain ⟨found, looked, untouched, counted⟩ := lookUpCached_run store request spared
  cases body with
  | none => contradiction
  | some body =>
      have met
          : (IngestResultService.accept deps request).Meets
              (course (env.destinations ()) (env.fault ())) ⟨cacheCalls deps, store⟩
              (fun outcome final =>
                Ingested deps request (env.destinations ()) (env.fault ())
                  ⟨cacheCalls deps, store⟩ outcome final.store) :=
        accept_meets (ValidateResultService.validated valid)
      obtain ⟨final, ingested, _, same⟩ :=
        met.run (serve_honours_course env ()) ⟨counted.symm, untouched.symm⟩
      have ran
          : runIngest env deps (some body) store
            = match (IngestResultService.accept deps request).run (env.serve ()) found with
              | (.ok response, after) => (.ok response, after.store)
              | (.error error, after) =>
                  (((IngestResultService.rethrow error).run (env.serve ()) after).1,
                    ((IngestResultService.rethrow error).run (env.serve ()) after).2.store) := by
        simp only [runIngest, IngestResultService.ingest, valid, Program.bind_eq,
          Program.run_catchError, Program.run_bind, Program.run_ofResult, looked, missed]
        rcases (IngestResultService.accept deps request).run (env.serve ()) found with
          ⟨error | response, after⟩ <;> rfl
      rw [ran]
      rw [same] at ingested
      rcases settled : (IngestResultService.accept deps request).run (env.serve ()) found with
        ⟨error | response, after⟩
      · obtain ⟨thrown, rethrows⟩ := rethrow_fails error
        rw [settled] at ingested
        simp only [rethrows, Program.run_fail]
        exact ⟨_, ingested, thrown, rfl⟩
      · rw [settled] at ingested
        exact ⟨_, ingested, rfl⟩

/-- What holds of the store before a call and of every store an ingestion leaves holds of
the store the call leaves.
-/
theorem runIngest_keeps {keeps : IngestStore → Prop} (before : keeps store)
    (after
      : ∀ outcome left,
          Ingested deps request (env.destinations ()) (env.fault ())
            ⟨cacheCalls deps, store⟩ outcome left
          → keeps left)
    : keeps (runIngest env deps body store).2 := by
  have unchanged {settled : Settled Thrown IngestResultResponse}
      (ran : runIngest env deps body store = (settled, store))
      : keeps (runIngest env deps body store).2 := by
    rw [ran]
    exact before
  by_cases answered : IngestFault.Spares (env.fault ()) 0 (cacheCalls deps)
  · cases missed : cachedFor deps store env.start request with
    | some value =>
        obtain ⟨response, ran, _⟩ := runIngest_cached valid answered missed
        exact unchanged ran
    | none =>
        obtain ⟨outcome, ingested, _⟩ := runIngest_missed valid answered missed
        exact after outcome _ ingested
  · obtain ⟨thrown, ran⟩ := runIngest_unspared valid answered
    exact unchanged ran

end
end

end QueueForge.Application
