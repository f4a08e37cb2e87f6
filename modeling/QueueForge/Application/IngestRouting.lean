import QueueForge.Application.IngestFreshness

/-! Routing of ingested results by the container's collaborators.
The destination repository it passes on has neither lookup method the service probes for,
so no request is routed anywhere.
-/

namespace QueueForge.Application

open QueueForge.Async QueueForge.Js QueueForge.Domain

/-- A destination that is to get a delivery of a request. -/
def isDue (request : IngestResultRequest) (destination : Destination) : Bool :=
  destination.enabled
  && !destination.isDeleted
  && destination.matchesEventFilter request.event

/-- A request has added one delivery for each destination that is due and none for any
other, and a job for each of the deliveries.
-/
def RoutesExactly (request : IngestResultRequest) (store left : IngestStore) : Prop :=
  ∃ deliveries,
    left.deliveries = store.deliveries ++ deliveries
    ∧ left.jobs
      = store.jobs
        ++ deliveries.map (fun delivery => .named "deliver-task-result" delivery.id)
    ∧ ∀ destinationId,
        deliveries.countP (fun delivery => delivery.destinationId = destinationId)
        = (store.destinations.any
            (fun destination =>
              destination.id = destinationId && isDue request destination)).toNat

/-- Writes that touch neither deliveries nor jobs leave both alone, by induction on them. -/
theorem IngestStore.routes_writeAll {calls : List IngestCall}
    (quiet
      : ∀ call ∈ calls, ∀ store : IngestStore,
          (store.write call).deliveries = store.deliveries
          ∧ (store.write call).jobs = store.jobs)
    (store : IngestStore)
    : (store.writeAll calls).deliveries = store.deliveries
      ∧ (store.writeAll calls).jobs = store.jobs := by
  induction calls generalizing store with
  | nil => exact ⟨rfl, rfl⟩
  | cons call rest ih =>
      obtain ⟨deliveries, jobs⟩ := quiet call List.mem_cons_self store
      obtain ⟨laterDeliveries, laterJobs⟩ :=
        ih (fun call later => quiet call (List.mem_cons_of_mem _ later)) (store.write call)
      exact ⟨laterDeliveries.trans deliveries, laterJobs.trans jobs⟩

/-- Without deliveries the plan of a request writes the task result only. -/
theorem routes_planned {deps : IngestDependencies} {result : AiTaskResult}
    {call : IngestCall} (planned : call ∈ plannedWrites deps result [])
    (store : IngestStore)
    : (store.write call).deliveries = store.deliveries
      ∧ (store.write call).jobs = store.jobs := by
  simp only [plannedWrites, List.flatMap_nil, List.append_nil] at planned
  unfold resultWrites at planned
  split_ifs at planned
  · rw [List.mem_singleton.mp planned]
    exact ⟨rfl, rfl⟩
  · rw [List.mem_singleton.mp planned]
    exact ⟨rfl, rfl⟩
  · rw [List.mem_singleton.mp planned]
    exact ⟨rfl, rfl⟩
  · cases planned

/-- An ingestion that finds no destinations adds neither deliveries nor jobs. -/
theorem ingested_unrouted {deps : IngestDependencies} {request : IngestResultRequest}
    {targets : List RoutingTarget} {fault : Option IngestFault} {start : IngestProgress}
    {outcome : Settled Thrown IngestResultResponse} {left : IngestStore}
    (nothing : foundTargets deps targets = [])
    (ingested : Ingested deps request targets fault start outcome left)
    : left.deliveries = start.store.deliveries ∧ left.jobs = start.store.jobs := by
  have unplanned (plan : IngestPlan request (request.matchedTargets (foundTargets deps targets)))
      : plan.deliveries = [] := by
    have unmatched : request.matchedTargets (foundTargets deps targets) = [] := by
      rw [nothing]
      rfl
    have count := plan.routed.length_eq.symm.trans (congrArg List.length unmatched)
    exact List.length_eq_zero_iff.mp count
  cases ingested with
  | unrouted hit given reached => exact ⟨rfl, rfl⟩
  | interrupted hit plan given reached =>
      rw [unplanned plan]
      exact IngestStore.routes_writeAll
        (fun call taken => routes_planned (List.mem_of_mem_take taken)) start.store
  | finished now recordedAt plan kept response told =>
      obtain ⟨_, deliveries, jobs⟩ :=
        recordAt_keeps deps recordedAt request response
          (start.store.writeAll (plannedWrites deps plan.result plan.deliveries))
      rw [unplanned plan] at deliveries jobs ⊢
      obtain ⟨sameDeliveries, sameJobs⟩ :=
        IngestStore.routes_writeAll (fun call planned => routes_planned planned) start.store
      exact ⟨deliveries.trans sameDeliveries, jobs.trans sameJobs⟩

/-- Under the container's wiring no valid request adds a delivery or a job. -/
theorem wired_ingest_routes_nothing {numberText : Number → String}
    (call : Ingestion numberText) (store : IngestStore)
    : let left :=
        (runIngest call.env (DependencyContainer.wired numberText) (some call.body) store).2
      left.deliveries = store.deliveries ∧ left.jobs = store.jobs := by
  have nothing (targets : List RoutingTarget)
      : foundTargets (DependencyContainer.wired numberText) targets = [] :=
    rfl
  let keeps (left : IngestStore) : Prop :=
    left.deliveries = store.deliveries ∧ left.jobs = store.jobs
  have before : keeps store := ⟨rfl, rfl⟩
  exact runIngest_keeps call.accepted before
    (fun _ _ ingested => ingested_unrouted (nothing _) ingested)

/-- The container's wiring routes a request exactly when no destination is due. -/
theorem wired_ingest_routes_iff {numberText : Number → String}
    (call : Ingestion numberText) (store : IngestStore)
    : RoutesExactly call.request store
        (runIngest call.env (DependencyContainer.wired numberText) (some call.body) store).2
      ↔ ∀ destination ∈ store.destinations, isDue call.request destination = false := by
  obtain ⟨deliveries, jobs⟩ := wired_ingest_routes_nothing call store
  constructor
  · rintro ⟨added, grown, _, counted⟩ destination stored
    have none : added = [] := by
      rw [deliveries] at grown
      exact List.self_eq_append_right.mp grown
    have count := counted destination.id
    rw [none, List.countP_nil] at count
    cases due : isDue call.request destination with
    | false => rfl
    | true =>
        have found
            : store.destinations.any
                (fun other => other.id = destination.id && isDue call.request other)
              = true :=
          List.any_eq_true.mpr ⟨destination, stored, by simp [due]⟩
        rw [found] at count
        exact nomatch count
  · intro undue
    refine ⟨[], by simp [deliveries], by simp [jobs], ?_⟩
    intro destinationId
    have nowhere
        : store.destinations.any
            (fun destination =>
              destination.id = destinationId && isDue call.request destination)
          = false := by
      refine List.any_eq_false.mpr ?_
      intro destination stored
      simp [undue destination stored]
    rw [List.countP_nil, nowhere]
    rfl

/-- A store with one enabled destination that takes every event. -/
def Sample.storeWithDestination : IngestStore := {
  Sample.store with
  destinations := [{
    id := "destination"
    eventFilters := none
    enabled := true
    deletedAt := none
    idNonempty := destination_named
  }]
}

/-- Under the container's wiring a destination without filters gets no delivery. -/
theorem enabled_destination_gets_nothing
    : ¬RoutesExactly (Sample.request "greeting") Sample.storeWithDestination
        (runIngest (Sample.environment [] none) (DependencyContainer.wired (fun _ => "1"))
          (some (Sample.body "greeting")) Sample.storeWithDestination).2 := by
  rintro ⟨added, grown, _, counted⟩
  have none
      : (runIngest (Sample.environment [] none) (DependencyContainer.wired (fun _ => "1"))
          (some (Sample.body "greeting")) Sample.storeWithDestination).2.deliveries
        = [] := by
    decide +kernel
  rw [none] at grown
  have empty : added = [] := (List.nil_eq_append_iff.mp grown).2
  have due
      : Sample.storeWithDestination.destinations.any
          (fun destination =>
            destination.id = "destination" && isDue (Sample.request "greeting") destination)
        = true := by
    decide +kernel
  have count := counted "destination"
  rw [empty, due] at count
  exact nomatch count

end QueueForge.Application
