import Mathlib.Data.List.Nodup
import QueueForge.Application.IngestFreshness

/-! Whether the routing of a request depends on its envelope alone.
The members of a payload replace the members of the envelope in the event a destination is
matched with, so a sender can decide by them where a result goes.
-/

namespace QueueForge.Application

open QueueForge.Async QueueForge.Js QueueForge.Domain

namespace FindDestinationsService

/-- What `findMatching` is given: a task result, or an event of its own. -/
inductive ResultOrFilters where
  | ofResult (result : AiTaskResult)
  | ofFilters (event : List (String × Json))

/-- The payload the destinations are matched with. -/
def ResultOrFilters.payload : ResultOrFilters → List (String × Json)
  | ofResult result =>
      IngestResultService.routingEvent result.emailId.value result.agentId.value
        result.confidenceScore.value result.resultPayload
  | ofFilters event => event

/-- Retrieves all routes matching specific event payload attributes, of those the repository
gives.
-/
def findMatching (resultOrFilters : ResultOrFilters) (activeDestinations : List RoutingTarget)
    : List RoutingTarget :=
  let payload := resultOrFilters.payload
  activeDestinations.filter (IngestResultService.isRouted payload payload)

end FindDestinationsService

/-- A destination as its entity, which has both methods. -/
def RoutingTarget.entity (destination : Destination) : RoutingTarget where
  destination := destination
  methods := Destination.methods

/-- Entities are routed by their filters. -/
theorem isRouted_entity (event resultPayload : List (String × Json)) (destination : Destination)
    : IngestResultService.isRouted event resultPayload (.entity destination)
      = destination.matchesEventFilter event := by
  have «matches» : Destination.methods.contains "matches" = true := by decide
  rw [IngestResultService.isRouted, RoutingTarget.entity, if_pos «matches»]
  rfl

/-- The routes that are found for a result are those it is ingested to. -/
theorem findMatching_result (result : AiTaskResult) (destinations : List Destination)
    : FindDestinationsService.findMatching (.ofResult result) (destinations.map .entity)
      = IngestResultService.matchedTargets result (destinations.map .entity) := by
  refine List.filter_congr (fun target listed => ?_)
  obtain ⟨destination, _, rfl⟩ := List.mem_map.mp listed
  rw [isRouted_entity, isRouted_entity]
  rfl

/-- The fields of a request a filter may be about. -/
def envelopeKeys : List String :=
  ["emailId", "agentId", "confidenceScore"]

/-- The envelope of a request, as its task result has it. -/
def IngestResultRequest.envelope (request : IngestResultRequest) : List (String × Json) := [
  ("emailId", .string (trim request.emailId)),
  ("agentId", .string (trim request.agentId)),
  ("confidenceScore", .number request.confidenceScore)
]

/-- The filters mention no other fields. -/
def Destination.FiltersEnvelope (destination : Destination) : Prop :=
  ∀ filters, destination.eventFilters = some filters → ∀ filter ∈ filters, filter.1 ∈ envelopeKeys

section
variable {numberText : Number → String}

/-- A call that finds the given destinations, none of its collaborators rejecting. -/
def Ingestion.finding (call : Ingestion numberText) (destinations : List Destination)
    : Ingestion numberText := {
  call with
  env := {
    call.env with
    destinations := fun _ => destinations.map .entity
    fault := fun _ => none
  }
}

/-- A run of the call stores a delivery for the destination. -/
def GetsDelivery (repository : Collaborator) (call : Ingestion numberText) (store : IngestStore)
    (destinationId : String)
    : Prop :=
  ∃ added,
    (call.run repository store).2.deliveries = store.deliveries ++ added
    ∧ ∃ delivery ∈ added, delivery.destinationId = destinationId

/-- The runs of two requests agree on every destination with filters for the envelope only,
whatever else is found beside it, and wherever they run without being answered from the cache.
-/
def RoutedAlike (repository : Collaborator) (first second : Ingestion numberText) : Prop :=
  ∀ (destinations : List Destination) (destination : Destination),
    (destinations.map Destination.id).Nodup
    → destination ∈ destinations
    → Destination.FiltersEnvelope destination
    → ∀ one other : IngestStore,
        ¬FindsLiveEntry (first.finding destinations) one
        → ¬FindsLiveEntry (second.finding destinations) other
        → (GetsDelivery repository (first.finding destinations) one destination.id
          ↔ GetsDelivery repository (second.finding destinations) other destination.id)

/-- No filter tells two values apart: they are the same, or equal to nothing. -/
def Alike (left right : Json) : Prop :=
  left = right ∨ left.isComparable = false ∧ right.isComparable = false

/-- What a filter sees under a name of the envelope: the payload's member, or else the field. -/
def seenThrough (envelope resultPayload : List (String × Json)) (key : String) : Json :=
  ((resultPayload.lookup key).or (envelope.lookup key)).getD .null

/-- The event has the member under a name of the envelope. -/
theorem event_lookup (request : IngestResultRequest) {key : String} (named : key ∈ envelopeKeys)
    : request.event.lookup key = some (seenThrough request.envelope request.resultPayload key) := by
  have field : (request.envelope.lookup key).isSome = true := by
    rcases List.mem_cons.mp named with rfl | later
    · rfl
    · rcases List.mem_cons.mp later with rfl | last
      · rfl
      · obtain rfl := List.mem_singleton.mp last
        rfl
  obtain ⟨value, given⟩ := Option.isSome_iff_exists.mp field
  have event : request.event = request.resultPayload ++ request.envelope := rfl
  rw [event, List.lookup_append, seenThrough, given]
  cases request.resultPayload.lookup key <;> rfl

/-- What the filters of the envelope say depends on what they see. -/
theorem matchesEventFilter_seen (request : IngestResultRequest) {destination : Destination}
    (envelope : Destination.FiltersEnvelope destination)
    : destination.matchesEventFilter request.event = true
      ↔ ∀ filters,
          destination.eventFilters = some filters
          → ∀ filter ∈ filters,
              (seenThrough request.envelope request.resultPayload filter.1).strictEqual filter.2
              = true := by
  unfold Destination.matchesEventFilter
  cases given : destination.eventFilters with
  | none => exact iff_of_true rfl nofun
  | some filters =>
      simp only [List.all_eq_true, Option.some.injEq, forall_eq']
      refine forall₂_congr (fun filter listed => ?_)
      rw [event_lookup request (envelope filters given filter listed)]

/-- Values that are alike pass the same filters. -/
theorem Alike.strictEqual {left right : Json} (alike : Alike left right) (value : Json)
    : left.strictEqual value = true ↔ right.strictEqual value = true := by
  rcases alike with rfl | ⟨leftApart, rightApart⟩
  · exact Iff.rfl
  · rw [Json.strictEqual_iff, Json.strictEqual_iff, leftApart, rightApart]
    exact iff_of_false (fun both => by cases both.2) (fun both => by cases both.2)

/-- Conversely, values that pass the same filters are alike. -/
theorem alike_of_strictEqual {left right : Json}
    (same : ∀ value, left.strictEqual value = true ↔ right.strictEqual value = true)
    : Alike left right := by
  cases leftComparable : left.isComparable with
  | true =>
      have itself : right.strictEqual left = true :=
        (same left).mp (Json.strictEqual_iff.mpr ⟨rfl, leftComparable⟩)
      exact .inl (Json.strictEqual_iff.mp itself).1.symm
  | false =>
      cases rightComparable : right.isComparable with
      | true =>
          have itself : left.strictEqual right = true :=
            (same right).mpr (Json.strictEqual_iff.mpr ⟨rfl, rightComparable⟩)
          exact .inl (Json.strictEqual_iff.mp itself).1
      | false => exact .inr ⟨leftComparable, rightComparable⟩

/-- The deliveries of a result go to its destinations, in order. -/
theorem destinationIds_of_routed {resultId : String} {matched : List RoutingTarget}
    {deliveries : List Delivery} (routed : DeliveriesTo resultId matched deliveries)
    : deliveries.map Delivery.destinationId
      = matched.map (fun target => target.destination.id) := by
  induction routed with
  | nil => rfl
  | cons made _ ih => rw [List.map_cons, List.map_cons, ih, made.2.1]

/-- A call that is not answered from the cache stores a delivery for a destination it has found
exactly when the filters match.
-/
theorem getsDelivery_iff {repository : Collaborator} (call : Ingestion numberText)
    (looksUp
      : repository.has "findAllActive" = true ∨ repository.has "findAll" = true)
    {destinations : List Destination} {destination : Destination}
    (distinct : (destinations.map Destination.id).Nodup) (listed : destination ∈ destinations)
    {store : IngestStore} (missed : ¬FindsLiveEntry (call.finding destinations) store)
    : GetsDelivery repository (call.finding destinations) store destination.id
      ↔ destination.matchesEventFilter call.request.event = true := by
  have served := (@servedAnew_iff _ repository _ store).mpr missed
  obtain ⟨response, returned⟩ := served.returns rfl
  obtain ⟨plan, -, -, deliveries, -⟩ := served.own response returned
  have found
      : foundTargets (deployment numberText repository)
          ((call.finding destinations).env.destinations ())
        = destinations.map .entity := by
    refine if_pos ?_
    have either
        : (repository.has "findAllActive" || repository.has "findAll") = true :=
      Bool.or_eq_true _ _ |>.mpr looksUp
    exact congrArg Bool.toNat either
  have matched
      : (call.finding destinations).matched repository
        = (destinations.filter
            (fun other => other.matchesEventFilter call.request.event)).map .entity := by
    rw [Ingestion.matched, found, IngestResultRequest.matchedTargets, List.filter_map]
    refine congrArg (List.map RoutingTarget.entity) (List.filter_congr (fun other _ => ?_))
    exact isRouted_entity _ _ other
  have routed
      : (plan.deliveries.map DeliveryData.ofDelivery).map DeliveryData.destinationId
        = (destinations.filter
            (fun other => other.matchesEventFilter call.request.event)).map Destination.id := by
    rw [List.map_map]
    refine ((destinationIds_of_routed plan.routed).trans (congrArg _ matched)).trans ?_
    rw [List.map_map]
    rfl
  constructor
  · rintro ⟨added, grown, delivery, stored, toDestination⟩
    rw [deliveries] at grown
    rw [List.append_cancel_left grown] at routed
    have named := @List.mem_map_of_mem _ _ _ _ DeliveryData.destinationId stored
    rw [routed, toDestination] at named
    obtain ⟨other, kept, same⟩ := List.mem_map.mp named
    obtain ⟨present, matching⟩ := List.mem_filter.mp kept
    rw [← List.inj_on_of_nodup_map distinct present listed same]
    exact matching
  · intro matching
    have named
        : destination.id
          ∈ (plan.deliveries.map DeliveryData.ofDelivery).map DeliveryData.destinationId := by
      rw [routed]
      exact List.mem_map_of_mem (List.mem_filter.mpr ⟨listed, matching⟩)
    exact ⟨_, deliveries, List.mem_map.mp named⟩

/-- A store with an empty cache answers no request from it. -/
theorem not_findsLiveEntry_empty (call : Ingestion numberText) : ¬FindsLiveEntry call Sample.store :=
  fun finds => nomatch finds.2

section
variable {repository : Collaborator} {first second : Ingestion numberText}
  (looksUp : repository.has "findAllActive" = true ∨ repository.has "findAll" = true)
include looksUp

/-- Two requests that the filters of the envelope see alike are routed alike. -/
theorem routedAlike_of_alike
    (alike
      : ∀ key ∈ envelopeKeys,
          Alike (seenThrough first.request.envelope first.request.resultPayload key)
            (seenThrough second.request.envelope second.request.resultPayload key))
    : RoutedAlike repository first second := by
  intro destinations destination distinct listed envelope one other missed missedOther
  rw [getsDelivery_iff first looksUp distinct listed missed,
    getsDelivery_iff second looksUp distinct listed missedOther,
    matchesEventFilter_seen _ envelope, matchesEventFilter_seen _ envelope]
  refine forall₂_congr (fun filters given => forall₂_congr (fun filter member => ?_))
  exact (alike filter.1 (envelope filters given filter member)).strictEqual filter.2

/-- Conversely, by the destinations with a single filter. -/
theorem alike_of_routedAlike (routed : RoutedAlike repository first second)
    {key : String} (named : key ∈ envelopeKeys)
    : Alike (seenThrough first.request.envelope first.request.resultPayload key)
        (seenThrough second.request.envelope second.request.resultPayload key) := by
  refine alike_of_strictEqual (fun value => ?_)
  let destination : Destination := {
    id := "destination"
    eventFilters := some [(key, value)]
    enabled := true
    deletedAt := none
    idNonempty := by decide
  }
  have envelope : Destination.FiltersEnvelope destination := by
    rintro _ ⟨rfl⟩ filter member
    rw [List.mem_singleton.mp member]
    exact named
  have matching (request : IngestResultRequest)
      : destination.matchesEventFilter request.event = true
        ↔ (seenThrough request.envelope request.resultPayload key).strictEqual value = true := by
    rw [matchesEventFilter_seen request envelope]
    constructor
    · intro all
      exact all _ rfl _ List.mem_cons_self
    · rintro seen _ ⟨rfl⟩ filter member
      rw [List.mem_singleton.mp member]
      exact seen
  have distinct : ([destination].map Destination.id).Nodup := List.nodup_singleton _
  have listed : destination ∈ [destination] := List.mem_cons_self
  have same :=
    routed [destination] destination distinct listed envelope Sample.store Sample.store
      (not_findsLiveEntry_empty _) (not_findsLiveEntry_empty _)
  rw [getsDelivery_iff first looksUp distinct listed (not_findsLiveEntry_empty _),
    getsDelivery_iff second looksUp distinct listed (not_findsLiveEntry_empty _)] at same
  exact (matching first.request).symm.trans (same.trans (matching second.request))

/-- Payloads without members under the names of the envelope do not route. -/
theorem routedAlike_of_unshadowed (agree : first.request.envelope = second.request.envelope)
    (unshadowed
      : ∀ key ∈ envelopeKeys,
          first.request.resultPayload.lookup key = none
          ∧ second.request.resultPayload.lookup key = none)
    : RoutedAlike repository first second := by
  refine routedAlike_of_alike looksUp (fun key named => .inl ?_)
  rw [seenThrough, seenThrough, (unshadowed key named).1, (unshadowed key named).2, agree]

/-- Two requests with the same envelope are routed alike exactly when their payloads show the
filters the same values under the names of the envelope.
-/
theorem routing_depends_on_envelope_iff
    (agree : first.request.envelope = second.request.envelope)
    : RoutedAlike repository first second
      ↔ ∀ key ∈ envelopeKeys,
          Alike (seenThrough first.request.envelope first.request.resultPayload key)
            (seenThrough first.request.envelope second.request.resultPayload key) := by
  constructor
  · intro routed key named
    have alike := alike_of_routedAlike looksUp routed named
    rwa [← agree] at alike
  · intro alike
    refine routedAlike_of_alike looksUp ?_
    rw [← agree]
    exact alike

end

end

/-- The methods of a destination repository that has the lookup the service asks for first. -/
def activeDestinationRepository : Collaborator := some ["findAllActive"]

/-- The sample request with another payload. -/
def Sample.requestOf (resultPayload : List (String × Json)) : IngestResultRequest := {
  Sample.request "" with
  resultPayload := resultPayload
}

theorem Sample.envelope_requestOf (resultPayload : List (String × Json))
    : (Sample.requestOf resultPayload).envelope = (Sample.request "").envelope :=
  rfl

/-- A quiet call with it. -/
def Sample.ingestionOf (resultPayload : List (String × Json))
    (accepted
      : ValidateResultService.validateRequest (fun _ => "1")
          (some { Sample.body "" with resultPayload := some (.object resultPayload) })
        = .ok (Sample.requestOf resultPayload))
    : Ingestion (fun _ => "1") where
  body := { Sample.body "" with resultPayload := some (.object resultPayload) }
  request := Sample.requestOf resultPayload
  accepted := accepted
  env := Sample.environment [] none

theorem greetings_routed_alike
    : RoutedAlike activeDestinationRepository
        (Sample.ingestionOf [("subject", .string "greeting")] rfl)
        (Sample.ingestionOf [("subject", .string "farewell")] rfl) := by
  have agree
      : (Sample.requestOf [("subject", .string "greeting")]).envelope
        = (Sample.requestOf [("subject", .string "farewell")]).envelope :=
    (Sample.envelope_requestOf _).trans (Sample.envelope_requestOf _).symm
  refine Iff.mpr (routing_depends_on_envelope_iff (.inl (by decide)) ?_) (fun key named => .inl ?_)
  · exact agree
  have unnamed : (key == "subject") = false := by
    refine beq_eq_false_iff_ne.mpr ?_
    rintro rfl
    exact absurd named (by decide)
  simp only [seenThrough, Sample.ingestionOf, Sample.requestOf, List.lookup_cons, unnamed]

/-- A destination for the results of one agent. -/
def classifierDestination : Destination where
  id := "destination"
  eventFilters := some [("agentId", .string "classifier")]
  enabled := true
  deletedAt := none
  idNonempty := destination_named

/-- A payload that names another agent keeps the result of the agent from its destination. -/
theorem payload_routes
    : (Sample.ingestionOf [("subject", .string "greeting")] rfl).request.envelope
        = (Sample.ingestionOf [("agentId", .string "other")] rfl).request.envelope
      ∧ ¬RoutedAlike activeDestinationRepository
          (Sample.ingestionOf [("subject", .string "greeting")] rfl)
          (Sample.ingestionOf [("agentId", .string "other")] rfl) := by
  refine ⟨(Sample.envelope_requestOf _).trans (Sample.envelope_requestOf _).symm,
    fun routed => ?_⟩
  have envelope : Destination.FiltersEnvelope classifierDestination := by
    rintro _ ⟨rfl⟩ filter member
    rw [List.mem_singleton.mp member]
    decide
  have distinct : ([classifierDestination].map Destination.id).Nodup := List.nodup_singleton _
  have listed : classifierDestination ∈ [classifierDestination] := List.mem_cons_self
  have same :=
    routed [classifierDestination] classifierDestination distinct listed envelope Sample.store
      Sample.store (not_findsLiveEntry_empty _) (not_findsLiveEntry_empty _)
  rw [getsDelivery_iff _ (.inl (by decide)) distinct listed (not_findsLiveEntry_empty _),
    getsDelivery_iff _ (.inl (by decide)) distinct listed (not_findsLiveEntry_empty _)] at same
  exact absurd (same.mp (by decide +kernel)) (by decide +kernel)

end QueueForge.Application
