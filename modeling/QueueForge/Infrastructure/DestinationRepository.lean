import QueueForge.Infrastructure.PrismaDestinationRepository

/-! The destinations the repository selects for an event, beside the filters of their entities.
The repository asks the members of the event of the filters, the entity the filters of the event.
-/

namespace QueueForge.Infrastructure

open QueueForge.Async QueueForge.Js QueueForge.Domain

namespace DestinationRepository

/-- Queries currently enabled routing destinations. -/
def findEnabled (rows : List DestinationRow) : List DestinationRow :=
  rows.filter (fun row => row.enabled)

/-- Selects destinations whose filter properties match incoming event payload fields. -/
def findMatching (rows : List DestinationRow) (filters : List (String × Json))
    : List DestinationRow :=
  (findEnabled rows).filter
    (fun dest =>
      match dest.eventFilters with
      | none => true
      | some destFilters => filters.all (fun member => hasMember destFilters member.1 member.2))

/-- Every member of the one object is a member of the other, and comparable. -/
def IsPart (members others : List (String × Json)) : Prop :=
  ∀ member ∈ members,
    others.lookup member.1 = some member.2 ∧ member.2.isComparable = true

/-- Filters on which the repository and the entity agree for an event: there are none, they are
the very members of the event, or either has a member the other does not have.
-/
def FiltersAgree (eventFilters : Option (List (String × Json))) (event : List (String × Json))
    : Prop :=
  ∀ filters,
    eventFilters = some filters
    → (IsPart filters event ∧ IsPart event filters)
      ∨ (¬IsPart filters event ∧ ¬IsPart event filters)

/-- The members that are all found make a part. -/
theorem all_hasMember_iff {members others : List (String × Json)}
    : members.all (fun member => hasMember others member.1 member.2) = true
      ↔ IsPart members others := by
  rw [List.all_eq_true]
  exact forall₂_congr (fun _ _ => hasMember_iff)

/-- The constructor keeps the filters and the flag it accepts. -/
theorem new_filters {id : String} {type : DestinationType} {endpoint : String}
    {eventFilters : Option (List (String × Json))} {retryStrategy : RetryStrategyVO}
    {circuitBreakerThreshold timeout : Number} {enabled : Bool} {metadata : List (String × Json)}
    {createdAt : Date} {updatedAt : Option Date} {deletedAt : Option Int}
    {entity : RegisteredDestination}
    (accepted
      : RegisteredDestination.new id type endpoint eventFilters retryStrategy
          circuitBreakerThreshold timeout enabled metadata createdAt updatedAt deletedAt
        = .ok entity)
    : entity.eventFilters = eventFilters ∧ entity.enabled = enabled := by
  unfold RegisteredDestination.new at accepted
  split_ifs at accepted
  · cases accepted
    exact ⟨rfl, rfl⟩
  all_goals cases accepted

/-- What `toDomain` restores has the filters and the flag of its row. -/
theorem toDomain_filters {numberText : Number → String} {row : DestinationRow}
    {entity : RegisteredDestination}
    (restored : PrismaDestinationRepository.toDomain numberText row = .ok entity)
    : entity.eventFilters = row.eventFilters ∧ entity.enabled = row.enabled := by
  obtain ⟨type, _, restored⟩ := Settled.bind_eq_ok.mp restored
  obtain ⟨strategy, _, restored⟩ := Settled.bind_eq_ok.mp restored
  exact new_filters restored

/-- The entity matches an event that its filters are a part of. -/
theorem entity_matches_iff {destination : Domain.Destination} {filters event : List (String × Json)}
    (given : destination.eventFilters = some filters)
    : destination.matchesEventFilter event = true ↔ IsPart filters event := by
  rw [Domain.Destination.matchesEventFilter, given]
  exact all_hasMember_iff

/-- Two filters of one list give the same exactly when they agree on it. -/
theorem filter_eq_filter_iff {α : Type} {left right : α → Bool} {list : List α}
    : list.filter left = list.filter right ↔ ∀ item ∈ list, left item = right item := by
  constructor
  · intro same item listed
    refine Bool.eq_iff_iff.mpr ?_
    constructor
    · intro kept
      have both := List.mem_filter.mpr ⟨listed, kept⟩
      rw [same] at both
      exact (List.mem_filter.mp both).2
    · intro kept
      have both := List.mem_filter.mpr ⟨listed, kept⟩
      rw [← same] at both
      exact (List.mem_filter.mp both).2
  · exact List.filter_congr

section
variable {numberText : Number → String} {rows : List DestinationRow}
  {entity : DestinationRow → RegisteredDestination}

/-- The repository selects the enabled destinations whose entities match the event exactly when
the filters of each enabled destination agree with it.
-/
theorem findMatching_eq_iff
    (restored
      : ∀ row ∈ rows, PrismaDestinationRepository.toDomain numberText row = .ok (entity row))
    (event : List (String × Json))
    : findMatching rows event
        = rows.filter
            (fun row => (entity row).enabled && (entity row).matchesEventFilter event)
      ↔ ∀ row ∈ rows, row.enabled = true → FiltersAgree row.eventFilters event := by
  rw [findMatching, findEnabled, List.filter_filter, filter_eq_filter_iff]
  refine forall₂_congr (fun row stored => ?_)
  obtain ⟨sameFilters, sameFlag⟩ := toDomain_filters (restored row stored)
  rw [sameFlag, Bool.and_comm]
  cases enabled : row.enabled with
  | false => exact iff_of_true rfl nofun
  | true =>
      rw [Bool.true_and, Bool.true_and, eq_self_iff_true, true_imp_iff]
      cases given : row.eventFilters with
      | none =>
          refine iff_of_true ?_ nofun
          rw [Domain.Destination.matchesEventFilter, sameFilters, given]
      | some filters =>
          dsimp only
          rw [Bool.eq_iff_iff, all_hasMember_iff, entity_matches_iff (sameFilters.trans given)]
          simp only [FiltersAgree, Option.some.injEq, forall_eq']
          exact Iff.comm.trans iff_iff_and_or_not_and_not

end

/-- The row of a webhook with filters, and of its entity. -/
def filteredRow (filters : List (String × Json)) : DestinationRow := {
  PrismaDestinationRepository.webhookRow with
  eventFilters := some filters
}

def filteredWebhook (filters : List (String × Json)) : RegisteredDestination := {
  PrismaDestinationRepository.webhookOf 5 defaultThreshold_positive with
  eventFilters := some filters
}

theorem toDomain_filteredRow (filters : List (String × Json))
    : PrismaDestinationRepository.toDomain (fun _ => "") (filteredRow filters)
      = .ok (filteredWebhook filters) := by
  have carries
      : PrismaDestinationRepository.Carries (filteredRow filters)
          (PrismaDestinationRepository.upsertOf 0 (filteredWebhook filters)) := by
    have spelled : "WEBHOOK" = toUpperCase "webhook" := by decide
    exact ⟨rfl, rfl, spelled, rfl, rfl⟩
  exact PrismaDestinationRepository.toDomain_of_carries carries

/-- The event of one agent. -/
def agentEvent : List (String × Json) := [("agentId", .string "classifier")]

theorem filtered_webhook_found
    : findMatching [filteredRow agentEvent] agentEvent
      = [filteredRow agentEvent].filter
          (fun _ =>
            (filteredWebhook agentEvent).enabled
            && (filteredWebhook agentEvent).matchesEventFilter agentEvent) := by
  have restored
      : ∀ row ∈ [filteredRow agentEvent],
          PrismaDestinationRepository.toDomain (fun _ => "") row = .ok (filteredWebhook agentEvent) := by
    intro row listed
    obtain rfl := List.mem_singleton.mp listed
    exact toDomain_filteredRow agentEvent
  refine (findMatching_eq_iff restored agentEvent).mpr (fun row listed _ filters given => .inl ?_)
  obtain rfl := List.mem_singleton.mp listed
  obtain rfl := Option.some.inj given
  have part : IsPart agentEvent agentEvent := by
    intro member named
    obtain rfl := List.mem_singleton.mp named
    exact ⟨rfl, rfl⟩
  exact ⟨part, part⟩

/-- An event with a member more than the filters is not selected for. -/
theorem larger_event_not_found
    : PrismaDestinationRepository.toDomain (fun _ => "") (filteredRow agentEvent)
        = .ok (filteredWebhook agentEvent)
      ∧ (filteredWebhook agentEvent).enabled = true
      ∧ (filteredWebhook agentEvent).matchesEventFilter (("confidenceScore", .number 1) :: agentEvent)
        = true
      ∧ findMatching [filteredRow agentEvent] (("confidenceScore", .number 1) :: agentEvent) = [] :=
  ⟨toDomain_filteredRow agentEvent, rfl, rfl, rfl⟩

end DestinationRepository

end QueueForge.Infrastructure
