import QueueForge.Application.DeliverTaskResult
import QueueForge.Js.Lists

/-! The event filters of a destination hold the settings of its deliveries as well.
The use case that delivers reads the settings under three keys; the entity that is routed by the
filters takes every key for a condition on the event.
-/

namespace QueueForge.Application

open QueueForge.Js QueueForge.Domain

namespace DeliverTaskResultUseCase

/-- The keys of the filters that the use case reads its settings under. -/
def settingKeys : List String :=
  ["hmacSecret", "headers", "timeoutMs"]

/-- The settings among the filters. -/
def settings (filters : List (String × Json)) : List (String × Json) :=
  filters.filter (fun filter => settingKeys.contains filter.1)

/-- The filters that are match conditions. -/
def conditions (filters : List (String × Json)) : List (String × Json) :=
  filters.filter (fun filter => !settingKeys.contains filter.1)

/-- A setting is found among the settings. -/
theorem lookup_settings (filters : List (String × Json)) {key : String}
    (isSetting : settingKeys.contains key = true)
    : (settings filters).lookup key = filters.lookup key := by
  rw [settings, lookup_filter (fun key => settingKeys.contains key), if_pos isSetting]

/-- The settings are all that the use case reads of the filters. -/
theorem timeoutMs_settings (library : DeliverLibrary) (filters : List (String × Json))
    : timeoutMs library (settings filters) = timeoutMs library filters := by
  rw [timeoutMs, timeoutMs, lookup_settings filters (by decide)]

theorem headers_settings (library : DeliverLibrary) (taskResult : AiTaskResult)
    (attempt : Number) (filters : List (String × Json))
    : headers library taskResult attempt (settings filters)
      = headers library taskResult attempt filters := by
  unfold headers unsignedHeaders
  rw [lookup_settings filters (by decide), lookup_settings filters (by decide)]

end DeliverTaskResultUseCase

open DeliverTaskResultUseCase

/-- An event that satisfies the match conditions of a destination. -/
def SatisfiesConditions (destination : Destination) (event : List (String × Json)) : Prop :=
  ∀ filters,
    destination.eventFilters = some filters
    → ∀ condition ∈ conditions filters, hasMember event condition.1 condition.2 = true

section
variable {destination : Destination} {filters event : List (String × Json)}
  (given : destination.eventFilters = some filters)
include given

/-- The entity asks an event to pass the conditions and the settings. -/
theorem matchesEventFilter_settings
    : destination.matchesEventFilter event = true
      ↔ (∀ condition ∈ conditions filters, hasMember event condition.1 condition.2 = true)
        ∧ ∀ setting ∈ settings filters, hasMember event setting.1 setting.2 = true := by
  have all
      : destination.matchesEventFilter event = true
        ↔ ∀ filter ∈ filters, hasMember event filter.1 filter.2 = true := by
    rw [Destination.matchesEventFilter, given]
    exact List.all_eq_true
  rw [all]
  constructor
  · intro passed
    exact ⟨fun condition listed => passed condition (List.mem_of_mem_filter listed),
      fun setting listed => passed setting (List.mem_of_mem_filter listed)⟩
  · rintro ⟨ofConditions, ofSettings⟩ filter listed
    cases isSetting : settingKeys.contains filter.1 with
    | true => exact ofSettings filter (List.mem_filter.mpr ⟨listed, isSetting⟩)
    | false =>
        exact ofConditions filter (List.mem_filter.mpr ⟨listed, by rw [isSetting]; rfl⟩)

/-- An event that satisfies the conditions is routed exactly when it has, under the name of each
setting, a member that is strictly equal to the setting.
-/
theorem routed_despite_settings_iff (satisfied : SatisfiesConditions destination event)
    : destination.matchesEventFilter event = true
      ↔ ∀ setting ∈ settings filters,
          event.lookup setting.1 = some setting.2 ∧ setting.2.isComparable = true := by
  rw [matchesEventFilter_settings given, and_iff_right (satisfied filters given)]
  exact forall₂_congr (fun setting _ => hasMember_iff)

/-- Headers are an object, which no event has: a destination with custom headers gets nothing. -/
theorem never_routed_with_headers {members : List (String × Json)}
    (headers : ("headers", .object members) ∈ filters)
    : destination.matchesEventFilter event = false := by
  refine Bool.eq_false_iff.mpr (fun routed => ?_)
  have named : settingKeys.contains "headers" = true := by decide
  have isSetting : ("headers", .object members) ∈ settings filters :=
    List.mem_filter.mpr ⟨headers, named⟩
  have passed := ((matchesEventFilter_settings given).mp routed).2 _ isSetting
  exact nomatch (hasMember_iff.mp passed).2

/-- The settings keep no event away that satisfies the conditions exactly when there are none, or
no event satisfies the conditions: the event of the conditions themselves has no settings.
-/
theorem settings_harmless_iff (distinct : (filters.map Prod.fst).Nodup)
    : (∀ event, SatisfiesConditions destination event → destination.matchesEventFilter event = true)
      ↔ settings filters = []
        ∨ ∃ condition ∈ conditions filters, condition.2.isComparable = false := by
  constructor
  · intro harmless
    by_cases comparable : ∃ condition ∈ conditions filters, condition.2.isComparable = false
    · exact .inr comparable
    · refine .inl (List.eq_nil_iff_forall_not_mem.mpr (fun setting listed => ?_))
      have unique : ((conditions filters).map Prod.fst).Nodup :=
        distinct.sublist (List.filter_sublist.map Prod.fst)
      have itself : SatisfiesConditions destination (conditions filters) := by
        rintro others stored condition member
        obtain rfl := Option.some.inj (given.symm.trans stored)
        refine hasMember_iff.mpr ⟨lookup_of_mem unique member, ?_⟩
        exact Bool.not_eq_false _ |>.mp (fun apart => comparable ⟨condition, member, apart⟩)
      have passed := ((matchesEventFilter_settings given).mp (harmless _ itself)).2 setting listed
      have isSetting := (List.mem_filter.mp listed).2
      have found := (hasMember_iff.mp passed).1
      rw [conditions, lookup_filter (fun key => !settingKeys.contains key), isSetting] at found
      exact nomatch found
  · rintro (none | ⟨condition, listed, apart⟩) event satisfied
    · rw [matchesEventFilter_settings given, none]
      exact ⟨satisfied filters given, nofun⟩
    · have passed := satisfied filters given condition listed
      exact nomatch (hasMember_iff.mp passed).2.symm.trans apart

end

/-- A destination for one agent's results, with a setting among its filters. -/
def settledDestination (setting : String × Json) : Destination where
  id := "destination"
  eventFilters := some [("agentId", .string "classifier"), setting]
  enabled := true
  deletedAt := none
  idNonempty := destination_named

theorem event_with_setting_routed
    : (settledDestination ("timeoutMs", .number 8000)).matchesEventFilter
        [("agentId", .string "classifier"), ("timeoutMs", .number 8000)]
      = true := by
  have satisfied
      : SatisfiesConditions (settledDestination ("timeoutMs", .number 8000))
          [("agentId", .string "classifier"), ("timeoutMs", .number 8000)] := by
    rintro _ ⟨rfl⟩ condition listed
    obtain rfl := List.mem_singleton.mp listed
    rfl
  refine (routed_despite_settings_iff rfl satisfied).mpr (fun setting listed => ?_)
  obtain rfl := List.mem_singleton.mp listed
  exact ⟨rfl, rfl⟩

/-- A secret among the filters keeps away the very events the destination is for. -/
theorem secret_keeps_event_away
    : SatisfiesConditions (settledDestination ("hmacSecret", .string "secret"))
        [("agentId", .string "classifier")]
      ∧ (settledDestination ("hmacSecret", .string "secret")).matchesEventFilter
          [("agentId", .string "classifier")]
        = false := by
  refine ⟨?_, rfl⟩
  rintro _ ⟨rfl⟩ condition listed
  obtain rfl := List.mem_singleton.mp listed
  rfl

end QueueForge.Application
