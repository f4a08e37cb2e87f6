import Mathlib.Algebra.Order.Floor.Div
import Mathlib.GroupTheory.GroupAction.Ring
import QueueForge.Async.Program
import QueueForge.Domain.RegisteredDestination
import QueueForge.Domain.RetryDelays
import QueueForge.Js.Lists

/-! `FindDestinationsService.findAll`: the destinations page by page. The offset of a page and the
test for more of them are computed apart, and agree on any list and size.
-/

namespace QueueForge.Application

open QueueForge.Async QueueForge.Js QueueForge.Domain

-----------------------------------------------------------------------------------------
-- Pages
-----------------------------------------------------------------------------------------

/-- `left || right` for a number that may be missing. -/
def orNumber (left : Option Number) (right : Number) : Number :=
  match left with
  | some number => if number.truthy then number else right
  | none => right

/-- The page and the limit of a request; the order of the elements is the repository's. -/
structure PaginationParams where
  page : Option Number := none
  limit : Option Number := none

structure PageInfo where
  page : Number
  limit : Number
  total : Number
  hasMore : Bool

/-- Generic wrapper envelope structure for paginated response collections, with the aliases of its
top level.
-/
structure PaginatedResponse (T : Type) where
  data : List T
  pagination : PageInfo
  total : Number
  page : Number
  limit : Number
  hasMore : Bool

/-- Helper factory constructing a standardized `PaginatedResponse` envelope. -/
def createPaginatedResponse {T : Type} (data : List T) (total : Number) (page : Number := 1)
    (limit : Number := 50)
    : PaginatedResponse T :=
  let validPage := Number.max 1 page
  let validLimit := Number.max 1 limit
  let hasMore := (validPage.mul validLimit).lt total
  {
    data
    pagination := { page := validPage, limit := validLimit, total, hasMore }
    total
    page := validPage
    limit := validLimit
    hasMore
  }

-----------------------------------------------------------------------------------------
-- The service
-----------------------------------------------------------------------------------------

/-- A destination as it is served. -/
structure DestinationResponse where
  id : String
  type : String
  destinationType : String
  endpoint : String
  endpointUrl : String
  eventFilters : Option (List (String × Json))
  enabled : Bool
  retryType : String
  retryConfig : RetryConfig
  circuitBreakerThreshold : Number
  timeout : Number
  createdAt : Date
  updatedAt : Date

/-- Serializes a destination entity into a clean response representation. -/
def DestinationMapper.toResponse (entity : RegisteredDestination) : DestinationResponse :=
  let typeKind := toUpperCase entity.type.kind
  {
    id := entity.id
    type := typeKind
    destinationType := typeKind
    endpoint := entity.endpoint
    endpointUrl := entity.endpoint
    eventFilters := entity.eventFilters
    enabled := entity.enabled
    retryType := (orString (some entity.retryStrategy.type) none).getD "EXPONENTIAL"
    retryConfig := entity.retryStrategy.config
    circuitBreakerThreshold := entity.circuitBreakerThreshold
    timeout := entity.timeout
    createdAt := entity.createdAt
    updatedAt := entity.updatedAt
  }

/-- The repository of the service, which may have either of two methods, with what they answer. -/
structure ListedDestinations where
  findAll : Option (Settled Thrown (List RegisteredDestination))
  findAllActive : Option (Settled Thrown (List RegisteredDestination))

namespace FindDestinationsService

/-- The destinations that the service pages. -/
def listed (repository : ListedDestinations) : Settled Thrown (List RegisteredDestination) :=
  match repository.findAll, repository.findAllActive with
  | some all, _ => all
  | none, some active => active
  | none, none => .ok []

/-- Retrieves all destinations matching pagination parameters. -/
def findAll (repository : ListedDestinations) (pagination : PaginationParams)
    : Settled Thrown (PaginatedResponse DestinationResponse) := do
  let page := orNumber pagination.page 1
  let limit := orNumber pagination.limit 50
  let all ← listed repository
  let total := Number.ofInt all.length
  let start := (page.add (.ofInt (-1))).mul limit
  let paged := slice all start (start.add limit)
  let responses := paged.map DestinationMapper.toResponse
  .ok (createPaginatedResponse responses total page limit)

/-- What a client reads that asks for one page after the other, from a page on, until there are no
more.
-/
inductive ReadsFrom (repository : ListedDestinations) (limit : Number)
    : Nat → List (List DestinationResponse) → Prop
  | last {page : Nat} {response}
    (served : findAll repository ⟨some (.ofInt page), some limit⟩ = .ok response)
    (ended : response.hasMore = false)
    : ReadsFrom repository limit page [response.data]
  | next {page : Nat} {response rest}
    (served : findAll repository ⟨some (.ofInt page), some limit⟩ = .ok response)
    (more : response.hasMore = true) (later : ReadsFrom repository limit (page + 1) rest)
    : ReadsFrom repository limit page (response.data :: rest)

end FindDestinationsService

-----------------------------------------------------------------------------------------
-- What the pages are made of
-----------------------------------------------------------------------------------------

theorem orNumber_ofInt {value : Nat} (positive : 0 < value) (right : Number)
    : orNumber (some (.ofInt value)) right = .ofInt value := by
  have filled : (value : Rat) ≠ 0 := by exact_mod_cast positive.ne'
  simp [orNumber, Number.ofInt, Number.truthy, filled]

theorem max_one_ofInt {value : Nat} (positive : 0 < value)
    : Number.max 1 (.ofInt value) = .ofInt value := by
  have one : (1 : Number) = .ofInt 1 := congrArg Number.finite Nat.cast_one
  rw [one, max_ofInt, max_eq_right (by omega)]

theorem ofInt_mul_ofInt (left right : Int)
    : (Number.ofInt left).mul (.ofInt right) = .ofInt (left * right) :=
  congrArg Number.finite (Rat.intCast_mul left right).symm

/-- There are more exactly if the pages so far do not hold them all. -/
theorem hasMore_createPaginatedResponse {T : Type} {page limit : Nat} (data : List T)
    (total : Nat) (first : 1 ≤ page) (positive : 1 ≤ limit)
    : (createPaginatedResponse data (.ofInt total) (.ofInt page) (.ofInt limit)).hasMore
      = decide (page * limit < total) := by
  simp only [createPaginatedResponse, max_one_ofInt first, max_one_ofInt positive,
    ofInt_mul_ofInt, Number.ofInt_lt_ofInt]
  exact decide_eq_decide.mpr (by exact_mod_cast Iff.rfl)

/-- What a full page leaves fills one page less. -/
theorem pageCount_of_more {left size : Nat} (positive : 1 ≤ size) (more : size < left)
    : max 1 (left ⌈/⌉ size) = max 1 ((left - size) ⌈/⌉ size) + 1 := by
  have counted : left + size - 1 = left - size + size - 1 + size := by omega
  have some : 1 ≤ (left - size + size - 1) / size :=
    (Nat.one_le_div_iff positive).mpr (by omega)
  rw [Nat.ceilDiv_eq_add_pred_div, Nat.ceilDiv_eq_add_pred_div, counted,
    Nat.add_div_right _ positive]
  omega

namespace FindDestinationsService

section
variable {repository : ListedDestinations} {all : List RegisteredDestination} {size : Nat}

/-- What is served after some pages: as many of the destinations as the size is, from where the
pages before end.
-/
theorem findAll_page (served : listed repository = .ok all) (positive : 1 ≤ size) (index : Nat)
    : findAll repository ⟨some (.ofInt (index + 1 : Nat)), some (.ofInt size)⟩
      = .ok
        (createPaginatedResponse
          (((all.drop (index * size)).take size).map DestinationMapper.toResponse)
          (.ofInt all.length) (.ofInt (index + 1 : Nat)) (.ofInt size)) := by
  have page : orNumber (some (.ofInt (index + 1 : Nat))) 1 = .ofInt (index + 1 : Nat) :=
    orNumber_ofInt (Nat.succ_pos index) 1
  have limit := orNumber_ofInt positive 50
  have start
      : ((Number.ofInt (index + 1 : Nat)).add (.ofInt (-1))).mul (.ofInt size)
        = .ofInt (index * size : Nat) := by
    rw [ofInt_add_ofInt, ofInt_mul_ofInt]
    congr 1
    push_cast
    ring
  have stop
      : (Number.ofInt (index * size : Nat)).add (.ofInt size)
        = .ofInt (index * size + size : Nat) := by
    rw [ofInt_add_ofInt]
    rfl
  have paged
      : slice all (.ofInt (index * size : Nat)) (.ofInt (index * size + size : Nat))
        = (all.drop (index * size)).take size := by
    rw [slice_ofInt, List.drop_take, Nat.add_sub_cancel_left]
  unfold findAll
  rw [served, page, limit]
  simp only [bind, Except.bind, start, stop, paged]

/-- What is read from a page on is told by the answer to it. -/
theorem readsFrom_iff {limit : Number} {page : Nat}
    {response : PaginatedResponse DestinationResponse} {read : List (List DestinationResponse)}
    (served : findAll repository ⟨some (.ofInt page), some limit⟩ = .ok response)
    : ReadsFrom repository limit page read
      ↔ if response.hasMore then
          ∃ rest, read = response.data :: rest ∧ ReadsFrom repository limit (page + 1) rest
        else
          read = [response.data] := by
  constructor
  · intro reads
    cases reads with
    | last again ended =>
        cases served.symm.trans again
        rw [ended]
        rfl
    | next again more later =>
        cases served.symm.trans again
        rw [more]
        exact ⟨_, rfl, later⟩
  · intro told
    cases more : response.hasMore with
    | true =>
        rw [more] at told
        obtain ⟨rest, rfl, later⟩ := told
        exact .next served more later
    | false =>
        rw [more] at told
        subst told
        exact .last served more

/-- A reader that has some pages behind gets the rest of the destinations, in one way only. By
induction on the number of those that are left.
-/
theorem readsFrom_rest (served : listed repository = .ok all) (positive : 1 ≤ size) (index : Nat)
    : ∃ pages,
        (∀ read, ReadsFrom repository (.ofInt size) (index + 1) read ↔ read = pages)
        ∧ pages.flatten = (all.drop (index * size)).map DestinationMapper.toResponse
        ∧ pages.length = max 1 ((all.length - index * size) ⌈/⌉ size) := by
  have further : (index + 1) * size = index * size + size := Nat.succ_mul index size
  have told (read : List (List DestinationResponse)) :=
    @readsFrom_iff _ _ _ _ read (findAll_page served positive index)
  simp only [hasMore_createPaginatedResponse _ _ (Nat.succ_pos index) positive,
    decide_eq_true_eq, further] at told
  let data := ((all.drop (index * size)).take size).map DestinationMapper.toResponse
  by_cases more : index * size + size < all.length
  · -- the page is full, and the rest is read from the next one on
    obtain ⟨pages, only, rest, number⟩ := readsFrom_rest served positive (index + 1)
    rw [further] at rest number
    refine ⟨data :: pages, fun read => ?_, ?_, ?_⟩
    · rw [told, if_pos more]
      constructor
      · rintro ⟨_, rfl, later⟩
        rw [(only _).mp later]
        rfl
      · rintro rfl
        exact ⟨pages, rfl, (only pages).mpr rfl⟩
    · rw [List.flatten_cons, rest, ← List.map_append, ← List.drop_drop, List.take_append_drop]
    · have left : size < all.length - index * size := by omega
      rw [List.length_cons, number, Nat.sub_add_eq, pageCount_of_more positive left]
  · -- what is left fits into the page
    refine ⟨[data], fun read => ?_, ?_, ?_⟩
    · rw [told, if_neg more]
      rfl
    · have short : (all.drop (index * size)).length ≤ size := by
        rw [List.length_drop]
        omega
      rw [List.flatten_singleton]
      exact congrArg (List.map DestinationMapper.toResponse) (List.take_of_length_le short)
    · have few : (all.length - index * size) ⌈/⌉ size ≤ 1 :=
        (ceilDiv_le_iff_le_mul positive).mpr (by omega)
      rw [List.length_singleton, max_eq_left few]
termination_by all.length - index * size
decreasing_by omega

/-- A client that reads page after page, until there are no more, gets every destination once and
in order, in as many pages as they fill, and an empty page where there are none.
-/
theorem pages_cover_destinations (served : listed repository = .ok all) (positive : 1 ≤ size)
    : ∃ pages,
        (∀ read, ReadsFrom repository (.ofInt size) 1 read ↔ read = pages)
        ∧ pages.flatten = all.map DestinationMapper.toResponse
        ∧ pages.length = max 1 (all.length ⌈/⌉ size) := by
  have all' := readsFrom_rest served positive 0
  rwa [Nat.zero_mul, Nat.sub_zero, List.drop_zero] at all'

end

/-- A queue with the default settings. -/
def auditQueue : RegisteredDestination where
  id := "destination-1"
  eventFilters := none
  enabled := true
  deletedAt := none
  idNonempty := firstDestination_named
  type := .queue
  endpoint := "audits"
  retryStrategy := .exponentialDefault
  circuitBreakerThreshold := 5
  timeout := 30000
  metadata := []
  createdAt := some 0
  updatedAt := some 0
  endpointNonempty := by decide
  endpointValid := nofun
  thresholdPositive := defaultThreshold_positive
  timeoutPositive := defaultTimeout_positive

/-- Three destinations are two pages of two at most. -/
theorem pages_cover_three_destinations
    : ∃ pages,
        (∀ read,
          ReadsFrom ⟨some (.ok [auditQueue, auditQueue, auditQueue]), none⟩ (.ofInt (2 : Nat)) 1 read
          ↔ read = pages)
        ∧ pages.flatten
          = [auditQueue, auditQueue, auditQueue].map DestinationMapper.toResponse
        ∧ pages.length = max 1 (3 ⌈/⌉ 2) :=
  pages_cover_destinations rfl (by decide)

end FindDestinationsService

end QueueForge.Application
