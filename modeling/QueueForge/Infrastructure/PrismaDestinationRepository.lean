import QueueForge.Domain.RegisteredDestination
import QueueForge.Infrastructure.Database

/-! The adapter that maps database records to destination entities. Some of the columns it neither
writes nor reads.
-/

namespace QueueForge.Infrastructure

open QueueForge.Async QueueForge.Js QueueForge.Domain

-----------------------------------------------------------------------------------------
-- The table and its client
-----------------------------------------------------------------------------------------

/-- A row of `destinations`. A JSON column gives back the value it was given. -/
structure DestinationRow where
  id : String
  destinationType : String
  endpointUrl : String
  eventFilters : Option (List (String × Json))
  enabled : Bool
  retryStrategy : String := "exponential"
  circuitBreakerThreshold : Int := 5
  timeout : Int := 5000
  metadata : List (String × Json) := []
  createdAt : Int
  updatedAt : Int
  deletedAt : Option Int

/-- The arguments of a destination upsert. The identifier and the creation time are only used to
create a row.
-/
structure DestinationUpsert where
  id : String
  endpointUrl : String
  destinationType : String
  eventFilters : Option (List (String × Json))
  enabled : Bool
  createdAt : Date
  updatedAt : Int
  deletedAt : Option Int

inductive DestinationCall where
  | upsert (data : DestinationUpsert)
  | findUnique (id : String)

abbrev DestinationCall.Result : DestinationCall → Type
  | upsert _ => DestinationRow
  | findUnique _ => Option DestinationRow

abbrev DestinationSignature : Signature where
  Op := DestinationCall
  Result := DestinationCall.Result

abbrev DestinationProgram (α : Type) : Type := Program DestinationSignature Thrown α

def awaitDestination (call : DestinationCall) : DestinationProgram call.Result :=
  Program.perform (S := DestinationSignature) call

/-- What an upsert makes of the row with its identifier. -/
def DestinationUpsert.applyTo (data : DestinationUpsert) (row : DestinationRow)
    : DestinationRow := {
  row with
  endpointUrl := data.endpointUrl
  destinationType := data.destinationType
  eventFilters := data.eventFilters
  enabled := data.enabled
  updatedAt := data.updatedAt
  deletedAt := data.deletedAt
}

/-- The row an upsert creates where there is none, with the defaults of its other columns. -/
def DestinationUpsert.newRow (data : DestinationUpsert) (createdAt : Int) : DestinationRow where
  id := data.id
  destinationType := data.destinationType
  endpointUrl := data.endpointUrl
  eventFilters := data.eventFilters
  enabled := data.enabled
  createdAt := createdAt
  updatedAt := data.updatedAt
  deletedAt := data.deletedAt

/-- What a call does to the table, without faults. -/
def performDestination (rows : List DestinationRow)
    : (call : DestinationCall) → Settled Thrown call.Result × List DestinationRow
  | .findUnique id => (.ok (rows.find? (·.id = id)), rows)
  | .upsert data =>
      match data.createdAt with
      | none => (.error argumentRejected, rows)
      | some createdAt =>
          match rows.find? (·.id = data.id) with
          | some row =>
              (.ok (data.applyTo row),
                rows.map (fun row => if row.id = data.id then data.applyTo row else row))
          | none => (.ok (data.newRow createdAt), rows ++ [data.newRow createdAt])

/-- The client; a fault makes a call fail before it has any effect. -/
def destinationClient (fault : DestinationCall → List DestinationRow → Option Thrown)
    : Handler DestinationSignature Thrown (List DestinationRow) :=
  fun call rows =>
    match fault call rows with
    | some thrown => (.error thrown, rows)
    | none => performDestination rows call

-----------------------------------------------------------------------------------------
-- The repository
-----------------------------------------------------------------------------------------

namespace PrismaDestinationRepository

variable (numberText : Number → String)

/-- The type a record names. -/
def typeOf (destinationType : String) : DestinationType :=
  if destinationType = "WEBHOOK" then
    .webhook
  else if destinationType = "DATABASE" then
    .database
  else if destinationType = "QUEUE" then
    .queue
  else
    .audit

/-- The entity of a record. Four of its columns are not passed on. -/
def toDomain (record : DestinationRow) : Except Thrown RegisteredDestination :=
  RegisteredDestination.restore numberText {
    id := record.id
    endpointUrl := some record.endpointUrl
    destinationType := (typeOf record.destinationType).kind
    eventFilters := record.eventFilters
    enabled := some record.enabled
    createdAt := some record.createdAt
    updatedAt := some (some record.updatedAt)
    deletedAt := record.deletedAt
  }

/-- What `save` upserts. -/
def upsertOf (now : Int) (destination : RegisteredDestination) : DestinationUpsert where
  id := destination.id
  endpointUrl := destination.endpoint
  destinationType := toUpperCase destination.type.kind
  eventFilters := destination.eventFilters
  enabled := destination.enabled
  createdAt := destination.createdAt
  updatedAt := now
  deletedAt := if destination.isDeleted then some now else none

/-- `save`, at the time `new Date()` gives. -/
def save (now : Int) (destination : RegisteredDestination)
    : DestinationProgram RegisteredDestination := do
  let record ← awaitDestination (.upsert (upsertOf now destination))
  Program.ofResult (toDomain numberText record)

def findById (id : String) : DestinationProgram (Option RegisteredDestination) := do
  let record ← awaitDestination (.findUnique id)
  match record with
  | some record => do
      let entity ← Program.ofResult (toDomain numberText record)
      pure (some entity)
  | none => pure none

-----------------------------------------------------------------------------------------
-- What is read back of a saved destination
-----------------------------------------------------------------------------------------

section
variable {numberText : Number → String} {now : Int} {destination : RegisteredDestination}
  {record : DestinationRow} {rows after : List DestinationRow}

/-- A record has what an upsert writes. -/
structure Carries (record : DestinationRow) (data : DestinationUpsert) : Prop where
  id : record.id = data.id
  endpointUrl : record.endpointUrl = data.endpointUrl
  destinationType : record.destinationType = data.destinationType
  eventFilters : record.eventFilters = data.eventFilters
  enabled : record.enabled = data.enabled

/-- An upsert that is answered leaves the record it answers with. -/
theorem upsert_stores {data : DestinationUpsert}
    (stored : performDestination rows (.upsert data) = (.ok record, after))
    : Carries record data ∧ after.find? (·.id = data.id) = some record := by
  simp only [performDestination] at stored
  split at stored
  · exact nomatch stored
  · split at stored
    case h_1 row found =>
      obtain ⟨rfl, rfl⟩ := Prod.mk.inj stored |>.imp_left Except.ok.inj
      have named : row.id = data.id := by
        simpa using List.find?_some found
      refine ⟨⟨named, rfl, rfl, rfl, rfl⟩, ?_⟩
      have kept
          : (fun row : DestinationRow => decide (row.id = data.id))
              ∘ (fun row => if row.id = data.id then data.applyTo row else row)
            = fun row => decide (row.id = data.id) := by
        funext row
        by_cases same : row.id = data.id
        · simp [same, DestinationUpsert.applyTo]
        · simp [same]
      rw [List.find?_map, kept, found, Option.map_some, if_pos named]
    case h_2 missing =>
      obtain ⟨rfl, rfl⟩ := Prod.mk.inj stored |>.imp_left Except.ok.inj
      refine ⟨⟨rfl, rfl, rfl, rfl, rfl⟩, ?_⟩
      rw [List.find?_append, missing]
      simp [DestinationUpsert.newRow]

/-- A type survives its spelling in the table. -/
theorem create_typeOf (type : DestinationType)
    : DestinationType.create (typeOf (toUpperCase type.kind)).kind = .ok type := by
  cases type <;> decide

/-- A destination as its record gives it back: what is not passed on is at its default. -/
def reloadOf (destination : RegisteredDestination) (record : DestinationRow)
    : RegisteredDestination := {
  destination with
  retryStrategy := .exponentialDefault
  circuitBreakerThreshold := 5
  timeout := 30000
  metadata := []
  createdAt := some record.createdAt
  updatedAt := some record.updatedAt
  deletedAt := record.deletedAt
  thresholdPositive := defaultThreshold_positive
  timeoutPositive := defaultTimeout_positive
}

/-- The record of a destination is accepted. -/
theorem toDomain_of_carries (carries : Carries record (upsertOf now destination))
    : toDomain numberText record = .ok (reloadOf destination record) := by
  have type := create_typeOf destination.type
  have passed
      : toDomain numberText record
        = RegisteredDestination.new destination.id destination.type destination.endpoint
            destination.eventFilters .exponentialDefault 5 30000 destination.enabled []
            (some record.createdAt) (some (some record.updatedAt)) record.deletedAt := by
    simp only [toDomain, RegisteredDestination.restore, carries.id, carries.endpointUrl,
      carries.destinationType, carries.eventFilters, carries.enabled, upsertOf, type,
      RetryStrategyVO.exponential_eq, orString, Option.getD_some, Option.getD_none]
    rfl
  exact passed.trans
    (RegisteredDestination.new_of_valid _ _ _ _ _ _ _ destination.idNonempty
      destination.endpointNonempty destination.endpointValid (by decide) (by decide))

/-- A reloaded destination has the same settings exactly when the lost ones were defaults. -/
theorem sameSettings_reloadOf_iff (destination : RegisteredDestination) (record : DestinationRow)
    : destination.SameSettings (reloadOf destination record) ↔ destination.HasDefaults := by
  constructor
  · intro same
    exact ⟨same.retryStrategy, same.circuitBreakerThreshold, same.timeout, same.metadata⟩
  · intro defaults
    exact ⟨rfl, rfl, rfl, defaults.retryStrategy, defaults.circuitBreakerThreshold,
      defaults.timeout, defaults.metadata, rfl⟩

/-- A destination that was saved is in the table. -/
theorem save_stores {fault : DestinationCall → List DestinationRow → Option Thrown}
    {saved : RegisteredDestination}
    (stored
      : (save numberText now destination).run (destinationClient fault) rows
        = (.ok saved, after))
    : ∃ record,
        Carries record (upsertOf now destination)
        ∧ after.find? (·.id = destination.id) = some record := by
  simp only [save, awaitDestination, Program.bind_eq, Program.run_bind, Program.run_perform,
    Program.run_ofResult, destinationClient] at stored
  cases faulty : fault (.upsert (upsertOf now destination)) rows with
  | some thrown =>
      rw [faulty] at stored
      exact nomatch stored
  | none =>
      rw [faulty] at stored
      rcases performed : performDestination rows (.upsert (upsertOf now destination))
        with ⟨_ | record, left⟩
      · rw [performed] at stored
        exact nomatch stored
      · rw [performed] at stored
        obtain ⟨carries, held⟩ := upsert_stores performed
        obtain rfl : left = after := congrArg Prod.snd stored
        exact ⟨record, carries, held⟩

/-- Whenever a destination is saved and found again, what is found has the same settings if and
only if those that are not stored had the values `restore` falls back to.
-/
theorem reloaded_iff (numberText : Number → String)
    (fault : DestinationCall → List DestinationRow → Option Thrown)
    (destination : RegisteredDestination) (now : Int) {saved : RegisteredDestination}
    {found : Option RegisteredDestination} {final : List DestinationRow}
    (stored
      : (save numberText now destination).run (destinationClient fault) rows
        = (.ok saved, after))
    (loaded
      : (findById numberText destination.id).run (destinationClient fault) after
        = (.ok found, final))
    : (∃ reloaded, found = some reloaded ∧ destination.SameSettings reloaded)
      ↔ destination.HasDefaults := by
  obtain ⟨record, carries, held⟩ := save_stores stored
  have restored : toDomain numberText record = .ok (reloadOf destination record) :=
    toDomain_of_carries carries
  simp only [findById, awaitDestination, Program.bind_eq, Program.pure_eq, Program.run_bind,
    Program.run_perform, destinationClient] at loaded
  cases faulty : fault (.findUnique destination.id) after with
  | some thrown =>
      rw [faulty] at loaded
      exact nomatch loaded
  | none =>
      simp only [faulty, performDestination, held, Program.run_bind, Program.run_ofResult, restored,
        Program.run_done] at loaded
      obtain rfl : some (reloadOf destination record) = found :=
        Except.ok.inj (congrArg Prod.fst loaded)
      rw [← sameSettings_reloadOf_iff destination record]
      constructor
      · rintro ⟨_, ⟨⟩, kept⟩
        exact kept
      · exact fun kept => ⟨_, rfl, kept⟩

end

/-- A client without faults. -/
def faultlessClient : Handler DestinationSignature Thrown (List DestinationRow) :=
  destinationClient (fun _ _ => none)

/-- A webhook whose breaker opens after some failures. -/
def webhookOf (circuitBreakerThreshold : Number) (valid : circuitBreakerThreshold.lt 1 = false)
    : RegisteredDestination where
  id := "destination-1"
  eventFilters := none
  enabled := true
  deletedAt := none
  idNonempty := firstDestination_named
  type := .webhook
  endpoint := "https://example.test/hook"
  retryStrategy := .exponentialDefault
  circuitBreakerThreshold := circuitBreakerThreshold
  timeout := 30000
  metadata := []
  createdAt := some 0
  updatedAt := some 0
  endpointNonempty := by decide
  endpointValid := by decide
  thresholdPositive := valid
  timeoutPositive := defaultTimeout_positive

/-- Its row, whatever its breaker. -/
def webhookRow : DestinationRow where
  id := "destination-1"
  destinationType := "WEBHOOK"
  endpointUrl := "https://example.test/hook"
  eventFilters := none
  enabled := true
  createdAt := 0
  updatedAt := 0
  deletedAt := none

/-- The row is read as the webhook whose breaker opens after five failures. -/
theorem toDomain_webhookRow
    : toDomain (fun _ => "") webhookRow = .ok (webhookOf 5 (by decide)) := by
  have carries : Carries webhookRow (upsertOf 0 (webhookOf 3 (by decide))) :=
    ⟨rfl, rfl, by decide, rfl, rfl⟩
  exact toDomain_of_carries carries

theorem save_webhook {circuitBreakerThreshold : Number}
    (valid : circuitBreakerThreshold.lt 1 = false)
    : (save (fun _ => "") 0 (webhookOf circuitBreakerThreshold valid)).run faultlessClient []
      = (.ok (webhookOf 5 (by decide)), [webhookRow]) := by
  have spelled : toUpperCase "webhook" = "WEBHOOK" := by decide
  have stored
      : performDestination [] (.upsert (upsertOf 0 (webhookOf circuitBreakerThreshold valid)))
        = (.ok webhookRow, [webhookRow]) := by
    simp [performDestination, upsertOf, webhookOf, webhookRow, DestinationUpsert.newRow, spelled,
      DestinationType.kind, Domain.Destination.isDeleted]
  simp only [save, awaitDestination, Program.bind_eq, Program.run_bind, Program.run_perform,
    faultlessClient, destinationClient, stored, Program.run_ofResult, toDomain_webhookRow]

theorem findById_webhookRow
    : (findById (fun _ => "") "destination-1").run faultlessClient [webhookRow]
      = (.ok (some (webhookOf 5 (by decide))), [webhookRow]) := by
  have held
      : performDestination [webhookRow] (.findUnique "destination-1")
        = (.ok (some webhookRow), [webhookRow]) := rfl
  simp only [findById, awaitDestination, Program.bind_eq, Program.pure_eq, Program.run_bind,
    Program.run_perform, faultlessClient, destinationClient, held, Program.run_ofResult,
    toDomain_webhookRow, Program.run_done]

/-- A breaker that opens after three failures is found again as one that opens after five. -/
theorem threshold_not_reloaded
    : (save (fun _ => "") 0 (webhookOf 3 (by decide))).run faultlessClient []
        = (.ok (webhookOf 5 (by decide)), [webhookRow])
      ∧ (findById (fun _ => "") "destination-1").run faultlessClient [webhookRow]
        = (.ok (some (webhookOf 5 (by decide))), [webhookRow])
      ∧ ¬(webhookOf 3 (by decide)).SameSettings (webhookOf 5 (by decide)) := by
  refine ⟨save_webhook (by decide), findById_webhookRow, ?_⟩
  intro same
  have threshold : (3 : Number) = 5 := same.circuitBreakerThreshold
  exact absurd threshold (by decide)

/-- One that opens after five is found again. -/
theorem default_webhook_reloaded
    : ∃ reloaded,
        some (webhookOf 5 (by decide)) = some reloaded
        ∧ (webhookOf 5 (by decide)).SameSettings reloaded := by
  have stored := save_webhook (by decide : Number.lt 5 1 = false)
  exact (reloaded_iff (fun _ => "") (fun _ _ => none) (webhookOf 5 (by decide)) 0 stored
    findById_webhookRow).mpr ⟨rfl, rfl, rfl, rfl⟩

end PrismaDestinationRepository

end QueueForge.Infrastructure
