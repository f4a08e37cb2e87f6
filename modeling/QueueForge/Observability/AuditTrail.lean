import QueueForge.Async.Interleaving
import QueueForge.Infrastructure.DeliveryRepository
import QueueForge.Js.Json

/-! The audit trail. `AuditLogger` stamps its events and hands them to `AuditRepository`, which
writes them through `AuditLogRepository`, whose table is only ever added to, apart from what is
purged by age. Calls of the three interleave at their queries.
-/

namespace QueueForge.Observability

open QueueForge.Async QueueForge.Infrastructure QueueForge.Js

/-- What is written of an event. The table chooses the id, and the date if it is left out. -/
structure AuditLogData where
  eventType : String
  entityType : String
  entityId : String
  actorId : Option String
  action : String
  changes : Json
  ipAddress : Option String := none
  userAgent : Option String := none
  createdAt : Option Int := none

/-- A row of the table `audit_logs`. -/
structure AuditLog where
  id : String
  data : AuditLogData
  createdAt : Int

/-- What a `where` selects. -/
abbrev AuditFilter : Type := AuditLog → Bool

/-- A query, `new Date()` or `generateUUID()`. -/
inductive AuditCall where
  | now
  | uuid
  | create (data : AuditLogData)
  | findMany (selects : AuditFilter) (take skip : Option Int)
  | count (selects : AuditFilter)
  | findUnique (id : String)
  | findFirst (selects : AuditFilter)
  | deleteMany (createdBefore : Int)

abbrev AuditCall.Result : AuditCall → Type
  | now => Int
  | uuid => String
  | create _ => AuditLog
  | findMany _ _ _ => List AuditLog
  | count _ => Nat
  | findUnique _ => Option AuditLog
  | findFirst _ => Option AuditLog
  | deleteMany _ => Nat

abbrev AuditSignature : Signature where
  Op := AuditCall
  Result := AuditCall.Result

abbrev AuditProgram (α : Type) : Type := Program AuditSignature Thrown α

def awaitAudit (call : AuditCall) : AuditProgram call.Result :=
  Program.perform (S := AuditSignature) call

-----------------------------------------------------------------------------------------
-- AuditLogRepository
-----------------------------------------------------------------------------------------

structure AuditPage where
  data : List AuditLog
  total : Nat
  hasMore : Bool

structure AuditPagination where
  page : Option Int := none
  limit : Option Int := none

/-- The event of `AuditLogRepository.log`. -/
structure AuditLogEvent where
  eventType : String
  entityType : String
  entityId : String
  userId : Option String := none
  action : String
  changes : Option Json := none
  ipAddress : Option String := none
  userAgent : Option String := none

/-- The filters of a query: an empty text filters nothing. -/
structure AuditLogFilters where
  eventType : Option String := none
  entityId : Option String := none
  dateRange : Option (Int × Int) := none

/-- `changes || {}`. -/
def changesOf (changes : Option Json) : Json :=
  (changes.filter Json.truthy).getD (.object [])

/-- The `where` of the filters. -/
def AuditLogFilters.selects (filters : AuditLogFilters) : AuditFilter :=
  fun row =>
    (orString filters.eventType none).all (fun eventType => row.data.eventType = eventType)
    && (orString filters.entityId none).all (fun entityId => row.data.entityId = entityId)
    && filters.dateRange.all (fun range => range.1 ≤ row.createdAt ∧ row.createdAt ≤ range.2)

namespace AuditLogRepository

section

variable (production : Bool)

/-- Wrapper catching database exceptions and translating to domain errors. -/
def executeQuery {α : Type} (query : AuditProgram α) : AuditProgram α :=
  query.catchError (fun error => throw (mapDatabaseError production error))

/-- Queries records supporting pagination. A limit counts with a page only, and neither may be zero.
-/
def findMany (selects : AuditFilter) (options : AuditPagination := {}) : AuditProgram AuditPage :=
  executeQuery production do
    let page := options.page.getD 0
    let limit := options.limit.getD 0
    let paged := page ≠ 0 ∧ limit ≠ 0
    let take := if paged then max 1 limit else 100
    let skip := if paged then max 0 ((page - 1) * take) else 0
    let records ←
      awaitAudit (.findMany selects (if paged then some take else none)
        (if paged ∧ skip > 0 then some skip else none))
    let total ← awaitAudit (.count selects)
    return { data := records, total, hasMore := skip + records.length < total }

def findUnique (id : String) : AuditProgram (Option AuditLog) :=
  executeQuery production (awaitAudit (.findUnique id))

def findFirst (selects : AuditFilter) : AuditProgram (Option AuditLog) :=
  executeQuery production (awaitAudit (.findFirst selects))

/-- Counts the amount of database rows matching target criteria. -/
def count (selects : AuditFilter) : AuditProgram Nat :=
  executeQuery production (awaitAudit (.count selects))

/-- `exists`: asserts if record exists by primary key identifier. -/
def rowExists (id : String) : AuditProgram Bool := do
  let record ← findUnique production id
  return record.isSome

def getAll : AuditProgram AuditPage :=
  findMany production (fun _ => true)

def getById (id : String) : AuditProgram AuditLog := do
  let record ← findUnique production id
  match record with
  | some record => return record
  | none => throw (.error (notFoundError s!"AuditLog not found with id: {id}"))

def create (data : AuditLogData) : AuditProgram AuditLog :=
  executeQuery production (awaitAudit (.create data))

/-- Bulk inserts multiple records, one after the other. -/
def createMany (data : List AuditLogData) : AuditProgram Unit :=
  executeQuery production (Program.forEach (fun item => do
    let _ ← awaitAudit (.create item)
    return ()) data)

def createAuditLog (eventType entityType entityId actorId action : String) (changes : Option Json)
    : AuditProgram AuditLog :=
  executeQuery production
    (awaitAudit
      (.create {
        eventType, entityType, entityId, action
        actorId := some actorId
        changes := changesOf changes
      }))

/-- The row of an event. -/
def dataOf (event : AuditLogEvent) : AuditLogData where
  eventType := event.eventType
  entityType := event.entityType
  entityId := event.entityId
  actorId := orString event.userId none
  action := event.action
  changes := changesOf event.changes
  ipAddress := orString event.ipAddress none
  userAgent := orString event.userAgent none

/-- Logs a new audit log event in the append-only ledger. -/
def log (event : AuditLogEvent) : AuditProgram AuditLog :=
  create production (dataOf event)

/-- Queries logs by eventType, entityId, or createdAt date ranges. -/
def queryLogs (filters : AuditLogFilters) (pagination : AuditPagination) : AuditProgram AuditPage :=
  findMany production filters.selects pagination

/-- `new Date(Date.now() - days * 86400000)`. -/
def cutoffDate (now : Int) (days : Number) : Date :=
  Date.ofNumber ((Number.ofInt now).add (days.mul 86400000).neg)

/-- Purges old audit log entries older than specified retention period (days). An invalid date
cannot be logged.
-/
def purgeOlderThan (days : Number) : AuditProgram Nat := do
  let now ← awaitAudit .now
  match cutoffDate now days with
  | some cutoff => executeQuery production (awaitAudit (.deleteMany cutoff))
  | none => throw (.error (builtinError .error "RangeError" "Invalid time value"))

end

/-- `update` and `updateMany`. -/
def update {α : Type} : AuditProgram α :=
  throw (.error (validationError "Audit logs are immutable and cannot be updated"))

/-- `delete` and `deleteMany`. -/
def delete {α : Type} : AuditProgram α :=
  throw (.error (validationError "Audit logs are immutable and cannot be deleted"))

end AuditLogRepository

-----------------------------------------------------------------------------------------
-- AuditLogger over AuditRepository
-----------------------------------------------------------------------------------------

/-- An audit event of `AuditLogger`. -/
structure AuditEvent where
  id : Option String := none
  timestamp : Option Int := none
  eventType : String
  entityType : String
  entityId : String
  action : String
  userId : Option String := none
  apiKeyId : Option String := none
  changes : Option Json := none
  ipAddress : Option String := none
  userAgent : Option String := none
  success : Bool
  error : Option String := none

/-- `timestamp || new Date()`. -/
def timestampOr (timestamp : Option Int) : AuditProgram Int :=
  match timestamp with
  | some timestamp => return timestamp
  | none => awaitAudit .now

namespace AuditRepository

/-- The row of an event: its `actorId` is read, which no event of `AuditLogger` has. -/
def dataOf (event : AuditEvent) (createdAt : Int) : AuditLogData where
  eventType := event.eventType
  entityType := event.entityType
  entityId := event.entityId
  actorId := none
  action := event.action
  changes := changesOf event.changes
  createdAt := some createdAt

/-- Appends a new immutable AuditLog entry. -/
def log (production : Bool) (event : AuditEvent) : AuditProgram Unit := do
  let createdAt ← timestampOr event.timestamp
  let _ ← AuditLogRepository.create production (dataOf event createdAt)
  return ()

/-- Queries logs filtering by events, entity IDs, or date ranges. -/
def getLogs (production : Bool) (filters : AuditLogFilters) (pagination : AuditPagination)
    : AuditProgram AuditPage :=
  AuditLogRepository.findMany production filters.selects pagination

end AuditRepository

namespace AuditLogger

variable (production : Bool)

/-- `id || generateUUID()`. -/
def idOr (id : Option String) : AuditProgram String :=
  match orString id none with
  | some id => return id
  | none => awaitAudit .uuid

/-- Logs a generic AuditEvent instance, and does not throw what writing it throws. -/
def log (event : AuditEvent) : AuditProgram Unit :=
  Program.catchError
    (do
      let id ← idOr event.id
      let timestamp ← timestampOr event.timestamp
      AuditRepository.log production { event with id := some id, timestamp := some timestamp })
    (fun err =>
      match err with
      | .nullish => throw (newTypeError "Cannot read properties of undefined (reading 'message')")
      | _ => return ())

/-- An event is stamped and logged. -/
def stamped (event : AuditEvent) : AuditProgram Unit := do
  let id ← awaitAudit .uuid
  let timestamp ← awaitAudit .now
  log production { event with id := some id, timestamp := some timestamp }

def logDeliveryCreated (deliveryId resultId destinationId : String) (userId : Option String)
    : AuditProgram Unit :=
  stamped production {
    eventType := "DELIVERY_CREATED"
    entityType := "Delivery"
    entityId := deliveryId
    action := "CREATE"
    userId
    changes :=
      some (.object [
        ("before", .null),
        ("after",
          .object [("resultId", .string resultId), ("destinationId", .string destinationId)])
      ])
    success := true
  }

def logDeliveryStatusChanged (deliveryId : String) (before after : Json) (userId : Option String)
    : AuditProgram Unit :=
  stamped production {
    eventType := "DELIVERY_STATUS_CHANGED"
    entityType := "Delivery"
    entityId := deliveryId
    action := "UPDATE"
    userId
    changes :=
      some (.object [
        ("before", .object [("status", before)]), ("after", .object [("status", after)])
      ])
    success := true
  }

def logDestinationCreated (destinationId : String) (type : Json) (endpoint userId : String)
    : AuditProgram Unit :=
  stamped production {
    eventType := "DESTINATION_CREATED"
    entityType := "Destination"
    entityId := destinationId
    action := "CREATE"
    userId := some userId
    changes :=
      some (.object [
        ("before", .null), ("after", .object [("type", type), ("endpoint", .string endpoint)])
      ])
    success := true
  }

def logDestinationUpdated (destinationId : String) (changes : Option Json) (userId : String)
    : AuditProgram Unit :=
  stamped production {
    eventType := "DESTINATION_UPDATED"
    entityType := "Destination"
    entityId := destinationId
    action := "UPDATE"
    userId := some userId
    changes
    success := true
  }

def logApiKeyCreated (keyId tier userId : String) : AuditProgram Unit :=
  stamped production {
    eventType := "API_KEY_CREATED"
    entityType := "ApiKey"
    entityId := keyId
    action := "CREATE"
    userId := some userId
    changes := some (.object [("before", .null), ("after", .object [("tier", .string tier)])])
    success := true
  }

def logApiKeyRevoked (keyId userId : String) : AuditProgram Unit :=
  stamped production {
    eventType := "API_KEY_REVOKED"
    entityType := "ApiKey"
    entityId := keyId
    action := "UPDATE"
    userId := some userId
    changes :=
      some (.object [
        ("before", .object [("revoked", .bool false)]),
        ("after", .object [("revoked", .bool true)])
      ])
    success := true
  }

def logAuthenticationFailed (reason : String) (ipAddress : Option String) : AuditProgram Unit :=
  stamped production {
    eventType := "AUTH_FAILED"
    entityType := "Authentication"
    entityId := "auth"
    action := "EXECUTE"
    ipAddress
    success := false
    error := some reason
  }

def logAuthorizationDenied (resource : String) (userId ipAddress : Option String)
    : AuditProgram Unit :=
  stamped production {
    eventType := "AUTHZ_DENIED"
    entityType := "Authorization"
    entityId := resource
    action := "EXECUTE"
    userId
    ipAddress
    success := false
    error := some "Permission denied"
  }

def logAuthAttempt (success : Bool) (userId : Option String) : AuditProgram Unit :=
  stamped production {
    eventType := if success then "AUTH_SUCCESS" else "AUTH_FAILURE"
    entityType := "Authentication"
    entityId := (orString userId none).getD "auth"
    action := if success then "login_success" else "login_failure"
    userId
    success
  }

def logSecurityEvent (eventType severity : String) (data : Option Json) : AuditProgram Unit :=
  stamped production {
    eventType
    entityType := "Security"
    entityId := severity
    action := "EXECUTE"
    changes := data
    success := true
  }

/-- Backward-compatible logEvent method. -/
def logEvent (eventType entityType : String) (entityId : Option String) (action : String)
    (changes : Option Json) (actorId : Option String)
    : AuditProgram Unit :=
  stamped production {
    eventType
    entityType
    entityId := (orString entityId none).getD "none"
    action := (orString (some action) none).getD "EXECUTE"
    userId := actorId
    changes
    success := true
  }

end AuditLogger

-----------------------------------------------------------------------------------------
-- The table
-----------------------------------------------------------------------------------------

structure AuditWorld where
  table : List AuditLog
  now : Int
  step : Nat

/-- The row of some data. -/
def AuditLogData.row (data : AuditLogData) (id : String) (now : Int) : AuditLog where
  id := id
  data := data
  createdAt := data.createdAt.getD now

/-- What a call does to the rows, and what it is answered. -/
def AuditCall.answer (arrange : List AuditLog → List AuditLog) (id : String) (now : Int)
    (table : List AuditLog)
    : (op : AuditCall) → op.Result × List AuditLog
  | .now => (now, table)
  | .uuid => (id, table)
  | .create data => (data.row id now, data.row id now :: table)
  | .findMany selects take skip =>
      let rows := (arrange (table.filter selects)).drop (skip.getD 0).toNat
      (match take with
        | some take => rows.take take.toNat
        | none => rows, table)
  | .count selects => ((table.filter selects).length, table)
  | .findUnique id => (table.find? (fun row => row.id = id), table)
  | .findFirst selects => ((arrange (table.filter selects)).head?, table)
  | .deleteMany createdBefore =>
      let kept := table.filter (fun row => decide (createdBefore ≤ row.createdAt))
      (table.length - kept.length, kept)

/-- What the runtime answers itself. -/
def AuditCall.isLocal : AuditCall → Bool
  | .now => true
  | .uuid => true
  | _ => false

/-- A query may fail, before or after it has been carried out. -/
def auditServer (elapsed : Nat → Nat) (faults : Nat → Option (Bool × Thrown)) (ids : Nat → String)
    (arrange : Nat → List AuditLog → List AuditLog)
    : Handler AuditSignature Thrown AuditWorld :=
  fun op world =>
    let answered := op.answer (arrange world.step) (ids world.step) world.now world.table
    let later (table : List AuditLog) : AuditWorld :=
      { table, now := world.now + elapsed world.step, step := world.step + 1 }
    match (faults world.step).filter (fun _ => !op.isLocal) with
    | none => (.ok answered.1, later answered.2)
    | some (carriedOut, err) => (.error err, later (if carriedOut then answered.2 else world.table))

-----------------------------------------------------------------------------------------
-- Calls that interleave
-----------------------------------------------------------------------------------------

/-- A call of the logger or of the repository. The methods of the logger stamp an event each, and
those of the repository that would change or delete rows throw the same errors.
-/
inductive AuditRequest where
  | stamped (event : AuditEvent)
  | logged (event : AuditEvent)
  | log (event : AuditLogEvent)
  | create (data : AuditLogData)
  | createMany (data : List AuditLogData)
  | createAuditLog (eventType entityType entityId actorId action : String)
    (changes : Option Json)
  | update
  | delete
  | findMany (selects : AuditFilter) (options : AuditPagination)
  | queryLogs (filters : AuditLogFilters) (pagination : AuditPagination)
  | findUnique (id : String)
  | getById (id : String)
  | findFirst (selects : AuditFilter)
  | count (selects : AuditFilter)
  | purgeOlderThan (days : Number)

namespace AuditRequest

/-- What a call resolves with is left out of account. -/
def settled {α : Type} (program : AuditProgram α) : AuditProgram Unit :=
  program.bind (fun _ => .done ())

def program (production : Bool) : AuditRequest → AuditProgram Unit
  | stamped event => AuditLogger.stamped production event
  | logged event => AuditLogger.log production event
  | log event => settled (AuditLogRepository.log production event)
  | create data => settled (AuditLogRepository.create production data)
  | createMany data => AuditLogRepository.createMany production data
  | createAuditLog eventType entityType entityId actorId action changes =>
      settled
        (AuditLogRepository.createAuditLog production eventType entityType entityId actorId action
          changes)
  | update => AuditLogRepository.update
  | delete => AuditLogRepository.delete
  | findMany selects options => settled (AuditLogRepository.findMany production selects options)
  | queryLogs filters pagination =>
      settled (AuditLogRepository.queryLogs production filters pagination)
  | findUnique id => settled (AuditLogRepository.findUnique production id)
  | getById id => settled (AuditLogRepository.getById production id)
  | findFirst selects => settled (AuditLogRepository.findFirst production selects)
  | count selects => settled (AuditLogRepository.count production selects)
  | purgeOlderThan days => settled (AuditLogRepository.purgeOlderThan production days)

/-- The rows that a call is to write. -/
def Records : AuditRequest → AuditLogData → Prop
  | stamped event, data => ∃ createdAt, data = AuditRepository.dataOf event createdAt
  | logged event, data => ∃ createdAt, data = AuditRepository.dataOf event createdAt
  | log event, data => data = AuditLogRepository.dataOf event
  | create new, data => data = new
  | createMany items, data => data ∈ items
  | createAuditLog eventType entityType entityId actorId action changes, data =>
      data = {
        eventType, entityType, entityId, action
        actorId := some actorId
        changes := changesOf changes
      }
  | _, _ => False

/-- What a call may await, and what times it is told. -/
def owes (request : AuditRequest) : Contract AuditSignature Thrown (List Int) where
  allows times op :=
    match op with
    | .create data => request.Records data
    | .deleteMany cutoff =>
        ∃ now ∈ times, ∃ days,
          request = .purgeOlderThan days ∧ AuditLogRepository.cutoffDate now days = some cutoff
    | _ => True
  answers times op result after :=
    match op, result with
    | .now, .ok now => after = now :: times
    | _, _ => after = times

section

variable {production : Bool} {request : AuditRequest} {times : List Int}

/-- A call that is awaited, whatever it settles with. -/
theorem meets_awaitAudit {call : AuditCall} {post : Settled Thrown call.Result → List Int → Prop}
    (allowed : request.owes.allows times call) (settled : ∀ result after, post result after)
    : Program.Meets (α := no_index call.Result) request.owes (awaitAudit call) times post := by
  unfold awaitAudit
  rw [Program.meets_perform]
  exact ⟨allowed, fun result after _ => settled result after⟩

theorem meets_then {α β : Type} {program : AuditProgram α} {next : α → AuditProgram β}
    (met : program.Meets request.owes times (fun _ _ => True))
    (rest : ∀ value after, (next value).Meets request.owes after (fun _ _ => True))
    : (program.bind next).Meets request.owes times (fun _ _ => True) := by
  refine Program.meets_bind.mpr (met.mono (fun outcome after _ => ?_))
  cases outcome with
  | ok value => exact rest value after
  | error error => trivial

theorem meets_settled {α : Type} {program : AuditProgram α}
    (met : program.Meets request.owes times (fun _ _ => True))
    : (settled program).Meets request.owes times (fun _ _ => True) :=
  meets_then met (fun _ _ => trivial)

theorem meets_caught {α : Type} {program : AuditProgram α} {handler : Thrown → AuditProgram α}
    (met : program.Meets request.owes times (fun _ _ => True))
    (handled : ∀ error after, (handler error).Meets request.owes after (fun _ _ => True))
    : (program.catchError handler).Meets request.owes times (fun _ _ => True) := by
  refine Program.meets_catchError.mpr (met.mono (fun outcome after _ => ?_))
  cases outcome with
  | ok value => trivial
  | error error => exact handled error after

theorem meets_executeQuery {α : Type} {query : AuditProgram α}
    (met : query.Meets request.owes times (fun _ _ => True))
    : (AuditLogRepository.executeQuery production query).Meets request.owes times
        (fun _ _ => True) :=
  meets_caught met (fun _ _ => trivial)

theorem meets_query {call : AuditCall} (allowed : request.owes.allows times call)
    : (AuditLogRepository.executeQuery production (awaitAudit call)).Meets request.owes times
        (fun _ _ => True) :=
  meets_executeQuery (meets_awaitAudit allowed (fun _ _ => trivial))

theorem meets_findMany {selects : AuditFilter} {options : AuditPagination}
    : (AuditLogRepository.findMany production selects options).Meets request.owes times
        (fun _ _ => True) := by
  refine meets_executeQuery (meets_then (meets_awaitAudit trivial (fun _ _ => trivial)) ?_)
  intro records after
  exact meets_then (meets_awaitAudit trivial (fun _ _ => trivial)) (fun _ _ => trivial)

/-- By induction along the items. -/
theorem meets_createMany {data : List AuditLogData} (records : ∀ item ∈ data, request.Records item)
    : (AuditLogRepository.createMany production data).Meets request.owes times
        (fun _ _ => True) := by
  refine meets_executeQuery ?_
  induction data generalizing times with
  | nil => trivial
  | cons item rest ih =>
      refine meets_then (meets_then (meets_awaitAudit ?_ (fun _ _ => trivial)) ?_) ?_
      · exact records item List.mem_cons_self
      · exact fun _ _ => trivial
      · exact fun _ _ => ih (fun other mem => records other (List.mem_cons_of_mem item mem))

theorem meets_timestampOr {timestamp : Option Int}
    : (timestampOr timestamp).Meets request.owes times (fun _ _ => True) := by
  unfold timestampOr
  cases timestamp with
  | some timestamp => trivial
  | none => exact meets_awaitAudit trivial (fun _ _ => trivial)

/-- What the logger writes is the row of its event. -/
theorem meets_log {event : AuditEvent}
    (records : ∀ createdAt, request.Records (AuditRepository.dataOf event createdAt))
    : (AuditLogger.log production event).Meets request.owes times (fun _ _ => True) := by
  refine meets_caught (meets_then ?_ (fun id after => meets_then meets_timestampOr ?_)) ?_
  · unfold AuditLogger.idOr
    cases orString event.id none with
    | some id => trivial
    | none => exact meets_awaitAudit trivial (fun _ _ => trivial)
  · intro timestamp later
    refine meets_then meets_timestampOr (fun createdAt last => ?_)
    exact meets_then (meets_query (records createdAt)) (fun _ _ => trivial)
  · intro error after
    cases error with
    | nullish => trivial
    | text value => trivial
    | error object => trivial

/-- Rows are purged that are older than the days before the time that the call is told. -/
theorem meets_purgeOlderThan {days : Number}
    : (AuditLogRepository.purgeOlderThan production days).Meets (owes (.purgeOlderThan days)) times
        (fun _ _ => True) := by
  refine Program.meets_bind.mpr (Program.meets_perform.mpr ⟨trivial, fun result after told => ?_⟩)
  cases result with
  | error error => trivial
  | ok now =>
      obtain rfl : after = now :: times := told
      dsimp only
      cases purged : AuditLogRepository.cutoffDate now days with
      | none => trivial
      | some cutoff => exact meets_query ⟨now, List.mem_cons_self, days, rfl, purged⟩

end

theorem program_meets (production : Bool) (request : AuditRequest)
    : (request.program production).Meets request.owes [] (fun _ _ => True) := by
  cases request with
  | stamped event =>
      refine meets_then (meets_awaitAudit trivial (fun _ _ => trivial)) (fun id after => ?_)
      refine meets_then (meets_awaitAudit trivial (fun _ _ => trivial)) (fun timestamp later => ?_)
      exact meets_log (fun createdAt => ⟨createdAt, rfl⟩)
  | logged event => exact meets_log (fun createdAt => ⟨createdAt, rfl⟩)
  | log event => exact meets_settled (meets_query rfl)
  | create data => exact meets_settled (meets_query rfl)
  | createMany data => exact meets_createMany (fun _ mem => mem)
  | createAuditLog eventType entityType entityId actorId action changes =>
      exact meets_settled (meets_query rfl)
  | update => trivial
  | delete => trivial
  | findMany selects options => exact meets_settled meets_findMany
  | queryLogs filters pagination => exact meets_settled meets_findMany
  | findUnique id => exact meets_settled (meets_query trivial)
  | getById id =>
      refine meets_settled (meets_then (meets_query trivial) (fun record after => ?_))
      cases record with
      | none => trivial
      | some record => trivial
  | findFirst selects => exact meets_settled (meets_query trivial)
  | count selects => exact meets_settled (meets_query trivial)
  | purgeOlderThan days => exact meets_settled meets_purgeOlderThan

end AuditRequest

/-- The table, and the rows that have been written since the calls began. -/
structure SharedAudit where
  world : AuditWorld
  created : List AuditLog := []

/-- The row that a call writes. -/
def AuditCall.creates (id : String) (now : Int) : AuditCall → List AuditLog
  | .create data => [data.row id now]
  | _ => []

section

variable {ι : Type}

def sharedAudit (elapsed : Nat → Nat) (faults : Nat → Option (Bool × Thrown)) (ids : Nat → String)
    (arrange : Nat → List AuditLog → List AuditLog) (_ : ι)
    : Handler AuditSignature Thrown SharedAudit :=
  fun op shared =>
    let answered := auditServer elapsed faults ids arrange op shared.world
    let carriedOut := (faults shared.world.step).all Prod.fst
    (answered.1,
      {
        world := answered.2
        created :=
          (if carriedOut then op.creates (ids shared.world.step) shared.world.now else [])
            ++ shared.created
      })

/-- The calls, before any of them has begun. -/
def auditRequests (production : Bool) (requests : ι → AuditRequest) (world : AuditWorld)
    : Configuration AuditSignature Thrown ι Unit SharedAudit where
  process caller := (requests caller).program production
  world := { world }

namespace SharedAudit

variable (requests : ι → AuditRequest) (since until_ : Int) (row : AuditLog)

/-- A call has written the row. -/
def Recorded : Prop :=
  ∃ caller now,
    (requests caller).Records row.data
    ∧ since ≤ now
    ∧ now ≤ until_
    ∧ row.createdAt = row.data.createdAt.getD now

/-- A call has purged what is older than some days, and the row is. -/
def Purged : Prop :=
  ∃ caller days now cutoff,
    requests caller = .purgeOlderThan days
    ∧ since ≤ now
    ∧ now ≤ until_
    ∧ AuditLogRepository.cutoffDate now days = some cutoff
    ∧ row.createdAt < cutoff

/-- Rows come from calls that write them, and go by calls that purge them. -/
structure Kept (first : AuditWorld) (times : ι → List Int) (shared : SharedAudit) : Prop where
  now : first.now ≤ shared.world.now
  times : ∀ caller, ∀ time ∈ times caller, first.now ≤ time ∧ time ≤ shared.world.now
  recorded : ∀ row ∈ shared.created, Recorded requests first.now shared.world.now row
  source : ∀ row ∈ shared.world.table, row ∈ first.table ∨ row ∈ shared.created
  kept
    : ∀ row,
        row ∈ first.table ∨ row ∈ shared.created
        → row ∈ shared.world.table ∨ Purged requests first.now shared.world.now row

variable {requests since until_ row} {later : Int} {first : AuditWorld} {times : ι → List Int}
  {shared : SharedAudit} {caller : ι} {op : AuditCall}

theorem Recorded.mono (recorded : Recorded requests since until_ row) (ordered : until_ ≤ later)
    : Recorded requests since later row := by
  obtain ⟨caller, now, records, after, before, createdAt⟩ := recorded
  exact ⟨caller, now, records, after, Int.le_trans before ordered, createdAt⟩

theorem Purged.mono (purged : Purged requests since until_ row) (ordered : until_ ≤ later)
    : Purged requests since later row := by
  obtain ⟨caller, days, now, cutoff, purges, after, before, date, older⟩ := purged
  exact ⟨caller, days, now, cutoff, purges, after, Int.le_trans before ordered, date, older⟩

section

variable {elapsed : Nat → Nat} {faults : Nat → Option (Bool × Thrown)} {ids : Nat → String}
  {arrange : Nat → List AuditLog → List AuditLog}

/-- The clock goes on. -/
theorem now_sharedAudit
    : (sharedAudit elapsed faults ids arrange caller op shared).2.world.now
      = shared.world.now + elapsed shared.world.step := by
  unfold sharedAudit auditServer
  dsimp only
  cases (faults shared.world.step).filter (fun _ => !op.isLocal) with
  | none => rfl
  | some fault => rfl

/-- A call leaves the rows as they are, or writes its row, or deletes the rows before a date. -/
inductive Changed (shared later : SharedAudit) : AuditCall → Prop where
  | nothing {op : AuditCall} (table : later.world.table = shared.world.table)
    (created : later.created = shared.created)
    : Changed shared later op
  | created {data : AuditLogData} (row : AuditLog)
    (now : row.createdAt = data.createdAt.getD shared.world.now)
    (same : row.data = data) (table : later.world.table = row :: shared.world.table)
    (created : later.created = row :: shared.created)
    : Changed shared later (.create data)
  | deleted {cutoff : Int}
    (table
      : later.world.table
        = shared.world.table.filter (fun row => decide (cutoff ≤ row.createdAt)))
    (created : later.created = shared.created)
    : Changed shared later (.deleteMany cutoff)

theorem changed_sharedAudit
    : Changed shared (sharedAudit elapsed faults ids arrange caller op shared).2 op := by
  unfold sharedAudit auditServer
  dsimp only
  cases lost : faults shared.world.step with
  | none =>
      cases op with
      | create data => exact .created _ rfl rfl rfl rfl
      | deleteMany cutoff => exact .deleted rfl rfl
      | _ => exact .nothing rfl rfl
  | some fault =>
      obtain ⟨carriedOut, err⟩ := fault
      cases carriedOut with
      | false => cases op <;> exact .nothing rfl rfl
      | true =>
          cases op with
          | create data => exact .created _ rfl rfl rfl rfl
          | deleteMany cutoff => exact .deleted rfl rfl
          | _ => exact .nothing rfl rfl

/-- What is answered is what the contract admits, and tells times that have passed. -/
theorem answers_sharedAudit (kept : Kept requests first times shared)
    : ∃ after,
        (requests caller).owes.answers (times caller) op
          (sharedAudit elapsed faults ids arrange caller op shared).1 after
        ∧ ∀ time ∈ after, first.now ≤ time ∧ time ≤ shared.world.now := by
  cases op with
  | now =>
      unfold sharedAudit auditServer
      dsimp only
      cases faults shared.world.step with
      | none =>
          refine ⟨shared.world.now :: times caller, rfl, fun time mem => ?_⟩
          rcases List.mem_cons.mp mem with rfl | before
          · exact ⟨kept.now, Int.le_refl _⟩
          · exact kept.times caller time before
      | some fault =>
          refine ⟨shared.world.now :: times caller, rfl, fun time mem => ?_⟩
          rcases List.mem_cons.mp mem with rfl | before
          · exact ⟨kept.now, Int.le_refl _⟩
          · exact kept.times caller time before
  | _ => exact ⟨times caller, rfl, kept.times caller⟩

end

/-- One call keeps where rows come from and go to. -/
theorem Kept.step [DecidableEq ι] {after : List Int} {next : SharedAudit}
    (kept : Kept requests first times shared) (changed : Changed shared next op)
    (on : shared.world.now ≤ next.world.now)
    (allowed : (requests caller).owes.allows (times caller) op)
    (told : ∀ time ∈ after, first.now ≤ time ∧ time ≤ shared.world.now)
    : Kept requests first (Function.update times caller after) next := by
  have times (other : ι) (time : Int) (mem : time ∈ Function.update times caller after other)
      : first.now ≤ time ∧ time ≤ next.world.now := by
    rw [Function.update_apply] at mem
    split at mem
    · exact ⟨(told time mem).1, Int.le_trans (told time mem).2 on⟩
    · exact ⟨(kept.times other time mem).1, Int.le_trans (kept.times other time mem).2 on⟩
  have recorded (row : AuditLog) (mem : row ∈ shared.created)
      : Recorded requests first.now next.world.now row :=
    (kept.recorded row mem).mono on
  have stays (row : AuditLog) (mem : row ∈ first.table ∨ row ∈ shared.created)
      : row ∈ shared.world.table ∨ Purged requests first.now next.world.now row :=
    (kept.kept row mem).imp_right (fun purged => purged.mono on)
  have now : first.now ≤ next.world.now := Int.le_trans kept.now on
  cases changed with
  | nothing table created =>
      refine ⟨now, times, ?_, ?_, ?_⟩
      · rwa [created]
      · rw [table, created]
        exact kept.source
      · rwa [table, created]
  | @created data new createdAt same table created =>
      refine ⟨now, times, ?_, ?_, ?_⟩
      · intro row mem
        rw [created] at mem
        rcases List.mem_cons.mp mem with rfl | before
        · refine ⟨caller, shared.world.now, ?_, kept.now, on, ?_⟩
          · rw [same]
            exact allowed
          · rw [same]
            exact createdAt
        · exact recorded row before
      · intro row mem
        rw [table] at mem
        rw [created]
        rcases List.mem_cons.mp mem with rfl | before
        · exact .inr List.mem_cons_self
        · exact (kept.source row before).imp_right (List.mem_cons_of_mem new)
      · intro row mem
        rw [created] at mem
        rw [table]
        rcases mem with initially | written
        · exact (stays row (.inl initially)).imp_left (List.mem_cons_of_mem new)
        · rcases List.mem_cons.mp written with rfl | before
          · exact .inl List.mem_cons_self
          · exact (stays row (.inr before)).imp_left (List.mem_cons_of_mem new)
  | @deleted cutoff table created =>
      refine ⟨now, times, ?_, ?_, ?_⟩
      · rwa [created]
      · intro row mem
        rw [table] at mem
        rw [created]
        exact kept.source row (List.mem_of_mem_filter mem)
      · intro row mem
        rw [created] at mem
        rw [table]
        rcases stays row mem with held | purged
        · by_cases young : cutoff ≤ row.createdAt
          · exact .inl (List.mem_filter.mpr ⟨held, decide_eq_true young⟩)
          · obtain ⟨time, passed, days, purges, date⟩ := allowed
            obtain ⟨after, before⟩ := kept.times caller time passed
            exact .inr ⟨caller, days, time, cutoff, purges, after, Int.le_trans before on, date,
              Int.not_le.mp young⟩
        · exact .inr purged

end SharedAudit

/-- However calls of the logger and of the repository interleave, and whichever queries fail: each
row of the table was there at first or a call has written it, and each row that was there at first
or has been written is still there as it was, unless a call has purged what is older than some days
and the row is.
-/
theorem ledger_append_only [DecidableEq ι] (production : Bool) (requests : ι → AuditRequest)
    (elapsed : Nat → Nat) (faults : Nat → Option (Bool × Thrown)) (ids : Nat → String)
    (arrange : Nat → List AuditLog → List AuditLog) (first : AuditWorld)
    {config : Configuration AuditSignature Thrown ι Unit SharedAudit}
    (reached
      : Configuration.Reachable (sharedAudit elapsed faults ids arrange) (fun _ _ _ => True)
          (auditRequests production requests first) config)
    : (∀ row ∈ config.world.world.table, row ∈ first.table ∨ row ∈ config.world.created)
      ∧ (∀ row ∈ config.world.created,
          SharedAudit.Recorded requests first.now config.world.world.now row)
      ∧ ∀ row,
          row ∈ first.table ∨ row ∈ config.world.created
          → row ∈ config.world.world.table
            ∨ SharedAudit.Purged requests first.now config.world.world.now row := by
  obtain ⟨times, _, kept⟩ :=
    @Configuration.Reachable.invariant _ _ _ _ _ _ (fun _ => List Int) _ _
      (fun caller => (requests caller).owes) (fun _ _ _ => True)
      (fun times shared => SharedAudit.Kept requests first times shared)
      (by
        intro times shared caller op kept allowed _
        obtain ⟨after, answered, told⟩ := SharedAudit.answers_sharedAudit kept
        refine ⟨after, answered, kept.step SharedAudit.changed_sharedAudit ?_ allowed told⟩
        rw [SharedAudit.now_sharedAudit]
        omega)
      _ config (fun _ => []) (fun caller => (requests caller).program_meets production)
      ⟨Int.le_refl _, fun _ _ mem => absurd mem List.not_mem_nil,
        fun _ mem => absurd mem List.not_mem_nil, fun _ mem => .inl mem,
        fun _ mem => .inl (mem.resolve_right List.not_mem_nil)⟩
      reached
  exact ⟨kept.source, kept.recorded, kept.kept⟩

/-- Two events say the same apart from who acted, from where and with what success. -/
structure AuditEvent.Alike (event other : AuditEvent) : Prop where
  id : event.id = other.id
  timestamp : event.timestamp = other.timestamp
  eventType : event.eventType = other.eventType
  entityType : event.entityType = other.entityType
  entityId : event.entityId = other.entityId
  action : event.action = other.action
  changes : event.changes = other.changes

/-- Two calls of the logger with events alike, or the same call. -/
inductive AuditRequest.Alike : AuditRequest → AuditRequest → Prop where
  | stamped {event other : AuditEvent} (alike : event.Alike other) :
    Alike (stamped event) (stamped other)
  | logged {event other : AuditEvent} (alike : event.Alike other) :
    Alike (logged event) (logged other)
  | same (request : AuditRequest) : Alike request request

namespace AuditEvent.Alike

variable {event other : AuditEvent} (alike : event.Alike other)

include alike

/-- Events alike have the same row. -/
theorem dataOf_eq (createdAt : Int)
    : AuditRepository.dataOf event createdAt = AuditRepository.dataOf other createdAt := by
  rw [AuditRepository.dataOf, AuditRepository.dataOf, alike.eventType, alike.entityType,
    alike.entityId, alike.action, alike.changes]

/-- They are written alike under whatever id and date they get. -/
theorem log_eq (production : Bool) (id : Option String) (timestamp : Option Int)
    : AuditRepository.log production { event with id, timestamp }
      = AuditRepository.log production { other with id, timestamp } := by
  unfold AuditRepository.log
  refine congrArg (Program.bind (timestampOr timestamp)) (funext (fun createdAt => ?_))
  have same
      : AuditRepository.dataOf { event with id, timestamp } createdAt
        = AuditRepository.dataOf { other with id, timestamp } createdAt :=
    alike.dataOf_eq createdAt
  rw [same]

theorem logged_eq (production : Bool)
    : AuditLogger.log production event = AuditLogger.log production other := by
  unfold AuditLogger.log
  rw [alike.id, alike.timestamp]
  simp only [alike.log_eq production]

theorem stamped_eq (production : Bool)
    : AuditLogger.stamped production event = AuditLogger.stamped production other := by
  have logged (id : String) (timestamp : Int)
      : AuditLogger.log production { event with id := some id, timestamp := some timestamp }
        = AuditLogger.log production
            { other with id := some id, timestamp := some timestamp } := by
    have restamped
        : AuditEvent.Alike { event with id := some id, timestamp := some timestamp }
            { other with id := some id, timestamp := some timestamp } :=
      ⟨rfl, rfl, alike.eventType, alike.entityType, alike.entityId, alike.action, alike.changes⟩
    exact restamped.logged_eq production
  unfold AuditLogger.stamped
  simp only [logged]

end AuditEvent.Alike

theorem AuditRequest.Alike.program_eq {request other : AuditRequest}
    (alike : request.Alike other) (production : Bool)
    : request.program production = other.program production := by
  cases alike with
  | stamped alike => exact alike.stamped_eq production
  | logged alike => exact alike.logged_eq production
  | same => rfl

end

/-- One call records an event, another one purges what is older than thirty days. -/
def recordingAndPurging : Bool → AuditRequest
  | false =>
      .stamped {
        eventType := "API_KEY_REVOKED"
        entityType := "ApiKey"
        entityId := "key-7"
        action := "UPDATE"
        userId := some "alice"
        success := true
      }
  | true => .purgeOlderThan 30

/-- A row that is forty days old, when the calls begin. -/
def oldRow : AuditLog where
  id := "row"
  data := ⟨"API_KEY_CREATED", "ApiKey", "key-7", some "alice", "CREATE", .null, none, none, some 0⟩
  createdAt := 0

def purgedLedger : Configuration AuditSignature Thrown Bool Unit SharedAudit :=
  (auditRequests true recordingAndPurging ⟨[oldRow], 3456000000, 0⟩).follow
    (sharedAudit (fun _ => 1) (fun _ => none) (fun _ => "id") (fun _ rows => rows))
    [false, true, false, false, true]

theorem ledger_append_only_purge
    : (∀ row ∈ purgedLedger.world.world.table,
        row ∈ [oldRow] ∨ row ∈ purgedLedger.world.created)
      ∧ (∀ row ∈ purgedLedger.world.created,
          SharedAudit.Recorded recordingAndPurging 3456000000 purgedLedger.world.world.now row)
      ∧ ∀ row,
          row ∈ [oldRow] ∨ row ∈ purgedLedger.world.created
          → row ∈ purgedLedger.world.world.table
            ∨ SharedAudit.Purged recordingAndPurging 3456000000 purgedLedger.world.world.now row :=
  ledger_append_only true recordingAndPurging (fun _ => 1) (fun _ => none) (fun _ => "id")
    (fun _ rows => rows) ⟨[oldRow], 3456000000, 0⟩
    (Configuration.reachable_follow _ _ (by decide +kernel))

end QueueForge.Observability
