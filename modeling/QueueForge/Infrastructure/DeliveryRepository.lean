import QueueForge.Infrastructure.Database

/-! The repositories over the database: error mapping, and the delivery and attempt
methods the worker path uses.
-/

namespace QueueForge.Infrastructure

open QueueForge.Async QueueForge.Js QueueForge.Domain

abbrev SystemProgram (α : Type) : Type := Program SystemSignature Thrown α

/-- Await a database call. -/
def awaitDatabase (call : DatabaseCall) : SystemProgram call.Result :=
  Program.perform (S := SystemSignature) (.database call)

/-- `new Date()` and `Date.now()`. -/
def awaitNow : SystemProgram Int :=
  Program.perform (S := SystemSignature) .now

@[simp] theorem run_awaitDatabase {env : Environment} {process : Nat} {world : World}
    {call : DatabaseCall}
    : Program.run (α := no_index call.Result) (system env process) (awaitDatabase call) world
      = system env process (.database call) world :=
  Program.run_perform

@[simp] theorem run_awaitNow {env : Environment} {process : Nat} {world : World}
    : awaitNow.run (system env process) world
      = (.ok (env.clock world), world.log process .now (.ok (env.clock world))) :=
  Program.run_perform

section
variable {Φ : Type} {contract : Contract SystemSignature Thrown Φ} {phase : Φ}

@[simp] theorem meets_awaitDatabase {call : DatabaseCall}
    {post : Settled Thrown call.Result → Φ → Prop}
    : Program.Meets (α := no_index call.Result) contract (awaitDatabase call) phase post
      ↔ contract.allows phase (.database call)
        ∧ ∀ result after,
            contract.answers phase (.database call) result after → post result after :=
  Program.meets_perform

@[simp] theorem meets_awaitNow {post : Settled Thrown Int → Φ → Prop}
    : awaitNow.Meets contract phase post
      ↔ contract.allows phase .now
        ∧ ∀ result after, contract.answers phase .now result after → post result after :=
  Program.meets_perform

end

/-- `${value}` of a member that may be absent. -/
def interpolated (text : Option String) : String :=
  text.getD "undefined"

section
variable (production : Bool)

/-- Core error mapping: repository errors pass, known database codes are translated, and
everything else becomes an internal error.
-/
def mapDatabaseError : Thrown → Thrown
  | .nullish => newTypeError "Cannot read properties of undefined (reading 'code')"
  | .text _ => .error (internalError production "Database operation failed: undefined")
  | .error object =>
      if object.kind ∈ [.notFound, .validation, .conflict, .internal] then
        .error object
      else if object.code = some "P2002" then
        let fields :=
          match object.details.target with
          | some target => " (" ++ ", ".intercalate target ++ ")"
          | none => ""
        .error
          (conflictError
            ("Database constraint conflict: Duplicate key value violates unique constraint"
              ++ fields))
      else if object.code = some "P2003" then
        let field :=
          match orString object.details.fieldName none with
          | some fieldName => " field: " ++ fieldName
          | none => ""
        .error
          (validationError
            ("Reference integrity check failed: Foreign key violates constraint" ++ field))
      else if object.code = some "P2025" then
        let cause := interpolated (orString object.details.cause object.message)
        .error (notFoundError ("Record not found: " ++ cause))
      else
        let message := "Database operation failed: " ++ interpolated object.message
        .error (internalError production message)

/-- A `TypeError` has no database code and becomes an internal error. -/
theorem mapDatabaseError_typeError (message : String)
    : mapDatabaseError production (newTypeError message)
      = .error (internalError production ("Database operation failed: " ++ message)) := by
  simp [mapDatabaseError, newTypeError, builtinError, interpolated]

/-- The error mapping never gives a nullish exception. -/
theorem mapDatabaseError_ne_nullish (error : Thrown)
    : mapDatabaseError production error ≠ .nullish := by
  intro nullish
  cases error with
  | nullish => exact nomatch nullish
  | text text => exact nomatch nullish
  | error object =>
      simp only [mapDatabaseError] at nullish
      split at nullish
      · exact nomatch nullish
      · split at nullish
        · exact nomatch nullish
        · split at nullish
          · exact nomatch nullish
          · split at nullish
            · exact nomatch nullish
            · exact nomatch nullish

/-- Wrapper translating the exceptions of a query. -/
def executeQuery {α : Type} (query : SystemProgram α) : SystemProgram α :=
  query.catchError (fun error => .fail (mapDatabaseError production error))

/-- The transaction client among the two optional arguments: an object that has one of
the raw query methods. The modelled callers hold no client, so an object is plain data,
known by its keys.
-/
def parseTxAndContext : Value → Option (List String)
  | .object keys =>
      if "$executeRaw" ∈ keys ∨ "$queryRaw" ∈ keys then some keys else none
  | _ => none

/-- `client.taskResultDelivery.update(...)` with `client = tx || this.prisma`. Plain data
in the place of a client has no such method.
-/
def updateDelivery (tx : Option (List String)) (id : String) (data : DeliveryUpdate)
    : SystemProgram DeliveryRow :=
  match tx with
  | none => awaitDatabase (.deliveryUpdate id data)
  | some keys =>
      throw
        (if "taskResultDelivery" ∈ keys then
          newTypeError "client.taskResultDelivery.update is not a function"
        else
          newTypeError "Cannot read properties of undefined (reading 'update')")

namespace DeliveryRepository

/-- Looks up a record by primary key identifier. -/
def findById (id : String) : SystemProgram (Option DeliveryRow) :=
  executeQuery production (awaitDatabase (.deliveryFindUnique id))

/-- Finds the first record with the identifier. -/
def findOne (id : String) : SystemProgram (Option DeliveryRow) :=
  executeQuery production (awaitDatabase (.deliveryFindFirst id))

/-- The detector's `findMany`: the matching rows, after which they are counted too. -/
def findStale (updatedAtMost : Int) : SystemProgram (List DeliveryRow) :=
  executeQuery production (do
    let records ← awaitDatabase (.deliveryFindStale updatedAtMost)
    let _ ← awaitDatabase (.deliveryCountStale updatedAtMost)
    pure records)

/-- Updates delivery status. -/
def updateStatus (id : String) (newStatus : DeliveryStatus) (tx : Option (List String))
    : SystemProgram DeliveryRow :=
  executeQuery production (updateDelivery tx id { status := some newStatus })

def updateDeliveryStatus (id : String) (status : DeliveryStatus) (txOrContext : Value)
    : SystemProgram DeliveryRow :=
  updateStatus production id status (parseTxAndContext txOrContext)

/-- Schedules a retry attempt for a delivery. -/
def scheduleRetry (id : String) (retryAt txOrContext : Value) : SystemProgram DeliveryRow :=
  executeQuery production
    (updateDelivery (parseTxAndContext txOrContext) id {
      status := some .scheduledRetry
      nextRetryAt := retryAt
    })

end DeliveryRepository

namespace AttemptRepository

/-- Records a delivery attempt and updates the counters of its delivery, unless the
delivery is gone.
-/
def recordAttempt (deliveryId : String) (attemptNumber : Int) (responseStatus : Option Int)
    (responseTimeMs : Int) (errorMessage : Option String)
    : SystemProgram Unit := do
  if responseStatus.any (fun status => status < 100 ∨ 599 < status) then
    throw (.error (validationError "Invalid HTTP response status range"))
  else
    executeQuery production (do
      awaitDatabase
        (.attemptCreate deliveryId attemptNumber responseStatus responseTimeMs errorMessage)
      let now ← awaitNow
      tryCatch
        (do
          let _ ← awaitDatabase
            (.deliveryUpdate deliveryId {
              retryCount := some attemptNumber
              lastError := some errorMessage
              lastAttemptAt := some now
            }))
        (fun error =>
          match error with
          | .nullish => throw (newTypeError "Cannot read properties of undefined (reading 'code')")
          | error => if error.code = some "P2025" then pure () else throw error))

/-- Retrieves all attempts associated with a delivery, after which they are counted. Their
order is not read.
-/
def findByDeliveryId (deliveryId : String) : SystemProgram (List AttemptRow) :=
  executeQuery production (do
    let records ← awaitDatabase (.attemptFindMany deliveryId)
    let _ ← awaitDatabase (.attemptCount deliveryId)
    pure records)

end AttemptRepository

/-! Runs of the repository methods over a database without faults. -/

variable {env : Environment} {process : Nat} {world : World} {id : String}

@[simp] theorem run_executeQuery {α : Type} {query : SystemProgram α}
    : (executeQuery production query).run (system env process) world
      = match query.run (system env process) world with
        | (.ok value, after) => (.ok value, after)
        | (.error error, after) => (.error (mapDatabaseError production error), after) := by
  simp only [executeQuery, Program.run_catchError]
  rcases query.run (system env process) world with ⟨_ | _, _⟩ <;> rfl

/-- What a query throws is no nullish exception. -/
theorem run_executeQuery_thrown {α : Type} (env : Environment) (process : Nat)
    (query : SystemProgram α) (world : World)
    : ((executeQuery production query).run (system env process) world).1
      ≠ .error .nullish := by
  rw [run_executeQuery]
  rcases query.run (system env process) world with ⟨error | value, after⟩
  · intro nullish
    exact mapDatabaseError_ne_nullish production error (Except.error.inj nullish)
  · exact nofun

/-- Looking a delivery up gives its stored row and changes nothing. -/
theorem run_findById (faultless : env.Faultless)
    : (DeliveryRepository.findById production id).run (system env process) world
      = (.ok (world.delivery? id),
          world.log process (.database (.deliveryFindUnique id))
            (.ok (world.delivery? id))) := by
  simp [DeliveryRepository.findById, system_database faultless, performDatabase]

section
variable (process world id)

/-- An update whose date the database accepts changes the stored row. -/
theorem run_updateDelivery (faultless : env.Faultless) {data : DeliveryUpdate}
    {row : DeliveryRow} (stored : world.delivery? id = some row)
    (accepted : acceptsDateTime env.parseDateTime data.nextRetryAt = true)
    : ∃ changed after,
        (executeQuery production (updateDelivery none id data)).run
            (system env process) world
          = (.ok changed, after)
        ∧ changed.status = data.status.getD row.status
        ∧ after.delivery? id = some changed := by
  obtain ⟨nextRetryAt, read⟩ := dateTimeArgument_of_accepts accepted
  refine ⟨data.applyTo nextRetryAt (env.clock world) row,
    (world.modifyDelivery id (data.applyTo nextRetryAt (env.clock world))).log process
      (.database (.deliveryUpdate id data))
      (.ok (data.applyTo nextRetryAt (env.clock world) row)), ?_, rfl, ?_⟩
  · simp [updateDelivery, system_database faultless, performDatabase, read, stored]
  · have keepsId := data.applyTo_id nextRetryAt (env.clock world)
    rw [World.delivery?_log, World.delivery?_modifyDelivery keepsId, if_pos rfl, stored]
    rfl

/-- An update with a date the database rejects fails and changes nothing. -/
theorem run_updateDelivery_rejected (faultless : env.Faultless) {data : DeliveryUpdate}
    (rejected : acceptsDateTime env.parseDateTime data.nextRetryAt = false)
    : ∃ after,
        (executeQuery production (updateDelivery none id data)).run
            (system env process) world
          = (.error (mapDatabaseError production argumentRejected), after)
        ∧ after.deliveries = world.deliveries := by
  refine ⟨world.log process (.database (.deliveryUpdate id data)) (.error argumentRejected),
    ?_, rfl⟩
  simp [updateDelivery, system_database faultless, performDatabase,
    dateTimeArgument_of_rejects rejected]

/-- An update through plain data in place of a client fails with an internal error before
it reaches the database.
-/
theorem run_updateDelivery_data (env : Environment) (process : Nat) (world : World)
    (id : String) (data : DeliveryUpdate) (keys : List String)
    : ∃ error : ErrorObject,
        (executeQuery production (updateDelivery (some keys) id data)).run
            (system env process) world
          = (.error (.error error), world)
        ∧ error.statusCode = some 500 := by
  obtain ⟨message, thrown⟩
      : ∃ message, updateDelivery (some keys) id data = .fail (newTypeError message) := by
    by_cases member : "taskResultDelivery" ∈ keys
    · exact ⟨_, by simp only [updateDelivery, member, if_true, Program.throw_eq]; rfl⟩
    · exact ⟨_, by simp only [updateDelivery, member, if_false, Program.throw_eq]; rfl⟩
  refine ⟨internalError production ("Database operation failed: " ++ message), ?_, rfl⟩
  rw [← mapDatabaseError_typeError, thrown, run_executeQuery]
  rfl

end

end

end QueueForge.Infrastructure
