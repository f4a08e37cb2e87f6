import QueueForge.Domain.DeliveryStatus
import QueueForge.Infrastructure.Collaborators

/-! The database, the queue and the calls the program makes of them.
Every call is entered in a history, newest first. What the model leaves open, the clock,
faults and the answers of the collaborators, is read off an environment that sees the
whole world.
-/

namespace QueueForge.Infrastructure

open QueueForge.Async QueueForge.Js QueueForge.Domain

/-- A row of `task_result_deliveries`. -/
structure DeliveryRow where
  id : String
  taskResultId : String
  destinationId : String
  status : DeliveryStatus
  retryCount : Int
  nextRetryAt : Option Int
  lastAttemptAt : Option Int
  lastError : Option String
  createdAt : Int
  updatedAt : Int
  deletedAt : Option Int := none
deriving DecidableEq

/-- A row of `task_result_delivery_attempts`. -/
structure AttemptRow where
  deliveryId : String
  attemptNumber : Int
  responseStatus : Option Int
  responseTimeMs : Int
  errorMessage : Option String
  timestamp : Int
deriving DecidableEq

/-- A job of the delivery queue. -/
structure Job where
  name : String
  taskResultId : String
  destinationId : String
  attempt : Int
deriving DecidableEq

/-- The `data` argument of a delivery update. An outer `none` leaves the column alone. -/
structure DeliveryUpdate where
  status : Option DeliveryStatus := none
  retryCount : Option Int := none
  nextRetryAt : Value := .undefined
  lastAttemptAt : Option Int := none
  lastError : Option (Option String) := none
deriving DecidableEq

inductive DatabaseCall where
  | deliveryFindUnique (id : String)
  | deliveryFindFirst (id : String)
  | deliveryFindStale (updatedAtMost : Int)
  | deliveryCountStale (updatedAtMost : Int)
  | deliveryUpdate (id : String) (data : DeliveryUpdate)
  | attemptFindMany (deliveryId : String)
  | attemptCount (deliveryId : String)
  | attemptCreate (deliveryId : String) (attemptNumber : Int) (responseStatus : Option Int)
      (responseTimeMs : Int) (errorMessage : Option String)
deriving DecidableEq

abbrev DatabaseCall.Result : DatabaseCall → Type
  | deliveryFindUnique _ => Option DeliveryRow
  | deliveryFindFirst _ => Option DeliveryRow
  | deliveryFindStale _ => List DeliveryRow
  | deliveryCountStale _ => Nat
  | deliveryUpdate _ _ => DeliveryRow
  | attemptFindMany _ => List AttemptRow
  | attemptCount _ => Nat
  | attemptCreate _ _ _ _ _ => Unit

inductive SystemCall where
  | now
  | external (call : ExternalCall)
  | database (call : DatabaseCall)
  | queueAdd (job : Job)
deriving DecidableEq

abbrev SystemCall.Result : SystemCall → Type
  | now => Int
  | external call => call.Result
  | database call => call.Result
  | queueAdd _ => Unit

abbrev SystemSignature : Signature where
  Op := SystemCall
  Result := SystemCall.Result

/-- One call of one process and what it settled with. -/
structure Entry where
  process : Nat
  call : SystemCall
  result : Settled Thrown call.Result

structure World where
  deliveries : List DeliveryRow
  attempts : List AttemptRow
  queue : List Job
  history : List Entry

/-- What the model leaves open. A fault makes a database or queue call fail before it has
any effect.
-/
structure Environment where
  clock : World → Int
  fault : Nat → World → SystemCall → Option Thrown
  answer : Nat → World → (call : ExternalCall) → Settled Thrown call.Result
  parseDateTime : String → Option Int

/-- A working database and queue: no call of them fails by a fault. -/
def Environment.Faultless (env : Environment) : Prop :=
  ∀ process world call, env.fault process world call = none

namespace World

/-- The stored row of a delivery. -/
def delivery? (world : World) (id : String) : Option DeliveryRow :=
  world.deliveries.find? (fun row => row.id = id)

/-- The stored status of a delivery. -/
def status? (world : World) (id : String) : Option DeliveryStatus :=
  (world.delivery? id).map DeliveryRow.status

/-- The result a delivery is of and the destination it goes to, which name its jobs. -/
def pair? (world : World) (id : String) : Option (String × String) :=
  (world.delivery? id).map (fun row => (row.taskResultId, row.destinationId))

/-- A job that is one for the delivery. -/
def isJobFor (world : World) (id : String) (job : Job) : Bool :=
  world.pair? id = some (job.taskResultId, job.destinationId)

/-- The jobs for a delivery in the queue. -/
def jobsFor (world : World) (id : String) : List Job :=
  world.queue.filter (world.isJobFor id)

/-- Change the rows with this identifier. -/
def modifyDelivery (world : World) (id : String) (change : DeliveryRow → DeliveryRow)
    : World := {
  world with
  deliveries := world.deliveries.map (fun row => if row.id = id then change row else row)
}

/-- The rows of the detector's query: in PROCESSING since at most the given time. -/
def staleDeliveries (world : World) (updatedAtMost : Int) : List DeliveryRow :=
  world.deliveries.filter (fun row => row.status = .processing ∧ row.updatedAt ≤ updatedAtMost)

/-- A found row carries the identifier it was looked up by. -/
theorem delivery?_id {world : World} {id : String} {row : DeliveryRow}
    (found : world.delivery? id = some row)
    : row.id = id := by
  simpa using List.find?_some found

/-- A change that keeps identifiers shows in the lookups of its own row only, as the rows
keep their order and their identifiers.
-/
theorem delivery?_modifyDelivery {world : World} {id : String}
    {change : DeliveryRow → DeliveryRow} (keepsId : ∀ row, (change row).id = row.id)
    (other : String)
    : (world.modifyDelivery id change).delivery? other
      = if other = id then (world.delivery? other).map change else world.delivery? other := by
  have sameId
      : ∀ row : DeliveryRow, (if row.id = id then change row else row).id = row.id := by
    intro row
    split
    · exact keepsId row
    · rfl
  simp only [delivery?, modifyDelivery, List.find?_map, Function.comp_def, sameId]
  cases found : world.deliveries.find? (fun row => row.id = other) with
  | none => simp
  | some row =>
      have named : row.id = other := by simpa using List.find?_some found
      by_cases same : other = id
      · simp [named, same]
      · simp [named, same]

theorem status?_eq_some {world : World} {id : String} {status : DeliveryStatus}
    : world.status? id = some status
      ↔ ∃ row, world.delivery? id = some row ∧ row.status = status :=
  Option.map_eq_some_iff

end World

/-- Prisma's error for a row that was required but not found. -/
def recordNotFound : Thrown :=
  let cause := "Record to update not found."
  let message :=
    "An operation failed because it depends on one or more records that were required "
      ++ "but not found. " ++ cause
  .error {
    builtinError .error "PrismaClientKnownRequestError" message with
    code := some "P2025"
    details := { cause := some cause }
  }

/-- Prisma's error for an attempt without its delivery. -/
def foreignKeyViolated : Thrown :=
  let fieldName := "task_result_delivery_attempts_deliveryId_fkey (index)"
  let message := "Foreign key constraint failed on the field: " ++ fieldName
  .error {
    builtinError .error "PrismaClientKnownRequestError" message with
    code := some "P2003"
    details := { fieldName := some fieldName }
  }

/-- Prisma's error for an argument of the wrong type. -/
def argumentRejected : Thrown :=
  .error
    (builtinError .error "PrismaClientValidationError"
      "Invalid value provided for argument nextRetryAt.")

/-- How Prisma reads a `DateTime?` argument: leave the column, or set it. -/
def dateTimeArgument (parseDateTime : String → Option Int)
    : Value → Except Thrown (Option (Option Int))
  | .undefined => .ok none
  | .null => .ok (some none)
  | .date (some time) => .ok (some (some time))
  | .string text =>
      match parseDateTime text with
      | some time => .ok (some (some time))
      | none => .error argumentRejected
  | _ => .error argumentRejected

/-- Whether Prisma accepts the value for a `DateTime?` column. -/
def acceptsDateTime (parseDateTime : String → Option Int) : Value → Bool
  | .undefined | .null | .date (some _) => true
  | .string text => (parseDateTime text).isSome
  | _ => false

namespace DeliveryUpdate

/-- The row after the update; `@updatedAt` is refreshed by every one. -/
def applyTo (data : DeliveryUpdate) (nextRetryAt : Option (Option Int)) (now : Int)
    (row : DeliveryRow)
    : DeliveryRow := {
  row with
  status := data.status.getD row.status
  retryCount := data.retryCount.getD row.retryCount
  nextRetryAt := nextRetryAt.getD row.nextRetryAt
  lastAttemptAt := data.lastAttemptAt.or row.lastAttemptAt
  lastError := data.lastError.getD row.lastError
  updatedAt := now
}

end DeliveryUpdate

/-- What a database call does in a world without faults. -/
def performDatabase (env : Environment) (world : World)
    : (call : DatabaseCall) → Settled Thrown call.Result × World
  | .deliveryFindUnique id => (.ok (world.delivery? id), world)
  | .deliveryFindFirst id => (.ok (world.delivery? id), world)
  | .deliveryFindStale time => (.ok (world.staleDeliveries time), world)
  | .deliveryCountStale time => (.ok (world.staleDeliveries time).length, world)
  | .deliveryUpdate id data =>
      match dateTimeArgument env.parseDateTime data.nextRetryAt with
      | .error error => (.error error, world)
      | .ok nextRetryAt =>
          match world.delivery? id with
          | none => (.error recordNotFound, world)
          | some row =>
              let change := data.applyTo nextRetryAt (env.clock world)
              (.ok (change row), world.modifyDelivery id change)
  | .attemptFindMany id =>
      (.ok (world.attempts.filter (fun row => row.deliveryId = id)), world)
  | .attemptCount id =>
      (.ok (world.attempts.filter (fun row => row.deliveryId = id)).length, world)
  | .attemptCreate id attemptNumber responseStatus responseTimeMs errorMessage =>
      match world.delivery? id with
      | none => (.error foreignKeyViolated, world)
      | some _ =>
          let row : AttemptRow := {
            deliveryId := id
            attemptNumber := attemptNumber
            responseStatus := responseStatus
            responseTimeMs := responseTimeMs
            errorMessage := errorMessage
            timestamp := env.clock world
          }
          (.ok (), { world with attempts := world.attempts ++ [row] })

/-- What a call does, before it is entered in the history. -/
def performCall (env : Environment) (process : Nat) (world : World)
    : (call : SystemCall) → Settled Thrown call.Result × World
  | .now => (.ok (env.clock world), world)
  | .external call => (env.answer process world call, world)
  | .database call =>
      match env.fault process world (.database call) with
      | some error => (.error error, world)
      | none => performDatabase env world call
  | .queueAdd job =>
      match env.fault process world (.queueAdd job) with
      | some error => (.error error, world)
      | none => (.ok (), { world with queue := world.queue ++ [job] })

/-- Enter a call in the history. -/
def World.log (world : World) (process : Nat) (call : SystemCall)
    (result : Settled Thrown call.Result)
    : World := {
  world with
  history := ⟨process, call, result⟩ :: world.history
}

/-- The handler of one process: perform the call, then enter it. -/
def system (env : Environment) (process : Nat) : Handler SystemSignature Thrown World :=
  fun call world =>
    let outcome := performCall env process world call
    (outcome.1, outcome.2.log process call outcome.1)

namespace World

variable {world : World} {process : Nat} {call : SystemCall}
  {result : Settled Thrown call.Result}

@[simp] theorem deliveries_log
    : (world.log process call result).deliveries = world.deliveries :=
  rfl

@[simp] theorem delivery?_log (id : String)
    : (world.log process call result).delivery? id = world.delivery? id :=
  rfl

end World

/-- An update keeps the identifier of its row. -/
@[simp] theorem DeliveryUpdate.applyTo_id (data : DeliveryUpdate)
    (nextRetryAt : Option (Option Int)) (now : Int) (row : DeliveryRow)
    : (data.applyTo nextRetryAt now row).id = row.id :=
  rfl

/-- The reading of a date succeeds exactly on the accepted values. -/
theorem dateTimeArgument_of_accepts {parseDateTime : String → Option Int} {value : Value}
    (accepted : acceptsDateTime parseDateTime value = true)
    : ∃ nextRetryAt, dateTimeArgument parseDateTime value = .ok nextRetryAt := by
  cases value with
  | undefined => exact ⟨_, rfl⟩
  | null => exact ⟨_, rfl⟩
  | date time =>
      cases time with
      | none => contradiction
      | some time => exact ⟨_, rfl⟩
  | string text =>
      obtain ⟨time, parsed⟩ := Option.isSome_iff_exists.mp accepted
      exact ⟨some (some time), by simp only [dateTimeArgument, parsed]⟩
  | _ => contradiction

theorem dateTimeArgument_of_rejects {parseDateTime : String → Option Int} {value : Value}
    (rejected : acceptsDateTime parseDateTime value = false)
    : dateTimeArgument parseDateTime value = .error argumentRejected := by
  cases value with
  | undefined => contradiction
  | null => contradiction
  | date time =>
      cases time with
      | none => rfl
      | some time => contradiction
  | string text =>
      have unparsed : parseDateTime text = none := Option.not_isSome_iff_eq_none.mp
        (Bool.eq_false_iff.mp rejected)
      simp only [dateTimeArgument, unparsed]
  | _ => rfl

/-- Without faults a database call does what it says and is entered. -/
theorem system_database {env : Environment} (faultless : env.Faultless) (process : Nat)
    (world : World) (call : DatabaseCall)
    : system env process (.database call) world
      = ((performDatabase env world call).1,
          (performDatabase env world call).2.log process (.database call)
            (performDatabase env world call).1) := by
  simp only [system, performCall, faultless process world (.database call)]

/-- The calls that may change a stored delivery. -/
def SystemCall.isUpdate : SystemCall → Bool
  | .database (.deliveryUpdate _ _) => true
  | _ => false

/-- Any other call leaves the stored deliveries, by cases on the call. -/
theorem deliveries_system (env : Environment) (process : Nat) (world : World)
    {call : SystemCall} (reads : call.isUpdate = false)
    : (system env process call world).2.deliveries = world.deliveries := by
  cases call with
  | now => rfl
  | external call => rfl
  | queueAdd job =>
      simp only [system, performCall]
      cases env.fault process world (.queueAdd job) <;> rfl
  | database call =>
      simp only [system, performCall]
      cases env.fault process world (.database call) with
      | some error => rfl
      | none =>
          cases call with
          | deliveryUpdate id data => contradiction
          | attemptCreate id attemptNumber responseStatus responseTimeMs errorMessage =>
              simp only [performDatabase]
              cases world.delivery? id <;> rfl
          | _ => rfl

/-- An update either throws and changes nothing, or it changes its own row as it says. -/
theorem delivery?_system_update (env : Environment) (process : Nat) (world : World)
    (id : String) (data : DeliveryUpdate)
    : ((∃ error, (system env process (.database (.deliveryUpdate id data)) world).1
            = .error error)
        ∧ (system env process (.database (.deliveryUpdate id data)) world).2.deliveries
          = world.deliveries)
      ∨ ∃ row changed,
          world.delivery? id = some row
          ∧ (system env process (.database (.deliveryUpdate id data)) world).1 = .ok changed
          ∧ changed.status = data.status.getD row.status
          ∧ ∀ other,
              (system env process (.database (.deliveryUpdate id data)) world).2.delivery? other
              = if other = id then some changed else world.delivery? other := by
  simp only [system, performCall]
  cases env.fault process world (.database (.deliveryUpdate id data)) with
  | some error => exact .inl ⟨⟨error, rfl⟩, rfl⟩
  | none =>
      simp only [performDatabase]
      cases dateTimeArgument env.parseDateTime data.nextRetryAt with
      | error error => exact .inl ⟨⟨error, rfl⟩, rfl⟩
      | ok nextRetryAt =>
          cases found : world.delivery? id with
          | none => exact .inl ⟨⟨recordNotFound, rfl⟩, rfl⟩
          | some row =>
              have keepsId := data.applyTo_id nextRetryAt (env.clock world)
              refine .inr ⟨row, data.applyTo nextRetryAt (env.clock world) row, rfl, rfl, rfl, ?_⟩
              intro other
              rw [World.delivery?_log, World.delivery?_modifyDelivery keepsId]
              split
              · rename_i same
                rw [same, found]
                rfl
              · rfl

namespace SystemCall

/-- The status a call would store for the delivery. -/
def target? (id : String) : SystemCall → Option DeliveryStatus
  | .database (.deliveryUpdate other data) => if other = id then data.status else none
  | _ => none

/-- Whether a call looks a delivery up by its key. -/
def isLookup : SystemCall → Bool
  | .database (.deliveryFindUnique _) => true
  | _ => false

/-- Whether a call transmits. -/
def isTransmission : SystemCall → Bool
  | .external call => call.isTransmission
  | _ => false

/-- The job a call would add to the queue. -/
def job? : SystemCall → Option Job
  | .queueAdd job => some job
  | _ => none

end SystemCall

namespace Entry

/-- The status an answered call has stored for the delivery. -/
def written? (id : String) (entry : Entry) : Option DeliveryStatus :=
  match entry.result with
  | .ok _ => entry.call.target? id
  | .error _ => none

/-- The job an answered call has added to the queue. -/
def added? (entry : Entry) : Option Job :=
  match entry.result with
  | .ok _ => entry.call.job?
  | .error _ => none

/-- A call with the answer the system gives it. -/
def answering (env : Environment) (process : Nat) (call : SystemCall) (world : World)
    : Entry where
  process := process
  call := call
  result := (system env process call world).1

end Entry

section
variable (env : Environment) (process : Nat) (call : SystemCall) (world : World)

/-- A database call changes neither the queue nor the history, by cases on the call. -/
theorem performDatabase_frame (call : DatabaseCall)
    : (performDatabase env world call).2.queue = world.queue
      ∧ (performDatabase env world call).2.history = world.history := by
  cases call with
  | deliveryUpdate id data =>
      simp only [performDatabase]
      cases dateTimeArgument env.parseDateTime data.nextRetryAt with
      | error error => exact ⟨rfl, rfl⟩
      | ok nextRetryAt => cases world.delivery? id <;> exact ⟨rfl, rfl⟩
  | attemptCreate id attemptNumber responseStatus responseTimeMs errorMessage =>
      simp only [performDatabase]
      cases world.delivery? id <;> exact ⟨rfl, rfl⟩
  | _ => exact ⟨rfl, rfl⟩

/-- Each call is entered once. -/
theorem history_system
    : (system env process call world).2.history
      = .answering env process call world :: world.history := by
  have unlogged : (performCall env process world call).2.history = world.history := by
    cases call with
    | now => rfl
    | external call => rfl
    | queueAdd job =>
        rw [performCall]
        cases env.fault process world (.queueAdd job) <;> rfl
    | database call =>
        rw [performCall]
        cases env.fault process world (.database call) with
        | some error => rfl
        | none => exact (performDatabase_frame env world call).2
  rw [system, World.log, unlogged]
  rfl

/-- The queue grows by the job the call has added. -/
theorem queue_system
    : (system env process call world).2.queue
      = world.queue ++ (Entry.answering env process call world).added?.toList := by
  have unadded
      : call.job? = none → (Entry.answering env process call world).added? = none := by
    intro silent
    rw [Entry.added?]
    split
    · exact silent
    · rfl
  cases call with
  | now => rw [unadded rfl, Option.toList_none, List.append_nil]; rfl
  | external call => rw [unadded rfl, Option.toList_none, List.append_nil]; rfl
  | database call =>
      rw [unadded rfl, Option.toList_none, List.append_nil]
      simp only [system, performCall]
      cases env.fault process world (.database call) with
      | some error => rfl
      | none => exact (performDatabase_frame env world call).1
  | queueAdd job =>
      cases faulty : env.fault process world (.queueAdd job) with
      | some error =>
          simp only [Entry.added?, Entry.answering, system, performCall, faulty,
            Option.toList_none, List.append_nil]
          rfl
      | none =>
          simp only [Entry.added?, Entry.answering, system, performCall, faulty]
          rfl

/-- No call changes which result a delivery is of, or where it goes. -/
theorem pair?_system (id : String)
    : (system env process call world).2.pair? id = world.pair? id := by
  cases update : call.isUpdate with
  | false =>
      have unchanged := deliveries_system env process world update
      simp only [World.pair?, World.delivery?, unchanged]
  | true =>
      obtain ⟨other, data, rfl⟩ : ∃ other data, call = .database (.deliveryUpdate other data) := by
        cases call with
        | database call => cases call <;> first | exact ⟨_, _, rfl⟩ | contradiction
        | _ => contradiction
      simp only [system, performCall]
      cases env.fault process world (.database (.deliveryUpdate other data)) with
      | some error => rfl
      | none =>
          simp only [performDatabase]
          cases dateTimeArgument env.parseDateTime data.nextRetryAt with
          | error error => rfl
          | ok nextRetryAt =>
              cases found : world.delivery? other with
              | none => rfl
              | some row =>
                  have keepsId := data.applyTo_id nextRetryAt (env.clock world)
                  rw [World.pair?, World.pair?, World.delivery?_log,
                    World.delivery?_modifyDelivery keepsId]
                  split
                  · rename_i same
                    rw [same, found]
                    rfl
                  · rfl

theorem isJobFor_system (id : String)
    : (system env process call world).2.isJobFor id = world.isJobFor id := by
  funext job
  rw [World.isJobFor, World.isJobFor, pair?_system]

/-- The jobs for a delivery stay, unless the call has added one. -/
theorem jobsFor_system {id : String}
    (other
      : ∀ job,
          (Entry.answering env process call world).added? = some job
          → world.isJobFor id job = false)
    : (system env process call world).2.jobsFor id = world.jobsFor id := by
  rw [World.jobsFor, isJobFor_system, queue_system, List.filter_append]
  cases added : (Entry.answering env process call world).added? with
  | none => exact List.append_nil _
  | some job =>
      rw [Option.toList_some, List.filter_cons_of_neg (Bool.eq_false_iff.mp (other job added))]
      exact List.append_nil _

/-- The stored status of a delivery is the one the call has written, or the old one. -/
theorem status?_system {id : String} {status : DeliveryStatus}
    (stored : world.status? id = some status)
    : (system env process call world).2.status? id
      = some (((Entry.answering env process call world).written? id).getD status) := by
  have kept
      : (system env process call world).2.deliveries = world.deliveries
        → (system env process call world).2.status? id = some status := by
    intro unchanged
    rw [World.status?, World.delivery?, unchanged]
    exact stored
  cases update : call.isUpdate with
  | false =>
      have silent : (Entry.answering env process call world).written? id = none := by
        have untargeted : call.target? id = none := by
          cases call with
          | database call => cases call <;> first | rfl | contradiction
          | _ => rfl
        rw [Entry.written?]
        split
        · exact untargeted
        · rfl
      rw [silent]
      exact kept (deliveries_system env process world update)
  | true =>
      obtain ⟨other, data, rfl⟩ : ∃ other data, call = .database (.deliveryUpdate other data) := by
        cases call with
        | database call => cases call <;> first | exact ⟨_, _, rfl⟩ | contradiction
        | _ => contradiction
      rcases delivery?_system_update env process world other data with
        ⟨⟨error, failed⟩, unchanged⟩ | ⟨row, changed, found, returned, moved, looked⟩
      · have silent
            : (Entry.answering env process (.database (.deliveryUpdate other data))
                world).written? id = none := by
          simp only [Entry.written?, Entry.answering, failed]
        rw [silent]
        exact kept unchanged
      · have written
            : (Entry.answering env process (.database (.deliveryUpdate other data))
                world).written? id = if other = id then data.status else none := by
          simp only [Entry.written?, Entry.answering, returned, SystemCall.target?]
        rw [written, World.status?, looked]
        by_cases same : id = other
        · subst same
          obtain rfl : row.status = status := by
            rw [World.status?, found] at stored
            exact Option.some.inj stored
          rw [if_pos rfl, if_pos rfl]
          exact congrArg some moved
        · rw [if_neg same, if_neg (fun named => same named.symm)]
          exact stored

end

/-- A new delivery in the given status. -/
def DeliveryRow.fresh (status : DeliveryStatus) : DeliveryRow where
  id := "delivery"
  taskResultId := "task-result"
  destinationId := "destination"
  status := status
  retryCount := 0
  nextRetryAt := none
  lastAttemptAt := none
  lastError := none
  createdAt := 0
  updatedAt := 0

/-- A world that stores one delivery and in which nothing has happened yet. -/
def World.ofDelivery (row : DeliveryRow) : World where
  deliveries := [row]
  attempts := []
  queue := []
  history := []

/-- An environment with a working database and the given collaborators. -/
def Environment.answering (answer : (call : ExternalCall) → Settled Thrown call.Result)
    : Environment where
  clock := fun _ => 0
  fault := fun _ _ _ => none
  answer := fun _ _ => answer
  parseDateTime := fun _ => none

theorem Environment.answering_faultless
    (answer : (call : ExternalCall) → Settled Thrown call.Result)
    : (Environment.answering answer).Faultless :=
  fun _ _ _ => rfl

end QueueForge.Infrastructure
