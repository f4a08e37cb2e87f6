import QueueForge.Application.ServiceCalls
import QueueForge.Infrastructure.Database

/-! The adapter that maps database records to delivery entities, and the application services
deployed over it.
-/

namespace QueueForge.Infrastructure

open QueueForge.Async QueueForge.Js QueueForge.Domain QueueForge.Application

/-- The arguments of a delivery upsert. The identifiers and the creation time are only used
to create a row.
-/
structure DeliveryUpsert where
  id : String
  taskResultId : String
  destinationId : String
  status : DeliveryStatus
  retryCount : Int
  nextRetryAt : Option Date
  createdAt : Date

inductive PrismaCall where
  | deliveryUpsert (data : DeliveryUpsert)
  | deliveryFindMany (taskResultId : String)
  | attemptCreate (deliveryId : String) (attemptNumber : Int) (data : AttemptData)

abbrev PrismaCall.Result : PrismaCall → Type
  | deliveryUpsert _ => DeliveryRow
  | deliveryFindMany _ => List DeliveryRow
  | attemptCreate _ _ _ => Unit

abbrev PrismaSignature : Signature where
  Op := PrismaCall
  Result := PrismaCall.Result

abbrev PrismaProgram (α : Type) : Type := Program PrismaSignature Thrown α

/-- Await a call of the Prisma client. -/
def awaitPrisma (call : PrismaCall) : PrismaProgram call.Result :=
  Program.perform (S := PrismaSignature) call

/-- Prisma's error for a second delivery of a result to a destination. -/
def uniqueViolated : Thrown :=
  let target := ["taskResultId", "destinationId"]
  .error {
    builtinError .error "PrismaClientKnownRequestError"
      "Unique constraint failed on the fields: (taskResultId,destinationId)" with
    code := some "P2002"
    details := { target := some target }
  }

/-- A `DateTime?` argument that is a date or null: the column's value, if it is valid. -/
def nullableDateTime : Option Date → Option (Option Int)
  | none => some none
  | some none => none
  | some (some time) => some (some time)

/-- A `String?` argument: the column's value, if it is a string or missing. -/
def nullableText : Value → Option (Option String)
  | .undefined | .null => some none
  | .string text => some (some text)
  | _ => none

/-- An `Int?` argument: the column's value, if it is missing or an integer of 32 bits. -/
def nullableInt : Value → Option (Option Int)
  | .undefined | .null => some none
  | .number (.finite value) =>
      if value.den = 1 ∧ -2147483648 ≤ value.num ∧ value.num ≤ 2147483647 then
        some (some value.num)
      else
        none
  | _ => none

/-- An `Int` argument with a default for where it is missing; null is no value of it. -/
def defaultedInt (fallback : Int) : Value → Option Int
  | .null => none
  | value => (nullableInt value).map (fun given => given.getD fallback)

/-- The row of an attempt, if its data fit the columns. -/
def attemptRow (deliveryId : String) (attemptNumber : Int) (data : AttemptData) (now : Int)
    : Option AttemptRow := do
  let responseStatus ← nullableInt data.responseStatus
  let responseTimeMs ← defaultedInt 0 data.responseTimeMs
  let errorMessage ← nullableText data.errorMessage
  some {
    deliveryId := deliveryId
    attemptNumber := attemptNumber
    responseStatus := responseStatus
    responseTimeMs := responseTimeMs
    errorMessage := errorMessage
    timestamp := now
  }

/-- What an upsert makes of the row with its identifier. -/
def DeliveryUpsert.applyTo (data : DeliveryUpsert) (nextRetryAt : Option Int) (now : Int)
    (row : DeliveryRow)
    : DeliveryRow := {
  row with
  status := data.status
  retryCount := data.retryCount
  nextRetryAt := nextRetryAt
  updatedAt := now
}

/-- The row an upsert creates where there is none. -/
def DeliveryUpsert.newRow (data : DeliveryUpsert) (nextRetryAt : Option Int)
    (createdAt now : Int)
    : DeliveryRow where
  id := data.id
  taskResultId := data.taskResultId
  destinationId := data.destinationId
  status := data.status
  retryCount := data.retryCount
  nextRetryAt := nextRetryAt
  lastAttemptAt := none
  lastError := none
  createdAt := createdAt
  updatedAt := now

/-- What a Prisma call does at a time, without faults. -/
def performPrisma (now : Int) (world : World)
    : (call : PrismaCall) → Settled Thrown call.Result × World
  | .deliveryFindMany taskResultId =>
      (.ok (world.deliveries.filter (fun row => row.taskResultId = taskResultId)), world)
  | .deliveryUpsert data =>
      match nullableDateTime data.nextRetryAt, data.createdAt with
      | some nextRetryAt, some createdAt =>
          match world.delivery? data.id with
          | some row =>
              let change := data.applyTo nextRetryAt now
              (.ok (change row), world.modifyDelivery data.id change)
          | none =>
              if world.deliveries.any (fun row =>
                  row.taskResultId = data.taskResultId
                  && row.destinationId = data.destinationId) then
                (.error uniqueViolated, world)
              else
                let row := data.newRow nextRetryAt createdAt now
                (.ok row, { world with deliveries := world.deliveries ++ [row] })
      | _, _ => (.error argumentRejected, world)
  | .attemptCreate deliveryId attemptNumber data =>
      match attemptRow deliveryId attemptNumber data now, world.delivery? deliveryId with
      | none, _ => (.error argumentRejected, world)
      | some _, none => (.error foreignKeyViolated, world)
      | some row, some _ => (.ok (), { world with attempts := world.attempts ++ [row] })

namespace PrismaDeliveryLogRepository

/-- The entity of a record. What the record does not pass on starts empty. -/
def toDomain (record : DeliveryRow) : Except Thrown Delivery :=
  match Delivery.checkIds record.id record.taskResultId record.destinationId with
  | .error error => .error error
  | .ok ⟨nonempty⟩ =>
      .ok {
        id := record.id
        taskResultId := record.taskResultId
        destinationId := record.destinationId
        status := record.status
        retryCount := record.retryCount
        nextRetryAt := record.nextRetryAt.map some
        lastAttemptAt := none
        lastError := none
        completedAt := none
        createdAt := some record.createdAt
        updatedAt := some record.updatedAt
        attempts := []
        idNonempty := nonempty.1
        taskResultIdNonempty := nonempty.2.1
        destinationIdNonempty := nonempty.2.2
      }

/-- The attempt an event is recorded as, if any. -/
def attemptOf : DomainEvent → Option AttemptData
  | .deliveryCompleted responseStatus latencyMs => some ⟨responseStatus, latencyMs, .undefined⟩
  | .deliveryFailed _ _ errorMessage _ _ => some ⟨.undefined, .undefined, errorMessage⟩
  | _ => none

/-- Write attempt logs if events were recorded. -/
def recordEvents (log : Delivery) : List DomainEvent → PrismaProgram Unit
  | [] => pure ()
  | event :: rest =>
      match attemptOf event with
      | some data => do
          awaitPrisma (.attemptCreate log.id log.retryCount data)
          recordEvents log rest
      | none => recordEvents log rest

/-- The columns of an entity. -/
def columns (log : Delivery) : DeliveryUpsert where
  id := log.id
  taskResultId := log.taskResultId
  destinationId := log.destinationId
  status := log.status
  retryCount := log.retryCount
  nextRetryAt := log.nextRetryAt
  createdAt := log.createdAt

/-- `save`; its callers drop the entity it resolves to. -/
def save (log : Delivery) (events : List DomainEvent) : PrismaProgram Unit := do
  let record ← awaitPrisma (.deliveryUpsert (columns log))
  recordEvents log events
  match toDomain record with
  | .ok _ => pure ()
  | .error error => throw error

/-- The entities of the records, in their order. -/
def toDomainAll : List DeliveryRow → Except Thrown (List Delivery)
  | [] => .ok []
  | record :: rest =>
      match toDomain record with
      | .error error => .error error
      | .ok delivery => (toDomainAll rest).map (fun deliveries => delivery :: deliveries)

def findByTaskResultId (taskResultId : String) : PrismaProgram (List Delivery) := do
  let records ← awaitPrisma (.deliveryFindMany taskResultId)
  match toDomainAll records with
  | .ok deliveries => pure deliveries
  | .error error => throw error

end PrismaDeliveryLogRepository

/-- A job as a service puts it in the queue. -/
inductive ServiceJob where
  | delivery (taskResultId destinationId : String) (attempt : Number) (delay : Value)
  | retry (name deliveryId : String) (delay : Value) (attempts : Nat) (jobId : String)
deriving DecidableEq

structure ServiceWorld where
  database : World
  jobs : List ServiceJob

/-- What the deployment leaves open: the runtime, faults of the database and the queue, and
the other collaborators.
-/
structure ServiceEnvironment where
  runtime : ServiceWorld → Runtime
  fault : ServiceWorld → PrismaCall → Option Thrown
  queueFault : ServiceWorld → ServiceJob → Option Thrown
  answer : ServiceWorld → (call : ServiceCall) → Settled Thrown call.Result

section
variable (env : ServiceEnvironment)

/-- The Prisma client over the database of the deployment. -/
def prisma : Handler PrismaSignature Thrown ServiceWorld := fun call world =>
  match env.fault world call with
  | some error => (.error error, world)
  | none =>
      let outcome := performPrisma (env.runtime world).now world.database call
      (outcome.1, { world with database := outcome.2 })

/-- Put a job in the queue of the deployment. -/
def enqueueJob (job : ServiceJob) (world : ServiceWorld) : Settled Thrown Unit × ServiceWorld :=
  match env.queueFault world job with
  | some error => (.error error, world)
  | none => (.ok (), { world with jobs := world.jobs ++ [job] })

/-- Putting a job in the queue leaves the database alone. -/
theorem enqueueJob_database (job : ServiceJob) (world : ServiceWorld)
    : (enqueueJob env job world).2.database = world.database := by
  unfold enqueueJob
  split <;> rfl

/-- The services over `PrismaDeliveryLogRepository` and a queue. -/
def deployment : Handler ServiceSignature Thrown ServiceWorld
  | .runtime, world => (.ok (env.runtime world), world)
  | .findByTaskResultId taskResultId, world =>
      (PrismaDeliveryLogRepository.findByTaskResultId taskResultId).run (prisma env) world
  | .save delivery events, world =>
      (PrismaDeliveryLogRepository.save delivery events).run (prisma env) world
  | .enqueueDelivery taskResultId destinationId attempt delay, world =>
      enqueueJob env (.delivery taskResultId destinationId attempt delay) world
  | .add name deliveryId delay attempts jobId, world =>
      enqueueJob env (.retry name deliveryId delay attempts jobId) world
  | call, world => (env.answer world call, world)

/-! What the calls of the deployment leave of the stored deliveries and of the queue. -/

/-- An upsert is rejected and changes nothing, or it shows in the lookups of its own row
only.
-/
theorem delivery?_deliveryUpsert (now : Int) (world : World) (data : DeliveryUpsert)
    : (∃ error, performPrisma now world (.deliveryUpsert data) = (.error error, world))
      ∨ ∃ row after,
          performPrisma now world (.deliveryUpsert data) = (.ok row, after)
          ∧ row.status = data.status
          ∧ ∀ other,
              after.delivery? other
              = if other = data.id then some row else world.delivery? other := by
  simp only [performPrisma]
  cases nullableDateTime data.nextRetryAt with
  | none => exact .inl ⟨argumentRejected, rfl⟩
  | some nextRetryAt =>
      cases data.createdAt with
      | none => exact .inl ⟨argumentRejected, rfl⟩
      | some createdAt =>
          cases found : world.delivery? data.id with
          | some row =>
              have keepsId : ∀ row, (data.applyTo nextRetryAt now row).id = row.id :=
                fun _ => rfl
              refine .inr ⟨_, _, rfl, rfl, ?_⟩
              intro other
              rw [World.delivery?_modifyDelivery keepsId]
              split
              · rename_i same
                rw [same, found]
                rfl
              · rfl
          | none =>
              dsimp only
              split
              · exact .inl ⟨uniqueViolated, rfl⟩
              · refine .inr ⟨_, _, rfl, rfl, ?_⟩
                intro other
                simp only [World.delivery?, List.find?_append]
                split
                · rename_i same
                  have missing := found
                  simp only [World.delivery?] at missing
                  simp [same, missing, DeliveryUpsert.newRow]
                · rename_i different
                  simp [DeliveryUpsert.newRow, Ne.symm different]

section
variable {env}

/-- The Prisma client leaves the queue alone. -/
theorem jobs_prisma (call : PrismaCall) (world : ServiceWorld)
    : (prisma env call world).2.jobs = world.jobs := by
  unfold prisma
  split <;> rfl

/-- The client's upsert is rejected and changes nothing, or it shows in the lookups of its
own row only.
-/
theorem prisma_deliveryUpsert (data : DeliveryUpsert) (world : ServiceWorld)
    : (∃ error, prisma env (.deliveryUpsert data) world = (.error error, world))
      ∨ ∃ row after,
          prisma env (.deliveryUpsert data) world = (.ok row, after)
          ∧ row.status = data.status
          ∧ ∀ other,
              after.database.delivery? other
              = if other = data.id then some row else world.database.delivery? other := by
  unfold prisma
  cases env.fault world (.deliveryUpsert data) with
  | some error => exact .inl ⟨error, rfl⟩
  | none =>
      rcases delivery?_deliveryUpsert (env.runtime world).now world.database data with
        ⟨error, rejected⟩ | ⟨row, after, resolved, status, stored⟩
      · refine .inl ⟨error, ?_⟩
        simp only [rejected]
      · refine .inr ⟨row, { world with database := after }, ?_, status, stored⟩
        simp only [resolved]

/-- Creating an attempt leaves the deliveries alone. -/
theorem deliveries_attemptCreate (deliveryId : String) (attemptNumber : Int)
    (data : AttemptData) (world : ServiceWorld)
    : (prisma env (.attemptCreate deliveryId attemptNumber data) world).2.database.deliveries
      = world.database.deliveries := by
  unfold prisma
  split
  · rfl
  · simp only [performPrisma]
    split <;> rfl

/-- The stored status of a delivery. -/
def ServiceWorld.status? (world : ServiceWorld) (id : String) : Option DeliveryStatus :=
  world.database.status? id

@[simp] theorem run_awaitPrisma {call : PrismaCall} {world : ServiceWorld}
    : Program.run (α := no_index call.Result) (prisma env) (awaitPrisma call) world
      = prisma env call world :=
  Program.run_perform

namespace PrismaDeliveryLogRepository

variable (log : Delivery)

/-- Writing attempt logs leaves the deliveries alone, by induction on the events. -/
theorem deliveries_recordEvents (events : List DomainEvent) (world : ServiceWorld)
    : ((recordEvents log events).run (prisma env) world).2.database.deliveries
      = world.database.deliveries := by
  induction events generalizing world with
  | nil => rfl
  | cons event rest ih =>
      unfold recordEvents
      cases attemptOf event with
      | none => exact ih world
      | some data =>
          have created := @deliveries_attemptCreate env log.id log.retryCount data world
          simp only [Program.bind_eq, Program.run_bind, run_awaitPrisma]
          rcases answer : prisma env (.attemptCreate log.id log.retryCount data) world with
            ⟨error | value, after⟩
          · rw [answer] at created
            exact created
          · rw [answer] at created
            exact (ih after).trans created

/-- A save changes no status but that of its own delivery; one that resolves has stored it.
-/
theorem status?_save (events : List DomainEvent) (world : ServiceWorld) (id : String)
    : (((save log events).run (prisma env) world).2.status? id = world.status? id
        ∨ id = log.id
          ∧ ((save log events).run (prisma env) world).2.status? id = some log.status)
      ∧ (((save log events).run (prisma env) world).1 = .ok ()
        → ((save log events).run (prisma env) world).2.status? log.id = some log.status) := by
  simp only [save, Program.bind_eq, Program.run_bind, run_awaitPrisma]
  rcases @prisma_deliveryUpsert env (columns log) world with
    ⟨error, rejected⟩ | ⟨row, after, resolved, status, stored⟩
  · rw [rejected]
    exact ⟨.inl rfl, fun resolved => nomatch resolved⟩
  · have kept := @deliveries_recordEvents env log events after
    simp only [resolved]
    generalize (recordEvents log events).run (prisma env) after = recorded at kept ⊢
    obtain ⟨outcome, final⟩ := recorded
    have written
        : ∀ other,
            final.status? other
            = if other = log.id then some log.status else world.status? other := by
      intro other
      have found : final.database.delivery? other = after.database.delivery? other :=
        congrArg (List.find? _) kept
      rw [ServiceWorld.status?, World.status?, found, stored other]
      by_cases same : other = log.id
      · simp [columns, same, status]
      · simp [columns, same, ServiceWorld.status?, World.status?]
    have settledWorld
        : ∀ result : Settled Thrown Unit,
            ((final.status? id = world.status? id
                ∨ id = log.id ∧ final.status? id = some log.status)
              ∧ (result = .ok () → final.status? log.id = some log.status)) := by
      intro result
      refine ⟨?_, fun _ => (written log.id).trans (if_pos rfl)⟩
      by_cases same : id = log.id
      · exact .inr ⟨same, (written id).trans (if_pos same)⟩
      · exact .inl ((written id).trans (if_neg same))
    cases outcome with
    | error error => exact settledWorld (.error error)
    | ok value =>
        cases toDomain row with
        | error error => exact settledWorld (.error error)
        | ok delivery => exact settledWorld (.ok ())

/-- A save shows in the lookups of its own row only. -/
theorem delivery?_save_other (events : List DomainEvent) (world : ServiceWorld) {other : String}
    (different : other ≠ log.id)
    : ((save log events).run (prisma env) world).2.database.delivery? other
      = world.database.delivery? other := by
  simp only [save, Program.bind_eq, Program.run_bind, run_awaitPrisma]
  rcases @prisma_deliveryUpsert env (columns log) world with
    ⟨error, rejected⟩ | ⟨row, after, resolved, _, stored⟩
  · rw [rejected]
  · have kept := @deliveries_recordEvents env log events after
    simp only [resolved]
    generalize (recordEvents log events).run (prisma env) after = recorded at kept ⊢
    obtain ⟨outcome, final⟩ := recorded
    have written : final.database.delivery? other = world.database.delivery? other := by
      have found : final.database.delivery? other = after.database.delivery? other :=
        congrArg (List.find? _) kept
      rw [found, stored other, columns, if_neg different]
    cases outcome with
    | error error => exact written
    | ok value => cases toDomain row <;> exact written

/-- A save leaves the queue alone, as every call of the client does. -/
theorem jobs_save (events : List DomainEvent) (world : ServiceWorld)
    : ((save log events).run (prisma env) world).2.jobs = world.jobs := by
  let kept (after : ServiceWorld) : Prop := after.jobs = world.jobs
  have step : ∀ call before, kept before → kept (prisma env call before).2 :=
    fun call before same => (jobs_prisma call before).trans same
  exact Program.run_preserves step rfl

/-- The entity of a record has its identifier, and only records whose identifiers are all
present have one.
-/
theorem toDomain_eq_ok {record : DeliveryRow} {delivery : Delivery}
    (converted : toDomain record = .ok delivery)
    : delivery.id = record.id
      ∧ record.id ≠ ""
      ∧ record.taskResultId ≠ ""
      ∧ record.destinationId ≠ "" := by
  unfold toDomain at converted
  split at converted
  · exact nomatch converted
  · rename_i nonempty _
    rw [← Except.ok.inj converted]
    exact ⟨rfl, nonempty⟩

theorem toDomain_of_nonempty {record : DeliveryRow} (id : record.id ≠ "")
    (taskResultId : record.taskResultId ≠ "") (destinationId : record.destinationId ≠ "")
    : ∃ delivery, toDomain record = .ok delivery := by
  simp [toDomain, Delivery.checkIds, id, taskResultId, destinationId]

/-- The entities of some records are each the entity of one, by induction on the records. -/
theorem mem_toDomainAll {records : List DeliveryRow} {deliveries : List Delivery}
    (converted : toDomainAll records = .ok deliveries) {delivery : Delivery}
    (member : delivery ∈ deliveries)
    : ∃ record ∈ records, toDomain record = .ok delivery := by
  induction records generalizing deliveries with
  | nil =>
      obtain rfl : [] = deliveries := Except.ok.inj converted
      exact nomatch member
  | cons record rest ih =>
      unfold toDomainAll at converted
      cases first : toDomain record with
      | error error => simp [first] at converted
      | ok entity =>
          cases others : toDomainAll rest with
          | error error => simp [first, others, Except.map] at converted
          | ok entities =>
              simp only [first, others, Except.map, Except.ok.injEq] at converted
              rw [← converted] at member
              rcases List.mem_cons.mp member with rfl | later
              · exact ⟨record, List.mem_cons_self, first⟩
              · obtain ⟨found, among, made⟩ := ih others later
                exact ⟨found, List.mem_cons_of_mem record among, made⟩

/-- A query that the database answers gives the entities of the records with the task result.
-/
theorem run_findByTaskResultId_of_working (taskResultId : String) (world : ServiceWorld)
    (working : env.fault world (.deliveryFindMany taskResultId) = none)
    : (findByTaskResultId taskResultId).run (prisma env) world
      = (toDomainAll
            (world.database.deliveries.filter (fun row => row.taskResultId = taskResultId)),
          world) := by
  simp only [findByTaskResultId, Program.bind_eq, Program.run_bind, run_awaitPrisma, prisma,
    working, performPrisma]
  cases toDomainAll
    (world.database.deliveries.filter (fun row => row.taskResultId = taskResultId)) <;> rfl

/-- A query changes nothing, whatever its records convert to. -/
theorem run_findByTaskResultId (taskResultId : String) (world : ServiceWorld)
    : ((findByTaskResultId taskResultId).run (prisma env) world).2 = world := by
  simp only [findByTaskResultId, Program.bind_eq, Program.run_bind, run_awaitPrisma]
  have unchanged
      : (prisma env (.deliveryFindMany taskResultId) world).2 = world := by
    unfold prisma
    split <;> rfl
  rcases found : prisma env (.deliveryFindMany taskResultId) world with ⟨error | records, after⟩
  · rw [found] at unchanged
    exact unchanged
  · rw [found] at unchanged
    dsimp only
    cases toDomainAll records <;> exact unchanged

end PrismaDeliveryLogRepository

end

end

end QueueForge.Infrastructure
