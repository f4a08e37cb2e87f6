import QueueForge.Async.Interleaving
import QueueForge.Infrastructure.BullMQWorker
import QueueForge.Infrastructure.PrismaDestinationRepository

/-! `ReceiveTaskResultUseCase` stores a task result that is not stored yet and adds a job for each
active destination that matches it. A task result that is found is answered as it is, so that only
calls that look it up before it is first saved add jobs.
-/

namespace QueueForge.Application

open QueueForge.Async QueueForge.Js QueueForge.Domain QueueForge.Infrastructure

-----------------------------------------------------------------------------------------
-- The entity and its row
-----------------------------------------------------------------------------------------

/-- What the use case takes from the language: how a number is spelled, what a JSON value is as a
number, which may throw, and as the operand of a spread.
-/
structure ReceiveLibrary where
  numberText : Number → String
  toNumber : Json → Except Thrown Number
  spread : Json → List (String × Json)

/-- What the controller passes on: neither member is empty. -/
structure ReceiveTaskResultDTO where
  taskId : String
  payload : List (String × Json)
  taskIdNonempty : taskId ≠ ""

/-- The parameters of `AiTaskResult.restore`, which are the columns of `ai_task_results` too. A JSON
column gives back the value it was given.
-/
structure TaskResultRecord where
  id : String
  emailId : Json
  agentId : Json
  agentVersion : Json
  confidenceScore : Number
  resultPayload : Json
  createdAt : Int
  updatedAt : Int
  deletedAt : Option Int
  idNonempty : id ≠ ""

/-- A task result that has been restored. Of its payload nothing is known but that there is one. -/
structure RestoredTaskResult where
  id : String
  emailId : EmailId
  agentId : AgentId
  agentVersion : Json
  confidenceScore : ConfidenceScore
  resultPayload : Json
  createdAt : Int
  updatedAt : Int
  deletedAt : Option Int
  idNonempty : id ≠ ""
  versioned : agentVersion.truthy = true
  filled : resultPayload.truthy = true

/-- `value || fallback`. -/
def orJson (value fallback : Json) : Json :=
  if value.truthy then value else fallback

theorem truthy_orJson (value : Json) {fallback : Json} (filled : fallback.truthy = true)
    : (orJson value fallback).truthy = true := by
  unfold orJson
  split
  · next given => exact given
  · exact filled

theorem orJson_of_truthy {value : Json} (fallback : Json) (given : value.truthy = true)
    : orJson value fallback = value :=
  if_pos given

theorem defaultVersion_truthy : (Json.string "1.0.0").truthy = true := by decide

theorem emptyPayload_truthy : (Json.object []).truthy = true := rfl

/-- The text a value object is made of. What is not a text is rejected as an empty one is. -/
def textOf : Json → String
  | .string value => value
  | _ => ""

/-- Static factory method restoring an existing task result from persistence. -/
def restoreTaskResult (numberText : Number → String) (params : TaskResultRecord)
    : Except Thrown RestoredTaskResult := do
  let emailId ← EmailId.create (textOf params.emailId)
  let agentId ← AgentId.create (textOf params.agentId)
  let confidenceScore ← ConfidenceScore.create numberText params.confidenceScore
  return {
    id := params.id
    emailId := emailId
    agentId := agentId
    agentVersion := orJson params.agentVersion (.string "1.0.0")
    confidenceScore := confidenceScore
    resultPayload := orJson params.resultPayload (.object [])
    createdAt := params.createdAt
    updatedAt := params.updatedAt
    deletedAt := params.deletedAt
    idNonempty := params.idNonempty
    versioned := truthy_orJson params.agentVersion defaultVersion_truthy
    filled := truthy_orJson params.resultPayload emptyPayload_truthy
  }

/-- The arguments of a task result upsert. Where there is a row, all of its columns but the creation
time are set, with dates of their own.
-/
structure TaskResultUpsert where
  create : TaskResultRecord
  updatedAt : Int
  deletedAt : Option Int

/-- What an upsert leaves of the row with its identifier. -/
def TaskResultUpsert.record (data : TaskResultUpsert) : Option TaskResultRecord → TaskResultRecord
  | none => data.create
  | some row => {
      data.create with
      createdAt := row.createdAt
      updatedAt := data.updatedAt
      deletedAt := data.deletedAt
    }

-----------------------------------------------------------------------------------------
-- The use case
-----------------------------------------------------------------------------------------

/-- A query, `new Date()` or a job for BullMQ. -/
inductive ReceiveCall where
  | now
  | findUnique (id : String)
  | upsert (data : TaskResultUpsert)
  | findMany
  | add (job : DeliveryJob)

abbrev ReceiveCall.Result : ReceiveCall → Type
  | now => Int
  | findUnique _ => Option TaskResultRecord
  | upsert _ => TaskResultRecord
  | findMany => List DestinationRow
  | add _ => Unit

abbrev ReceiveSignature : Signature where
  Op := ReceiveCall
  Result := ReceiveCall.Result

abbrev ReceiveProgram (α : Type) : Type := Program ReceiveSignature Thrown α

/-- Await a call of the use case. -/
def awaitReceive (call : ReceiveCall) : ReceiveProgram call.Result :=
  Program.perform (S := ReceiveSignature) call

namespace ReceiveTaskResultUseCase

variable (library : ReceiveLibrary)

/-- `PrismaTaskResultRepository.findById`. -/
def findById (id : String) : ReceiveProgram (Option RestoredTaskResult) := do
  let record ← awaitReceive (.findUnique id)
  match record with
  | some record => do
      let entity ← Program.ofResult (restoreTaskResult library.numberText record)
      return some entity
  | none => return none

/-- The columns of a task result. -/
def columnsOf (taskResult : RestoredTaskResult) (updatedAt : Int) (deletedAt : Option Int)
    : TaskResultRecord where
  id := taskResult.id
  emailId := .string taskResult.emailId.value
  agentId := .string taskResult.agentId.value
  agentVersion := taskResult.agentVersion
  confidenceScore := taskResult.confidenceScore.value
  resultPayload := taskResult.resultPayload
  createdAt := taskResult.createdAt
  updatedAt := updatedAt
  deletedAt := deletedAt
  idNonempty := taskResult.idNonempty

/-- `isDeleted() ? new Date() : null`. -/
def dateIfDeleted (taskResult : RestoredTaskResult) : ReceiveProgram (Option Int) :=
  if taskResult.deletedAt.isSome then do
    let now ← awaitReceive .now
    return some now
  else
    return none

/-- `PrismaTaskResultRepository.save`. -/
def save (taskResult : RestoredTaskResult) : ReceiveProgram RestoredTaskResult := do
  let updatedAt ← awaitReceive .now
  let deletedAt ← dateIfDeleted taskResult
  let createUpdatedAt ← awaitReceive .now
  let createDeletedAt ← dateIfDeleted taskResult
  let record ←
    awaitReceive
      (.upsert {
        create := columnsOf taskResult createUpdatedAt createDeletedAt
        updatedAt
        deletedAt
      })
  Program.ofResult (restoreTaskResult library.numberText record)

/-- The entities of the rows of destinations. -/
def destinationsOf (records : List DestinationRow) : Except Thrown (List RegisteredDestination) :=
  records.mapM (PrismaDestinationRepository.toDomain library.numberText)

/-- `PrismaDestinationRepository.findAllActive`. -/
def findAllActive : ReceiveProgram (List RegisteredDestination) := do
  let records ← awaitReceive .findMany
  Program.ofResult (destinationsOf library records)

/-- `payload[key] || fallback`. -/
def memberOr (payload : List (String × Json)) (key : String) (fallback : Json) : Json :=
  ((payload.lookup key).filter Json.truthy).getD fallback

/-- The score of a payload, which is one where it names none. -/
def confidenceScoreOf (payload : List (String × Json)) : Except Thrown Number :=
  match (coalesceJson (payload.lookup "confidenceScore")).or
      (coalesceJson (payload.lookup "confidence_score")) with
  | some value => library.toNumber value
  | none => .ok 1

/-- Create new task result mapping props from payload. -/
def paramsOf (dto : ReceiveTaskResultDTO) (confidenceScore : Number) (createdAt updatedAt : Int)
    : TaskResultRecord where
  id := dto.taskId
  emailId :=
    memberOr dto.payload "emailId"
      (memberOr dto.payload "email_id" (.string "unknown@example.com"))
  agentId :=
    memberOr dto.payload "agentId" (memberOr dto.payload "agent_id" (.string "unknown-agent"))
  agentVersion :=
    memberOr dto.payload "agentVersion" (memberOr dto.payload "agent_version" (.string "1.0.0"))
  confidenceScore := confidenceScore
  resultPayload :=
    memberOr dto.payload "resultPayload"
      (memberOr dto.payload "result_payload" (.object dto.payload))
  createdAt := createdAt
  updatedAt := updatedAt
  deletedAt := none
  idNonempty := dto.taskIdNonempty

/-- What a destination is matched with: the members of the payload come last. -/
def matchCriteria (taskResult : RestoredTaskResult) : List (String × Json) :=
  library.spread taskResult.resultPayload
  ++ [
    ("agentId", .string taskResult.agentId.value),
    ("emailId", .string taskResult.emailId.value),
    ("confidenceScore", .number taskResult.confidenceScore.value)
  ]

/-- A job for a destination that matches. -/
def enqueueFor (savedResult : RestoredTaskResult) (destination : RegisteredDestination)
    : ReceiveProgram Unit :=
  if destination.matches (matchCriteria library savedResult) then
    awaitReceive (.add (BullMQService.enqueueDelivery savedResult.id destination.id))
  else
    return ()

def execute (dto : ReceiveTaskResultDTO) : ReceiveProgram RestoredTaskResult := do
  let existing ← findById library dto.taskId
  match existing with
  | some existing => return existing
  | none => do
      let confidenceScore ← Program.ofResult (confidenceScoreOf library dto.payload)
      let createdAt ← awaitReceive .now
      let updatedAt ← awaitReceive .now
      let taskResult ←
        Program.ofResult
          (restoreTaskResult library.numberText (paramsOf dto confidenceScore createdAt updatedAt))
      let savedResult ← save library taskResult
      let activeDestinations ← findAllActive library
      Program.forEach (enqueueFor library savedResult) activeDestinations
      return savedResult

end ReceiveTaskResultUseCase

-----------------------------------------------------------------------------------------
-- The table, the queue and what has happened to them
-----------------------------------------------------------------------------------------

/-- The rows by their identifiers, and the jobs of the queue in the order they were added. -/
structure ReceivingTables where
  results : String → Option TaskResultRecord
  jobs : List DeliveryJob

/-- `where: { enabled: true, deletedAt: null }`. -/
def activeRows (destinations : List DestinationRow) : List DestinationRow :=
  destinations.filter (fun row => row.enabled && row.deletedAt.isNone)

/-- What a call does, and what it is answered. Other parties change the table of destinations. -/
def ReceiveCall.answer (destinations : List DestinationRow) (now : Int) (tables : ReceivingTables)
    : (op : ReceiveCall) → op.Result × ReceivingTables
  | .now => (now, tables)
  | .findUnique id => (tables.results id, tables)
  | .upsert data =>
      let record := data.record (tables.results data.create.id)
      (record, {
        tables with
        results := Function.update tables.results data.create.id (some record)
      })
  | .findMany => (activeRows destinations, tables)
  | .add job => ((), { tables with jobs := tables.jobs ++ [job] })

/-- A query that has been carried out. -/
inductive ReceiveEvent where
  | looked (taskId : String) (found : Option TaskResultRecord)
  | saved (record : TaskResultRecord)
  | listed (records : List DestinationRow)
  | added (job : DeliveryJob)

/-- What a call has done with what it was answered. -/
def ReceiveCall.events : (op : ReceiveCall) → op.Result → List ReceiveEvent
  | .now, _ => []
  | .findUnique id, found => [.looked id found]
  | .upsert _, record => [.saved record]
  | .findMany, records => [.listed records]
  | .add job, _ => [.added job]

/-- What the runtime answers itself. -/
def ReceiveCall.isLocal : ReceiveCall → Bool
  | .now => true
  | _ => false

/-- The tables with what each caller has done to them, newest first. -/
structure ReceivingWorld (ι : Type) where
  tables : ReceivingTables
  now : Int
  step : Nat
  events : List (ι × ReceiveEvent)

/-- A call may fail, before or after it has been carried out. -/
def receivingServer {ι : Type} (elapsed : Nat → Nat) (faults : Nat → Option (Bool × Thrown))
    (destinations : Nat → List DestinationRow) (caller : ι)
    : Handler ReceiveSignature Thrown (ReceivingWorld ι) :=
  fun op world =>
    let answered := op.answer (destinations world.step) world.now world.tables
    let events := (op.events answered.1).map (fun event => (caller, event)) ++ world.events
    let now := world.now + elapsed world.step
    let step := world.step + 1
    match (faults world.step).filter (fun _ => !op.isLocal) with
    | none => (.ok answered.1, { tables := answered.2, now, step, events })
    | some (true, err) => (.error err, { tables := answered.2, now, step, events })
    | some (false, err) => (.error err, { world with now, step })

/-- What a caller has done, newest first. -/
def shareOf {ι : Type} [DecidableEq ι] (caller : ι) (events : List (ι × ReceiveEvent))
    : List ReceiveEvent :=
  (events.filter (fun entry => entry.1 = caller)).map Prod.snd

/-- The row of a task result after some events: as it was saved last, or as it was at first. -/
def storedAfter {ι : Type} (first : String → Option TaskResultRecord) (taskId : String)
    : List (ι × ReceiveEvent) → Option TaskResultRecord
  | [] => first taskId
  | (_, .saved record) :: earlier =>
      if record.id = taskId then some record else storedAfter first taskId earlier
  | _ :: earlier => storedAfter first taskId earlier

/-- The jobs that have been added, newest first. -/
def jobsOf {ι : Type} (events : List (ι × ReceiveEvent)) : List DeliveryJob :=
  events.filterMap
    (fun entry =>
      match entry.2 with
      | .added job => some job
      | _ => none)

-----------------------------------------------------------------------------------------
-- What a call does, step by step
-----------------------------------------------------------------------------------------

open ReceiveTaskResultUseCase

/-- The task results that can be made of a request. -/
def Receives (library : ReceiveLibrary) (dto : ReceiveTaskResultDTO) (result : RestoredTaskResult)
    : Prop :=
  ∃ confidenceScore createdAt updatedAt,
    confidenceScoreOf library dto.payload = .ok confidenceScore
    ∧ restoreTaskResult library.numberText (paramsOf dto confidenceScore createdAt updatedAt)
      = .ok result

/-- A row has the values of a task result, apart from the dates. -/
structure TaskResultRecord.Carries (record : TaskResultRecord) (result : RestoredTaskResult) : Prop
    where
  id : record.id = result.id
  emailId : record.emailId = .string result.emailId.value
  agentId : record.agentId = .string result.agentId.value
  agentVersion : record.agentVersion = result.agentVersion
  confidenceScore : record.confidenceScore = result.confidenceScore.value
  resultPayload : record.resultPayload = result.resultPayload

/-- Two task results are the same apart from the dates. -/
structure RestoredTaskResult.SameResult (result other : RestoredTaskResult) : Prop where
  id : result.id = other.id
  emailId : result.emailId = other.emailId
  agentId : result.agentId = other.agentId
  agentVersion : result.agentVersion = other.agentVersion
  confidenceScore : result.confidenceScore = other.confidenceScore
  resultPayload : result.resultPayload = other.resultPayload

/-- A job for each destination that matches a task result, in their order. -/
def jobsFor (library : ReceiveLibrary) (result : RestoredTaskResult)
    (destinations : List RegisteredDestination)
    : List DeliveryJob :=
  (destinations.filter (fun destination => destination.matches (matchCriteria library result))).map
    (fun destination => BullMQService.enqueueDelivery result.id destination.id)

/-- The jobs of a task result, if the rows of the destinations make destinations. -/
def routes (library : ReceiveLibrary) (result : RestoredTaskResult) (records : List DestinationRow)
    : List DeliveryJob :=
  match destinationsOf library records with
  | .ok destinations => jobsFor library result destinations
  | .error _ => []

/-- What a call may have done so far, newest first: it looks the task result up and, if there is
none, saves it, lists the destinations and adds the jobs in their order.
-/
inductive Share (library : ReceiveLibrary) (dto : ReceiveTaskResultDTO) : List ReceiveEvent → Prop
    where
  | nothing : Share library dto []
  | looked (found : Option TaskResultRecord) : Share library dto [.looked dto.taskId found]
  | saved {result : RestoredTaskResult} {record : TaskResultRecord}
    (received : Receives library dto result) (carries : record.Carries result)
    : Share library dto [.saved record, .looked dto.taskId none]
  | routed {result : RestoredTaskResult} {record : TaskResultRecord}
    {records : List DestinationRow} {jobs : List DeliveryJob}
    (received : Receives library dto result) (carries : record.Carries result)
    (part : jobs <+: routes library result records)
    : Share library dto
        ((jobs.map ReceiveEvent.added).reverse
          ++ [.listed records, .saved record, .looked dto.taskId none])

/-- What a call that has resolved has done: it has found what it resolves with, or it has added all
jobs of what it was given.
-/
inductive Answered (library : ReceiveLibrary) (dto : ReceiveTaskResultDTO)
    : List ReceiveEvent → RestoredTaskResult → Prop where
  | found {record : TaskResultRecord} {result : RestoredTaskResult}
    (restored : restoreTaskResult library.numberText record = .ok result)
    : Answered library dto [.looked dto.taskId (some record)] result
  | routed {received result : RestoredTaskResult} {record : TaskResultRecord}
    {records : List DestinationRow} {destinations : List RegisteredDestination}
    (made : Receives library dto received) (carries : record.Carries received)
    (same : result.SameResult received)
    (restored : destinationsOf library records = .ok destinations)
    : Answered library dto
        (((routes library received records).map ReceiveEvent.added).reverse
          ++ [.listed records, .saved record, .looked dto.taskId none])
        result

/-- What is written of a task result is restored as it was, apart from the dates. -/
theorem restore_of_carries (numberText : Number → String) {record : TaskResultRecord}
    {result : RestoredTaskResult} (carries : record.Carries result)
    : ∃ restored,
        restoreTaskResult numberText record = .ok restored ∧ restored.SameResult result := by
  unfold restoreTaskResult
  rw [carries.emailId, carries.agentId, carries.confidenceScore, textOf, textOf,
    EmailId.create_value, AgentId.create_value, ConfidenceScore.create_value]
  refine ⟨_, rfl, carries.id, rfl, rfl, ?_, rfl, ?_⟩
  · dsimp only
    rw [carries.agentVersion, orJson_of_truthy _ result.versioned]
  · dsimp only
    rw [carries.resultPayload, orJson_of_truthy _ result.filled]

/-- Task results that are the same have the same jobs. -/
theorem routes_of_same (library : ReceiveLibrary) {result other : RestoredTaskResult}
    (same : result.SameResult other) (records : List DestinationRow)
    : routes library result records = routes library other records := by
  unfold routes jobsFor matchCriteria
  rw [same.id, same.emailId, same.agentId, same.confidenceScore, same.resultPayload]

theorem TaskResultUpsert.record_id (data : TaskResultUpsert) (row : Option TaskResultRecord)
    : (data.record row).id = data.create.id := by
  cases row <;> rfl

/-- The row that an upsert leaves carries what it writes. -/
theorem carries_record {result : RestoredTaskResult} (updatedAt otherUpdatedAt : Int)
    (deletedAt otherDeletedAt : Option Int) (row : Option TaskResultRecord)
    : (TaskResultUpsert.record
        ⟨columnsOf result updatedAt deletedAt, otherUpdatedAt, otherDeletedAt⟩ row).Carries
        result := by
  cases row <;> exact ⟨rfl, rfl, rfl, rfl, rfl, rfl⟩

/-- What a call is answered truthfully with: an upsert gives the row it leaves. -/
def ReceiveCall.Gives : (op : ReceiveCall) → op.Result → Prop
  | .upsert data, record => ∃ row, record = data.record row
  | _, _ => True

/-- A caller awaits what it may do, whatever it is answered, and knows what it has done. -/
def owes (library : ReceiveLibrary) (dto : ReceiveTaskResultDTO)
    : Contract ReceiveSignature Thrown (List ReceiveEvent) where
  allows share op := ∀ value, op.Gives value → Share library dto (op.events value ++ share)
  answers share op result after :=
    match result with
    | .ok value => op.Gives value ∧ after = op.events value ++ share
    | .error _ => after = share ∨ ∃ value, op.Gives value ∧ after = op.events value ++ share

section
variable {library : ReceiveLibrary} {dto : ReceiveTaskResultDTO} {share : List ReceiveEvent}

/-- A call that is awaited: what fails is thrown on. -/
theorem meets_awaitReceive {call : ReceiveCall}
    {post : Settled Thrown call.Result → List ReceiveEvent → Prop}
    (allowed : ∀ value, call.Gives value → Share library dto (call.events value ++ share))
    (resolved : ∀ value, call.Gives value → post (.ok value) (call.events value ++ share))
    (rejected : ∀ error after, post (.error error) after)
    : Program.Meets (α := no_index call.Result) (owes library dto) (awaitReceive call) share
        post := by
  unfold awaitReceive
  rw [Program.meets_perform]
  refine ⟨allowed, fun result after answered => ?_⟩
  cases result with
  | error error => exact rejected error after
  | ok value =>
      obtain ⟨gives, rfl⟩ := answered
      exact resolved value gives

theorem meets_resolved {α : Type} {result : Settled Thrown α}
    {post : α → List ReceiveEvent → Prop}
    (resolved : ∀ value, result = .ok value → post value share)
    : (Program.ofResult result : ReceiveProgram α).Meets (owes library dto) share
        (Program.resolving post) :=
  Program.meets_ofResult.mpr resolved

/-- The clock may be read at any time. -/
theorem meets_now (known : Share library dto share)
    : (awaitReceive .now).Meets (owes library dto) share
        (Program.resolving (fun _ after => after = share)) := by
  refine meets_awaitReceive (fun _ _ => known) (fun value _ other _ => rfl) ?_
  exact Program.resolving_error

theorem meets_dateIfDeleted (known : Share library dto share) (taskResult : RestoredTaskResult)
    : (dateIfDeleted taskResult).Meets (owes library dto) share
        (Program.resolving (fun _ after => after = share)) := by
  unfold dateIfDeleted
  split
  · exact (meets_now known).followed (fun now after same other resolved => same)
  · exact fun other resolved => rfl

/-- What is found is answered, and otherwise none is stored. -/
theorem meets_findById
    : (findById library dto.taskId).Meets (owes library dto) []
        (Program.resolving
          (fun existing after =>
            (∀ result, existing = some result → Answered library dto after result)
            ∧ (existing = none → after = [.looked dto.taskId none]))) := by
  refine Program.meets_bind.mpr (meets_awaitReceive ?_ ?_ ?_)
  · exact fun found _ => .looked found
  · intro found _
    cases found with
    | none =>
        intro existing same
        obtain rfl := Except.ok.inj same
        refine ⟨fun result same => ?_, fun _ => rfl⟩
        cases same
    | some record =>
        refine @Program.Meets.followed _ _ _ _ _ _ _ _ _
          (fun entity after =>
            restoreTaskResult library.numberText record = .ok entity
            ∧ after = [.looked dto.taskId (some record)]) _
          (meets_resolved (fun entity restored => ⟨restored, rfl⟩)) ?_
        rintro entity after ⟨restored, rfl⟩ existing same
        obtain rfl := Except.ok.inj same
        constructor
        · intro result same
          obtain rfl := Option.some.inj same
          exact .found restored
        · intro same
          cases same
  · exact Program.resolving_error

/-- What is saved is a task result with the same values, which is what is resolved with. -/
theorem meets_save {result : RestoredTaskResult} (received : Receives library dto result)
    : (save library result).Meets (owes library dto) [.looked dto.taskId none]
        (Program.resolving
          (fun saved after =>
            saved.SameResult result
            ∧ ∃ record,
                record.Carries result ∧ after = [.saved record, .looked dto.taskId none])) := by
  have known : Share library dto [.looked dto.taskId none] := .looked none
  refine (meets_now known).followed (fun updatedAt after same => ?_)
  subst same
  refine (meets_dateIfDeleted known result).followed (fun deletedAt after same => ?_)
  subst same
  refine (meets_now known).followed (fun createUpdatedAt after same => ?_)
  subst same
  refine (meets_dateIfDeleted known result).followed (fun createDeletedAt after same => ?_)
  subst same
  refine Program.meets_bind.mpr (meets_awaitReceive ?_ ?_ ?_)
  · rintro record ⟨row, rfl⟩
    exact .saved received (carries_record _ _ _ _ row)
  · rintro record ⟨row, rfl⟩
    refine meets_resolved (fun saved restored => ?_)
    have carries := @carries_record result createUpdatedAt updatedAt createDeletedAt deletedAt row
    obtain ⟨other, same, alike⟩ := restore_of_carries library.numberText carries
    obtain rfl := Except.ok.inj (restored.symm.trans same)
    exact ⟨alike, _, carries, rfl⟩
  · exact Program.resolving_error

section
variable {result saved : RestoredTaskResult} {record : TaskResultRecord}
  (received : Receives library dto result) (carries : record.Carries result)

include received carries

/-- The destinations are those of the rows that are listed. -/
theorem meets_findAllActive
    : (findAllActive library).Meets (owes library dto) [.saved record, .looked dto.taskId none]
        (Program.resolving
          (fun destinations after =>
            ∃ records,
              destinationsOf library records = .ok destinations
              ∧ after = [.listed records, .saved record, .looked dto.taskId none])) := by
  refine Program.meets_bind.mpr (meets_awaitReceive ?_ ?_ ?_)
  · exact fun records _ =>
      @Share.routed library dto result record records [] received carries List.nil_prefix
  · intro records _
    exact meets_resolved (fun destinations restored => ⟨records, restored, rfl⟩)
  · exact Program.resolving_error

/-- The jobs are added in their order, by induction on the destinations that are left. -/
theorem meets_enqueue {records : List DestinationRow}
    {destinations : List RegisteredDestination} {jobs : List DeliveryJob}
    (left : jobs ++ jobsFor library saved destinations = routes library result records)
    : (Program.forEach (enqueueFor library saved) destinations).Meets (owes library dto)
        ((jobs.map ReceiveEvent.added).reverse
          ++ [.listed records, .saved record, .looked dto.taskId none])
        (Program.resolving
          (fun _ after =>
            after
            = ((routes library result records).map ReceiveEvent.added).reverse
              ++ [.listed records, .saved record, .looked dto.taskId none])) := by
  induction destinations generalizing jobs with
  | nil =>
      intro value resolved
      rw [← left, jobsFor, List.filter_nil, List.map_nil, List.append_nil]
  | cons destination rest ih =>
      rw [Program.forEach]
      unfold enqueueFor
      by_cases goes : destination.matches (matchCriteria library saved) = true
      · have split
            : (jobs ++ [BullMQService.enqueueDelivery saved.id destination.id])
                ++ jobsFor library saved rest
              = routes library result records := by
          rw [← left, List.append_assoc, jobsFor, jobsFor, List.filter_cons,
            if_pos goes, List.map_cons, List.singleton_append]
        have later := ih split
        rw [List.map_append, List.reverse_append] at later
        rw [if_pos goes]
        refine Program.meets_bind.mpr (meets_awaitReceive ?_ ?_ ?_)
        · intro _ _
          have part := @Share.routed library dto result record records _ received carries
            ⟨_, split⟩
          rw [List.map_append, List.reverse_append] at part
          exact part
        · exact fun _ _ => later
        · exact Program.resolving_error
      · rw [if_neg goes]
        refine ih ?_
        rw [← left, jobsFor, jobsFor, List.filter_cons, if_neg goes]

end

/-- The use case, from its beginning. -/
theorem execute_meets (library : ReceiveLibrary) (dto : ReceiveTaskResultDTO)
    : (execute library dto).Meets (owes library dto) []
        (Program.resolving (fun result after => Answered library dto after result)) := by
  refine meets_findById.followed ?_
  rintro existing after ⟨found, missing⟩
  cases existing with
  | some existing =>
      intro result same
      obtain rfl := Except.ok.inj same
      exact found existing rfl
  | none =>
      obtain rfl := missing rfl
      have known : Share library dto [.looked dto.taskId none] := .looked none
      refine @Program.Meets.followed _ _ _ _ _ _ _ _ _
        (fun confidenceScore after =>
          confidenceScoreOf library dto.payload = .ok confidenceScore
          ∧ after = [.looked dto.taskId none]) _
        (meets_resolved (fun confidenceScore scored => ⟨scored, rfl⟩)) ?_
      rintro confidenceScore after ⟨scored, rfl⟩
      refine (meets_now known).followed (fun createdAt after same => ?_)
      subst same
      refine (meets_now known).followed (fun updatedAt after same => ?_)
      subst same
      refine @Program.Meets.followed _ _ _ _ _ _ _ _ _
        (fun taskResult after =>
          Receives library dto taskResult ∧ after = [.looked dto.taskId none]) _
        (meets_resolved
          (fun taskResult made => ⟨⟨confidenceScore, createdAt, updatedAt, scored, made⟩, rfl⟩)) ?_
      rintro taskResult after ⟨received, rfl⟩
      refine (meets_save received).followed ?_
      rintro saved after ⟨same, record, carries, rfl⟩
      refine (meets_findAllActive received carries).followed ?_
      rintro destinations after ⟨records, restored, rfl⟩
      have all : [] ++ jobsFor library saved destinations = routes library taskResult records := by
        rw [← routes_of_same library same, routes, restored, List.nil_append]
      refine (meets_enqueue received carries all).followed ?_
      rintro _ after rfl result resolved
      obtain rfl := Except.ok.inj resolved
      exact .routed received carries same restored

end

-----------------------------------------------------------------------------------------
-- Calls that interleave
-----------------------------------------------------------------------------------------

section
variable {ι : Type} [DecidableEq ι] {library : ReceiveLibrary} {requests : ι → ReceiveTaskResultDTO}
  {first tables after : ReceivingTables} {shares : ι → List ReceiveEvent}
  {events : List (ι × ReceiveEvent)} {caller : ι} {world : ReceivingWorld ι}
  {destinations : Nat → List DestinationRow}

/-- What ties the callers to the tables: each caller has done its share, the lookups have been told
what was stored, active destinations have been listed, and the queue holds what has been added.
-/
structure Routing (library : ReceiveLibrary) (requests : ι → ReceiveTaskResultDTO)
    (destinations : Nat → List DestinationRow) (first : ReceivingTables)
    (shares : ι → List ReceiveEvent) (tables : ReceivingTables) (events : List (ι × ReceiveEvent))
    : Prop where
  told : ∀ caller, shares caller = shareOf caller events
  share : ∀ caller, Share library (requests caller) (shares caller)
  truthful
    : ∀ caller taskId found earlier,
        (caller, .looked taskId found) :: earlier <:+ events
        → found = storedAfter first.results taskId earlier
  listed
    : ∀ caller records,
        (caller, .listed records) ∈ events → ∃ step, records = activeRows (destinations step)
  stored : ∀ taskId, tables.results taskId = storedAfter first.results taskId events
  jobs : tables.jobs = first.jobs ++ (jobsOf events).reverse

/-- An event goes to the share of its caller. -/
theorem update_shareOf (told : ∀ caller, shares caller = shareOf caller events)
    (event : ReceiveEvent) (other : ι)
    : Function.update shares caller (event :: shares caller) other
      = shareOf other ((caller, event) :: events) := by
  unfold shareOf
  by_cases same : caller = other
  · subst same
    rw [Function.update_self, List.filter_cons, if_pos (decide_eq_true rfl), List.map_cons,
      told caller, shareOf]
  · rw [Function.update_of_ne (Ne.symm same), List.filter_cons, if_neg (by simpa using same),
      told other, shareOf]

/-- A query that is carried out keeps the ties. -/
theorem Routing.enter (kept : Routing library requests destinations first shares tables events)
    {event : ReceiveEvent} (allowed : Share library (requests caller) (event :: shares caller))
    (truthful : ∀ taskId found, event = .looked taskId found → found = tables.results taskId)
    (listed : ∀ records, event = .listed records → ∃ step, records = activeRows (destinations step))
    (stored
      : ∀ taskId,
          after.results taskId = storedAfter first.results taskId ((caller, event) :: events))
    (jobs : after.jobs = first.jobs ++ (jobsOf ((caller, event) :: events)).reverse)
    : Routing library requests destinations first
        (Function.update shares caller (event :: shares caller)) after
        ((caller, event) :: events) := by
  refine ⟨update_shareOf kept.told event, fun other => ?_, ?_, ?_, stored, jobs⟩
  · by_cases same : other = caller
    · subst same
      rw [Function.update_self]
      exact allowed
    · rw [Function.update_of_ne same]
      exact kept.share other
  · intro other taskId found earlier suffix
    rcases List.suffix_cons_iff.mp suffix with now | before
    · obtain ⟨entered, rfl⟩ := List.cons.inj now
      rw [truthful taskId found (Prod.mk.inj entered).2.symm, kept.stored taskId]
    · exact kept.truthful other taskId found earlier before
  · intro other records mem
    rcases List.mem_cons.mp mem with now | before
    · exact listed records (Prod.mk.inj now).2.symm
    · exact kept.listed other records before

/-- A call is given what the tables hold, and keeps the ties when it is carried out. -/
theorem Routing.carriedOut (kept : Routing library requests destinations first shares tables events)
    (step : Nat) (now : Int) (op : ReceiveCall)
    (allowed : (owes library (requests caller)).allows (shares caller) op)
    : op.Gives (op.answer (destinations step) now tables).1
      ∧ Routing library requests destinations first
          (Function.update shares caller
            (op.events (op.answer (destinations step) now tables).1 ++ shares caller))
          (op.answer (destinations step) now tables).2
          ((op.events (op.answer (destinations step) now tables).1).map
              (fun event => (caller, event))
            ++ events) := by
  cases op with
  | now =>
      refine ⟨trivial, ?_⟩
      have same : Function.update shares caller (shares caller) = shares :=
        Function.update_eq_self caller shares
      simpa only [ReceiveCall.events, ReceiveCall.answer, List.nil_append, List.map_nil, same]
        using kept
  | findUnique id =>
      refine ⟨trivial, kept.enter (allowed _ trivial) ?_ ?_ kept.stored kept.jobs⟩
      · intro taskId found looked
        obtain ⟨rfl, rfl⟩ := ReceiveEvent.looked.inj looked
        rfl
      · intro records listed
        cases listed
  | upsert data =>
      refine ⟨⟨_, rfl⟩, kept.enter (allowed _ ⟨_, rfl⟩) ?_ ?_ ?_ kept.jobs⟩
      · intro taskId found looked
        cases looked
      · intro records listed
        cases listed
      · intro taskId
        have named
            : (ReceiveCall.answer (destinations step) now tables (.upsert data)).1.id
              = data.create.id :=
          data.record_id _
        rw [storedAfter, named]
        by_cases same : data.create.id = taskId
        · subst same
          rw [if_pos rfl]
          exact Function.update_self _ _ _
        · rw [if_neg same, ← kept.stored taskId]
          exact Function.update_of_ne (Ne.symm same) _ _
  | findMany =>
      refine ⟨trivial, kept.enter (allowed _ trivial) ?_ ?_ kept.stored kept.jobs⟩
      · intro taskId found looked
        cases looked
      · intro records listed
        obtain rfl := ReceiveEvent.listed.inj listed
        exact ⟨step, rfl⟩
  | add job =>
      refine ⟨trivial, kept.enter (allowed () trivial) ?_ ?_ kept.stored ?_⟩
      · intro taskId found looked
        cases looked
      · intro records listed
        cases listed
      · have added : jobsOf ((caller, .added job) :: events) = job :: jobsOf events := rfl
        rw [added, List.reverse_cons, ← List.append_assoc, ← kept.jobs]
        rfl

/-- A call that fails has been carried out, or it has not. -/
theorem Routing.step
    (kept : Routing library requests destinations first shares world.tables world.events)
    (elapsed : Nat → Nat) (faults : Nat → Option (Bool × Thrown)) (op : ReceiveCall)
    (allowed : (owes library (requests caller)).allows (shares caller) op)
    : ∃ after,
        (owes library (requests caller)).answers (shares caller) op
          (receivingServer elapsed faults destinations caller op world).1 after
        ∧ Routing library requests destinations first (Function.update shares caller after)
            (receivingServer elapsed faults destinations caller op world).2.tables
            (receivingServer elapsed faults destinations caller op world).2.events := by
  obtain ⟨gives, entered⟩ := kept.carriedOut world.step world.now op allowed
  unfold receivingServer
  dsimp only
  cases (faults world.step).filter (fun _ => !op.isLocal) with
  | none => exact ⟨_, ⟨gives, rfl⟩, entered⟩
  | some fault =>
      obtain ⟨carriedOut, err⟩ := fault
      cases carriedOut with
      | true => exact ⟨_, .inr ⟨_, gives, rfl⟩, entered⟩
      | false =>
          have same : Function.update shares caller (shares caller) = shares :=
            Function.update_eq_self caller shares
          refine ⟨shares caller, .inl rfl, ?_⟩
          rw [same]
          exact kept

omit [DecidableEq ι] in
/-- No row is stored where there was none at first and none has been saved, by induction on the
events.
-/
theorem storedAfter_eq_none {results : String → Option TaskResultRecord} {taskId : String}
    (none_ : storedAfter results taskId events = none)
    : results taskId = none
      ∧ ∀ saver record, (saver, .saved record) ∈ events → record.id ≠ taskId := by
  induction events with
  | nil => exact ⟨none_, fun _ _ mem => absurd mem List.not_mem_nil⟩
  | cons entry earlier ih =>
      obtain ⟨other, event⟩ := entry
      cases event with
      | saved written =>
          rw [storedAfter] at none_
          split at none_
          · cases none_
          · next others =>
            refine ⟨(ih none_).1, fun saver record mem => ?_⟩
            rcases List.mem_cons.mp mem with now | before
            · obtain ⟨_, same⟩ := Prod.mk.inj now
              obtain rfl := ReceiveEvent.saved.inj same
              exact others
            · exact (ih none_).2 saver record before
      | _ =>
          refine ⟨(ih none_).1, fun saver record mem => ?_⟩
          rcases List.mem_cons.mp mem with now | before
          · cases now
          · exact (ih none_).2 saver record before

theorem mem_shareOf {event : ReceiveEvent}
    : event ∈ shareOf caller events ↔ (caller, event) ∈ events := by
  unfold shareOf
  constructor
  · intro mem
    obtain ⟨entry, listed, rfl⟩ := List.mem_map.mp mem
    obtain ⟨before, same⟩ := List.mem_filter.mp listed
    rw [← of_decide_eq_true same]
    exact before
  · intro mem
    exact List.mem_map.mpr ⟨(caller, event), List.mem_filter.mpr ⟨mem, decide_eq_true rfl⟩, rfl⟩

/-- Who adds a job has looked the task result up and found none. -/
theorem Share.looked_of_added {dto : ReceiveTaskResultDTO} {share : List ReceiveEvent}
    {job : DeliveryJob} (done : Share library dto share) (added : .added job ∈ share)
    : .looked dto.taskId none ∈ share := by
  cases done with
  | nothing => cases added
  | looked found =>
      cases List.mem_singleton.mp added
  | saved received carries =>
      exact List.mem_cons_of_mem _ List.mem_cons_self
  | routed received carries part =>
      exact List.mem_append_right _
        (List.mem_cons_of_mem _ (List.mem_cons_of_mem _ List.mem_cons_self))

end

/-- Calls of the use case over one database and one queue. -/
def receiving {ι : Type} (library : ReceiveLibrary) (requests : ι → ReceiveTaskResultDTO)
    (first : ReceivingTables) (now : Int)
    : Configuration ReceiveSignature Thrown ι RestoredTaskResult (ReceivingWorld ι) where
  process caller := execute library (requests caller)
  world := { tables := first, now := now, step := 0, events := [] }

section
variable {ι : Type} [DecidableEq ι] {library : ReceiveLibrary} {requests : ι → ReceiveTaskResultDTO}
  {first : ReceivingTables} {now : Int} {elapsed : Nat → Nat}
  {faults : Nat → Option (Bool × Thrown)} {destinations : Nat → List DestinationRow}
  {config : Configuration ReceiveSignature Thrown ι RestoredTaskResult (ReceivingWorld ι)}
  (reached
    : Configuration.Reachable (receivingServer elapsed faults destinations) (fun _ _ _ => True)
        (receiving library requests first now) config)
include reached

/-- The ties hold at every point of every schedule. -/
theorem routing_reachable
    : ∃ shares,
        (∀ caller,
          (config.process caller).Meets (owes library (requests caller)) (shares caller)
            (Program.resolving
              (fun result after => Answered library (requests caller) after result)))
        ∧ Routing library requests destinations first shares config.world.tables
            config.world.events := by
  refine @Configuration.Reachable.invariant _ _ _ _ _ _ (fun _ => List ReceiveEvent) _ _
    (fun caller => owes library (requests caller)) _
    (fun shares world =>
      Routing library requests destinations first shares world.tables world.events) ?_
    (receiving library requests first now) config (fun _ => [])
    (fun caller => execute_meets library (requests caller)) ?_ reached
  · intro shares world caller op kept allowed _
    exact kept.step elapsed faults op allowed
  · refine ⟨fun _ => rfl, fun _ => .nothing, ?_, ?_, fun _ => rfl, (List.append_nil _).symm⟩
    · intro caller taskId found earlier suffix
      cases List.suffix_nil.mp suffix
    · intro caller records mem
      cases mem

/-- However calls interleave and whichever of their queries fail: each call looks its task result
up, and if there is none it saves what the request makes, lists the active destinations and adds the
jobs of those that match, in their order. A call that resolves has found the row it resolves with,
or has added all of its jobs. What a lookup finds is the row as it was saved last.
-/
theorem received_routed
    : (∀ caller, Share library (requests caller) (shareOf caller config.world.events))
      ∧ (∀ caller result,
          config.process caller = .done result
          → Answered library (requests caller) (shareOf caller config.world.events) result)
      ∧ (∀ caller taskId found earlier,
          (caller, .looked taskId found) :: earlier <:+ config.world.events
          → found = storedAfter first.results taskId earlier)
      ∧ (∀ caller records,
          (caller, .listed records) ∈ config.world.events
          → ∃ step, records = activeRows (destinations step))
      ∧ config.world.tables.jobs = first.jobs ++ (jobsOf config.world.events).reverse := by
  obtain ⟨shares, met, kept⟩ := routing_reachable reached
  refine ⟨fun caller => ?_, fun caller result settled => ?_, kept.truthful, kept.listed,
    kept.jobs⟩
  · rw [← kept.told caller]
    exact kept.share caller
  · have resolved := met caller
    rw [settled] at resolved
    rw [← kept.told caller]
    exact resolved result rfl

/-- Only a call that looks its task result up before it is saved for the first time adds jobs: what
such calls fail to add, no later call adds.
-/
theorem added_before_saved {caller : ι} {job : DeliveryJob}
    (added : (caller, .added job) ∈ config.world.events)
    : first.results (requests caller).taskId = none
      ∧ ∃ earlier,
          (caller, .looked (requests caller).taskId none) :: earlier <:+ config.world.events
          ∧ ∀ saver record,
              (saver, .saved record) ∈ earlier → record.id ≠ (requests caller).taskId := by
  obtain ⟨shares, _, kept⟩ := routing_reachable reached
  have share := kept.share caller
  rw [kept.told caller] at share
  have looked := mem_shareOf.mp (share.looked_of_added (mem_shareOf.mpr added))
  obtain ⟨later, earlier, split⟩ := List.append_of_mem looked
  have suffix
      : (caller, .looked (requests caller).taskId none) :: earlier <:+ config.world.events :=
    ⟨later, split.symm⟩
  have unknown := (kept.truthful caller _ none earlier suffix).symm
  obtain ⟨initially, unsaved⟩ := storedAfter_eq_none unknown
  exact ⟨initially, earlier, suffix, unsaved⟩

end

theorem firstTask_named : "task-1" ≠ "" := by decide

/-- Two requests with the same task result. -/
def sameTask (_ : Bool) : ReceiveTaskResultDTO where
  taskId := "task-1"
  payload := []
  taskIdNonempty := firstTask_named

/-- An active webhook without filters. -/
def openWebhook : DestinationRow where
  id := "destination-1"
  destinationType := "WEBHOOK"
  endpointUrl := "https://example.com/hook"
  eventFilters := none
  enabled := true
  createdAt := 0
  updatedAt := 0
  deletedAt := none

def plainLibrary : ReceiveLibrary where
  numberText _ := "1"
  toNumber _ := .ok 1
  spread
    | .object members => members
    | _ => []

/-- The two requests, where no task result is stored and one destination is active. -/
def receivingTwice (faults : Nat → Option (Bool × Thrown)) (schedule : List Bool)
    : Configuration ReceiveSignature Thrown Bool RestoredTaskResult (ReceivingWorld Bool) :=
  (receiving plainLibrary sameTask ⟨fun _ => none, []⟩ 0).follow
    (receivingServer (fun _ => 1) faults (fun _ => [openWebhook])) schedule

/-- The destinations cannot be read after the first call has saved its task result, which the second
call finds.
-/
def interrupted
    : Configuration ReceiveSignature Thrown Bool RestoredTaskResult (ReceivingWorld Bool) :=
  receivingTwice
    (fun step => if step = 6 then some (false, newError "Connection lost") else none)
    [false, false, false, false, false, false, false, true]

/-- Both calls have settled, no job has been added, and none will be. -/
theorem received_routed_interrupted
    : (interrupted.hasSettled false = true
        ∧ interrupted.hasSettled true = true
        ∧ interrupted.world.tables.jobs.length = 0)
      ∧ (∀ caller, Share plainLibrary (sameTask caller) (shareOf caller interrupted.world.events))
      ∧ (∀ caller result,
          interrupted.process caller = .done result
          → Answered plainLibrary (sameTask caller) (shareOf caller interrupted.world.events)
              result)
      ∧ (∀ caller taskId found earlier,
          (caller, .looked taskId found) :: earlier <:+ interrupted.world.events
          → found = storedAfter (fun _ => none) taskId earlier)
      ∧ (∀ caller records,
          (caller, .listed records) ∈ interrupted.world.events
          → records = activeRows [openWebhook])
      ∧ interrupted.world.tables.jobs = [] ++ (jobsOf interrupted.world.events).reverse := by
  have reached
      : Configuration.Reachable
          (receivingServer (fun _ => 1)
            (fun step => if step = 6 then some (false, newError "Connection lost") else none)
            (fun _ => [openWebhook]))
          (fun _ _ _ => True) (receiving plainLibrary sameTask ⟨fun _ => none, []⟩ 0)
          interrupted :=
    Configuration.reachable_follow _ _ (by decide +kernel)
  obtain ⟨shares, answers, lookups, lists, jobs⟩ := received_routed reached
  refine ⟨by decide +kernel, shares, answers, lookups, fun caller records listed => ?_, jobs⟩
  obtain ⟨_, active⟩ := lists caller records listed
  exact active

/-- Both calls look the task result up before either of them saves it. -/
def racing : Configuration ReceiveSignature Thrown Bool RestoredTaskResult (ReceivingWorld Bool) :=
  receivingTwice (fun _ => none)
    [false, true, false, false, false, false, false, false, false, true, true, true, true, true,
      true, true]

def ReceiveEvent.isAdded : ReceiveEvent → Bool
  | added _ => true
  | _ => false

theorem racing_adds : ∃ job, (true, .added job) ∈ racing.world.events := by
  have adds : racing.world.events.any (fun entry => entry.1 && entry.2.isAdded) = true := by
    decide +kernel
  obtain ⟨entry, mem, both⟩ := List.any_eq_true.mp adds
  obtain ⟨caller, event⟩ := entry
  obtain ⟨rfl, isAdded⟩ := Bool.and_eq_true_iff.mp both
  cases event with
  | added job => exact ⟨job, mem⟩
  | _ => cases isAdded

/-- Both of them add a job, for the same destination. -/
theorem added_before_saved_racing
    : racing.world.tables.jobs.length = 2
      ∧ ∃ job,
          (true, .added job) ∈ racing.world.events
          ∧ ∃ earlier,
              (true, .looked "task-1" none) :: earlier <:+ racing.world.events
              ∧ ∀ saver record, (saver, .saved record) ∈ earlier → record.id ≠ "task-1" := by
  have reached
      : Configuration.Reachable
          (receivingServer (fun _ => 1) (fun _ => none) (fun _ => [openWebhook]))
          (fun _ _ _ => True) (receiving plainLibrary sameTask ⟨fun _ => none, []⟩ 0) racing :=
    Configuration.reachable_follow _ _ (by decide +kernel)
  obtain ⟨job, added⟩ := racing_adds
  obtain ⟨_, before⟩ := added_before_saved reached added
  exact ⟨by decide +kernel, job, added, before⟩

end QueueForge.Application
