import Mathlib.Data.List.Nodup
import QueueForge.Domain.DeliveryLifecycle
import QueueForge.Infrastructure.PrismaDeliveryLogRepository

/-! Deliveries saved and loaded as aggregates, with their deletion mark and their pending events.
The repository writes fewer columns than the entity has members, and reads fewer than it could.
-/

namespace QueueForge.Infrastructure

open QueueForge.Async QueueForge.Js QueueForge.Domain QueueForge.Application

-----------------------------------------------------------------------------------------
-- The aggregate and its repository
-----------------------------------------------------------------------------------------

/-- A delivery with what it has of an aggregate root. -/
structure DeliveryAggregate extends Delivery where
  deletedAt : Option Int := none
  domainEvents : List DomainEvent := []

namespace DeliveryAggregate

/-- A call of a mutator: of the entity's own, or of those of an aggregate root. -/
inductive Call where
  | entity (runtime : Runtime) (call : MutatorCall)
  | delete (now : Int)
  | addDomainEvent (event : DomainEvent)

variable (log : DeliveryAggregate)

def clearDomainEvents : DeliveryAggregate := { log with domainEvents := [] }

/-- The aggregate a call leaves, whether it throws or not. -/
def call : Call → DeliveryAggregate
  | .entity runtime mutator =>
      { log with toDelivery := (Delivery.call log.toDelivery (runtime, mutator)).2 }
  | .delete now => { log with deletedAt := some now }
  | .addDomainEvent event => { log with domainEvents := log.domainEvents ++ [event] }

/-- The aggregate a sequence of calls leaves. -/
def afterCalls (calls : List Call) : DeliveryAggregate :=
  calls.foldl call log

/-- What a delivery is loaded for. -/
structure SameState (left right : DeliveryAggregate) : Prop where
  status : left.status = right.status
  retryCount : left.retryCount = right.retryCount
  nextRetryAt : left.nextRetryAt = right.nextRetryAt
  lastError : left.lastError = right.lastError
  lastAttemptAt : left.lastAttemptAt = right.lastAttemptAt
  completedAt : left.completedAt = right.completedAt
  attempts : left.attempts = right.attempts
  deletedAt : left.deletedAt = right.deletedAt

end DeliveryAggregate

namespace PrismaDeliveryLogRepository

/-- `toDomain`, with the deletion mark of the record. -/
def restoreLog (record : DeliveryRow) : Except Thrown DeliveryAggregate :=
  (toDomain record).map (fun delivery => {
    delivery with
    deletedAt := record.deletedAt
    domainEvents := []
  })

/-- What `save` awaits: the row, then an attempt for each event that is one. -/
def writeLog (log : DeliveryAggregate) : PrismaProgram DeliveryRow := do
  let record ← awaitPrisma (.deliveryUpsert (columns log.toDelivery))
  recordEvents log.toDelivery log.domainEvents
  pure record

/-- `save` of an aggregate: what it settles with, and the aggregate it leaves. The events are
cleared after the last write only.
-/
def saveLog (log : DeliveryAggregate)
    : PrismaProgram (Settled Thrown DeliveryAggregate × DeliveryAggregate) := do
  let written ← (writeLog log).settle
  match written with
  | .error error => pure (.error error, log)
  | .ok record => pure (restoreLog record, log.clearDomainEvents)

/-- `findByTaskResultId`, to aggregates. -/
def findLogs (taskResultId : String) : PrismaProgram (List DeliveryAggregate) := do
  let records ← awaitPrisma (.deliveryFindMany taskResultId)
  Program.ofResult (records.mapM restoreLog)

section
variable {env : ServiceEnvironment} {world : ServiceWorld}

/-- Saving an aggregate is saving the delivery with its events. -/
theorem run_saveLog (log : DeliveryAggregate) (world : ServiceWorld)
    : ∃ outcome left,
        (saveLog log).run (prisma env) world
          = (.ok (outcome, left),
              ((save log.toDelivery log.domainEvents).run (prisma env) world).2)
        ∧ ((save log.toDelivery log.domainEvents).run (prisma env) world).1
          = outcome.map (fun _ => ()) := by
  simp only [saveLog, writeLog, save, Program.bind_eq, Program.pure_eq, Program.run_bind,
    Program.run_settle, run_awaitPrisma, Program.run_done]
  rcases prisma env (.deliveryUpsert (columns log.toDelivery)) world with ⟨error | record, after⟩
  · exact ⟨_, _, rfl, rfl⟩
  · dsimp only
    rcases (recordEvents log.toDelivery log.domainEvents).run (prisma env) after
      with ⟨error | written, final⟩
    · exact ⟨_, _, rfl, rfl⟩
    · refine ⟨restoreLog record, log.clearDomainEvents, ?_, ?_⟩
      · dsimp only
        cases toDomain record <;> rfl
      · dsimp only
        unfold restoreLog
        cases toDomain record <;> rfl

-----------------------------------------------------------------------------------------
-- What is read back of a saved delivery
-----------------------------------------------------------------------------------------

/-- What an upsert that is answered stores: the columns, and for the others what the row had. -/
structure Upserted (before : World) (data : DeliveryUpsert) (row : DeliveryRow) (after : World)
    : Prop where
  id : row.id = data.id
  status : row.status = data.status
  retryCount : row.retryCount = data.retryCount
  nextRetryAt : data.nextRetryAt = row.nextRetryAt.map some
  taskResultId
    : row.taskResultId
      = ((before.delivery? data.id).map DeliveryRow.taskResultId).getD data.taskResultId
  deletedAt : row.deletedAt = (before.delivery? data.id).bind DeliveryRow.deletedAt
  stored : row ∈ after.deliveries
  alone : ∀ other ∈ after.deliveries, other.id = data.id → other = row

theorem Upserted.of_deliveries_eq {before after final : World} {data : DeliveryUpsert}
    {row : DeliveryRow} (upserted : Upserted before data row after)
    (same : final.deliveries = after.deliveries)
    : Upserted before data row final := by
  obtain ⟨id, status, retryCount, nextRetryAt, taskResultId, deletedAt, stored, alone⟩ := upserted
  rw [← same] at stored alone
  exact ⟨id, status, retryCount, nextRetryAt, taskResultId, deletedAt, stored, alone⟩

/-- A date that fits its column is read back from it. -/
theorem eq_map_of_nullableDateTime {date : Option Date} {column : Option Int}
    (fits : nullableDateTime date = some column)
    : date = column.map some := by
  rcases date with _ | _ | time
  · obtain rfl : none = column := Option.some.inj fits
    rfl
  · exact nomatch fits
  · obtain rfl : some time = column := Option.some.inj fits
    rfl

/-- What an answered upsert does: the date fits, and the row with the identifier is changed, or
where there is none, one is added.
-/
theorem deliveryUpsert_answered {before after : World} {data : DeliveryUpsert} {row : DeliveryRow}
    {now : Int} (answered : performPrisma now before (.deliveryUpsert data) = (.ok row, after))
    : ∃ nextRetryAt,
        nullableDateTime data.nextRetryAt = some nextRetryAt
        ∧ ((∃ old,
              before.delivery? data.id = some old
              ∧ row = data.applyTo nextRetryAt now old
              ∧ after = before.modifyDelivery data.id (data.applyTo nextRetryAt now))
            ∨ ∃ createdAt,
                before.delivery? data.id = none
                ∧ row = data.newRow nextRetryAt createdAt now
                ∧ after = { before with deliveries := before.deliveries ++ [row] }) := by
  simp only [performPrisma] at answered
  cases fits : nullableDateTime data.nextRetryAt with
  | none =>
      rw [fits] at answered
      cases answered
  | some nextRetryAt =>
      refine ⟨nextRetryAt, rfl, ?_⟩
      cases created : data.createdAt with
      | none =>
          rw [fits, created] at answered
          cases answered
      | some createdAt =>
          rw [fits, created] at answered
          cases found : before.delivery? data.id with
          | some old =>
              simp only [found, Prod.mk.injEq, Except.ok.injEq] at answered
              exact .inl ⟨old, rfl, answered.1.symm, answered.2.symm⟩
          | none =>
              simp only [found] at answered
              split at answered
              · cases answered
              · simp only [Prod.mk.injEq, Except.ok.injEq] at answered
                obtain ⟨rfl, rfl⟩ := answered
                exact .inr ⟨createdAt, rfl, rfl, rfl⟩

/-- Under the primary key, an upsert that is answered stores its row. -/
theorem upserted {before after : World} {data : DeliveryUpsert} {row : DeliveryRow} {now : Int}
    (keyed : (before.deliveries.map DeliveryRow.id).Nodup)
    (answered : performPrisma now before (.deliveryUpsert data) = (.ok row, after))
    : Upserted before data row after := by
  obtain ⟨nextRetryAt, fits, ⟨old, found, rfl, rfl⟩ | ⟨createdAt, found, rfl, rfl⟩⟩ :=
    deliveryUpsert_answered answered
  · have held : old ∈ before.deliveries := List.mem_of_find?_eq_some found
    have named : old.id = data.id := World.delivery?_id found
    refine {
      id := named
      status := rfl
      retryCount := rfl
      nextRetryAt := eq_map_of_nullableDateTime fits
      taskResultId := by rw [found]; rfl
      deletedAt := by rw [found]; rfl
      stored := List.mem_map.mpr ⟨old, held, if_pos named⟩
      alone := ?_
    }
    intro other member same
    obtain ⟨earlier, among, rfl⟩ := List.mem_map.mp member
    have keeps : earlier.id = data.id := by
      by_cases changed : earlier.id = data.id
      · exact changed
      · rwa [if_neg changed] at same
    rw [if_pos keeps, List.inj_on_of_nodup_map keyed among held (keeps.trans named.symm)]
  · refine {
      id := rfl
      status := rfl
      retryCount := rfl
      nextRetryAt := eq_map_of_nullableDateTime fits
      taskResultId := by rw [found]; rfl
      deletedAt := by rw [found]; rfl
      stored := List.mem_append_right _ (List.mem_singleton_self _)
      alone := ?_
    }
    intro other member same
    rcases List.mem_append.mp member with earlier | added
    · have absent := List.find?_eq_none.mp found other earlier
      exact absurd (decide_eq_true same) absent
    · exact List.mem_singleton.mp added

/-- What a record is restored to. -/
structure RestoredFrom (record : DeliveryRow) (log : DeliveryAggregate) : Prop where
  id : log.id = record.id
  status : log.status = record.status
  retryCount : log.retryCount = record.retryCount
  nextRetryAt : log.nextRetryAt = record.nextRetryAt.map some
  lastError : log.lastError = none
  lastAttemptAt : log.lastAttemptAt = none
  completedAt : log.completedAt = none
  attempts : log.attempts = []
  deletedAt : log.deletedAt = record.deletedAt

theorem restoredFrom {record : DeliveryRow} {log : DeliveryAggregate}
    (restored : restoreLog record = .ok log)
    : RestoredFrom record log := by
  unfold restoreLog at restored
  cases converted : toDomain record with
  | error error =>
      rw [converted] at restored
      exact nomatch restored
  | ok delivery =>
      rw [converted] at restored
      obtain rfl := Except.ok.inj restored
      unfold toDomain at converted
      split at converted
      · exact nomatch converted
      · obtain rfl := Except.ok.inj converted
        exact ⟨rfl, rfl, rfl, rfl, rfl, rfl, rfl, rfl, rfl⟩

/-- Each input has its output among those of the list, and each output comes of an input, by
induction on the inputs.
-/
theorem mem_of_mapM {ε α β : Type} {convert : α → Except ε β} {inputs : List α}
    {outputs : List β} (converted : inputs.mapM convert = .ok outputs)
    : (∀ input ∈ inputs, ∃ output ∈ outputs, convert input = .ok output)
      ∧ ∀ output ∈ outputs, ∃ input ∈ inputs, convert input = .ok output := by
  induction inputs generalizing outputs with
  | nil =>
      obtain rfl : [] = outputs := Except.ok.inj converted
      exact ⟨nofun, nofun⟩
  | cons head rest ih =>
      cases first : convert head with
      | error error =>
          simp [List.mapM_cons, first, Bind.bind, Except.bind] at converted
      | ok output =>
          cases others : rest.mapM convert with
          | error error =>
              simp [List.mapM_cons, first, others, Bind.bind, Except.bind] at converted
          | ok remaining =>
              simp only [List.mapM_cons, first, others, Bind.bind, Except.bind, pure,
                Except.pure, Except.ok.injEq] at converted
              subst converted
              obtain ⟨taken, origins⟩ := ih others
              constructor
              · intro input member
                rcases List.mem_cons.mp member with rfl | later
                · exact ⟨output, List.mem_cons_self, first⟩
                · obtain ⟨made, among, same⟩ := taken input later
                  exact ⟨made, List.mem_cons_of_mem _ among, same⟩
              · intro made member
                rcases List.mem_cons.mp member with rfl | later
                · exact ⟨head, List.mem_cons_self, first⟩
                · obtain ⟨input, among, same⟩ := origins made later
                  exact ⟨input, List.mem_cons_of_mem _ among, same⟩

/-- What a save of the aggregate has no column for is still as in a new delivery, and the row is of
the aggregate's task result, with its mark.
-/
structure NothingLost (before : World) (log : DeliveryAggregate) : Prop where
  lastError : log.lastError = none
  lastAttemptAt : log.lastAttemptAt = none
  completedAt : log.completedAt = none
  attempts : log.attempts = []
  deletedAt : log.deletedAt = (before.delivery? log.id).bind DeliveryRow.deletedAt
  taskResultId
    : ∀ row, before.delivery? log.id = some row → row.taskResultId = log.taskResultId

/-- Among some loaded deliveries is the saved one, in the same state. -/
def Reloaded (log : DeliveryAggregate) (found : List DeliveryAggregate) : Prop :=
  ∃ reloaded ∈ found, reloaded.id = log.id ∧ log.SameState reloaded

/-- The deliveries loaded after an answered upsert, by the restored ones. -/
theorem reloaded_iff_of_upserted {log : DeliveryAggregate} {before after : World}
    {row : DeliveryRow} {found : List DeliveryAggregate}
    (stored : Upserted before (columns log.toDelivery) row after)
    (loaded
      : (after.deliveries.filter (fun other => other.taskResultId = log.taskResultId)).mapM
          restoreLog
        = .ok found)
    : Reloaded log found ↔ NothingLost before log := by
  obtain ⟨restored, origins⟩ := mem_of_mapM loaded
  constructor
  · rintro ⟨reloaded, member, named, same⟩
    obtain ⟨record, among, made⟩ := origins reloaded member
    have origin := restoredFrom made
    obtain ⟨present, ofResult⟩ := List.mem_filter.mp among
    obtain rfl : record = row :=
      stored.alone record present (origin.id.symm.trans named)
    refine {
      lastError := same.lastError.trans origin.lastError
      lastAttemptAt := same.lastAttemptAt.trans origin.lastAttemptAt
      completedAt := same.completedAt.trans origin.completedAt
      attempts := same.attempts.trans origin.attempts
      deletedAt := (same.deletedAt.trans origin.deletedAt).trans stored.deletedAt
      taskResultId := ?_
    }
    intro old existed
    have kept := stored.taskResultId
    have existed' : before.delivery? (columns log.toDelivery).id = some old := existed
    rw [existed'] at kept
    exact kept.symm.trans (of_decide_eq_true ofResult)
  · intro nothing
    have ofResult : row.taskResultId = log.taskResultId := by
      rw [stored.taskResultId]
      cases existed : before.delivery? (columns log.toDelivery).id with
      | none => rfl
      | some old => exact nothing.taskResultId old existed
    obtain ⟨reloaded, member, made⟩ :=
      restored row (List.mem_filter.mpr ⟨stored.stored, decide_eq_true ofResult⟩)
    have origin := restoredFrom made
    refine ⟨reloaded, member, origin.id.trans stored.id, ?_⟩
    exact {
      status := stored.status.symm.trans origin.status.symm
      retryCount := stored.retryCount.symm.trans origin.retryCount.symm
      nextRetryAt := stored.nextRetryAt.trans origin.nextRetryAt.symm
      lastError := nothing.lastError.trans origin.lastError.symm
      lastAttemptAt := nothing.lastAttemptAt.trans origin.lastAttemptAt.symm
      completedAt := nothing.completedAt.trans origin.completedAt.symm
      attempts := nothing.attempts.trans origin.attempts.symm
      deletedAt := (nothing.deletedAt.trans stored.deletedAt.symm).trans origin.deletedAt.symm
    }

/-- An answer of the client that is no fault is the database's. -/
theorem performed_of_prisma {call : PrismaCall} {answer : call.Result} {after : ServiceWorld}
    (answered : prisma env call world = (.ok answer, after))
    : performPrisma (env.runtime world).now world.database call = (.ok answer, after.database) := by
  unfold prisma at answered
  cases faulted : env.fault world call with
  | some error =>
      rw [faulted] at answered
      exact nomatch answered
  | none =>
      rw [faulted] at answered
      obtain ⟨resolved, rfl⟩ := Prod.mk.inj answered
      exact Prod.ext resolved rfl

/-- A save that returns has stored its row; the attempts it wrote leave the deliveries alone. -/
theorem upserted_of_save {log saved left : DeliveryAggregate} {after : ServiceWorld}
    (keyed : (world.database.deliveries.map DeliveryRow.id).Nodup)
    (returned : (saveLog log).run (prisma env) world = (.ok (.ok saved, left), after))
    : ∃ row, Upserted world.database (columns log.toDelivery) row after.database := by
  simp only [saveLog, writeLog, Program.bind_eq, Program.pure_eq, Program.run_bind,
    Program.run_settle, run_awaitPrisma, Program.run_done] at returned
  rcases answered : prisma env (.deliveryUpsert (columns log.toDelivery)) world
    with ⟨error | row, middle⟩
  · rw [answered] at returned
    exact nomatch returned
  · rw [answered] at returned
    dsimp only at returned
    have stored := upserted keyed (performed_of_prisma answered)
    have kept := @deliveries_recordEvents env log.toDelivery log.domainEvents middle
    rcases recorded : (recordEvents log.toDelivery log.domainEvents).run (prisma env) middle
      with ⟨error | value, final⟩
    · rw [recorded] at returned
      exact nomatch returned
    · rw [recorded] at returned kept
      obtain rfl : final = after := congrArg Prod.snd returned
      exact ⟨row, stored.of_deliveries_eq kept⟩

/-- Whenever a delivery is saved and those of its task result are loaded, it is among them in the
same state if and only if nothing of it is lost.
-/
theorem savedLog_reloaded_iff (env : ServiceEnvironment) (log : DeliveryAggregate)
    {saved left : DeliveryAggregate} {after final : ServiceWorld} {found : List DeliveryAggregate}
    (keyed : (world.database.deliveries.map DeliveryRow.id).Nodup)
    (returned : (saveLog log).run (prisma env) world = (.ok (.ok saved, left), after))
    (loaded : (findLogs log.taskResultId).run (prisma env) after = (.ok found, final))
    : Reloaded log found ↔ NothingLost world.database log := by
  obtain ⟨row, stored⟩ := upserted_of_save keyed returned
  simp only [findLogs, Program.bind_eq, Program.run_bind, run_awaitPrisma, Program.run_ofResult]
    at loaded
  rcases answered : prisma env (.deliveryFindMany log.taskResultId) after
    with ⟨error | records, middle⟩
  · rw [answered] at loaded
    exact nomatch loaded
  · rw [answered] at loaded
    have selected := performed_of_prisma answered
    obtain ⟨rows, -⟩ := Prod.mk.inj selected
    obtain rfl := Except.ok.inj rows
    exact reloaded_iff_of_upserted stored (congrArg Prod.fst loaded)

end

/-- A deployment without faults whose clock shows 60. -/
def idleEnvironment : ServiceEnvironment where
  runtime _ := ⟨60, 0, fun _ => 0⟩
  fault _ _ := none
  queueFault _ _ := none
  answer _ _ := .error (newError "not deployed")

def emptyDatabase : ServiceWorld := ⟨⟨[], [], [], []⟩, []⟩

/-- A created delivery. -/
def createdLog : DeliveryAggregate where
  id := "log"
  taskResultId := "result"
  destinationId := "destination"
  status := .pending
  retryCount := 0
  nextRetryAt := none
  lastAttemptAt := none
  lastError := none
  completedAt := none
  createdAt := some 0
  updatedAt := some 0
  attempts := []
  idNonempty := by decide
  taskResultIdNonempty := result_named
  destinationIdNonempty := destination_named

/-- The delivery taken up at a time of its own. -/
def startedLog : DeliveryAggregate :=
  createdLog.afterCalls [.entity ⟨30, 0, fun _ => 0⟩ .markAsProcessing]

/-- The row a save of either leaves. -/
def logRow (status : DeliveryStatus) : DeliveryRow where
  id := "log"
  taskResultId := "result"
  destinationId := "destination"
  status := status
  retryCount := 0
  nextRetryAt := none
  lastAttemptAt := none
  lastError := none
  createdAt := 0
  updatedAt := 60

/-- What the row is restored to. -/
def restoredLog (status : DeliveryStatus) : DeliveryAggregate :=
  { createdLog with status := status, updatedAt := some 60 }

def storingLog (status : DeliveryStatus) : ServiceWorld :=
  ⟨⟨[logRow status], [], [], []⟩, []⟩

theorem saveLog_startedLog
    : (saveLog startedLog).run (prisma idleEnvironment) emptyDatabase
      = (.ok (.ok (restoredLog .processing), startedLog), storingLog .processing) :=
  rfl

theorem saveLog_createdLog
    : (saveLog createdLog).run (prisma idleEnvironment) emptyDatabase
      = (.ok (.ok (restoredLog .pending), createdLog), storingLog .pending) :=
  rfl

theorem findLogs_storingLog (status : DeliveryStatus)
    : (findLogs "result").run (prisma idleEnvironment) (storingLog status)
      = (.ok [restoredLog status], storingLog status) :=
  rfl

/-- The time of the last attempt is gone once the delivery is saved and loaded. -/
theorem attempt_time_not_reloaded
    : Delivery.create ⟨0, 0, fun _ => 0⟩ "log" "result" "destination" = .ok createdLog.toDelivery
      ∧ (saveLog startedLog).run (prisma idleEnvironment) emptyDatabase
        = (.ok (.ok (restoredLog .processing), startedLog), storingLog .processing)
      ∧ (findLogs "result").run (prisma idleEnvironment) (storingLog .processing)
        = (.ok [restoredLog .processing], storingLog .processing)
      ∧ ¬Reloaded startedLog [restoredLog .processing] := by
  refine ⟨rfl, saveLog_startedLog, findLogs_storingLog _, ?_⟩
  rintro ⟨reloaded, member, -, same⟩
  obtain rfl := List.mem_singleton.mp member
  have lost : some (some 30) = (none : Option Date) := same.lastAttemptAt
  exact nomatch lost

theorem delivery?_emptyDatabase (id : String) : emptyDatabase.database.delivery? id = none :=
  rfl

/-- A created delivery is loaded as it was. -/
theorem createdLog_reloaded : Reloaded createdLog [restoredLog .pending] := by
  have keyed : (emptyDatabase.database.deliveries.map DeliveryRow.id).Nodup := List.nodup_nil
  have kept : NothingLost emptyDatabase.database createdLog :=
    ⟨rfl, rfl, rfl, rfl, rfl,
      fun _ stored => nomatch (delivery?_emptyDatabase createdLog.id).symm.trans stored⟩
  exact (savedLog_reloaded_iff idleEnvironment createdLog keyed saveLog_createdLog
    (findLogs_storingLog .pending)).mpr kept

end PrismaDeliveryLogRepository

end QueueForge.Infrastructure
