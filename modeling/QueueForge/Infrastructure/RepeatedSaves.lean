import QueueForge.Async.Throughout
import QueueForge.Infrastructure.SavedLogs

/-! A delivery that is saved again after a save that failed. The row and the attempts are written one
after the other, and the events stay pending until the last of them is.
-/

namespace QueueForge.Infrastructure

open QueueForge.Async QueueForge.Js QueueForge.Domain QueueForge.Application
open PrismaDeliveryLogRepository

-----------------------------------------------------------------------------------------
-- The calls of one save
-----------------------------------------------------------------------------------------

section
variable {env : ServiceEnvironment} {world : ServiceWorld}

/-- The creation of an attempt is rejected and changes nothing, or it adds its row. -/
theorem prisma_attemptCreate (deliveryId : String) (attemptNumber : Int) (data : AttemptData)
    (world : ServiceWorld)
    : (∃ error,
        prisma env (.attemptCreate deliveryId attemptNumber data) world = (.error error, world))
      ∨ ∃ row now after,
          prisma env (.attemptCreate deliveryId attemptNumber data) world = (.ok (), after)
          ∧ attemptRow deliveryId attemptNumber data now = some row
          ∧ after.database.attempts = world.database.attempts ++ [row] := by
  unfold prisma
  cases env.fault world (.attemptCreate deliveryId attemptNumber data) with
  | some error => exact .inl ⟨error, rfl⟩
  | none =>
      dsimp only [performPrisma]
      cases fits : attemptRow deliveryId attemptNumber data (env.runtime world).now with
      | none => exact .inl ⟨argumentRejected, rfl⟩
      | some row =>
          cases world.database.delivery? deliveryId with
          | none => exact .inl ⟨foreignKeyViolated, rfl⟩
          | some delivery => exact .inr ⟨row, _, _, rfl, fits, rfl⟩

/-- The calls for the attempts of some events are all answered. -/
def AttemptsAnswered (env : ServiceEnvironment) (log : Delivery)
    : List DomainEvent → ServiceWorld → Prop
  | [], _ => True
  | event :: rest, world =>
      match attemptOf event with
      | some data =>
          (prisma env (.attemptCreate log.id log.retryCount data) world).1 = .ok ()
          ∧ AttemptsAnswered env log rest
              (prisma env (.attemptCreate log.id log.retryCount data) world).2
      | none => AttemptsAnswered env log rest world

/-- Then the loop of the events runs to its end, by induction on them. -/
theorem recordEvents_of_answered {log : Delivery} {events : List DomainEvent}
    (answered : AttemptsAnswered env log events world)
    : ∃ after, (recordEvents log events).run (prisma env) world = (.ok (), after) := by
  induction events generalizing world with
  | nil => exact ⟨world, rfl⟩
  | cons event rest ih =>
      unfold recordEvents
      unfold AttemptsAnswered at answered
      cases noted : attemptOf event with
      | none =>
          rw [noted] at answered
          exact ih answered
      | some data =>
          rw [noted] at answered
          obtain ⟨created, others⟩ := answered
          obtain ⟨after, recorded⟩ := ih others
          refine ⟨after, ?_⟩
          simp only [Program.bind_eq, Program.run_bind, run_awaitPrisma]
          rcases answer : prisma env (.attemptCreate log.id log.retryCount data) world
            with ⟨error | value, between⟩
          · rw [answer] at created
            cases created
          · rw [answer] at recorded
            exact recorded

/-- Attempts of a delivery, for the first of its events that are recorded as such. -/
inductive WrittenFor (log : Delivery) : List DomainEvent → List AttemptRow → Prop
  | stopped {events : List DomainEvent} : WrittenFor log events []
  | passed {event : DomainEvent} {rest : List DomainEvent} {rows : List AttemptRow}
    (other : attemptOf event = none) (later : WrittenFor log rest rows)
    : WrittenFor log (event :: rest) rows
  | written {event : DomainEvent} {rest : List DomainEvent} {rows : List AttemptRow}
    {data : AttemptData} {row : AttemptRow} {now : Int} (noted : attemptOf event = some data)
    (made : attemptRow log.id log.retryCount data now = some row)
    (later : WrittenFor log rest rows)
    : WrittenFor log (event :: rest) (row :: rows)

/-- The loop writes the attempts of the first events, by induction on the events. -/
theorem attempts_recordEvents (log : Delivery) (events : List DomainEvent) (world : ServiceWorld)
    : ∃ rows,
        ((recordEvents log events).run (prisma env) world).2.database.attempts
          = world.database.attempts ++ rows
        ∧ WrittenFor log events rows := by
  induction events generalizing world with
  | nil => exact ⟨[], (List.append_nil _).symm, .stopped⟩
  | cons event rest ih =>
      unfold recordEvents
      cases noted : attemptOf event with
      | none =>
          obtain ⟨rows, added, later⟩ := ih world
          exact ⟨rows, added, .passed noted later⟩
      | some data =>
          simp only [Program.bind_eq, Program.run_bind, run_awaitPrisma]
          rcases @prisma_attemptCreate env log.id log.retryCount data world with
            ⟨error, rejected⟩ | ⟨row, now, between, created, made, added⟩
          · rw [rejected]
            exact ⟨[], (List.append_nil _).symm, .stopped⟩
          · rw [created]
            obtain ⟨rows, others, later⟩ := ih between
            refine ⟨row :: rows, ?_, .written noted made later⟩
            dsimp only
            rw [others, added, List.append_assoc, List.singleton_append]

-----------------------------------------------------------------------------------------
-- One save
-----------------------------------------------------------------------------------------

/-- A save whose upsert is refused throws, and everything is as before. -/
theorem saveLog_of_refused {log : DeliveryAggregate} {error : Thrown}
    (refused : (prisma env (.deliveryUpsert (columns log.toDelivery)) world).1 = .error error)
    : (saveLog log).run (prisma env) world = (.ok (.error error, log), world) := by
  rcases @prisma_deliveryUpsert env (columns log.toDelivery) world with
    ⟨other, rejected⟩ | ⟨row, after, resolved, -⟩
  · rw [rejected] at refused
    obtain rfl := Except.error.inj refused
    simp only [saveLog, writeLog, Program.bind_eq, Program.pure_eq, Program.run_bind,
      Program.run_settle, run_awaitPrisma, rejected, Program.run_done]
  · rw [resolved] at refused
    cases refused

/-- The stored row of a delivery, if there is one, names a task result and a destination. -/
def Named (world : ServiceWorld) (log : Delivery) : Prop :=
  ∀ row, world.database.delivery? log.id = some row →
    row.taskResultId ≠ "" ∧ row.destinationId ≠ ""

/-- Then the row of an answered upsert is restored. -/
theorem restoreLog_of_resolved {log : Delivery} {row : DeliveryRow} {after : ServiceWorld}
    (named : Named world log)
    (resolved : prisma env (.deliveryUpsert (columns log)) world = (.ok row, after))
    : ∃ saved, restoreLog row = .ok saved := by
  have nonempty : row.id ≠ "" ∧ row.taskResultId ≠ "" ∧ row.destinationId ≠ "" := by
    obtain ⟨nextRetryAt, -, ⟨old, found, rfl, -⟩ | ⟨createdAt, -, rfl, -⟩⟩ :=
      deliveryUpsert_answered (performed_of_prisma resolved)
    · have same : old.id = log.id := World.delivery?_id found
      exact ⟨fun none => log.idNonempty (same.symm.trans none), named old found⟩
    · exact ⟨log.idNonempty, log.taskResultIdNonempty, log.destinationIdNonempty⟩
  simp only [restoreLog, toDomain, Delivery.checkIds, ne_eq, nonempty.1, nonempty.2.1,
    nonempty.2.2, not_false_eq_true, dif_pos]
  exact ⟨_, rfl⟩

/-- A save whose calls are all answered returns, and no event is pending any more. -/
theorem saveLog_of_answered {log : DeliveryAggregate} {row : DeliveryRow} {after : ServiceWorld}
    (named : Named world log.toDelivery)
    (resolved : prisma env (.deliveryUpsert (columns log.toDelivery)) world = (.ok row, after))
    (answered : AttemptsAnswered env log.toDelivery log.domainEvents after)
    : ∃ saved final,
        (saveLog log).run (prisma env) world = (.ok (.ok saved, log.clearDomainEvents), final) := by
  obtain ⟨final, recorded⟩ := recordEvents_of_answered answered
  obtain ⟨saved, made⟩ := restoreLog_of_resolved named resolved
  refine ⟨saved, final, ?_⟩
  simp only [saveLog, writeLog, Program.bind_eq, Program.pure_eq, Program.run_bind,
    Program.run_settle, run_awaitPrisma, resolved, recorded, Program.run_done, made]

/-- What a save leaves of the attempts, whatever it settles with. -/
theorem attempts_saveLog (log : DeliveryAggregate)
    : ∃ rows,
        ((saveLog log).run (prisma env) world).2.database.attempts
          = world.database.attempts ++ rows
        ∧ WrittenFor log.toDelivery log.domainEvents rows := by
  simp only [saveLog, writeLog, Program.bind_eq, Program.pure_eq, Program.run_bind,
    Program.run_settle, run_awaitPrisma, Program.run_done]
  rcases answer : prisma env (.deliveryUpsert (columns log.toDelivery)) world
    with ⟨error | row, between⟩
  · refine ⟨[], ?_, .stopped⟩
    rcases @prisma_deliveryUpsert env (columns log.toDelivery) world with
      ⟨other, rejected⟩ | ⟨row, after, resolved, -⟩
    · rw [answer] at rejected
      obtain rfl := congrArg Prod.snd rejected
      exact (List.append_nil _).symm
    · cases answer.symm.trans resolved
  · have kept : between.database.attempts = world.database.attempts := by
      obtain ⟨nextRetryAt, -, ⟨old, -, -, changed⟩ | ⟨createdAt, -, -, added⟩⟩ :=
        deliveryUpsert_answered (performed_of_prisma answer)
      · rw [changed]
        rfl
      · rw [added]
    obtain ⟨rows, written, first⟩ :=
      @attempts_recordEvents env log.toDelivery log.domainEvents between
    refine ⟨rows, ?_, first⟩
    rw [← kept, ← written]
    dsimp only
    rcases (recordEvents log.toDelivery log.domainEvents).run (prisma env) between
      with ⟨error | value, final⟩
    · rfl
    · rfl

end

-----------------------------------------------------------------------------------------
-- Saves again and again
-----------------------------------------------------------------------------------------

/-- The serials of the events that a save records as attempts. -/
def recordable : List Nat → List DomainEvent → List Nat
  | serial :: serials, event :: events =>
      match attemptOf event with
      | some _ => serial :: recordable serials events
      | none => recordable serials events
  | _, _ => []

/-- A delivery that is saved from time to time. Each pending event has a serial of its own, and those
recorded as attempts are noted, as are the attempts written.
-/
structure SavingSession where
  log : DeliveryAggregate
  serials : List Nat
  nextSerial : Nat
  recorded : List Nat
  written : List AttemptRow
  world : ServiceWorld

/-- What happens to it: a save, whose calls the environment lets through or not, a call of a mutator,
or anything that others do to the database and the queue.
-/
inductive SavingStep where
  | save (env : ServiceEnvironment)
  | call (call : DeliveryAggregate.Call)
  | elsewhere (world : ServiceWorld)

namespace SavingSession

/-- A delivery with the events it has so far. -/
def opened (log : DeliveryAggregate) (world : ServiceWorld) : SavingSession where
  log := log
  serials := List.range log.domainEvents.length
  nextSerial := log.domainEvents.length
  recorded := []
  written := []
  world := world

/-- The serials a call gives out. -/
def issued (session : SavingSession) : DeliveryAggregate.Call → List Nat
  | .addDomainEvent _ => [session.nextSerial]
  | _ => []

def afterSave (session : SavingSession) (env : ServiceEnvironment) : SavingSession :=
  match (saveLog session.log).run (prisma env) session.world with
  | (.ok (_, left), after) =>
      let rows := after.database.attempts.drop session.world.database.attempts.length
      {
        session with
        log := left
        serials := session.serials.take left.domainEvents.length
        recorded :=
          session.recorded
          ++ (recordable session.serials session.log.domainEvents).take rows.length
        written := session.written ++ rows
        world := after
      }
  -- what `save` throws is part of its outcome
  | (.error _, _) => session

def step : SavingStep → SavingSession → SavingSession
  | .save env, session => session.afterSave env
  | .call call, session => {
      session with
      log := session.log.call call
      serials := session.serials ++ session.issued call
      nextSerial := session.nextSerial + (session.issued call).length
    }
  | .elsewhere world, session => { session with world := world }

/-- A save that throws leaves the deliveries, the attempts and the pending events as they were. -/
def AllOrNothing : SavingStep → SavingSession → Prop
  | .save env, session =>
      ∀ error left after,
        (saveLog session.log).run (prisma env) session.world = (.ok (.error error, left), after)
        → after.database.deliveries = session.world.database.deliveries
          ∧ after.database.attempts = session.world.database.attempts
          ∧ left.domainEvents = session.log.domainEvents
  | _, _ => True

/-- No event is recorded twice, and each attempt written is one of an event recorded. -/
structure RecordedOnce (session : SavingSession) : Prop where
  nodup : session.recorded.Nodup
  counted : session.written.length = session.recorded.length

/-- The first call of a save is refused, or all of them are answered and the row can be read. -/
def Undisturbed : SavingStep → SavingSession → Prop
  | .save env, session =>
      (∃ error,
        (prisma env (.deliveryUpsert (columns session.log.toDelivery)) session.world).1
        = .error error)
      ∨ Named session.world session.log.toDelivery
        ∧ (∃ row,
            (prisma env (.deliveryUpsert (columns session.log.toDelivery)) session.world).1
            = .ok row)
        ∧ AttemptsAnswered env session.log.toDelivery session.log.domainEvents
            (prisma env (.deliveryUpsert (columns session.log.toDelivery)) session.world).2
  | _, _ => True

/-- The serials of a session are those of its pending events, and none was recorded yet. -/
structure Tracked (session : SavingSession) : Prop where
  paired : session.serials.length = session.log.domainEvents.length
  issued : ∀ serial ∈ session.recorded ++ session.serials, serial < session.nextSerial
  apart : (session.recorded ++ session.serials).Nodup
  counted : session.written.length = session.recorded.length

theorem tracked_opened (log : DeliveryAggregate) (world : ServiceWorld)
    : (opened log world).Tracked := by
  refine ⟨List.length_range, ?_, ?_, rfl⟩
  · intro serial member
    exact List.mem_range.mp member
  · exact List.nodup_range

theorem Tracked.recordedOnce {session : SavingSession} (tracked : session.Tracked)
    : session.RecordedOnce :=
  ⟨tracked.apart.of_append_left, tracked.counted⟩

theorem recordable_sublist (serials : List Nat) (events : List DomainEvent)
    : (recordable serials events).Sublist serials := by
  fun_induction recordable serials events with
  | case1 serial serials event events data noted ih => exact ih.cons_cons serial
  | case2 serial serials event events noted ih => exact ih.cons serial
  | case3 => exact List.nil_sublist _

/-- There are not more attempts than events to record, by induction on the attempts. -/
theorem length_le_recordable {log : Delivery} {events : List DomainEvent} {rows : List AttemptRow}
    {serials : List Nat} (written : WrittenFor log events rows)
    (paired : serials.length = events.length)
    : rows.length ≤ (recordable serials events).length := by
  induction written generalizing serials with
  | stopped => exact Nat.zero_le _
  | passed other later ih =>
      cases serials with
      | nil => exact nomatch paired
      | cons serial serials =>
          simp only [recordable, other]
          exact ih (Nat.succ.inj paired)
  | written noted made later ih =>
      cases serials with
      | nil => exact nomatch paired
      | cons serial serials =>
          simp only [recordable, noted, List.length_cons]
          exact Nat.succ_le_succ (ih (Nat.succ.inj paired))

variable {session : SavingSession} {env : ServiceEnvironment}

/-- A save that is refused at once leaves the session as it was. -/
theorem afterSave_of_refused {error : Thrown} (tracked : session.Tracked)
    (refused
      : (prisma env (.deliveryUpsert (columns session.log.toDelivery)) session.world).1
        = .error error)
    : session.afterSave env = session := by
  have whole : session.serials.take session.log.domainEvents.length = session.serials :=
    List.take_of_length_le (Nat.le_of_eq tracked.paired)
  simp only [afterSave, saveLog_of_refused refused, List.drop_length, List.length_nil,
    List.take_zero, List.append_nil, whole]

/-- One that goes through records the pending events, and leaves none. -/
theorem tracked_afterSave_of_answered (tracked : session.Tracked)
    {saved : DeliveryAggregate} {final : ServiceWorld}
    (returned
      : (saveLog session.log).run (prisma env) session.world
        = (.ok (.ok saved, session.log.clearDomainEvents), final))
    : (session.afterSave env).Tracked := by
  obtain ⟨rows, added, written⟩ := @attempts_saveLog env session.world session.log
  have within := length_le_recordable written tracked.paired
  have sublist
      : (session.recorded
          ++ (recordable session.serials session.log.domainEvents).take rows.length).Sublist
        (session.recorded ++ session.serials) :=
    ((List.take_sublist _ _).trans (recordable_sublist _ _)).append_left _
  rw [returned] at added
  have last : final.database.attempts.drop session.world.database.attempts.length = rows := by
    rw [show final.database.attempts = _ from added, List.drop_left]
  have cleared : session.log.clearDomainEvents.domainEvents = [] := rfl
  have left
      : session.afterSave env
        = {
          session with
          log := session.log.clearDomainEvents
          serials := []
          recorded :=
            session.recorded
            ++ (recordable session.serials session.log.domainEvents).take rows.length
          written := session.written ++ rows
          world := final
        } := by
    simp only [afterSave, returned, last, cleared, List.length_nil, List.take_zero]
  rw [left]
  refine ⟨rfl, ?_, ?_, ?_⟩
  · intro serial member
    rw [List.append_nil] at member
    exact tracked.issued serial (sublist.subset member)
  · rw [List.append_nil]
    exact tracked.apart.sublist sublist
  · simp only [List.length_append, tracked.counted, List.length_take, Nat.min_eq_left within]

/-- A call that adds no event keeps the serials. -/
theorem tracked_of_issued_nil (tracked : session.Tracked) {call : DeliveryAggregate.Call}
    (none : session.issued call = [])
    (same : (session.log.call call).domainEvents = session.log.domainEvents)
    : (step (.call call) session).Tracked := by
  have left : step (.call call) session = { session with log := session.log.call call } := by
    simp only [step, none, List.append_nil, List.length_nil, Nat.add_zero]
  rw [left]
  refine ⟨?_, tracked.issued, tracked.apart, tracked.counted⟩
  dsimp only
  rw [same]
  exact tracked.paired

/-- An event that is added has a serial that was never given out. -/
theorem tracked_addDomainEvent (tracked : session.Tracked) (event : DomainEvent)
    : (step (.call (.addDomainEvent event)) session).Tracked := by
  refine ⟨?_, ?_, ?_, tracked.counted⟩
  · simp only [step, issued, DeliveryAggregate.call, List.length_append, tracked.paired,
      List.length_cons, List.length_nil]
  · intro serial member
    simp only [step, issued, ← List.append_assoc] at member ⊢
    rcases List.mem_append.mp member with earlier | added
    · exact Nat.lt_succ_of_lt (tracked.issued serial earlier)
    · rw [List.mem_singleton.mp added]
      exact Nat.lt_succ_self _
  · simp only [step, issued, ← List.append_assoc]
    rw [List.nodup_append]
    refine ⟨tracked.apart, List.nodup_singleton _, ?_⟩
    intro earlier among added new same
    have within := tracked.issued earlier among
    rw [same, List.mem_singleton.mp new] at within
    exact Nat.lt_irrefl _ within

theorem tracked_call (tracked : session.Tracked) (call : DeliveryAggregate.Call)
    : (step (.call call) session).Tracked := by
  cases call with
  | entity runtime mutator => exact tracked_of_issued_nil tracked rfl rfl
  | delete now => exact tracked_of_issued_nil tracked rfl rfl
  | addDomainEvent event => exact tracked_addDomainEvent tracked event

/-- What an undisturbed save does: it is refused and nothing is changed, or it returns. -/
theorem save_of_undisturbed (undisturbed : Undisturbed (.save env) session)
    : (∃ error,
        (prisma env (.deliveryUpsert (columns session.log.toDelivery)) session.world).1
          = .error error
        ∧ (saveLog session.log).run (prisma env) session.world
          = (.ok (.error error, session.log), session.world))
      ∨ ∃ saved final,
          (saveLog session.log).run (prisma env) session.world
          = (.ok (.ok saved, session.log.clearDomainEvents), final) := by
  rcases undisturbed with ⟨error, refused⟩ | ⟨named, ⟨row, resolved⟩, answered⟩
  · exact .inl ⟨error, refused, saveLog_of_refused refused⟩
  · exact .inr (saveLog_of_answered named (Prod.ext resolved rfl) answered)

/-- An undisturbed step is all-or-nothing and keeps the serials apart. -/
theorem tracked_step (next : SavingStep) (tracked : session.Tracked)
    (undisturbed : Undisturbed next session)
    : AllOrNothing next session ∧ (step next session).Tracked := by
  cases next with
  | call call => exact ⟨trivial, tracked_call tracked call⟩
  | elsewhere world =>
      exact ⟨trivial, ⟨tracked.paired, tracked.issued, tracked.apart, tracked.counted⟩⟩
  | save env =>
      rcases save_of_undisturbed undisturbed with
        ⟨error, refused, thrown⟩ | ⟨saved, final, returned⟩
      · constructor
        · intro other left after happened
          obtain ⟨outcome, rfl⟩ := Prod.mk.inj (thrown.symm.trans happened)
          obtain ⟨-, rfl⟩ := Prod.mk.inj (Except.ok.inj outcome)
          exact ⟨rfl, rfl, rfl⟩
        · have same : step (.save env) session = session :=
            afterSave_of_refused tracked refused
          rw [same]
          exact tracked
      · constructor
        · intro other left after happened
          exact nomatch returned.symm.trans happened
        · exact tracked_afterSave_of_answered tracked returned

/-- In every run whose saves are undisturbed, each of them is all-or-nothing and no event is ever
recorded twice, by induction on the steps.
-/
theorem saves_all_or_nothing_of_tracked (steps : List SavingStep) (tracked : session.Tracked)
    (undisturbed : EveryStep step Undisturbed steps session)
    : EveryStep step AllOrNothing steps session ∧ Throughout step RecordedOnce steps session := by
  induction steps generalizing session with
  | nil => exact ⟨trivial, throughout_nil.mpr tracked.recordedOnce⟩
  | cons first rest ih =>
      obtain ⟨now, later⟩ := undisturbed
      obtain ⟨whole, kept⟩ := tracked_step first tracked now
      obtain ⟨wholes, once⟩ := ih kept later
      exact ⟨⟨whole, wholes⟩, throughout_cons.mpr ⟨tracked.recordedOnce, once⟩⟩

theorem saves_all_or_nothing (log : DeliveryAggregate) (world : ServiceWorld)
    (steps : List SavingStep)
    (undisturbed : EveryStep step Undisturbed steps (opened log world))
    : EveryStep step AllOrNothing steps (opened log world)
      ∧ Throughout step RecordedOnce steps (opened log world) :=
  saves_all_or_nothing_of_tracked steps (tracked_opened log world) undisturbed

/-- A delivery that failed twice, with both events pending. -/
def failedTwice : DeliveryAggregate := {
  createdLog with
  domainEvents := [
    .deliveryFailed "log" 10 (.string "Bad gateway") true 0,
    .deliveryFailed "log" 20 (.string "Socket hang up") true 0
  ]
}

/-- A database that is lost at some calls. -/
def losing (lost : ServiceWorld → PrismaCall → Bool) : ServiceEnvironment := {
  idleEnvironment with
  fault := fun world call => if lost world call then some (newError "Connection lost") else none
}

/-- It is lost once the first attempt is written. -/
def losingSecond : ServiceEnvironment :=
  losing (fun world _ => !world.database.attempts.isEmpty)

/-- It is lost from the start. -/
def losingAll : ServiceEnvironment := losing (fun _ _ => true)

/-- The database as the save of the two events leaves it when the second is refused. -/
def halfSaved : ServiceWorld where
  database := {
    deliveries := [logRow .pending]
    attempts := [{
      deliveryId := "log"
      attemptNumber := 0
      responseStatus := none
      responseTimeMs := 0
      errorMessage := some "Bad gateway"
      timestamp := 60
    }]
    queue := []
    history := []
  }
  jobs := []

theorem saveLog_failedTwice
    : (saveLog failedTwice).run (prisma losingSecond) emptyDatabase
      = (.ok (.error (newError "Connection lost"), failedTwice), halfSaved) :=
  rfl

/-- A save that throws at its second attempt has stored the row and the first one, and the next save
records the first event again.
-/
theorem second_attempt_lost
    : ¬EveryStep step AllOrNothing [.save losingSecond] (opened failedTwice emptyDatabase)
      ∧ ¬(stateAfter step [.save losingSecond, .save idleEnvironment]
            (opened failedTwice emptyDatabase)).RecordedOnce := by
  constructor
  · intro every
    obtain ⟨whole, -⟩ := every
    obtain ⟨rows, -, -⟩ := whole _ _ _ saveLog_failedTwice
    have stored : [logRow .pending] = ([] : List DeliveryRow) := rows
    exact nomatch stored
  · intro once
    have twice : [0, 0, 1].Nodup := once.nodup
    exact absurd twice (by decide)

/-- A save that is refused at once is repeated without harm. -/
theorem saves_all_or_nothing_after_refusal
    : EveryStep step AllOrNothing [.save losingAll, .save idleEnvironment]
        (opened failedTwice emptyDatabase)
      ∧ Throughout step RecordedOnce [.save losingAll, .save idleEnvironment]
          (opened failedTwice emptyDatabase) := by
  have named : Named emptyDatabase failedTwice.toDelivery := fun _ stored =>
    nomatch (delivery?_emptyDatabase failedTwice.id).symm.trans stored
  apply saves_all_or_nothing
  exact ⟨.inl ⟨newError "Connection lost", rfl⟩, .inr ⟨named, ⟨_, rfl⟩, ⟨rfl, rfl, trivial⟩⟩, trivial⟩

end SavingSession

end QueueForge.Infrastructure
