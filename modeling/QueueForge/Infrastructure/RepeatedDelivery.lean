import QueueForge.Application.DeliverTaskResult
import QueueForge.Infrastructure.PrismaDeliveryLogRepository

/-! `DeliverTaskResultUseCase` run again and again over the delivery table. Each execution saves
a delivery of its own, so the table rejects all but the first.
-/

namespace QueueForge.Infrastructure

open QueueForge.Async QueueForge.Js QueueForge.Domain QueueForge.Application

/-- A task result and the enabled webhook it is sent to. -/
structure WebhookRoute where
  taskResult : AiTaskResult
  destination : DeliveryDestination
  enabled : destination.enabled = true
  webhook : destination.type = .webhook

/-- What differs between executions: the arguments, the clock and the identifier drawn, and
how the post settles. Five seconds from now is still a valid date.
-/
structure Execution where
  attempt : Number
  maxRetries : Number := 5
  runtime : Runtime
  clock : Date.ofNumber (.ofInt (runtime.now + 5000)) ≠ none
  id : Uuid
  answer : Settled Thrown (Option HttpResponse)

/-- The Prisma client over a table without faults. -/
def prismaTable (now : Int) : Handler PrismaSignature Thrown World :=
  fun call world => performPrisma now world call

section
variable (library : DeliverLibrary) (route : WebhookRoute)

/-- The collaborators of the use case: the two entities are found, and `save` goes to the
repository over the table.
-/
def useCaseSystem (execution : Execution) : Handler DeliverSignature Thrown World
  | .runtime, world => (.ok execution.runtime, world)
  | .randomUUID, world => (.ok execution.id, world)
  | .findTaskResult id, world =>
      (.ok (if id = route.taskResult.id.text then some route.taskResult else none), world)
  | .findDestination id, world =>
      (.ok (if id = route.destination.id then some route.destination else none), world)
  | .post _ _ _ _, world => (execution.answer, world)
  | .save delivery, world =>
      (PrismaDeliveryLogRepository.save delivery []).run (prismaTable execution.runtime.now) world

/-- One execution over the table. -/
def execution (run : Execution) (world : World) : Settled Thrown Unit × World :=
  (DeliverTaskResultUseCase.execute library route.taskResult.id.text route.destination.id
      run.attempt run.maxRetries).run
    (useCaseSystem route run) world

/-- The table after a sequence of executions, newest first. -/
def afterExecutions (start : World) : List Execution → World
  | [] => start
  | run :: earlier => (execution library route run (afterExecutions start earlier)).2

/-- The records of the pair. -/
def pairRows (world : World) : List DeliveryRow :=
  world.deliveries.filter (fun row =>
    row.taskResultId = route.taskResult.id.text && row.destinationId = route.destination.id)

/-- The identifiers that are drawn are not in the table yet. -/
def FreshDraws (start : World) : List Execution → Prop
  | [] => True
  | run :: earlier =>
      FreshDraws start earlier
      ∧ (afterExecutions library route start earlier).delivery? run.id.text = none

/-- After every execution the table has one record of the pair, which counts the executions,
and no execution ran into the constraint. Before the first one a record may be missing.
-/
def CountsExecutions (start : World) : List Execution → Prop
  | [] => ∀ row ∈ pairRows route start, row.retryCount = 0
  | run :: earlier =>
      CountsExecutions start earlier
      ∧ (execution library route run (afterExecutions library route start earlier)).1
        ≠ .error uniqueViolated
      ∧ ∃ row,
          pairRows route (afterExecutions library route start (run :: earlier)) = [row]
          ∧ row.retryCount = earlier.length + 1

/-- An execution comes to its `save`: the headers can be signed, and the HTTP client does not
reject with `undefined` or `null`.
-/
def Execution.comesToSave (run : Execution) : Prop :=
  (∃ headers,
    DeliverTaskResultUseCase.headers library route.taskResult run.attempt
        (route.destination.eventFilters.getD [])
      = .ok headers)
  ∧ run.answer ≠ .error .nullish

end

section
variable {library : DeliverLibrary} {route : WebhookRoute} {run : Execution} {world : World}

theorem nullableDateTime_of_storable {date : Option Date} (storable : date ≠ some none)
    : nullableDateTime date = some date.join := by
  cases date with
  | none => rfl
  | some date =>
      cases date with
      | none => exact absurd rfl storable
      | some time => rfl

/-- An upsert of a new delivery stores it, unless there is a record of its pair. -/
theorem deliveryUpsert_new (data : DeliveryUpsert) (now : Int) {createdAt : Int}
    (fresh : world.delivery? data.id = none) (storable : data.nextRetryAt ≠ some none)
    (created : data.createdAt = some createdAt)
    : prismaTable now (.deliveryUpsert data) world
      = if world.deliveries.any (fun row =>
            row.taskResultId = data.taskResultId && row.destinationId = data.destinationId) then
          (.error uniqueViolated, world)
        else
          (.ok (data.newRow data.nextRetryAt.join createdAt now), {
            world with
            deliveries := world.deliveries ++ [data.newRow data.nextRetryAt.join createdAt now]
          }) := by
  simp only [prismaTable, performPrisma, nullableDateTime_of_storable storable, created, fresh]

/-- Saving a new delivery stores it, unless there is a record of its pair. -/
theorem run_save_new {log : Delivery} (now : Int) {createdAt : Int}
    (fresh : world.delivery? log.id = none) (storable : log.nextRetryAt ≠ some none)
    (created : log.createdAt = some createdAt)
    : (PrismaDeliveryLogRepository.save log []).run (prismaTable now) world
      = if world.deliveries.any (fun row =>
            row.taskResultId = log.taskResultId && row.destinationId = log.destinationId) then
          (.error uniqueViolated, world)
        else
          (.ok (), {
            world with
            deliveries :=
              world.deliveries
              ++ [(PrismaDeliveryLogRepository.columns log).newRow log.nextRetryAt.join createdAt now]
          }) := by
  have upserted := deliveryUpsert_new (PrismaDeliveryLogRepository.columns log) now
    fresh storable created
  simp only [PrismaDeliveryLogRepository.save, Program.bind_eq, Program.run_bind, awaitPrisma,
    Program.run_perform]
  by_cases taken
      : world.deliveries.any (fun row =>
          row.taskResultId = log.taskResultId && row.destinationId = log.destinationId) = true
  · rw [upserted.trans (if_pos taken), if_pos taken]
  · obtain ⟨delivery, restored⟩
        : ∃ delivery,
            PrismaDeliveryLogRepository.toDomain
              ((PrismaDeliveryLogRepository.columns log).newRow
                (PrismaDeliveryLogRepository.columns log).nextRetryAt.join createdAt now)
            = .ok delivery :=
      PrismaDeliveryLogRepository.toDomain_of_nonempty log.idNonempty log.taskResultIdNonempty
        log.destinationIdNonempty
    have stored := upserted.trans (if_neg taken)
    rw [stored, if_neg taken]
    simp only [PrismaDeliveryLogRepository.recordEvents, Program.pure_eq, Program.run_done, restored]
    rfl

/-- An execution finds the task result and an enabled webhook. -/
theorem execution_eq_deliver
    : execution library route run world
      = (DeliverTaskResultUseCase.deliver library route.taskResult route.destination
            route.taskResult.id.text route.destination.id run.attempt run.maxRetries).run
          (useCaseSystem route run) world := by
  simp only [execution, DeliverTaskResultUseCase.execute, Program.bind_eq, Program.run_bind,
    run_awaitDeliver, useCaseSystem, if_true, route.enabled, route.webhook,
    DestinationType.kind, Bool.true_eq_false, if_false, ne_eq, not_true_eq_false]

/-- The outcome of a post that did not reject with a nullish value. -/
theorem postOutcome_returns (library : DeliverLibrary) {answer : Settled Thrown (Option HttpResponse)}
    (readable : answer ≠ .error .nullish)
    : ∃ outcome, DeliverTaskResultUseCase.postOutcome library answer = .ok outcome := by
  cases answer with
  | ok response => cases response <;> exact ⟨_, rfl⟩
  | error error =>
      cases error with
      | nullish => exact absurd rfl readable
      | text value => exact ⟨_, rfl⟩
      | error object => exact ⟨_, rfl⟩

/-- An execution that does not come to its `save` changes nothing. -/
theorem execution_stops (world : World) (stops : ¬run.comesToSave library route)
    : (execution library route run world).2 = world := by
  simp only [execution_eq_deliver, DeliverTaskResultUseCase.deliver, Program.bind_eq,
    Program.run_bind, Program.run_ofResult]
  cases signed
      : DeliverTaskResultUseCase.headers library route.taskResult run.attempt
          (route.destination.eventFilters.getD []) with
  | error error => rfl
  | ok headers =>
      have nullish : run.answer = .error .nullish := by
        by_contra readable
        exact stops ⟨⟨headers, signed⟩, readable⟩
      simp only [Program.run_settle, run_awaitDeliver, useCaseSystem, nullish,
        DeliverTaskResultUseCase.postOutcome, DeliverTaskResultUseCase.notReceived]

/-- An execution that comes to its `save` settles with what saving a new delivery of the pair
settles with, and leaves what that leaves.
-/
theorem execution_saves (world : World) (comes : run.comesToSave library route)
    : ∃ delivery : Delivery, ∃ failure : Option Thrown,
        delivery.id = run.id.text
        ∧ delivery.taskResultId = route.taskResult.id.text
        ∧ delivery.destinationId = route.destination.id
        ∧ delivery.retryCount = 1
        ∧ delivery.createdAt = some run.runtime.now
        ∧ delivery.nextRetryAt ≠ some none
        ∧ failure ≠ some uniqueViolated
        ∧ execution library route run world
          = match (PrismaDeliveryLogRepository.save delivery []).run
                (prismaTable run.runtime.now) world with
            | (.ok _, after) => (failure.elim (.ok ()) .error, after)
            | (.error error, after) => (.error error, after) := by
  obtain ⟨⟨headers, signed⟩, readable⟩ := comes
  obtain ⟨outcome, settled⟩ := postOutcome_returns library readable
  obtain ⟨delivery, made, id, taskResultId, destinationId, count, created, storable⟩ :=
    DeliverTaskResultUseCase.deliveryOf_spec run.runtime run.id run.attempt run.maxRetries
      outcome route.taskResult.id.nonempty route.destination.idNonempty run.clock
  refine ⟨delivery,
    if outcome.success then
      none
    else
      some (DeliverTaskResultUseCase.deliveryFailed library route.destination.id run.attempt
        run.maxRetries outcome.errorMessage),
    id, taskResultId, destinationId, count, created, storable, ?_, ?_⟩
  · split
    · exact nofun
    · unfold DeliverTaskResultUseCase.deliveryFailed
      split <;> simp [newError, uniqueViolated, builtinError]
  · simp only [execution_eq_deliver, DeliverTaskResultUseCase.deliver, Program.bind_eq,
      Program.run_bind, Program.run_ofResult, signed, Program.run_settle, run_awaitDeliver,
      useCaseSystem, settled, made]
    rcases (PrismaDeliveryLogRepository.save delivery []).run (prismaTable run.runtime.now) world
      with ⟨error | value, after⟩
    · rfl
    · cases outcome.success <;> rfl

/-- An execution that comes to its `save` stores a record in its first attempt, unless there
is a record of the pair.
-/
theorem execution_stores (comes : run.comesToSave library route)
    (fresh : world.delivery? run.id.text = none)
    : (pairRows route world ≠ []
        ∧ (execution library route run world).1 = .error uniqueViolated)
      ∨ (pairRows route world = []
        ∧ (execution library route run world).1 ≠ .error uniqueViolated
        ∧ ∃ row,
            pairRows route (execution library route run world).2 = [row]
            ∧ row.retryCount = 1) := by
  obtain ⟨delivery, failure, id, taskResultId, destinationId, count, created, storable, unlike,
    saved⟩ := execution_saves world comes
  have stored := run_save_new run.runtime.now (id ▸ fresh) storable created
  by_cases taken
      : world.deliveries.any (fun row =>
          row.taskResultId = delivery.taskResultId
          && row.destinationId = delivery.destinationId) = true
  · rw [if_pos taken] at stored
    rw [saved, stored]
    refine .inl ⟨?_, rfl⟩
    obtain ⟨row, member, own⟩ := List.any_eq_true.mp taken
    rw [taskResultId, destinationId] at own
    exact List.ne_nil_of_mem (List.mem_filter.mpr ⟨member, own⟩)
  · rw [if_neg taken] at stored
    rw [saved, stored]
    have none : pairRows route world = [] := by
      refine List.filter_eq_nil_iff.mpr (fun row member own => taken ?_)
      rw [taskResultId, destinationId]
      exact List.any_eq_true.mpr ⟨row, member, own⟩
    refine .inr ⟨none, ?_, ?_⟩
    · cases failure with
      | none => exact nofun
      | some error => exact fun same => unlike (congrArg some (Except.error.inj same))
    · refine ⟨(PrismaDeliveryLogRepository.columns delivery).newRow delivery.nextRetryAt.join
        run.runtime.now run.runtime.now, ?_, count⟩
      simp only [pairRows, List.filter_append] at none ⊢
      rw [none]
      simp [PrismaDeliveryLogRepository.columns, DeliveryUpsert.newRow, taskResultId,
        destinationId]

/-- The executions the table can count: none while the record of the pair counts none, or one
that comes to its `save` while there is no record.
-/
def Countable (library : DeliverLibrary) (route : WebhookRoute) (start : World)
    : List Execution → Prop
  | [] => ∀ row ∈ pairRows route start, row.retryCount = 0
  | [run] => pairRows route start = [] ∧ run.comesToSave library route
  | _ => False

/-- One record counts the executions exactly when there is at most one to count. -/
theorem counts_executions_iff (library : DeliverLibrary) (route : WebhookRoute) (start : World)
    (executions : List Execution) (fresh : FreshDraws library route start executions)
    : CountsExecutions library route start executions
      ↔ Countable library route start executions := by
  cases executions with
  | nil => rfl
  | cons run earlier =>
      have outcome := @execution_stores library route run
        (afterExecutions library route start earlier)
      cases earlier with
      | nil =>
          constructor
          · rintro ⟨uncounted, settled, row, only, counted⟩
            by_cases comes : run.comesToSave library route
            · rcases outcome comes fresh.2 with ⟨_, violated⟩ | ⟨none, _⟩
              · exact absurd violated settled
              · exact ⟨none, comes⟩
            · -- Nothing changed, so the record counts no execution.
              have same := execution_stops start comes
              simp only [afterExecutions, same] at only
              have zero := uncounted row (by simp [only])
              simp [zero] at counted
          · rintro ⟨none, comes⟩
            rcases outcome comes fresh.2 with ⟨some, _⟩ | ⟨_, settled, row, only, counted⟩
            · exact absurd none some
            · have vacuous : ∀ row ∈ pairRows route start, row.retryCount = 0 := by
                rw [show pairRows route start = [] from none]
                exact List.forall_mem_nil _
              exact ⟨vacuous, settled, row, only, counted⟩
      | cons last earlier =>
          refine iff_of_false ?_ id
          rintro ⟨⟨_, _, row, only, counted⟩, settled, next, nextOnly, nextCounted⟩
          by_cases comes : run.comesToSave library route
          · rcases outcome comes fresh.2 with ⟨_, violated⟩ | ⟨none, _⟩
            · exact settled violated
            · rw [none] at only
              exact nomatch only
          · have same :=
              execution_stops (afterExecutions library route start (last :: earlier)) comes
            rw [afterExecutions, same, only] at nextOnly
            obtain rfl : row = next := List.head_eq_of_cons_eq nextOnly
            rw [counted, List.length_cons] at nextCounted
            omega

end

/-! A webhook without settings that answers each post with 200. -/

namespace Webhook

def library : DeliverLibrary where
  numberText
    | .finite value => toString value.num
    | _ => "NaN"
  toNumber
    | .number value => value
    | _ => .nan
  spread
    | .object members => members
    | _ => []
  hmac _ _ := .ok "signature"

def route : WebhookRoute where
  taskResult := {
    id := ⟨"tr-1", by decide⟩
    emailId := ⟨"user@example.com", by decide +kernel⟩
    agentId := ⟨"classifier", by decide +kernel, by decide +kernel⟩
    agentVersion := "1.2.0"
    confidenceScore := ⟨1, by decide, by decide +kernel⟩
    resultPayload := [("data", .string "my-payload")]
    metadata := .object []
    createdAt := 0
    updatedAt := 0
  }
  destination := {
    id := "dest-1"
    eventFilters := none
    enabled := true
    deletedAt := none
    idNonempty := by decide
    type := .webhook
    endpoint := "http://localhost:8080/webhook"
  }
  enabled := rfl
  webhook := rfl

def table : World where
  deliveries := []
  attempts := []
  queue := []
  history := []

/-- An execution that draws this identifier and is answered with 200. -/
def run (attempt : Nat) (id : Uuid) : Execution where
  attempt := .ofInt attempt
  runtime := { now := 0, random := 0, fractional := fun _ => 1 }
  clock := by decide +kernel
  id := id
  answer := .ok (some { status := some 200, durationMs := some 150 })

def first : Execution := run 1 ⟨"delivery-1", by decide⟩

def second : Execution := run 2 ⟨"delivery-2", by decide⟩

end Webhook

/-- A single execution is counted. -/
theorem counts_executions_iff_first
    : CountsExecutions Webhook.library Webhook.route Webhook.table [Webhook.first]
      ↔ Countable Webhook.library Webhook.route Webhook.table [Webhook.first] :=
  counts_executions_iff Webhook.library Webhook.route Webhook.table [Webhook.first]
    ⟨trivial, rfl⟩

/-- The second of two executions, each answered with 200, runs into the constraint. -/
theorem second_execution_violates
    : FreshDraws Webhook.library Webhook.route Webhook.table [Webhook.second, Webhook.first]
      ∧ ¬CountsExecutions Webhook.library Webhook.route Webhook.table
          [Webhook.second, Webhook.first] := by
  refine ⟨⟨⟨trivial, rfl⟩, by decide +kernel⟩, ?_⟩
  rintro ⟨_, settled, _⟩
  exact settled (by decide +kernel)

end QueueForge.Infrastructure
