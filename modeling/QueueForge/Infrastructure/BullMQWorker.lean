import QueueForge.Infrastructure.RepeatedDelivery

/-! `BullMQWorker` runs `DeliverTaskResultUseCase` for a job, and BullMQ runs the job again while it
throws. The use case saves a delivery of its own in each attempt, so that the job ends by its first
attempt that stores one.
-/

namespace QueueForge.Infrastructure

open QueueForge.Async QueueForge.Js QueueForge.Domain QueueForge.Application

/-- A job of the queue `delivery-queue`. -/
structure DeliveryJob where
  taskResultId : String
  destinationId : String
  attempts : Nat
  positive : 0 < attempts

/-- The job that is added: BullMQ retries it by itself. -/
def BullMQService.enqueueDelivery (taskResultId destinationId : String) : DeliveryJob where
  taskResultId := taskResultId
  destinationId := destinationId
  attempts := 5
  positive := by decide

inductive BullMQCall where
  | execute (taskResultId destinationId : String) (attempt maxRetries : Number)
  | countAttempt (destination status attempt : String)

abbrev BullMQSignature : Signature where
  Op := BullMQCall
  Result _ := Unit

abbrev BullMQProgram (α : Type) : Type := Program BullMQSignature Thrown α

/-- Await a call of the worker. -/
def awaitBullMQ (call : BullMQCall) : BullMQProgram Unit :=
  Program.perform (S := BullMQSignature) call

/-- The worker logs the message of what the use case throws, and throws it on. -/
def BullMQWorker.rethrown : Thrown → Thrown
  | .nullish => newTypeError "Cannot read properties of undefined (reading 'message')"
  | error => error

/-- One attempt of a job: the use case decides it, and the worker counts it. -/
def BullMQWorker.processJob (numberText : Number → String) (job : DeliveryJob)
    (attemptsMade : Nat)
    : BullMQProgram Unit := do
  let attempt := Number.ofInt (attemptsMade + 1)
  let maxRetries := Number.ofInt job.attempts
  let settled ←
    ((awaitBullMQ (.execute job.taskResultId job.destinationId attempt maxRetries)).catchError
      (fun error => throw (rethrown error))).settle
  let status := if settled.isOk then "success" else "fail"
  awaitBullMQ (.countAttempt job.destinationId status (numberText attempt))
  Program.ofResult settled

/-- What an attempt meets: the clock and the identifier drawn, how the post settles, and what the
database rejects a save with where it is away.
-/
structure Circumstances where
  runtime : Runtime
  clock : Date.ofNumber (.ofInt (runtime.now + 5000)) ≠ none
  id : Uuid
  answer : Settled Thrown (Option HttpResponse)
  saveFault : Option Thrown := none

structure PostedRequest where
  url : String
  payload : List (String × Json)
  headers : List (String × Json)
  timeoutMs : Number

/-- What an attempt posts: nothing if the secret cannot sign. -/
def WebhookRoute.posted (library : DeliverLibrary) (route : WebhookRoute) (attempt : Number)
    : List PostedRequest :=
  let filters := route.destination.eventFilters.getD []
  match DeliverTaskResultUseCase.headers library route.taskResult attempt filters with
  | .ok headers => [⟨route.destination.endpoint, route.taskResult.resultPayload, headers,
      DeliverTaskResultUseCase.timeoutMs library filters⟩]
  | .error _ => []

/-- The table, with what has been posted and what the worker has counted. -/
structure DeliveryWorld where
  table : World
  posts : List PostedRequest
  counted : List (String × String × String)

namespace Circumstances

variable (library : DeliverLibrary) (route : WebhookRoute) (met : Circumstances)

/-- The execution of the use case in an attempt. -/
def execution (attempt maxRetries : Number) : Execution where
  attempt := attempt
  maxRetries := maxRetries
  runtime := met.runtime
  clock := met.clock
  id := met.id
  answer := met.answer

/-- The collaborators of the use case, with a note of each post. -/
def collaborators : Handler DeliverSignature Thrown DeliveryWorld
  | .post url payload headers timeoutMs, world =>
      (met.answer, {
        world with
        posts := world.posts ++ [⟨url, payload, headers, timeoutMs⟩]
      })
  | .save delivery, world =>
      match met.saveFault with
      | some error => (.error error, world)
      | none =>
          let saved := useCaseSystem route (met.execution 0 0) (.save delivery) world.table
          (saved.1, { world with table := saved.2 })
  | call, world => ((useCaseSystem route (met.execution 0 0) call world.table).1, world)

/-- The worker's calls in an attempt. -/
def serve : Handler BullMQSignature Thrown DeliveryWorld
  | .execute taskResultId destinationId attempt maxRetries, world =>
      (DeliverTaskResultUseCase.execute library taskResultId destinationId attempt maxRetries).run
        (met.collaborators route) world
  | .countAttempt destination status attempt, world =>
      (.ok (), { world with counted := world.counted ++ [(destination, status, attempt)] })

/-- The post is answered with a status of 2xx. -/
def received : Bool :=
  match DeliverTaskResultUseCase.postOutcome library met.answer with
  | .ok outcome => outcome.success
  | .error _ => false

/-- The attempt comes to its `save`, and the database takes it. -/
def stores (attempt : Number) : Bool :=
  (DeliverTaskResultUseCase.headers library route.taskResult attempt
    (route.destination.eventFilters.getD [])).isOk
  && (DeliverTaskResultUseCase.postOutcome library met.answer).isOk
  && met.saveFault.isNone

end Circumstances

/-- The status of what an attempt stores. -/
def Circumstances.statusStored (library : DeliverLibrary) (met : Circumstances)
    (attempt maxRetries : Number)
    : DeliveryStatus :=
  if met.received library then
    .completed
  else if maxRetries.le attempt then
    .failedDlq
  else
    .scheduledRetry

/-- The table with one more delivery. -/
def World.addDelivery (world : World) (row : DeliveryRow) : World := {
  world with
  deliveries := world.deliveries ++ [row]
}

/-- What an attempt leaves of the table: it completes with the first record of the pair if the
post is answered with 2xx, and fails otherwise.
-/
inductive Attempted (library : DeliverLibrary) (route : WebhookRoute) (met : Circumstances)
    (attempt maxRetries : Number) (before : World)
    : Bool → World → Prop where
  | stored (row : DeliveryRow) (stores : met.stores library route attempt = true)
    (first : pairRows route before = [])
    (id : row.id = met.id.text) (count : row.retryCount = 1)
    (status : row.status = met.statusStored library attempt maxRetries)
    (rows : pairRows route (before.addDelivery row) = [row])
    : Attempted library route met attempt maxRetries before (met.received library)
        (before.addDelivery row)
  | rejected (unstored : met.stores library route attempt = false ∨ pairRows route before ≠ [])
    : Attempted library route met attempt maxRetries before false before

section
variable {library : DeliverLibrary} {route : WebhookRoute} {met : Circumstances}
  {attempt maxRetries : Number} {world : DeliveryWorld}

/-- The save of an attempt whose delivery is made. -/
theorem run_saved {delivery : Delivery} {outcome : PostOutcome}
    (readable : DeliverTaskResultUseCase.postOutcome library met.answer = .ok outcome)
    (signed
      : (DeliverTaskResultUseCase.headers library route.taskResult attempt
          (route.destination.eventFilters.getD [])).isOk = true)
    (made
      : DeliverTaskResultUseCase.deliveryOf met.runtime met.id route.taskResult.id.text
          route.destination.id attempt maxRetries outcome = .ok delivery)
    (fresh : world.table.delivery? met.id.text = none)
    : ∃ saved table,
        met.collaborators route (.save delivery) world = (saved, { world with table := table })
        ∧ Attempted library route met attempt maxRetries world.table
            (saved.isOk && outcome.success) table := by
  cases away : met.saveFault with
  | some error =>
      refine ⟨.error error, world.table, ?_, .rejected (.inl ?_)⟩
      · simp only [Circumstances.collaborators, away]
      · simp only [Circumstances.stores, away, Option.isNone_some, Bool.and_false]
  | none =>
      obtain ⟨_, same, id, taskResultId, destinationId, count, created, storable⟩ :=
        DeliverTaskResultUseCase.deliveryOf_spec met.runtime met.id attempt maxRetries outcome
          route.taskResult.id.nonempty route.destination.idNonempty met.clock
      cases made.symm.trans same
      have stored := @run_save_new world.table delivery met.runtime.now _ (id ▸ fresh) storable
        created
      by_cases taken
          : world.table.deliveries.any (fun row =>
              row.taskResultId = delivery.taskResultId
              && row.destinationId = delivery.destinationId) = true
      · rw [if_pos taken] at stored
        refine ⟨.error uniqueViolated, world.table, ?_, .rejected (.inr ?_)⟩
        · simp only [Circumstances.collaborators, away, useCaseSystem, Circumstances.execution,
            stored]
        · obtain ⟨row, member, own⟩ := List.any_eq_true.mp taken
          rw [taskResultId, destinationId] at own
          exact List.ne_nil_of_mem (List.mem_filter.mpr ⟨member, own⟩)
      · rw [if_neg taken] at stored
        have first : pairRows route world.table = [] := by
          refine List.filter_eq_nil_iff.mpr (fun row member own => taken ?_)
          rw [taskResultId, destinationId]
          exact List.any_eq_true.mpr ⟨row, member, own⟩
        have received : met.received library = outcome.success := by
          simp only [Circumstances.received, readable]
        have stores : met.stores library route attempt = true := by
          simp only [Circumstances.stores, signed, readable, away, Option.isNone_none,
            Bool.true_and, Bool.and_true]
          rfl
        let row :=
          (PrismaDeliveryLogRepository.columns delivery).newRow delivery.nextRetryAt.join
            met.runtime.now met.runtime.now
        have attempted
            : Attempted library route met attempt maxRetries world.table (met.received library)
                (world.table.addDelivery row) := by
          refine .stored row stores first id count ?_ ?_
          · rw [Circumstances.statusStored, received]
            exact DeliverTaskResultUseCase.deliveryOf_status met.runtime made
          · simp only [pairRows, World.addDelivery, List.filter_append] at first ⊢
            rw [first]
            simp [row, PrismaDeliveryLogRepository.columns, DeliveryUpsert.newRow, taskResultId,
              destinationId]
        rw [received] at attempted
        refine ⟨.ok (), _, ?_, attempted⟩
        simp only [Circumstances.collaborators, away, useCaseSystem, Circumstances.execution,
          stored, row, World.addDelivery]

/-- An attempt posts once if the secret can sign, and settles by what is stored. -/
theorem run_execute (fresh : world.table.delivery? met.id.text = none)
    : ∃ result table,
        (DeliverTaskResultUseCase.execute library route.taskResult.id.text route.destination.id
            attempt maxRetries).run (met.collaborators route) world
          = (result, {
              world with
              table := table
              posts := world.posts ++ route.posted library attempt
            })
        ∧ Attempted library route met attempt maxRetries world.table result.isOk table := by
  have found
      : (DeliverTaskResultUseCase.execute library route.taskResult.id.text route.destination.id
            attempt maxRetries).run (met.collaborators route) world
        = (DeliverTaskResultUseCase.deliver library route.taskResult route.destination
              route.taskResult.id.text route.destination.id attempt maxRetries).run
            (met.collaborators route) world := by
    simp only [DeliverTaskResultUseCase.execute, Program.bind_eq, Program.run_bind,
      run_awaitDeliver, Circumstances.collaborators, useCaseSystem, if_true, route.enabled,
      route.webhook, DestinationType.kind, Bool.true_eq_false, if_false, ne_eq,
      not_true_eq_false]
  rw [found]
  simp only [DeliverTaskResultUseCase.deliver, Program.bind_eq, Program.run_bind,
    Program.run_ofResult]
  cases signed
      : DeliverTaskResultUseCase.headers library route.taskResult attempt
          (route.destination.eventFilters.getD []) with
  | error error =>
      refine ⟨.error error, world.table, ?_, .rejected (.inl ?_)⟩
      · simp only [WebhookRoute.posted, signed, List.append_nil]
      · simp only [Circumstances.stores, signed, Except.isOk, Except.toBool, Bool.false_and]
  | ok headers =>
      cases readable : DeliverTaskResultUseCase.postOutcome library met.answer with
      | error error =>
          refine ⟨.error error, world.table, ?_, .rejected (.inl ?_)⟩
          · simp only [Program.run_settle, run_awaitDeliver, Circumstances.collaborators, readable,
              WebhookRoute.posted, signed]
          · simp only [Circumstances.stores, readable, Except.isOk, Except.toBool, Bool.and_false,
              Bool.false_and]
      | ok outcome =>
          obtain ⟨delivery, made, _⟩ :=
            DeliverTaskResultUseCase.deliveryOf_spec met.runtime met.id attempt maxRetries outcome
              route.taskResult.id.nonempty route.destination.idNonempty met.clock
          obtain ⟨saved, table, ran, attempted⟩ :=
            @run_saved library route met attempt maxRetries
              { world with posts := world.posts ++ route.posted library attempt } delivery
              outcome readable (by rw [signed]; rfl) made fresh
          refine ⟨saved.bind fun _ =>
              if outcome.success then
                .ok ()
              else
                .error (DeliverTaskResultUseCase.deliveryFailed library route.destination.id
                  attempt maxRetries outcome.errorMessage),
            table, ?_, ?_⟩
          · have posted
                : met.collaborators route
                    (.post route.destination.endpoint route.taskResult.resultPayload headers
                      (DeliverTaskResultUseCase.timeoutMs library
                        (route.destination.eventFilters.getD []))) world
                  = (met.answer,
                      { world with posts := world.posts ++ route.posted library attempt }) := by
              simp only [Circumstances.collaborators, WebhookRoute.posted, signed]
            have clock : ∀ between : DeliveryWorld,
                met.collaborators route .runtime between = (.ok met.runtime, between) :=
              fun _ => rfl
            have drawn : ∀ between : DeliveryWorld,
                met.collaborators route .randomUUID between = (.ok met.id, between) :=
              fun _ => rfl
            simp only [Program.run_settle, run_awaitDeliver, posted, readable, clock, drawn, made,
              ran]
            cases saved with
            | error error => rfl
            | ok _ => cases outcome.success <;> rfl
          · cases saved with
            | error error => exact attempted
            | ok _ =>
                cases success : outcome.success <;> simp only [success] at attempted ⊢ <;>
                  exact attempted

end

section
variable (library : DeliverLibrary) (route : WebhookRoute) (met : Nat → Circumstances)

variable {library route met}

end

section
variable {library : DeliverLibrary} {route : WebhookRoute} {met : Nat → Circumstances}

end

namespace Webhook

/-- An identifier for each attempt. -/
def drawn (made : Nat) : String :=
  String.ofList ('d' :: List.replicate made 'd')

def job : DeliveryJob :=
  BullMQService.enqueueDelivery route.taskResult.id.text route.destination.id

end Webhook

end QueueForge.Infrastructure
