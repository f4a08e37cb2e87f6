import QueueForge.Worker.StateMachine

/-! What a transition over the delivery repository does, for every target and metadata.
The route decides: each repository method takes the metadata in another position, and some
routes cannot take it at all.
-/

namespace QueueForge.Worker

open QueueForge.Async QueueForge.Js QueueForge.Domain QueueForge.Infrastructure

/-- The state machine over the delivery repository outside a test runner, with or without
an event publisher.
-/
def publishingStateMachine (production : Bool)
    (eventPublisher : Option (StatusEvent → SystemProgram Unit))
    : DeliveryStateMachine SystemSignature := {
  workerStateMachine production with
  eventPublisher := eventPublisher
}

/-- The metadata a target's route accepts. The dedicated routes need some, whose
`completedAt` or `lastError` is not taken for a transaction client and whose date the
database accepts; the general one takes none at all.
-/
def Routable (parseDateTime : String → Option Int) (target : DeliveryStatus)
    (metadata : Option Metadata)
    : Prop :=
  match target with
  | .completed =>
      (Metadata.nonempty metadata).isSome = true
      ∧ parseTxAndContext (Metadata.get metadata "completedAt") = none
  | .scheduledRetry =>
      (Metadata.nonempty metadata).isSome = true
      ∧ parseTxAndContext (Metadata.get metadata "lastError") = none
      ∧ acceptsDateTime parseDateTime (Metadata.get metadata "nextRetryAt") = true
  | _ => metadata = none

/-- What a transition owes: a move the table admits returns with the target stored, any
other throws `InvalidDeliveryStateError` and leaves the row.
-/
def TransitionKept (id : String) (target : DeliveryStatus) (row : DeliveryRow)
    (outcome : Settled Thrown (Option DeliveryRow) × World)
    : Prop :=
  if admitsTransition row.status target then
    (∃ written, outcome.1 = .ok written) ∧ outcome.2.status? id = some target
  else
    outcome.1 = .error (.error (invalidDeliveryStateError row.status target))
    ∧ outcome.2.delivery? id = some row

/-- The object the route of a target hands to the repository as a transaction client. -/
def routeClient (target : DeliveryStatus) (metadata : Option Metadata)
    : Option (List String) :=
  match target with
  | .completed => parseTxAndContext (Metadata.get metadata "completedAt")
  | .scheduledRetry => parseTxAndContext (Metadata.get metadata "lastError")
  | _ => metadata.map (List.map Prod.fst)

/-- The update the route of a target asks for. -/
def routeData (target : DeliveryStatus) (metadata : Option Metadata) : DeliveryUpdate where
  status := some target
  nextRetryAt :=
    match target with
    | .scheduledRetry => Metadata.get metadata "nextRetryAt"
    | _ => .undefined

/-- The targets whose route evaluates the options argument. -/
def evaluatesOptions : DeliveryStatus → Bool
  | .completed | .scheduledRetry => true
  | _ => false

/-- A routable target evaluates its options, names no client and has an accepted date. -/
theorem routable_iff {parseDateTime : String → Option Int} {target : DeliveryStatus}
    {metadata : Option Metadata}
    : Routable parseDateTime target metadata
      ↔ (evaluatesOptions target = true → (Metadata.nonempty metadata).isSome = true)
        ∧ routeClient target metadata = none
        ∧ acceptsDateTime parseDateTime (routeData target metadata).nextRetryAt = true := by
  cases target <;> simp [Routable, evaluatesOptions, routeClient, routeData, acceptsDateTime]

section
variable {env : Environment} {process : Nat} {production : Bool}
  {eventPublisher : Option (StatusEvent → SystemProgram Unit)} {world : World}
  {id : String} {target : DeliveryStatus} {metadata : Option Metadata} {row : DeliveryRow}

/-- Once the options are settled, every route is one update through its client. -/
theorem write_routed (found : Option DeliveryRow)
    (options
      : evaluatesOptions target = true → (Metadata.nonempty metadata).isSome = true)
    : (publishingStateMachine production eventPublisher).write id target metadata found
      = some <$>
          executeQuery production
            (updateDelivery (routeClient target metadata) id (routeData target metadata)) := by
  cases target with
  | completed =>
      obtain ⟨settled, given⟩ := Option.isSome_iff_exists.mp (options rfl)
      simp only [DeliveryStateMachine.write, DeliveryStateMachine.optionsArg, given]
      rfl
  | scheduledRetry =>
      obtain ⟨settled, given⟩ := Option.isSome_iff_exists.mp (options rfl)
      simp only [DeliveryStateMachine.write, DeliveryStateMachine.optionsArg, given]
      rfl
  | _ => rfl

/-- Without metadata a dedicated route reads the name only test runners define. -/
theorem write_unrouted (found : Option DeliveryRow)
    (dedicated : evaluatesOptions target = true)
    (options : (Metadata.nonempty metadata).isSome = false)
    : (publishingStateMachine production eventPublisher).write id target metadata found
      = .fail (newReferenceError "expect") := by
  have missing := Option.not_isSome_iff_eq_none.mp (Bool.eq_false_iff.mp options)
  cases target with
  | completed =>
      simp only [DeliveryStateMachine.write, DeliveryStateMachine.optionsArg, missing]
      rfl
  | scheduledRetry =>
      simp only [DeliveryStateMachine.write, DeliveryStateMachine.optionsArg, missing]
      rfl
  | _ => contradiction

/-- A routable write returns with the target stored. -/
theorem run_write_routable (faultless : env.Faultless) (found : Option DeliveryRow)
    (stored : world.delivery? id = some row)
    (routable : Routable env.parseDateTime target metadata)
    : ∃ written after,
        ((publishingStateMachine production eventPublisher).write id target metadata
            found).run (system env process) world
          = (.ok written, after)
        ∧ after.status? id = some target := by
  obtain ⟨options, client, accepted⟩ := routable_iff.mp routable
  obtain ⟨changed, after, updated, status, kept⟩ :=
    run_updateDelivery production process world id faultless stored accepted
  refine ⟨some changed, after, ?_, ?_⟩
  · simp only [write_routed found options, client, Program.map_eq, Program.run_bind, updated,
      Program.run_done]
  · exact World.status?_eq_some.mpr ⟨changed, kept, status⟩

/-- A write that is not routable throws and changes no row. -/
theorem run_write_not_routable (faultless : env.Faultless) (found : Option DeliveryRow)
    (routable : ¬Routable env.parseDateTime target metadata)
    : ∃ error after,
        ((publishingStateMachine production eventPublisher).write id target metadata
            found).run (system env process) world
          = (.error error, after)
        ∧ after.deliveries = world.deliveries := by
  by_cases options
      : evaluatesOptions target = true → (Metadata.nonempty metadata).isSome = true
  case neg =>
    obtain ⟨dedicated, missing⟩ := Classical.not_imp.mp options
    refine ⟨newReferenceError "expect", world, ?_, rfl⟩
    rw [write_unrouted found dedicated (Bool.eq_false_iff.mpr missing)]
    rfl
  case pos =>
    rw [write_routed found options]
    cases client : routeClient target metadata with
    | some keys =>
        obtain ⟨error, failed, _⟩ :=
          run_updateDelivery_data production env process world id
            (routeData target metadata) keys
        refine ⟨.error error, world, ?_, rfl⟩
        simp only [Program.map_eq, Program.run_bind, failed]
    | none =>
        have rejected
            : acceptsDateTime env.parseDateTime (routeData target metadata).nextRetryAt
              = false := by
          refine Bool.eq_false_iff.mpr (fun accepted => routable ?_)
          exact routable_iff.mpr ⟨options, client, accepted⟩
        obtain ⟨after, failed, kept⟩ :=
          run_updateDelivery_rejected production process world id faultless rejected
        refine ⟨mapDatabaseError production argumentRejected, after, ?_, kept⟩
        simp only [Program.map_eq, Program.run_bind, failed]

/-- A publisher that touches no delivery, whatever it settles with. -/
def Quiet (env : Environment) (process : Nat)
    (eventPublisher : Option (StatusEvent → SystemProgram Unit))
    : Prop :=
  ∀ publish ∈ eventPublisher, ∀ event world,
    ((publish event).run (system env process) world).2.deliveries = world.deliveries

/-- Publishing always returns and, with a quiet publisher, changes no row. -/
theorem run_publish (production : Bool) (quiet : Quiet env process eventPublisher)
    (world : World) (deliveryId : String) (current target : DeliveryStatus)
    : ∃ after,
        ((publishingStateMachine production eventPublisher).publish deliveryId current
            target).run (system env process) world
          = (.ok (), after)
        ∧ after.deliveries = world.deliveries := by
  cases given : eventPublisher with
  | none => exact ⟨world, rfl, rfl⟩
  | some publish =>
      have kept := quiet publish given
      simp only [DeliveryStateMachine.publish, publishingStateMachine, workerStateMachine,
        Program.tryCatch_eq, Program.bind_eq, Program.pure_eq, Program.run_catchError,
        Program.run_bind, run_awaitNow]
      -- the publisher may resolve or reject, and both end in the same answer
      generalize ran : (publish _).run (system env process) _ = outcome
      have unchanged : outcome.2.deliveries = world.deliveries := by
        rw [← ran, kept]
        rfl
      obtain ⟨_ | _, after⟩ := outcome
      · exact ⟨after, rfl, unchanged⟩
      · exact ⟨after, rfl, unchanged⟩

/-- The lookup of a stored delivery finds its row. -/
theorem run_find (faultless : env.Faultless) (stored : world.delivery? id = some row)
    : ((publishingStateMachine production eventPublisher).find id).run
        (system env process) world
      = (.ok (some row),
          world.log process (.database (.deliveryFindUnique id)) (.ok (some row))) := by
  have looked
      : (DeliveryRepository.findById production id).run (system env process) world
        = (.ok (world.delivery? id),
            world.log process (.database (.deliveryFindUnique id))
              (.ok (world.delivery? id))) :=
    run_findById production faultless
  rw [stored] at looked
  simp only [DeliveryStateMachine.find, publishingStateMachine, workerStateMachine,
    deliveryRepositoryStore, Program.bind_eq, Program.run_bind, looked]
  rfl

/-- A transition looks the delivery up, checks the move, and writes. -/
theorem run_transition (faultless : env.Faultless) (stored : world.delivery? id = some row)
    : ((publishingStateMachine production eventPublisher).transition id target
          metadata).run (system env process) world
      = let looked :=
          world.log process (.database (.deliveryFindUnique id)) (.ok (some row))
        if admitsTransition row.status target then
          (((publishingStateMachine production eventPublisher).write id target metadata
              (some row)).bind (fun written =>
            ((publishingStateMachine production eventPublisher).publish id row.status
              target).bind (fun _ => .done written))).run (system env process) looked
        else
          (.error (.error (invalidDeliveryStateError row.status target)), looked) := by
  rw [DeliveryStateMachine.transition, Program.bind_eq, Program.run_bind,
    run_find faultless stored]
  simp only [Option.map_some, Option.getD_some]
  cases admitsTransition row.status target <;> rfl

/-- With a working database, a transition keeps its contract exactly when the table
rejects it or its metadata is routable.
-/
theorem transition_over_repository (faultless : env.Faultless)
    (quiet : Quiet env process eventPublisher) (stored : world.delivery? id = some row)
    : TransitionKept id target row
        (((publishingStateMachine production eventPublisher).transition id target
          metadata).run (system env process) world)
      ↔ (admitsTransition row.status target = true
        → Routable env.parseDateTime target metadata) := by
  rw [run_transition faultless stored]
  cases admitted : admitsTransition row.status target with
  | false =>
      refine iff_of_true ?_ (fun impossible => by cases impossible)
      simp [TransitionKept, admitted, stored]
  | true =>
      have lookedUp
          : (world.log process (.database (.deliveryFindUnique id))
              (.ok (some row))).delivery? id = some row :=
        stored
      simp only [if_true, TransitionKept, admitted, true_implies]
      constructor
      · rintro ⟨⟨written, returned⟩, _⟩
        by_contra routable
        obtain ⟨error, after, failed, _⟩ :=
          run_write_not_routable faultless (some row) routable
        rw [Program.run_bind, failed] at returned
        cases returned
      · intro routable
        obtain ⟨written, after, wrote, status⟩ :=
          run_write_routable faultless (some row) lookedUp routable
        obtain ⟨final, published, unchanged⟩ :=
          run_publish production quiet after id row.status target
        rw [Program.run_bind, wrote]
        simp only [Program.run_bind, published, Program.run_done]
        refine ⟨⟨written, rfl⟩, ?_⟩
        simpa only [World.status?, World.delivery?, unchanged] using status

end

/-- Completing a delivery in PROCESSING with the metadata of `markCompleted` keeps it. -/
theorem transition_over_repository_completed
    : TransitionKept "delivery" .completed (DeliveryRow.fresh .processing)
        (((publishingStateMachine true none).transition "delivery" .completed
          (some [("completedAt", .date (some 5)), ("latencyMs", .number 5)])).run
          (system (.answering fun _ => .error .nullish) 0)
          (World.ofDelivery (DeliveryRow.fresh .processing))) :=
  (transition_over_repository (Environment.answering_faultless _)
    (fun _ given => absurd given (Option.not_mem_none _)) rfl).mpr (fun _ => ⟨rfl, rfl⟩)

/-- Dead-lettering a delivery in PROCESSING with a failure reason breaks it: the reason
reaches the repository as a transaction client.
-/
theorem transition_with_reason_throws
    : ¬TransitionKept "delivery" .failedDlq (DeliveryRow.fresh .processing)
        (((publishingStateMachine true none).transition "delivery" .failedDlq
          (some [("failureReason", .string "Not Found")])).run
          (system (.answering fun _ => .error .nullish) 0)
          (World.ofDelivery (DeliveryRow.fresh .processing))) := by
  rintro ⟨⟨written, returned⟩, _⟩
  change Except.error _ = Except.ok written at returned
  exact nomatch returned

end QueueForge.Worker
