import QueueForge.Worker.StoredOutcome
import QueueForge.Worker.TransitionOutcome

/-! Dead letters of the wired worker, over a working database.
The dead-letter transition hands its metadata to the repository in the place of a
transaction client, so no run ever stores one; the internal error it meets is retried.
-/

namespace QueueForge.Worker

open QueueForge.Async QueueForge.Js QueueForge.Domain QueueForge.Infrastructure

/-- The targets the delivery repository stores for the state machine. -/
def storesTarget : DeliveryStatus → Bool
  | .failedDlq => false
  | _ => true

section
variable {env : Environment}

/-- A call behind a recorded attempt leaves every stored status. -/
theorem status?_attemptCall {call : SystemCall} (attempt : isAttemptCall call = true)
    (process : Nat) (world : World) (id : String)
    : (system env process call world).2.status? id = world.status? id := by
  cases update : call.isUpdate with
  | false =>
      have unchanged := deliveries_system env process world update
      simp only [World.status?, World.delivery?, unchanged]
  | true =>
      obtain ⟨deliveryId, data, rfl⟩
          : ∃ deliveryId data, call = .database (.deliveryUpdate deliveryId data) := by
        cases call with
        | database call => cases call <;> first | exact ⟨_, _, rfl⟩ | contradiction
        | _ => contradiction
      have unwritten : data.status = none := Option.isNone_iff_eq_none.mp attempt
      rcases delivery?_system_update env process world deliveryId data with
        ⟨_, unchanged⟩ | ⟨row, changed, stored, _, status, looked⟩
      · simp only [World.status?, World.delivery?, unchanged]
      · rw [unwritten] at status
        simp only [World.status?, looked]
        split
        · rename_i same
          rw [same, stored]
          exact congrArg some status
        · rfl

/-- A transition of the wired state machine moves the stored delivery, where the metadata is
routable or the target is FAILED_DLQ.
-/
theorem movesStored_transition (faultless : env.Faultless) (process : Nat)
    (production : Bool) (id : String) (target : DeliveryStatus) (metadata : Option Metadata)
    (routable : target ≠ .failedDlq → Routable env.parseDateTime target metadata)
    (described : target = .failedDlq → metadata.isSome = true)
    : MovesStored (system env process) World.status? storesTarget id target
        (((workerStateMachine production).transition id target metadata).bind
          (fun _ => .done ())) := by
  intro world found stored
  obtain ⟨row, lookup, rfl⟩ := World.status?_eq_some.mp stored
  have unpublished : workerStateMachine production = publishingStateMachine production none :=
    rfl
  rw [unpublished, Program.run_bind, run_transition faultless lookup]
  by_cases admitted : admitsTransition row.status target = true
  · rw [if_pos admitted]
    by_cases dead : target = .failedDlq
    · subst dead
      obtain ⟨reason, rfl⟩ := Option.isSome_iff_exists.mp (described rfl)
      obtain ⟨error, failed, server⟩ :=
        run_updateDelivery_data production env process
          (world.log process (.database (.deliveryFindUnique id)) (.ok (some row))) id
          (routeData .failedDlq (some reason)) (reason.map Prod.fst)
      have wrote
          : ((publishingStateMachine production none).write id .failedDlq (some reason)
                (some row)).run (system env process)
              (world.log process (.database (.deliveryFindUnique id)) (.ok (some row)))
            = (.error (.error error),
                world.log process (.database (.deliveryFindUnique id)) (.ok (some row))) := by
        -- the route takes the metadata for a client
        have client : routeClient .failedDlq (some reason) = some (reason.map Prod.fst) := rfl
        have general : ¬evaluatesOptions .failedDlq = true := Bool.false_ne_true
        rw [write_routed (some row) (fun dedicated => absurd dedicated general),
          Program.map_eq, Program.run_bind, client, failed]
      refine ⟨{ status := row.status }, ?_, ?_⟩
      · rw [Moved, if_pos admitted, Program.run_bind, wrote]
        exact ⟨⟨error, rfl, server⟩, rfl⟩
      · rw [Program.run_bind, wrote]
        exact stored
    · have looked
          : (world.log process (.database (.deliveryFindUnique id))
              (.ok (some row))).delivery? id = some row :=
        lookup
      obtain ⟨written, after, wrote, kept⟩
          : ∃ written after,
              ((publishingStateMachine production none).write id target metadata
                  (some row)).run (system env process)
                  (world.log process (.database (.deliveryFindUnique id)) (.ok (some row)))
                = (.ok written, after)
              ∧ after.status? id = some target :=
        run_write_routable faultless (some row) looked (routable dead)
      have stores : storesTarget target = true := by
        cases target <;> first | rfl | contradiction
      refine ⟨{ status := target }, ?_, ?_⟩
      · rw [Moved, if_pos admitted, if_pos stores, Program.run_bind, wrote]
        exact ⟨rfl, rfl⟩
      · rw [Program.run_bind, wrote]
        exact kept
  · refine ⟨{ status := row.status }, ?_, ?_⟩
    · rw [Moved, if_neg admitted, if_neg admitted]
      exact ⟨rfl, rfl⟩
    · rw [if_neg admitted]
      exact stored

/-- So does one that reads the clock first. -/
theorem movesStored_transition_at (faultless : env.Faultless) (process : Nat)
    (production : Bool) (id : String) (target : DeliveryStatus)
    (metadataAt : Int → Option Metadata)
    (routable
      : ∀ time, target ≠ .failedDlq → Routable env.parseDateTime target (metadataAt time))
    (described : ∀ time, target = .failedDlq → (metadataAt time).isSome = true)
    : MovesStored (system env process) World.status? storesTarget id target
        ((awaitNow.bind (fun time =>
          (workerStateMachine production).transition id target (metadataAt time))).bind
            (fun _ => .done ())) := by
  intro world found stored
  have moved :=
    movesStored_transition faultless process production id target
      (metadataAt (env.clock world)) (routable _) (described _)
  rw [Program.bind_assoc, Program.run_bind, run_awaitNow]
  exact moved (world.log process .now (.ok (env.clock world))) found stored

/-- Over a database without faults the wired parts do what the contract of a run says, but
store no dead letters.
-/
theorem workerParts_runParts (faultless : env.Faultless) (process : Nat)
    (production logger : Bool)
    : RunParts (workerParts production logger) (system env process) World.status?
        storesTarget where
  finds := by
    intro world id found stored
    obtain ⟨row, lookup, _⟩ := World.status?_eq_some.mp stored
    have looked
        : (DeliveryRepository.findById production id).run (system env process) world
          = (.ok (world.delivery? id),
              world.log process (.database (.deliveryFindUnique id))
                (.ok (world.delivery? id))) :=
      run_findById production faultless
    have loads
        : (workerParts production logger).findDelivery id
          = (DeliveryRepository.findById production id).bind
              (fun row => .done (row.map .ofRow)) :=
      rfl
    rw [lookup] at looked
    rw [loads, Program.run_bind, looked]
    exact ⟨.ofRow row, _, rfl, World.delivery?_id lookup, fun _ => rfl⟩
  clock := by
    intro world id
    have ran : (workerParts production logger).clock = awaitNow := rfl
    rw [ran, run_awaitNow]
    rfl
  external := by
    intro call world id
    have performed
        : (workerParts production logger).external call
          = Program.perform (S := SystemSignature) (.external call) :=
      rfl
    rw [performed, Program.run_perform]
    rfl
  attemptSuccess := by
    intro id latencyMs response world other
    have recorded
        : ((workerParts production logger).attemptSuccess id latencyMs response).Awaits
            (fun call => isAttemptCall call = true) :=
      (record_awaits production logger id _).bind (fun _ => trivial)
    exact recorded.run
      (fun call world attempt kept => (status?_attemptCall attempt process world other).trans kept)
      rfl
  attemptFailure := by
    intro id latencyMs statusCode error world other
    have recorded
        : ((workerParts production logger).attemptFailure id latencyMs statusCode
            error).Awaits (fun call => isAttemptCall call = true) :=
      (record_awaits production logger id _).bind (fun _ => trivial)
    exact recorded.run
      (fun call world attempt kept => (status?_attemptCall attempt process world other).trans kept)
      rfl
  markProcessing := fun id =>
    movesStored_transition faultless process production id .processing none
      (fun _ => rfl) nofun
  markCompleted := fun id latencyMs =>
    movesStored_transition_at faultless process production id .completed
      (fun time => some [
        ("completedAt", .date (some time)),
        ("latencyMs", .number (.ofInt latencyMs))
      ])
      (fun _ _ => ⟨rfl, rfl⟩) nofun
  scheduleRetry := fun id delayMs error =>
    movesStored_transition_at faultless process production id .scheduledRetry
      (fun time => some [
        ("nextRetryAt", .date (some (time + delayMs))),
        ("lastError", .string (DeliveryStateMachine.errorText error))
      ])
      (fun _ _ => ⟨rfl, rfl, rfl⟩) nofun
  moveToDeadLetterQueue := fun id reason =>
    movesStored_transition_at faultless process production id .failedDlq
      (fun time => some [("failedAt", .date (some time)), ("failureReason", reason)])
      (fun _ distinct => absurd rfl distinct) (fun _ _ => rfl)

namespace DeliveryExecutor

/-- Without a store of dead letters, a run that returns after a failure that is not retried
has scheduled a retry all the same.
-/
theorem executeWithResilience_retries (config : ExecutorConfig)
    (deliveryOrId : DeliveryArgument) (destinationArg : Option Infrastructure.Destination)
    (found : DeliveryStatus)
    : (executeWithResilience config deliveryOrId destinationArg).Meets
        (runContract (argumentId deliveryOrId) storesTarget) { status := found }
        (fun outcome after =>
          ∀ result, outcome = .ok result → after.failed = true → after.status = .scheduledRetry)
    := by
  by_cases loadable : Loadable config deliveryOrId
  · refine (executeWithResilience_left config _ storesTarget rfl loadable destinationArg
      found).mono ?_
    intro outcome after left result returned failed
    obtain ⟨closed, opened⟩ := left result returned
    cases isOpen : after.opened with
    | false => exact (closed isOpen).2 failed rfl
    | true => exact absurd (failed.symm.trans (opened isOpen).1) Bool.noConfusion
  · refine (executeWithResilience_unloaded config _ storesTarget loadable destinationArg
      { status := found }).mono ?_
    intro outcome after unchanged result returned failed
    subst unchanged
    exact nomatch failed

/-- And it never leaves a dead letter it has not found. -/
theorem executeWithResilience_buries_nothing (config : ExecutorConfig)
    (deliveryOrId : DeliveryArgument) (destinationArg : Option Infrastructure.Destination)
    (found : DeliveryStatus)
    : (executeWithResilience config deliveryOrId destinationArg).Meets
        (runContract (argumentId deliveryOrId) storesTarget) { status := found }
        (fun outcome after =>
          (∀ result,
            outcome = .ok result → after.failed = true → after.status = .scheduledRetry)
          ∧ (after.status = .failedDlq → found = .failedDlq)) := by
  refine (executeWithResilience_retries config deliveryOrId destinationArg found).invariant
    ?_ id
  intro run call result after unburied answered buried
  rcases status_answered answered with same | written
  · exact unburied (same.symm.trans buried)
  · rw [buried] at written
    exact nomatch written

/-- A run that met a failure the classifier does not retry never returns with a dead letter
stored: a returning run has scheduled a retry, and none stores FAILED_DLQ.
-/
theorem execute_never_dead_letters {env : Environment} (faultless : env.Faultless)
    (process : Nat) (production logger : Bool) (config : ExecutorConfig)
    (deliveryOrId : DeliveryArgument) (destinationArg : Option Infrastructure.Destination)
    {world : World}
    {found : DeliveryStatus} (stored : world.status? (argumentId deliveryOrId) = some found)
    (failed
      : metFailure ((executeWithResilience config deliveryOrId destinationArg).trace
          (Program.implementing (S := WorkerSignature) (workerParts production logger).methods
            (system env process)) world) = true)
    : (∀ result,
        (((workerParts production logger).execute config deliveryOrId destinationArg).run
            (system env process) world).1 = .ok result
        → (((workerParts production logger).execute config deliveryOrId destinationArg).run
            (system env process) world).2.status? (argumentId deliveryOrId)
          = some .scheduledRetry)
      ∧ ((((workerParts production logger).execute config deliveryOrId destinationArg).run
            (system env process) world).2.status? (argumentId deliveryOrId)
          = some .failedDlq
        → found = .failedDlq) := by
  have honoured :=
    (workerParts_runParts faultless process production logger).honours
      (argumentId deliveryOrId)
  have start
      : Follows World.status? (argumentId deliveryOrId) { status := found } (world, []) :=
    ⟨stored, rfl, rfl⟩
  obtain ⟨run, ⟨retried, unburied⟩, followed, _, noted⟩ :=
    (executeWithResilience_buries_nothing config deliveryOrId destinationArg found).trace
      honoured start
  rw [WorkerParts.execute, Program.run_implement, followed]
  constructor
  · intro result returned
    exact congrArg some (retried result returned (noted.trans failed))
  · intro buried
    exact unburied (Option.some.inj buried)

end DeliveryExecutor

end

/-- Collaborators that work, but for a connector that is answered with the status code. -/
def failingAnswers (statusCode : Int) : (call : ExternalCall) → Settled Thrown call.Result
  | .findDestination _ => .ok none
  | .findResult _ => .ok none
  | .getBreaker _ => .ok true
  | .isOpen _ => .ok false
  | .recordSuccess => .ok ()
  | .recordFailure _ => .ok ()
  | .acquire _ => .ok none
  | .release _ _ => .ok ()
  | .createConnector _ => .ok true
  | .execute _ _ =>
      .ok (some {
        success := false
        statusCode := some statusCode
        error := .nullish
        message := none
        response := .undefined
      })

/-- A delivery answered with 404 is retried. -/
theorem execute_never_dead_letters_notFound
    : (((workerParts true true).execute .bare (.id "delivery")).run
          (system (.answering (failingAnswers 404)) 0)
          (World.ofDelivery (.fresh .pending))).2.status? "delivery"
        = some .scheduledRetry :=
  (DeliveryExecutor.execute_never_dead_letters
    (Environment.answering_faultless (failingAnswers 404)) 0 true true .bare (.id "delivery")
    none rfl rfl).1 _ rfl

/-- So the permanent failure does not end in the dead letter queue. -/
theorem execute_retries_notFound
    : metFailure ((DeliveryExecutor.executeWithResilience .bare (.id "delivery")).trace
          (Program.implementing (S := WorkerSignature) (workerParts true true).methods
            (system (.answering (failingAnswers 404)) 0)) (World.ofDelivery (.fresh .pending)))
        = true
      ∧ (∃ result,
          (((workerParts true true).execute .bare (.id "delivery")).run
            (system (.answering (failingAnswers 404)) 0)
            (World.ofDelivery (.fresh .pending))).1 = .ok result)
      ∧ (((workerParts true true).execute .bare (.id "delivery")).run
            (system (.answering (failingAnswers 404)) 0)
            (World.ofDelivery (.fresh .pending))).2.status? "delivery"
          ≠ some .failedDlq := by
  refine ⟨rfl, ⟨_, rfl⟩, ?_⟩
  intro buried
  have retried
      : (((workerParts true true).execute .bare (.id "delivery")).run
            (system (.answering (failingAnswers 404)) 0)
            (World.ofDelivery (.fresh .pending))).2.status? "delivery"
          = some .scheduledRetry :=
    rfl
  exact nomatch retried.symm.trans buried

end QueueForge.Worker
