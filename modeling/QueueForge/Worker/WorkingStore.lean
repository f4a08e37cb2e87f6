import QueueForge.Worker.StoredOutcome

/-! The state machine over a store whose calls do not fail, and the runs of an executor on
top of it.
-/

namespace QueueForge.Worker

open QueueForge.Async QueueForge.Js QueueForge.Domain QueueForge.Infrastructure

section
variable {S : Signature} {σ : Type}

/-- A write that resolves to a row and leaves the target stored. -/
def Stores (lower : Handler S Thrown σ) (status : σ → String → Option DeliveryStatus)
    (id : String) (target : DeliveryStatus) (write : Program S Thrown DeliveryRow)
    : Prop :=
  ∀ world,
    (status world id).isSome = true
    → ∃ row after, write.run lower world = (.ok row, after) ∧ status after id = some target

/-- A store whose calls do not fail, under a state machine. `status` reads a stored status;
the lookup finds it, and each write the store has puts its target there.
-/
structure WorkingStore (machine : DeliveryStateMachine S) (lower : Handler S Thrown σ)
    (status : σ → String → Option DeliveryStatus)
    : Prop where
  finds
    : ∃ findById,
        machine.deliveryRepository.findById = some findById
        ∧ ∀ world id found,
            status world id = some found
            → ∃ row after,
                (findById id).run lower world = (.ok (some row), after)
                ∧ row.id = id
                ∧ row.status = found
                ∧ ∀ other, status after other = status world other
  updateDeliveryStatus
    : ∀ write ∈ machine.deliveryRepository.updateDeliveryStatus,
        ∀ id target completedAt options,
          Stores lower status id target (write id target completedAt options)
  scheduleRetry
    : ∀ write ∈ machine.deliveryRepository.scheduleRetry,
        ∀ id nextRetryAt lastError options,
          Stores lower status id .scheduledRetry (write id nextRetryAt lastError options)
  updateStatus
    : ∀ write ∈ machine.deliveryRepository.updateStatus,
        ∀ id target metadata, Stores lower status id target (write id target metadata)
  update
    : ∀ write ∈ machine.deliveryRepository.update,
        ∀ id target metadata, Stores lower status id target (write id target metadata)
  writes
    : machine.deliveryRepository.updateStatus.isSome = true
      ∨ machine.deliveryRepository.update.isSome = true
  clock
    : ∀ world,
        ∃ time after,
          machine.clock.run lower world = (.ok time, after)
          ∧ ∀ id, status after id = status world id
  eventPublisher
    : ∀ publish ∈ machine.eventPublisher, ∀ event, Keeps lower status (publish event)

/-- The parts of an executor over a working store; its other collaborators may answer
anything, and touch no stored status.
-/
structure WorkingParts (parts : WorkerParts S) (lower : Handler S Thrown σ)
    (status : σ → String → Option DeliveryStatus)
    : Prop where
  store : WorkingStore parts.stateMachine lower status
  clock : Keeps lower status parts.clock
  external : ∀ call, Keeps lower status (parts.external call)
  attemptSuccess
    : ∀ id latencyMs response, Keeps lower status (parts.attemptSuccess id latencyMs response)
  attemptFailure
    : ∀ id latencyMs statusCode error,
        Keeps lower status (parts.attemptFailure id latencyMs statusCode error)

namespace WorkingStore

variable {machine : DeliveryStateMachine S} {lower : Handler S Thrown σ}
  {status : σ → String → Option DeliveryStatus} {id : String} {target : DeliveryStatus}
  {metadata : Option Metadata} {world : σ}

/-- A target without a dedicated method takes the general route. -/
theorem run_write_general (working : WorkingStore machine lower status)
    (stored : (status world id).isSome = true) (found : Option DeliveryRow)
    (uncompleted
      : target = .completed → machine.deliveryRepository.updateDeliveryStatus = none)
    (unretried : target = .scheduledRetry → machine.deliveryRepository.scheduleRetry = none)
    : ∃ written after,
        (machine.write id target metadata found).run lower world = (.ok written, after)
        ∧ status after id = some target := by
  cases general : machine.deliveryRepository.updateStatus with
  | some updateStatus =>
      have routed
          : machine.write id target metadata found
            = some <$> updateStatus id target metadata := by
        cases target with
        | completed => simp only [DeliveryStateMachine.write, general, uncompleted rfl]
        | scheduledRetry => simp only [DeliveryStateMachine.write, general, unretried rfl]
        | _ => simp only [DeliveryStateMachine.write, general]
      obtain ⟨row, after, wrote, kept⟩ :=
        working.updateStatus updateStatus general id target metadata world stored
      refine ⟨some row, after, ?_, kept⟩
      simp only [routed, Program.map_eq, Program.run_bind, wrote, Program.run_done]
  | none =>
      cases fallback : machine.deliveryRepository.update with
      | some update =>
          have routed
              : machine.write id target metadata found
                = some <$> update id target metadata := by
            cases target with
            | completed =>
                simp only [DeliveryStateMachine.write, general, fallback, uncompleted rfl]
            | scheduledRetry =>
                simp only [DeliveryStateMachine.write, general, fallback, unretried rfl]
            | _ => simp only [DeliveryStateMachine.write, general, fallback]
          obtain ⟨row, after, wrote, kept⟩ :=
            working.update update fallback id target metadata world stored
          refine ⟨some row, after, ?_, kept⟩
          simp only [routed, Program.map_eq, Program.run_bind, wrote, Program.run_done]
      | none =>
          have writes := working.writes
          simp [general, fallback] at writes

/-- Every write returns with the target stored, as long as the dedicated routes are given
some metadata.
-/
theorem run_write (working : WorkingStore machine lower status)
    (stored : (status world id).isSome = true) (found : Option DeliveryRow)
    (options
      : target = .completed ∨ target = .scheduledRetry
        → (Metadata.nonempty metadata).isSome = true)
    : ∃ written after,
        (machine.write id target metadata found).run lower world = (.ok written, after)
        ∧ status after id = some target := by
  cases target with
  | completed =>
      cases dedicated : machine.deliveryRepository.updateDeliveryStatus with
      | some updateDeliveryStatus =>
          obtain ⟨settled, given⟩ := Option.isSome_iff_exists.mp (options (.inl rfl))
          obtain ⟨row, after, wrote, kept⟩ :=
            working.updateDeliveryStatus updateDeliveryStatus dedicated id .completed
              (Metadata.get metadata "completedAt") settled world stored
          refine ⟨some row, after, ?_, kept⟩
          simp only [DeliveryStateMachine.write, dedicated, DeliveryStateMachine.optionsArg,
            given, Program.bind_eq, Program.pure_eq, Program.map_eq, Program.run_bind,
            Program.run_done, wrote]
      | none => exact working.run_write_general stored found (fun _ => dedicated) nofun
  | scheduledRetry =>
      cases dedicated : machine.deliveryRepository.scheduleRetry with
      | some scheduleRetry =>
          obtain ⟨settled, given⟩ := Option.isSome_iff_exists.mp (options (.inr rfl))
          obtain ⟨row, after, wrote, kept⟩ :=
            working.scheduleRetry scheduleRetry dedicated id
              (Metadata.get metadata "nextRetryAt") (Metadata.get metadata "lastError")
              settled world stored
          refine ⟨some row, after, ?_, kept⟩
          simp only [DeliveryStateMachine.write, dedicated, DeliveryStateMachine.optionsArg,
            given, Program.bind_eq, Program.pure_eq, Program.map_eq, Program.run_bind,
            Program.run_done, wrote]
      | none => exact working.run_write_general stored found nofun (fun _ => dedicated)
  | _ => exact working.run_write_general stored found nofun nofun

/-- Publishing returns and touches no stored status. -/
theorem run_publish (working : WorkingStore machine lower status) (deliveryId : String)
    (current target : DeliveryStatus) (world : σ)
    : ∃ after,
        (machine.publish deliveryId current target).run lower world = (.ok (), after)
        ∧ ∀ id, status after id = status world id := by
  cases given : machine.eventPublisher with
  | none =>
      refine ⟨world, ?_, fun _ => rfl⟩
      simp only [DeliveryStateMachine.publish, given]
      rfl
  | some publish =>
      obtain ⟨time, ticked, read, kept⟩ := working.clock world
      have quiet := working.eventPublisher publish given
      simp only [DeliveryStateMachine.publish, given, Program.tryCatch_eq, Program.bind_eq,
        Program.pure_eq, Program.run_catchError, Program.run_bind, read]
      -- the publisher may resolve or reject, and both end in the same answer
      generalize ran : (publish _).run lower ticked = outcome
      have unchanged : ∀ id, status outcome.2 id = status ticked id := by
        intro id
        rw [← ran]
        exact quiet _ ticked id
      obtain ⟨_ | _, after⟩ := outcome
      · exact ⟨after, rfl, fun id => (unchanged id).trans (kept id)⟩
      · exact ⟨after, rfl, fun id => (unchanged id).trans (kept id)⟩

/-- A transition is stored if the table admits it, and else throws and stores nothing. -/
theorem run_transition (working : WorkingStore machine lower status)
    {found : DeliveryStatus} (stored : status world id = some found)
    (options
      : target = .completed ∨ target = .scheduledRetry
        → (Metadata.nonempty metadata).isSome = true)
    : ∃ outcome after,
        (machine.transition id target metadata).run lower world = (outcome, after)
        ∧ if admitsTransition found target then
            (∃ written, outcome = .ok written) ∧ status after id = some target
          else
            outcome = .error (.error (invalidDeliveryStateError found target))
            ∧ status after id = some found := by
  obtain ⟨findById, present, finds⟩ := working.finds
  obtain ⟨row, looked, lookup, _, rowStatus, kept⟩ := finds world id found stored
  have ran
      : (machine.find id).run lower world = (.ok (some row), looked) := by
    simp only [DeliveryStateMachine.find, present, Program.bind_eq, Program.run_bind, lookup]
    cases machine.deliveryRepository.findOne <;> rfl
  have still : status looked id = some found := (kept id).trans stored
  simp only [DeliveryStateMachine.transition, Program.bind_eq, Program.run_bind, ran,
    Option.map_some, Option.getD_some, rowStatus]
  by_cases admitted : admitsTransition found target = true
  · have isStored : (status looked id).isSome = true := by rw [still]; rfl
    obtain ⟨written, wrote, write, target'⟩ := working.run_write isStored (some row) options
    obtain ⟨after, published, unchanged⟩ := working.run_publish id found target wrote
    refine ⟨.ok written, after, ?_, ?_⟩
    · simp only [admitted, if_true, Program.run_bind, write, published]
      rfl
    · rw [if_pos admitted]
      exact ⟨⟨written, rfl⟩, (unchanged id).trans target'⟩
  · refine ⟨.error (.error (invalidDeliveryStateError found target)), looked, ?_, ?_⟩
    · simp only [admitted]
      rfl
    · rw [if_neg admitted]
      exact ⟨rfl, still⟩

/-- A transition, its result dropped, moves the stored delivery. -/
theorem movesStored (working : WorkingStore machine lower status) (id : String)
    (target : DeliveryStatus) (metadata : Option Metadata)
    (options
      : target = .completed ∨ target = .scheduledRetry
        → (Metadata.nonempty metadata).isSome = true)
    : MovesStored lower status (fun _ => true) id target
        ((machine.transition id target metadata).bind (fun _ => .done ())) := by
  intro world found stored
  obtain ⟨outcome, after, ran, settled⟩ := working.run_transition stored options
  rw [Program.run_bind, ran]
  by_cases admitted : admitsTransition found target = true
  · rw [if_pos admitted] at settled
    obtain ⟨⟨written, rfl⟩, kept⟩ := settled
    refine ⟨{ status := target }, ?_, kept⟩
    rw [Moved, if_pos admitted, if_pos rfl]
    exact ⟨rfl, rfl⟩
  · rw [if_neg admitted] at settled
    obtain ⟨rfl, kept⟩ := settled
    refine ⟨{ status := found }, ?_, kept⟩
    rw [Moved, if_neg admitted]
    exact ⟨rfl, rfl⟩

/-- So does one that reads the clock first. -/
theorem movesStored_at (working : WorkingStore machine lower status) (id : String)
    (target : DeliveryStatus) (metadataAt : Int → Option Metadata)
    (options : ∀ time, (Metadata.nonempty (metadataAt time)).isSome = true)
    : MovesStored lower status (fun _ => true) id target
        ((machine.clock.bind (fun time =>
          machine.transition id target (metadataAt time))).bind (fun _ => .done ())) := by
  intro world found stored
  obtain ⟨time, ticked, read, kept⟩ := working.clock world
  have still : status ticked id = some found := (kept id).trans stored
  have moved := working.movesStored id target (metadataAt time) (fun _ => options time)
  rw [Program.bind_assoc, Program.run_bind, read]
  exact moved ticked found still

end WorkingStore

/-- The parts over a working store do what the contract of a run says. -/
theorem WorkingParts.runParts {parts : WorkerParts S} {lower : Handler S Thrown σ}
    {status : σ → String → Option DeliveryStatus} (working : WorkingParts parts lower status)
    : RunParts parts lower status (fun _ => true) where
  finds := by
    intro world id found stored
    obtain ⟨findById, present, finds⟩ := working.store.finds
    obtain ⟨row, after, lookup, named, _, kept⟩ := finds world id found stored
    refine ⟨.ofRow row, after, ?_, named, kept⟩
    simp only [WorkerParts.findDelivery, present, Program.run_bind, lookup]
    rfl
  clock := working.clock
  external := working.external
  attemptSuccess := working.attemptSuccess
  attemptFailure := working.attemptFailure
  markProcessing := fun id => working.store.movesStored id .processing none nofun
  markCompleted := fun id latencyMs =>
    working.store.movesStored_at id .completed
      (fun time => some [
        ("completedAt", .date (some time)),
        ("latencyMs", .number (.ofInt latencyMs))
      ])
      (fun _ => rfl)
  scheduleRetry := fun id delayMs error =>
    working.store.movesStored_at id .scheduledRetry
      (fun time => some [
        ("nextRetryAt", .date (some (time + delayMs))),
        ("lastError", .string (DeliveryStateMachine.errorText error))
      ])
      (fun _ => rfl)
  moveToDeadLetterQueue := fun id reason =>
    working.store.movesStored_at id .failedDlq
      (fun time => some [("failedAt", .date (some time)), ("failureReason", reason)])
      (fun _ => rfl)

namespace DeliveryExecutor

/-- A run that returns, on a delivery that was PENDING or waiting for a retry, leaves an
outcome stored exactly if no breaker reported to be open and the delivery was loaded, or was
waiting for a retry all along.
-/
theorem execute_leaves_outcome {parts : WorkerParts S} {lower : Handler S Thrown σ}
    {status : σ → String → Option DeliveryStatus} (working : WorkingParts parts lower status)
    (config : ExecutorConfig) (deliveryOrId : DeliveryArgument)
    (destinationArg : Option Infrastructure.Destination) {world : σ} {found : DeliveryStatus}
    (stored : status world (argumentId deliveryOrId) = some found)
    (startable : found = .pending ∨ found = .scheduledRetry) {result : ExecutionResult}
    (returned
      : ((parts.execute config deliveryOrId destinationArg).run lower world).1 = .ok result)
    : (∃ left,
        status ((parts.execute config deliveryOrId destinationArg).run lower world).2
            (argumentId deliveryOrId)
          = some left
        ∧ left.isOutcome = true)
      ↔ reportedOpen ((executeWithResilience config deliveryOrId destinationArg).trace
          (Program.implementing (S := WorkerSignature) parts.methods lower) world) = false
        ∧ (Loadable config deliveryOrId ∨ found = .scheduledRetry) := by
  have honoured := working.runParts.honours (argumentId deliveryOrId)
  have start
      : Follows status (argumentId deliveryOrId) { status := found } (world, []) :=
    ⟨stored, rfl, rfl⟩
  rw [WorkerParts.execute, Program.run_implement] at returned ⊢
  by_cases loadable : Loadable config deliveryOrId
  · obtain ⟨run, left, followed, noted, _⟩ :=
      (executeWithResilience_left config (argumentId deliveryOrId) (fun _ => true) rfl
        loadable destinationArg found).trace honoured start
    obtain ⟨closed, opened⟩ := left result returned
    rw [followed, ← noted]
    constructor
    · intro outcome
      obtain ⟨status', same, isOutcome⟩ := outcome
      obtain rfl := Option.some.inj same
      refine ⟨?_, .inl loadable⟩
      -- an open breaker would have left the claim, which is no outcome
      rw [← Bool.not_eq_true]
      intro isOpen
      have admitted : admitsTransition found .processing = true := by
        rcases startable with rfl | rfl
        · rfl
        · rfl
      have claimed := (opened isOpen).2 admitted rfl
      rw [claimed] at isOutcome
      exact nomatch isOutcome
    · intro condition
      exact ⟨run.status, rfl, (closed condition.1).1⟩
  · obtain ⟨run, rfl, followed, noted, _⟩ :=
      (executeWithResilience_unloaded config (argumentId deliveryOrId) (fun _ => true)
        loadable destinationArg { status := found }).trace honoured start
    rw [followed, ← noted]
    constructor
    · intro outcome
      obtain ⟨status', same, isOutcome⟩ := outcome
      obtain rfl := Option.some.inj same
      refine ⟨rfl, .inr ?_⟩
      rcases startable with rfl | rfl
      · exact nomatch isOutcome
      · rfl
    · intro condition
      rcases condition.2 with impossible | rfl
      · exact absurd impossible loadable
      · exact ⟨.scheduledRetry, rfl, rfl⟩

end DeliveryExecutor

end

/-- A worker over a store with a lookup and a general write only. -/
def plainWorker (production : Bool) : WorkerParts SystemSignature where
  stateMachine := {
    deliveryRepository := {
      findById := some (DeliveryRepository.findById production)
      findOne := none
      updateDeliveryStatus := none
      scheduleRetry := none
      updateStatus :=
        some (fun id status _ => DeliveryRepository.updateStatus production id status none)
      update := none
    }
    eventPublisher := none
    clock := awaitNow
    globalExpect := none
  }
  clock := awaitNow
  external := fun call => Program.perform (S := SystemSignature) (.external call)
  attemptSuccess := fun _ _ _ => .done ()
  attemptFailure := fun _ _ _ _ => .done ()

/-- Over a database without faults its store works. -/
theorem plainWorker_working (production : Bool) {env : Environment}
    (faultless : env.Faultless) (process : Nat)
    : WorkingParts (plainWorker production) (system env process) World.status? := by
  have updates
      : ∀ id target,
          Stores (system env process) World.status? id target
            (DeliveryRepository.updateStatus production id target none) := by
    intro id target world stored
    obtain ⟨row, found⟩ := Option.isSome_iff_exists.mp (Option.isSome_map.symm.trans stored)
    have accepted
        : acceptsDateTime env.parseDateTime
            ({ status := some target } : DeliveryUpdate).nextRetryAt = true :=
      rfl
    obtain ⟨changed, after, updated, status, kept⟩ :=
      run_updateDelivery production process world id faultless found accepted
    exact ⟨changed, after, updated, World.status?_eq_some.mpr ⟨changed, kept, status⟩⟩
  refine {
    store := {
      finds := ⟨_, rfl, ?_⟩
      updateDeliveryStatus := nofun
      scheduleRetry := nofun
      updateStatus := ?_
      update := nofun
      writes := .inl rfl
      clock := fun world => ⟨_, _, run_awaitNow, fun _ => rfl⟩
      eventPublisher := nofun
    }
    clock := ?_
    external := ?_
    attemptSuccess := fun _ _ _ _ _ => rfl
    attemptFailure := fun _ _ _ _ _ _ => rfl
  }
  · intro world id found stored
    obtain ⟨row, lookup, status⟩ := World.status?_eq_some.mp stored
    refine ⟨row, world.log process (.database (.deliveryFindUnique id)) (.ok (some row)), ?_,
      World.delivery?_id lookup, status, fun _ => rfl⟩
    rw [← lookup]
    exact run_findById production faultless
  · intro write given id target metadata
    obtain rfl := Option.some.inj given
    exact updates id target
  · intro world id
    have read
        : awaitNow.run (system env process) world
          = (.ok (env.clock world), world.log process .now (.ok (env.clock world))) :=
      run_awaitNow
    exact congrArg (fun outcome => World.status? outcome.2 id) read
  · intro call world id
    have performed
        : (plainWorker production).external call
          = Program.perform (S := SystemSignature) (.external call) :=
      rfl
    rw [performed, Program.run_perform]
    rfl

/-- The collaborators of a worker whose connector transmits and whose breaker, where there
is one, is open or not.
-/
def breakerAnswers (isOpen : Bool) : (call : ExternalCall) → Settled Thrown call.Result
  | .getBreaker _ => .ok true
  | .isOpen _ => .ok isOpen
  | .recordSuccess => .ok ()
  | .createConnector _ => .ok true
  | .execute _ _ =>
      .ok (some {
        success := true
        statusCode := some 200
        error := .nullish
        message := none
        response := .undefined
      })
  | _ => .error (newError "not available")

/-- A pending delivery that is transmitted behind a closed breaker is left with an outcome.
-/
theorem execute_leaves_outcome_transmitted
    : ∃ left,
        World.status?
            (((plainWorker true).execute { ExecutorConfig.bare with circuitBreaker := true }
              (.id "delivery")).run (system (.answering (breakerAnswers false)) 0)
              (World.ofDelivery (.fresh .pending))).2
            "delivery"
          = some left
        ∧ left.isOutcome = true :=
  (DeliveryExecutor.execute_leaves_outcome
    (plainWorker_working true (Environment.answering_faultless (breakerAnswers false)) 0)
    { ExecutorConfig.bare with circuitBreaker := true } (.id "delivery") none rfl (.inl rfl)
    rfl).mpr ⟨rfl, .inl rfl⟩

/-- Behind an open breaker the run returns with the delivery left in PROCESSING. -/
theorem execute_leaves_processing
    : ∃ result,
        (((plainWorker true).execute { ExecutorConfig.bare with circuitBreaker := true }
          (.id "delivery")).run (system (.answering (breakerAnswers true)) 0)
          (World.ofDelivery (.fresh .pending))).1 = .ok result
        ∧ World.status?
            (((plainWorker true).execute { ExecutorConfig.bare with circuitBreaker := true }
              (.id "delivery")).run (system (.answering (breakerAnswers true)) 0)
              (World.ofDelivery (.fresh .pending))).2
            "delivery"
          = some .processing :=
  ⟨_, rfl, rfl⟩

end QueueForge.Worker
