import QueueForge.Worker.RunContract

/-! The calls of a wired run over a database that may fail at any call.
What a call can do to the stored status is said once, for the database, and carried up
through the repository and the state machine to the calls of the executor.
-/

namespace QueueForge.Worker

open QueueForge.Async QueueForge.Js QueueForge.Domain QueueForge.Infrastructure

/-- What the database may answer about the delivery `id`, whose status is the phase: a fault,
the stored row, or the outcome of a write.
-/
def storedContract (id : String) : Contract SystemSignature Thrown DeliveryStatus where
  allows _ call :=
    match call with
    | .database (.deliveryFindUnique other) => other = id
    | .database (.deliveryUpdate other data) => other = id ∨ data.status = none
    | _ => True
  answers stored call result after :=
    match call with
    | .now => (∃ time, result = .ok time) ∧ after = stored
    | .database (.deliveryFindUnique _) =>
        ((∃ error, result = .error error)
          ∨ ∃ row, result = .ok (some row) ∧ row.id = id ∧ row.status = stored)
        ∧ after = stored
    | .database (.deliveryUpdate _ data) =>
        (∃ error, result = .error error) ∧ after = stored
        ∨ (∃ row, result = .ok row) ∧ after = data.status.getD stored
    | _ => after = stored

/-- A program that moves the delivery to the target, if it returns and the table admits the
move; an exception moves nothing and is an error or a text.
-/
def MayMove {α : Type} (found target : DeliveryStatus) (outcome : Settled Thrown α)
    (after : DeliveryStatus)
    : Prop :=
  (∃ error, outcome = .error error ∧ error ≠ .nullish) ∧ after = found
  ∨ (∃ value, outcome = .ok value)
    ∧ admitsTransition found target = true
    ∧ target ≠ .failedDlq
    ∧ after = target

/-- The database answers so, with or without faults. -/
theorem system_honours_stored (env : Environment) (process : Nat) (id : String)
    : (system env process).Honours (storedContract id)
        (fun stored world => world.status? id = some stored) := by
  intro stored world call held allowed
  have reads
      : call.isUpdate = false
        → (system env process call world).2.status? id = some stored := by
    intro update
    rw [World.status?, World.delivery?, deliveries_system env process world update]
    exact held
  cases call with
  | now => exact ⟨stored, ⟨⟨_, rfl⟩, rfl⟩, reads rfl⟩
  | external call => exact ⟨stored, rfl, reads rfl⟩
  | queueAdd job => exact ⟨stored, rfl, reads rfl⟩
  | database call =>
      cases call with
      | deliveryFindUnique other =>
          obtain rfl : other = id := allowed
          refine ⟨stored, ⟨?_, rfl⟩, reads rfl⟩
          obtain ⟨row, found, status⟩ := World.status?_eq_some.mp held
          cases faulty : env.fault process world (.database (.deliveryFindUnique other)) with
          | some error =>
              refine .inl ⟨error, ?_⟩
              simp only [system, performCall, faulty]
          | none =>
              refine .inr ⟨row, ?_, World.delivery?_id found, status⟩
              simp only [system, performCall, faulty, performDatabase, found]
      | deliveryUpdate other data =>
          rcases delivery?_system_update env process world other data with
            ⟨failed, unchanged⟩ | ⟨row, changed, found, returned, status, looked⟩
          · refine ⟨stored, .inl ⟨failed, rfl⟩, ?_⟩
            change World.status? _ id = some stored
            rw [World.status?, World.delivery?, unchanged]
            exact held
          · refine ⟨data.status.getD stored, .inr ⟨⟨changed, returned⟩, rfl⟩, ?_⟩
            change World.status? _ id = some (data.status.getD stored)
            rw [World.status?, looked]
            by_cases same : id = other
            · subst same
              obtain rfl : row.status = stored := by
                rw [World.status?, found] at held
                exact Option.some.inj held
              rw [if_pos rfl]
              exact congrArg some status
            · have unwritten : data.status = none :=
                allowed.resolve_left (fun named => same named.symm)
              rw [if_neg same, unwritten]
              exact held
      | _ => exact ⟨stored, rfl, reads rfl⟩

section
variable {production : Bool} {id : String} {found : DeliveryStatus}

/-- A call behind a recorded attempt leaves the status. -/
theorem attempt_stored {α : Type} {program : SystemProgram α}
    (attempts : program.Awaits (fun call => isAttemptCall call = true))
    : program.Meets (storedContract id) found (fun _ after => after = found) := by
  refine attempts.meets ?_ ?_ rfl
  · intro stored call same attempt
    cases call with
    | database call =>
        cases call with
        | deliveryUpdate other data => exact .inr (Option.isNone_iff_eq_none.mp attempt)
        | deliveryFindUnique other => contradiction
        | _ => trivial
    | _ => trivial
  · intro stored call result after same attempt answered
    subst same
    cases call with
    | now => exact answered.2
    | external call => exact answered
    | queueAdd job => exact answered
    | database call =>
        cases call with
        | deliveryUpdate other data =>
            have unwritten : data.status = none := Option.isNone_iff_eq_none.mp attempt
            rcases answered with ⟨_, kept⟩ | ⟨_, written⟩
            · exact kept
            · rw [written, unwritten]
              rfl
        | deliveryFindUnique other => contradiction
        | _ => exact answered

/-- An update through the repository fails, or sets the status. -/
theorem updateDelivery_stored (data : DeliveryUpdate) (tx : Option (List String))
    : (executeQuery production (updateDelivery tx id data)).Meets (storedContract id) found
        (fun outcome after =>
          (∃ error, outcome = .error error ∧ error ≠ .nullish) ∧ after = found
          ∨ (∃ row, outcome = .ok row) ∧ tx = none ∧ after = data.status.getD found) := by
  have thrown
      : ∀ error,
          (∃ mapped,
              (.error (mapDatabaseError production error) : Settled Thrown DeliveryRow)
                = .error mapped
              ∧ mapped ≠ .nullish) :=
    fun error => ⟨_, rfl, mapDatabaseError_ne_nullish production error⟩
  rw [executeQuery, Program.meets_catchError]
  cases tx with
  | some keys =>
      simp only [updateDelivery, Program.throw_eq, Program.meets_fail]
      exact .inl ⟨thrown _, trivial⟩
  | none =>
      simp only [updateDelivery, meets_awaitDatabase]
      refine ⟨.inl rfl, ?_⟩
      intro result after answered
      rcases answered with ⟨⟨error, rfl⟩, rfl⟩ | ⟨⟨row, rfl⟩, rfl⟩
      · exact .inl ⟨thrown error, rfl⟩
      · exact .inr ⟨⟨row, rfl⟩, trivial, rfl⟩

/-- The lookup of the delivery fails, or finds its row. -/
theorem findById_stored
    : (DeliveryRepository.findById production id).Meets (storedContract id) found
        (fun outcome after =>
          ((∃ error, outcome = .error error ∧ error ≠ .nullish)
            ∨ ∃ row, outcome = .ok (some row) ∧ row.id = id ∧ row.status = found)
          ∧ after = found) := by
  rw [DeliveryRepository.findById, executeQuery, Program.meets_catchError, meets_awaitDatabase]
  refine ⟨rfl, ?_⟩
  intro result after answered
  obtain ⟨⟨error, rfl⟩ | ⟨row, rfl, named, status⟩, rfl⟩ := answered
  · exact ⟨.inl ⟨_, rfl, mapDatabaseError_ne_nullish production error⟩, rfl⟩
  · exact ⟨.inr ⟨row, rfl, named, status⟩, rfl⟩

/-- The state machine finds the delivery first of all, or fails. -/
theorem find_stored
    : ((workerStateMachine production).find id).Meets (storedContract id) found
        (fun outcome after =>
          ((∃ error, outcome = .error error ∧ error ≠ .nullish)
            ∨ ∃ row, outcome = .ok (some row) ∧ row.status = found)
          ∧ after = found) := by
  simp only [DeliveryStateMachine.find, workerStateMachine, deliveryRepositoryStore,
    Program.bind_eq, Program.meets_bind]
  refine findById_stored.mono ?_
  intro looked after answered
  obtain ⟨⟨error, rfl, thrown⟩ | ⟨row, rfl, _, status⟩, rfl⟩ := answered
  · exact ⟨.inl ⟨error, rfl, thrown⟩, rfl⟩
  · exact ⟨.inr ⟨row, rfl, status⟩, rfl⟩

/-- Whatever its route, a write fails or sets its target. Dead letters with a reason are
never written.
-/
theorem write_stored (target : DeliveryStatus) (metadata : Option Metadata)
    (row : Option DeliveryRow) (described : target = .failedDlq → metadata.isSome = true)
    : ((workerStateMachine production).write id target metadata row).Meets
        (storedContract id) found
        (fun outcome after =>
          (∃ error, outcome = .error error ∧ error ≠ .nullish) ∧ after = found
          ∨ (∃ written, outcome = .ok written) ∧ target ≠ .failedDlq ∧ after = target) := by
  have routed
      : ∀ (tx : Option (List String)) (data : DeliveryUpdate),
          data.status = some target
          → (target = .failedDlq → tx ≠ none)
          → (some <$> executeQuery production (updateDelivery tx id data)).Meets
              (storedContract id) found
              (fun outcome after =>
                (∃ error, outcome = .error error ∧ error ≠ .nullish) ∧ after = found
                ∨ (∃ written, outcome = .ok written)
                  ∧ target ≠ .failedDlq
                  ∧ after = target) := by
    intro tx data written client
    rw [Program.map_eq, Program.meets_bind]
    refine (updateDelivery_stored data tx).mono ?_
    intro outcome after answered
    rcases answered with ⟨⟨error, rfl, thrown⟩, rfl⟩ | ⟨⟨row, rfl⟩, unclaimed, rfl⟩
    · exact .inl ⟨⟨error, rfl, thrown⟩, rfl⟩
    · refine .inr ⟨⟨some row, rfl⟩, fun dead => client dead unclaimed, ?_⟩
      rw [written]
      rfl
  have optioned
      : ∀ {next : Metadata → SystemProgram (Option DeliveryRow)}
          {post : Settled Thrown (Option DeliveryRow) → DeliveryStatus → Prop},
          (∀ options, (next options).Meets (storedContract id) found post)
          → (∀ error, error ≠ .nullish → post (.error error) found)
          → (((workerStateMachine production).optionsArg metadata).bind next).Meets
              (storedContract id) found post := by
    intro next post settled threw
    rw [DeliveryStateMachine.optionsArg]
    cases Metadata.nonempty metadata with
    | some options => exact settled options
    | none => exact threw _ nofun
  cases target with
  | completed =>
      refine optioned (fun _ => routed _ _ rfl nofun) ?_
      intro error thrown
      exact .inl ⟨⟨error, rfl, thrown⟩, rfl⟩
  | scheduledRetry =>
      refine optioned (fun _ => routed _ _ rfl nofun) ?_
      intro error thrown
      exact .inl ⟨⟨error, rfl, thrown⟩, rfl⟩
  | failedDlq =>
      obtain ⟨reason, rfl⟩ := Option.isSome_iff_exists.mp (described rfl)
      exact routed (some (reason.map Prod.fst)) _ rfl (fun _ => nofun)
  | pending => exact routed _ _ rfl nofun
  | processing => exact routed _ _ rfl nofun

/-- A transition moves the delivery if it returns, and nothing otherwise. -/
theorem transition_stored (target : DeliveryStatus) (metadata : Option Metadata)
    (described : target = .failedDlq → metadata.isSome = true)
    : ((workerStateMachine production).transition id target metadata).Meets
        (storedContract id) found (MayMove found target) := by
  rw [DeliveryStateMachine.transition, Program.bind_eq, Program.meets_bind]
  refine find_stored.mono ?_
  intro looked after answered
  obtain ⟨⟨error, rfl, thrown⟩ | ⟨row, rfl, rfl⟩, rfl⟩ := answered
  · exact .inl ⟨⟨error, rfl, thrown⟩, rfl⟩
  · simp only [Option.map_some, Option.getD_some]
    by_cases admitted : admitsTransition row.status target = true
    · rw [if_pos admitted, Program.bind_eq, Program.meets_bind]
      refine (write_stored target metadata (some row) described).mono ?_
      intro outcome after answered
      rcases answered with ⟨⟨error, rfl, thrown⟩, rfl⟩ | ⟨⟨written, rfl⟩, stored, rfl⟩
      · exact .inl ⟨⟨error, rfl, thrown⟩, rfl⟩
      · exact .inr ⟨⟨written, rfl⟩, admitted, stored, rfl⟩
    · rw [if_neg admitted]
      exact .inl ⟨⟨_, rfl, nofun⟩, rfl⟩

end

/-- What a wired call may answer on a delivery in status `found`, and the status it leaves.
-/
def StoredAnswer (id : String) (found : DeliveryStatus) (call : WorkerCall)
    (result : Settled Thrown call.Result) (after : DeliveryStatus)
    : Prop :=
  match call with
  | .now => (∃ time, result = .ok time) ∧ after = found
  | .findDelivery _ =>
      ((∃ error, result = .error error)
        ∨ ∃ delivery, result = .ok (some delivery) ∧ delivery.id = id)
      ∧ after = found
  | .markProcessing _ => MayMove found .processing result after
  | .markCompleted _ _ => MayMove found .completed result after
  | .scheduleRetry _ _ _ => MayMove found .scheduledRetry result after
  | .moveToDeadLetterQueue _ _ => MayMove found .failedDlq result after
  | _ => after = found

/-- The delivery a call of a run is about, where it is about one. -/
def WorkerCall.about : WorkerCall → Option String
  | findDelivery id => some id
  | markProcessing id => some id
  | markCompleted id _ => some id
  | scheduleRetry id _ _ => some id
  | moveToDeadLetterQueue id _ => some id
  | _ => none

/-- Dropping its result does not change what a move does. -/
theorem MayMove.dropped {α : Type} {id : String} {found target : DeliveryStatus}
    {program : SystemProgram α}
    (moves : program.Meets (storedContract id) found (MayMove found target))
    : (program.bind (fun _ => .done ())).Meets (storedContract id) found
        (MayMove found target) := by
  rw [Program.meets_bind]
  refine moves.mono ?_
  intro outcome after moved
  rcases moved with ⟨⟨error, rfl, thrown⟩, rfl⟩ | ⟨⟨value, rfl⟩, stored⟩
  · exact .inl ⟨⟨error, rfl, thrown⟩, rfl⟩
  · exact .inr ⟨⟨(), rfl⟩, stored⟩

/-- A transition at the present time. -/
theorem transition_stored_at (production : Bool) (id : String) (found target : DeliveryStatus)
    (metadataAt : Int → Metadata)
    : ((awaitNow.bind (fun time =>
        (workerStateMachine production).transition id target
          (some (metadataAt time)))).bind (fun _ => .done ())).Meets (storedContract id) found
        (MayMove found target) := by
  refine MayMove.dropped ?_
  rw [Program.meets_bind, meets_awaitNow]
  refine ⟨trivial, ?_⟩
  intro result after answered
  obtain ⟨⟨time, rfl⟩, rfl⟩ := answered
  exact transition_stored target (some (metadataAt time)) (fun _ => rfl)

/-- Every wired call answers so, by cases on the call. -/
theorem workerParts_stored (production logger : Bool) (id : String) (found : DeliveryStatus)
    (call : WorkerCall) (about : ∀ other ∈ call.about, other = id)
    : ((workerParts production logger).methods call).Meets (storedContract id) found
        (StoredAnswer id found call) := by
  cases call with
  | now => exact meets_awaitNow.mpr ⟨trivial, fun _ _ answered => answered⟩
  | findDelivery deliveryId =>
      obtain rfl := about deliveryId rfl
      have loads
          : (workerParts production logger).methods (.findDelivery deliveryId)
            = (DeliveryRepository.findById production deliveryId).bind
                (fun row => .done (row.map .ofRow)) :=
        rfl
      rw [loads, Program.meets_bind]
      refine findById_stored.mono ?_
      intro looked after answered
      obtain ⟨⟨error, rfl, _⟩ | ⟨row, rfl, named, _⟩, rfl⟩ := answered
      · exact ⟨.inl ⟨error, rfl⟩, rfl⟩
      · exact ⟨.inr ⟨.ofRow row, rfl, named⟩, rfl⟩
  | external call => exact Program.meets_perform.mpr ⟨trivial, fun _ _ answered => answered⟩
  | markProcessing deliveryId =>
      obtain rfl := about deliveryId rfl
      exact MayMove.dropped (transition_stored .processing none nofun)
  | markCompleted deliveryId latencyMs =>
      obtain rfl := about deliveryId rfl
      exact transition_stored_at production deliveryId found .completed _
  | scheduleRetry deliveryId delayMs error =>
      obtain rfl := about deliveryId rfl
      exact transition_stored_at production deliveryId found .scheduledRetry _
  | moveToDeadLetterQueue deliveryId reason =>
      obtain rfl := about deliveryId rfl
      exact transition_stored_at production deliveryId found .failedDlq _
  | attemptSuccess deliveryId latencyMs response =>
      exact attempt_stored ((record_awaits production logger deliveryId _).bind (fun _ => trivial))
  | attemptFailure deliveryId latencyMs statusCode error =>
      exact attempt_stored ((record_awaits production logger deliveryId _).bind (fun _ => trivial))

/-- A call of `connector.execute`. -/
def transmits : WorkerCall → Bool
  | .external call => call.isTransmission
  | _ => false

/-- An answer that ends a run before it reaches the connector: a lookup that fails or finds
nothing, a breaker that is open or cannot tell, a bulkhead that refuses, or a connector that
is missing or cannot be made.
-/
def stops : (call : WorkerCall) → Settled Thrown call.Result → Bool
  | .findDelivery _, .error _ => true
  | .findDelivery _, .ok delivery => delivery.isNone
  | .external (.findDestination _), .error _ => true
  | .external (.getBreaker _), .error _ => true
  | .external (.isOpen _), .error _ => true
  | .external (.isOpen _), .ok isOpen => isOpen
  | .external (.acquire _), .error _ => true
  | .external (.createConnector _), .error _ => true
  | .external (.createConnector _), .ok connector => !connector
  | .external (.findResult _), .error _ => true
  | _, _ => false

/-- How often a run transmitted. -/
def transmissions (trace : List (Answered WorkerSignature Thrown)) : Nat :=
  trace.countP (fun answered => transmits answered.op)

/-- A run was ended before it reached the connector. -/
def stopped (trace : List (Answered WorkerSignature Thrown)) : Bool :=
  trace.any (fun answered => stops answered.op answered.result)

/-- A wired run so far: the stored status, and what the trace tells of its transmissions. -/
structure WiredRun where
  status : DeliveryStatus
  sent : Nat := 0
  stopped : Bool := false

/-- The contract of a run of the wired worker on the delivery `id`. -/
def wiredContract (id : String) : Contract WorkerSignature Thrown WiredRun where
  allows _ call := ∀ other ∈ call.about, other = id
  answers run call result after :=
    StoredAnswer id run.status call result after.status
    ∧ after.sent = run.sent + (if transmits call then 1 else 0)
    ∧ after.stopped = (run.stopped || stops call result)

/-- The wired run so far, as the database and the trace tell it. -/
def WiredRun.Follows (id : String) (run : WiredRun)
    (world : World × List (Answered WorkerSignature Thrown))
    : Prop :=
  world.1.status? id = some run.status
  ∧ run.sent = transmissions world.2
  ∧ run.stopped = Worker.stopped world.2

/-- The wired parts honour the contract, with or without faults of the database. -/
theorem workerParts_honours (env : Environment) (process : Nat) (production logger : Bool)
    (id : String)
    : (Program.implementing (S := WorkerSignature) (workerParts production logger).methods
        (system env process)).logged.Honours (wiredContract id) (WiredRun.Follows id) := by
  intro run world call related allowed
  obtain ⟨stored, sent, stop⟩ := related
  obtain ⟨status, answered, kept⟩ :=
    (workerParts_stored production logger id run.status call allowed).run
      (system_honours_stored env process id) stored
  refine ⟨⟨status, _, _⟩, ⟨answered, rfl, rfl⟩, kept, ?_, ?_⟩
  · rw [sent, transmissions, transmissions, Handler.logged, List.countP_cons]
  · rw [stop, Worker.stopped, Worker.stopped, Handler.logged, List.any_cons, Bool.or_comm]
    rfl

end QueueForge.Worker
