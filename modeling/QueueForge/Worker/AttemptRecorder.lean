import QueueForge.Infrastructure.DeliveryRepository

/-! The recorder of delivery attempts, which keeps every exception to itself. -/

namespace QueueForge.Worker

open QueueForge.Async QueueForge.Js QueueForge.Infrastructure

/-- The methods of an attempt repository the recorder tries to number an attempt, and the
one it records through.
-/
structure AttemptStore (S : Signature) where
  findLatestAttemptNumber : Option (String → Program S Thrown (Option Int))
  findByDeliveryId : Option (String → Program S Thrown (List AttemptRow))
  recordAttempt
    : String → Int → Option Int → Int → Option String → Program S Thrown Unit

/-- The object an attempt is recorded from. -/
structure AttemptObject where
  latencyMs : Int
  statusCode : Option Int
  error : Thrown
  response : Value

structure AttemptRecord where
  deliveryId : String
  attemptNumber : Int
  statusCode : Int
  latencyMs : Int
  errorMessage : Option String
  responsePayload : Value

structure AttemptRecorder (S : Signature) where
  attemptRepository : AttemptStore S
  logger : Bool

namespace AttemptRecorder

variable {S : Signature} (recorder : AttemptRecorder S)

/-- The number of the next attempt. -/
def nextAttemptNumber (deliveryId : String) : Program S Thrown Int :=
  match recorder.attemptRepository.findLatestAttemptNumber,
      recorder.attemptRepository.findByDeliveryId with
  | some findLatestAttemptNumber, _ => do
      let lastNum ← findLatestAttemptNumber deliveryId
      pure (lastNum.getD 0 + 1)
  | none, some findByDeliveryId => do
      let existing ← findByDeliveryId deliveryId
      pure (existing.length + 1)
  | none, none => pure 1

/-- The record made of an attempt; a status code is filled in where there is none. -/
def toRecord (deliveryId : String) (attemptNumber : Int) (attempt : AttemptObject)
    : AttemptRecord where
  deliveryId := deliveryId
  attemptNumber := attemptNumber
  statusCode :=
    (orInt attempt.statusCode none).getD (if attempt.error.truthy then 500 else 200)
  latencyMs := attempt.latencyMs
  errorMessage :=
    match orString attempt.error.message none, attempt.error with
    | some message, _ => some message
    | none, .text text => some text
    | none, _ => none
  responsePayload := attempt.response

/-- Records execution attempt details. An exception is logged and dropped; logging one
that is nullish throws in turn.
-/
def record (deliveryId : String) (attempt : AttemptObject)
    : Program S Thrown (Option AttemptRecord) :=
  tryCatch
    (do
      let attemptNumber ← recorder.nextAttemptNumber deliveryId
      let record := toRecord deliveryId attemptNumber attempt
      recorder.attemptRepository.recordAttempt deliveryId attemptNumber
        (some record.statusCode) record.latencyMs record.errorMessage
      pure (some record))
    (fun error =>
      if recorder.logger ∧ error = .nullish then
        throw (newTypeError "Cannot read properties of undefined (reading 'message')")
      else
        pure none)

def recordSuccess (deliveryId : String) (latencyMs : Int) (response : Value)
    : Program S Thrown (Option AttemptRecord) :=
  recorder.record deliveryId {
    latencyMs := latencyMs
    statusCode := none
    error := .nullish
    response := response
  }

def recordFailure (deliveryId : String) (latencyMs : Int) (statusCode : Option Int)
    (error : Thrown)
    : Program S Thrown (Option AttemptRecord) :=
  recorder.record deliveryId {
    latencyMs := latencyMs
    statusCode := statusCode
    error := error
    response := .undefined
  }

end AttemptRecorder

/-- The recorder as the worker module wires it, over the attempt repository. -/
def workerAttemptRecorder (production logger : Bool) : AttemptRecorder SystemSignature where
  attemptRepository := {
    findLatestAttemptNumber := none
    findByDeliveryId := some (AttemptRepository.findByDeliveryId production)
    recordAttempt := AttemptRepository.recordAttempt production
  }
  logger := logger

/-- The calls behind a recorded attempt: attempts are read and added, and the counters of a
delivery are written, but not its status.
-/
def isAttemptCall : SystemCall → Bool
  | .now => true
  | .database (.attemptFindMany _) => true
  | .database (.attemptCount _) => true
  | .database (.attemptCreate _ _ _ _ _) => true
  | .database (.deliveryUpdate _ data) => data.status.isNone
  | _ => false

section
variable (production : Bool)

/-- Awaiting one of these calls. -/
theorem awaitDatabase_awaits {call : DatabaseCall}
    (attempt : isAttemptCall (.database call) = true)
    : Program.Awaits (α := no_index call.Result) (fun call => isAttemptCall call = true)
        (awaitDatabase call) :=
  .perform attempt

theorem executeQuery_awaits {α : Type} {query : SystemProgram α}
    (h : query.Awaits (fun call => isAttemptCall call = true))
    : (executeQuery production query).Awaits (fun call => isAttemptCall call = true) :=
  h.catchError (fun _ => trivial)

theorem findByDeliveryId_awaits (deliveryId : String)
    : (AttemptRepository.findByDeliveryId production deliveryId).Awaits
        (fun call => isAttemptCall call = true) := by
  refine executeQuery_awaits production ?_
  refine (awaitDatabase_awaits rfl).bind (fun records => ?_)
  exact (awaitDatabase_awaits rfl).bind (fun _ => trivial)

theorem recordAttempt_awaits (deliveryId : String) (attemptNumber : Int)
    (responseStatus : Option Int) (responseTimeMs : Int) (errorMessage : Option String)
    : (AttemptRepository.recordAttempt production deliveryId attemptNumber responseStatus
        responseTimeMs errorMessage).Awaits (fun call => isAttemptCall call = true) := by
  unfold AttemptRepository.recordAttempt
  split
  · trivial
  · refine executeQuery_awaits production ?_
    refine (awaitDatabase_awaits rfl).bind (fun _ => ?_)
    refine Program.Awaits.bind (.perform rfl) (fun now => ?_)
    refine Program.Awaits.catchError ?_ (fun error => ?_)
    · exact (awaitDatabase_awaits rfl).bind (fun _ => trivial)
    · cases error with
      | nullish => trivial
      | text _ => trivial
      | error object =>
          by_cases missing : (Thrown.error object).code = some "P2025"
          · simp only [missing, if_true]
            trivial
          · simp only [missing, if_false]
            trivial

/-- The recorder makes no other calls. -/
theorem record_awaits (logger : Bool) (deliveryId : String) (attempt : AttemptObject)
    : ((workerAttemptRecorder production logger).record deliveryId attempt).Awaits
        (fun call => isAttemptCall call = true) := by
  refine Program.Awaits.catchError ?_ (fun error => ?_)
  · refine Program.Awaits.bind ?_ (fun attemptNumber => ?_)
    · exact (findByDeliveryId_awaits production deliveryId).bind (fun _ => trivial)
    · exact (recordAttempt_awaits production deliveryId _ _ _ _).bind (fun _ => trivial)
  · split <;> trivial

/-- What recording an attempt throws is no nullish exception either. -/
theorem run_recordAttempt_thrown (env : Environment) (process : Nat) (deliveryId : String)
    (attemptNumber : Int) (responseStatus : Option Int) (responseTimeMs : Int)
    (errorMessage : Option String) (world : World)
    : ((AttemptRepository.recordAttempt production deliveryId attemptNumber responseStatus
        responseTimeMs errorMessage).run (system env process) world).1 ≠ .error .nullish := by
  unfold AttemptRepository.recordAttempt
  split
  · exact nofun
  · exact run_executeQuery_thrown production env process _ world

/-- Nor is what numbering it throws. -/
theorem run_nextAttemptNumber_thrown (env : Environment) (process : Nat) (logger : Bool)
    (deliveryId : String) (world : World)
    : (((workerAttemptRecorder production logger).nextAttemptNumber deliveryId).run
        (system env process) world).1 ≠ .error .nullish := by
  have numbers
      : (workerAttemptRecorder production logger).nextAttemptNumber deliveryId
        = (AttemptRepository.findByDeliveryId production deliveryId).bind
            (fun existing => .done ((existing.length : Int) + 1)) :=
    rfl
  have found
      : ((AttemptRepository.findByDeliveryId production deliveryId).run (system env process)
          world).1 ≠ .error .nullish :=
    run_executeQuery_thrown production env process _ world
  rw [numbers, Program.run_bind]
  generalize (AttemptRepository.findByDeliveryId production deliveryId).run
    (system env process) world = outcome at found ⊢
  rcases outcome with ⟨error | existing, after⟩
  · intro nullish
    exact found (congrArg Except.error (Except.error.inj nullish))
  · exact nofun

/-- The recorder always returns: whatever the database does, the exception can be logged. -/
theorem run_record_returns (env : Environment) (process : Nat) (logger : Bool)
    (deliveryId : String) (attempt : AttemptObject) (world : World)
    : ∃ recorded,
        (((workerAttemptRecorder production logger).record deliveryId attempt).run
          (system env process) world).1 = .ok recorded := by
  have swallowed
      : ∀ (error : Thrown) (after : World),
          error ≠ .nullish
          → ∃ recorded,
              (Program.run (system env process)
                (if (workerAttemptRecorder production logger).logger ∧ error = .nullish then
                  throw
                    (newTypeError "Cannot read properties of undefined (reading 'message')")
                else
                  pure none : SystemProgram (Option AttemptRecord)) after).1 = .ok recorded := by
    intro error after given
    rw [if_neg (fun both => given both.2)]
    exact ⟨none, rfl⟩
  have numbered := run_nextAttemptNumber_thrown production env process logger deliveryId world
  rw [AttemptRecorder.record, Program.tryCatch_eq, Program.run_catchError, Program.bind_eq,
    Program.run_bind]
  generalize ((workerAttemptRecorder production logger).nextAttemptNumber deliveryId).run
    (system env process) world = outcome at numbered ⊢
  rcases outcome with ⟨error | attemptNumber, after⟩
  · exact swallowed error after (fun nullish => numbered (congrArg Except.error nullish))
  · have created
        : ((AttemptRepository.recordAttempt production deliveryId attemptNumber
            (some (AttemptRecorder.toRecord deliveryId attemptNumber attempt).statusCode)
            (AttemptRecorder.toRecord deliveryId attemptNumber attempt).latencyMs
            (AttemptRecorder.toRecord deliveryId attemptNumber attempt).errorMessage).run
              (system env process) after).1 ≠ .error .nullish :=
      run_recordAttempt_thrown production env process deliveryId attemptNumber _ _ _ after
    have records
        : (workerAttemptRecorder production logger).attemptRepository.recordAttempt
          = AttemptRepository.recordAttempt production :=
      rfl
    simp only [Program.bind_eq, Program.run_bind, records]
    generalize (AttemptRepository.recordAttempt production deliveryId attemptNumber
        (some (AttemptRecorder.toRecord deliveryId attemptNumber attempt).statusCode)
        (AttemptRecorder.toRecord deliveryId attemptNumber attempt).latencyMs
        (AttemptRecorder.toRecord deliveryId attemptNumber attempt).errorMessage).run
        (system env process) after = outcome at created ⊢
    rcases outcome with ⟨error | _, final⟩
    · exact swallowed error final (fun nullish => created (congrArg Except.error nullish))
    · exact ⟨_, rfl⟩

end

end QueueForge.Worker
