import QueueForge.Infrastructure.DeliveryRepository
import QueueForge.Infrastructure.PrismaDeliveryLogRepository

/-! `AttemptRepository` as the attempt log of the application services, which pass it their
arguments as they have them.
-/

namespace QueueForge.Infrastructure.AttemptRepository

open QueueForge.Async QueueForge.Js QueueForge.Application

/-- An `Int?` argument: the column's value, if it is an integer or missing. -/
def nullableInt : Value → Option (Option Int)
  | .undefined => some none
  | .null => some none
  | .number (.finite value) => if value.den = 1 then some (some value.num) else none
  | _ => none

@[simp] theorem nullableInt_ofInt (value : Int)
    : nullableInt (.number (.ofInt value)) = some (some value) :=
  rfl

/-- Prisma's error for an attempt with a value of the wrong type. -/
def attemptRejected : Thrown :=
  .error
    (builtinError .error "PrismaClientValidationError"
      "Invalid value provided for an argument of the attempt.")

/-- `data.responseStatus` is given and out of its range. -/
def statusRejected (language : Language) : Value → Bool
  | .undefined => false
  | .null => false
  | status => (language.number status).lt 100 || Number.lt 599 (language.number status)

variable (production : Bool)

/-- `recordAttempt` with the arguments of the application services. Called with two of them it
takes the data for the number and has no data to read.
-/
def recordArguments (language : Language) (deliveryId : String) (attemptNumber : Option Int)
    (data : AttemptData)
    : SystemProgram Unit :=
  match attemptNumber with
  | none =>
      throw (newTypeError "Cannot read properties of undefined (reading 'responseStatus')")
  | some attemptNumber =>
      match nullableInt data.responseStatus, nullableInt data.responseTimeMs,
          nullableText data.errorMessage with
      | some responseStatus, some responseTimeMs, some errorMessage =>
          recordAttempt production deliveryId attemptNumber responseStatus
            (responseTimeMs.getD 0) errorMessage
      | _, _, _ =>
          -- no row takes such an argument, but the status is checked before it is tried
          if statusRejected language data.responseStatus then
            throw (.error (validationError "Invalid HTTP response status range"))
          else
            executeQuery production (throw attemptRejected)

/-- Tables that work: an attempt is stored, and the counters of its delivery are updated unless
the delivery is gone.
-/
structure WorkingTables {σ : Type} (tables : Handler SystemSignature Thrown σ) : Prop where
  timed : ∀ world, ∃ now, (tables .now world).1 = .ok now
  stores
    : ∀ deliveryId attemptNumber responseStatus responseTimeMs errorMessage world,
        (tables
            (.database
              (.attemptCreate deliveryId attemptNumber responseStatus responseTimeMs
                errorMessage))
            world).1
        = .ok ()
  updates
    : ∀ deliveryId data world,
        (∃ row, (tables (.database (.deliveryUpdate deliveryId data)) world).1 = .ok row)
        ∨ ∃ object : ErrorObject,
            (tables (.database (.deliveryUpdate deliveryId data)) world).1
              = .error (.error object)
            ∧ object.code = some "P2025"

section
variable {σ : Type} {tables : Handler SystemSignature Thrown σ} {world : σ}
  {deliveryId : String} {attemptNumber responseTimeMs : Int} {responseStatus : Option Int}
  {errorMessage : Option String}

/-- A status the check lets pass. -/
theorem statusAccepted {status : Int} (inRange : 100 ≤ status ∧ status ≤ 599)
    : ¬(some status).any (fun status => status < 100 ∨ 599 < status) = true := by
  simp only [Option.any_some, decide_eq_true_eq]
  omega

/-- Any other. -/
theorem statusOutOfRange {status : Int} (outOfRange : ¬(100 ≤ status ∧ status ≤ 599))
    : (some status).any (fun status => status < 100 ∨ 599 < status) = true := by
  simp only [Option.any_some, decide_eq_true_eq]
  omega

/-- Over working tables an attempt that passes the check is recorded. -/
theorem run_recordAttempt (working : WorkingTables tables)
    (accepted : ¬responseStatus.any (fun status => status < 100 ∨ 599 < status) = true)
    : ((recordAttempt production deliveryId attemptNumber responseStatus responseTimeMs
        errorMessage).run tables world).1
      = .ok () := by
  unfold recordAttempt executeQuery
  rw [if_neg accepted, Program.run_catchError]
  simp only [awaitDatabase, awaitNow, Program.bind_eq, Program.tryCatch_eq, Program.run_bind,
    Program.run_perform]
  have stored :=
    working.stores deliveryId attemptNumber responseStatus responseTimeMs errorMessage world
  rcases creation : tables
      (.database
        (.attemptCreate deliveryId attemptNumber responseStatus responseTimeMs errorMessage))
      world with ⟨answer, afterCreation⟩
  rw [creation] at stored
  obtain rfl : answer = .ok () := stored
  dsimp only
  obtain ⟨now, reads⟩ := working.timed afterCreation
  rcases reading : tables .now afterCreation with ⟨time, afterReading⟩
  rw [reading] at reads
  obtain rfl : time = .ok now := reads
  dsimp only
  rw [Program.run_catchError]
  simp only [Program.run_bind, Program.run_perform]
  generalize ({
    retryCount := some attemptNumber
    lastError := some errorMessage
    lastAttemptAt := some now
  } : DeliveryUpdate) = data
  rcases updating : tables (.database (.deliveryUpdate deliveryId data)) afterReading with
    ⟨outcome, afterUpdate⟩
  have updated := working.updates deliveryId data afterReading
  rw [updating] at updated
  rcases updated with ⟨row, resolved⟩ | ⟨object, rejected, gone⟩
  · obtain rfl : outcome = .ok row := resolved
    rfl
  · obtain rfl : outcome = .error (.error object) := rejected
    simp [Thrown.code, gone]

/-- Any other is rejected before anything is touched. -/
theorem run_recordAttempt_rejected
    (rejected : responseStatus.any (fun status => status < 100 ∨ 599 < status) = true)
    : (recordAttempt production deliveryId attemptNumber responseStatus responseTimeMs
        errorMessage).run tables world
      = (.error (.error (validationError "Invalid HTTP response status range")), world) := by
  unfold recordAttempt
  rw [if_pos rejected]
  rfl

/-- Working tables that reject an attempt are as they were, whatever the arguments. -/
theorem recordArguments_rejected (working : WorkingTables tables) {language : Language}
    {attemptNumber : Option Int} {data : AttemptData} {error : Thrown}
    (rejected
      : ((recordArguments production language deliveryId attemptNumber data).run tables
            world).1
        = .error error)
    : ((recordArguments production language deliveryId attemptNumber data).run tables world).2
      = world := by
  unfold recordArguments at rejected ⊢
  cases attemptNumber with
  | none => rfl
  | some attemptNumber =>
      dsimp only at rejected ⊢
      split
      · rename_i responseStatus responseTimeMs errorMessage
          statusGiven timeGiven messageGiven
        simp only [statusGiven, timeGiven, messageGiven] at rejected
        by_cases outOfRange
            : responseStatus.any (fun status => status < 100 ∨ 599 < status) = true
        · rw [run_recordAttempt_rejected production outOfRange]
        · rw [run_recordAttempt production working outOfRange] at rejected
          exact nomatch rejected
      · split
        · rfl
        · rfl

end

end QueueForge.Infrastructure.AttemptRepository
