import QueueForge.Async.Execution
import QueueForge.Js.Errors

/-! `TransactionManager.run`: a callback in a transaction of the database, which is opened again
after a deadlock, three times at most.
-/

namespace QueueForge.Infrastructure

open QueueForge.Async QueueForge.Js

inductive IsolationLevel where
  | readUncommitted
  | readCommitted
  | repeatableRead
  | serializable
deriving DecidableEq

/-- The options of `prisma.$transaction`. -/
structure TransactionOptions where
  timeout : Number
  isolationLevel : Option IsolationLevel

/-- What a run of the manager awaits: a transaction around its callback, or the time until the next
attempt.
-/
inductive TransactionCall where
  | transaction (options : TransactionOptions)
  | sleep (delayMs : Nat)

/-- A transaction that commits gives the value of the callback. -/
abbrev TransactionSignature (α : Type) : Signature where
  Op := TransactionCall
  Result
    | .transaction _ => α
    | .sleep _ => Unit

abbrev TransactionProgram (α : Type) : Type := Program (TransactionSignature α) Thrown α

/-- `new InfrastructureError(message)`. -/
def queryFailed (message : Option String) : Thrown :=
  .error
    (baseError .infrastructure "UNKNOWN_ERROR" 500
      ("Transaction query execution failed: " ++ message.getD "undefined"))

namespace TransactionManager

section
-- `toLowerCase` of the language, and whether the process runs in production.
variable (lowerCase : String → String) (production : Bool)

/-- Whether the database asks for another attempt: by the code of the error or by its message. -/
def isDeadlock (error : Thrown) : Bool :=
  error.code = some "P2034"
    || error.message.any (fun message => includes (lowerCase message) "deadlock")
    || error.message.any (fun message => includes (lowerCase message) "serialization")

/-- Maps database exceptions to application domain errors. -/
def handleError : Thrown → Thrown
  | .nullish => newTypeError "Cannot read properties of undefined (reading 'code')"
  | .text _ => queryFailed none
  | .error object =>
      if object.code = some "P2002" then
        let targetFields :=
          match object.details.target with
          | some target => " fields: (" ++ ", ".intercalate target ++ ")"
          | none => ""
        .error
          (conflictError
            ("Database record already exists due to unique constraint violation." ++ targetFields))
      else if object.code = some "P2003" then
        let field :=
          match orString object.details.fieldName none with
          | some fieldName => " field: " ++ fieldName
          | none => ""
        .error
          (validationError ("Database reference integrity constraint violation." ++ field))
      else if object.kind ∈ [.conflict, .validation, .internal, .infrastructure] then
        .error object
      else
        queryFailed object.message

def maxRetries : Nat := 3

/-- The loop of `runWithRetry`, with the attempts that are left and the delay before the next. -/
def attempts {α : Type} (options : TransactionOptions) : Nat → Nat → TransactionProgram α
  | 0, _ =>
      .fail (.error (internalError production "Transaction failed after maximum retries"))
  | left + 1, delay =>
      .call (.transaction options) (fun result =>
        match result with
        | .ok value => .done value
        -- reading the code of a nullish error throws, within the handler
        | .error .nullish => .fail (handleError .nullish)
        | .error err =>
            let attempt := maxRetries - left
            if isDeadlock lowerCase err && decide (attempt < maxRetries) then
              .call (.sleep delay) (fun _ => attempts options left (delay * 2))
            else
              .fail (handleError err))

/-- Internal runner executing transaction wrapper with deadlock detection retries. -/
def runWithRetry {α : Type} (isolationLevel : Option IsolationLevel) (timeout : Number)
    : TransactionProgram α :=
  attempts lowerCase production { timeout, isolationLevel } maxRetries 100

/-- Runs a callback block inside an active transaction. -/
def run {α : Type} (timeout : Number := 30000) : TransactionProgram α :=
  runWithRetry lowerCase production none timeout

/-- Runs a transaction block with a specified SQL isolation level constraint. -/
def runWithIsolation {α : Type} (level : IsolationLevel) (timeout : Number := 30000)
    : TransactionProgram α :=
  runWithRetry lowerCase production (some level) timeout

end

-----------------------------------------------------------------------------------------
-- Runs against a database
-----------------------------------------------------------------------------------------

/-- The transactions that were opened, and the delays between them, newest first. -/
structure TransactionLog where
  opened : Nat := 0
  delays : List Nat := []

/-- A database with an outcome for each transaction that is opened. -/
def database {α : Type} (outcomes : Nat → Settled Thrown α)
    : Handler (TransactionSignature α) Thrown TransactionLog
  | .transaction _, log => (outcomes log.opened, { log with opened := log.opened + 1 })
  | .sleep delayMs, log => (.ok (), { log with delays := delayMs :: log.delays })

section
variable {α : Type} (lowerCase : String → String) (outcomes : Nat → Settled Thrown α)

end

section
variable {α : Type} {lowerCase : String → String} {production : Bool}
  {outcomes : Nat → Settled Thrown α}

/-- From one transaction on, those before the last one fail with a deadlock, and the last one tells
the result.
-/
structure StopsAt (lowerCase : String → String) (outcomes : Nat → Settled Thrown α)
    (first last : Nat) (result : Settled Thrown α)
    : Prop where
  later : first ≤ last
  within : last < maxRetries
  deadlocks
    : ∀ index,
        first ≤ index
        → index < last
        → ∃ err, outcomes index = .error err ∧ isDeadlock lowerCase err = true
  told : result = (outcomes last).mapError handleError

/-- A transaction that is not followed by another one. -/
theorem StopsAt.here {last : Nat} {result : Settled Thrown α} (within : last < maxRetries)
    (told : result = (outcomes last).mapError handleError)
    : StopsAt lowerCase outcomes last last result :=
  ⟨Nat.le_refl last, within, fun _ _ _ => by omega, told⟩

end

end TransactionManager

end QueueForge.Infrastructure
