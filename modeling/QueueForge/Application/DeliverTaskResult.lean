import QueueForge.Application.ServiceCalls
import QueueForge.Domain.DeliveryEffects
import QueueForge.Domain.Destination
import QueueForge.Domain.TaskResult

/-! `DeliverTaskResultUseCase`: posts a task result to a webhook and saves a delivery with the
outcome. The settings of the post are read from the event filters of the destination.
-/

namespace QueueForge.Application

open QueueForge.Async QueueForge.Js QueueForge.Domain

inductive DeliverCall where
  | runtime
  | randomUUID
  | findTaskResult (id : String)
  | findDestination (id : String)
  | post (url : String) (payload : List (String × Json)) (headers : List (String × Json))
      (timeoutMs : Number)
  | save (delivery : Delivery)

abbrev DeliverCall.Result : DeliverCall → Type
  | runtime => Runtime
  | randomUUID => Uuid
  | findTaskResult _ => Option AiTaskResult
  | findDestination _ => Option DeliveryDestination
  | post _ _ _ _ => Option HttpResponse
  | save _ => Unit

abbrev DeliverSignature : Signature where
  Op := DeliverCall
  Result := DeliverCall.Result

abbrev DeliverProgram (α : Type) : Type := Program DeliverSignature Thrown α

/-- Await a call of the use case. -/
def awaitDeliver (call : DeliverCall) : DeliverProgram call.Result :=
  Program.perform (S := DeliverSignature) call

@[simp] theorem run_awaitDeliver {σ : Type} {handler : Handler DeliverSignature Thrown σ}
    {call : DeliverCall} {world : σ}
    : Program.run (α := no_index call.Result) handler (awaitDeliver call) world
      = handler call world :=
  Program.run_perform

/-- What the use case takes from the language and from `crypto`: how a number is spelled, what
a JSON value is as a number and as the operand of a spread, and the signature of a text.
-/
structure DeliverLibrary where
  numberText : Number → String
  toNumber : Json → Number
  spread : Json → List (String × Json)
  hmac : (secret : Json) → (text : String) → Except Thrown String

/-- `members[key] = value`. -/
def setMember (members : List (String × Json)) (key : String) (value : Json)
    : List (String × Json) :=
  if members.any (fun member => member.1 = key) then
    members.map (fun member => if member.1 = key then (key, value) else member)
  else
    members ++ [(key, value)]

/-- `value ?? fallback` on a member that may be missing. -/
def coalesceJson : Option Json → Option Json
  | none | some .null => none
  | some value => some value

/-- What the use case knows of a post once it has settled. -/
structure PostOutcome where
  success : Bool
  responseStatus : Option Number
  errorMessage : Option String
deriving DecidableEq

namespace DeliverTaskResultUseCase

variable (library : DeliverLibrary)

def timeoutMs (filters : List (String × Json)) : Number :=
  match coalesceJson (filters.lookup "timeoutMs") with
  | some value => library.toNumber value
  | none => 5000

/-- The headers before they are signed: those of the settings come last. -/
def unsignedHeaders (taskResult : AiTaskResult) (attempt : Number)
    (filters : List (String × Json))
    : List (String × Json) :=
  let customHeaders :=
    ((coalesceJson (filters.lookup "headers")).map library.spread).getD []
  customHeaders.foldl (fun headers custom => setMember headers custom.1 custom.2)
    [("Content-Type", .string "application/json"),
      ("X-QueueForge-Task-Id", .string taskResult.id.text),
      ("X-QueueForge-Attempt", .string (library.numberText attempt))]

/-- Generate HMAC signature if secret exists. -/
def headers (taskResult : AiTaskResult) (attempt : Number) (filters : List (String × Json))
    : Except Thrown (List (String × Json)) :=
  let headers := unsignedHeaders library taskResult attempt filters
  match (filters.lookup "hmacSecret").filter Json.truthy with
  | none => .ok headers
  | some hmacSecret => do
      let payload := Json.object taskResult.resultPayload
      let signature ← library.hmac hmacSecret (payload.stringify library.numberText)
      return setMember headers "X-QueueForge-Signature" (.string signature)

/-- The outcome of a response: a success if its status is 2xx. -/
def received (response : HttpResponse) : PostOutcome :=
  match response.status with
  | some status =>
      let success := Number.le 200 status && status.lt 300
      {
        success := success
        responseStatus := some status
        errorMessage :=
          if success then
            none
          else
            some s!"Received non-2xx status code: {library.numberText status}"
      }
  | none => {
      success := false
      responseStatus := none
      errorMessage := some "Received non-2xx status code: undefined"
    }

/-- The outcome of an exception, which must not be nullish. -/
def notReceived : Thrown → Except Thrown PostOutcome
  | .nullish => .error (newTypeError "Cannot read properties of undefined (reading 'message')")
  | error =>
      .ok {
        success := false
        responseStatus := some 0
        errorMessage := orString error.message (some "Unknown network error")
      }

/-- The outcome of what the HTTP client settled with. -/
def postOutcome : Settled Thrown (Option HttpResponse) → Except Thrown PostOutcome
  | .ok (some response) => .ok (received library response)
  | .ok none =>
      notReceived (newTypeError "Cannot read properties of null (reading 'status')")
  | .error error => notReceived error

/-- `Delivery.restore` of a pending delivery with a new identifier. -/
def restorePending (runtime : Runtime) (id : Uuid) (taskResultId destinationId : String)
    : Except Thrown Delivery :=
  Delivery.create runtime id.text taskResultId destinationId

/-- Manage Delivery state machine. -/
def recordOutcome (runtime : Runtime) (attempt maxRetries : Number) (outcome : PostOutcome)
    : Mutation Unit := do
  Delivery.markProcessing runtime
  Delivery.incrementRetryCount runtime
  if outcome.success then
    Delivery.markCompleted runtime (outcome.responseStatus.map TimeArgument.number)
  else
    let errorMessage := orString outcome.errorMessage none
    Delivery.markFailed runtime (.other (.string (errorMessage.getD "Delivery failed")))
      (.decided (attempt.lt maxRetries))
    if maxRetries.le attempt then
      Delivery.moveToDLQ runtime (.string (errorMessage.getD "Max retries reached"))
    else
      Delivery.scheduleRetry runtime (.date (.ofNumber (.ofInt (runtime.now + 5000))))

/-- The delivery that is saved. -/
def deliveryOf (runtime : Runtime) (id : Uuid) (taskResultId destinationId : String)
    (attempt maxRetries : Number) (outcome : PostOutcome)
    : Except Thrown Delivery := do
  let delivery ← restorePending runtime id taskResultId destinationId
  let recorded := (recordOutcome runtime attempt maxRetries outcome).apply delivery
  recorded.1.map (fun _ => recorded.2)

/-- The error of an attempt that failed. -/
def deliveryFailed (destinationId : String) (attempt maxRetries : Number)
    (errorMessage : Option String)
    : Thrown :=
  let attemptText := library.numberText attempt
  let errorText := errorMessage.getD "null"
  if maxRetries.le attempt then
    newError
      (s!"Delivery failed to destination {destinationId} after {attemptText} attempts. "
        ++ s!"Permanent failure (DLQ). Error: {errorText}")
  else
    newError s!"Delivery attempt {attemptText} failed. Error: {errorText}"

/-- `execute` once the task result and an enabled webhook are found. -/
def deliver (taskResult : AiTaskResult) (destination : DeliveryDestination)
    (taskResultId destinationId : String) (attempt maxRetries : Number)
    : DeliverProgram Unit := do
  let filters := destination.eventFilters.getD []
  let headers ← Program.ofResult (headers library taskResult attempt filters)
  let answer ←
    (awaitDeliver
      (.post destination.endpoint taskResult.resultPayload headers
        (timeoutMs library filters))).settle
  let outcome ← Program.ofResult (postOutcome library answer)
  let runtime ← awaitDeliver .runtime
  let id ← awaitDeliver .randomUUID
  let delivery ←
    Program.ofResult
      (deliveryOf runtime id taskResultId destinationId attempt maxRetries outcome)
  awaitDeliver (.save delivery)
  if outcome.success then
    pure ()
  else
    throw (deliveryFailed library destinationId attempt maxRetries outcome.errorMessage)

def execute (taskResultId destinationId : String) (attempt : Number) (maxRetries : Number := 5)
    : DeliverProgram Unit := do
  let found ← awaitDeliver (.findTaskResult taskResultId)
  match found with
  | none => throw (newError s!"TaskResult with ID {taskResultId} not found")
  | some taskResult =>
      let found ← awaitDeliver (.findDestination destinationId)
      match found with
      | none => throw (newError s!"Destination with ID {destinationId} not found")
      | some destination =>
          if destination.enabled = false then
            pure ()
          else if destination.type.kind ≠ "webhook" then
            throw (newError s!"Unsupported destination type: {destination.type.kind}")
          else
            deliver library taskResult destination taskResultId destinationId attempt maxRetries

/-! What the use case saves: a delivery in its first attempt. -/

/-- The deliveries agree on what a new row is made of, and the later one can be stored. -/
structure SameRecord (before after : Delivery) : Prop where
  entity : before.SameEntity after
  retryCount : after.retryCount = before.retryCount
  createdAt : after.createdAt = before.createdAt
  storable : after.nextRetryAt ≠ some none

section
variable (runtime : Runtime) {delivery : Delivery}

/-- Dead-lettering a delivery with an error on record keeps what its row is made of. -/
theorem moveToDLQ_record (reason : Value) (known : delivery.lastError.isSome = true)
    : ∃ after,
        (Delivery.moveToDLQ runtime reason).apply delivery = (.ok (), after)
        ∧ SameRecord delivery after
        ∧ after.lastError.isSome = true := by
  obtain ⟨error, recorded⟩ := Option.isSome_iff_exists.mp known
  simp only [Delivery.moveToDLQ, Delivery.moveToDeadLetterQueue, Mutation.apply_bind,
    Mutation.apply_modify, Mutation.apply_get, recorded, Option.isNone_some,
    Bool.false_eq_true, if_false]
  exact ⟨_, rfl, ⟨⟨rfl, rfl, rfl⟩, rfl, rfl, (by rintro ⟨⟩)⟩, rfl⟩

/-- A failure keeps a count that has begun. -/
theorem markFailed_record {error : FailureArgument} (retryStrategy : RetryArgument)
    (usable : error.usable = true) (counted : delivery.retryCount ≠ 0)
    (storable : delivery.nextRetryAt ≠ some none)
    : ∃ after,
        (Delivery.markFailed runtime error retryStrategy).apply delivery = (.ok (), after)
        ∧ SameRecord delivery after
        ∧ after.lastError.isSome = true := by
  obtain ⟨errObj, made⟩ := FailureArgument.toDeliveryError_of_usable usable
  simp only [Delivery.markFailed, Mutation.apply_bind, Mutation.apply_construct, made,
    Mutation.apply_get, Mutation.apply_set, if_neg counted]
  split
  · obtain ⟨after, moved, ⟨⟨id, taskResultId, destinationId⟩, count, created, stored⟩, recorded⟩ :=
      @moveToDLQ_record runtime { delivery with lastError := some errObj }
        (.string errObj.message) rfl
    exact ⟨after, moved, ⟨⟨id, taskResultId, destinationId⟩, count, created, stored⟩, recorded⟩
  · exact ⟨_, rfl, ⟨⟨rfl, rfl, rfl⟩, rfl, rfl, storable⟩, rfl⟩

/-- Whatever the outcome, a new delivery ends its first attempt. -/
theorem recordOutcome_record (attempt maxRetries : Number) (outcome : PostOutcome)
    (pending : delivery.status = .pending) (fresh : delivery.retryCount = 0)
    (unscheduled : delivery.nextRetryAt = none)
    (clock : Date.ofNumber (.ofInt (runtime.now + 5000)) ≠ none)
    : ∃ after,
        (recordOutcome runtime attempt maxRetries outcome).apply delivery = (.ok (), after)
        ∧ delivery.SameEntity after
        ∧ after.retryCount = 1
        ∧ after.createdAt = delivery.createdAt
        ∧ after.nextRetryAt ≠ some none := by
  have storable : delivery.nextRetryAt ≠ some none := by simp [unscheduled]
  simp only [recordOutcome, Delivery.markProcessing, Delivery.markAsProcessing,
    Delivery.incrementRetryCount, Mutation.apply_bind, Mutation.apply_get,
    Mutation.apply_modify, Mutation.apply_set, pending, ne_eq, not_true_eq_false, false_and,
    if_false, fresh]
  cases outcome.success with
  | true =>
      simp only [if_true, Delivery.markCompleted, Delivery.markAsCompleted, Mutation.apply_bind,
        Mutation.apply_get, not_true_eq_false, if_false, Mutation.apply_set, ne_eq]
      exact ⟨_, rfl, ⟨rfl, rfl, rfl⟩, rfl, rfl, (by rintro ⟨⟩)⟩
  | false =>
      have usable
          : (FailureArgument.other
              (.string ((orString outcome.errorMessage none).getD "Delivery failed"))).usable
            = true := by
        simp [FailureArgument.usable, Value.isText, orString_getD_ne_empty]
      obtain ⟨failed, returned, ⟨⟨id, taskResultId, destinationId⟩, count, created, stored⟩,
          recorded⟩ :=
        @markFailed_record runtime
          {
            delivery with
            status := .processing
            retryCount := 0 + 1
            lastAttemptAt := some (some runtime.now)
            updatedAt := some runtime.now
          }
          _ (.decided (attempt.lt maxRetries)) usable (by simp) storable
      simp only [Bool.false_eq_true, if_false, Mutation.apply_bind, returned]
      split
      · obtain ⟨after, moved, alike, _⟩ := moveToDLQ_record runtime
          (.string ((orString outcome.errorMessage none).getD "Max retries reached")) recorded
        exact ⟨after, moved,
          ⟨alike.entity.id.trans id, alike.entity.taskResultId.trans taskResultId,
            alike.entity.destinationId.trans destinationId⟩,
          alike.retryCount.trans count, alike.createdAt.trans created, alike.storable⟩
      · simp only [Delivery.scheduleRetry, Mutation.apply_modify]
        exact ⟨_, rfl, ⟨id, taskResultId, destinationId⟩, count, created, by simpa using clock⟩

/-- The delivery that is saved is a new one in its first attempt. -/
theorem deliveryOf_spec (id : Uuid) {taskResultId destinationId : String}
    (attempt maxRetries : Number) (outcome : PostOutcome)
    (taskResultIdNonempty : taskResultId ≠ "") (destinationIdNonempty : destinationId ≠ "")
    (clock : Date.ofNumber (.ofInt (runtime.now + 5000)) ≠ none)
    : ∃ delivery,
        deliveryOf runtime id taskResultId destinationId attempt maxRetries outcome
          = .ok delivery
        ∧ delivery.id = id.text
        ∧ delivery.taskResultId = taskResultId
        ∧ delivery.destinationId = destinationId
        ∧ delivery.retryCount = 1
        ∧ delivery.createdAt = some runtime.now
        ∧ delivery.nextRetryAt ≠ some none := by
  have restored
      : ∃ delivery,
          restorePending runtime id taskResultId destinationId = .ok delivery
          ∧ delivery.id = id.text
          ∧ delivery.taskResultId = taskResultId
          ∧ delivery.destinationId = destinationId
          ∧ delivery.status = .pending
          ∧ delivery.retryCount = 0
          ∧ delivery.nextRetryAt = none
          ∧ delivery.createdAt = some runtime.now := by
    simp only [restorePending, Delivery.create, orString, Option.getD_none, Delivery.checkIds,
      id.nonempty, taskResultIdNonempty, destinationIdNonempty, ne_eq, not_false_eq_true, dif_pos]
    exact ⟨_, rfl, rfl, rfl, rfl, rfl, rfl, rfl, rfl⟩
  obtain ⟨delivery, restored, sameId, sameResult, sameDestination, pending, fresh, unscheduled,
    created⟩ := restored
  obtain ⟨after, recorded, entity, count, createdAt, storable⟩ :=
    recordOutcome_record runtime attempt maxRetries outcome pending fresh unscheduled clock
  refine ⟨after, ?_, entity.id.trans sameId, entity.taskResultId.trans sameResult,
    entity.destinationId.trans sameDestination, count, createdAt.trans created, storable⟩
  simp only [deliveryOf, restored, recorded, Except.map, bind, Except.bind]

/-- A sequence of mutators has returned when both of its parts have. -/
theorem apply_bind_eq_ok {α β : Type} {first : Mutation α} {next : α → Mutation β}
    {delivery after : Delivery} {value : β}
    (returned : (first >>= next).apply delivery = (.ok value, after))
    : ∃ result between,
        first.apply delivery = (.ok result, between)
        ∧ (next result).apply between = (.ok value, after) := by
  rw [Mutation.apply_bind] at returned
  cases ran : first.apply delivery with
  | mk settled between =>
      rw [ran] at returned
      cases settled with
      | error error => cases returned
      | ok result => exact ⟨result, between, rfl, returned⟩

/-- The status of the delivery that is saved. -/
def statusOf (attempt maxRetries : Number) (outcome : PostOutcome) : DeliveryStatus :=
  if outcome.success then
    .completed
  else if maxRetries.le attempt then
    .failedDlq
  else
    .scheduledRetry

/-- The last mutator of an attempt assigns the status. -/
theorem recordOutcome_status {attempt maxRetries : Number} {outcome : PostOutcome}
    {delivery after : Delivery}
    (recorded : (recordOutcome runtime attempt maxRetries outcome).apply delivery = (.ok (), after))
    : after.status = statusOf attempt maxRetries outcome := by
  obtain ⟨_, processing, _, recorded⟩ := apply_bind_eq_ok recorded
  obtain ⟨_, counted, _, recorded⟩ := apply_bind_eq_ok recorded
  unfold statusOf
  split at recorded
  case isTrue success =>
    rw [if_pos success]
    simp only [Delivery.markCompleted, Delivery.markAsCompleted, Mutation.apply_bind,
      Mutation.apply_get] at recorded
    split at recorded
    case isTrue => cases recorded
    case isFalse => exact (congrArg (fun settled => settled.2.status) recorded).symm
  case isFalse failed =>
    rw [if_neg failed]
    obtain ⟨_, marked, _, recorded⟩ := apply_bind_eq_ok recorded
    split at recorded
    case isTrue exhausted =>
      have status := @Delivery.moveToDeadLetterQueue_status runtime marked
        (.string ((orString outcome.errorMessage none).getD "Max retries reached"))
      rw [if_pos exhausted]
      exact (congrArg (fun settled => settled.2.status) recorded).symm.trans status
    case isFalse left =>
      rw [if_neg left]
      exact (congrArg (fun settled => settled.2.status) recorded).symm

/-- The status of what is saved, if anything is. -/
theorem deliveryOf_status {id : Uuid} {taskResultId destinationId : String}
    {attempt maxRetries : Number} {outcome : PostOutcome} {delivery : Delivery}
    (made
      : deliveryOf runtime id taskResultId destinationId attempt maxRetries outcome = .ok delivery)
    : delivery.status = statusOf attempt maxRetries outcome := by
  obtain ⟨pending, _, made⟩ := Settled.bind_eq_ok.mp made
  dsimp only at made
  cases recorded : (recordOutcome runtime attempt maxRetries outcome).apply pending with
  | mk settled after =>
      rw [recorded] at made
      cases settled with
      | error error => cases made
      | ok _ =>
          cases made
          exact recordOutcome_status runtime recorded

end

end DeliverTaskResultUseCase

end QueueForge.Application
