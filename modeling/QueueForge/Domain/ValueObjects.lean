import QueueForge.Domain.DeliveryStatus

/-! The value objects a delivery is built from.
Each carries what its constructor checks, so that a value the constructor rejects cannot
occur in a delivery.
-/

namespace QueueForge.Domain

open QueueForge.Js

inductive DeliveryErrorCategory where
  | transient
  | permanent
  | network
  | timeout
  | server
  | unknown
deriving DecidableEq, Repr

/-- The category a constructor argument names, by its upper-case spelling. -/
def DeliveryErrorCategory.ofString (text : String) : DeliveryErrorCategory :=
  match toUpperCase text with
  | "TRANSIENT" => .transient
  | "PERMANENT" => .permanent
  | "NETWORK" => .network
  | "TIMEOUT" => .timeout
  | "SERVER" => .server
  | _ => .unknown

/-- An error that occurred during a destination delivery attempt. -/
structure DeliveryError where
  category : DeliveryErrorCategory
  message : String
  statusCode : Option Number
  deliveryId : Option String
  messageNonempty : message ≠ ""
deriving DecidableEq

namespace DeliveryError

/-- `new DeliveryError(categoryOrDeliveryId, message, statusCodeOrRetryable, statusCode)`.
A boolean third argument makes the first one a delivery id.
-/
def new (categoryOrDeliveryId : String) (message : Value)
    (statusCodeOrRetryable : Value := .undefined) (statusCode : Option Number := none)
    : Except Thrown DeliveryError :=
  match message with
  | .string text =>
      if nonempty : text ≠ "" then
        match statusCodeOrRetryable with
        | .bool retryable =>
            .ok {
              category := if retryable then .transient else .permanent
              message := text
              statusCode := statusCode
              deliveryId := some categoryOrDeliveryId
              messageNonempty := nonempty
            }
        | .number code =>
            .ok {
              category := .ofString categoryOrDeliveryId
              message := text
              statusCode := some code
              deliveryId := none
              messageNonempty := nonempty
            }
        | _ =>
            .ok {
              category := .ofString categoryOrDeliveryId
              message := text
              statusCode := none
              deliveryId := none
              messageNonempty := nonempty
            }
      else
        .error rejected
  | _ => .error rejected
where
  rejected : Thrown :=
    .error (validationError "DeliveryError message must be a non-empty string.")

/-- Evaluates whether the failure category is retryable. -/
def isRetryable (error : DeliveryError) : Bool :=
  match error.category with
  | .transient | .network | .timeout | .server => true
  | .permanent | .unknown => false

/-- A non-empty string is accepted as a message, whatever the other arguments. -/
theorem new_of_isText {message : Value} (category : String) (third : Value)
    (fourth : Option Number) (text : message.isText = true)
    : ∃ error, new category message third fourth = .ok error := by
  cases message with
  | string value =>
      have nonempty : value ≠ "" := of_decide_eq_true text
      cases third <;> simp [new, nonempty]
  | _ => contradiction

/-- Any other message is rejected, whatever the other arguments. -/
theorem new_of_not_isText {message : Value} (category : String) (third : Value)
    (fourth : Option Number) (text : message.isText = false)
    : new category message third fourth = .error new.rejected := by
  cases message with
  | string value =>
      have empty : value = "" := of_not_not (of_decide_eq_false text)
      simp [new, empty]
  | _ => rfl

end DeliveryError

structure RetryConfig where
  initialDelayMs : Number
  maxDelayMs : Number
  jitterFactor : Number
  maxRetries : Option Number
deriving DecidableEq

/-- The checks of the `RetryStrategyVO` constructor. A `NaN` passes each comparison. -/
structure RetryConfig.Accepted (config : RetryConfig) : Prop where
  delaysNonnegative : config.initialDelayMs.lt 0 = false ∧ config.maxDelayMs.lt 0 = false
  initialWithinMax : config.maxDelayMs.lt config.initialDelayMs = false
  jitterWithinUnit : config.jitterFactor.lt 0 = false ∧ Number.lt 1 config.jitterFactor = false

/-- A backoff algorithm and its retry configuration; the type is kept in upper case. -/
structure RetryStrategyVO where
  type : String
  config : RetryConfig
  accepted : config.Accepted

namespace RetryStrategyVO

/-- `new RetryStrategyVO(type, config)`. -/
def new (numberText : Number → String) (type : String) (config : RetryConfig)
    : Except Thrown RetryStrategyVO :=
  if delays : config.initialDelayMs.lt 0 = false ∧ config.maxDelayMs.lt 0 = false then
    if initial : config.maxDelayMs.lt config.initialDelayMs = false then
      if jitter : config.jitterFactor.lt 0 = false ∧ Number.lt 1 config.jitterFactor = false then
        .ok ⟨toUpperCase type, config, ⟨delays, initial, jitter⟩⟩
      else
        .error
          (.error
            (validationError
              s!"jitterFactor ({numberText config.jitterFactor}) must be between 0.0 and 1.0."))
    else
      .error
        (.error
          (validationError
            (s!"initialDelayMs ({numberText config.initialDelayMs}) cannot exceed "
              ++ s!"maxDelayMs ({numberText config.maxDelayMs}).")))
  else
    .error (.error (validationError "Retry delays cannot be negative."))

/-- `RetryStrategyVO.exponential(initialDelayMs, maxDelayMs, jitterFactor, maxRetries)`. -/
def exponential (numberText : Number → String) (initialDelayMs : Number := 1000)
    (maxDelayMs : Number := 3600000) (jitterFactor : Number := .finite (1 / 10))
    (maxRetries : Number := 5)
    : Except Thrown RetryStrategyVO :=
  new numberText "EXPONENTIAL" ⟨initialDelayMs, maxDelayMs, jitterFactor, some maxRetries⟩

/-- The constructor makes the strategies with an accepted configuration, and no other. -/
theorem new_eq_ok_iff {numberText : Number → String} {type : String} {config : RetryConfig}
    {strategy : RetryStrategyVO}
    : new numberText type config = .ok strategy
      ↔ strategy.type = toUpperCase type ∧ strategy.config = config := by
  constructor
  · intro made
    unfold new at made
    split at made
    · split at made
      · split at made
        · have same := Except.ok.inj made
          exact same ▸ ⟨rfl, rfl⟩
        · exact nomatch made
      · exact nomatch made
    · exact nomatch made
  · rintro ⟨type', rfl⟩
    obtain ⟨type, config, accepted⟩ := strategy
    simp only at type'
    unfold new
    rw [dif_pos accepted.delaysNonnegative, dif_pos accepted.initialWithinMax,
      dif_pos accepted.jitterWithinUnit, type']

/-- The strategy an exponential backoff has without arguments. -/
def exponentialDefault : RetryStrategyVO where
  type := "EXPONENTIAL"
  config := ⟨1000, 3600000, .finite (1 / 10), some 5⟩
  accepted := ⟨by decide, by decide, by decide +kernel⟩

theorem exponential_eq (numberText : Number → String)
    : exponential numberText = .ok exponentialDefault :=
  new_eq_ok_iff.mpr ⟨by decide, rfl⟩

/-- `maxRetries`, the configured maximum or five. -/
def maxRetries (strategy : RetryStrategyVO) : Number :=
  strategy.config.maxRetries.getD 5

/-- The jitter added to a base delay. -/
def jitter (strategy : RetryStrategyVO) (runtime : Runtime) (baseDelay : Number) : Number :=
  if Number.lt 0 strategy.config.jitterFactor then
    (baseDelay.mul strategy.config.jitterFactor).mul (.finite runtime.random)
  else
    0

/-- Computes the retry delay in milliseconds for `attemptNumber` (1-based index). -/
def calculateDelay (strategy : RetryStrategyVO) (runtime : Runtime) (attemptNumber : Number)
    : Number :=
  let attempt := Number.max 1 attemptNumber
  let delay :=
    if strategy.type = "EXPONENTIAL" then
      let power := Number.pow2 runtime.fractional (attempt.add (.ofInt (-1)))
      let baseDelay := strategy.config.initialDelayMs.mul power
      baseDelay.add (strategy.jitter runtime baseDelay)
    else if strategy.type = "LINEAR" then
      let baseDelay := strategy.config.initialDelayMs.mul attempt
      baseDelay.add (strategy.jitter runtime baseDelay)
    else
      strategy.config.initialDelayMs
  Number.min delay.floor strategy.config.maxDelayMs

/-- Checks if the attempt count reaches the configured maximum, or the given one. -/
def isMaxRetriesExceeded (strategy : RetryStrategyVO) (attemptCount : Number)
    (maxRetries : Number := 5)
    : Bool :=
  (strategy.config.maxRetries.getD maxRetries).le attemptCount

/-- Evaluates whether the attempt count can retry under the configured maximum. -/
def canRetry (strategy : RetryStrategyVO) (attemptCount : Number) : Bool :=
  !strategy.isMaxRetriesExceeded attemptCount

end RetryStrategyVO

/-- The execution metrics of a single delivery attempt, as its constructor accepts them. The
error is declared to be a string, which the constructor does not check.
-/
structure RetryAttempt where
  number : Number
  statusCode : Option Number
  error : Option Value
  latencyMs : Option Number
  timestamp : Date
  numberPositive : number.lt 1 = false
  statusCodeValid
    : ∀ code ∈ statusCode, code.lt 100 = false ∧ Number.lt 599 code = false
  latencyNonnegative : ∀ latency ∈ latencyMs, latency.lt 0 = false

namespace RetryAttempt

/-- The check of the constructor on a status code. -/
def checkStatusCode (toText : Value → String)
    : Value
      → Except Thrown
          { statusCode : Option Number
            // ∀ code ∈ statusCode, code.lt 100 = false ∧ Number.lt 599 code = false }
  | .undefined => .ok ⟨none, nofun⟩
  | .null => .ok ⟨none, nofun⟩
  | .number code =>
      if valid : code.lt 100 = false ∧ Number.lt 599 code = false then
        .ok ⟨some code, fun _ same => Option.some.inj same ▸ valid⟩
      else
        .error (rejected (.number code))
  | other => .error (rejected other)
where
  rejected (statusCode : Value) : Thrown :=
    .error (validationError s!"Invalid HTTP status code in RetryAttempt: {toText statusCode}.")

/-- The check of the constructor on a latency. -/
def checkLatency
    : Value
      → Except Thrown
          { latencyMs : Option Number // ∀ latency ∈ latencyMs, latency.lt 0 = false }
  | .undefined => .ok ⟨none, nofun⟩
  | .null => .ok ⟨none, nofun⟩
  | .number latency =>
      if valid : latency.lt 0 = false then
        .ok ⟨some latency, fun _ same => Option.some.inj same ▸ valid⟩
      else
        .error rejected
  | _ => .error rejected
where
  rejected : Thrown :=
    .error (validationError "Latency in milliseconds cannot be negative.")

/-- `RetryAttempt.create(number, statusCode, error, latencyMs)`. The last three take whatever
they are given.
-/
def create (runtime : Runtime) (toText : Value → String) (number : Number)
    (statusCode error latencyMs : Value)
    : Except Thrown RetryAttempt :=
  if positive : number.lt 1 = false then do
    let ⟨statusCode, statusCodeValid⟩ ← checkStatusCode toText statusCode
    let ⟨latencyMs, latencyNonnegative⟩ ← checkLatency latencyMs
    .ok {
      number := number
      statusCode := statusCode
      error :=
        match error with
        | .undefined => none
        | .null => none
        | value => some value
      latencyMs := latencyMs
      timestamp := some runtime.now
      numberPositive := positive
      statusCodeValid := statusCodeValid
      latencyNonnegative := latencyNonnegative
    }
  else
    .error
      (.error (validationError "Retry attempt number must be a positive integer >= 1."))

/-- An attempt made without a number for its latency has none: any other value is rejected. -/
theorem latencyMs_of_create {runtime : Runtime} {toText : Value → String} {number : Number}
    {statusCode error latencyMs : Value} {attempt : RetryAttempt}
    (made : create runtime toText number statusCode error latencyMs = .ok attempt)
    (other : ∀ latency, latencyMs ≠ .number latency)
    : attempt.latencyMs = none := by
  unfold create at made
  split at made
  · cases checked : checkStatusCode toText statusCode with
    | error thrown =>
        rw [checked] at made
        exact nomatch made
    | ok code =>
        rw [checked] at made
        cases latencyMs with
        | undefined => exact congrArg RetryAttempt.latencyMs (Except.ok.inj made).symm
        | null => exact congrArg RetryAttempt.latencyMs (Except.ok.inj made).symm
        | number latency => exact absurd rfl (other latency)
        | _ => exact nomatch made
  · exact nomatch made

end RetryAttempt

/-- An object with the members of an attempt that is no instance of the class. -/
structure PlainAttempt where
  number : Number
  statusCode : Number
  latencyMs : Number
  error : Option String
deriving DecidableEq

/-- What stands in the attempt history of a delivery. -/
inductive AttemptEntry where
  | valueObject (attempt : RetryAttempt)
  | plain (attempt : PlainAttempt)

/-! The ids that the deliveries of the examples have. -/

theorem delivery_named : "delivery" ≠ "" := by decide

theorem result_named : "result" ≠ "" := by decide

theorem destination_named : "destination" ≠ "" := by decide

end QueueForge.Domain
