import QueueForge.Domain.Destination
import QueueForge.Domain.ValueObjects

/-! The destination entity with all its settings: how its deliveries are retried, when its breaker
opens and how long a transmission may take.
-/

namespace QueueForge.Domain

open QueueForge.Js

/-- `text.startsWith(part)`. -/
def startsWith (text part : String) : Bool :=
  part.toList.isPrefixOf text.toList

/-- `DestinationTypeVO.create(value)`. -/
def DestinationType.create (value : String) : Except Thrown DestinationType :=
  match toUpperCase value with
  | "WEBHOOK" => .ok .webhook
  | "DATABASE" => .ok .database
  | "QUEUE" => .ok .queue
  | "AUDIT" => .ok .audit
  | _ => .error (.error (validationError s!"Invalid DestinationType: \"{value}\"."))

/-- Only the endpoint of a webhook has a format. -/
def DestinationType.ValidEndpoint (type : DestinationType) (endpoint : String) : Prop :=
  type = .webhook → startsWith endpoint "http://" ∨ startsWith endpoint "https://"

instance (type : DestinationType) (endpoint : String) : Decidable (type.ValidEndpoint endpoint) :=
  inferInstanceAs (Decidable (_ → _))

/-- A destination as its constructor accepts it. -/
structure RegisteredDestination extends DeliveryDestination where
  retryStrategy : RetryStrategyVO
  circuitBreakerThreshold : Number
  timeout : Number
  metadata : List (String × Json)
  createdAt : Date
  updatedAt : Date
  endpointNonempty : endpoint ≠ ""
  endpointValid : type.ValidEndpoint endpoint
  thresholdPositive : circuitBreakerThreshold.lt 1 = false
  timeoutPositive : timeout.lt 1 = false

/-- The default threshold passes the check of the constructor. -/
theorem defaultThreshold_positive : Number.lt 5 1 = false := by decide

/-- So does the default timeout. -/
theorem defaultTimeout_positive : Number.lt 30000 1 = false := by decide

/-- The id that the destinations of the examples have. -/
theorem firstDestination_named : "destination-1" ≠ "" := by decide

/-- The `retryStrategy` parameter of `restore`: an instance, an object with a type, or neither. -/
inductive GivenStrategy where
  | valueObject (strategy : RetryStrategyVO)
  | plain (type : String) (config : RetryConfig)
  | missing

/-- The parameters of `restore`; `none` stands for `undefined` or `null`. -/
structure RestoreParams where
  id : String
  type : Option DestinationType := none
  destinationType : String := "undefined"
  endpoint : Option String := none
  endpointUrl : Option String := none
  eventFilters : Option (List (String × Json)) := none
  retryStrategy : GivenStrategy := .missing
  circuitBreakerThreshold : Option Number := none
  timeout : Option Number := none
  enabled : Option Bool := none
  metadata : Option (List (String × Json)) := none
  createdAt : Date
  updatedAt : Option Date := none
  deletedAt : Option Int := none

namespace RegisteredDestination

/-- The checks and defaults of the constructor. -/
def new (id : String) (type : DestinationType) (endpoint : String)
    (eventFilters : Option (List (String × Json))) (retryStrategy : RetryStrategyVO)
    (circuitBreakerThreshold timeout : Number) (enabled : Bool) (metadata : List (String × Json))
    (createdAt : Date) (updatedAt : Option Date) (deletedAt : Option Int)
    : Except Thrown RegisteredDestination :=
  if idNonempty : id ≠ "" then
    if endpointNonempty : endpoint ≠ "" then
      if thresholdPositive : circuitBreakerThreshold.lt 1 = false then
        if timeoutPositive : timeout.lt 1 = false then
          if endpointValid : type.ValidEndpoint endpoint then
            .ok {
              id := id
              eventFilters := eventFilters
              enabled := enabled
              deletedAt := deletedAt
              idNonempty := idNonempty
              type := type
              endpoint := endpoint
              retryStrategy := retryStrategy
              circuitBreakerThreshold := circuitBreakerThreshold
              timeout := timeout
              metadata := metadata
              createdAt := createdAt
              updatedAt := updatedAt.getD createdAt
              endpointNonempty := endpointNonempty
              endpointValid := endpointValid
              thresholdPositive := thresholdPositive
              timeoutPositive := timeoutPositive
            }
          else
            rejected
              ("Webhook endpoint must start with http:// or https://. Received: " ++ endpoint)
        else
          rejected "Destination timeout must be a positive integer."
      else
        rejected "Circuit breaker threshold must be an integer >= 1."
    else
      rejected "Destination endpoint must be a non-empty string."
  else
    rejected "Destination ID must be a non-empty string."
where
  rejected (message : String) : Except Thrown RegisteredDestination :=
    .error (.error (validationError message))

/-- Static restore method for rehydrating from database / persistence. -/
def restore (numberText : Number → String) (params : RestoreParams)
    : Except Thrown RegisteredDestination := do
  let typeObj ←
    match params.type with
    | some type => .ok type
    | none => DestinationType.create params.destinationType
  let endpointStr := (orString params.endpoint params.endpointUrl).getD ""
  let retryObj ←
    match params.retryStrategy with
    | .valueObject strategy => .ok strategy
    | .plain type config => RetryStrategyVO.new numberText type config
    | .missing => RetryStrategyVO.exponential numberText
  new params.id typeObj endpointStr params.eventFilters retryObj
    (params.circuitBreakerThreshold.getD 5) (params.timeout.getD 30000)
    (params.enabled.getD true) (params.metadata.getD []) params.createdAt params.updatedAt
    params.deletedAt

/-- Arguments that pass the checks are kept as they are. -/
theorem new_of_valid {id : String} {type : DestinationType} {endpoint : String}
    {circuitBreakerThreshold timeout : Number} (eventFilters : Option (List (String × Json)))
    (retryStrategy : RetryStrategyVO) (enabled : Bool) (metadata : List (String × Json))
    (createdAt : Date) (updatedAt : Option Date) (deletedAt : Option Int) (idNonempty : id ≠ "")
    (endpointNonempty : endpoint ≠ "") (endpointValid : type.ValidEndpoint endpoint)
    (thresholdPositive : circuitBreakerThreshold.lt 1 = false)
    (timeoutPositive : timeout.lt 1 = false)
    : new id type endpoint eventFilters retryStrategy circuitBreakerThreshold timeout enabled metadata
        createdAt updatedAt deletedAt
      = .ok {
          id := id
          eventFilters := eventFilters
          enabled := enabled
          deletedAt := deletedAt
          idNonempty := idNonempty
          type := type
          endpoint := endpoint
          retryStrategy := retryStrategy
          circuitBreakerThreshold := circuitBreakerThreshold
          timeout := timeout
          metadata := metadata
          createdAt := createdAt
          updatedAt := updatedAt.getD createdAt
          endpointNonempty := endpointNonempty
          endpointValid := endpointValid
          thresholdPositive := thresholdPositive
          timeoutPositive := timeoutPositive
        } := by
  unfold new
  rw [dif_pos idNonempty, dif_pos endpointNonempty, dif_pos thresholdPositive,
    dif_pos timeoutPositive, dif_pos endpointValid]

/-- The settings that decide what the destination receives, and how. -/
structure SameSettings (left right : RegisteredDestination) : Prop where
  type : left.type = right.type
  endpoint : left.endpoint = right.endpoint
  eventFilters : left.eventFilters = right.eventFilters
  retryStrategy : left.retryStrategy = right.retryStrategy
  circuitBreakerThreshold : left.circuitBreakerThreshold = right.circuitBreakerThreshold
  timeout : left.timeout = right.timeout
  metadata : left.metadata = right.metadata
  enabled : left.enabled = right.enabled

/-- The settings `restore` has no parameter for are those it falls back to. -/
structure HasDefaults (destination : RegisteredDestination) : Prop where
  retryStrategy : destination.retryStrategy = RetryStrategyVO.exponentialDefault
  circuitBreakerThreshold : destination.circuitBreakerThreshold = 5
  timeout : destination.timeout = 30000
  metadata : destination.metadata = []

end RegisteredDestination

end QueueForge.Domain
