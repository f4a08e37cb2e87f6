import QueueForge.Async.Execution
import QueueForge.Domain.DeliveryEntity

/-! The calls the application services make of their repositories, queue, publisher and
HTTP client. The services take their collaborators as they come, so which methods one has
is part of the configuration.
-/

namespace QueueForge.Application

open QueueForge.Async QueueForge.Js QueueForge.Domain

/-- The conversions the language makes of values that are not what an operator expects. -/
structure Language where
  toNumber : Value → Number
  toDate : Value → Date
  toText : Value → String

namespace Language

variable (language : Language)

/-- The operand of a numeric comparison. -/
def number : Value → Number
  | .number value => value
  | other => language.toNumber other

/-- How a `number | Date` parameter reads an argument: `new Date(value)` if not a number. -/
def timeArgument : Value → TimeArgument
  | .number value => .number value
  | .date value => .date value
  | other => .date (language.toDate other)

end Language

/-- `left ?? right`. -/
def coalesce (left right : Value) : Value :=
  match left with
  | .undefined => right
  | .null => right
  | value => value

/-- `left || right`. -/
def orValue (left right : Value) : Value :=
  if left.truthy then left else right

/-- The domain events of a delivery. The services add the two of a failure before they save it;
an event is known to a repository by its name.
-/
inductive DomainEvent where
  | deliveryCompleted (responseStatus latencyMs : Value)
  | deliveryFailed (deliveryId : String) (timestamp : Int) (errorMessage : Value)
      (isRetryable : Bool) (retryCount : Int)
  | deliveryMovedToDLQ (deliveryId : String) (timestamp : Int) (finalErrorMessage : Value)
      (totalAttempts : Int)
  | other (name : String)
deriving DecidableEq

/-- A message for the event publisher. -/
structure PublishedEvent where
  name : String
  deliveryId : String
  errorMessage : Value
  retryCount : Option Int
deriving DecidableEq

/-- The data of an attempt that is to be recorded. -/
structure AttemptData where
  responseStatus : Value
  responseTimeMs : Value
  errorMessage : Value
deriving DecidableEq

/-- What a destination is read for. Each field is the first truthy one of the spellings the
service tries.
-/
structure DeliveryTarget where
  url : Value
  timeoutMs : Value
deriving DecidableEq

/-- `HttpResponse`; `none` stands for a member that is absent. -/
structure HttpResponse where
  status : Option Number
  durationMs : Option Number
deriving DecidableEq

inductive ServiceCall where
  | runtime
  | findById (id : String)
  | findByTaskResultId (taskResultId : String)
  | save (delivery : Delivery) (events : List DomainEvent)
  | enqueueDelivery (taskResultId destinationId : String) (attempt : Number) (delay : Value)
  | add (name deliveryId : String) (delay : Value) (attempts : Nat) (jobId : String)
  | recordAttempt (deliveryId : String) (attemptNumber : Option Int) (data : AttemptData)
  | publish (event : PublishedEvent)
  | findDestination (id : String)
  | findResult (id : String)
  | post (url payload : Value) (headers : List (String × String)) (timeoutMs : Value)

abbrev ServiceCall.Result : ServiceCall → Type
  | runtime => Runtime
  | findById _ => Option Delivery
  | findByTaskResultId _ => List Delivery
  | save _ _ => Unit
  | enqueueDelivery _ _ _ _ => Unit
  | add _ _ _ _ _ => Unit
  | recordAttempt _ _ _ => Unit
  | publish _ => Unit
  | findDestination _ => Option DeliveryTarget
  | findResult _ => Option Value
  | post _ _ _ _ => Option HttpResponse

namespace ServiceCall

/-- A call that puts a job in the queue. -/
def isEnqueue : ServiceCall → Bool
  | enqueueDelivery _ _ _ _ => true
  | add _ _ _ _ _ => true
  | _ => false

/-- A call that looks deliveries up. -/
def isLookup : ServiceCall → Bool
  | findById _ => true
  | findByTaskResultId _ => true
  | _ => false

/-- An attempt recorded under a number, which the repository also writes to the delivery. -/
def isNumberedAttempt : ServiceCall → Bool
  | recordAttempt _ attemptNumber _ => attemptNumber.isSome
  | _ => false

/-- The entity a call saves. -/
def saved? : ServiceCall → Option Delivery
  | save delivery _ => some delivery
  | _ => none

end ServiceCall

abbrev ServiceSignature : Signature where
  Op := ServiceCall
  Result := ServiceCall.Result

abbrev ServiceProgram (α : Type) : Type := Program ServiceSignature Thrown α

/-- Await a call of a service. -/
def awaitCall (call : ServiceCall) : ServiceProgram call.Result :=
  Program.perform (S := ServiceSignature) call

/-- A synchronous result inside a service. -/
def settled {α : Type} : Except Thrown α → ServiceProgram α
  | .ok value => .done value
  | .error error => .fail error

/-- Call a method on a delivery and go on with the delivery it leaves. -/
def applied (mutation : Mutation Unit) (delivery : Delivery) : ServiceProgram Delivery :=
  match mutation.apply delivery with
  | (.ok _, after) => .done after
  | (.error error, _) => .fail error

section
variable {Φ : Type} {contract : Contract ServiceSignature Thrown Φ} {phase : Φ}

theorem meets_awaitCall {call : ServiceCall} {post : Settled Thrown call.Result → Φ → Prop}
    : Program.Meets (α := no_index call.Result) contract (awaitCall call) phase post
      ↔ contract.allows phase call
        ∧ ∀ result after, contract.answers phase call result after → post result after :=
  Program.meets_perform

@[simp] theorem meets_settled {α : Type} {result : Except Thrown α}
    {post : Settled Thrown α → Φ → Prop}
    : (settled result).Meets contract phase post ↔ post result phase := by
  cases result <;> rfl

/-- A method call meets what its result and the delivery it leaves meet. -/
@[simp] theorem meets_applied {mutation : Mutation Unit} {delivery : Delivery}
    {post : Settled Thrown Delivery → Φ → Prop}
    : (applied mutation delivery).Meets contract phase post
      ↔ post ((mutation.apply delivery).1.map (fun _ => (mutation.apply delivery).2)) phase := by
  unfold applied
  rcases mutation.apply delivery with ⟨error | value, after⟩ <;> rfl

end

section
variable {σ : Type} {handler : Handler ServiceSignature Thrown σ} {world : σ}

@[simp] theorem run_awaitCall {call : ServiceCall}
    : Program.run (α := no_index call.Result) handler (awaitCall call) world
      = handler call world :=
  Program.run_perform

@[simp] theorem run_settled {α : Type} {result : Except Thrown α}
    : (settled result).run handler world = (result, world) := by
  cases result <;> rfl

@[simp] theorem run_applied {mutation : Mutation Unit} {delivery : Delivery}
    : (applied mutation delivery).run handler world
      = ((mutation.apply delivery).1.map (fun _ => (mutation.apply delivery).2), world) := by
  unfold applied
  rcases mutation.apply delivery with ⟨error | value, after⟩ <;> rfl

end

/-- The methods a queue has, the first of which a service uses. -/
inductive QueueMethods where
  | absent
  | enqueueDelivery
  | add
  | none
deriving DecidableEq

/-- Which collaborators and methods the services find. -/
structure ServiceConfig where
  language : Language
  findById : Bool
  findByTaskResultId : Bool
  queue : QueueMethods
  attemptRepository : Bool
  eventPublisher : Bool
  destinationRepository : Bool
  resultRepository : Bool
  httpClient : Bool

/-- The delivery a service takes of those with a task result: the one with the identifier,
or else the first.
-/
def chosenDelivery (deliveryId : String) (deliveries : List Delivery) : Option Delivery :=
  (deliveries.find? (fun delivery => delivery.id = deliveryId)).or deliveries.head?

/-- Call a method a collaborator may lack: without it the call gives the default. -/
def ifPresent {α : Type} (present : Bool) (program : ServiceProgram α) (default : α)
    : ServiceProgram α :=
  if present then program else .done default

/-- Find a delivery by its identifier, or else by the task result of that identifier. The
services share this body.
-/
def loadDelivery (config : ServiceConfig) (deliveryId : String)
    : ServiceProgram Delivery := do
  let found ← ifPresent config.findById (awaitCall (.findById deliveryId)) none
  match found with
  | some delivery => pure delivery
  | none =>
      let deliveries ←
        ifPresent config.findByTaskResultId (awaitCall (.findByTaskResultId deliveryId)) []
      match chosenDelivery deliveryId deliveries with
      | some delivery => pure delivery
      | none => throw (.error (deliveryNotFoundError deliveryId))

/-! Programs that only look up. -/

/-- A lookup neither saves, nor enqueues, nor records an attempt. -/
theorem ServiceCall.isLookup_quiet {call : ServiceCall} (lookup : call.isLookup = true)
    : call.saved? = none ∧ call.isEnqueue = false ∧ call.isNumberedAttempt = false := by
  cases call with
  | findById id => exact ⟨rfl, rfl, rfl⟩
  | findByTaskResultId taskResultId => exact ⟨rfl, rfl, rfl⟩
  | _ => exact nomatch lookup

/-- A program made of one lookup. -/
theorem awaits_lookup {call : ServiceCall} (lookup : call.isLookup = true)
    : Program.Awaits (α := no_index call.Result) (S := ServiceSignature)
        (fun call : ServiceCall => call.isLookup = true) (awaitCall call) :=
  Program.Awaits.perform (S := ServiceSignature) lookup

/-- A method that may be missing awaits what it awaits when it is there. -/
theorem awaits_ifPresent {α : Type} {property : ServiceCall → Prop} {present : Bool}
    {program : ServiceProgram α} {default : α} (awaits : program.Awaits property)
    : (ifPresent present program default).Awaits property := by
  unfold ifPresent
  split
  · exact awaits
  · trivial

/-- Lookups run alike over other worlds that answer them alike. -/
theorem run_lookups {σ τ α : Type} {handler : Handler ServiceSignature Thrown σ}
    {other : Handler ServiceSignature Thrown τ} {program : ServiceProgram α}
    (lookups : program.Awaits (fun call : ServiceCall => call.isLookup = true)) (embed : σ → τ)
    (byId
      : ∀ id world,
          other (.findById id) (embed world)
          = ((handler (.findById id) world).1, embed (handler (.findById id) world).2))
    (byTaskResult
      : ∀ id world,
          other (.findByTaskResultId id) (embed world)
          = ((handler (.findByTaskResultId id) world).1,
              embed (handler (.findByTaskResultId id) world).2))
    (world : σ)
    : program.run other (embed world)
      = ((program.run handler world).1, embed (program.run handler world).2) := by
  refine lookups.run_embedded embed ?_
  intro call lookup world
  cases call with
  | findById id => exact byId id world
  | findByTaskResultId taskResultId => exact byTaskResult taskResultId world
  | _ => exact nomatch lookup

/-- What a service loads, it loads by lookups. -/
theorem loadDelivery_awaits (config : ServiceConfig) (deliveryId : String)
    : (loadDelivery config deliveryId).Awaits (fun call : ServiceCall => call.isLookup = true) := by
  refine .bind (awaits_ifPresent (awaits_lookup rfl)) (fun found => ?_)
  cases found with
  | some delivery => trivial
  | none =>
      refine .bind (awaits_ifPresent (awaits_lookup rfl)) (fun deliveries => ?_)
      cases chosenDelivery deliveryId deliveries <;> trivial

end QueueForge.Application
