import QueueForge.Application.RebuildQueue
import QueueForge.Infrastructure.PrismaDeliveryLogRepository

/-! `RecoverStaleJobsService`: deliveries that are PROCESSING for too long are scheduled for a
retry, or given up.
-/

namespace QueueForge.Application

open QueueForge.Async QueueForge.Js QueueForge.Domain QueueForge.Queue
open QueueForge.Daemon (DeliveryJobData)
open QueueForge.Infrastructure (uniqueViolated)

structure RecoveryResult where
  recovered : Nat
  failed : Nat

/-- The first method by which the repository finds stale deliveries. -/
inductive StaleLookup where
  | findStale
  | findAll
  | neither
deriving DecidableEq

/-- Which methods the collaborators have. There may be no queue. -/
structure RecoverConfig where
  lookup : StaleLookup
  enqueue : EnqueueMethod
  logger : Bool

inductive RecoverCall where
  | runtime
  | findStale (staleThreshold : Date)
  | findAll
  | enqueueDelivery (taskResultId destinationId : String) (attempt : Int) (delay : Number)
  | add (name : String) (data : DeliveryJobData) (delay : Number)
  | save (delivery : Delivery)

abbrev RecoverCall.Result : RecoverCall → Type
  | runtime => Runtime
  | findStale _ => List Delivery
  | findAll => List Delivery
  | enqueueDelivery _ _ _ _ => Unit
  | add _ _ _ => Unit
  | save _ => Unit

abbrev RecoverSignature : Signature where
  Op := RecoverCall
  Result := RecoverCall.Result

abbrev RecoverProgram (α : Type) : Type := Program RecoverSignature Thrown α

def awaitRecover (call : RecoverCall) : RecoverProgram call.Result :=
  Program.perform (S := RecoverSignature) call

@[simp] theorem run_awaitRecover {σ : Type} {handler : Handler RecoverSignature Thrown σ}
    {call : RecoverCall} {world : σ}
    : Program.run (α := no_index call.Result) handler (awaitRecover call) world
      = handler call world :=
  Program.run_perform

namespace RecoverStaleJobsService

/-- What a delivery fails with whose worker is lost. -/
def crashMessage : String := "Worker crash / processing timeout detected"

def maxRetries : Int := 5

/-- `left < right` for dates. -/
def isBefore : Date → Date → Bool
  | some left, some right => left < right
  | _, _ => false

/-- The deliveries of a list that are PROCESSING and were updated before the threshold. -/
def staleOf (staleThreshold : Date) (all : List Delivery) : List Delivery :=
  all.filter (fun delivery =>
    delivery.status = .processing && isBefore delivery.updatedAt staleThreshold)

def staleDeliveries (config : RecoverConfig) (staleThreshold : Date)
    : RecoverProgram (List Delivery) :=
  match config.lookup with
  | .findStale => awaitRecover (.findStale staleThreshold)
  | .findAll => do
      let all ← awaitRecover .findAll
      return staleOf staleThreshold all
  | .neither => return []

/-- Call a method on a delivery and go on with the delivery it leaves. -/
def mutated (mutation : Mutation Unit) (delivery : Delivery) : RecoverProgram Delivery :=
  match mutation.apply delivery with
  | (.ok _, after) => return after
  | (.error error, _) => throw error

/-- `Math.pow(2, Math.max(0, retryCount - 1)) * 1000`. -/
def delayMs (runtime : Runtime) (retryCount : Int) : Number :=
  Number.mul (Number.pow2 runtime.fractional (Number.max 0 (.ofInt (retryCount - 1)))) 1000

/-- Put a delivery in the queue by the method it has. -/
def enqueue (config : RecoverConfig) (delivery : Delivery) (delay : Number)
    : RecoverProgram Unit :=
  match config.enqueue with
  | .enqueueDelivery =>
      awaitRecover
        (.enqueueDelivery delivery.taskResultId delivery.destinationId delivery.retryCount delay)
  | .add => awaitRecover (.add "deliver-task-result" { deliveryId := some delivery.id } delay)
  | .neither => return ()

def markFailed (runtime : Runtime) : Mutation Unit :=
  Delivery.markFailed runtime (.other (.string crashMessage)) (.decided true)

/-- What comes before the save: the delivery that is to be saved, and the counts. -/
def reschedule (config : RecoverConfig) (delivery : Delivery) (result : RecoveryResult)
    : RecoverProgram (Delivery × RecoveryResult) := do
  let runtime ← awaitRecover .runtime
  let delivery ← mutated (markFailed runtime) delivery
  if delivery.retryCount ≤ maxRetries then
    let delay := delayMs runtime delivery.retryCount
    let delivery ← mutated (Delivery.scheduleRetry runtime (.number delay)) delivery
    enqueue config delivery delay
    return (delivery, { result with recovered := result.recovered + 1 })
  else
    let delivery ←
      mutated (Delivery.moveToDeadLetterQueue runtime (.string crashMessage)) delivery
    return (delivery, { result with failed := result.failed + 1 })

/-- The catch block: it logs `err.message`, if there is a logger, and counts a failure. -/
def caught (config : RecoverConfig) (error : Thrown) (result : RecoveryResult)
    : RecoverProgram RecoveryResult :=
  match config.logger, error with
  | true, .nullish => throw (newTypeError "Cannot read properties of undefined (reading 'message')")
  | _, _ => return { result with failed := result.failed + 1 }

/-- One round of the loop. What was counted before an error stays counted. -/
def recoverDelivery (config : RecoverConfig) (delivery : Delivery) (result : RecoveryResult)
    : RecoverProgram RecoveryResult := do
  match ← Program.settle (reschedule config delivery result) with
  | .error error => caught config error result
  | .ok (delivery, result) =>
      match ← Program.settle (awaitRecover (.save delivery)) with
      | .error error => caught config error result
      | .ok _ => return result

def recoverEach (config : RecoverConfig)
    : List Delivery → RecoveryResult → RecoverProgram RecoveryResult
  | [], result => return result
  | delivery :: rest, result => do
      let result ← recoverDelivery config delivery result
      recoverEach config rest result

/-- Resets and re-enqueues deliveries remaining in PROCESSING state for longer than `timeoutMs`. -/
def recoverStale (config : RecoverConfig) (timeoutMs : Number) : RecoverProgram RecoveryResult := do
  let runtime ← awaitRecover .runtime
  let staleThreshold := Date.ofNumber (Number.add (.ofInt runtime.now) timeoutMs.neg)
  let staleDeliveries ← staleDeliveries config staleThreshold
  recoverEach config staleDeliveries ⟨0, 0⟩

end RecoverStaleJobsService

-----------------------------------------------------------------------------------------
-- The repository and the queue
-----------------------------------------------------------------------------------------

namespace DeliveryTable

variable (table : DeliveryTable)

/-- The stored delivery with an identifier. -/
def find (id : String) : Option Delivery :=
  table.deliveries.find? (fun delivery => delivery.id = id)

/-- What an update of the delivery with its identifier makes of a stored one. -/
def updated (delivery : Delivery) (now : Int) (stored : Delivery) : Delivery :=
  if stored.id = delivery.id then
    {
      stored with
      status := delivery.status
      retryCount := delivery.retryCount
      nextRetryAt := delivery.nextRetryAt
      updatedAt := some now
    }
  else
    stored

theorem id_updated (delivery : Delivery) (now : Int) (stored : Delivery)
    : (updated delivery now stored).id = stored.id := by
  unfold updated
  split <;> rfl

theorem deliveryPair_updated (delivery : Delivery) (now : Int) (stored : Delivery)
    : deliveryPair (updated delivery now stored) = deliveryPair stored := by
  unfold updated
  split <;> rfl

def update (delivery : Delivery) (now : Int) : DeliveryTable where
  deliveries := table.deliveries.map (updated delivery now)
  identified := by
    rw [List.map_map]
    exact List.map_congr_left (fun stored _ => id_updated delivery now stored) ▸ table.identified
  paired := by
    rw [List.map_map]
    exact
      List.map_congr_left (fun stored _ => deliveryPair_updated delivery now stored)
        ▸ table.paired

/-- Update the delivery with the identifier, or create it. -/
def upsert (delivery : Delivery) (now : Int) : Except Thrown DeliveryTable :=
  if stored : delivery.id ∈ table.deliveries.map Delivery.id then
    .ok (table.update delivery now)
  else if paired : deliveryPair delivery ∈ table.deliveries.map deliveryPair then
    .error uniqueViolated
  else
    .ok {
      deliveries := { delivery with updatedAt := some now } :: table.deliveries
      identified := List.nodup_cons.mpr ⟨stored, table.identified⟩
      paired := List.nodup_cons.mpr ⟨paired, table.paired⟩
    }

end DeliveryTable

/-- The deliveries and what the queue holds. -/
structure RecoverWorld extends DeliveryTable where
  jobs : List DeliveryJobData

/-- The runtime, and the faults of the repository and the queue. -/
structure RecoverEnvironment where
  runtime : RecoverWorld → Runtime
  fault : RecoverWorld → RecoverCall → Option Thrown

/-- `left <= right` for dates. -/
def isAtMost : Date → Date → Bool
  | some left, some right => left ≤ right
  | _, _ => false

/-- What a call does without a fault. -/
def performRecover (env : RecoverEnvironment) (world : RecoverWorld)
    : (call : RecoverCall) → Settled Thrown call.Result × RecoverWorld
  | .runtime => (.ok (env.runtime world), world)
  | .findStale staleThreshold =>
      (.ok
        (world.deliveries.filter (fun delivery =>
          delivery.status = .processing && isAtMost delivery.updatedAt staleThreshold)),
        world)
  | .findAll => (.ok world.deliveries, world)
  | .enqueueDelivery taskResultId destinationId attempt _ =>
      let data : DeliveryJobData := {
        taskResultId := some taskResultId
        destinationId := some destinationId
        attempt := some attempt
      }
      (.ok (), { world with jobs := world.jobs ++ [data] })
  | .add _ data _ => (.ok (), { world with jobs := world.jobs ++ [data] })
  | .save delivery =>
      match world.upsert delivery (env.runtime world).now with
      | .ok table => (.ok (), { world with toDeliveryTable := table })
      | .error error => (.error error, world)

/-- The collaborators of the service; the runtime does not fail. -/
def recoverSystem (env : RecoverEnvironment) : Handler RecoverSignature Thrown RecoverWorld :=
  fun call world =>
    match call, env.fault world call with
    | .runtime, _ => performRecover env world .runtime
    | _, some error => (.error error, world)
    | call, none => performRecover env world call

end QueueForge.Application
