import Mathlib.Logic.Function.Basic
import QueueForge.Application.IngestResult

/-! The stores ingestion works on, and the environment its calls are answered in.
Every call is entered in a trace, newest first. What the model leaves open is read off the
trace, so that one handler covers every behaviour of the collaborators.
-/

namespace QueueForge.Application

open QueueForge.Async QueueForge.Js QueueForge.Domain

/-- A cached response and the time it expires at. -/
structure CacheEntry where
  value : IngestResultResponse
  expiresAt : Int

/-- A job of the main queue. -/
inductive IngestJob where
  | delivery (taskResultId destinationId : String) (attempt : Nat)
  | named (name deliveryId : String)
deriving DecidableEq

/-- Redis, the database and the queue. -/
structure IngestStore where
  redis : String → Option CacheEntry
  results : List ResultDTO
  deliveries : List DeliveryData
  jobs : List IngestJob
  destinations : List Destination

namespace IngestStore

/-- What `GET` gives at a time: an entry is gone once it has expired. -/
def cached? (store : IngestStore) (key : String) (now : Int)
    : Option IngestResultResponse :=
  match store.redis key with
  | some entry => if now < entry.expiresAt then some entry.value else none
  | none => none

/-- What a write of a task result, a delivery or a job adds. -/
def write (store : IngestStore) : IngestCall → IngestStore
  | .saveResult result =>
      { store with results := store.results ++ [ResultMapper.toDTO result] }
  | .createResult data => { store with results := store.results ++ [data] }
  | .createResultRecord data => { store with results := store.results ++ [data] }
  | .saveDelivery delivery =>
      { store with deliveries := store.deliveries ++ [.ofDelivery delivery] }
  | .createDelivery data => { store with deliveries := store.deliveries ++ [data] }
  | .enqueueDelivery taskResultId destinationId attempt =>
      { store with jobs := store.jobs ++ [.delivery taskResultId destinationId attempt] }
  | .add name deliveryId => { store with jobs := store.jobs ++ [.named name deliveryId] }
  | _ => store

/-- The store after a call that resolved at a time. -/
def after (now : Int) (store : IngestStore) : IngestCall → IngestStore
  | .redisSetex key ttlSeconds value =>
      let entry : CacheEntry := ⟨value, now + ttlSeconds * 1000⟩
      { store with redis := Function.update store.redis key (some entry) }
  | call => store.write call

end IngestStore

/-- A call of a collaborator, as opposed to the clock and the identifier generator. -/
def IngestCall.isDependency : IngestCall → Bool
  | runtime => false
  | randomUUID => false
  | _ => true

/-- A call that writes a task result, a delivery or a job. -/
def IngestCall.isWrite : IngestCall → Bool
  | saveResult _ => true
  | createResult _ => true
  | createResultRecord _ => true
  | saveDelivery _ => true
  | createDelivery _ => true
  | enqueueDelivery _ _ _ => true
  | add _ _ => true
  | _ => false

/-- One call of one caller and what it settled with. -/
structure IngestEntry (ι : Type) where
  caller : ι
  call : IngestCall
  result : Settled Thrown call.Result

structure IngestWorld (ι : Type) where
  store : IngestStore
  trace : List (IngestEntry ι)

/-- The dependency call of a caller that rejects, by its number, and what it rejects with.
The first rejection ends a call of the service, so one is enough.
-/
structure IngestFault where
  position : Nat
  error : Thrown

/-- What the model leaves open. Each caller finds its own destinations and meets its own
fault, whatever makes the dependency reject.
-/
structure IngestEnvironment (ι : Type) where
  start : Int
  elapsed : List (IngestEntry ι) → Nat
  uuid : List (IngestEntry ι) → Uuid
  random : List (IngestEntry ι) → Rat
  fractional : Rat → Rat
  destinations : ι → List RoutingTarget
  fault : ι → Option IngestFault

namespace IngestFault

/-- The rejection of a call that `calls` dependency calls went before. -/
def rejection (fault : Option IngestFault) (calls : Nat) (call : IngestCall)
    : Option Thrown :=
  match fault with
  | some fault =>
      if call.isDependency = true ∧ fault.position = calls then some fault.error else none
  | none => none

end IngestFault

namespace IngestEnvironment

variable {ι : Type} [DecidableEq ι] (env : IngestEnvironment ι)

/-- The time passes with every call and never goes back. -/
def now : List (IngestEntry ι) → Int
  | [] => env.start
  | entry :: earlier => now earlier + env.elapsed (entry :: earlier)

/-- How many dependency calls a caller has made. -/
def calls (caller : ι) (trace : List (IngestEntry ι)) : Nat :=
  trace.countP (fun entry => entry.caller = caller ∧ entry.call.isDependency = true)

/-- What a call resolves to. -/
def answer (caller : ι) (world : IngestWorld ι) : (call : IngestCall) → call.Result
  | .runtime => {
      now := env.now world.trace
      random := env.random world.trace
      fractional := env.fractional
    }
  | .randomUUID => env.uuid world.trace
  | .redisGet key => world.store.cached? key (env.now world.trace)
  | .redisSetex _ _ _ => ()
  | .findAllActive => env.destinations caller
  | .findAll => env.destinations caller
  | .saveResult _ => ()
  | .createResult _ => ()
  | .createResultRecord _ => ()
  | .saveDelivery _ => ()
  | .createDelivery _ => ()
  | .enqueueDelivery _ _ _ => ()
  | .add _ _ => ()

/-- The rejection of a caller's next call, if it rejects. -/
def rejection (caller : ι) (world : IngestWorld ι) (call : IngestCall) : Option Thrown :=
  IngestFault.rejection (env.fault caller) (calls caller world.trace) call

/-- The handler of one caller: a call that rejects has no effect. -/
def serve (caller : ι) : Handler IngestSignature Thrown (IngestWorld ι) :=
  fun call world =>
    match env.rejection caller world call with
    | some error =>
        (.error error, { world with trace := ⟨caller, call, .error error⟩ :: world.trace })
    | none =>
        let value := env.answer caller world call
        (.ok value, {
          store := world.store.after (env.now world.trace) call
          trace := ⟨caller, call, .ok value⟩ :: world.trace
        })

variable {env} {caller : ι} {world : IngestWorld ι} {call : IngestCall}

/-- The handler's answer to a call that does not reject. -/
theorem serve_of_quiet (quiet : env.rejection caller world call = none)
    : env.serve caller call world
      = (.ok (env.answer caller world call), {
          store := world.store.after (env.now world.trace) call
          trace := ⟨caller, call, .ok (env.answer caller world call)⟩ :: world.trace
        }) := by
  simp only [serve, quiet]

/-- The handler's answer to a call that rejects. -/
theorem serve_of_rejects {error : Thrown}
    (rejects : env.rejection caller world call = some error)
    : env.serve caller call world
      = (.error error,
          { world with trace := ⟨caller, call, .error error⟩ :: world.trace }) := by
  simp only [serve, rejects]

/-- Reading the clock or drawing an identifier never rejects. -/
theorem rejection_of_free (free : call.isDependency = false)
    : env.rejection caller world call = none := by
  unfold rejection IngestFault.rejection
  split <;> simp [free]

end IngestEnvironment

theorem run_awaitIngest {σ : Type} {handler : Handler IngestSignature Thrown σ} {world : σ}
    {call : IngestCall}
    : Program.run (α := no_index call.Result) handler (awaitIngest call) world
      = handler call world :=
  Program.run_perform

/-- Run one call of the service to its end on a store. -/
def runIngest (env : IngestEnvironment Unit) (deps : IngestDependencies)
    (body : Option RequestBody) (store : IngestStore)
    : Settled Thrown IngestResultResponse × IngestStore :=
  let settled := (IngestResultService.ingest deps body).run (env.serve ()) ⟨store, []⟩
  (settled.1, settled.2.store)

end QueueForge.Application
