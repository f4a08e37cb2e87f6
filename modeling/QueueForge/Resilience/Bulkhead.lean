import Mathlib.Data.List.Perm.Subperm
import QueueForge.Js.Errors
import QueueForge.Resilience.ResourcePool

/-! The bulkhead: a limit on running functions and one on waiting calls, over a pool.
`execute` is a few synchronous stretches between its awaits, and any number of calls take
theirs in any order.
-/

namespace QueueForge.Resilience

open QueueForge.Js

/-- `Partial<BulkheadConfig>`; `none` stands for a member that is absent. -/
structure PartialBulkheadConfig where
  maxConcurrent : Option Number := none
  maxQueueSize : Option Number := none
  timeout : Option Number := none

structure BulkheadConfig where
  maxConcurrent : Number
  maxQueueSize : Number
  timeout : Number

/-- `given || fallback` on an optional number. -/
def orNumber (given : Option Number) (fallback : Number) : Number :=
  (given.filter Number.truthy).getD fallback

def PartialBulkheadConfig.resolve (config : PartialBulkheadConfig) : BulkheadConfig where
  maxConcurrent := orNumber config.maxConcurrent 10
  maxQueueSize := orNumber config.maxQueueSize 50
  timeout := orNumber config.timeout 30000

/-- A bulkhead that was constructed: its limits are numbers, and its pool has slots. -/
structure Bulkhead where
  config : BulkheadConfig
  limits : config.maxConcurrent ≠ .nan ∧ config.maxQueueSize ≠ .nan
  hasSlots : config.maxConcurrent.le 0 = false

theorem orNumber_ne_nan {given : Option Number} {fallback : Number} (isNumber : fallback ≠ .nan)
    : orNumber given fallback ≠ .nan := by
  unfold orNumber
  cases kept : given.filter Number.truthy with
  | none => exact isNumber
  | some value =>
      have truthy := (Option.filter_eq_some_iff.mp kept).2
      rintro rfl
      contradiction

/-- The constructor throws where its pool would have no slots. -/
def Bulkhead.create (config : PartialBulkheadConfig) : Except Thrown Bulkhead :=
  if slotless : config.resolve.maxConcurrent.le 0 = true then
    .error (newError "ResourcePool maxSize must be greater than 0")
  else
    .ok ⟨config.resolve, ⟨orNumber_ne_nan nofun, orNumber_ne_nan nofun⟩,
      Bool.eq_false_iff.mpr slotless⟩

/-- Requests with how they were resolved. -/
instance lawful_resolved : LawfulBEq (Nat × Bool) := inferInstance

/-- A bulkhead with the calls of `execute` on it. A call that waits or runs is kept with the
number of its request; `ran` are the calls whose function was called.
-/
structure BulkheadWorld (ι : Type) where
  pool : PoolWorld
  started : List ι := []
  waiting : List (ι × Nat) := []
  running : List (ι × Nat) := []
  ran : List (ι × Nat) := []
  rejected : List ι := []

inductive ExecuteEvent (ι : Type) where
  | start (caller : ι) (overrideTimeoutMs : Option Number)
  | expire (request : Nat)
  | acquired (caller : ι) (request : Nat) (throws : Bool)
  | timedOut (caller : ι) (request : Nat)
  | settled (caller : ι) (request : Nat)

namespace BulkheadWorld

variable {ι : Type} [DecidableEq ι] (bulkhead : Bulkhead) (world : BulkheadWorld ι)

/-- The pool and the queue are full. -/
def isFull : Bool :=
  bulkhead.config.maxConcurrent.le (.ofInt world.pool.pool.inUse)
  && bulkhead.config.maxQueueSize.le (.ofInt world.pool.pool.queue.length)

/-- `execute` up to `await this.pool.tryAcquire(...)`. -/
def executeStart (caller : ι) (overrideTimeoutMs : Option Number) : BulkheadWorld ι :=
  if world.isFull bulkhead then
    { world with started := caller :: world.started, rejected := caller :: world.rejected }
  else
    {
      world with
      started := caller :: world.started
      pool := world.pool.tryAcquire (overrideTimeoutMs.getD bulkhead.config.timeout)
      waiting := (caller, world.pool.requests) :: world.waiting
    }

/-- The `finally` block after the function. -/
def executeFinally (caller : ι) (request : Nat) : BulkheadWorld ι := {
  world with
  pool := world.pool.release
  running := world.running.erase (caller, request)
}

/-- `execute` after the slot was acquired, up to `await fn()`. A function that throws at once
is over at once.
-/
def executeAcquired (caller : ι) (request : Nat) (throws : Bool) : BulkheadWorld ι :=
  let world := {
    world with
    waiting := world.waiting.erase (caller, request)
    running := (caller, request) :: world.running
    ran := (caller, request) :: world.ran
  }
  if throws then world.executeFinally caller request else world

/-- `execute` after the request timed out. -/
def executeTimedOut (caller : ι) (request : Nat) : BulkheadWorld ι := {
  world with
  waiting := world.waiting.erase (caller, request)
  rejected := caller :: world.rejected
}

/-- A stretch takes place when the call has come to it, and else nothing happens. -/
def step : ExecuteEvent ι → BulkheadWorld ι
  | .start caller overrideTimeoutMs =>
      if caller ∈ world.started then world else executeStart bulkhead world caller overrideTimeoutMs
  | .expire request => { world with pool := world.pool.expire request }
  | .acquired caller request throws =>
      if (caller, request) ∈ world.waiting ∧ (request, true) ∈ world.pool.resolved then
        world.executeAcquired caller request throws
      else
        world
  | .timedOut caller request =>
      if (caller, request) ∈ world.waiting ∧ (request, false) ∈ world.pool.resolved then
        world.executeTimedOut caller request
      else
        world
  | .settled caller request =>
      if (caller, request) ∈ world.running then world.executeFinally caller request else world

/-- The bulkhead after a sequence of stretches and timeouts, newest first. -/
def after : List (ExecuteEvent ι) → BulkheadWorld ι
  | [] => { pool := { pool := { maxSize := bulkhead.config.maxConcurrent } } }
  | event :: earlier => step bulkhead (after earlier) event

/-- The calls that wait for a slot: their requests are not resolved. -/
def waitingCalls : List (ι × Nat) :=
  world.waiting.filter (fun call => call.2 ∉ world.pool.resolved.map Prod.fst)

end BulkheadWorld

end QueueForge.Resilience
