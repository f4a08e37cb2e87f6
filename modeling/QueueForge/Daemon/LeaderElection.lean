import Mathlib.Data.Fintype.Basic
import QueueForge.Async.Interleaving
import QueueForge.Js.Errors

/-! Leader election over a lease in Redis: the calls of `LeaderElection` and what serves
them. The client has the commands of Redis as its methods, so probes for others find none.
A daemon id may be of any type whose values can be compared.
-/

namespace QueueForge.Daemon

open QueueForge.Async QueueForge.Js

/-- The commands an election sends, and its uses of the flag `isLeader` returns. -/
inductive LeaderCall (ν : Type) where
  | readFlag
  | setFlag (value : Bool)
  | setNx (key : String) (owner : ν) (px : Nat)
  | get (key : String)
  | pexpire (key : String) (px : Nat)
  | del (key : String)

abbrev LeaderCall.Result {ν : Type} : LeaderCall ν → Type
  | readFlag => Bool
  | setFlag _ => Unit
  | setNx _ _ _ => Bool
  | get _ => Option ν
  | pexpire _ _ => Unit
  | del _ => Unit

abbrev LeaderSignature (ν : Type) : Signature where
  Op := LeaderCall ν
  Result := LeaderCall.Result

abbrev LeaderProgram (ν α : Type) : Type := Program (LeaderSignature ν) Thrown α

def awaitLeader {ν : Type} (call : LeaderCall ν) : LeaderProgram ν call.Result :=
  Program.perform (S := LeaderSignature ν) call

/-- One node's election; without a client there is no lease. -/
structure LeaderElection (ν : Type) where
  daemonId : ν
  leaderKey : String
  redisOps : Bool

namespace LeaderElection

variable {ν : Type} [DecidableEq ν]

/-- 30s lease. -/
def leaseTtlMs : Nat := 30000

/-- Try SET NX PX; if we already hold the lease, refresh its TTL. -/
def acquire (election : LeaderElection ν) : LeaderProgram ν Bool := do
  let res ← awaitLeader (.setNx election.leaderKey election.daemonId leaseTtlMs)
  if res then
    return true
  else
    let currentLeader ← awaitLeader (.get election.leaderKey)
    if currentLeader = some election.daemonId then
      awaitLeader (.pexpire election.leaderKey leaseTtlMs)
      return true
    else
      return false

/-- The catch block reads `err.message` for its log before it lowers the flag. -/
def fallBack : Thrown → LeaderProgram ν Bool
  | .nullish => throw (newTypeError "Cannot read properties of undefined (reading 'message')")
  | _ => do
      awaitLeader (.setFlag false)
      return false

/-- Attempts to acquire or refresh the leadership lease. The refresh timer calls it too. -/
def participate (election : LeaderElection ν) : LeaderProgram ν Bool :=
  Program.catchError
    (do
      if election.redisOps then
        let acquired ← election.acquire
        awaitLeader (.setFlag acquired)
        return acquired
      else
        awaitLeader (.setFlag true)
        return true)
    fallBack

/-- Delete the lease if it is our own. -/
def dropLease (election : LeaderElection ν) : LeaderProgram ν Unit :=
  if election.redisOps then do
    let currentLeader ← awaitLeader (.get election.leaderKey)
    if currentLeader = some election.daemonId then
      awaitLeader (.del election.leaderKey)
    else
      return ()
  else
    .done ()

/-- Resigns the leadership lease voluntarily; what goes wrong is ignored. -/
def resign (election : LeaderElection ν) : LeaderProgram ν Unit := do
  let isLeaderFlag ← awaitLeader .readFlag
  if isLeaderFlag then
    (election.dropLease.catchError (fun _ => .done ())).finallyRun
      (awaitLeader (.setFlag false))
  else
    return ()

end LeaderElection

inductive ElectionAction where
  | participate
  | resign
deriving DecidableEq

/-- A call some node makes on its election. -/
structure ElectionCall (ν : Type) where
  node : ν
  action : ElectionAction

def ElectionCall.program {ν : Type} [DecidableEq ν] (key : String) (call : ElectionCall ν)
    : LeaderProgram ν Unit :=
  let election : LeaderElection ν := ⟨call.node, key, true⟩
  match call.action with
  | .participate => election.participate.bind (fun _ => .done ())
  | .resign => election.resign

/-! What serves the calls: Redis, which forgets a lease once it has expired, and the flags. -/

structure Lease (ν : Type) where
  owner : ν
  expiresAt : Int

structure LeaderReply (ν : Type) where
  call : LeaderCall ν
  result : Settled Thrown call.Result

structure LeaderEntry (ν κ : Type) where
  caller : κ
  reply : LeaderReply ν

structure LeaderWorld (ν κ : Type) where
  redis : String → Option (Lease ν)
  isLeaderFlag : ν → Bool
  trace : List (LeaderEntry ν κ)

/-- A command whose reply is lost or an error; it may have been carried out all the same. -/
structure LeaderFault where
  error : Thrown
  applied : Bool

/-- What is left open, read off the trace. -/
structure LeaderEnvironment (ν κ : Type) where
  start : Int
  elapsed : List (LeaderEntry ν κ) → Nat
  fault : List (LeaderEntry ν κ) → Option LeaderFault

/-- A command sent to Redis, as opposed to a use of the flag. -/
def LeaderCall.isCommand {ν : Type} : LeaderCall ν → Bool
  | readFlag => false
  | setFlag _ => false
  | _ => true

/-- The lease under a key that has not expired at a time. -/
def live? {ν : Type} (redis : String → Option (Lease ν)) (key : String) (now : Int)
    : Option (Lease ν) :=
  (redis key).filter (fun lease => now < lease.expiresAt)

/-- What a command makes of the leases. -/
def LeaderCall.apply {ν : Type} (now : Int) (redis : String → Option (Lease ν))
    : LeaderCall ν → String → Option (Lease ν)
  | setNx key owner px =>
      match live? redis key now with
      | none => Function.update redis key (some ⟨owner, now + px⟩)
      | some _ => redis
  | pexpire key px =>
      match live? redis key now with
      | none => redis
      | some lease => Function.update redis key (some ⟨lease.owner, now + px⟩)
  | del key => Function.update redis key none
  | _ => redis

namespace LeaderEnvironment

variable {ν κ : Type} [DecidableEq ν] (env : LeaderEnvironment ν κ)

/-- The time passes with every call and never goes back. -/
def now : List (LeaderEntry ν κ) → Int
  | [] => env.start
  | entry :: earlier => now earlier + env.elapsed (entry :: earlier)

def answer (node : ν) (world : LeaderWorld ν κ) : (call : LeaderCall ν) → call.Result
  | .readFlag => world.isLeaderFlag node
  | .setFlag _ => ()
  | .setNx key _ _ => (live? world.redis key (env.now world.trace)).isNone
  | .get key => (live? world.redis key (env.now world.trace)).map Lease.owner
  | .pexpire _ _ => ()
  | .del _ => ()

/-- A command that is not answered, if it is one. -/
def rejection (world : LeaderWorld ν κ) (call : LeaderCall ν) : Option LeaderFault :=
  if call.isCommand then env.fault world.trace else none

/-- The flags after a call of a node. -/
def flags (node : ν) (world : LeaderWorld ν κ) : LeaderCall ν → ν → Bool
  | .setFlag value => Function.update world.isLeaderFlag node value
  | _ => world.isLeaderFlag

/-- The handler of one call. -/
def serve (calls : κ → ElectionCall ν) (caller : κ)
    : Handler (LeaderSignature ν) Thrown (LeaderWorld ν κ) :=
  fun call world =>
    let applied := call.apply (env.now world.trace) world.redis
    match env.rejection world call with
    | some fault =>
        (.error fault.error, {
          world with
          redis := if fault.applied then applied else world.redis
          trace := ⟨caller, call, .error fault.error⟩ :: world.trace
        })
    | none =>
        let value := env.answer (calls caller).node world call
        (.ok value, {
          redis := applied
          isLeaderFlag := flags (calls caller).node world call
          trace := ⟨caller, call, .ok value⟩ :: world.trace
        })

end LeaderEnvironment

/-- The calls of the nodes before any of them has started, with no flag set. -/
def elections {ν κ : Type} [DecidableEq ν] (key : String) (calls : κ → ElectionCall ν)
    (redis : String → Option (Lease ν))
    : Configuration (LeaderSignature ν) Thrown κ Unit (LeaderWorld ν κ) where
  process caller := (calls caller).program key
  world := ⟨redis, fun _ => false, []⟩

/-- At most one node says that it leads. -/
def OneLeader {ν κ : Type} (world : LeaderWorld ν κ) : Prop :=
  ∀ i j, world.isLeaderFlag i = true → world.isLeaderFlag j = true → i = j

/-- Every state a permitted interleaving of the calls reaches has one leader at most. -/
def ElectsOneLeader {ν κ : Type} [DecidableEq ν] [DecidableEq κ]
    (env : LeaderEnvironment ν κ) (key : String) (calls : κ → ElectionCall ν)
    (permits : LeaderWorld ν κ → κ → LeaderCall ν → Prop)
    (redis : String → Option (Lease ν))
    : Prop :=
  ∀ config : Configuration (LeaderSignature ν) Thrown κ Unit (LeaderWorld ν κ),
    Configuration.Reachable (env.serve calls) permits (elections key calls redis) config
    → OneLeader config.world

end QueueForge.Daemon
