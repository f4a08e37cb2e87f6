import Mathlib.Data.Finset.Card
import Mathlib.Data.Finset.SDiff
import Mathlib.Data.List.AList
import QueueForge.Async.Execution
import QueueForge.Infrastructure.RedisOperations

/-! The commands of Redis on a keyspace whose values have types: a command for another type is
rejected. The order of the members of a sorted set is left out.
-/

namespace QueueForge.Infrastructure

open QueueForge.Async QueueForge.Js

/-- The members of a sorted set, each once, with their scores. -/
abbrev Scores : Type := AList (fun _ : String => Number)

/-- The members whose scores are in a range, both ends included. -/
def Scores.between (members : Scores) (min max : Number) : List String :=
  (members.entries.filter (fun entry => min.le entry.2 && entry.2.le max)).map Sigma.fst

/-- A value under a key: of the types that are told apart here, or of another one. -/
inductive RedisValue where
  | sortedSet (members : Scores)
  | set (members : Finset String)
  | other

/-- A value with the moment from which it is gone, in milliseconds. -/
structure TypedValue where
  value : RedisValue
  expiresAt : Option Int

abbrev TypedKeys : Type := String → Option TypedValue

/-- What is under a key at a time. -/
def TypedKeys.live? (keys : TypedKeys) (now : Int) (key : String) : Option TypedValue :=
  (keys key).filter (fun stored => stored.expiresAt.all (fun expiry => decide (now < expiry)))

/-- The error a command is answered with. -/
def replyError (message : String) : Thrown :=
  .error (builtinError .error "ReplyError" message)

def wrongType : Thrown :=
  replyError "WRONGTYPE Operation against a key holding the wrong kind of value"

/-- The moment that lies so many milliseconds ahead: a whole number of 64 bits, as is the moment. -/
def deadline? (now : Int) : Number → Except Thrown Int
  | .finite ms =>
      if ms.den = 1 ∧ -2 ^ 63 ≤ ms.num ∧ ms.num < 2 ^ 63 then
        if now + ms.num < 2 ^ 63 then
          .ok (now + ms.num)
        else
          .error (replyError "ERR invalid expire time in 'pexpire' command")
      else
        .error (replyError "ERR value is not an integer or out of range")
  | _ => .error (replyError "ERR value is not an integer or out of range")

namespace TypedKeys

variable (keys : TypedKeys) (now : Int) (key : String)

/-- `zadd`; a set that is there keeps its expiry. -/
def zadd (score : Number) (member : String) : Settled Thrown Int × TypedKeys :=
  match score with
  | .nan => (.error (replyError "ERR value is not a valid float"), keys)
  | score =>
      match keys.live? now key with
      | none =>
          (.ok 1, Function.update keys key (some ⟨.sortedSet (AList.singleton member score), none⟩))
      | some ⟨.sortedSet members, expiresAt⟩ =>
          (.ok (if member ∈ members then 0 else 1),
            Function.update keys key (some ⟨.sortedSet (members.insert member score), expiresAt⟩))
      | some _ => (.error wrongType, keys)

/-- `zrem`; a set without members is gone. -/
def zrem (member : String) : Settled Thrown Int × TypedKeys :=
  match keys.live? now key with
  | none => (.ok 0, keys)
  | some ⟨.sortedSet members, expiresAt⟩ =>
      let left := members.erase member
      (.ok (if member ∈ members then 1 else 0),
        Function.update keys key
          (if left.entries.isEmpty then none else some ⟨.sortedSet left, expiresAt⟩))
  | some _ => (.error wrongType, keys)

def zrangebyscore (min max : Number) : Settled Thrown (List String) × TypedKeys :=
  match keys.live? now key with
  | none => (.ok [], keys)
  | some ⟨.sortedSet members, _⟩ => (.ok (Scores.between members min max), keys)
  | some _ => (.error wrongType, keys)

/-- `srem`, which is for sets that are not sorted. -/
def srem (gone : List String) : Settled Thrown Int × TypedKeys :=
  match keys.live? now key with
  | none => (.ok 0, keys)
  | some ⟨.set members, expiresAt⟩ =>
      let left := members \ gone.toFinset
      (.ok (members.card - left.card),
        Function.update keys key (if left = ∅ then none else some ⟨.set left, expiresAt⟩))
  | some _ => (.error wrongType, keys)

def del : Settled Thrown Int × TypedKeys :=
  (.ok (if (keys.live? now key).isSome then 1 else 0), Function.update keys key none)

/-- `ttl` in seconds, rounded. -/
def ttl : Int :=
  match keys.live? now key with
  | none => -2
  | some ⟨_, none⟩ => -1
  | some ⟨_, some expiry⟩ => (expiry - now + 500) / 1000

/-- `pexpire`; a moment that has passed deletes the key. -/
def pexpire (ms : Number) : Settled Thrown Int × TypedKeys :=
  match deadline? now ms with
  | .error error => (.error error, keys)
  | .ok expiry =>
      match keys.live? now key with
      | none => (.ok 0, keys)
      | some stored =>
          (.ok 1,
            Function.update keys key
              (if expiry ≤ now then none else some { stored with expiresAt := some expiry }))

-----------------------------------------------------------------------------------------
-- Sorted sets that do not expire
-----------------------------------------------------------------------------------------

/-- What is under the key of a sorted set that does not expire: nothing if it is empty. -/
def ofScores (members : Scores) : Option TypedValue :=
  if members.entries.isEmpty then none else some ⟨.sortedSet members, none⟩

theorem ofScores_of_empty {members : Scores} (empty : members.entries.isEmpty = true)
    : ofScores members = none :=
  if_pos empty

theorem ofScores_of_nonempty {members : Scores} (nonempty : members.entries.isEmpty = false)
    : ofScores members = some ⟨.sortedSet members, none⟩ := by
  rw [ofScores, nonempty]
  rfl

section
variable {keys : TypedKeys} {now : Int} {key : String} {members : Scores}

theorem eq_empty (empty : members.entries.isEmpty = true) : members = ∅ :=
  AList.ext (List.isEmpty_iff.mp empty)

theorem nonempty_insert (members : Scores) (member : String) (score : Number)
    : (members.insert member score).entries.isEmpty = false := by
  rw [AList.entries_insert]
  rfl

/-- It is there at any time. -/
theorem live?_ofScores (found : keys key = ofScores members) (now : Int)
    : keys.live? now key = ofScores members := by
  rw [live?, found]
  cases empty : members.entries.isEmpty with
  | true => rw [ofScores_of_empty empty, Option.filter_none]
  | false => rw [ofScores_of_nonempty empty, Option.filter_some, Option.all_none, if_pos rfl]

/-- A score that is a number is taken. -/
theorem zadd_ofScores (found : keys key = ofScores members) {score : Number}
    (numeric : score ≠ .nan) (now : Int) (member : String)
    : keys.zadd now key score member
      = (.ok (if member ∈ members then 0 else 1),
          Function.update keys key (ofScores (members.insert member score))) := by
  have live := live?_ofScores found now
  rw [ofScores_of_nonempty (nonempty_insert members member score)]
  cases empty : members.entries.isEmpty with
  | true =>
      rw [ofScores_of_empty empty] at live
      obtain rfl := eq_empty empty
      rw [AList.insert_empty, if_neg (AList.notMem_empty member)]
      cases score with
      | nan => exact absurd rfl numeric
      | negInfinity | posInfinity | finite => simp only [zadd, live]
  | false =>
      rw [ofScores_of_nonempty empty] at live
      cases score with
      | nan => exact absurd rfl numeric
      | negInfinity | posInfinity | finite => simp only [zadd, live]

theorem zrem_ofScores (found : keys key = ofScores members) (now : Int) (member : String)
    : ∃ removed,
        keys.zrem now key member
        = (.ok removed, Function.update keys key (ofScores (members.erase member))) := by
  have live := live?_ofScores found now
  cases empty : members.entries.isEmpty with
  | true =>
      rw [ofScores_of_empty empty] at live found
      obtain rfl := eq_empty empty
      refine ⟨0, ?_⟩
      rw [show (∅ : Scores).erase member = ∅ from rfl, ofScores_of_empty rfl, ← found,
        Function.update_eq_self]
      simp only [zrem, live]
  | false =>
      rw [ofScores_of_nonempty empty] at live
      exact ⟨if member ∈ members then 1 else 0, by simp only [zrem, live, ofScores]⟩

theorem zrangebyscore_ofScores (found : keys key = ofScores members) (now : Int)
    (min max : Number)
    : keys.zrangebyscore now key min max = (.ok (members.between min max), keys) := by
  have live := live?_ofScores found now
  cases empty : members.entries.isEmpty with
  | true =>
      rw [ofScores_of_empty empty] at live
      obtain rfl := eq_empty empty
      simp only [zrangebyscore, live]
      rfl
  | false =>
      rw [ofScores_of_nonempty empty] at live
      simp only [zrangebyscore, live]

/-- `srem` is refused unless there is nothing. -/
theorem srem_ofScores (found : keys key = ofScores members) (now : Int) (gone : List String)
    : keys.srem now key gone
      = (if members.entries.isEmpty then .ok 0 else .error wrongType, keys) := by
  have live := live?_ofScores found now
  cases empty : members.entries.isEmpty with
  | true =>
      rw [ofScores_of_empty empty] at live
      simp only [srem, live, if_true]
  | false =>
      rw [ofScores_of_nonempty empty] at live
      simp only [srem, live, if_false, Bool.false_eq_true]

end

/-- A member is in a range if its score is. -/
theorem mem_between {members : Scores} {min max : Number} {member : String}
    : member ∈ members.between min max
      ↔ ∃ score,
          members.lookup member = some score ∧ min.le score = true ∧ score.le max = true := by
  simp only [Scores.between, List.mem_map, List.mem_filter, Bool.and_eq_true]
  constructor
  · rintro ⟨⟨_, score⟩, ⟨listed, low, high⟩, rfl⟩
    exact ⟨score, AList.mem_lookup_iff.mpr listed, low, high⟩
  · rintro ⟨score, found, low, high⟩
    exact ⟨⟨member, score⟩, ⟨AList.mem_lookup_iff.mp found, low, high⟩, rfl⟩

/-- The lifetime of another key is no concern of a key. -/
theorem pexpire_of_ne {keys : TypedKeys} {key other : String} (different : other ≠ key) (now : Int)
    (ms : Number)
    : (keys.pexpire now key ms).2 other = keys other := by
  unfold pexpire
  split
  · rfl
  · split
    · rfl
    · exact Function.update_of_ne different ..

/-- A lifetime is taken if it leads to a moment. -/
theorem pexpire_isOk {keys : TypedKeys} {key : String} {now : Int} {ms : Number}
    : (keys.pexpire now key ms).1.isOk = (deadline? now ms).isOk := by
  unfold pexpire
  cases deadline? now ms with
  | error error => rfl
  | ok expiry => cases keys.live? now key <;> rfl

end TypedKeys

/-- A reading of the clock or a command. -/
inductive RedisCall where
  | now
  | zadd (key : String) (score : Number) (member : String)
  | zrem (key member : String)
  | zrangebyscore (key : String) (min max : Number)
  | srem (key : String) (members : List String)
  | del (key : String)
  | ttl (key : String)
  | pexpire (key : String) (ms : Number)

abbrev RedisCall.Result : RedisCall → Type
  | zrangebyscore _ _ _ => List String
  | _ => Int

abbrev RedisSignature : Signature where
  Op := RedisCall
  Result := RedisCall.Result

abbrev RedisProgram (α : Type) : Type := Program RedisSignature Thrown α

/-- The keyspace, and the number of the next call. -/
structure RedisWorld where
  keys : TypedKeys
  calls : Nat

/-- What a call is answered at a time. -/
def RedisCall.answer (now : Int)
    : (call : RedisCall) → TypedKeys → Settled Thrown call.Result × TypedKeys
  | .now, keys => (.ok now, keys)
  | .zadd key score member, keys => keys.zadd now key score member
  | .zrem key member, keys => keys.zrem now key member
  | .zrangebyscore key min max, keys => keys.zrangebyscore now key min max
  | .srem key members, keys => keys.srem now key members
  | .del key, keys => keys.del now key
  | .ttl key, keys => (.ok (keys.ttl now key), keys)
  | .pexpire key ms, keys => keys.pexpire now key ms

/-- A server whose clock shows each call a time of its own. -/
def redisServer (clock : Nat → Int) : Handler RedisSignature Thrown RedisWorld :=
  fun call world =>
    let answered := call.answer (clock world.calls) world.keys
    (answered.1, { keys := answered.2, calls := world.calls + 1 })

/-- Await a call. -/
def awaitRedis (call : RedisCall) : RedisProgram call.Result :=
  Program.perform (S := RedisSignature) call

@[simp] theorem run_awaitRedis {clock : Nat → Int} {call : RedisCall} {world : RedisWorld}
    : Program.run (α := no_index call.Result) (redisServer clock) (awaitRedis call) world
      = redisServer clock call world :=
  Program.run_perform

namespace RedisOperations

/-- Helper executor to map Redis exceptions to InfrastructureError domain wrappers. -/
def execute {α : Type} (operation : RedisProgram α) : RedisProgram α :=
  operation.catchError (fun err => .fail (redisError (err.message.getD "undefined")))

def delete (key : String) : RedisProgram Bool := do
  let deletedCount : Int ← execute (awaitRedis (.del key))
  return decide (0 < deletedCount)

/-- Return remaining milliseconds. -/
def ttl (key : String) : RedisProgram (Option Int) := do
  let seconds : Int ← execute (awaitRedis (.ttl key))
  if seconds < 0 then
    return none
  return some (seconds * 1000)

def expire (key : String) (ttlMs : Number) : RedisProgram Unit := do
  let _ ← execute (awaitRedis (.pexpire key ttlMs))
  return ()

def srem (key : String) (values : List String) : RedisProgram Int :=
  if values.length = 0 then .done 0 else execute (awaitRedis (.srem key values))

def zadd (key : String) (score : Number) (member : String) : RedisProgram Unit := do
  let _ ← execute (awaitRedis (.zadd key score member))
  return ()

def zrangebyscore (key : String) (min max : Number) : RedisProgram (List String) :=
  execute (awaitRedis (.zrangebyscore key min max))

/-- An operation is its call, with the error mapped. -/
@[simp] theorem run_execute {clock : Nat → Int} {call : RedisCall} {world : RedisWorld}
    : (execute (α := no_index call.Result) (awaitRedis call)).run (redisServer clock) world
      = ((call.answer (clock world.calls) world.keys).1.mapError
          (fun err => redisError (err.message.getD "undefined")),
        {
          keys := (call.answer (clock world.calls) world.keys).2
          calls := world.calls + 1
        }) := by
  rw [execute, Program.run_catchError, run_awaitRedis, redisServer]
  cases (call.answer (clock world.calls) world.keys).1 <;> rfl

end RedisOperations

end QueueForge.Infrastructure
