import Mathlib.Algebra.Order.Ring.Rat
import Mathlib.Logic.Function.Basic
import QueueForge.Js.Errors

/-! The commands of Redis that `RedisOperations` sends, on a keyspace with expiry times. -/

namespace QueueForge.Infrastructure

open QueueForge.Js

/-- A value with the moment from which it is gone, in milliseconds. -/
structure StoredText where
  value : String
  expiresAt : Option Int
deriving DecidableEq

abbrev Keyspace : Type := String → Option StoredText

/-- It has not expired at a time. -/
def StoredText.liveAt (stored : StoredText) (now : Int) : Bool :=
  stored.expiresAt.all (fun expiry => decide (now < expiry))

/-- What is under a key at a time. -/
def Keyspace.live? (keys : Keyspace) (now : Int) (key : String) : Option StoredText :=
  (keys key).filter (fun stored => stored.liveAt now)

/-- The number of milliseconds `PX` takes: a positive integer. -/
def milliseconds? : Number → Option Int
  | .finite value => if value.den = 1 ∧ 0 < value.num then some value.num else none
  | _ => none

/-- The error of a command is mapped to an `InfrastructureError`. -/
def redisError (message : String) : Thrown :=
  .error
    (baseError .infrastructure "REDIS_CONNECTION_FAILED" 500 s!"Redis operation failed: {message}")

namespace RedisOperations

def get (keys : Keyspace) (now : Int) (key : String) : Option String :=
  (keys.live? now key).map StoredText.value

/-- `exists`. -/
def keyExists (keys : Keyspace) (now : Int) (key : String) : Bool :=
  (keys.live? now key).isSome

def set (keys : Keyspace) (now : Int) (key value : String) (ttlMs : Option Number)
    : Except Thrown Unit × Keyspace :=
  match ttlMs.filter (Number.lt 0) with
  | some ttl =>
      match milliseconds? ttl with
      | some px => (.ok (), Function.update keys key (some ⟨value, some (now + px)⟩))
      | none => (.error (redisError "ERR value is not an integer or out of range"), keys)
  | none => (.ok (), Function.update keys key (some ⟨value, none⟩))

/-- A positive lifetime is taken if it is a whole number. -/
theorem set_finite {lifetime : Rat} (positive : 0 < lifetime) (keys : Keyspace) (now : Int)
    (key value : String)
    : set keys now key value (some (.finite lifetime))
      = if lifetime.den = 1 then
          (.ok (), Function.update keys key (some ⟨value, some (now + lifetime.num)⟩))
        else
          (.error (redisError "ERR value is not an integer or out of range"), keys) := by
  have zero : (0 : Number) = .finite 0 := congrArg Number.finite Nat.cast_zero
  have told : Number.lt 0 (.finite lifetime) = true := by
    rw [zero]
    simp [Number.lt, Number.le, positive, positive.le]
  have counted : 0 < lifetime.num := Rat.num_pos.mpr positive
  unfold set milliseconds?
  by_cases whole : lifetime.den = 1 <;> simp [Option.filter, told, whole, counted]

end RedisOperations

end QueueForge.Infrastructure
