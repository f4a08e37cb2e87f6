import Mathlib.Algebra.Order.Group.Unbundled.Int
import QueueForge.Infrastructure.ExpiringMap
import QueueForge.Js.Decimal

/-! A whole number that is kept in Redis as a text, and expires. -/

namespace QueueForge.RateLimiting

open QueueForge.Infrastructure QueueForge.Js

/-- The texts of a Redis, each until the moment from which it is gone, in milliseconds. -/
abbrev RedisTexts : Type := ExpiringMap String String Int

namespace RedisTexts

variable (redis : RedisTexts)

/-- `redis.setex`. -/
def setex (now : Int) (key : String) (seconds : Nat) (value : String) : RedisTexts :=
  redis.insert key value (now + 1000 * seconds)

/-- `rawVal ? parseInt(rawVal, 10) : initial` for the text that is read; `none` is `NaN`. -/
def balance (now : Int) (key : String) (initial : Int) : Option Int :=
  match redis.find? now key with
  | some rawVal => if rawVal = "" then some initial else parseInt rawVal
  | none => some initial

end RedisTexts

variable {redis : RedisTexts} {now later : Int} {key : String} {initial : Int}

theorem balance_missing (missing : redis key = none)
    : redis.balance now key initial = some initial := by
  simp [RedisTexts.balance, ExpiringMap.find?, missing]

/-- A stored number is read until it expires. -/
theorem balance_stored {value expiry : Int} (found : redis key = some (toString value, expiry))
    : redis.balance now key initial = some (if now < expiry then value else initial) := by
  by_cases live : now < expiry
  · have text : redis.find? now key = some (toString value) := by
      simp [ExpiringMap.find?, found, Option.filter, live]
    simp only [RedisTexts.balance, text, toString_ne_empty, if_false, parseInt_toString, live,
      if_true]
  · have gone : redis.find? now key = none := by
      simp [ExpiringMap.find?, found, Option.filter, live]
    simp only [RedisTexts.balance, gone, live, if_false]

theorem setex_self (redis : RedisTexts) (now : Int) (key : String) (seconds : Nat) (value : String)
    : redis.setex now key seconds value key = some (value, now + 1000 * seconds) :=
  Function.update_self ..

end QueueForge.RateLimiting
