import Mathlib.Algebra.Order.Ring.Rat
import QueueForge.Application.IngestResult
import QueueForge.Async.Throughout
import QueueForge.Infrastructure.ExpiringMap
import QueueForge.Js.Lists

/-! `IdempotencyCache`: values in Redis under keys that expire, and the map with expiry it stands
for. What a key holds is told by the data its JSON text is read back as.
-/

namespace QueueForge.Infrastructure

open QueueForge.Async QueueForge.Js

/-- What the cache wraps a value in; a value that is `undefined` is left out. -/
structure CachedData where
  value : Option Json
  expiresAt : Int

/-- A cached entry with the moment from which Redis has dropped it, in milliseconds. -/
abbrev CacheEntry : Type := String × (CachedData × Int)

/-- The keyspace of Redis, each key once. -/
structure CacheKeys where
  entries : List CacheEntry
  distinct : (entries.map Prod.fst).Nodup

namespace CacheKeys

def empty : CacheKeys where
  entries := []
  distinct := List.nodup_nil

/-- The keyspace as a map. -/
def contents (redis : CacheKeys) : ExpiringMap String CachedData Int :=
  fun key => redis.entries.lookup key

def get (redis : CacheKeys) (now : Int) (key : String) : Option CachedData :=
  redis.contents.find? now key

/-- `exists`. -/
def existing (redis : CacheKeys) (now : Int) (key : String) : Nat :=
  if (redis.get now key).isSome then 1 else 0

def del (redis : CacheKeys) (keys : List String) : CacheKeys where
  entries := redis.entries.filter (fun entry => !keys.contains entry.1)
  distinct := redis.distinct.sublist (List.filter_sublist.map Prod.fst)

/-- `setex`, which takes a positive whole number of seconds. -/
def setex (redis : CacheKeys) (now : Int) (key : String) (seconds : Rat) (data : CachedData)
    : Except Thrown CacheKeys :=
  if seconds.den ≠ 1 then
    .error (newError "ERR value is not an integer or out of range")
  else if seconds.num ≤ 0 then
    .error (newError "ERR invalid expire time in 'setex' command")
  else
    .ok {
      entries :=
        (key, data, now + 1000 * seconds.num) :: redis.entries.filter (fun entry => entry.1 != key)
      distinct := by
        rw [List.map_cons, List.nodup_cons]
        exact ⟨by simp, redis.distinct.sublist (List.filter_sublist.map Prod.fst)⟩
    }

/-- `keys` for a pattern that asks for a text inside of the key. -/
def keys (redis : CacheKeys) (now : Int) (part : String) : List String :=
  ((redis.entries.filter (fun entry => decide (now < entry.2.2))).map Prod.fst).filter
    (fun key => includes key part)

theorem contents_del (redis : CacheKeys) (keys : List String) (key : String)
    : (redis.del keys).contents key = if keys.contains key then none else redis.contents key := by
  have kept := lookup_filter (fun name => !keys.contains name) redis.entries key
  refine kept.trans ?_
  cases keys.contains key <;> rfl

/-- A value is written for a positive whole number of seconds, and for no other. -/
theorem contents_setex (redis : CacheKeys) (now : Int) (key : String) (seconds : Rat)
    (data : CachedData)
    : match redis.setex now key seconds data with
      | .ok stored =>
          (seconds.den = 1 ∧ 0 < seconds)
          ∧ stored.contents = redis.contents.insert key data (now + 1000 * seconds.num)
      | .error _ => ¬(seconds.den = 1 ∧ 0 < seconds) := by
  unfold setex
  by_cases whole : seconds.den ≠ 1
  · rw [if_pos whole]
    exact fun both => whole both.1
  · rw [if_neg whole]
    by_cases short : seconds.num ≤ 0
    · rw [if_pos short]
      exact fun both => absurd (Rat.num_pos.mpr both.2) (not_lt.mpr short)
    · rw [if_neg short]
      refine ⟨⟨not_not.mp whole, Rat.num_pos.mp (not_le.mp short)⟩, ?_⟩
      funext other
      by_cases same : other = key
      · subst same
        rw [ExpiringMap.insert, Function.update_self]
        exact List.lookup_cons_self
      · have differs : (other == key) = false := beq_eq_false_iff_ne.mpr same
        rw [ExpiringMap.insert, Function.update_of_ne same]
        have kept := lookup_filter (fun name => name != key) redis.entries other
        rw [bne, differs] at kept
        rw [contents, List.lookup_cons, differs]
        exact kept

/-- `keys` lists the keys with the part that are found. -/
theorem mem_keys (redis : CacheKeys) (now : Int) (part key : String)
    : key ∈ redis.keys now part ↔ (redis.get now key).isSome = true ∧ includes key part = true := by
  unfold keys
  rw [List.mem_filter, and_congr_left_iff]
  intro _
  constructor
  · intro listed
    obtain ⟨⟨_, entry⟩, kept, rfl⟩ := List.mem_map.mp listed
    obtain ⟨there, live⟩ := List.mem_filter.mp kept
    simp [get, ExpiringMap.find?, contents, lookup_of_mem redis.distinct there, Option.filter,
      live]
  · intro found
    cases held : redis.contents key with
    | none => simp [get, ExpiringMap.find?, held] at found
    | some entry =>
        refine List.mem_map.mpr ⟨(key, entry), List.mem_filter.mpr ⟨mem_of_lookup held, ?_⟩, rfl⟩
        by_contra expired
        simp [get, ExpiringMap.find?, held, Option.filter, expired] at found

end CacheKeys

namespace IdempotencyCache

/-- The part of the keys that `clear` asks for. -/
def clearedPart : String :=
  "idempotent"

section
-- What `setHours` makes of a moment in the time zone of the process; the date may be invalid.
variable (hoursAfter : Int → Rat → Date)

def set (redis : CacheKeys) (now : Int) (key : String) (value : Option Json) (ttlHours : Rat)
    : Except Thrown Unit × CacheKeys :=
  match hoursAfter now ttlHours with
  | none => (.error (.error (builtinError .error "RangeError" "Invalid time value")), redis)
  | some expiresAt =>
      let ttlSeconds := ttlHours * 3600
      match redis.setex now key ttlSeconds { value, expiresAt } with
      | .ok stored => (.ok (), stored)
      | .error error => (.error error, redis)

end

def get (redis : CacheKeys) (now : Int) (key : String) : Option CachedData :=
  redis.get now key

/-- `exists`. -/
def keyExists (redis : CacheKeys) (now : Int) (key : String) : Bool :=
  decide (0 < redis.existing now key)

def delete (redis : CacheKeys) (key : String) : CacheKeys :=
  redis.del [key]

/-- Clears all idempotency cache keys by prefix. -/
def clear (redis : CacheKeys) (now : Int) : CacheKeys :=
  let keys := redis.keys now clearedPart
  if 0 < keys.length then redis.del keys else redis

-----------------------------------------------------------------------------------------
-- The map the cache stands for
-----------------------------------------------------------------------------------------

inductive Call where
  | set (key : String) (value : Option Json) (ttlHours : Rat)
  | get (key : String)
  | keyExists (key : String)
  | delete (key : String)
  | clear

/-- A call, and the milliseconds since the call before. -/
structure TimedCall where
  elapsed : Nat
  call : Call

/-- A value is put into the map for a positive whole number of seconds; any other call of `set`
throws.
-/
def insertFor (hoursAfter : Int → Rat → Date)
    (map : ExpiringMap String CachedData Int) (now : Int) (key : String) (value : Option Json)
    (ttlHours : Rat)
    : ExpiringMap String CachedData Int :=
  match hoursAfter now ttlHours with
  | none => map
  | some expiresAt =>
      let ttlSeconds := ttlHours * 3600
      if ttlSeconds.den = 1 ∧ 0 < ttlSeconds then
        map.insert key { value, expiresAt } (now + 1000 * ttlSeconds.num)
      else
        map

/-- The time, what Redis holds and the map. -/
structure Cached where
  now : Int
  redis : CacheKeys
  map : ExpiringMap String CachedData Int

def step (hoursAfter : Int → Rat → Date) (next : TimedCall) (cached : Cached) : Cached :=
  let now := cached.now + next.elapsed
  match next.call with
  | .set key value ttlHours =>
      {
        now
        redis := (set hoursAfter cached.redis now key value ttlHours).2
        map := insertFor hoursAfter cached.map now key value ttlHours
      }
  | .get _ => { cached with now }
  | .keyExists _ => { cached with now }
  | .delete key => { now, redis := delete cached.redis key, map := cached.map.erase key }
  | .clear => { now, redis := clear cached.redis now, map := .empty }

/-- `get` and `exists` answer for any key, now and later, as the map does. -/
def AnswersAlike (cached : Cached) : Prop :=
  ∀ later,
    cached.now ≤ later
    → ∀ key,
        get cached.redis later key = cached.map.find? later key
        ∧ keyExists cached.redis later key = (cached.map.find? later key).isSome

/-- A call of `clear` comes when all keys that are found have the part it asks for. -/
def ClearsAll (next : TimedCall) (cached : Cached) : Prop :=
  match next.call with
  | .clear =>
      ∀ key,
        keyExists cached.redis (cached.now + next.elapsed) key = true
        → includes key clearedPart = true
  | _ => True

/-- Before the first call. -/
def start (now : Int) : Cached where
  now
  redis := .empty
  map := .empty

-----------------------------------------------------------------------------------------
-- The cache against the map
-----------------------------------------------------------------------------------------

theorem keyExists_eq (redis : CacheKeys) (now : Int) (key : String)
    : keyExists redis now key = (get redis now key).isSome := by
  unfold keyExists CacheKeys.existing get
  cases (redis.get now key).isSome <;> rfl

theorem answersAlike_iff {cached : Cached}
    : AnswersAlike cached
      ↔ ExpiringMap.AlikeFrom cached.now cached.redis.contents cached.map := by
  constructor
  · exact fun alike later ordered key => (alike later ordered key).1
  · intro alike later ordered key
    have found : get cached.redis later key = cached.map.find? later key :=
      alike later ordered key
    exact ⟨found, by rw [keyExists_eq, found]⟩

section
variable {hoursAfter : Int → Rat → Date} {redis : CacheKeys}
  {map : ExpiringMap String CachedData Int} {now : Int}

/-- A value is taken by both or by neither. -/
theorem set_alike (alike : ExpiringMap.AlikeFrom now redis.contents map) (key : String)
    (value : Option Json) (ttlHours : Rat)
    : ExpiringMap.AlikeFrom now (set hoursAfter redis now key value ttlHours).2.contents
        (insertFor hoursAfter map now key value ttlHours) := by
  unfold set insertFor
  cases hoursAfter now ttlHours with
  | none => exact alike
  | some expiresAt =>
      have written := redis.contents_setex now key (ttlHours * 3600) { value, expiresAt }
      dsimp only
      cases stored : redis.setex now key (ttlHours * 3600) { value, expiresAt } with
      | ok stored' =>
          rw [stored] at written
          rw [if_pos written.1, written.2]
          exact alike.update key _
      | error error =>
          rw [stored] at written
          rw [if_neg written]
          exact alike

theorem delete_alike (alike : ExpiringMap.AlikeFrom now redis.contents map) (key : String)
    : ExpiringMap.AlikeFrom now (delete redis key).contents (map.erase key) := by
  have erased : (delete redis key).contents = redis.contents.erase key := by
    funext other
    rw [delete, CacheKeys.contents_del, ExpiringMap.erase, Function.update_apply]
    by_cases same : other = key <;> simp [same]
  rw [erased]
  exact alike.update key none

/-- What is found after a call of `clear` was found before and has not the part. -/
theorem get_clear (redis : CacheKeys) (now : Int) (key : String)
    : get (clear redis now) now key
      = if includes key clearedPart then none else get redis now key := by
  have cleared
      : get (redis.del (redis.keys now clearedPart)) now key
        = if includes key clearedPart then none else get redis now key := by
    have contents := redis.contents_del (redis.keys now clearedPart) key
    unfold get CacheKeys.get ExpiringMap.find?
    rw [contents]
    by_cases listed : key ∈ redis.keys now clearedPart
    · have part := ((redis.mem_keys now clearedPart key).mp listed).2
      simp [listed, part]
    · simp only [List.contains_eq_mem, listed, decide_false, Bool.false_eq_true, if_false]
      split
      · rename_i part
        have missing : ¬(redis.get now key).isSome = true := by
          exact fun found => listed ((redis.mem_keys now clearedPart key).mpr ⟨found, part⟩)
        exact Option.not_isSome_iff_eq_none.mp missing
      · rfl
  unfold clear
  dsimp only
  split
  · exact cleared
  · rename_i none
    have empty : redis.keys now clearedPart = [] := by
      rw [← List.length_eq_zero_iff]
      omega
    rw [← cleared, empty]
    unfold get CacheKeys.get ExpiringMap.find?
    rw [redis.contents_del [] key]
    rfl

/-- A call of `clear` leaves what the map has then if and only if all that is found has the part.
-/
theorem clear_alike
    : ExpiringMap.AlikeFrom now (clear redis now).contents (.empty : ExpiringMap String CachedData Int)
      ↔ ∀ key, keyExists redis now key = true → includes key clearedPart = true := by
  rw [ExpiringMap.AlikeFrom.empty_iff]
  refine forall_congr' (fun key => ?_)
  have found := get_clear redis now key
  change get (clear redis now) now key = none ↔ _
  rw [found, keyExists_eq]
  cases includes key clearedPart <;> cases get redis now key <;> simp

/-- Every call keeps the cache and the map alike, unless it is a call of `clear` that misses a key.
-/
theorem step_alike (hoursAfter : Int → Rat → Date) (next : TimedCall) (cached : Cached)
    (alike : AnswersAlike cached)
    : AnswersAlike (step hoursAfter next cached) ↔ ClearsAll next cached := by
  rw [answersAlike_iff] at alike ⊢
  have later := alike.mono (show cached.now ≤ cached.now + next.elapsed by omega)
  unfold step ClearsAll
  cases next.call with
  | set key value ttlHours => exact iff_of_true (set_alike later key value ttlHours) trivial
  | get key => exact iff_of_true later trivial
  | keyExists key => exact iff_of_true later trivial
  | delete key => exact iff_of_true (delete_alike later key) trivial
  | clear => exact clear_alike

end

/-- The cache answers as the map does throughout any calls, if and only if at every call of `clear`
all keys that are found have the part it asks for.
-/
theorem answersAlike_throughout_iff (hoursAfter : Int → Rat → Date) (calls : List TimedCall)
    (now : Int)
    : Throughout (step hoursAfter) AnswersAlike calls (start now)
      ↔ EveryStep (step hoursAfter) ClearsAll calls (start now) := by
  refine throughout_iff_everyStep (fun _ alike => alike) ?_ ?_ calls ?_
  · exact fun next cached alike clears => (step_alike hoursAfter next cached alike).mpr clears
  · exact fun next cached alike after => (step_alike hoursAfter next cached alike).mp after
  · exact answersAlike_iff.mpr (.refl _)

/-- A result that is ingested under a key without the part is found after `clear`. -/
theorem ingested_key_survives
    : ¬∀ (hoursAfter : Int → Rat → Date) (calls : List TimedCall) (now : Int),
        Throughout (step hoursAfter) AnswersAlike calls (start now) := by
  intro alike
  let key := Application.IngestResultService.idempotencyKey
    { emailId := "mail-1", agentId := "agent-1", agentVersion := "1.0", resultPayload := [],
      confidenceScore := 0, llmMetadata := none }
  let calls : List TimedCall := [⟨0, .set key (some (.string "result-1")) 24⟩, ⟨0, .clear⟩]
  have answers := alike (fun now _ => some (now + 86400000)) calls 0 calls List.prefix_rfl
  have found := (answers 0 le_rfl key).2
  revert found
  decide +kernel

end IdempotencyCache

end QueueForge.Infrastructure
