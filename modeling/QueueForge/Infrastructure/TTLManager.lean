import QueueForge.Async.Throughout
import QueueForge.Infrastructure.TypedKeys

/-! `TTLManager` keeps the expiry of a key twice: as the lifetime of the key itself, and as its score
in a sorted set, which tells what is tracked.
-/

namespace QueueForge.Infrastructure

open QueueForge.Async QueueForge.Js

namespace TTLManager

def trackerKey : String :=
  "queueforge:ttl_tracker"

/-- Schedules a key for tracking with a given TTL. -/
def schedule (key : String) (ttlMs : Number) : RedisProgram Unit := do
  let now : Int ← awaitRedis .now
  let expiry := (Number.ofInt now).add ttlMs
  RedisOperations.zadd trackerKey expiry key
  RedisOperations.expire key ttlMs

/-- Unschedules tracking for a key. -/
def unschedule (key : String) : RedisProgram Unit := do
  let _ ← RedisOperations.srem trackerKey [key]
  let _ ← RedisOperations.delete key
  return ()

/-- Extends the TTL of a tracked key. -/
def extend (key : String) (additionalTtlMs : Number) : RedisProgram Unit := do
  let currentTtl ← RedisOperations.ttl key
  let newTtl := (Number.ofInt (currentTtl.getD 0)).add additionalTtlMs
  let now : Int ← awaitRedis .now
  let expiry := (Number.ofInt now).add newTtl
  RedisOperations.zadd trackerKey expiry key
  RedisOperations.expire key newTtl

/-- The loop over the expired keys; the client itself takes them out of the tracker. -/
def evict : List String → Nat → RedisProgram Nat
  | [], evictedCount => .done evictedCount
  | key :: rest, evictedCount => do
      let deleted ← RedisOperations.delete key
      let _ ← awaitRedis (.zrem trackerKey key)
      evict rest (if deleted then evictedCount + 1 else evictedCount)

/-- Scans and evicts all expired tracked keys. -/
def cleanupExpired : RedisProgram Nat := do
  let now : Int ← awaitRedis .now
  let expiredKeys ← RedisOperations.zrangebyscore trackerKey 0 (.ofInt now)
  if expiredKeys.length = 0 then
    return 0
  evict expiredKeys 0

end TTLManager

/-- A call of the manager, or what others do to the keys that are not its own. -/
inductive TTLEvent where
  | schedule (key : String) (ttlMs : Number)
  | extend (key : String) (additionalTtlMs : Number)
  | unschedule (key : String)
  | cleanupExpired
  | elsewhere (keys : TypedKeys)

/-- The server, and by the calls so far the latest expiry of each key that is to be tracked. -/
structure TTLHistory where
  world : RedisWorld
  latest : String → Option Number

namespace TTLHistory

variable (clock : Nat → Int) (history : TTLHistory)

/-- The time of a call that comes after some others. -/
def time (later : Nat) : Int :=
  clock (history.world.calls + later)

/-- The lifetime that a key gets from an extension: what it has left, in whole seconds, and more. -/
def extended (key : String) (additionalTtlMs : Number) : Number :=
  let seconds := history.world.keys.ttl (history.time clock 0) key
  (Number.ofInt (if seconds < 0 then 0 else seconds * 1000)).add additionalTtlMs

/-- The key is to be tracked and its latest expiry has passed. -/
def due (key : String) : Bool :=
  (history.latest key).any (fun expiry => expiry.le (.ofInt (history.time clock 0)))

end TTLHistory

namespace TTLManager

def program : TTLEvent → RedisProgram Unit
  | .schedule key ttlMs => schedule key ttlMs
  | .extend key additionalTtlMs => extend key additionalTtlMs
  | .unschedule key => unschedule key
  | .cleanupExpired => cleanupExpired.bind (fun _ => .done ())
  | .elsewhere _ => .done ()

/-- The tracker has the key. -/
def Tracked (clock : Nat → Int) (world : RedisWorld) (key : String) : Prop :=
  ∃ members expiresAt,
    world.keys.live? (clock world.calls) trackerKey
      = some { value := .sortedSet members, expiresAt }
    ∧ key ∈ members

section
variable (clock : Nat → Int) (event : TTLEvent) (history : TTLHistory)

/-- What is to be tracked after an event. -/
def expected : String → Option Number :=
  match event with
  | .schedule key ttlMs =>
      Function.update history.latest key (some ((Number.ofInt (history.time clock 0)).add ttlMs))
  | .extend key additionalTtlMs =>
      Function.update history.latest key
        (some
          ((Number.ofInt (history.time clock 1)).add
            (history.extended clock key additionalTtlMs)))
  | .unschedule key => Function.update history.latest key none
  | .cleanupExpired => fun key => if history.due clock key then none else history.latest key
  | .elsewhere _ => history.latest

/-- What a call settles with, and the server after it. -/
def called : Settled Thrown Unit × RedisWorld :=
  (program event).run (redisServer clock) history.world

/-- The server after an event. -/
def worldAfter : RedisWorld :=
  match event with
  | .elsewhere keys =>
      { history.world with keys := Function.update keys trackerKey (history.world.keys trackerKey) }
  | event => (called clock event history).2

def step : TTLHistory where
  world := worldAfter clock event history
  latest := expected clock event history

/-- A call does not throw, the keys that are to be tracked are tracked after it and no others, and a
cleanup deletes those whose latest expiry has passed and no others.
-/
structure Truthful : Prop where
  returns : (called clock event history).1 = .ok ()
  tracked
    : ∀ key,
        Tracked clock (step clock event history).world key
        ↔ ((step clock event history).latest key).isSome = true
  evicts
    : event = .cleanupExpired
      → ∀ key,
          key ≠ trackerKey
          → (step clock event history).world.keys key
            = if history.due clock key then none else history.world.keys key

/-- A key that is not the tracker's gets a lifetime that Redis takes, nothing is tracked when a key
is unscheduled, and no expiry from before the epoch has passed at a cleanup.
-/
def Proper : Prop :=
  match event with
  | .schedule key ttlMs =>
      key ≠ trackerKey ∧ (deadline? (history.time clock 2) ttlMs).isOk = true
  | .extend key additionalTtlMs =>
      key ≠ trackerKey
      ∧ (deadline? (history.time clock 3) (history.extended clock key additionalTtlMs)).isOk
        = true
  | .unschedule _ => ∀ key, history.latest key = none
  | .cleanupExpired =>
      ∀ key expiry,
        history.latest key = some expiry
        → expiry.le (.ofInt (history.time clock 0)) = true
        → Number.le 0 expiry = true
  | .elsewhere _ => True

end

/-- The event does not set the expiry of the tracker itself. -/
def OfOtherKeys : TTLEvent → Prop
  | .schedule key _ => key ≠ trackerKey
  | .extend key _ => key ≠ trackerKey
  | _ => True

-----------------------------------------------------------------------------------------
-- What the tracker holds
-----------------------------------------------------------------------------------------

/-- The tracker tells the latest expiries, and does not track itself. -/
structure Tracks (latest : String → Option Number) (keys : TypedKeys) : Prop where
  others : latest trackerKey = none
  tracker
    : ∃ members : Scores,
        keys trackerKey = TypedKeys.ofScores members ∧ ∀ key, members.lookup key = latest key

namespace Tracks

variable {latest : String → Option Number} {keys : TypedKeys}

/-- What becomes of the other keys is of no account. -/
theorem congr (tracks : Tracks latest keys) {after : TypedKeys}
    (kept : after trackerKey = keys trackerKey)
    : Tracks latest after :=
  ⟨tracks.others, kept ▸ tracks.tracker⟩

/-- The tracker has the keys with a latest expiry. -/
theorem tracked_iff {world : RedisWorld} (tracks : Tracks latest world.keys) (clock : Nat → Int)
    (key : String)
    : Tracked clock world key ↔ (latest key).isSome = true := by
  obtain ⟨members, found, same⟩ := tracks.tracker
  unfold Tracked
  rw [TypedKeys.live?_ofScores found, ← same key, AList.lookup_isSome]
  cases empty : members.entries.isEmpty with
  | true =>
      rw [TypedKeys.ofScores_of_empty empty, TypedKeys.eq_empty empty]
      exact iff_of_false (fun ⟨_, _, found, _⟩ => nomatch found) (AList.notMem_empty key)
  | false =>
      rw [TypedKeys.ofScores_of_nonempty empty]
      constructor
      · rintro ⟨_, _, ⟨⟩, mem⟩
        exact mem
      · exact fun mem => ⟨_, _, rfl, mem⟩

/-- Nothing is tracked when the tracker is empty. -/
theorem isEmpty_iff {members : Scores} (same : ∀ key, members.lookup key = latest key)
    : members.entries.isEmpty = true ↔ ∀ key, latest key = none := by
  constructor
  · intro empty key
    rw [← same key, TypedKeys.eq_empty empty, AList.lookup_empty]
  · intro nothing
    rw [List.isEmpty_iff, List.eq_nil_iff_forall_not_mem]
    rintro ⟨key, score⟩ listed
    have found := AList.mem_lookup_iff.mpr listed
    rw [same key, nothing key] at found
    exact nomatch found

/-- The tracker takes a score that is a number, for a key that is not its own. -/
theorem zadd (tracks : Tracks latest keys) {key : String} (other : key ≠ trackerKey)
    {score : Number} (numeric : score ≠ .nan) (now : Int)
    : ∃ added after,
        keys.zadd now trackerKey score key = (.ok added, after)
        ∧ Tracks (Function.update latest key (some score)) after := by
  obtain ⟨members, found, same⟩ := tracks.tracker
  refine ⟨_, _, TypedKeys.zadd_ofScores found numeric now key, ?_, members.insert key score, ?_, ?_⟩
  · rw [Function.update_of_ne other.symm]
    exact tracks.others
  · exact Function.update_self ..
  · intro name
    by_cases here : name = key
    · subst here
      rw [Function.update_self, AList.lookup_insert]
    · rw [Function.update_of_ne here, AList.lookup_insert_ne here, same name]

/-- A key is taken out of the tracker. -/
theorem zrem (tracks : Tracks latest keys) (now : Int) (key : String)
    : ∃ removed after,
        keys.zrem now trackerKey key = (.ok removed, after)
        ∧ Tracks (Function.update latest key none) after
        ∧ ∀ other, other ≠ trackerKey → after other = keys other := by
  obtain ⟨members, found, same⟩ := tracks.tracker
  obtain ⟨removed, answered⟩ := TypedKeys.zrem_ofScores found now key
  refine ⟨removed, _, answered, ⟨?_, members.erase key, ?_, ?_⟩, ?_⟩
  · by_cases here : trackerKey = key
    · rw [here, Function.update_self]
    · rw [Function.update_of_ne here]
      exact tracks.others
  · exact Function.update_self ..
  · intro name
    by_cases here : name = key
    · subst here
      rw [Function.update_self, AList.lookup_erase]
    · rw [Function.update_of_ne here, AList.lookup_erase_ne here, same name]
  · exact fun other different => Function.update_of_ne different ..

/-- `srem` on the tracker is refused as soon as something is tracked. -/
theorem srem_isOk_iff (tracks : Tracks latest keys) (now : Int) (gone : List String)
    : (keys.srem now trackerKey gone).1.isOk = true ↔ ∀ key, latest key = none := by
  obtain ⟨members, found, same⟩ := tracks.tracker
  rw [TypedKeys.srem_ofScores found, ← isEmpty_iff same]
  cases members.entries.isEmpty with
  | true => exact iff_of_true rfl rfl
  | false => exact iff_of_false Bool.false_ne_true Bool.false_ne_true

theorem srem_keys (tracks : Tracks latest keys) (now : Int) (gone : List String)
    : (keys.srem now trackerKey gone).2 = keys := by
  obtain ⟨members, found, _⟩ := tracks.tracker
  rw [TypedKeys.srem_ofScores found]

/-- A key may be deleted when nothing is tracked, the tracker itself too. -/
theorem delete_of_nothing (tracks : Tracks latest keys) (nothing : ∀ key, latest key = none)
    (key : String)
    : Tracks (Function.update latest key none) (Function.update keys key none) := by
  have untracked (name : String) : Function.update latest key none name = none := by
    by_cases here : name = key
    · rw [here, Function.update_self]
    · rw [Function.update_of_ne here, nothing name]
  refine ⟨untracked trackerKey, ∅, ?_, fun name => ?_⟩
  · change Function.update keys key none trackerKey = none
    by_cases here : trackerKey = key
    · rw [← here, Function.update_self]
    · obtain ⟨members, found, same⟩ := tracks.tracker
      rw [Function.update_of_ne here, found]
      exact TypedKeys.ofScores_of_empty ((isEmpty_iff same).mpr nothing)
  · rw [AList.lookup_empty]
    exact (untracked name).symm

/-- The keys whose latest expiries are in a range. -/
theorem zrangebyscore (tracks : Tracks latest keys) (now : Int) (min max : Number)
    : ∃ listed,
        keys.zrangebyscore now trackerKey min max = (.ok listed, keys)
        ∧ ∀ key,
            key ∈ listed
            ↔ ∃ expiry,
                latest key = some expiry ∧ min.le expiry = true ∧ expiry.le max = true := by
  obtain ⟨members, found, same⟩ := tracks.tracker
  refine ⟨_, TypedKeys.zrangebyscore_ofScores found now min max, fun key => ?_⟩
  rw [TypedKeys.mem_between, same key]

end Tracks

-----------------------------------------------------------------------------------------
-- What the calls do
-----------------------------------------------------------------------------------------

section
variable {clock : Nat → Int} {world : RedisWorld} {latest : String → Option Number}

/-- A lifetime that leads to a moment is a finite number, and so is the expiry. -/
theorem expiry_ne_nan {now later : Int} {lifetime : Number}
    (accepted : (deadline? later lifetime).isOk = true)
    : (Number.ofInt now).add lifetime ≠ .nan := by
  cases lifetime with
  | finite => exact nofun
  | nan | negInfinity | posInfinity => exact nomatch accepted

/-- A key is put into the tracker and gets its lifetime, if Redis takes it. -/
theorem run_record (clock : Nat → Int) (world : RedisWorld) (tracks : Tracks latest world.keys)
    {key : String} (other : key ≠ trackerKey) (now : Int) (lifetime : Number)
    : let recorded :=
        ((RedisOperations.zadd trackerKey ((Number.ofInt now).add lifetime) key).bind
          (fun _ => RedisOperations.expire key lifetime)).run (redisServer clock) world
      (recorded.1 = .ok () ↔ (deadline? (clock (world.calls + 1)) lifetime).isOk = true)
      ∧ ((deadline? (clock (world.calls + 1)) lifetime).isOk = true
        → Tracks (Function.update latest key (some ((Number.ofInt now).add lifetime)))
          recorded.2.keys) := by
  intro recorded
  by_cases numeric : (Number.ofInt now).add lifetime = .nan
  · have refused : recorded.1 ≠ .ok () := by
      simp [recorded, RedisOperations.zadd, RedisCall.answer, numeric, TypedKeys.zadd,
        Except.mapError]
    have late : ¬(deadline? (clock (world.calls + 1)) lifetime).isOk = true :=
      fun accepted => expiry_ne_nan accepted numeric
    exact ⟨iff_of_false refused late, fun accepted => absurd accepted late⟩
  · obtain ⟨added, after, answered, kept⟩ := tracks.zadd other numeric (clock world.calls)
    have expires
        : (after.pexpire (clock (world.calls + 1)) key lifetime).1.isOk
          = (deadline? (clock (world.calls + 1)) lifetime).isOk :=
      TypedKeys.pexpire_isOk
    have untouched
        : (after.pexpire (clock (world.calls + 1)) key lifetime).2 trackerKey = after trackerKey :=
      TypedKeys.pexpire_of_ne other.symm _ lifetime
    have ran
        : (recorded.1 = .ok ()
            ↔ (after.pexpire (clock (world.calls + 1)) key lifetime).1.isOk = true)
          ∧ recorded.2.keys = (after.pexpire (clock (world.calls + 1)) key lifetime).2 := by
      simp only [recorded, RedisOperations.zadd, RedisOperations.expire, RedisCall.answer,
        Program.run_bind, RedisOperations.run_execute, Program.bind_eq, Program.pure_eq, answered,
        Except.mapError, Program.run_done]
      rcases after.pexpire (clock (world.calls + 1)) key lifetime with ⟨_ | _, keys⟩
      · exact ⟨iff_of_false (by rintro ⟨⟩) Bool.false_ne_true, rfl⟩
      · exact ⟨iff_of_true rfl rfl, rfl⟩
    rw [← expires, ran.2]
    exact ⟨ran.1, fun _ => kept.congr untouched⟩

/-- What is left after a key and then the others are taken out. -/
theorem without_cons {α : Type} (first : String) (rest : List String) (kept : String → Option α)
    (key : String)
    : (if key ∈ rest then none else Function.update kept first none key)
      = if key ∈ first :: rest then none else kept key := by
  by_cases here : key = first
  · simp [here]
  · simp [here]

/-- Keys are deleted and taken out of the tracker one after the other. By induction on the keys. -/
theorem run_evict (clock : Nat → Int) {expired : List String}
    (others : ∀ key ∈ expired, key ≠ trackerKey) (evictedCount : Nat) (world : RedisWorld)
    (tracks : Tracks latest world.keys)
    : ∃ evicted after,
        (evict expired evictedCount).run (redisServer clock) world = (.ok evicted, after)
        ∧ Tracks (fun key => if key ∈ expired then none else latest key) after.keys
        ∧ ∀ key,
            key ≠ trackerKey → after.keys key = if key ∈ expired then none else world.keys key := by
  induction expired generalizing evictedCount world latest with
  | nil =>
      refine ⟨evictedCount, world, rfl, ?_, fun _ _ => ?_⟩
      · simpa using tracks
      · simp
  | cons first rest ih =>
      obtain ⟨other, later⟩ := List.forall_mem_cons.mp others
      have deleted : Tracks latest (Function.update world.keys first none) :=
        tracks.congr (Function.update_of_ne other.symm ..)
      obtain ⟨removed, between, answered, left, kept⟩ :=
        deleted.zrem (clock (world.calls + 1)) first
      have counted (evictedCount : Nat)
          : (evict (first :: rest) evictedCount).run (redisServer clock) world
            = (evict rest
                (if (world.keys.live? (clock world.calls) first).isSome then evictedCount + 1
                  else evictedCount)).run (redisServer clock) ⟨between, world.calls + 2⟩ := by
        cases found : world.keys.live? (clock world.calls) first <;>
          simp [evict, RedisOperations.delete, RedisCall.answer, TypedKeys.del, redisServer,
            answered, Except.mapError, found]
      obtain ⟨evicted, after, ran, tracksAfter, changes⟩ :=
        ih later _ ⟨between, world.calls + 2⟩ left
      refine ⟨evicted, after, (counted evictedCount).trans ran, ?_, fun key different => ?_⟩
      · rw [← funext (without_cons first rest latest)]
        exact tracksAfter
      · have before : after.keys key = if key ∈ rest then none else between key :=
          changes key different
        rw [before, kept key different]
        exact without_cons first rest world.keys key

end

section
variable (clock : Nat → Int) {history : TTLHistory} {key : String} {lifetime : Number}

/-- A key is scheduled if Redis takes the lifetime. -/
theorem settles_schedule (tracks : Tracks history.latest history.world.keys)
    (other : key ≠ trackerKey)
    : ((called clock (.schedule key lifetime) history).1 = .ok ()
        ↔ (deadline? (history.time clock 2) lifetime).isOk = true)
      ∧ ((deadline? (history.time clock 2) lifetime).isOk = true
        → Tracks (step clock (.schedule key lifetime) history).latest
          (step clock (.schedule key lifetime) history).world.keys) := by
  have recorded :=
    run_record clock ⟨history.world.keys, history.world.calls + 1⟩ tracks other
      (history.time clock 0) lifetime
  have ran
      : called clock (.schedule key lifetime) history
        = ((RedisOperations.zadd trackerKey
              ((Number.ofInt (history.time clock 0)).add lifetime) key).bind
            (fun _ => RedisOperations.expire key lifetime)).run (redisServer clock)
          ⟨history.world.keys, history.world.calls + 1⟩ := by
    simp [called, program, schedule, redisServer, RedisCall.answer, TTLHistory.time]
  rw [← ran] at recorded
  exact recorded

/-- A key is extended if Redis takes what it has left and the additional lifetime. -/
theorem settles_extend (tracks : Tracks history.latest history.world.keys)
    (other : key ≠ trackerKey) {additionalTtlMs : Number}
    : let newTtl := history.extended clock key additionalTtlMs
      ((called clock (.extend key additionalTtlMs) history).1 = .ok ()
        ↔ (deadline? (history.time clock 3) newTtl).isOk = true)
      ∧ ((deadline? (history.time clock 3) newTtl).isOk = true
        → Tracks (step clock (.extend key additionalTtlMs) history).latest
          (step clock (.extend key additionalTtlMs) history).world.keys) := by
  intro newTtl
  have recorded :=
    run_record clock ⟨history.world.keys, history.world.calls + 2⟩ tracks other
      (history.time clock 1) newTtl
  have ran
      : called clock (.extend key additionalTtlMs) history
        = ((RedisOperations.zadd trackerKey
              ((Number.ofInt (history.time clock 1)).add newTtl) key).bind
            (fun _ => RedisOperations.expire key newTtl)).run (redisServer clock)
          ⟨history.world.keys, history.world.calls + 2⟩ := by
    by_cases gone : history.world.keys.ttl (history.time clock 0) key < 0
    · rw [TTLHistory.time, Nat.add_zero] at gone
      simp [called, program, extend, RedisOperations.ttl, redisServer, RedisCall.answer,
        TTLHistory.time, newTtl, TTLHistory.extended, Except.mapError, gone]
    · rw [TTLHistory.time, Nat.add_zero] at gone
      simp [called, program, extend, RedisOperations.ttl, redisServer, RedisCall.answer,
        TTLHistory.time, newTtl, TTLHistory.extended, Except.mapError, gone]
  rw [← ran] at recorded
  exact recorded

/-- A key is deleted if SREM is taken, and only then `unschedule` returns. -/
theorem run_unschedule (history : TTLHistory) (key : String)
    : let removed := history.world.keys.srem (history.time clock 0) trackerKey [key]
      ((called clock (.unschedule key) history).1 = .ok () ↔ removed.1.isOk = true)
      ∧ (removed.1.isOk = true
        → (called clock (.unschedule key) history).2.keys
          = Function.update removed.2 key none) := by
  simp only [called, program, unschedule, RedisOperations.srem, RedisOperations.delete,
    RedisCall.answer, TTLHistory.time, List.length_singleton, one_ne_zero, if_false,
    Program.bind_eq, Program.run_bind, RedisOperations.run_execute, Nat.add_zero]
  rcases history.world.keys.srem (clock history.world.calls) trackerKey [key] with ⟨_ | _, _⟩
  · exact ⟨iff_of_false (by rintro ⟨⟩) Bool.false_ne_true, (by rintro ⟨⟩)⟩
  · exact ⟨iff_of_true rfl rfl, fun _ => rfl⟩

/-- A key is unscheduled if nothing is tracked. -/
theorem settles_unschedule (tracks : Tracks history.latest history.world.keys)
    : ((called clock (.unschedule key) history).1 = .ok () ↔ ∀ key, history.latest key = none)
      ∧ ((∀ key, history.latest key = none)
        → Tracks (step clock (.unschedule key) history).latest
          (step clock (.unschedule key) history).world.keys) := by
  have removes := tracks.srem_isOk_iff (history.time clock 0) [key]
  have kept := tracks.srem_keys (history.time clock 0) [key]
  obtain ⟨returns, deletes⟩ := run_unschedule clock history key
  refine ⟨returns.trans removes, fun nothing => ?_⟩
  have after
      : (called clock (.unschedule key) history).2.keys
        = Function.update history.world.keys key none := by
    rw [deletes (removes.mpr nothing), kept]
  have left := tracks.delete_of_nothing nothing key
  rw [← after] at left
  exact left

/-- A cleanup deletes the keys whose latest expiries are neither before the epoch nor to come. -/
theorem settles_cleanupExpired (tracks : Tracks history.latest history.world.keys)
    : ∃ expired : List String,
        (∀ key,
            key ∈ expired
            ↔ history.due clock key = true
              ∧ ∀ expiry, history.latest key = some expiry → Number.le 0 expiry = true)
        ∧ (called clock .cleanupExpired history).1 = .ok ()
        ∧ Tracks (fun key => if key ∈ expired then none else history.latest key)
          (called clock .cleanupExpired history).2.keys
        ∧ ∀ key,
            key ≠ trackerKey
            → (called clock .cleanupExpired history).2.keys key
              = if key ∈ expired then none else history.world.keys key := by
  obtain ⟨expired, answered, listed⟩ :=
    tracks.zrangebyscore (clock (history.world.calls + 1)) 0 (.ofInt (history.time clock 0))
  have others (key : String) (mem : key ∈ expired) : key ≠ trackerKey := by
    rintro rfl
    obtain ⟨expiry, found, _⟩ := (listed _).mp mem
    exact nomatch tracks.others.symm.trans found
  obtain ⟨evicted, after, ran, tracksAfter, changes⟩ :=
    run_evict clock others 0 ⟨history.world.keys, history.world.calls + 2⟩ tracks
  have cleaned : called clock .cleanupExpired history = (.ok (), after) := by
    simp only [TTLHistory.time, Nat.add_zero] at answered
    cases expired with
    | nil =>
        cases ran
        simp [called, program, cleanupExpired, RedisOperations.zrangebyscore, redisServer,
          RedisCall.answer, answered, Except.mapError]
    | cons first rest =>
        simp [called, program, cleanupExpired, RedisOperations.zrangebyscore, redisServer,
          RedisCall.answer, answered, Except.mapError, ran]
  rw [cleaned]
  refine ⟨expired, fun key => ?_, rfl, tracksAfter, changes⟩
  rw [listed key, TTLHistory.due]
  cases history.latest key with
  | none => simp
  | some expiry => simp [and_comm]

end

-----------------------------------------------------------------------------------------
-- Runs
-----------------------------------------------------------------------------------------

section
variable {clock : Nat → Int} {event : TTLEvent} {history : TTLHistory}

/-- What has passed is deleted, if no expiry is from before the epoch. -/
theorem mem_expired_iff_due {expired : List String} {key : String}
    (listed
      : key ∈ expired
        ↔ history.due clock key = true
          ∧ ∀ expiry, history.latest key = some expiry → Number.le 0 expiry = true)
    (proper : Proper clock .cleanupExpired history)
    : key ∈ expired ↔ history.due clock key = true := by
  rw [listed]
  refine and_iff_left_of_imp (fun due expiry found => proper key expiry found ?_)
  rw [TTLHistory.due, found] at due
  exact due

/-- A proper event keeps what the tracker tells. -/
theorem Tracks.step (tracks : Tracks history.latest history.world.keys)
    (proper : Proper clock event history)
    : Tracks (step clock event history).latest (step clock event history).world.keys := by
  cases event with
  | schedule key ttlMs => exact (settles_schedule clock tracks proper.1).2 proper.2
  | extend key additionalTtlMs => exact (settles_extend clock tracks proper.1).2 proper.2
  | unschedule key => exact (settles_unschedule clock tracks).2 proper
  | elsewhere keys =>
      refine tracks.congr ?_
      change Function.update keys trackerKey _ trackerKey = _
      exact Function.update_self ..
  | cleanupExpired =>
      obtain ⟨expired, listed, _, after, _⟩ := settles_cleanupExpired clock tracks
      have same
          : (TTLManager.step clock .cleanupExpired history).latest
            = fun key => if key ∈ expired then none else history.latest key := by
        funext key
        have mem := mem_expired_iff_due (listed key) proper
        by_cases due : history.due clock key = true
        · simp [TTLManager.step, expected, due, mem.mpr due]
        · simp [TTLManager.step, expected, due, mem]
      rw [same]
      exact after

/-- A proper event is answered truthfully if it returns and evicts what it should. -/
theorem truthful_of_proper (tracks : Tracks history.latest history.world.keys)
    (proper : Proper clock event history) (returns : (called clock event history).1 = .ok ())
    (evicts
      : event = .cleanupExpired
        → ∀ key,
            key ≠ trackerKey
            → (step clock event history).world.keys key
              = if history.due clock key then none else history.world.keys key)
    : Truthful clock event history :=
  ⟨returns, (tracks.step proper).tracked_iff clock, evicts⟩

/-- A cleanup is answered truthfully exactly when no expiry that has passed is from before the
epoch.
-/
theorem truthful_cleanupExpired_iff (tracks : Tracks history.latest history.world.keys)
    : Truthful clock .cleanupExpired history ↔ Proper clock .cleanupExpired history := by
  obtain ⟨expired, listed, returns, after, changes⟩ := settles_cleanupExpired clock tracks
  constructor
  · intro truthful key expiry found passed
    have due : history.due clock key = true := by
      rw [TTLHistory.due, found]
      exact passed
    by_cases mem : key ∈ expired
    · exact ((listed key).mp mem).2 expiry found
    · -- A key from before the epoch is still tracked.
      have still : Tracked clock (called clock .cleanupExpired history).2 key := by
        rw [after.tracked_iff clock key, if_neg mem, found]
        rfl
      have noted := (truthful.tracked key).mp still
      simp [step, expected, due] at noted
  · intro proper
    refine truthful_of_proper tracks proper returns (fun _ key different => ?_)
    have mem := mem_expired_iff_due (listed key) proper
    refine (changes key different).trans ?_
    simp only [mem]

/-- An event that does not set the expiry of the tracker is answered truthfully exactly when it is
proper.
-/
theorem truthful_iff (tracks : Tracks history.latest history.world.keys)
    (other : OfOtherKeys event)
    : Truthful clock event history ↔ Proper clock event history := by
  cases event with
  | schedule key ttlMs =>
      obtain ⟨settles, _⟩ := settles_schedule clock tracks other
      constructor
      · exact fun truthful => ⟨other, settles.mp truthful.returns⟩
      · exact fun proper => truthful_of_proper tracks proper (settles.mpr proper.2) nofun
  | extend key additionalTtlMs =>
      obtain ⟨settles, _⟩ := settles_extend clock tracks other
      constructor
      · exact fun truthful => ⟨other, settles.mp truthful.returns⟩
      · exact fun proper => truthful_of_proper tracks proper (settles.mpr proper.2) nofun
  | unschedule key =>
      obtain ⟨settles, _⟩ := @settles_unschedule clock _ key tracks
      constructor
      · exact fun truthful => settles.mp truthful.returns
      · exact fun proper => truthful_of_proper tracks proper (settles.mpr proper) nofun
  | elsewhere keys => exact iff_of_true (truthful_of_proper tracks trivial rfl nofun) trivial
  | cleanupExpired => exact truthful_cleanupExpired_iff tracks

end

/-- A server that has nothing under the key of the tracker. -/
def untracked (keys : TypedKeys) : TTLHistory where
  world := { keys := Function.update keys trackerKey none, calls := 0 }
  latest _ := none

theorem tracks_untracked (keys : TypedKeys)
    : Tracks (untracked keys).latest (untracked keys).world.keys := by
  have nothing : (untracked keys).world.keys trackerKey = none := by
    change Function.update keys trackerKey none trackerKey = none
    exact Function.update_self ..
  exact ⟨rfl, ∅, nothing, fun key => AList.lookup_empty key⟩

/-- Every event of a run is answered truthfully if each one is proper, and only if, as long as none
sets the expiry of the tracker itself.
-/
theorem truthful_run (clock : Nat → Int) (keys : TypedKeys) (events : List TTLEvent)
    : (EveryStep (step clock) (Proper clock) events (untracked keys)
        → EveryStep (step clock) (Truthful clock) events (untracked keys))
      ∧ ((∀ event ∈ events, OfOtherKeys event)
        → EveryStep (step clock) (Truthful clock) events (untracked keys)
        → EveryStep (step clock) (Proper clock) events (untracked keys)) := by
  constructor
  · intro proper
    refine
      @EveryStep.imp _ _ _ (fun history => Tracks history.latest history.world.keys) _ _
        (fun _ _ tracks proper => tracks.step proper) (fun event _ tracks proper => ?_) events _
        proper (tracks_untracked keys)
    refine (truthful_iff tracks ?_).mpr proper
    cases event with
    | schedule | extend => exact proper.1
    | unschedule | cleanupExpired | elsewhere => trivial
  · intro others
    exact
      (@everyStep_congr_of_kept _ _ _ (fun history => Tracks history.latest history.world.keys) _ _
        OfOtherKeys (fun _ _ other tracks => truthful_iff tracks other)
        (fun _ _ tracks proper => tracks.step proper) events others _ (tracks_untracked keys)).mp

/-- A key cannot be unscheduled: the tracker is a sorted set, and another command is sent. -/
theorem unschedule_rejected
    : ¬∀ (clock : Nat → Int) (keys : TypedKeys) (events : List TTLEvent),
        (∀ event ∈ events, OfOtherKeys event)
        → EveryStep (step clock) (Truthful clock) events (untracked keys) := by
  intro truthful
  have both :=
    truthful (fun _ => 0) (fun _ => none) [.schedule "session" 1000, .unschedule "session"]
      (List.forall_mem_cons.mpr
        ⟨show "session" ≠ trackerKey by decide, List.forall_mem_singleton.mpr trivial⟩)
  exact nomatch both.2.1.returns

end TTLManager

end QueueForge.Infrastructure
