import Mathlib.Data.List.AList
import QueueForge.Async.Execution
import QueueForge.Infrastructure.TypedKeys
import QueueForge.Js.JsonText

/-! `CacheStore`: values under keys of a namespace and an id, written to Redis as texts and read back
from them.
-/

namespace QueueForge.Infrastructure

open QueueForge.Async QueueForge.Js

-----------------------------------------------------------------------------------------
-- Redis
-----------------------------------------------------------------------------------------

/-- The keyspace of Redis, each key once. -/
abbrev TextKeys : Type := AList (fun _ : String => StoredText)

namespace TextKeys

variable (keys : TextKeys) (now : Int)

def contents : Keyspace :=
  fun key => keys.lookup key

/-- `set`, with the milliseconds of `PX` if there are any. -/
def set (key value : String) (px : Option Number) : Settled Thrown Unit × TextKeys :=
  match px with
  | none => (.ok (), keys.insert key ⟨value, none⟩)
  | some ttl =>
      match milliseconds? ttl with
      | some ms => (.ok (), keys.insert key ⟨value, some (now + ms)⟩)
      | none => (.error (replyError "ERR value is not an integer or out of range"), keys)

/-- `del` of some keys. -/
def del (gone : List String) : Settled Thrown Int × TextKeys :=
  (.ok ((gone.dedup.filter (fun key => (keys.contents.live? now key).isSome)).length : Nat),
    gone.foldl (fun keys key => keys.erase key) keys)

/-- `ttl` in seconds, rounded. -/
def ttl (key : String) : Int :=
  match keys.contents.live? now key with
  | none => -2
  | some ⟨_, none⟩ => -1
  | some ⟨_, some expiry⟩ => (expiry - now + 500) / 1000

/-- `pexpire`; a moment that has passed deletes the key. -/
def pexpire (key : String) (ms : Number) : Settled Thrown Int × TextKeys :=
  match deadline? now ms with
  | .error error => (.error error, keys)
  | .ok expiry =>
      match keys.contents.live? now key with
      | none => (.ok 0, keys)
      | some stored =>
          (.ok 1,
            if expiry ≤ now then keys.erase key
            else keys.insert key { stored with expiresAt := some expiry })

/-- `keys` for the way Redis has of matching a key with a pattern. -/
def matching (isMatch : String → String → Bool) (pattern : String) : List String :=
  (keys.keys.filter (fun key => (keys.contents.live? now key).isSome)).filter (isMatch pattern)

end TextKeys

namespace TextKeys

@[simp] theorem contents_insert (keys : TextKeys) (key : String) (stored : StoredText)
    : contents (keys.insert key stored) = Function.update keys.contents key (some stored) := by
  funext other
  by_cases same : other = key
  · subst same
    rw [Function.update_self]
    exact AList.lookup_insert keys
  · rw [Function.update_of_ne same]
    exact AList.lookup_insert_ne same

@[simp] theorem contents_erase (keys : TextKeys) (key : String)
    : contents (keys.erase key) = Function.update keys.contents key none := by
  funext other
  by_cases same : other = key
  · subst same
    rw [Function.update_self]
    exact AList.lookup_erase other keys
  · rw [Function.update_of_ne same]
    exact AList.lookup_erase_ne same

/-- By induction on the keys that are deleted. -/
theorem contents_del (keys : TextKeys) (now : Int) (gone : List String) (key : String)
    : (keys.del now gone).2.contents key = if key ∈ gone then none else keys.contents key := by
  unfold del
  dsimp only
  induction gone generalizing keys with
  | nil => rfl
  | cons first rest ih =>
      rw [List.foldl_cons, ih, contents_erase, Function.update_apply]
      by_cases same : key = first
      · simp [same]
      · simp [same]

theorem mem_matching {keys : TextKeys} {now : Int} {isMatch : String → String → Bool}
    {pattern key : String}
    : key ∈ keys.matching now isMatch pattern
      ↔ (keys.contents.live? now key).isSome = true ∧ isMatch pattern key = true := by
  unfold matching
  rw [List.mem_filter, List.mem_filter, and_congr_left_iff]
  intro _
  refine and_iff_right_of_imp (fun live => ?_)
  obtain ⟨stored, live⟩ := Option.isSome_iff_exists.mp live
  have held : keys.lookup key = some stored := (Option.filter_eq_some_iff.mp live).1
  exact AList.mem_keys.mp (AList.lookup_isSome.mp (Option.isSome_iff_exists.mpr ⟨stored, held⟩))

end TextKeys

/-- A command, or a call of the fetcher. -/
inductive CacheStoreCall where
  | get (key : String)
  | set (key value : String) (px : Option Number)
  | del (keys : List String)
  | existing (key : String)
  | ttl (key : String)
  | pexpire (key : String) (ms : Number)
  | keys (pattern : String)
  | fetch

abbrev CacheStoreCall.Result : CacheStoreCall → Type
  | get _ => Option String
  | set _ _ _ => Unit
  | keys _ => List String
  | fetch => Json
  | _ => Int

abbrev CacheStoreSignature : Signature where
  Op := CacheStoreCall
  Result := CacheStoreCall.Result

abbrev CacheStoreProgram (α : Type) : Type := Program CacheStoreSignature Thrown α

def awaitStore (call : CacheStoreCall) : CacheStoreProgram call.Result :=
  Program.perform (S := CacheStoreSignature) call

-----------------------------------------------------------------------------------------
-- The store
-----------------------------------------------------------------------------------------

/-- The value is `null`. -/
def isNull : Told → Bool
  | .json .null => true
  | _ => false

namespace CacheStore

/-- Helper to construct keys consistently: `KeyBuilder.cacheKey`. -/
def buildKey (namespace_ id : String) : String :=
  s!"queueforge:cache:{namespace_}:{id}"

/-- `RedisOperations.execute`. -/
def execute {α : Type} (operation : CacheStoreProgram α) : CacheStoreProgram α :=
  operation.catchError (fun err => .fail (redisError (err.message.getD "undefined")))

/-- What a text in the cache stands for. -/
def revive (text : String) : Told :=
  (parseJson text).getD (.json (.string text))

/-- The text a value is cached as. -/
def serialized (numberText : Number → String) : Json → String
  | .string text => text
  | value => value.stringify numberText

variable (numberText : Number → String) (namespace_ id : String)

/-- Retrieves a cached value, automatically parsing JSON configurations. -/
def get : CacheStoreProgram Told := do
  let value : Option String ← execute (awaitStore (.get (buildKey namespace_ id)))
  match value with
  | none => return .json .null
  | some text => return revive text

/-- Caches a value with automatic JSON serialization and TTL enforcement. -/
def set (value : Json) (ttlMs : Number) : CacheStoreProgram Unit :=
  execute
    (awaitStore
      (.set (buildKey namespace_ id) (serialized numberText value)
        (if Number.lt 0 ttlMs then some ttlMs else none)))

/-- Removes a cached entry. -/
def delete : CacheStoreProgram Unit := do
  let _ : Int ← execute (awaitStore (.del [buildKey namespace_ id]))

/-- `exists`. -/
def isCached : CacheStoreProgram Bool := do
  let count : Int ← execute (awaitStore (.existing (buildKey namespace_ id)))
  return decide (0 < count)

/-- Gets remaining time to live in milliseconds. -/
def getTTL : CacheStoreProgram (Option Int) := do
  let seconds : Int ← execute (awaitStore (.ttl (buildKey namespace_ id)))
  return if seconds < 0 then none else some (seconds * 1000)

/-- Sets or overrides an entry's TTL. -/
def setTTL (ttlMs : Number) : CacheStoreProgram Unit := do
  let _ : Int ← execute (awaitStore (.pexpire (buildKey namespace_ id) ttlMs))

/-- Resolves a value from cache, or fetches it dynamically using the fetcher and caches it. -/
def getOrFetch (ttlMs : Number) : CacheStoreProgram Told := do
  let cached ← get namespace_ id
  if !isNull cached then
    return cached
  let fresh : Json ← awaitStore .fetch
  set numberText namespace_ id fresh ttlMs
  return .json fresh

/-- Invalidates multiple cache keys matching a specific pattern. -/
def invalidatePattern (pattern : String) : CacheStoreProgram Int :=
  execute do
    let keys : List String ← awaitStore (.keys pattern)
    if 0 < keys.length then
      awaitStore (.del keys)
    else
      return 0

end CacheStore

-----------------------------------------------------------------------------------------
-- The server
-----------------------------------------------------------------------------------------

/-- The keyspace, the time and the number of the next call. -/
structure CacheStoreWorld where
  keys : TextKeys
  now : Int
  step : Nat

def CacheStoreWorld.tick (elapsed : Nat → Nat) (world : CacheStoreWorld) : CacheStoreWorld :=
  { world with now := world.now + elapsed world.step, step := world.step + 1 }

theorem CacheStoreWorld.le_tick (elapsed : Nat → Nat) (world : CacheStoreWorld)
    : world.now ≤ (world.tick elapsed).now :=
  le_add_of_nonneg_right (Int.natCast_nonneg _)

/-- What a call is answered, apart from faults. -/
def CacheStoreCall.answer (isMatch : String → String → Bool) (now : Int)
    (fetched : Settled Thrown Json)
    : (call : CacheStoreCall) → TextKeys → Settled Thrown call.Result × TextKeys
  | .get key, redis => (.ok (RedisOperations.get redis.contents now key), redis)
  | .set key value px, redis => redis.set now key value px
  | .del gone, redis => redis.del now gone
  | .existing key, redis =>
      (.ok (if RedisOperations.keyExists redis.contents now key then 1 else 0), redis)
  | .ttl key, redis => (.ok (redis.ttl now key), redis)
  | .pexpire key ms, redis => redis.pexpire now key ms
  | .keys pattern, redis => (.ok (redis.matching now isMatch pattern), redis)
  | .fetch, redis => (fetched, redis)

def CacheStoreCall.isCommand : CacheStoreCall → Bool
  | .fetch => false
  | _ => true

def connectionClosed : Thrown :=
  newError "Connection is closed."

/-- A call takes its time. A command may be lost, and then it may have been carried out or not. -/
def cacheServer (isMatch : String → String → Bool) (elapsed : Nat → Nat)
    (faults : Nat → Option Bool) (fetched : Settled Thrown Json)
    : Handler CacheStoreSignature Thrown CacheStoreWorld :=
  fun call world =>
    let answered := CacheStoreCall.answer isMatch world.now fetched call world.keys
    match (faults world.step).filter (fun _ => call.isCommand) with
    | none => (answered.1, { world.tick elapsed with keys := answered.2 })
    | some carriedOut =>
        (.error connectionClosed,
          { world.tick elapsed with keys := if carriedOut then answered.2 else world.keys })

-----------------------------------------------------------------------------------------
-- What is told of a pair
-----------------------------------------------------------------------------------------

namespace CacheStore

/-- What a lookup tells at a time. -/
def told (keys : Keyspace) (now : Int) (namespace_ id : String) : Told :=
  match RedisOperations.get keys now (buildKey namespace_ id) with
  | none => .json .null
  | some text => revive text

/-- A value that its text in the cache stands for. -/
def Survives (numberText : Number → String) (value : Json) : Prop :=
  revive (serialized numberText value) = .json value

/-- Which moment a lifetime leads to, or whether to none at all; `none` stands for a lifetime that
is not taken.
-/
def expiry? (now : Int) (ttlMs : Number) : Option (Option Int) :=
  if Number.lt 0 ttlMs then
    (milliseconds? ttlMs).map (fun ms => some (now + ms))
  else
    some none

/-- The keyspace after a value was set, if its lifetime was taken. -/
def wrote (numberText : Number → String) (namespace_ id : String) (keys : TextKeys) (now : Int)
    (value : Json) (ttlMs : Number)
    : TextKeys :=
  match expiry? now ttlMs with
  | some expiresAt =>
      keys.insert (buildKey namespace_ id) ⟨serialized numberText value, expiresAt⟩
  | none => keys

/-- A string is kept if it is no JSON text; any other value is if it is written in a way that can be
read.
-/
theorem survives_iff {numberText : Number → String} {value : Json}
    (readable : value.Readable numberText)
    : Survives numberText value ↔ ∀ text, value = .string text → parseJson text = none := by
  have other (notString : ∀ text, value ≠ .string text) (same : serialized numberText value
      = value.stringify numberText) : Survives numberText value := by
    rw [Survives, same, revive, parseJson_stringify readable]
    rfl
  cases value with
  | string text =>
      rw [Survives, serialized, revive]
      constructor
      · rintro kept _ ⟨⟩
        cases read : parseJson text with
        | none => rfl
        | some told =>
            rw [read, Option.getD_some] at kept
            rw [kept] at read
            exact absurd read (parseJson_ne_self text)
      · intro isText
        rw [isText text rfl]
        rfl
  | null | bool | number | array | object =>
      refine iff_of_true (other (by simp) rfl) ?_
      intro text same
      contradiction

theorem buildKey_eq (namespace_ id : String)
    : buildKey namespace_ id = "queueforge:cache:" ++ (namespace_ ++ (":" ++ id)) := by
  unfold buildKey
  simp only [String.append_assoc]
  rfl

/-- Namespaces without a colon keep the pairs apart. -/
theorem buildKey_inj {namespace_ other id otherId : String} (plain : ':' ∉ namespace_.toList)
    (otherPlain : ':' ∉ other.toList) (same : buildKey namespace_ id = buildKey other otherId)
    : namespace_ = other ∧ id = otherId := by
  rw [buildKey_eq, buildKey_eq] at same
  have rests := (String.append_right_inj "queueforge:cache:").mp same
  exact (joined_inj plain otherPlain).mp rests

end CacheStore

-----------------------------------------------------------------------------------------
-- Calls one after the other
-----------------------------------------------------------------------------------------

section Sequential

variable {isMatch : String → String → Bool} {elapsed : Nat → Nat} {fetched : Settled Thrown Json}
  {world : CacheStoreWorld}

/-- The server as long as no command is lost. -/
abbrev steadyServer (isMatch : String → String → Bool) (elapsed : Nat → Nat)
    (fetched : Settled Thrown Json)
    : Handler CacheStoreSignature Thrown CacheStoreWorld :=
  cacheServer isMatch elapsed (fun _ => none) fetched

@[simp] theorem run_awaitStore {call : CacheStoreCall}
    : Program.run (α := no_index call.Result) (steadyServer isMatch elapsed fetched)
        (awaitStore call) world
      = ((call.answer isMatch world.now fetched world.keys).1,
          {
            world.tick elapsed with
            keys := (call.answer isMatch world.now fetched world.keys).2
          }) := by
  rw [awaitStore, Program.run_perform]
  rfl

theorem run_fetch
    : Program.run (α := no_index Json) (steadyServer isMatch elapsed fetched) (awaitStore .fetch)
        world
      = (fetched, world.tick elapsed) :=
  run_awaitStore

theorem run_followed {α β : Type} {program : CacheStoreProgram α} {give : α → β}
    : ((program.bind (fun value => .done (give value))).run (steadyServer isMatch elapsed fetched)
          world).2
      = (program.run (steadyServer isMatch elapsed fetched) world).2 := by
  rw [Program.run_bind]
  rcases program.run (steadyServer isMatch elapsed fetched) world with ⟨_ | _, after⟩ <;> rfl

namespace CacheStore

variable {numberText : Number → String} {namespace_ id : String}

theorem run_get
    : (get namespace_ id).run (steadyServer isMatch elapsed fetched) world
      = (.ok (told world.keys.contents world.now namespace_ id), world.tick elapsed) := by
  unfold get execute told
  simp only [Program.bind_eq, Program.run_bind, Program.run_catchError, run_awaitStore,
    CacheStoreCall.answer]
  cases RedisOperations.get world.keys.contents world.now (buildKey namespace_ id) <;> rfl

/-- What `set` leaves behind. -/
theorem set_eq_wrote (keys : TextKeys) (now : Int) (value : Json) (ttlMs : Number)
    : (keys.set now (buildKey namespace_ id) (serialized numberText value)
        (if Number.lt 0 ttlMs then some ttlMs else none)).2
      = wrote numberText namespace_ id keys now value ttlMs := by
  unfold TextKeys.set wrote expiry?
  by_cases positive : Number.lt 0 ttlMs = true
  · simp only [positive, if_true]
    cases milliseconds? ttlMs <;> rfl
  · simp only [positive, if_false, Bool.false_eq_true]

/-- A value is written if its lifetime is taken. -/
theorem run_set (value : Json) (ttlMs : Number)
    : ((set numberText namespace_ id value ttlMs).run (steadyServer isMatch elapsed fetched)
        world).2
      = {
          world.tick elapsed with
          keys := wrote numberText namespace_ id world.keys world.now value ttlMs
        } := by
  unfold set execute
  simp only [Program.run_catchError, run_awaitStore, CacheStoreCall.answer]
  rw [← set_eq_wrote]
  rcases world.keys.set world.now (buildKey namespace_ id) (serialized numberText value)
    (if Number.lt 0 ttlMs then some ttlMs else none) with ⟨_ | _, keys⟩ <;> rfl

theorem run_delete
    : ((delete namespace_ id).run (steadyServer isMatch elapsed fetched) world).2
      = {
          world.tick elapsed with
          keys := (world.keys.del world.now [buildKey namespace_ id]).2
        } := by
  unfold delete execute
  simp only [Program.bind_eq, Program.run_bind, Program.run_catchError, run_awaitStore,
    CacheStoreCall.answer]
  rfl

theorem run_isCached
    : (isCached namespace_ id).run (steadyServer isMatch elapsed fetched) world
      = (.ok (RedisOperations.keyExists world.keys.contents world.now (buildKey namespace_ id)),
          world.tick elapsed) := by
  unfold isCached execute
  simp only [Program.bind_eq, Program.run_bind, Program.run_catchError, run_awaitStore,
    CacheStoreCall.answer]
  cases RedisOperations.keyExists world.keys.contents world.now (buildKey namespace_ id) <;> rfl

theorem run_getTTL
    : (getTTL namespace_ id).run (steadyServer isMatch elapsed fetched) world
      = (.ok (if world.keys.ttl world.now (buildKey namespace_ id) < 0 then none
            else some (world.keys.ttl world.now (buildKey namespace_ id) * 1000)),
          world.tick elapsed) := by
  unfold getTTL execute
  simp only [Program.bind_eq, Program.run_bind, Program.run_catchError, run_awaitStore,
    CacheStoreCall.answer]
  rfl

theorem run_setTTL (ttlMs : Number)
    : ((setTTL namespace_ id ttlMs).run (steadyServer isMatch elapsed fetched) world).2
      = {
          world.tick elapsed with
          keys := (world.keys.pexpire world.now (buildKey namespace_ id) ttlMs).2
        } := by
  unfold setTTL execute
  simp only [Program.bind_eq, Program.run_bind, Program.run_catchError, run_awaitStore,
    CacheStoreCall.answer]
  cases (world.keys.pexpire world.now (buildKey namespace_ id) ttlMs).1 <;> rfl

theorem run_invalidatePattern (pattern : String)
    : ((invalidatePattern pattern).run (steadyServer isMatch elapsed fetched) world).2
      = if 0 < (world.keys.matching world.now isMatch pattern).length then
          {
            (world.tick elapsed).tick elapsed with
            keys :=
              (world.keys.del (world.tick elapsed).now
                (world.keys.matching world.now isMatch pattern)).2
          }
        else world.tick elapsed := by
  unfold invalidatePattern execute
  simp only [Program.bind_eq, Program.run_bind, Program.run_catchError, run_awaitStore,
    CacheStoreCall.answer]
  by_cases some : 0 < (world.keys.matching world.now isMatch pattern).length
  · simp only [if_pos some, run_awaitStore]
    rfl
  · simp only [if_neg some]
    rfl

/-- What is found is not fetched. -/
theorem run_getOrFetch_found {ttlMs : Number}
    (found : isNull (told world.keys.contents world.now namespace_ id) = false)
    : (getOrFetch numberText namespace_ id ttlMs).run (steadyServer isMatch elapsed fetched) world
      = (.ok (told world.keys.contents world.now namespace_ id), world.tick elapsed) := by
  unfold getOrFetch
  simp only [Program.bind_eq, Program.run_bind, run_get, found]
  rfl

theorem run_getOrFetch_failed {ttlMs : Number} {error : Thrown}
    (missing : isNull (told world.keys.contents world.now namespace_ id) = true)
    : (getOrFetch numberText namespace_ id ttlMs).run (steadyServer isMatch elapsed (.error error))
        world
      = (.error error, (world.tick elapsed).tick elapsed) := by
  unfold getOrFetch
  simp only [Program.bind_eq, Program.run_bind, run_get, missing]
  rfl

theorem run_getOrFetch_fetched {ttlMs : Number} {value : Json}
    (missing : isNull (told world.keys.contents world.now namespace_ id) = true)
    : ((getOrFetch numberText namespace_ id ttlMs).run (steadyServer isMatch elapsed (.ok value))
        world).2
      = {
          ((world.tick elapsed).tick elapsed).tick elapsed with
          keys :=
            wrote numberText namespace_ id world.keys ((world.tick elapsed).tick elapsed).now value
              ttlMs
        } := by
  unfold getOrFetch
  simp only [Program.bind_eq, Program.run_bind, run_get, missing, Bool.not_true, Bool.false_eq_true,
    if_false, run_fetch]
  have written
      : ((set numberText namespace_ id value ttlMs).run (steadyServer isMatch elapsed (.ok value))
          ((world.tick elapsed).tick elapsed)).2 = _ :=
    run_set value ttlMs
  refine Eq.trans ?_ written
  rcases (set numberText namespace_ id value ttlMs).run (steadyServer isMatch elapsed (.ok value))
    ((world.tick elapsed).tick elapsed) with ⟨_ | _, after⟩ <;> rfl

/-- What is told of a pair right after a value has been written for it. -/
theorem told_insert (keys : TextKeys) (later : Int) (text : String) (expiresAt : Option Int)
    : told (TextKeys.contents (keys.insert (buildKey namespace_ id) ⟨text, expiresAt⟩)) later
          namespace_ id
      = if expiresAt.all (fun expiry => decide (later < expiry)) then revive text
        else .json .null := by
  unfold told RedisOperations.get Keyspace.live? TextKeys.contents
  rw [AList.lookup_insert, Option.filter_some]
  unfold StoredText.liveAt
  dsimp only
  cases expiresAt.all (fun expiry => decide (later < expiry)) <;> rfl

end CacheStore

end Sequential

namespace CacheStore

/-- A value that was cached for some milliseconds is looked up as itself for so long, unless it is
a string that is a JSON text; `null` is what a lookup that finds nothing resolves with.
-/
theorem get_set_iff {numberText : Number → String} {value : Json}
    (readable : value.Readable numberText) {lifetime : Rat} (positive : 0 < lifetime)
    (whole : lifetime.den = 1) (isMatch : String → String → Bool) (elapsed : Nat → Nat)
    (fetched : Settled Thrown Json) (world : CacheStoreWorld) (namespace_ id : String) (later : Int)
    : ((get namespace_ id).run (steadyServer isMatch elapsed fetched)
          {
            ((set numberText namespace_ id value (.finite lifetime)).run
              (steadyServer isMatch elapsed fetched) world).2 with
            now := later
          }).1
        = .ok (.json value)
      ↔ value = .null
        ∨ later < world.now + lifetime.num
          ∧ ∀ text, value = .string text → parseJson text = none := by
  have taken : expiry? world.now (.finite lifetime) = some (some (world.now + lifetime.num)) := by
    have zero : (0 : Number) = .finite 0 := congrArg Number.finite Nat.cast_zero
    have lt : Number.lt 0 (.finite lifetime) = true := by
      rw [zero]
      simpa using positive
    rw [expiry?, if_pos lt, milliseconds?, if_pos ⟨whole, Rat.num_pos.mpr positive⟩]
    rfl
  rw [run_set, run_get, wrote, taken]
  dsimp only
  rw [told_insert, Except.ok.injEq, Option.all_some, ← survives_iff readable, Survives]
  by_cases live : later < world.now + lifetime.num
  · simp only [live, decide_true, if_true, true_and]
    constructor
    · exact Or.inr
    · rintro (rfl | kept)
      · exact (survives_iff readable).mpr (by simp)
      · exact kept
  · simp only [live, decide_false, Bool.false_eq_true, if_false, false_and, or_false,
      Told.json.injEq]
    exact eq_comm

/-- The features of a plan. -/
def cachedPlan : Json :=
  .object [("plan", .string "pro"), ("features", .array [.bool true, .null])]

theorem get_set_iff_plan
    : ((get "users" "7").run (steadyServer (fun _ _ => false) (fun _ => 1) (.ok .null))
          {
            ((set (fun _ => "0") "users" "7" cachedPlan (.finite 60000)).run
              (steadyServer (fun _ _ => false) (fun _ => 1) (.ok .null)) ⟨∅, 0, 0⟩).2 with
            now := 59999
          }).1
        = .ok (.json cachedPlan) := by
  have readable : cachedPlan.Readable (fun _ => "0") := by
    refine ⟨?_, by simp [Json.ReadableMembers, Json.Readable, Json.ReadableElements]⟩
    exact List.pairwise_pair.mpr rfl
  exact (get_set_iff readable (by norm_num) rfl (fun _ _ => false) (fun _ => 1) (.ok .null)
    ⟨∅, 0, 0⟩ "users" "7" 59999).mpr (.inr ⟨by decide, by simp [cachedPlan]⟩)

/-- A string that spells a truth value is looked up as that truth value. -/
example : revive (serialized (fun _ => "0") (.string "true")) = .json (.bool true) := by rfl

end CacheStore

end QueueForge.Infrastructure
