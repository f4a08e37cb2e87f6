import Mathlib
import QueueForge.Async.Interleaving
import QueueForge.Async.Throughout
import QueueForge.Infrastructure.CacheStore
import QueueForge.Infrastructure.ExpiringMap

/-! The map with expiry that `CacheStore` stands for, and what lookups are told when calls of the
store interleave.
-/

namespace QueueForge.Infrastructure

open QueueForge.Async QueueForge.Js

-----------------------------------------------------------------------------------------
-- The map the cache stands for
-----------------------------------------------------------------------------------------

/-- A namespace that tells where it ends within a key. -/
structure Namespace where
  name : String
  plain : ':' ∉ name.toList

/-- What values are cached for. -/
abbrev CachePair : Type := Namespace × String

def CachePair.key (pair : CachePair) : String :=
  CacheStore.buildKey pair.1.name pair.2

theorem CachePair.key_inj {pair other : CachePair} (same : pair.key = other.key) : pair = other := by
  obtain ⟨⟨name, plain⟩, id⟩ := pair
  obtain ⟨⟨otherName, otherPlain⟩, otherId⟩ := other
  obtain ⟨rfl, rfl⟩ := CacheStore.buildKey_inj plain otherPlain same
  rfl

instance Namespace.decidableEq : DecidableEq Namespace := fun space other =>
  decidable_of_iff (space.name = other.name) (by cases space; cases other; simp)

/-- The values that are cached, with the moment from which each is gone. -/
abbrev CacheMap : Type := ExpiringMap CachePair Json (WithTop Int)

/-- A moment; what does not expire has none. -/
def moment : Option Int → WithTop Int
  | none => ⊤
  | some time => time

/-- A call of the store, with what its fetcher settles with. -/
inductive StoreCall where
  | get (pair : CachePair)
  | set (pair : CachePair) (value : Json) (ttlMs : Number)
  | delete (pair : CachePair)
  | isCached (pair : CachePair)
  | getTTL (pair : CachePair)
  | setTTL (pair : CachePair) (ttlMs : Number)
  | getOrFetch (pair : CachePair) (fetched : Settled Thrown Json) (ttlMs : Number)
  | invalidatePattern (pattern : String)

namespace StoreCall

/-- What the call awaits; a lookup resolves with what it is told. -/
def program (numberText : Number → String) : StoreCall → CacheStoreProgram (Option Told)
  | get pair => (CacheStore.get pair.1.name pair.2).bind (fun told => .done (some told))
  | set pair value ttlMs =>
      (CacheStore.set numberText pair.1.name pair.2 value ttlMs).bind (fun _ => .done none)
  | delete pair => (CacheStore.delete pair.1.name pair.2).bind (fun _ => .done none)
  | isCached pair => (CacheStore.isCached pair.1.name pair.2).bind (fun _ => .done none)
  | getTTL pair => (CacheStore.getTTL pair.1.name pair.2).bind (fun _ => .done none)
  | setTTL pair ttlMs =>
      (CacheStore.setTTL pair.1.name pair.2 ttlMs).bind (fun _ => .done none)
  | getOrFetch pair _ ttlMs =>
      (CacheStore.getOrFetch numberText pair.1.name pair.2 ttlMs).bind
        (fun told => .done (some told))
  | invalidatePattern pattern => (CacheStore.invalidatePattern pattern).bind (fun _ => .done none)

def fetched : StoreCall → Settled Thrown Json
  | getOrFetch _ fetched _ => fetched
  | _ => .ok .null

/-- The value that the call may write, and the pair it is for. -/
def writes : StoreCall → Option (CachePair × Json)
  | set pair value _ => some (pair, value)
  | getOrFetch pair (.ok value) _ => some (pair, value)
  | _ => none

theorem writes_getOrFetch {pair : CachePair} {fetched : Settled Thrown Json} {ttlMs : Number}
    {value : Json} (resolved : fetched = .ok value)
    : (getOrFetch pair fetched ttlMs).writes = some (pair, value) := by
  rw [resolved]
  rfl

end StoreCall

namespace CacheMap

def set (map : CacheMap) (now : Int) (pair : CachePair) (value : Json) (ttlMs : Number) : CacheMap :=
  match CacheStore.expiry? now ttlMs with
  | some expiresAt => map.insert pair value (moment expiresAt)
  | none => map

def setTTL (map : CacheMap) (now : Int) (pair : CachePair) (ttlMs : Number) : CacheMap :=
  match deadline? now ttlMs, map.live? now pair with
  | .ok expiry, some entry =>
      if expiry ≤ now then map.erase pair else map.insert pair entry.1 expiry
  | _, _ => map

/-- `null` is fetched anew each time. -/
def getOrFetch (map : CacheMap) (now later : Int) (pair : CachePair)
    (fetched : Settled Thrown Json) (ttlMs : Number)
    : CacheMap :=
  match isNull (.json ((map.find? now pair).getD .null)), fetched with
  | true, .ok value => map.set later pair value ttlMs
  | _, _ => map

end CacheMap

/-- What the server holds, and the map. -/
structure CachedPairs where
  world : CacheStoreWorld
  map : CacheMap

/-- A call, and the milliseconds since the call before. -/
structure TimedStoreCall where
  waited : Nat
  call : StoreCall

namespace CachedPairs

variable (numberText : Number → String) (isMatch : String → String → Bool) (elapsed : Nat → Nat)

/-- The call takes place in both. -/
def step (next : TimedStoreCall) (cached : CachedPairs) : CachedPairs :=
  let world := { cached.world with now := cached.world.now + next.waited }
  {
    world :=
      ((next.call.program numberText).run (steadyServer isMatch elapsed next.call.fetched) world).2
    map :=
      match next.call with
      | .set pair value ttlMs => cached.map.set world.now pair value ttlMs
      | .delete pair => cached.map.erase pair
      | .setTTL pair ttlMs => cached.map.setTTL world.now pair ttlMs
      | .getOrFetch pair fetched ttlMs =>
          cached.map.getOrFetch world.now
            (world.now + elapsed world.step + elapsed (world.step + 1)) pair fetched ttlMs
      | .invalidatePattern pattern =>
          fun pair => if isMatch pattern pair.key then none else cached.map pair
      | _ => cached.map
  }

/-- The milliseconds that are left of a lifetime, in whole seconds; none if it does not end. -/
def remaining (now : Int) : WithTop Int → Option Int
  | ⊤ => none
  | (expiry : Int) => some ((expiry - now + 500) / 1000 * 1000)

/-- Now and later `get`, `exists` and `getTTL` resolve for any pair with what the map tells. -/
def AnswersAlike (cached : CachedPairs) : Prop :=
  ∀ later,
    cached.world.now ≤ later
    → ∀ (pair : CachePair) (fetched : Settled Thrown Json),
        let server := steadyServer isMatch elapsed fetched
        let world := { cached.world with now := later }
        ((CacheStore.get pair.1.name pair.2).run server world).1
          = .ok (.json ((cached.map.find? later pair).getD .null))
        ∧ ((CacheStore.isCached pair.1.name pair.2).run server world).1
          = .ok (cached.map.find? later pair).isSome
        ∧ ((CacheStore.getTTL pair.1.name pair.2).run server world).1
          = .ok ((cached.map.live? later pair).bind (fun entry => remaining later entry.2))

end CachedPairs

-----------------------------------------------------------------------------------------
-- The keyspace against the map
-----------------------------------------------------------------------------------------

theorem liveAt_iff {stored : StoredText} {now : Int}
    : stored.liveAt now = true ↔ (now : WithTop Int) < moment stored.expiresAt := by
  unfold StoredText.liveAt moment
  cases stored.expiresAt with
  | none => simp
  | some expiry => simp

/-- Of a pair the keyspace and the map hold the same from a time on. -/
def Corresponds (numberText : Number → String) (now : Int) (keys : Keyspace) (map : CacheMap)
    (pair : CachePair)
    : Prop :=
  ∀ later : Int,
    now ≤ later
    → (keys.live? later pair.key).map (fun stored => (stored.value, moment stored.expiresAt))
      = (map.live? later pair).map
        (fun entry => (CacheStore.serialized numberText entry.1, entry.2))

section Correspondence

variable {numberText : Number → String} {now later : Int} {keys others : Keyspace}
  {map next : CacheMap} {pair : CachePair}

theorem Corresponds.mono (corresponds : Corresponds numberText now keys map pair)
    (ordered : now ≤ later)
    : Corresponds numberText later keys map pair :=
  fun time after => corresponds time (ordered.trans after)

/-- Only what is held of the pair matters. -/
theorem Corresponds.congr (corresponds : Corresponds numberText now keys map pair)
    (sameKey : others pair.key = keys pair.key) (sameEntry : next pair = map pair)
    : Corresponds numberText now others next pair := by
  intro time after
  unfold Keyspace.live? ExpiringMap.live?
  rw [sameKey, sameEntry]
  exact corresponds time after

theorem corresponds_of_none (noKey : keys pair.key = none) (noEntry : map pair = none)
    : Corresponds numberText now keys map pair := by
  intro time _
  unfold Keyspace.live? ExpiringMap.live?
  rw [noKey, noEntry]
  rfl

theorem corresponds_of_some {value : Json} {expiresAt : Option Int}
    (key : keys pair.key = some ⟨CacheStore.serialized numberText value, expiresAt⟩)
    (entry : map pair = some (value, moment expiresAt))
    : Corresponds numberText now keys map pair := by
  intro time _
  unfold Keyspace.live? ExpiringMap.live?
  rw [key, entry, Option.filter_some, Option.filter_some]
  by_cases live : (time : WithTop Int) < moment expiresAt
  · rw [if_pos (liveAt_iff.mpr live), if_pos (decide_eq_true live)]
    rfl
  · rw [if_neg (fun isLive => live (liveAt_iff.mp isLive)), if_neg (by simpa using live)]
    rfl

/-- A write of one pair leaves the others as they are. -/
theorem Corresponds.update
    (corresponds : ∀ pair, Corresponds numberText now keys map pair) {written : CachePair}
    {stored : Option StoredText} {entry : Option (Json × WithTop Int)}
    (here
      : Corresponds numberText now (Function.update keys written.key stored)
          (Function.update map written entry) written)
    (pair : CachePair)
    : Corresponds numberText now (Function.update keys written.key stored)
        (Function.update map written entry) pair := by
  by_cases same : pair = written
  · subst same
    exact here
  · refine (corresponds pair).congr ?_ (Function.update_of_ne same ..)
    exact Function.update_of_ne (fun sameKey => same (CachePair.key_inj sameKey)) ..

end Correspondence

namespace CachedPairs

/-- The keyspace and the map correspond, and what the map holds is told by its text. -/
structure Consistent (numberText : Number → String) (cached : CachedPairs) : Prop where
  corresponds
    : ∀ pair, Corresponds numberText cached.world.now cached.world.keys.contents cached.map pair
  survives : ∀ pair entry, cached.map pair = some entry → CacheStore.Survives numberText entry.1

section

variable {numberText : Number → String} {isMatch : String → String → Bool} {elapsed : Nat → Nat}
  {cached : CachedPairs}

theorem Consistent.told (consistent : cached.Consistent numberText) {later : Int}
    (ordered : cached.world.now ≤ later) (pair : CachePair)
    : CacheStore.told cached.world.keys.contents later pair.1.name pair.2
      = .json ((cached.map.find? later pair).getD .null) := by
  have same := consistent.corresponds pair later ordered
  have found : cached.map.find? later pair = (cached.map.live? later pair).map Prod.fst := rfl
  unfold CacheStore.told RedisOperations.get
  rw [show CacheStore.buildKey pair.1.name pair.2 = pair.key from rfl, found]
  cases live : cached.map.live? later pair with
  | none =>
      rw [live, Option.map_none, Option.map_eq_none_iff] at same
      rw [same]
      rfl
  | some entry =>
      rw [live, Option.map_some, Option.map_eq_some_iff] at same
      obtain ⟨stored, held, told⟩ := same
      obtain ⟨text, _⟩ := Prod.mk.inj told
      rw [held, Option.map_some, Option.map_some, Option.getD_some, text]
      exact consistent.survives pair entry (Option.filter_eq_some_iff.mp live).1

theorem Consistent.keyExists (consistent : cached.Consistent numberText) {later : Int}
    (ordered : cached.world.now ≤ later) (pair : CachePair)
    : RedisOperations.keyExists cached.world.keys.contents later pair.key
      = (cached.map.find? later pair).isSome := by
  have same := congrArg Option.isSome (consistent.corresponds pair later ordered)
  rw [Option.isSome_map, Option.isSome_map] at same
  exact same.trans Option.isSome_map.symm

theorem Consistent.ttl (consistent : cached.Consistent numberText) {later : Int}
    (ordered : cached.world.now ≤ later) (pair : CachePair)
    : (if cached.world.keys.ttl later pair.key < 0 then none
        else some (cached.world.keys.ttl later pair.key * 1000))
      = (cached.map.live? later pair).bind (fun entry => remaining later entry.2) := by
  have same := consistent.corresponds pair later ordered
  unfold TextKeys.ttl
  cases live : cached.map.live? later pair with
  | none =>
      rw [live, Option.map_none, Option.map_eq_none_iff] at same
      rw [same]
      rfl
  | some entry =>
      rw [live, Option.map_some, Option.map_eq_some_iff] at same
      obtain ⟨stored, held, told⟩ := same
      obtain ⟨_, expires⟩ := Prod.mk.inj told
      have ahead := (Option.filter_eq_some_iff.mp held).2
      rw [held]
      obtain ⟨value, expiry⟩ := entry
      obtain ⟨text, expiresAt⟩ := stored
      cases expiresAt with
      | none =>
          cases expires
          rfl
      | some expiresAt =>
          cases expires
          rw [liveAt_iff] at ahead
          have ahead : later < expiresAt := WithTop.coe_lt_coe.mp ahead
          dsimp only
          rw [if_neg (by omega)]
          rfl

/-- Time passes. -/
theorem Consistent.later (consistent : cached.Consistent numberText) (world : CacheStoreWorld)
    (same : world.keys = cached.world.keys) (ordered : cached.world.now ≤ world.now)
    : Consistent numberText ⟨world, cached.map⟩ where
  corresponds pair := by
    rw [same]
    exact (consistent.corresponds pair).mono ordered
  survives := consistent.survives

/-- One pair is written in both alike. -/
theorem Consistent.update (consistent : cached.Consistent numberText) {pair : CachePair}
    {stored : Option StoredText} {entry : Option (Json × WithTop Int)} {world : CacheStoreWorld}
    (ordered : cached.world.now ≤ world.now)
    (written
      : world.keys.contents = Function.update cached.world.keys.contents pair.key stored)
    (here
      : Corresponds numberText world.now
          (Function.update cached.world.keys.contents pair.key stored)
          (Function.update cached.map pair entry) pair)
    (survives : ∀ held, entry = some held → CacheStore.Survives numberText held.1)
    : Consistent numberText ⟨world, Function.update cached.map pair entry⟩ where
  corresponds other := by
    dsimp only
    rw [written]
    exact Corresponds.update (fun other => (consistent.corresponds other).mono ordered) here other
  survives other held found := by
    dsimp only at found
    by_cases same : other = pair
    · subst same
      rw [Function.update_self] at found
      exact survives held found
    · rw [Function.update_of_ne same] at found
      exact consistent.survives other held found

theorem Consistent.insert (consistent : cached.Consistent numberText) {pair : CachePair}
    {value : Json} (survives : CacheStore.Survives numberText value) {expiresAt : Option Int}
    {world : CacheStoreWorld} (ordered : cached.world.now ≤ world.now)
    (written
      : world.keys
        = cached.world.keys.insert pair.key ⟨CacheStore.serialized numberText value, expiresAt⟩)
    : Consistent numberText ⟨world, cached.map.insert pair value (moment expiresAt)⟩ := by
  refine consistent.update ordered (by rw [written, TextKeys.contents_insert]) ?_ ?_
  · exact corresponds_of_some (Function.update_self ..) (Function.update_self ..)
  · rintro held ⟨⟩
    exact survives

theorem Consistent.erase (consistent : cached.Consistent numberText) {pair : CachePair}
    {world : CacheStoreWorld} (ordered : cached.world.now ≤ world.now)
    (dropped : world.keys.contents = Function.update cached.world.keys.contents pair.key none)
    : Consistent numberText ⟨world, cached.map.erase pair⟩ := by
  refine consistent.update ordered dropped ?_ (fun held none => by contradiction)
  exact corresponds_of_none (Function.update_self ..) (Function.update_self ..)

/-- A value is set, if its lifetime is taken. -/
theorem Consistent.set (consistent : cached.Consistent numberText) {pair : CachePair} {value : Json}
    (survives : CacheStore.Survives numberText value) {ttlMs : Number} {time : Int}
    {world : CacheStoreWorld} (ordered : cached.world.now ≤ world.now)
    (written
      : world.keys
        = CacheStore.wrote numberText pair.1.name pair.2 cached.world.keys time value ttlMs)
    : Consistent numberText ⟨world, cached.map.set time pair value ttlMs⟩ := by
  unfold CacheMap.set
  unfold CacheStore.wrote at written
  cases taken : CacheStore.expiry? time ttlMs with
  | none =>
      rw [taken] at written
      exact consistent.later world written ordered
  | some expiresAt =>
      rw [taken] at written
      exact consistent.insert survives ordered written

/-- A lifetime is given to what is there. -/
theorem Consistent.setTTL (consistent : cached.Consistent numberText) (pair : CachePair)
    (ttlMs : Number) {time : Int} {world : CacheStoreWorld} (from_ : cached.world.now ≤ time)
    (ordered : cached.world.now ≤ world.now)
    (written : world.keys = (cached.world.keys.pexpire time pair.key ttlMs).2)
    : Consistent numberText ⟨world, cached.map.setTTL time pair ttlMs⟩ := by
  have same := consistent.corresponds pair time from_
  unfold CacheMap.setTTL
  unfold TextKeys.pexpire at written
  cases led : deadline? time ttlMs with
  | error error =>
      rw [led] at written
      exact consistent.later world written ordered
  | ok expiry =>
      rw [led] at written
      cases live : cached.map.live? time pair with
      | none =>
          rw [live, Option.map_none, Option.map_eq_none_iff] at same
          rw [same] at written
          exact consistent.later world written ordered
      | some entry =>
          rw [live, Option.map_some, Option.map_eq_some_iff] at same
          obtain ⟨stored, held, told⟩ := same
          obtain ⟨text, _⟩ := Prod.mk.inj told
          have survives := consistent.survives pair entry (Option.filter_eq_some_iff.mp live).1
          rw [held] at written
          dsimp only at written ⊢
          by_cases past : expiry ≤ time
          · rw [if_pos past] at written ⊢
            exact consistent.erase ordered (by rw [written, TextKeys.contents_erase])
          · rw [if_neg past] at written ⊢
            rw [text] at written
            exact consistent.insert survives ordered written

/-- What matches a pattern is dropped. -/
theorem Consistent.invalidate (consistent : cached.Consistent numberText) (pattern : String)
    {time : Int} {world : CacheStoreWorld} (from_ : cached.world.now ≤ time)
    (ordered : time ≤ world.now)
    (dropped
      : ∀ key,
          world.keys.contents key
          = if key ∈ cached.world.keys.matching time isMatch pattern then none
            else cached.world.keys.contents key)
    : Consistent numberText
        ⟨world, fun pair => if isMatch pattern pair.key then none else cached.map pair⟩ where
  corresponds pair := by
    dsimp only
    by_cases matched : isMatch pattern pair.key = true
    · intro later after
      have entry
          : ExpiringMap.live? (fun pair => if isMatch pattern pair.key then none else cached.map pair)
              later pair = none := by
        unfold ExpiringMap.live?
        dsimp only
        rw [if_pos matched]
        rfl
      rw [entry, Option.map_none, Option.map_eq_none_iff]
      unfold Keyspace.live?
      rw [dropped]
      split
      · rfl
      · next kept =>
          -- What has expired already stays so.
          rw [TextKeys.mem_matching, and_iff_left matched] at kept
          have gone : cached.world.keys.contents.live? time pair.key = none := by
            simpa using kept
          rw [Keyspace.live?, Option.filter_eq_none_iff] at gone
          rw [Option.filter_eq_none_iff]
          intro stored held live
          refine gone stored held (liveAt_iff.mpr ?_)
          refine lt_of_le_of_lt ?_ (liveAt_iff.mp live)
          exact WithTop.coe_le_coe.mpr (ordered.trans after)
    · have kept : pair.key ∉ cached.world.keys.matching time isMatch pattern := by
        exact fun listed => matched (TextKeys.mem_matching.mp listed).2
      refine ((consistent.corresponds pair).mono (from_.trans ordered)).congr ?_ (if_neg matched)
      rw [dropped, if_neg kept]
  survives pair entry held := by
    dsimp only at held
    split at held
    · contradiction
    · exact consistent.survives pair entry held

/-- A value is fetched, if there is none. -/
theorem Consistent.getOrFetch (consistent : cached.Consistent numberText) {pair : CachePair}
    {fetched : Settled Thrown Json} {ttlMs : Number}
    (survives : ∀ value, fetched = .ok value → CacheStore.Survives numberText value)
    : Consistent numberText
        ⟨((CacheStore.getOrFetch numberText pair.1.name pair.2 ttlMs).run
            (steadyServer isMatch elapsed fetched) cached.world).2,
          cached.map.getOrFetch cached.world.now
            (cached.world.now + elapsed cached.world.step + elapsed (cached.world.step + 1)) pair
            fetched ttlMs⟩ := by
  have once := CacheStoreWorld.le_tick elapsed cached.world
  have twice := once.trans (CacheStoreWorld.le_tick elapsed _)
  unfold CacheMap.getOrFetch
  rw [← consistent.told le_rfl]
  cases missing
      : isNull (CacheStore.told cached.world.keys.contents cached.world.now pair.1.name pair.2) with
  | false =>
      rw [CacheStore.run_getOrFetch_found missing]
      exact consistent.later _ rfl once
  | true =>
      cases fetched with
      | error error =>
          rw [CacheStore.run_getOrFetch_failed missing]
          exact consistent.later _ rfl twice
      | ok value =>
          rw [CacheStore.run_getOrFetch_fetched missing]
          exact consistent.set (survives value rfl) (twice.trans (CacheStoreWorld.le_tick elapsed _))
            rfl

/-- What a call leaves behind, whatever it awaits in the meantime. -/
theorem Consistent.step (consistent : cached.Consistent numberText) (next : TimedStoreCall)
    (survives
      : ∀ pair value, next.call.writes = some (pair, value) → CacheStore.Survives numberText value)
    : (CachedPairs.step numberText isMatch elapsed next cached).Consistent numberText := by
  obtain ⟨waited, call⟩ := next
  have waiting
      : Consistent numberText
          ⟨{ cached.world with now := cached.world.now + waited }, cached.map⟩ := by
    exact consistent.later _ rfl (by simp)
  unfold CachedPairs.step StoreCall.program
  dsimp only
  cases call with
  | get pair =>
      dsimp only
      rw [run_followed, CacheStore.run_get]
      exact waiting.later _ rfl (CacheStoreWorld.le_tick elapsed _)
  | set pair value ttlMs =>
      dsimp only
      rw [run_followed, CacheStore.run_set]
      exact waiting.set (survives pair value rfl) (CacheStoreWorld.le_tick elapsed _) rfl
  | delete pair =>
      dsimp only
      rw [run_followed, CacheStore.run_delete]
      exact waiting.erase (CacheStoreWorld.le_tick elapsed _) (TextKeys.contents_erase ..)
  | isCached pair =>
      dsimp only
      rw [run_followed, CacheStore.run_isCached]
      exact waiting.later _ rfl (CacheStoreWorld.le_tick elapsed _)
  | getTTL pair =>
      dsimp only
      rw [run_followed, CacheStore.run_getTTL]
      exact waiting.later _ rfl (CacheStoreWorld.le_tick elapsed _)
  | setTTL pair ttlMs =>
      dsimp only
      rw [run_followed, CacheStore.run_setTTL]
      exact waiting.setTTL pair ttlMs le_rfl (CacheStoreWorld.le_tick elapsed _) rfl
  | getOrFetch pair fetched ttlMs =>
      dsimp only
      rw [run_followed]
      refine waiting.getOrFetch (fun value resolved => survives pair value ?_)
      exact StoreCall.writes_getOrFetch resolved
  | invalidatePattern pattern =>
      dsimp only
      rw [run_followed, CacheStore.run_invalidatePattern]
      have before := CacheStoreWorld.le_tick elapsed
        { cached.world with now := cached.world.now + waited }
      split
      · have after := before.trans (CacheStoreWorld.le_tick elapsed _)
        refine waiting.invalidate pattern le_rfl after (fun key => ?_)
        dsimp only
        rw [TextKeys.contents_del]
      · next empty =>
          refine waiting.invalidate pattern le_rfl before (fun key => ?_)
          rw [List.length_pos_iff, ne_eq, not_not] at empty
          dsimp only
          rw [empty, if_neg List.not_mem_nil]
          rfl

end

end CachedPairs

-----------------------------------------------------------------------------------------
-- Calls that interleave
-----------------------------------------------------------------------------------------

namespace StoreCall

def looksUp : StoreCall → Option CachePair
  | get pair => some pair
  | getOrFetch pair _ _ => some pair
  | _ => none

/-- The moment to which the call lets an entry live if it changes it at a time, and the pair. -/
def lends (now : Int) : StoreCall → Option (CachePair × Option Int)
  | set pair _ ttlMs => (CacheStore.expiry? now ttlMs).map (Prod.mk pair)
  | getOrFetch pair _ ttlMs => (CacheStore.expiry? now ttlMs).map (Prod.mk pair)
  | setTTL pair ttlMs => (deadline? now ttlMs).toOption.map (fun expiry => (pair, some expiry))
  | _ => none

end StoreCall

/-- What the server holds, and which calls have looked up and have changed an entry, and when. -/
structure SharedCache (ι : Type) where
  world : CacheStoreWorld
  lookups : List (ι × Int)
  changes : List (ι × Int)

namespace CacheStoreCall

def isLookup : CacheStoreCall → Bool
  | get _ => true
  | _ => false

def isChange : CacheStoreCall → Bool
  | set _ _ _ => true
  | pexpire _ _ => true
  | _ => false

/-- What is told when a call settles. -/
def told? : (call : CacheStoreCall) → Settled Thrown call.Result → Option Told
  | get _, .ok none => some (.json .null)
  | get _, .ok (some text) => some (CacheStore.revive text)
  | _, _ => none

/-- What a fetcher settles with is up to the call it belongs to. -/
def Admits (fetched : Settled Thrown Json)
    : (call : CacheStoreCall) → Settled Thrown call.Result → Prop
  | fetch, result => result = fetched
  | _, _ => True

end CacheStoreCall

section Interleaved

variable {ι : Type}

def sharedCache (calls : ι → StoreCall) (isMatch : String → String → Bool) (elapsed : Nat → Nat)
    (faults : Nat → Option Bool) (caller : ι)
    : Handler CacheStoreSignature Thrown (SharedCache ι) :=
  fun op shared =>
    let answered := cacheServer isMatch elapsed faults (calls caller).fetched op shared.world
    let note (noted : Bool) (notes : List (ι × Int)) :=
      if noted then (caller, shared.world.now) :: notes else notes
    (answered.1,
      {
        world := answered.2
        lookups := note op.isLookup shared.lookups
        changes := note (op.isChange && (faults shared.world.step).getD true) shared.changes
      })

namespace SharedCache

variable (numberText : Number → String) (calls : ι → StoreCall) (shared : SharedCache ι)

/-- By a time some call has written a text for a pair. -/
def Written (pair : CachePair) (time : Int) (text : String) : Prop :=
  ∃ writer value written,
    (calls writer).writes = some (pair, value)
    ∧ text = CacheStore.serialized numberText value
    ∧ (writer, written) ∈ shared.changes
    ∧ written ≤ time

/-- By a time some call has let an entry live to a moment. -/
def Lent (pair : CachePair) (time : Int) (expiresAt : Option Int) : Prop :=
  ∃ lender lent,
    (calls lender).lends lent = some (pair, expiresAt)
    ∧ (lender, lent) ∈ shared.changes
    ∧ lent ≤ time

/-- What a call is told of a pair: nothing, or what another one has written for this pair, at a
time at which it is to live.
-/
def Tells (caller : ι) (pair : CachePair) (told : Told) : Prop :=
  told = .json .null
  ∨ ∃ time text expiresAt,
      (caller, time) ∈ shared.lookups
      ∧ told = CacheStore.revive text
      ∧ shared.Written numberText calls pair time text
      ∧ shared.Lent calls pair time expiresAt
      ∧ (time : WithTop Int) < moment expiresAt

/-- Each entry of the cache has been written, and it lives as long as it is to. -/
def Stored : Prop :=
  ∀ pair stored,
    shared.world.keys.contents pair.key = some stored
    → shared.Written numberText calls pair shared.world.now stored.value
      ∧ shared.Lent calls pair shared.world.now stored.expiresAt

variable {numberText calls shared} {later : SharedCache ι} {pair : CachePair} {time : Int}

/-- What has happened stays so. -/
theorem Written.mono {text : String} (written : shared.Written numberText calls pair time text)
    (kept : shared.changes ⊆ later.changes) {after : Int} (ordered : time ≤ after)
    : later.Written numberText calls pair after text := by
  obtain ⟨writer, value, moment, writes, same, noted, before⟩ := written
  exact ⟨writer, value, moment, writes, same, kept noted, before.trans ordered⟩

theorem Lent.mono {expiresAt : Option Int} (lent : shared.Lent calls pair time expiresAt)
    (kept : shared.changes ⊆ later.changes) {after : Int} (ordered : time ≤ after)
    : later.Lent calls pair after expiresAt := by
  obtain ⟨lender, moment, lends, noted, before⟩ := lent
  exact ⟨lender, moment, lends, kept noted, before.trans ordered⟩

theorem Tells.mono {caller : ι} {told : Told} (tells : shared.Tells numberText calls caller pair told)
    (kept : shared.changes ⊆ later.changes) (looked : shared.lookups ⊆ later.lookups)
    : later.Tells numberText calls caller pair told := by
  rcases tells with nothing | ⟨time, text, expiresAt, noted, same, written, lent, live⟩
  · exact .inl nothing
  · exact .inr ⟨time, text, expiresAt, looked noted, same, written.mono kept le_rfl,
      lent.mono kept le_rfl, live⟩

section

variable {isMatch : String → String → Bool} {elapsed : Nat → Nat} {faults : Nat → Option Bool}

theorem changes_subset (caller : ι) (op : CacheStoreCall)
    : shared.changes ⊆ (sharedCache calls isMatch elapsed faults caller op shared).2.changes := by
  unfold sharedCache
  dsimp only
  split
  · exact List.subset_cons_self ..
  · exact List.Subset.refl _

theorem lookups_subset (caller : ι) (op : CacheStoreCall)
    : shared.lookups ⊆ (sharedCache calls isMatch elapsed faults caller op shared).2.lookups := by
  unfold sharedCache
  dsimp only
  split
  · exact List.subset_cons_self ..
  · exact List.Subset.refl _

theorem now_le (caller : ι) (op : CacheStoreCall)
    : shared.world.now
      ≤ (sharedCache calls isMatch elapsed faults caller op shared).2.world.now := by
  unfold sharedCache cacheServer
  dsimp only
  split
  · exact CacheStoreWorld.le_tick elapsed shared.world
  · exact CacheStoreWorld.le_tick elapsed shared.world

end

end SharedCache

namespace StoreCall

/-- What a call may await, and what it remembers of what it is told. -/
def owes (numberText : Number → String) (call : StoreCall)
    : Contract CacheStoreSignature Thrown (Option Told) where
  allows _ op :=
    match op with
    | .get key => ∃ pair, call.looksUp = some pair ∧ key = pair.key
    | .set key text px =>
        ∃ pair value ttlMs,
          (call = .set pair value ttlMs ∨ call = .getOrFetch pair (.ok value) ttlMs)
          ∧ key = pair.key
          ∧ text = CacheStore.serialized numberText value
          ∧ px = if Number.lt 0 ttlMs then some ttlMs else none
    | .pexpire key ttlMs => ∃ pair, call = .setTTL pair ttlMs ∧ key = pair.key
    | _ => True
  answers before op result after :=
    CacheStoreCall.Admits call.fetched op result
    ∧ after = (CacheStoreCall.told? op result).or before

/-- A lookup resolves with what it is told or with what it has fetched. -/
def SettlesWith (call : StoreCall) (outcome : Settled Thrown (Option Told)) (phase : Option Told)
    : Prop :=
  ∀ told,
    outcome = .ok (some told)
    → phase = some told
      ∨ ∃ pair value ttlMs, call = .getOrFetch pair (.ok value) ttlMs ∧ told = .json value

theorem SettlesWith.error {call : StoreCall} {error : Thrown} {phase : Option Told}
    : call.SettlesWith (.error error) phase := by
  rintro told ⟨⟩

theorem SettlesWith.none {call : StoreCall} {phase : Option Told}
    : call.SettlesWith (.ok none) phase := by
  rintro told ⟨⟩

section

variable {numberText : Number → String} {call : StoreCall} {phase : Option Told}

/-- A command that is awaited: one case for each way it settles. -/
theorem meets_execute {op : CacheStoreCall}
    {post : Settled Thrown op.Result → Option Told → Prop}
    (allowed : (call.owes numberText).allows phase op)
    (failed : ∀ error after, post (.error error) after)
    (resolved
      : ∀ value,
          post (.ok value)
            ((CacheStoreCall.told? op (.ok value : Settled Thrown op.Result)).or phase))
    : Program.Meets (α := no_index op.Result) (call.owes numberText)
        (CacheStore.execute (awaitStore op)) phase post := by
  unfold CacheStore.execute awaitStore
  rw [Program.meets_catchError, Program.meets_perform]
  refine ⟨allowed, fun result after answered => ?_⟩
  obtain ⟨_, rfl⟩ := answered
  cases result with
  | error error => exact failed _ _
  | ok value => exact resolved value

theorem meets_get {pair : CachePair} (looksUp : call.looksUp = some pair)
    {post : Settled Thrown Told → Option Told → Prop}
    (failed : ∀ error after, post (.error error) after)
    (resolved : ∀ told, post (.ok told) (some told))
    : (CacheStore.get pair.1.name pair.2).Meets (call.owes numberText) phase post := by
  unfold CacheStore.get
  rw [Program.bind_eq, Program.meets_bind]
  refine meets_execute ⟨pair, looksUp, rfl⟩ failed (fun value => ?_)
  cases value with
  | none => exact resolved _
  | some text => exact resolved _

theorem meets_set {pair : CachePair} {value : Json} {ttlMs : Number}
    (writes : call = .set pair value ttlMs ∨ call = .getOrFetch pair (.ok value) ttlMs)
    {post : Settled Thrown Unit → Option Told → Prop}
    (failed : ∀ error after, post (.error error) after)
    (resolved : ∀ after, post (.ok ()) after)
    : (CacheStore.set numberText pair.1.name pair.2 value ttlMs).Meets (call.owes numberText) phase
        post := by
  exact meets_execute ⟨pair, value, ttlMs, writes, rfl, rfl, rfl⟩ failed (fun _ => resolved _)

end

theorem program_meets (numberText : Number → String) (call : StoreCall)
    : (call.program numberText).Meets (call.owes numberText) none call.SettlesWith := by
  cases call with
  | get pair =>
      refine Program.meets_bind.mpr (meets_get rfl (fun _ _ => SettlesWith.error) (fun told => ?_))
      rintro _ ⟨⟩
      exact .inl rfl
  | set pair value ttlMs =>
      refine Program.meets_bind.mpr (meets_set (.inl rfl) (fun _ _ => SettlesWith.error) ?_)
      exact fun _ => SettlesWith.none
  | delete pair =>
      refine Program.meets_bind.mpr (Program.meets_bind.mpr ?_)
      exact meets_execute trivial (fun _ _ => SettlesWith.error) (fun _ => SettlesWith.none)
  | isCached pair =>
      refine Program.meets_bind.mpr (Program.meets_bind.mpr ?_)
      exact meets_execute trivial (fun _ _ => SettlesWith.error) (fun _ => SettlesWith.none)
  | getTTL pair =>
      refine Program.meets_bind.mpr (Program.meets_bind.mpr ?_)
      exact meets_execute trivial (fun _ _ => SettlesWith.error) (fun _ => SettlesWith.none)
  | setTTL pair ttlMs =>
      refine Program.meets_bind.mpr (Program.meets_bind.mpr ?_)
      refine meets_execute ⟨pair, rfl, rfl⟩ (fun _ _ => SettlesWith.error) ?_
      exact fun _ => SettlesWith.none
  | getOrFetch pair fetched ttlMs =>
      refine Program.meets_bind.mpr (Program.meets_bind.mpr ?_)
      refine meets_get rfl (fun _ _ => SettlesWith.error) (fun cached => ?_)
      dsimp only
      rw [Program.meets_ite]
      constructor
      · rintro _ _ ⟨⟩
        exact .inl rfl
      · intro _
        refine Program.meets_bind.mpr (Program.meets_perform.mpr ⟨trivial, ?_⟩)
        rintro result after ⟨fetches, rfl⟩
        cases result with
        | error error => exact SettlesWith.error
        | ok value =>
            refine Program.meets_bind.mpr (meets_set (.inr ?_) (fun _ _ => SettlesWith.error) ?_)
            · exact congrArg (fun fetched => getOrFetch pair fetched ttlMs) fetches.symm
            · rintro after told ⟨⟩
              exact .inr ⟨pair, value, ttlMs,
                congrArg (fun fetched => getOrFetch pair fetched ttlMs) fetches.symm, rfl⟩
  | invalidatePattern pattern =>
      refine Program.meets_bind.mpr (Program.meets_catchError.mpr (Program.meets_bind.mpr ?_))
      refine Program.meets_perform.mpr ⟨trivial, ?_⟩
      rintro result after ⟨_, rfl⟩
      cases result with
      | error error => exact SettlesWith.error
      | ok keys =>
          dsimp only
          rw [Program.meets_ite]
          constructor
          · intro _
            refine Program.meets_perform.mpr ⟨trivial, ?_⟩
            rintro result after _
            cases result with
            | error error => exact SettlesWith.error
            | ok count => exact SettlesWith.none
          · exact fun _ => SettlesWith.none

end StoreCall

namespace SharedCache

variable {numberText : Number → String} {calls : ι → StoreCall} {shared : SharedCache ι}
  {isMatch : String → String → Bool} {elapsed : Nat → Nat} {faults : Nat → Option Bool}

/-- A command leaves the keyspace as it was, or it is carried out and noted if it is a change. -/
theorem keys_sharedCache (caller : ι) (op : CacheStoreCall)
    : (sharedCache calls isMatch elapsed faults caller op shared).2.world.keys = shared.world.keys
      ∨ (sharedCache calls isMatch elapsed faults caller op shared).2.world.keys
          = (op.answer isMatch shared.world.now (calls caller).fetched shared.world.keys).2
        ∧ (op.isChange = true
          → (caller, shared.world.now)
            ∈ (sharedCache calls isMatch elapsed faults caller op shared).2.changes) := by
  unfold sharedCache cacheServer
  dsimp only
  cases lost : faults shared.world.step with
  | none =>
      refine .inr ⟨rfl, fun change => ?_⟩
      rw [change]
      exact List.mem_cons_self
  | some carriedOut =>
      cases command : op.isCommand with
      | false =>
          cases op with
          | fetch => exact .inl rfl
          | _ => contradiction
      | true =>
          cases carriedOut with
          | false => exact .inl rfl
          | true =>
              refine .inr ⟨rfl, fun change => ?_⟩
              rw [change]
              exact List.mem_cons_self

/-- An entry of the cache is one of before, or it has been written and lives as it is to. -/
theorem Stored.of_entries (stored : shared.Stored numberText calls) {later : SharedCache ι}
    (kept : shared.changes ⊆ later.changes) (ordered : shared.world.now ≤ later.world.now)
    (entries
      : ∀ pair entry,
          later.world.keys.contents pair.key = some entry
          → shared.world.keys.contents pair.key = some entry
            ∨ later.Written numberText calls pair later.world.now entry.value
              ∧ later.Lent calls pair later.world.now entry.expiresAt)
    : later.Stored numberText calls := by
  intro pair entry held
  rcases entries pair entry held with before | now
  · obtain ⟨written, lent⟩ := stored pair entry before
    exact ⟨written.mono kept ordered, lent.mono kept ordered⟩
  · exact now

/-- Every command that a call may await keeps the entries of the cache in order. -/
theorem Stored.step (stored : shared.Stored numberText calls) {caller : ι} {phase : Option Told}
    {op : CacheStoreCall} (allowed : ((calls caller).owes numberText).allows phase op)
    : (sharedCache calls isMatch elapsed faults caller op shared).2.Stored numberText calls := by
  refine stored.of_entries (changes_subset caller op) (now_le caller op) ?_
  intro pair entry held
  rcases keys_sharedCache caller op with same | ⟨carriedOut, noted⟩
  · rw [same] at held
    exact .inl held
  rw [carriedOut] at held
  cases op with
  | get key => exact .inl held
  | set key text px =>
      obtain ⟨written, value, ttlMs, writes, rfl, rfl, rfl⟩ := allowed
      have here := noted rfl
      rw [CacheStoreCall.answer, CachePair.key, CacheStore.set_eq_wrote, CacheStore.wrote] at held
      cases taken : CacheStore.expiry? shared.world.now ttlMs with
      | none =>
          rw [taken] at held
          exact .inl held
      | some expiresAt =>
          rw [taken, TextKeys.contents_insert] at held
          by_cases same : pair = written
          · subst same
            rw [CachePair.key, Function.update_self] at held
            obtain rfl := Option.some.inj held
            refine .inr ⟨⟨caller, value, _, ?_, rfl, here, now_le ..⟩, caller, _, ?_, here, now_le ..⟩
            · rcases writes with writes | writes <;> rw [writes] <;> rfl
            · rcases writes with writes | writes <;> rw [writes, StoreCall.lends, taken] <;> rfl
          · have apart : pair.key ≠ written.key := fun sameKey => same (CachePair.key_inj sameKey)
            exact .inl ((Function.update_of_ne apart ..).symm.trans held)
  | del gone =>
      rw [CacheStoreCall.answer, TextKeys.contents_del] at held
      split at held
      · contradiction
      · exact .inl held
  | existing key => exact .inl held
  | ttl key => exact .inl held
  | pexpire key ms =>
      obtain ⟨changed, sets, rfl⟩ := allowed
      have here := noted rfl
      rw [CacheStoreCall.answer, TextKeys.pexpire] at held
      cases led : deadline? shared.world.now ms with
      | error error =>
          rw [led] at held
          exact .inl held
      | ok expiry =>
          rw [led] at held
          cases live : shared.world.keys.contents.live? shared.world.now changed.key with
          | none =>
              rw [live] at held
              exact .inl held
          | some before =>
              rw [live] at held
              dsimp only at held
              have there := (Option.filter_eq_some_iff.mp live).1
              by_cases same : pair = changed
              · subst same
                split at held
                · rw [TextKeys.contents_erase, Function.update_self] at held
                  contradiction
                · rw [TextKeys.contents_insert, Function.update_self] at held
                  obtain rfl := Option.some.inj held
                  have written := (stored pair before there).1
                  refine .inr ⟨written.mono (changes_subset caller _) (now_le caller _), caller, _,
                    ?_, here, now_le ..⟩
                  rw [sets, StoreCall.lends, led]
                  rfl
              · have apart : pair.key ≠ changed.key := fun sameKey => same (CachePair.key_inj sameKey)
                split at held
                · rw [TextKeys.contents_erase, Function.update_of_ne apart] at held
                  exact .inl held
                · rw [TextKeys.contents_insert, Function.update_of_ne apart] at held
                  exact .inl held
  | keys pattern => exact .inl held
  | fetch => exact .inl held

/-- What a call knows is told it at its last lookup. -/
def Noted (numberText : Number → String) (calls : ι → StoreCall) (shared : SharedCache ι)
    (caller : ι) (phase : Option Told)
    : Prop :=
  ∀ told,
    phase = some told
    → ∃ pair,
        (calls caller).looksUp = some pair
        ∧ shared.Tells numberText calls caller pair told

theorem Noted.mono {caller : ι} {phase : Option Told}
    (noted : Noted numberText calls shared caller phase) {later : SharedCache ι}
    (kept : shared.changes ⊆ later.changes) (looked : shared.lookups ⊆ later.lookups)
    : Noted numberText calls later caller phase := by
  intro told knows
  obtain ⟨pair, looksUp, tells⟩ := noted told knows
  exact ⟨pair, looksUp, tells.mono kept looked⟩

/-- A lookup is answered, or it is lost. -/
theorem answer_lookup (caller : ι) (key : String)
    : (∃ error : Thrown,
        (sharedCache calls isMatch elapsed faults caller (.get key) shared).1 = .error error)
      ∨ (sharedCache calls isMatch elapsed faults caller (.get key) shared).1
        = .ok (RedisOperations.get shared.world.keys.contents shared.world.now key) := by
  unfold sharedCache cacheServer
  dsimp only
  cases faults shared.world.step with
  | none => exact .inr rfl
  | some carriedOut => exact .inl ⟨_, rfl⟩

/-- What is told of an entry has been written for its pair. -/
theorem Stored.tells (stored : shared.Stored numberText calls) {caller : ι} {pair : CachePair}
    {told : Told}
    (answered
      : CacheStoreCall.told? (.get pair.key)
          (sharedCache calls isMatch elapsed faults caller (.get pair.key) shared).1
        = some told)
    : Tells numberText calls
        (sharedCache calls isMatch elapsed faults caller (.get pair.key) shared).2 caller pair
        told := by
  rcases answer_lookup caller pair.key with ⟨error, lost⟩ | found
  · rw [lost] at answered
    contradiction
  rw [found] at answered
  unfold RedisOperations.get at answered
  cases live : shared.world.keys.contents.live? shared.world.now pair.key with
  | none =>
      rw [live] at answered
      obtain rfl := Option.some.inj answered
      exact .inl rfl
  | some entry =>
      rw [live] at answered
      obtain rfl := Option.some.inj answered
      obtain ⟨held, alive⟩ := Option.filter_eq_some_iff.mp live
      obtain ⟨written, lent⟩ := stored pair entry held
      refine .inr ⟨shared.world.now, entry.value, entry.expiresAt, List.mem_cons_self, rfl, ?_, ?_,
        liveAt_iff.mp alive⟩
      · exact written.mono (changes_subset caller _) le_rfl
      · exact lent.mono (changes_subset caller _) le_rfl

theorem Noted.step (stored : shared.Stored numberText calls) {caller : ι} {phase : Option Told}
    {op : CacheStoreCall} (allowed : ((calls caller).owes numberText).allows phase op)
    (noted : Noted numberText calls shared caller phase)
    : ∃ next,
        ((calls caller).owes numberText).answers phase op
          (sharedCache calls isMatch elapsed faults caller op shared).1 next
        ∧ Noted numberText calls (sharedCache calls isMatch elapsed faults caller op shared).2
          caller next := by
  refine ⟨_, ⟨?_, rfl⟩, ?_⟩
  · unfold sharedCache cacheServer
    cases op with
    | fetch =>
        dsimp only
        cases faults shared.world.step <;> rfl
    | _ => trivial
  · intro told knows
    rcases Option.or_eq_some_iff.mp knows with now | ⟨_, before⟩
    · cases op with
      | get key =>
          obtain ⟨pair, looksUp, rfl⟩ := allowed
          exact ⟨pair, looksUp, stored.tells now⟩
      | _ => contradiction
    · exact noted.mono (changes_subset caller op) (lookups_subset caller op) told before

end SharedCache

end Interleaved

end QueueForge.Infrastructure
