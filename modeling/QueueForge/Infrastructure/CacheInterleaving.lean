import QueueForge.Infrastructure.IdempotencyCacheRepository

/-! Interleaved calls of `IdempotencyCacheRepository`: as long as the keys tell the pairs apart and
lookups delete in time, each lookup resolves with what the map gives for its pair.
-/

namespace QueueForge.Infrastructure

open QueueForge.Async QueueForge.Js

-----------------------------------------------------------------------------------------
-- What a call owes
-----------------------------------------------------------------------------------------

/-- How far a call has come: it has seen the clock, read a row or nothing, checked the row, deleted
it, or asked for a change.
-/
inductive CachePhase where
  | begun
  | timed (now : Int)
  | read (row : Option CacheRow)
  | checked (row : CacheRow) (now : Int)
  | gone
  | changed

namespace RepositoryCall

def key (call : RepositoryCall) : Option String :=
  call.pair.map
    (fun pair => IdempotencyCacheRepository.getCompositeKey pair.1 pair.2)

/-- A lookup reads the row of its pair, and checks and deletes what it has read; the others look at
the clock and ask for a change.
-/
def owes (call : RepositoryCall) : Contract CacheSignature Thrown CachePhase where
  allows
    | .begun, .now => call.isLookup = false
    | .begun, .findUnique key => call.isLookup = true ∧ call.key = some key
    | .timed _, .upsert key _ _ => call.key = some key
    | .timed now, .deleteMany lte => lte = now
    | .read (some _), .now => call.isLookup = true
    | .checked row now, .delete key => call.key = some key ∧ row.expiresAt ≤ now
    | _, _ => False
  answers
    | .begun, .now => fun result after => ∃ now, result = .ok now ∧ after = .timed now
    | .begun, .findUnique _ => fun result after => ∃ row, result = .ok row ∧ after = .read row
    | .read (some row), .now => fun result after => ∃ now, result = .ok now ∧ after = .checked row now
    | .checked _ _, .delete _ => fun result after => (∃ row, result = .ok row) ∧ after = .gone
    | _, _ => fun _ after => after = .changed

/-- What a lookup resolves with for a row. -/
def answer (call : RepositoryCall) (row : Option CacheRow) : CacheAnswer :=
  match call with
  | entryExists _ _ => .flag row.isSome
  | _ => .entry row

/-- A lookup has found the row that it has checked, or none. -/
def SettlesWith (call : RepositoryCall) (outcome : Settled Thrown CacheAnswer) (phase : CachePhase)
    : Prop :=
  call.isLookup = true
  → match phase with
    | .read none => outcome = .ok (call.answer none)
    | .checked row now => now < row.expiresAt ∧ outcome = .ok (call.answer (some row))
    | .gone => outcome = .ok (call.answer none)
    | _ => False

end RepositoryCall

section
variable {contract : Contract CacheSignature Thrown CachePhase} {phase : CachePhase}

@[simp] theorem meets_awaitCache {call : CacheCall}
    {post : Settled Thrown call.Result → CachePhase → Prop}
    : Program.Meets (α := no_index call.Result) contract (awaitCache call) phase post
      ↔ contract.allows phase call
        ∧ ∀ result after, contract.answers phase call result after → post result after :=
  Program.meets_perform

end

/-- What a lookup has found, by what it read and when. -/
def FoundBy (outcome : Settled Thrown (Option CacheRow)) : CachePhase → Prop
  | .read none => outcome = .ok none
  | .checked row now => now < row.expiresAt ∧ outcome = .ok (some row)
  | .gone => outcome = .ok none
  | _ => False

namespace IdempotencyCacheRepository

/-- A lookup meets its contract. -/
theorem findByCompositeKey_meets (production : Bool) (call : RepositoryCall)
    {taskResultId destinationId : String} (lookup : call.isLookup = true)
    (key : call.key = some (getCompositeKey taskResultId destinationId))
    : (findByCompositeKey production taskResultId destinationId).Meets call.owes .begun
        FoundBy := by
  unfold findByCompositeKey findUnique deleteById executeQuery
  simp only [Program.bind_eq, Program.pure_eq, Program.meets_bind, Program.meets_catchError,
    meets_awaitCache]
  refine ⟨⟨lookup, key⟩, ?_⟩
  rintro _ _ ⟨row, rfl, rfl⟩
  cases row with
  | none => rfl
  | some row =>
      simp only [Program.meets_bind, meets_awaitCache]
      refine ⟨lookup, ?_⟩
      rintro _ _ ⟨now, rfl, rfl⟩
      by_cases expired : row.expiresAt ≤ now
      · simp only [expired, if_true, Program.meets_bind, Program.meets_catchError, meets_awaitCache]
        refine ⟨⟨key, expired⟩, ?_⟩
        rintro _ _ ⟨⟨deleted, rfl⟩, rfl⟩
        rfl
      · simp only [expired, if_false]
        exact ⟨Int.not_le.mp expired, rfl⟩

end IdempotencyCacheRepository

/-- A lookup passes on what it has found. -/
theorem RepositoryCall.settlesWith_of_found {call : RepositoryCall} {phase : CachePhase}
    {outcome : Settled Thrown (Option CacheRow)} (found : FoundBy outcome phase)
    : call.SettlesWith (outcome.map call.answer) phase := by
  intro _
  match phase, found with
  | .read none, found => rw [found]; rfl
  | .checked row now, found => rw [found.2]; exact ⟨found.1, rfl⟩
  | .gone, found => rw [found]; rfl

/-- A call meets its contract from the start. -/
theorem RepositoryCall.program_meets (production : Bool) (call : RepositoryCall)
    : (call.program production).Meets call.owes .begun call.SettlesWith := by
  cases call with
  | set taskResultId destinationId deliveryId ttlSeconds =>
      unfold program IdempotencyCacheRepository.set IdempotencyCacheRepository.executeQuery
      simp only [Program.bind_eq, Program.meets_bind, Program.meets_catchError, meets_awaitCache]
      refine ⟨rfl, ?_⟩
      rintro _ _ ⟨now, rfl, rfl⟩
      refine ⟨rfl, ?_⟩
      rintro (error | _) _ _ ⟨⟩
  | deleteExpired =>
      unfold program IdempotencyCacheRepository.deleteExpired
        IdempotencyCacheRepository.executeQuery
      simp only [Program.bind_eq, Program.meets_bind, Program.meets_catchError, meets_awaitCache]
      refine ⟨rfl, ?_⟩
      rintro _ _ ⟨now, rfl, rfl⟩
      refine ⟨rfl, ?_⟩
      rintro (error | _) _ _ ⟨⟩
  | findByCompositeKey taskResultId destinationId =>
      unfold program
      rw [Program.meets_bind]
      refine (IdempotencyCacheRepository.findByCompositeKey_meets production
        (.findByCompositeKey taskResultId destinationId) rfl rfl).mono ?_
      rintro (error | row) after found
      · exact settlesWith_of_found found
      · exact settlesWith_of_found found
  | entryExists taskResultId destinationId =>
      unfold program IdempotencyCacheRepository.entryExists
      simp only [Program.bind_eq, Program.pure_eq, Program.meets_bind]
      refine (IdempotencyCacheRepository.findByCompositeKey_meets production
        (.entryExists taskResultId destinationId) rfl rfl).mono ?_
      rintro (error | row) after found
      · exact settlesWith_of_found found
      · exact settlesWith_of_found found

-----------------------------------------------------------------------------------------
-- What the table and the calls have to do with the map
-----------------------------------------------------------------------------------------

section
variable {ι : Type} {calls : ι → RepositoryCall} {elapsed : Nat → Nat} {world : CacheWorld ι}

/-- The table has the entry of a pair, or nothing where the entry has expired. -/
def Stored (world : CacheWorld ι) (pair : String × String) : Prop :=
  let row := world.table.lookup (IdempotencyCacheRepository.getCompositeKey pair.1 pair.2)
  row.map CacheRow.entry = world.entries pair
  ∨ row = none ∧ ∀ entry, world.entries pair = some entry → entry.2 ≤ world.now

/-- What a call knows is what it should know. -/
def Noted (world : CacheWorld ι) (caller : ι) : CachePhase → Prop
  | .begun => True
  | .timed now => now ≤ world.now
  | .read none => ∃ note, world.notes caller = some note ∧ note.found = none
  | .read (some row) => ∃ note, world.notes caller = some note ∧ note.held = some row.entry
  | .checked row now =>
      ∃ note, world.notes caller = some note ∧ note.held = some row.entry ∧ note.time = now
  | .gone => ∃ note, world.notes caller = some note ∧ note.found = none
  | .changed => True

/-- The keys tell the pairs of the calls apart. -/
def KeysApart (calls : ι → RepositoryCall) : Prop :=
  ∀ caller other, (calls caller).key = (calls other).key → (calls caller).pair = (calls other).pair

theorem key_eq {call : RepositoryCall} {pair : String × String} (paired : call.pair = some pair)
    : call.key = some (IdempotencyCacheRepository.getCompositeKey pair.1 pair.2) := by
  rw [RepositoryCall.key, paired, Option.map_some]

/-- Two pairs of the calls have two keys. -/
theorem KeysApart.key_ne (apart : KeysApart calls) {caller other : ι}
    {pair changed : String × String} (paired : (calls caller).pair = some pair)
    (otherPaired : (calls other).pair = some changed) (different : pair ≠ changed)
    : IdempotencyCacheRepository.getCompositeKey pair.1 pair.2
      ≠ IdempotencyCacheRepository.getCompositeKey changed.1 changed.2 := by
  intro equal
  have keys : (calls caller).key = (calls other).key :=
    (key_eq paired).trans ((congrArg some equal).trans (key_eq otherPaired).symm)
  have pairs := apart caller other keys
  rw [paired, otherPaired] at pairs
  exact different (Option.some.inj pairs)

/-- What a call knows stays so while others are served. -/
theorem Noted.mono {after : CacheWorld ι} {caller : ι} {phase : CachePhase}
    (noted : Noted world caller phase) (same : after.notes caller = world.notes caller)
    (later : world.now ≤ after.now)
    : Noted after caller phase := by
  match phase, noted with
  | .begun, _ => trivial
  | .changed, _ => trivial
  | .timed now, noted => exact Int.le_trans noted later
  | .read none, noted => rw [Noted, same]; exact noted
  | .read (some row), noted => rw [Noted, same]; exact noted
  | .checked row now, noted => rw [Noted, same]; exact noted
  | .gone, noted => rw [Noted, same]; exact noted

/-- A pair of which neither the row nor the entry is touched stays stored. -/
theorem Stored.mono {after : CacheWorld ι} {pair : String × String} (stored : Stored world pair)
    (sameRow
      : after.table.lookup (IdempotencyCacheRepository.getCompositeKey pair.1 pair.2)
        = world.table.lookup (IdempotencyCacheRepository.getCompositeKey pair.1 pair.2))
    (sameEntry : after.entries pair = world.entries pair) (later : world.now ≤ after.now)
    : Stored after pair := by
  unfold Stored at stored ⊢
  rw [sameRow, sameEntry]
  exact stored.imp_right
    (And.imp_right (fun expired entry held => Int.le_trans (expired entry held) later))

/-- A row that has expired may go. -/
theorem Stored.expire {after : CacheWorld ι} {pair : String × String} (stored : Stored world pair)
    {row : CacheRow}
    (found
      : world.table.lookup (IdempotencyCacheRepository.getCompositeKey pair.1 pair.2) = some row)
    (expired : row.expiresAt ≤ after.now)
    (gone
      : after.table.lookup (IdempotencyCacheRepository.getCompositeKey pair.1 pair.2) = none)
    (sameEntry : after.entries pair = world.entries pair)
    : Stored after pair := by
  refine .inr ⟨gone, fun entry held => ?_⟩
  rcases stored with agrees | ⟨missing, _⟩
  · rw [found, Option.map_some, ← sameEntry, held] at agrees
    rw [← Option.some.inj agrees]
    exact expired
  · exact nomatch missing.symm.trans found

/-- A row may go with those that expire until a time of the past. -/
theorem Stored.deleteMany {after : CacheWorld ι} {pair : String × String} {lte : Int}
    (stored : Stored world pair) (past : lte ≤ world.now) (later : world.now ≤ after.now)
    (left : after.table = world.table.deleteMany lte)
    (sameEntry : after.entries pair = world.entries pair)
    : Stored after pair := by
  have kept :=
    CacheTable.lookup_deleteMany world.table lte
      (IdempotencyCacheRepository.getCompositeKey pair.1 pair.2)
  rw [← left] at kept
  cases found : world.table.lookup (IdempotencyCacheRepository.getCompositeKey pair.1 pair.2) with
  | none =>
      rw [found, Option.filter_none] at kept
      exact stored.mono (kept.trans found.symm) sameEntry later
  | some row =>
      rw [found, Option.filter_some] at kept
      by_cases lives : lte < row.expiresAt
      · rw [decide_eq_true lives, if_pos rfl] at kept
        exact stored.mono (kept.trans found.symm) sameEntry later
      · rw [decide_eq_false lives, if_neg Bool.false_ne_true] at kept
        have expired := Int.le_trans (Int.not_lt.mp lives) past
        exact stored.expire found (Int.le_trans expired later) kept sameEntry

theorem lookup_upsert (table : CacheTable) (now : Int) (key deliveryId : String) (expiresAt : Int)
    : ((table.upsert now key deliveryId expiresAt).lookup key).map CacheRow.entry
      = some (deliveryId, expiresAt) := by
  unfold CacheTable.upsert
  cases table.lookup key <;> rw [AList.lookup_insert] <;> rfl

theorem lookup_upsert_of_ne {table : CacheTable} {key other : String} (different : other ≠ key)
    (now : Int) (deliveryId : String) (expiresAt : Int)
    : (table.upsert now key deliveryId expiresAt).lookup other = table.lookup other := by
  unfold CacheTable.upsert
  cases table.lookup key <;> exact AList.lookup_insert_ne different

/-- The pairs of the calls. -/
def AllStored (calls : ι → RepositoryCall) (world : CacheWorld ι) : Prop :=
  ∀ caller pair, (calls caller).pair = some pair → Stored world pair

/-- What expires until a time of the past has expired. -/
theorem cutoff_le {caller : ι} {phase : CachePhase} {lte : Int}
    (allowed : (calls caller).owes.allows phase (.deleteMany lte))
    (noted : Noted world caller phase)
    : lte ≤ world.now := by
  match phase, allowed with
  | .timed now, same => exact same ▸ noted

/-- A change is asked for the key of the pair. -/
theorem upsert_key {call : RepositoryCall} {phase : CachePhase} {key deliveryId : String}
    {expiresAt : Date} (allowed : call.owes.allows phase (.upsert key deliveryId expiresAt))
    : call.key = some key := by
  match phase, allowed with
  | .timed now, same => exact same

/-- A lookup that reads the table learns what the map has of its pair. -/
theorem Noted.read {pair : String × String} (stored : Stored world pair) {after : CacheWorld ι}
    {caller : ι} (noted : after.notes caller = some ⟨world.entries pair, world.now⟩)
    : Noted after caller
        (.read (world.table.lookup (IdempotencyCacheRepository.getCompositeKey pair.1 pair.2))) := by
  unfold Stored at stored
  cases found : world.table.lookup (IdempotencyCacheRepository.getCompositeKey pair.1 pair.2) with
  | none =>
      refine ⟨_, noted, Option.filter_eq_none_iff.mpr ?_⟩
      intro entry held
      rw [found] at stored
      rcases stored with agrees | ⟨_, expired⟩
      · exact nomatch agrees.trans held
      · simpa using expired entry held
  | some row =>
      rw [found] at stored
      rcases stored with agrees | ⟨missing, _⟩
      · exact ⟨_, noted, agrees.symm⟩
      · exact nomatch missing

/-- What a lookup settles with tells what the map gives, if it knows what it should. -/
theorem refines_of_settlesWith {call : RepositoryCall} {caller : ι} {phase : CachePhase}
    {outcome : Settled Thrown CacheAnswer} (settled : call.SettlesWith outcome phase)
    (noted : Noted world caller phase) (lookup : call.isLookup = true)
    : ∃ answer note,
        outcome = .ok answer ∧ world.notes caller = some note ∧ answer.Tells note.found := by
  have found := settled lookup
  have tells (row : Option CacheRow) (note : LookupNote)
      (same : row.map CacheRow.entry = note.found)
      : (call.answer row).Tells note.found := by
    cases call with
    | set | deleteExpired => exact nomatch lookup
    | findByCompositeKey => exact same
    | entryExists =>
        change row.isSome = note.found.isSome
        rw [← same, Option.isSome_map]
  match phase, found, noted with
  | .read none, found, ⟨note, held, nothing⟩ =>
      exact ⟨_, note, found, held, tells none note nothing.symm⟩
  | .gone, found, ⟨note, held, nothing⟩ =>
      exact ⟨_, note, found, held, tells none note nothing.symm⟩
  | .checked row now, ⟨live, found⟩, ⟨note, held, known, time⟩ =>
      refine ⟨_, note, found, held, tells (some row) note ?_⟩
      rw [LookupNote.found, known, time, Option.filter_some]
      exact (if_pos (decide_eq_true live)).symm

variable [DecidableEq ι]

/-- Time passes with a query. -/
theorem now_le_cacheDatabase (caller : ι) (call : CacheCall)
    : world.now ≤ (cacheDatabase calls elapsed caller call world).2.now := by
  have later : world.now ≤ (world.tick elapsed).now := by
    simp only [CacheWorld.tick]
    omega
  cases call with
  | now | findUnique | deleteMany => exact later
  | delete key =>
      simp only [cacheDatabase]
      cases world.table.lookup key <;> exact later
  | upsert key deliveryId expiresAt => cases expiresAt <;> exact later

/-- A query leaves alone what the other calls should know. -/
theorem notes_of_ne {caller other : ι} (different : other ≠ caller) (call : CacheCall)
    : (cacheDatabase calls elapsed caller call world).2.notes other = world.notes other := by
  cases call with
  | now | findUnique => exact Function.update_of_ne different ..
  | deleteMany => rfl
  | delete key =>
      simp only [cacheDatabase]
      cases world.table.lookup key <;> rfl
  | upsert key deliveryId expiresAt => cases expiresAt <;> rfl

/-- A query that a call may await keeps the pairs stored, if a lookup deletes in time. -/
theorem AllStored.step (stored : AllStored calls world) (apart : KeysApart calls) {caller : ι}
    {phase : CachePhase} {call : CacheCall} (allowed : (calls caller).owes.allows phase call)
    (noted : Noted world caller phase) (timely : Timely world caller call)
    : AllStored calls (cacheDatabase calls elapsed caller call world).2 := by
  intro one pair paired
  have before := stored one pair paired
  have later : world.now ≤ (cacheDatabase calls elapsed caller call world).2.now :=
    now_le_cacheDatabase caller call
  cases call with
  | now | findUnique => exact before.mono rfl rfl later
  | delete key =>
      cases found : world.table.lookup key with
      | none =>
          rw [Timely, found] at timely
          exact nomatch timely
      | some row =>
          rw [Timely, found] at timely
          have expired : row.expiresAt ≤ world.now := of_decide_eq_true timely
          simp only [cacheDatabase, found] at later ⊢
          by_cases same : IdempotencyCacheRepository.getCompositeKey pair.1 pair.2 = key
          · subst same
            exact before.expire found (Int.le_trans expired later) (AList.lookup_erase ..) rfl
          · exact before.mono (AList.lookup_erase_ne same) rfl later
  | deleteMany lte => exact before.deleteMany (cutoff_le allowed noted) later rfl rfl
  | upsert key deliveryId expiresAt =>
      cases expiresAt with
      | none => exact before.mono rfl rfl later
      | some expiry =>
          obtain ⟨changed, paired', rfl⟩ := Option.map_eq_some_iff.mp (upsert_key allowed)
          by_cases same : pair = changed
          · subst same
            refine .inl ((lookup_upsert ..).trans ?_)
            simp only [cacheDatabase, paired', ExpiringMap.insert, Function.update_self]
          · refine before.mono
              (lookup_upsert_of_ne (apart.key_ne paired paired' same) ..) ?_ later
            simp only [cacheDatabase, paired', ExpiringMap.insert, Function.update_of_ne same,
              CacheWorld.tick]

/-- A query that a call may await is answered as the call expects it, and then it knows what it
should.
-/
theorem Noted.step (elapsed : Nat → Nat) (stored : AllStored calls world) {caller : ι}
    {phase : CachePhase} {call : CacheCall} (allowed : (calls caller).owes.allows phase call)
    (noted : Noted world caller phase) (timely : Timely world caller call)
    : ∃ next,
        (calls caller).owes.answers phase call (cacheDatabase calls elapsed caller call world).1 next
        ∧ Noted (cacheDatabase calls elapsed caller call world).2 caller next := by
  have later : world.now ≤ (cacheDatabase calls elapsed caller call world).2.now :=
    now_le_cacheDatabase caller call
  match phase, call, allowed with
  | .begun, .now, _ => exact ⟨.timed world.now, ⟨_, rfl, rfl⟩, later⟩
  | .begun, .findUnique key, ⟨_, keyed⟩ =>
      obtain ⟨pair, paired, rfl⟩ := Option.map_eq_some_iff.mp keyed
      refine ⟨_, ⟨_, rfl, rfl⟩, Noted.read (stored caller pair paired) ?_⟩
      simp only [cacheDatabase, Function.update_self, paired, Option.bind_some]
  | .read (some row), .now, _ =>
      obtain ⟨note, held, known⟩ := noted
      refine ⟨_, ⟨_, rfl, rfl⟩, { note with time := world.now }, ?_, known, rfl⟩
      simp only [cacheDatabase, Function.update_self, held, Option.map_some]
  | .checked row now, .delete key, ⟨_, expired⟩ =>
      obtain ⟨note, held, known, rfl⟩ := noted
      cases found : world.table.lookup key with
      | none =>
          rw [Timely, found] at timely
          exact nomatch timely
      | some deleted =>
          simp only [cacheDatabase, found]
          refine ⟨.gone, ⟨⟨deleted, rfl⟩, rfl⟩, note, held, ?_⟩
          rw [LookupNote.found, known]
          exact Option.filter_eq_none_iff.mpr (by simpa [CacheRow.entry] using expired)
  | .timed now, .upsert key deliveryId expiresAt, _ => exact ⟨.changed, rfl, trivial⟩
  | .timed now, .deleteMany lte, _ => exact ⟨.changed, rfl, trivial⟩

/-- Every lookup of a run resolves with what the map gives for its pair, if the keys tell the pairs
apart and each row that is deleted by a lookup is still there and has expired.
-/
theorem lookups_refine_map (production : Bool) (calls : ι → RepositoryCall)
    (elapsed : Nat → Nat) (apart : KeysApart calls)
    {config : Configuration CacheSignature Thrown ι CacheAnswer (CacheWorld ι)}
    (reached
      : Configuration.Reachable (cacheDatabase calls elapsed) Timely (cacheCalls production calls)
          config)
    (caller : ι)
    : (calls caller).Refines (config.world.notes caller) (config.process caller) := by
  obtain ⟨phases, owed, _, noted⟩ :=
    @Configuration.Reachable.invariant _ _ _ _ _ _ (fun _ => CachePhase) _ _
      (fun caller => (calls caller).owes) (fun caller => (calls caller).SettlesWith)
      (fun phases world => AllStored calls world ∧ ∀ caller, Noted world caller (phases caller))
      (by
        rintro phases world caller call ⟨stored, noted⟩ allowed timely
        obtain ⟨next, answered, knows⟩ := Noted.step elapsed stored allowed (noted caller) timely
        refine ⟨next, answered, stored.step apart allowed (noted caller) timely, fun other => ?_⟩
        by_cases same : other = caller
        · subst same
          rw [Function.update_self]
          exact knows
        · rw [Function.update_of_ne same]
          exact (noted other).mono (notes_of_ne same call) (now_le_cacheDatabase caller call))
      _ config (fun _ => .begun) (fun caller => (calls caller).program_meets production)
      ⟨fun _ _ _ => .inl rfl, fun _ => trivial⟩ reached
  have here := owed caller
  cases left : config.process caller with
  | call op rest => trivial
  | done answer =>
      rw [left] at here
      intro lookup
      obtain ⟨_, note, ⟨⟩, held, tells⟩ := refines_of_settlesWith here (noted caller) lookup
      exact ⟨note, held, tells⟩
  | fail error =>
      rw [left] at here
      refine eq_false_of_ne_true (fun lookup => ?_)
      obtain ⟨_, _, failed, _⟩ := refines_of_settlesWith here (noted caller) lookup
      exact nomatch failed

end

/-- An entry is set and looked up for its pair. -/
def settingAndLookup : Bool → RepositoryCall
  | false => .set "task" "target" "delivery" 60
  | true => .findByCompositeKey "task" "target"

/-- The lookup reads the table when the entry has been set. -/
def lookedUp : Configuration CacheSignature Thrown Bool CacheAnswer (CacheWorld Bool) :=
  (cacheCalls false settingAndLookup).follow (cacheDatabase settingAndLookup (fun _ => 1))
    [false, false, true, true]

theorem lookups_refine_map_set
    : (settingAndLookup true).Refines (lookedUp.world.notes true) (lookedUp.process true)
      ∧ lookedUp.hasSettled true = true := by
  have apart : KeysApart settingAndLookup := by
    intro caller other _
    match caller, other with
    | false, false | false, true | true, false | true, true => rfl
  refine ⟨lookups_refine_map false settingAndLookup (fun _ => 1) apart ?_ true, by decide +kernel⟩
  exact Configuration.reachable_follow _ _ (by decide +kernel)

/-- Two lookups of an entry that expires as soon as it is set. -/
def settingAndLookups : Fin 3 → RepositoryCall
  | 0 => .set "task" "target" "delivery" 0
  | _ => .findByCompositeKey "task" "target"

/-- Both lookups read the row before one of them deletes it. -/
def bothRead : Configuration CacheSignature Thrown (Fin 3) CacheAnswer (CacheWorld (Fin 3)) :=
  (cacheCalls false settingAndLookups).follow (cacheDatabase settingAndLookups (fun _ => 0))
    [0, 0, 1, 2, 1, 2, 1, 2]

/-- The second lookup to delete an expired row throws. -/
theorem concurrent_lookup_throws
    : ¬∀ (production : Bool) (calls : Fin 3 → RepositoryCall) (elapsed : Nat → Nat),
        KeysApart calls
        → ∀ config,
            Configuration.Reachable (cacheDatabase calls elapsed) (fun _ _ _ => True)
              (cacheCalls production calls) config
            → ∀ caller,
                (calls caller).Refines (config.world.notes caller) (config.process caller) := by
  intro refines
  have apart : KeysApart settingAndLookups := by
    intro caller other _
    match caller, other with
    | 0, 0 | 0, 1 | 0, 2 | 1, 0 | 1, 1 | 1, 2 | 2, 0 | 2, 1 | 2, 2 => rfl
  have run
      : Configuration.Reachable (cacheDatabase settingAndLookups (fun _ => 0)) (fun _ _ _ => True)
          (cacheCalls false settingAndLookups) bothRead :=
    Configuration.reachable_follow _ _ (by decide +kernel)
  have truthful := refines false settingAndLookups (fun _ => 0) apart _ run 2
  have failed
      : (match bothRead.process 2 with
          | .fail _ => true
          | _ => false)
        = true := by
    decide +kernel
  cases left : bothRead.process 2 with
  | done => rw [left] at failed; exact nomatch failed
  | call => rw [left] at failed; exact nomatch failed
  | fail =>
      rw [left] at truthful
      exact nomatch truthful

end QueueForge.Infrastructure
