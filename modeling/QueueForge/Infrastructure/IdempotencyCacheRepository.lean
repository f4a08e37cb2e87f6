import Mathlib.Data.List.AList
import QueueForge.Async.Interleaving
import QueueForge.Infrastructure.DeliveryRepository
import QueueForge.Infrastructure.ExpiringMap

/-! `IdempotencyCacheRepository`: a table with lazy expiration on reads, under calls that interleave
at its queries, and the map with expiry from pairs of ids that it stands for.
-/

namespace QueueForge.Infrastructure

open QueueForge.Async QueueForge.Js

/-- A row of the cache table. -/
structure CacheRow where
  compositeKey : String
  deliveryId : String
  expiresAt : Int
  createdAt : Int
deriving DecidableEq

/-- The cache table by its primary key. -/
abbrev CacheTable : Type := AList (fun _ : String => CacheRow)

namespace CacheTable

/-- `upsert`: the row that is there gets another delivery and expiry. -/
def upsert (table : CacheTable) (now : Int) (key deliveryId : String) (expiresAt : Int)
    : CacheTable :=
  match table.lookup key with
  | some row => table.insert key { row with deliveryId, expiresAt }
  | none => table.insert key ⟨key, deliveryId, expiresAt, now⟩

/-- The rows that are left by a `deleteMany` of those that expire until some time. -/
def deleteMany (table : CacheTable) (lte : Int) : CacheTable where
  entries := table.entries.filter (fun entry => decide (lte < entry.2.expiresAt))
  nodupKeys := table.nodupKeys.sublist List.filter_sublist

theorem lookup_deleteMany (table : CacheTable) (lte : Int) (key : String)
    : (table.deleteMany lte).lookup key
      = (table.lookup key).filter (fun row => decide (lte < row.expiresAt)) := by
  ext row
  rw [Option.filter_eq_some_iff]
  exact AList.mem_lookup_iff.trans
    (List.mem_filter.trans (and_congr_left' AList.mem_lookup_iff.symm))

end CacheTable

/-- A query, or `new Date()`. -/
inductive CacheCall where
  | now
  | findUnique (key : String)
  | delete (key : String)
  | upsert (key deliveryId : String) (expiresAt : Date)
  | deleteMany (lte : Int)

abbrev CacheCall.Result : CacheCall → Type
  | now => Int
  | findUnique _ => Option CacheRow
  | delete _ => CacheRow
  | upsert _ _ _ => Unit
  | deleteMany _ => Nat

abbrev CacheSignature : Signature where
  Op := CacheCall
  Result := CacheCall.Result

abbrev CacheProgram (α : Type) : Type := Program CacheSignature Thrown α

/-- Await a query. -/
def awaitCache (call : CacheCall) : CacheProgram call.Result :=
  Program.perform (S := CacheSignature) call

/-- Prisma's error for a row to be deleted that is not there. -/
def deletedRecordNotFound : Thrown :=
  let cause := "Record to delete does not exist."
  let message :=
    "An operation failed because it depends on one or more records that were required "
      ++ "but not found. " ++ cause
  .error {
    builtinError .error "PrismaClientKnownRequestError" message with
    code := some "P2025"
    details := { cause := some cause }
  }

/-- Prisma's error for an invalid date. -/
def expiryRejected : Thrown :=
  .error
    (builtinError .error "PrismaClientValidationError"
      "Invalid value provided for argument expiresAt.")

namespace IdempotencyCacheRepository

/-- Formats the composite identifier key string. -/
def getCompositeKey (taskResultId destinationId : String) : String :=
  s!"{taskResultId}:{destinationId}"

section
variable (production : Bool)

/-- Wrapper catching database exceptions and translating to domain errors. -/
def executeQuery {α : Type} (query : CacheProgram α) : CacheProgram α :=
  query.catchError (fun error => .fail (mapDatabaseError production error))

def findUnique (key : String) : CacheProgram (Option CacheRow) :=
  executeQuery production (awaitCache (.findUnique key))

def deleteById (id : String) : CacheProgram CacheRow :=
  executeQuery production (awaitCache (.delete id))

/-- Looks up a cached record, deleting it dynamically if expired (lazy TTL). -/
def findByCompositeKey (taskResultId destinationId : String) : CacheProgram (Option CacheRow) := do
  let key := getCompositeKey taskResultId destinationId
  let found ← findUnique production key
  match found with
  | none => return none
  | some record =>
      let now : Int ← awaitCache .now
      if record.expiresAt ≤ now then
        let _ ← deleteById production key
        return none
      return some record

/-- Adds or updates a cache entry with expiry TTL tracking. -/
def set (taskResultId destinationId deliveryId : String) (ttlSeconds : Number)
    : CacheProgram Unit := do
  let key := getCompositeKey taskResultId destinationId
  let now : Int ← awaitCache .now
  let expiresAt := Date.ofNumber ((Number.ofInt now).add (ttlSeconds.mul 1000))
  executeQuery production (awaitCache (.upsert key deliveryId expiresAt))

/-- `exists`: asserts if cached entry is active and has not expired. -/
def entryExists (taskResultId destinationId : String) : CacheProgram Bool := do
  let entry ← findByCompositeKey production taskResultId destinationId
  return entry.isSome

/-- Deletes expired cache entries (cron maintenance job). -/
def deleteExpired : CacheProgram Nat := do
  let now : Int ← awaitCache .now
  executeQuery production (awaitCache (.deleteMany now))

end

end IdempotencyCacheRepository

/-- A call of the repository. -/
inductive RepositoryCall where
  | set (taskResultId destinationId deliveryId : String) (ttlSeconds : Number)
  | findByCompositeKey (taskResultId destinationId : String)
  | entryExists (taskResultId destinationId : String)
  | deleteExpired

/-- What a call resolves with. -/
inductive CacheAnswer where
  | done
  | entry (found : Option CacheRow)
  | flag (held : Bool)
  | count (deleted : Nat)

namespace RepositoryCall

def program (production : Bool) : RepositoryCall → CacheProgram CacheAnswer
  | set taskResultId destinationId deliveryId ttlSeconds =>
      (IdempotencyCacheRepository.set production taskResultId destinationId deliveryId
        ttlSeconds).bind (fun _ => .done .done)
  | findByCompositeKey taskResultId destinationId =>
      (IdempotencyCacheRepository.findByCompositeKey production taskResultId destinationId).bind
        (fun found => .done (.entry found))
  | entryExists taskResultId destinationId =>
      (IdempotencyCacheRepository.entryExists production taskResultId destinationId).bind
        (fun held => .done (.flag held))
  | deleteExpired =>
      (IdempotencyCacheRepository.deleteExpired production).bind
        (fun deleted => .done (.count deleted))

/-- The pair of ids a call is for. -/
def pair : RepositoryCall → Option (String × String)
  | set taskResultId destinationId _ _ => some (taskResultId, destinationId)
  | findByCompositeKey taskResultId destinationId => some (taskResultId, destinationId)
  | entryExists taskResultId destinationId => some (taskResultId, destinationId)
  | deleteExpired => none

def isLookup : RepositoryCall → Bool
  | findByCompositeKey _ _ => true
  | entryExists _ _ => true
  | _ => false

end RepositoryCall

/-- What a lookup should know: what the map held for its pair when it read the table, and when it
looked at the clock last.
-/
structure LookupNote where
  held : Option (String × Int)
  time : Int

/-- What the map gives for the pair: what it held, unless that has expired. -/
def LookupNote.found (note : LookupNote) : Option (String × Int) :=
  note.held.filter (fun entry => decide (note.time < entry.2))

/-- The table and the clock, the map that the sets of the pairs have made, and what each call should
know of it.
-/
structure CacheWorld (ι : Type) where
  table : CacheTable
  now : Int
  step : Nat
  entries : ExpiringMap (String × String) String Int
  notes : ι → Option LookupNote

section
variable {ι : Type} [DecidableEq ι]

/-- A query takes its time. -/
def CacheWorld.tick (elapsed : Nat → Nat) (world : CacheWorld ι) : CacheWorld ι :=
  { world with now := world.now + elapsed world.step, step := world.step + 1 }

/-- How the database answers the calls, whose sets are noted in the map. -/
def cacheDatabase (calls : ι → RepositoryCall) (elapsed : Nat → Nat) (caller : ι)
    : Handler CacheSignature Thrown (CacheWorld ι)
  | .now, world =>
      (.ok world.now,
        {
          world.tick elapsed with
          notes :=
            Function.update world.notes caller
              ((world.notes caller).map (fun note => { note with time := world.now }))
        })
  | .findUnique key, world =>
      (.ok (world.table.lookup key),
        {
          world.tick elapsed with
          notes :=
            Function.update world.notes caller
              (some ⟨(calls caller).pair.bind world.entries, world.now⟩)
        })
  | .delete key, world =>
      match world.table.lookup key with
      | some row => (.ok row, { world.tick elapsed with table := world.table.erase key })
      | none => (.error deletedRecordNotFound, world.tick elapsed)
  | .upsert key deliveryId expiresAt, world =>
      match expiresAt with
      | some expiry =>
          (.ok (),
            {
              world.tick elapsed with
              table := world.table.upsert world.now key deliveryId expiry
              entries :=
                match (calls caller).pair with
                | some pair => world.entries.insert pair deliveryId expiry
                | none => world.entries
            })
      | none => (.error expiryRejected, world.tick elapsed)
  | .deleteMany lte, world =>
      let left := world.table.deleteMany lte
      (.ok (world.table.entries.length - left.entries.length),
        { world.tick elapsed with table := left })

/-- A lookup deletes a row that is still there and has expired. -/
def Timely (world : CacheWorld ι) (_ : ι) : CacheCall → Prop
  | .delete key =>
      (world.table.lookup key).any (fun row => decide (row.expiresAt ≤ world.now)) = true
  | _ => True

instance (world : CacheWorld ι) (caller : ι) (call : CacheCall)
    : Decidable (Timely world caller call) :=
  match call with
  | .delete _ => inferInstanceAs (Decidable (_ = true))
  | .now => isTrue trivial
  | .findUnique _ => isTrue trivial
  | .upsert _ _ _ => isTrue trivial
  | .deleteMany _ => isTrue trivial

end

def CacheRow.entry (row : CacheRow) : String × Int :=
  (row.deliveryId, row.expiresAt)

/-- An answer tells whether the map gives an entry for the pair, and which one. -/
def CacheAnswer.Tells (found : Option (String × Int)) : CacheAnswer → Prop
  | .entry row => row.map CacheRow.entry = found
  | .flag held => held = found.isSome
  | _ => False

/-- A lookup does not throw, and what it resolves with is what the map gives for its pair. -/
def RepositoryCall.Refines (call : RepositoryCall) (note : Option LookupNote)
    : CacheProgram CacheAnswer → Prop
  | .done answer => call.isLookup = true → ∃ known, note = some known ∧ answer.Tells known.found
  | .fail _ => call.isLookup = false
  | .call _ _ => True

/-- All calls before their first query, on an empty table. -/
def cacheCalls {ι : Type} (production : Bool) (calls : ι → RepositoryCall)
    : Configuration CacheSignature Thrown ι CacheAnswer (CacheWorld ι) where
  process caller := (calls caller).program production
  world := { table := ∅, now := 0, step := 0, entries := .empty, notes := fun _ => none }

end QueueForge.Infrastructure
