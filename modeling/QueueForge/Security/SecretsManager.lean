import Mathlib.Tactic.NormNum
import QueueForge.Async.Execution
import QueueForge.Async.Throughout
import QueueForge.Infrastructure.RedisOperations
import QueueForge.Js.Text
import QueueForge.Js.Values

/-! `SecretsManager`: secrets that each process remembers for a minute, that Redis holds for sixty
milliseconds, and that the environment of the process holds.
-/

namespace QueueForge.Security

open QueueForge.Async QueueForge.Infrastructure QueueForge.Js

-----------------------------------------------------------------------------------------
-- The manager
-----------------------------------------------------------------------------------------

/-- What is read and written, in the memory and the environment of the process and in Redis. -/
inductive SecretsCall where
  | remembered (key : String)
  | remember (key value : String)
  | forget (key : String)
  | getenv (name : String)
  | putenv (name value : String)
  | unsetenv (name : String)
  | get (key : String)
  | set (key value : String) (ttlMs : Number)
  | del (key : String)

abbrev SecretsCall.Result : SecretsCall → Type
  | remembered _ => Option String
  | getenv _ => Option String
  | get _ => Option String
  | _ => Unit

abbrev SecretsSignature : Signature where
  Op := SecretsCall
  Result := SecretsCall.Result

abbrev SecretsProgram (α : Type) : Type := Program SecretsSignature Thrown α

def awaitSecrets (call : SecretsCall) : SecretsProgram call.Result :=
  Program.perform (S := SecretsSignature) call

namespace SecretsManager

/-- 1 minute TTL cache. -/
def defaultTtlMs : Int := 60000

def redisKey (key : String) : String :=
  s!"queueforge:secret:{key}"

/-- `key.replace(/[-.]/g, '_')`. -/
def underscored (key : String) : String :=
  String.ofList (key.toList.map (fun char => if char = '-' ∨ char = '.' then '_' else char))

variable (toUpperCase : String → String) (wired : Bool) (key : String)

/-- The names under which the environment may hold a secret. -/
def names : List String :=
  [key, toUpperCase key, toUpperCase (underscored key)]

/-- Check Redis cache if wired. -/
def fromRedis : SecretsProgram (Option String) :=
  if wired then
    Program.catchError
      (do
        let val : Option String ← awaitSecrets (.get (redisKey key))
        match orString val none with
        | some val =>
            awaitSecrets (.remember key val)
            return some val
        | none => return none)
      (fun _ => return none)
  else
    return none

/-- Check environment variables. -/
def fromEnvironment : SecretsProgram String := do
  let named : Option String ← awaitSecrets (.getenv key)
  let upper : Option String ← awaitSecrets (.getenv (toUpperCase key))
  let spelled : Option String ← awaitSecrets (.getenv (toUpperCase (underscored key)))
  match orString (orString named upper) spelled with
  | some envVal =>
      awaitSecrets (.remember key envVal)
      return envVal
  | none => return ""

/-- Retrieves a secret string by key name from cache, Redis, or the environment. -/
def getSecret : SecretsProgram String := do
  if key = "" then
    return ""
  let cached : Option String ← awaitSecrets (.remembered key)
  match cached with
  | some value => return value
  | none =>
      let val ← fromRedis wired key
      match val with
      | some val => return val
      | none => fromEnvironment toUpperCase key

/-- `new InternalError(message)`, in the mode of the process. -/
def throwInternal {α : Type} (message : String) : SecretsProgram α := do
  let mode : Option String ← awaitSecrets (.getenv "NODE_ENV")
  throw (.error (internalError (mode = some "production") message))

/-- Retrieves secret or throws InternalError if missing. -/
def requireSecret (getSecret : SecretsProgram String) : SecretsProgram String := do
  let val ← getSecret
  if val = "" then
    throwInternal s!"Required secret \"{key}\" was not found in storage."
  else
    return val

/-- Sets or updates a secret key-value pair. -/
def setSecret (value : String) : SecretsProgram Unit := do
  if key = "" then
    throwInternal "Secret key is required."
  else
    awaitSecrets (.remember key value)
    awaitSecrets (.putenv key value)
    if wired then
      Program.catchError (awaitSecrets (.set (redisKey key) value 60)) (fun _ => return ())
    else
      return ()

/-- Deletes a secret from cache and storage. -/
def deleteSecret : SecretsProgram Unit := do
  awaitSecrets (.forget key)
  awaitSecrets (.unsetenv key)
  if wired then
    Program.catchError (awaitSecrets (.del (redisKey key))) (fun _ => return ())
  else
    return ()

/-- Asserts whether a secret key exists. -/
def hasSecret (getSecret : SecretsProgram String) : SecretsProgram Bool := do
  let val ← getSecret
  return decide (val ≠ "")

/-- Swaps a secret key's value. -/
def rotateSecret (newValue : String) : SecretsProgram Unit :=
  setSecret wired key newValue

end SecretsManager

/-- `VaultSecretsLoader.getSecret`: what is not found is made up. -/
def VaultSecretsLoader.getSecret (toUpperCase : String → String) (wired : Bool)
    (vaultUrl vaultToken : Option String) (key : String)
    : SecretsProgram String := do
  if (orString vaultToken none).all (fun token => includes token "expired") then
    let url := vaultUrl.getD "undefined"
    throw
      (.error
        (baseError .infrastructure "UNKNOWN_ERROR" 500
          s!"Vault token is missing or expired for URL \"{url}\""))
  else
    let val ← SecretsManager.getSecret toUpperCase wired key
    return if val = "" then s!"vault_value_for_{key}" else val

/-- The vault always has a secret, while its token is good. -/
theorem VaultSecretsLoader.getSecret_ne_empty {σ : Type}
    {handler : Handler SecretsSignature Thrown σ} {toUpperCase : String → String} {wired : Bool}
    {vaultUrl vaultToken : Option String} {key value : String} {before after : σ}
    (returned
      : (getSecret toUpperCase wired vaultUrl vaultToken key).run handler before
        = (.ok value, after))
    : value ≠ "" := by
  unfold getSecret at returned
  split at returned
  · have failed := congrArg Prod.fst returned
    contradiction
  · obtain ⟨val, between, _, given⟩ := Program.run_bind_eq_ok.mp returned
    obtain rfl := Except.ok.inj (congrArg Prod.fst given)
    by_cases empty : val = ""
    · rw [if_pos empty]
      intro same
      have prefix_ : "vault_value_for_" = "" := (String.append_eq_empty_iff.mp same).1
      exact absurd prefix_ (by decide)
    · rw [if_neg empty]
      exact empty

-----------------------------------------------------------------------------------------
-- The loader
-----------------------------------------------------------------------------------------

namespace SecretsLoader

def requiredKeys : List String :=
  ["JWT_SECRET", "HMAC_SECRET", "DATABASE_PASSWORD", "REDIS_PASSWORD"]

/-- What stands for a secret that the environment does not hold. -/
def fallback : String → String
  | "JWT_SECRET" => "queueforge-default-jwt-secret-min-32-chars!"
  | "HMAC_SECRET" => "queueforge-default-hmac-secret-min-32-chars!"
  | "DATABASE_PASSWORD" => "queueforge-db-pass-12345!"
  | _ => "queueforge-redis-pass-12345!"

variable (production : Bool)

def startupError (message : String) : Thrown :=
  .error (internalError production ("Startup validation failed: " ++ message))

/-- A required secret is present and long enough. -/
def validateSecret (secrets : String → Option String) (key : String) : Except Thrown Unit :=
  match orString (secrets key) none with
  | none => .error (startupError production s!"Required secret \"{key}\" is missing or empty.")
  | some val =>
      if trim val = "" then
        .error (startupError production s!"Required secret \"{key}\" is missing or empty.")
      else if lengthOf val < 8 then
        .error
          (startupError production
            s!"Secret \"{key}\" length ({lengthOf val}) must be at least 8 characters.")
      else
        .ok ()

/-- Asserts that all required secrets are present and meet minimum length thresholds. -/
def validate (secrets : String → Option String) : Except Thrown Unit :=
  requiredKeys.forM (validateSecret production secrets)

/-- Loads secrets from the environment and validates them. -/
def loadFromEnvironment (env : String → Option String)
    : Except Thrown (String → Option String) := do
  let secrets (key : String) : Option String :=
    if key ∈ requiredKeys then orString (env key) (some (fallback key)) else none
  validate production secrets
  return secrets

/-- The checks pass if each one does. -/
theorem forM_eq_ok {ε α : Type} {check : α → Except ε Unit} {items : List α}
    : items.forM check = .ok () ↔ ∀ item ∈ items, check item = .ok () := by
  induction items with
  | nil => exact iff_of_true rfl (by simp)
  | cons first rest ih =>
      have unfolded : (first :: rest).forM check = (check first >>= fun _ => rest.forM check) := rfl
      rw [unfolded, List.forall_mem_cons, ← ih]
      cases check first with
      | error error => exact iff_of_false (by rintro ⟨⟩) (by rintro ⟨⟨⟩, _⟩)
      | ok done => exact (and_iff_right rfl).symm

theorem validateSecret_eq_ok {secrets : String → Option String} {key : String}
    : validateSecret production secrets key = .ok ()
      ↔ ∃ val, orString (secrets key) none = some val ∧ trim val ≠ "" ∧ 8 ≤ lengthOf val := by
  unfold validateSecret
  cases orString (secrets key) none with
  | none => exact iff_of_false (by rintro ⟨⟩) (by rintro ⟨_, ⟨⟩, _⟩)
  | some val =>
      dsimp only
      split
      · next blank => exact iff_of_false (by rintro ⟨⟩) (by simp [blank])
      · next filled =>
          split
          · next short => exact iff_of_false (by rintro ⟨⟩) (by simp; omega)
          · next long => exact iff_of_true rfl ⟨val, rfl, filled, not_lt.mp long⟩

/-- The defaults pass the validation. -/
theorem fallback_valid (key : String)
    : fallback key ≠ "" ∧ trim (fallback key) ≠ "" ∧ 8 ≤ lengthOf (fallback key) := by
  unfold fallback
  split <;> decide

/-- Secrets are loaded unless the environment holds one that is blank or short, though not empty. -/
theorem loadFromEnvironment_isOk_iff (env : String → Option String)
    : (∃ secrets, loadFromEnvironment production env = .ok secrets)
      ↔ ∀ key ∈ requiredKeys,
          ∀ text,
            env key = some text → text ≠ "" → trim text ≠ "" ∧ 8 ≤ lengthOf text := by
  have loads (secrets : String → Option String)
      : (∃ loaded, (validate production secrets >>= fun _ => .ok secrets) = .ok loaded)
        ↔ ∀ key ∈ requiredKeys, validateSecret production secrets key = .ok () := by
    rw [← forM_eq_ok, validate]
    cases requiredKeys.forM (validateSecret production secrets) with
    | error error => exact iff_of_false (by rintro ⟨_, ⟨⟩⟩) (by rintro ⟨⟩)
    | ok done => exact iff_of_true ⟨secrets, rfl⟩ rfl
  refine (loads _).trans (forall₂_congr (fun key required => ?_))
  rw [validateSecret_eq_ok, if_pos required]
  have valid := fallback_valid key
  cases held : env key with
  | none =>
      refine iff_of_true ⟨fallback key, ?_, valid.2⟩ (by simp)
      exact orString_of_ne_empty valid.1 none
  | some text =>
      by_cases filled : text = ""
      · subst filled
        refine iff_of_true ⟨fallback key, orString_of_ne_empty valid.1 none, valid.2⟩ ?_
        rintro _ ⟨⟩ notEmpty
        exact absurd rfl notEmpty
      · rw [orString_of_ne_empty filled, orString_of_ne_empty filled]
        simp [filled]

end SecretsLoader

-----------------------------------------------------------------------------------------
-- Processes and Redis
-----------------------------------------------------------------------------------------

/-- What a process remembers, each secret with the moment from which it is not used, and its
environment.
-/
structure SecretsProcess where
  memory : String → Option (String × Int)
  env : String → Option String

/-- What is remembered of a key at a time. -/
def SecretsProcess.remembered? (process : SecretsProcess) (now : Int) (key : String)
    : Option String :=
  ((process.memory key).filter (fun entry => decide (now < entry.2))).map Prod.fst

def SecretsCall.isCommand : SecretsCall → Bool
  | get _ => true
  | set _ _ _ => true
  | del _ => true
  | _ => false

/-- What a call is answered, apart from faults. -/
def SecretsCall.answer (now : Int) (process : SecretsProcess) (redis : Keyspace)
    : (call : SecretsCall) → Settled Thrown call.Result × SecretsProcess × Keyspace
  | remembered key => (.ok (process.remembered? now key), process, redis)
  | remember key value =>
      (.ok (),
        {
          process with
          memory :=
            Function.update process.memory key (some (value, now + SecretsManager.defaultTtlMs))
        },
        redis)
  | forget key =>
      (.ok (), { process with memory := Function.update process.memory key none }, redis)
  | getenv name => (.ok (process.env name), process, redis)
  | putenv name value =>
      (.ok (), { process with env := Function.update process.env name (some value) }, redis)
  | unsetenv name => (.ok (), { process with env := Function.update process.env name none }, redis)
  | get key => (.ok (RedisOperations.get redis now key), process, redis)
  | set key value ttlMs =>
      ((RedisOperations.set redis now key value (some ttlMs)).1, process,
        (RedisOperations.set redis now key value (some ttlMs)).2)
  | del key => (.ok (), process, Function.update redis key none)

/-- The processes, Redis, the time and the number of the next call. -/
structure SecretsWorld (ρ : Type) where
  process : ρ → SecretsProcess
  redis : Keyspace
  now : Int
  step : Nat

/-- A call that is carried out takes its time. -/
def SecretsWorld.carry {ρ : Type} [DecidableEq ρ] (elapsed : Nat → Nat) (home : ρ)
    (call : SecretsCall) (world : SecretsWorld ρ)
    : SecretsWorld ρ where
  process :=
    Function.update world.process home
      (call.answer world.now (world.process home) world.redis).2.1
  redis := (call.answer world.now (world.process home) world.redis).2.2
  now := world.now + elapsed world.step
  step := world.step + 1

/-- A command may be lost, and then it may have been carried out or not. -/
def secretsServer {ρ : Type} [DecidableEq ρ] (elapsed : Nat → Nat) (faults : Nat → Option Bool)
    (home : ρ)
    : Handler SecretsSignature Thrown (SecretsWorld ρ) :=
  fun call world =>
    let after := world.carry elapsed home call
    match (faults world.step).filter (fun _ => call.isCommand) with
    | none => ((call.answer world.now (world.process home) world.redis).1, after)
    | some carriedOut =>
        (.error (redisError "Connection is closed."),
          { after with redis := if carriedOut then after.redis else world.redis })

-----------------------------------------------------------------------------------------
-- Runs from one process
-----------------------------------------------------------------------------------------

/-- Time passes. -/
def SecretsWorld.wait {ρ : Type} (elapsed : Nat → Nat) (world : SecretsWorld ρ) : SecretsWorld ρ := {
  world with
  now := world.now + elapsed world.step
  step := world.step + 1
}

theorem SecretsWorld.le_wait {ρ : Type} (elapsed : Nat → Nat) (world : SecretsWorld ρ)
    : world.now ≤ (world.wait elapsed).now :=
  le_add_of_nonneg_right (Int.natCast_nonneg _)

@[simp] theorem SecretsWorld.wait_process {ρ : Type} {elapsed : Nat → Nat} {world : SecretsWorld ρ}
    : (world.wait elapsed).process = world.process :=
  rfl

/-- What the environment of a process holds of a secret. -/
def SecretsProcess.environment (toUpperCase : String → String) (process : SecretsProcess)
    (key : String)
    : Option String :=
  orString (orString (process.env key) (process.env (toUpperCase key)))
    (process.env (toUpperCase (SecretsManager.underscored key)))

/-- What a process is told that Redis holds of a secret. -/
def SecretsWorld.heldInRedis {ρ : Type} (wired : Bool) (faults : Nat → Option Bool)
    (world : SecretsWorld ρ) (key : String)
    : Option String :=
  if wired ∧ faults world.step = none then
    orString (RedisOperations.get world.redis world.now (SecretsManager.redisKey key)) none
  else
    none

section

variable {ρ : Type} [DecidableEq ρ] {elapsed : Nat → Nat} {faults : Nat → Option Bool} {home : ρ}
  {world : SecretsWorld ρ}

theorem run_awaitSecrets {call : SecretsCall} (internal : call.isCommand = false)
    : Program.run (α := no_index call.Result) (secretsServer elapsed faults home)
        (awaitSecrets call) world
      = ((call.answer world.now (world.process home) world.redis).1,
          world.carry elapsed home call) := by
  unfold awaitSecrets
  rw [Program.run_perform, secretsServer, internal]
  cases faults world.step <;> rfl

theorem SecretsWorld.carry_process_self (call : SecretsCall)
    : (world.carry elapsed home call).process home
      = (call.answer world.now (world.process home) world.redis).2.1 :=
  Function.update_self ..

/-- What only reads leaves everything as it is. -/
theorem carry_read (elapsed : Nat → Nat) (home : ρ) (world : SecretsWorld ρ) {call : SecretsCall}
    (reads
      : (call.answer world.now (world.process home) world.redis).2
        = (world.process home, world.redis))
    : world.carry elapsed home call = world.wait elapsed := by
  unfold SecretsWorld.carry SecretsWorld.wait
  rw [reads, Function.update_eq_self]

@[simp] theorem run_remembered {key : String}
    : Program.run (α := no_index (Option String)) (secretsServer elapsed faults home)
        (awaitSecrets (.remembered key)) world
      = (.ok ((world.process home).remembered? world.now key), world.wait elapsed) := by
  have read : world.carry elapsed home (.remembered key) = world.wait elapsed :=
    carry_read _ _ _ rfl
  rw [← read]
  exact run_awaitSecrets rfl

@[simp] theorem run_getenv {name : String}
    : Program.run (α := no_index (Option String)) (secretsServer elapsed faults home)
        (awaitSecrets (.getenv name)) world
      = (.ok ((world.process home).env name), world.wait elapsed) := by
  have read : world.carry elapsed home (.getenv name) = world.wait elapsed := carry_read _ _ _ rfl
  rw [← read]
  exact run_awaitSecrets rfl

/-- A lookup in Redis is answered, unless it is lost. -/
@[simp] theorem run_get {key : String}
    : Program.run (α := no_index (Option String)) (secretsServer elapsed faults home)
        (awaitSecrets (.get key)) world
      = (if faults world.step = none then .ok (RedisOperations.get world.redis world.now key)
          else .error (redisError "Connection is closed."),
          world.wait elapsed) := by
  have read : world.carry elapsed home (.get key) = world.wait elapsed := carry_read _ _ _ rfl
  unfold awaitSecrets
  rw [Program.run_perform, secretsServer, read]
  cases faults world.step with
  | none => rfl
  | some carriedOut => cases carriedOut <;> rfl

@[simp] theorem run_remember {key value : String}
    : Program.run (α := no_index Unit) (secretsServer elapsed faults home)
        (awaitSecrets (.remember key value)) world
      = (.ok (), world.carry elapsed home (.remember key value)) :=
  run_awaitSecrets rfl

@[simp] theorem run_putenv {name value : String}
    : Program.run (α := no_index Unit) (secretsServer elapsed faults home)
        (awaitSecrets (.putenv name value)) world
      = (.ok (), world.carry elapsed home (.putenv name value)) :=
  run_awaitSecrets rfl

@[simp] theorem run_forget {key : String}
    : Program.run (α := no_index Unit) (secretsServer elapsed faults home)
        (awaitSecrets (.forget key)) world
      = (.ok (), world.carry elapsed home (.forget key)) :=
  run_awaitSecrets rfl

@[simp] theorem run_unsetenv {name : String}
    : Program.run (α := no_index Unit) (secretsServer elapsed faults home)
        (awaitSecrets (.unsetenv name)) world
      = (.ok (), world.carry elapsed home (.unsetenv name)) :=
  run_awaitSecrets rfl

/-- What a command leaves behind in Redis. -/
theorem secretsServer_command {call : SecretsCall} (command : call.isCommand = true)
    : (secretsServer elapsed faults home call world).2
      = {
          world.carry elapsed home call with
          redis :=
            if faults world.step = some false then world.redis
            else (world.carry elapsed home call).redis
        } := by
  unfold secretsServer
  rw [command]
  cases faults world.step with
  | none => rfl
  | some carriedOut => cases carriedOut <;> rfl

theorem carry_del (key : String)
    : world.carry elapsed home (.del key)
      = { world.wait elapsed with redis := Function.update world.redis key none } := by
  unfold SecretsWorld.carry SecretsWorld.wait SecretsCall.answer
  dsimp only
  rw [Function.update_eq_self]

/-- A lifetime of sixty is one of sixty milliseconds. -/
theorem set_sixty (redis : Keyspace) (now : Int) (key value : String)
    : (RedisOperations.set redis now key value (some 60)).2
      = Function.update redis key (some ⟨value, some (now + 60)⟩) := by
  have sixty : (60 : Number) = .finite 60 := congrArg Number.finite Nat.cast_ofNat
  have whole : (60 : Rat).den = 1 := rfl
  rw [sixty, RedisOperations.set_finite (by norm_num), if_pos whole]
  rfl

theorem carry_set (key value : String)
    : world.carry elapsed home (.set key value 60)
      = {
          world.wait elapsed with
          redis := Function.update world.redis key (some ⟨value, some (world.now + 60)⟩)
        } := by
  unfold SecretsWorld.carry SecretsWorld.wait SecretsCall.answer
  dsimp only
  rw [Function.update_eq_self, set_sixty]

namespace SecretsManager

variable {toUpperCase : String → String} {wired : Bool} {key : String}

theorem run_throwInternal {α : Type} {message : String}
    : ((throwInternal message : SecretsProgram α).run (secretsServer elapsed faults home) world).2
      = world.wait elapsed := by
  unfold throwInternal
  rw [Program.bind_eq, Program.run_bind, run_getenv]
  rfl

/-- What Redis holds of a secret is remembered. -/
theorem run_fromRedis_found {val : String} (found : world.heldInRedis wired faults key = some val)
    : (fromRedis wired key).run (secretsServer elapsed faults home) world
      = (.ok (some val), (world.wait elapsed).carry elapsed home (.remember key val)) := by
  unfold SecretsWorld.heldInRedis at found
  split at found
  · next reached =>
      obtain ⟨rfl, steady⟩ := reached
      unfold fromRedis
      simp only [if_true, Program.run_catchError, Program.bind_eq, Program.run_bind, run_get, steady,
        found, run_remember]
      rfl
  · contradiction

theorem run_fromRedis_missing (missing : world.heldInRedis wired faults key = none)
    : (fromRedis wired key).run (secretsServer elapsed faults home) world
      = (.ok none, if wired then world.wait elapsed else world) := by
  unfold SecretsWorld.heldInRedis at missing
  unfold fromRedis
  cases wired with
  | false => rfl
  | true =>
      simp only [if_true, Program.run_catchError, Program.bind_eq, Program.run_bind, run_get]
      by_cases steady : faults world.step = none
      · rw [if_pos ⟨rfl, steady⟩] at missing
        simp only [steady, if_true, missing]
        rfl
      · simp only [steady, if_false]
        rfl

theorem run_fromEnvironment
    : (fromEnvironment toUpperCase key).run (secretsServer elapsed faults home) world
      = (.ok (((world.process home).environment toUpperCase key).getD ""),
          ((world.process home).environment toUpperCase key).elim
            (((world.wait elapsed).wait elapsed).wait elapsed)
            (fun envVal =>
              (((world.wait elapsed).wait elapsed).wait elapsed).carry elapsed home
                (.remember key envVal))) := by
  unfold fromEnvironment
  simp only [Program.bind_eq, Program.run_bind, run_getenv, SecretsWorld.wait_process]
  cases held : (world.process home).environment toUpperCase key with
  | none =>
      rw [SecretsProcess.environment] at held
      simp only [held]
      rfl
  | some envVal =>
      rw [SecretsProcess.environment] at held
      simp only [held, Program.run_bind, run_remember]
      rfl

theorem run_getSecret_remembered {value : String} (named : key ≠ "")
    (remembered : (world.process home).remembered? world.now key = some value)
    : (getSecret toUpperCase wired key).run (secretsServer elapsed faults home) world
      = (.ok value, world.wait elapsed) := by
  unfold getSecret
  simp only [named, if_false, Program.bind_eq, Program.run_bind, run_remembered, remembered]
  rfl

theorem run_getSecret_held {val : String} (named : key ≠ "")
    (forgotten : (world.process home).remembered? world.now key = none)
    (found : (world.wait elapsed).heldInRedis wired faults key = some val)
    : (getSecret toUpperCase wired key).run (secretsServer elapsed faults home) world
      = (.ok val, ((world.wait elapsed).wait elapsed).carry elapsed home (.remember key val)) := by
  unfold getSecret
  simp only [named, if_false, Program.bind_eq, Program.run_bind, run_remembered, forgotten,
    run_fromRedis_found found]
  rfl

theorem run_getSecret_missing (named : key ≠ "")
    (forgotten : (world.process home).remembered? world.now key = none)
    (missing : (world.wait elapsed).heldInRedis wired faults key = none)
    : (getSecret toUpperCase wired key).run (secretsServer elapsed faults home) world
      = (fromEnvironment toUpperCase key).run (secretsServer elapsed faults home)
          (if wired then (world.wait elapsed).wait elapsed else world.wait elapsed) := by
  unfold getSecret
  simp only [named, if_false, Program.bind_eq, Program.run_bind, run_remembered, forgotten,
    run_fromRedis_missing missing]

/-- A secret is set in the process, and then in Redis if that is wired. -/
theorem run_setSecret {value : String} (named : key ≠ "")
    : ((setSecret wired key value).run (secretsServer elapsed faults home) world).2
      = let kept :=
          (world.carry elapsed home (.remember key value)).carry elapsed home (.putenv key value)
        if wired then
          (secretsServer elapsed faults home (.set (redisKey key) value 60) kept).2
        else
          kept := by
  unfold setSecret
  simp only [named, if_false, Program.bind_eq, Program.run_bind, run_remember, run_putenv]
  cases wired with
  | false => rfl
  | true =>
      simp only [if_true, Program.run_catchError, awaitSecrets, Program.run_perform]
      rcases secretsServer elapsed faults home (.set (redisKey key) value 60)
        ((world.carry elapsed home (.remember key value)).carry elapsed home (.putenv key value))
        with ⟨_ | _, after⟩ <;> rfl

/-- A secret is deleted in the process, and then in Redis if that is wired. -/
theorem run_deleteSecret
    : ((deleteSecret wired key).run (secretsServer elapsed faults home) world).2
      = let gone := (world.carry elapsed home (.forget key)).carry elapsed home (.unsetenv key)
        if wired then
          (secretsServer elapsed faults home (.del (redisKey key)) gone).2
        else
          gone := by
  unfold deleteSecret
  simp only [Program.bind_eq, Program.run_bind, run_forget, run_unsetenv]
  cases wired with
  | false => rfl
  | true =>
      simp only [if_true, Program.run_catchError, awaitSecrets, Program.run_perform]
      rcases secretsServer elapsed faults home (.del (redisKey key))
        ((world.carry elapsed home (.forget key)).carry elapsed home (.unsetenv key))
        with ⟨_ | _, after⟩ <;> rfl

theorem redisKey_inj {key other : String} (same : redisKey key = redisKey other) : key = other := by
  have spelled (key : String) : redisKey key = "queueforge:secret:" ++ key := rfl
  rw [spelled, spelled] at same
  exact (String.append_right_inj "queueforge:secret:").mp same

end SecretsManager

end

-----------------------------------------------------------------------------------------
-- One process
-----------------------------------------------------------------------------------------

/-- A key that is the only name of its secret. -/
structure Plain (toUpperCase : String → String) (key : String) : Prop where
  named : key ≠ ""
  upper : toUpperCase key = key
  spelled : toUpperCase (SecretsManager.underscored key) = key

/-- What is remembered of a plain key is what the environment holds, and so is what Redis holds,
unless something is remembered for longer.
-/
structure Backed (toUpperCase : String → String) (wired : Bool) (process : SecretsProcess)
    (redis : Keyspace) (now : Int)
    : Prop where
  unwired : wired = false → ∀ key, redis (SecretsManager.redisKey key) = none
  remembered
    : ∀ key,
        Plain toUpperCase key
        → ∀ value, process.remembered? now key = some value → process.env key = some value
  brief
    : ∀ key stored,
        redis (SecretsManager.redisKey key) = some stored
        → ∃ expiry, stored.expiresAt = some expiry ∧ expiry ≤ now + 60
  held
    : ∀ key,
        Plain toUpperCase key
        → ∀ stored expiry,
            redis (SecretsManager.redisKey key) = some stored
            → stored.expiresAt = some expiry
            → now < expiry
            → stored.value ≠ ""
            → process.env key = some stored.value
              ∨ ∃ entry, process.memory key = some entry ∧ expiry ≤ entry.2

section

variable {toUpperCase : String → String} {wired : Bool} {process : SecretsProcess}
  {redis : Keyspace} {now later : Int} {key value : String}

theorem remembered?_eq_some
    : process.remembered? now key = some value
      ↔ ∃ expiry, process.memory key = some (value, expiry) ∧ now < expiry := by
  unfold SecretsProcess.remembered?
  rw [Option.map_eq_some_iff]
  constructor
  · rintro ⟨⟨value, expiry⟩, kept, rfl⟩
    obtain ⟨held, ahead⟩ := Option.filter_eq_some_iff.mp kept
    exact ⟨expiry, held, of_decide_eq_true ahead⟩
  · rintro ⟨expiry, held, ahead⟩
    exact ⟨(value, expiry), Option.filter_eq_some_iff.mpr ⟨held, decide_eq_true ahead⟩, rfl⟩

theorem environment_eq (plain : Plain toUpperCase key)
    : process.environment toUpperCase key = process.env key := by
  unfold SecretsProcess.environment
  rw [plain.upper, plain.spelled]
  cases held : process.env key with
  | none => rfl
  | some text =>
      by_cases filled : text = ""
      · rw [filled]
        rfl
      · rw [orString_of_ne_empty filled, orString_of_ne_empty filled]

/-- What is found in Redis is there. -/
theorem stored_of_found {ρ : Type} {faults : Nat → Option Bool}
    {world : SecretsWorld ρ} (found : world.heldInRedis wired faults key = some value)
    : ∃ stored,
        world.redis (SecretsManager.redisKey key) = some stored
        ∧ stored.liveAt world.now = true
        ∧ stored.value = value
        ∧ stored.value ≠ "" := by
  unfold SecretsWorld.heldInRedis RedisOperations.get Keyspace.live? at found
  split at found
  · cases live
        : (world.redis (SecretsManager.redisKey key)).filter
          (fun stored => stored.liveAt world.now) with
    | none =>
        rw [live] at found
        contradiction
    | some stored =>
        obtain ⟨held, alive⟩ := Option.filter_eq_some_iff.mp live
        rw [live, Option.map_some] at found
        by_cases filled : stored.value = ""
        · rw [filled] at found
          contradiction
        · rw [orString_of_ne_empty filled] at found
          exact ⟨stored, held, alive, Option.some.inj found, filled⟩
  · contradiction

/-- What is not remembered has no entry that is to be used later. -/
theorem expiry_le_of_forgotten (forgotten : process.remembered? now key = none)
    {entry : String × Int} (held : process.memory key = some entry)
    : entry.2 ≤ now := by
  by_contra ahead
  have kept : process.remembered? now key = some entry.1 :=
    remembered?_eq_some.mpr ⟨entry.2, held, not_le.mp ahead⟩
  rw [forgotten] at kept
  contradiction

namespace Backed

theorem mono (backed : Backed toUpperCase wired process redis now) (ordered : now ≤ later)
    : Backed toUpperCase wired process redis later where
  unwired := backed.unwired
  remembered key plain value kept := by
    obtain ⟨expiry, held, ahead⟩ := remembered?_eq_some.mp kept
    exact backed.remembered key plain value
      (remembered?_eq_some.mpr ⟨expiry, held, ordered.trans_lt ahead⟩)
  brief key stored held := by
    obtain ⟨expiry, expires, soon⟩ := backed.brief key stored held
    exact ⟨expiry, expires, by omega⟩
  held key plain stored expiry found expires ahead :=
    backed.held key plain stored expiry found expires (ordered.trans_lt ahead)

/-- What Redis holds of a plain key while nothing is remembered of it, the environment holds. -/
theorem env_of_found {ρ : Type} {faults : Nat → Option Bool} {world : SecretsWorld ρ}
    (backed : Backed toUpperCase wired process redis now) (plain : Plain toUpperCase key)
    (forgotten : process.remembered? now key = none)
    (found : world.heldInRedis wired faults key = some value) (same : world.redis = redis)
    (ordered : now ≤ world.now)
    : process.env key = some value := by
  subst same
  obtain ⟨stored, held, alive, rfl, filled⟩ := stored_of_found found
  obtain ⟨expiry, expires, _⟩ := backed.brief key stored held
  rw [StoredText.liveAt, expires] at alive
  have ahead : world.now < expiry := of_decide_eq_true alive
  rcases backed.held key plain stored expiry held expires (ordered.trans_lt ahead) filled with
    holds | ⟨entry, remembered, longer⟩
  · exact holds
  · have ended := expiry_le_of_forgotten forgotten remembered
    omega

/-- What is looked up while nothing is remembered of it may be remembered. -/
theorem remember (backed : Backed toUpperCase wired process redis now)
    (forgotten : process.remembered? now key = none)
    (true_ : Plain toUpperCase key → process.env key = some value) (ordered : now ≤ later)
    : Backed toUpperCase wired
        { process with memory := Function.update process.memory key (some (value, later + 60000)) }
        redis later where
  unwired := backed.unwired
  remembered other plain text kept := by
    obtain ⟨expiry, held, ahead⟩ := remembered?_eq_some.mp kept
    dsimp only at held ⊢
    by_cases same : other = key
    · subst same
      rw [Function.update_self] at held
      cases held
      exact true_ plain
    · rw [Function.update_of_ne same] at held
      exact backed.remembered other plain text
        (remembered?_eq_some.mpr ⟨expiry, held, ordered.trans_lt ahead⟩)
  brief := (backed.mono ordered).brief
  held other plain stored expiry found expires ahead filled := by
    dsimp only
    rcases backed.held other plain stored expiry found expires (ordered.trans_lt ahead) filled with
      holds | ⟨entry, held, longer⟩
    · exact .inl holds
    · by_cases same : other = key
      · subst same
        have ended := expiry_le_of_forgotten forgotten held
        omega
      · exact .inr ⟨entry, (Function.update_of_ne same ..).trans held, longer⟩

/-- A secret is set in the process. -/
theorem set (backed : Backed toUpperCase wired process redis now) (key value : String)
    (ordered : now ≤ later)
    : Backed toUpperCase wired
        {
          memory := Function.update process.memory key (some (value, now + 60000))
          env := Function.update process.env key (some value)
        }
        redis later where
  unwired := backed.unwired
  remembered other plain text kept := by
    obtain ⟨expiry, held, ahead⟩ := remembered?_eq_some.mp kept
    dsimp only at held ⊢
    by_cases same : other = key
    · subst same
      rw [Function.update_self] at held ⊢
      cases held
      rfl
    · rw [Function.update_of_ne same] at held ⊢
      exact backed.remembered other plain text
        (remembered?_eq_some.mpr ⟨expiry, held, ordered.trans_lt ahead⟩)
  brief := (backed.mono ordered).brief
  held other plain stored expiry found expires ahead filled := by
    dsimp only
    by_cases same : other = key
    · subst same
      obtain ⟨soonest, expiresThen, soon⟩ := backed.brief other stored found
      rw [expires] at expiresThen
      cases expiresThen
      exact .inr ⟨(value, now + 60000), Function.update_self .., by dsimp only; omega⟩
    · rw [Function.update_of_ne same, Function.update_of_ne same]
      exact backed.held other plain stored expiry found expires (ordered.trans_lt ahead) filled

/-- A secret that the environment holds is set in Redis. -/
theorem publish (backed : Backed toUpperCase true process redis now)
    (kept : process.env key = some value)
    : Backed toUpperCase true process
        (Function.update redis (SecretsManager.redisKey key) (some ⟨value, some (now + 60)⟩)) now
    where
  unwired off := by contradiction
  remembered := backed.remembered
  brief other stored found := by
    by_cases same : other = key
    · subst same
      rw [Function.update_self] at found
      cases found
      exact ⟨now + 60, rfl, le_rfl⟩
    · have apart := fun sameKey => same (SecretsManager.redisKey_inj sameKey)
      rw [Function.update_of_ne apart] at found
      exact backed.brief other stored found
  held other plain stored expiry found expires ahead filled := by
    by_cases same : other = key
    · subst same
      rw [Function.update_self] at found
      cases found
      exact .inl kept
    · have apart := fun sameKey => same (SecretsManager.redisKey_inj sameKey)
      rw [Function.update_of_ne apart] at found
      exact backed.held other plain stored expiry found expires ahead filled

/-- A secret is deleted in the process, and what is left of it in Redis is empty or over. -/
theorem delete (backed : Backed toUpperCase wired process redis now) (ordered : now ≤ later)
    {left : Keyspace}
    (others : ∀ other, other ≠ key → left (SecretsManager.redisKey other)
      = redis (SecretsManager.redisKey other))
    (here
      : ∀ stored,
          left (SecretsManager.redisKey key) = some stored
          → redis (SecretsManager.redisKey key) = some stored
            ∧ (Plain toUpperCase key
              → ∀ expiry,
                  stored.expiresAt = some expiry → later < expiry → stored.value = ""))
    : Backed toUpperCase wired
        {
          memory := Function.update process.memory key none
          env := Function.update process.env key none
        }
        left later where
  unwired off other := by
    have none := backed.unwired off other
    by_cases same : other = key
    · subst same
      cases found : left (SecretsManager.redisKey other) with
      | none => rfl
      | some stored => exact absurd (none.symm.trans (here stored found).1) (by simp)
    · exact (others other same).trans none
  remembered other plain text kept := by
    obtain ⟨expiry, held, ahead⟩ := remembered?_eq_some.mp kept
    dsimp only at held ⊢
    by_cases same : other = key
    · subst same
      rw [Function.update_self] at held
      contradiction
    · rw [Function.update_of_ne same] at held ⊢
      exact backed.remembered other plain text
        (remembered?_eq_some.mpr ⟨expiry, held, ordered.trans_lt ahead⟩)
  brief other stored found := by
    by_cases same : other = key
    · subst same
      exact (backed.mono ordered).brief other stored (here stored found).1
    · rw [others other same] at found
      exact (backed.mono ordered).brief other stored found
  held other plain stored expiry found expires ahead filled := by
    dsimp only
    by_cases same : other = key
    · subst same
      exact absurd ((here stored found).2 plain expiry expires ahead) filled
    · rw [others other same] at found
      rw [Function.update_of_ne same, Function.update_of_ne same]
      exact backed.held other plain stored expiry found expires (ordered.trans_lt ahead) filled

end Backed

end

/-- A call of the manager. -/
inductive SecretRequest where
  | getSecret (key : String)
  | requireSecret (key : String)
  | hasSecret (key : String)
  | setSecret (key value : String)
  | rotateSecret (key newValue : String)
  | deleteSecret (key : String)

/-- What a call awaits, and the secret that it resolves with. -/
def SecretRequest.program (toUpperCase : String → String) (wired : Bool)
    : SecretRequest → SecretsProgram (Option String)
  | getSecret key =>
      (SecretsManager.getSecret toUpperCase wired key).bind (fun value => .done (some value))
  | requireSecret key =>
      (SecretsManager.requireSecret key (SecretsManager.getSecret toUpperCase wired key)).bind
        (fun value => .done (some value))
  | hasSecret key =>
      (SecretsManager.hasSecret (SecretsManager.getSecret toUpperCase wired key)).bind
        (fun _ => .done none)
  | setSecret key value => (SecretsManager.setSecret wired key value).bind (fun _ => .done none)
  | rotateSecret key newValue =>
      (SecretsManager.rotateSecret wired key newValue).bind (fun _ => .done none)
  | deleteSecret key => (SecretsManager.deleteSecret wired key).bind (fun _ => .done none)

/-- A call, and the milliseconds since the call before. -/
structure TimedSecretRequest where
  waited : Nat
  request : SecretRequest

section

variable (toUpperCase : String → String) (wired : Bool)

/-- A call runs in the only process. -/
def SecretsWorld.serve (elapsed : Nat → Nat) (faults : Nat → Option Bool) (next : TimedSecretRequest)
    (world : SecretsWorld Unit)
    : SecretsWorld Unit :=
  ((next.request.program toUpperCase wired).run (secretsServer elapsed faults ())
    { world with now := world.now + next.waited }).2

/-- Now and later a secret with one name is what the environment holds. -/
def SecretsWorld.AnswersFromEnvironment (world : SecretsWorld Unit) : Prop :=
  ∀ later,
    world.now ≤ later
    → ∀ key,
        Plain toUpperCase key
        → ∀ elapsed faults,
            ((SecretsManager.getSecret toUpperCase wired key).run (secretsServer elapsed faults ())
                { world with now := later }).1
              = .ok (((world.process ()).env key).getD "")

/-- When the deletion of a secret does not reach Redis, Redis holds nothing of it any more by then.
-/
def SecretsWorld.LeavesNothing (elapsed : Nat → Nat) (faults : Nat → Option Bool)
    (next : TimedSecretRequest) (world : SecretsWorld Unit)
    : Prop :=
  ∀ key,
    next.request = .deleteSecret key
    → Plain toUpperCase key
    → wired = true
    → faults (world.step + 2) = some false
    → orString
          (RedisOperations.get world.redis
            (world.now + next.waited + elapsed world.step + elapsed (world.step + 1)
              + elapsed (world.step + 2))
            (SecretsManager.redisKey key))
          none
        = none

end

section

variable {toUpperCase : String → String} {wired : Bool} {elapsed : Nat → Nat}
  {faults : Nat → Option Bool} {world : SecretsWorld Unit}

theorem SecretsWorld.answersFromEnvironment
    (backed : Backed toUpperCase wired (world.process ()) world.redis world.now)
    : world.AnswersFromEnvironment toUpperCase wired := by
  intro later ordered key plain elapsed faults
  have now := backed.mono ordered
  cases remembered : (world.process ()).remembered? later key with
  | some value =>
      rw [SecretsManager.run_getSecret_remembered plain.named remembered,
        now.remembered key plain value remembered]
      rfl
  | none =>
      cases found
          : (SecretsWorld.wait elapsed { world with now := later }).heldInRedis wired faults key with
      | some val =>
          rw [SecretsManager.run_getSecret_held plain.named remembered found]
          rw [now.env_of_found plain remembered found rfl (SecretsWorld.le_wait elapsed _)]
          rfl
      | none =>
          rw [SecretsManager.run_getSecret_missing plain.named remembered found,
            SecretsManager.run_fromEnvironment, apply_ite (SecretsWorld.process),
            SecretsWorld.wait_process, SecretsWorld.wait_process, ite_self]
          rw [environment_eq plain]

/-- The memory and the environment of the process are backed at the time. -/
def SecretsWorld.IsBacked (toUpperCase : String → String) (wired : Bool)
    (world : SecretsWorld Unit)
    : Prop :=
  Backed toUpperCase wired (world.process ()) world.redis world.now

theorem SecretsWorld.IsBacked.wait (backed : world.IsBacked toUpperCase wired)
    : (world.wait elapsed).IsBacked toUpperCase wired :=
  backed.mono (SecretsWorld.le_wait elapsed world)

/-- What was looked up is remembered. -/
theorem SecretsWorld.IsBacked.remember {key value : String} {between : SecretsWorld Unit}
    (backed : world.IsBacked toUpperCase wired)
    (forgotten : (world.process ()).remembered? world.now key = none)
    (holds : Plain toUpperCase key → (world.process ()).env key = some value)
    (sameProcess : between.process = world.process) (sameRedis : between.redis = world.redis)
    (ordered : world.now ≤ between.now)
    : (between.carry elapsed () (.remember key value)).IsBacked toUpperCase wired := by
  have now := (Backed.remember backed forgotten holds ordered).mono
    (SecretsWorld.le_wait elapsed between)
  rw [← sameProcess, ← sameRedis] at now
  unfold SecretsWorld.IsBacked
  rw [SecretsWorld.carry_process_self]
  exact now

/-- What the environment holds may be remembered. -/
theorem SecretsWorld.IsBacked.fromEnvironment {key : String} {between : SecretsWorld Unit}
    (backed : world.IsBacked toUpperCase wired)
    (forgotten : (world.process ()).remembered? world.now key = none)
    (sameProcess : between.process = world.process) (sameRedis : between.redis = world.redis)
    (ordered : world.now ≤ between.now)
    : ((SecretsManager.fromEnvironment toUpperCase key).run (secretsServer elapsed faults ())
        between).2.IsBacked toUpperCase wired := by
  have once := ordered.trans (SecretsWorld.le_wait elapsed between)
  have twice := once.trans (SecretsWorld.le_wait elapsed (between.wait elapsed))
  have thrice := twice.trans (SecretsWorld.le_wait elapsed _)
  rw [SecretsManager.run_fromEnvironment, sameProcess]
  cases held : (world.process ()).environment toUpperCase key with
  | none =>
      have later := Backed.mono backed thrice
      rw [← sameProcess, ← sameRedis] at later
      exact later
  | some envVal =>
      refine backed.remember forgotten (fun plain => ?_) sameProcess sameRedis thrice
      rw [← environment_eq plain]
      exact held

theorem SecretsWorld.IsBacked.getSecret {key : String} (backed : world.IsBacked toUpperCase wired)
    : ((SecretsManager.getSecret toUpperCase wired key).run (secretsServer elapsed faults ())
        world).2.IsBacked toUpperCase wired := by
  by_cases named : key = ""
  · rw [named]
    exact backed
  cases remembered : (world.process ()).remembered? world.now key with
  | some value =>
      rw [SecretsManager.run_getSecret_remembered named remembered]
      exact backed.wait
  | none =>
      have once := SecretsWorld.le_wait elapsed world
      have twice := once.trans (SecretsWorld.le_wait elapsed (world.wait elapsed))
      cases found : (world.wait elapsed).heldInRedis wired faults key with
      | some val =>
          rw [SecretsManager.run_getSecret_held named remembered found]
          refine backed.remember remembered (fun plain => ?_) rfl rfl twice
          exact Backed.env_of_found backed plain remembered found rfl once
      | none =>
          rw [SecretsManager.run_getSecret_missing named remembered found]
          generalize asked
              : (if wired then (world.wait elapsed).wait elapsed else world.wait elapsed) = between
          have steady
              : between.process = world.process
                ∧ between.redis = world.redis
                ∧ world.now ≤ between.now := by
            subst asked
            cases wired with
            | true => exact ⟨rfl, rfl, twice⟩
            | false => exact ⟨rfl, rfl, once⟩
          obtain ⟨sameProcess, sameRedis, ordered⟩ := steady
          exact backed.fromEnvironment remembered sameProcess sameRedis ordered

theorem SecretsWorld.IsBacked.requireSecret {key : String}
    (backed : world.IsBacked toUpperCase wired)
    : ((SecretsManager.requireSecret key (SecretsManager.getSecret toUpperCase wired key)).run
        (secretsServer elapsed faults ()) world).2.IsBacked toUpperCase wired := by
  have looked
      : ((SecretsManager.getSecret toUpperCase wired key).run (secretsServer elapsed faults ())
          world).2.IsBacked toUpperCase wired :=
    backed.getSecret
  unfold SecretsManager.requireSecret
  rw [Program.bind_eq, Program.run_bind]
  generalize (SecretsManager.getSecret toUpperCase wired key).run (secretsServer elapsed faults ())
    world = settled at looked
  rcases settled with ⟨error | value, after⟩
  · exact looked
  · dsimp only
    split
    · rw [SecretsManager.run_throwInternal]
      exact looked.wait
    · exact looked

theorem SecretsWorld.IsBacked.setSecret {key value : String} (backed : world.IsBacked toUpperCase wired)
    : ((SecretsManager.setSecret wired key value).run (secretsServer elapsed faults ())
        world).2.IsBacked toUpperCase wired := by
  by_cases named : key = ""
  · unfold SecretsManager.setSecret
    rw [if_pos named, SecretsManager.run_throwInternal]
    exact backed.wait
  rw [SecretsManager.run_setSecret named]
  have kept
      : ((world.carry elapsed () (.remember key value)).carry elapsed ()
          (.putenv key value)).IsBacked toUpperCase wired := by
    have now := Backed.set backed key value
      ((SecretsWorld.le_wait elapsed world).trans (SecretsWorld.le_wait elapsed _))
    unfold SecretsWorld.IsBacked
    rw [SecretsWorld.carry_process_self, SecretsWorld.carry_process_self]
    exact now
  have held
      : (((world.carry elapsed () (.remember key value)).carry elapsed ()
          (.putenv key value)).process ()).env key
        = some value := by
    rw [SecretsWorld.carry_process_self]
    exact Function.update_self ..
  generalize (world.carry elapsed () (.remember key value)).carry elapsed () (.putenv key value)
    = after at kept held
  cases wired with
  | false => exact kept
  | true =>
      have published := kept.publish held
      dsimp only
      rw [if_pos rfl, secretsServer_command rfl, carry_set]
      split
      · exact kept.wait
      · exact Backed.mono published (SecretsWorld.le_wait elapsed after)

/-- What Redis holds at a time is empty or over. -/
theorem value_eq_empty {redis : Keyspace} {now expiry : Int} {key : String} {stored : StoredText}
    (nothing : orString (RedisOperations.get redis now key) none = none)
    (held : redis key = some stored) (expires : stored.expiresAt = some expiry) (ahead : now < expiry)
    : stored.value = "" := by
  by_contra filled
  have alive : stored.liveAt now = true := by
    rw [StoredText.liveAt, expires]
    exact decide_eq_true ahead
  have live : redis.live? now key = some stored := Option.filter_eq_some_iff.mpr ⟨held, alive⟩
  rw [RedisOperations.get, live, Option.map_some, orString_of_ne_empty filled] at nothing
  contradiction

theorem SecretsWorld.IsBacked.deleteSecret {key : String} (backed : world.IsBacked toUpperCase wired)
    (leavesNothing
      : Plain toUpperCase key
        → wired = true
        → faults (world.step + 2) = some false
        → orString
              (RedisOperations.get world.redis
                (world.now + elapsed world.step + elapsed (world.step + 1)
                  + elapsed (world.step + 2))
                (SecretsManager.redisKey key))
              none
            = none)
    : ((SecretsManager.deleteSecret wired key).run (secretsServer elapsed faults ())
        world).2.IsBacked toUpperCase wired := by
  have once := SecretsWorld.le_wait elapsed world
  have twice := once.trans (SecretsWorld.le_wait elapsed (world.wait elapsed))
  have thrice := twice.trans (SecretsWorld.le_wait elapsed ((world.wait elapsed).wait elapsed))
  have process
      : ((world.carry elapsed () (.forget key)).carry elapsed () (.unsetenv key)).process ()
        = {
            memory := Function.update (world.process ()).memory key none
            env := Function.update (world.process ()).env key none
          } := by
    rw [SecretsWorld.carry_process_self, SecretsWorld.carry_process_self]
    rfl
  rw [SecretsManager.run_deleteSecret]
  unfold SecretsWorld.IsBacked
  cases wired with
  | false =>
      dsimp only
      rw [if_neg (by simp), process]
      refine Backed.delete backed twice (fun _ _ => rfl) (fun stored found => ?_)
      exact absurd ((backed.unwired rfl key).symm.trans found) (by simp)
  | true =>
      dsimp only
      rw [if_pos rfl, secretsServer_command rfl, carry_del]
      dsimp only
      rw [SecretsWorld.wait_process, process]
      refine Backed.delete backed thrice (fun other apart => ?_) (fun stored found => ?_)
      · split
        · rfl
        · exact Function.update_of_ne (fun sameKey => apart (SecretsManager.redisKey_inj sameKey)) ..
      · split at found
        · next lost =>
            refine ⟨found, fun plain expiry expires ahead => ?_⟩
            exact value_eq_empty (leavesNothing plain rfl lost) found expires ahead
        · rw [Function.update_self] at found
          contradiction

/-- What a call resolves with does not matter to what it leaves behind. -/
theorem run_followed {α β : Type} {program : SecretsProgram α} {give : α → β}
    : ((program.bind (fun value => .done (give value))).run (secretsServer elapsed faults ())
          world).2
      = (program.run (secretsServer elapsed faults ()) world).2 := by
  rw [Program.run_bind]
  rcases program.run (secretsServer elapsed faults ()) world with ⟨_ | _, after⟩ <;> rfl

theorem run_hasSecret {getSecret : SecretsProgram String}
    : ((SecretsManager.hasSecret getSecret).run (secretsServer elapsed faults ()) world).2
      = (getSecret.run (secretsServer elapsed faults ()) world).2 :=
  run_followed

theorem SecretsWorld.IsBacked.serve {next : TimedSecretRequest}
    (backed : world.IsBacked toUpperCase wired)
    (leavesNothing : world.LeavesNothing toUpperCase wired elapsed faults next)
    : (world.serve toUpperCase wired elapsed faults next).IsBacked toUpperCase wired := by
  obtain ⟨waited, request⟩ := next
  have waiting
      : SecretsWorld.IsBacked toUpperCase wired { world with now := world.now + waited } :=
    Backed.mono backed (le_add_of_nonneg_right (Int.natCast_nonneg _))
  unfold SecretsWorld.serve SecretRequest.program
  dsimp only
  cases request with
  | getSecret key =>
      dsimp only
      rw [run_followed]
      exact waiting.getSecret
  | requireSecret key =>
      dsimp only
      rw [run_followed]
      exact waiting.requireSecret
  | hasSecret key =>
      dsimp only
      rw [run_followed, run_hasSecret]
      exact waiting.getSecret
  | setSecret key value =>
      dsimp only
      rw [run_followed]
      exact waiting.setSecret
  | rotateSecret key newValue =>
      dsimp only [SecretsManager.rotateSecret]
      rw [run_followed]
      exact waiting.setSecret
  | deleteSecret key =>
      dsimp only
      rw [run_followed]
      exact waiting.deleteSecret (leavesNothing key rfl)

/-- A deletion that does not reach Redis. -/
theorem SecretsWorld.serve_lost {next : TimedSecretRequest} {key : String}
    (deletes : next.request = .deleteSecret key) (lost : faults (world.step + 2) = some false)
    : let after := world.serve toUpperCase true elapsed faults next
      (after.process ()).memory key = none
        ∧ (after.process ()).env key = none
        ∧ after.redis = world.redis
        ∧ after.now
          = world.now + next.waited + elapsed world.step + elapsed (world.step + 1)
            + elapsed (world.step + 2) := by
  unfold SecretsWorld.serve SecretRequest.program
  rw [deletes]
  dsimp only
  rw [run_followed, SecretsManager.run_deleteSecret]
  dsimp only
  rw [if_pos rfl, secretsServer_command rfl, carry_del]
  dsimp only
  rw [SecretsWorld.wait_process, SecretsWorld.carry_process_self, SecretsWorld.carry_process_self]
  exact ⟨Function.update_self .., Function.update_self .., if_pos lost, rfl⟩

/-- Right after a deletion the secret is answered from the environment only if Redis holds nothing
of it.
-/
theorem SecretsWorld.AnswersFromEnvironment.leavesNothing {next : TimedSecretRequest}
    (answers
      : (world.serve toUpperCase wired elapsed faults next).AnswersFromEnvironment toUpperCase
          wired)
    : world.LeavesNothing toUpperCase wired elapsed faults next := by
  rintro key deletes plain rfl lost
  by_contra left
  obtain ⟨val, found⟩ := Option.ne_none_iff_exists'.mp left
  obtain ⟨memory, env, redis, now⟩
      : let after := world.serve toUpperCase true elapsed faults next
        _ :=
    world.serve_lost deletes lost
  generalize world.serve toUpperCase true elapsed faults next = after at *
  have forgotten : (after.process ()).remembered? after.now key = none := by
    rw [SecretsProcess.remembered?, memory]
    rfl
  have held : (after.wait (fun _ => 0)).heldInRedis true (fun _ => none) key = some val := by
    unfold SecretsWorld.heldInRedis
    rw [if_pos ⟨rfl, rfl⟩, ← found, ← redis, ← now]
    exact congrArg
      (fun time => orString (RedisOperations.get after.redis time (SecretsManager.redisKey key)) none)
      (add_zero after.now)
  have answered := answers after.now le_rfl key plain (fun _ => 0) (fun _ => none)
  rw [SecretsManager.run_getSecret_held plain.named forgotten held, env] at answered
  obtain ⟨stored, _, _, rfl, filled⟩ := stored_of_found held
  exact filled (Except.ok.inj answered)

/-- `SecretsManager` in one process stands for its environment: over every sequence of calls, at any
times and whichever commands are lost, a secret with one name is what the environment holds, if and
only if each deletion that does not reach Redis comes when Redis holds nothing of it any more.
-/
theorem SecretsWorld.answersFromEnvironment_throughout_iff (process : SecretsProcess)
    (forgotten : ∀ key, process.memory key = none) (redis : Keyspace)
    (nothing : ∀ key, redis (SecretsManager.redisKey key) = none) (now : Int)
    (requests : List TimedSecretRequest)
    : Throughout (SecretsWorld.serve toUpperCase wired elapsed faults)
          (SecretsWorld.AnswersFromEnvironment toUpperCase wired) requests
          ⟨fun _ => process, redis, now, 0⟩
      ↔ EveryStep (SecretsWorld.serve toUpperCase wired elapsed faults)
          (SecretsWorld.LeavesNothing toUpperCase wired elapsed faults) requests
          ⟨fun _ => process, redis, now, 0⟩ := by
  have holds (state : SecretsWorld Unit) (backed : state.IsBacked toUpperCase wired)
      : state.AnswersFromEnvironment toUpperCase wired :=
    SecretsWorld.answersFromEnvironment backed
  refine throughout_iff_everyStep holds (fun _ _ backed leaves => backed.serve leaves)
    (fun _ _ _ answers => answers.leavesNothing) requests ⟨fun _ => nothing, ?_, ?_, ?_⟩
  · intro key plain value remembered
    obtain ⟨expiry, held, _⟩ := remembered?_eq_some.mp remembered
    exact absurd ((forgotten key).symm.trans held) (by simp)
  · exact fun key stored held => absurd ((nothing key).symm.trans held) (by simp)
  · exact fun key _ stored _ held => absurd ((nothing key).symm.trans held) (by simp)

end

/-- A secret is set, looked up, rotated when it is not remembered any more, and deleted. -/
def rotation : List TimedSecretRequest := [
  ⟨0, .setSecret "JWT_SECRET" "first"⟩,
  ⟨100, .getSecret "JWT_SECRET"⟩,
  ⟨70000, .rotateSecret "JWT_SECRET" "second"⟩,
  ⟨5, .deleteSecret "JWT_SECRET"⟩
]

theorem SecretsWorld.answersFromEnvironment_throughout_iff_rotation
    : Throughout (SecretsWorld.serve toUpperCase true (fun _ => 1) (fun _ => none))
        (SecretsWorld.AnswersFromEnvironment toUpperCase true) rotation
        ⟨fun _ => ⟨fun _ => none, fun _ => none⟩, fun _ => none, 0, 0⟩ := by
  refine (SecretsWorld.answersFromEnvironment_throughout_iff ⟨fun _ => none, fun _ => none⟩
    (fun _ => rfl) (fun _ => none) (fun _ => rfl) 0 rotation).mpr ⟨?_, ?_, ?_, ?_, trivial⟩
  · rintro _ ⟨⟩
  · rintro _ ⟨⟩
  · rintro _ ⟨⟩
  · rintro _ _ _ _ ⟨⟩

end QueueForge.Security
