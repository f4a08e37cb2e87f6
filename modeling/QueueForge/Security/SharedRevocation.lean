import Mathlib.Data.Rat.Floor
import Mathlib.Algebra.Order.Field.Rat
import QueueForge.Infrastructure.RedisOperations
import QueueForge.Security.LocalRevocation

/-! How long other processes see a revocation, when `RedisOperations` is the store they share.
A lifetime in seconds is handed to a store that takes milliseconds.
-/

namespace QueueForge.Security

open QueueForge.Async QueueForge.Js QueueForge.Infrastructure

/-- The keyspace with the time and the number of the next step. -/
structure SharedStore where
  keys : Keyspace
  now : Int
  step : Nat

/-- A step takes its time. -/
def SharedStore.tick (elapsed : Nat → Nat) (store : SharedStore) : SharedStore :=
  { store with now := store.now + elapsed store.step, step := store.step + 1 }

/-- A store that serves every command of `RedisOperations`. -/
def sharedRedis (elapsed : Nat → Nat) : Surroundings SharedStore where
  now store := (store.now, store.tick elapsed)
  store
    | .get key, store => (.ok (RedisOperations.get store.keys store.now key), store.tick elapsed)
    | .keyExists key, store =>
        (.ok (RedisOperations.keyExists store.keys store.now key), store.tick elapsed)
    | .set key value ttl, store =>
        let written := RedisOperations.set store.keys store.now key value (some ttl)
        (written.1, { store.tick elapsed with keys := written.2 })
    | .setex _ _ _, store =>
        (.error (newTypeError "this.redisOps.setex is not a function"), store.tick elapsed)

namespace TokenManager

open TokenWorld

variable {π : Type} [DecidableEq π] (manager : TokenManager)

/-- The token is checked by a process from a moment on. -/
def checkedAt (elapsed : Nat → Nat) (observer : π) (token : String) (time : Int)
    (world : TokenWorld π π SharedStore)
    : Settled SecurityError Bool × TokenWorld π π SharedStore :=
  (manager.isTokenRevoked token).run (serve (sharedRedis elapsed) id observer)
    { world with outside := { world.outside with now := time } }

/-- Every check of another process finds the token revoked, if it is over before the token
expires.
-/
def RevokedElsewhere (process : π) (token : String) (expiry : Rat)
    (world : TokenWorld π π SharedStore)
    : Prop :=
  ∀ observer,
    observer ≠ process
    → ∀ elapsed time,
        world.outside.now ≤ time
        → ((manager.checkedAt elapsed observer token time world).2.outside.now : Rat)
          < expiry * 1000
        → (manager.checkedAt elapsed observer token time world).1 = .ok true

/-- A key that is there until the token expires. -/
def Outlives (keys : Keyspace) (key : String) (expiry : Rat) : Prop :=
  ∃ stored,
    keys key = some stored
    ∧ stored.expiresAt.all (fun gone => decide (expiry * 1000 ≤ gone))

/-- The lifetime the store is told. -/
def storedLifetime (expiry : Rat) (now : Int) : Rat :=
  max 1 (expiry - (now / 1000 : Int))

variable {manager} {elapsed : Nat → Nat} {process observer : π} {token : String} {time : Int}
  {world : TokenWorld π π SharedStore}

/-- A process that does not know the token asks the store under both keys, unless the first
answer is enough.
-/
theorem checkedAt_unknown (elapsed : Nat → Nat) (time : Int)
    (shared : manager.redisOps = some redisOperations)
    (unknown : ¬Knows observer (manager.hashToken token) world)
    : let found := RedisOperations.keyExists world.outside.keys time s!"revoked_token:{token}"
      let later := time + elapsed world.outside.step
      let val :=
        RedisOperations.get world.outside.keys later
          (manager.getBlacklistKey (manager.hashToken token))
      (manager.checkedAt elapsed observer token time world).1
        = .ok (found || decide (val = some "revoked" ∨ val = some "1"))
      ∧ (found = false
        → (manager.checkedAt elapsed observer token time world).2.outside.now
          = later + elapsed (world.outside.step + 1)) := by
  intro found later val
  have unaware
      : ¬Knows observer (manager.hashToken token)
          { world with outside := { world.outside with now := time } } :=
    unknown
  unfold checkedAt isTokenRevoked storedRevocation
  cases asked : RedisOperations.keyExists world.outside.keys time s!"revoked_token:{token}" with
  | true => simp [shared, redisOperations, unaware, sharedRedis, asked, found, Except.mapError]
  | false =>
      simp [shared, redisOperations, unaware, sharedRedis, asked, found, later, val,
        Except.mapError, SharedStore.tick]

section
variable {decoded : JWTPayload} {expiry : Rat}

/-- The lifetime as the program computes it. -/
theorem ttl_eq (expires : decoded.get "exp" = some (.number (.finite expiry))) (dated : expiry ≠ 0)
    (now : Int)
    : Number.max 1 (manager.remainingSeconds decoded (now / 1000))
      = .finite (storedLifetime expiry now) := by
  have one : (1 : Number) = .finite 1 := congrArg Number.finite Nat.cast_one
  rw [remainingSeconds_eq expires dated, storedLifetime, max_def, one]
  by_cases long : (1 : Rat) ≤ expiry - (now / 1000 : Int) <;> simp [Number.max, Number.le, long]

theorem storedLifetime_pos (expiry : Rat) (now : Int) : 0 < storedLifetime expiry now :=
  lt_of_lt_of_le one_pos (le_max_left _ _)

/-- `RedisOperations` is asked to set the key of the hash. -/
theorem storeRevocation_shared (shared : manager.redisOps = some redisOperations) (ttl : Number)
    : manager.storeRevocation token ttl
      = awaitToken
          (.store (.set (manager.getBlacklistKey (manager.hashToken token)) "revoked" ttl)) := by
  simp [storeRevocation, shared, redisOperations]

/-- A store that takes the lifetime keeps the key for so many milliseconds. -/
theorem run_revokeToken_shared (elapsed : Nat → Nat) (process : π)
    (world : TokenWorld π π SharedStore) (shared : manager.redisOps = some redisOperations)
    (decodes : manager.jwtStrategy.decodeToken token = .ok decoded)
    (expires : decoded.get "exp" = some (.number (.finite expiry))) (dated : expiry ≠ 0)
    : let lifetime := storedLifetime expiry world.outside.now
      let moment := world.outside.now + elapsed world.outside.step
      let revoked := (manager.revokeToken token).run (serve (sharedRedis elapsed) id process) world
      (revoked.1 = .ok () ↔ lifetime.den = 1)
      ∧ revoked.2.outside.now = moment + elapsed (world.outside.step + 1)
      ∧ (lifetime.den = 1
        → revoked.2.outside.keys
          = Function.update world.outside.keys
              (manager.getBlacklistKey (manager.hashToken token))
              (some ⟨"revoked", some (moment + lifetime.num)⟩)) := by
  intro lifetime moment revoked
  have written := RedisOperations.set_finite (storedLifetime_pos expiry world.outside.now)
  simp only [revoked, run_revokeToken, decodes, storeRevocation_shared shared, run_awaitToken,
    serve_store, outside_afterCall_store, outside_afterCall_add, outside_afterCall_now,
    sharedRedis, ttl_eq expires dated, written, SharedStore.tick]
  by_cases whole : (storedLifetime expiry world.outside.now).den = 1
  · simp [whole, lifetime, moment, Except.mapError]
  · simp [whole, lifetime, moment, Except.mapError]

end

/-- The set of the process is enough. -/
theorem checkedAt_known (known : Knows observer (manager.hashToken token) world)
    : (manager.checkedAt elapsed observer token time world).1 = .ok true := by
  have aware
      : Knows observer (manager.hashToken token)
          { world with outside := { world.outside with now := time } } :=
    known
  exact congrArg Prod.fst (run_isTokenRevoked_known aware)

/-- It is the time or later. -/
def Begun (time : Int) (world : TokenWorld π π SharedStore) : Prop :=
  time ≤ world.outside.now

/-- A check takes no time back. -/
theorem time_le_checkedAt
    : Begun time (manager.checkedAt elapsed observer token time world).2 := by
  have ticks : ∀ store : SharedStore, time ≤ store.now → time ≤ (store.tick elapsed).now :=
    fun store begun => le_trans begun (Int.le_add_of_nonneg_right (Int.natCast_nonneg _))
  have started : Begun time { world with outside := { world.outside with now := time } } :=
    le_refl time
  refine Program.run_preserves (fun call world begun => ?_) started
  cases call with
  | now => exact ticks _ begun
  | blacklistHas tokenHash => exact begun
  | blacklistAdd tokenHash => exact begun
  | store command => cases command <;> exact ticks _ begun

section
variable {expiry : Rat} {gone : Int}

/-- A key that does not outlive the token is gone at some time before, and from then on. -/
theorem exists_gone {keys : Keyspace} {key : String} (short : ¬Outlives keys key expiry)
    {start : Int} (begun : start < expiry * 1000)
    : ∃ time : Int,
        start ≤ time ∧ time < expiry * 1000 ∧ RedisOperations.keyExists keys time key = false := by
  unfold RedisOperations.keyExists Keyspace.live?
  cases found : keys key with
  | none => exact ⟨start, le_rfl, begun, rfl⟩
  | some stored =>
      cases limit : stored.expiresAt with
      | none => exact absurd ⟨stored, found, by simp [limit]⟩ short
      | some end_ =>
          have early : (end_ : Rat) < expiry * 1000 := by
            by_contra late
            exact short ⟨stored, found, by simpa [limit] using late⟩
          refine ⟨max start end_, le_max_left _ _, ?_, ?_⟩
          · rw [Int.cast_max]
            exact max_lt begun early
          · simp [Option.filter, StoredText.liveAt, limit]

/-- When the key of the hash is there until some time, the others see the revocation until the
token expires in these cases only.
-/
theorem revokedElsewhere_iff_gone (shared : manager.redisOps = some redisOperations)
    (kept
      : world.outside.keys (manager.getBlacklistKey (manager.hashToken token))
        = some ⟨"revoked", some gone⟩)
    : manager.RevokedElsewhere process token expiry world
      ↔ expiry * 1000 ≤ world.outside.now
        ∨ (∀ observer, observer ≠ process → Knows observer (manager.hashToken token) world)
        ∨ Outlives world.outside.keys s!"revoked_token:{token}" expiry
        ∨ expiry * 1000 ≤ gone := by
  constructor
  · intro seen
    by_contra! unseen
    obtain ⟨begun, ⟨observer, other, unknown⟩, short, gap⟩ := unseen
    have started : ((max world.outside.now gone : Int) : Rat) < expiry * 1000 := by
      rw [Int.cast_max]
      exact max_lt begun gap
    obtain ⟨time, later, before, absent⟩ := exists_gone short started
    obtain ⟨result, ends⟩ := checkedAt_unknown (fun _ => 0) time shared unknown
    have prompt := ends absent
    have found :=
      seen observer other (fun _ => 0) time (le_trans (le_max_left _ _) later)
        (by rw [prompt]; simpa using before)
    have expired : gone ≤ time := le_trans (le_max_right _ _) later
    rw [result, absent] at found
    simp [RedisOperations.get, Keyspace.live?, kept, Option.filter, StoredText.liveAt,
      not_lt.mpr expired] at found
  · intro covered observer other elapsed time later before
    by_cases known : Knows observer (manager.hashToken token) world
    · exact checkedAt_known known
    obtain ⟨result, ends⟩ := checkedAt_unknown elapsed time shared known
    have begun : (time : Rat) < expiry * 1000 :=
      lt_of_le_of_lt (Int.cast_le.mpr time_le_checkedAt) before
    rw [result]
    rcases covered with late | aware | ⟨stored, found, lives⟩ | lasting
    · have started : (world.outside.now : Rat) ≤ time := Int.cast_le.mpr later
      exact absurd (lt_of_le_of_lt started begun) (not_lt.mpr late)
    · exact absurd (aware observer other) known
    · have live : stored.liveAt time = true := by
        unfold StoredText.liveAt
        cases limit : stored.expiresAt with
        | none => rfl
        | some end_ =>
            rw [limit] at lives
            have bound : expiry * 1000 ≤ end_ := by simpa using lives
            simpa using (Int.cast_lt (R := Rat)).mp (lt_of_lt_of_le begun bound)
      have present
          : RedisOperations.keyExists world.outside.keys time s!"revoked_token:{token}" = true := by
        simp only [RedisOperations.keyExists, Keyspace.live?, found, Option.filter, live]
        rfl
      rw [present]
      rfl
    · cases absent
        : RedisOperations.keyExists world.outside.keys time s!"revoked_token:{token}" with
      | true => rfl
      | false =>
          rw [ends absent] at before
          have asked : time + elapsed world.outside.step < gone := by
            have bound := lt_of_lt_of_le before lasting
            have order := (Int.cast_lt (R := Rat)).mp bound
            omega
          simp [RedisOperations.get, Keyspace.live?, kept, Option.filter, StoredText.liveAt, asked]

end

/-- The key of the hash lives so many milliseconds as the token lives seconds. So the other
processes see the revocation until the token expires if and only if the store refuses the
lifetime, the revocation takes that long, they know of it otherwise, or the key outlives the token
all the same.
-/
theorem revokedElsewhere_iff (elapsed : Nat → Nat) (process : π)
    (world : TokenWorld π π SharedStore) {decoded : JWTPayload} {expiry : Rat}
    (shared : manager.redisOps = some redisOperations)
    (decodes : manager.jwtStrategy.decodeToken token = .ok decoded)
    (expires : decoded.get "exp" = some (.number (.finite expiry))) (dated : expiry ≠ 0)
    : let lifetime := storedLifetime expiry world.outside.now
      let moment := world.outside.now + elapsed world.outside.step
      let key := manager.getBlacklistKey (manager.hashToken token)
      let revoked := (manager.revokeToken token).run (serve (sharedRedis elapsed) id process) world
      (revoked.1 = .ok () → manager.RevokedElsewhere process token expiry revoked.2)
      ↔ lifetime.den ≠ 1
        ∨ expiry * 1000 ≤ (moment + elapsed (world.outside.step + 1) : Int)
        ∨ (∀ observer, observer ≠ process → Knows observer (manager.hashToken token) world)
        ∨ s!"revoked_token:{token}" ≠ key
          ∧ Outlives world.outside.keys s!"revoked_token:{token}" expiry
        ∨ expiry * 1000 ≤ moment + lifetime := by
  intro lifetime moment key revoked
  obtain ⟨resolves, (ends : revoked.2.outside.now = moment + elapsed (world.outside.step + 1)),
      keys⟩ :=
    run_revokeToken_shared elapsed process world shared decodes expires dated
  by_cases whole : lifetime.den = 1
  · have kept : revoked.2.outside.keys key = some ⟨"revoked", some (moment + lifetime.num)⟩ := by
      rw [keys whole, Function.update_self]
    have unchanged
        : (∀ observer,
            observer ≠ process → Knows observer (manager.hashToken token) revoked.2)
          ↔ ∀ observer, observer ≠ process → Knows observer (manager.hashToken token) world :=
      forall₂_congr (fun observer other => by
        unfold Knows
        rw [run_others other])
    have number : ((moment + lifetime.num : Int) : Rat) = moment + lifetime := by
      rw [Int.cast_add, (Rat.den_eq_one_iff lifetime).mp whole]
    rw [forall_prop_of_true (resolves.mpr whole), revokedElsewhere_iff_gone shared kept, unchanged,
      ends, number]
    by_cases same : s!"revoked_token:{token}" = key
    · have outlives
          : Outlives revoked.2.outside.keys s!"revoked_token:{token}" expiry
            ↔ expiry * 1000 ≤ moment + lifetime := by
        rw [same, Outlives, kept, ← number]
        simp
      -- Both keys are one, which lasts as long as the store was told.
      rw [outlives]
      simp only [whole, same, ne_eq, not_true_eq_false, false_and, false_or, or_self]
    · have outlives
          : Outlives revoked.2.outside.keys s!"revoked_token:{token}" expiry
            ↔ Outlives world.outside.keys s!"revoked_token:{token}" expiry := by
        rw [Outlives, keys whole, Function.update_of_ne same]
        rfl
      rw [outlives]
      simp only [whole, same, ne_eq, not_true_eq_false, not_false_eq_true, true_and, false_or]
  · exact iff_of_true (fun resolved => absurd (resolves.mp resolved) whole) (.inl whole)

end TokenManager

/-! An access token is revoked right after its login. -/

/-- Two processes with an empty store. -/
def twoProcesses : TokenWorld Bool Bool SharedStore where
  blacklist _ := []
  outside := ⟨fun _ => none, 1700000000000, 0⟩
  trace := []

theorem decode_aliceAccess
    : (loginManager (some redisOperations)).jwtStrategy.decodeToken aliceAccessToken
      = .ok ⟨aliceClaims 1700000000 3600 ["ADMIN"] "access", false⟩ := by
  decide +kernel

/-- The law of the shared revocations, at the token of a login. -/
theorem revokedElsewhere_aliceAccess_iff
    : let manager := loginManager (some redisOperations)
      let revoked :=
        (manager.revokeToken aliceAccessToken).run
          (TokenWorld.serve (sharedRedis (fun _ => 1)) id false) twoProcesses
      let lifetime := TokenManager.storedLifetime ((1700003600 : Int) : Rat) 1700000000000
      (revoked.1 = .ok ()
        → manager.RevokedElsewhere false aliceAccessToken ((1700003600 : Int) : Rat) revoked.2)
      ↔ lifetime.den ≠ 1
        ∨ ((1700003600 : Int) : Rat) * 1000 ≤ ((1700000000000 + (1 : Nat) + (1 : Nat) : Int) : Rat)
        ∨ (∀ observer,
            observer ≠ false
            → TokenWorld.Knows observer (manager.hashToken aliceAccessToken) twoProcesses)
        ∨ s!"revoked_token:{aliceAccessToken}"
            ≠ manager.getBlacklistKey (manager.hashToken aliceAccessToken)
          ∧ TokenManager.Outlives (fun _ => none) s!"revoked_token:{aliceAccessToken}"
            ((1700003600 : Int) : Rat)
        ∨ ((1700003600 : Int) : Rat) * 1000 ≤ (1700000000000 + (1 : Nat) : Int) + lifetime :=
  TokenManager.revokedElsewhere_iff (fun _ => 1) false twoProcesses rfl decode_aliceAccess rfl
    (by decide)

/-- Four seconds later another process takes the token for good, an hour before it expires. -/
theorem revocation_forgotten
    : let manager := loginManager (some redisOperations)
      let revoked :=
        (manager.revokeToken aliceAccessToken).run
          (TokenWorld.serve (sharedRedis (fun _ => 1)) id false) twoProcesses
      ¬(revoked.1 = .ok ()
        → manager.RevokedElsewhere false aliceAccessToken ((1700003600 : Int) : Rat) revoked.2) := by
  intro manager revoked seen
  have resolved : revoked.1 = .ok () := by decide +kernel
  have checked :=
    seen resolved true Bool.noConfusion (fun _ => 0) 1700000004000 (by decide +kernel)
      (by decide +kernel)
  have missed
      : (manager.checkedAt (fun _ => 0) true aliceAccessToken 1700000004000 revoked.2).1
        = .ok false := by
    decide +kernel
  exact nomatch missed.symm.trans checked

end QueueForge.Security
