import Mathlib.Logic.Function.Basic
import QueueForge.Security.ReferenceTokens
import QueueForge.Security.TokenManager

/-! A revoked token stays revoked within its process.
The hash is in the set of the process before the store is asked to keep it, and the set is looked
at before the store is. The set never fails and never forgets; of the surroundings nothing is assumed.
-/

namespace QueueForge.Security

open QueueForge.Async QueueForge.Js

-----------------------------------------------------------------------------------------
-- What serves a TokenManager
-----------------------------------------------------------------------------------------

/-- The clock and the store, over a state of their own. -/
structure Surroundings (σ : Type) where
  now : σ → Int × σ
  store : (command : StoreCall) → σ → Settled Thrown command.Result × σ

/-- A call with its answer, and who made it. -/
structure TokenEntry (κ : Type) where
  caller : κ
  answered : Answered TokenSignature SecurityError

/-- Processes `π` with callers `κ`. -/
structure TokenWorld (π κ σ : Type) where
  blacklist : π → List String
  outside : σ
  trace : List (TokenEntry κ)

namespace TokenWorld

variable {π κ σ : Type} [DecidableEq π] (surroundings : Surroundings σ) (home : κ → π)

/-- The answer to a call of a caller, and the world without its entry in the trace. -/
def answer (caller : κ) (world : TokenWorld π κ σ)
    : (call : TokenCall) → Settled SecurityError call.Result × TokenWorld π κ σ
  | .now =>
      (.ok (surroundings.now world.outside).1,
        { world with outside := (surroundings.now world.outside).2 })
  | .blacklistHas tokenHash =>
      (.ok (decide (tokenHash ∈ world.blacklist (home caller))), world)
  | .blacklistAdd tokenHash =>
      (.ok (), {
        world with
        blacklist :=
          Function.update world.blacklist (home caller)
            (tokenHash :: world.blacklist (home caller))
      })
  | .store command =>
      ((surroundings.store command world.outside).1.mapError .thrown,
        { world with outside := (surroundings.store command world.outside).2 })

/-- The handler of the calls of a caller. -/
def serve (caller : κ) : Handler TokenSignature SecurityError (TokenWorld π κ σ) :=
  fun call world =>
    let answered := answer surroundings home caller world call
    (answered.1, {
      answered.2 with
      trace := ⟨caller, call, answered.1⟩ :: world.trace
    })

variable {surroundings home}

/-- The process has put the hash in its set. -/
def Knows (process : π) (tokenHash : String) (world : TokenWorld π κ σ) : Prop :=
  tokenHash ∈ world.blacklist process

/-- What a process knows it keeps knowing whatever is called. -/
theorem serve_keeps {process : π} {tokenHash : String} (caller : κ) (call : TokenCall)
    (world : TokenWorld π κ σ) (known : Knows process tokenHash world)
    : Knows process tokenHash (serve surroundings home caller call world).2 := by
  cases call with
  | blacklistAdd added =>
      by_cases same : process = home caller
      · subst same
        simpa [Knows, serve, answer] using Or.inr known
      · simpa only [Knows, serve, answer, Function.update_of_ne same] using known
  | _ => exact known

/-- So it does through a whole run. -/
theorem run_keeps {α : Type} {process : π} {tokenHash : String} (caller : κ)
    (program : TokenProgram α) {world : TokenWorld π κ σ} (known : Knows process tokenHash world)
    : Knows process tokenHash (program.run (serve surroundings home caller) world).2 :=
  Program.run_preserves (serve_keeps caller) known

/-- The set of another process. -/
def HasSet (process : π) (tokenHashes : List String) (world : TokenWorld π κ σ) : Prop :=
  world.blacklist process = tokenHashes

/-- A run leaves the sets of the other processes alone. -/
theorem run_others {α : Type} {process : π} {caller : κ} (other : process ≠ home caller)
    (program : TokenProgram α) (world : TokenWorld π κ σ)
    : (program.run (serve surroundings home caller) world).2.blacklist process
      = world.blacklist process := by
  have kept
      : HasSet process (world.blacklist process)
          (program.run (serve surroundings home caller) world).2 := by
    refine Program.run_preserves (fun call world same => ?_) rfl
    cases call with
    | blacklistAdd added => simpa only [HasSet, serve, answer, Function.update_of_ne other] using same
    | _ => exact same
  exact kept

/-- The world a call leaves. -/
def afterCall (surroundings : Surroundings σ) (home : κ → π) (caller : κ) (call : TokenCall)
    (world : TokenWorld π κ σ)
    : TokenWorld π κ σ :=
  (serve surroundings home caller call world).2

instance (process : π) (tokenHash : String) (world : TokenWorld π κ σ)
    : Decidable (Knows process tokenHash world) :=
  inferInstanceAs (Decidable (_ ∈ _))

section
variable {caller : κ} {world : TokenWorld π κ σ}

@[simp] theorem run_awaitToken {call : TokenCall}
    : (awaitToken call).run (α := no_index call.Result) (serve surroundings home caller) world
      = serve surroundings home caller call world :=
  Program.run_perform

@[simp] theorem serve_now
    : serve surroundings home caller .now world
      = (.ok (surroundings.now world.outside).1, afterCall surroundings home caller .now world) :=
  rfl

@[simp] theorem serve_has {tokenHash : String}
    : serve surroundings home caller (.blacklistHas tokenHash) world
      = (.ok (decide (Knows (home caller) tokenHash world)),
        afterCall surroundings home caller (.blacklistHas tokenHash) world) :=
  rfl

@[simp] theorem serve_add {tokenHash : String}
    : serve surroundings home caller (.blacklistAdd tokenHash) world
      = (.ok (), afterCall surroundings home caller (.blacklistAdd tokenHash) world) :=
  rfl

@[simp] theorem serve_store {command : StoreCall}
    : serve surroundings home caller (.store command) world
      = ((surroundings.store command world.outside).1.mapError .thrown,
        afterCall surroundings home caller (.store command) world) :=
  rfl

@[simp] theorem outside_afterCall_now
    : (afterCall surroundings home caller .now world).outside
      = (surroundings.now world.outside).2 :=
  rfl

@[simp] theorem outside_afterCall_has {tokenHash : String}
    : (afterCall surroundings home caller (.blacklistHas tokenHash) world).outside
      = world.outside :=
  rfl

@[simp] theorem outside_afterCall_add {tokenHash : String}
    : (afterCall surroundings home caller (.blacklistAdd tokenHash) world).outside
      = world.outside :=
  rfl

@[simp] theorem outside_afterCall_store {command : StoreCall}
    : (afterCall surroundings home caller (.store command) world).outside
      = (surroundings.store command world.outside).2 :=
  rfl

theorem knows_added {tokenHash : String}
    : Knows (home caller) tokenHash
        (afterCall surroundings home caller (.blacklistAdd tokenHash) world) := by
  simp [Knows, afterCall, serve, answer]

end

end TokenWorld

/-- A call on a `TokenManager`. -/
inductive TokenOperation where
  | generateAccessToken (userId : String) (roles : List String) (expiryMs : Option Int)
  | generateRefreshToken (userId : String) (expiryMs : Int)
  | issueToken (userId : String) (roles : List String)
  | verifyAccessToken (token : String)
  | verifyRefreshToken (token : String)
  | revokeToken (token : String)
  | isTokenRevoked (token : String)
  | refreshToken (token : String)
deriving DecidableEq

/-- The call as a program; what it gives does not matter to the calls after it. -/
def TokenOperation.program (manager : TokenManager) : TokenOperation → TokenProgram Unit
  | generateAccessToken userId roles expiryMs =>
      (manager.generateAccessToken (some (.string userId)) (some (.texts roles)) expiryMs).bind
        (fun _ => .done ())
  | generateRefreshToken userId expiryMs =>
      (manager.generateRefreshToken (some (.string userId)) expiryMs).bind (fun _ => .done ())
  | issueToken userId roles => (manager.issueToken userId roles).bind (fun _ => .done ())
  | verifyAccessToken token => (manager.verifyAccessToken token).bind (fun _ => .done ())
  | verifyRefreshToken token => (manager.verifyRefreshToken token).bind (fun _ => .done ())
  | revokeToken token => manager.revokeToken token
  | isTokenRevoked token => (manager.isTokenRevoked token).bind (fun _ => .done ())
  | refreshToken token => (manager.refreshToken token).bind (fun _ => .done ())

-----------------------------------------------------------------------------------------
-- Within one process
-----------------------------------------------------------------------------------------

namespace TokenWorld

variable {π σ : Type} [DecidableEq π] {surroundings : Surroundings σ}

/-- The world after calls on the managers of the processes, one after the other. -/
def afterOperations (manager : TokenManager) (surroundings : Surroundings σ)
    : List (π × TokenOperation) → TokenWorld π π σ → TokenWorld π π σ
  | [], world => world
  | (process, operation) :: rest, world =>
      afterOperations manager surroundings rest
        ((operation.program manager).run (serve surroundings id process) world).2

/-- By induction on the calls. -/
theorem afterOperations_keeps {manager : TokenManager} {process : π} {tokenHash : String}
    (operations : List (π × TokenOperation)) {world : TokenWorld π π σ}
    (known : Knows process tokenHash world)
    : Knows process tokenHash (afterOperations manager surroundings operations world) := by
  induction operations generalizing world with
  | nil => exact known
  | cons operation rest ih => exact ih (run_keeps _ _ known)

end TokenWorld

namespace TokenManager

open TokenWorld

variable {π σ : Type} [DecidableEq π] {surroundings : Surroundings σ} {manager : TokenManager}
  {process : π}

/-- A revocation reads the clock, tells its process and then the store. -/
theorem run_revokeToken {token : String} {world : TokenWorld π π σ}
    : (manager.revokeToken token).run (serve surroundings id process) world
      = match manager.jwtStrategy.decodeToken token with
        | .error error => (.error (logged error), world)
        | .ok decoded =>
            let nowSec := (surroundings.now world.outside).1 / 1000
            let stored :=
              (manager.storeRevocation token
                  (Number.max 1 (manager.remainingSeconds decoded nowSec))).run
                (serve surroundings id process)
                (afterCall surroundings id process (.blacklistAdd (manager.hashToken token))
                  (afterCall surroundings id process .now world))
            (stored.1.mapError logged, stored.2) := by
  unfold revokeToken decodeJwt
  rcases manager.jwtStrategy.decodeToken token with error | decoded
  · simp
  · simp only [Program.ofResult, Program.bind_eq, Program.bind, Program.run_catchError,
      Program.run_bind, run_awaitToken, serve_now, serve_add]
    generalize (manager.storeRevocation token _).run _ _ = stored
    rcases stored with ⟨error | done, after⟩ <;> rfl

/-- A revocation that resolves has put the hash in the set of its process. -/
theorem revokeToken_known {token : String} {world : TokenWorld π π σ}
    (resolved : ((manager.revokeToken token).run (serve surroundings id process) world).1 = .ok ())
    : Knows process (manager.hashToken token)
        ((manager.revokeToken token).run (serve surroundings id process) world).2 := by
  rw [run_revokeToken] at resolved ⊢
  rcases decoding : manager.jwtStrategy.decodeToken token with error | decoded
  · rw [decoding] at resolved
    exact nomatch resolved
  · exact run_keeps process _ knows_added

/-- A token whose hash the process knows counts as revoked. -/
theorem run_isTokenRevoked_known {token : String} {world : TokenWorld π π σ}
    (known : Knows process (manager.hashToken token) world)
    : (manager.isTokenRevoked token).run (serve surroundings id process) world
      = (.ok true,
        afterCall surroundings id process (.blacklistHas (manager.hashToken token)) world) := by
  simp [isTokenRevoked, known]

variable {token : String} {world : TokenWorld π π σ}

theorem run_verifyAccessToken_known (known : Knows process (manager.hashToken token) world)
    : (manager.verifyAccessToken token).run (serve surroundings id process) world
      = (.error (.authentication "JWT token has been revoked" .revokedToken),
        afterCall surroundings id process (.blacklistHas (manager.hashToken token)) world) := by
  simp [verifyAccessToken, run_isTokenRevoked_known known]

theorem run_verifyRefreshToken_known (known : Knows process (manager.hashToken token) world)
    : (manager.verifyRefreshToken token).run (serve surroundings id process) world
      = (.error (.authentication "Refresh token has been revoked" .revokedToken),
        afterCall surroundings id process (.blacklistHas (manager.hashToken token)) world) := by
  simp [verifyRefreshToken, run_isTokenRevoked_known known]

theorem run_refreshToken_known (known : Knows process (manager.hashToken token) world)
    : (manager.refreshToken token).run (serve surroundings id process) world
      = (.error (.authentication "Refresh token has been revoked" .revokedToken),
        afterCall surroundings id process (.blacklistHas (manager.hashToken token)) world) := by
  simp [refreshToken, run_verifyRefreshToken_known known]

end TokenManager

open TokenWorld in
/-- Once a revocation has resolved in a process, and whatever is called afterwards in any process,
every use of the token there is refused as revoked. The surroundings are arbitrary, so that any
command of the store may fail.
-/
theorem revoked_stays_refused {π σ : Type} [DecidableEq π] (manager : TokenManager)
    (surroundings : Surroundings σ) (process : π) (token : String) (world : TokenWorld π π σ)
    (resolved : ((manager.revokeToken token).run (serve surroundings id process) world).1 = .ok ())
    (later : List (π × TokenOperation))
    : let after :=
        afterOperations manager surroundings later
          ((manager.revokeToken token).run (serve surroundings id process) world).2
      ((manager.verifyAccessToken token).run (serve surroundings id process) after).1
        = .error (.authentication "JWT token has been revoked" .revokedToken)
      ∧ ((manager.verifyRefreshToken token).run (serve surroundings id process) after).1
        = .error (.authentication "Refresh token has been revoked" .revokedToken)
      ∧ ((manager.refreshToken token).run (serve surroundings id process) after).1
        = .error (.authentication "Refresh token has been revoked" .revokedToken) := by
  intro after
  have known : Knows process (manager.hashToken token) after :=
    afterOperations_keeps later (TokenManager.revokeToken_known resolved)
  exact ⟨
    congrArg Prod.fst (TokenManager.run_verifyAccessToken_known known),
    congrArg Prod.fst (TokenManager.run_verifyRefreshToken_known known),
    congrArg Prod.fst (TokenManager.run_refreshToken_known known)
  ⟩

/-- The manager of a process without a key builder. -/
noncomputable def loginManager (redisOps : Option StoreMethods) : TokenManager where
  jwtStrategy := defaultStrategy loginTokens
  redisOps := redisOps
  buildKey := none
  sha256 := loginHashes

/-- A store that takes every command and keeps nothing, at a time that stands still. -/
def forgetful : Surroundings Nat where
  now time := (Int.ofNat time, time)
  store
    | .setex _ _ _, time => (.ok (), time)
    | .set _ _ _, time => (.ok (), time)
    | .keyExists _, time => (.ok false, time)
    | .get _, time => (.ok none, time)

/-- The world of a process that has revoked nothing, at a time. -/
def untouched (time : Nat) : TokenWorld Unit Unit Nat where
  blacklist _ := []
  outside := time
  trace := []

open TokenWorld in
/-- A revoked refresh token is refused although the store has forgotten it, also after a new
login.
-/
theorem revoked_stays_refused_forgetful
    : let manager := loginManager (some redisOperations)
      let revoked :=
        (manager.revokeToken aliceRefreshToken).run (serve forgetful id ())
          (untouched 1700604600000)
      let after :=
        afterOperations manager forgetful [((), .issueToken "alice" ["ADMIN"])] revoked.2
      revoked.1 = .ok ()
      ∧ ((manager.refreshToken aliceRefreshToken).run (serve forgetful id ()) after).1
        = .error (.authentication "Refresh token has been revoked" .revokedToken) := by
  intro manager revoked after
  have resolved : revoked.1 = .ok () := by decide +kernel
  have refused :=
    revoked_stays_refused manager forgetful () aliceRefreshToken (untouched 1700604600000) resolved
      [((), .issueToken "alice" ["ADMIN"])]
  exact ⟨resolved, refused.2.2⟩

end QueueForge.Security
