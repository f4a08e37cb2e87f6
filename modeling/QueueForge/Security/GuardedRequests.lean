import QueueForge.Async.Throughout
import QueueForge.Security.AuthGuard
import QueueForge.Security.LocalRevocation

/-! Requests among the issues and revocations of a token manager.
The guard verifies a token and looks neither at the revocations nor at the type of the token.
-/

namespace QueueForge.Security

open QueueForge.Async QueueForge.Js

/-- The refresh tokens a call issues. -/
def TokenOperation.refreshTokens (manager : TokenManager) : TokenOperation → TokenProgram (List String)
  | generateRefreshToken userId expiryMs =>
      (manager.generateRefreshToken (some (.string userId)) expiryMs).bind
        (fun token => .done [token])
  | issueToken userId roles =>
      (manager.issueToken userId roles).bind (fun issued => .done [issued.refreshToken])
  | refreshToken token =>
      (manager.refreshToken token).bind
        (fun issued => .done (if issued.expiresAt.isSome then [issued.refreshToken] else []))
  | operation => (operation.program manager).bind (fun _ => .done [])

/-- The token whose revocation the call is. -/
def TokenOperation.revokes? : TokenOperation → Option String
  | revokeToken token => some token
  | _ => none

/-- The world with the tokens that were revoked and those issued as refresh tokens, and whether a
request with one of them has been accepted.
-/
structure AuthHistory (σ : Type) where
  world : TokenWorld Unit Unit σ
  revoked : List String := []
  refreshTokens : List String := []
  trespassed : Bool := false

inductive AuthStep where
  | operate (operation : TokenOperation)
  | request (authHeader apiKeyHeader : Option String)

/-- The header is to be rejected: it bears a revoked token, or a refresh token is read from it. -/
def AuthHistory.forbids {σ : Type} (history : AuthHistory σ) (authHeader : String) : Bool :=
  history.revoked.any (fun token => decide (authHeader = "Bearer " ++ token))
  || match JWTStrategy.extractToken authHeader with
    | .ok token => history.refreshTokens.contains token
    | .error _ => false

/-- The request is accepted for its bearer token. -/
def acceptsBearer : Settled SecurityError AuthContext → Bool
  | .ok context => decide (context.type = "jwt")
  | .error _ => false

namespace AuthGuard

open TokenWorld

variable {σ : Type} (manager : TokenManager) (guard : AuthGuard) (surroundings : Surroundings σ)

/-- A step of a run. -/
def take (step : AuthStep) (history : AuthHistory σ) : AuthHistory σ :=
  match step with
  | .operate operation =>
      let called :=
        (operation.refreshTokens manager).run (serve surroundings id ()) history.world
      match called.1 with
      | .ok issued => {
          history with
          world := called.2
          revoked := operation.revokes?.toList ++ history.revoked
          refreshTokens := issued ++ history.refreshTokens
        }
      | .error _ => { history with world := called.2 }
  | .request authHeader apiKeyHeader =>
      let answered :=
        (guard.authenticate authHeader apiKeyHeader).run (serve surroundings id ()) history.world
      {
        history with
        world := answered.2
        trespassed :=
          history.trespassed || acceptsBearer answered.1 && authHeader.any history.forbids
      }

/-- No request has been accepted that was to be rejected. -/
def Guarded (history : AuthHistory σ) : Prop :=
  history.trespassed = false

/-- What the guard looks at: the token verifies, and its claims make a context. -/
def admits (authHeader : String) (now : Int) : Bool :=
  startsWithIgnoringCase "bearer " (trim authHeader)
  && match JWTStrategy.extractToken authHeader with
    | .error _ => false
    | .ok rawToken =>
        match guard.jwtStrategy.verifyToken now rawToken with
        | .error _ => false
        | .ok payload =>
            match rolesOf payload, scopesOf payload with
            | .texts _, .texts _ => true
            | _, _ => false

/-- A request that is to be rejected comes when the guard does not admit its token. -/
def RefusesByItself (step : AuthStep) (history : AuthHistory σ) : Prop :=
  match step with
  | .operate _ => True
  | .request authHeader _ =>
      authHeader.any
          (fun header =>
            history.forbids header
            && guard.admits header (surroundings.now history.world.outside).1)
        = false

/-- Any token without white space is read from its header. -/
theorem admits_bearer {token : String} (given : token ≠ "")
    (plain : ∀ char ∈ token.toList, isWhiteSpace char = false) (now : Int)
    : guard.admits ("Bearer " ++ token) now
      = match guard.jwtStrategy.verifyToken now token with
        | .error _ => false
        | .ok payload =>
            match rolesOf payload, scopesOf payload with
            | .texts _, .texts _ => true
            | _, _ => false := by
  have starts : startsWithIgnoringCase "bearer " ("Bearer " ++ token) = true := by
    simp [startsWithIgnoringCase, toLowerCase]
  unfold admits
  rw [trim_bearer given plain, starts, JWTStrategy.extractToken_bearer given plain]
  rfl

variable {manager guard surroundings}

/-- A context is made of lists only. -/
theorem acceptsBearer_jwtContext (guard : AuthGuard) (payload : JWTPayload) (authenticatedAt : Date)
    : acceptsBearer (guard.jwtContext payload authenticatedAt)
      = match rolesOf payload, scopesOf payload with
        | .texts _, .texts _ => true
        | _, _ => false := by
  unfold jwtContext
  cases rolesOf payload <;> cases scopesOf payload <;>
    simp [upperCased, acceptsBearer, bind, Except.bind, pure, Except.pure]

theorem run_issueTime (guard : AuthGuard) (surroundings : Surroundings σ) (payload : JWTPayload)
    (world : TokenWorld Unit Unit σ)
    : ∃ date after,
        (guard.issueTime payload).run (serve surroundings id ()) world = (.ok date, after) := by
  unfold issueTime
  cases (payload.get "iat").filter Claim.truthy with
  | some iat => exact ⟨_, _, rfl⟩
  | none => exact ⟨_, _, rfl⟩

/-- The bearer path reads the token, verifies it and builds a context. -/
theorem acceptsBearer_authenticateBearer (authHeader : String) (world : TokenWorld Unit Unit σ)
    : acceptsBearer
          ((guard.authenticateBearer authHeader).run (serve surroundings id ()) world).1
      = match JWTStrategy.extractToken authHeader with
        | .error _ => false
        | .ok rawToken =>
            match guard.jwtStrategy.verifyToken (surroundings.now world.outside).1 rawToken with
            | .error _ => false
            | .ok payload =>
                match rolesOf payload, scopesOf payload with
                | .texts _, .texts _ => true
                | _, _ => false := by
  unfold authenticateBearer
  rcases JWTStrategy.extractToken authHeader with error | rawToken
  · rfl
  simp only [Program.bind_eq, Program.run_catchError, Program.run_bind, Program.run_ofResult,
    run_awaitToken, serve_now]
  rcases guard.jwtStrategy.verifyToken (surroundings.now world.outside).1 rawToken
    with error | payload
  · rfl
  obtain ⟨date, after, issued⟩ :=
    run_issueTime guard surroundings payload (afterCall surroundings id () .now world)
  simp only [issued, ← acceptsBearer_jwtContext guard payload date]
  rcases guard.jwtContext payload date with error | context
  · rfl
  · rfl

/-- A context for an API key is none for a bearer token. -/
theorem acceptsBearer_apiKey {result : Settled SecurityError ApiKeyContext}
    {world : TokenWorld Unit Unit σ}
    : acceptsBearer
          ((Program.catchError
              (do
                let key ← Program.ofResult result
                let now ← awaitToken .now
                return apiKeyContext key now)
              (fun error => throw (TokenManager.logged error))).run
            (serve surroundings id ()) world).1
      = false := by
  rcases result with error | key
  · rfl
  · rfl

/-- The guard accepts a bearer token exactly if it admits it at the time it reads. -/
theorem acceptsBearer_authenticate (authHeader apiKeyHeader : Option String)
    (world : TokenWorld Unit Unit σ)
    : acceptsBearer
          ((guard.authenticate authHeader apiKeyHeader).run (serve surroundings id ()) world).1
      = authHeader.any
        (fun header => guard.admits header (surroundings.now world.outside).1) := by
  unfold authenticate
  cases bearing
    : authHeader.filter (fun header => startsWithIgnoringCase "bearer " (trim header)) with
  | some header =>
      obtain ⟨rfl, starts⟩ := Option.filter_eq_some_iff.mp bearing
      simp only [acceptsBearer_authenticateBearer, Option.any_some, admits, starts,
        Bool.true_and]
  | none =>
      have unbearing
          : authHeader.any
                (fun header => guard.admits header (surroundings.now world.outside).1)
              = false := by
        cases authHeader with
        | none => rfl
        | some header =>
            have other := Option.filter_eq_none_iff.mp bearing header rfl
            simp [admits, other]
      rw [unbearing]
      cases ((keyCandidate authHeader apiKeyHeader).map trim).filter (· ≠ "") with
      | none => rfl
      | some candidate => exact acceptsBearer_apiKey

theorem trespassed_operate {operation : TokenOperation} {history : AuthHistory σ}
    : (take manager guard surroundings (.operate operation) history).trespassed
      = history.trespassed := by
  simp only [take]
  split <;> rfl

/-- What a request adds to the history. -/
theorem trespassed_request (authHeader apiKeyHeader : Option String) (history : AuthHistory σ)
    : (take manager guard surroundings (.request authHeader apiKeyHeader) history).trespassed
      = (history.trespassed
        || authHeader.any
          (fun header =>
            history.forbids header
            && guard.admits header (surroundings.now history.world.outside).1)) := by
  simp only [take, acceptsBearer_authenticate]
  cases authHeader with
  | none => rfl
  | some header => simp only [Option.any_some, Bool.and_comm]

/-- A request keeps the guard if and only if it is refused by itself. -/
theorem guarded_request_iff {authHeader apiKeyHeader : Option String} {history : AuthHistory σ}
    (guarded : Guarded history)
    : Guarded (take manager guard surroundings (.request authHeader apiKeyHeader) history)
      ↔ guard.RefusesByItself surroundings (.request authHeader apiKeyHeader) history := by
  unfold Guarded at guarded ⊢
  rw [trespassed_request, guarded, Bool.false_or]
  rfl

/-- Throughout a run no request is accepted that is to be rejected, if and only if every such
request comes when the guard does not admit its token by itself.
-/
theorem guarded_iff (manager : TokenManager) (guard : AuthGuard) (surroundings : Surroundings σ)
    (world : TokenWorld Unit Unit σ) (steps : List AuthStep)
    : Throughout (take manager guard surroundings) Guarded steps { world := world }
      ↔ EveryStep (take manager guard surroundings) (guard.RefusesByItself surroundings) steps
        { world := world } := by
  refine throughout_iff_everyStep (fun _ guarded => guarded) ?_ ?_ steps rfl
  · intro step history guarded refuses
    cases step with
    | operate operation => exact trespassed_operate.trans guarded
    | request authHeader apiKeyHeader => exact (guarded_request_iff guarded).mpr refuses
  · intro step history guarded after
    cases step with
    | operate operation => trivial
    | request authHeader apiKeyHeader => exact (guarded_request_iff guarded).mp after

/-- The guard next to the manager of a login. -/
noncomputable def loginGuard : AuthGuard where
  jwtStrategy := defaultStrategy loginTokens
  validateApiKey _ := .error (.authentication "API key is missing or empty" .invalidKey)
  mapFailure _ := "(data.roles || []).map is not a function"

/-- Alice logs in, her access token is revoked, and a request bears a token. -/
def loginRun (token : String) : List AuthStep := [
  .operate (.issueToken "alice" ["ADMIN"]),
  .operate (.revokeToken aliceAccessToken),
  .request (some ("Bearer " ++ token)) none
]

theorem aliceTokens_plain {token : String}
    (listed : token = aliceAccessToken ∨ token = aliceRefreshToken)
    : ∀ char ∈ token.toList, isWhiteSpace char = false := by
  have plain : token.toList.all (fun char => !isWhiteSpace char) = true := by
    -- One piece of the token at a time: decoding a text takes the square of its length.
    rcases listed with rfl | rfl
    · unfold aliceAccessToken
      repeat rw [String.toList_append, List.all_append]
      decide +kernel
    · unfold aliceRefreshToken
      repeat rw [String.toList_append, List.all_append]
      decide +kernel
  simpa using plain

theorem loginRun_trespasses {token : String}
    (listed : token = aliceAccessToken ∨ token = aliceRefreshToken)
    : (stateAfter (take (loginManager (some redisOperations)) loginGuard forgetful)
        (loginRun token) { world := untouched 1700000000000 }).trespassed
      = true := by
  have given : token ≠ "" := by rcases listed with rfl | rfl <;> decide +kernel
  have plain := aliceTokens_plain listed
  simp only [loginRun, stateAfter, trespassed_request]
  generalize before
    : take (loginManager (some redisOperations)) loginGuard forgetful
        (.operate (.revokeToken aliceAccessToken)) _ = history
  have revoked : history.revoked = [aliceAccessToken] := by subst before; decide +kernel
  have issued : history.refreshTokens = [aliceRefreshToken] := by subst before; decide +kernel
  have time : (forgetful.now history.world.outside).1 = 1700000000000 := by
    subst before; decide +kernel
  have admitted : loginGuard.admits ("Bearer " ++ token) 1700000000000 = true := by
    rw [admits_bearer _ given plain]
    rcases listed with rfl | rfl <;> decide +kernel
  have forbidden : history.forbids ("Bearer " ++ token) = true := by
    rw [AuthHistory.forbids, revoked, issued, JWTStrategy.extractToken_bearer given plain]
    rcases listed with rfl | rfl <;> simp
  rw [Option.any_some, time, admitted, forbidden]
  exact Bool.or_true _

/-- Her revoked access token opens the door, and so does her refresh token. -/
theorem bearers_admitted
    : (¬Throughout (take (loginManager (some redisOperations)) loginGuard forgetful) Guarded
        (loginRun aliceAccessToken) { world := untouched 1700000000000 })
      ∧ ¬Throughout (take (loginManager (some redisOperations)) loginGuard forgetful) Guarded
        (loginRun aliceRefreshToken) { world := untouched 1700000000000 } := by
  refine ⟨fun throughout => ?_, fun throughout => ?_⟩
  · have guarded := throughout (loginRun aliceAccessToken) (List.prefix_refl _)
    exact Bool.false_ne_true (guarded.symm.trans (loginRun_trespasses (.inl rfl)))
  · have guarded := throughout (loginRun aliceRefreshToken) (List.prefix_refl _)
    exact Bool.false_ne_true (guarded.symm.trans (loginRun_trespasses (.inr rfl)))

end AuthGuard

end QueueForge.Security
