import QueueForge.Security.LocalRevocation

/-! What a refresh gives for a token that a login has issued.
More than 300 seconds before its end the token itself, later a new access token of its subject.
-/

namespace QueueForge.Security

open QueueForge.Async QueueForge.Js

/-- The clock counts from the epoch, and the store answers every command. -/
structure Surroundings.Working {σ : Type} (surroundings : Surroundings σ) : Prop where
  epoch : ∀ state, 0 ≤ (surroundings.now state).1
  answers : ∀ command state, ∃ value, (surroundings.store command state).1 = .ok value

namespace JWTStrategy

/-- The `exp` claim that can be read from a token. -/
def ExpiresAt (strategy : JWTStrategy) (token : String) (expiry : Int) : Prop :=
  ∃ decoded,
    strategy.decodeToken token = .ok decoded
    ∧ decoded.get "exp" = some (.number (.ofInt expiry))

/-- The claims of a manager's token. -/
structure Claims (strategy : JWTStrategy) (subject : String) (roles : List String) (type : String)
    (expiry : Int) (claim : String → Option Claim)
    : Prop where
  iss : claim "iss" = some (.string strategy.issuer)
  aud : claim "aud" = some (.string strategy.audience)
  nbf : claim "nbf" = none
  exp : claim "exp" = some (.number (.ofInt expiry))
  sub : claim "sub" = some (.string subject)
  roles : claim "roles" = some (.texts roles)
  type : claim "type" = some (.string type)

/-- A payload of a manager, whose roles are left out in a refresh token. -/
def managerPayload (subject : String) (roles : Option (List String)) (type : String)
    : JWTPayload where
  members :=
    ("sub", some (.string subject))
    :: (roles.elim [] (fun roles => [("roles", some (.texts roles))])
      ++ [("type", some (.string type))])

section
variable (strategy : JWTStrategy) (now : Int) (subject : String) (given : Option (List String))
  (type : String) (expiryMs : Option Int)

theorem fullPayload_claims
    : strategy.Claims subject (given.getD []) type
        (now / 1000 + (expiryMs.filter (· ≠ 0)).getD strategy.defaultExpiryMs / 1000)
        (strategy.fullPayload now (managerPayload subject given type) expiryMs).get := by
  cases given <;> constructor <;>
    simp [fullPayload, managerPayload, Members.get, Members.lookup_spread, JWTPayload.get,
      List.lookup_cons, Claim.orElse, Claim.truthy]

theorem fullPayload_writable
    : (strategy.fullPayload now (managerPayload subject given type) expiryMs).writable = true := by
  cases given <;>
    simp [fullPayload, managerPayload, Members.writable, Members.spread, Members.get,
      JWTPayload.get, List.lookup_cons, Claim.writable, Claim.orElse, Claim.truthy, Number.ofInt]

theorem fullPayload_datesNumeric
    : (strategy.fullPayload now (managerPayload subject given type) expiryMs).datesNumeric
      = true := by
  cases given <;>
    simp [fullPayload, managerPayload, Members.datesNumeric, Members.numericAt,
      Members.lookup_spread, List.lookup_cons]

end

/-- A token signed over such claims. -/
def Issued (strategy : JWTStrategy) (subject : String) (roles : List String) (type : String)
    (expiry : Int) (token : String)
    : Prop :=
  ∃ claims : Members,
    strategy.Claims subject roles type expiry claims.get
    ∧ claims.writable = true
    ∧ strategy.jwt.sign claims strategy.secret = .ok token

section
variable {strategy : JWTStrategy} {subject : String} {roles : List String} {type : String}
  {expiry now : Int} {token : String}

theorem generateToken_issued {given : Option (List String)} {expiryMs : Option Int}
    (signed
      : strategy.generateToken now (managerPayload subject given type) expiryMs = .ok token)
    : strategy.Issued subject (given.getD []) type
        (now / 1000 + (expiryMs.filter (· ≠ 0)).getD strategy.defaultExpiryMs / 1000) token := by
  unfold generateToken at signed
  refine ⟨_, fullPayload_claims strategy now subject given type expiryMs,
    fullPayload_writable strategy now subject given type expiryMs, ?_⟩
  cases result
    : strategy.jwt.sign (strategy.fullPayload now (managerPayload subject given type) expiryMs)
        strategy.secret with
  | error message => rw [result] at signed; exact nomatch signed
  | ok other => rw [result] at signed; exact congrArg Except.ok (Except.ok.inj signed)

variable (documented : strategy.jwt.Documented)
include documented

/-- Such claims are always signed. -/
theorem generateToken_resolves (now : Int) (subject : String) (given : Option (List String))
    (type : String) (expiryMs : Option Int)
    : ∃ token,
        strategy.generateToken now (managerPayload subject given type) expiryMs = .ok token := by
  have numeric := fullPayload_datesNumeric strategy now subject given type expiryMs
  obtain ⟨token, signed⟩ :=
    (documented.signs_iff _ strategy.secret strategy.secret_given).mpr numeric
  exact ⟨token, by rw [generateToken, signed]⟩

/-- The claims that were signed are read from the token. -/
theorem Issued.decodes (issued : strategy.Issued subject roles type expiry token)
    : ∃ decoded,
        strategy.decodeToken token = .ok decoded
        ∧ strategy.Claims subject roles type expiry decoded.get := by
  obtain ⟨claims, held, writable, signed⟩ := issued
  obtain ⟨decoded, read, _, same⟩ := documented.decodes signed writable
  rw [← funext same] at held
  exact ⟨decoded, by rw [decodeToken, read], held⟩

theorem Issued.expiresAt_iff (issued : strategy.Issued subject roles type expiry token)
    {other : Int}
    : strategy.ExpiresAt token other ↔ other = expiry := by
  obtain ⟨decoded, read, held⟩ := issued.decodes documented
  constructor
  · rintro ⟨again, reread, exp⟩
    rw [read] at reread
    cases reread
    rw [held.exp] at exp
    simpa [Number.ofInt] using exp.symm
  · rintro rfl
    exact ⟨decoded, read, held.exp⟩

/-- A token is of one type. -/
theorem Issued.type_eq (issued : strategy.Issued subject roles type expiry token)
    {otherSubject otherType : String} {otherRoles : List String} {otherExpiry : Int}
    (other : strategy.Issued otherSubject otherRoles otherType otherExpiry token)
    : type = otherType := by
  obtain ⟨decoded, read, held⟩ := issued.decodes documented
  obtain ⟨again, reread, otherHeld⟩ := other.decodes documented
  rw [read] at reread
  cases reread
  exact Claim.string.inj (Option.some.inj (held.type.symm.trans otherHeld.type))

/-- The token is accepted until it expires. -/
theorem Issued.verifies (issued : strategy.Issued subject roles type expiry token)
    (fresh : now / 1000 < expiry)
    : ∃ decoded,
        strategy.verifyToken now token = .ok decoded
        ∧ strategy.Claims subject roles type expiry decoded.get := by
  obtain ⟨claims, held, writable, signed⟩ := issued
  have issuer : claims.get "iss" = some (.string strategy.verifyOptions.issuer) := held.iss
  obtain ⟨decoded, verified, _, same⟩ :=
    documented.verifies signed writable issuer held.aud held.nbf held.exp fresh
  rw [← funext same] at held
  have given : token ≠ "" := by
    rintro rfl
    exact documented.refuses_empty verified
  exact ⟨decoded, by simp [verifyToken, given, verified], held⟩

end

end JWTStrategy

namespace TokenManager

open TokenWorld

variable {π σ : Type} [DecidableEq π] {surroundings : Surroundings σ} {manager : TokenManager}
  {process : π} {world : TokenWorld π π σ} {token : String}

/-- A manager signs with the clock it reads. -/
theorem run_signJwt {payload : JWTPayload} {expiryMs : Option Int}
    : (manager.signJwt payload expiryMs).run (serve surroundings id process) world
      = (manager.jwtStrategy.generateToken (surroundings.now world.outside).1 payload expiryMs,
        afterCall surroundings id process .now world) := by
  simp [signJwt]

theorem run_verifyJwt
    : (manager.verifyJwt token).run (serve surroundings id process) world
      = (manager.jwtStrategy.verifyToken (surroundings.now world.outside).1 token,
        afterCall surroundings id process .now world) := by
  simp [verifyJwt]

theorem generateAccessToken_eq (userId : String) (roles : List String) (expiryMs : Option Int)
    : manager.generateAccessToken (some (.string userId)) (some (.texts roles)) expiryMs
      = manager.signJwt (JWTStrategy.managerPayload userId (some roles) "access") expiryMs :=
  rfl

theorem generateRefreshToken_eq (userId : String) (expiryMs : Int)
    : manager.generateRefreshToken (some (.string userId)) expiryMs
      = manager.signJwt (JWTStrategy.managerPayload userId none "refresh") (some expiryMs) :=
  rfl

/-- Reading when a token expires never fails. -/
theorem run_expiryOf (surroundings : Surroundings σ) (manager : TokenManager) (process : π)
    (world : TokenWorld π π σ) (token : String)
    : ∃ date,
        (manager.expiryOf token).run (serve surroundings id process) world
        = (.ok date, afterCall surroundings id process .now world) := by
  unfold expiryOf
  rcases manager.jwtStrategy.decodeToken token with error | decoded
  · exact ⟨_, by simp; rfl⟩
  · cases given : (decoded.get "exp").filter Claim.truthy with
    | none => exact ⟨_, by simp [given]; rfl⟩
    | some exp => exact ⟨_, by simp [given]; rfl⟩

/-- The refresh token of a login. -/
theorem issueToken_issued {userId : String} {roles : List String} {issued : IssuedTokens}
    (loggedIn
      : ((manager.issueToken userId roles).run (serve surroundings id process) world).1
        = .ok issued)
    : ∃ expiry, manager.jwtStrategy.Issued userId [] "refresh" expiry issued.refreshToken := by
  unfold issueToken at loggedIn
  simp only [Program.bind_eq, Program.run_bind, generateAccessToken_eq, generateRefreshToken_eq,
    run_signJwt] at loggedIn
  split at loggedIn
  case h_1 accessToken after _ =>
    split at loggedIn
    case h_1 refreshToken later signed =>
      obtain ⟨date, read⟩ :=
        run_expiryOf surroundings manager process later accessToken
      rw [read] at loggedIn
      cases loggedIn
      exact ⟨_, JWTStrategy.generateToken_issued (congrArg Prod.fst signed)⟩
    case h_2 => exact nomatch loggedIn
  case h_2 => exact nomatch loggedIn

/-- A working store takes every revocation. -/
theorem storeRevocation_resolves (working : surroundings.Working) (ttl : Number)
    : ((manager.storeRevocation token ttl).run (serve surroundings id process) world).1
      = .ok () := by
  unfold storeRevocation
  cases manager.redisOps with
  | none => rfl
  | some methods =>
      cases expiring : methods.setex with
      | true =>
          obtain ⟨value, answered⟩ :=
            working.answers (.setex s!"revoked_token:{token}" ttl "revoked") world.outside
          simp only [expiring, if_true, run_awaitToken, serve_store, answered, Except.mapError]
      | false =>
          cases plain : methods.set with
          | true =>
              obtain ⟨value, answered⟩ :=
                working.answers
                  (.set (manager.getBlacklistKey (manager.hashToken token)) "revoked" ttl)
                  world.outside
              simp only [expiring, plain, Bool.false_eq_true, if_false, if_true, run_awaitToken,
                serve_store, answered, Except.mapError]
          | false => simp [expiring, plain]

/-- So it takes the revocation of a token that can be read. -/
theorem revokeToken_resolves (working : surroundings.Working) {decoded : JWTPayload}
    (decodes : manager.jwtStrategy.decodeToken token = .ok decoded)
    : ((manager.revokeToken token).run (serve surroundings id process) world).1 = .ok () := by
  rw [run_revokeToken, decodes]
  simp only [storeRevocation_resolves working, Except.mapError]

/-- What is left of a token's life, read from its claims. -/
theorem remainingSeconds_claims {subject : String} {roles : List String} {type : String}
    {expiry : Int} {decoded : JWTPayload}
    (held : manager.jwtStrategy.Claims subject roles type expiry decoded.get) (dated : expiry ≠ 0)
    (nowSec : Int)
    : manager.remainingSeconds decoded nowSec = .ofInt (expiry - nowSec) := by
  have nonzero : (expiry : Rat) ≠ 0 := fun zero => dated (Rat.intCast_eq_zero_iff.mp zero)
  rw [remainingSeconds_eq held.exp nonzero, Number.ofInt, Rat.intCast_sub]

section
variable {checked : TokenWorld π π σ} {subject : String} {roles : List String} {expiry : Int}
  (documented : manager.jwtStrategy.jwt.Documented)
  (unrevoked
    : (manager.isTokenRevoked token).run (serve surroundings id process) world
      = (.ok false, checked))
  (valid : (surroundings.now checked.outside).1 / 1000 < expiry)
include documented unrevoked valid

/-- An access token that is not revoked is accepted until it expires. -/
theorem run_verifyAccessToken_issued
    (issued : manager.jwtStrategy.Issued subject roles "access" expiry token)
    : ∃ payload,
        (manager.verifyAccessToken token).run (serve surroundings id process) world
          = (.ok payload, afterCall surroundings id process .now checked)
        ∧ manager.jwtStrategy.Claims subject roles "access" expiry payload.get := by
  obtain ⟨payload, verified, held⟩ := issued.verifies documented valid
  exact ⟨payload, by simp [verifyAccessToken, unrevoked, run_verifyJwt, verified, held.type], held⟩

/-- A refresh token that is not revoked is accepted until it expires. -/
theorem run_verifyRefreshToken_issued
    (issued : manager.jwtStrategy.Issued subject roles "refresh" expiry token)
    : ∃ payload,
        (manager.verifyRefreshToken token).run (serve surroundings id process) world
          = (.ok payload, afterCall surroundings id process .now checked)
        ∧ manager.jwtStrategy.Claims subject roles "refresh" expiry payload.get := by
  obtain ⟨payload, verified, held⟩ := issued.verifies documented valid
  exact ⟨payload, by simp [verifyRefreshToken, unrevoked, run_verifyJwt, verified, held.type], held⟩

end

/-- A rotation gives an access token of the subject, with the roles of the payload. -/
theorem run_rotate_issued (process : π) (world : TokenWorld π π σ)
    (documented : manager.jwtStrategy.jwt.Documented)
    (working : surroundings.Working) {subject : String} {roles : List String} {expiry : Int}
    (issued : manager.jwtStrategy.Issued subject roles "refresh" expiry token)
    {payload : JWTPayload}
    (held : manager.jwtStrategy.Claims subject roles "refresh" expiry payload.get)
    : ∃ tokens fresh,
        ((manager.rotate token payload).run (serve surroundings id process) world).1 = .ok tokens
        ∧ manager.jwtStrategy.Issued subject roles "access" fresh tokens.accessToken := by
  obtain ⟨decoded, decodes, _⟩ := issued.decodes documented
  have kept
      : Claim.orElse (payload.get "roles")
          (Claim.orElse (payload.get "scope") (some (.texts ["USER"])))
        = some (.texts roles) := by
    simp [held.roles, Claim.orElse, Claim.truthy]
  unfold rotate
  simp only [kept, held.sub, generateAccessToken_eq, generateRefreshToken_eq, Program.bind_eq,
    Program.run_bind, run_signJwt]
  have resolved
      : ((manager.revokeToken token).run (serve surroundings id process) world).1 = .ok () :=
    revokeToken_resolves working decodes
  generalize (manager.revokeToken token).run (serve surroundings id process) world = revoked
    at resolved ⊢
  obtain ⟨result, after⟩ := revoked
  cases resolved
  obtain ⟨access, signed⟩ :=
    JWTStrategy.generateToken_resolves documented (surroundings.now after.outside).1 subject
      (some roles) "access" none
  obtain ⟨refresh, signedToo⟩ :=
    JWTStrategy.generateToken_resolves documented
      (surroundings.now (afterCall surroundings id process .now after).outside).1 subject none
      "refresh" (some 604800000)
  simp only [signed, signedToo]
  obtain ⟨date, read⟩ :=
    run_expiryOf surroundings manager process
      (afterCall surroundings id process .now (afterCall surroundings id process .now after))
      access
  simp only [read]
  exact ⟨_, _, rfl, JWTStrategy.generateToken_issued signed⟩

end TokenManager

open TokenWorld in
/-- A refresh with a valid refresh token of a login that is not revoked. While more than 300
seconds remain, the token itself comes back as the current token, and nothing is revoked. After
that a new access token comes back, which is accepted until it expires or is revoked itself, with
the subject of the login.
-/
theorem refreshToken_gives {π σ : Type} [DecidableEq π] {surroundings : Surroundings σ}
    {manager : TokenManager} {process : π} {login world checked : TokenWorld π π σ}
    {userId : String} {roles : List String} {issued : IssuedTokens} {expiry : Int}
    (documented : manager.jwtStrategy.jwt.Documented) (working : surroundings.Working)
    (loggedIn
      : ((manager.issueToken userId roles).run (serve surroundings id process) login).1
        = .ok issued)
    (expires : manager.jwtStrategy.ExpiresAt issued.refreshToken expiry)
    (unrevoked
      : (manager.isTokenRevoked issued.refreshToken).run (serve surroundings id process) world
        = (.ok false, checked))
    (valid : (surroundings.now checked.outside).1 / 1000 < expiry)
    : let verified := afterCall surroundings id process .now checked
      let remaining := expiry - (surroundings.now verified.outside).1 / 1000
      let refreshed :=
        (manager.refreshToken issued.refreshToken).run (serve surroundings id process) world
      (300 < remaining
        → refreshed
          = (.ok {
              accessToken := issued.refreshToken
              refreshToken := issued.refreshToken
              tokenType := "Bearer"
              expiresIn := .ofInt remaining
              expiresAt := none
            }, afterCall surroundings id process .now verified))
      ∧ (remaining ≤ 300
        → ∃ tokens fresh,
            refreshed.1 = .ok tokens
            ∧ tokens.accessToken ≠ issued.refreshToken
            ∧ manager.jwtStrategy.ExpiresAt tokens.accessToken fresh
            ∧ ∀ later seen,
                (manager.isTokenRevoked tokens.accessToken).run (serve surroundings id process)
                    later
                  = (.ok false, seen)
                → (surroundings.now seen.outside).1 / 1000 < fresh
                → ∃ payload,
                    ((manager.verifyAccessToken tokens.accessToken).run
                        (serve surroundings id process) later).1
                      = .ok payload
                    ∧ payload.get "sub" = some (.string userId)) := by
  intro verified remaining refreshed
  obtain ⟨end_, signed⟩ := TokenManager.issueToken_issued loggedIn
  obtain rfl := (signed.expiresAt_iff documented).mp expires
  obtain ⟨payload, accepted, held⟩ :=
    TokenManager.run_verifyRefreshToken_issued documented unrevoked valid signed
  have dated : expiry ≠ 0 := by
    have epoch := working.epoch checked.outside
    omega
  have left := TokenManager.remainingSeconds_claims held dated
  have asked : ∀ seconds : Int, Number.lt 300 (.ofInt seconds) = decide (300 < seconds) :=
    fun seconds => Number.ofInt_lt_ofInt 300 seconds
  have ran
      : refreshed
        = (if 300 < remaining then
            .done {
              accessToken := issued.refreshToken
              refreshToken := issued.refreshToken
              tokenType := "Bearer"
              expiresIn := .ofInt remaining
              expiresAt := none
            }
          else
            manager.rotate issued.refreshToken payload).run (serve surroundings id process)
          (afterCall surroundings id process .now verified) := by
    simp only [refreshed, TokenManager.refreshToken, Program.bind_eq, Program.run_bind, accepted,
      run_awaitToken, serve_now, left, asked, decide_eq_true_eq, Program.pure_eq]
    rfl
  constructor
  · intro early
    rw [ran, if_pos early]
    rfl
  · intro late
    rw [ran, if_neg (not_lt.mpr late)]
    obtain ⟨tokens, fresh, rotated, access⟩ :=
      TokenManager.run_rotate_issued process (afterCall surroundings id process .now verified)
        documented working signed held
    refine ⟨tokens, fresh, rotated, ?_, (access.expiresAt_iff documented).mpr rfl, ?_⟩
    · intro same
      rw [same] at access
      exact absurd (signed.type_eq documented access) (by decide)
    · intro later seen usable begun
      obtain ⟨claims, granted, owned⟩ :=
        TokenManager.run_verifyAccessToken_issued documented usable begun access
      exact ⟨claims, congrArg Prod.fst granted, owned.sub⟩

open TokenWorld in
/-- A refresh gives a new access token of the user with the roles of the login. -/
def RefreshesLogin (manager : TokenManager) {π σ : Type} [DecidableEq π]
    (surroundings : Surroundings σ) (process : π) (world : TokenWorld π π σ) (token userId : String)
    (roles : List String)
    : Prop :=
  let refreshed := (manager.refreshToken token).run (serve surroundings id process) world
  ∃ tokens payload,
    refreshed.1 = .ok tokens
    ∧ tokens.accessToken ≠ token
    ∧ ((manager.verifyAccessToken tokens.accessToken).run (serve surroundings id process)
          refreshed.2).1
        = .ok payload
    ∧ payload.get "sub" = some (.string userId)
    ∧ payload.get "roles" = some (.texts roles)

/-- What the login of alice gives. -/
def aliceTokens : IssuedTokens where
  accessToken := aliceAccessToken
  refreshToken := aliceRefreshToken
  tokenType := "Bearer"
  expiresIn := 3600
  expiresAt := some (some 1700003600000)

theorem run_issueToken_alice
    : (((loginManager (some redisOperations)).issueToken "alice" ["ADMIN"]).run
          (TokenWorld.serve forgetful id ()) (untouched 1700000000000)).1
      = .ok aliceTokens := by
  decide +kernel

/-- A second after the login, the refresh token itself comes back. -/
theorem refreshToken_returns_current
    : let manager := loginManager (some redisOperations)
      let served := TokenWorld.serve forgetful id ()
      ((manager.issueToken "alice" ["ADMIN"]).run served (untouched 1700000000000)).1
          = .ok aliceTokens
        ∧ ((manager.isTokenRevoked aliceRefreshToken).run served (untouched 1700000001000)).1
          = .ok false
        ∧ ¬RefreshesLogin manager forgetful () (untouched 1700000001000) aliceRefreshToken "alice"
          ["ADMIN"] := by
  intro manager served
  refine ⟨run_issueToken_alice, by decide +kernel, ?_⟩
  rintro ⟨tokens, payload, refreshed, fresh, _⟩
  have returned
      : ((manager.refreshToken aliceRefreshToken).run served (untouched 1700000001000)).1.map
          IssuedTokens.accessToken
        = .ok aliceRefreshToken := by
    decide +kernel
  rw [refreshed] at returned
  exact fresh (Except.ok.inj returned)

theorem forgetful_working : forgetful.Working where
  epoch time := Int.natCast_nonneg time
  answers command _ := by cases command <;> exact ⟨_, rfl⟩

/-- The law of the refreshes, at the token of a login 200 seconds before it expires. -/
theorem refreshToken_gives_alice
    : let manager := loginManager (some redisOperations)
      let served := TokenWorld.serve forgetful id ()
      ∃ tokens fresh,
        ((manager.refreshToken aliceRefreshToken).run served (untouched 1700604600000)).1 = .ok tokens
        ∧ tokens.accessToken ≠ aliceRefreshToken
        ∧ manager.jwtStrategy.ExpiresAt tokens.accessToken fresh
        ∧ ∀ later seen,
            (manager.isTokenRevoked tokens.accessToken).run served later = (.ok false, seen)
            → (forgetful.now seen.outside).1 / 1000 < fresh
            → ∃ payload,
                ((manager.verifyAccessToken tokens.accessToken).run served later).1 = .ok payload
                ∧ payload.get "sub" = some (.string "alice") := by
  intro manager served
  have expires : manager.jwtStrategy.ExpiresAt aliceRefreshToken 1700604800 :=
    ⟨⟨aliceClaims 1700000000 604800 [] "refresh", false⟩, by decide +kernel, rfl⟩
  have unrevoked
      : ((manager.isTokenRevoked aliceRefreshToken).run served (untouched 1700604600000)).1
        = .ok false := by
    decide +kernel
  exact
    (refreshToken_gives loginTokens.jwt_documented forgetful_working run_issueToken_alice expires
      (Prod.ext unrevoked rfl) (by decide +kernel)).2 (by decide +kernel)

end QueueForge.Security
