import QueueForge.Async.Execution
import QueueForge.Security.JWTStrategy

/-! `TokenManager`: issue, verification, revocation and rotation of tokens.
Its calls are those of the store, the set of revoked hashes in the process, and the clock.
-/

namespace QueueForge.Security

open QueueForge.Async QueueForge.Js

/-- A command of the store. -/
inductive StoreCall where
  | setex (key : String) (seconds : Number) (value : String)
  | set (key value : String) (ttl : Number)
  | keyExists (key : String)
  | get (key : String)
deriving DecidableEq

abbrev StoreCall.Result : StoreCall → Type
  | setex _ _ _ => Unit
  | set _ _ _ => Unit
  | keyExists _ => Bool
  | get _ => Option String

inductive TokenCall where
  | now
  | blacklistHas (tokenHash : String)
  | blacklistAdd (tokenHash : String)
  | store (command : StoreCall)
deriving DecidableEq

abbrev TokenCall.Result : TokenCall → Type
  | now => Int
  | blacklistHas _ => Bool
  | blacklistAdd _ => Unit
  | store command => command.Result

abbrev TokenSignature : Signature where
  Op := TokenCall
  Result := TokenCall.Result

abbrev TokenProgram (α : Type) : Type := Program TokenSignature SecurityError α

def awaitToken (call : TokenCall) : TokenProgram call.Result :=
  Program.perform (S := TokenSignature) call

/-- The commands a store has as its methods. -/
structure StoreMethods where
  setex : Bool
  set : Bool
  keyExists : Bool
  get : Bool

/-- `RedisOperations` has no `setex`. -/
def redisOperations : StoreMethods where
  setex := false
  set := true
  keyExists := true
  get := true

structure IssuedTokens where
  accessToken : String
  refreshToken : String
  tokenType : String
  expiresIn : Number
  expiresAt : Option Date
deriving DecidableEq

/-- Its strategy has all the methods it probes for. A key builder may lack `buildKey`. -/
structure TokenManager where
  jwtStrategy : JWTStrategy
  redisOps : Option StoreMethods
  buildKey : Option (String → String → String)
  sha256 : String → String

namespace TokenManager

variable (manager : TokenManager)

def getBlacklistKey (tokenHash : String) : String :=
  match manager.buildKey with
  | some buildKey => buildKey "token-blacklist" tokenHash
  | none => s!"queueforge:token-blacklist:{tokenHash}"

def hashToken (token : String) : String :=
  manager.sha256 token

def signJwt (payload : JWTPayload) (expiryMs : Option Int) : TokenProgram String := do
  let now ← awaitToken .now
  Program.ofResult (manager.jwtStrategy.generateToken now payload expiryMs)

def decodeJwt (token : String) : TokenProgram JWTPayload :=
  Program.ofResult (manager.jwtStrategy.decodeToken token)

def verifyJwt (token : String) : TokenProgram JWTPayload := do
  let now ← awaitToken .now
  Program.ofResult (manager.jwtStrategy.verifyToken now token)

/-- Issues a short-lived signed access JWT. A refresh passes on what the payload has. -/
def generateAccessToken (userId roles : Option Claim) (expiryMs : Option Int)
    : TokenProgram String :=
  manager.signJwt
    ⟨[
      ("sub", userId),
      ("roles", some (roles.getD (.texts ["USER"]))),
      ("type", some (.string "access"))
    ], false⟩
    expiryMs

/-- Issues a long-lived signed refresh JWT. -/
def generateRefreshToken (userId : Option Claim) (expiryMs : Int := 604800000)
    : TokenProgram String :=
  manager.signJwt ⟨[("sub", userId), ("type", some (.string "refresh"))], false⟩ (some expiryMs)

/-- `new Date(claim * 1000)`. -/
def dateOf (claim : Claim) : Date :=
  Date.ofNumber ((claim.toNumber manager.jwtStrategy.readNumber).mul 1000)

/-- When a fresh access token expires; what goes wrong in reading it is ignored. -/
def expiryOf (accessToken : String) : TokenProgram Date := do
  let now ← awaitToken .now
  match manager.jwtStrategy.decodeToken accessToken with
  | .ok decoded =>
      match (decoded.get "exp").filter Claim.truthy with
      | some exp => return manager.dateOf exp
      | none => return some (now + 3600 * 1000)
  | .error _ => return some (now + 3600 * 1000)

/-- Issues both access and refresh tokens for a user ID. -/
def issueToken (userId : String) (roles : List String) : TokenProgram IssuedTokens := do
  let accessToken ←
    manager.generateAccessToken (some (.string userId)) (some (.texts roles)) none
  let refreshToken ← manager.generateRefreshToken (some (.string userId))
  let expiresAt ← manager.expiryOf accessToken
  return {
    accessToken
    refreshToken
    tokenType := "Bearer"
    expiresIn := 3600
    expiresAt := some expiresAt
  }

/-- What the store knows of a revocation, asked by each method it has. -/
def storedRevocation (token : String) : TokenProgram Bool :=
  match manager.redisOps with
  | none => return false
  | some methods => do
      let res ←
        if methods.keyExists then
          awaitToken (.store (.keyExists s!"revoked_token:{token}"))
        else
          return false
      if res then
        return true
      else if methods.get then
        let val ← awaitToken (.store (.get (manager.getBlacklistKey (manager.hashToken token))))
        return decide (val = some "revoked" ∨ val = some "1")
      else
        return false

/-- Checks whether a token is blacklisted; when the store fails it is taken not to be. -/
def isTokenRevoked (token : String) : TokenProgram Bool :=
  Program.catchError
    (do
      let known ← awaitToken (.blacklistHas (manager.hashToken token))
      if known then
        return true
      else
        manager.storedRevocation token)
    (fun _ => .done false)

/-- Verifies an access token and confirms it is not blacklisted. -/
def verifyAccessToken (token : String) : TokenProgram JWTPayload := do
  let revoked ← manager.isTokenRevoked token
  if revoked then
    throw (.authentication "JWT token has been revoked" .revokedToken)
  else
    let payload ← manager.verifyJwt token
    let type := payload.get "type"
    if type.any Claim.truthy ∧ type ≠ some (.string "access") then
      throw (.authentication "Token type must be an access token" .invalidToken)
    else
      return payload

/-- Verifies a refresh token and confirms it is not blacklisted. -/
def verifyRefreshToken (token : String) : TokenProgram JWTPayload := do
  let revoked ← manager.isTokenRevoked token
  if revoked then
    throw (.authentication "Refresh token has been revoked" .revokedToken)
  else
    let payload ← manager.verifyJwt token
    let type := payload.get "type"
    if type ≠ some (.string "refresh") ∧ type ≠ none then
      throw (.authentication "Token type must be a refresh token" .invalidToken)
    else
      return payload

/-- `(payload.exp || nowSec + 3600) - nowSec`. -/
def remainingSeconds (payload : JWTPayload) (nowSec : Int) : Number :=
  match (payload.get "exp").filter Claim.truthy with
  | some exp => (exp.toNumber manager.jwtStrategy.readNumber).add (.ofInt (-nowSec))
  | none => .ofInt 3600

variable {manager} in
/-- What is left until the payload expires, by a date that is not zero. -/
theorem remainingSeconds_eq {payload : JWTPayload} {expiry : Rat}
    (expires : payload.get "exp" = some (.number (.finite expiry))) (dated : expiry ≠ 0)
    (nowSec : Int)
    : manager.remainingSeconds payload nowSec = .finite (expiry - nowSec) := by
  have given : (payload.get "exp").filter Claim.truthy = some (.number (.finite expiry)) := by
    rw [expires]
    simp [Option.filter, Claim.truthy, Number.truthy, dated]
  simp only [remainingSeconds, given, Claim.toNumber, Number.ofInt, Number.add]
  rw [Rat.intCast_neg, Rat.sub_eq_add_neg]

/-- Records a revocation in the store, by the method it has. -/
def storeRevocation (token : String) (ttlSec : Number) : TokenProgram Unit :=
  match manager.redisOps with
  | none => return ()
  | some methods =>
      if methods.setex then
        awaitToken (.store (.setex s!"revoked_token:{token}" ttlSec "revoked"))
      else if methods.set then
        awaitToken
          (.store (.set (manager.getBlacklistKey (manager.hashToken token)) "revoked" ttlSec))
      else
        return ()

/-- The catch block reads `err.message` for its log before it throws again. -/
def logged : SecurityError → SecurityError
  | .thrown .nullish =>
      .thrown (newTypeError "Cannot read properties of undefined (reading 'message')")
  | error => error

/-- Blacklists a JWT until its natural expiration timestamp. -/
def revokeToken (token : String) : TokenProgram Unit :=
  Program.catchError
    (do
      let decoded ← manager.decodeJwt token
      let now ← awaitToken .now
      let ttlSec := Number.max 1 (manager.remainingSeconds decoded (now / 1000))
      awaitToken (.blacklistAdd (manager.hashToken token))
      manager.storeRevocation token ttlSec)
    (fun error => throw (logged error))

/-- Revokes a refresh token and issues a new pair. -/
def rotate (refreshToken : String) (payload : JWTPayload) : TokenProgram IssuedTokens := do
  manager.revokeToken refreshToken
  let roles :=
    Claim.orElse (payload.get "roles")
      (Claim.orElse (payload.get "scope") (some (.texts ["USER"])))
  let newAccessToken ← manager.generateAccessToken (payload.get "sub") roles none
  let newRefreshToken ← manager.generateRefreshToken (payload.get "sub")
  let expiresAt ← manager.expiryOf newAccessToken
  return {
    accessToken := newAccessToken
    refreshToken := newRefreshToken
    tokenType := "Bearer"
    expiresIn := 3600
    expiresAt := some expiresAt
  }

/-- Verifies a refresh token and issues a new access token, or returns the current token if more
than 300 seconds remain.
-/
def refreshToken (refreshToken : String) : TokenProgram IssuedTokens := do
  let payload ← manager.verifyRefreshToken refreshToken
  let now ← awaitToken .now
  let remainingSec := manager.remainingSeconds payload (now / 1000)
  if Number.lt 300 remainingSec then
    return {
      accessToken := refreshToken
      refreshToken
      tokenType := "Bearer"
      expiresIn := remainingSec
      expiresAt := none
    }
  else
    manager.rotate refreshToken payload

end TokenManager

end QueueForge.Security
