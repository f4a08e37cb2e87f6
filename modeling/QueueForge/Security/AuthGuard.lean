import QueueForge.Js.Text
import QueueForge.Security.TokenManager

/-! `AuthGuard.authenticate`: who a request comes from.
What the other strategy makes of an API key is a parameter.
-/

namespace QueueForge.Security

open QueueForge.Async QueueForge.Js

/-- What the strategy for API keys gives. -/
structure ApiKeyContext where
  keyId : String
  name : String
  roles : List String
  scopes : List String

structure Principal where
  subject : Claim
  scopes : Claim
  name : String
deriving DecidableEq

/-- The requester of a request. -/
structure AuthContext where
  userId : Option Claim
  apiKeyId : Option Claim
  principal : Principal
  roles : List String
  permissions : List String
  scopes : Claim
  type : String
  authenticated : Bool
  authenticatedAt : Date
  tokenExpiry : Option Date
deriving DecidableEq

/-- How the language words the failure of mapping a claim that is no list of strings is left open.
-/
structure AuthGuard where
  jwtStrategy : JWTStrategy
  validateApiKey : String → Settled SecurityError ApiKeyContext
  mapFailure : Claim → String

/-- Extracts raw JWT string from standard HTTP "Bearer {token}" header format. -/
def JWTStrategy.extractToken (authHeader : String) : Settled SecurityError String :=
  if authHeader = "" then
    .error (.authentication "Authorization header is missing" .missingToken)
  else
    match (trim authHeader).toList.splitOn ' ' with
    | [scheme, token] =>
        if toLowerCase (String.ofList scheme) = "bearer" then
          .ok (String.ofList token)
        else
          .error
            (.authentication "Authorization header format must be \"Bearer \x7btoken\x7d\""
              .invalidToken)
    | _ =>
        .error
          (.authentication "Authorization header format must be \"Bearer \x7btoken\x7d\""
            .invalidToken)

section
variable {token : String} (given : token ≠ "")
  (plain : ∀ char ∈ token.toList, isWhiteSpace char = false)
include given plain

theorem trim_bearer : trim ("Bearer " ++ token) = "Bearer " ++ token := by
  apply trim_of_ends
  · intro char first
    obtain rfl : char = 'B' := by simpa using first.symm
    decide
  · intro char last
    rw [String.toList_append, List.getLast?_append_of_ne_nil] at last
    · exact plain char (List.mem_of_getLast? last)
    · simpa using given

/-- The token of a header is what follows the scheme, when it has no white space. -/
theorem JWTStrategy.extractToken_bearer : extractToken ("Bearer " ++ token) = .ok token := by
  have blank : ∀ char ∈ token.toList, (char == ' ') = false := by
    intro char mem
    rw [beq_eq_false_iff_ne]
    rintro rfl
    exact absurd (plain ' ' mem) (by decide)
  have parts : ("Bearer " ++ token).toList.splitOn ' ' = ["Bearer".toList, token.toList] := by
    have scheme : ("Bearer " ++ token).toList = "Bearer".toList ++ ' ' :: token.toList := by
      simp
    rw [scheme, List.splitOn, List.splitOnP_append_cons_of_forall_mem,
      List.splitOnP_eq_singleton blank]
    · simp
    · rfl
  have filled : "Bearer " ++ token ≠ "" := by simp
  have lower : toLowerCase "Bearer" = "bearer" := by decide
  simp only [extractToken, filled, if_false, trim_bearer given plain, parts, String.ofList_toList,
    lower, if_true]

end

namespace AuthGuard

variable (guard : AuthGuard)

/-- `header.toLowerCase().startsWith(prefix)`. -/
def startsWithIgnoringCase (start header : String) : Bool :=
  start.toList.isPrefixOf (toLowerCase header).toList

/-- `claim.map(text => text.toUpperCase())`. -/
def upperCased : Claim → Settled SecurityError (List String)
  | .texts values => .ok (values.map toUpperCase)
  | other => .error (.thrown (newTypeError (guard.mapFailure other)))

/-- `payload.scope || payload.scopes || payload.permissions || ['read']`. -/
def scopesOf (payload : JWTPayload) : Claim :=
  (Claim.orElse (payload.get "scope")
    (Claim.orElse (payload.get "scopes")
      (Claim.orElse (payload.get "permissions") (some (.texts ["read"]))))).getD (.texts ["read"])

/-- `payload.roles || ['USER']`. -/
def rolesOf (payload : JWTPayload) : Claim :=
  (Claim.orElse (payload.get "roles") (some (.texts ["USER"]))).getD (.texts ["USER"])

/-- `payload.sub || payload.userId || 'user-1'`. -/
def subjectOf (payload : JWTPayload) : Claim :=
  (Claim.orElse (payload.get "sub")
    (Claim.orElse (payload.get "userId") (some (.string "user-1")))).getD (.string "user-1")

/-- `new Date(claim * 1000)`. -/
def dateOf (claim : Claim) : Date :=
  Date.ofNumber ((claim.toNumber guard.jwtStrategy.readNumber).mul 1000)

/-- The context of a verified payload. -/
def jwtContext (payload : JWTPayload) (authenticatedAt : Date)
    : Settled SecurityError AuthContext := do
  let roles ← guard.upperCased (rolesOf payload)
  let permissions ← guard.upperCased (scopesOf payload)
  return {
    userId := some (subjectOf payload)
    apiKeyId := none
    principal := ⟨subjectOf payload, scopesOf payload, "User"⟩
    roles
    permissions
    scopes := scopesOf payload
    type := "jwt"
    authenticated := true
    authenticatedAt
    tokenExpiry := ((payload.get "exp").filter Claim.truthy).map guard.dateOf
  }

def apiKeyContext (key : ApiKeyContext) (now : Int) : AuthContext where
  userId := none
  apiKeyId := some (.string key.keyId)
  principal := ⟨.string key.keyId, .texts key.scopes, key.name⟩
  roles := key.roles.map toUpperCase
  permissions := key.scopes.map toUpperCase
  scopes := .texts key.scopes
  type := "api-key"
  authenticated := true
  authenticatedAt := some now
  tokenExpiry := none

/-- `new Date(payload.iat ? payload.iat * 1000 : Date.now())`. -/
def issueTime (payload : JWTPayload) : TokenProgram Date :=
  match (payload.get "iat").filter Claim.truthy with
  | some iat => return guard.dateOf iat
  | none => do
      let now ← awaitToken .now
      return some now

/-- Try Bearer JWT authentication. -/
def authenticateBearer (authHeader : String) : TokenProgram AuthContext :=
  Program.catchError
    (do
      let rawToken ← Program.ofResult (JWTStrategy.extractToken authHeader)
      let now ← awaitToken .now
      let payload ← Program.ofResult (guard.jwtStrategy.verifyToken now rawToken)
      let authenticatedAt ← guard.issueTime payload
      Program.ofResult (guard.jwtContext payload authenticatedAt))
    (fun error => throw (TokenManager.logged error))

/-- The key of the `X-API-Key` header or of an authorization header for keys. -/
def keyCandidate (authHeader apiKeyHeader : Option String) : Option String :=
  orString apiKeyHeader
    ((authHeader.filter (startsWithIgnoringCase "apikey ")).map
      (fun header => trim (String.ofList (header.toList.drop 7))))

/-- Evaluates request headers attempting JWT authentication first, falling back to API Key headers.
-/
def authenticate (authHeader apiKeyHeader : Option String) : TokenProgram AuthContext :=
  match authHeader.filter (fun header => startsWithIgnoringCase "bearer " (trim header)) with
  | some header => guard.authenticateBearer header
  | none =>
      match ((keyCandidate authHeader apiKeyHeader).map trim).filter (· ≠ "") with
      | some candidate =>
          Program.catchError
            (do
              let key ← Program.ofResult (guard.validateApiKey candidate)
              let now ← awaitToken .now
              return apiKeyContext key now)
            (fun error => throw (TokenManager.logged error))
      | none =>
          throw
            (.authentication
              "Authentication failed: Missing or unsupported authorization credentials."
              .missingToken)

end AuthGuard

end QueueForge.Security
