import QueueForge.Async.Program
import QueueForge.Js.Errors
import QueueForge.Js.Lists

/-! JSON Web Tokens as `JWTStrategy` issues, reads and verifies them.
The library that signs and checks the strings is a parameter.
-/

namespace QueueForge.Security

open QueueForge.Async QueueForge.Js

inductive AuthenticationReason where
  | missingToken
  | invalidToken
  | expiredToken
  | invalidCredentials
  | invalidKey
  | revokedToken
deriving DecidableEq, Repr

/-- What the security module throws: its `AuthenticationError`, or what it lets through. -/
inductive SecurityError where
  | authentication (message : String) (reason : AuthenticationReason)
  | thrown (value : Thrown)
deriving DecidableEq, Repr

/-- A JSON value as a claim of a token. The program never looks inside arrays and objects, so
those that are no lists of strings are kept as their texts.
-/
inductive Claim where
  | null
  | bool (value : Bool)
  | number (value : Number)
  | string (value : String)
  | texts (values : List String)
  | nested (text : String)
deriving DecidableEq, Repr

namespace Claim

def truthy : Claim → Bool
  | null => false
  | bool value => value
  | number value => value.truthy
  | string value => decide (value ≠ "")
  | texts _ => true
  | nested _ => true

/-- `left || right`, where `none` stands for `undefined`. -/
def orElse (left right : Option Claim) : Option Claim :=
  if left.any truthy then left else right

/-- The number arithmetic takes a claim for; how a text is read as one is a parameter. -/
def toNumber (readNumber : Claim → Number) : Claim → Number
  | null => 0
  | bool value => if value then 1 else 0
  | number value => value
  | other => readNumber other

end Claim

/-- The members of an object in order; `none` stands for a member that is `undefined`. -/
abbrev Members : Type := List (String × Option Claim)

namespace Members

def get (members : Members) (key : String) : Option Claim :=
  (members.lookup key).join

/-- `delete members[key]`. -/
def delete (members : Members) (key : String) : Members :=
  members.filter (fun member => member.1 ≠ key)

/-- `{ ...base, ...payload }`. -/
def spread (base payload : Members) : Members :=
  base.map (fun member => (member.1, (payload.lookup member.1).getD member.2))
  ++ payload.filter (fun member => (base.lookup member.1).isNone)

theorem lookup_delete (members : Members) (deleted key : String)
    : (members.delete deleted).lookup key = if key = deleted then none else members.lookup key := by
  have kept := lookup_filter (fun name => decide (name ≠ deleted)) members key
  by_cases gone : key = deleted <;> simpa [delete, gone] using kept

/-- A member of the base takes the payload's value if the payload has the key. By induction on
the base.
-/
theorem lookup_base (base payload : Members) (key : String)
    : (base.map (fun member => (member.1, (payload.lookup member.1).getD member.2))).lookup key
      = (base.lookup key).map (fun value => (payload.lookup key).getD value) := by
  induction base with
  | nil => rfl
  | cons member rest ih =>
      obtain ⟨name, value⟩ := member
      by_cases same : key = name
      · subst same
        simp
      · have differs : (key == name) = false := beq_eq_false_iff_ne.mpr same
        simp only [List.map_cons, List.lookup_cons, differs, ih]

/-- The members of the payload win over those of the base. -/
theorem lookup_spread (base payload : Members) (key : String)
    : (spread base payload).lookup key = (payload.lookup key).or (base.lookup key) := by
  unfold spread
  rw [List.lookup_append, lookup_base, lookup_filter (fun name => (base.lookup name).isNone)]
  cases payload.lookup key <;> cases base.lookup key <;> simp

end Members

/-- A payload: its own members, and whether it is a string, which has a method `sub` too. -/
structure JWTPayload where
  members : Members
  isText : Bool := false
deriving DecidableEq, Repr

def JWTPayload.get (payload : JWTPayload) (key : String) : Option Claim :=
  payload.members.get key

/-- `delete payload[key]`. -/
def JWTPayload.delete (payload : JWTPayload) (key : String) : JWTPayload :=
  { payload with members := payload.members.delete key }

structure VerifyOptions where
  issuer : String
  audience : String
  ignoreExpiration : Bool := false
  ignoreNotBefore : Bool := false
deriving DecidableEq

/-- An error of the library. -/
structure JwtError where
  name : String
  message : String
deriving DecidableEq

/-- The library `jsonwebtoken`, with HS256 as its only algorithm. `decode` gives `none` for a
payload that counts as false, and `verify` is told the time in seconds.
-/
structure Jsonwebtoken where
  sign : (payload : Members) → (secret : String) → Except String String
  decode : (token : String) → Except String (Option JWTPayload)
  verify
    : (token secret : String) → VerifyOptions → (clockTimestamp : Int)
      → Except JwtError JWTPayload

/-- Strategy managing issuance, verification and parsing of tokens. Its constructor falls back
to a secret of its own, so that the secret is never empty.
-/
structure JWTStrategy where
  jwt : Jsonwebtoken
  readNumber : Claim → Number
  secret : String
  issuer : String
  audience : String
  defaultExpiryMs : Int
  secret_given : secret ≠ ""

namespace JWTStrategy

/-- `payload.sub || payload.userId || 'anonymous'`; JSON leaves a method out. -/
def subject (payload : JWTPayload) : Option Claim :=
  if payload.isText then
    none
  else
    Claim.orElse (payload.get "sub")
      (Claim.orElse (payload.get "userId") (some (.string "anonymous")))

/-- The claims that are signed; those of the payload win. -/
def fullPayload (strategy : JWTStrategy) (now : Int) (payload : JWTPayload)
    (expiryMs : Option Int)
    : Members :=
  let ttlMs := (expiryMs.filter (· ≠ 0)).getD strategy.defaultExpiryMs
  let nowSec := now / 1000
  let expSec := nowSec + ttlMs / 1000
  Members.spread
    [
      ("iss", some (.string strategy.issuer)),
      ("aud", some (.string strategy.audience)),
      ("iat", some (.number (.ofInt nowSec))),
      ("exp", some (.number (.ofInt expSec))),
      ("sub", subject payload),
      ("roles", Claim.orElse (payload.get "roles") (some (.texts []))),
      ("permissions", Claim.orElse (payload.get "permissions") (some (.texts [])))
    ]
    payload.members

/-- Generates a signed HS256 JWT string. -/
def generateToken (strategy : JWTStrategy) (now : Int) (payload : JWTPayload)
    (expiryMs : Option Int)
    : Settled SecurityError String :=
  match strategy.jwt.sign (strategy.fullPayload now payload expiryMs) strategy.secret with
  | .ok token => .ok token
  | .error message => .error (.thrown (newError message))

def verifyOptions (strategy : JWTStrategy) : VerifyOptions where
  issuer := strategy.issuer
  audience := strategy.audience

/-- Cryptographically verifies and parses a JWT string. -/
def verifyToken (strategy : JWTStrategy) (now : Int) (token : String)
    : Settled SecurityError JWTPayload :=
  if token = "" then
    .error (.authentication "JWT token is missing or empty" .missingToken)
  else
    match strategy.jwt.verify token strategy.secret strategy.verifyOptions (now / 1000) with
    | .ok decoded => .ok decoded
    | .error err =>
        if err.name = "TokenExpiredError" then
          .error (.authentication "JWT token has expired" .expiredToken)
        else
          .error (.authentication s!"Invalid JWT token: {err.message}" .invalidToken)

/-- Decodes JWT claims without cryptographic verification. -/
def decodeToken (strategy : JWTStrategy) (token : String) : Settled SecurityError JWTPayload :=
  match strategy.jwt.decode token with
  | .ok (some decoded) => .ok decoded
  | .ok none =>
      .error (.authentication "Failed to decode JWT: Malformed JWT payload" .invalidToken)
  | .error message =>
      .error (.authentication s!"Failed to decode JWT: {message}" .invalidToken)

/-- Issues a refreshed token with updated expiration timestamp while maintaining claims. -/
def refreshToken (strategy : JWTStrategy) (now : Int) (token : String)
    : Settled SecurityError String := do
  let payload ← strategy.decodeToken token
  strategy.generateToken now ((payload.delete "iat").delete "exp") none

end JWTStrategy

-----------------------------------------------------------------------------------------
-- What the documentation of the token library promises
-----------------------------------------------------------------------------------------

/-- A member that is absent or a number. -/
def Members.numericAt (payload : Members) (key : String) : Bool :=
  match payload.lookup key with
  | none => true
  | some (some (.number _)) => true
  | some _ => false

/-- The members the library insists on, as numbers of seconds. -/
def Members.datesNumeric (payload : Members) : Bool :=
  ["iat", "exp", "nbf"].all payload.numericAt

/-- A claim JSON can write: any but the special numbers. -/
def Claim.writable : Claim → Bool
  | .number (.finite _) => true
  | .number _ => false
  | _ => true

def Members.writable (payload : Members) : Bool :=
  payload.all (fun member => member.2.all Claim.writable)

/-- The decoded payload has the claims that were signed. -/
def JWTPayload.Restores (decoded : JWTPayload) (payload : Members) : Prop :=
  decoded.isText = false ∧ ∀ key, decoded.get key = payload.get key

/-- The documented behaviour of the library. -/
structure Jsonwebtoken.Documented (jwt : Jsonwebtoken) : Prop where
  refuses_empty
    : ∀ {secret options clockTimestamp decoded},
        jwt.verify "" secret options clockTimestamp ≠ .ok decoded
  signs_iff
    : ∀ payload secret,
        secret ≠ ""
        → ((∃ token, jwt.sign payload secret = .ok token) ↔ payload.datesNumeric = true)
  decodes
    : ∀ {payload secret token},
        jwt.sign payload secret = .ok token
        → payload.writable = true
        → ∃ decoded, jwt.decode token = .ok (some decoded) ∧ decoded.Restores payload
  verifies
    : ∀ {payload secret token options clockTimestamp expiry},
        jwt.sign payload secret = .ok token
        → payload.writable = true
        → payload.get "iss" = some (.string options.issuer)
        → payload.get "aud" = some (.string options.audience)
        → payload.get "nbf" = none
        → payload.get "exp" = some (.number (.ofInt expiry))
        → clockTimestamp < expiry
        → ∃ decoded,
            jwt.verify token secret options clockTimestamp = .ok decoded
            ∧ decoded.Restores payload

end QueueForge.Security
