import QueueForge.Async.Program
import QueueForge.Js.Errors
import QueueForge.Security.HmacSigner

/-! `HMACVerifier` and `WebhookValidator`: the signature and the timestamp of a received request. -/

namespace QueueForge.Security

open QueueForge.Async QueueForge.Js

/-- `new InvalidSignatureError(reason)`. -/
def invalidSignatureError (reason : String) : Thrown :=
  let message := s!"HMAC Webhook Signature verification failed: {reason}"
  .error {
    baseError .error "UNAUTHENTICATED" 401 message with
    name := "InvalidSignatureError"
    rendered := "InvalidSignatureError: " ++ message
  }

/-- A signature in hexadecimal digits, with the time it is for. -/
structure HMACSignature where
  signature : String
  algorithm : HmacAlgorithm
  timestamp : Int
deriving DecidableEq

structure HMACVerifier where
  hmac : Hmac
  algorithm : HmacAlgorithm

namespace HMACVerifier

variable (verifier : HMACVerifier)

/-- Computes a cryptographic HMACSignature over data payload. -/
def sign (data secret : String) (timestamp : Int) : Settled Thrown HMACSignature :=
  if secret = "" then
    .error (invalidSignatureError "Signing secret is missing or empty.")
  else
    let payloadToSign := s!"{timestamp}.{data}"
    .ok ⟨hexOf (verifier.hmac verifier.algorithm secret payloadToSign), verifier.algorithm,
      timestamp⟩

/-- `signature.replace(/^sha256=/, '')`. -/
def bare (signature : String) : String :=
  if "sha256=".toList.isPrefixOf signature.toList then
    String.ofList (signature.toList.drop 7)
  else
    signature

/-- Verifies an HMACSignature object against payload data and secret. -/
def verify (data : String) (signature : HMACSignature) (secret : String) : Settled Thrown Bool :=
  if secret = "" then
    .ok false
  else do
    let expected ← verifier.sign data secret signature.timestamp
    return decide (expected.signature = bare signature.signature)

/-- Cryptographically verifies header signature and asserts request timestamp is not older than
maxAgeMs (default 5 min).
-/
def verifyHeader (now : Int) (data headerSignature headerTimestamp secret : String)
    (maxAgeMs : Int := 300000)
    : Settled Thrown Bool :=
  if headerSignature = "" ∨ headerTimestamp = "" ∨ secret = "" then
    .error (invalidSignatureError "missing_signature")
  else
    match parseInt headerTimestamp with
    | none => .error (invalidSignatureError "malformed_header")
    | some timestamp =>
        if maxAgeMs < |now - timestamp| then
          .error (invalidSignatureError "expired_request")
        else do
          let signature := ⟨bare headerSignature, verifier.algorithm, timestamp⟩
          let isValid ← verifier.verify data signature secret
          if isValid then .ok true else .error (invalidSignatureError "invalid_signature")

/-- A digest has no such mark at its front. -/
theorem bare_hexOf (bytes : List UInt8) : bare (hexOf bytes) = hexOf bytes := by
  unfold bare
  split
  case isTrue marked =>
    have mem : 's' ∈ (hexOf bytes).toList :=
      (List.isPrefixOf_iff_prefix.mp marked).subset (by decide)
    exact absurd (isSome_hexValue?_of_mem mem) (by decide)
  case isFalse => rfl

/-- A signature without the mark is compared with the digest. -/
theorem verify_hexOf (data : String) {secret : String} (keyed : secret ≠ "")
    (algorithm : HmacAlgorithm) (timestamp : Int) (bytes : List UInt8)
    : verifier.verify data ⟨bare (hexOf bytes), algorithm, timestamp⟩ secret
      = .ok (decide (verifier.hmac verifier.algorithm secret s!"{timestamp}.{data}" = bytes)) := by
  have compared {left right : List UInt8} : (hexOf left = hexOf right) = (left = right) :=
    propext ⟨hexOf_injective, congrArg hexOf⟩
  rw [verify, if_neg keyed, sign, if_neg keyed]
  simp only [bind, Except.bind, pure, Except.pure, bare_hexOf, compared]

/-- A header is accepted if its timestamp is read as a number close to the present and the
signature is the digest of that number and the data.
-/
theorem verifyHeader_iff {secret headerTimestamp : String} {bytes : List UInt8}
    (given : bytes ≠ []) (stamped : headerTimestamp ≠ "") (keyed : secret ≠ "") (now : Int)
    (data : String) (maxAgeMs : Int)
    : (∃ isValid,
        verifier.verifyHeader now data (hexOf bytes) headerTimestamp secret maxAgeMs = .ok isValid)
      ↔ ∃ timestamp,
          parseInt headerTimestamp = some timestamp
          ∧ |now - timestamp| ≤ maxAgeMs
          ∧ verifier.hmac verifier.algorithm secret s!"{timestamp}.{data}" = bytes := by
  have filled : ¬(hexOf bytes = "" ∨ headerTimestamp = "" ∨ secret = "") := by
    simp [hexOf_ne_empty given, stamped, keyed]
  rw [verifyHeader, if_neg filled]
  cases read : parseInt headerTimestamp with
  | none => simp
  | some timestamp =>
      have checked := verifier.verify_hexOf data keyed verifier.algorithm timestamp bytes
      simp only [checked, Option.some.injEq, exists_eq_left']
      generalize verifier.hmac verifier.algorithm secret s!"{timestamp}.{data}" = digest
      by_cases old : maxAgeMs < |now - timestamp|
      · simp [old, not_le.mpr old]
      · by_cases same : digest = bytes <;> simp [old, not_lt.mp old, same, bind, Except.bind]

end HMACVerifier

/-- A received request. Its body may have been parsed already, or be missing. -/
structure WebhookRequest where
  headers : List (String × String)
  rawBody : Option String
  body : Option Json

/-- How numbers are spelled and texts parsed is left to the language. -/
structure WebhookValidator where
  verifier : HMACVerifier
  numberText : Number → String
  parse : String → Option Json

structure ValidatedWebhook where
  valid : Bool
  payload : Option Json

namespace WebhookValidator

variable (validator : WebhookValidator)

def signatureOf (headers : List (String × String)) : Option String :=
  orString (headers.lookup "x-signature")
    (orString (headers.lookup "x-hub-signature-256") (headers.lookup "X-Signature"))

def timestampOf (headers : List (String × String)) : Option String :=
  orString (headers.lookup "x-timestamp") (headers.lookup "X-Timestamp")

/-- The text a signature is checked against. -/
def rawBody (request : WebhookRequest) : String :=
  match request.rawBody with
  | some rawBody => rawBody
  | none =>
      match request.body with
      | some (.string text) => text
      | some body => (if body.truthy then body else .object []).stringify validator.numberText
      | none => "\x7b\x7d"

/-- The payload of a body that has not been parsed is read from the text. -/
def payloadOf (request : WebhookRequest) (rawBody : String) : Option Json :=
  match request.body with
  | some .null => some .null
  | some (.array elements) => some (.array elements)
  | some (.object members) => some (.object members)
  | _ => some ((validator.parse rawBody).getD (.string rawBody))

/-- Inspects Express-like request headers and body, verifying signature integrity and parsing JSON
payload.
-/
def validateWebhookRequest (now : Int) (request : WebhookRequest) (secret : String)
    : Settled Thrown ValidatedWebhook :=
  match (signatureOf request.headers).filter (· ≠ "") with
  | none => .error (invalidSignatureError "missing_signature")
  | some signature =>
      match (timestampOf request.headers).filter (· ≠ "") with
      | none => .error (invalidSignatureError "missing_signature")
      | some timestamp => do
          let rawBody := validator.rawBody request
          let _ ← validator.verifier.verifyHeader now rawBody signature timestamp secret
          return { valid := true, payload := validator.payloadOf request rawBody }

end WebhookValidator

end QueueForge.Security
