import QueueForge.Js.Decimal
import QueueForge.Security.WebhookValidator

/-! `HMACVerifier` under any name of a hash algorithm: the headers it generates, and whether it
accepts them.
-/

namespace QueueForge.Security

open QueueForge.Async QueueForge.Js

/-- `createHmac(algorithm, secret).update(data).digest()`. A name of no algorithm is refused. -/
abbrev CreateHmac : Type := (algorithm secret data : String) → Settled Thrown (List UInt8)

/-- `HMACSignature`, with its algorithm in lower case. -/
structure NamedSignature where
  signature : String
  algorithm : String
  timestamp : Int

namespace NamedSignature

/-- `new HMACSignature(signature, algorithm, timestamp)`. -/
def create (signature algorithm : String) (timestamp : Int) : NamedSignature where
  signature
  algorithm := toLowerCase algorithm
  timestamp

/-- `signature.toString()`. -/
def text (signature : NamedSignature) : String :=
  signature.algorithm ++ ("=" ++ signature.signature)

end NamedSignature

structure SignatureHeader where
  signature : String
  timestamp : String
deriving DecidableEq

/-- The verifier, with the name its configuration gives. -/
structure ConfiguredVerifier where
  createHmac : CreateHmac
  algorithm : String

namespace ConfiguredVerifier

/-- `new HMACVerifier(config)`, with `config?.hmacAlgorithm || config?.hmac?.algorithm || 'sha256'`.
-/
def configure (createHmac : CreateHmac) (hmacAlgorithm nested : Option String)
    : ConfiguredVerifier where
  createHmac
  algorithm := (orString hmacAlgorithm (orString nested (some "sha256"))).getD "sha256"

variable (verifier : ConfiguredVerifier)

/-- Computes a cryptographic HMACSignature over data payload. -/
def sign (data secret : String) (timestamp : Int) : Settled Thrown NamedSignature :=
  if secret = "" then
    .error (invalidSignatureError "Signing secret is missing or empty.")
  else do
    let digest ← verifier.createHmac verifier.algorithm secret s!"{timestamp}.{data}"
    return .create (hexOf digest) verifier.algorithm timestamp

/-- Verifies an HMACSignature object against payload data and secret. -/
def verify (data : String) (signature : NamedSignature) (secret : String) : Settled Thrown Bool :=
  if secret = "" then
    .ok false
  else do
    let expected ← verifier.sign data secret signature.timestamp
    return decide (expected.signature = HMACVerifier.bare signature.signature)

/-- Generates header signature and timestamp strings for outbound webhook requests. -/
def generateHeader (now : Int) (data secret : String) : Settled Thrown SignatureHeader := do
  let hmacSig ← verifier.sign data secret now
  return { signature := hmacSig.text, timestamp := toString now }

/-- Cryptographically verifies header signature and asserts request timestamp is not older than
maxAgeMs (default 5 min).
-/
def verifyHeader (now : Int) (data headerSignature headerTimestamp secret : String)
    (maxAgeMs : Int := 300000)
    : Settled Thrown Bool :=
  if headerSignature = "" ∨ headerTimestamp = "" ∨ secret = "" then
    .error (invalidSignatureError "missing_signature")
  else
    match parseInt headerTimestamp with
    | none => .error (invalidSignatureError "malformed_header")
    | some timestamp =>
        if maxAgeMs < |now - timestamp| then
          .error (invalidSignatureError "expired_request")
        else do
          let cleanSig := HMACVerifier.bare headerSignature
          let isValid ←
            verifier.verify data (.create cleanSig verifier.algorithm timestamp) secret
          if isValid then .ok true else .error (invalidSignatureError "invalid_signature")

-----------------------------------------------------------------------------------------
-- The mark that a signature loses
-----------------------------------------------------------------------------------------

/-- The text after the mark of SHA-256 is left. -/
theorem bare_marked (rest : String) : HMACVerifier.bare ("sha256=" ++ rest) = rest := by
  have marked : "sha256=".toList.isPrefixOf ("sha256=" ++ rest).toList = true := by
    rw [String.toList_append]
    exact List.isPrefixOf_iff_prefix.mpr (List.prefix_append _ _)
  rw [HMACVerifier.bare, if_pos marked, String.toList_append]
  exact String.ofList_toList

theorem bare_cases (signature : String)
    : HMACVerifier.bare signature = signature
      ∨ signature = "sha256=" ++ HMACVerifier.bare signature := by
  by_cases marked : "sha256=".toList.isPrefixOf signature.toList = true
  · obtain ⟨rest, whole⟩ := List.isPrefixOf_iff_prefix.mp marked
    have text : signature = "sha256=" ++ String.ofList rest := by
      apply String.toList_inj.mp
      rw [String.toList_append, ← whole]
      exact congrArg ("sha256=".toList ++ ·) String.toList_ofList.symm
    rw [text, bare_marked]
    exact .inr rfl
  · exact .inl (if_neg marked)

/-- What the two removals of the mark leave of a signature with its algorithm is the digest, if the
algorithm is that of the mark, or the mark itself with it.
-/
theorem bare_bare_iff (algorithm : String) (bytes : List UInt8)
    : HMACVerifier.bare (HMACVerifier.bare (algorithm ++ ("=" ++ hexOf bytes))) = hexOf bytes
      ↔ algorithm = "sha256" ∨ algorithm = "sha256=sha256" := by
  constructor
  · intro left
    have apart {other : String} (same : algorithm ++ ("=" ++ hexOf bytes) = other ++ ("=" ++ hexOf bytes))
        : algorithm = other :=
      (String.append_left_inj _).mp same
    rcases bare_cases (algorithm ++ ("=" ++ hexOf bytes)) with kept | marked
    · rw [kept, kept] at left
      have longer := congrArg String.length left
      simp only [String.length_append] at longer
      have mark : "=".length = 1 := by decide
      omega
    · rcases bare_cases (HMACVerifier.bare (algorithm ++ ("=" ++ hexOf bytes))) with kept | again
      · rw [← kept, left] at marked
        exact .inl (apart marked)
      · rw [left] at again
        rw [again] at marked
        exact .inr (apart marked)
  · rintro (rfl | rfl)
    · exact (congrArg HMACVerifier.bare (bare_marked _)).trans (HMACVerifier.bare_hexOf bytes)
    · exact (congrArg HMACVerifier.bare (bare_marked ("sha256=" ++ hexOf bytes))).trans (bare_marked _)

-----------------------------------------------------------------------------------------
-- Which of its own headers a verifier accepts
-----------------------------------------------------------------------------------------

variable {verifier} {data secret : String} {timestamp : Int}

/-- A header that is generated carries the digest after its algorithm. -/
theorem generateHeader_eq_ok {header : SignatureHeader}
    (generated : verifier.generateHeader timestamp data secret = .ok header)
    : secret ≠ ""
      ∧ ∃ digest,
          verifier.createHmac verifier.algorithm secret s!"{timestamp}.{data}" = .ok digest
          ∧ header
            = {
              signature := toLowerCase verifier.algorithm ++ ("=" ++ hexOf digest)
              timestamp := toString timestamp
            } := by
  obtain ⟨signature, signed, written⟩ := Settled.bind_eq_ok.mp generated
  obtain rfl := Except.ok.inj written
  unfold sign at signed
  split at signed
  · exact nomatch signed
  · next keyed =>
    obtain ⟨digest, hashed, made⟩ := Settled.bind_eq_ok.mp signed
    obtain rfl := Except.ok.inj made
    exact ⟨keyed, digest, hashed, rfl⟩

/-- A signature is compared with the one that is expected, without its mark. -/
theorem verify_signed {digest : List UInt8} (signature : String) (keyed : secret ≠ "")
    (hashed
      : verifier.createHmac verifier.algorithm secret s!"{timestamp}.{data}" = .ok digest)
    : verifier.verify data (.create signature verifier.algorithm timestamp) secret
      = .ok (decide (hexOf digest = HMACVerifier.bare signature)) := by
  have signed
      : verifier.sign data secret timestamp
        = .ok (.create (hexOf digest) verifier.algorithm timestamp) := by
    rw [sign, if_neg keyed, hashed]
    rfl
  rw [verify, if_neg keyed, NamedSignature.create]
  dsimp only
  rw [signed]
  rfl

/-- A verifier accepts a header it has generated, within the age, if and only if the mark it removes
is that of its algorithm. The name of SHA-256 may be spelled in any case.
-/
theorem verifyHeader_generated_iff (verifier : ConfiguredVerifier) {data secret : String}
    {issuedAt checkedAt maxAgeMs : Int} {header : SignatureHeader}
    (generated : verifier.generateHeader issuedAt data secret = .ok header)
    (fresh : |checkedAt - issuedAt| ≤ maxAgeMs)
    : verifier.verifyHeader checkedAt data header.signature header.timestamp secret maxAgeMs
        = .ok true
      ↔ toLowerCase verifier.algorithm = "sha256"
        ∨ toLowerCase verifier.algorithm = "sha256=sha256" := by
  obtain ⟨keyed, digest, hashed, rfl⟩ := generateHeader_eq_ok generated
  have filled
      : ¬(toLowerCase verifier.algorithm ++ ("=" ++ hexOf digest) = ""
          ∨ toString issuedAt = ""
          ∨ secret = "") := by
    simp only [toString_ne_empty, keyed, or_false]
    simp
  rw [verifyHeader, if_neg filled, parseInt_toString]
  dsimp only
  rw [if_neg (not_lt.mpr fresh), verify_signed _ keyed hashed, ← bare_bare_iff _ digest]
  by_cases same
      : hexOf digest
        = HMACVerifier.bare
          (HMACVerifier.bare (toLowerCase verifier.algorithm ++ ("=" ++ hexOf digest)))
  · rw [decide_eq_true same]
    exact iff_of_true rfl same.symm
  · rw [decide_eq_false same]
    exact iff_of_false nofun (Ne.symm same)

end ConfiguredVerifier

-----------------------------------------------------------------------------------------
-- The verifier of a known algorithm
-----------------------------------------------------------------------------------------

def HmacAlgorithm.digestName : HmacAlgorithm → String
  | SHA256 => "sha256"
  | SHA512 => "sha512"

/-- The algorithm of a name, in any case. -/
def algorithmNamed? (name : String) : Option HmacAlgorithm :=
  [HmacAlgorithm.SHA256, .SHA512].find? (fun algorithm => algorithm.digestName = toLowerCase name)

/-- `createHmac` where no other algorithm is known. -/
def Hmac.create (hmac : Hmac) : CreateHmac := fun name secret data =>
  match algorithmNamed? name with
  | some algorithm => .ok (hmac algorithm secret data)
  | none => .error (newError s!"Invalid digest: {name}")

/-- A verifier of a known algorithm is configured with its name. -/
def HMACVerifier.configured (verifier : HMACVerifier) : ConfiguredVerifier where
  createHmac := verifier.hmac.create
  algorithm := verifier.algorithm.digestName

theorem Hmac.create_digestName (hmac : Hmac) (algorithm : HmacAlgorithm) (secret data : String)
    : hmac.create algorithm.digestName secret data = .ok (hmac algorithm secret data) := by
  have named : algorithmNamed? algorithm.digestName = some algorithm := by
    cases algorithm <;> decide
  rw [create, named]

theorem HMACVerifier.verify_configured (verifier : HMACVerifier) (data signature secret : String)
    (timestamp : Int)
    : verifier.configured.verify data
          (.create signature verifier.configured.algorithm timestamp) secret
      = verifier.verify data ⟨signature, verifier.algorithm, timestamp⟩ secret := by
  by_cases keyed : secret = ""
  · rw [ConfiguredVerifier.verify, HMACVerifier.verify, if_pos keyed, if_pos keyed]
  · have named
        : verifier.configured.verify data
              (.create signature verifier.configured.algorithm timestamp) secret
          = _ :=
      ConfiguredVerifier.verify_signed signature keyed (Hmac.create_digestName ..)
    rw [named, HMACVerifier.verify, if_neg keyed, HMACVerifier.sign, if_neg keyed]
    rfl

/-- A header is judged by the name of an algorithm as by the algorithm itself. -/
theorem HMACVerifier.verifyHeader_configured (verifier : HMACVerifier) (now : Int)
    (data headerSignature headerTimestamp secret : String) (maxAgeMs : Int)
    : verifier.configured.verifyHeader now data headerSignature headerTimestamp secret maxAgeMs
      = verifier.verifyHeader now data headerSignature headerTimestamp secret maxAgeMs := by
  rw [ConfiguredVerifier.verifyHeader, HMACVerifier.verifyHeader]
  cases parseInt headerTimestamp with
  | none => rfl
  | some timestamp => simp only [HMACVerifier.verify_configured]

-----------------------------------------------------------------------------------------
-- A result signed with either algorithm
-----------------------------------------------------------------------------------------

/-- The message that is signed. -/
def resultMessage : String :=
  "\x7b\"id\":\"result-1\"\x7d"

/-- Its digests at one time under one secret. -/
def resultDigests : List ((HmacAlgorithm × String × String) × String) := [
  ((.SHA256, "webhook-secret", "1700000000000." ++ resultMessage),
    "ae5b9442caa10370ffca20a630bed4b0220ce44873182d7067df14122491ec41"),
  ((.SHA512, "webhook-secret", "1700000000000." ++ resultMessage),
    "24f7b6793e16de7190d5b20f0d25465cf0c8f972f5965772437aeb1460e16792"
    ++ "731d104769ffadb8134e34c91d0c8e0de242bee2c3bb87d855cc9ef79e51a63d")
]

/-- A verifier configured with a name. -/
def resultVerifier (algorithm : String) : ConfiguredVerifier :=
  .configure (digestTable resultDigests).create (some algorithm) none

/-- The headers it generates for the message with either algorithm. -/
def resultHeader : HmacAlgorithm → SignatureHeader
  | .SHA256 => {
      signature := "sha256=ae5b9442caa10370ffca20a630bed4b0220ce44873182d7067df14122491ec41"
      timestamp := "1700000000000"
    }
  | .SHA512 => {
      signature :=
        "sha512=24f7b6793e16de7190d5b20f0d25465cf0c8f972f5965772437aeb1460e16792"
        ++ "731d104769ffadb8134e34c91d0c8e0de242bee2c3bb87d855cc9ef79e51a63d"
      timestamp := "1700000000000"
    }

theorem generateHeader_result (algorithm : HmacAlgorithm)
    : (resultVerifier algorithm.digestName).generateHeader 1700000000000 resultMessage
        "webhook-secret"
      = .ok (resultHeader algorithm) := by
  cases algorithm <;> decide +kernel

/-- The header under SHA-256, a minute after it was generated. -/
theorem verifyHeader_generated_sha256
    : (resultVerifier "sha256").verifyHeader 1700000060000 resultMessage
          (resultHeader .SHA256).signature (resultHeader .SHA256).timestamp "webhook-secret" 300000
        = .ok true
      ↔ toLowerCase "sha256" = "sha256" ∨ toLowerCase "sha256" = "sha256=sha256" :=
  ConfiguredVerifier.verifyHeader_generated_iff (resultVerifier "sha256")
    (generateHeader_result .SHA256) (by decide)

/-- A header under SHA-512 is refused at once. -/
theorem sha512_header_refused
    : ¬∀ (verifier : ConfiguredVerifier) (data secret : String)
        (issuedAt checkedAt maxAgeMs : Int) (header : SignatureHeader),
        verifier.generateHeader issuedAt data secret = .ok header
        → |checkedAt - issuedAt| ≤ maxAgeMs
        → verifier.verifyHeader checkedAt data header.signature header.timestamp secret maxAgeMs
          = .ok true := by
  intro accepted
  have same :=
    accepted (resultVerifier "sha512") resultMessage "webhook-secret" 1700000000000 1700000000000
      300000 (resultHeader .SHA512) (generateHeader_result .SHA512) (by decide)
  revert same
  decide +kernel

end QueueForge.Security
