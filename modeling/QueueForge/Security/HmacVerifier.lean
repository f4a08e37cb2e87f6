import QueueForge.Async.Execution
import QueueForge.Js.Errors
import QueueForge.Security.HmacSigner

/-! `HmacVerifier`: signatures under any secret of a list, and signatures with a timestamp that
are accepted once. Its calls are those of the clock and of the Redis client.
-/

namespace QueueForge.Security

open QueueForge.Async QueueForge.Js

inductive HmacCall where
  | now
  | keyExists (key : String)
  | setex (key : String) (seconds : Nat) (value : String)
deriving DecidableEq

/-- `exists` counts the keys it finds. -/
abbrev HmacCall.Result : HmacCall → Type
  | now => Int
  | keyExists _ => Nat
  | setex _ _ _ => Unit

abbrev HmacSignature : Signature where
  Op := HmacCall
  Result := HmacCall.Result

abbrev HmacProgram (α : Type) : Type := Program HmacSignature Thrown α

def awaitHmac (call : HmacCall) : HmacProgram call.Result :=
  Program.perform (S := HmacSignature) call

/-- The signer has the settings of the verifier. How the language reads dates is left open. -/
structure HmacVerifier where
  signer : HmacSigner
  redis : Bool
  parseDate : String → Date

/-- `new AuthenticationError(message)`. -/
def authenticationError (message : String) : Thrown :=
  .error (baseError .error "UNAUTHENTICATED" 401 message)

namespace HmacVerifier

variable (verifier : HmacVerifier)

def defaultMaxAgeSeconds : Nat := 300

/-- The first part of a signature that begins with the mark, without it. -/
def parameter? (mark : String) (signature : String) : Option String :=
  ((splitAt ',' signature).find? (fun part => mark.toList.isPrefixOf (trim part).toList)).map
    (fun part => String.ofList ((trim part).toList.drop 2))

/-- Extracts the timestamp from a formatted signature header value. -/
def extractTimestamp (signature : String) : Option Int :=
  (parameter? "t=" signature).bind verifier.parseDate

/-- Evaluates if a timestamp falls outside the valid time window bounds (replay detection). -/
def isReplayAttack (now timestamp : Int) : Bool :=
  decide ((defaultMaxAgeSeconds : Rat) < (|now - timestamp| : Int) / 1000)

def secrets : List String :=
  ((splitAt ',' verifier.signer.hmacSecret).map trim).filter (· ≠ "")

/-- Verifies payload against comma-separated hmac secrets list. -/
def verifyPayloadWithAlgorithm (algorithm : HmacAlgorithm) (payload : Json) (signature : String)
    : Bool :=
  let serialized := verifier.signer.serialized payload
  verifier.secrets.any
    (fun secret =>
      decide
        (bufferFromHex signature
          = bufferFromHex (verifier.signer.computeHmac algorithm serialized secret)))

/-- `verify(algorithm, payload, signature)`. -/
def verifyAlgorithm (algorithm : HmacAlgorithm) (payload : Json) (signature : String)
    : Settled Thrown Bool :=
  if verifier.verifyPayloadWithAlgorithm algorithm payload signature then
    .ok true
  else
    .error (.error (validationError "hmacSignature"))

def replayKey (signatureHash : String) : String :=
  s!"seen_sig:{signatureHash}"

/-- A signature is accepted unless its key has been set. -/
def acceptUnseen (signatureHash : String) : HmacProgram Bool := do
  let found ← awaitHmac (.keyExists (replayKey signatureHash))
  if found = 1 then
    throw (authenticationError "Signature has already been processed (replay)")
  else
    awaitHmac (.setex (replayKey signatureHash) defaultMaxAgeSeconds "processed")
    return true

/-- Legacy verifier backing replay prevention cache checks. -/
def verifyLegacy (payload : Json) (signature : String) : HmacProgram Bool :=
  match verifier.extractTimestamp signature with
  | none => throw (authenticationError "Signature timestamp is missing or malformed")
  | some timestamp => do
      let now ← awaitHmac .now
      if isReplayAttack now timestamp then
        throw (authenticationError "Signature timestamp has expired")
      else
        match parameter? "s=" signature with
        | none => throw (authenticationError "Signature hash parameter is missing")
        | some signatureHash =>
            if verifier.signer.verify payload signatureHash timestamp then
              if verifier.redis then acceptUnseen signatureHash else return true
            else
              throw (authenticationError "Signature does not match payload")

/-- `verify(payload, signature)`. -/
def verify (payload : Json) (signature : String) : HmacProgram Bool :=
  match HmacSigner.algorithm? payload with
  | some algorithm => Program.ofResult (verifier.verifyAlgorithm algorithm (.string signature) "")
  | none =>
      if signature ≠ "" ∧ includes signature "t=" = false then
        Program.ofResult (verifier.verifyAlgorithm .SHA256 payload signature)
      else
        verifier.verifyLegacy payload signature

/-- A signature with a timestamp has the mark of one. -/
theorem includes_of_extractTimestamp {verifier : HmacVerifier} {signature : String}
    {timestamp : Int}
    (stamped : verifier.extractTimestamp signature = some timestamp)
    : includes signature "t=" = true := by
  obtain ⟨text, found, _⟩ := Option.bind_eq_some_iff.mp stamped
  obtain ⟨part, listed, _⟩ := Option.map_eq_some_iff.mp found
  have marked : "t=".toList <+: (trim part).toList := by
    simpa using List.find?_some listed
  have inner := isInfix_of_mem_splitAt (List.mem_of_find?_eq_some listed)
  simpa [includes] using (marked.isInfix.trans (trim_isInfix part)).trans inner

/-- A text that neither splits a signature nor is trimmed. -/
def isPlain (text : String) : Bool :=
  text.toList.all (fun char => char ≠ ',' && !isWhiteSpace char)

section
variable {verifier : HmacVerifier} {text signatureHash : String} (plain : isPlain text = true)
  (plainHash : isPlain signatureHash = true)
include plain

theorem comma_not_mem : ',' ∉ text.toList := by
  intro comma
  have kept := List.all_eq_true.mp plain ',' comma
  exact absurd kept (by decide)

/-- Plain text that begins with a plain character is not trimmed. -/
theorem trim_plain : trim text = text := by
  have apart : ∀ char ∈ text.toList, isWhiteSpace char = false := by
    intro char mem
    have kept := List.all_eq_true.mp plain char mem
    simpa using (Bool.and_eq_true_iff.mp kept).2
  apply trim_of_ends
  · exact fun char first => apart char (List.mem_of_head? first)
  · exact fun char last => apart char (List.mem_of_getLast? last)

theorem isPlain_append {mark : String} (marked : isPlain mark = true)
    : isPlain (mark ++ text) = true := by
  rw [isPlain, String.toList_append, List.all_append, Bool.and_eq_true]
  exact ⟨marked, plain⟩

include plainHash

/-- The two parts of a signature in the documented format. -/
theorem splitAt_formatted
    : splitAt ',' ("t=" ++ text ++ ("," ++ ("s=" ++ signatureHash)))
      = ["t=" ++ text, "s=" ++ signatureHash] := by
  have stamp : isPlain ("t=" ++ text) = true := isPlain_append plain (by decide)
  have hash : isPlain ("s=" ++ signatureHash) = true := isPlain_append plainHash (by decide)
  have parts := splitAt_append_cons ("s=" ++ signatureHash) (comma_not_mem stamp)
  rw [splitAt_of_not_mem (comma_not_mem hash)] at parts
  exact parts

/-- Its timestamp is the text after the first mark. -/
theorem parameter?_timestamp
    : parameter? "t=" ("t=" ++ text ++ ("," ++ ("s=" ++ signatureHash))) = some text := by
  have stamp : trim ("t=" ++ text) = "t=" ++ text :=
    trim_plain (isPlain_append plain (by decide))
  rw [parameter?, splitAt_formatted plain plainHash]
  simp [stamp]

/-- Its hash is the text after the second. -/
theorem parameter?_hash
    : parameter? "s=" ("t=" ++ text ++ ("," ++ ("s=" ++ signatureHash))) = some signatureHash := by
  have stamp : trim ("t=" ++ text) = "t=" ++ text :=
    trim_plain (isPlain_append plain (by decide))
  have hash : trim ("s=" ++ signatureHash) = "s=" ++ signatureHash :=
    trim_plain (isPlain_append plainHash (by decide))
  rw [parameter?, splitAt_formatted plain plainHash]
  simp [stamp, hash]

theorem extractTimestamp_formatted
    : verifier.extractTimestamp ("t=" ++ text ++ ("," ++ ("s=" ++ signatureHash)))
      = verifier.parseDate text := by
  rw [extractTimestamp, parameter?_timestamp plain plainHash, Option.bind_some]

/-- A signature in the documented format is checked for its age, its bytes and its replay. -/
theorem verify_formatted {timestamp : Int} (dated : verifier.parseDate text = some timestamp)
    {payload : Json} (unnamed : HmacSigner.algorithm? payload = none)
    : verifier.verify payload ("t=" ++ text ++ ("," ++ ("s=" ++ signatureHash)))
      = (awaitHmac .now).bind
        (fun now =>
          if isReplayAttack now timestamp then
            throw (authenticationError "Signature timestamp has expired")
          else if verifier.signer.verify payload signatureHash timestamp then
            if verifier.redis then acceptUnseen signatureHash else return true
          else
            throw (authenticationError "Signature does not match payload")) := by
  have stamped
      : verifier.extractTimestamp ("t=" ++ text ++ ("," ++ ("s=" ++ signatureHash)))
        = some timestamp :=
    (extractTimestamp_formatted plain plainHash).trans dated
  have marked := includes_of_extractTimestamp stamped
  simp only [verify, unnamed, marked, Bool.true_eq_false, and_false, if_false, verifyLegacy, stamped,
    parameter?_hash plain plainHash, Program.bind_eq]

end

/-- The bytes of a signature are those of the digest under one of the secrets. -/
theorem verifyPayloadWithAlgorithm_iff {algorithm : HmacAlgorithm} {payload : Json}
    {signature : String}
    : verifier.verifyPayloadWithAlgorithm algorithm payload signature = true
      ↔ ∃ secret ∈ verifier.secrets,
          bufferFromHex signature
          = verifier.signer.hmac algorithm secret (verifier.signer.serialized payload) := by
  simp only [verifyPayloadWithAlgorithm, List.any_eq_true, decide_eq_true_eq,
    HmacSigner.bufferFromHex_computeHmac]

theorem verifyAlgorithm_iff {algorithm : HmacAlgorithm} {payload : Json} {signature : String}
    : verifier.verifyAlgorithm algorithm payload signature = .ok true
      ↔ verifier.verifyPayloadWithAlgorithm algorithm payload signature = true := by
  unfold verifyAlgorithm
  split
  case isTrue accepted => exact ⟨fun _ => accepted, fun _ => rfl⟩
  case isFalse refused => exact ⟨(fun accepted => nomatch accepted), fun valid => absurd valid refused⟩

end HmacVerifier

end QueueForge.Security
