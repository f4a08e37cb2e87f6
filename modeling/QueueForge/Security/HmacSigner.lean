import Mathlib.Data.List.Lex
import Mathlib.Data.List.Sort
import QueueForge.Js.DateTime
import QueueForge.Js.Hex
import QueueForge.Js.Json

/-! `HmacSigner`: payloads in a fixed order of keys, and their signatures.
The digest is a parameter, a function of the algorithm, the key and the message.
-/

namespace QueueForge.Security

open QueueForge.Js

inductive HmacAlgorithm where
  | SHA256
  | SHA512
deriving DecidableEq, Repr

/-- `createHmac(algorithm, secret).update(data).digest()`. -/
abbrev Hmac : Type := (algorithm : HmacAlgorithm) → (secret data : String) → List UInt8

/-- The number of bytes of a digest. -/
def HmacAlgorithm.digestLength : HmacAlgorithm → Nat
  | SHA256 => 32
  | SHA512 => 64

/-- Its digests have the length of their algorithm. -/
def Hmac.Sized (hmac : Hmac) : Prop :=
  ∀ algorithm secret data, (hmac algorithm secret data).length = algorithm.digestLength

/-- A digest known for the messages of a table, in hexadecimal digits, and zero for others. -/
def digestTable (entries : List ((HmacAlgorithm × String × String) × String)) : Hmac :=
  fun algorithm secret data =>
    match entries.lookup (algorithm, secret, data) with
    | some digest => bufferFromHex digest
    | none => List.replicate algorithm.digestLength 0

theorem digestTable_sized {entries : List ((HmacAlgorithm × String × String) × String)}
    (sized : ∀ entry ∈ entries, (bufferFromHex entry.2).length = entry.1.1.digestLength)
    : (digestTable entries).Sized := by
  intro algorithm secret data
  unfold digestTable
  split
  · next digest found =>
    obtain ⟨before, after, whole, _⟩ := List.lookup_eq_some_iff.mp found
    rw [whole] at sized
    exact sized _ (List.mem_append_right before List.mem_cons_self)
  · exact List.length_replicate

/-- Whether a key comes before another in `keys.sort()`. -/
def sortedBefore (left right : String × String) : Prop :=
  codeUnits left.1 ≤ codeUnits right.1

instance : DecidableRel sortedBefore :=
  fun left right => inferInstanceAs (Decidable (codeUnits left.1 ≤ codeUnits right.1))

mutual

/-- Recursively serializes an object with keys sorted alphabetically. -/
def deterministicStringify (numberText : Number → String) : Json → String
  | .array elements => "[" ++ ",".intercalate (deterministicElements numberText elements) ++ "]"
  | .object members =>
      let properties := (deterministicMembers numberText members).insertionSort sortedBefore
      "\x7b" ++ ",".intercalate (properties.map Prod.snd) ++ "\x7d"
  | value => value.stringify numberText

def deterministicElements (numberText : Number → String) : List Json → List String
  | [] => []
  | element :: rest =>
      deterministicStringify numberText element :: deterministicElements numberText rest

/-- The keys, each with its property. -/
def deterministicMembers (numberText : Number → String)
    : List (String × Json) → List (String × String)
  | [] => []
  | (key, value) :: rest =>
      (key, quote key ++ ":" ++ deterministicStringify numberText value)
      :: deterministicMembers numberText rest

end

/-- Its secret is the setting as a whole. -/
structure HmacSigner where
  hmac : Hmac
  numberText : Number → String
  hmacSecret : String

namespace HmacSigner

variable (signer : HmacSigner)

def computeHmac (algorithm : HmacAlgorithm) (data secret : String) : String :=
  hexOf (signer.hmac algorithm secret data)

/-- `typeof payload === 'string' ? payload : deterministicStringify(payload)`. -/
def serialized : Json → String
  | .string payload => payload
  | payload => deterministicStringify signer.numberText payload

/-- `sign(algorithm, payload)`. -/
def sign (algorithm : HmacAlgorithm) (payload : Json) : String :=
  signer.computeHmac algorithm (signer.serialized payload) signer.hmacSecret

/-- A payload that names an algorithm is taken for the algorithm. -/
def algorithm? : Json → Option HmacAlgorithm
  | .string "SHA256" => some .SHA256
  | .string "SHA512" => some .SHA512
  | _ => none

/-- `sign(payload, timestamp)`. A date as a payload has no members. -/
def signDated (payload : Json) (timestamp : Int) : String :=
  match algorithm? payload with
  | some algorithm => signer.sign algorithm (.object [])
  | none =>
      let dataToSign := s!"{toISOString timestamp}.{signer.serialized payload}"
      signer.computeHmac .SHA256 dataToSign signer.hmacSecret

/-- Performs timing-safe equality checks to verify signature matches payload. -/
def verify (payload : Json) (signature : String) (timestamp : Int) : Bool :=
  bufferFromHex signature = bufferFromHex (signer.signDated payload timestamp)

/-- What a signature is compared with are the bytes of the digest. -/
theorem bufferFromHex_computeHmac (algorithm : HmacAlgorithm) (data secret : String)
    : bufferFromHex (signer.computeHmac algorithm data secret)
      = signer.hmac algorithm secret data :=
  bufferFromHex_hexOf _

end HmacSigner

end QueueForge.Security
