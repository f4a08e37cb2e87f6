import QueueForge.Security.HmacVerifier

/-! Whether a verifier accepts what a signer with the same settings has signed.
The signer takes the setting for one secret, the verifier for a list of them.
-/

namespace QueueForge.Security

open QueueForge.Js

namespace HmacVerifier

/-- A verifier accepts the signature its own settings give a payload. -/
def AcceptsOwn (verifier : HmacVerifier) (algorithm : HmacAlgorithm) (payload : Json) : Prop :=
  verifier.verifyAlgorithm algorithm payload (verifier.signer.sign algorithm payload) = .ok true

instance (verifier : HmacVerifier) (algorithm : HmacAlgorithm) (payload : Json)
    : Decidable (verifier.AcceptsOwn algorithm payload) :=
  decidable_of_iff
    (verifier.verifyPayloadWithAlgorithm algorithm payload (verifier.signer.sign algorithm payload)
      = true)
    verifier.verifyAlgorithm_iff.symm

/-- It does so if one of its secrets gives the digest that the whole setting gives. -/
theorem acceptsOwn_iff {verifier : HmacVerifier} {algorithm : HmacAlgorithm} {payload : Json}
    : verifier.AcceptsOwn algorithm payload
      ↔ ∃ secret ∈ verifier.secrets,
          verifier.signer.hmac algorithm verifier.signer.hmacSecret
            (verifier.signer.serialized payload)
          = verifier.signer.hmac algorithm secret (verifier.signer.serialized payload) := by
  rw [AcceptsOwn, verifyAlgorithm_iff, verifyPayloadWithAlgorithm_iff, HmacSigner.sign,
    HmacSigner.bufferFromHex_computeHmac]

/-- A setting is one of its own secrets if nothing of it is split or trimmed off. -/
theorem mem_secrets_iff {verifier : HmacVerifier} (given : verifier.signer.hmacSecret ≠ "")
    : verifier.signer.hmacSecret ∈ verifier.secrets
      ↔ ',' ∉ verifier.signer.hmacSecret.toList
        ∧ trim verifier.signer.hmacSecret = verifier.signer.hmacSecret := by
  simp only [secrets, List.mem_filter, List.mem_map]
  constructor
  · rintro ⟨⟨part, mem, trimmed⟩, _⟩
    have single : ',' ∉ verifier.signer.hmacSecret.toList := by
      intro comma
      rw [← trimmed] at comma
      exact not_mem_of_mem_splitAt mem ((trim_isInfix part).mem comma)
    rw [splitAt_of_not_mem single, List.mem_singleton] at mem
    exact ⟨single, mem ▸ trimmed⟩
  · rintro ⟨single, trimmed⟩
    refine ⟨⟨_, ?_, trimmed⟩, by simpa using given⟩
    rw [splitAt_of_not_mem single]
    exact List.mem_singleton_self _

/-- A verifier accepts its own signatures whatever the digest is, if and only if the setting is a
single secret without white space at its ends.
-/
theorem acceptsOwn_forall_iff {hmacSecret : String} (given : hmacSecret ≠ "")
    (numberText : Number → String) (redis : Bool) (parseDate : String → Date)
    (algorithm : HmacAlgorithm) (payload : Json)
    : (∀ hmac, AcceptsOwn ⟨⟨hmac, numberText, hmacSecret⟩, redis, parseDate⟩ algorithm payload)
      ↔ ',' ∉ hmacSecret.toList ∧ trim hmacSecret = hmacSecret := by
  constructor
  · intro accepts
    -- a digest that tells the setting from any other key
    have own := acceptsOwn_iff.mp (accepts (fun _ secret _ => if secret = hmacSecret then [1] else []))
    obtain ⟨secret, mem, digests⟩ := own
    have same : secret = hmacSecret := by
      by_contra other
      simp [other] at digests
    subst same
    exact (mem_secrets_iff given).mp mem
  · intro single hmac
    exact acceptsOwn_iff.mpr ⟨hmacSecret, (mem_secrets_iff given).mpr single, rfl⟩

/-- A verifier with a table of digests. -/
def tabled (entries : List ((HmacAlgorithm × String × String) × String)) (hmacSecret : String)
    : HmacVerifier where
  signer := ⟨digestTable entries, fun _ => "", hmacSecret⟩
  redis := false
  parseDate _ := none

def singleSecret : String := "queueforge-default-hmac-secret-min-32-chars!"

theorem acceptsOwn_forall_iff_single
    : singleSecret ≠ ""
      ∧ ∀ hmac,
          AcceptsOwn ⟨⟨hmac, fun _ => "", singleSecret⟩, false, fun _ => none⟩ .SHA256
            (.object []) := by
  have given : singleSecret ≠ "" := by decide
  refine ⟨given, ?_⟩
  rw [acceptsOwn_forall_iff given]
  decide

def rotatingSecrets : String :=
  "rotating-secret-that-comes-first-0001,rotating-secret-that-comes-second-0002"

/-- The digests of a task's status under the setting and under each of its secrets. -/
def rotatingDigests : List ((HmacAlgorithm × String × String) × String) :=
  let data := "\x7b\"status\":\"done\",\"taskId\":\"task-1\"\x7d"
  [
    ((.SHA256, rotatingSecrets, data),
      "6a8e0315a74e450a41e59398c9f87dbb9748bd14cfbf68e10112cb104e5050eb"),
    ((.SHA256, "rotating-secret-that-comes-first-0001", data),
      "c2983e733fc984e7647aaf341c7d080071d91d1f546b7c44143ec4de5169881a"),
    ((.SHA256, "rotating-secret-that-comes-second-0002", data),
      "3d7b4bc5297071cead26eee8f1a7b3d8b543f8e701baa8f31e3c3c44d413bbb9")
  ]

theorem secrets_rotating
    : (tabled rotatingDigests rotatingSecrets).secrets
      = ["rotating-secret-that-comes-first-0001", "rotating-secret-that-comes-second-0002"] := by
  decide

/-- A signature under two rotating secrets is accepted under neither. -/
theorem rotating_refused
    : ¬(tabled rotatingDigests rotatingSecrets).AcceptsOwn .SHA256
        (.object [("taskId", .string "task-1"), ("status", .string "done")]) := by
  rw [acceptsOwn_iff, secrets_rotating]
  decide

end HmacVerifier

end QueueForge.Security
