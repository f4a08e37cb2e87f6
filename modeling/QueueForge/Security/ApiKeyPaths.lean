import QueueForge.Security.ApiKeyHistory

/-! The two ways a record is served. The cached one is checked for its revocation only, and the
stored one for all that a record says, so that a disabled key or a wrong signature passes where
the record is cached.
-/

namespace QueueForge.Security

open QueueForge.Async QueueForge.Js

/-- Whether a revocation is still one in the text of the record. A date that is none is written
as `null`.
-/
def ApiKeyRecord.revokedInText (record : ApiKeyRecord) : Bool :=
  record.revokedAt.any (fun moment => moment.toJson.truthy)

/-- The text of a moment is never empty where the moment is a date. -/
theorem Moment.truthy_of_toJson {moment : Moment} (truthy : moment.toJson.truthy = true)
    : moment.truthy = true := by
  cases moment with
  | json value => exact truthy
  | date time => rfl

theorem ApiKeyRecord.revoked_of_revokedInText {record : ApiKeyRecord}
    (inText : record.revokedInText = true)
    : record.revoked = true := by
  unfold revokedInText at inText
  unfold revoked
  cases moment : record.revokedAt with
  | none => rw [moment] at inText; exact nomatch inText
  | some revokedAt =>
      rw [moment] at inText
      exact Moment.truthy_of_toJson inText

/-- The revocation of a record is that of its text. -/
theorem ApiKeyRecord.member?_revokedAt (record : ApiKeyRecord)
    : record.toJson.member? "revokedAt" = record.revokedAt.map Moment.toJson := by
  simp [toJson, Json.member?, lookup_present_cons, present_nil]

theorem ApiKeyRecord.revokedInText_eq (record : ApiKeyRecord)
    : (record.toJson.member? "revokedAt").any Json.truthy = record.revokedInText := by
  rw [member?_revokedAt, revokedInText]
  cases record.revokedAt <;> rfl

namespace ApiKeyStrategy

variable (strategy : ApiKeyStrategy)

/-- A record that one world has in its cache, and another in its repository only. -/
structure ServedTwice (cached stored : ApiKeyWorld) (key : String) (record : ApiKeyRecord)
    : Prop where
  held : cached.revokedKeys = stored.revokedKeys
  cacheGets : strategy.cacheGets = true
  kept : ∃ rawCache,
    cached.cache ("api_key:" ++ strategy.sha256 key) = .ok (some rawCache)
    ∧ rawCache ≠ "" ∧ strategy.parse rawCache = some record.toJson
  uncached : stored.cache ("api_key:" ++ strategy.sha256 key) = .ok none
  found : strategy.findRecord stored key (strategy.sha256 key) = .ok (some record)

section
variable {strategy : ApiKeyStrategy} {cached stored : ApiKeyWorld} {key : String}
  {record : ApiKeyRecord}

theorem ServedTwice.fromCache (served : strategy.ServedTwice cached stored key record)
    : strategy.servedFrom cached key = .cache record.toJson := by
  obtain ⟨rawCache, answered, filled, parsed⟩ := served.kept
  have read : strategy.readCache cached (strategy.sha256 key) = .ok (some record.toJson) := by
    have kept : (some rawCache).filter (· ≠ "") = some rawCache := by
      simp [Option.filter, filled]
    rw [readCache, if_pos served.cacheGets, answered]
    simp only [bind, Except.bind, kept, parsed]
    rfl
  rw [servedFrom, read]

theorem ServedTwice.fromRepository (served : strategy.ServedTwice cached stored key record)
    : strategy.servedFrom stored key = .repository record := by
  have read : strategy.readCache stored (strategy.sha256 key) = .ok none := by
    rw [readCache, if_pos served.cacheGets, served.uncached]
    rfl
  rw [servedFrom, read]
  simp only [served.found]

/-- A request is answered alike, exactly when it is refused before any record is read, or the
record is revoked in its text, or neither its flags nor the signature refuse it.
-/
theorem accepts_alike_iff (now : Int) {request : KeyRequest}
    (given : keyOf request.keyParam = .ok key)
    (served : strategy.ServedTwice cached stored key record)
    : strategy.accepts cached now request = strategy.accepts stored now request
      ↔ hasKeyFormat (trim key) = false ∨ strategy.sha256 key ∈ stored.revokedKeys
        ∨ record.revokedInText = true
        ∨ record.disabled = false ∧ record.revoked = false
          ∧ strategy.signatureAccepted stored record key request = true := by
  have fast := strategy.accepts_iff_of_given cached now given
  have slow := strategy.accepts_iff_of_given stored now given
  simp only [served.fromCache, served.held, Accepted, record.revokedInText_eq] at fast
  simp only [served.fromRepository, Accepted] at slow
  rw [Bool.eq_iff_iff, fast, slow]
  by_cases admitted : hasKeyFormat (trim key) = true ∧ strategy.sha256 key ∉ stored.revokedKeys
  · cases inText : record.revokedInText with
    | true =>
        have revoked := ApiKeyRecord.revoked_of_revokedInText inText
        simp [revoked]
    | false => simp [admitted]
  · rw [not_and_or, Bool.not_eq_true, not_not] at admitted
    rcases admitted with malformed | held
    · simp [malformed]
    · simp [held]

end

/-- A strategy that has a cache too, and reads the text of one record. -/
def withCache (record : ApiKeyRecord) : ApiKeyStrategy :=
  {
    ofRepository with
    parse := fun text =>
      if text = record.toJson.stringify ofRepository.numberText then some record.toJson else none
    cacheGets := true
    cacheSets := true
  }

end ApiKeyStrategy

/-- The record is in the cache. -/
def cachedWorld (record : ApiKeyRecord) : ApiKeyWorld where
  revokedKeys := []
  cache entry :=
    if entry = "api_key:e0cc0053703b3da97105d4ca5639372f46d9f8ab325ed6b3ddc2227271b133fe" then
      .ok (some (record.toJson.stringify ApiKeyStrategy.ofRepository.numberText))
    else
      .ok none
  records := recordsOf record
  secrets _ := .ok none

/-- The record is in the repository only. -/
def storedWorld (record : ApiKeyRecord) : ApiKeyWorld where
  revokedKeys := []
  cache _ := .ok none
  records := recordsOf record
  secrets _ := .ok none

theorem servedTwice_withCache (record : ApiKeyRecord)
    : (ApiKeyStrategy.withCache record).ServedTwice (cachedWorld record) (storedWorld record)
        "qf_00112233445566aa_8899aabbccddeeff" record where
  held := rfl
  cacheGets := rfl
  kept := by
    refine ⟨_, rfl, ?_, if_pos rfl⟩
    intro empty
    have chars := congrArg String.toList empty
    simp [ApiKeyRecord.toJson, Json.stringify] at chars
  uncached := rfl
  found := rfl

/-- Where its record is cached and enabled, a key is accepted as from the repository. -/
theorem accepts_alike_enabled
    : (ApiKeyStrategy.withCache (workerRecord true)).accepts (cachedWorld (workerRecord true)) 0
          ⟨.text "qf_00112233445566aa_8899aabbccddeeff", none, none⟩
        = (ApiKeyStrategy.withCache (workerRecord true)).accepts (storedWorld (workerRecord true)) 0
          ⟨.text "qf_00112233445566aa_8899aabbccddeeff", none, none⟩ :=
  (ApiKeyStrategy.accepts_alike_iff 0 rfl (servedTwice_withCache (workerRecord true))).mpr
    (Or.inr (Or.inr (Or.inr ⟨rfl, rfl, rfl⟩)))

/-- A disabled key is accepted where its record is cached. -/
theorem disabled_key_accepted_from_cache
    : ¬∀ (cached stored : ApiKeyWorld) (request : KeyRequest) (key : String),
        ApiKeyStrategy.keyOf request.keyParam = .ok key
        → (ApiKeyStrategy.withCache (workerRecord false)).ServedTwice cached stored key
            (workerRecord false)
        → (ApiKeyStrategy.withCache (workerRecord false)).accepts cached 0 request
          = (ApiKeyStrategy.withCache (workerRecord false)).accepts stored 0 request := by
  intro alike
  have same :=
    alike _ _ ⟨.text "qf_00112233445566aa_8899aabbccddeeff", none, none⟩ _ rfl
      (servedTwice_withCache (workerRecord false))
  revert same
  decide +kernel

end QueueForge.Security
