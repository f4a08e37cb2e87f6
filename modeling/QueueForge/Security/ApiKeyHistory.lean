import QueueForge.Security.ApiKeyStrategy

/-! Which keys a strategy accepts in the course of creations and revocations. What it holds as
revoked are the hashes it was told, and only these spellings of the keys. Anything else that
has the form of a key is accepted, where nothing is known of it.
-/

namespace QueueForge.Security

open QueueForge.Async QueueForge.Js

/-- What happens to a strategy. Elsewhere keys are created, records changed or dropped, entries
of the cache written or expired, and secrets set.
-/
inductive ApiKeyEvent where
  | elsewhere (cache : String → Settled SecurityError (Option String))
      (records : String → Settled SecurityError (Option ApiKeyRecord))
      (secrets : String → Settled SecurityError (Option String))
  | revoked (keyHash : String) (now : Int) (written : Settled SecurityError Unit)
  | validated (now : Int) (request : KeyRequest)

/-- The hashes that have been revoked. -/
def revocations (history : List ApiKeyEvent) : List String :=
  history.filterMap (fun
    | .revoked keyHash _ _ => some keyHash
    | _ => none)

/-- The texts are one but for white space at their ends and the case of their letters. -/
def Respells (text other : String) : Prop :=
  toLowerCase (trim text) = toLowerCase (trim other)

instance (text other : String) : Decidable (Respells text other) :=
  inferInstanceAs (Decidable (toLowerCase (trim text) = toLowerCase (trim other)))

namespace ApiKeyStrategy

variable (strategy : ApiKeyStrategy)

/-- Keys that have been generated are respelled by no other one. -/
theorem respells_generateApiKey {part1 part2 other1 other2 : List UInt8}
    (secret otherSecret : List UInt8)
    : Respells (generateApiKey part1 part2 secret).1 (generateApiKey other1 other2 otherSecret).1
      ↔ (generateApiKey part1 part2 secret).1 = (generateApiKey other1 other2 otherSecret).1 := by
  have lower {part1 part2 : List UInt8} (secret : List UInt8)
      : toLowerCase (generateApiKey part1 part2 secret).1
        = (generateApiKey part1 part2 secret).1 := by
    have kept : "qf_0123456789abcdef".toList.all (fun char => char.toLower == char) = true := by
      decide +kernel
    rw [List.all_eq_true] at kept
    rw [toLowerCase,
      List.map_congr_left (fun char mem => eq_of_beq (kept char (mem_generateApiKey secret mem))),
      List.map_id', String.ofList_toList]
  rw [Respells, trim_generateApiKey, trim_generateApiKey, lower, lower]

def step (world : ApiKeyWorld) : ApiKeyEvent → ApiKeyWorld
  | .elsewhere cache records secrets =>
      { world with cache := cache, records := records, secrets := secrets }
  | .revoked keyHash now written => (strategy.revokeApiKey world keyHash now written).2
  | .validated _ _ => world

/-- A history from the strategy's construction, when it holds no hash yet. -/
def run (history : List ApiKeyEvent) : ApiKeyWorld :=
  history.foldl strategy.step
    {
      revokedKeys := []
      cache := fun _ => .ok none
      records := fun _ => .ok none
      secrets := fun _ => .ok none
    }

theorem revokeApiKey_revokedKeys (world : ApiKeyWorld) (keyHash : String) (now : Int)
    (written : Settled SecurityError Unit)
    : (strategy.revokeApiKey world keyHash now written).2.revokedKeys
      = world.revokedKeys ++ [keyHash] := by
  unfold revokeApiKey
  split
  · cases written <;> rfl
  · rfl

/-- What a strategy holds is what has been revoked, by induction on the history. -/
theorem foldl_revokedKeys (world : ApiKeyWorld) (history : List ApiKeyEvent)
    : (history.foldl strategy.step world).revokedKeys
      = world.revokedKeys ++ revocations history := by
  induction history generalizing world with
  | nil => exact (List.append_nil _).symm
  | cons event rest ih =>
      rw [List.foldl_cons, ih]
      cases event with
      | elsewhere cache records secrets => rfl
      | revoked keyHash now written =>
          rw [step, revokeApiKey_revokedKeys, List.append_assoc]
          rfl
      | validated now request => rfl

theorem run_revokedKeys (history : List ApiKeyEvent)
    : (strategy.run history).revokedKeys = revocations history :=
  strategy.foldl_revokedKeys _ history

/-- The key is known to the repository or the configuration, no record of it is disabled or
revoked, and no spelling of it has been revoked.
-/
structure Legitimate (world : ApiKeyWorld) (revoked : List String) (key : String) : Prop where
  known :
    (∃ keyRecord, strategy.findRecord world key (strategy.sha256 key) = .ok (some keyRecord))
    ∨ strategy.configured key = true
  usable : ∀ keyRecord,
    strategy.findRecord world key (strategy.sha256 key) = .ok (some keyRecord)
    → keyRecord.disabled = false ∧ keyRecord.revoked = false
  cacheUsable : ∀ cachedMeta,
    strategy.readCache world (strategy.sha256 key) = .ok (some cachedMeta)
    → cachedMeta.member? "enabled" ≠ some (.bool false)
      ∧ (cachedMeta.member? "revokedAt").any Json.truthy = false
  unrevoked : ∀ other, Respells key other → strategy.sha256 other ∉ revoked

/-- In a history, only legitimate keys have been accepted. -/
def AcceptsOnlyKnown (history : List ApiKeyEvent) : Prop :=
  ∀ before now request after key,
    history = before ++ .validated now request :: after
    → keyOf request.keyParam = .ok key
    → strategy.accepts (strategy.run before) now request = true
    → strategy.Legitimate (strategy.run before) (revocations before) key

/-- No spelling of the key is held as revoked. -/
def Unrespelled (world : ApiKeyWorld) (key : String) : Prop :=
  ∀ other, Respells key other → strategy.sha256 other ∉ world.revokedKeys

/-- Whether the owner of the keys knows one that is neither disabled nor revoked. -/
def Owned (world : ApiKeyWorld) (key : String) : Prop :=
  match strategy.findRecord world key (strategy.sha256 key) with
  | .ok (some keyRecord) => keyRecord.disabled = false ∧ keyRecord.revoked = false
  | _ => strategy.configured key = true

/-- What has to hold of a key where it is served from, unless the request is refused there:
behind a cached record stands the owner's, a key without any record is configured, and no other
spelling has been revoked.
-/
def Warranted (world : ApiKeyWorld) (key : String) (request : KeyRequest) : ServedFrom → Prop
  | .failed => True
  | .cache cachedMeta =>
      (cachedMeta.member? "revokedAt").any Json.truthy = true
      ∨ cachedMeta.member? "enabled" ≠ some (.bool false)
        ∧ strategy.Owned world key ∧ strategy.Unrespelled world key
  | .repository keyRecord =>
      keyRecord.disabled = true ∨ keyRecord.revoked = true
      ∨ strategy.signatureAccepted world keyRecord key request = false
      ∨ strategy.Unrespelled world key
  | .nowhere =>
      strategy.configured key = false ∧ startsAsKey key = false
      ∨ strategy.signatureAccepted world (strategy.defaultRecord key (strategy.sha256 key)) key
          request
        = false
      ∨ strategy.configured key = true ∧ strategy.Unrespelled world key

/-- Behind a cached record stands the owner's. -/
theorem legitimate_of_cache {world : ApiKeyWorld} {key : String} {cachedMeta : Json}
    (read : strategy.readCache world (strategy.sha256 key) = .ok (some cachedMeta))
    (unrevoked : (cachedMeta.member? "revokedAt").any Json.truthy = false)
    : strategy.Legitimate world world.revokedKeys key
      ↔ cachedMeta.member? "enabled" ≠ some (.bool false)
        ∧ strategy.Owned world key ∧ strategy.Unrespelled world key := by
  unfold Owned
  constructor
  · intro legitimate
    refine ⟨(legitimate.cacheUsable cachedMeta read).1, ?_, legitimate.unrevoked⟩
    split
    · next keyRecord found => exact legitimate.usable keyRecord found
    · next missing =>
      rcases legitimate.known with ⟨keyRecord, found⟩ | configured
      · exact absurd found (missing keyRecord)
      · exact configured
  · rintro ⟨enabled, owned, unrespelled⟩
    refine ⟨?_, ?_, ?_, unrespelled⟩
    · split at owned
      · next keyRecord found => exact Or.inl ⟨keyRecord, found⟩
      · exact Or.inr owned
    · intro keyRecord found
      rw [found] at owned
      exact owned
    · intro other same
      obtain rfl := Option.some.inj (Except.ok.inj (same.symm.trans read))
      exact ⟨enabled, unrevoked⟩

theorem legitimate_of_repository {world : ApiKeyWorld} {key : String} {keyRecord : ApiKeyRecord}
    (read : strategy.readCache world (strategy.sha256 key) = .ok none)
    (found : strategy.findRecord world key (strategy.sha256 key) = .ok (some keyRecord))
    (usable : keyRecord.disabled = false ∧ keyRecord.revoked = false)
    : strategy.Legitimate world world.revokedKeys key ↔ strategy.Unrespelled world key := by
  constructor
  · exact fun legitimate => legitimate.unrevoked
  · intro unrespelled
    refine ⟨Or.inl ⟨keyRecord, found⟩, ?_, ?_, unrespelled⟩
    · intro other same
      obtain rfl := Option.some.inj (Except.ok.inj (same.symm.trans found))
      exact usable
    · intro cachedMeta same
      exact nomatch read.symm.trans same

/-- Without any record a key is known when it is configured. -/
theorem legitimate_of_nowhere {world : ApiKeyWorld} {key : String}
    (read : strategy.readCache world (strategy.sha256 key) = .ok none)
    (found : strategy.findRecord world key (strategy.sha256 key) = .ok none)
    : strategy.Legitimate world world.revokedKeys key
      ↔ strategy.configured key = true ∧ strategy.Unrespelled world key := by
  constructor
  · intro legitimate
    refine ⟨legitimate.known.resolve_left ?_, legitimate.unrevoked⟩
    rintro ⟨keyRecord, same⟩
    exact nomatch found.symm.trans same
  · rintro ⟨configured, unrespelled⟩
    refine ⟨Or.inr configured, ?_, ?_, unrespelled⟩
    · intro keyRecord same
      exact nomatch found.symm.trans same
    · intro cachedMeta same
      exact nomatch read.symm.trans same

/-- The exact condition on a request that is admitted. -/
theorem warranted_iff (world : ApiKeyWorld) (key : String) (request : KeyRequest)
    : (strategy.Accepted world key request (strategy.servedFrom world key)
        → strategy.Legitimate world world.revokedKeys key)
      ↔ strategy.Warranted world key request (strategy.servedFrom world key) := by
  unfold servedFrom
  cases read : strategy.readCache world (strategy.sha256 key) with
  | error error => exact iff_of_true (fun accepted => accepted.elim) trivial
  | ok cached =>
      cases cached with
      | some cachedMeta =>
          cases revoked : (cachedMeta.member? "revokedAt").any Json.truthy with
          | true => simp [Accepted, Warranted, revoked]
          | false =>
              simp [Accepted, Warranted, revoked, strategy.legitimate_of_cache read revoked]
      | none =>
          cases found : strategy.findRecord world key (strategy.sha256 key) with
          | error error => exact iff_of_true (fun accepted => accepted.elim) trivial
          | ok record =>
              cases record with
              | some keyRecord =>
                  have legitimate := strategy.legitimate_of_repository read found
                  by_cases usable : keyRecord.disabled = false ∧ keyRecord.revoked = false
                  · simp only [Accepted, Warranted, usable, legitimate usable]
                    cases strategy.signatureAccepted world keyRecord key request <;> simp
                  · refine iff_of_true (fun accepted => ?_) ?_
                    · exact absurd ⟨accepted.1, accepted.2.1⟩ usable
                    · simp only [Warranted]
                      rw [not_and_or, Bool.not_eq_false, Bool.not_eq_false] at usable
                      exact usable.imp_right Or.inl
              | none =>
                  simp only [Accepted, Warranted, strategy.legitimate_of_nowhere read found]
                  cases strategy.configured key <;> cases startsAsKey key <;>
                    cases strategy.signatureAccepted world
                      (strategy.defaultRecord key (strategy.sha256 key)) key request <;>
                    simp

/-- In a history only legitimate keys have been accepted, exactly when each key that was
admitted has been warranted where it was served from.
-/
theorem accepts_only_known_iff (history : List ApiKeyEvent)
    : strategy.AcceptsOnlyKnown history
      ↔ ∀ before now request after key,
          history = before ++ .validated now request :: after
          → strategy.Admitted (strategy.run before) request key
          → strategy.Warranted (strategy.run before) key request
              (strategy.servedFrom (strategy.run before) key) := by
  constructor
  · intro lawful before now request after key split admitted
    refine (strategy.warranted_iff _ key request).mp (fun accepted => ?_)
    rw [strategy.run_revokedKeys]
    refine lawful before now request after key split admitted.given ?_
    exact (strategy.accepts_iff_admitted _ now request).mpr ⟨key, admitted, accepted⟩
  · intro warranted before now request after key split given taken
    obtain ⟨admittedKey, admitted, accepted⟩ := (strategy.accepts_iff_admitted _ now request).mp taken
    obtain rfl := Except.ok.inj (admitted.given.symm.trans given)
    have legitimate :=
      (strategy.warranted_iff _ admittedKey request).mpr
        (warranted before now request after admittedKey split admitted) accepted
    rwa [strategy.run_revokedKeys] at legitimate

/-- The strategy with a repository, and the digests of the spellings below. -/
def ofRepository : ApiKeyStrategy where
  sha256 text :=
    if text = "qf_00112233445566aa_8899aabbccddeeff" then
      "e0cc0053703b3da97105d4ca5639372f46d9f8ab325ed6b3ddc2227271b133fe"
    else if text = "qf_00112233445566aa_8899aabbccddeeff " then
      "a7f5beb841dd62b4b77576fab682ba495eed3cfefab0d7c462e372bc2ed18698"
    else
      ""
  hmac := digestTable []
  parse _ := none
  numberText _ := "0"
  apiKeys := []
  cacheGets := false
  cacheSets := false
  repository := some .findByKeyHash
  hmacSecret := none

end ApiKeyStrategy

def workerRecord (enabled : Bool) : ApiKeyRecord where
  id := some "key-1"
  keyId := none
  key := some "qf_00112233445566aa_8899aabbccddeeff"
  name := some "Worker"
  roles := some ["SERVICE"]
  permissions := none
  scopes := none
  enabled := some enabled
  createdAt := none
  revokedAt := none
  secret := none

/-- A repository that has one record. -/
def recordsOf (keyRecord : ApiKeyRecord) (index : String)
    : Settled SecurityError (Option ApiKeyRecord) :=
  if index = "e0cc0053703b3da97105d4ca5639372f46d9f8ab325ed6b3ddc2227271b133fe" then
    .ok (some keyRecord)
  else
    .ok none

/-- The key is created, and its record stored. -/
def creation : ApiKeyEvent :=
  .elsewhere (fun _ => .ok none) (recordsOf (workerRecord true)) (fun _ => .ok none)

def revocation : ApiKeyEvent :=
  .revoked "e0cc0053703b3da97105d4ca5639372f46d9f8ab325ed6b3ddc2227271b133fe" 0 (.ok ())

/-- A key that was revoked is accepted with a blank after it, which no repository knows. -/
theorem respelled_key_accepted
    : ¬ApiKeyStrategy.ofRepository.AcceptsOnlyKnown
        [
          creation,
          revocation,
          .validated 1 ⟨.text "qf_00112233445566aa_8899aabbccddeeff ", none, none⟩
        ] := by
  intro lawful
  have legitimate :=
    lawful [creation, revocation] 1 _ [] "qf_00112233445566aa_8899aabbccddeeff " rfl
      (by decide +kernel) (by decide +kernel)
  refine legitimate.unrevoked "qf_00112233445566aa_8899aabbccddeeff" ?_ ?_
  · decide +kernel
  · decide +kernel

end QueueForge.Security
