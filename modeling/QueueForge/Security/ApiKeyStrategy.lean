import QueueForge.Security.HmacSigner
import QueueForge.Security.JWTStrategy

/-! `ApiKeyStrategy`: the creation, the validation and the revocation of API keys.
The digests, the parser of the language and what the collaborators answer are parameters.
-/

namespace QueueForge.Security

open QueueForge.Async QueueForge.Js

/-- `string | Date | null`, where what was read from a text may be any JSON value. -/
inductive Moment where
  | json (value : Json)
  | date (value : Date)

namespace Moment

def truthy : Moment → Bool
  | json value => value.truthy
  | date _ => true

/-- `left || right`. -/
def orElse (left : Option Moment) (right : Moment) : Moment :=
  if left.any truthy then left.getD right else right

/-- What `JSON.stringify` makes of it; an invalid date becomes `null`. -/
def toJson : Moment → Json
  | json value => value
  | date (some time) => .string (toISOString time)
  | date none => .null

end Moment

/-- The record of a key; `none` stands for `undefined`. Its dates are texts, dates or `null`. -/
structure ApiKeyRecord where
  id : Option String
  keyId : Option String
  key : Option String
  name : Option String
  roles : Option (List String)
  permissions : Option (List String)
  scopes : Option (List String)
  enabled : Option Bool
  createdAt : Option Moment
  revokedAt : Option Moment
  secret : Option String

def textsOf (texts : List String) : Json :=
  .array (texts.map Json.string)

/-- The members that are not `undefined`. -/
def present (members : List (String × Option Json)) : List (String × Json) :=
  members.filterMap (fun member => member.2.map (fun value => (member.1, value)))

theorem present_nil : present [] = [] :=
  rfl

theorem lookup_present_cons (name key : String) (value : Option Json)
    (rest : List (String × Option Json))
    : (present ((name, value) :: rest)).lookup key
      = if key == name then value <|> (present rest).lookup key
        else (present rest).lookup key := by
  unfold present
  cases value with
  | none => simp
  | some value => cases same : key == name <;> simp [List.lookup_cons, same]

namespace ApiKeyRecord

variable (record : ApiKeyRecord)

/-- What is read from the text a record is stored as: its members that are not `undefined`. -/
def toJson : Json :=
  .object
    (present
      [
        ("id", record.id.map Json.string),
        ("keyId", record.keyId.map Json.string),
        ("key", record.key.map Json.string),
        ("name", record.name.map Json.string),
        ("roles", record.roles.map textsOf),
        ("permissions", record.permissions.map textsOf),
        ("scopes", record.scopes.map textsOf),
        ("enabled", record.enabled.map Json.bool),
        ("createdAt", record.createdAt.map Moment.toJson),
        ("revokedAt", record.revokedAt.map Moment.toJson),
        ("secret", record.secret.map Json.string)
      ])

def disabled : Bool :=
  record.enabled = some false

def revoked : Bool :=
  record.revokedAt.any Moment.truthy

end ApiKeyRecord

/-- What a valid key gives its holder. -/
structure KeyContext where
  id : Json
  keyId : Json
  key : Json
  name : Json
  roles : Json
  permissions : Json
  scopes : Json
  enabled : Bool
  createdAt : Moment
  revokedAt : Moment

/-- `{ key: string } | any`: any other value is taken for its text, which is empty where the
value is falsy.
-/
inductive KeyParam where
  | text (value : String)
  | object (key : Option Json)

/-- The function a repository has to find a record. -/
inductive KeyLookup where
  | findByKeyHash
  | findByKey
deriving DecidableEq

/-- The strategy with what it was constructed from. -/
structure ApiKeyStrategy where
  sha256 : (text : String) → String
  hmac : Hmac
  parse : String → Option Json
  numberText : Number → String
  apiKeys : List String
  cacheGets : Bool
  cacheSets : Bool
  repository : Option KeyLookup
  hmacSecret : Option String

/-- The revoked hashes the strategy holds, and what its collaborators answer at the moment. -/
structure ApiKeyWorld where
  revokedKeys : List String
  cache : (entry : String) → Settled SecurityError (Option String)
  records : (index : String) → Settled SecurityError (Option ApiKeyRecord)
  secrets : (name : String) → Settled SecurityError (Option String)

/-- The arguments of `validateApiKey`. -/
structure KeyRequest where
  keyParam : KeyParam
  signature : Option String
  timestamp : Option String

def invalidKey (message : String) : SecurityError :=
  .authentication message .invalidKey

namespace ApiKeyStrategy

variable (strategy : ApiKeyStrategy)

/-- Generates a new cryptographically secure API key pair (`qf_XXXXXXXX_YYYYYYYY`). -/
def generateApiKey (part1 part2 secret : List UInt8) : String × String :=
  ("qf_" ++ hexOf part1 ++ "_" ++ hexOf part2, hexOf secret)

/-- Computes HMAC-SHA256 signature over data string using API key secret. -/
def verifyApiKeySignature (key secret data providedSignature : String) : Bool :=
  let expectedSig := hexOf (strategy.hmac .SHA256 secret (key ++ ":" ++ data))
  decide (providedSignature ≠ "" ∧ expectedSig = providedSignature)

/-- `/^qf_[a-fA-F0-9]{16}_[a-fA-F0-9]{16}$/.test(text)`. -/
def hasKeyFormat (text : String) : Bool :=
  let chars := text.toList
  decide (chars.length = 36 ∧ chars.take 3 = ['q', 'f', '_'] ∧ chars[19]? = some '_')
    && ((chars.drop 3).take 16).all isHexDigit && (chars.drop 20).all isHexDigit

section
variable {part1 part2 : List UInt8} (secret : List UInt8)

theorem generateApiKey_toList
    : (generateApiKey part1 part2 secret).1.toList
      = ['q', 'f', '_'] ++ ((hexOf part1).toList ++ '_' :: (hexOf part2).toList) := by
  simp [generateApiKey, String.toList_append]

/-- The characters of a key that has been generated. -/
theorem mem_generateApiKey {char : Char}
    (mem : char ∈ (generateApiKey part1 part2 secret).1.toList)
    : char ∈ "qf_0123456789abcdef".toList := by
  have digits : ∀ digit < 16, hexDigit digit ∈ "qf_0123456789abcdef".toList := by decide +kernel
  have marks : ['q', 'f', '_'] <+: "qf_0123456789abcdef".toList := by decide +kernel
  have written (bytes : List UInt8) (listed : char ∈ (hexOf bytes).toList)
      : char ∈ "qf_0123456789abcdef".toList := by
    obtain ⟨digit, small, rfl⟩ := exists_digit_of_mem listed
    exact digits digit small
  rw [generateApiKey_toList] at mem
  rcases List.mem_append.mp mem with start | parts
  · exact marks.subset start
  · rcases List.mem_append.mp parts with first | rest
    · exact written part1 first
    · rcases List.mem_cons.mp rest with rfl | second
      · decide +kernel
      · exact written part2 second

theorem trim_generateApiKey
    : trim (generateApiKey part1 part2 secret).1 = (generateApiKey part1 part2 secret).1 := by
  have visible : "qf_0123456789abcdef".toList.any isWhiteSpace = false := by decide +kernel
  rw [List.any_eq_false] at visible
  apply trim_of_ends
  · intro char first
    exact Bool.eq_false_of_not_eq_true
      (visible char (mem_generateApiKey secret (List.mem_of_head? first)))
  · intro char last
    exact Bool.eq_false_of_not_eq_true
      (visible char (mem_generateApiKey secret (List.mem_of_getLast? last)))

/-- A key that has been generated has the format of a key. -/
theorem generateApiKey_hasKeyFormat (first : part1.length = 8) (second : part2.length = 8)
    : hasKeyFormat (trim (generateApiKey part1 part2 secret).1) = true := by
  have length1 : (hexOf part1).toList.length = 16 := by rw [length_hexOf, first]
  have length2 : (hexOf part2).toList.length = 16 := by rw [length_hexOf, second]
  have digits (bytes : List UInt8) : (hexOf bytes).toList.all isHexDigit = true := by
    refine List.all_eq_true.mpr (fun char mem => ?_)
    obtain ⟨digit, small, rfl⟩ := exists_digit_of_mem mem
    exact isHexDigit_hexDigit small
  have beyond : (hexOf part1).toList.drop 17 = [] := List.drop_of_length_le (by omega)
  rw [trim_generateApiKey, hasKeyFormat, generateApiKey_toList]
  simpa [List.drop_append, List.take_append, length1, length2, beyond]
    using And.intro (List.all_eq_true.mp (digits part1)) (List.all_eq_true.mp (digits part2))

end

/-- The key of a request, which is no empty string. -/
def keyOf : KeyParam → Settled SecurityError String
  | .text value =>
      if value = "" then .error (invalidKey "API key is missing or empty") else .ok value
  | .object (some (.string value)) =>
      if value = "" then .error (invalidKey "API key is missing or empty") else .ok value
  | .object _ => .error (invalidKey "API key is missing or empty")

/-- The name of a key that has none. -/
def keyName (hashedKey : String) : String :=
  "key-" ++ String.ofList (hashedKey.toList.take 8)

/-- `left || right`. -/
def orElse (left : Option Json) (right : Json) : Json :=
  if left.any Json.truthy then left.getD right else right

/-- The cached record of a hash. A text that is no JSON counts as none, and so does `null`,
whose fields cannot be read.
-/
def readCache (world : ApiKeyWorld) (hashedKey : String) : Settled SecurityError (Option Json) :=
  if strategy.cacheGets then do
    let rawCache ← world.cache ("api_key:" ++ hashedKey)
    match rawCache.filter (· ≠ "") with
    | none => return none
    | some rawCache =>
        match strategy.parse rawCache with
        | none => return none
        | some .null => return none
        | some cachedMeta => return some cachedMeta
  else
    return none

/-- What a cached record gives. -/
def cachedContext (now : Int) (key hashedKey : String) (cachedMeta : Json)
    : Settled SecurityError KeyContext :=
  if (cachedMeta.member? "revokedAt").any Json.truthy then
    .error (invalidKey "API Key has been revoked")
  else
    .ok
      {
        id := orElse (cachedMeta.member? "id") (.string (keyName hashedKey))
        keyId := orElse (cachedMeta.member? "id") (.string (keyName hashedKey))
        key := .string key
        name := orElse (cachedMeta.member? "name") (.string "Test Client")
        roles := orElse (cachedMeta.member? "roles") (textsOf ["SERVICE"])
        permissions := orElse (cachedMeta.member? "permissions") (textsOf ["READ", "WRITE"])
        scopes := orElse (cachedMeta.member? "scopes") (textsOf ["ingest"])
        enabled := match cachedMeta.member? "enabled" with
          | some (.bool enabled) => enabled
          | _ => true
        createdAt := .json (orElse (cachedMeta.member? "createdAt") (.string (toISOString now)))
        revokedAt := .json (orElse (cachedMeta.member? "revokedAt") .null)
      }

/-- The record the repository has of a key. -/
def findRecord (world : ApiKeyWorld) (key hashedKey : String)
    : Settled SecurityError (Option ApiKeyRecord) :=
  match strategy.repository with
  | some .findByKeyHash => world.records hashedKey
  | some .findByKey => world.records key
  | none => .ok none

/-- Whether a key is one of the configuration. -/
def configured (key : String) : Bool :=
  strategy.apiKeys.contains key

/-- `key.startsWith('qf_')`. -/
def startsAsKey (key : String) : Bool :=
  "qf_".toList.isPrefixOf key.toList

/-- Default mock fallback for unconfigured repos. -/
def defaultRecord (key hashedKey : String) : ApiKeyRecord where
  id := some (keyName hashedKey)
  keyId := none
  key := some key
  name := some "Default Service Key"
  roles := some ["SERVICE"]
  permissions := some ["READ", "WRITE"]
  scopes := some ["ingest", "read", "write"]
  enabled := some true
  createdAt := none
  revokedAt := none
  secret := some ((orString strategy.hmacSecret none).getD "default-api-key-secret-32-chars-long!")

/-- A key without a record is given one where it is configured, or starts as keys do. -/
def recordOr (key hashedKey : String)
    : Option ApiKeyRecord → Settled SecurityError ApiKeyRecord
  | some keyRecord => .ok keyRecord
  | none =>
      if strategy.configured key || startsAsKey key then
        .ok (strategy.defaultRecord key hashedKey)
      else
        .error (invalidKey "API Key not found or revoked")

/-- The secret a signature is made with. -/
def secretOf (world : ApiKeyWorld) (keyRecord : ApiKeyRecord) : Settled SecurityError String :=
  match orString keyRecord.secret none with
  | some secret => .ok secret
  | none => do
      let stored ← world.secrets ("api-key:" ++ keyRecord.id.getD "undefined")
      return (orString stored none).getD "default-secret"

/-- Validate signature if provided. -/
def checkSignature (world : ApiKeyWorld) (keyRecord : ApiKeyRecord) (key : String)
    (request : KeyRequest)
    : Settled SecurityError Unit :=
  match request.signature.filter (· ≠ ""), request.timestamp.filter (· ≠ "") with
  | some signature, some timestamp => do
      let secret ← secretOf world keyRecord
      if strategy.verifyApiKeySignature key secret timestamp signature then
        return ()
      else
        .error (.authentication "API Key signature validation failed" .invalidCredentials)
  | _, _ => .ok ()

/-- What a record gives. -/
def recordContext (now : Int) (key : String) (keyRecord : ApiKeyRecord) : KeyContext :=
  let keyId := (orString keyRecord.id (orString keyRecord.keyId none)).getD key
  let permissions := keyRecord.permissions
  {
    id := .string keyId
    keyId := .string keyId
    key := .string ((orString keyRecord.key none).getD key)
    name := .string ((orString keyRecord.name none).getD "API Key User")
    roles := textsOf (keyRecord.roles.getD ["SERVICE"])
    permissions := textsOf (permissions.getD ["READ", "WRITE"])
    scopes :=
      textsOf (keyRecord.scopes.getD (permissions.getD ["ingest", "read", "write"]))
    enabled := !keyRecord.disabled
    createdAt := Moment.orElse keyRecord.createdAt (.date (some now))
    revokedAt := Moment.orElse keyRecord.revokedAt (.json .null)
  }

/-- What `validateApiKey` does once it has the record of a key. -/
def validateRecord (world : ApiKeyWorld) (now : Int) (key : String) (request : KeyRequest)
    (keyRecord : ApiKeyRecord)
    : Settled SecurityError KeyContext :=
  if keyRecord.disabled || keyRecord.revoked then
    .error (invalidKey "API Key has been disabled or revoked")
  else do
    strategy.checkSignature world keyRecord key request
    return recordContext now key keyRecord

/-- Validates key format, repository existence, active status, and optional HMAC signature. -/
def validateApiKey (world : ApiKeyWorld) (now : Int) (request : KeyRequest)
    : Settled SecurityError KeyContext := do
  let key ← keyOf request.keyParam
  if !hasKeyFormat (trim key) then
    .error (invalidKey "Invalid API Key format. Expected \"qf_XXXXXXXX_YYYYYYYY\".")
  else
    let hashedKey := strategy.sha256 key
    if world.revokedKeys.contains hashedKey then
      .error (invalidKey "API Key has been revoked")
    else
      match ← strategy.readCache world hashedKey with
      | some cachedMeta => cachedContext now key hashedKey cachedMeta
      | none =>
          let found ← strategy.findRecord world key hashedKey
          let keyRecord ← strategy.recordOr key hashedKey found
          strategy.validateRecord world now key request keyRecord

/-- The text a revocation leaves in the cache. -/
def revocationText (keyHash : String) (now : Int) : String :=
  (Json.object
    [("id", .string (keyName keyHash)), ("revokedAt", .string (toISOString now))]).stringify
      strategy.numberText

/-- Revokes an API Key hash from active service context. The hash is held before the cache is
written, which may fail.
-/
def revokeApiKey (world : ApiKeyWorld) (keyHash : String) (now : Int)
    (written : Settled SecurityError Unit)
    : Settled SecurityError Unit × ApiKeyWorld :=
  let held := { world with revokedKeys := world.revokedKeys ++ [keyHash] }
  if strategy.cacheSets then
    match written with
    | .ok () =>
        let text := strategy.revocationText keyHash now
        let entry := "api_key:" ++ keyHash
        (.ok (),
          {
            held with
            cache := fun other => if other = entry then .ok (some text) else held.cache other
          })
    | .error error => (.error error, held)
  else
    (.ok (), held)

/-- Where the record of a key comes from. -/
inductive ServedFrom where
  | failed
  | cache (cachedMeta : Json)
  | repository (keyRecord : ApiKeyRecord)
  | nowhere

def servedFrom (world : ApiKeyWorld) (key : String) : ServedFrom :=
  match strategy.readCache world (strategy.sha256 key) with
  | .error _ => .failed
  | .ok (some cachedMeta) => .cache cachedMeta
  | .ok none =>
      match strategy.findRecord world key (strategy.sha256 key) with
      | .error _ => .failed
      | .ok (some keyRecord) => .repository keyRecord
      | .ok none => .nowhere

/-- A key of the right format whose hash is not held as revoked. -/
structure Admitted (world : ApiKeyWorld) (request : KeyRequest) (key : String) : Prop where
  given : keyOf request.keyParam = .ok key
  format : hasKeyFormat (trim key) = true
  unrevoked : strategy.sha256 key ∉ world.revokedKeys

/-- Whether the signature of a request, where it has one, is that of a record. -/
def signatureAccepted (world : ApiKeyWorld) (keyRecord : ApiKeyRecord) (key : String)
    (request : KeyRequest)
    : Bool :=
  (strategy.checkSignature world keyRecord key request).isOk

/-- What each source of a record accepts. -/
def Accepted (world : ApiKeyWorld) (key : String) (request : KeyRequest) : ServedFrom → Prop
  | .failed => False
  | .cache cachedMeta => (cachedMeta.member? "revokedAt").any Json.truthy = false
  | .repository keyRecord =>
      keyRecord.disabled = false ∧ keyRecord.revoked = false
      ∧ strategy.signatureAccepted world keyRecord key request = true
  | .nowhere =>
      (strategy.configured key = true ∨ startsAsKey key = true)
      ∧ strategy.signatureAccepted world (strategy.defaultRecord key (strategy.sha256 key)) key
          request
        = true

/-- Whether a request is accepted. -/
def accepts (world : ApiKeyWorld) (now : Int) (request : KeyRequest) : Bool :=
  (strategy.validateApiKey world now request).isOk

theorem isOk_bind {ε α β : Type} {result : Settled ε α} {next : α → Settled ε β}
    : (result >>= next).isOk = true
      ↔ ∃ value, result = .ok value ∧ (next value).isOk = true := by
  cases result with
  | error error => simp [bind, Except.bind, Except.isOk, Except.toBool]
  | ok value => simp [bind, Except.bind]

theorem cachedContext_isOk (now : Int) (key hashedKey : String) (cachedMeta : Json)
    : (cachedContext now key hashedKey cachedMeta).isOk = true
      ↔ (cachedMeta.member? "revokedAt").any Json.truthy = false := by
  unfold cachedContext
  split
  · next revoked => simp [revoked, Except.isOk, Except.toBool]
  · next unrevoked => simpa [Except.isOk, Except.toBool] using unrevoked

theorem validateRecord_isOk (world : ApiKeyWorld) (now : Int) (key : String)
    (request : KeyRequest) (keyRecord : ApiKeyRecord)
    : (strategy.validateRecord world now key request keyRecord).isOk = true
      ↔ keyRecord.disabled = false ∧ keyRecord.revoked = false
        ∧ strategy.signatureAccepted world keyRecord key request = true := by
  unfold validateRecord
  split
  · next refused =>
    rw [Bool.or_eq_true_iff] at refused
    constructor
    · exact nofun
    · rintro ⟨enabled, unrevoked, _⟩
      simp [enabled, unrevoked] at refused
  · next usable =>
    rw [Bool.not_eq_true, Bool.or_eq_false_iff] at usable
    simp only [usable.1, usable.2, isOk_bind, signatureAccepted, true_and]
    cases strategy.checkSignature world keyRecord key request with
    | error error => simp [Except.isOk, Except.toBool]
    | ok checked => simp [Except.isOk, Except.toBool, pure, Except.pure]

/-- The record of a key that nothing knows is neither disabled nor revoked. -/
theorem recordOr_none_isOk (world : ApiKeyWorld) (now : Int) (key : String)
    (request : KeyRequest)
    : (∃ keyRecord,
        strategy.recordOr key (strategy.sha256 key) none = .ok keyRecord
        ∧ (strategy.validateRecord world now key request keyRecord).isOk = true)
      ↔ strategy.Accepted world key request .nowhere := by
  have enabled : (strategy.defaultRecord key (strategy.sha256 key)).disabled = false := rfl
  have unrevoked : (strategy.defaultRecord key (strategy.sha256 key)).revoked = false := rfl
  simp only [recordOr, Accepted]
  split
  · next taken =>
    rw [Bool.or_eq_true_iff] at taken
    simp [validateRecord_isOk, enabled, unrevoked, taken]
  · next taken =>
    rw [Bool.or_eq_true_iff] at taken
    exact iff_of_false (fun found => nomatch found.choose_spec.1) (fun both => taken both.1)

/-- A request is accepted when its key is admitted, and accepted where it is served from. -/
theorem accepts_iff_admitted (world : ApiKeyWorld) (now : Int) (request : KeyRequest)
    : strategy.accepts world now request = true
      ↔ ∃ key, strategy.Admitted world request key
          ∧ strategy.Accepted world key request (strategy.servedFrom world key) := by
  have refused {error : SecurityError}
      : ¬(Except.error error : Settled SecurityError KeyContext).isOk = true :=
    Bool.false_ne_true
  rw [accepts, validateApiKey, isOk_bind]
  refine exists_congr (fun key => ?_)
  have admitted
      : strategy.Admitted world request key
        ↔ keyOf request.keyParam = .ok key ∧ hasKeyFormat (trim key) = true
          ∧ strategy.sha256 key ∉ world.revokedKeys :=
    ⟨fun admitted => ⟨admitted.given, admitted.format, admitted.unrevoked⟩,
      fun parts => ⟨parts.1, parts.2.1, parts.2.2⟩⟩
  rw [admitted, and_assoc, and_assoc]
  refine and_congr_right (fun given => ?_)
  split
  · next malformed =>
    simp only [Bool.not_eq_true'] at malformed
    exact iff_of_false refused (fun both => by cases malformed.symm.trans both.1)
  · next wellFormed =>
    simp only [Bool.not_eq_true', Bool.not_eq_false] at wellFormed
    rw [and_iff_right wellFormed]
    dsimp only
    split
    · next held =>
      exact iff_of_false refused (fun both => both.1 (List.contains_iff_mem.mp held))
    · next held =>
      rw [and_iff_right (fun mem => held (List.contains_iff_mem.mpr mem)), isOk_bind]
      unfold servedFrom
      cases strategy.readCache world (strategy.sha256 key) with
      | error error => simp [Accepted]
      | ok cached =>
          cases cached with
          | some cachedMeta => simp [Accepted, cachedContext_isOk]
          | none =>
              simp only [Except.ok.injEq, exists_eq_left', isOk_bind]
              cases strategy.findRecord world key (strategy.sha256 key) with
              | error error => simp [Accepted]
              | ok found =>
                  cases found with
                  | some keyRecord => simp [recordOr, validateRecord_isOk, Accepted]
                  | none =>
                      simp only [Except.ok.injEq, exists_eq_left']
                      exact strategy.recordOr_none_isOk world now key request

/-- For a request whose key is known. -/
theorem accepts_iff_of_given (world : ApiKeyWorld) (now : Int) {request : KeyRequest}
    {key : String} (given : keyOf request.keyParam = .ok key)
    : strategy.accepts world now request = true
      ↔ hasKeyFormat (trim key) = true ∧ strategy.sha256 key ∉ world.revokedKeys
        ∧ strategy.Accepted world key request (strategy.servedFrom world key) := by
  rw [accepts_iff_admitted]
  constructor
  · rintro ⟨other, admitted, accepted⟩
    obtain rfl := Except.ok.inj (admitted.given.symm.trans given)
    exact ⟨admitted.format, admitted.unrevoked, accepted⟩
  · rintro ⟨format, unrevoked, accepted⟩
    exact ⟨key, ⟨given, format, unrevoked⟩, accepted⟩

end ApiKeyStrategy

end QueueForge.Security
