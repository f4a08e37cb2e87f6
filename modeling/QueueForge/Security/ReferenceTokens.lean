import Mathlib.Data.Countable.Basic
import Mathlib.Data.Rat.Encodable
import Mathlib.Logic.Equiv.List
import Mathlib.Logic.Function.Basic
import Mathlib.Tactic.DeriveCountable
import QueueForge.Security.JWTStrategy

/-! A token library that behaves as documented.
It spells the tokens of a table as listed there, and any other signed claims as a text that is
their number in an enumeration.
-/

namespace QueueForge.Security

open QueueForge.Async QueueForge.Js

instance countable_char : Countable Char :=
  Function.Injective.countable (f := Char.toNat) (fun _ _ => Char.toNat_inj.mp)

instance countable_string : Countable String :=
  Function.Injective.countable (f := String.toList) (fun _ _ => String.toList_inj.mp)

deriving instance Countable for Number
deriving instance Countable for Claim

/-- Claims with the secret they are signed under. -/
abbrev Signed : Type := Members × String

theorem exists_numbering : ∃ number : Signed → Nat, Function.Injective number :=
  exists_injective_nat Signed

noncomputable def numbering : Signed → Nat := exists_numbering.choose

theorem numbering_injective : Function.Injective numbering := exists_numbering.choose_spec

/-- The tokens of some signed claims, as the library really spells them. -/
structure TokenTable where
  entries : List (Signed × String)
  distinct : (entries.map Prod.snd).Nodup
  dotted : ∀ entry ∈ entries, '.' ∈ entry.2.toList

namespace TokenTable

variable (table : TokenTable)

/-- The token of signed claims. -/
noncomputable def spelled (signed : Signed) : String :=
  match table.entries.find? (fun entry => entry.1 = signed) with
  | some entry => entry.2
  | none => String.ofList ('a' :: List.replicate (numbering signed) 'a')

/-- The signed claims of a token, if it has any. -/
noncomputable def parsed (token : String) : Option Signed :=
  match table.entries.find? (fun entry => entry.2 = token) with
  | some entry => some entry.1
  | none =>
      match token.toList with
      | [] => none
      | _ :: rest => Function.partialInv numbering rest.length

theorem parsed_spelled (signed : Signed) : table.parsed (table.spelled signed) = some signed := by
  unfold spelled
  cases listed : table.entries.find? (fun entry => entry.1 = signed) with
  | some entry =>
      have mem := List.mem_of_find?_eq_some listed
      have same : entry.1 = signed := by simpa using List.find?_some listed
      unfold parsed
      cases found : table.entries.find? (fun other => other.2 = entry.2) with
      | none => simpa using List.find?_eq_none.mp found entry mem
      | some other =>
          have spelledAlike : other.2 = entry.2 := by simpa using List.find?_some found
          have alike : other = entry :=
            List.inj_on_of_nodup_map table.distinct (List.mem_of_find?_eq_some found) mem
              spelledAlike
          simp only [alike, same]
  | none =>
      unfold parsed
      cases found
        : table.entries.find?
            (fun entry => entry.2 = String.ofList ('a' :: List.replicate (numbering signed) 'a')) with
      | none =>
          simp only [String.toList_ofList, List.length_replicate]
          exact Function.partialInv_left numbering_injective signed
      | some entry =>
          have dotted := table.dotted entry (List.mem_of_find?_eq_some found)
          have plain : entry.2 = String.ofList ('a' :: List.replicate (numbering signed) 'a') := by
            simpa using List.find?_some found
          rw [plain, String.toList_ofList, ← List.replicate_succ, List.mem_replicate] at dotted
          exact absurd dotted.2 (by decide)

end TokenTable

namespace Members

/-- The claims have expired, when that matters. -/
def expired (payload : Members) (options : VerifyOptions) (clockTimestamp : Int) : Bool :=
  match payload.get "exp" with
  | some (.number expiry) => !options.ignoreExpiration && expiry.le (.ofInt clockTimestamp)
  | _ => false

/-- The claims are not valid yet, when that matters. -/
def early (payload : Members) (options : VerifyOptions) (clockTimestamp : Int) : Bool :=
  match payload.get "nbf" with
  | some (.number start) =>
      !options.ignoreNotBefore && Number.lt (.ofInt clockTimestamp) start
  | _ => false

/-- One of the audiences is the one that is asked for. -/
def addresses (payload : Members) (audience : String) : Bool :=
  match payload.get "aud" with
  | some (.texts audiences) => audiences.contains audience
  | some (.string single) => decide (single = audience)
  | _ => false

end Members

/-- How the library judges claims whose signature is right. -/
def judged (payload : Members) (options : VerifyOptions) (clockTimestamp : Int)
    : Except JwtError JWTPayload :=
  if payload.early options clockTimestamp then
    .error ⟨"NotBeforeError", "jwt not active"⟩
  else if payload.expired options clockTimestamp then
    .error ⟨"TokenExpiredError", "jwt expired"⟩
  else if !payload.addresses options.audience then
    .error ⟨"JsonWebTokenError", s!"jwt audience invalid. expected: {options.audience}"⟩
  else if payload.get "iss" ≠ some (.string options.issuer) then
    .error ⟨"JsonWebTokenError", s!"jwt issuer invalid. expected: {options.issuer}"⟩
  else
    .ok ⟨payload, false⟩

noncomputable def TokenTable.jwt (table : TokenTable) : Jsonwebtoken where
  sign payload secret :=
    if secret = "" then
      .error "secretOrPrivateKey must have a value"
    else
      match ["iat", "exp", "nbf"].find? (fun key => !payload.numericAt key) with
      | some key => .error s!"\"{key}\" should be a number of seconds"
      | none => .ok (table.spelled (payload, secret))
  decode token := .ok ((table.parsed token).map (fun signed => ⟨signed.1, false⟩))
  verify token secret options clockTimestamp :=
    match table.parsed token with
    | none => .error ⟨"JsonWebTokenError", "jwt malformed"⟩
    | some signed =>
        if signed.2 ≠ secret then
          .error ⟨"JsonWebTokenError", "invalid signature"⟩
        else
          judged signed.1 options clockTimestamp

/-- A token of the library is its spelling of the claims. -/
theorem TokenTable.sign_eq_ok {table : TokenTable} {payload : Members} {secret token : String}
    (signed : table.jwt.sign payload secret = .ok token)
    : token = table.spelled (payload, secret) := by
  simp only [TokenTable.jwt] at signed
  split at signed
  · exact nomatch signed
  · split at signed
    · exact nomatch signed
    · exact (Except.ok.inj signed).symm

theorem TokenTable.parsed_empty (table : TokenTable) : table.parsed "" = none := by
  unfold parsed
  cases found : table.entries.find? (fun entry => entry.2 = "") with
  | none => rfl
  | some entry =>
      have dotted := table.dotted entry (List.mem_of_find?_eq_some found)
      have empty : entry.2 = "" := by simpa using List.find?_some found
      rw [empty] at dotted
      exact nomatch dotted

theorem TokenTable.jwt_documented (table : TokenTable) : table.jwt.Documented where
  refuses_empty := by
    intro secret options clockTimestamp decoded
    simp [TokenTable.jwt, table.parsed_empty]
  signs_iff payload secret given := by
    simp only [TokenTable.jwt, given, if_false]
    cases found : ["iat", "exp", "nbf"].find? (fun key => !payload.numericAt key) with
    | none =>
        have numeric := List.find?_eq_none.mp found
        simpa [Members.datesNumeric] using numeric
    | some key =>
        have present := List.mem_of_find?_eq_some found
        have broken : payload.numericAt key = false := by simpa using List.find?_some found
        simp only [reduceCtorEq, exists_false, false_iff, Members.datesNumeric, List.all_eq_true]
        intro numeric
        simpa [broken] using numeric key present
  decodes signed _ := by
    rw [sign_eq_ok signed]
    simp only [TokenTable.jwt, table.parsed_spelled]
    exact ⟨_, rfl, rfl, fun _ => rfl⟩
  verifies := by
    intro payload secret token options clockTimestamp expiry signed _ issuer audience active
      expires fresh
    rw [sign_eq_ok signed]
    have kept : payload.expired options clockTimestamp = false := by
      simp only [Members.expired, expires, Number.ofInt_le_ofInt]
      simp [fresh]
    have started : payload.early options clockTimestamp = false := by
      simp only [Members.early, active]
    have addressed : payload.addresses options.audience = true := by
      simp [Members.addresses, audience]
    refine ⟨⟨payload, false⟩, ?_, rfl, fun _ => rfl⟩
    simp [TokenTable.jwt, table.parsed_spelled, judged, started, kept, addressed, issuer]

theorem dotted_append {start : String} (dotted : '.' ∈ start.toList) (rest : String)
    : '.' ∈ (start ++ rest).toList := by
  rw [String.toList_append]
  exact List.mem_append_left _ dotted

/-- The part all tokens start with ends with a dot. -/
theorem header_dotted : '.' ∈ "eyJhbGciOiJIUzI1NiIsInR5cCI6IkpXVCJ9.".toList := by
  decide

/-! The tokens of a login and of its first rotation, 200 seconds before the refresh token
expires.
-/

/-- The strategy of a process without settings, over the library with a table of tokens. -/
noncomputable def defaultStrategy (table : TokenTable) : JWTStrategy where
  jwt := table.jwt
  readNumber _ := .nan
  secret := "queueforge-secret-key-min-32-chars-long!"
  issuer := "queueforge"
  audience := "queueforge-api"
  defaultExpiryMs := 3600000
  secret_given := by decide

def aliceRefreshToken : String :=
  "eyJhbGciOiJIUzI1NiIsInR5cCI6IkpXVCJ9."
  ++ "eyJpc3MiOiJxdWV1ZWZvcmdlIiwiYXVkIjoicXVldWVmb3JnZS1hcGkiLCJpYXQiOjE3MDAwMDAwMDAsImV4cCI6"
  ++ "MTcwMDYwNDgwMCwic3ViIjoiYWxpY2UiLCJyb2xlcyI6W10sInBlcm1pc3Npb25zIjpbXSwidHlwZSI6InJlZnJl"
  ++ "c2gifQ."
  ++ "_tWA_c1GnAb8NyAVlvDF2y0Oe5ScGjNMqYJ1LIRWBZI"

def aliceAccessToken : String :=
  "eyJhbGciOiJIUzI1NiIsInR5cCI6IkpXVCJ9."
  ++ "eyJpc3MiOiJxdWV1ZWZvcmdlIiwiYXVkIjoicXVldWVmb3JnZS1hcGkiLCJpYXQiOjE3MDAwMDAwMDAsImV4cCI6"
  ++ "MTcwMDAwMzYwMCwic3ViIjoiYWxpY2UiLCJyb2xlcyI6WyJBRE1JTiJdLCJwZXJtaXNzaW9ucyI6W10sInR5cGUi"
  ++ "OiJhY2Nlc3MifQ."
  ++ "8iJEiCFZzokZHRuKctH4-Nif_6pRaghtsLIKUUq363E"

def laterAccessToken : String :=
  "eyJhbGciOiJIUzI1NiIsInR5cCI6IkpXVCJ9."
  ++ "eyJpc3MiOiJxdWV1ZWZvcmdlIiwiYXVkIjoicXVldWVmb3JnZS1hcGkiLCJpYXQiOjE3MDA2MDQ2MDAsImV4cCI6"
  ++ "MTcwMDYwODIwMCwic3ViIjoiYWxpY2UiLCJyb2xlcyI6W10sInBlcm1pc3Npb25zIjpbXSwidHlwZSI6ImFjY2Vz"
  ++ "cyJ9."
  ++ "ed2xqa9JqE4jIg9-Tvj9yg_-eiLkf1dE64lc6vyhm2o"

def laterRefreshToken : String :=
  "eyJhbGciOiJIUzI1NiIsInR5cCI6IkpXVCJ9."
  ++ "eyJpc3MiOiJxdWV1ZWZvcmdlIiwiYXVkIjoicXVldWVmb3JnZS1hcGkiLCJpYXQiOjE3MDA2MDQ2MDAsImV4cCI6"
  ++ "MTcwMTIwOTQwMCwic3ViIjoiYWxpY2UiLCJyb2xlcyI6W10sInBlcm1pc3Npb25zIjpbXSwidHlwZSI6InJlZnJl"
  ++ "c2gifQ."
  ++ "5nPukQdY1Y7ES0kyTL6rWLo2X0McmjS7F_zwj60qK7c"

/-- The claims the strategy signs for a payload of its subject, roles and type. -/
def aliceClaims (issued lifetime : Int) (roles : List String) (type : String) : Members := [
  ("iss", some (.string "queueforge")),
  ("aud", some (.string "queueforge-api")),
  ("iat", some (.number (.ofInt issued))),
  ("exp", some (.number (.ofInt (issued + lifetime)))),
  ("sub", some (.string "alice")),
  ("roles", some (.texts roles)),
  ("permissions", some (.texts [])),
  ("type", some (.string type))
]

def loginTokens : TokenTable where
  entries :=
    [
      (aliceClaims 1700000000 604800 [] "refresh", aliceRefreshToken),
      (aliceClaims 1700000000 3600 ["ADMIN"] "access", aliceAccessToken),
      (aliceClaims 1700604600 3600 [] "access", laterAccessToken),
      (aliceClaims 1700604600 604800 [] "refresh", laterRefreshToken)
    ].map (fun entry => ((entry.1, "queueforge-secret-key-min-32-chars-long!"), entry.2))
  distinct := by decide +kernel
  dotted := by
    simp only [List.map_cons, List.map_nil, List.forall_mem_cons]
    refine ⟨?_, ?_, ?_, ?_, fun _ unlisted => nomatch unlisted⟩
    all_goals
      iterate 4 refine dotted_append ?_ _
      exact header_dotted

/-- SHA-256 of these tokens. -/
def loginHashes (token : String) : String :=
  ([
    (aliceRefreshToken, "aaebf67b79ca64fc9de5ce959aaf1955bc3577432bdd8b47bcc36ad69192143f"),
    (aliceAccessToken, "b30ee3ccd248aa44fdf489306f59a5aea4c9d117e52160a554e8c57c411f17fb"),
    (laterAccessToken, "57e61234d27d90864ece0811746e09e6968f1da412273fe36e0878eb485e66b3"),
    (laterRefreshToken, "a813a034bedbb3440af2ac573ed78c527dbc83b877f117d7ed0894bdda3a2361")
  ].lookup token).getD ""

end QueueForge.Security
