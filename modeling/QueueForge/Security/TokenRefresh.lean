import QueueForge.Security.ReferenceTokens

/-! Which strings `refreshToken` signs anew.
It decodes a string and signs what it finds, so that the string need not have been signed.
-/

namespace QueueForge.Security

open QueueForge.Async QueueForge.Js

namespace JWTStrategy

/-- The string carries a valid signature under the secret, and the issuer and the audience;
whether it has expired does not matter.
-/
def Authentic (strategy : JWTStrategy) (now : Int) (token : String) : Prop :=
  ∃ payload,
    strategy.jwt.verify token strategy.secret
      { strategy.verifyOptions with ignoreExpiration := true, ignoreNotBefore := true }
      (now / 1000)
    = .ok payload

/-- A string some payload can be read from, whose `nbf` is no obstacle to signing it. -/
def Readable (strategy : JWTStrategy) (token : String) : Prop :=
  ∃ payload,
    strategy.jwt.decode token = .ok (some payload) ∧ payload.members.numericAt "nbf" = true

/-- The claims `refreshToken` signs have fresh dates, so that only `nbf` is the payload's. -/
theorem datesNumeric_fullPayload (strategy : JWTStrategy) (now : Int) (payload : JWTPayload)
    (expiryMs : Option Int)
    : (strategy.fullPayload now ((payload.delete "iat").delete "exp") expiryMs).datesNumeric
      = payload.members.numericAt "nbf" := by
  simp [fullPayload, Members.datesNumeric, Members.numericAt, Members.lookup_spread,
    JWTPayload.delete, Members.lookup_delete, List.lookup_cons]

/-- A string gets signed anew exactly if it is readable. -/
theorem refreshToken_resolves_iff {strategy : JWTStrategy} (documented : strategy.jwt.Documented)
    (now : Int) (token : String)
    : (∃ refreshed, strategy.refreshToken now token = .ok refreshed) ↔ strategy.Readable token := by
  unfold refreshToken Readable decodeToken
  rcases strategy.jwt.decode token with message | _ | payload
  · simp [bind, Except.bind]
  · simp [bind, Except.bind]
  · have signed :=
      documented.signs_iff
        (strategy.fullPayload now ((payload.delete "iat").delete "exp") none)
        strategy.secret strategy.secret_given
    rw [datesNumeric_fullPayload] at signed
    simp only [bind, Except.bind, generateToken, Except.ok.injEq, Option.some.injEq,
      exists_eq_left', ← signed]
    cases strategy.jwt.sign
      (strategy.fullPayload now ((payload.delete "iat").delete "exp") none) strategy.secret <;>
      simp

/-- What is signed anew was authentic if and only if the string is authentic or unreadable. -/
theorem refreshToken_trusts_iff {strategy : JWTStrategy} (documented : strategy.jwt.Documented)
    (now : Int) (token : String)
    : ((∃ refreshed, strategy.refreshToken now token = .ok refreshed)
        → strategy.Authentic now token)
      ↔ strategy.Authentic now token ∨ ¬strategy.Readable token := by
  rw [refreshToken_resolves_iff documented]
  by_cases readable : strategy.Readable token <;> simp [readable]

end JWTStrategy

/-! A token somebody else has signed. -/

def forgedToken : String :=
  "eyJhbGciOiJIUzI1NiIsInR5cCI6IkpXVCJ9."
  ++ "eyJzdWIiOiJtYWxsb3J5Iiwicm9sZXMiOlsiQURNSU4iXSwiaWF0IjoxNzAwMDAwMDAwfQ."
  ++ "TZqeQHl-v9XuPZwy97CS_s8uCGTvzATflS_OoqgGH8U"

def reissuedToken : String :=
  "eyJhbGciOiJIUzI1NiIsInR5cCI6IkpXVCJ9."
  ++ "eyJpc3MiOiJxdWV1ZWZvcmdlIiwiYXVkIjoicXVldWVmb3JnZS1hcGkiLCJpYXQiOjE3MDAwMDAwMDAsImV4cCI6MTcw"
  ++ "MDAwMzYwMCwic3ViIjoibWFsbG9yeSIsInJvbGVzIjpbIkFETUlOIl0sInBlcm1pc3Npb25zIjpbXX0."
  ++ "LB9m0-ZdLPSxBrO6W_iDRJ-e1kidSr2gFABC-bHvNIo"

/-- Claims signed under another secret, and the same claims as this process would sign them. -/
def forgeries : TokenTable where
  entries := [
    (([
      ("sub", some (.string "mallory")),
      ("roles", some (.texts ["ADMIN"])),
      ("iat", some (.number (.ofInt 1700000000)))
    ], "attacker"), forgedToken),
    (([
      ("iss", some (.string "queueforge")),
      ("aud", some (.string "queueforge-api")),
      ("iat", some (.number (.ofInt 1700000000))),
      ("exp", some (.number (.ofInt 1700003600))),
      ("sub", some (.string "mallory")),
      ("roles", some (.texts ["ADMIN"])),
      ("permissions", some (.texts []))
    ], "queueforge-secret-key-min-32-chars-long!"), reissuedToken)
  ]
  distinct := by decide
  dotted := by
    simp only [List.forall_mem_cons]
    refine ⟨?_, ?_, fun _ unlisted => nomatch unlisted⟩
    · exact dotted_append (dotted_append header_dotted _) _
    · exact dotted_append (dotted_append (dotted_append header_dotted _) _) _

/-- The law of the signed strings, at a forged one. -/
theorem refreshToken_trusts_forgery_iff
    : ((∃ refreshed,
          (defaultStrategy forgeries).refreshToken 1700000000000 forgedToken = .ok refreshed)
        → (defaultStrategy forgeries).Authentic 1700000000000 forgedToken)
      ↔ (defaultStrategy forgeries).Authentic 1700000000000 forgedToken
        ∨ ¬(defaultStrategy forgeries).Readable forgedToken :=
  JWTStrategy.refreshToken_trusts_iff forgeries.jwt_documented 1700000000000 forgedToken

/-- A token nobody with the secret has signed is signed anew, with the claims it makes. -/
theorem refreshToken_signs_forgery
    : ¬((∃ refreshed,
          (defaultStrategy forgeries).refreshToken 1700000000000 forgedToken = .ok refreshed)
        → (defaultStrategy forgeries).Authentic 1700000000000 forgedToken) := by
  have signed :
      (defaultStrategy forgeries).refreshToken 1700000000000 forgedToken = .ok reissuedToken := by
    decide +kernel
  have refused : ∀ options clockTimestamp,
      (defaultStrategy forgeries).jwt.verify forgedToken (defaultStrategy forgeries).secret options
        clockTimestamp
      = .error ⟨"JsonWebTokenError", "invalid signature"⟩ := by
    have foreign : (forgeries.parsed forgedToken).map Prod.snd = some "attacker" := by
      decide +kernel
    obtain ⟨signed, parsed, secret⟩ := Option.map_eq_some_iff.mp foreign
    intro options clockTimestamp
    simp [defaultStrategy, TokenTable.jwt, parsed, secret]
  intro trusted
  obtain ⟨payload, verified⟩ := trusted ⟨reissuedToken, signed⟩
  cases (refused _ _).symm.trans verified

end QueueForge.Security
