import QueueForge.Async.Program
import QueueForge.Domain.TaskResult

/-! Validation of ingestion requests.
The service hands the checked body on with the types its interface declares.
-/

namespace QueueForge.Application

open QueueForge.Async QueueForge.Js QueueForge.Domain

/-- The body of an ingestion request; `none` stands for a member that is absent. -/
structure RequestBody where
  emailId : Option String
  agentId : Option String
  agentVersion : Option String
  resultPayload : Option Json
  confidenceScore : Option Number
  llmMetadata : Option Json

/-- A request whose members are present and of their types. -/
structure IngestResultRequest where
  emailId : String
  agentId : String
  agentVersion : String
  resultPayload : List (String × Json)
  confidenceScore : Number
  llmMetadata : Option Json

namespace ValidateResultService

def fieldRequired (field : String) : Thrown :=
  .error (validationErrorOn field s!"Field \"{field}\" is required.")

/-- A member that is neither absent nor, as the condition says, falsy. -/
def required {α : Type} (field : String) (truthy : α → Bool) (value : Option α)
    : Except Thrown α :=
  match value.filter truthy with
  | some value => .ok value
  | none => .error (fieldRequired field)

/-- `try { ... } catch (err) { throw new ValidationError(field, label + err.message) }`. -/
def rejectedAs {α : Type} (field label : String) (result : Except Thrown α)
    : Except Thrown α :=
  result.mapError
    (fun error =>
      let message := error.message.getD "undefined"
      .error (validationErrorOn field s!"{label}: {message}"))

/-- `/^\d+\.\d+\.\d+(-[a-zA-Z0-9.]+)?$/`. The numbers hold no hyphen, so the first one starts
the suffix.
-/
def isSemanticVersion (text : String) : Bool :=
  let parts := text.toList.span (fun char => char != '-')
  let numbers := parts.1.splitOn '.'
  decide (numbers.length = 3)
  && numbers.all (isRunOf isDigit)
  && match parts.2 with
    | [] => true
    | _ :: suffix => isRunOf (fun char => isAlphanumeric char || char == '.') suffix

/-- Ten megabytes. -/
def maxByteSize : Nat := 10 * 1024 * 1024

/-- `(byteSize / 1024 / 1024).toFixed(2)`, rounded to the nearest, halves up. -/
def megabytes (byteSize : Nat) : String :=
  let hundredths := (byteSize * 200 + 1024 * 1024) / (2 * 1024 * 1024)
  let whole := hundredths / 100
  let tenths := hundredths / 10 % 10
  let rest := hundredths % 10
  s!"{whole}.{tenths}{rest}"

/-- Asserts validity of resultPayload structure and size constraints (< 10MB). -/
def validatePayload (numberText : Number → String)
    : Json → Except Thrown (List (String × Json))
  | .object members =>
      let byteSize := ((Json.object members).stringify numberText).utf8ByteSize
      let size := megabytes byteSize
      if maxByteSize < byteSize then
        .error
          (.error
            (validationErrorOn "resultPayload"
              s!"Result payload size ({size}MB) exceeds 10MB limit."))
      else
        .ok members
  | _ =>
      .error
        (.error
          (validationErrorOn "resultPayload" "Result payload must be a valid JSON object."))

/-- A member that is absent or passes the check. -/
def optional (metadata : Json) (member message : String) (check : Json → Bool)
    : Except Thrown Unit :=
  if (metadata.member? member).all check then
    .ok ()
  else
    .error (.error (validationErrorOn s!"llmMetadata.{member}" message))

def isNonEmptyText : Json → Bool
  | .string value => decide (trim value ≠ "")
  | _ => false

/-- `/^[a-fA-F0-9]{64}$/`, tested on the text of any value. -/
def isSha256 (numberText : Number → String) (value : Json) : Bool :=
  let chars := (value.text numberText).toList
  decide (chars.length = 64) && chars.all isHexDigit

/-- A number that is not below zero; `NaN` is not. -/
def isNonNegative : Json → Bool
  | .number value => !value.lt 0
  | _ => false

/-- Asserts validity of LLM provider metadata telemetry properties. -/
def validateLLMMetadata (numberText : Number → String) (metadata : Json)
    : Except Thrown Unit := do
  match metadata with
  | .object _ | .array _ => pure ()
  | _ => throw (.error (validationErrorOn "llmMetadata" "LLM metadata must be an object."))
  optional metadata "model" "LLM model must be a non-empty string." isNonEmptyText
  optional metadata "promptHash" "LLM prompt hash must be a valid SHA-256 string."
    (isSha256 numberText)
  optional metadata "tokenInput" "LLM tokenInput must be a non-negative integer."
    isNonNegative
  optional metadata "tokenOutput" "LLM tokenOutput must be a non-negative integer."
    isNonNegative
  optional metadata "latency" "LLM latency must be a non-negative number." isNonNegative

/-- A version that is present and a semantic version. -/
def validateVersion (agentVersion : Option String) : Except Thrown String :=
  match agentVersion.filter isSemanticVersion with
  | some version => .ok version
  | none =>
      .error
        (.error
          (validationErrorOn "agentVersion"
            "Agent version must be a valid semantic version string."))

/-- LLM metadata is validated if it is there. -/
def validateOptionalMetadata (numberText : Number → String) (llmMetadata : Option Json)
    : Except Thrown Unit :=
  match llmMetadata.filter Json.truthy with
  | some metadata => validateLLMMetadata numberText metadata
  | none => .ok ()

/-- The checks of a request whose members are there. -/
def validateMembers (numberText : Number → String) (emailId agentId : String)
    (agentVersion : Option String) (confidenceScore : Number) (resultPayload : Json)
    (llmMetadata : Option Json)
    : Except Thrown IngestResultRequest := do
  let _ ← rejectedAs "emailId" "Invalid email format" (EmailId.create emailId)
  let _ ← rejectedAs "agentId" "Invalid agent ID format" (AgentId.create agentId)
  let version ← validateVersion agentVersion
  let _ ←
    rejectedAs "confidenceScore" "Invalid confidence score"
      (ConfidenceScore.create numberText confidenceScore)
  let members ← validatePayload numberText resultPayload
  validateOptionalMetadata numberText llmMetadata
  return {
    emailId := emailId
    agentId := agentId
    agentVersion := version
    resultPayload := members
    confidenceScore := confidenceScore
    llmMetadata := llmMetadata
  }

/-- Asserts request formatting complies with rules, returning the validated request. -/
def validateRequest (numberText : Number → String)
    : Option RequestBody → Except Thrown IngestResultRequest
  | none => .error (.error (validationError "Request body is required."))
  | some body => do
      let emailId ← required "emailId" (fun text => text ≠ "") body.emailId
      let agentId ← required "agentId" (fun text => text ≠ "") body.agentId
      let confidenceScore ← required "confidenceScore" (fun _ => true) body.confidenceScore
      let resultPayload ← required "resultPayload" Json.truthy body.resultPayload
      validateMembers numberText emailId agentId body.agentVersion confidenceScore
        resultPayload body.llmMetadata

section
variable {numberText : Number → String}

theorem required_eq_ok {α : Type} {field : String} {truthy : α → Bool} {value : Option α}
    {present : α} (accepted : required field truthy value = .ok present)
    : value = some present := by
  unfold required at accepted
  split at accepted
  case h_1 kept =>
    cases accepted
    exact (Option.filter_eq_some_iff.mp kept).1
  case h_2 => contradiction

theorem validateVersion_eq_ok {agentVersion : Option String} {version : String}
    (accepted : validateVersion agentVersion = .ok version)
    : agentVersion = some version := by
  unfold validateVersion at accepted
  split at accepted
  case h_1 kept =>
    cases accepted
    exact (Option.filter_eq_some_iff.mp kept).1
  case h_2 => contradiction

theorem rejectedAs_eq_ok {α : Type} {field label : String} {result : Except Thrown α}
    {value : α}
    : rejectedAs field label result = .ok value ↔ result = .ok value := by
  cases result <;> simp [rejectedAs, Except.mapError]

theorem validatePayload_eq_ok {payload : Json} {members : List (String × Json)}
    (accepted : validatePayload numberText payload = .ok members)
    : payload = .object members := by
  cases payload with
  | object given =>
      simp only [validatePayload] at accepted
      split at accepted
      · contradiction
      · rw [Except.ok.inj accepted]
  | _ => contradiction

end

/-- What is known of a request that passed validation. -/
structure Validated (numberText : Number → String) (body : RequestBody)
    (request : IngestResultRequest)
    : Prop where
  emailId : body.emailId = some request.emailId
  agentId : body.agentId = some request.agentId
  agentVersion : body.agentVersion = some request.agentVersion
  resultPayload : body.resultPayload = some (.object request.resultPayload)
  confidenceScore : body.confidenceScore = some request.confidenceScore
  llmMetadata : body.llmMetadata = request.llmMetadata
  emailIdValid : ∃ email, EmailId.create request.emailId = .ok email
  agentIdValid : ∃ agent, AgentId.create request.agentId = .ok agent
  confidenceScoreValid
    : ∃ score, ConfidenceScore.create numberText request.confidenceScore = .ok score

/-- Validation hands the members of the body on as they are, checked. -/
theorem validated {numberText : Number → String} {body : RequestBody}
    {request : IngestResultRequest}
    (accepted : validateRequest numberText (some body) = .ok request)
    : Validated numberText body request := by
  -- The members first, in the order they are looked for, then the checks of each.
  obtain ⟨emailId, hasEmailId, accepted⟩ := Settled.bind_eq_ok.mp accepted
  obtain ⟨agentId, hasAgentId, accepted⟩ := Settled.bind_eq_ok.mp accepted
  obtain ⟨score, hasScore, accepted⟩ := Settled.bind_eq_ok.mp accepted
  obtain ⟨payload, hasPayload, accepted⟩ := Settled.bind_eq_ok.mp accepted
  obtain ⟨email, emailValid, accepted⟩ := Settled.bind_eq_ok.mp accepted
  obtain ⟨agent, agentValid, accepted⟩ := Settled.bind_eq_ok.mp accepted
  obtain ⟨version, versionValid, accepted⟩ := Settled.bind_eq_ok.mp accepted
  obtain ⟨checked, scoreValid, accepted⟩ := Settled.bind_eq_ok.mp accepted
  obtain ⟨members, payloadValid, accepted⟩ := Settled.bind_eq_ok.mp accepted
  obtain ⟨_, _, accepted⟩ := Settled.bind_eq_ok.mp accepted
  cases accepted
  exact {
    emailId := required_eq_ok hasEmailId
    agentId := required_eq_ok hasAgentId
    agentVersion := validateVersion_eq_ok versionValid
    resultPayload :=
      (required_eq_ok hasPayload).trans (congrArg some (validatePayload_eq_ok payloadValid))
    confidenceScore := required_eq_ok hasScore
    llmMetadata := rfl
    emailIdValid := ⟨email, rejectedAs_eq_ok.mp emailValid⟩
    agentIdValid := ⟨agent, rejectedAs_eq_ok.mp agentValid⟩
    confidenceScoreValid := ⟨checked, rejectedAs_eq_ok.mp scoreValid⟩
  }

end ValidateResultService

end QueueForge.Application
