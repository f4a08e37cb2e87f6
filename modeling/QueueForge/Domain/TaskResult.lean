import QueueForge.Js.Errors
import QueueForge.Js.Json

/-! The task result entity and the value objects it is identified by.
Each value object carries what its constructor checks.
-/

namespace QueueForge.Domain

open QueueForge.Js

/-- The characters before the `@` of an email address. -/
def isMailboxChar (char : Char) : Bool :=
  isAlphanumeric char || ".!#$%&'*+/=?^_`\x7b|\x7d~-".toList.contains char

/-- A label of a host name: at most 63 letters, digits and hyphens, with a letter or digit
at either end.
-/
def isHostLabel (chars : List Char) : Bool :=
  decide (chars.length ≤ 63)
  && chars.head?.any isAlphanumeric
  && chars.getLast?.any isAlphanumeric
  && chars.all (fun char => isAlphanumeric char || char == '-')

/-- The pattern of `EmailId`. No `@` belongs to either side. -/
def isEmailAddress (text : String) : Bool :=
  match text.toList.splitOn '@' with
  | [mailbox, host] => isRunOf isMailboxChar mailbox && (host.splitOn '.').all isHostLabel
  | _ => false

/-- An email address identifier. -/
structure EmailId where
  value : String
  wellFormed : isEmailAddress value = true
deriving DecidableEq

def EmailId.create (value : String) : Except Thrown EmailId :=
  if value = "" then
    .error (.error (validationError "Email address must be a non-empty string."))
  else if wellFormed : isEmailAddress (trim value) = true then
    .ok ⟨trim value, wellFormed⟩
  else
    .error
      (.error
        (validationError
          s!"Invalid email address format: \"{value}\". Must conform to RFC 5321."))

/-- Compares equality with another EmailId value object. -/
def EmailId.equals (email other : EmailId) : Bool :=
  toLowerCase email.value = toLowerCase other.value

/-- `[a-zA-Z0-9\-_.]`. -/
def isAgentChar (char : Char) : Bool :=
  isAlphanumeric char || "-_.".toList.contains char

/-- An AI agent identifier. -/
structure AgentId where
  value : String
  withinLength : 1 ≤ lengthOf value ∧ lengthOf value ≤ 255
  wellFormed : isRunOf isAgentChar value.toList = true
deriving DecidableEq

def AgentId.create (value : String) : Except Thrown AgentId :=
  if value = "" then
    .error (.error (validationError "Agent ID must be a non-empty string."))
  else if withinLength : 1 ≤ lengthOf (trim value) ∧ lengthOf (trim value) ≤ 255 then
    if wellFormed : isRunOf isAgentChar (trim value).toList = true then
      .ok ⟨trim value, withinLength, wellFormed⟩
    else
      .error
        (.error
          (validationError
            (s!"Invalid Agent ID format: \"{value}\". "
              ++ "Must contain only alphanumeric characters and hyphens.")))
  else
    .error
      (.error
        (validationError
          ("Agent ID length must be between 1 and 255 characters. "
            ++ s!"Received {lengthOf (trim value)}.")))

/-- Compares equality with another AgentId value object. -/
def AgentId.equals (agent other : AgentId) : Bool :=
  agent.value = other.value

/-- A confidence score between zero and one. -/
structure ConfidenceScore where
  value : Number
  isNumber : value ≠ .nan
  withinUnit : value.lt 0 = false ∧ Number.lt 1 value = false
deriving DecidableEq

def ConfidenceScore.create (numberText : Number → String) (value : Number)
    : Except Thrown ConfidenceScore :=
  if isNumber : value ≠ .nan then
    if withinUnit : value.lt 0 = false ∧ Number.lt 1 value = false then
      .ok ⟨value, isNumber, withinUnit⟩
    else
      .error
        (.error
          (validationError
            s!"Invalid confidence score: {numberText value}. Must be between 0.0 and 1.0."))
  else
    .error
      (.error
        (validationError
          s!"Invalid confidence score: {numberText value}. Must be a valid number."))

/-- An identifier as the generator draws it, which is never empty. -/
structure Uuid where
  text : String
  nonempty : text ≠ ""

/-- An ingested task result. -/
structure AiTaskResult where
  id : Uuid
  emailId : EmailId
  agentId : AgentId
  agentVersion : String
  confidenceScore : ConfidenceScore
  resultPayload : List (String × Json)
  metadata : Json
  createdAt : Int
  updatedAt : Int

/-- The properties a task result is created from. -/
structure AiTaskResultProps where
  emailId : String
  agentId : String
  agentVersion : String
  confidenceScore : Number
  resultPayload : List (String × Json)
  metadata : Option Json

/-- `AiTaskResult.create(props)`, with the identifier and the times the constructor draws. -/
def AiTaskResult.create (numberText : Number → String) (id : Uuid)
    (createdAt updatedAt : Int) (props : AiTaskResultProps)
    : Except Thrown AiTaskResult := do
  let emailId ← EmailId.create props.emailId
  let agentId ← AgentId.create props.agentId
  let confidenceScore ← ConfidenceScore.create numberText props.confidenceScore
  return {
    id := id
    emailId := emailId
    agentId := agentId
    agentVersion := if props.agentVersion = "" then "1.0.0" else props.agentVersion
    confidenceScore := confidenceScore
    resultPayload := props.resultPayload
    metadata := (props.metadata.filter Json.truthy).getD (.object [])
    createdAt := createdAt
    updatedAt := updatedAt
  }

/-! A constructor keeps the text it is given, trimmed, or the number as it is. -/

theorem EmailId.value_of_create {value : String} {email : EmailId}
    (created : create value = .ok email)
    : email.value = trim value := by
  unfold create at created
  split at created
  · exact nomatch created
  · split at created
    · exact (congrArg EmailId.value (Except.ok.inj created)).symm
    · exact nomatch created

theorem AgentId.value_of_create {value : String} {agent : AgentId}
    (created : create value = .ok agent)
    : agent.value = trim value := by
  unfold create at created
  split at created
  · exact nomatch created
  · split at created
    · split at created
      · exact (congrArg AgentId.value (Except.ok.inj created)).symm
      · exact nomatch created
    · exact nomatch created

theorem ConfidenceScore.value_of_create {numberText : Number → String} {value : Number}
    {score : ConfidenceScore} (created : create numberText value = .ok score)
    : score.value = value := by
  unfold create at created
  split at created
  · split at created
    · exact (congrArg ConfidenceScore.value (Except.ok.inj created)).symm
    · exact nomatch created
  · exact nomatch created

/-! No value object is trimmed again. -/

theorem EmailId.visible (email : EmailId) {char : Char} (mem : char ∈ email.value.toList)
    : isWhiteSpace char = false := by
  by_cases separator : char = '@'
  · subst separator
    decide
  obtain ⟨part, found, inside⟩ := exists_part_of_mem '@' separator mem
  have wellFormed := email.wellFormed
  unfold isEmailAddress at wellFormed
  split at wellFormed
  case h_2 => cases wellFormed
  case h_1 mailbox host parts =>
    rw [parts] at found
    rw [Bool.and_eq_true] at wellFormed
    rcases List.mem_cons.mp found with rfl | later
    · have chars := (Bool.and_eq_true _ _ |>.mp wellFormed.1).2
      have inClass := List.all_eq_true.mp chars char inside
      rw [isMailboxChar, Bool.or_eq_true] at inClass
      rcases inClass with alphanumeric | listed
      · exact visible_of_isAlphanumeric alphanumeric
      · exact visible_of_all (by decide +kernel) (List.contains_iff_mem.mp listed)
    · obtain rfl := List.mem_singleton.mp later
      by_cases dot : char = '.'
      · subst dot
        decide
      obtain ⟨label, labelled, within⟩ := exists_part_of_mem '.' dot inside
      have isLabel := List.all_eq_true.mp wellFormed.2 label labelled
      have chars := (Bool.and_eq_true _ _ |>.mp isLabel).2
      have inClass := List.all_eq_true.mp chars char within
      rw [Bool.or_eq_true] at inClass
      rcases inClass with alphanumeric | hyphen
      · exact visible_of_isAlphanumeric alphanumeric
      · rw [eq_of_beq hyphen]
        decide

theorem AgentId.visible (agent : AgentId) {char : Char} (mem : char ∈ agent.value.toList)
    : isWhiteSpace char = false := by
  have chars := (Bool.and_eq_true _ _ |>.mp agent.wellFormed).2
  have inClass := List.all_eq_true.mp chars char mem
  rw [isAgentChar, Bool.or_eq_true] at inClass
  rcases inClass with alphanumeric | listed
  · exact visible_of_isAlphanumeric alphanumeric
  · exact visible_of_all (by decide +kernel) (List.contains_iff_mem.mp listed)

/-- A value object is made of its own text again. -/
theorem EmailId.create_value (email : EmailId) : EmailId.create email.value = .ok email := by
  have nonempty : email.value ≠ "" := by
    intro empty
    have wellFormed := email.wellFormed
    rw [empty] at wellFormed
    exact absurd wellFormed (by decide +kernel)
  have trimmed : trim email.value = email.value := trim_of_visible (fun _ => email.visible)
  rw [EmailId.create, if_neg nonempty, dif_pos (by rw [trimmed]; exact email.wellFormed)]
  cases email
  simp only [Except.ok.injEq, EmailId.mk.injEq]
  exact trimmed

theorem AgentId.create_value (agent : AgentId) : AgentId.create agent.value = .ok agent := by
  have nonempty : agent.value ≠ "" := by
    intro empty
    have wellFormed := agent.wellFormed
    rw [empty] at wellFormed
    exact absurd wellFormed (by decide)
  have trimmed : trim agent.value = agent.value := trim_of_visible (fun _ => agent.visible)
  rw [AgentId.create, if_neg nonempty, dif_pos (by rw [trimmed]; exact agent.withinLength),
    dif_pos (by rw [trimmed]; exact agent.wellFormed)]
  cases agent
  simp only [Except.ok.injEq, AgentId.mk.injEq]
  exact trimmed

theorem ConfidenceScore.create_value (numberText : Number → String) (score : ConfidenceScore)
    : ConfidenceScore.create numberText score.value = .ok score := by
  rw [ConfidenceScore.create, dif_pos score.isNumber, dif_pos score.withinUnit]

end QueueForge.Domain
