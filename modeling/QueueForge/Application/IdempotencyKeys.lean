import QueueForge.Application.IngestWiring

/-! The keys of the idempotency cache beside the values they are made of.
A key holds the identifiers as the request spells them, while the value objects trim them and
compare addresses without regard to case.
-/

namespace QueueForge.Application

open QueueForge.Js QueueForge.Domain

/-- An address has no colon. -/
theorem EmailId.no_colon (email : EmailId) : ':' ∉ email.value.toList := by
  intro listed
  have wellFormed := email.wellFormed
  obtain ⟨part, found, inside⟩ := exists_part_of_mem '@' (by decide) listed
  unfold isEmailAddress at wellFormed
  split at wellFormed
  case h_2 => cases wellFormed
  case h_1 mailbox host parts =>
    rw [parts] at found
    rw [Bool.and_eq_true] at wellFormed
    rcases List.mem_cons.mp found with rfl | later
    · have chars := (Bool.and_eq_true _ _ |>.mp wellFormed.1).2
      exact absurd (List.all_eq_true.mp chars ':' inside) (by decide)
    · obtain rfl := List.mem_singleton.mp later
      obtain ⟨label, labelled, within⟩ := exists_part_of_mem '.' (by decide) inside
      have isLabel := List.all_eq_true.mp wellFormed.2 label labelled
      have chars := (Bool.and_eq_true _ _ |>.mp isLabel).2
      exact absurd (List.all_eq_true.mp chars ':' within) (by decide)

theorem AgentId.no_colon (agent : AgentId) : ':' ∉ agent.value.toList := by
  intro listed
  have chars := (Bool.and_eq_true _ _ |>.mp agent.wellFormed).2
  exact absurd (List.all_eq_true.mp chars ':' listed) (by decide)

/-- The identifiers of two requests are equal as values. -/
def SameValues (request other : IngestResultRequest) : Prop :=
  ∃ email otherEmail agent otherAgent,
    EmailId.create request.emailId = .ok email
    ∧ EmailId.create other.emailId = .ok otherEmail
    ∧ email.equals otherEmail = true
    ∧ AgentId.create request.agentId = .ok agent
    ∧ AgentId.create other.agentId = .ok otherAgent
    ∧ agent.equals otherAgent = true
    ∧ request.agentVersion = other.agentVersion

section
variable {numberText : Number → String} {body otherBody : RequestBody}
  {request other : IngestResultRequest}

/-- A validated request spells its identifiers without a colon. -/
theorem no_colon_of_valid (valid : ValidateResultService.Validated numberText body request)
    : ':' ∉ request.emailId.toList ∧ ':' ∉ request.agentId.toList := by
  obtain ⟨email, hasEmail⟩ := valid.emailIdValid
  obtain ⟨agent, hasAgent⟩ := valid.agentIdValid
  constructor
  · intro listed
    refine EmailId.no_colon email ?_
    rw [EmailId.value_of_create hasEmail]
    exact mem_trim listed (by decide)
  · intro listed
    refine AgentId.no_colon agent ?_
    rw [AgentId.value_of_create hasAgent]
    exact mem_trim listed (by decide)

/-- The key is the spelling of the identifiers. -/
theorem idempotencyKey_inj (valid : ValidateResultService.Validated numberText body request)
    (validOther : ValidateResultService.Validated numberText otherBody other)
    : IngestResultService.idempotencyKey request = IngestResultService.idempotencyKey other
      ↔ request.emailId = other.emailId
        ∧ request.agentId = other.agentId
        ∧ request.agentVersion = other.agentVersion := by
  have joined (request : IngestResultRequest)
      : IngestResultService.idempotencyKey request
        = "idem:result:"
          ++ (request.emailId
            ++ (String.singleton ':'
              ++ (request.agentId ++ (String.singleton ':' ++ request.agentVersion)))) := by
    have spelled
        : IngestResultService.idempotencyKey request
          = "idem:result:" ++ request.emailId ++ ":" ++ request.agentId ++ ":"
            ++ request.agentVersion :=
      rfl
    have colon : String.singleton ':' = ":" := rfl
    rw [spelled, colon]
    simp only [String.append_assoc]
  have emailIds := (no_colon_of_valid valid).1
  have otherEmailIds := (no_colon_of_valid validOther).1
  have agentIds := (no_colon_of_valid valid).2
  have otherAgentIds := (no_colon_of_valid validOther).2
  rw [joined request, joined other, String.append_right_inj, joined_inj emailIds otherEmailIds,
    joined_inj agentIds otherAgentIds]

/-- Validated requests that are spelled alike have the same values. -/
theorem sameValues_of_spelling
    (valid : ValidateResultService.Validated numberText body request)
    (spelled
      : request.emailId = other.emailId
        ∧ request.agentId = other.agentId
        ∧ request.agentVersion = other.agentVersion)
    : SameValues request other := by
  obtain ⟨email, hasEmail⟩ := valid.emailIdValid
  obtain ⟨agent, hasAgent⟩ := valid.agentIdValid
  refine ⟨email, email, agent, agent, hasEmail, ?_, ?_, hasAgent, ?_, ?_, spelled.2.2⟩
  · rw [← spelled.1]
    exact hasEmail
  · exact decide_eq_true rfl
  · rw [← spelled.2.1]
    exact hasAgent
  · exact decide_eq_true rfl

/-- The keys of two accepted requests are equal exactly when their identifiers are, unless these
are equal as values and spelled differently.
-/
theorem keys_follow_values_iff
    (accepted : ValidateResultService.validateRequest numberText (some body) = .ok request)
    (acceptedOther
      : ValidateResultService.validateRequest numberText (some otherBody) = .ok other)
    : (IngestResultService.idempotencyKey request = IngestResultService.idempotencyKey other
        ↔ SameValues request other)
      ↔ (SameValues request other
        → request.emailId = other.emailId ∧ request.agentId = other.agentId) := by
  have valid := ValidateResultService.validated accepted
  have validOther := ValidateResultService.validated acceptedOther
  rw [idempotencyKey_inj valid validOther]
  constructor
  · intro follow same
    have spelled := follow.mpr same
    exact ⟨spelled.1, spelled.2.1⟩
  · intro spelled
    constructor
    · exact sameValues_of_spelling valid
    · intro same
      have versions := same.choose_spec.choose_spec.choose_spec.choose_spec.2.2.2.2.2.2
      exact ⟨(spelled same).1, (spelled same).2, versions⟩

end

/-- The sample body with its address and agent spelled as given. -/
def Sample.bodySpelled (emailId agentId : String) : RequestBody := {
  Sample.body "greeting" with
  emailId := some emailId
  agentId := some agentId
}

def Sample.requestSpelled (emailId agentId : String) : IngestResultRequest := {
  Sample.request "greeting" with
  emailId := emailId
  agentId := agentId
}

theorem keys_follow_values_of_two_agents
    : IngestResultService.idempotencyKey (Sample.requestSpelled "user@example.com" "classifier")
        = IngestResultService.idempotencyKey (Sample.requestSpelled "user@example.com" "router")
      ↔ SameValues (Sample.requestSpelled "user@example.com" "classifier")
          (Sample.requestSpelled "user@example.com" "router") := by
  refine
    (@keys_follow_values_iff (fun _ => "1") (Sample.bodySpelled "user@example.com" "classifier")
      (Sample.bodySpelled "user@example.com" "router") _ _ rfl rfl).mpr ?_
  rintro ⟨_, _, agent, otherAgent, -, -, -, hasAgent, hasOther, same, -⟩
  have texts := of_decide_eq_true same
  rw [AgentId.value_of_create hasAgent, AgentId.value_of_create hasOther] at texts
  exact absurd texts (by decide)

/-- The same address in another case makes another key. -/
theorem keys_differ_of_same_values
    : ValidateResultService.validateRequest (fun _ => "1")
          (some (Sample.bodySpelled "user@example.com" "classifier"))
        = .ok (Sample.requestSpelled "user@example.com" "classifier")
      ∧ ValidateResultService.validateRequest (fun _ => "1")
          (some (Sample.bodySpelled "User@example.com" "classifier"))
        = .ok (Sample.requestSpelled "User@example.com" "classifier")
      ∧ SameValues (Sample.requestSpelled "user@example.com" "classifier")
          (Sample.requestSpelled "User@example.com" "classifier")
      ∧ IngestResultService.idempotencyKey (Sample.requestSpelled "user@example.com" "classifier")
        ≠ IngestResultService.idempotencyKey
            (Sample.requestSpelled "User@example.com" "classifier") := by
  refine ⟨rfl, rfl, ?_, by decide⟩
  exact ⟨⟨"user@example.com", by decide⟩, ⟨"User@example.com", by decide⟩,
    ⟨"classifier", by decide, by decide⟩, ⟨"classifier", by decide, by decide⟩, rfl, rfl, by decide,
    rfl, rfl, by decide, rfl⟩

end QueueForge.Application
