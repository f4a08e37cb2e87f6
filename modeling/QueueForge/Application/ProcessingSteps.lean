import QueueForge.Application.ProcessDelivery
import QueueForge.Application.SavedDeliveries

/-! The steps of `ProcessDeliveryService.processDelivery`: what each makes of the delivery, and
what an observer of the calls learns of it.
-/

namespace QueueForge.Application

open QueueForge.Async QueueForge.Js QueueForge.Domain

namespace ProcessDeliveryService

/-! What the steps make of the delivery. -/

section
variable {language : Language} {runtime : Runtime} {outcome : Outcome} {delivery : Delivery}

/-- A note of an attempt keeps the entity, its count and its status. -/
theorem noteAttempt_keeps
    : delivery.SameEntity (noteAttempt language runtime outcome delivery)
      ∧ (noteAttempt language runtime outcome delivery).retryCount = delivery.retryCount
      ∧ (noteAttempt language runtime outcome delivery).status = delivery.status := by
  unfold noteAttempt
  split
  · exact ⟨⟨rfl, rfl, rfl⟩, rfl, rfl⟩
  · exact ⟨⟨rfl, rfl, rfl⟩, rfl, rfl⟩

/-- It adds one entry to the history: the attempt, if it can be made, or the plain object. -/
theorem noteAttempt_attempts
    : ∃ entry,
        (noteAttempt language runtime outcome delivery).attempts = delivery.attempts ++ [entry]
        ∧ (entry = .plain (plainAttempt outcome delivery)
            ∨ ∃ attempt,
                attemptVO language runtime outcome delivery = .ok attempt
                ∧ entry = .valueObject attempt) := by
  unfold noteAttempt
  split
  · rename_i attempt made
    exact ⟨.valueObject attempt, rfl, .inr ⟨attempt, made, rfl⟩⟩
  · exact ⟨.plain (plainAttempt outcome delivery), rfl, .inl rfl⟩

/-- An attempt that can be made has no latency: what is passed for it is a text or missing. -/
theorem attemptVO_latencyMs {attempt : RetryAttempt}
    (made : attemptVO language runtime outcome delivery = .ok attempt)
    : attempt.latencyMs = none := by
  refine RetryAttempt.latencyMs_of_create made ?_
  intro latency
  cases orString outcome.errorMessage none with
  | none => exact nofun
  | some message => exact nofun

/-- A delivery that is not finished comes to be PROCESSING. -/
theorem beginProcessing_returns (runtime : Runtime) (unfinished : delivery.status.isFinal = false)
    : ∃ after,
        beginProcessing runtime delivery = .done after
        ∧ delivery.SameEntity after
        ∧ after.retryCount = delivery.retryCount
        ∧ after.status = .processing := by
  by_cases processing : delivery.status = .processing
  · exact ⟨delivery, if_pos processing, .refl delivery, rfl, processing⟩
  · have startable : delivery.status = .pending ∨ delivery.status = .scheduledRetry := by
      cases status : delivery.status <;> simp_all [DeliveryStatus.isFinal]
    obtain ⟨after, returned, same, count, status⟩ :=
      Delivery.markAsProcessing_spec runtime startable
    exact ⟨after, (if_neg processing).trans (applied_of_returns returned), same, count, status⟩

/-- A finished one makes the service throw. -/
theorem beginProcessing_throws (runtime : Runtime) (finished : delivery.status.isFinal = true)
    : ∃ error, beginProcessing runtime delivery = .fail error := by
  have other : ∀ status, status.isFinal = false → delivery.status ≠ status := by
    rintro status unfinal rfl
    rw [unfinal] at finished
    exact nomatch finished
  have unstartable : ¬(delivery.status = .pending ∨ delivery.status = .scheduledRetry) :=
    not_or.mpr ⟨other _ rfl, other _ rfl⟩
  have thrown := Delivery.markAsProcessing_not_startable runtime unstartable
  exact ⟨_, (if_neg (other _ rfl)).trans (applied_of_throws (congrArg Prod.fst thrown))⟩

/-- The status an outcome gives a delivery that is PROCESSING. -/
def statusAfter (outcome : Outcome) (retryCount : Int) : DeliveryStatus :=
  if outcome.success then .completed
  else if isRetryable outcome.responseStatus && decide (retryCount < 5) then .scheduledRetry
  else .failedDlq

/-- Every outcome takes a PROCESSING delivery to the status it gives. -/
theorem updateState_returns (runtime : Runtime) (outcome : Outcome)
    (processing : delivery.status = .processing)
    : ∃ after,
        updateState runtime outcome delivery = .done after
        ∧ delivery.SameEntity after
        ∧ after.retryCount = delivery.retryCount
        ∧ after.status = statusAfter outcome delivery.retryCount := by
  have eligible : delivery.canRetry = decide (delivery.retryCount < 5) := by
    have limit : (5 : Number) = .ofInt 5 := rfl
    rw [Delivery.canRetry, processing, limit, Number.ofInt_le_ofInt, ← decide_not]
    simp only [DeliveryStatus.isFinal, Bool.not_false, Bool.true_and, Int.not_le]
  unfold updateState statusAfter
  rw [eligible]
  split
  · obtain ⟨after, returned, same, count, status⟩ :=
      Delivery.markAsCompleted_spec runtime none processing
    exact ⟨after, applied_of_returns returned, same, count, status⟩
  · split
    · obtain ⟨after, returned, same, count, status⟩ :=
        @Delivery.scheduleRetry_spec runtime delivery
          (.number
            (Number.mul 1000 (Number.pow2 runtime.fractional (.ofInt delivery.retryCount))))
      exact ⟨after, applied_of_returns returned, same, count, status⟩
    · have text
          : (((orString outcome.errorMessage (some "Delivery failed permanently")).map
                Value.string).getD .undefined).isText
            = true := by
        unfold orString
        split <;> simp_all [Value.isText]
      obtain ⟨after, returned, same, count, _, status⟩ :=
        Delivery.moveToDeadLetterQueue_spec runtime (.inr text)
      exact ⟨after, applied_of_returns returned, same, count, status⟩

end

/-! What an observer learns of the steps. -/

section
variable {Φ α : Type} {admits : (op : ServiceCall) → Settled Thrown op.Result → Prop}
  {enter : Φ → (op : ServiceCall) → Settled Thrown op.Result → Φ} {notes : Φ}
  {config : ServiceConfig} {deliveryId : String} {delivery : Delivery}

/-- Going on after a call, one case for each way it settles. -/
theorem meets_after_observed {op : ServiceCall} {next : op.Result → ServiceProgram α}
    {post : Settled Thrown α → Φ → Prop}
    (rejected
      : ∀ error,
          admits op (.error error) → post (.error error) (enter notes op (.error error)))
    (resolved
      : ∀ value,
          admits op (.ok value)
          → (next value).Meets (.observing admits enter) (enter notes op (.ok value)) post)
    : (Program.bind (awaitCall op) next).Meets (.observing admits enter) notes post := by
  rw [Program.meets_bind]
  exact Program.meets_perform_observing.mpr ⟨rejected, resolved⟩

/-- Going on after a call that resolves. -/
theorem meets_after_resolving {op : ServiceCall} {next : op.Result → ServiceProgram α}
    {post : Settled Thrown α → Φ → Prop}
    (resolves : ∀ result, admits op result → Resolved op result)
    (owed
      : ∀ value,
          admits op (.ok value)
          → (next value).Meets (.observing admits enter) (enter notes op (.ok value)) post)
    : (Program.bind (awaitCall op) next).Meets (.observing admits enter) notes post := by
  refine meets_after_observed ?_ owed
  intro error admitted
  obtain ⟨value, resolved⟩ := resolves _ admitted
  exact nomatch resolved

/-- The destination is given, or the repository finds it. -/
def DestinationKnown (admits : (op : ServiceCall) → Settled Thrown op.Result → Prop)
    (config : ServiceConfig) (delivery : Delivery) (destinationParam : Option DeliveryTarget)
    : Prop :=
  destinationParam = none
  → config.destinationRepository = true
    ∧ ∀ result,
        admits (.findDestination delivery.destinationId) result
        → ∃ target, result = .ok (some target)

/-- Choosing the destination goes unnoticed, and succeeds where it is known. -/
theorem chooseDestination_observed {destinationParam : Option DeliveryTarget}
    (unnoticed : ∀ result, enter notes (.findDestination delivery.destinationId) result = notes)
    : (chooseDestination config delivery destinationParam).Meets (.observing admits enter) notes
        (fun outcome after =>
          after = notes
          ∧ (DestinationKnown admits config delivery destinationParam
            → ∃ target, outcome = .ok target)) := by
  cases destinationParam with
  | some target => exact ⟨rfl, fun _ => ⟨target, rfl⟩⟩
  | none =>
      simp only [chooseDestination, loadDestination, ifPresent]
      by_cases present : config.destinationRepository = true
      · rw [if_pos present]
        refine meets_after_observed ?_ ?_
        · intro error admitted
          refine ⟨unnoticed _, fun known => ?_⟩
          obtain ⟨target, resolved⟩ := (known rfl).2 _ admitted
          exact nomatch resolved
        · intro found admitted
          rw [unnoticed]
          cases found with
          | some target => exact ⟨rfl, fun _ => ⟨target, rfl⟩⟩
          | none =>
              refine ⟨rfl, fun known => ?_⟩
              obtain ⟨target, resolved⟩ := (known rfl).2 _ admitted
              exact nomatch resolved
      · rw [if_neg present]
        exact ⟨rfl, fun known => absurd (known rfl).1 present⟩

/-- Looking up the payload goes unnoticed, and succeeds where the lookup does. -/
theorem taskResultPayload_observed {taskResultId : String}
    (unnoticed : ∀ result, enter notes (.findResult taskResultId) result = notes)
    : (taskResultPayload config taskResultId).Meets (.observing admits enter) notes
        (fun outcome after =>
          after = notes
          ∧ ((∀ result,
                admits (.findResult taskResultId) result
                → Resolved (.findResult taskResultId) result)
            → ∃ payload, outcome = .ok payload)) := by
  simp only [taskResultPayload, ifPresent]
  split
  · refine meets_after_observed ?_ ?_
    · intro error admitted
      refine ⟨unnoticed _, fun resolves => ?_⟩
      obtain ⟨value, resolved⟩ := resolves _ admitted
      exact nomatch resolved
    · intro found _
      exact ⟨unnoticed _, fun _ => ⟨_, rfl⟩⟩
  · exact ⟨rfl, fun _ => ⟨_, rfl⟩⟩

/-- A transmission is noticed once, when the client has settled, and gives the outcome of its
answer.
-/
theorem transmit_observed {destination : DeliveryTarget} {payload : Value}
    {answer : Settled Thrown (Option HttpResponse)} (transmitted : Φ)
    (client : config.httpClient = true)
    (timed : ∀ result, admits .runtime result → Resolved .runtime result)
    (unnoticed : ∀ notes result, enter notes .runtime result = notes)
    (posted
      : ∀ url payload headers timeoutMs result,
          admits (.post url payload headers timeoutMs) result
          → result = answer
            ∧ enter notes (.post url payload headers timeoutMs) result = transmitted)
    : (transmit config deliveryId delivery destination payload).Meets (.observing admits enter)
        notes
        (fun outcome after =>
          after = transmitted
          ∧ ∃ elapsed,
              outcome
              = ProcessDeliveryService.outcome config.language (.ofInt elapsed) answer)
    := by
  simp only [transmit, client, if_true]
  refine meets_after_resolving timed (fun started _ => ?_)
  rw [unnoticed, Program.bind_eq, Program.meets_bind, Program.meets_settle, awaitCall,
    Program.meets_perform]
  refine ⟨trivial, ?_⟩
  rintro result _ ⟨admitted, rfl⟩
  obtain ⟨rfl, entered⟩ := posted _ _ _ _ result admitted
  rw [entered]
  refine meets_after_resolving timed (fun settledAt _ => ?_)
  rw [unnoticed]
  exact meets_settled.mpr ⟨rfl, _, rfl⟩

end

/-- A run is one of `deliver` on the delivery it loads, but for the exception it passes on. -/
theorem run_processDelivery {σ : Type} {config : ServiceConfig}
    {handler : Handler ServiceSignature Thrown σ} {deliveryId : String}
    {destinationParam : Option DeliveryTarget} {delivery : Delivery} {world loaded : σ}
    (loads : (loadDelivery config deliveryId).run handler world = (.ok delivery, loaded))
    : (processDelivery config deliveryId destinationParam).run handler world
      = (((deliver config deliveryId destinationParam delivery).run handler loaded).1.mapError
            rethrown,
          ((deliver config deliveryId destinationParam delivery).run handler loaded).2) := by
  simp only [processDelivery, Program.bind_eq, Program.throw_eq, Program.run_catchError,
    Program.run_bind, loads]
  rcases (deliver config deliveryId destinationParam delivery).run handler loaded with
    ⟨error | value, final⟩
  · rfl
  · rfl

end ProcessDeliveryService

end QueueForge.Application
