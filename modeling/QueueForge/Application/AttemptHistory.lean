import QueueForge.Application.RecordedOutcomes

/-! What `ProcessDeliveryService` adds to the attempt history of a delivery. -/

namespace QueueForge.Application

open QueueForge.Async QueueForge.Js QueueForge.Domain

/-- The history grew by one attempt, which tells of the result: its latency, its status code,
and an error exactly if it failed.
-/
def RecordsOutcome (result : ProcessResult) (before after : Delivery) : Prop :=
  ∃ attempt : RetryAttempt,
    after.attempts = before.attempts ++ [.valueObject attempt]
    ∧ attempt.latencyMs = some result.latencyMs
    ∧ attempt.statusCode = some result.statusCode
    ∧ (attempt.error.isSome = true ↔ result.success = false)

/-- The history grew by one entry: an object that is no attempt, or an attempt without a
latency.
-/
def GrowsWithoutLatency (before after : Delivery) : Prop :=
  ∃ entry,
    after.attempts = before.attempts ++ [entry]
    ∧ ∀ attempt, entry = .valueObject attempt → attempt.latencyMs = none

/-- Such a history tells of no result. -/
theorem GrowsWithoutLatency.not_records {before after : Delivery}
    (grows : GrowsWithoutLatency before after) (result : ProcessResult)
    : ¬RecordsOutcome result before after := by
  obtain ⟨entry, grown, untimed⟩ := grows
  rintro ⟨attempt, recorded, timed, _⟩
  rw [grown] at recorded
  have same : entry = .valueObject attempt :=
    List.singleton_inj.mp (List.append_cancel_left recorded)
  rw [untimed attempt same] at timed
  exact nomatch timed

/-- The entity a store is known to show, whatever the calls settle with: the last one saved,
unless an attempt under a number may have been recorded since.
-/
def lastShown (shown : Option Delivery) (op : ServiceCall) (_ : Settled Thrown op.Result)
    : Option Delivery :=
  match op with
  | .save delivery _ => some delivery
  | .recordAttempt _ (some _) _ => none
  | _ => shown

/-- The contract of an observer who expects every answer. -/
abbrev anyAnswer : Contract ServiceSignature Thrown (Option Delivery) :=
  .observing (fun _ _ => True) lastShown

section
variable {α β : Type} {shown : Option Delivery}

/-- Nothing is asked of the calls, by induction on the program. -/
theorem meets_anyAnswer (program : ServiceProgram α)
    : program.Meets anyAnswer shown (fun _ _ => True) := by
  induction program generalizing shown with
  | done value => trivial
  | fail error => trivial
  | call op rest ih => exact ⟨trivial, fun result after _ => ih result⟩

/-- Going on after a part of a service, whatever it settles with. -/
theorem meets_after_any {program : ServiceProgram β} {next : β → ServiceProgram α}
    {post : Settled Thrown α → Option Delivery → Prop}
    (thrown : ∀ error after, post (.error error) after)
    (owed : ∀ value after, (next value).Meets anyAnswer after post)
    : (program.bind next).Meets anyAnswer shown post := by
  rw [Program.meets_bind]
  refine (meets_anyAnswer program).mono ?_
  intro outcome after _
  cases outcome with
  | error error => exact thrown error after
  | ok value => exact owed value after

/-- Going on with the delivery a method leaves, if it returns. -/
theorem meets_after_applied {mutation : Mutation Unit} {delivery : Delivery}
    {next : Delivery → ServiceProgram α} {post : Settled Thrown α → Option Delivery → Prop}
    (thrown : ∀ error after, post (.error error) after)
    (keeps : Delivery.Keeps mutation delivery)
    (history : (mutation.apply delivery).2.attempts = delivery.attempts)
    (owed
      : ∀ after,
          delivery.SameEntity after
          → after.attempts = delivery.attempts
          → (next after).Meets anyAnswer shown post)
    : ((applied mutation delivery).bind next).Meets anyAnswer shown post := by
  unfold applied
  rcases called : mutation.apply delivery with ⟨error | value, left⟩
  · exact thrown error shown
  · rw [called] at history
    exact owed left (keeps left called) history

end

/-- A service that completes shows a delivery whose history has grown so. -/
def CompletesGrown {α : Type} (before : Delivery) (outcome : Settled Thrown α)
    (shown : Option Delivery)
    : Prop :=
  ∀ result,
    outcome = .ok result
    → ∃ saved,
        shown = some saved ∧ before.SameEntity saved ∧ GrowsWithoutLatency before saved

/-- One that throws owes nothing. -/
theorem CompletesGrown.thrown {α : Type} {before : Delivery} (error : Thrown)
    (shown : Option Delivery)
    : CompletesGrown (α := α) before (.error error) shown :=
  fun _ completed => nomatch completed

namespace ProcessDeliveryService

section
variable {config : ServiceConfig} {deliveryId : String} {before delivery : Delivery}
  {shown : Option Delivery}

/-- A note of an attempt makes the history grow so. -/
theorem noteAttempt_grows (language : Language) (runtime : Runtime) (outcome : Outcome)
    : GrowsWithoutLatency delivery (noteAttempt language runtime outcome delivery) := by
  obtain ⟨entry, grown, noted⟩ :=
    @noteAttempt_attempts language runtime outcome delivery
  refine ⟨entry, grown, ?_⟩
  rintro attempt rfl
  rcases noted with plain | ⟨made, makes, same⟩
  · exact nomatch plain
  · obtain rfl : attempt = made := AttemptEntry.valueObject.inj same
    exact attemptVO_latencyMs makes

/-- Saving the delivery as it is shows it. -/
theorem save_observed {result : ProcessResult} (same : before.SameEntity delivery)
    (grows : GrowsWithoutLatency before delivery)
    : (Program.bind (awaitCall (.save delivery [])) (fun _ => .done result)).Meets anyAnswer
        shown (CompletesGrown before) := by
  refine meets_after_observed ?_ ?_
  · exact fun error _ => .thrown error _
  · intro _ _ _ _
    exact ⟨delivery, rfl, same, grows⟩

/-- What concludes a run makes the history grow. -/
theorem conclude_observed {outcome : Outcome} (same : before.SameEntity delivery)
    (history : delivery.attempts = before.attempts)
    : (conclude config deliveryId delivery outcome).Meets anyAnswer shown
        (CompletesGrown before) := by
  unfold conclude
  refine meets_after_any .thrown (fun _ recorded => ?_)
  refine meets_after_any .thrown (fun runtime _ => ?_)
  obtain ⟨sameNoted, _, _⟩ := @noteAttempt_keeps config.language runtime outcome delivery
  obtain ⟨entry, grown, untimed⟩ :=
    @noteAttempt_grows delivery config.language runtime outcome
  have owed
      : ∀ shown updated,
          (noteAttempt config.language runtime outcome delivery).SameEntity updated
          → updated.attempts = (noteAttempt config.language runtime outcome delivery).attempts
          → (Program.bind (awaitCall (.save updated []))
                (fun _ => .done (result deliveryId outcome updated))).Meets anyAnswer shown
              (CompletesGrown before) := by
    intro shown updated sameUpdated kept
    refine save_observed (same.trans (sameNoted.trans sameUpdated)) ⟨entry, ?_, untimed⟩
    rw [kept, grown, history]
  unfold updateState
  split
  · exact meets_after_applied .thrown (Delivery.markAsCompleted_keeps runtime none)
      (Delivery.markAsCompleted_attempts runtime none) (owed _)
  · split
    · exact meets_after_applied .thrown (Delivery.scheduleRetry_keeps runtime _)
        (Delivery.scheduleRetry_attempts runtime _) (owed _)
    · exact meets_after_applied .thrown (Delivery.moveToDeadLetterQueue_keeps runtime _)
        (Delivery.moveToDeadLetterQueue_attempts runtime _) (owed _)

/-- Marking PROCESSING leaves the history alone, whether there is anything to mark or not. -/
theorem meets_after_beginning {α : Type} {runtime : Runtime}
    {next : Delivery → ServiceProgram α} {post : Settled Thrown α → Option Delivery → Prop}
    (thrown : ∀ error after, post (.error error) after)
    (owed
      : ∀ after,
          delivery.SameEntity after
          → after.attempts = delivery.attempts
          → (next after).Meets anyAnswer shown post)
    : ((beginProcessing runtime delivery).bind next).Meets anyAnswer shown post := by
  unfold beginProcessing
  split
  · exact owed delivery (.refl delivery) rfl
  · exact meets_after_applied thrown (Delivery.markAsProcessing_keeps runtime)
      (Delivery.markAsProcessing_attempts runtime) owed

/-- A run that completes makes the history of its delivery grow. -/
theorem deliver_observed {destinationParam : Option DeliveryTarget}
    : (deliver config deliveryId destinationParam delivery).Meets anyAnswer shown
        (CompletesGrown delivery) := by
  unfold deliver
  refine meets_after_any .thrown (fun destination _ => ?_)
  refine meets_after_any .thrown (fun runtime _ => ?_)
  refine meets_after_beginning .thrown (fun processing same history => ?_)
  refine meets_after_any .thrown (fun _ _ => ?_)
  refine meets_after_any .thrown (fun payload _ => ?_)
  refine meets_after_any .thrown (fun outcome _ => ?_)
  exact conclude_observed same history

end

end ProcessDeliveryService

/-- Over a store of entities, an observer who expects every answer is shown what the store
holds.
-/
theorem EntityStore.honours_any {σ : Type} {config : ServiceConfig}
    {handler : Handler ServiceSignature Thrown σ} {stored : σ → String → Option Delivery}
    (store : EntityStore config handler stored)
    : handler.Honours anyAnswer (Shows stored) := by
  intro shown world op shows _
  refine ⟨_, ⟨trivial, rfl⟩, ?_⟩
  cases op with
  | save saved events => exact store.shows_save saved events world
  | recordAttempt deliveryId attemptNumber data =>
      cases attemptNumber with
      | none => exact store.shows_kept shows rfl rfl
      | some number => exact fun delivery known => nomatch known
  | _ => exact store.shows_kept shows rfl rfl

/-- Over a store that returns the last saved entity, no completed run of the service records
its outcome in the attempt history: it adds an attempt without a latency, or an object that is
no attempt.
-/
theorem processing_misrecords_outcome {σ : Type} {config : ServiceConfig}
    {handler : Handler ServiceSignature Thrown σ} {stored : σ → String → Option Delivery}
    {delivery : Delivery} {world final : σ} {destinationParam : Option DeliveryTarget}
    {result : ProcessResult} (store : EntityStore config handler stored)
    (found : stored world delivery.id = some delivery)
    (completed
      : (ProcessDeliveryService.processDelivery config delivery.id destinationParam).run
            handler world
        = (.ok result, final))
    : ∃ after,
        stored final delivery.id = some after
        ∧ ¬RecordsOutcome result delivery after := by
  obtain ⟨loaded, loads, kept⟩ := store.run_loadDelivery found
  rw [ProcessDeliveryService.run_processDelivery loads] at completed
  have start : Shows stored (some delivery) loaded := by
    rw [← kept] at found
    exact shows_found found
  obtain ⟨shown, grown, shows⟩ :=
    (@ProcessDeliveryService.deliver_observed config delivery.id delivery (some delivery)
      destinationParam).run store.honours_any start
  rcases ran
      : (ProcessDeliveryService.deliver config delivery.id destinationParam delivery).run handler
          loaded with ⟨error | value, left⟩
  · rw [ran] at completed
    exact nomatch completed
  · rw [ran] at completed grown shows
    obtain ⟨saved, rfl, same, grows⟩ := grown value rfl
    have left : stored final saved.id = some saved :=
      (Prod.mk.inj completed).2 ▸ shows saved rfl
    rw [same.id] at left
    exact ⟨saved, left, grows.not_records result⟩

/-- A run on the new delivery over the store in memory, whose transmission is answered with a
status.
-/
def processedWith (status : Int) : Settled Thrown ProcessResult × (String → Option Delivery) :=
  (answeredWith status).run deliveringConfig countingTables (memory ⟨0, 0, fun _ => 1⟩)
    newDelivery.id holdingNew

/-- The latency an entry is read to have by its method. -/
def latencyOf : AttemptEntry → Option (Option Number)
  | .valueObject attempt => some attempt.latencyMs
  | .plain _ => none

theorem notFound_misrecorded
    : ∃ result after,
        (processedWith 404).1 = .ok result
        ∧ (processedWith 404).2 newDelivery.id = some after
        ∧ ¬RecordsOutcome result newDelivery after := by
  have completes : (processedWith 404).1.isOk = true := by decide +kernel
  cases completed : (processedWith 404).1 with
  | error error =>
      rw [completed] at completes
      exact nomatch completes
  | ok result =>
      obtain ⟨after, left, misrecorded⟩ :=
        processing_misrecords_outcome
          (Transmission.during_entityStore (delivering_entityStore ⟨0, 0, fun _ => 1⟩)
            (answeredWith 404))
          (show holdingNew newDelivery.id = some newDelivery from rfl)
          (Prod.ext completed rfl)
      exact ⟨result, after, rfl, left, misrecorded⟩

/-- A delivery answered with 200 in 80 ms has an attempt with an error and without a latency. -/
theorem success_misrecorded
    : ∃ result after,
        (processedWith 200).1 = .ok result
        ∧ (processedWith 200).2 newDelivery.id = some after
        ∧ ¬RecordsOutcome result newDelivery after := by
  have completes : (processedWith 200).1.isOk = true := by decide +kernel
  have untimed
      : ((processedWith 200).2 newDelivery.id).map
            (fun after => after.attempts.map latencyOf)
        = some [some none] := by
    decide +kernel
  cases completed : (processedWith 200).1 with
  | error error =>
      rw [completed] at completes
      exact nomatch completes
  | ok result =>
      obtain ⟨after, left, latencies⟩ := Option.map_eq_some_iff.mp untimed
      refine ⟨result, after, rfl, left, ?_⟩
      rintro ⟨attempt, recorded, timed, _⟩
      rw [recorded] at latencies
      have same : attempt.latencyMs = none :=
        Option.some.inj (List.singleton_inj.mp latencies)
      rw [timed] at same
      exact nomatch same

end QueueForge.Application
