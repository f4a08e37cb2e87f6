import QueueForge.Worker.JobProcessor
import QueueForge.Worker.WiredRun
import QueueForge.Worker.WorkingStore

/-! The status a processor reports for a job, against the one that is stored when the run ends.
The executor moves the delivery as the classifier decides, and reports its category; the processor
reads a status off the category again.
-/

namespace QueueForge.Worker

open QueueForge.Async QueueForge.Js QueueForge.Domain

-----------------------------------------------------------------------------------------
-- What is noted of a run
-----------------------------------------------------------------------------------------

/-- The status a call moves its delivery to, if it resolves. -/
def movedTo : (call : WorkerCall) → Settled Thrown call.Result → Option DeliveryStatus
  | .markProcessing _, .ok _ => some .processing
  | .markCompleted _ _, .ok _ => some .completed
  | .scheduleRetry _ _ _, .ok _ => some .scheduledRetry
  | .moveToDeadLetterQueue _ _, .ok _ => some .failedDlq
  | _, _ => none

/-- The category of a failure that the executor learns of by an answer: an unsuccessful response, or
an exception that it does not swallow.
-/
def judgedAs : (call : WorkerCall) → Settled Thrown call.Result → Option ErrorCategory
  | .external (.execute _ _), .ok (some res) =>
      if res.success then none
      else
        some (ErrorClassifier.classify (DeliveryExecutor.responseError res) res.statusCode).category
  | .external (.execute _ _), .ok none =>
      some (ErrorClassifier.classify
        (newTypeError "Cannot read properties of undefined (reading 'success')")).category
  | .external (.release _ _), _ | .markProcessing _, _ => none
  | _, .error error => some (ErrorClassifier.classify error).category
  | _, _ => none

/-- The status the delivery was moved to last, whether the breaker was reported open, and how the
last failure was judged.
-/
structure SettlingNotes where
  moved : Option DeliveryStatus := none
  opened : Bool := false
  judged : Option ErrorCategory := none

namespace SettlingNotes

def enter (notes : SettlingNotes) (call : WorkerCall) (result : Settled Thrown call.Result)
    : SettlingNotes where
  moved := (movedTo call result).or notes.moved
  opened :=
    notes.opened
    || match call, result with
      | .external call, result => reportsOpen call result
      | _, _ => false
  judged := (judgedAs call result).or notes.judged

/-- The notes of a trace. -/
def ofTrace (trace : List (Answered WorkerSignature Thrown)) : SettlingNotes :=
  notes (S := WorkerSignature) enter {} trace

/-- The delivery was claimed at most. -/
def Unsettled (notes : SettlingNotes) : Prop :=
  notes.moved = none ∨ notes.moved = some .processing

/-- So far the run has settled nothing, and no breaker stopped it. -/
structure Underway (notes : SettlingNotes) : Prop where
  closed : notes.opened = false
  unsettled : notes.Unsettled

end SettlingNotes

/-- `Date.now()` does not throw. -/
def ReadsClock : (call : WorkerCall) → Settled Thrown call.Result → Prop
  | .now, result => ∃ time, result = .ok time
  | _, _ => True

/-- The observer's contract of a run on the delivery `id`. -/
def settlingContract (id : String) : Contract WorkerSignature Thrown SettlingNotes where
  allows _ call := ∀ other ∈ call.about, other = id
  answers notes call result after := ReadsClock call result ∧ after = notes.enter call result

section
variable {id : String} {notes : SettlingNotes}

@[simp] theorem meets_await_settling {call : WorkerCall}
    {post : Settled Thrown call.Result → SettlingNotes → Prop}
    : Program.Meets (α := no_index call.Result) (settlingContract id) (await call) notes post
      ↔ (∀ other ∈ call.about, other = id)
        ∧ (∀ error, ReadsClock call (.error error) → post (.error error) (notes.enter call (.error error)))
        ∧ ∀ value, ReadsClock call (.ok value) → post (.ok value) (notes.enter call (.ok value)) := by
  refine meets_await.trans (and_congr_right (fun _ => ?_))
  rw [← Settled.forall (fun result => ReadsClock call result → post result (notes.enter call result))]
  constructor
  · intro owed result reads
    exact owed result _ ⟨reads, rfl⟩
  · rintro owed result _ ⟨reads, rfl⟩
    exact owed result reads

@[simp] theorem meets_awaitExternal_settling {call : Infrastructure.ExternalCall}
    {post : Settled Thrown call.Result → SettlingNotes → Prop}
    : Program.Meets (α := no_index call.Result) (settlingContract id) (awaitExternal call) notes post
      ↔ (∀ error, post (.error error) (notes.enter (.external call) (.error error)))
        ∧ ∀ value, post (.ok value) (notes.enter (.external call) (.ok value)) := by
  refine meets_await_settling.trans ?_
  simp [WorkerCall.about, ReadsClock]

end

/-- Where the executor moves a delivery whose failure has a category. -/
def ErrorCategory.target : ErrorCategory → DeliveryStatus
  | .permanent | .validation => .failedDlq
  | _ => .scheduledRetry

theorem target_classify (error : Thrown) (statusCode : Option Int)
    : (ErrorClassifier.classify error statusCode).category.target
      = if (ErrorClassifier.classify error statusCode).retryable then .scheduledRetry else .failedDlq := by
  unfold ErrorClassifier.classify ErrorClassifier.getRetryable
  cases ErrorClassifier.getCategory error (ErrorClassifier.code error statusCode) <;> rfl

namespace DeliveryExecutor

variable (config : ExecutorConfig) (start : Int) (id : String) (breaker : Bool)
  {noted : SettlingNotes}

attribute [local simp] SettlingNotes.enter movedTo judgedAs reportsOpen ReadsClock WorkerCall.about

/-- How a run ends: its outcome is stored and reported by category, or the delivery is claimed at
most.
-/
def Concluded (outcome : Settled Thrown ExecutionResult) (noted : SettlingNotes) : Prop :=
  match outcome with
  | .error _ => noted.Underway
  | .ok result =>
      if result.success then noted.moved = some .completed
      else
        (∃ category,
          result.errorCategory = some category
          ∧ noted.judged = some category
          ∧ noted.moved = some category.target)
        ∨ noted.Unsettled
          ∧ result.errorCategory = some (if noted.opened then .transient else .permanent)

/-- What is handed to the `catch` block: an exception that settled nothing, judged by itself. -/
structure Caught (error : Thrown) (noted : SettlingNotes) : Prop extends noted.Underway where
  judged : noted.judged = some (ErrorClassifier.classify error).category

/-- An exception that is noted leaves nothing else. -/
theorem caught (underway : noted.Underway) (error : Thrown)
    : Caught error { noted with judged := some (ErrorClassifier.classify error).category } :=
  ⟨⟨underway.closed, underway.unsettled⟩, rfl⟩

/-- A classified failure is stored as its category has it. -/
theorem settleFailure_settles (underway : noted.Underway) (error cause : Thrown)
    (statusCode : Option Int)
    : (settleFailure id error (ErrorClassifier.classify cause statusCode).retryable).Meets
        (settlingContract id) noted
        (fun outcome after =>
          match outcome with
          | .ok _ =>
              after.judged = noted.judged
              ∧ after.moved = some (ErrorClassifier.classify cause statusCode).category.target
          | .error thrown => Caught thrown after) := by
  have thrown := caught underway
  rw [target_classify]
  unfold settleFailure
  cases (ErrorClassifier.classify cause statusCode).retryable with
  | true => simpa using thrown
  | false => simpa using thrown

/-- Reports to the breaker are noted where they throw. -/
theorem reportFailure_settles (underway : noted.Underway) (error : Thrown)
    : (reportFailure breaker error).Meets (settlingContract id) noted
        (fun outcome after =>
          match outcome with
          | .ok _ => after = noted
          | .error thrown => Caught thrown after) := by
  have thrown := caught underway
  cases breaker with
  | true => simpa [reportFailure] using thrown
  | false => simp [reportFailure]

theorem reportSuccess_settles (underway : noted.Underway)
    : (reportSuccess breaker).Meets (settlingContract id) noted
        (fun outcome after =>
          match outcome with
          | .ok _ => after = noted
          | .error thrown => Caught thrown after) := by
  have thrown := caught underway
  cases breaker with
  | true => simpa [reportSuccess] using thrown
  | false => simp [reportSuccess]

/-- Recording an attempt is noted where it throws. -/
theorem attemptFailure_settles (underway : noted.Underway) (latencyMs : Int)
    (statusCode : Option Int) (error : Thrown)
    : Program.Meets (α := Unit) (settlingContract id)
        (await (.attemptFailure id latencyMs statusCode error)) noted
        (fun outcome after =>
          match outcome with
          | .ok _ => after = noted
          | .error thrown => Caught thrown after) := by
  have thrown := caught underway
  simpa using thrown

/-- Reading the clock is not noted. -/
theorem elapsed_settles (noted : SettlingNotes)
    : (elapsed start).Meets (settlingContract id) noted
        (fun outcome after => (∃ latencyMs, outcome = .ok latencyMs) ∧ after = noted) := by
  simp [elapsed]

/-- The `catch` block settles the failure it is handed, or throws. -/
theorem onError_settles {err : Thrown} (handed : Caught err noted)
    : (onError start id breaker err).Meets (settlingContract id) noted Concluded := by
  have underway := handed.toUnderway
  simp only [onError, Program.bind_eq, Program.meets_bind]
  refine (elapsed_settles start id noted).mono ?_
  rintro _ noted ⟨⟨latencyMs, rfl⟩, rfl⟩
  refine (reportFailure_settles id breaker underway err).mono ?_
  rintro (thrown | _) noted reported
  · exact reported.toUnderway
  · subst reported
    simp only [Program.meets_ite, Program.throw_eq, Program.meets_fail, Program.meets_bind]
    refine ⟨fun _ => underway, fun _ => ?_⟩
    refine (attemptFailure_settles id underway latencyMs _ err).mono ?_
    rintro (thrown | _) noted recorded
    · exact recorded.toUnderway
    · subst recorded
      refine (settleFailure_settles id underway err err none).mono ?_
      rintro (thrown | _) final settled
      · exact settled.toUnderway
      · obtain ⟨judged, moved⟩ := settled
        exact .inl ⟨_, rfl, judged.trans handed.judged, moved⟩

/-- What the body of the `try` block owes: an outcome, or an exception for the `catch` block. -/
def Attempted (outcome : Settled Thrown ExecutionResult) (noted : SettlingNotes) : Prop :=
  match outcome with
  | .ok result => Concluded (.ok result) noted
  | .error error => Caught error noted

/-- The bookkeeping of an unsuccessful response that was judged by its error. -/
theorem onFailure_settles (underway : noted.Underway) (latencyMs : Int)
    (res : Infrastructure.Response)
    (judged
      : noted.judged
        = some (ErrorClassifier.classify (responseError res) res.statusCode).category)
    : (onFailure id breaker latencyMs res).Meets (settlingContract id) noted Attempted := by
  simp only [onFailure, Program.bind_eq, Program.meets_bind]
  refine (reportFailure_settles id breaker underway _).mono ?_
  rintro (thrown | _) noted reported
  · exact reported
  · subst reported
    refine (attemptFailure_settles id underway latencyMs _ _).mono ?_
    rintro (thrown | _) noted recorded
    · exact recorded
    · subst recorded
      refine (settleFailure_settles id underway _ (responseError res) res.statusCode).mono ?_
      rintro (thrown | _) final settled
      · exact settled
      · obtain ⟨same, moved⟩ := settled
        exact .inl ⟨_, rfl, same.trans judged, moved⟩

/-- The bookkeeping of a successful one. -/
theorem onSuccess_settles (underway : noted.Underway) (latencyMs : Int)
    (res : Infrastructure.Response)
    : (onSuccess id breaker latencyMs res).Meets (settlingContract id) noted Attempted := by
  have thrown := caught underway
  simp only [onSuccess, Program.bind_eq, Program.meets_bind]
  refine (reportSuccess_settles id breaker underway).mono ?_
  rintro (error | _) noted reported
  · exact reported
  · subst reported
    simpa [Attempted, Concluded] using thrown

/-- The payload of a transmission is loaded without a note, or the lookup throws. -/
theorem loadPayload_settles (underway : noted.Underway) (delivery : LoadedDelivery)
    : (loadPayload config delivery).Meets (settlingContract id) noted
        (fun outcome after =>
          match outcome with
          | .ok _ => after = noted
          | .error thrown => Caught thrown after) := by
  have thrown := caught underway
  simp only [loadPayload, Program.meets_ite]
  refine ⟨fun _ => ?_, fun _ => ?_⟩
  · simpa using thrown
  · simp

/-- An answer of a collaborator settles nothing, and stops no run unless it is an open breaker's. -/
theorem underway_enter (underway : noted.Underway) {call : Infrastructure.ExternalCall}
    {result : Settled Thrown call.Result} (closed : reportsOpen call result = false)
    : (noted.enter (.external call) result).Underway where
  closed := (congrArg₂ (· || ·) underway.closed closed).trans rfl
  unsettled := underway.unsettled

/-- A transmission: what it resolves to is judged where it is no success. -/
theorem transmit_settles (underway : noted.Underway) (connector : Bool) (payload : Value)
    (timeoutMs : Int)
    : (transmit connector payload timeoutMs).Meets (settlingContract id) noted
        (fun outcome after =>
          after.Underway
          ∧ match outcome with
            | .error thrown => after.judged = some (ErrorClassifier.classify thrown).category
            | .ok none =>
                after.judged
                = some (ErrorClassifier.classify
                    (newTypeError "Cannot read properties of undefined (reading 'success')")).category
            | .ok (some res) =>
                res.success = false
                → after.judged
                  = some (ErrorClassifier.classify (responseError res) res.statusCode).category) := by
  cases connector with
  | false =>
      simp only [transmit, Bool.false_eq_true, if_false, Program.pure_eq, Program.meets_done]
      exact ⟨underway, nofun⟩
  | true =>
      simp only [transmit, if_true, meets_awaitExternal_settling]
      refine ⟨fun error => ⟨underway_enter underway rfl, rfl⟩, fun answer => ?_⟩
      refine ⟨underway_enter underway rfl, ?_⟩
      cases answer with
      | none => rfl
      | some res =>
          intro failed
          simp [failed]

/-- The body of the `try` block. -/
theorem deliver_settles (underway : noted.Underway) (delivery : LoadedDelivery)
    (destination : Option Infrastructure.Destination)
    : (deliver config start id delivery destination breaker).Meets (settlingContract id) noted
        Attempted := by
  simp only [deliver, Program.bind_eq, Program.meets_bind, meets_awaitExternal_settling]
  refine ⟨fun error => ⟨underway_enter underway rfl, rfl⟩, fun connector => ?_⟩
  have created : (noted.enter (.external (.createConnector destination)) (.ok connector)).Underway :=
    underway_enter underway rfl
  refine (loadPayload_settles config id created delivery).mono ?_
  rintro (thrown | payload) noted loaded
  · exact loaded
  · subst loaded
    refine (transmit_settles id created connector payload _).mono ?_
    rintro (thrown | answer) noted ⟨sent, judged⟩
    · exact ⟨sent, judged⟩
    · refine (elapsed_settles start id noted).mono ?_
      rintro _ noted ⟨⟨latencyMs, rfl⟩, rfl⟩
      rcases answer with _ | res
      · exact ⟨sent, judged⟩
      · simp only [Program.meets_ite]
        refine ⟨fun _ => onSuccess_settles id breaker sent latencyMs res, fun failed => ?_⟩
        exact onFailure_settles id breaker sent latencyMs res
          (judged (Bool.eq_false_iff.mpr failed))

/-- Giving the ticket back is not noted and does not throw. -/
theorem releaseTicket_settles (noted : SettlingNotes) (poolName : String)
    (ticketId : Option String)
    : (releaseTicket config poolName ticketId).Meets (settlingContract id) noted
        (fun outcome after => outcome = .ok () ∧ after = noted) := by
  unfold releaseTicket
  split
  · simp
  · simp

/-- The protected execution. -/
theorem protect_settles (underway : noted.Underway) (delivery : LoadedDelivery)
    (destination : Option Infrastructure.Destination)
    : (protect config start id delivery destination breaker).Meets (settlingContract id) noted
        Concluded := by
  have attempted {noted : SettlingNotes} (underway : noted.Underway) (ticketId : Option String)
      : ((tryCatch (deliver config start id delivery destination breaker)
            (onError start id breaker)).finallyRun
          (releaseTicket config (toLowerCase (destinationType destination))
            ticketId)).Meets (settlingContract id) noted Concluded := by
    refine Program.Meets.finallyRun ?_
      (fun noted => releaseTicket_settles config id noted _ ticketId)
    rw [Program.tryCatch_eq, Program.meets_catchError]
    refine (deliver_settles config start id breaker underway delivery destination).mono ?_
    rintro (err | result) noted ended
    · exact onError_settles start id breaker ended
    · exact ended
  simp only [protect, Program.bind_eq, Program.pure_eq, Program.meets_bind, Program.meets_ite,
    Program.meets_settle, Program.meets_done, meets_awaitExternal_settling]
  refine ⟨fun _ => ⟨fun err => ?_, fun ticketId => ?_⟩, fun _ => attempted underway none⟩
  · exact onError_settles start id breaker ⟨underway_enter underway rfl, rfl⟩
  · exact attempted (underway_enter underway rfl) ticketId

/-- The breaker check and what follows it. -/
theorem guardedDelivery_settles (underway : noted.Underway) (destId : String)
    (delivery : LoadedDelivery) (destination : Option Infrastructure.Destination)
    : (guardedDelivery config start id destId delivery destination).Meets (settlingContract id)
        noted Concluded := by
  simp only [guardedDelivery, Program.bind_eq, Program.meets_ite, Program.meets_bind,
    meets_awaitExternal_settling]
  refine ⟨fun _ => ⟨fun error => underway_enter underway rfl, fun breaker => ?_⟩, fun _ => ?_⟩
  · have got : (noted.enter (.external (.getBreaker destId)) (.ok breaker)).Underway :=
      underway_enter underway rfl
    refine ⟨fun error => underway_enter got rfl, fun isCbOpen => ⟨fun opened => ?_, fun closed => ?_⟩⟩
    · -- the run stops here, with the delivery claimed at most
      subst opened
      simp only [aborted, Program.bind_eq, Program.meets_bind]
      refine (elapsed_settles start id _).mono ?_
      rintro _ _ ⟨⟨latencyMs, rfl⟩, rfl⟩
      refine .inr ⟨got.unsettled, ?_⟩
      simp
    · have shut : reportsOpen (.isOpen destId) (.ok isCbOpen) = false :=
        Bool.eq_false_iff.mpr closed
      exact protect_settles config start id breaker (underway_enter got shut) delivery destination
  · exact protect_settles config start id false underway delivery destination

/-- The claim is noted if it is stored; a rejection is swallowed, or throws. -/
theorem claim_settles (underway : noted.Underway)
    : (claim config id).Meets (settlingContract id) noted (fun _ after => after.Underway) := by
  simp only [claim, Program.tryCatch_eq, Program.meets_catchError, meets_await_settling]
  refine ⟨by simp, fun error _ => ?_, fun _ _ => ⟨?_, .inr rfl⟩⟩
  · have swallowed : (noted.enter (.markProcessing id) (.error error)).Underway := by
      simpa using (⟨underway.closed, underway.unsettled⟩ : noted.Underway)
    simp only [Program.meets_ite, Program.throw_eq, Program.pure_eq, Program.meets_fail,
      Program.meets_done]
    exact ⟨fun _ => swallowed, fun _ => swallowed⟩
  · exact (Bool.or_false _).trans underway.closed

/-- Loading a destination settles nothing. -/
theorem loadDestination_settles (underway : noted.Underway)
    (destinationArg : Option Infrastructure.Destination) (destId : String)
    : (loadDestination config destinationArg destId).Meets (settlingContract id) noted
        (fun _ after => after.Underway) := by
  cases destinationArg with
  | some destination => exact underway
  | none =>
      simp only [loadDestination, Program.meets_ite, meets_awaitExternal_settling,
        Program.pure_eq, Program.meets_done]
      exact ⟨fun _ => ⟨fun _ => underway_enter underway rfl, fun _ => underway_enter underway rfl⟩,
        fun _ => underway⟩

/-- Loading the delivery settles nothing, and a delivery it finds is the named one. -/
theorem loadDelivery_settles (underway : noted.Underway)
    : (loadDelivery config (.id id)).Meets (settlingContract id) noted
        (fun _ after => after.Underway) := by
  simp only [loadDelivery, Program.meets_ite, meets_await_settling, Program.pure_eq,
    Program.meets_done]
  refine ⟨fun _ => ⟨by simp, fun _ _ => ?_, fun _ _ => ?_⟩, fun _ => underway⟩
  · exact ⟨(Bool.or_false _).trans underway.closed, underway.unsettled⟩
  · exact ⟨(Bool.or_false _).trans underway.closed, underway.unsettled⟩

/-- A whole run on a delivery that is named. -/
theorem executeWithResilience_settles (named : id ≠ "") (underway : noted.Underway)
    (destinationArg : Option Infrastructure.Destination)
    : (executeWithResilience config (.id id) destinationArg).Meets (settlingContract id) noted
        Concluded := by
  have identified (delivery : LoadedDelivery) : identifier (.id id) delivery = id :=
    if_neg named
  simp only [executeWithResilience, Program.bind_eq, Program.meets_bind, meets_await_settling]
  refine ⟨by simp, fun _ reads => absurd reads.choose_spec nofun, fun start _ => ?_⟩
  have begun : (noted.enter .now (.ok start)).Underway :=
    ⟨(Bool.or_false _).trans underway.closed, underway.unsettled⟩
  refine (loadDelivery_settles config id begun).mono ?_
  rintro (error | _ | delivery) noted found
  · exact found
  · simp only [notFound, Program.bind_eq, Program.meets_bind]
    refine (elapsed_settles start id noted).mono ?_
    rintro _ noted ⟨⟨latencyMs, rfl⟩, rfl⟩
    refine .inr ⟨found.unsettled, ?_⟩
    simp [found.closed]
  · simp only [Program.meets_bind, identified]
    refine (loadDestination_settles config id found destinationArg _).mono ?_
    rintro (error | destination) noted looked
    · exact looked
    · refine (claim_settles config id looked).mono ?_
      rintro (error | _) noted claimed
      · exact claimed
      · exact guardedDelivery_settles config start id claimed _ delivery destination

end DeliveryExecutor

-----------------------------------------------------------------------------------------
-- What the processor reports
-----------------------------------------------------------------------------------------

/-- The status the processor reports of a run, as the notes tell it. -/
def SettlingNotes.reported (notes : SettlingNotes) : DeliveryStatus :=
  match notes.moved with
  | some .completed => .completed
  | some .scheduledRetry => .scheduledRetry
  | some .failedDlq => JobProcessor.failureStatus notes.judged
  | _ => if notes.opened then .scheduledRetry else .failedDlq

namespace JobProcessor

/-- The methods behind the calls of a processor that has a `DeliveryExecutor`. -/
def methods (executor : ExecutorConfig) : (call : JobCall) → WorkerProgram call.Result
  | .validate job => .ofResult (validate job)
  | .now => await .now
  | .findOne deliveryId => (await (.findDelivery deliveryId)).bind (fun _ => .done ())
  | .execute deliveryId destination =>
      DeliveryExecutor.executeWithResilience executor (.id deliveryId) destination
  | .enter | .addLatency _ | .countProcessed | .countFailed | .leave => .done ()

/-- A call of `processJob` together with the run of its executor. -/
def processWith (config : ProcessorConfig) (executor : ExecutorConfig) (job : Option JobPayload)
    : WorkerProgram ProcessResult :=
  (processJob config job).implement (methods executor)

/-- What the calls of a processor leave of the notes. -/
def reportContract (id : String) : Contract JobSignature Thrown SettlingNotes where
  allows notes call :=
    match call with
    | .findOne other | .execute other _ => other = id ∧ notes.Underway
    | _ => True
  answers notes call result after :=
    match call with
    | .validate _ => after = notes
    | .now => (∃ time, result = .ok time) ∧ after = notes
    | .findOne _ => after.Underway
    | .execute _ _ => DeliveryExecutor.Concluded result after
    | .enter | .addLatency _ | .countProcessed | .countFailed | .leave =>
        result = .ok () ∧ after = notes

/-- A report that agrees with the notes. -/
def Reports (outcome : Settled Thrown ProcessResult) (notes : SettlingNotes) : Prop :=
  ∀ result, outcome = .ok result → result.status = notes.reported

section
variable {id : String} {noted : SettlingNotes}

theorem meets_awaitJob_report {call : JobCall}
    {post : Settled Thrown call.Result → SettlingNotes → Prop}
    : Program.Meets (α := no_index call.Result) (reportContract id) (awaitJob call) noted post
      ↔ (reportContract id).allows noted call
        ∧ ∀ result after, (reportContract id).answers noted call result after → post result after :=
  Program.meets_perform

/-- The processor reads the status off the category that the run was settled by. -/
theorem reported_of_concluded {result : ExecutionResult}
    (concluded : DeliveryExecutor.Concluded (.ok result) noted)
    : noted.reported
      = if result.success then .completed else failureStatus result.errorCategory := by
  unfold DeliveryExecutor.Concluded at concluded
  by_cases success : result.success = true
  · simp only [success, if_true] at concluded ⊢
    simp only [SettlingNotes.reported, concluded]
  · simp only [success, Bool.false_eq_true, if_false] at concluded ⊢
    rcases concluded with ⟨category, told, judged, moved⟩ | ⟨unsettled, told⟩
    · simp only [SettlingNotes.reported, told, judged, moved]
      cases category <;> rfl
    · rw [told]
      rcases unsettled with unmoved | claimed
      · simp only [SettlingNotes.reported, unmoved]
        cases noted.opened <;> rfl
      · simp only [SettlingNotes.reported, claimed]
        cases noted.opened <;> rfl

/-- A run that threw is reported as a dead letter. -/
theorem reported_of_underway (underway : noted.Underway) : noted.reported = .failedDlq := by
  have closed := underway.closed
  rcases underway.unsettled with unmoved | claimed
  · simp only [SettlingNotes.reported, unmoved, closed]
    rfl
  · simp only [SettlingNotes.reported, claimed, closed]
    rfl

variable (config : ProcessorConfig) (start : Int)

/-- A run that returned is reported as its category has it. -/
theorem conclude_reports {result : ExecutionResult}
    (concluded : DeliveryExecutor.Concluded (.ok result) noted)
    : (conclude start id result).Meets (reportContract id) noted
        (fun outcome after => ∃ report, outcome = .ok report ∧ report.status = after.reported) := by
  have told := reported_of_concluded concluded
  simp only [conclude, Program.bind_eq, Program.meets_bind, Program.meets_ite,
    meets_awaitJob_report]
  refine ⟨trivial, ?_⟩
  rintro _ _ ⟨⟨now, rfl⟩, rfl⟩
  refine ⟨trivial, ?_⟩
  rintro _ _ ⟨rfl, rfl⟩
  refine ⟨fun success => ⟨trivial, ?_⟩, fun failure => ⟨trivial, ?_⟩⟩
  · rintro _ _ ⟨rfl, rfl⟩
    exact ⟨_, rfl, (told.trans (if_pos success)).symm⟩
  · rintro _ _ ⟨rfl, rfl⟩
    exact ⟨_, rfl, (told.trans (if_neg failure)).symm⟩

/-- What is handed to the `catch` block: the run settled nothing. -/
def Handed (outcome : Settled Thrown ProcessResult) (notes : SettlingNotes) : Prop :=
  match outcome with
  | .ok report => report.status = notes.reported
  | .error _ => notes.Underway

/-- The run of the executor, and what follows it. -/
theorem runExecutor_reports (executing : config.executor = true) (underway : noted.Underway)
    (destination : Option Infrastructure.Destination)
    : ((runExecutor config id destination).bind (conclude start id)).Meets (reportContract id)
        noted Handed := by
  simp only [runExecutor, executing, if_true, Program.meets_bind, meets_awaitJob_report]
  refine ⟨⟨rfl, underway⟩, ?_⟩
  rintro (error | result) after concluded
  · exact concluded
  · refine (conclude_reports start concluded).mono ?_
    rintro _ final ⟨report, rfl, same⟩
    exact same

/-- The body of the `try` block, with an executor. -/
theorem attempt_reports (executing : config.executor = true) (underway : noted.Underway)
    (destination : Option Infrastructure.Destination)
    : (attempt config start id destination).Meets (reportContract id) noted Handed := by
  have executed {noted : SettlingNotes} (underway : noted.Underway) :=
    Program.meets_bind.mp (@runExecutor_reports id noted config start executing underway destination)
  simp only [attempt, Program.bind_eq, Program.meets_ite, Program.meets_bind,
    meets_awaitJob_report]
  refine ⟨fun _ => ⟨⟨rfl, underway⟩, ?_⟩, fun _ => executed underway⟩
  rintro (error | _) after found
  · exact found
  · exact executed found

/-- The `catch` block reports a dead letter. -/
theorem onException_reports (underway : noted.Underway) (err : Thrown)
    : (onException config start id err).Meets (reportContract id) noted Reports := by
  have told := reported_of_underway underway
  simp only [onException, Program.bind_eq, Program.meets_bind, Program.meets_ite,
    meets_awaitJob_report]
  refine ⟨trivial, ?_⟩
  rintro _ _ ⟨rfl, rfl⟩
  refine ⟨trivial, ?_⟩
  rintro _ _ ⟨⟨now, rfl⟩, rfl⟩
  refine ⟨trivial, ?_⟩
  rintro _ _ ⟨rfl, rfl⟩
  refine ⟨fun _ => ?_, fun _ => ?_⟩
  · intro report returned
    cases returned
  · intro report returned
    rw [← Except.ok.inj returned, told]

/-- A whole call for a job. -/
theorem processJob_reports (job : Option JobPayload) (executing : config.executor = true)
    : (processJob config job).Meets (reportContract (deliveryIdOf job)) {} Reports := by
  have rejected (error : Thrown) (notes : SettlingNotes) : Reports (.error error) notes := by
    intro report returned
    exact nomatch returned
  have fresh : ({} : SettlingNotes).Underway := ⟨rfl, .inl rfl⟩
  simp only [processJob, Program.bind_eq, Program.meets_bind, meets_awaitJob_report]
  refine ⟨trivial, ?_⟩
  rintro (error | _) _ rfl
  · exact rejected error _
  · refine ⟨trivial, ?_⟩
    rintro _ _ ⟨⟨start, rfl⟩, rfl⟩
    refine ⟨trivial, ?_⟩
    rintro _ _ ⟨rfl, rfl⟩
    refine Program.Meets.finallyRun ?_ (fun notes => ?_)
    · rw [Program.tryCatch_eq, Program.meets_catchError]
      refine (attempt_reports config start executing fresh _).mono ?_
      rintro (err | report) after handed
      · exact onException_reports config start handed err
      · intro result returned
        rw [← Except.ok.inj returned]
        exact handed
    · rw [meets_awaitJob_report]
      exact ⟨trivial, fun _ _ counted => counted⟩

end

/-- A run of the executor concludes as the processor assumes, so its report agrees with the notes. -/
theorem processWith_reports (config : ProcessorConfig) (executing : config.executor = true)
    (executor : ExecutorConfig) (job : Option JobPayload)
    : (processWith config executor job).Meets (settlingContract (deliveryIdOf job)) {} Reports := by
  have sound
      : ∀ (noted below : SettlingNotes) (call : JobCall),
          noted = below
          → (reportContract (deliveryIdOf job)).allows noted call
          → (methods executor call).Meets (settlingContract (deliveryIdOf job)) below
              (fun result after =>
                ∃ next,
                  (reportContract (deliveryIdOf job)).answers noted call result next
                  ∧ next = after) := by
    rintro noted _ call rfl allowed
    cases call with
    | validate job =>
        simp only [methods, Program.meets_ofResult]
        exact ⟨noted, rfl, rfl⟩
    | now =>
        simp only [methods, meets_await_settling]
        refine ⟨(by rintro _ ⟨⟩), fun _ reads => absurd reads.choose_spec (by rintro ⟨⟩),
          fun time _ => ?_⟩
        exact ⟨noted, ⟨⟨time, rfl⟩, rfl⟩, by simp [SettlingNotes.enter, movedTo, judgedAs]⟩
    | findOne deliveryId =>
        obtain ⟨rfl, underway⟩ := allowed
        have still : ∀ result, (noted.enter (.findDelivery (deliveryIdOf job)) result).Underway :=
          fun result => ⟨(Bool.or_false _).trans underway.closed, by
            cases result <;> exact underway.unsettled⟩
        simp only [methods, Program.meets_bind, meets_await_settling, Program.meets_done]
        refine ⟨by simp [WorkerCall.about], fun error _ => ?_, fun found _ => ?_⟩
        · exact ⟨_, still (.error error), rfl⟩
        · exact ⟨_, still (.ok found), rfl⟩
    | execute deliveryId destination =>
        obtain ⟨rfl, underway⟩ := allowed
        refine (DeliveryExecutor.executeWithResilience_settles executor _
          (deliveryIdOf_ne_empty job) underway destination).mono ?_
        intro outcome after concluded
        exact ⟨after, concluded, rfl⟩
    | enter => exact ⟨noted, ⟨rfl, rfl⟩, rfl⟩
    | addLatency latencyMs => exact ⟨noted, ⟨rfl, rfl⟩, rfl⟩
    | countProcessed => exact ⟨noted, ⟨rfl, rfl⟩, rfl⟩
    | countFailed => exact ⟨noted, ⟨rfl, rfl⟩, rfl⟩
    | leave => exact ⟨noted, ⟨rfl, rfl⟩, rfl⟩
  refine ((processJob_reports config job executing).implement sound rfl).mono ?_
  rintro outcome _ ⟨notes, reports, rfl⟩
  exact reports

end JobProcessor

-----------------------------------------------------------------------------------------
-- What is stored
-----------------------------------------------------------------------------------------

/-- Collaborators over the stored status of a delivery: a move that resolves has stored its target,
and nothing else changes what is stored, a move that throws included.
-/
def StoresMoves {σ : Type} (worker : Handler WorkerSignature Thrown σ)
    (stored : σ → Option DeliveryStatus) (id : String)
    : Prop :=
  ∀ call world,
    (∀ other ∈ call.about, other = id)
    → stored (worker call world).2
      = (stored world).map (fun found => (movedTo call (worker call world).1).getD found)

/-- When the reported status is the stored one: the run settled the delivery, and not as a dead
letter of a failed validation, or it changed nothing and the delivery was left as it is reported
before.
-/
def ReportsStored (found : Option DeliveryStatus) (notes : SettlingNotes) : Prop :=
  match found, notes.moved with
  | none, _ => False
  | some _, some .completed | some _, some .scheduledRetry => True
  | some _, some .failedDlq => notes.judged = some .permanent
  | some _, some _ => False
  | some status, none => status = if notes.opened then .scheduledRetry else .failedDlq

/-- The report agrees with what the notes say is stored. -/
theorem reported_eq_iff (found : Option DeliveryStatus) (notes : SettlingNotes)
    : found.map (fun status => notes.moved.getD status) = some notes.reported
      ↔ ReportsStored found notes := by
  unfold ReportsStored
  cases found with
  | none => exact iff_of_false nofun id
  | some status =>
      simp only [Option.map_some, Option.some.injEq]
      unfold SettlingNotes.reported
      cases notes.moved with
      | none => exact .rfl
      | some target =>
          cases target with
          | completed => exact iff_of_true rfl trivial
          | scheduledRetry => exact iff_of_true rfl trivial
          | failedDlq =>
              simp only [Option.getD_some, JobProcessor.failureStatus]
              split
              case isTrue permanent => exact iff_of_true rfl permanent
              case isFalse other => exact iff_of_false nofun other
          | pending => cases notes.opened <;> exact iff_of_false nofun id
          | processing => cases notes.opened <;> exact iff_of_false nofun id

/-- The notes of a run tell what is stored in the end. -/
theorem StoresMoves.honours {σ : Type} {worker : Handler WorkerSignature Thrown σ}
    {stored : σ → Option DeliveryStatus} {id : String} (stores : StoresMoves worker stored id)
    (clock : ∀ world, ∃ time, (worker .now world).1 = .ok time) (found : Option DeliveryStatus)
    : worker.logged.Honours (settlingContract id)
        (fun noted world =>
          noted = SettlingNotes.ofTrace world.2
          ∧ stored world.1 = found.map (fun status => noted.moved.getD status)) := by
  rintro noted world call ⟨rfl, held⟩ about
  have reads : ReadsClock call (worker call world.1).1 := by
    cases call with
    | now => exact clock world.1
    | _ => trivial
  refine ⟨_, ⟨reads, rfl⟩, rfl, ?_⟩
  refine (stores call world.1 about).trans ?_
  rw [held, Option.map_map]
  congr 1
  funext status
  cases moved : movedTo call (worker call world.1).1 with
  | none => simp [Handler.logged, SettlingNotes.enter, moved]
  | some target => simp [Handler.logged, SettlingNotes.enter, moved]

/-- Whatever collaborators answer that store their moves, the status that a call of `processJob`
returns is the stored one exactly if the run ended as said.
-/
theorem StoresMoves.stored_eq_iff {σ : Type} {worker : Handler WorkerSignature Thrown σ}
    {stored : σ → Option DeliveryStatus} (config : ProcessorConfig) (executor : ExecutorConfig)
    (job : Option JobPayload) (clock : ∀ world, ∃ time, (worker .now world).1 = .ok time)
    (stores : StoresMoves worker stored (JobProcessor.deliveryIdOf job))
    (executing : config.executor = true) {world after : σ} {result : JobProcessor.ProcessResult}
    (returned
      : (JobProcessor.processWith config executor job).run worker world = (.ok result, after))
    : stored after = some result.status
      ↔ ReportsStored (stored world)
          (.ofTrace ((JobProcessor.processWith config executor job).trace worker world)) := by
  have begun : stored world = (stored world).map (fun status => Option.none.getD status) :=
    Option.map_id'.symm
  obtain ⟨noted, reports, rfl, held⟩ :=
    (JobProcessor.processWith_reports config executing executor job).trace
      (stores.honours clock (stored world)) ⟨rfl, begun⟩
  rw [returned] at reports held
  rw [held, reports result rfl]
  exact reported_eq_iff _ _

/-- What a wired call answers tells the status it leaves. -/
theorem StoredAnswer.movedTo {id : String} {found after : DeliveryStatus} {call : WorkerCall}
    {result : Settled Thrown call.Result} (answered : StoredAnswer id found call result after)
    : after = (movedTo call result).getD found := by
  have moves {target : DeliveryStatus} {result : Settled Thrown Unit}
      (moved : MayMove found target result after)
      : after
        = ((match result with
            | .ok _ => some target
            | .error _ => none) : Option DeliveryStatus).getD found := by
    rcases moved with ⟨⟨error, rfl, _⟩, same⟩ | ⟨⟨value, rfl⟩, _, _, reached⟩
    · exact same
    · exact reached
  cases call with
  | now => exact answered.2
  | findDelivery deliveryId => exact answered.2
  | external call => exact answered
  | markProcessing deliveryId => 
      cases result <;> exact moves answered
  | markCompleted deliveryId latencyMs => cases result <;> exact moves answered
  | scheduleRetry deliveryId delayMs error => cases result <;> exact moves answered
  | moveToDeadLetterQueue deliveryId reason => cases result <;> exact moves answered
  | attemptSuccess deliveryId latencyMs response => exact answered
  | attemptFailure deliveryId latencyMs statusCode error => exact answered

/-- A delivery that is not stored stays so. -/
theorem status?_system_eq_none (env : Infrastructure.Environment) (process : Nat) {id : String}
    (call : Infrastructure.SystemCall) (world : Infrastructure.World)
    (missing : world.status? id = none)
    : (Infrastructure.system env process call world).2.status? id = none := by
  have absent : world.delivery? id = none := Option.map_eq_none_iff.mp missing
  have unchanged {after : Infrastructure.World} (same : after.deliveries = world.deliveries)
      : after.status? id = none := by
    rw [Infrastructure.World.status?, Infrastructure.World.delivery?, same]
    exact missing
  cases update : call.isUpdate with
  | false => exact unchanged (Infrastructure.deliveries_system env process world update)
  | true =>
      cases call with
      | database call =>
          cases call with
          | deliveryUpdate other data =>
              rcases Infrastructure.delivery?_system_update env process world other data with
                ⟨_, same⟩ | ⟨row, changed, found, _, _, looked⟩
              · exact unchanged same
              · have different : id ≠ other := by
                  rintro rfl
                  cases absent.symm.trans found
                rw [Infrastructure.World.status?, looked, if_neg different, absent]
                rfl
          | _ => cases update
      | _ => cases update

/-- The wired worker, with or without faults of the database. -/
def wiredWorker (env : Infrastructure.Environment) (process : Nat) (production logger : Bool)
    : Handler WorkerSignature Thrown Infrastructure.World :=
  Program.implementing (S := WorkerSignature) (workerParts production logger).methods
    (Infrastructure.system env process)

/-- A wired worker stores its moves. -/
theorem storesMoves_wiredWorker (env : Infrastructure.Environment) (process : Nat)
    (production logger : Bool) (id : String)
    : StoresMoves (wiredWorker env process production logger) (fun world => world.status? id) id := by
  intro call world about
  dsimp only
  cases held : world.status? id with
  | none =>
      let missing (after : Infrastructure.World) : Prop := after.status? id = none
      have step (op : Infrastructure.SystemCall) (before : Infrastructure.World)
          : missing before → missing (Infrastructure.system env process op before).2 :=
        status?_system_eq_none env process op before
      have kept
          : missing
              (((workerParts production logger).methods call).run
                (Infrastructure.system env process) world).2 :=
        Program.run_preserves step held
      exact kept
  | some found =>
      obtain ⟨after, answered, kept⟩ :=
        (workerParts_stored production logger id found call about).run
          (system_honours_stored env process id) held
      refine kept.trans ?_
      rw [answered.movedTo]
      rfl

/-- Whatever the database and the outside world answer, the status that a call of `processJob` returns
is the one its executor leaves stored exactly if the run ended as said.
-/
theorem reports_stored_iff (env : Infrastructure.Environment) (process : Nat)
    (production logger : Bool) (config : ProcessorConfig) (executor : ExecutorConfig)
    (job : Option JobPayload) (executing : config.executor = true)
    {world after : Infrastructure.World} {result : JobProcessor.ProcessResult}
    (returned
      : (JobProcessor.processWith config executor job).run
          (wiredWorker env process production logger) world
        = (.ok result, after))
    : after.status? (JobProcessor.deliveryIdOf job) = some result.status
      ↔ ReportsStored (world.status? (JobProcessor.deliveryIdOf job))
          (.ofTrace ((JobProcessor.processWith config executor job).trace
            (wiredWorker env process production logger) world)) :=
  (storesMoves_wiredWorker env process production logger _).stored_eq_iff config executor job
    (fun _ => ⟨_, rfl⟩) executing returned

/-- What becomes of a job for a pending delivery, with a breaker that is open or not. -/
def processedBehind (isOpen : Bool)
    : Settled Thrown JobProcessor.ProcessResult × Infrastructure.World :=
  (JobProcessor.processWith ⟨false, true, true⟩
      { ExecutorConfig.bare with circuitBreaker := true }
      (some { id := some "delivery", deliveryId := none, data := none })).run
    (wiredWorker (.answering (breakerAnswers isOpen)) 0 true true)
    (.ofDelivery (.fresh .pending))

/-- A delivery that is taken is stored as it is returned. -/
theorem reports_stored_completed
    : ∃ result,
        (processedBehind false).1 = .ok result
        ∧ (processedBehind false).2.status? "delivery" = some result.status := by
  let completed : JobProcessor.ProcessResult := ⟨"delivery", .completed, .nullish⟩
  have returned : processedBehind false = (.ok completed, (processedBehind false).2) := rfl
  refine ⟨completed, rfl, ?_⟩
  exact (reports_stored_iff (.answering (breakerAnswers false)) 0 true true ⟨false, true, true⟩
    { ExecutorConfig.bare with circuitBreaker := true }
    (some { id := some "delivery", deliveryId := none, data := none }) rfl returned).mpr trivial

/-- An open breaker leaves the delivery claimed, and it is returned as a scheduled retry. -/
theorem retry_reported_of_claimed
    : (processedBehind true).1.map JobProcessor.ProcessResult.status = .ok .scheduledRetry
      ∧ (processedBehind true).2.status? "delivery" = some .processing :=
  ⟨rfl, rfl⟩

end QueueForge.Worker
