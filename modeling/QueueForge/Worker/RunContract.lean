import QueueForge.Domain.DeliveryStatus
import QueueForge.Worker.Wiring

/-! What an executor run may assume of a state machine whose store works.
The phase of the contract is the stored status of the delivery with the few facts about
the other answers that decide how a run ends.
-/

namespace QueueForge.Worker

open QueueForge.Async QueueForge.Js QueueForge.Domain QueueForge.Infrastructure

/-- A run so far: the stored status, whether the breaker was reported open, and whether a
failure was met that the classifier does not retry.
-/
structure RunState where
  status : DeliveryStatus
  opened : Bool := false
  failed : Bool := false

/-- The circuit breaker reports to be open. -/
def reportsOpen : (call : ExternalCall) → Settled Thrown call.Result → Bool
  | .isOpen _, .ok open_ => open_
  | _, _ => false

/-- A failure of the protected execution that the classifier does not retry: a transmission
that is answered unsuccessfully or rejected, or a rejected preparation of one.
-/
def failsForGood : (call : ExternalCall) → Settled Thrown call.Result → Bool
  | .execute _ _, .ok (some res) =>
      !res.success
      && !(ErrorClassifier.classify (DeliveryExecutor.responseError res)
        res.statusCode).retryable
  | .execute _ _, .error err => !(ErrorClassifier.classify err).retryable
  | .acquire _, .error err => !(ErrorClassifier.classify err).retryable
  | .createConnector _, .error err => !(ErrorClassifier.classify err).retryable
  | .findResult _, .error err => !(ErrorClassifier.classify err).retryable
  | _, _ => false

/-- Take note of an answer of a collaborator. -/
def RunState.note (run : RunState) (call : ExternalCall) (result : Settled Thrown call.Result)
    : RunState := {
  run with
  opened := run.opened || reportsOpen call result
  failed := run.failed || failsForGood call result
}

/-- The answer of a state machine to a move: a move the table rejects throws; an admitted
one is stored if the store can write the target, and else throws a server error.
-/
def Moved (writes : DeliveryStatus → Bool) (run : RunState) (target : DeliveryStatus)
    (result : Settled Thrown Unit) (after : RunState)
    : Prop :=
  if admitsTransition run.status target then
    if writes target then
      result = .ok () ∧ after = { run with status := target }
    else
      (∃ error, result = .error (.error error) ∧ error.statusCode = some 500) ∧ after = run
  else
    result = .error (.error (invalidDeliveryStateError run.status target)) ∧ after = run

/-- The contract of a run on the delivery `id`, over a state machine whose store writes the
targets `writes`.
-/
def runContract (id : String) (writes : DeliveryStatus → Bool)
    : Contract WorkerSignature Thrown RunState where
  allows _ call :=
    match call with
    | .findDelivery deliveryId => deliveryId = id
    | .markProcessing deliveryId => deliveryId = id
    | .markCompleted deliveryId _ => deliveryId = id
    | .scheduleRetry deliveryId _ _ => deliveryId = id
    | .moveToDeadLetterQueue deliveryId _ => deliveryId = id
    | _ => True
  answers run call result after :=
    match call with
    | .findDelivery _ =>
        (∃ delivery, result = .ok (some delivery) ∧ delivery.id = id) ∧ after = run
    | .external call => after = run.note call result
    | .markProcessing _ => Moved writes run .processing result after
    | .markCompleted _ _ => Moved writes run .completed result after
    | .scheduleRetry _ _ _ => Moved writes run .scheduledRetry result after
    | .moveToDeadLetterQueue _ _ => Moved writes run .failedDlq result after
    | _ => after = run

section
variable {id : String} {writes : DeliveryStatus → Bool} {run : RunState}

/-- A status that a call changed is one the store writes. -/
theorem status_answered {call : WorkerCall} {result : Settled Thrown call.Result}
    {after : RunState} (answered : (runContract id writes).answers run call result after)
    : after.status = run.status ∨ writes after.status = true := by
  have moved
      : ∀ {target : DeliveryStatus} {result : Settled Thrown Unit},
          Moved writes run target result after
          → after.status = run.status ∨ writes after.status = true := by
    intro target result moved
    unfold Moved at moved
    split at moved
    · split at moved
      · rename_i written
        obtain ⟨_, rfl⟩ := moved
        exact .inr written
      · exact .inl (congrArg RunState.status moved.2)
    · exact .inl (congrArg RunState.status moved.2)
  have unmoved : after = run → after.status = run.status ∨ writes after.status = true :=
    fun same => .inl (congrArg RunState.status same)
  cases call with
  | now => exact unmoved answered
  | findDelivery deliveryId => exact unmoved answered.2
  | external call =>
      obtain rfl : after = run.note call result := answered
      exact .inl rfl
  | markProcessing deliveryId => exact moved answered
  | markCompleted deliveryId latencyMs => exact moved answered
  | scheduleRetry deliveryId delayMs error => exact moved answered
  | moveToDeadLetterQueue deliveryId reason => exact moved answered
  | attemptSuccess deliveryId latencyMs response => exact unmoved answered
  | attemptFailure deliveryId latencyMs statusCode error => exact unmoved answered

/-- What a move owes, in each case of its answer. -/
def Moves (writes : DeliveryStatus → Bool) (run : RunState) (target : DeliveryStatus)
    (post : Settled Thrown Unit → RunState → Prop)
    : Prop :=
  if admitsTransition run.status target then
    if writes target then
      post (.ok ()) { run with status := target }
    else
      ∀ error, error.statusCode = some 500 → post (.error (.error error)) run
  else
    post (.error (.error (invalidDeliveryStateError run.status target))) run

theorem forall_moved {target : DeliveryStatus} {post : Settled Thrown Unit → RunState → Prop}
    : (∀ result after, Moved writes run target result after → post result after)
      ↔ Moves writes run target post := by
  unfold Moved Moves
  by_cases admitted : admitsTransition run.status target = true
  · by_cases written : writes target = true
    · simp [admitted, written]
    · simp only [admitted, written, if_true]
      constructor
      · intro owed error server
        exact owed _ _ ⟨⟨error, rfl, server⟩, rfl⟩
      · intro owed result after answered
        obtain ⟨⟨error, rfl, server⟩, rfl⟩ := answered
        exact owed error server
  · simp [admitted]

@[simp] theorem meets_now_run {post : Settled Thrown Int → RunState → Prop}
    : Program.Meets (α := no_index WorkerCall.now.Result) (runContract id writes) (await .now)
        run post
      ↔ (∀ error, post (.error error) run) ∧ ∀ value, post (.ok value) run := by
  rw [meets_await]
  refine Iff.trans ?_ (Settled.forall (fun result => post result run))
  simp [runContract]

@[simp] theorem meets_findDelivery_run {deliveryId : String}
    {post : Settled Thrown (Option LoadedDelivery) → RunState → Prop}
    : Program.Meets (α := no_index (WorkerCall.findDelivery deliveryId).Result)
        (runContract id writes) (await (.findDelivery deliveryId)) run post
      ↔ deliveryId = id
        ∧ ∀ delivery : LoadedDelivery, delivery.id = id → post (.ok (some delivery)) run := by
  rw [meets_await]
  refine and_congr_right (fun _ => ?_)
  constructor
  · intro owed delivery named
    exact owed _ _ ⟨⟨delivery, rfl, named⟩, rfl⟩
  · intro owed result after answered
    obtain ⟨⟨delivery, rfl, named⟩, rfl⟩ := answered
    exact owed delivery named

@[simp] theorem meets_external_run {call : ExternalCall}
    {post : Settled Thrown call.Result → RunState → Prop}
    : Program.Meets (α := no_index call.Result) (runContract id writes) (awaitExternal call)
        run post
      ↔ (∀ error, post (.error error) (run.note call (.error error)))
        ∧ ∀ value, post (.ok value) (run.note call (.ok value)) := by
  rw [meets_awaitExternal]
  refine Iff.trans ?_ (Settled.forall (fun result => post result (run.note call result)))
  simp [runContract]

@[simp] theorem meets_markProcessing_run {deliveryId : String}
    {post : Settled Thrown Unit → RunState → Prop}
    : Program.Meets (α := no_index (WorkerCall.markProcessing deliveryId).Result)
        (runContract id writes) (await (.markProcessing deliveryId)) run post
      ↔ deliveryId = id ∧ Moves writes run .processing post := by
  rw [meets_await, ← forall_moved]
  rfl

@[simp] theorem meets_markCompleted_run {deliveryId : String} {latencyMs : Int}
    {post : Settled Thrown Unit → RunState → Prop}
    : Program.Meets (α := no_index (WorkerCall.markCompleted deliveryId latencyMs).Result)
        (runContract id writes) (await (.markCompleted deliveryId latencyMs)) run post
      ↔ deliveryId = id ∧ Moves writes run .completed post := by
  rw [meets_await, ← forall_moved]
  rfl

@[simp] theorem meets_scheduleRetry_run {deliveryId : String} {delayMs : Int}
    {error : Thrown} {post : Settled Thrown Unit → RunState → Prop}
    : Program.Meets (α := no_index (WorkerCall.scheduleRetry deliveryId delayMs error).Result)
        (runContract id writes) (await (.scheduleRetry deliveryId delayMs error)) run post
      ↔ deliveryId = id ∧ Moves writes run .scheduledRetry post := by
  rw [meets_await, ← forall_moved]
  rfl

@[simp] theorem meets_moveToDeadLetterQueue_run {deliveryId : String} {reason : Value}
    {post : Settled Thrown Unit → RunState → Prop}
    : Program.Meets (α := no_index (WorkerCall.moveToDeadLetterQueue deliveryId reason).Result)
        (runContract id writes) (await (.moveToDeadLetterQueue deliveryId reason)) run post
      ↔ deliveryId = id ∧ Moves writes run .failedDlq post := by
  rw [meets_await, ← forall_moved]
  rfl

@[simp] theorem meets_attemptSuccess_run {deliveryId : String} {latencyMs : Int}
    {response : Value} {post : Settled Thrown Unit → RunState → Prop}
    : Program.Meets (α := no_index (WorkerCall.attemptSuccess deliveryId latencyMs response).Result)
        (runContract id writes) (await (.attemptSuccess deliveryId latencyMs response)) run post
      ↔ (∀ error, post (.error error) run) ∧ ∀ value, post (.ok value) run := by
  rw [meets_await]
  refine Iff.trans ?_ (Settled.forall (fun result => post result run))
  simp [runContract]

@[simp] theorem meets_attemptFailure_run {deliveryId : String} {latencyMs : Int}
    {statusCode : Option Int} {error : Thrown}
    {post : Settled Thrown Unit → RunState → Prop}
    : Program.Meets
        (α := no_index (WorkerCall.attemptFailure deliveryId latencyMs statusCode error).Result)
        (runContract id writes) (await (.attemptFailure deliveryId latencyMs statusCode error))
        run post
      ↔ (∀ error, post (.error error) run) ∧ ∀ value, post (.ok value) run := by
  rw [meets_await]
  refine Iff.trans ?_ (Settled.forall (fun result => post result run))
  simp [runContract]

end

/-- The breaker was reported open in a run. -/
def reportedOpen (trace : List (Answered WorkerSignature Thrown)) : Bool :=
  trace.any (fun answered =>
    match answered with
    | ⟨.external call, result⟩ => reportsOpen call result
    | _ => false)

/-- A failure was met in a run that the classifier does not retry. -/
def metFailure (trace : List (Answered WorkerSignature Thrown)) : Bool :=
  trace.any (fun answered =>
    match answered with
    | ⟨.external call, result⟩ => failsForGood call result
    | _ => false)

section
variable {S : Signature} {σ : Type}

/-- The run so far, as the stored status and the trace tell it. -/
def Follows (status : σ → String → Option DeliveryStatus) (id : String) (run : RunState)
    (world : σ × List (Answered WorkerSignature Thrown))
    : Prop :=
  status world.1 id = some run.status
  ∧ run.opened = reportedOpen world.2
  ∧ run.failed = metFailure world.2

/-- A program that touches no stored status, whatever it settles with. -/
def Keeps {α : Type} (lower : Handler S Thrown σ) (status : σ → String → Option DeliveryStatus)
    (program : Program S Thrown α)
    : Prop :=
  ∀ world id, status (program.run lower world).2 id = status world id

/-- A program that moves a stored delivery to the target as the contract of a run has it. -/
def MovesStored (lower : Handler S Thrown σ) (status : σ → String → Option DeliveryStatus)
    (writes : DeliveryStatus → Bool) (id : String) (target : DeliveryStatus)
    (program : Program S Thrown Unit)
    : Prop :=
  ∀ world found,
    status world id = some found
    → ∃ next,
        Moved writes { status := found } target (program.run lower world).1 next
        ∧ status (program.run lower world).2 id = some next.status

/-- Parts under which the calls of a run do what its contract says to the stored statuses.
-/
structure RunParts (parts : WorkerParts S) (lower : Handler S Thrown σ)
    (status : σ → String → Option DeliveryStatus) (writes : DeliveryStatus → Bool)
    : Prop where
  finds
    : ∀ world id found,
        status world id = some found
        → ∃ delivery after,
            (parts.findDelivery id).run lower world = (.ok (some delivery), after)
            ∧ delivery.id = id
            ∧ ∀ other, status after other = status world other
  clock : Keeps lower status parts.clock
  external : ∀ call, Keeps lower status (parts.external call)
  attemptSuccess
    : ∀ id latencyMs response, Keeps lower status (parts.attemptSuccess id latencyMs response)
  attemptFailure
    : ∀ id latencyMs statusCode error,
        Keeps lower status (parts.attemptFailure id latencyMs statusCode error)
  markProcessing
    : ∀ id, MovesStored lower status writes id .processing (parts.methods (.markProcessing id))
  markCompleted
    : ∀ id latencyMs,
        MovesStored lower status writes id .completed
          (parts.methods (.markCompleted id latencyMs))
  scheduleRetry
    : ∀ id delayMs error,
        MovesStored lower status writes id .scheduledRetry
          (parts.methods (.scheduleRetry id delayMs error))
  moveToDeadLetterQueue
    : ∀ id reason,
        MovesStored lower status writes id .failedDlq
          (parts.methods (.moveToDeadLetterQueue id reason))

/-- A move changes the status of a run only. -/
theorem MovesStored.follow {lower : Handler S Thrown σ}
    {status : σ → String → Option DeliveryStatus} {writes : DeliveryStatus → Bool}
    {id : String} {target : DeliveryStatus} {program : Program S Thrown Unit}
    (moves : MovesStored lower status writes id target program) {world : σ} {run : RunState}
    (stored : status world id = some run.status)
    : ∃ next,
        Moved writes run target (program.run lower world).1 next
        ∧ status (program.run lower world).2 id = some next.status
        ∧ next.opened = run.opened
        ∧ next.failed = run.failed := by
  obtain ⟨next, moved, kept⟩ := moves world run.status stored
  unfold Moved at moved ⊢
  by_cases admitted : admitsTransition run.status target = true
  · by_cases written : writes target = true
    · simp only [admitted, written, if_true] at moved ⊢
      obtain ⟨returned, rfl⟩ := moved
      exact ⟨_, ⟨returned, rfl⟩, kept, rfl, rfl⟩
    · simp only [admitted, written, if_true] at moved ⊢
      obtain ⟨failed, rfl⟩ := moved
      exact ⟨run, ⟨failed, rfl⟩, kept, rfl, rfl⟩
  · simp only [admitted] at moved ⊢
    obtain ⟨rejected, rfl⟩ := moved
    exact ⟨run, ⟨rejected, rfl⟩, kept, rfl, rfl⟩

/-- Such parts honour the contract of a run, by cases on the call. -/
theorem RunParts.honours {parts : WorkerParts S} {lower : Handler S Thrown σ}
    {status : σ → String → Option DeliveryStatus} {writes : DeliveryStatus → Bool}
    (working : RunParts parts lower status writes) (id : String)
    : (Program.implementing (S := WorkerSignature) parts.methods lower).logged.Honours
        (runContract id writes) (Follows status id) := by
  intro run world call related allowed
  obtain ⟨stored, opened, failed⟩ := related
  cases call with
  | now => exact ⟨run, rfl, (working.clock world.1 id).trans stored, opened, failed⟩
  | findDelivery deliveryId =>
      obtain rfl : deliveryId = id := allowed
      obtain ⟨delivery, after, found, named, kept⟩ :=
        working.finds world.1 deliveryId run.status stored
      refine ⟨run, ⟨⟨delivery, congrArg Prod.fst found, named⟩, rfl⟩, ?_, opened, failed⟩
      have left : ((parts.findDelivery deliveryId).run lower world.1).2 = after :=
        congrArg Prod.snd found
      exact (congrArg (status · deliveryId) left).trans ((kept deliveryId).trans stored)
  | external call =>
      refine ⟨_, rfl, (working.external call world.1 id).trans stored, ?_, ?_⟩
      · rw [reportedOpen, Handler.logged, List.any_cons, Bool.or_comm]
        exact congrArg (· || _) opened
      · rw [metFailure, Handler.logged, List.any_cons, Bool.or_comm]
        exact congrArg (· || _) failed
  | markProcessing deliveryId =>
      obtain rfl : deliveryId = id := allowed
      obtain ⟨next, moved, kept, same, still⟩ :=
        (working.markProcessing deliveryId).follow stored
      exact ⟨next, moved, kept, same.trans opened, still.trans failed⟩
  | markCompleted deliveryId latencyMs =>
      obtain rfl : deliveryId = id := allowed
      obtain ⟨next, moved, kept, same, still⟩ :=
        (working.markCompleted deliveryId latencyMs).follow stored
      exact ⟨next, moved, kept, same.trans opened, still.trans failed⟩
  | scheduleRetry deliveryId delayMs error =>
      obtain rfl : deliveryId = id := allowed
      obtain ⟨next, moved, kept, same, still⟩ :=
        (working.scheduleRetry deliveryId delayMs error).follow stored
      exact ⟨next, moved, kept, same.trans opened, still.trans failed⟩
  | moveToDeadLetterQueue deliveryId reason =>
      obtain rfl : deliveryId = id := allowed
      obtain ⟨next, moved, kept, same, still⟩ :=
        (working.moveToDeadLetterQueue deliveryId reason).follow stored
      exact ⟨next, moved, kept, same.trans opened, still.trans failed⟩
  | attemptSuccess deliveryId latencyMs response =>
      exact ⟨run, rfl, (working.attemptSuccess _ _ _ world.1 id).trans stored, opened, failed⟩
  | attemptFailure deliveryId latencyMs statusCode error =>
      exact ⟨run, rfl, (working.attemptFailure _ _ _ _ world.1 id).trans stored, opened,
        failed⟩

end

end QueueForge.Worker
