import QueueForge.Domain.DeliveryStatus
import QueueForge.Worker.DeliveryExecutor

/-! `JobProcessor`: a queued job becomes a delivery run, and the counters of the processor follow it.
-/

namespace QueueForge.Worker

open QueueForge.Async QueueForge.Js QueueForge.Domain

/-- The data of a queued job, as far as the processor reads it. -/
structure PayloadData where
  deliveryId : Option String
  id : Option String
  taskResultId : Option String
  destination : Option Infrastructure.Destination
  otherMembers : Bool

/-- A queued job, as far as the processor reads it. -/
structure JobPayload where
  id : Option String
  deliveryId : Option String
  data : Option PayloadData

/-- `Object.keys(job.data).length === 0`. -/
def PayloadData.isEmpty (data : PayloadData) : Bool :=
  data.deliveryId.isNone && data.id.isNone && data.taskResultId.isNone
  && data.destination.isNone && !data.otherMembers

/-- The optional parts of a processor. -/
structure ProcessorConfig where
  findOne : Bool
  executor : Bool
  logger : Bool

/-- The fields of a processor. -/
structure JobProcessor where
  isStarted : Bool := false
  isStopped : Bool := false
  jobsProcessedCount : Nat := 0
  jobsFailedCount : Nat := 0
  totalLatencyMs : Int := 0
  activeJobsCount : Int := 0

/-- What a call of `processJob` awaits, reads and counts. -/
inductive JobCall where
  | validate (job : Option JobPayload)
  | now
  | enter
  | findOne (deliveryId : String)
  | execute (deliveryId : String) (destination : Option Infrastructure.Destination)
  | addLatency (latencyMs : Int)
  | countProcessed
  | countFailed
  | leave

abbrev JobCall.Result : JobCall → Type
  | now => Int
  | execute _ _ => ExecutionResult
  | _ => Unit

abbrev JobSignature : Signature where
  Op := JobCall
  Result := JobCall.Result

abbrev JobProgram (α : Type) : Type := Program JobSignature Thrown α

def awaitJob (call : JobCall) : JobProgram call.Result :=
  Program.perform (S := JobSignature) call

namespace JobProcessor

structure ProcessResult where
  deliveryId : String
  status : DeliveryStatus
  error : Thrown

structure WorkerStats where
  jobsProcessed : Nat
  jobsFailed : Nat
  averageLatency : Int
  activeJobs : Int

variable (processor : JobProcessor)

def isRunning : Bool :=
  processor.isStarted && !processor.isStopped

def start : JobProcessor :=
  if processor.isStarted then processor
  else { processor with isStarted := true, isStopped := false }

def stop : JobProcessor :=
  if processor.isStopped then processor
  else { processor with isStopped := true, isStarted := false }

def getStats : WorkerStats :=
  let total := processor.jobsProcessedCount + processor.jobsFailedCount
  {
    jobsProcessed := processor.jobsProcessedCount
    jobsFailed := processor.jobsFailedCount
    averageLatency := if total > 0 then processor.totalLatencyMs / total else 0
    activeJobs := processor.activeJobsCount
  }

/-- What a call does to the fields. -/
def count : JobCall → JobProcessor
  | .enter => { processor with activeJobsCount := processor.activeJobsCount + 1 }
  | .addLatency latencyMs =>
      { processor with totalLatencyMs := processor.totalLatencyMs + latencyMs }
  | .countProcessed => { processor with jobsProcessedCount := processor.jobsProcessedCount + 1 }
  | .countFailed => { processor with jobsFailedCount := processor.jobsFailedCount + 1 }
  | .leave => { processor with activeJobsCount := max 0 (processor.activeJobsCount - 1) }
  | _ => processor

@[simp] theorem count_isStopped (call : JobCall)
    : (processor.count call).isStopped = processor.isStopped := by
  cases call <;> rfl

/-- No call but `enter` makes a job active. -/
theorem count_idle {processor : JobProcessor} {call : JobCall} (idle : processor.activeJobsCount = 0)
    (quiet : call ≠ .enter)
    : (processor.count call).activeJobsCount = 0 := by
  cases call with
  | enter => exact absurd rfl quiet
  | leave =>
      simp only [count, idle]
      decide
  | _ => exact idle

@[simp] theorem stop_activeJobsCount : processor.stop.activeJobsCount = processor.activeJobsCount := by
  unfold stop
  split <;> rfl

/-- A job names something it is about, and its data, if it has any, are not empty. -/
def validate (job : Option JobPayload) : Except Thrown Unit :=
  let data := job.bind JobPayload.data
  let named :=
    orString (job.bind JobPayload.id) (orString (job.bind JobPayload.deliveryId)
      (orString (data.bind PayloadData.deliveryId) (orString (data.bind PayloadData.id)
        (orString (data.bind PayloadData.taskResultId) none))))
  if named.isNone then
    .error (newError "Invalid job payload format")
  else if data.any PayloadData.isEmpty then
    .error (newError "Job payload data cannot be empty object")
  else
    .ok ()

/-- The delivery a job is about. -/
def deliveryIdOf (job : Option JobPayload) : String :=
  let data := job.bind JobPayload.data
  (orString (data.bind PayloadData.deliveryId)
    (orString (data.bind PayloadData.id) (orString (job.bind JobPayload.id) none))).getD "unknown"

/-- A disjunction of texts is not empty if its last part is not. -/
theorem orString_ne_some_empty {left right : Option String} (filled : right ≠ some "")
    : orString left right ≠ some "" := by
  unfold orString
  split
  case h_1 => exact filled
  case h_2 nonempty => exact fun same => nonempty (Option.some.inj same)
  case h_3 => exact filled

/-- It is named, be it as unknown. -/
theorem deliveryIdOf_ne_empty (job : Option JobPayload) : deliveryIdOf job ≠ "" := by
  have named
      : ∀ {text : Option String}, text ≠ some "" → text.getD "unknown" ≠ "" := by
    rintro (_ | text) filled
    · exact nofun
    · exact fun empty => filled (congrArg some empty)
  exact named (orString_ne_some_empty (orString_ne_some_empty (orString_ne_some_empty nofun)))

section
variable (config : ProcessorConfig) (start : Int) (deliveryId : String)

/-- The status of a delivery whose executor reports a failure, as its error category has it. -/
def failureStatus (errorCategory : Option ErrorCategory) : DeliveryStatus :=
  if errorCategory = some .permanent then .failedDlq else .scheduledRetry

/-- Run the executor. Without one the job counts as successful. -/
def runExecutor (destination : Option Infrastructure.Destination) : JobProgram ExecutionResult :=
  if config.executor then
    awaitJob (.execute deliveryId destination)
  else
    pure {
      success := true
      statusCode := none
      latencyMs := 10
      error := .nullish
      errorCategory := none
    }

/-- Count the outcome and report it. -/
def conclude (result : ExecutionResult) : JobProgram ProcessResult := do
  let now ← awaitJob .now
  awaitJob (.addLatency (now - start))
  if result.success then
    awaitJob .countProcessed
    pure {
      deliveryId := deliveryId
      status := .completed
      error := .nullish
    }
  else
    awaitJob .countFailed
    pure {
      deliveryId := deliveryId
      status := failureStatus result.errorCategory
      error := result.error
    }

/-- The body of the `try` block. -/
def attempt (destination : Option Infrastructure.Destination) : JobProgram ProcessResult := do
  if config.findOne then
    awaitJob (.findOne deliveryId)
  let result ← runExecutor config deliveryId destination
  conclude start deliveryId result

/-- The `catch` block. Logging an exception that is nullish throws in turn. -/
def onException (err : Thrown) : JobProgram ProcessResult := do
  awaitJob .countFailed
  let now ← awaitJob .now
  awaitJob (.addLatency (now - start))
  if config.logger ∧ err = .nullish then
    throw (newTypeError "Cannot read properties of undefined (reading 'message')")
  else
    pure {
      deliveryId := deliveryId
      status := .failedDlq
      error := err
    }

end

/-- Processes a BullMQ job payload. -/
def processJob (config : ProcessorConfig) (job : Option JobPayload) : JobProgram ProcessResult := do
  awaitJob (.validate job)
  let start ← awaitJob .now
  awaitJob .enter
  let deliveryId := deliveryIdOf job
  let destination := (job.bind JobPayload.data).bind PayloadData.destination
  let body :=
    tryCatch (attempt config start deliveryId destination)
      (onException config start deliveryId)
  body.finallyRun (awaitJob .leave)

end JobProcessor

end QueueForge.Worker
