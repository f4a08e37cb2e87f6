import QueueForge.Async.Cleanup
import QueueForge.Daemon.DueRetries

/-! `processScheduledRetries` with everything it calls: the tracer, the log and the metrics as well as
the deliveries and the queue. The flag that keeps runs apart is set first and cleared at the end of
the `finally` block, after the span was ended.
-/

namespace QueueForge.Daemon

open QueueForge.Async QueueForge.Js QueueForge.Domain QueueForge.Infrastructure QueueForge.Queue

/-- A span, by what its methods throw when they are called. -/
structure Span where
  recordException : Option Thrown := none
  ended : Option Thrown := none

/-- A value that is asked for a span: it has no function `startSpan`, or the function throws, or
returns a span or `null`.
-/
inductive SpanFactory where
  | without
  | throws (error : Thrown)
  | returns (span : Option Span)

/-- What was passed as the tracer: a value with a function `getTracer`, which may throw, or one that
is used as the factory. A value that is missing is a factory without `startSpan`.
-/
inductive TracerValue where
  | provider (getTracer : Settled Thrown SpanFactory)
  | itself (factory : SpanFactory)

/-- What a call that may throw settles with. -/
def throwIf (error : Option Thrown) : Settled Thrown Unit :=
  match error with
  | some error => .error error
  | none => .ok ()

namespace TracerValue

def otelTracer : TracerValue → Settled Thrown SpanFactory
  | provider getTracer => getTracer
  | itself factory => .ok factory

def startSpan (tracer : TracerValue) : Settled Thrown (Option Span) := do
  match ← tracer.otelTracer with
  | .without => return none
  | .throws error => throw error
  | .returns span => return span

end TracerValue

inductive LogLevel where
  | debug
  | info
  | error
deriving DecidableEq

/-- The calls of `processScheduledRetries`. -/
inductive ProcessorCall where
  | processing
  | setProcessing (value : Bool)
  | now
  | daemon (call : DaemonCall)
  | log (level : LogLevel) (message : String)
  | getMeter
  | countProcessed (count : Nat)

abbrev ProcessorCall.Result : ProcessorCall → Type
  | processing => Bool
  | setProcessing _ => Unit
  | now => Int
  | daemon call => call.Result
  | log _ _ => Unit
  | getMeter => Bool
  | countProcessed _ => Unit

abbrev ProcessorSignature : Signature where
  Op := ProcessorCall
  Result := ProcessorCall.Result

abbrev ProcessorProgram (α : Type) : Type := Program ProcessorSignature Thrown α

/-- Await a call of the processor. -/
def awaitProcessor (call : ProcessorCall) : ProcessorProgram call.Result :=
  Program.perform (S := ProcessorSignature) call

@[simp] theorem run_awaitProcessor {σ : Type} {handler : Handler ProcessorSignature Thrown σ}
    {call : ProcessorCall} {world : σ}
    : Program.run (α := no_index call.Result) handler (awaitProcessor call) world
      = handler call world :=
  Program.run_perform

namespace DelayedQueueProcessor

/-- Move a delivery back to PENDING in Postgres, and re-enqueue it into the main queue. -/
def processDelivery (delivery : StoredDelivery) : ProcessorProgram Unit := do
  awaitProcessor (.daemon (.updateDeliveryStatus delivery.id .pending))
  awaitProcessor (.daemon (.add .main (jobName delivery.taskResultId delivery.destinationId)
    delivery.retryJobData {}))
  awaitProcessor (.log .debug ("[DelayedQueueProcessor] Enqueued retry job for result "
    ++ delivery.taskResultId ++ " to main queue."))

/-- Process the transitions of the retries that were found. -/
def processTransitions (overdueDeliveries : List StoredDelivery) : ProcessorProgram Unit := do
  let count := overdueDeliveries.length
  if count > 0 then
    awaitProcessor (.log .info ("[DelayedQueueProcessor] Found " ++ toString count
      ++ " overdue retry jobs. Processing transitions..."))
    Program.forEach processDelivery overdueDeliveries
    if ← awaitProcessor .getMeter then
      awaitProcessor (.countProcessed count)

/-- The body of the `try`: how it settles, and the count by then. -/
def tryBody : ProcessorProgram (Nat × Settled Thrown Unit) := do
  let now ← awaitProcessor .now
  let overdueRes ← Program.settle (awaitProcessor (.daemon (.findOverdue now)))
  match overdueRes with
  | .error err => return (0, .error err)
  | .ok overdueDeliveries =>
      let settled ← Program.settle (processTransitions overdueDeliveries)
      return (overdueDeliveries.length, settled)

/-- `span.recordException(err)`. -/
def recordException : Option Span → Settled Thrown Unit
  | some span => throwIf span.recordException
  | none => .error (newTypeError "Cannot read properties of null (reading 'recordException')")

/-- `span.end()`. -/
def endSpan : Option Span → Settled Thrown Unit
  | some span => throwIf span.ended
  | none => .error (newTypeError "Cannot read properties of null (reading 'end')")

/-- The `try` with its `catch`. -/
def tryCatchBody (span : Option Span) : ProcessorProgram Nat := do
  let (count, settled) ← tryBody
  match settled with
  | .ok () => return count
  | .error _ => do
      Program.ofResult (recordException span)
      awaitProcessor (.log .error "[DelayedQueueProcessor] Failed to execute retry scheduling run")
      return count

/-- The `finally` block. -/
def cleanup (span : Option Span) : ProcessorProgram Unit := do
  Program.ofResult (endSpan span)
  awaitProcessor (.setProcessing false)

/-- Fetches overdue retry jobs, marks them PENDING, and enqueues to main queue. -/
def processScheduledRetries (tracer : TracerValue) : ProcessorProgram Nat := do
  if ← awaitProcessor .processing then
    return 0
  awaitProcessor (.setProcessing true)
  let span ← Program.ofResult tracer.startSpan
  (tryCatchBody span).finallyRun (cleanup span)

end DelayedQueueProcessor

/-- What one call meets: the deliveries, the queue and the clock, what the tracer does, faults of
the log and the metrics, and whether there is a meter.
-/
structure ProcessorEnvironment where
  daemon : DaemonEnvironment
  tracer : TracerValue
  fault : RetryDaemons → ProcessorCall → Option Thrown
  meter : RetryDaemons → Bool

/-- The collaborators of the processor and its flag. -/
def processorSystem (env : ProcessorEnvironment)
    : Handler ProcessorSignature Thrown RetryDaemons
  | .processing, daemons => (.ok daemons.processing, daemons)
  | .setProcessing value, daemons => (.ok (), { daemons with processing := value })
  | .now, daemons => (.ok (env.daemon.clock daemons.world), daemons)
  | .daemon call, daemons =>
      let answered := daemonSystem env.daemon call daemons.world
      (answered.1, { daemons with world := answered.2 })
  | .log level message, daemons => (throwIf (env.fault daemons (.log level message)), daemons)
  | .getMeter, daemons =>
      ((throwIf (env.fault daemons .getMeter)).map (fun _ => env.meter daemons), daemons)
  | .countProcessed count, daemons => (throwIf (env.fault daemons (.countProcessed count)), daemons)

/-- A call of `processScheduledRetries`. -/
def ProcessorEnvironment.call (env : ProcessorEnvironment) (daemons : RetryDaemons)
    : Settled Thrown Nat × RetryDaemons :=
  (DelayedQueueProcessor.processScheduledRetries env.tracer).run (processorSystem env) daemons

-----------------------------------------------------------------------------------------
-- The flag
-----------------------------------------------------------------------------------------

/-- The tracer starts a span or none, without an exception. -/
def TracerValue.StartsSpan (tracer : TracerValue) : Prop :=
  ∃ span, tracer.startSpan = .ok span

/-- The tracer starts a span that can be ended. -/
def TracerValue.EndsSpan (tracer : TracerValue) : Prop :=
  ∃ span : Span, tracer.startSpan = .ok (some span) ∧ span.ended = none

/-- A call that leaves the flag alone. -/
def ProcessorCall.leavesFlag : ProcessorCall → Prop
  | setProcessing _ => False
  | _ => True

section
variable {env : ProcessorEnvironment} {daemons : RetryDaemons} {span : Option Span}

theorem processDelivery_leavesFlag (delivery : StoredDelivery)
    : (DelayedQueueProcessor.processDelivery delivery).Awaits ProcessorCall.leavesFlag :=
  .bind (.perform trivial) (fun _ => .bind (.perform trivial) (fun _ => .perform trivial))

theorem processTransitions_leavesFlag (overdueDeliveries : List StoredDelivery)
    : (DelayedQueueProcessor.processTransitions overdueDeliveries).Awaits
        ProcessorCall.leavesFlag := by
  refine .ite ?_ trivial
  refine .bind (.perform trivial) (fun _ => ?_)
  refine .bind (.forEach processDelivery_leavesFlag overdueDeliveries) (fun _ => ?_)
  refine .bind (.perform trivial) (fun meter => ?_)
  exact .ite (.perform trivial) trivial

theorem tryBody_leavesFlag : DelayedQueueProcessor.tryBody.Awaits ProcessorCall.leavesFlag := by
  refine .bind (.perform trivial) (fun now => ?_)
  refine .bind (.settle (.perform trivial)) (fun overdueRes => ?_)
  cases overdueRes with
  | error error => trivial
  | ok overdueDeliveries =>
      exact .bind (.settle (processTransitions_leavesFlag overdueDeliveries)) (fun _ => trivial)

theorem tryCatchBody_leavesFlag (span : Option Span)
    : (DelayedQueueProcessor.tryCatchBody span).Awaits ProcessorCall.leavesFlag := by
  refine .bind tryBody_leavesFlag (fun ended => ?_)
  obtain ⟨count, settled⟩ := ended
  cases settled with
  | ok _ => trivial
  | error error =>
      exact .bind .ofResult (fun _ => .bind (.perform trivial) (fun _ => trivial))

/-- Whatever fails on the way, the flag is as it was. -/
theorem processing_tryCatchBody
    : ((DelayedQueueProcessor.tryCatchBody span).run (processorSystem env) daemons).2.processing
      = daemons.processing := by
  have kept (call : ProcessorCall) (reached : RetryDaemons) (leaves : call.leavesFlag)
      (same : reached.processing = daemons.processing)
      : (processorSystem env call reached).2.processing = daemons.processing := by
    cases call with
    | setProcessing value => exact leaves.elim
    | _ => exact same
  exact (tryCatchBody_leavesFlag span).run kept rfl

/-- The flag is cleared when the span can be ended. -/
theorem processing_cleanup (set : daemons.processing = true)
    : ((DelayedQueueProcessor.cleanup span).run (processorSystem env) daemons).2.processing = false
      ↔ ∃ started, span = some started ∧ started.ended = none := by
  simp only [DelayedQueueProcessor.cleanup, Program.bind_eq, Program.run_bind,
    Program.run_ofResult]
  cases span with
  | none => simp [DelayedQueueProcessor.endSpan, set]
  | some started =>
      cases ends : started.ended with
      | none => simp [DelayedQueueProcessor.endSpan, throwIf, ends, processorSystem]
      | some error => simp [DelayedQueueProcessor.endSpan, throwIf, ends, set]

/-- A call that finds the flag set returns 0 at once. -/
theorem call_of_processing (set : daemons.processing = true)
    : env.call daemons = (.ok 0, daemons) := by
  simp [ProcessorEnvironment.call, DelayedQueueProcessor.processScheduledRetries, processorSystem,
    set]

/-- A call that finds the flag clear sets it and runs. -/
theorem call_of_idle (idle : daemons.processing = false)
    : env.call daemons
      = match env.tracer.startSpan with
        | .error error => (.error error, { daemons with processing := true })
        | .ok span =>
            ((DelayedQueueProcessor.tryCatchBody span).finallyRun
              (DelayedQueueProcessor.cleanup span)).run (processorSystem env)
              { daemons with processing := true } := by
  simp only [ProcessorEnvironment.call, DelayedQueueProcessor.processScheduledRetries,
    Program.bind_eq, Program.run_bind, run_awaitProcessor, processorSystem, idle,
    Bool.false_eq_true, if_false, Program.run_ofResult]
  cases env.tracer.startSpan <;> rfl

/-- A call leaves the flag clear if and only if it found it clear and its tracer starts a span that
can be ended.
-/
theorem processing_call
    : (env.call daemons).2.processing = false
      ↔ daemons.processing = false ∧ env.tracer.EndsSpan := by
  cases flag : daemons.processing with
  | true => simp [call_of_processing flag, flag]
  | false =>
      rw [call_of_idle flag, TracerValue.EndsSpan]
      cases env.tracer.startSpan with
      | error error => simp
      | ok span =>
          have ended :=
            @processing_cleanup env
              ((DelayedQueueProcessor.tryCatchBody span).run (processorSystem env)
                { daemons with processing := true }).2
              span processing_tryCatchBody
          simp only [Program.run_finallyRun, true_and, Except.ok.injEq]
          rw [← ended]
          rcases (DelayedQueueProcessor.cleanup span).run (processorSystem env)
            ((DelayedQueueProcessor.tryCatchBody span).run (processorSystem env)
              { daemons with processing := true }).2 with ⟨_ | _, _⟩ <;> rfl

-----------------------------------------------------------------------------------------
-- The next call
-----------------------------------------------------------------------------------------

/-- The call with what it is answered in a state. -/
def ProcessorEnvironment.answer (env : ProcessorEnvironment) (call : ProcessorCall)
    (daemons : RetryDaemons)
    : Answered ProcessorSignature Thrown :=
  ⟨call, (processorSystem env call daemons).1⟩

/-- A call scans the retries that are due by its clock. -/
def Scans (env : ProcessorEnvironment) (daemons : RetryDaemons) : Prop :=
  ∃ answered ∈ (DelayedQueueProcessor.processScheduledRetries env.tracer).trace
      (processorSystem env) daemons,
    answered.op = .daemon (.findOverdue (env.daemon.clock daemons.world))

/-- The body reads the clock and then what is due, whatever is done with it. -/
theorem logs_tryCatchBody (log : List (Answered ProcessorSignature Thrown))
    : (DelayedQueueProcessor.tryCatchBody span).Logs (processorSystem env)
        (env.answer (.daemon (.findOverdue (env.daemon.clock daemons.world))) daemons)
        (daemons, log) := by
  have clock
      : (awaitProcessor .now).run (processorSystem env).logged (daemons, log)
        = (.ok (env.daemon.clock daemons.world), daemons, env.answer .now daemons :: log) := by
    rw [run_awaitProcessor]
    rfl
  have found
      : (awaitProcessor (.daemon (.findOverdue (env.daemon.clock daemons.world)))).Logs
          (processorSystem env)
          (env.answer (.daemon (.findOverdue (env.daemon.clock daemons.world))) daemons)
          (daemons, env.answer .now daemons :: log) :=
    Program.logs_perform
  exact Program.Logs.bind (.after clock (.bind (.settle found) _)) _

/-- A call that finds the flag clear and starts a span or none scans. -/
theorem scans_of_idle (idle : daemons.processing = false) (starts : env.tracer.StartsSpan)
    : Scans env daemons := by
  obtain ⟨span, started⟩ := starts
  have guard
      : (awaitProcessor .processing).run (processorSystem env).logged (daemons, [])
        = (.ok false, daemons, [env.answer .processing daemons]) := by
    rw [run_awaitProcessor, ← idle]
    rfl
  have setFlag
      : (awaitProcessor (.setProcessing true)).run (processorSystem env).logged
          (daemons, [env.answer .processing daemons])
        = (.ok (), { daemons with processing := true },
          [env.answer (.setProcessing true) daemons, env.answer .processing daemons]) := by
    rw [run_awaitProcessor]
    rfl
  have spanned
      : (Program.ofResult env.tracer.startSpan).run (processorSystem env).logged
          ({ daemons with processing := true },
            [env.answer (.setProcessing true) daemons, env.answer .processing daemons])
        = (.ok span, { daemons with processing := true },
          [env.answer (.setProcessing true) daemons, env.answer .processing daemons]) := by
    rw [Program.run_ofResult, started]
  exact ⟨_, Program.Logs.after guard (.after setFlag
    (.after spanned (.finallyRun (logs_tryCatchBody _) _))), rfl⟩

/-- A call scans if and only if it finds the flag clear and its tracer does not throw. -/
theorem scans_iff : Scans env daemons ↔ daemons.processing = false ∧ env.tracer.StartsSpan := by
  constructor
  · rintro ⟨answered, logged, scan⟩
    rw [Program.trace, DelayedQueueProcessor.processScheduledRetries] at logged
    simp only [Program.bind_eq, Program.run_bind, run_awaitProcessor, Handler.logged,
      processorSystem] at logged
    cases flag : daemons.processing with
    | true =>
        simp only [flag, if_true, Program.pure_eq, Program.run_done, List.mem_singleton] at logged
        subst logged
        cases scan
    | false =>
        refine ⟨rfl, ?_⟩
        cases started : env.tracer.startSpan with
        | ok span => exact ⟨span, started⟩
        | error error =>
            simp only [flag, Bool.false_eq_true, if_false, Program.run_ofResult, started,
              Program.run_bind] at logged
            rcases List.mem_cons.mp logged with rfl | guard
            · cases scan
            · obtain rfl := List.mem_singleton.mp guard
              cases scan
  · rintro ⟨idle, starts⟩
    exact scans_of_idle idle starts

end

/-- The call after a call of `processScheduledRetries` scans the retries that are due if and only if
the call found the flag clear, its tracer started a span that could be ended, and the tracer of the
next call does not throw.
-/
theorem next_call_scans_iff (env next : ProcessorEnvironment) (daemons : RetryDaemons)
    : Scans next (env.call daemons).2
      ↔ daemons.processing = false ∧ env.tracer.EndsSpan ∧ next.tracer.StartsSpan := by
  rw [scans_iff, processing_call, and_assoc]

/-- A tracer without a span factory, and nothing that fails. -/
def untraced : ProcessorEnvironment where
  daemon := .quiet 0
  tracer := .itself .without
  fault _ _ := none
  meter _ := true

/-- Without a span factory a call enqueues what is due and throws, and the next call returns 0
without a scan.
-/
theorem untraced_call_blocks_next
    : (untraced.call oneDue).1
        = .error (newTypeError "Cannot read properties of null (reading 'end')")
      ∧ (untraced.call (untraced.call oneDue).2).1 = .ok 0
      ∧ ¬Scans untraced (untraced.call oneDue).2 := by
  have stuck : (untraced.call oneDue).2.processing = true := rfl
  refine ⟨rfl, ?_, fun scans => ?_⟩
  · rw [call_of_processing stuck]
  · have cleared := (scans_iff.mp scans).1
    rw [stuck] at cleared
    contradiction

-----------------------------------------------------------------------------------------
-- With a working tracer, log and metrics
-----------------------------------------------------------------------------------------

/-- Neither the log nor the metrics fail, nor does reading the clock. -/
structure ProcessorEnvironment.Quiet (env : ProcessorEnvironment) : Prop where
  telemetry : ∀ daemons call, env.fault daemons call = none
  clock : ∀ world, env.daemon.fault world .now = none

section
variable {env : ProcessorEnvironment} (quiet : env.Quiet) {daemons : RetryDaemons}

/-- What a program of the daemons does to the world. -/
def RetryDaemons.ran {α : Type} (daemons : RetryDaemons) (settled : Settled Thrown α × DaemonWorld)
    : Settled Thrown α × RetryDaemons :=
  (settled.1, { daemons with world := settled.2 })

include quiet

theorem run_log (level : LogLevel) (message : String)
    : processorSystem env (.log level message) daemons = (.ok (), daemons) := by
  rw [processorSystem, quiet.telemetry]
  rfl

theorem run_processDelivery (delivery : StoredDelivery)
    : (DelayedQueueProcessor.processDelivery delivery).run (processorSystem env) daemons
      = daemons.ran
          ((DelayedQueueProcessor.dispatch delivery).run (daemonSystem env.daemon)
            daemons.world) := by
  simp only [DelayedQueueProcessor.processDelivery, DelayedQueueProcessor.dispatch,
    Program.bind_eq, Program.run_bind, run_awaitProcessor, run_awaitDaemon, run_log quiet]
  simp only [processorSystem]
  rcases daemonSystem env.daemon (.updateDeliveryStatus delivery.id .pending) daemons.world
    with ⟨_ | _, marked⟩
  · rfl
  · simp only [RetryDaemons.ran]
    rcases daemonSystem env.daemon
      (.add .main (jobName delivery.taskResultId delivery.destinationId) delivery.retryJobData {})
      marked with ⟨_ | _, added⟩ <;> rfl

/-- Deliveries one after the other, by induction on them. -/
theorem run_processEach (deliveries : List StoredDelivery)
    : (Program.forEach DelayedQueueProcessor.processDelivery deliveries).run (processorSystem env)
        daemons
      = daemons.ran
          ((Program.forEach DelayedQueueProcessor.dispatch deliveries).run
            (daemonSystem env.daemon) daemons.world) := by
  induction deliveries generalizing daemons with
  | nil => rfl
  | cons delivery rest ih =>
      rw [Program.forEach, Program.forEach, Program.run_bind, Program.run_bind,
        run_processDelivery quiet]
      rcases (DelayedQueueProcessor.dispatch delivery).run (daemonSystem env.daemon) daemons.world
        with ⟨_ | _, after⟩
      · rfl
      · exact ih

theorem run_processTransitions (deliveries : List StoredDelivery)
    : (DelayedQueueProcessor.processTransitions deliveries).run (processorSystem env) daemons
      = daemons.ran
          ((Program.forEach DelayedQueueProcessor.dispatch deliveries).run
            (daemonSystem env.daemon) daemons.world) := by
  cases deliveries with
  | nil => rfl
  | cons delivery rest =>
      have found : (delivery :: rest).length > 0 := Nat.succ_pos _
      rw [DelayedQueueProcessor.processTransitions, if_pos found]
      simp only [Program.bind_eq, Program.run_bind, run_awaitProcessor, run_log quiet,
        run_processEach quiet]
      rcases (Program.forEach DelayedQueueProcessor.dispatch (delivery :: rest)).run
        (daemonSystem env.daemon) daemons.world with ⟨_ | _, after⟩
      · rfl
      · simp only [RetryDaemons.ran, processorSystem, quiet.telemetry, throwIf, Except.map]
        cases env.meter { daemons with world := after } with
        | true =>
            simp only [if_true, run_awaitProcessor, processorSystem, quiet.telemetry, throwIf]
        | false => rfl

/-- With a span that records and ends, the body does what the run of the daemon does. -/
theorem run_tryCatchBody {span : Span} (records : span.recordException = none)
    : (DelayedQueueProcessor.tryCatchBody (some span)).run (processorSystem env) daemons
      = daemons.ran
          (DelayedQueueProcessor.processOverdue.run (daemonSystem env.daemon) daemons.world) := by
  have now
      : daemonSystem env.daemon .now daemons.world
        = (.ok (env.daemon.clock daemons.world), daemons.world) := by
    rw [daemonSystem, quiet.clock]
    rfl
  simp only [DelayedQueueProcessor.tryCatchBody, DelayedQueueProcessor.tryBody,
    DelayedQueueProcessor.processOverdue, Program.bind_eq, Program.tryCatch_eq, Program.run_bind,
    Program.run_catchError, Program.run_settle, run_awaitProcessor, run_awaitDaemon, now]
  simp only [processorSystem]
  rcases daemonSystem env.daemon (.findOverdue (env.daemon.clock daemons.world)) daemons.world
    with ⟨error | due, read⟩
  · simp only [Program.pure_eq, Program.run_done, Program.run_bind, Program.run_ofResult,
      DelayedQueueProcessor.recordException, records, throwIf, run_awaitProcessor, run_log quiet]
    rfl
  · simp only [Program.run_bind, Program.run_settle, run_processTransitions quiet]
    rcases (Program.forEach DelayedQueueProcessor.dispatch due).run (daemonSystem env.daemon) read
      with ⟨error | _, after⟩
    · simp only [RetryDaemons.ran, Program.pure_eq, Program.run_done, Program.run_bind,
        Program.run_ofResult, DelayedQueueProcessor.recordException, records, throwIf,
        run_awaitProcessor, run_log quiet]
    · rfl

/-- With a working tracer, log and metrics a call is a run of the daemon. -/
theorem call_of_working {span : Span} (started : env.tracer.startSpan = .ok (some span))
    (records : span.recordException = none) (ends : span.ended = none)
    : env.call daemons = daemons.processScheduledRetries env.daemon true := by
  obtain ⟨world, syncing, processing⟩ := daemons
  cases processing with
  | true => exact call_of_processing rfl
  | false =>
      rw [call_of_idle rfl, started]
      simp only [Program.run_finallyRun, run_tryCatchBody quiet records,
        DelayedQueueProcessor.cleanup, DelayedQueueProcessor.endSpan, throwIf, ends,
        Program.bind_eq, Program.run_bind, Program.run_ofResult, run_awaitProcessor]
      rfl

end

end QueueForge.Daemon
