import QueueForge.Worker.ActiveJobs

/-! `GracefulShutdown`: a signal stops the processor and ends the process. Jobs that are in flight go
on in the meantime, and nobody waits for them.
-/

namespace QueueForge.Worker

open QueueForge.Async QueueForge.Js

/-- What the calls for jobs and the signal handlers of a worker process await and do. -/
inductive ProcessCall where
  | job (call : JobCall)
  | beginShutdown
  | stop
  | stopHeartbeat
  | exit

abbrev ProcessCall.Result : ProcessCall → Type
  | job call => call.Result
  | beginShutdown => Bool
  | _ => Unit

abbrev ProcessSignature : Signature where
  Op := ProcessCall
  Result := ProcessCall.Result

abbrev ProcessProgram (α : Type) : Type := Program ProcessSignature Thrown α

def awaitProcess (call : ProcessCall) : ProcessProgram call.Result :=
  Program.perform (S := ProcessSignature) call

inductive Signal where
  | sigint
  | sigterm
deriving DecidableEq

namespace GracefulShutdown

variable (heartbeat logger : Bool)

/-- Log an error of the sequence. One that is nullish throws in turn. -/
def onError (err : Thrown) : ProcessProgram Unit :=
  if logger ∧ err = .nullish then
    throw (newTypeError "Cannot read properties of undefined (reading 'message')")
  else
    pure ()

/-- Begins graceful shutdown process. -/
def initiate : ProcessProgram Unit := do
  let shuttingDown ← awaitProcess .beginShutdown
  if shuttingDown then
    pure ()
  else
    let sequence : ProcessProgram Unit := do
      awaitProcess .stop
      if heartbeat then
        awaitProcess .stopHeartbeat
    tryCatch sequence (onError logger)

/-- The listener of a signal. It does not wait for the jobs. -/
def handleSignal : ProcessProgram Unit := do
  initiate heartbeat logger
  awaitProcess .exit

end GracefulShutdown

/-- A worker process, with the accepted calls that have not begun their delivery, and the deliveries
that were begun after `stop` returned.
-/
structure WorkerProcess (ι σ : Type) where
  jobs : JobsWorld ι σ
  shuttingDown : Bool := false
  exited : Bool := false
  undelivered : Finset ι := ∅
  late : List ι := []

namespace WorkerProcess

variable {ι σ : Type} [DecidableEq ι]

/-- Take note of a call for a job. -/
def note (world : WorkerProcess ι σ) (caller : ι) (jobs : JobsWorld ι σ) (call : JobCall)
    : WorkerProcess ι σ := {
  world with
  jobs := jobs
  undelivered :=
    match call with
    | .validate job =>
        match JobProcessor.validate job with
        | .ok _ => insert caller world.undelivered
        | .error _ => world.undelivered
    | .execute _ _ | .countProcessed | .countFailed => world.undelivered.erase caller
    | _ => world.undelivered
  late :=
    match call with
    | .execute _ _ =>
        if world.jobs.processor.isStopped then caller :: world.late else world.late
    | _ => world.late
}

/-- The process serves the calls for jobs and the handlers of signals. -/
def serve (environments : ι → Handler JobSignature Thrown σ)
    (heartbeat : σ → Settled Thrown Unit × σ)
    : ι ⊕ Signal → Handler ProcessSignature Thrown (WorkerProcess ι σ)
  | .inl caller, .job call, world =>
      let answered := JobsWorld.handle environments caller call world.jobs
      (answered.1, world.note caller answered.2 call)
  -- no listener takes a job
  | .inr _, .job _, world => (.error .nullish, world)
  | _, .beginShutdown, world => (.ok world.shuttingDown, { world with shuttingDown := true })
  | _, .stop, world =>
      (.ok (), {
        world with jobs := { world.jobs with processor := world.jobs.processor.stop }
      })
  | _, .stopHeartbeat, world =>
      let answered := heartbeat world.jobs.environment
      (answered.1, { world with jobs := { world.jobs with environment := answered.2 } })
  | _, .exit, world => (.ok (), { world with exited := true })

/-- The jobs are drained: the process ends with no active job, and no delivery begins once the
processor is stopped.
-/
structure Drains (world : WorkerProcess ι σ) : Prop where
  exit : world.exited = true → world.jobs.processor.getStats.activeJobs = 0
  late : world.late = []

/-- When a call leaves the jobs drained. No valid job arrives once the shutdown is begun; it begins
when no accepted call has its delivery still before it; and the last thing a listener waits for, be
it the heartbeat, `stop` or nothing, comes when no job is active.
-/
def Permits (heartbeat : Bool) (world : WorkerProcess ι σ) : ProcessCall → Prop
  | .job (.validate job) =>
      world.shuttingDown = true → (JobProcessor.validate job).isOk = false
  | .beginShutdown =>
      if world.shuttingDown then world.jobs.processor.getStats.activeJobs = 0
      else world.undelivered = ∅
  | .stop => heartbeat = true ∨ world.jobs.processor.getStats.activeJobs = 0
  | .stopHeartbeat => world.jobs.processor.getStats.activeJobs = 0
  | _ => True

instance (heartbeat : Bool) (world : WorkerProcess ι σ) (call : ProcessCall)
    : Decidable (world.Permits heartbeat call) :=
  match call with
  | .job (.validate job) =>
      inferInstanceAs
        (Decidable (world.shuttingDown = true → (JobProcessor.validate job).isOk = false))
  | .beginShutdown =>
      inferInstanceAs
        (Decidable
          (if world.shuttingDown then world.jobs.processor.getStats.activeJobs = 0
          else world.undelivered = ∅))
  | .stop =>
      inferInstanceAs
        (Decidable (heartbeat = true ∨ world.jobs.processor.getStats.activeJobs = 0))
  | .stopHeartbeat =>
      inferInstanceAs (Decidable (world.jobs.processor.getStats.activeJobs = 0))
  | .job .now | .job .enter | .job (.findOne _) | .job (.execute _ _) | .job (.addLatency _)
  | .job .countProcessed | .job .countFailed | .job .leave | .exit => inferInstanceAs (Decidable True)

end WorkerProcess

-----------------------------------------------------------------------------------------
-- The stages of the calls and of the listeners
-----------------------------------------------------------------------------------------

/-- How far a listener has come. -/
inductive ListenerStage where
  | idle
  | begun
  | stopped
  | ready
  | gone
deriving DecidableEq

/-- The listener waits for nothing any more. -/
def ListenerStage.ending : ListenerStage → Bool
  | ready | gone => true
  | _ => false

/-- The order in which a listener shuts down. -/
def listenerContract (heartbeat : Bool) : Contract ProcessSignature Thrown ListenerStage where
  allows stage call :=
    match call with
    | .job _ => False
    | .beginShutdown => stage = .idle
    | .stop => stage = .begun
    | .stopHeartbeat => stage = .stopped
    | .exit => stage = .ready
  answers _ call result after :=
    match call with
    | .job _ => False
    | .beginShutdown => ∃ underway, result = .ok underway ∧ after = if underway then .ready else .begun
    | .stop => result = .ok () ∧ after = if heartbeat then .stopped else .ready
    | .stopHeartbeat => after = .ready
    | .exit => after = .gone

/-- The order in which a call for a job counts, as one of the process. -/
def callContract (job : Option JobPayload) : Contract ProcessSignature Thrown JobStage where
  allows stage call :=
    match call with
    | .job call => stage.allows job call
    | _ => False
  answers stage call result after :=
    match call, result with
    | .job call, result => CountsReliably call result ∧ after = stage.next call result
    | _, _ => False

/-- A call of `processJob` in the process, whose report is dropped. -/
def jobCalls (config : ProcessorConfig) (job : Option JobPayload) : ProcessProgram Unit :=
  ((JobProcessor.processJob config job).implement (fun call => awaitProcess (.job call))).bind
    (fun _ => .done ())

theorem jobCalls_meets (config : ProcessorConfig) (job : Option JobPayload)
    : (jobCalls config job).Meets (callContract job) .waiting (fun _ _ => True) := by
  have sound
      : ∀ (stage below : JobStage) (call : JobCall),
          stage = below
          → (jobContract job).allows stage call
          → (awaitProcess (.job call)).Meets (callContract job) below
              (fun result after =>
                ∃ next, (jobContract job).answers stage call result next ∧ next = after) := by
    rintro stage _ call rfl allowed
    refine Program.meets_perform.mpr ⟨allowed, ?_⟩
    intro result after answered
    exact ⟨after, answered, rfl⟩
  rw [jobCalls, Program.meets_bind]
  refine ((JobProcessor.processJob_counts config job).implement sound rfl).mono ?_
  rintro (error | report) _ _
  · trivial
  · trivial

theorem handleSignal_meets (heartbeat logger : Bool)
    : (GracefulShutdown.handleSignal heartbeat logger).Meets (listenerContract heartbeat) .idle
        (fun _ _ => True) := by
  have logs (err : Thrown)
      : (GracefulShutdown.onError logger err).Meets (listenerContract heartbeat) .ready
          (fun _ after => after = .ready) := by
    rw [GracefulShutdown.onError, Program.meets_ite]
    exact ⟨fun _ => rfl, fun _ => rfl⟩
  have initiated
      : (GracefulShutdown.initiate heartbeat logger).Meets (listenerContract heartbeat) .idle
          (fun _ after => after = .ready) := by
    simp only [GracefulShutdown.initiate, Program.bind_eq, Program.meets_bind, Program.meets_ite]
    refine Program.meets_perform.mpr ⟨rfl, ?_⟩
    rintro _ _ ⟨underway, rfl, rfl⟩
    refine ⟨fun already => ?_, fun first => ?_⟩
    · rw [if_pos already]
      rfl
    · rw [if_neg first, Program.tryCatch_eq, Program.meets_catchError, Program.meets_bind]
      refine Program.meets_perform.mpr ⟨rfl, ?_⟩
      rintro _ _ ⟨rfl, rfl⟩
      cases heartbeat with
      | false => rfl
      | true =>
          refine Program.meets_perform.mpr ⟨rfl, ?_⟩
          rintro (error | _) _ rfl
          · exact logs error
          · rfl
  rw [GracefulShutdown.handleSignal, Program.bind_eq, Program.meets_bind]
  refine initiated.mono ?_
  rintro (error | _) _ rfl
  · trivial
  · exact Program.meets_perform.mpr ⟨rfl, fun _ _ _ => trivial⟩

-----------------------------------------------------------------------------------------
-- What holds while the process runs
-----------------------------------------------------------------------------------------

/-- The stages of a process of the worker. -/
abbrev ProcessStage {ι : Type} : ι ⊕ Signal → Type
  | .inl _ => JobStage
  | .inr _ => ListenerStage

/-- Where they start. -/
def initialStages {ι : Type} : (caller : ι ⊕ Signal) → ProcessStage caller
  | .inl _ => JobStage.waiting
  | .inr _ => ListenerStage.idle

/-- What each process of the worker owes. -/
def processContract {ι : Type} (heartbeat : Bool) (jobs : ι → Option JobPayload)
    : (caller : ι ⊕ Signal) → Contract ProcessSignature Thrown (ProcessStage caller)
  | .inl caller => callContract (jobs caller)
  | .inr _ => listenerContract heartbeat

/-- The call was accepted, and its delivery is still before it. -/
def JobStage.undelivered : JobStage → Bool
  | accepted | running => true
  | _ => false

namespace WorkerProcess

variable {ι σ : Type} [DecidableEq ι]

/-- A drained process, with the stages of its calls and its listeners. -/
structure Draining (stages : (caller : ι ⊕ Signal) → ProcessStage caller)
    (world : WorkerProcess ι σ) : Prop where
  begun : ∀ signal, stages (.inr signal) ≠ ListenerStage.idle → world.shuttingDown = true
  undelivered
    : ∀ i, i ∈ world.undelivered ↔ JobStage.undelivered (stages (.inl i)) = true
  delivered : world.shuttingDown = true → world.undelivered = ∅
  stopped : world.jobs.processor.isStopped = true → world.shuttingDown = true
  ending
    : ∀ signal,
        ListenerStage.ending (stages (.inr signal)) = true
        → world.jobs.processor.activeJobsCount = 0
  exit : world.exited = true → world.jobs.processor.activeJobsCount = 0
  late : world.late = []

section
variable {stages : (caller : ι ⊕ Signal) → ProcessStage caller} {world : WorkerProcess ι σ}
  {caller : ι}

/-- The calls before their delivery, after one of them moved on. -/
theorem mem_iff_update_call {marked : ι → Prop} (after : ι → Prop) {next : JobStage}
    (before : ∀ i, marked i ↔ JobStage.undelivered (stages (.inl i)) = true)
    (here : after caller ↔ next.undelivered = true)
    (others : ∀ i, i ≠ caller → (after i ↔ marked i)) (i : ι)
    : after i ↔ JobStage.undelivered (Function.update stages (.inl caller) next (.inl i)) = true := by
  by_cases same : i = caller
  · subst same
    rw [Function.update_self]
    exact here
  · rw [Function.update_of_ne (fun equal => same (Sum.inl.inj equal))]
    exact (others i same).trans (before i)

/-- A listener is where it was after a call for a job. -/
theorem update_call_inr {next : JobStage} (signal : Signal)
    : Function.update stages (.inl caller) next (.inr signal) = stages (.inr signal) :=
  have other : (Sum.inr signal : ι ⊕ Signal) ≠ .inl caller := nofun
  Function.update_of_ne other next stages

omit [DecidableEq ι] in
/-- No accepted call has its delivery before it during a shutdown. -/
theorem Draining.not_shuttingDown (draining : Draining stages world)
    (before : JobStage.undelivered (stages (.inl caller)) = true)
    : world.shuttingDown = false := by
  cases shutting : world.shuttingDown with
  | false => rfl
  | true =>
      have member := (draining.undelivered caller).mpr before
      rw [draining.delivered shutting] at member
      exact absurd member (Finset.notMem_empty caller)

/-- What the notes say of the deliveries that are still to begin, by cases on the call. -/
theorem Draining.undelivered_note (draining : Draining stages world) {job : Option JobPayload}
    {call : JobCall} {result : Settled Thrown call.Result}
    (allowed : JobStage.allows job (stages (.inl caller)) call)
    (reliable : CountsReliably call result) (jobs : JobsWorld ι σ) (i : ι)
    : i ∈ (world.note caller jobs call).undelivered
      ↔ JobStage.undelivered
          (Function.update stages (.inl caller)
            (JobStage.next (stages (.inl caller)) call result) (.inl i))
        = true := by
  have kept (next : JobStage)
      (same : next.undelivered = JobStage.undelivered (stages (.inl caller))) :=
    mem_iff_update_call (· ∈ world.undelivered) draining.undelivered
      ((draining.undelivered caller).trans (by rw [same])) (fun _ _ => .rfl) i
  have erased (next : JobStage) (delivered : next.undelivered = false) :=
    mem_iff_update_call (· ∈ world.undelivered.erase caller) draining.undelivered
      (iff_of_false (Finset.notMem_erase caller _) (Bool.eq_false_iff.mp delivered))
      (fun i other => Finset.mem_erase.trans (and_iff_right other)) i
  cases call with
  | validate job =>
      obtain ⟨waiting, rfl⟩ := allowed
      obtain rfl : result = JobProcessor.validate job := reliable
      simp only [note]
      cases JobProcessor.validate job with
      | error error => exact kept _ rfl
      | ok value =>
          refine mem_iff_update_call (· ∈ insert caller world.undelivered) draining.undelivered
            (iff_of_true (Finset.mem_insert_self _ _) rfl) (fun i other => ?_) i
          exact Finset.mem_insert.trans (or_iff_right other)
  | now => exact kept _ rfl
  | enter =>
      have accepted : stages (.inl caller) = JobStage.accepted := allowed
      exact kept _ (by rw [accepted]; rfl)
  | findOne deliveryId => exact kept _ rfl
  | execute deliveryId destination => exact erased _ rfl
  | addLatency latencyMs => exact kept _ rfl
  | countProcessed => exact erased _ rfl
  | countFailed => exact erased _ rfl
  | leave =>
      have decided : stages (.inl caller) = JobStage.decided := allowed
      exact kept _ (by rw [decided]; rfl)

omit [DecidableEq ι] in
/-- Whoever waits for nothing any more has begun the shutdown. -/
theorem Draining.begun_of_ending (draining : Draining stages world) {signal : Signal}
    (ending : ListenerStage.ending (stages (.inr signal)) = true)
    : world.shuttingDown = true := by
  refine draining.begun signal (fun idle => ?_)
  rw [idle] at ending
  exact nomatch ending

/-- A call for a job keeps a process drained, by cases on the call. -/
theorem Draining.note (draining : Draining stages world) {heartbeat : Bool}
    {job : Option JobPayload} {call : JobCall} {result : Settled Thrown call.Result}
    (allowed : JobStage.allows job (stages (.inl caller)) call)
    (reliable : CountsReliably call result) (permitted : world.Permits heartbeat (.job call))
    (running : world.exited = false) (environment : σ)
    : Draining
        (Function.update stages (.inl caller) (JobStage.next (stages (.inl caller)) call result))
        (world.note caller (world.jobs.note caller environment call) call) where
  begun signal moved := draining.begun signal (by rwa [update_call_inr] at moved)
  undelivered := draining.undelivered_note allowed reliable _
  delivered shutting := by
    have none : world.undelivered = ∅ := draining.delivered shutting
    have erased : world.undelivered.erase caller = ∅ := by rw [none, Finset.erase_empty]
    cases call with
    | validate job =>
        have invalid := permitted shutting
        simp only [WorkerProcess.note]
        cases validated : JobProcessor.validate job with
        | error error => exact none
        | ok value =>
            rw [validated] at invalid
            exact nomatch invalid
    | execute deliveryId destination => exact erased
    | countProcessed => exact erased
    | countFailed => exact erased
    | now => exact none
    | enter => exact none
    | findOne deliveryId => exact none
    | addLatency latencyMs => exact none
    | leave => exact none
  stopped halted := draining.stopped ((JobProcessor.count_isStopped _ call).symm.trans halted)
  ending signal ending := by
    rw [update_call_inr] at ending
    refine JobProcessor.count_idle (draining.ending signal ending) ?_
    rintro rfl
    have accepted : stages (.inl caller) = JobStage.accepted := allowed
    have pending : JobStage.undelivered (stages (.inl caller)) = true := by
      rw [accepted]
      rfl
    have before := draining.not_shuttingDown pending
    exact Bool.noConfusion (before.symm.trans (draining.begun_of_ending ending))
  exit exited := Bool.noConfusion (running.symm.trans exited)
  late := by
    cases call with
    | execute deliveryId destination =>
        have here : stages (.inl caller) = JobStage.running := allowed
        have pending : JobStage.undelivered (stages (.inl caller)) = true := by
          rw [here]
          rfl
        have before := draining.not_shuttingDown pending
        have working : ¬world.jobs.processor.isStopped = true := fun halted =>
          Bool.noConfusion (before.symm.trans (draining.stopped halted))
        exact (if_neg working).trans draining.late
    | _ => exact draining.late

end

section
variable {stages : (caller : ι ⊕ Signal) → ProcessStage caller} {world : WorkerProcess ι σ}
  {signal : Signal}

/-- A call for a job is where it was after a listener moved on. -/
theorem update_signal_inl {next : ListenerStage} (i : ι)
    : Function.update stages (.inr signal) next (.inl i) = stages (.inl i) :=
  have other : (Sum.inl i : ι ⊕ Signal) ≠ .inr signal := nofun
  Function.update_of_ne other next stages

/-- A listener that moves on during a shutdown keeps a process drained, if it ends its wait and the
process only while no job is active.
-/
theorem Draining.of_signal (draining : Draining stages world) {next : ListenerStage}
    {after : WorkerProcess ι σ} (shutting : after.shuttingDown = true)
    (delivered : world.undelivered = ∅) (sameUndelivered : after.undelivered = world.undelivered)
    (sameActive
      : after.jobs.processor.activeJobsCount = world.jobs.processor.activeJobsCount)
    (sameLate : after.late = world.late)
    (ends : next.ending = true → world.jobs.processor.activeJobsCount = 0)
    (exits : after.exited = true → world.jobs.processor.activeJobsCount = 0)
    : Draining (Function.update stages (.inr signal) next) after where
  begun _ _ := shutting
  undelivered i := by
    rw [update_signal_inl, sameUndelivered]
    exact draining.undelivered i
  delivered _ := sameUndelivered.trans delivered
  stopped _ := shutting
  ending other ended := by
    rw [sameActive]
    by_cases same : other = signal
    · subst same
      rw [Function.update_self] at ended
      exact ends ended
    · rw [Function.update_of_ne (fun equal => same (Sum.inr.inj equal))] at ended
      exact draining.ending other ended
  exit exited := sameActive.trans (exits exited)
  late := sameLate.trans draining.late

/-- Every call of a listener is answered as its contract has it, and keeps a process drained, by cases
on the call.
-/
theorem Draining.serve_signal (draining : Draining stages world) {heartbeat : Bool}
    {call : ProcessCall}
    (allowed : (listenerContract heartbeat).allows (stages (.inr signal)) call)
    (permitted : world.Permits heartbeat call) (running : world.exited = false)
    (environments : ι → Handler JobSignature Thrown σ) (beat : σ → Settled Thrown Unit × σ)
    : ∃ next,
        (listenerContract heartbeat).answers (stages (.inr signal)) call
          (serve environments beat (.inr signal) call world).1 next
        ∧ Draining (Function.update stages (.inr signal) next)
            (serve environments beat (.inr signal) call world).2 := by
  have unexited {idle : Prop} (exited : world.exited = true) : idle :=
    Bool.noConfusion (running.symm.trans exited)
  have shutting_of {stage : ListenerStage} (here : stages (.inr signal) = stage)
      (moved : stage ≠ .idle)
      : world.shuttingDown = true :=
    draining.begun signal (here ▸ moved)
  cases call with
  | job call => exact allowed.elim
  | beginShutdown =>
      refine ⟨_, ⟨world.shuttingDown, rfl, rfl⟩, ?_⟩
      cases shutting : world.shuttingDown with
      | true =>
          have idle : world.jobs.processor.getStats.activeJobs = 0 := by
            simpa only [Permits, shutting, if_true] using permitted
          exact draining.of_signal rfl (draining.delivered shutting) rfl rfl rfl (fun _ => idle)
            unexited
      | false =>
          have delivered : world.undelivered = ∅ := by
            simpa only [Permits, shutting, Bool.false_eq_true, if_false] using permitted
          exact draining.of_signal rfl delivered rfl rfl rfl nofun unexited
  | stop =>
      have shutting := shutting_of allowed nofun
      refine ⟨_, ⟨rfl, rfl⟩, ?_⟩
      refine draining.of_signal shutting (draining.delivered shutting) rfl
        (JobProcessor.stop_activeJobsCount _) rfl (fun ends => ?_) unexited
      rcases permitted with waits | idle
      · rw [if_pos waits] at ends
        exact nomatch ends
      · exact idle
  | stopHeartbeat =>
      have shutting := shutting_of allowed nofun
      refine ⟨.ready, rfl, ?_⟩
      exact draining.of_signal shutting (draining.delivered shutting) rfl rfl rfl
        (fun _ => permitted) unexited
  | exit =>
      have ready : stages (.inr signal) = ListenerStage.ready := allowed
      have shutting := shutting_of ready nofun
      have idle := draining.ending signal (by rw [ready]; rfl)
      refine ⟨.gone, rfl, ?_⟩
      exact draining.of_signal shutting (draining.delivered shutting) rfl rfl rfl (fun _ => idle)
        (fun _ => idle)

end

end WorkerProcess

section
variable {ι σ : Type} [DecidableEq ι]

/-- A started processor with some jobs to come, and the listeners of both signals. -/
def workerWithListeners (config : ProcessorConfig) (heartbeat logger : Bool)
    (jobs : ι → Option JobPayload) (environment : σ)
    : Configuration ProcessSignature Thrown (ι ⊕ Signal) Unit (WorkerProcess ι σ) where
  process
    | .inl i => jobCalls config (jobs i)
    | .inr _ => GracefulShutdown.handleSignal heartbeat logger
  world := { jobs := { processor := JobProcessor.start {}, environment := environment } }

/-- In every interleaving of jobs and signals whose calls come when they leave the jobs drained, the
process ends with no active job, and no delivery begins once `stop` has returned.
-/
theorem shutdown_drains (config : ProcessorConfig) (heartbeat logger : Bool)
    (jobs : ι → Option JobPayload) (environments : ι → Handler JobSignature Thrown σ)
    (beat : σ → Settled Thrown Unit × σ) (environment : σ)
    {current : Configuration ProcessSignature Thrown (ι ⊕ Signal) Unit (WorkerProcess ι σ)}
    (reached
      : Configuration.Reachable (WorkerProcess.serve environments beat)
          (fun world _ call => world.exited = false ∧ world.Permits heartbeat call)
          (workerWithListeners config heartbeat logger jobs environment) current)
    : current.world.Drains := by
  have kept
      : ∀ (stages : (caller : ι ⊕ Signal) → ProcessStage caller) (world : WorkerProcess ι σ)
          (caller : ι ⊕ Signal) (call : ProcessCall),
          WorkerProcess.Draining stages world
          → (processContract heartbeat jobs caller).allows (stages caller) call
          → world.exited = false ∧ world.Permits heartbeat call
          → ∃ next,
              (processContract heartbeat jobs caller).answers (stages caller) call
                (WorkerProcess.serve environments beat caller call world).1 next
              ∧ WorkerProcess.Draining (Function.update stages caller next)
                  (WorkerProcess.serve environments beat caller call world).2 := by
    rintro stages world (caller | signal) call draining allowed ⟨running, permitted⟩
    · cases call with
      | job call =>
          have reliable := JobsWorld.handle_reliable environments caller call world.jobs
          obtain ⟨left, noted⟩ := JobsWorld.handle_note environments caller call world.jobs
          refine ⟨_, ⟨reliable, rfl⟩, ?_⟩
          simp only [WorkerProcess.serve, noted]
          exact draining.note allowed reliable permitted running left
      | beginShutdown => exact allowed.elim
      | stop => exact allowed.elim
      | stopHeartbeat => exact allowed.elim
      | exit => exact allowed.elim
    · exact draining.serve_signal allowed permitted running environments beat
  have initially
      : WorkerProcess.Draining initialStages
          (workerWithListeners config heartbeat logger jobs environment).world := by
    refine {
      begun := fun _ moved => absurd rfl moved
      undelivered := fun i => iff_of_false (Finset.notMem_empty i) nofun
      delivered := nofun
      stopped := nofun
      ending := nofun
      exit := nofun
      late := rfl
    }
  have met
      : ∀ caller,
          ((workerWithListeners config heartbeat logger jobs environment).process caller).Meets
            (processContract heartbeat jobs caller) (initialStages caller) (fun _ _ => True) := by
    rintro (i | signal)
    · exact jobCalls_meets config (jobs i)
    · exact handleSignal_meets heartbeat logger
  obtain ⟨stages, _, draining⟩ := reached.invariant kept met initially
  exact ⟨draining.exit, draining.late⟩

end

/-- A worker with one job and a heartbeat, after a schedule. -/
def afterSchedule (schedule : List (Unit ⊕ Signal))
    : Configuration ProcessSignature Thrown (Unit ⊕ Signal) Unit (WorkerProcess Unit Unit) :=
  (workerWithListeners ⟨false, true, true⟩ true true (fun _ => jobFor "first") ()).follow
    (WorkerProcess.serve (fun _ => promptEnvironment) (fun environment => (.ok (), environment)))
    schedule

/-- A delivery is under way when the signal comes, and its job leaves before the heartbeat stops. -/
def drainedSchedule : List (Unit ⊕ Signal) := [
  .inl (), .inl (), .inl (), .inl (),
  .inr .sigterm, .inr .sigterm,
  .inl (), .inl (), .inl (), .inl (),
  .inr .sigterm, .inr .sigterm
]

theorem shutdown_drains_delivery
    : (afterSchedule drainedSchedule).world.Drains
      ∧ (afterSchedule drainedSchedule).world.exited = true
      ∧ (afterSchedule drainedSchedule).world.jobs.processor.getStats.jobsProcessed = 1 :=
  ⟨shutdown_drains _ true _ _ (fun _ => promptEnvironment) (fun environment => (.ok (), environment))
      () (Configuration.reachable_follow drainedSchedule _ (by decide +kernel)),
    by decide +kernel, by decide +kernel⟩

/-- The process ends in the middle of a delivery. -/
def abandonedSchedule : List (Unit ⊕ Signal) := [
  .inl (), .inl (), .inl (), .inl (),
  .inr .sigterm, .inr .sigterm, .inr .sigterm, .inr .sigterm
]

/-- A job arrives while the heartbeat is being stopped, and is delivered. -/
def lateSchedule : List (Unit ⊕ Signal) := [
  .inr .sigterm, .inr .sigterm,
  .inl (), .inl (), .inl (), .inl ()
]

/-- Whatever the moments of the calls, neither half holds. -/
theorem shutdown_abandons_jobs
    : (Configuration.Reachable
          (WorkerProcess.serve (fun _ => promptEnvironment) (fun environment => (.ok (), environment)))
          (fun world _ _ => world.exited = false) (afterSchedule []) (afterSchedule abandonedSchedule)
        ∧ (afterSchedule abandonedSchedule).world.exited = true
        ∧ (afterSchedule abandonedSchedule).world.jobs.processor.getStats.activeJobs = 1)
      ∧ Configuration.Reachable
          (WorkerProcess.serve (fun _ => promptEnvironment) (fun environment => (.ok (), environment)))
          (fun world _ _ => world.exited = false) (afterSchedule []) (afterSchedule lateSchedule)
        ∧ (afterSchedule lateSchedule).world.late = [()] :=
  ⟨⟨Configuration.reachable_follow abandonedSchedule _ (by decide +kernel), by decide +kernel,
      by decide +kernel⟩,
    Configuration.reachable_follow lateSchedule _ (by decide +kernel), by decide +kernel⟩

end QueueForge.Worker
