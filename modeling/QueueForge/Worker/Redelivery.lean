import QueueForge.Worker.Transmissions
import QueueForge.Worker.WorkingStore

/-! Runs of the wired worker one after the other, as a queue redelivers their jobs.
A finished delivery stays finished, but only an answer that ends a run early keeps the run
from transmitting it again.
-/

namespace QueueForge.Worker

open QueueForge.Async QueueForge.Js QueueForge.Domain QueueForge.Infrastructure

/-- The environment and the settings the worker module is started with. -/
structure WorkerSystem where
  env : Environment
  production : Bool
  logger : Bool

/-- One job: the process that takes it, and the executor call it makes. -/
structure WorkerRun where
  process : Nat
  config : ExecutorConfig
  deliveryOrId : DeliveryArgument
  destinationArg : Option Infrastructure.Destination

namespace WorkerSystem

variable (system : WorkerSystem)

/-- The handler the calls of an executor run are answered by. -/
def handler (process : Nat) : Handler WorkerSignature Thrown World :=
  Program.implementing (S := WorkerSignature)
    (workerParts system.production system.logger).methods
    (Infrastructure.system system.env process)

/-- What a run settles with, and the world it leaves. -/
def perform (run : WorkerRun) (world : World) : Settled Thrown ExecutionResult × World :=
  ((workerParts system.production system.logger).execute run.config run.deliveryOrId
    run.destinationArg).run (Infrastructure.system system.env run.process) world

/-- The calls of a run. -/
def trace (run : WorkerRun) (world : World) : List (Answered WorkerSignature Thrown) :=
  (DeliveryExecutor.executeWithResilience run.config run.deliveryOrId
    run.destinationArg).trace (system.handler run.process) world

/-- The world after some runs. -/
def performAll (runs : List WorkerRun) (world : World) : World :=
  runs.foldl (fun world run => (system.perform run world).2) world

end WorkerSystem

/-- The delivery is stored as COMPLETED or FAILED_DLQ. -/
def Finished (id : String) (world : World) : Prop :=
  ∃ status, world.status? id = some status ∧ status.isFinal = true

/-- Once the delivery is finished, no later run transmits it. -/
def FinishedStaysSilent (system : WorkerSystem) (id : String) (runs : List WorkerRun)
    (world : World)
    : Prop :=
  ∀ earlier between run later,
    runs = earlier ++ between ++ run :: later
    → Finished id (system.performAll earlier world)
    → transmissions (system.trace run (system.performAll (earlier ++ between) world)) = 0

section
variable {id : String}

/-- No answer reopens a finished delivery, and none buries one. -/
theorem storedAnswer_final {found after : DeliveryStatus} {call : WorkerCall}
    {result : Settled Thrown call.Result} (answered : StoredAnswer id found call result after)
    (final : found.isFinal = true)
    : after = found := by
  have moved
      : ∀ {target : DeliveryStatus} {result : Settled Thrown Unit},
          MayMove found target result after → after = found := by
    intro target result moved
    rcases moved with ⟨_, kept⟩ | ⟨_, admitted, _, rfl⟩
    · exact kept
    · exact admitsTransition_final final admitted
  cases call with
  | now => exact answered.2
  | findDelivery deliveryId => exact answered.2
  | external call => exact answered
  | markProcessing deliveryId => exact moved answered
  | markCompleted deliveryId latencyMs => exact moved answered
  | scheduleRetry deliveryId delayMs error => exact moved answered
  | moveToDeadLetterQueue deliveryId reason => exact moved answered
  | attemptSuccess deliveryId latencyMs response => exact answered
  | attemptFailure deliveryId latencyMs statusCode error => exact answered

theorem storedAnswer_unburied {found after : DeliveryStatus} {call : WorkerCall}
    {result : Settled Thrown call.Result} (answered : StoredAnswer id found call result after)
    (unburied : found ≠ .failedDlq)
    : after ≠ .failedDlq := by
  have kept : after = found → after ≠ .failedDlq := fun same => same ▸ unburied
  have moved
      : ∀ {target : DeliveryStatus} {result : Settled Thrown Unit},
          MayMove found target result after → after ≠ .failedDlq := by
    intro target result moved
    rcases moved with ⟨_, same⟩ | ⟨_, _, stored, rfl⟩
    · exact kept same
    · exact stored
  cases call with
  | now => exact kept answered.2
  | findDelivery deliveryId => exact kept answered.2
  | external call => exact kept answered
  | markProcessing deliveryId => exact moved answered
  | markCompleted deliveryId latencyMs => exact moved answered
  | scheduleRetry deliveryId delayMs error => exact moved answered
  | moveToDeadLetterQueue deliveryId reason => exact moved answered
  | attemptSuccess deliveryId latencyMs response => exact kept answered
  | attemptFailure deliveryId latencyMs statusCode error => exact kept answered

/-- Every run on the delivery, from what was stored: how often it transmits, and that it
keeps what no answer changes.
-/
theorem perform_follows (system : WorkerSystem) (run : WorkerRun)
    (named : DeliveryExecutor.argumentId run.deliveryOrId = id) {world : World} {found : DeliveryStatus}
    (stored : world.status? id = some found) (holds : DeliveryStatus → Prop)
    (kept
      : ∀ {found after} {call : WorkerCall} {result : Settled Thrown call.Result},
          StoredAnswer id found call result after → holds found → holds after)
    (start : holds found)
    : ∃ left,
        (system.perform run world).2.status? id = some left
        ∧ holds left
        ∧ (transmissions (system.trace run world) = 0
          ↔ ¬DeliveryExecutor.Loadable run.config run.deliveryOrId
            ∨ stopped (system.trace run world) = true) := by
  subst named
  have honoured := workerParts_honours system.env run.process system.production system.logger
    (DeliveryExecutor.argumentId run.deliveryOrId)
  have followed
      : WiredRun.Follows (DeliveryExecutor.argumentId run.deliveryOrId) { status := found }
          (world, []) :=
    ⟨stored, rfl, rfl⟩
  have sends :=
    (DeliveryExecutor.executeWithResilience_sends run.config run.deliveryOrId
      run.destinationArg found).invariant (fun _ _ _ _ held answered => kept answered.1 held)
      start
  obtain ⟨after, ⟨silent, held⟩, left, sent, stop⟩ := sends.trace honoured followed
  refine ⟨after.status, ?_, held, ?_⟩
  · rw [WorkerSystem.perform, WorkerParts.execute, Program.run_implement]
    exact left
  · rw [sent, stop] at silent
    exact silent

/-- What no answer changes holds after any runs on the delivery, by induction on the runs.
-/
theorem performAll_follows (system : WorkerSystem) (holds : DeliveryStatus → Prop)
    (kept
      : ∀ {found after} {call : WorkerCall} {result : Settled Thrown call.Result},
          StoredAnswer id found call result after → holds found → holds after)
    (runs : List WorkerRun)
    (named : ∀ run ∈ runs, DeliveryExecutor.argumentId run.deliveryOrId = id) {world : World}
    {found : DeliveryStatus} (stored : world.status? id = some found) (start : holds found)
    : ∃ left, (system.performAll runs world).status? id = some left ∧ holds left := by
  induction runs generalizing world found with
  | nil => exact ⟨found, stored, start⟩
  | cons run rest ih =>
      obtain ⟨left, moved, held, _⟩ :=
        perform_follows system run (named run List.mem_cons_self) stored holds kept start
      exact ih (fun other member => named other (List.mem_cons_of_mem run member)) moved held

/-- A finished delivery is still finished after any runs on it. -/
theorem Finished.performAll (system : WorkerSystem) {runs : List WorkerRun}
    (named : ∀ run ∈ runs, DeliveryExecutor.argumentId run.deliveryOrId = id) {world : World}
    (finished : Finished id world)
    : Finished id (system.performAll runs world) := by
  obtain ⟨found, stored, final⟩ := finished
  have kept
      : ∀ {before after} {call : WorkerCall} {result : Settled Thrown call.Result},
          StoredAnswer id before call result after → before.isFinal = true → after.isFinal = true
      := by
    intro before after call result answered isFinal
    rw [storedAnswer_final answered isFinal]
    exact isFinal
  exact performAll_follows system (fun status => status.isFinal = true) kept runs named stored
    final

/-- Along any runs on a delivery, none transmits it once it is finished, exactly if each run
that starts on the finished delivery cannot load it or is stopped before the connector.
-/
theorem finishedStaysSilent_iff (system : WorkerSystem) (runs : List WorkerRun)
    (named : ∀ run ∈ runs, DeliveryExecutor.argumentId run.deliveryOrId = id) (world : World)
    : FinishedStaysSilent system id runs world
      ↔ ∀ earlier run later,
          runs = earlier ++ run :: later
          → Finished id (system.performAll earlier world)
          → ¬DeliveryExecutor.Loadable run.config run.deliveryOrId
            ∨ stopped (system.trace run (system.performAll earlier world)) = true := by
  have single
      : ∀ {run : WorkerRun} {world : World},
          run ∈ runs
          → Finished id world
          → (transmissions (system.trace run world) = 0
            ↔ ¬DeliveryExecutor.Loadable run.config run.deliveryOrId
              ∨ stopped (system.trace run world) = true) := by
    intro run world member finished
    obtain ⟨found, stored, final⟩ := finished
    obtain ⟨_, _, _, silent⟩ :=
      perform_follows system run (named run member) stored (fun _ => True)
        (fun _ _ => trivial) trivial
    exact silent
  constructor
  · intro silent earlier run later split finished
    have member : run ∈ runs := by
      rw [split]
      exact List.mem_append_right earlier List.mem_cons_self
    have quiet := silent earlier [] run later (by rw [split, List.append_nil]) finished
    rw [List.append_nil] at quiet
    exact (single member finished).mp quiet
  · intro ended earlier between run later split finished
    have member : run ∈ runs := by
      rw [split]
      exact List.mem_append_right _ List.mem_cons_self
    have stillFinished : Finished id (system.performAll (earlier ++ between) world) := by
      have inBetween
          : ∀ other ∈ between, DeliveryExecutor.argumentId other.deliveryOrId = id := by
        intro other inside
        refine named other ?_
        rw [split, List.append_assoc]
        exact List.mem_append_right _ (List.mem_append_left _ inside)
      have resumed := finished.performAll system inBetween
      rw [WorkerSystem.performAll, List.foldl_append]
      exact resumed
    have stop := ended (earlier ++ between) run later split stillFinished
    exact (single member stillFinished).mpr stop

end

/-- A worker system with a working database and the given collaborators. -/
def WorkerSystem.answering (answer : (call : ExternalCall) → Settled Thrown call.Result)
    : WorkerSystem where
  env := .answering answer
  production := true
  logger := true

/-- A job for the delivery of an executor with a circuit breaker. -/
def WorkerRun.breaking : WorkerRun where
  process := 0
  config := { ExecutorConfig.bare with circuitBreaker := true }
  deliveryOrId := .id "delivery"
  destinationArg := none

/-- Behind an open breaker a completed delivery is not transmitted again. -/
theorem finishedStaysSilent_stopped
    : FinishedStaysSilent (.answering (breakerAnswers true)) "delivery" [.breaking]
        (World.ofDelivery (.fresh .completed)) := by
  refine (finishedStaysSilent_iff (.answering (breakerAnswers true)) [.breaking] ?_ _).mpr ?_
  · intro run member
    obtain rfl := List.mem_singleton.mp member
    rfl
  · intro earlier run later split _
    cases earlier with
    | nil =>
        obtain ⟨rfl, _⟩ := List.cons.inj split
        exact .inr rfl
    | cons first rest =>
        have empty := (List.cons.inj split).2
        simp at empty

/-- A job that is delivered twice is transmitted twice: the second run finds the delivery
COMPLETED and sends it all the same.
-/
theorem finished_transmitted_again
    : ¬FinishedStaysSilent (.answering (breakerAnswers false)) "delivery"
        [.breaking, .breaking] (World.ofDelivery (.fresh .pending)) := by
  intro silent
  have finished
      : Finished "delivery"
          ((WorkerSystem.answering (breakerAnswers false)).performAll [.breaking]
            (World.ofDelivery (.fresh .pending))) :=
    ⟨.completed, rfl, rfl⟩
  have unsent := silent [.breaking] [] .breaking [] rfl finished
  have sent
      : transmissions ((WorkerSystem.answering (breakerAnswers false)).trace .breaking
          ((WorkerSystem.answering (breakerAnswers false)).performAll ([.breaking] ++ [])
            (World.ofDelivery (.fresh .pending)))) = 1 :=
    rfl
  exact nomatch sent.symm.trans unsent

end QueueForge.Worker
