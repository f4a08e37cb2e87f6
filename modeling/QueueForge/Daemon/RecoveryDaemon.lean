import QueueForge.Daemon.QueueReconstructor

/-! `RecoveryDaemon`: a cycle detects stale deliveries, enqueues pending ones for each of them and
reconstructs the queues. No step of it writes the delivery table.
-/

namespace QueueForge.Daemon

open QueueForge.Async QueueForge.Js QueueForge.Domain QueueForge.Infrastructure QueueForge.Queue

structure StaleJobDetector where
  staleTimeoutMs : Option Int

namespace StaleJobDetector

/-- `config?.staleTimeoutMs || 30000`. -/
def defaultTimeoutMs (detector : StaleJobDetector) : Int :=
  match detector.staleTimeoutMs with
  | some staleTimeoutMs => if staleTimeoutMs = 0 then 30000 else staleTimeoutMs
  | none => 30000

/-- Scans database for deliveries stuck in PROCESSING state without updates within timeoutMs. -/
def detectStale (deps : RecoveryDependencies) (detector : StaleJobDetector)
    : DaemonProgram (List StoredDelivery) := do
  let now ← awaitDaemon .now
  let cutoff := now - detector.defaultTimeoutMs
  tryCatch
    (if deps.findStaleDeliveries then
      awaitDaemon (.findStaleDeliveries cutoff)
    else if deps.findMany then
      awaitDaemon (.findUpdatedBefore cutoff)
    else
      pure [])
    (fun _ => pure [])

end StaleJobDetector

structure RecoveryDaemonDependencies where
  detector : Option StaleJobDetector
  reconstructor : Bool
  dlqMonitor : Bool

/-- What a cycle logs when it is completed. -/
structure RecoveryCycle where
  recovered : Nat
  enqueued : Nat
deriving DecidableEq

namespace RecoveryDaemon

/-- A stored delivery has no `maxRetries` of its own. -/
def maxRetries : Int := 3

/-- Whether a delivery is said to be reset to PENDING. -/
def retriesLeft (delivery : StoredDelivery) : Bool :=
  delivery.retryCount < maxRetries

variable (methods : RecoveryDependencies) (deps : RecoveryDaemonDependencies)

/-- One stale delivery: every exception is logged and dropped. -/
def recover (delivery : StoredDelivery) : DaemonProgram Nat :=
  tryCatch
    (if retriesLeft delivery && deps.reconstructor then do
      let _ ← QueueReconstructor.enqueuePending methods
      pure 1
    else
      pure 1)
    (fun _ => pure 0)

def recoverEach : List StoredDelivery → Nat → DaemonProgram Nat
  | [], recoveredCount => pure recoveredCount
  | delivery :: rest, recoveredCount => do
      let recovered ← recover methods deps delivery
      recoverEach rest (recoveredCount + recovered)

/-- Detect and recover stale jobs. -/
def recoverStale : DaemonProgram Nat :=
  match deps.detector with
  | none => pure 0
  | some detector => do
      let staleDeliveries ← detector.detectStale methods
      recoverEach methods deps staleDeliveries 0

/-- Reconstruct queue idempotently. -/
def reconstructQueue : DaemonProgram Nat :=
  if deps.reconstructor then do
    let result ← QueueReconstructor.reconstruct methods
    pure result.enqueued
  else
    pure 0

/-- Executes a complete background recovery cycle. -/
def execute : DaemonProgram RecoveryCycle := do
  let recoveredCount ← recoverStale methods deps
  let enqueuedCount ← reconstructQueue methods deps
  if deps.dlqMonitor then
    awaitDaemon .monitorDLQ
  return { recovered := recoveredCount, enqueued := enqueuedCount }

end RecoveryDaemon

/-- What the detector reports in a world, when no call fails. -/
def reported (env : DaemonEnvironment) (stale : Bool) (detector : Option StaleJobDetector)
    (world : DaemonWorld) : List StoredDelivery :=
  match detector with
  | none => []
  | some detector =>
      if stale then
        env.stale world.table (env.clock world - detector.defaultTimeoutMs)
      else
        []

namespace RecoveryDaemon

variable (env : DaemonEnvironment) (stale : Bool)

/-- A detection reads only. It reports nothing if a call fails. -/
theorem run_detectStale (detector : StaleJobDetector) (world : DaemonWorld)
    : (detector.detectStale (.wired stale)).run (daemonSystem env) world
        = (.ok (reported env stale (some detector) world), world)
      ∨ ¬env.Working
        ∧ ∃ result, (detector.detectStale (.wired stale)).run (daemonSystem env) world = (result, world)
          ∧ ∀ found, result = .ok found → found = [] := by
  simp only [StaleJobDetector.detectStale, Program.bind_eq, Program.run_bind, run_awaitDaemon]
  rcases daemonSystem_cases env .now world with read | ⟨faulty, error, failed⟩
  · rw [read]
    cases stale with
    | true =>
        simp only [RecoveryDependencies.wired, if_true, Program.tryCatch_eq,
          Program.run_catchError, run_awaitDaemon, performDaemon]
        rcases daemonSystem_cases env
          (.findStaleDeliveries (env.clock world - detector.defaultTimeoutMs)) world
          with found | ⟨faulty, error, failed⟩
        · left
          rw [found]
          rfl
        · refine .inr ⟨faulty, .ok [], by rw [failed]; rfl, fun found same => ?_⟩
          exact (Except.ok.inj same).symm
    | false =>
        simp only [RecoveryDependencies.wired, Bool.false_eq_true, if_false, if_true,
          Program.tryCatch_eq, Program.run_catchError, run_awaitDaemon, performDaemon]
        rcases daemonSystem_cases env
          (.findUpdatedBefore (env.clock world - detector.defaultTimeoutMs)) world
          with found | ⟨faulty, error, failed⟩
        · left
          rw [found]
          rfl
        · left
          rw [failed]
          rfl
  · refine .inr ⟨faulty, .error error, by rw [failed], (by rintro _ ⟨⟩)⟩

variable (deps : RecoveryDaemonDependencies)

/-- Each reported delivery with retries left has all pending deliveries enqueued, by induction on
the deliveries.
-/
theorem run_recoverEach (working : env.Working) (enqueues : deps.reconstructor = true)
    (deliveries : List StoredDelivery) (recoveredCount : Nat) (world : DaemonWorld)
    : ∃ recovered after,
        (recoverEach (.wired stale) deps deliveries recoveredCount).run (daemonSystem env) world
          = (.ok recovered, after)
        ∧ Grown world after
            ((deliveries.filter retriesLeft).flatMap (fun _ =>
              (world.table.inStatus .pending).map QueueReconstructor.pendingData)) [] := by
  induction deliveries generalizing recoveredCount world with
  | nil => exact ⟨recoveredCount, world, rfl, Grown.refl world⟩
  | cons delivery rest ih =>
      cases left : retriesLeft delivery with
      | true =>
          obtain ⟨count, middle, enqueued, done, _, grown, all⟩ :=
            QueueReconstructor.run_enqueuePending env stale world
          rw [all working, ← List.map_eq_flatMap, List.flatMap_eq_nil_iff.mpr (fun _ _ => rfl)]
            at grown
          obtain ⟨recovered, after, others, grew⟩ := ih (recoveredCount + 1) middle
          rw [grown.table] at grew
          refine ⟨recovered, after, ?_, ?_⟩
          · simp only [recoverEach, recover, left, enqueues, Bool.and_self, if_true,
              Program.tryCatch_eq, Program.bind_eq, Program.run_bind, Program.run_catchError,
              enqueued, Program.pure_eq, Program.run_done, others]
          · rw [List.filter_cons_of_pos left, List.flatMap_cons]
            exact grown.trans grew
      | false =>
          obtain ⟨recovered, after, others, grew⟩ := ih (recoveredCount + 1) world
          refine ⟨recovered, after, ?_, ?_⟩
          · simp only [recoverEach, recover, left, Bool.false_and, Bool.false_eq_true, if_false,
              Program.tryCatch_eq, Program.bind_eq, Program.run_bind, Program.run_catchError,
              Program.pure_eq, Program.run_done, others]
          · rw [List.filter_cons_of_neg (by simp [left])]
            exact grew

/-- Deliveries without retries left are counted only, by induction on the deliveries. -/
theorem run_recoverEach_idle {deliveries : List StoredDelivery}
    (idle : ∀ delivery ∈ deliveries, retriesLeft delivery = false) (recoveredCount : Nat)
    (world : DaemonWorld)
    : (recoverEach (.wired stale) deps deliveries recoveredCount).run (daemonSystem env) world
      = (.ok (recoveredCount + deliveries.length), world) := by
  induction deliveries generalizing recoveredCount with
  | nil => rfl
  | cons delivery rest ih =>
      have left := idle delivery List.mem_cons_self
      have others := ih (fun other member => idle other (List.mem_cons_of_mem _ member))
        (recoveredCount + 1)
      simp only [recoverEach, recover, left, Bool.false_and, Bool.false_eq_true, if_false,
        Program.tryCatch_eq, Program.bind_eq, Program.run_bind, Program.run_catchError,
        Program.pure_eq, Program.run_done, others, List.length_cons]
      rw [Nat.add_assoc, Nat.add_comm 1]

/-- A cycle without faults enqueues the pending deliveries once for each reported delivery with
retries left, and then reconstructs the queues.
-/
theorem run_execute (working : env.Working) (enqueues : deps.reconstructor = true)
    (world : DaemonWorld)
    : ∃ cycle middle result after,
        (execute (.wired stale) deps).run (daemonSystem env) world = (.ok cycle, after)
        ∧ Grown world middle
            (((reported env stale deps.detector world).filter retriesLeft).flatMap (fun _ =>
              (world.table.inStatus .pending).map QueueReconstructor.pendingData)) []
        ∧ (QueueReconstructor.reconstruct (.wired stale)).run (daemonSystem env) middle
          = (.ok result, after) := by
  obtain ⟨recovered, middle, stales, grown⟩
      : ∃ recovered middle,
          (recoverStale (.wired stale) deps).run (daemonSystem env) world
            = (.ok recovered, middle)
          ∧ Grown world middle
              (((reported env stale deps.detector world).filter retriesLeft).flatMap (fun _ =>
                (world.table.inStatus .pending).map QueueReconstructor.pendingData)) [] := by
    cases present : deps.detector with
    | none =>
        refine ⟨0, world, ?_, Grown.refl world⟩
        simp only [recoverStale, present, Program.pure_eq, Program.run_done]
    | some detector =>
        rcases run_detectStale env stale detector world with found | ⟨faulty, _⟩
        · obtain ⟨recovered, middle, others, grown⟩ :=
            run_recoverEach env stale deps working enqueues
              (reported env stale (some detector) world) 0 world
          refine ⟨recovered, middle, ?_, grown⟩
          simp only [recoverStale, present, Program.bind_eq, Program.run_bind, found, others]
        · exact absurd working faulty
  obtain ⟨result, _, _, after, reconstructed, _⟩ :=
    QueueReconstructor.run_reconstruct env stale middle
  refine ⟨⟨recovered, result.enqueued⟩, middle, result, after, ?_, grown, reconstructed⟩
  simp only [execute, reconstructQueue, enqueues, if_true, Program.bind_eq, Program.run_bind,
    stales, reconstructed, Program.pure_eq, Program.run_done]
  split <;> simp only [Program.run_bind, run_awaitDaemon, daemonSystem_of_working working,
    performDaemon, Program.run_done]

/-- A cycle that finds no stale delivery with retries left changes nothing but by its
reconstruction, whatever fails.
-/
theorem run_execute_idle (enqueues : deps.reconstructor = true) {world : DaemonWorld}
    (idle : ∀ delivery ∈ reported env stale deps.detector world, retriesLeft delivery = false)
    : ∃ outcome after,
        (execute (.wired stale) deps).run (daemonSystem env) world = (outcome, after)
        ∧ (after = world
          ∨ ∃ result,
              (QueueReconstructor.reconstruct (.wired stale)).run (daemonSystem env) world
                = (.ok result, after)) := by
  obtain ⟨recovered, stales⟩
      : ∃ recovered,
          (recoverStale (.wired stale) deps).run (daemonSystem env) world
            = (recovered, world) := by
    cases present : deps.detector with
    | none =>
        refine ⟨.ok 0, ?_⟩
        simp only [recoverStale, present, Program.pure_eq, Program.run_done]
    | some detector =>
        rw [present] at idle
        simp only [recoverStale, present, Program.bind_eq, Program.run_bind]
        rcases run_detectStale env stale detector world
          with found | ⟨_, result, settled, nothing⟩
        · exact ⟨_, by rw [found]; exact run_recoverEach_idle env stale deps idle 0 world⟩
        · rw [settled]
          cases result with
          | error error => exact ⟨.error error, rfl⟩
          | ok found =>
              rw [nothing found rfl]
              exact ⟨.ok 0, rfl⟩
  cases recovered with
  | error error =>
      refine ⟨.error error, world, ?_, .inl rfl⟩
      simp only [execute, Program.bind_eq, Program.run_bind, stales]
  | ok recovered =>
      obtain ⟨result, _, _, after, reconstructed, _⟩ :=
        QueueReconstructor.run_reconstruct env stale world
      simp only [execute, reconstructQueue, enqueues, if_true, Program.bind_eq, Program.run_bind,
        stales, reconstructed, Program.pure_eq, Program.run_done]
      cases deps.dlqMonitor with
      | false => exact ⟨_, after, rfl, .inr ⟨result, rfl⟩⟩
      | true =>
          simp only [if_true, Program.run_bind, run_awaitDaemon]
          rcases daemonSystem_cases env .monitorDLQ after with monitored | ⟨_, error, failed⟩
          · exact ⟨_, after, by rw [monitored]; rfl, .inr ⟨result, rfl⟩⟩
          · exact ⟨_, after, by rw [failed], .inr ⟨result, rfl⟩⟩

end RecoveryDaemon

end QueueForge.Daemon
