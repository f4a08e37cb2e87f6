import Mathlib.Data.List.Destutter
import QueueForge.Async.Interleaving
import QueueForge.Daemon.HealthDaemon

/-! What a health daemon announces. The interval starts a cycle whether or not the one before has
finished, so that cycles overlap: they read and store the severity of one daemon.
-/

namespace QueueForge.Daemon

open QueueForge.Async QueueForge.Js

-----------------------------------------------------------------------------------------
-- Cycles that overlap
-----------------------------------------------------------------------------------------

/-- The field of the daemon, the gauges and the clock. -/
structure HealthWorld where
  now : Int
  step : Nat
  previousSeverity : Severity
  gauges : HealthGauge → Int

/-- A call is answered, or the one that is asked throws. -/
def healthServer (elapsed : Nat → Nat) (faults : Nat → Option Thrown) (queues : Nat → Option Bool)
    : Handler HealthSignature Thrown HealthWorld :=
  fun op world =>
    let later := { world with now := world.now + elapsed world.step, step := world.step + 1 }
    let remote : Settled Thrown Unit :=
      match faults world.step with
      | some err => .error err
      | none => .ok ()
    match op with
    | .now => (.ok world.now, later)
    | .query _ => (remote, later)
    | .ping => (remote, later)
    | .count _ => (remote, later)
    | .getMainQueue => (remote.map (fun _ => queues world.step), later)
    | .countMainQueue => (remote, later)
    | .setGauge gauge value =>
        (.ok (), { later with gauges := Function.update world.gauges gauge value })
    | .differs severity => (.ok (decide (severity ≠ world.previousSeverity)), later)
    | .publish _ => (remote, later)
    | .setSeverity severity => (.ok (), { later with previousSeverity := severity })

/-- The world, and what the cycles have done in it, the latest first: what their pings have failed
with, what severities they have come to, which of them have announced one that is not stored yet,
and what events they have published.
-/
structure SharedHealth (ι : Type) where
  world : HealthWorld
  failures : List (ι × Thrown) := []
  analysed : List (ι × Severity) := []
  underway : List ι := []
  published : List (ι × HealthEvent) := []

section

variable {ι : Type} [DecidableEq ι]

/-- What is noted of a call. -/
def SharedHealth.note (shared : SharedHealth ι) (caller : ι)
    : (op : HealthCall) → Settled Thrown op.Result → SharedHealth ι
  | .differs severity, .ok true => {
      shared with
      analysed := (caller, severity) :: shared.analysed
      underway := caller :: shared.underway
    }
  | .differs severity, _ => { shared with analysed := (caller, severity) :: shared.analysed }
  | .publish event, _ => { shared with published := (caller, event) :: shared.published }
  | .setSeverity _, _ => { shared with underway := shared.underway.erase caller }
  | op, .error err =>
      if op.isPing then { shared with failures := (caller, err) :: shared.failures } else shared
  | _, .ok _ => shared

def sharedHealth (elapsed : Nat → Nat) (faults : Nat → Option Thrown) (queues : Nat → Option Bool)
    (caller : ι)
    : Handler HealthSignature Thrown (SharedHealth ι) :=
  fun op shared =>
    let answered := healthServer elapsed faults queues op shared.world
    (answered.1, { shared with world := answered.2 }.note caller op answered.1)

/-- Any number of cycles of one daemon, before any of them has begun. -/
def healthCycles (daemon : HealthDaemon) (now : Int) (gauges : HealthGauge → Int)
    : Configuration HealthSignature Thrown ι Unit (SharedHealth ι) where
  process _ := daemon.execute
  world := { world := { now, step := 0, previousSeverity := .healthy, gauges } }

/-- A severity is compared when what was announced before is stored. -/
def storedFirst (shared : SharedHealth ι) (_ : ι) (op : HealthCall) : Prop :=
  op.compares = true → shared.underway = []

instance storedFirst_decidable (shared : SharedHealth ι) (caller : ι) (op : HealthCall)
    : Decidable (storedFirst shared caller op) :=
  inferInstanceAs (Decidable (op.compares = true → shared.underway = []))

end

-----------------------------------------------------------------------------------------
-- What a cycle owes
-----------------------------------------------------------------------------------------

/-- The severity that failed pings amount to, unless one of them has failed with nothing. -/
def severityOf : Nat → Severity
  | 0 => .healthy
  | 1 => .degraded
  | _ => .unhealthy

/-- The severity that what the pings have failed with amounts to. -/
def rated (failures : List Thrown) : Severity :=
  if .nullish ∈ failures then .degraded else severityOf failures.length

inductive HealthStage where
  | checking
  | announcing (severity : Severity)
  | announced (severity : Severity)
  | settled
deriving DecidableEq

namespace HealthStage

/-- An announcement is not stored yet. -/
def isUnderway : HealthStage → Bool
  | announcing _ => true
  | announced _ => true
  | _ => false

/-- Nothing is announced from here on. -/
def isPast : HealthStage → Bool
  | announced _ => true
  | settled => true
  | _ => false

end HealthStage

/-- What the pings of a cycle have failed with, and how far it is. -/
structure HealthPhase where
  failures : List Thrown
  stage : HealthStage

def HealthPhase.after (phase : HealthPhase)
    : (op : HealthCall) → Settled Thrown op.Result → HealthPhase
  | .differs severity, .ok true => { phase with stage := .announcing severity }
  | .differs _, _ => { phase with stage := .settled }
  | .publish event, _ => { phase with stage := .announced event.tells }
  | .setSeverity _, _ => { phase with stage := .settled }
  | op, .error err => if op.isPing then { phase with failures := err :: phase.failures } else phase
  | _, .ok _ => phase

/-- What a cycle may await, and what it learns. -/
def healthCycle : Contract HealthSignature Thrown HealthPhase where
  allows phase op :=
    match op with
    | .differs severity => phase.stage = .checking ∧ severity = rated phase.failures
    | .publish event => phase.stage = .announcing event.tells
    | .setSeverity severity => phase.stage = .announced severity
    | op => op.isPing = true → phase.stage = .checking
  answers phase op result after :=
    after = phase.after op result ∧ (op.isRemote = false → ∃ value, result = .ok value)

section

variable {failures : List Thrown} {severity : Severity}

theorem meets_awaitHealth {call : HealthCall} {phase : HealthPhase}
    {post : Settled Thrown call.Result → HealthPhase → Prop}
    (allowed : healthCycle.allows phase call)
    (settled
      : ∀ result,
          (call.isRemote = false → ∃ value, result = .ok value)
          → post result (phase.after call result))
    : Program.Meets (α := no_index call.Result) healthCycle (awaitHealth call) phase post := by
  unfold awaitHealth
  rw [Program.meets_perform]
  refine ⟨allowed, ?_⟩
  rintro result after ⟨rfl, answered⟩
  exact settled result answered

/-- The daemon's own fields, its gauges and its clock throw nothing. -/
theorem meets_local {call : HealthCall} {phase : HealthPhase}
    {post : Settled Thrown call.Result → HealthPhase → Prop} (isLocal : call.isRemote = false)
    (allowed : healthCycle.allows phase call)
    (settled : ∀ value, post (.ok value) (phase.after call (.ok value)))
    : Program.Meets (α := no_index call.Result) healthCycle (awaitHealth call) phase post := by
  refine meets_awaitHealth allowed (fun result answered => ?_)
  obtain ⟨value, rfl⟩ := answered isLocal
  exact settled value

/-- A dependency has been asked: it has failed with what is thrown. -/
def Asked {α : Type} (failures : List Thrown) (outcome : Settled Thrown α) (after : HealthPhase)
    : Prop :=
  match outcome with
  | .ok _ => after = ⟨failures, .checking⟩
  | .error err => after = ⟨err :: failures, .checking⟩

/-- What a check has failed with: it throws when its dependency has failed with nothing. -/
def Fails (outcome : Settled Thrown HealthStatusDetail) (failed : List Thrown) : Prop :=
  match outcome with
  | .ok detail => .nullish ∉ failed ∧ failed.length = if detail.healthy then 0 else 1
  | .error err => err ≠ .nullish ∧ .nullish ∈ failed

/-- A check has ended. -/
def Checked (failures : List Thrown) (outcome : Settled Thrown HealthStatusDetail)
    (after : HealthPhase)
    : Prop :=
  ∃ failed, after = ⟨failed ++ failures, .checking⟩ ∧ Fails outcome failed

theorem meets_ping {call : HealthCall} (isPing : call.isPing = true)
    : Program.Meets (α := no_index call.Result) healthCycle (awaitHealth call)
        ⟨failures, .checking⟩ (Asked failures) := by
  have asked (call : HealthCall) (isPing : call.isPing = true)
      (result : Settled Thrown call.Result)
      : Asked failures result (HealthPhase.after ⟨failures, .checking⟩ call result) := by
    cases call with
    | now => contradiction
    | setGauge gauge value => contradiction
    | differs severity => contradiction
    | publish event => contradiction
    | setSeverity severity => contradiction
    | _ =>
        cases result with
        | ok value => rfl
        | error err => rfl
  have allowed : healthCycle.allows ⟨failures, .checking⟩ call := by
    cases call with
    | differs severity => contradiction
    | publish event => contradiction
    | setSeverity severity => contradiction
    | _ => exact fun _ => rfl
  exact meets_awaitHealth allowed (fun result _ => asked call isPing result)

theorem meets_idle : (return () : HealthProgram Unit).Meets healthCycle ⟨failures, .checking⟩
    (Asked failures) :=
  rfl

/-- What is thrown can be logged if it is anything. -/
theorem meets_logError {logger : Bool} {err : Thrown} {phase : HealthPhase}
    {post : Settled Thrown Unit → HealthPhase → Prop}
    (unreadable : err = .nullish → ∀ error, post (.error error) phase)
    (logged : post (.ok ()) phase)
    : (logError logger err).Meets healthCycle phase post := by
  refine Program.meets_ite.mpr ⟨fun _ => ?_, fun _ => logged⟩
  cases err with
  | nullish => exact unreadable rfl _
  | text value => exact logged
  | error object => exact logged

/-- Whether or not the publisher throws, the event has been announced. -/
theorem meets_publish {event : HealthEvent}
    {post : Settled Thrown Unit → HealthPhase → Prop}
    (settled : ∀ result, post result ⟨failures, .announced event.tells⟩)
    : (awaitHealth (.publish event)).Meets healthCycle ⟨failures, .announcing event.tells⟩ post :=
  meets_awaitHealth rfl (fun result _ => settled result)

namespace DependencyChecker

/-- A check owes what its question owes. -/
theorem meets_timed {ask : HealthProgram Unit}
    (asked : ask.Meets healthCycle ⟨failures, .checking⟩ (Asked failures))
    : (timed ask).Meets healthCycle ⟨failures, .checking⟩ (Checked failures) := by
  unfold timed
  refine Program.meets_bind.mpr (meets_local rfl (fun _ => rfl) (fun start => ?_))
  refine Program.meets_catchError.mpr (Program.meets_bind.mpr (asked.mono ?_))
  intro outcome after reached
  cases outcome with
  | ok done =>
      obtain rfl : after = ⟨failures, .checking⟩ := reached
      refine Program.meets_bind.mpr (meets_local rfl (fun _ => rfl) (fun answered => ?_))
      exact ⟨[], rfl, List.not_mem_nil, rfl⟩
  | error err =>
      obtain rfl : after = ⟨err :: failures, .checking⟩ := reached
      refine Program.meets_bind.mpr (meets_local rfl (fun _ => rfl) (fun failed => ?_))
      refine Program.meets_bind.mpr (Program.meets_ofResult.mpr ?_)
      cases err with
      | nullish => exact ⟨[.nullish], rfl, by rintro ⟨⟩, List.mem_cons_self⟩
      | text value => exact ⟨[.text value], rfl, by simp, rfl⟩
      | error object => exact ⟨[.error object], rfl, by simp, rfl⟩

variable (checker : DependencyChecker)

theorem meets_checkDatabase
    : checker.checkDatabase.Meets healthCycle ⟨failures, .checking⟩ (Checked failures) := by
  refine meets_timed ?_
  cases checker.connectionPool with
  | none => exact meets_idle
  | some has =>
      refine Program.meets_ite.mpr ⟨fun _ => meets_ping rfl, fun _ => ?_⟩
      refine Program.meets_ite.mpr ⟨fun _ => meets_ping rfl, fun _ => ?_⟩
      refine Program.meets_ite.mpr ⟨fun _ => meets_ping rfl, fun _ => ?_⟩
      exact Program.meets_ite.mpr ⟨fun _ => meets_ping rfl, fun _ => meets_idle⟩

theorem meets_checkRedis
    : checker.checkRedis.Meets healthCycle ⟨failures, .checking⟩ (Checked failures) :=
  meets_timed (Program.meets_ite.mpr ⟨fun _ => meets_ping rfl, fun _ => meets_idle⟩)

theorem meets_checkQueue
    : checker.checkQueue.Meets healthCycle ⟨failures, .checking⟩ (Checked failures) := by
  refine meets_timed ?_
  cases checker.queueManager with
  | none => exact meets_idle
  | some methods =>
      refine Program.meets_ite.mpr ⟨fun _ => meets_ping rfl, fun _ => ?_⟩
      refine Program.meets_ite.mpr ⟨fun _ => meets_ping rfl, fun _ => ?_⟩
      refine Program.meets_ite.mpr ⟨fun _ => ?_, fun _ => meets_idle⟩
      refine Program.meets_bind.mpr ((meets_ping rfl).mono ?_)
      intro outcome after reached
      cases outcome with
      | ok q =>
          obtain rfl : after = ⟨failures, .checking⟩ := reached
          exact Program.meets_ite.mpr ⟨fun _ => meets_ping rfl, fun _ => meets_idle⟩
      | error err => exact reached

/-- The checks have ended: what is rated of them is what their failures amount to, if none has
failed with nothing.
-/
def Surveyed (outcome : Settled Thrown DependencyStatus) (after : HealthPhase) : Prop :=
  after.stage = .checking
  ∧ match outcome with
    | .ok checks => (HealthAnalyzer.analyze checks).severity = rated after.failures
    | .error err => err ≠ .nullish ∧ .nullish ∈ after.failures

/-- Words have no latency: only the failed checks count. -/
theorem analyze_words (database redis queue : Bool) (checks : DependencyStatus)
    (ofDatabase : checks.database = .word database) (ofRedis : checks.redis = .word redis)
    (ofQueue : checks.queue = .word queue)
    : (HealthAnalyzer.analyze checks).severity
      = severityOf ((if queue then 0 else 1)
        + ((if redis then 0 else 1) + (if database then 0 else 1))) := by
  obtain ⟨_, _, _, allHealthy, overall, timestamp⟩ := checks
  subst ofDatabase ofRedis ofQueue
  cases database <;> cases redis <;> cases queue <;> rfl

theorem meets_checkAll : checker.checkAll.Meets healthCycle ⟨[], .checking⟩ Surveyed := by
  unfold checkAll
  refine Program.meets_bind.mpr (Program.meets_settle.mpr (checker.meets_checkDatabase.mono ?_))
  rintro dbSettled _ ⟨ofDatabase, rfl, dbFails⟩
  refine Program.meets_bind.mpr (Program.meets_settle.mpr (checker.meets_checkRedis.mono ?_))
  rintro redisSettled _ ⟨ofRedis, rfl, redisFails⟩
  refine Program.meets_bind.mpr (Program.meets_settle.mpr (checker.meets_checkQueue.mono ?_))
  rintro queueSettled _ ⟨ofQueue, rfl, queueFails⟩
  refine Program.meets_bind.mpr (Program.meets_ofResult.mpr ?_)
  cases dbSettled with
  | error err =>
      exact ⟨rfl, dbFails.1,
        List.mem_append_right _ (List.mem_append_right _ (List.mem_append_left _ dbFails.2))⟩
  | ok dbRes =>
      refine Program.meets_bind.mpr (Program.meets_ofResult.mpr ?_)
      cases redisSettled with
      | error err =>
          exact ⟨rfl, redisFails.1, List.mem_append_right _ (List.mem_append_left _ redisFails.2)⟩
      | ok redisRes =>
          refine Program.meets_bind.mpr (Program.meets_ofResult.mpr ?_)
          cases queueSettled with
          | error err => exact ⟨rfl, queueFails.1, List.mem_append_left _ queueFails.2⟩
          | ok queueRes =>
              refine Program.meets_bind.mpr (meets_local rfl (fun _ => rfl) (fun timestamp => ?_))
              refine ⟨rfl, ?_⟩
              have readable : Thrown.nullish ∉ ofQueue ++ (ofRedis ++ (ofDatabase ++ [])) := by
                simp only [List.mem_append, List.append_nil, not_or]
                exact ⟨queueFails.1, redisFails.1, dbFails.1⟩
              have counted
                  : rated (ofQueue ++ (ofRedis ++ (ofDatabase ++ [])))
                    = severityOf ((if queueRes.healthy then 0 else 1)
                      + ((if redisRes.healthy then 0 else 1)
                        + (if dbRes.healthy then 0 else 1))) := by
                rw [rated, if_neg readable, List.append_nil, List.length_append, List.length_append,
                  queueFails.2, redisFails.2, dbFails.2]
              exact (analyze_words dbRes.healthy redisRes.healthy queueRes.healthy _ rfl rfl
                rfl).trans counted.symm

end DependencyChecker

namespace HealthDaemon

variable {daemon : HealthDaemon}

/-- What is assumed when the checks have thrown is degraded. -/
theorem meets_checks {checker : DependencyChecker} (checked : daemon.checker = some checker)
    : daemon.checks.Meets healthCycle ⟨[], .checking⟩
        (fun outcome after =>
          after.stage = .checking
          ∧ ∃ checks,
              outcome = .ok checks
              ∧ (HealthAnalyzer.analyze checks).severity = rated after.failures) := by
  unfold checks
  rw [checked]
  refine Program.meets_catchError.mpr (checker.meets_checkAll.mono ?_)
  rintro outcome after ⟨checking, surveyed⟩
  cases outcome with
  | ok checks => exact ⟨checking, checks, rfl, surveyed⟩
  | error err =>
      have degraded : Severity.degraded = rated after.failures := (if_pos surveyed.2).symm
      refine Program.meets_bind.mpr (meets_logError (fun nullish => absurd nullish surveyed.1) ?_)
      exact ⟨checking, _, rfl, degraded⟩

theorem meets_publishAlert {logger : Bool} {level : AlertSeverity} {message : String}
    {details : HealthStatus × HealthStatus × HealthStatus}
    {post : Settled Thrown Unit → HealthPhase → Prop}
    (tells : ∀ timestamp, (HealthEvent.alert level message details timestamp).tells = severity)
    (failed : ∀ error after, post (.error error) after)
    (published : post (.ok ()) ⟨failures, .announced severity⟩)
    : (AlertPublisher.publishAlert ⟨true, logger⟩ level message details).Meets healthCycle
        ⟨failures, .announcing severity⟩ post := by
  refine Program.meets_bind.mpr (meets_local rfl (by rintro ⟨⟩) (fun timestamp => ?_))
  obtain rfl := tells timestamp
  refine Program.meets_ite.mpr ⟨fun _ => ?_, fun silent => absurd rfl silent⟩
  refine Program.meets_catchError.mpr (meets_publish (fun result => ?_))
  cases result with
  | ok done => exact published
  | error err => exact meets_logError (fun _ error => failed error _) published

/-- An announcement is published before it is stored. -/
theorem meets_announce {logger : Bool} {analysis : HealthAnalysis}
    {post : Settled Thrown Unit → HealthPhase → Prop}
    (failed : ∀ error after, post (.error error) after)
    (published : post (.ok ()) ⟨failures, .announced analysis.severity⟩)
    : (announce ⟨true, logger⟩ analysis).Meets healthCycle
        ⟨failures, .announcing analysis.severity⟩ post := by
  unfold announce
  cases rating : analysis.severity with
  | unhealthy =>
      rw [rating] at published
      exact meets_publishAlert (fun _ => rfl) failed published
  | degraded =>
      rw [rating] at published
      exact meets_publishAlert (fun _ => rfl) failed published
  | healthy =>
      rw [rating] at published
      refine Program.meets_ite.mpr ⟨fun _ => ?_, fun silent => absurd rfl silent⟩
      refine Program.meets_catchError.mpr (Program.meets_bind.mpr ?_)
      refine meets_local rfl (by rintro ⟨⟩) (fun timestamp => ?_)
      refine meets_awaitHealth rfl (fun result _ => ?_)
      cases result with
      | ok done => exact published
      | error err => exact published

/-- A cycle compares the severity that its pings amount to, and announces it if it differs. -/
theorem meets_execute {checker : DependencyChecker} {logger : Bool}
    : (initializeHealth checker true logger).execute.Meets healthCycle ⟨[], .checking⟩
        (fun _ _ => True) := by
  unfold execute
  refine Program.meets_bind.mpr ((meets_checks rfl).mono ?_)
  rintro _ after ⟨checking, checks, rfl, severity⟩
  have isGauge {phase : HealthPhase} {gauge : HealthGauge} {value : Int}
      : healthCycle.allows phase (.setGauge gauge value) := by
    rintro ⟨⟩
  refine Program.meets_bind.mpr (meets_local rfl isGauge (fun _ => ?_))
  refine Program.meets_bind.mpr (meets_local rfl isGauge (fun _ => ?_))
  refine Program.meets_bind.mpr (meets_local rfl isGauge (fun _ => ?_))
  refine Program.meets_bind.mpr (meets_local rfl isGauge (fun _ => ?_))
  refine Program.meets_bind.mpr (meets_local rfl ⟨checking, severity⟩ (fun changed => ?_))
  cases changed with
  | false => trivial
  | true =>
      refine Program.meets_bind.mpr (meets_announce (fun _ _ => trivial) ?_)
      exact meets_local rfl rfl (fun _ => trivial)

end HealthDaemon

end

-----------------------------------------------------------------------------------------
-- What is announced in any interleaving
-----------------------------------------------------------------------------------------

section

variable {ι : Type} [DecidableEq ι]

namespace SharedHealth

variable (shared : SharedHealth ι)

/-- What the pings of a cycle have failed with. -/
def failuresOf (caller : ι) : List Thrown :=
  (shared.failures.filter (fun entry => entry.1 = caller)).map Prod.snd

/-- A severity other than healthy has been published. -/
def Alerted : Prop :=
  ∃ entry ∈ shared.published, entry.2.tells ≠ .healthy

/-- What a cycle has come to is what its pings amount to, and it publishes nothing else. -/
structure Truthful (caller : ι) (phase : HealthPhase) : Prop where
  told : phase.failures = shared.failuresOf caller
  analysed
    : ∀ severity,
        (caller, severity) ∈ shared.analysed
        → phase.stage ≠ .checking ∧ severity = rated phase.failures
  published
    : ∀ event,
        (caller, event) ∈ shared.published
        → phase.stage.isPast = true ∧ (caller, event.tells) ∈ shared.analysed
  announcing
    : ∀ severity,
        phase.stage = .announcing severity
        → (caller, severity) ∈ shared.analysed ∧ (severity = .healthy → shared.Alerted)
  announced : ∀ severity, phase.stage = .announced severity → severity = .healthy ∨ shared.Alerted

/-- Nobody publishes twice, and nothing recovers before there has been an alert. -/
structure Ordered : Prop where
  previous : shared.world.previousSeverity = .healthy ∨ shared.Alerted
  once : (shared.published.map Prod.fst).Nodup
  recoveries
    : ∀ later entry earlier,
        shared.published = later ++ entry :: earlier
        → entry.2.tells = .healthy
        → ∃ alert ∈ earlier, alert.2.tells ≠ .healthy

variable {shared} {later : SharedHealth ι} {caller other : ι} {phase : HealthPhase}
  {severity : Severity} {event : HealthEvent}

/-- What is noted of one cycle says nothing of another one. -/
theorem Truthful.frame (truthful : shared.Truthful other phase)
    (failures : later.failuresOf other = shared.failuresOf other)
    (analysed : ∀ severity,
      (other, severity) ∈ later.analysed ↔ (other, severity) ∈ shared.analysed)
    (published : ∀ event, (other, event) ∈ later.published ↔ (other, event) ∈ shared.published)
    (alerted : shared.Alerted → later.Alerted)
    : later.Truthful other phase where
  told := truthful.told.trans failures.symm
  analysed severity mem := truthful.analysed severity ((analysed severity).mp mem)
  published event mem := by
    obtain ⟨past, noted⟩ := truthful.published event ((published event).mp mem)
    exact ⟨past, (analysed _).mpr noted⟩
  announcing severity stage := by
    obtain ⟨noted, after⟩ := truthful.announcing severity stage
    exact ⟨(analysed _).mpr noted, fun healthy => alerted (after healthy)⟩
  announced severity stage := (truthful.announced severity stage).imp_right alerted

omit [DecidableEq ι] in
theorem Ordered.frame (ordered : shared.Ordered) (published : later.published = shared.published)
    (previous : later.world.previousSeverity = .healthy ∨ later.Alerted)
    : later.Ordered where
  previous := previous
  once := published ▸ ordered.once
  recoveries := published ▸ ordered.recoveries

section

variable {elapsed : Nat → Nat} {faults : Nat → Option Thrown} {queues : Nat → Option Bool}
  {op : HealthCall}

/-- The answer is one that the contract admits. -/
theorem answers_sharedHealth
    : healthCycle.answers phase op (sharedHealth elapsed faults queues caller op shared).1
        (phase.after op (sharedHealth elapsed faults queues caller op shared).1) := by
  refine ⟨rfl, fun isLocal => ?_⟩
  cases op with
  | now => exact ⟨_, rfl⟩
  | setGauge gauge value => exact ⟨_, rfl⟩
  | differs severity => exact ⟨_, rfl⟩
  | setSeverity severity => exact ⟨_, rfl⟩
  | _ => contradiction

/-- What changes when no severity is compared, published or stored: a ping may fail. -/
structure Quiet (shared later : SharedHealth ι) (caller : ι) (op : HealthCall)
    (phase after : HealthPhase)
    : Prop where
  analysed : later.analysed = shared.analysed
  underway : later.underway = shared.underway
  published : later.published = shared.published
  previous : later.world.previousSeverity = shared.world.previousSeverity
  stage : after.stage = phase.stage
  failures
    : after.failures = phase.failures ∧ later.failures = shared.failures
      ∨ op.isPing = true
        ∧ ∃ err,
            after.failures = err :: phase.failures
            ∧ later.failures = (caller, err) :: shared.failures

theorem quiet_sharedHealth (phase : HealthPhase) (isVerdict : op.isVerdict = false)
    : Quiet shared (sharedHealth elapsed faults queues caller op shared).2 caller op phase
        (phase.after op (sharedHealth elapsed faults queues caller op shared).1) := by
  cases op with
  | differs severity => contradiction
  | publish event => contradiction
  | setSeverity severity => contradiction
  | now => exact ⟨rfl, rfl, rfl, rfl, rfl, .inl ⟨rfl, rfl⟩⟩
  | setGauge gauge value => exact ⟨rfl, rfl, rfl, rfl, rfl, .inl ⟨rfl, rfl⟩⟩
  | _ =>
      simp only [sharedHealth, healthServer]
      cases faults shared.world.step with
      | none => exact ⟨rfl, rfl, rfl, rfl, rfl, .inl ⟨rfl, rfl⟩⟩
      | some err => exact ⟨rfl, rfl, rfl, rfl, rfl, .inr ⟨rfl, err, rfl, rfl⟩⟩

/-- Dependencies are asked before a severity is compared. -/
theorem checking_of_ping (allowed : healthCycle.allows phase op) (isPing : op.isPing = true)
    : phase.stage = .checking := by
  cases op with
  | differs severity => contradiction
  | publish event => contradiction
  | setSeverity severity => contradiction
  | _ => exact allowed isPing

theorem Quiet.truthful {after : HealthPhase} (quiet : Quiet shared later caller op phase after)
    (allowed : healthCycle.allows phase op) (truthful : shared.Truthful caller phase)
    : later.Truthful caller after where
  told := by
    rcases quiet.failures with ⟨same, kept⟩ | ⟨_, err, failed, noted⟩
    · rw [same, failuresOf, kept]
      exact truthful.told
    · rw [failed, failuresOf, noted, List.filter_cons_of_pos (by simp), List.map_cons,
        truthful.told]
      rfl
  analysed severity mem := by
    rw [quiet.analysed] at mem
    obtain ⟨past, rating⟩ := truthful.analysed severity mem
    refine ⟨quiet.stage ▸ past, ?_⟩
    rcases quiet.failures with ⟨same, _⟩ | ⟨isPing, _⟩
    · rw [same]
      exact rating
    · exact absurd (checking_of_ping allowed isPing) past
  published event mem := by
    rw [quiet.published] at mem
    rw [quiet.stage, quiet.analysed]
    exact truthful.published event mem
  announcing severity stage := by
    rw [quiet.stage] at stage
    rw [quiet.analysed, Alerted, quiet.published]
    exact truthful.announcing severity stage
  announced severity stage := by
    rw [quiet.stage] at stage
    rw [Alerted, quiet.published]
    exact truthful.announced severity stage

theorem Quiet.frame {after : HealthPhase} (quiet : Quiet shared later caller op phase after)
    (different : other ≠ caller) {otherPhase : HealthPhase}
    (truthful : shared.Truthful other otherPhase)
    : later.Truthful other otherPhase := by
  refine truthful.frame ?_ (fun _ => by rw [quiet.analysed]) (fun _ => by rw [quiet.published]) ?_
  · rcases quiet.failures with ⟨_, kept⟩ | ⟨_, err, _, noted⟩
    · rw [failuresOf, kept]
      rfl
    · rw [failuresOf, noted, List.filter_cons_of_neg (by simpa using Ne.symm different)]
      rfl
  · rw [Alerted, Alerted, quiet.published]
    exact id

omit [DecidableEq ι] in
theorem Quiet.ordered {after : HealthPhase} (quiet : Quiet shared later caller op phase after)
    (ordered : shared.Ordered)
    : later.Ordered := by
  refine ordered.frame quiet.published ?_
  rw [quiet.previous, Alerted, quiet.published]
  exact ordered.previous

/-- What a cycle compares is noted, and it announces what differs from what is stored. -/
theorem truthful_differs (ordered : shared.Ordered) (truthful : shared.Truthful caller phase)
    (allowed : healthCycle.allows phase (.differs severity))
    : (sharedHealth elapsed faults queues caller (.differs severity) shared).2.Truthful caller
        (phase.after (.differs severity)
          (sharedHealth elapsed faults queues caller (.differs severity) shared).1) := by
  obtain ⟨checking, rating⟩ := allowed
  have unpublished (event : HealthEvent) : (caller, event) ∉ shared.published := by
    intro mem
    have past := (truthful.published event mem).1
    rw [checking] at past
    contradiction
  have only {compared : Severity}
      (mem : (caller, compared) ∈ (caller, severity) :: shared.analysed)
      : compared = severity := by
    rcases List.mem_cons.mp mem with same | before
    · exact congrArg Prod.snd same
    · exact absurd checking (truthful.analysed compared before).1
  simp only [sharedHealth, healthServer]
  by_cases same : severity = shared.world.previousSeverity
  · rw [decide_eq_false (not_not_intro same)]
    exact {
      told := truthful.told
      analysed := fun compared mem => ⟨by rintro ⟨⟩, (only mem).trans rating⟩
      published := fun event mem => absurd mem (unpublished event)
      announcing := by rintro compared ⟨⟩
      announced := by rintro compared ⟨⟩
    }
  · rw [decide_eq_true same]
    refine {
      told := truthful.told
      analysed := fun compared mem => ⟨by rintro ⟨⟩, (only mem).trans rating⟩
      published := fun event mem => absurd mem (unpublished event)
      announcing := ?_
      announced := by rintro compared ⟨⟩
    }
    rintro compared ⟨⟩
    refine ⟨List.mem_cons_self, fun healthy => ?_⟩
    exact ordered.previous.resolve_left (fun previous => same (healthy.trans previous.symm))

theorem truthful_publish (truthful : shared.Truthful caller phase)
    (allowed : healthCycle.allows phase (.publish event))
    : (sharedHealth elapsed faults queues caller (.publish event) shared).2.Truthful caller
        (phase.after (.publish event)
          (sharedHealth elapsed faults queues caller (.publish event) shared).1) := by
  have announcing : phase.stage = .announcing event.tells := allowed
  obtain ⟨noted, _⟩ := truthful.announcing event.tells announcing
  refine {
    told := truthful.told
    analysed := fun compared mem => ⟨by rintro ⟨⟩, (truthful.analysed compared mem).2⟩
    published := ?_
    announcing := by rintro compared ⟨⟩
    announced := ?_
  }
  · intro other mem
    rcases List.mem_cons.mp mem with same | before
    · cases same
      exact ⟨rfl, noted⟩
    · have past := (truthful.published other before).1
      rw [announcing] at past
      contradiction
  · rintro compared ⟨⟩
    by_cases healthy : event.tells = .healthy
    · exact .inl healthy
    · exact .inr ⟨(caller, event), List.mem_cons_self, healthy⟩

/-- By the kind of call: the caller's facts hold in its next phase. -/
theorem Truthful.step (ordered : shared.Ordered) (truthful : shared.Truthful caller phase)
    (allowed : healthCycle.allows phase op)
    : (sharedHealth elapsed faults queues caller op shared).2.Truthful caller
        (phase.after op (sharedHealth elapsed faults queues caller op shared).1) := by
  cases op with
  | differs severity => exact truthful_differs ordered truthful allowed
  | publish event => exact truthful_publish truthful allowed
  | setSeverity severity =>
      have announced : phase.stage = .announced severity := allowed
      exact {
        told := truthful.told
        analysed := fun compared mem => ⟨by rintro ⟨⟩, (truthful.analysed compared mem).2⟩
        published := fun event mem => ⟨rfl, (truthful.published event mem).2⟩
        announcing := by rintro compared ⟨⟩
        announced := by rintro compared ⟨⟩
      }
  | _ => exact (quiet_sharedHealth phase rfl).truthful allowed truthful

/-- What others call says nothing of a cycle. -/
theorem Truthful.others (truthful : shared.Truthful other phase) (different : other ≠ caller)
    {moving : HealthPhase} (allowed : healthCycle.allows moving op)
    : (sharedHealth elapsed faults queues caller op shared).2.Truthful other phase := by
  have elsewhere {α : Type} {value new : α} {entries : List (ι × α)}
      : (other, value) ∈ (caller, new) :: entries ↔ (other, value) ∈ entries := by
    rw [List.mem_cons, Prod.mk.injEq]
    exact or_iff_right (fun same => different same.1)
  cases op with
  | differs severity =>
      simp only [sharedHealth, healthServer]
      by_cases same : severity = shared.world.previousSeverity
      · rw [decide_eq_false (not_not_intro same)]
        exact truthful.frame rfl (fun _ => elsewhere) (fun _ => Iff.rfl) id
      · rw [decide_eq_true same]
        exact truthful.frame rfl (fun _ => elsewhere) (fun _ => Iff.rfl) id
  | publish event =>
      refine truthful.frame rfl (fun _ => Iff.rfl) (fun _ => elsewhere) ?_
      rintro ⟨entry, mem, ill⟩
      exact ⟨entry, List.mem_cons_of_mem _ mem, ill⟩
  | setSeverity severity => exact truthful.frame rfl (fun _ => Iff.rfl) (fun _ => Iff.rfl) id
  | _ => exact (quiet_sharedHealth moving rfl).frame different truthful

theorem Ordered.step (ordered : shared.Ordered) (truthful : shared.Truthful caller phase)
    (allowed : healthCycle.allows phase op)
    : (sharedHealth elapsed faults queues caller op shared).2.Ordered := by
  cases op with
  | differs severity =>
      simp only [sharedHealth, healthServer]
      by_cases same : severity = shared.world.previousSeverity
      · rw [decide_eq_false (not_not_intro same)]
        exact ordered.frame rfl ordered.previous
      · rw [decide_eq_true same]
        exact ordered.frame rfl ordered.previous
  | publish event =>
      have announcing : phase.stage = .announcing event.tells := allowed
      refine ⟨?_, List.nodup_cons.mpr ⟨?_, ordered.once⟩, ?_⟩
      · refine ordered.previous.imp_right ?_
        rintro ⟨entry, mem, ill⟩
        exact ⟨entry, List.mem_cons_of_mem _ mem, ill⟩
      · rintro mem
        obtain ⟨⟨_, earlier⟩, published, rfl⟩ := List.mem_map.mp mem
        have past := (truthful.published earlier published).1
        rw [announcing] at past
        contradiction
      · intro later entry earlier split healthy
        rcases List.cons_eq_append_iff.mp split with ⟨rfl, same⟩ | ⟨rest, rfl, same⟩
        · cases same
          exact (truthful.announcing event.tells announcing).2 healthy
        · exact ordered.recoveries rest entry earlier same healthy
  | setSeverity severity => exact ordered.frame rfl (truthful.announced severity allowed)
  | _ => exact (quiet_sharedHealth phase rfl).ordered ordered

end

end SharedHealth

/-- However the cycles of a daemon overlap, and whatever its dependencies and the publisher throw: a
cycle comes to the severity that its failed pings amount to, and publishes at most one event, that
tells this severity. Nothing recovers before an alert has been published.
-/
theorem published_truthfully (checker : DependencyChecker) (logger : Bool) (elapsed : Nat → Nat)
    (faults : Nat → Option Thrown) (queues : Nat → Option Bool) (now : Int)
    (gauges : HealthGauge → Int)
    {config : Configuration HealthSignature Thrown ι Unit (SharedHealth ι)}
    (reached
      : Configuration.Reachable (sharedHealth elapsed faults queues) (fun _ _ _ => True)
          (healthCycles (initializeHealth checker true logger) now gauges) config)
    : (∀ entry ∈ config.world.analysed, entry.2 = rated (config.world.failuresOf entry.1))
      ∧ (∀ entry ∈ config.world.published, (entry.1, entry.2.tells) ∈ config.world.analysed)
      ∧ (config.world.published.map Prod.fst).Nodup
      ∧ ∀ later entry earlier,
          config.world.published = later ++ entry :: earlier
          → entry.2.tells = .healthy
          → ∃ alert ∈ earlier, alert.2.tells ≠ .healthy := by
  obtain ⟨phases, _, truthful, ordered⟩ :=
    @Configuration.Reachable.invariant _ _ _ _ _ _ (fun _ => HealthPhase) _ _
      (fun _ => healthCycle) (fun _ _ _ => True)
      (fun phases shared =>
        (∀ caller, SharedHealth.Truthful shared caller (phases caller)) ∧ shared.Ordered)
      (by
        rintro phases shared caller op ⟨truthful, ordered⟩ allowed _
        refine ⟨_, SharedHealth.answers_sharedHealth, ?_, ordered.step (truthful caller) allowed⟩
        refine (Function.forall_update_iff phases
          (fun other phase => SharedHealth.Truthful _ other phase)).mpr ⟨?_, ?_⟩
        · exact (truthful caller).step ordered allowed
        · exact fun other different => (truthful other).others different allowed)
      _ config (fun _ => ⟨[], .checking⟩) (fun _ => HealthDaemon.meets_execute)
      (by
        refine ⟨fun caller => ⟨rfl, ?_, ?_, ?_, ?_⟩, .inl rfl, List.nodup_nil, ?_⟩
        · rintro severity ⟨⟩
        · rintro event ⟨⟩
        · rintro severity ⟨⟩
        · rintro severity ⟨⟩
        · intro later entry earlier split
          exact absurd split (by simp [healthCycles]))
      reached
  refine ⟨?_, ?_, ordered.once, ordered.recoveries⟩
  · intro entry mem
    rw [← (truthful entry.1).told]
    exact ((truthful entry.1).analysed entry.2 mem).2
  · exact fun entry mem => ((truthful entry.1).published entry.2 mem).2

-----------------------------------------------------------------------------------------
-- What is announced when announcements do not overlap
-----------------------------------------------------------------------------------------

/-- The latest of some values counts once with what it is like. -/
theorem destutter_cons_of_head {α : Type} [DecidableEq α] {list : List α} {first : α}
    (head : list.head? = some first) (value : α)
    : (value :: list).destutter (· ≠ ·)
      = if value = first then list.destutter (· ≠ ·) else value :: list.destutter (· ≠ ·) := by
  cases list with
  | nil => contradiction
  | cons next rest =>
      obtain rfl : next = first := Option.some.inj head
      rw [List.destutter_cons_cons]
      by_cases same : value = next
      · rw [if_neg (not_not_intro same), if_pos same, same, List.destutter_cons']
      · rw [if_pos same, if_neg same, List.destutter_cons']

namespace SharedHealth

variable (shared : SharedHealth ι)

/-- The severities that the cycles have come to, the latest first. -/
def severities : List Severity :=
  shared.analysed.map Prod.snd ++ [.healthy]

/-- The severities that have been published, the latest first. -/
def announcements : List Severity :=
  shared.published.map (fun entry => entry.2.tells) ++ [.healthy]

/-- The severities that are unlike the one before. -/
def changes : List Severity :=
  shared.severities.destutter (· ≠ ·)

/-- What is announced is what has changed: nothing is under way and the latest severity is stored,
or one cycle is announcing it.
-/
inductive Current (phases : ι → HealthPhase) : Prop where
  | stored (underway : shared.underway = [])
    (idle : ∀ caller, (phases caller).stage.isUnderway = false)
    (latest : shared.severities.head? = some shared.world.previousSeverity)
    (told : shared.announcements = shared.changes)
  | announcing (caller : ι) (severity : Severity) (underway : shared.underway = [caller])
    (idle : ∀ other, other ≠ caller → (phases other).stage.isUnderway = false)
    (stage : (phases caller).stage = .announcing severity)
    (latest : shared.severities.head? = some severity)
    (told : severity :: shared.announcements = shared.changes)
  | announced (caller : ι) (severity : Severity) (underway : shared.underway = [caller])
    (idle : ∀ other, other ≠ caller → (phases other).stage.isUnderway = false)
    (stage : (phases caller).stage = .announced severity)
    (latest : shared.severities.head? = some severity)
    (told : shared.announcements = shared.changes)

variable {shared} {later : SharedHealth ι} {phases after : ι → HealthPhase} {caller : ι}
  {op : HealthCall} {elapsed : Nat → Nat} {faults : Nat → Option Thrown}
  {queues : Nat → Option Bool}

omit [DecidableEq ι] in
/-- Only the stages of the cycles count. -/
theorem Current.congr (current : shared.Current phases)
    (stages : ∀ caller, (after caller).stage = (phases caller).stage)
    (underway : later.underway = shared.underway) (analysed : later.analysed = shared.analysed)
    (published : later.published = shared.published)
    (previous : later.world.previousSeverity = shared.world.previousSeverity)
    : later.Current after := by
  have severities : later.severities = shared.severities := by rw [severities, analysed, severities]
  have announcements : later.announcements = shared.announcements := by
    rw [announcements, published, announcements]
  have changes : later.changes = shared.changes := by rw [changes, severities, changes]
  cases current with
  | stored none idle latest told =>
      refine .stored (underway.trans none) (fun caller => ?_) ?_ ?_
      · rw [stages]
        exact idle caller
      · rw [severities, previous]
        exact latest
      · rw [announcements, changes]
        exact told
  | announcing caller severity one idle stage latest told =>
      refine .announcing caller severity (underway.trans one) (fun other different => ?_)
        ((stages caller).trans stage) ?_ ?_
      · rw [stages]
        exact idle other different
      · rw [severities]
        exact latest
      · rw [announcements, changes]
        exact told
  | announced caller severity one idle stage latest told =>
      refine .announced caller severity (underway.trans one) (fun other different => ?_)
        ((stages caller).trans stage) ?_ ?_
      · rw [stages]
        exact idle other different
      · rw [severities]
        exact latest
      · rw [announcements, changes]
        exact told

/-- A severity is compared with the latest one. -/
theorem Current.differs {severity : Severity} (current : shared.Current phases)
    (underway : shared.underway = [])
    : (sharedHealth elapsed faults queues caller (.differs severity) shared).2.Current
        (Function.update phases caller
          ((phases caller).after (.differs severity)
            (sharedHealth elapsed faults queues caller (.differs severity) shared).1)) := by
  cases current with
  | announcing busy _ one => exact absurd (underway.symm.trans one) (by rintro ⟨⟩)
  | announced busy _ one => exact absurd (underway.symm.trans one) (by rintro ⟨⟩)
  | stored _ idle latest told =>
      have others {next : HealthPhase} (other : ι) (different : other ≠ caller)
          : (Function.update phases caller next other).stage.isUnderway = false := by
        rw [Function.update_of_ne different]
        exact idle other
      simp only [sharedHealth, healthServer]
      by_cases same : severity = shared.world.previousSeverity
      · rw [decide_eq_false (not_not_intro same)]
        refine .stored underway (fun other => ?_) (congrArg some same) ?_
        · by_cases here : other = caller
          · rw [here, Function.update_self]
            rfl
          · exact others other here
        · exact told.trans ((destutter_cons_of_head latest severity).trans (if_pos same)).symm
      · rw [decide_eq_true same]
        refine .announcing caller severity (congrArg (List.cons caller) underway) others ?_ rfl ?_
        · rw [Function.update_self]
          rfl
        · refine Eq.trans ?_ ((destutter_cons_of_head latest severity).trans (if_neg same)).symm
          exact congrArg (List.cons severity) told

/-- Who is at work is the one who announces. -/
theorem eq_of_isUnderway {busy : ι}
    (idle : ∀ other, other ≠ busy → (phases other).stage.isUnderway = false)
    (isUnderway : (phases caller).stage.isUnderway = true)
    : caller = busy := by
  by_contra different
  rw [idle caller different] at isUnderway
  contradiction

theorem Current.publish {event : HealthEvent} (current : shared.Current phases)
    (allowed : (phases caller).stage = .announcing event.tells)
    : (sharedHealth elapsed faults queues caller (.publish event) shared).2.Current
        (Function.update phases caller
          ((phases caller).after (.publish event)
            (sharedHealth elapsed faults queues caller (.publish event) shared).1)) := by
  have isUnderway : (phases caller).stage.isUnderway = true := by rw [allowed]; rfl
  cases current with
  | stored _ idle =>
      rw [idle caller] at isUnderway
      contradiction
  | announced busy severity one idle stage =>
      obtain rfl := eq_of_isUnderway idle isUnderway
      exact absurd (allowed.symm.trans stage) (by rintro ⟨⟩)
  | announcing busy severity one idle stage latest told =>
      obtain rfl := eq_of_isUnderway idle isUnderway
      cases stage.symm.trans allowed
      refine .announced caller event.tells one (fun other different => ?_) ?_ latest told
      · rw [Function.update_of_ne different]
        exact idle other different
      · rw [Function.update_self]
        rfl

theorem Current.setSeverity {severity : Severity} (current : shared.Current phases)
    (allowed : (phases caller).stage = .announced severity)
    : (sharedHealth elapsed faults queues caller (.setSeverity severity) shared).2.Current
        (Function.update phases caller
          ((phases caller).after (.setSeverity severity)
            (sharedHealth elapsed faults queues caller (.setSeverity severity) shared).1)) := by
  have isUnderway : (phases caller).stage.isUnderway = true := by rw [allowed]; rfl
  cases current with
  | stored _ idle =>
      rw [idle caller] at isUnderway
      contradiction
  | announcing busy other one idle stage =>
      obtain rfl := eq_of_isUnderway idle isUnderway
      exact absurd (allowed.symm.trans stage) (by rintro ⟨⟩)
  | announced busy other one idle stage latest told =>
      obtain rfl := eq_of_isUnderway idle isUnderway
      cases stage.symm.trans allowed
      refine .stored ?_ (fun other => ?_) latest told
      · have erased : shared.underway.erase caller = [] := by
          rw [one]
          exact List.erase_cons_head ..
        exact erased
      · by_cases here : other = caller
        · rw [here, Function.update_self]
          rfl
        · rw [Function.update_of_ne here]
          exact idle other here

/-- By the kind of call. -/
theorem Current.step (current : shared.Current phases)
    (allowed : healthCycle.allows (phases caller) op) (permitted : storedFirst shared caller op)
    : (sharedHealth elapsed faults queues caller op shared).2.Current
        (Function.update phases caller
          ((phases caller).after op
            (sharedHealth elapsed faults queues caller op shared).1)) := by
  have quiet (isVerdict : op.isVerdict = false)
      : (sharedHealth elapsed faults queues caller op shared).2.Current
        (Function.update phases caller
          ((phases caller).after op
            (sharedHealth elapsed faults queues caller op shared).1)) := by
    have quiet
        : Quiet shared (sharedHealth elapsed faults queues caller op shared).2 caller op
            (phases caller) _ :=
      quiet_sharedHealth (phases caller) isVerdict
    refine current.congr (fun other => ?_) quiet.underway quiet.analysed quiet.published
      quiet.previous
    by_cases here : other = caller
    · rw [here, Function.update_self]
      exact quiet.stage
    · rw [Function.update_of_ne here]
  cases op with
  | differs severity => exact current.differs (permitted rfl)
  | publish event => exact current.publish allowed
  | setSeverity severity => exact current.setSeverity allowed
  | _ => exact quiet rfl

end SharedHealth

/-- When the severities of a daemon's cycles are compared while nothing that was announced before
waits to be stored, the published events tell the changes of the severity and nothing else, whatever
the dependencies and the publisher throw and however the pings of the cycles overlap.
-/
theorem published_changes (checker : DependencyChecker) (logger : Bool) (elapsed : Nat → Nat)
    (faults : Nat → Option Thrown) (queues : Nat → Option Bool) (now : Int)
    (gauges : HealthGauge → Int)
    {config : Configuration HealthSignature Thrown ι Unit (SharedHealth ι)}
    (reached
      : Configuration.Reachable (sharedHealth elapsed faults queues) storedFirst
          (healthCycles (initializeHealth checker true logger) now gauges) config)
    (stored : config.world.underway = [])
    : config.world.published.map (fun entry => entry.2.tells) ++ [Severity.healthy]
      = (config.world.analysed.map Prod.snd ++ [Severity.healthy]).destutter (· ≠ ·) := by
  obtain ⟨phases, _, current⟩ :=
    @Configuration.Reachable.invariant _ _ _ _ _ _ (fun _ => HealthPhase) _ _
      (fun _ => healthCycle) (fun _ _ _ => True) (fun phases shared => shared.Current phases)
      (fun _ _ _ _ current allowed permitted =>
        ⟨_, SharedHealth.answers_sharedHealth, current.step allowed permitted⟩)
      _ config (fun _ => ⟨[], .checking⟩) (fun _ => HealthDaemon.meets_execute)
      (.stored rfl (fun _ => rfl) rfl rfl) reached
  cases current with
  | stored _ _ _ told => exact told
  | announcing busy _ one => exact absurd (stored.symm.trans one) (by rintro ⟨⟩)
  | announced _ _ _ _ _ _ told => exact told

end

/-- Two cycles overlap: the first one is told that the connection to Redis is closed. -/
def overlappingCycles : Configuration HealthSignature Thrown Bool Unit (SharedHealth Bool) :=
  (healthCycles (initializeHealth ⟨none, some true, none⟩ true true) 0 (fun _ => 0)).follow
    (sharedHealth (fun _ => 1) (fun step => if step = 3 then some (.text "closed") else none)
      (fun _ => none))
    (List.replicate 12 false ++ List.replicate 12 true ++ List.replicate 4 false
      ++ List.replicate 4 true)

theorem published_changes_recovery
    : overlappingCycles.world.published.map (fun entry => entry.2.tells) ++ [Severity.healthy]
      = (overlappingCycles.world.analysed.map Prod.snd ++ [Severity.healthy]).destutter (· ≠ ·) :=
  published_changes ⟨none, some true, none⟩ true (fun _ => 1)
    (fun step => if step = 3 then some (.text "closed") else none) (fun _ => none) 0 (fun _ => 0)
    (Configuration.reachable_follow _ _ rfl) rfl

theorem published_truthfully_recovery
    : (∀ entry ∈ overlappingCycles.world.analysed,
        entry.2 = rated (overlappingCycles.world.failuresOf entry.1))
      ∧ (∀ entry ∈ overlappingCycles.world.published,
          (entry.1, entry.2.tells) ∈ overlappingCycles.world.analysed)
      ∧ (overlappingCycles.world.published.map Prod.fst).Nodup
      ∧ ∀ later entry earlier,
          overlappingCycles.world.published = later ++ entry :: earlier
          → entry.2.tells = .healthy
          → ∃ alert ∈ earlier, alert.2.tells ≠ .healthy :=
  published_truthfully ⟨none, some true, none⟩ true (fun _ => 1)
    (fun step => if step = 3 then some (.text "closed") else none) (fun _ => none) 0 (fun _ => 0)
    (Configuration.reachable_follow _ _ rfl)

end QueueForge.Daemon
