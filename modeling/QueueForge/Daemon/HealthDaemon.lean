import Mathlib.Logic.Function.Basic
import QueueForge.Async.Program
import QueueForge.Js.Errors

/-! `HealthDaemon`: each of its cycles asks the database, Redis and the queue for a sign of life,
rates the answers and announces a severity that is not the one it has stored.
-/

namespace QueueForge.Daemon

open QueueForge.Async QueueForge.Js

-----------------------------------------------------------------------------------------
-- Health of the dependencies
-----------------------------------------------------------------------------------------

inductive Severity where
  | healthy
  | degraded
  | unhealthy
deriving DecidableEq, Repr

/-- `severity.toUpperCase()`. -/
def Severity.upperCase : Severity → String
  | healthy => "HEALTHY"
  | degraded => "DEGRADED"
  | unhealthy => "UNHEALTHY"

structure HealthStatusDetail where
  healthy : Bool
  latencyMs : Int
  error : Option String := none
deriving DecidableEq, Repr

/-- A status is a word, in capitals or not, or has details. -/
inductive HealthStatus where
  | upper (severity : Severity)
  | lower (severity : Severity)
  | detail (status : HealthStatusDetail)
deriving DecidableEq, Repr

structure DependencyStatus where
  database : HealthStatus
  redis : HealthStatus
  queue : HealthStatus
  allHealthy : Bool
  overall : Option HealthStatus := none
  timestamp : Option Int := none
deriving DecidableEq, Repr

/-- The checker, the analyzer and the daemon read a status alike. -/
def HealthStatus.isHealthy : HealthStatus → Bool
  | upper severity => decide (severity = .healthy)
  | lower severity => decide (severity = .healthy)
  | detail status => status.healthy

/-- `healthy ? 'HEALTHY' : 'UNHEALTHY'`. -/
def HealthStatus.word (healthy : Bool) : HealthStatus :=
  .upper (if healthy then .healthy else .unhealthy)

def HealthStatus.getLatency : HealthStatus → Int
  | detail status => status.latencyMs
  | _ => 0

-----------------------------------------------------------------------------------------
-- HealthAnalyzer
-----------------------------------------------------------------------------------------

structure HealthAnalysis where
  score : Int
  severity : Severity
  summary : String
  details : HealthStatus × HealthStatus × HealthStatus
deriving DecidableEq, Repr

namespace HealthAnalyzer

/-- What a dependency adds to the score: ten points less when it is slow. -/
def points (status : HealthStatus) (worth limitMs : Int) : Int :=
  if status.isHealthy then
    if status.getLatency > limitMs then worth - 10 else worth
  else
    0

/-- Calculates weighted score from 0 to 100 based on dependency health checks and roundtrip latency
bounds.
-/
def calculateScore (checks : DependencyStatus) : Int :=
  max 0 (min 100
    (points checks.database 35 500 + points checks.redis 35 200 + points checks.queue 30 300))

/-- The checks that have failed. -/
def failedCount (checks : DependencyStatus) : Nat :=
  ([checks.database, checks.redis, checks.queue].filter (fun status => !status.isHealthy)).length

/-- Determines severity label from score or checks state. -/
def determineSeverity (score : Int) (checks : DependencyStatus) : Severity :=
  if failedCount checks ≥ 2 then .unhealthy
  else if failedCount checks = 1 then .degraded
  else if score ≥ 90 then .healthy
  else if score ≥ 50 then .degraded
  else .unhealthy

/-- Computes health score, severity classification, and system status analysis. -/
def analyze (checks : DependencyStatus) : HealthAnalysis :=
  let score := calculateScore checks
  let severity := determineSeverity score checks
  {
    score
    severity
    summary := s!"System health score: {score}/100 ({severity.upperCase})"
    details := (checks.database, checks.redis, checks.queue)
  }

end HealthAnalyzer

-----------------------------------------------------------------------------------------
-- What a cycle awaits
-----------------------------------------------------------------------------------------

/-- What a connection pool may be asked, in the order in which it is looked for: `$queryRaw`,
`$queryRawUnsafe`, `query` and `ping`.
-/
inductive PoolMethod where
  | queryRaw
  | queryRawUnsafe
  | query
  | ping
deriving DecidableEq, Repr

/-- What a queue manager may be asked for its counts. -/
inductive CountMethod where
  | getJobCounts
  | getStats
deriving DecidableEq, Repr

inductive AlertSeverity where
  | warning
  | critical
deriving DecidableEq, Repr

/-- The events that the publisher is given. -/
inductive HealthEvent where
  | alert (severity : AlertSeverity) (message : String)
    (details : HealthStatus × HealthStatus × HealthStatus) (timestamp : Int)
  | recovered (serviceName message : String) (timestamp : Int)
deriving DecidableEq, Repr

def HealthEvent.type : HealthEvent → String
  | alert .warning _ _ _ => "alert.system_health_warning"
  | alert .critical _ _ _ => "alert.system_health_critical"
  | recovered _ _ _ => "alert.service_recovered"

/-- The severity that an event announces. -/
def HealthEvent.tells : HealthEvent → Severity
  | alert .warning _ _ _ => .degraded
  | alert .critical _ _ _ => .unhealthy
  | recovered _ _ _ => .healthy

inductive HealthGauge where
  | database
  | redis
  | queue
  | score
deriving DecidableEq, Repr

inductive HealthCall where
  | now
  | query (method : PoolMethod)
  | ping
  | count (method : CountMethod)
  /-- A queue, and whether it has a `getJobCounts`. -/
  | getMainQueue
  | countMainQueue
  | setGauge (gauge : HealthGauge) (value : Int)
  /-- `severity !== this.previousSeverity`. -/
  | differs (severity : Severity)
  | publish (event : HealthEvent)
  /-- `this.previousSeverity = severity`. -/
  | setSeverity (severity : Severity)
deriving DecidableEq, Repr

namespace HealthCall

abbrev Result : HealthCall → Type
  | now => Int
  | getMainQueue => Option Bool
  | differs _ => Bool
  | _ => Unit

/-- A dependency is asked. -/
def isPing : HealthCall → Bool
  | query _ => true
  | ping => true
  | count _ => true
  | getMainQueue => true
  | countMainQueue => true
  | _ => false

/-- A severity is compared, published or stored. -/
def isVerdict : HealthCall → Bool
  | differs _ => true
  | publish _ => true
  | setSeverity _ => true
  | _ => false

/-- A severity is compared. -/
def compares : HealthCall → Bool
  | differs _ => true
  | _ => false

/-- What others than the daemon itself answer. -/
def isRemote (call : HealthCall) : Bool :=
  match call with
  | publish _ => true
  | _ => call.isPing

end HealthCall

abbrev HealthSignature : Signature where
  Op := HealthCall
  Result := HealthCall.Result

abbrev HealthProgram (α : Type) : Type := Program HealthSignature Thrown α

def awaitHealth (call : HealthCall) : HealthProgram call.Result :=
  Program.perform (S := HealthSignature) call

/-- `err.message` of nothing throws in turn. -/
def readMessage (err : Thrown) : Settled Thrown (Option String) :=
  match err with
  | .nullish => .error (newTypeError "Cannot read properties of undefined (reading 'message')")
  | err => .ok err.message

/-- `this.logger?.error?.(err.message)`: without a logger the message is not read. -/
def logError (logger : Bool) (err : Thrown) : HealthProgram Unit :=
  if logger then Program.ofResult ((readMessage err).map (fun _ => ())) else return ()

-----------------------------------------------------------------------------------------
-- DependencyChecker
-----------------------------------------------------------------------------------------

/-- The dependencies that there are, and the methods they have. -/
structure DependencyChecker where
  connectionPool : Option (PoolMethod → Bool)
  redisPool : Option Bool
  queueManager : Option ((CountMethod → Bool) × Bool)

namespace DependencyChecker

/-- `err.message || String(err)`. -/
def errorText (err : Thrown) : Settled Thrown String := do
  let message ← readMessage err
  return if message.getD "" = "" then err.rendered else message.getD ""

/-- A check: how long the dependency took, and with what it failed. -/
def timed (ask : HealthProgram Unit) : HealthProgram HealthStatusDetail := do
  let start ← awaitHealth .now
  Program.catchError
    (do
      ask
      let answered ← awaitHealth .now
      return { healthy := true, latencyMs := answered - start })
    (fun err => do
      let failed ← awaitHealth .now
      let error ← Program.ofResult (errorText err)
      return { healthy := false, latencyMs := failed - start, error := some error })

variable (checker : DependencyChecker)

/-- Checks database connectivity via SELECT 1 ping. -/
def checkDatabase : HealthProgram HealthStatusDetail :=
  timed (
    match checker.connectionPool with
    | none => return ()
    | some has =>
        if has .queryRaw then awaitHealth (.query .queryRaw)
        else if has .queryRawUnsafe then awaitHealth (.query .queryRawUnsafe)
        else if has .query then awaitHealth (.query .query)
        else if has .ping then awaitHealth (.query .ping)
        else return ())

/-- Checks Redis connectivity via PING command. -/
def checkRedis : HealthProgram HealthStatusDetail :=
  timed (if checker.redisPool = some true then awaitHealth .ping else return ())

/-- Checks message queue manager availability. -/
def checkQueue : HealthProgram HealthStatusDetail :=
  timed (
    match checker.queueManager with
    | none => return ()
    | some (has, hasMainQueue) =>
        if has .getJobCounts then awaitHealth (.count .getJobCounts)
        else if has .getStats then awaitHealth (.count .getStats)
        else if hasMainQueue then do
          let q ← awaitHealth .getMainQueue
          if q = some true then awaitHealth .countMainQueue else return ()
        else return ())

/-- Executes concurrent health check pings across database, redis, and queue dependencies. None of
the three sees anything of the others: they are taken one after the other, and what one of them
throws is thrown when all have ended.
-/
def checkAll : HealthProgram DependencyStatus := do
  let dbSettled ← checker.checkDatabase.settle
  let redisSettled ← checker.checkRedis.settle
  let queueSettled ← checker.checkQueue.settle
  let dbRes ← Program.ofResult dbSettled
  let redisRes ← Program.ofResult redisSettled
  let queueRes ← Program.ofResult queueSettled
  let allHealthy := dbRes.healthy && redisRes.healthy && queueRes.healthy
  let timestamp ← awaitHealth .now
  return {
    database := .word dbRes.healthy
    redis := .word redisRes.healthy
    queue := .word queueRes.healthy
    allHealthy
    overall := some (.word allHealthy)
    timestamp := some timestamp
  }

end DependencyChecker

-----------------------------------------------------------------------------------------
-- AlertPublisher
-----------------------------------------------------------------------------------------

/-- What events are published with, and whether there is a logger. -/
structure AlertPublisher where
  eventPublisher : Bool
  logger : Bool

namespace AlertPublisher

variable (alerter : AlertPublisher)

/-- Dispatches warning or critical health degradation alerts. -/
def publishAlert (severity : AlertSeverity) (message : String)
    (details : HealthStatus × HealthStatus × HealthStatus)
    : HealthProgram Unit := do
  let timestamp ← awaitHealth .now
  if alerter.eventPublisher then
    Program.catchError (awaitHealth (.publish (.alert severity message details timestamp)))
      (logError alerter.logger)
  else
    return ()

/-- Dispatches service recovery event when a degraded or unhealthy component returns to healthy
state.
-/
def publishRecovery (serviceName : String) : HealthProgram Unit :=
  if alerter.eventPublisher then
    Program.catchError
      (do
        let timestamp ← awaitHealth .now
        awaitHealth (.publish (.recovered serviceName
          s!"Service \"{serviceName}\" has recovered and returned to HEALTHY status." timestamp)))
      (fun _ => return ())
  else
    return ()

end AlertPublisher

-----------------------------------------------------------------------------------------
-- HealthDaemon
-----------------------------------------------------------------------------------------

structure HealthDaemon where
  checker : Option DependencyChecker
  alerter : Option AlertPublisher
  logger : Bool

namespace HealthDaemon

/-- What is taken for granted without a checker. -/
def assumed : DependencyStatus where
  database := .detail { healthy := true, latencyMs := 5 }
  redis := .detail { healthy := true, latencyMs := 2 }
  queue := .detail { healthy := true, latencyMs := 3 }
  allHealthy := true

/-- The checks, or what is assumed of them when the checker throws: the database is at fault. -/
def checks (daemon : HealthDaemon) : HealthProgram DependencyStatus :=
  match daemon.checker with
  | none => return assumed
  | some checker =>
      Program.catchError checker.checkAll
        (fun err => do
          logError daemon.logger err
          return {
            assumed with
            allHealthy := false
            database := .detail { healthy := false, latencyMs := 5 }
          })

/-- The announcement of a severity. -/
def announce (alerter : AlertPublisher) (analysis : HealthAnalysis) : HealthProgram Unit :=
  match analysis.severity with
  | .unhealthy =>
      alerter.publishAlert .critical "System health status transitioned to UNHEALTHY"
        analysis.details
  | .degraded =>
      alerter.publishAlert .warning "System health status transitioned to DEGRADED"
        analysis.details
  | .healthy => alerter.publishRecovery "Infrastructure Dependencies"

/-- Executes a single health check monitoring cycle. -/
def execute (daemon : HealthDaemon) : HealthProgram Unit := do
  let checks ← daemon.checks
  let reading (status : HealthStatus) : Int := if status.isHealthy then 1 else 0
  awaitHealth (.setGauge .database (reading checks.database))
  awaitHealth (.setGauge .redis (reading checks.redis))
  awaitHealth (.setGauge .queue (reading checks.queue))
  let analysis := HealthAnalyzer.analyze checks
  awaitHealth (.setGauge .score analysis.score)
  let changed ← awaitHealth (.differs analysis.severity)
  if changed then
    match daemon.alerter with
    | some alerter => announce alerter analysis
    | none => pure ()
    awaitHealth (.setSeverity analysis.severity)

end HealthDaemon

/-- The health daemon of `initializeDaemonModule`. -/
def initializeHealth (checker : DependencyChecker) (eventPublisher logger : Bool)
    : HealthDaemon where
  checker := some checker
  alerter := some { eventPublisher, logger }
  logger := logger

end QueueForge.Daemon
