import Mathlib.Data.PNat.Notation
import Mathlib.Logic.Function.Basic
import QueueForge.Async.Throughout
import QueueForge.Js.DateTime
import QueueForge.Js.Values

/-! `QuotaTracker`: the usage of an API key in the hour, the day and the month.
How the language upper-cases letters is left open.
-/

namespace QueueForge.RateLimiting

open QueueForge.Async QueueForge.Js

inductive Period where
  | hour
  | day
  | month
deriving DecidableEq

def Period.text : Period → String
  | hour => "hour"
  | day => "day"
  | month => "month"

/-- How much of a date tells the period. -/
def Period.dateLength : Period → Nat
  | hour => 13
  | day => 10
  | month => 7

structure QuotaDefinition where
  name : String
  limit : Number

/-- The functions a store has. `RedisOperations` has `get` only. -/
structure QuotaOps where
  get : Bool
  incrby : Bool

structure QuotaTracker where
  redisOps : Option QuotaOps
  definitions : List QuotaDefinition
  upperCase : String → String

/-- The usage in memory and in the store, by its keys. Without an entry there is none in memory. -/
structure QuotaUsage where
  memoryUsage : String → Nat
  redis : String → Option Nat

/-- An operation, when it is checked and recorded, and whether the store rejects a command. -/
structure QuotaOperation where
  checkedAt : Int
  recordedAt : Period → Int
  count : ℕ+
  getRejected : Bool
  incrbyRejected : Period → Bool

structure QuotaCheck where
  allowed : Bool
  remaining : Number

namespace QuotaTracker

/-- The hourly limits of the tiers. -/
def hourlyLimits : List (String × Number) :=
  [("FREE", 100), ("PRO", 10000), ("ENTERPRISE", .posInfinity)]

def getQuotaKey (apiKeyId : String) (period : Period) (now : Int) : String :=
  s!"queueforge:quota:{apiKeyId}:"
  ++ (period.text ++ (":" ++ String.ofList ((toISOString now).toList.take period.dateLength)))

variable (tracker : QuotaTracker)

/-- `definitionsMap.get`. Of two definitions the later one counts. -/
def definition? (name : String) : Option Number :=
  (tracker.definitions.reverse.find? (fun entry => entry.name ≠ "" ∧ entry.name = name)).map
    QuotaDefinition.limit

/-- The limit of an operation, by its definition or by the tier. -/
def limitOf (tierOrOperation operationParam : String) : Number :=
  match tracker.definition? tierOrOperation with
  | some limit => limit
  | none =>
      match tracker.definition? operationParam with
      | some limit => limit
      | none => (hourlyLimits.lookup (tracker.upperCase tierOrOperation)).getD 100

/-- The count in the store, else the one in memory. -/
def getCurrentCount (usage : QuotaUsage) (apiKeyId : String) (period : Period) (now : Int)
    (rejected : Bool)
    : Nat :=
  let key := getQuotaKey apiKeyId period now
  if tracker.redisOps.any QuotaOps.get && !rejected then
    (usage.redis key).getD (usage.memoryUsage key)
  else
    usage.memoryUsage key

/-- Asserts whether an API key has remaining quota volume under its current tier. The count of the
operation is not looked at.
-/
def checkQuota (usage : QuotaUsage) (apiKeyId tierOrOperation operationParam : String)
    (operation : QuotaOperation)
    : QuotaCheck :=
  let limit := tracker.limitOf tierOrOperation operationParam
  if limit = .posInfinity then
    { allowed := true, remaining := .posInfinity }
  else
    let currentUsage : Number :=
      .ofInt (tracker.getCurrentCount usage apiKeyId .hour operation.checkedAt operation.getRejected)
    { allowed := currentUsage.lt limit, remaining := Number.max 0 (limit.add currentUsage.neg) }

/-- The usage of one period, in memory and in the store. -/
def trackPeriod (apiKeyId : String) (operation : QuotaOperation) (usage : QuotaUsage)
    (period : Period)
    : QuotaUsage :=
  let key := getQuotaKey apiKeyId period (operation.recordedAt period)
  let count : Nat := operation.count
  {
    memoryUsage := Function.update usage.memoryUsage key (usage.memoryUsage key + count)
    redis :=
      if tracker.redisOps.any QuotaOps.incrby && !operation.incrbyRejected period then
        Function.update usage.redis key (some ((usage.redis key).getD 0 + count))
      else
        usage.redis
  }

/-- Increments usage counters for a specified operation and API key ID. -/
def trackUsage (apiKeyId : String) (operation : QuotaOperation) (usage : QuotaUsage)
    : QuotaUsage :=
  if apiKeyId = "" then
    usage
  else
    [Period.hour, .day, .month].foldl (tracker.trackPeriod apiKeyId operation) usage

-----------------------------------------------------------------------------------------
-- Operations that are performed only if their check allows them
-----------------------------------------------------------------------------------------

section
variable (apiKeyId tierOrOperation operationParam : String)

/-- An operation is performed and recorded if its check allows it. -/
def perform (operation : QuotaOperation) (usage : QuotaUsage) : QuotaUsage :=
  if (tracker.checkQuota usage apiKeyId tierOrOperation operationParam operation).allowed then
    tracker.trackUsage apiKeyId operation usage
  else
    usage

/-- Nothing has been recorded. -/
def unused : QuotaUsage where
  memoryUsage _ := 0
  redis _ := none

/-- The usage recorded for the hour of a time. -/
def recorded (usage : QuotaUsage) (now : Int) : Nat :=
  usage.memoryUsage (getQuotaKey apiKeyId .hour now)

/-- In no hour more than the limit is recorded. -/
def WithinQuota (usage : QuotaUsage) : Prop :=
  ∀ now,
    recorded apiKeyId usage now = 0
    ∨ (Number.ofInt (recorded apiKeyId usage now)).le
        (tracker.limitOf tierOrOperation operationParam)
      = true

/-- Where an operation finds a usage below the limit, its count fits as well into what is left of
the hour it is recorded in.
-/
def CountFits (operation : QuotaOperation) (usage : QuotaUsage) : Prop :=
  let limit := tracker.limitOf tierOrOperation operationParam
  let currentUsage :=
    tracker.getCurrentCount usage apiKeyId .hour operation.checkedAt operation.getRejected
  apiKeyId ≠ ""
  → (Number.ofInt currentUsage).lt limit = true
  → (Number.ofInt
        (recorded apiKeyId usage (operation.recordedAt .hour) + operation.count : Nat)).le
        limit
      = true

end

section
variable {tracker} {apiKeyId tierOrOperation operationParam : String} {operation : QuotaOperation}
  {usage : QuotaUsage}

/-- The keys of two periods are apart. -/
theorem period_eq_of_getQuotaKey {period other : Period} {now later : Int}
    (same : getQuotaKey apiKeyId period now = getQuotaKey apiKeyId other later)
    : period = other := by
  have rest := (String.append_right_inj _).mp same
  have chars := congrArg (fun text => text.toList.head?) rest
  cases period <;> cases other <;> first | rfl | simp [Period.text] at chars

/-- Recording for the hour adds the count to the hour it comes in. -/
theorem trackPeriod_recorded (now : Int)
    : recorded apiKeyId (tracker.trackPeriod apiKeyId operation usage .hour) now
      = if getQuotaKey apiKeyId .hour now
            = getQuotaKey apiKeyId .hour (operation.recordedAt .hour) then
          recorded apiKeyId usage (operation.recordedAt .hour) + operation.count
        else
          recorded apiKeyId usage now := by
  simp only [recorded, trackPeriod, Function.update_apply]

theorem trackPeriod_recorded_of_ne {period : Period} (other : period ≠ .hour) (now : Int)
    : recorded apiKeyId (tracker.trackPeriod apiKeyId operation usage period) now
      = recorded apiKeyId usage now := by
  refine Function.update_of_ne (fun same => other ?_) _ _
  exact (period_eq_of_getQuotaKey same).symm

/-- An operation that is recorded adds its count to the hour it is recorded in. -/
theorem trackUsage_recorded (named : apiKeyId ≠ "") (now : Int)
    : recorded apiKeyId (tracker.trackUsage apiKeyId operation usage) now
      = if getQuotaKey apiKeyId .hour now
            = getQuotaKey apiKeyId .hour (operation.recordedAt .hour) then
          recorded apiKeyId usage (operation.recordedAt .hour) + operation.count
        else
          recorded apiKeyId usage now := by
  rw [trackUsage, if_neg named]
  simp only [List.foldl_cons, List.foldl_nil]
  rw [trackPeriod_recorded_of_ne (by decide), trackPeriod_recorded_of_ne (by decide),
    trackPeriod_recorded]

/-- A check allows what finds a usage below the limit. -/
theorem checkQuota_allowed
    : (tracker.checkQuota usage apiKeyId tierOrOperation operationParam operation).allowed
      = (Number.ofInt
          (tracker.getCurrentCount usage apiKeyId .hour operation.checkedAt
            operation.getRejected)).lt
          (tracker.limitOf tierOrOperation operationParam) := by
  unfold checkQuota
  dsimp only
  split
  · next unlimited =>
    rw [unlimited]
    rfl
  · rfl

/-- An operation keeps the hours within the limit if and only if its count fits where it finds
some room.
-/
theorem perform_withinQuota_iff
    (within : tracker.WithinQuota apiKeyId tierOrOperation operationParam usage)
    : tracker.WithinQuota apiKeyId tierOrOperation operationParam
          (tracker.perform apiKeyId tierOrOperation operationParam operation usage)
      ↔ tracker.CountFits apiKeyId tierOrOperation operationParam operation usage := by
  rw [perform, checkQuota_allowed, CountFits]
  by_cases named : apiKeyId = ""
  · have kept : tracker.trackUsage apiKeyId operation usage = usage := if_pos named
    rw [kept, ite_self]
    exact iff_of_true within (fun filled => absurd named filled)
  split
  · next allowed =>
    constructor
    · intro after _ _
      have hour := after (operation.recordedAt .hour)
      rw [trackUsage_recorded named, if_pos rfl] at hour
      refine hour.resolve_left ?_
      exact (Nat.add_pos_right _ operation.count.pos).ne'
    · intro fits now
      rw [trackUsage_recorded named]
      split
      · exact .inr (fits named allowed)
      · exact within now
  · next refused => exact iff_of_true within (fun _ allowed => absurd allowed refused)

end

/-- No hour ever has more recorded than the limit, if and only if the count of every operation that
finds some room fits into it.
-/
theorem within_quota_iff (apiKeyId tierOrOperation operationParam : String)
    (operations : List QuotaOperation)
    : Throughout (tracker.perform apiKeyId tierOrOperation operationParam)
          (tracker.WithinQuota apiKeyId tierOrOperation operationParam) operations unused
      ↔ EveryStep (tracker.perform apiKeyId tierOrOperation operationParam)
          (tracker.CountFits apiKeyId tierOrOperation operationParam) operations unused := by
  refine throughout_iff_everyStep (fun _ within => within) ?_ ?_ operations (fun _ => .inl rfl)
  · exact fun _ _ within fits => (perform_withinQuota_iff within).mpr fits
  · exact fun _ _ within after => (perform_withinQuota_iff within).mp after

/-- A tracker in memory, with the tiers. -/
def inMemory : QuotaTracker where
  redisOps := none
  definitions := []
  upperCase := toUpperCase

/-- One operation of 150 results is within no hundred. -/
theorem large_operation_over_quota
    : ¬∀ (tracker : QuotaTracker) (apiKeyId tierOrOperation operationParam : String)
        (operations : List QuotaOperation),
        Throughout (tracker.perform apiKeyId tierOrOperation operationParam)
          (tracker.WithinQuota apiKeyId tierOrOperation operationParam) operations unused := by
  intro within
  let operation : QuotaOperation := ⟨0, fun _ => 0, 150, false, fun _ => false⟩
  have after := within inMemory "key" "FREE" "ingest" [operation] [operation] (List.prefix_refl _) 0
  revert after
  decide +kernel

end QuotaTracker

end QueueForge.RateLimiting
