import QueueForge.Async.Program
import QueueForge.Resilience.RetryPolicy

/-! `RetryExecutor.execute`: attempts until one succeeds or fails for good. A failure is recorded
on the span of its attempt before it is counted, and recording reads the error's message.
-/

namespace QueueForge.Resilience

open QueueForge.Js
open QueueForge.Async

/-- `new TimeoutError(operationName, timeoutMs)`. -/
def timeoutError (numberText : Number → String) (operationName : String) (timeoutMs : Number)
    : Thrown :=
  .error (applicationError .error "TimeoutError" "DELIVERY_TIMEOUT" 408
    s!"Operation {operationName} timed out after {numberText timeoutMs}ms")

/-- Metric collector recording retry attempts, delay times, and success rates. -/
structure RetryMetrics where
  totalAttempts : Nat := 0
  successfulAttempts : Nat := 0
  failedAttempts : Nat := 0
  firstAttemptSuccesses : Nat := 0
  retriedSuccesses : Nat := 0
  maxRetriesExceeded : Nat := 0
  totalDelayMs : Number := 0

namespace RetryMetrics

variable (metrics : RetryMetrics)

def recordAttempt : RetryMetrics := {
  metrics with totalAttempts := metrics.totalAttempts + 1
}

def recordSuccess (attemptNumber : Number) : RetryMetrics :=
  let metrics := { metrics with successfulAttempts := metrics.successfulAttempts + 1 }
  if attemptNumber = 1 then
    { metrics with firstAttemptSuccesses := metrics.firstAttemptSuccesses + 1 }
  else
    { metrics with retriedSuccesses := metrics.retriedSuccesses + 1 }

def recordFailure : RetryMetrics := {
  metrics with failedAttempts := metrics.failedAttempts + 1
}

def recordMaxRetriesExceeded : RetryMetrics := {
  metrics with maxRetriesExceeded := metrics.maxRetriesExceeded + 1
}

def recordDelay (delayMs : Number) : RetryMetrics := {
  metrics with totalDelayMs := metrics.totalDelayMs.plus delayMs
}

/-- Every attempt is counted as a success or as a failure. -/
def Balanced : Prop :=
  metrics.totalAttempts = metrics.successfulAttempts + metrics.failedAttempts

variable {metrics} {attemptNumber : Number}

theorem Balanced.success (balanced : metrics.Balanced)
    : (metrics.recordAttempt.recordSuccess attemptNumber).Balanced := by
  unfold Balanced recordSuccess recordAttempt at *
  simp only
  split <;> simp only [balanced] <;> omega

theorem Balanced.failure (balanced : metrics.Balanced)
    : metrics.recordAttempt.recordFailure.Balanced := by
  unfold Balanced recordFailure recordAttempt at *
  simp only [balanced]
  omega

theorem Balanced.delay (balanced : metrics.Balanced) (delayMs : Number)
    : (metrics.recordDelay delayMs).Balanced :=
  balanced

theorem Balanced.uncounted (balanced : metrics.Balanced) : ¬metrics.recordAttempt.Balanced := by
  unfold Balanced recordAttempt at *
  simp only [balanced]
  omega

end RetryMetrics

-----------------------------------------------------------------------------------------
-- Execution
-----------------------------------------------------------------------------------------

/-- What an attempt meets: the clock as the time limit is checked, what the function settles with if
it is called, the clock as a failure is judged, whether there is a span that takes a status, and the
draw of the delay.
-/
structure AttemptSupply (α : Type) where
  checkedAt : Int
  answer : Settled Thrown α
  judgedAt : Int
  takesStatus : Bool
  runtime : Runtime

/-- An attempt: its number, whether it called the function, and what it came to. -/
structure Attempt (α : Type) where
  number : Number
  called : Bool
  result : Settled Thrown α

/-- How an execution ends; the last is the throw after the loop. -/
inductive ExecutionEnd (α : Type) where
  | returned (value : α)
  | threw (error : Thrown)
  | terminatedUnexpectedly

/-- What an execution settles with. -/
def ExecutionEnd.settled {α : Type} : ExecutionEnd α → Settled Thrown α
  | .returned value => .ok value
  | .threw error => .error error
  | .terminatedUnexpectedly => .error (newError "Retry loop terminated unexpectedly")

/-- An execution: its attempts in their order, its end and the metrics after it. -/
structure Execution (α : Type) where
  attempts : List (Attempt α)
  ending : ExecutionEnd α
  metrics : RetryMetrics

/-- The calls of the function. -/
def Execution.calls {α : Type} (execution : Execution α) : List (Attempt α) :=
  execution.attempts.filter Attempt.called

structure RetryExecutor where
  policy : RetryPolicy
  environment : Option String
  numberText : Number → String

namespace RetryExecutor

variable {α : Type} (executor : RetryExecutor) (startTime : Int)

/-- The time limit is over before an attempt. -/
def timedOut (supply : AttemptSupply α) : Bool :=
  Number.lt 0 executor.policy.timeout
  && executor.policy.timeout.lt (.ofInt (supply.checkedAt - startTime))

/-- The body of an attempt: the function, unless the time limit is over. -/
def attempted (number : Number) (supply : AttemptSupply α) : Attempt α :=
  if executor.timedOut startTime supply then
    ⟨number, false,
      .error (timeoutError executor.numberText "RetryExecution" executor.policy.timeout)⟩
  else
    ⟨number, true, supply.answer⟩

/-- There is time left for another attempt. -/
def isTimeRemaining (supply : AttemptSupply α) : Bool :=
  executor.policy.timeout = 0
  || Number.lt (.ofInt (supply.judgedAt - startTime)) executor.policy.timeout

/-- The loop over the attempts, of which as many are made as there is fuel for. Where the span takes
a status the handler reads `err.message` before it counts the failure.
-/
def executeFrom (supplies : Nat → AttemptSupply α)
    : Nat → Nat → Number → RetryMetrics → Option (Execution α)
  | 0, _, _, _ => none
  | fuel + 1, index, currentAttempt, metrics =>
      if currentAttempt.le executor.policy.maxAttempts then
        let supply := supplies index
        let metrics := metrics.recordAttempt
        let attempt := executor.attempted startTime currentAttempt supply
        match attempt.result with
        | .ok value => some ⟨[attempt], .returned value, metrics.recordSuccess currentAttempt⟩
        | .error err =>
            if supply.takesStatus ∧ err = .nullish then
              let unreadable :=
                newTypeError "Cannot read properties of undefined (reading 'message')"
              some ⟨[attempt], .threw unreadable, metrics⟩
            else
              let metrics := metrics.recordFailure
              let shouldRetry := executor.policy.shouldRetry err currentAttempt
              if shouldRetry && executor.isTimeRemaining startTime supply then
                let delayMs :=
                  executor.policy.getNextDelay executor.environment supply.runtime currentAttempt
                let rest :=
                  executeFrom supplies fuel (index + 1) (currentAttempt.add 1)
                    (metrics.recordDelay delayMs)
                rest.map (fun execution =>
                  { execution with attempts := attempt :: execution.attempts })
              else
                some ⟨[attempt], .threw err, metrics.recordMaxRetriesExceeded⟩
      else
        some ⟨[], .terminatedUnexpectedly, metrics⟩

/-- The number of the first attempt: `context?.attempt || 1`. -/
def firstAttempt : Option Number → Number
  | some attempt => if attempt.truthy then attempt else 1
  | none => 1

/-- Executes an asynchronous task with automated retry retries based on configured policy rules. -/
def execute (metrics : RetryMetrics) (attempt : Option Number) (supplies : Nat → AttemptSupply α)
    (fuel : Nat)
    : Option (Execution α) :=
  executor.executeFrom startTime supplies fuel 0 (firstAttempt attempt) metrics

-----------------------------------------------------------------------------------------
-- What an execution should do
-----------------------------------------------------------------------------------------

/-- What `execute` is for, once it is called: it calls the function at most as often as the policy
says, stops at the first success and at the first failure that is not retried, settles with what the
last attempt came to, and has every attempt counted.
-/
structure Executes (policy : RetryPolicy) (execution : Execution α) : Prop where
  bounded : (Number.ofInt execution.calls.length).le policy.maxAttempts = true
  stopsAtSuccess {before after : List (Attempt α)} {attempt : Attempt α} {value : α}
    : execution.attempts = before ++ attempt :: after
      → attempt.result = .ok value
      → after = [] ∧ execution.ending.settled = .ok value
  stopsAtFailure {before after : List (Attempt α)} {attempt : Attempt α} {error : Thrown}
    : execution.attempts = before ++ attempt :: after
      → attempt.result = .error error
      → policy.shouldRetry error attempt.number = false
      → after = []
  throwsLast
    : (∀ attempt ∈ execution.attempts, ∀ value, attempt.result ≠ .ok value)
      → ∃ last error,
          execution.attempts.getLast? = some last
          ∧ last.result = .error error
          ∧ execution.ending = .threw error
  expected : execution.ending ≠ .terminatedUnexpectedly
  balanced : execution.metrics.Balanced

/-- An attempt fails, and the policy retries it in time. -/
def Retries (supplies : Nat → AttemptSupply α) (index : Nat) : Prop :=
  ∃ error,
    (executor.attempted startTime (.ofInt (index + 1)) (supplies index)).result = .error error
    ∧ executor.policy.shouldRetry error (.ofInt (index + 1)) = true
    ∧ executor.isTimeRemaining startTime (supplies index) = true

/-- An attempt rejects with `undefined` or `null` where its span takes a status. -/
def Unreadable (supplies : Nat → AttemptSupply α) (index : Nat) : Prop :=
  (supplies index).takesStatus = true
  ∧ (executor.attempted startTime (.ofInt (index + 1)) (supplies index)).result = .error .nullish

/-- No attempt that is made from one on is unreadable. -/
def ReadableFrom (supplies : Nat → AttemptSupply α) (index : Nat) : Prop :=
  ∀ later, index ≤ later →
    (∀ earlier, index ≤ earlier → earlier < later → executor.Retries startTime supplies earlier)
    → ¬executor.Unreadable startTime supplies later

/-- All but the last of some attempts, of which there is one, are failures the policy retries. -/
structure Proceeds (policy : RetryPolicy) (bound : Nat) (execution : Execution α) : Prop where
  few : execution.attempts.length ≤ bound
  retried
    : ∀ attempt ∈ execution.attempts.dropLast, ∃ error,
        attempt.result = .error error ∧ policy.shouldRetry error attempt.number = true
  expected : execution.ending ≠ .terminatedUnexpectedly
  made : execution.attempts ≠ []

/-- An execution settles with what its last attempt came to, and has every attempt counted. -/
structure Accounted (execution : Execution α) : Prop where
  last
    : ∃ last,
        execution.attempts.getLast? = some last ∧ execution.ending.settled = last.result
  balanced : execution.metrics.Balanced

section
variable {executor : RetryExecutor} {startTime : Int} {supplies : Nat → AttemptSupply α}
  {index : Nat}

/-- An attempt that is retried leaves it to the later ones. -/
theorem readableFrom_succ (retries : executor.Retries startTime supplies index)
    (readable : ¬executor.Unreadable startTime supplies index)
    : executor.ReadableFrom startTime supplies index
      ↔ executor.ReadableFrom startTime supplies (index + 1) := by
  constructor
  · intro from_ later reached made
    refine from_ later (by omega) (fun earlier start before => ?_)
    rcases Nat.eq_or_lt_of_le start with same | after
    · exact same ▸ retries
    · exact made earlier after before
  · intro rest later reached made
    rcases Nat.eq_or_lt_of_le reached with same | after
    · exact same ▸ readable
    · exact rest later after (fun earlier start before => made earlier (by omega) before)

/-- An attempt that ends the loop leaves no later ones. -/
theorem readableFrom_last (ends : ¬executor.Retries startTime supplies index)
    (readable : ¬executor.Unreadable startTime supplies index)
    : executor.ReadableFrom startTime supplies index := by
  intro later reached made
  rcases Nat.eq_or_lt_of_le reached with same | after
  · exact same ▸ readable
  · exact absurd (made index (Nat.le_refl index) after) ends

variable {policy : RetryPolicy} {metrics : RetryMetrics} {attempt : Attempt α}

/-- An attempt that ends the loop is an execution of its own. -/
theorem proceeds_single {ending : ExecutionEnd α} (expected : ending ≠ .terminatedUnexpectedly)
    {bound : Nat} (positive : 0 < bound)
    : Proceeds policy bound ⟨[attempt], ending, metrics⟩ where
  few := Nat.succ_le_of_lt positive
  retried := fun _ listed => absurd listed List.not_mem_nil
  expected := expected
  made := List.cons_ne_nil _ _

/-- An attempt that is retried comes before what an execution makes later. -/
theorem Proceeds.cons {bound : Nat} {execution : Execution α}
    (later : Proceeds policy bound execution)
    (retried
      : ∃ error, attempt.result = .error error ∧ policy.shouldRetry error attempt.number = true)
    : Proceeds policy (bound + 1)
        { execution with attempts := attempt :: execution.attempts } where
  few := Nat.succ_le_succ later.few
  retried := by
    rw [List.dropLast_cons_of_ne_nil later.made]
    intro member listed
    rcases List.mem_cons.mp listed with rfl | listed
    · exact retried
    · exact later.retried member listed
  expected := later.expected
  made := List.cons_ne_nil _ _

/-- An execution accounts for its attempts with one before them as well. -/
theorem Accounted.cons {execution : Execution α} (later : Accounted execution)
    : Accounted { execution with attempts := attempt :: execution.attempts } where
  last := by
    obtain ⟨last, found, settled⟩ := later.last
    refine ⟨last, ?_, settled⟩
    rw [List.getLast?_cons, found]
    rfl
  balanced := later.balanced

/-- What the loop makes of the attempts from one on: it proceeds, and accounts for its attempts if and
only if it reads no error it cannot.
-/
structure MakesOf (executor : RetryExecutor) (startTime : Int) (supplies : Nat → AttemptSupply α)
    (index bound : Nat) (execution : Execution α)
    : Prop where
  proceeds : Proceeds executor.policy bound execution
  accounted : executor.ReadableFrom startTime supplies index → Accounted execution
  uncounted : ¬executor.ReadableFrom startTime supplies index → ¬execution.metrics.Balanced

/-- An attempt that ends the loop with what it came to. -/
theorem makesOf_last {ending : ExecutionEnd α} {bound : Nat}
    (ends : ¬executor.Retries startTime supplies index)
    (readable : ¬executor.Unreadable startTime supplies index)
    (expected : ending ≠ .terminatedUnexpectedly) (positive : 0 < bound)
    (settled : ending.settled = attempt.result) (balanced : metrics.Balanced)
    : MakesOf executor startTime supplies index bound ⟨[attempt], ending, metrics⟩ where
  proceeds := proceeds_single expected positive
  accounted _ := ⟨⟨attempt, rfl, settled⟩, balanced⟩
  uncounted unreadable := absurd (readableFrom_last ends readable) unreadable

/-- An attempt that ends the loop as its error is read. -/
theorem makesOf_unreadable {ending : ExecutionEnd α} {bound : Nat}
    (unreadable : executor.Unreadable startTime supplies index)
    (expected : ending ≠ .terminatedUnexpectedly) (positive : 0 < bound)
    (unbalanced : ¬metrics.Balanced)
    : MakesOf executor startTime supplies index bound ⟨[attempt], ending, metrics⟩ where
  proceeds := proceeds_single expected positive
  accounted readable :=
    absurd unreadable (readable index (Nat.le_refl index) (fun _ start before => by omega))
  uncounted _ := unbalanced

/-- An attempt that is retried, before what the loop makes of the later ones. -/
theorem MakesOf.cons {bound : Nat} {execution : Execution α}
    (later : MakesOf executor startTime supplies (index + 1) bound execution)
    (retries : executor.Retries startTime supplies index)
    (readable : ¬executor.Unreadable startTime supplies index)
    (retried
      : ∃ error,
          attempt.result = .error error ∧ executor.policy.shouldRetry error attempt.number = true)
    : MakesOf executor startTime supplies index (bound + 1)
        { execution with attempts := attempt :: execution.attempts } where
  proceeds := later.proceeds.cons retried
  accounted from_ := (later.accounted ((readableFrom_succ retries readable).mp from_)).cons
  uncounted unreadable :=
    later.uncounted (fun from_ => unreadable ((readableFrom_succ retries readable).mpr from_))

theorem attempted_number {number : Number} {supply : AttemptSupply α}
    : (executor.attempted startTime number supply).number = number := by
  unfold attempted
  split <;> rfl

/-- With enough fuel the loop makes of the attempts what it should, by induction on the fuel: an
attempt succeeds, fails unread, fails for good or is retried.
-/
theorem executeFrom_makes {limit : Nat} (whole : executor.policy.maxAttempts = .ofInt limit)
    (fuel : Nat) (balanced : metrics.Balanced) (within : index < limit)
    (enough : limit ≤ fuel + index)
    : ∃ execution,
        executor.executeFrom startTime supplies fuel index (.ofInt (index + 1)) metrics
          = some execution
        ∧ MakesOf executor startTime supplies index (limit - index) execution := by
  induction fuel generalizing index metrics with
  | zero => omega
  | succ fuel ih =>
      have entered : (Number.ofInt (index + 1)).le executor.policy.maxAttempts = true := by
        rw [whole, Number.ofInt_le_ofInt, decide_eq_true_eq]
        omega
      have positive : 0 < limit - index := by omega
      simp only [executeFrom, entered, if_true]
      cases result : (executor.attempted startTime (.ofInt (index + 1)) (supplies index)).result with
      | ok value =>
          refine ⟨_, rfl, makesOf_last ?_ ?_ nofun positive result.symm balanced.success⟩
          · rintro ⟨error, failed, _⟩
            exact nomatch result.symm.trans failed
          · exact fun unreadable => nomatch result.symm.trans unreadable.2
      | error err =>
          simp only
          by_cases unread : (supplies index).takesStatus = true ∧ err = .nullish
          · rw [if_pos unread]
            have unreadable : executor.Unreadable startTime supplies index :=
              ⟨unread.1, unread.2 ▸ result⟩
            exact ⟨_, rfl, makesOf_unreadable unreadable nofun positive balanced.uncounted⟩
          · rw [if_neg unread]
            have readable : ¬executor.Unreadable startTime supplies index := by
              rintro ⟨takes, nullish⟩
              exact unread ⟨takes, Except.error.inj (result.symm.trans nullish)⟩
            split
            next retried =>
                rw [Bool.and_eq_true] at retried
                have again : index + 1 < limit := by
                  have under := executor.policy.lt_of_shouldRetry whole retried.1
                  omega
                have counted
                    : (Number.ofInt (index + 1)).add 1 = .ofInt ((index + 1 : Nat) + 1) :=
                  congrArg Number.finite (by push_cast; ring)
                obtain ⟨execution, found, makes⟩ :=
                  ih (balanced.failure.delay _) again (by omega)
                have bound : limit - index = limit - (index + 1) + 1 := by omega
                rw [counted, found, bound]
                refine ⟨_, rfl, makes.cons ⟨err, result, retried.1, retried.2⟩ readable ?_⟩
                exact ⟨err, result, attempted_number.symm ▸ retried.1⟩
            next gaveUp =>
                refine ⟨_, rfl,
                  makesOf_last ?_ readable nofun positive result.symm balanced.failure⟩
                rintro ⟨error, failed, again, inTime⟩
                obtain rfl := Except.error.inj (result.symm.trans failed)
                exact gaveUp (Bool.and_eq_true_iff.mpr ⟨again, inTime⟩)

/-- An execution that proceeds and accounts for its attempts is what `execute` is for. -/
theorem executes_of_accounted {limit : Nat} (whole : policy.maxAttempts = .ofInt limit)
    {execution : Execution α} (proceeds : Proceeds policy limit execution)
    (accounted : Accounted execution)
    : Executes policy execution := by
  obtain ⟨last, found, settled⟩ := accounted.last
  have retriedBefore {before : List (Attempt α)} {attempt : Attempt α} {after : List (Attempt α)}
      (parts : execution.attempts = before ++ attempt :: after) (later : after ≠ [])
      : ∃ error,
          attempt.result = .error error ∧ policy.shouldRetry error attempt.number = true := by
    refine proceeds.retried attempt ?_
    rw [parts, List.dropLast_append_of_ne_nil (List.cons_ne_nil _ _),
      List.dropLast_cons_of_ne_nil later]
    exact List.mem_append_right _ List.mem_cons_self
  exact {
    bounded := by
      rw [whole, Number.ofInt_le_ofInt, decide_eq_true_eq]
      have calls : execution.calls.length ≤ execution.attempts.length :=
        List.length_filter_le _ _
      exact Int.ofNat_le.mpr (calls.trans proceeds.few)
    stopsAtSuccess := fun {_ after _ _} parts succeeded => by
      have ended : after = [] := by
        by_contra later
        obtain ⟨error, failed, _⟩ := retriedBefore parts later
        exact nomatch succeeded.symm.trans failed
      subst ended
      rw [parts, List.getLast?_concat] at found
      obtain rfl := Option.some.inj found
      exact ⟨rfl, settled.trans succeeded⟩
    stopsAtFailure := fun parts failed given => by
      by_contra later
      obtain ⟨other, same, retried⟩ := retriedBefore parts later
      obtain rfl := Except.error.inj (failed.symm.trans same)
      exact Bool.false_ne_true (given.symm.trans retried)
    throwsLast := fun failures => by
      have listed : last ∈ execution.attempts := List.mem_of_getLast? found
      cases result : last.result with
      | ok value => exact absurd result (failures last listed value)
      | error error =>
          refine ⟨last, error, found, result, ?_⟩
          rw [result] at settled
          cases ending : execution.ending with
          | returned value => rw [ending] at settled; exact nomatch settled
          | threw thrown =>
              rw [ending] at settled
              exact congrArg _ (Except.error.inj settled)
          | terminatedUnexpectedly => exact absurd ending proceeds.expected
    expected := proceeds.expected
    balanced := accounted.balanced
  }

/-- An execution from the first attempt ends with enough fuel, and does what `execute` is for if and
only if no attempt that is made rejects with `undefined` or `null` where its span takes a status.
-/
theorem executes_iff {limit : Int} (whole : executor.policy.maxAttempts = .ofInt limit)
    {first : Option Number} (start : firstAttempt first = 1) (balanced : metrics.Balanced)
    {fuel : Nat} (enough : limit ≤ fuel)
    : ∃ execution,
        executor.execute startTime metrics first supplies fuel = some execution
        ∧ (Executes executor.policy execution
            ↔ ∀ index,
                (∀ earlier < index, executor.Retries startTime supplies earlier)
                → ¬executor.Unreadable startTime supplies index) := by
  have positive : 1 ≤ limit := by
    have atLeastOnce := executor.policy.atLeastOnce (by rw [whole]; exact nofun)
    rw [whole] at atLeastOnce
    simpa using (Number.ofInt_le_ofInt 1 limit).symm.trans atLeastOnce
  obtain ⟨limit, rfl⟩ := Int.eq_ofNat_of_zero_le (by omega : 0 ≤ limit)
  obtain ⟨execution, found, makes⟩ :=
    @executeFrom_makes α executor startTime supplies 0 metrics limit whole fuel balanced (by omega)
      (by omega)
  have readable
      : executor.ReadableFrom startTime supplies 0
        ↔ ∀ index,
            (∀ earlier < index, executor.Retries startTime supplies earlier)
            → ¬executor.Unreadable startTime supplies index := by
    constructor
    · exact fun readable index made =>
        readable index (Nat.zero_le index) (fun earlier _ before => made earlier before)
    · exact fun readable index _ made =>
        readable index (fun earlier before => made earlier (Nat.zero_le earlier) before)
  refine ⟨execution, ?_, ?_⟩
  · rw [execute, start]
    exact found
  · rw [← readable]
    constructor
    · intro executes
      by_contra unreadable
      exact makes.uncounted unreadable executes.balanced
    · exact fun readable => executes_of_accounted whole makes.proceeds (makes.accounted readable)

end

/-- An executor of the default policy. -/
def byDefault : RetryExecutor where
  policy := RetryPolicy.create (fun _ => none)
  environment := none
  numberText := fun _ => ""

/-- What attempts meet at one moment, where the first rejects and the others give a value. -/
def rejectsFirst (error : Thrown) (takesStatus : Bool) (index : Nat) : AttemptSupply Nat where
  checkedAt := 0
  answer := if index = 0 then .error error else .ok 7
  judgedAt := 0
  takesStatus := takesStatus
  runtime := ⟨0, 1 / 2, fun _ => 1⟩

theorem byDefault_attempted {error : Thrown} {takesStatus : Bool} {number : Number} {index : Nat}
    : (byDefault.attempted 0 number (rejectsFirst error takesStatus index)).result
      = if index = 0 then .error error else .ok 7 := by
  have inTime : byDefault.timedOut 0 (rejectsFirst error takesStatus index) = false := by
    change (Number.lt 0 (Number.max 0 30000) && Number.lt (Number.max 0 30000) (.ofInt 0)) = false
    decide
  simp only [attempted, inTime, Bool.false_eq_true, if_false]
  simp only [rejectsFirst]

theorem executes_after_timeout
    : ∃ execution,
        byDefault.execute 0 {} none (rejectsFirst (newError "connect timeout") true) 3
          = some execution
        ∧ Executes byDefault.policy execution := by
  have whole : byDefault.policy.maxAttempts = .ofInt 3 := by decide
  obtain ⟨execution, found, executes⟩ :=
    @executes_iff Nat byDefault 0 (rejectsFirst (newError "connect timeout") true) {} 3
      whole none rfl rfl 3 (by decide)
  refine ⟨execution, found, executes.mpr (fun index _ => ?_)⟩
  rintro ⟨_, nullish⟩
  rw [byDefault_attempted] at nullish
  split at nullish
  next => exact Thrown.noConfusion (Except.error.inj nullish)
  next => exact nomatch nullish

/-- A rejection with `undefined` under a tracer: the handler throws a `TypeError` of its own, and
the attempt is counted neither as a success nor as a failure.
-/
theorem nullish_rejection_uncounted
    : ∃ execution,
        byDefault.execute 0 {} none (rejectsFirst .nullish true) 3 = some execution
        ∧ execution.metrics.totalAttempts = 1
        ∧ execution.metrics.failedAttempts = 0
        ∧ ¬Executes byDefault.policy execution := by
  have counted
      : (byDefault.execute 0 {} none (rejectsFirst .nullish true) 3).map
            (fun execution =>
              [execution.metrics.totalAttempts, execution.metrics.successfulAttempts,
                execution.metrics.failedAttempts])
          = some [1, 0, 0] := by
    decide
  obtain ⟨execution, found, counts⟩ := Option.map_eq_some_iff.mp counted
  injection counts with total counts
  injection counts with succeeded counts
  injection counts with failed
  refine ⟨execution, found, total, failed, fun executes => ?_⟩
  have balanced := executes.balanced
  rw [RetryMetrics.Balanced, total, succeeded, failed] at balanced
  omega

end RetryExecutor

end QueueForge.Resilience
