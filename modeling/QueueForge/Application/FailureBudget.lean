import Mathlib.Data.List.Induction
import QueueForge.Application.EntityStore

/-! How many retryable failures a delivery takes: runs of `HandleFailureService.handleFailure`
on one delivery over a store of entities.
-/

namespace QueueForge.Application

open QueueForge.Async QueueForge.Js QueueForge.Domain

/-- The arguments of `handleFailure` besides the identifier, and what the attempt log and the
publisher reject with meanwhile.
-/
structure FailureCall where
  error : ReportedError
  verdict : FailureVerdict
  faults : Faults

namespace FailureCall

variable (config : ServiceConfig) (call : FailureCall)

/-- The service takes the error for a retryable one. -/
def Retryable : Prop :=
  ∃ isRetryable,
    HandleFailureService.isRetryable config.language call.error call.verdict = .ok isRetryable
    ∧ isRetryable.truthy = true

/-- The failure can be recorded: the error makes a `DeliveryError`, the verdict is one the
entity can take, and neither the attempt log nor the publisher rejects.
-/
def recorded : Bool :=
  call.error.argument.usable
  && !call.faults.interrupts config
  && match HandleFailureService.isRetryable config.language call.error call.verdict with
    | .ok isRetryable => HandleFailureService.recordable isRetryable
    | .error _ => false

end FailureCall

section
variable {σ : Type} (config : ServiceConfig) (handler : Handler ServiceSignature Thrown σ)
  (deliveryId : String)

/-- One call of `handleFailure`. -/
def FailureCall.run (call : FailureCall) (world : σ) : Settled Thrown Unit × σ :=
  (HandleFailureService.handleFailure config deliveryId call.error call.verdict).run
    (call.faults.over handler) world

/-- The world after a sequence of calls, whichever of them threw. -/
def afterFailures (calls : List FailureCall) (world : σ) : σ :=
  calls.foldl (fun current call => (call.run config handler deliveryId current).2) world

end

/-- The law of a sequence of failures: every call that schedules a retry raises the stored
count, and from the fifth call on the delivery is FAILED_DLQ.
-/
structure SpendsRetries {σ : Type} (config : ServiceConfig)
    (handler : Handler ServiceSignature Thrown σ) (stored : σ → String → Option Delivery)
    (deliveryId : String) (calls : List FailureCall) (world : σ)
    : Prop where
  charged
    : ∀ earlier call later before after,
        calls = earlier ++ call :: later
        → stored (afterFailures config handler deliveryId earlier world) deliveryId = some before
        → stored (afterFailures config handler deliveryId (earlier ++ [call]) world) deliveryId
          = some after
        → (call.run config handler deliveryId
            (afterFailures config handler deliveryId earlier world)).1 = .ok ()
        → after.status = .scheduledRetry
        → before.retryCount < after.retryCount
  exhausted
    : ∀ earlier later,
        calls = earlier ++ later
        → 5 ≤ earlier.length
        → ∃ after,
            stored (afterFailures config handler deliveryId earlier world) deliveryId = some after
            ∧ after.status = .failedDlq

/-- When a sequence keeps the law: the delivery starts with its retries spent, or none of the
failures is recorded, or one is and the delivery starts with none spent, in fewer than five
calls. A sequence of five needs a recorded failure among them besides, or a delivery that
is FAILED_DLQ from the start.
-/
def WithinBudget (config : ServiceConfig) (delivery : Delivery) (calls : List FailureCall) : Prop :=
  (5 ≤ delivery.retryCount
    ∨ calls.countP (FailureCall.recorded config) = 0
    ∨ delivery.retryCount = 0
      ∧ calls.countP (FailureCall.recorded config) = 1
      ∧ calls.length < 5)
  ∧ (5 ≤ calls.length
    → delivery.status = .failedDlq
      ∨ (calls.take 5).countP (FailureCall.recorded config) ≠ 0)

/-- The count after some failures have been recorded: the first settles it. -/
def countAfter (delivery : Delivery) (recorded : Nat) : Int :=
  if recorded = 0 then delivery.retryCount else delivery.failureCount

/-- The status after some retryable failures have been recorded. -/
def statusAfter (delivery : Delivery) (recorded : Nat) : DeliveryStatus :=
  if recorded = 0 then delivery.status
  else if delivery.retryCount < 5 then .scheduledRetry
  else .failedDlq

/-- The entity is the delivery after some recorded failures. -/
structure AfterRecorded (delivery : Delivery) (recorded : Nat) (after : Delivery) : Prop where
  id : after.id = delivery.id
  count : after.retryCount = countAfter delivery recorded
  status : after.status = statusAfter delivery recorded

/-- One more recorded failure, from the count and status it leaves. -/
theorem AfterRecorded.next {delivery before after : Delivery} {recorded : Nat}
    (h : AfterRecorded delivery recorded before) (id : after.id = before.id)
    (count : after.retryCount = before.failureCount)
    (status : after.status = if before.retryCount < 5 then .scheduledRetry else .failedDlq)
    : AfterRecorded delivery (recorded + 1) after := by
  have sameCount : before.failureCount = delivery.failureCount := by
    have counted := h.count
    simp only [Delivery.failureCount, countAfter] at counted ⊢
    split at counted <;> split <;> omega
  have sameLimit : before.retryCount < 5 ↔ delivery.retryCount < 5 := by
    have counted := h.count
    simp only [Delivery.failureCount, countAfter] at counted
    split at counted
    · omega
    · split at counted <;> omega
  refine ⟨id.trans h.id, ?_, ?_⟩
  · rw [count, sameCount, countAfter, if_neg (Nat.succ_ne_zero recorded)]
  · rw [status, statusAfter, if_neg (Nat.succ_ne_zero recorded)]
    by_cases below : delivery.retryCount < 5
    · rw [if_pos below, if_pos (sameLimit.mpr below)]
    · rw [if_neg below, if_neg (mt sameLimit.mp below)]

section
variable {σ : Type} {config : ServiceConfig} {handler : Handler ServiceSignature Thrown σ}
  {stored : σ → String → Option Delivery} {world : σ} {delivery : Delivery}

/-- A retryable failure that is recorded settles the count and schedules a retry below five.
-/
theorem FailureCall.run_recorded (store : EntityStore config handler stored)
    (resolves : ∀ call world, Resolved call (handler call world).1) {call : FailureCall}
    (retryable : call.Retryable config)
    (recorded : call.recorded config = true)
    (found : stored world delivery.id = some delivery)
    : ∃ after,
        (call.run config handler delivery.id world).1 = .ok ()
        ∧ stored (call.run config handler delivery.id world).2 delivery.id = some after
        ∧ after.id = delivery.id
        ∧ after.retryCount = delivery.failureCount
        ∧ after.status = if delivery.retryCount < 5 then .scheduledRetry else .failedDlq := by
  obtain ⟨isRetryable, judged, truthy⟩ := retryable
  simp only [FailureCall.recorded, judged, Bool.and_eq_true, Bool.not_eq_true'] at recorded
  obtain ⟨⟨usable, sound⟩, recordable⟩ := recorded
  obtain ⟨loaded, loads, kept⟩ := (store.over call.faults).run_loadDelivery found
  obtain ⟨_, ⟨resolved, after, rfl, same, count, status⟩, shown⟩ :=
    (@HandleFailureService.recordFailure_saves config _ delivery.id _ _ _ judged usable
      recordable sound delivery none).run
      (store.honours_saving resolves call.faults (stored loaded))
      (show ShowsSaved stored (stored loaded) none loaded from rfl)
  simp only [FailureCall.run, HandleFailureService.handleFailure, Program.bind_eq,
    Program.run_bind, loads]
  refine ⟨after, resolved, ?_, same.id, count, ?_⟩
  · have stores : ∀ world, ShowsSaved stored (stored loaded) (some after) world
        → stored world delivery.id = some after := by
      intro world shown
      rw [← same.id]
      exact shown
    exact stores _ shown
  · rw [status]
    simp only [HandleFailureService.retries, truthy, Bool.true_and, decide_eq_true_eq]

/-- One that is not recorded throws and leaves the delivery as it is. -/
theorem FailureCall.run_unrecorded (store : EntityStore config handler stored)
    (resolves : ∀ call world, Resolved call (handler call world).1) {call : FailureCall}
    (retryable : call.Retryable config)
    (recorded : call.recorded config = false)
    (found : stored world delivery.id = some delivery)
    : (∃ thrown, (call.run config handler delivery.id world).1 = .error thrown)
      ∧ stored (call.run config handler delivery.id world).2 delivery.id = some delivery := by
  obtain ⟨isRetryable, judged, _⟩ := retryable
  have rejected
      : call.faults.interrupts config = true
        ∨ ¬call.error.argument.usable = true
        ∨ ¬HandleFailureService.recordable isRetryable = true := by
    rw [← not_and_or, or_iff_not_imp_left]
    rintro sound ⟨usable, recordable⟩
    simp [FailureCall.recorded, judged, usable, recordable, sound] at recorded
  obtain ⟨loaded, loads, kept⟩ := (store.over call.faults).run_loadDelivery found
  obtain ⟨_, ⟨thrown, rfl⟩, shown⟩ :=
    (@HandleFailureService.recordFailure_throws config _ delivery.id _ _ _ judged rejected
      delivery none).run (store.honours_saving resolves call.faults (stored loaded))
      (show ShowsSaved stored (stored loaded) none loaded from rfl)
  simp only [FailureCall.run, HandleFailureService.handleFailure, Program.bind_eq,
    Program.run_bind, loads]
  refine ⟨thrown, ?_⟩
  rw [show stored _ = stored loaded from shown, kept]
  exact found

/-- The last of some failures acts on what those before it leave. -/
theorem afterFailures_concat (config : ServiceConfig)
    (handler : Handler ServiceSignature Thrown σ) (deliveryId : String)
    (earlier : List FailureCall) (call : FailureCall) (world : σ)
    : afterFailures config handler deliveryId (earlier ++ [call]) world
      = (call.run config handler deliveryId
          (afterFailures config handler deliveryId earlier world)).2 := by
  simp only [afterFailures, List.foldl_append, List.foldl_cons, List.foldl_nil]

/-- After any sequence of retryable failures the store holds the delivery after those that
were recorded, by induction on the sequence from its end.
-/
theorem stored_afterFailures (store : EntityStore config handler stored)
    (resolves : ∀ call world, Resolved call (handler call world).1) (calls : List FailureCall)
    (retryable : ∀ call ∈ calls, call.Retryable config)
    (found : stored world delivery.id = some delivery)
    : ∃ after,
        stored (afterFailures config handler delivery.id calls world) delivery.id = some after
        ∧ AfterRecorded delivery (calls.countP (FailureCall.recorded config)) after := by
  induction calls using List.reverseRecOn with
  | nil => exact ⟨delivery, found, rfl, rfl, rfl⟩
  | append_singleton earlier call ih =>
      obtain ⟨before, foundBefore, counted⟩ :=
        ih (fun other member => retryable other (List.mem_append_left [call] member))
      have here := retryable call (List.mem_append_right earlier (List.mem_singleton_self call))
      rw [afterFailures_concat, List.countP_append, List.countP_singleton]
      rw [← counted.id] at foundBefore ⊢
      cases recorded : call.recorded config with
      | true =>
          obtain ⟨after, _, foundAfter, id, count, status⟩ :=
            FailureCall.run_recorded store resolves here recorded foundBefore
          exact ⟨after, foundAfter, counted.next id count status⟩
      | false =>
          obtain ⟨_, foundAfter⟩ :=
            FailureCall.run_unrecorded store resolves here recorded foundBefore
          exact ⟨before, foundAfter, counted⟩

/-- A list has an element with the property after any smaller number of them, by induction
on the list.
-/
theorem exists_split_of_lt_countP {α : Type} {property : α → Bool} {list : List α} {number : Nat}
    (more : number < list.countP property)
    : ∃ earlier chosen later,
        list = earlier ++ chosen :: later
        ∧ property chosen = true
        ∧ earlier.countP property = number := by
  induction list generalizing number with
  | nil => exact absurd more (Nat.not_lt_zero number)
  | cons head tail ih =>
      rw [List.countP_cons] at more
      cases has : property head with
      | false =>
          rw [has, if_neg Bool.false_ne_true] at more
          obtain ⟨earlier, chosen, later, rfl, holds, counted⟩ := ih more
          refine ⟨head :: earlier, chosen, later, rfl, holds, ?_⟩
          rw [List.countP_cons, has, if_neg Bool.false_ne_true, counted, Nat.add_zero]
      | true =>
          rw [has, if_pos rfl] at more
          rcases number with _ | number
          · exact ⟨[], head, tail, rfl, has, rfl⟩
          · obtain ⟨earlier, chosen, later, rfl, holds, counted⟩ :=
              ih (Nat.lt_of_succ_lt_succ more)
            refine ⟨head :: earlier, chosen, later, rfl, holds, ?_⟩
            rw [List.countP_cons, has, if_pos rfl, counted]

/-- Under the law a recorded failure below five raises the count. -/
theorem SpendsRetries.raises (store : EntityStore config handler stored)
    (resolves : ∀ call world, Resolved call (handler call world).1)
    {earlier later : List FailureCall} {call : FailureCall}
    (law : SpendsRetries config handler stored delivery.id (earlier ++ call :: later) world)
    (retryable : ∀ other ∈ earlier ++ call :: later, other.Retryable config)
    (recorded : call.recorded config = true)
    (found : stored world delivery.id = some delivery) (below : delivery.retryCount < 5)
    : countAfter delivery (earlier.countP (FailureCall.recorded config))
      < delivery.failureCount := by
  obtain ⟨before, foundBefore, counted⟩ :=
    stored_afterFailures store resolves earlier
      (fun other member => retryable other (List.mem_append_left _ member)) found
  have here := retryable call (List.mem_append_right earlier List.mem_cons_self)
  have start := foundBefore
  rw [← counted.id] at start
  obtain ⟨after, resolved, foundAfter, id, count, status⟩ :=
    FailureCall.run_recorded store resolves here recorded start
  have next := counted.next id count status
  rw [counted.id] at resolved foundAfter
  have last := afterFailures_concat config handler delivery.id earlier call world
  have scheduled : after.status = .scheduledRetry := by
    rw [next.status, statusAfter, if_neg (Nat.succ_ne_zero _), if_pos below]
  have raised :=
    law.charged earlier call later before after rfl foundBefore (last ▸ foundAfter) resolved
      scheduled
  rwa [counted.count, next.count, countAfter, countAfter, if_neg (Nat.succ_ne_zero _),
    ← countAfter] at raised

/-- Under the law the delivery is FAILED_DLQ after five failures. -/
theorem SpendsRetries.dead (store : EntityStore config handler stored)
    (resolves : ∀ call world, Resolved call (handler call world).1)
    {earlier later : List FailureCall}
    (law : SpendsRetries config handler stored delivery.id (earlier ++ later) world)
    (retryable : ∀ call ∈ earlier ++ later, call.Retryable config)
    (found : stored world delivery.id = some delivery) (long : 5 ≤ earlier.length)
    : statusAfter delivery (earlier.countP (FailureCall.recorded config)) = .failedDlq := by
  obtain ⟨after, foundAfter, counted⟩ :=
    stored_afterFailures store resolves earlier
      (fun call member => retryable call (List.mem_append_left later member)) found
  obtain ⟨dead, foundDead, status⟩ := law.exhausted earlier later rfl long
  rw [foundAfter] at foundDead
  rw [← counted.status, Option.some.inj foundDead, status]

/-- Under the law a delivery whose retries are not spent starts from zero, and has at most one
failure recorded, in fewer than five.
-/
theorem SpendsRetries.budget (store : EntityStore config handler stored)
    (resolves : ∀ call world, Resolved call (handler call world).1) {calls : List FailureCall}
    (law : SpendsRetries config handler stored delivery.id calls world)
    (retryable : ∀ call ∈ calls, call.Retryable config)
    (found : stored world delivery.id = some delivery)
    : 5 ≤ delivery.retryCount
      ∨ calls.countP (FailureCall.recorded config) = 0
      ∨ delivery.retryCount = 0
        ∧ calls.countP (FailureCall.recorded config) = 1
        ∧ calls.length < 5 := by
  have raisesAt
      : ∀ number,
          number < calls.countP (FailureCall.recorded config)
          → delivery.retryCount < 5
          → countAfter delivery number < delivery.failureCount := by
    intro number more below
    obtain ⟨earlier, call, later, rfl, recorded, rfl⟩ := exists_split_of_lt_countP more
    exact law.raises store resolves retryable recorded found below
  by_contra neither
  rw [not_or, not_or] at neither
  obtain ⟨notSpent, some, notOne⟩ := neither
  have below : delivery.retryCount < 5 := by omega
  -- the first recorded failure starts from zero, and a second would not raise the count
  have first := raisesAt 0 (Nat.pos_of_ne_zero some) below
  have second
      : calls.countP (FailureCall.recorded config) ≤ 1 := by
    by_contra more
    have again := raisesAt 1 (Nat.lt_of_not_le more) below
    rw [countAfter, if_neg Nat.one_ne_zero] at again
    exact Int.lt_irrefl _ again
  have zero : delivery.retryCount = 0 := by
    by_contra nonzero
    rw [countAfter, if_pos rfl, Delivery.failureCount, if_neg nonzero] at first
    exact Int.lt_irrefl _ first
  have one : calls.countP (FailureCall.recorded config) = 1 := by omega
  refine notOne ⟨zero, one, ?_⟩
  by_contra long
  have whole : calls ++ [] = calls := List.append_nil calls
  rw [← whole] at law retryable
  have dead := law.dead store resolves retryable found (Nat.le_of_not_lt long)
  rw [one, statusAfter, if_neg Nat.one_ne_zero, if_pos below] at dead
  cases dead

/-- Under the law five failures leave a delivery FAILED_DLQ that was before, or record one. -/
theorem SpendsRetries.five (store : EntityStore config handler stored)
    (resolves : ∀ call world, Resolved call (handler call world).1) {calls : List FailureCall}
    (law : SpendsRetries config handler stored delivery.id calls world)
    (retryable : ∀ call ∈ calls, call.Retryable config)
    (found : stored world delivery.id = some delivery) (long : 5 ≤ calls.length)
    : delivery.status = .failedDlq
      ∨ (calls.take 5).countP (FailureCall.recorded config) ≠ 0 := by
  rw [← List.take_append_drop 5 calls] at law retryable
  have dead := law.dead store resolves retryable found (by rw [List.length_take]; omega)
  by_cases none : (calls.take 5).countP (FailureCall.recorded config) = 0
  · rw [none, statusAfter, if_pos rfl] at dead
    exact .inl dead
  · exact .inr none

/-- Within budget a call that schedules a retry is the one recorded, and raises the count from
zero.
-/
theorem WithinBudget.charged (store : EntityStore config handler stored)
    (resolves : ∀ call world, Resolved call (handler call world).1)
    {earlier later : List FailureCall} {call : FailureCall} {before after : Delivery}
    (within : WithinBudget config delivery (earlier ++ call :: later))
    (retryable : ∀ other ∈ earlier ++ call :: later, other.Retryable config)
    (found : stored world delivery.id = some delivery)
    (foundBefore
      : stored (afterFailures config handler delivery.id earlier world) delivery.id = some before)
    (foundAfter
      : stored (afterFailures config handler delivery.id (earlier ++ [call]) world) delivery.id
        = some after)
    (resolved
      : (call.run config handler delivery.id
          (afterFailures config handler delivery.id earlier world)).1
        = .ok ())
    (scheduled : after.status = .scheduledRetry)
    : before.retryCount < after.retryCount := by
  have here := retryable call (List.mem_append_right earlier List.mem_cons_self)
  obtain ⟨current, foundCurrent, counted⟩ :=
    stored_afterFailures store resolves earlier
      (fun other member => retryable other (List.mem_append_left _ member)) found
  obtain rfl : before = current := Option.some.inj (foundBefore.symm.trans foundCurrent)
  have among : ∀ other ∈ earlier ++ [call], other.Retryable config := by
    intro other member
    rcases List.mem_append.mp member with sooner | last
    · exact retryable other (List.mem_append_left _ sooner)
    · exact List.mem_singleton.mp last ▸ here
  obtain ⟨next, foundNext, countedNext⟩ :=
    stored_afterFailures store resolves (earlier ++ [call]) among found
  obtain rfl : after = next := Option.some.inj (foundAfter.symm.trans foundNext)
  have recorded : call.recorded config = true := by
    by_contra unrecorded
    rw [← counted.id] at foundBefore resolved
    obtain ⟨⟨thrown, threw⟩, _⟩ :=
      FailureCall.run_unrecorded store resolves here (eq_false_of_ne_true unrecorded)
        foundBefore
    rw [threw] at resolved
    exact nomatch resolved
  have more
      : (earlier ++ [call]).countP (FailureCall.recorded config)
        = earlier.countP (FailureCall.recorded config) + 1 := by
    rw [List.countP_append, List.countP_singleton, if_pos recorded]
  have total
      : earlier.countP (FailureCall.recorded config) + 1
        ≤ (earlier ++ call :: later).countP (FailureCall.recorded config) := by
    rw [List.countP_append, List.countP_cons_of_pos recorded]
    omega
  -- a retry is scheduled below five only, so this failure is the one that is recorded
  have below : delivery.retryCount < 5 := by
    by_contra spent
    rw [countedNext.status, more, statusAfter, if_neg (Nat.succ_ne_zero _), if_neg spent]
      at scheduled
    exact nomatch scheduled
  have only : delivery.retryCount = 0
      ∧ earlier.countP (FailureCall.recorded config) = 0 := by
    have budget := within.1
    omega
  rw [counted.count, countedNext.count, more, only.2, countAfter, countAfter, if_pos rfl,
    if_neg Nat.one_ne_zero, Delivery.failureCount, if_pos only.1]
  omega

/-- Within budget the delivery is FAILED_DLQ after five failures. -/
theorem WithinBudget.exhausted {earlier later : List FailureCall}
    (within : WithinBudget config delivery (earlier ++ later)) (long : 5 ≤ earlier.length)
    : statusAfter delivery (earlier.countP (FailureCall.recorded config)) = .failedDlq := by
  obtain ⟨budget, spent⟩ := within
  rw [List.take_append_of_le_length long] at spent
  rw [List.length_append, List.countP_append] at budget
  rw [List.length_append] at spent
  have firstFive
      : (earlier.take 5).countP (FailureCall.recorded config)
        ≤ earlier.countP (FailureCall.recorded config) :=
    (List.take_sublist 5 earlier).countP_le
  rw [statusAfter]
  by_cases none : earlier.countP (FailureCall.recorded config) = 0
  · rw [if_pos none]
    rcases spent (by omega) with dead | some
    · exact dead
    · omega
  · rw [if_neg none, if_neg (by omega)]

/-- Over a store that returns the last saved entity, with collaborators that resolve, a
sequence of retryable failures on a delivery keeps the law exactly when it is within budget:
the count is raised from zero to one and never again.
-/
theorem failures_spend_retries (store : EntityStore config handler stored)
    (resolves : ∀ call world, Resolved call (handler call world).1) (calls : List FailureCall)
    (retryable : ∀ call ∈ calls, call.Retryable config)
    (found : stored world delivery.id = some delivery)
    : SpendsRetries config handler stored delivery.id calls world
      ↔ WithinBudget config delivery calls := by
  constructor
  · intro law
    exact ⟨
      law.budget store resolves retryable found,
      law.five store resolves retryable found
    ⟩
  · intro within
    constructor
    · rintro earlier call later before after rfl foundBefore foundAfter resolved scheduled
      exact within.charged store resolves retryable found foundBefore foundAfter resolved scheduled
    · rintro earlier later rfl long
      obtain ⟨after, foundAfter, counted⟩ :=
        stored_afterFailures store resolves earlier
          (fun call member => retryable call (List.mem_append_left later member)) found
      exact ⟨after, foundAfter, counted.status.trans (within.exhausted long)⟩

end

/-- A failure reported as a text, with the verdict that it is retryable. -/
def timeout : FailureCall where
  error := .text "timeout"
  verdict := .isRetryable true
  faults := .quiet

/-- Its verdict makes it retryable. -/
theorem timeout_retryable (call : FailureCall) (member : call = timeout)
    : call.Retryable memoryConfig := by
  subst member
  exact ⟨.bool true, rfl, rfl⟩

theorem one_failure_spends_retry
    : SpendsRetries memoryConfig (memory ⟨0, 0, fun _ => 1⟩) (fun entities => entities)
        newDelivery.id [timeout] holdingNew := by
  refine (failures_spend_retries (memory_entityStore _) (memory_resolves _) [timeout] ?_
    rfl).mpr ?_
  · intro call member
    exact timeout_retryable call (List.mem_singleton.mp member)
  · exact ⟨.inr (.inr ⟨rfl, rfl, by decide⟩), fun five => absurd five (by decide)⟩

/-- The second failure of a new delivery schedules a retry and leaves the count at one. -/
theorem second_failure_keeps_count
    : ¬SpendsRetries memoryConfig (memory ⟨0, 0, fun _ => 1⟩) (fun entities => entities)
        newDelivery.id [timeout, timeout] holdingNew := by
  intro law
  have raised :=
    @SpendsRetries.raises _ _ _ _ holdingNew newDelivery (memory_entityStore _)
      (memory_resolves _) [timeout] [] timeout law
      (fun call member => timeout_retryable call (by simpa using member)) rfl rfl (by decide)
  exact absurd raised (by decide)

end QueueForge.Application
