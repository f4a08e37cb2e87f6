import Mathlib.Data.List.Nodup
import QueueForge.Resilience.Bulkhead

/-! Whatever order the calls of `execute` take their stretches in, the bulkhead keeps its
limits. The pool counts slots only, so the invariant ties its grants to the calls that came
through.
-/

namespace QueueForge.Resilience

open QueueForge.Js

/-- What holds of a bulkhead, whatever happens to it. -/
structure BulkheadSound {ι : Type} (bulkhead : Bulkhead) (world : BulkheadWorld ι)
    : Prop where
  pool : PoolSound world.pool
  size : world.pool.pool.maxSize = bulkhead.config.maxConcurrent
  accounted
    : world.pool.pool.inUse + world.ran.length = world.pool.grants + world.running.length
  granted : ∀ call ∈ world.ran, (call.2, true) ∈ world.pool.resolved
  distinct : (world.waiting.map Prod.snd ++ world.ran.map Prod.snd).Nodup
  issued : ∀ call ∈ world.waiting, call.2 < world.pool.requests
  covered
    : ∀ request,
        (request, true) ∈ world.pool.resolved
        → request ∈ world.waiting.map Prod.snd ++ world.ran.map Prod.snd
  queued
    : ∀ request ∈ world.pool.pool.queue.map WaitingAcquire.id,
        request ∈ world.waiting.map Prod.snd
  callers
    : (world.waiting.map Prod.fst ++ (world.ran.map Prod.fst ++ world.rejected)).Nodup
  started
    : ∀ caller ∈ world.waiting.map Prod.fst ++ (world.ran.map Prod.fst ++ world.rejected),
        caller ∈ world.started
  queueLimit
    : world.pool.pool.queue ≠ []
      → Number.lt (.ofInt (world.pool.pool.queue.length - 1)) bulkhead.config.maxQueueSize
        = true

section
variable {ι : Type} {bulkhead : Bulkhead} {world : BulkheadWorld ι}

/-- The grants of a pool are the requests that were granted, each once. -/
theorem PoolSound.grants_eq {pool : PoolWorld} (sound : PoolSound pool)
    : ((pool.resolved.filter Prod.snd).map Prod.fst).Nodup
      ∧ ((pool.resolved.filter Prod.snd).map Prod.fst).length = pool.grants := by
  refine ⟨(List.filter_sublist.map Prod.fst).nodup sound.once, ?_⟩
  rw [List.length_map, PoolWorld.grants, List.countP_eq_length_filter]

/-- Every function that ran had a grant of its own. -/
theorem BulkheadSound.ran_le_grants (sound : BulkheadSound bulkhead world)
    : world.ran.length ≤ world.pool.grants := by
  have ids : (world.ran.map Prod.snd).Nodup := (List.nodup_append.mp sound.distinct).2.1
  have included
      : world.ran.map Prod.snd ⊆ (world.pool.resolved.filter Prod.snd).map Prod.fst := by
    intro request ran
    obtain ⟨call, isRan, rfl⟩ := List.mem_map.mp ran
    exact List.mem_map.mpr
      ⟨(call.2, true), List.mem_filter.mpr ⟨sound.granted call isRan, rfl⟩, rfl⟩
  have fewer := (ids.subperm included).length_le
  rw [List.length_map, sound.pool.grants_eq.2] at fewer
  exact fewer

/-- Each running function holds a slot. -/
theorem BulkheadSound.running_le_inUse (sound : BulkheadSound bulkhead world)
    : (world.running.length : Int) ≤ world.pool.pool.inUse := by
  have granted := sound.ran_le_grants
  have accounted := sound.accounted
  omega

/-- Where no call waits, the grants went to the functions that ran. -/
theorem BulkheadSound.grants_le_ran (sound : BulkheadSound bulkhead world)
    (nobody : world.waiting = [])
    : world.pool.grants ≤ world.ran.length := by
  have included
      : (world.pool.resolved.filter Prod.snd).map Prod.fst ⊆ world.ran.map Prod.snd := by
    intro request isGranted
    obtain ⟨⟨id, granted⟩, resolved, rfl⟩ := List.mem_map.mp isGranted
    obtain ⟨resolved, isTrue⟩ := List.mem_filter.mp resolved
    obtain rfl : granted = true := isTrue
    simpa [nobody] using sound.covered id resolved
  have fewer := (sound.pool.grants_eq.1.subperm included).length_le
  rw [sound.pool.grants_eq.2, List.length_map] at fewer
  exact fewer

/-- A step of the pool that makes no request, with the calls that end by it. -/
theorem BulkheadSound.advanced (sound : BulkheadSound bulkhead world) {next : PoolWorld}
    {freed : Nat} (kept : PoolSound next) (advances : Advances world.pool next [] freed)
    {running : List (ι × Nat)} (ended : running.length + freed = world.running.length)
    : BulkheadSound bulkhead { world with pool := next, running := running } := by
  have accounted := sound.accounted
  have moved := advances.accounted
  have requests : next.requests = world.pool.requests := advances.requests
  refine ⟨kept, advances.size.trans sound.size, ?_, ?_, sound.distinct, ?_, ?_, ?_,
    sound.callers, sound.started, ?_⟩
  · simp only
    omega
  · exact fun call isRan => advances.kept _ (sound.granted call isRan)
  · intro call waits
    exact requests ▸ sound.issued call waits
  · intro request isGranted
    rcases advances.granted request isGranted with old | fresh | queued
    · exact sound.covered request old
    · exact absurd fresh List.not_mem_nil
    · exact List.mem_append_left _ (sound.queued request queued)
  · intro request waits
    rcases advances.queued request waits with old | fresh
    · exact sound.queued request old
    · exact absurd fresh List.not_mem_nil
  · intro waits
    have shorter : next.pool.queue.length ≤ world.pool.pool.queue.length := advances.shorter
    have some : 0 < next.pool.queue.length := List.length_pos_iff.mpr waits
    have before : world.pool.pool.queue ≠ [] := List.length_pos_iff.mp (by omega)
    refine Number.ofInt_lt_of_le ?_ (sound.queueLimit before)
    simp only
    omega

/-- A call that is turned away at once has only started. -/
theorem BulkheadSound.turnedAway (sound : BulkheadSound bulkhead world) {caller : ι}
    (fresh : caller ∉ world.started)
    : BulkheadSound bulkhead {
        world with
        started := caller :: world.started
        rejected := caller :: world.rejected
      } := by
  have order
      : (world.waiting.map Prod.fst
          ++ (world.ran.map Prod.fst ++ caller :: world.rejected)).Perm
        (caller :: (world.waiting.map Prod.fst ++ (world.ran.map Prod.fst ++ world.rejected))) :=
    (List.perm_middle.append_left _).trans List.perm_middle
  refine ⟨sound.pool, sound.size, sound.accounted, sound.granted, sound.distinct, sound.issued,
    sound.covered, sound.queued, ?_, ?_, sound.queueLimit⟩
  · refine order.nodup_iff.mpr (List.nodup_cons.mpr ⟨?_, sound.callers⟩)
    exact fun already => fresh (sound.started caller already)
  · intro other isCaller
    rcases List.mem_cons.mp (order.mem_iff.mp isCaller) with rfl | old
    · exact List.mem_cons_self
    · exact List.mem_cons_of_mem _ (sound.started other old)

/-- A call that asks the pool for a slot waits for its answer. -/
theorem BulkheadSound.admitted (sound : BulkheadSound bulkhead world) {caller : ι}
    (fresh : caller ∉ world.started) (timeoutMs : Number)
    (hasPlace : world.isFull bulkhead = false)
    : BulkheadSound bulkhead {
        world with
        started := caller :: world.started
        pool := world.pool.tryAcquire timeoutMs
        waiting := (caller, world.pool.requests) :: world.waiting
      } := by
  have advances := world.pool.tryAcquire_advances timeoutMs
  have accounted := sound.accounted
  have moved := advances.accounted
  have unseen : world.pool.requests ∉ world.waiting.map Prod.snd ++ world.ran.map Prod.snd := by
    intro already
    rcases List.mem_append.mp already with waits | ran
    · obtain ⟨call, waits, same⟩ := List.mem_map.mp waits
      have older := sound.issued call waits
      omega
    · obtain ⟨call, ran, same⟩ := List.mem_map.mp ran
      have resolved := List.mem_map_of_mem (f := Prod.fst) (sound.granted call ran)
      have older := (sound.pool.issued call.2).mpr (.inl resolved)
      omega
  refine ⟨sound.pool.step (.tryAcquire timeoutMs), advances.size.trans sound.size, ?_, ?_, ?_, ?_,
    ?_, ?_, ?_, ?_, ?_⟩
  · simp only
    omega
  · exact fun call isRan => advances.kept _ (sound.granted call isRan)
  · exact List.nodup_cons.mpr ⟨unseen, sound.distinct⟩
  · intro call waits
    have more : (world.pool.tryAcquire timeoutMs).requests = world.pool.requests + 1 :=
      advances.requests
    rcases List.mem_cons.mp waits with rfl | old
    · simp [more]
    · have older := sound.issued call old
      simp only [more]
      omega
  · intro request isGranted
    rcases advances.granted request isGranted with old | new | queued
    · exact List.mem_cons_of_mem _ (sound.covered request old)
    · rw [List.mem_singleton.mp new]
      exact List.mem_cons_self
    · exact List.mem_cons_of_mem _ (List.mem_append_left _ (sound.queued request queued))
  · intro request waits
    rcases advances.queued request waits with old | new
    · exact List.mem_cons_of_mem _ (sound.queued request old)
    · rw [List.mem_singleton.mp new]
      exact List.mem_cons_self
  · exact List.nodup_cons.mpr
      ⟨fun already => fresh (sound.started caller already), sound.callers⟩
  · intro other isCaller
    rcases List.mem_cons.mp isCaller with rfl | old
    · exact List.mem_cons_self
    · exact List.mem_cons_of_mem _ (sound.started other old)
  · intro waits
    cases free : Number.lt (.ofInt world.pool.pool.inUse) world.pool.pool.maxSize with
    | true =>
        rw [PoolWorld.tryAcquire_of_free timeoutMs free] at waits ⊢
        exact sound.queueLimit waits
    | false =>
        -- The pool is full, so the queue is not.
        have full : bulkhead.config.maxConcurrent.le (.ofInt world.pool.pool.inUse) = true := by
          by_contra above
          have isFree := Number.ofInt_lt_of_not_le bulkhead.limits.1 (Bool.not_eq_true _ ▸ above)
          rw [← sound.size] at isFree
          cases free.symm.trans isFree
        have hasPlace
            : bulkhead.config.maxQueueSize.le (.ofInt world.pool.pool.queue.length) = false := by
          simpa only [BulkheadWorld.isFull, full, Bool.true_and] using hasPlace
        rw [PoolWorld.tryAcquire_of_full timeoutMs free]
        simpa using Number.ofInt_lt_of_not_le bulkhead.limits.2 hasPlace

/-- The calls that wait are in the queue of the pool. -/
theorem BulkheadSound.waitingCalls_le_queue (sound : BulkheadSound bulkhead world)
    : world.waitingCalls.length ≤ world.pool.pool.queue.length := by
  have ids : (world.waitingCalls.map Prod.snd).Nodup :=
    (List.filter_sublist.map Prod.snd).nodup (List.nodup_append.mp sound.distinct).1
  have included
      : world.waitingCalls.map Prod.snd ⊆ world.pool.pool.queue.map WaitingAcquire.id := by
    intro request isWaiting
    obtain ⟨call, unresolved, rfl⟩ := List.mem_map.mp isWaiting
    obtain ⟨waits, unresolved⟩ := List.mem_filter.mp unresolved
    rcases (sound.pool.issued call.2).mp (sound.issued call waits) with resolved | queued
    · exact absurd resolved (of_decide_eq_true unresolved)
    · exact queued
  simpa only [List.length_map] using (ids.subperm included).length_le

end

section
variable {ι : Type} [DecidableEq ι] {bulkhead : Bulkhead} {world : BulkheadWorld ι}

/-- A waiting call taken out of the queue and put elsewhere. -/
theorem perm_moved {α β : Type} [BEq α] [LawfulBEq α] {call : α} {calls : List α}
    (waits : call ∈ calls) (key : α → β) (rest : List β)
    : ((calls.erase call).map key ++ key call :: rest).Perm (calls.map key ++ rest) :=
  List.perm_middle.trans (((List.perm_cons_erase waits).symm.map key).append_right rest)

/-- A request that was resolved is not queued, so its call can stop waiting. -/
theorem BulkheadSound.queued_erase (sound : BulkheadSound bulkhead world) {caller : ι}
    {request : Nat} {granted : Bool} (waits : (caller, request) ∈ world.waiting)
    (resolved : (request, granted) ∈ world.pool.resolved)
    : ∀ other ∈ world.pool.pool.queue.map WaitingAcquire.id,
        other ∈ (world.waiting.erase (caller, request)).map Prod.snd := by
  intro other queued
  have order := (List.perm_cons_erase waits).map Prod.snd
  rcases List.mem_cons.mp (order.mem_iff.mp (sound.queued other queued)) with rfl | old
  · exact absurd (List.mem_map_of_mem (f := Prod.fst) resolved) (sound.pool.apart _ queued)
  · exact old

/-- A call whose request was granted calls its function. -/
theorem BulkheadSound.began (sound : BulkheadSound bulkhead world) {caller : ι} {request : Nat}
    (waits : (caller, request) ∈ world.waiting) (isGranted : (request, true) ∈ world.pool.resolved)
    : BulkheadSound bulkhead {
        world with
        waiting := world.waiting.erase (caller, request)
        running := (caller, request) :: world.running
        ran := (caller, request) :: world.ran
      } := by
  have accounted := sound.accounted
  have requests := perm_moved waits Prod.snd (world.ran.map Prod.snd)
  have callers := perm_moved waits Prod.fst (world.ran.map Prod.fst ++ world.rejected)
  refine ⟨sound.pool, sound.size, ?_, ?_, requests.nodup_iff.mpr sound.distinct, ?_, ?_,
    sound.queued_erase waits isGranted, callers.nodup_iff.mpr sound.callers, ?_,
    sound.queueLimit⟩
  · simp only [List.length_cons]
    omega
  · intro call ran
    rcases List.mem_cons.mp ran with rfl | old
    · exact isGranted
    · exact sound.granted call old
  · exact fun call stillWaits => sound.issued call (List.mem_of_mem_erase stillWaits)
  · exact fun other granted => requests.mem_iff.mpr (sound.covered other granted)
  · exact fun other isCaller => sound.started other (callers.mem_iff.mp isCaller)

/-- A call whose request timed out is turned away. -/
theorem BulkheadSound.gaveUp (sound : BulkheadSound bulkhead world) {caller : ι} {request : Nat}
    (waits : (caller, request) ∈ world.waiting) (isRefused : (request, false) ∈ world.pool.resolved)
    : BulkheadSound bulkhead (world.executeTimedOut caller request) := by
  have order := (List.perm_cons_erase waits).map Prod.snd
  have requests : ((world.waiting.erase (caller, request)).map Prod.snd).Sublist
      (world.waiting.map Prod.snd) :=
    List.erase_sublist.map Prod.snd
  have callers
      : ((world.waiting.erase (caller, request)).map Prod.fst
          ++ (world.ran.map Prod.fst ++ caller :: world.rejected)).Perm
        (world.waiting.map Prod.fst ++ (world.ran.map Prod.fst ++ world.rejected)) :=
    (List.perm_middle.append_left _).trans (perm_moved waits Prod.fst _)
  refine ⟨sound.pool, sound.size, sound.accounted, sound.granted,
    (requests.append_right _).nodup sound.distinct, ?_, ?_, sound.queued_erase waits isRefused,
    callers.nodup_iff.mpr sound.callers, ?_, sound.queueLimit⟩
  · exact fun call stillWaits => sound.issued call (List.mem_of_mem_erase stillWaits)
  · intro other isGranted
    rcases List.mem_append.mp (sound.covered other isGranted) with stillWaits | ran
    · rcases List.mem_cons.mp (order.mem_iff.mp stillWaits) with rfl | old
      · -- A request is resolved once, and this one was refused.
        have same := List.inj_on_of_nodup_map sound.pool.once isGranted isRefused rfl
        exact nomatch same
      · exact List.mem_append_left _ old
    · exact List.mem_append_right _ ran
  · exact fun other isCaller => sound.started other (callers.mem_iff.mp isCaller)

/-- A function that is over gives its slot back. -/
theorem BulkheadSound.finished (sound : BulkheadSound bulkhead world) {caller : ι}
    {request : Nat} (runs : (caller, request) ∈ world.running)
    : BulkheadSound bulkhead (world.executeFinally caller request) := by
  have holds := sound.running_le_inUse
  have some : 0 < world.running.length := List.length_pos_of_mem runs
  have used : 0 < world.pool.pool.inUse := by omega
  have ended : (world.running.erase (caller, request)).length + 1 = world.running.length := by
    rw [List.length_erase_of_mem runs]
    omega
  exact sound.advanced (sound.pool.step .release) (PoolWorld.release_advances used) ended

/-- Every stretch keeps what holds of a bulkhead. -/
theorem BulkheadSound.step (sound : BulkheadSound bulkhead world) (event : ExecuteEvent ι)
    : BulkheadSound bulkhead (BulkheadWorld.step bulkhead world event) := by
  cases event with
  | start caller overrideTimeoutMs =>
      simp only [BulkheadWorld.step]
      split
      case isTrue => exact sound
      case isFalse fresh =>
        unfold BulkheadWorld.executeStart
        split
        case isTrue => exact sound.turnedAway fresh
        case isFalse hasPlace => exact sound.admitted fresh _ (Bool.eq_false_iff.mpr hasPlace)
  | expire request =>
      exact sound.advanced (sound.pool.step (.expire request))
        (PoolWorld.expire_advances request) rfl
  | acquired caller request throws =>
      simp only [BulkheadWorld.step]
      split
      case isFalse => exact sound
      case isTrue ready =>
        have began := sound.began ready.1 ready.2
        cases throws with
        | false => exact began
        | true => exact began.finished List.mem_cons_self
  | timedOut caller request =>
      simp only [BulkheadWorld.step]
      split
      case isFalse => exact sound
      case isTrue ready => exact sound.gaveUp ready.1 ready.2
  | settled caller request =>
      simp only [BulkheadWorld.step]
      split
      case isFalse => exact sound
      case isTrue runs => exact sound.finished runs

/-- What holds of a bulkhead holds after every sequence of stretches, by induction on it. -/
theorem bulkhead_sound (bulkhead : Bulkhead) (events : List (ExecuteEvent ι))
    : BulkheadSound bulkhead (BulkheadWorld.after bulkhead events) := by
  induction events with
  | nil =>
      have hasSlots
          : Number.lt (.ofInt 0) bulkhead.config.maxConcurrent = true :=
        Number.ofInt_lt_of_not_le bulkhead.limits.1 bulkhead.hasSlots
      exact ⟨sound_afterEvents hasSlots [], rfl, rfl, nofun, .nil, nofun, nofun, nofun, .nil, nofun,
        fun waits => absurd rfl waits⟩
  | cons event earlier ih => exact ih.step event

/-- A call that was turned away stays so. -/
theorem rejected_step (event : ExecuteEvent ι) {caller : ι} (rejected : caller ∈ world.rejected)
    : caller ∈ (BulkheadWorld.step bulkhead world event).rejected := by
  cases event with
  | start other overrideTimeoutMs =>
      simp only [BulkheadWorld.step, BulkheadWorld.executeStart]
      split
      · exact rejected
      · split
        · exact List.mem_cons_of_mem _ rejected
        · exact rejected
  | expire request => exact rejected
  | acquired other request throws =>
      simp only [BulkheadWorld.step]
      split
      · cases throws <;> exact rejected
      · exact rejected
  | timedOut other request =>
      simp only [BulkheadWorld.step]
      split
      · exact List.mem_cons_of_mem _ rejected
      · exact rejected
  | settled other request =>
      simp only [BulkheadWorld.step]
      split <;> exact rejected

/-- A call that was turned away stays so whatever happens later, by induction on it. -/
theorem rejected_after (later : List (ExecuteEvent ι)) {earlier : List (ExecuteEvent ι)} {caller : ι}
    (rejected : caller ∈ (BulkheadWorld.after bulkhead earlier).rejected)
    : caller ∈ (BulkheadWorld.after bulkhead (later ++ earlier)).rejected := by
  induction later with
  | nil => exact rejected
  | cons event later ih => exact rejected_step event ih

end

/-- The laws of a bulkhead after a sequence of stretches. A limit that is no whole number counts
as the next one above.
-/
structure BulkheadLaws {ι : Type} [DecidableEq ι] (bulkhead : Bulkhead)
    (events : List (ExecuteEvent ι)) : Prop where
  running
    : Number.le (.ofInt (BulkheadWorld.after bulkhead events).running.length)
        bulkhead.config.maxConcurrent.ceil
      = true
  waiting
    : (BulkheadWorld.after bulkhead events).waitingCalls = []
      ∨ Number.le (.ofInt (BulkheadWorld.after bulkhead events).waitingCalls.length)
          bulkhead.config.maxQueueSize.ceil
        = true
  rejected
    : ∀ (later : List (ExecuteEvent ι)),
        ∀ caller ∈ (BulkheadWorld.after bulkhead events).rejected,
          caller ∉ (BulkheadWorld.after bulkhead (later ++ events)).ran.map Prod.fst
  settled
    : (BulkheadWorld.after bulkhead events).waiting = []
      → (BulkheadWorld.after bulkhead events).running = []
      → (BulkheadWorld.after bulkhead events).pool.pool.inUse = 0

/-- Any interleaving of the calls keeps the laws. -/
theorem bulkhead_laws {ι : Type} [DecidableEq ι] (bulkhead : Bulkhead)
    (events : List (ExecuteEvent ι)) : BulkheadLaws bulkhead events := by
  have sound := bulkhead_sound bulkhead events
  refine ⟨?_, ?_, ?_, ?_⟩
  · have holds := sound.running_le_inUse
    by_cases used : 0 < (BulkheadWorld.after bulkhead events).pool.pool.inUse
    · have within := sound.pool.within used
      rw [sound.size] at within
      exact Number.ofInt_le_ceil (Number.ofInt_lt_of_le (by omega) within)
    · have hasSlots := sound.pool.hasSlots
      rw [sound.size] at hasSlots
      exact Number.ofInt_le_ceil (Number.ofInt_lt_of_le (by omega) hasSlots)
  · have fewer := sound.waitingCalls_le_queue
    rcases List.eq_nil_or_concat (BulkheadWorld.after bulkhead events).waitingCalls
      with nobody | ⟨calls, call, someCalls⟩
    · exact .inl nobody
    · have some : 0 < (BulkheadWorld.after bulkhead events).waitingCalls.length := by
        simp [someCalls]
      have limit := sound.queueLimit (List.length_pos_iff.mp (Nat.lt_of_lt_of_le some fewer))
      exact .inr (Number.ofInt_le_ceil (Number.ofInt_lt_of_le (by omega) limit))
  · intro later caller rejected ran
    have callers := (bulkhead_sound bulkhead (later ++ events)).callers
    have apart := (List.nodup_append.mp (List.nodup_append.mp callers).2.1).2.2
    exact apart _ ran _ (rejected_after later rejected) rfl
  · intro nobodyWaits nobodyRuns
    have granted := sound.grants_le_ran nobodyWaits
    have accounted := sound.accounted
    have nonneg := sound.pool.nonneg
    rw [nobodyRuns, List.length_nil] at accounted
    omega

/-- What is claimed of the limits as they are given. -/
structure KeepsLimits {ι : Type} [DecidableEq ι] (bulkhead : Bulkhead)
    (events : List (ExecuteEvent ι)) : Prop where
  running
    : Number.le (.ofInt (BulkheadWorld.after bulkhead events).running.length)
        bulkhead.config.maxConcurrent
      = true
  waiting
    : Number.le (.ofInt (BulkheadWorld.after bulkhead events).waitingCalls.length)
        bulkhead.config.maxQueueSize
      = true

/-- A bulkhead of two slots and a half. -/
def halfSlots : Bulkhead where
  config := PartialBulkheadConfig.resolve { maxConcurrent := some (.finite (5 / 2)) }
  limits := by decide +kernel
  hasSlots := by decide +kernel

/-- Three functions run on two slots and a half. -/
theorem half_slots_run_three
    : Bulkhead.create { maxConcurrent := some (.finite (5 / 2)) } = .ok halfSlots
      ∧ ∃ events : List (ExecuteEvent Nat), ¬KeepsLimits halfSlots events := by
  refine ⟨dif_neg (by decide +kernel), [
    .acquired 3 2 false, .acquired 2 1 false, .acquired 1 0 false,
    .start 3 none, .start 2 none, .start 1 none
  ], ?_⟩
  exact fun keeps => absurd keeps.running (by decide +kernel)

end QueueForge.Resilience
