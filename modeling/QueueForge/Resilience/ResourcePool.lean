import Mathlib.Data.List.Pairwise
import QueueForge.Js.Values

/-! The slot pool behind a bulkhead: a count of the slots in use and a queue of requests.
A request is known by its number. What its promise resolves to is kept with the order in
which requests were resolved, newest first.
-/

namespace QueueForge.Resilience

open QueueForge.Js

/-- A queued request, and whether it has a timer. -/
structure WaitingAcquire where
  id : Nat
  timer : Bool
deriving DecidableEq, Repr

structure ResourcePool where
  maxSize : Number
  inUse : Int := 0
  queue : List WaitingAcquire := []
deriving DecidableEq, Repr

namespace ResourcePool

/-- A slot at once, or a place in the queue. -/
def tryAcquire (pool : ResourcePool) (id : Nat) (timeoutMs : Number) : Bool × ResourcePool :=
  if Number.lt (.ofInt pool.inUse) pool.maxSize then
    (true, { pool with inUse := pool.inUse + 1 })
  else
    (false, { pool with queue := pool.queue ++ [⟨id, Number.lt 0 timeoutMs⟩] })

/-- Remove a request from the queue on timeout. -/
def timeOut (pool : ResourcePool) (id : Nat) : ResourcePool :=
  { pool with queue := pool.queue.eraseP (fun item => item.timer && item.id = id) }

/-- Give a slot back; it goes to the next waiting request in FIFO order. -/
def release (pool : ResourcePool) : Option WaitingAcquire × ResourcePool :=
  if pool.inUse ≤ 0 then
    (none, pool)
  else
    let inUse := pool.inUse - 1
    match pool.queue with
    | [] => (none, { pool with inUse := inUse })
    | nextRequest :: rest =>
        (some nextRequest, { pool with inUse := inUse + 1, queue := rest })

end ResourcePool

/-- A pool with the timers that are set and what its requests were resolved to. -/
structure PoolWorld where
  pool : ResourcePool
  timers : List Nat := []
  requests : Nat := 0
  resolved : List (Nat × Bool) := []
deriving DecidableEq, Repr

inductive PoolEvent where
  | tryAcquire (timeoutMs : Number)
  | expire (id : Nat)
  | release
deriving DecidableEq, Repr

namespace PoolWorld

/-- A new request: granted at once or queued, with a timer if it has a timeout. -/
def tryAcquire (world : PoolWorld) (timeoutMs : Number) : PoolWorld :=
  let id := world.requests
  let acquired := world.pool.tryAcquire id timeoutMs
  {
    pool := acquired.2
    timers := if !acquired.1 && Number.lt 0 timeoutMs then id :: world.timers else world.timers
    requests := world.requests + 1
    resolved := if acquired.1 then (id, true) :: world.resolved else world.resolved
  }

/-- The timer of a request fires, if it is set. -/
def expire (world : PoolWorld) (id : Nat) : PoolWorld :=
  if id ∈ world.timers then
    {
      world with
      pool := world.pool.timeOut id
      timers := world.timers.filter (· ≠ id)
      resolved := (id, false) :: world.resolved
    }
  else
    world

/-- A release; the request it grants has its timer cleared. -/
def release (world : PoolWorld) : PoolWorld :=
  let released := world.pool.release
  match released.1 with
  | none => { world with pool := released.2 }
  | some granted => {
      world with
      pool := released.2
      timers := world.timers.filter (· ≠ granted.id)
      resolved := (granted.id, true) :: world.resolved
    }

def step (world : PoolWorld) : PoolEvent → PoolWorld
  | .tryAcquire timeoutMs => world.tryAcquire timeoutMs
  | .expire id => world.expire id
  | .release => world.release

/-- The pool after a sequence of events, newest first. -/
def after (maxSize : Number) : List PoolEvent → PoolWorld
  | [] => { pool := { maxSize := maxSize } }
  | event :: earlier => (after maxSize earlier).step event

/-- The grants so far. -/
def grants (world : PoolWorld) : Nat :=
  world.resolved.countP Prod.snd

end PoolWorld

/-! What each event does, case by case. -/

namespace PoolWorld

variable {world : PoolWorld}

theorem tryAcquire_of_free (timeoutMs : Number)
    (free : Number.lt (.ofInt world.pool.inUse) world.pool.maxSize = true)
    : world.tryAcquire timeoutMs = {
        world with
        pool := { world.pool with inUse := world.pool.inUse + 1 }
        requests := world.requests + 1
        resolved := (world.requests, true) :: world.resolved
      } := by
  simp [tryAcquire, ResourcePool.tryAcquire, free]

theorem tryAcquire_of_full (timeoutMs : Number)
    (full : Number.lt (.ofInt world.pool.inUse) world.pool.maxSize = false)
    : world.tryAcquire timeoutMs = {
        world with
        pool := {
          world.pool with
          queue := world.pool.queue ++ [⟨world.requests, Number.lt 0 timeoutMs⟩]
        }
        timers := if Number.lt 0 timeoutMs then world.requests :: world.timers else world.timers
        requests := world.requests + 1
      } := by
  simp [tryAcquire, ResourcePool.tryAcquire, full]

theorem release_of_unused (unused : world.pool.inUse ≤ 0) : world.release = world := by
  simp [release, ResourcePool.release, unused]

theorem release_of_nobody (used : 0 < world.pool.inUse) (nobody : world.pool.queue = [])
    : world.release = {
        world with
        pool := { world.pool with inUse := world.pool.inUse - 1 }
      } := by
  simp [release, ResourcePool.release, Int.not_le.mpr used, nobody]

theorem release_of_waiting (used : 0 < world.pool.inUse) {nextRequest : WaitingAcquire}
    {rest : List WaitingAcquire} (waiting : world.pool.queue = nextRequest :: rest)
    : world.release = {
        world with
        pool := { world.pool with queue := rest }
        timers := world.timers.filter (· ≠ nextRequest.id)
        resolved := (nextRequest.id, true) :: world.resolved
      } := by
  simp [release, ResourcePool.release, Int.not_le.mpr used, waiting]

theorem step_maxSize (event : PoolEvent)
    : (world.step event).pool.maxSize = world.pool.maxSize := by
  cases event with
  | tryAcquire timeoutMs =>
      cases free : Number.lt (.ofInt world.pool.inUse) world.pool.maxSize with
      | true => exact congrArg (·.pool.maxSize) (tryAcquire_of_free timeoutMs free)
      | false => exact congrArg (·.pool.maxSize) (tryAcquire_of_full timeoutMs free)
  | expire id =>
      simp only [step, expire]
      split <;> rfl
  | release =>
      by_cases used : 0 < world.pool.inUse
      · cases waiting : world.pool.queue with
        | nil => exact congrArg (·.pool.maxSize) (release_of_nobody used waiting)
        | cons nextRequest rest =>
            exact congrArg (·.pool.maxSize) (release_of_waiting used waiting)
      · exact congrArg (·.pool.maxSize) (release_of_unused (Int.not_lt.mp used))

theorem after_maxSize (maxSize : Number) (events : List PoolEvent)
    : (after maxSize events).pool.maxSize = maxSize := by
  induction events with
  | nil => rfl
  | cons event earlier ih => exact (step_maxSize event).trans ih

end PoolWorld

/-- When a request is granted, every request before it has been resolved. -/
def GrantsInOrder : List (Nat × Bool) → Prop
  | [] => True
  | (id, granted) :: earlier =>
      (granted = true → ∀ before < id, before ∈ earlier.map Prod.fst) ∧ GrantsInOrder earlier

/-- What holds of a pool, whatever happens to it. -/
structure PoolSound (world : PoolWorld) : Prop where
  hasSlots : Number.lt (.ofInt 0) world.pool.maxSize = true
  nonneg : 0 ≤ world.pool.inUse
  within
    : 0 < world.pool.inUse → Number.lt (.ofInt (world.pool.inUse - 1)) world.pool.maxSize = true
  full : world.pool.queue ≠ [] → Number.lt (.ofInt world.pool.inUse) world.pool.maxSize = false
  ordered : (world.pool.queue.map WaitingAcquire.id).Pairwise (· < ·)
  issued
    : ∀ id,
        id < world.requests
        ↔ id ∈ world.resolved.map Prod.fst ∨ id ∈ world.pool.queue.map WaitingAcquire.id
  apart
    : ∀ id ∈ world.pool.queue.map WaitingAcquire.id, id ∉ world.resolved.map Prod.fst
  once : (world.resolved.map Prod.fst).Nodup
  timed : ∀ id ∈ world.timers, ⟨id, true⟩ ∈ world.pool.queue
  inOrder : GrantsInOrder world.resolved

section
variable {world : PoolWorld}

/-- A request that finds a free slot is granted, and nobody waits. -/
theorem PoolSound.acquired (sound : PoolSound world) (timeoutMs : Number)
    (free : Number.lt (.ofInt world.pool.inUse) world.pool.maxSize = true)
    : PoolSound (world.tryAcquire timeoutMs) := by
  have empty : world.pool.queue = [] := by
    by_contra waits
    exact nomatch free.symm.trans (sound.full waits)
  have issued (id : Nat) : id < world.requests ↔ id ∈ world.resolved.map Prod.fst := by
    rw [sound.issued id, empty]
    simp
  rw [PoolWorld.tryAcquire_of_free timeoutMs free]
  refine ⟨sound.hasSlots, ?_, ?_, ?_, sound.ordered, ?_, ?_, ?_, sound.timed, ?_⟩
  · have nonneg := sound.nonneg
    simp only
    omega
  · intro _
    simpa using free
  · exact fun waits => absurd empty waits
  · intro id
    have old := issued id
    simp only [empty, List.map_nil, List.map_cons, List.mem_cons, List.not_mem_nil, or_false]
    rw [← old]
    omega
  · simp [empty]
  · rw [List.map_cons, List.nodup_cons]
    refine ⟨?_, sound.once⟩
    intro already
    exact Nat.lt_irrefl _ ((issued world.requests).mpr already)
  · exact ⟨fun _ before earlier => (issued before).mp earlier, sound.inOrder⟩

/-- A request that finds no free slot is the last of the queue. -/
theorem PoolSound.queued (sound : PoolSound world) (timeoutMs : Number)
    (none : Number.lt (.ofInt world.pool.inUse) world.pool.maxSize = false)
    : PoolSound (world.tryAcquire timeoutMs) := by
  have older (id : Nat) (waits : id ∈ world.pool.queue.map WaitingAcquire.id)
      : id < world.requests :=
    (sound.issued id).mpr (.inr waits)
  rw [PoolWorld.tryAcquire_of_full timeoutMs none]
  refine ⟨sound.hasSlots, sound.nonneg, sound.within, fun _ => none, ?_, ?_, ?_, sound.once, ?_,
    sound.inOrder⟩
  · rw [List.map_append, List.pairwise_append]
    refine ⟨sound.ordered, List.pairwise_singleton _ _, ?_⟩
    intro id waits last isLast
    rw [List.mem_singleton.mp isLast]
    exact older id waits
  · intro id
    have old := sound.issued id
    simp only [List.map_append, List.map_cons, List.map_nil, List.mem_append,
      List.mem_singleton]
    rw [← or_assoc, ← old]
    omega
  · intro id waits
    simp only [List.map_append, List.map_cons, List.map_nil, List.mem_append,
      List.mem_singleton] at waits
    rcases waits with waits | rfl
    · exact sound.apart id waits
    · exact fun already => Nat.lt_irrefl _ ((sound.issued _).mpr (.inl already))
  · intro id set
    simp only at set
    split at set
    case isTrue timed =>
      rcases List.mem_cons.mp set with rfl | set
      · simp [timed]
      · exact List.mem_append_left _ (sound.timed id set)
    case isFalse => exact List.mem_append_left _ (sound.timed id set)

/-- A queued request is resolved: with its timeout, or with a slot if it is the first. -/
theorem PoolSound.resolve (sound : PoolSound world) {front back : List WaitingAcquire}
    {item : WaitingAcquire} (split : world.pool.queue = front ++ item :: back) {granted : Bool}
    (first : granted = true → front = [])
    : PoolSound {
        world with
        pool := { world.pool with queue := front ++ back }
        timers := world.timers.filter (· ≠ item.id)
        resolved := (item.id, granted) :: world.resolved
      } := by
  have waiting : world.pool.queue ≠ [] := by simp [split]
  have ids
      : world.pool.queue.map WaitingAcquire.id
        = front.map WaitingAcquire.id ++ item.id :: back.map WaitingAcquire.id := by
    simp [split]
  have ordered := sound.ordered
  rw [ids, List.pairwise_append, List.pairwise_cons] at ordered
  obtain ⟨frontOrdered, ⟨below, backOrdered⟩, across⟩ := ordered
  have isQueued : item.id ∈ world.pool.queue.map WaitingAcquire.id := by simp [ids]
  have rest (id : Nat)
      : id ∈ world.pool.queue.map WaitingAcquire.id
        ↔ id = item.id ∨ id ∈ (front ++ back).map WaitingAcquire.id := by
    rw [ids, List.map_append]
    simp only [List.mem_append, List.mem_cons]
    tauto
  have apartFromItem : item.id ∉ (front ++ back).map WaitingAcquire.id := by
    rw [List.map_append, List.mem_append]
    rintro (inFront | inBack)
    · exact Nat.lt_irrefl _ (across _ inFront _ List.mem_cons_self)
    · exact Nat.lt_irrefl _ (below _ inBack)
  refine ⟨sound.hasSlots, sound.nonneg, sound.within, fun _ => sound.full waiting, ?_, ?_, ?_, ?_,
    ?_, ?_⟩
  · rw [List.map_append, List.pairwise_append]
    refine ⟨frontOrdered, backOrdered, ?_⟩
    exact fun id inFront other inBack =>
      across id inFront other (List.mem_cons_of_mem _ inBack)
  · intro id
    have old := sound.issued id
    rw [rest] at old
    rw [old, List.map_cons, List.mem_cons]
    tauto
  · intro id waits
    rw [List.map_cons, List.mem_cons]
    rintro (rfl | already)
    · exact apartFromItem waits
    · exact sound.apart id ((rest id).mpr (.inr waits)) already
  · rw [List.map_cons, List.nodup_cons]
    exact ⟨sound.apart item.id isQueued, sound.once⟩
  · intro id set
    simp only [List.mem_filter, decide_eq_true_eq] at set
    have waits := sound.timed id set.1
    rw [split, List.mem_append, List.mem_cons] at waits
    rcases waits with inFront | rfl | inBack
    · exact List.mem_append_left _ inFront
    · exact absurd rfl set.2
    · exact List.mem_append_right _ inBack
  · refine ⟨?_, sound.inOrder⟩
    intro isGranted before earlier
    have known := (sound.issued before).mp
      (Nat.lt_trans earlier ((sound.issued item.id).mpr (.inr isQueued)))
    rcases known with already | waits
    · exact already
    · -- The first of the queue has the least number.
      rw [ids, first isGranted, List.map_nil, List.nil_append, List.mem_cons] at waits
      rcases waits with rfl | inBack
      · exact absurd earlier (Nat.lt_irrefl _)
      · exact absurd earlier (Nat.lt_asymm (below before inBack))

/-- A timer that fires takes its request out of the queue. -/
theorem PoolSound.expire (sound : PoolSound world) (id : Nat) : PoolSound (world.expire id) := by
  unfold PoolWorld.expire
  split
  case isFalse => exact sound
  case isTrue set =>
    have hit : (fun item : WaitingAcquire => item.timer && item.id = id) ⟨id, true⟩ = true := by
      simp
    obtain ⟨item, front, back, _, matching, split, erased⟩ :=
      List.exists_of_eraseP (p := fun item => item.timer && item.id = id)
        (sound.timed id set) hit
    simp only [Bool.and_eq_true, decide_eq_true_eq] at matching
    have own : item.id = id := matching.2
    have resolved := sound.resolve split (fun isGranted : false = true => by cases isGranted)
    rw [own] at resolved
    unfold ResourcePool.timeOut
    rw [erased]
    exact resolved

/-- A release frees a slot or hands it to the first of the queue. -/
theorem PoolSound.release (sound : PoolSound world) : PoolSound world.release := by
  by_cases used : 0 < world.pool.inUse
  · cases waiting : world.pool.queue with
    | nil =>
        rw [PoolWorld.release_of_nobody used waiting]
        refine ⟨sound.hasSlots, ?_, ?_, fun waits => absurd waiting waits, sound.ordered,
          sound.issued, sound.apart, sound.once, sound.timed, sound.inOrder⟩
        · simp only
          omega
        · intro _
          have fewer : world.pool.inUse - 1 - 1 ≤ world.pool.inUse - 1 := by omega
          exact Number.ofInt_lt_of_le fewer (sound.within used)
    | cons nextRequest rest =>
        rw [PoolWorld.release_of_waiting used waiting]
        have split : world.pool.queue = [] ++ nextRequest :: rest := waiting
        exact sound.resolve split (fun _ => rfl)
  · rw [PoolWorld.release_of_unused (Int.not_lt.mp used)]
    exact sound

/-- Every event keeps what holds of a pool. -/
theorem PoolSound.step (sound : PoolSound world) (event : PoolEvent)
    : PoolSound (world.step event) := by
  cases event with
  | tryAcquire timeoutMs =>
      cases free : Number.lt (.ofInt world.pool.inUse) world.pool.maxSize with
      | true => exact sound.acquired timeoutMs free
      | false => exact sound.queued timeoutMs free
  | expire id => exact sound.expire id
  | release => exact sound.release

end

/-- The releases made while a slot was in use. -/
def releases (maxSize : Number) : List PoolEvent → Nat
  | [] => 0
  | event :: earlier =>
      if event = .release ∧ 0 < (PoolWorld.after maxSize earlier).pool.inUse then
        releases maxSize earlier + 1
      else
        releases maxSize earlier

section
variable {maxSize : Number}

/-- What holds of a pool holds after every sequence of events, by induction on it. -/
theorem sound_afterEvents (hasSlots : Number.lt (.ofInt 0) maxSize = true)
    (events : List PoolEvent)
    : PoolSound (PoolWorld.after maxSize events) := by
  induction events with
  | nil =>
      refine ⟨hasSlots, Int.le_refl 0, nofun, fun waits => absurd rfl waits, .nil, ?_, nofun,
        .nil, nofun, trivial⟩
      intro id
      simp [PoolWorld.after]
  | cons event earlier ih => exact ih.step event

/-- The slots in use are the grants less the releases, by induction on the events. -/
theorem inUse_afterEvents (hasSlots : Number.lt (.ofInt 0) maxSize = true)
    (events : List PoolEvent)
    : (PoolWorld.after maxSize events).pool.inUse
      = (PoolWorld.after maxSize events).grants - releases maxSize events := by
  induction events with
  | nil => rfl
  | cons event earlier ih =>
      have sound := sound_afterEvents hasSlots earlier
      simp only [PoolWorld.after, releases]
      generalize PoolWorld.after maxSize earlier = world at ih sound ⊢
      cases event with
      | tryAcquire timeoutMs =>
          simp only [PoolWorld.step, reduceCtorEq, false_and, if_false]
          cases free : Number.lt (.ofInt world.pool.inUse) world.pool.maxSize with
          | true =>
              rw [PoolWorld.tryAcquire_of_free timeoutMs free]
              simp only [PoolWorld.grants, List.countP_cons, if_true] at ih ⊢
              omega
          | false =>
              rw [PoolWorld.tryAcquire_of_full timeoutMs free]
              exact ih
      | expire id =>
          simp only [PoolWorld.step, PoolWorld.expire, reduceCtorEq, false_and, if_false]
          split
          · simpa [PoolWorld.grants, ResourcePool.timeOut] using ih
          · exact ih
      | release =>
          simp only [PoolWorld.step, true_and]
          by_cases used : 0 < world.pool.inUse
          · rw [if_pos used]
            cases waiting : world.pool.queue with
            | nil =>
                rw [PoolWorld.release_of_nobody used waiting]
                simp only [PoolWorld.grants] at ih ⊢
                omega
            | cons nextRequest rest =>
                rw [PoolWorld.release_of_waiting used waiting]
                simp only [PoolWorld.grants, List.countP_cons, if_true] at ih ⊢
                omega
          · rw [if_neg used, PoolWorld.release_of_unused (Int.not_lt.mp used)]
            exact ih

end

/-- What a step of a pool may change: `fresh` requests are made and `freed` slots given back.
-/
structure Advances (world next : PoolWorld) (fresh : List Nat) (freed : Int) : Prop where
  size : next.pool.maxSize = world.pool.maxSize
  accounted : next.pool.inUse + world.grants + freed = world.pool.inUse + next.grants
  requests : next.requests = world.requests + fresh.length
  kept : ∀ entry ∈ world.resolved, entry ∈ next.resolved
  granted
    : ∀ id,
        (id, true) ∈ next.resolved
        → (id, true) ∈ world.resolved
          ∨ id ∈ fresh
          ∨ id ∈ world.pool.queue.map WaitingAcquire.id
  queued
    : ∀ id ∈ next.pool.queue.map WaitingAcquire.id,
        id ∈ world.pool.queue.map WaitingAcquire.id ∨ id ∈ fresh
  shorter : next.pool.queue.length ≤ world.pool.queue.length + fresh.length

namespace PoolWorld

variable {world : PoolWorld}

theorem tryAcquire_advances (world : PoolWorld) (timeoutMs : Number)
    : Advances world (world.tryAcquire timeoutMs) [world.requests] 0 := by
  cases free : Number.lt (.ofInt world.pool.inUse) world.pool.maxSize with
  | true =>
      rw [tryAcquire_of_free timeoutMs free]
      refine ⟨rfl, ?_, rfl, fun _ => List.mem_cons_of_mem _, ?_, fun _ => .inl, Nat.le_add_right _ _⟩
      · simp only [grants, List.countP_cons, if_true]
        omega
      · intro id granted
        rcases List.mem_cons.mp granted with new | old
        · cases new
          exact .inr (.inl List.mem_cons_self)
        · exact .inl old
  | false =>
      rw [tryAcquire_of_full timeoutMs free]
      refine ⟨rfl, ?_, rfl, fun _ => id, fun _ => .inl, ?_, ?_⟩
      · simp only [grants]
        omega
      · intro id waits
        simpa using waits
      · simp

theorem expire_advances (request : Nat) : Advances world (world.expire request) [] 0 := by
  unfold expire
  split
  case isFalse =>
    exact ⟨rfl, by omega, rfl, fun _ => id, fun _ => .inl, fun _ => .inl, Nat.le_refl _⟩
  case isTrue =>
    refine ⟨rfl, ?_, rfl, fun _ => List.mem_cons_of_mem _, ?_, ?_, ?_⟩
    · simp only [grants, ResourcePool.timeOut, List.countP_cons, Bool.false_eq_true, if_false]
      omega
    · intro other granted
      rcases List.mem_cons.mp granted with new | old
      · exact nomatch new
      · exact .inl old
    · intro other waits
      have erased : (world.pool.timeOut request).queue.Sublist world.pool.queue :=
        List.eraseP_sublist
      exact .inl ((erased.map WaitingAcquire.id).subset waits)
    · exact (List.eraseP_sublist).length_le

theorem release_advances (used : 0 < world.pool.inUse)
    : Advances world world.release [] 1 := by
  cases waiting : world.pool.queue with
  | nil =>
      rw [release_of_nobody used waiting]
      refine ⟨rfl, ?_, rfl, fun _ => id, fun _ => .inl, fun _ => .inl, Nat.le_refl _⟩
      simp only [grants]
      omega
  | cons nextRequest rest =>
      rw [release_of_waiting used waiting]
      refine ⟨rfl, ?_, rfl, fun _ => List.mem_cons_of_mem _, ?_, ?_, ?_⟩
      · simp only [grants, List.countP_cons, if_true]
        omega
      · intro id granted
        rcases List.mem_cons.mp granted with new | old
        · cases new
          exact .inr (.inr (by simp [waiting]))
        · exact .inl old
      · intro id waits
        rw [waiting, List.map_cons]
        exact .inl (List.mem_cons_of_mem _ waits)
      · simp [waiting]

end PoolWorld

/-- The laws of a pool of a whole number of slots, after a sequence of events. -/
structure PoolLaws (maxSize : Int) (events : List PoolEvent) : Prop where
  bounded
    : 0 ≤ (PoolWorld.after (.ofInt maxSize) events).pool.inUse
      ∧ (PoolWorld.after (.ofInt maxSize) events).pool.inUse ≤ maxSize
  full
    : (PoolWorld.after (.ofInt maxSize) events).pool.queue ≠ []
      → (PoolWorld.after (.ofInt maxSize) events).pool.inUse = maxSize
  inOrder : GrantsInOrder (PoolWorld.after (.ofInt maxSize) events).resolved
  once : ((PoolWorld.after (.ofInt maxSize) events).resolved.map Prod.fst).Nodup
  accounted
    : (PoolWorld.after (.ofInt maxSize) events).pool.inUse
      = (PoolWorld.after (.ofInt maxSize) events).grants - releases (.ofInt maxSize) events

/-- Every sequence of requests, timeouts and releases keeps the laws. -/
theorem pool_laws (maxSize : Int) (positive : 1 ≤ maxSize) (events : List PoolEvent)
    : PoolLaws maxSize events := by
  have hasSlots : Number.lt (.ofInt 0) (.ofInt maxSize) = true := by
    rw [Number.ofInt_lt_ofInt]
    exact decide_eq_true positive
  have sound := sound_afterEvents hasSlots events
  have atMost
      : (PoolWorld.after (.ofInt maxSize) events).pool.inUse ≤ maxSize := by
    by_cases used : 0 < (PoolWorld.after (.ofInt maxSize) events).pool.inUse
    · have within := sound.within used
      rw [PoolWorld.after_maxSize, Number.ofInt_lt_ofInt, decide_eq_true_eq] at within
      omega
    · omega
  refine ⟨⟨sound.nonneg, atMost⟩, ?_, sound.inOrder, sound.once,
    inUse_afterEvents hasSlots events⟩
  intro waits
  have full := sound.full waits
  rw [PoolWorld.after_maxSize, Number.ofInt_lt_ofInt, decide_eq_false_iff_not] at full
  omega

/-- On one slot the third request is granted: the second has timed out. -/
theorem pool_laws_one_slot
    : (PoolWorld.after 1 [
        .release, .expire 1, .tryAcquire 0, .tryAcquire 50, .tryAcquire 0
      ]).resolved = [(2, true), (1, false), (0, true)]
      ∧ PoolLaws 1 [.release, .expire 1, .tryAcquire 0, .tryAcquire 50, .tryAcquire 0] :=
  ⟨by decide +kernel, pool_laws 1 (Int.le_refl 1) _⟩

end QueueForge.Resilience
