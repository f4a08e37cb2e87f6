import QueueForge.Async.Execution
import QueueForge.Resilience.Bulkhead

/-! Slots taken and given back through the manager, which hands out a ticket for each. The
manager goes to the pool of the bulkhead, past the limit on waiting calls, and does not look
at the ticket that comes back.
-/

namespace QueueForge.Resilience

open QueueForge.Js

/-- The configuration `createBulkhead` passes on; `defaults` is `this.config?.bulkhead`. -/
def createBulkheadConfig (defaults : PartialBulkheadConfig)
    (maxConcurrent maxQueueSize : Option Number) (overrideConfig : PartialBulkheadConfig)
    : PartialBulkheadConfig where
  maxConcurrent :=
    overrideConfig.maxConcurrent.or ((maxConcurrent.or defaults.maxConcurrent).getD 20)
  maxQueueSize :=
    overrideConfig.maxQueueSize.or ((maxQueueSize.or defaults.maxQueueSize).getD 100)
  timeout := overrideConfig.timeout.or (defaults.timeout.getD 30000)

/-- A bulkhead used through the manager: the acquires that have not returned, and the tickets
that were handed out and not given back.
-/
structure TicketWorld where
  pool : PoolWorld
  acquiring : List Nat := []
  held : List String := []

/-- The ticket of an acquire is a clock reading and a random draw, so it is part of the event.
-/
inductive TicketEvent where
  | acquire (timeoutMs : Option Number)
  | expire (request : Nat)
  | acquired (request : Nat) (ticketId : String)
  | refused (request : Nat)
  | release (ticketId : Option String)

namespace TicketWorld

variable (bulkhead : Bulkhead) (world : TicketWorld)

/-- `acquire` up to `await bulkhead.pool.acquire(...)`. -/
def acquire (timeoutMs : Option Number) : TicketWorld := {
  world with
  pool := world.pool.tryAcquire (orNumber timeoutMs bulkhead.config.timeout)
  acquiring := world.pool.requests :: world.acquiring
}

/-- `release`; a ticket that is given back is no longer held. -/
def release (ticketId : Option String) : TicketWorld := {
  world with
  pool := world.pool.release
  held := (ticketId.map world.held.erase).getD world.held
}

def step : TicketEvent → TicketWorld
  | .acquire timeoutMs => acquire bulkhead world timeoutMs
  | .expire request => { world with pool := world.pool.expire request }
  | .acquired request ticketId =>
      if request ∈ world.acquiring ∧ (request, true) ∈ world.pool.resolved then
        {
          world with
          acquiring := world.acquiring.erase request
          held := ticketId :: world.held
        }
      else
        world
  | .refused request =>
      if request ∈ world.acquiring ∧ (request, false) ∈ world.pool.resolved then
        { world with acquiring := world.acquiring.erase request }
      else
        world
  | .release ticketId => world.release ticketId

/-- The bulkhead after a sequence of events, newest first. -/
def after : List TicketEvent → TicketWorld
  | [] => { pool := { pool := { maxSize := bulkhead.config.maxConcurrent } } }
  | event :: earlier => step bulkhead (after earlier) event

end TicketWorld

/-- The waiting acquires keep to the limit of the bulkhead. -/
def WithinQueueLimit (bulkhead : Bulkhead) (world : TicketWorld) : Prop :=
  Number.le (.ofInt world.pool.pool.queue.length) bulkhead.config.maxQueueSize = true

/-- What an event should keep to: the limit on waiting acquires, and a release with a ticket
that is not held changes nothing.
-/
structure KeepsToTickets (bulkhead : Bulkhead) (world : TicketWorld) (event : TicketEvent)
    : Prop where
  within : WithinQueueLimit bulkhead (TicketWorld.step bulkhead world event)
  unheld
    : ∀ ticketId,
        event = .release (some ticketId)
        → ticketId ∉ world.held
        → TicketWorld.step bulkhead world event = world

/-- Every event so far kept to the limit and to the tickets. -/
def KeptToTickets (bulkhead : Bulkhead) : List TicketEvent → Prop
  | [] => WithinQueueLimit bulkhead (TicketWorld.after bulkhead [])
  | event :: earlier =>
      KeptToTickets bulkhead earlier
      ∧ KeepsToTickets bulkhead (TicketWorld.after bulkhead earlier) event

/-- The events that the manager gets right: an acquire that finds a slot or room to wait, and a
release with a ticket that is held or with no slot in use.
-/
def FindsRoom (bulkhead : Bulkhead) (world : TicketWorld) : TicketEvent → Prop
  | .acquire _ =>
      Number.lt (.ofInt world.pool.pool.inUse) world.pool.pool.maxSize = true
      ∨ Number.le (.ofInt (world.pool.pool.queue.length + 1)) bulkhead.config.maxQueueSize = true
  | .release (some ticketId) => ticketId ∈ world.held ∨ world.pool.pool.inUse ≤ 0
  | _ => True

/-- The queue limit is not negative, and every event so far was one the manager gets right. -/
def FoundRoom (bulkhead : Bulkhead) : List TicketEvent → Prop
  | [] => Number.le (.ofInt 0) bulkhead.config.maxQueueSize = true
  | event :: earlier =>
      FoundRoom bulkhead earlier ∧ FindsRoom bulkhead (TicketWorld.after bulkhead earlier) event

section
variable {bulkhead : Bulkhead} {world : TicketWorld}

/-- A step of the pool that makes no request leaves no more acquires waiting. -/
theorem WithinQueueLimit.advanced (within : WithinQueueLimit bulkhead world) {next : TicketWorld}
    {freed : Int} (advances : Advances world.pool next.pool [] freed)
    : WithinQueueLimit bulkhead next := by
  have shorter : next.pool.pool.queue.length ≤ world.pool.pool.queue.length := advances.shorter
  exact Number.ofInt_le_of_le (by omega) within

/-- A release while a slot is in use changes the pool. -/
theorem PoolWorld.release_ne {pool : PoolWorld} (used : 0 < pool.pool.inUse)
    : pool.release ≠ pool := by
  intro same
  have accounted := (PoolWorld.release_advances used).accounted
  rw [same] at accounted
  omega

/-- A release leaves no more acquires waiting. -/
theorem WithinQueueLimit.released (within : WithinQueueLimit bulkhead world)
    (ticketId : Option String)
    : WithinQueueLimit bulkhead (world.release ticketId) := by
  by_cases used : 0 < world.pool.pool.inUse
  · exact within.advanced (PoolWorld.release_advances used)
  · have same := PoolWorld.release_of_unused (Int.not_lt.mp used)
    simpa only [WithinQueueLimit, TicketWorld.release, same] using within

/-- An acquire keeps to the limit exactly when it finds a slot or room to wait. -/
theorem within_acquire (within : WithinQueueLimit bulkhead world) (timeoutMs : Option Number)
    : WithinQueueLimit bulkhead (TicketWorld.acquire bulkhead world timeoutMs)
      ↔ FindsRoom bulkhead world (.acquire timeoutMs) := by
  cases free : Number.lt (.ofInt world.pool.pool.inUse) world.pool.pool.maxSize with
  | true =>
      have found : FindsRoom bulkhead world (.acquire timeoutMs) := .inl free
      simp only [WithinQueueLimit, TicketWorld.acquire, PoolWorld.tryAcquire_of_free _ free, found,
        iff_true]
      exact within
  | false =>
      simp only [WithinQueueLimit, TicketWorld.acquire, PoolWorld.tryAcquire_of_full _ free,
        FindsRoom, free, Bool.false_eq_true, false_or, List.length_append, List.length_singleton]
      rfl

/-- An event keeps to the limit and the tickets exactly when the manager gets it right. -/
theorem keepsToTickets_iff (within : WithinQueueLimit bulkhead world) (event : TicketEvent)
    : KeepsToTickets bulkhead world event ↔ FindsRoom bulkhead world event := by
  cases event with
  | acquire timeoutMs =>
      rw [← within_acquire within timeoutMs]
      exact ⟨KeepsToTickets.within, fun kept => ⟨kept, nofun⟩⟩
  | expire request =>
      have kept : KeepsToTickets bulkhead world (.expire request) :=
        ⟨within.advanced (PoolWorld.expire_advances request), nofun⟩
      exact iff_of_true kept trivial
  | acquired request ticketId =>
      refine iff_of_true ⟨?_, nofun⟩ trivial
      simp only [TicketWorld.step]
      split <;> exact within
  | refused request =>
      refine iff_of_true ⟨?_, nofun⟩ trivial
      simp only [TicketWorld.step]
      split <;> exact within
  | release ticketId =>
      cases ticketId with
      | none => exact iff_of_true ⟨within.released none, nofun⟩ trivial
      | some ticketId =>
          constructor
          · intro keeps
            by_cases held : ticketId ∈ world.held
            · exact .inl held
            · refine .inr (Int.not_lt.mp fun used => ?_)
              have same := keeps.unheld ticketId rfl held
              exact PoolWorld.release_ne used (congrArg TicketWorld.pool same)
          · intro found
            refine ⟨within.released _, ?_⟩
            rintro _ ⟨⟩ unheld
            have same := PoolWorld.release_of_unused (found.resolve_left unheld)
            simp [TicketWorld.step, TicketWorld.release, same, List.erase_of_not_mem unheld]

/-- Every event keeps to the limit and the tickets exactly when the manager gets every event
right, by induction on the events.
-/
theorem manager_keeps_to_tickets (bulkhead : Bulkhead) (events : List TicketEvent)
    : KeptToTickets bulkhead events ↔ FoundRoom bulkhead events := by
  induction events with
  | nil => rfl
  | cons event earlier ih =>
      simp only [KeptToTickets, FoundRoom, ih]
      refine and_congr_right fun found => ?_
      have kept := ih.mpr found
      refine keepsToTickets_iff ?_ event
      cases earlier with
      | nil => exact kept
      | cons last earlier => exact kept.2.within

end

/-- The bulkhead the manager creates for `AUDIT`. -/
def auditBulkhead : Bulkhead where
  config := (createBulkheadConfig {} (some 10) (some 50) {}).resolve
  limits := by decide +kernel
  hasSlots := by decide +kernel

/-- A ticket that was never handed out frees the slot of another holder, and the fifty-first
acquire beyond the slots waits too.
-/
theorem audit_breaks_tickets
    : Bulkhead.create (createBulkheadConfig {} (some 10) (some 50) {}) = .ok auditBulkhead
      ∧ ¬KeptToTickets auditBulkhead [
        .release (some "AUDIT-0-other"),
        .acquired 0 "AUDIT-1700000000000-k3x9q",
        .acquire none
      ]
      ∧ ¬KeptToTickets auditBulkhead (List.replicate 61 (.acquire none)) := by
  refine ⟨dif_neg (by decide +kernel), ?_, ?_⟩
  · rintro ⟨_, keeps⟩
    have same := congrArg (·.pool.pool.inUse) (keeps.unheld "AUDIT-0-other" rfl (by decide +kernel))
    exact absurd same (by decide +kernel)
  · rintro ⟨_, keeps⟩
    exact absurd keeps.within (by unfold WithinQueueLimit; decide +kernel)

-----------------------------------------------------------------------------------------
-- The two methods a delivery uses
-----------------------------------------------------------------------------------------

/-- What the manager calls: its registry, the pools of its bulkheads, the clock and a draw. -/
inductive BulkheadCall where
  | getBulkhead (name : String)
  | acquireSlot (name : String) (timeoutMs : Number)
  | releaseSlot (name : String)
  | now
  | draw

/-- A bulkhead gives its timeout, a draw the text of its digits. -/
abbrev BulkheadCall.Result : BulkheadCall → Type
  | getBulkhead _ => Number
  | acquireSlot _ _ => Unit
  | releaseSlot _ => Unit
  | now => Int
  | draw => String

abbrev BulkheadSignature : Async.Signature where
  Op := BulkheadCall
  Result := BulkheadCall.Result

abbrev BulkheadProgram (α : Type) : Type := Async.Program BulkheadSignature Thrown α

namespace BulkheadManager

def call (call : BulkheadCall) : BulkheadProgram call.Result :=
  Async.Program.perform (S := BulkheadSignature) call

def ticketId (name : String) (now : Int) (draw : String) : String :=
  s!"{name}-{now}-{draw}"

def acquire (name : String) (timeoutMs : Option Number := none) : BulkheadProgram String := do
  let timeout ← call (.getBulkhead name)
  call (.acquireSlot name (orNumber timeoutMs timeout))
  let now ← call .now
  let draw ← call .draw
  pure (ticketId name now draw)

def release (name : String) (_ticketId : Option String) : BulkheadProgram Unit := do
  let _ ← call (.getBulkhead name)
  call (.releaseSlot name)

theorem ticketId_ne_empty (name : String) (now : Int) (draw : String)
    : ticketId name now draw ≠ "" := by
  simp [ticketId, toString]

/-- An acquire that returns hands out a ticket, whatever its calls answer. -/
theorem acquire_returns (name : String) (timeoutMs : Option Number)
    : (acquire name timeoutMs).Meets (.only fun _ => True) ()
        (fun outcome _ => ∀ ticket, outcome = .ok ticket → ticket ≠ "") := by
  simp only [acquire, call, Async.Program.bind_eq, Async.Program.pure_eq,
    Async.Program.meets_bind, Async.Program.meets_perform, Async.Program.meets_done]
  refine ⟨trivial, ?_⟩
  rintro (error | timeout) _ _
  · rintro _ ⟨⟩
  · refine ⟨trivial, ?_⟩
    rintro (error | _) _ _
    · rintro _ ⟨⟩
    · refine ⟨trivial, ?_⟩
      rintro (error | now) _ _
      · rintro _ ⟨⟩
      · refine ⟨trivial, ?_⟩
        rintro (error | draw) _ _
        · rintro _ ⟨⟩
        · rintro _ ⟨⟩
          exact ticketId_ne_empty name now draw

theorem ne_empty_of_acquire {σ : Type} {handler : Async.Handler BulkheadSignature Thrown σ}
    {name : String} {timeoutMs : Option Number} {world : σ} {ticket : String}
    (returned : ((acquire name timeoutMs).run handler world).1 = .ok ticket)
    : ticket ≠ "" := by
  have honoured : handler.Honours (.only fun _ => True) (fun _ _ => True) :=
    fun _ _ _ _ _ => ⟨(), trivial, trivial⟩
  obtain ⟨_, handed, _⟩ :=
    (acquire_returns name timeoutMs).run honoured trivial
  exact handed ticket returned

end BulkheadManager

end QueueForge.Resilience
