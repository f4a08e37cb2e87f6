import QueueForge.Async.Throughout

/-! `BaseDaemon`: a loop that runs a cycle when it starts and at every tick of its interval timer,
without waiting for the cycle before.
-/

namespace QueueForge.Daemon

open QueueForge.Async

/-- What an `execute` does before its first await: it may call the daemon's own methods, and its
promise may be settled already. A start it calls may begin a cycle in turn.
-/
inductive Cycle where
  | done (settled : Bool)
  | stop (rest : Cycle)
  | start (cycle rest : Cycle)

/-- How many executes were in flight when one had begun, and whether a stop had returned since the
last start.
-/
structure Beginning where
  inFlight : Nat
  stopReturned : Bool

/-- The fields of the daemon, the intervals that are armed, and what was seen of its executes. -/
structure BaseDaemon where
  running : Bool := false
  timer : Option Nat := none
  intervals : List Nat := []
  nextInterval : Nat := 0
  inFlight : List Nat := []
  nextExecute : Nat := 0
  stopReturned : Bool := false
  begun : List Beginning := []

inductive DaemonEvent where
  | start (cycle : Cycle)
  | stop
  /-- An interval timer fires. -/
  | tick (interval : Nat) (cycle : Cycle)
  /-- The promise of an execute is settled. -/
  | settle (execute : Nat)

namespace BaseDaemon

variable (daemon : BaseDaemon)

/-- `execute()` is called. -/
def begin : BaseDaemon := {
  daemon with
  inFlight := daemon.nextExecute :: daemon.inFlight
  nextExecute := daemon.nextExecute + 1
  begun := ⟨daemon.inFlight.length + 1, daemon.stopReturned⟩ :: daemon.begun
}

def settle (execute : Nat) : BaseDaemon :=
  { daemon with inFlight := daemon.inFlight.erase execute }

/-- `this.timer = setInterval(..)`. -/
def arm : BaseDaemon := {
  daemon with
  timer := some daemon.nextInterval
  intervals := daemon.nextInterval :: daemon.intervals
  nextInterval := daemon.nextInterval + 1
}

/-- Gracefully stops the daemon background loop. -/
def stop : BaseDaemon :=
  if daemon.running then
    {
      daemon with
      timer := none
      intervals :=
        match daemon.timer with
        | some interval => daemon.intervals.erase interval
        | none => daemon.intervals
      running := false
      stopReturned := true
    }
  else
    { daemon with stopReturned := true }

/-- A loop that is not running begins to run. -/
def enter : BaseDaemon := { daemon with running := true, stopReturned := false }

/-- What an execute goes on to do before its first await. -/
def proceed : Cycle → Nat → BaseDaemon → BaseDaemon
  | .done settled, execute, daemon => if settled then daemon.settle execute else daemon
  | .stop rest, execute, daemon => proceed rest execute daemon.stop
  | .start cycle rest, execute, daemon =>
      proceed rest execute
        (if daemon.running then
          daemon
        else
          -- the first cycle runs up to its first await before the timer is set
          (proceed cycle daemon.nextExecute daemon.enter.begin).arm)

/-- Runs a single execution cycle, up to the first await of its execute. -/
def runCycle (cycle : Cycle) : BaseDaemon :=
  proceed cycle daemon.nextExecute daemon.begin

/-- Begins the daemon background loop. -/
def start (cycle : Cycle) : BaseDaemon :=
  if daemon.running then daemon else (daemon.enter.runCycle cycle).arm

/-- The daemon after an event. Only an interval that is armed ticks. -/
def after (event : DaemonEvent) (daemon : BaseDaemon) : BaseDaemon :=
  match event with
  | .start cycle => daemon.start cycle
  | .stop => daemon.stop
  | .tick interval cycle =>
      if interval ∈ daemon.intervals then daemon.runCycle cycle else daemon
  | .settle execute => daemon.settle execute

/-- At most one execute is or was in flight, and none began after a stop had returned. -/
structure Exclusive (daemon : BaseDaemon) : Prop where
  now : daemon.inFlight.length ≤ 1
  once : ∀ beginning ∈ daemon.begun, beginning.inFlight ≤ 1
  started : ∀ beginning ∈ daemon.begun, beginning.stopReturned = false

end BaseDaemon

/-- A daemon that runs, or not, is started again after a stop. -/
def Cycle.restarts : Cycle → Bool → Bool
  | .done _, _ => false
  | .stop rest, _ => rest.restarts false
  | .start _ rest, running => !running || rest.restarts running

namespace BaseDaemon

/-- A cycle begins only while no execute is in flight and the daemon is running, and its execute
does not restart the daemon before its first await.
-/
def Spaced (event : DaemonEvent) (daemon : BaseDaemon) : Prop :=
  match event with
  | .start cycle =>
      daemon.running = false → daemon.inFlight = [] ∧ cycle.restarts true = false
  | .tick interval cycle =>
      interval ∈ daemon.intervals
      → daemon.inFlight = [] ∧ daemon.running = true ∧ cycle.restarts true = false
  | _ => True

/-- The flag tells whether a stop has returned since the last start, and no interval is armed
before the first start.
-/
def Consistent (daemon : BaseDaemon) : Prop :=
  daemon.running = !daemon.stopReturned
  ∨ daemon.running = false ∧ daemon.intervals = []

variable {daemon : BaseDaemon}

@[simp] theorem running_stop : daemon.stop.running = false := by
  unfold stop
  split
  next => rfl
  next idle => exact Bool.not_eq_true _ ▸ idle

@[simp] theorem stopReturned_stop : daemon.stop.stopReturned = true := by
  unfold stop
  split <;> rfl

@[simp] theorem inFlight_stop : daemon.stop.inFlight = daemon.inFlight := by
  unfold stop
  split <;> rfl

@[simp] theorem begun_stop : daemon.stop.begun = daemon.begun := by
  unfold stop
  split <;> rfl

/-- What was seen of executes is not forgotten, by induction on the cycle. -/
theorem begun_proceed (cycle : Cycle) {execute : Nat}
    : daemon.begun <:+ (proceed cycle execute daemon).begun := by
  induction cycle generalizing execute daemon with
  | done settled =>
      rw [proceed]
      split <;> exact List.suffix_refl _
  | stop rest ih =>
      have kept := @begun_stop daemon
      exact kept ▸ ih
  | start cycle rest nested ih =>
      rw [proceed]
      split
      · exact ih
      · have earlier : daemon.begun <:+ daemon.enter.begin.begun := List.suffix_cons _ _
        have later := @nested daemon.enter.begin daemon.nextExecute
        have last := @ih (proceed cycle daemon.nextExecute daemon.enter.begin).arm execute
        exact (earlier.trans later).trans last

/-- A cycle that does not restart the daemon begins no other execute, by induction on it. -/
theorem proceed_quiet {cycle : Cycle} {execute : Nat}
    (quiet : cycle.restarts daemon.running = false)
    (consistent : daemon.running = !daemon.stopReturned)
    : (proceed cycle execute daemon).begun = daemon.begun
      ∧ (proceed cycle execute daemon).inFlight.length ≤ daemon.inFlight.length
      ∧ (proceed cycle execute daemon).running
        = !(proceed cycle execute daemon).stopReturned := by
  induction cycle generalizing daemon with
  | done settled =>
      rw [proceed]
      cases settled with
      | true => exact ⟨rfl, List.length_erase_le, consistent⟩
      | false => exact ⟨rfl, Nat.le_refl _, consistent⟩
  | stop rest ih =>
      rw [proceed, ← @begun_stop daemon, ← @inFlight_stop daemon]
      refine ih ?_ ?_
      · rw [running_stop]
        exact quiet
      · rw [running_stop, stopReturned_stop]
        rfl
  | start cycle rest _ ih =>
      rw [Cycle.restarts, Bool.or_eq_false_iff, Bool.not_eq_false'] at quiet
      rw [proceed, if_pos quiet.1]
      exact ih quiet.2 consistent

/-- A cycle that restarts the daemon begins a second execute, by induction on it. -/
theorem proceed_restarts {cycle : Cycle} {execute : Nat}
    (restarts : cycle.restarts daemon.running = true) (busy : daemon.inFlight ≠ [])
    : ∃ beginning ∈ (proceed cycle execute daemon).begun, 1 < beginning.inFlight := by
  induction cycle generalizing daemon with
  | done settled => exact nomatch restarts
  | stop rest ih =>
      refine ih ?_ ?_
      · rw [running_stop]
        exact restarts
      · rw [inFlight_stop]
        exact busy
  | start cycle rest _ ih =>
      rw [proceed]
      cases running : daemon.running with
      | true =>
          rw [if_pos rfl]
          rw [Cycle.restarts, running] at restarts
          exact ih (running.symm ▸ restarts) busy
      | false =>
          rw [if_neg Bool.false_ne_true]
          have second : 1 < daemon.inFlight.length + 1 :=
            Nat.lt_add_of_pos_left (List.length_pos_iff.mpr busy)
          have first := @begun_proceed daemon.enter.begin cycle daemon.nextExecute
          have later :=
            @begun_proceed (proceed cycle daemon.nextExecute daemon.enter.begin).arm rest execute
          exact ⟨_, (first.trans later).mem List.mem_cons_self, second⟩

/-- What the executes were seen to do decides, however the other fields change. -/
theorem Exclusive.of_same {other : BaseDaemon} (exclusive : daemon.Exclusive)
    (begun : other.begun = daemon.begun)
    (fewer : other.inFlight.length ≤ daemon.inFlight.length)
    : other.Exclusive where
  now := Nat.le_trans fewer exclusive.now
  once := begun ▸ exclusive.once
  started := begun ▸ exclusive.started

/-- Which cycles keep executes apart. -/
theorem exclusive_runCycle_iff {cycle : Cycle} (exclusive : daemon.Exclusive)
    (consistent : daemon.running = !daemon.stopReturned)
    : (daemon.runCycle cycle).Exclusive
      ↔ daemon.inFlight = []
        ∧ daemon.running = true
        ∧ cycle.restarts true = false := by
  have own := (@begun_proceed daemon.begin cycle daemon.nextExecute).mem List.mem_cons_self
  have busy : daemon.begin.inFlight ≠ [] := List.cons_ne_nil _ _
  constructor
  · intro after
    have alone := Nat.le_of_succ_le_succ (after.once _ own)
    have started := after.started _ own
    have running : daemon.running = true := consistent.trans (congrArg Bool.not started)
    refine ⟨List.eq_nil_of_length_eq_zero (Nat.le_zero.mp alone), running, ?_⟩
    refine Bool.eq_false_iff.mpr (fun restarts => ?_)
    have again : cycle.restarts daemon.begin.running = true :=
      (congrArg cycle.restarts running).trans restarts
    obtain ⟨beginning, member, second⟩ :=
      @proceed_restarts daemon.begin cycle daemon.nextExecute again busy
    exact absurd (after.once beginning member) (Nat.not_le.mpr second)
  · rintro ⟨idle, running, quiet⟩
    rw [← running] at quiet
    obtain ⟨begun, fewer, _⟩ :=
      @proceed_quiet daemon.begin cycle daemon.nextExecute quiet consistent
    have alone : daemon.begin.inFlight.length ≤ 1 := by
      rw [begin, idle]
      exact Nat.le_refl 1
    constructor
    · exact Nat.le_trans fewer alone
    · rw [runCycle, begun]
      intro beginning member
      rcases List.mem_cons.mp member with rfl | earlier
      · rw [idle]
        exact Nat.le_refl 1
      · exact exclusive.once beginning earlier
    · rw [runCycle, begun]
      intro beginning member
      rcases List.mem_cons.mp member with rfl | earlier
      · rw [running] at consistent
        exact (Bool.not_eq_true' _).mp consistent.symm
      · exact exclusive.started beginning earlier

/-- Which events keep executes apart, in a state in which they were. -/
theorem exclusive_after_iff {event : DaemonEvent} (exclusive : daemon.Exclusive)
    (consistent : daemon.Consistent)
    : (daemon.after event).Exclusive ↔ Spaced event daemon := by
  cases event with
  | start cycle =>
      simp only [after, start, Spaced]
      cases running : daemon.running with
      | true => exact iff_of_true exclusive nofun
      | false =>
          have entered : daemon.enter.Exclusive := exclusive.of_same rfl (Nat.le_refl _)
          have armed
              : (daemon.enter.runCycle cycle).arm.Exclusive
                ↔ (daemon.enter.runCycle cycle).Exclusive :=
            ⟨fun armed => armed.of_same rfl (Nat.le_refl _),
              fun ran => ran.of_same rfl (Nat.le_refl _)⟩
          rw [if_neg Bool.false_ne_true, armed, exclusive_runCycle_iff entered rfl]
          exact ⟨fun spaced _ => ⟨spaced.1, spaced.2.2⟩,
            fun spaced => ⟨(spaced rfl).1, rfl, (spaced rfl).2⟩⟩
  | stop =>
      refine iff_of_true ?_ trivial
      exact exclusive.of_same begun_stop (Nat.le_of_eq (congrArg List.length inFlight_stop))
  | tick interval cycle =>
      simp only [after, Spaced]
      by_cases armed : interval ∈ daemon.intervals
      · have consistent : daemon.running = !daemon.stopReturned := by
          refine consistent.resolve_right (fun fresh => ?_)
          rw [fresh.2] at armed
          exact List.not_mem_nil armed
        rw [if_pos armed, exclusive_runCycle_iff exclusive consistent]
        exact ⟨fun spaced _ => spaced, fun spaced => spaced armed⟩
      · rw [if_neg armed]
        exact iff_of_true exclusive (fun ticks => absurd ticks armed)
  | settle execute =>
      refine iff_of_true ?_ trivial
      exact exclusive.of_same rfl List.length_erase_le

/-- A spaced event keeps the flag consistent. -/
theorem consistent_after {event : DaemonEvent} (consistent : daemon.Consistent)
    (spaced : Spaced event daemon)
    : (daemon.after event).Consistent := by
  cases event with
  | start cycle =>
      simp only [after, start]
      cases running : daemon.running with
      | true =>
          rw [if_pos rfl]
          exact consistent
      | false =>
          rw [if_neg Bool.false_ne_true]
          have quiet := (spaced running).2
          exact .inl (@proceed_quiet daemon.enter.begin cycle daemon.nextExecute quiet rfl).2.2
  | stop =>
      refine .inl ?_
      rw [after, running_stop, stopReturned_stop]
      rfl
  | tick interval cycle =>
      simp only [after]
      split
      next armed =>
          obtain ⟨_, running, quiet⟩ := spaced armed
          have consistent : daemon.running = !daemon.stopReturned :=
            consistent.resolve_right (fun fresh => Bool.noConfusion (running.symm.trans fresh.1))
          rw [← running] at quiet
          exact .inl (@proceed_quiet daemon.begin cycle daemon.nextExecute quiet consistent).2.2
      next => exact consistent
  | settle execute => exact consistent

end BaseDaemon

/-- Executes are kept apart throughout a run exactly if every event of it is spaced. -/
theorem executes_exclusive_iff (events : List DaemonEvent)
    : Throughout BaseDaemon.after BaseDaemon.Exclusive events {}
      ↔ EveryStep BaseDaemon.after BaseDaemon.Spaced events {} := by
  let invariant (daemon : BaseDaemon) : Prop := daemon.Exclusive ∧ daemon.Consistent
  have fresh : invariant {} :=
    ⟨⟨Nat.zero_le _, fun _ none => absurd none List.not_mem_nil,
      fun _ none => absurd none List.not_mem_nil⟩, .inr ⟨rfl, rfl⟩⟩
  refine throughout_iff_everyStep (fun _ holds => holds.1) ?_ ?_ events fresh
  · intro event daemon holds spaced
    exact ⟨(BaseDaemon.exclusive_after_iff holds.1 holds.2).mpr spaced,
      BaseDaemon.consistent_after holds.2 spaced⟩
  · intro event daemon holds exclusive
    exact (BaseDaemon.exclusive_after_iff holds.1 holds.2).mp exclusive

/-- The daemon is stopped before the first await. -/
def Cycle.stops : Cycle → Bool
  | .done _ => false
  | .stop _ => true
  | .start _ rest => rest.stops

namespace BaseDaemon

variable {daemon : BaseDaemon}

/-- The one interval that is armed is the timer's, and the daemon has a timer while it runs. -/
def Timed (daemon : BaseDaemon) : Prop :=
  daemon.intervals = daemon.timer.toList ∧ daemon.running = daemon.timer.isSome

theorem timed_stop (timed : daemon.Timed) : daemon.stop.Timed := by
  obtain ⟨intervals, running⟩ := timed
  unfold stop
  cases timer : daemon.timer with
  | none =>
      rw [timer] at intervals running
      rw [if_neg (Bool.eq_false_iff.mp running)]
      exact ⟨timer.symm ▸ intervals, timer.symm ▸ running⟩
  | some interval =>
      rw [timer] at intervals running
      have loops : daemon.running = true := running
      rw [if_pos loops, intervals]
      exact ⟨List.erase_cons_head .., rfl⟩

/-- So it stays if the daemon is not restarted, by induction on the cycle. -/
theorem timed_proceed {cycle : Cycle} {execute : Nat}
    (quiet : cycle.restarts daemon.running = false) (timed : daemon.Timed)
    : (proceed cycle execute daemon).Timed := by
  induction cycle generalizing daemon with
  | done settled =>
      rw [proceed]
      split <;> exact timed
  | stop rest ih =>
      refine ih ?_ (timed_stop timed)
      rw [running_stop]
      exact quiet
  | start cycle rest _ ih =>
      rw [Cycle.restarts, Bool.or_eq_false_iff, Bool.not_eq_false'] at quiet
      rw [proceed, if_pos quiet.1]
      exact ih quiet.2 timed

/-- An execute that does not stop the daemon leaves its loop alone, by induction on the cycle. -/
theorem proceed_unstopped {cycle : Cycle} {execute : Nat} (unstopped : cycle.stops = false)
    (running : daemon.running = true)
    : cycle.restarts true = false
      ∧ (proceed cycle execute daemon).intervals = daemon.intervals
      ∧ (proceed cycle execute daemon).running = true := by
  induction cycle with
  | done settled =>
      rw [proceed]
      split <;> exact ⟨rfl, rfl, running⟩
  | stop rest ih => exact nomatch unstopped
  | start cycle rest _ ih =>
      rw [proceed, if_pos running]
      exact ih unstopped

/-- A cycle begins only while no execute is in flight; the one a start begins does not stop the
daemon before its first await, and no other one restarts it.
-/
def Unhurried (event : DaemonEvent) (daemon : BaseDaemon) : Prop :=
  match event with
  | .start cycle => daemon.running = false → daemon.inFlight = [] ∧ cycle.stops = false
  | .tick interval cycle =>
      interval ∈ daemon.intervals → daemon.inFlight = [] ∧ cycle.restarts true = false
  | _ => True

theorem spaced_of_unhurried {event : DaemonEvent} (timed : daemon.Timed)
    (unhurried : Unhurried event daemon)
    : Spaced event daemon := by
  cases event with
  | start cycle =>
      intro idle
      obtain ⟨alone, unstopped⟩ := unhurried idle
      exact ⟨alone, (@proceed_unstopped daemon.enter cycle 0 unstopped rfl).1⟩
  | stop => trivial
  | tick interval cycle =>
      intro armed
      obtain ⟨alone, quiet⟩ := unhurried armed
      refine ⟨alone, ?_, quiet⟩
      rw [timed.2]
      rw [timed.1] at armed
      exact Option.isSome_iff_exists.mpr ⟨interval, Option.mem_toList.mp armed⟩
  | settle execute => trivial

theorem timed_after {event : DaemonEvent} (timed : daemon.Timed)
    (unhurried : Unhurried event daemon)
    : (daemon.after event).Timed := by
  cases event with
  | start cycle =>
      simp only [after, start]
      cases running : daemon.running with
      | true =>
          rw [if_pos rfl]
          exact timed
      | false =>
          rw [if_neg Bool.false_ne_true]
          obtain ⟨_, unstopped⟩ := unhurried running
          obtain ⟨_, kept, runs⟩ :=
            @proceed_unstopped daemon.enter.begin cycle daemon.nextExecute unstopped rfl
          have unarmed : daemon.timer = none := Option.not_isSome_iff_eq_none.mp
            (Bool.eq_false_iff.mp (timed.2.symm.trans running))
          have none : daemon.intervals = [] := timed.1.trans (congrArg Option.toList unarmed)
          exact ⟨congrArg (List.cons _) (kept.trans none), runs⟩
  | stop => exact timed_stop timed
  | tick interval cycle =>
      have spaced := spaced_of_unhurried timed unhurried
      simp only [after]
      split
      next armed =>
          obtain ⟨_, running, quiet⟩ := spaced armed
          rw [← running] at quiet
          exact @timed_proceed daemon.begin cycle daemon.nextExecute quiet timed
      next => exact timed
  | settle execute => exact timed

end BaseDaemon

/-- An unhurried run keeps executes apart. -/
theorem executes_exclusive_of_unhurried (events : List DaemonEvent)
    (unhurried : EveryStep BaseDaemon.after BaseDaemon.Unhurried events {})
    : Throughout BaseDaemon.after BaseDaemon.Exclusive events {} := by
  have timed : BaseDaemon.Timed {} := ⟨rfl, rfl⟩
  refine (executes_exclusive_iff events).mpr (unhurried.imp ?_ ?_ timed)
  · exact fun _ _ timed unhurried => BaseDaemon.timed_after timed unhurried
  · exact fun _ _ timed unhurried => BaseDaemon.spaced_of_unhurried timed unhurried

/-- The first execute is still in flight when the interval ticks. -/
theorem executes_overlap
    : let events : List DaemonEvent := [.start (.done false), .tick 0 (.done false)]
      (stateAfter BaseDaemon.after events {}).inFlight.length = 2
      ∧ ¬Throughout BaseDaemon.after BaseDaemon.Exclusive events {} := by
  intro events
  refine ⟨rfl, fun throughout => ?_⟩
  have alone := (throughout events (List.prefix_refl _)).now
  contradiction

end QueueForge.Daemon
