import QueueForge.Async.Interleaving
import QueueForge.Worker.Redelivery
import QueueForge.Worker.SharedDelivery

/-! Two runs for one delivery that interleave at their awaited calls.
Marking PROCESSING is a lookup, a check that admits staying in PROCESSING, and an
unconditional update. It acts as a claim only where no run writes PROCESSING over PROCESSING.
-/

namespace QueueForge.Worker

open QueueForge.Async QueueForge.Js QueueForge.Domain QueueForge.Infrastructure

/-- What a history says of a delivery: the status stored last and, while the delivery has
left PENDING or SCHEDULED_RETRY and no outcome is stored yet, how often it was transmitted.
-/
structure ClaimWindow where
  status : DeliveryStatus
  sent : Option Nat := none

namespace ClaimWindow

/-- PROCESSING opens a window on a delivery that waits, and any other status closes it. -/
def write (window : ClaimWindow) (target : DeliveryStatus) : ClaimWindow where
  status := target
  sent :=
    match target, window.status with
    | .processing, .pending | .processing, .scheduledRetry => some 0
    | .processing, _ => window.sent
    | _, _ => none

/-- A transmission counts while the window is open. -/
def send (window : ClaimWindow) : ClaimWindow where
  status := window.status
  sent := window.sent.map (· + 1)

def enter (id : String) (window : ClaimWindow) (entry : Entry) : ClaimWindow :=
  match entry.written? id with
  | some target => window.write target
  | none => if entry.call.isTransmission then window.send else window

/-- The window at the end of a history, newest entry first. -/
def of (id : String) (initial : DeliveryStatus) (history : List Entry) : ClaimWindow :=
  history.foldr (fun entry window => window.enter id entry) { status := initial }

/-- At most one transmission in the window. -/
def Exclusive (window : ClaimWindow) : Prop :=
  ∀ sent, window.sent = some sent → sent ≤ 1

end ClaimWindow

section
variable (system : WorkerSystem) (runs : Fin 2 → WorkerRun)

/-- Two runs that start on the same world. -/
def contenders (world : World)
    : Configuration SystemSignature Thrown (Fin 2) ExecutionResult World where
  process i :=
    (workerParts system.production system.logger).execute (runs i).config
      (runs i).deliveryOrId (runs i).destinationArg
  world := world

/-- Each process awaits the system under its own number. -/
def contenderHandlers (i : Fin 2) : Handler SystemSignature Thrown World :=
  Infrastructure.system system.env (runs i).process

/-- Under any permitted interleaving of the two runs, a window sees one transmission. -/
def ClaimsExclusively (permits : World → Fin 2 → SystemCall → Prop) (id : String)
    (initial : DeliveryStatus) (world : World)
    : Prop :=
  ∀ config,
    Configuration.Reachable (contenderHandlers system runs) permits
      (contenders system runs world) config
    → (ClaimWindow.of id initial config.world.history).Exclusive

/-- The calls on which marking PROCESSING acts as a claim: the database does not fail a lookup
or a claim, and no claim is written while the delivery is stored as PROCESSING.
-/
def ClaimsInTurn (id : String) (world : World) (i : Fin 2) (call : SystemCall) : Prop :=
  (call.isLookup = true ∨ call.target? id = some .processing
    → system.env.fault (runs i).process world call = none)
  ∧ (call.target? id = some .processing → world.status? id ≠ some .processing)

instance (id : String) (world : World) (i : Fin 2) (call : SystemCall)
    : Decidable (ClaimsInTurn system runs id world i call) :=
  inferInstanceAs (Decidable (_ ∧ _))

end

/-- A run that has not claimed the delivery, or is through with it. -/
def RunPhase.Idle (phase : RunPhase) : Prop :=
  phase.stage = .looking ∨ phase.stage = .done

/-- The run has read nothing just now, or what is stored. -/
def RunPhase.Agrees (phase : RunPhase) (status : DeliveryStatus) : Prop :=
  ∀ seen, phase.seen = some seen → seen = status

/-- A run that has claimed the delivery, and how often the window saw it transmitted. -/
def RunPhase.Owns (phase : RunPhase) (sent : Option Nat) : Prop :=
  phase.stage = .holding ∧ sent.getD 0 = 0 ∨ phase.stage = .spent ∧ sent.getD 0 ≤ 1

/-- A run that cannot claim a finished delivery. -/
def RunPhase.Inert (phase : RunPhase) : Prop :=
  phase.stage = .done
  ∨ phase.stage ≠ .holding ∧ ∀ seen, phase.seen = some seen → seen.isFinal = true

/-- How two runs can stand to their delivery and its window: unclaimed, claimed by one of
them, or finished.
-/
inductive ClaimState (mine other : RunPhase) (window : ClaimWindow) : Prop
  | unclaimed (mineIdle : mine.Idle) (otherIdle : other.Idle)
      (fresh
        : mine.stage = .done
          ∨ other.stage = .done
          ∨ mine.Agrees window.status ∧ other.Agrees window.status)
      (closed : window.sent = none)
  | mineOwns (owns : mine.Owns window.sent) (idle : other.Idle)
      (claimed : window.status = .processing)
  | otherOwns (owns : other.Owns window.sent) (idle : mine.Idle)
      (claimed : window.status = .processing)
  | finished (mineInert : mine.Inert) (otherInert : other.Inert)
      (final : window.status.isFinal = true) (closed : window.sent = none)

section
variable {id : String} {mine other : RunPhase} {window : ClaimWindow}

/-- The runs are interchangeable. -/
theorem ClaimState.symm (state : ClaimState mine other window)
    : ClaimState other mine window := by
  cases state with
  | unclaimed mineIdle otherIdle fresh closed =>
      refine .unclaimed otherIdle mineIdle ?_ closed
      rcases fresh with done | done | ⟨mineAgrees, otherAgrees⟩
      · exact .inr (.inl done)
      · exact .inl done
      · exact .inr (.inr ⟨otherAgrees, mineAgrees⟩)
  | mineOwns owns idle claimed => exact .otherOwns owns idle claimed
  | otherOwns owns idle claimed => exact .mineOwns owns idle claimed
  | finished mineInert otherInert final closed =>
      exact .finished otherInert mineInert final closed

theorem ClaimState.exclusive (state : ClaimState mine other window) : window.Exclusive := by
  have owned : ∀ {owner : RunPhase}, owner.Owns window.sent → window.Exclusive := by
    intro owner owns sent counted
    rcases owns with ⟨_, bound⟩ | ⟨_, bound⟩
    · rw [counted, Option.getD_some] at bound
      omega
    · rw [counted, Option.getD_some] at bound
      exact bound
  have unopened : window.sent = none → window.Exclusive := by
    intro closed sent counted
    exact nomatch closed.symm.trans counted
  cases state with
  | unclaimed _ _ _ closed => exact unopened closed
  | mineOwns owns _ _ => exact owned owns
  | otherOwns owns _ _ => exact owned owns
  | finished _ _ _ closed => exact unopened closed

/-- An idle run that sees a final status is inert. -/
theorem RunPhase.Idle.inert (idle : mine.Idle)
    (final : mine.stage = .done ∨ ∀ seen, mine.seen = some seen → seen.isFinal = true)
    : mine.Inert := by
  rcases idle with looking | done
  · rcases final with done | final
    · exact .inl done
    · refine .inr ⟨?_, final⟩
      rw [looking]
      exact nofun
  · exact .inl done

/-- A call that passes changes nothing. -/
theorem ClaimState.pass (state : ClaimState mine other window)
    : ClaimState mine.pass other window := by
  cases state with
  | unclaimed mineIdle otherIdle fresh closed =>
      refine .unclaimed mineIdle otherIdle ?_ closed
      rcases fresh with done | done | ⟨_, otherAgrees⟩
      · exact .inl done
      · exact .inr (.inl done)
      · exact .inr (.inr ⟨nofun, otherAgrees⟩)
  | mineOwns owns idle claimed => exact .mineOwns owns idle claimed
  | otherOwns owns idle claimed => exact .otherOwns owns idle claimed
  | finished mineInert otherInert final closed =>
      refine .finished ?_ otherInert final closed
      exact mineInert.imp_right (fun ⟨unheld, _⟩ => ⟨unheld, nofun⟩)

/-- A lookup frees a run once the delivery is final, and changes nothing before. -/
theorem ClaimState.look (state : ClaimState mine other window)
    : ClaimState (mine.look window.status) other window := by
  obtain ⟨stage, seen⟩ := mine
  cases state with
  | unclaimed mineIdle otherIdle fresh closed =>
      rcases mineIdle with rfl | rfl
      · cases final : window.status.isFinal with
        | true =>
            have looked : RunPhase.look ⟨.looking, seen⟩ window.status = ⟨.free, window.status⟩ := by
              simp only [RunPhase.look, final, if_true]
            rw [looked]
            refine .finished (.inr ⟨nofun, ?_⟩) (otherIdle.inert ?_) final closed
            · rintro _ ⟨rfl⟩
              exact final
            · -- nothing was written yet, unless the other run is through
              rcases fresh with done | done | ⟨_, agrees⟩
              · exact nomatch done
              · exact .inl done
              · exact .inr (fun seen same => agrees seen same ▸ final)
        | false =>
            have looked
                : RunPhase.look ⟨.looking, seen⟩ window.status = ⟨.looking, window.status⟩ := by
              simp only [RunPhase.look, final, Bool.false_eq_true, if_false]
            rw [looked]
            refine .unclaimed (.inl rfl) otherIdle ?_ closed
            rcases fresh with done | done | ⟨_, agrees⟩
            · exact nomatch done
            · exact .inr (.inl done)
            · exact .inr (.inr ⟨fun _ same => (Option.some.inj same).symm, agrees⟩)
      · exact .unclaimed (.inr rfl) otherIdle (.inl rfl) closed
  | mineOwns owns idle claimed =>
      refine .mineOwns ?_ idle claimed
      rcases owns with ⟨rfl, bound⟩ | ⟨rfl, bound⟩
      · exact .inl ⟨rfl, bound⟩
      · exact .inr ⟨rfl, bound⟩
  | otherOwns owns idle claimed =>
      refine .otherOwns owns ?_ claimed
      rw [claimed]
      rcases idle with rfl | rfl
      · exact .inl rfl
      · exact .inr rfl
  | finished mineInert otherInert final closed =>
      refine .finished ?_ otherInert final closed
      have seesFinal
          : ∀ looked,
              (RunPhase.look ⟨stage, seen⟩ window.status).seen = some looked
              → looked.isFinal = true := by
        intro looked same
        obtain rfl : window.status = looked := Option.some.inj same
        exact final
      cases stage with
      | holding => exact mineInert.elim nofun (fun ⟨unheld, _⟩ => absurd rfl unheld)
      | done => exact .inl rfl
      | looking =>
          refine .inr ⟨?_, seesFinal⟩
          simp only [RunPhase.look, final, if_true]
          exact nofun
      | free => exact .inr ⟨nofun, seesFinal⟩
      | spent => exact .inr ⟨nofun, seesFinal⟩

/-- The owner transmits once, and a run that is free only a finished delivery. -/
theorem ClaimState.send (state : ClaimState mine other window)
    (ready : mine.stage.isReady = true)
    : ClaimState .send other window.send := by
  obtain ⟨stage, seen⟩ := mine
  have busy : ∀ {α : Prop}, (RunPhase.mk stage seen).Idle → α := by
    intro α idle
    rcases idle with rfl | rfl <;> contradiction
  cases state with
  | unclaimed mineIdle _ _ _ => exact busy mineIdle
  | otherOwns _ idle _ => exact busy idle
  | mineOwns owns idle claimed =>
      refine .mineOwns (.inr ⟨rfl, ?_⟩) idle claimed
      rcases owns with ⟨rfl, bound⟩ | ⟨rfl, _⟩
      · cases counted : window.sent with
        | none => simp [ClaimWindow.send, counted]
        | some sent =>
            rw [counted, Option.getD_some] at bound
            simp only [ClaimWindow.send, counted, Option.map_some, Option.getD_some]
            omega
      · contradiction
  | finished mineInert otherInert final closed =>
      refine .finished (.inr ⟨nofun, nofun⟩) otherInert final ?_
      simp only [ClaimWindow.send, closed, Option.map_none]

/-- A write that may be made claims a delivery that is not PROCESSING, or ends a claim. -/
theorem ClaimState.write (state : ClaimState mine other window) {target : DeliveryStatus}
    (may : mine.MayWrite target) (turn : target = .processing → window.status ≠ .processing)
    : ClaimState (.write target) other (window.write target) := by
  obtain ⟨stage, seen⟩ := mine
  obtain ⟨⟨status, rfl, admitted⟩, mayWrite⟩ := may
  -- an idle run may write its claim only
  have idleClaims : (RunPhase.mk stage status).Idle → target = .processing := by
    intro idle
    rcases idle with rfl | rfl <;> cases target <;> first | rfl | contradiction
  cases state with
  | unclaimed mineIdle otherIdle fresh closed =>
      obtain rfl := idleClaims mineIdle
      refine .mineOwns (.inl ⟨rfl, ?_⟩) otherIdle rfl
      simp only [ClaimWindow.write, closed]
      cases window.status <;> rfl
  | mineOwns owns idle claimed =>
      have ends : (RunPhase.write target).stage = .done ∧ (window.write target).sent = none := by
        rcases owns with ⟨rfl, _⟩ | ⟨rfl, _⟩ <;>
          cases target <;> first | exact ⟨rfl, rfl⟩ | contradiction
      exact .unclaimed (.inr ends.1) idle (.inl ends.1) ends.2
  | otherOwns owns idle claimed => exact absurd claimed (turn (idleClaims idle))
  | finished mineInert otherInert final closed =>
      rcases mineInert with rfl | ⟨_, seesFinal⟩
      · cases target <;> contradiction
      · have statusFinal : status.isFinal = true := seesFinal status rfl
        obtain rfl : target = status := admitsTransition_final statusFinal admitted
        have ends
            : (RunPhase.write target).stage = .done ∧ (window.write target).sent = none := by
          cases target <;> first | exact ⟨rfl, rfl⟩ | contradiction
        exact .finished (.inl ends.1) otherInert statusFinal ends.2

/-- What an entry that is no write does to the window. -/
theorem ClaimWindow.enter_silent {entry : Entry} (unwritten : entry.written? id = none)
    (unsent : entry.call.isTransmission = false)
    : window.enter id entry = window := by
  simp only [ClaimWindow.enter, unwritten, unsent, Bool.false_eq_true, if_false]

/-- The window follows the stored status. -/
theorem ClaimWindow.enter_status (window : ClaimWindow) (entry : Entry)
    : (window.enter id entry).status = (entry.written? id).getD window.status := by
  rw [ClaimWindow.enter]
  cases entry.written? id with
  | some target => rfl
  | none =>
      simp only [Option.getD_none]
      split <;> rfl

theorem target?_of_written? {entry : Entry} {target : DeliveryStatus}
    (written : entry.written? id = some target)
    : entry.call.target? id = some target := by
  rw [Entry.written?] at written
  split at written
  · exact written
  · cases written

/-- Every step of a run keeps the state, by cases on the step. -/
theorem ClaimState.step (state : ClaimState mine other window) {next : RunPhase}
    {entry : Entry} (step : RunStep id mine window.status entry next)
    (succeeds
      : entry.call.isLookup = true ∨ entry.call.target? id = some .processing
        → ¬∃ error, entry.result = .error error)
    (turn : entry.call.target? id = some .processing → window.status ≠ .processing)
    : ClaimState next other (window.enter id entry) := by
  cases step with
  | passed unread unsent unwritten =>
      rw [ClaimWindow.enter_silent unwritten unsent]
      exact state.pass
  | looked reads =>
      have silent : entry.call.target? id = none ∧ entry.call.isTransmission = false := by
        obtain ⟨process, call, result⟩ := entry
        cases call with
        | database call => cases call <;> first | exact ⟨rfl, rfl⟩ | contradiction
        | _ => contradiction
      rw [ClaimWindow.enter_silent (written?_of_target? silent.1) silent.2]
      exact state.look
  | refused failed asked =>
      rcases asked with reads | ⟨target, targeted, may⟩
      · exact absurd failed (succeeds (.inl reads))
      · have outcome : target ≠ .processing := by
          rintro rfl
          exact succeeds (.inr targeted) failed
        -- the run is active, so the failure leaves its stage
        have passes : mine.refuse = mine.pass := by
          obtain ⟨stage, seen⟩ := mine
          have mayWrite := may.2
          cases stage <;> cases target <;> first | rfl | contradiction
        have unwritten : entry.written? id = none := by
          obtain ⟨error, failed⟩ := failed
          simp only [Entry.written?, failed]
        have unsent : entry.call.isTransmission = false := by
          obtain ⟨process, call, result⟩ := entry
          cases call with
          | database call => rfl
          | _ => contradiction
        rw [passes, ClaimWindow.enter_silent unwritten unsent]
        exact state.pass
  | sent sends ready =>
      have untargeted : entry.call.target? id = none := by
        obtain ⟨process, call, result⟩ := entry
        cases call with
        | external call => rfl
        | _ => contradiction
      have counts : window.enter id entry = window.send := by
        simp only [ClaimWindow.enter, written?_of_target? untargeted, sends, if_true]
      rw [counts]
      exact state.send ready
  | @wrote target written may =>
      have writes : window.enter id entry = window.write target := by
        simp only [ClaimWindow.enter, written]
      rw [writes]
      refine state.write may ?_
      rintro rfl
      exact turn (target?_of_written? written)

/-- A call of the system that no fault befalls succeeds, if it is a lookup or a claim a run
may make.
-/
theorem system_succeeds {env : Environment} {process : Nat} {world : World}
    {status : DeliveryStatus} (stored : world.status? id = some status) {phase : RunPhase}
    {call : SystemCall} (allowed : (sharedContract id).allows phase call)
    (faultless : env.fault process world call = none)
    (asked : call.isLookup = true ∨ call.target? id = some .processing)
    : ¬∃ error, (system env process call world).1 = .error error := by
  rintro ⟨error, failed⟩
  obtain ⟨row, found, _⟩ := World.status?_eq_some.mp stored
  cases call with
  | database call =>
      cases call with
      | deliveryFindUnique other =>
          simp only [system, performCall, faultless, performDatabase] at failed
          cases failed
      | deliveryUpdate other data =>
          have targeted
              : (SystemCall.database (.deliveryUpdate other data)).target? id
                = some .processing :=
            asked.resolve_left (by rintro ⟨⟩)
          rw [SystemCall.target?] at targeted
          split at targeted
          · rename_i same
            subst same
            obtain ⟨_, _, plain⟩ := allowed .processing targeted
            simp only [system, performCall, faultless, performDatabase, plain rfl,
              dateTimeArgument, found] at failed
            cases failed
          · cases targeted
      | _ => exact asked.elim (by rintro ⟨⟩) (by rintro ⟨⟩)
  | _ => exact asked.elim (by rintro ⟨⟩) (by rintro ⟨⟩)

end

/-- The state of two runs, as the history of their world tells it. -/
def Contending (id : String) (initial : DeliveryStatus) (phases : Fin 2 → RunPhase)
    (world : World)
    : Prop :=
  world.status? id = some (ClaimWindow.of id initial world.history).status
  ∧ ClaimState (phases 0) (phases 1) (ClaimWindow.of id initial world.history)

/-- A call of either run keeps the state of both. -/
theorem contending_step (system : WorkerSystem) (runs : Fin 2 → WorkerRun) {id : String}
    {initial : DeliveryStatus} {phases : Fin 2 → RunPhase} {world : World} {i : Fin 2}
    {call : SystemCall} (state : Contending id initial phases world)
    (allowed : (sharedContract id).allows (phases i) call)
    (permitted : ClaimsInTurn system runs id world i call)
    : ∃ next,
        (sharedContract id).answers (phases i) call
          (contenderHandlers system runs i call world).1 next
        ∧ Contending id initial (Function.update phases i next)
            (contenderHandlers system runs i call world).2 := by
  obtain ⟨stored, state⟩ := state
  obtain ⟨answered, step⟩ := runStep_system system.env (runs i).process stored allowed
  refine ⟨_, answered, ?_⟩
  have entered
      : ClaimWindow.of id initial (contenderHandlers system runs i call world).2.history
        = (ClaimWindow.of id initial world.history).enter id
            (.answering system.env (runs i).process call world) := by
    rw [contenderHandlers, history_system]
    rfl
  have succeeds
      : call.isLookup = true ∨ call.target? id = some .processing
        → ¬∃ error, (Infrastructure.system system.env (runs i).process call world).1
            = .error error :=
    fun asked => system_succeeds stored allowed (permitted.1 asked) asked
  have turn
      : call.target? id = some .processing
        → (ClaimWindow.of id initial world.history).status ≠ .processing := by
    intro claims processing
    refine permitted.2 claims ?_
    rw [stored, processing]
  constructor
  · rw [entered, ClaimWindow.enter_status]
    exact status?_system system.env (runs i).process call world stored
  · rw [entered]
    rcases i with ⟨_ | _ | _, bound⟩
    · exact state.step step succeeds turn
    · exact (state.symm.step step succeeds turn).symm
    · omega

/-- In every interleaving in which no claim is written over PROCESSING, and no lookup or claim
fails, at most one run transmits between the delivery leaving PENDING or SCHEDULED_RETRY and
its next stored outcome.
-/
theorem claims_exclusively (system : WorkerSystem) (runs : Fin 2 → WorkerRun) {id : String}
    (named : ∀ i, DeliveryExecutor.argumentId (runs i).deliveryOrId = id) {world : World}
    {initial : DeliveryStatus} (stored : world.status? id = some initial)
    (fresh : world.history = [])
    : ClaimsExclusively system runs (ClaimsInTurn system runs id) id initial world := by
  intro config reached
  have start
      : Contending id initial (fun _ => { stage := .looking })
          (contenders system runs world).world := by
    rw [Contending, contenders, fresh]
    refine ⟨stored, .unclaimed (.inl rfl) (.inl rfl) (.inr (.inr ⟨nofun, nofun⟩)) rfl⟩
  have met
      : ∀ i,
          ((contenders system runs world).process i).Meets (sharedContract id)
            { stage := .looking } (fun _ _ => True) := by
    intro i
    rw [← named i]
    exact execute_shared system.production system.logger (runs i).config
      (runs i).deliveryOrId (runs i).destinationArg
  obtain ⟨phases, _, _, state⟩ :=
    reached.invariant
      (fun phases world i call state allowed permitted =>
        contending_step system runs state allowed permitted)
      met start
  exact state.exclusive

/-- Two workers that hold duplicates of one job. -/
def duplicateRuns (i : Fin 2) : WorkerRun := {
  WorkerRun.breaking with
  process := i
  config := .bare
}

/-- What a schedule of the two workers makes of a pending delivery. -/
def duplicatesAfter (schedule : List (Fin 2))
    : Configuration SystemSignature Thrown (Fin 2) ExecutionResult World :=
  (contenders (.answering (breakerAnswers false)) duplicateRuns
    (World.ofDelivery (.fresh .pending))).follow
      (contenderHandlers (.answering (breakerAnswers false)) duplicateRuns) schedule

/-- One of them has claimed and transmitted the delivery, and the other has looked it up. -/
theorem claims_exclusively_served
    : (ClaimWindow.of "delivery" .pending
          (duplicatesAfter [0, 0, 0, 0, 0, 0, 1, 1, 1]).world.history).sent = some 1
      ∧ (ClaimWindow.of "delivery" .pending
          (duplicatesAfter [0, 0, 0, 0, 0, 0, 1, 1, 1]).world.history).Exclusive := by
  refine ⟨rfl, ?_⟩
  exact
    claims_exclusively (.answering (breakerAnswers false)) duplicateRuns (fun _ => rfl) rfl rfl _
      (Configuration.reachable_follow [0, 0, 0, 0, 0, 0, 1, 1, 1] _ rfl)

/-- Without that restriction both transmit: the second worker finds the delivery PROCESSING
and claims it all the same.
-/
theorem duplicates_transmit_twice
    : ¬ClaimsExclusively (.answering (breakerAnswers false)) duplicateRuns (fun _ _ _ => True)
        "delivery" .pending (World.ofDelivery (.fresh .pending)) := by
  intro exclusive
  have sent
      : (ClaimWindow.of "delivery" .pending
          (duplicatesAfter [0, 0, 0, 0, 1, 1, 1, 1, 0, 0, 1, 1]).world.history).sent = some 2 :=
    rfl
  have atMostOnce :=
    exclusive (duplicatesAfter [0, 0, 0, 0, 1, 1, 1, 1, 0, 0, 1, 1])
      (Configuration.reachable_follow [0, 0, 0, 0, 1, 1, 1, 1, 0, 0, 1, 1] _ rfl) 2 sent
  omega

end QueueForge.Worker
