import QueueForge.Worker.ClaimStages

/-! Wired runs that share their delivery with other processes.
What a run may do at each database call, and what the call does to the run and to the stored
status, is said once here; the interleavings of runs and of other processes rest on it.
-/

namespace QueueForge.Worker

open QueueForge.Async QueueForge.Js QueueForge.Domain QueueForge.Infrastructure

/-- The statuses a stage lets a run write. -/
def Stage.mayWrite (stage : Stage) : DeliveryStatus → Bool
  | .pending => false
  | .processing => stage.mayClaim
  | .completed | .scheduledRetry | .failedDlq => stage.isActive

/-- The stage of a run, and the status its latest call read, if that was a lookup. -/
structure RunPhase where
  stage : Stage
  seen : Option DeliveryStatus := none

namespace RunPhase

/-- A call that neither reads nor writes the status. -/
def pass (phase : RunPhase) : RunPhase := { phase with seen := none }

/-- A lookup of the delivery: a final status turns a claim down. -/
def look (phase : RunPhase) (status : DeliveryStatus) : RunPhase where
  stage :=
    match phase.stage with
    | .looking => if status.isFinal then .free else .looking
    | stage => stage
  seen := some status

/-- A lookup or a write that fails. -/
def refuse (phase : RunPhase) : RunPhase where
  stage :=
    match phase.stage with
    | .looking => .free
    | stage => stage

/-- A write of the status: PROCESSING is the claim, anything else an outcome. -/
def write (target : DeliveryStatus) : RunPhase where
  stage :=
    match target with
    | .processing => .holding
    | _ => .done

/-- A transmission. -/
def send : RunPhase where
  stage := .spent

/-- A write follows a lookup that found a status the table admits the move from. -/
def MayWrite (phase : RunPhase) (target : DeliveryStatus) : Prop :=
  (∃ status, phase.seen = some status ∧ admitsTransition status target = true)
  ∧ phase.stage.mayWrite target = true

/-- The phase after a call. -/
def enter (phase : RunPhase) (call : SystemCall) (result : Settled Thrown call.Result)
    : RunPhase :=
  match call, result with
  | .database (.deliveryFindUnique _), .ok (some row) => phase.look row.status
  | .database (.deliveryFindUnique _), _ => phase.refuse
  | .database (.deliveryUpdate _ data), .ok _ =>
      match data.status with
      | some target => write target
      | none => phase.pass
  | .database (.deliveryUpdate _ data), .error _ =>
      match data.status with
      | some _ => phase.refuse
      | none => phase.pass
  | .external call, _ => if call.isTransmission then send else phase.pass
  | _, _ => phase.pass

end RunPhase

/-- The contract of a wired run on the delivery `id`. It adds no jobs. -/
def sharedContract (id : String) : Contract SystemSignature Thrown RunPhase where
  allows phase call :=
    match call with
    | .queueAdd _ => False
    | .external call => call.isTransmission = true → phase.stage.isReady = true
    | .database (.deliveryFindUnique other) => other = id
    | .database (.deliveryUpdate other data) =>
        ∀ target,
          data.status = some target
          → other = id
            ∧ phase.MayWrite target
            ∧ (target = .processing → data.nextRetryAt = .undefined)
    | _ => True
  answers phase call result after :=
    match call with
    | .now => (∃ time, result = .ok time) ∧ after = phase.enter .now result
    | .database (.deliveryFindUnique other) =>
        ((∃ error, result = .error error) ∨ ∃ row, result = .ok (some row) ∧ row.id = id)
        ∧ after = phase.enter (.database (.deliveryFindUnique other)) result
    | call => after = phase.enter call result

/-- What a call does to the phase of the run that makes it, where the delivery is stored in
status `stored` before the call.
-/
inductive RunStep (id : String) (phase : RunPhase) (stored : DeliveryStatus) (entry : Entry)
    : RunPhase → Prop
  | passed (unread : entry.call.isLookup = false)
      (unsent : entry.call.isTransmission = false) (unwritten : entry.written? id = none)
    : RunStep id phase stored entry phase.pass
  | looked (reads : entry.call.isLookup = true)
    : RunStep id phase stored entry (phase.look stored)
  | refused (failed : ∃ error, entry.result = .error error)
      (asked
        : entry.call.isLookup = true
          ∨ ∃ target, entry.call.target? id = some target ∧ phase.MayWrite target)
    : RunStep id phase stored entry phase.refuse
  | sent (sends : entry.call.isTransmission = true) (ready : phase.stage.isReady = true)
    : RunStep id phase stored entry .send
  | wrote {target} (written : entry.written? id = some target)
      (may : phase.MayWrite target)
    : RunStep id phase stored entry (.write target)

section
variable {id : String}

/-- An entry that has no target has written nothing. -/
theorem written?_of_target? {entry : Entry} (untargeted : entry.call.target? id = none)
    : entry.written? id = none := by
  rw [Entry.written?]
  split
  · exact untargeted
  · rfl

/-- A lookup of the delivery reads its row or fails. -/
theorem runStep_lookup (env : Environment) (process : Nat) {phase : RunPhase} {world : World}
    {stored : DeliveryStatus} (held : world.status? id = some stored)
    : let lookup : SystemCall := .database (.deliveryFindUnique id)
      (sharedContract id).answers phase lookup (system env process lookup world).1
        (phase.enter lookup (system env process lookup world).1)
      ∧ RunStep id phase stored (.answering env process lookup world)
          (phase.enter lookup (system env process lookup world).1) := by
  dsimp only
  obtain ⟨row, found, rfl⟩ := World.status?_eq_some.mp held
  cases faulty : env.fault process world (.database (.deliveryFindUnique id)) with
  | some error =>
      have failed
          : (system env process (.database (.deliveryFindUnique id)) world).1 = .error error := by
        simp only [system, performCall, faulty]
      rw [failed]
      exact ⟨⟨.inl ⟨error, rfl⟩, rfl⟩, .refused ⟨error, failed⟩ (.inl rfl)⟩
  | none =>
      have returned
          : (system env process (.database (.deliveryFindUnique id)) world).1
            = .ok (some row) := by
        simp only [system, performCall, faulty, performDatabase, found]
      rw [returned]
      exact ⟨⟨.inr ⟨row, rfl, World.delivery?_id found⟩, rfl⟩, .looked rfl⟩

/-- An update writes its status, passes if it has none, or is refused. -/
theorem runStep_update (env : Environment) (process : Nat) {phase : RunPhase} {world : World}
    {stored : DeliveryStatus} {other : String} {data : DeliveryUpdate}
    (allowed : (sharedContract id).allows phase (.database (.deliveryUpdate other data)))
    : RunStep id phase stored (.answering env process (.database (.deliveryUpdate other data)) world)
        (phase.enter (.database (.deliveryUpdate other data))
          (system env process (.database (.deliveryUpdate other data)) world).1) := by
  cases written : data.status with
  | none =>
      have untargeted
          : (SystemCall.database (.deliveryUpdate other data)).target? id = none := by
        rw [SystemCall.target?, written]
        exact ite_self none
      have passes
          : phase.enter (.database (.deliveryUpdate other data))
              (system env process (.database (.deliveryUpdate other data)) world).1
            = phase.pass := by
        cases (system env process (.database (.deliveryUpdate other data)) world).1 <;>
          simp only [RunPhase.enter, written]
      rw [passes]
      exact .passed rfl rfl (written?_of_target? untargeted)
  | some target =>
      obtain ⟨rfl, may, _⟩ := allowed target written
      have targeted
          : (SystemCall.database (.deliveryUpdate other data)).target? other = some target := by
        rw [SystemCall.target?, if_pos rfl, written]
      cases answered
        : (system env process (.database (.deliveryUpdate other data)) world).1 with
      | error error =>
          have refuses
              : phase.enter (.database (.deliveryUpdate other data)) (.error error)
                = phase.refuse := by
            simp only [RunPhase.enter, written]
          rw [refuses]
          exact .refused ⟨error, answered⟩ (.inr ⟨target, targeted, may⟩)
      | ok row =>
          have writes
              : phase.enter (.database (.deliveryUpdate other data)) (.ok row)
                = .write target := by
            simp only [RunPhase.enter, written]
          rw [writes]
          refine .wrote ?_ may
          simp only [Entry.written?, Entry.answering, answered]
          exact targeted

/-- Every call a run may make is answered as its contract says and is one of these steps, by
cases on the call.
-/
theorem runStep_system (env : Environment) (process : Nat) {phase : RunPhase}
    {call : SystemCall} {world : World} {stored : DeliveryStatus}
    (held : world.status? id = some stored)
    (allowed : (sharedContract id).allows phase call)
    : (sharedContract id).answers phase call (system env process call world).1
        (phase.enter call (system env process call world).1)
      ∧ RunStep id phase stored (.answering env process call world)
          (phase.enter call (system env process call world).1) := by
  have unwritten
      : call.target? id = none → (Entry.answering env process call world).written? id = none :=
    fun untargeted => written?_of_target? untargeted
  cases call with
  | now => exact ⟨⟨⟨_, rfl⟩, rfl⟩, .passed rfl rfl rfl⟩
  | queueAdd job => exact allowed.elim
  | external call =>
      refine ⟨rfl, ?_⟩
      simp only [RunPhase.enter]
      split
      · rename_i sends
        exact .sent sends (allowed sends)
      · rename_i silent
        exact .passed rfl (Bool.eq_false_iff.mpr silent) (unwritten rfl)
  | database call =>
      cases call with
      | deliveryFindUnique other =>
          obtain rfl : other = id := allowed
          exact runStep_lookup env process held
      | deliveryUpdate other data => exact ⟨rfl, runStep_update env process allowed⟩
      | deliveryFindFirst other => exact ⟨rfl, .passed rfl rfl (unwritten rfl)⟩
      | deliveryFindStale time => exact ⟨rfl, .passed rfl rfl (unwritten rfl)⟩
      | deliveryCountStale time => exact ⟨rfl, .passed rfl rfl (unwritten rfl)⟩
      | attemptFindMany deliveryId => exact ⟨rfl, .passed rfl rfl (unwritten rfl)⟩
      | attemptCount deliveryId => exact ⟨rfl, .passed rfl rfl (unwritten rfl)⟩
      | attemptCreate deliveryId attemptNumber responseStatus responseTimeMs errorMessage =>
          exact ⟨rfl, .passed rfl rfl (unwritten rfl)⟩

/-- A call behind a recorded attempt passes. -/
theorem attempt_shared {α : Type} {program : SystemProgram α}
    (attempts : program.Awaits (fun call => isAttemptCall call = true)) (phase : RunPhase)
    : program.Meets (sharedContract id) phase (fun _ after => after.stage = phase.stage) := by
  refine attempts.meets ?_ ?_ rfl
  · intro before call same attempt
    cases call with
    | database call =>
        cases call with
        | deliveryUpdate other data =>
            intro target written
            have unwritten : data.status = none := Option.isNone_iff_eq_none.mp attempt
            exact nomatch unwritten.symm.trans written
        | deliveryFindUnique other => contradiction
        | _ => trivial
    | now => trivial
    | _ => contradiction
  · intro before call result after same attempt answered
    cases call with
    | now =>
        obtain ⟨_, rfl⟩ := answered
        exact same
    | database call =>
        cases call with
        | deliveryUpdate other data =>
            have unwritten : data.status = none := Option.isNone_iff_eq_none.mp attempt
            obtain rfl
                : after = before.enter (.database (.deliveryUpdate other data)) result :=
              answered
            cases result with
            | ok row =>
                simp only [RunPhase.enter, unwritten]
                exact same
            | error error =>
                simp only [RunPhase.enter, unwritten]
                exact same
        | deliveryFindUnique other => contradiction
        | deliveryFindFirst other => contradiction
        | deliveryFindStale time => contradiction
        | deliveryCountStale time => contradiction
        | attemptFindMany deliveryId =>
            obtain rfl : after = before.pass := answered
            exact same
        | attemptCount deliveryId =>
            obtain rfl : after = before.pass := answered
            exact same
        | attemptCreate deliveryId attemptNumber responseStatus responseTimeMs errorMessage =>
            obtain rfl : after = before.pass := answered
            exact same
    | _ => contradiction

section
variable {production : Bool} {phase : RunPhase} {target : DeliveryStatus}

/-- The lookup of the delivery fails, or finds its row. -/
theorem findById_shared
    : (DeliveryRepository.findById production id).Meets (sharedContract id) phase
        (fun outcome after =>
          (∃ error, outcome = .error error ∧ error ≠ .nullish) ∧ after = phase.refuse
          ∨ ∃ row, outcome = .ok (some row) ∧ row.id = id ∧ after = phase.look row.status) := by
  rw [DeliveryRepository.findById, executeQuery, Program.meets_catchError, meets_awaitDatabase]
  refine ⟨rfl, ?_⟩
  intro result after answered
  obtain ⟨⟨error, rfl⟩ | ⟨row, rfl, named⟩, rfl⟩ := answered
  · exact .inl ⟨⟨_, rfl, mapDatabaseError_ne_nullish production error⟩, rfl⟩
  · exact .inr ⟨row, rfl, named, rfl⟩

/-- So does the state machine. -/
theorem find_shared
    : ((workerStateMachine production).find id).Meets (sharedContract id) phase
        (fun outcome after =>
          (∃ error, outcome = .error error ∧ error ≠ .nullish) ∧ after = phase.refuse
          ∨ ∃ row, outcome = .ok (some row) ∧ after = phase.look row.status) := by
  simp only [DeliveryStateMachine.find, workerStateMachine, deliveryRepositoryStore,
    Program.bind_eq, Program.meets_bind]
  refine findById_shared.mono ?_
  intro looked after answered
  obtain ⟨⟨error, rfl, thrown⟩, rfl⟩ | ⟨row, rfl, _, rfl⟩ := answered
  · exact .inl ⟨⟨error, rfl, thrown⟩, rfl⟩
  · exact .inr ⟨row, rfl, rfl⟩

/-- What a write of the target leaves: the target, or an exception. Only the routes of an
outcome can throw before they reach the database.
-/
def Written {α : Type} (phase : RunPhase) (target : DeliveryStatus) (outcome : Settled Thrown α)
    (after : RunPhase)
    : Prop :=
  (∃ error, outcome = .error error ∧ error ≠ .nullish)
    ∧ (after = phase.refuse ∨ target ≠ .processing ∧ after = phase)
  ∨ (∃ value, outcome = .ok value) ∧ after = .write target

/-- Whatever its route, a write that may be made is one update. -/
theorem write_shared (may : phase.MayWrite target) (metadata : Option Metadata)
    (row : Option DeliveryRow) (plain : target = .processing → metadata = none)
    : ((workerStateMachine production).write id target metadata row).Meets
        (sharedContract id) phase (Written phase target) := by
  have routed
      : ∀ (tx : Option (List String)) (data : DeliveryUpdate),
          data.status = some target
          → (target = .processing → data.nextRetryAt = .undefined ∧ tx = none)
          → (some <$> executeQuery production (updateDelivery tx id data)).Meets
              (sharedContract id) phase (Written phase target) := by
    intro tx data written claim
    rw [Program.map_eq, Program.meets_bind, executeQuery, Program.meets_catchError]
    cases tx with
    | some keys =>
        simp only [updateDelivery, Program.throw_eq, Program.meets_fail]
        have outcome : target ≠ .processing := fun claims => by cases (claim claims).2
        exact .inl ⟨⟨_, rfl, mapDatabaseError_ne_nullish production _⟩, .inr ⟨outcome, rfl⟩⟩
    | none =>
        simp only [updateDelivery, meets_awaitDatabase]
        constructor
        · intro other same
          obtain rfl := Option.some.inj (written.symm.trans same)
          exact ⟨rfl, may, fun claims => (claim claims).1⟩
        · intro result after answered
          obtain rfl : after = phase.enter (.database (.deliveryUpdate id data)) result :=
            answered
          cases result with
          | error error =>
              simp only [RunPhase.enter, written]
              exact .inl ⟨⟨_, rfl, mapDatabaseError_ne_nullish production error⟩, .inl rfl⟩
          | ok row =>
              simp only [RunPhase.enter, written]
              exact .inr ⟨⟨some row, rfl⟩, rfl⟩
  have optioned
      : ∀ {next : Metadata → SystemProgram (Option DeliveryRow)},
          target ≠ .processing
          → (∀ options, (next options).Meets (sharedContract id) phase (Written phase target))
          → (((workerStateMachine production).optionsArg metadata).bind next).Meets
              (sharedContract id) phase (Written phase target) := by
    intro next outcome settled
    rw [DeliveryStateMachine.optionsArg]
    cases Metadata.nonempty metadata with
    | some options => exact settled options
    | none => exact .inl ⟨⟨_, rfl, (by rintro ⟨⟩)⟩, .inr ⟨outcome, rfl⟩⟩
  cases target with
  | completed => exact optioned (by rintro ⟨⟩) (fun _ => routed _ _ rfl (by rintro ⟨⟩))
  | scheduledRetry => exact optioned (by rintro ⟨⟩) (fun _ => routed _ _ rfl (by rintro ⟨⟩))
  | failedDlq => exact routed _ _ rfl (by rintro ⟨⟩)
  | pending => exact routed _ _ rfl (by rintro ⟨⟩)
  | processing =>
      obtain rfl := plain rfl
      exact routed none _ rfl (fun _ => ⟨rfl, rfl⟩)

/-- What a transition leaves: a claim frees the run to transmit, and an outcome is written
unless the transition throws.
-/
def Transitioned {α : Type} (stage : Stage) (target : DeliveryStatus)
    (outcome : Settled Thrown α) (after : RunPhase)
    : Prop :=
  (∀ error, outcome = .error error → error ≠ .nullish)
  ∧ match target with
    | .processing => after.stage.isReady = true
    | _ => (∃ value, outcome = .ok value) ∨ after.stage = stage

/-- A stage that may write still may after a lookup. -/
theorem mayWrite_look {stage : Stage} (may : stage.mayWrite target = true)
    (seen : Option DeliveryStatus) (status : DeliveryStatus)
    : ((RunPhase.mk stage seen).look status).stage.mayWrite target = true := by
  cases stage <;> cases target <;> cases status <;> first | rfl | contradiction

/-- An exception that turns a claim down, or leaves a run as it is. -/
theorem Transitioned.of_error {α : Type} {stage : Stage} {after : RunPhase}
    (may : stage.mayWrite target = true) {error : Thrown} (thrown : error ≠ .nullish)
    (left
      : if target = .processing then after.stage.isReady = true else after.stage = stage)
    : Transitioned (α := α) stage target (.error error) after := by
  refine ⟨fun other same => Except.error.inj same ▸ thrown, ?_⟩
  cases target with
  | pending => contradiction
  | processing => exact left
  | _ => exact .inr left

/-- A lookup or write that fails does so. -/
theorem Transitioned.of_refuse {α : Type} {stage : Stage} {seen : Option DeliveryStatus}
    (may : stage.mayWrite target = true) {error : Thrown} (thrown : error ≠ .nullish)
    : Transitioned (α := α) stage target (.error error) (RunPhase.mk stage seen).refuse := by
  refine .of_error may thrown ?_
  cases target <;> cases stage <;> first | rfl | contradiction

/-- So does a write that fails after a lookup. -/
theorem Transitioned.of_look_refuse {α : Type} {stage : Stage} {seen : Option DeliveryStatus}
    (may : stage.mayWrite target = true) {error : Thrown} (thrown : error ≠ .nullish)
    (status : DeliveryStatus)
    : Transitioned (α := α) stage target (.error error)
        ((RunPhase.mk stage seen).look status).refuse := by
  refine .of_error may thrown ?_
  cases target <;> cases stage <;> first | rfl | contradiction | (cases status <;> rfl)

/-- A lookup alone leaves a run that may write an outcome. -/
theorem Transitioned.of_look_outcome {α : Type} {stage : Stage} {seen : Option DeliveryStatus}
    (may : stage.mayWrite target = true) {error : Thrown} (thrown : error ≠ .nullish)
    (status : DeliveryStatus) (outcome : target ≠ .processing)
    : Transitioned (α := α) stage target (.error error)
        ((RunPhase.mk stage seen).look status) := by
  refine .of_error may thrown ?_
  rw [if_neg outcome]
  cases target <;> cases stage <;> first | rfl | contradiction

/-- A lookup that finds a status the table admits no move from turns a claim down. -/
theorem Transitioned.of_look {α : Type} {stage : Stage} {seen : Option DeliveryStatus}
    (may : stage.mayWrite target = true) {error : Thrown} (thrown : error ≠ .nullish)
    {status : DeliveryStatus} (refused : ¬admitsTransition status target = true)
    : Transitioned (α := α) stage target (.error error)
        ((RunPhase.mk stage seen).look status) := by
  refine .of_error may thrown ?_
  cases target with
  | processing =>
      -- the table admits PROCESSING from every status but the final ones
      cases status <;> cases stage <;> first | rfl | contradiction
  | _ => cases stage <;> first | rfl | contradiction

theorem Transitioned.of_written {α : Type} {stage : Stage} {value : α}
    : Transitioned stage target (.ok value) (.write target) := by
  refine ⟨(fun _ impossible => nomatch impossible), ?_⟩
  cases target <;> first | rfl | exact .inl ⟨value, rfl⟩

/-- A transition looks the delivery up, checks what it found, and writes. -/
theorem transition_shared (may : phase.stage.mayWrite target = true)
    (metadata : Option Metadata) (plain : target = .processing → metadata = none)
    : ((workerStateMachine production).transition id target metadata).Meets
        (sharedContract id) phase (Transitioned phase.stage target) := by
  obtain ⟨stage, seen⟩ := phase
  rw [DeliveryStateMachine.transition, Program.bind_eq, Program.meets_bind]
  refine find_shared.mono ?_
  intro found after answered
  obtain ⟨⟨error, rfl, thrown⟩, rfl⟩ | ⟨row, rfl, rfl⟩ := answered
  · exact .of_refuse may thrown
  · simp only [Option.map_some, Option.getD_some]
    by_cases admitted : admitsTransition row.status target = true
    · rw [if_pos admitted, Program.bind_eq, Program.meets_bind]
      have mayWrite : ((RunPhase.mk stage seen).look row.status).MayWrite target :=
        ⟨⟨row.status, rfl, admitted⟩, mayWrite_look may seen row.status⟩
      refine (write_shared mayWrite metadata (some row) plain).mono ?_
      intro outcome after answered
      rcases answered with ⟨⟨error, rfl, thrown⟩, left⟩ | ⟨⟨written, rfl⟩, rfl⟩
      · rcases left with rfl | ⟨outcome, rfl⟩
        · exact .of_look_refuse may thrown row.status
        · exact .of_look_outcome may thrown row.status outcome
      · exact .of_written
    · rw [if_neg admitted, Program.throw_eq, Program.meets_fail]
      have thrown
          : (.error (invalidDeliveryStateError row.status target) : Thrown) ≠ .nullish :=
        (by rintro ⟨⟩)
      exact .of_look may thrown admitted

/-- Dropping its result does not change what a transition does. -/
theorem Transitioned.dropped {α : Type} {stage : Stage} {program : SystemProgram α}
    (moves : program.Meets (sharedContract id) phase (Transitioned stage target))
    : (program.bind (fun _ => .done ())).Meets (sharedContract id) phase
        (Transitioned stage target) := by
  rw [Program.meets_bind]
  refine moves.mono ?_
  intro outcome after moved
  obtain ⟨thrown, left⟩ := moved
  cases outcome with
  | error error =>
      refine ⟨fun other same => thrown other (congrArg Except.error (Except.error.inj same)), ?_⟩
      cases target with
      | processing => exact left
      | _ => exact left.imp (fun impossible => nomatch impossible) (fun same => same)
  | ok value =>
      refine ⟨(fun _ impossible => nomatch impossible), ?_⟩
      cases target with
      | processing => exact left
      | _ => exact .inl ⟨(), rfl⟩

/-- A transition at the present time. -/
theorem transition_shared_at (may : phase.stage.mayWrite target = true)
    (outcome : target ≠ .processing) (metadataAt : Int → Metadata)
    : ((awaitNow.bind (fun time =>
        (workerStateMachine production).transition id target
          (some (metadataAt time)))).bind (fun _ => .done ())).Meets (sharedContract id) phase
        (Transitioned phase.stage target) := by
  refine Transitioned.dropped ?_
  rw [Program.meets_bind, meets_awaitNow]
  refine ⟨trivial, ?_⟩
  intro result after answered
  obtain ⟨⟨time, rfl⟩, rfl⟩ := answered
  have passed : (phase.enter .now (.ok time)).stage = phase.stage := rfl
  rw [← passed] at may ⊢
  exact transition_shared may (some (metadataAt time)) (fun claims => absurd claims outcome)

end

/-- Every wired call goes through its stage, by cases on the call. -/
theorem workerParts_shared (production logger : Bool) (phase : RunPhase) (call : WorkerCall)
    (allowed : (stageContract id).allows phase.stage call)
    : ((workerParts production logger).methods call).Meets (sharedContract id) phase
        (fun result after => (stageContract id).answers phase.stage call result after.stage) := by
  obtain ⟨about, may⟩ := allowed
  have outcome
      : ∀ {target : DeliveryStatus} {result : Settled Thrown Unit} {after : RunPhase},
          Transitioned phase.stage target result after
          → target ≠ .processing
          → result = .ok () ∨ after.stage = phase.stage := by
    intro target result after moved outcome
    have left := moved.2
    cases target with
    | processing => exact absurd rfl outcome
    | _ => exact left.imp_left (fun ⟨_, returned⟩ => returned)
  cases call with
  | now =>
      refine meets_awaitNow.mpr ⟨trivial, ?_⟩
      intro result after answered
      obtain ⟨read, rfl⟩ := answered
      exact ⟨read, rfl⟩
  | findDelivery deliveryId =>
      obtain rfl := about deliveryId rfl
      have loads
          : (workerParts production logger).methods (.findDelivery deliveryId)
            = (DeliveryRepository.findById production deliveryId).bind
                (fun row => .done (row.map .ofRow)) :=
        rfl
      have claims : phase.stage.mayWrite .processing = true := may
      have still : ∀ status, (phase.look status).stage.mayWrite .processing = true :=
        fun status => mayWrite_look claims phase.seen status
      rw [loads, Program.meets_bind]
      refine findById_shared.mono ?_
      intro looked after answered
      obtain ⟨⟨error, rfl, _⟩, rfl⟩ | ⟨row, rfl, named, rfl⟩ := answered
      · refine ⟨.inl ⟨error, rfl⟩, ?_⟩
        obtain ⟨stage, seen⟩ := phase
        cases stage <;> first | rfl | contradiction
      · exact ⟨.inr ⟨.ofRow row, rfl, named⟩, still row.status⟩
  | external call =>
      refine Program.meets_perform.mpr ⟨may, ?_⟩
      intro result after answered
      obtain rfl : after = phase.enter (.external call) result := answered
      have sends
          : (phase.enter (.external call) result).stage
            = if call.isTransmission then .spent else phase.stage := by
        simp only [RunPhase.enter]
        cases call.isTransmission <;> rfl
      exact sends
  | markProcessing deliveryId =>
      obtain rfl := about deliveryId rfl
      have claims : phase.stage.mayWrite .processing = true := may
      refine (Transitioned.dropped (transition_shared claims none (fun _ => rfl))).mono ?_
      intro result after moved
      exact moved
  | markCompleted deliveryId latencyMs =>
      obtain rfl := about deliveryId rfl
      have writes : phase.stage.mayWrite .completed = true := may
      refine (transition_shared_at writes nofun _).mono ?_
      intro result after moved
      exact outcome moved nofun
  | scheduleRetry deliveryId delayMs error =>
      obtain rfl := about deliveryId rfl
      have writes : phase.stage.mayWrite .scheduledRetry = true := may
      refine (transition_shared_at writes nofun _).mono ?_
      intro result after moved
      exact outcome moved nofun
  | moveToDeadLetterQueue deliveryId reason =>
      obtain rfl := about deliveryId rfl
      have writes : phase.stage.mayWrite .failedDlq = true := may
      refine (transition_shared_at writes nofun _).mono ?_
      intro result after moved
      exact outcome moved nofun
  | attemptSuccess deliveryId latencyMs response =>
      refine (attempt_shared ?_ phase).mono (fun _ _ same => same)
      exact (record_awaits production logger deliveryId _).bind (fun _ => trivial)
  | attemptFailure deliveryId latencyMs statusCode error =>
      refine (attempt_shared ?_ phase).mono (fun _ _ same => same)
      exact (record_awaits production logger deliveryId _).bind (fun _ => trivial)

/-- The phase of a wired run is at the stage of the executor run it implements. -/
def RunPhase.At (stage : Stage) (phase : RunPhase) : Prop :=
  phase.stage = stage

/-- A run of the wired worker keeps to its contract, from a phase in which it is looking. -/
theorem execute_shared (production logger : Bool) (config : ExecutorConfig)
    (deliveryOrId : DeliveryArgument) (destinationArg : Option Infrastructure.Destination)
    : ((workerParts production logger).execute config deliveryOrId destinationArg).Meets
        (sharedContract (DeliveryExecutor.argumentId deliveryOrId)) { stage := .looking }
        (fun _ _ => True) := by
  have stages :=
    DeliveryExecutor.executeWithResilience_stages config deliveryOrId destinationArg
  have sound
      : ∀ (stage : Stage) (phase : RunPhase) (call : WorkerCall),
          RunPhase.At stage phase
          → (stageContract (DeliveryExecutor.argumentId deliveryOrId)).allows stage call
          → ((workerParts production logger).methods call).Meets
              (sharedContract (DeliveryExecutor.argumentId deliveryOrId)) phase
              (fun result after =>
                ∃ next,
                  (stageContract (DeliveryExecutor.argumentId deliveryOrId)).answers stage call
                    result next
                  ∧ RunPhase.At next after) := by
    intro stage phase call same allowed
    obtain rfl : phase.stage = stage := same
    refine (workerParts_shared production logger phase call allowed).mono ?_
    intro result after answered
    exact ⟨after.stage, answered, rfl⟩
  have started : RunPhase.At .looking { stage := .looking } := rfl
  refine (stages.implement sound started).mono ?_
  intro _ _ _
  trivial

end

end QueueForge.Worker
