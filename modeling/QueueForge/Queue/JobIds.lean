import QueueForge.Async.Throughout
import QueueForge.Queue.JobIdentity

/-! Sequences of calls of the manager. Each queue numbers its jobs itself, so two jobs of different
queues may be given one identifier, and a moved job another one than it had.
-/

namespace QueueForge.Queue

open QueueForge.Async QueueForge.Js

/-- A call of the manager. -/
inductive ManagerRequest where
  | enqueueJob (jobData : JobData) (options : AddOptions)
  | enqueueDelayedJob (jobData : JobData) (delayMs : Number) (options : AddOptions)
  | operate (operation : IdOperation) (jobId : String)

/-- A call, and what it meets. -/
abbrev ManagerStep : Type := ManagerEnvironment × ManagerRequest

/-- Each job of the queues, with the ticket it has and the identifier it is queued under. -/
def ManagerWorld.identities (world : ManagerWorld) : List (Nat × String) :=
  QueueManager.queues.flatMap (fun name =>
    (world.queue name).jobs.map (fun job => (job.data.ticket, job.id.text)))

theorem ManagerWorld.mem_identities {world : ManagerWorld} {ticket : Nat} {id : String}
    : (ticket, id) ∈ world.identities
      ↔ ∃ name job,
          job ∈ (world.queue name).jobs ∧ job.data.ticket = ticket ∧ job.id.text = id := by
  simp only [identities, List.mem_flatMap, List.mem_map, Prod.mk.injEq]
  exact exists_congr (fun name => and_iff_right (mem_queues name))

/-- The queues, the identifiers the enqueues returned, and those the jobs were given, by an enqueue
or a move. The ticket of a job is the place of the identifier that was returned for it.
-/
structure ManagerHistory where
  world : ManagerWorld
  issued : List String
  given : List (Nat × String)

namespace ManagerHistory

def empty : ManagerHistory :=
  ⟨.empty, [], []⟩

/-- The identifier was returned when the job of the ticket was enqueued. -/
def Issued (history : ManagerHistory) (ticket : Nat) (id : String) : Prop :=
  history.issued[ticket]? = some id

/-- The job of the ticket was given the identifier. -/
def Given (history : ManagerHistory) (ticket : Nat) (id : String) : Prop :=
  (ticket, id) ∈ history.given

/-- The history after an enqueue, which returns an identifier or throws. -/
def enqueued (history : ManagerHistory) : Settled Thrown String × ManagerWorld → ManagerHistory
  | (.ok id, world) =>
      ⟨world, history.issued ++ [id], history.given ++ [(history.issued.length, id)]⟩
  | (.error _, world) => { history with world := world }

/-- The history after an operation, which may give a job another identifier. -/
def operated (history : ManagerHistory) (world : ManagerWorld) : ManagerHistory :=
  ⟨world, history.issued, history.given ++ world.identities⟩

/-- The history after a call. -/
def after (step : ManagerStep) (history : ManagerHistory) : ManagerHistory :=
  match step with
  | (env, .enqueueJob jobData options) =>
      history.enqueued
        ((QueueManager.enqueueJob history.issued.length jobData options).run (managerSystem env)
          history.world)
  | (env, .enqueueDelayedJob jobData delayMs options) =>
      history.enqueued
        ((QueueManager.enqueueDelayedJob history.issued.length jobData delayMs options).run
          (managerSystem env) history.world)
  | (env, .operate operation jobId) =>
      history.operated (operation.after env history.world jobId)

/-- Every identifier that was returned denotes its job wherever it is queued. -/
def Identified (history : ManagerHistory) : Prop :=
  ∀ ticket id, history.Issued ticket id → Denotes history.world ticket id (fun _ => True)

/-- Every identifier a job was given denotes the job as long as it is queued under it. -/
def IdentifiedInPlace (history : ManagerHistory) : Prop :=
  ∀ ticket id,
    history.Given ticket id
    → Denotes history.world ticket id (fun job => job.id.text = id)

end ManagerHistory

-----------------------------------------------------------------------------------------
-- The conditions on a call
-----------------------------------------------------------------------------------------

/-- An enqueue that adds a job gives it an identifier that names no other job. -/
def FreshId (env : ManagerEnvironment) (world : ManagerWorld) (named : Nat → String → Prop)
    (queue : ManagedQueue) (jobData : JobData) (options : AddOptions)
    : Prop :=
  ∀ record,
    encoded jobData = .ok record
    → env.fault world (.add queue) = none
    → ∀ ticket, ¬named ticket ((world.queue queue).nextId options.jobId).text

/-- A move that adds its job again gives it an identifier that is right for its ticket. -/
def MovesTo (env : ManagerEnvironment) (world : ManagerWorld) (move : ManagerMove) (jobId : String)
    (right : Nat → String → Prop)
    : Prop :=
  ∀ job queue record copied,
    TakesOut env world jobId job queue record
    → move.written record (env.clock (world.without queue job)) = .ok copied
    → env.fault (world.without queue job) (.add move.target) = none
    → right job.data.ticket ((world.queue move.target).nextId none).text

/-- Enqueued jobs get identifiers that were not returned before, and moved ones keep theirs. -/
def KeepsIds : ManagerStep → ManagerHistory → Prop
  | (env, .enqueueJob jobData options), history =>
      FreshId env history.world history.Issued .main jobData options
  | (env, .enqueueDelayedJob jobData delayMs options), history =>
      FreshId env history.world history.Issued .delayed jobData { options with delay := delayMs }
  | (env, .operate (.move move) jobId), history =>
      MovesTo env history.world move jobId (fun _ id => id = jobId)
  | (_, .operate .cancelJob _), _ => True

/-- Enqueued and moved jobs get identifiers no other job was given. -/
def SeparatesIds : ManagerStep → ManagerHistory → Prop
  | (env, .enqueueJob jobData options), history =>
      FreshId env history.world history.Given .main jobData options
  | (env, .enqueueDelayedJob jobData delayMs options), history =>
      FreshId env history.world history.Given .delayed jobData { options with delay := delayMs }
  | (env, .operate (.move move) jobId), history =>
      MovesTo env history.world move jobId
        (fun ticket id => ∀ other, history.Given other id → other = ticket)
  | (_, .operate .cancelJob _), _ => True

-----------------------------------------------------------------------------------------
-- Enqueues
-----------------------------------------------------------------------------------------

section
variable {env : ManagerEnvironment} {history : ManagerHistory} {queue : ManagedQueue}
  {failure : String} {jobData : JobData} {options : AddOptions}

/-- An enqueue changes nothing, or adds a job and returns its identifier. -/
theorem enqueued_cases (env : ManagerEnvironment) (history : ManagerHistory)
    (queue : ManagedQueue) (failure : String) (jobData : JobData) (options : AddOptions)
    : history.enqueued
          ((QueueManager.enqueue queue failure history.issued.length jobData options).run
            (managerSystem env) history.world)
        = history
      ∨ ∃ record label,
          encoded jobData = .ok record
          ∧ env.fault history.world (.add queue) = none
          ∧ history.enqueued
              ((QueueManager.enqueue queue failure history.issued.length jobData options).run
                (managerSystem env) history.world)
            = history.enqueued
                (.ok ((history.world.queue queue).nextId options.jobId).text,
                  history.world.setQueue queue
                    ((history.world.queue queue).add label ⟨history.issued.length, some record⟩
                      options.delay options.jobId)) := by
  rcases run_enqueue env history.world queue failure history.issued.length jobData options with
    ⟨_, _, _, result⟩ | ⟨record, label, wrote, accepted, result⟩
  · rw [result]
    exact .inl rfl
  · rw [result]
    exact .inr ⟨record, label, wrote, accepted, rfl⟩

theorem issued_enqueued {world : ManagerWorld} {id : String} (ticket : Nat) (text : String)
    : (history.enqueued (.ok id, world)).Issued ticket text
      ↔ history.Issued ticket text ∨ ticket = history.issued.length ∧ text = id := by
  rw [ManagerHistory.Issued, ManagerHistory.Issued, ManagerHistory.enqueued,
    List.getElem?_append]
  split
  · rename_i inRange
    simp [Nat.ne_of_lt inRange]
  · rename_i outOfRange
    rw [List.getElem?_eq_none (Nat.not_lt.mp outOfRange), List.getElem?_singleton]
    split
    · rename_i past
      have last : ticket = history.issued.length := by omega
      simp [last, eq_comm]
    · rename_i past
      have beyond : ticket ≠ history.issued.length := by omega
      simp [beyond]

theorem given_enqueued {world : ManagerWorld} {id : String} (ticket : Nat) (text : String)
    : (history.enqueued (.ok id, world)).Given ticket text
      ↔ history.Given ticket text ∨ ticket = history.issued.length ∧ text = id := by
  rw [ManagerHistory.Given, ManagerHistory.Given, ManagerHistory.enqueued, List.mem_append,
    List.mem_singleton, Prod.mk.injEq]

/-- The jobs are tracked by the identifiers named so far, whose tickets have all been drawn. -/
structure Numbered (named : ManagerHistory → Nat → String → Prop) (history : ManagerHistory)
    : Prop where
  tracked : Tracked history.world (named history)
  drawn : ∀ ticket id, named history ticket id → ticket < history.issued.length

variable {named : ManagerHistory → Nat → String → Prop}

/-- An added job whose identifier names no other job is tracked with the others. -/
theorem Numbered.enqueued (numbered : Numbered named history)
    (grows
      : ∀ {world id} ticket text,
          named (history.enqueued (.ok id, world)) ticket text
          ↔ named history ticket text ∨ ticket = history.issued.length ∧ text = id)
    (fresh : FreshId env history.world (named history) queue jobData options)
    : Numbered named
        (history.enqueued
          ((QueueManager.enqueue queue failure history.issued.length jobData options).run
            (managerSystem env) history.world)) := by
  rcases enqueued_cases env history queue failure jobData options with
    unchanged | ⟨record, label, wrote, accepted, added⟩
  · rw [unchanged]
    exact numbered
  · rw [added]
    have unnamed := fresh record wrote accepted
    constructor
    · refine Tracked.added
        (numbered.tracked.name (fun ticket found => absurd found (unnamed ticket)) grows)
        ((grows _ _).mpr (.inr ⟨rfl, rfl⟩)) ?_
      intro other found member ticket
      have earlier := numbered.drawn _ _ (numbered.tracked.own other found member)
      omega
    · intro ticket text found
      rw [ManagerHistory.enqueued, List.length_append, List.length_singleton]
      rcases (grows ticket text).mp found with old | ⟨rfl, _⟩
      · have earlier := numbered.drawn ticket text old
        omega
      · omega

/-- After an enqueue no identifier denotes two jobs only if the one it gave named no other job. -/
theorem Numbered.freshId (numbered : Numbered named history)
    (grows
      : ∀ {world id} ticket text,
          named (history.enqueued (.ok id, world)) ticket text
          ↔ named history ticket text ∨ ticket = history.issued.length ∧ text = id)
    {meant : String → ManagedJob → Prop}
    (denoted
      : ∀ ticket id,
          named
            (history.enqueued
              ((QueueManager.enqueue queue failure history.issued.length jobData options).run
                (managerSystem env) history.world))
            ticket id
          → Denotes
              (history.enqueued
                ((QueueManager.enqueue queue failure history.issued.length jobData options).run
                  (managerSystem env) history.world)).world
              ticket id (meant id))
    : FreshId env history.world (named history) queue jobData options := by
  intro record wrote accepted ticket earlier
  rcases run_enqueue env history.world queue failure history.issued.length jobData options with
    ⟨error, _, failed, _⟩ | ⟨added, label, _, _, result⟩
  · rcases failed with failed | failed
    · cases wrote.symm.trans failed
    · cases accepted.symm.trans failed
  · rw [result] at denoted
    obtain ⟨job, member, id⟩ := BullQueue.exists_mem_add (history.world.queue queue) label
      ⟨history.issued.length, some added⟩ options.delay options.jobId
    have inQueue
        : job ∈ ((history.world.setQueue queue
            ((history.world.queue queue).add label ⟨history.issued.length, some added⟩
              options.delay options.jobId)).queue queue).jobs := by
      rw [ManagerWorld.queue_setQueue_self]
      exact member
    have old := denoted ticket _ ((grows _ _).mpr (.inl earlier))
    have new := denoted history.issued.length _ ((grows _ _).mpr (.inr ⟨rfl, rfl⟩))
    have same := old.ticket_eq new inQueue (congrArg JobId.text id)
    have drawn := numbered.drawn ticket _ earlier
    omega

end

-----------------------------------------------------------------------------------------
-- Operations
-----------------------------------------------------------------------------------------

section
variable {env : ManagerEnvironment} {history : ManagerHistory} {jobId : String}

/-- The identifiers given after an operation: those that were given before, and those the jobs are
queued under.
-/
theorem Numbered.operated_given {world : ManagerWorld} {wider : Nat → String → Prop}
    (tracked : Tracked world wider) (drawn : ∀ ticket id, wider ticket id → ticket < history.issued.length)
    (grows : ∀ ticket id, history.Given ticket id → wider ticket id)
    (reached
      : ∀ ticket id, wider ticket id → history.Given ticket id ∨ (ticket, id) ∈ world.identities)
    : Numbered ManagerHistory.Given (history.operated world) := by
  have same : (history.operated world).Given = wider := by
    funext ticket id
    refine propext ⟨fun found => ?_, fun found => List.mem_append.mpr (reached ticket id found)⟩
    rcases List.mem_append.mp found with old | new
    · exact grows ticket id old
    · obtain ⟨name, job, member, rfl, rfl⟩ := ManagerWorld.mem_identities.mp new
      exact tracked.own name job member
  refine ⟨?_, ?_⟩
  · rw [same]
    exact tracked
  · rw [same]
    exact drawn

/-- Where no job is queued under a new identifier, none was given one. -/
theorem Numbered.operated_kept (numbered : Numbered ManagerHistory.Given history)
    {world : ManagerWorld} (tracked : Tracked world history.Given)
    : Numbered ManagerHistory.Given (history.operated world) :=
  .operated_given tracked numbered.drawn (fun _ _ => id) (fun _ _ => .inl)

/-- After an operation the identifiers that were returned are the same. -/
theorem Numbered.operated_issued (numbered : Numbered ManagerHistory.Issued history)
    {world : ManagerWorld} (tracked : Tracked world history.Issued)
    : Numbered ManagerHistory.Issued (history.operated world) :=
  ⟨tracked, numbered.drawn⟩

theorem Tracked.cancelled {world : ManagerWorld} {named : Nat → String → Prop}
    (tracked : Tracked world named)
    : Tracked (IdOperation.cancelJob.after env world jobId) named := by
  rw [IdOperation.after, IdOperation.program]
  rcases run_cancelJob env world jobId with ⟨_, result⟩ | ⟨job, name, _, result⟩
  · rw [result]
    exact tracked
  · rw [result]
    exact tracked.without name job

/-- A move that keeps the identifier of its job keeps track of the jobs. -/
theorem Numbered.moved_issued (numbered : Numbered ManagerHistory.Issued history)
    {move : ManagerMove}
    (keeps : MovesTo env history.world move jobId (fun _ id => id = jobId))
    : Numbered ManagerHistory.Issued
        (history.operated ((IdOperation.move move).after env history.world jobId)) := by
  refine numbered.operated_issued ?_
  rw [IdOperation.after, IdOperation.program]
  have effect := move.moved env history.world jobId
  generalize ((move.program jobId).run (managerSystem env) history.world).2 = after at effect ⊢
  cases effect with
  | idle => exact numbered.tracked
  | dropped taken failed => exact numbered.tracked.without _ _
  | @added job queue record copied label delay taken wrote accepted =>
      have same := keeps job queue record copied taken wrote accepted
      obtain ⟨member, text⟩ := taken.member
      refine (numbered.tracked.without queue job).added ?_ ?_
      · rw [ManagerWorld.nextId_without, same, ← text]
        exact numbered.tracked.own queue job member
      · exact fun other found left => numbered.tracked.gone member left

/-- A move that gives its job an identifier no other job was given keeps track of the jobs. -/
theorem Numbered.moved_given (numbered : Numbered ManagerHistory.Given history)
    {move : ManagerMove}
    (separates
      : MovesTo env history.world move jobId
          (fun ticket id => ∀ other, history.Given other id → other = ticket))
    : Numbered ManagerHistory.Given
        (history.operated ((IdOperation.move move).after env history.world jobId)) := by
  rw [IdOperation.after, IdOperation.program]
  have effect := move.moved env history.world jobId
  generalize ((move.program jobId).run (managerSystem env) history.world).2 = after at effect ⊢
  cases effect with
  | idle => exact numbered.operated_kept numbered.tracked
  | dropped taken failed => exact numbered.operated_kept (numbered.tracked.without _ _)
  | @added job queue record copied label delay taken wrote accepted =>
      have alone := separates job queue record copied taken wrote accepted
      obtain ⟨member, _⟩ := taken.member
      have given := (numbered.tracked.without queue job).name alone (fun _ _ => Iff.rfl)
      have id := history.world.nextId_without queue move.target job none
      refine .operated_given
        (given.added (.inr ⟨rfl, congrArg JobId.text id⟩)
          (fun other found left => numbered.tracked.gone member left))
        ?_ (fun _ _ => .inl) ?_
      · rintro ticket text (old | ⟨rfl, _⟩)
        · exact numbered.drawn ticket text old
        · exact numbered.drawn _ _ (numbered.tracked.own queue job member)
      · rintro ticket text (old | ⟨rfl, rfl⟩)
        · exact .inl old
        · refine .inr (ManagerWorld.mem_identities.mpr
            ⟨move.target, _, ManagerWorld.mem_added_self _ _ _ _ _, rfl, ?_⟩)
          exact congrArg JobId.text id

/-- After a move the job is found under the identifier that was returned for it only if the move
kept it.
-/
theorem Numbered.keepsId (numbered : Numbered ManagerHistory.Issued history) {move : ManagerMove}
    (identified
      : (history.operated ((IdOperation.move move).after env history.world jobId)).Identified)
    : MovesTo env history.world move jobId (fun _ id => id = jobId) := by
  intro job queue record copied taken wrote accepted
  obtain ⟨label, delay, result⟩ := ManagerMove.adds taken wrote accepted
  obtain ⟨member, text⟩ := taken.member
  have own := numbered.tracked.own queue job member
  rw [text] at own
  have denoted := identified _ jobId own
  rw [IdOperation.after, IdOperation.program, result] at denoted
  have returned := denoted.finds .quiet move.target _ (fun _ => rfl)
    (ManagerWorld.mem_added_self _ _ _ _ _) rfl trivial
  obtain ⟨name, hit⟩ := getJob_found returned
  obtain ⟨_, id⟩ := BullQueue.fromId_found (lookup_found hit)
  rw [← history.world.nextId_without queue move.target job none]
  exact id

/-- After a move no identifier denotes two jobs only if the job was given one that is its own. -/
theorem separatesId {move : ManagerMove}
    (identified
      : (history.operated
          ((IdOperation.move move).after env history.world jobId)).IdentifiedInPlace)
    : MovesTo env history.world move jobId
        (fun ticket id => ∀ other, history.Given other id → other = ticket) := by
  intro job queue record copied taken wrote accepted other earlier
  obtain ⟨label, delay, result⟩ := ManagerMove.adds taken wrote accepted
  rw [IdOperation.after, IdOperation.program, result] at identified
  rw [← history.world.nextId_without queue move.target job none] at earlier
  have member := (history.world.without queue job).mem_added_self move.target label
    ⟨job.data.ticket, some copied⟩ delay
  have old := identified other _ (List.mem_append_left _ earlier)
  have new := identified job.data.ticket _
    (List.mem_append_right _ (ManagerWorld.mem_identities.mpr ⟨_, _, member, rfl, rfl⟩))
  exact old.ticket_eq new member rfl

end

-----------------------------------------------------------------------------------------
-- Sequences of calls
-----------------------------------------------------------------------------------------

namespace Numbered

variable {history : ManagerHistory}

theorem identified (numbered : Numbered ManagerHistory.Issued history) : history.Identified := by
  intro ticket id issued
  refine numbered.tracked.denotes issued ?_
  rintro name job member rfl _
  exact Option.some.inj ((numbered.tracked.own name job member).symm.trans issued)

theorem identifiedInPlace (numbered : Numbered ManagerHistory.Given history)
    : history.IdentifiedInPlace :=
  fun _ _ given => numbered.tracked.denotes given (fun _ _ _ _ under => under)

/-- A call that keeps to the identifiers that were returned, by cases on the call. -/
theorem after_issued (step : ManagerStep) (numbered : Numbered ManagerHistory.Issued history)
    (keeps : KeepsIds step history)
    : Numbered ManagerHistory.Issued (ManagerHistory.after step history) := by
  obtain ⟨env, request⟩ := step
  cases request with
  | enqueueJob jobData options => exact numbered.enqueued issued_enqueued keeps
  | enqueueDelayedJob jobData delayMs options => exact numbered.enqueued issued_enqueued keeps
  | operate operation jobId =>
      cases operation with
      | cancelJob => exact numbered.operated_issued numbered.tracked.cancelled
      | move move => exact numbered.moved_issued keeps

theorem keepsIds (step : ManagerStep) (numbered : Numbered ManagerHistory.Issued history)
    (identified : (ManagerHistory.after step history).Identified)
    : KeepsIds step history := by
  obtain ⟨env, request⟩ := step
  cases request with
  | enqueueJob jobData options => exact numbered.freshId issued_enqueued identified
  | enqueueDelayedJob jobData delayMs options => exact numbered.freshId issued_enqueued identified
  | operate operation jobId =>
      cases operation with
      | cancelJob => trivial
      | move move => exact numbered.keepsId identified

/-- A call that gives no identifier to two jobs, by cases on the call. -/
theorem after_given (step : ManagerStep) (numbered : Numbered ManagerHistory.Given history)
    (separates : SeparatesIds step history)
    : Numbered ManagerHistory.Given (ManagerHistory.after step history) := by
  obtain ⟨env, request⟩ := step
  cases request with
  | enqueueJob jobData options => exact numbered.enqueued given_enqueued separates
  | enqueueDelayedJob jobData delayMs options => exact numbered.enqueued given_enqueued separates
  | operate operation jobId =>
      cases operation with
      | cancelJob => exact numbered.operated_kept numbered.tracked.cancelled
      | move move => exact numbered.moved_given separates

theorem separatesIds (step : ManagerStep) (numbered : Numbered ManagerHistory.Given history)
    (identified : (ManagerHistory.after step history).IdentifiedInPlace)
    : SeparatesIds step history := by
  obtain ⟨env, request⟩ := step
  cases request with
  | enqueueJob jobData options => exact numbered.freshId given_enqueued identified
  | enqueueDelayedJob jobData delayMs options => exact numbered.freshId given_enqueued identified
  | operate operation jobId =>
      cases operation with
      | cancelJob => trivial
      | move move => exact separatesId identified

theorem empty {named : ManagerHistory → Nat → String → Prop}
    (unnamed : ∀ ticket id, ¬named .empty ticket id)
    : Numbered named .empty := by
  have noJob (name : ManagedQueue) (job : ManagedJob)
      : job ∉ (ManagerHistory.empty.world.queue name).jobs := by
    cases name <;> exact List.not_mem_nil
  constructor
  · constructor
    · exact fun ticket _ id found => absurd found (unnamed ticket id)
    · exact fun name job member => absurd member (noJob name job)
    · exact fun name job member => absurd member (noJob name job)
    · exact fun name _ job _ member => absurd member (noJob name job)
  · exact fun ticket id found => absurd found (unnamed ticket id)

end Numbered

/-- In a sequence of calls, every identifier that was returned denotes its job at all times,
wherever a move takes it, if and only if every enqueue gives an identifier that was not returned
before and every move gives its job the identifier it has. Every identifier denotes the job it was
given to, as long as the job is queued under it, if and only if none is given to two jobs.
-/
theorem calls_identified_iff (steps : List ManagerStep)
    : (Throughout ManagerHistory.after ManagerHistory.Identified steps .empty
        ↔ EveryStep ManagerHistory.after KeepsIds steps .empty)
      ∧ (Throughout ManagerHistory.after ManagerHistory.IdentifiedInPlace steps .empty
        ↔ EveryStep ManagerHistory.after SeparatesIds steps .empty) := by
  constructor
  · exact throughout_iff_everyStep (fun _ => Numbered.identified)
      (fun step _ => Numbered.after_issued step) (fun step _ => Numbered.keepsIds step) steps
      (Numbered.empty (fun _ _ => nofun))
  · exact throughout_iff_everyStep (fun _ => Numbered.identifiedInPlace)
      (fun step _ => Numbered.after_given step) (fun step _ => Numbered.separatesIds step) steps
      (Numbered.empty (fun _ _ => nofun))

/-- A job of the main queue and a delayed one. -/
def twoEnqueued : ManagerHistory :=
  stateAfter ManagerHistory.after
    [(.quiet, .enqueueJob ⟨[("deliveryId", .string "d1"), ("payload", .null)], []⟩ {}),
      (.quiet, .enqueueDelayedJob ⟨[("deliveryId", .string "d2"), ("payload", .null)], []⟩ 5000 {})]
    .empty

/-- Both are number one of their queue, and what is returned for the delayed job denotes the other
one.
-/
theorem enqueued_jobs_share_id
    : twoEnqueued.issued = ["1", "1"]
      ∧ ¬twoEnqueued.Identified
      ∧ ¬twoEnqueued.IdentifiedInPlace := by
  have issued : twoEnqueued.issued = ["1", "1"] := by decide +kernel
  have given : twoEnqueued.given = [(0, "1"), (1, "1")] := by decide +kernel
  have inMain : ∃ job ∈ (twoEnqueued.world.queue .main).jobs, job.id.text = "1" := by
    decide +kernel
  obtain ⟨job, member, text⟩ := inMain
  refine ⟨issued, fun identified => ?_, fun identified => ?_⟩
  · have first := identified 0 "1" (congrArg (fun issued => issued[0]?) issued)
    have second := identified 1 "1" (congrArg (fun issued => issued[1]?) issued)
    exact absurd (first.ticket_eq second member text) (by decide)
  · have first := identified 0 "1" (by rw [ManagerHistory.Given, given]; decide)
    have second := identified 1 "1" (by rw [ManagerHistory.Given, given]; decide)
    exact absurd (first.ticket_eq second member text) (by decide)

end QueueForge.Queue
