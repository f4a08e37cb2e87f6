import QueueForge.Queue.QueueManager

/-! What the calls of the manager do to the queues. An enqueue adds a job or nothing; a move leaves
the queues as they are, takes a job out, or takes it out and adds it again.
-/

namespace QueueForge.Queue

open QueueForge.Async QueueForge.Js
open QueueManager (findIn findJob moveJob annotate)
open JobSerializer (copyMembers parseMembers)

/-- A record as the program reads it. -/
def readBack (record : JobRecord) : JobData :=
  ⟨ownMembers (parseMembers record), inheritedMembers (parseMembers record)⟩

theorem deserialize_some (record : JobRecord)
    : JobSerializer.deserialize (some record) = .ok (readBack record) :=
  rfl

theorem serialize_readBack (record : JobRecord)
    : JobSerializer.serialize (readBack record) = copyMembers record := by
  have unfolded
      : JobSerializer.serialize (readBack record) = do
          let cloned ← copyMembers record
          return ownMembers cloned :=
    rfl
  rw [unfolded]
  cases written : copyMembers record with
  | error error => rfl
  | ok copied => exact congrArg Except.ok (JobSerializer.ownMembers_copied written)

/-- The record an enqueue adds. -/
def encoded (jobData : JobData) : Settled Thrown JobRecord := do
  JobSerializer.validateJobData jobData.value
  JobSerializer.serialize jobData

variable {env : ManagerEnvironment} {world : ManagerWorld} {jobId : String}

/-- An enqueue throws and adds nothing, or adds the record and returns the next identifier. -/
theorem run_enqueue (env : ManagerEnvironment) (world : ManagerWorld) (queue : ManagedQueue)
    (failure : String) (ticket : Nat) (jobData : JobData) (options : AddOptions)
    : (∃ error thrown,
        (encoded jobData = .error error ∨ env.fault world (.add queue) = some error)
        ∧ (QueueManager.enqueue queue failure ticket jobData options).run (managerSystem env) world
          = (.error thrown, world))
      ∨ ∃ record name,
          encoded jobData = .ok record
          ∧ env.fault world (.add queue) = none
          ∧ (QueueManager.enqueue queue failure ticket jobData options).run (managerSystem env)
              world
            = (.ok ((world.queue queue).nextId options.jobId).text,
                world.setQueue queue
                  ((world.queue queue).add name ⟨ticket, some record⟩ options.delay
                    options.jobId)) := by
  have rethrown (error : Thrown)
      : ∃ thrown,
          Program.run (managerSystem env)
            (if isValidationError error then
              throw error
            else
              throw (infrastructureError (failure ++ (error.message.getD "undefined")))
              : ManagerProgram String)
            world
          = (.error thrown, world) := by
    split <;> exact ⟨_, rfl⟩
  simp only [QueueManager.enqueue, Program.bind_eq, Program.tryCatch_eq, Program.run_catchError,
    Program.run_bind, Program.run_ofResult, run_awaitManager, managerSystem, guarded, encoded]
  cases JobSerializer.validateJobData jobData.value with
  | error error =>
      obtain ⟨thrown, failed⟩ := rethrown error
      exact .inl ⟨error, thrown, .inl rfl, failed⟩
  | ok _ =>
      cases JobSerializer.serialize jobData with
      | error error =>
          obtain ⟨thrown, failed⟩ := rethrown error
          exact .inl ⟨error, thrown, .inl rfl, failed⟩
      | ok record =>
          cases fault : env.fault world (.add queue) with
          | some error =>
              obtain ⟨thrown, failed⟩ := rethrown error
              refine .inl ⟨error, thrown, .inr rfl, ?_⟩
              simp only [fault]
              exact failed
          | none =>
              refine .inr ⟨record, env.jobName (jobData.value.get "deliveryId"), rfl, rfl, ?_⟩
              simp only [fault]

-----------------------------------------------------------------------------------------
-- The search
-----------------------------------------------------------------------------------------

/-- What a search settles with. -/
def lookup (env : ManagerEnvironment) (world : ManagerWorld) (jobId : String)
    : List ManagedQueue → Settled Thrown (Option (ManagedJob × ManagedQueue))
  | [] => .ok none
  | queue :: rest =>
      match env.fault world (.fromId queue), (world.queue queue).fromId jobId with
      | some error, _ => .error error
      | none, some job => .ok (some (job, queue))
      | none, none => lookup env world jobId rest

/-- A search leaves the queues as they are, by induction on the queues it looks in. -/
theorem run_findIn (queues : List ManagedQueue)
    : (findIn queues jobId).run (managerSystem env) world
      = (lookup env world jobId queues, world) := by
  induction queues with
  | nil => rfl
  | cons queue rest ih =>
      simp only [findIn, Program.bind_eq, Program.run_bind, run_awaitManager, managerSystem,
        guarded, lookup]
      cases env.fault world (.fromId queue) with
      | some error => rfl
      | none =>
          cases (world.queue queue).fromId jobId with
          | some job => rfl
          | none => exact ih

theorem run_findJob
    : (findJob jobId).run (managerSystem env) world
      = (lookup env world jobId QueueManager.queues, world) :=
  run_findIn QueueManager.queues

/-- A job a search finds is in the queue it is found in, under the identifier. -/
theorem lookup_found {queues : List ManagedQueue} {job : ManagedJob} {queue : ManagedQueue}
    (found : lookup env world jobId queues = .ok (some (job, queue)))
    : (world.queue queue).fromId jobId = some job := by
  induction queues with
  | nil => cases found
  | cons first rest ih =>
      rw [lookup] at found
      split at found
      · cases found
      · rename_i here
        cases found
        exact here
      · exact ih found

theorem run_getJob
    : (QueueManager.getJob jobId).run (managerSystem env) world
      = ((lookup env world jobId QueueManager.queues).map (Option.map Prod.fst), world) := by
  simp only [QueueManager.getJob, Program.bind_eq, Program.run_bind, run_findJob]
  cases lookup env world jobId QueueManager.queues <;> rfl

/-- The queues after a job is removed. -/
def ManagerWorld.without (world : ManagerWorld) (queue : ManagedQueue) (job : ManagedJob)
    : ManagerWorld :=
  world.setQueue queue ((world.queue queue).remove job.id)

/-- A cancellation removes the job the search finds, or leaves the queues as they are: then it finds
no job, or its removal fails.
-/
theorem run_cancelJob (env : ManagerEnvironment) (world : ManagerWorld) (jobId : String)
    : (∀ job queue,
        lookup env world jobId QueueManager.queues = .ok (some (job, queue))
        → env.fault world (.remove queue) ≠ none)
      ∧ ((QueueManager.cancelJob jobId).run (managerSystem env) world).2 = world
      ∨ ∃ job queue,
          lookup env world jobId QueueManager.queues = .ok (some (job, queue))
          ∧ ((QueueManager.cancelJob jobId).run (managerSystem env) world).2
            = world.without queue job := by
  simp only [QueueManager.cancelJob, Program.bind_eq, Program.run_bind, run_findJob]
  cases found : lookup env world jobId QueueManager.queues with
  | error error => exact .inl ⟨nofun, rfl⟩
  | ok hit =>
      rcases hit with _ | ⟨job, queue⟩
      · exact .inl ⟨nofun, rfl⟩
      · simp only [run_awaitManager, managerSystem, guarded]
        cases removed : env.fault world (.remove queue) with
        | some error =>
            refine .inl ⟨?_, rfl⟩
            rintro _ _ ⟨⟩ accepted
            cases removed.symm.trans accepted
        | none => exact .inr ⟨job, queue, rfl, rfl⟩

-----------------------------------------------------------------------------------------
-- The job a move takes out
-----------------------------------------------------------------------------------------

/-- The search finds the job, its data are read, and its removal succeeds. -/
structure TakesOut (env : ManagerEnvironment) (world : ManagerWorld) (jobId : String)
    (job : ManagedJob) (queue : ManagedQueue) (record : JobRecord)
    : Prop where
  found : lookup env world jobId QueueManager.queues = .ok (some (job, queue))
  stored : job.data.record = some record
  removed : env.fault world (.remove queue) = none

theorem TakesOut.unique {job other : ManagedJob} {queue otherQueue : ManagedQueue}
    {record otherRecord : JobRecord} (taken : TakesOut env world jobId job queue record)
    (otherTaken : TakesOut env world jobId other otherQueue otherRecord)
    : job = other ∧ queue = otherQueue ∧ record = otherRecord := by
  have same := taken.found.symm.trans otherTaken.found
  injection same with same
  injection same with same
  injection same with sameJob sameQueue
  subst sameJob
  exact ⟨rfl, sameQueue, Option.some.inj (taken.stored.symm.trans otherTaken.stored)⟩

theorem TakesOut.member {job : ManagedJob} {queue : ManagedQueue} {record : JobRecord}
    (taken : TakesOut env world jobId job queue record)
    : job ∈ (world.queue queue).jobs ∧ job.id.text = jobId :=
  BullQueue.fromId_found (lookup_found taken.found)

/-- A move goes on with the data of the job it took out. -/
theorem run_moveJob_takesOut {job : ManagedJob} {queue : ManagedQueue} {record : JobRecord}
    (taken : TakesOut env world jobId job queue record)
    (next : Nat → JobData → ManagerProgram Unit)
    : (moveJob jobId next).run (managerSystem env) world
      = (next job.data.ticket (readBack record)).run (managerSystem env)
          (world.without queue job) := by
  simp only [moveJob, Program.bind_eq, Program.run_bind, run_findJob, taken.found,
    Program.run_ofResult, taken.stored, deserialize_some, run_awaitManager, managerSystem,
    guarded, taken.removed, ManagerWorld.without]

/-- A move that takes no job out leaves the queues as they are. -/
theorem run_moveJob_idle
    (idle : ∀ job queue record, ¬TakesOut env world jobId job queue record)
    (next : Nat → JobData → ManagerProgram Unit)
    : ((moveJob jobId next).run (managerSystem env) world).2 = world := by
  simp only [moveJob, Program.bind_eq, Program.run_bind, run_findJob]
  cases found : lookup env world jobId QueueManager.queues with
  | error error => rfl
  | ok hit =>
      cases hit with
      | none => rfl
      | some hit =>
          obtain ⟨job, queue⟩ := hit
          simp only [Program.run_bind, Program.run_ofResult]
          cases stored : job.data.record with
          | none => rfl
          | some record =>
              simp only [deserialize_some, run_awaitManager, managerSystem, guarded]
              cases removed : env.fault world (.remove queue) with
              | some error => rfl
              | none => exact absurd ⟨found, stored, removed⟩ (idle job queue record)

-----------------------------------------------------------------------------------------
-- The two moves
-----------------------------------------------------------------------------------------

inductive ManagerMove where
  | toDLQ (reason : String)
  | toDelayed (delayMs : Number)

namespace ManagerMove

/-- The queue a move adds to. -/
def target : ManagerMove → ManagedQueue
  | toDLQ _ => .dlq
  | toDelayed _ => .delayed

def program (move : ManagerMove) (jobId : String) : ManagerProgram Unit :=
  match move with
  | toDLQ reason => QueueManager.moveToDLQ jobId reason
  | toDelayed delayMs => QueueManager.moveToDelayed jobId delayMs

/-- How a move goes on with the data of the job it took out. -/
def next (move : ManagerMove) (ticket : Nat) (data : JobData) : ManagerProgram Unit :=
  match move with
  | toDLQ reason => do
      let serialized ← Program.ofResult (JobSerializer.serialize data)
      let now ← awaitManager .now
      let _ ← awaitManager
        (.add .dlq (data.value.get "deliveryId") ⟨ticket, some (annotate serialized reason now)⟩ {})
      pure ()
  | toDelayed delayMs => do
      let _ ← QueueManager.enqueueDelayedJob ticket data delayMs {}
      pure ()

theorem program_eq (move : ManagerMove) (jobId : String)
    : move.program jobId = moveJob jobId move.next := by
  cases move <;> rfl

/-- The record a move adds for a record. Only the delayed queue has it validated. -/
def written (move : ManagerMove) (record : JobRecord) (now : Int) : Settled Thrown JobRecord :=
  match move with
  | toDLQ reason => (copyMembers record).map (fun copied => annotate copied reason now)
  | toDelayed _ => encoded (readBack record)

/-- A move adds the record it writes, or leaves the queues as they are. -/
theorem run_next (move : ManagerMove) (env : ManagerEnvironment) (rest : ManagerWorld)
    (ticket : Nat) (record : JobRecord)
    : (∃ error,
        (move.written record (env.clock rest) = .error error
          ∨ env.fault rest (.add move.target) = some error)
        ∧ ((move.next ticket (readBack record)).run (managerSystem env) rest).2 = rest)
      ∨ ∃ copied name delay,
          move.written record (env.clock rest) = .ok copied
          ∧ env.fault rest (.add move.target) = none
          ∧ ((move.next ticket (readBack record)).run (managerSystem env) rest).2
            = rest.setQueue move.target
                ((rest.queue move.target).add name ⟨ticket, some copied⟩ delay) := by
  cases move with
  | toDLQ reason =>
      simp only [next, Program.bind_eq, Program.run_bind, Program.run_ofResult, serialize_readBack,
        run_awaitManager, managerSystem, guarded, written, target]
      cases copyMembers record with
      | error error => exact .inl ⟨error, .inl rfl, rfl⟩
      | ok copied =>
          cases fault : env.fault rest (.add .dlq) with
          | some error => exact .inl ⟨error, .inr rfl, by simp only [fault]⟩
          | none => exact .inr ⟨_, _, _, rfl, rfl, by simp only [fault]; rfl⟩
  | toDelayed delayMs =>
      simp only [next, QueueManager.enqueueDelayedJob, Program.bind_eq, Program.run_bind]
      rcases run_enqueue env rest .delayed "Failed to enqueue delayed job: " ticket
          (readBack record) { delay := delayMs } with
        ⟨error, thrown, failed, result⟩ | ⟨copied, name, wrote, accepted, result⟩
      · exact .inl ⟨error, failed, by rw [result]⟩
      · exact .inr ⟨copied, name, delayMs, wrote, accepted, by rw [result]; rfl⟩

/-- What a move does to the queues. -/
inductive Moved (env : ManagerEnvironment) (world : ManagerWorld) (jobId : String)
    (move : ManagerMove)
    : ManagerWorld → Prop
  | idle (nothing : ∀ job queue record, ¬TakesOut env world jobId job queue record)
    : Moved env world jobId move world
  | dropped {job queue record error} (taken : TakesOut env world jobId job queue record)
    (failed
      : move.written record (env.clock (world.without queue job)) = .error error
        ∨ env.fault (world.without queue job) (.add move.target) = some error)
    : Moved env world jobId move (world.without queue job)
  | added {job queue record copied} (name : String) (delay : Number)
    (taken : TakesOut env world jobId job queue record)
    (wrote : move.written record (env.clock (world.without queue job)) = .ok copied)
    (accepted : env.fault (world.without queue job) (.add move.target) = none)
    : Moved env world jobId move
        ((world.without queue job).setQueue move.target
          (((world.without queue job).queue move.target).add name
            ⟨job.data.ticket, some copied⟩ delay))

/-- Every move does one of these, whatever fails. -/
theorem moved (move : ManagerMove) (env : ManagerEnvironment) (world : ManagerWorld)
    (jobId : String)
    : Moved env world jobId move ((move.program jobId).run (managerSystem env) world).2 := by
  rw [program_eq]
  by_cases nothing : ∀ job queue record, ¬TakesOut env world jobId job queue record
  · rw [run_moveJob_idle nothing]
    exact .idle nothing
  · simp only [not_forall, not_not] at nothing
    obtain ⟨job, queue, record, taken⟩ := nothing
    rw [run_moveJob_takesOut taken]
    rcases run_next move env (world.without queue job) job.data.ticket record with
      ⟨error, failed, kept⟩ | ⟨copied, name, delay, wrote, accepted, result⟩
    · rw [kept]
      exact .dropped taken failed
    · rw [result]
      exact .added name delay taken wrote accepted

/-- A move whose record is written and accepted adds it to its queue. -/
theorem adds {move : ManagerMove} {job : ManagedJob} {queue : ManagedQueue}
    {record copied : JobRecord} (taken : TakesOut env world jobId job queue record)
    (wrote : move.written record (env.clock (world.without queue job)) = .ok copied)
    (accepted : env.fault (world.without queue job) (.add move.target) = none)
    : ∃ name delay,
        ((move.program jobId).run (managerSystem env) world).2
        = (world.without queue job).setQueue move.target
            (((world.without queue job).queue move.target).add name
              ⟨job.data.ticket, some copied⟩ delay) := by
  rw [program_eq, run_moveJob_takesOut taken]
  rcases run_next move env (world.without queue job) job.data.ticket record with
    ⟨error, failed, _⟩ | ⟨other, name, delay, written, _, result⟩
  · rcases failed with failed | failed
    · cases wrote.symm.trans failed
    · cases accepted.symm.trans failed
  · cases wrote.symm.trans written
    exact ⟨name, delay, result⟩

end ManagerMove

end QueueForge.Queue
