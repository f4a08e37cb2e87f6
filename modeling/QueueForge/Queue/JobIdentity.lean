import QueueForge.Queue.ManagerEffects

/-! What an identifier denotes: the job that is read, cancelled and moved under it. -/

namespace QueueForge.Queue

open QueueForge.Async QueueForge.Js

-----------------------------------------------------------------------------------------
-- The jobs of the queues
-----------------------------------------------------------------------------------------

namespace ManagerWorld

variable (world : ManagerWorld) {name other : ManagedQueue} {queue : BullQueue ManagedData}
  {job found : ManagedJob}

@[simp] theorem queue_setQueue_self : (world.setQueue name queue).queue name = queue := by
  cases name <;> rfl

theorem queue_setQueue_other (apart : other ≠ name)
    : (world.setQueue name queue).queue other = world.queue other := by
  cases name <;> cases other <;> first | rfl | exact absurd rfl apart

theorem mem_without
    : found ∈ ((world.without name job).queue other).jobs
      ↔ found ∈ (world.queue other).jobs ∧ (other = name → found.id ≠ job.id) := by
  rw [without]
  by_cases same : other = name
  · subst same
    rw [queue_setQueue_self, BullQueue.remove, List.mem_filter]
    simp
  · rw [queue_setQueue_other _ same]
    simp [same]

/-- A removal changes no counter. -/
theorem nextId_without (name other : ManagedQueue) (job : ManagedJob) (option : Option String)
    : ((world.without name job).queue other).nextId option = (world.queue other).nextId option := by
  rw [without]
  by_cases same : other = name
  · subst same
    rw [queue_setQueue_self]
    rfl
  · rw [queue_setQueue_other _ same]

theorem mem_added {label : String} {data : ManagedData} {delay : Number} {option : Option String}
    (member
      : found ∈ ((world.setQueue name ((world.queue name).add label data delay option)).queue
          other).jobs)
    : found ∈ (world.queue other).jobs
      ∨ other = name ∧ found.data = data ∧ found.id = (world.queue name).nextId option := by
  by_cases same : other = name
  · subst same
    rw [queue_setQueue_self] at member
    rcases BullQueue.mem_add member with old | new
    · exact .inl old
    · exact .inr ⟨rfl, new⟩
  · rw [queue_setQueue_other _ same] at member
    exact .inl member

/-- The jobs of a queue that do not belong to the ticket. -/
def others (ticket : Nat) (name : ManagedQueue) : List ManagedJob :=
  (world.queue name).jobs.filter (fun job => job.data.ticket ≠ ticket)

theorem mem_added_self (name : ManagedQueue) (label : String) (data : ManagedData) (delay : Number)
    : ⟨.auto ((world.queue name).counter + 1), label, data, delay⟩
      ∈ ((world.setQueue name ((world.queue name).add label data delay)).queue name).jobs := by
  rw [queue_setQueue_self, BullQueue.jobs_add_auto]
  exact List.mem_append_right _ List.mem_cons_self

/-- The removal of a job concerns its ticket only. -/
theorem others_without (member : job ∈ (world.queue name).jobs)
    : (world.without name job).others job.data.ticket other
      = world.others job.data.ticket other := by
  rw [others, others, without]
  by_cases same : other = name
  · subst same
    rw [queue_setQueue_self, BullQueue.remove, List.filter_filter]
    refine List.filter_congr (fun found inQueue => ?_)
    by_cases ticket : found.data.ticket = job.data.ticket
    · simp [ticket]
    · have apart : found.id ≠ job.id := fun same =>
        ticket (BullQueue.eq_of_id_eq inQueue member same ▸ rfl)
      simp [ticket, apart]
  · rw [queue_setQueue_other _ same]

/-- The addition of a job concerns its ticket only. -/
theorem others_added (name other : ManagedQueue) (label : String) (data : ManagedData)
    (delay : Number)
    : (world.setQueue name ((world.queue name).add label data delay)).others data.ticket other
      = world.others data.ticket other := by
  rw [others, others]
  by_cases same : other = name
  · subst same
    rw [queue_setQueue_self, BullQueue.jobs_add_auto, List.filter_append,
      List.filter_cons_of_neg (by simp)]
    exact List.append_nil _
  · rw [queue_setQueue_other _ same]

end ManagerWorld

-----------------------------------------------------------------------------------------
-- Operations on an identifier
-----------------------------------------------------------------------------------------

/-- The operations that change the job of an identifier. -/
inductive IdOperation where
  | cancelJob
  | move (move : ManagerMove)

def IdOperation.program (operation : IdOperation) (jobId : String) : ManagerProgram Unit :=
  match operation with
  | cancelJob => QueueManager.cancelJob jobId
  | move chosen => chosen.program jobId

/-- The queues after an operation. -/
def IdOperation.after (operation : IdOperation) (env : ManagerEnvironment) (world : ManagerWorld)
    (jobId : String)
    : ManagerWorld :=
  ((operation.program jobId).run (managerSystem env) world).2

/-- The identifier denotes the job of the ticket as long as it is queued and meant, and never another
job.
-/
structure Denotes (world : ManagerWorld) (ticket : Nat) (id : String)
    (meant : ManagedJob → Prop)
    : Prop where
  /-- `getJob` returns no other job. -/
  reads
    : ∀ env job,
        ((QueueManager.getJob id).run (managerSystem env) world).1 = .ok (some job)
        → job.data.ticket = ticket
  /-- `getJob` returns the job unless a queue fails. -/
  finds
    : ∀ env name job,
        (∀ name, env.fault world (.fromId name) = none)
        → job ∈ (world.queue name).jobs
        → job.data.ticket = ticket
        → meant job
        → ((QueueManager.getJob id).run (managerSystem env) world).1 = .ok (some job)
  /-- `cancelJob` and the moves take the job out of its queue unless a queue fails. -/
  acts
    : ∀ env (operation : IdOperation) name job,
        (∀ step, env.fault world step = none)
        → job ∈ (world.queue name).jobs
        → job.data.ticket = ticket
        → meant job
        → job ∉ ((operation.after env world id).queue name).jobs
  /-- They leave every other job as it is. -/
  spares
    : ∀ env (operation : IdOperation) name,
        (operation.after env world id).others ticket name = world.others ticket name

/-- What the queues hold when an identifier names one ticket at most: every job is named by its
identifier, and no two jobs have one ticket.
-/
structure Tracked (world : ManagerWorld) (named : Nat → String → Prop) : Prop where
  apart : ∀ ticket other id, named ticket id → named other id → ticket = other
  own : ∀ name job, job ∈ (world.queue name).jobs → named job.data.ticket job.id.text
  recorded : ∀ name job, job ∈ (world.queue name).jobs → job.data.record.isSome = true
  single
    : ∀ name other job found,
        job ∈ (world.queue name).jobs
        → found ∈ (world.queue other).jobs
        → job.data.ticket = found.data.ticket
        → name = other ∧ job = found

variable {env : ManagerEnvironment} {world : ManagerWorld} {named : Nat → String → Prop}
  {jobId : String} {meant : ManagedJob → Prop}

/-- A search that does not fail finds a job if there is one, by induction on the queues. -/
theorem lookup_of_mem {queues : List ManagedQueue} {name : ManagedQueue} {job : ManagedJob}
    (quiet : ∀ name, env.fault world (.fromId name) = none) (searched : name ∈ queues)
    (member : job ∈ (world.queue name).jobs)
    : ∃ found other, lookup env world job.id.text queues = .ok (some (found, other)) := by
  induction queues with
  | nil => exact absurd searched List.not_mem_nil
  | cons first rest ih =>
      rw [lookup, quiet first]
      cases hit : (world.queue first).fromId job.id.text with
      | some found => exact ⟨found, first, rfl⟩
      | none =>
          rcases List.mem_cons.mp searched with rfl | later
          · have missing := List.find?_eq_none.mp hit job member
            exact absurd (decide_eq_true rfl) missing
          · exact ih later

theorem mem_queues (name : ManagedQueue) : name ∈ QueueManager.queues := by
  cases name <;> decide

/-- An identifier of a queued job denotes the job of one ticket only. -/
theorem Denotes.ticket_eq {ticket other : Nat} (first : Denotes world ticket jobId meant)
    (second : Denotes world other jobId meant) {name : ManagedQueue} {job : ManagedJob}
    (member : job ∈ (world.queue name).jobs) (text : job.id.text = jobId)
    : ticket = other := by
  subst text
  obtain ⟨found, source, hit⟩ :=
    @lookup_of_mem .quiet world _ name job (fun _ => rfl) (mem_queues name) member
  have returned
      : ((QueueManager.getJob job.id.text).run (managerSystem .quiet) world).1
        = .ok (some found) := by
    rw [run_getJob, hit]
    rfl
  exact (first.reads .quiet found returned).symm.trans (second.reads .quiet found returned)

theorem getJob_found {job : ManagedJob}
    (returned
      : ((QueueManager.getJob jobId).run (managerSystem env) world).1 = .ok (some job))
    : ∃ name, lookup env world jobId QueueManager.queues = .ok (some (job, name)) := by
  rw [run_getJob] at returned
  cases hit : lookup env world jobId QueueManager.queues with
  | error error =>
      rw [hit] at returned
      cases returned
  | ok found =>
      rw [hit] at returned
      rcases found with _ | ⟨found, name⟩
      · cases returned
      · cases returned
        exact ⟨name, rfl⟩

/-- An operation takes out the job the search finds, and may add one for its ticket again. It does
neither when the job has no data or its removal fails.
-/
inductive Changed (env : ManagerEnvironment) (world : ManagerWorld) (jobId : String)
    : ManagerWorld → Prop
  | idle
    (nothing
      : ∀ job name,
          lookup env world jobId QueueManager.queues = .ok (some (job, name))
          → job.data.record.isSome = true
          → env.fault world (.remove name) ≠ none)
    : Changed env world jobId world
  | removed {job name}
    (found : lookup env world jobId QueueManager.queues = .ok (some (job, name)))
    : Changed env world jobId (world.without name job)
  | readded {job name record} (target : ManagedQueue) (label : String) (delay : Number)
    (found : lookup env world jobId QueueManager.queues = .ok (some (job, name)))
    : Changed env world jobId
        ((world.without name job).setQueue target
          (((world.without name job).queue target).add label ⟨job.data.ticket, some record⟩
            delay))

theorem changed (operation : IdOperation) (env : ManagerEnvironment) (world : ManagerWorld)
    (jobId : String)
    : Changed env world jobId (operation.after env world jobId) := by
  cases operation with
  | cancelJob =>
      rw [IdOperation.after, IdOperation.program]
      rcases run_cancelJob env world jobId with ⟨idle, result⟩ | ⟨job, name, found, result⟩
      · rw [result]
        exact .idle (fun job name found _ => idle job name found)
      · rw [result]
        exact .removed found
  | move chosen =>
      have effect := chosen.moved env world jobId
      rw [IdOperation.after, IdOperation.program]
      generalize ((chosen.program jobId).run (managerSystem env) world).2 = after at effect ⊢
      cases effect with
      | idle nothing =>
          refine .idle (fun job name found recorded failed => ?_)
          obtain ⟨record, stored⟩ := Option.isSome_iff_exists.mp recorded
          exact nothing job name record ⟨found, stored, failed⟩
      | dropped taken failed => exact .removed taken.found
      | added label delay taken wrote accepted =>
          exact .readded chosen.target label delay taken.found

namespace Tracked

/-- One more identifier is given to a ticket. -/
theorem name (tracked : Tracked world named) {wider : Nat → String → Prop} {ticket : Nat}
    {id : String} (alone : ∀ other, named other id → other = ticket)
    (same : ∀ other text, wider other text ↔ named other text ∨ other = ticket ∧ text = id)
    : Tracked world wider where
  apart := by
    intro first second text left right
    rcases (same first text).mp left with left | ⟨rfl, rfl⟩
    · rcases (same second text).mp right with right | ⟨rfl, rfl⟩
      · exact tracked.apart first second text left right
      · exact alone first left
    · rcases (same second text).mp right with right | ⟨rfl, _⟩
      · exact (alone second right).symm
      · rfl
  own := fun name job member => (same _ _).mpr (.inl (tracked.own name job member))
  recorded := tracked.recorded
  single := tracked.single

/-- Fewer jobs are tracked as well. -/
theorem without (tracked : Tracked world named) (name : ManagedQueue) (job : ManagedJob)
    : Tracked (world.without name job) named where
  apart := tracked.apart
  own := fun other found left => tracked.own other found (world.mem_without.mp left).1
  recorded := fun other found left => tracked.recorded other found (world.mem_without.mp left).1
  single := fun first second job found left right same =>
    tracked.single first second job found (world.mem_without.mp left).1
      (world.mem_without.mp right).1 same

/-- A job that is added under a name of its ticket, which no queued job has. -/
theorem added (tracked : Tracked world named) {name : ManagedQueue} {label : String}
    {ticket : Nat} {record : JobRecord} {delay : Number} {option : Option String}
    (denoted : named ticket ((world.queue name).nextId option).text)
    (fresh : ∀ other found, found ∈ (world.queue other).jobs → found.data.ticket ≠ ticket)
    : Tracked
        (world.setQueue name
          ((world.queue name).add label ⟨ticket, some record⟩ delay option))
        named := by
  have cases_of {other : ManagedQueue} {found : ManagedJob} := @world.mem_added name other found
    label ⟨ticket, some record⟩ delay option
  refine ⟨tracked.apart, ?_, ?_, ?_⟩
  · intro other found member
    rcases cases_of member with old | ⟨_, data, id⟩
    · exact tracked.own other found old
    · rw [data, id]
      exact denoted
  · intro other found member
    rcases cases_of member with old | ⟨_, data, _⟩
    · exact tracked.recorded other found old
    · rw [data]
      rfl
  · intro first second job found left right same
    rcases cases_of left with leftOld | ⟨rfl, leftData, leftId⟩
    · rcases cases_of right with rightOld | ⟨_, rightData, _⟩
      · exact tracked.single first second job found leftOld rightOld same
      · exact absurd (same.trans (by rw [rightData])) (fresh first job leftOld)
    · rcases cases_of right with rightOld | ⟨rfl, _, rightId⟩
      · exact absurd (same.symm.trans (by rw [leftData])) (fresh second found rightOld)
      · exact ⟨rfl, BullQueue.eq_of_id_eq left right (leftId.trans rightId.symm)⟩

/-- A job that is taken out leaves no job of its ticket. -/
theorem gone (tracked : Tracked world named) {name other : ManagedQueue} {job found : ManagedJob}
    (member : job ∈ (world.queue name).jobs)
    (left : found ∈ ((world.without name job).queue other).jobs)
    : found.data.ticket ≠ job.data.ticket := by
  intro same
  obtain ⟨inQueue, kept⟩ := world.mem_without.mp left
  obtain ⟨rfl, rfl⟩ := tracked.single other name found job inQueue member same
  exact kept rfl rfl

/-- The job a search finds under a name belongs to the ticket. -/
theorem found_ticket (tracked : Tracked world named) {ticket : Nat} (denoted : named ticket jobId)
    {name : ManagedQueue} {job : ManagedJob}
    (found : lookup env world jobId QueueManager.queues = .ok (some (job, name)))
    : job.data.ticket = ticket := by
  obtain ⟨member, text⟩ := BullQueue.fromId_found (lookup_found found)
  have own := tracked.own name job member
  rw [text] at own
  exact tracked.apart _ _ jobId own denoted

/-- A tracked job is found under its identifier. -/
theorem found_job (tracked : Tracked world named) {name : ManagedQueue} {job : ManagedJob}
    (quiet : ∀ name, env.fault world (.fromId name) = none)
    (member : job ∈ (world.queue name).jobs)
    : lookup env world job.id.text QueueManager.queues = .ok (some (job, name)) := by
  obtain ⟨found, other, hit⟩ := lookup_of_mem quiet (mem_queues name) member
  have ticket := tracked.found_ticket (tracked.own name job member) hit
  obtain ⟨inQueue, _⟩ := BullQueue.fromId_found (lookup_found hit)
  obtain ⟨rfl, rfl⟩ := tracked.single other name found job inQueue member ticket
  exact hit

/-- A name denotes the job of its ticket, where the jobs that are meant are queued under it. -/
theorem denotes (tracked : Tracked world named) {ticket : Nat} (denoted : named ticket jobId)
    (under
      : ∀ name job,
          job ∈ (world.queue name).jobs
          → job.data.ticket = ticket
          → meant job
          → job.id.text = jobId)
    : Denotes world ticket jobId meant where
  reads := fun env job returned => by
    obtain ⟨name, found⟩ := getJob_found returned
    exact tracked.found_ticket denoted found
  finds := fun env name job quiet member ticket means => by
    have found := tracked.found_job quiet member
    rw [under name job member ticket means] at found
    rw [run_getJob, found]
    rfl
  acts := fun env operation name job quiet member ticket means => by
    have hit := tracked.found_job (fun name => quiet (.fromId name)) member
    rw [under name job member ticket means] at hit
    have effect := changed operation env world jobId
    generalize operation.after env world jobId = after at effect ⊢
    cases effect with
    | idle nothing =>
        exact absurd (quiet (.remove name)) (nothing job name hit (tracked.recorded name job member))
    | removed taken =>
        cases hit.symm.trans taken
        exact fun left => (world.mem_without.mp left).2 rfl rfl
    | @readded _ _ record target label delay taken =>
        cases hit.symm.trans taken
        intro left
        rcases ManagerWorld.mem_added _ left with old | ⟨rfl, _, id⟩
        · exact (world.mem_without.mp old).2 rfl rfl
        · rw [world.nextId_without name name job] at id
          -- The number of the new job is past those in use.
          have used
              : (world.queue name).nextId none ∈ (world.queue name).jobs.map QueueJob.id :=
            id ▸ List.mem_map_of_mem member
          exact (world.queue name).next_unused used
  spares := fun env operation name => by
    have effect := changed operation env world jobId
    generalize operation.after env world jobId = after at effect ⊢
    cases effect with
    | idle => rfl
    | @removed job source found =>
        obtain ⟨member, _⟩ := BullQueue.fromId_found (lookup_found found)
        rw [← tracked.found_ticket denoted found]
        exact world.others_without member
    | @readded job source record target label delay found =>
        obtain ⟨member, _⟩ := BullQueue.fromId_found (lookup_found found)
        rw [← tracked.found_ticket denoted found]
        have readded := (world.without source job).others_added target name label
          ⟨job.data.ticket, some record⟩ delay
        exact readded.trans (world.others_without member)

end Tracked

end QueueForge.Queue
