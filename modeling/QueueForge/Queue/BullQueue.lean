import Mathlib.Data.List.Nodup
import QueueForge.Js.Values

/-! A job queue: the jobs that are not finished, in the order they were added. A job without
an identifier of its own gets the next number of the queue's counter.
-/

namespace QueueForge.Queue

open QueueForge.Js

/-- The identifier of a job. An identifier chosen by the caller is never a numeral. -/
inductive JobId where
  | auto (number : Nat)
  | custom (text : String)
deriving DecidableEq, Repr

/-- `job.id`. -/
def JobId.text : JobId → String
  | auto number => toString number
  | custom text => text

structure AddOptions where
  delay : Number := 0
  jobId : Option String := none
deriving DecidableEq

/-- A queued job with its data. -/
structure QueueJob (δ : Type) where
  id : JobId
  name : String
  data : δ
  delay : Number
deriving DecidableEq, Repr

/-- A queue has no two jobs under one identifier, and the counter has passed every number in
use.
-/
structure BullQueue (δ : Type) where
  jobs : List (QueueJob δ)
  counter : Nat
  distinct : (jobs.map QueueJob.id).Nodup
  issued : ∀ number, .auto number ∈ jobs.map QueueJob.id → number ≤ counter

namespace BullQueue

variable {δ : Type}

def empty : BullQueue δ := ⟨[], 0, .nil, nofun⟩

/-- A job whose identifier is not taken goes to the end of the queue. -/
def push (queue : BullQueue δ) (job : QueueJob δ) (counter : Nat)
    (unused : job.id ∉ queue.jobs.map QueueJob.id) (onward : queue.counter ≤ counter)
    (counted : ∀ number, job.id = .auto number → number ≤ counter)
    : BullQueue δ where
  jobs := queue.jobs ++ [job]
  counter := counter
  distinct := by
    rw [List.map_append, List.nodup_append]
    refine ⟨queue.distinct, List.nodup_singleton _, ?_⟩
    rintro id old _ new rfl
    exact unused (List.mem_singleton.mp new ▸ old)
  issued := by
    intro number taken
    rw [List.map_append, List.mem_append] at taken
    rcases taken with old | new
    · exact (queue.issued number old).trans onward
    · exact counted number (List.mem_singleton.mp new).symm

theorem next_unused (queue : BullQueue δ)
    : .auto (queue.counter + 1) ∉ queue.jobs.map QueueJob.id := by
  intro taken
  have passed := queue.issued _ taken
  omega

/-- `queue.add(name, data, { delay, jobId })`: a job identifier that is taken makes it a no-op.
-/
def add (queue : BullQueue δ) (name : String) (data : δ) (delay : Number := 0)
    (jobId : Option String := none)
    : BullQueue δ :=
  match jobId with
  | none =>
      queue.push ⟨.auto (queue.counter + 1), name, data, delay⟩ (queue.counter + 1)
        queue.next_unused (Nat.le_succ _) (fun _ same => (JobId.auto.inj same).symm.le)
  | some text =>
      if unused : .custom text ∉ queue.jobs.map QueueJob.id then
        queue.push ⟨.custom text, name, data, delay⟩ queue.counter unused (Nat.le_refl _) nofun
      else
        queue

/-- `job.remove()`. -/
def remove (queue : BullQueue δ) (id : JobId) : BullQueue δ where
  jobs := queue.jobs.filter (fun job => job.id ≠ id)
  counter := queue.counter
  distinct := (List.filter_sublist.map QueueJob.id).nodup queue.distinct
  issued := fun number taken =>
    queue.issued number ((List.filter_sublist.map QueueJob.id).subset taken)

/-- The identifier an added job gets. -/
def nextId (queue : BullQueue δ) (jobId : Option String) : JobId :=
  jobId.elim (.auto (queue.counter + 1)) .custom

/-- `Job.fromId(queue, id)`. -/
def fromId (queue : BullQueue δ) (id : String) : Option (QueueJob δ) :=
  queue.jobs.find? (fun job => job.id.text = id)

/-- The data of the jobs. -/
def contents (queue : BullQueue δ) : List δ :=
  queue.jobs.map QueueJob.data

variable {queue : BullQueue δ} {name : String} {data : δ} {delay : Number}

theorem jobs_add_auto
    : (queue.add name data delay none).jobs
      = queue.jobs ++ [⟨.auto (queue.counter + 1), name, data, delay⟩] :=
  rfl

theorem jobs_add_custom {text : String} (unused : .custom text ∉ queue.jobs.map QueueJob.id)
    : (queue.add name data delay (some text)).jobs
      = queue.jobs ++ [⟨.custom text, name, data, delay⟩] := by
  simp only [add, dif_pos unused, push]

theorem add_taken {text : String} (taken : .custom text ∈ queue.jobs.map QueueJob.id)
    : queue.add name data delay (some text) = queue := by
  simp only [add, dif_neg (not_not_intro taken)]

/-- An addition appends its data, or changes nothing. -/
theorem contents_add (queue : BullQueue δ) (name : String) (data : δ) (delay : Number)
    (jobId : Option String)
    : (queue.add name data delay jobId).contents = queue.contents
      ∨ (queue.add name data delay jobId).contents = queue.contents ++ [data] := by
  cases jobId with
  | none => exact .inr List.map_append
  | some text =>
      by_cases taken : .custom text ∈ queue.jobs.map QueueJob.id
      · exact .inl (by rw [add_taken taken])
      · exact .inr (by rw [contents, jobs_add_custom taken, List.map_append]; rfl)

/-- A queue holds what it held before a job was added, and the data of the job. -/
theorem contents_add_perm
    : (queue.add name data delay none).contents.Perm (data :: queue.contents) := by
  rw [contents, jobs_add_auto, List.map_append]
  exact List.perm_append_singleton data queue.contents

/-- The job and those under other identifiers, by induction on the jobs. -/
theorem perm_cons_others {jobs : List (QueueJob δ)} {job : QueueJob δ}
    (distinct : (jobs.map QueueJob.id).Nodup) (member : job ∈ jobs)
    : jobs.Perm (job :: jobs.filter (fun other => other.id ≠ job.id)) := by
  induction jobs with
  | nil => exact absurd member List.not_mem_nil
  | cons first rest ih =>
      obtain ⟨alone, distinct⟩ := List.nodup_cons.mp distinct
      rcases List.mem_cons.mp member with rfl | later
      · rw [List.filter_cons_of_neg (by simp)]
        have kept : rest.filter (fun other => other.id ≠ job.id) = rest := by
          refine List.filter_eq_self.mpr (fun other found => decide_eq_true ?_)
          exact fun same => alone (same ▸ List.mem_map_of_mem found)
        rw [kept]
      · have other : first.id ≠ job.id := fun same => alone (same ▸ List.mem_map_of_mem later)
        rw [List.filter_cons_of_pos (by simpa using other)]
        exact ((ih distinct later).cons first).trans (.swap job first _)

/-- A queue holds the data of a job it removes, and what it holds afterwards. -/
theorem contents_remove_perm {job : QueueJob δ} (member : job ∈ queue.jobs)
    : queue.contents.Perm (job.data :: (queue.remove job.id).contents) :=
  (perm_cons_others queue.distinct member).map QueueJob.data

/-- A job that is queued after an addition was queued before, or is the one that was added. -/
theorem mem_add {jobId : Option String} {job : QueueJob δ}
    (member : job ∈ (queue.add name data delay jobId).jobs)
    : job ∈ queue.jobs
      ∨ job.data = data
        ∧ job.id = queue.nextId jobId := by
  have pushed {id : JobId} (added : job ∈ queue.jobs ++ [⟨id, name, data, delay⟩])
      : job ∈ queue.jobs ∨ job.data = data ∧ job.id = id := by
    rcases List.mem_append.mp added with old | new
    · exact .inl old
    · rw [List.mem_singleton.mp new]
      exact .inr ⟨rfl, rfl⟩
  cases jobId with
  | none => exact pushed member
  | some text =>
      by_cases taken : .custom text ∈ queue.jobs.map QueueJob.id
      · rw [add_taken taken] at member
        exact .inl member
      · rw [jobs_add_custom taken] at member
        exact pushed member

/-- An added job is in its queue, or another one has its identifier already. -/
theorem exists_mem_add (queue : BullQueue δ) (name : String) (data : δ) (delay : Number)
    (jobId : Option String)
    : ∃ job ∈ (queue.add name data delay jobId).jobs, job.id = queue.nextId jobId := by
  cases jobId with
  | none =>
      rw [jobs_add_auto]
      exact ⟨_, List.mem_append_right _ List.mem_cons_self, rfl⟩
  | some text =>
      by_cases taken : .custom text ∈ queue.jobs.map QueueJob.id
      · rw [add_taken taken]
        obtain ⟨job, member, id⟩ := List.mem_map.mp taken
        exact ⟨job, member, id⟩
      · rw [jobs_add_custom taken]
        exact ⟨_, List.mem_append_right _ List.mem_cons_self, rfl⟩

theorem fromId_found {id : String} {job : QueueJob δ} (found : queue.fromId id = some job)
    : job ∈ queue.jobs ∧ job.id.text = id := by
  rw [fromId] at found
  exact ⟨List.mem_of_find?_eq_some found, by simpa using List.find?_some found⟩

/-- A job is found under its identifier only. -/
theorem eq_of_id_eq {job other : QueueJob δ} (member : job ∈ queue.jobs)
    (otherMember : other ∈ queue.jobs) (same : job.id = other.id)
    : job = other :=
  List.inj_on_of_nodup_map queue.distinct member otherMember same

end BullQueue

end QueueForge.Queue
