import Mathlib.Data.Finset.Card
import QueueForge.Async.Interleaving
import QueueForge.Worker.JobProcessor

/-! The counters of a processor over overlapping calls of `processJob`.
Each call counts itself in, once with its outcome, and out, whatever it awaits throws.
-/

namespace QueueForge.Worker

open QueueForge.Async QueueForge.Js QueueForge.Domain

-----------------------------------------------------------------------------------------
-- The stages of one call
-----------------------------------------------------------------------------------------

/-- How far a call has come. -/
inductive JobStage where
  | waiting
  | accepted
  | running
  | delivering
  | decided
  | gone
deriving DecidableEq

/-- The call is past validation. -/
def JobStage.entered : JobStage → Bool
  | waiting | accepted => false
  | running | delivering | decided | gone => true

/-- The call is past validation, and its outcome is open. -/
def JobStage.undecided : JobStage → Bool
  | running | delivering => true
  | _ => false

/-- Its outcome is decided. -/
def JobStage.counted : JobStage → Bool
  | decided | gone => true
  | _ => false

theorem JobStage.of_undecided {stage : JobStage} (undecided : stage.undecided = true)
    : stage.counted = false ∧ stage.entered = true ∧ stage ≠ .waiting ∧ stage ≠ .gone := by
  cases stage with
  | running => exact ⟨rfl, rfl, nofun, nofun⟩
  | delivering => exact ⟨rfl, rfl, nofun, nofun⟩
  | _ => exact nomatch undecided

theorem JobStage.gone_of_settled {stage : JobStage}
    (settled : stage.undecided = false ∧ stage ≠ .decided) (entered : stage.entered = true)
    : stage = .gone := by
  cases stage with
  | gone => rfl
  | decided => exact absurd rfl settled.2
  | running => exact nomatch settled.1
  | delivering => exact nomatch settled.1
  | _ => exact nomatch entered

theorem JobStage.entered_of_counted {stage : JobStage} (decided : stage.counted = true)
    : stage.entered = true := by
  cases stage <;> first | rfl | exact nomatch decided

/-- The stage after a call is answered. -/
def JobStage.next (stage : JobStage) : (call : JobCall) → Settled Thrown call.Result → JobStage
  | .validate _, .ok _ => accepted
  | .enter, _ => running
  | .execute _ _, _ => delivering
  | .countProcessed, _ | .countFailed, _ => decided
  | .leave, _ => gone
  | _, _ => stage

/-- The stages a call can be made in, by a call of `processJob` for the job. -/
def JobStage.allows (job : Option JobPayload) (stage : JobStage) : JobCall → Prop
  | .validate other => stage = waiting ∧ other = job
  | .now => stage ≠ gone
  | .enter => stage = accepted
  | .findOne _ | .execute _ _ => stage = running
  | .countProcessed | .countFailed => stage.undecided = true
  | .addLatency _ => stage.undecided = true ∨ stage = decided
  | .leave => stage = decided

/-- The calls that are left to one whose outcome is decided. -/
def JobCall.concludes : JobCall → Prop
  | now | addLatency _ | leave => True
  | _ => False

theorem JobStage.concludes_of_allows {job : Option JobPayload} {stage : JobStage} {call : JobCall}
    (decided : stage.counted = true) (allowed : stage.allows job call)
    : call.concludes := by
  have early {other : JobStage} (uncounted : other.counted = false) (same : stage = other) : False :=
    Bool.noConfusion (uncounted.symm.trans (same ▸ decided))
  have open_ (undecided : stage.undecided = true) : False :=
    Bool.noConfusion ((JobStage.of_undecided undecided).1.symm.trans decided)
  cases call with
  | now => trivial
  | addLatency latencyMs => trivial
  | leave => trivial
  | validate job => exact (early rfl allowed.1).elim
  | enter => exact (early rfl allowed).elim
  | findOne deliveryId => exact (early rfl allowed).elim
  | execute deliveryId destination => exact (early rfl allowed).elim
  | countProcessed => exact (open_ allowed).elim
  | countFailed => exact (open_ allowed).elim

/-- Validation judges the job, and counting does not fail. -/
def CountsReliably : (call : JobCall) → Settled Thrown call.Result → Prop
  | .validate job, result => result = JobProcessor.validate job
  | .enter, result | .addLatency _, result | .countProcessed, result | .countFailed, result
  | .leave, result => result = .ok ()
  | _, _ => True

/-- The order in which a call for a job counts. -/
def jobContract (job : Option JobPayload) : Contract JobSignature Thrown JobStage where
  allows stage call := stage.allows job call
  answers stage call result after := CountsReliably call result ∧ after = stage.next call result

namespace JobProcessor

section
variable {job : Option JobPayload} {stage : JobStage}

@[simp] theorem meets_awaitJob {call : JobCall}
    {post : Settled Thrown call.Result → JobStage → Prop}
    : Program.Meets (α := no_index call.Result) (jobContract job) (awaitJob call) stage post
      ↔ stage.allows job call
        ∧ (∀ error,
            CountsReliably call (.error error)
            → post (.error error) (stage.next call (.error error)))
        ∧ ∀ value, CountsReliably call (.ok value) → post (.ok value) (stage.next call (.ok value)) := by
  refine Program.meets_perform.trans (and_congr_right (fun _ => ?_))
  rw [← Settled.forall (fun result =>
    CountsReliably call result → post result (stage.next call result))]
  constructor
  · intro owed result reliable
    exact owed result _ ⟨reliable, rfl⟩
  · rintro owed result _ ⟨reliable, rfl⟩
    exact owed result reliable

variable (config : ProcessorConfig) (start : Int) (deliveryId : String)

attribute [local simp] JobStage.allows JobStage.next CountsReliably

/-- The outcome is counted last. -/
theorem conclude_counts (undecided : stage.undecided = true) (result : ExecutionResult)
    : (conclude start deliveryId result).Meets (jobContract job) stage
        (fun outcome after =>
          match outcome with
          | .ok _ => after = .decided
          | .error _ => after.undecided = true) := by
  have here : stage ≠ .gone := by
    rintro rfl
    exact nomatch undecided
  simp [conclude, undecided, here]

/-- What the `try` block owes: an exception comes before the outcome is counted. -/
theorem attempt_counts (destination : Option Infrastructure.Destination)
    : (attempt config start deliveryId destination).Meets (jobContract job) .running
        (fun outcome after =>
          match outcome with
          | .ok _ => after = .decided
          | .error _ => after.undecided = true) := by
  have running := @conclude_counts job .running start deliveryId rfl
  have delivering := @conclude_counts job .delivering start deliveryId rfl
  have failed : JobStage.running.undecided = true ∧ JobStage.delivering.undecided = true :=
    ⟨rfl, rfl⟩
  simp [attempt, runExecutor, running, delivering, failed]

/-- The `catch` block counts a failure first of all. -/
theorem onException_counts (undecided : stage.undecided = true) (err : Thrown)
    : (onException config start deliveryId err).Meets (jobContract job) stage
        (fun _ after => after = .decided) := by
  simp [onException, undecided]

/-- A call counts itself in after validation, once with its outcome, and out. -/
theorem processJob_counts (job : Option JobPayload)
    : (processJob config job).Meets (jobContract job) .waiting
        (fun _ after => after.undecided = false ∧ after ≠ .decided) := by
  have body (start : Int) (deliveryId : String) (destination : Option Infrastructure.Destination)
      : (tryCatch (attempt config start deliveryId destination)
            (onException config start deliveryId)).Meets (jobContract job) .running
          (fun _ after => after = .decided) := by
    rw [Program.tryCatch_eq, Program.meets_catchError]
    refine (attempt_counts config start deliveryId destination).mono ?_
    rintro (err | result) after counted
    · exact onException_counts config start deliveryId counted err
    · exact counted
  simp only [processJob, Program.bind_eq, Program.meets_bind, meets_awaitJob]
  refine ⟨⟨rfl, rfl⟩, fun _ _ => ⟨rfl, (by rintro ⟨⟩)⟩, fun _ _ => ?_⟩
  refine ⟨(by rintro ⟨⟩), fun _ _ => ⟨rfl, (by rintro ⟨⟩)⟩, fun start _ => ?_⟩
  refine ⟨rfl, fun _ reliable => (by cases reliable), fun _ _ => ?_⟩
  rw [Program.meets_finallyRun]
  refine (body start _ _).mono ?_
  rintro outcome _ rfl
  simp [JobStage.undecided]

end

end JobProcessor

-----------------------------------------------------------------------------------------
-- Overlapping calls
-----------------------------------------------------------------------------------------

/-- A processor in its environment, with the calls that came past validation, and those counted with
an outcome.
-/
structure JobsWorld (ι σ : Type) where
  processor : JobProcessor := {}
  entered : Finset ι := ∅
  counted : List ι := []
  environment : σ

namespace JobsWorld

variable {ι σ : Type} [DecidableEq ι]

/-- Take note of a call. -/
def note (world : JobsWorld ι σ) (caller : ι) (environment : σ) (call : JobCall) : JobsWorld ι σ where
  processor := world.processor.count call
  entered :=
    match call with
    | .enter => insert caller world.entered
    | _ => world.entered
  counted :=
    match call with
    | .countProcessed | .countFailed => caller :: world.counted
    | _ => world.counted
  environment := environment

/-- Repositories, executor and clock answer a call as the environment has it; validation and counting
are the processor's own.
-/
def handle (environments : ι → Handler JobSignature Thrown σ) (caller : ι)
    : Handler JobSignature Thrown (JobsWorld ι σ) :=
  fun call world =>
    match call with
    | .validate job => (JobProcessor.validate job, world.note caller world.environment (.validate job))
    | .enter => (.ok (), world.note caller world.environment .enter)
    | .addLatency latencyMs =>
        (.ok (), world.note caller world.environment (.addLatency latencyMs))
    | .countProcessed => (.ok (), world.note caller world.environment .countProcessed)
    | .countFailed => (.ok (), world.note caller world.environment .countFailed)
    | .leave => (.ok (), world.note caller world.environment .leave)
    | call =>
        let answered := environments caller call world.environment
        (answered.1, world.note caller answered.2 call)

theorem handle_reliable (environments : ι → Handler JobSignature Thrown σ) (caller : ι)
    (call : JobCall) (world : JobsWorld ι σ)
    : CountsReliably call (handle environments caller call world).1 := by
  cases call <;> first | rfl | trivial

theorem handle_note (environments : ι → Handler JobSignature Thrown σ) (caller : ι)
    (call : JobCall) (world : JobsWorld ι σ)
    : ∃ environment, (handle environments caller call world).2 = world.note caller environment call := by
  cases call <;> exact ⟨_, rfl⟩

/-- The notes follow the stages of the calls. -/
structure Tallied (jobs : ι → Option JobPayload) (stages : ι → JobStage) (world : JobsWorld ι σ)
    : Prop where
  valid : ∀ i, stages i ≠ .waiting → JobProcessor.validate (jobs i) = .ok ()
  entered : ∀ i, i ∈ world.entered ↔ (stages i).entered = true
  counted : ∀ i, i ∈ world.counted ↔ (stages i).counted = true
  once : world.counted.Nodup
  total
    : world.processor.jobsProcessedCount + world.processor.jobsFailedCount
      = world.counted.length
  active
    : world.processor.activeJobsCount
      = (world.entered.filter (fun i => stages i ≠ .gone)).card

variable {jobs : ι → Option JobPayload} {stages : ι → JobStage} {world : JobsWorld ι σ} {caller : ι}

/-- A stage past the first is one of a valid job. -/
theorem Tallied.valid_update (tallied : Tallied jobs stages world) {next : JobStage}
    (valid : next ≠ .waiting → JobProcessor.validate (jobs caller) = .ok ())
    : ∀ i,
        Function.update stages caller next i ≠ .waiting
        → JobProcessor.validate (jobs i) = .ok () :=
  (Function.forall_update_iff stages
    (p := fun i stage => stage ≠ .waiting → JobProcessor.validate (jobs i) = .ok ())).mpr
    ⟨valid, fun i _ => tallied.valid i⟩

/-- A mark of the stages is kept by a step that marks its caller as the stage after it has it. -/
theorem mem_iff_update {property : JobStage → Bool} {marked after : ι → Prop} {next : JobStage}
    (before : ∀ i, marked i ↔ property (stages i) = true)
    (here : after caller ↔ property next = true) (others : ∀ i, i ≠ caller → (after i ↔ marked i))
    : ∀ i, after i ↔ property (Function.update stages caller next i) = true :=
  (Function.forall_update_iff stages (p := fun i stage => after i ↔ property stage = true)).mpr
    ⟨here, fun i other => (others i other).trans (before i)⟩

/-- A step that neither counts nor moves its call on between the stages that count is not noted. -/
theorem Tallied.of_quiet (tallied : Tallied jobs stages world) {next : JobStage}
    (environment : σ) {call : JobCall}
    (valid : next ≠ .waiting → JobProcessor.validate (jobs caller) = .ok ())
    (entered : next.entered = (stages caller).entered)
    (counted : next.counted = (stages caller).counted)
    (gone : next = .gone ↔ stages caller = .gone)
    (unnoted
      : (world.note caller environment call).entered = world.entered
        ∧ (world.note caller environment call).counted = world.counted)
    (uncounted
      : (world.processor.count call).jobsProcessedCount = world.processor.jobsProcessedCount
        ∧ (world.processor.count call).jobsFailedCount = world.processor.jobsFailedCount
        ∧ (world.processor.count call).activeJobsCount = world.processor.activeJobsCount)
    : Tallied jobs (Function.update stages caller next) (world.note caller environment call) := by
  obtain ⟨sameEntered, sameCounted⟩ := unnoted
  obtain ⟨processed, failed, active⟩ := uncounted
  refine {
    valid := tallied.valid_update valid
    entered := ?_
    counted := ?_
    once := sameCounted ▸ tallied.once
    total := ?_
    active := ?_
  }
  · rw [sameEntered]
    refine mem_iff_update tallied.entered ?_ (fun i _ => .rfl)
    rw [entered]
    exact tallied.entered caller
  · rw [sameCounted]
    refine mem_iff_update tallied.counted ?_ (fun i _ => .rfl)
    rw [counted]
    exact tallied.counted caller
  · rw [sameCounted, ← tallied.total]
    exact congrArg₂ (· + ·) processed failed
  · rw [sameEntered]
    refine (active.trans tallied.active).trans ?_
    congr 2
    refine Finset.filter_congr (fun i _ => not_congr ?_)
    by_cases here : i = caller
    · subst here
      rw [Function.update_self]
      exact gone.symm
    · rw [Function.update_of_ne here]

/-- A call that comes past validation is one more active job. -/
theorem Tallied.enter (tallied : Tallied jobs stages world) (accepted : stages caller = .accepted)
    (environment : σ)
    : Tallied jobs (Function.update stages caller .running)
        (world.note caller environment .enter) := by
  have outside : caller ∉ world.entered := by
    rw [tallied.entered caller, accepted]
    exact nofun
  have uncounted : ¬caller ∈ world.counted := by
    rw [tallied.counted caller, accepted]
    exact nofun
  have present
      : (insert caller world.entered).filter
          (fun i => Function.update stages caller .running i ≠ .gone)
        = insert caller (world.entered.filter (fun i => stages i ≠ .gone)) := by
    rw [Finset.filter_insert, if_pos (by rw [Function.update_self]; exact nofun)]
    congr 1
    refine Finset.filter_congr (fun i member => ?_)
    have other : i ≠ caller := ne_of_mem_of_not_mem member outside
    rw [Function.update_of_ne other]
  refine {
    valid := tallied.valid_update (fun _ => tallied.valid caller (accepted ▸ nofun))
    entered := ?_
    counted := ?_
    once := tallied.once
    total := tallied.total
    active := ?_
  }
  · refine mem_iff_update tallied.entered (iff_of_true (Finset.mem_insert_self _ _) rfl) ?_
    intro i other
    exact Finset.mem_insert.trans (or_iff_right other)
  · exact mem_iff_update tallied.counted (iff_of_false uncounted nofun) (fun i _ => .rfl)
  · have absent : caller ∉ world.entered.filter (fun i => stages i ≠ .gone) :=
      fun member => outside (Finset.mem_filter.mp member).1
    have one_more
        : ((insert caller world.entered).filter
            (fun i => Function.update stages caller .running i ≠ .gone)).card
          = (world.entered.filter (fun i => stages i ≠ .gone)).card + 1 := by
      rw [present, Finset.card_insert_of_notMem absent]
    have active := tallied.active
    simp only [note, JobProcessor.count]
    omega

/-- A call whose outcome is open is counted once. -/
theorem Tallied.decide (tallied : Tallied jobs stages world)
    (undecided : (stages caller).undecided = true)
    (environment : σ) {call : JobCall} (counts : call = .countProcessed ∨ call = .countFailed)
    : Tallied jobs (Function.update stages caller .decided)
        (world.note caller environment call) := by
  obtain ⟨open_, entered, started, present⟩ := JobStage.of_undecided undecided
  have uncounted : caller ∉ world.counted := by
    rw [tallied.counted caller, open_]
    rintro ⟨⟩
  have inside : caller ∈ world.entered := (tallied.entered caller).mpr entered
  have noted
      : (world.note caller environment call).entered = world.entered
        ∧ (world.note caller environment call).counted = caller :: world.counted
        ∧ (world.processor.count call).activeJobsCount = world.processor.activeJobsCount
        ∧ (world.processor.count call).jobsProcessedCount
            + (world.processor.count call).jobsFailedCount
          = world.processor.jobsProcessedCount + world.processor.jobsFailedCount + 1 := by
    rcases counts with rfl | rfl
    · exact ⟨rfl, rfl, rfl, Nat.add_right_comm _ _ _⟩
    · exact ⟨rfl, rfl, rfl, rfl⟩
  obtain ⟨sameEntered, added, active, total⟩ := noted
  refine {
    valid := tallied.valid_update (fun _ => tallied.valid caller started)
    entered := ?_
    counted := ?_
    once := ?_
    total := ?_
    active := ?_
  }
  · rw [sameEntered]
    exact mem_iff_update tallied.entered (iff_of_true inside rfl) (fun i _ => .rfl)
  · rw [added]
    refine mem_iff_update tallied.counted (iff_of_true List.mem_cons_self rfl) ?_
    intro i other
    exact List.mem_cons.trans (or_iff_right other)
  · rw [added]
    exact List.nodup_cons.mpr ⟨uncounted, tallied.once⟩
  · rw [added, List.length_cons, ← tallied.total]
    exact total
  · rw [sameEntered]
    refine (active.trans tallied.active).trans ?_
    congr 2
    refine Finset.filter_congr (fun i _ => ?_)
    by_cases here : i = caller
    · subst here
      rw [Function.update_self]
      exact iff_of_true present (by rintro ⟨⟩)
    · rw [Function.update_of_ne here]

/-- A call that leaves is one active job less; the clamp does not bite. -/
theorem Tallied.leave (tallied : Tallied jobs stages world) (decided : stages caller = .decided)
    (environment : σ)
    : Tallied jobs (Function.update stages caller .gone)
        (world.note caller environment .leave) := by
  have inside : caller ∈ world.entered := by
    rw [tallied.entered caller, decided]
    rfl
  have counted : caller ∈ world.counted := by
    rw [tallied.counted caller, decided]
    rfl
  have present : caller ∈ world.entered.filter (fun i => stages i ≠ .gone) :=
    Finset.mem_filter.mpr ⟨inside, decided ▸ nofun⟩
  have left
      : world.entered.filter (fun i => Function.update stages caller .gone i ≠ .gone)
        = (world.entered.filter (fun i => stages i ≠ .gone)).erase caller := by
    ext i
    by_cases here : i = caller
    · subst here
      simp
    · simp [here]
  refine {
    valid := tallied.valid_update (fun _ => tallied.valid caller (decided ▸ nofun))
    entered := mem_iff_update tallied.entered (iff_of_true inside rfl) (fun i _ => .rfl)
    counted := mem_iff_update tallied.counted (iff_of_true counted rfl) (fun i _ => .rfl)
    once := tallied.once
    total := tallied.total
    active := ?_
  }
  have one_less
      : (world.entered.filter (fun i => Function.update stages caller .gone i ≠ .gone)).card + 1
        = (world.entered.filter (fun i => stages i ≠ .gone)).card := by
    rw [left]
    exact Finset.card_erase_add_one present
  have active := tallied.active
  simp only [note, JobProcessor.count]
  omega

/-- Every call a stage allows keeps the tally, by cases on the call. -/
theorem Tallied.note (tallied : Tallied jobs stages world) {call : JobCall}
    {result : Settled Thrown call.Result} (allowed : (stages caller).allows (jobs caller) call)
    (reliable : CountsReliably call result) (environment : σ)
    : Tallied jobs (Function.update stages caller ((stages caller).next call result))
        (world.note caller environment call) := by
  have kept (quiet : (stages caller).next call result = stages caller)
      (unnoted
        : (world.note caller environment call).entered = world.entered
          ∧ (world.note caller environment call).counted = world.counted)
      (uncounted
        : (world.processor.count call).jobsProcessedCount = world.processor.jobsProcessedCount
          ∧ (world.processor.count call).jobsFailedCount = world.processor.jobsFailedCount
          ∧ (world.processor.count call).activeJobsCount = world.processor.activeJobsCount)
      : Tallied jobs (Function.update stages caller ((stages caller).next call result))
          (world.note caller environment call) := by
    rw [quiet]
    exact tallied.of_quiet environment (tallied.valid caller) rfl rfl .rfl unnoted uncounted
  cases call with
  | validate job =>
      obtain ⟨waiting, rfl⟩ := allowed
      cases result with
      | error error => exact kept rfl ⟨rfl, rfl⟩ ⟨rfl, rfl, rfl⟩
      | ok value =>
          refine tallied.of_quiet environment (fun _ => reliable.symm) ?_ ?_ ?_ ⟨rfl, rfl⟩
            ⟨rfl, rfl, rfl⟩
          · rw [waiting]
            rfl
          · rw [waiting]
            rfl
          · rw [waiting]
            exact iff_of_false nofun nofun
  | now => exact kept rfl ⟨rfl, rfl⟩ ⟨rfl, rfl, rfl⟩
  | enter => exact tallied.enter allowed environment
  | findOne deliveryId => exact kept rfl ⟨rfl, rfl⟩ ⟨rfl, rfl, rfl⟩
  | execute deliveryId destination =>
      have running : stages caller = .running := allowed
      refine tallied.of_quiet environment (fun _ => tallied.valid caller (running ▸ nofun)) ?_ ?_ ?_
        ⟨rfl, rfl⟩ ⟨rfl, rfl, rfl⟩
      · rw [running]
        rfl
      · rw [running]
        rfl
      · rw [running]
        exact iff_of_false nofun nofun
  | addLatency latencyMs => exact kept rfl ⟨rfl, rfl⟩ ⟨rfl, rfl, rfl⟩
  | countProcessed => exact tallied.decide allowed environment (.inl rfl)
  | countFailed => exact tallied.decide allowed environment (.inr rfl)
  | leave => exact tallied.leave allowed environment

end JobsWorld

section
variable {ι σ : Type} [DecidableEq ι]

/-- A processor that is called for some jobs, in any order and at any time. -/
def callsForJobs (config : ProcessorConfig) (jobs : ι → Option JobPayload) (environment : σ)
    : Configuration JobSignature Thrown ι JobProcessor.ProcessResult (JobsWorld ι σ) where
  process i := JobProcessor.processJob config (jobs i)
  world := { environment := environment }

/-- The calls past validation that have not settled. -/
def unsettledCalls
    (current : Configuration JobSignature Thrown ι JobProcessor.ProcessResult (JobsWorld ι σ))
    : Finset ι :=
  current.world.entered.filter (fun i => current.hasSettled i = false)

/-- What the counters say of the calls: how many are past validation and have not settled, and of how
many the outcome is decided. Each outcome is counted once, after it is decided and before the call
settles.
-/
structure CountsCalls (jobs : ι → Option JobPayload)
    (current : Configuration JobSignature Thrown ι JobProcessor.ProcessResult (JobsWorld ι σ))
    : Prop where
  active : current.world.processor.getStats.activeJobs = (unsettledCalls current).card
  total
    : current.world.processor.getStats.jobsProcessed + current.world.processor.getStats.jobsFailed
      = current.world.counted.length
  once : current.world.counted.Nodup
  counted : ∀ i ∈ current.world.counted, i ∈ current.world.entered
  decided
    : ∀ i ∈ current.world.counted,
        ∀ call rest, current.process i = .call call rest → call.concludes
  settled : ∀ i ∈ current.world.entered, current.hasSettled i = true → i ∈ current.world.counted
  valid : ∀ i ∈ current.world.entered, JobProcessor.validate (jobs i) = .ok ()

omit [DecidableEq ι] in
/-- A call has settled as its stage tells. -/
theorem hasSettled_of_meets {job : Option JobPayload} {stage : JobStage}
    {current : Configuration JobSignature Thrown ι JobProcessor.ProcessResult (JobsWorld ι σ)}
    {i : ι}
    (owed
      : (current.process i).Meets (jobContract job) stage
          (fun _ after => after.undecided = false ∧ after ≠ .decided))
    (entered : stage.entered = true)
    : current.hasSettled i = true ↔ stage = .gone := by
  unfold Configuration.hasSettled
  cases found : current.process i with
  | call op rest =>
      rw [found] at owed
      refine iff_of_false nofun (fun gone => ?_)
      have allowed : stage.allows job op := owed.1
      rw [gone] at allowed
      cases op <;> simp [JobStage.allows, JobStage.undecided] at allowed
  | done value =>
      rw [found] at owed
      refine iff_of_true rfl ?_
      exact JobStage.gone_of_settled owed entered
  | fail error =>
      rw [found] at owed
      refine iff_of_true rfl ?_
      exact JobStage.gone_of_settled owed entered

/-- In every interleaving of calls of `processJob`, whatever repositories and executor answer, the
counters are exact at every moment.
-/
theorem counters_exact (config : ProcessorConfig) (jobs : ι → Option JobPayload)
    (environments : ι → Handler JobSignature Thrown σ) (environment : σ)
    {current : Configuration JobSignature Thrown ι JobProcessor.ProcessResult (JobsWorld ι σ)}
    (reached
      : Configuration.Reachable (JobsWorld.handle environments) (fun _ _ _ => True)
          (callsForJobs config jobs environment) current)
    : CountsCalls jobs current := by
  have kept
      : ∀ (stages : ι → JobStage) (world : JobsWorld ι σ) (i : ι) (call : JobCall),
          JobsWorld.Tallied jobs stages world
          → (jobContract (jobs i)).allows (stages i) call
          → True
          → ∃ next,
              (jobContract (jobs i)).answers (stages i) call
                (JobsWorld.handle environments i call world).1 next
              ∧ JobsWorld.Tallied jobs (Function.update stages i next)
                  (JobsWorld.handle environments i call world).2 := by
    intro stages world i call tallied allowed _
    have reliable := JobsWorld.handle_reliable environments i call world
    obtain ⟨left, noted⟩ := JobsWorld.handle_note environments i call world
    refine ⟨_, ⟨reliable, rfl⟩, ?_⟩
    rw [noted]
    exact tallied.note allowed reliable left
  have initially
      : JobsWorld.Tallied jobs (fun _ => .waiting) (callsForJobs config jobs environment).world := by
    refine ⟨fun _ moved => absurd rfl moved, fun i => ?_, fun i => ?_, List.nodup_nil, rfl, rfl⟩
    · exact iff_of_false (Finset.notMem_empty i) nofun
    · exact iff_of_false List.not_mem_nil nofun
  have met (i : ι)
      : ((callsForJobs config jobs environment).process i).Meets (jobContract (jobs i)) .waiting
          (fun _ after => after.undecided = false ∧ after ≠ .decided) :=
    JobProcessor.processJob_counts config (jobs i)
  obtain ⟨stages, owed, tallied⟩ := reached.invariant kept met initially
  have settled (i : ι) (member : i ∈ current.world.entered)
      : current.hasSettled i = true ↔ stages i = .gone :=
    hasSettled_of_meets (owed i) ((tallied.entered i).mp member)
  refine {
    active := tallied.active.trans ?_
    total := tallied.total
    once := tallied.once
    counted := ?_
    decided := ?_
    settled := ?_
    valid := ?_
  }
  · unfold unsettledCalls
    congr 2
    refine Finset.filter_congr (fun i member => ?_)
    rw [← Bool.not_eq_true, settled i member]
  · intro i member
    rw [tallied.entered]
    exact JobStage.entered_of_counted ((tallied.counted i).mp member)
  · intro i member call rest next
    have here := owed i
    rw [next] at here
    exact JobStage.concludes_of_allows ((tallied.counted i).mp member) here.1
  · intro i member done
    rw [tallied.counted, (settled i member).mp done]
    rfl
  · intro i member
    refine tallied.valid i (fun waiting => ?_)
    have entered := (tallied.entered i).mp member
    rw [waiting] at entered
    exact nomatch entered

end

/-- An executor that answers every delivery at once, and fails the second. -/
def promptEnvironment : Handler JobSignature Thrown Unit :=
  fun call _ =>
    (match call with
      | .now => .ok 0
      | .execute deliveryId _ =>
          if deliveryId = "second" then
            .error (newError "Socket hang up")
          else
            .ok ⟨true, some 200, 0, .nullish, none⟩
      | .validate _ | .enter | .findOne _ | .addLatency _ | .countProcessed | .countFailed
      | .leave => .ok (),
    ())

/-- A job for a delivery. -/
def jobFor (deliveryId : String) : Option JobPayload :=
  some { id := some deliveryId, deliveryId := none, data := none }

/-- Two calls overlap: the first has its outcome decided while both are active. -/
def overlappingCalls
    : Configuration JobSignature Thrown (Fin 2) JobProcessor.ProcessResult (JobsWorld (Fin 2) Unit) :=
  (callsForJobs ⟨false, true, true⟩ (fun i => jobFor (if i = 0 then "first" else "second")) ()).follow
    (JobsWorld.handle (fun _ => promptEnvironment)) [0, 0, 0, 1, 1, 1, 0, 0, 0, 0, 1]

theorem counters_exact_overlapping
    : CountsCalls (fun i : Fin 2 => jobFor (if i = 0 then "first" else "second")) overlappingCalls
      ∧ overlappingCalls.world.processor.getStats.activeJobs = 2
      ∧ overlappingCalls.world.counted = [0] :=
  ⟨counters_exact _ _ (fun _ => promptEnvironment) ()
      (Configuration.reachable_follow _ _ (by decide +kernel)), by decide +kernel, by decide +kernel⟩

end QueueForge.Worker
