import QueueForge.Worker.ExclusiveClaim
import QueueForge.Worker.StaleJobDetector

/-! A worker run that interleaves with the recovery of its delivery.
The detector looks the delivery up, puts it in the queue and marks it PENDING, without asking
for its status again. It leaves a finished delivery alone only where the run cannot write
between these calls.
-/

namespace QueueForge.Worker

open QueueForge.Async QueueForge.Js QueueForge.Domain QueueForge.Infrastructure

inductive Party where
  | worker
  | detector
deriving DecidableEq

/-- A worker run, and a detector in another process that is called on any deliveries. -/
structure RecoveryRace where
  system : WorkerSystem
  run : WorkerRun
  calls : List DetectorCall
  detectorProcess : Nat
  apart : detectorProcess ≠ run.process

namespace RecoveryRace

variable (race : RecoveryRace)

def handlers : Party → Handler SystemSignature Thrown World
  | .worker => Infrastructure.system race.system.env race.run.process
  | .detector => Infrastructure.system race.system.env race.detectorProcess

/-- Both start on the same world. -/
def start (world : World) : Configuration SystemSignature Thrown Party Unit World where
  process
    | .worker =>
        ((workerParts race.system.production race.system.logger).execute race.run.config
          race.run.deliveryOrId race.run.destinationArg).bind (fun _ => .done ())
    | .detector => performDetector race.system.production race.calls
  world := world

/-- No recovery touches a finished delivery: it has put no job for it in the queue, and does
not mark it PENDING.
-/
def RespectsOutcome (permits : World → Party → SystemCall → Prop) (id : String) (world : World)
    : Prop :=
  ∀ config,
    Configuration.Reachable race.handlers permits (race.start world) config
    → Finished id config.world
    → config.world.jobsFor id = world.jobsFor id
      ∧ ∀ next,
          Configuration.Step race.handlers permits config next
          → next.world.status? id ≠ some .pending

end RecoveryRace

/-- A call that puts the delivery in the queue. -/
def enqueues (id : String) (world : World) (call : SystemCall) : Bool :=
  call.job?.any (world.isJobFor id)

/-- The latest call of all has put the delivery in the queue. -/
def justEnqueued (id : String) (world : World) : Bool :=
  (world.history.head?.bind Entry.added?).any (world.isJobFor id)

/-- The process has claimed the delivery. -/
def hasClaimed (id : String) (process : Nat) (history : List Entry) : Bool :=
  history.any (fun entry => entry.process = process ∧ entry.written? id = some .processing)

/-- The latest call of the process was a lookup, so it may be about to write. -/
def isReading (process : Nat) (history : List Entry) : Bool :=
  (history.find? (fun entry => entry.process = process)).any (fun entry => entry.call.isLookup)

/-- The calls on which recovery leaves outcomes alone. The detector puts the delivery in the
queue only while it is PROCESSING by a claim of the run, and not between a lookup of the run
and what the run does next; it marks the delivery PENDING in its next call, which does not
fail, and the run awaits nothing in between.
-/
def RecoversInTurn (race : RecoveryRace) (id : String) (world : World) (party : Party)
    (call : SystemCall)
    : Prop :=
  match party with
  | .worker => justEnqueued id world = false
  | .detector =>
      (enqueues id world call = true
        → world.status? id = some .processing
          ∧ hasClaimed id race.run.process world.history = true
          ∧ isReading race.run.process world.history = false)
      ∧ (call.target? id = some .pending
        → race.system.env.fault race.detectorProcess world call = none)

instance (race : RecoveryRace) (id : String) (world : World) (party : Party)
    (call : SystemCall)
    : Decidable (RecoversInTurn race id world party call) :=
  match party with
  | .worker => inferInstanceAs (Decidable (_ = _))
  | .detector => inferInstanceAs (Decidable (_ ∧ _))

/-- How a recovery can stand to the delivery `id`: it has not touched it, has put it in the
queue, or has also marked it PENDING. In the last two cases the run can write no more.
-/
inductive RecoveryState (id : String) (jobs : List Job) (run : RunPhase)
    (recovery : RecoveryPhase) (status : DeliveryStatus) (world : World)
    : Prop
  | untouched (kept : world.jobsFor id = jobs) (elsewhere : recovery ≠ .enqueued id)
  | enqueued (here : recovery = .enqueued id) (latest : justEnqueued id world = true)
      (claimed : status = .processing) (unread : run.seen = none)
      (claims : run.stage.mayClaim = false)
  | recovered (pending : status = .pending) (agrees : run.Agrees .pending)
      (claims : run.stage.mayClaim = false) (elsewhere : recovery ≠ .enqueued id)

/-- The state of a race, with what the database and the history tell of it. The pair that
names the jobs of a delivery is its own.
-/
structure Racing (race : RecoveryRace) (id : String) (pair : String × String)
    (jobs : List Job) (run : RunPhase) (recovery : RecoveryPhase) (world : World)
    : Prop where
  state
    : ∃ status, world.status? id = some status ∧ RecoveryState id jobs run recovery status world
  paired : world.pair? id = some pair
  unique : ∀ other, world.pair? other = some pair → other = id
  found
    : ∀ row, recovery = .found row → world.pair? row.id = some (row.taskResultId, row.destinationId)
  claimed : hasClaimed id race.run.process world.history = true → run.stage.mayClaim = false
  reading : run.seen ≠ none → isReading race.run.process world.history = true

section
variable {race : RecoveryRace} {id : String} {pair : String × String} {jobs : List Job}
  {run : RunPhase} {recovery : RecoveryPhase}

/-- A run that has claimed the delivery cannot claim it again. -/
theorem RunStep.mayClaim {status : DeliveryStatus} {entry : Entry} {next : RunPhase}
    (step : RunStep id run status entry next) (claims : run.stage.mayClaim = false)
    : next.stage.mayClaim = false := by
  obtain ⟨stage, seen⟩ := run
  cases step with
  | passed _ _ _ => exact claims
  | looked _ => cases stage <;> first | rfl | contradiction
  | refused _ _ => cases stage <;> first | rfl | contradiction
  | sent _ _ => rfl
  | @wrote target _ _ => cases target <;> rfl

/-- A run that writes PROCESSING cannot claim the delivery again. -/
theorem RunStep.claims {status : DeliveryStatus} {entry : Entry} {next : RunPhase}
    (step : RunStep id run status entry next) (written : entry.written? id = some .processing)
    : next.stage.mayClaim = false := by
  have targeted := target?_of_written? written
  cases step with
  | passed _ _ unwritten => exact nomatch unwritten.symm.trans written
  | looked reads =>
      obtain ⟨process, call, result⟩ := entry
      cases call with
      | database call => cases call <;> contradiction
      | _ => contradiction
  | refused failed _ =>
      obtain ⟨error, failed⟩ := failed
      simp only [Entry.written?, failed] at written
      exact nomatch written
  | sent sends _ =>
      obtain ⟨process, call, result⟩ := entry
      cases call <;> contradiction
  | @wrote target _ _ => cases target <;> rfl

/-- A run sees something only right after its lookup. -/
theorem RunStep.seen {status : DeliveryStatus} {entry : Entry} {next : RunPhase}
    (step : RunStep id run status entry next) (seen : next.seen ≠ none)
    : entry.call.isLookup = true := by
  cases step with
  | passed _ _ _ => exact absurd rfl seen
  | looked reads => exact reads
  | refused _ _ => exact absurd rfl seen
  | sent _ _ => exact absurd rfl seen
  | wrote _ _ => exact absurd rfl seen

/-- A lookup writes nothing, nor does a call that fails or transmits. -/
theorem unwritten_of_lookup {entry : Entry} (reads : entry.call.isLookup = true)
    : entry.written? id = none := by
  obtain ⟨process, call, result⟩ := entry
  refine written?_of_target? ?_
  cases call with
  | database call => cases call <;> first | rfl | contradiction
  | _ => contradiction

/-- Once the delivery is PENDING and the run has claimed it before, the run writes nothing
more.
-/
theorem RunStep.recovered {entry : Entry} {next : RunPhase}
    (step : RunStep id run .pending entry next) (agrees : run.Agrees .pending)
    (claims : run.stage.mayClaim = false)
    : entry.written? id = none ∧ next.Agrees .pending := by
  cases step with
  | passed _ _ unwritten => exact ⟨unwritten, (by rintro _ ⟨⟩)⟩
  | looked reads =>
      exact ⟨unwritten_of_lookup reads, fun _ same => (Option.some.inj same).symm⟩
  | refused failed _ =>
      obtain ⟨error, failed⟩ := failed
      refine ⟨?_, (by rintro _ ⟨⟩)⟩
      simp only [Entry.written?, failed]
  | sent sends _ =>
      refine ⟨written?_of_target? ?_, (by rintro _ ⟨⟩)⟩
      obtain ⟨process, call, result⟩ := entry
      cases call <;> first | rfl | contradiction
  | @wrote target _ may =>
      obtain ⟨⟨status, seen, admitted⟩, mayWrite⟩ := may
      obtain rfl := agrees status seen
      -- the table leads from PENDING to PROCESSING only, which is the claim
      cases target with
      | processing => exact absurd (claims.symm.trans mayWrite) Bool.noConfusion
      | _ => contradiction

/-- What the history tells after one more call. -/
theorem hasClaimed_cons (process : Nat) (entry : Entry) (history : List Entry)
    : hasClaimed id process (entry :: history) = true
      ↔ (entry.process = process ∧ entry.written? id = some .processing)
        ∨ hasClaimed id process history = true := by
  simp only [hasClaimed, List.any_cons, Bool.or_eq_true, decide_eq_true_eq]

theorem isReading_cons_self (process : Nat) (entry : Entry) (history : List Entry)
    (same : entry.process = process)
    : isReading process (entry :: history) = entry.call.isLookup := by
  simp only [isReading, List.find?_cons, same, decide_true, Option.any_some]

theorem isReading_cons_other (process : Nat) (entry : Entry) (history : List Entry)
    (other : entry.process ≠ process)
    : isReading process (entry :: history) = isReading process history := by
  simp only [isReading, List.find?_cons, other, decide_false]

section
variable {world : World} {call : SystemCall}

/-- A call that adds no job leaves the delivery out of the queue. -/
theorem added?_of_job? {entry : Entry} (jobless : entry.call.job? = none) (job : Job)
    : entry.added? ≠ some job := by
  intro added
  rw [Entry.added?] at added
  split at added
  · cases jobless.symm.trans added
  · cases added

/-- A call of the run keeps the race, by cases on its state. -/
theorem Racing.worker (racing : Racing race id pair jobs run recovery world)
    (allowed : (sharedContract id).allows run call)
    (permitted : RecoversInTurn race id world .worker call)
    : ∃ next,
        (sharedContract id).answers run call (race.handlers .worker call world).1 next
        ∧ Racing race id pair jobs next recovery (race.handlers .worker call world).2 := by
  obtain ⟨status, stored, state⟩ := racing.state
  obtain ⟨answered, step⟩ := runStep_system race.system.env race.run.process stored allowed
  refine ⟨_, answered, ?_⟩
  have written := status?_system race.system.env race.run.process call world stored
  have paired := pair?_system race.system.env race.run.process call world
  have jobless : call.job? = none := by
    cases call with
    | queueAdd job => exact allowed.elim
    | _ => rfl
  have kept : (race.handlers .worker call world).2.jobsFor id = world.jobsFor id := by
    refine jobsFor_system race.system.env race.run.process call world ?_
    intro job added
    exact absurd added (added?_of_job? jobless job)
  have entered := history_system race.system.env race.run.process call world
  constructor
  · refine ⟨_, written, ?_⟩
    cases state with
    | untouched same elsewhere => exact .untouched (kept.trans same) elsewhere
    | enqueued here latest _ _ _ =>
        exact absurd (latest.symm.trans permitted) Bool.noConfusion
    | recovered pending agrees claims elsewhere =>
        subst pending
        obtain ⟨unwritten, agrees⟩ := step.recovered agrees claims
        rw [unwritten]
        exact .recovered rfl agrees (step.mayClaim claims) elsewhere
  · exact (paired id).trans racing.paired
  · exact fun other same => racing.unique other ((paired other).symm.trans same)
  · exact fun row found => (paired row.id).trans (racing.found row found)
  · intro claimed
    rw [RecoveryRace.handlers, entered, hasClaimed_cons] at claimed
    rcases claimed with ⟨_, written⟩ | before
    · exact step.claims written
    · exact step.mayClaim (racing.claimed before)
  · intro seen
    rw [RecoveryRace.handlers, entered]
    exact (isReading_cons_self race.run.process _ _ rfl).trans (step.seen seen)

/-- A call of the detector leaves what the history tells of the run. -/
theorem Racing.detector_frame (racing : Racing race id pair jobs run recovery world)
    {next : RecoveryPhase}
    (state
      : ∃ status,
          (race.handlers .detector call world).2.status? id = some status
          ∧ RecoveryState id jobs run next status (race.handlers .detector call world).2)
    (found
      : ∀ row, next = .found row → world.pair? row.id = some (row.taskResultId, row.destinationId))
    : Racing race id pair jobs run next (race.handlers .detector call world).2 := by
  have paired := pair?_system race.system.env race.detectorProcess call world
  have entered := history_system race.system.env race.detectorProcess call world
  constructor
  · exact state
  · exact (paired id).trans racing.paired
  · exact fun other same => racing.unique other ((paired other).symm.trans same)
  · exact fun row same => (paired row.id).trans (found row same)
  · intro claimed
    rw [RecoveryRace.handlers, entered, hasClaimed_cons] at claimed
    rcases claimed with ⟨same, _⟩ | before
    · exact absurd same race.apart
    · exact racing.claimed before
  · intro seen
    rw [RecoveryRace.handlers, entered, isReading_cons_other _ _ _ race.apart]
    exact racing.reading seen

/-- A call of the detector that does not concern the delivery keeps its state. -/
theorem Racing.detector_passes (racing : Racing race id pair jobs run recovery world)
    {next : RecoveryPhase} (elsewhere : recovery ≠ .enqueued id) (stays : next ≠ .enqueued id)
    (unwritten
      : (Entry.answering race.system.env race.detectorProcess call world).written? id = none)
    (other
      : ∀ job,
          (Entry.answering race.system.env race.detectorProcess call world).added? = some job
          → world.isJobFor id job = false)
    (found
      : ∀ row, next = .found row → world.pair? row.id = some (row.taskResultId, row.destinationId))
    : Racing race id pair jobs run next (race.handlers .detector call world).2 := by
  refine racing.detector_frame ?_ found
  obtain ⟨status, stored, state⟩ := racing.state
  have written := status?_system race.system.env race.detectorProcess call world stored
  rw [unwritten] at written
  refine ⟨status, written, ?_⟩
  have kept := jobsFor_system race.system.env race.detectorProcess call world other
  cases state with
  | untouched same _ => exact .untouched (kept.trans same) stays
  | enqueued here _ _ _ _ => exact absurd here elsewhere
  | recovered pending agrees claims _ => exact .recovered pending agrees claims stays

/-- The detector's lookup finds a row whose pair is the stored one. -/
theorem Racing.detector_finds (racing : Racing race id pair jobs run .scanning world)
    (other : String)
    : ∃ next,
        recoveryContract.answers .scanning (.database (.deliveryFindUnique other))
          (race.handlers .detector (.database (.deliveryFindUnique other)) world).1 next
        ∧ Racing race id pair jobs run next
            (race.handlers .detector (.database (.deliveryFindUnique other)) world).2 := by
  have passes
      : ∀ {next : RecoveryPhase},
          next ≠ .enqueued id
          → (∀ row,
              next = .found row
              → world.pair? row.id = some (row.taskResultId, row.destinationId))
          → Racing race id pair jobs run next
              (race.handlers .detector (.database (.deliveryFindUnique other)) world).2 := by
    intro next stays found
    refine racing.detector_passes (by rintro ⟨⟩) stays (written?_of_target? rfl) ?_ found
    intro job added
    exact absurd added (added?_of_job? rfl job)
  cases faulty
    : race.system.env.fault race.detectorProcess world (.database (.deliveryFindUnique other)) with
  | some error =>
      refine ⟨.scanning, .inr ⟨?_, rfl⟩, passes (by rintro ⟨⟩) (fun _ same => by cases same)⟩
      simp only [RecoveryRace.handlers, system, performCall, faulty]
      exact fun _ => (by rintro ⟨⟩)
  | none =>
      have returned
          : (race.handlers .detector (.database (.deliveryFindUnique other)) world).1
            = .ok (world.delivery? other) := by
        simp only [RecoveryRace.handlers, system, performCall, faulty, performDatabase]
      rw [returned]
      cases found : world.delivery? other with
      | none =>
          refine ⟨.scanning, .inr ⟨(fun _ same => by cases same), rfl⟩,
            passes (by rintro ⟨⟩) (fun _ same => by cases same)⟩
      | some row =>
          have named := World.delivery?_id found
          refine ⟨.found row, .inl ⟨row, rfl, named, rfl⟩, passes (by rintro ⟨⟩) ?_⟩
          intro other' same
          obtain rfl := RecoveryPhase.found.inj same
          rw [World.pair?, named, found]
          rfl

section
variable {row : DeliveryRow}

/-- The job is for the delivery itself: it is put in the queue while the run can write no more. -/
theorem Racing.detector_enqueues_own
    (racing : Racing race id pair jobs run (.found row) world)
    (permitted
      : RecoversInTurn race id world .detector (.queueAdd (StaleJobDetector.jobOf row)))
    (added
      : (Entry.answering race.system.env race.detectorProcess
          (.queueAdd (StaleJobDetector.jobOf row)) world).added?
        = some (StaleJobDetector.jobOf row))
    (concerns : world.isJobFor id (StaleJobDetector.jobOf row) = true)
    : Racing race id pair jobs run (.enqueued row.id)
        (race.handlers .detector (.queueAdd (StaleJobDetector.jobOf row)) world).2 := by
  have here : row.id = id := by
    refine racing.unique row.id ?_
    have own : world.pair? id = some (row.taskResultId, row.destinationId) :=
      of_decide_eq_true concerns
    rw [racing.found row rfl, ← racing.paired, own]
  have enqueueing : enqueues id world (.queueAdd (StaleJobDetector.jobOf row)) = true :=
    concerns
  obtain ⟨processing, claimed, unread⟩ := permitted.1 enqueueing
  refine racing.detector_frame ?_ (fun _ same => by cases same)
  obtain ⟨status, stored, state⟩ := racing.state
  obtain rfl : .processing = status := Option.some.inj (processing.symm.trans stored)
  have unwritten
      : (Entry.answering race.system.env race.detectorProcess
          (.queueAdd (StaleJobDetector.jobOf row)) world).written? id = none :=
    written?_of_target? rfl
  have written :=
    status?_system race.system.env race.detectorProcess
      (.queueAdd (StaleJobDetector.jobOf row)) world stored
  rw [unwritten] at written
  refine ⟨.processing, written, .enqueued (congrArg _ here) ?_ rfl ?_ ?_⟩
  · have entered :=
      history_system race.system.env race.detectorProcess
        (.queueAdd (StaleJobDetector.jobOf row)) world
    rw [justEnqueued, RecoveryRace.handlers, entered, isJobFor_system, List.head?_cons,
      Option.bind_some, added]
    exact concerns
  · -- what the run saw it read in its latest call, which was no lookup
    by_contra seen
    exact Bool.noConfusion ((racing.reading seen).symm.trans unread)
  · exact racing.claimed claimed

/-- The job is for another delivery. -/
theorem Racing.detector_enqueues_other
    (racing : Racing race id pair jobs run (.found row) world)
    (added
      : (Entry.answering race.system.env race.detectorProcess
          (.queueAdd (StaleJobDetector.jobOf row)) world).added?
        = some (StaleJobDetector.jobOf row))
    (elsewhere : world.isJobFor id (StaleJobDetector.jobOf row) = false)
    : Racing race id pair jobs run (.enqueued row.id)
        (race.handlers .detector (.queueAdd (StaleJobDetector.jobOf row)) world).2 := by
  have away : row.id ≠ id := by
    intro here
    have own := racing.found row rfl
    rw [here] at own
    have isFor : world.isJobFor id (StaleJobDetector.jobOf row) = true :=
      decide_eq_true own
    exact Bool.noConfusion (isFor.symm.trans elsewhere)
  refine racing.detector_passes (by rintro ⟨⟩) ?_ (written?_of_target? rfl) ?_
    (fun _ same => by cases same)
  · exact fun same => away (RecoveryPhase.enqueued.inj same)
  · intro job same
    obtain rfl := Option.some.inj (added.symm.trans same)
    exact elsewhere

/-- The detector puts the delivery in the queue while the run can write no more, or it puts
another one there.
-/
theorem Racing.detector_enqueues (racing : Racing race id pair jobs run (.found row) world)
    (permitted
      : RecoversInTurn race id world .detector (.queueAdd (StaleJobDetector.jobOf row)))
    : ∃ next,
        recoveryContract.answers (.found row) (.queueAdd (StaleJobDetector.jobOf row))
          (race.handlers .detector (.queueAdd (StaleJobDetector.jobOf row)) world).1 next
        ∧ Racing race id pair jobs run next
            (race.handlers .detector (.queueAdd (StaleJobDetector.jobOf row)) world).2 := by
  cases faulty
    : race.system.env.fault race.detectorProcess world
        (.queueAdd (StaleJobDetector.jobOf row)) with
  | some error =>
      have failed
          : (race.handlers .detector (.queueAdd (StaleJobDetector.jobOf row)) world).1
            = .error error := by
        simp only [RecoveryRace.handlers, system, performCall, faulty]
      refine ⟨.scanning, .inr ⟨⟨error, failed⟩, rfl⟩, ?_⟩
      refine racing.detector_passes (by rintro ⟨⟩) (by rintro ⟨⟩) (written?_of_target? rfl) ?_
        (fun _ same => by cases same)
      intro job added
      have rejected
          : (Entry.answering race.system.env race.detectorProcess
              (.queueAdd (StaleJobDetector.jobOf row)) world).result = .error error :=
        failed
      simp only [Entry.added?, rejected] at added
      cases added
  | none =>
      have returned
          : (race.handlers .detector (.queueAdd (StaleJobDetector.jobOf row)) world).1
            = .ok () := by
        simp only [RecoveryRace.handlers, system, performCall, faulty]
      have added
          : (Entry.answering race.system.env race.detectorProcess
              (.queueAdd (StaleJobDetector.jobOf row)) world).added?
            = some (StaleJobDetector.jobOf row) := by
        simp only [Entry.added?, Entry.answering, system, performCall, faulty]
        rfl
      refine ⟨.enqueued row.id, .inl ⟨row, rfl, returned, rfl⟩, ?_⟩
      cases concerns : world.isJobFor id (StaleJobDetector.jobOf row) with
      | true => exact racing.detector_enqueues_own permitted added concerns
      | false => exact racing.detector_enqueues_other added concerns

end

/-- The detector marks the delivery PENDING right after it has put it in the queue, or it
marks another one.
-/
theorem Racing.detector_marks {other : String}
    (racing : Racing race id pair jobs run (.enqueued other) world)
    (permitted
      : RecoversInTurn race id world .detector
          (.database (.deliveryUpdate other { status := some .pending })))
    : Racing race id pair jobs run .scanning
        (race.handlers .detector
          (.database (.deliveryUpdate other { status := some .pending })) world).2 := by
  by_cases here : other = id
  · subst here
    refine racing.detector_frame ?_ (fun _ same => by cases same)
    obtain ⟨status, stored, state⟩ := racing.state
    have written :=
      status?_system race.system.env race.detectorProcess
        (.database (.deliveryUpdate other { status := some .pending })) world stored
    have marks
        : (Entry.answering race.system.env race.detectorProcess
            (.database (.deliveryUpdate other { status := some .pending }))
            world).written? other = some .pending := by
      have targeted
          : (SystemCall.database
              (.deliveryUpdate other { status := some .pending })).target? other
            = some .pending := by
        rw [SystemCall.target?, if_pos rfl]
      obtain ⟨row, found, _⟩ := World.status?_eq_some.mp stored
      have faultless := permitted.2 targeted
      simp only [Entry.written?, Entry.answering, system, performCall, faultless,
        performDatabase, dateTimeArgument, found]
      exact targeted
    rw [marks] at written
    refine ⟨.pending, written, ?_⟩
    cases state with
    | untouched _ elsewhere => exact absurd rfl elsewhere
    | enqueued _ _ _ unread claims =>
        refine .recovered rfl ?_ claims (by rintro ⟨⟩)
        intro seen same
        cases unread.symm.trans same
    | recovered _ _ _ elsewhere => exact absurd rfl elsewhere
  · have untargeted
        : (SystemCall.database
            (.deliveryUpdate other { status := some .pending })).target? id = none := by
      rw [SystemCall.target?, if_neg here]
    refine racing.detector_passes ?_ (by rintro ⟨⟩) (written?_of_target? untargeted) ?_
      (fun _ same => by cases same)
    · exact fun same => here (RecoveryPhase.enqueued.inj same)
    · intro job added
      exact absurd added (added?_of_job? rfl job)

/-- A call of the detector keeps the race, by cases on the call. -/
theorem Racing.detector (racing : Racing race id pair jobs run recovery world)
    (allowed : recoveryContract.allows recovery call)
    (permitted : RecoversInTurn race id world .detector call)
    : ∃ next,
        recoveryContract.answers recovery call (race.handlers .detector call world).1 next
        ∧ Racing race id pair jobs run next (race.handlers .detector call world).2 := by
  -- a call that neither writes nor adds anything, from a scan to a scan
  have scans
      : recovery = .scanning
        → call.target? id = none
        → call.job? = none
        → Racing race id pair jobs run .scanning (race.handlers .detector call world).2 := by
    intro scanning untargeted jobless
    subst scanning
    refine racing.detector_passes nofun nofun (written?_of_target? untargeted) ?_
      (fun _ same => nomatch same)
    intro job added
    exact absurd added (added?_of_job? jobless job)
  cases call with
  | now => exact ⟨.scanning, ⟨⟨_, rfl⟩, rfl⟩, scans allowed rfl rfl⟩
  | external call => exact allowed.elim
  | queueAdd job =>
      obtain ⟨row, rfl, rfl⟩ := allowed
      exact racing.detector_enqueues permitted
  | database call =>
      cases call with
      | deliveryFindStale time => exact ⟨.scanning, rfl, scans allowed rfl rfl⟩
      | deliveryCountStale time => exact ⟨.scanning, rfl, scans allowed rfl rfl⟩
      | deliveryFindUnique other =>
          obtain rfl : recovery = .scanning := allowed
          exact racing.detector_finds other
      | deliveryUpdate other data =>
          obtain ⟨rfl, rfl⟩ := allowed
          exact ⟨.scanning, rfl, racing.detector_marks permitted⟩
      | _ => exact allowed.elim

/-- A run never marks its delivery PENDING. -/
theorem RunStep.unpending {status : DeliveryStatus} {entry : Entry} {next : RunPhase}
    (step : RunStep id run status entry next)
    : entry.written? id ≠ some .pending := by
  intro written
  have targeted := target?_of_written? written
  cases step with
  | passed _ _ unwritten => cases unwritten.symm.trans written
  | looked reads => cases (unwritten_of_lookup reads).symm.trans written
  | refused failed _ =>
      obtain ⟨error, failed⟩ := failed
      simp only [Entry.written?, failed] at written
      cases written
  | sent sends _ =>
      obtain ⟨process, call, result⟩ := entry
      cases call <;> contradiction
  | @wrote target same may =>
      obtain rfl := Option.some.inj (same.symm.trans written)
      cases may.2

/-- A status that is final stays so, unless PENDING is written. -/
theorem getD_unpending {status : DeliveryStatus} (final : status.isFinal = true)
    {written : Option DeliveryStatus} (other : written ≠ some .pending)
    : some (written.getD status) ≠ some DeliveryStatus.pending := by
  intro same
  cases written with
  | some target => exact other same
  | none =>
      obtain rfl : status = .pending := Option.some.inj same
      contradiction

/-- No call of the run marks a finished delivery PENDING. -/
theorem worker_unpending (race : RecoveryRace) {status : DeliveryStatus}
    (stored : world.status? id = some status) (final : status.isFinal = true)
    (allowed : (sharedContract id).allows run call)
    : (race.handlers .worker call world).2.status? id ≠ some .pending := by
  obtain ⟨_, step⟩ := runStep_system race.system.env race.run.process stored allowed
  rw [RecoveryRace.handlers, status?_system _ _ _ _ stored]
  exact getD_unpending final step.unpending

/-- Nor does one of the detector, unless it has just put the delivery in the queue. -/
theorem detector_unpending (race : RecoveryRace) {status : DeliveryStatus}
    (stored : world.status? id = some status) (final : status.isFinal = true)
    (elsewhere : recovery ≠ .enqueued id) (allowed : recoveryContract.allows recovery call)
    : (race.handlers .detector call world).2.status? id ≠ some .pending := by
  rw [RecoveryRace.handlers, status?_system _ _ _ _ stored]
  refine getD_unpending final ?_
  intro written
  have targeted := target?_of_written? written
  obtain ⟨data, rfl⟩ : ∃ data, call = .database (.deliveryUpdate id data) := by
    cases call with
    | database call =>
        cases call with
        | deliveryUpdate other data =>
            by_cases same : other = id
            · exact ⟨data, by rw [same]⟩
            · simp only [Entry.answering, SystemCall.target?, if_neg same] at targeted
              cases targeted
        | _ => contradiction
    | _ => contradiction
  exact elsewhere allowed.1

end

end

namespace Party

/-- What is noted of each process. -/
abbrev Phase : Party → Type
  | worker => RunPhase
  | detector => RecoveryPhase

def contract (id : String) : (party : Party) → Contract SystemSignature Thrown party.Phase
  | worker => sharedContract id
  | detector => recoveryContract

def initial : (party : Party) → party.Phase
  | worker => { stage := .looking }
  | detector => .scanning

end Party

/-- The race of two processes in the given phases. -/
def RacingIn (race : RecoveryRace) (id : String) (pair : String × String) (jobs : List Job)
    (phases : (party : Party) → party.Phase) (world : World)
    : Prop :=
  Racing race id pair jobs (phases .worker) (phases .detector) world

/-- A call of either process keeps the race. -/
theorem racing_step {race : RecoveryRace} {id : String} {pair : String × String}
    {jobs : List Job} {phases : (party : Party) → party.Phase} {world : World} {party : Party}
    {call : SystemCall} (racing : RacingIn race id pair jobs phases world)
    (allowed : (party.contract id).allows (phases party) call)
    (permitted : RecoversInTurn race id world party call)
    : ∃ next,
        (party.contract id).answers (phases party) call (race.handlers party call world).1 next
        ∧ RacingIn race id pair jobs (Function.update phases party next)
            (race.handlers party call world).2 := by
  cases party with
  | worker =>
      obtain ⟨next, answered, kept⟩ := racing.worker allowed permitted
      exact ⟨next, answered, kept⟩
  | detector =>
      obtain ⟨next, answered, kept⟩ := racing.detector allowed permitted
      exact ⟨next, answered, kept⟩

/-- In every interleaving in which the detector recovers the delivery in turn, it leaves a
finished delivery alone.
-/
theorem recovery_respects_outcome (race : RecoveryRace) {id : String}
    (named : DeliveryExecutor.argumentId race.run.deliveryOrId = id) {world : World}
    {pair : String × String} (paired : world.pair? id = some pair)
    (unique : ∀ other, world.pair? other = some pair → other = id)
    (fresh : world.history = [])
    : race.RespectsOutcome (RecoversInTurn race id) id world := by
  intro config reached finished
  have started
      : RacingIn race id pair (world.jobsFor id) Party.initial (race.start world).world := by
    obtain ⟨row, found, _⟩ := Option.map_eq_some_iff.mp paired
    refine ⟨⟨row.status, ?_, .untouched rfl nofun⟩, paired, unique, ?_, ?_, ?_⟩
    · exact World.status?_eq_some.mpr ⟨row, found, rfl⟩
    · exact fun _ same => nomatch same
    · rw [RecoveryRace.start, fresh]
      exact nofun
    · exact fun seen => absurd rfl seen
  have met
      : ∀ party,
          ((race.start world).process party).Meets (party.contract id) party.initial
            (fun _ _ => True) := by
    intro party
    cases party with
    | worker =>
        rw [RecoveryRace.start, ← named, Program.meets_bind]
        refine (execute_shared race.system.production race.system.logger race.run.config
          race.run.deliveryOrId race.run.destinationArg).mono ?_
        intro outcome after _
        cases outcome <;> trivial
    | detector => exact performDetector_meets race.system.production race.calls
  obtain ⟨phases, owed, racing⟩ :=
    reached.invariant
      (fun phases world party call racing allowed permitted =>
        racing_step racing allowed permitted)
      met started
  obtain ⟨status, stored, final⟩ := finished
  obtain ⟨same, held, state⟩ := racing.state
  obtain rfl : same = status := Option.some.inj (held.symm.trans stored)
  cases state with
  | enqueued _ _ claimed _ _ =>
      subst claimed
      contradiction
  | recovered pending _ _ _ =>
      subst pending
      contradiction
  | untouched kept elsewhere =>
      refine ⟨kept, ?_⟩
      intro next step
      cases step with
      | @await chosen op rest found permitted =>
          have here := owed chosen
          rw [found] at here
          rw [Configuration.advance_call found]
          cases chosen with
          | worker => exact worker_unpending race stored final here.1
          | detector => exact detector_unpending race stored final elsewhere here.1

/-- A worker whose calls take ten seconds each, and a detector that scans once. -/
def slowRace : RecoveryRace where
  system := {
    WorkerSystem.answering (breakerAnswers false) with
    env := {
      Environment.answering (breakerAnswers false) with
      clock := fun world => 10000 * world.history.length
    }
  }
  run := { WorkerRun.breaking with config := .bare }
  calls := [.detectStale]
  detectorProcess := 1
  apart := by decide

/-- What a schedule makes of the race for a pending delivery. -/
def slowRaceAfter (schedule : List Party)
    : Configuration SystemSignature Thrown Party Unit World :=
  (slowRace.start (World.ofDelivery (.fresh .pending))).follow slowRace.handlers schedule

/-- A scan before the claim leaves the delivery alone. -/
theorem recovery_respects_outcome_early
    : (slowRaceAfter
          (List.replicate 3 .detector ++ List.replicate 15 .worker)).world.status? "delivery"
        = some .completed
      ∧ (slowRaceAfter
          (List.replicate 3 .detector ++ List.replicate 15 .worker)).world.jobsFor "delivery"
        = [] := by
  have unique
      : ∀ other,
          (World.ofDelivery (.fresh .pending)).pair? other = some ("task-result", "destination")
          → other = "delivery" := by
    intro other paired
    obtain ⟨row, found, _⟩ := Option.map_eq_some_iff.mp paired
    obtain rfl := List.mem_singleton.mp (List.mem_of_find?_eq_some found)
    exact (World.delivery?_id found).symm
  refine ⟨rfl, ?_⟩
  exact
    (recovery_respects_outcome slowRace rfl rfl unique rfl _
      (Configuration.reachable_follow
        (List.replicate 3 .detector ++ List.replicate 15 .worker) _ rfl)
      ⟨.completed, rfl, rfl⟩).1

/-- A scan during the transmission finds the delivery stale. The run completes it between the
two calls of the recovery, which marks it PENDING all the same.
-/
theorem recovery_reopens_completed
    : ¬slowRace.RespectsOutcome (fun _ _ _ => True) "delivery"
        (World.ofDelivery (.fresh .pending)) := by
  intro respects
  have finished
      : Finished "delivery"
          (slowRaceAfter (List.replicate 6 .worker ++ List.replicate 5 .detector
            ++ List.replicate 9 .worker)).world :=
    ⟨.completed, rfl, rfl⟩
  have reached
      : Configuration.Reachable slowRace.handlers (fun _ _ _ => True)
          (slowRace.start (World.ofDelivery (.fresh .pending)))
          (slowRaceAfter (List.replicate 6 .worker ++ List.replicate 5 .detector
            ++ List.replicate 9 .worker)) :=
    Configuration.reachable_follow _ _ rfl
  have marked :=
    (respects _ reached finished).2
      ((slowRaceAfter (List.replicate 6 .worker ++ List.replicate 5 .detector
        ++ List.replicate 9 .worker)).advance slowRace.handlers .detector)
      (.await rfl trivial)
  exact marked rfl

end QueueForge.Worker
