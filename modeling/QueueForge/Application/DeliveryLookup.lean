import QueueForge.Application.FinishedDeliveries
import QueueForge.Application.ProcessingSteps

/-! Which delivery a service works on when it looks one up through
`PrismaDeliveryLogRepository`, which finds deliveries by their task results only.
-/

namespace QueueForge.Application

open QueueForge.Async QueueForge.Js QueueForge.Domain QueueForge.Infrastructure

/-- A call of a service that works on the delivery of an identifier. -/
inductive DeliveryServiceCall where
  | processDelivery (destinationParam : Option DeliveryTarget)
  | retry (call : RetryServiceCall)

namespace DeliveryServiceCall

variable (config : ServiceConfig) (deliveryId : String)

/-- The method the call runs, whatever it resolves to. -/
def body : DeliveryServiceCall → ServiceProgram Unit
  | processDelivery destinationParam =>
      (fun _ => ())
        <$> ProcessDeliveryService.processDelivery config deliveryId destinationParam
  | retry call => call.body config deliveryId

/-- The lookup the method starts with. -/
def lookup : DeliveryServiceCall → ServiceProgram (Option Delivery)
  | processDelivery _ => some <$> loadDelivery config deliveryId
  | retry call => call.lookup config deliveryId

end DeliveryServiceCall

/-! What a service saves is the delivery it works on. -/

/-- A call that saves and records attempts of nothing but the delivery of the identifier. -/
def WorksOn (id : String) : ServiceCall → Prop
  | .save saved _ => saved.id = id
  | .recordAttempt deliveryId _ _ => deliveryId = id
  | _ => True

section
variable {id : String} {config : ServiceConfig} {delivery : Delivery}

/-- A program made of one such call. -/
theorem awaits_own {call : ServiceCall} (own : WorksOn id call)
    : Program.Awaits (α := no_index call.Result) (S := ServiceSignature) (WorksOn id)
        (awaitCall call) :=
  Program.Awaits.perform (S := ServiceSignature) own

/-- After a method call the service goes on with the same entity. -/
theorem awaits_applied {α : Type} {property : ServiceCall → Prop} {mutation : Mutation Unit}
    {next : Delivery → ServiceProgram α} (keeps : Delivery.Keeps mutation delivery)
    (rest : ∀ after, delivery.SameEntity after → (next after).Awaits property)
    : ((applied mutation delivery).bind next).Awaits property := by
  unfold applied
  rcases result : mutation.apply delivery with ⟨error | value, after⟩
  · trivial
  · exact rest after (keeps after result)

namespace ProcessDeliveryService

theorem chooseDestination_own {destinationParam : Option DeliveryTarget}
    : (chooseDestination config delivery destinationParam).Awaits (WorksOn id) := by
  cases destinationParam with
  | some destination => trivial
  | none =>
      refine .bind (awaits_ifPresent (awaits_own trivial)) (fun found => ?_)
      cases found <;> trivial

theorem beginProcessing_own {α : Type} {next : Delivery → ServiceProgram α} (runtime : Runtime)
    (rest : ∀ after, delivery.SameEntity after → (next after).Awaits (WorksOn id))
    : ((beginProcessing runtime delivery).bind next).Awaits (WorksOn id) := by
  unfold beginProcessing
  split
  · exact rest delivery (.refl delivery)
  · exact awaits_applied (Delivery.markAsProcessing_keeps runtime) rest

theorem transmit_own {destination : DeliveryTarget} {payload : Value}
    : (transmit config id delivery destination payload).Awaits (WorksOn id) := by
  refine .bind (awaits_own trivial) (fun started => ?_)
  split
  · refine .bind ?_ (fun answer => .bind (awaits_own trivial) (fun settledAt => ?_))
    · rw [Program.Awaits, Program.meets_settle]
      exact awaits_own trivial
    · exact meets_settled.mpr trivial
  · trivial

theorem recordAttempt_own {outcome : Outcome}
    : (recordAttempt config id delivery outcome).Awaits (WorksOn id) := by
  unfold recordAttempt
  split
  · exact .catchError (awaits_own rfl) (fun _ => awaits_own rfl)
  · trivial

theorem updateState_own {α : Type} {next : Delivery → ServiceProgram α} (runtime : Runtime)
    {outcome : Outcome}
    (rest : ∀ after, delivery.SameEntity after → (next after).Awaits (WorksOn id))
    : ((updateState runtime outcome delivery).bind next).Awaits (WorksOn id) := by
  unfold updateState
  split
  · exact awaits_applied (Delivery.markAsCompleted_keeps runtime none) rest
  · split
    · exact awaits_applied (Delivery.scheduleRetry_keeps runtime _) rest
    · exact awaits_applied (Delivery.moveToDeadLetterQueue_keeps runtime _) rest

/-- Processing a delivery saves no other. -/
theorem deliver_own {destinationParam : Option DeliveryTarget} (named : delivery.id = id)
    : (deliver config id destinationParam delivery).Awaits (WorksOn id) := by
  refine .bind chooseDestination_own (fun destination => ?_)
  refine .bind (awaits_own trivial) (fun runtime => ?_)
  refine beginProcessing_own runtime (fun processing same => ?_)
  refine .bind (awaits_own (same.id.trans named)) (fun _ => ?_)
  refine .bind (.bind (awaits_ifPresent (awaits_own trivial)) (fun _ => trivial)) (fun payload => ?_)
  refine .bind transmit_own (fun outcome => ?_)
  refine .bind recordAttempt_own (fun _ => ?_)
  refine .bind (awaits_own trivial) (fun runtime => ?_)
  refine updateState_own runtime (fun updated sameUpdated => ?_)
  have noted := same.trans (noteAttempt_keeps.1.trans sameUpdated)
  exact .bind (awaits_own (noted.id.trans named)) (fun _ => trivial)

end ProcessDeliveryService

/-- Marking a delivery PROCESSING where the services do it goes on with the same entity. -/
theorem startProcessing_own {α : Type} {next : Delivery → ServiceProgram α} (runtime : Runtime)
    (rest : ∀ after, delivery.SameEntity after → (next after).Awaits (WorksOn id))
    : ((startProcessing runtime delivery).bind next).Awaits (WorksOn id) := by
  obtain ⟨after, started, same, _⟩ := startProcessing_returns runtime delivery
  rw [started]
  exact rest after same

namespace HandleFailureService

theorem markFailed_keeps (runtime : Runtime) (error : FailureArgument) (verdict : Value)
    : Delivery.Keeps (markFailed runtime error verdict) delivery := by
  by_cases recorded : error.usable = true ∧ recordable verdict = true
  · obtain ⟨after, returned, same, _⟩ :=
      @markFailed_spec runtime delivery _ _ recorded.1 recorded.2
    exact Delivery.keeps_of_returns returned same
  · obtain ⟨thrown, throws⟩ := markFailed_throws runtime delivery (not_and_or.mp recorded)
    exact Delivery.keeps_of_throws throws

/-- Recording a failure saves no other delivery. -/
theorem recordFailure_own {error : ReportedError} {verdict : FailureVerdict}
    (named : delivery.id = id)
    : (recordFailure config id error verdict delivery).Awaits
        (WorksOn id) := by
  have published
      : ∀ event, (publish config event).Awaits (WorksOn id) := by
    intro event
    unfold publish
    split
    · exact awaits_own trivial
    · trivial
  refine .bind (meets_settled.mpr trivial) (fun isRetryable => .bind ?_ (fun _ => ?_))
  · unfold recordAttempt
    split
    · exact awaits_own rfl
    · trivial
  refine .bind (awaits_own trivial) (fun runtime => ?_)
  refine startProcessing_own runtime (fun processing sameProcessing => ?_)
  refine awaits_applied (markFailed_keeps runtime _ _) (fun failed sameFailed => ?_)
  have same := sameProcessing.trans sameFailed
  split
  · refine awaits_applied (Delivery.scheduleRetry_keeps runtime _) (fun scheduled next => ?_)
    exact .bind (published _) (fun _ => awaits_own ((same.trans next).id.trans named))
  · refine awaits_applied (Delivery.moveToDeadLetterQueue_keeps runtime _) (fun dead next => ?_)
    exact .bind (published _) (fun _ => awaits_own ((same.trans next).id.trans named))

end HandleFailureService

/-- Rescheduling a delivery saves no other. -/
theorem ScheduleRetryService.reschedule_own
    {retryCountOrStrategy maxRetriesOrStrategy : RetryOption} (named : delivery.id = id)
    : (ScheduleRetryService.reschedule config id retryCountOrStrategy
        maxRetriesOrStrategy delivery).Awaits (WorksOn id) := by
  refine .bind (meets_settled.mpr trivial) (fun maximum => ?_)
  refine .bind (awaits_own trivial) (fun runtime => ?_)
  dsimp only
  split
  · refine awaits_applied (Delivery.moveToDeadLetterQueue_keeps runtime _) (fun dead same => ?_)
    exact .bind (awaits_own (same.id.trans named)) (fun _ => trivial)
  · refine .bind (meets_settled.mpr trivial) (fun delay => ?_)
    refine startProcessing_own runtime (fun processing sameProcessing => ?_)
    refine awaits_applied (Delivery.scheduleRetry_keeps runtime _) (fun scheduled next => ?_)
    refine .bind (awaits_own ((sameProcessing.trans next).id.trans named)) (fun _ => ?_)
    unfold ScheduleRetryService.enqueue
    split
    · exact awaits_own trivial
    · exact awaits_own trivial
    · trivial
    · trivial

namespace RetryScheduler

theorem reschedule_own {retryCount delayMs : Number} (named : delivery.id = id)
    : (reschedule id retryCount delayMs (some delivery)).Awaits
        (WorksOn id) := by
  refine .bind (awaits_own trivial) (fun runtime => ?_)
  have scheduled
      : ∀ processing,
          delivery.SameEntity processing
          → (Program.bind
                (applied
                  (Delivery.scheduleRetry runtime
                    (.date (Date.ofNumber (Number.add (.ofInt runtime.now) delayMs))))
                  processing)
                (fun scheduled => do
                  awaitCall (.save scheduled [])
                  awaitCall
                    (.enqueueDelivery scheduled.taskResultId scheduled.destinationId
                      (retryCount.add 1) (.number delayMs)))).Awaits
              (WorksOn id) := by
    intro processing same
    refine awaits_applied (Delivery.scheduleRetry_keeps runtime _) (fun scheduled next => ?_)
    exact .bind (awaits_own ((same.trans next).id.trans named)) (fun _ => awaits_own trivial)
  dsimp only
  split
  · exact awaits_applied (Delivery.markAsProcessing_keeps runtime) scheduled
  · exact scheduled delivery (.refl delivery)

theorem cancel_own (named : delivery.id = id)
    : (cancel (some delivery)).Awaits (WorksOn id) := by
  refine .bind (awaits_own trivial) (fun runtime => ?_)
  have cancelled
      : ∀ processing,
          delivery.SameEntity processing
          → (Program.bind
                (applied
                  (Delivery.moveToDLQ runtime (.string "Retry cancelled by supervisor action"))
                  processing)
                (fun cancelled => awaitCall (.save cancelled []))).Awaits
              (WorksOn id) := by
    intro processing same
    refine awaits_applied (Delivery.moveToDeadLetterQueue_keeps runtime _) (fun dead next => ?_)
    exact awaits_own ((same.trans next).id.trans named)
  dsimp only
  split
  · exact awaits_applied (Delivery.markAsProcessing_keeps runtime) cancelled
  · exact cancelled delivery (.refl delivery)

end RetryScheduler

end

/-! The services over the repository. -/

/-- The services find deliveries as `PrismaDeliveryLogRepository` lets them. -/
structure OverPrisma (config : ServiceConfig) : Prop where
  findById : config.findById = false
  findByTaskResultId : config.findByTaskResultId = true

/-- An attempt log over the same database. -/
abbrev AttemptLog : Type :=
  String → Option Int → AttemptData → ServiceWorld → Settled Thrown Unit × ServiceWorld

/-- The log changes no delivery but the one it is given. -/
def AttemptLog.OwnRow (attemptLog : AttemptLog) : Prop :=
  ∀ deliveryId attemptNumber data world other,
    other ≠ deliveryId
    → (attemptLog deliveryId attemptNumber data world).2.database.delivery? other
      = world.database.delivery? other

/-- The deployment with an attempt log. -/
def prismaServices (attemptLog : AttemptLog) (env : ServiceEnvironment)
    : Handler ServiceSignature Thrown ServiceWorld
  | .recordAttempt deliveryId attemptNumber data, world =>
      attemptLog deliveryId attemptNumber data world
  | call, world => deployment env call world

section
variable {config : ServiceConfig} {attemptLog : AttemptLog} {env : ServiceEnvironment}
  {world : ServiceWorld}

/-- What a lookup finds: the delivery that is chosen of those with the task result of the
identifier.
-/
def ChosenFor (world : ServiceWorld) (id : String) (found : Settled Thrown (Option Delivery))
    : Prop :=
  ∀ delivery,
    found = .ok (some delivery)
    ↔ ∃ deliveries,
        PrismaDeliveryLogRepository.toDomainAll
            (world.database.deliveries.filter (fun row => row.taskResultId = id))
          = .ok deliveries
        ∧ chosenDelivery id deliveries = some delivery

/-- Every lookup of an identifier finds that delivery and changes nothing. -/
theorem run_lookup (wired : OverPrisma config) (call : DeliveryServiceCall) (id : String)
    (working : env.fault world (.deliveryFindMany id) = none)
    : ∃ found,
        (call.lookup config id).run (prismaServices attemptLog env) world = (found, world)
        ∧ ChosenFor world id found := by
  have queried
      : Program.run (prismaServices attemptLog env) (awaitCall (.findByTaskResultId id)) world
        = (PrismaDeliveryLogRepository.toDomainAll
              (world.database.deliveries.filter (fun row => row.taskResultId = id)),
            world) :=
    run_awaitCall.trans
      (PrismaDeliveryLogRepository.run_findByTaskResultId_of_working id world working)
  have loaded
      : ∃ found,
          (some <$> loadDelivery config id).run (prismaServices attemptLog env) world
            = (found, world)
          ∧ ChosenFor world id found := by
    simp only [loadDelivery, ifPresent, wired.findById, wired.findByTaskResultId, if_true,
      Bool.false_eq_true, if_false, Program.bind_eq, Program.map_eq, Program.bind,
      Program.run_bind, queried]
    cases converted : PrismaDeliveryLogRepository.toDomainAll
        (world.database.deliveries.filter (fun row => row.taskResultId = id)) with
    | error error => exact ⟨.error error, rfl, fun delivery => by simp [converted]⟩
    | ok deliveries =>
        dsimp only
        cases chosen : chosenDelivery id deliveries with
        | none =>
            refine ⟨.error (.error (deliveryNotFoundError id)), rfl, fun delivery => ?_⟩
            simp [converted, chosen]
        | some delivery =>
            exact ⟨.ok (some delivery), rfl, fun delivery => by simp [converted, chosen]⟩
  have scheduled
      : ∃ found,
          (RetryScheduler.findDelivery id).run (prismaServices attemptLog env) world
            = (found, world)
          ∧ ChosenFor world id found := by
    simp only [RetryScheduler.findDelivery, Program.bind_eq, Program.run_bind, queried]
    cases converted : PrismaDeliveryLogRepository.toDomainAll
        (world.database.deliveries.filter (fun row => row.taskResultId = id)) with
    | error error => exact ⟨.error error, rfl, fun delivery => by simp [converted]⟩
    | ok deliveries =>
        exact ⟨.ok (chosenDelivery id deliveries), rfl, fun delivery => by simp [converted]⟩
  cases call with
  | processDelivery destinationParam => exact loaded
  | retry call =>
      cases call with
      | scheduleRetry retryCountOrStrategy maxRetriesOrStrategy => exact loaded
      | handleFailure error verdict => exact loaded
      | schedulerScheduleRetry configuredMaxRetries retryCount delayMs => exact scheduled
      | schedulerCancelRetry => exact scheduled

end

/-- The contract of a service whose first lookup finds no delivery but that of the identifier:
it works on no other. The phase tells whether nothing but lookups has happened yet.
-/
def lookingUp (id : String) : Contract ServiceSignature Thrown Bool where
  allows _ call := WorksOn id call
  answers fresh call result after :=
    match call, result with
    | .findByTaskResultId taskResultId, result =>
        (fresh = true
          → taskResultId = id
          → ∀ deliveries, result = .ok deliveries → ∀ delivery ∈ deliveries, delivery.id = id)
        ∧ after = fresh
    | _, _ => after = false

section
variable {id : String} {config : ServiceConfig}

/-- The chosen delivery is one of those it is chosen from. -/
theorem mem_of_chosenDelivery {deliveries : List Delivery} {delivery : Delivery}
    (chosen : chosenDelivery id deliveries = some delivery)
    : delivery ∈ deliveries := by
  unfold chosenDelivery at chosen
  cases found : deliveries.find? (fun delivery => delivery.id = id) with
  | some other =>
      rw [found] at chosen
      obtain rfl : other = delivery := Option.some.inj chosen
      exact List.mem_of_find?_eq_some found
  | none =>
      rw [found, Option.none_or] at chosen
      exact List.mem_of_head? chosen

/-- The query of a fresh service gives deliveries of the identifier. -/
theorem meets_query
    {post : Settled Thrown (List Delivery) → Bool → Prop}
    (owed
      : ∀ result,
          (∀ deliveries, result = .ok deliveries → ∀ delivery ∈ deliveries, delivery.id = id)
          → post result true)
    : Program.Meets (α := no_index (ServiceCall.findByTaskResultId id).Result) (lookingUp id)
        (awaitCall (.findByTaskResultId id)) true post := by
  refine meets_awaitCall.mpr ⟨trivial, ?_⟩
  rintro result _ ⟨named, rfl⟩
  exact owed result (named rfl rfl)

/-- So a lookup gives the delivery of the identifier, if any. -/
theorem loadDelivery_meets (wired : OverPrisma config)
    : (loadDelivery config id).Meets (lookingUp id) true
        (fun outcome _ => ∀ delivery, outcome = .ok delivery → delivery.id = id) := by
  simp only [loadDelivery, ifPresent, wired.findById, wired.findByTaskResultId, if_true,
    Bool.false_eq_true, if_false, Program.bind_eq, Program.bind, Program.meets_bind]
  refine meets_query (fun result named => ?_)
  cases result with
  | error error =>
      intro delivery settled
      cases settled
  | ok deliveries =>
      dsimp only
      cases chosen : chosenDelivery id deliveries with
      | none =>
          intro delivery settled
          cases settled
      | some delivery =>
          intro other settled
          obtain rfl : delivery = other := Except.ok.inj settled
          exact named deliveries rfl delivery (mem_of_chosenDelivery chosen)

theorem findDelivery_meets
    : (RetryScheduler.findDelivery id).Meets (lookingUp id) true
        (fun outcome _ => ∀ delivery, outcome = .ok (some delivery) → delivery.id = id) := by
  simp only [RetryScheduler.findDelivery, Program.bind_eq, Program.meets_bind]
  refine meets_query (fun result named => ?_)
  cases result with
  | error error =>
      intro delivery settled
      cases settled
  | ok deliveries =>
      intro delivery settled
      exact named deliveries rfl delivery (mem_of_chosenDelivery (Except.ok.inj settled))

/-- What works on the delivery of the identifier keeps the contract in any phase. -/
theorem meets_own {α : Type} {program : ServiceProgram α} (own : program.Awaits (WorksOn id))
    (fresh : Bool)
    : program.Meets (lookingUp id) fresh (fun _ _ => True) :=
  own.meets (fun _ _ _ owned => owned) (fun _ _ _ _ _ _ _ => trivial) trivial

/-- A service keeps the contract from its first lookup, by cases on the service. -/
theorem body_meets (wired : OverPrisma config) (call : DeliveryServiceCall)
    : (call.body config id).Meets (lookingUp id) true (fun _ _ => True) := by
  have afterLoad
      : ∀ {α : Type} {next : Delivery → ServiceProgram α},
          (∀ delivery, delivery.id = id → (next delivery).Awaits (WorksOn id))
          → ((loadDelivery config id).bind next).Meets (lookingUp id) true
              (fun _ _ => True) := by
    intro α next own
    rw [Program.meets_bind]
    refine (loadDelivery_meets wired).mono ?_
    rintro (error | delivery) fresh named
    · trivial
    · exact meets_own (own delivery (named delivery rfl)) fresh
  have afterFind
      : ∀ {next : Option Delivery → ServiceProgram Unit},
          (next none).Awaits (WorksOn id)
          → (∀ delivery, delivery.id = id → (next (some delivery)).Awaits (WorksOn id))
          → ((RetryScheduler.findDelivery id).bind next).Meets (lookingUp id) true
              (fun _ _ => True) := by
    intro next missing own
    rw [Program.meets_bind]
    refine findDelivery_meets.mono ?_
    rintro (error | _ | delivery) fresh named
    · trivial
    · exact meets_own missing fresh
    · exact meets_own (own delivery (named delivery rfl)) fresh
  cases call with
  | processDelivery destinationParam =>
      simp only [DeliveryServiceCall.body, ProcessDeliveryService.processDelivery,
        Program.map_eq, Program.bind_eq]
      rw [Program.meets_bind, Program.meets_catchError]
      refine (afterLoad (fun _ named => ProcessDeliveryService.deliver_own named)).mono ?_
      rintro (error | result) fresh _ <;> trivial
  | retry call =>
      cases call with
      | scheduleRetry retryCountOrStrategy maxRetriesOrStrategy =>
          exact afterLoad (fun _ named => ScheduleRetryService.reschedule_own named)
      | handleFailure error verdict =>
          exact afterLoad (fun _ named => HandleFailureService.recordFailure_own named)
      | schedulerScheduleRetry configuredMaxRetries retryCount delayMs =>
          simp only [DeliveryServiceCall.body, RetryServiceCall.body,
            RetryScheduler.scheduleRetry]
          split
          · trivial
          · exact afterFind trivial (fun _ named => RetryScheduler.reschedule_own named)
      | schedulerCancelRetry =>
          exact afterFind trivial (fun _ named => RetryScheduler.cancel_own named)

end

/-- The law of the lookups: by the identifier of a stored delivery every service finds the
entity of that delivery, by any other it finds none, what it reads of deliveries has the
identifier, and a call leaves every other delivery as it was.
-/
structure LooksUpById (config : ServiceConfig) (attemptLog : AttemptLog)
    (env : ServiceEnvironment) (world : ServiceWorld)
    : Prop where
  loads
    : ∀ row ∈ world.database.deliveries,
        ∃ delivery,
          PrismaDeliveryLogRepository.toDomain row = .ok delivery
          ∧ ∀ call : DeliveryServiceCall,
              ((call.lookup config row.id).run (prismaServices attemptLog env) world).1
              = .ok (some delivery)
  fails
    : ∀ id,
        (∀ row ∈ world.database.deliveries, row.id ≠ id)
        → ∀ (call : DeliveryServiceCall) delivery,
            ((call.lookup config id).run (prismaServices attemptLog env) world).1
            ≠ .ok (some delivery)
  reads
    : ∀ id records,
        (prisma env (.deliveryFindMany id) world).1 = .ok records
        → ∀ record ∈ records, record.id = id
  modifies
    : ∀ (call : DeliveryServiceCall) id other,
        other ≠ id
        → ((call.body config id).run (prismaServices attemptLog env)
            world).2.database.delivery? other
          = world.database.delivery? other

section
variable {config : ServiceConfig} {attemptLog : AttemptLog} {env : ServiceEnvironment}
  {world : ServiceWorld}

/-- The rows with an identifier are the one row that has it. -/
theorem filter_id_of_unique {rows : List DeliveryRow} (unique : (rows.map DeliveryRow.id).Nodup)
    {row : DeliveryRow} (stored : row ∈ rows)
    : rows.filter (fun other => other.id = row.id) = [row] := by
  induction rows with
  | nil => exact nomatch stored
  | cons head tail ih =>
      rw [List.map_cons, List.nodup_cons] at unique
      rcases List.mem_cons.mp stored with rfl | later
      · have others : tail.filter (fun other => other.id = row.id) = [] := by
          rw [List.filter_eq_nil_iff]
          intro other member same
          exact unique.1 (List.mem_map.mpr ⟨other, member, of_decide_eq_true same⟩)
        have first : decide (row.id = row.id) = true := decide_eq_true rfl
        rw [List.filter_cons_of_pos (by exact first), others]
      · have different : ¬head.id = row.id := fun same =>
          unique.1 (List.mem_map.mpr ⟨row, later, same.symm⟩)
        rw [List.filter_cons_of_neg (by simpa using different)]
        exact ih unique.2 later

/-- Two rows with one identifier are the same row. -/
theorem row_eq_of_unique {rows : List DeliveryRow} (unique : (rows.map DeliveryRow.id).Nodup)
    {row other : DeliveryRow} (stored : row ∈ rows) (among : other ∈ rows)
    (same : other.id = row.id)
    : other = row := by
  have member : other ∈ rows.filter (fun other => other.id = row.id) :=
    List.mem_filter.mpr ⟨among, decide_eq_true same⟩
  rw [filter_id_of_unique unique stored] at member
  exact List.mem_singleton.mp member

/-- Over the deployment the services honour the contract of a first lookup, where stored
deliveries have the identifiers of their task results.
-/
theorem honours_lookingUp {id : String} (ownRow : attemptLog.OwnRow)
    (working : ∀ id, env.fault world (.deliveryFindMany id) = none)
    (named : ∀ row ∈ world.database.deliveries, row.taskResultId = row.id)
    : (prismaServices attemptLog env).Honours (lookingUp id)
        (fun fresh after =>
          (fresh = true → after = world)
          ∧ ∀ other,
              other ≠ id → after.database.delivery? other = world.database.delivery? other) := by
  rintro fresh after call ⟨untouched, kept⟩ own
  have unchanged
      : ∀ final : ServiceWorld,
          final.database = after.database
          → (false = true → final = world)
            ∧ ∀ other,
                other ≠ id
                → final.database.delivery? other = world.database.delivery? other := by
    intro final same
    rw [same]
    exact ⟨fun stale => (by cases stale), kept⟩
  cases call with
  | findByTaskResultId taskResultId =>
      refine ⟨fresh, ⟨?_, rfl⟩, ?_⟩
      · rintro first rfl deliveries resolved delivery member
        rw [untouched first] at resolved
        have converted := congrArg Prod.fst
          (PrismaDeliveryLogRepository.run_findByTaskResultId_of_working taskResultId world
            (working taskResultId))
        obtain ⟨record, among, made⟩ :=
          PrismaDeliveryLogRepository.mem_toDomainAll (converted.symm.trans resolved) member
        obtain ⟨stored, queried⟩ := List.mem_filter.mp among
        rw [(PrismaDeliveryLogRepository.toDomain_eq_ok made).1, ← named record stored]
        exact of_decide_eq_true queried
      · have same := @PrismaDeliveryLogRepository.run_findByTaskResultId env taskResultId after
        simp only [prismaServices, deployment, same]
        exact ⟨untouched, kept⟩
  | save saved events =>
      refine ⟨false, rfl, fun stale => (by cases stale), fun other different => ?_⟩
      have elsewhere : other ≠ saved.id := fun same => different (same.trans own)
      exact (PrismaDeliveryLogRepository.delivery?_save_other saved events after elsewhere).trans
        (kept other different)
  | recordAttempt deliveryId attemptNumber data =>
      refine ⟨false, rfl, fun stale => (by cases stale), fun other different => ?_⟩
      have elsewhere : other ≠ deliveryId := fun same => different (same.trans own)
      exact (ownRow deliveryId attemptNumber data after other elsewhere).trans
        (kept other different)
  | enqueueDelivery taskResultId destinationId attempt delay =>
      exact ⟨false, rfl, unchanged _ (enqueueJob_database env _ after)⟩
  | add name deliveryId delay attempts jobId =>
      exact ⟨false, rfl, unchanged _ (enqueueJob_database env _ after)⟩
  | runtime => exact ⟨false, rfl, unchanged _ rfl⟩
  | findById deliveryId => exact ⟨false, rfl, unchanged _ rfl⟩
  | publish event => exact ⟨false, rfl, unchanged _ rfl⟩
  | findDestination destinationId => exact ⟨false, rfl, unchanged _ rfl⟩
  | findResult resultId => exact ⟨false, rfl, unchanged _ rfl⟩
  | post url payload headers timeoutMs => exact ⟨false, rfl, unchanged _ rfl⟩

/-- With unique identifiers and a database that answers queries, the services look deliveries
up by their identifiers exactly when every stored delivery has the identifier of its task
result, and no identifier of it is empty.
-/
theorem services_look_up_by_id (wired : OverPrisma config) (ownRow : attemptLog.OwnRow)
    (unique : (world.database.deliveries.map DeliveryRow.id).Nodup)
    (working : ∀ id, env.fault world (.deliveryFindMany id) = none)
    : LooksUpById config attemptLog env world
      ↔ ∀ row ∈ world.database.deliveries,
          row.taskResultId = row.id ∧ row.id ≠ "" ∧ row.destinationId ≠ "" := by
  have lookups := fun call id => @run_lookup config attemptLog env world wired call id (working id)
  constructor
  · intro law row stored
    obtain ⟨delivery, converted, found⟩ := law.loads row stored
    obtain ⟨named, nonempty, _, destination⟩ :=
      PrismaDeliveryLogRepository.toDomain_eq_ok converted
    refine ⟨?_, nonempty, destination⟩
    -- the entity found is one of those with the task result, so its row is
    obtain ⟨outcome, ran, chosen⟩ := lookups (.retry .schedulerCancelRetry) row.id
    have resolved := found (.retry .schedulerCancelRetry)
    rw [ran] at resolved
    obtain ⟨deliveries, entities, picked⟩ := (chosen delivery).mp resolved
    obtain ⟨record, among, made⟩ :=
      PrismaDeliveryLogRepository.mem_toDomainAll entities (mem_of_chosenDelivery picked)
    obtain ⟨present, queried⟩ := List.mem_filter.mp among
    have same : record.id = row.id :=
      (PrismaDeliveryLogRepository.toDomain_eq_ok made).1.symm.trans named
    rw [← row_eq_of_unique unique stored present same]
    exact (of_decide_eq_true queried).trans same.symm
  · intro stored
    have queried
        : ∀ id,
            world.database.deliveries.filter (fun row => row.taskResultId = id)
            = world.database.deliveries.filter (fun row => row.id = id) := by
      intro id
      refine List.filter_congr (fun row member => ?_)
      rw [(stored row member).1]
    refine ⟨?_, ?_, ?_, ?_⟩
    · intro row member
      obtain ⟨named, id, destination⟩ := stored row member
      obtain ⟨delivery, converted⟩ :=
        PrismaDeliveryLogRepository.toDomain_of_nonempty id (named.symm ▸ id) destination
      refine ⟨delivery, converted, fun call => ?_⟩
      obtain ⟨outcome, ran, chosen⟩ := lookups call row.id
      rw [ran]
      refine (chosen delivery).mpr ⟨[delivery], ?_, ?_⟩
      · rw [queried, filter_id_of_unique unique member]
        simp [PrismaDeliveryLogRepository.toDomainAll, converted, Except.map]
      · have own := (PrismaDeliveryLogRepository.toDomain_eq_ok converted).1
        simp [chosenDelivery, own]
    · intro id absent call delivery found
      obtain ⟨outcome, ran, chosen⟩ := lookups call id
      rw [ran] at found
      obtain ⟨deliveries, entities, picked⟩ := (chosen delivery).mp found
      obtain ⟨record, among, _⟩ :=
        PrismaDeliveryLogRepository.mem_toDomainAll entities (mem_of_chosenDelivery picked)
      rw [queried] at among
      obtain ⟨present, same⟩ := List.mem_filter.mp among
      exact absent record present (of_decide_eq_true same)
    · intro id records answered record member
      simp only [prisma, working id, performPrisma, queried] at answered
      rw [← Except.ok.inj answered] at member
      exact of_decide_eq_true (List.mem_filter.mp member).2
    · intro call id other different
      obtain ⟨_, _, _, kept⟩ :=
        (body_meets wired call).run
          (@honours_lookingUp attemptLog env world id ownRow working
            (fun row member => (stored row member).1))
          ⟨fun _ => rfl, fun _ _ => rfl⟩
      exact kept other different

end

/-- An attempt log that only answers. -/
def silentLog : AttemptLog := fun _ _ _ world => (.ok (), world)

theorem silentLog_ownRow : silentLog.OwnRow :=
  fun _ _ _ _ _ _ => rfl

theorem prismaConfig_overPrisma : OverPrisma prismaConfig :=
  ⟨rfl, rfl⟩

theorem shared_identifier_looked_up
    : LooksUpById prismaConfig silentLog quietEnvironment (storing .pending) := by
  refine (services_look_up_by_id prismaConfig_overPrisma silentLog_ownRow (by decide)
    (fun _ => rfl)).mpr ?_
  intro row member
  obtain rfl := List.mem_singleton.mp member
  exact ⟨rfl, by decide, by decide⟩

/-- A database that holds a delivery under an identifier of its own. -/
def storingOwn : ServiceWorld where
  database := {
    deliveries := [{
      id := "delivery"
      taskResultId := "result"
      destinationId := "destination"
      status := .pending
      retryCount := 0
      nextRetryAt := none
      lastAttemptAt := none
      lastError := none
      createdAt := 0
      updatedAt := 0
    }]
    attempts := []
    queue := []
    history := []
  }
  jobs := []

/-- Such a delivery is not found by its identifier. -/
theorem own_identifier_not_found
    : ¬LooksUpById prismaConfig silentLog quietEnvironment storingOwn := by
  intro law
  obtain ⟨delivery, _, found⟩ := law.loads _ List.mem_cons_self
  have missing
      : ((DeliveryServiceCall.retry .schedulerCancelRetry).lookup prismaConfig "delivery").run
          (prismaServices silentLog quietEnvironment) storingOwn
        = (.ok none, storingOwn) :=
    rfl
  have resolved := found (.retry .schedulerCancelRetry)
  rw [missing] at resolved
  exact nomatch resolved

end QueueForge.Application
