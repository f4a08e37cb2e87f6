import QueueForge.Application.RecoverStaleJobs

/-! What a run of `RecoverStaleJobsService` leaves of each stale delivery, and how often runs
reschedule one: the count they test is not raised by a recovery.
-/

namespace QueueForge.Application

open QueueForge.Async QueueForge.Js QueueForge.Domain QueueForge.Queue
open QueueForge.Daemon (DeliveryJobData)

-----------------------------------------------------------------------------------------
-- The delivery that is saved
-----------------------------------------------------------------------------------------

namespace RecoverStaleJobsService

section
variable (runtime : Runtime) (delivery : Delivery)

/-- A delivery whose failure was marked. -/
def marked : Delivery := ((markFailed runtime).apply delivery).2

/-- A delivery whose failure was marked and that was scheduled for a retry. -/
def rescheduled : Delivery :=
  ((Delivery.scheduleRetry runtime
    (.number (delayMs runtime (marked runtime delivery).retryCount))).apply
    (marked runtime delivery)).2

/-- A delivery whose failure was marked and that was given up. -/
def gaveUp : Delivery :=
  ((Delivery.moveToDeadLetterQueue runtime (.string crashMessage)).apply
    (marked runtime delivery)).2

variable {runtime delivery}

theorem run_mutated {σ : Type} {handler : Handler RecoverSignature Thrown σ}
    {mutation : Mutation Unit} {after : Delivery} {world : σ}
    (returned : mutation.apply delivery = (.ok (), after))
    : (mutated mutation delivery).run handler world = (.ok after, world) := by
  unfold mutated
  rw [returned]
  rfl

theorem apply_markFailed
    : (markFailed runtime).apply delivery = (.ok (), marked runtime delivery)
      ∧ delivery.SameEntity (marked runtime delivery)
      ∧ (marked runtime delivery).retryCount = delivery.failureCount
      ∧ (marked runtime delivery).lastError.isSome = true := by
  obtain ⟨after, returned, same, count, recorded, _⟩ :=
    @Delivery.markFailed_spec runtime delivery (.other (.string crashMessage)) (.decided true) 5 rfl
  have after_eq : after = marked runtime delivery := (congrArg Prod.snd returned).symm
  subst after_eq
  exact ⟨returned, same, count, recorded⟩

theorem apply_scheduleRetry
    : (Delivery.scheduleRetry runtime
          (.number (delayMs runtime (marked runtime delivery).retryCount))).apply
          (marked runtime delivery)
        = (.ok (), rescheduled runtime delivery)
      ∧ delivery.SameEntity (rescheduled runtime delivery)
      ∧ (rescheduled runtime delivery).retryCount = delivery.failureCount
      ∧ (rescheduled runtime delivery).status = .scheduledRetry := by
  obtain ⟨_, same, count, _⟩ := @apply_markFailed runtime delivery
  exact ⟨rfl, same.trans ⟨rfl, rfl, rfl⟩, count, rfl⟩

theorem apply_moveToDeadLetterQueue
    : (Delivery.moveToDeadLetterQueue runtime (.string crashMessage)).apply
          (marked runtime delivery)
        = (.ok (), gaveUp runtime delivery)
      ∧ delivery.SameEntity (gaveUp runtime delivery)
      ∧ (gaveUp runtime delivery).retryCount = delivery.failureCount
      ∧ (gaveUp runtime delivery).status = .failedDlq := by
  obtain ⟨_, same, count, recorded⟩ := @apply_markFailed runtime delivery
  obtain ⟨after, returned, moved, kept, _, status⟩ :=
    @Delivery.moveToDeadLetterQueue_spec runtime (marked runtime delivery) (.string crashMessage)
      (.inl recorded)
  have after_eq : after = gaveUp runtime delivery := (congrArg Prod.snd returned).symm
  subst after_eq
  exact ⟨returned, same.trans moved, kept.trans count, status⟩

/-- The count that is tested is at most the limit exactly when the stored one is. -/
theorem failureCount_le_maxRetries
    : delivery.failureCount ≤ maxRetries ↔ delivery.retryCount ≤ maxRetries := by
  unfold Delivery.failureCount maxRetries
  split <;> omega

end

end RecoverStaleJobsService

-----------------------------------------------------------------------------------------
-- A turn of a delivery
-----------------------------------------------------------------------------------------

open RecoverStaleJobsService (delayMs maxRetries)

/-- A delivery whose turn comes, and the state in which it comes. -/
structure Turn where
  delivery : Delivery
  world : RecoverWorld

namespace Turn

variable (turn : Turn) (config : RecoverConfig) (env : RecoverEnvironment)

/-- The delivery as it would be saved for a retry. -/
def rescheduled : Delivery :=
  RecoverStaleJobsService.rescheduled (env.runtime turn.world) turn.delivery

/-- The delivery as it would be saved when it is given up. -/
def gaveUp : Delivery :=
  RecoverStaleJobsService.gaveUp (env.runtime turn.world) turn.delivery

/-- The data of the job for the retry, if the queue has a method to add one. -/
def jobData : Option DeliveryJobData :=
  match config.enqueue with
  | .enqueueDelivery => some {
      taskResultId := some turn.delivery.taskResultId
      destinationId := some turn.delivery.destinationId
      attempt := some turn.delivery.failureCount
    }
  | .add => some { deliveryId := some turn.delivery.id }
  | .neither => none

/-- The call that adds the job for the retry. -/
def enqueueCall : Option RecoverCall :=
  let delay := delayMs (env.runtime turn.world) turn.delivery.failureCount
  match config.enqueue with
  | .enqueueDelivery =>
      some (.enqueueDelivery turn.delivery.taskResultId turn.delivery.destinationId
        turn.delivery.failureCount delay)
  | .add => some (.add "deliver-task-result" { deliveryId := some turn.delivery.id } delay)
  | .neither => none

/-- The queue rejects the job. -/
def enqueueRejected : Bool :=
  (turn.enqueueCall config env).any (fun call => (env.fault turn.world call).isSome)

/-- The state after the job was added. -/
def enqueued : RecoverWorld :=
  { turn.world with jobs := turn.world.jobs ++ (turn.jobData config).toList }

/-- The repository rejects the save that follows the job. -/
def saveRejected : Bool :=
  (env.fault (turn.enqueued config) (.save (turn.rescheduled env))).isSome

/-- The repository rejects the save of a delivery that is given up. -/
def lossRejected : Bool := (env.fault turn.world (.save (turn.gaveUp env))).isSome

/-- A state after a delivery was saved. -/
def saved (world : RecoverWorld) (delivery : Delivery) : RecoverWorld :=
  { world with toDeliveryTable := world.update delivery (env.runtime world).now }

/-- What a turn can leave. -/
inductive Leaves : RecoverWorld → Prop where
  | notEnqueued
      (retries : turn.delivery.retryCount ≤ maxRetries)
      (rejected : turn.enqueueRejected config env = true)
    : Leaves turn.world
  | notSaved
      (retries : turn.delivery.retryCount ≤ maxRetries)
      (enqueued : turn.enqueueRejected config env = false)
      (rejected : turn.saveRejected config env = true)
    : Leaves (turn.enqueued config)
  | rescheduled
      (retries : turn.delivery.retryCount ≤ maxRetries)
      (enqueued : turn.enqueueRejected config env = false)
      (accepted : turn.saveRejected config env = false)
    : Leaves (saved env (turn.enqueued config) (turn.rescheduled env))
  | notGivenUp
      (exhausted : maxRetries < turn.delivery.retryCount)
      (rejected : turn.lossRejected env = true)
    : Leaves turn.world
  | gaveUp
      (exhausted : maxRetries < turn.delivery.retryCount)
      (accepted : turn.lossRejected env = false)
    : Leaves (saved env turn.world (turn.gaveUp env))

end Turn

section
variable {config : RecoverConfig} {env : RecoverEnvironment} {turn : Turn} {world : RecoverWorld}

/-- A call other than for the runtime is performed, or its fault is what it settles with. -/
theorem recoverSystem_cases {call : RecoverCall} (fallible : call ≠ .runtime)
    : recoverSystem env call world = performRecover env world call
        ∧ (env.fault world call).isSome = false
      ∨ (∃ error, recoverSystem env call world = (.error error, world))
        ∧ (env.fault world call).isSome = true := by
  cases fault : env.fault world call with
  | none =>
      refine .inl ⟨?_, rfl⟩
      cases call <;> simp only [recoverSystem, fault]
  | some error =>
      refine .inr ⟨⟨error, ?_⟩, rfl⟩
      cases call with
      | runtime => exact absurd rfl fallible
      | _ => simp only [recoverSystem, fault]

/-- The job is added, or its call is rejected and the state is as it was. -/
theorem run_enqueueStale
    : (RecoverStaleJobsService.enqueue config (turn.rescheduled env)
            (delayMs (env.runtime turn.world) turn.delivery.failureCount)).run
          (recoverSystem env) turn.world
        = (.ok (), turn.enqueued config)
        ∧ turn.enqueueRejected config env = false
      ∨ (∃ error,
          (RecoverStaleJobsService.enqueue config (turn.rescheduled env)
              (delayMs (env.runtime turn.world) turn.delivery.failureCount)).run
            (recoverSystem env) turn.world
          = (.error error, turn.world))
        ∧ turn.enqueueRejected config env = true := by
  obtain ⟨_, same, count, _⟩ :=
    @RecoverStaleJobsService.apply_scheduleRetry (env.runtime turn.world) turn.delivery
  unfold RecoverStaleJobsService.enqueue Turn.enqueueRejected Turn.enqueueCall Turn.enqueued
    Turn.jobData
  rw [Turn.rescheduled, same.id, same.taskResultId, same.destinationId, count]
  cases config.enqueue with
  | neither =>
      refine .inl ⟨?_, rfl⟩
      simp
  | enqueueDelivery =>
      rw [run_awaitRecover]
      exact recoverSystem_cases nofun
  | add =>
      rw [run_awaitRecover]
      exact recoverSystem_cases nofun

/-- A stored delivery is updated, or its save is rejected. -/
theorem recoverSystem_save {delivery : Delivery}
    (stored : delivery.id ∈ world.deliveries.map Delivery.id)
    : recoverSystem env (.save delivery) world = (.ok (), Turn.saved env world delivery)
        ∧ (env.fault world (.save delivery)).isSome = false
      ∨ (∃ error, recoverSystem env (.save delivery) world = (.error error, world))
        ∧ (env.fault world (.save delivery)).isSome = true := by
  have updated
      : performRecover env world (.save delivery) = (.ok (), Turn.saved env world delivery) := by
    simp only [performRecover, DeliveryTable.upsert, dif_pos stored]
    rfl
  rw [← updated]
  exact recoverSystem_cases (by rintro ⟨⟩)

theorem run_caught {error : Thrown} {result : RecoveryResult}
    : ((RecoverStaleJobsService.caught config error result).run (recoverSystem env) world).2
      = world := by
  unfold RecoverStaleJobsService.caught
  split <;> rfl

/-- What comes before the save, by whether the delivery has retries left. -/
theorem run_reschedule {result : RecoveryResult}
    : (∃ error,
          (RecoverStaleJobsService.reschedule config turn.delivery result).run
            (recoverSystem env) turn.world
          = (.error error, turn.world))
        ∧ turn.delivery.retryCount ≤ maxRetries
        ∧ turn.enqueueRejected config env = true
      ∨ (∃ result',
          (RecoverStaleJobsService.reschedule config turn.delivery result).run
            (recoverSystem env) turn.world
          = (.ok (turn.rescheduled env, result'), turn.enqueued config))
        ∧ turn.delivery.retryCount ≤ maxRetries
        ∧ turn.enqueueRejected config env = false
      ∨ (∃ result',
          (RecoverStaleJobsService.reschedule config turn.delivery result).run
            (recoverSystem env) turn.world
          = (.ok (turn.gaveUp env, result'), turn.world))
        ∧ maxRetries < turn.delivery.retryCount := by
  obtain ⟨marking, _, count, _⟩ :=
    @RecoverStaleJobsService.apply_markFailed (env.runtime turn.world) turn.delivery
  have looked : recoverSystem env .runtime turn.world = (.ok (env.runtime turn.world), turn.world) :=
    rfl
  simp only [RecoverStaleJobsService.reschedule, Program.bind_eq, Program.run_bind,
    run_awaitRecover, looked, RecoverStaleJobsService.run_mutated marking]
  by_cases retries : turn.delivery.retryCount ≤ maxRetries
  · have tested := RecoverStaleJobsService.failureCount_le_maxRetries.mpr retries
    have scheduling :=
      (@RecoverStaleJobsService.apply_scheduleRetry (env.runtime turn.world) turn.delivery).1
    rw [count] at scheduling ⊢
    rw [if_pos tested, Program.run_bind, RecoverStaleJobsService.run_mutated scheduling]
    simp only [Program.run_bind]
    rcases @run_enqueueStale config env turn with ⟨added, accepted⟩ | ⟨⟨error, failed⟩, rejected⟩
    · rw [Turn.rescheduled] at added
      rw [added]
      exact .inr (.inl ⟨⟨_, rfl⟩, retries, accepted⟩)
    · rw [Turn.rescheduled] at failed
      rw [failed]
      exact .inl ⟨⟨error, rfl⟩, retries, rejected⟩
  · have tested := mt RecoverStaleJobsService.failureCount_le_maxRetries.mp retries
    have moving :=
      (@RecoverStaleJobsService.apply_moveToDeadLetterQueue (env.runtime turn.world)
        turn.delivery).1
    rw [count, if_neg tested, Program.run_bind, RecoverStaleJobsService.run_mutated moving]
    exact .inr (.inr ⟨⟨_, rfl⟩, Int.not_le.mp retries⟩)

/-- A turn of a stored delivery leaves one of the states it can leave. -/
theorem leaves_of_recoverDelivery {result : RecoveryResult}
    (stored : turn.delivery.id ∈ turn.world.deliveries.map Delivery.id)
    : turn.Leaves config env
        ((RecoverStaleJobsService.recoverDelivery config turn.delivery result).run
          (recoverSystem env) turn.world).2 := by
  simp only [RecoverStaleJobsService.recoverDelivery, Program.bind_eq, Program.run_bind,
    Program.run_settle]
  rcases @run_reschedule config env turn result with
    ⟨⟨error, failed⟩, retries, rejected⟩ | ⟨⟨_, prepared⟩, retries, accepted⟩
    | ⟨⟨_, prepared⟩, exhausted⟩
  · simp only [failed, run_caught]
    exact .notEnqueued retries rejected
  · have entity :=
      (@RecoverStaleJobsService.apply_scheduleRetry (env.runtime turn.world) turn.delivery).2.1
    have saving : (turn.rescheduled env).id ∈ (turn.enqueued config).deliveries.map Delivery.id :=
      entity.id ▸ stored
    simp only [prepared, Program.run_bind, Program.run_settle, run_awaitRecover]
    rcases @recoverSystem_save env _ _ saving with ⟨saved, kept⟩ | ⟨⟨error, failed⟩, rejected⟩
    · simp only [saved]
      exact .rescheduled retries accepted kept
    · simp only [failed, run_caught]
      exact .notSaved retries accepted rejected
  · have entity :=
      (@RecoverStaleJobsService.apply_moveToDeadLetterQueue (env.runtime turn.world)
        turn.delivery).2.1
    have saving : (turn.gaveUp env).id ∈ turn.world.deliveries.map Delivery.id :=
      entity.id ▸ stored
    simp only [prepared, Program.run_bind, Program.run_settle, run_awaitRecover]
    rcases @recoverSystem_save env _ _ saving with ⟨saved, kept⟩ | ⟨⟨error, failed⟩, rejected⟩
    · simp only [saved]
      exact .gaveUp exhausted kept
    · simp only [failed, run_caught]
      exact .notGivenUp exhausted rejected

end

-----------------------------------------------------------------------------------------
-- What turns leave of a delivery
-----------------------------------------------------------------------------------------

/-- How many jobs the queue holds for a delivery. -/
def RecoverWorld.jobsFor (world : RecoverWorld) (delivery : Delivery) : Nat :=
  world.jobs.countP (isJobFor delivery)

/-- A delivery is stored as it was, and no job was added for it. -/
structure PassedOver (delivery : Delivery) (before after : RecoverWorld) : Prop where
  find : after.find delivery.id = before.find delivery.id
  jobs : after.jobsFor delivery = before.jobsFor delivery

theorem PassedOver.refl (delivery : Delivery) (world : RecoverWorld)
    : PassedOver delivery world world :=
  ⟨rfl, rfl⟩

theorem PassedOver.trans {delivery : Delivery} {before middle after : RecoverWorld}
    (first : PassedOver delivery before middle) (second : PassedOver delivery middle after)
    : PassedOver delivery before after :=
  ⟨second.find.trans first.find, second.jobs.trans first.jobs⟩

namespace DeliveryTable

variable (table : DeliveryTable) {delivery : Delivery} {now : Int}

theorem id_of_find {id : String} (found : table.find id = some delivery) : delivery.id = id := by
  have holds := List.find?_some found
  exact of_decide_eq_true holds

theorem find_update (id : String)
    : (table.update delivery now).find id = (table.find id).map (updated delivery now) := by
  unfold find update
  rw [List.find?_map]
  congr 2
  funext stored
  rw [Function.comp_apply, id_updated]

theorem find_update_of_ne {id : String} (other : id ≠ delivery.id)
    : (table.update delivery now).find id = table.find id := by
  rw [find_update]
  cases found : table.find id with
  | none => rfl
  | some stored =>
      rw [Option.map_some, updated, if_neg (table.id_of_find found ▸ other)]

theorem ids_update
    : (table.update delivery now).deliveries.map Delivery.id = table.deliveries.map Delivery.id := by
  unfold update
  rw [List.map_map]
  exact List.map_congr_left (fun stored _ => id_updated delivery now stored)

/-- A stored delivery is found by its identifier. -/
theorem find_of_mem (member : delivery ∈ table.deliveries)
    : table.find delivery.id = some delivery := by
  cases found : table.find delivery.id with
  | none =>
      exact absurd (decide_eq_true rfl) (List.find?_eq_none.mp found delivery member)
  | some stored =>
      rw [table.eq_of_same_id (List.mem_of_find?_eq_some found) member (table.id_of_find found)]

end DeliveryTable

section
variable {config : RecoverConfig} {env : RecoverEnvironment} {turn : Turn}
  {next : RecoverWorld} {table : DeliveryTable}

/-- Saving a delivery leaves the others as they are. -/
theorem untouched_saved {world : RecoverWorld} {delivery saved : Delivery}
    (other : delivery.id ≠ saved.id)
    : PassedOver delivery world (Turn.saved env world saved) :=
  ⟨world.find_update_of_ne other, rfl⟩

/-- The job of a turn is for its delivery alone. -/
theorem jobsFor_enqueued {delivery : Delivery} (member : delivery ∈ table.deliveries)
    (owned : turn.delivery ∈ table.deliveries)
    : (turn.enqueued config).jobsFor delivery
      = turn.world.jobsFor delivery
        + if config.enqueue ≠ .neither ∧ turn.delivery.id = delivery.id then 1 else 0 := by
  unfold RecoverWorld.jobsFor Turn.enqueued Turn.jobData
  rw [List.countP_append]
  congr 1
  cases config.enqueue with
  | neither => rfl
  | enqueueDelivery =>
      have named :=
        table.isJobFor_of_pair member owned
          {
            taskResultId := some turn.delivery.taskResultId
            destinationId := some turn.delivery.destinationId
            attempt := some turn.delivery.failureCount
          }
          rfl rfl rfl
      simp only [Option.toList_some, List.countP_singleton, named, decide_eq_true_eq, ne_eq,
        reduceCtorEq, not_false_eq_true, true_and]
  | add =>
      have named :=
        isJobFor_of_id delivery turn.delivery { deliveryId := some turn.delivery.id } rfl rfl
      simp only [Option.toList_some, List.countP_singleton, named, decide_eq_true_eq, ne_eq,
        reduceCtorEq, not_false_eq_true, true_and]

theorem untouched_enqueued {delivery : Delivery} (member : delivery ∈ table.deliveries)
    (owned : turn.delivery ∈ table.deliveries) (other : turn.delivery.id ≠ delivery.id)
    : PassedOver delivery turn.world (turn.enqueued config) := by
  refine ⟨rfl, ?_⟩
  rw [jobsFor_enqueued member owned, if_neg (fun both => other both.2), Nat.add_zero]

theorem id_rescheduled : (turn.rescheduled env).id = turn.delivery.id :=
  (@RecoverStaleJobsService.apply_scheduleRetry (env.runtime turn.world) turn.delivery).2.1.id

theorem id_gaveUp : (turn.gaveUp env).id = turn.delivery.id :=
  (@RecoverStaleJobsService.apply_moveToDeadLetterQueue (env.runtime turn.world)
    turn.delivery).2.1.id

/-- A turn touches no other delivery. -/
theorem Turn.Leaves.untouched (leaves : turn.Leaves config env next) {delivery : Delivery}
    (member : delivery ∈ table.deliveries) (owned : turn.delivery ∈ table.deliveries)
    (other : turn.delivery.id ≠ delivery.id)
    : PassedOver delivery turn.world next := by
  cases leaves with
  | notEnqueued => exact .refl delivery turn.world
  | notSaved => exact untouched_enqueued member owned other
  | rescheduled =>
      have apart : delivery.id ≠ (turn.rescheduled env).id := id_rescheduled ▸ other.symm
      exact (untouched_enqueued member owned other).trans (untouched_saved apart)
  | notGivenUp => exact .refl delivery turn.world
  | gaveUp =>
      have apart : delivery.id ≠ (turn.gaveUp env).id := id_gaveUp ▸ other.symm
      exact untouched_saved apart

/-- A turn creates no delivery and removes none. -/
theorem Turn.Leaves.ids (leaves : turn.Leaves config env next)
    : next.deliveries.map Delivery.id = turn.world.deliveries.map Delivery.id := by
  cases leaves with
  | notEnqueued => rfl
  | notSaved => rfl
  | rescheduled => exact (turn.enqueued config).ids_update
  | notGivenUp => rfl
  | gaveUp => exact turn.world.ids_update

end

-----------------------------------------------------------------------------------------
-- A run
-----------------------------------------------------------------------------------------

/-- The turns a loop comes to: it ends early if a catch block throws. -/
def turns (config : RecoverConfig) (env : RecoverEnvironment)
    : List Delivery → RecoveryResult → RecoverWorld → List Turn
  | [], _, _ => []
  | delivery :: rest, result, world =>
      ⟨delivery, world⟩
      :: match (RecoverStaleJobsService.recoverDelivery config delivery result).run
          (recoverSystem env) world with
        | (.ok result, next) => turns config env rest result next
        | (.error _, _) => []

section
variable {config : RecoverConfig} {env : RecoverEnvironment} {table : DeliveryTable}

theorem mem_of_mem_turns {stale : List Delivery} {result : RecoveryResult}
    {world : RecoverWorld} {turn : Turn} (member : turn ∈ turns config env stale result world)
    : turn.delivery ∈ stale := by
  induction stale generalizing result world with
  | nil => exact absurd member List.not_mem_nil
  | cons delivery rest ih =>
      rw [turns] at member
      rcases List.mem_cons.mp member with rfl | later
      · exact List.mem_cons_self
      · split at later
        · exact List.mem_cons_of_mem delivery (ih later)
        · exact absurd later List.not_mem_nil

/-- The turn of a delivery in a run: all that the run does to the delivery is done in it. -/
structure TurnOf (config : RecoverConfig) (env : RecoverEnvironment) (delivery : Delivery)
    (before after : RecoverWorld) (all : List Turn) (turn : Turn)
    : Prop where
  member : turn ∈ all
  own : turn.delivery = delivery
  only : ∀ other ∈ all, other.delivery = delivery → other = turn
  before : PassedOver delivery before turn.world
  leaves : ∃ next, turn.Leaves config env next ∧ PassedOver delivery next after

/-- A loop leaves a delivery as it was if it does not come to it, by induction on the deliveries. -/
theorem turnOf_recoverEach {delivery : Delivery} (known : delivery ∈ table.deliveries)
    {stale : List Delivery} (distinct : (stale.map Delivery.id).Nodup)
    (within : ∀ owner ∈ stale, owner ∈ table.deliveries) {result : RecoveryResult}
    {world : RecoverWorld}
    (stored : ∀ owner ∈ stale, owner.id ∈ world.deliveries.map Delivery.id)
    : (∀ turn ∈ turns config env stale result world, turn.delivery ≠ delivery)
        ∧ PassedOver delivery world
          ((RecoverStaleJobsService.recoverEach config stale result).run (recoverSystem env)
            world).2
      ∨ ∃ turn,
          TurnOf config env delivery world
            ((RecoverStaleJobsService.recoverEach config stale result).run (recoverSystem env)
              world).2
            (turns config env stale result world) turn := by
  induction stale generalizing result world with
  | nil => exact .inl ⟨fun turn member => absurd member List.not_mem_nil, .refl delivery world⟩
  | cons owner rest ih =>
      have owned := within owner List.mem_cons_self
      rw [List.map_cons, List.nodup_cons] at distinct
      have leaves :=
        @leaves_of_recoverDelivery config env ⟨owner, world⟩ result
          (stored owner List.mem_cons_self)
      simp only [RecoverStaleJobsService.recoverEach, Program.bind_eq, Program.run_bind, turns]
      cases ran
          : (RecoverStaleJobsService.recoverDelivery config owner result).run
            (recoverSystem env) world with
      | mk outcome next =>
          simp only [ran] at leaves ⊢
          have stays : ∀ later ∈ rest, later.id ∈ next.deliveries.map Delivery.id := by
            intro later member
            rw [leaves.ids]
            exact stored later (List.mem_cons_of_mem owner member)
          have withinRest : ∀ later ∈ rest, later ∈ table.deliveries :=
            fun later member => within later (List.mem_cons_of_mem owner member)
          by_cases own : owner = delivery
          · subst own
            refine .inr ⟨⟨owner, world⟩, List.mem_cons_self, rfl, ?_, .refl owner world, next,
              leaves, ?_⟩
            · intro other member same
              rcases List.mem_cons.mp member with rfl | later
              · rfl
              · cases outcome with
                | error error => exact absurd later List.not_mem_nil
                | ok result =>
                    have again : owner ∈ rest := same ▸ mem_of_mem_turns later
                    exact absurd (List.mem_map_of_mem again) distinct.1
            · cases outcome with
              | error error => exact .refl owner next
              | ok result =>
                  rcases ih distinct.2 withinRest stays with ⟨_, untouched⟩ | ⟨turn, turned⟩
                  · exact untouched
                  · have again : owner ∈ rest := turned.own ▸ mem_of_mem_turns turned.member
                    exact absurd (List.mem_map_of_mem again) distinct.1
          · have apart : owner.id ≠ delivery.id :=
              fun same => own (table.eq_of_same_id owned known same)
            have untouched := leaves.untouched known owned apart
            cases outcome with
            | error error =>
                refine .inl ⟨?_, untouched⟩
                exact fun turn member => List.mem_singleton.mp member ▸ own
            | ok result =>
                rcases ih distinct.2 withinRest stays with ⟨none, later⟩ | ⟨turn, turned⟩
                · refine .inl ⟨fun turn member => ?_, untouched.trans later⟩
                  rcases List.mem_cons.mp member with rfl | member
                  · exact own
                  · exact none turn member
                · refine .inr ⟨turn, List.mem_cons_of_mem _ turned.member, turned.own, ?_,
                    untouched.trans turned.before, turned.leaves⟩
                  intro other member same
                  rcases List.mem_cons.mp member with rfl | member
                  · exact absurd same own
                  · exact turned.only other member same

end

-----------------------------------------------------------------------------------------
-- What a turn means for its delivery
-----------------------------------------------------------------------------------------

/-- The status a delivery is stored with. -/
def RecoverWorld.statusOf (world : RecoverWorld) (id : String) : Option DeliveryStatus :=
  (world.find id).map Delivery.status

/-- A delivery is stored FAILED_DLQ without a new job, or SCHEDULED_RETRY with exactly one, or as
it was and without one.
-/
inductive Settles (before after : RecoverWorld) (delivery : Delivery) : Prop where
  | lost
      (status : after.statusOf delivery.id = some .failedDlq)
      (jobs : after.jobsFor delivery = before.jobsFor delivery)
  | retried
      (status : after.statusOf delivery.id = some .scheduledRetry)
      (jobs : after.jobsFor delivery = before.jobsFor delivery + 1)
  | unchanged (untouched : PassedOver delivery before after)

namespace Turn

variable (turn : Turn) (config : RecoverConfig) (env : RecoverEnvironment)

/-- A turn that would reschedule goes wrong neither between the job and the save nor for want of
a queue to add the job to.
-/
def Whole : Prop :=
  turn.delivery.retryCount ≤ maxRetries
  → if config.enqueue = .neither then
      turn.saveRejected config env = true
    else
      turn.enqueueRejected config env = true ∨ turn.saveRejected config env = false

/-- The delivery has retries left, and neither the job nor the save is rejected. -/
def reschedules : Bool :=
  turn.delivery.retryCount ≤ maxRetries
  && !turn.enqueueRejected config env
  && !turn.saveRejected config env

end Turn

section
variable {config : RecoverConfig} {env : RecoverEnvironment} {table : DeliveryTable}
  {delivery : Delivery} {before after : RecoverWorld} {all : List Turn} {turn : Turn}

theorem statusOf_saved {world : RecoverWorld} {saved : Delivery} {stored : Delivery}
    (found : world.find saved.id = some stored)
    : (Turn.saved env world saved).statusOf saved.id = some saved.status := by
  have same := world.id_of_find found
  have updated :=
    @DeliveryTable.find_update world.toDeliveryTable saved (env.runtime world).now saved.id
  rw [RecoverWorld.statusOf, Turn.saved, updated, found, Option.map_some, Option.map_some,
    DeliveryTable.updated, if_pos same]

theorem not_neither_of_enqueueRejected (rejected : turn.enqueueRejected config env = true)
    : config.enqueue ≠ .neither := by
  intro neither
  rw [Turn.enqueueRejected, Turn.enqueueCall, neither] at rejected
  exact nomatch rejected

theorem TurnOf.found (turned : TurnOf config env delivery before after all turn)
    (member : delivery ∈ before.deliveries)
    : turn.world.find delivery.id = some delivery :=
  turned.before.find.trans (before.find_of_mem member)

theorem TurnOf.jobs_enqueued (turned : TurnOf config env delivery before after all turn)
    (member : delivery ∈ before.deliveries)
    : (turn.enqueued config).jobsFor delivery
      = before.jobsFor delivery + if config.enqueue ≠ .neither then 1 else 0 := by
  have owned : turn.delivery ∈ before.deliveries := turned.own ▸ member
  rw [jobsFor_enqueued member owned, turned.own, turned.before.jobs]
  simp only [and_true]

/-- A delivery that is saved in its turn keeps the status it is saved with. -/
theorem TurnOf.statusOf_saved (turned : TurnOf config env delivery before after all turn)
    {world : RecoverWorld} {saved : Delivery} (found : world.find delivery.id = some delivery)
    (same : saved.id = turn.delivery.id)
    (later : PassedOver delivery (Turn.saved env world saved) after)
    : after.statusOf delivery.id = some saved.status := by
  have named : saved.id = delivery.id := same.trans (congrArg Delivery.id turned.own)
  rw [RecoverWorld.statusOf, later.find]
  rw [← named] at found ⊢
  exact Application.statusOf_saved found

/-- A delivery that is found as it was is still PROCESSING. -/
theorem statusOf_of_find (member : delivery ∈ before.deliveries)
    (processing : delivery.status = .processing)
    (same : after.find delivery.id = before.find delivery.id)
    : after.statusOf delivery.id = some .processing := by
  rw [RecoverWorld.statusOf, same, before.find_of_mem member, Option.map_some, processing]

theorem TurnOf.status_rescheduled (turned : TurnOf config env delivery before after all turn)
    (member : delivery ∈ before.deliveries)
    (later
      : PassedOver delivery (Turn.saved env (turn.enqueued config) (turn.rescheduled env)) after)
    : after.statusOf delivery.id = some .scheduledRetry := by
  have found : (turn.enqueued config).find delivery.id = some delivery := turned.found member
  have status :=
    (@RecoverStaleJobsService.apply_scheduleRetry (env.runtime turn.world) turn.delivery).2.2.2
  exact status ▸ turned.statusOf_saved found id_rescheduled later

theorem TurnOf.status_gaveUp (turned : TurnOf config env delivery before after all turn)
    (member : delivery ∈ before.deliveries)
    (later : PassedOver delivery (Turn.saved env turn.world (turn.gaveUp env)) after)
    : after.statusOf delivery.id = some .failedDlq := by
  have status :=
    (@RecoverStaleJobsService.apply_moveToDeadLetterQueue (env.runtime turn.world)
      turn.delivery).2.2.2
  exact status ▸ turned.statusOf_saved (turned.found member) id_gaveUp later

/-- A turn settles its delivery exactly if it is whole, by what it leaves. -/
theorem TurnOf.settles_iff (turned : TurnOf config env delivery before after all turn)
    (member : delivery ∈ before.deliveries) (processing : delivery.status = .processing)
    : Settles before after delivery ↔ turn.Whole config env := by
  obtain ⟨next, leaves, later⟩ := turned.leaves
  have jobs := turned.jobs_enqueued member
  unfold Turn.Whole
  cases leaves with
  | notEnqueued retries rejected =>
      have queue := not_neither_of_enqueueRejected rejected
      refine iff_of_true (.unchanged (turned.before.trans later)) (fun _ => ?_)
      rw [if_neg queue]
      exact .inl rejected
  | notSaved retries accepted rejected =>
      have same := later.find.trans turned.before.find
      have status := statusOf_of_find member processing same
      rw [← later.jobs] at jobs
      by_cases neither : config.enqueue = .neither
      · rw [if_neg (not_not_intro neither)] at jobs
        refine iff_of_true (.unchanged ⟨same, jobs⟩) (fun _ => ?_)
        rw [if_pos neither]
        exact rejected
      · rw [if_pos neither] at jobs
        refine iff_of_false ?_ (fun whole => ?_)
        · intro settles
          cases settles with
          | lost failed _ => cases status.symm.trans failed
          | retried scheduled _ => cases status.symm.trans scheduled
          | unchanged untouched => exact absurd (jobs.symm.trans untouched.jobs) (by omega)
        · have whole := whole retries
          rw [if_neg neither, accepted, rejected] at whole
          exact whole.elim (by rintro ⟨⟩) (by rintro ⟨⟩)
  | rescheduled retries accepted kept =>
      have status := turned.status_rescheduled member later
      have jobs : after.jobsFor delivery = _ := later.jobs.trans jobs
      by_cases neither : config.enqueue = .neither
      · rw [if_neg (not_not_intro neither)] at jobs
        refine iff_of_false ?_ (fun whole => ?_)
        · intro settles
          cases settles with
          | lost failed _ => cases status.symm.trans failed
          | retried _ added => exact absurd (jobs.symm.trans added) (by omega)
          | unchanged untouched =>
              have still := statusOf_of_find member processing untouched.find
              cases status.symm.trans still
        · have whole := whole retries
          rw [if_pos neither, kept] at whole
          cases whole
      · rw [if_pos neither] at jobs
        refine iff_of_true (.retried status jobs) (fun _ => ?_)
        rw [if_neg neither]
        exact .inr kept
  | notGivenUp exhausted rejected =>
      exact iff_of_true (.unchanged (turned.before.trans later))
        (fun retries => absurd retries (Int.not_le.mpr exhausted))
  | gaveUp exhausted kept =>
      exact iff_of_true
        (.lost (turned.status_gaveUp member later) (later.jobs.trans turned.before.jobs))
        (fun retries => absurd retries (Int.not_le.mpr exhausted))

/-- A turn leaves its delivery SCHEDULED_RETRY exactly if it reschedules it. -/
theorem TurnOf.scheduledRetry_iff (turned : TurnOf config env delivery before after all turn)
    (member : delivery ∈ before.deliveries) (processing : delivery.status = .processing)
    : after.statusOf delivery.id = some .scheduledRetry
      ↔ turn.reschedules config env = true := by
  obtain ⟨next, leaves, later⟩ := turned.leaves
  have unsaved (same : after.find delivery.id = before.find delivery.id)
      : after.statusOf delivery.id ≠ some .scheduledRetry := by
    rw [statusOf_of_find member processing same]
    exact nofun
  unfold Turn.reschedules
  cases leaves with
  | notEnqueued retries rejected =>
      rw [rejected]
      exact iff_of_false (unsaved (later.find.trans turned.before.find)) (by simp)
  | notSaved retries accepted rejected =>
      rw [rejected]
      exact iff_of_false (unsaved (later.find.trans turned.before.find)) (by simp)
  | rescheduled retries accepted kept =>
      rw [accepted, kept]
      exact iff_of_true (turned.status_rescheduled member later) (by simpa using retries)
  | notGivenUp exhausted rejected =>
      exact iff_of_false (unsaved (later.find.trans turned.before.find))
        (by simp [Int.not_le.mpr exhausted])
  | gaveUp exhausted kept =>
      rw [turned.status_gaveUp member later]
      exact iff_of_false nofun (by simp [Int.not_le.mpr exhausted])

end

-----------------------------------------------------------------------------------------
-- Repeated runs
-----------------------------------------------------------------------------------------

/-- What was done since the run before, and a run of the service. -/
structure RecoveryRound where
  meanwhile : RecoverWorld → RecoverWorld
  env : RecoverEnvironment
  timeoutMs : Number

/-- A round and the state in which its run begins. -/
structure RecoveryRun where
  round : RecoveryRound
  world : RecoverWorld

namespace RecoveryRun

variable (run : RecoveryRun) (config : RecoverConfig)

def staleThreshold : Date :=
  Date.ofNumber
    (Number.add (.ofInt (run.round.env.runtime run.world).now) run.round.timeoutMs.neg)

/-- The call that finds the stale deliveries. -/
def lookupCall : Option RecoverCall :=
  match config.lookup with
  | .findStale => some (.findStale run.staleThreshold)
  | .findAll => some .findAll
  | .neither => none

/-- The stale deliveries. -/
def stale : List Delivery :=
  match config.lookup with
  | .findStale =>
      run.world.deliveries.filter (fun delivery =>
        delivery.status = .processing && isAtMost delivery.updatedAt run.staleThreshold)
  | .findAll => RecoverStaleJobsService.staleOf run.staleThreshold run.world.deliveries
  | .neither => []

/-- The state the run leaves. -/
def after : RecoverWorld :=
  ((RecoverStaleJobsService.recoverStale config run.round.timeoutMs).run
    (recoverSystem run.round.env) run.world).2

/-- The turns of the run: none if the lookup is rejected. -/
def turns : List Turn :=
  if (run.lookupCall config).any (fun call => (run.round.env.fault run.world call).isSome) then
    []
  else
    Application.turns config run.round.env (run.stale config) ⟨0, 0⟩ run.world

/-- The run finds a delivery PROCESSING and leaves it SCHEDULED_RETRY. -/
def Reschedules (id : String) : Prop :=
  run.world.statusOf id = some .processing
  ∧ (run.after config).statusOf id = some .scheduledRetry

instance (id : String) : Decidable (run.Reschedules config id) :=
  inferInstanceAs (Decidable (_ ∧ _))

end RecoveryRun

/-- The runs of some rounds, each with the state it begins in. -/
def runs (config : RecoverConfig) : List RecoveryRound → RecoverWorld → List RecoveryRun
  | [], _ => []
  | round :: rest, world =>
      let run : RecoveryRun := ⟨round, round.meanwhile world⟩
      run :: runs config rest (run.after config)

/-- Every run settles every stale delivery, and no delivery is rescheduled more than five times. -/
structure RecoversSafely (config : RecoverConfig) (all : List RecoveryRun) : Prop where
  settles
    : ∀ run ∈ all,
        ∀ delivery ∈ run.stale config, Settles run.world (run.after config) delivery
  bounded : ∀ id, all.countP (fun run => run.Reschedules config id) ≤ 5

section
variable {config : RecoverConfig} {run : RecoveryRun}

theorem mem_stale {delivery : Delivery} (member : delivery ∈ run.stale config)
    : delivery ∈ run.world.deliveries ∧ delivery.status = .processing := by
  unfold RecoveryRun.stale RecoverStaleJobsService.staleOf at member
  split at member
  · rw [List.mem_filter, Bool.and_eq_true, decide_eq_true_eq] at member
    exact ⟨member.1, member.2.1⟩
  · rw [List.mem_filter, Bool.and_eq_true, decide_eq_true_eq] at member
    exact ⟨member.1, member.2.1⟩
  · exact absurd member List.not_mem_nil

theorem stale_distinct : ((run.stale config).map Delivery.id).Nodup := by
  have sublist : (run.stale config).Sublist run.world.deliveries := by
    unfold RecoveryRun.stale
    split
    · exact List.filter_sublist
    · exact List.filter_sublist
    · exact List.nil_sublist _
  exact (sublist.map Delivery.id).nodup run.world.identified

/-- A run is its loop over the stale deliveries, unless the lookup is rejected. -/
theorem after_eq
    : run.after config
      = if (run.lookupCall config).any (fun call =>
            (run.round.env.fault run.world call).isSome) then
          run.world
        else
          ((RecoverStaleJobsService.recoverEach config (run.stale config) ⟨0, 0⟩).run
            (recoverSystem run.round.env) run.world).2 := by
  have looked
      : recoverSystem run.round.env .runtime run.world
        = (.ok (run.round.env.runtime run.world), run.world) :=
    rfl
  unfold RecoveryRun.after RecoverStaleJobsService.recoverStale RecoveryRun.lookupCall
    RecoveryRun.stale RecoverStaleJobsService.staleDeliveries
  simp only [Program.bind_eq, Program.run_bind, run_awaitRecover, looked]
  cases config.lookup with
  | neither => rfl
  | findStale =>
      simp only [run_awaitRecover, Option.any_some]
      rcases @recoverSystem_cases run.round.env run.world (.findStale run.staleThreshold)
          (by rintro ⟨⟩) with
        ⟨performed, working⟩ | ⟨⟨error, failed⟩, rejected⟩
      · rw [working]
        rw [RecoveryRun.staleThreshold] at performed
        simp only [performed]
        rfl
      · rw [rejected]
        rw [RecoveryRun.staleThreshold] at failed
        simp only [failed]
        rfl
  | findAll =>
      simp only [Program.run_bind, run_awaitRecover, Option.any_some]
      rcases @recoverSystem_cases run.round.env run.world .findAll (by rintro ⟨⟩) with
        ⟨performed, working⟩ | ⟨⟨error, failed⟩, rejected⟩
      · rw [working]
        simp only [performed]
        rfl
      · rw [rejected]
        simp only [failed]
        rfl

/-- In a run every stored delivery has its one turn or is left as it was. -/
theorem turnOf_run {delivery : Delivery} (member : delivery ∈ run.world.deliveries)
    : (∀ turn ∈ run.turns config, turn.delivery ≠ delivery)
        ∧ PassedOver delivery run.world (run.after config)
      ∨ ∃ turn,
          TurnOf config run.round.env delivery run.world (run.after config) (run.turns config)
            turn := by
  rw [after_eq, RecoveryRun.turns]
  split
  · exact .inl ⟨fun turn none => absurd none List.not_mem_nil, .refl delivery run.world⟩
  · refine turnOf_recoverEach member stale_distinct (fun owner within => (mem_stale within).1) ?_
    exact fun owner within => List.mem_map_of_mem (mem_stale within).1

theorem stale_of_mem_turns {turn : Turn} (member : turn ∈ run.turns config)
    : turn.delivery ∈ run.stale config := by
  unfold RecoveryRun.turns at member
  split at member
  · exact absurd member List.not_mem_nil
  · exact mem_of_mem_turns member

/-- A run settles its stale deliveries exactly if its turns are whole. -/
theorem settles_iff_whole
    : (∀ delivery ∈ run.stale config, Settles run.world (run.after config) delivery)
      ↔ ∀ turn ∈ run.turns config, turn.Whole config run.round.env := by
  constructor
  · intro settles turn member
    have found := stale_of_mem_turns member
    obtain ⟨stored, processing⟩ := mem_stale found
    rcases turnOf_run stored with ⟨none, _⟩ | ⟨own, turned⟩
    · exact absurd rfl (none turn member)
    · rw [turned.only turn member rfl]
      exact (turned.settles_iff stored processing).mp (settles turn.delivery found)
  · intro whole delivery found
    obtain ⟨stored, processing⟩ := mem_stale found
    rcases turnOf_run stored with ⟨_, untouched⟩ | ⟨turn, turned⟩
    · exact .unchanged untouched
    · exact (turned.settles_iff stored processing).mpr (whole turn turned.member)

/-- A run reschedules a delivery exactly if a turn does. -/
theorem reschedules_iff {id : String}
    : run.Reschedules config id
      ↔ (run.turns config).any (fun turn =>
          turn.delivery.id = id && turn.reschedules config run.round.env) := by
  rw [List.any_eq_true]
  simp only [Bool.and_eq_true, decide_eq_true_eq]
  constructor
  · rintro ⟨before, after⟩
    obtain ⟨delivery, found, processing⟩ := Option.map_eq_some_iff.mp before
    obtain rfl := run.world.id_of_find found
    have stored := List.mem_of_find?_eq_some found
    rcases turnOf_run stored with ⟨_, untouched⟩ | ⟨turn, turned⟩
    · rw [statusOf_of_find stored processing untouched.find] at after
      exact nomatch after
    · exact ⟨turn, turned.member, congrArg Delivery.id turned.own,
        (turned.scheduledRetry_iff stored processing).mp after⟩
  · rintro ⟨turn, member, rfl, reschedules⟩
    obtain ⟨stored, processing⟩ := mem_stale (stale_of_mem_turns member)
    refine ⟨statusOf_of_find stored processing rfl, ?_⟩
    rcases turnOf_run stored with ⟨none, _⟩ | ⟨own, turned⟩
    · exact absurd rfl (none turn member)
    · rw [turned.only turn member rfl] at reschedules
      exact (turned.scheduledRetry_iff stored processing).mpr reschedules

end

/-- Repeated runs recover safely exactly if every turn in them is whole and each delivery has at
most five turns that reschedule it.
-/
theorem recoversSafely_iff (config : RecoverConfig) (rounds : List RecoveryRound)
    (world : RecoverWorld)
    : RecoversSafely config (runs config rounds world)
      ↔ (∀ run ∈ runs config rounds world,
            ∀ turn ∈ run.turns config, turn.Whole config run.round.env)
        ∧ ∀ id,
            (runs config rounds world).countP (fun run =>
              (run.turns config).any (fun turn =>
                turn.delivery.id = id && turn.reschedules config run.round.env))
            ≤ 5 := by
  have counted (id : String)
      : (runs config rounds world).countP (fun run => run.Reschedules config id)
        = (runs config rounds world).countP (fun run =>
            (run.turns config).any (fun turn =>
              turn.delivery.id = id && turn.reschedules config run.round.env)) := by
    refine List.countP_congr (fun run _ => ?_)
    rw [decide_eq_true_eq]
    exact reschedules_iff
  constructor
  · rintro ⟨settles, bounded⟩
    exact ⟨fun run member => settles_iff_whole.mp (settles run member),
      fun id => counted id ▸ bounded id⟩
  · rintro ⟨whole, bounded⟩
    exact ⟨fun run member => settles_iff_whole.mpr (whole run member),
      fun id => (counted id).symm ▸ bounded id⟩

/-- A worker takes the jobs of a delivery, marks it PROCESSING and is lost. -/
def lostWorker (id : String) (now : Int) (world : RecoverWorld) : RecoverWorld :=
  match world.find id with
  | none => world
  | some delivery =>
      let runtime : Runtime := ⟨now, 0, fun _ => 0⟩
      let processing := ((Delivery.markAsProcessing runtime).apply delivery).2
      {
        toDeliveryTable := world.update processing now
        jobs := world.jobs.filter (fun data => !isJobFor delivery data)
      }

/-- A worker is lost, and a minute later the service runs. No call fails. -/
def crashRound (number : Nat) : RecoveryRound where
  meanwhile := lostWorker newDelivery.id (number * 120000)
  env := {
    runtime := fun _ => ⟨number * 120000 + 60000, 0, fun _ => 0⟩
    fault := fun _ _ => none
  }
  timeoutMs := 30000

/-- A service whose collaborators have the methods it asks for. -/
def recoverConfig : RecoverConfig where
  lookup := .findStale
  enqueue := .enqueueDelivery
  logger := true

/-- One pending delivery. -/
def oneDelivery : RecoverWorld where
  deliveries := [newDelivery]
  identified := newDelivery_identified
  paired := newDelivery_paired
  jobs := []

/-- A delivery whose worker is lost six times is rescheduled six times. -/
theorem recovery_rescheduled_six_times
    : (runs recoverConfig ((List.range 6).map crashRound) oneDelivery).countP
        (fun run => run.Reschedules recoverConfig newDelivery.id)
      = 6
      ∧ ¬RecoversSafely recoverConfig
          (runs recoverConfig ((List.range 6).map crashRound) oneDelivery) := by
  have six
      : (runs recoverConfig ((List.range 6).map crashRound) oneDelivery).countP
          (fun run => run.Reschedules recoverConfig newDelivery.id)
        = 6 := by
    decide +kernel
  refine ⟨six, fun safely => ?_⟩
  have five := safely.bounded newDelivery.id
  rw [six] at five
  contradiction

end QueueForge.Application
