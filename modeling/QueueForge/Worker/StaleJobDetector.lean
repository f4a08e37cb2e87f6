import QueueForge.Infrastructure.DeliveryRepository

/-! The detector of stale jobs: it puts deliveries that are stuck in PROCESSING back in the
queue and marks them PENDING.
-/

namespace QueueForge.Worker

open QueueForge.Async QueueForge.Js QueueForge.Domain QueueForge.Infrastructure

namespace StaleJobDetector

variable (production : Bool)

/-- `staleTimeoutMs`: the stale lease threshold. -/
def staleTimeoutMs : Int := 30000

/-- The job a delivery is put back in the queue with. -/
def jobOf (delivery : DeliveryRow) : Job where
  name := delivery.taskResultId ++ ":" ++ delivery.destinationId
  taskResultId := delivery.taskResultId
  destinationId := delivery.destinationId
  attempt := delivery.retryCount

/-- `this.queue.add(...)`. -/
def add (job : Job) : SystemProgram Unit :=
  Program.perform (S := SystemSignature) (.queueAdd job)

/-- Transitions a specific delivery back to PENDING. -/
def markAsStale (deliveryId : String) : SystemProgram Unit := do
  let _ ← DeliveryRepository.updateDeliveryStatus production deliveryId .pending .undefined
  pure ()

/-- Recovers a crashed processing delivery by marking it PENDING and re-enqueueing it. Every
exception is logged and dropped.
-/
def recover (deliveryId : String) : SystemProgram Unit :=
  tryCatch
    (do
      let delivery ← DeliveryRepository.findById production deliveryId
      match delivery with
      | none => throw (newError ("Stale delivery " ++ deliveryId ++ " not found in database"))
      | some delivery =>
          add (jobOf delivery)
          markAsStale production deliveryId)
    (fun _ => pure ())

/-- `for (const delivery of staleDeliveries) await this.recover(delivery.id)`. -/
def recoverEach : List DeliveryRow → SystemProgram Unit
  | [] => pure ()
  | delivery :: rest => do
      recover production delivery.id
      recoverEach rest

/-- Scans for deliveries stuck in PROCESSING and recovers them, all those it found in one
query.
-/
def detectStale : SystemProgram Nat := do
  let now ← awaitNow
  let staleDeliveries ← DeliveryRepository.findStale production (now - staleTimeoutMs)
  recoverEach production staleDeliveries
  pure staleDeliveries.length

end StaleJobDetector

/-- A call of one of the detector's methods. -/
inductive DetectorCall where
  | detectStale
  | recover (deliveryId : String)

/-- A method runs to its end, whatever it settles with. -/
def DetectorCall.perform (production : Bool) : DetectorCall → SystemProgram Unit
  | detectStale => (StaleJobDetector.detectStale production).settle.bind (fun _ => .done ())
  | recover deliveryId =>
      (StaleJobDetector.recover production deliveryId).settle.bind (fun _ => .done ())

/-- Calls of the detector one after the other. -/
def performDetector (production : Bool) : List DetectorCall → SystemProgram Unit
  | [] => .done ()
  | call :: rest => (call.perform production).bind (fun _ => performDetector production rest)

/-- Where a recovery is between two calls: it has looked a delivery up, has put it in the
queue, or neither.
-/
inductive RecoveryPhase where
  | scanning
  | found (delivery : DeliveryRow)
  | enqueued (deliveryId : String)

/-- The contract of a recovery: a delivery that was looked up is put in the queue, and one that
is in the queue is marked PENDING.
-/
def recoveryContract : Contract SystemSignature Thrown RecoveryPhase where
  allows phase call :=
    match call with
    | .now | .database (.deliveryFindStale _) | .database (.deliveryCountStale _)
    | .database (.deliveryFindUnique _) => phase = .scanning
    | .queueAdd job => ∃ row, phase = .found row ∧ job = StaleJobDetector.jobOf row
    | .database (.deliveryUpdate id data) =>
        phase = .enqueued id ∧ data = { status := some .pending }
    | _ => False
  answers phase call result after :=
    match call with
    | .now => (∃ time, result = .ok time) ∧ after = .scanning
    | .database (.deliveryFindUnique id) =>
        (∃ row, result = .ok (some row) ∧ row.id = id ∧ after = .found row)
        ∨ (∀ row, result ≠ .ok (some row)) ∧ after = .scanning
    | .queueAdd _ =>
        (∃ row, phase = .found row ∧ result = .ok () ∧ after = .enqueued row.id)
        ∨ (∃ error, result = .error error) ∧ after = .scanning
    | _ => after = .scanning

namespace StaleJobDetector

variable (production : Bool)

/-- A recovery runs from its lookup to its write, wherever it fails. -/
theorem recover_meets (deliveryId : String)
    : (recover production deliveryId).Meets recoveryContract .scanning
        (fun outcome after => outcome = .ok () ∧ after = .scanning) := by
  have marked
      : ∀ row : DeliveryRow,
          row.id = deliveryId
          → (markAsStale production deliveryId).Meets recoveryContract (.enqueued row.id)
              (fun _ after => after = .scanning) := by
    intro row named
    subst named
    simp only [markAsStale, DeliveryRepository.updateDeliveryStatus,
      DeliveryRepository.updateStatus, executeQuery, updateDelivery, parseTxAndContext,
      Program.bind_eq, Program.meets_bind, Program.meets_catchError, meets_awaitDatabase]
    refine ⟨⟨rfl, rfl⟩, ?_⟩
    intro result after answered
    cases result with
    | ok row => exact answered
    | error error => exact answered
  have recovered
      : ∀ row : DeliveryRow,
          row.id = deliveryId
          → ((add (jobOf row)).bind (fun _ => markAsStale production deliveryId)).Meets
              recoveryContract (.found row) (fun _ after => after = .scanning) := by
    intro row named
    rw [Program.meets_bind, add, Program.meets_perform]
    refine ⟨⟨row, rfl, rfl⟩, ?_⟩
    intro result after answered
    rcases answered with ⟨other, same, rfl, rfl⟩ | ⟨⟨error, rfl⟩, rfl⟩
    · obtain rfl : row = other := RecoveryPhase.found.inj same
      exact marked row named
    · rfl
  rw [recover, Program.tryCatch_eq, Program.meets_catchError, Program.bind_eq,
    Program.meets_bind, DeliveryRepository.findById, executeQuery, Program.meets_catchError,
    meets_awaitDatabase]
  refine ⟨rfl, ?_⟩
  intro result after answered
  rcases answered with ⟨row, rfl, named, rfl⟩ | ⟨unfound, rfl⟩
  · refine (recovered row named).mono ?_
    intro outcome after scanning
    cases outcome with
    | ok value => exact ⟨rfl, scanning⟩
    | error error => exact ⟨rfl, scanning⟩
  · rcases result with error | _ | row
    · exact ⟨rfl, rfl⟩
    · exact ⟨rfl, rfl⟩
    · exact absurd rfl (unfound row)

/-- So do several, by induction on the deliveries. -/
theorem recoverEach_meets (deliveries : List DeliveryRow)
    : (recoverEach production deliveries).Meets recoveryContract .scanning
        (fun _ after => after = .scanning) := by
  induction deliveries with
  | nil => rfl
  | cons delivery rest ih =>
      rw [recoverEach, Program.bind_eq, Program.meets_bind]
      refine (recover_meets production delivery.id).mono ?_
      intro outcome after recovered
      obtain ⟨rfl, rfl⟩ := recovered
      exact ih

/-- And a whole scan. -/
theorem detectStale_meets
    : (detectStale production).Meets recoveryContract .scanning
        (fun _ after => after = .scanning) := by
  simp only [detectStale, DeliveryRepository.findStale, executeQuery, Program.bind_eq,
    Program.meets_bind, Program.meets_catchError, meets_awaitNow, meets_awaitDatabase]
  refine ⟨rfl, ?_⟩
  intro read after answered
  obtain ⟨⟨time, rfl⟩, rfl⟩ := answered
  refine ⟨rfl, ?_⟩
  intro found after answered
  obtain rfl : after = .scanning := answered
  cases found with
  | error error => rfl
  | ok records =>
      refine ⟨rfl, ?_⟩
      intro counted after answered
      obtain rfl : after = .scanning := answered
      cases counted with
      | error error => rfl
      | ok total =>
          refine (recoverEach_meets production records).mono ?_
          intro outcome after scanning
          cases outcome with
          | ok value => exact scanning
          | error error => exact scanning

end StaleJobDetector

/-- Any calls of the detector keep the contract, by induction on the calls. -/
theorem performDetector_meets (production : Bool) (calls : List DetectorCall)
    : (performDetector production calls).Meets recoveryContract .scanning
        (fun _ _ => True) := by
  have performed
      : ∀ call : DetectorCall,
          (call.perform production).Meets recoveryContract .scanning
            (fun outcome after => outcome = .ok () ∧ after = .scanning) := by
    intro call
    cases call with
    | detectStale =>
        rw [DetectorCall.perform, Program.meets_bind, Program.meets_settle]
        refine (StaleJobDetector.detectStale_meets production).mono ?_
        intro outcome after scanning
        exact ⟨rfl, scanning⟩
    | recover deliveryId =>
        rw [DetectorCall.perform, Program.meets_bind, Program.meets_settle]
        refine (StaleJobDetector.recover_meets production deliveryId).mono ?_
        intro outcome after recovered
        exact ⟨rfl, recovered.2⟩
  induction calls with
  | nil => trivial
  | cons call rest ih =>
      rw [performDetector, Program.meets_bind]
      refine (performed call).mono ?_
      intro outcome after settled
      obtain ⟨rfl, rfl⟩ := settled
      exact ih

end QueueForge.Worker
