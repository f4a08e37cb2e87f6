import QueueForge.Async.Interleaving
import QueueForge.Infrastructure.AttemptLog
import QueueForge.Worker.AttemptRecorder
import Mathlib.Data.Finset.Card
import Mathlib.Data.Fintype.Basic

/-! Calls of the recorder that interleave on one delivery.
A call numbers its attempt by the attempts it has read and stores it in a later call, so two of
them can take one number. The numbers are right in the runs in which no attempt comes between.
-/

namespace QueueForge.Worker

open QueueForge.Async QueueForge.Js QueueForge.Infrastructure

/-- The numbers of the attempts stored for a delivery, in the order they came in. -/
def attemptNumbers (id : String) (world : World) : List Int :=
  (world.attempts.filter (fun row => row.deliveryId = id)).map AttemptRow.attemptNumber

/-- The numbers from one to the given one. -/
def numbersTo (count : Nat) : List Int :=
  (List.range count).map (fun index : Nat => (index : Int) + 1)

theorem numbersTo_succ (count : Nat)
    : numbersTo (count + 1) = numbersTo count ++ [(count : Int) + 1] := by
  simp only [numbersTo, List.range_succ, List.map_append, List.map_cons, List.map_nil]

@[simp] theorem length_numbersTo (count : Nat) : (numbersTo count).length = count := by
  simp only [numbersTo, List.length_map, List.length_range]

/-- Calls of the recorder for one delivery, and the world they start on. -/
def recordings {calls : Nat} (production logger : Bool) (id : String)
    (attempts : Fin calls → AttemptObject) (world : World)
    : Configuration SystemSignature Thrown (Fin calls) (Option AttemptRecord) World where
  process i := (workerAttemptRecorder production logger).record id (attempts i)
  world := world

/-- Each call in a process of its own. -/
def recorders {calls : Nat} (env : Environment) (i : Fin calls)
    : Handler SystemSignature Thrown World :=
  system env i

/-- Whether a call has returned its record. -/
def hasRecorded : SystemProgram (Option AttemptRecord) → Bool
  | .done record => record.isSome
  | _ => false

/-- The status recorded of an attempt is one the repository takes. -/
def Recordable (attempt : AttemptObject) : Prop :=
  let status := (AttemptRecorder.toRecord "" 0 attempt).statusCode
  100 ≤ status ∧ status ≤ 599

/-- Whether a process has read the attempts of the delivery. -/
def readsAttempts (id : String) (process : Nat) (entry : Entry) : Bool :=
  entry.process = process && entry.call = .database (.attemptFindMany id)

/-- The delivery an answered call has stored an attempt of. -/
def attempted? (entry : Entry) : Option String :=
  match entry.result with
  | .ok _ =>
      match entry.call with
      | .database (.attemptCreate id _ _ _ _) => some id
      | _ => none
  | .error _ => none

/-- An attempt of the delivery was stored since the process has last read them. -/
def attemptedSince (id : String) (process : Nat) (history : List Entry) : Bool :=
  (history.takeWhile (fun entry => !readsAttempts id process entry)).any
    (fun entry => attempted? entry = some id)

/-- The calls by which the numbers come out right. An attempt is stored only while none was since
its call has read the attempts, and the counters are updated, which does not fail, only by a
later attempt than the last.
-/
def recordsInTurn (env : Environment) (id : String) (world : World) (process : Nat)
    : SystemCall → Bool
  | .database (.attemptCreate _ _ _ _ _) => !attemptedSince id process world.history
  | .database (.deliveryUpdate other data) =>
      (env.fault process world (.database (.deliveryUpdate other data))).isNone
      && (world.delivery? id).all (fun row => data.retryCount.all (row.retryCount < ·))
  | _ => true

/-- The attempts of a delivery are numbered from one on, each number is used once, and once every
call has settled, the delivery counts them all. With a working database these are the attempts
with a status the repository takes.
-/
structure NumbersAttempts {calls : Nat} (env : Environment) (id : String)
    (attempts : Fin calls → AttemptObject)
    (config
      : Configuration SystemSignature Thrown (Fin calls) (Option AttemptRecord) World)
    : Prop where
  numbers
    : attemptNumbers id config.world = numbersTo (attemptNumbers id config.world).length
  settled
    : (∀ i, config.hasSettled i = true)
      → (attemptNumbers id config.world).length
          = (Finset.univ.filter (fun i => hasRecorded (config.process i) = true)).card
        ∧ (config.world.delivery? id).map DeliveryRow.retryCount
          = some ((attemptNumbers id config.world).length : Int)
  recorded
    : env.Faultless
      → ∀ i,
          config.hasSettled i = true
          → (hasRecorded (config.process i) = true ↔ Recordable (attempts i))

/-! ## One call -/

/-- Where a call stands, with the number of attempts it has read, or its own number. -/
inductive RecordingPhase where
  | ready
  | read (seen : Nat)
  | counted (seen : Nat)
  | refused
  | stored (number : Nat)
  | timed (number : Nat)
  | told (number : Nat)

namespace RecordingPhase

/-- The attempts a call has read and not yet added to. -/
def seen? : RecordingPhase → Option Nat
  | read seen | counted seen => some seen
  | _ => none

/-- The number of an attempt that is stored. -/
def number? : RecordingPhase → Option Nat
  | stored number | timed number | told number => some number
  | _ => none

end RecordingPhase

/-- What a call of the recorder may await, and how it goes on. A database call may fail in a
faulty environment, unless it updates the counters.
-/
def recording (faulty : Prop) (id : String) : Contract SystemSignature Thrown RecordingPhase where
  allows
    | .ready, call => call = .database (.attemptFindMany id)
    | .read _, call => call = .database (.attemptCount id)
    | .counted seen, call =>
        ∃ responseStatus responseTimeMs errorMessage,
          call
          = .database
            (.attemptCreate id ((seen : Int) + 1) responseStatus responseTimeMs errorMessage)
    | .stored _, call => call = .now
    | .timed number, call =>
        ∃ data : DeliveryUpdate,
          call = .database (.deliveryUpdate id data)
          ∧ data.retryCount = some (number : Int)
          ∧ data.nextRetryAt = .undefined
    | _, _ => False
  answers
    | .ready, .database (.attemptFindMany _), result, after =>
        (∃ rows : List AttemptRow, result = .ok rows ∧ after = .read rows.length)
        ∨ (faulty ∧ ∃ error, result = .error error ∧ after = .refused)
    | .read seen, .database (.attemptCount _), result, after =>
        (∃ count, result = .ok count ∧ after = .counted seen)
        ∨ (faulty ∧ ∃ error, result = .error error ∧ after = .refused)
    | .counted seen, .database (.attemptCreate _ _ _ _ _), result, after =>
        (∃ stored, result = .ok stored ∧ after = .stored (seen + 1))
        ∨ (faulty ∧ ∃ error, result = .error error ∧ after = .refused)
    | .stored number, .now, result, after =>
        ∃ time, result = .ok time ∧ after = .timed number
    | .timed number, .database (.deliveryUpdate _ _), result, after =>
        ∃ row, result = .ok row ∧ after = .told number
    | _, _, _, _ => False

/-- A call that has settled has returned its record and told its number, or has been refused. -/
def Recorded (faulty : Prop) (attempt : AttemptObject)
    (outcome : Settled Thrown (Option AttemptRecord)) (after : RecordingPhase)
    : Prop :=
  (∃ record number, outcome = .ok (some record) ∧ after = .told number ∧ Recordable attempt)
  ∨ outcome = .ok none ∧ after.number? = none ∧ (Recordable attempt → faulty)

section
variable {faulty : Prop} {id : String}

/-- Reading the attempts gives their number. -/
theorem nextAttemptNumber_meets (production logger : Bool)
    : ((workerAttemptRecorder production logger).nextAttemptNumber id).Meets
        (recording faulty id) .ready
        (fun outcome after =>
          (∃ seen : Nat, outcome = .ok ((seen : Int) + 1) ∧ after = .counted seen)
          ∨ (faulty ∧ after = .refused ∧ ∃ error, outcome = .error error ∧ error ≠ .nullish)) := by
  have numbers
      : (workerAttemptRecorder production logger).nextAttemptNumber id
        = (AttemptRepository.findByDeliveryId production id).bind
            (fun existing => .done ((existing.length : Int) + 1)) :=
    rfl
  have refused (error : Thrown) := mapDatabaseError_ne_nullish production error
  rw [numbers, AttemptRepository.findByDeliveryId, executeQuery]
  simp only [Program.bind_eq, Program.meets_bind, Program.meets_catchError, meets_awaitDatabase]
  refine ⟨rfl, ?_⟩
  rintro _ _ (⟨rows, rfl, rfl⟩ | ⟨fault, error, rfl, rfl⟩)
  · refine ⟨rfl, ?_⟩
    rintro _ _ (⟨count, rfl, rfl⟩ | ⟨fault, error, rfl, rfl⟩)
    · exact .inl ⟨rows.length, rfl, rfl⟩
    · exact .inr ⟨fault, rfl, _, rfl, refused error⟩
  · exact .inr ⟨fault, rfl, _, rfl, refused error⟩

/-- An attempt is stored under the next number, unless its status is rejected before. -/
theorem recordAttempt_meets (production : Bool) (seen : Nat) (status responseTimeMs : Int)
    (errorMessage : Option String)
    : (AttemptRepository.recordAttempt production id ((seen : Int) + 1) (some status)
        responseTimeMs errorMessage).Meets (recording faulty id) (.counted seen)
        (fun outcome after =>
          (outcome = .ok () ∧ after = .told (seen + 1) ∧ 100 ≤ status ∧ status ≤ 599)
          ∨ (after.number? = none
              ∧ (100 ≤ status ∧ status ≤ 599 → faulty)
              ∧ ∃ error, outcome = .error error ∧ error ≠ .nullish)) := by
  unfold AttemptRepository.recordAttempt
  by_cases inRange : 100 ≤ status ∧ status ≤ 599
  · rw [if_neg (AttemptRepository.statusAccepted inRange), executeQuery]
    simp only [Program.bind_eq, Program.tryCatch_eq, Program.meets_bind,
      Program.meets_catchError, meets_awaitDatabase, meets_awaitNow]
    refine ⟨⟨_, _, _, rfl⟩, ?_⟩
    rintro _ _ (⟨stored, rfl, rfl⟩ | ⟨fault, error, rfl, rfl⟩)
    · refine ⟨rfl, ?_⟩
      rintro _ _ ⟨now, rfl, rfl⟩
      refine ⟨⟨_, rfl, rfl, rfl⟩, ?_⟩
      rintro _ _ ⟨row, rfl, rfl⟩
      exact .inl ⟨trivial, rfl, inRange⟩
    · exact .inr
        ⟨rfl, fun _ => fault, _, rfl, mapDatabaseError_ne_nullish production error⟩
  · rw [if_pos (AttemptRepository.statusOutOfRange inRange)]
    exact .inr ⟨rfl, fun given => absurd given inRange, _, rfl, (by rintro ⟨⟩)⟩

/-- A call of the recorder meets its contract. -/
theorem record_meets (production logger : Bool) (attempt : AttemptObject)
    : ((workerAttemptRecorder production logger).record id attempt).Meets (recording faulty id)
        .ready (Recorded faulty attempt) := by
  rw [AttemptRecorder.record, Program.tryCatch_eq, Program.meets_catchError]
  simp only [Program.bind_eq, Program.meets_bind]
  refine (nextAttemptNumber_meets production logger).mono ?_
  rintro _ _ (⟨seen, rfl, rfl⟩ | ⟨fault, rfl, error, rfl, given⟩)
  · refine (recordAttempt_meets production seen _ _ _).mono ?_
    rintro _ after (⟨rfl, rfl, inRange⟩ | ⟨unnumbered, blamed, error, rfl, given⟩)
    · exact .inl ⟨_, _, rfl, rfl, inRange⟩
    · dsimp only
      rw [if_neg (fun both => given both.2)]
      exact .inr ⟨rfl, unnumbered, blamed⟩
  · dsimp only
    rw [if_neg (fun both => given both.2)]
    exact .inr ⟨rfl, rfl, fun _ => fault⟩

end

/-! ## Calls beside each other -/

variable {calls : Nat}

/-- The calls that have stored their attempt. -/
def storedCalls (phases : Fin calls → RecordingPhase) : Finset (Fin calls) :=
  Finset.univ.filter (fun i => (phases i).number?.isSome = true)

/-- Calls that have stored their attempts in turn: a call that no attempt has come in between has
seen them all, each number is some call's, and the delivery's counter has come to the last number
that was told.
-/
structure RecordedInTurn (id : String) (phases : Fin calls → RecordingPhase) (world : World)
    : Prop where
  numbers : attemptNumbers id world = numbersTo (storedCalls phases).card
  seen
    : ∀ i seen,
        (phases i).seen? = some seen
        → attemptedSince id i world.history = false
        → seen = (storedCalls phases).card
  within
    : ∀ i number, (phases i).number? = some number → number ≤ (storedCalls phases).card
  owned
    : ∀ number,
        1 ≤ number
        → number ≤ (storedCalls phases).card
        → ∃ i, (phases i).number? = some number
  delivered
    : ∃ row,
        world.delivery? id = some row
        ∧ 0 ≤ row.retryCount
        ∧ row.retryCount ≤ (storedCalls phases).card
        ∧ ∀ i number, phases i = .told number → (number : Int) ≤ row.retryCount

/-- An entry counts for what is stored since the process has read, unless it is the reading. -/
theorem attemptedSince_cons (id : String) (process : Nat) (entry : Entry) (history : List Entry)
    : attemptedSince id process (entry :: history)
      = (!readsAttempts id process entry
          && (decide (attempted? entry = some id) || attemptedSince id process history)) := by
  unfold attemptedSince
  cases reads : readsAttempts id process entry with
  | true => rw [List.takeWhile_cons_of_neg (by rw [reads]; decide)]; rfl
  | false => rw [List.takeWhile_cons_of_pos (by rw [reads]; rfl), List.any_cons]; rfl

/-- Another process has not read. -/
theorem readsAttempts_other {id : String} {process : Nat} {entry : Entry}
    (other : entry.process ≠ process)
    : readsAttempts id process entry = false := by
  rw [readsAttempts, decide_eq_false other, Bool.false_and]

section
variable {id : String} {phases : Fin calls → RecordingPhase} {world after : World} {i : Fin calls}
  {next : RecordingPhase} {entry : Entry}

theorem storedCalls_update (same : next.number? = (phases i).number?)
    : storedCalls (Function.update phases i next) = storedCalls phases := by
  refine Finset.filter_congr (fun j _ => ?_)
  by_cases here : j = i
  · subst here
    rw [Function.update_self, same]
  · rw [Function.update_of_ne here]

theorem storedCalls_store (unstored : (phases i).number? = none)
    (stored : next.number?.isSome = true)
    : storedCalls (Function.update phases i next) = insert i (storedCalls phases)
      ∧ i ∉ storedCalls phases := by
  constructor
  · ext j
    by_cases here : j = i
    · subst here
      simp [storedCalls, stored]
    · simp [storedCalls, here]
  · simp [storedCalls, unstored]

/-- A call that stores no attempt keeps the order, if it reads no other number of attempts than
there are, and has the counter follow the number it tells.
-/
theorem RecordedInTurn.move (held : RecordedInTurn id phases world)
    (same : next.number? = (phases i).number?)
    (attempts : attemptNumbers id after = attemptNumbers id world)
    (history : after.history = entry :: world.history)
    (own : entry.process = i)
    (silent : attempted? entry ≠ some id)
    (read
      : ∀ seen,
          next.seen? = some seen
          → (readsAttempts id i entry = true ∧ seen = (storedCalls phases).card)
            ∨ (phases i).seen? = some seen ∧ readsAttempts id i entry = false)
    (delivered
      : ∃ row,
          after.delivery? id = some row
          ∧ 0 ≤ row.retryCount
          ∧ row.retryCount ≤ (storedCalls phases).card
          ∧ ∀ j number,
              Function.update phases i next j = .told number → (number : Int) ≤ row.retryCount)
    : RecordedInTurn id (Function.update phases i next) after := by
  have numbered (j : Fin calls) : (Function.update phases i next j).number? = (phases j).number? := by
    by_cases here : j = i
    · subst here
      rw [Function.update_self, same]
    · rw [Function.update_of_ne here]
  have since (j : Fin calls) (reads : readsAttempts id j entry = false)
      : attemptedSince id j after.history = attemptedSince id j world.history := by
    rw [history, attemptedSince_cons, reads, decide_eq_false silent]
    rfl
  have calls := storedCalls_update same
  refine ⟨?_, ?_, ?_, ?_, ?_⟩
  · rw [calls, attempts]
    exact held.numbers
  · intro j seen given current
    rw [calls]
    by_cases here : j = i
    · subst here
      rw [Function.update_self] at given
      rcases read seen given with ⟨_, all⟩ | ⟨before, reads⟩
      · exact all
      · exact held.seen j seen before ((since j reads).symm.trans current)
    · rw [Function.update_of_ne here] at given
      have other : entry.process ≠ j := fun named => here (Fin.ext (named.symm.trans own))
      exact held.seen j seen given ((since j (readsAttempts_other other)).symm.trans current)
  · intro j number given
    rw [calls]
    exact held.within j number ((numbered j).symm.trans given)
  · intro number positive within
    rw [calls] at within
    obtain ⟨j, owner⟩ := held.owned number positive within
    exact ⟨j, (numbered j).trans owner⟩
  · rw [calls]
    exact delivered

/-- A call that has seen all attempts stores the next one. -/
theorem RecordedInTurn.store (held : RecordedInTurn id phases world)
    (counted : phases i = .counted (storedCalls phases).card)
    (attempts
      : attemptNumbers id after
        = attemptNumbers id world ++ [((storedCalls phases).card : Int) + 1])
    (history : after.history = entry :: world.history)
    (own : entry.process = i)
    (stores : attempted? entry = some id)
    (deliveries : after.deliveries = world.deliveries)
    : RecordedInTurn id
        (Function.update phases i (.stored ((storedCalls phases).card + 1))) after := by
  have unstored : (phases i).number? = none := by rw [counted]; rfl
  obtain ⟨inserted, absent⟩ :=
    @storedCalls_store _ phases i (.stored ((storedCalls phases).card + 1)) unstored rfl
  have count
      : (storedCalls
            (Function.update phases i (.stored ((storedCalls phases).card + 1)))).card
        = (storedCalls phases).card + 1 := by
    rw [inserted, Finset.card_insert_of_notMem absent]
  refine ⟨?_, ?_, ?_, ?_, ?_⟩
  · rw [count, attempts, held.numbers, numbersTo_succ]
  · intro j seen given current
    by_cases here : j = i
    · subst here
      rw [Function.update_self] at given
      cases given
    · have other : entry.process ≠ j := fun named => here (Fin.ext (named.symm.trans own))
      rw [history, attemptedSince_cons, readsAttempts_other other, stores] at current
      simp at current
  · intro j number given
    rw [count]
    by_cases here : j = i
    · subst here
      rw [Function.update_self] at given
      exact (Option.some.inj given).ge
    · rw [Function.update_of_ne here] at given
      exact (held.within j number given).trans (Nat.le_succ _)
  · intro number positive within
    rw [count] at within
    by_cases last : number = (storedCalls phases).card + 1
    · exact ⟨i, by rw [Function.update_self, last]; rfl⟩
    · obtain ⟨j, owner⟩ := held.owned number positive (by omega)
      have elsewhere : j ≠ i := by
        rintro rfl
        cases unstored.symm.trans owner
      exact ⟨j, by rw [Function.update_of_ne elsewhere]; exact owner⟩
  · rw [count]
    obtain ⟨row, found, low, high, told⟩ := held.delivered
    refine ⟨row, ?_, low, by omega, ?_⟩
    · rw [World.delivery?, deliveries]
      exact found
    · intro j number given
      by_cases here : j = i
      · subst here
        rw [Function.update_self] at given
        cases given
      · rw [Function.update_of_ne here] at given
        exact told j number given

/-- A call that leaves the database alone keeps the order. -/
theorem RecordedInTurn.wait (held : RecordedInTurn id phases world)
    (same : next.number? = (phases i).number?)
    (untold : ∀ number, next ≠ .told number)
    (unchanged : after.attempts = world.attempts ∧ after.deliveries = world.deliveries)
    (history : after.history = entry :: world.history)
    (own : entry.process = i)
    (silent : attempted? entry ≠ some id)
    (read
      : ∀ seen,
          next.seen? = some seen
          → (readsAttempts id i entry = true ∧ seen = (storedCalls phases).card)
            ∨ (phases i).seen? = some seen ∧ readsAttempts id i entry = false)
    : RecordedInTurn id (Function.update phases i next) after := by
  refine held.move same ?_ history own silent read ?_
  · rw [attemptNumbers, unchanged.1]
    rfl
  · obtain ⟨row, found, low, high, told⟩ := held.delivered
    refine ⟨row, ?_, low, high, ?_⟩
    · rw [World.delivery?, unchanged.2]
      exact found
    · intro j number given
      by_cases here : j = i
      · subst here
        rw [Function.update_self] at given
        exact absurd given (untold number)
      · rw [Function.update_of_ne here] at given
        exact told j number given

end

/-- A call that stores no attempt enters none. -/
theorem attempted?_other {id : String} {process : Nat} {call : SystemCall}
    {result : Settled Thrown call.Result}
    (other
      : ∀ deliveryId attemptNumber responseStatus responseTimeMs errorMessage,
          call
          ≠ .database
            (.attemptCreate deliveryId attemptNumber responseStatus responseTimeMs errorMessage))
    : attempted? ⟨process, call, result⟩ ≠ some id := by
  cases result with
  | error error => exact nofun
  | ok value =>
      cases call with
      | database call =>
          cases call with
          | attemptCreate deliveryId attemptNumber responseStatus responseTimeMs errorMessage =>
              exact absurd rfl (other _ _ _ _ _)
          | _ => exact nofun
      | _ => exact nofun

/-- What a fault leaves. -/
theorem system_faulty {env : Environment} {process : Nat} {world : World} {call : DatabaseCall}
    {error : Thrown} (faulty : env.fault process world (.database call) = some error)
    : system env process (.database call) world
      = (.error error, world.log process (.database call) (.error error)) := by
  simp only [system, performCall, faulty]

theorem system_working {env : Environment} {process : Nat} {world : World} {call : DatabaseCall}
    (working : env.fault process world (.database call) = none)
    : system env process (.database call) world
      = ((performDatabase env world call).1,
          (performDatabase env world call).2.log process (.database call)
            (performDatabase env world call).1) := by
  simp only [system, performCall, working]

section
variable (env : Environment) {id : String} {phases : Fin calls → RecordingPhase} {world : World}
  {i : Fin calls}

/-- A call that a fault refuses keeps the order. -/
theorem RecordedInTurn.refuse (held : RecordedInTurn id phases world) {call : DatabaseCall}
    {error : Thrown} (unstored : (phases i).number? = none)
    : RecordedInTurn id (Function.update phases i .refused)
        (world.log i (.database call) (.error error)) := by
  have silent : attempted? ⟨i, .database call, .error error⟩ ≠ some id := nofun
  exact held.wait unstored.symm nofun ⟨rfl, rfl⟩ rfl rfl silent nofun

/-- Only a database that is not faultless refuses a call. -/
theorem not_faultless {call : SystemCall} {error : Thrown}
    (fault : env.fault i world call = some error)
    : ¬env.Faultless :=
  fun faultless => nomatch (faultless i world call).symm.trans fault

/-- Reading the attempts keeps the order: there are as many as calls that have stored one. -/
theorem RecordedInTurn.answer_find (held : RecordedInTurn id phases world)
    (phase : phases i = .ready)
    : ∃ next,
        (recording (¬env.Faultless) id).answers .ready (.database (.attemptFindMany id))
          (system env i (.database (.attemptFindMany id)) world).1 next
        ∧ RecordedInTurn id (Function.update phases i next)
          (system env i (.database (.attemptFindMany id)) world).2 := by
  have unstored : (phases i).number? = none := by rw [phase]; rfl
  cases fault : env.fault i world (.database (.attemptFindMany id)) with
  | some error =>
      rw [system_faulty fault]
      exact ⟨.refused, .inr ⟨not_faultless env fault, error, rfl, rfl⟩, held.refuse unstored⟩
  | none =>
      rw [system_working fault]
      have all
          : (world.attempts.filter (fun row => row.deliveryId = id)).length
            = (storedCalls phases).card := by
        have numbers := congrArg List.length held.numbers
        rwa [length_numbersTo, attemptNumbers, List.length_map] at numbers
      refine ⟨_, .inl ⟨_, rfl, rfl⟩, ?_⟩
      refine held.wait unstored.symm nofun ⟨rfl, rfl⟩ rfl rfl (attempted?_other nofun) ?_
      intro seen given
      refine .inl ⟨?_, (Option.some.inj given).symm.trans all⟩
      simp only [readsAttempts, decide_true, Bool.and_self]

/-- Counting the attempts keeps the order. -/
theorem RecordedInTurn.answer_count (held : RecordedInTurn id phases world) {seen : Nat}
    (phase : phases i = .read seen)
    : ∃ next,
        (recording (¬env.Faultless) id).answers (.read seen) (.database (.attemptCount id))
          (system env i (.database (.attemptCount id)) world).1 next
        ∧ RecordedInTurn id (Function.update phases i next)
          (system env i (.database (.attemptCount id)) world).2 := by
  have unstored : (phases i).number? = none := by rw [phase]; rfl
  cases fault : env.fault i world (.database (.attemptCount id)) with
  | some error =>
      rw [system_faulty fault]
      exact ⟨.refused, .inr ⟨not_faultless env fault, error, rfl, rfl⟩, held.refuse unstored⟩
  | none =>
      rw [system_working fault]
      refine ⟨_, .inl ⟨_, rfl, rfl⟩, ?_⟩
      refine held.wait unstored.symm nofun ⟨rfl, rfl⟩ rfl rfl (attempted?_other nofun) ?_
      intro counted given
      refine .inr ⟨?_, ?_⟩
      · rw [phase]
        exact given
      · simp [readsAttempts]

/-- Storing the attempt keeps the order: none was stored since the call has read them, so its
number is the next.
-/
theorem RecordedInTurn.answer_create (held : RecordedInTurn id phases world) {seen : Nat}
    {responseStatus : Option Int} {responseTimeMs : Int} {errorMessage : Option String}
    (phase : phases i = .counted seen)
    (current : attemptedSince id i world.history = false)
    : let call : SystemCall :=
        .database (.attemptCreate id ((seen : Int) + 1) responseStatus responseTimeMs errorMessage)
      ∃ next,
        (recording (¬env.Faultless) id).answers (.counted seen) call
          (system env i call world).1 next
        ∧ RecordedInTurn id (Function.update phases i next) (system env i call world).2 := by
  intro call
  have unstored : (phases i).number? = none := by rw [phase]; rfl
  cases fault : env.fault i world call with
  | some error =>
      rw [system_faulty fault]
      exact ⟨.refused, .inr ⟨not_faultless env fault, error, rfl, rfl⟩, held.refuse unstored⟩
  | none =>
      rw [system_working fault]
      obtain rfl : seen = (storedCalls phases).card :=
        held.seen i seen (by rw [phase]; rfl) current
      obtain ⟨row, found, -⟩ := held.delivered
      simp only [performDatabase, found]
      refine ⟨_, .inl ⟨_, rfl, rfl⟩, ?_⟩
      refine held.store phase ?_ rfl rfl rfl rfl
      simp [attemptNumbers, World.log, List.filter_append]

/-- Reading the clock keeps the order. -/
theorem RecordedInTurn.answer_now (held : RecordedInTurn id phases world) {number : Nat}
    (phase : phases i = .stored number)
    : ∃ next,
        (recording (¬env.Faultless) id).answers (.stored number) .now
          (system env i .now world).1 next
        ∧ RecordedInTurn id (Function.update phases i next) (system env i .now world).2 := by
  refine ⟨_, ⟨_, rfl, rfl⟩, ?_⟩
  refine held.wait ?_ nofun ⟨rfl, rfl⟩ rfl rfl (attempted?_other nofun) nofun
  rw [phase]
  rfl

/-- Updating the counters keeps the order: the delivery counts a later attempt than before. -/
theorem RecordedInTurn.answer_update (held : RecordedInTurn id phases world) {number : Nat}
    {data : DeliveryUpdate} (phase : phases i = .timed number)
    (counts : data.retryCount = some (number : Int)) (undated : data.nextRetryAt = .undefined)
    (permitted : recordsInTurn env id world i (.database (.deliveryUpdate id data)) = true)
    : ∃ next,
        (recording (¬env.Faultless) id).answers (.timed number)
          (.database (.deliveryUpdate id data))
          (system env i (.database (.deliveryUpdate id data)) world).1 next
        ∧ RecordedInTurn id (Function.update phases i next)
          (system env i (.database (.deliveryUpdate id data)) world).2 := by
  obtain ⟨row, found, low, high, told⟩ := held.delivered
  rw [recordsInTurn, Bool.and_eq_true, found, Option.all_some, counts, Option.all_some,
    decide_eq_true_eq] at permitted
  have owns : (phases i).number? = some number := by rw [phase]; rfl
  have within := held.within i number owns
  rw [system_working (Option.isNone_iff_eq_none.mp permitted.1)]
  simp only [performDatabase, undated, dateTimeArgument, found]
  refine ⟨_, ⟨_, rfl, rfl⟩, ?_⟩
  refine held.move owns.symm rfl rfl rfl (attempted?_other (by simp)) (by rintro _ ⟨⟩) ?_
  refine ⟨data.applyTo none (env.clock world) row, ?_, ?_⟩
  · rw [World.delivery?_log,
      World.delivery?_modifyDelivery (data.applyTo_id none (env.clock world)), if_pos rfl, found]
    rfl
  · have counter : (data.applyTo none (env.clock world) row).retryCount = number := by
      simp only [DeliveryUpdate.applyTo, counts, Option.getD_some]
    rw [counter]
    refine ⟨by omega, by exact_mod_cast within, ?_⟩
    intro j other given
    by_cases here : j = i
    · subst here
      rw [Function.update_self] at given
      obtain rfl := RecordingPhase.told.inj given
      exact le_rfl
    · rw [Function.update_of_ne here] at given
      exact (told j other given).trans permitted.2.le

/-- The step: every call made in turn keeps the order, by cases on the phase it is awaited in. -/
theorem RecordedInTurn.step (held : RecordedInTurn id phases world) {call : SystemCall}
    (allowed : (recording (¬env.Faultless) id).allows (phases i) call)
    (permitted : recordsInTurn env id world i call = true)
    : ∃ next,
        (recording (¬env.Faultless) id).answers (phases i) call (system env i call world).1 next
        ∧ RecordedInTurn id (Function.update phases i next) (system env i call world).2 := by
  cases phase : phases i with
  | refused => rw [phase] at allowed; exact allowed.elim
  | told number => rw [phase] at allowed; exact allowed.elim
  | ready =>
      rw [phase] at allowed
      obtain rfl : call = .database (.attemptFindMany id) := allowed
      exact held.answer_find env phase
  | read seen =>
      rw [phase] at allowed
      obtain rfl : call = .database (.attemptCount id) := allowed
      exact held.answer_count env phase
  | counted seen =>
      rw [phase] at allowed
      obtain ⟨responseStatus, responseTimeMs, errorMessage, rfl⟩ := allowed
      exact held.answer_create env phase (Bool.not_eq_eq_eq_not.mp permitted)
  | stored number =>
      rw [phase] at allowed
      obtain rfl : call = .now := allowed
      exact held.answer_now env phase
  | timed number =>
      rw [phase] at allowed
      obtain ⟨data, rfl, counts, undated⟩ := allowed
      exact held.answer_update env phase counts undated permitted

end

/-- Where a settled call of the recorder has come to. -/
theorem Recorded.of_settled {faulty : Prop} {id : String} {attempt : AttemptObject}
    {phase : RecordingPhase}
    {config
      : Configuration SystemSignature Thrown (Fin calls) (Option AttemptRecord) World}
    {i : Fin calls}
    (owed : (config.process i).Meets (recording faulty id) phase (Recorded faulty attempt))
    (settled : config.hasSettled i = true)
    : (hasRecorded (config.process i) = true
        ∧ Recordable attempt
        ∧ ∃ number, phase = .told number)
      ∨ (hasRecorded (config.process i) = false
          ∧ (Recordable attempt → faulty)
          ∧ phase.number? = none) := by
  rw [Configuration.hasSettled] at settled
  cases found : config.process i with
  | call op rest =>
      rw [found] at settled
      exact nomatch settled
  | fail error =>
      rw [found] at owed
      rcases owed with ⟨record, number, failed, -⟩ | ⟨failed, -⟩
      · exact nomatch failed
      · exact nomatch failed
  | done value =>
      rw [found] at owed
      rcases owed with ⟨record, number, returned, told, recordable⟩ | ⟨returned, unnumbered, blamed⟩
      · obtain rfl := Except.ok.inj returned
        exact .inl ⟨rfl, recordable, number, told⟩
      · obtain rfl := Except.ok.inj returned
        exact .inr ⟨rfl, blamed, unnumbered⟩

/-- The recorder numbers the attempts of a fresh delivery from one on, in every interleaving of
its calls in which no attempt comes between the reading of a call and its own, and the counter of
the delivery is updated in the order of the numbers.
Witness: every call made in turn keeps the order; once all have settled, the call that owns the
last number has told it.
-/
theorem attempts_numbered (env : Environment) (production logger : Bool) (id : String)
    (attempts : Fin calls → AttemptObject) (start : World) {row : DeliveryRow}
    (stored : start.delivery? id = some row) (fresh : row.retryCount = 0)
    (unattempted : attemptNumbers id start = [])
    {config
      : Configuration SystemSignature Thrown (Fin calls) (Option AttemptRecord) World}
    (reached
      : Configuration.Reachable (recorders env)
          (fun world i call => recordsInTurn env id world i call = true)
          (recordings production logger id attempts start) config)
    : NumbersAttempts env id attempts config := by
  have unstored : storedCalls (fun _ : Fin calls => RecordingPhase.ready) = ∅ :=
    Finset.filter_false_of_mem (fun _ _ => Bool.false_ne_true)
  have initially : RecordedInTurn id (fun _ : Fin calls => .ready) start := by
    refine ⟨?_, nofun, nofun, ?_, row, stored, fresh.ge, ?_, nofun⟩
    · rw [unstored, unattempted]
      rfl
    · intro number positive within
      rw [unstored, Finset.card_empty] at within
      omega
    · rw [unstored, fresh, Finset.card_empty]
      rfl
  have kept
      : ∀ (phases : Fin calls → RecordingPhase) (world : World) (i : Fin calls) (call : SystemCall),
          RecordedInTurn id phases world
          → (recording (¬env.Faultless) id).allows (phases i) call
          → recordsInTurn env id world i call = true
          → ∃ next,
              (recording (¬env.Faultless) id).answers (phases i) call
                (recorders env i call world).1 next
              ∧ RecordedInTurn id (Function.update phases i next) (recorders env i call world).2 :=
    fun _ _ _ _ held allowed permitted => held.step env allowed permitted
  have met (i : Fin calls)
      : ((recordings production logger id attempts start).process i).Meets
          (recording (¬env.Faultless) id) .ready (Recorded (¬env.Faultless) (attempts i)) :=
    record_meets production logger (attempts i)
  obtain ⟨phases, owed, held⟩ := reached.invariant kept met initially
  have count : (attemptNumbers id config.world).length = (storedCalls phases).card := by
    rw [held.numbers, length_numbersTo]
  refine ⟨?_, ?_, ?_⟩
  · rw [count]
    exact held.numbers
  · intro settled
    constructor
    · rw [count]
      refine congrArg Finset.card (Finset.filter_congr (fun i _ => ?_))
      rcases Recorded.of_settled (owed i) (settled i) with
        ⟨recorded, -, number, told⟩ | ⟨unrecorded, -, unnumbered⟩
      · exact iff_of_true (by rw [told]; rfl) recorded
      · exact iff_of_false (by rw [unnumbered]; decide) (by rw [unrecorded]; decide)
    · obtain ⟨last, found, low, high, told⟩ := held.delivered
      rw [count, found, Option.map_some, Option.some.injEq]
      refine le_antisymm high ?_
      by_cases positive : 1 ≤ (storedCalls phases).card
      · obtain ⟨i, owner⟩ := held.owned _ positive le_rfl
        rcases Recorded.of_settled (owed i) (settled i) with
          ⟨-, -, number, phase⟩ | ⟨-, -, unnumbered⟩
        · rw [phase] at owner
          obtain rfl := Option.some.inj owner
          exact told i _ phase
        · exact nomatch unnumbered.symm.trans owner
      · omega
  · intro faultless i settled
    rcases Recorded.of_settled (owed i) settled with
      ⟨recorded, recordable, -⟩ | ⟨unrecorded, blamed, -⟩
    · exact iff_of_true recorded recordable
    · refine iff_of_false (by rw [unrecorded]; decide) (fun recordable => ?_)
      exact blamed recordable faultless

/-- A world that stores one delivery without attempts. -/
def attemptedDelivery : World := .ofDelivery (.fresh .processing)

/-- An attempt that was answered. -/
def answeredAttempt : AttemptObject where
  latencyMs := 12
  statusCode := some 200
  error := .nullish
  response := .undefined

/-- Two calls for it, in the order of the schedule. -/
def twoRecordings (schedule : List (Fin 2))
    : Configuration SystemSignature Thrown (Fin 2) (Option AttemptRecord) World :=
  (recordings true true "delivery" (fun _ => answeredAttempt) attemptedDelivery).follow
    (recorders (.answering (fun _ => .error .nullish))) schedule

theorem attempts_numbered_twice
    : NumbersAttempts (.answering (fun _ => .error .nullish)) "delivery" (fun _ => answeredAttempt)
        (twoRecordings [0, 0, 0, 0, 0, 1, 1, 1, 1, 1])
      ∧ attemptNumbers "delivery" (twoRecordings [0, 0, 0, 0, 0, 1, 1, 1, 1, 1]).world = [1, 2] :=
  ⟨attempts_numbered _ true true "delivery" _ attemptedDelivery rfl rfl rfl
      (Configuration.reachable_follow _ _ (by decide +kernel)),
    by decide +kernel⟩

/-- Two calls that read before either has stored its attempt take the same number. -/
theorem attempts_misnumbered
    : Configuration.Reachable (recorders (.answering (fun _ => .error .nullish)))
        (fun _ _ _ => True)
        (recordings true true "delivery" (fun _ : Fin 2 => answeredAttempt) attemptedDelivery)
        (twoRecordings [0, 0, 1, 1, 0, 0, 0, 1, 1, 1])
      ∧ (∀ i, (twoRecordings [0, 0, 1, 1, 0, 0, 0, 1, 1, 1]).hasSettled i = true)
      ∧ attemptNumbers "delivery" (twoRecordings [0, 0, 1, 1, 0, 0, 0, 1, 1, 1]).world = [1, 1]
      ∧ ((twoRecordings [0, 0, 1, 1, 0, 0, 0, 1, 1, 1]).world.delivery? "delivery").map
          DeliveryRow.retryCount
        = some 1 :=
  ⟨Configuration.reachable_follow _ _ (by decide +kernel), by decide +kernel, by decide +kernel,
    by decide +kernel⟩

end QueueForge.Worker
