import Mathlib.Tactic.Tauto
import QueueForge.Async.Throughout
import QueueForge.Infrastructure.TransactionManager

/-! A manual transaction of `TransactionManager`: the callback of the database waits for a promise
of the manager's own, which a commit resolves and a rollback rejects. A call waits for the same
promise, and the database answers to the callback later, in a task of its own.
-/

namespace QueueForge.Infrastructure

open QueueForge.Async QueueForge.Js

/-- What has become of the transaction in the database. -/
inductive DatabaseState where
  | open
  | committed
  | rolledBack
deriving DecidableEq

/-- `commitTransaction` or `rollbackTransaction`. -/
inductive ClosingCall where
  | commit
  | rollback
deriving DecidableEq

/-- The state of the database that a call asks for. -/
def ClosingCall.aim : ClosingCall → DatabaseState
  | commit => .committed
  | rollback => .rolledBack

/-- What is queued when the promise is settled: the callback goes on, or a call does. -/
inductive Reaction where
  | callback
  | call (closing : ClosingCall)
deriving DecidableEq

/-- A call that has settled, and the state of the database then. -/
structure SettledClosing where
  closing : ClosingCall
  result : Settled Thrown Unit
  database : DatabaseState

/-- A transaction whose handle has been given out: the promise that the callback and the calls wait
for, and what the callback has ended with, both `none` while they are pending.
-/
structure ManualTransaction where
  done : Option (Settled Thrown Unit) := none
  callback : Option (Settled Thrown Unit) := none
  database : DatabaseState := .open
  microtasks : List Reaction := []
  closed : List SettledClosing := []

namespace ManualTransaction

/-- A promise is settled once, and that queues who has waited for it: the callback. -/
def settleDone (settlement : Settled Thrown Unit) (tx : ManualTransaction) : ManualTransaction :=
  match tx.done with
  | none => { tx with done := some settlement, microtasks := tx.microtasks ++ [.callback] }
  | some _ => tx

/-- A call waits for the promise, which is settled. -/
def awaitDone (closing : ClosingCall) (tx : ManualTransaction) : ManualTransaction :=
  { tx with microtasks := tx.microtasks ++ [.call closing] }

/-- Commits the open manual transaction. -/
def commitTransaction (tx : ManualTransaction) : ManualTransaction :=
  (tx.settleDone (.ok ())).awaitDone .commit

/-- Rolls back the open manual transaction. -/
def rollbackTransaction (tx : ManualTransaction) : ManualTransaction :=
  (tx.settleDone (.error (newError "Manual transaction rollback"))).awaitDone .rollback

/-- The callback returns, or throws to force interactive transaction rollback. -/
def resumeCallback (tx : ManualTransaction) : ManualTransaction :=
  match tx.done with
  | none => tx
  | some (.ok ()) => { tx with callback := some (.ok ()) }
  | some (.error err) =>
      {
        tx with
        callback :=
          some (.error (if err.truthy then err else newError "Transaction rollback forced"))
      }

/-- A call goes on: either one resolves whatever the promise is settled with. -/
def resumeCall (closing : ClosingCall) (tx : ManualTransaction) : ManualTransaction :=
  { tx with closed := ⟨closing, .ok (), tx.database⟩ :: tx.closed }

def react : Reaction → ManualTransaction → ManualTransaction
  | .callback => resumeCallback
  | .call closing => resumeCall closing

end ManualTransaction

/-- `beginTransaction`: the handle is there when the database has run the callback. -/
def TransactionManager.beginTransaction : Settled Thrown Unit → Settled Thrown ManualTransaction
  | .ok () => .ok {}
  | .error err => .error (handleError err)

/-- What may happen to an open transaction. -/
inductive TransactionEvent where
  | closing (call : ClosingCall)
  /-- `commit` or `rollback` of the handle. -/
  | handle (settlement : Settled Thrown Unit)
  | microtask
  /-- The database has been told how the callback ended, and a commit may be refused. -/
  | answered (accepted : Bool)
  | timedOut

namespace ManualTransaction

def call : ClosingCall → ManualTransaction → ManualTransaction
  | .commit => commitTransaction
  | .rollback => rollbackTransaction

/-- The database changes in a task of its own, when no microtask is left. A rejection of its promise
is passed on to the promise of the handle, which is settled already.
-/
def databaseChanges (change : ManualTransaction → DatabaseState) (tx : ManualTransaction)
    : ManualTransaction :=
  if tx.microtasks = [] ∧ tx.database = .open then { tx with database := change tx } else tx

def step : TransactionEvent → ManualTransaction → ManualTransaction
  | .closing closing, tx => tx.call closing
  | .handle settlement, tx => tx.settleDone settlement
  | .microtask, tx =>
      match tx.microtasks with
      | [] => tx
      | reaction :: rest => react reaction { tx with microtasks := rest }
  | .answered accepted, tx =>
      tx.databaseChanges (fun tx =>
        match tx.callback with
        | none => .open
        | some (.ok ()) => if accepted then .committed else .rolledBack
        | some (.error _) => .rolledBack)
  | .timedOut, tx => tx.databaseChanges (fun _ => .rolledBack)

/-- The microtasks that are queued run before anything else. -/
def drain (tx : ManualTransaction) : ManualTransaction :=
  tx.microtasks.foldl (fun tx reaction => react reaction tx) { tx with microtasks := [] }

end ManualTransaction

/-- A call resolves only when the transaction is closed the way it asks for, and rejects otherwise.
-/
def SettledClosing.Truthful (settled : SettledClosing) : Prop :=
  settled.result = .ok () → settled.database = settled.closing.aim

namespace ManualTransaction

/-- All calls that have been made are truthful. -/
def Truthful (tx : ManualTransaction) : Prop :=
  ∀ settled ∈ tx.drain.closed, settled.Truthful

/-- A call comes when the transaction is closed the way it asks for. -/
def ClosedBefore : TransactionEvent → ManualTransaction → Prop
  | .closing closing, tx => tx.database = closing.aim
  | _, _ => True

-----------------------------------------------------------------------------------------
-- What the calls tell
-----------------------------------------------------------------------------------------

variable {tx : ManualTransaction}

@[simp] theorem resumeCallback_kept
    : tx.resumeCallback.closed = tx.closed ∧ tx.resumeCallback.database = tx.database := by
  unfold resumeCallback
  cases tx.done with
  | none => exact ⟨rfl, rfl⟩
  | some settlement => cases settlement <;> exact ⟨rfl, rfl⟩

@[simp] theorem settleDone_kept (settlement : Settled Thrown Unit)
    : (tx.settleDone settlement).closed = tx.closed
      ∧ (tx.settleDone settlement).database = tx.database
      ∧ ∀ closing,
          Reaction.call closing ∈ (tx.settleDone settlement).microtasks
          ↔ Reaction.call closing ∈ tx.microtasks := by
  unfold settleDone
  cases tx.done <;> simp

/-- Running reactions settles the calls among them, in the state the database is in. By induction on
the reactions.
-/
theorem mem_closed_foldl (reactions : List Reaction) (settled : SettledClosing)
    : settled ∈ (reactions.foldl (fun tx reaction => react reaction tx) tx).closed
      ↔ settled ∈ tx.closed
        ∨ ∃ closing, Reaction.call closing ∈ reactions ∧ settled = ⟨closing, .ok (), tx.database⟩ := by
  induction reactions generalizing tx with
  | nil => simp
  | cons reaction rest ih =>
      rw [List.foldl_cons, ih]
      cases reaction with
      | callback => simp [react]
      | call closing =>
          simp only [react, resumeCall, List.mem_cons, Reaction.call.injEq]
          constructor
          · rintro ((rfl | before) | ⟨other, later, rfl⟩)
            · exact .inr ⟨closing, .inl rfl, rfl⟩
            · exact .inl before
            · exact .inr ⟨other, .inr later, rfl⟩
          · rintro (before | ⟨other, rfl | later, rfl⟩)
            · exact .inl (.inr before)
            · exact .inl (.inl rfl)
            · exact .inr ⟨other, later, rfl⟩

/-- All calls are truthful when those that have settled are, and when the database is as those ask
for that are about to.
-/
theorem truthful_iff
    : tx.Truthful
      ↔ (∀ settled ∈ tx.closed, settled.Truthful)
        ∧ ∀ closing, Reaction.call closing ∈ tx.microtasks → tx.database = closing.aim := by
  have resolved (closing : ClosingCall)
      : (⟨closing, .ok (), tx.database⟩ : SettledClosing).Truthful
        ↔ tx.database = closing.aim :=
    forall_prop_of_true rfl
  unfold Truthful drain
  simp only [mem_closed_foldl, or_imp, forall_and, forall_exists_index, and_imp]
  refine and_congr_right (fun _ => ?_)
  constructor
  · exact fun told closing mem => (resolved closing).mp (told _ closing mem rfl)
  · rintro told _ closing mem rfl
    exact (resolved closing).mpr (told closing mem)

/-- A call adds itself to those that are about to settle. -/
theorem call_truthful (closing : ClosingCall)
    : (tx.call closing).Truthful ↔ tx.database = closing.aim ∧ tx.Truthful := by
  have added (settlement : Settled Thrown Unit)
      : ((tx.settleDone settlement).awaitDone closing).Truthful
        ↔ tx.database = closing.aim ∧ tx.Truthful := by
    obtain ⟨closed, database, microtasks⟩ := tx.settleDone_kept settlement
    rw [truthful_iff, truthful_iff, awaitDone]
    simp only [closed, database, List.mem_append, List.mem_singleton, microtasks,
      Reaction.call.injEq, or_imp, forall_and, forall_eq]
    exact ⟨fun ⟨settled, waiting, this⟩ => ⟨this, settled, waiting⟩,
      fun ⟨this, settled, waiting⟩ => ⟨settled, waiting, this⟩⟩
  cases closing <;> exact added _

/-- The database changes when no call is about to settle. -/
theorem databaseChanges_truthful (change : ManualTransaction → DatabaseState)
    : (tx.databaseChanges change).Truthful ↔ tx.Truthful := by
  unfold databaseChanges
  split
  · next idle => simp [truthful_iff, idle.1]
  · rfl

/-- Running the first microtask is the start of running them all. -/
theorem drain_microtask : (step .microtask tx).drain = tx.drain := by
  obtain ⟨done, callback, database, microtasks, closed⟩ := tx
  cases microtasks with
  | nil => rfl
  | cons reaction rest =>
      cases reaction with
      | call closing => rfl
      | callback =>
          cases done with
          | none => rfl
          | some settlement => cases settlement <;> rfl

/-- A step keeps the calls truthful, unless it is a call that comes before the transaction is closed
the way it asks for.
-/
theorem step_truthful (event : TransactionEvent)
    : (step event tx).Truthful ↔ ClosedBefore event tx ∧ tx.Truthful := by
  cases event with
  | closing closing => exact call_truthful closing
  | handle settlement =>
      obtain ⟨_, _, microtasks⟩ := tx.settleDone_kept settlement
      simp [step, ClosedBefore, truthful_iff, microtasks]
  | microtask =>
      have same : (step .microtask tx).drain = tx.drain := drain_microtask
      simp [Truthful, ClosedBefore, same]
  | answered accepted => simpa [step, ClosedBefore] using databaseChanges_truthful _
  | timedOut => simpa [step, ClosedBefore] using databaseChanges_truthful _

/-- Whatever happens to a transaction, once the microtasks that are queued have run every call has
told the truth, if and only if each came when the transaction was closed already the way it asks for.
-/
theorem calls_truthful_iff {answer : Settled Thrown Unit}
    (began : TransactionManager.beginTransaction answer = .ok tx) (events : List TransactionEvent)
    : (stateAfter step events tx).Truthful ↔ EveryStep step ClosedBefore events tx := by
  have told (tx : ManualTransaction)
      : (stateAfter step events tx).Truthful ↔ EveryStep step ClosedBefore events tx ∧ tx.Truthful := by
    induction events generalizing tx with
    | nil => exact (and_iff_right trivial).symm
    | cons event rest ih =>
        rw [stateAfter, EveryStep, ih, step_truthful]
        tauto
  have unclosed : tx.closed = [] ∧ tx.microtasks = [] := by
    cases answer with
    | error err => cases began
    | ok opened =>
        cases began
        exact ⟨rfl, rfl⟩
  rw [told, and_iff_left]
  simp [truthful_iff, unclosed.1, unclosed.2]

/-- A call that comes after the handle has been used and the database has answered. -/
theorem calls_truthful_after_commit
    : (stateAfter step [.handle (.ok ()), .microtask, .answered true, .closing .commit]
        {}).Truthful := by
  have began : TransactionManager.beginTransaction (.ok ()) = .ok {} := rfl
  refine (calls_truthful_iff began _).mpr ?_
  simp [EveryStep, ClosedBefore, step, settleDone, react, resumeCallback, databaseChanges,
    ClosingCall.aim]

/-- A commit resolves before the database has answered, and the answer is a refusal. -/
theorem refused_commit_resolves
    : ¬∀ events : List TransactionEvent, (stateAfter step events {}).Truthful := by
  intro truthful
  let refused : List TransactionEvent :=
    [.closing .commit, .microtask, .microtask, .answered false]
  have resolved : (stateAfter step refused {}).drain.closed = [⟨.commit, .ok (), .open⟩] := rfl
  have told := truthful refused ⟨.commit, .ok (), .open⟩ (resolved ▸ List.mem_cons_self) rfl
  exact nomatch told

end ManualTransaction

end QueueForge.Infrastructure
