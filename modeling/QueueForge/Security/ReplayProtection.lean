import Mathlib.Data.Fintype.Basic
import QueueForge.Async.Interleaving
import QueueForge.Infrastructure.RedisOperations
import QueueForge.Security.HmacVerifier

/-! Verifications that interleave at their awaits over one Redis store.
A signature is looked up under its own text and entered afterwards for five minutes, so a pair of
payload and timestamp is accepted once only where no verification of it looks between the look and
the entry of another, or under another text, or too late.
-/

namespace QueueForge.Security

open QueueForge.Async QueueForge.Js QueueForge.Infrastructure

structure Submission where
  payload : Json
  signature : String

/-- A call with its answer, who made it, and when. -/
structure ReplayEntry (κ : Type) where
  caller : κ
  time : Int
  answered : Answered HmacSignature Thrown

/-- The store with its time and the number of the next step. -/
structure ReplayWorld (κ : Type) where
  keys : Keyspace
  now : Int
  step : Nat := 0
  trace : List (ReplayEntry κ) := []

namespace ReplayWorld

variable {κ : Type} (clocks : κ → Int → Int) (elapsed : Nat → Nat)

/-- The answer to a call, and what is stored afterwards. Each caller has a clock of its own. -/
def answer (caller : κ) (world : ReplayWorld κ)
    : (call : HmacCall) → Settled Thrown call.Result × Keyspace
  | .now => (.ok (clocks caller world.now), world.keys)
  | .keyExists key =>
      (.ok (if RedisOperations.keyExists world.keys world.now key then 1 else 0), world.keys)
  | .setex key seconds value =>
      (.ok (),
        Function.update world.keys key (some ⟨value, some (world.now + 1000 * seconds)⟩))

/-- The handler of the calls of a caller, each of which takes its time. -/
def serve (caller : κ) : Handler HmacSignature Thrown (ReplayWorld κ) :=
  fun call world =>
    let answered := answer clocks caller world call
    (answered.1, {
      keys := answered.2
      now := world.now + elapsed world.step
      step := world.step + 1
      trace := ⟨caller, world.now, call, answered.1⟩ :: world.trace
    })

end ReplayWorld

/-- How far a verification has come with its signature. -/
inductive ReplayPhase where
  | unasked
  | asked
  | entered
  | refused
deriving DecidableEq

namespace ReplayPhase

/-- A call with its answer takes a verification on. -/
def enter (phase : ReplayPhase) : (call : HmacCall) → Settled Thrown call.Result → ReplayPhase
  | .keyExists _, .ok found =>
      if phase = .unasked then
        if found = 1 then .refused else .asked
      else
        phase
  | .setex _ _ _, .ok _ => if phase = .asked then .entered else phase
  | _, _ => phase

/-- It may still be accepted, or has been. -/
def active : ReplayPhase → Bool
  | asked => true
  | entered => true
  | _ => false

/-- How far a caller has come, as the trace tells it. -/
def of {κ : Type} [DecidableEq κ] (caller : κ) (trace : List (ReplayEntry κ)) : ReplayPhase :=
  trace.foldr
    (fun entry phase =>
      if entry.caller = caller then
        phase.enter entry.answered.op entry.answered.result
      else
        phase)
    .unasked

end ReplayPhase

/-- An entry in the store is under the key and not over. -/
def ReplayEntry.holdsFor {κ : Type} (entry : ReplayEntry κ) (key : String) (now : Int) : Bool :=
  match entry.answered.op with
  | .setex entered seconds _ => decide (entered = key ∧ now < entry.time + 1000 * seconds)
  | _ => true

section
variable {κ : Type} [DecidableEq κ] (verifier : HmacVerifier) (submissions : κ → Submission)

/-- The submission presents the pair in a timestamped signature. -/
def Presents (payload : Json) (timestamp : Int) (caller : κ) : Prop :=
  (submissions caller).payload = payload
  ∧ verifier.extractTimestamp (submissions caller).signature = some timestamp

/-- The submissions before they begin. -/
def verifications (keys : Keyspace) (now : Int)
    : Configuration HmacSignature Thrown κ Bool (ReplayWorld κ) where
  process caller := verifier.verify (submissions caller).payload (submissions caller).signature
  world := { keys, now }

def hasAccepted : HmacProgram Bool → Bool
  | .done value => value
  | _ => false

/-- Under any permitted interleaving at most one submission of the pair is accepted. -/
def AcceptsOnce (clocks : κ → Int → Int) (elapsed : Nat → Nat) (payload : Json) (timestamp : Int)
    (permits : ReplayWorld κ → κ → HmacCall → Prop) (keys : Keyspace) (now : Int)
    : Prop :=
  ∀ config,
    Configuration.Reachable (ReplayWorld.serve clocks elapsed) permits
      (verifications verifier submissions keys now) config
    → ∀ caller other,
        Presents verifier submissions payload timestamp caller
        → Presents verifier submissions payload timestamp other
        → hasAccepted (config.process caller) = true
        → hasAccepted (config.process other) = true
        → caller = other

/-- A presenting call looks a key up only while no other is between its look and its entry, and
what others have entered is under that key and not over.
-/
def LooksInTurn (presenting : κ → Prop) (world : ReplayWorld κ) (caller : κ) : HmacCall → Prop
  | .keyExists key =>
      presenting caller
      → ∀ other,
          presenting other
          → ReplayPhase.of other world.trace ≠ .asked
            ∧ ∀ entry ∈ world.trace,
                entry.caller = other → entry.holdsFor key world.now = true
  | _ => True

instance [Fintype κ] (presenting : κ → Prop) [DecidablePred presenting] (world : ReplayWorld κ)
    (caller : κ) (call : HmacCall)
    : Decidable (LooksInTurn presenting world caller call) :=
  match call with
  | .now => inferInstanceAs (Decidable True)
  | .keyExists _ => inferInstanceAs (Decidable (_ → ∀ _, _ → _ ∧ ∀ _ ∈ _, _ → _ = true))
  | .setex _ _ _ => inferInstanceAs (Decidable True)

end

/-! What a verification owes: it looks its signature up and enters it for five minutes. -/

/-- Keys are entered for five minutes. -/
def LastsFiveMinutes : HmacCall → Prop
  | .setex _ seconds _ => seconds = 300
  | _ => True

def verifying : Contract HmacSignature Thrown ReplayPhase where
  allows _ call := LastsFiveMinutes call
  answers phase call result after := after = phase.enter call result

section
variable {phase : ReplayPhase} {verifier : HmacVerifier} {payload : Json} {signature : String}

@[simp] theorem ReplayPhase.enter_error {call : HmacCall} {error : Thrown}
    : phase.enter call (.error error) = phase := by
  cases call <;> rfl

@[simp] theorem meets_awaitHmac {call : HmacCall}
    {post : Settled Thrown call.Result → ReplayPhase → Prop}
    : (awaitHmac call).Meets (α := no_index call.Result) verifying phase post
      ↔ LastsFiveMinutes call
        ∧ (∀ error, post (.error error) phase)
        ∧ ∀ value, post (.ok value) (phase.enter call (.ok value)) := by
  unfold awaitHmac
  rw [Program.meets_perform]
  refine and_congr_right (fun _ => ?_)
  simp only [verifying, forall_eq, Settled.forall, ReplayPhase.enter_error]

/-- A signature is accepted once it is entered. -/
theorem acceptUnseen_meets (signatureHash : String)
    : (HmacVerifier.acceptUnseen signatureHash).Meets verifying .unasked
        (fun outcome phase => outcome = .ok true → phase = .entered) := by
  unfold HmacVerifier.acceptUnseen
  simp only [Program.bind_eq, Program.meets_bind, meets_awaitHmac]
  refine ⟨trivial, fun _ => (by rintro ⟨⟩), ?_⟩
  intro found
  split
  · rintro ⟨⟩
  · next unseen =>
    have looked
        : ReplayPhase.enter .unasked (.keyExists (HmacVerifier.replayKey signatureHash)) (.ok found)
          = .asked := by
      simp [ReplayPhase.enter, unseen]
    rw [looked]
    simp only [Program.meets_bind, meets_awaitHmac]
    exact ⟨rfl, fun _ => (by rintro ⟨⟩), fun _ _ => rfl⟩

/-- So is a timestamped signature when there is a store. -/
theorem verifyLegacy_meets (stores : verifier.redis = true)
    : (verifier.verifyLegacy payload signature).Meets verifying .unasked
        (fun outcome phase => outcome = .ok true → phase = .entered) := by
  unfold HmacVerifier.verifyLegacy
  split
  · rintro ⟨⟩
  · simp only [Program.bind_eq, Program.meets_bind, meets_awaitHmac, stores, if_true]
    refine ⟨trivial, fun _ => (by rintro ⟨⟩), ?_⟩
    intro now
    split
    · rintro ⟨⟩
    · split
      · rintro ⟨⟩
      · split
        · exact acceptUnseen_meets _
        · rintro ⟨⟩

/-- The name of an algorithm in place of a payload leaves no signature to accept. -/
theorem verifyAlgorithm_empty {algorithm : HmacAlgorithm} (sized : verifier.signer.hmac.Sized)
    : verifier.verifyAlgorithm algorithm payload "" ≠ .ok true := by
  rw [ne_eq, verifier.verifyAlgorithm_iff, verifier.verifyPayloadWithAlgorithm_iff]
  rintro ⟨secret, _, digest⟩
  have length := sized algorithm secret (verifier.signer.serialized payload)
  rw [← digest] at length
  cases algorithm <;> exact nomatch length

/-- Whatever is submitted, a timestamped signature is accepted only once it is entered. -/
theorem verify_meets (sized : verifier.signer.hmac.Sized) (stores : verifier.redis = true)
    (payload : Json) (signature : String)
    : (verifier.verify payload signature).Meets verifying .unasked
        (fun outcome phase =>
          ∀ timestamp,
            verifier.extractTimestamp signature = some timestamp
            → outcome = .ok true
            → phase = .entered) := by
  unfold HmacVerifier.verify
  split
  · rw [Program.meets_ofResult]
    exact fun _ _ accepted => absurd accepted (verifyAlgorithm_empty sized)
  · split
    · next plain =>
      rw [Program.meets_ofResult]
      intro timestamp stamped
      exact absurd ((HmacVerifier.includes_of_extractTimestamp stamped).symm.trans plain.2)
        (by decide)
    · exact (verifyLegacy_meets stores).mono (fun _ _ entered _ _ => entered)

end

/-! The submissions together: one of the pair at most is active. -/

/-- A key is looked up and not there. -/
def FindsNoKey : (call : HmacCall) → Settled Thrown call.Result → Prop
  | .keyExists _, .ok found => found ≠ 1
  | _, _ => False

/-- A call enters a key. -/
def EntersKey : HmacCall → Prop
  | .setex _ _ _ => True
  | _ => False

namespace ReplayPhase

variable {phase : ReplayPhase} {call : HmacCall} {result : Settled Thrown call.Result}

/-- A verification becomes active by a look that finds no key. -/
theorem findsNoKey_of_active (idle : phase.active = false)
    (begun : (phase.enter call result).active = true)
    : FindsNoKey call result := by
  cases result with
  | error error =>
      rw [enter_error, idle] at begun
      cases begun
  | ok value =>
      have unlooked : phase ≠ .asked := by
        rintro rfl
        cases idle
      cases call with
      | now => simp [enter, idle] at begun
      | setex key seconds value => simp [enter, unlooked, idle] at begun
      | keyExists key =>
          simp only [enter] at begun
          split at begun
          · split at begun
            · cases begun
            · next absent => exact absent
          · exact absurd (idle.symm.trans begun) Bool.false_ne_true

/-- It is entered by the entry of its key. -/
theorem entersKey_of_entered (ended : phase.enter call result = .entered)
    : phase = .entered ∨ EntersKey call := by
  cases result with
  | error error => exact .inl (enter_error.symm.trans ended)
  | ok value =>
      cases call with
      | now => exact .inl ended
      | setex key seconds value => exact .inr trivial
      | keyExists key =>
          simp only [enter] at ended
          split at ended
          · split at ended <;> exact nomatch ended
          · exact .inl ended

end ReplayPhase

/-- What an entry has stored is there for its five minutes. -/
def ReplayEntry.KeptIn {κ : Type} (entry : ReplayEntry κ) (keys : Keyspace) : Prop :=
  match entry.answered.op with
  | .setex key seconds _ =>
      seconds = 300
      ∧ ∃ value expiry, keys key = some ⟨value, some expiry⟩ ∧ entry.time + 1000 * 300 ≤ expiry
  | _ => True

section
variable {κ : Type} {clocks : κ → Int → Int} {elapsed : Nat → Nat} {world : ReplayWorld κ}
  {entry : ReplayEntry κ}

/-- A later entry under the same key is there longer. -/
theorem ReplayEntry.KeptIn.serve (kept : entry.KeptIn world.keys) (earlier : entry.time ≤ world.now)
    (caller : κ) {call : HmacCall} (lasts : LastsFiveMinutes call)
    : entry.KeptIn (ReplayWorld.serve clocks elapsed caller call world).2.keys := by
  obtain ⟨_, time, op, result⟩ := entry
  cases op with
  | now => trivial
  | keyExists key => trivial
  | setex key seconds value =>
      obtain ⟨five, value, expiry, stored, long⟩ := kept
      refine ⟨five, ?_⟩
      cases call with
      | now => exact ⟨value, expiry, stored, long⟩
      | keyExists looked => exact ⟨value, expiry, stored, long⟩
      | setex entered seconds text =>
          obtain rfl : seconds = 300 := lasts
          by_cases same : key = entered
          · subst same
            refine ⟨text, _, Function.update_self .., ?_⟩
            exact Int.add_le_add_right earlier _
          · refine ⟨value, expiry, ?_, long⟩
            exact (Function.update_of_ne same _ _).trans stored

/-- The key of an entry that holds for it is found. -/
theorem ReplayEntry.KeptIn.found {key : String} (kept : entry.KeptIn world.keys)
    (enters : EntersKey entry.answered.op) (holds : entry.holdsFor key world.now = true)
    : RedisOperations.keyExists world.keys world.now key = true := by
  obtain ⟨_, time, op, result⟩ := entry
  cases op with
  | now => exact enters.elim
  | keyExists looked => exact enters.elim
  | setex entered seconds value =>
      obtain ⟨rfl, value, expiry, stored, long⟩ := kept
      obtain ⟨rfl, young⟩ := of_decide_eq_true holds
      have live : world.now < expiry := lt_of_lt_of_le young long
      simp [RedisOperations.keyExists, Keyspace.live?, stored, StoredText.liveAt, live]

end

/-- What holds of the submissions whatever the schedule: the trace tells their phases, one that
presents the pair at most is active, and what they entered is in the store.
-/
structure Protecting {κ : Type} [DecidableEq κ] (presenting : κ → Prop) (phases : κ → ReplayPhase)
    (world : ReplayWorld κ)
    : Prop where
  told : ∀ caller, phases caller = ReplayPhase.of caller world.trace
  alone
    : ∀ caller other,
        presenting caller
        → presenting other
        → (phases caller).active = true
        → (phases other).active = true
        → caller = other
  kept : ∀ entry ∈ world.trace, entry.time ≤ world.now ∧ entry.KeptIn world.keys
  written
    : ∀ caller,
        phases caller = .entered
        → ∃ entry ∈ world.trace, entry.caller = caller ∧ EntersKey entry.answered.op

/-- A permitted call that makes one that presents the pair active finds no other active: that one
would have entered its key, which is looked up and still found.
-/
theorem Protecting.only_active {κ : Type} [DecidableEq κ] {clocks : κ → Int → Int}
    {elapsed : Nat → Nat} {presenting : κ → Prop} {phases : κ → ReplayPhase} {world : ReplayWorld κ}
    {caller : κ} {call : HmacCall} (state : Protecting presenting phases world)
    (permitted : LooksInTurn presenting world caller call) (presents : presenting caller)
    (begun
      : ((phases caller).enter call (ReplayWorld.serve clocks elapsed caller call world).1).active
        = true)
    : ∀ other, presenting other → (phases other).active = true → caller = other := by
  intro other too moving
  cases idle : (phases caller).active with
  | true => exact state.alone caller other presents too idle moving
  | false =>
      exfalso
      have absent := ReplayPhase.findsNoKey_of_active idle begun
      cases call with
      | now => exact absent
      | setex key seconds value => exact absent
      | keyExists key =>
          obtain ⟨past, held⟩ := permitted presents other too
          rw [← state.told other] at past
          have ended : phases other = .entered := by
            cases phase : phases other with
            | asked => exact absurd phase past
            | entered => rfl
            | unasked => rw [phase] at moving; exact nomatch moving
            | refused => rw [phase] at moving; exact nomatch moving
          obtain ⟨entry, mem, own, enters⟩ := state.written other ended
          have found := (state.kept entry mem).2.found enters (held entry mem own)
          exact absent (if_pos found)

/-- A permitted call of one of them keeps that. -/
theorem Protecting.step {κ : Type} [DecidableEq κ] {clocks : κ → Int → Int} {elapsed : Nat → Nat}
    {presenting : κ → Prop} {phases : κ → ReplayPhase} {world : ReplayWorld κ} {caller : κ}
    {call : HmacCall} (state : Protecting presenting phases world)
    (lasts : LastsFiveMinutes call) (permitted : LooksInTurn presenting world caller call)
    : Protecting presenting
        (Function.update phases caller
          ((phases caller).enter call (ReplayWorld.serve clocks elapsed caller call world).1))
        (ReplayWorld.serve clocks elapsed caller call world).2 := by
  generalize after : (ReplayWorld.serve clocks elapsed caller call world).1 = result
  have trace
      : (ReplayWorld.serve clocks elapsed caller call world).2.trace
        = ⟨caller, world.now, call, result⟩ :: world.trace := by
    rw [← after]
    rfl
  have later : world.now ≤ (ReplayWorld.serve clocks elapsed caller call world).2.now :=
    Int.le_add_of_nonneg_right (Int.natCast_nonneg _)
  refine ⟨?_, ?_, ?_, ?_⟩
  · rw [trace]
    exact update_eq_foldr state.told ⟨caller, world.now, call, result⟩
  · have only
        : presenting caller
          → ((phases caller).enter call result).active = true
          → ∀ other, presenting other → (phases other).active = true → caller = other := by
      rw [← after]
      exact state.only_active permitted
    intro one other presents too begun moving
    exact
      atMostOne_update (fun i phase => presenting i ∧ ReplayPhase.active phase = true)
        (fun one other first second => state.alone one other first.1 second.1 first.2 second.2)
        (fun begun other moving => only begun.1 begun.2 other moving.1 moving.2) one other
        ⟨presents, begun⟩ ⟨too, moving⟩
  · intro entry mem
    rw [trace] at mem
    rcases List.mem_cons.mp mem with rfl | before
    · refine ⟨later, ?_⟩
      cases call with
      | now => trivial
      | keyExists key => trivial
      | setex key seconds value =>
          obtain rfl : seconds = 300 := lasts
          exact ⟨rfl, value, _, Function.update_self .., le_rfl⟩
    · obtain ⟨earlier, kept⟩ := state.kept entry before
      exact ⟨earlier.trans later, kept.serve earlier caller lasts⟩
  · intro other ended
    rw [trace]
    have before
        : phases other = .entered
          → ∃ entry ∈ ⟨caller, world.now, call, result⟩ :: world.trace,
              entry.caller = other ∧ EntersKey entry.answered.op := by
      intro entered
      obtain ⟨entry, mem, own, enters⟩ := state.written other entered
      exact ⟨entry, List.mem_cons_of_mem _ mem, own, enters⟩
    by_cases same : other = caller
    · subst same
      rw [Function.update_self] at ended
      rcases ReplayPhase.entersKey_of_entered ended with already | enters
      · exact before already
      · exact ⟨_, List.mem_cons_self, rfl, enters⟩
    · rw [Function.update_of_ne same] at ended
      exact before ended

/-- At most one submission of a pair is accepted, in every interleaving in which a presenting call
looks its key up only in turn: while no other is between its look and its entry, under the key the
others have entered, and within five minutes of that.
-/
theorem accepts_once {κ : Type} [DecidableEq κ] {verifier : HmacVerifier}
    (sized : verifier.signer.hmac.Sized) (stores : verifier.redis = true)
    (submissions : κ → Submission) (clocks : κ → Int → Int) (elapsed : Nat → Nat) (payload : Json)
    (timestamp : Int) (keys : Keyspace) (now : Int)
    : AcceptsOnce verifier submissions clocks elapsed payload timestamp
        (LooksInTurn (Presents verifier submissions payload timestamp)) keys now := by
  intro config reached caller other presents too first second
  have start
      : Protecting (Presents verifier submissions payload timestamp) (fun _ => .unasked)
          (verifications verifier submissions keys now).world :=
    ⟨(fun _ => rfl), (fun _ _ _ _ begun => nomatch begun), (fun _ mem => nomatch mem),
      (fun _ ended => nomatch ended)⟩
  obtain ⟨phases, owed, state⟩ :=
    reached.invariant
      (fun phases world caller call state lasts permitted =>
        ⟨_, rfl, state.step lasts permitted⟩)
      (fun _ => verify_meets sized stores _ _) start
  have entered
      : ∀ accepted,
          Presents verifier submissions payload timestamp accepted
          → hasAccepted (config.process accepted) = true
          → (phases accepted).active = true := by
    intro accepted presented done
    have met := owed accepted
    cases process : config.process accepted with
    | fail error => rw [process] at done; exact nomatch done
    | call op rest => rw [process] at done; exact nomatch done
    | done value =>
        rw [process] at done met
        obtain rfl : value = true := done
        rw [met timestamp presented.2 rfl]
        rfl
  exact state.alone caller other presents too (entered caller presents first)
    (entered other too second)

/-! Two submissions of one signed task. -/

/-- The digest of a task at a time, under a secret. -/
def taskDigests : List ((HmacAlgorithm × String × String) × String) := [
  ((.SHA256, "queueforge-default-hmac-secret-min-32-chars!",
      "2023-11-14T22:13:20.000Z.\x7b\"taskId\":\"task-1\"\x7d"),
    "9476d7c964c7ea30f20835183d62a8878c9495ba78aa25f9acf8c2358416aa54")
]

def taskVerifier : HmacVerifier where
  signer := ⟨digestTable taskDigests, fun _ => "", "queueforge-default-hmac-secret-min-32-chars!"⟩
  redis := true
  parseDate text := (isoFields text).bind IsoFields.date

def task : Json := .object [("taskId", .string "task-1")]

def taskSubmission (signatureHash : String) : Submission where
  payload := task
  signature := "t=" ++ "2023-11-14T22:13:20.000Z" ++ ("," ++ ("s=" ++ signatureHash))

def taskHash : String := "9476d7c964c7ea30f20835183d62a8878c9495ba78aa25f9acf8c2358416aa54"

/-- The same bytes in capital letters. -/
def recodedHash : String := "9476D7C964C7EA30F20835183D62A8878C9495BA78AA25F9ACF8C2358416AA54"

theorem taskVerifier_sized : taskVerifier.signer.hmac.Sized :=
  digestTable_sized (by decide)

/-- The check of the task, once its digest has been compared. -/
def taskCheck (signatureHash : String) : HmacProgram Bool :=
  (awaitHmac .now).bind
    (fun now =>
      if HmacVerifier.isReplayAttack now 1700000000000 then
        throw (authenticationError "Signature timestamp has expired")
      else
        HmacVerifier.acceptUnseen signatureHash)

theorem taskTime : taskVerifier.parseDate "2023-11-14T22:13:20.000Z" = some 1700000000000 := by
  decide

section
variable {signatureHash : String} (listed : signatureHash ∈ [taskHash, recodedHash])
include listed

theorem taskHash_plain : HmacVerifier.isPlain signatureHash = true := by
  revert listed signatureHash
  decide

/-- Either text is read as the bytes of the digest. -/
theorem verify_task
    : taskVerifier.verify task (taskSubmission signatureHash).signature
      = taskCheck signatureHash := by
  have matching : taskVerifier.signer.verify task signatureHash 1700000000000 = true := by
    revert listed signatureHash
    decide
  have stored : taskVerifier.redis = true := rfl
  rw [taskSubmission, HmacVerifier.verify_formatted (by decide) (taskHash_plain listed)
    taskTime rfl]
  simp only [matching, stored, if_true]
  rfl

end

/-- The task as it was signed, and then as it is signed or recoded. -/
def submissionsOf (second : String) (caller : Fin 2) : Submission :=
  taskSubmission (if caller = 0 then taskHash else second)

section
variable {second : String} (listed : second ∈ [taskHash, recodedHash])
include listed

theorem submitted_listed (caller : Fin 2)
    : (if caller = 0 then taskHash else second) ∈ [taskHash, recodedHash] := by
  split
  · exact List.mem_cons_self
  · exact listed

/-- Both present the task. -/
theorem presents_task (caller : Fin 2)
    : Presents taskVerifier (submissionsOf second) task 1700000000000 caller := by
  have plain := taskHash_plain (submitted_listed listed caller)
  have stamp : HmacVerifier.isPlain "2023-11-14T22:13:20.000Z" = true := by decide
  exact ⟨rfl, (HmacVerifier.extractTimestamp_formatted stamp plain).trans taskTime⟩

end

/-- The two checks over an empty store, at a time before the timestamp. -/
def checks (second : String) (early : Nat)
    : Configuration HmacSignature Thrown (Fin 2) Bool (ReplayWorld (Fin 2)) where
  process caller := taskCheck (if caller = 0 then taskHash else second)
  world := { keys := fun _ => none, now := 1700000000000 - early }

theorem verifications_task {second : String} (listed : second ∈ [taskHash, recodedHash])
    (early : Nat)
    : verifications taskVerifier (submissionsOf second) (fun _ => none) (1700000000000 - early)
      = checks second early := by
  unfold verifications checks
  congr
  funext caller
  exact verify_task (submitted_listed listed caller)

/-- What a schedule of the two checks leads to. -/
def checkedAfter (second : String) (elapsed : Nat → Nat) (early : Nat) (schedule : List (Fin 2))
    : Configuration HmacSignature Thrown (Fin 2) Bool (ReplayWorld (Fin 2)) :=
  (checks second early).follow (ReplayWorld.serve (fun _ time => time) elapsed) schedule

/-- One after the other, the first is accepted and the second is not. -/
theorem accepts_once_in_turn
    : let config := checkedAfter taskHash (fun _ => 0) 0 [0, 0, 0, 1, 1]
      hasAccepted (config.process 0) = true ∧ hasAccepted (config.process 1) = false := by
  intro config
  have first : hasAccepted (config.process 0) = true := by decide +kernel
  have listed : taskHash ∈ [taskHash, recodedHash] := List.mem_cons_self
  have presented := presents_task listed
  have all : Presents taskVerifier (submissionsOf taskHash) task 1700000000000 = fun _ => True :=
    funext (fun caller => eq_true (presented caller))
  have reached
      : Configuration.Reachable (ReplayWorld.serve (fun _ time => time) (fun _ => 0))
          (LooksInTurn (Presents taskVerifier (submissionsOf taskHash) task 1700000000000))
          (verifications taskVerifier (submissionsOf taskHash) (fun _ => none)
            (1700000000000 - (0 : Nat)))
          config := by
    rw [all, verifications_task listed]
    exact Configuration.reachable_follow _ _ (by decide +kernel)
  refine ⟨first, Bool.eq_false_iff.mpr (fun second => ?_)⟩
  have same :=
    accepts_once taskVerifier_sized rfl (submissionsOf taskHash) (fun _ time => time) (fun _ => 0)
      task 1700000000000 (fun _ => none) _ config reached 0 1 (presented 0) (presented 1) first
      second
  exact absurd same (by decide)

/-- The law fails where a schedule has both accepted. -/
theorem not_acceptsOnce {second : String} (listed : second ∈ [taskHash, recodedHash])
    {elapsed : Nat → Nat} {early : Nat} (schedule : List (Fin 2))
    (admitted
      : (checks second early).permitted (ReplayWorld.serve (fun _ time => time) elapsed)
          (fun _ _ _ => True) schedule
        = true)
    (accepted
      : ∀ caller, hasAccepted ((checkedAfter second elapsed early schedule).process caller) = true)
    : ¬AcceptsOnce taskVerifier (submissionsOf second) (fun _ time => time) elapsed task
        1700000000000 (fun _ _ _ => True) (fun _ => none) (1700000000000 - early) := by
  intro once
  rw [AcceptsOnce, verifications_task listed] at once
  have reached := Configuration.reachable_follow schedule _ admitted
  have same :=
    once _ reached 0 1 (presents_task listed 0) (presents_task listed 1) (accepted 0) (accepted 1)
  exact absurd same (by decide)

/-- A recoded hash is accepted again; so is the same hash while the first is between its look and
its entry, and five minutes after a submission that came five minutes before its timestamp.
-/
theorem replays_accepted
    : (¬AcceptsOnce taskVerifier (submissionsOf recodedHash) (fun _ time => time) (fun _ => 0) task
        1700000000000 (fun _ _ _ => True) (fun _ => none) (1700000000000 - (0 : Nat)))
      ∧ (¬AcceptsOnce taskVerifier (submissionsOf taskHash) (fun _ time => time) (fun _ => 0) task
        1700000000000 (fun _ _ _ => True) (fun _ => none) (1700000000000 - (0 : Nat)))
      ∧ ¬AcceptsOnce taskVerifier (submissionsOf taskHash) (fun _ time => time)
        (fun step => if step = 2 then 300000 else 0) task 1700000000000 (fun _ _ _ => True)
        (fun _ => none) (1700000000000 - (300000 : Nat)) := by
  refine ⟨?_, ?_, ?_⟩
  · exact not_acceptsOnce (by decide) [0, 0, 0, 1, 1, 1] (by decide +kernel) (by decide +kernel)
  · exact not_acceptsOnce (by decide) [0, 1, 0, 1, 0, 1] (by decide +kernel) (by decide +kernel)
  · exact not_acceptsOnce (by decide) [0, 0, 0, 1, 1, 1] (by decide +kernel) (by decide +kernel)

end QueueForge.Security
