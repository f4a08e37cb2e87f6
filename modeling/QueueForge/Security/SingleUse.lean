import QueueForge.Async.Interleaving
import QueueForge.Security.SharedRevocation

/-! Calls that present the same refresh token and interleave at their awaits.
The set of revoked hashes is looked at first and written last, with the store, the clock and the
library in between. So the token is used once only where no call looks while another is between
its look and its own entry.
-/

namespace QueueForge.Security

open QueueForge.Async QueueForge.Js

/-- How far a refresh has come: it has not looked yet, has found the token unrevoked, has verified
it, has revoked it, or has been refused.
-/
inductive RotationPhase where
  | unchecked
  | checked
  | verified
  | recorded
  | refused
deriving DecidableEq

namespace RotationPhase

/-- A call with its answer takes a refresh on. -/
def enter (manager : TokenManager) (token : String) (phase : RotationPhase)
    : (call : TokenCall) → Settled SecurityError call.Result → RotationPhase
  | .blacklistHas tokenHash, .ok known =>
      if phase = .unchecked ∧ tokenHash = manager.hashToken token then
        if known then .refused else .checked
      else
        phase
  | .store (.keyExists _), .ok found => if phase = .checked ∧ found then .refused else phase
  | .store (.get _), .ok val =>
      if phase = .checked ∧ (val = some "revoked" ∨ val = some "1") then .refused else phase
  | .now, .ok now =>
      if phase = .checked then
        match manager.jwtStrategy.verifyToken now token with
        | .ok _ => .verified
        | .error _ => .refused
      else
        phase
  | .blacklistAdd tokenHash, .ok _ =>
      if phase = .verified ∧ tokenHash = manager.hashToken token then .recorded else phase
  | _, _ => phase

/-- Between its look and its entry. -/
def between : RotationPhase → Bool
  | checked => true
  | verified => true
  | _ => false

/-- It may still issue tokens, or has done so. -/
def active : RotationPhase → Bool
  | recorded => true
  | phase => phase.between

theorem active_iff {phase : RotationPhase}
    : phase.active = true ↔ phase = .recorded ∨ phase.between = true := by
  cases phase <;> simp [active, between]

/-- How far a caller has come, as the trace tells it. -/
def of {κ : Type} [DecidableEq κ] (manager : TokenManager) (token : String) (caller : κ)
    (trace : List (TokenEntry κ))
    : RotationPhase :=
  trace.foldr
    (fun entry phase =>
      if entry.caller = caller then
        phase.enter manager token entry.answered.op entry.answered.result
      else
        phase)
    .unchecked

end RotationPhase

section
variable {κ σ : Type} [DecidableEq κ] (manager : TokenManager) (token : String)

/-- Calls of one process that present the same token. -/
def refreshes (world : TokenWorld Unit κ σ)
    : Configuration TokenSignature SecurityError κ IssuedTokens (TokenWorld Unit κ σ) where
  process _ := manager.refreshToken token
  world := world

/-- The token is looked up only while no call is between its own look and its entry. -/
def RotatesInTurn (world : TokenWorld Unit κ σ) (_ : κ) (call : TokenCall) : Prop :=
  call = .blacklistHas (manager.hashToken token)
  → ∀ caller, (RotationPhase.of manager token caller world.trace).between = false

instance [Fintype κ] (world : TokenWorld Unit κ σ) (caller : κ) (call : TokenCall)
    : Decidable (RotatesInTurn manager token world caller call) :=
  inferInstanceAs (Decidable (_ → ∀ _, _ = false))

/-- The refresh of a caller has given a pair other than the presented token. -/
def IssuesPair
    (config : Configuration TokenSignature SecurityError κ IssuedTokens (TokenWorld Unit κ σ))
    (caller : κ)
    : Prop :=
  ∃ tokens, config.process caller = .done tokens ∧ tokens.accessToken ≠ token

/-- Under any permitted interleaving at most one call issues a new pair. -/
def RotatesOnce (surroundings : Surroundings σ)
    (permits : TokenWorld Unit κ σ → κ → TokenCall → Prop) (world : TokenWorld Unit κ σ)
    : Prop :=
  ∀ config,
    Configuration.Reachable (TokenWorld.serve surroundings (fun _ => ())) permits
      (refreshes manager token world) config
    → ∀ caller other,
        IssuesPair token config caller → IssuesPair token config other → caller = other

end

/-! What a refresh owes: it enters the token before it issues anything. -/

/-- The set never fails. -/
def Admitted : (call : TokenCall) → Settled SecurityError call.Result → Prop
  | .blacklistHas _, result => ∃ known, result = .ok known
  | .blacklistAdd _, result => result = .ok ()
  | _, _ => True

abbrev rotating (manager : TokenManager) (token : String)
    : Contract TokenSignature SecurityError RotationPhase :=
  .observing (S := TokenSignature) Admitted (RotationPhase.enter manager token)

section
variable {manager : TokenManager} {token : String} {phase : RotationPhase}

attribute [local simp] Admitted RotationPhase.enter

@[simp] theorem RotationPhase.enter_error {call : TokenCall} {error : SecurityError}
    : phase.enter manager token call (.error error) = phase := by
  cases call with
  | store command => cases command <;> rfl
  | _ => rfl

@[simp] theorem meets_awaitToken {call : TokenCall}
    {post : Settled SecurityError call.Result → RotationPhase → Prop}
    : (awaitToken call).Meets (α := no_index call.Result) (rotating manager token) phase post
      ↔ (∀ error, Admitted call (.error error) → post (.error error) phase)
        ∧ ∀ value,
            Admitted call (.ok value)
            → post (.ok value) (phase.enter manager token call (.ok value)) := by
  unfold awaitToken rotating
  rw [Program.meets_perform_observing]
  simp only [RotationPhase.enter_error]

/-- What the store says after a look that has found nothing. -/
theorem storedRevocation_meets
    : (manager.storedRevocation token).Meets (rotating manager token) .checked
        (fun outcome phase => phase = .checked ∨ outcome = .ok true) := by
  unfold TokenManager.storedRevocation
  cases manager.redisOps with
  | none => exact .inl rfl
  | some methods =>
      simp
      intro _ _ val
      exact (em (val = some "revoked" ∨ val = some "1")).symm.imp_left not_or.mp

/-- A refresh goes on only after a look that has found nothing. -/
theorem isTokenRevoked_meets
    : (manager.isTokenRevoked token).Meets (rotating manager token) .unchecked
        (fun outcome phase => phase = .checked ∨ outcome = .ok true) := by
  unfold TokenManager.isTokenRevoked
  simp only [Program.bind_eq, Program.meets_catchError, Program.meets_bind, meets_awaitToken]
  refine ⟨fun error admitted => absurd admitted (by simp), ?_⟩
  intro known _
  cases known with
  | true => simp
  | false =>
      have looked
          : RotationPhase.enter manager token .unchecked
              (.blacklistHas (manager.hashToken token)) (.ok false)
            = .checked := by
        simp
      rw [looked, if_neg Bool.false_ne_true]
      refine storedRevocation_meets.mono ?_
      intro outcome phase found
      cases outcome with
      | ok revoked => exact found
      | error error => exact .inl (found.resolve_right (by rintro ⟨⟩))

/-- A payload comes back only for a token that has been verified. -/
theorem verifyRefreshToken_meets
    : (manager.verifyRefreshToken token).Meets (rotating manager token) .unchecked
        (fun outcome phase => ∀ payload, outcome = .ok payload → phase = .verified) := by
  unfold TokenManager.verifyRefreshToken
  simp only [Program.bind_eq, Program.meets_bind]
  refine isTokenRevoked_meets.mono ?_
  intro outcome phase found
  rcases outcome with error | revoked
  · rintro _ ⟨⟩
  cases revoked with
  | true =>
      intro payload refused
      cases refused
  | false =>
      obtain rfl := found.resolve_right (by decide)
      simp only [Bool.false_eq_true, if_false, TokenManager.verifyJwt, Program.bind_eq,
        Program.meets_bind, meets_awaitToken, Program.meets_ofResult]
      refine ⟨fun _ _ => (by rintro _ ⟨⟩), ?_⟩
      intro now _
      simp only [RotationPhase.enter]
      cases manager.jwtStrategy.verifyToken now token with
      | error error => rintro _ ⟨⟩
      | ok payload =>
          simp only
          split
          · rintro _ ⟨⟩
          · exact fun _ _ => rfl

/-- Once the token is entered, nothing changes that. -/
theorem recorded_meets {α : Type} (program : TokenProgram α)
    : program.Meets (rotating manager token) .recorded (fun _ phase => phase = .recorded) := by
  induction program with
  | done value => rfl
  | fail error => rfl
  | call call rest ih =>
      refine ⟨trivial, ?_⟩
      rintro result _ ⟨_, rfl⟩
      have stays : RotationPhase.enter manager token .recorded call result = .recorded := by
        cases result with
        | error error => exact RotationPhase.enter_error
        | ok value =>
            cases call with
            | store command => cases command <;> rfl
            | _ => rfl
      rw [stays]
      exact ih result

/-- A revocation that resolves has entered the token. -/
theorem revokeToken_meets
    : (manager.revokeToken token).Meets (rotating manager token) .verified
        (fun outcome phase => outcome = .ok () → phase = .recorded) := by
  unfold TokenManager.revokeToken TokenManager.decodeJwt
  simp only [Program.bind_eq, Program.meets_catchError, Program.meets_bind, Program.meets_ofResult,
    meets_awaitToken]
  rcases manager.jwtStrategy.decodeToken token with error | decoded
  · rintro ⟨⟩
  · refine ⟨fun _ _ => (by rintro ⟨⟩), ?_⟩
    intro now _
    refine ⟨fun _ _ => (by rintro ⟨⟩), ?_⟩
    intro _ _
    have entered
        : RotationPhase.enter manager token
            (RotationPhase.enter manager token .verified .now (.ok now))
            (.blacklistAdd (manager.hashToken token)) (.ok ())
          = .recorded := by
      simp
    refine entered.symm ▸ (recorded_meets _).mono (fun outcome after recorded => ?_)
    cases outcome with
    | ok done => exact fun _ => recorded
    | error error => rintro ⟨⟩

/-- A refresh that gives something else than the token has entered the token. -/
theorem refreshToken_meets
    : (manager.refreshToken token).Meets (rotating manager token) .unchecked
        (fun outcome phase =>
          ∀ tokens, outcome = .ok tokens → tokens.accessToken ≠ token → phase = .recorded) := by
  unfold TokenManager.refreshToken
  simp only [Program.bind_eq, Program.meets_bind]
  refine verifyRefreshToken_meets.mono ?_
  intro outcome phase accepted
  rcases outcome with error | payload
  · rintro _ ⟨⟩
  obtain rfl := accepted payload rfl
  refine meets_awaitToken.mpr ⟨fun _ _ => (by rintro _ ⟨⟩), ?_⟩
  intro now _
  refine Program.meets_ite.mpr ⟨?_, ?_⟩
  · rintro _ tokens ⟨⟩ other
    exact absurd rfl other
  · intro _
    unfold TokenManager.rotate
    refine Program.meets_bind.mpr (revokeToken_meets.mono ?_)
    intro outcome phase revoked
    rcases outcome with error | done
    · rintro _ ⟨⟩
    obtain rfl := revoked rfl
    exact (recorded_meets _).mono (fun _ _ recorded _ _ _ => recorded)

end

/-! The calls together: one of them at most is active. -/

/-- The set is looked up for the token and does not have it. -/
def FindsNothing (manager : TokenManager) (token : String)
    : (call : TokenCall) → Settled SecurityError call.Result → Prop
  | .blacklistHas tokenHash, .ok known => tokenHash = manager.hashToken token ∧ known = false
  | _, _ => False

namespace RotationPhase

variable {manager : TokenManager} {token : String} {phase : RotationPhase} {call : TokenCall}
  {result : Settled SecurityError call.Result}

attribute [local simp] enter in
/-- A refresh becomes active by a look that finds nothing. -/
theorem findsNothing_of_active (idle : phase.active = false)
    (begun : (phase.enter manager token call result).active = true)
    : FindsNothing manager token call result := by
  cases result with
  | error error =>
      rw [enter_error, idle] at begun
      cases begun
  | ok value =>
      have apart : phase ≠ .checked := by
        rintro rfl
        cases idle
      have unverified : phase ≠ .verified := by
        rintro rfl
        cases idle
      cases call with
      | now => simp [apart, idle] at begun
      | blacklistAdd tokenHash => simp [unverified, idle] at begun
      | store command => cases command <;> simp [apart, idle] at begun
      | blacklistHas tokenHash =>
          simp only [enter] at begun
          split at begun
          case isTrue own =>
            cases value with
            | true => cases begun
            | false => exact ⟨own.2, rfl⟩
          case isFalse => exact absurd (idle.symm.trans begun) Bool.false_ne_true

/-- A refresh is recorded by its entry. -/
theorem entry_of_recorded (ended : phase.enter manager token call result = .recorded)
    : phase = .recorded ∨ call = .blacklistAdd (manager.hashToken token) := by
  by_cases before : phase = .recorded
  · exact .inl before
  cases result with
  | error error =>
      rw [enter_error] at ended
      exact absurd ended before
  | ok value =>
      cases call with
      | now =>
          simp only [enter] at ended
          split at ended
          · split at ended <;> exact nomatch ended
          · exact absurd ended before
      | blacklistAdd tokenHash =>
          simp only [enter] at ended
          split at ended
          case isTrue own => exact .inr (congrArg TokenCall.blacklistAdd own.2)
          case isFalse => exact absurd ended before
      | store command =>
          cases command with
          | setex key seconds value => exact absurd ended before
          | set key value ttl => exact absurd ended before
          | keyExists key =>
              simp only [enter] at ended
              split at ended
              · exact nomatch ended
              · exact absurd ended before
          | get key =>
              simp only [enter] at ended
              split at ended
              · exact nomatch ended
              · exact absurd ended before
      | blacklistHas tokenHash =>
          simp only [enter] at ended
          split at ended
          · split at ended <;> exact nomatch ended
          · exact absurd ended before

end RotationPhase

open TokenWorld in
/-- What holds of the calls whatever the schedule: the trace tells their phases, one of them at
most is active, and an entry is in the set.
-/
structure Rotating {κ σ : Type} [DecidableEq κ] (manager : TokenManager) (token : String)
    (phases : κ → RotationPhase) (world : TokenWorld Unit κ σ)
    : Prop where
  told : ∀ caller, phases caller = RotationPhase.of manager token caller world.trace
  alone
    : ∀ caller other,
        (phases caller).active = true → (phases other).active = true → caller = other
  known : ∀ caller, phases caller = .recorded → Knows () (manager.hashToken token) world

open TokenWorld in
/-- A permitted call of one of them keeps that. -/
theorem Rotating.step {κ σ : Type} [DecidableEq κ] {manager : TokenManager} {token : String}
    {surroundings : Surroundings σ} {phases : κ → RotationPhase} {world : TokenWorld Unit κ σ}
    {caller : κ} {call : TokenCall} (state : Rotating manager token phases world)
    (permitted : RotatesInTurn manager token world caller call)
    : ∃ next,
        (rotating manager token).answers (phases caller) call
          (serve surroundings (fun _ => ()) caller call world).1 next
        ∧ Rotating manager token (Function.update phases caller next)
            (serve surroundings (fun _ => ()) caller call world).2 := by
  generalize after : (serve surroundings (fun _ => ()) caller call world).1 = result
  have admitted : Admitted call result := by
    rw [← after]
    cases call with
    | now => trivial
    | blacklistHas tokenHash => exact ⟨_, rfl⟩
    | blacklistAdd tokenHash => rfl
    | store command => trivial
  refine ⟨_, ⟨admitted, rfl⟩, ?_, ?_, ?_⟩
  · have entered
        : (serve surroundings (fun _ => ()) caller call world).2.trace
          = ⟨caller, call, result⟩ :: world.trace := by
      rw [← after]
      rfl
    rw [entered]
    exact update_eq_foldr state.told ⟨caller, call, result⟩
  · -- a call that becomes active has found nothing, so that no other has entered the token
    have only
        : ((phases caller).enter manager token call result).active = true
          → ∀ other, (phases other).active = true → caller = other := by
      intro begun other moving
      cases idle : (phases caller).active with
      | true => exact state.alone caller other idle moving
      | false =>
          exfalso
          have nothing := RotationPhase.findsNothing_of_active idle begun
          cases call with
          | now => exact nothing
          | blacklistAdd tokenHash => exact nothing
          | store command => exact nothing
          | blacklistHas tokenHash =>
              subst after
              obtain ⟨rfl, unknown⟩ := nothing
              have between := permitted rfl other
              rw [← state.told other] at between
              rcases RotationPhase.active_iff.mp moving with ended | open_
              · exact absurd (state.known other ended) (of_decide_eq_false unknown)
              · exact Bool.false_ne_true (between.symm.trans open_)
    exact atMostOne_update (fun _ phase => RotationPhase.active phase = true) state.alone only
  · intro other ended
    by_cases same : other = caller
    · subst same
      rw [Function.update_self] at ended
      rcases RotationPhase.entry_of_recorded ended with before | rfl
      · exact serve_keeps _ _ _ (state.known other before)
      · exact knows_added
    · rw [Function.update_of_ne same] at ended
      exact serve_keeps _ _ _ (state.known other ended)

/-- At most one call issues a new pair, in every interleaving in which the token is looked up only
while no call is between its own look and its entry.
-/
theorem rotates_once {κ σ : Type} [DecidableEq κ] (manager : TokenManager)
    (surroundings : Surroundings σ) (token : String) (world : TokenWorld Unit κ σ)
    (fresh : world.trace = [])
    : RotatesOnce manager token surroundings (RotatesInTurn manager token) world := by
  intro config reached caller other first second
  have start
      : Rotating manager token (fun _ => .unchecked)
          (refreshes manager token world).world := by
    refine ⟨?_, (fun _ _ begun => nomatch begun), (fun _ ended => nomatch ended)⟩
    intro caller
    rw [refreshes, fresh]
    rfl
  obtain ⟨phases, owed, state⟩ :=
    reached.invariant (fun phases world caller call state _ permitted => state.step permitted)
      (fun _ => refreshToken_meets) start
  have issuing : ∀ issuer, IssuesPair token config issuer → (phases issuer).active = true := by
    rintro issuer ⟨tokens, done, other⟩
    have met := owed issuer
    rw [done] at met
    rw [met tokens rfl other]
    rfl
  exact state.alone caller other (issuing caller first) (issuing other second)

/-! Two calls with the token of a login, 200 seconds before it expires. -/

/-- What a refresh has given. -/
def given? : TokenProgram IssuedTokens → Option IssuedTokens
  | .done tokens => some tokens
  | _ => none

theorem eq_done_of_given? {program : TokenProgram IssuedTokens} {tokens : IssuedTokens}
    (given : given? program = some tokens)
    : program = .done tokens := by
  cases program with
  | done value => exact congrArg Program.done (Option.some.inj given)
  | fail error => exact nomatch given
  | call call rest => exact nomatch given

/-- The process that has issued the token, over an empty store. -/
def afterLogin : TokenWorld Unit (Fin 2) SharedStore where
  blacklist _ := []
  outside := ⟨fun _ => none, 1700604600000, 0⟩
  trace := []

/-- What a schedule of the two calls leads to. -/
noncomputable def rotationsAfter (schedule : List (Fin 2))
    : Configuration TokenSignature SecurityError (Fin 2) IssuedTokens
        (TokenWorld Unit (Fin 2) SharedStore) :=
  (refreshes (loginManager (some redisOperations)) aliceRefreshToken afterLogin).follow
    (TokenWorld.serve (sharedRedis (fun _ => 0)) (fun _ => ())) schedule

/-- A call that has given another access token issues a pair. -/
theorem issuesPair_of_given {schedule : List (Fin 2)} {caller : Fin 2} {access : String}
    (given
      : (given? ((rotationsAfter schedule).process caller)).map IssuedTokens.accessToken
        = some access)
    (other : access ≠ aliceRefreshToken)
    : IssuesPair aliceRefreshToken (rotationsAfter schedule) caller := by
  obtain ⟨tokens, found, rfl⟩ := Option.map_eq_some_iff.mp given
  exact ⟨tokens, eq_done_of_given? found, other⟩

/-- One after the other, the first issues a pair and the second is refused. -/
theorem rotates_once_in_turn
    : let schedule : List (Fin 2) := List.replicate 11 0 ++ [1]
      IssuesPair aliceRefreshToken (rotationsAfter schedule) 0
      ∧ ¬IssuesPair aliceRefreshToken (rotationsAfter schedule) 1 := by
  intro schedule
  have first : IssuesPair aliceRefreshToken (rotationsAfter schedule) 0 :=
    issuesPair_of_given (by decide +kernel : _ = some laterAccessToken) (by decide +kernel)
  refine ⟨first, fun second => ?_⟩
  have same :=
    rotates_once (loginManager (some redisOperations)) (sharedRedis (fun _ => 0)) aliceRefreshToken
      afterLogin rfl _ (Configuration.reachable_follow schedule _ (by decide +kernel)) 0 1 first second
  exact absurd same (by decide)

/-- Both look and ask the store before either has entered the token. -/
def raced : List (Fin 2) :=
  [0, 1, 0, 1, 0, 1] ++ List.replicate 8 0 ++ List.replicate 8 1

/-- Then both issue a pair. -/
theorem rotations_race
    : ¬RotatesOnce (loginManager (some redisOperations)) aliceRefreshToken
        (sharedRedis (fun _ => 0)) (fun _ _ _ => True) afterLogin := by
  intro once
  have reached
      : Configuration.Reachable (TokenWorld.serve (sharedRedis (fun _ => 0)) (fun _ => ()))
          (fun _ _ _ => True)
          (refreshes (loginManager (some redisOperations)) aliceRefreshToken afterLogin)
          (rotationsAfter raced) :=
    Configuration.reachable_follow raced _ (by decide +kernel)
  have issued : ∀ caller, IssuesPair aliceRefreshToken (rotationsAfter raced) caller := by
    intro caller
    refine issuesPair_of_given (?_ : _ = some laterAccessToken) (by decide +kernel)
    revert caller
    decide +kernel
  exact absurd (once _ reached 0 1 (issued 0) (issued 1)) (by decide)

end QueueForge.Security
