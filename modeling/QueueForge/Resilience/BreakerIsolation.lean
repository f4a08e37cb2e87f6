import QueueForge.Resilience.CircuitBreakerManager

/-! Each destination's breaker, whatever the calls for other destinations, is one breaker that is
driven by the calls for that destination.
-/

namespace QueueForge.Resilience

open QueueForge.Js

-----------------------------------------------------------------------------------------
-- One destination's part of some calls
-----------------------------------------------------------------------------------------

/-- A breaker after an operation, if there is one. -/
def CircuitBreaker.operate (breaker : CircuitBreaker) (event : Option BreakerEvent)
    : CircuitBreaker :=
  event.elim breaker breaker.perform

/-- A single breaker with the configuration given when the destination was first seen, after the
operations for that destination.
-/
def singleBreaker (defaultConfig : Option ManagerConfig) (destination : String)
    (calls : List ManagerCall)
    : Option CircuitBreaker :=
  (firstConfig defaultConfig destination calls).map
    (fun config => CircuitBreaker.after config (operationsOn destination calls))

section
variable {defaultConfig : Option ManagerConfig} {destination : String}

/-- A destination whose breaker was returned has been seen, by induction on the calls. -/
theorem firstConfig_ne_none {calls : List ManagerCall} {ago : Nat}
    (returned : calls[ago]?.bind ManagerCall.returns = some destination)
    : firstConfig defaultConfig destination calls ≠ none := by
  induction calls generalizing ago with
  | nil => simp at returned
  | cons call earlier ih =>
      unfold firstConfig
      cases ago with
      | zero =>
          have seen : call.configures defaultConfig destination ≠ none := by
            cases call <;> simp_all [ManagerCall.returns, ManagerCall.configures]
          simp [seen]
      | succ ago =>
          have seen := @ih ago (by simpa using returned)
          simp [seen]

/-- Before a destination is seen its breaker is only reset. By induction on the calls. -/
theorem after_operationsOn_unseen {calls : List ManagerCall}
    (unseen : firstConfig defaultConfig destination calls = none) (config : CircuitBreakerConfig)
    : CircuitBreaker.after config (operationsOn destination calls) = { config } := by
  induction calls with
  | nil => rfl
  | cons call earlier ih =>
      obtain ⟨before, now⟩ := Option.or_eq_none_iff.mp unseen
      have fresh := ih before
      have operated
          : call.operates destination earlier = none
            ∨ call.operates destination earlier = some CircuitBreakerManager.resetEvent := by
        cases call with
        | getBreaker _ => exact .inl rfl
        | getOrCreateBreaker _ _ => exact .inl rfl
        | resetBreaker destinationId =>
            by_cases same : destinationId = destination
            · exact .inr (if_pos same)
            · exact .inl (if_neg same)
        | record ago event =>
            refine .inl (if_neg (fun concerned => ?_))
            exact firstConfig_ne_none concerned before
        -- a call that asks the breaker creates it
        | getState _ _ => exact .inl (if_neg (fun same => by simp [ManagerCall.configures, same] at now))
        | isOpen _ _ => exact .inl (if_neg (fun same => by simp [ManagerCall.configures, same] at now))
        | isDestinationAvailable _ _ =>
            exact .inl (if_neg (fun same => by simp [ManagerCall.configures, same] at now))
      rcases operated with none | reset
      · rw [operationsOn, none]
        exact fresh
      · rw [operationsOn, reset, Option.toList_some, List.singleton_append, CircuitBreaker.after,
          fresh]
        rfl

/-- What a call adds to the breaker of a destination. -/
theorem singleBreaker_cons (call : ManagerCall) (earlier : List ManagerCall)
    : singleBreaker defaultConfig destination (call :: earlier)
      = ((singleBreaker defaultConfig destination earlier).or
          ((call.configures defaultConfig destination).map (fun config => { config }))).map
          (fun breaker => breaker.operate (call.operates destination earlier)) := by
  have driven (config : CircuitBreakerConfig)
      : CircuitBreaker.after config (operationsOn destination (call :: earlier))
        = (CircuitBreaker.after config (operationsOn destination earlier)).operate
            (call.operates destination earlier) := by
    rw [operationsOn]
    cases call.operates destination earlier <;> rfl
  rw [singleBreaker, singleBreaker, firstConfig]
  cases before : firstConfig defaultConfig destination earlier with
  | some config => simp only [Option.some_or, Option.map_some, driven]
  | none =>
      cases call.configures defaultConfig destination with
      | none => rfl
      | some config =>
          have fresh := after_operationsOn_unseen before config
          simp only [Option.none_or, Option.map_some, Option.map_none, driven, fresh]

end

-----------------------------------------------------------------------------------------
-- What the manager holds for a destination
-----------------------------------------------------------------------------------------

namespace CircuitBreakerManager

/-- The breaker of a destination, if it has been seen. -/
def breakerOf (manager : CircuitBreakerManager) (destination : String) : Option CircuitBreaker :=
  (manager.breakers destination).bind (fun number => manager.created[number]?)

section
variable {manager : CircuitBreakerManager} {destinationId : String}

theorem breakerOf_none (unseen : manager.breakers destinationId = none)
    : manager.breakerOf destinationId = none := by
  rw [breakerOf, unseen, Option.bind_none]

theorem breakerOf_some {number : Nat} (held : manager.breakers destinationId = some number)
    : manager.breakerOf destinationId = manager.created[number]? := by
  rw [breakerOf, held, Option.bind_some]

theorem breakerOf_isSome {number : Nat} (held : manager.breakers destinationId = some number)
    : (manager.breakerOf destinationId).isSome = true := by
  rw [breakerOf_some held, List.getElem?_eq_getElem (manager.there destinationId number held)]
  rfl

/-- What asking for a breaker gives and leaves. -/
structure Got (manager : CircuitBreakerManager) (destinationId : String)
    (config : CircuitBreakerConfig) (got : Nat × CircuitBreakerManager)
    : Prop where
  default : got.2.defaultConfig = manager.defaultConfig
  held : got.2.breakers destinationId = some got.1
  grows
    : ∀ other number,
        manager.breakers other = some number → got.2.breakers other = some number
  others
    : ∀ other,
        got.2.breakerOf other
        = (manager.breakerOf other).or (if destinationId = other then some { config } else none)

theorem getOrCreateBreaker_got (manager : CircuitBreakerManager) (destinationId : String)
    (destinationConfig : PartialBreakerConfig)
    : Got manager destinationId (breakerConfig manager.defaultConfig destinationConfig)
        (manager.getOrCreateBreaker destinationId destinationConfig) := by
  unfold getOrCreateBreaker
  cases held : manager.breakers destinationId with
  | some number =>
      refine ⟨rfl, held, fun _ _ same => same, fun other => ?_⟩
      by_cases same : destinationId = other
      · subst same
        obtain ⟨breaker, found⟩ := Option.isSome_iff_exists.mp (breakerOf_isSome held)
        simp only [found, Option.some_or]
      · rw [if_neg same, Option.or_none]
  | none =>
      refine ⟨rfl, Function.update_self .., ?_, fun other => ?_⟩
      · intro other number known
        have apart : other ≠ destinationId := by
          rintro rfl
          rw [held] at known
          exact nomatch known
        exact (Function.update_of_ne apart ..).trans known
      · by_cases same : destinationId = other
        · subst same
          rw [if_pos rfl, breakerOf_none held, Option.none_or, breakerOf_some (Function.update_self ..)]
          exact List.getElem?_concat_length
        · rw [if_neg same, Option.or_none]
          cases known : manager.breakers other with
          | none =>
              rw [breakerOf_none known]
              exact breakerOf_none ((Function.update_of_ne (Ne.symm same) ..).trans known)
          | some number =>
              have kept := (Function.update_of_ne (Ne.symm same)
                (some manager.created.length) manager.breakers).trans known
              rw [breakerOf_some known]
              exact (breakerOf_some kept).trans
                (List.getElem?_append_left (manager.there other number known))

/-- An operation on the breaker of a destination reaches no other. -/
theorem breakerOf_perform {number : Nat} (held : manager.breakers destinationId = some number)
    (event : BreakerEvent) (other : String)
    : (manager.perform number event).breakerOf other
      = (manager.breakerOf other).map
          (fun breaker => breaker.operate (if destinationId = other then some event else none)) := by
  cases known : manager.breakers other with
  | none =>
      rw [breakerOf_none known]
      exact breakerOf_none known
  | some found =>
      have modified
          : (manager.perform number event).breakerOf other
            = (fun breaker => if number = found then breaker.perform event else breaker)
              <$> manager.created[found]? := by
        have kept : (manager.perform number event).breakers other = some found := known
        exact (breakerOf_some kept).trans (List.getElem?_modify ..)
      rw [modified, breakerOf_some known]
      by_cases same : destinationId = other
      · subst same
        obtain rfl := Option.some.inj (held.symm.trans known)
        simp only [if_true]
        rfl
      · have apart : number ≠ found := by
          rintro rfl
          exact same (manager.apart destinationId other number held known)
        simp only [if_neg apart, if_neg same]
        rfl

end

end CircuitBreakerManager

-----------------------------------------------------------------------------------------
-- The run of the manager against the single breakers
-----------------------------------------------------------------------------------------

/-- The manager holds for every destination its single breaker, and what a call returned is the
breaker of the destination it was called for.
-/
structure Tracks (defaultConfig : Option ManagerConfig) (calls : List ManagerCall)
    (run : ManagerRun)
    : Prop where
  default : run.manager.defaultConfig = defaultConfig
  single
    : ∀ destination,
        run.manager.breakerOf destination = singleBreaker defaultConfig destination calls
  returned
    : ∀ ago : Nat,
        match calls[ago]?.bind ManagerCall.returns with
        | some destination =>
            ∃ number,
              run.returned[ago]?.join = some number
              ∧ run.manager.breakers destination = some number
        | none => run.returned[ago]?.join = none

namespace Tracks

variable {defaultConfig : Option ManagerConfig} {earlier : List ManagerCall} {run : ManagerRun}
  {call : ManagerCall}

/-- A call that leaves the manager with the single breakers and returns the right one. -/
theorem next {manager : CircuitBreakerManager} {answer : Option Nat}
    (tracks : Tracks defaultConfig earlier run)
    (default : manager.defaultConfig = run.manager.defaultConfig)
    (grows
      : ∀ destination number,
          run.manager.breakers destination = some number
          → manager.breakers destination = some number)
    (others
      : ∀ other,
          manager.breakerOf other
          = ((run.manager.breakerOf other).or
              ((call.configures defaultConfig other).map (fun config => { config }))).map
              (fun breaker => breaker.operate (call.operates other earlier)))
    (answered
      : match call.returns with
        | some destination =>
            ∃ number, answer = some number ∧ manager.breakers destination = some number
        | none => answer = none)
    : Tracks defaultConfig (call :: earlier) ⟨manager, answer :: run.returned⟩ where
  default := default.trans tracks.default
  single destination := by
    rw [singleBreaker_cons, ← tracks.single destination]
    exact others destination
  returned ago := by
    cases ago with
    | zero => exact answered
    | succ ago =>
        have before := tracks.returned ago
        simp only [List.getElem?_cons_succ]
        split
        · rename_i destination named
          simp only [named] at before
          obtain ⟨number, same, held⟩ := before
          exact ⟨number, same, grows destination number held⟩
        · rename_i unnamed
          simp only [unnamed] at before
          exact before

/-- A call that asks for a breaker and operates on it. -/
theorem asks (tracks : Tracks defaultConfig earlier run) {destinationId : String}
    {destinationConfig : PartialBreakerConfig} {event : BreakerEvent}
    (configures
      : ∀ other,
          call.configures defaultConfig other
          = if destinationId = other then some (breakerConfig defaultConfig destinationConfig)
            else none)
    (operates
      : ∀ other,
          call.operates other earlier = if destinationId = other then some event else none)
    (unreturned : call.returns = none)
    : let got := run.manager.getOrCreateBreaker destinationId destinationConfig
      Tracks defaultConfig (call :: earlier) ⟨got.2.perform got.1 event, none :: run.returned⟩ := by
  intro got
  have asked := run.manager.getOrCreateBreaker_got destinationId destinationConfig
  refine tracks.next asked.default asked.grows (fun other => ?_) (by rw [unreturned])
  rw [CircuitBreakerManager.breakerOf_perform asked.held, asked.others, configures, operates,
    tracks.default]
  by_cases same : destinationId = other <;> simp [same]

/-- A call that returns a breaker. -/
theorem gets (tracks : Tracks defaultConfig earlier run) {destinationId : String}
    {destinationConfig : PartialBreakerConfig}
    (configures
      : ∀ other,
          call.configures defaultConfig other
          = if destinationId = other then some (breakerConfig defaultConfig destinationConfig)
            else none)
    (operates : ∀ other, call.operates other earlier = none)
    (returns : call.returns = some destinationId)
    : let got := run.manager.getOrCreateBreaker destinationId destinationConfig
      Tracks defaultConfig (call :: earlier) ⟨got.2, some got.1 :: run.returned⟩ := by
  intro got
  have asked := run.manager.getOrCreateBreaker_got destinationId destinationConfig
  refine tracks.next asked.default asked.grows (fun other => ?_) ?_
  · rw [asked.others, configures, operates, tracks.default]
    by_cases same : destinationId = other <;> simp [same, CircuitBreaker.operate]
  · rw [returns]
    exact ⟨got.1, rfl, asked.held⟩

/-- A call on a breaker that is held. -/
theorem performs (tracks : Tracks defaultConfig earlier run) {destinationId : String}
    {number : Nat} {event : BreakerEvent}
    (held : run.manager.breakers destinationId = some number)
    (configures : ∀ other, call.configures defaultConfig other = none)
    (operates
      : ∀ other,
          call.operates other earlier = if destinationId = other then some event else none)
    (unreturned : call.returns = none)
    : Tracks defaultConfig (call :: earlier)
        ⟨run.manager.perform number event, none :: run.returned⟩ := by
  refine tracks.next rfl (fun _ _ known => known) (fun other => ?_) (by rw [unreturned])
  rw [CircuitBreakerManager.breakerOf_perform held, configures, operates, Option.map_none,
    Option.or_none]

/-- A call that finds no breaker. -/
theorem nothing (tracks : Tracks defaultConfig earlier run)
    (configures : ∀ other, call.configures defaultConfig other = none)
    (operates
      : ∀ other, run.manager.breakerOf other = none ∨ call.operates other earlier = none)
    (unreturned : call.returns = none)
    : Tracks defaultConfig (call :: earlier) ⟨run.manager, none :: run.returned⟩ := by
  refine tracks.next rfl (fun _ _ known => known) (fun other => ?_) (by rw [unreturned])
  rw [configures, Option.map_none, Option.or_none]
  rcases operates other with unseen | idle
  · rw [unseen, Option.map_none]
  · simp [idle, CircuitBreaker.operate]

/-- Every call, case by case. -/
theorem step (tracks : Tracks defaultConfig earlier run) (call : ManagerCall)
    : Tracks defaultConfig (call :: earlier) (run.call call) := by
  cases call with
  | getBreaker destinationId => exact tracks.gets (fun _ => rfl) (fun _ => rfl) rfl
  | getOrCreateBreaker destinationId destinationConfig =>
      exact tracks.gets (fun _ => rfl) (fun _ => rfl) rfl
  | getState destinationId now => exact tracks.asks (fun _ => rfl) (fun _ => rfl) rfl
  | isOpen destinationId now => exact tracks.asks (fun _ => rfl) (fun _ => rfl) rfl
  | isDestinationAvailable destinationId now =>
      exact tracks.asks (fun _ => rfl) (fun _ => rfl) rfl
  | resetBreaker destinationId =>
      simp only [ManagerRun.call, CircuitBreakerManager.resetBreaker]
      cases held : run.manager.breakers destinationId with
      | some number =>
          dsimp only
          exact tracks.performs held (fun _ => rfl) (fun _ => rfl) rfl
      | none =>
          dsimp only
          refine tracks.nothing (fun _ => rfl) (fun other => ?_) rfl
          by_cases same : destinationId = other
          · subst same
            exact .inl (CircuitBreakerManager.breakerOf_none held)
          · exact .inr (if_neg same)
  | record ago event =>
      have before := tracks.returned ago
      unfold ManagerRun.call
      cases named : earlier[ago]?.bind ManagerCall.returns with
      | some destination =>
          simp only [named] at before
          obtain ⟨number, same, held⟩ := before
          simp only [same]
          refine tracks.performs held (fun _ => rfl) (fun other => ?_) rfl
          simp only [ManagerCall.operates, named, Option.some.injEq]
      | none =>
          simp only [named] at before
          simp only [before]
          refine tracks.nothing (fun _ => rfl) (fun other => .inr ?_) rfl
          simp only [ManagerCall.operates, named, reduceCtorEq, if_false]

end Tracks

theorem tracks_after (defaultConfig : Option ManagerConfig) (calls : List ManagerCall)
    : Tracks defaultConfig calls (ManagerRun.after defaultConfig calls) := by
  induction calls with
  | nil => exact ⟨rfl, fun _ => rfl, fun _ => rfl⟩
  | cons call earlier ih => exact ih.step call

/-- What a manager tells of a destination is what the breaker it holds tells, or a new one. -/
theorem ask_eq {α : Type} (manager : CircuitBreakerManager) (destination : String)
    (tells : CircuitBreaker → α)
    : manager.ask destination tells
      = some (tells ((manager.breakerOf destination).getD
          { config := breakerConfig manager.defaultConfig {} })) := by
  have got := manager.getOrCreateBreaker_got destination {}
  have held := CircuitBreakerManager.breakerOf_some got.held
  have asked
      : manager.ask destination tells
        = ((manager.getOrCreateBreaker destination {}).2.breakerOf destination).map tells :=
    congrArg (Option.map tells) held.symm
  rw [asked, got.others, if_pos rfl]
  cases manager.breakerOf destination <;> rfl

/-- Whatever is called for other destinations and recorded on their breakers, the manager holds
for a destination the single breaker, with the configuration given when it was first seen, that
its own operations drive, and tells at any time what that breaker tells.
-/
theorem breaker_isolated (defaultConfig : Option ManagerConfig) (calls : List ManagerCall)
    (destination : String)
    : let manager := (ManagerRun.after defaultConfig calls).manager
      let single := singleBreaker defaultConfig destination calls
      let told := single.getD { config := breakerConfig defaultConfig {} }
      manager.breakerOf destination = single
      ∧ ∀ now,
          (manager.getState destination now).1 = some (told.getState now).1
          ∧ (manager.isOpen destination now).1 = some (decide ((told.getState now).1 = .open))
          ∧ (manager.isDestinationAvailable destination now).1
            = some (told.canExecute now).1 := by
  intro manager single told
  have tracks := tracks_after defaultConfig calls
  have held : manager.breakerOf destination = single := tracks.single destination
  have tells {α : Type} (tells : CircuitBreaker → α)
      : manager.ask destination tells = some (tells told) := by
    rw [ask_eq, held, tracks.default]
  refine ⟨held, fun now => ⟨tells _, ?_, tells _⟩⟩
  exact congrArg (Option.map (fun current => decide (current = CircuitState.open))) (tells _)

end QueueForge.Resilience
