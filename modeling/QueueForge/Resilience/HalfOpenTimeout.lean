import QueueForge.Js.Doubles
import QueueForge.Resilience.BreakerLaws

/-! How long a circuit breaker stays HALF_OPEN. Its configuration has a limit, which no operation
reads; a stay ends with what is recorded in it only.
-/

namespace QueueForge.Resilience

open QueueForge.Js CircuitBreaker

/-- The configuration with the time allowed in HALF_OPEN. -/
structure TimedBreakerConfig extends CircuitBreakerConfig where
  halfOpenTimeout : Number := 30000

/-- Every operation but a reset looks at the state first. -/
def BreakerEvent.observes (event : BreakerEvent) : Bool := event.operation ≠ .reset

/-- The state an operation observes, after the operations before it. -/
def observed (config : CircuitBreakerConfig) (event : BreakerEvent) (earlier : List BreakerEvent)
    : CircuitState :=
  ((after config earlier).getState event.clock.checked).1

/-- The breaker enters HALF_OPEN when an operation looks at its state. -/
def enters (config : CircuitBreakerConfig) (event : BreakerEvent) (earlier : List BreakerEvent)
    : Bool :=
  event.observes
  && (after config earlier).state = .open
  && observed config event earlier = .halfOpen

/-- When the breaker last entered HALF_OPEN, in operations with the newest first. -/
def enteredAt (config : CircuitBreakerConfig) : List BreakerEvent → Option Int
  | [] => none
  | event :: earlier =>
      if enters config event earlier then some event.clock.checked else enteredAt config earlier

/-- The breaker is not observed HALF_OPEN later than allowed after it entered. -/
def NeverOverstays (config : TimedBreakerConfig) (events : List BreakerEvent) : Prop :=
  ∀ event earlier,
    event :: earlier <:+ events
    → event.observes = true
    → observed config.toCircuitBreakerConfig event earlier = .halfOpen
    → ∀ entered ∈ enteredAt config.toCircuitBreakerConfig (event :: earlier),
        Number.le (.ofInt (event.clock.checked - entered)) config.halfOpenTimeout = true

/-- How many successes there are. -/
def successCount (events : List BreakerEvent) : Nat :=
  events.countP (fun event => event.operation = .recordSuccess)

/-- No failure, no reset, and fewer successes than close the breaker. -/
structure Undecided (config : CircuitBreakerConfig) (events : List BreakerEvent) : Prop where
  quiet
    : ∀ event ∈ events, event.operation ≠ .recordFailure ∧ event.operation ≠ .reset
  few
    : successCount events = 0 ∨ config.successThreshold.le (.ofInt (successCount events)) = false

/-- When the breaker enters HALF_OPEN the time allowed is not negative, and a failure, a reset or
enough successes come before anything looks at the state later than allowed after it.
-/
def DecidedInTime (config : TimedBreakerConfig) (events : List BreakerEvent) : Prop :=
  ∀ entry earlier,
    enters config.toCircuitBreakerConfig entry earlier = true
    → (entry :: earlier <:+ events → Number.le 0 config.halfOpenTimeout = true)
      ∧ ∀ event stay,
          event :: (stay ++ entry :: earlier) <:+ events
          → event.observes = true
          → Undecided config.toCircuitBreakerConfig (stay ++ [entry])
          → Number.le (.ofInt (event.clock.checked - entry.clock.checked)) config.halfOpenTimeout
            = true

section
variable {config : CircuitBreakerConfig} {event : BreakerEvent}
  {earlier events stay : List BreakerEvent}

/-- An operation in HALF_OPEN after some successes leaves the breaker there. -/
def Stays (config : CircuitBreakerConfig) (event : BreakerEvent) (count : Nat) : Prop :=
  (event.operation ≠ .recordFailure ∧ event.operation ≠ .reset)
  ∧ (event.operation = .recordSuccess
    → config.successThreshold.le (.ofInt (count + 1 : Nat)) = false)

theorem successCount_cons
    : successCount (event :: events)
      = successCount events + if event.operation = .recordSuccess then 1 else 0 := by
  rw [successCount, List.countP_cons, successCount]
  simp only [decide_eq_true_eq]

/-- What is undecided stays so with an operation that leaves the breaker HALF_OPEN. -/
theorem undecided_cons
    : Undecided config (event :: events)
      ↔ Undecided config events ∧ Stays config event (successCount events) := by
  have count := @successCount_cons event events
  constructor
  · rintro ⟨quiet, few⟩
    obtain ⟨own, others⟩ := List.forall_mem_cons.mp quiet
    by_cases succeeded : event.operation = .recordSuccess
    · rw [if_pos succeeded] at count
      rw [count] at few
      have below := few.resolve_left (Nat.succ_ne_zero _)
      refine ⟨⟨others, .inr ?_⟩, own, fun _ => below⟩
      refine Bool.eq_false_iff.mpr (fun reached => Bool.eq_false_iff.mp below ?_)
      refine Number.le_trans reached ?_
      rw [Number.ofInt_le_ofInt]
      exact decide_eq_true (Int.ofNat_le.mpr (Nat.le_succ _))
    · rw [if_neg succeeded, Nat.add_zero] at count
      rw [count] at few
      exact ⟨⟨others, few⟩, own, fun success => absurd success succeeded⟩
  · rintro ⟨⟨others, few⟩, own, below⟩
    refine ⟨List.forall_mem_cons.mpr ⟨own, others⟩, ?_⟩
    rw [count]
    by_cases succeeded : event.operation = .recordSuccess
    · rw [if_pos succeeded]
      exact .inr (below succeeded)
    · rw [if_neg succeeded]
      exact few

/-- What an operation does in HALF_OPEN. -/
theorem Effect.of_halfOpen {current next : CircuitBreakerState}
    (effect : Effect config event current next) (probing : current.state = .halfOpen)
    : next.state = .halfOpen
        ∧ Stays config event current.successCount
        ∧ next.successCount
          = current.successCount + (if event.operation = .recordSuccess then 1 else 0)
      ∨ next.state ≠ .halfOpen ∧ ¬Stays config event current.successCount := by
  have apart {state : CircuitState} (other : current.state = state) (ne : state ≠ .halfOpen)
      : False :=
    ne (other.symm.trans probing)
  cases effect with
  | observed observes =>
      refine .inl ⟨probing, ?_, ?_⟩
      · unfold Stays
        rcases observes with operation | operation <;> rw [operation] <;>
          exact ⟨⟨nofun, nofun⟩, nofun⟩
      · rcases observes with operation | operation <;> rw [operation] <;> rfl
  | ignored _ isOpen => exact (apart isOpen nofun).elim
  | untroubled _ isClosed _ => exact (apart isClosed nofun).elim
  | forgave _ isClosed => exact (apart isClosed nofun).elim
  | probed succeeded _ more =>
      refine .inl ⟨rfl, ⟨?_, fun _ => more⟩, (if_pos succeeded).symm ▸ rfl⟩
      rw [succeeded]
      exact ⟨nofun, nofun⟩
  | closed succeeded _ enough =>
      refine .inr ⟨nofun, fun stays => ?_⟩
      exact Bool.noConfusion (enough.symm.trans (stays.2 succeeded))
  | counted _ isClosed _ => exact (apart isClosed nofun).elim
  | tripped _ isClosed _ => exact (apart isClosed nofun).elim
  | reopened failed _ => exact .inr ⟨nofun, fun stays => stays.1.1 failed⟩
  | reset resets => exact .inr ⟨nofun, fun stays => stays.1.2 resets⟩

/-- An operation enters HALF_OPEN with no success counted yet. -/
theorem checked_of_enters (entered : enters config event earlier = true)
    : ((after config earlier).checkStateTransition event.clock.checked).stateInstance
      = { state := .halfOpen } := by
  simp only [enters, Bool.and_eq_true, decide_eq_true_eq] at entered
  obtain ⟨⟨_, isOpen⟩, probing⟩ := entered
  have probing
      : ((after config earlier).checkStateTransition event.clock.checked).state = .halfOpen :=
    probing
  have checked := (checkStateTransition_checked (after config earlier) event.clock.checked).1
  rw [CircuitBreaker.state] at isOpen probing
  generalize ((after config earlier).checkStateTransition event.clock.checked).stateInstance
    = current at checked probing ⊢
  cases checked with
  | kept => exact nomatch isOpen.symm.trans probing
  | waited => rfl

/-- A breaker that is not OPEN is observed as it is. -/
theorem checked_of_not_open {breaker : CircuitBreaker} {now : Int} (shut : breaker.state ≠ .open)
    : breaker.checkStateTransition now = breaker :=
  if_neg (fun waits => shut waits.1)

/-- The operations since the breaker entered HALF_OPEN decide nothing. -/
structure StaysSince (config : CircuitBreakerConfig) (entry : BreakerEvent)
    (stay earlier : List BreakerEvent)
    : Prop where
  entered : enters config entry earlier = true
  undecided : Undecided config (stay ++ [entry])

theorem effect_of_observes (observes : event.observes = true)
    : Effect config event
        ((after config earlier).checkStateTransition event.clock.checked).stateInstance
        (after config (event :: earlier)).stateInstance := by
  have effect := (checked_effect (after config earlier) (of_decide_eq_true observes)).1
  rwa [after_config] at effect

/-- While nothing is decided the breaker is HALF_OPEN, by induction on the stay. -/
theorem StaysSince.halfOpen {entry : BreakerEvent} (stays : StaysSince config entry stay earlier)
    : (after config (stay ++ entry :: earlier)).state = .halfOpen
      ∧ (after config (stay ++ entry :: earlier)).stateInstance.successCount
        = successCount (stay ++ [entry])
      ∧ enteredAt config (stay ++ entry :: earlier) = some entry.clock.checked := by
  induction stay with
  | nil =>
      have entered := stays.entered
      have observes : entry.observes = true := by
        simp only [enters, Bool.and_eq_true] at entered
        exact entered.1.1
      have effect := @effect_of_observes config entry earlier observes
      rw [checked_of_enters entered] at effect
      rcases effect.of_halfOpen rfl with ⟨probing, _, count⟩ | ⟨_, leaves⟩
      · refine ⟨probing, count.trans ?_, if_pos entered⟩
        rw [List.nil_append, successCount_cons]
        rfl
      · exact absurd (undecided_cons.mp stays.undecided).2 leaves
  | cons event stay ih =>
      obtain ⟨undecided, own⟩ := undecided_cons.mp stays.undecided
      obtain ⟨probing, counted, since⟩ := ih ⟨stays.entered, undecided⟩
      have shut : (after config (stay ++ entry :: earlier)).state ≠ .open := by
        rw [probing]
        exact nofun
      have observes : event.observes = true := decide_eq_true own.1.2
      have effect := @effect_of_observes config event (stay ++ entry :: earlier) observes
      rw [checked_of_not_open shut] at effect
      rcases effect.of_halfOpen probing with ⟨still, _, count⟩ | ⟨_, leaves⟩
      · refine ⟨still, ?_, ?_⟩
        · rw [List.cons_append, count, counted, List.cons_append, successCount_cons]
        · rw [List.cons_append, enteredAt, since, if_neg]
          simp only [enters, Bool.and_eq_true, decide_eq_true_eq]
          exact fun entered => shut entered.1.2
      · rw [counted] at leaves
        exact absurd own leaves

theorem Effect.probing {current next : CircuitBreakerState}
    (effect : Effect config event current next) (probing : next.state = .halfOpen)
    : current.state = .halfOpen := by
  cases effect with
  | observed => exact probing
  | ignored => exact probing
  | untroubled => exact probing
  | probed _ before => exact before
  | _ => exact nomatch probing

/-- A breaker that is HALF_OPEN has been so since it entered, by induction on the operations. -/
theorem exists_stay (probing : (after config events).state = .halfOpen)
    : ∃ stay entry earlier,
        events = stay ++ entry :: earlier ∧ StaysSince config entry stay earlier := by
  induction events with
  | nil => exact nomatch probing
  | cons event earlier ih =>
      have observes : event.observes = true := by
        refine decide_eq_true (fun resets => ?_)
        rw [CircuitBreaker.state, after, perform, resets] at probing
        exact nomatch probing
      have effect := @effect_of_observes config event earlier observes
      have before := effect.probing probing
      by_cases isOpen : (after config earlier).state = .open
      · have entered : enters config event earlier = true := by
          simp only [enters, Bool.and_eq_true, decide_eq_true_eq]
          exact ⟨⟨observes, isOpen⟩, before⟩
        rw [checked_of_enters entered] at effect
        rcases effect.of_halfOpen rfl with ⟨_, own, _⟩ | ⟨left, _⟩
        · have none : Undecided config [] := ⟨fun _ none => absurd none List.not_mem_nil, .inl rfl⟩
          exact ⟨[], event, earlier, rfl, entered, undecided_cons.mpr ⟨none, own⟩⟩
        · exact absurd probing left
      · rw [checked_of_not_open isOpen] at effect before
        obtain ⟨stay, entry, sooner, rfl, stays⟩ := ih before
        rcases effect.of_halfOpen before with ⟨_, own, _⟩ | ⟨left, _⟩
        · rw [stays.halfOpen.2.1] at own
          exact ⟨event :: stay, entry, sooner, rfl, stays.entered,
            undecided_cons.mpr ⟨stays.undecided, own⟩⟩
        · exact absurd probing left

/-- What is observed of a breaker that is HALF_OPEN, and since when it is. -/
theorem observed_halfOpen (probing : (after config earlier).state = .halfOpen)
    : observed config event earlier = .halfOpen
      ∧ enteredAt config (event :: earlier) = enteredAt config earlier := by
  have shut : (after config earlier).state ≠ .open := by
    rw [probing]
    exact nofun
  constructor
  · rw [observed, getState, checked_of_not_open shut]
    exact probing
  · rw [enteredAt, if_neg]
    simp only [enters, Bool.and_eq_true, decide_eq_true_eq]
    exact fun entered => shut entered.1.2

end

/-- A breaker never overstays in HALF_OPEN exactly if every stay is decided in time. -/
theorem never_overstays_iff (config : TimedBreakerConfig) (events : List BreakerEvent)
    : NeverOverstays config events ↔ DecidedInTime config events := by
  constructor
  · intro never entry earlier entered
    have looks := entered
    simp only [enters, Bool.and_eq_true, decide_eq_true_eq] at looks
    constructor
    · intro begun
      have inTime := never entry earlier begun looks.1.1 looks.2 _ (if_pos entered)
      rwa [Int.sub_self] at inTime
    · intro event stay begun observes undecided
      have stays : StaysSince config.toCircuitBreakerConfig entry stay earlier :=
        ⟨entered, undecided⟩
      obtain ⟨probing, _, since⟩ := stays.halfOpen
      obtain ⟨seen, still⟩ := @observed_halfOpen _ event _ probing
      exact never event _ begun observes seen _ (still.trans since)
  · intro decided event earlier begun observes seen entered since
    by_cases isOpen : (after config.toCircuitBreakerConfig earlier).state = .open
    · have enters : enters config.toCircuitBreakerConfig event earlier = true := by
        simp only [enters, Bool.and_eq_true, decide_eq_true_eq]
        exact ⟨⟨observes, isOpen⟩, seen⟩
      have own : entered = event.clock.checked :=
        Option.some.inj (since.symm.trans (if_pos enters))
      rw [own, Int.sub_self]
      exact (decided event earlier enters).1 begun
    · have probing : (after config.toCircuitBreakerConfig earlier).state = .halfOpen := by
        rw [observed, getState, checked_of_not_open isOpen] at seen
        exact seen
      obtain ⟨stay, entry, sooner, rfl, stays⟩ := exists_stay probing
      have still := (@observed_halfOpen _ event _ probing).2
      have own : entered = entry.clock.checked :=
        Option.some.inj (since.symm.trans (still.trans stays.halfOpen.2.2))
      rw [own]
      exact (decided entry sooner stays.entered).2 event stay begun observes stays.undecided

/-- A failure opens the breaker, its state is looked at after the timeout, and again an hour later.
-/
def lateLook : List BreakerEvent := [
  ⟨.getState, ⟨3660000, 3660000⟩⟩,
  ⟨.getState, ⟨60000, 60000⟩⟩,
  ⟨.recordFailure, ⟨0, 0⟩⟩
]

/-- The breaker is still HALF_OPEN after the 30 seconds it is allowed. -/
theorem breaker_overstays
    : let config : TimedBreakerConfig := { threshold := 1 }
      observed config.toCircuitBreakerConfig ⟨.getState, ⟨3660000, 3660000⟩⟩ lateLook.tail
          = .halfOpen
      ∧ enteredAt config.toCircuitBreakerConfig lateLook = some 60000
      ∧ ¬NeverOverstays config lateLook := by
  intro config
  have seen
      : observed config.toCircuitBreakerConfig ⟨.getState, ⟨3660000, 3660000⟩⟩ lateLook.tail
        = .halfOpen := by
    decide
  have since : enteredAt config.toCircuitBreakerConfig lateLook = some 60000 := by
    decide
  refine ⟨seen, since, fun never => ?_⟩
  have late := never _ _ (List.suffix_refl lateLook) rfl seen 60000 since
  revert late
  decide

end QueueForge.Resilience
