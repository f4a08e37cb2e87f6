/-! What holds throughout a sequence of steps, and when two machines answer alike to one. -/

namespace QueueForge.Async

section

variable {σ ι : Type} {step : ι → σ → σ}

/-- The state after some steps. -/
def stateAfter (step : ι → σ → σ) : List ι → σ → σ
  | [], state => state
  | first :: rest, state => stateAfter step rest (step first state)

/-- The property holds in the first state and after every step. -/
def Throughout (step : ι → σ → σ) (property : σ → Prop) (steps : List ι) (start : σ) : Prop :=
  ∀ done, done <+: steps → property (stateAfter step done start)

/-- Every step meets the condition in the state it comes in. -/
def EveryStep (step : ι → σ → σ) (condition : ι → σ → Prop) : List ι → σ → Prop
  | [], _ => True
  | first :: rest, state =>
      condition first state ∧ EveryStep step condition rest (step first state)

theorem throughout_nil {property : σ → Prop} {start : σ}
    : Throughout step property [] start ↔ property start := by
  constructor
  · exact fun throughout => throughout [] List.nil_prefix
  · intro holds done begun
    rw [List.prefix_nil.mp begun]
    exact holds

theorem throughout_cons {property : σ → Prop} {first : ι} {rest : List ι} {start : σ}
    : Throughout step property (first :: rest) start
      ↔ property start ∧ Throughout step property rest (step first start) := by
  constructor
  · intro throughout
    refine ⟨throughout [] List.nil_prefix, fun done begun => ?_⟩
    exact throughout (first :: done) (List.cons_prefix_cons.mpr ⟨rfl, begun⟩)
  · rintro ⟨holds, later⟩ done begun
    cases done with
    | nil => exact holds
    | cons other done =>
        obtain ⟨rfl, others⟩ := List.cons_prefix_cons.mp begun
        exact later done others

/-- A property that follows from an invariant holds throughout if and only if every step meets a
condition: one that keeps the invariant, and that the property needs after the step. By induction
on the steps.
-/
theorem throughout_iff_everyStep {invariant property : σ → Prop} {condition : ι → σ → Prop}
    (holds : ∀ state, invariant state → property state)
    (keeps
      : ∀ next state, invariant state → condition next state → invariant (step next state))
    (needed
      : ∀ next state, invariant state → property (step next state) → condition next state)
    (steps : List ι) {start : σ} (initially : invariant start)
    : Throughout step property steps start ↔ EveryStep step condition steps start := by
  induction steps generalizing start with
  | nil => exact throughout_nil.trans (iff_of_true (holds start initially) trivial)
  | cons first rest ih =>
      rw [throughout_cons, EveryStep]
      constructor
      · rintro ⟨_, later⟩
        have next := needed first start initially (later [] List.nil_prefix)
        exact ⟨next, (ih (keeps first start initially next)).mp later⟩
      · rintro ⟨next, later⟩
        exact ⟨holds start initially, (ih (keeps first start initially next)).mpr later⟩

/-- A condition that keeps an invariant and under it gives another one gives it in every step, by
induction on the steps.
-/
theorem EveryStep.imp {invariant : σ → Prop} {condition other : ι → σ → Prop}
    (keeps
      : ∀ next state, invariant state → condition next state → invariant (step next state))
    (gives : ∀ next state, invariant state → condition next state → other next state)
    {steps : List ι} {start : σ} (met : EveryStep step condition steps start)
    (initially : invariant start)
    : EveryStep step other steps start := by
  induction steps generalizing start with
  | nil => trivial
  | cons first rest ih =>
      exact ⟨gives first start initially met.1, ih met.2 (keeps first start initially met.1)⟩

/-- Two conditions that agree under an invariant are met alike by steps of a kind, if the invariant
is kept as long as the conditions are met. By induction on the steps.
-/
theorem everyStep_congr_of_kept {invariant : σ → Prop} {condition other : ι → σ → Prop}
    {kind : ι → Prop}
    (agree
      : ∀ next state, kind next → invariant state → (condition next state ↔ other next state))
    (keeps : ∀ next state, invariant state → other next state → invariant (step next state))
    {steps : List ι} (alike : ∀ next ∈ steps, kind next) {start : σ} (initially : invariant start)
    : EveryStep step condition steps start ↔ EveryStep step other steps start := by
  induction steps generalizing start with
  | nil => exact .rfl
  | cons first rest ih =>
      obtain ⟨now, later⟩ := List.forall_mem_cons.mp alike
      rw [EveryStep, EveryStep, agree first start now initially]
      exact and_congr_right (fun met => ih later (keeps first start initially met))

/-- Two conditions that agree under an invariant of the steps are met alike, by induction on the
steps.
-/
theorem everyStep_congr {invariant : σ → Prop} {condition other : ι → σ → Prop}
    (keeps : ∀ next state, invariant state → invariant (step next state))
    (agree : ∀ next state, invariant state → (condition next state ↔ other next state))
    (steps : List ι) {start : σ} (initially : invariant start)
    : EveryStep step condition steps start ↔ EveryStep step other steps start := by
  induction steps generalizing start with
  | nil => exact .rfl
  | cons first rest ih =>
      exact and_congr (agree first start initially) (ih (keeps first start initially))

end

section

variable {σ τ ι α : Type}

/-- The answers to some calls, in their order. -/
def answers (step : ι → σ → α × σ) : List ι → σ → List α
  | [], _ => []
  | first :: rest, state => (step first state).1 :: answers step rest (step first state).2

/-- Two machines that take the same calls. -/
def together (left : ι → σ → α × σ) (right : ι → τ → α × τ) (next : ι) (states : σ × τ) : σ × τ :=
  ((left next states.1).2, (right next states.2).2)

section
variable {left : ι → σ → α × σ} {right : ι → τ → α × τ} (related : σ → τ → Prop)

/-- Two machines answer alike if and only if every call meets a condition: one that keeps a
relation of their states, and that says under it when a call is answered alike. By induction on
the calls.
-/
theorem answers_eq_iff_everyStep (condition : ι → σ × τ → Prop)
    (alike
      : ∀ next first second,
          related first second
          → ((left next first).1 = (right next second).1 ↔ condition next (first, second)))
    (keeps
      : ∀ next first second,
          related first second
          → condition next (first, second)
          → related (left next first).2 (right next second).2)
    (calls : List ι) {first : σ} {second : τ} (initially : related first second)
    : answers left calls first = answers right calls second
      ↔ EveryStep (together left right) condition calls (first, second) := by
  induction calls generalizing first second with
  | nil => exact iff_of_true rfl trivial
  | cons next rest ih =>
      rw [answers, answers, List.cons_eq_cons, EveryStep, alike next first second initially]
      refine and_congr_right (fun met => ?_)
      exact ih (keeps next first second initially met)

end

end

end QueueForge.Async
