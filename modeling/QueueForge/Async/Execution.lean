import QueueForge.Async.Contract

/-! Running a program alone: a handler answers each awaited call in some world.
A contract is sound for a handler that honours it, so verification conditions over
the program tree become facts about every run.
-/

namespace QueueForge.Async

/-- A handler answers a call in a world and moves the world on. Answers it is free to
choose are read off the world, so one handler covers every behaviour of an environment.
-/
abbrev Handler (S : Signature) (ε σ : Type) : Type :=
  (op : S.Op) → σ → Settled ε (S.Result op) × σ

/-- The handler honours the contract on the worlds related to its phases. -/
def Handler.Honours {S : Signature} {ε σ Φ : Type} (handler : Handler S ε σ)
    (contract : Contract S ε Φ) (related : Φ → σ → Prop)
    : Prop :=
  ∀ phase world op,
    related phase world
    → contract.allows phase op
    → ∃ next,
        contract.answers phase op (handler op world).1 next
        ∧ related next (handler op world).2

namespace Program

variable {S T : Signature} {ε α β σ Φ : Type}

/-- Run a program to its end, one awaited call after the other. -/
def run (handler : Handler S ε σ) : Program S ε α → σ → Settled ε α × σ
  | done value, world => (.ok value, world)
  | fail error, world => (.error error, world)
  | call op rest, world => (rest (handler op world).1).run handler (handler op world).2

section
variable {handler : Handler S ε σ} {world : σ}

@[simp] theorem run_done {value : α}
    : (done value : Program S ε α).run handler world = (.ok value, world) :=
  rfl

@[simp] theorem run_fail {error : ε}
    : (fail error : Program S ε α).run handler world = (.error error, world) :=
  rfl

@[simp] theorem run_ofResult {result : Settled ε α}
    : (ofResult result : Program S ε α).run handler world = (result, world) := by
  cases result <;> rfl

@[simp] theorem run_bind {program : Program S ε β} {next : β → Program S ε α}
    : (program.bind next).run handler world
      = match program.run handler world with
        | (.ok value, after) => (next value).run handler after
        | (.error error, after) => (.error error, after) := by
  induction program generalizing world with
  | done value => rfl
  | fail error => rfl
  | call op rest ih => simp only [bind, run, ih]

/-- A sequence has returned when both of its parts have. -/
theorem run_bind_eq_ok {program : Program S ε β} {next : β → Program S ε α} {value : α}
    {after : σ}
    : (program.bind next).run handler world = (.ok value, after)
      ↔ ∃ middle between,
          program.run handler world = (.ok middle, between)
          ∧ (next middle).run handler between = (.ok value, after) := by
  rw [run_bind]
  rcases program.run handler world with ⟨error | middle, between⟩
  · exact iff_of_false nofun (fun ⟨_, _, returned, _⟩ => nomatch returned)
  · constructor
    · exact fun returned => ⟨middle, between, rfl, returned⟩
    · rintro ⟨_, _, ⟨⟩, returned⟩
      exact returned

@[simp] theorem run_catchError {program : Program S ε α} {handle : ε → Program S ε α}
    : (program.catchError handle).run handler world
      = match program.run handler world with
        | (.ok value, after) => (.ok value, after)
        | (.error error, after) => (handle error).run handler after := by
  induction program generalizing world with
  | done value => rfl
  | fail error => rfl
  | call op rest ih => simp only [catchError, run, ih]

@[simp] theorem run_settle {program : Program S ε α}
    : program.settle.run handler world
      = (.ok (program.run handler world).1, (program.run handler world).2) := by
  induction program generalizing world with
  | done value => rfl
  | fail error => rfl
  | call op rest ih => simp only [settle, run, ih]

@[simp] theorem run_perform {op : S.Op}
    : run (α := no_index (S.Result op)) handler (perform op) world = handler op world := by
  unfold perform
  simp only [run]
  rcases handler op world with ⟨_ | _, _⟩ <;> rfl

/-- The handler that answers each call by running a method. -/
def implementing (methods : (op : S.Op) → Program T ε (S.Result op)) (lower : Handler T ε σ)
    : Handler S ε σ :=
  fun op world => (methods op).run lower world

/-- Running an implemented program is running the original one under the handler that
runs each method, by induction on the program.
-/
theorem run_implement {lower : Handler T ε σ}
    {methods : (op : S.Op) → Program T ε (S.Result op)} {program : Program S ε α}
    : (program.implement methods).run lower world
      = program.run (implementing methods lower) world := by
  induction program generalizing world with
  | done value => rfl
  | fail error => rfl
  | call op rest ih => simp only [implement, run_bind, run_settle, run, ih, implementing]

/-- A program that meets a contract settles within the postcondition under every handler
that honours it, by induction on the program.
-/
theorem Meets.run {contract : Contract S ε Φ} {related : Φ → σ → Prop}
    (honoured : handler.Honours contract related) {program : Program S ε α} {phase : Φ}
    {post : Settled ε α → Φ → Prop} (h : program.Meets contract phase post)
    (start : related phase world)
    : ∃ final,
        post (program.run handler world).1 final
        ∧ related final (program.run handler world).2 := by
  induction program generalizing phase world with
  | done value => exact ⟨phase, h, start⟩
  | fail error => exact ⟨phase, h, start⟩
  | call op rest ih =>
      obtain ⟨next, answered, kept⟩ := honoured phase world op start h.1
      exact ih _ (h.2 _ next answered) kept

/-- What each of its calls preserves, the run of a program preserves. -/
theorem Awaits.run {property : S.Op → Prop} {invariant : σ → Prop}
    {program : Program S ε α} (h : program.Awaits property)
    (step : ∀ op world, property op → invariant world → invariant (handler op world).2)
    (start : invariant world)
    : invariant (program.run handler world).2 := by
  have honoured : handler.Honours (.only property) (fun _ world => invariant world) :=
    fun _ world op held allowed => ⟨(), trivial, step op world allowed held⟩
  obtain ⟨_, _, kept⟩ := Meets.run honoured h start
  exact kept

/-- A handler over other worlds that agrees on the calls of a program, up to an embedding of
the worlds, runs it alike. By induction on the program.
-/
theorem Awaits.run_embedded {τ : Type} {property : S.Op → Prop} {other : Handler S ε τ}
    {program : Program S ε α} (h : program.Awaits property) (embed : σ → τ)
    (same
      : ∀ op,
          property op
          → ∀ world,
              other op (embed world) = ((handler op world).1, embed (handler op world).2))
    : program.run other (embed world)
      = ((program.run handler world).1, embed (program.run handler world).2) := by
  induction program generalizing world with
  | done value => rfl
  | fail error => rfl
  | call op rest ih =>
      simp only [Program.run, same op h.1]
      exact ih _ (h.2 _ () trivial)

/-- What every call preserves, every run preserves, by induction on the program. -/
theorem run_preserves {invariant : σ → Prop} {program : Program S ε α}
    (step : ∀ op world, invariant world → invariant (handler op world).2)
    (start : invariant world)
    : invariant (program.run handler world).2 := by
  induction program generalizing world with
  | done value => exact start
  | fail error => exact start
  | call op rest ih => exact ih _ (step op world start)

end

end Program

/-- A call of a run and what it settled with. -/
structure Answered (S : Signature) (ε : Type) where
  op : S.Op
  result : Settled ε (S.Result op)

section
variable {S : Signature} {ε α σ Φ : Type}

/-- The handler that also keeps the calls it answered, newest first. -/
def Handler.logged (handler : Handler S ε σ) : Handler S ε (σ × List (Answered S ε)) :=
  fun op world =>
    ((handler op world.1).1, (handler op world.1).2, ⟨op, (handler op world.1).1⟩ :: world.2)

/-- The calls of a run with their answers, newest first. -/
def Program.trace (handler : Handler S ε σ) (program : Program S ε α) (world : σ)
    : List (Answered S ε) :=
  (program.run handler.logged (world, [])).2.2

/-- Logging changes neither what a run settles with nor the world it leaves, by induction
on the program.
-/
theorem Program.run_logged {handler : Handler S ε σ} {program : Program S ε α} {world : σ}
    {log : List (Answered S ε)}
    : (program.run handler.logged (world, log)).1 = (program.run handler world).1
      ∧ (program.run handler.logged (world, log)).2.1 = (program.run handler world).2 := by
  induction program generalizing world log with
  | done value => exact ⟨rfl, rfl⟩
  | fail error => exact ⟨rfl, rfl⟩
  | call op rest ih => exact ih _

/-- A program that meets a contract settles within the postcondition, in a phase related
to the final world and the trace of its run.
-/
theorem Program.Meets.trace {handler : Handler S ε σ} {contract : Contract S ε Φ}
    {related : Φ → σ × List (Answered S ε) → Prop}
    (honoured : handler.logged.Honours contract related) {program : Program S ε α}
    {phase : Φ} {post : Settled ε α → Φ → Prop} {world : σ}
    (h : program.Meets contract phase post) (start : related phase (world, []))
    : ∃ final,
        post (program.run handler world).1 final
        ∧ related final ((program.run handler world).2, program.trace handler world) := by
  obtain ⟨final, reached, kept⟩ := h.run honoured start
  obtain ⟨outcome, left⟩
      : (program.run handler.logged (world, [])).1 = (program.run handler world).1
        ∧ (program.run handler.logged (world, [])).2.1 = (program.run handler world).2 :=
    run_logged
  refine ⟨final, outcome ▸ reached, ?_⟩
  rw [← left]
  exact kept

/-- The contract of an observer that admits some answers and updates its notes with each.
-/
def Contract.observing (admits : (op : S.Op) → Settled ε (S.Result op) → Prop)
    (enter : Φ → (op : S.Op) → Settled ε (S.Result op) → Φ)
    : Contract S ε Φ where
  allows _ _ := True
  answers notes op result after := admits op result ∧ after = enter notes op result

/-- Awaiting a call under observation: one case for each way it settles. -/
theorem Program.meets_perform_observing
    {admits : (op : S.Op) → Settled ε (S.Result op) → Prop}
    {enter : Φ → (op : S.Op) → Settled ε (S.Result op) → Φ} {op : S.Op} {phase : Φ}
    {post : Settled ε (S.Result op) → Φ → Prop}
    : Program.Meets (α := no_index (S.Result op)) (Contract.observing admits enter)
        (perform op) phase post
      ↔ (∀ error,
          admits op (.error error) → post (.error error) (enter phase op (.error error)))
        ∧ ∀ value, admits op (.ok value) → post (.ok value) (enter phase op (.ok value)) := by
  rw [meets_perform]
  constructor
  · rintro ⟨_, owed⟩
    exact ⟨fun error admitted => owed _ _ ⟨admitted, rfl⟩,
      fun value admitted => owed _ _ ⟨admitted, rfl⟩⟩
  · rintro ⟨rejected, resolved⟩
    refine ⟨trivial, ?_⟩
    rintro (error | value) after ⟨admitted, rfl⟩
    · exact rejected error admitted
    · exact resolved value admitted

/-- The notes of an observer on a trace. -/
def notes (enter : Φ → (op : S.Op) → Settled ε (S.Result op) → Φ) (start : Φ)
    (trace : List (Answered S ε))
    : Φ :=
  trace.foldr (fun answered before => enter before answered.op answered.result) start

/-- What a program meets under observation holds of the notes on the trace of every run
whose answers are admitted.
-/
theorem Program.Meets.observed {admits : (op : S.Op) → Settled ε (S.Result op) → Prop}
    {enter : Φ → (op : S.Op) → Settled ε (S.Result op) → Φ} {handler : Handler S ε σ}
    (admitted : ∀ op world, admits op (handler op world).1) {program : Program S ε α}
    {start : Φ} {post : Settled ε α → Φ → Prop} {world : σ}
    (h : program.Meets (Contract.observing admits enter) start post)
    : post (program.run handler world).1
        (notes enter start (program.trace handler world)) := by
  have honoured
      : handler.logged.Honours (Contract.observing admits enter)
          (fun phase world => phase = notes enter start world.2) := by
    rintro phase world op rfl _
    exact ⟨_, ⟨admitted op world.1, rfl⟩, rfl⟩
  obtain ⟨final, reached, rfl⟩ := h.trace honoured rfl
  exact reached

end

end QueueForge.Async
