import QueueForge.Async.Program

/-! Contracts: what a program may assume of the calls it awaits, and what it owes them.
Verification conditions are computed over the program tree, so a contract with a
phase plays the part of an invariant, a typestate or an abstract store.
-/

namespace QueueForge.Async

/-- In phase `phase`, a program may await `op` when `allows phase op`, and then learns
`result` and moves to `after` only when `answers phase op result after`.
-/
structure Contract (S : Signature) (ε Φ : Type) where
  allows : Φ → S.Op → Prop
  answers : Φ → (op : S.Op) → Settled ε (S.Result op) → Φ → Prop

/-- The contract of programs that await no other calls than those with a property. -/
def Contract.only {S : Signature} {ε : Type} (property : S.Op → Prop) : Contract S ε Unit where
  allows _ op := property op
  answers _ _ _ _ := True

namespace Program

variable {S T : Signature} {ε α β Φ Ψ : Type}

/-- Every way the contract lets the program run from `phase` awaits only allowed calls
and settles within `post`.
-/
def Meets (contract : Contract S ε Φ)
    : Program S ε α → Φ → (Settled ε α → Φ → Prop) → Prop
  | done value, phase, post => post (.ok value) phase
  | fail error, phase, post => post (.error error) phase
  | call op rest, phase, post =>
      contract.allows phase op
      ∧ ∀ result after,
          contract.answers phase op result after → (rest result).Meets contract after post

/-- A postcondition on what a program resolves with, which leaves open what it throws. -/
def resolving (post : α → Φ → Prop) : Settled ε α → Φ → Prop :=
  fun outcome after => ∀ value, outcome = .ok value → post value after

theorem resolving_error {post : α → Φ → Prop} (error : ε) (after : Φ)
    : resolving post (.error error) after := by
  intro value same
  cases same

section
variable {contract : Contract S ε Φ} {phase : Φ} {post : Settled ε α → Φ → Prop}

attribute [local simp] Meets

@[simp] theorem meets_done {value : α}
    : (done value : Program S ε α).Meets contract phase post ↔ post (.ok value) phase :=
  Iff.rfl

@[simp] theorem meets_fail {error : ε}
    : (fail error : Program S ε α).Meets contract phase post
      ↔ post (.error error) phase :=
  Iff.rfl

/-- A postcondition may be weakened, by induction on the program. -/
theorem Meets.mono {program : Program S ε α} {weaker : Settled ε α → Φ → Prop}
    (h : program.Meets contract phase post)
    (weaken : ∀ outcome after, post outcome after → weaker outcome after)
    : program.Meets contract phase weaker := by
  induction program generalizing phase with
  | done value => exact weaken _ _ h
  | fail error => exact weaken _ _ h
  | call op rest ih =>
      exact ⟨h.1, fun result after answered => ih result (h.2 result after answered)⟩

@[simp] theorem meets_ofResult {result : Settled ε α}
    : (ofResult result : Program S ε α).Meets contract phase post ↔ post result phase := by
  cases result <;> rfl

/-- Equivalent postconditions are interchangeable, by weakening in both directions. -/
theorem meets_congr {program : Program S ε α} {other : Settled ε α → Φ → Prop}
    (same : ∀ outcome after, post outcome after ↔ other outcome after)
    : program.Meets contract phase post ↔ program.Meets contract phase other :=
  ⟨fun h => h.mono (fun outcome after => (same outcome after).mp),
    fun h => h.mono (fun outcome after => (same outcome after).mpr)⟩

/-- A branch owes the contract in the case that takes it. -/
@[simp] theorem meets_ite {condition : Prop} [Decidable condition]
    {left right : Program S ε α}
    : (if condition then left else right).Meets contract phase post
      ↔ (condition → left.Meets contract phase post)
        ∧ (¬condition → right.Meets contract phase post) := by
  by_cases taken : condition
  · simp [taken]
  · simp [taken]

/-- Sequencing: an exception skips the continuation and keeps the phase it was thrown in.
-/
@[simp] theorem meets_bind {program : Program S ε β} {next : β → Program S ε α}
    : (program.bind next).Meets contract phase post
      ↔ program.Meets contract phase
          (fun outcome after =>
            match outcome with
            | .ok value => (next value).Meets contract after post
            | .error error => post (.error error) after) := by
  induction program generalizing phase with
  | done value => rfl
  | fail error => rfl
  | call op rest ih => simp only [bind, Meets, ih]

@[simp] theorem meets_catchError {program : Program S ε α} {handler : ε → Program S ε α}
    : (program.catchError handler).Meets contract phase post
      ↔ program.Meets contract phase
          (fun outcome after =>
            match outcome with
            | .ok value => post (.ok value) after
            | .error error => (handler error).Meets contract after post) := by
  induction program generalizing phase with
  | done value => rfl
  | fail error => rfl
  | call op rest ih => simp only [catchError, Meets, ih]

@[simp] theorem meets_settle {program : Program S ε β}
    {post : Settled ε (Settled ε β) → Φ → Prop}
    : program.settle.Meets contract phase post
      ↔ program.Meets contract phase (fun outcome after => post (.ok outcome) after) := by
  induction program generalizing phase with
  | done value => rfl
  | fail error => rfl
  | call op rest ih => simp only [settle, Meets, ih]

@[simp] theorem meets_finallyRun {program : Program S ε α} {cleanup : Program S ε Unit}
    : (program.finallyRun cleanup).Meets contract phase post
      ↔ program.Meets contract phase
          (fun outcome after =>
            cleanup.Meets contract after
              (fun cleaned final =>
                match cleaned with
                | .ok _ => post outcome final
                | .error error => post (.error error) final)) := by
  induction program generalizing phase with
  | done value =>
      rw [finallyRun, meets_bind]
      exact meets_congr (fun cleaned final => by cases cleaned <;> rfl)
  | fail error =>
      rw [finallyRun, meets_bind]
      exact meets_congr (fun cleaned final => by cases cleaned <;> rfl)
  | call op rest ih => simp only [finallyRun, Meets, ih]

/-- A cleanup that never throws and leaves the phase alone can be left out of account. -/
theorem Meets.finallyRun {program : Program S ε α} {cleanup : Program S ε Unit}
    (h : program.Meets contract phase post)
    (quiet
      : ∀ phase,
          cleanup.Meets contract phase (fun outcome after => outcome = .ok () ∧ after = phase))
    : (program.finallyRun cleanup).Meets contract phase post := by
  rw [meets_finallyRun]
  refine h.mono ?_
  intro outcome after settled
  refine (quiet after).mono ?_
  rintro _ _ ⟨rfl, rfl⟩
  exact settled

@[simp] theorem meets_perform {op : S.Op} {post : Settled ε (S.Result op) → Φ → Prop}
    : Meets (α := no_index (S.Result op)) contract (perform op) phase post
      ↔ contract.allows phase op
        ∧ ∀ result after, contract.answers phase op result after → post result after := by
  unfold perform
  simp only [Meets]
  refine and_congr_right (fun _ => forall_congr' (fun result => ?_))
  cases result <;> rfl

/-- Sequencing where only what resolves matters: each part is given what the one before it resolves
with.
-/
theorem Meets.followed {program : Program S ε β} {next : β → Program S ε α}
    {middle : β → Φ → Prop} {final : α → Φ → Prop}
    (met : program.Meets contract phase (resolving middle))
    (rest
      : ∀ value after, middle value after → (next value).Meets contract after (resolving final))
    : (program.bind next).Meets contract phase (resolving final) := by
  refine meets_bind.mpr (met.mono (fun outcome after settled => ?_))
  cases outcome with
  | ok value => exact rest value after (settled value rfl)
  | error error => exact resolving_error error after

/-- Two postconditions that each hold separately hold together. -/
theorem Meets.and {program : Program S ε α} {other : Settled ε α → Φ → Prop}
    (left : program.Meets contract phase post) (right : program.Meets contract phase other)
    : program.Meets contract phase
        (fun outcome after => post outcome after ∧ other outcome after) := by
  induction program generalizing phase with
  | done value => exact ⟨left, right⟩
  | fail error => exact ⟨left, right⟩
  | call op rest ih =>
      refine ⟨left.1, fun result after answered => ?_⟩
      exact ih result (left.2 result after answered) (right.2 result after answered)

/-- What the answers of a contract preserve holds of the phase a program ends in, by
induction on the program.
-/
theorem Meets.invariant {program : Program S ε α} {holds : Φ → Prop}
    (h : program.Meets contract phase post)
    (kept
      : ∀ phase op result after,
          holds phase → contract.answers phase op result after → holds after)
    (start : holds phase)
    : program.Meets contract phase (fun outcome after => post outcome after ∧ holds after) := by
  induction program generalizing phase with
  | done value => exact ⟨h, start⟩
  | fail error => exact ⟨h, start⟩
  | call op rest ih =>
      refine ⟨h.1, ?_⟩
      intro result after answered
      exact ih result (h.2 result after answered) (kept phase op result after start answered)

end

/-- Every call a program can come to await has the property. -/
def Awaits (property : S.Op → Prop) (program : Program S ε α) : Prop :=
  program.Meets (.only property) () (fun _ _ => True)

namespace Awaits

variable {property : S.Op → Prop} {program : Program S ε α}

theorem perform {op : S.Op} (h : property op)
    : Awaits (α := no_index (S.Result op)) (ε := ε) property (perform op) := by
  rw [Awaits, meets_perform]
  exact ⟨h, fun _ _ _ => trivial⟩

theorem bind {next : α → Program S ε β} (h : program.Awaits property)
    (rest : ∀ value, (next value).Awaits property)
    : (program.bind next).Awaits property := by
  rw [Awaits, meets_bind]
  refine h.mono ?_
  intro outcome _ _
  cases outcome with
  | ok value => exact rest value
  | error error => trivial

theorem catchError {handler : ε → Program S ε α} (h : program.Awaits property)
    (handled : ∀ error, (handler error).Awaits property)
    : (program.catchError handler).Awaits property := by
  rw [Awaits, meets_catchError]
  refine h.mono ?_
  intro outcome _ _
  cases outcome with
  | ok value => trivial
  | error error => exact handled error

/-- So does a loop over items, by induction on the items. -/
theorem forEach {ι : Type} {body : ι → Program S ε Unit}
    (h : ∀ item, (body item).Awaits property) (items : List ι)
    : (Program.forEach body items).Awaits property := by
  induction items with
  | nil => trivial
  | cons item rest ih => exact bind (h item) (fun _ => ih)

/-- What the calls of a program preserve, the program preserves, by induction on the
program.
-/
theorem meets (h : program.Awaits property) {contract : Contract S ε Φ} {holds : Φ → Prop}
    (allowed : ∀ phase op, holds phase → property op → contract.allows phase op)
    (kept
      : ∀ phase op result after,
          holds phase → property op → contract.answers phase op result after → holds after)
    {phase : Φ} (start : holds phase)
    : program.Meets contract phase (fun _ after => holds after) := by
  induction program generalizing phase with
  | done value => exact start
  | fail error => exact start
  | call op rest ih =>
      refine ⟨allowed phase op start h.1, ?_⟩
      intro result after answered
      exact ih result (h.2 result () trivial) (kept phase op result after start h.1 answered)

end Awaits

/-- Implementing the calls of a program carries its contract down one level.
`matches` relates a phase of the upper contract to one of the lower; each method must
keep the pair related through an answer the upper contract admits.
-/
theorem Meets.implement {upper : Contract S ε Φ} {lower : Contract T ε Ψ}
    {related : Φ → Ψ → Prop} {methods : (op : S.Op) → Program T ε (S.Result op)}
    (sound
      : ∀ phase below op,
          related phase below
          → upper.allows phase op
          → (methods op).Meets lower below
              (fun result after =>
                ∃ next, upper.answers phase op result next ∧ related next after))
    {program : Program S ε α} {phase : Φ} {below : Ψ} {post : Settled ε α → Φ → Prop}
    (h : program.Meets upper phase post) (start : related phase below)
    : (program.implement methods).Meets lower below
        (fun outcome after => ∃ next, post outcome next ∧ related next after) := by
  induction program generalizing phase below with
  | done value => exact ⟨phase, h, start⟩
  | fail error => exact ⟨phase, h, start⟩
  | call op rest ih =>
      simp only [Program.implement, meets_bind, meets_settle]
      refine (sound phase below op start h.1).mono ?_
      rintro result after ⟨next, answered, kept⟩
      exact ih result (h.2 result next answered) kept

end Program

end QueueForge.Async
