import Mathlib.Tactic.Basic

/-! Programs that await calls of a fixed signature and may throw.
A program is the tree of its awaited calls: each call either resolves to a value or
rejects with an exception, and the rest of the program sees which.
-/

namespace QueueForge.Async

/-- A signature lists the calls a program may await and the type each one resolves to. -/
structure Signature where
  Op : Type
  Result : Op → Type

/-- What an awaited call or a whole program settles with: a value or an exception. -/
abbrev Settled (ε α : Type) : Type := Except ε α

/-- A property of every answer is one of every exception and of every value. -/
theorem Settled.forall {ε α : Type} (property : Settled ε α → Prop)
    : (∀ result, property result)
      ↔ (∀ error, property (.error error)) ∧ ∀ value, property (.ok value) := by
  constructor
  · intro holds
    exact ⟨fun error => holds (.error error), fun value => holds (.ok value)⟩
  · intro holds result
    cases result with
    | error error => exact holds.1 error
    | ok value => exact holds.2 value

/-- A sequence settles with a value when both of its parts do. -/
theorem Settled.bind_eq_ok {ε α β : Type} {result : Settled ε α} {next : α → Settled ε β}
    {value : β}
    : (result >>= next) = .ok value
      ↔ ∃ middle, result = .ok middle ∧ next middle = .ok value := by
  cases result with
  | error error =>
      constructor
      · exact nofun
      · rintro ⟨_, resolved, _⟩
        exact nomatch resolved
  | ok middle =>
      constructor
      · exact fun settled => ⟨middle, rfl, settled⟩
      · rintro ⟨_, ⟨⟩, settled⟩
        exact settled

inductive Program (S : Signature) (ε α : Type) : Type where
  | done (value : α)
  | fail (error : ε)
  | call (op : S.Op) (next : Settled ε (S.Result op) → Program S ε α)

namespace Program

variable {S T : Signature} {ε α β γ : Type}

def bind : Program S ε α → (α → Program S ε β) → Program S ε β
  | done value, next => next value
  | fail error, _ => fail error
  | call op rest, next => call op (fun result => (rest result).bind next)

/-- `try { body } catch (error) { handler(error) }`. -/
def catchError : Program S ε α → (ε → Program S ε α) → Program S ε α
  | done value, _ => done value
  | fail error, handler => handler error
  | call op rest, handler => call op (fun result => (rest result).catchError handler)

/-- `try { body } finally { cleanup }`: the cleanup runs however the body settles, and
an exception of the cleanup replaces what the body settled with.
-/
def finallyRun : Program S ε α → Program S ε Unit → Program S ε α
  | done value, cleanup => cleanup.bind (fun _ => done value)
  | fail error, cleanup => cleanup.bind (fun _ => fail error)
  | call op rest, cleanup => call op (fun result => (rest result).finallyRun cleanup)

/-- The body's outcome as a value, so that it can be inspected without a handler. -/
def settle : Program S ε α → Program S ε (Settled ε α)
  | done value => done (.ok value)
  | fail error => done (.error error)
  | call op rest => call op (fun result => (rest result).settle)

instance : Monad (Program S ε) where
  pure := done
  bind := bind

instance : MonadExceptOf ε (Program S ε) where
  throw := fail
  tryCatch := catchError

/-- A synchronous result inside a program. -/
def ofResult : Settled ε α → Program S ε α
  | .ok value => done value
  | .error error => fail error

/-- Await one call of the signature. -/
def perform (op : S.Op) : Program S ε (S.Result op) :=
  call op (fun result => match result with
    | .ok value => done value
    | .error error => fail error)

/-- `for (const item of items) await body(item)`. -/
def forEach {ι : Type} (body : ι → Program S ε Unit) : List ι → Program S ε Unit
  | [] => done ()
  | item :: rest => (body item).bind (fun _ => forEach body rest)

/-- Replace each call of a program by a program over another signature. -/
def implement (methods : (op : S.Op) → Program T ε (S.Result op))
    : Program S ε α → Program T ε α
  | done value => done value
  | fail error => fail error
  | call op rest =>
      (methods op).settle.bind (fun result => (rest result).implement methods)

theorem bind_done (program : Program S ε α) : program.bind done = program := by
  induction program with
  | done value => rfl
  | fail error => rfl
  | call op rest ih => exact congrArg (call op) (funext ih)

theorem bind_assoc (program : Program S ε α) (first : α → Program S ε β)
    (second : β → Program S ε γ)
    : (program.bind first).bind second
      = program.bind (fun value => (first value).bind second) := by
  induction program with
  | done value => rfl
  | fail error => rfl
  | call op rest ih => exact congrArg (call op) (funext ih)

instance : LawfulMonad (Program S ε) :=
  LawfulMonad.mk' (Program S ε) bind_done (fun _ _ => rfl) bind_assoc

@[simp] theorem pure_eq (value : α) : (pure value : Program S ε α) = done value := rfl

@[simp] theorem bind_eq (program : Program S ε α) (next : α → Program S ε β)
    : program >>= next = program.bind next := rfl

@[simp] theorem map_eq (change : α → β) (program : Program S ε α)
    : change <$> program = program.bind (fun value => done (change value)) :=
  rfl

@[simp] theorem throw_eq (error : ε) : (throw error : Program S ε α) = fail error := rfl

@[simp] theorem tryCatch_eq (program : Program S ε α) (handler : ε → Program S ε α)
    : tryCatch program handler = program.catchError handler := rfl

end Program

end QueueForge.Async
