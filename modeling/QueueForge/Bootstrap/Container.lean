import Mathlib.Logic.Function.Basic
import QueueForge.Async.Program
import QueueForge.Async.Throughout
import QueueForge.Js.Errors

/-! The dependency container: synchronous and asynchronous resolution of a registered key share the
instance that is kept for a singleton, and only the asynchronous one knows of a creation that is
still going on.
-/

namespace QueueForge.Bootstrap

open QueueForge.Async QueueForge.Js

variable {α : Type}

/-- What a factory returns: a value, `none` for `undefined`, or a promise, which resolves with one
or never does.
-/
inductive Returned (α : Type) where
  | value (returned : Option α)
  | promise (resolvesWith : Option (Option α))

/-- What waiting for it gives. -/
def Returned.awaited : Returned α → Option (Option α)
  | value returned => some returned
  | promise resolvesWith => resolvesWith

/-- What a caller may receive: a value, or the promise that an invocation of the factory returned.
-/
inductive Instance (α : Type) where
  | value (held : Option α)
  | promise (invocation : Nat)

namespace Instance

def isUndefined : Instance α → Bool
  | value held => held.isNone
  | promise _ => false

end Instance

def Returned.toInstance (invocation : Nat) : Returned α → Instance α
  | value returned => .value returned
  | promise _ => .promise invocation

/-- The promise of a creation, and whether its callback has run. -/
structure Creation where
  invocation : Nat
  settled : Bool

/-- A registration. Its factory is given by what each of its invocations returns, and `invoked`
counts them.
-/
structure ServiceRegistration (α : Type) where
  factory : Nat → Returned α
  isAsync : Bool
  singleton : Bool
  invoked : Nat := 0
  stored : Instance α := .value none
  promise : Option Creation := none

/-- What an `async` function that returns the instance resolves with. -/
def ServiceRegistration.awaited (reg : ServiceRegistration α) : Instance α → Option (Option α)
  | .value held => some held
  | .promise invocation => (reg.factory invocation).awaited

/-- The registrations of a container by their keys. -/
abbrev Container (α : Type) : Type := String → Option (ServiceRegistration α)

namespace Container

def set (services : Container α) (key : String) (reg : ServiceRegistration α) : Container α :=
  Function.update services key (some reg)

/-- Registers a synchronous factory dependency. -/
def register (services : Container α) (key : String) (factory : Nat → Returned α)
    (singleton : Bool := true)
    : Container α :=
  services.set key { factory, isAsync := false, singleton }

/-- Registers an asynchronous factory dependency. -/
def registerAsync (services : Container α) (key : String) (factory : Nat → Returned α)
    (singleton : Bool := true)
    : Container α :=
  services.set key { factory, isAsync := true, singleton }

def notRegistered (key : String) : Thrown :=
  newError s!"Dependency \"{key}\" is not registered in the DI Container"

def isAsynchronous (key : String) : Thrown :=
  newError s!"Dependency \"{key}\" is asynchronous. Use getAsync() instead."

/-- Retrieves synchronous dependency by registration key. -/
def get (services : Container α) (key : String) : Settled Thrown (Instance α) × Container α :=
  match services key with
  | none => (.error (notRegistered key), services)
  | some reg =>
      let created := (reg.factory reg.invoked).toInstance reg.invoked
      let invoked := reg.invoked + 1
      if reg.isAsync then
        (.error (isAsynchronous key), services)
      else if reg.singleton then
        if reg.stored.isUndefined then
          (.ok created, services.set key { reg with invoked, stored := created })
        else
          (.ok reg.stored, services)
      else
        (.ok created, services.set key { reg with invoked })

/-- Retrieves asynchronous dependency by registration key. Its promise rejects at once, or resolves
with a value as soon as what it waits for does, which may be never.
-/
def getAsync (services : Container α) (key : String)
    : Settled Thrown (Option (Option α)) × Container α :=
  match services key with
  | none => (.error (notRegistered key), services)
  | some reg =>
      let created := (reg.factory reg.invoked).awaited
      let invoked := reg.invoked + 1
      if reg.singleton then
        if reg.stored.isUndefined then
          match reg.promise with
          | some creation => (.ok (reg.factory creation.invocation).awaited, services)
          | none =>
              (.ok created, services.set key { reg with invoked, promise := some ⟨reg.invoked, false⟩ })
        else
          (.ok (reg.awaited reg.stored), services)
      else
        (.ok created, services.set key { reg with invoked })

/-- The callback of a pending creation, which runs when what the factory returned has resolved. -/
def creationResolved (services : Container α) (key : String) : Container α :=
  match services key with
  | none => services
  | some reg =>
      match reg.promise with
      | some ⟨invocation, false⟩ =>
          match (reg.factory invocation).awaited with
          | some held =>
              services.set key
                { reg with stored := .value held, promise := some ⟨invocation, true⟩ }
          | none => services
      | _ => services

end Container

/-- What may happen to a key. -/
inductive ResolutionEvent where
  | get
  | getAsync
  | creationResolved

/-- A container, and what the callers of a key have received from it or are going to. -/
structure Resolution (α : Type) where
  services : Container α
  received : List (Instance α)

namespace Resolution

def step (key : String) : ResolutionEvent → Resolution α → Resolution α
  | .get, state =>
      let (answer, services) := state.services.get key
      match answer with
      | .ok received => { services, received := received :: state.received }
      | .error _ => { state with services }
  | .getAsync, state =>
      let (answer, services) := state.services.getAsync key
      match answer with
      | .ok (some held) => { services, received := .value held :: state.received }
      | .ok none => { state with services }
      | .error _ => { state with services }
  | .creationResolved, state => { state with services := state.services.creationResolved key }

/-- The factory is invoked at most once and all callers receive the same instance. -/
def SingleInstance (key : String) (state : Resolution α) : Prop :=
  (∀ reg, state.services key = some reg → reg.invoked ≤ 1)
  ∧ ∀ first ∈ state.received, ∀ second ∈ state.received, first = second

/-- A call finds a kept instance, or the factory has not been invoked. An asynchronous one may also
find a creation, and the kept instance is not a promise, which it would wait for.
-/
def Served (key : String) (event : ResolutionEvent) (state : Resolution α) : Prop :=
  ∀ reg, state.services key = some reg →
    match event with
    | .get => reg.isAsync = true ∨ reg.stored.isUndefined = false ∨ reg.invoked = 0
    | .getAsync =>
        (reg.stored.isUndefined = false ∨ reg.promise.isSome = true ∨ reg.invoked = 0)
        ∧ ∀ invocation,
            reg.stored = .promise invocation → (reg.factory invocation).awaited = none
    | .creationResolved => True

-----------------------------------------------------------------------------------------
-- What one call does
-----------------------------------------------------------------------------------------

section
variable {key : String} {state : Resolution α} {reg : ServiceRegistration α}

theorem step_get_asynchronous (registered : state.services key = some reg)
    (isAsync : reg.isAsync = true)
    : step key .get state = state := by
  simp only [step, Container.get, registered, isAsync, if_true]

theorem step_get_kept (registered : state.services key = some reg) (isSync : reg.isAsync = false)
    (singleton : reg.singleton = true) (kept : reg.stored.isUndefined = false)
    : step key .get state = { state with received := reg.stored :: state.received } := by
  simp only [step, Container.get, registered, isSync, singleton, kept, if_true, if_false,
    Bool.false_eq_true]

/-- Without a kept instance the factory is invoked. -/
theorem step_get_invokes (registered : state.services key = some reg)
    (isSync : reg.isAsync = false) (singleton : reg.singleton = true)
    (missing : reg.stored.isUndefined = true)
    : let created := (reg.factory reg.invoked).toInstance reg.invoked
      step key .get state
      = {
          services :=
            state.services.set key { reg with invoked := reg.invoked + 1, stored := created }
          received := created :: state.received
        } := by
  simp only [step, Container.get, registered, isSync, singleton, missing, if_true, if_false,
    Bool.false_eq_true]

/-- What a caller receives when the promise it waits for resolves. -/
def receive (resolves : Option (Option α)) (received : List (Instance α)) : List (Instance α) :=
  match resolves with
  | some held => .value held :: received
  | none => received

theorem step_getAsync_kept (registered : state.services key = some reg)
    (singleton : reg.singleton = true) (kept : reg.stored.isUndefined = false)
    : step key .getAsync state
      = { state with received := receive (reg.awaited reg.stored) state.received } := by
  simp only [step, Container.getAsync, registered, singleton, kept, if_true, if_false,
    Bool.false_eq_true]
  cases reg.awaited reg.stored <;> rfl

theorem step_getAsync_pending (registered : state.services key = some reg)
    (singleton : reg.singleton = true) (missing : reg.stored.isUndefined = true)
    {creation : Creation} (pending : reg.promise = some creation)
    : step key .getAsync state
      = {
          state with
          received := receive (reg.factory creation.invocation).awaited state.received
        } := by
  simp only [step, Container.getAsync, registered, singleton, missing, pending, if_true]
  cases (reg.factory creation.invocation).awaited <;> rfl

/-- Without a kept instance and a creation the factory is invoked. -/
theorem step_getAsync_invokes (registered : state.services key = some reg)
    (singleton : reg.singleton = true) (missing : reg.stored.isUndefined = true)
    (none : reg.promise = none)
    : step key .getAsync state
      = {
          services :=
            state.services.set key
              { reg with invoked := reg.invoked + 1, promise := some ⟨reg.invoked, false⟩ }
          received := receive (reg.factory reg.invoked).awaited state.received
        } := by
  simp only [step, Container.getAsync, registered, singleton, missing, none, if_true]
  cases (reg.factory reg.invoked).awaited <;> rfl

/-- Nothing happens when no creation goes on, or its promise does not resolve. -/
theorem step_creationResolved_idle (registered : state.services key = some reg)
    (idle
      : ∀ invocation,
          reg.promise = some ⟨invocation, false⟩ → (reg.factory invocation).awaited = none)
    : step key .creationResolved state = state := by
  simp only [step, Container.creationResolved, registered]
  rcases pending : reg.promise with _ | ⟨invocation, _ | _⟩
  · rfl
  · simp only [idle invocation pending]
  · rfl

theorem step_creationResolved (registered : state.services key = some reg) {invocation : Nat}
    (pending : reg.promise = some ⟨invocation, false⟩) {held : Option α}
    (resolves : (reg.factory invocation).awaited = some held)
    : step key .creationResolved state
      = {
          state with
          services :=
            state.services.set key
              { reg with stored := .value held, promise := some ⟨invocation, true⟩ }
        } := by
  simp only [step, Container.creationResolved, registered, pending, resolves]

theorem mem_receive {resolves : Option (Option α)} {received : List (Instance α)}
    {one : Instance α}
    : one ∈ receive resolves received
      ↔ (∃ held, resolves = some held ∧ one = .value held) ∨ one ∈ received := by
  cases resolves with
  | none => simp [receive]
  | some held => simp [receive]

end

-----------------------------------------------------------------------------------------
-- Where the instance comes from
-----------------------------------------------------------------------------------------

/-- A key of a singleton that has been served well: what has been received since the registration
is what the one invocation of the factory gave, by a synchronous call or by an asynchronous one,
whose creation may still be going on.
-/
inductive WellServed (factory : Nat → Returned α) (isAsync : Bool)
    : ServiceRegistration α → List (Instance α) → Prop where
  | untouched : WellServed factory isAsync { factory, isAsync, singleton := true } []
  | synchronous {received : List (Instance α)} (isSync : isAsync = false)
      (some : (factory 0).toInstance 0 ∈ received)
      (same : ∀ one ∈ received, one = (factory 0).toInstance 0)
      : WellServed factory isAsync
          {
            factory, isAsync, singleton := true
            invoked := 1
            stored := (factory 0).toInstance 0
          }
          received
  | pending {received : List (Instance α)}
      (same : ∀ one ∈ received, ∃ held, (factory 0).awaited = some held ∧ one = .value held)
      : WellServed factory isAsync
          { factory, isAsync, singleton := true, invoked := 1, promise := some ⟨0, false⟩ }
          received
  | settled {received : List (Instance α)} {held : Option α}
      (resolved : (factory 0).awaited = some held)
      (same : ∀ one ∈ received, one = .value held)
      : WellServed factory isAsync
          {
            factory, isAsync, singleton := true
            invoked := 1
            stored := .value held
            promise := some ⟨0, true⟩
          }
          received

/-- A state in which the key has been served well. -/
def Kept (factory : Nat → Returned α) (isAsync : Bool) (key : String) (state : Resolution α)
    : Prop :=
  ∃ reg, state.services key = some reg ∧ WellServed factory isAsync reg state.received

section
variable {factory : Nat → Returned α} {isAsync : Bool} {key : String} {state : Resolution α}
  {reg : ServiceRegistration α}

theorem WellServed.singleton {received : List (Instance α)}
    (well : WellServed factory isAsync reg received)
    : reg.singleton = true := by
  cases well <;> rfl

theorem WellServed.invoked_le {received : List (Instance α)}
    (well : WellServed factory isAsync reg received)
    : reg.invoked ≤ 1 := by
  cases well with
  | untouched => exact Nat.zero_le 1
  | synchronous | pending | settled => exact Nat.le_refl 1

/-- All that has been received is one instance. -/
theorem WellServed.same {received : List (Instance α)}
    (well : WellServed factory isAsync reg received)
    : ∀ first ∈ received, ∀ second ∈ received, first = second := by
  intro first memFirst second memSecond
  cases well with
  | untouched => exact absurd memFirst List.not_mem_nil
  | synchronous _ _ same | settled _ same =>
      exact (same first memFirst).trans (same second memSecond).symm
  | pending same =>
      obtain ⟨held, resolved, rfl⟩ := same first memFirst
      obtain ⟨other, again, rfl⟩ := same second memSecond
      rw [Option.some.inj (resolved.symm.trans again)]

theorem Kept.singleInstance (kept : Kept factory isAsync key state) : SingleInstance key state := by
  obtain ⟨reg, registered, well⟩ := kept
  refine ⟨fun other same => ?_, well.same⟩
  rw [← Option.some.inj (registered.symm.trans same)]
  exact well.invoked_le

theorem kept_set {services : Container α} {received : List (Instance α)}
    (well : WellServed factory isAsync reg received)
    : Kept factory isAsync key { services := services.set key reg, received } :=
  ⟨reg, Function.update_self .., well⟩

/-- A served synchronous call, by where the instance comes from. -/
theorem Kept.get (kept : Kept factory isAsync key state) (served : Served key .get state)
    : Kept factory isAsync key (step key .get state) := by
  obtain ⟨services, received⟩ := state
  obtain ⟨reg, registered, well⟩ := kept
  have found := served reg registered
  cases asynchronous : reg.isAsync with
  | true =>
      rw [step_get_asynchronous registered asynchronous]
      exact ⟨reg, registered, well⟩
  | false =>
      cases missing : reg.stored.isUndefined with
      | false =>
          rw [step_get_kept registered asynchronous well.singleton missing]
          refine ⟨reg, registered, ?_⟩
          cases well with
          | untouched | pending => exact nomatch missing
          | synchronous isSync some same =>
              exact .synchronous isSync (.tail _ some) (List.forall_mem_cons.mpr ⟨rfl, same⟩)
          | settled resolved same =>
              exact .settled resolved (List.forall_mem_cons.mpr ⟨rfl, same⟩)
      | true =>
          have first : reg.invoked = 0 := by simpa [asynchronous, missing] using found
          rw [step_get_invokes registered asynchronous well.singleton missing]
          apply kept_set
          cases well with
          | untouched => exact .synchronous asynchronous (.head _) (by simp)
          | synchronous | pending | settled => exact nomatch first

/-- A kept instance is what all callers have received; if it is a promise, it does not resolve. -/
theorem WellServed.receive_stored {received : List (Instance α)}
    (well : WellServed factory isAsync reg received) (kept : reg.stored.isUndefined = false)
    (noPromise
      : ∀ invocation,
          reg.stored = .promise invocation → (reg.factory invocation).awaited = none)
    : WellServed factory isAsync reg (receive (reg.awaited reg.stored) received) := by
  cases well with
  | untouched | pending => exact nomatch kept
  | settled resolved same => exact .settled resolved (List.forall_mem_cons.mpr ⟨rfl, same⟩)
  | synchronous isSync some same =>
      refine .synchronous isSync (mem_receive.mpr (.inr some)) ?_
      intro one mem
      rcases mem_receive.mp mem with ⟨held, resolves, rfl⟩ | before
      · cases created : factory 0 with
        | value returned =>
            rw [created] at resolves
            rw [← Option.some.inj resolves]
            rfl
        | promise resolvesWith =>
            have never := noPromise 0 (by rw [created]; rfl)
            rw [created] at resolves
            rw [created] at never
            exact nomatch never.symm.trans resolves
      · exact same one before

/-- The promise of a creation gives what all callers have received. -/
theorem WellServed.receive_creation {received : List (Instance α)}
    (well : WellServed factory isAsync reg received) {creation : Creation}
    (pending : reg.promise = some creation)
    : WellServed factory isAsync reg
        (receive (reg.factory creation.invocation).awaited received) := by
  cases well with
  | untouched | synchronous => exact nomatch pending
  | pending same =>
      cases pending
      refine .pending ?_
      intro one mem
      exact (mem_receive.mp mem).elim id (same one)
  | settled resolved same =>
      cases pending
      refine .settled resolved ?_
      intro one mem
      rcases mem_receive.mp mem with ⟨held, again, rfl⟩ | before
      · rw [Option.some.inj (again.symm.trans resolved)]
      · exact same one before

/-- A served asynchronous call, by what it waits for. -/
theorem Kept.getAsync (kept : Kept factory isAsync key state) (served : Served key .getAsync state)
    : Kept factory isAsync key (step key .getAsync state) := by
  obtain ⟨services, received⟩ := state
  obtain ⟨reg, registered, well⟩ := kept
  obtain ⟨found, noPromise⟩ := served reg registered
  cases missing : reg.stored.isUndefined with
  | false =>
      rw [step_getAsync_kept registered well.singleton missing]
      exact ⟨reg, registered, well.receive_stored missing noPromise⟩
  | true =>
      cases pending : reg.promise with
      | some creation =>
          rw [step_getAsync_pending registered well.singleton missing pending]
          exact ⟨reg, registered, well.receive_creation pending⟩
      | none =>
          have first : reg.invoked = 0 := by simpa [missing, pending] using found
          rw [step_getAsync_invokes registered well.singleton missing pending]
          apply kept_set
          cases well with
          | untouched =>
              refine .pending ?_
              intro one mem
              exact (mem_receive.mp mem).elim id (fun before => absurd before List.not_mem_nil)
          | synchronous | pending | settled => exact nomatch first

/-- The callback of a creation keeps what its promise has given. -/
theorem Kept.creationResolved (kept : Kept factory isAsync key state)
    : Kept factory isAsync key (step key .creationResolved state) := by
  obtain ⟨services, received⟩ := state
  obtain ⟨reg, registered, well⟩ := kept
  cases resolves : (factory 0).awaited with
  | none =>
      have idle (invocation : Nat) (pending : reg.promise = some ⟨invocation, false⟩)
          : (reg.factory invocation).awaited = none := by
        cases well with
        | untouched | synchronous | settled => exact nomatch pending
        | pending =>
            cases pending
            exact resolves
      rw [step_creationResolved_idle registered idle]
      exact ⟨reg, registered, well⟩
  | some held =>
      cases well with
      | untouched | synchronous | settled =>
          rw [step_creationResolved_idle registered (fun _ pending => nomatch pending)]
          exact ⟨_, registered, by constructor <;> assumption⟩
      | pending same =>
          rw [step_creationResolved registered rfl resolves]
          apply kept_set
          refine .settled resolves ?_
          intro one mem
          obtain ⟨other, again, rfl⟩ := same one mem
          rw [Option.some.inj (again.symm.trans resolves)]

/-- What has been invoked once more had not been invoked. -/
theorem SingleInstance.first {services : Container α} {received : List (Instance α)}
    (single : SingleInstance key { services := services.set key reg, received }) {before : Nat}
    (invoked : reg.invoked = before + 1)
    : before = 0 := by
  have once := single.1 reg (Function.update_self ..)
  omega

/-- A step that leaves one instance was served. -/
theorem Kept.served {event : ResolutionEvent} (kept : Kept factory isAsync key state)
    (single : SingleInstance key (step key event state))
    : Served key event state := by
  obtain ⟨services, received⟩ := state
  obtain ⟨reg, registered, well⟩ := kept
  intro other same
  obtain rfl := Option.some.inj (registered.symm.trans same)
  cases event with
  | creationResolved => trivial
  | get =>
      cases asynchronous : reg.isAsync with
      | true => exact .inl rfl
      | false =>
          cases missing : reg.stored.isUndefined with
          | false => exact .inr (.inl rfl)
          | true =>
              rw [step_get_invokes registered asynchronous well.singleton missing] at single
              exact .inr (.inr (single.first rfl))
  | getAsync =>
      constructor
      · cases missing : reg.stored.isUndefined with
        | false => exact .inl rfl
        | true =>
            cases pending : reg.promise with
            | some creation => exact .inr (.inl rfl)
            | none =>
                rw [step_getAsync_invokes registered well.singleton missing pending] at single
                exact .inr (.inr (single.first rfl))
      · intro invocation promised
        have kept : reg.stored.isUndefined = false := by rw [promised]; rfl
        cases resolves : (reg.factory invocation).awaited with
        | none => rfl
        | some held =>
            rw [step_getAsync_kept registered well.singleton kept, promised,
              ServiceRegistration.awaited, resolves] at single
            cases well with
            | untouched | pending | settled => exact nomatch promised
            | synchronous _ some _ =>
                have mixed := single.2 _ (.head _) _ (.tail _ some)
                exact nomatch mixed.trans promised

/-- A served step keeps where the instance comes from. -/
theorem Kept.step {event : ResolutionEvent} (kept : Kept factory isAsync key state)
    (served : Served key event state)
    : Kept factory isAsync key (step key event state) := by
  cases event with
  | get => exact kept.get served
  | getAsync => exact kept.getAsync served
  | creationResolved => exact kept.creationResolved

/-- Every call of an asynchronous dependency is served: only `getAsync` creates it. -/
theorem Kept.served_of_asynchronous (kept : Kept factory true key state) (event : ResolutionEvent)
    : Served key event state := by
  obtain ⟨services, received⟩ := state
  obtain ⟨reg, registered, well⟩ := kept
  intro other same
  obtain rfl := Option.some.inj (registered.symm.trans same)
  cases well with
  | synchronous isSync => exact nomatch isSync
  | untouched =>
      cases event with
      | get => exact .inl rfl
      | getAsync => exact ⟨.inr (.inr rfl), fun _ promised => nomatch promised⟩
      | creationResolved => trivial
  | pending | settled =>
      cases event with
      | get => exact .inl rfl
      | getAsync => exact ⟨.inr (.inl rfl), fun _ promised => nomatch promised⟩
      | creationResolved => trivial

end

/-- A container in which the key has just been registered as a singleton. -/
def registered (services : Container α) (key : String) (factory : Nat → Returned α)
    (isAsync : Bool)
    : Resolution α where
  services :=
    if isAsync then services.registerAsync key factory else services.register key factory
  received := []

theorem kept_registered (services : Container α) (key : String) (factory : Nat → Returned α)
    (isAsync : Bool)
    : Kept factory isAsync key (registered services key factory isAsync) := by
  cases isAsync with
  | true => exact kept_set .untouched
  | false => exact kept_set .untouched

/-- All calls of an asynchronous dependency get one instance. By induction on the events. -/
theorem asynchronous_single_instance (services : Container α) (key : String)
    (factory : Nat → Returned α) (events : List ResolutionEvent)
    : Throughout (step key) (SingleInstance key) events
        (registered services key factory true) := by
  have served (state : Resolution α) (kept : Kept factory true key state)
      : EveryStep (step key) (Served key) events state := by
    induction events generalizing state with
    | nil => trivial
    | cons event rest ih =>
        have now := kept.served_of_asynchronous event
        exact ⟨now, ih _ (kept.step now)⟩
  exact (throughout_iff_everyStep (fun _ kept => kept.singleInstance) (fun _ _ kept => kept.step)
    (fun _ _ kept => kept.served) events (kept_registered services key factory true)).mpr
    (served _ (kept_registered services key factory true))

/-- The calls of a key get one instance of one invocation exactly when each of them is served. -/
theorem single_instance_iff (services : Container α) (key : String) (factory : Nat → Returned α)
    (isAsync : Bool) (events : List ResolutionEvent)
    : Throughout (step key) (SingleInstance key) events (registered services key factory isAsync)
      ↔ EveryStep (step key) (Served key) events (registered services key factory isAsync) :=
  throughout_iff_everyStep (fun _ kept => kept.singleInstance) (fun _ _ kept => kept.step)
    (fun _ _ kept => kept.served) events (kept_registered services key factory isAsync)

/-- A synchronous call does not see the creation that an asynchronous one has begun. -/
theorem creation_repeated
    : ¬∀ (α : Type) (services : Container α) (key : String) (factory : Nat → Returned α)
        (isAsync : Bool) (events : List ResolutionEvent),
        Throughout (step key) (SingleInstance key) events
          (registered services key factory isAsync) := by
  intro single
  let factory (invocation : Nat) : Returned Nat := .value (some invocation)
  have both :=
    single Nat (fun _ => none) "logger" factory false [.getAsync, .get] [.getAsync, .get]
      (List.prefix_refl _)
  let created : ServiceRegistration Nat := {
    factory
    isAsync := false
    singleton := true
    invoked := 2
    stored := .value (some 1)
    promise := some ⟨0, false⟩
  }
  exact absurd (both.1 created rfl) (by decide)

end Resolution

end QueueForge.Bootstrap
