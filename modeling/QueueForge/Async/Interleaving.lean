import Mathlib.Algebra.GroupWithZero.Nat
import Mathlib.Logic.Function.Basic
import Mathlib.Logic.Relation
import QueueForge.Async.Execution

/-! Processes that interleave at their awaited calls over one shared world.
Each process owes a contract of its own; a global invariant ties the phases of all
processes to the world and is preserved by any schedule.
-/

namespace QueueForge.Async

/-- The number of processes in most examples. -/
instance two_neZero : NeZero 2 := ⟨Nat.succ_ne_zero 1⟩

/-- What is left to run of each process, and the world they share. -/
structure Configuration (S : Signature) (ε ι α σ : Type) where
  process : ι → Program S ε α
  world : σ

namespace Configuration

variable {S : Signature} {ε ι α σ : Type} [DecidableEq ι]

/-- Whether a process has settled. -/
def hasSettled (config : Configuration S ε ι α σ) (i : ι) : Bool :=
  match config.process i with
  | .call _ _ => false
  | _ => true

/-- The chosen process awaits its next call; a settled process stays as it is. -/
def advance (handlers : ι → Handler S ε σ) (config : Configuration S ε ι α σ) (chosen : ι)
    : Configuration S ε ι α σ :=
  match config.process chosen with
  | .call op rest => {
      process :=
        Function.update config.process chosen (rest (handlers chosen op config.world).1)
      world := (handlers chosen op config.world).2
    }
  | _ => config

/-- Run a schedule: the process that moves at each step, in order. -/
def follow (handlers : ι → Handler S ε σ) (config : Configuration S ε ι α σ)
    (schedule : List ι)
    : Configuration S ε ι α σ :=
  schedule.foldl (advance handlers) config

/-- One call of one process, taken at a moment the schedule permits it. -/
inductive Step (handlers : ι → Handler S ε σ) (permits : σ → ι → S.Op → Prop)
    : Configuration S ε ι α σ → Configuration S ε ι α σ → Prop
  | await {config chosen op rest} (next : config.process chosen = .call op rest)
    (permitted : permits config.world chosen op)
    : Step handlers permits config (config.advance handlers chosen)

/-- The configurations some permitted schedule leads to. -/
abbrev Reachable (handlers : ι → Handler S ε σ) (permits : σ → ι → S.Op → Prop)
    (start config : Configuration S ε ι α σ)
    : Prop :=
  Relation.ReflTransGen (Step handlers permits) start config

/-- Advancing a process that awaits a call gives the call's answer to that process. -/
theorem advance_call {handlers : ι → Handler S ε σ} {config : Configuration S ε ι α σ}
    {chosen : ι} {op : S.Op} {rest : Settled ε (S.Result op) → Program S ε α}
    (next : config.process chosen = .call op rest)
    : config.advance handlers chosen
      = {
          process :=
            Function.update config.process chosen
              (rest (handlers chosen op config.world).1)
          world := (handlers chosen op config.world).2
        } := by
  unfold advance
  rw [next]

/-- Whether a schedule is permitted: every call it awaits is. -/
def permitted (handlers : ι → Handler S ε σ) (permits : σ → ι → S.Op → Prop)
    [∀ world i op, Decidable (permits world i op)]
    : Configuration S ε ι α σ → List ι → Bool
  | _, [] => true
  | config, chosen :: rest =>
      (match config.process chosen with
        | .call op _ => decide (permits config.world chosen op)
        | _ => true)
      && (config.advance handlers chosen).permitted handlers permits rest

/-- A permitted schedule is a run, by induction on its length. -/
theorem reachable_follow {handlers : ι → Handler S ε σ} {permits : σ → ι → S.Op → Prop}
    [∀ world i op, Decidable (permits world i op)] (schedule : List ι)
    (config : Configuration S ε ι α σ)
    (admitted : config.permitted handlers permits schedule = true)
    : Reachable handlers permits config (config.follow handlers schedule) := by
  induction schedule generalizing config with
  | nil => exact .refl
  | cons chosen rest ih =>
      rw [permitted, Bool.and_eq_true] at admitted
      refine .trans ?_ (ih (config.advance handlers chosen) admitted.2)
      have now := admitted.1
      cases found : config.process chosen with
      | done value => simp only [advance, found]; exact .refl
      | fail error => simp only [advance, found]; exact .refl
      | call op next =>
          rw [found] at now
          exact .single (.await found (of_decide_eq_true now))

/-- Processes that meet their contracts keep a global invariant over every schedule, when
each allowed and permitted call has an answer its contract admits that keeps it.
Witness: induction on the run; only the chosen process changes phase.
-/
theorem Reachable.invariant {Φ : ι → Type} {handlers : ι → Handler S ε σ}
    {permits : σ → ι → S.Op → Prop} {contracts : (i : ι) → Contract S ε (Φ i)}
    {post : (i : ι) → Settled ε α → Φ i → Prop}
    {invariant : ((i : ι) → Φ i) → σ → Prop}
    (kept
      : ∀ phases world i op,
          invariant phases world
          → (contracts i).allows (phases i) op
          → permits world i op
          → ∃ next,
              (contracts i).answers (phases i) op (handlers i op world).1 next
              ∧ invariant (Function.update phases i next) (handlers i op world).2)
    {start config : Configuration S ε ι α σ} {initial : (i : ι) → Φ i}
    (met : ∀ i, (start.process i).Meets (contracts i) (initial i) (post i))
    (holds : invariant initial start.world)
    (reached : Reachable handlers permits start config)
    : ∃ phases,
        (∀ i, (config.process i).Meets (contracts i) (phases i) (post i))
        ∧ invariant phases config.world := by
  induction reached with
  | refl => exact ⟨initial, met, holds⟩
  | tail _ step ih =>
      obtain ⟨phases, owed, held⟩ := ih
      cases step with
      | @await chosen op rest next permitted =>
          have here := owed chosen
          rw [next] at here
          obtain ⟨after, answered, preserved⟩ :=
            kept phases _ chosen op held here.1 permitted
          refine ⟨Function.update phases chosen after, ?_, ?_⟩
          · intro i
            rw [advance_call next]
            by_cases same : i = chosen
            · subst same
              simpa only [Function.update_self] using here.2 _ after answered
            · simpa only [Function.update_of_ne same] using owed i
          · rw [advance_call next]
            exact preserved

end Configuration

section
variable {ι Φ : Type} [DecidableEq ι] {phases : ι → Φ} {moving : ι} {next : Φ}

/-- What is true of one process at most stays so when a process moves on, if that makes it true of
this process only while it is true of no other.
-/
theorem atMostOne_update (busy : ι → Φ → Prop)
    (alone : ∀ one other, busy one (phases one) → busy other (phases other) → one = other)
    (only : busy moving next → ∀ other, busy other (phases other) → moving = other)
    (one other : ι) (first : busy one (Function.update phases moving next one))
    (second : busy other (Function.update phases moving next other))
    : one = other := by
  by_cases here : one = moving
  · subst here
    by_cases too : other = one
    · exact too.symm
    · rw [Function.update_self] at first
      rw [Function.update_of_ne too] at second
      exact only first other second
  · rw [Function.update_of_ne here] at first
    by_cases there : other = moving
    · subst there
      rw [Function.update_self] at second
      exact (only second one first).symm
    · rw [Function.update_of_ne there] at second
      exact alone one other first second

/-- The phases that a trace tells go on with each of its entries. -/
theorem update_eq_foldr {ρ : Type} {caller : ρ → ι} {enter : Φ → ρ → Φ} {start : Φ} {trace : List ρ}
    (told
      : ∀ i,
          phases i
          = trace.foldr
            (fun entry phase => if caller entry = i then enter phase entry else phase) start)
    (entry : ρ) (i : ι)
    : Function.update phases (caller entry) (enter (phases (caller entry)) entry) i
      = (entry :: trace).foldr
        (fun entry phase => if caller entry = i then enter phase entry else phase) start := by
  rw [List.foldr_cons, ← told i]
  by_cases same : i = caller entry
  · subst same
    rw [Function.update_self, if_pos rfl]
  · rw [Function.update_of_ne same, if_neg (Ne.symm same)]

end

end QueueForge.Async
