import QueueForge.Async.Contract

/-! Straight-line programs: a fixed list of calls, awaited in order up to the first that
rejects. What such a program leaves behind is told by the prefix of calls it got through.
-/

namespace QueueForge.Async.Program

variable {S : Signature} {ε Φ : Type}

/-- The program awaits these calls in order and throws what the first rejection carries. -/
def Performs : List S.Op → Program S ε Unit → Prop
  | [], program => program = done ()
  | op :: rest, program =>
      ∃ next,
        program = call op next
        ∧ (∀ error, next (.error error) = fail error)
        ∧ ∀ value, Performs rest (next (.ok value))

theorem performs_done : Performs [] (done () : Program S ε Unit) :=
  rfl

/-- Sequencing concatenates the calls, by induction on the first list. -/
theorem Performs.bind {first second : List S.Op} {program rest : Program S ε Unit}
    (head : Performs first program) (tail : Performs second rest)
    : Performs (first ++ second) (program.bind (fun _ => rest)) := by
  induction first generalizing program with
  | nil =>
      subst head
      exact tail
  | cons op others ih =>
      obtain ⟨next, rfl, rejected, resolved⟩ := head
      refine ⟨fun result => (next result).bind (fun _ => rest), rfl, ?_, ?_⟩
      · intro error
        simp only [rejected, Program.bind]
      · intro value
        exact ih (resolved value)

/-- A loop performs the calls of its rounds one after the other. -/
theorem performs_forEach {ι : Type} {body : ι → Program S ε Unit} {calls : ι → List S.Op}
    (each : ∀ item, Performs (calls item) (body item)) (items : List ι)
    : Performs (items.flatMap calls) (forEach body items) := by
  induction items with
  | nil => exact performs_done
  | cons item rest ih => exact (each item).bind ih

/-- The rule of straight-line programs: a property of the prefix performed so far and the
phase, kept by every call that resolves. By induction on the calls still to come.
-/
theorem Performs.meets {contract : Contract S ε Φ} {calls : List S.Op}
    {program : Program S ε Unit} (performs : Performs calls program)
    (reached : List S.Op → Φ → Prop) {post : Settled ε Unit → Φ → Prop}
    (step
      : ∀ earlier op later phase,
          calls = earlier ++ op :: later
          → reached earlier phase
          → contract.allows phase op
            ∧ (∀ value after,
                contract.answers phase op (.ok value) after
                → reached (earlier ++ [op]) after)
            ∧ ∀ error after,
                contract.answers phase op (.error error) after
                → post (.error error) after)
    (finish : ∀ phase, reached calls phase → post (.ok ()) phase) {phase : Φ}
    (start : reached [] phase)
    : program.Meets contract phase post := by
  -- `later` is what the rest of the program performs, `earlier` what it has performed.
  suffices general
      : ∀ later earlier program phase,
          calls = earlier ++ later
          → Performs later program
          → reached earlier phase
          → program.Meets contract phase post from
    general calls [] program phase rfl performs start
  clear performs start
  intro later
  induction later with
  | nil =>
      rintro earlier program phase split rfl holds
      rw [List.append_nil] at split
      exact finish phase (split ▸ holds)
  | cons op rest ih =>
      rintro earlier _ phase split ⟨next, rfl, rejected, resolved⟩ holds
      obtain ⟨allowed, onward, stopped⟩ := step earlier op rest phase split holds
      refine ⟨allowed, ?_⟩
      rintro (error | value) after answered
      · rw [rejected error]
        exact stopped error after answered
      · refine ih (earlier ++ [op]) _ after ?_ (resolved value) (onward value after answered)
        rw [split, List.append_assoc]
        rfl

end QueueForge.Async.Program
