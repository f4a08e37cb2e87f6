import QueueForge.Async.Execution

/-! Runs of a program that cleans up after itself, and what the log of a run keeps. -/

namespace QueueForge.Async

variable {S : Signature} {ε α β σ : Type}

namespace Program

section
variable {handler : Handler S ε σ} {world : σ}

/-- The cleanup runs in the world the body leaves, and its exception is what is settled with. -/
@[simp] theorem run_finallyRun {program : Program S ε α} {cleanup : Program S ε Unit}
    : (program.finallyRun cleanup).run handler world
      = match cleanup.run handler (program.run handler world).2 with
        | (.ok _, after) => ((program.run handler world).1, after)
        | (.error error, after) => (.error error, after) := by
  induction program generalizing world with
  | done value =>
      rw [finallyRun, run_bind, run_done]
      rcases cleanup.run handler world with ⟨_ | _, _⟩ <;> rfl
  | fail error =>
      rw [finallyRun, run_bind, run_fail]
      rcases cleanup.run handler world with ⟨_ | _, _⟩ <;> rfl
  | call op rest ih => simp only [finallyRun, run, ih]

end

namespace Awaits

variable {property : S.Op → Prop}

theorem settle {program : Program S ε α} (h : program.Awaits property)
    : program.settle.Awaits property := by
  rw [Awaits, meets_settle]
  exact h

theorem ofResult {result : Settled ε α}
    : (Program.ofResult result : Program S ε α).Awaits property := by
  rw [Awaits, meets_ofResult]
  trivial

theorem ite {condition : Prop} [Decidable condition] {left right : Program S ε α}
    (first : left.Awaits property) (second : right.Awaits property)
    : (if condition then left else right).Awaits property := by
  rw [Awaits, meets_ite]
  exact ⟨fun _ => first, fun _ => second⟩

end Awaits

-----------------------------------------------------------------------------------------
-- What is in the log stays there
-----------------------------------------------------------------------------------------

section
variable {handler : Handler S ε σ} {answered : Answered S ε} {logged : σ × List (Answered S ε)}

/-- A call is in the log after a run. -/
def Logs (handler : Handler S ε σ) (answered : Answered S ε) (program : Program S ε α)
    (logged : σ × List (Answered S ε))
    : Prop :=
  answered ∈ (program.run handler.logged logged).2.2

/-- What is in the log before a run is there after it. -/
theorem logs_of_mem (program : Program S ε α) (before : answered ∈ logged.2)
    : program.Logs handler answered logged :=
  @run_preserves S ε α _ handler.logged logged (fun reached => answered ∈ reached.2) program
    (fun _ _ kept => List.mem_cons_of_mem _ kept) before

/-- A call is in the log once it is answered. -/
theorem logs_perform {op : S.Op}
    : Logs (α := no_index (S.Result op)) handler ⟨op, (handler op logged.1).1⟩ (perform op)
        logged := by
  rw [Logs, run_perform]
  exact List.mem_cons_self

theorem Logs.bind {program : Program S ε α} (h : program.Logs handler answered logged)
    (next : α → Program S ε β)
    : (program.bind next).Logs handler answered logged := by
  rw [Logs, run_bind]
  rw [Logs] at h
  revert h
  rcases program.run handler.logged logged with ⟨_ | value, after⟩
  · exact id
  · exact fun h => logs_of_mem (next value) h

/-- A call of what comes next is in the log. -/
theorem Logs.after {program : Program S ε α} {value : α} {after : σ × List (Answered S ε)}
    {next : α → Program S ε β} (ran : program.run handler.logged logged = (.ok value, after))
    (h : (next value).Logs handler answered after)
    : (program.bind next).Logs handler answered logged := by
  rw [Logs, run_bind, ran]
  exact h

theorem Logs.settle {program : Program S ε α} (h : program.Logs handler answered logged)
    : program.settle.Logs handler answered logged := by
  rw [Logs, run_settle]
  exact h

theorem Logs.finallyRun {program : Program S ε α} (h : program.Logs handler answered logged)
    (cleanup : Program S ε Unit)
    : (program.finallyRun cleanup).Logs handler answered logged := by
  have cleaned := @logs_of_mem S ε Unit σ handler _ _ cleanup h
  rw [Logs] at cleaned
  rw [Logs, run_finallyRun]
  revert cleaned
  rcases cleanup.run handler.logged (program.run handler.logged logged).2 with ⟨_ | _, _⟩
  · exact id
  · exact id

end

end Program

end QueueForge.Async
