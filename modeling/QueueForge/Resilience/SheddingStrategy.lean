import QueueForge.Application.ServiceCalls
import QueueForge.Js.Sorting

/-! Load shedding: which of some jobs are discarded under pressure. Each strategy arranges the jobs
in its own way and takes as many from the front as the percentage says.
-/

namespace QueueForge.Resilience

open QueueForge.Js
open QueueForge.Application (Language coalesce)

/-- Standard algorithms for selecting candidates when shedding load under severe queue pressure. -/
inductive SheddingStrategy where
  | fifo
  | random
  | priority
  | none
deriving DecidableEq, Repr

/-- A job, as far as its priority is read: `job.priority` and `job.data?.priority`. -/
structure SheddableJob (T : Type) where
  content : T
  priority : Value
  dataPriority : Value

variable {T : Type}

/-- `job.priority ?? job.data?.priority ?? 0`. -/
def SheddableJob.effectivePriority (job : SheddableJob T) : Value :=
  coalesce (coalesce job.priority job.dataPriority) (.number 0)

/-- The comparator of the priorities: ascending. -/
def comparePriority (language : Language) (left right : SheddableJob T) : Number :=
  (language.number left.effectivePriority).add (language.number right.effectivePriority).neg

/-- `list.slice(0, count)` for a count that is not negative. -/
def sliceTo (list : List T) : Number → List T
  | .finite count => list.take count.floor.toNat
  | .posInfinity => list
  | _ => []

/-- Selects candidate tasks to discard based on specified SheddingStrategy strategy algorithm. -/
def selectJobsToShed (language : Language) (sorting : ArraySort (SheddableJob T))
    (draws : Nat → RandomDraw) (jobs : List (SheddableJob T)) (percentageToShed : Number)
    (strategy : SheddingStrategy := .fifo)
    : List (SheddableJob T) :=
  if jobs.length = 0 ∨ percentageToShed.le 0 ∨ strategy = .none then
    []
  else
    let share := ((Number.ofInt jobs.length).mul percentageToShed).div 100
    let countToShed := Number.min (.ofInt jobs.length) share.ceil
    if countToShed.le 0 then
      []
    else
      match strategy with
      | .fifo => sliceTo jobs countToShed
      | .random => sliceTo (shuffle draws jobs.toArray).toList countToShed
      | .priority => sliceTo (sorting.sort (comparePriority language) jobs) countToShed
      | .none => []

-----------------------------------------------------------------------------------------
-- What is shed
-----------------------------------------------------------------------------------------

/-- How many of some jobs a percentage asks for; an infinite one asks for all. -/
def sheddingSize (count : Nat) : Number → Nat
  | .finite percentage => min count (count * percentage / 100).ceil.toNat
  | _ => count

/-- What is shed is as much of the jobs as the percentage says, each at most as often as it is among
them; by priority none that is higher than one that is kept, and in the order of the list the first.
-/
structure Sheds (language : Language) (jobs : List (SheddableJob T)) (percentage : Number)
    (strategy : SheddingStrategy) (shed : List (SheddableJob T))
    : Prop where
  size : shed.length = sheddingSize jobs.length percentage
  kept
    : ∃ kept,
        (shed ++ kept).Perm jobs
        ∧ (strategy = .priority
            → (∀ job ∈ jobs, language.number job.effectivePriority ≠ .nan)
            → ∀ gone ∈ shed, ∀ stays ∈ kept,
                (language.number gone.effectivePriority).le
                    (language.number stays.effectivePriority)
                  = true)
  oldest : strategy = .fifo → shed <+: jobs

section
variable {language : Language} {sorting : ArraySort (SheddableJob T)} {draws : Nat → RandomDraw}
  {jobs : List (SheddableJob T)} {percentage : Number} {strategy : SheddingStrategy}

/-- The count that is computed is the size asked for, and not zero. -/
theorem countToShed_eq {count : Nat} (some : 0 < count)
    (positive : Number.lt 0 percentage = true)
    : Number.min (.ofInt count) (((Number.ofInt count).mul percentage).div 100).ceil
        = .ofInt (sheddingSize count percentage)
      ∧ 0 < sheddingSize count percentage := by
  have counted : (0 : Rat) < count := by exact_mod_cast some
  cases percentage with
  | nan => contradiction
  | negInfinity => contradiction
  | posInfinity =>
      have share : (Number.ofInt count).mul .posInfinity = .posInfinity := by
        exact Number.scaleInfinity_of_pos (by exact_mod_cast some)
      rw [share]
      exact ⟨rfl, some⟩
  | finite percentage =>
      have positive : (0 : Rat) < percentage := Number.finite_lt_finite.mp positive
      have share
          : (((Number.ofInt count).mul (.finite percentage)).div 100).ceil
            = .ofInt (count * percentage / 100).ceil := by
        simp [Number.ofInt, Number.mul, Number.div, Number.ceil]
      have atLeastOne : 0 < (count * percentage / 100).ceil := Rat.lt_ceil_iff.mpr (by positivity)
      rw [share, sheddingSize]
      refine ⟨?_, by omega⟩
      rcases Int.lt_or_le (count * percentage / 100).ceil count with part | all
      · rw [Number.min_of_lt (by simpa only [Number.ofInt_lt_ofInt, decide_eq_true_eq] using part)]
        congr 1
        omega
      · rw [Number.min_of_le (by simpa only [Number.ofInt_le_ofInt, decide_eq_true_eq] using all)]
        congr 1
        omega

theorem notAfter_comparePriority {left right : SheddableJob T}
    (numeric : language.number left.effectivePriority ≠ .nan)
    (numeric' : language.number right.effectivePriority ≠ .nan)
    : notAfter (comparePriority language) left right = true
      ↔ (language.number left.effectivePriority).le (language.number right.effectivePriority)
        = true := by
  unfold notAfter comparePriority
  rw [Number.zero_lt_sub numeric numeric', Bool.not_eq_true', Number.not_lt_iff numeric' numeric]

/-- The priorities of jobs order them, if they are numbers. -/
theorem comparePriority_consistent
    (numeric : ∀ job ∈ jobs, language.number job.effectivePriority ≠ .nan)
    : ConsistentOn (comparePriority language) jobs where
  turned left listed right listed' := by
    unfold comparePriority
    rw [Number.zero_lt_sub (numeric left listed) (numeric right listed'),
      Number.sub_lt_zero (numeric right listed') (numeric left listed)]
  chained left listed middle listed' right listed'' first second := by
    rw [notAfter_comparePriority (numeric left listed) (numeric middle listed')] at first
    rw [notAfter_comparePriority (numeric middle listed') (numeric right listed'')] at second
    rw [notAfter_comparePriority (numeric left listed) (numeric right listed'')]
    exact Number.le_trans first second

/-- The front of a list that is arranged anew, and the rest of it. -/
theorem sheds_of_take {arranged : List (SheddableJob T)} (rearranged : arranged.Perm jobs)
    (ordered
      : strategy = .priority
        → (∀ job ∈ jobs, language.number job.effectivePriority ≠ .nan)
        → arranged.Pairwise
            (fun left right =>
              (language.number left.effectivePriority).le (language.number right.effectivePriority)
                = true))
    (oldest : strategy = .fifo → arranged = jobs)
    : Sheds language jobs percentage strategy
        (arranged.take (sheddingSize jobs.length percentage)) where
  size := by
    have few : sheddingSize jobs.length percentage ≤ jobs.length := by
      unfold sheddingSize
      split <;> omega
    rw [List.length_take, rearranged.length_eq, Nat.min_eq_left few]
  kept := by
    refine ⟨arranged.drop (sheddingSize jobs.length percentage), ?_, ?_⟩
    · rwa [List.take_append_drop]
    · intro byPriority numeric
      have sorted := ordered byPriority numeric
      rw [← List.take_append_drop (sheddingSize jobs.length percentage) arranged,
        List.pairwise_append] at sorted
      exact sorted.2.2
  oldest := by
    intro inOrder
    rw [← oldest inOrder]
    exact List.take_prefix _ _

theorem sheds_nothing (zero : sheddingSize jobs.length percentage = 0)
    : Sheds language jobs percentage strategy [] where
  size := zero.symm
  kept := ⟨jobs, List.Perm.refl jobs, fun _ _ _ listed => absurd listed List.not_mem_nil⟩
  oldest _ := List.nil_prefix

theorem sliceTo_ofInt {count : Nat} {list : List T}
    : sliceTo list (.ofInt count) = list.take count := by
  have whole : (((count : Int) : Rat)).floor.toNat = count := by
    rw [Rat.floor_intCast, Int.toNat_natCast]
  simp only [sliceTo, Number.ofInt, whole]

/-- Whatever the strategy, what is shed is what it should be. -/
theorem selectJobsToShed_sheds (nonneg : Number.le 0 percentage = true) (sheds : strategy ≠ .none)
    : Sheds language jobs percentage strategy
        (selectJobsToShed language sorting draws jobs percentage strategy) := by
  unfold selectJobsToShed
  by_cases empty : jobs.length = 0 ∨ percentage.le 0 = true ∨ strategy = .none
  · rw [if_pos empty]
    refine sheds_nothing ?_
    rcases empty with none | zero | none
    · rw [none]
      cases percentage <;> simp [sheddingSize]
    · cases percentage with
      | nan => contradiction
      | negInfinity => contradiction
      | posInfinity => contradiction
      | finite percentage =>
          have exact : percentage = 0 :=
            le_antisymm (Number.finite_le_finite.mp zero) (Number.finite_le_finite.mp nonneg)
          have none : (jobs.length * percentage / 100).ceil = 0 := by
            rw [exact, mul_zero, zero_div]
            rfl
          simp only [sheddingSize, none, Int.toNat_zero, Nat.min_zero]
    · exact absurd none sheds
  · rw [if_neg empty]
    obtain ⟨some, notZero, _⟩ := not_or.mp empty |>.imp_right not_or.mp
    have positive : Number.lt 0 percentage = true := by
      rw [Number.lt, nonneg, Bool.true_and, Bool.not_eq_true']
      exact Bool.eq_false_iff.mpr notZero
    obtain ⟨size, atLeastOne⟩ := countToShed_eq (Nat.pos_of_ne_zero some) positive
    have above : (Number.ofInt (sheddingSize jobs.length percentage)).le (.ofInt 0) = false := by
      rw [Number.ofInt_le_ofInt]
      exact decide_eq_false (by omega)
    change (Number.ofInt (sheddingSize jobs.length percentage)).le 0 = false at above
    simp only [size, above, Bool.false_eq_true, if_false, sliceTo_ofInt]
    cases strategy with
    | fifo => exact sheds_of_take (List.Perm.refl jobs) (by rintro ⟨⟩) (fun _ => rfl)
    | random =>
        refine sheds_of_take ?_ (by rintro ⟨⟩) (by rintro ⟨⟩)
        exact (shuffle_perm draws jobs.toArray).toList
    | priority =>
        refine sheds_of_take (sorting.rearranges _ jobs) (fun _ numeric => ?_) (by rintro ⟨⟩)
        have listed {job : SheddableJob T}
            (sorted : job ∈ sorting.sort (comparePriority language) jobs)
            : job ∈ jobs :=
          (sorting.rearranges _ jobs).mem_iff.mp sorted
        refine (pairwise_sort sorting (comparePriority_consistent numeric)).imp_of_mem ?_
        intro left right among among'
        have known := numeric left (listed among)
        have known' := numeric right (listed among')
        exact (notAfter_comparePriority known known').mp
    | none => exact absurd rfl sheds

end

/-- Three jobs with their priorities on themselves, on their data and nowhere. -/
def threeJobs : List (SheddableJob Nat) :=
  [⟨0, .number 5, .undefined⟩, ⟨1, .undefined, .number 1⟩, ⟨2, .null, .undefined⟩]

/-- A language that converts nothing to a number. -/
def noConversions : Language := ⟨fun _ => .nan, fun _ => none, fun _ => ""⟩

theorem threeJobs_sheds
    : Sheds noConversions threeJobs 34 .priority
          (selectJobsToShed noConversions ArraySort.merging (fun _ => ⟨0, le_refl 0, one_pos⟩)
            threeJobs 34 .priority)
        ∧ sheddingSize threeJobs.length 34 = 2
        ∧ ∀ job ∈ threeJobs, noConversions.number job.effectivePriority ≠ .nan :=
  ⟨selectJobsToShed_sheds (by decide) (by decide), by decide +kernel, by decide⟩

end QueueForge.Resilience
