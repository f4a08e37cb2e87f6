import Mathlib.Algebra.BigOperators.Group.List.Basic
import Mathlib.Algebra.Order.Group.Defs
import Mathlib.Order.Basic
import Mathlib.Tactic.Abel

/-! What is drawn from a level that is refilled to a capacity at most.
A level is funded if one capacity and what has flowed in since any time cover what was drawn since
then, with and without the level that is left.
-/

namespace QueueForge.RateLimiting

/-- An amount and the time it is drawn at. -/
structure Draw (T K : Type) where
  time : T
  amount : K

/-- Without its newest entries a history is the history of the earlier items. -/
theorem drop_history {α β : Type} (history : List α → List β) (none : history [] = [])
    (listed : ∀ item earlier, ∃ entry, history (item :: earlier) = entry :: history earlier)
    (items : List α) (dropped : Nat)
    : (history items).drop dropped = history (items.drop dropped) := by
  induction dropped generalizing items with
  | zero => rfl
  | succ dropped ih =>
      cases items with
      | nil => rw [none, List.drop_nil, List.drop_nil, none]
      | cons item earlier =>
          obtain ⟨entry, entered⟩ := listed item earlier
          rw [entered]
          exact ih earlier

section
variable {T K : Type} [LinearOrder T] [AddCommGroup K]

/-- What is drawn from a time on. -/
def drawnSince (start : T) (draws : List (Draw T K)) : K :=
  ((draws.filter (fun draw => decide (start ≤ draw.time))).map Draw.amount).sum

/-- What is drawn in an interval. -/
def drawnWithin (start stop : T) (draws : List (Draw T K)) : K :=
  ((draws.filter (fun draw => decide (start ≤ draw.time ∧ draw.time ≤ stop))).map
    Draw.amount).sum

variable {start stop : T} {draw : Draw T K} {draws : List (Draw T K)}

@[simp] theorem drawnSince_nil : drawnSince start ([] : List (Draw T K)) = 0 :=
  rfl

theorem drawnSince_cons
    : drawnSince start (draw :: draws)
      = (if start ≤ draw.time then draw.amount else 0) + drawnSince start draws := by
  unfold drawnSince
  by_cases counts : start ≤ draw.time <;> simp [counts]

@[simp] theorem drawnWithin_nil : drawnWithin start stop ([] : List (Draw T K)) = 0 :=
  rfl

theorem drawnWithin_cons
    : drawnWithin start stop (draw :: draws)
      = (if start ≤ draw.time ∧ draw.time ≤ stop then draw.amount else 0)
        + drawnWithin start stop draws := by
  unfold drawnWithin
  by_cases counts : start ≤ draw.time ∧ draw.time ≤ stop <;> simp [counts]

/-- Nothing is drawn from a time on that is later than every draw. -/
theorem drawnSince_of_later (later : ∀ draw ∈ draws, draw.time < start)
    : drawnSince start draws = 0 := by
  have none : draws.filter (fun draw => decide (start ≤ draw.time)) = [] := by
    rw [List.filter_eq_nil_iff]
    intro draw mem
    simpa using later draw mem
  rw [drawnSince, none, List.map_nil, List.sum_nil]

/-- An interval that ends after every draw is bounded by its start only. -/
theorem drawnWithin_of_over (ended : ∀ draw ∈ draws, draw.time ≤ stop)
    : drawnWithin start stop draws = drawnSince start draws := by
  unfold drawnWithin drawnSince
  congr 2
  refine List.filter_congr (fun draw mem => ?_)
  simp [ended draw mem]

/-- What is drawn in an interval is at most what has been drawn since its start at some moment of
it. The draws are listed newest first, and the proof drops those after the interval.
-/
theorem drawnWithin_le [LinearOrder K] {bound : K}
    (ordered : draws.Pairwise (fun later earlier => earlier.time ≤ later.time))
    (bounded
      : ∀ dropped,
          (∀ draw ∈ draws.drop dropped, draw.time ≤ stop)
          → drawnSince start (draws.drop dropped) ≤ bound)
    : drawnWithin start stop draws ≤ bound := by
  induction draws with
  | nil => exact bounded 0 (fun _ mem => nomatch mem)
  | cons newest earlier ih =>
      obtain ⟨newer, ordered⟩ := List.pairwise_cons.mp ordered
      by_cases inside : newest.time ≤ stop
      · have ended : ∀ draw ∈ newest :: earlier, draw.time ≤ stop := by
          intro draw mem
          rcases List.mem_cons.mp mem with rfl | before
          · exact inside
          · exact (newer draw before).trans inside
        rw [drawnWithin_of_over ended]
        exact bounded 0 ended
      · rw [drawnWithin_cons, if_neg (fun both => inside both.2), zero_add]
        exact ih ordered (fun dropped => bounded (dropped + 1))

variable [LinearOrder K] [IsOrderedAddMonoid K]

/-- One capacity and the inflow since any time cover what was drawn since then. -/
structure Funded (capacity : K) (inflow : T → K) (draws : List (Draw T K)) (level : K)
    : Prop where
  drawn : ∀ start, drawnSince start draws ≤ capacity + inflow start
  left : ∀ start, drawnSince start draws + level ≤ capacity + inflow start

namespace Funded

variable {capacity level : K} {inflow : T → K}

/-- Before the first draw. -/
theorem nil (nonneg : 0 ≤ capacity) (begun : level ≤ capacity) (flows : ∀ start, 0 ≤ inflow start)
    : Funded capacity inflow ([] : List (Draw T K)) level where
  drawn start := by
    rw [drawnSince_nil]
    exact add_nonneg nonneg (flows start)
  left start := by
    rw [drawnSince_nil, zero_add]
    exact begun.trans (le_add_of_nonneg_right (flows start))

section
variable {gain next : K} {flown : T → K} (funded : Funded capacity inflow draws level)
  (nonneg : 0 ≤ capacity) (full : next ≤ capacity) (flows : ∀ start, 0 ≤ flown start)
  (flowed : ∀ start, (∃ draw ∈ draws, start ≤ draw.time) → inflow start + gain ≤ flown start)
include funded nonneg full flows flowed

/-- A level may be set to what the inflow covers by itself or with the level before. -/
theorem refill (gained : 0 ≤ gain) (covered : next ≤ level + gain ∨ next ≤ gain)
    : Funded capacity flown draws next := by
  have earlier
      : ∀ start,
          (¬∃ draw ∈ draws, start ≤ draw.time) → drawnSince start draws = 0 := by
    intro start none
    refine drawnSince_of_later (fun draw mem => ?_)
    exact lt_of_not_ge (fun counts => none ⟨draw, mem, counts⟩)
  constructor
  · intro start
    by_cases counts : ∃ draw ∈ draws, start ≤ draw.time
    · calc
        drawnSince start draws ≤ capacity + inflow start := funded.drawn start
        _ ≤ capacity + (inflow start + gain) := by
          exact add_le_add_right (le_add_of_nonneg_right gained) capacity
        _ ≤ capacity + flown start := add_le_add_right (flowed start counts) capacity
    · rw [earlier start counts]
      exact add_nonneg nonneg (flows start)
  · intro start
    by_cases counts : ∃ draw ∈ draws, start ≤ draw.time
    · have enough : drawnSince start draws + next ≤ capacity + inflow start + gain := by
        rcases covered with topped | renewed
        · calc
            drawnSince start draws + next ≤ drawnSince start draws + (level + gain) :=
              add_le_add_right topped _
            _ = drawnSince start draws + level + gain := (add_assoc ..).symm
            _ ≤ capacity + inflow start + gain := add_le_add_left (funded.left start) gain
        · exact add_le_add (funded.drawn start) renewed
      calc
        drawnSince start draws + next ≤ capacity + inflow start + gain := enough
        _ = capacity + (inflow start + gain) := add_assoc ..
        _ ≤ capacity + flown start := add_le_add_right (flowed start counts) capacity
    · rw [earlier start counts, zero_add]
      exact full.trans (le_add_of_nonneg_right (flows start))

end

/-- What is there may be drawn. -/
theorem spend (funded : Funded capacity inflow draws level) (time : T) {amount : K}
    (nonneg : 0 ≤ amount) (there : amount = 0 ∨ amount ≤ level)
    : Funded capacity inflow (⟨time, amount⟩ :: draws) (level - amount) := by
  have taken : ∀ start, (if start ≤ time then amount else 0) ≤ amount := by
    intro start
    split
    · exact le_rfl
    · exact nonneg
  constructor
  · intro start
    rw [drawnSince_cons]
    rcases there with rfl | there
    · rw [ite_self, zero_add]
      exact funded.drawn start
    · calc
        (if start ≤ time then amount else 0) + drawnSince start draws
            ≤ level + drawnSince start draws :=
          add_le_add_left ((taken start).trans there) _
        _ = drawnSince start draws + level := add_comm ..
        _ ≤ capacity + inflow start := funded.left start
  · intro start
    rw [drawnSince_cons]
    calc
      (if start ≤ time then amount else 0) + drawnSince start draws + (level - amount)
          ≤ amount + drawnSince start draws + (level - amount) :=
        add_le_add_left (add_le_add_left (taken start) _) _
      _ = drawnSince start draws + level := by abel
      _ ≤ capacity + inflow start := funded.left start

end Funded

end

end QueueForge.RateLimiting
