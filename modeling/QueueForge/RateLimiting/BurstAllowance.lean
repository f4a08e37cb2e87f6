import Mathlib.Algebra.Order.Group.Int
import QueueForge.RateLimiting.Funding
import QueueForge.RateLimiting.StoredBalance

/-! `BurstAllowanceManager`: fifty tokens, and what is left of them until a minute has passed since
the last grant. A call reads its clock twice, with `get` and with `setex`.
-/

namespace QueueForge.RateLimiting

open QueueForge.Js

namespace BurstAllowanceManager

def burstKey (userId : String) : String :=
  s!"burst:{userId}"

/-- Default burst capacity = 50 tokens. -/
def capacity : Int :=
  50

/-- A call, with the times at which the store is asked and written. -/
structure Request where
  asked : Int
  written : Int
  tokensCount : Int

/-- Asserts if request can consume burst tokens. -/
def consumeBurstTokens (redis : RedisTexts) (userId : String) (request : Request)
    : Bool × RedisTexts :=
  let key := burstKey userId
  match redis.balance request.asked key capacity with
  | some balance =>
      if request.tokensCount ≤ balance then
        (true, redis.setex request.written key 60 (toString (balance - request.tokensCount)))
      else
        (false, redis)
  | none => (false, redis)

-----------------------------------------------------------------------------------------
-- Calls in the order they come
-----------------------------------------------------------------------------------------

/-- What a call draws. -/
def drawOf (request : Request) (granted : Bool) : Draw Int Int where
  time := request.written
  amount := if granted then request.tokensCount else 0

/-- Calls for a user who has no balance yet, newest first. -/
def callsAt (userId : String) : List Request → List (Draw Int Int) × RedisTexts
  | [] => ([], fun _ => none)
  | request :: earlier =>
      let before := callsAt userId earlier
      let consumed := consumeBurstTokens before.2 userId request
      (drawOf request consumed.1 :: before.1, consumed.2)

/-- The calls come one after the other, under a clock that does not go back. -/
structure Sequential (requests : List Request) : Prop where
  within : ∀ request ∈ requests, request.asked ≤ request.written
  ordered : requests.Pairwise (fun later earlier => earlier.written ≤ later.asked)

/-- The tokens granted in the minute that begins at a time. -/
def grantedInMinute (start : Int) (draws : List (Draw Int Int)) : Int :=
  ((draws.filter (fun draw => decide (start ≤ draw.time ∧ draw.time < start + 60000))).map
    Draw.amount).sum

theorem grantedInMinute_eq (start : Int) (draws : List (Draw Int Int))
    : grantedInMinute start draws = drawnWithin start (start + 59999) draws := by
  rw [grantedInMinute, drawnWithin]
  congr 2
  refine List.filter_congr (fun draw _ => ?_)
  rw [decide_eq_decide]
  omega

/-- The stored balance and what was drawn since any time less than a minute before the last grant
are the capacity at most, and nothing has been drawn after that grant.
-/
def Accounted (stored : Option (String × Int)) (draws : List (Draw Int Int)) : Prop :=
  match stored with
  | none => ∀ start, drawnSince start draws = 0
  | some (text, expiry) =>
      ∃ balance : Int,
        text = toString balance
        ∧ 0 ≤ balance
        ∧ (∃ draw ∈ draws, draw.time = expiry - 60000)
        ∧ (∀ start, expiry - 60000 < start → drawnSince start draws = 0)
        ∧ ∀ start, expiry - 120000 < start → drawnSince start draws + balance ≤ capacity

section
variable {userId : String} {request : Request} {redis : RedisTexts} {draws : List (Draw Int Int)}

/-- What a call finds covers what it may draw: a balance with the draws since less than a minute
before, where all draws that count are accounted for.
-/
theorem balance_covers (accounted : Accounted (redis (burstKey userId)) draws)
    (ended : ∀ draw ∈ draws, draw.time ≤ request.asked) (within : request.asked ≤ request.written)
    : ∃ balance,
        redis.balance request.asked (burstKey userId) capacity = some balance
        ∧ (∀ start, request.written < start → drawnSince start draws = 0)
        ∧ ∀ start, request.written - 60000 < start → drawnSince start draws + balance ≤ capacity
    := by
  cases found : redis (burstKey userId) with
  | none =>
      rw [found] at accounted
      refine ⟨capacity, balance_missing found, fun start _ => accounted start, fun start _ => ?_⟩
      rw [accounted start, zero_add]
  | some entry =>
      obtain ⟨text, expiry⟩ := entry
      rw [found] at accounted
      obtain ⟨balance, rfl, _, ⟨last, mem, written⟩, spent, covered⟩ := accounted
      have before := ended last mem
      refine ⟨_, balance_stored found, fun start after => spent start (by omega), ?_⟩
      intro start recent
      by_cases live : request.asked < expiry
      · rw [if_pos live]
        exact covered start (by omega)
      · rw [if_neg live, spent start (by omega), zero_add]

/-- A call that is refused draws nothing. -/
theorem Accounted.refused {stored : Option (String × Int)} (accounted : Accounted stored draws)
    (request : Request)
    : Accounted stored (drawOf request false :: draws) := by
  have nothing
      : ∀ start, drawnSince start (drawOf request false :: draws) = drawnSince start draws := by
    intro start
    simp [drawnSince_cons, drawOf]
  cases stored with
  | none => exact fun start => (nothing start).trans (accounted start)
  | some entry =>
      obtain ⟨text, expiry⟩ := entry
      obtain ⟨balance, rfl, nonneg, ⟨last, mem, written⟩, spent, covered⟩ := accounted
      refine ⟨balance, rfl, nonneg, ⟨last, List.mem_cons_of_mem _ mem, written⟩, ?_, ?_⟩
      · exact fun start after => (nothing start).trans (spent start after)
      · intro start recent
        rw [nothing]
        exact covered start recent

/-- A call that is granted leaves the rest of the balance for a minute. -/
theorem accounted_granted {balance : Int} (nonneg : 0 ≤ request.tokensCount)
    (enough : request.tokensCount ≤ balance)
    (spent : ∀ start, request.written < start → drawnSince start draws = 0)
    (covered
      : ∀ start, request.written - 60000 < start → drawnSince start draws + balance ≤ capacity)
    : Accounted (some (toString (balance - request.tokensCount), request.written + 60000))
        (drawOf request true :: draws) := by
  refine ⟨balance - request.tokensCount, rfl, sub_nonneg.mpr enough, ?_, ?_, ?_⟩
  · exact ⟨_, List.mem_cons_self, by simp [drawOf]⟩
  · intro start after
    have earlier : request.written < start := by omega
    have uncounted : ¬start ≤ (drawOf request true).time := not_le.mpr earlier
    rw [drawnSince_cons, spent start earlier, if_neg uncounted, zero_add]
  · intro start recent
    have left := covered start (by omega)
    rw [drawnSince_cons]
    split
    · simp only [drawOf, if_true]
      omega
    · omega

/-- A call keeps the account. -/
theorem consumeBurstTokens_accounted (accounted : Accounted (redis (burstKey userId)) draws)
    (ended : ∀ draw ∈ draws, draw.time ≤ request.asked) (within : request.asked ≤ request.written)
    (nonneg : 0 ≤ request.tokensCount)
    : let consumed := consumeBurstTokens redis userId request
      Accounted (consumed.2 (burstKey userId)) (drawOf request consumed.1 :: draws) := by
  obtain ⟨balance, read, spent, covered⟩ := balance_covers accounted ended within
  simp only [consumeBurstTokens, read]
  by_cases enough : request.tokensCount ≤ balance
  · simp only [if_pos enough, setex_self]
    exact accounted_granted nonneg enough spent covered
  · simp only [if_neg enough]
    exact accounted.refused request

/-- In the time before a call that counts, the capacity covers what was drawn. -/
theorem drawnSince_le_capacity {start : Int} (accounted : Accounted (redis (burstKey userId)) draws)
    (ended : ∀ draw ∈ draws, draw.time ≤ start + 59999)
    : drawnSince start draws ≤ capacity := by
  cases found : redis (burstKey userId) with
  | none =>
      rw [found] at accounted
      rw [accounted start]
      decide
  | some entry =>
      rw [found] at accounted
      obtain ⟨balance, _, nonneg, ⟨last, mem, written⟩, _, covered⟩ := accounted
      have before := ended last mem
      have enough := covered start (by omega)
      omega

end

section
variable {userId : String} {requests : List Request}

theorem callsAt_times (userId : String) (requests : List Request)
    : (callsAt userId requests).1.map Draw.time = requests.map Request.written := by
  induction requests with
  | nil => rfl
  | cons request earlier ih => exact congrArg (request.written :: ·) ih

theorem Sequential.tail {request : Request} (sequential : Sequential (request :: requests))
    : Sequential requests where
  within := fun other mem => sequential.within other (List.mem_cons_of_mem _ mem)
  ordered := sequential.ordered.of_cons

theorem Sequential.drop (sequential : Sequential requests) (dropped : Nat)
    : Sequential (requests.drop dropped) where
  within := fun other mem => sequential.within other (List.mem_of_mem_drop mem)
  ordered := sequential.ordered.drop

/-- Any calls keep the account, by induction on them. -/
theorem callsAt_accounted (userId : String) (sequential : Sequential requests)
    (nonneg : ∀ request ∈ requests, 0 ≤ request.tokensCount)
    : Accounted ((callsAt userId requests).2 (burstKey userId)) (callsAt userId requests).1 := by
  induction requests with
  | nil => exact fun _ => rfl
  | cons request earlier ih =>
      have accounted :=
        ih sequential.tail (fun other mem => nonneg other (List.mem_cons_of_mem _ mem))
      refine consumeBurstTokens_accounted accounted ?_
        (sequential.within request List.mem_cons_self) (nonneg request List.mem_cons_self)
      intro draw mem
      have timed : draw.time ∈ earlier.map Request.written := by
        rw [← callsAt_times userId]
        exact List.mem_map_of_mem mem
      obtain ⟨other, before, same⟩ := List.mem_map.mp timed
      rw [← same]
      exact List.rel_of_pairwise_cons sequential.ordered before

/-- In any minute a user is granted at most the capacity, whenever the calls come and whatever
they ask for.
-/
theorem granted_at_most_capacity (userId : String) (sequential : Sequential requests)
    (nonneg : ∀ request ∈ requests, 0 ≤ request.tokensCount) (start : Int)
    : grantedInMinute start (callsAt userId requests).1 ≤ capacity := by
  rw [grantedInMinute_eq]
  refine drawnWithin_le ?_ (fun dropped ended => ?_)
  · have timed : (callsAt userId requests).1.map Draw.time = requests.map Request.written :=
      callsAt_times userId requests
    rw [← List.pairwise_map (R := fun later earlier : Int => earlier ≤ later), timed,
      List.pairwise_map]
    refine sequential.ordered.imp_of_mem (fun mem _ before => ?_)
    exact before.trans (sequential.within _ mem)
  · rw [drop_history (fun requests => (callsAt userId requests).1) rfl (fun _ _ => ⟨_, rfl⟩)]
      at ended ⊢
    have accounted :=
      callsAt_accounted userId (sequential.drop dropped)
        (fun other mem => nonneg other (List.mem_of_mem_drop mem))
    exact drawnSince_le_capacity accounted ended

end

/-- Thirty tokens and twenty half a minute later, which use up the balance, and fifty more a minute
after that. -/
theorem granted_at_most_capacity_of_three
    : grantedInMinute 0
        (callsAt "user" [⟨90000, 90000, 50⟩, ⟨30000, 30000, 20⟩, ⟨0, 0, 30⟩]).1
      ≤ capacity :=
  granted_at_most_capacity "user" ⟨by decide, by decide⟩ (by decide) 0

/-- All of them are granted. -/
example
    : (callsAt "user" [⟨90000, 90000, 50⟩, ⟨30000, 30000, 20⟩, ⟨0, 0, 30⟩]).1.map Draw.amount
      = [50, 20, 30] := by
  decide +kernel

end BurstAllowanceManager

end QueueForge.RateLimiting
