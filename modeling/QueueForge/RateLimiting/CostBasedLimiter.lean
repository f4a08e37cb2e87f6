import Mathlib.Algebra.Order.Field.Rat
import Mathlib.Data.Rat.Cast.Order
import QueueForge.Async.Throughout
import QueueForge.Js.Values
import QueueForge.RateLimiting.Funding
import QueueForge.RateLimiting.StoredBalance

/-! `CostBasedLimiter`: what a user has spent, in one number that every grant keeps for an hour more.
-/

namespace QueueForge.RateLimiting

open QueueForge.Async QueueForge.Js

namespace CostBasedLimiter

/-- A call of `canAffordRequest` for a user, and the time since the call before. -/
structure Request where
  elapsed : Nat
  action : String
  payloadSize : Number
  hourlyBudget : Number := 100

/-- `calculator.calculateCost`. -/
def calculateCost (action : String) (payloadSize : Number) : Int :=
  if action = "results_ingestion" then
    -- >10KB payload = 5 cost units
    if Number.lt 10240 payloadSize then 5 else 1
  else
    1

def costKey (userId : String) : String :=
  s!"cost:{userId}"

def Request.cost (request : Request) : Int :=
  calculateCost request.action request.payloadSize

/-- A sum is over the budget of a call. -/
def Request.exceeds (request : Request) (sum : Int) : Bool :=
  request.hourlyBudget.lt (.ofInt sum)

/-- Asserts if request can be processed within active cost budget. A balance of `NaN` is over no
budget, and stays `NaN`.
-/
def canAffordRequest (redis : RedisTexts) (now : Int) (userId : String) (request : Request)
    : Bool × RedisTexts :=
  let key := costKey userId
  match redis.balance now key 0 with
  | some balance =>
      if request.exceeds (balance + request.cost) then
        (false, redis)
      else
        (true, redis.setex now key 3600 (toString (balance + request.cost)))
  | none => (true, redis.setex now key 3600 "NaN")

-----------------------------------------------------------------------------------------
-- Calls one after the other, with what has been granted
-----------------------------------------------------------------------------------------

/-- The clock, the store, and the costs granted so far, newest first. -/
structure State where
  now : Int
  redis : RedisTexts
  granted : List (Draw Int Int)

/-- Nothing is stored yet. -/
def initial (start : Int) : State where
  now := start
  redis _ := none
  granted := []

/-- The time of a call. -/
def State.timeOf (state : State) (request : Request) : Int :=
  state.now + request.elapsed

/-- What a call answers. -/
def State.called (state : State) (userId : String) (request : Request) : Bool × RedisTexts :=
  canAffordRequest state.redis (state.timeOf request) userId request

def step (userId : String) (request : Request) (state : State) : State :=
  let now := state.timeOf request
  let called := state.called userId request
  {
    now
    redis := called.2
    granted := if called.1 then ⟨now, request.cost⟩ :: state.granted else state.granted
  }

/-- 3600 seconds. -/
def hour : Int :=
  3600000

/-- The costs granted in the trailing 3600 seconds. -/
def spentInHour (now : Int) (granted : List (Draw Int Int)) : Int :=
  drawnSince (now - hour + 1) granted

/-- The costs granted since an hour last passed without a grant. -/
def spentSincePause (now : Int) : List (Draw Int Int) → Int
  | [] => 0
  | newest :: earlier =>
      if now < newest.time + hour then newest.amount + spentSincePause newest.time earlier else 0

/-- A call is granted exactly when its cost and those of the trailing hour are within the budget.
-/
def GrantedExactly (userId : String) (request : Request) (state : State) : Prop :=
  (state.called userId request).1 = true
  ↔ request.exceeds (spentInHour (state.timeOf request) state.granted + request.cost) = false

/-- The costs granted since the last pause exceed the budget only if those of the trailing hour do.
-/
def NotHeldBack (request : Request) (state : State) : Prop :=
  request.exceeds (spentSincePause (state.timeOf request) state.granted + request.cost) = true
  → request.exceeds (spentInHour (state.timeOf request) state.granted + request.cost) = true

/-- The stored number is what has been spent since the last pause, until the next one. -/
structure Tallies (userId : String) (state : State) : Prop where
  ended : ∀ draw ∈ state.granted, draw.time ≤ state.now
  ordered : state.granted.Pairwise (fun later earlier => earlier.time ≤ later.time)
  nonneg : ∀ draw ∈ state.granted, 0 ≤ draw.amount
  stored
    : state.redis (costKey userId)
      = match state.granted with
        | [] => none
        | newest :: earlier =>
            some (toString (newest.amount + spentSincePause newest.time earlier),
              newest.time + hour)

section
variable {granted : List (Draw Int Int)} {now later : Int}

/-- Less is drawn since a later time. -/
theorem drawnSince_le_drawnSince (nonneg : ∀ draw ∈ granted, 0 ≤ draw.amount)
    (ordered : now ≤ later)
    : drawnSince later granted ≤ drawnSince now granted := by
  induction granted with
  | nil => exact le_rfl
  | cons newest earlier ih =>
      obtain ⟨counts, others⟩ := List.forall_mem_cons.mp nonneg
      rw [drawnSince_cons, drawnSince_cons]
      refine add_le_add ?_ (ih others)
      by_cases recent : later ≤ newest.time
      · rw [if_pos recent, if_pos (ordered.trans recent)]
      · rw [if_neg recent]
        split
        · exact counts
        · exact le_rfl

/-- What was spent in the hour was spent since the last pause, by induction on the grants. -/
theorem spentInHour_le_spentSincePause
    (ordered : granted.Pairwise (fun later earlier => earlier.time ≤ later.time))
    (nonneg : ∀ draw ∈ granted, 0 ≤ draw.amount) (ended : ∀ draw ∈ granted, draw.time ≤ now)
    : spentInHour now granted ≤ spentSincePause now granted := by
  induction granted generalizing now with
  | nil => exact le_rfl
  | cons newest earlier ih =>
      obtain ⟨newer, before⟩ := List.pairwise_cons.mp ordered
      obtain ⟨counts, others⟩ := List.forall_mem_cons.mp nonneg
      have last := ended newest List.mem_cons_self
      rw [spentSincePause]
      by_cases recent : now < newest.time + hour
      · have inside : now - hour + 1 ≤ newest.time := by omega
        rw [if_pos recent, spentInHour, drawnSince_cons, if_pos inside]
        refine Int.add_le_add_left ?_ newest.amount
        calc
          drawnSince (now - hour + 1) earlier ≤ spentInHour newest.time earlier :=
            drawnSince_le_drawnSince others (by omega)
          _ ≤ spentSincePause newest.time earlier := ih before others newer
      · rw [if_neg recent, spentInHour, drawnSince_of_later]
        intro draw mem
        rcases List.mem_cons.mp mem with rfl | earlier
        · omega
        · have order := newer draw earlier
          omega

end

section
variable {userId : String} {request : Request} {state : State}

theorem cost_pos (request : Request) : 0 < request.cost := by
  unfold Request.cost calculateCost
  split
  · split <;> decide
  · decide

theorem balance_tallies (tallies : Tallies userId state) (now : Int)
    : state.redis.balance now (costKey userId) 0 = some (spentSincePause now state.granted) := by
  have stored := tallies.stored
  cases granted : state.granted with
  | nil =>
      rw [granted] at stored
      exact balance_missing stored
  | cons newest earlier =>
      rw [granted] at stored
      exact balance_stored stored

/-- A call is granted unless the costs since the last pause exceed its budget with its own. -/
theorem called_eq (tallies : Tallies userId state)
    : state.called userId request
      = if request.exceeds
            (spentSincePause (state.timeOf request) state.granted + request.cost)
          then (false, state.redis)
        else
          (true,
            state.redis.setex (state.timeOf request) (costKey userId) 3600
              (toString
                (spentSincePause (state.timeOf request) state.granted + request.cost))) := by
  rw [State.called, canAffordRequest, balance_tallies tallies]

theorem le_timeOf (state : State) (request : Request) : state.now ≤ state.timeOf request :=
  Int.le_add_of_nonneg_right (Int.natCast_nonneg _)

theorem step_tallies (tallies : Tallies userId state)
    : Tallies userId (step userId request state) := by
  have before : ∀ draw ∈ state.granted, draw.time ≤ state.timeOf request :=
    fun draw mem => (tallies.ended draw mem).trans (le_timeOf state request)
  unfold step
  rw [called_eq tallies]
  split
  · exact ⟨before, tallies.ordered, tallies.nonneg, tallies.stored⟩
  · refine ⟨?_, ?_, ?_, ?_⟩
    · exact List.forall_mem_cons.mpr ⟨le_rfl, before⟩
    · exact List.pairwise_cons.mpr ⟨before, tallies.ordered⟩
    · exact List.forall_mem_cons.mpr ⟨(cost_pos request).le, tallies.nonneg⟩
    · dsimp only
      rw [setex_self, add_comm]
      rfl

/-- The costs of the trailing hour are among those since the last pause. -/
theorem spentInHour_le (tallies : Tallies userId state)
    : spentInHour (state.timeOf request) state.granted
      ≤ spentSincePause (state.timeOf request) state.granted :=
  spentInHour_le_spentSincePause tallies.ordered tallies.nonneg
    (fun draw mem => (tallies.ended draw mem).trans (le_timeOf state request))

theorem exceeds_of_le {smaller larger : Int} (order : smaller ≤ larger)
    (exceeds : request.exceeds smaller = true)
    : request.exceeds larger = true := by
  unfold Request.exceeds at *
  cases budget : request.hourlyBudget with
  | nan => rw [budget] at exceeds; exact nomatch exceeds
  | posInfinity => rw [budget] at exceeds; exact nomatch exceeds
  | negInfinity => rfl
  | finite budget =>
      have cast : (smaller : Rat) ≤ larger := Int.cast_le.mpr order
      simp only [*, Number.lt, Number.ofInt, Number.le, Bool.and_eq_true, decide_eq_true_eq,
        Bool.not_eq_true', decide_eq_false_iff_not, not_le] at exceeds ⊢
      exact ⟨exceeds.1.trans cast, exceeds.2.trans_le cast⟩

theorem grantedExactly_iff (tallies : Tallies userId state)
    : GrantedExactly userId request state ↔ NotHeldBack request state := by
  have more
      : request.exceeds (spentInHour (state.timeOf request) state.granted + request.cost) = true
        → request.exceeds
            (spentSincePause (state.timeOf request) state.granted + request.cost)
          = true :=
    exceeds_of_le (Int.add_le_add_right (spentInHour_le tallies) _)
  rw [GrantedExactly, NotHeldBack, called_eq tallies]
  cases held
      : request.exceeds
          (spentSincePause (state.timeOf request) state.granted + request.cost) with
  | true => simp
  | false =>
      rw [held] at more
      simpa using more

end

/-- Every call is granted exactly when its cost and those of the trailing hour are within the
budget, if and only if at no call older costs make the difference: those since the last pause
exceed the budget only if those of the trailing hour do.
-/
theorem granted_exactly_iff (userId : String) (start : Int) (requests : List Request)
    : EveryStep (step userId) (GrantedExactly userId) requests (initial start)
      ↔ EveryStep (step userId) NotHeldBack requests (initial start) :=
  everyStep_congr (fun _ _ tallies => step_tallies tallies)
    (fun _ _ tallies => grantedExactly_iff tallies) requests
    ⟨nofun, List.Pairwise.nil, nofun, rfl⟩

/-- Two calls 50 minutes apart and one 20 minutes later, with a budget of two. -/
def thrice : List Request :=
  [⟨0, "read", 0, 2⟩, ⟨3000000, "read", 0, 2⟩, ⟨1200000, "read", 0, 2⟩]

/-- The third is refused, although the first is more than an hour old. -/
theorem spending_never_ages
    : ¬∀ (userId : String) (start : Int) (requests : List Request),
        EveryStep (step userId) (GrantedExactly userId) requests (initial start) := by
  intro always
  have third := (always "user" 0 thrice).2.2.1
  exact absurd (third.mpr (by decide +kernel)) (by decide +kernel)

end CostBasedLimiter

end QueueForge.RateLimiting
