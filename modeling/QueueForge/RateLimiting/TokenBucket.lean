import QueueForge.RateLimiting.RateLimiter

/-! `TokenBucket`: a bucket in a store that has the commands for it, else in memory. A call adds
what the elapsed time gives, and never less than one second would.
-/

namespace QueueForge.RateLimiting

structure BucketState where
  tokens : Rat
  lastRefill : Int
deriving DecidableEq

/-- A bucket in the store, until the moment from which it is gone, in milliseconds. -/
structure RedisBucket where
  state : BucketState
  expiresAt : Int
deriving DecidableEq

/-- The functions the store has. `set` takes its lifetime in milliseconds, as `RedisOperations`
does, and `setex` in seconds.
-/
structure RedisOps where
  get : Bool
  setex : Bool
  set : Bool

structure TokenBucket where
  redisOps : Option RedisOps
  capacity : Rat
  refillRate : Rat

/-- The buckets in the store and in memory, by their keys. -/
structure KeyedBuckets where
  redis : String → Option RedisBucket
  memoryBuckets : String → Option BucketState

/-- A call of `tryConsume`, and whether the store answers its commands. -/
structure Request where
  time : Int
  tokens : Rat
  answered : Bool

namespace TokenBucket

def getBucketKey (key : String) : String :=
  s!"queueforge:ratelimit:tb:{key}"

/-- `redisOps.get`. -/
def stored (redis : String → Option RedisBucket) (now : Int) (key : String)
    : Option BucketState :=
  ((redis key).filter (fun kept => decide (now < kept.expiresAt))).map RedisBucket.state

/-- How long the store keeps what a call writes, in milliseconds. -/
def keptFor (ops : RedisOps) : Int :=
  if ops.setex then 1000 * 3600 else if ops.set then 3600 else 0

/-- `redisOps.setex`, else `redisOps.set`, else nothing is written. -/
def store (ops : RedisOps) (redis : String → Option RedisBucket) (now : Int) (key : String)
    (state : BucketState)
    : String → Option RedisBucket :=
  if ops.setex || ops.set then
    Function.update redis key (some ⟨state, now + keptFor ops⟩)
  else
    redis

/-- The bucket a call finds with what has been refilled. -/
def refreshed (bucket : TokenBucket) (now : Int) (found : Option BucketState) : BucketState :=
  let state := found.getD { tokens := bucket.capacity, lastRefill := now }
  let elapsedSec : Rat := max 0 (((now - state.lastRefill : Int) : Rat) / 1000)
  let refilled : Rat :=
    if found.isSome then
      max bucket.refillRate (elapsedSec * bucket.refillRate).floor
    else
      0
  { tokens := min bucket.capacity (state.tokens + refilled), lastRefill := now }

/-- What a call makes of the bucket it finds. -/
def consume (bucket : TokenBucket) (now : Int) (tokens : Rat) (found : Option BucketState)
    : Bool × BucketState :=
  let state := bucket.refreshed now found
  if tokens ≤ state.tokens then
    (true, { state with tokens := state.tokens - tokens })
  else
    (false, state)

/-- The call in the store. A command that is missing or rejected is thrown, and nothing is
written.
-/
def consumeStored (bucket : TokenBucket) (ops : RedisOps) (redis : String → Option RedisBucket)
    (key : String) (request : Request)
    : Option (Bool × (String → Option RedisBucket)) :=
  if ops.get && request.answered then
    let redisKey := getBucketKey key
    let consumed := bucket.consume request.time request.tokens (stored redis request.time redisKey)
    some (consumed.1, store ops redis request.time redisKey consumed.2)
  else
    none

/-- Attempts to consume tokens from the bucket of a key. -/
def tryConsume (bucket : TokenBucket) (buckets : KeyedBuckets) (key : String) (request : Request)
    : Bool × KeyedBuckets :=
  let inStore :=
    (bucket.redisOps.filter (fun ops => ops.get || ops.setex)).bind
      (fun ops => bucket.consumeStored ops buckets.redis key request)
  match inStore with
  | some (granted, redis) => (granted, { buckets with redis })
  | none =>
      let consumed :=
        bucket.consume request.time request.tokens (buckets.memoryBuckets key)
      (consumed.1,
        { buckets with
          memoryBuckets := Function.update buckets.memoryBuckets key (some consumed.2) })

-----------------------------------------------------------------------------------------
-- Calls in the order they come
-----------------------------------------------------------------------------------------

/-- Where a call is answered from. -/
inductive Place where
  | redis
  | memory
deriving DecidableEq

/-- The store answers a call, or the call falls back to memory. -/
def place (bucket : TokenBucket) (answered : Bool) : Place :=
  if bucket.redisOps.any RedisOps.get && answered then .redis else .memory

/-- A call, where it was answered from and what it was granted. -/
structure Call where
  time : Int
  place : Place
  tokens : Rat
  granted : Bool

/-- Calls on a key that has no bucket yet, newest first. -/
def callsAt (bucket : TokenBucket) (key : String) : List Request → List Call × KeyedBuckets
  | [] => ([], ⟨fun _ => none, fun _ => none⟩)
  | request :: earlier =>
      let before := callsAt bucket key earlier
      let called := bucket.tryConsume before.2 key request
      (⟨request.time, bucket.place request.answered, request.tokens, called.1⟩ :: before.1,
        called.2)

/-- A time is in an interval of seconds. -/
def inside (start stop : Rat) (time : Int) : Bool :=
  decide (start ≤ seconds time ∧ seconds time ≤ stop)

/-- The calls that a place answered. -/
def answeredBy (place : Place) (calls : List Call) : List Call :=
  calls.filter (fun call => decide (call.place = place))

/-- The tokens granted in an interval. -/
def grantedWithin (start stop : Rat) (calls : List Call) : Rat :=
  ((calls.filter (fun call => call.granted && inside start stop call.time)).map Call.tokens).sum

/-- The calls in an interval that come after the call before at some distances, in milliseconds. -/
def followingWithin (distance : Int → Bool) (start stop : Rat) (calls : List Call) : Nat :=
  (calls.zip calls.tail).countP (fun pair =>
    inside start stop pair.1.time && distance (pair.1.time - pair.2.time))

/-- The calls in an interval that come less than a second after the call before. -/
def quickWithin (start stop : Rat) (calls : List Call) : Nat :=
  followingWithin (fun elapsed => elapsed < 1000) start stop calls

/-- How long a bucket is kept in a place, in milliseconds. -/
def lifetime (bucket : TokenBucket) : Place → Option Int
  | .redis => bucket.redisOps.map keptFor
  | .memory => none

/-- The calls in an interval that come when the bucket the call before left is gone. -/
def lapsedWithin (lifetime : Option Int) (start stop : Rat) (calls : List Call) : Nat :=
  followingWithin (fun elapsed => lifetime.any (fun kept => kept ≤ elapsed)) start stop calls

-----------------------------------------------------------------------------------------
-- One call on the bucket of its place
-----------------------------------------------------------------------------------------

/-- The bucket of a key in a place. -/
def found (buckets : KeyedBuckets) (place : Place) (now : Int) (key : String)
    : Option BucketState :=
  match place with
  | .redis => stored buckets.redis now (getBucketKey key)
  | .memory => buckets.memoryBuckets key

section
variable {bucket : TokenBucket} {now later : Int} {tokens : Rat}

theorem refreshed_none : (bucket.refreshed now none).tokens = bucket.capacity := by
  simp [refreshed]

theorem refreshed_le (found : Option BucketState)
    : (bucket.refreshed now found).tokens ≤ bucket.capacity :=
  min_le_left _ _

theorem seconds_sub (now last : Int)
    : seconds now - seconds last = ((now - last : Int) : Rat) / 1000 := by
  unfold seconds
  push_cast
  ring

/-- A call adds what the rate gives in the elapsed time, which counts as a second at least. -/
theorem refreshed_some {state : BucketState} (ordered : state.lastRefill ≤ now)
    : (bucket.refreshed now (some state)).tokens
      ≤ state.tokens
        + max 0 bucket.refillRate * max 1 (seconds now - seconds state.lastRefill) := by
  have elapsed := (seconds_sub now state.lastRefill).symm
  have passed : 0 ≤ seconds now - seconds state.lastRefill :=
    sub_nonneg.mpr (RateLimiter.seconds_le_seconds ordered)
  have refilled
      : max bucket.refillRate
          ((seconds now - seconds state.lastRefill) * bucket.refillRate).floor
        ≤ max 0 bucket.refillRate * max 1 (seconds now - seconds state.lastRefill) := by
    refine max_le ?_ ((Rat.floor_le _).trans ?_)
    · calc
        bucket.refillRate ≤ max 0 bucket.refillRate * 1 := by
          rw [mul_one]
          exact le_max_right _ _
        _ ≤ max 0 bucket.refillRate * max 1 (seconds now - seconds state.lastRefill) :=
          mul_le_mul_of_nonneg_left (le_max_left _ _) (le_max_left _ _)
    · calc
        (seconds now - seconds state.lastRefill) * bucket.refillRate
            ≤ (seconds now - seconds state.lastRefill) * max 0 bucket.refillRate :=
          mul_le_mul_of_nonneg_left (le_max_right _ _) passed
        _ = max 0 bucket.refillRate * (seconds now - seconds state.lastRefill) := mul_comm ..
        _ ≤ max 0 bucket.refillRate * max 1 (seconds now - seconds state.lastRefill) :=
          mul_le_mul_of_nonneg_left (le_max_right _ _) (le_max_left _ _)
  simp only [refreshed, Option.getD_some, Option.isSome_some, if_true, elapsed,
    max_eq_right passed]
  exact (min_le_right _ _).trans (add_le_add_right refilled _)

/-- A call takes what it is granted and no more than is there. -/
theorem consume_cases (bucket : TokenBucket) (now : Int) (tokens : Rat) (found : Option BucketState)
    : (bucket.consume now tokens found).1 = true
        ∧ tokens ≤ (bucket.refreshed now found).tokens
        ∧ (bucket.consume now tokens found).2
          = ⟨(bucket.refreshed now found).tokens - tokens, now⟩
      ∨ (bucket.consume now tokens found).1 = false
        ∧ (bucket.consume now tokens found).2 = ⟨(bucket.refreshed now found).tokens, now⟩ := by
  unfold consume
  dsimp only
  by_cases enough : tokens ≤ (bucket.refreshed now found).tokens
  · rw [if_pos enough]
    exact .inl ⟨rfl, enough, rfl⟩
  · rw [if_neg enough]
    exact .inr ⟨rfl, rfl⟩

/-- What is stored is found until it has been kept long enough. -/
theorem stored_store (ops : RedisOps) (redis : String → Option RedisBucket) (now later : Int)
    (key : String) (state : BucketState)
    : stored (store ops redis now key state) later key
      = if ops.setex || ops.set then
          if keptFor ops ≤ later - now then none else some state
        else
          stored redis later key := by
  unfold store
  split
  · have expires : later < now + keptFor ops ↔ ¬keptFor ops ≤ later - now := by omega
    by_cases gone : keptFor ops ≤ later - now
    · simp [stored, Option.filter, expires, gone]
    · simp [stored, Option.filter, expires, gone]
  · rfl

/-- The bucket of a key in a place. -/
def bucketIn (buckets : KeyedBuckets) (place : Place) (now : Int) (key : String)
    : Option BucketState :=
  match place with
  | .redis => stored buckets.redis now (getBucketKey key)
  | .memory => buckets.memoryBuckets key

/-- A place no longer keeps a bucket after some milliseconds. -/
def gone (bucket : TokenBucket) (place : Place) (elapsed : Int) : Bool :=
  (bucket.lifetime place).any (fun kept => kept ≤ elapsed)

theorem place_redis {answered : Bool} (placed : bucket.place answered = .redis)
    : ∃ ops, bucket.redisOps = some ops ∧ ops.get = true ∧ answered = true := by
  unfold place at placed
  cases wired : bucket.redisOps with
  | none => simp [wired] at placed
  | some ops =>
      simp only [wired, Option.any_some, ite_eq_left_iff, reduceCtorEq, imp_false, not_not,
        Bool.and_eq_true] at placed
      exact ⟨ops, rfl, placed⟩

theorem tryConsume_redis {ops : RedisOps} (wired : bucket.redisOps = some ops)
    (able : ops.get = true) {request : Request} (answered : request.answered = true)
    (buckets : KeyedBuckets) (key : String)
    : let consumed :=
        bucket.consume request.time request.tokens (bucketIn buckets .redis request.time key)
      bucket.tryConsume buckets key request
      = (consumed.1,
          { buckets with
            redis := store ops buckets.redis request.time (getBucketKey key) consumed.2 }) := by
  simp [tryConsume, consumeStored, wired, able, answered, Option.filter, bucketIn]

theorem tryConsume_memory {request : Request}
    (falls : bucket.place request.answered = .memory) (buckets : KeyedBuckets) (key : String)
    : let consumed :=
        bucket.consume request.time request.tokens (bucketIn buckets .memory request.time key)
      bucket.tryConsume buckets key request
      = (consumed.1,
          { buckets with
            memoryBuckets := Function.update buckets.memoryBuckets key (some consumed.2) }) := by
  cases wired : bucket.redisOps with
  | none => simp [tryConsume, wired, bucketIn]
  | some ops =>
      have unable : (ops.get && request.answered) = false := by
        simpa [place, wired] using falls
      have thrown : bucket.consumeStored ops buckets.redis key request = none := by
        simp [consumeStored, unable]
      by_cases tried : (ops.get || ops.setex) = true
      · simp [tryConsume, wired, Option.filter, tried, thrown, bucketIn]
      · simp [tryConsume, wired, Option.filter, tried, bucketIn]

/-- A call is answered from the bucket in its place. A store that writes nothing has none to leave.
-/
theorem tryConsume_own (bucket : TokenBucket) (buckets : KeyedBuckets) (key : String) (request : Request)
    : let place := bucket.place request.answered
      let consumed :=
        bucket.consume request.time request.tokens (bucketIn buckets place request.time key)
      (bucket.tryConsume buckets key request).1 = consumed.1
      ∧ ∀ later,
          request.time ≤ later
          → (bucket.gone place (later - request.time) = true
              → bucketIn buckets place later key = none)
          → bucketIn (bucket.tryConsume buckets key request).2 place later key
            = if bucket.gone place (later - request.time) then none else some consumed.2 := by
  intro place
  cases placed : bucket.place request.answered with
  | memory =>
      simp only [place, placed]
      rw [tryConsume_memory placed]
      exact ⟨rfl, fun later _ _ => by simp [bucketIn, gone, lifetime]⟩
  | redis =>
      obtain ⟨ops, wired, able, answered⟩ := place_redis placed
      simp only [place, placed]
      rw [tryConsume_redis wired able answered]
      refine ⟨rfl, fun later ordered unwritten => ?_⟩
      have kept : bucket.gone .redis (later - request.time)
          = decide (keptFor ops ≤ later - request.time) := by
        simp [gone, lifetime, wired]
      rw [kept] at unwritten ⊢
      simp only [bucketIn] at unwritten ⊢
      rw [stored_store]
      split
      · simp only [decide_eq_true_eq]
      · rename_i none
        -- nothing is kept for any time
        have once : keptFor ops = 0 := by
          simp only [Bool.or_eq_true, not_or, Bool.not_eq_true] at none
          simp [keptFor, none]
        have ended : keptFor ops ≤ later - request.time := by omega
        rw [unwritten (decide_eq_true ended), if_pos (decide_eq_true ended)]

/-- The other place is left as it is. -/
theorem tryConsume_other (buckets : KeyedBuckets) (key : String) (request : Request)
    {other : Place} (apart : other ≠ bucket.place request.answered)
    : bucketIn (bucket.tryConsume buckets key request).2 other later key
      = bucketIn buckets other later key := by
  cases placed : bucket.place request.answered with
  | memory =>
      rw [tryConsume_memory placed]
      cases other with
      | redis => rfl
      | memory => exact absurd placed.symm apart
  | redis =>
      obtain ⟨ops, wired, able, answered⟩ := place_redis placed
      rw [tryConsume_redis wired able answered]
      cases other with
      | redis => exact absurd placed.symm apart
      | memory => rfl

end

-----------------------------------------------------------------------------------------
-- Calls that follow others
-----------------------------------------------------------------------------------------

section
variable {distance : Int → Bool} {start stop longer : Rat} {calls : List Call}

theorem followingWithin_cons (call last : Call) (earlier : List Call)
    : followingWithin distance start stop (call :: last :: earlier)
      = followingWithin distance start stop (last :: earlier)
        + if inside start stop call.time && distance (call.time - last.time) then 1 else 0 :=
  List.countP_cons

theorem inside_of_longer (extended : stop ≤ longer) {time : Int}
    (within : inside start stop time = true)
    : inside start longer time = true := by
  simp only [inside, decide_eq_true_eq] at within ⊢
  exact ⟨within.1, within.2.trans extended⟩

theorem followingWithin_of_longer (extended : stop ≤ longer)
    : followingWithin distance start stop calls ≤ followingWithin distance start longer calls := by
  refine List.countP_mono_left (fun pair _ counted => ?_)
  simp only [Bool.and_eq_true] at counted ⊢
  exact ⟨inside_of_longer extended counted.1, counted.2⟩

theorem followingWithin_drop (dropped : Nat)
    : followingWithin distance start stop (calls.drop dropped)
      ≤ followingWithin distance start stop calls := by
  have pairs
      : (calls.drop dropped).zip (calls.drop dropped).tail
        = (calls.zip calls.tail).drop dropped := by
    rw [List.tail_drop, ← List.drop_one, List.zip_eq_zipWith, List.zip_eq_zipWith,
      List.drop_zipWith, List.drop_drop, Nat.add_comm 1]
  unfold followingWithin
  rw [pairs]
  exact (List.drop_sublist dropped _).countP_le

end

/-- What a call is granted, as a draw. -/
def Call.draw (call : Call) : Draw Rat Rat where
  time := seconds call.time
  amount := if call.granted then call.tokens else 0

theorem drawnWithin_calls (start stop : Rat) (calls : List Call)
    : drawnWithin start stop (calls.map Call.draw) = grantedWithin start stop calls := by
  induction calls with
  | nil => rfl
  | cons call earlier ih =>
      rw [List.map_cons, drawnWithin_cons, ih]
      by_cases granted : call.granted = true
      · by_cases within : start ≤ seconds call.time ∧ seconds call.time ≤ stop
        · simp [grantedWithin, Call.draw, inside, granted, within]
        · simp [grantedWithin, Call.draw, inside, granted, within]
      · simp [grantedWithin, Call.draw, granted]

/-- What flows into the bucket of some calls since a time, at the time of the newest. -/
def inflow (bucket : TokenBucket) (place : Place) (now : Int) (calls : List Call) (start : Rat)
    : Rat :=
  max 0 bucket.refillRate
      * (max 0 (seconds now - start) + quickWithin start (seconds now) calls)
    + max 0 bucket.capacity * lapsedWithin (bucket.lifetime place) start (seconds now) calls

-----------------------------------------------------------------------------------------
-- The inflow of a place covers what its calls draw
-----------------------------------------------------------------------------------------

section
variable {bucket : TokenBucket} {place : Place} {now later : Int} {calls : List Call}

theorem inflow_nonneg (start : Rat) : 0 ≤ bucket.inflow place now calls start := by
  have quick : (0 : Rat) ≤ quickWithin start (seconds now) calls := Nat.cast_nonneg _
  have lapsed : (0 : Rat) ≤ lapsedWithin (bucket.lifetime place) start (seconds now) calls :=
    Nat.cast_nonneg _
  exact add_nonneg
    (mul_nonneg (le_max_left _ _) (add_nonneg (le_max_left _ _) quick))
    (mul_nonneg (le_max_left _ _) lapsed)

/-- What a call adds to the bucket of the call before. -/
def gain (bucket : TokenBucket) (place : Place) (last now : Int) : Rat :=
  if bucket.gone place (now - last) then
    max 0 bucket.capacity
  else
    max 0 bucket.refillRate * max 1 (seconds now - seconds last)

theorem gain_nonneg (bucket : TokenBucket) (place : Place) (last now : Int)
    : 0 ≤ bucket.gain place last now := by
  unfold gain
  split
  · exact le_max_left _ _
  · exact mul_nonneg (le_max_left _ _) (zero_le_one.trans (le_max_left _ _))

/-- The inflow at the next call covers what that call adds. -/
theorem inflow_add_gain {start : Rat} {last : Call} {earlier : List Call} {call : Call}
    (ordered : last.time ≤ call.time) (begun : start ≤ seconds last.time)
    : bucket.inflow place last.time (last :: earlier) start
        + bucket.gain place last.time call.time
      ≤ bucket.inflow place call.time (call :: last :: earlier) start := by
  have passed : seconds last.time ≤ seconds call.time := RateLimiter.seconds_le_seconds ordered
  have within : inside start (seconds call.time) call.time = true :=
    decide_eq_true ⟨begun.trans passed, le_rfl⟩
  have more (distance : Int → Bool)
      : (followingWithin distance start (seconds last.time) (last :: earlier) : Rat)
          + (if distance (call.time - last.time) then 1 else 0)
        ≤ followingWithin distance start (seconds call.time) (call :: last :: earlier) := by
    rw [followingWithin_cons, within, Bool.true_and]
    have kept : followingWithin distance start (seconds last.time) (last :: earlier)
        ≤ followingWithin distance start (seconds call.time) (last :: earlier) :=
      followingWithin_of_longer passed
    split
    · exact_mod_cast Nat.add_le_add_right kept 1
    · exact_mod_cast kept
  have quick := more (fun elapsed => elapsed < 1000)
  have lapsed := more (fun elapsed => (bucket.lifetime place).any (fun kept => kept ≤ elapsed))
  unfold inflow gain gone quickWithin lapsedWithin
  rw [max_eq_right (sub_nonneg.mpr begun), max_eq_right (sub_nonneg.mpr (begun.trans passed))]
  split at lapsed
  · rename_i ended
    rw [if_pos ended]
    have flowed := mul_le_mul_of_nonneg_left
      (add_le_add (sub_le_sub_right passed start)
        ((le_add_of_nonneg_right (by split <;> norm_num)).trans quick))
      (le_max_left 0 bucket.refillRate)
    have renewed := mul_le_mul_of_nonneg_left lapsed (le_max_left 0 bucket.capacity)
    linarith
  · rename_i live
    rw [if_neg live]
    have least
        : max 1 (seconds call.time - seconds last.time)
          ≤ seconds call.time - seconds last.time
            + if decide (call.time - last.time < 1000) = true then 1 else 0 := by
      rw [seconds_sub]
      split
      · have early : 0 ≤ ((call.time - last.time : Int) : Rat) / 1000 := by
          rw [← seconds_sub]
          exact sub_nonneg.mpr passed
        exact max_le (le_add_of_nonneg_left early) (le_add_of_nonneg_right zero_le_one)
      · rename_i slow
        have second : (1000 : Rat) ≤ (call.time - last.time : Int) := by
          simp only [decide_eq_true_eq, not_lt] at slow
          exact_mod_cast slow
        rw [add_zero]
        exact max_le (by linarith) le_rfl
    have flowed := mul_le_mul_of_nonneg_left (add_le_add least quick)
      (le_max_left 0 bucket.refillRate)
    have renewed := mul_le_mul_of_nonneg_left lapsed (le_max_left 0 bucket.capacity)
    linarith

/-- What a place holds for a key after some calls it answered: the bucket of the newest, which the
capacity and the inflow have funded.
-/
def Follows (bucket : TokenBucket) (key : String) (buckets : KeyedBuckets) (place : Place)
    : List Call → Prop
  | [] => ∀ later, bucketIn buckets place later key = none
  | last :: earlier =>
      ∃ state : BucketState,
        state.lastRefill = last.time
        ∧ (∀ later,
            last.time ≤ later
            → bucketIn buckets place later key
              = if bucket.gone place (later - last.time) then none else some state)
        ∧ Funded (max 0 bucket.capacity) (bucket.inflow place last.time (last :: earlier))
            ((last :: earlier).map Call.draw) state.tokens

section
variable {key : String} {buckets : KeyedBuckets} {request : Request}

theorem gone_of_longer {elapsed longer : Int} (more : elapsed ≤ longer)
    (gone : bucket.gone place elapsed = true)
    : bucket.gone place longer = true := by
  unfold TokenBucket.gone at gone ⊢
  cases kept : bucket.lifetime place with
  | none => simp [kept] at gone
  | some lifetime =>
      simp only [kept, Option.any_some, decide_eq_true_eq] at gone ⊢
      exact gone.trans more

/-- A call draws from a bucket that is funded when it is refreshed. -/
theorem funded_consume {found : Option BucketState} {inflow : Rat → Rat} {draws : List (Draw Rat Rat)}
    (counted : 0 ≤ request.tokens) (placed : Place)
    (funded
      : Funded (max 0 bucket.capacity) inflow draws
          (bucket.refreshed request.time found).tokens)
    : let consumed := bucket.consume request.time request.tokens found
      Funded (max 0 bucket.capacity) inflow
        (Call.draw ⟨request.time, placed, request.tokens, consumed.1⟩ :: draws)
        consumed.2.tokens := by
  intro consumed
  rcases bucket.consume_cases request.time request.tokens found with
    ⟨granted, enough, left⟩ | ⟨refused, left⟩
  · have drawn := funded.spend (seconds request.time) counted (.inr enough)
    simpa [consumed, granted, left, Call.draw] using drawn
  · have drawn := funded.spend (seconds request.time) le_rfl (.inl rfl)
    simpa [consumed, refused, left, Call.draw] using drawn

theorem follows_congr {next : KeyedBuckets}
    (same : ∀ later, bucketIn next place later key = bucketIn buckets place later key)
    (follows : Follows bucket key buckets place calls)
    : Follows bucket key next place calls := by
  cases calls with
  | nil => exact fun later => (same later).trans (follows later)
  | cons last earlier =>
      obtain ⟨state, wrote, kept, funded⟩ := follows
      exact ⟨state, wrote, fun later ordered => (same later).trans (kept later ordered), funded⟩

/-- The call in the place that answers it. -/
theorem follows_own (counted : 0 ≤ request.tokens)
    (newer : ∀ call ∈ calls, call.time ≤ request.time)
    (sorted : calls.Pairwise (fun later earlier => earlier.time ≤ later.time))
    (follows : Follows bucket key buckets (bucket.place request.answered) calls)
    : let called := bucket.tryConsume buckets key request
      let place := bucket.place request.answered
      Follows bucket key called.2 place
        (⟨request.time, place, request.tokens, called.1⟩ :: calls) := by
  intro called place
  obtain ⟨answer, leaves⟩ := tryConsume_own bucket buckets key request
  have refilled : (bucket.consume request.time request.tokens
      (bucketIn buckets place request.time key)).2.lastRefill = request.time := by
    rcases bucket.consume_cases request.time request.tokens
      (bucketIn buckets place request.time key) with ⟨_, _, left⟩ | ⟨_, left⟩ <;> rw [left]
  refine ⟨_, refilled, fun later ordered => leaves later ordered (fun gone => ?_), ?_⟩
  · cases calls with
    | nil => exact follows later
    | cons last earlier =>
        obtain ⟨state, _, kept, _⟩ := follows
        have ordered' := newer last List.mem_cons_self
        rw [kept later (ordered'.trans ordered), if_pos (gone_of_longer (by omega) gone)]
  · rw [List.map_cons, show called.1 = _ from answer]
    refine funded_consume counted place ?_
    cases calls with
    | nil =>
        rw [show bucketIn buckets place request.time key = none from follows _, refreshed_none]
        exact .nil (le_max_left _ _) (le_max_right _ _) inflow_nonneg
    | cons last earlier =>
        obtain ⟨state, wrote, kept, funded⟩ := follows
        have ordered := newer last List.mem_cons_self
        refine funded.refill (le_max_left _ _) ((refreshed_le _).trans (le_max_right _ _))
          inflow_nonneg ?_ (gain_nonneg bucket place last.time request.time) ?_
        · rintro start ⟨_, mem, counts⟩
          obtain ⟨call, made, rfl⟩ := List.mem_map.mp mem
          have ended : call.time ≤ last.time := by
            rcases List.mem_cons.mp made with rfl | before
            · exact le_rfl
            · exact (List.pairwise_cons.mp sorted).1 call before
          exact inflow_add_gain ordered (counts.trans (RateLimiter.seconds_le_seconds ended))
        · rw [kept _ ordered]
          unfold gain
          split
          · rw [refreshed_none]
            exact .inr (le_max_right _ _)
          · rw [← wrote]
            exact .inl (refreshed_some (wrote ▸ ordered))

end

-----------------------------------------------------------------------------------------
-- Any interval of a run
-----------------------------------------------------------------------------------------

theorem answeredBy_cons_own {call : Call} (own : call.place = place)
    : answeredBy place (call :: calls) = call :: answeredBy place calls :=
  List.filter_cons_of_pos (decide_eq_true own)

theorem answeredBy_cons_other {call : Call} (other : call.place ≠ place)
    : answeredBy place (call :: calls) = answeredBy place calls :=
  List.filter_cons_of_neg (by simpa using other)

theorem callsAt_times (bucket : TokenBucket) (key : String) (requests : List Request)
    : (bucket.callsAt key requests).1.map Call.time = requests.map Request.time := by
  induction requests with
  | nil => rfl
  | cons request earlier ih => exact congrArg (request.time :: ·) ih

/-- The calls of a run are in the order of their requests. -/
theorem callsAt_sorted (bucket : TokenBucket) (key : String) {requests : List Request}
    (ordered : requests.Pairwise (fun later earlier => earlier.time ≤ later.time))
    : (bucket.callsAt key requests).1.Pairwise (fun later earlier => earlier.time ≤ later.time) := by
  have timed := callsAt_times bucket key requests
  have sorted : (requests.map Request.time).Pairwise (fun later earlier => earlier ≤ later) :=
    List.pairwise_map.mpr ordered
  rw [← timed] at sorted
  exact List.pairwise_map.mp sorted

/-- Each place holds what its calls have left, by induction on the requests. -/
theorem callsAt_follows (bucket : TokenBucket) (key : String) {requests : List Request}
    (ordered : requests.Pairwise (fun later earlier => earlier.time ≤ later.time))
    (counted : ∀ request ∈ requests, 0 ≤ request.tokens) (place : Place)
    : Follows bucket key (bucket.callsAt key requests).2 place
        (answeredBy place (bucket.callsAt key requests).1) := by
  induction requests with
  | nil => exact fun _ => by cases place <;> rfl
  | cons request earlier ih =>
      have follows := ih (List.pairwise_cons.mp ordered).2
        (fun before mem => counted before (List.mem_cons_of_mem _ mem))
      obtain ⟨newer, sorted⟩ :=
        List.pairwise_cons.mp (callsAt_sorted bucket key ordered)
      have listed
          : answeredBy place (bucket.callsAt key earlier).1
            ⊆ (bucket.callsAt key earlier).1 :=
        List.filter_subset_self _
      by_cases own : bucket.place request.answered = place
      · simp only [callsAt]
        rw [answeredBy_cons_own own]
        subst own
        exact follows_own (counted request List.mem_cons_self)
          (fun call mem => newer call (listed mem)) (sorted.sublist List.filter_sublist) follows
      · simp only [callsAt]
        rw [answeredBy_cons_other own]
        exact follows_congr (fun later => tryConsume_other _ _ _ (Ne.symm own)) follows

theorem exists_drop_answeredBy (place : Place) (calls : List Call) (dropped : Nat)
    : ∃ more, (answeredBy place calls).drop dropped = answeredBy place (calls.drop more) := by
  induction calls generalizing dropped with
  | nil => exact ⟨0, List.drop_nil⟩
  | cons call earlier ih =>
      cases dropped with
      | zero => exact ⟨0, rfl⟩
      | succ dropped =>
          by_cases own : call.place = place
          · obtain ⟨more, same⟩ := ih dropped
            exact ⟨more + 1, by rw [answeredBy_cons_own own]; exact same⟩
          · obtain ⟨more, same⟩ := ih (dropped + 1)
            exact ⟨more + 1, by rw [answeredBy_cons_other own]; exact same⟩

theorem callsAt_drop (bucket : TokenBucket) (key : String) (requests : List Request)
    (dropped : Nat)
    : (bucket.callsAt key requests).1.drop dropped
      = (bucket.callsAt key (requests.drop dropped)).1 :=
  drop_history (fun requests => (bucket.callsAt key requests).1) rfl (fun _ _ => ⟨_, rfl⟩)
    requests dropped

end

/-- In any interval the calls a place answers are granted at most the capacity, what the refill
rate gives in the time of the interval and in one second more for each call that comes within a
second of the one before, and one capacity for each call that finds its bucket gone.
-/
theorem grantedWithin_le (bucket : TokenBucket) (key : String) {requests : List Request}
    (ordered : requests.Pairwise (fun later earlier => earlier.time ≤ later.time))
    (counted : ∀ request ∈ requests, 0 ≤ request.tokens) (place : Place) {start stop : Rat}
    (begun : start ≤ stop)
    : let calls := answeredBy place (bucket.callsAt key requests).1
      grantedWithin start stop calls
      ≤ max 0 bucket.capacity
        + max 0 bucket.refillRate * (stop - start + quickWithin start stop calls)
        + max 0 bucket.capacity * lapsedWithin (bucket.lifetime place) start stop calls := by
  intro calls
  rw [← drawnWithin_calls]
  refine drawnWithin_le ?_ (fun dropped ended => ?_)
  · refine List.pairwise_map.mpr ?_
    exact ((callsAt_sorted bucket key ordered).sublist List.filter_sublist).imp RateLimiter.seconds_le_seconds
  · have nonneg
        : 0 ≤ max 0 bucket.capacity
            + max 0 bucket.refillRate * (stop - start + quickWithin start stop calls)
            + max 0 bucket.capacity * lapsedWithin (bucket.lifetime place) start stop calls := by
      have elapsed : 0 ≤ stop - start := sub_nonneg.mpr begun
      positivity
    rw [← List.map_drop] at ended ⊢
    have quick : quickWithin start stop (calls.drop dropped) ≤ quickWithin start stop calls :=
      followingWithin_drop dropped
    have lapsed
        : lapsedWithin (bucket.lifetime place) start stop (calls.drop dropped)
          ≤ lapsedWithin (bucket.lifetime place) start stop calls :=
      followingWithin_drop dropped
    obtain ⟨more, same⟩ := exists_drop_answeredBy place (bucket.callsAt key requests).1 dropped
    have follows := callsAt_follows bucket key (ordered.drop : (requests.drop more).Pairwise _)
      (fun request mem => counted request (List.mem_of_mem_drop mem)) place
    rw [← callsAt_drop, ← same] at follows
    cases held : calls.drop dropped with
    | nil => exact nonneg
    | cons last earlier =>
        rw [held] at ended quick lapsed
        obtain ⟨state, _, _, funded⟩ : Follows bucket key _ place (last :: earlier) := held ▸ follows
        have inTime : seconds last.time ≤ stop := ended _ List.mem_cons_self
        calc
          drawnSince start ((last :: earlier).map Call.draw)
              ≤ max 0 bucket.capacity + bucket.inflow place last.time (last :: earlier) start :=
            funded.drawn start
          _ ≤ max 0 bucket.capacity
              + (max 0 bucket.refillRate * (stop - start + quickWithin start stop calls)
                + max 0 bucket.capacity
                  * lapsedWithin (bucket.lifetime place) start stop calls) := by
            refine add_le_add_right (add_le_add ?_ ?_) _
            · refine mul_le_mul_of_nonneg_left (add_le_add ?_ ?_) (le_max_left _ _)
              · exact max_le (sub_nonneg.mpr begun) (sub_le_sub_right inTime start)
              · exact_mod_cast (followingWithin_of_longer inTime).trans quick
            · refine mul_le_mul_of_nonneg_left ?_ (le_max_left _ _)
              exact_mod_cast (followingWithin_of_longer inTime).trans lapsed
          _ = _ := (add_assoc ..).symm

/-- Two calls in the same millisecond and a third two seconds later. -/
theorem grantedWithin_le_of_burst
    : let calls :=
        answeredBy .memory
          (callsAt ⟨none, 5, 1⟩ "client" [⟨2000, 3, true⟩, ⟨0, 3, true⟩, ⟨0, 3, true⟩]).1
      grantedWithin 0 2 calls
      ≤ max 0 5 + max 0 1 * (2 - 0 + quickWithin 0 2 calls)
        + max 0 5 * lapsedWithin none 0 2 calls :=
  grantedWithin_le ⟨none, 5, 1⟩ "client" (by decide) (by decide) .memory (by norm_num)

/-- The second of two calls at once is granted what a second would refill. -/
theorem grantedWithin_of_two_at_once
    : ¬(∀ capacity refillRate : Rat,
          ∀ requests : List Request,
            requests.Pairwise (fun later earlier => earlier.time ≤ later.time)
            → (∀ request ∈ requests, 0 ≤ request.tokens)
            → ∀ start stop,
                start ≤ stop
                → grantedWithin start stop
                    (callsAt ⟨none, capacity, refillRate⟩ "client" requests).1
                  ≤ capacity + refillRate * (stop - start)) := by
  intro bounded
  have ended := bounded 1 1 [⟨0, 1, true⟩, ⟨0, 1, true⟩] (by decide) (by decide) 0 0 le_rfl
  revert ended
  decide +kernel

end TokenBucket

end QueueForge.RateLimiting
