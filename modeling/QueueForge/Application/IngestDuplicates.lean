import QueueForge.Application.IngestStages
import QueueForge.Application.IngestWiring
import QueueForge.Async.Interleaving

/-! Ingestions of one key at the same time.
The lookup of the key and its recording are awaits apart, so several calls can miss. While
no lookup falls in between, one call ingests and the others are answered with its result.
-/

namespace QueueForge.Application

open QueueForge.Async QueueForge.Js QueueForge.Domain

/-- Requests that carry the same identifiers and version. -/
structure DuplicateRequests (ι : Type) where
  body : ι → RequestBody
  sameEmailId : ∀ i j, (body i).emailId = (body j).emailId
  sameAgentId : ∀ i j, (body i).agentId = (body j).agentId
  sameAgentVersion : ∀ i j, (body i).agentVersion = (body j).agentVersion

/-- The service with an idempotency cache. -/
def IngestDependencies.withCache (deps : IngestDependencies) : IngestDependencies := {
  deps with
  cache := some IdempotencyCache.methods
}

/-- The calls of the service before any of them has started. -/
def ingestions {ι : Type} (deps : IngestDependencies) (requests : DuplicateRequests ι)
    (store : IngestStore)
    : Configuration IngestSignature Thrown ι IngestResultResponse (IngestWorld ι) where
  process i := IngestResultService.ingest deps.withCache (some (requests.body i))
  world := ⟨store, []⟩

/-- At most one set of records was made, and every call that returned answers with it. -/
def IngestedOnce {ι : Type} (deps : IngestDependencies) (store : IngestStore)
    (config : Configuration IngestSignature Thrown ι IngestResultResponse (IngestWorld ι))
    : Prop :=
  ∃ resultId made,
    OneSet deps.withCache resultId made
    ∧ config.world.store = { store.writeAll made with redis := config.world.store.redis }
    ∧ ∀ i response, config.process i = .done response → response.resultId = resultId

/-! What the trace tells of the calls so far. -/

namespace IngestEntry

variable {ι : Type}

def rejected (entry : IngestEntry ι) : Bool :=
  match entry.result with
  | .ok _ => false
  | .error _ => true

/-- What a lookup of the cache gave, if the entry is one. -/
def looked? : IngestEntry ι → Option (Option IngestResultResponse)
  | ⟨_, .redisGet _, .ok found⟩ => some found
  | _ => none

def missed (entry : IngestEntry ι) : Bool :=
  entry.looked?.any Option.isNone

def found (entry : IngestEntry ι) : Bool :=
  entry.looked?.any Option.isSome

def wrote (entry : IngestEntry ι) : Bool :=
  entry.call.isWrite && !entry.rejected

end IngestEntry

section
variable {ι : Type} [DecidableEq ι]

/-- The caller's lookup missed and no call of it was rejected since: it ingests, or has. -/
def ingests (caller : ι) : List (IngestEntry ι) → Bool
  | [] => false
  | entry :: earlier =>
      if entry.caller = caller ∧ (entry.missed || entry.rejected) = true then
        entry.missed
      else
        ingests caller earlier

/-- No lookup found an entry, nothing was written, and no caller ingests. -/
def untouched (trace : List (IngestEntry ι)) : Bool :=
  trace.all (fun entry => !entry.found && !entry.wrote && !ingests entry.caller trace)

/-- A lookup of the cache rejects, finds a live entry, or comes before anything was done. -/
def coversLookup (env : IngestEnvironment ι) (world : IngestWorld ι) (caller : ι)
    : IngestCall → Bool
  | .redisGet key =>
      (env.rejection caller world (.redisGet key)).isSome
      || (world.store.cached? key (env.now world.trace)).isSome
      || untouched world.trace
  | _ => true

/-- The schedules that look the cache up only where that covers the caller. -/
def permitsCovered (env : IngestEnvironment ι) (world : IngestWorld ι) (caller : ι)
    (call : IngestCall)
    : Prop :=
  coversLookup env world caller call = true

instance (env : IngestEnvironment ι) (world : IngestWorld ι) (caller : ι) (call : IngestCall)
    : Decidable (permitsCovered env world caller call) :=
  inferInstanceAs (Decidable (coversLookup env world caller call = true))

end

/-! What a new entry changes in what the trace tells. -/

section
variable {ι : Type} [DecidableEq ι] {caller : ι} {entry : IngestEntry ι}
  {trace : List (IngestEntry ι)}

theorem ingests_of_other (other : entry.caller ≠ caller)
    : ingests caller (entry :: trace) = ingests caller trace :=
  if_neg (fun here => other here.1)

theorem ingests_of_quiet (hit : entry.missed = false) (resolved : entry.rejected = false)
    : ingests caller (entry :: trace) = ingests caller trace :=
  if_neg (by simp [hit, resolved])

/-- A caller that ingests has an entry, by induction on the trace. -/
theorem ingests_member (does : ingests caller trace = true)
    : ∃ entry ∈ trace, entry.caller = caller := by
  induction trace with
  | nil => contradiction
  | cons entry earlier ih =>
      by_cases own : entry.caller = caller
      · exact ⟨entry, List.mem_cons_self, own⟩
      · rw [ingests_of_other own] at does
        obtain ⟨other, member, same⟩ := ih does
        exact ⟨other, List.mem_cons_of_mem entry member, same⟩

theorem untouched_found (untouched : untouched trace = true) (member : entry ∈ trace)
    : entry.found = false := by
  have clear := List.all_eq_true.mp untouched entry member
  simp only [Bool.and_eq_true, Bool.not_eq_true'] at clear
  exact clear.1.1

theorem untouched_wrote (untouched : untouched trace = true) (member : entry ∈ trace)
    : entry.wrote = false := by
  have clear := List.all_eq_true.mp untouched entry member
  simp only [Bool.and_eq_true, Bool.not_eq_true'] at clear
  exact clear.1.2

theorem untouched_ingests (untouched : untouched trace = true) (caller : ι)
    : ingests caller trace = false := by
  by_contra does
  obtain ⟨entry, member, rfl⟩ := ingests_member (Bool.of_not_eq_false does)
  have clear := List.all_eq_true.mp untouched entry member
  simp only [Bool.and_eq_true, Bool.not_eq_true'] at clear
  exact does clear.2

end

namespace IngestStore

/-- A write leaves the cache alone, and the cache the write. -/
theorem redis_write (store : IngestStore) (call : IngestCall)
    : (store.write call).redis = store.redis := by
  cases call <;> rfl

theorem write_redis (store : IngestStore) (redis : String → Option CacheEntry)
    (call : IngestCall)
    : ({ store with redis := redis }).write call
      = { store.write call with redis := redis } := by
  cases call <;> rfl

end IngestStore

/-! What a lookup finds from now on. -/

section
variable {ι : Type}

/-- What `GET` finds under a key has expired for good. -/
def Gone (env : IngestEnvironment ι) (key : String) (world : IngestWorld ι) : Prop :=
  ∀ entry, world.store.redis key = some entry → entry.expiresAt ≤ env.now world.trace

/-- The entry under a key, live or not, is of a result. -/
def Remembers (key resultId : String) (world : IngestWorld ι) : Prop :=
  ∃ entry, world.store.redis key = some entry ∧ entry.value.resultId = resultId

variable {env : IngestEnvironment ι} {key : String} {world : IngestWorld ι}

/-- Time passes with an entry. -/
theorem now_le_cons (env : IngestEnvironment ι) (entry : IngestEntry ι) (trace : List (IngestEntry ι))
    : env.now trace ≤ env.now (entry :: trace) := by
  simp only [IngestEnvironment.now]
  omega

theorem cached_of_gone (gone : Gone env key world)
    : world.store.cached? key (env.now world.trace) = none := by
  unfold IngestStore.cached?
  cases found : world.store.redis key with
  | none => rfl
  | some entry =>
      have expired := gone entry found
      exact if_neg (by omega)

/-- What has expired stays expired. -/
theorem Gone.cons (gone : Gone env key world) (entry : IngestEntry ι)
    : Gone env key { world with trace := entry :: world.trace } := by
  intro stored found
  have expired := gone stored found
  have passes := now_le_cons env entry world.trace
  simp only
  omega

theorem gone_of_missed (missed : world.store.cached? key (env.now world.trace) = none)
    : Gone env key world := by
  intro entry found
  unfold IngestStore.cached? at missed
  simp only [found] at missed
  split at missed
  · contradiction
  · omega

theorem remembers_of_cached {now : Int} {value : IngestResultResponse}
    (found : world.store.cached? key now = some value)
    : Remembers key value.resultId world := by
  unfold IngestStore.cached? at found
  split at found
  case h_1 entry stored =>
    split at found
    · cases found
      exact ⟨entry, stored, rfl⟩
    · contradiction
  case h_2 => contradiction

/-- Only one result is remembered under a key. -/
theorem Remembers.unique {first second : String} (one : Remembers key first world)
    (other : Remembers key second world)
    : first = second := by
  obtain ⟨entry, stored, rfl⟩ := one
  obtain ⟨same, found, rfl⟩ := other
  rw [stored] at found
  cases found
  rfl

end

/-! The invariant of a permitted schedule: at most one caller leads, the others have done
nothing or answer with its result.
-/

section
variable {ι : Type} [DecidableEq ι]

/-- The stages of a caller that leads, with what the world keeps of it. -/
inductive Leader (env : IngestEnvironment ι) (key : String) (world : IngestWorld ι)
    (leader : ι) (resultId : String)
    : IngestStage → Prop
  | answered (remembers : Remembers key resultId world)
    (found : ∃ entry ∈ world.trace, entry.found = true)
    : Leader env key world leader resultId (.answered resultId)
  | ingesting {made : List IngestCall} (gone : Gone env key world)
    (does : ingests leader world.trace = true)
    (wrote : made ≠ [] → ∃ entry ∈ world.trace, entry.wrote = true)
    : Leader env key world leader resultId (.ingesting made)
  | recorded {made : List IngestCall} (remembers : Remembers key resultId world)
    (does : ingests leader world.trace = true)
    : Leader env key world leader resultId (.recorded made resultId)
  | failed {made : List IngestCall} (gone : Gone env key world)
    (wrote : ∃ entry ∈ world.trace, entry.wrote = true)
    : Leader env key world leader resultId (.failed made)

/-- The stages of all callers but the leader. -/
def Follows (resultId : String) (leader : IngestStage) (stage : IngestStage) : Prop :=
  stage.Idle ∨ (stage = .answered resultId ∧ leader.resultId? = some resultId)

inductive Round (env : IngestEnvironment ι) (deps : IngestDependencies) (key : String)
    (store : IngestStore) (stages : ι → IngestStage) (world : IngestWorld ι)
    : Prop
  | idle (all : ∀ i, (stages i).Idle)
    (same : world.store = { store with redis := world.store.redis })
  | led (leader : ι) (resultId : String) (own : OneSet deps resultId (stages leader).made)
    (lead : Leader env key world leader resultId (stages leader))
    (others : ∀ i, i ≠ leader → Follows resultId (stages leader) (stages i))
    (same
      : world.store
        = { store.writeAll (stages leader).made with redis := world.store.redis })

variable {env : IngestEnvironment ι} {deps : IngestDependencies} {key : String}
  {store : IngestStore} {stages : ι → IngestStage} {world : IngestWorld ι}

/-- A leader stays one through an entry that leaves its own ingestion and the store alone. -/
theorem Leader.cons {leader : ι} {resultId : String} {stage : IngestStage}
    (lead : Leader env key world leader resultId stage) {entry : IngestEntry ι}
    (kept : ingests leader (entry :: world.trace) = ingests leader world.trace)
    : Leader env key { world with trace := entry :: world.trace } leader resultId stage := by
  have remains {property : IngestEntry ι → Bool}
      (seen : ∃ past ∈ world.trace, property past = true)
      : ∃ past ∈ entry :: world.trace, property past = true := by
    obtain ⟨past, member, holds⟩ := seen
    exact ⟨past, List.mem_cons_of_mem entry member, holds⟩
  cases lead with
  | answered remembers found => exact .answered remembers (remains found)
  | ingesting gone does wrote =>
      exact .ingesting (gone.cons entry) (kept.trans does) (fun some => remains (wrote some))
  | recorded remembers does => exact .recorded remembers (kept.trans does)
  | failed gone wrote => exact .failed (gone.cons entry) (remains wrote)

/-- Who leads has touched the trace. -/
theorem Leader.touched {leader : ι} {resultId : String} {stage : IngestStage}
    (lead : Leader env key world leader resultId stage)
    : untouched world.trace = false := by
  by_contra clear
  have clear := Bool.of_not_eq_false clear
  have notIngesting := untouched_ingests clear leader
  cases lead with
  | answered remembers found =>
      obtain ⟨entry, member, found⟩ := found
      exact nomatch found.symm.trans (untouched_found clear member)
  | ingesting gone does wrote => exact nomatch does.symm.trans notIngesting
  | recorded remembers does => exact nomatch does.symm.trans notIngesting
  | failed gone wrote =>
      obtain ⟨entry, member, wrote⟩ := wrote
      exact nomatch wrote.symm.trans (untouched_wrote clear member)

/-- A leader that found or recorded a result answers with it, and else no entry is live. -/
theorem Leader.remembers {leader : ι} {resultId : String} {stage : IngestStage}
    (lead : Leader env key world leader resultId stage)
    : (stage.resultId? = some resultId ∧ Remembers key resultId world)
      ∨ (stage.resultId? = none ∧ Gone env key world) := by
  cases lead with
  | answered remembers found => exact .inl ⟨rfl, remembers⟩
  | ingesting gone does wrote => exact .inr ⟨rfl, gone⟩
  | recorded remembers does => exact .inl ⟨rfl, remembers⟩
  | failed gone wrote => exact .inr ⟨rfl, gone⟩

theorem IngestStage.Idle.made {stage : IngestStage} (idle : stage.Idle) : stage.made = [] := by
  cases idle <;> rfl

/-- An entry of a call that neither missed nor rejected keeps the stages. -/
theorem Round.quiet (round : Round env deps key store stages world) {entry : IngestEntry ι}
    (hit : entry.missed = false) (resolved : entry.rejected = false)
    : Round env deps key store stages { world with trace := entry :: world.trace } := by
  cases round with
  | idle all same => exact .idle all same
  | led leader resultId own lead others same =>
      exact .led leader resultId own (lead.cons (ingests_of_quiet hit resolved)) others same

/-- A caller becomes idle among idle ones. -/
theorem idle_update {i : ι} {stage : IngestStage} (idle : stage.Idle)
    (others : ∀ other, other ≠ i → (stages other).Idle) (caller : ι)
    : (Function.update stages i stage caller).Idle := by
  by_cases here : caller = i
  · subst here
    rwa [Function.update_self]
  · rw [Function.update_of_ne here]
    exact others caller here

/-- A caller takes the lead. -/
theorem Round.lead (leader : ι) (resultId : String) {stage : IngestStage}
    (own : OneSet deps resultId stage.made)
    (lead : Leader env key world leader resultId stage)
    (others : ∀ i, i ≠ leader → (stages i).Idle)
    (same : world.store = { store.writeAll stage.made with redis := world.store.redis })
    : Round env deps key store (Function.update stages leader stage) world := by
  refine .led leader resultId ?_ ?_ ?_ ?_
  · rwa [Function.update_self]
  · rwa [Function.update_self]
  · intro i other
    rw [Function.update_of_ne other]
    exact .inl (others i other)
  · rwa [Function.update_self]

/-- A caller that waits moves on behind the leader. -/
theorem Round.follow {leader i : ι} {resultId : String} {stage : IngestStage}
    {entry : IngestEntry ι} (waiting : stages i = .waiting) (own : entry.caller = i)
    (set : OneSet deps resultId (stages leader).made)
    (lead : Leader env key world leader resultId (stages leader))
    (others : ∀ i, i ≠ leader → Follows resultId (stages leader) (stages i))
    (same
      : world.store
        = { store.writeAll (stages leader).made with redis := world.store.redis })
    (follows : Follows resultId (stages leader) stage)
    : Round env deps key store (Function.update stages i stage)
        { world with trace := entry :: world.trace } := by
  have apart : leader ≠ i := by
    rintro rfl
    rw [waiting] at lead
    cases lead
  have there : Function.update stages i stage leader = stages leader :=
    Function.update_of_ne apart stage stages
  refine .led leader resultId ?_ ?_ ?_ ?_
  · rwa [there]
  · rw [there]
    exact lead.cons (ingests_of_other (fun here => apart (here.symm.trans own)))
  · intro other notLeader
    rw [there]
    by_cases here : other = i
    · subst here
      rwa [Function.update_self]
    · rw [Function.update_of_ne here]
      exact others other notLeader
  · rwa [there]

/-- The lookup of a caller that waits makes it lead or follow. -/
theorem Round.lookedUp (round : Round env deps key store stages world) {i : ι}
    (waiting : stages i = .waiting) {found : Option IngestResultResponse}
    (looked : world.store.cached? key (env.now world.trace) = found)
    (covered : found.isSome = true ∨ untouched world.trace = true)
    : Round env deps key store (Function.update stages i (.lookedUp found))
        { world with trace := ⟨i, .redisGet key, .ok found⟩ :: world.trace } := by
  cases found with
  | none =>
      have clear : untouched world.trace = true := by simpa using covered
      cases round with
      | idle all same =>
          have does : ingests i (⟨i, .redisGet key, .ok none⟩ :: world.trace) = true :=
            if_pos ⟨rfl, rfl⟩
          exact .lead i "" .empty
            (.ingesting ((gone_of_missed looked).cons _) does (fun some => absurd rfl some))
            (fun other _ => all other) same
      | led leader resultId own lead others same =>
          cases lead.touched.symm.trans clear
  | some value =>
      have remembered := remembers_of_cached looked
      cases round with
      | idle all same =>
          exact .lead i _ .empty (.answered remembered ⟨_, List.mem_cons_self, rfl⟩)
            (fun other _ => all other) same
      | led leader resultId own lead others same =>
          rcases lead.remembers with ⟨tells, remembers⟩ | ⟨_, gone⟩
          · have one : value.resultId = resultId := remembered.unique remembers
            exact .follow waiting rfl own lead others same
              (.inr ⟨congrArg IngestStage.answered one, tells⟩)
          · cases looked.symm.trans (cached_of_gone gone)

/-- A caller whose lookup rejects has done nothing. -/
theorem Round.unanswered (round : Round env deps key store stages world) {i : ι}
    (waiting : stages i = .waiting) {entry : IngestEntry ι} (own : entry.caller = i)
    : Round env deps key store (Function.update stages i (.failed []))
        { world with trace := entry :: world.trace } := by
  cases round with
  | idle all same => exact .idle (idle_update .failed (fun other _ => all other)) same
  | led leader resultId set lead others same =>
      exact .follow waiting own set lead others same (.inl .failed)

/-- Whoever ingests leads, and the others have done nothing. -/
theorem Round.ingesting (round : Round env deps key store stages world) {i : ι}
    {made : List IngestCall} (stage : stages i = .ingesting made)
    : (∃ resultId, OneSet deps resultId made)
      ∧ Gone env key world
      ∧ ingests i world.trace = true
      ∧ (made ≠ [] → ∃ entry ∈ world.trace, entry.wrote = true)
      ∧ (∀ other, other ≠ i → (stages other).Idle)
      ∧ world.store = { store.writeAll made with redis := world.store.redis } := by
  cases round with
  | idle all same =>
      have idle := all i
      rw [stage] at idle
      cases idle
  | led leader resultId own lead others same =>
      have here : i = leader := by
        by_contra apart
        rcases others i apart with idle | ⟨answered, _⟩
        · rw [stage] at idle
          cases idle
        · exact nomatch stage.symm.trans answered
      subst here
      rw [stage] at own lead others same
      cases lead with
      | ingesting gone does wrote =>
          refine ⟨⟨resultId, own⟩, gone, does, wrote, ?_, same⟩
          intro other apart
          rcases others other apart with idle | ⟨_, tells⟩
          · exact idle
          · exact nomatch tells

/-- A call of the caller that ingests rejects: what it has written stays. -/
theorem Round.interrupted (round : Round env deps key store stages world) {i : ι}
    {made : List IngestCall} (stage : stages i = .ingesting made) (entry : IngestEntry ι)
    : Round env deps key store (Function.update stages i (.failed made))
        { world with trace := entry :: world.trace } := by
  obtain ⟨⟨resultId, own⟩, gone, _, wrote, others, same⟩ := round.ingesting stage
  by_cases nothing : made = []
  · subst nothing
    exact .idle (idle_update .failed others) same
  · obtain ⟨past, member, wrote⟩ := wrote nothing
    exact .lead i _ own (.failed (gone.cons entry) ⟨past, List.mem_cons_of_mem entry member, wrote⟩)
      others same

/-- The caller that ingests makes a write of its set. -/
theorem Round.wrote (round : Round env deps key store stages world) {i : ι}
    {made : List IngestCall} (stage : stages i = .ingesting made) {call : IngestCall}
    (writes : call.isWrite = true) {resultId : String}
    (own : OneSet deps resultId (made ++ [call])) (value : call.Result)
    : Round env deps key store (Function.update stages i (.ingesting (made ++ [call])))
        ⟨world.store.write call, ⟨i, call, .ok value⟩ :: world.trace⟩ := by
  obtain ⟨_, gone, does, _, others, same⟩ := round.ingesting stage
  have redis : (world.store.write call).redis = world.store.redis :=
    IngestStore.redis_write world.store call
  have hit : IngestEntry.missed ⟨i, call, .ok value⟩ = false := by
    cases call with
    | redisGet key => contradiction
    | _ => rfl
  have newEntry : IngestEntry.wrote ⟨i, call, .ok value⟩ = true := by
    simp [IngestEntry.wrote, IngestEntry.rejected, writes]
  refine .lead i _ own (.ingesting ?_ ?_ ?_) others ?_
  · intro entry stored
    rw [redis] at stored
    exact (gone.cons ⟨i, call, .ok value⟩) entry stored
  · exact (ingests_of_quiet hit rfl).trans does
  · exact fun _ => ⟨_, List.mem_cons_self, newEntry⟩
  · rw [IngestStage.made, redis, IngestStore.writeAll_append, same]
    exact IngestStore.write_redis _ _ call

/-- The caller that ingests records its response. -/
theorem Round.recorded (round : Round env deps key store stages world) {i : ι}
    {made : List IngestCall} (stage : stages i = .ingesting made)
    {value : IngestResultResponse} (own : OneSet deps value.resultId made) (now : Int)
    (ttlSeconds : Nat)
    : Round env deps key store (Function.update stages i (.recorded made value.resultId))
        ⟨world.store.after now (.redisSetex key ttlSeconds value),
          ⟨i, .redisSetex key ttlSeconds value, .ok ()⟩ :: world.trace⟩ := by
  obtain ⟨_, _, does, _, others, same⟩ := round.ingesting stage
  refine .lead i _ own (.recorded ?_ ?_) others ?_
  · exact ⟨⟨value, now + ttlSeconds * 1000⟩, Function.update_self key _ _, rfl⟩
  · exact (ingests_of_quiet rfl rfl).trans does
  · simp only [IngestStore.after, IngestStage.made]
    rw [same]

/-- A permitted call of a caller keeps the round, however it settles. -/
theorem Round.step (round : Round env deps key store stages world) {i : ι} {call : IngestCall}
    (allowed : (oneIngestion deps key).allows (stages i) call)
    (covered : permitsCovered env world i call)
    : Round env deps key store
        (Function.update stages i ((stages i).next call (env.serve i call world).1))
        (env.serve i call world).2 := by
  cases rejects : env.rejection i world call with
  | some error =>
      rw [IngestEnvironment.serve_of_rejects rejects]
      rcases allowed with free | leads
      · exact nomatch rejects.symm.trans (IngestEnvironment.rejection_of_free free)
      · generalize stage : stages i = current at leads
        cases leads with
        | lookUp => exact round.unanswered stage rfl
        | route routes => exact round.interrupted stage _
        | write writes own => exact round.interrupted stage _
        | record own => exact round.interrupted stage _
  | none =>
      rw [IngestEnvironment.serve_of_quiet rejects]
      generalize stage : stages i = current at allowed
      have unmoved (same : current.next call (.ok (env.answer i world call)) = current)
          : Function.update stages i (current.next call (.ok (env.answer i world call)))
            = stages := by
        rw [same, ← stage]
        exact Function.update_eq_self i stages
      rcases allowed with free | leads
      · cases call with
        | runtime =>
            rw [unmoved rfl]
            exact round.quiet rfl rfl
        | randomUUID =>
            rw [unmoved rfl]
            exact round.quiet rfl rfl
        | _ => contradiction
      · cases leads with
        | lookUp =>
            have either
                : (world.store.cached? key (env.now world.trace)).isSome = true
                  ∨ untouched world.trace = true := by
              simpa [permitsCovered, coversLookup, rejects] using covered
            exact round.lookedUp stage rfl either
        | route routes =>
            rcases routes with rfl | rfl
            · rw [unmoved rfl]
              exact round.quiet rfl rfl
            · rw [unmoved rfl]
              exact round.quiet rfl rfl
        | write writes own =>
            rw [next_write writes, (IngestCall.after_of_isWrite writes).2]
            exact round.wrote stage writes own _
        | record own => exact round.recorded stage own _ _

end

/-- Valid requests with the same members have the same key. -/
theorem DuplicateRequests.key {ι : Type} (requests : DuplicateRequests ι)
    (numberText : Number → String)
    : ∃ key, ∀ i request,
        ValidateResultService.validateRequest numberText (some (requests.body i)) = .ok request
        → IngestResultService.idempotencyKey request = key := by
  by_cases any
      : ∃ i request,
          ValidateResultService.validateRequest numberText (some (requests.body i))
            = .ok request
  · obtain ⟨i, request, accepted⟩ := any
    refine ⟨IngestResultService.idempotencyKey request, ?_⟩
    intro j other alsoAccepted
    have first := ValidateResultService.validated accepted
    have second := ValidateResultService.validated alsoAccepted
    have email : other.emailId = request.emailId :=
      Option.some.inj (second.emailId.symm.trans ((requests.sameEmailId j i).trans first.emailId))
    have agent : other.agentId = request.agentId :=
      Option.some.inj (second.agentId.symm.trans ((requests.sameAgentId j i).trans first.agentId))
    have version : other.agentVersion = request.agentVersion :=
      Option.some.inj
        (second.agentVersion.symm.trans
          ((requests.sameAgentVersion j i).trans first.agentVersion))
    unfold IngestResultService.idempotencyKey
    rw [email, agent, version]
  · exact ⟨"", fun i request accepted => absurd ⟨i, request, accepted⟩ any⟩

section
variable {ι : Type} [DecidableEq ι] {env : IngestEnvironment ι} {deps : IngestDependencies}
  {key : String} {store : IngestStore} {stages : ι → IngestStage} {world : IngestWorld ι}

/-- The calls that make no dependency call resolve. -/
theorem serve_resolves {i : ι} {call : IngestCall} (free : call.isDependency = false)
    : ∃ value, (env.serve i call world).1 = .ok value := by
  rw [IngestEnvironment.serve_of_quiet (IngestEnvironment.rejection_of_free free)]
  exact ⟨_, rfl⟩

/-- The answer to a permitted call is one its contract admits, and keeps the round. -/
theorem Round.served (round : Round env deps key store stages world) {i : ι} {call : IngestCall}
    (allowed : (oneIngestion deps key).allows (stages i) call)
    (covered : permitsCovered env world i call)
    : ∃ next,
        (oneIngestion deps key).answers (stages i) call (env.serve i call world).1 next
        ∧ Round env deps key store (Function.update stages i next) (env.serve i call world).2 :=
  ⟨_, ⟨rfl, serve_resolves⟩, round.step allowed covered⟩

/-- In every round one set was made at most, and it is the one that is answered. -/
theorem Round.once (round : Round env deps key store stages world)
    : ∃ resultId made,
        OneSet deps resultId made
        ∧ world.store = { store.writeAll made with redis := world.store.redis }
        ∧ ∀ i answered, (stages i).resultId? = some answered → answered = resultId := by
  cases round with
  | idle all same =>
      refine ⟨"", [], .empty, same, ?_⟩
      intro i answered tells
      have idle := all i
      generalize stages i = stage at idle tells
      cases idle <;> contradiction
  | led leader resultId own lead others same =>
      refine ⟨resultId, _, own, same, ?_⟩
      intro i answered tells
      by_cases here : i = leader
      · subst here
        rcases lead.remembers with ⟨told, _⟩ | ⟨silent, _⟩
        · exact Option.some.inj (tells.symm.trans told)
        · exact nomatch tells.symm.trans silent
      · rcases others i here with idle | ⟨stage, _⟩
        · generalize stages i = stage at idle tells
          cases idle <;> contradiction
        · rw [stage] at tells
          exact (Option.some.inj tells).symm

end

/-- Every state a permitted schedule reaches has at most one set of records, and it is the
one all callers are answered with.
-/
def IngestsOnce {ι : Type} [DecidableEq ι] (env : IngestEnvironment ι)
    (permits : IngestWorld ι → ι → IngestCall → Prop) (deps : IngestDependencies)
    (requests : DuplicateRequests ι) (store : IngestStore)
    : Prop :=
  ∀ config : Configuration IngestSignature Thrown ι IngestResultResponse (IngestWorld ι),
    Configuration.Reachable env.serve permits (ingestions deps requests store) config
    → IngestedOnce deps store config

/-- Duplicate requests are ingested once under every schedule that looks the cache up only
where a live entry is found, the lookup rejects, or nothing was done and nobody ingests.
-/
theorem duplicates_ingested_once {ι : Type} [DecidableEq ι] (env : IngestEnvironment ι)
    (deps : IngestDependencies) (requests : DuplicateRequests ι) (store : IngestStore)
    : IngestsOnce env (permitsCovered env) deps requests store := by
  intro config reached
  obtain ⟨key, sameKey⟩ := requests.key deps.withCache.numberText
  have gets : Collaborator.has (some IdempotencyCache.methods) "get" = true := by decide
  have records : Collaborator.has (some IdempotencyCache.methods) "set" = true := by decide
  have met
      : ∀ i,
          ((ingestions deps requests store).process i).Meets
            (oneIngestion deps.withCache key) .waiting IngestStage.Answers :=
    fun i => ingest_meets gets records (sameKey i)
  have start
      : Round env deps.withCache key store (fun _ => .waiting)
          (ingestions deps requests store).world :=
    .idle (fun _ => .waiting) rfl
  have kept (stages : ι → IngestStage) (world : IngestWorld ι) (i : ι) (call : IngestCall)
      (round : Round env deps.withCache key store stages world)
      (allowed : (oneIngestion deps.withCache key).allows (stages i) call)
      (covered : permitsCovered env world i call) :=
    round.served allowed covered
  obtain ⟨stages, owed, round⟩ := reached.invariant kept met start
  obtain ⟨resultId, made, own, same, answers⟩ := round.once
  refine ⟨resultId, made, own, same, ?_⟩
  intro i response returned
  have tells := owed i
  rw [returned] at tells
  exact answers i response.resultId (tells response rfl)

/-- Two calls with the sample request. -/
def Sample.duplicates : DuplicateRequests (Fin 2) where
  body _ := Sample.body "greeting"
  sameEmailId _ _ := rfl
  sameAgentId _ _ := rfl
  sameAgentVersion _ _ := rfl

/-- What a schedule makes of the two calls. -/
def Sample.duplicatesAfter (schedule : List (Fin 2))
    : Configuration IngestSignature Thrown (Fin 2) IngestResultResponse (IngestWorld (Fin 2)) :=
  (ingestions (DependencyContainer.wired (fun _ => "1")) Sample.duplicates Sample.store).follow
    (Sample.environment [] none).serve schedule

/-- One call after the other: the second is answered with the result of the first. -/
theorem duplicates_ingested_once_served
    : (Sample.duplicatesAfter [0, 0, 0, 0, 0, 0, 0, 1]).world.store.results.length = 1
      ∧ IngestedOnce (DependencyContainer.wired (fun _ => "1")) Sample.store
          (Sample.duplicatesAfter [0, 0, 0, 0, 0, 0, 0, 1]) := by
  refine ⟨by decide +kernel, ?_⟩
  exact
    duplicates_ingested_once (Sample.environment [] none)
      (DependencyContainer.wired (fun _ => "1")) Sample.duplicates Sample.store _
      (Configuration.reachable_follow [0, 0, 0, 0, 0, 0, 0, 1] _ (by decide +kernel))

/-- The calls that write a task result. -/
def IngestCall.savesResult : IngestCall → Bool
  | saveResult _ => true
  | createResult _ => true
  | createResultRecord _ => true
  | _ => false

/-- Each such call adds one task result, by induction on the calls. -/
theorem IngestStore.results_writeAll (store : IngestStore) (calls : List IngestCall)
    : (store.writeAll calls).results.length
      = store.results.length + calls.countP IngestCall.savesResult := by
  induction calls generalizing store with
  | nil => rfl
  | cons call rest ih =>
      have here
          : (store.write call).results.length
            = store.results.length + call.savesResult.toNat := by
        cases call <;> simp [IngestStore.write, IngestCall.savesResult]
      have later := ih (store.write call)
      rw [here] at later
      rw [List.countP_cons]
      refine later.trans ?_
      cases call.savesResult with
      | false => simp
      | true =>
          simp only [Bool.toNat_true, if_true]
          omega

/-- One set has one task result at most. -/
theorem OneSet.results_le {deps : IngestDependencies} {resultId : String}
    {made : List IngestCall} (own : OneSet deps resultId made)
    : made.countP IngestCall.savesResult ≤ 1 := by
  cases own with
  | empty => exact Nat.zero_le 1
  | planned plan own planned =>
      refine (planned.sublist.countP_le).trans ?_
      have ofResult
          : (resultWrites deps plan.result).countP IngestCall.savesResult ≤ 1 := by
        unfold resultWrites
        split_ifs <;> simp [IngestCall.savesResult]
      have ofDeliveries
          : (plan.deliveries.flatMap (deliveryWrites deps)).countP IngestCall.savesResult
            = 0 := by
        refine List.countP_eq_zero.mpr ?_
        intro call member
        obtain ⟨delivery, _, written⟩ := List.mem_flatMap.mp member
        unfold deliveryWrites at written
        split_ifs at written <;> simp_all [IngestCall.savesResult]
      have ofJobs
          : (plan.deliveries.flatMap (jobWrites deps plan.result.id.text)).countP
              IngestCall.savesResult
            = 0 := by
        refine List.countP_eq_zero.mpr ?_
        intro call member
        obtain ⟨delivery, _, written⟩ := List.mem_flatMap.mp member
        unfold jobWrites at written
        split_ifs at written <;> simp_all [IngestCall.savesResult]
      rw [plannedWrites, List.countP_append, List.countP_append, ofDeliveries, ofJobs]
      exact ofResult

/-- Two calls that look the key up before either has recorded it both ingest. -/
theorem duplicates_both_ingested
    : ¬IngestsOnce (Sample.environment [] none) (fun _ _ _ => True)
        (DependencyContainer.wired (fun _ => "1")) Sample.duplicates Sample.store := by
  intro once
  obtain ⟨resultId, made, own, same, _⟩ :=
    once (Sample.duplicatesAfter [0, 1, 0, 0, 0, 0, 1, 1, 1, 1])
      (Configuration.reachable_follow [0, 1, 0, 0, 0, 0, 1, 1, 1, 1] _ (by decide +kernel))
  have two
      : (Sample.duplicatesAfter [0, 1, 0, 0, 0, 0, 1, 1, 1, 1]).world.store.results.length
        = 2 := by
    decide +kernel
  have atMost := own.results_le
  rw [same] at two
  have written := IngestStore.results_writeAll Sample.store made
  simp only [Sample.store, List.length_nil] at written two
  omega

end QueueForge.Application
