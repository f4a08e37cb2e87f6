import Mathlib.Data.Fintype.Pi
import QueueForge.Daemon.LeaderElection

/-! Who may say that it leads.
The flag outlives the lease, and a resigning node deletes the lease before it lowers its
flag; so two nodes can lead unless a free lease is taken only when nobody counts on it.
-/

namespace QueueForge.Daemon

open QueueForge.Async QueueForge.Js

section
variable {ν κ : Type} [DecidableEq ν]

/-- After this reply, `participate` of a node goes on to set its flag. -/
def LeaderReply.grants (own : ν) : LeaderReply ν → Bool
  | ⟨.setNx _ _ _, .ok taken⟩ => taken
  | ⟨.get _, .ok owner⟩ => decide (owner = some own)
  | ⟨.pexpire _ _, .ok _⟩ => true
  | _ => false

/-- The last reply a call has got. -/
def lastReply? [DecidableEq κ] (caller : κ) (trace : List (LeaderEntry ν κ))
    : Option (LeaderReply ν) :=
  (trace.find? (fun entry => entry.caller = caller)).map LeaderEntry.reply

/-- A call whose last reply tells it that its node holds the lease. -/
def ElectionCall.granted (call : ElectionCall ν) (last : Option (LeaderReply ν)) : Bool :=
  call.action = .participate && last.any (LeaderReply.grants call.node)

/-- The node has its flag set, or a call of it is about to set the flag. -/
def CountsOn [DecidableEq κ] (calls : κ → ElectionCall ν) (world : LeaderWorld ν κ) (node : ν)
    : Prop :=
  world.isLeaderFlag node = true
  ∨ ∃ caller,
      (calls caller).node = node
      ∧ (calls caller).granted (lastReply? caller world.trace) = true

/-- A free lease is taken only when no other node counts on it. -/
def TakesUnclaimed [DecidableEq κ] (env : LeaderEnvironment ν κ) (calls : κ → ElectionCall ν)
    (world : LeaderWorld ν κ) (_ : κ)
    : LeaderCall ν → Prop
  | .setNx key owner _ =>
      live? world.redis key (env.now world.trace) = none
      → ∀ node, node ≠ owner → ¬CountsOn calls world node
  | _ => True

instance {ν κ : Type} [DecidableEq ν] [DecidableEq κ] [Fintype κ] (calls : κ → ElectionCall ν)
    (world : LeaderWorld ν κ) (node : ν)
    : Decidable (CountsOn calls world node) :=
  inferInstanceAs (Decidable (_ ∨ ∃ _, _ ∧ _))

instance {ν κ : Type} [DecidableEq ν] [DecidableEq κ] [Fintype ν] [Fintype κ]
    (env : LeaderEnvironment ν κ) (calls : κ → ElectionCall ν) (world : LeaderWorld ν κ)
    (caller : κ) (asked : LeaderCall ν)
    : Decidable (TakesUnclaimed env calls world caller asked) :=
  match asked with
  | .setNx key owner _ =>
      inferInstanceAs
        (Decidable
          (live? world.redis key (env.now world.trace) = none
            → ∀ node, node ≠ owner → ¬CountsOn calls world node))
  | .readFlag => isTrue trivial
  | .setFlag _ => isTrue trivial
  | .get _ => isTrue trivial
  | .pexpire _ _ => isTrue trivial
  | .del _ => isTrue trivial

/-! What a call owes: it sets the flag only after a reply that tells it to. -/

/-- The phase of a call is the last reply it got. -/
def electing (key : String) (call : ElectionCall ν)
    : Contract (LeaderSignature ν) Thrown (Option (LeaderReply ν)) where
  allows last
    | .setFlag value => value = true → call.granted last = true
    | .setNx asked owner _ => asked = key ∧ owner = call.node ∧ call.action = .participate
    | .get asked => asked = key
    | .pexpire asked _ => asked = key ∧ call.granted last = true
    | .del asked => asked = key
    | .readFlag => True
  answers _ asked result next :=
    next = some ⟨asked, result⟩ ∧ (asked.isCommand = false → ∃ value, result = .ok value)

end

theorem meets_awaitLeader {ν : Type}
    {contract : Contract (LeaderSignature ν) Thrown (Option (LeaderReply ν))}
    {last : Option (LeaderReply ν)} {asked : LeaderCall ν}
    {post : Settled Thrown asked.Result → Option (LeaderReply ν) → Prop}
    (allowed : contract.allows last asked)
    (met : ∀ result next, contract.answers last asked result next → post result next)
    : Program.Meets (α := no_index asked.Result) contract (awaitLeader asked) last post :=
  Program.meets_perform.mpr ⟨allowed, met⟩

section
variable {ν : Type} [DecidableEq ν] {key : String} {node : ν} {last : Option (LeaderReply ν)}

/-- Lowering the flag is always allowed. -/
theorem meets_lowerFlag {call : ElectionCall ν}
    : Program.Meets (α := no_index (LeaderCall.setFlag false : LeaderCall ν).Result)
        (electing key call) (awaitLeader (.setFlag false)) last (fun _ _ => True) :=
  meets_awaitLeader nofun (fun _ _ _ => trivial)

/-- Whoever acquires has been told so. -/
theorem acquire_meets
    : (LeaderElection.acquire ⟨node, key, true⟩).Meets (electing key ⟨node, .participate⟩) last
        (fun outcome last =>
          outcome = .ok true → ElectionCall.granted ⟨node, .participate⟩ last = true) := by
  unfold LeaderElection.acquire
  simp only [Program.bind_eq, Program.pure_eq, Program.meets_bind]
  refine meets_awaitLeader ?_ ?_
  · exact ⟨rfl, rfl, rfl⟩
  rintro (error | taken) _ ⟨rfl, _⟩
  · rintro ⟨⟩
  cases taken with
  | true => exact fun _ => rfl
  | false =>
      simp only [Bool.false_eq_true, if_false, Program.meets_bind]
      refine meets_awaitLeader ?_ ?_
      · exact rfl
      rintro (error | owner) _ ⟨rfl, _⟩
      · rintro ⟨⟩
      by_cases own : owner = some node
      · simp only [own, if_true, Program.meets_bind]
        have told
            : ElectionCall.granted ⟨node, .participate⟩
                (some (⟨.get key, .ok owner⟩ : LeaderReply ν))
              = true := by
          simp [ElectionCall.granted, LeaderReply.grants, own]
        rw [own] at told
        refine meets_awaitLeader ?_ ?_
        · exact ⟨rfl, told⟩
        rintro (error | refreshed) _ ⟨rfl, _⟩
        · rintro ⟨⟩
        · exact fun _ => rfl
      · simp only [own, if_false, Program.meets_done]
        rintro ⟨⟩

theorem participate_meets
    : (LeaderElection.participate ⟨node, key, true⟩).Meets (electing key ⟨node, .participate⟩)
        last (fun _ _ => True) := by
  unfold LeaderElection.participate
  simp only [if_true, Program.bind_eq, Program.pure_eq, Program.meets_catchError,
    Program.meets_bind]
  have fallsBack (error : Thrown) (last : Option (LeaderReply ν))
      : (LeaderElection.fallBack error).Meets (electing key ⟨node, .participate⟩) last
          (fun _ _ => True) := by
    have lowers
        : ((awaitLeader (.setFlag false)).bind (fun _ => .done false)).Meets
            (electing key ⟨node, .participate⟩) last (fun _ _ => True) := by
      refine Program.meets_bind.mpr (meets_lowerFlag.mono ?_)
      rintro (error | set) _ _ <;> trivial
    cases error with
    | nullish => trivial
    | text value => exact lowers
    | error object => exact lowers
  refine acquire_meets.mono ?_
  rintro (error | acquired) last told
  · exact fallsBack error last
  refine meets_awaitLeader ?_ ?_
  · rintro rfl
    exact told rfl
  · rintro (error | set) next _
    · exact fallsBack error next
    · trivial

theorem dropLease_meets {action : ElectionAction}
    : (LeaderElection.dropLease ⟨node, key, true⟩).Meets (electing key ⟨node, action⟩) last
        (fun _ _ => True) := by
  unfold LeaderElection.dropLease
  simp only [if_true, Program.bind_eq, Program.pure_eq, Program.meets_bind]
  refine meets_awaitLeader rfl ?_
  rintro (error | owner) _ _
  · trivial
  by_cases own : owner = some node
  · simp only [own, if_true]
    exact meets_awaitLeader rfl (fun _ _ _ => trivial)
  · simp only [own, if_false, Program.meets_done]

theorem resign_meets
    : (LeaderElection.resign ⟨node, key, true⟩).Meets (electing key ⟨node, .resign⟩) last
        (fun _ _ => True) := by
  unfold LeaderElection.resign
  simp only [Program.bind_eq, Program.pure_eq, Program.meets_bind]
  refine meets_awaitLeader trivial ?_
  rintro (error | isLeaderFlag) _ _
  · trivial
  cases isLeaderFlag with
  | false => trivial
  | true =>
      simp only [if_true, Program.meets_finallyRun, Program.meets_catchError]
      have lowers (last : Option (LeaderReply ν))
          : (awaitLeader (.setFlag false)).Meets (electing key ⟨node, .resign⟩) last
              (fun _ _ => True) :=
        meets_lowerFlag
      refine dropLease_meets.mono ?_
      rintro (error | dropped) last _
      · exact (lowers last).mono (by rintro (_ | _) _ _ <;> trivial)
      · exact (lowers last).mono (by rintro (_ | _) _ _ <;> trivial)

/-- A call meets its contract from the start. -/
theorem program_meets (key : String) (call : ElectionCall ν)
    : (call.program key).Meets (electing key call) last (fun _ _ => True) := by
  obtain ⟨node, action⟩ := call
  unfold ElectionCall.program
  cases action with
  | participate =>
      refine Program.meets_bind.mpr (participate_meets.mono ?_)
      rintro (error | acquired) _ _ <;> trivial
  | resign => exact resign_meets

end

/-! What a call changes in what nodes count on. -/

section
variable {ν κ : Type} {env : LeaderEnvironment ν κ} {redis : String → Option (Lease ν)}
  {key : String} {now later : Int}

/-- Time passes with an entry. -/
theorem leader_now_le_cons (entry : LeaderEntry ν κ) (trace : List (LeaderEntry ν κ))
    : env.now trace ≤ env.now (entry :: trace) := by
  simp only [LeaderEnvironment.now]
  omega

/-- A lease that is live later was live before. -/
theorem live?_earlier (passes : now ≤ later) {lease : Lease ν}
    (live : live? redis key later = some lease)
    : live? redis key now = some lease := by
  unfold live? at live ⊢
  obtain ⟨stored, alive⟩ := Option.filter_eq_some_iff.mp live
  refine Option.filter_eq_some_iff.mpr ⟨stored, ?_⟩
  simp only [decide_eq_true_eq] at alive ⊢
  omega

/-- A live lease is the one stored. -/
theorem live?_stored {lease : Lease ν} (live : live? redis key now = some lease)
    : redis key = some lease :=
  (Option.filter_eq_some_iff.mp live).1

/-- Only the taking of a free lease gives a key a new owner. -/
theorem apply_keepsOwner (passes : now ≤ later) {asked : LeaderCall ν}
    (atKey
      : match asked with
        | .setNx asked _ _ => asked = key ∧ live? redis key now ≠ none
        | .pexpire asked _ => asked = key
        | .del asked => asked = key
        | _ => True)
    {lease : Lease ν} (live : live? (asked.apply now redis) key later = some lease)
    : ∃ before, live? redis key now = some before ∧ before.owner = lease.owner := by
  cases asked with
  | readFlag => exact ⟨lease, live?_earlier passes live, rfl⟩
  | setFlag value => exact ⟨lease, live?_earlier passes live, rfl⟩
  | get asked => exact ⟨lease, live?_earlier passes live, rfl⟩
  | setNx asked owner px =>
      obtain ⟨rfl, taken⟩ := atKey
      obtain ⟨before, alive⟩ := Option.ne_none_iff_exists'.mp taken
      simp only [LeaderCall.apply, alive] at live
      exact ⟨lease, live?_earlier passes live, rfl⟩
  | pexpire asked px =>
      cases atKey
      cases alive : live? redis key now with
      | none =>
          simp only [LeaderCall.apply, alive] at live
          exact nomatch alive.symm.trans (live?_earlier passes live)
      | some before =>
          simp only [LeaderCall.apply, alive] at live
          have stored := live?_stored live
          rw [Function.update_self] at stored
          cases stored
          exact ⟨before, rfl, rfl⟩
  | del asked =>
      cases atKey
      have stored := live?_stored live
      simp only [LeaderCall.apply, Function.update_self] at stored
      contradiction

theorem lastReply?_cons [DecidableEq κ] (entry : LeaderEntry ν κ)
    (trace : List (LeaderEntry ν κ)) (caller : κ)
    : lastReply? caller (entry :: trace)
      = if entry.caller = caller then some entry.reply else lastReply? caller trace := by
  unfold lastReply?
  by_cases own : entry.caller = caller <;> simp [own]

end

section
variable {ν κ : Type} [DecidableEq ν] {env : LeaderEnvironment ν κ}
  {calls : κ → ElectionCall ν} {world : LeaderWorld ν κ} {caller : κ}
  {asked : LeaderCall ν}

/-- The trace after a call. -/
theorem serve_trace
    : (env.serve calls caller asked world).2.trace
      = ⟨caller, asked, (env.serve calls caller asked world).1⟩ :: world.trace := by
  unfold LeaderEnvironment.serve
  cases env.rejection world asked <;> rfl

/-- The leases after a call: those before it, or what the command makes of them. -/
theorem serve_redis (env : LeaderEnvironment ν κ) (calls : κ → ElectionCall ν) (caller : κ)
    (asked : LeaderCall ν) (world : LeaderWorld ν κ)
    : (env.serve calls caller asked world).2.redis = world.redis
      ∨ (env.serve calls caller asked world).2.redis
        = asked.apply (env.now world.trace) world.redis := by
  unfold LeaderEnvironment.serve
  cases env.rejection world asked with
  | none => exact .inr rfl
  | some fault =>
      cases applied : fault.applied with
      | true => exact .inr (by simp only [applied, if_true])
      | false => exact .inl (by simp only [applied, Bool.false_eq_true, if_false])

/-- A flag that is set after a call was set before, or the call set it. -/
theorem serve_flag {node : ν}
    (set : (env.serve calls caller asked world).2.isLeaderFlag node = true)
    : world.isLeaderFlag node = true
      ∨ (node = (calls caller).node ∧ asked = .setFlag true) := by
  unfold LeaderEnvironment.serve at set
  cases rejects : env.rejection world asked with
  | some fault =>
      rw [rejects] at set
      exact .inl set
  | none =>
      rw [rejects] at set
      cases asked with
      | setFlag value =>
          by_cases own : node = (calls caller).node
          · subst own
            have value : value = true := by
              simpa [LeaderEnvironment.flags] using set
            exact .inr ⟨rfl, congrArg LeaderCall.setFlag value⟩
          · have kept : world.isLeaderFlag node = true := by
              simpa [LeaderEnvironment.flags, own] using set
            exact .inl kept
      | _ => exact .inl set

/-- The uses of the flag resolve. -/
theorem serve_resolves (uses : asked.isCommand = false)
    : ∃ value, (env.serve calls caller asked world).1 = .ok value := by
  have quiet : env.rejection world asked = none := by
    unfold LeaderEnvironment.rejection
    rw [uses]
    rfl
  unfold LeaderEnvironment.serve
  rw [quiet]
  exact ⟨_, rfl⟩

theorem grants_of_granted {call : ElectionCall ν} {reply : LeaderReply ν}
    (granted : call.granted (some reply) = true)
    : reply.grants call.node = true := by
  simp only [ElectionCall.granted, Bool.and_eq_true] at granted
  exact granted.2

/-- A call that is granted something has resolved. -/
theorem granted_served
    (granted
      : (calls caller).granted (some ⟨asked, (env.serve calls caller asked world).1⟩) = true)
    : (calls caller).granted
        (some ⟨asked, .ok (env.answer (calls caller).node world asked)⟩)
      = true := by
  unfold LeaderEnvironment.serve at granted
  cases rejects : env.rejection world asked with
  | none =>
      rw [rejects] at granted
      exact granted
  | some fault =>
      rw [rejects] at granted
      have silent
          : LeaderReply.grants (calls caller).node ⟨asked, .error fault.error⟩ = false := by
        cases asked <;> rfl
      simp [ElectionCall.granted, silent] at granted

variable [DecidableEq κ]

/-- A node that counts on the lease after a call did so before, or is told to by the call. -/
theorem serve_countsOn {node : ν}
    (counts : CountsOn calls (env.serve calls caller asked world).2 node)
    : CountsOn calls world node
      ∨ (node = (calls caller).node
        ∧ (asked = .setFlag true
          ∨ (calls caller).granted (some ⟨asked, (env.serve calls caller asked world).1⟩)
            = true)) := by
  rcases counts with set | ⟨other, same, granted⟩
  · rcases serve_flag set with before | ⟨own, raises⟩
    · exact .inl (.inl before)
    · exact .inr ⟨own, .inl raises⟩
  · rw [serve_trace, lastReply?_cons] at granted
    by_cases here : caller = other
    · subst here
      rw [if_pos rfl] at granted
      exact .inr ⟨same.symm, .inr granted⟩
    · rw [if_neg here] at granted
      exact .inl (.inr ⟨other, same, granted⟩)

end

/-! The invariant: at most one node counts on the lease, and it is the owner of a live one. -/

section
variable {ν κ : Type} [DecidableEq ν] [DecidableEq κ]

/-- What holds in every state of a permitted interleaving. -/
structure LeaderSound (env : LeaderEnvironment ν κ) (key : String)
    (calls : κ → ElectionCall ν) (lasts : κ → Option (LeaderReply ν)) (world : LeaderWorld ν κ)
    : Prop where
  told : ∀ caller, lasts caller = lastReply? caller world.trace
  one : ∀ i j, CountsOn calls world i → CountsOn calls world j → i = j
  owned
    : ∀ lease,
        live? world.redis key (env.now world.trace) = some lease
        → ∀ node, CountsOn calls world node → node = lease.owner

variable {env : LeaderEnvironment ν κ} {key : String} {calls : κ → ElectionCall ν}
  {lasts : κ → Option (LeaderReply ν)} {world : LeaderWorld ν κ} {caller : κ}
  {asked : LeaderCall ν}

/-- The phases follow the trace. -/
theorem LeaderSound.told_served (sound : LeaderSound env key calls lasts world) (other : κ)
    : Function.update lasts caller (some ⟨asked, (env.serve calls caller asked world).1⟩) other
      = lastReply? other (env.serve calls caller asked world).2.trace := by
  rw [serve_trace, lastReply?_cons]
  by_cases here : caller = other
  · subst here
    rw [Function.update_self, if_pos rfl]
  · rw [Function.update_of_ne (Ne.symm here), if_neg here]
    exact sound.told other

/-- A call after which only the owner of the live lease counts on it anew, and the key has no
new owner, keeps the invariant.
-/
theorem LeaderSound.frame (sound : LeaderSound env key calls lasts world)
    (sameOwner
      : ∀ lease,
          live? (env.serve calls caller asked world).2.redis key
              (env.now (env.serve calls caller asked world).2.trace)
            = some lease
          → ∃ before,
              live? world.redis key (env.now world.trace) = some before
              ∧ before.owner = lease.owner)
    (counts
      : ∀ node,
          CountsOn calls (env.serve calls caller asked world).2 node
          → CountsOn calls world node
            ∨ ∃ lease,
                live? world.redis key (env.now world.trace) = some lease
                ∧ lease.owner = node)
    : LeaderSound env key calls
        (Function.update lasts caller (some ⟨asked, (env.serve calls caller asked world).1⟩))
        (env.serve calls caller asked world).2 := by
  refine ⟨sound.told_served, ?_, ?_⟩
  · intro i j first second
    rcases counts i first with hasI | ⟨lease, live, rfl⟩
    · rcases counts j second with hasJ | ⟨lease, live, rfl⟩
      · exact sound.one i j hasI hasJ
      · exact sound.owned lease live i hasI
    · rcases counts j second with hasJ | ⟨other, same, rfl⟩
      · exact (sound.owned lease live j hasJ).symm
      · rw [live] at same
        exact congrArg Lease.owner (Option.some.inj same)
  · intro lease live node has
    obtain ⟨before, wasLive, owner⟩ := sameOwner lease live
    rw [← owner]
    rcases counts node has with had | ⟨other, same, rfl⟩
    · exact sound.owned before wasLive node had
    · rw [wasLive] at same
      exact congrArg Lease.owner (Option.some.inj same).symm

/-- Taking a lease nobody else counts on keeps the invariant. -/
theorem LeaderSound.taken (sound : LeaderSound env key calls lasts world) {px : Nat}
    (free : live? world.redis key (env.now world.trace) = none)
    (unclaimed : ∀ node, node ≠ (calls caller).node → ¬CountsOn calls world node)
    : LeaderSound env key calls
        (Function.update lasts caller
          (some ⟨.setNx key (calls caller).node px,
            (env.serve calls caller (.setNx key (calls caller).node px) world).1⟩))
        (env.serve calls caller (.setNx key (calls caller).node px) world).2 := by
  have only {node : ν}
      (has
        : CountsOn calls
            (env.serve calls caller (.setNx key (calls caller).node px) world).2 node)
      : node = (calls caller).node := by
    rcases serve_countsOn has with had | ⟨own, _⟩
    · by_contra other
      exact unclaimed node other had
    · exact own
  refine ⟨sound.told_served, fun i j first second => (only first).trans (only second).symm, ?_⟩
  intro lease live node has
  rw [only has]
  rcases serve_redis env calls caller (.setNx key (calls caller).node px) world
    with same | applied
  · rw [same, serve_trace] at live
    have before := live?_earlier (leader_now_le_cons _ _) live
    exact nomatch free.symm.trans before
  · rw [applied] at live
    have stored := live?_stored live
    simp only [LeaderCall.apply, free, Function.update_self] at stored
    rw [← Option.some.inj stored]

/-- A permitted call keeps the invariant. -/
theorem LeaderSound.step (sound : LeaderSound env key calls lasts world)
    (allowed : (electing key (calls caller)).allows (lasts caller) asked)
    (permitted : TakesUnclaimed env calls world caller asked)
    : LeaderSound env key calls
        (Function.update lasts caller (some ⟨asked, (env.serve calls caller asked world).1⟩))
        (env.serve calls caller asked world).2 := by
  by_cases takes
      : ∃ px,
          asked = .setNx key (calls caller).node px
          ∧ live? world.redis key (env.now world.trace) = none
  · obtain ⟨px, rfl, free⟩ := takes
    exact sound.taken free (permitted free)
  have passes
      : env.now world.trace ≤ env.now (env.serve calls caller asked world).2.trace := by
    rw [serve_trace]
    exact leader_now_le_cons _ _
  refine sound.frame ?_ ?_
  · intro lease live
    rcases serve_redis env calls caller asked world with same | applied
    · rw [same] at live
      exact ⟨lease, live?_earlier passes live, rfl⟩
    · rw [applied] at live
      refine apply_keepsOwner passes ?_ live
      cases asked with
      | setNx asked owner px =>
          obtain ⟨rfl, rfl, _⟩ := allowed
          exact ⟨rfl, fun free => takes ⟨px, rfl, free⟩⟩
      | pexpire asked px => exact allowed.1
      | del asked => exact allowed
      | _ => trivial
  · intro node has
    rcases serve_countsOn has with had | ⟨rfl, raises | granted⟩
    · exact .inl had
    · subst raises
      have granted : (calls caller).granted (lasts caller) = true := allowed rfl
      rw [sound.told] at granted
      exact .inl (.inr ⟨caller, rfl, granted⟩)
    · have granted := granted_served granted
      cases asked with
      | setNx asked owner px =>
          obtain ⟨rfl, rfl, _⟩ := allowed
          have free
              : (live? world.redis asked (env.now world.trace)).isNone = true := by
            exact grants_of_granted granted
          exact absurd ⟨px, rfl, Option.isNone_iff_eq_none.mp free⟩ takes
      | get asked =>
          cases allowed
          have owner
              : (live? world.redis key (env.now world.trace)).map Lease.owner
                = some (calls caller).node :=
            of_decide_eq_true (grants_of_granted granted)
          obtain ⟨lease, live, own⟩ := Option.map_eq_some_iff.mp owner
          exact .inr ⟨lease, live, own⟩
      | pexpire asked px =>
          have before := allowed.2
          rw [sound.told] at before
          exact .inl (.inr ⟨caller, rfl, before⟩)
      | readFlag => exact nomatch grants_of_granted granted
      | setFlag value => exact nomatch grants_of_granted granted
      | del asked => exact nomatch grants_of_granted granted

/-- The answer to a permitted call is one its contract admits, and keeps the invariant. -/
theorem LeaderSound.served (sound : LeaderSound env key calls lasts world)
    (allowed : (electing key (calls caller)).allows (lasts caller) asked)
    (permitted : TakesUnclaimed env calls world caller asked)
    : ∃ next,
        (electing key (calls caller)).answers (lasts caller) asked
          (env.serve calls caller asked world).1 next
        ∧ LeaderSound env key calls (Function.update lasts caller next)
            (env.serve calls caller asked world).2 :=
  ⟨_, ⟨rfl, serve_resolves⟩, sound.step allowed permitted⟩

end

/-- At most one node leads in every interleaving that takes a free lease only when no other
node has its flag set or is about to set it.
-/
theorem elects_one_leader {ν κ : Type} [DecidableEq ν] [DecidableEq κ]
    (env : LeaderEnvironment ν κ) (key : String) (calls : κ → ElectionCall ν)
    (redis : String → Option (Lease ν))
    : ElectsOneLeader env key calls (TakesUnclaimed env calls) redis := by
  intro config reached i j first second
  have nobody (node : ν) : ¬CountsOn calls (elections key calls redis).world node := by
    rintro (set | ⟨caller, _, granted⟩)
    · exact nomatch set
    · simp [elections, lastReply?, ElectionCall.granted] at granted
  have start : LeaderSound env key calls (fun _ => none) (elections key calls redis).world :=
    ⟨fun _ => rfl, fun i _ counts => absurd counts (nobody i),
      fun _ _ node counts => absurd counts (nobody node)⟩
  have met (caller : κ)
      : ((elections key calls redis).process caller).Meets (electing key (calls caller)) none
          (fun _ _ => True) :=
    program_meets key (calls caller)
  have kept (lasts : κ → Option (LeaderReply ν)) (world : LeaderWorld ν κ) (caller : κ)
      (asked : LeaderCall ν) (sound : LeaderSound env key calls lasts world)
      (allowed : (electing key (calls caller)).allows (lasts caller) asked)
      (permitted : TakesUnclaimed env calls world caller asked) :=
    sound.served allowed permitted
  obtain ⟨lasts, _, sound⟩ := reached.invariant kept met start
  exact sound.one i j (.inl first) (.inl second)

namespace Sample

/-- The first node takes part and resigns, and the second takes part. -/
def calls : Fin 3 → ElectionCall (Fin 2)
  | 0 => ⟨0, .participate⟩
  | 1 => ⟨0, .resign⟩
  | 2 => ⟨1, .participate⟩

/-- A millisecond a call, and no failures. -/
def environment : LeaderEnvironment (Fin 2) (Fin 3) where
  start := 0
  elapsed _ := 1
  fault _ := none

/-- What a schedule makes of the calls, from a free lease. -/
def electionsAfter (schedule : List (Fin 3))
    : Configuration (LeaderSignature (Fin 2)) Thrown (Fin 3) Unit
        (LeaderWorld (Fin 2) (Fin 3)) :=
  (elections "daemon:leader:recovery" calls (fun _ => none)).follow (environment.serve calls)
    schedule

end Sample

open Sample

/-- One call after the other: the second node leads and the first does not. -/
theorem elects_one_leader_served
    : (electionsAfter [0, 0, 1, 1, 1, 1, 2, 2]).world.isLeaderFlag 1 = true
      ∧ OneLeader (electionsAfter [0, 0, 1, 1, 1, 1, 2, 2]).world := by
  refine ⟨by decide +kernel, ?_⟩
  exact
    elects_one_leader environment "daemon:leader:recovery" calls (fun _ => none) _
      (Configuration.reachable_follow [0, 0, 1, 1, 1, 1, 2, 2] _ (by decide +kernel))

/-- A node that resigns has deleted its lease and not yet lowered its flag when another takes
the lease: both lead.
-/
theorem resigning_leader_overlaps
    : ¬ElectsOneLeader environment "daemon:leader:recovery" calls (fun _ _ _ => True)
        (fun _ => none) := by
  intro one
  have both :=
    one (electionsAfter [0, 0, 1, 1, 1, 2, 2])
      (Configuration.reachable_follow [0, 0, 1, 1, 1, 2, 2] _ (by decide +kernel)) 0 1
      (by decide +kernel) (by decide +kernel)
  exact absurd both (by decide)

end QueueForge.Daemon
