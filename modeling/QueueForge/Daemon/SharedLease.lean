import QueueForge.Async.Throughout
import QueueForge.Async.Cleanup
import QueueForge.Daemon.LeaderElection

/-! The elections of one coordinator. They have one key and one owner, so they share a lease, and
the election that resigns deletes it for all of them.
-/

namespace QueueForge.Daemon

open QueueForge.Async QueueForge.Js

/-- Whether a daemon type is configured as a cluster-wide singleton, by its name in upper case. -/
def isSingletonName (typeStr : String) : Bool :=
  typeStr = "RECOVERY" || typeStr = "ADMIN_SYNC"

/-- What an election works on: the leases and its own flag. -/
structure ElectionState (ν : Type) where
  redis : String → Option (Lease ν)
  isLeaderFlag : Bool

/-- The commands that are not answered during an event. -/
abbrev LeaderFaults (ν : Type) : Type := LeaderCall ν → Option LeaderFault

section
variable {ν : Type} [DecidableEq ν]

/-- The answer of Redis to a command, and of the election to a use of its flag. -/
def ElectionState.answer (now : Int) (state : ElectionState ν)
    : (call : LeaderCall ν) → call.Result
  | .readFlag => state.isLeaderFlag
  | .setFlag _ => ()
  | .setNx key _ _ => (live? state.redis key now).isNone
  | .get key => (live? state.redis key now).map Lease.owner
  | .pexpire _ _ => ()
  | .del _ => ()

/-- The handler of an election's calls at a time. -/
def serveElection (now : Int) (faults : LeaderFaults ν)
    : Handler (LeaderSignature ν) Thrown (ElectionState ν) :=
  fun call state =>
    let applied := call.apply now state.redis
    match call, faults call with
    | .readFlag, _ => (.ok state.isLeaderFlag, state)
    | .setFlag value, _ => (.ok (), { state with isLeaderFlag := value })
    | _, some fault =>
        (.error fault.error, { state with redis := if fault.applied then applied else state.redis })
    | call, none => (.ok (state.answer now call), { state with redis := applied })

end

/-- The lease under the election's key is its node's. -/
def LeaderElection.Owns {ν : Type} (election : LeaderElection ν) (now : Int)
    (redis : String → Option (Lease ν))
    : Prop :=
  (live? redis election.leaderKey now).map Lease.owner = some election.daemonId

/-- A coordinator's node: its daemons and elections by type, and how many elections were replaced
whose refresh timers still run.
-/
structure CoordinatorNode (ν : Type) where
  now : Int
  redis : String → Option (Lease ν)
  daemons : List String
  elections : String → Option Bool
  orphans : Nat

inductive CoordinatorEvent (ν : Type) where
  | registerDaemon (typeStr : String) (faults : LeaderFaults ν)
  | deregisterDaemon (typeStr : String) (faults : LeaderFaults ν)
  | ensureLeadership (typeStr : String) (faults : LeaderFaults ν)
  /-- The refresh timer of an election fires. -/
  | refresh (typeStr : String) (faults : LeaderFaults ν)
  /-- The refresh timer of an election that was replaced fires. -/
  | refreshOrphan (faults : LeaderFaults ν)
  | wait (ms : Nat)
  /-- Other nodes have changed the leases. -/
  | elsewhere (redis : String → Option (Lease ν))

namespace CoordinatorNode

variable {ν : Type} [DecidableEq ν] (election : LeaderElection ν) (node : CoordinatorNode ν)

/-- The node after a call on the election of a type, which has a flag. -/
def call {α : Type} (typeStr : String) (flag : Bool) (faults : LeaderFaults ν)
    (program : LeaderProgram ν α)
    : CoordinatorNode ν :=
  let ran := (program.run (serveElection node.now faults) ⟨node.redis, flag⟩).2
  {
    node with
    redis := ran.redis
    elections := Function.update node.elections typeStr (some ran.isLeaderFlag)
  }

/-- A new election takes the place of one there was, whose timer goes on. -/
def registerDaemon (typeStr : String) (faults : LeaderFaults ν) : CoordinatorNode ν :=
  let registered := {
    node with
    daemons := if typeStr ∈ node.daemons then node.daemons else node.daemons ++ [typeStr]
  }
  if isSingletonName typeStr then
    let replaced := {
      registered with
      orphans := node.orphans + if node.elections typeStr = some true then 1 else 0
    }
    replaced.call typeStr false faults election.participate
  else
    registered

/-- The election resigns and is forgotten. -/
def deregisterDaemon (typeStr : String) (faults : LeaderFaults ν) : CoordinatorNode ν :=
  let stopped := { node with daemons := node.daemons.erase typeStr }
  match node.elections typeStr with
  | some flag =>
      let resigned := stopped.call typeStr flag faults election.resign
      { resigned with elections := Function.update resigned.elections typeStr none }
  | none => stopped

def ensureLeadership (typeStr : String) (faults : LeaderFaults ν) : CoordinatorNode ν :=
  if isSingletonName typeStr then
    node.call typeStr ((node.elections typeStr).getD false) faults election.participate
  else
    node

/-- An election has its timer while its flag is set. -/
def refresh (typeStr : String) (faults : LeaderFaults ν) : CoordinatorNode ν :=
  if node.elections typeStr = some true then
    node.call typeStr true faults election.participate
  else
    node

/-- The timer stops when the lease is not acquired. -/
def refreshOrphan (faults : LeaderFaults ν) : CoordinatorNode ν :=
  if node.orphans = 0 then
    node
  else
    let ran := (election.participate.run (serveElection node.now faults) ⟨node.redis, true⟩).2
    {
      node with
      redis := ran.redis
      orphans := if ran.isLeaderFlag then node.orphans else node.orphans - 1
    }

def after (event : CoordinatorEvent ν) (node : CoordinatorNode ν) : CoordinatorNode ν :=
  match event with
  | .registerDaemon typeStr faults => node.registerDaemon election typeStr faults
  | .deregisterDaemon typeStr faults => node.deregisterDaemon election typeStr faults
  | .ensureLeadership typeStr faults => node.ensureLeadership election typeStr faults
  | .refresh typeStr faults => node.refresh election typeStr faults
  | .refreshOrphan faults => node.refreshOrphan election faults
  | .wait ms => { node with now := node.now + ms }
  | .elsewhere redis => { node with redis := redis }

/-- A type whose election reports leadership holds its lease in Redis. -/
def HoldsLeases (node : CoordinatorNode ν) : Prop :=
  ∀ typeStr, node.elections typeStr = some true → election.Owns node.now node.redis

end CoordinatorNode

-----------------------------------------------------------------------------------------
-- One election
-----------------------------------------------------------------------------------------

section
variable {ν : Type} {election : LeaderElection ν} {now : Int} {faults : LeaderFaults ν}
  {state : ElectionState ν}

/-- The election's commands, other than a deletion. -/
def LeaderElection.Refreshes (election : LeaderElection ν) : LeaderCall ν → Prop
  | .setNx key owner px => key = election.leaderKey ∧ owner = election.daemonId ∧ 0 < px
  | .pexpire key px => key = election.leaderKey ∧ 0 < px
  | .del _ => False
  | _ => True

theorem live?_update {redis : String → Option (Lease ν)} {key : String} {lease : Lease ν}
    (lives : now < lease.expiresAt)
    : live? (Function.update redis key (some lease)) key now = some lease := by
  rw [live?, Function.update_self, Option.filter_some, if_pos (decide_eq_true lives)]

/-- A command without a fault is carried out and answered. -/
theorem serveElection_answered {call : LeaderCall ν} (command : call.isCommand = true)
    (working : faults call = none)
    : serveElection now faults call state
      = (.ok (state.answer now call), { state with redis := call.apply now state.redis }) := by
  cases call with
  | readFlag => exact nomatch command
  | setFlag value => exact nomatch command
  | _ => simp only [serveElection, working]

theorem serveElection_failed {call : LeaderCall ν} {fault : LeaderFault}
    (command : call.isCommand = true) (failed : faults call = some fault)
    : serveElection now faults call state
      = (.error fault.error, {
          state with
          redis := if fault.applied then call.apply now state.redis else state.redis
        }) := by
  cases call with
  | readFlag => exact nomatch command
  | setFlag value => exact nomatch command
  | _ => simp only [serveElection, failed]

/-- What a call leaves of the leases is what it makes of them, or what they were. -/
theorem redis_serveElection (call : LeaderCall ν)
    : (serveElection now faults call state).2.redis = call.apply now state.redis
      ∨ (serveElection now faults call state).2.redis = state.redis := by
  cases command : call.isCommand with
  | false => cases call <;> first | exact .inr rfl | exact nomatch command
  | true =>
      cases failed : faults call with
      | none => exact .inl (congrArg (fun ran => ran.2.redis) (serveElection_answered command failed))
      | some fault =>
          rw [serveElection_failed command failed]
          cases fault.applied with
          | true => exact .inl rfl
          | false => exact .inr rfl

/-- A command that refreshes leaves the election its lease. -/
theorem owns_apply {call : LeaderCall ν} {redis : String → Option (Lease ν)}
    (refreshes : election.Refreshes call) (owns : election.Owns now redis)
    : election.Owns now (call.apply now redis) := by
  obtain ⟨lease, live, owner⟩ := Option.map_eq_some_iff.mp owns
  cases call with
  | readFlag => exact owns
  | setFlag value => exact owns
  | get key => exact owns
  | del key => exact refreshes.elim
  | setNx key owner px =>
      obtain ⟨rfl, -⟩ := refreshes
      rw [LeaderCall.apply, live]
      exact owns
  | pexpire key px =>
      obtain ⟨rfl, positive⟩ := refreshes
      have lives : now < now + (px : Int) := by omega
      rw [LeaderElection.Owns, LeaderCall.apply, live, live?_update lives, Option.map_some, owner]

/-- A command that is answered was carried out. -/
theorem redis_of_answered {call : LeaderCall ν} {value : call.Result} {after : ElectionState ν}
    (command : call.isCommand = true)
    (answered : serveElection now faults call state = (.ok value, after))
    : value = state.answer now call ∧ after.redis = call.apply now state.redis := by
  cases failed : faults call with
  | none =>
      rw [serveElection_answered command failed] at answered
      cases answered
      exact ⟨rfl, rfl⟩
  | some fault =>
      rw [serveElection_failed command failed] at answered
      exact nomatch answered

@[simp] theorem run_awaitLeader {σ : Type} {handler : Handler (LeaderSignature ν) Thrown σ}
    {call : LeaderCall ν} {world : σ}
    : Program.run (α := no_index call.Result) handler (awaitLeader call) world
      = handler call world :=
  Program.run_perform

end

section
variable {ν : Type} [DecidableEq ν] {election : LeaderElection ν} {now : Int}
  {faults : LeaderFaults ν} {state : ElectionState ν}

/-- Acquiring sends three commands at most. -/
theorem acquire_awaits {property : LeaderCall ν → Prop}
    (setNx
      : property (.setNx election.leaderKey election.daemonId LeaderElection.leaseTtlMs))
    (get : property (.get election.leaderKey))
    (pexpire : property (.pexpire election.leaderKey LeaderElection.leaseTtlMs))
    : election.acquire.Awaits property := by
  unfold LeaderElection.acquire
  refine .bind (.perform setNx) (fun res => ?_)
  split
  · trivial
  refine .bind (.perform get) (fun currentLeader => ?_)
  split
  · exact .bind (.perform pexpire) (fun _ => trivial)
  · trivial

/-- Taking part sends no deletion. -/
theorem participate_refreshes : election.participate.Awaits election.Refreshes := by
  have positive : 0 < LeaderElection.leaseTtlMs := by decide
  have acquires : election.acquire.Awaits election.Refreshes :=
    acquire_awaits ⟨rfl, rfl, positive⟩ trivial ⟨rfl, positive⟩
  unfold LeaderElection.participate
  refine .catchError ?_ (fun error => ?_)
  · split
    · exact .bind acquires (fun acquired => .bind (.perform trivial) (fun _ => trivial))
    · exact .bind (.perform trivial) (fun _ => trivial)
  · unfold LeaderElection.fallBack
    split
    · trivial
    · exact .bind (.perform trivial) (fun _ => trivial)

/-- Taking part leaves an election its lease. -/
theorem participate_keeps (owns : election.Owns now state.redis)
    : election.Owns now (election.participate.run (serveElection now faults) state).2.redis := by
  let invariant (state : ElectionState ν) : Prop := election.Owns now state.redis
  have step
      : ∀ call state,
          election.Refreshes call
          → invariant state
          → invariant (serveElection now faults call state).2 := by
    intro call state refreshes owns
    rcases @redis_serveElection ν now faults state call with applied | unchanged
    · exact (congrArg (election.Owns now) applied).mpr (owns_apply refreshes owns)
    · exact (congrArg (election.Owns now) unchanged).mpr owns
  exact participate_refreshes.run step owns

/-- Acquiring does not touch the flag. -/
theorem acquire_flag
    : (election.acquire.run (serveElection now faults) state).2.isLeaderFlag
      = state.isLeaderFlag := by
  let invariant (after : ElectionState ν) : Prop := after.isLeaderFlag = state.isLeaderFlag
  have step
      : ∀ (call : LeaderCall ν) before,
          call.isCommand = true
          → invariant before
          → invariant (serveElection now faults call before).2 := by
    intro call before command same
    unfold serveElection
    cases call with
    | readFlag => exact same
    | setFlag value => exact nomatch command
    | _ => cases faults _ <;> exact same
  have commands : election.acquire.Awaits (fun call : LeaderCall ν => call.isCommand = true) :=
    acquire_awaits rfl rfl rfl
  exact commands.run step rfl

/-- Whoever acquires owns the lease: it was free, or it is found to be its own. -/
theorem acquire_owns {after : ElectionState ν}
    (acquired : election.acquire.run (serveElection now faults) state = (.ok true, after))
    : election.Owns now after.redis := by
  simp only [LeaderElection.acquire, Program.bind_eq, Program.run_bind_eq_ok] at acquired
  obtain ⟨res, middle, sent, acquired⟩ := acquired
  rw [run_awaitLeader] at sent
  obtain ⟨rfl, set⟩ := redis_of_answered rfl sent
  cases live : live? state.redis election.leaderKey now with
  | none =>
      have free
          : state.answer now
              (.setNx election.leaderKey election.daemonId LeaderElection.leaseTtlMs)
            = true := by
        rw [ElectionState.answer, live]
        rfl
      rw [free, if_pos rfl] at acquired
      cases acquired
      have lives : now < now + (LeaderElection.leaseTtlMs : Int) :=
        Int.lt_add_of_pos_right now (by decide)
      rw [LeaderElection.Owns, set, LeaderCall.apply, live, live?_update lives, Option.map_some]
  | some lease =>
      have taken
          : state.answer now
              (.setNx election.leaderKey election.daemonId LeaderElection.leaseTtlMs)
            = false := by
        rw [ElectionState.answer, live]
        rfl
      rw [taken, if_neg Bool.false_ne_true] at acquired
      simp only [Program.run_bind_eq_ok, run_awaitLeader] at acquired
      obtain ⟨currentLeader, read, sent, acquired⟩ := acquired
      obtain ⟨rfl, kept⟩ := redis_of_answered rfl sent
      split at acquired
      next own =>
          simp only [Program.run_bind_eq_ok, run_awaitLeader] at acquired
          obtain ⟨_, refreshed, sent, acquired⟩ := acquired
          obtain ⟨-, extended⟩ := redis_of_answered rfl sent
          cases acquired
          have positive : 0 < LeaderElection.leaseTtlMs := by decide
          have owns : election.Owns now middle.redis := own
          rw [extended, kept]
          exact owns_apply ⟨rfl, positive⟩ owns
      next other => exact nomatch acquired

/-- What taking part leaves: the flag tells whether the lease was acquired, unless the catch block
throws.
-/
theorem run_participate (connected : election.redisOps = true)
    : (election.participate.run (serveElection now faults) state).2
      = match election.acquire.run (serveElection now faults) state with
        | (.ok acquired, after) => { after with isLeaderFlag := acquired }
        | (.error .nullish, after) => after
        | (.error _, after) => { after with isLeaderFlag := false } := by
  simp only [LeaderElection.participate, connected, if_true, Program.bind_eq,
    Program.run_catchError, Program.run_bind]
  rcases election.acquire.run (serveElection now faults) state with ⟨error | acquired, after⟩
  · cases error <;> rfl
  · rfl

/-- After taking part, an election with its flag set owns the lease, if it did so before. -/
theorem participate_tells (connected : election.redisOps = true)
    (before : state.isLeaderFlag = true → election.Owns now state.redis)
    (told
      : (election.participate.run (serveElection now faults) state).2.isLeaderFlag = true)
    : election.Owns now (election.participate.run (serveElection now faults) state).2.redis := by
  have kept := @participate_keeps ν _ election now faults state
  have flag := @acquire_flag ν _ election now faults state
  rw [run_participate connected] at told kept ⊢
  cases ran : election.acquire.run (serveElection now faults) state with
  | mk result after =>
      rw [ran] at told kept flag
      cases result with
      | ok acquired =>
          have taken : acquired = true := told
          rw [taken] at ran
          have owned := acquire_owns ran
          exact owned
      | error error =>
          cases error with
          | nullish => exact kept (before (flag.symm.trans told))
          | _ => exact nomatch told

/-- A deletion that is asked for after the lease was read is carried out. -/
def deletes (election : LeaderElection ν) (faults : LeaderFaults ν) : Bool :=
  (faults (.get election.leaderKey)).isNone
  && (faults (.del election.leaderKey)).all LeaderFault.applied

/-- Dropping a lease that is owned gives it up if the deletion is carried out. -/
theorem dropLease_owns_iff (connected : election.redisOps = true)
    (owns : election.Owns now state.redis)
    : election.Owns now (election.dropLease.run (serveElection now faults) state).2.redis
      ↔ deletes election faults = false := by
  have deleted (redis : String → Option (Lease ν))
      : ¬election.Owns now (Function.update redis election.leaderKey none) := by
    rw [LeaderElection.Owns, live?, Function.update_self]
    exact nofun
  have own : state.answer now (.get election.leaderKey) = some election.daemonId := owns
  unfold LeaderElection.dropLease deletes
  rw [if_pos connected, Program.bind_eq, Program.run_bind, run_awaitLeader]
  cases read : faults (.get election.leaderKey) with
  | some fault =>
      rw [serveElection_failed rfl read]
      cases fault.applied <;> exact iff_of_true owns rfl
  | none =>
      simp only [serveElection_answered rfl read, own, if_true, run_awaitLeader, LeaderCall.apply,
        Option.isNone_none, Bool.true_and]
      cases sent : faults (.del election.leaderKey) with
      | none =>
          rw [serveElection_answered rfl sent]
          exact iff_of_false (deleted _) nofun
      | some fault =>
          rw [serveElection_failed rfl sent, Option.all_some]
          cases fault.applied with
          | true => exact iff_of_false (deleted _) nofun
          | false => exact iff_of_true owns rfl

/-- An election resigns only if its flag is set. -/
theorem resign_owns_iff (connected : election.redisOps = true)
    (owns : election.Owns now state.redis)
    : election.Owns now (election.resign.run (serveElection now faults) state).2.redis
      ↔ (state.isLeaderFlag = true → deletes election faults = false) := by
  have dropped := @dropLease_owns_iff ν _ election now faults state connected owns
  have read : serveElection now faults .readFlag state = (.ok state.isLeaderFlag, state) := rfl
  rw [LeaderElection.resign, Program.bind_eq, Program.run_bind, run_awaitLeader, read]
  cases flag : state.isLeaderFlag with
  | false => exact iff_of_true owns nofun
  | true =>
      simp only [if_true, Program.run_finallyRun, Program.run_catchError, true_implies]
      rw [← dropped]
      rcases election.dropLease.run (serveElection now faults) state with ⟨error | _, after⟩
      · rfl
      · rfl

end

-----------------------------------------------------------------------------------------
-- All elections of a coordinator
-----------------------------------------------------------------------------------------

namespace CoordinatorNode

variable {ν : Type} [DecidableEq ν] {election : LeaderElection ν} {node : CoordinatorNode ν}

/-- A type reports leadership. -/
def Leads (node : CoordinatorNode ν) : Prop := ∃ typeStr, node.elections typeStr = some true

/-- A leading type is deregistered only while no other type leads, or its deletion is not carried
out; and while a type leads the lease neither runs out nor is taken away elsewhere.
-/
def KeepsLeases (election : LeaderElection ν) (event : CoordinatorEvent ν)
    (node : CoordinatorNode ν)
    : Prop :=
  match event with
  | .deregisterDaemon typeStr faults =>
      node.elections typeStr = some true
      → (∃ other, other ≠ typeStr ∧ node.elections other = some true)
      → deletes election faults = false
  | .wait ms => node.Leads → election.Owns (node.now + ms) node.redis
  | .elsewhere redis => node.Leads → election.Owns node.now redis
  | _ => True

/-- Taking part for one type keeps what all types hold. -/
theorem holdsLeases_call {typeStr : String} {flag : Bool} {faults : LeaderFaults ν}
    (connected : election.redisOps = true) (holds : HoldsLeases election node)
    (before : flag = true → election.Owns node.now node.redis)
    : HoldsLeases election (node.call typeStr flag faults election.participate) := by
  intro other leads
  by_cases own : other = typeStr
  · subst own
    simp only [call, Function.update_self, Option.some.injEq] at leads
    exact participate_tells connected before leads
  · simp only [call, Function.update_of_ne own] at leads
    exact participate_keeps (holds other leads)

/-- The elections after a deregistration: the type's own is forgotten. -/
theorem elections_deregisterDaemon (typeStr : String) (faults : LeaderFaults ν)
    : (node.deregisterDaemon election typeStr faults).elections
      = Function.update node.elections typeStr none := by
  unfold deregisterDaemon
  cases held : node.elections typeStr with
  | none => exact (Function.update_eq_self_iff.mpr held.symm).symm
  | some flag => exact Function.update_idem ..

/-- A deregistration gives up a lease that is owned if the type reports leadership and the deletion
is carried out.
-/
theorem owns_deregisterDaemon {typeStr : String} {faults : LeaderFaults ν}
    (connected : election.redisOps = true) (owns : election.Owns node.now node.redis)
    : election.Owns node.now (node.deregisterDaemon election typeStr faults).redis
      ↔ (node.elections typeStr = some true → deletes election faults = false) := by
  unfold deregisterDaemon
  cases held : node.elections typeStr with
  | none => exact iff_of_true owns nofun
  | some flag =>
      have resigned :=
        @resign_owns_iff ν _ election node.now faults ⟨node.redis, flag⟩ connected owns
      rw [Option.some.injEq]
      exact resigned

/-- Which events keep the leases, in a state in which they are held. -/
theorem holdsLeases_after_iff {event : CoordinatorEvent ν} (connected : election.redisOps = true)
    (holds : HoldsLeases election node)
    : HoldsLeases election (node.after election event) ↔ KeepsLeases election event node := by
  cases event with
  | registerDaemon typeStr faults =>
      refine iff_of_true ?_ trivial
      simp only [after, registerDaemon]
      split
      · exact holdsLeases_call connected holds Bool.false_ne_true.elim
      · exact holds
  | deregisterDaemon typeStr faults =>
      have same : (node.deregisterDaemon election typeStr faults).now = node.now := by
        unfold deregisterDaemon
        split <;> rfl
      simp only [HoldsLeases, after, elections_deregisterDaemon, same, KeepsLeases]
      constructor
      · rintro kept leads ⟨other, apart, leadsToo⟩
        have owns := kept other (by rwa [Function.update_of_ne apart])
        exact (owns_deregisterDaemon connected (holds other leadsToo)).mp owns leads
      · intro keeps other leads
        by_cases own : other = typeStr
        · rw [own, Function.update_self] at leads
          exact nomatch leads
        · rw [Function.update_of_ne own] at leads
          refine (owns_deregisterDaemon connected (holds other leads)).mpr (fun leading => ?_)
          exact keeps leading ⟨other, own, leads⟩
  | ensureLeadership typeStr faults =>
      refine iff_of_true ?_ trivial
      simp only [after, ensureLeadership]
      split
      · refine holdsLeases_call connected holds (fun flag => holds typeStr ?_)
        cases held : node.elections typeStr with
        | none =>
            rw [held] at flag
            exact nomatch flag
        | some value =>
            rw [held] at flag
            exact congrArg some flag
      · exact holds
  | refresh typeStr faults =>
      refine iff_of_true ?_ trivial
      simp only [after, refresh]
      split
      next leads => exact holdsLeases_call connected holds (fun _ => holds typeStr leads)
      next => exact holds
  | refreshOrphan faults =>
      refine iff_of_true ?_ trivial
      simp only [after, refreshOrphan]
      split
      · exact holds
      · exact fun typeStr leads => participate_keeps (holds typeStr leads)
  | wait ms =>
      exact ⟨fun kept ⟨typeStr, leads⟩ => kept typeStr leads,
        fun keeps typeStr leads => keeps ⟨typeStr, leads⟩⟩
  | elsewhere redis =>
      exact ⟨fun kept ⟨typeStr, leads⟩ => kept typeStr leads,
        fun keeps typeStr leads => keeps ⟨typeStr, leads⟩⟩

/-- A coordinator's node before any daemon is registered. -/
def fresh (now : Int) (redis : String → Option (Lease ν)) : CoordinatorNode ν where
  now := now
  redis := redis
  daemons := []
  elections := fun _ => none
  orphans := 0

end CoordinatorNode

/-- Throughout a run the leading types hold their lease exactly if every event keeps it. -/
theorem leases_held_iff {ν : Type} [DecidableEq ν] (daemonId : ν) (leaderKey : String)
    (now : Int) (redis : String → Option (Lease ν)) (events : List (CoordinatorEvent ν))
    : Throughout (CoordinatorNode.after ⟨daemonId, leaderKey, true⟩)
        (CoordinatorNode.HoldsLeases ⟨daemonId, leaderKey, true⟩) events (.fresh now redis)
      ↔ EveryStep (CoordinatorNode.after ⟨daemonId, leaderKey, true⟩)
          (CoordinatorNode.KeepsLeases ⟨daemonId, leaderKey, true⟩) events
          (.fresh now redis) := by
  refine throughout_iff_everyStep (fun _ holds => holds) ?_ ?_ events (fun _ leads => nomatch leads)
  · exact fun event node holds keeps => (CoordinatorNode.holdsLeases_after_iff rfl holds).mpr keeps
  · exact fun event node holds after => (CoordinatorNode.holdsLeases_after_iff rfl holds).mp after

/-- Both singletons are registered, and one of them is deregistered. -/
def oneDeregistered : List (CoordinatorEvent String) := [
  .registerDaemon "RECOVERY" (fun _ => none),
  .registerDaemon "ADMIN_SYNC" (fun _ => none),
  .deregisterDaemon "RECOVERY" (fun _ => none)
]

/-- The singleton that is left reports leadership without a lease. -/
theorem deregistered_lease_lost
    : let election : LeaderElection String := ⟨"node-1", "daemon:leader:recovery", true⟩
      let start : CoordinatorNode String := .fresh 0 (fun _ => none)
      let node := stateAfter (CoordinatorNode.after election) oneDeregistered start
      node.elections "ADMIN_SYNC" = some true
      ∧ (live? node.redis election.leaderKey node.now).isNone = true
      ∧ ¬Throughout (CoordinatorNode.after election) (CoordinatorNode.HoldsLeases election)
          oneDeregistered start := by
  intro election start node
  have leads : node.elections "ADMIN_SYNC" = some true := by decide
  have lost : (live? node.redis election.leaderKey node.now).isNone = true := by decide
  refine ⟨leads, lost, fun throughout => ?_⟩
  have owns := throughout oneDeregistered (List.prefix_refl _) "ADMIN_SYNC" leads
  rw [LeaderElection.Owns, Option.isNone_iff_eq_none.mp lost] at owns
  exact nomatch owns

end QueueForge.Daemon
