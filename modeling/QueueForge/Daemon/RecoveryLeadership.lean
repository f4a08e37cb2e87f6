import QueueForge.Daemon.DaemonCoordinator

/-! When the recovery daemon runs on leaders only.
The role is looked at once, when the module is initialized. From then on a cycle may begin at any
time while the loop runs, so the lead must not be lost while it does, and the coordinator must not
start a recovery that was held back.
-/

namespace QueueForge.Daemon

open QueueForge.Async QueueForge.Js

namespace DaemonNode

/-- The recovery loop runs only while the election reports the node as leader. -/
def LoopsOnLead (node : DaemonNode) : Prop :=
  node.looping .RECOVERY = true → node.elections .RECOVERY = some true

/-- The lead is lost or given up only while the recovery loop does not run, and the coordinator
starts the loop of a registered recovery only on a node that leads.
-/
def KeepsLead (node : DaemonNode) : NodeAction → Prop
  | .elect .RECOVERY false => node.looping .RECOVERY = false
  | .lowerFlag .RECOVERY => node.looping .RECOVERY = false
  | .deleteElection .RECOVERY => node.looping .RECOVERY = false
  | .startRegistered .RECOVERY =>
      .RECOVERY ∈ node.daemons
      → node.looping .RECOVERY = false
      → node.elections .RECOVERY = some true
  | _ => True

instance (node : DaemonNode) (action : NodeAction) : Decidable (node.KeepsLead action) := by
  unfold KeepsLead
  split <;> infer_instance

/-- An action that begins a cycle of the recovery daemon does so on a node that leads. -/
def BeginsOnLead (node : DaemonNode) (action : NodeAction) : Prop :=
  (node.perform action).2.2 = some .RECOVERY → node.elections .RECOVERY = some true

end DaemonNode

/-- Only daemons that are no singletons are started without a look at the role. -/
def StartsFreely : NodeAction → Prop
  | .startDaemon type => isDaemonSingleton type = false
  | _ => True

section
variable {node : DaemonNode} {type : DaemonType}

/-- A daemon that is started begins on the lead if it is not a recovery to be held back. -/
theorem start_iff (leads : node.LoopsOnLead)
    : ((node.start type).2 = some .RECOVERY → node.elections .RECOVERY = some true)
        ∧ (node.start type).1.LoopsOnLead
      ↔ (type = .RECOVERY
        → node.looping .RECOVERY = false
        → node.elections .RECOVERY = some true) := by
  unfold DaemonNode.LoopsOnLead at leads ⊢
  unfold DaemonNode.start
  by_cases recovery : type = .RECOVERY
  · subst recovery
    cases running : node.looping .RECOVERY with
    | true => simp [running, leads running]
    | false => simp
  · cases node.looping type with
    | true => simpa [recovery] using leads
    | false =>
        have other : Function.update node.looping type true .RECOVERY = node.looping .RECOVERY :=
          Function.update_of_ne (Ne.symm recovery) _ _
        simpa [recovery, other] using leads

/-- Another report of an election leaves the loop on the lead if it reports a leader, or the loop
does not run.
-/
theorem report_iff (leads : node.LoopsOnLead) (reported : Option Bool)
    : DaemonNode.LoopsOnLead
          { node with elections := Function.update node.elections type reported }
      ↔ (type = .RECOVERY → node.looping .RECOVERY = true → reported = some true) := by
  unfold DaemonNode.LoopsOnLead at leads ⊢
  by_cases recovery : type = .RECOVERY
  · subst recovery
    simp
  · have other
        : Function.update node.elections type reported .RECOVERY = node.elections .RECOVERY :=
      Function.update_of_ne (Ne.symm recovery) _ _
    simpa [recovery, other] using leads

end

section
variable {node : DaemonNode} {action : NodeAction}

/-- A singleton is in the primary role only on a node that leads. -/
theorem leads_of_primary {type : DaemonType} (singleton : isDaemonSingleton type = true)
    (primary : node.getRole type = .PRIMARY)
    : node.elections type = some true := by
  unfold DaemonNode.getRole at primary
  split at primary
  · next plain => exact absurd (singleton.symm.trans plain) (by decide)
  · split at primary
    · next leading => exact leading
    · exact nomatch primary

/-- An action that begins no cycle and leaves loops and elections alone keeps the lead. -/
theorem keepsLead_of_quiet (leads : node.LoopsOnLead) (quiet : (node.perform action).2.2 = none)
    (looping : (node.perform action).2.1.looping = node.looping)
    (elections : (node.perform action).2.1.elections = node.elections)
    : node.BeginsOnLead action ∧ (node.perform action).2.1.LoopsOnLead := by
  refine ⟨?_, ?_⟩
  · intro begins
    exact nomatch quiet.symm.trans begins
  · rw [DaemonNode.LoopsOnLead, looping, elections]
    exact leads

/-- Exactly the actions that keep the lead begin on it and leave the loop on it. -/
theorem keepsLead_iff (leads : node.LoopsOnLead) (free : StartsFreely action)
    : node.BeginsOnLead action ∧ (node.perform action).2.1.LoopsOnLead ↔ node.KeepsLead action := by
  cases action with
  | claimStart => exact iff_of_true (keepsLead_of_quiet leads rfl rfl rfl) trivial
  | claimStop => exact iff_of_true (keepsLead_of_quiet leads rfl rfl rfl) trivial
  | deleteDaemon type => exact iff_of_true (keepsLead_of_quiet leads rfl rfl rfl) trivial
  | isLeader type => exact iff_of_true (keepsLead_of_quiet leads rfl rfl rfl) trivial
  | clearRunning => exact iff_of_true (keepsLead_of_quiet leads rfl rfl rfl) trivial
  | elect type won =>
      simp only [DaemonNode.BeginsOnLead, DaemonNode.perform, report_iff leads]
      by_cases recovery : type = .RECOVERY
      · subst recovery
        cases won with
        | false => simp [DaemonNode.KeepsLead]
        | true =>
            refine iff_of_true ⟨(fun begins => nomatch begins), fun _ running => ?_⟩ trivial
            rw [leads running]
            rfl
      · cases type <;> simp [DaemonNode.KeepsLead] at recovery ⊢
  | lowerFlag type =>
      simp only [DaemonNode.BeginsOnLead, DaemonNode.perform, report_iff leads]
      cases type <;> simp [DaemonNode.KeepsLead]
  | deleteElection type =>
      simp only [DaemonNode.BeginsOnLead, DaemonNode.perform, report_iff leads]
      cases type <;> simp [DaemonNode.KeepsLead]
  | startDaemon type =>
      refine (start_iff leads).trans (iff_of_true ?_ trivial)
      rintro rfl
      exact nomatch free
  | startPrimary type =>
      refine iff_of_true ?_ trivial
      by_cases primary : node.getRole type = .PRIMARY
      · simp only [DaemonNode.BeginsOnLead, DaemonNode.perform, if_pos primary]
        refine (start_iff leads).mpr ?_
        rintro rfl _
        exact leads_of_primary rfl primary
      · simp only [DaemonNode.BeginsOnLead, DaemonNode.perform, if_neg primary]
        exact ⟨(fun begins => nomatch begins), leads⟩
  | startRegistered type =>
      by_cases listed : type ∈ node.daemons
      · simp only [DaemonNode.BeginsOnLead, DaemonNode.perform, if_pos listed]
        rw [start_iff leads]
        cases type <;> simp [DaemonNode.KeepsLead, listed]
      · simp only [DaemonNode.BeginsOnLead, DaemonNode.perform, if_neg listed]
        refine iff_of_true ⟨(fun begins => nomatch begins), leads⟩ ?_
        cases type with
        | RECOVERY => exact fun mem => absurd mem listed
        | _ => trivial
  | stopRegistered type =>
      refine iff_of_true ?_ trivial
      by_cases listed : type ∈ node.daemons
      · simp only [DaemonNode.BeginsOnLead, DaemonNode.perform, if_pos listed]
        refine ⟨(fun begins => nomatch begins), ?_⟩
        intro running
        by_cases recovery : DaemonType.RECOVERY = type
        · subst recovery
          exact absurd running (by simp [DaemonNode.stop])
        · exact leads ((Function.update_of_ne recovery _ _).symm.trans running)
      · simp only [DaemonNode.BeginsOnLead, DaemonNode.perform, if_neg listed]
        exact ⟨(fun begins => nomatch begins), leads⟩
  | tick type =>
      refine iff_of_true ⟨?_, leads⟩ trivial
      intro begins
      simp only [DaemonNode.perform] at begins
      split at begins
      · next running =>
        obtain rfl := Option.some.inj begins
        exact leads running
      · exact nomatch begins

end

/-- On no node does the recovery loop run without the lead, and no cycle has begun without it. -/
structure NodeWorld.Steady {ν : Type} (world : NodeWorld ν) : Prop where
  loops : ∀ node, (world.nodes node).LoopsOnLead
  begun : world.RecoversOnLeaders

/-- A call that starts no singleton without a look at the role. -/
def NodeCall.StartsFreely {ν : Type} (call : NodeCall ν) : Prop :=
  Daemon.StartsFreely call.action

/-- Exactly the calls that keep the lead on their node keep the world steady. -/
theorem steady_serve_iff {ν : Type} [DecidableEq ν] {world : NodeWorld ν} {call : NodeCall ν}
    (steady : world.Steady) (free : call.StartsFreely)
    : (NodeWorld.serve call world).2.Steady ↔ (world.nodes call.node).KeepsLead call.action := by
  rw [← keepsLead_iff (steady.loops call.node) free]
  constructor
  · intro after
    refine ⟨?_, ?_⟩
    · intro begins
      have leads := after.begun ⟨call.node, .RECOVERY, _⟩ (by
        simp only [NodeWorld.serve, begins]
        exact List.mem_cons_self) rfl
      exact of_decide_eq_true leads
    · have loops := after.loops call.node
      simpa [NodeWorld.serve] using loops
  · rintro ⟨begins, loops⟩
    refine ⟨?_, ?_⟩
    · intro node
      by_cases same : node = call.node
      · subst same
        simpa [NodeWorld.serve] using loops
      · simpa [NodeWorld.serve, Function.update_of_ne same] using steady.loops node
    · intro cycle mem recovery
      rcases List.mem_append.mp mem with fresh | before
      · obtain ⟨type, begun, rfl⟩ := List.mem_map.mp fresh
        obtain rfl : type = .RECOVERY := recovery
        exact decide_eq_true (begins (Option.mem_toList.mp begun))
      · exact steady.begun cycle before recovery

/-- A call that keeps the lead on its node. -/
def PermitsLead {ν ι : Type} (world : NodeWorld ν) (_ : ι) (call : NodeCall ν) : Prop :=
  (world.nodes call.node).KeepsLead call.action

instance {ν ι : Type} (world : NodeWorld ν) (caller : ι) (call : NodeCall ν)
    : Decidable (PermitsLead world caller call) :=
  inferInstanceAs (Decidable (DaemonNode.KeepsLead _ _))

/-- In every state of every permitted run cycles of the recovery daemon begin on leaders only. -/
def RecoversThroughout {ν κ : Type} [DecidableEq ν] [DecidableEq κ] (first : ν → Bool)
    (events : κ → ν × NodeEvent) (permits : NodeWorld ν → ν ⊕ κ → NodeCall ν → Prop)
    : Prop :=
  ∀ config,
    Configuration.Reachable (fun _ => NodeWorld.serve) permits (modules first events) config
    → config.world.RecoversOnLeaders

section
variable {ν : Type} (node : ν)

/-- No program starts a singleton without a look at the role. -/
theorem initializeDaemonModule_free (won : Bool)
    : (initializeDaemonModule node won).Awaits NodeCall.StartsFreely := by
  refine Program.Awaits.bind (Program.Awaits.perform trivial) (fun _ => ?_)
  refine Program.Awaits.bind (Program.Awaits.perform rfl) (fun _ => ?_)
  refine Program.Awaits.bind (Program.Awaits.perform rfl) (fun _ => ?_)
  exact Program.Awaits.perform trivial

theorem start_free
    : (DaemonCoordinator.start node).Awaits NodeCall.StartsFreely := by
  refine Program.Awaits.bind (Program.Awaits.perform trivial) (fun claimed => ?_)
  split
  · exact Program.Awaits.forEach (fun _ => Program.Awaits.perform trivial) _
  · trivial

theorem deregisterDaemon_free (type : DaemonType)
    : (DaemonCoordinator.deregisterDaemon node type).Awaits NodeCall.StartsFreely := by
  have resigns
      : Program.Awaits NodeCall.StartsFreely
          (do
            let led ← awaitNode node (.isLeader type)
            if led then
              awaitNode node (.lowerFlag type)
            awaitNode node (.deleteElection type)) := by
    refine Program.Awaits.bind (Program.Awaits.perform trivial) (fun led => ?_)
    cases led with
    | true =>
        exact Program.Awaits.bind (Program.Awaits.perform trivial)
          (fun _ => Program.Awaits.perform trivial)
    | false => exact Program.Awaits.perform trivial
  refine Program.Awaits.bind (Program.Awaits.perform trivial) (fun found => ?_)
  cases found with
  | true => exact Program.Awaits.bind (Program.Awaits.perform trivial) (fun _ => resigns)
  | false => exact resigns

theorem stop_free
    : (DaemonCoordinator.stop node).Awaits NodeCall.StartsFreely := by
  refine Program.Awaits.bind (Program.Awaits.perform trivial) (fun claimed => ?_)
  cases claimed with
  | none => trivial
  | some types =>
      exact Program.Awaits.bind (Program.Awaits.forEach (deregisterDaemon_free node) types)
        (fun _ => Program.Awaits.perform trivial)

theorem program_free (event : NodeEvent)
    : (event.program node).Awaits NodeCall.StartsFreely := by
  cases event with
  | elected won => exact Program.Awaits.perform trivial
  | start => exact start_free node
  | stop => exact stop_free node
  | tick type => exact Program.Awaits.perform trivial

end

/-- Cycles of the recovery daemon begin on leaders only, on any number of nodes and in every run in
which the lead is lost or given up only while the recovery loop does not run, and no coordinator
starts a recovery that was held back.
-/
theorem recovers_on_leaders {ν κ : Type} [DecidableEq ν] [DecidableEq κ] (first : ν → Bool)
    (events : κ → ν × NodeEvent)
    : RecoversThroughout first events PermitsLead := by
  intro config reached
  have start : (modules first events).world.Steady :=
    ⟨(fun _ running => nomatch running), (fun _ mem => nomatch mem)⟩
  have owed
      : ∀ process,
          ((modules first events).process process).Meets (.only NodeCall.StartsFreely) ()
            (fun _ _ => True) := by
    intro process
    cases process with
    | inl node => exact initializeDaemonModule_free node (first node)
    | inr event => exact program_free (events event).1 (events event).2
  have kept (world : NodeWorld ν) (process : ν ⊕ κ) (call : NodeCall ν) (steady : world.Steady)
      (free : call.StartsFreely) (permitted : PermitsLead world process call)
      : (NodeWorld.serve call world).2.Steady :=
    (steady_serve_iff steady free).mpr permitted
  obtain ⟨_, _, steady⟩ :=
    reached.invariant
      (fun _ world process call steady free permitted =>
        ⟨(), trivial, kept world process call steady free permitted⟩)
      owed start
  exact steady.begun

instance {ν : Type} (world : NodeWorld ν) : Decidable world.RecoversOnLeaders :=
  inferInstanceAs (Decidable (∀ _ ∈ world.begun, _ → _ = true))

/-! Two nodes, of which the first wins the first election. -/

def firstWins (node : Fin 2) : Bool := decide (node = 0)

/-- The lead passes from the first node to the second. -/
def handover : Fin 5 → Fin 2 × NodeEvent
  | 0 => (0, .start)
  | 1 => (0, .tick .RECOVERY)
  | 2 => (0, .stop)
  | 3 => (1, .elected true)
  | 4 => (1, .start)

/-- What a schedule of both initializations and then of the events leads to. -/
def nodesAfter {κ : Type} [DecidableEq κ] (events : κ → Fin 2 × NodeEvent) (schedule : List κ)
    : Configuration (NodeSignature (Fin 2)) Thrown (Fin 2 ⊕ κ) Unit (NodeWorld (Fin 2)) :=
  (modules firstWins events).follow (fun _ => NodeWorld.serve)
    (List.replicate 4 (.inl 0) ++ List.replicate 4 (.inl 1) ++ schedule.map .inr)

/-- After a stop the lead passes on, and the recovery with it. -/
theorem recovers_on_leaders_handover
    : let config :=
        nodesAfter handover
          (List.replicate 4 0 ++ [1] ++ List.replicate 14 2 ++ [3] ++ List.replicate 4 4)
      config.world.RecoversOnLeaders
      ∧ (config.world.begun.filter (fun cycle => cycle.type = .RECOVERY)).map BegunCycle.node
        = [1, 0, 0] := by
  intro config
  refine ⟨?_, by decide +kernel⟩
  exact recovers_on_leaders firstWins handover config
    (Configuration.reachable_follow _ _ (by decide +kernel))

/-- The lead is lost and the timer fires, or the coordinator of the other node is started. -/
def lostLead : Fin 2 → Fin 2 × NodeEvent
  | 0 => (0, .elected false)
  | 1 => (0, .tick .RECOVERY)

def startedSecondary : Fin 1 → Fin 2 × NodeEvent
  | 0 => (1, .start)

/-- Either way a cycle begins on a node that does not lead. -/
theorem recovers_without_lead
    : (¬RecoversThroughout firstWins lostLead (fun _ _ _ => True))
      ∧ ¬RecoversThroughout firstWins startedSecondary (fun _ _ _ => True) := by
  refine ⟨fun throughout => ?_, fun throughout => ?_⟩
  · have recovers :=
      throughout (nodesAfter lostLead [0, 1])
        (Configuration.reachable_follow _ _ (by decide +kernel))
    exact absurd recovers (by decide +kernel)
  · have recovers :=
      throughout (nodesAfter startedSecondary (List.replicate 4 0))
        (Configuration.reachable_follow _ _ (by decide +kernel))
    exact absurd recovers (by decide +kernel)

end QueueForge.Daemon
