import QueueForge.Async.Interleaving
import QueueForge.Js.Errors

/-! The daemons of a node, their timers and the coordinator that `initializeDaemonModule` makes.
What a function does between two of its awaits is one action on the node.
-/

namespace QueueForge.Daemon

open QueueForge.Async QueueForge.Js

inductive DaemonType where
  | RECOVERY
  | HEALTH
  | METRICS
  | ADMIN_SYNC
deriving DecidableEq, Repr

inductive DaemonRole where
  | PRIMARY
  | SECONDARY
  | OBSERVER
deriving DecidableEq, Repr

/-- Whether a daemon type is configured as a cluster-wide singleton. -/
def isDaemonSingleton : DaemonType → Bool
  | .RECOVERY => true
  | .ADMIN_SYNC => true
  | _ => false

/-- The registered daemons in order, what their elections report, and which loops are running; a
loop has its timer as long as it runs. The coordinator has a flag of its own.
-/
structure DaemonNode where
  daemons : List DaemonType := []
  elections : DaemonType → Option Bool := fun _ => none
  looping : DaemonType → Bool := fun _ => false
  running : Bool := false

/-- What is done between two awaits. -/
inductive NodeAction where
  /-- The election of a type is won or lost. -/
  | elect (type : DaemonType) (won : Bool)
  | startDaemon (type : DaemonType)
  | startPrimary (type : DaemonType)
  /-- `if (this.running) return; this.running = true`. -/
  | claimStart
  | startRegistered (type : DaemonType)
  /-- `if (!this.running) return`, and the keys of the daemons. -/
  | claimStop
  | stopRegistered (type : DaemonType)
  | deleteDaemon (type : DaemonType)
  | isLeader (type : DaemonType)
  | lowerFlag (type : DaemonType)
  | deleteElection (type : DaemonType)
  | clearRunning
  /-- The timer of a loop fires. -/
  | tick (type : DaemonType)
deriving DecidableEq

abbrev NodeAction.Result : NodeAction → Type
  | claimStart => Bool
  | claimStop => Option (List DaemonType)
  | stopRegistered _ => Bool
  | isLeader _ => Bool
  | _ => Unit

namespace DaemonNode

/-- `registerDaemon`, up to the election it awaits. -/
def registerDaemon (node : DaemonNode) (type : DaemonType) : DaemonNode := {
  node with
  daemons := node.daemons ++ [type]
  elections :=
    if isDaemonSingleton type then
      Function.update node.elections type (some false)
    else
      node.elections
}

def getRole (node : DaemonNode) (type : DaemonType) : DaemonRole :=
  if isDaemonSingleton type = false then
    .PRIMARY
  else if node.elections type = some true then
    .PRIMARY
  else
    .SECONDARY

/-- `daemon.start()`: a loop that is not running begins with a cycle. -/
def start (node : DaemonNode) (type : DaemonType) : DaemonNode × Option DaemonType :=
  if node.looping type then
    (node, none)
  else
    ({ node with looping := Function.update node.looping type true }, some type)

/-- `daemon.stop()`. -/
def stop (node : DaemonNode) (type : DaemonType) : DaemonNode :=
  { node with looping := Function.update node.looping type false }

/-- What an action gives, the node after it, and the daemon whose cycle begins with it. -/
def perform (node : DaemonNode)
    : (action : NodeAction) → action.Result × DaemonNode × Option DaemonType
  | .elect type won =>
      let reported := (node.elections type).map (fun _ => won)
      ((), { node with elections := Function.update node.elections type reported }, none)
  | .startDaemon type => ((), node.start type)
  | .startPrimary type =>
      ((), if node.getRole type = .PRIMARY then node.start type else (node, none))
  | .claimStart => (!node.running, { node with running := true }, none)
  | .startRegistered type =>
      ((), if type ∈ node.daemons then node.start type else (node, none))
  | .claimStop => (if node.running then some node.daemons else none, node, none)
  | .stopRegistered type =>
      if type ∈ node.daemons then (true, node.stop type, none) else (false, node, none)
  | .deleteDaemon type => ((), { node with daemons := node.daemons.erase type }, none)
  | .isLeader type => (decide (node.elections type = some true), node, none)
  | .lowerFlag type =>
      let reported := (node.elections type).map (fun _ => false)
      ((), { node with elections := Function.update node.elections type reported }, none)
  | .deleteElection type =>
      ((), { node with elections := Function.update node.elections type none }, none)
  | .clearRunning => ((), { node with running := false }, none)
  | .tick type => ((), node, if node.looping type then some type else none)

end DaemonNode

/-- An action on a node. -/
structure NodeCall (ν : Type) where
  node : ν
  action : NodeAction

abbrev NodeSignature (ν : Type) : Signature where
  Op := NodeCall ν
  Result := fun call => call.action.Result

abbrev NodeProgram (ν α : Type) : Type := Program (NodeSignature ν) Thrown α

section
variable {ν : Type}

def awaitNode (node : ν) (action : NodeAction) : NodeProgram ν action.Result :=
  Program.perform (S := NodeSignature ν) ⟨node, action⟩

/-- The daemons of a module, in the order they are registered in. -/
def moduleDaemons : List DaemonType := [.HEALTH, .METRICS, .RECOVERY]

/-- The rest of `initializeDaemonModule`, once the daemons are registered. Nobody else has the
coordinator before.
-/
def initializeDaemonModule (node : ν) (won : Bool) : NodeProgram ν Unit := do
  awaitNode node (.elect .RECOVERY won)
  awaitNode node (.startDaemon .HEALTH)
  awaitNode node (.startDaemon .METRICS)
  -- Recovery runs if node is PRIMARY
  awaitNode node (.startPrimary .RECOVERY)

namespace DaemonCoordinator

/-- Starts all registered daemons sequentially, whatever the role of the node. -/
def start (node : ν) : NodeProgram ν Unit := do
  let claimed ← awaitNode node .claimStart
  if claimed then
    -- a map is visited in the order of its entries, which may be deleted meanwhile
    Program.forEach (fun type => awaitNode node (.startRegistered type)) moduleDaemons
  else
    return ()

/-- Resigns if the election reports the node as leader. -/
def deregisterDaemon (node : ν) (type : DaemonType) : NodeProgram ν Unit := do
  let found ← awaitNode node (.stopRegistered type)
  if found then
    awaitNode node (.deleteDaemon type)
  let led ← awaitNode node (.isLeader type)
  if led then
    awaitNode node (.lowerFlag type)
  awaitNode node (.deleteElection type)

/-- Stops all registered daemons cleanly. -/
def stop (node : ν) : NodeProgram ν Unit := do
  match ← awaitNode node .claimStop with
  | none => return ()
  | some types => do
      Program.forEach (deregisterDaemon node) types
      awaitNode node .clearRunning

end DaemonCoordinator

inductive NodeEvent where
  | elected (won : Bool)
  | start
  | stop
  | tick (type : DaemonType)
deriving DecidableEq

/-- The event on a node as a program. -/
def NodeEvent.program (node : ν) : NodeEvent → NodeProgram ν Unit
  | elected won => awaitNode node (.elect .RECOVERY won)
  | start => DaemonCoordinator.start node
  | stop => DaemonCoordinator.stop node
  | tick type => awaitNode node (.tick type)

end

/-- A cycle that has begun, and whether the node's election reported it as leader then. -/
structure BegunCycle (ν : Type) where
  node : ν
  type : DaemonType
  leads : Bool
deriving DecidableEq

structure NodeWorld (ν : Type) where
  nodes : ν → DaemonNode
  begun : List (BegunCycle ν)

namespace NodeWorld

variable {ν : Type} [DecidableEq ν]

def serve : Handler (NodeSignature ν) Thrown (NodeWorld ν) :=
  fun call world =>
    let before := world.nodes call.node
    let performed := before.perform call.action
    (.ok performed.1, {
      nodes := Function.update world.nodes call.node performed.2.1
      begun :=
        performed.2.2.toList.map
            (fun type => ⟨call.node, type, decide (before.elections type = some true)⟩)
        ++ world.begun
    })

/-- Every node has registered its daemons and takes part in its first election. -/
def registered : NodeWorld ν where
  nodes _ := moduleDaemons.foldl DaemonNode.registerDaemon {}
  begun := []

/-- A cycle of the recovery daemon begins only on a node that leads. -/
def RecoversOnLeaders (world : NodeWorld ν) : Prop :=
  ∀ cycle ∈ world.begun, cycle.type = .RECOVERY → cycle.leads = true

end NodeWorld

/-- The initializations of the nodes with their first elections, and any events. -/
def modules {ν κ : Type} [DecidableEq ν] (first : ν → Bool) (events : κ → ν × NodeEvent)
    : Configuration (NodeSignature ν) Thrown (ν ⊕ κ) Unit (NodeWorld ν) where
  process
    | .inl node => initializeDaemonModule node (first node)
    | .inr event => (events event).2.program (events event).1
  world := .registered

end QueueForge.Daemon
