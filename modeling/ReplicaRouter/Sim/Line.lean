import ReplicaRouter.Router
import ReplicaRouter.Sim.Plugins
import ReplicaRouter.Sim.Rig
/-
Logical connections over a scripted database: one of them with any chain of plugins, or several that
a router opened.
-/
namespace ReplicaRouter.Sim

/-- A logical connection with its own state. -/
structure Line where
  connection : Connection Splitter Cluster
  service : Service

namespace Line

/-- Work with a logical connection at hand. -/
abbrev Work : Type → Type := StateT Line (Routine Net)

variable {α : Type}

def act (x : Act Cluster α) : Work α := do
  let line ← get
  let (a, service) ← x.run line.service
  set { line with service }
  return a

def call (x : Call Splitter Cluster α) : Work α := do
  let line ← get
  let (a, connection) ← act (x.run line.connection)
  modify fun line => { line with connection }
  return a

/-- What the first plugin's splitter does. -/
def split (x : Split Cluster (Except RouteError α)) : Work (Except RouteError α) := do
  match (← get).connection.chain with
  | [] => return .error (.internal "no plugin")
  | (p, s) :: inner =>
    let (a, s) ← act (x.run s)
    modify fun line => { line with connection := { line.connection with chain := (p, s) :: inner } }
    return a

def splitter? (line : Line) : Option Splitter := line.connection.chain.head?.map Prod.snd

def net (x : Routine Net α) : Work α := liftM x

/-- Opens the logical connection through its chain. -/
def «open» : Work (Except RouteError Unit) := do
  let c := (← get).connection
  match ← act (Connection.open c.chain c.host c.props) with
  | .error e => return .error e
  | .ok connection =>
    modify fun line => { line with connection }
    return .ok ()

/-- Opens a link past the chain and makes it current. -/
def openOn (host : Host) : Work (Except RouteError Unit) := do
  let props := (← get).connection.props
  match ← act (Service.connect host props) with
  | .error e => return .error e
  | .ok l =>
    act (Service.setCurrent l host)
    return .ok ()

/-- The connection behind a link, where it is the link itself. -/
def number? : Link → Option ConnId
  | .direct c => some c
  | .pooled _ => none

/-- Asks the chain for another link, which nobody keeps. -/
def connect (host : Host) (props : Properties) (initial : Bool) :
    Work (Except RouteError Link) := do
  let line ← get
  let req : ConnectRequest := { protocol := line.service.protocol, host, props, initial }
  let (answer, chain) ← act (line.connection.chain.connect Connection.lastConnect req)
  modify fun line => { line with connection := { line.connection with chain } }
  match answer with
  | .error e => return .error e
  | .ok l =>
    net l.settle
    return .ok l

/-- Gives the logical connection up. -/
def finish : Work Unit := do
  act ((← get).connection.finish fun s => discard ((Split.finish (D := Cluster)).run s))

/-- Replaces the list of hosts. -/
def refresh (hosts : Topology) : Routine Net Unit :=
  modify fun w => { w with hosts := { w.hosts with topology := hosts } }

end Line

/-! ## One logical connection -/

/-- One logical connection. -/
structure LineRig where
  shared : Net
  line : Line

namespace LineRig

instance : Rig LineRig where
  net := { get := (·.shared), set := fun w r => { r with shared := w } }

/-- Works with the logical connection. -/
def run {α : Type} (x : Line.Work α) : Routine LineRig α := do
  let (a, line) ← Rig.onNet (x.run (← get).line)
  modify fun r => { r with line }
  return a

end LineRig

/-! ## A router -/

/-- A router and the logical connections it opened. -/
structure RouterRig where
  shared : Net
  router : Router
  lines : Named Line := []

namespace RouterRig

instance : Rig RouterRig where
  net := { get := (·.shared), set := fun w r => { r with shared := w } }

/-- Works with the logical connection of a name. -/
def run {α : Type} (name : String) (line : Line) (x : Line.Work α) : Routine RouterRig α := do
  let (a, line) ← Rig.onNet (x.run line)
  modify fun r => { r with lines := r.lines.assign name line }
  return a

/-- Opens a logical connection under a name; the one that had the name before is given up. -/
def connect (name : String) (host : Host) (props : Properties) :
    Routine RouterRig (Except RouteError (Connection Splitter Cluster)) := do
  match ← Rig.onNet ((← get).router.connect host props) with
  | .error e => return .error e
  | .ok (connection, service) =>
    let earlier := (← get).lines.lookup name
    modify fun r => { r with lines := r.lines.assign name { connection, service } }
    if let some earlier := earlier then discard (Rig.onNet (Line.finish.run earlier))
    return .ok connection

/-- Gives up the logical connection of a name. -/
def drop (name : String) (line : Line) : Routine RouterRig Unit := do
  modify fun r => { r with lines := r.lines.without name }
  discard (Rig.onNet (Line.finish.run line))

end RouterRig

end ReplicaRouter.Sim
