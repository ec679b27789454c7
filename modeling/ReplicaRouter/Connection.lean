import ReplicaRouter.Chain
import ReplicaRouter.Service
/-
The logical connection that an application holds. Every call on it passes the chain of plugins and
ends at the current link; a closed logical connection refuses every call but another close.
-/
namespace ReplicaRouter

/-- A logical connection. -/
structure Connection (σ D : Type) where
  /-- The plugins that every call passes. -/
  chain : Chain σ (Act D)
  host : Host
  props : Properties
  readOnly : Bool := false
  closed : Bool := false

/-- What calls on a logical connection do. -/
abbrev Call (σ D : Type) : Type → Type := StateT (Connection σ D) (Act D)

namespace Connection

variable {σ D : Type} [Backend D]

/-- The end of the chain for requests for a connection. -/
def lastConnect (req : ConnectRequest) : Act D (Except RouteError Link) := do
  Act.world ((← get).providers.connect req.protocol req.host req.props)

/-- Opens a logical connection: the first link is made through the chain and becomes current. -/
def «open» (chain : Chain σ (Act D)) (host : Host) (props : Properties) :
    Act D (Except RouteError (Connection σ D)) := do
  let req : ConnectRequest := { protocol := (← get).protocol, host, props, initial := true }
  match ← chain.connect lastConnect req with
  | (.error e, _) => return .error e
  | (.ok l, chain) =>
    let resolved := (← get).initialHost.getD host
    Act.world (World.log .debug
      ("Opened logical connection to " ++ resolved.text ++ " via " ++ host.text))
    Service.setCurrent l resolved
    return .ok { chain, host, props }

def closedError : RouteError := .driver "logical connection is closed" (some "08003")

/-- Passes an operation through the chain. -/
def dispatch (op : Operation) : Call σ D (Except RouteError Reply) := do
  let c ← get
  if c.closed then return .error closedError
  let (answer, chain) ← (c.chain.execute Service.execute op : Act D _)
  modify fun c => { c with chain }
  return answer

def query (sql : String) : Call σ D (Except RouteError (List Row)) := do
  return (← dispatch (.query sql)).bind Reply.rows?

def update (sql : String) : Call σ D (Except RouteError Nat) := do
  return (← dispatch (.update sql)).bind Reply.count?

def execute (sql : String) : Call σ D (Except RouteError Reply) := dispatch (.execute sql)

def setReadOnly (readOnly : Bool) : Call σ D (Except RouteError Unit) := do
  match ← dispatch (.setReadOnly readOnly) with
  | .error e => return .error e
  | .ok _ =>
    modify fun c => { c with readOnly }
    return .ok ()

def setAutocommit (autocommit : Bool) : Call σ D (Except RouteError Unit) := do
  return (← dispatch (.setAutocommit autocommit)).map fun _ => ()

def commit : Call σ D (Except RouteError Unit) := do
  return (← dispatch .commit).map fun _ => ()

def rollback : Call σ D (Except RouteError Unit) := do
  return (← dispatch .rollback).map fun _ => ()

/-- Closes the logical connection, which stays closed whatever the outcome. -/
def close : Call σ D (Except RouteError Unit) := do
  if (← get).closed then return .ok ()
  let answer ← dispatch .close
  modify fun c => { c with closed := true }
  return answer.map fun _ => ()

/-- The logical connection is given up: every link it holds is let go, those of the plugins first. -/
def finish (finishState : σ → Act D Unit) (c : Connection σ D) : Act D Unit := do
  c.chain.forM fun p => finishState p.2
  Service.finish

end Connection

end ReplicaRouter
