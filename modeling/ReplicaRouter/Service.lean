import ReplicaRouter.Provider
import ReplicaRouter.Telemetry
import ReplicaRouter.Transaction
/-
What one logical connection knows of itself: the link that is current, the transaction state, and
the node that its first connection turned out to lead to. Operations that reach the end of the chain
of plugins run on the current link, and the transaction state follows them.
-/
namespace ReplicaRouter

/-- The own state of a logical connection, with what it was set up with. -/
structure Service where
  protocol : String
  providers : Providers
  telemetry : Telemetry := .off
  /-- The link that operations run on, and its host. -/
  current : Option HostLink := none
  /-- The transaction state, as the operations so far make it. -/
  transaction : TransactionState := {}
  /-- The node behind the first connection, where that had to be found out. -/
  initialHost : Option Host := none

/-- What a logical connection does: work on the shared world with its own state at hand. -/
abbrev Act (D : Type) : Type → Type := StateT Service (Routine (World D))

def Act.world {D α : Type} (x : Routine (World D) α) : Act D α := liftM x

namespace Service

variable {D : Type}

def link? (s : Service) : Option Link := s.current.map Prod.fst

def inTransaction (s : Service) : Bool := s.transaction.isOpen

def signal (s : Signal) : Act D Unit := do
  ((← get).telemetry.entries s).forM fun e => Act.world (Routine.note e)

def hosts : Act D (List Host) := do return (← Act.world get).hosts.topology

/-- Records the node that the first connection leads to. -/
def setInitialHost (host : Host) : Act D Unit := do
  Act.world (World.log .debug ("Initial connection resolved to " ++ host.text))
  modify fun s => { s with initialHost := some host }

variable [Backend D]

/-- Makes a link the one that operations run on. -/
def setCurrent (l : Link) (host : Host) : Act D Unit := do
  Act.world (World.log .debug ("Current connection set to " ++ host.text))
  Act.world l.hold
  let earlier := (← get).link?
  modify fun s => { s with current := some (l, host) }
  if let some earlier := earlier then Act.world earlier.letGo

def connect (host : Host) (props : Properties) : Act D (Except RouteError Link) := do
  let s ← get
  Act.world (s.providers.connect s.protocol host props)

/-- The known node that a link leads to, if there is a way to ask and the answer names one. -/
def identify (l : Link) : Act D (Except RouteError (Option Host)) := do
  match (← Act.world get).hosts.identityQuery with
  | none => return .ok none
  | some query =>
    match (← Act.world (l.invoke (.query query))).bind Reply.rows? with
    | .error e => return .error e
    | .ok rows => return .ok ((← Act.world get).hosts.identified? rows)

/-! ## The end of the chain -/

/-- Sends an operation over a link; closing closes the link. -/
def perform (l : Link) : Operation → Routine (World D) (Except RouteError Reply)
  | .close => do return (← l.close).map fun _ => .done
  | op => l.invoke op

/-- Runs an operation on the current link. A failover ends the transaction that was open. -/
def execute (op : Operation) : Act D (Except RouteError Reply) := do
  match (← get).link? with
  | none => return .error (.connectionUnavailable "no current connection")
  | some l =>
    match ← Act.world (perform l op) with
    | .ok reply =>
      modify fun s => { s with transaction := s.transaction.after op }
      return .ok reply
    | .error e =>
      if e.isFailover then modify fun s => { s with transaction := s.transaction.closed }
      return .error e

/-- A logical connection that ends lets go of its current link. -/
def finish : Act D Unit := do
  let earlier := (← get).link?
  modify fun s => { s with current := none }
  if let some earlier := earlier then Act.world earlier.letGo

end Service

end ReplicaRouter
