import ReplicaRouter.Backend
/-
A database that behaves as a script says, host by host and connection by connection. It lets every
course of events be staged: hosts that fail, connections that turn out invalid, checks that take
long, operations that fail.
-/
namespace ReplicaRouter.Sim

/-- How a host behaves. -/
structure HostScript where
  /-- Whether connecting fails, and with which error if not the usual one. -/
  failing : Option (Option RouteError) := none
  /-- How many connections may still be asked for before connecting fails. -/
  failAfter : Option Nat := none
  /-- How many of the next connections are invalid. -/
  invalidNext : Nat := 0
  rows : List Row := []
  /-- How long a check takes. -/
  validDelay : Duration := ⟨0⟩
  connectDelay : Duration := ⟨0⟩
  deriving Inhabited

structure Conn where
  host : String
  rows : List Row
  valid : Bool
  closed : Bool := false
  /-- The error that the next operation fails with. -/
  failure : Option RouteError := none
  /-- The reply that the next operation gets. -/
  reply : Option Reply := none
  /-- Whether closing reports an error. -/
  closeFails : Bool := false
  deriving Inhabited

/-- Whether a request for a connection is granted, and the script afterwards: a host that may be asked
so many times more counts the request. -/
def HostScript.grant (s : HostScript) : Bool × HostScript :=
  match s.failAfter with
  | some 0 => (false, s)
  | some (n + 1) => (s.failing.isNone, { s with failAfter := some n })
  | none => (s.failing.isNone, s)

def HostScript.refusal (s : HostScript) (host : String) : RouteError :=
  (s.failing.bind id).getD (.driver ("connection to " ++ host ++ " refused") (some "08001"))

/-- The reply of a connection that nothing special was laid down for. -/
def Conn.usualReply (conn : Conn) : Operation → Reply
  | .query _ => .rows conn.rows
  | .update _ => .count 1
  | _ => .done

/-- The outcome of an operation on a connection, and the connection afterwards. -/
def Conn.run (conn : Conn) (op : Operation) : Except RouteError Reply × Conn :=
  if conn.closed then
    (.error (.driver ("connection " ++ conn.host ++ " is closed") (some "08003")), conn)
  else match conn.failure, conn.reply with
    | some e, _ => (.error e, { conn with failure := none })
    | none, some r => (.ok r, { conn with reply := none })
    | none, none => (.ok (conn.usualReply op), conn)

/-- A scripted database: the scripts of its hosts by name, and the connections opened so far. -/
structure Cluster where
  scripts : List (String × HostScript) := []
  conns : List Conn := []

namespace Cluster

def script (c : Cluster) (host : String) : HostScript := (c.scripts.lookup host).getD {}

def modifyScript (host : String) (f : HostScript → HostScript) (c : Cluster) : Cluster :=
  { c with scripts := (host, f (c.script host)) :: c.scripts.filter fun s => s.1 ≠ host }

def conn (c : Cluster) (i : ConnId) : Conn := c.conns.getD i default

def modifyConn (i : ConnId) (f : Conn → Conn) (c : Cluster) : Cluster :=
  { c with conns := c.conns.modify i f }

def openConns (c : Cluster) : List ConnId :=
  (List.range c.conns.length).filter fun i => !(c.conn i).closed

def connect (host : Host) : Routine Cluster (Except RouteError ConnId) := do
  Routine.sleep ((← get).script host.name).connectDelay
  modifyGet fun c =>
    let (granted, s) := (c.script host.name).grant
    if granted then
      let c := c.modifyScript host.name fun _ => { s with invalidNext := s.invalidNext - 1 }
      let conn : Conn := { host := host.name, rows := s.rows, valid := s.invalidNext == 0 }
      (.ok c.conns.length, { c with conns := c.conns ++ [conn] })
    else (.error (s.refusal host.name), c.modifyScript host.name fun _ => s)

instance : Backend Cluster where
  connect _ host _ := connect host
  invoke i op := modifyGet fun c =>
    let (outcome, conn) := (c.conn i).run op
    (outcome, c.modifyConn i fun _ => conn)
  isValid i _ := do
    let c ← get
    Routine.sleep (c.script (c.conn i).host).validDelay
    let conn := (← get).conn i
    return !conn.closed && conn.valid
  close i := do
    let conn := (← get).conn i
    modify (modifyConn i fun conn => { conn with closed := true })
    if conn.closeFails then
      return .error (.driver ("cannot close " ++ conn.host) (some "08006"))
    else return .ok ()
  isClosed i c := (c.conn i).closed

end Cluster

end ReplicaRouter.Sim
