import ReplicaRouter.Text.Quoted
/-
The nodes of a replicated database: a host has a name, perhaps a port, and the role it plays.
Main definitions: `Host.sameNode`, which ignores the role, and `Host.url`, the key under which
connections to a host are pooled.
-/
namespace ReplicaRouter

/-- What a node may be used for. -/
inductive Role where
  /-- The node that takes writes. -/
  | writer
  /-- A replica that serves reads. -/
  | reader
  deriving DecidableEq, Repr, Inhabited

def Role.text : Role → String
  | .writer => "WRITER"
  | .reader => "READER"

structure Host where
  name : String
  /-- The port, if it is not the default one. -/
  port : Option UInt16
  role : Role
  deriving DecidableEq, Repr, Inhabited

/-- Settings that travel with a connection request: names and values in the order of the names. -/
abbrev Properties := List (String × String)

/-- The value of the property of this name. -/
def Properties.value? (props : Properties) (name : String) : Option String :=
  (props.find? fun entry => entry.1 == name).map Prod.snd

namespace Host

def isWriter (h : Host) : Bool := h.role == .writer

def isReader (h : Host) : Bool := h.role == .reader

/-- The same node in another role. -/
def withRole (h : Host) (role : Role) : Host := { h with role }

/-- Whether two hosts are one network location, whatever role each plays. -/
def sameNode (a b : Host) : Bool := a.name == b.name && a.port == b.port

/-- Name and port, as in `db-1:5432`. -/
def address (h : Host) : String :=
  match h.port with
  | some port => s!"{h.name}:{port}"
  | none => h.name

/-- The canonical URL, as in `db-1:5432/`. -/
def url (h : Host) : String := h.address ++ "/"

/-- Address and role, as in `db-1:5432 (READER)`. -/
def text (h : Host) : String := s!"{h.address} ({h.role.text})"

/-- The parts of the host one by one, as in `HostSpec { host: "db-1", port: Some(5432), role: Writer }`. -/
def detail (h : Host) : String :=
  let port := match h.port with
    | some port => s!"Some({port})"
    | none => "None"
  let role := match h.role with
    | .writer => "Writer"
    | .reader => "Reader"
  s!"HostSpec \x7b host: {Text.quote h.name}, port: {port}, role: {role} \x7d"

/-- The first label of the name: everything before the first point. -/
def label (h : Host) : List Char := h.name.toList.takeWhile (· != '.')

end Host

/-! ## Topologies -/

/-- The known nodes in order. -/
abbrev Topology := List Host

namespace Topology

def writer? (hosts : Topology) : Option Host := hosts.find? Host.isWriter

def readers (hosts : Topology) : List Host := hosts.filter Host.isReader

/-- Whether there is one node only, which then has no separate reader. -/
def isSingle (hosts : Topology) : Bool := hosts.length == 1

/-- Whether two topologies name the same locations in the same order. -/
def sameNodes : Topology → Topology → Bool
  | [], [] => true
  | a :: as, b :: bs => a.sameNode b && sameNodes as bs
  | _, _ => false

end Topology

end ReplicaRouter
