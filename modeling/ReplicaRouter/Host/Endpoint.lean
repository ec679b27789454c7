import ReplicaRouter.Host
import ReplicaRouter.Host.Address
import ReplicaRouter.Text.Blank
/-
What kind of endpoint a host name denotes, by the naming rules of managed clusters: the second
label of the name tells cluster endpoints apart from single nodes.
-/
namespace ReplicaRouter

/-- What a host name refers to. -/
inductive EndpointKind where
  | node
  /-- Whichever node takes writes. -/
  | cluster
  /-- Any of the readers. -/
  | readerCluster
  /-- A chosen subset of the nodes. -/
  | customCluster
  /-- A bare IP address; the node behind it is unknown until asked. -/
  | address
  deriving DecidableEq, Repr

namespace EndpointKind

/-- Whether the endpoint pins one node. -/
def isNode (k : EndpointKind) : Bool := k == .node

/-- Whether the node behind the endpoint must be asked for after connecting. -/
def needsIdentification (k : EndpointKind) : Bool := !k.isNode

/-- The kind by the name's second label. -/
def ofLabel (label : List Char) : EndpointKind :=
  let label := label.map Text.asciiLower
  if Text.startsWith "cluster-ro-" label then .readerCluster
  else if Text.startsWith "cluster-custom-" label then .customCluster
  else if Text.startsWith "cluster-" label then .cluster
  else .node

/-- The name without opening brackets in front and closing brackets behind. -/
def unbracketed (name : List Char) : List Char :=
  ((name.dropWhile (· == '[')).reverse.dropWhile (· == ']')).reverse

/-- The kind of endpoint that a host name denotes. -/
def ofName (name : String) : EndpointKind :=
  let name := Text.trim name.toList
  if Address.isAddress (unbracketed name) then .address
  else ofLabel ((Text.cut '.' name)[1]?.getD [])

end EndpointKind

def Host.endpointKind (h : Host) : EndpointKind := .ofName h.name

end ReplicaRouter
