import ReplicaRouter.Host
import ReplicaRouter.Text.Blank
/-
The list of hosts that logical connections route among, and the query, if there is one, that asks a
node for its own name.
-/
namespace ReplicaRouter

/-- The known nodes, and how a node tells which one it is. -/
structure HostList where
  topology : Topology := []
  /-- The query whose first value names the node that answers it. -/
  identityQuery : Option String := none
  deriving DecidableEq, Repr, Inhabited

namespace HostList

/-- Whether a host goes by this name: its whole name or the first label of it, in any letter case. -/
def names (id : List Char) (h : Host) : Bool :=
  Text.sameIgnoringCase h.label id || Text.sameIgnoringCase h.name.toList id

/-- The first known host that goes by a name. -/
def find? (l : HostList) (id : String) : Option Host :=
  l.topology.find? (names (Text.trim id.toList))

/-- The host that the rows of an answer to the identity query name. -/
def identified? (l : HostList) (rows : List (List String)) : Option Host :=
  match rows with
  | (id :: _) :: _ => l.find? id
  | _ => none

end HostList

end ReplicaRouter
