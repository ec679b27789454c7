import ReplicaRouter.Link
/-
The chain of plugins that every request of a logical connection passes. A plugin is entered with the
request; it either answers it, or sends one on and may change the answer that comes back. Plugins
are entered in order and left in the reverse order; at the end of the chain stands whatever does the
real work.
-/
namespace ReplicaRouter

structure ConnectRequest where
  protocol : String
  host : Host
  props : Properties
  /-- Whether this is the first connection of the logical connection. -/
  initial : Bool
  deriving DecidableEq, Repr

/-- What a plugin makes of a request. -/
inductive Handling (M : Type → Type) (Req Ans : Type) where
  /-- It answers the request itself. -/
  | answer (ans : Ans)
  /-- It sends a request on, and makes its answer of the one that comes back. -/
  | forward (req : Req) (leave : Ans → M Ans)

/-- A plugin with a state of its own. -/
structure Plugin (σ : Type) (M : Type → Type) where
  name : String
  /-- What it does with requests for a connection. -/
  onConnect : ConnectRequest →
      StateT σ M (Handling (StateT σ M) ConnectRequest (Except RouteError Link))
  /-- What it does with operations. -/
  onExecute : Operation → StateT σ M (Handling (StateT σ M) Operation (Except RouteError Reply))

variable {σ Req Ans : Type} {M : Type → Type} [Monad M]

/-- Sends the request on, and the answer back, as they are. -/
def Handling.pass (req : Req) : Handling (StateT σ M) Req Ans := .forward req pure

/-- Plugins with their present states, the outermost first. -/
abbrev Chain (σ : Type) (M : Type → Type) : Type := List (Plugin σ M × σ)

namespace Chain

/-- Passes a request through the plugins to `last`, and the answer back; `hook` tells what a plugin
does with requests of this sort. -/
def through (hook : Plugin σ M → Req → StateT σ M (Handling (StateT σ M) Req Ans))
    (last : Req → M Ans) : Chain σ M → Req → M (Ans × Chain σ M)
  | [], req => do return (← last req, [])
  | (p, s) :: inner, req => do
    let (handling, s) ← (hook p req).run s
    match handling with
    | .answer ans => return (ans, (p, s) :: inner)
    | .forward req leave =>
      let (ans, inner) ← through hook last inner req
      let (ans, s) ← (leave ans).run s
      return (ans, (p, s) :: inner)

def connect (chain : Chain σ M) (last : ConnectRequest → M (Except RouteError Link))
    (req : ConnectRequest) : M (Except RouteError Link × Chain σ M) :=
  chain.through Plugin.onConnect last req

def execute (chain : Chain σ M) (last : Operation → M (Except RouteError Reply))
    (op : Operation) : M (Except RouteError Reply × Chain σ M) :=
  chain.through Plugin.onExecute last op

def names (chain : Chain σ M) : List String := chain.map fun p => p.1.name

end Chain

end ReplicaRouter
