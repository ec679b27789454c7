import ReplicaRouter.Pool.Lending
/-
Links: what a logical connection holds of a physical one. A link is either the connection itself or
a handle borrowed from a pool, and closing it accordingly closes the connection or gives it back.
-/
namespace ReplicaRouter

/-- A hold on a physical connection. Two links are the same when they are equal: two handles on one
connection are different links. -/
inductive Link where
  /-- The connection itself. -/
  | direct (c : ConnId)
  /-- A handle borrowed from a pool. -/
  | pooled (h : HandleId)
  deriving DecidableEq, Repr, Inhabited

/-- A link that knows the host it leads to. -/
abbrev HostLink := Link × Host

namespace World

variable {D : Type} [Backend D]

def isLinkClosed (w : World D) : Link → Bool
  | .direct c => w.isClosed c
  | .pooled h => (w.handle h).returned || w.isClosed (w.handle h).conn

end World

namespace Link

variable {D : Type} [Backend D]

def invoke (l : Link) (op : Operation) : Routine (World D) (Except RouteError Reply) :=
  match l with
  | direct c => World.send c op
  | pooled h => do
    let w ← get
    let handle := w.handle h
    if handle.returned then return .error (w.pool handle.pool).returnedError
    else World.send handle.conn op

/-- Checks a link. A borrowed one is given no more time than the limit. -/
def isValid (l : Link) (limit : Duration) : Routine (World D) Bool :=
  match l with
  | direct c => World.check c limit
  | pooled h => do
    let handle := (← get).handle h
    if handle.returned then return false
    else return (← Routine.within limit (World.check handle.conn limit)).getD false

def close (l : Link) : Routine (World D) (Except RouteError Unit) :=
  match l with
  | direct c => World.hangUp c
  | pooled h => do
    World.giveBack h
    return .ok ()

/-- Closes a link; an error is only logged. -/
def closeQuietly (l : Link) : Routine (World D) Unit := do
  match ← l.close with
  | .ok () => return ()
  | .error e => Routine.log .debug (World.ignoredLine e)

/-! ## Holders -/

/-- One more place holds the link. -/
def hold (l : Link) : Routine (World D) Unit :=
  match l with
  | direct _ => return ()
  | pooled h => modify (World.modifyHandle h fun e => { e with holders := e.holders + 1 })

/-- A borrowed link that no place holds goes back to its pool. -/
def settle (l : Link) : Routine (World D) Unit :=
  match l with
  | direct _ => return ()
  | pooled h => do if ((← get).handle h).holders = 0 then World.abandon h

/-- One place less holds the link. -/
def letGo (l : Link) : Routine (World D) Unit := do
  match l with
  | direct _ => return ()
  | pooled h => modify (World.modifyHandle h fun e => { e with holders := e.holders - 1 })
  l.settle

end Link

end ReplicaRouter
