import ReplicaRouter.Backend
import ReplicaRouter.Cache
import ReplicaRouter.HostList
import ReplicaRouter.Pool
/-
Everything that logical connections share: the database behind its driver, the host list, the pools
with their handles, and the journal. Every call to the driver goes through this module and is
written down in the journal together with its outcome.
-/
namespace ReplicaRouter

/-- What logical connections share. -/
structure World (D : Type) where
  backend : D
  /-- What has happened, latest first. -/
  journal : List Entry := []
  hosts : HostList := {}
  /-- The pools that new connections are borrowed from, by key. -/
  cache : Cache String PoolId
  /-- Every pool there ever was. -/
  pools : List Pool := []
  /-- Every handle there ever was. -/
  handles : List Handle := []
  /-- Connections that nobody holds any more and that have to be closed. -/
  orphans : List ConnId := []

namespace World

variable {D : Type}

instance : Journaled (World D) where
  note e w := { w with journal := e :: w.journal }

def log (level : LogLevel) (text : String) : Routine (World D) Unit := Routine.log level text

def backendPart : Part (World D) D where
  get w := w.backend
  set d w := { w with backend := d }

def cachePart : Part (World D) (Cache String PoolId) where
  get w := w.cache
  set c w := { w with cache := c }

def pool (w : World D) (id : PoolId) : Pool := w.pools.getD id default

def modifyPool (id : PoolId) (f : Pool → Pool) (w : World D) : World D :=
  { w with pools := w.pools.modify id f }

def handle (w : World D) (h : HandleId) : Handle := w.handles.getD h default

def modifyHandle (h : HandleId) (f : Handle → Handle) (w : World D) : World D :=
  { w with handles := w.handles.modify h f }

/-- A change of one pool is seen at that pool only. -/
theorem pool_modifyPool {id : PoolId} {w : World D} (h : id < w.pools.length) (f : Pool → Pool)
    (j : PoolId) : (w.modifyPool id f).pool j = if j = id then f (w.pool id) else w.pool j := by
  by_cases hj : j = id
  · subst hj; simp [pool, modifyPool, List.getD_eq_getElem?_getD, h]
  · simp [pool, modifyPool, List.getD_eq_getElem?_getD, Ne.symm hj, hj]

/-- A change of one handle is seen at that handle only. -/
theorem handle_modifyHandle {h : HandleId} {w : World D} (hh : h < w.handles.length)
    (f : Handle → Handle) (j : HandleId) :
    (w.modifyHandle h f).handle j = if j = h then f (w.handle h) else w.handle j := by
  by_cases hj : j = h
  · subst hj; simp [handle, modifyHandle, List.getD_eq_getElem?_getD, hh]
  · simp [handle, modifyHandle, List.getD_eq_getElem?_getD, Ne.symm hj, hj]

variable [Backend D]

def isClosed (w : World D) (c : ConnId) : Bool := Backend.isClosed c w.backend

/-! ## Calls to the driver -/

def dial (protocol : String) (host : Host) (props : Properties) :
    Routine (World D) (Except RouteError ConnId) := do
  let outcome ← (Backend.connect protocol host props).focus backendPart
  Routine.note (.call (.connect protocol host props outcome.toOption))
  return outcome

def send (c : ConnId) (op : Operation) : Routine (World D) (Except RouteError Reply) := do
  let wasOpen := !(← get).isClosed c
  let outcome ← (Backend.invoke c op).focus backendPart
  Routine.note (.call (.invoke c wasOpen op outcome))
  return outcome

def check (c : ConnId) (limit : Duration) : Routine (World D) Bool := do
  let answer ← (Backend.isValid c limit).focus backendPart
  Routine.note (.call (.validate c limit answer))
  return answer

def hangUp (c : ConnId) : Routine (World D) (Except RouteError Unit) := do
  let outcome ← (Backend.close c).focus backendPart
  Routine.note (.call (.close c outcome))
  return outcome

/-- The line that is logged for an error that nobody has to care about. -/
def ignoredLine (e : RouteError) : String := "Ignoring error while closing connection: " ++ e.message

/-- Closes a connection; an error is only logged. -/
def hangUpQuietly (c : ConnId) : Routine (World D) Unit := do
  match ← hangUp c with
  | .ok () => return ()
  | .error e => Routine.log .debug (ignoredLine e)

end World

end ReplicaRouter
