import ReplicaRouter.Cache.Worker
import ReplicaRouter.Host.Endpoint
import ReplicaRouter.Link
import ReplicaRouter.Routine.Schedule
/-
Where connections come from. A host name that pins one node is served from the pool of that node,
checked before it is handed out; everything else gets a connection of its own. Pools live in an
expiring cache and are released only while nothing is borrowed from them.
-/
namespace ReplicaRouter

/-! ## The cache of pools -/

section Pools

variable {D : Type} [Backend D]

def poolKeeper : Keeper (World D) String PoolId where
  cache := World.cachePart
  keyText := Text.quote
  mayRelease w id := (w.pool id).active == 0
  release id := do
    match ← World.closePool id with
    | .ok () => return .released
    | .error e => return .refused e

/-- In the background, connections that nobody holds are closed and the workers of the cache go on. -/
instance : Background (World D) where
  next? w :=
    if w.orphans.isEmpty then w.cache.dueWorker?.map fun id => poolKeeper.goOn id
    else some World.closeOrphan

end Pools

/-! ## Pooled connections -/

/-- How pooled connections are provided. -/
structure PooledProvider where
  /-- How pools behave unless told otherwise. -/
  base : PoolConfig := {}
  /-- Adjusts the behaviour to the host that a pool is created for. Pools of readers are in read-only
  mode. -/
  configure : Host → Properties → PoolConfig → PoolConfig :=
    fun host _ config => { config with readOnly := host.isReader }
  /-- The key of the pool that serves a host. -/
  keyOf : Host → Properties → String := fun host _ => host.url
  /-- How many connections are tried before giving up on finding a valid one. -/
  maxRetries : Nat := 10

namespace PooledProvider

variable {D : Type} [Backend D] (provider : PooledProvider)

/-- The provider with another number of tries, at least one. -/
def withMaxRetries (n : Nat) : PooledProvider := { provider with maxRetries := max n 1 }

/-- Whether a host is served from a pool. -/
def accepts (host : Host) : Bool := host.endpointKind.isNode

def createPool (key protocol : String) (host : Host) (props : Properties) (w : World D) :
    Except RouteError PoolId × World D :=
  let config := provider.configure host props provider.base
  let w := Journaled.note (.log .info (s!"Creating connection pool {key} " ++
    s!"(max_size: {config.maxSize}, read_only: {config.readOnly})")) w
  match Pool.create key protocol host props config with
  | .ok pool => (.ok w.pools.length, { w with pools := w.pools ++ [pool] })
  | .error e => (.error e, w)

/-- The error of giving up: the last error met on the way, if there was one. -/
def exhausted (host : Host) (cause : Option RouteError) : RouteError :=
  .validationExhausted provider.maxRetries
    (cause.getD (.connectionUnavailable s!"connections to {host.text} kept failing validation"))

/-- Borrows a valid connection, with so many tries left. `invalid` connections failed their check so
far, and `cause` is the last error of a pool that was closed meanwhile. -/
def connectWithin (protocol : String) (host : Host) (props : Properties) :
    (left : Nat) → (invalid : Nat) → (cause : Option RouteError) →
      Routine (World D) (Except RouteError HandleId)
  | 0, _, cause => return .error (provider.exhausted host cause)
  | left + 1, invalid, cause => do
    let key := provider.keyOf host props
    match ← poolKeeper.computeIfAbsent key (provider.createPool key protocol host props) with
    | .error e => return .error e
    | .ok id =>
      match ← World.borrow id with
      | .error e =>
        if ((← get).pool id).closed then
          Routine.log .debug ("Pool " ++ key ++ " closed while borrowing, retrying")
          connectWithin protocol host props left invalid (some e)
        else if 0 < invalid then return .error (.validationExhausted invalid e)
        else return .error e
      | .ok h =>
        let limit := ((← get).pool id).config.validationTimeout
        if ← (Link.pooled h).isValid limit then return .ok h
        else
          Routine.log .warn (s!"Connection from pool {key} failed validation " ++
            s!"(attempt {provider.maxRetries - left}/{provider.maxRetries})")
          World.evict h
          connectWithin protocol host props left (invalid + 1) cause

/-- Borrows a valid connection to a host. -/
def connect (protocol : String) (host : Host) (props : Properties) :
    Routine (World D) (Except RouteError HandleId) :=
  provider.connectWithin protocol host props provider.maxRetries 0 none

def link (protocol : String) (host : Host) (props : Properties) :
    Routine (World D) (Except RouteError Link) := do
  return (← provider.connect protocol host props).map Link.pooled

def release : Routine (World D) Unit := do
  let count := (← poolKeeper.look).size
  poolKeeper.clear
  Routine.log .info s!"Released {count} connection pools"

end PooledProvider

/-! ## Choosing -/

/-- The ways to get a connection: straight from the driver, and perhaps from pools. -/
structure Providers where
  /-- How pooled connections are provided, if they are. -/
  pooled : Option PooledProvider := none

namespace Providers

variable {D : Type} [Backend D]

/-- The pooled provider, if there is one and it serves the host. -/
def pooledFor? (ps : Providers) (host : Host) : Option PooledProvider :=
  ps.pooled.filter fun _ => PooledProvider.accepts host

/-- The name of the provider that serves a host. -/
def nameFor (ps : Providers) (host : Host) : String :=
  if (ps.pooledFor? host).isSome then "pooled" else "driver"

def connect (ps : Providers) (protocol : String) (host : Host) (props : Properties) :
    Routine (World D) (Except RouteError Link) := do
  Routine.log .debug s!"Connecting to {host.text} via {ps.nameFor host} provider"
  match ps.pooledFor? host with
  | some provider => provider.link protocol host props
  | none => return (← World.dial protocol host props).map Link.direct

/-- Lets go of everything that is kept for later. -/
def release (ps : Providers) : Routine (World D) Unit :=
  if ps.pooled.isSome then PooledProvider.release else return ()

end Providers

end ReplicaRouter
