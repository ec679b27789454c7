import ReplicaRouter.Host
import ReplicaRouter.Journal
import ReplicaRouter.Pool.Permits
import ReplicaRouter.Settings
/-
The pool of one host: a bounded number of connections, some handed out and the others idle. What a
borrower gets is a handle; giving the handle back puts the connection among the idle ones.
-/
namespace ReplicaRouter

/-- The number by which a pool is known. -/
abbrev PoolId := Nat

/-- The number by which a handle is known. -/
abbrev HandleId := Nat

/-- How a pool behaves. -/
structure PoolConfig where
  maxSize : Nat := 10
  /-- Whether new connections are put into read-only mode. -/
  readOnly : Bool := false
  /-- The limit of each check of a connection. -/
  validationTimeout : Duration := .ofSeconds 3
  /-- How long a borrower waits for a free place. -/
  acquireTimeout : Duration := .ofSeconds 30
  deriving DecidableEq, Repr, Inhabited

namespace PoolConfig

/-- The behaviour that the settings ask for. -/
def ofSettings (s : PoolSettings) : PoolConfig where
  maxSize := s.maxConnectionsPerHost
  validationTimeout := s.validationTimeout
  acquireTimeout := s.acquireTimeout

def detail (c : PoolConfig) : String :=
  s!"PoolConfig \x7b max_size: {c.maxSize}, read_only: {c.readOnly}, " ++
    s!"validation_timeout: {c.validationTimeout.exact}, acquire_timeout: {c.acquireTimeout.exact} \x7d"

end PoolConfig

/-- The connections to one host. -/
structure Pool where
  /-- The name under which the pool is known. -/
  key : String
  /-- What its connections are opened with. -/
  protocol : String
  host : Host
  props : Properties
  config : PoolConfig
  /-- The connections that wait to be borrowed, the one given back last first. -/
  idle : List ConnId := []
  /-- How many handles are out. -/
  active : Nat := 0
  /-- Whether the pool hands out nothing any more. -/
  closed : Bool := false
  /-- The permits that bound the number of borrowers. -/
  permits : Permits
  deriving DecidableEq, Repr, Inhabited

namespace Pool

/-- A pool without connections; it has to have room for one. -/
def create (key protocol : String) (host : Host) (props : Properties) (config : PoolConfig) :
    Except RouteError Pool :=
  if config.maxSize = 0 then .error (.internal "pool max_size must be greater than 0")
  else .ok { key, protocol, host, props, config, permits := { free := config.maxSize } }

/-- The error of borrowing from a closed pool. -/
def closedError (p : Pool) : RouteError := .connectionUnavailable ("pool " ++ p.key ++ " is closed")

/-- The error of waiting too long for a free place. -/
def acquireError (p : Pool) : RouteError := .timeout ("acquire connection from pool " ++ p.key)

/-- The error of using a handle that was given back. -/
def returnedError (p : Pool) : RouteError :=
  .driver ("connection from pool " ++ p.key ++ " is closed") (some "08003")

def detail (p : Pool) : String :=
  s!"HostPool \x7b key: {Text.quote p.key}, host: {p.host.detail}, active: {p.active}, " ++
    s!"idle: {p.idle.length}, closed: {p.closed} \x7d"

def modifyPermits (f : Permits → Permits) (p : Pool) : Pool := { p with permits := f p.permits }

/-- One more handle is out. -/
def lend (p : Pool) : Pool := { p with active := p.active + 1 }

/-- A handle is back. -/
def unlend (p : Pool) : Pool := { p with active := p.active - 1 }

end Pool

structure Handle where
  pool : PoolId
  conn : ConnId
  returned : Bool := false
  /-- Whether it still takes up a permit of the pool. -/
  hasPermit : Bool := true
  /-- How many places hold it; once none does any more it goes back on its own. -/
  holders : Nat := 0
  deriving DecidableEq, Repr, Inhabited

end ReplicaRouter
