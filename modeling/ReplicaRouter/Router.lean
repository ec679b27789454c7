import ReplicaRouter.Connection
import ReplicaRouter.Splitting.Plugin
/-
The router: the settings, and the pools that all logical connections of an application share. It
opens logical connections with read/write splitting, and closes the pools when it is shut down.
-/
namespace ReplicaRouter

/-- What a router was started with. -/
structure Router where
  settings : Settings
  protocol : String
  telemetry : Telemetry
  /-- Where connections come from. -/
  providers : Providers
  /-- The numbers that random picks draw on. -/
  draws : Nat → Nat

namespace Router

def selector (r : Router) : Selector :=
  match r.settings.splitting.readerSelection with
  | .random => .random r.draws 0
  | .roundRobin => .roundRobin 0

def ofSettings (settings : Settings) (protocol : String) (draws : Nat → Nat) :
    Except SettingsError Router := do
  settings.validate
  let telemetry ← Telemetry.ofSettings settings.telemetry
  let base : PooledProvider := { base := .ofSettings settings.pool }
  let pooled := base.withMaxRetries settings.pool.maxValidationRetries
  return { settings, protocol, telemetry, providers := { pooled := some pooled }, draws }

variable {D : Type} [Backend D]

/-- Starts the worker that sweeps the pools, if the settings ask for one. -/
def startSweeping (r : Router) : Routine (World D) Unit := do
  if r.settings.cache.backgroundCleanup then
    if !(← poolKeeper.startWorker) then
      World.log .warn "Pool cleanup task not started, sweeping on access instead"

def start (r : Router) : Routine (World D) Unit := do
  let now ← Routine.now
  let cache := r.settings.cache
  modify fun w => { w with cache := .empty cache.expiration cache.cleanupInterval now }
  r.startSweeping
  let splitting := r.settings.splitting
  World.log .info (s!"Switchyard ready (protocol: {r.protocol}, " ++
    s!"reader selection: {splitting.readerSelection.text}, " ++
    s!"load balancing: {splitting.loadBalanceReaders})")

/-- The state that a logical connection starts with. -/
def service (r : Router) : Service where
  protocol := r.protocol
  providers := r.providers
  telemetry := r.telemetry

/-- The splitter that a logical connection starts with. -/
def splitter (r : Router) (props : Properties) : Splitter where
  props
  selector := r.selector
  loadBalance := r.settings.splitting.loadBalanceReaders

/-- Opens a logical connection with read/write splitting. -/
def connect (r : Router) (host : Host) (props : Properties) :
    Routine (World D) (Except RouteError (Connection Splitter D × Service)) := do
  let chain : Chain Splitter (Act D) := [(Split.plugin, r.splitter props)]
  let (opened, service) ← (Connection.open chain host props).run r.service
  return opened.map (·, service)

/-- Releases pools that have not been used for long; counts them. -/
def sweep : Routine (World D) Nat := poolKeeper.sweep

/-- Stops sweeping and closes every pool. -/
def shutdown (r : Router) : Routine (World D) Unit := do
  poolKeeper.stopWorker
  r.providers.release
  World.log .info "Switchyard shut down"

end Router

end ReplicaRouter
