import ReplicaRouter.Duration
import ReplicaRouter.Error
/-
The settings of a router, with their defaults, and the conditions they have to meet.
-/
namespace ReplicaRouter

structure PoolSettings where
  /-- How many physical connections a pool may hold. -/
  maxConnectionsPerHost : Nat := 10
  /-- The limit of each check of a connection, in milliseconds. -/
  validationTimeoutMs : Nat := 3000
  /-- How many connections are tried before giving up on finding a valid one. -/
  maxValidationRetries : Nat := 10
  /-- How long to wait for a free place in a pool, in milliseconds. -/
  acquireTimeoutMs : Nat := 30000
  deriving DecidableEq, Repr, Inhabited

structure CacheSettings where
  /-- How long an unused pool is kept, in seconds. -/
  expirationSec : Nat := 1800
  /-- The interval between sweeps, in seconds. -/
  cleanupIntervalSec : Nat := 600
  /-- Whether a worker in the background sweeps, rather than callers. -/
  backgroundCleanup : Bool := true
  deriving DecidableEq, Repr, Inhabited

inductive ReaderSelection where
  | random
  | roundRobin
  deriving DecidableEq, Repr, Inhabited

/-- The name of a way to pick in a settings document. -/
def ReaderSelection.name : ReaderSelection → String
  | random => "random"
  | roundRobin => "round_robin"

/-- The name of a way to pick inside messages. -/
def ReaderSelection.text : ReaderSelection → String
  | random => "Random"
  | roundRobin => "RoundRobin"

structure SplittingSettings where
  /-- How a reader is picked. -/
  readerSelection : ReaderSelection := .random
  /-- Whether a reader is picked anew before every statement in read-only mode. -/
  loadBalanceReaders : Bool := false
  deriving DecidableEq, Repr, Inhabited

structure TelemetrySettings where
  enabled : Bool := false
  /-- Where it goes. -/
  backend : String := "none"
  deriving DecidableEq, Repr, Inhabited

structure LoggingSettings where
  level : String := "info"
  format : String := "text"
  deriving DecidableEq, Repr, Inhabited

structure Settings where
  pool : PoolSettings := {}
  cache : CacheSettings := {}
  splitting : SplittingSettings := {}
  telemetry : TelemetrySettings := {}
  logging : LoggingSettings := {}
  deriving DecidableEq, Repr, Inhabited

/-! ## Durations -/

def PoolSettings.validationTimeout (s : PoolSettings) : Duration := .ofMillis s.validationTimeoutMs

def PoolSettings.acquireTimeout (s : PoolSettings) : Duration := .ofMillis s.acquireTimeoutMs

def CacheSettings.expiration (s : CacheSettings) : Duration := .ofSeconds s.expirationSec

def CacheSettings.cleanupInterval (s : CacheSettings) : Duration := .ofSeconds s.cleanupIntervalSec

/-! ## Conditions -/

def telemetryBackends : List String := ["none", "tracing"]

def logLevels : List String := ["error", "warn", "info", "debug", "trace"]

def logFormats : List String := ["json", "text"]

namespace Settings

/-- What the settings have to meet, in the order in which it is checked, with the complaint when it
is not met. -/
def conditions (s : Settings) : List (Bool × String) := [
  (0 < s.pool.maxConnectionsPerHost, "max_connections_per_host must be greater than 0"),
  (0 < s.pool.validationTimeoutMs, "validation_timeout_ms must be greater than 0"),
  (0 < s.pool.maxValidationRetries, "max_validation_retries must be greater than 0"),
  (0 < s.pool.acquireTimeoutMs, "acquire_timeout_ms must be greater than 0"),
  (0 < s.cache.expirationSec, "cache expiration_sec must be greater than 0"),
  (0 < s.cache.cleanupIntervalSec, "cache cleanup_interval_sec must be greater than 0"),
  (telemetryBackends.contains s.telemetry.backend,
    "Invalid telemetry backend: " ++ s.telemetry.backend),
  (logLevels.contains s.logging.level, "Invalid log level: " ++ s.logging.level),
  (logFormats.contains s.logging.format, "Invalid log format: " ++ s.logging.format)]

/-- The complaint about the first condition that is not met. -/
def complaint? (s : Settings) : Option String :=
  (s.conditions.find? fun condition => !condition.1).map Prod.snd

/-- Succeeds when every condition is met. -/
def validate (s : Settings) : Except SettingsError Unit :=
  match s.complaint? with
  | some complaint => .error (.validation complaint)
  | none => .ok ()

/-- The settings of an example profile. -/
def ofProfile (profile : String) : Except SettingsError Settings :=
  if profile = "default" then .ok {}
  else if profile = "load-balanced" then
    .ok {
      splitting := { readerSelection := .roundRobin, loadBalanceReaders := true }
      telemetry := { enabled := true, backend := "tracing" } }
  else .error (.validation "Profile must be 'default' or 'load-balanced'")

end Settings

end ReplicaRouter
