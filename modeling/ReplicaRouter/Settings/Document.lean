import ReplicaRouter.Settings
import ReplicaRouter.Toml.Reader
import ReplicaRouter.Toml.Writer
/-
Settings as a TOML document: one table per group of settings, one key per setting. Every setting
has to be present; tables and keys that are not known are ignored. A group may also be written as
an array of its settings in order.
-/
namespace ReplicaRouter

open Toml (Value)

namespace Settings

/-! ## Reading -/

/-- The settings of one group: the value of each field, by key or by position. -/
def fields? (keys : List String) : Value → Option (List Value)
  | .table _ entries => keys.mapM fun key => Toml.lookup key entries
  | .array items => if keys.length ≤ items.length then some (items.take keys.length) else none
  | _ => none

def natural? : Value → Option Nat
  | .integer n => if 0 ≤ n then some n.toNat else none
  | _ => none

def boolean? : Value → Option Bool
  | .boolean b => some b
  | _ => none

def text? : Value → Option String
  | .text s => some s
  | _ => none

/-- The way to pick a reader that has this name. -/
def selectionOfName? (name : String) : Option ReaderSelection :=
  if name = "random" then some .random
  else if name = "round_robin" then some .roundRobin
  else none

/-- Whether a value holds nothing. -/
def isEmptyValue : Value → Bool
  | .array items => items.isEmpty
  | .table _ entries => entries.isEmpty
  | _ => false

/-- A way to pick a reader: its name, or a table with its name as the key of nothing. In braces
that key has to be the only one. -/
def selection? : Value → Option ReaderSelection
  | .text s => selectionOfName? s
  | .table inBraces ((name, v) :: more) =>
    if (inBraces && !more.isEmpty) || !isEmptyValue v then none else selectionOfName? name
  | _ => none

def poolOf? (v : Value) : Option PoolSettings := do
  match ← fields? ["max_connections_per_host", "validation_timeout_ms", "max_validation_retries",
    "acquire_timeout_ms"] v with
  | [a, b, c, d] => return ⟨← natural? a, ← natural? b, ← natural? c, ← natural? d⟩
  | _ => none

def cacheOf? (v : Value) : Option CacheSettings := do
  match ← fields? ["expiration_sec", "cleanup_interval_sec", "background_cleanup"] v with
  | [a, b, c] => return ⟨← natural? a, ← natural? b, ← boolean? c⟩
  | _ => none

def splittingOf? (v : Value) : Option SplittingSettings := do
  match ← fields? ["reader_selection", "load_balance_readers"] v with
  | [a, b] => return ⟨← selection? a, ← boolean? b⟩
  | _ => none

def telemetryOf? (v : Value) : Option TelemetrySettings := do
  match ← fields? ["enabled", "backend"] v with
  | [a, b] => return ⟨← boolean? a, ← text? b⟩
  | _ => none

def loggingOf? (v : Value) : Option LoggingSettings := do
  match ← fields? ["level", "format"] v with
  | [a, b] => return ⟨← text? a, ← text? b⟩
  | _ => none

/-- The settings that a document's table describes. -/
def ofEntries? (entries : List (String × Value)) : Option Settings := do
  return {
    pool := ← poolOf? (← Toml.lookup "pool" entries)
    cache := ← cacheOf? (← Toml.lookup "cache" entries)
    splitting := ← splittingOf? (← Toml.lookup "splitting" entries)
    telemetry := ← telemetryOf? (← Toml.lookup "telemetry" entries)
    logging := ← loggingOf? (← Toml.lookup "logging" entries) }

/-- The settings of a document: it has to be well formed, complete and valid. -/
def ofDocument (text : String) : Except SettingsError Settings :=
  match (Toml.read text).bind ofEntries? with
  | none => .error (.parse "the document does not describe settings")
  | some s => match s.validate with
    | .error e => .error e
    | .ok () => .ok s

/-- The settings of a file's bytes, which have to be UTF-8. -/
def ofBytes (bytes : ByteArray) : Except SettingsError Settings :=
  match String.fromUTF8? bytes with
  | some text => ofDocument text
  | none => .error (.io "stream did not contain valid UTF-8")

/-! ## Writing -/

/-- The numbers among the settings. -/
def numbers (s : Settings) : List Nat := [
  s.pool.maxConnectionsPerHost, s.pool.validationTimeoutMs, s.pool.maxValidationRetries,
  s.pool.acquireTimeoutMs, s.cache.expirationSec, s.cache.cleanupIntervalSec]

/-- The document's tables. -/
def sections (s : Settings) : List Toml.Section := [
  ⟨"pool", [
    ("max_connections_per_host", .integer s.pool.maxConnectionsPerHost),
    ("validation_timeout_ms", .integer s.pool.validationTimeoutMs),
    ("max_validation_retries", .integer s.pool.maxValidationRetries),
    ("acquire_timeout_ms", .integer s.pool.acquireTimeoutMs)]⟩,
  ⟨"cache", [
    ("expiration_sec", .integer s.cache.expirationSec),
    ("cleanup_interval_sec", .integer s.cache.cleanupIntervalSec),
    ("background_cleanup", .boolean s.cache.backgroundCleanup)]⟩,
  ⟨"splitting", [
    ("reader_selection", .text s.splitting.readerSelection.name),
    ("load_balance_readers", .boolean s.splitting.loadBalanceReaders)]⟩,
  ⟨"telemetry", [
    ("enabled", .boolean s.telemetry.enabled),
    ("backend", .text s.telemetry.backend)]⟩,
  ⟨"logging", [
    ("level", .text s.logging.level),
    ("format", .text s.logging.format)]⟩]

/-- The document of settings whose numbers a document can hold. -/
def toDocument (s : Settings) : Except SettingsError String :=
  if s.numbers.all fun n => Toml.fits n then .ok (Toml.write s.sections)
  else .error (.serialize "a number does not fit the document")

end Settings

end ReplicaRouter
