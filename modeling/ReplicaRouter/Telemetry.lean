import ReplicaRouter.Journal
import ReplicaRouter.Settings
/-
Where telemetry goes. The router only emits signals; the sink decides what becomes of them: nothing,
lines of the log, or the signals themselves for a sink outside.
-/
namespace ReplicaRouter

/-- A sink for telemetry signals. -/
inductive Telemetry where
  | off
  /-- Signals become lines of the log. -/
  | logged
  /-- Signals are handed on as they are. -/
  | outside
  deriving DecidableEq, Repr, Inhabited

namespace Telemetry

/-- The sink that the settings ask for. -/
def ofSettings (s : TelemetrySettings) : Except SettingsError Telemetry :=
  if !s.enabled then .ok .off
  else if s.backend = "none" then .ok .off
  else if s.backend = "tracing" then .ok .logged
  else .error (.validation ("Unknown telemetry backend: " ++ s.backend))

/-- The lines that a signal becomes in the log. -/
def logEntries : Signal → List Entry
  | .began work => [.span ("switchyard context=" ++ work)]
  | .attribute _ key value =>
    [.log .trace ("telemetry attribute attribute=" ++ key ++ " value=" ++ value)]
  | .succeeded _ success => [.record s!"success={success}"]
  | .failed _ error => [.record "success=false", .log .debug ("telemetry context failed error=" ++ error)]
  | .ended _ => [.log .trace "telemetry context closed"]
  | .counted counter value => [.log .trace s!"counter incremented counter={counter} value={value}"]
  | .gauged gauge value => [.log .trace s!"gauge updated gauge={gauge} value={value}"]

/-- What a signal adds to the journal. -/
def entries (sink : Telemetry) (s : Signal) : List Entry :=
  match sink with
  | off => []
  | logged => logEntries s
  | outside => [.signal s]

end Telemetry

/-- A number that only goes up. -/
structure Counter where
  name : String
  /-- How often it went up. -/
  value : Nat := 0
  deriving DecidableEq, Repr

/-- The counter after going up, and the signal that tells so. -/
def Counter.increment (c : Counter) : Counter × Signal :=
  ({ c with value := c.value + 1 }, .counted c.name (c.value + 1))

end ReplicaRouter
