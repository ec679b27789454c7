import ReplicaRouter.Telemetry
/-
Counters, gauges and units of work that report to a telemetry sink, each kind numbered in the order
in which its members were created.
-/
namespace ReplicaRouter.Sim

/-- What is done with counters, gauges and units of work. -/
inductive MeterStep where
  | newCounter (name : String)
  | newGauge (name : String)
  | begin (work : String)
  | increment (i : Nat)
  | set (i : Nat) (value : Int)
  | attribute (i : Nat) (key value : String)
  | succeed (i : Nat) (success : Bool)
  | fail (i : Nat) (error : String)
  | finish (i : Nat)

/-- The counters, gauges and units of work there are. -/
structure Meters where
  counters : List Counter := []
  gauges : List String := []
  works : List String := []

namespace Meters

def work (m : Meters) (i : Nat) : String := m.works.getD i ""

/-- The meters after a step, the name of the counter or gauge that was changed, and the signal that
was sent. -/
def step (m : Meters) : MeterStep → Meters × Option String × Option Signal
  | .newCounter name => ({ m with counters := m.counters ++ [{ name }] }, none, none)
  | .newGauge name => ({ m with gauges := m.gauges ++ [name] }, none, none)
  | .begin work => ({ m with works := m.works ++ [work] }, none, some (.began work))
  | .increment i =>
    match m.counters[i]? with
    | none => (m, none, none)
    | some c => ({ m with counters := m.counters.set i c.increment.1 }, some c.name, some c.increment.2)
  | .set i value => (m, m.gauges[i]?, m.gauges[i]?.map fun gauge => .gauged gauge value)
  | .attribute i key value => (m, none, some (.attribute (m.work i) key value))
  | .succeed i success => (m, none, some (.succeeded (m.work i) success))
  | .fail i error => (m, none, some (.failed (m.work i) error))
  | .finish i => (m, none, some (.ended (m.work i)))

/-- The names and log lines of a sequence of steps. -/
def run (sink : Telemetry) : Meters → List MeterStep → List (Option String × List String)
  | _, [] => []
  | m, s :: steps =>
    let (m, name, signal) := m.step s
    (name, (signal.elim [] sink.entries).filterMap Entry.logLine?) :: m.run sink steps

end Meters

end ReplicaRouter.Sim
