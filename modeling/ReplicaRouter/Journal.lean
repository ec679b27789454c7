import ReplicaRouter.Operation
import ReplicaRouter.Host
import ReplicaRouter.Duration
/-
What the router lets the outside see while it runs: log lines, telemetry signals, and the calls it
makes to the database driver. All three go into one journal, so their order is kept.
-/
namespace ReplicaRouter

inductive LogLevel where
  | trace
  | debug
  | info
  | warn
  deriving DecidableEq, Repr

def LogLevel.text : LogLevel → String
  | trace => "TRACE"
  | debug => "DEBUG"
  | info => "INFO"
  | warn => "WARN"

/-- The number by which a physical connection is known. -/
abbrev ConnId := Nat

/-- What telemetry reports. -/
inductive Signal where
  | began (work : String)
  | attribute (work key value : String)
  /-- A unit of work tells whether it succeeded. -/
  | succeeded (work : String) (success : Bool)
  | failed (work error : String)
  | ended (work : String)
  /-- A counter went up to this value. -/
  | counted (counter : String) (value : Nat)
  /-- A gauge was set to this value. -/
  | gauged (gauge : String) (value : Int)
  deriving DecidableEq, Repr

/-- A call to the driver together with its outcome. -/
inductive DriverCall where
  /-- A connection was asked for; the number of the new one, if there is one. -/
  | connect (protocol : String) (host : Host) (props : Properties) (opened : Option ConnId)
  /-- An operation was sent to a connection, which was open or not. -/
  | invoke (conn : ConnId) (wasOpen : Bool) (op : Operation) (outcome : Except RouteError Reply)
  | validate (conn : ConnId) (limit : Duration) (answer : Bool)
  | close (conn : ConnId) (outcome : Except RouteError Unit)

/-- A request on its way through the plugins of a logical connection. -/
inductive Passage where
  /-- A connection is asked for, perhaps the first one of the logical connection. -/
  | connect (host : Host) (initial : Bool)
  | execute (op : Operation)
  deriving DecidableEq, Repr

/-- One thing that happened. -/
inductive Entry where
  /-- A line of the log, with its fields already written out. -/
  | log (level : LogLevel) (text : String)
  /-- A unit of work was opened in the log. -/
  | span (text : String)
  /-- A unit of work in the log got a field. -/
  | record (text : String)
  | signal (s : Signal)
  | call (c : DriverCall)
  /-- A request reached a plugin that keeps record. -/
  | entered (plugin : String) (request : Passage)
  /-- A request left that plugin again, successful or not. -/
  | left (plugin : String) (succeeded : Bool)

/-- The line that the entry adds to the log, if it adds one. -/
def Entry.logLine? : Entry → Option String
  | log level text => some (level.text ++ " " ++ text)
  | span text => some ("SPAN " ++ text)
  | record text => some ("RECORD " ++ text)
  | _ => none

/-- The connection that the entry tells was closed, if it tells so. -/
def Entry.closedConn? : Entry → Option ConnId
  | call (.close conn _) => some conn
  | _ => none

/-- The log of a journal that has its latest entry first. -/
def Entry.logLines (journal : List Entry) : List String := journal.reverse.filterMap Entry.logLine?

class Journaled (W : Type) where
  /-- The state with one more entry in its journal. -/
  note : Entry → W → W

end ReplicaRouter
