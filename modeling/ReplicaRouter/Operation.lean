import ReplicaRouter.Error
import ReplicaRouter.Statement
import ReplicaRouter.Text.Quoted
/-
The operations of a logical connection and the replies to them. The set is closed, so whoever
looks at an operation matches on what it is rather than on a name.
-/
namespace ReplicaRouter

/-- One logical database operation. -/
inductive Operation where
  /-- A statement that returns rows. -/
  | query (sql : String)
  /-- A statement that returns a count. -/
  | update (sql : String)
  /-- A statement of either kind. -/
  | execute (sql : String)
  | setReadOnly (readOnly : Bool)
  | setAutocommit (autocommit : Bool)
  | commit
  | rollback
  | close
  deriving DecidableEq, Repr, Inhabited

namespace Operation

def name : Operation → String
  | query _ => "execute_query"
  | update _ => "execute_update"
  | execute _ => "execute"
  | setReadOnly _ => "set_read_only"
  | setAutocommit _ => "set_auto_commit"
  | commit => "commit"
  | rollback => "rollback"
  | close => "close"

def sql? : Operation → Option String
  | query sql => some sql
  | update sql => some sql
  | execute sql => some sql
  | _ => none

def isExecute (op : Operation) : Bool := op.sql?.isSome

/-- Whether the operation ends the current transaction. -/
def closesTransaction : Operation → Bool
  | commit => true
  | rollback => true
  | op => match op.sql? with
    | some sql => Statement.closesTransaction sql.toList
    | none => false

def text : Operation → String
  | query sql => "ExecuteQuery \x7b sql: " ++ Text.quote sql ++ " \x7d"
  | update sql => "ExecuteUpdate \x7b sql: " ++ Text.quote sql ++ " \x7d"
  | execute sql => "Execute \x7b sql: " ++ Text.quote sql ++ " \x7d"
  | setReadOnly b => s!"SetReadOnly({b})"
  | setAutocommit b => s!"SetAutoCommit({b})"
  | commit => "Commit"
  | rollback => "Rollback"
  | close => "Close"

end Operation

/-- A row of a result, one text per column. -/
abbrev Row := List String

/-- What a successful operation answers. -/
inductive Reply where
  | rows (rows : List Row)
  | count (count : Nat)
  | done
  deriving DecidableEq, Repr, Inhabited

namespace Reply

def text : Reply → String
  | rows rs => "Rows(" ++ Text.bracketed (rs.map fun r => Text.bracketed (r.map Text.quote)) ++ ")"
  | count n => s!"UpdateCount({n})"
  | done => "Done"

def rows? : Reply → Except RouteError (List Row)
  | rows rs => .ok rs
  | other => .error (.internal ("expected rows, got " ++ other.text))

/-- The count of a reply that is not rows; a plain success counts as zero. -/
def count? : Reply → Except RouteError Nat
  | count n => .ok n
  | done => .ok 0
  | other => .error (.internal ("expected update count, got " ++ other.text))

end Reply

end ReplicaRouter
