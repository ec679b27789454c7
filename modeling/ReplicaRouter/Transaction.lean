import ReplicaRouter.Operation
/-
What a sequence of successful operations tells about a database session: whether autocommit is on,
and whether a transaction is open.
-/
namespace ReplicaRouter

/-- The transaction state of a database session. A new session has autocommit on and no transaction
open. -/
structure TransactionState where
  autocommit : Bool := true
  isOpen : Bool := false
  deriving DecidableEq, Repr, Inhabited

namespace TransactionState

/-- Sets the autocommit mode. Turning it on commits the open transaction. -/
def setAutocommit (autocommit : Bool) (s : TransactionState) : TransactionState where
  autocommit
  isOpen := s.isOpen && !(autocommit && !s.autocommit)

/-- No transaction is open any more. -/
def closed (s : TransactionState) : TransactionState := { s with isOpen := false }

/-- The state after a statement succeeded that does not close a transaction. -/
def afterStatement (sql : List Char) (s : TransactionState) : TransactionState :=
  if Statement.setsAutocommit sql then
    match Statement.autocommitValue? sql with
    | some autocommit => s.setAutocommit autocommit
    | none => s
  else if Statement.opensTransaction sql s.autocommit then { s with isOpen := true }
  else s

/-- The state after an operation succeeded. -/
def after (op : Operation) (s : TransactionState) : TransactionState :=
  match op with
  | .setAutocommit autocommit => s.setAutocommit autocommit
  | .close => s.closed
  | op =>
    if op.closesTransaction then s.closed
    else match op.sql? with
      | some sql => s.afterStatement sql.toList
      | none => s

end TransactionState

end ReplicaRouter
