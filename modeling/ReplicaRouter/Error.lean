/-
What can go wrong, and the four views callers take of it: the message, the stable code, the class
that says whether a retry is safe, and the severity.
-/
namespace ReplicaRouter

/-- What can go wrong with a settings document. -/
inductive SettingsError where
  | io (message : String)
  /-- The document is not well formed or lacks something. -/
  | parse (message : String)
  | serialize (message : String)
  | validation (message : String)
  deriving DecidableEq, Repr, Inhabited

def SettingsError.message : SettingsError → String
  | .io m => "IO error: " ++ m
  | .parse m => "Parse error: " ++ m
  | .serialize m => "Serialize error: " ++ m
  | .validation m => "Validation error: " ++ m

/-- What can go wrong with a connection. -/
inductive RouteError where
  /-- A switch was asked for while a transaction is open. -/
  | transactionSafety (detail : String)
  /-- No host for the required role could be connected. -/
  | connectionUnavailable (detail : String)
  /-- The writer changed underneath the logical connection. -/
  | failover (detail : String) (inTransaction : Bool)
  /-- Releasing a cached resource failed. -/
  | disposal (detail : String)
  /-- Pooled connections kept failing their check. -/
  | validationExhausted (attempts : Nat) (cause : RouteError)
  /-- The database driver reported an error, perhaps with a state. -/
  | driver (detail : String) (state : Option String)
  | settings (error : SettingsError)
  | timeout (operation : String)
  | internal (detail : String)
  deriving DecidableEq, Repr, Inhabited

/-- Stable categories of errors. -/
inductive ErrorCode where
  /-- A transaction is open. -/
  | activeTransaction
  | unableToConnect
  /-- A failover completed; the statement must be issued again. -/
  | failoverSuccess
  /-- A failover completed inside a transaction, whose outcome is unknown. -/
  | transactionUnknown
  | connectionFailure
  | timeout
  | general
  | driver (state : String)
  deriving DecidableEq, Repr

def ErrorCode.text : ErrorCode → String
  | activeTransaction => "25001"
  | unableToConnect => "08001"
  | failoverSuccess => "08S02"
  | transactionUnknown => "08007"
  | connectionFailure => "08006"
  | timeout => "HYT00"
  | general => "HY000"
  | driver state => state

/-- What an error means for the operation that met it. -/
inductive ErrorClass where
  /-- Nothing was executed; a retry is safe. -/
  | recoverable
  /-- The connection was repaired, but the operation failed. -/
  | failoverOccurred
  /-- Retrying will not help. -/
  | fatal
  deriving DecidableEq, Repr

/-- How much attention an error needs. -/
inductive Severity where
  | critical
  | error
  | warning
  | info
  deriving DecidableEq, Repr

def Severity.text : Severity → String
  | critical => "CRITICAL"
  | error => "ERROR"
  | warning => "WARNING"
  | info => "INFO"

namespace RouteError

def message : RouteError → String
  | transactionSafety d => "Transaction safety violation: " ++ d
  | connectionUnavailable d => "Connection unavailable: " ++ d
  | failover d _ => "Failover occurred: " ++ d
  | disposal d => "Resource disposal failed: " ++ d
  | validationExhausted n cause =>
    s!"Connection validation failed after {n} attempts: " ++ cause.message
  | driver d _ => "Driver error: " ++ d
  | settings e => "Configuration error: " ++ e.message
  | timeout operation => "Operation timed out: " ++ operation
  | internal d => "Internal error: " ++ d

/-- The message of the error inside this one, if there is one. -/
def causeMessage? : RouteError → Option String
  | validationExhausted _ cause => some cause.message
  | settings e => some e.message
  | _ => none

/-- The code of an error: the driver's own state where there is one. -/
def code : RouteError → ErrorCode
  | transactionSafety _ => .activeTransaction
  | connectionUnavailable _ => .unableToConnect
  | failover _ true => .transactionUnknown
  | failover _ false => .failoverSuccess
  | validationExhausted _ _ => .connectionFailure
  | timeout _ => .timeout
  | driver _ (some state) => .driver state
  | _ => .general

/-- The class of an error: driver states of class 08 are connection exceptions, which nothing was
executed under. -/
def errorClass : RouteError → ErrorClass
  | failover _ _ => .failoverOccurred
  | connectionUnavailable _ => .recoverable
  | validationExhausted _ _ => .recoverable
  | timeout _ => .recoverable
  | driver _ (some state) => if "08".toList.isPrefixOf state.toList then .recoverable else .fatal
  | _ => .fatal

/-- Whether the writer changed underneath. -/
def isFailover (e : RouteError) : Bool := e.errorClass == .failoverOccurred

def isRetrySafe (e : RouteError) : Bool := e.errorClass == .recoverable

def severity : RouteError → Severity
  | settings _ => .critical
  | internal _ => .critical
  | connectionUnavailable _ => .warning
  | failover _ _ => .warning
  | timeout _ => .warning
  | disposal _ => .info
  | _ => .error

end RouteError

end ReplicaRouter
