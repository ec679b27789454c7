import ReplicaRouter.Chain
import ReplicaRouter.Service
import ReplicaRouter.Splitting
/-
Plugins that show what a chain can do: keep record of what passes, send on something else, answer
without sending on, or change the answer that comes back. None of them uses the state it is given.
-/
namespace ReplicaRouter.Sim.Plugins

variable {D : Type}

/-- What these plugins run on. -/
abbrev Made (D : Type) : Type := Plugin Splitter (Act D)

/-- Passes everything on as it is. -/
def passive : Made D where
  name := "passive"
  onConnect req := return .pass req
  onExecute op := return .pass op

def record (e : Entry) : Split D Unit := Split.world (Routine.note e)

/-- Records that the answer leaves the plugin. -/
def recordLeft {α : Type} (label : String) (answer : Except RouteError α) :
    Split D (Except RouteError α) := do
  record (.left label answer.isOk)
  return answer

/-- Keeps record of what enters and leaves. -/
def trace (label : String) : Made D where
  name := "trace"
  onConnect req := do
    record (.entered label (.connect req.host req.initial))
    return .forward req (recordLeft label)
  onExecute op := do
    record (.entered label (.execute op))
    return .forward op (recordLeft label)

/-- Connects to another host. -/
def redirect (label : String) : Made D := { passive with
    name := "redirect"
    onConnect req := return .pass { req with host := ⟨label, some 1, .writer⟩ } }

def refuse (label : String) : Made D := { passive with
    name := "refuse"
    onConnect _ := return .answer (.error (.internal ("refused by " ++ label))) }

def noCommit : Made D := { passive with
    name := "no_commit"
    onExecute
      | .commit => return .answer (.error (.internal "commit refused"))
      | op => return .pass op }

/-- A count twice as high; anything else as it is. -/
def doubled : Reply → Reply
  | .count n => .count (2 * n)
  | reply => reply

def doubler : Made D := { passive with
    name := "doubler"
    onExecute op := return .forward op fun answer => return answer.map doubled }

/-- Turns errors of operations into success. -/
def swallow : Made D := { passive with
    name := "swallow"
    onExecute op := return .forward op fun answer => return .ok (answer.toOption.getD .done) }

/-- Turns errors of operations into errors of connecting. -/
def disguise : Made D := { passive with
    name := "disguise"
    onExecute op := return .forward op fun answer =>
      return answer.mapError fun e => .connectionUnavailable e.message }

/-- Runs another statement in place of every statement. -/
def replace (label : String) : Made D := { passive with
    name := "replace"
    onExecute op := return .pass (if op.isExecute then .execute label else op) }

end ReplicaRouter.Sim.Plugins
