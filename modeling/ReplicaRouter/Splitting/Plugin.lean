import ReplicaRouter.Chain
import ReplicaRouter.Splitting
/-
Read/write splitting as a plugin. Before an operation runs, the current link is made to match the
read-only mode; after a failover the kept links are given up.
-/
namespace ReplicaRouter.Split

variable {D : Type} [Backend D]

/-! ## The first connection -/

/-- Whether the node behind a new connection has to be found out: behind an address always, behind
other endpoints that stand for several nodes where there is a way to ask. -/
def needsIdentity (req : ConnectRequest) (v : Service) (w : World D) : Bool :=
  req.initial && v.current.isNone &&
    match req.host.endpointKind with
    | .address => true
    | kind => kind.needsIdentification && w.hosts.identityQuery.isSome

/-- Finds out the node behind a new connection. -/
def identifyInitial (req : ConnectRequest) (l : Link) : Act D (Except RouteError Unit) := do
  match ← Service.identify l with
  | .ok (some host) =>
    Service.setInitialHost host
    return .ok ()
  | .ok none =>
    return .error (.connectionUnavailable ("unable to identify the node behind " ++ req.host.text))
  | .error e => return .error e

/-- What becomes of a new connection: it is closed if its node has to be found out and cannot be. -/
def leaveConnect (req : ConnectRequest) (answer : Except RouteError Link) :
    Split D (Except RouteError Link) := do
  match answer with
  | .error e => return .error e
  | .ok l =>
    if needsIdentity req (← Split.act get) (← Split.world get) then
      match ← Split.act (identifyInitial req l) with
      | .ok () => return .ok l
      | .error e =>
        Split.world l.closeQuietly
        return .error e
    else return .ok l

/-! ## Operations -/

/-- What becomes of an answer: a failover gives up the kept links and makes the current one stale. -/
def leaveOperation (op : Operation) (answer : Except RouteError Reply) :
    Split D (Except RouteError Reply) := do
  match answer with
  | .ok reply => return .ok reply
  | .error e =>
    if e.isFailover then
      Split.world (World.log .warn
        ("Failover during " ++ op.name ++ ", discarding cached connections"))
      discardKept
      setStale (← Split.act get).link?
    return .error e

/-- After the logical connection is closed nothing is kept. -/
def leaveClose (answer : Except RouteError Reply) : Split D (Except RouteError Reply) := do
  discardKept
  setStale none
  modify fun s => { s with readOnly := false }
  return answer

/-- After a failover, makes the current link match the mode again. -/
def recover : Split D (Except RouteError Unit) := do
  let s ← get
  if s.isCurrentStale (← Split.act get) then
    Split.world (World.log .debug "Re-resolving connection after failover")
    switchTo s.readOnly
  else return .ok ()

/-- Moves to another reader where the operation is one that load balancing applies to. -/
def balance (op : Operation) : Split D Unit := do
  let s ← get
  if s.loadBalance && s.readOnly && op.isExecute && !(← Split.act get).inTransaction then
    rotateReader

/-- What the plugin makes of an operation. -/
abbrev OperationHandling (D : Type) : Type :=
  Handling (Split D) Operation (Except RouteError Reply)

/-- Changes the mode: first the link, then the mode itself, then the operation goes on. -/
def enterSetReadOnly (readOnly : Bool) : Split D (OperationHandling D) := do
  match ← switchTo readOnly with
  | .error e => return .answer (.error e)
  | .ok () =>
    modify fun s => { s with readOnly }
    return .forward (.setReadOnly readOnly) (leaveOperation (.setReadOnly readOnly))

/-- Prepares the current link for an operation. -/
def enterOperation (op : Operation) : Split D (OperationHandling D) := do
  match ← recover with
  | .error e => return .answer (.error e)
  | .ok () =>
    balance op
    return .forward op (leaveOperation op)

/-- Read/write splitting as a plugin. -/
def plugin : Plugin Splitter (Act D) where
  name := "read_write_splitting"
  onConnect req := return .forward req (leaveConnect req)
  onExecute
    | .setReadOnly readOnly => enterSetReadOnly readOnly
    | .close => return .forward .close leaveClose
    | op => enterOperation op

end ReplicaRouter.Split
