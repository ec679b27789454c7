import ReplicaRouter.World
/-
Borrowing from a pool and giving back. A borrower needs a permit, which its handle keeps until the
connection is given back, evicted, or abandoned because nobody holds the handle any more. A closed
pool lends nothing, and closes what comes back.
-/
namespace ReplicaRouter.World

variable {D : Type} [Backend D]

/-! ## Borrowing -/

/-- Takes a permit of a pool, waiting for one no longer than the pool's configuration says. -/
def acquire (id : PoolId) : Routine (World D) (Except RouteError Unit) := do
  let pool := (← get).pool id
  match pool.permits.take? with
  | some permits =>
    modify (modifyPool id fun p => { p with permits })
    return .ok ()
  | none =>
    let ticket := pool.permits.next
    modify (modifyPool id (·.modifyPermits Permits.join))
    let deadline := (← Routine.now) + pool.config.acquireTimeout.nanos
    let ready ← Routine.wait
      (fun w => (w.pool id).closed || (w.pool id).permits.isGranted ticket) (some deadline)
    let pool := (← get).pool id
    if ready && !pool.closed then
      modify (modifyPool id (·.modifyPermits (·.pickUp ticket)))
      return .ok ()
    else
      modify (modifyPool id (·.modifyPermits (·.leave ticket)))
      return .error (if ready then pool.closedError else pool.acquireError)

def releasePermit (id : PoolId) : Routine (World D) Unit :=
  modify (modifyPool id (·.modifyPermits Permits.release))

/-- The idle connections after those in front that were closed meanwhile are taken off. -/
def firstOpen (w : World D) (idle : List ConnId) : List ConnId := idle.dropWhile (w.isClosed ·)

/-- Takes the idle connection that was given back last and is still open. -/
def takeIdle (id : PoolId) : Routine (World D) (Option ConnId) := do
  let w ← get
  match w.firstOpen (w.pool id).idle with
  | [] =>
    modify (modifyPool id fun p => { p with idle := [] })
    return none
  | c :: idle =>
    modify (modifyPool id fun p => { p with idle })
    return some c

/-- Opens a connection for a pool, in read-only mode if the pool asks for it. -/
def openFor (id : PoolId) : Routine (World D) (Except RouteError ConnId) := do
  let pool := (← get).pool id
  match ← dial pool.protocol pool.host pool.props with
  | .error e => return .error e
  | .ok c =>
    if pool.config.readOnly then
      match ← send c (.setReadOnly true) with
      | .error e =>
        hangUpQuietly c
        return .error e
      | .ok _ => pure ()
    Routine.log .debug ("Opened pooled connection to " ++ pool.key)
    return .ok c

/-- An idle connection of a pool, or else a new one. -/
def takeOrOpen (id : PoolId) : Routine (World D) (Except RouteError ConnId) := do
  match ← takeIdle id with
  | some c => return .ok c
  | none => openFor id

/-- Hands a connection out. -/
def lend (id : PoolId) (c : ConnId) : Routine (World D) HandleId := do
  modify (modifyPool id Pool.lend)
  modifyGet fun w => (w.handles.length, { w with handles := w.handles ++ [{ pool := id, conn := c }] })

def borrow (id : PoolId) : Routine (World D) (Except RouteError HandleId) := do
  let pool := (← get).pool id
  if pool.closed then return .error pool.closedError
  match ← acquire id with
  | .error e => return .error e
  | .ok () =>
    match ← takeOrOpen id with
    | .error e =>
      releasePermit id
      return .error e
    | .ok c => return .ok (← lend id c)

/-! ## Giving back -/

/-- Marks a handle as given back; tells whether it was not before. -/
def markReturned (h : HandleId) : Routine (World D) Bool := do
  let first := !((← get).handle h).returned
  modify (modifyHandle h fun e => { e with returned := true })
  return first

/-- Takes the permit off a handle that is given back. -/
def dropPermit (h : HandleId) : Routine (World D) Unit := do
  let handle := (← get).handle h
  if handle.hasPermit then
    modify (modifyHandle h fun e => { e with hasPermit := false })
    releasePermit handle.pool

/-- Puts the connection of a handle among the idle ones, unless it is closed or the pool is; in the
latter case it has to be closed, and is the result. -/
def reclaim (h : HandleId) : Routine (World D) (Option ConnId) := do
  let w ← get
  let handle := w.handle h
  modify (modifyPool handle.pool Pool.unlend)
  if w.isClosed handle.conn then return none
  else if (w.pool handle.pool).closed then return some handle.conn
  else
    modify (modifyPool handle.pool fun p => { p with idle := handle.conn :: p.idle })
    return none

def giveBack (h : HandleId) : Routine (World D) Unit := do
  if ← markReturned h then
    match ← reclaim h with
    | some c => hangUpQuietly c
    | none => pure ()
    dropPermit h

/-- Closes the connection of a handle and forgets it. -/
def evict (h : HandleId) : Routine (World D) Unit := do
  if ← markReturned h then
    let w ← get
    let handle := w.handle h
    modify (modifyPool handle.pool Pool.unlend)
    Routine.log .debug ("Evicting connection from pool " ++ (w.pool handle.pool).key)
    hangUpQuietly handle.conn
    dropPermit h

/-- Takes back a handle that nobody holds any more. A connection that has to be closed is left to
the background. -/
def abandon (h : HandleId) : Routine (World D) Unit := do
  if ← markReturned h then
    match ← reclaim h with
    | some c => modify fun w => { w with orphans := w.orphans ++ [c] }
    | none => pure ()
    dropPermit h

/-- Closes the first of the connections that nobody holds any more. -/
def closeOrphan : Routine (World D) Unit := do
  match (← get).orphans with
  | [] => return ()
  | c :: orphans =>
    modify fun w => { w with orphans }
    hangUpQuietly c

/-! ## Closing -/

/-- Closes idle connections of a pool; counts those that report an error. -/
def closeIdle (key : String) : List ConnId → Routine (World D) Nat
  | [] => return 0
  | c :: cs => do
    match ← hangUp c with
    | .ok () => closeIdle key cs
    | .error e =>
      Routine.log .warn ("Failed to close idle connection in pool " ++ key ++ ": " ++ e.message)
      return (← closeIdle key cs) + 1

/-- Closes a pool and its idle connections; what is still out is closed when it comes back. -/
def closePool (id : PoolId) : Routine (World D) (Except RouteError Unit) := do
  let pool := (← get).pool id
  if pool.closed then return .ok ()
  modify (modifyPool id fun p => { p with closed := true, idle := [] })
  let failures ← closeIdle pool.key pool.idle.reverse
  Routine.log .info ("Closed connection pool " ++ pool.key)
  if failures = 0 then return .ok ()
  else return .error (.disposal s!"{failures} idle connections in pool {pool.key} failed to close")

end ReplicaRouter.World
