import ReplicaRouter.Cache.Keeper
/-
The worker that sweeps a cache in the background, one turn per interval. At most one worker is in
charge at a time: starting does nothing while one is active, and stopping waits for the sweep in
progress.
-/
namespace ReplicaRouter

namespace Keeper

variable {W K V : Type} [Journaled W] [DecidableEq K] (keeper : Keeper W K V)

/-- Puts a worker in charge, unless one is active; tells whether it did. -/
def startWorker : Routine W Bool := do
  let c ← keeper.look
  if c.isWorkerActive then return false
  else
    Routine.log .debug ("Started cache cleanup task with interval " ++ c.interval.exact)
    keeper.change fun c => { c with workers := c.workers ++ [{}], slot := some c.workers.length }
    return true

/-- What becomes of a request for a worker where no work in the background is possible. -/
def startWithoutBackground : Routine W Bool := do
  if (← keeper.look).isWorkerActive then return false
  else
    Routine.log .warn "No tokio runtime available, cache cleanup stays caller-driven"
    return false

/-- Tells the worker in charge to stop and waits until it has. -/
def stopWorker : Routine W Unit := do
  match (← keeper.look).slot with
  | none => return ()
  | some id =>
    keeper.change fun c =>
      { c with slot := none }.modifyWorker id fun w => { w with cancelled := true }
    Routine.waitFor fun w => ((keeper.cache.get w).worker? id).all Worker.isFinished
    match (← keeper.look).worker? id with
    | some { phase := .failed, .. } =>
      Routine.log .warn ("Cache cleanup task ended abnormally: task panicked with message " ++
        "\"`period` must be non-zero.\"")
    | _ => return ()

/-- How late a turn may begin without the following turns being put off. -/
def toleratedDelay : Duration := .ofMillis 5

/-- The time of the turn after the one that was due at `due` and begins now. -/
def nextTurn (due now : Instant) (interval : Duration) : Instant :=
  if due + toleratedDelay.nanos < now then now + interval.nanos else due + interval.nanos

/-- Ends a worker. -/
def endWorker (id : Nat) : Routine W Unit := do
  keeper.change (·.setPhase id .ended)
  Routine.log .debug "Cache cleanup task stopped"

/-- One turn of a worker: it waits until the sweep is due, or for the order to stop, and sweeps. -/
def turn (id : Nat) (due : Instant) : Routine W Unit := do
  keeper.change (·.setPhase id (.waiting due))
  let cancelled ← Routine.wait
    (fun w => ((keeper.cache.get w).worker? id).any (·.cancelled)) (some due)
  if cancelled || (← keeper.look).dropped then keeper.endWorker id
  else
    let next := nextTurn due (← Routine.now) (← keeper.look).interval
    keeper.change (·.setPhase id .sweeping)
    discard keeper.sweep
    keeper.change (·.setPhase id (.resting next))

/-- The longest interval between turns that a clock can count. -/
def longestInterval : Duration := .ofSeconds 9223372032559808512

/-- Goes on with a worker that is not in the middle of a turn. An interval that is empty, or too
long for any clock, breaks it down. -/
def goOn (id : Nat) : Routine W Unit := do
  let c ← keeper.look
  match c.worker? id with
  | some { phase := .fresh, .. } =>
    if c.interval.nanos = 0 || longestInterval.nanos < c.interval.nanos then
      keeper.change (·.setPhase id .failed)
    else keeper.turn id ((← Routine.now) + c.interval.nanos)
  | some { phase := .resting due, .. } => keeper.turn id due
  | _ => return ()

end Keeper

end ReplicaRouter
