import ReplicaRouter.Duration
/-
A map whose entries expire when nobody looks them up for a while: every successful look-up puts the
expiry off. This module holds the map itself and the workers that may sweep it; what waiting there
is in releasing values is in `ReplicaRouter.Cache.Keeper`.
-/
namespace ReplicaRouter

/-- A value together with the last time it was put in or looked up. -/
structure Cached (V : Type) where
  value : V
  lastAccess : Instant
  deriving DecidableEq, Repr

namespace Cached

variable {V : Type}

/-- The entry after a look-up: the last access never moves back. -/
def touch (now : Instant) (c : Cached V) : Cached V := { c with lastAccess := max c.lastAccess now }

/-- Whether more than the expiration has passed since the last access. -/
def isExpired (now : Instant) (expiration : Duration) (c : Cached V) : Bool :=
  expiration.nanos < now - c.lastAccess

end Cached

/-- How far a worker has come. A worker sweeps in turns, one turn per interval. -/
inductive WorkerPhase where
  /-- It has not run yet. -/
  | fresh
  /-- Its last turn is over; the next sweep is due at this time. -/
  | resting (due : Instant)
  /-- Its turn has begun and waits for this time. -/
  | waiting (due : Instant)
  /-- It sweeps. -/
  | sweeping
  /-- It came to its end. -/
  | ended
  | failed
  deriving DecidableEq, Repr

/-- A worker that sweeps a cache in the background. -/
structure Worker where
  /-- Whether it has been told to stop. -/
  cancelled : Bool := false
  phase : WorkerPhase := .fresh
  deriving DecidableEq, Repr

namespace Worker

/-- Whether nothing more will come of the worker. -/
def isFinished (w : Worker) : Bool := w.phase == .ended || w.phase == .failed

/-- Whether the worker is in charge of sweeping. -/
def isActive (w : Worker) : Bool := !w.cancelled && !w.isFinished

/-- Whether the worker's next turn has to be begun. -/
def isDue (w : Worker) : Bool :=
  match w.phase with
  | .fresh => true
  | .resting _ => true
  | _ => false

end Worker

/-- A map with expiring entries. -/
structure Cache (K V : Type) where
  /-- How long an entry stays without being looked up. -/
  expiration : Duration
  /-- The least time between two sweeps that callers make, and the time between a worker's. -/
  interval : Duration
  /-- The entries; no key occurs twice. -/
  entries : List (K × Cached V) := []
  /-- When callers have to sweep next. -/
  nextCleanup : Instant
  /-- All workers that were ever started. -/
  workers : List Worker := []
  /-- The worker that was started last and not stopped since. -/
  slot : Option Nat := none
  /-- Whether its owner has given the cache up. -/
  dropped : Bool := false
  deriving DecidableEq, Repr

namespace Cache

variable {K V : Type}

def empty (expiration interval : Duration) (now : Instant) : Cache K V where
  expiration
  interval
  nextCleanup := now + interval.nanos

/-! ## Entries -/

section Entries

variable [DecidableEq K]

def cached? (k : K) (c : Cache K V) : Option (Cached V) := c.entries.lookup k

def contains (k : K) (c : Cache K V) : Bool := (c.cached? k).isSome

/-- Replaces the entry of a key by another one for the same key. -/
def replaceEntry (k : K) (e : Cached V) (c : Cache K V) : Cache K V :=
  { c with entries := c.entries.map fun entry => if entry.1 = k then (k, e) else entry }

def insert (k : K) (e : Cached V) (c : Cache K V) : Cache K V :=
  if c.contains k then c.replaceEntry k e else { c with entries := c.entries ++ [(k, e)] }

def touch (k : K) (now : Instant) (c : Cache K V) : Cache K V :=
  match c.cached? k with
  | some e => c.replaceEntry k (e.touch now)
  | none => c

def erase (k : K) (c : Cache K V) : Cache K V :=
  { c with entries := c.entries.filter fun entry => entry.1 ≠ k }

end Entries

def size (c : Cache K V) : Nat := c.entries.length

def keys (c : Cache K V) : List K := c.entries.map Prod.fst

def values (c : Cache K V) : List V := c.entries.map (·.2.value)

/-- The keys whose entries are expired. -/
def expiredKeys (now : Instant) (c : Cache K V) : List K :=
  (c.entries.filter fun entry => entry.2.isExpired now c.expiration).map Prod.fst

/-! ## Sweeping -/

/-- The cache with the next sweep by callers an interval away. -/
def scheduleNext (now : Instant) (c : Cache K V) : Cache K V :=
  { c with nextCleanup := now + c.interval.nanos }

def worker? (id : Nat) (c : Cache K V) : Option Worker := c.workers[id]?

def modifyWorker (id : Nat) (f : Worker → Worker) (c : Cache K V) : Cache K V :=
  { c with workers := c.workers.modify id f }

def setPhase (id : Nat) (phase : WorkerPhase) (c : Cache K V) : Cache K V :=
  c.modifyWorker id fun w => { w with phase }

/-- Whether a worker is in charge of sweeping. -/
def isWorkerActive (c : Cache K V) : Bool :=
  match c.slot.bind (c.worker? ·) with
  | some w => w.isActive
  | none => false

/-- Whether a caller has to sweep now. -/
def isCleanupDue (now : Instant) (c : Cache K V) : Bool :=
  !c.isWorkerActive && c.nextCleanup ≤ now

/-- The worker whose turn has to be begun. -/
def dueWorker? (c : Cache K V) : Option Nat := c.workers.findIdx? Worker.isDue

end Cache

end ReplicaRouter
