import ReplicaRouter.Cache
import ReplicaRouter.Routine
/-
The operations of an expiring cache that is part of a larger world. Values that leave it by a
removal or a sweep are released, which may take time and may fail; a failed release is logged and
changes nothing else. Callers sweep on their own look-ups, at most once per interval, unless a
worker is in charge of it.
-/
namespace ReplicaRouter

/-- How the release of a value ended. -/
inductive Release where
  | released
  /-- The release reported an error. -/
  | refused (error : RouteError)
  | crashed

/-- Where a cache lives in a world, and how its values are released. -/
structure Keeper (W K V : Type) where
  cache : Part W (Cache K V)
  keyText : K → String
  /-- Whether an expired value may be released now. -/
  mayRelease : W → V → Bool
  release : V → Routine W Release

namespace Keeper

variable {W K V : Type} [Journaled W] [DecidableEq K] (keeper : Keeper W K V)

def look : Routine W (Cache K V) := do return keeper.cache.get (← get)

def change (f : Cache K V → Cache K V) : Routine W Unit := modify (keeper.cache.modify f)

def releaseValue (k : K) (v : V) : Routine W Unit := do
  match ← keeper.release v with
  | .released => Routine.log .debug ("Disposed cache entry " ++ keeper.keyText k)
  | .refused e =>
    Routine.log .warn ("Failed to dispose cache entry " ++ keeper.keyText k ++ ": " ++ e.message)
  | .crashed => Routine.log .warn ("Disposal of cache entry " ++ keeper.keyText k ++ " panicked")

/-- Takes the entry of a key out if it meets a condition. -/
def takeIf (k : K) (condition : W → Cached V → Bool) : Routine W (Option V) := do
  let w ← get
  match (keeper.cache.get w).cached? k with
  | some e =>
    if condition w e then
      keeper.change (·.erase k)
      return some e.value
    else return none
  | none => return none

/-- Takes an entry out, if it meets a condition, and releases its value; tells whether it did. -/
def dropIf (k : K) (condition : W → Cached V → Bool) : Routine W Bool := do
  match ← keeper.takeIf k condition with
  | some v =>
    keeper.releaseValue k v
    return true
  | none => return false

/-! ## Sweeps -/

/-- Releases those of the keys that are still expired and may be released; counts them. -/
def sweepKeys : List K → Routine W Nat
  | [] => return 0
  | k :: ks => do
    let now ← Routine.now
    let expiration := (← keeper.look).expiration
    let dropped ← keeper.dropIf k fun w e => e.isExpired now expiration && keeper.mayRelease w e.value
    let others ← sweepKeys ks
    return (if dropped then 1 else 0) + others

/-- Releases every entry that is expired and may be released; counts them. -/
def sweep : Routine W Nat := do
  let now ← Routine.now
  keeper.change (·.scheduleNext now)
  let count ← keeper.sweepKeys ((← keeper.look).expiredKeys now)
  if 0 < count then Routine.log .debug s!"Cache sweep disposed {count} expired entries"
  return count

/-- The sweep that a look-up makes first when one is due. Nobody else can move the deadline in between: there is no wait
before the sweep moves it. -/
def sweepIfDue : Routine W Unit := do
  if (← keeper.look).isCleanupDue (← Routine.now) then discard keeper.sweep

/-! ## Look-ups -/

/-- The value of a key, which puts its expiry off. -/
def find? (k : K) : Routine W (Option V) := do
  let now ← Routine.now
  match (← keeper.look).cached? k with
  | some e =>
    keeper.change (·.touch k now)
    return some e.value
  | none => return none

def get? (k : K) : Routine W (Option V) := do
  keeper.sweepIfDue
  keeper.find? k

/-- The value of a key. Where there is none it is made, unless making it fails, and is as old as the
look-up. Making a value does not wait, so no two callers make one for the same key. -/
def findOrMake (k : K) (make : W → Except RouteError V × W) : Routine W (Except RouteError V) := do
  let now ← Routine.now
  match ← keeper.find? k with
  | some v => return .ok v
  | none =>
    match ← modifyGet make with
    | .ok v =>
      keeper.change (·.insert k ⟨v, now⟩)
      return .ok v
    | .error e => return .error e

def computeIfAbsent (k : K) (make : W → Except RouteError V × W) : Routine W (Except RouteError V) := do
  keeper.sweepIfDue
  keeper.findOrMake k make

/-! ## Changes -/

/-- Puts a value in, and hands back the one that was there. -/
def put (k : K) (v : V) : Routine W (Option V) := do
  let previous := (← keeper.look).cached? k
  let now ← Routine.now
  keeper.change (·.insert k ⟨v, now⟩)
  return previous.map (·.value)

/-- Removes a key and releases its value; unless forced, only if the value may be released. Tells
whether it did. -/
def remove (k : K) (force : Bool) : Routine W Bool :=
  keeper.dropIf k fun w e => force || keeper.mayRelease w e.value

/-- Releases the values of the keys that are there, whatever their age. -/
def clearKeys : List K → Routine W Unit
  | [] => return ()
  | k :: ks => do
    discard (keeper.dropIf k fun _ _ => true)
    clearKeys ks

def clear : Routine W Unit := do keeper.clearKeys (← keeper.look).keys

end Keeper

end ReplicaRouter
