import ReplicaRouter.Cache.Worker
import ReplicaRouter.Routine.Schedule
/-
A world that holds a cache of texts and nothing else. How a text is released can be read off the
text itself, which makes every way a release can go easy to stage: texts that start with `busy` must
not be released yet, `fail` makes the release fail, `panic` makes it break down.
-/
namespace ReplicaRouter.Sim

/-- A cache of texts, and what became of the texts that left it. -/
structure Shelf where
  cache : Cache String String
  /-- What was logged, latest first. -/
  journal : List Entry := []
  /-- The texts that were released, latest first. -/
  released : List String := []
  /-- How long a release takes. -/
  delay : Duration := ⟨0⟩
  /-- Whether releases follow the texts; otherwise every release succeeds at once, unrecorded. -/
  staged : Bool := true
  /-- How many texts were made because a key had none. -/
  made : Nat := 0
  /-- The results of look-ups that run side by side, as far as they are there. -/
  results : List (Option (Except RouteError String)) := []

namespace Shelf

instance : Journaled Shelf where
  note e s := { s with journal := e :: s.journal }

def cachePart : Part Shelf (Cache String String) where
  get s := s.cache
  set c s := { s with cache := c }

/-- Whether the text starts with these characters. -/
def starts (head text : String) : Bool := head.toList.isPrefixOf text.toList

/-- Releases a text as it asks for. -/
def release (text : String) : Routine Shelf Release := do
  let s ← get
  if !s.staged then return .released
  else
    Routine.sleep s.delay
    if starts "fail" text then return .refused (.disposal ("cannot close " ++ text))
    else if starts "panic" text then return .crashed
    else
      modify fun s => { s with released := text :: s.released }
      return .released

/-- The operations of the shelf's cache. -/
def keeper : Keeper Shelf String String where
  cache := cachePart
  keyText := Text.quote
  mayRelease s text := !s.staged || !starts "busy" text
  release

instance : Background Shelf where
  next? s := s.cache.dueWorker?.map fun id => keeper.goOn id

/-- Makes a text, or fails to, and counts it. -/
def make (made : Except RouteError String) (s : Shelf) : Except RouteError String × Shelf :=
  (made, { s with made := s.made + 1 })

/-- Looks a key up, with a text for it if it has none; answers how many texts were made, too. -/
def lookUp (key : String) (made : Except RouteError String) :
    Routine Shelf (Except RouteError (String × Nat)) := do
  modify fun s => { s with made := 0 }
  match ← keeper.computeIfAbsent key (make made) with
  | .ok text => return .ok (text, (← get).made)
  | .error e => return .error e

/-- One of several look-ups that run side by side. -/
def lookUpAs (key : String) (i : Nat) : Routine Shelf Unit := do
  let result ← keeper.computeIfAbsent key (make (.ok s!"{key}-{i}"))
  modify fun s => { s with results := s.results.set i (some result) }

/-- Waits for so many look-ups that run side by side, and answers their texts and how many texts were
made. -/
def lookUps (count : Nat) : Routine Shelf (List String × Nat) := do
  modify fun s => { s with made := 0, results := List.replicate count none }
  Routine.waitFor fun s => s.results.all Option.isSome
  let s ← get
  return (s.results.filterMap fun r => r.bind Except.toOption, s.made)

end Shelf

end ReplicaRouter.Sim
