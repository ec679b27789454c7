import ReplicaRouter.Routine
/-
One way to run routines side by side: a main routine and what goes on in the background. The main
routine goes first; when it waits, the background runs until all of it waits; when everything waits,
the clock jumps to the next deadline.
-/
namespace ReplicaRouter

/-- Worlds in which work in the background can fall due. -/
class Background (W : Type) where
  /-- The next piece of work to start, if there is one. When started it takes itself off. -/
  next? : W → Option (Routine W Unit)

/-- Background work that waits. -/
structure Parked (W : Type) where
  /-- The condition under which it goes on. -/
  ready : W → Bool
  deadline : Option Instant
  /-- The rest of the work. -/
  resume : Instant → W → Outcome W Unit

/-- Whether the work can go on. -/
def Parked.isAwake {W : Type} (p : Parked W) (now : Instant) (w : W) : Bool :=
  p.ready w || p.deadline.any (· ≤ now)

/-- The clock, the world, and the background work that waits, the longest waiting first. -/
structure Schedule (W : Type) where
  clock : Instant := 0
  world : W
  parked : List (Parked W) := []

namespace Schedule

variable {W α : Type}

/-- The schedule after a piece of background work has come as far as it can. -/
def absorb (s : Schedule W) : Outcome W Unit → Schedule W
  | .done _ w => { s with world := w }
  | .blocked w ready deadline resume =>
    { s with world := w, parked := s.parked ++ [⟨ready, deadline, resume⟩] }

/-- Lays work down for the background: it starts as soon as the main routine waits. -/
def spawn (s : Schedule W) (x : Routine W Unit) : Schedule W :=
  { s with parked := s.parked ++ [⟨fun _ => true, none, x⟩] }

/-- Lets the next piece of background work that can run do so. -/
def step? [Background W] (s : Schedule W) : Option (Schedule W) :=
  match Background.next? s.world with
  | some work => some (s.absorb (work s.clock s.world))
  | none =>
    match s.parked.find? (·.isAwake s.clock s.world) with
    | some p =>
      let others := s.parked.eraseP (·.isAwake s.clock s.world)
      some ({ s with parked := others }.absorb (p.resume s.clock s.world))
    | none => none

/-- Lets the background run until all of it waits, for at most so many pieces. -/
def settle [Background W] : (fuel : Nat) → Schedule W → Schedule W
  | 0, s => s
  | fuel + 1, s => match s.step? with
    | some s => settle fuel s
    | none => s

/-- The next deadline of the background or of a wait that has this one. -/
def nextDeadline? (s : Schedule W) (deadline : Option Instant) : Option Instant :=
  (deadline.toList ++ s.parked.filterMap (·.deadline)).min?

/-- Goes on with the main routine until it is done or nothing can go on any more, for at most so
many waits, and then lets the background settle. -/
def finish [Background W] : (fuel : Nat) → Outcome W α → Schedule W → Option α × Schedule W
  | fuel, .done a w, s => (some a, settle fuel { s with world := w })
  | 0, .blocked w _ _ _, s => (none, { s with world := w })
  | fuel + 1, .blocked w ready deadline resume, s =>
    let s := settle fuel { s with world := w }
    if ready s.world || deadline.any (· ≤ s.clock) then
      finish fuel (resume s.clock s.world) s
    else
      match s.nextDeadline? deadline with
      | none => (none, s)
      | some next =>
        let s := { s with clock := max s.clock next }
        if ready s.world || deadline.any (· ≤ s.clock) then
          finish fuel (resume s.clock s.world) s
        else finish fuel (.blocked s.world ready deadline resume) s

/-- Runs a routine as the main one. -/
def run [Background W] (fuel : Nat) (x : Routine W α) (s : Schedule W) : Option α × Schedule W :=
  finish fuel (x s.clock s.world) s

end Schedule

end ReplicaRouter
