import ReplicaRouter.Routine.Schedule
/-
Sessions: steps that are taken one after the other in a world, each with the work that its answer
comes from, and perhaps with work that goes on beside it.
-/
namespace ReplicaRouter.Sim

/-- One step of a session. -/
structure Step (W α : Type) where
  /-- Work that goes on beside the step, and perhaps after it. -/
  background : List (Routine W Unit) := []
  /-- The work whose answer is the answer of the step. -/
  main : Routine W (Except RouteError α)

namespace Step

variable {W α β : Type}

/-- The step that does some work and shows its answer. -/
def ask (encode : β → α) (x : Routine W (Except RouteError β)) : Step W α where
  main := do return (← x).map encode

/-- The step that does some work that always succeeds, and shows its answer. -/
def say (encode : β → α) (x : Routine W β) : Step W α := ask encode do return .ok (← x)

/-- The step that shows what is known already. -/
def known (answer : α) : Step W α := say id (pure answer)

/-- How many waits a step may have. -/
def fuel : Nat := 1000000000000

/-- Takes a step: its answer, if it comes to one, and the schedule afterwards. -/
def run [Background W] (step : Step W α) (s : Schedule W) :
    Option (Except RouteError α × Schedule W) :=
  match Schedule.run fuel step.main (step.background.foldl Schedule.spawn s) with
  | (some answer, s) => some (answer, s)
  | (none, _) => none

end Step

end ReplicaRouter.Sim
