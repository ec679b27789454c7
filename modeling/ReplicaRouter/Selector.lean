import ReplicaRouter.Host
/-
Policies that pick one host among candidates. A selector is a value that a pick turns into the
next one, so a sequence of picks is determined by the selector it starts with.
-/
namespace ReplicaRouter

/-- A policy together with how far its picks have come. -/
inductive Selector where
  /-- Draws taken from an endless supply of numbers, the next one at position `next`. -/
  | random (draws : Nat → Nat) (next : Nat)
  /-- Every candidate in turn, `next` picks having been made. -/
  | roundRobin (next : Nat)
  /-- Picks laid down beforehand; a missing pick picks nothing. -/
  | prescribed (picks : List (Option Nat))

namespace Selector

def name : Selector → String
  | random _ _ => "random"
  | roundRobin _ => "round_robin"
  | prescribed _ => "prescribed"

/-- The index of the candidate picked among `size`, and the selector for the next pick. Drawing and
taking turns pick nothing, and use nothing up, when there is no candidate. -/
def pick (size : Nat) : Selector → Option Nat × Selector
  | random draws next =>
    if size = 0 then (none, random draws next) else (some (draws next % size), random draws (next + 1))
  | roundRobin next =>
    if size = 0 then (none, roundRobin next) else (some (next % size), roundRobin (next + 1))
  | prescribed [] => (none, prescribed [])
  | prescribed (p :: ps) => (p, prescribed ps)

/-- Whether the policy finds its picks itself, rather than having them laid down. -/
def isAutomatic : Selector → Bool
  | prescribed _ => false
  | _ => true

/-- Drawing and taking turns always pick one of the candidates, if there are any. -/
theorem exists_pick {s : Selector} {size : Nat} (hs : s.isAutomatic = true) (h : 0 < size) :
    ∃ i, i < size ∧ (s.pick size).1 = some i := by
  have hne : size ≠ 0 := Nat.ne_of_gt h
  cases s with
  | random draws next => exact ⟨_, Nat.mod_lt (draws next) h, by simp [pick, hne]⟩
  | roundRobin next => exact ⟨_, Nat.mod_lt next h, by simp [pick, hne]⟩
  | prescribed picks => simp [isAutomatic] at hs

/-- The picks of one selector among so many candidates each time. -/
def picks : Selector → List Nat → List (Option Nat)
  | _, [] => []
  | s, size :: sizes => (s.pick size).1 :: (s.pick size).2.picks sizes

/-- The different results of so many picks among `size` candidates, no pick first and then in order. -/
def distinctPicks (s : Selector) (count size : Nat) : List (Option Nat) :=
  let found := s.picks (List.replicate count size)
  (none :: (List.range size).map some).filter found.contains

end Selector

end ReplicaRouter
