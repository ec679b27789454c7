/-
A fixed number of permits with a fair queue: who asks first is served first, and a permit that comes
back goes straight to the first in the queue. Main statements: taking and picking up use one permit
up, a release adds one, and joining or leaving the queue changes nothing (`Permits.unused`).
-/
namespace ReplicaRouter

/-- The number by which someone in the queue is known. -/
abbrev Ticket := Nat

/-- Permits and the queue for them. -/
structure Permits where
  /-- The permits that nobody has. -/
  free : Nat
  /-- Who waits, the first first. -/
  waiting : List Ticket := []
  /-- Who was given a permit and has not picked it up yet. -/
  granted : List Ticket := []
  next : Ticket := 0
  deriving DecidableEq, Repr, Inhabited

namespace Permits

def take? (p : Permits) : Option Permits :=
  if 0 < p.free then some { p with free := p.free - 1 } else none

def join (p : Permits) : Permits := { p with waiting := p.waiting ++ [p.next], next := p.next + 1 }

def isGranted (t : Ticket) (p : Permits) : Bool := p.granted.contains t

/-- Picks up the permit that the ticket was given. -/
def pickUp (t : Ticket) (p : Permits) : Permits := { p with granted := p.granted.erase t }

/-- A permit comes back. -/
def release (p : Permits) : Permits :=
  match p.waiting with
  | [] => { p with free := p.free + 1 }
  | t :: waiting => { p with waiting, granted := p.granted ++ [t] }

/-- Leaves the queue, and passes on the permit that the ticket may have been given. -/
def leave (t : Ticket) (p : Permits) : Permits :=
  if p.isGranted t then (p.pickUp t).release else { p with waiting := p.waiting.erase t }

/-! ## Counting -/

/-- The number of permits that nobody uses: the free ones and those not picked up yet. -/
def unused (p : Permits) : Nat := p.free + p.granted.length

theorem unused_take? {p q : Permits} (h : p.take? = some q) : q.unused + 1 = p.unused := by
  unfold take? at h
  split at h
  next hf =>
    cases h
    simp only [unused]
    omega
  next => cases h

theorem unused_join (p : Permits) : p.join.unused = p.unused := rfl

theorem unused_pickUp {t : Ticket} {p : Permits} (h : p.isGranted t = true) :
    (p.pickUp t).unused + 1 = p.unused := by
  have hm : t ∈ p.granted := by simpa [isGranted] using h
  have hl := List.length_erase_of_mem hm
  have hpos := List.length_pos_of_mem hm
  simp only [unused, pickUp]
  omega

theorem unused_release (p : Permits) : p.release.unused = p.unused + 1 := by
  unfold release
  split
  · simp only [unused]; omega
  · simp only [unused, List.length_append, List.length_cons, List.length_nil]; omega

theorem unused_leave (t : Ticket) (p : Permits) : (p.leave t).unused = p.unused := by
  unfold leave
  split
  next h => rw [unused_release, unused_pickUp h]
  next => rfl

end Permits

end ReplicaRouter
