import ReplicaRouter.Cache.Keeper
import ReplicaRouter.Proofs.Ending
/-
What an expiring cache keeps that is part of a larger world: whatever is kept by a change of the cache, by
a line in the log and by the release of a value is kept by every operation of the cache.
Main statements: `Keeper.Bears.computeIfAbsent` and `Keeper.Bears.sweep`.
-/
namespace ReplicaRouter

variable {W K V : Type} [Journaled W] {others R : W → W → Prop}

/-- The relation is kept by all that a cache is made of. -/
structure Keeper.Bears (keeper : Keeper W K V) (others R : W → W → Prop) : Prop where
  change : ∀ f, Routine.Keeps others R (keeper.change f)
  log : ∀ level text, Routine.Keeps others R (Routine.log level text)
  release : ∀ v, Routine.Keeps others R (keeper.release v)

namespace Keeper.Bears

open Routine

variable [Frame others R] {keeper : Keeper W K V}

omit [Journaled W] in
theorem look : Keeps others R keeper.look := keeps_bind keeps_get fun _ => keeps_pure _

theorem releaseValue (h : keeper.Bears others R) (k : K) (v : V) : Keeps others R (keeper.releaseValue k v) := by
  refine keeps_bind (h.release v) fun r => ?_
  cases r <;> exact h.log _ _

variable [DecidableEq K]

theorem takeIf (h : keeper.Bears others R) (k : K) (condition : W → Cached V → Bool) :
    Keeps others R (keeper.takeIf k condition) := by
  refine keeps_bind keeps_get fun w => ?_
  split
  · split
    · exact keeps_bind (h.change _) fun _ => keeps_pure _
    · exact keeps_pure _
  · exact keeps_pure _

theorem dropIf (h : keeper.Bears others R) (k : K) (condition : W → Cached V → Bool) :
    Keeps others R (keeper.dropIf k condition) := by
  refine keeps_bind (h.takeIf k condition) fun v => ?_
  cases v with
  | none => exact keeps_pure _
  | some v => exact keeps_bind (h.releaseValue k v) fun _ => keeps_pure _

/-! ## Sweeps -/

theorem sweepKeys (h : keeper.Bears others R) (ks : List K) : Keeps others R (keeper.sweepKeys ks) := by
  induction ks with
  | nil => exact keeps_pure _
  | cons k ks ih =>
    refine keeps_bind keeps_now fun now => keeps_bind look fun c => ?_
    exact keeps_bind (h.dropIf k _) fun _ => keeps_bind ih fun _ => keeps_pure _

theorem sweep (h : keeper.Bears others R) : Keeps others R keeper.sweep := by
  refine keeps_bind keeps_now fun now => keeps_bind (h.change _) fun _ => ?_
  refine keeps_bind look fun c => keeps_bind (h.sweepKeys _) fun n => ?_
  dsimp only
  split
  · exact keeps_bind (h.log _ _) fun _ => keeps_pure _
  · exact keeps_pure _

theorem sweepIfDue (h : keeper.Bears others R) : Keeps others R keeper.sweepIfDue := by
  refine keeps_bind look fun c => keeps_bind keeps_now fun now => ?_
  split
  · exact keeps_discard h.sweep
  · exact keeps_pure _

/-! ## Look-ups -/

theorem find? (h : keeper.Bears others R) (k : K) : Keeps others R (keeper.find? k) := by
  refine keeps_bind keeps_now fun now => keeps_bind look fun c => ?_
  split
  · exact keeps_bind (h.change _) fun _ => keeps_pure _
  · exact keeps_pure _

/-- A value may be made, if that keeps the relation, too. -/
theorem findOrMake (h : keeper.Bears others R) (k : K) {make : W → Except RouteError V × W}
    (hmake : ∀ w, R w (make w).2) : Keeps others R (keeper.findOrMake k make) := by
  refine keeps_bind keeps_now fun now => keeps_bind (h.find? k) fun found => ?_
  cases found with
  | some v => exact keeps_pure _
  | none =>
    refine keeps_bind (keeps_modifyGet hmake) fun r => ?_
    cases r with
    | error e => exact keeps_pure _
    | ok v => exact keeps_bind (h.change _) fun _ => keeps_pure _

theorem computeIfAbsent (h : keeper.Bears others R) (k : K) {make : W → Except RouteError V × W}
    (hmake : ∀ w, R w (make w).2) : Keeps others R (keeper.computeIfAbsent k make) :=
  keeps_bind h.sweepIfDue fun _ => h.findOrMake k hmake

end Keeper.Bears

end ReplicaRouter
