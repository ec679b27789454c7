import ReplicaRouter.Proofs.Routing
/-
The read-only mode, which is kept in two places: by the application's side and by read/write splitting. A
call that fails leaves the first alone. The second is set once the links were switched, before the operation
is sent over the link that is current then, and nothing is taken back when that link fails.
Main statement: `Run.mode_of_failed_setReadOnly`.
-/
namespace ReplicaRouter

variable {D : Type} {others : World D → World D → Prop}

/-! ## The application's side -/

/-- An error leaves the mode as the application's side remembers it. -/
theorem Connection.readOnly_remember_error (c : Connection Splitter D) (op : Operation) (e : RouteError) :
    (c.remember op (.error e)).readOnly = c.readOnly := by
  cases op <;> rfl

/-- An answer to a change of mode is seen as an error just if it is one. -/
theorem Operation.eq_error_of_present {readOnly : Bool} {ans : Answer} {e : RouteError}
    (h : (Operation.setReadOnly readOnly).present ans = .error e) : ans = .error e := by
  cases ans with
  | error e' => exact h
  | ok reply => cases h

namespace Stand

variable {s s' : Stand D} {readOnly : Bool} {e : RouteError}

/-- A switch that fails does not move the current link. -/
theorem Turns.current_eq_of_error (h : s.Turns readOnly (.error e) s') :
    s'.service.current = s.service.current := by
  cases h with
  | fails switches leads =>
    obtain ⟨cur, -, hrem⟩ := switches.remembers
    exact (congrArg Seats.current leads.seats).trans hrem.current_eq

/-- A change of mode that is refused is one where the links could not be switched. -/
theorem Refuses.turns (h : s.Refuses (.setReadOnly readOnly) e s') : s.Turns readOnly (.error e) s' := by
  cases h with
  | mode turns => exact turns
  | plain plain => cases plain

end Stand

variable [Backend D]

namespace Leg

variable {k : Leg D} {readOnly : Bool} {e : RouteError} {s₁ s₂ : Stand D} {ans : Answer}

/-- A change of mode that fails leaves the mode that the application set last. -/
theorem Taken.mode_eq_of_error (h : k.Taken others) (hop : k.op = .setReadOnly readOnly)
    (failed : k.answer = .error e) : k.after.mode = k.before.mode := by
  rcases Connection.ends_ask h with ⟨hclose, -⟩ | ⟨ans, d, hd, hans, hs⟩
  · rw [hop] at hclose; cases hclose
  · rw [hop, failed] at hans
    obtain rfl := Operation.eq_error_of_present hans.symm
    have hmode : k.after.mode = d.readOnly :=
      (congrArg Connection.readOnly hs).trans (d.readOnly_remember_error k.op e)
    refine hmode.trans ?_
    rcases Connection.ends_dispatch hd with ⟨-, -, rfl, -⟩ | ⟨-, chain, -, rfl⟩ <;> rfl

variable [Bystanders others]

/-- A change of mode that passes has switched the links and was then recorded. -/
theorem Passes.turns (h : k.Passes others s₁ ans s₂) (hop : k.op = .setReadOnly readOnly) :
    ∃ u, k.before.toStand.Turns readOnly (.ok ()) u ∧ s₁ = u.withMode readOnly := by
  have hp := h.prepares
  rw [hop] at hp
  cases hp with
  | @mode _ u turns => exact ⟨u, turns, rfl⟩
  | plain plain => cases plain

end Leg

/-! ## A change of mode that fails -/

variable [Bystanders others]

/-- What a change of mode leaves behind that fails without a failover. The application's side keeps its mode.
Either the links could not be switched, and mode and current link are what they were; or they were, the new
mode was recorded, the current link fits it, and the operation failed that was sent on over that link. -/
theorem Run.mode_of_failed_setReadOnly {s : Session D} {ks : List (Leg D)} {k : Leg D} {readOnly : Bool}
    {e : RouteError} (ho : s.Opens others) (h : Run others s ks k.before) (taken : k.Taken others)
    (open_ : k.before.closed = false) (hop : k.op = .setReadOnly readOnly) (failed : k.answer = .error e)
    (calm : e.isFailover = false) :
    k.after.mode = k.before.mode ∧
      ((k.after.splitter.readOnly = k.before.splitter.readOnly ∧
          k.after.service.current = k.before.service.current ∧ k.before.world.Upkeep k.after.world) ∨
        (k.after.splitter.readOnly = readOnly ∧
          (readOnly = true → k.after.seats.OnReader) ∧ (readOnly = false → k.after.seats.OnWriter) ∧
          ∃ s₁ s₂, k.Passes others s₁ (.error e) s₂ ∧ k.after.service.current = s₁.service.current)) := by
  refine ⟨taken.mode_eq_of_error hop failed, ?_⟩
  rcases taken.course with ⟨closed, _, _, _⟩ | @⟨e', _, refuses, _, answer⟩ | @⟨s₁, s₂, ans, passes⟩
  · rw [open_] at closed; cases closed
  · left
    rw [hop] at refuses
    have hturns := refuses.turns
    exact ⟨hturns.readOnly_eq, hturns.current_eq_of_error, hturns.upkeep⟩
  · right
    obtain rfl : ans = .error e := by
      have hans := passes.answer
      rw [failed, hop] at hans
      exact Operation.eq_error_of_present hans.symm
    have hne : k.op ≠ .close := by rw [hop]; exact fun h => nomatch h
    obtain ⟨hsplitter, hseats⟩ := passes.stays hne calm
    obtain ⟨u, hturns, rfl⟩ := passes.turns hop
    obtain ⟨-, hreads, hwrites⟩ := hturns.ready (Run.routed_end ho h open_).ordered
    refine ⟨congrArg Splitter.readOnly hsplitter, ?_, ?_, _, _, passes, passes.current_eq⟩
    · rw [hseats]; exact hreads
    · rw [hseats]; exact hwrites

/-! ## On the stage -/

namespace Stage

/-- What the reader makes of an operation that it does not want. -/
def rejection : RouteError := .driver "read-only mode rejected" none

/-- Meanwhile the reader has got an error in store for the next operation. -/
def rejecting : Session Sim.Cluster :=
  returned.2.later returned.2.clock { returned.2.world with
    backend := returned.2.world.backend.modifyConn 1 fun c =>
      { c with failure := some rejection } }

/-- The application wants to read again. -/
def rejected : Leg Sim.Cluster := (rejecting.call? (.setReadOnly true)).get (by decide +kernel)

theorem rejected_taken : rejected.before = rejecting ∧ rejected.Taken World.Aside :=
  Session.taken_of_call? (Option.some_get _).symm

theorem run_rejecting : Run World.Aside session returned.1 rejected.before := by
  have hrun : Run World.Aside session returned.1 returned.2 := Session.run_of_get _
  rw [rejected_taken.1]
  exact .aside hrun (World.Aside.of_eq rfl rfl) (Nat.le_refl _)

end Stage

theorem Run.mode_of_failed_setReadOnly_of_stage :
    Stage.rejected.answer = .error Stage.rejection ∧
      Stage.rejected.after.mode = Stage.rejected.before.mode ∧
      ((Stage.rejected.after.splitter.readOnly = Stage.rejected.before.splitter.readOnly ∧
          Stage.rejected.after.service.current = Stage.rejected.before.service.current ∧
          Stage.rejected.before.world.Upkeep Stage.rejected.after.world) ∨
        (Stage.rejected.after.splitter.readOnly = true ∧
          (true = true → Stage.rejected.after.seats.OnReader) ∧
          (true = false → Stage.rejected.after.seats.OnWriter) ∧
          ∃ s₁ s₂, Stage.rejected.Passes World.Aside s₁ (.error Stage.rejection) s₂ ∧
            Stage.rejected.after.service.current = s₁.service.current)) := by
  have hans : Stage.rejected.answer = .error Stage.rejection := by decide +kernel
  exact ⟨hans, Run.mode_of_failed_setReadOnly Stage.opens_session Stage.run_rejecting Stage.rejected_taken.2
    (by decide +kernel) (by decide +kernel) hans (by decide +kernel)⟩

/-- Not every change of mode that fails without a failover leaves mode and current link alone. -/
theorem Run.mode_moved_on_stage :
    ¬ ∀ (s : Session Sim.Cluster) (ks : List (Leg Sim.Cluster)) (k : Leg Sim.Cluster) (readOnly : Bool)
      (e : RouteError), s.Opens World.Aside → Run World.Aside s ks k.before → k.Taken World.Aside →
      k.before.closed = false → k.op = .setReadOnly readOnly → k.answer = .error e → e.isFailover = false →
      k.after.mode = k.before.mode ∧ k.after.splitter.readOnly = k.before.splitter.readOnly ∧
        k.after.service.link? = k.before.service.link? := by
  intro h
  obtain ⟨-, hmode, -⟩ := h _ _ _ true Stage.rejection Stage.opens_session Stage.run_rejecting
    Stage.rejected_taken.2 (by decide +kernel) (by decide +kernel) (by decide +kernel) (by decide +kernel)
  have hbefore : Stage.rejected.before.splitter.readOnly = false := by decide +kernel
  have hafter : Stage.rejected.after.splitter.readOnly = true := by decide +kernel
  rw [hbefore, hafter] at hmode
  cases hmode

end ReplicaRouter
