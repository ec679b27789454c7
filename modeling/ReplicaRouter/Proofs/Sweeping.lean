import ReplicaRouter.Proofs.Caching
/-
The way of a sweep through any cache. A sweep comes to the keys that were expired when it started, one after the
other, and may be held up by every release; meanwhile anything may happen to the cache. At each key it takes the entry
out exactly if that is expired and may be released at this moment. Look-ups sweep first when a sweep is due, and workers
when the wait of their turn is over.
Main statements: `Keeper.sweeps_of_plays`, `Keeper.plays_sweep`, `Keeper.turn_eq`.
-/
namespace ReplicaRouter

variable {W K V α : Type}

namespace Keeper

/-! ## Visits -/

/-- A sweep comes to a key: what there is at that moment, the entry that the sweep takes out, if it takes one out, and
what there is when the release of that is over. -/
structure Visit (W K V : Type) where
  key : K
  moment : Schedule W
  taken : Option (Cached V)
  done : Option (Schedule W)

variable [Journaled W] [DecidableEq K] (keeper : Keeper W K V) (calls : W → Routine W Unit → Prop)
  (others : W → W → Prop)

/-- A sweep goes through keys, one visit each. After an entry was taken out its value is released, and anything
may happen until that is over. In the end it answers a number; it is not at its end while it releases a value. -/
inductive Sweeps : List K → Schedule W → List (Visit W K V) → Option Nat → Schedule W → Prop
  | done (s : Schedule W) : Sweeps [] s [] (some 0) s
  | kept {k : K} {ks : List K} {s s' : Schedule W} {visits : List (Visit W K V)} {r : Option Nat}
      (rest : Sweeps ks s visits r s') : Sweeps (k :: ks) s (⟨k, s, none, none⟩ :: visits) r s'
  | dropped {k : K} {ks : List K} {s m s' : Schedule W} {e : Cached V} {visits : List (Visit W K V)} {r : Option Nat}
      (cached : (keeper.cache.get s.world).cached? k = some e)
      (released : (keeper.releaseValue k e.value).Plays calls others
        { s with world := keeper.cache.modify (·.erase k) s.world } (some ()) m)
      (rest : Sweeps ks m visits r s') : Sweeps (k :: ks) s (⟨k, s, some e, some m⟩ :: visits) (r.map (· + 1)) s'
  | dropping {k : K} {ks : List K} {s s' : Schedule W} {e : Cached V}
      (cached : (keeper.cache.get s.world).cached? k = some e)
      (released : (keeper.releaseValue k e.value).Plays calls others
        { s with world := keeper.cache.modify (·.erase k) s.world } none s') :
      Sweeps (k :: ks) s [⟨k, s, some e, none⟩] none s'

/-- What a sweep may take out at a moment. -/
def Due (s : Schedule W) (k : K) (e : Cached V) : Prop :=
  (keeper.cache.get s.world).cached? k = some e ∧
    e.isExpired s.clock (keeper.cache.get s.world).expiration = true ∧ keeper.mayRelease s.world e.value = true

variable {keeper calls others} {s s' : Schedule W} {ks : List K} {r : Option Nat}

omit [Journaled W] in
theorem meets_iff_due {k : K} {e : Cached V} :
    keeper.Meets (fun w e => e.isExpired s.clock (keeper.cache.get s.world).expiration && keeper.mayRelease w e.value)
      k s.world e ↔ keeper.Due s k e :=
  and_congr_right fun _ => Bool.and_eq_true_iff

/-- At every visit a sweep takes out what is due, and nothing else. -/
theorem sweeps_of_plays (h : (keeper.sweepKeys ks).Plays calls others s r s') :
    ∃ visits, keeper.Sweeps calls others ks s visits r s' ∧
      ∀ x ∈ visits, ∀ e, x.taken = some e ↔ keeper.Due x.moment x.key e := by
  -- by induction on the keys: the one in front is due and dropped, or it is passed over
  induction ks generalizing s r with
  | nil =>
    obtain ⟨rfl, rfl⟩ := Routine.plays_pure.1 h
    exact ⟨[], .done _, by simp⟩
  | cons k ks ih =>
    have h := Routine.plays_bind.1 (Keeper.plays_sweepKeys_cons.1 h)
    by_cases hdue : ∃ e, keeper.Due s k e
    · obtain ⟨e, he⟩ := hdue
      have hsome : ∀ e', some e = some e' ↔ keeper.Due s k e' := fun e' =>
        ⟨fun h => Option.some.inj h ▸ he, fun h => he.1.symm.trans h.1⟩
      rcases h with ⟨rfl, hdrop⟩ | ⟨dropped, m, hdrop, hrest⟩
      · obtain ⟨r', hr, hrelease⟩ := (Keeper.plays_dropIf_of_meets (meets_iff_due.2 he)).1 hdrop
        obtain rfl := Option.map_eq_none_iff.1 hr.symm
        exact ⟨_, .dropping he.1 hrelease, List.forall_mem_cons.2 ⟨hsome, nofun⟩⟩
      · obtain ⟨r', hr, hrelease⟩ := (Keeper.plays_dropIf_of_meets (meets_iff_due.2 he)).1 hdrop
        obtain ⟨u, rfl, rfl⟩ := Option.map_eq_some_iff.1 hr.symm
        obtain ⟨r', rfl, hothers⟩ := Routine.plays_bind_pure.1 hrest
        obtain ⟨visits, hsweeps, hdues⟩ := ih hothers
        have hcount : r'.map ((if true = true then 1 else 0) + ·) = r'.map (· + 1) := by
          simp [Nat.add_comm]
        rw [hcount]
        exact ⟨_, .dropped he.1 hrelease hsweeps, List.forall_mem_cons.2 ⟨hsome, hdues⟩⟩
    · have hnone : ∀ e, (none : Option (Cached V)) = some e ↔ keeper.Due s k e := fun e =>
        ⟨nofun, fun h => absurd ⟨e, h⟩ hdue⟩
      have hkept : ∀ e, ¬ keeper.Meets _ k s.world e := fun e he => hdue ⟨e, meets_iff_due.1 he⟩
      rcases h with ⟨rfl, hdrop⟩ | ⟨dropped, m, hdrop, hrest⟩
      · cases ((Keeper.plays_dropIf_of_not_meets hkept).1 hdrop).1
      · obtain ⟨hr, rfl⟩ := (Keeper.plays_dropIf_of_not_meets hkept).1 hdrop
        cases hr
        obtain ⟨r', rfl, hothers⟩ := Routine.plays_bind_pure.1 hrest
        obtain ⟨visits, hsweeps, hdues⟩ := ih hothers
        have hcount : r'.map ((if false = true then 1 else 0) + ·) = r' := by
          simp
        rw [hcount]
        exact ⟨_, .kept hsweeps, List.forall_mem_cons.2 ⟨hnone, hdues⟩⟩

/-! ## Sweeps as they are begun -/

/-- The schedule when a sweep comes to its first key. -/
def started (keeper : Keeper W K V) (s : Schedule W) : Schedule W :=
  { s with world := keeper.cache.modify (·.scheduleNext s.clock) s.world }

/-- A sweep goes through the keys that are expired when it starts, and may write down in the end how many it took. -/
theorem plays_sweep (h : keeper.sweep.Plays calls others s r s') :
    ∃ m, (keeper.sweepKeys ((keeper.cache.get (keeper.started s).world).expiredKeys s.clock)).Plays calls others
      (keeper.started s) r m ∧
        (s' = m ∨ ∃ text, s' = { m with world := Journaled.note (.log .debug text) m.world }) := by
  have h : (keeper.sweepKeys ((keeper.cache.get (keeper.started s).world).expiredKeys s.clock) >>= fun count =>
      (if 0 < count then Routine.log .debug s!"Cache sweep disposed {count} expired entries" >>= fun _ => pure count
        else pure count : Routine W Nat)).Plays calls others (keeper.started s) r s' := Routine.plays_from.1 h
  rcases Routine.plays_bind.1 h with ⟨rfl, hwait⟩ | ⟨count, m, hsweep, hend⟩
  · exact ⟨s', hwait, .inl rfl⟩
  · split at hend
    · obtain ⟨rfl, rfl⟩ := Outcome.plays_done.1 hend
      exact ⟨m, hsweep, .inr ⟨_, rfl⟩⟩
    · obtain ⟨rfl, rfl⟩ := Routine.plays_pure.1 hend
      exact ⟨_, hsweep, .inl rfl⟩

/-- The sweep that a look-up makes first is a sweep like any other. -/
theorem plays_sweepIfDue {r : Option Unit} (hdue : (keeper.cache.get s.world).isCleanupDue s.clock = true)
    (h : keeper.sweepIfDue.Plays calls others s r s') :
    ∃ r', r = r'.map (fun _ => ()) ∧ keeper.sweep.Plays calls others s r' s' := by
  have h : (if (keeper.cache.get s.world).isCleanupDue s.clock then discard keeper.sweep else pure () :
      Routine W Unit).Plays calls others s r s' := h
  rw [if_pos hdue] at h
  exact Routine.plays_bind_pure.1 h

/-- A worker waits until its sweep is due, or for the order to stop. Where it is to sweep, the answer is the time of its
next turn. -/
def await (keeper : Keeper W K V) (id : Nat) (due : Instant) : Routine W (Option Instant) := do
  keeper.change (·.setPhase id (.waiting due))
  let cancelled ← Routine.wait
    (fun w => ((keeper.cache.get w).worker? id).any (·.cancelled)) (some due)
  if cancelled || (← keeper.look).dropped then return none
  else
    let next := nextTurn due (← Routine.now) (← keeper.look).interval
    keeper.change (·.setPhase id .sweeping)
    return some next

/-- In its turn a worker waits, and then it sweeps. -/
theorem turn_eq (keeper : Keeper W K V) (id : Nat) (due : Instant) :
    keeper.turn id due = keeper.await id due >>= fun next => match next with
      | none => keeper.endWorker id
      | some t => keeper.sweep >>= fun _ => keeper.change (·.setPhase id (.resting t)) := by
  have hdiscard : (discard keeper.sweep : Routine W Unit) = keeper.sweep >>= fun _ => pure () := rfl
  unfold turn await
  simp only [bind_assoc, hdiscard, pure_bind]
  refine congrArg _ (funext fun _ => congrArg _ (funext fun cancelled => congrArg _ (funext fun c => ?_)))
  split
  · rfl
  · simp only [bind_assoc, pure_bind]

end Keeper

end ReplicaRouter
