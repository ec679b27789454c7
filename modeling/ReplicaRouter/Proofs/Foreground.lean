import ReplicaRouter.Proofs.Interleaving
/-
One piece of work followed through an interleaving. `Plays` tells how far the work has come from one
schedule to another, while calls are begun and go on whenever it waits.
Main statements: what is played after something else is played from where that ended (`Routine.plays_bind`),
and work in the foreground keeps its part of an invariant that everything else keeps (`Schedule.Backs.plays`) and
changes the world by no more than it does by itself where everything else changes little (`Outcome.Plays.calm`).
-/
namespace ReplicaRouter

variable {W S α β : Type} {calls : W → Routine W Unit → Prop} {others : W → W → Prop}

/-! ## Playing -/

/-- How far the work has come that was started in a schedule: to its end, with a value, or to a wait that is
not over yet. While it waits, anything may happen that can happen. -/
inductive Outcome.Plays (calls : W → Routine W Unit → Prop) (others : W → W → Prop) :
    Outcome W α → Schedule W → Option α → Schedule W → Prop
  | done (a : α) (w : W) (s : Schedule W) : Plays calls others (.done a w) s (some a) { s with world := w }
  | waits {w : W} {ready : W → Bool} {deadline : Option Instant} {resume : Instant → W → Outcome W α}
      {s s' : Schedule W} (meanwhile : Schedule.Run calls others { s with world := w } s') :
      Plays calls others (.blocked w ready deadline resume) s none s'
  | goesOn {w : W} {ready : W → Bool} {deadline : Option Instant} {resume : Instant → W → Outcome W α}
      {s m s' : Schedule W} {r : Option α} (meanwhile : Schedule.Run calls others { s with world := w } m)
      (elapsed : ready m.world = true ∨ deadline.any (· ≤ m.clock) = true)
      (rest : Plays calls others (resume m.clock m.world) m r s') :
      Plays calls others (.blocked w ready deadline resume) s r s'

/-- How far the work has come that is started in a schedule. -/
def Routine.Plays (calls : W → Routine W Unit → Prop) (others : W → W → Prop) (x : Routine W α)
    (s : Schedule W) (r : Option α) (s' : Schedule W) : Prop :=
  (x s.clock s.world).Plays calls others s r s'

namespace Outcome

theorem plays_done {a : α} {w : W} {s s' : Schedule W} {r : Option α} :
    (Outcome.done a w).Plays calls others s r s' ↔ r = some a ∧ s' = { s with world := w } := by
  constructor
  · intro h; cases h; exact ⟨rfl, rfl⟩
  · rintro ⟨rfl, rfl⟩; exact .done ..

/-- Work that has come to a stop has left its own world behind. -/
theorem Plays.setWorld {o : Outcome W α} {s s' : Schedule W} {r : Option α} (v : W)
    (h : o.Plays calls others s r s') : o.Plays calls others { s with world := v } r s' := by
  cases h with
  | done a w => exact .done a w { s with world := v }
  | waits meanwhile => exact .waits (s := { s with world := v }) meanwhile
  | goesOn meanwhile elapsed rest => exact .goesOn (s := { s with world := v }) meanwhile elapsed rest

theorem plays_andThen {o : Outcome W α} {f : α → Routine W β} {s s' : Schedule W} {r : Option β} :
    (o.andThen s.clock f).Plays calls others s r s' ↔
      (r = none ∧ o.Plays calls others s none s') ∨
        ∃ a m, o.Plays calls others s (some a) m ∧ (f a).Plays calls others m r s' := by
  constructor
  · intro h
    -- by induction on what is still to be waited for
    induction o generalizing s with
    | done a w => exact .inr ⟨a, _, .done .., Plays.setWorld w h⟩
    | blocked w ready deadline resume ih =>
      cases h with
      | waits meanwhile => exact .inl ⟨rfl, .waits meanwhile⟩
      | goesOn meanwhile elapsed rest =>
        rcases ih _ _ rest with ⟨rfl, h⟩ | ⟨a, m, h1, h2⟩
        · exact .inl ⟨rfl, .goesOn meanwhile elapsed h⟩
        · exact .inr ⟨a, m, .goesOn meanwhile elapsed h1, h2⟩
  · rintro (⟨rfl, h⟩ | ⟨a, m, h1, h2⟩)
    · generalize hr : (none : Option α) = r at h
      induction h with
      | done a w s => cases hr
      | waits meanwhile => exact .waits meanwhile
      | goesOn meanwhile elapsed _ ih => exact .goesOn meanwhile elapsed (ih hr)
    · -- the first part comes to its end here, and the second one goes on from there
      generalize hr : some a = r' at h1
      induction h1 with
      | done b w s =>
        cases hr
        exact Plays.setWorld (s := { s with world := w }) s.world h2
      | waits meanwhile => cases hr
      | goesOn meanwhile elapsed _ ih => exact .goesOn meanwhile elapsed (ih h2 hr)

end Outcome

namespace Routine

variable {s s' : Schedule W}

theorem plays_pure {a : α} {r : Option α} :
    (pure a : Routine W α).Plays calls others s r s' ↔ r = some a ∧ s' = s :=
  Outcome.plays_done

theorem plays_bind {x : Routine W α} {f : α → Routine W β} {r : Option β} :
    (x >>= f).Plays calls others s r s' ↔
      (r = none ∧ x.Plays calls others s none s') ∨
        ∃ a m, x.Plays calls others s (some a) m ∧ (f a).Plays calls others m r s' :=
  Outcome.plays_andThen

/-- What depends on the world goes on from the world as it is. -/
theorem plays_get_bind {f : W → Routine W α} {r : Option α} :
    (get >>= f).Plays calls others s r s' ↔ (f s.world).Plays calls others s r s' :=
  Iff.rfl

/-- What is made of the value at once changes nothing but the value. -/
theorem plays_bind_pure {x : Routine W α} {f : α → β} {r : Option β} :
    (x >>= fun a => pure (f a)).Plays calls others s r s' ↔ ∃ r', r = r'.map f ∧ x.Plays calls others s r' s' := by
  rw [plays_bind]
  constructor
  · rintro (⟨rfl, h⟩ | ⟨a, m, h, hend⟩)
    · exact ⟨none, rfl, h⟩
    · obtain ⟨rfl, rfl⟩ := plays_pure.1 hend
      exact ⟨some a, rfl, h⟩
  · rintro ⟨r', rfl, h⟩
    cases r' with
    | none => exact .inl ⟨rfl, h⟩
    | some a => exact .inr ⟨a, _, h, plays_pure.2 ⟨rfl, rfl⟩⟩

/-- A wait without a deadline lasts until its condition is met. -/
theorem plays_waitFor {ready : W → Bool} (h : (waitFor ready).Plays calls others s (some ()) s') :
    Schedule.Run calls others s s' ∧ ready s'.world = true := by
  obtain ⟨r, hr, h⟩ := plays_bind_pure.1 h
  obtain ⟨b, rfl, -⟩ := Option.map_eq_some_iff.1 hr.symm
  unfold Routine.Plays wait at h
  by_cases hready : ready s.world = true
  · rw [if_pos hready] at h
    obtain ⟨-, rfl⟩ := Outcome.plays_done.1 h
    exact ⟨.refl, hready⟩
  · rw [if_neg hready, if_neg nofun] at h
    cases h with
    | goesOn meanwhile elapsed rest =>
      obtain ⟨-, rfl⟩ := Outcome.plays_done.1 rest
      exact ⟨meanwhile, elapsed.resolve_right nofun⟩

/-- Work that came to its end in time was not held up by the limit. -/
theorem plays_within {x : Routine W α} {limit : Duration} {a : α}
    (h : (within limit x).Plays calls others s (some (some a)) s') : x.Plays calls others s (some a) s' := by
  have hfrom : ∀ (o : Outcome W α) (limit now : Instant) (s : Schedule W),
      (o.within limit now).Plays calls others s (some (some a)) s' → o.Plays calls others s (some a) s' := by
    intro o
    induction o with
    | done b w =>
      intro limit now s h
      obtain ⟨hb, rfl⟩ := Outcome.plays_done.1 h
      cases hb
      exact .done _ w s
    | blocked w ready deadline resume ih =>
      intro limit now s h
      unfold Outcome.within at h
      split at h
      · cases (Outcome.plays_done.1 h).1
      cases h with
      | goesOn meanwhile elapsed rest =>
        dsimp only at rest
        split at rest
        · next hgoes => exact .goesOn meanwhile (Bool.or_eq_true_iff.1 hgoes) (ih _ _ _ _ _ rest)
        · cases (Outcome.plays_done.1 rest).1
  exact hfrom _ _ _ _ h

/-- Work goes on from the world that it has come to. -/
theorem plays_from {x : Routine W α} {w : W} {r : Option α} :
    (x s.clock w).Plays calls others s r s' ↔ x.Plays calls others { s with world := w } r s' :=
  ⟨Outcome.Plays.setWorld w, Outcome.Plays.setWorld (s := { s with world := w }) s.world⟩

end Routine

/-! ## Time -/

theorem Schedule.absorb_clock (s : Schedule W) (o : Outcome W Unit) : (s.absorb o).clock = s.clock := by
  cases o <;> rfl

theorem Schedule.Step.clock_le {s s' : Schedule W} (h : Schedule.Step calls others s s') : s.clock ≤ s'.clock := by
  cases h with
  | call allowed => exact Nat.le_of_eq (absorb_clock s _).symm
  | @resume front back p parked awake =>
    exact Nat.le_of_eq (absorb_clock { s with parked := front ++ back } _).symm
  | others change => exact Nat.le_refl _
  | tick later => exact later

theorem Schedule.Run.clock_le {s s' : Schedule W} (h : Schedule.Run calls others s s') : s.clock ≤ s'.clock := by
  induction h with
  | refl => exact Nat.le_refl _
  | tail _ hstep ih => exact Nat.le_trans ih hstep.clock_le

theorem Outcome.Plays.clock_le {o : Outcome W α} {s s' : Schedule W} {r : Option α}
    (h : o.Plays calls others s r s') : s.clock ≤ s'.clock := by
  induction h with
  | done a w s => exact Nat.le_refl _
  | @waits w _ _ _ s s' meanwhile => exact Schedule.Run.clock_le (s := { s with world := w }) meanwhile
  | @goesOn w _ _ _ s m s' _ meanwhile _ _ ih =>
    exact Nat.le_trans (Schedule.Run.clock_le (s := { s with world := w }) meanwhile) ih

/-! ## Stakes in the foreground -/

section Backs

variable [AddCommMonoid S] {R : W → W → Prop} {Inv : W → S → Prop} [Frame R R]

/-- Work in the foreground that accounts for what it has at stake ends with what it accounts for, and has
something at stake for as long as it waits. -/
theorem Outcome.Plays.backs {o : Outcome W α} {Q : α → S → W → Prop} {s s' : Schedule W} {r : Option α}
    (hcalls : ∀ w x rest, calls w x → Inv w rest → x.Accounts R Inv w rest fun _ own _ => own = 0)
    (hothers : ∀ w v rest, others w v → Inv w rest → R w v ∧ Inv v rest) {stakes : List S}
    (hheld : List.Forall₂ (Parked.Holds R Inv s.world) stakes s.parked)
    (ho : o.Accounts R Inv Q s.world stakes.sum) (h : o.Plays calls others s r s') :
    R s.world s'.world ∧ ∃ own, s'.Backs R Inv own ∧ ∀ a, r = some a → Q a own s'.world := by
  induction h generalizing stakes with
  | done a w s =>
    obtain ⟨hw, own, hinv, hq⟩ := ho
    refine ⟨hw, own, ⟨stakes, hheld.imp fun _ _ h => h.later hw, hinv⟩, ?_⟩
    rintro _ ⟨⟩
    exact hq
  | @waits w ready deadline resume s s' meanwhile =>
    obtain ⟨hw, own, hinv, -⟩ := ho
    obtain ⟨hR, hs'⟩ := Schedule.Backs.run (s := { s with world := w }) hcalls hothers
      ⟨stakes, hheld.imp fun _ _ h => h.later hw, hinv⟩ meanwhile
    exact ⟨Frame.trans R hw hR, own, hs', nofun⟩
  | @goesOn w ready deadline resume s m s' r meanwhile elapsed rest ih =>
    obtain ⟨hw, own, hinv, hres⟩ := ho
    obtain ⟨hR, stakes', hheld', hinv'⟩ := Schedule.Backs.run (s := { s with world := w }) hcalls hothers
      ⟨stakes, hheld.imp fun _ _ h => h.later hw, hinv⟩ meanwhile
    obtain ⟨hR', hend⟩ := ih hheld' (hres m.clock m.world _ hR hinv')
    exact ⟨Frame.trans R hw (Frame.trans R hR hR'), hend⟩

theorem Schedule.Backs.plays {x : Routine W α} {own : S} {Q : α → S → W → Prop} {s s' : Schedule W} {r : Option α}
    (hcalls : ∀ w x rest, calls w x → Inv w rest → x.Accounts R Inv w rest fun _ own _ => own = 0)
    (hothers : ∀ w v rest, others w v → Inv w rest → R w v ∧ Inv v rest) (hs : s.Backs R Inv own)
    (hx : ∀ rest, Inv s.world (own + rest) → x.Accounts R Inv s.world rest Q)
    (h : x.Plays calls others s r s') :
    R s.world s'.world ∧ ∃ own, s'.Backs R Inv own ∧ ∀ a, r = some a → Q a own s'.world := by
  obtain ⟨stakes, hheld, hinv⟩ := hs
  exact Outcome.Plays.backs hcalls hothers hheld (hx _ hinv s.clock) h

end Backs

/-! ## Calls that stir little -/

section Still

variable {B B' : W → W → Prop}

/-- Whenever a waiting call goes on, it changes the world by as little as `B` allows. -/
def Schedule.Still (B : W → W → Prop) (s : Schedule W) : Prop :=
  ∀ p ∈ s.parked, ∀ t v, (p.resume t v).Calm (fun _ _ => True) B v

/-- Calls that may be begun, and others, change the world by as little as `B` allows. -/
structure Stirs (calls : W → Routine W Unit → Prop) (others : W → W → Prop) (B : W → W → Prop) : Prop where
  calls : ∀ w x, calls w x → x.Calm (fun _ _ => True) B
  others : ∀ w v, others w v → B w v

variable [Frame B B] {s s' : Schedule W} (hstirs : Stirs calls others B)

omit [Frame B B] in
/-- The calls that still wait when one of them goes on waited before, like that one. -/
theorem Schedule.mem_parked {front back : List (Parked W)} {p q : Parked W} (parked : s.parked = front ++ p :: back)
    (hq : q = p ∨ q ∈ front ++ back) : q ∈ s.parked := by
  rw [parked]
  rcases hq with rfl | hq
  · exact List.mem_append_right _ List.mem_cons_self
  · exact (List.mem_append.1 hq).elim (List.mem_append_left _) fun hq =>
      List.mem_append_right _ (List.mem_cons_of_mem _ hq)

omit [Frame B B] in
theorem Schedule.Still.absorb {o : Outcome W Unit} (h : s.Still B) (ho : o.Calm (fun _ _ => True) B s.world) :
    B s.world (s.absorb o).world ∧ (s.absorb o).Still B := by
  cases o with
  | done a w => exact ⟨ho, h⟩
  | blocked w ready deadline resume =>
    refine ⟨ho.1, fun p hp t v => ?_⟩
    rcases List.mem_append.1 hp with hp | hp
    · exact h p hp t v
    · cases List.mem_singleton.1 hp
      exact ho.2 t v trivial

include hstirs

theorem Schedule.Still.run (h : s.Still B) (hrun : Schedule.Run calls others s s') :
    B s.world s'.world ∧ s'.Still B := by
  induction hrun with
  | refl => exact ⟨Frame.refl B s.world, h⟩
  | @tail m s' _ hstep ih =>
    obtain ⟨hm, hstill⟩ := ih
    suffices hnext : B m.world s'.world ∧ s'.Still B from ⟨Frame.trans B hm hnext.1, hnext.2⟩
    cases hstep with
    | call allowed => exact hstill.absorb (hstirs.calls _ _ allowed _ _)
    | @resume front back p parked awake =>
      have hrest : ({ m with parked := front ++ back } : Schedule W).Still B := fun q hq =>
        hstill q (mem_parked parked (.inr hq))
      exact hrest.absorb (hstill p (mem_parked parked (.inl rfl)) _ _)
    | others change => exact ⟨hstirs.others _ _ change, hstill⟩
    | tick later => exact ⟨Frame.refl B m.world, hstill⟩

/-- Whatever is played, the calls that wait afterwards stir as little as those before. -/
theorem Outcome.Plays.still {o : Outcome W α} {r : Option α} (h : s.Still B) (hplays : o.Plays calls others s r s') :
    s'.Still B := by
  induction hplays with
  | done a w s => exact h
  | @waits w _ _ _ s s' meanwhile =>
    have hw : ({ s with world := w } : Schedule W).Still B := h
    exact (hw.run hstirs meanwhile).2
  | @goesOn w _ _ _ s m s' _ meanwhile _ _ ih =>
    have hw : ({ s with world := w } : Schedule W).Still B := h
    exact ih (hw.run hstirs meanwhile).2

/-- Work that stirs little changes the world by little, together with all that goes on meanwhile. -/
theorem Outcome.Plays.calm [Frame B' B'] (hB : ∀ w v, B w v → B' w v) {o : Outcome W α} {r : Option α} (h : s.Still B)
    (ho : o.Calm (fun _ _ => True) B' s.world) (hplays : o.Plays calls others s r s') : B' s.world s'.world := by
  induction hplays with
  | done a w s => exact ho
  | @waits w _ _ _ s s' meanwhile =>
    have hw : ({ s with world := w } : Schedule W).Still B := h
    exact Frame.trans B' ho.1 (hB _ _ (hw.run hstirs meanwhile).1)
  | @goesOn w _ _ _ s m s' _ meanwhile _ _ ih =>
    have hw : ({ s with world := w } : Schedule W).Still B := h
    obtain ⟨hm, hstill⟩ := hw.run hstirs meanwhile
    exact Frame.trans B' ho.1 (Frame.trans B' (hB _ _ hm) (ih hstill (ho.2 m.clock m.world trivial)))

end Still

end ReplicaRouter
