import ReplicaRouter.Routine
/-
How work ends when the world is shared. At every wait others may change the world, in ways that a
relation `others` allows; `Ends` relates a start to each possible end, and `Meets` says of all stops,
waits and end alike, what holds there.
Main statements: both follow the sequencing of work (`Routine.ends_bind`, `Routine.meets_bind`), and
what is met at the end holds of every end (`Routine.Meets.ends`).
-/
namespace ReplicaRouter

variable {W V α β : Type} {others : W → W → Prop}

/-! ## Ends -/

/-- Work ends with a value, at a time and in a world. Whenever it waits, others may change the world
as they are allowed to, until the condition of the wait is met or its deadline has come. -/
inductive Outcome.Ends (others : W → W → Prop) : Outcome W α → Instant → α → Instant → W → Prop
  | done (a : α) (w : W) (now : Instant) : Ends others (.done a w) now a now w
  | waited {w : W} {ready : W → Bool} {deadline : Option Instant}
      {resume : Instant → W → Outcome W α} {now later : Instant} {a : α} {w' : W} (t : Instant) (v : W)
      (change : others w v) (passed : now ≤ t)
      (elapsed : ready v = true ∨ deadline.any (· ≤ t) = true)
      (rest : Ends others (resume t v) t a later w') :
      Ends others (.blocked w ready deadline resume) now a later w'

/-- Work started at a time in a world ends with a value, at a time and in a world. -/
def Routine.Ends (others : W → W → Prop) (x : Routine W α) (now : Instant) (w : W) (a : α)
    (later : Instant) (w' : W) : Prop :=
  (x now w).Ends others now a later w'

namespace Outcome

theorem ends_done {a b : α} {w w' : W} {now later : Instant} :
    (Outcome.done a w).Ends others now b later w' ↔ b = a ∧ later = now ∧ w' = w := by
  constructor
  · intro h; cases h; exact ⟨rfl, rfl, rfl⟩
  · rintro ⟨rfl, rfl, rfl⟩; exact .done ..

theorem ends_andThen {o : Outcome W α} {f : α → Routine W β} {now later : Instant} {b : β} {w' : W} :
    (o.andThen now f).Ends others now b later w' ↔
      ∃ a t v, o.Ends others now a t v ∧ (f a t v).Ends others t b later w' := by
  constructor
  · intro h
    induction o generalizing now with
    | done a w => exact ⟨a, now, w, .done .., h⟩
    | blocked w ready deadline resume ih =>
      cases h with
      | waited t v change passed elapsed rest =>
        obtain ⟨a, t', v', h1, h2⟩ := ih t v rest
        exact ⟨a, t', v', .waited t v change passed elapsed h1, h2⟩
  · rintro ⟨a, t, v, h1, h2⟩
    induction h1 with
    | done a w now => exact h2
    | waited t v change passed elapsed _ ih => exact .waited t v change passed elapsed (ih h2)

end Outcome

namespace Routine

theorem ends_pure {a b : α} {now later : Instant} {w w' : W} :
    Routine.Ends others (pure a) now w b later w' ↔ b = a ∧ later = now ∧ w' = w :=
  Outcome.ends_done

theorem ends_bind {x : Routine W α} {f : α → Routine W β} {now later : Instant} {w w' : W} {b : β} :
    Routine.Ends others (x >>= f) now w b later w' ↔
      ∃ a t v, Routine.Ends others x now w a t v ∧ Routine.Ends others (f a) t v b later w' :=
  Outcome.ends_andThen

theorem ends_get {a : W} {now later : Instant} {w w' : W} :
    Routine.Ends others get now w a later w' ↔ a = w ∧ later = now ∧ w' = w :=
  Outcome.ends_done

/-- Looking at the world first does not matter. -/
theorem ends_get_bind {f : W → Routine W β} {now later : Instant} {w w' : W} {b : β} :
    Routine.Ends others (get >>= f) now w b later w' ↔ Routine.Ends others (f w) now w b later w' :=
  Iff.rfl

theorem ends_modify_bind {g : W → W} {f : Unit → Routine W β} {now later : Instant} {w w' : W} {b : β} :
    Routine.Ends others (modify g >>= f) now w b later w' ↔ Routine.Ends others (f ()) now (g w) b later w' :=
  Iff.rfl

end Routine

/-! ## Stops -/

/-- Wherever the work stops: at each wait the world meets `P`, and at the end the value and the world
meet `Q`. -/
def Outcome.Meets (others : W → W → Prop) (P : W → Prop) (Q : α → W → Prop) : Outcome W α → Prop
  | .done a w => Q a w
  | .blocked w _ _ resume => P w ∧ ∀ t v, others w v → (resume t v).Meets others P Q

/-- Wherever the work stops that is started in this world. -/
def Routine.Meets (others : W → W → Prop) (x : Routine W α) (w : W) (P : W → Prop)
    (Q : α → W → Prop) : Prop :=
  ∀ now, (x now w).Meets others P Q

namespace Outcome

variable {P : W → Prop} {Q : α → W → Prop}

theorem Meets.ends {o : Outcome W α} {now later : Instant} {a : α} {w' : W} (h : o.Meets others P Q)
    (he : o.Ends others now a later w') : Q a w' := by
  induction he with
  | done a w now => exact h
  | waited t v change _ _ _ ih => exact ih (h.2 t v change)

theorem Meets.mono {P' : W → Prop} {Q' : α → W → Prop} {o : Outcome W α} (h : o.Meets others P Q)
    (hp : ∀ w, P w → P' w) (hq : ∀ a w, Q a w → Q' a w) : o.Meets others P' Q' := by
  induction o with
  | done a w => exact hq a w h
  | blocked w ready deadline resume ih => exact ⟨hp w h.1, fun t v hv => ih t v (h.2 t v hv)⟩

theorem Meets.and {P' : W → Prop} {Q' : α → W → Prop} {o : Outcome W α} (h1 : o.Meets others P Q)
    (h2 : o.Meets others P' Q') : o.Meets others (fun w => P w ∧ P' w) fun a w => Q a w ∧ Q' a w := by
  induction o with
  | done a w => exact ⟨h1, h2⟩
  | blocked w ready deadline resume ih =>
    exact ⟨⟨h1.1, h2.1⟩, fun t v hv => ih t v (h1.2 t v hv) (h2.2 t v hv)⟩

theorem Meets.andThen {Q' : β → W → Prop} {o : Outcome W α} {f : α → Routine W β} {now : Instant}
    (h : o.Meets others P fun a w => Routine.Meets others (f a) w P Q') :
    (o.andThen now f).Meets others P Q' := by
  induction o generalizing now with
  | done a w => exact h now
  | blocked w ready deadline resume ih => exact ⟨h.1, fun t v hv => ih t v (h.2 t v hv)⟩

/-- Work that is given up in time stops where it would have waited, or where others have left the
world after that wait. -/
theorem Meets.within {o : Outcome W α} {limit now : Instant} (h : o.Meets others P Q)
    (hp : ∀ w v, P w → others w v → P v) :
    (o.within limit now).Meets others P fun r w => r.elim (P w) (Q · w) := by
  induction o generalizing now with
  | done a w => exact h
  | blocked w ready deadline resume ih =>
    unfold Outcome.within
    by_cases hl : limit ≤ now
    · rw [if_pos hl]; exact h.1
    · rw [if_neg hl]
      refine ⟨h.1, fun t v hv => ?_⟩
      by_cases hr : (ready v || deadline.any (· ≤ t)) = true
      · simp only [hr, if_true]; exact ih t v (h.2 t v hv)
      · simp only [hr]; exact hp w v h.1 hv

end Outcome

namespace Routine

variable {P : W → Prop} {w : W}

theorem Meets.ends {x : Routine W α} {Q : α → W → Prop} {now later : Instant} {a : α} {w' : W}
    (h : Routine.Meets others x w P Q) (he : Routine.Ends others x now w a later w') : Q a w' :=
  (h now).ends he

theorem Meets.mono {x : Routine W α} {P' : W → Prop} {Q Q' : α → W → Prop}
    (h : Routine.Meets others x w P Q) (hp : ∀ w, P w → P' w) (hq : ∀ a w, Q a w → Q' a w) :
    Routine.Meets others x w P' Q' :=
  fun now => (h now).mono hp hq

theorem Meets.imp {x : Routine W α} {Q Q' : α → W → Prop} (h : Routine.Meets others x w P Q)
    (hq : ∀ a w, Q a w → Q' a w) : Routine.Meets others x w P Q' :=
  h.mono (fun _ h => h) hq

theorem meets_bind {x : Routine W α} {f : α → Routine W β} {Q : β → W → Prop}
    (h : Routine.Meets others x w P fun a v => Routine.Meets others (f a) v P Q) :
    Routine.Meets others (x >>= f) w P Q :=
  fun now => (h now).andThen

theorem meets_get_bind {f : W → Routine W β} {Q : β → W → Prop}
    (h : Routine.Meets others (f w) w P Q) : Routine.Meets others (get >>= f) w P Q :=
  h

end Routine

/-- Work on a part stops where it would stop alone, if the part gives back what is put there and what others
do to the whole is what the work bears. -/
theorem Outcome.Meets.focus {p : Part W V} {within : V → V → Prop} (hget : ∀ v w, p.get (p.set v w) = v)
    (hothers : ∀ {w v}, others w v → within (p.get w) (p.get v)) {P : V → Prop} {Q : α → V → Prop}
    {o : Outcome V α} (h : o.Meets within P Q) (w : W) :
    (o.focus p w).Meets others (fun w' => P (p.get w')) fun a w' => Q a (p.get w') := by
  induction o generalizing w with
  | done a v =>
    show Q a (p.get (p.set v w))
    rw [hget]
    exact h
  | blocked v ready deadline resume ih =>
    refine ⟨?_, fun t w' hw' => ih t (p.get w') (h.2 t (p.get w') ?_) w'⟩
    · show P (p.get (p.set v w))
      rw [hget]
      exact h.1
    · rw [← hget v w]
      exact hothers hw'

/-! ## Frames -/

/-- A relation between an earlier and a later world that can hold all along some work: it bears what
others do. -/
class Frame (others R : W → W → Prop) : Prop where
  refl : ∀ w, R w w
  trans : ∀ {u v w}, R u v → R v w → R u w
  bears : ∀ {w v}, others w v → R w v

/-- Wherever the work stops, the world is related to the one it started in. -/
def Routine.Keeps (others R : W → W → Prop) (x : Routine W α) : Prop :=
  ∀ w, Routine.Meets others x w (R w) fun _ => R w

theorem Routine.Keeps.ends {R : W → W → Prop} {x : Routine W α} {now later : Instant} {w w' : W} {a : α}
    (h : Routine.Keeps others R x) (he : Routine.Ends others x now w a later w') : R w w' :=
  (h w).ends he

namespace Routine

variable {R : W → W → Prop}

theorem keeps_modifyGet {f : W → α × W} (h : ∀ w, R w (f w).2) :
    Routine.Keeps others R (modifyGet f) := fun w _ => h w

theorem keeps_modify {f : W → W} (h : ∀ w, R w (f w)) : Routine.Keeps others R (modify f) :=
  fun w _ => h w

variable [Frame others R]

/-- What work keeps since it started, it keeps since before. -/
theorem Meets.since {x : Routine W α} {u w : W} {Q : α → W → Prop} (h : R u w)
    (hx : Routine.Meets others x w (R w) Q) : Routine.Meets others x w (R u) Q :=
  hx.mono (fun _ => Frame.trans others h) fun _ _ h => h

theorem keeps_pure (a : α) : Routine.Keeps others R (pure a) := fun w _ => Frame.refl others w

theorem keeps_bind {x : Routine W α} {f : α → Routine W β} (hx : Routine.Keeps others R x)
    (hf : ∀ a, Routine.Keeps others R (f a)) : Routine.Keeps others R (x >>= f) := fun w =>
  meets_bind <| (hx w).mono (fun _ h => h) fun a v h =>
    (hf a v).mono (fun _ => Frame.trans others h) fun _ _ => Frame.trans others h

theorem keeps_get : Routine.Keeps others R get := fun w _ => Frame.refl others w

theorem keeps_now : Routine.Keeps others R now := fun w _ => Frame.refl others w

theorem keeps_discard {x : Routine W α} (hx : Routine.Keeps others R x) :
    Routine.Keeps others R (discard x) :=
  keeps_bind hx fun _ => keeps_pure ()

theorem keeps_wait (ready : W → Bool) (deadline : Option Instant) :
    Routine.Keeps others R (wait ready deadline) := by
  intro w now
  unfold wait
  split
  · exact Frame.refl others w
  · split
    · exact Frame.refl others w
    · exact ⟨Frame.refl others w, fun t v hv => Frame.bears hv⟩

theorem keeps_within {x : Routine W α} (hx : Routine.Keeps others R x) (limit : Duration) :
    Routine.Keeps others R (within limit x) := by
  intro w now
  have h : ((x now w).within (now + limit.nanos) now).Meets others (R w) fun r v =>
      r.elim (R w v) fun _ => R w v :=
    (hx w now).within fun u v hu hv => Frame.trans others hu (Frame.bears hv)
  refine h.mono (fun _ h => h) fun r v hr => ?_
  cases r with
  | none => exact hr
  | some a => exact hr

/-- Work on a part keeps whatever any change of that part keeps. -/
theorem keeps_focus {p : Part W V} (x : Routine V α) (hset : ∀ w v, R w (p.set v w)) :
    Routine.Keeps others R (focus p x) := by
  suffices h : ∀ (o : Outcome V α) (u w : W), R u w →
      (o.focus p w).Meets others (R u) fun _ => R u from
    fun w now => h (x now (p.get w)) w w (Frame.refl others w)
  intro o
  induction o with
  | done a v => exact fun u w h => Frame.trans others h (hset w v)
  | blocked v ready deadline resume ih =>
    intro u w h
    have hu := Frame.trans others h (hset w v)
    exact ⟨hu, fun t w' hw' => ih t (p.get w') u w' (Frame.trans others hu (Frame.bears hw'))⟩

end Routine

end ReplicaRouter
