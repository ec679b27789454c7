import Mathlib.Algebra.BigOperators.Group.List.Basic
import Mathlib.Data.List.Forall2
import Mathlib.Logic.Relation
import ReplicaRouter.Proofs.Ending
import ReplicaRouter.Routine.Schedule
/-
Any number of calls side by side. A call that waits holds a stake in the world, and an invariant ties
the world to the sum of all stakes. Where a call goes on it may rely on the invariant; where it stops
it owes the invariant again, its own stake changed perhaps, but not those of the others.
Main statement: if every call pays its stake back in the end, the invariant holds after every
interleaving (`Schedule.Balanced.run`).
-/
namespace ReplicaRouter

variable {W V S α β : Type}

/-! ## Stakes -/

section Accounts

variable [AddCommMonoid S] (R : W → W → Prop) (Inv : W → S → Prop)

/-- Wherever the work stops that was started in one world, with so much at stake for the others, the
world may follow upon that one and meets the invariant for what the others have and some stake of the
work's own. In the end value, stake and world meet `Q`. -/
def Outcome.Accounts (Q : α → S → W → Prop) : Outcome W α → (start : W) → (rest : S) → Prop
  | .done a w, start, rest => R start w ∧ ∃ own, Inv w (own + rest) ∧ Q a own w
  | .blocked w _ _ resume, start, rest => R start w ∧ ∃ own, Inv w (own + rest) ∧
      ∀ t v rest, R w v → Inv v (own + rest) → (resume t v).Accounts Q v rest

/-- Wherever the work stops that is started in this world, with so much at stake for the others. -/
def Routine.Accounts (x : Routine W α) (w : W) (rest : S) (Q : α → S → W → Prop) : Prop :=
  ∀ now, (x now w).Accounts R Inv Q w rest

end Accounts

section Accounts

variable [AddCommMonoid S] {R : W → W → Prop} {Inv : W → S → Prop} {w : W} {own rest : S}

namespace Routine

theorem accounts_get_bind {Q : β → S → W → Prop} {f : W → Routine W β}
    (h : (f w).Accounts R Inv w rest Q) : (get >>= f : Routine W β).Accounts R Inv w rest Q :=
  h

theorem accounts_now_bind {Q : β → S → W → Prop} {f : Instant → Routine W β}
    (h : ∀ t, (f t).Accounts R Inv w rest Q) : (now >>= f : Routine W β).Accounts R Inv w rest Q :=
  fun t => h t t

theorem accounts_modify {Q : Unit → S → W → Prop} {g : W → W} (hg : R w (g w))
    (hinv : Inv (g w) (own + rest)) (hq : Q () own (g w)) :
    (modify g : Routine W Unit).Accounts R Inv w rest Q :=
  fun _ => ⟨hg, own, hinv, hq⟩

end Routine

/-- What the work has in the end may be changed for something else, if the invariant bears that. -/
theorem Outcome.Accounts.exchange {Q Q' : α → S → W → Prop} {o : Outcome W α} (h : o.Accounts R Inv Q w rest)
    (hq : ∀ a own v rest, Q a own v → Inv v (own + rest) → ∃ own', Inv v (own' + rest) ∧ Q' a own' v) :
    o.Accounts R Inv Q' w rest := by
  induction o generalizing w rest with
  | done a v =>
    obtain ⟨hwv, own, hinv, h⟩ := h
    exact ⟨hwv, hq a own v rest h hinv⟩
  | blocked v ready deadline resume ih =>
    obtain ⟨hwv, own, hinv, hres⟩ := h
    exact ⟨hwv, own, hinv, fun t u rest hvu hu => ih t u (hres t u rest hvu hu)⟩

theorem Outcome.Accounts.imp {Q Q' : α → S → W → Prop} {o : Outcome W α} (h : o.Accounts R Inv Q w rest)
    (hq : ∀ a own v, Q a own v → Q' a own v) : o.Accounts R Inv Q' w rest :=
  h.exchange fun a own v _ hown hinv => ⟨own, hinv, hq a own v hown⟩

/-- What the work does not need of its stake it keeps. -/
theorem Outcome.Accounts.frame {Q : α → S → W → Prop} {o : Outcome W α} {kept : S}
    (h : o.Accounts R Inv Q w (kept + rest)) :
    o.Accounts R Inv (fun a own v => ∃ used, own = used + kept ∧ Q a used v) w rest := by
  induction o generalizing w rest with
  | done a v =>
    obtain ⟨hwv, own, hinv, h⟩ := h
    rw [← add_assoc] at hinv
    exact ⟨hwv, own + kept, hinv, own, rfl, h⟩
  | blocked v ready deadline resume ih =>
    obtain ⟨hwv, own, hinv, hres⟩ := h
    rw [← add_assoc] at hinv
    refine ⟨hwv, own + kept, hinv, fun t u rest hvu hu => ih t u (hres t u (kept + rest) hvu ?_)⟩
    rwa [add_assoc] at hu

variable [Frame R R]

theorem Outcome.Accounts.since {Q : α → S → W → Prop} {o : Outcome W α} {u w : W} (h : R u w)
    (ho : o.Accounts R Inv Q w rest) : o.Accounts R Inv Q u rest := by
  cases o with
  | done a v => exact ⟨Frame.trans R h ho.1, ho.2⟩
  | blocked v ready deadline resume => exact ⟨Frame.trans R h ho.1, ho.2⟩

/-- The world where the work ends follows upon the one where it was started. -/
theorem Outcome.Accounts.along {Q : α → S → W → Prop} {o : Outcome W α} (h : o.Accounts R Inv Q w rest) :
    o.Accounts R Inv (fun a own v => R w v ∧ Q a own v) w rest := by
  suffices hfrom : ∀ (o : Outcome W α) (u w : W) (rest : S), R u w → o.Accounts R Inv Q w rest →
      o.Accounts R Inv (fun a own v => R u v ∧ Q a own v) w rest from hfrom o w w rest (Frame.refl R w) h
  intro o
  induction o with
  | done a v =>
    rintro u w rest hu ⟨hwv, own, hinv, h⟩
    exact ⟨hwv, own, hinv, Frame.trans R hu hwv, h⟩
  | blocked v ready deadline resume ih =>
    rintro u w rest hu ⟨hwv, own, hinv, hres⟩
    have huv := Frame.trans R hu hwv
    exact ⟨hwv, own, hinv, fun t x rest hvx hx => ih t x u x rest (Frame.trans R huv hvx) (hres t x rest hvx hx)⟩

theorem Outcome.Accounts.andThen {Q : α → S → W → Prop} {Q' : β → S → W → Prop} {o : Outcome W α}
    {f : α → Routine W β} {now : Instant} (ho : o.Accounts R Inv Q w rest)
    (hf : ∀ a own v rest, Q a own v → Inv v (own + rest) → (f a).Accounts R Inv v rest Q') :
    (o.andThen now f).Accounts R Inv Q' w rest := by
  induction o generalizing w rest now with
  | done a v =>
    obtain ⟨hwv, own, hinv, hq⟩ := ho
    exact (hf a own v rest hq hinv now).since hwv
  | blocked v ready deadline resume ih =>
    obtain ⟨hwv, own, hinv, hres⟩ := ho
    exact ⟨hwv, own, hinv, fun t u rest hvu hu => ih t u (hres t u rest hvu hu)⟩

namespace Routine

theorem accounts_pure {Q : α → S → W → Prop} {a : α} (hinv : Inv w (own + rest)) (hq : Q a own w) :
    (pure a : Routine W α).Accounts R Inv w rest Q :=
  fun _ => ⟨Frame.refl R w, own, hinv, hq⟩

theorem accounts_bind {Q : α → S → W → Prop} {Q' : β → S → W → Prop} {x : Routine W α}
    {f : α → Routine W β} (hx : x.Accounts R Inv w rest Q)
    (hf : ∀ a own v rest, Q a own v → Inv v (own + rest) → (f a).Accounts R Inv v rest Q') :
    (x >>= f).Accounts R Inv w rest Q' :=
  fun now => (hx now).andThen hf

/-- A change of the world that comes before anything else is made at once. -/
theorem accounts_modify_bind {Q : β → S → W → Prop} {g : W → W} {f : Unit → Routine W β}
    (hg : R w (g w)) (h : (f ()).Accounts R Inv (g w) rest Q) :
    (modify g >>= f : Routine W β).Accounts R Inv w rest Q :=
  fun now => (h now).since hg

/-- Waiting leaves the stake as it is. -/
theorem accounts_wait (ready : W → Bool) (deadline : Option Instant) (hinv : Inv w (own + rest)) :
    (wait ready deadline).Accounts R Inv w rest fun b own' v => own' = own ∧ b = ready v := by
  intro now
  unfold wait
  by_cases hready : ready w = true
  · rw [if_pos hready]
    exact ⟨Frame.refl R w, own, hinv, rfl, hready.symm⟩
  · rw [if_neg hready]
    by_cases hlate : deadline.any (· ≤ now) = true
    · rw [if_pos hlate]
      exact ⟨Frame.refl R w, own, hinv, rfl, (Bool.eq_false_iff.2 hready).symm⟩
    · rw [if_neg hlate]
      exact ⟨Frame.refl R w, own, hinv, fun t v rest _ hv => ⟨Frame.refl R v, own, hv, rfl, rfl⟩⟩

end Routine

end Accounts

/-! ## Work without stakes -/

/-- At each stretch, from where the work goes on to where it stops, the world becomes one that may follow. In
the end value and world meet `Q`. -/
def Outcome.Abides (R : W → W → Prop) (Q : α → W → Prop) : Outcome W α → (start : W) → Prop
  | .done a w, start => R start w ∧ Q a w
  | .blocked w _ _ resume, start => R start w ∧ ∀ t v, R w v → (resume t v).Abides R Q v

/-- Work that abides when it is started in this world. -/
def Routine.Abides (R : W → W → Prop) (x : Routine W α) (w : W) (Q : α → W → Prop) : Prop :=
  ∀ now, (x now w).Abides R Q w

section Abides

variable {R : W → W → Prop} {w : W}

theorem Outcome.Abides.imp {Q Q' : α → W → Prop} {o : Outcome W α} (h : o.Abides R Q w)
    (hq : ∀ a v, Q a v → Q' a v) : o.Abides R Q' w := by
  induction o generalizing w with
  | done a v => exact ⟨h.1, hq a v h.2⟩
  | blocked v ready deadline resume ih => exact ⟨h.1, fun t u hu => ih t u (h.2 t u hu)⟩

/-- Where everything may follow, all work abides. -/
theorem Routine.abides_of_forall (hR : ∀ u v, R u v) (x : Routine W α) {Q : α → W → Prop}
    (hQ : ∀ a v, Q a v) (w : W) : x.Abides R w Q := by
  suffices h : ∀ (o : Outcome W α) (w : W), o.Abides R Q w from fun now => h (x now w) w
  intro o
  induction o with
  | done a v => exact fun w => ⟨hR w v, hQ a v⟩
  | blocked v ready deadline resume ih => exact fun w => ⟨hR w v, fun t u _ => ih t u u⟩

namespace Routine

variable {Q : β → W → Prop}

theorem abides_get_bind {f : W → Routine W β} (h : (f w).Abides R w Q) :
    (get >>= f : Routine W β).Abides R w Q :=
  h

theorem abides_now_bind {f : Instant → Routine W β} (h : ∀ t, (f t).Abides R w Q) :
    (now >>= f : Routine W β).Abides R w Q :=
  fun t => h t t

theorem abides_modifyGet {f : W → β × W} (hR : R w (f w).2) (hQ : Q (f w).1 (f w).2) :
    (modifyGet f : Routine W β).Abides R w Q :=
  fun _ => ⟨hR, hQ⟩

end Routine

variable [Frame R R]

theorem Outcome.Abides.since {Q : α → W → Prop} {o : Outcome W α} {u : W} (h : R u w) (ho : o.Abides R Q w) :
    o.Abides R Q u := by
  cases o with
  | done a v => exact ⟨Frame.trans R h ho.1, ho.2⟩
  | blocked v ready deadline resume => exact ⟨Frame.trans R h ho.1, ho.2⟩

theorem Outcome.Abides.andThen {Q : β → W → Prop} {o : Outcome W α} {f : α → Routine W β} {now : Instant}
    (ho : o.Abides R (fun a v => (f a).Abides R v Q) w) : (o.andThen now f).Abides R Q w := by
  induction o generalizing w now with
  | done a v => exact (ho.2 now).since ho.1
  | blocked v ready deadline resume ih => exact ⟨ho.1, fun t u hu => ih t u (ho.2 t u hu)⟩

namespace Routine

variable {Q : β → W → Prop}

theorem abides_modify_bind {g : W → W} {f : Unit → Routine W β} (hg : R w (g w)) (h : (f ()).Abides R (g w) Q) :
    (modify g >>= f : Routine W β).Abides R w Q :=
  fun now => (h now).since hg

theorem abides_pure {b : β} (hQ : Q b w) : (pure b : Routine W β).Abides R w Q :=
  fun _ => ⟨Frame.refl R w, hQ⟩

theorem abides_bind {x : Routine W α} {f : α → Routine W β}
    (h : x.Abides R w fun a v => (f a).Abides R v Q) : (x >>= f).Abides R w Q :=
  fun now => (h now).andThen

theorem abides_wait (ready : W → Bool) (deadline : Option Instant) :
    (wait ready deadline).Abides R w fun _ _ => True := by
  intro now
  unfold wait
  split
  · exact ⟨Frame.refl R w, trivial⟩
  · split
    · exact ⟨Frame.refl R w, trivial⟩
    · exact ⟨Frame.refl R w, fun t v _ => ⟨Frame.refl R v, trivial⟩⟩

end Routine

end Abides

/-! ## Work that stirs little -/

section Calm

variable (R B : W → W → Prop)

/-- At each stretch the work changes the world by as little as `B` allows, whatever others do by `R` meanwhile. -/
def Outcome.Calm : Outcome W α → (start : W) → Prop
  | .done _ w, start => B start w
  | .blocked w _ _ resume, start => B start w ∧ ∀ t v, R w v → (resume t v).Calm v

def Routine.Calm (x : Routine W α) : Prop := ∀ w now, (x now w).Calm R B w

end Calm

section Calm

variable {R B : W → W → Prop} {w : W}

/-- Work that stirs little leaves the stake as it is, if the invariant bears as much. -/
theorem Routine.Calm.accounts [AddCommMonoid S] {Inv : W → S → Prop} {own rest : S} {x : Routine W α}
    (h : x.Calm R B) (hB : ∀ u v g, B u v → Inv u g → R u v ∧ Inv v g) (hinv : Inv w (own + rest)) :
    x.Accounts R Inv w rest fun _ own' _ => own' = own := by
  suffices ho : ∀ (o : Outcome W α) (w : W) (rest : S), o.Calm R B w → Inv w (own + rest) →
      o.Accounts R Inv (fun _ own' _ => own' = own) w rest from fun now => ho (x now w) w rest (h w now) hinv
  intro o
  induction o with
  | done a v =>
    intro w rest hv hinv
    obtain ⟨hR, hi⟩ := hB _ _ _ hv hinv
    exact ⟨hR, own, hi, rfl⟩
  | blocked v ready deadline resume ih =>
    rintro w rest ⟨hv, hres⟩ hinv
    obtain ⟨hR, hi⟩ := hB _ _ _ hv hinv
    exact ⟨hR, own, hi, fun t u rest hu hinv => ih t u u rest (hres t u hu) hinv⟩

namespace Routine

theorem calm_modify {g : W → W} (hg : ∀ w, B w (g w)) : (modify g : Routine W Unit).Calm R B := fun w _ => hg w

/-- Work on a part stirs no more than any change of that part. -/
theorem calm_focus {p : Part W V} {Rv : V → V → Prop} (hset : ∀ w v, Rv (p.get w) v → B w (p.set v w))
    (hR : ∀ w v u, R (p.set v w) u → Rv v (p.get u)) {x : Routine V α} {Q : α → V → Prop}
    (hx : ∀ v, x.Abides Rv v Q) : (x.focus p).Calm R B := by
  suffices ho : ∀ (o : Outcome V α) (w : W), o.Abides Rv Q (p.get w) → (o.focus p w).Calm R B w from
    fun w now => ho (x now (p.get w)) w (hx (p.get w) now)
  intro o
  induction o with
  | done a v => exact fun w h => hset w v h.1
  | blocked v ready deadline resume ih =>
    exact fun w h => ⟨hset w v h.1, fun t u hu => ih t (p.get u) u (h.2 t (p.get u) (hR w v u hu))⟩

end Routine

variable [Frame B B]

theorem Outcome.Calm.since {o : Outcome W α} {u : W} (h : B u w) (ho : o.Calm R B w) : o.Calm R B u := by
  cases o with
  | done a v => exact Frame.trans B h ho
  | blocked v ready deadline resume => exact ⟨Frame.trans B h ho.1, ho.2⟩

theorem Outcome.Calm.andThen {o : Outcome W α} {f : α → Routine W β} {now : Instant} (ho : o.Calm R B w)
    (hf : ∀ a, (f a).Calm R B) : (o.andThen now f).Calm R B w := by
  induction o generalizing w now with
  | done a v => exact (hf a v now).since ho
  | blocked v ready deadline resume ih => exact ⟨ho.1, fun t u hu => ih t u (ho.2 t u hu)⟩

/-- Work that is given up in time stops where it would have waited, or has just been gone on with. -/
theorem Outcome.Calm.within {o : Outcome W α} {limit now : Instant} (ho : o.Calm R B w) :
    (o.within limit now).Calm R B w := by
  induction o generalizing w now with
  | done a v => exact ho
  | blocked v ready deadline resume ih =>
    unfold Outcome.within
    split
    · exact ho.1
    · refine ⟨ho.1, fun t u hu => ?_⟩
      dsimp only
      split
      · exact ih t u (ho.2 t u hu)
      · exact Frame.refl B u

namespace Routine

theorem calm_pure (a : α) : (pure a : Routine W α).Calm R B := fun w _ => Frame.refl B w

theorem calm_bind {x : Routine W α} {f : α → Routine W β} (hx : x.Calm R B) (hf : ∀ a, (f a).Calm R B) :
    (x >>= f).Calm R B :=
  fun w now => (hx w now).andThen hf

theorem calm_get : (get : Routine W W).Calm R B := fun w _ => Frame.refl B w

theorem calm_now : (now : Routine W Instant).Calm R B := fun w _ => Frame.refl B w

theorem calm_wait (ready : W → Bool) (deadline : Option Instant) : (wait ready deadline).Calm R B := by
  intro w now
  unfold wait
  split
  · exact Frame.refl B w
  · split
    · exact Frame.refl B w
    · exact ⟨Frame.refl B w, fun t v _ => Frame.refl B v⟩

theorem calm_within {x : Routine W α} (hx : x.Calm R B) (limit : Duration) : (within limit x).Calm R B :=
  fun w now => (hx w now).within

end Routine

end Calm

section Focus

variable {R : W → W → Prop}

variable [AddCommMonoid S] {Inv : W → S → Prop} {p : Part W V} {Rv : V → V → Prop} {w : W} {own rest : S}

/-- Work on a part leaves the stake as it is, if the invariant bears whatever may become of the part. -/
theorem Routine.accounts_focus (hget : ∀ v w, p.get (p.set v w) = v)
    (hset : ∀ w v rest, Rv (p.get w) v → Inv w rest → R w (p.set v w) ∧ Inv (p.set v w) rest)
    (hR : ∀ w v, R w v → Rv (p.get w) (p.get v)) {x : Routine V α} {Q : α → V → Prop}
    (hx : x.Abides Rv (p.get w) Q) (hinv : Inv w (own + rest)) :
    (x.focus p).Accounts R Inv w rest fun a own' v => own' = own ∧ Q a (p.get v) := by
  suffices h : ∀ (o : Outcome V α) (w : W) (rest : S),
      o.Abides Rv Q (p.get w) → Inv w (own + rest) →
        (o.focus p w).Accounts R Inv (fun a own' v => own' = own ∧ Q a (p.get v)) w rest from
    fun now => h (x now (p.get w)) w rest (hx now) hinv
  intro o
  induction o with
  | done a v =>
    rintro w rest ⟨hv, hq⟩ hinv
    obtain ⟨hR, hi⟩ := hset w v _ hv hinv
    exact ⟨hR, own, hi, rfl, (hget v w).symm ▸ hq⟩
  | blocked v ready deadline resume ih =>
    rintro w rest ⟨hv, hres⟩ hinv
    obtain ⟨hwv, hi⟩ := hset w v _ hv hinv
    refine ⟨hwv, own, hi, fun t u rest hu hinv => ih t (p.get u) u rest (hres t (p.get u) ?_) hinv⟩
    have hp := hR _ _ hu
    rwa [hget] at hp

end Focus

/-! ## Interleavings -/

/-- What can happen next: a call is begun, a waiting one goes on because its wait is over, others do
what they may, or time goes by. -/
inductive Schedule.Step (calls : W → Routine W Unit → Prop) (others : W → W → Prop) :
    Schedule W → Schedule W → Prop
  | call {s : Schedule W} {x : Routine W Unit} (allowed : calls s.world x) :
      Step calls others s (s.absorb (x s.clock s.world))
  | resume {s : Schedule W} {front back : List (Parked W)} {p : Parked W}
      (parked : s.parked = front ++ p :: back) (awake : p.isAwake s.clock s.world = true) :
      Step calls others s ({ s with parked := front ++ back }.absorb (p.resume s.clock s.world))
  | others {s : Schedule W} {v : W} (change : others s.world v) : Step calls others s { s with world := v }
  | tick {s : Schedule W} {t : Instant} (later : s.clock ≤ t) : Step calls others s { s with clock := t }

/-- The schedule after the call that waits longest went on. -/
def Schedule.wake (s : Schedule W) : Schedule W :=
  match s.parked with
  | [] => s
  | p :: back => { s with parked := back }.absorb (p.resume s.clock s.world)

theorem Schedule.Step.wake {calls : W → Routine W Unit → Prop} {others : W → W → Prop} {s : Schedule W}
    (h : s.parked.head?.any (·.isAwake s.clock s.world) = true) : Schedule.Step calls others s s.wake := by
  unfold Schedule.wake
  cases hp : s.parked with
  | nil =>
    rw [hp] at h
    cases h
  | cons p back =>
    rw [hp] at h
    exact .resume (show s.parked = [] ++ p :: back from hp) h

/-- Whatever can happen in the course of time. -/
abbrev Schedule.Run (calls : W → Routine W Unit → Prop) (others : W → W → Prop) :
    Schedule W → Schedule W → Prop :=
  Relation.ReflTransGen (Schedule.Step calls others)

section Balanced

variable [AddCommMonoid S] (R : W → W → Prop) (Inv : W → S → Prop)

/-- Whenever the waiting call goes on, it pays the stake back that it holds. -/
def Parked.Holds (w : W) (own : S) (p : Parked W) : Prop :=
  ∀ t v rest, R w v → Inv v (own + rest) → (p.resume t v).Accounts R Inv (fun _ own _ => own = 0) v rest

/-- The invariant holds for what the waiting calls hold together and what somebody else has at stake. -/
def Schedule.Backs (own : S) (s : Schedule W) : Prop :=
  ∃ stakes : List S, List.Forall₂ (Parked.Holds R Inv s.world) stakes s.parked ∧ Inv s.world (own + stakes.sum)

/-- The invariant holds for what the waiting calls hold together. -/
def Schedule.Balanced (s : Schedule W) : Prop :=
  ∃ stakes : List S, List.Forall₂ (Parked.Holds R Inv s.world) stakes s.parked ∧ Inv s.world stakes.sum

end Balanced

section Balanced

variable [AddCommMonoid S] {R : W → W → Prop} {Inv : W → S → Prop} [Frame R R]

theorem Parked.Holds.later {w v : W} {p : Parked W} {own : S} (hv : R w v) (h : p.Holds R Inv w own) :
    p.Holds R Inv v own :=
  fun t u rest hu hinv => h t u rest (Frame.trans R hv hu) hinv

namespace Schedule

variable {calls : W → Routine W Unit → Prop} {others : W → W → Prop} {s s' : Schedule W}

omit [Frame R R] in
theorem backs_zero : s.Backs R Inv 0 ↔ s.Balanced R Inv := by
  unfold Backs Balanced
  simp only [zero_add]

/-- A call that stops, having paid back what it held or holding what it waits with, leaves the others their
stakes. -/
theorem backs_absorb {own : S} {stakes : List S} {o : Outcome W Unit}
    (hs : List.Forall₂ (Parked.Holds R Inv s.world) stakes s.parked)
    (ho : o.Accounts R Inv (fun _ own _ => own = 0) s.world (own + stakes.sum)) :
    R s.world (s.absorb o).world ∧ (s.absorb o).Backs R Inv own := by
  cases o with
  | done a w =>
    obtain ⟨hw, paid, hinv, rfl⟩ := ho
    exact ⟨hw, stakes, hs.imp fun _ _ h => h.later hw, by rwa [zero_add] at hinv⟩
  | blocked w ready deadline resume =>
    obtain ⟨hw, held, hinv, hres⟩ := ho
    refine ⟨hw, stakes ++ [held], List.rel_append (hs.imp fun _ _ h => h.later hw) (.cons hres .nil), ?_⟩
    rw [List.sum_append, List.sum_singleton, ← add_assoc, add_comm]
    exact hinv

theorem Backs.step {own : S}
    (hcalls : ∀ w x rest, calls w x → Inv w rest → x.Accounts R Inv w rest fun _ own _ => own = 0)
    (hothers : ∀ w v rest, others w v → Inv w rest → R w v ∧ Inv v rest) (hs : s.Backs R Inv own)
    (hstep : Step calls others s s') : R s.world s'.world ∧ s'.Backs R Inv own := by
  obtain ⟨stakes, hheld, hinv⟩ := hs
  cases hstep with
  | call allowed => exact backs_absorb hheld (hcalls _ _ _ allowed hinv s.clock)
  | @resume front back p parked awake =>
    rw [parked] at hheld
    obtain ⟨held, backs, hown, hback, hdrop⟩ := List.forall₂_cons_right_iff.1 (List.forall₂_drop_append _ _ _ hheld)
    have hfront := List.forall₂_take_append _ _ _ hheld
    have hsum : own + stakes.sum = held + (own + (stakes.take front.length ++ backs).sum) :=
      calc own + stakes.sum = own + (stakes.take front.length ++ held :: backs).sum := by
            rw [← hdrop, List.take_append_drop]
        _ = held + (own + (stakes.take front.length ++ backs).sum) := by
          rw [List.sum_append, List.sum_cons, List.sum_append, add_left_comm _ held, add_left_comm own held]
    rw [hsum] at hinv
    exact backs_absorb (s := { s with parked := front ++ back }) (List.rel_append hfront hback)
      (hown s.clock s.world _ (Frame.refl R s.world) hinv)
  | others change =>
    obtain ⟨hR, hi⟩ := hothers _ _ _ change hinv
    exact ⟨hR, stakes, hheld.imp fun _ _ h => h.later hR, hi⟩
  | tick later => exact ⟨Frame.refl R s.world, stakes, hheld, hinv⟩

/-- If every call pays its stake back and others leave the invariant alone, everybody keeps what he has at
stake whatever happens. -/
theorem Backs.run {own : S}
    (hcalls : ∀ w x rest, calls w x → Inv w rest → x.Accounts R Inv w rest fun _ own _ => own = 0)
    (hothers : ∀ w v rest, others w v → Inv w rest → R w v ∧ Inv v rest) (hs : s.Backs R Inv own)
    (hrun : Run calls others s s') : R s.world s'.world ∧ s'.Backs R Inv own := by
  induction hrun with
  | refl => exact ⟨Frame.refl R s.world, hs⟩
  | tail _ hstep ih =>
    obtain ⟨hR, hmid⟩ := ih
    obtain ⟨hR', hend⟩ := hmid.step hcalls hothers hstep
    exact ⟨Frame.trans R hR hR', hend⟩

/-- The schedule stays balanced whatever happens. -/
theorem Balanced.run (hcalls : ∀ w x rest, calls w x → Inv w rest → x.Accounts R Inv w rest fun _ own _ => own = 0)
    (hothers : ∀ w v rest, others w v → Inv w rest → R w v ∧ Inv v rest) (hs : s.Balanced R Inv)
    (hrun : Run calls others s s') : s'.Balanced R Inv :=
  backs_zero.1 ((backs_zero.2 hs).run hcalls hothers hrun).2

end Schedule

end Balanced

end ReplicaRouter
