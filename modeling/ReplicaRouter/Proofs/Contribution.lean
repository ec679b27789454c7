import Mathlib.Algebra.BigOperators.Group.List.Basic
import ReplicaRouter.Proofs.Traffic
/-
What one call does itself, apart from everything that happens while it waits. Its work comes in stretches, each from
the world where it goes on to the world where it stops; what a measure of the world gains over all of them is the
call's own contribution.
Main statements: contributions add up (`Routine.treads_bind`); for pools, a borrower counts once if it gets a
connection and not at all otherwise (`World.gain_borrow`), asks the driver at most once (`World.requests_borrow`), and
an eviction takes the count back (`World.gain_evict`).
-/
namespace ReplicaRouter

variable {W D α β : Type} {calls : W → Routine W Unit → Prop} {others : W → W → Prop}

/-! ## Stretches -/

/-- A stretch of work, from the world where it goes on to the one where it stops. -/
structure Stretch (W : Type) where
  start : W
  stop : W

namespace Stretch

/-- What a measure gains over some stretches. -/
def gain (g : W → ℤ) (l : List (Stretch W)) : ℤ := (l.map fun t => g t.stop - g t.start).sum

@[simp] theorem gain_nil (g : W → ℤ) : gain g [] = 0 := rfl

@[simp] theorem gain_cons (g : W → ℤ) (t : Stretch W) (l : List (Stretch W)) :
    gain g (t :: l) = g t.stop - g t.start + gain g l :=
  List.sum_cons

end Stretch

open Stretch

/-- How far the work has come that was started in a schedule, and the stretches in which it was done. -/
inductive Outcome.Treads (calls : W → Routine W Unit → Prop) (others : W → W → Prop) :
    Outcome W α → Schedule W → Option α → Schedule W → List (Stretch W) → Prop
  | done (a : α) (w : W) (s : Schedule W) :
      Treads calls others (.done a w) s (some a) { s with world := w } [⟨s.world, w⟩]
  | waits {w : W} {ready : W → Bool} {deadline : Option Instant} {resume : Instant → W → Outcome W α}
      {s s' : Schedule W} (meanwhile : Schedule.Run calls others { s with world := w } s') :
      Treads calls others (.blocked w ready deadline resume) s none s' [⟨s.world, w⟩]
  | goesOn {w : W} {ready : W → Bool} {deadline : Option Instant} {resume : Instant → W → Outcome W α}
      {s m s' : Schedule W} {r : Option α} {l : List (Stretch W)}
      (meanwhile : Schedule.Run calls others { s with world := w } m)
      (elapsed : ready m.world = true ∨ deadline.any (· ≤ m.clock) = true)
      (rest : Treads calls others (resume m.clock m.world) m r s' l) :
      Treads calls others (.blocked w ready deadline resume) s r s' (⟨s.world, w⟩ :: l)

/-- How far the work has come that is started in a schedule, and the stretches in which it is done. -/
def Routine.Treads (calls : W → Routine W Unit → Prop) (others : W → W → Prop) (x : Routine W α)
    (s : Schedule W) (r : Option α) (s' : Schedule W) (l : List (Stretch W)) : Prop :=
  (x s.clock s.world).Treads calls others s r s' l

namespace Outcome

variable {s s' : Schedule W} {l : List (Stretch W)}

theorem Treads.plays {o : Outcome W α} {r : Option α} (h : o.Treads calls others s r s' l) :
    o.Plays calls others s r s' := by
  induction h with
  | done a w s => exact .done a w s
  | waits meanwhile => exact .waits meanwhile
  | goesOn meanwhile elapsed _ ih => exact .goesOn meanwhile elapsed ih

/-- Whatever is played is done in some stretches. -/
theorem Plays.treads {o : Outcome W α} {r : Option α} (h : o.Plays calls others s r s') :
    ∃ l, o.Treads calls others s r s' l := by
  induction h with
  | done a w s => exact ⟨_, .done a w s⟩
  | waits meanwhile => exact ⟨_, .waits meanwhile⟩
  | goesOn meanwhile elapsed _ ih =>
    obtain ⟨l, hl⟩ := ih
    exact ⟨_, .goesOn meanwhile elapsed hl⟩

/-- Work that has come to a stop may count from a later world. -/
theorem Treads.setWorld {o : Outcome W α} {r : Option α} (v : W) (h : o.Treads calls others s r s' l) :
    ∃ l', o.Treads calls others { s with world := v } r s' l' ∧ ∀ g, gain g l = g v - g s.world + gain g l' := by
  cases h with
  | done a w => exact ⟨_, .done a w { s with world := v }, fun g => by simp⟩
  | waits meanwhile => exact ⟨_, .waits (s := { s with world := v }) meanwhile, fun g => by simp⟩
  | goesOn meanwhile elapsed rest =>
    refine ⟨_, .goesOn (s := { s with world := v }) meanwhile elapsed rest, fun g => ?_⟩
    simp only [gain_cons]
    omega

/-- The stretches of work and of what comes after it add up. -/
theorem treads_andThen {o : Outcome W α} {f : α → Routine W β} {r : Option β}
    (h : (o.andThen s.clock f).Treads calls others s r s' l) :
    (r = none ∧ o.Treads calls others s none s' l) ∨
      ∃ a m l₁ l₂, o.Treads calls others s (some a) m l₁ ∧ (f a).Treads calls others m r s' l₂ ∧
        ∀ g, gain g l = gain g l₁ + gain g l₂ := by
  induction o generalizing s l with
  | done a w =>
    obtain ⟨l', h, hgain⟩ := Treads.setWorld w h
    exact .inr ⟨a, _, _, l', .done a w s, h, fun g => by simp [hgain g]⟩
  | blocked w ready deadline resume ih =>
    cases h with
    | waits meanwhile => exact .inl ⟨rfl, .waits meanwhile⟩
    | goesOn meanwhile elapsed rest =>
      rcases ih _ _ rest with ⟨rfl, h⟩ | ⟨a, m, l₁, l₂, h1, h2, hgain⟩
      · exact .inl ⟨rfl, .goesOn meanwhile elapsed h⟩
      · exact .inr ⟨a, m, _, l₂, .goesOn meanwhile elapsed h1, h2, fun g => by simp [hgain g, add_assoc]⟩

end Outcome

namespace Routine

variable {s s' : Schedule W} {l : List (Stretch W)} {r : Option β}

theorem Treads.plays {x : Routine W β} (h : x.Treads calls others s r s' l) : x.Plays calls others s r s' :=
  Outcome.Treads.plays h

theorem Plays.treads {x : Routine W β} (h : x.Plays calls others s r s') : ∃ l, x.Treads calls others s r s' l :=
  Outcome.Plays.treads h

theorem treads_pure {b : β} (h : (pure b : Routine W β).Treads calls others s r s' l) :
    r = some b ∧ s' = s ∧ ∀ g, gain g l = 0 := by
  cases h
  exact ⟨rfl, rfl, fun g => by simp⟩

theorem treads_bind {x : Routine W α} {f : α → Routine W β} (h : (x >>= f).Treads calls others s r s' l) :
    (r = none ∧ x.Treads calls others s none s' l) ∨
      ∃ a m l₁ l₂, x.Treads calls others s (some a) m l₁ ∧ (f a).Treads calls others m r s' l₂ ∧
        ∀ g, gain g l = gain g l₁ + gain g l₂ :=
  Outcome.treads_andThen h

/-- What is made of the value at once adds nothing. -/
theorem treads_bind_pure {x : Routine W α} {f : α → β} (h : (x >>= fun a => pure (f a)).Treads calls others s r s' l) :
    ∃ r' l', r = r'.map f ∧ x.Treads calls others s r' s' l' ∧ ∀ g, gain g l = gain g l' := by
  rcases treads_bind h with ⟨rfl, hx⟩ | ⟨a, m, l₁, l₂, hx, hend, hgain⟩
  · exact ⟨none, l, rfl, hx, fun _ => rfl⟩
  · obtain ⟨rfl, rfl, hnone⟩ := treads_pure hend
    exact ⟨some a, l₁, rfl, hx, fun g => by rw [hgain, hnone, add_zero]⟩

/-- A change of the world that comes before anything else is made at once. -/
theorem treads_modify_bind {m : W → W} {f : Unit → Routine W β}
    (h : (modify m >>= f : Routine W β).Treads calls others s r s' l) :
    ∃ l', (f ()).Treads calls others { s with world := m s.world } r s' l' ∧
      ∀ g, gain g l = g (m s.world) - g s.world + gain g l' :=
  Outcome.Treads.setWorld (m s.world) h

/-! ### What is not measured -/

/-- The measure is the same in both worlds. -/
def Alike {M : Type} (g : W → M) (u v : W) : Prop := g v = g u

instance {M : Type} (g : W → M) : Frame (Alike g) (Alike g) :=
  ⟨fun _ => rfl, fun huv hvw => Eq.trans (b := g _) hvw huv, id⟩

/-- The work leaves the measure as it is, whatever others do meanwhile. -/
abbrev Leaves {M : Type} (x : Routine W α) (g : W → M) : Prop := x.Calm (fun _ _ => True) (Alike g)

theorem Leaves.gain_eq {g : W → ℤ} {x : Routine W β} (hx : x.Leaves g) (h : x.Treads calls others s r s' l) :
    gain g l = 0 := by
  have hfrom : ∀ {o : Outcome W β} {s s' : Schedule W} {r : Option β} {l : List (Stretch W)},
      o.Treads calls others s r s' l → o.Calm (fun _ _ => True) (Alike g) s.world → gain g l = 0 := by
    intro o s s' r l h
    induction h with
    | done a w s =>
      intro ho
      have hsame : g w = g s.world := ho
      simp [hsame]
    | @waits w _ _ _ s _ _ =>
      rintro ⟨hw, -⟩
      have hsame : g w = g s.world := hw
      simp [hsame]
    | @goesOn w _ _ _ s m _ _ _ _ _ _ ih =>
      rintro ⟨hw, hresume⟩
      have hsame : g w = g s.world := hw
      simp [hsame, ih (hresume m.clock m.world trivial)]
  exact hfrom h (hx s.world s.clock)

end Routine

open Routine

/-! ## Measures of pools -/

/-- Whether the entry tells of a connection that was asked for. -/
def Entry.isRequest : Entry → Bool
  | call (.connect ..) => true
  | _ => false

namespace World

/-- How many handles a pool counts. -/
def activeOf (q : PoolId) (w : World D) : ℤ := (w.pool q).active

/-- How often the driver was asked for a connection. -/
def requests (w : World D) : ℤ := w.journal.countP Entry.isRequest

theorem active_modifyPool (p q : PoolId) {f : Pool → Pool} (hf : ∀ P, (f P).active = P.active) (w : World D) :
    ((w.modifyPool p f).pool q).active = (w.pool q).active := by
  have hactive := map_modify Pool.active hf w.pools p
  have hq := congrArg (fun l => l.getD q (Pool.active default)) hactive
  simp only [List.getD_map] at hq
  exact hq

/-- A pool counts nothing but handles. -/
theorem heedless_activeOf (q : PoolId) : Heedless (Alike (activeOf (D := D) q)) where
  driver _ _ := rfl
  note _ _ := rfl
  connect _ _ _ _ _ := rfl
  handle _ _ _ := rfl
  orphans _ _ := rfl
  cache _ _ := rfl
  pool p f hf w := congrArg Int.ofNat (active_modifyPool p q hf w)
  create {P} hnone w := by
    refine congrArg Int.ofNat ?_
    rcases Nat.lt_trichotomy q w.pools.length with hq | rfl | hq
    · rw [pool_append_of_lt P hq]
    · rw [pool_append_length, hnone]
      simp [pool, List.getD_eq_getElem?_getD]
      rfl
    · -- there is no such pool before, and none after
      have hbefore : w.pool q = default := List.getD_eq_default _ _ (Nat.le_of_lt hq)
      have hafter : ({ w with pools := w.pools ++ [P] } : World D).pool q = default :=
        List.getD_eq_default _ _ (by rw [List.length_append]; exact Nat.succ_le_of_lt hq)
      rw [hbefore, hafter]

/-- Who does not ask for a connection does not count as one who asks. -/
theorem indifferent_requests : Indifferent (Alike (requests (D := D))) where
  driver _ _ := rfl
  note {e} mild w := by
    have hnone : e.isRequest = false := by
      unfold Entry.isRequest
      split
      · cases mild
      · rfl
    exact congrArg Int.ofNat (List.countP_cons_of_neg (by rw [hnone]; exact Bool.false_ne_true))
  pool _ _ _ _ := rfl
  handle _ _ _ := rfl
  orphans _ _ := rfl
  cache _ _ := rfl
  create _ _ := rfl
  count _ _ _ := rfl
  append _ _ := rfl

variable [Backend D]

/-! ## Contributions to pools -/

section Gains

variable {kept : Prop} {calls : World D → Routine (World D) Unit → Prop} {others : World D → World D → Prop}
  {s s' : Schedule (World D)} {l : List (Stretch (World D))} {p : PoolId} {h : HandleId}

omit [Backend D] in
theorem gain_lend {r : Option HandleId} {c : ConnId} (hp : p < s.world.pools.length)
    (hl : (lend p c).Treads calls others s r s' l) (q : PoolId) :
    r.isSome = true ∧ gain (activeOf q) l = if q = p then 1 else 0 := by
  have hl : (Outcome.done s.world.handles.length (s.world.lending p c)).Treads calls others s r s' l := hl
  cases hl
  refine ⟨rfl, ?_⟩
  have hpool : (s.world.lending p c).pool q = if q = p then (s.world.pool p).lend else s.world.pool q :=
    pool_modifyPool hp Pool.lend q
  simp only [gain_cons, gain_nil, activeOf, hpool]
  split
  · next h => simp [h, Pool.lend]
  · simp

/-- A borrower counts once if it gets a connection, and not at all otherwise. -/
theorem gain_borrow (hothers : ∀ w v, others w v → w.Elsewise v) (hs : s.Flows (.blank D) kept 0)
    (hp : p < s.world.pools.length) {r : Option (Except RouteError HandleId)}
    (hl : (borrow p).Treads (Traffic kept) others s r s' l) (q : PoolId) :
    gain (activeOf q) l = if r.any (·.isOk) = true ∧ q = p then 1 else 0 := by
  have hT := Terms.Admits.blank hothers
  have hpermits : ∀ (f : Permits → Permits) w, Alike (activeOf q) w (w.modifyPool p (·.modifyPermits f)) := fun f w =>
    (heedless_activeOf (D := D) q).pool p (f := fun P => P.modifyPermits f) (fun _ => rfl) w
  have hacquire : (acquire (D := D) p).Leaves (activeOf q) := calm_acquire p hpermits
  have hrelease : (releasePermit (D := D) p).Leaves (activeOf q) := calm_modify (hpermits _)
  unfold borrow at hl
  replace hl : (if (s.world.pool p).closed then _ else _ : Routine (World D) _).Treads _ _ s r s' l := hl
  split at hl
  · obtain ⟨rfl, -, hnone⟩ := treads_pure hl
    simp [hnone, Except.isOk, Except.toBool]
  rcases treads_bind hl with ⟨rfl, hwait⟩ | ⟨permit, m, l₁, l₂, hl₁, hl, hgain⟩
  · simpa using hacquire.gain_eq hwait
  obtain ⟨hm, _, hsm, hrest⟩ := hs.plays hT (fun rest hw => (rests_acquire p).carries hw) hl₁.plays
  cases hrest permit rfl
  rw [hgain, hacquire.gain_eq hl₁, zero_add]
  -- neither to wait for a permit nor to fetch a connection counts, so only the lending is left
  cases permit with
  | error e =>
    obtain ⟨rfl, -, hnone⟩ := treads_pure hl
    simp [hnone, Except.isOk, Except.toBool]
  | ok _ =>
    have htake := (heedless_activeOf (D := D) q).calm_takeOrOpen (R := fun _ _ => True) p
    rcases treads_bind hl with ⟨rfl, hwait⟩ | ⟨fetched, m', l₃, l₄, hl₃, hl, hgain⟩
    · simpa using Leaves.gain_eq htake hwait
    have hp := Nat.lt_of_lt_of_le hp hm.pools_le
    obtain ⟨hm', -⟩ := hsm.plays hT (fun rest hw => carries_takeOrOpen hp (by rwa [zero_add] at hw)) hl₃.plays
    rw [hgain, Leaves.gain_eq htake hl₃, zero_add]
    cases fetched with
    | error e =>
      obtain ⟨r', l', rfl, hl, hgain⟩ := treads_bind_pure hl
      rw [hgain, hrelease.gain_eq hl]
      cases r' <;> simp [Except.isOk, Except.toBool]
    | ok c =>
      obtain ⟨r', l', rfl, hl, hgain⟩ := treads_bind_pure hl
      obtain ⟨hsome, hlend⟩ := gain_lend (Nat.lt_of_lt_of_le hp hm'.pools_le) hl q
      obtain ⟨_, rfl⟩ := Option.isSome_iff_exists.1 hsome
      rw [hgain, hlend]
      simp [Except.isOk, Except.toBool]

/-- The driver is asked once. -/
theorem requests_dial {protocol : String} {host : Host} {props : Properties} {r : Option (Except RouteError ConnId)}
    (hl : (dial protocol host props).Treads calls others s r s' l) : gain requests l ≤ 1 := by
  have hdriver : ((Backend.connect protocol host props).focus backendPart).Leaves (requests (D := D)) :=
    calm_driver indifferent_requests.driver _
  rcases treads_bind hl with ⟨rfl, hwait⟩ | ⟨outcome, m, l₁, l₂, hl₁, hl, hgain⟩
  · rw [hdriver.gain_eq hwait]
    exact Int.zero_le_ofNat 1
  obtain ⟨l', hl, hnote⟩ := treads_modify_bind hl
  obtain ⟨-, -, hnone⟩ := treads_pure hl
  have hone : requests (Journaled.note (.call (.connect protocol host props outcome.toOption)) m.world) =
      requests m.world + 1 := by
    show ((List.countP _ (_ :: _) : ℕ) : ℤ) = _
    rw [List.countP_cons_of_pos rfl]
    rfl
  rw [hgain, hdriver.gain_eq hl₁, hnote, hnone, hone]
  omega

theorem requests_openFor {r : Option (Except RouteError ConnId)} (hl : (openFor p).Treads calls others s r s' l) :
    gain requests l ≤ 1 := by
  have hB := indifferent_requests (D := D)
  unfold openFor at hl
  replace hl : (dial _ _ _ >>= _ : Routine (World D) _).Treads _ _ s r s' l := hl
  rcases treads_bind hl with ⟨rfl, hwait⟩ | ⟨dialled, m, l₁, l₂, hl₁, hl, hgain⟩
  · exact requests_dial hwait
  suffices hrest : gain requests l₂ = 0 by
    rw [hgain, hrest, add_zero]
    exact requests_dial hl₁
  refine Leaves.gain_eq ?_ hl
  cases dialled with
  | error e => exact Routine.calm_pure _
  | ok c =>
    dsimp only
    split
    · refine Routine.calm_bind (hB.calm_setReadOnly c true) fun r => ?_
      cases r with
      | error e => exact Routine.calm_bind (hB.calm_hangUpQuietly c) fun _ => Routine.calm_pure _
      | ok reply => exact Routine.calm_bind (hB.calm_log _ _) fun _ => Routine.calm_pure _
    · exact Routine.calm_bind (hB.calm_log _ _) fun _ => Routine.calm_pure _

/-- A borrower asks the driver at most once. -/
theorem requests_borrow {r : Option (Except RouteError HandleId)} (hl : (borrow p).Treads calls others s r s' l) :
    gain requests l ≤ 1 := by
  have hB := indifferent_requests (D := D)
  have hacquire : (acquire (D := D) p).Leaves requests := calm_acquire p fun _ _ => hB.count _ _ _
  have hrelease : (releasePermit (D := D) p).Leaves requests := calm_modify (hB.count _ _)
  have hnone : ∀ {n : ℤ}, n = 0 → n ≤ 1 := fun h => h ▸ Int.zero_le_ofNat 1
  unfold borrow at hl
  replace hl : (if (s.world.pool p).closed then _ else _ : Routine (World D) _).Treads _ _ s r s' l := hl
  split at hl
  · exact hnone ((treads_pure hl).2.2 _)
  rcases treads_bind hl with ⟨rfl, hwait⟩ | ⟨permit, m, l₁, l₂, hl₁, hl, hgain⟩
  · exact hnone (hacquire.gain_eq hwait)
  rw [hgain, hacquire.gain_eq hl₁, zero_add]
  cases permit with
  | error e => exact hnone ((treads_pure hl).2.2 _)
  | ok _ =>
    have htake : ∀ {r : Option (Except RouteError ConnId)} {s s' l}, (takeOrOpen p).Treads calls others s r s' l →
        gain requests l ≤ 1 := fun {r s s' l} hl => by
      rcases treads_bind hl with ⟨rfl, hwait⟩ | ⟨idle, m, l₁, l₂, hl₁, hl, hgain⟩
      · exact hnone (Leaves.gain_eq (hB.calm_takeIdle p) hwait)
      rw [hgain, Leaves.gain_eq (hB.calm_takeIdle p) hl₁, zero_add]
      cases idle with
      | some c => exact hnone ((treads_pure hl).2.2 _)
      | none => exact requests_openFor hl
    rcases treads_bind hl with ⟨rfl, hwait⟩ | ⟨fetched, m', l₃, l₄, hl₃, hl, hgain⟩
    · exact htake hwait
    -- after the fetching the driver is not asked any more
    suffices hrest : gain requests l₄ = 0 by
      rw [hgain, hrest, add_zero]
      exact htake hl₃
    refine Leaves.gain_eq ?_ hl
    cases fetched with
    | error e => exact Routine.calm_bind hrelease fun _ => Routine.calm_pure _
    | ok c => exact Routine.calm_bind (hB.calm_lend p c) fun _ => Routine.calm_pure _

/-- An eviction takes back what the handle counted for. -/
theorem gain_evict (ht : s.world.Tallies) (hh : h < s.world.handles.length) (hout : (s.world.handle h).returned = false)
    {r : Option Unit} (hl : (evict h).Treads calls others s r s' l) (q : PoolId) :
    gain (activeOf q) l = if q = (s.world.handle h).pool then -1 else 0 := by
  have hB := heedless_activeOf (D := D) q
  have hp := ht.lender h hh
  have hpool : ((s.world.marking h).handle h).pool = (s.world.handle h).pool := by
    rw [handle_modifyHandle hh, if_pos rfl]
  -- the handle is out, so there is at least one to take back
  have hpos := length_outOf_pos hh hout
  rw [← ht.active _ hp] at hpos
  -- what follows the count says nothing of it: a line, the close and the permit
  have hrest : ∀ text c, (Routine.log .debug text >>= fun _ =>
      hangUpQuietly c >>= fun _ => dropPermit (D := D) h).Leaves (activeOf q) := fun text c => by
    refine Routine.calm_bind (hB.calm_log _ _) fun _ => Routine.calm_bind (hB.calm_hangUpQuietly _) fun _ => ?_
    exact calm_dropPermit h (fun p f w => hB.pool p (f := fun P => P.modifyPermits f) (fun _ => rfl) w) (hB.handle h _)
  have hl : ((if !(s.world.handle h).returned then _ else pure () : Routine (World D) Unit) s.clock
      (s.world.marking h)).Treads calls others s r s' l := hl
  rw [hout, Bool.not_false, if_pos rfl] at hl
  obtain ⟨l₁, hl, hmark⟩ := Outcome.Treads.setWorld (s.world.marking h) hl
  replace hl : (modify (modifyPool ((s.world.marking h).handle h).pool Pool.unlend) >>= fun _ =>
      Routine.log .debug ("Evicting connection from pool " ++
        ((s.world.marking h).pool ((s.world.marking h).handle h).pool).key) >>= fun _ =>
      hangUpQuietly ((s.world.marking h).handle h).conn >>= fun _ => dropPermit h : Routine (World D) Unit).Treads
    calls others { s with world := s.world.marking h } r s' l₁ := hl
  obtain ⟨l₂, hl, hcount⟩ := treads_modify_bind hl
  rw [hpool] at hl hcount
  have hmarked : activeOf q (s.world.marking h) = activeOf q s.world := rfl
  rw [hmark, hcount, (hrest _ _).gain_eq hl, hmarked, sub_self, zero_add, add_zero]
  have hafter : ((s.world.marking h).modifyPool (s.world.handle h).pool Pool.unlend).pool q =
      if q = (s.world.handle h).pool then (s.world.pool (s.world.handle h).pool).unlend else s.world.pool q :=
    pool_modifyPool (w := s.world.marking h) hp Pool.unlend q
  simp only [activeOf, hafter]
  split
  · next h =>
    rw [h]
    simp only [Pool.unlend]
    omega
  · simp

end Gains

end World

end ReplicaRouter
