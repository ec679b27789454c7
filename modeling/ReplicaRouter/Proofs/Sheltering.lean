import ReplicaRouter.Proofs.Attempts
import ReplicaRouter.Proofs.Patience
import ReplicaRouter.Proofs.Reach
import ReplicaRouter.Proofs.Turning
/-
Who holds a borrowed link. Each place of a logical connection that has one holds its handle, and so does the hand that
the link passes through from one place to another. A handle that is let go of for the last time goes back to its pool,
and is in no place any more.
Main statements: `Split.shelters_makeCurrent`, `Split.shelters_setWriter` and the like for each place, and
`Split.shelters_connect`.
-/
namespace ReplicaRouter

variable {D : Type} {others : World D → World D → Prop}

/-! ## Worlds -/

namespace World

variable {u v w w' : World D} {h : HandleId}

/-- Between two worlds the handle lost no holder. -/
def Retains (h : HandleId) (w w' : World D) : Prop := (w.handle h).holders ≤ (w'.handle h).holders

/-- Between two worlds the handle was left alone: it lost no holder, and was not given back once it was there. -/
structure Heeds (h : HandleId) (w w' : World D) : Prop where
  length_le : w.handles.length ≤ w'.handles.length
  retains : w.Retains h w'
  returned : h < w.handles.length → (w'.handle h).returned = true → (w.handle h).returned = true

theorem Heeds.refl (w : World D) : w.Heeds h w := ⟨Nat.le_refl _, Nat.le_refl _, fun _ hr => hr⟩

theorem Heeds.trans (h1 : u.Heeds h v) (h2 : v.Heeds h w) : u.Heeds h w :=
  ⟨Nat.le_trans h1.length_le h2.length_le, Nat.le_trans h1.retains h2.retains,
    fun hh hr => h1.returned hh (h2.returned (Nat.lt_of_lt_of_le hh h1.length_le) hr)⟩

theorem Light.retains {free : HandleId → Prop} (hl : w.Light free w') : w.Retains h w' :=
  Nat.le_of_eq (hl.holders h).symm

theorem Light.heeds (hl : w.Light (· ≠ h) w') : w.Heeds h w' :=
  ⟨hl.length_le, hl.retains, fun _ hr => (hl.returned h (fun hn => hn rfl)).symm.trans hr⟩

theorem Heeds.of_eq (hh : w'.handles = w.handles) : w.Heeds h w' := by
  have he : w'.handle h = w.handle h := by rw [handle, hh]; rfl
  exact ⟨Nat.le_of_eq (by rw [hh]), Nat.le_of_eq (by rw [he]), fun _ hr => he ▸ hr⟩

theorem Noted.heeds (hn : w.Noted w') : w.Heeds h w' := by
  obtain ⟨es, -, rfl⟩ := hn
  exact .of_eq rfl

section Others

variable [Frame others (Heeds (D := D) h)]

instance : Frame others (Retains (D := D) h) :=
  ⟨fun _ => Nat.le_refl _, Nat.le_trans, fun ho => (Frame.bears (R := Heeds h) ho).retains⟩

variable (others h)

/-- Who leaves the handle alone deals with nothing but other links. -/
theorem minding_of_heeds [Bystanders others] : Minding others fun l : Link => l ≠ .pooled h where
  apart {w v} ho := by
    refine ⟨Bystanders.aside ho, fun i hi hn hr => ?_, fun _ hn => absurd nofun hn⟩
    obtain rfl : i = h := Link.pooled.inj (Classical.not_not.1 hn)
    exact Bool.eq_false_iff.2 fun hv => Bool.eq_false_iff.1 hr ((Frame.bears (R := Heeds i) ho).returned hi hv)

variable [Backend D]

/-- Nothing but holding and letting go changes who holds a handle. -/
theorem obliging_retains : Obliging (fun _ => True) others (Retains (D := D) h) :=
  Tolerant.obliging ⟨Light.retains, fun _ _ => Nat.le_refl _⟩ (fun _ _ => Nat.le_refl _) fun _ _ => Nat.le_refl _

/-- Whatever becomes of other handles leaves the handle alone. -/
theorem obliging_heeds : Obliging (· ≠ h) others (Heeds (D := D) h) :=
  Tolerant.obliging ⟨Light.heeds, fun _ _ => .of_eq rfl⟩ (fun _ _ => .of_eq rfl) fun _ _ => .of_eq rfl

end Others

end World

/-! ## Links -/

namespace Link

/-- How often a place that has the link, or none, holds the handle. -/
def tally (slot : Option Link) (h : HandleId) : Nat := if slot = some (.pooled h) then 1 else 0

variable {h : HandleId} {l : Link} {w w' : World D} {now later : Instant}

@[simp]
theorem tally_self : tally (some (.pooled h)) h = 1 := if_pos rfl

theorem tally_of_ne (hl : l ≠ .pooled h) : tally (some l) h = 0 := if_neg fun he => hl (Option.some.inj he)

@[simp]
theorem tally_none : tally none h = 0 := if_neg nofun

@[simp]
theorem tally_direct {c : ConnId} : tally (some (.direct c)) h = 0 := if_neg nofun

theorem tally_eq_zero_iff {slot : Option Link} : tally slot h = 0 ↔ slot ≠ some (.pooled h) := by
  unfold tally
  split <;> simp [*]

/-- How many of the links lead to the handle. -/
def tallies (links : List HostLink) (h : HandleId) : Nat := links.countP fun l => l.1 = .pooled h

theorem tallies_cons (l : HostLink) (links : List HostLink) :
    tallies (l :: links) h = tallies links h + tally (some l.1) h := by
  rw [tallies, List.countP_cons]
  simp [tallies, tally]

theorem tallies_append (ks ls : List HostLink) : tallies (ks ++ ls) h = tallies ks h + tallies ls h :=
  List.countP_append

theorem tallies_toList (slot : Option HostLink) : tallies slot.toList h = tally (slot.map Prod.fst) h := by
  cases slot <;> simp [tallies, tally, List.countP_cons]

/-- If the link leads to the handle, the handle is there, and if it is to be spared it was not given back. -/
def Lives (spares : Prop) (h : HandleId) (w : World D) (l : Link) : Prop :=
  l = .pooled h → h < w.handles.length ∧ (spares → (w.handle h).returned = false)

variable {spares : Prop}

theorem Lives.of_eq (hl : l.Lives spares h w) (hh : w'.handles = w.handles) : l.Lives spares h w' := fun he => by
  have hhandle : w'.handle h = w.handle h := by rw [World.handle, hh]; rfl
  rw [hh, hhandle]
  exact hl he

theorem Lives.noted (hl : l.Lives spares h w) (hn : w.Noted w') : l.Lives spares h w' := by
  obtain ⟨es, -, rfl⟩ := hn
  exact hl.of_eq rfl

/-- Who holds a link to the handle is one holder more. -/
theorem ends_hold_tally {a : Unit} (hl : l.Lives spares h w) (hx : Routine.Ends others l.hold now w a later w') :
    (w'.handle h).holders = (w.handle h).holders + tally (some l) h ∧
      (w'.handle h).returned = (w.handle h).returned ∧ w'.handles.length = w.handles.length := by
  cases l with
  | direct c =>
    obtain ⟨-, -, rfl⟩ := Routine.ends_pure.1 hx
    exact ⟨by simp, rfl, rfl⟩
  | pooled i =>
    obtain ⟨-, -, rfl⟩ := Routine.ends_pure.1 hx
    by_cases hi : i = h
    · subst hi
      rw [World.handle_modifyHandle (hl rfl).1, if_pos rfl, tally_self]
      exact ⟨rfl, rfl, by simp [World.modifyHandle]⟩
    · have he := (World.handle_modifyHandle_or i (fun e => { e with holders := e.holders + 1 }) w h).resolve_right
        fun he => hi he.1.symm
      rw [he, tally_of_ne fun he => hi (Link.pooled.inj he)]
      exact ⟨rfl, rfl, by simp [World.modifyHandle]⟩

/-- It lives on. -/
theorem Lives.hold {a : Unit} (hl : l.Lives spares h w) (hx : Routine.Ends others l.hold now w a later w') :
    l.Lives spares h w' := fun he => by
  obtain ⟨-, hr, hlength⟩ := ends_hold_tally hl hx
  rw [hr, hlength]
  exact hl he

variable [Backend D] [Frame others (World.Heeds (D := D) h)]

/-- Letting go of another link leaves the handle alone. -/
theorem heeds_letGo (hl : l ≠ .pooled h) : Routine.Keeps others (World.Heeds h) (l.letGo (D := D)) := by
  cases l with
  | direct c => exact Routine.keeps_pure _
  | pooled i =>
    have hi : i ≠ h := fun he => hl (congrArg Link.pooled he)
    refine Routine.keeps_bind (Routine.keeps_modify fun w => ?_) fun _ =>
      Routine.keeps_bind Routine.keeps_get fun w => ?_
    · have he := (World.handle_modifyHandle_or i (fun e => { e with holders := e.holders - 1 }) w h).resolve_right
        fun he => hi he.1.symm
      exact ⟨by simp [World.modifyHandle], Nat.le_of_eq (by rw [he]), fun _ hr => he ▸ hr⟩
    · split
      · exact (World.obliging_heeds others h).keeps_abandon hi
      · exact Routine.keeps_pure _

/-- Who lets go of the handle is one holder less, and the last one gives it back. -/
theorem ends_letGo_pooled {a : Unit} (hx : Routine.Ends others (Link.pooled h).letGo now w a later w') :
    (w.handle h).holders ≤ (w'.handle h).holders + 1 ∧
      ((w'.handle h).returned = true → (w.handle h).returned = true ∨ (w.handle h).holders ≤ 1) := by
  have hx := Routine.ends_get_bind.1 (Routine.ends_modify_bind.1 hx)
  have hv : (w.handle h).holders ≤
        ((w.modifyHandle h fun e => { e with holders := e.holders - 1 }).handle h).holders + 1 ∧
      ((w.modifyHandle h fun e => { e with holders := e.holders - 1 }).handle h).returned = (w.handle h).returned := by
    rcases World.handle_modifyHandle_or h (fun e => { e with holders := e.holders - 1 }) w h with he | ⟨-, he⟩
    · rw [he]; exact ⟨Nat.le_succ _, rfl⟩
    · rw [he]; exact ⟨by dsimp only; omega, rfl⟩
  split at hx
  · next hlast =>
    have hretains := ((World.obliging_retains others h).keeps_abandon trivial).ends hx
    exact ⟨Nat.le_trans hv.1 (Nat.succ_le_succ hretains), fun _ => .inr (by omega)⟩
  · obtain ⟨-, -, rfl⟩ := Routine.ends_pure.1 hx
    exact ⟨hv.1, fun hr => .inl (hv.2 ▸ hr)⟩

end Link

/-! ## Places -/

namespace Seats

/-- How many places hold the handle. -/
def places (p : Seats) (h : HandleId) : Nat :=
  Link.tally (p.current.map Prod.fst) h + Link.tally (p.writer.map Prod.fst) h +
    Link.tally (p.reader.map Prod.fst) h + Link.tally p.stale h

/-- The handle has a holder for each place and for each hand that has it. If it is to be spared, no place has it once it
was given back. -/
structure Shelters (spares : Prop) (h : HandleId) (p : Seats) (hands : Nat) (w : World D) : Prop where
  held : p.places h + hands ≤ (w.handle h).holders
  spared : spares → (w.handle h).returned = true → p.places h = 0

variable {p q : Seats} {h : HandleId} {l : Link} {n : Nat} {spares : Prop} {w w' : World D} {now later : Instant}

theorem places_eq_zero_iff : p.places h = 0 ↔ ¬ (p.Reaches (.pooled h) ∨ p.stale = some (.pooled h)) := by
  have hslot : ∀ slot : Option HostLink,
      slot.map Prod.fst = some (.pooled h) ↔ ∃ host, slot = some (.pooled h, host) := by
    intro slot
    cases slot <;> simp [Prod.ext_iff]
  have hcurrent : (∃ host, p.current = some (.pooled h, host)) ∨ p.stale = some (.pooled h) ↔
      (∃ host, p.IsCurrent (.pooled h, host)) ∨ p.stale = some (.pooled h) := by
    by_cases hst : p.stale = some (.pooled h) <;> simp [IsCurrent, hst]
  simp only [places, Nat.add_eq_zero_iff, Link.tally_eq_zero_iff, ne_eq, hslot, Reaches, Keeps]
  grind

/-- A link that has a place lives. -/
theorem Shelters.lives (hs : p.Shelters spares h n w) (hl : p.Reaches l ∨ p.stale = some l) : l.Lives spares h w := by
  rintro rfl
  have hplaces : p.places h ≠ 0 := fun h0 => places_eq_zero_iff.1 h0 hl
  have hheld := hs.held
  refine ⟨World.lt_of_held (by omega), fun hsp => Bool.eq_false_iff.2 fun hr => hplaces (hs.spared hsp hr)⟩

/-! ### What becomes of the handle -/

theorem Shelters.heeds (hs : p.Shelters spares h n w) (hw : w.Heeds h w') : p.Shelters spares h n w' := by
  refine ⟨Nat.le_trans hs.held hw.retains, fun hsp hr => ?_⟩
  by_cases hh : h < w.handles.length
  · exact hs.spared hsp (hw.returned hh hr)
  · -- a handle that is not there has no holder
    have hnone : ¬ 0 < (w.handle h).holders := fun hheld => hh (World.lt_of_held hheld)
    have hheld := hs.held
    omega

/-- Where the handle need not be spared it is enough that it loses no holder. -/
theorem Shelters.retains (hs : p.Shelters spares h n w) (hn : ¬ spares) (hw : w.Retains h w') :
    p.Shelters spares h n w' :=
  ⟨Nat.le_trans hs.held hw, fun hsp => absurd hsp hn⟩

theorem Shelters.hold {a : Unit} (hs : p.Shelters spares h n w) (hl : l.Lives spares h w)
    (hx : Routine.Ends others l.hold now w a later w') : p.Shelters spares h (n + Link.tally (some l) h) w' := by
  obtain ⟨hholders, hreturned, -⟩ := Link.ends_hold_tally hl hx
  refine ⟨?_, fun hsp hr => hs.spared hsp (hreturned ▸ hr)⟩
  rw [hholders, ← Nat.add_assoc]
  exact Nat.add_le_add_right hs.held _

/-- What is in hand takes the place of what is there, which is in hand then. -/
theorem Shelters.put {slot earlier : Option Link} (hs : p.Shelters spares h (n + Link.tally slot h) w)
    (hl : ∀ l, slot = some l → l.Lives spares h w)
    (hq : q.places h + Link.tally earlier h = p.places h + Link.tally slot h) :
    q.Shelters spares h (n + Link.tally earlier h) w := by
  have hheld := hs.held
  refine ⟨by omega, fun hsp hr => ?_⟩
  have hplaces := hs.spared hsp hr
  have hslot : Link.tally slot h = 0 := Link.tally_eq_zero_iff.2 fun he => by
    rw [(hl _ he rfl).2 hsp] at hr
    cases hr
  omega

variable [Backend D] [Frame others (World.Heeds (D := D) h)]

/-- Nothing has a handle any more that is let go of for the last time. -/
theorem Shelters.letGo {a : Unit} (hs : p.Shelters spares h (n + Link.tally (some l) h) w)
    (hx : Routine.Ends others l.letGo now w a later w') : p.Shelters spares h n w' := by
  by_cases hl : l = .pooled h
  · subst hl
    have hheld := hs.held
    rw [Link.tally_self] at hheld
    obtain ⟨hholders, hreturned⟩ := Link.ends_letGo_pooled hx
    refine ⟨by omega, fun hsp hr => ?_⟩
    rcases hreturned hr with hr | hlast
    · exact hs.spared hsp hr
    · omega
  · rw [Link.tally_of_ne hl] at hs
    exact hs.heeds ((Link.heeds_letGo hl).ends hx)

/-- A handle that is to be spared may be given back if it has no place. -/
theorem Shelters.closeQuietly {a : Unit} (hs : p.Shelters spares h n w) (hl : spares → l = .pooled h → p.places h = 0)
    (hx : Routine.Ends others l.closeQuietly now w a later w') : p.Shelters spares h n w' := by
  by_cases he : l = .pooled h
  · have hretains := ((World.obliging_retains others h).keeps_closeQuietly fun _ _ => trivial).ends hx
    exact ⟨Nat.le_trans hs.held hretains, fun hsp _ => hl hsp he⟩
  · refine hs.heeds (((World.obliging_heeds others h).keeps_closeQuietly fun i hi => ?_).ends hx)
    exact fun hih => he (hi.trans (congrArg Link.pooled hih))

end Seats

/-! ## Steps -/

/-- Every place of the logical connection that has the handle holds it, and so many hands do besides. If it is to be
spared, no place has it once it was given back. -/
def Stand.Shelters (spares : Prop) (h : HandleId) (hands : Nat) (s : Stand D) : Prop :=
  s.seats.Shelters spares h hands s.world

section Steps

variable {spares : Prop} {i : HandleId} {n : Nat} {s u v s' : Stand D} {l : HostLink} {slot : Option HostLink}
  {a : Unit}

theorem Stand.Shelters.heeds (hs : s.Shelters spares i n) (hseats : s'.seats = s.seats)
    (hw : s.world.Heeds i s'.world) :
    s'.Shelters spares i n := by
  unfold Stand.Shelters
  rw [hseats]
  exact Seats.Shelters.heeds hs hw

theorem Stand.Noted.shelters (h : s.Noted u) (hs : s.Shelters spares i n) : u.Shelters spares i n :=
  hs.heeds h.seats_eq h.world.heeds

variable [Backend D] [Frame others (World.Heeds (D := D) i)]

/-- A link that becomes current is held, and the one before is let go of. -/
theorem Service.shelters_setCurrent {p q : Place D} {x : Splitter} {l : Link} {host : Host}
    (h : Act.Ends others (Service.setCurrent l host) p a q) (hs : (⟨p, x⟩ : Stand D).Shelters spares i n)
    (hl : l.Lives spares i p.world) : (⟨q, x⟩ : Stand D).Shelters spares i n := by
  obtain ⟨_, p1, h1, h⟩ := Act.ends_bind.1 h
  obtain ⟨h1, hv1⟩ := Act.ends_world.1 h1
  have hn := World.noted_log h1
  obtain ⟨_, p2, h2, h⟩ := Act.ends_bind.1 h
  obtain ⟨h2, hv2⟩ := Act.ends_world.1 h2
  have hl1 := hl.noted hn
  have hs2 := (Seats.Shelters.heeds hs hn.heeds).hold hl1 h2
  obtain ⟨_, p3, h3, h⟩ := Act.ends_bind.1 h
  obtain ⟨rfl, rfl⟩ := Act.ends_get.1 h3
  obtain ⟨_, p4, h4, h⟩ := Act.ends_bind.1 h
  obtain rfl := Act.ends_modify.1 h4
  have hs4 : (⟨{ p2 with service := { p2.service with current := some (l, host) } }, x⟩ : Stand D).Shelters spares i
      (n + Link.tally p2.service.link? i) := by
    refine hs2.put (fun k hk => Option.some.inj hk ▸ hl1.hold h2) ?_
    rw [hv2, hv1]
    simp only [Seats.places, Stand.seats, Option.map_some, Service.link?]
    omega
  cases hearlier : p2.service.link? with
  | none =>
    rw [hearlier] at h hs4
    rw [(Act.ends_pure.1 h).2]
    simpa using hs4
  | some earlier =>
    rw [hearlier] at h hs4
    obtain ⟨h, hq⟩ := Act.ends_world.1 h
    have hs5 := hs4.letGo h
    unfold Stand.Shelters Stand.seats
    rw [hq]
    exact hs5

namespace Split

omit [Backend D] [Frame others (World.Heeds (D := D) i)] in
theorem shelters_hold (h : Split.Ends others (hold slot) s a s') (hs : s.Shelters spares i n)
    (hl : ∀ l, slot = some l → l.1.Lives spares i s.world) :
    s'.Shelters spares i (n + Link.tally (slot.map Prod.fst) i) ∧ s'.service = s.service ∧
      ∀ l, slot = some l → l.1.Lives spares i s'.world := by
  cases slot with
  | none =>
    obtain ⟨-, rfl⟩ := ends_pure.1 h
    exact ⟨by simpa using hs, rfl, nofun⟩
  | some l =>
    obtain ⟨hx, hv, hsplitter⟩ := ends_world.1 h
    refine ⟨?_, hv, fun k hk => ?_⟩
    · unfold Stand.Shelters Stand.seats
      rw [hv, hsplitter]
      exact Seats.Shelters.hold hs (hl l rfl) hx
    · obtain rfl := Option.some.inj hk
      exact (hl _ rfl).hold hx

theorem shelters_letGo {l : Link} (h : Split.Ends others (Split.world l.letGo) s a s')
    (hs : s.Shelters spares i (n + Link.tally (some l) i)) : s'.Shelters spares i n := by
  obtain ⟨hx, hv, hsplitter⟩ := ends_world.1 h
  unfold Stand.Shelters Stand.seats
  rw [hv, hsplitter]
  exact Seats.Shelters.letGo hs hx

theorem shelters_closeQuietly {l : Link} (h : Split.Ends others (Split.world l.closeQuietly) s a s')
    (hs : s.Shelters spares i n) (hl : spares → l = .pooled i → s.seats.places i = 0) : s'.Shelters spares i n := by
  obtain ⟨hx, hv, hsplitter⟩ := ends_world.1 h
  unfold Stand.Shelters Stand.seats
  rw [hv, hsplitter]
  exact Seats.Shelters.closeQuietly hs hl hx

/-- Another link is kept in a place, and the one before is let go of. -/
theorem shelters_swap {read : Splitter → Option HostLink} {put : Splitter → Splitter}
    (h : Split.Ends others (swap slot read put) s a s') (hs : s.Shelters spares i n)
    (hl : ∀ l, slot = some l → l.1.Lives spares i s.world)
    (hput : ({ s with splitter := put s.splitter } : Stand D).seats.places i +
      Link.tally ((read s.splitter).map Prod.fst) i = s.seats.places i + Link.tally (slot.map Prod.fst) i) :
    s'.Shelters spares i n := by
  obtain ⟨u, hhold, hu, h⟩ := ends_swap h
  obtain ⟨hsu, hv, hlu⟩ := shelters_hold hhold hs hl
  have hseats : u.seats = s.seats := by rw [Stand.seats, hv, hu]; rfl
  have hs4 : ({ u with splitter := put s.splitter } : Stand D).Shelters spares i
      (n + Link.tally ((read s.splitter).map Prod.fst) i) := by
    refine Seats.Shelters.put hsu (fun k hk => ?_) ?_
    · obtain ⟨l, hslot, rfl⟩ := Option.map_eq_some_iff.1 hk
      exact hlu l hslot
    · rw [hseats, ← hput, Stand.seats, Stand.seats, hv]
  cases hread : read s.splitter with
  | none =>
    rw [hread] at h hs4
    rw [(ends_pure.1 h).2]
    simpa using hs4
  | some old =>
    rw [hread] at h hs4
    exact shelters_letGo h hs4

theorem shelters_setWriter (h : Split.Ends others (setWriter slot) s a s') (hs : s.Shelters spares i n)
    (hl : ∀ l, slot = some l → l.1.Lives spares i s.world) : s'.Shelters spares i n := by
  rw [setWriter_eq] at h
  refine shelters_swap h hs hl ?_
  simp only [Seats.places, Stand.seats]
  omega

theorem shelters_setReader (h : Split.Ends others (setReader slot) s a s') (hs : s.Shelters spares i n)
    (hl : ∀ l, slot = some l → l.1.Lives spares i s.world) : s'.Shelters spares i n := by
  rw [setReader_eq] at h
  refine shelters_swap h hs hl ?_
  simp only [Seats.places, Stand.seats]
  omega

/-- A link that is held is left behind in place of the one before, which is let go of. -/
theorem shelters_putStale {stale : Option Link} (h : Split.Ends others (do
      let earlier := (← get).stale
      modify fun x => { x with stale }
      if let some l := earlier then Split.world l.letGo) s a s')
    (hs : s.Shelters spares i (n + Link.tally stale i)) (hl : ∀ l, stale = some l → l.Lives spares i s.world) :
    s'.Shelters spares i n := by
  replace h := after_get h
  obtain ⟨_, u, hset, h⟩ := ends_bind.1 h
  obtain rfl := ends_modify.1 hset
  have hput : ({ s with splitter := { s.splitter with stale } } : Stand D).Shelters spares i
      (n + Link.tally s.splitter.stale i) := by
    refine Seats.Shelters.put hs hl ?_
    simp only [Seats.places, Stand.seats]
    omega
  cases hstale : s.splitter.stale with
  | none =>
    rw [hstale] at h hput
    rw [(ends_pure.1 h).2]
    simpa using hput
  | some old =>
    rw [hstale] at h hput
    exact shelters_letGo h hput

theorem shelters_setStale {stale : Option Link} (h : Split.Ends others (setStale stale) s a s')
    (hs : s.Shelters spares i n) (hl : ∀ l, stale = some l → l.Lives spares i s.world) : s'.Shelters spares i n := by
  cases stale with
  | none => exact shelters_putStale h (by simpa using hs) nofun
  | some l =>
    obtain ⟨_, u, hhold, h⟩ := ends_bind.1 h
    obtain ⟨hx, hv, hsplitter⟩ := ends_world.1 hhold
    have hu : u.Shelters spares i (n + Link.tally (some l) i) := by
      unfold Stand.Shelters Stand.seats
      rw [hv, hsplitter]
      exact Seats.Shelters.hold hs (hl l rfl) hx
    exact shelters_putStale h hu fun k hk => Option.some.inj hk ▸ (hl l rfl).hold hx

theorem shelters_makeCurrent (h : Split.Ends others (makeCurrent l) s a s') (hs : s.Shelters spares i n)
    (hl : l.1.Lives spares i s.world) : s'.Shelters spares i n := by
  cases arrives_makeCurrent h with
  | there => exact hs
  | @moves u _ sets counts =>
    obtain ⟨hset, hx⟩ := ends_act.1 sets
    have hu : u.Shelters spares i n := by
      have hu := Service.shelters_setCurrent (x := s.splitter) hset hs hl
      rwa [show (⟨u.toPlace, s.splitter⟩ : Stand D) = u from Stand.eq_of_place rfl hx.symm] at hu
    obtain ⟨hv, hsplitter, hn⟩ := ends_countSwitch counts
    exact hu.heeds (by rw [Stand.seats, hv, hsplitter]; rfl) hn.heeds

theorem shelters_readFrom (h : Split.Ends others (readFrom l) s a s') (hs : s.Shelters spares i n)
    (hl : l.1.Lives spares i s.world) : s'.Shelters spares i n := by
  obtain ⟨_, u, hset, h⟩ := ends_bind.1 h
  have hu := shelters_setReader hset hs fun k hk => Option.some.inj hk ▸ hl
  refine shelters_makeCurrent h hu (hu.lives (.inl (.inr (.inr ⟨l.2, ?_⟩))))
  show u.splitter.reader = some l
  rw [(ends_setReader hset).2]

end Split

end Steps

/-! ## Ways to new links -/

section Connecting

variable {spares : Prop} {h : HandleId} {n : Nat} [Bystanders others] [Backend D]
  [Frame others (World.Heeds (D := D) h)]

section Attempt

variable {ps : Providers} {protocol : String} {host : Host} {props : Properties} {now later : Instant} {w w' : World D}

/-- An attempt to connect leaves the handle alone. -/
theorem Providers.heeds_connect {r : Except RouteError Link}
    (hx : Routine.Ends others (ps.connect protocol host props) now w r later w') : w.Heeds h w' := by
  have := World.minding_of_heeds others h
  have hattains : w.Attains (· ≠ .pooled h) r w' := Providers.ends_connect hx
  have hminds : ∃ held, w.Minds (· ≠ .pooled h) held w' := by
    rcases r with e | c | i
    · exact ⟨_, hattains⟩
    · exact ⟨_, hattains⟩
    · exact ⟨_, hattains.minds⟩
  obtain ⟨held, hminds⟩ := hminds
  have hretains := ((World.obliging_retains others h).keeps_provide ps protocol host props).ends hx
  refine ⟨hminds.grows.length_le, hretains, fun hh hr => Classical.byContradiction fun hopen => ?_⟩
  -- a handle that was there and open is open still
  exact (hminds.owns _ (fun hn => hn rfl) ⟨hh, hopen, nofun⟩ nofun).1.unshut hr

/-- If it ends with a link to the handle, that one was lent just now. -/
theorem Providers.lives_connect {l : Link}
    (hx : Routine.Ends others (ps.connect protocol host props) now w (.ok l) later w') :
    l.Lives spares h w' ∧ (l = .pooled h → w.handles.length ≤ h) := by
  have := World.minding_of_heeds others h
  have hattains : w.Attains (· ≠ .pooled h) (.ok l) w' := Providers.ends_connect hx
  constructor
  · rintro rfl
    exact ⟨hattains.known, fun _ => hattains.unreturned fun hn => hn rfl⟩
  · rintro rfl
    exact hattains.new

end Attempt

theorem Split.shelters_connect {s s' : Stand D} {host : Host} {props : Properties} {r : Except RouteError Link}
    (hx : Split.Ends others (Split.act (Service.connect host props)) s r s') (hs : s.Shelters spares h n) :
    s'.Shelters spares h n ∧
      ∀ l, r = .ok l → l.Lives spares h s'.world ∧ (l = .pooled h → s.world.handles.length ≤ h) := by
  have hseats := (ends_connect hx).1.seats
  obtain ⟨hx, -⟩ := ends_act.1 hx
  obtain ⟨v, p, hv, hx⟩ := Act.ends_bind.1 hx
  obtain ⟨rfl, rfl⟩ := Act.ends_get.1 hv
  have hattempt := (Act.ends_world.1 hx).1
  refine ⟨hs.heeds hseats (Providers.heeds_connect hattempt), ?_⟩
  rintro l rfl
  exact Providers.lives_connect hattempt

end Connecting

end ReplicaRouter
