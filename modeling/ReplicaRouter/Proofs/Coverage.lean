import ReplicaRouter.Proofs.Lasting
import ReplicaRouter.Proofs.Remembering
import ReplicaRouter.Proofs.Routing
/-
Where the open connections of a logical connection are. An open connection has a seat if it is current,
kept for a role, or left behind by a failover. Steps of read/write splitting cover connections if each
open one that has no seat afterwards had none before, and was there already.
Main statements: once the usable current link is remembered it is kept (`Stand.Remembers.kept`); where that
is so, making another link current loses nothing (`Split.covers_makeCurrent`), nor does finding one
(`Stand.Seeks.covers`, `Stand.Fetches.covers`).
-/
namespace ReplicaRouter

variable {D : Type}

open Splitter
open Backend.Lasting (has)

namespace Seats

/-- The link is current, or it is kept. -/
def Seated (p : Seats) (l : Link) : Prop := (∃ host, p.current = some (l, host)) ∨ p.Keeps l

/-- The link is current, or it is kept, or a failover left it behind. -/
def Holds (p : Seats) (l : Link) : Prop := p.Seated l ∨ p.stale = some l

/-- Where the links that are kept for writing and that are stale stay, only the current one and the one that
is kept for reading can lose their seats. -/
theorem Holds.of_lost {p q : Seats} {l : Link} (h : p.Holds l) (hn : ¬ q.Holds l) (hwriter : q.writer = p.writer)
    (hstale : q.stale = p.stale) : (∃ host, p.current = some (l, host)) ∨ holds p.reader l = true := by
  rcases h with (hcurrent | ⟨host, hw⟩ | hr) | hst
  · exact .inl hcurrent
  · exact absurd (.inl (.inr (.inl ⟨host, hwriter.trans hw⟩))) hn
  · exact .inr (holds_iff.2 hr)
  · exact absurd (.inr (hstale.trans hst)) hn

end Seats

namespace World

variable [Backend D] [Backend.Lasting D] {w w' : World D} {c : ConnId}

theorem Books.steady (h : w.Books w') : w.Steady w' := by
  obtain ⟨es, he, hj⟩ := h.journal
  have hn : w.Noted { w with journal := es ++ w.journal } := ⟨es, he, rfl⟩
  exact hn.steady.trans (.of_eq h.backend hj)

theorem Books.lapses (h : w.Books w') : w.Lapses w' := h.steady.later

/-- What is open now was open before. -/
theorem open_before (h : Backend.Later has w.backend w'.backend) (hc : w'.isClosed c = false) :
    w.isClosed c = false := by
  refine Bool.eq_false_iff.2 fun hclosed => ?_
  rw [show w'.isClosed c = true from h.closed c hclosed] at hc
  cases hc

end World

namespace Stand

variable [Backend D] [Backend.Lasting D] {s u s' : Stand D} {lost lost' : ConnId → Prop} {c : ConnId}

/-- Between two stands no open connection lost its seat, and none was opened that has no seat, but for the
`lost` ones. -/
structure Covers (lost : ConnId → Prop) (s s' : Stand D) : Prop where
  later : Backend.Later has s.world.backend s'.world.backend
  accounted : s.world.Accounted → s'.world.Accounted
  covers : s.world.Accounted → ∀ c ∈ s'.world.opened, s'.world.isClosed c = false →
    ¬ s'.seats.Holds (.direct c) → lost c ∨ c ∈ s.world.opened ∧ ¬ s.seats.Holds (.direct c)

theorem Covers.trans (h1 : s.Covers lost u) (h2 : u.Covers lost' s') : s.Covers (fun c => lost c ∨ lost' c) s' := by
  refine ⟨h1.later.trans h2.later, fun ha => h2.accounted (h1.accounted ha), fun ha c hc hopen hn => ?_⟩
  rcases h2.covers (h1.accounted ha) c hc hopen hn with hl | ⟨hc, hn⟩
  · exact .inl (.inr hl)
  · exact (h1.covers ha c hc (World.open_before h2.later hopen) hn).imp_left .inl

/-- Only what is open and has no seat can be lost. -/
theorem Covers.mono (h : s.Covers lost s') (hl : ∀ c ∈ s'.world.opened, s'.world.isClosed c = false →
    ¬ s'.seats.Holds (.direct c) → lost c → lost' c) : s.Covers lost' s' :=
  ⟨h.later, h.accounted, fun ha c hc hopen hn => (h.covers ha c hc hopen hn).imp_left (hl c hc hopen hn)⟩

/-- Steps that open nothing lose no more than what they take the seat from. -/
theorem Covers.of_steady (hs : s.world.Steady s'.world)
    (hl : s.world.Accounted → ∀ c ∈ s.world.opened, s'.world.isClosed c = false → s.seats.Holds (.direct c) →
      ¬ s'.seats.Holds (.direct c) → lost c) : s.Covers lost s' := by
  refine ⟨hs.later, hs.accounted, fun ha c hc hopen hn => ?_⟩
  rw [hs.opened] at hc
  by_cases hh : s.seats.Holds (.direct c)
  · exact .inl (hl ha c hc hopen hh hn)
  · exact .inr ⟨hc, hh⟩

/-- Steps that open nothing and move nothing lose nothing. -/
theorem Covers.still (hs : s.world.Steady s'.world) (h : s'.seats = s.seats) : s.Covers (fun _ => False) s' :=
  .of_steady hs fun _ _ _ _ hh hn => hn (h ▸ hh)

theorem Noted.covers (h : s.Noted s') : s.Covers (fun _ => False) s' := .still h.world.steady h.seats_eq

theorem Covers.refl (s : Stand D) : s.Covers (fun _ => False) s := .still (.refl _) rfl

/-- Nothing is lost in between. -/
theorem Covers.andThen (h1 : s.Covers (fun _ => False) u) (h2 : u.Covers lost s') : s.Covers lost s' :=
  (h1.trans h2).mono fun _ _ _ _ h => h.resolve_left id

theorem Covers.thenStill (h1 : s.Covers lost u) (h2 : u.Covers (fun _ => False) s') : s.Covers lost s' :=
  (h1.trans h2).mono fun _ _ _ _ h => h.resolve_right id

/-! ### What is kept of the current link -/

/-- The current link, if it is open, is kept, or it was left behind. -/
def Kept (s : Stand D) : Prop := ∀ c host, s.service.current = some (.direct c, host) →
  s.world.isClosed c = false → s.splitter.stale = some (.direct c) ∨ s.seats.Keeps (.direct c)

omit [Backend.Lasting D] in
theorem openSlot_eq_none {slot : Option HostLink} {host : Host} {w : World D} (h : openSlot w slot = none)
    (hs : slot = some (.direct c, host)) : w.isClosed c = true := by
  subst hs
  simpa [openSlot, World.isLinkClosed, Option.filter] using h

theorem Remembers.covers (h : s.Remembers u) : s.Covers (fun _ => False) u := by
  have hslot : ∀ {fits slot c host}, u.world.isClosed c = false → slot = some (.direct c, host) →
      s.remember fits slot = slot := by
    intro fits slot c host hopen hs
    refine (s.remember_eq fits slot).resolve_right fun ⟨hn, _⟩ => ?_
    rw [h.books.isClosed_eq, openSlot_eq_none hn hs] at hopen
    cases hopen
  refine .of_steady h.books.steady fun _ c _ hopen hh hn => hn ?_
  rw [h.seats_eq]
  rcases hh with (⟨host, hc⟩ | ⟨host, hw⟩ | ⟨host, hr⟩) | hst
  · exact .inl (.inl ⟨host, hc⟩)
  · exact .inl (.inr (.inl ⟨host, (hslot hopen hw).trans hw⟩))
  · exact .inl (.inr (.inr ⟨host, (hslot hopen hr).trans hr⟩))
  · exact .inr hst

omit [Backend.Lasting D] in
/-- A link that is kept for reading only since the current one was remembered is the current one. -/
theorem Remembers.holds_reader {l : Link} (hu : s.Remembers u) (hl : holds u.splitter.reader l = true) :
    holds s.splitter.reader l = true ∨ ∃ host, s.usable = some (l, host) ∧ host.isReader = true := by
  have hl : holds (s.remember Host.isReader s.splitter.reader) l = true := by
    rw [hu.splitter] at hl
    exact hl
  rcases s.remember_eq Host.isReader s.splitter.reader with hsame | ⟨-, k, hk, hrole, hnow⟩
  · exact .inl (hsame ▸ hl)
  · rw [hnow] at hl
    obtain ⟨host, ⟨⟩⟩ := holds_iff.1 hl
    exact .inr ⟨host, hk, hrole⟩

omit [Backend.Lasting D] in
/-- Once the usable current link is remembered it is kept. -/
theorem Remembers.kept (h : s.Remembers u) (ho : s.seats.Ordered) : u.Kept := by
  intro c host hc hopen
  have hcurrent : s.service.current = some (.direct c, host) := h.service ▸ hc
  have hopen : s.world.isClosed c = false := by rw [← h.books.isClosed_eq]; exact hopen
  -- the current link is stale, or it is usable and its role decides which slot keeps it
  by_cases hst : s.splitter.stale = some (.direct c)
  · exact .inl ((congrArg Seats.stale h.seats_eq).trans hst)
  have hcur : s.seats.IsCurrent (.direct c, host) := ⟨hcurrent, hst⟩
  have husable : s.usable = some (.direct c, host) := by
    simp [usable, Splitter.usable, hcurrent, Option.filter, World.isLinkClosed, hopen, isStale, hst]
  -- a slot that is empty takes the link, and one that holds it already still does
  have hkeeps : ∀ {slot : Option HostLink}, (slot = none ∨ holds slot (.direct c) = true) →
      ∃ host', (if (openSlot s.world slot).isNone then some (Link.direct c, host) else slot) =
        some (Link.direct c, host') := by
    rintro slot (rfl | hs)
    · exact ⟨host, rfl⟩
    · obtain ⟨host', rfl⟩ := holds_iff.1 hs
      refine ⟨host', ?_⟩
      simp [openSlot, Option.filter, World.isLinkClosed, hopen]
  right
  rw [h.seats_eq]
  cases hrole : host.isWriter with
  | false =>
    have hreader : host.isReader = true := by rw [Host.isReader_eq, hrole]; rfl
    obtain ⟨host', hk⟩ := hkeeps (ho.onReader _ hcur hreader)
    exact .inr ⟨host', (remember_of_fits husable hreader _).trans hk⟩
  | true =>
    have hreader : host.isReader = false := by rw [Host.isReader_eq, hrole]; rfl
    rcases ho.onWriter _ hcur hrole with hw | hw | hr
    · obtain ⟨host', hk⟩ := hkeeps (.inl hw)
      exact .inl ⟨host', (remember_of_fits husable hrole _).trans hk⟩
    · obtain ⟨host', hk⟩ := hkeeps (.inr hw)
      exact .inl ⟨host', (remember_of_fits husable hrole _).trans hk⟩
    · obtain ⟨host', hr⟩ := holds_iff.1 hr
      exact .inr ⟨host', (remember_of_not_fits husable hreader _).trans hr⟩

/-- The links are where they were, but for the one to the writer where no open one was kept. -/
structure MovesWriter (s s' : Stand D) : Prop where
  current : s'.service.current = s.service.current
  reader : s'.splitter.reader = s.splitter.reader
  stale : s'.splitter.stale = s.splitter.stale
  writer : s'.splitter.writer = s.splitter.writer ∨ openSlot s.world s.splitter.writer = none

omit [Backend.Lasting D] in
theorem MovesWriter.of_seats (h : s'.seats = s.seats) : s.MovesWriter s' :=
  ⟨congrArg Seats.current h, congrArg Seats.reader h, congrArg Seats.stale h, .inl (congrArg Seats.writer h)⟩

omit [Backend.Lasting D] in
theorem MovesWriter.of_closed {l : HostLink} (hn : openSlot s.world s.splitter.writer = none)
    (h : s'.seats = { s.seats with writer := some l }) : s.MovesWriter s' :=
  ⟨congrArg Seats.current h, congrArg Seats.reader h, congrArg Seats.stale h, .inr hn⟩

theorem Kept.movesWriter (h : s.Kept) (hs : Backend.Later has s.world.backend s'.world.backend)
    (hm : s.MovesWriter s') : s'.Kept := by
  intro c host hc hopen
  have hopen := World.open_before hs hopen
  rcases h c host (hm.current.symm.trans hc) hopen with hst | ⟨host', hw⟩ | ⟨host', hr⟩
  · exact .inl (hm.stale.trans hst)
  · rcases hm.writer with hsame | hn
    · exact .inr (.inl ⟨host', hsame.trans hw⟩)
    · rw [openSlot_eq_none hn hw] at hopen
      cases hopen
  · exact .inr (.inr ⟨host', hm.reader.trans hr⟩)

theorem Kept.later (h : s.Kept) (hs : Backend.Later has s.world.backend s'.world.backend)
    (hseats : s'.seats = s.seats) : s'.Kept :=
  h.movesWriter hs (.of_seats hseats)

end Stand

/-! ## Single steps -/

namespace Service

variable {others : World D → World D → Prop} [Backend D] [Backend.Lasting D] [Lasting others] {p q : Place D}

/-- Without pools an attempt to connect opens the connection that it ends with, and no other. -/
theorem ends_connect_opened {host : Host} {props : Properties} {r : Except RouteError Link}
    (hp : p.service.providers.pooled = none) (h : Act.Ends others (Service.connect host props) p r q) :
    (∃ e, r = .error e ∧ p.world.Steady q.world) ∨
      ∃ c, r = .ok (.direct c) ∧ q.world.opened = c :: p.world.opened ∧
        Backend.Later has p.world.backend q.world.backend ∧ has c q.world.backend := by
  obtain ⟨v, u, hv, h⟩ := Act.ends_bind.1 h
  obtain ⟨rfl, rfl⟩ := Act.ends_get.1 hv
  exact Providers.ends_connect_opened hp (Act.ends_world.1 h).1

end Service

namespace Split

variable {others : World D → World D → Prop} [Backend D] [Backend.Lasting D] {s u s' : Stand D} {a : Unit}

theorem still_pick {n : Nat} {i : Option Nat} (h : Split.Ends others (pick n) s i s') :
    s.Covers (fun _ => False) s' ∧ s'.seats = s.seats ∧ s'.service = s.service := by
  rw [(ends_pick h).2]
  exact ⟨.still (.refl _) rfl, rfl, rfl⟩

theorem still_countFallback (h : Split.Ends others countFallback s a s') :
    s.Covers (fun _ => False) s' ∧ s'.seats = s.seats := by
  obtain ⟨-, -, hn⟩ := ends_countFallback h
  have hseats := (leads_countFallback h).seats
  exact ⟨.still hn.steady hseats, hseats⟩

variable [Lasting others]

/-! ## Changing the links -/

/-- Another link becomes current, and the one that was is kept. -/
theorem covers_makeCurrent {l : HostLink} (hk : s.Kept) (h : Split.Ends others (makeCurrent l) s a s') :
    s.Covers (fun _ => False) s' := by
  have hsteady : s.world.Steady s'.world := World.lenient_steady.keeps_makeCurrent l h
  obtain ⟨p, ha, hl⟩ := ends_makeCurrent h
  obtain rfl := hl.seats
  refine .of_steady hsteady fun _ c _ hopen hh hn => hn ?_
  have hslots : s.seats.Keeps (.direct c) ∨ s.seats.stale = some (.direct c) → s'.seats.Holds (.direct c) := by
    intro hh
    generalize s'.seats = p at ha
    cases ha with
    | moved => exact hh.imp_left .inr
    | there => exact hh.imp_left .inr
  rcases hh with (⟨host, hc⟩ | hkeeps) | hst
  · exact hslots (hk c host hc (World.open_before hsteady.later hopen)).symm
  · exact hslots (.inl hkeeps)
  · exact hslots (.inr hst)

/-- A link that is kept for reading takes the place of another, and becomes current. -/
theorem covers_readFrom {l : HostLink} (hk : s.Kept) (h : Split.Ends others (readFrom l) s a s') :
    s.Covers (fun c => holds s.splitter.reader (.direct c) = true) s' := by
  have hsteady : s.world.Steady s'.world := World.lenient_steady.keeps_readFrom l h
  obtain ⟨p, ha, hl⟩ := ends_readFrom h
  obtain rfl := hl.seats
  refine .of_steady hsteady fun _ c _ hopen hh hn => ?_
  have hwriter : s'.seats.writer = s.seats.writer := ha.writer_eq
  have hstale : s'.seats.stale = s.seats.stale := ha.stale_eq
  rcases hh.of_lost hn hwriter hstale with ⟨host, hc⟩ | hr
  · -- the link that was current is kept, or it is stale
    rcases hk c host hc (World.open_before hsteady.later hopen) with hst | ⟨host', hw⟩ | hr
    · exact absurd (.inr (hstale.trans hst)) hn
    · exact absurd (.inl (.inr (.inl ⟨host', hwriter.trans hw⟩))) hn
    · exact holds_iff.2 hr
  · exact hr

/-! ## Finding links -/

/-- An attempt to connect opens the connection that it ends with. -/
theorem covers_connect {host : Host} {props : Properties} {r : Except RouteError Link}
    (hp : s.service.providers.pooled = none)
    (h : Split.Ends others (Split.act (Service.connect host props)) s r s') :
    s.Covers (fun c => r = .ok (.direct c)) s' ∧ s'.seats = s.seats ∧ s'.service = s.service := by
  obtain ⟨h, hs⟩ := ends_act.1 h
  have hv := (Service.ends_connect h).1
  have hseats : s'.seats = s.seats := by rw [Stand.seats, hv, hs]; rfl
  refine ⟨?_, hseats, hv⟩
  rcases Service.ends_connect_opened hp h with ⟨e, -, hsteady⟩ | ⟨c, rfl, hopened, hlater, hhas⟩
  · exact (Stand.Covers.still hsteady hseats).mono fun _ _ _ _ hf => hf.elim
  · refine ⟨hlater, fun ha d hd => ?_, fun ha d hd hopen hn => ?_⟩
    · rw [show s'.world.opened = _ from hopened] at hd
      rcases List.mem_cons.1 hd with rfl | hd
      · exact hhas
      · exact hlater.has d (ha d hd)
    · rw [show s'.world.opened = _ from hopened] at hd
      rcases List.mem_cons.1 hd with rfl | hd
      · exact .inl rfl
      · exact .inr ⟨hd, hseats ▸ hn⟩

/-- A link that is kept for writing takes the place of one that is closed. -/
theorem covers_setWriter_of_closed {l : HostLink} (hn : openSlot s.world s.splitter.writer = none)
    (hlater : Backend.Later has s.world.backend u.world.backend) (hseats : u.seats = s.seats)
    (h : Split.Ends others (setWriter (some l)) u a s') :
    u.Covers (fun _ => False) s' ∧ s'.seats = { s.seats with writer := some l } := by
  have hsteady : u.world.Steady s'.world := World.lenient_steady.keeps_setWriter _ h
  have hl := leads_setWriter h
  rw [hseats] at hl
  refine ⟨.of_steady hsteady fun _ c _ hopen hh hn' => hn' ?_, hl.seats⟩
  have hopen := World.open_before (hlater.trans hsteady.later) hopen
  rw [hl.seats]
  rw [hseats] at hh
  rcases hh with (hc | ⟨host, hw⟩ | hr) | hst
  · exact .inl (.inl hc)
  · rw [Stand.openSlot_eq_none hn hw] at hopen
    cases hopen
  · exact .inl (.inr (.inr hr))
  · exact .inr hst

end Split

namespace Stand

open Split

variable {others : World D → World D → Prop} [Backend D] [Backend.Lasting D] [Lasting others] {s s' : Stand D}

/-- A search opens the connection that it ends with, and no other. -/
theorem Seeks.covers {room : Nat} {hosts : List Host} {found : Option HostLink}
    (h : Seeks others room hosts s found s') (hp : s.service.providers.pooled = none) :
    s.Covers (fun c => ∃ host, found = some (.direct c, host)) s' ∧ s'.seats = s.seats := by
  induction h with
  | spent => exact ⟨(Covers.refl _).mono fun _ _ _ _ hf => hf.elim, rfl⟩
  | unpicked picks =>
    obtain ⟨hpick, hseats, -⟩ := still_pick picks
    exact ⟨hpick.mono fun _ _ _ _ hf => hf.elim, hseats⟩
  | connects picks _ attempt =>
    obtain ⟨hpick, hseats, hservice⟩ := still_pick picks
    obtain ⟨hattempt, hseats', -⟩ := covers_connect (by rw [hservice]; exact hp) attempt
    refine ⟨(hpick.andThen hattempt).mono fun c _ _ _ he => ?_, hseats'.trans hseats⟩
    cases he
    exact ⟨_, rfl⟩
  | misses picks _ attempt noted _ ih =>
    obtain ⟨hpick, hseats, hservice⟩ := still_pick picks
    obtain ⟨hattempt, hseats', hservice'⟩ := covers_connect (by rw [hservice]; exact hp) attempt
    obtain ⟨hrest, hseats''⟩ := ih (by rw [noted.service, hservice', hservice]; exact hp)
    have hmiss : Covers (fun _ => False) _ _ := (hpick.andThen hattempt).mono fun _ _ _ _ he => nomatch he
    refine ⟨(hmiss.andThen noted.covers).andThen hrest, ?_⟩
    rw [hseats'', noted.seats_eq, hseats', hseats]

theorem Fetches.covers {r : Except RouteError HostLink} (h : s.Fetches others r s')
    (hp : s.service.providers.pooled = none) : s.Covers (fun _ => False) s' ∧ s.MovesWriter s' := by
  cases h with
  | kept => exact ⟨.refl _, .of_seats rfl⟩
  | current shut _ _ sets =>
    obtain ⟨hset, hseats⟩ := covers_setWriter_of_closed shut (.refl _) rfl sets
    exact ⟨hset, .of_closed shut hseats⟩
  | missing => exact ⟨.refl _, .of_seats rfl⟩
  | refused _ _ _ attempt =>
    obtain ⟨hattempt, hseats, -⟩ := covers_connect hp attempt
    exact ⟨hattempt.mono fun _ _ _ _ he => (nomatch he), .of_seats hseats⟩
  | dialed shut _ _ attempt sets =>
    obtain ⟨hattempt, hseats, -⟩ := covers_connect hp attempt
    obtain ⟨hset, hseats'⟩ := covers_setWriter_of_closed shut hattempt.later hseats sets
    -- the connection that was opened is the one that is kept
    refine ⟨(hattempt.thenStill hset).mono fun c _ _ hn he => hn ?_, .of_closed shut hseats'⟩
    cases he
    rw [hseats']
    exact .inl (.inr (.inl ⟨_, rfl⟩))

end Stand

theorem Split.covers_connectReader {others : World D → World D → Prop} [Backend D] [Backend.Lasting D]
    [Lasting others] {s s' : Stand D} {found : Option HostLink} (hp : s.service.providers.pooled = none)
    (h : Split.Ends others connectReader s found s') :
    s.Covers (fun c => ∃ host, found = some (.direct c, host)) s' ∧ s'.seats = s.seats :=
  (seeks_connectReader h).covers hp

end ReplicaRouter
