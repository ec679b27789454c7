import ReplicaRouter.Proofs.Searching
/-
What is kept once a switch has gone through. A link to a writer that is read from is also the one that is kept for
writing, as long as it is open; so whichever link a switch makes current, a link that it saw open or opened itself is
kept for its host's role.
Main statements: `Tour.paired`, and `Split.reseats_switchTo` tells what a switch leaves in the places.
-/
namespace ReplicaRouter

variable {D : Type} {others : World D → World D → Prop}

open Splitter

/-! ## Worlds that age -/

namespace World

variable [Backend D] [Backend.Lasting D] {u v w : World D} {l : Link}

/-- Between two worlds links were provided and closed, and none that was closed is open again. -/
structure Ages (w w' : World D) : Prop where
  grows : w.Grows w'
  lapses : w.Lapses w'

theorem Ages.refl (w : World D) : w.Ages w := ⟨.refl w, .refl _⟩

theorem Ages.trans (h1 : u.Ages v) (h2 : v.Ages w) : u.Ages w :=
  ⟨h1.grows.trans h2.grows, h1.lapses.trans h2.lapses⟩

/-- A known link that is open was open before. -/
theorem Ages.open_before (h : v.Ages w) (known : v.Knows l) (hopen : w.isLinkClosed l = false) :
    v.isLinkClosed l = false := by
  refine Bool.eq_false_iff.2 fun hclosed => ?_
  rw [isLinkClosed_of_lapses h.grows h.lapses known hclosed] at hopen
  cases hopen

theorem Books.ages (h : w.Books v) : w.Ages v := ⟨h.grows, h.lapses⟩

theorem Noted.ages (h : w.Noted v) : w.Ages v := h.books.ages

end World

variable [Backend D] [Backend.Lasting D] [Lasting others] {s t u v w s' : Stand D} {l : HostLink} {a : Unit}
  {r : Except RouteError Unit}

namespace Split

theorem ages_makeCurrent (h : Split.Ends others (makeCurrent l) s a s') : s.world.Ages s'.world := by
  obtain ⟨_, -, hleads⟩ := ends_makeCurrent h
  exact ⟨hleads.upkeep.grows, (World.patient_lapses others).keeps_makeCurrent l h⟩

theorem ages_readFrom (h : Split.Ends others (readFrom l) s a s') : s.world.Ages s'.world := by
  obtain ⟨_, -, hleads⟩ := ends_readFrom h
  exact ⟨hleads.upkeep.grows, (World.patient_lapses others).keeps_readFrom l h⟩

theorem ages_setWriter {slot : Option HostLink} (h : Split.Ends others (setWriter slot) s a s') :
    s.world.Ages s'.world :=
  ⟨(leads_setWriter h).upkeep.grows, (World.patient_lapses others).keeps_setWriter slot h⟩

theorem ages_connect {host : Host} {props : Properties} {c : Except RouteError Link}
    (h : Split.Ends others (Split.act (Service.connect host props)) s c s') : s.world.Ages s'.world :=
  ⟨(ends_connect h).1.upkeep.grows, keeps_act ((World.patient_lapses others).keeps_connect host props) h⟩

theorem ages_connectReader {found : Option HostLink} (h : Split.Ends others connectReader s found s') :
    s.world.Ages s'.world :=
  ⟨(ends_connectReader h).1.upkeep.grows,
    keeps_bind keeps_hosts (fun _ => (World.patient_lapses others).keeps_tryReaders _ _) h⟩

/-- Once a turn has ended, at most the link that was left behind is closed. -/
theorem ages_after (h : (∃ e, r = .error e ∧ v.Noted s') ∨
      r = .ok () ∧ ∃ t, Split.Ends others releaseStale v () t ∧ t.Noted s') : v.world.Ages s'.world := by
  rcases h with ⟨e, -, hn⟩ | ⟨-, t, ht, hn⟩
  · exact hn.world.ages
  · refine World.Ages.trans ⟨?_, (World.patient_lapses others).keeps_releaseStale ht⟩ hn.world.ages
    rcases (releases_releaseStale ht).leads with ⟨-, rfl⟩ | ⟨-, hleads, -⟩
    · exact .refl _
    · exact hleads.upkeep.grows

end Split

namespace Stand

/-! ## Finding a link to the writer -/

namespace Fetches

omit [Backend.Lasting D] [Lasting others] in
theorem slots_of_error [Bystanders others] {e : RouteError} (h : s.Fetches others (.error e) s') :
    s'.splitter = s.splitter := by
  cases h with
  | missing => rfl
  | refused _ _ _ attempt => exact (Split.ends_act.1 attempt).2

omit [Backend.Lasting D] [Lasting others] in
/-- A link to the writer that was found is kept. -/
theorem slots [Bystanders others] (h : s.Fetches others (.ok l) s') :
    s'.service = s.service ∧ s'.splitter = { s.splitter with writer := some l } := by
  cases h with
  | kept slot =>
    have hwriter : s.splitter.writer = some l := (Option.filter_eq_some_iff.1 slot).1
    exact ⟨rfl, by rw [← hwriter]⟩
  | current _ _ _ sets => exact Split.ends_setWriter sets
  | dialed _ _ _ attempt sets =>
    obtain ⟨hattempt, hx⟩ := Split.ends_act.1 attempt
    obtain ⟨hv, hx'⟩ := Split.ends_setWriter sets
    exact ⟨hv.trans (Service.ends_connect hattempt).1, by rw [hx', hx]⟩

omit [Backend.Lasting D] [Lasting others] in
/-- Another link is kept for writing only where no open one was. -/
theorem kept_or_shut [Bystanders others] {c : Except RouteError HostLink} (h : s.Fetches others c s') :
    s'.splitter.writer = s.splitter.writer ∨ openSlot s.world s.splitter.writer = none := by
  cases h with
  | kept | missing => exact .inl rfl
  | current shut | dialed shut | refused shut => exact .inr shut

theorem ages {c : Except RouteError HostLink} (h : s.Fetches others c s') : s.world.Ages s'.world := by
  cases h with
  | kept | missing => exact .refl _
  | current _ _ _ sets => exact Split.ages_setWriter sets
  | refused _ _ _ attempt => exact Split.ages_connect attempt
  | dialed _ _ _ attempt sets => exact (Split.ages_connect attempt).trans (Split.ages_setWriter sets)

end Fetches

/-! ## Remembering -/

omit [Backend.Lasting D] [Lasting others] in
/-- Remembering the current link brings no other within reach. -/
theorem Remembers.renews (h : s.Remembers u) : s.Renews u := by
  have hslot : ∀ {fits slot k}, s.remember fits slot = some k → slot = some k ∨ s.usable = some k := by
    intro fits slot k hk
    rcases s.remember_eq fits slot with hsame | ⟨-, c, hc, -, hnow⟩
    · exact .inl (hsame.symm.trans hk)
    · exact .inr (hc.trans (hnow.symm.trans hk))
  have husable : ∀ {k}, s.usable = some k → s.seats.Reaches k.1 := fun hk =>
    (isCurrent_of_usable hk).reaches
  refine ⟨h.books.grows, by rw [h.service], fun k hk => .inl ?_, fun k hk => .inl ?_⟩
  · rw [h.seats_eq] at hk
    rcases hk with hcurrent | ⟨host, hw⟩ | ⟨host, hr⟩
    · exact .inl hcurrent
    · exact (hslot hw).elim (fun hw => .inr (.inl ⟨host, hw⟩)) husable
    · exact (hslot hr).elim (fun hr => .inr (.inr ⟨host, hr⟩)) husable
  · rw [h.seats_eq] at hk
    exact hk

omit [Backend.Lasting D] [Lasting others] in
/-- Once the usable current link is remembered, an open link is kept for its host's role. -/
theorem Remembers.slotFor (h : s.Remembers u) (husable : s.usable = some l) :
    ∃ k, u.splitter.slotFor l.2 = some k ∧ s.seats.Reaches k.1 ∧ s.world.isLinkClosed k.1 = false := by
  obtain ⟨hcurrent, hopen, hstale⟩ := usable_eq_some husable
  have hkept : ∀ {slot : Option HostLink}, (∀ k, slot = some k → s.seats.Keeps k.1) →
      ∃ k, (if (openSlot s.world slot).isNone then some l else slot) = some k ∧ s.seats.Reaches k.1 ∧
        s.world.isLinkClosed k.1 = false := by
    intro slot hkeeps
    cases hslot : openSlot s.world slot with
    | none => exact ⟨l, rfl, Seats.IsCurrent.reaches ⟨hcurrent, hstale⟩, hopen⟩
    | some k =>
      obtain ⟨hsome, hk⟩ := Option.filter_eq_some_iff.1 hslot
      exact ⟨k, hsome, .inr (hkeeps k hsome), by simpa using hk⟩
  rw [h.splitter, Splitter.slotFor]
  cases hrole : l.2.isWriter with
  | true =>
    rw [if_pos rfl, remembered, remember_of_fits husable hrole]
    exact hkept fun k hk => .inl ⟨k.2, hk⟩
  | false =>
    have hreader : l.2.isReader = true := by rw [Host.isReader_eq, hrole]; rfl
    rw [if_neg Bool.false_ne_true, remembered, remember_of_fits husable hreader]
    exact hkept fun k hk => .inr ⟨k.2, hk⟩

/-! ## The link that is read from and written to -/

/-- A link to a writer that is read from is the one that is kept for writing, if it is open. -/
def Paired (s : Stand D) : Prop :=
  ∀ l, s.splitter.reader = some l → l.2.isWriter = true → s.world.isLinkClosed l.1 = false →
    s.splitter.writer = some l

namespace Paired

omit [Backend.Lasting D] [Lasting others] in
theorem of_same (h : s.splitter.reader = s.splitter.writer) : s.Paired := fun _ hl _ _ => h ▸ hl

omit [Backend.Lasting D] [Lasting others] in
theorem of_reader (h : ∀ l, s.splitter.reader = some l → l.2.isReader = true) : s.Paired := fun l hl hrole _ => by
  have hreader := h l hl
  rw [Host.isReader_eq, hrole] at hreader
  cases hreader

omit [Lasting others] in
/-- Links stay paired as long as the one that is read from stays, and an open one that is kept for writing. -/
theorem since (hp : s.Paired) (known : s.Known) (hage : s.world.Ages s'.world)
    (hreader : s'.splitter.reader = s.splitter.reader)
    (hwriter : s'.splitter.writer = s.splitter.writer ∨ openSlot s.world s.splitter.writer = none) : s'.Paired := by
  intro l hl hrole hopen
  rw [hreader] at hl
  have hbefore := hage.open_before (known l.1 (.inl (.inr (.inr ⟨l.2, hl⟩)))) hopen
  have hkept := hp l hl hrole hbefore
  rcases hwriter with hsame | hshut
  · rw [hsame]; exact hkept
  · rw [hkept] at hshut
    simp [openSlot, Option.filter, hbefore] at hshut

end Paired

omit [Lasting others] in
theorem Noted.paired (h : s.Noted u) (known : s.Known) (hp : s.Paired) : u.Paired :=
  hp.since known h.world.ages (by rw [h.splitter]) (.inl (by rw [h.splitter]))

omit [Lasting others] in
theorem Remembers.paired (h : s.Remembers u) (known : s.Known) (hp : s.Paired) : u.Paired := by
  have hwriter : u.splitter.writer = s.remember Host.isWriter s.splitter.writer := by rw [h.splitter]; rfl
  have hreader : u.splitter.reader = s.remember Host.isReader s.splitter.reader := by rw [h.splitter]; rfl
  rcases s.remember_eq Host.isReader s.splitter.reader with hsame | ⟨-, l, -, hrole, hnow⟩
  · refine hp.since known h.books.ages (hreader.trans hsame) ?_
    rw [hwriter]
    exact (s.remember_eq Host.isWriter s.splitter.writer).imp_right And.left
  · refine .of_reader fun k hk => ?_
    rw [hreader, hnow] at hk
    obtain rfl := Option.some.inj hk
    exact hrole

theorem Settles.paired (h : s.Settles others r s') (known : s.Known) (hp : s.Paired) : s'.Paired := by
  cases h with
  | fetches fetches reads =>
    obtain ⟨-, -, hx⟩ := Split.lands_readFrom reads
    refine .of_same ?_
    rw [hx, fetches.slots.2]
  | fails fetches =>
    have hx := fetches.slots_of_error
    exact hp.since known fetches.ages (by rw [hx]) (.inl (by rw [hx]))

theorem Leaves.paired (h : s.Leaves others r s') (known : s.Known) (hp : s.Paired) : s'.Paired := by
  cases h with
  | reuses slot noted arrives =>
    obtain ⟨-, -, hx⟩ := Split.lands_makeCurrent arrives
    refine hp.since known (noted.world.ages.trans (Split.ages_makeCurrent arrives)) ?_ (.inl ?_)
    · rw [hx, noted.splitter]
    · rw [hx, noted.splitter]
  | @opens l _ _ _ shut search noted reads =>
    obtain ⟨-, -, hx⟩ := Split.lands_readFrom reads
    refine .of_reader fun k hk => ?_
    rw [hx] at hk
    obtain rfl : l = k := Option.some.inj hk
    exact ((Split.ends_connectReader search).2 l rfl).2
  | fallsBack shut search fetches noted counts reads =>
    obtain ⟨-, -, hx⟩ := Split.lands_readFrom reads
    obtain ⟨-, hcounts, -⟩ := Split.ends_countFallback counts
    refine .of_same ?_
    rw [hx, hcounts, noted.splitter, fetches.slots.2]
  | fails shut search fetches =>
    obtain ⟨-, hsearch, -⟩ := Split.tries_connectReader search
    have hx := fetches.slots_of_error
    refine hp.since known ((Split.ages_connectReader search).trans fetches.ages) ?_ (.inl ?_)
    · rw [hx, hsearch]
    · rw [hx, hsearch]

theorem TurnsToReader.paired (h : s.TurnsToReader others u r s') (known : u.Known) (hp : u.Paired) : s'.Paired := by
  cases h with
  | stays | refused => exact hp
  | shares _ _ _ _ sets =>
    refine .of_same ?_
    rw [(Split.ends_setReader sets).2]
  | settles _ _ _ settles => exact settles.paired known hp
  | leaves _ _ _ leaves => exact leaves.paired known hp

theorem TurnsToWriter.paired (h : s.TurnsToWriter others u r s') (known : u.Known) (hp : u.Paired) : s'.Paired := by
  cases h with
  | stays | refused => exact hp
  | fetches _ _ fetches noted arrives =>
    obtain ⟨-, -, hx⟩ := Split.lands_makeCurrent arrives
    have hage := fetches.ages.trans (noted.world.ages.trans (Split.ages_makeCurrent arrives))
    refine hp.since known hage ?_ ?_
    · rw [hx, noted.splitter, fetches.slots.2]
    · rw [hx, noted.splitter]
      exact fetches.kept_or_shut
  | fails _ _ fetches =>
    have hx := fetches.slots_of_error
    exact hp.since known fetches.ages (by rw [hx]) (.inl (by rw [hx]))

end Stand

/-! ## Switches, calls and tours -/

namespace Split

variable {readOnly : Bool}

omit [Backend.Lasting D] [Lasting others] in
/-- A turn brings only new links within reach. -/
theorem renews_turn [Bystanders others]
    (h : Split.Ends others (if readOnly then switchToReader else switchToWriter) s r v) : s.Renews v := by
  obtain ⟨q, hswitches, hleads⟩ := switches_turn h
  refine ⟨hleads.upkeep.grows, hleads.providers, fun l hl => ?_, fun l hl => .inl ?_⟩
  · rw [hleads.seats] at hl; exact hswitches.reaches hl
  · rw [hleads.seats] at hl; exact hswitches.stale_eq ▸ hl

theorem paired_switchTo (h : Split.Ends others (switchTo readOnly) s r s') (known : s.Known) (hp : s.Paired) :
    s'.Paired := by
  obtain ⟨s₁, v, hn, hturn, hafter⟩ := ends_turn h
  have known₁ := hn.renews.keepsKnown known
  have hp₁ := hn.paired known hp
  have hv : v.Paired := by
    cases readOnly with
    | true =>
      obtain ⟨u, hrecalls, hturn⟩ := turns_switchToReader hturn
      have hu := hrecalls.remembers
      exact hturn.paired (hu.renews.keepsKnown known₁) (hu.paired known₁ hp₁)
    | false =>
      obtain ⟨u, hrecalls, hturn⟩ := turns_switchToWriter hturn
      have hu := hrecalls.remembers
      exact hturn.paired (hu.renews.keepsKnown known₁) (hu.paired known₁ hp₁)
  obtain ⟨-, hx, -⟩ := calm_after hafter
  exact hv.since ((renews_turn hturn).keepsKnown known₁) (ages_after hafter) (by rw [hx]) (.inl (by rw [hx]))

end Split

namespace Stand

theorem Mends.paired (h : s.Mends others r s') (known : s.Known) (hp : s.Paired) : s'.Paired := by
  cases h with
  | sound => exact hp
  | switches _ noted switches =>
    exact Split.paired_switchTo switches (noted.renews.keepsKnown known) (noted.paired known hp)

theorem Weighs.paired {op : Operation} (h : s.Weighs others op s') (known : s.Known) (hp : s.Paired) :
    s'.Paired := by
  cases h with
  | stays => exact hp
  | rotates _ rotates =>
    obtain ⟨q, hrotates, hleads⟩ := Split.ends_rotateReader rotates
    have hage : s.world.Ages s'.world :=
      ⟨hleads.upkeep.grows, (World.patient_lapses others).keeps_rotateReader rotates⟩
    have hreader : s'.splitter.reader = q.reader := congrArg Seats.reader hleads.seats
    have hwriter : s'.splitter.writer = q.writer := congrArg Seats.writer hleads.seats
    cases hrotates with
    | stays => exact hp.since known hage hreader (.inl hwriter)
    | moves _ hrole arrives =>
      refine .of_reader fun l hl => ?_
      rw [hreader, arrives.reader_eq] at hl
      obtain rfl := Option.some.inj hl
      exact hrole

theorem Enters.paired {op : Operation} {hd : Split.OperationHandling D} (h : s.Enters others op hd s')
    (known : s.Known) (hp : s.Paired) : s'.Paired := by
  cases h with
  | unswitched switches => exact Split.paired_switchTo switches known hp
  | @switched _ u switches =>
    have hu : u.Paired := Split.paired_switchTo switches known hp
    exact hu
  | closes => exact hp
  | unmended _ mends => exact mends.paired known hp
  | mended _ mends weighs => exact weighs.paired (mends.recovers.renews.keepsKnown known) (mends.paired known hp)

end Stand

theorem Leg.Taken.paired {k : Leg D} (h : k.Taken others) (known : k.before.toStand.Known)
    (hp : k.before.toStand.Paired) : k.after.toStand.Paired := by
  rcases h.course with ⟨_, stays, _, _⟩ | ⟨_, _, _, _, entered⟩ | @⟨s₁, s₂, ans, passes⟩
  · rw [stays]; exact hp
  · exact (Split.enters_onExecute entered).paired known hp
  · have hp₁ := (Split.enters_onExecute passes.entered).paired known hp
    have hnone : k.after.seats.reader = none → k.after.toStand.Paired := fun hnone =>
      .of_reader fun l hl => nomatch hnone.symm.trans hl
    by_cases hop : k.op = .close
    · exact hnone (by rw [passes.closes hop])
    · rcases passes.leaves hop with ⟨-, hseats⟩ | ⟨-, hseats, -⟩
      · have hperformed : s₁.world.Lapses s₂.world := (World.patient_lapses others).keeps_execute _ passes.performed
        have hleft : s₂.world.Lapses k.after.world := (World.patient_lapses others).keeps_leaveFor _ _ passes.left
        exact hp₁.since (passes.prepares.renews.keepsKnown known) ⟨passes.grows_after, hperformed.trans hleft⟩
          (congrArg Seats.reader hseats) (.inl (congrArg Seats.writer hseats))
      · exact hnone (by rw [hseats])

/-- Along a tour the links that are read from and written to are paired. -/
theorem Tour.paired {s s' : Session D} {ds : List (Demand D)} (ho : s.Opens others) (h : Tour others s ds s') :
    s'.toStand.Paired := by
  induction h with
  | start =>
    obtain ⟨l, hseats, -⟩ := ho.fresh
    refine .of_reader fun k hk => ?_
    rw [show s.splitter.reader = none from congrArg Seats.reader hseats] at hk
    cases hk
  | aside tour change _ ih =>
    exact ih.since (tour.known ho) ⟨(Bystanders.aside change).upkeep.grows, Lasting.later change⟩ rfl (.inl rfl)
  | call tour taken ih => exact taken.paired (tour.known ho) ih
  | switch tour switches ih => exact Split.paired_switchTo switches (tour.known ho) ih

/-! ## What a switch leaves in the places -/

/-- Whether a link counts as one to the role that a mode asks for. -/
def Splitter.isOn (x : Splitter) (readOnly : Bool) (l : HostLink) : Bool :=
  if readOnly then x.isOnReader l else x.isOnWriter l

namespace Stand

/-- Between two stands the link was within reach and open at first, or it is new. -/
def Sees (s s' : Stand D) (l : Link) : Prop := s.seats.Reaches l ∧ s.world.isLinkClosed l = false ∨ s.Obtains s' l

/-- Between two stands the current link came to be one that the mode asks for, and one is kept for its host's role;
both were seen open, or are new. -/
def Reseats (s : Stand D) (readOnly : Bool) (s' : Stand D) : Prop :=
  ∃ c k, s'.service.current = some c ∧ s'.splitter.isOn readOnly c = true ∧ s'.splitter.slotFor c.2 = some k ∧
    s.Sees s' c.1 ∧ s.Sees s' k.1

variable {readOnly : Bool} {k : Link}

namespace Sees

omit [Backend.Lasting D] [Lasting others] in
theorem later (h : s.Sees u k) (hg : u.world.Grows s'.world) : s.Sees s' k := h.imp_right fun hn => hn.later hg

omit [Lasting others] in
theorem since (h : u.Sees s' k) (known : s.Known) (hr : s.Renews u) (hl : s.world.Lapses u.world)
    (hg : u.world.Grows s'.world) : s.Sees s' k := by
  rcases h with ⟨hreach, hopen⟩ | hn
  · rcases hr.reaches k hreach with hbefore | hn
    · exact .inl ⟨hbefore, World.Ages.open_before ⟨hr.grows, hl⟩ (known k (.inl hbefore)) hopen⟩
    · exact .inr (hn.later hg)
  · exact .inr (hn.since hr.grows hr.providers)

omit [Backend.Lasting D] [Lasting others] in
theorem of_usable (h : s.usable = some l) (s' : Stand D) : s.Sees s' l.1 :=
  .inl ⟨(isCurrent_of_usable h).reaches, (usable_eq_some h).2.1⟩

end Sees

omit [Backend.Lasting D] [Lasting others] in
/-- A link to the writer that is found was seen open, or is new. -/
theorem Fetches.sees [Bystanders others] (h : s.Fetches others (.ok l) s') : s.Sees s' l.1 := by
  cases h with
  | kept slot =>
    obtain ⟨hslot, hopen⟩ := Option.filter_eq_some_iff.1 slot
    exact .inl ⟨.inr (.inl ⟨l.2, hslot⟩), by simpa using hopen⟩
  | current _ usable => exact .of_usable usable _
  | dialed _ _ _ attempt sets =>
    exact .inr (((Split.ends_connect attempt).2 _ rfl).later (Split.leads_setWriter sets).upkeep.grows)

omit [Backend.Lasting D] [Lasting others] in
/-- A link that is found for writing leads to a writer. -/
theorem Fetches.role (hu : s.Remembers u) (ho : s.seats.Ordered) (h : u.Fetches others (.ok l) s') :
    l.2.isWriter = true := by
  cases h with
  | kept slot =>
    have hslot : u.splitter.writer = some l := (Option.filter_eq_some_iff.1 slot).1
    have hwriter : u.splitter.writer = s.remember Host.isWriter s.splitter.writer := by rw [hu.splitter]; rfl
    rw [hwriter] at hslot
    rcases s.remember_eq Host.isWriter s.splitter.writer with hsame | ⟨-, c, -, hrole, hnow⟩
    · exact ho.writerRole l (hsame.symm.trans hslot)
    · obtain rfl := Option.some.inj (hnow.symm.trans hslot)
      exact hrole
  | current _ _ role => exact role
  | dialed _ _ first => exact List.find?_some first

/-! ### The ways to go through -/

namespace Reseats

omit [Backend.Lasting D] [Lasting others] in
/-- The usable current link is kept. -/
theorem of_stay (hu : s.Remembers u) (usable : s.usable = some l) (fits : u.splitter.isOn readOnly l = true) :
    s.Reseats readOnly u := by
  obtain ⟨k, hk, hreach, hopen⟩ := hu.slotFor usable
  refine ⟨l, k, ?_, fits, hk, .of_usable usable _, .inl ⟨hreach, hopen⟩⟩
  rw [hu.service]
  exact (usable_eq_some usable).1

omit [Backend.Lasting D] [Lasting others] in
/-- One link is kept for both roles. -/
theorem of_both (hlink : s'.service.link? = some l.1) (hreader : s'.splitter.reader = some l)
    (hwriter : s'.splitter.writer = some l) (hl : s.Sees s' l.1) : s.Reseats readOnly s' := by
  obtain ⟨c, hc, hsame⟩ := Option.map_eq_some_iff.1 hlink
  refine ⟨c, l, hc, ?_, ?_, by rw [hsame]; exact hl, hl⟩
  · cases readOnly <;> simp [Splitter.isOn, Splitter.isOnReader, Splitter.isOnWriter, hreader, hwriter, holds, hsame]
  · simp [Splitter.slotFor, hreader, hwriter]

omit [Lasting others] in
/-- The link is current now, or it was usable as the current one already and so was remembered. -/
theorem of_arrival (hu : s.Remembers u) (known : s.Known) (hage : s.world.Ages s'.world)
    (harrives : s'.service.current = some l ∨ s'.service = s.service ∧ ∃ c, s'.usable = some c ∧ c.1 = l.1)
    (hstale : s'.splitter.stale = s.splitter.stale)
    (hon : ∀ c : HostLink, c.1 = l.1 → s'.splitter.isOn readOnly c = true)
    (hkept : s'.splitter.slotFor l.2 = some l)
    (hslots : ∀ host, s'.splitter.slotFor host = some l ∨ s'.splitter.slotFor host = u.splitter.slotFor host)
    (hl : s.Sees s' l.1) : s.Reseats readOnly s' := by
  rcases harrives with hcurrent | ⟨hservice, c, husable, hsame⟩
  · exact ⟨l, l, hcurrent, hon l rfl, hkept, hl, hl⟩
  · have hbefore : s.usable = some c := usable_of_later known hage.grows hage.lapses (by rw [hservice]) hstale husable
    obtain ⟨k, hk, hreach, hopen⟩ := hu.slotFor hbefore
    have hcurrent : s'.service.current = some c := (usable_eq_some husable).1
    rcases hslots c.2 with hslot | hslot
    · exact ⟨c, l, hcurrent, hon c hsame, hslot, .of_usable hbefore _, hl⟩
    · exact ⟨c, k, hcurrent, hon c hsame, hslot.trans hk, .of_usable hbefore _, .inl ⟨hreach, hopen⟩⟩

end Reseats

/-! ### Turning -/

omit [Lasting others] in
/-- What is seen once the usable current link is remembered was seen before. -/
theorem Remembers.sees (hu : s.Remembers u) (known : s.Known) (h : u.Sees v k) (hg : u.world.Grows v.world) :
    s.Sees v k :=
  h.since known hu.renews hu.books.lapses hg

/-- A link that was found for writing, and is read from, is kept for both. -/
theorem Fetches.reseats (hu : s.Remembers u) (known : s.Known) (hr : u.Renews w) (hl : u.world.Lapses w.world)
    (h : w.Fetches others (.ok l) t) (hage : t.world.Ages v.world) (hlink : v.service.link? = some l.1)
    (hreader : v.splitter.reader = some l) (hwriter : v.splitter.writer = some l) : s.Reseats readOnly v := by
  have hgrows := (h.ages.trans hage).grows
  have hsees : u.Sees v l.1 := (h.sees.later hage.grows).since (hu.renews.keepsKnown known) hr hl hgrows
  exact .of_both hlink hreader hwriter (hu.sees known hsees (hr.grows.trans hgrows))

theorem Leaves.reseats (hu : s.Remembers u) (known : s.Known) (hp : u.Paired) (h : u.Leaves others (.ok ()) v) :
    s.Reseats true v := by
  have hstale : u.splitter.stale = s.splitter.stale := by rw [hu.splitter]; rfl
  -- three ways to read elsewhere: over the link kept for it, over one just connected, over that to the writer
  cases h with
  | @reuses l t _ slot noted arrives =>
    obtain ⟨-, -, hx⟩ := Split.lands_makeCurrent arrives
    rw [noted.splitter] at hx
    have hage : u.world.Ages v.world := noted.world.ages.trans (Split.ages_makeCurrent arrives)
    obtain ⟨hslot, hopen⟩ := Option.filter_eq_some_iff.1 slot
    rw [Bool.not_eq_true'] at hopen
    have harrives := (Split.arrives_makeCurrent arrives).current_or_usable
    rw [noted.service, hu.service] at harrives
    refine .of_arrival hu known (hu.books.ages.trans hage) harrives ?_ (fun c hc => ?_) ?_ (fun host => .inr ?_) ?_
    · rw [hx]; exact hstale
    · have hreader : v.splitter.reader = some l := by rw [hx]; exact hslot
      simp [Splitter.isOn, Splitter.isOnReader, hreader, holds, hc]
    · rw [hx]
      unfold Splitter.slotFor
      cases hrole : l.2.isWriter with
      | true => exact hp l hslot hrole hopen
      | false => exact hslot
    · rw [hx]; rfl
    · exact hu.sees known (.inl ⟨.inr (.inr ⟨l.2, hslot⟩), hopen⟩) hage.grows
  | @opens l w t _ shut search noted reads =>
    -- a reader that was just connected takes the reader's place, and the writer's stays as it was
    obtain ⟨-, -, hx⟩ := Split.lands_readFrom reads
    obtain ⟨hservice, hsearch, -⟩ := Split.tries_connectReader search
    rw [noted.splitter, hsearch] at hx
    obtain ⟨hnew, hrole⟩ := (Split.ends_connectReader search).2 l rfl
    have hage : w.world.Ages v.world := noted.world.ages.trans (Split.ages_readFrom reads)
    have hage' : u.world.Ages v.world := (Split.ages_connectReader search).trans hage
    have harrives := Split.current_or_usable_readFrom reads
    rw [noted.service, hservice, hu.service] at harrives
    have hreader : v.splitter.reader = some l := by rw [hx]
    have hwriter : l.2.isWriter = false := by
      rw [Host.isReader_eq, Bool.not_eq_true'] at hrole
      exact hrole
    refine .of_arrival hu known (hu.books.ages.trans hage') harrives ?_ (fun c hc => ?_) ?_ (fun host => ?_) ?_
    · rw [hx]; exact hstale
    · simp [Splitter.isOn, Splitter.isOnReader, hreader, holds, hc]
    · simp [Splitter.slotFor, hwriter, hreader]
    · unfold Splitter.slotFor
      split
      · exact .inr (by rw [hx])
      · exact .inl hreader
    · exact hu.sees known (.inr (hnew.later hage.grows)) hage'.grows
  | fallsBack shut search fetches noted counts reads =>
    obtain ⟨hv, hcounts, hn⟩ := Split.ends_countFallback counts
    obtain ⟨hleads, -⟩ := Split.ends_connectReader search
    obtain ⟨hlink, -, hx⟩ := Split.lands_readFrom reads
    have hrenews : u.Renews _ := .of_seats_eq hleads.upkeep.grows hleads.providers hleads.seats
    have hage := noted.world.ages.trans (hn.ages.trans (Split.ages_readFrom reads))
    refine fetches.reseats hu known hrenews (Split.ages_connectReader search).lapses hage hlink ?_ ?_
    · rw [hx]
    · rw [hx, hcounts, noted.splitter, fetches.slots.2]

theorem TurnsToReader.reseats (hu : s.Remembers u) (known : s.Known) (ho : s.seats.Ordered) (hp : u.Paired)
    (h : s.TurnsToReader others u (.ok ()) v) : s.Reseats true v := by
  cases h with
  | stays usable fits => exact .of_stay hu usable fits
  | @shares l _ usable unfit single fits sets =>
    obtain ⟨hv, hx⟩ := Split.ends_setReader sets
    obtain ⟨hread, hrole⟩ := Bool.or_eq_false_iff.1 unfit
    rw [Host.isReader_eq, Bool.not_eq_false'] at hrole
    have hreader : u.splitter.reader = s.splitter.reader := by
      rw [hu.splitter]
      exact remember_of_not_fits usable (by rw [Host.isReader_eq, hrole]; rfl) _
    rw [hreader] at hread
    obtain ⟨k, hk, hreach, hopen⟩ := hu.slotFor usable
    refine ⟨l, k, ?_, ?_, ?_, .of_usable usable _, .inl ⟨hreach, hopen⟩⟩
    · rw [hv, hu.service]
      exact (usable_eq_some usable).1
    · have hboth : holds v.splitter.reader l.1 = true := by
        rw [hx]
        exact hu.holds_writer ho usable hrole hread
      exact Bool.or_eq_true_iff.2 (.inl hboth)
    · rw [hx]
      unfold Splitter.slotFor at hk ⊢
      rw [if_pos hrole] at hk ⊢
      exact hk
  | settles _ _ _ settles =>
    cases settles with
    | fetches fetches reads =>
      obtain ⟨hlink, -, hx⟩ := Split.lands_readFrom reads
      refine fetches.reseats hu known (.refl _) (.refl _) (Split.ages_readFrom reads) hlink ?_ ?_
      · rw [hx]
      · rw [hx, fetches.slots.2]
  | leaves _ _ _ leaves => exact leaves.reseats hu known hp

theorem TurnsToWriter.reseats (hu : s.Remembers u) (known : s.Known) (ho : s.seats.Ordered)
    (h : s.TurnsToWriter others u (.ok ()) v) : s.Reseats false v := by
  cases h with
  | stays usable fits => exact .of_stay hu usable fits
  | @fetches l w t _ stuck free fetches noted arrives =>
    obtain ⟨-, -, hx⟩ := Split.lands_makeCurrent arrives
    rw [noted.splitter, fetches.slots.2] at hx
    have hage : w.world.Ages v.world := noted.world.ages.trans (Split.ages_makeCurrent arrives)
    have hage' := fetches.ages.trans hage
    have harrives := (Split.arrives_makeCurrent arrives).current_or_usable
    rw [noted.service, fetches.slots.1, hu.service] at harrives
    have hwriter : v.splitter.writer = some l := by rw [hx]
    refine .of_arrival hu known (hu.books.ages.trans hage') harrives ?_ (fun c hc => ?_) ?_ (fun host => ?_) ?_
    · rw [hx, hu.splitter]; rfl
    · simp [Splitter.isOn, Splitter.isOnWriter, hwriter, holds, hc]
    · rw [Splitter.slotFor, if_pos (fetches.role hu ho)]
      exact hwriter
    · unfold Splitter.slotFor
      split
      · exact .inl hwriter
      · exact .inr (by rw [hx])
    · exact hu.sees known (fetches.sees.later hage.grows) hage'.grows

end Stand

namespace Split

variable {readOnly : Bool}

/-- A switch that goes through makes a link current that the mode asks for, and keeps one for its host's role; each of
them was seen open, or is new. -/
theorem reseats_switchTo (h : Split.Ends others (switchTo readOnly) s (.ok ()) s') (known : s.Known)
    (ho : s.seats.Ordered) (hp : s.Paired) : s.Reseats readOnly s' := by
  obtain ⟨s₁, v, hn, hturn, hafter⟩ := ends_turn h
  have known₁ := hn.renews.keepsKnown known
  have ho₁ : s₁.seats.Ordered := by rw [hn.seats_eq]; exact ho
  have hp₁ := hn.paired known hp
  have hv : s₁.Reseats readOnly v := by
    cases readOnly with
    | true =>
      obtain ⟨u, hrecalls, hturn⟩ := turns_switchToReader hturn
      have hu := hrecalls.remembers
      exact hturn.reseats hu known₁ ho₁ (hu.paired known₁ hp₁)
    | false =>
      obtain ⟨u, hrecalls, hturn⟩ := turns_switchToWriter hturn
      have hu := hrecalls.remembers
      exact hturn.reseats hu known₁ ho₁
  obtain ⟨hservice, hx, -⟩ := calm_after hafter
  obtain ⟨c, k, hcurrent, hon, hslot, hc, hk⟩ := hv
  have hsees : ∀ {l}, s₁.Sees v l → s.Sees s' l := fun hl =>
    (hl.since known hn.renews hn.world.lapses (renews_turn hturn).grows).later (ages_after hafter).grows
  refine ⟨c, k, by rw [hservice]; exact hcurrent, ?_, ?_, hsees hc, hsees hk⟩
  · rw [hx]; exact hon
  · rw [hx]; exact hslot

end Split

end ReplicaRouter
