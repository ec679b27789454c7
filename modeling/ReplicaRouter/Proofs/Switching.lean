import ReplicaRouter.Proofs.Turning
/-
What the programs of read/write splitting do to the links: each ends in one of the moves of seats, and
is upkeep otherwise.
Main statements: `Split.ends_switchTo`, `Split.ends_rotateReader` and `Split.ends_discardKept`.
-/
namespace ReplicaRouter

variable {D : Type} {others : World D → World D → Prop}

open Splitter

theorem Splitter.isOnReader_iff {x : Splitter} {l : HostLink} :
    x.isOnReader l = true ↔ holds x.reader l.1 = true ∨ l.2.isReader = true :=
  Bool.or_eq_true_iff

theorem Splitter.isOnWriter_iff {x : Splitter} {l : HostLink} :
    x.isOnWriter l = true ↔
      holds x.writer l.1 = true ∨ l.2.isWriter = true ∧ holds x.reader l.1 = false := by
  rw [isOnWriter, Bool.or_eq_true_iff, Bool.and_eq_true_iff, Bool.not_eq_true']

/-- A switch makes a move and is upkeep otherwise. One that succeeds shuts the link that a failover left
behind, once another link is current. -/
inductive Stand.Turns (s : Stand D) (readOnly : Bool) : Except RouteError Unit → Stand D → Prop
  | fails {e : RouteError} {q : Seats} {s' : Stand D}
      (switches : s.seats.Switches (s.Obtains s') s.service.inTransaction readOnly (.error e) q)
      (leads : s.Leads q s') : Turns s readOnly (.error e) s'
  | succeeds {q q' : Seats} {s' : Stand D}
      (switches : s.seats.Switches (s.Obtains s') s.service.inTransaction readOnly (.ok ()) q)
      (releases : q.Releases q') (leads : s.Leads q' s')
      (shuts : ¬ q.IsLost → ∀ l, s.seats.stale = some l → s.world.Knows l → s'.world.Shut l) :
      Turns s readOnly (.ok ()) s'

theorem Stand.Turns.since {s u s' : Stand D} {readOnly : Bool} {r : Except RouteError Unit}
    (hu : s.Leads s.seats u) (h : u.Turns readOnly r s') : s.Turns readOnly r s' := by
  have htx : u.service.inTransaction = s.service.inTransaction := congrArg (·.isOpen) hu.transaction
  cases h with
  | fails switches leads =>
    rw [hu.seats, htx] at switches
    exact .fails (switches.mono fun _ hn => hn.since hu.upkeep.grows hu.providers) (hu.trans leads)
  | succeeds switches releases leads shuts =>
    rw [hu.seats, htx] at switches
    refine .succeeds (switches.mono fun _ hn => hn.since hu.upkeep.grows hu.providers) releases (hu.trans leads) ?_
    exact fun hn l hl hk => shuts hn l (by rw [hu.seats]; exact hl) (hk.mono hu.upkeep.grows)

/-! ## The moves that courses come to -/

variable [Backend D] {s u s' : Stand D} {l : HostLink}

namespace Stand

theorem Remembers.leads (h : s.Remembers u) : s.Leads u.seats u :=
  ⟨rfl, h.books.upkeep, by rw [h.service], by rw [h.service], by rw [h.splitter]; rfl⟩

/-- Remembering the usable current link is a move of the seats. -/
theorem Remembers.moves (h : s.Remembers u) : s.seats.Remembers s.usable u.seats := by
  have hkept : ∀ {slot : Option HostLink}, ¬ (openSlot s.world slot).isNone = true → slot.isSome = true := by
    intro slot hn
    cases slot with
    | none => exact absurd rfl hn
    | some _ => rfl
  rw [h.seats_eq]
  cases husable : s.usable with
  | none =>
    rw [remember_of_none husable, remember_of_none husable]
    exact .nothing _
  | some l =>
    cases hrole : l.2.isWriter with
    | true =>
      have hreader : l.2.isReader = false := by rw [Host.isReader_eq, hrole]; rfl
      rw [remember_of_fits husable hrole, remember_of_not_fits husable hreader]
      split
      · exact .forWriting hrole
      · next hn => exact .already (by rw [if_pos hrole]; exact hkept hn)
    | false =>
      have hreader : l.2.isReader = true := by rw [Host.isReader_eq, hrole]; rfl
      rw [remember_of_not_fits husable hrole, remember_of_fits husable hreader]
      split
      · exact .forReading hrole
      · next hn => exact .already (by rw [if_neg (by rw [hrole]; exact Bool.false_ne_true)]; exact hkept hn)

end Stand

variable [Bystanders others]

/-! ### Finding links -/

namespace Stand

theorem Fetches.fails {e : RouteError} (h : s.Fetches others (.error e) s') : s.Leads s.seats s' := by
  cases h with
  | missing => exact .refl _
  | refused _ _ _ attempt => exact (Split.ends_connect attempt).1

theorem Fetches.finds (h : s.Fetches others (.ok l) s') : ∃ p, s.seats.Finds (s.Obtains s') l p ∧ s.Leads p s' := by
  cases h with
  | kept slot => exact ⟨_, .kept (Option.filter_eq_some_iff.1 slot).1, .refl _⟩
  | current _ usable role sets => exact ⟨_, .current (isCurrent_of_usable usable) role, Split.leads_setWriter sets⟩
  | dialed _ _ first attempt sets =>
    obtain ⟨hattempt, hnew⟩ := Split.ends_connect attempt
    have hset := Split.leads_setWriter sets
    rw [hattempt.seats] at hset
    exact ⟨_, .opened ((hnew _ rfl).later hset.upkeep.grows) (List.find?_some first), hattempt.trans hset⟩

theorem Seeks.leads {room : Nat} {hosts : List Host} {found : Option HostLink}
    (h : Seeks others room hosts s found s') :
    s.Leads s.seats s' ∧ ∀ l, found = some l → s.Obtains s' l.1 ∧ l.2 ∈ hosts := by
  induction h with
  | spent => exact ⟨.refl _, nofun⟩
  | unpicked picks => exact ⟨Split.leads_pick picks, nofun⟩
  | connects picks candidate attempt =>
    have hpick := Split.leads_pick picks
    obtain ⟨hattempt, hnew⟩ := Split.ends_connect attempt
    refine ⟨hpick.still hattempt, ?_⟩
    rintro _ ⟨⟩
    exact ⟨(hnew _ rfl).since hpick.upkeep.grows hpick.providers, List.mem_of_getElem? candidate⟩
  | misses picks candidate attempt noted _ ih =>
    have hmiss := ((Split.leads_pick picks).still (Split.ends_connect attempt).1).still noted.leads
    obtain ⟨hrest, hfound⟩ := ih
    refine ⟨hmiss.still hrest, fun l hl => ?_⟩
    obtain ⟨hnew, hmem⟩ := hfound l hl
    exact ⟨hnew.since hmiss.upkeep.grows hmiss.providers, List.mem_of_mem_eraseIdx hmem⟩

end Stand

theorem Split.ends_connectReader {found : Option HostLink} (h : Split.Ends others connectReader s found s') :
    s.Leads s.seats s' ∧ ∀ l, found = some l → s.Obtains s' l.1 ∧ l.2.isReader = true := by
  obtain ⟨hleads, hfound⟩ := (seeks_connectReader h).leads
  exact ⟨hleads, fun l hl => (hfound l hl).imp_right fun hmem => (List.mem_filter.1 hmem).2⟩

/-! ### Turning -/

namespace Stand

section Turns

variable {cur : Option HostLink} {inTransaction : Bool} {r : Except RouteError Unit}

theorem Settles.turns (free : inTransaction = false) (h : s.Settles others r s') :
    ∃ q, s.seats.TurnsToReader (s.Obtains s') cur inTransaction r q ∧ s.Leads q s' := by
  cases h with
  | fetches fetches reads =>
    obtain ⟨p, hfinds, hfetch⟩ := fetches.finds
    obtain ⟨q, harrives, hread⟩ := Split.ends_readFrom reads
    rw [hfetch.seats] at harrives
    exact ⟨q, .writer free (hfinds.mono fun _ hn => hn.later hread.upkeep.grows) harrives, hfetch.trans hread⟩
  | fails fetches => exact ⟨_, .fails _ free, fetches.fails⟩

theorem Leaves.turns (free : inTransaction = false) (h : s.Leaves others r s') :
    ∃ q, s.seats.TurnsToReader (s.Obtains s') cur inTransaction r q ∧ s.Leads q s' := by
  cases h with
  | reuses slot noted arrives =>
    obtain ⟨q, harrives, hmake⟩ := Split.ends_makeCurrent arrives
    rw [noted.seats_eq] at harrives
    exact ⟨q, .kept free (Option.filter_eq_some_iff.1 slot).1 harrives, noted.leads.trans hmake⟩
  | opens _ search noted reads =>
    obtain ⟨hsearch, hfound⟩ := Split.ends_connectReader search
    obtain ⟨hnew, hrole⟩ := hfound _ rfl
    have hopen := hsearch.still noted.leads
    obtain ⟨q, harrives, hread⟩ := Split.ends_readFrom reads
    rw [hopen.seats] at harrives
    exact ⟨q, .opened free (hnew.later (noted.leads.trans hread).upkeep.grows) hrole harrives, hopen.trans hread⟩
  | fallsBack _ search fetches noted counts reads =>
    obtain ⟨hsearch, -⟩ := Split.ends_connectReader search
    obtain ⟨p, hfinds, hfetch⟩ := fetches.finds
    rw [hsearch.seats] at hfinds
    have hcount := noted.leads.still (Split.leads_countFallback counts)
    have hfetch := hfetch.still hcount
    obtain ⟨q, harrives, hread⟩ := Split.ends_readFrom reads
    rw [hfetch.seats] at harrives
    refine ⟨q, .writer free (hfinds.mono fun _ hn => ?_) harrives, (hsearch.trans hfetch).trans hread⟩
    exact (hn.since hsearch.upkeep.grows hsearch.providers).later (hcount.trans hread).upkeep.grows
  | fails _ search fetches =>
    have hsearch := (Split.ends_connectReader search).1
    exact ⟨_, .fails _ free, hsearch.still fetches.fails⟩

theorem TurnsToReader.turns (h : s.TurnsToReader others u r s') :
    ∃ q, u.seats.TurnsToReader (u.Obtains s') s.usable s.service.inTransaction r q ∧ u.Leads q s' := by
  cases h with
  | stays usable fits => exact ⟨_, .stays usable (isOnReader_iff.1 fits), .refl _⟩
  | shares usable _ _ fits sets => exact ⟨_, .shares usable (isOnWriter_iff.1 fits), Split.leads_setReader sets⟩
  | refused _ busy => exact ⟨_, .refused busy, .refl _⟩
  | settles _ free _ settles => exact settles.turns free
  | leaves _ free _ leaves => exact leaves.turns free

theorem TurnsToWriter.turns (h : s.TurnsToWriter others u r s') :
    ∃ q, u.seats.TurnsToWriter (u.Obtains s') s.usable s.service.inTransaction r q ∧ u.Leads q s' := by
  cases h with
  | stays usable fits => exact ⟨_, .stays usable (isOnWriter_iff.1 fits), .refl _⟩
  | refused _ busy => exact ⟨_, .refused busy, .refl _⟩
  | fetches _ free fetches noted arrives =>
    obtain ⟨p, hfinds, hfetch⟩ := fetches.finds
    obtain ⟨q, harrives, hmake⟩ := Split.ends_makeCurrent arrives
    have hnoted := hfetch.still noted.leads
    rw [hnoted.seats] at harrives
    have hgrows := (noted.leads.trans hmake).upkeep.grows
    exact ⟨q, .writer free (hfinds.mono fun _ hn => hn.later hgrows) harrives, hnoted.trans hmake⟩
  | fails _ free fetches => exact ⟨_, .fails _ free, fetches.fails⟩

end Turns

/-! ### Moving to another reader -/

theorem Occupies.leads (h : s.Occupies others l s') :
    ∃ p, ({ s.seats with reader := some l } : Seats).Arrives l p ∧ s.Leads p s' := by
  obtain @⟨u, _, holds, arrives⟩ := h
  have hhold := Split.leads_hold holds
  have hset : u.Leads { u.seats with reader := some l } { u with splitter := { u.splitter with reader := some l } } :=
    ⟨rfl, .refl _, rfl, rfl, rfl⟩
  obtain ⟨p, harrives, hmake⟩ := Split.ends_makeCurrent arrives
  rw [hset.seats, hhold.seats] at harrives
  exact ⟨p, harrives, hhold.trans (hset.trans hmake)⟩

theorem Moves.leads (h : s.Moves others l s') :
    ∃ p, ({ s.seats with reader := some l } : Seats).Arrives l p ∧ s.Leads p s' := by
  cases h with
  | fills _ occupies => exact occupies.leads
  | closes _ occupies _ closes letsGo =>
    obtain ⟨p, harrives, hleads⟩ := occupies.leads
    have hclosed := (Split.leads_closeQuietly closes).1.still (Split.leads_world (Link.keeps_letGo _) letsGo)
    exact ⟨p, harrives, hleads.still hclosed⟩
  | spares _ occupies _ letsGo =>
    obtain ⟨p, harrives, hleads⟩ := occupies.leads
    exact ⟨p, harrives, hleads.still (Split.leads_world (Link.keeps_letGo _) letsGo)⟩

omit [Backend D] [Bystanders others] in
theorem isReader_of_picked {host : Host} (h : s.picked? = some host) : host.isReader = true := by
  obtain ⟨i, -, hi⟩ := Option.bind_eq_some_iff.1 h
  exact (List.mem_filter.1 (List.mem_of_getElem? hi)).2

omit [Backend D] [Bystanders others] in
theorem leads_afterPick (s : Stand D) : s.Leads s.seats s.afterPick := ⟨rfl, .refl _, rfl, rfl, rfl⟩

theorem Rotates.rotates (h : s.Rotates others s') : ∃ q, s.seats.Rotates (s.Obtains s') q ∧ s.Leads q s' := by
  cases h with
  | few => exact ⟨_, .stays, .refl s⟩
  | unpicked | kept => exact ⟨_, .stays, s.leads_afterPick⟩
  | misses _ _ attempt noted =>
    exact ⟨_, .stays, (s.leads_afterPick.still (Split.ends_connect attempt).1).still noted.leads⟩
  | moves picked _ attempt noted moves =>
    obtain ⟨hattempt, hnew⟩ := Split.ends_connect attempt
    have hnoted := (s.leads_afterPick.still hattempt).still noted.leads
    obtain ⟨q, harrives, hmove⟩ := (Split.moves_moveReader moves).leads
    rw [hnoted.seats] at harrives
    refine ⟨q, .moves ?_ (isReader_of_picked picked) harrives, hnoted.trans hmove⟩
    exact ((hnew _ rfl).since s.leads_afterPick.upkeep.grows rfl).later (noted.leads.trans hmove).upkeep.grows

/-! ### Giving links up -/

theorem Releases.leads (h : s.Releases others s') :
    (s.seats.IsLost ∧ s = s') ∨
      ¬ s.seats.IsLost ∧ s.Leads { s.seats with stale := none } s' ∧
        ∀ l, s.splitter.stale = some l → s.world.Knows l → s'.world.Shut l := by
  cases h with
  | waits lost => exact .inl ⟨lost, rfl⟩
  | clean sound none =>
    refine .inr ⟨sound, ⟨?_, .refl _, rfl, rfl, rfl⟩, fun l hl => ?_⟩
    · rw [seats, none]
    · rw [none] at hl; cases hl
  | frees sound stale noted closes letsGo =>
    have hnoted := noted.leads
    obtain ⟨hclosed, hshut⟩ := Split.leads_closeQuietly closes
    have hgone := Split.leads_world (Link.keeps_letGo _) letsGo
    have hleads : s.Leads { s.seats with stale := none } _ := ⟨hnoted.seats, hnoted.upkeep, hnoted.transaction,
      hnoted.providers, hnoted.readOnly⟩
    refine .inr ⟨sound, (hleads.still hclosed).still hgone, fun l hl hk => ?_⟩
    obtain rfl := Option.some.inj (stale.symm.trans hl)
    exact (hshut (hk.mono hnoted.upkeep.grows)).mono hgone.upkeep.grows

/-- Of links that are given up, those other than the current one are shut if they were known before. -/
theorem Discards.leads {w : World D} {current : Option Link} {closed : List Link} {links : List HostLink}
    (h : Discards others current closed links s s') (hw : w.Grows s.world)
    (hclosed : ∀ l ∈ closed, w.Knows l → s.world.Shut l) :
    s.Leads s.seats s' ∧ ∀ l ∈ links, current ≠ some l.1 → w.Knows l.1 → s'.world.Shut l.1 := by
  induction h with
  | done => exact ⟨.refl _, nofun⟩
  | spares spared letsGo _ ih =>
    have hgone := Split.leads_world (Link.keeps_letGo _) letsGo
    have hg := hgone.upkeep.grows
    obtain ⟨hrest, hshut⟩ := ih (hw.trans hg) fun l hl hk => (hclosed l hl hk).mono hg
    refine ⟨hgone.still hrest, fun l hl hne hk => ?_⟩
    rcases List.mem_cons.1 hl with rfl | hl
    · exact (hclosed _ (spared.resolve_left hne) hk).mono (hgone.trans hrest).upkeep.grows
    · exact hshut l hl hne hk
  | @closes l closed _ s _ _ t _ noted closes letsGo _ ih =>
    obtain ⟨hclose, hshut⟩ := Split.leads_closeQuietly closes
    have hgone := Split.leads_world (Link.keeps_letGo _) letsGo
    have hleads := (noted.leads.still hclose).still hgone
    have hl : w.Knows l.1 → t.world.Shut l.1 := fun hk =>
      (hshut (hk.mono (hw.trans noted.leads.upkeep.grows))).mono hgone.upkeep.grows
    have hclosed' : ∀ k ∈ l.1 :: closed, w.Knows k → t.world.Shut k := by
      intro k hk hknown
      rcases List.mem_cons.1 hk with rfl | hk
      · exact hl hknown
      · exact (hclosed k hk hknown).mono hleads.upkeep.grows
    obtain ⟨hrest, hshut⟩ := ih (hw.trans hleads.upkeep.grows) hclosed'
    refine ⟨hleads.still hrest, fun k hk hne hknown => ?_⟩
    rcases List.mem_cons.1 hk with rfl | hk
    · exact (hl hknown).mono hrest.upkeep.grows
    · exact hshut k hk hne hknown

end Stand

/-! ## What programs do -/

namespace Split

variable {r : Except RouteError Unit} {readOnly : Bool} {a : Unit}

/-- A turn is one of the moves of a switch. -/
theorem switches_turn (h : Split.Ends others (if readOnly then switchToReader else switchToWriter) s r s') :
    ∃ q, s.seats.Switches (s.Obtains s') s.service.inTransaction readOnly r q ∧ s.Leads q s' := by
  have hnew : ∀ {u}, s.Remembers u → ∀ l, u.Obtains s' l → s.Obtains s' l := fun hu _ hn =>
    hn.since hu.books.grows (by rw [hu.service])
  cases readOnly with
  | true =>
    obtain ⟨u, hrecalls, hturns⟩ := turns_switchToReader h
    have hu := hrecalls.remembers
    obtain ⟨q, hq, hleads⟩ := hturns.turns
    exact ⟨q, .toReader (fun _ => Stand.isCurrent_of_usable) hu.moves (hq.mono (hnew hu)), hu.leads.trans hleads⟩
  | false =>
    obtain ⟨u, hrecalls, hturns⟩ := turns_switchToWriter h
    have hu := hrecalls.remembers
    obtain ⟨q, hq, hleads⟩ := hturns.turns
    exact ⟨q, .toWriter (fun _ => Stand.isCurrent_of_usable) hu.moves (hq.mono (hnew hu)), hu.leads.trans hleads⟩

omit [Bystanders others] in
/-- A switch is a turn to a role, and the stale link is released if that succeeds. -/
theorem ends_turn (h : Split.Ends others (switchTo readOnly) s r s') :
    ∃ u v, s.Noted u ∧ Split.Ends others (if readOnly then switchToReader else switchToWriter) u r v ∧
      ((∃ e, r = .error e ∧ v.Noted s') ∨
        r = .ok () ∧ ∃ t, Split.Ends others releaseStale v () t ∧ t.Noted s') := by
  obtain ⟨_, s1, h1, h⟩ := ends_bind.1 h
  obtain ⟨_, u, h2, h⟩ := ends_bind.1 h
  have hu : s.Noted u := (noted_signal h1).trans (noted_signal h2)
  -- the two turns differ in nothing that comes after them
  cases readOnly
  all_goals
    obtain ⟨x, v, h3, h⟩ := ends_bind.1 h
    cases x with
    | error e =>
      obtain ⟨_, s4, h4, h⟩ := ends_bind.1 h
      obtain ⟨_, s5, h5, h⟩ := ends_bind.1 h
      obtain ⟨rfl, rfl⟩ := ends_pure.1 h
      exact ⟨u, v, hu, h3, .inl ⟨e, rfl, (noted_signal h4).trans (noted_signal h5)⟩⟩
    | ok _ =>
      obtain ⟨_, t, h4, h⟩ := ends_bind.1 h
      obtain ⟨_, s5, h5, h⟩ := ends_bind.1 h
      obtain ⟨_, s6, h6, h⟩ := ends_bind.1 h
      obtain ⟨rfl, rfl⟩ := ends_pure.1 h
      exact ⟨u, v, hu, h3, .inr ⟨rfl, t, h4, (noted_signal h5).trans (noted_signal h6)⟩⟩

theorem ends_switchTo (h : Split.Ends others (switchTo readOnly) s r s') : s.Turns readOnly r s' := by
  obtain ⟨u, v, hu, h, hafter⟩ := ends_turn h
  obtain ⟨q, ht, hl⟩ := switches_turn h
  refine .since hu.leads ?_
  rcases hafter with ⟨e, rfl, hs'⟩ | ⟨rfl, t, h, hs'⟩
  · exact .fails (ht.mono fun _ hn => hn.later hs'.leads.upkeep.grows) (hl.still hs'.leads)
  · obtain rfl := hl.seats
    rcases (releases_releaseStale h).leads with ⟨hlost, rfl⟩ | ⟨hsound, hl1, hshut⟩
    · -- the link that was left behind is current still
      refine .succeeds (ht.mono fun _ hn => hn.later hs'.leads.upkeep.grows) (.waits hlost) (hl.still hs'.leads) ?_
      exact fun hn => absurd hlost hn
    · have hl' := hl1.still hs'.leads
      refine .succeeds (ht.mono fun _ hn => hn.later hl'.upkeep.grows) (.frees hsound) (hl.trans hl') ?_
      intro _ l hls hk
      rw [← ht.stale_eq] at hls
      exact (hshut l hls (hk.mono hl.upkeep.grows)).mono hs'.leads.upkeep.grows

theorem ends_rotateReader (h : Split.Ends others rotateReader s a s') :
    ∃ q, s.seats.Rotates (s.Obtains s') q ∧ s.Leads q s' :=
  (rotates_rotateReader h).rotates

theorem ends_discardKept (h : Split.Ends others discardKept s a s') :
    s.Leads { s.seats with writer := none, reader := none } s' ∧
      ∀ l, s.seats.Keeps l → s.service.link? ≠ some l → s.world.Knows l → s'.world.Shut l := by
  -- nothing is closed yet
  have hnone : ∀ l ∈ ([] : List Link), s.world.Knows l → s.world.Shut l := nofun
  obtain ⟨hleads, hshut⟩ := (discards_discardKept h).leads (.refl s.world) hnone
  refine ⟨⟨hleads.seats, hleads.upkeep, hleads.transaction, hleads.providers, hleads.readOnly⟩, fun l hk hne => ?_⟩
  rcases hk with ⟨host, hk⟩ | ⟨host, hk⟩
  · exact hshut (l, host) (List.mem_append_left _ (Option.mem_toList.2 hk)) hne
  · exact hshut (l, host) (List.mem_append_right _ (Option.mem_toList.2 hk)) hne

end Split

end ReplicaRouter
