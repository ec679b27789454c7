import ReplicaRouter.Proofs.Coverage
import ReplicaRouter.Proofs.Entering
/-
Which open connections lose their seat when read/write splitting changes over, balances the load or gives
links up: none, but for one that is kept for reading when a reader is asked for and there is only one host.
Main statements: `Split.covers_switchTo`, `Stand.Rotates.covers` and `Split.covers_discardKept`.
-/
namespace ReplicaRouter

variable {D : Type}

open Splitter Split
open Backend.Lasting (has)

variable {others : World D → World D → Prop} [Backend D] [Backend.Obedient D] [Lasting others] {s u s' : Stand D}
  {a : Unit}

namespace Split

/-! ## Switching -/

/-- Where no open link was kept for reading, nothing is lost to another. -/
theorem covers_readFrom_of_closed {l : HostLink} (hn : openSlot s.world s.splitter.reader = none)
    (hlater : Backend.Later has s.world.backend u.world.backend) (hr : u.splitter.reader = s.splitter.reader)
    (hk : u.Kept) (h : Split.Ends others (readFrom l) u a s') : u.Covers (fun _ => False) s' := by
  have hc := covers_readFrom hk h
  refine hc.mono fun c _ hopen _ hholds => ?_
  obtain ⟨host, hholds⟩ := holds_iff.1 hholds
  have hopen := World.open_before (hlater.trans hc.later) hopen
  rw [Stand.openSlot_eq_none hn (hr.symm.trans hholds)] at hopen
  cases hopen

/-- Keeping another link for reading loses the one that was kept. -/
theorem covers_setReader {slot : Option HostLink} (h : Split.Ends others (setReader slot) s a s') :
    s.Covers (fun c => holds s.splitter.reader (.direct c) = true) s' := by
  have hseats := (leads_setReader h).seats
  refine .of_steady (World.lenient_steady.keeps_setReader slot h) fun _ c _ _ hh hn => ?_
  rw [hseats] at hn
  exact (hh.of_lost hn rfl rfl).resolve_left fun hcurrent => hn (.inl (.inl hcurrent))

/-- Closing a link quietly closes its connection, if it is one of its own. -/
theorem closes_closeQuietly {l : Link} (h : Split.Ends others (Split.world l.closeQuietly) s a s') :
    s.world.Steady s'.world ∧ ∀ c, l = .direct c → has c s.world.backend → s'.world.isClosed c = true :=
  (Link.meets_closeQuietly_closes l s.world).ends (ends_world.1 h).1

end Split

namespace Stand

variable {r : Except RouteError Unit}

/-- Where there is only one host, the link that is kept for reading is lost to the one to the writer. -/
theorem Settles.covers (h : s.Settles others r s') (hp : s.service.providers.pooled = none) (hk : s.Kept) :
    s.Covers (fun c => holds s.splitter.reader (.direct c) = true) s' := by
  cases h with
  | fetches fetches reads =>
    obtain ⟨hfetch, hmoves⟩ := fetches.covers hp
    rw [← hmoves.reader]
    exact hfetch.andThen (covers_readFrom (hk.movesWriter hfetch.later hmoves) reads)
  | fails fetches => exact (fetches.covers hp).1.mono fun _ _ _ _ hf => hf.elim

/-- Where there are several hosts nothing is lost. -/
theorem Leaves.covers (h : s.Leaves others r s') (hp : s.service.providers.pooled = none) (hk : s.Kept) :
    s.Covers (fun _ => False) s' := by
  have hnone : ∀ {u}, s.Covers (fun c => ∃ host, (none : Option HostLink) = some (.direct c, host)) u →
      s.Covers (fun _ => False) u := fun hc => hc.mono fun _ _ _ _ ⟨_, he⟩ => nomatch he
  cases h with
  | reuses _ noted arrives =>
    exact noted.covers.andThen (covers_makeCurrent (hk.later noted.covers.later noted.seats_eq) arrives)
  | opens shut search noted reads =>
    obtain ⟨hsearch, hseats⟩ := covers_connectReader hp search
    have hk : Kept _ := (hk.later hsearch.later hseats).later noted.covers.later noted.seats_eq
    have hreads := covers_readFrom_of_closed shut (hsearch.later.trans noted.covers.later)
      ((congrArg Splitter.reader noted.splitter).trans (congrArg Seats.reader hseats)) hk reads
    -- the connection that was opened is the one that is read from
    refine ((hsearch.thenStill noted.covers).thenStill hreads).mono ?_
    rintro c - - hn ⟨host, ⟨⟩⟩
    obtain ⟨p, ha, hl⟩ := ends_readFrom reads
    refine hn (.inl (.inr (.inr ⟨host, ?_⟩)))
    rw [hl.seats]
    cases ha <;> rfl
  | fallsBack shut search fetches noted counts reads =>
    obtain ⟨hsearch, hseats⟩ := covers_connectReader hp search
    obtain ⟨hfetch, hmoves⟩ := fetches.covers (by rw [(ends_connectReader search).1.providers]; exact hp)
    obtain ⟨hcount, hseats'⟩ := still_countFallback counts
    have hcount := noted.covers.andThen hcount
    have hseats' := hseats'.trans noted.seats_eq
    have hc := ((hnone hsearch).andThen hfetch).andThen hcount
    refine hc.andThen (covers_readFrom_of_closed shut hc.later ?_ ?_ reads)
    · exact (congrArg Seats.reader hseats').trans (hmoves.reader.trans (congrArg Seats.reader hseats))
    · exact ((hk.later hsearch.later hseats).movesWriter hfetch.later hmoves).later hcount.later hseats'
  | fails _ search fetches =>
    have hsearch := (covers_connectReader hp search).1
    exact (hnone hsearch).andThen (fetches.covers (by rw [(ends_connectReader search).1.providers]; exact hp)).1

/-- Who asks for a reader loses the link that is kept for reading, if there is only one host. -/
theorem TurnsToReader.covers (h : s.TurnsToReader others u r s') (hu : s.Remembers u)
    (hp : s.service.providers.pooled = none) (ho : s.seats.Ordered) :
    s.Covers (fun c => Topology.isSingle s.world.hosts.topology = true ∧
      holds s.splitter.reader (.direct c) = true) s' := by
  have hpu : u.service.providers.pooled = none := by rw [hu.service]; exact hp
  cases h with
  | stays | refused => exact hu.covers.mono fun _ _ _ _ hf => hf.elim
  | shares usable _ single _ sets =>
    refine (hu.covers.andThen (covers_setReader sets)).mono fun c _ _ hn hc => ⟨single, ?_⟩
    refine (hu.holds_reader hc).resolve_right fun ⟨host, husable, _⟩ => hn (.inl (.inl ⟨host, ?_⟩))
    rw [(leads_setReader sets).seats]
    exact (congrArg Service.current hu.service).trans (usable_eq_some husable).1
  | settles stuck _ single settles =>
    refine (hu.covers.andThen (settles.covers hpu (hu.kept ho))).mono fun c _ _ _ hc => ⟨single, ?_⟩
    -- a usable link that is kept for reading would do
    refine (hu.holds_reader hc).resolve_right fun ⟨host, husable, hrole⟩ => ?_
    have hunfit := any_usable_serves.2 stuck
    rw [any_usable_serves_true, husable, Option.any_some, isOnReader_iff.2 (.inr hrole), Bool.true_or] at hunfit
    cases hunfit
  | leaves _ _ _ leaves =>
    exact (hu.covers.andThen (leaves.covers hpu (hu.kept ho))).mono fun _ _ _ _ hf => hf.elim

/-- Who asks for the writer loses nothing. -/
theorem TurnsToWriter.covers (h : s.TurnsToWriter others u r s') (hu : s.Remembers u)
    (hp : s.service.providers.pooled = none) (ho : s.seats.Ordered) : s.Covers (fun _ => False) s' := by
  have hpu : u.service.providers.pooled = none := by rw [hu.service]; exact hp
  cases h with
  | stays | refused => exact hu.covers
  | fetches _ _ fetches noted arrives =>
    obtain ⟨hfetch, hmoves⟩ := fetches.covers hpu
    refine hu.covers.andThen ((hfetch.andThen noted.covers).andThen (covers_makeCurrent ?_ arrives))
    exact ((hu.kept ho).movesWriter hfetch.later hmoves).later noted.covers.later noted.seats_eq
  | fails _ _ fetches => exact hu.covers.andThen (fetches.covers hpu).1

/-- The link that a failover left behind is closed before it loses its seat. -/
theorem Releases.covers (h : s.Releases others s') : s.Covers (fun _ => False) s' := by
  rcases h.leads with ⟨-, rfl⟩ | ⟨-, hleads, -⟩
  · exact .refl _
  cases h with
  | waits | clean => exact .refl _
  | @frees l _ _ _ _ stale noted closes letsGo =>
    have hnoted : s.world.Steady _ := noted.world.steady
    obtain ⟨hclose, hclosed⟩ := closes_closeQuietly closes
    have hgone := keeps_world (World.lenient_steady.keeps_letGo l) letsGo
    refine .of_steady (hnoted.trans (hclose.trans hgone)) fun ha c hc hopen hh hn => ?_
    rw [hleads.seats] at hn
    rcases hh with hh | hst
    · exact hn (.inl hh)
    · obtain rfl : l = .direct c := Option.some.inj (stale.symm.trans hst)
      have hopen := World.open_before hgone.later hopen
      rw [hclosed c rfl (hnoted.later.has c (ha c hc))] at hopen
      cases hopen

end Stand

namespace Split

variable {r : Except RouteError Unit}

/-- A switch loses an open connection in one case only: a reader is asked for, there is only one host, and
the connection was kept for reading. -/
theorem covers_switchTo {readOnly : Bool} (hp : s.service.providers.pooled = none) (ho : s.seats.Ordered)
    (h : Split.Ends others (switchTo readOnly) s r s') :
    s.Covers (fun c => readOnly = true ∧ Topology.isSingle s.world.hosts.topology = true ∧
      holds s.splitter.reader (.direct c) = true) s' := by
  obtain ⟨u, v, hu, h, hafter⟩ := ends_turn h
  have hpu : u.service.providers.pooled = none := by rw [hu.service]; exact hp
  have hou : u.seats.Ordered := by rw [hu.seats_eq]; exact ho
  have hturn : s.Covers (fun c => readOnly = true ∧ Topology.isSingle s.world.hosts.topology = true ∧
      holds s.splitter.reader (.direct c) = true) v := by
    cases readOnly with
    | true =>
      obtain ⟨t, hrecalls, hturns⟩ := turns_switchToReader h
      have ht := hrecalls.remembers
      have hc := hturns.covers ht hpu hou
      rw [hu.splitter, hu.world.books.hosts] at hc
      exact (hu.covers.andThen hc).mono fun _ _ _ _ hl => ⟨rfl, hl⟩
    | false =>
      obtain ⟨t, hrecalls, hturns⟩ := turns_switchToWriter h
      have ht := hrecalls.remembers
      exact (hu.covers.andThen (hturns.covers ht hpu hou)).mono fun _ _ _ _ hf => hf.elim
  rcases hafter with ⟨e, rfl, hs'⟩ | ⟨rfl, t, h, hs'⟩
  · exact hturn.thenStill hs'.covers
  · exact (hturn.thenStill (releases_releaseStale h).covers).thenStill hs'.covers

end Split

/-! ## Load balancing -/

namespace Stand

/-- What was kept for reading, and is not kept for writing, is closed when another link takes its place. -/
theorem Moves.steady_isClosed {l : HostLink} (h : s.Moves others l s') :
    s.world.Steady s'.world ∧ ∀ c, has c s.world.backend → holds s.splitter.reader (.direct c) = true →
      holds s.splitter.writer (.direct c) = false → s'.world.isClosed c = true := by
  have hoccupies : ∀ {t}, s.Occupies others l t → s.world.Steady t.world := fun h => h.keeps World.lenient_steady
  cases h with
  | fills empty occupies =>
    refine ⟨hoccupies occupies, fun c _ hr => ?_⟩
    obtain ⟨host, hr⟩ := holds_iff.1 hr
    rw [empty] at hr
    cases hr
  | @closes old _ _ _ earlier occupies _ closes letsGo =>
    obtain ⟨hclose, hclosed⟩ := closes_closeQuietly closes
    have hgone := keeps_world (World.lenient_steady.keeps_letGo old.1) letsGo
    refine ⟨(hoccupies occupies).trans (hclose.trans hgone), fun c hhas hr _ => ?_⟩
    rw [earlier] at hr
    obtain ⟨host, ⟨⟩⟩ := holds_iff.1 hr
    exact hgone.later.closed c (hclosed c rfl ((hoccupies occupies).later.has c hhas))
  | @spares old _ _ earlier occupies kept letsGo =>
    have hgone := keeps_world (World.lenient_steady.keeps_letGo old.1) letsGo
    refine ⟨(hoccupies occupies).trans hgone, fun c _ hr hw => ?_⟩
    rw [earlier] at hr
    obtain ⟨host, ⟨⟩⟩ := holds_iff.1 hr
    rw [hw] at kept
    cases kept

/-- The link that is kept for reading is closed when another takes its place, unless it is kept for writing. -/
theorem Moves.covers {l : HostLink} (h : s.Moves others l s') (ho : s.seats.OnReader) :
    s.Covers (fun _ => False) s' := by
  obtain ⟨p, ha, hl⟩ := h.leads
  obtain rfl := hl.seats
  have hwriter : s'.splitter.writer = s.splitter.writer := ha.writer_eq
  have hstale : s'.splitter.stale = s.splitter.stale := ha.stale_eq
  obtain ⟨hsteady, hclosed⟩ := h.steady_isClosed
  refine .of_steady hsteady fun hacc c hc hopen hh hn => ?_
  have hkept : holds s.splitter.reader (.direct c) = true := by
    rcases hh.of_lost hn hwriter hstale with ⟨host, hcur⟩ | hr
    · obtain ⟨k, hk, hr⟩ := ho
      obtain rfl : k = (.direct c, host) := Option.some.inj (hk.symm.trans hcur)
      exact hr
    · exact hr
  have hnot : holds s.splitter.writer (.direct c) = false := by
    refine Bool.eq_false_iff.2 fun hw => hn ?_
    obtain ⟨host, hw⟩ := holds_iff.1 hw
    exact .inl (.inr (.inl ⟨host, hwriter.trans hw⟩))
  rw [hclosed c (hacc c hc) hkept hnot] at hopen
  cases hopen

/-- Load balancing loses nothing if the current link is the one kept for reading. -/
theorem Rotates.covers (h : s.Rotates others s') (hp : s.service.providers.pooled = none) (ho : s.seats.OnReader) :
    s.Covers (fun _ => False) s' := by
  have hpick : s.Covers (fun _ => False) s.afterPick := .still (.refl _) rfl
  cases h with
  | few => exact .refl _
  | unpicked | kept => exact hpick
  | misses _ _ attempt noted =>
    have hattempt := (covers_connect (by exact hp) attempt).1
    exact hpick.andThen ((hattempt.mono fun _ _ _ _ he => nomatch he).andThen noted.covers)
  | @moves host _ _ _ _ _ _ attempt noted moves =>
    obtain ⟨hattempt, hseats, -⟩ := covers_connect (by exact hp) attempt
    have hmoves := moves_moveReader moves
    have hmove := hmoves.covers (by rw [noted.seats_eq, hseats]; exact ho)
    -- the connection that was opened is the one that is read from
    refine hpick.andThen (((hattempt.thenStill noted.covers).thenStill hmove).mono ?_)
    rintro c - - hn ⟨⟩
    obtain ⟨p, ha, hl⟩ := hmoves.leads
    refine hn (.inl (.inr (.inr ⟨host, ?_⟩)))
    rw [hl.seats]
    cases ha <;> rfl

end Stand

/-! ## Giving links up -/

/-- Of links that are given up, those other than the current one are closed. -/
theorem Stand.Discards.steady_isClosed {w : World D} {current : Option Link} {closed : List Link}
    {links : List HostLink}
    (h : Discards others current closed links s s') (hw : Backend.Later has w.backend s.world.backend)
    (hclosed : ∀ c, .direct c ∈ closed → has c w.backend → s.world.isClosed c = true) :
    s.world.Steady s'.world ∧ ∀ c host, (.direct c, host) ∈ links → current ≠ some (.direct c) →
      has c w.backend → s'.world.isClosed c = true := by
  induction h with
  | done => exact ⟨.refl _, nofun⟩
  | @spares l _ _ _ _ _ spared letsGo _ ih =>
    have hgone := keeps_world (World.lenient_steady.keeps_letGo l.1) letsGo
    obtain ⟨hrest, hlinks⟩ := ih (hw.trans hgone.later) fun c hc hhas => hgone.later.closed c (hclosed c hc hhas)
    refine ⟨hgone.trans hrest, fun c host hc hne hhas => ?_⟩
    rcases List.mem_cons.1 hc with rfl | hc
    · exact (hgone.trans hrest).later.closed c (hclosed c (spared.resolve_left hne) hhas)
    · exact hlinks c host hc hne hhas
  | @closes l closed _ s _ _ t _ noted closes letsGo _ ih =>
    have hnoted := noted.world.steady
    obtain ⟨hclose, hclosed'⟩ := closes_closeQuietly closes
    have hgone := keeps_world (World.lenient_steady.keeps_letGo l.1) letsGo
    have hsteady := hnoted.trans (hclose.trans hgone)
    have hall : ∀ c, .direct c ∈ l.1 :: closed → has c w.backend → t.world.isClosed c = true := by
      intro c hc hhas
      rcases List.mem_cons.1 hc with hl | hc
      · exact hgone.later.closed c (hclosed' c hl.symm ((hw.trans hnoted.later).has c hhas))
      · exact hsteady.later.closed c (hclosed c hc hhas)
    obtain ⟨hrest, hlinks⟩ := ih (hw.trans hsteady.later) hall
    refine ⟨hsteady.trans hrest, fun c host hc hne hhas => ?_⟩
    rcases List.mem_cons.1 hc with rfl | hc
    · exact hrest.later.closed c (hall c List.mem_cons_self hhas)
    · exact hlinks c host hc hne hhas

namespace Split

/-- Giving up the kept links closes those that are not current. -/
theorem covers_discardKept (h : Split.Ends others discardKept s a s') : s.Covers (fun _ => False) s' := by
  have hseats := (ends_discardKept h).1.seats
  -- nothing is closed yet
  have hnone : ∀ c, .direct c ∈ ([] : List Link) → has c s.world.backend → s.world.isClosed c = true := nofun
  obtain ⟨hsteady, hclosed⟩ := (discards_discardKept h).steady_isClosed (.refl s.world.backend) hnone
  refine .of_steady hsteady fun ha c hc hopen hh hn => ?_
  rw [hseats] at hn
  -- whoever has lost its seat was kept and is not current
  have hcurrent : s.service.link? ≠ some (.direct c) := by
    intro hl
    obtain ⟨l, hl, hc⟩ := Option.map_eq_some_iff.1 hl
    exact hn (.inl (.inl ⟨l.2, by rw [← hc]; exact hl⟩))
  have hmem : ∃ host, (.direct c, host) ∈ s.splitter.writer.toList ++ s.splitter.reader.toList := by
    rcases hh with (hcur | ⟨host, hw⟩ | ⟨host, hr⟩) | hst
    · exact absurd (.inl (.inl hcur)) hn
    · exact ⟨host, List.mem_append_left _ (Option.mem_toList.2 hw)⟩
    · exact ⟨host, List.mem_append_right _ (Option.mem_toList.2 hr)⟩
    · exact absurd (.inr hst) hn
  obtain ⟨host, hmem⟩ := hmem
  rw [hclosed c host hmem hcurrent (ha c hc)] at hopen
  cases hopen

/-- Marking another link as stale loses nothing if what was stale is current. -/
theorem covers_setStale {stale : Option Link} (hst : s.seats.stale = none ∨ s.seats.IsLost)
    (h : Split.Ends others (setStale stale) s a s') : s.Covers (fun _ => False) s' := by
  have hseats := (leads_setStale h).seats
  refine .of_steady (World.lenient_steady.keeps_setStale stale h) fun _ c _ _ hh hn => hn ?_
  rw [hseats]
  rcases hh with hh | hc
  · exact .inl hh
  · rcases hst with hnone | ⟨l, hl, hlost⟩
    · rw [hnone] at hc; cases hc
    · have he : l.1 = .direct c := Option.some.inj (hlost.symm.trans hc)
      exact .inl (.inl ⟨l.2, by rw [← he]; exact hl⟩)

end Split

/-- A failover gives up the kept links and leaves the current one behind, and a close gives all of them up. -/
theorem Stand.Returns.covers {op : Operation} {ans : Answer} (h : s.Returns others op ans s')
    (hst : s.seats.stale = none ∨ s.seats.IsLost) : s.Covers (fun _ => False) s' := by
  cases h with
  | passes => exact .refl _
  | breaks _ _ noted discards leaves =>
    refine (noted.covers.andThen (covers_discardKept discards)).andThen (covers_setStale ?_ leaves)
    rw [(ends_discardKept discards).1.seats, noted.seats_eq]
    exact hst
  | closes discards clears =>
    have hclear := covers_setStale (by rw [(ends_discardKept discards).1.seats]; exact hst) clears
    exact ((covers_discardKept discards).andThen hclear).andThen (.still (.refl _) rfl)

end ReplicaRouter
