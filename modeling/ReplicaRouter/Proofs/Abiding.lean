import ReplicaRouter.Proofs.Sheltering
import ReplicaRouter.Proofs.Touring
/-
Borrowed links that are within reach stay lent, unless somebody else gives them back: a switch closes nothing but the
link that a failover left behind, load balancing nothing but the one that was read from before, and neither has another
place by then.
Main statements: `Split.shelters_switchTo`, `Tour.shelters` and `Session.Opens.shelters`.
-/
namespace ReplicaRouter

variable {D : Type} {others : World D → World D → Prop}

/-! ## Switches -/

section Switches

variable {spares : Prop} {i : HandleId} {n : Nat} [Bystanders others] [Backend D]
  [Frame others (World.Heeds (D := D) i)] {s u v s' : Stand D} {l : HostLink} {r : Except RouteError Unit} {a : Unit}

namespace Stand

omit [Bystanders others] in
theorem Recalls.shelters (h : s.Recalls others u) (hs : s.Shelters spares i n) : u.Shelters spares i n := by
  cases h with
  | nothing => exact hs
  | @calls l _ usable remembers =>
    have hl : ∀ k, some l = some k → k.1.Lives spares i s.world := fun k hk => by
      obtain rfl := Option.some.inj hk
      exact Seats.Shelters.lives hs (.inl (isCurrent_of_usable usable).reaches)
    replace remembers := Split.after_get remembers
    replace remembers := Split.after_world remembers
    split at remembers <;> split at remembers
    · exact Split.shelters_setWriter remembers hs hl
    · exact (Split.ends_pure.1 remembers).2 ▸ hs
    · exact Split.shelters_setReader remembers hs hl
    · exact (Split.ends_pure.1 remembers).2 ▸ hs

theorem Fetches.shelters {x : Except RouteError HostLink} (h : s.Fetches others x s') (hs : s.Shelters spares i n) :
    s'.Shelters spares i n ∧ ∀ l, x = .ok l → l.1.Lives spares i s'.world := by
  -- the link that is found is kept for writing then
  have hkept : ∀ {t : Stand D} {k l : HostLink}, t.Shelters spares i n → t.splitter.writer = some k →
      Except.ok (ε := RouteError) k = .ok l → l.1.Lives spares i t.world := fun ht hk hl => by
    obtain rfl := Except.ok.inj hl
    exact Seats.Shelters.lives ht (.inl (.inr (.inl ⟨_, hk⟩)))
  cases h with
  | kept slot => exact ⟨hs, fun _ => hkept hs (Option.filter_eq_some_iff.1 slot).1⟩
  | @current l _ _ usable _ sets =>
    have hl : l.1.Lives spares i s.world := Seats.Shelters.lives hs (.inl (isCurrent_of_usable usable).reaches)
    have hs' := Split.shelters_setWriter sets hs fun k hk => Option.some.inj hk ▸ hl
    exact ⟨hs', fun _ => hkept hs' (by rw [(Split.ends_setWriter sets).2])⟩
  | missing => exact ⟨hs, nofun⟩
  | refused _ _ _ attempt => exact ⟨(Split.shelters_connect attempt hs).1, nofun⟩
  | dialed _ _ _ attempt sets =>
    obtain ⟨hu, hl⟩ := Split.shelters_connect attempt hs
    have hs' := Split.shelters_setWriter sets hu fun k hk => Option.some.inj hk ▸ (hl _ rfl).1
    exact ⟨hs', fun _ => hkept hs' (by rw [(Split.ends_setWriter sets).2])⟩

theorem Seeks.shelters {room : Nat} {hosts : List Host} {found : Option HostLink}
    (h : Seeks others room hosts s found s') (hs : s.Shelters spares i n) :
    s'.Shelters spares i n ∧ ∀ l, found = some l → l.1.Lives spares i s'.world := by
  have hpick : ∀ {s u : Stand D} {size : Nat} {j : Option Nat}, Split.Ends others (Split.pick size) s j u →
      s.Shelters spares i n → u.Shelters spares i n := fun picks hs => by
    rw [(Split.ends_pick picks).2]
    exact hs
  induction h with
  | spent => exact ⟨hs, nofun⟩
  | unpicked picks => exact ⟨hpick picks hs, nofun⟩
  | connects picks _ attempt =>
    obtain ⟨hs', hl⟩ := Split.shelters_connect attempt (hpick picks hs)
    refine ⟨hs', fun k hk => ?_⟩
    obtain rfl := Option.some.inj hk
    exact (hl _ rfl).1
  | misses picks _ attempt noted _ ih =>
    exact ih (noted.shelters (Split.shelters_connect attempt (hpick picks hs)).1)

theorem Settles.shelters (h : s.Settles others r s') (hs : s.Shelters spares i n) : s'.Shelters spares i n := by
  cases h with
  | fetches fetches reads =>
    obtain ⟨hu, hl⟩ := fetches.shelters hs
    exact Split.shelters_readFrom reads hu (hl _ rfl)
  | fails fetches => exact (fetches.shelters hs).1

theorem Leaves.shelters (h : s.Leaves others r s') (hs : s.Shelters spares i n) : s'.Shelters spares i n := by
  cases h with
  | @reuses l u _ slot noted arrives =>
    have hslot := (Option.filter_eq_some_iff.1 slot).1
    have hl : l.1.Lives spares i s.world := Seats.Shelters.lives hs (.inl (.inr (.inr ⟨l.2, hslot⟩)))
    exact Split.shelters_makeCurrent arrives (noted.shelters hs) (hl.noted noted.world)
  | opens _ search noted reads =>
    obtain ⟨hu, hl⟩ := (Split.seeks_connectReader search).shelters hs
    exact Split.shelters_readFrom reads (noted.shelters hu) ((hl _ rfl).noted noted.world)
  | @fallsBack _ _ _ _ t' _ _ search fetches noted counts reads =>
    obtain ⟨hv, hl⟩ := fetches.shelters ((Split.seeks_connectReader search).shelters hs).1
    obtain ⟨hservice, hsplitter, hn⟩ := Split.ends_countFallback counts
    have ht' : t'.Shelters spares i n :=
      (noted.shelters hv).heeds (by rw [seats, hservice, hsplitter]; rfl) hn.heeds
    exact Split.shelters_readFrom reads ht' (((hl _ rfl).noted noted.world).noted hn)
  | fails _ search fetches => exact (fetches.shelters ((Split.seeks_connectReader search).shelters hs).1).1

theorem TurnsToReader.shelters (h : s.TurnsToReader others u r s') (hu : u.Shelters spares i n) :
    s'.Shelters spares i n := by
  cases h with
  | stays | refused => exact hu
  | shares _ _ _ _ sets =>
    exact Split.shelters_setReader sets hu fun k hk => Seats.Shelters.lives hu (.inl (.inr (.inl ⟨k.2, hk⟩)))
  | settles _ _ _ settles => exact settles.shelters hu
  | leaves _ _ _ leaves => exact leaves.shelters hu

theorem TurnsToWriter.shelters (h : s.TurnsToWriter others u r s') (hu : u.Shelters spares i n) :
    s'.Shelters spares i n := by
  cases h with
  | stays | refused => exact hu
  | fetches _ _ fetches noted arrives =>
    obtain ⟨hv, hl⟩ := fetches.shelters hu
    exact Split.shelters_makeCurrent arrives (noted.shelters hv) ((hl _ rfl).noted noted.world)
  | fails _ _ fetches => exact (fetches.shelters hu).1

omit [Bystanders others] in
/-- The link that was left behind is closed. If it is to be spared, it has no other place then. -/
theorem Releases.shelters (h : s.Releases others s') (hs : s.Shelters spares i n)
    (hout : s.splitter.stale = some (.pooled i) → ¬ s.seats.Reaches (.pooled i)) : s'.Shelters spares i n := by
  cases h with
  | waits | clean => exact hs
  | @frees l u _ _ sound stale noted closes letsGo =>
    have hput : ({ s with splitter := { s.splitter with stale := none } } : Stand D).Shelters spares i
        (n + Link.tally (some l) i) := by
      have hnone : s.seats.Shelters spares i (n + Link.tally none i) s.world := by
        rw [Link.tally_none]
        exact hs
      rw [← stale]
      refine Seats.Shelters.put hnone nofun ?_
      simp only [Seats.places, seats]
      omega
    refine Split.shelters_letGo letsGo (Split.shelters_closeQuietly closes (noted.shelters hput) ?_)
    rintro - rfl
    rw [noted.seats_eq, Seats.places_eq_zero_iff]
    rintro ((⟨host, hc, -⟩ | hk) | hst)
    · exact sound ⟨(.pooled i, host), hc, stale⟩
    · exact hout stale (.inr hk)
    · cases hst

end Stand

namespace Split

theorem shelters_turn {readOnly : Bool}
    (h : Split.Ends others (if readOnly then switchToReader else switchToWriter) s r v) (hs : s.Shelters spares i n) :
    v.Shelters spares i n := by
  cases readOnly with
  | true =>
    obtain ⟨u, hrecalls, hturns⟩ := turns_switchToReader h
    exact hturns.shelters (hrecalls.shelters hs)
  | false =>
    obtain ⟨u, hrecalls, hturns⟩ := turns_switchToWriter h
    exact hturns.shelters (hrecalls.shelters hs)

/-- What a switch closes or lets go of for the last time has no place then. -/
theorem shelters_switchTo {readOnly : Bool} (h : Split.Ends others (switchTo readOnly) s r s')
    (hs : s.Shelters spares i n) (tidy : s.seats.Tidy) : s'.Shelters spares i n := by
  obtain ⟨u, v, hn, hturn, hafter⟩ := ends_turn h
  have hv := shelters_turn hturn (hn.shelters hs)
  rcases hafter with ⟨e, -, hn'⟩ | ⟨-, t, ht, hn'⟩
  · exact hn'.shelters hv
  · refine hn'.shelters ((releases_releaseStale ht).shelters hv fun hl hreach => ?_)
    obtain ⟨q, hswitches, hleads⟩ := switches_turn hturn
    obtain rfl := hleads.seats
    have hstale : u.seats.stale = some (.pooled i) := hswitches.stale_eq.symm.trans hl
    -- what was left behind was neither within reach nor is it new
    rcases hswitches.reaches hreach with hreach | hnew
    · rw [hn.seats_eq] at hreach hstale
      exact tidy.not_reaches hstale hreach
    · have hlives := Seats.Shelters.lives (hn.shelters hs) (.inr hstale)
      exact absurd (hlives rfl).1 (Nat.not_lt.2 hnew.newly.1)

end Split

end Switches

/-! ## Calls -/

section Calls

variable {spares : Prop} {i : HandleId} {n : Nat} [Bystanders others] [Backend D]
  [Frame others (World.Heeds (D := D) i)] {s u v s' : Stand D} {l : HostLink} {r : Except RouteError Unit} {a : Unit}
  {op : Operation} {ans : Answer}

namespace Stand

omit [Bystanders others] in
/-- The link that was read from before is in hand when another one has taken its place. -/
theorem Occupies.shelters (h : s.Occupies others l s') (hs : s.Shelters spares i n) (hl : l.1.Lives spares i s.world) :
    s'.Shelters spares i (n + Link.tally (s.splitter.reader.map Prod.fst) i) := by
  obtain ⟨holds, arrives⟩ := h
  obtain ⟨-, hsplitter, -⟩ := Split.ends_hold holds
  obtain ⟨hu, hv, hlu⟩ := Split.shelters_hold holds hs fun k hk => Option.some.inj hk ▸ hl
  refine Split.shelters_makeCurrent arrives (Seats.Shelters.put hu (fun k hk => ?_) ?_) (hlu l rfl)
  · exact Option.some.inj hk ▸ hlu l rfl
  · simp only [Seats.places, seats, hsplitter, hv, Option.map_some]
    omega

theorem Moves.shelters (h : s.Moves others l s') (hs : s.Shelters spares i n) (hl : l.1.Lives spares i s.world)
    (tidy : s.seats.Tidy) (hnew : s.seats.Keeps (.pooled i) → l.1 ≠ .pooled i) : s'.Shelters spares i n := by
  cases h with
  | fills empty occupies =>
    have hu := occupies.shelters hs hl
    rw [empty] at hu
    exact hu
  | @closes old u _ _ earlier occupies free closes letsGo =>
    have hu := occupies.shelters hs hl
    rw [earlier] at hu
    refine Split.shelters_letGo letsGo (Split.shelters_closeQuietly closes hu fun _ hold => ?_)
    -- the link that made room is neither the new one nor that of the writer, and it was not left behind
    have hkept : s.seats.Keeps (.pooled i) := .inr ⟨old.2, by rw [← hold]; exact earlier⟩
    obtain ⟨q, harrives, hleads⟩ := occupies.leads
    obtain rfl := hleads.seats
    refine Seats.places_eq_zero_iff.2 ?_
    rintro (hreach | hst)
    · rcases harrives.reaches_onReader hreach with hsame | hwriter
      · exact hnew hkept hsame.symm
      · rw [← hold] at hwriter
        exact Bool.eq_false_iff.1 free (Splitter.holds_iff.2 hwriter)
    · exact (tidy _ (harrives.stale_eq.symm.trans hst)).2 hkept
  | spares earlier occupies _ letsGo =>
    have hu := occupies.shelters hs hl
    rw [earlier] at hu
    exact Split.shelters_letGo letsGo hu

theorem Rotates.shelters (h : s.Rotates others s') (hs : s.Shelters spares i n) (tidy : s.seats.Tidy) :
    s'.Shelters spares i n := by
  have hpicked : s.afterPick.Shelters spares i n := hs
  cases h with
  | few => exact hs
  | unpicked | kept => exact hpicked
  | misses _ _ attempt noted => exact noted.shelters (Split.shelters_connect attempt hpicked).1
  | @moves host l u v _ _ _ attempt noted moves =>
    obtain ⟨hu, hl⟩ := Split.shelters_connect attempt hpicked
    obtain ⟨hlives, hnew⟩ := hl l rfl
    have hseats : v.seats = s.seats := noted.seats_eq.trans (Split.ends_connect attempt).1.seats
    refine (Split.moves_moveReader moves).shelters (noted.shelters hu) (hlives.noted noted.world) ?_ fun hkept hl => ?_
    · rw [hseats]
      exact tidy
    · -- a link that is kept was there before
      rw [hseats] at hkept
      exact absurd (Seats.Shelters.lives hs (.inl (.inr hkept)) rfl).1 (Nat.not_lt.2 (hnew hl))

theorem Mends.shelters (h : s.Mends others r s') (hs : s.Shelters spares i n) (tidy : s.seats.Tidy) :
    s'.Shelters spares i n := by
  cases h with
  | sound => exact hs
  | switches _ noted switches =>
    refine Split.shelters_switchTo switches (noted.shelters hs) ?_
    rw [noted.seats_eq]
    exact tidy

theorem Weighs.shelters (h : s.Weighs others op s') (hs : s.Shelters spares i n) (tidy : s.seats.Tidy) :
    s'.Shelters spares i n := by
  cases h with
  | stays => exact hs
  | rotates _ rotates => exact (Split.rotates_rotateReader rotates).shelters hs tidy

theorem Enters.shelters {hd : Split.OperationHandling D} (h : s.Enters others op hd s') (hs : s.Shelters spares i n)
    (sound : s.Sound) (fresh : s'.world.opened.Nodup) : s'.Shelters spares i n := by
  cases h with
  | unswitched switches => exact Split.shelters_switchTo switches hs sound.tidy
  | @switched _ u switches =>
    have hu : u.Shelters spares i n := Split.shelters_switchTo switches hs sound.tidy
    exact hu
  | closes => exact hs
  | unmended _ mends => exact mends.shelters hs sound.tidy
  | mended _ mends weighs =>
    refine weighs.shelters (mends.shelters hs sound.tidy) (Seats.tidy_of_stale_eq_none ?_)
    exact (mends.recovers.releases sound (weighs.balances.upkeep.grows.nodup fresh)).1

omit [Bystanders others] in
/-- Links that are in hand are let go of, and those that are closed need not be spared. -/
theorem Discards.shelters {current : Option Link} {closed : List Link} {links : List HostLink}
    (h : Discards others current closed links s s') (hn : ¬ spares)
    (hs : s.Shelters spares i (n + Link.tallies links i)) : s'.Shelters spares i n := by
  induction h with
  | done => exact hs
  | spares _ letsGo _ ih =>
    rw [Link.tallies_cons, ← Nat.add_assoc] at hs
    exact ih (Split.shelters_letGo letsGo hs)
  | closes noted closes letsGo _ ih =>
    rw [Link.tallies_cons, ← Nat.add_assoc] at hs
    exact ih (Split.shelters_letGo letsGo
      (Split.shelters_closeQuietly closes (noted.shelters hs) fun hsp => absurd hsp hn))

end Stand

omit [Bystanders others] in
theorem Split.shelters_discardKept (h : Split.Ends others discardKept s a s') (hn : ¬ spares)
    (hs : s.Shelters spares i n) : s'.Shelters spares i n := by
  refine (discards_discardKept h).shelters hn ⟨?_, fun hsp => absurd hsp hn⟩
  have hheld := hs.held
  simp only [Seats.places, Stand.seats] at hheld
  simp only [Seats.places, Stand.seats, Link.tallies_append, Link.tallies_toList, Option.map_none, Link.tally_none]
  omega

omit [Bystanders others] in
/-- Where the handle is to be spared neither a close nor a failover may come back. -/
theorem Stand.Returns.shelters (h : s.Returns others op ans s') (hs : s.Shelters spares i n)
    (calm : spares → op ≠ .close ∧ ans.isFailover = false) : s'.Shelters spares i n := by
  cases h with
  | passes => exact hs
  | @breaks _ _ _ v _ _ failover noted discards leaves =>
    have hn : ¬ spares := fun hsp => by rw [(calm hsp).2] at failover; cases failover
    have hv := Split.shelters_discardKept discards hn (noted.shelters hs)
    exact Split.shelters_setStale leaves hv fun k hk => Seats.Shelters.lives hv (reaches_or_stale hk)
  | @closes _ _ v discards clears =>
    have hn : ¬ spares := fun hsp => (calm hsp).1 rfl
    have hv : v.Shelters spares i n :=
      Split.shelters_setStale clears (Split.shelters_discardKept discards hn hs) nofun
    exact hv

omit [Bystanders others] in
/-- Running an operation gives no link back, unless it is a close. -/
theorem Service.shelters_execute {p q : Place D} {x : Splitter} (h : Act.Ends others (Service.execute op) p ans q)
    (hs : (⟨p, x⟩ : Stand D).Shelters spares i n) (hop : spares → op ≠ .close) :
    (⟨q, x⟩ : Stand D).Shelters spares i n := by
  cases executes_execute h with
  | missing => exact hs
  | @runs l _ _ _ _ performs =>
    by_cases hclose : op = .close
    · have hretains := ((World.obliging_retains others i).keeps_perform (fun _ _ => trivial) op).ends performs
      exact Seats.Shelters.retains hs (fun hsp => hop hsp hclose) hretains
    · rw [perform_of_ne_close l hclose] at performs
      exact Seats.Shelters.heeds hs (((World.obliging_heeds others i).keeps_invoke l op).ends performs)

/-- Where the handle is to be spared a call may neither close the connection nor run into a failover. -/
theorem Leg.Taken.shelters {k : Leg D} (h : k.Taken others) (hs : k.before.toStand.Shelters spares i n)
    (sound : k.before.toStand.Sound) (fresh : k.after.world.opened.Nodup) (calm : spares → k.IsCalm) :
    k.after.toStand.Shelters spares i n := by
  rcases h.course with ⟨_, stays, _, _⟩ | ⟨_, _, _, _, entered⟩ | @⟨s₁, s₂, ans, passes⟩
  · rw [stays]
    exact hs
  · exact (Split.enters_onExecute entered).shelters hs sound fresh
  · have hs₁ := (Split.enters_onExecute passes.entered).shelters hs sound (passes.grows_after.nodup fresh)
    have hs₂ : s₂.Shelters spares i n := by
      have hs₂ := Service.shelters_execute (x := s₁.splitter) passes.performed hs₁ fun hsp => (calm hsp).stays
      rwa [show (⟨s₂.toPlace, s₁.splitter⟩ : Stand D) = s₂ from Stand.eq_of_place rfl passes.kept.symm] at hs₂
    exact (Split.returns_leaveFor passes.left).2.shelters hs₂ fun hsp =>
      ⟨(calm hsp).stays, passes.isFailover_eq_false (calm hsp)⟩

end Calls

/-! ## Tours -/

section Tours

variable {spares : Prop} {i : HandleId} {n : Nat} [Bystanders others] [Backend D]
  [Frame others (World.Heeds (D := D) i)] {s s' : Session D} {ds : List (Demand D)}

/-- A handle that no place has any more may go back. If it is to be spared, no failover and no close may happen. -/
theorem Tour.shelters (h : Tour others s ds s') (hs : s.toStand.Shelters spares i n) (sound : s.toStand.Sound)
    (fresh : s'.world.opened.Nodup) (calm : spares → ∀ d ∈ ds, d.IsCalm) : s'.toStand.Shelters spares i n := by
  induction h with
  | start => exact hs
  | aside _ change _ ih =>
    have hu := ih ((Bystanders.aside change).upkeep.grows.nodup fresh) calm
    exact hu.heeds rfl (Frame.bears change)
  | @call ds k tour taken ih =>
    have fresh₀ := taken.grows.nodup fresh
    have hu := ih fresh₀ fun hsp d hd => calm hsp d (List.mem_append_left _ hd)
    refine taken.shelters hu (tour.sound sound fresh₀) fresh fun hsp => ?_
    exact calm hsp _ (List.mem_append_right _ (List.mem_singleton_self _))
  | switch tour switches ih =>
    have fresh₀ := (Split.ends_switchTo switches).renews.grows.nodup fresh
    have hu := ih fresh₀ fun hsp d hd => calm hsp d (List.mem_append_left _ hd)
    exact Split.shelters_switchTo switches hu (tour.sound sound fresh₀).tidy

omit [Bystanders others] [Backend D] [Frame others (World.Heeds (D := D) i)] in
/-- A handle can be spared from when it is not given back. -/
theorem Stand.Shelters.spare {s : Stand D} (hs : s.Shelters False i n) (hi : ¬ s.world.Shut (.pooled i)) :
    s.Shelters True i n :=
  ⟨hs.held, fun _ hr => absurd hr hi⟩

/-- A new session holds the link that is current. -/
theorem Session.Opens.shelters (h : s.Opens others) : s.toStand.Shelters False i 0 := by
  obtain ⟨p, x, hcurrent, -, -, hwriter, hreader, hstale, -, hopen⟩ := h.opened
  obtain ⟨req, ans, l, v, t, u, hlast, hleave, ⟨hvt, hnt⟩, hset, hc⟩ := Connection.ends_open_steps hopen
  obtain ⟨_, p1, h1, hlast⟩ := Act.ends_bind.1 hlast
  obtain ⟨rfl, rfl⟩ := Act.ends_get.1 h1
  obtain ⟨hlast, hv⟩ := Act.ends_world.1 hlast
  obtain ⟨hx, ⟨host, hvu⟩, hgrows, hans⟩ := Split.ends_leaveConnect hleave
  have hx : x = s.splitter := by
    rw [show x = u.splitter from hx.symm]
    exact (Prod.mk.inj (List.cons.inj (congrArg Connection.chain hc)).1).2.symm
  -- nothing has a place before the link becomes current, and the link is new
  have hplaces : (⟨t, x⟩ : Stand D).seats.places i = 0 := by
    simp [Seats.places, Stand.seats, hvt, hvu, hv, hcurrent, hwriter, hreader, hstale]
  have hlives : l.Lives False i t.world := by
    rintro rfl
    have hnew := (Providers.meets_connect ..).ends hlast
    have hknown := ((hnew.1.newly _ (hans _ rfl)).later (hgrows.trans hnt.upkeep.grows)).knows
    exact ⟨hknown, False.elim⟩
  have hs : (⟨s.toPlace, x⟩ : Stand D).Shelters False i 0 :=
    Service.shelters_setCurrent (x := x) hset ⟨by rw [hplaces]; exact Nat.zero_le _, False.elim⟩ hlives
  rwa [show (⟨s.toPlace, x⟩ : Stand D) = s.toStand from Stand.eq_of_place rfl hx] at hs

end Tours

end ReplicaRouter
