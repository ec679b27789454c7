import ReplicaRouter.Proofs.Searching
/-
Which connections are hung up where nothing is pooled: only those that are out of reach by then. A switch hangs up
nothing but the link that a failover left behind, and load balancing nothing but the one that was read from before.
Main statements: `Split.clears_switchTo` and `Tour.clears`.
-/
namespace ReplicaRouter

variable {D : Type} {others : World D → World D → Prop}

open Splitter

/-! ## Worlds -/

namespace World

variable {c d : ConnId} {w w' : World D}

/-- Between two worlds the connection was not hung up. -/
def Exempts (c : ConnId) (w w' : World D) : Prop := w'.Shut (.direct c) → w.Shut (.direct c)

theorem Exempts.of_journal_eq (h : w'.journal = w.journal) : w.Exempts c w' := fun ⟨r, hr⟩ => ⟨r, h ▸ hr⟩

theorem Exempts.trans {v : World D} (h1 : w.Exempts c v) (h2 : v.Exempts c w') : w.Exempts c w' := fun hs => h1 (h2 hs)

instance [Bystanders others] (c : ConnId) : Frame others (Exempts (D := D) c) :=
  ⟨fun _ => id, Exempts.trans, fun h => .of_journal_eq (Bystanders.aside h).journal⟩

/-- Whatever is written down but that the connection is closed. -/
theorem Exempts.note {e : Entry} (he : e.closedConn? ≠ some c) (w : World D) : w.Exempts c (Journaled.note e w) := by
  rintro ⟨r, hr⟩
  rcases List.mem_cons.1 hr with rfl | hr
  · exact absurd rfl he
  · exact ⟨r, hr⟩

theorem Silent.exempts (h : w.Silent w') (c : ConnId) : w.Exempts c w' := by
  obtain ⟨es, he, hj⟩ := h
  rintro ⟨r, hr⟩
  rw [hj] at hr
  rcases List.mem_append.1 hr with hr | hr
  · cases he _ hr
  · exact ⟨r, hr⟩

theorem lenient_exempts (c : ConnId) : Lenient (Exempts (D := D) c) where
  edit backend journal := (lenient_silent.edit backend journal).exempts c
  note uncalled w := (lenient_silent.note uncalled w).exempts c

variable [Bystanders others]

theorem exempts_call {α : Type} (x : Routine D α) {entry : α → Entry} (he : ∀ a, (entry a).closedConn? ≠ some c) :
    Routine.Keeps others (Exempts c) (do let a ← x.focus backendPart; Routine.note (entry a); return a) := fun w =>
  (meets_call x entry w).mono (fun _ h => .of_journal_eq h.journal) fun _ _ ⟨v, hv, hw⟩ =>
    hw ▸ (Exempts.of_journal_eq hv.journal).trans (.note (he _) v)

variable [Backend D]

theorem exempts_dial (protocol : String) (host : Host) (props : Properties) :
    Routine.Keeps others (Exempts c) (dial (D := D) protocol host props) :=
  exempts_call _ fun _ => nofun

theorem exempts_send (d : ConnId) (op : Operation) : Routine.Keeps others (Exempts c) (send (D := D) d op) :=
  Routine.keeps_bind Routine.keeps_get fun _ => exempts_call _ fun _ => nofun

/-- Closing a connection hangs up no other one. -/
theorem exempts_closeQuietly (hd : d ≠ c) :
    Routine.Keeps others (Exempts c) ((Link.direct d).closeQuietly (D := D)) := by
  refine Routine.keeps_bind (exempts_call _ fun _ hc => hd (Option.some.inj hc)) fun r => ?_
  cases r with
  | ok _ => exact Routine.keeps_pure _
  | error e => exact (lenient_exempts c).keeps_log _ _

theorem exempts_invoke (l : Link) (op : Operation) : Routine.Keeps others (Exempts c) (l.invoke (D := D) op) := by
  cases l with
  | direct d => exact exempts_send d op
  | pooled h =>
    refine Routine.keeps_bind Routine.keeps_get fun w => ?_
    dsimp only
    split
    · exact Routine.keeps_pure _
    · exact exempts_send _ op

end World

variable [Backend D] [Bystanders others] {c : ConnId}

/-! ## Ways to new links -/

/-- Where nothing is pooled an attempt to connect hangs up nothing. -/
theorem Service.exempts_connect {p q : Place D} {host : Host} {props : Properties} {r : Except RouteError Link}
    (hp : p.service.providers.pooled = none) (h : Act.Ends others (Service.connect host props) p r q) :
    p.world.Exempts c q.world := by
  obtain ⟨v, u, hv, h⟩ := Act.ends_bind.1 h
  obtain ⟨rfl, rfl⟩ := Act.ends_get.1 hv
  obtain ⟨h, -⟩ := Act.ends_world.1 h
  have hnone : p.service.providers.pooledFor? host = none := by simp [Providers.pooledFor?, hp]
  refine Routine.Keeps.ends (R := World.Exempts c) ?_ h
  refine Routine.keeps_bind ((World.lenient_exempts c).keeps_log _ _) fun _ => ?_
  rw [hnone]
  exact Routine.keeps_bind (World.exempts_dial _ _ _) fun _ => Routine.keeps_pure _

theorem Place.Tries.exempts {p q : Place D} {props : Properties} {hosts : List Host}
    (h : p.Tries others props hosts q) (hp : p.service.providers.pooled = none) : p.world.Exempts c q.world := by
  induction h with
  | start => exact id
  | miss attempt service noted _ ih =>
    have hservice := service.trans (Service.ends_connect attempt).1
    exact ((Service.exempts_connect hp attempt).trans (noted.silent.exempts c)).trans (ih (by rw [hservice]; exact hp))

variable {s u v s' : Stand D} {l : HostLink} {a : Unit} {r : Except RouteError Unit}

namespace Split

theorem exempts_connect {host : Host} {props : Properties} {r : Except RouteError Link}
    (hp : s.service.providers.pooled = none) (h : Split.Ends others (Split.act (Service.connect host props)) s r s') :
    s.world.Exempts c s'.world :=
  Service.exempts_connect hp (ends_act.1 h).1

theorem exempts_connectReader {found : Option HostLink} (hp : s.service.providers.pooled = none)
    (h : Split.Ends others connectReader s found s') : s.world.Exempts c s'.world := by
  obtain ⟨-, -, hfound⟩ := tries_connectReader h
  cases found with
  | some l =>
    obtain ⟨tried, rest, p, -, htries, hconnect⟩ := hfound
    exact (htries.exempts hp).trans (Service.exempts_connect (by rw [htries.service_eq]; exact hp) hconnect)
  | none =>
    obtain ⟨tried, htries, -⟩ := hfound
    exact htries.exempts hp

theorem exempts_setWriter {slot : Option HostLink} (h : Split.Ends others (setWriter slot) s a s') :
    s.world.Exempts c s'.world :=
  (World.lenient_exempts c).keeps_setWriter slot h

theorem exempts_makeCurrent (h : Split.Ends others (makeCurrent l) s a s') : s.world.Exempts c s'.world :=
  (World.lenient_exempts c).keeps_makeCurrent l h

theorem exempts_readFrom (h : Split.Ends others (readFrom l) s a s') : s.world.Exempts c s'.world :=
  (World.lenient_exempts c).keeps_readFrom l h

end Split

/-! ## Turns -/

namespace Stand

theorem Fetches.exempts {x : Except RouteError HostLink} (h : s.Fetches others x s')
    (hp : s.service.providers.pooled = none) : s.world.Exempts c s'.world := by
  cases h with
  | kept | missing => exact id
  | current _ _ _ sets => exact Split.exempts_setWriter sets
  | refused _ _ _ attempt => exact Split.exempts_connect hp attempt
  | dialed _ _ _ attempt sets => exact (Split.exempts_connect hp attempt).trans (Split.exempts_setWriter sets)

theorem Settles.exempts (h : s.Settles others r s') (hp : s.service.providers.pooled = none) :
    s.world.Exempts c s'.world := by
  cases h with
  | fetches fetches reads => exact (fetches.exempts hp).trans (Split.exempts_readFrom reads)
  | fails fetches => exact fetches.exempts hp

theorem Leaves.exempts (h : s.Leaves others r s') (hp : s.service.providers.pooled = none) :
    s.world.Exempts c s'.world := by
  have hsearch : ∀ {found u}, Split.Ends others Split.connectReader s found u → u.service.providers.pooled = none :=
    fun search => by rw [(Split.tries_connectReader search).1]; exact hp
  cases h with
  | reuses _ noted arrives => exact (noted.world.silent.exempts c).trans (Split.exempts_makeCurrent arrives)
  | opens _ search noted reads =>
    exact (Split.exempts_connectReader hp search).trans
      ((noted.world.silent.exempts c).trans (Split.exempts_readFrom reads))
  | fallsBack _ search fetches noted counts reads =>
    have hcounts := (Split.ends_countFallback counts).2.2
    have hnoted := (noted.world.trans hcounts).silent.exempts c
    exact (Split.exempts_connectReader hp search).trans
      ((fetches.exempts (hsearch search)).trans (hnoted.trans (Split.exempts_readFrom reads)))
  | fails _ search fetches => exact (Split.exempts_connectReader hp search).trans (fetches.exempts (hsearch search))

theorem TurnsToReader.exempts (h : s.TurnsToReader others u r s') (hp : u.service.providers.pooled = none) :
    u.world.Exempts c s'.world := by
  cases h with
  | stays | refused => exact id
  | shares _ _ _ _ sets => exact (World.lenient_exempts c).keeps_setReader _ sets
  | settles _ _ _ settles => exact settles.exempts hp
  | leaves _ _ _ leaves => exact leaves.exempts hp

theorem TurnsToWriter.exempts (h : s.TurnsToWriter others u r s') (hp : u.service.providers.pooled = none) :
    u.world.Exempts c s'.world := by
  cases h with
  | stays | refused => exact id
  | fetches _ _ fetches noted arrives =>
    exact (fetches.exempts hp).trans ((noted.world.silent.exempts c).trans (Split.exempts_makeCurrent arrives))
  | fails _ _ fetches => exact fetches.exempts hp

/-- Releasing the link that was left behind hangs up no other one. -/
theorem Releases.exempts (h : s.Releases others s')
    (hst : ∀ l, s.splitter.stale = some l → ∃ d, l = .direct d ∧ d ≠ c) : s.world.Exempts c s'.world := by
  cases h with
  | waits | clean => exact id
  | frees _ stale noted closes letsGo =>
    obtain ⟨d, rfl, hd⟩ := hst _ stale
    have hclose := (World.exempts_closeQuietly hd).ends (Split.ends_world.1 closes).1
    have hletGo := ((World.lenient_exempts c).keeps_letGo _).ends (Split.ends_world.1 letsGo).1
    exact (noted.world.silent.exempts c).trans (hclose.trans hletGo)

end Stand

/-! ## Switches -/

namespace Split

variable {readOnly : Bool}

theorem exempts_turn (hp : s.service.providers.pooled = none)
    (h : Split.Ends others (if readOnly then switchToReader else switchToWriter) s r v) :
    s.world.Exempts c v.world := by
  cases readOnly with
  | true =>
    obtain ⟨u, hrecalls, hturn⟩ := turns_switchToReader h
    have hu := hrecalls.remembers
    exact (hu.books.silent.exempts c).trans (hturn.exempts (by rw [hu.service]; exact hp))
  | false =>
    obtain ⟨u, hrecalls, hturn⟩ := turns_switchToWriter h
    have hu := hrecalls.remembers
    exact (hu.books.silent.exempts c).trans (hturn.exempts (by rw [hu.service]; exact hp))

/-- A switch hangs up nothing but the link that was left behind. -/
theorem exempts_switchTo (hu : s.Unpooled) (h : Split.Ends others (switchTo readOnly) s r s') :
    s.world.Exempts c s'.world ∨ s.splitter.stale = some (.direct c) := by
  obtain ⟨s₁, v, hn, hturn, hafter⟩ := ends_turn h
  have hv : s.world.Exempts c v.world :=
    (hn.world.silent.exempts c).trans (exempts_turn (by rw [hn.service]; exact hu.providers) hturn)
  rcases hafter with ⟨e, -, hn'⟩ | ⟨-, t, ht, hn'⟩
  · exact .inl (hv.trans (hn'.world.silent.exempts c))
  · by_cases hst : s.splitter.stale = some (.direct c)
    · exact .inr hst
    · obtain ⟨q, hswitches, hleads⟩ := switches_turn hturn
      have hstale : v.splitter.stale = s.splitter.stale :=
        (congrArg Seats.stale hleads.seats).trans (hswitches.stale_eq.trans (congrArg Seats.stale hn.seats_eq))
      refine .inl (hv.trans (World.Exempts.trans ?_ (hn'.world.silent.exempts c)))
      refine (releases_releaseStale ht).exempts fun l hl => ?_
      obtain ⟨d, rfl⟩ := hu.direct l (.inr (hstale.symm.trans hl))
      exact ⟨d, rfl, fun hd => hst (by rw [← hstale, hl, hd])⟩

end Split

/-! ## Out of reach -/

namespace Stand

/-- A connection of its own that was hung up between the two stands is out of reach by then. -/
def Clears (s s' : Stand D) : Prop :=
  ∀ c, s'.world.Shut (.direct c) →
    s.world.Shut (.direct c) ∨ s'.world.Knows (.direct c) ∧ ¬ s'.seats.Reaches (.direct c)

omit [Backend D] in
theorem Clears.of_exempts (h : ∀ c, s.world.Exempts c s'.world) : s.Clears s' := fun c hc => .inl (h c hc)

omit [Backend D] in
/-- What is out of reach stays so, as only new links come within reach. -/
theorem Clears.trans (h1 : s.Clears u) (h2 : u.Clears s') (hr : u.Renews s') (fresh : s'.world.opened.Nodup) :
    s.Clears s' := by
  intro c hc
  rcases h2 c hc with hc | hout
  · refine (h1 c hc).imp_right fun ⟨hk, hout⟩ => ⟨hk.mono hr.grows, fun hreach => ?_⟩
    rcases hr.reaches _ hreach with hreach | hn
    · exact hout hreach
    · exact hn.newly.not_knows fresh hk
  · exact .inr hout

end Stand

namespace Split

variable {readOnly : Bool}

/-- What a switch hangs up is out of reach then. -/
theorem clears_switchTo (hs : s.Sound) (hu : s.Unpooled) (fresh : s'.world.opened.Nodup)
    (h : Split.Ends others (switchTo readOnly) s r s') : s.Clears s' := by
  intro c hc
  have hrenews := (ends_switchTo h).renews
  rcases exempts_switchTo hu h with hexempts | hst
  · exact .inl (hexempts hc)
  · have hknown := hs.known _ (.inr hst)
    refine .inr ⟨hknown.mono hrenews.grows, fun hreach => ?_⟩
    rcases hrenews.reaches _ hreach with hreach | hn
    · exact hs.tidy.not_reaches hst hreach
    · exact hn.newly.not_knows fresh hknown

end Split

namespace Stand

/-- Load balancing hangs up nothing but the link that was read from before, and that only if it is not kept for
writing. -/
theorem Moves.exempts (h : s.Moves others l s') (hdirect : ∀ k, s.splitter.reader = some k → ∃ d, k.1 = .direct d) :
    s.world.Exempts c s'.world ∨
      (∃ host, s.splitter.reader = some (.direct c, host)) ∧ holds s.splitter.writer (.direct c) = false := by
  have hoccupies : ∀ {t}, s.Occupies others l t → s.world.Exempts c t.world := fun h =>
    h.keeps (World.lenient_exempts c)
  cases h with
  | fills _ occupies => exact .inl (hoccupies occupies)
  | @closes old _ _ _ earlier occupies free closes letsGo =>
    obtain ⟨d, hd⟩ := hdirect old earlier
    rw [hd] at free closes
    by_cases hdc : d = c
    · subst hdc
      exact .inr ⟨⟨old.2, by rw [earlier, ← hd]⟩, free⟩
    · have hclose := (World.exempts_closeQuietly hdc).ends (Split.ends_world.1 closes).1
      have hletGo := ((World.lenient_exempts c).keeps_letGo _).ends (Split.ends_world.1 letsGo).1
      exact .inl ((hoccupies occupies).trans (hclose.trans hletGo))
  | spares _ occupies _ letsGo =>
    have hletGo := ((World.lenient_exempts c).keeps_letGo _).ends (Split.ends_world.1 letsGo).1
    exact .inl ((hoccupies occupies).trans hletGo)

/-- What load balancing hangs up is out of reach then. -/
theorem Rotates.clears (h : s.Rotates others s') (hk : s.Known) (hu : s.Unpooled) (fresh : s'.world.opened.Nodup) :
    s.Clears s' := by
  have hconnect : ∀ {host x t} c,
      Split.Ends others (Split.act (Service.connect host s.splitter.props)) s.afterPick x t →
      s.world.Exempts c t.world := fun c attempt => Service.exempts_connect hu.providers (Split.ends_act.1 attempt).1
  cases h with
  | few | unpicked | kept => exact .of_exempts fun _ => id
  | misses _ _ attempt noted => exact .of_exempts fun c => (hconnect c attempt).trans (noted.world.silent.exempts c)
  | @moves host l _ v _ _ _ attempt noted moves =>
    have hreader : v.splitter.reader = s.splitter.reader := by rw [noted.splitter, (Split.ends_act.1 attempt).2]; rfl
    have hmoves := Split.moves_moveReader moves
    obtain ⟨q, harrives, hleads⟩ := hmoves.leads
    obtain ⟨hattempt, hnew⟩ := Split.ends_connect attempt
    have hgrows := noted.world.upkeep.grows.trans hleads.upkeep.grows
    intro c hc
    -- nothing kept is pooled, so the link that makes room is to a connection of its own
    have hdirect : ∀ k, v.splitter.reader = some k → ∃ d, k.1 = .direct d := fun k hkept =>
      hu.direct k.1 (.inl (.inr (.inr ⟨k.2, hreader.symm.trans hkept⟩)))
    rcases hmoves.exempts hdirect with hexempts | ⟨⟨host', hkept⟩, hwriter⟩
    · exact .inl (hconnect c attempt ((noted.world.silent.exempts c) (hexempts hc)))
    · -- the link that made room was known, so it is neither the new one nor that of the writer
      have hknown : s.world.Knows (.direct c) := hk _ (.inl (.inr (.inr ⟨host', hreader.symm.trans hkept⟩)))
      refine .inr ⟨hknown.mono (hattempt.upkeep.grows.trans hgrows), fun hreach => ?_⟩
      rw [hleads.seats] at hreach
      rcases harrives.reaches_onReader hreach with rfl | ⟨host'', hw⟩
      · exact ((hnew _ rfl).later hgrows).newly.not_knows fresh hknown
      · cases hwriter.symm.trans (holds_iff.2 ⟨host'', hw⟩)

/-! ### Operations -/

theorem Mends.clears (h : s.Mends others r s') (hs : s.Sound) (hu : s.Unpooled) (fresh : s'.world.opened.Nodup) :
    s.Clears s' := by
  cases h with
  | sound => exact .of_exempts fun _ => id
  | @switches _ t _ _ noted switches =>
    have ht : t.Sound := ⟨noted.renews.known hs, by rw [noted.seats_eq]; exact hs.tidy⟩
    refine Clears.trans (.of_exempts noted.world.silent.exempts) ?_ (Split.ends_switchTo switches).renews fresh
    exact Split.clears_switchTo ht (noted.renews.unpooled hu) fresh switches

theorem Weighs.clears {op : Operation} (h : s.Weighs others op s') (hk : s.Known) (hu : s.Unpooled)
    (fresh : s'.world.opened.Nodup) : s.Clears s' := by
  cases h with
  | stays => exact .of_exempts fun _ => id
  | rotates _ rotates => exact (Split.rotates_rotateReader rotates).clears hk hu fresh

/-- What is hung up before an operation runs is out of reach then. -/
theorem Enters.clears {op : Operation} {hd : Split.OperationHandling D} (h : s.Enters others op hd s') (hs : s.Sound)
    (hu : s.Unpooled) (fresh : s'.world.opened.Nodup) : s.Clears s' := by
  cases h with
  | unswitched switches => exact Split.clears_switchTo hs hu fresh switches
  | @switched _ u switches =>
    have hclears : s.Clears u := Split.clears_switchTo hs hu fresh switches
    exact hclears
  | closes => exact .of_exempts fun _ => id
  | unmended _ mends => exact mends.clears hs hu fresh
  | mended _ mends weighs =>
    have hmended := mends.recovers.renews
    have hweighed := weighs.balances.renews
    refine (mends.clears hs hu (hweighed.grows.nodup fresh)).trans ?_ hweighed fresh
    exact weighs.clears (hmended.keepsKnown hs.known) (hmended.unpooled hu) fresh

end Stand

/-! ## Calls -/

/-- Running an operation other than a close hangs up nothing. -/
theorem Service.exempts_execute {op : Operation} (hop : op ≠ .close) :
    Act.Keeps others (World.Exempts c) (Service.execute (D := D) op) := fun _ _ _ h => by
  cases executes_execute h with
  | missing => exact id
  | @runs l _ _ _ _ performs =>
    rw [perform_of_ne_close l hop] at performs
    exact (World.exempts_invoke l op).ends performs

namespace Leg

variable {k : Leg D}

theorem Taken.providers_eq (h : k.Taken others) : k.after.service.providers = k.before.service.providers := by
  rcases h.course with ⟨_, stays, _, _⟩ | ⟨_, refuses, _, _⟩ | ⟨passes⟩
  · rw [show k.after.service = k.before.service from congrArg (fun s => s.service) stays]
  · exact refuses.renews.providers
  · exact passes.providers_eq.trans passes.prepares.renews.providers

/-- What a call hangs up is out of reach then, as long as it neither closes the connection nor runs into a failover. -/
theorem Taken.clears (h : k.Taken others) (hk : k.IsCalm) (hs : k.before.toStand.Sound)
    (hu : k.before.toStand.Unpooled) (fresh : k.after.world.opened.Nodup) :
    k.before.toStand.Clears k.after.toStand := by
  rcases h.course with ⟨_, stays, _, _⟩ | ⟨_, _, _, _, entered⟩ | @⟨s₁, s₂, ans, passes⟩
  · rw [stays]; exact .of_exempts fun _ => id
  · exact (Split.enters_onExecute entered).clears hs hu fresh
  · have fresh₁ := passes.grows_after.nodup fresh
    refine ((Split.enters_onExecute passes.entered).clears hs hu fresh₁).trans ?_ ?_ fresh
    · refine .of_exempts fun c => (Service.exempts_execute hk.stays passes.performed).trans ?_
      rcases Split.ends_leaveFor hk.stays passes.left with ⟨-, he⟩ | ⟨hf, -⟩
      · rw [he]; exact id
      · rw [passes.isFailover_eq_false hk] at hf; cases hf
    · exact .of_seats_eq passes.grows_after passes.providers_eq (passes.seats_eq_of_calm hk)

/-- Where nothing is pooled, nothing is after a call. -/
theorem Taken.keepsUnpooled (h : k.Taken others) (hu : k.before.toStand.Unpooled) : k.after.toStand.Unpooled := by
  by_cases hop : k.op = .close
  · rcases h.course with ⟨_, stays, _, _⟩ | ⟨_, refuses, _, _⟩ | @⟨s₁, s₂, ans, passes⟩
    · rw [stays]; exact hu
    · exact refuses.renews.unpooled hu
    · have hu₁ := passes.prepares.renews.unpooled hu
      refine ⟨by rw [h.providers_eq]; exact hu.providers, fun l hl => ?_⟩
      rw [passes.closes hop] at hl
      rcases hl with (⟨host, hc, -⟩ | ⟨_, hk⟩ | ⟨_, hk⟩) | hst
      · have hlink : s₁.service.link? = some l := congrArg (Option.map Prod.fst) hc
        exact hu₁.direct l (Stand.reaches_or_stale hlink)
      · cases hk
      · cases hk
      · cases hst
  · exact (h.renews_of_ne_close hop).unpooled hu

end Leg

/-! ## Tours -/

namespace Tour

variable {s s' : Session D} {ds : List (Demand D)}

theorem unpooled (h : Tour others s ds s') (hu : s.toStand.Unpooled) : s'.toStand.Unpooled := by
  induction h with
  | start => exact hu
  | aside _ _ _ ih => exact ⟨ih.providers, ih.direct⟩
  | call _ taken ih => exact taken.keepsUnpooled ih
  | switch _ switches ih => exact (Split.ends_switchTo switches).renews.unpooled ih

theorem providers_eq (h : Tour others s ds s') : s'.service.providers = s.service.providers := by
  induction h with
  | start => rfl
  | aside _ _ _ ih => exact ih
  | call _ taken ih => exact taken.providers_eq.trans ih
  | switch _ switches ih => exact (Split.ends_switchTo switches).renews.providers.trans ih

/-- What is hung up along a tour is out of reach in the end, where nothing is pooled and as long as no failover happens
and the connection is not closed. -/
theorem clears (h : Tour others s ds s') (hs : s.toStand.Sound) (hu : s.toStand.Unpooled)
    (fresh : s'.world.opened.Nodup) (calm : ∀ d ∈ ds, d.IsCalm) : s.toStand.Clears s'.toStand := by
  induction h with
  | start => exact .of_exempts fun _ => id
  | aside tour change _ ih =>
    have hg := (Bystanders.aside change).upkeep.grows
    refine (ih (hg.nodup fresh) calm).trans (.of_exempts fun _ => ?_) (.of_seats_eq hg rfl rfl) fresh
    exact .of_journal_eq (Bystanders.aside change).journal
  | @call ds k tour taken ih =>
    have hk : k.IsCalm := calm _ (List.mem_append_right _ (List.mem_singleton_self _))
    have fresh₀ := taken.grows.nodup fresh
    refine (ih fresh₀ fun d hd => calm d (List.mem_append_left _ hd)).trans ?_ (taken.renews_of_ne_close hk.stays) fresh
    exact taken.clears hk (tour.sound hs fresh₀) (tour.unpooled hu) fresh
  | switch tour switches ih =>
    have hrenews := (Split.ends_switchTo switches).renews
    have fresh₀ := hrenews.grows.nodup fresh
    refine (ih fresh₀ fun d hd => calm d (List.mem_append_left _ hd)).trans ?_ hrenews fresh
    exact Split.clears_switchTo (tour.sound hs fresh₀) (tour.unpooled hu) fresh switches

end Tour

end ReplicaRouter
