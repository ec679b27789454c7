import ReplicaRouter.Proofs.Pairing
/-
What is kept for the two modes. A switch that goes through leaves a link kept for the role that the mode asks for, one
that was seen open or opened meanwhile, and no link behind. That stays so until a failover happens or the connection is
closed, whatever else is called for.
Main statement: `Tour.furnishes`.
-/
namespace ReplicaRouter

variable {D : Type} {others : World D → World D → Prop}

open Splitter

/-- What is kept for the role that a mode asks for. -/
def Splitter.keptFor (x : Splitter) (readOnly : Bool) : Option HostLink := if readOnly then x.reader else x.writer

/-! ## Where nothing was left behind -/

namespace Stand

variable {s s' : Stand D} {readOnly : Bool} {op : Operation} {r : Except RouteError Unit}

theorem Turns.stale_eq_none (h : s.Turns readOnly r s') (hs : s.seats.stale = none) : s'.seats.stale = none := by
  cases h with
  | fails switches leads => rw [leads.seats]; exact switches.stale_eq.trans hs
  | succeeds switches releases leads =>
    rw [leads.seats]
    cases releases with
    | waits => exact switches.stale_eq.trans hs
    | frees => rfl

theorem Recovers.stale_eq_none (h : s.Recovers r s') (hs : s.seats.stale = none) : s'.seats.stale = none := by
  cases h with
  | sound => exact hs
  | turns _ turns => exact turns.stale_eq_none hs

theorem Refuses.stale_eq_none {e : RouteError} (h : s.Refuses op e s') (hs : s.seats.stale = none) :
    s'.seats.stale = none :=
  h.stale_eq.trans hs

theorem Prepares.stale_eq_none (h : s.Prepares op s') (hs : s.seats.stale = none) : s'.seats.stale = none := by
  cases h with
  | mode turns => exact turns.stale_eq_none hs
  | close => exact hs
  | plain _ recovers balances => exact balances.stale_eq.trans (recovers.stale_eq_none hs)

end Stand

variable [Backend D]

theorem Leg.Taken.stale_eq_none [Bystanders others] {k : Leg D} (h : k.Taken others) (hk : k.IsCalm)
    (hs : k.before.seats.stale = none) : k.after.seats.stale = none := by
  rcases h.course with ⟨_, stays, _, _⟩ | ⟨_, refuses, _, _⟩ | ⟨passes⟩
  · rw [stays]; exact hs
  · exact refuses.stale_eq_none hs
  · rw [passes.seats_eq_of_calm hk]
    exact passes.prepares.stale_eq_none hs

/-! ## Links for a role -/

namespace Stand

variable {s u v w s' : Stand D} {readOnly b : Bool} {l : HostLink} {r : Except RouteError Unit}

/-- In the end a link is kept for the role that a mode asks for that was seen open at first, or is new. -/
def Supplies (s s' : Stand D) (readOnly : Bool) : Prop := ∃ k, s'.splitter.keptFor readOnly = some k ∧ s.Sees s' k.1

/-- What is kept for the role stays, or a link comes in its place that was seen open, or is new. -/
def Retains (s s' : Stand D) (readOnly : Bool) : Prop :=
  s'.splitter.keptFor readOnly = s.splitter.keptFor readOnly ∨ s.Supplies s' readOnly

/-- In the end no link was left behind, and one is kept for the role that a mode asks for. -/
structure Furnishes (s s' : Stand D) (readOnly : Bool) : Prop where
  stale : s'.seats.stale = none
  supplies : s.Supplies s' readOnly

/-- A switch that has gone through has a link kept for the role that the mode asks for. -/
theorem Reseats.supplies (h : s.Reseats readOnly s') : s.Supplies s' readOnly := by
  obtain ⟨c, k, -, hon, hslot, hc, hk⟩ := h
  have hheld : ∀ {slot}, holds slot c.1 = true → ∃ l, slot = some l ∧ s.Sees s' l.1 := fun hslot => by
    obtain ⟨host, hslot⟩ := holds_iff.1 hslot
    exact ⟨_, hslot, hc⟩
  unfold slotFor at hslot
  cases readOnly with
  | true =>
    rcases Bool.or_eq_true_iff.1 hon with hread | hrole
    · exact hheld hread
    · rw [Host.isReader_eq, Bool.not_eq_true'] at hrole
      rw [hrole, if_neg Bool.false_ne_true] at hslot
      exact ⟨k, hslot, hk⟩
  | false =>
    rcases Bool.or_eq_true_iff.1 hon with hwrite | hrole
    · exact hheld hwrite
    · rw [(Bool.and_eq_true_iff.1 hrole).1, if_pos rfl] at hslot
      exact ⟨k, hslot, hk⟩

theorem Supplies.withMode (h : s.Supplies u b) (mode : Bool) : s.Supplies (u.withMode mode) b :=
  h.imp fun _ ⟨hk, hsees⟩ => ⟨hk, hsees.later (.refl _)⟩

theorem Retains.withMode (h : s.Retains u b) (mode : Bool) : s.Retains (u.withMode mode) b :=
  h.imp_right fun hu => hu.withMode mode

variable [Backend.Lasting D]

/-- What is supplied later is so since before. -/
theorem Supplies.since (h : u.Supplies s' b) (known : s.Known) (hr : s.Renews u) (hl : s.world.Lapses u.world)
    (hg : u.world.Grows s'.world) : s.Supplies s' b :=
  h.imp fun _ h => h.imp_right fun hk => hk.since known hr hl hg

theorem Supplies.later (h : s.Supplies u b) (hr : u.Retains s' b) (known : s.Known) (hs : s.Renews u)
    (hl : s.world.Lapses u.world) (hg : u.world.Grows s'.world) : s.Supplies s' b := by
  rcases hr with hsame | hu
  · obtain ⟨k, hk, hsees⟩ := h
    exact ⟨k, hsame.trans hk, hsees.later hg⟩
  · exact hu.since known hs hl hg

theorem Retains.trans (h1 : s.Retains u b) (h2 : u.Retains s' b) (known : s.Known) (hr : s.Renews u)
    (hl : s.world.Lapses u.world) (hg : u.world.Grows s'.world) : s.Retains s' b := by
  rcases h1 with hsame | hu
  · exact h2.imp (fun h => h.trans hsame) fun h => h.since known hr hl hg
  · exact .inr (hu.later h2 known hr hl hg)

omit [Backend.Lasting D] in
theorem Remembers.retains (h : s.Remembers u) (b : Bool) : s.Retains u b := by
  have hslot : ∀ fits slot, s.remember fits slot = slot ∨
      ∃ k, s.remember fits slot = some k ∧ s.Sees u k.1 := fun fits slot =>
    (s.remember_eq fits slot).imp_right fun ⟨_, k, hk, _, hnow⟩ => ⟨k, hnow, .of_usable hk u⟩
  unfold Retains Supplies
  rw [h.splitter]
  cases b <;> exact hslot _ _

/-- What holds of the links of a logical connection wherever a tour leads. -/
structure Orderly (s : Stand D) : Prop where
  known : s.Known
  ordered : s.seats.Ordered
  paired : s.Paired

theorem Noted.orderly (h : s.Noted u) (hs : s.Orderly) : u.Orderly :=
  ⟨h.renews.keepsKnown hs.known, by rw [h.seats_eq]; exact hs.ordered, h.paired hs.known hs.paired⟩

variable [Lasting others]

/-! ### Turns -/

theorem Settles.ages (h : s.Settles others r s') : s.world.Ages s'.world := by
  cases h with
  | fetches fetches reads => exact fetches.ages.trans (Split.ages_readFrom reads)
  | fails fetches => exact fetches.ages

theorem Leaves.ages (h : s.Leaves others r s') : s.world.Ages s'.world := by
  cases h with
  | reuses _ noted arrives => exact noted.world.ages.trans (Split.ages_makeCurrent arrives)
  | opens _ search noted reads =>
    exact (Split.ages_connectReader search).trans (noted.world.ages.trans (Split.ages_readFrom reads))
  | fallsBack _ search fetches noted counts reads =>
    have hnoted := noted.world.trans (Split.ends_countFallback counts).2.2
    exact (Split.ages_connectReader search).trans
      (fetches.ages.trans (hnoted.ages.trans (Split.ages_readFrom reads)))
  | fails _ search fetches => exact (Split.ages_connectReader search).trans fetches.ages

theorem TurnsToReader.ages (h : s.TurnsToReader others u r s') : u.world.Ages s'.world := by
  cases h with
  | stays | refused => exact .refl _
  | shares _ _ _ _ sets =>
    exact ⟨(Split.leads_setReader sets).upkeep.grows, (World.patient_lapses others).keeps_setReader _ sets⟩
  | settles _ _ _ settles => exact settles.ages
  | leaves _ _ _ leaves => exact leaves.ages

theorem TurnsToWriter.ages (h : s.TurnsToWriter others u r s') : u.world.Ages s'.world := by
  cases h with
  | stays | refused => exact .refl _
  | fetches _ _ fetches noted arrives =>
    exact fetches.ages.trans (noted.world.ages.trans (Split.ages_makeCurrent arrives))
  | fails _ _ fetches => exact fetches.ages

theorem Leaves.writer (h : s.Leaves others r s') (known : s.Known) : s.Retains s' false := by
  cases h with
  | reuses _ noted arrives =>
    obtain ⟨-, -, hx⟩ := Split.lands_makeCurrent arrives
    exact .inl (by rw [hx, noted.splitter]; rfl)
  | opens _ search noted reads =>
    obtain ⟨-, hsearch, -⟩ := Split.tries_connectReader search
    obtain ⟨-, -, hx⟩ := Split.lands_readFrom reads
    exact .inl (by rw [hx, noted.splitter, hsearch]; rfl)
  | @fallsBack l _ _ _ _ _ _ search fetches noted counts reads =>
    obtain ⟨hleads, -⟩ := Split.ends_connectReader search
    obtain ⟨-, hcounts, hn⟩ := Split.ends_countFallback counts
    obtain ⟨-, -, hx⟩ := Split.lands_readFrom reads
    have hage := noted.world.ages.trans (hn.ages.trans (Split.ages_readFrom reads))
    have hsees := (fetches.sees.later hage.grows).since known
      (.of_seats_eq hleads.upkeep.grows hleads.providers hleads.seats) (Split.ages_connectReader search).lapses
      (fetches.ages.trans hage).grows
    refine .inr ⟨l, ?_, hsees⟩
    show _ = some l
    rw [hx, hcounts, noted.splitter, fetches.slots.2]
    rfl
  | fails _ search fetches =>
    obtain ⟨-, hsearch, -⟩ := Split.tries_connectReader search
    exact .inl (by rw [fetches.slots_of_error, hsearch]; rfl)

/-- Turning to a reader leaves the link that is kept for writing, unless another one is found. -/
theorem TurnsToReader.writer (h : s.TurnsToReader others u r s') (known : u.Known) : u.Retains s' false := by
  cases h with
  | stays | refused => exact .inl rfl
  | shares _ _ _ _ sets => exact .inl (by rw [(Split.ends_setReader sets).2]; rfl)
  | leaves _ _ _ leaves => exact leaves.writer known
  | settles _ _ _ settles =>
    cases settles with
    | fails fetches => exact .inl (by rw [fetches.slots_of_error])
    | @fetches l _ _ fetches reads =>
      obtain ⟨-, -, hx⟩ := Split.lands_readFrom reads
      refine .inr ⟨l, ?_, fetches.sees.later (Split.ages_readFrom reads).grows⟩
      show _ = some l
      rw [hx, fetches.slots.2]
      rfl

omit [Backend.Lasting D] [Lasting others] in
theorem TurnsToReader.reader_of_error [Bystanders others] {e : RouteError}
    (h : s.TurnsToReader others u (.error e) s') : s'.splitter.reader = u.splitter.reader := by
  cases h with
  | refused => rfl
  | settles _ _ _ settles =>
    cases settles with
    | fails fetches => rw [fetches.slots_of_error]
  | leaves _ _ _ leaves =>
    cases leaves with
    | fails _ search fetches =>
      obtain ⟨-, hsearch, -⟩ := Split.tries_connectReader search
      rw [fetches.slots_of_error, hsearch]

omit [Backend.Lasting D] [Lasting others] in
/-- Turning to the writer leaves the link that is kept for reading. -/
theorem TurnsToWriter.reader [Bystanders others] (h : s.TurnsToWriter others u r s') :
    s'.splitter.reader = u.splitter.reader := by
  cases h with
  | stays | refused => rfl
  | fetches _ _ fetches noted arrives =>
    obtain ⟨-, -, hx⟩ := Split.lands_makeCurrent arrives
    rw [hx, noted.splitter, fetches.slots.2]
  | fails _ _ fetches => rw [fetches.slots_of_error]

omit [Backend.Lasting D] [Lasting others] in
theorem TurnsToWriter.writer_of_error [Bystanders others] {e : RouteError}
    (h : s.TurnsToWriter others u (.error e) s') : s'.splitter.writer = u.splitter.writer := by
  cases h with
  | refused => rfl
  | fails _ _ fetches => rw [fetches.slots_of_error]

end Stand

/-! ### Programs -/

namespace Split

variable [Backend.Lasting D] [Lasting others] {s v s' : Stand D} {readOnly : Bool} {op : Operation}
  {r : Except RouteError Unit} {a : Unit}

theorem ages_turn (h : Split.Ends others (if readOnly then switchToReader else switchToWriter) s r v) :
    s.world.Ages v.world := by
  refine ⟨(renews_turn h).grows, ?_⟩
  cases readOnly with
  | true => exact (World.patient_lapses others).keeps_switchToReader h
  | false => exact (World.patient_lapses others).keeps_switchToWriter h

/-- A turn leaves what is kept for the role that the mode does not ask for, unless a link comes in its place; and so it
does for the other role if it fails. -/
theorem retains_turn {b : Bool} (h : Split.Ends others (if readOnly then switchToReader else switchToWriter) s r v)
    (known : s.Known) (hb : r = .ok () → b ≠ readOnly) : s.Retains v b := by
  cases readOnly with
  | true =>
    obtain ⟨u, hrecalls, hturn⟩ := turns_switchToReader h
    have hu := hrecalls.remembers
    refine (hu.retains b).trans ?_ known hu.renews hu.books.lapses hturn.ages.grows
    cases b with
    | false => exact hturn.writer (hu.renews.keepsKnown known)
    | true =>
      cases r with
      | ok _ => exact absurd rfl (hb rfl)
      | error e => exact .inl hturn.reader_of_error
  | false =>
    obtain ⟨u, hrecalls, hturn⟩ := turns_switchToWriter h
    have hu := hrecalls.remembers
    refine (hu.retains b).trans ?_ known hu.renews hu.books.lapses hturn.ages.grows
    cases b with
    | true => exact .inl hturn.reader
    | false =>
      cases r with
      | ok _ => exact absurd rfl (hb rfl)
      | error e => exact .inl hturn.writer_of_error

/-- A switch that goes through supplies the role that the mode asks for. -/
theorem supplies_switchTo (h : Split.Ends others (switchTo readOnly) s (.ok ()) s') (hs : s.Orderly) :
    s.Supplies s' readOnly :=
  (reseats_switchTo h hs.known hs.ordered hs.paired).supplies

/-- A switch leaves no role without a link for which one was kept. -/
theorem retains_switchTo {b : Bool} (h : Split.Ends others (switchTo readOnly) s r s') (hs : s.Orderly) :
    s.Retains s' b := by
  by_cases hb : r = .ok () ∧ b = readOnly
  · obtain ⟨rfl, rfl⟩ := hb
    exact .inr (supplies_switchTo h hs)
  · obtain ⟨s₁, v, hn, hturn, hafter⟩ := ends_turn h
    have hrenews := hn.renews
    obtain ⟨-, hx, -⟩ := calm_after hafter
    have hfirst : s.Retains s₁ b := .inl (by rw [hn.splitter])
    have hlast : v.Retains s' b := .inl (by rw [hx]; rfl)
    have hv := retains_turn hturn (hrenews.keepsKnown hs.known) fun hr hrole => hb ⟨hr, hrole⟩
    have hage := ages_turn hturn
    refine (hfirst.trans hv hs.known hrenews hn.world.lapses hage.grows).trans hlast hs.known
      (hrenews.trans (renews_turn hturn)) (hn.world.lapses.trans hage.lapses) (ages_after hafter).grows

end Split

/-- Load balancing moves to a new link, if to any. -/
theorem Stand.Balances.retains {s s' : Stand D} (h : s.Balances s') (b : Bool) : s.Retains s' b := by
  cases h with
  | stays => exact .inl rfl
  | rotates _ _ rotates leads =>
    have hwriter := congrArg Seats.writer leads.seats
    have hreader := congrArg Seats.reader leads.seats
    cases rotates with
    | stays => exact .inl (by cases b <;> [exact hwriter; exact hreader])
    | moves newly _ arrives =>
      cases b with
      | false => exact .inl (hwriter.trans arrives.writer_eq)
      | true => exact .inr ⟨_, hreader.trans arrives.reader_eq, .inr newly⟩

namespace Split

variable [Backend.Lasting D] [Lasting others] {s v s' : Stand D} {readOnly b : Bool} {op : Operation}
  {r : Except RouteError Unit} {hd : OperationHandling D}

theorem ages_switchTo (h : Split.Ends others (switchTo readOnly) s r s') : s.world.Ages s'.world :=
  ⟨(ends_switchTo h).renews.grows, (World.patient_lapses others).keeps_switchTo _ h⟩

end Split

namespace Stand

variable [Backend.Lasting D] [Lasting others] {s s' : Stand D} {b : Bool} {op : Operation}
  {r : Except RouteError Unit} {hd : Split.OperationHandling D}

theorem Mends.ages (h : s.Mends others r s') : s.world.Ages s'.world := by
  cases h with
  | sound => exact .refl _
  | switches _ noted switches => exact noted.world.ages.trans (Split.ages_switchTo switches)

theorem Mends.supplies (h : s.Mends others (.ok ()) s') (hs : s.Orderly) (lost : s.seats.IsLost) :
    s.Supplies s' s.splitter.readOnly := by
  cases h with
  | sound sound => exact absurd lost sound
  | switches _ noted switches =>
    exact (Split.supplies_switchTo switches (noted.orderly hs)).since hs.known noted.renews noted.world.lapses
      (Split.ages_switchTo switches).grows

theorem Mends.retains (h : s.Mends others r s') (hs : s.Orderly) : s.Retains s' b := by
  cases h with
  | sound => exact .inl rfl
  | @switches _ t _ _ noted switches =>
    have hfirst : s.Retains t b := .inl (by rw [noted.splitter])
    exact hfirst.trans (Split.retains_switchTo switches (noted.orderly hs)) hs.known noted.renews noted.world.lapses
      (Split.ages_switchTo switches).grows

/-- Preparing for an operation leaves no role without a link for which one was kept. -/
theorem Enters.retains (h : s.Enters others op hd s') (hs : s.Orderly) : s.Retains s' b := by
  cases h with
  | unswitched switches => exact Split.retains_switchTo switches hs
  | @switched readOnly _ switches => exact (Split.retains_switchTo switches hs).withMode readOnly
  | closes => exact .inl rfl
  | unmended _ mends => exact mends.retains hs
  | mended _ mends weighs =>
    have hbalances := weighs.balances
    exact (mends.retains hs).trans (hbalances.retains b) hs.known mends.recovers.renews mends.ages.lapses
      hbalances.renews.grows

end Stand

/-! ## Calls -/

namespace Leg

variable {k : Leg D} {s₁ s₂ : Stand D} {ans : Answer} {readOnly b : Bool}

/-- The call needs a switch to the mode: the mode is asked for, or a failover has to be recovered from in this mode. -/
def Asks (k : Leg D) (readOnly : Bool) : Prop :=
  k.op = .setReadOnly readOnly ∨
    k.op.isPlain = true ∧ k.before.seats.IsLost ∧ k.before.splitter.readOnly = readOnly

/-- The call switches to the mode, and goes through with that. -/
def TurnsTo (others : World D → World D → Prop) (k : Leg D) (readOnly : Bool) : Prop :=
  k.Asks readOnly ∧ ∃ s₁ ans s₂, k.Passes others s₁ ans s₂

variable [Backend.Lasting D] [Lasting others]

theorem Passes.supplies (h : k.Passes others s₁ ans s₂) (hop : k.Asks readOnly) (hs : k.before.toStand.Orderly) :
    k.before.toStand.Supplies s₁ readOnly := by
  have henters := Split.enters_onExecute h.entered
  rcases hop with hop | ⟨hop, lost, rfl⟩
  · rw [hop] at henters
    cases henters with
    | switched switches => exact (Split.supplies_switchTo switches hs).withMode readOnly
    | mended plain => cases plain
  · generalize k.op = op at hop henters
    cases henters with
    | switched | closes => cases hop
    | mended _ mends weighs =>
      have hbalances := weighs.balances
      exact (mends.supplies hs lost).later (hbalances.retains _) hs.known mends.recovers.renews mends.ages.lapses
        hbalances.renews.grows

/-- What is kept stays so when an operation runs that is calm. -/
theorem Passes.keptFor_eq (h : k.Passes others s₁ ans s₂) (hk : k.IsCalm) (b : Bool) :
    k.after.splitter.keptFor b = s₁.splitter.keptFor b := by
  have hseats := h.seats_eq_of_calm hk
  cases b with
  | false => exact congrArg Seats.writer hseats
  | true => exact congrArg Seats.reader hseats

theorem Taken.retains (h : k.Taken others) (hk : k.IsCalm) (hs : k.before.toStand.Orderly) (b : Bool) :
    k.before.toStand.Retains k.after.toStand b := by
  rcases h.course with ⟨_, stays, _, _⟩ | ⟨_, _, _, _, entered⟩ | ⟨passes⟩
  · rw [stays]; exact .inl rfl
  · exact (Split.enters_onExecute entered).retains hs
  · exact ((Split.enters_onExecute passes.entered).retains hs).trans (.inl (passes.keptFor_eq hk b)) hs.known
      passes.prepares.renews ((World.patient_lapses others).keeps_onExecute _ passes.entered) passes.grows_after

theorem TurnsTo.furnishes (h : k.TurnsTo others readOnly) (hk : k.IsCalm) (hs : k.before.toStand.Orderly)
    (sound : k.before.toStand.Sound) (fresh : k.after.world.opened.Nodup) :
    k.before.toStand.Furnishes k.after.toStand readOnly := by
  obtain ⟨hop, s₁, ans, s₂, passes⟩ := h
  refine ⟨?_, (passes.supplies hop hs).later (.inl (passes.keptFor_eq hk readOnly)) hs.known passes.prepares.renews
    ((World.patient_lapses others).keeps_onExecute _ passes.entered) passes.grows_after⟩
  rw [passes.seats_eq_of_calm hk]
  exact (passes.prepares.releases hk.stays sound (passes.grows_after.nodup fresh)).1

end Leg

/-! ## Tours -/

/-- What is called for switches to the mode, and goes through with that. -/
def Demand.TurnsTo (others : World D → World D → Prop) (readOnly : Bool) : Demand D → Prop
  | call k => k.TurnsTo others readOnly
  | switch b r => b = readOnly ∧ r = .ok ()

namespace Tour

variable [Backend.Lasting D] [Lasting others] {s u s' : Session D} {ds es : List (Demand D)} {readOnly : Bool}

theorem orderly (ho : s.Opens others) (h : Tour others s ds s') : s'.toStand.Orderly :=
  ⟨h.known ho, h.ordered ho, h.paired ho⟩

/-- Once switched to a mode, a link is kept for the role that it asks for, and none is left behind, as long as no
failover happens and the connection is not closed. -/
theorem furnishes (ho : s.Opens others) (h₀ : Tour others s ds u) (h : Tour others u es s')
    (fresh : s'.world.opened.Nodup) (calm : ∀ d ∈ es, d.IsCalm) (turns : ∃ d ∈ es, d.TurnsTo others readOnly) :
    u.toStand.Furnishes s'.toStand readOnly := by
  have known : u.toStand.Known := h₀.known ho
  -- by induction on the tour: the last step furnishes the slot itself, or it was furnished before and retained
  induction h with
  | start =>
    obtain ⟨d, hd, -⟩ := turns
    cases hd
  | aside tour change _ ih =>
    have hg := (Bystanders.aside change).upkeep.grows
    obtain ⟨hstale, hsupplies⟩ := ih (hg.nodup fresh) calm turns
    have hlapses := (World.patient_lapses others).keeps_tour tour
    exact ⟨hstale, hsupplies.later (.inl rfl) known (tour.renews calm) hlapses hg⟩
  | @call es k tour taken ih =>
    have hk : k.IsCalm := calm _ (List.mem_append_right _ (List.mem_singleton_self _))
    have calm' : ∀ d ∈ es, d.IsCalm := fun d hd => calm d (List.mem_append_left _ hd)
    have fresh₀ := taken.grows.nodup fresh
    have hlapses := (World.patient_lapses others).keeps_tour tour
    have horderly := (h₀.trans tour).orderly ho
    obtain ⟨d, hd, hturns⟩ := turns
    rcases List.mem_append.1 hd with hd | hd
    · obtain ⟨hstale, hsupplies⟩ := ih fresh₀ calm' ⟨d, hd, hturns⟩
      exact ⟨taken.stale_eq_none hk hstale,
        hsupplies.later (taken.retains hk horderly readOnly) known (tour.renews calm') hlapses taken.grows⟩
    · obtain rfl := List.mem_singleton.1 hd
      obtain ⟨hstale, hsupplies⟩ := hturns.furnishes hk horderly ((h₀.trans tour).sound ho.sound fresh₀) fresh
      exact ⟨hstale, hsupplies.since known (tour.renews calm') hlapses taken.grows⟩
  | @switch es _ _ b r tour switches ih =>
    have calm' : ∀ d ∈ es, d.IsCalm := fun d hd => calm d (List.mem_append_left _ hd)
    have hturns' := Split.ends_switchTo switches
    have hgrows := hturns'.renews.grows
    have fresh₀ := hgrows.nodup fresh
    have hlapses := (World.patient_lapses others).keeps_tour tour
    have horderly := (h₀.trans tour).orderly ho
    obtain ⟨d, hd, hturns⟩ := turns
    rcases List.mem_append.1 hd with hd | hd
    · obtain ⟨hstale, hsupplies⟩ := ih fresh₀ calm' ⟨d, hd, hturns⟩
      exact ⟨hturns'.stale_eq_none hstale,
        hsupplies.later (Split.retains_switchTo switches horderly) known (tour.renews calm') hlapses hgrows⟩
    · obtain rfl := List.mem_singleton.1 hd
      obtain ⟨rfl, rfl⟩ := hturns
      refine ⟨(hturns'.releases ((h₀.trans tour).sound ho.sound fresh₀) fresh).1, ?_⟩
      exact (Split.supplies_switchTo switches horderly).since known (tour.renews calm') hlapses hgrows

end Tour

end ReplicaRouter
