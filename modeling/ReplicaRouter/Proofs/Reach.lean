import ReplicaRouter.Proofs.Session
/-
Which links a logical connection has within reach: the current one, unless a failover left it behind,
and those that are kept. Only new links come within reach, and a link that was left behind is either
current still or forgotten.
Main statements: `Run.renews` and `Run.sound`.
-/
namespace ReplicaRouter

variable {D : Type}

/-! ## Seats -/

namespace Seats

/-- The link is current and was not left behind, or it is kept. -/
def Reaches (p : Seats) (l : Link) : Prop := (∃ host, p.IsCurrent (l, host)) ∨ p.Keeps l

/-- A link that was left behind is current still, and it is not kept. -/
def Tidy (p : Seats) : Prop :=
  ∀ l, p.stale = some l → (∃ host, p.current = some (l, host)) ∧ ¬ p.Keeps l

variable {new : Link → Prop} {cur : Option HostLink} {inTransaction readOnly : Bool} {p q : Seats}
  {r : Except RouteError Unit} {k : HostLink} {l : Link}

theorem IsCurrent.reaches (h : p.IsCurrent k) : p.Reaches k.1 := .inl ⟨k.2, h⟩

theorem Tidy.isLost (h : p.Tidy) (hl : p.stale = some l) : p.IsLost := by
  obtain ⟨⟨host, hc⟩, -⟩ := h l hl
  exact ⟨(l, host), hc, hl⟩

/-- A link that was left behind is out of reach. -/
theorem Tidy.not_reaches (h : p.Tidy) (hl : p.stale = some l) : ¬ p.Reaches l := by
  rintro (⟨host, -, hn⟩ | hk)
  · exact hn hl
  · exact (h l hl).2 hk

theorem tidy_of_stale_eq_none (h : p.stale = none) : p.Tidy := by
  intro l hl
  rw [h] at hl
  cases hl

/-- Where the current link was left behind and nothing is kept, all is tidy and nothing within reach. -/
theorem tidy_of_left {c : Option HostLink} : (⟨c, none, none, c.map Prod.fst⟩ : Seats).Tidy := by
  intro l hl
  obtain ⟨⟨_, host⟩, hc, rfl⟩ := Option.map_eq_some_iff.1 hl
  refine ⟨⟨host, hc⟩, ?_⟩
  rintro (⟨_, hk⟩ | ⟨_, hk⟩) <;> cases hk

/-- Where only one link is current and nothing is kept, nothing else is within reach or left behind. -/
theorem eq_of_single {p : Seats} (hp : p = ⟨some k, none, none, none⟩) (h : p.Reaches l ∨ p.stale = some l) :
    l = k.1 := by
  subst hp
  rcases h with (⟨host, hc, -⟩ | ⟨_, hk⟩ | ⟨_, hk⟩) | hst
  · exact congrArg Prod.fst (Option.some.inj hc).symm
  · cases hk
  · cases hk
  · cases hst

theorem not_reaches_of_left {c : Option HostLink} : ¬ (⟨c, none, none, c.map Prod.fst⟩ : Seats).Reaches l := by
  rintro (⟨host, hc, hn⟩ | ⟨_, hk⟩ | ⟨_, hk⟩)
  · exact hn (congrArg (Option.map Prod.fst) hc)
  · cases hk
  · cases hk

/-! ### Within one move -/

theorem reaches_withWriter (h : ({ p with writer := some k } : Seats).Reaches l) : p.Reaches l ∨ l = k.1 := by
  rcases h with hcur | ⟨host, hw⟩ | hr
  · exact .inl (.inl hcur)
  · exact .inr (congrArg Prod.fst (Option.some.inj hw)).symm
  · exact .inl (.inr (.inr hr))

theorem reaches_withReader (h : ({ p with reader := some k } : Seats).Reaches l) : p.Reaches l ∨ l = k.1 := by
  rcases h with hcur | hw | ⟨host, hr⟩
  · exact .inl (.inl hcur)
  · exact .inl (.inr (.inl hw))
  · exact .inr (congrArg Prod.fst (Option.some.inj hr)).symm

theorem Remembers.reaches (h : p.Remembers cur q) (hcur : ∀ l, cur = some l → p.IsCurrent l)
    (hq : q.Reaches l) : p.Reaches l := by
  cases h with
  | nothing => exact hq
  | already => exact hq
  | @forWriting _ k role =>
    rcases reaches_withWriter hq with hp | rfl
    · exact hp
    · exact (hcur k rfl).reaches
  | @forReading _ k role =>
    rcases reaches_withReader hq with hp | rfl
    · exact hp
    · exact (hcur k rfl).reaches

theorem Arrives.reaches (h : p.Arrives k q) (hq : q.Reaches l) : p.Reaches l ∨ l = k.1 := by
  cases h with
  | there => exact .inl hq
  | moved =>
    rcases hq with ⟨host, hcur, -⟩ | hk
    · exact .inr (congrArg Prod.fst (Option.some.inj hcur)).symm
    · exact .inl (.inr hk)

/-- Who reads from a link has that one within reach, and the one that is kept for writing. -/
theorem Arrives.reaches_onReader (h : ({ p with reader := some k } : Seats).Arrives k q) (hq : q.Reaches l) :
    l = k.1 ∨ ∃ host, p.writer = some (l, host) := by
  rcases hq with ⟨host, hc, -⟩ | ⟨host, hw⟩ | ⟨host, hr⟩
  · left
    cases h with
    | moved => exact congrArg Prod.fst (Option.some.inj hc).symm
    | there current same =>
      rw [← same]
      exact congrArg Prod.fst (Option.some.inj (hc.symm.trans current.1))
  · refine .inr ⟨host, ?_⟩
    cases h <;> exact hw
  · left
    cases h <;> exact congrArg Prod.fst (Option.some.inj hr).symm

/-- Who arrives at a link is on it, or on the same link under another host. -/
theorem Arrives.current (h : p.Arrives k q) : ∃ c, q.current = some c ∧ (p.IsCurrent c ∨ c = k) := by
  cases h with
  | moved => exact ⟨k, rfl, .inr rfl⟩
  | @there c current same => exact ⟨c, current.1, .inl current⟩

theorem Finds.reaches (h : p.Finds new k q) (hq : q.Reaches l) : p.Reaches l ∨ new l := by
  cases h with
  | kept => exact .inl hq
  | current current =>
    rcases reaches_withWriter hq with hp | rfl
    · exact .inl hp
    · exact .inl current.reaches
  | opened newly =>
    rcases reaches_withWriter hq with hp | rfl
    · exact .inl hp
    · exact .inr newly

/-- The link to the writer that was found is within reach, or new. -/
theorem Finds.reaches_found (h : p.Finds new k q) : p.Reaches k.1 ∨ new k.1 := by
  cases h with
  | kept slot => exact .inl (.inr (.inl ⟨k.2, slot⟩))
  | current current => exact .inl current.reaches
  | opened newly => exact .inr newly

/-- What is current in the one and is not stale was so in the other. -/
theorem IsCurrent.of_eq {c : HostLink} (h : q.IsCurrent c) (hc : q.current = p.current) (hs : q.stale = p.stale) :
    p.IsCurrent c := by
  unfold IsCurrent at h ⊢
  rw [← hc, ← hs]
  exact h

theorem Finds.current_eq (h : p.Finds new k q) : q.current = p.current := by cases h <;> rfl

/-! ### Turning -/

theorem TurnsToReader.reaches (h : p.TurnsToReader new cur inTransaction r q) (hq : q.Reaches l) :
    p.Reaches l ∨ new l := by
  cases h with
  | shares _ _ =>
    rcases hq with hcur | hw | hr
    · exact .inl (.inl hcur)
    · exact .inl (.inr (.inl hw))
    · exact .inl (.inr (.inl hr))
  | @kept k _ _ slot arrives =>
    rcases arrives.reaches hq with hp | rfl
    · exact .inl hp
    · exact .inl (.inr (.inr ⟨k.2, slot⟩))
  | opened _ newly _ arrives =>
    rcases arrives.reaches hq with hp | rfl
    · rcases reaches_withReader hp with hp | rfl
      · exact .inl hp
      · exact .inr newly
    · exact .inr newly
  | writer _ finds arrives =>
    rcases arrives.reaches hq with hp | rfl
    · rcases reaches_withReader hp with hp | rfl
      · exact finds.reaches hp
      · exact finds.reaches_found
    · exact finds.reaches_found
  | _ => exact .inl hq

theorem TurnsToWriter.reaches (h : p.TurnsToWriter new cur inTransaction r q) (hq : q.Reaches l) :
    p.Reaches l ∨ new l := by
  cases h with
  | writer _ finds arrives =>
    rcases arrives.reaches hq with hp | rfl
    · exact finds.reaches hp
    · exact finds.reaches_found
  | _ => exact .inl hq

/-- A switch brings only new links within reach. -/
theorem Switches.reaches (h : p.Switches new inTransaction readOnly r q) (hq : q.Reaches l) :
    p.Reaches l ∨ new l := by
  cases h with
  | toReader usable remembers turns => exact (turns.reaches hq).imp_left (remembers.reaches usable)
  | toWriter usable remembers turns => exact (turns.reaches hq).imp_left (remembers.reaches usable)

/-- After a switch that succeeds the current link is one that was within reach, or a new one. -/
theorem TurnsToReader.current (h : p.TurnsToReader new cur inTransaction (.ok ()) q)
    (hcur : ∀ l, cur = some l → p.IsCurrent l) : ∃ c, q.current = some c ∧ (p.Reaches c.1 ∨ new c.1) := by
  cases h with
  | @stays l usable => exact ⟨l, (hcur l usable).1, .inl (hcur l usable).reaches⟩
  | @shares l usable => exact ⟨l, (hcur l usable).1, .inl (hcur l usable).reaches⟩
  | @kept k _ _ slot arrives =>
    obtain ⟨c, hc, hp | rfl⟩ := arrives.current
    · exact ⟨c, hc, .inl hp.reaches⟩
    · exact ⟨c, hc, .inl (.inr (.inr ⟨c.2, slot⟩))⟩
  | opened _ newly _ arrives =>
    obtain ⟨c, hc, hp | rfl⟩ := arrives.current
    · exact ⟨c, hc, .inl (.inl ⟨c.2, hp⟩)⟩
    · exact ⟨c, hc, .inr newly⟩
  | writer _ finds arrives =>
    obtain ⟨c, hc, hp | rfl⟩ := arrives.current
    · exact ⟨c, hc, .inl (.inl ⟨c.2, hp.of_eq finds.current_eq finds.stale_eq⟩)⟩
    · exact ⟨c, hc, finds.reaches_found⟩

theorem TurnsToWriter.current (h : p.TurnsToWriter new cur inTransaction (.ok ()) q)
    (hcur : ∀ l, cur = some l → p.IsCurrent l) : ∃ c, q.current = some c ∧ (p.Reaches c.1 ∨ new c.1) := by
  cases h with
  | @stays l usable => exact ⟨l, (hcur l usable).1, .inl (hcur l usable).reaches⟩
  | writer _ finds arrives =>
    obtain ⟨c, hc, hp | rfl⟩ := arrives.current
    · exact ⟨c, hc, .inl (.inl ⟨c.2, hp.of_eq finds.current_eq finds.stale_eq⟩)⟩
    · exact ⟨c, hc, finds.reaches_found⟩

theorem Switches.current (h : p.Switches new inTransaction readOnly (.ok ()) q) :
    ∃ c, q.current = some c ∧ (p.Reaches c.1 ∨ new c.1) := by
  cases h with
  | @toReader cur p' _ _ usable remembers turns =>
    obtain ⟨c, hc, hr⟩ := turns.current fun l hl => remembers.isCurrent (usable l hl)
    exact ⟨c, hc, hr.imp_left (remembers.reaches usable)⟩
  | @toWriter cur p' _ _ usable remembers turns =>
    obtain ⟨c, hc, hr⟩ := turns.current fun l hl => remembers.isCurrent (usable l hl)
    exact ⟨c, hc, hr.imp_left (remembers.reaches usable)⟩

/-- So the current link is not one that was left behind. -/
theorem Switches.not_isLost (h : p.Switches new inTransaction readOnly (.ok ()) q) (hp : p.Tidy)
    (hnew : ∀ l, p.stale = some l → ¬ new l) : ¬ q.IsLost := by
  rintro ⟨l, hl, hst⟩
  rw [h.stale_eq] at hst
  -- the link left behind is neither within reach nor new
  obtain ⟨c, hc, hr⟩ := h.current
  obtain rfl : l = c := Option.some.inj (hl.symm.trans hc)
  rcases hr with (⟨host, -, hn⟩ | hk) | hn
  · exact hn hst
  · exact (hp _ hst).2 hk
  · exact hnew _ hst hn

theorem Releases.reaches (h : p.Releases q) (hq : q.Reaches l) : p.Reaches l := by
  cases h with
  | waits => exact hq
  | frees sound =>
    rcases hq with ⟨host, hcur, -⟩ | hk
    · exact .inl ⟨host, hcur, fun hst => sound ⟨_, hcur, hst⟩⟩
    · exact .inr hk

theorem Rotates.reaches (h : p.Rotates new q) (hq : q.Reaches l) : p.Reaches l ∨ new l := by
  cases h with
  | stays => exact .inl hq
  | moves newly _ arrives =>
    rcases arrives.reaches hq with hp | rfl
    · rcases reaches_withReader hp with hp | rfl
      · exact .inl hp
      · exact .inr newly
    · exact .inr newly

theorem Rotates.stale_eq (h : p.Rotates new q) : q.stale = p.stale := by
  cases h with
  | stays => rfl
  | moves _ _ arrives => exact arrives.stale_eq

theorem Releases.stale_eq (h : p.Releases q) (hl : q.stale = some l) : p.stale = some l := by
  cases h with
  | waits => exact hl
  | frees => cases hl

end Seats

/-! ## Stands -/

namespace Stand

/-- Only new links came within reach. What is left behind now was so before, or was within reach, or
is new. -/
structure Renews (s s' : Stand D) : Prop where
  grows : s.world.Grows s'.world
  providers : s'.service.providers = s.service.providers
  reaches : ∀ l, s'.seats.Reaches l → s.seats.Reaches l ∨ s.Obtains s' l
  stale : ∀ l, s'.seats.stale = some l → s.seats.stale = some l ∨ s.seats.Reaches l ∨ s.Obtains s' l

/-- The links within reach or left behind are known. -/
def Known (s : Stand D) : Prop := ∀ l, s.seats.Reaches l ∨ s.seats.stale = some l → s.world.Knows l

/-- The links within reach or left behind are known, and a link that was left behind is current still. -/
structure Sound (s : Stand D) : Prop where
  known : ∀ l, s.seats.Reaches l ∨ s.seats.stale = some l → s.world.Knows l
  tidy : s.seats.Tidy

variable {s u s' : Stand D} {op : Operation} {l : Link}

theorem Renews.of_seats_eq (hg : s.world.Grows s'.world) (hp : s'.service.providers = s.service.providers)
    (h : s'.seats = s.seats) : s.Renews s' := by
  refine ⟨hg, hp, fun l hl => .inl ?_, fun l hl => .inl ?_⟩
  · rw [← h]; exact hl
  · rw [← h]; exact hl

theorem Renews.refl (s : Stand D) : s.Renews s := .of_seats_eq (.refl _) rfl rfl

theorem Noted.renews (h : s.Noted u) : s.Renews u :=
  .of_seats_eq h.world.upkeep.grows (by rw [h.service]) h.seats_eq

theorem Renews.trans (h1 : s.Renews u) (h2 : u.Renews s') : s.Renews s' := by
  have hreach : ∀ l, u.seats.Reaches l → s.seats.Reaches l ∨ s.Obtains s' l := fun l hl =>
    (h1.reaches l hl).imp_right fun hn => hn.later h2.grows
  refine ⟨h1.grows.trans h2.grows, h2.providers.trans h1.providers, fun l hl => ?_, fun l hl => ?_⟩
  · rcases h2.reaches l hl with hu | hn
    · exact hreach l hu
    · exact .inr (hn.since h1.grows h1.providers)
  · rcases h2.stale l hl with hu | hu | hn
    · exact (h1.stale l hu).imp_right (.imp_right fun hn => hn.later h2.grows)
    · exact .inr (hreach l hu)
    · exact .inr (.inr (hn.since h1.grows h1.providers))

/-- Only new links come within reach, so what was known stays known. -/
theorem Renews.keepsKnown (h : s.Renews s') (hs : s.Known) : s'.Known := by
  intro l hl
  rcases hl with hl | hl
  · rcases h.reaches l hl with hr | hn
    · exact (hs l (.inl hr)).mono h.grows
    · exact hn.newly.knows
  · rcases h.stale l hl with hst | hr | hn
    · exact (hs l (.inr hst)).mono h.grows
    · exact (hs l (.inl hr)).mono h.grows
    · exact hn.newly.knows

theorem Renews.known (h : s.Renews s') (hs : s.Sound) (l : Link)
    (hl : s'.seats.Reaches l ∨ s'.seats.stale = some l) :
    s'.world.Knows l :=
  h.keepsKnown hs.known l hl

/-- Nothing is pooled, so each link within reach or left behind is a connection of its own. -/
structure Unpooled (s : Stand D) : Prop where
  providers : s.service.providers.pooled = none
  direct : ∀ l, s.seats.Reaches l ∨ s.seats.stale = some l → ∃ c, l = .direct c

theorem Renews.unpooled (h : s.Renews s') (hs : s.Unpooled) : s'.Unpooled := by
  refine ⟨by rw [h.providers]; exact hs.providers, fun l hl => ?_⟩
  rcases hl with hl | hl
  · rcases h.reaches l hl with hr | hn
    · exact hs.direct l (.inl hr)
    · exact hn.direct hs.providers
  · rcases h.stale l hl with hst | hr | hn
    · exact hs.direct l (.inr hst)
    · exact hs.direct l (.inl hr)
    · exact hn.direct hs.providers

/-- The current link is within reach, unless it was left behind. -/
theorem reaches_or_stale (hl : s.service.link? = some l) : s.seats.Reaches l ∨ s.seats.stale = some l := by
  obtain ⟨c, hc, rfl⟩ := Option.map_eq_some_iff.1 hl
  by_cases hst : s.seats.stale = some c.1
  · exact .inr hst
  · exact .inl (.inl ⟨c.2, hc, hst⟩)

theorem Sound.stale_eq_none (h : s.Sound) (hl : ¬ s.seats.IsLost) : s.seats.stale = none := by
  cases hst : s.seats.stale with
  | none => rfl
  | some l => exact absurd (h.tidy.isLost hst) hl

/-! ### Switches -/

section Switches

variable {readOnly : Bool} {r : Except RouteError Unit}

theorem Turns.renews (h : s.Turns readOnly r s') : s.Renews s' := by
  cases h with
  | fails switches leads =>
    refine ⟨leads.upkeep.grows, leads.providers, fun l hl => ?_, fun l hl => .inl ?_⟩
    · rw [leads.seats] at hl; exact switches.reaches hl
    · rw [leads.seats] at hl; exact switches.stale_eq ▸ hl
  | succeeds switches releases leads =>
    refine ⟨leads.upkeep.grows, leads.providers, fun l hl => ?_, fun l hl => .inl ?_⟩
    · rw [leads.seats] at hl; exact switches.reaches (releases.reaches hl)
    · rw [leads.seats] at hl; exact switches.stale_eq ▸ releases.stale_eq hl

/-- A switch that succeeds leaves no link behind: the one that was is shut. -/
theorem Turns.releases (h : s.Turns readOnly (.ok ()) s') (hs : s.Sound) (fresh : s'.world.opened.Nodup) :
    s'.seats.stale = none ∧ ∀ l, s.seats.stale = some l → s'.world.Shut l := by
  cases h with
  | succeeds switches releases leads shuts =>
    have hnew : ∀ l, s.seats.stale = some l → ¬ s.Obtains s' l := fun l hl hn =>
      hn.newly.not_knows fresh (hs.known l (.inr hl))
    have hlost := switches.not_isLost hs.tidy hnew
    refine ⟨?_, fun l hl => shuts hlost l hl (hs.known l (.inr hl))⟩
    rw [leads.seats]
    cases releases with
    | waits lost => exact absurd lost hlost
    | frees => rfl

/-- A link that was left behind is not usable, so a switch that fails remembers nothing and moves nothing. -/
theorem Turns.seats_eq_of_stale {e : RouteError} (h : s.Turns readOnly (.error e) s') (hs : s.Sound)
    (hl : s.seats.stale = some l) : s'.seats = s.seats := by
  cases h with
  | fails switches leads =>
    obtain ⟨cur, hcur, hrem⟩ := switches.remembers
    obtain ⟨⟨host, hc⟩, -⟩ := hs.tidy l hl
    have hnone : cur = none := by
      cases cur with
      | none => rfl
      | some c =>
        obtain ⟨hc', hn⟩ := hcur c rfl
        obtain rfl : (l, host) = c := Option.some.inj (hc.symm.trans hc')
        exact absurd hl hn
    subst hnone
    cases hrem
    exact leads.seats

theorem Turns.stale_eq_of_error {e : RouteError} (h : s.Turns readOnly (.error e) s') :
    s'.seats.stale = s.seats.stale := by
  cases h with
  | fails switches leads => rw [leads.seats]; exact switches.stale_eq

theorem Turns.sound (h : s.Turns readOnly r s') (hs : s.Sound) (fresh : s'.world.opened.Nodup) : s'.Sound := by
  refine ⟨h.renews.known hs, ?_⟩
  cases r with
  | ok _ => exact Seats.tidy_of_stale_eq_none (h.releases hs fresh).1
  | error e =>
    intro l hl
    rw [h.stale_eq_of_error] at hl
    rw [h.seats_eq_of_stale hs hl]
    exact hs.tidy l hl

theorem Recovers.renews (h : s.Recovers r s') : s.Renews s' := by
  cases h with
  | sound => exact .refl s
  | turns _ turns => exact turns.renews

theorem Recovers.releases (h : s.Recovers (.ok ()) s') (hs : s.Sound) (fresh : s'.world.opened.Nodup) :
    s'.seats.stale = none ∧ ∀ l, s.seats.stale = some l → s'.world.Shut l := by
  cases h with
  | sound sound => exact ⟨hs.stale_eq_none sound, fun l hl => absurd (hs.tidy.isLost hl) sound⟩
  | turns _ turns => exact turns.releases hs fresh

theorem Balances.renews (h : s.Balances s') : s.Renews s' := by
  cases h with
  | stays => exact .refl s
  | rotates _ _ rotates leads =>
    refine ⟨leads.upkeep.grows, leads.providers, fun l hl => ?_, fun l hl => .inl ?_⟩
    · rw [leads.seats] at hl; exact rotates.reaches hl
    · rw [leads.seats] at hl; exact rotates.stale_eq ▸ hl

theorem Balances.stale_eq (h : s.Balances s') : s'.seats.stale = s.seats.stale := by
  cases h with
  | stays => rfl
  | rotates _ _ rotates leads => rw [leads.seats]; exact rotates.stale_eq

end Switches

/-! ### Operations -/

theorem Refuses.renews {e : RouteError} (h : s.Refuses op e s') : s.Renews s' := by
  cases h with
  | mode turns => exact turns.renews
  | plain _ recovers => exact recovers.renews

theorem Refuses.sound {e : RouteError} (h : s.Refuses op e s') (hs : s.Sound) (fresh : s'.world.opened.Nodup) :
    s'.Sound := by
  cases h with
  | mode turns => exact turns.sound hs fresh
  | plain _ recovers =>
    cases recovers with
    | turns _ turns => exact turns.sound hs fresh

/-- What is refused does not touch the link that was left behind. -/
theorem Refuses.stale_eq {e : RouteError} (h : s.Refuses op e s') : s'.seats.stale = s.seats.stale := by
  cases h with
  | mode turns => exact turns.stale_eq_of_error
  | plain _ recovers =>
    cases recovers with
    | turns _ turns => exact turns.stale_eq_of_error

theorem Prepares.renews (h : s.Prepares op s') : s.Renews s' := by
  cases h with
  | mode turns => exact turns.renews.trans (.of_seats_eq (.refl _) rfl rfl)
  | close => exact .refl s
  | plain _ recovers balances => exact recovers.renews.trans balances.renews

/-- Whoever is prepared for an operation has left nothing behind: what was is shut. -/
theorem Prepares.releases (h : s.Prepares op s') (hop : op ≠ .close) (hs : s.Sound)
    (fresh : s'.world.opened.Nodup) :
    s'.seats.stale = none ∧ ∀ l, s.seats.stale = some l → s'.world.Shut l := by
  cases h with
  | mode turns => exact turns.releases hs fresh
  | close => exact absurd rfl hop
  | plain _ recovers balances =>
    obtain ⟨hst, hshut⟩ := recovers.releases hs (balances.upkeep.grows.nodup fresh)
    exact ⟨balances.stale_eq.trans hst, fun l hl => (hshut l hl).mono balances.upkeep.grows⟩

theorem Prepares.sound (h : s.Prepares op s') (hs : s.Sound) (fresh : s'.world.opened.Nodup) : s'.Sound := by
  by_cases hop : op = .close
  · subst hop
    cases h with
    | close => exact hs
    | plain plain => cases plain
  · exact ⟨h.renews.known hs, Seats.tidy_of_stale_eq_none (h.releases hop hs fresh).1⟩

end Stand

/-! ## Legs and runs -/

section Legs

variable {others : World D → World D → Prop} [Bystanders others] [Backend D]

namespace Leg

variable {k : Leg D} {s₁ s₂ : Stand D} {ans : Answer}

theorem Passes.grows_after (h : k.Passes others s₁ ans s₂) : s₁.world.Grows k.after.world :=
  h.performs.grows.trans (Split.leaveFor_upkeep h.left).grows

/-- Before an operation other than a close runs, the current link is within reach. -/
theorem Passes.reaches (h : k.Passes others s₁ ans s₂) (hop : k.op ≠ .close) (hs : k.before.toStand.Sound)
    (fresh : s₁.world.opened.Nodup) {l : Link} (hl : s₁.service.link? = some l) : s₁.seats.Reaches l := by
  rcases Stand.reaches_or_stale hl with hr | hst
  · exact hr
  · rw [(h.prepares.releases hop hs fresh).1] at hst
    cases hst

theorem Passes.grows (h : k.Passes others s₁ ans s₂) : k.before.world.Grows k.after.world :=
  h.prepares.upkeep.grows.trans h.grows_after

/-- What becomes of the links when an operation other than a close has run: nothing, or a failover leaves
the current one behind and gives up the others. -/
theorem Passes.leaves (h : k.Passes others s₁ ans s₂) (hop : k.op ≠ .close) :
    (ans.isFailover = false ∧ k.after.seats = s₁.seats) ∨
      (ans.isFailover = true ∧ k.after.seats = ⟨s₁.service.current, none, none, s₁.service.link?⟩ ∧
        ∀ l, s₁.seats.Keeps l → s₁.service.link? ≠ some l → s₁.world.Knows l → k.after.world.Shut l) := by
  have hcur : s₂.service.current = s₁.service.current := h.performs.current_eq
  rcases Split.ends_leaveFor hop h.left with ⟨hf, he⟩ | ⟨hf, hl, hshut⟩
  · exact .inl ⟨hf, by rw [← he]; exact h.seats_eq⟩
  · refine .inr ⟨hf, ?_, fun l hk hne hkn => ?_⟩
    · rw [hl.seats, Service.link?, hcur]; rfl
    · rw [h.seats_eq, Service.link?, hcur] at hshut
      exact hshut l hk hne (hkn.mono h.performs.grows)

/-- A close shuts the current link. -/
theorem Passes.shut_of_close (h : k.Passes others s₁ ans s₂) (hop : k.op = .close)
    {l : Link} (hl : s₁.service.link? = some l) (hk : s₁.world.Knows l) : k.after.world.Shut l := by
  have hout : s₂.toPlace.world.Upkeep k.after.world := Split.leaveFor_upkeep h.left
  have hperforms := h.performs
  rw [hop] at hperforms
  generalize s₂.toPlace = q at hperforms hout
  cases hperforms with
  | missing none => rw [hl] at none; cases none
  | unsent _ open_ => exact absurd rfl open_
  | sent _ open_ => exact absurd rfl open_
  | closed link _ shuts =>
    obtain rfl := Option.some.inj (hl.symm.trans link)
    exact (shuts hk).mono hout.grows

/-- After a close the current link stays where it is, and nothing else is kept. -/
theorem Passes.closes (h : k.Passes others s₁ ans s₂) (hop : k.op = .close) :
    k.after.seats = ⟨s₁.service.current, none, none, none⟩ := by
  have hleft := h.left
  rw [hop] at hleft
  obtain ⟨u, hl, hu⟩ := Split.ends_leaveFor_close hleft
  have hcur : s₂.service.current = s₁.service.current := h.performs.current_eq
  rw [← hcur, hu]
  exact hl.seats

theorem Passes.renews (h : k.Passes others s₁ ans s₂) (hop : k.op ≠ .close) :
    k.before.toStand.Renews k.after.toStand := by
  have hgrows := h.grows_after
  refine h.prepares.renews.trans ?_
  rcases h.leaves hop with ⟨-, hseats⟩ | ⟨-, hseats, -⟩
  · exact .of_seats_eq hgrows h.providers_eq hseats
  · refine ⟨hgrows, h.providers_eq, fun l hl => ?_, fun l hl => ?_⟩
    · rw [hseats] at hl
      exact absurd hl Seats.not_reaches_of_left
    · rw [hseats] at hl
      exact (Stand.reaches_or_stale hl).elim (fun hr => .inr (.inl hr)) .inl

theorem Passes.sound (h : k.Passes others s₁ ans s₂) (hs : k.before.toStand.Sound)
    (fresh : k.after.world.opened.Nodup) : k.after.toStand.Sound := by
  have hgrows := h.grows_after
  by_cases hop : k.op = .close
  · have hs₁ := h.prepares.sound hs (hgrows.nodup fresh)
    refine ⟨fun l hl => ?_, by rw [h.closes hop]; exact Seats.tidy_of_stale_eq_none rfl⟩
    rw [h.closes hop] at hl
    rcases hl with (⟨host, hc, -⟩ | ⟨_, hk⟩ | ⟨_, hk⟩) | hst
    · have hlink : s₁.service.link? = some l := congrArg (Option.map Prod.fst) hc
      exact (hs₁.known l (Stand.reaches_or_stale hlink)).mono hgrows
    · cases hk
    · cases hk
    · cases hst
  · refine ⟨(h.renews hop).known hs, ?_⟩
    rcases h.leaves hop with ⟨-, hseats⟩ | ⟨-, hseats, -⟩
    · rw [hseats]; exact (h.prepares.sound hs (hgrows.nodup fresh)).tidy
    · rw [hseats]; exact Seats.tidy_of_left

theorem Taken.grows (h : k.Taken others) : k.before.world.Grows k.after.world := by
  rcases h.course with ⟨_, stays, _, _⟩ | ⟨_, refuses, _, _⟩ | ⟨passes⟩
  · rw [show k.after.world = k.before.world from congrArg (fun s => s.world) stays]; exact .refl _
  · exact refuses.upkeep.grows
  · exact passes.grows

/-- A call brings only new links within reach, unless it closes the connection. -/
theorem Taken.renews (h : k.Taken others) (hc : k.after.closed = false) :
    k.before.toStand.Renews k.after.toStand := by
  rcases h.course with ⟨_, _, closed', _⟩ | ⟨_, refuses, _, _⟩ | ⟨passes⟩
  · rw [closed'] at hc; cases hc
  · exact refuses.renews
  · exact passes.renews (passes.op_ne_close hc)

theorem Taken.sound (h : k.Taken others) (hs : k.before.toStand.Sound) (fresh : k.after.world.opened.Nodup) :
    k.after.toStand.Sound := by
  rcases h.course with ⟨_, stays, _, _⟩ | ⟨_, refuses, _, _⟩ | ⟨passes⟩
  · rw [stays]; exact hs
  · exact refuses.sound hs fresh
  · exact passes.sound hs fresh

end Leg

namespace Run

variable {s s' : Session D} {ks : List (Leg D)}

theorem grows (h : Run others s ks s') : s.world.Grows s'.world := by
  induction h with
  | start => exact .refl _
  | aside _ change _ ih => exact ih.trans (Bystanders.aside change).upkeep.grows
  | call _ taken ih => exact ih.trans taken.grows

/-- Along a run of an open connection only new links come within reach. -/
theorem renews (h : Run others s ks s') (hc : s'.closed = false) : s.toStand.Renews s'.toStand := by
  induction h with
  | start => exact .refl _
  | aside _ change _ ih =>
    exact (ih hc).trans (.of_seats_eq (Bystanders.aside change).upkeep.grows rfl rfl)
  | call _ taken ih => exact (ih (taken.free hc)).trans (taken.renews hc)

/-- Where nothing is pooled, nothing is while the connection is open. -/
theorem unpooled (h : Run others s ks s') (hc : s'.closed = false) (hs : s.toStand.Unpooled) :
    s'.toStand.Unpooled :=
  (h.renews hc).unpooled hs

/-- Links stay known and tidy along a run, if the driver opens no connection twice. -/
theorem sound (h : Run others s ks s') (hs : s.toStand.Sound) (fresh : s'.world.opened.Nodup) :
    s'.toStand.Sound := by
  induction h with
  | start => exact hs
  | aside _ change _ ih =>
    have hg := (Bystanders.aside change).upkeep.grows
    have hu := ih (hg.nodup fresh)
    exact ⟨fun l hl => (hu.known l hl).mono hg, hu.tidy⟩
  | call _ taken ih => exact taken.sound (ih (taken.grows.nodup fresh)) fresh

end Run

namespace Session.Opens

variable {s : Session D}

/-- A new session has nothing within reach but its current link, and nothing left behind. -/
theorem link?_of_reaches (h : s.Opens others) {l : Link} (hl : s.seats.Reaches l ∨ s.seats.stale = some l) :
    s.service.link? = some l := by
  obtain ⟨k, hseats, -⟩ := h.fresh
  have hcur : s.service.current = some k := congrArg Seats.current hseats
  rw [Service.link?, hcur, Seats.eq_of_single hseats hl]
  rfl

theorem sound (h : s.Opens others) : s.toStand.Sound := by
  obtain ⟨k, hseats, hknows, -⟩ := h.fresh
  refine ⟨fun l hl => ?_, by rw [hseats]; exact Seats.tidy_of_stale_eq_none rfl⟩
  rw [Seats.eq_of_single hseats hl]
  exact hknows

theorem unpooled (h : s.Opens others) (hp : s.service.providers.pooled = none) : s.toStand.Unpooled := by
  obtain ⟨k, hseats, -, hdirect, -⟩ := h.fresh
  refine ⟨hp, fun l hl => ?_⟩
  rw [Seats.eq_of_single hseats hl]
  exact hdirect hp

end Session.Opens

end Legs

end ReplicaRouter
