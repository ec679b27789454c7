import ReplicaRouter.Proofs.Standing
/-
What the single steps of read/write splitting do: looking at something, picking, writing something down, holding a link
and letting it go, keeping another one in a place, and asking for a connection.
Main statements: `Split.leads_setWriter`, `Split.leads_setReader` and `Split.leads_setStale` tell where the links are
afterwards, and `Split.ends_setWriter`, `Split.ends_setReader` and `Split.ends_setStale` what the splitter is.
-/
namespace ReplicaRouter

variable {D : Type}

namespace Split

variable {others : World D → World D → Prop} {s s' : Stand D}

open Splitter

/-! ## Looking -/

theorem ends_look {w : World D} (h : Split.Ends others (Split.world get) s w s') : w = s.world ∧ s = s' := by
  obtain ⟨h, hv, hs⟩ := ends_world.1 h
  obtain ⟨rfl, ht, hw⟩ := Routine.ends_get.1 h
  exact ⟨rfl, Stand.ext hv.symm ht.symm hw.symm hs.symm⟩

theorem ends_service {v : Service} (h : Split.Ends others (Split.act get) s v s') :
    v = s.service ∧ s = s' := by
  obtain ⟨h, hs⟩ := ends_act.1 h
  obtain ⟨rfl, hp⟩ := Act.ends_get.1 h
  exact ⟨rfl, Stand.eq_of_place hp hs.symm⟩

theorem ends_hosts {hosts : List Host} (h : Split.Ends others (Split.act Service.hosts) s hosts s') :
    hosts = s.world.hosts.topology ∧ s = s' := by
  obtain ⟨h, hs⟩ := ends_act.1 h
  obtain ⟨rfl, hp⟩ := Service.ends_hosts h
  exact ⟨rfl, Stand.eq_of_place hp hs.symm⟩

section After

variable {β : Type} {b : β}

theorem after_world {f : World D → Split D β} (h : Split.Ends others (Split.world get >>= f) s b s') :
    Split.Ends others (f s.world) s b s' :=
  after_look ends_look h

theorem after_service {f : Service → Split D β} (h : Split.Ends others (Split.act get >>= f) s b s') :
    Split.Ends others (f s.service) s b s' :=
  after_look ends_service h

theorem after_hosts {f : List Host → Split D β} (h : Split.Ends others (Split.act Service.hosts >>= f) s b s') :
    Split.Ends others (f s.world.hosts.topology) s b s' :=
  after_look ends_hosts h

end After

/-! ## Writing things down -/

theorem leads_modify {f : Splitter → Splitter} {a : Unit} (hf : (f s.splitter).readOnly = s.splitter.readOnly)
    (h : Split.Ends others (modify f) s a s') :
    s.Leads ⟨s.seats.current, (f s.splitter).writer, (f s.splitter).reader, (f s.splitter).stale⟩ s' := by
  rw [ends_modify.1 h]
  exact ⟨rfl, .refl _, rfl, rfl, hf⟩

theorem ends_pick {size : Nat} {i : Option Nat} (h : Split.Ends others (pick size) s i s') :
    i = (s.splitter.selector.pick size).1 ∧
      s' = { s with splitter := { s.splitter with selector := (s.splitter.selector.pick size).2 } } := by
  obtain ⟨hx, hp⟩ := Act.ends_pure.1 h
  obtain ⟨hi, hs⟩ := Prod.mk.inj hx
  exact ⟨hi, Stand.eq_of_place hp hs⟩

theorem leads_pick {size : Nat} {i : Option Nat} (h : Split.Ends others (pick size) s i s') :
    s.Leads s.seats s' := by
  rw [(ends_pick h).2]
  exact ⟨rfl, .refl _, rfl, rfl, rfl⟩

theorem ends_countSwitch {a : Unit} (h : Split.Ends others countSwitch s a s') :
    s'.service = s.service ∧
      s'.splitter = { s.splitter with switches := s.splitter.switches.increment.1 } ∧ s.world.Noted s'.world := by
  replace h := after_get h
  obtain ⟨_, u, hu, h⟩ := ends_bind.1 h
  obtain rfl := ends_modify.1 hu
  have hn := noted_signal h
  exact ⟨hn.service, hn.splitter, hn.world⟩

theorem ends_countFallback {a : Unit} (h : Split.Ends others countFallback s a s') :
    s'.service = s.service ∧
      s'.splitter = { s.splitter with fallbacks := s.splitter.fallbacks.increment.1 } ∧ s.world.Noted s'.world := by
  replace h := after_get h
  obtain ⟨_, u, hu, h⟩ := ends_bind.1 h
  obtain rfl := ends_modify.1 hu
  have hn := noted_signal h
  exact ⟨hn.service, hn.splitter, hn.world⟩

theorem leads_countFallback {a : Unit} (h : Split.Ends others countFallback s a s') : s.Leads s.seats s' := by
  obtain ⟨hv, hx, hn⟩ := ends_countFallback h
  exact ⟨by rw [Stand.seats, hv, hx]; rfl, hn.upkeep, by rw [hv], by rw [hv], by rw [hx]⟩

/-! ## Changing the links -/

/-- Keeps another link in place of the one that `read` finds, and lets go of that one. -/
def swap [Backend D] (slot : Option HostLink) (read : Splitter → Option HostLink) (put : Splitter → Splitter) :
    Split D Unit := do
  hold slot
  let earlier := read (← get)
  modify put
  letGo earlier

variable {slot : Option HostLink} {stale : Option Link} {a : Unit}

section Splitters

variable [Backend D]

theorem setWriter_eq (slot : Option HostLink) :
    setWriter (D := D) slot = swap slot (·.writer) fun x => { x with writer := slot } := rfl

theorem setReader_eq (slot : Option HostLink) :
    setReader (D := D) slot = swap slot (·.reader) fun x => { x with reader := slot } := rfl

variable {read : Splitter → Option HostLink} {put : Splitter → Splitter}

theorem ends_swap (h : Split.Ends others (swap slot read put) s a s') :
    ∃ u, Split.Ends others (hold slot) s () u ∧ u.splitter = s.splitter ∧
      Split.Ends others (letGo (read s.splitter)) { u with splitter := put s.splitter } a s' := by
  obtain ⟨_, u, h1, h⟩ := ends_bind.1 h
  have hu : u.splitter = s.splitter := by
    cases slot with
    | none => rw [(ends_pure.1 h1).2]
    | some l => exact (ends_world.1 h1).2.2
  replace h := after_get h
  obtain ⟨_, s3, h3, h⟩ := ends_bind.1 h
  obtain rfl := ends_modify.1 h3
  rw [hu] at h
  exact ⟨u, h1, hu, h⟩

/-- Where another link is kept, nothing else is changed of the connection and the splitter. -/
theorem ends_put (h : Split.Ends others (swap slot read put) s a s') :
    s'.service = s.service ∧ s'.splitter = put s.splitter := by
  obtain ⟨u, hhold, hsplitter, h⟩ := ends_swap h
  have hu : u.service = s.service := by
    cases slot with
    | none => rw [(ends_pure.1 hhold).2]
    | some l => exact (ends_world.1 hhold).2.1
  cases hread : read s.splitter with
  | none =>
    rw [hread] at h
    rw [(ends_pure.1 h).2]
    exact ⟨hu, rfl⟩
  | some l =>
    rw [hread] at h
    obtain ⟨-, hv, hx⟩ := ends_world.1 h
    exact ⟨hv.trans hu, hx⟩

theorem ends_setWriter (h : Split.Ends others (setWriter slot) s a s') :
    s'.service = s.service ∧ s'.splitter = { s.splitter with writer := slot } := by
  rw [setWriter_eq] at h
  exact ends_put h

theorem ends_setReader (h : Split.Ends others (setReader slot) s a s') :
    s'.service = s.service ∧ s'.splitter = { s.splitter with reader := slot } := by
  rw [setReader_eq] at h
  exact ends_put h

end Splitters

variable [Bystanders others]

theorem leads_hold (h : Split.Ends others (hold slot) s a s') : s.Leads s.seats s' := by
  cases slot with
  | none => rw [(ends_pure.1 h).2]; exact .refl s
  | some l => exact leads_world (Link.keeps_hold l.1) h

variable [Backend D]

theorem leads_letGo (h : Split.Ends others (letGo slot) s a s') : s.Leads s.seats s' := by
  cases slot with
  | none => rw [(ends_pure.1 h).2]; exact .refl s
  | some l => exact leads_world (Link.keeps_letGo l.1) h

/-- Closing a known link shuts it, and nothing else happens. -/
theorem leads_closeQuietly {l : Link} (h : Split.Ends others (Split.world l.closeQuietly) s a s') :
    s.Leads s.seats s' ∧ (s.world.Knows l → s'.world.Shut l) :=
  ⟨leads_world (fun w => (Link.meets_closeQuietly l w).imp fun _ _ h => h.1) h,
    ((Link.meets_closeQuietly l s.world).ends (ends_world.1 h).1).2⟩

variable {read : Splitter → Option HostLink} {put : Splitter → Splitter}

theorem leads_swap (hput : (put s.splitter).readOnly = s.splitter.readOnly)
    (h : Split.Ends others (swap slot read put) s a s') :
    s.Leads ⟨s.seats.current, (put s.splitter).writer, (put s.splitter).reader, (put s.splitter).stale⟩ s' := by
  obtain ⟨u, h1, -, h⟩ := ends_swap h
  have hl := leads_hold h1
  have hv := leads_letGo h
  have hcurrent : u.service.current = s.service.current := congrArg Seats.current hl.seats
  exact ⟨hv.seats.trans (Seats.ext hcurrent rfl rfl rfl), hl.upkeep.trans hv.upkeep,
    hv.transaction.trans hl.transaction, hv.providers.trans hl.providers, hv.readOnly.trans hput⟩

theorem leads_setWriter (h : Split.Ends others (setWriter slot) s a s') :
    s.Leads { s.seats with writer := slot } s' := by
  rw [setWriter_eq] at h
  exact leads_swap rfl h

theorem leads_setReader (h : Split.Ends others (setReader slot) s a s') :
    s.Leads { s.seats with reader := slot } s' := by
  rw [setReader_eq] at h
  exact leads_swap rfl h

theorem ends_setStale (h : Split.Ends others (setStale stale) s a s') :
    s.Leads { s.seats with stale } s' ∧ s'.splitter = { s.splitter with stale } := by
  -- the link is held, if there is one; the rest is the same in both cases
  cases stale
  case' none => have hheld : s.Leads s.seats s ∧ s.splitter = s.splitter := ⟨.refl s, rfl⟩
  case' some l =>
    obtain ⟨_, u, h1, h⟩ := ends_bind.1 h
    have hheld : s.Leads s.seats u ∧ u.splitter = s.splitter :=
      ⟨leads_world (Link.keeps_hold l) h1, (ends_world.1 h1).2.2⟩
  all_goals
    replace h := after_get h
    obtain ⟨_, v, h2, h⟩ := ends_bind.1 h
    have hmodify := leads_modify rfl h2
    obtain rfl := ends_modify.1 h2
    rw [← hheld.1.seats, ← hheld.2]
    split at h
    · exact ⟨hheld.1.trans (hmodify.still (leads_world (Link.keeps_letGo _) h)), (ends_world.1 h).2.2⟩
    · rw [(ends_pure.1 h).2]
      exact ⟨hheld.1.trans hmodify, rfl⟩

theorem leads_setStale (h : Split.Ends others (setStale stale) s a s') : s.Leads { s.seats with stale } s' :=
  (ends_setStale h).1

/-! ## Asking for a connection -/

theorem ends_connect {host : Host} {props : Properties} {r : Except RouteError Link}
    (h : Split.Ends others (Split.act (Service.connect host props)) s r s') :
    s.Leads s.seats s' ∧ ∀ l, r = .ok l → s.Obtains s' l :=
  ⟨leads_act h fun _ hq => ⟨(Service.ends_connect hq).1, (Service.ends_connect hq).2.1.upkeep⟩,
    fun l hl => ⟨(Service.ends_connect (ends_act.1 h).1).2.1.newly l hl,
      fun hn => (Service.ends_connect (ends_act.1 h).1).2.2 hn l hl⟩⟩

end Split

end ReplicaRouter
