import ReplicaRouter.Proofs.Seats
/-
Where a logical connection stands between two steps of its programs: its own state, the splitter, the
time and the world. `Act.Ends` and `Split.Ends` relate a stand to each one where a program may end, and
follow the program step by step.
Main statement: `Stand.Leads` says what steps that only look after links come to, and composes.
-/
namespace ReplicaRouter

variable {D α β : Type}

/-- Where an act of a logical connection stands. -/
@[ext]
structure Place (D : Type) where
  service : Service
  clock : Instant
  world : World D

/-- Where read/write splitting stands. -/
@[ext]
structure Stand (D : Type) extends Place D where
  splitter : Splitter

theorem Stand.eq_of_place {s s' : Stand D} (hp : s.toPlace = s'.toPlace) (hs : s.splitter = s'.splitter) :
    s = s' :=
  Stand.ext (congrArg Place.service hp) (congrArg Place.clock hp) (congrArg Place.world hp) hs

/-- An act ends with a value in another place. -/
def Act.Ends (others : World D → World D → Prop) (x : Act D α) (p : Place D) (a : α) (q : Place D) : Prop :=
  Routine.Ends others (x.run p.service) p.clock p.world (a, q.service) q.clock q.world

/-- An act that carries a state along ends with a value and a state in another place. -/
def Act.EndsOver {σ : Type} (others : World D → World D → Prop) (x : StateT σ (Act D) α) (c : σ) (p : Place D)
    (a : α) (c' : σ) (q : Place D) : Prop :=
  Act.Ends others (x.run c) p (a, c') q

/-- A program of read/write splitting ends with a value in another place. -/
def Split.Ends (others : World D → World D → Prop) (x : Split D α) (s : Stand D) (a : α) (s' : Stand D) : Prop :=
  Act.EndsOver others x s.splitter s.toPlace a s'.splitter s'.toPlace

variable {others : World D → World D → Prop}

/-! ## Acts -/

namespace Act

variable {p q : Place D}

theorem ends_pure {a b : α} : Act.Ends others (pure a) p b q ↔ b = a ∧ q = p := by
  refine Routine.ends_pure.trans ?_
  constructor
  · rintro ⟨h, ht, hw⟩
    obtain ⟨hb, hv⟩ := Prod.mk.inj h
    exact ⟨hb, Place.ext hv ht hw⟩
  · rintro ⟨rfl, rfl⟩
    exact ⟨rfl, rfl, rfl⟩

theorem ends_bind {x : Act D α} {f : α → Act D β} {b : β} :
    Act.Ends others (x >>= f) p b q ↔ ∃ a r, Act.Ends others x p a r ∧ Act.Ends others (f a) r b q := by
  refine Routine.ends_bind.trans ?_
  constructor
  · rintro ⟨⟨a, v⟩, t, w, hx, hf⟩
    exact ⟨a, ⟨v, t, w⟩, hx, hf⟩
  · rintro ⟨a, ⟨v, t, w⟩, hx, hf⟩
    exact ⟨(a, v), t, w, hx, hf⟩

theorem ends_get {v : Service} : Act.Ends others get p v q ↔ v = p.service ∧ p = q := by
  rw [eq_comm (a := p)]
  exact ends_pure (a := p.service)

theorem ends_modify {f : Service → Service} {a : Unit} :
    Act.Ends others (modify f) p a q ↔ q = { p with service := f p.service } := by
  refine (Routine.ends_pure (a := ((), f p.service))).trans ?_
  constructor
  · rintro ⟨h, ht, hw⟩
    exact Place.ext (Prod.mk.inj h).2 ht hw
  · rintro rfl
    exact ⟨rfl, rfl, rfl⟩

/-- Work on the world leaves the own state of a logical connection as it is. -/
theorem world_run (x : Routine (World D) α) (v : Service) : (Act.world x).run v = x >>= fun a => pure (a, v) := rfl

theorem ends_world {x : Routine (World D) α} {a : α} :
    Act.Ends others (Act.world x) p a q ↔
      Routine.Ends others x p.clock p.world a q.clock q.world ∧ q.service = p.service := by
  refine Routine.ends_bind.trans ?_
  constructor
  · rintro ⟨b, t, w, hx, h⟩
    obtain ⟨h, ht, hw⟩ := Routine.ends_pure.1 h
    obtain ⟨ha, hv⟩ := Prod.mk.inj h
    rw [ht, hw, ha]
    exact ⟨hx, hv⟩
  · rintro ⟨hx, hv⟩
    exact ⟨a, q.clock, q.world, hx, Routine.ends_pure.2 ⟨by rw [hv], rfl, rfl⟩⟩

/-! ## Acts that carry a state along -/

section Over

variable {σ : Type} {c c' : σ}

theorem endsOver_pure {a b : α} :
    Act.EndsOver others (pure a : StateT σ (Act D) α) c p b c' q ↔ b = a ∧ c' = c ∧ q = p := by
  refine Act.ends_pure.trans ?_
  rw [Prod.mk.injEq, and_assoc]

theorem endsOver_bind {x : StateT σ (Act D) α} {f : α → StateT σ (Act D) β} {b : β} :
    Act.EndsOver others (x >>= f) c p b c' q ↔
      ∃ a d r, Act.EndsOver others x c p a d r ∧ Act.EndsOver others (f a) d r b c' q := by
  refine (Act.ends_bind (x := x.run c) (f := fun r => (f r.1).run r.2)).trans ?_
  constructor
  · rintro ⟨⟨a, d⟩, r, hx, hf⟩
    exact ⟨a, d, r, hx, hf⟩
  · rintro ⟨a, d, r, hx, hf⟩
    exact ⟨(a, d), r, hx, hf⟩

theorem endsOver_modify {f : σ → σ} {a : Unit} :
    Act.EndsOver others (modify f : StateT σ (Act D) Unit) c p a c' q ↔ c' = f c ∧ q = p := by
  refine (Act.ends_pure (a := ((), f c))).trans ?_
  rw [Prod.mk.injEq, and_assoc]
  exact ⟨fun h => h.2, fun h => ⟨rfl, h⟩⟩

theorem endsOver_lift {x : Act D α} {a : α} :
    Act.EndsOver others (liftM x : StateT σ (Act D) α) c p a c' q ↔ Act.Ends others x p a q ∧ c = c' := by
  refine (Act.ends_bind (x := x) (f := fun a => pure (a, c))).trans ?_
  constructor
  · rintro ⟨b, r, hx, h⟩
    obtain ⟨h, hr⟩ := Act.ends_pure.1 h
    obtain ⟨ha, hv⟩ := Prod.mk.inj h
    rw [hr, ha]
    exact ⟨hx, hv.symm⟩
  · rintro ⟨hx, rfl⟩
    exact ⟨a, q, hx, Act.ends_pure.2 ⟨rfl, rfl⟩⟩

end Over

end Act

/-! ## Programs of read/write splitting -/

namespace Split

variable {s s' : Stand D}

theorem ends_pure {a b : α} : Split.Ends others (pure a) s b s' ↔ b = a ∧ s' = s := by
  refine Act.endsOver_pure.trans ?_
  constructor
  · rintro ⟨hb, hx, hp⟩
    exact ⟨hb, Stand.eq_of_place hp hx⟩
  · rintro ⟨rfl, rfl⟩
    exact ⟨rfl, rfl, rfl⟩

theorem ends_bind {x : Split D α} {f : α → Split D β} {b : β} :
    Split.Ends others (x >>= f) s b s' ↔ ∃ a u, Split.Ends others x s a u ∧ Split.Ends others (f a) u b s' := by
  refine Act.endsOver_bind.trans ?_
  constructor
  · rintro ⟨a, x', r, hx, hf⟩
    exact ⟨a, ⟨r, x'⟩, hx, hf⟩
  · rintro ⟨a, ⟨r, x'⟩, hx, hf⟩
    exact ⟨a, x', r, hx, hf⟩

theorem ends_get {x : Splitter} : Split.Ends others get s x s' ↔ x = s.splitter ∧ s = s' := by
  rw [eq_comm (a := s)]
  exact ends_pure (a := s.splitter)

/-- What only looks is passed over: what comes after it starts from the same stand. -/
theorem after_look {x : Split D α} {f : α → Split D β} {v : α} {b : β}
    (hx : ∀ {a u}, Split.Ends others x s a u → a = v ∧ s = u) (h : Split.Ends others (x >>= f) s b s') :
    Split.Ends others (f v) s b s' := by
  obtain ⟨a, u, ha, h⟩ := ends_bind.1 h
  obtain ⟨rfl, rfl⟩ := hx ha
  exact h

theorem after_get {f : Splitter → Split D β} {b : β} (h : Split.Ends others (get >>= f) s b s') :
    Split.Ends others (f s.splitter) s b s' :=
  after_look ends_get.1 h

theorem ends_modify {f : Splitter → Splitter} {a : Unit} :
    Split.Ends others (modify f) s a s' ↔ s' = { s with splitter := f s.splitter } := by
  refine Act.endsOver_modify.trans ?_
  constructor
  · rintro ⟨hx, hp⟩
    exact Stand.eq_of_place hp hx
  · rintro rfl
    exact ⟨rfl, rfl⟩

theorem ends_act {x : Act D α} {a : α} :
    Split.Ends others (Split.act x) s a s' ↔
      Act.Ends others x s.toPlace a s'.toPlace ∧ s'.splitter = s.splitter :=
  Act.endsOver_lift.trans (and_congr_right fun _ => eq_comm)

theorem ends_world {x : Routine (World D) α} {a : α} :
    Split.Ends others (Split.world x) s a s' ↔
      Routine.Ends others x s.clock s.world a s'.clock s'.world ∧ s'.service = s.service ∧
        s'.splitter = s.splitter := by
  rw [Split.world, ends_act, Act.ends_world, and_assoc]

end Split

/-! ## Looking after links -/

namespace Stand

/-- Where the links are. -/
def seats (s : Stand D) : Seats :=
  ⟨s.service.current, s.splitter.writer, s.splitter.reader, s.splitter.stale⟩

/-- Steps that only look after links lead to a stand where the links have these seats. -/
structure Leads (s : Stand D) (p : Seats) (s' : Stand D) : Prop where
  seats : s'.seats = p
  upkeep : s.world.Upkeep s'.world
  transaction : s'.service.transaction = s.service.transaction
  providers : s'.service.providers = s.service.providers
  readOnly : s'.splitter.readOnly = s.splitter.readOnly

theorem Leads.refl (s : Stand D) : s.Leads s.seats s := ⟨rfl, .refl _, rfl, rfl, rfl⟩

theorem Leads.trans {s u s' : Stand D} {p q : Seats} (h1 : s.Leads p u) (h2 : u.Leads q s') : s.Leads q s' :=
  ⟨h2.seats, h1.upkeep.trans h2.upkeep, h2.transaction.trans h1.transaction,
    h2.providers.trans h1.providers, h2.readOnly.trans h1.readOnly⟩

/-- Steps that leave the links where they are do not matter. -/
theorem Leads.still {s u s' : Stand D} {p : Seats} (h1 : s.Leads p u) (h2 : u.Leads u.seats s') : s.Leads p s' :=
  h1.seats ▸ h1.trans h2

/-- Between two stands something was written down, and no call to the driver. -/
structure Noted (s u : Stand D) : Prop where
  service : u.service = s.service
  splitter : u.splitter = s.splitter
  world : s.world.Noted u.world

theorem Noted.refl (s : Stand D) : s.Noted s := ⟨rfl, rfl, .refl _⟩

theorem Noted.trans {s u s' : Stand D} (h1 : s.Noted u) (h2 : u.Noted s') : s.Noted s' :=
  ⟨h2.service.trans h1.service, h2.splitter.trans h1.splitter, h1.world.trans h2.world⟩

theorem Noted.seats_eq {s u : Stand D} (h : s.Noted u) : u.seats = s.seats := by
  rw [Stand.seats, h.service, h.splitter]; rfl

theorem Noted.leads {s u : Stand D} (h : s.Noted u) : s.Leads s.seats u :=
  ⟨h.seats_eq, h.world.upkeep, by rw [h.service], by rw [h.service], by rw [h.splitter]⟩

/-- The link was provided between two stands. Where nothing is pooled it is a connection of its own. -/
structure Obtains (s s' : Stand D) (l : Link) : Prop where
  newly : s.world.Newly s'.world l
  direct : s.service.providers.pooled = none → ∃ c, l = .direct c

theorem Obtains.since {s u s' : Stand D} {l : Link} (hg : u.world.Grows s.world)
    (hp : s.service.providers = u.service.providers) (h : s.Obtains s' l) : u.Obtains s' l :=
  ⟨h.newly.before hg, by rw [← hp]; exact h.direct⟩

theorem Obtains.later {s u s' : Stand D} {l : Link} (hg : u.world.Grows s'.world) (h : s.Obtains u l) :
    s.Obtains s' l :=
  ⟨h.newly.later hg, h.direct⟩

end Stand

/-- A line of the log is written down. -/
theorem World.noted_log {level : LogLevel} {text : String} {now later : Instant} {w w' : World D} {a : Unit}
    (h : Routine.Ends others (World.log level text) now w a later w') : w.Noted w' := by
  obtain ⟨-, -, hw⟩ := Routine.ends_pure.1 h
  exact ⟨[.log level text], fun e he => by rw [List.mem_singleton.1 he]; rfl, hw⟩

namespace Service

variable {p q : Place D}

theorem ends_hosts {hosts : List Host} (h : Act.Ends others Service.hosts p hosts q) :
    hosts = p.world.hosts.topology ∧ p = q := by
  obtain ⟨w, r, hw, h⟩ := Act.ends_bind.1 h
  obtain ⟨hw, hv⟩ := Act.ends_world.1 hw
  obtain ⟨rfl, ht, hw⟩ := Routine.ends_get.1 hw
  obtain ⟨rfl, rfl⟩ := Act.ends_pure.1 h
  exact ⟨rfl, Place.ext hv.symm ht.symm hw.symm⟩

theorem isCall_of_mem_entries {t : Telemetry} {sg : Signal} {e : Entry} (h : e ∈ t.entries sg) :
    e.isCall = false := by
  cases t with
  | off => cases h
  | logged => cases sg <;> simp [Telemetry.entries, Telemetry.logEntries] at h <;> grind [Entry.isCall]
  | outside => rw [List.mem_singleton.1 h]; rfl

theorem ends_notes {es : List Entry} (hs : ∀ e ∈ es, e.isCall = false) {a : Unit}
    (h : Act.Ends others (es.forM fun e => Act.world (Routine.note e)) p a q) :
    q.service = p.service ∧ p.world.Noted q.world := by
  induction es generalizing p with
  | nil =>
    rw [(Act.ends_pure.1 h).2]
    exact ⟨rfl, .refl _⟩
  | cons e es ih =>
    obtain ⟨_, u, hu, h⟩ := Act.ends_bind.1 h
    obtain ⟨hu, huv⟩ := Act.ends_world.1 hu
    obtain ⟨-, -, hw⟩ := Routine.ends_pure.1 hu
    have hn : p.world.Noted u.world := ⟨[e], fun e he => List.mem_singleton.1 he ▸ hs _ List.mem_cons_self, hw⟩
    obtain ⟨h1, h2⟩ := ih (fun e he => hs e (List.mem_cons_of_mem _ he)) h
    exact ⟨h1.trans huv, hn.trans h2⟩

theorem noted_signal {sg : Signal} {a : Unit} (h : Act.Ends others (Service.signal sg) p a q) :
    q.service = p.service ∧ p.world.Noted q.world := by
  obtain ⟨v, r, hv, h⟩ := Act.ends_bind.1 h
  obtain ⟨-, rfl⟩ := Act.ends_get.1 hv
  exact ends_notes (fun _ => isCall_of_mem_entries) h

variable [Bystanders others] [Backend D]

theorem ends_connect {host : Host} {props : Properties} {r : Except RouteError Link}
    (h : Act.Ends others (Service.connect host props) p r q) :
    q.service = p.service ∧ p.world.Provides r q.world ∧
      (p.service.providers.pooled = none → ∀ l, r = .ok l → ∃ c, l = .direct c) := by
  obtain ⟨v, u, hv, h⟩ := Act.ends_bind.1 h
  obtain ⟨rfl, rfl⟩ := Act.ends_get.1 hv
  obtain ⟨h, hq⟩ := Act.ends_world.1 h
  exact ⟨hq, (Providers.meets_connect ..).ends h⟩

theorem ends_setCurrent {l : Link} {host : Host} {a : Unit}
    (h : Act.Ends others (Service.setCurrent l host) p a q) :
    q.service = { p.service with current := some (l, host) } ∧ p.world.Upkeep q.world := by
  obtain ⟨_, p1, h1, h⟩ := Act.ends_bind.1 h
  obtain ⟨h1, hv1⟩ := Act.ends_world.1 h1
  have hu1 : p.world.Upkeep p1.world := (World.keeps_log _ _).ends h1
  obtain ⟨_, p2, h2, h⟩ := Act.ends_bind.1 h
  obtain ⟨h2, hv2⟩ := Act.ends_world.1 h2
  have hu2 : p.world.Upkeep p2.world := hu1.trans ((Link.keeps_hold l).ends h2)
  obtain ⟨v, p3, h3, h⟩ := Act.ends_bind.1 h
  obtain ⟨rfl, rfl⟩ := Act.ends_get.1 h3
  obtain ⟨_, p4, h4, h⟩ := Act.ends_bind.1 h
  have h4 := Act.ends_modify.1 h4
  have hv4 : p4.service = { p.service with current := some (l, host) } := by rw [h4, ← hv1, ← hv2]
  have hu4 : p.world.Upkeep p4.world := by rw [h4]; exact hu2
  split at h
  · obtain ⟨h, hq⟩ := Act.ends_world.1 h
    exact ⟨hq.trans hv4, hu4.trans ((Link.keeps_letGo _).ends h)⟩
  · rw [(Act.ends_pure.1 h).2]
    exact ⟨hv4, hu4⟩

end Service

namespace Split

variable {s s' : Stand D} {a : α}

theorem leads_act {x : Act D α} (h : Split.Ends others (Split.act x) s a s')
    (hx : ∀ q, Act.Ends others x s.toPlace a q → q.service = s.service ∧ s.world.Upkeep q.world) :
    s.Leads s.seats s' := by
  obtain ⟨h, hs⟩ := ends_act.1 h
  obtain ⟨hv, hu⟩ := hx _ h
  refine ⟨?_, hu, by rw [hv], by rw [hv], by rw [hs]⟩
  rw [Stand.seats, hv, hs, Stand.seats]

theorem noted_signal {sg : Signal} {a : Unit} (h : Split.Ends others (Split.act (Service.signal sg)) s a s') :
    s.Noted s' := by
  obtain ⟨h, hs⟩ := ends_act.1 h
  obtain ⟨hv, hn⟩ := Service.noted_signal h
  exact ⟨hv, hs, hn⟩

theorem noted_log {level : LogLevel} {text : String} {a : Unit}
    (h : Split.Ends others (Split.world (World.log level text)) s a s') : s.Noted s' := by
  obtain ⟨h, hv, hs⟩ := ends_world.1 h
  exact ⟨hv, hs, World.noted_log h⟩

theorem leads_world {x : Routine (World D) α} (hx : Routine.Keeps others World.Upkeep x)
    (h : Split.Ends others (Split.world x) s a s') : s.Leads s.seats s' :=
  leads_act h fun _ hq => ⟨(Act.ends_world.1 hq).2, hx.ends (Act.ends_world.1 hq).1⟩

end Split

end ReplicaRouter
