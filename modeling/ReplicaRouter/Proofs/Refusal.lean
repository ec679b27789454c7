import ReplicaRouter.Proofs.Staging
/-
Switches that fail. What a switch changes before it knows whether it succeeds is what is remembered of the
current link; all attempts to connect that fail leave nothing behind. While a transaction is open a switch
that asks for another link is refused at once.
Main statement: `Split.unmoved_by_failed_switch`.
-/
namespace ReplicaRouter

variable {D : Type} {others : World D → World D → Prop} {theirs : Link → Prop}

open Splitter

/-! ## Steps that leave everything in place -/

theorem Entry.leftOpen_of_isCall {es : List Entry} (h : ∀ e ∈ es, e.isCall = false) : leftOpen es = [] := by
  refine List.eq_nil_iff_forall_not_mem.2 fun c hc => ?_
  induction es with
  | nil => cases hc
  | cons e es ih =>
    rcases mem_leftOpen_cons.1 hc with ho | ⟨hm, -⟩
    · have he := h e List.mem_cons_self
      cases e with
      | call c => cases he
      | _ => cases ho
    · exact ih (fun e he => h e (List.mem_cons_of_mem _ he)) hm

theorem World.Noted.minds [Backend D] {w w' : World D} (h : w.Noted w') : w.Minds theirs none w' := by
  have hg : w.Grows w' := h.upkeep.grows
  obtain ⟨es, he, rfl⟩ := h
  refine ⟨hg, ⟨es, rfl, fun c hc => ?_⟩, fun l _ ho _ => ⟨ho.noted he, nofun⟩⟩
  rw [Entry.leftOpen_of_isCall he] at hc
  cases hc

namespace Stand

/-- Steps that leave the links in place, and leave no connection behind. -/
structure Rests (theirs : Link → Prop) (s s' : Stand D) : Prop where
  service : s'.service = s.service
  seats : s'.seats = s.seats
  readOnly : s'.splitter.readOnly = s.splitter.readOnly
  minds : s.world.Minds theirs none s'.world

theorem Rests.refl (s : Stand D) : s.Rests theirs s := ⟨rfl, rfl, rfl, .refl _⟩

theorem Noted.rests [Backend D] {s u : Stand D} (h : s.Noted u) : s.Rests theirs u :=
  ⟨h.service, h.seats_eq, by rw [h.splitter], h.world.minds⟩

theorem Rests.trans {s u s' : Stand D} (h1 : s.Rests theirs u) (h2 : u.Rests theirs s') : s.Rests theirs s' :=
  ⟨h2.service.trans h1.service, h2.seats.trans h1.seats, h2.readOnly.trans h1.readOnly, h1.minds.after h2.minds⟩

end Stand

namespace Split

variable {s u s' : Stand D} {a : Unit}

theorem rests_act {α : Type} {x : Act D α} {r : α} (h : Split.Ends others (Split.act x) s r s')
    (hx : ∀ q, Act.Ends others x s.toPlace r q → q.service = s.service ∧ s.world.Minds theirs none q.world) :
    s.Rests theirs s' := by
  obtain ⟨h, hs⟩ := ends_act.1 h
  obtain ⟨hv, hm⟩ := hx _ h
  exact ⟨hv, by rw [Stand.seats, hv, hs]; rfl, by rw [hs], hm⟩

theorem rests_pick {n : Nat} {i : Option Nat} (h : Split.Ends others (pick n) s i s') : s.Rests theirs s' := by
  rw [(ends_pick h).2]
  exact ⟨rfl, rfl, rfl, .refl _⟩

variable [Minding others theirs] [Backend D]

/-- An attempt to connect that fails leaves everything in place. -/
theorem rests_connect {host : Host} {props : Properties} {e : RouteError}
    (h : Split.Ends others (Split.act (Service.connect host props)) s (.error e) s') : s.Rests theirs s' := by
  refine rests_act h fun q hq => ?_
  obtain ⟨v, p, hv, hq⟩ := Act.ends_bind.1 hq
  obtain ⟨rfl, rfl⟩ := Act.ends_get.1 hv
  obtain ⟨hq, hs⟩ := Act.ends_world.1 hq
  exact ⟨hs, Providers.ends_connect hq⟩

end Split

/-! ## Courses that come to nothing -/

namespace Stand

variable [Minding others theirs] [Backend D] {s s' : Stand D} {e : RouteError}

/-- A search that finds nothing leaves everything in place. -/
theorem Seeks.rests {room : Nat} {hosts : List Host} {found : Option HostLink}
    (h : Seeks others room hosts s found s') (hn : found = none) : s.Rests theirs s' := by
  induction h with
  | spent => exact .refl _
  | unpicked picks => exact Split.rests_pick picks
  | connects => cases hn
  | misses picks _ attempt noted _ ih =>
    exact (((Split.rests_pick picks).trans (Split.rests_connect attempt)).trans noted.rests).trans (ih hn)

/-- Without a link to the writer everything stays in place, and the error says that there is no connection. -/
theorem Fetches.rests (h : s.Fetches others (.error e) s') :
    s.Rests theirs s' ∧ ∃ detail, e = .connectionUnavailable detail := by
  cases h with
  | missing => exact ⟨.refl _, _, rfl⟩
  | refused _ _ _ attempt => exact ⟨Split.rests_connect attempt, _, rfl⟩

theorem Settles.rests (h : s.Settles others (.error e) s') :
    s.Rests theirs s' ∧ ∃ detail, e = .connectionUnavailable detail := by
  cases h with
  | fails fetches => exact fetches.rests

theorem Leaves.rests (h : s.Leaves others (.error e) s') :
    s.Rests theirs s' ∧ ∃ detail, e = .connectionUnavailable detail := by
  cases h with
  | fails _ search fetches =>
    -- no reader could be connected, so the writer had to stand in
    have hsearch : s.Rests theirs _ := (Split.seeks_connectReader search).rests rfl
    exact fetches.rests.imp_left hsearch.trans

end Stand

/-! ## What decides a switch -/

namespace Stand

variable {s u s' : Stand D} {readOnly : Bool}

variable [Backend D]

/-- What is remembered, and whether the mode asks for another link, does not depend on what is written down. -/
theorem Noted.remembered_eq (h : s.Noted u) :
    u.remembered = s.remembered ∧ ∀ readOnly, u.Stuck readOnly ↔ s.Stuck readOnly := by
  obtain ⟨⟨v, t, w⟩, x⟩ := u
  obtain ⟨rfl, rfl, es, -, rfl⟩ := h
  exact ⟨rfl, fun _ => Iff.rfl⟩

theorem Noted.remembers {v : Stand D} (h : s.Noted u) (hu : u.Remembers v) : s.Remembers v :=
  ⟨hu.service.trans h.service, hu.splitter.trans h.remembered_eq.1, h.world.books.trans hu.books⟩

/-- What a switch comes to: it goes through if the current link does; else it is refused in a transaction, and
goes on to other links if there is none. -/
inductive Decides (theirs : Link → Prop) (s : Stand D) (readOnly : Bool) : Except RouteError Unit → Stand D → Prop
  | serves {s' : Stand D} (serves : ¬ s.Stuck readOnly) : Decides theirs s readOnly (.ok ()) s'
  | pinned {u s' : Stand D} (busy : s.service.inTransaction = true) (stuck : s.Stuck readOnly)
      (remembers : s.Remembers u) (noted : u.Noted s') :
      Decides theirs s readOnly (.error (Split.pinned (if readOnly then "reader" else "writer"))) s'
  | turns {r : Except RouteError Unit} {u s' : Stand D} (free : s.service.inTransaction = false)
      (remembers : s.Remembers u)
      (rests : ∀ e, r = .error e → u.Rests theirs s' ∧ ∃ detail, e = .connectionUnavailable detail) :
      Decides theirs s readOnly r s'

theorem Decides.since {r : Except RouteError Unit} (h : s.Noted u) (hu : u.Decides theirs readOnly r s') :
    s.Decides theirs readOnly r s' := by
  have hstuck : u.Stuck readOnly ↔ s.Stuck readOnly := h.remembered_eq.2 readOnly
  cases hu with
  | serves serves => exact .serves fun hs => serves (hstuck.2 hs)
  | pinned busy stuck remembers noted =>
    exact .pinned (by rw [← h.service]; exact busy) (hstuck.1 stuck) (h.remembers remembers) noted
  | turns free remembers rests => exact .turns (by rw [← h.service]; exact free) (h.remembers remembers) rests

theorem Decides.noted {e : RouteError} (h : s.Decides theirs readOnly (.error e) u) (hn : u.Noted s') :
    s.Decides theirs readOnly (.error e) s' := by
  cases h with
  | pinned busy stuck remembers noted => exact .pinned busy stuck remembers (noted.trans hn)
  | turns free remembers rests =>
    refine .turns free remembers ?_
    rintro _ ⟨⟩
    exact (rests e rfl).imp_left fun hr => hr.trans hn.rests

end Stand

namespace Stand

variable [Minding others theirs] [Backend D] {s u s' : Stand D} {r : Except RouteError Unit}

theorem TurnsToReader.decides (hu : s.Remembers u) (h : s.TurnsToReader others u r s') :
    s.Decides theirs true r s' := by
  have hserves := s.any_usable_serves_true
  cases h with
  | stays usable fits =>
    rw [hu.splitter] at fits
    have hon : s.usable.any s.remembered.isOnReader = true := by rw [usable]; exact fits
    refine .serves fun hs => ?_
    rw [any_usable_serves.2 hs, ← any_usable_isOnReader, hon] at hserves
    cases hserves
  | shares usable _ single fits =>
    rw [hu.splitter] at fits
    have hon : s.usable.any s.remembered.isOnWriter = true := by rw [usable]; exact fits
    refine .serves fun hs => ?_
    rw [any_usable_serves.2 hs, ← any_usable_isOnWriter, hon, single, Bool.true_and, Bool.or_true] at hserves
    cases hserves
  | refused stuck busy => exact .pinned busy stuck hu (.refl _)
  | settles _ free _ settles => exact .turns free hu fun e he => (he ▸ settles).rests
  | leaves _ free _ leaves => exact .turns free hu fun e he => (he ▸ leaves).rests

theorem TurnsToWriter.decides (hu : s.Remembers u) (h : s.TurnsToWriter others u r s') :
    s.Decides theirs false r s' := by
  cases h with
  | stays usable fits =>
    rw [hu.splitter, isOnWriter_remembered usable] at fits
    refine .serves fun hs => ?_
    have hoff : s.usable.any s.isOnWriter = false := any_usable_serves.2 hs
    rw [usable, Option.any_some, fits] at hoff
    cases hoff
  | refused stuck busy => exact .pinned busy stuck hu (.refl _)
  | fetches _ free => exact .turns free hu nofun
  | fails _ free fetches => exact .turns free hu fun e he => (Except.error.inj he ▸ fetches).rests

end Stand

/-! ## Refusals come at once -/

/-- Work that comes to an end, whatever others do. -/
def Routine.Prompt {W α : Type} (others : W → W → Prop) (x : Routine W α) : Prop :=
  ∀ now w, ∃ a later w', Routine.Ends others x now w a later w'

namespace Routine

variable {W α β : Type} {others : W → W → Prop}

theorem prompt_pure (a : α) : Routine.Prompt others (pure a) :=
  fun now w => ⟨a, now, w, ends_pure.2 ⟨rfl, rfl, rfl⟩⟩

theorem prompt_bind {x : Routine W α} {f : α → Routine W β} (hx : Routine.Prompt others x)
    (hf : ∀ a, Routine.Prompt others (f a)) : Routine.Prompt others (x >>= f) := by
  intro now w
  obtain ⟨a, t, v, h1⟩ := hx now w
  obtain ⟨b, later, w', h2⟩ := hf a t v
  exact ⟨b, later, w', ends_bind.2 ⟨a, t, v, h1, h2⟩⟩

theorem prompt_get : Routine.Prompt others get := fun now w => ⟨w, now, w, ends_get.2 ⟨rfl, rfl, rfl⟩⟩

theorem prompt_modify (f : W → W) : Routine.Prompt others (modify f) := fun now w =>
  ⟨(), now, f w, ends_pure.2 ⟨rfl, rfl, rfl⟩⟩

end Routine

namespace Link

theorem prompt_hold (l : Link) : Routine.Prompt others (l.hold (D := D)) := by
  cases l with
  | direct c => exact Routine.prompt_pure ()
  | pooled h => exact Routine.prompt_modify _

theorem prompt_dropPermit (h : HandleId) : Routine.Prompt others (World.dropPermit h) := by
  refine Routine.prompt_bind Routine.prompt_get fun w => ?_
  dsimp only
  split
  · exact Routine.prompt_bind (Routine.prompt_modify _) fun _ => Routine.prompt_modify _
  · exact Routine.prompt_pure ()

variable [Backend D]

theorem prompt_reclaim (h : HandleId) : Routine.Prompt others (World.reclaim h) := by
  refine Routine.prompt_bind Routine.prompt_get fun w => Routine.prompt_bind (Routine.prompt_modify _) fun _ => ?_
  split
  · exact Routine.prompt_pure _
  · split
    · exact Routine.prompt_pure _
    · exact Routine.prompt_bind (Routine.prompt_modify _) fun _ => Routine.prompt_pure _

theorem prompt_abandon (h : HandleId) : Routine.Prompt others (World.abandon h) := by
  refine Routine.prompt_bind ?_ fun first => ?_
  · exact Routine.prompt_bind Routine.prompt_get fun w => Routine.prompt_bind (Routine.prompt_modify _) fun _ =>
      Routine.prompt_pure _
  · split
    · refine Routine.prompt_bind (prompt_reclaim h) fun c => ?_
      cases c with
      | some c => exact Routine.prompt_bind (Routine.prompt_modify _) fun _ => prompt_dropPermit h
      | none => exact prompt_dropPermit h
    · exact Routine.prompt_pure ()

theorem prompt_letGo (l : Link) : Routine.Prompt others (l.letGo (D := D)) := by
  cases l with
  | direct c => exact Routine.prompt_pure ()
  | pooled h =>
    refine Routine.prompt_bind (Routine.prompt_modify _) fun _ => Routine.prompt_bind Routine.prompt_get fun w => ?_
    split
    · exact prompt_abandon h
    · exact Routine.prompt_pure ()

end Link

/-- A program that comes to an end, whatever others do. -/
def Split.Prompt {α : Type} (others : World D → World D → Prop) (x : Split D α) : Prop :=
  ∀ s, ∃ a s', Split.Ends others x s a s'

namespace Split

section

variable {α β : Type}

theorem prompt_pure (a : α) : Split.Prompt others (pure a) := fun s => ⟨a, s, ends_pure.2 ⟨rfl, rfl⟩⟩

theorem prompt_bind {x : Split D α} {f : α → Split D β} (hx : Split.Prompt others x)
    (hf : ∀ a, Split.Prompt others (f a)) : Split.Prompt others (x >>= f) := by
  intro s
  obtain ⟨a, u, h1⟩ := hx s
  obtain ⟨b, s', h2⟩ := hf a u
  exact ⟨b, s', ends_bind.2 ⟨a, u, h1, h2⟩⟩

theorem prompt_get : Split.Prompt others get := fun s => ⟨s.splitter, s, ends_get.2 ⟨rfl, rfl⟩⟩

theorem prompt_modify (f : Splitter → Splitter) : Split.Prompt others (modify f) := fun _ =>
  ⟨(), _, ends_modify.2 rfl⟩

theorem prompt_act {x : Act D α} (hx : ∀ p, ∃ a q, Act.Ends others x p a q) :
    Split.Prompt others (Split.act x) := by
  intro s
  obtain ⟨a, q, h⟩ := hx s.toPlace
  exact ⟨a, ⟨q, s.splitter⟩, ends_act.2 ⟨h, rfl⟩⟩

theorem prompt_world {x : Routine (World D) α} (hx : Routine.Prompt others x) :
    Split.Prompt others (Split.world x) := by
  refine prompt_act fun p => ?_
  obtain ⟨a, t, w, h⟩ := hx p.clock p.world
  exact ⟨a, ⟨p.service, t, w⟩, Act.ends_world.2 ⟨h, rfl⟩⟩

end

theorem prompt_signal (sg : Signal) : Split.Prompt others (Split.act (Service.signal (D := D) sg)) := by
  refine prompt_act fun p => ?_
  suffices h : ∀ (es : List Entry) (p : Place D),
      ∃ a q, Act.Ends others (es.forM fun e => Act.world (Routine.note e)) p a q by
    obtain ⟨a, q, h⟩ := h (p.service.telemetry.entries sg) p
    exact ⟨a, q, Act.ends_bind.2 ⟨_, p, Act.ends_get.2 ⟨rfl, rfl⟩, h⟩⟩
  intro es
  induction es with
  | nil => exact fun p => ⟨(), p, Act.ends_pure.2 ⟨rfl, rfl⟩⟩
  | cons e es ih =>
    intro p
    obtain ⟨a, q, h⟩ := ih ⟨p.service, p.clock, Journaled.note e p.world⟩
    refine ⟨a, q, Act.ends_bind.2 ⟨(), ⟨p.service, p.clock, Journaled.note e p.world⟩, ?_, h⟩⟩
    exact Act.ends_world.2 ⟨.done .., rfl⟩

theorem prompt_hold (slot : Option HostLink) : Split.Prompt others (hold (D := D) slot) := by
  cases slot with
  | none => exact prompt_pure ()
  | some l => exact prompt_world (Link.prompt_hold l.1)

variable [Backend D]

theorem prompt_letGo (slot : Option HostLink) : Split.Prompt others (letGo (D := D) slot) := by
  cases slot with
  | none => exact prompt_pure ()
  | some l => exact prompt_world (Link.prompt_letGo l.1)

theorem prompt_swap (slot : Option HostLink) (read : Splitter → Option HostLink) (put : Splitter → Splitter) :
    Split.Prompt others (swap (D := D) slot read put) :=
  prompt_bind (prompt_hold slot) fun _ => prompt_bind prompt_get fun _ => prompt_bind (prompt_modify _) fun _ =>
    prompt_letGo _

theorem prompt_rememberCurrent (l : HostLink) : Split.Prompt others (rememberCurrent (D := D) l) := by
  refine prompt_bind prompt_get fun s => prompt_bind (prompt_world Routine.prompt_get) fun w => ?_
  split
  · split
    · rw [setWriter_eq]
      exact prompt_swap _ _ _
    · exact prompt_pure ()
  · split
    · rw [setReader_eq]
      exact prompt_swap _ _ _
    · exact prompt_pure ()

/-- The usable current link is remembered at once. -/
theorem exists_remembers (others : World D → World D → Prop) (s : Stand D) :
    ∃ u, s.Remembers u ∧
      ∀ {α : Type} {rest : Split D α} {r : α} {s' : Stand D}, Split.Ends others rest u r s' →
        Split.Ends others (do
          if let some l := s.usable then rememberCurrent l
          rest) s r s' := by
  cases hu : s.usable with
  | none =>
    refine ⟨s, ⟨rfl, ?_, .refl _⟩, fun h => h⟩
    rw [Stand.remembered, Stand.remember_of_none hu, Stand.remember_of_none hu]
  | some l =>
    obtain ⟨a, u, h1⟩ : ∃ a u, Split.Ends others (rememberCurrent l) s a u := prompt_rememberCurrent l s
    exact ⟨u, ends_rememberCurrent_of_usable hu h1, fun h => ends_bind.2 ⟨a, u, h1, h⟩⟩

end Split

/-! ## Switches that fail -/

namespace Split

variable [Backend D] {s s' : Stand D} {readOnly : Bool} {r : Except RouteError Unit}

theorem decides_switchTo [Minding others theirs] (h : Split.Ends others (switchTo readOnly) s r s') :
    s.Decides theirs readOnly r s' := by
  obtain ⟨u, v, hu, h, hafter⟩ := ends_turn h
  have hd : u.Decides theirs readOnly r v := by
    cases readOnly with
    | true =>
      obtain ⟨v', hrecalls, hturns⟩ := turns_switchToReader h
      have hremembers := hrecalls.remembers
      exact hturns.decides hremembers
    | false =>
      obtain ⟨v', hrecalls, hturns⟩ := turns_switchToWriter h
      have hremembers := hrecalls.remembers
      exact hturns.decides hremembers
  refine .since hu ?_
  rcases hafter with ⟨e, rfl, hs'⟩ | ⟨rfl, -⟩
  · exact hd.noted hs'
  · cases hd with
    | serves serves => exact .serves serves
    | turns free remembers _ => exact .turns free remembers nofun

/-- In a transaction a turn that asks for another link is refused at once. -/
theorem exists_turn_refused (others : World D → World D → Prop) {s : Stand D} {readOnly : Bool}
    (busy : s.service.inTransaction = true) (stuck : s.Stuck readOnly) :
    ∃ e s', Split.Ends others (if readOnly then switchToReader else switchToWriter) s (.error e) s' := by
  refine ⟨pinned (if readOnly then "reader" else "writer"), ?_⟩
  obtain ⟨u, hu, hrest⟩ := exists_remembers others s
  have husable : Split.Ends others usable? s s.usable s := Outcome.Ends.done ..
  have hbusy : u.service.inTransaction = true := by rw [hu.service]; exact busy
  have hunfit := Stand.any_usable_serves.2 stuck
  cases readOnly with
  | true =>
    rw [Stand.any_usable_serves_true, Bool.or_eq_false_iff, ← Stand.any_usable_isOnReader,
      ← Stand.any_usable_isOnWriter, ← hu.splitter, ← hu.books.hosts] at hunfit
    refine ⟨u, ends_bind.2 ⟨_, s, husable, hrest ?_⟩⟩
    refine ends_bind.2 ⟨u.splitter, u, ends_get.2 ⟨rfl, rfl⟩, ?_⟩
    rw [if_neg (by rw [hunfit.1]; exact Bool.false_ne_true)]
    refine ends_bind.2 ⟨u.world.hosts.topology, u, Outcome.Ends.done .., ?_⟩
    dsimp only
    rw [if_neg (by rw [hunfit.2]; exact Bool.false_ne_true)]
    refine ends_bind.2 ⟨u.service, u, Outcome.Ends.done .., ?_⟩
    rw [if_pos hbusy]
    exact ends_pure.2 ⟨rfl, rfl⟩
  | false =>
    have hoff : s.usable.any s.isOnWriter = false := hunfit
    rw [← Stand.any_usable_isOnWriter, ← hu.splitter] at hoff
    refine ⟨u, ends_bind.2 ⟨_, s, husable, hrest ?_⟩⟩
    refine ends_bind.2 ⟨u.splitter, u, ends_get.2 ⟨rfl, rfl⟩, ?_⟩
    rw [if_neg (by rw [hoff]; exact Bool.false_ne_true)]
    refine ends_bind.2 ⟨u.service, u, Outcome.Ends.done .., ?_⟩
    rw [if_pos hbusy]
    exact ends_pure.2 ⟨rfl, rfl⟩

theorem exists_refused {s : Stand D} {readOnly : Bool} (busy : s.service.inTransaction = true)
    (stuck : s.Stuck readOnly) : ∃ e s', Split.Ends others (switchTo readOnly) s (.error e) s' := by
  have hsignal : ∀ sg, Split.Prompt others (Split.act (Service.signal sg)) := prompt_signal
  obtain ⟨a1, s1, h1⟩ := hsignal (.began switchWork) s
  obtain ⟨a2, s2, h2⟩ := hsignal (.attribute switchWork "read_only" s!"{readOnly}") s1
  have hn := (noted_signal h1).trans (noted_signal h2)
  have hbusy : s2.service.inTransaction = true := by rw [hn.service]; exact busy
  obtain ⟨e, s3, h3⟩ := exists_turn_refused others hbusy ((hn.remembered_eq.2 readOnly).2 stuck)
  obtain ⟨a4, s4, h4⟩ := hsignal (.failed switchWork e.message) s3
  obtain ⟨a5, s5, h5⟩ := hsignal (.ended switchWork) s4
  refine ⟨e, s5, ends_bind.2 ⟨a1, s1, h1, ends_bind.2 ⟨a2, s2, h2, ?_⟩⟩⟩
  cases readOnly with
  | true => exact ends_bind.2 ⟨.error e, s3, h3, ends_bind.2 ⟨a4, s4, h4, ends_bind.2 ⟨a5, s5, h5,
      ends_pure.2 ⟨rfl, rfl⟩⟩⟩⟩
  | false => exact ends_bind.2 ⟨.error e, s3, h3, ends_bind.2 ⟨a4, s4, h4, ends_bind.2 ⟨a5, s5, h5,
      ends_pure.2 ⟨rfl, rfl⟩⟩⟩⟩

end Split

/-- What a switch that fails leaves behind: everything is as it was, but that the current link may be kept
for a role for which no open link was kept. -/
structure Stand.Unmoved [Backend D] (theirs : Link → Prop) (s s' : Stand D) : Prop where
  /-- The current link and its host, the transaction state and whatever else the connection knows of itself. -/
  service : s'.service = s.service
  stale : s'.splitter.stale = s.splitter.stale
  readOnly : s'.splitter.readOnly = s.splitter.readOnly
  writer : s'.splitter.writer = s.splitter.writer ∨
    openSlot s.world s.splitter.writer = none ∧ ∃ l, s.service.current = some l ∧ s'.splitter.writer = some l
  reader : s'.splitter.reader = s.splitter.reader ∨
    openSlot s.world s.splitter.reader = none ∧ ∃ l, s.service.current = some l ∧ s'.splitter.reader = some l
  /-- No connection is left that was opened meanwhile, but one that others gave back in its place. -/
  left : ∃ es, s'.world.journal = es ++ s.world.journal ∧ ∀ c ∈ Entry.leftOpen es, s.world.Passed theirs s'.world c
  /-- No open link was closed or given back. -/
  owns : ∀ l, ¬ theirs l → s.world.isLinkClosed l = false → s.world.Owns l →
    (∀ c, l = .direct c → s'.world.opened.Nodup) → s'.world.Owns l

namespace Stand

variable [Backend D] {s u s' : Stand D} {readOnly : Bool} {e : RouteError}

theorem Remembers.unmoved (h : s.Remembers u) (hr : u.Rests theirs s') : s.Unmoved theirs s' := by
  have hseat : ∀ fits slot, s.remember fits slot = slot ∨ openSlot s.world slot = none ∧
      ∃ l, s.service.current = some l ∧ s.remember fits slot = some l := fun fits slot =>
    (s.remember_eq fits slot).imp_right fun ⟨hn, l, hl, _, hs⟩ => ⟨hn, l, (usable_eq_some hl).1, hs⟩
  have hwriter : s'.splitter.writer = u.splitter.writer := congrArg Seats.writer hr.seats
  have hreader : s'.splitter.reader = u.splitter.reader := congrArg Seats.reader hr.seats
  have hstale : s'.splitter.stale = u.splitter.stale := congrArg Seats.stale hr.seats
  refine ⟨hr.service.trans h.service, ?_, ?_, ?_, ?_, ?_, fun l hl hopen ho hn => ?_⟩
  · rw [hstale, h.splitter]; rfl
  · rw [hr.readOnly, h.splitter]; rfl
  · rw [hwriter, h.splitter]
    exact hseat _ _
  · rw [hreader, h.splitter]
    exact hseat _ _
  · obtain ⟨es, hes, hj⟩ := h.books.journal
    obtain ⟨fs, hj', hleft⟩ := hr.minds.journal
    refine ⟨fs ++ es, by rw [hj', hj, List.append_assoc], fun c hc => ?_⟩
    rcases Entry.mem_leftOpen_append hc with hc | hc
    · exact ((hleft c hc).resolve_left nofun).mono h.books.grows (.refl _)
    · rw [Entry.leftOpen_of_isCall hes] at hc
      cases hc
  · exact (hr.minds.owns l hl (h.books.owns l hopen ho) hn).1

end Stand

/-- A switch that fails changes nothing. In a transaction it fails just if the mode asks for another link,
without any call to the driver and with the error that says so; else it fails for want of a connection. -/
theorem Split.unmoved_by_failed_switch (others : World D → World D → Prop) (theirs : Link → Prop)
    [Minding others theirs] [Backend D] (s : Stand D) (readOnly : Bool) :
    (∀ e s', Split.Ends others (switchTo readOnly) s (.error e) s' →
      s.Unmoved theirs s' ∧
        (s.service.inTransaction = true → e = pinned (if readOnly then "reader" else "writer") ∧
          ∃ es, (∀ e ∈ es, e.isCall = false) ∧ s'.world.journal = es ++ s.world.journal) ∧
        (s.service.inTransaction = false → ∃ detail, e = .connectionUnavailable detail)) ∧
      (s.service.inTransaction = true →
        (s.Stuck readOnly → ∃ e s', Split.Ends others (switchTo readOnly) s (.error e) s') ∧
          ∀ r s', Split.Ends others (switchTo readOnly) s r s' → (r = .ok () ↔ ¬ s.Stuck readOnly)) := by
  refine ⟨fun e s' h => ?_, fun busy => ⟨fun stuck => ?_, fun r s' h => ?_⟩⟩
  · have hd : s.Decides theirs readOnly (.error e) s' := decides_switchTo h
    cases hd with
    | pinned busy stuck remembers noted =>
      refine ⟨remembers.unmoved noted.rests, fun _ => ⟨rfl, ?_⟩, fun free => ?_⟩
      · exact (remembers.books.trans noted.world.books).journal
      · rw [busy] at free; cases free
    | turns free remembers rests =>
      obtain ⟨hr, hd⟩ := rests e rfl
      refine ⟨remembers.unmoved hr, fun busy => ?_, fun _ => hd⟩
      rw [free] at busy; cases busy
  · exact exists_refused busy stuck
  · have hd : s.Decides theirs readOnly r s' := decides_switchTo h
    cases hd with
    | serves serves => exact ⟨fun _ => serves, fun _ => rfl⟩
    | pinned _ stuck _ _ => exact ⟨nofun, fun hn => absurd stuck hn⟩
    | turns free _ _ => rw [free] at busy; cases busy

namespace Stage

/-- The session is back on the writer when its connection breaks and the host goes down. -/
def stranded : Stand Sim.Cluster :=
  { returned.2.toStand with
    world := { returned.2.world with
      backend := (returned.2.world.backend.modifyConn 0 fun c => { c with closed := true }).modifyScript "w" fun h =>
        { h with failing := some none } } }

/-- The writer is asked for all the same. -/
def stranding : Except RouteError Unit × Stand Sim.Cluster :=
  ((Split.switchTo false).end? stranded).get (by decide +kernel)

end Stage

theorem Split.unmoved_by_failed_switch_of_stage :
    ∃ e s', Split.Ends (World.Apart fun _ => False) (switchTo false) Stage.stranded (.error e) s' ∧
      Stage.stranded.Unmoved (fun _ => False) s' ∧ ∃ detail, e = .connectionUnavailable detail := by
  have hend : (switchTo false).end? Stage.stranded = some Stage.stranding := (Option.some_get _).symm
  have hends : Split.Ends (World.Apart fun _ => False) (switchTo false) Stage.stranded Stage.stranding.1
    Stage.stranding.2 := ends_of_end? hend
  have hfails : Stage.stranding.1.isOk = false := by decide +kernel
  cases hr : Stage.stranding.1 with
  | ok _ => rw [hr] at hfails; cases hfails
  | error e =>
    rw [hr] at hends
    obtain ⟨hunmoved, -, hfree⟩ := (unmoved_by_failed_switch _ (fun _ => False) Stage.stranded false).1 e _ hends
    exact ⟨e, _, hends, hunmoved, hfree (by decide +kernel)⟩

end ReplicaRouter
