import ReplicaRouter.Proofs.Abiding
import ReplicaRouter.Proofs.Clearing
import ReplicaRouter.Proofs.Furnishing
/-
Switches that have nothing to do. Once a switch to a mode has gone through, another one to the same mode changes
nothing; and once an open link is kept for each role, switches only go to and fro between the two, whatever the topology
comes to be.
Main statements: `Split.noted_of_atRest`, `Split.flips_of_poised`, `Tour.vacates` and `Tour.rests_once_switched`.
-/
namespace ReplicaRouter

variable {D : Type} {others : World D → World D → Prop}

open Splitter

namespace Stand

variable [Backend D]

/-- The stand at a later time in another world. -/
def later (s : Stand D) (t : Instant) (w : World D) : Stand D := { s with clock := t, world := w }

/-! ## Links that stay open -/

theorem openSlot_ne_none {w : World D} {slot : Option HostLink} :
    openSlot w slot ≠ none ↔ ∃ l, slot = some l ∧ w.isLinkClosed l.1 = false := by
  rw [Option.ne_none_iff_exists']
  exact exists_congr fun l => by rw [openSlot, Option.filter_eq_some_iff, Bool.not_eq_true']

/-- What is within reach and open is so in the world as well. -/
def LeavesOpen (s : Stand D) (w : World D) : Prop :=
  ∀ l, s.seats.Reaches l → s.world.isLinkClosed l = false → w.isLinkClosed l = false

/-- Whether nobody but the logical connection can hang up the link: there are no pools beside a connection of its own,
or others leave the handle alone. -/
def Tends (others : World D → World D → Prop) (s : Stand D) : Link → Prop
  | .direct _ => s.service.providers.pooled = none
  | .pooled h => ∀ w v, others w v → w.Heeds h v

omit [Backend D] in
theorem Tends.frame {s : Stand D} {h : HandleId} (ht : s.Tends others (.pooled h)) : Frame others (World.Heeds h) where
  refl := .refl
  trans := .trans
  bears := ht _ _

/-- Between two stands the link was hung up, which nobody but the logical connection can do: the journal tells that a
connection of its own was closed, or a handle was given back. -/
def HangsUp (others : World D → World D → Prop) (s s' : Stand D) (l : Link) : Prop :=
  s.Tends others l ∧ ¬ s.world.Shut l ∧ s'.world.Shut l

/-- Between two stands nobody else closed a link: one that was seen open or provided, and is within reach in the end, is
open then, if it was not hung up. Pools are somebody else: the connection below a handle is left to them, and so is a
connection of its own where there are any. -/
def Undisturbed (others : World D → World D → Prop) (s s' : Stand D) : Prop :=
  ∀ l, s'.seats.Reaches l → s.Sees s' l → s'.world.isLinkClosed l = true → s.HangsUp others s' l

/-- What the logical connection hung up between two stands is out of reach in the end. -/
def Vacates (others : World D → World D → Prop) (s s' : Stand D) : Prop :=
  ∀ l, s.HangsUp others s' l → ¬ s'.seats.Reaches l

omit [Backend D] in
theorem Vacates.of_cleared {s s' : Stand D} (hclears : s.service.providers.pooled = none → s.Clears s')
    (hshelters : ∀ i, s.Tends others (.pooled i) → ¬ s.world.Shut (.pooled i) → s'.Shelters True i 0) :
    s.Vacates others s' := by
  rintro l ⟨htends, hunshut, hshut⟩ hr
  cases l with
  | direct c =>
    rcases hclears htends c hshut with hs | ⟨-, hout⟩
    · exact hunshut hs
    · exact hout hr
  | pooled i =>
    exact Seats.places_eq_zero_iff.1 ((hshelters i htends hunshut).spared trivial hshut) (.inl hr)

theorem Undisturbed.isLinkClosed_eq_false {s s' : Stand D} {l : Link} (h : s.Undisturbed others s')
    (hvacates : s.Vacates others s') (hr : s'.seats.Reaches l) (hl : s.Sees s' l) :
    s'.world.isLinkClosed l = false :=
  Bool.eq_false_iff.2 fun hclosed => hvacates l (h l hr hl hclosed) hr

/-! ## At rest -/

/-- The current link is usable and one that the mode asks for, and nothing is to be remembered or released: a switch to
the mode has nothing to do. -/
structure AtRest (s : Stand D) (readOnly : Bool) : Prop where
  stale : s.splitter.stale = none
  current : ∃ c, s.usable = some c ∧ s.splitter.isOn readOnly c = true
  mindful : s.Mindful

variable {s u s' : Stand D} {readOnly : Bool} {l : HostLink}

/-- A switch that has gone through is at rest, if the links that it has left within reach are open. -/
theorem Reseats.atRest (h : s.Reseats readOnly u) (hstale : u.splitter.stale = none)
    (hopen : ∀ l, u.seats.Reaches l → s.Sees u l → u.world.isLinkClosed l = false) : u.AtRest readOnly := by
  obtain ⟨c, k, hcurrent, hon, hslot, hc, hk⟩ := h
  have hreach : u.seats.Reaches c.1 :=
    Seats.IsCurrent.reaches ⟨hcurrent, by rw [show u.seats.stale = none from hstale]; exact nofun⟩
  have husable : u.usable = some c := by
    refine Option.filter_eq_some_iff.2 ⟨hcurrent, ?_⟩
    rw [hopen c.1 hreach hc, isStale, hstale]
    rfl
  refine ⟨hstale, ⟨c, husable, hon⟩, fun l hl => openSlot_ne_none.2 ⟨k, ?_, hopen k.1 ?_ hk⟩⟩
  · rw [← Option.some.inj (husable.symm.trans hl)]
    exact hslot
  · unfold slotFor at hslot
    split at hslot
    · exact .inr (.inl ⟨k.2, hslot⟩)
    · exact .inr (.inr ⟨k.2, hslot⟩)

/-- So it stays while the links within reach are left open. -/
theorem AtRest.later {t : Instant} {w : World D} (h : s.AtRest readOnly) (hw : s.LeavesOpen w) :
    (s.later t w).AtRest readOnly := by
  obtain ⟨c, husable, hon⟩ := h.current
  obtain ⟨hcurrent, hopen, hst⟩ := usable_eq_some husable
  have husable' : (s.later t w).usable = some c := by
    refine Option.filter_eq_some_iff.2 ⟨hcurrent, ?_⟩
    rw [show (s.later t w).world.isLinkClosed c.1 = false from hw c.1 (Seats.IsCurrent.reaches ⟨hcurrent, hst⟩) hopen,
      isStale, show (s.later t w).splitter.stale = none from h.stale]
    rfl
  refine ⟨h.stale, ⟨c, husable', hon⟩, fun l hl => ?_⟩
  obtain rfl : c = l := Option.some.inj (husable'.symm.trans hl)
  obtain ⟨k, hslot, hkept⟩ := openSlot_ne_none.1 (h.mindful c husable)
  refine openSlot_ne_none.2 ⟨k, hslot, hw k.1 ?_ hkept⟩
  unfold slotFor at hslot
  split at hslot
  · exact .inr (.inl ⟨k.2, hslot⟩)
  · exact .inr (.inr ⟨k.2, hslot⟩)

theorem Noted.usable_eq (h : s.Noted u) : u.usable = s.usable := by
  obtain ⟨⟨v, t, w⟩, x⟩ := u
  obtain ⟨rfl, rfl, es, -, rfl⟩ := h
  rfl

theorem Noted.openSlot_eq (h : s.Noted u) (slot : Option HostLink) : openSlot u.world slot = openSlot s.world slot := by
  obtain ⟨⟨v, t, w⟩, x⟩ := u
  obtain ⟨rfl, rfl, es, -, rfl⟩ := h
  rfl

theorem Noted.mindful (h : s.Noted u) (hs : s.Mindful) : u.Mindful := fun l hl => by
  rw [h.openSlot_eq, h.splitter]
  exact hs l (h.usable_eq.symm.trans hl)

theorem Noted.atRest (h : s.Noted u) (hs : s.AtRest readOnly) : u.AtRest readOnly := by
  obtain ⟨c, hc, hon⟩ := hs.current
  exact ⟨by rw [h.splitter]; exact hs.stale, ⟨c, h.usable_eq.trans hc, by rw [h.splitter]; exact hon⟩,
    h.mindful hs.mindful⟩

theorem AtRest.not_stuck (h : s.AtRest readOnly) : ¬ s.Stuck readOnly := by
  intro hstuck
  obtain ⟨c, hc, hon⟩ := h.current
  have hserves := any_usable_serves.2 hstuck
  rw [hc, Option.any_some, serves] at hserves
  cases readOnly with
  | true =>
    have hon : s.splitter.isOnReader c = true := hon
    rw [if_pos rfl, hon] at hserves
    cases hserves
  | false =>
    have hon : s.splitter.isOnWriter c = true := hon
    rw [if_neg Bool.false_ne_true, isOnWriter, hon] at hserves
    cases hserves

end Stand

namespace Split

variable [Backend D] {s u v s' : Stand D} {readOnly : Bool} {r : Except RouteError Unit}

/-- Where no link was left behind, none is released. -/
theorem eq_of_release {a : Unit} (hstale : s.splitter.stale = none) (h : Split.Ends others releaseStale s a s') :
    s' = s := by
  replace h := after_get h
  replace h := after_service h
  rw [hstale] at h
  split at h <;> exact (ends_pure.1 h).2

theorem ends_release_of_none (others : World D → World D → Prop) (hstale : s.splitter.stale = none) :
    Split.Ends others releaseStale s () s := by
  refine ends_bind.2 ⟨s.splitter, s, ends_get.2 ⟨rfl, rfl⟩, ends_bind.2 ⟨s.service, s, Outcome.Ends.done .., ?_⟩⟩
  rw [hstale]
  split <;> exact ends_pure.2 ⟨rfl, rfl⟩

omit [Backend D] in
/-- What comes after a step that ends comes to an end if it does so from there. -/
theorem exists_bind {α β : Type} {x : Split D α} {f : α → Split D β} {a : α} (h : Split.Ends others x s a u)
    (hf : ∃ b s', Split.Ends others (f a) u b s') : ∃ b s', Split.Ends others (x >>= f) s b s' := by
  obtain ⟨b, s', hf⟩ := hf
  exact ⟨b, s', ends_bind.2 ⟨a, u, h, hf⟩⟩

/-- Where nothing is to be remembered, the rest starts at once. -/
theorem exists_rememberUsable {α : Type} {rest : Split D α} (hs : s.Mindful)
    (h : ∃ a s', Split.Ends others rest s a s') :
    ∃ a s', Split.Ends others (do
      if let some l := s.usable then rememberCurrent l
      rest) s a s' := by
  cases hu : s.usable with
  | none => exact h
  | some l =>
    obtain ⟨_, u, hremember⟩ : ∃ a u, Split.Ends others (rememberCurrent l) s a u := prompt_rememberCurrent l s
    obtain rfl := ends_rememberCurrent_or_eq hremember (hs l hu)
    exact exists_bind hremember h

/-- A switch comes to an end if its turn does, goes through and leaves no link behind. -/
theorem exists_switchTo
    (hends : ∀ u, s.Noted u → ∃ r v, Split.Ends others (if readOnly then switchToReader else switchToWriter) u r v)
    (hworks : ∀ u r v, s.Noted u → Split.Ends others (if readOnly then switchToReader else switchToWriter) u r v →
      r = .ok () ∧ v.splitter.stale = none) : ∃ s', Split.Ends others (switchTo readOnly) s (.ok ()) s' := by
  have hsignal : ∀ sg, Split.Prompt others (Split.act (Service.signal sg)) := prompt_signal
  obtain ⟨_, s₁, h1⟩ := hsignal (.began switchWork) s
  obtain ⟨_, s₂, h2⟩ := hsignal (.attribute switchWork "read_only" s!"{readOnly}") s₁
  have hn := (noted_signal h1).trans (noted_signal h2)
  obtain ⟨r, v, hv⟩ := hends s₂ hn
  obtain ⟨rfl, hstale⟩ := hworks s₂ r v hn hv
  obtain ⟨_, s₄, h4⟩ := hsignal (.succeeded switchWork true) v
  obtain ⟨_, s₅, h5⟩ := hsignal (.ended switchWork) s₄
  refine ⟨s₅, ends_bind.2 ⟨_, s₁, h1, ends_bind.2 ⟨_, s₂, h2, ?_⟩⟩⟩
  cases readOnly
  all_goals exact ends_bind.2 ⟨.ok (), v, hv, ends_bind.2 ⟨(), v, ends_release_of_none others hstale,
    ends_bind.2 ⟨(), s₄, h4, ends_bind.2 ⟨(), s₅, h5, ends_pure.2 ⟨rfl, rfl⟩⟩⟩⟩⟩

theorem exists_turn_of_atRest (others : World D → World D → Prop) (hs : s.AtRest readOnly) :
    ∃ r v, Split.Ends others (if readOnly then switchToReader else switchToWriter) s r v := by
  obtain ⟨c, hc, hon⟩ := hs.current
  have husable : Split.Ends others usable? s s.usable s := Outcome.Ends.done ..
  have hget : Split.Ends others get s s.splitter s := ends_get.2 ⟨rfl, rfl⟩
  cases readOnly with
  | true =>
    have hon : s.splitter.isOnReader c = true := hon
    refine exists_bind husable (exists_rememberUsable hs.mindful (exists_bind hget ?_))
    rw [hc, Option.any_some, if_pos hon]
    exact prompt_pure _ s
  | false =>
    have hon : s.splitter.isOnWriter c = true := hon
    refine exists_bind husable (exists_rememberUsable hs.mindful (exists_bind hget ?_))
    rw [hc, Option.any_some, if_pos hon]
    exact prompt_pure _ s

/-- At rest a turn to the role does nothing. -/
theorem eq_of_turn_atRest (hs : s.AtRest readOnly)
    (h : Split.Ends others (if readOnly then switchToReader else switchToWriter) s r v) : r = .ok () ∧ v = s := by
  obtain ⟨c, hc, hon⟩ := hs.current
  cases readOnly with
  | true =>
    obtain ⟨u, hrecalls, hturn⟩ := turns_switchToReader h
    obtain rfl := hrecalls.eq_of_mindful hs.mindful
    cases hturn with
    | stays => exact ⟨rfl, rfl⟩
    | shares usable unfit =>
      obtain rfl := Option.some.inj (hc.symm.trans usable)
      exact absurd hon (Bool.eq_false_iff.1 unfit)
    | refused stuck | settles stuck | leaves stuck => exact absurd stuck hs.not_stuck
  | false =>
    obtain ⟨u, hrecalls, hturn⟩ := turns_switchToWriter h
    obtain rfl := hrecalls.eq_of_mindful hs.mindful
    cases hturn with
    | stays => exact ⟨rfl, rfl⟩
    | refused stuck | fetches stuck | fails stuck => exact absurd stuck hs.not_stuck

/-- At rest a switch to the mode goes through, and does nothing. -/
theorem noted_of_atRest (hs : s.AtRest readOnly) :
    (∃ s', Split.Ends others (switchTo readOnly) s (.ok ()) s') ∧
      ∀ r s', Split.Ends others (switchTo readOnly) s r s' → r = .ok () ∧ s.Noted s' := by
  refine ⟨exists_switchTo (fun t ht => exists_turn_of_atRest others (ht.atRest hs)) fun t r v ht hv => ?_,
    fun r s' h => ?_⟩
  · obtain ⟨rfl, rfl⟩ := eq_of_turn_atRest (ht.atRest hs) hv
    exact ⟨rfl, (ht.atRest hs).stale⟩
  · obtain ⟨t, v, ht, hturn, hafter⟩ := ends_turn h
    obtain ⟨rfl, rfl⟩ := eq_of_turn_atRest (ht.atRest hs) hturn
    rcases hafter with ⟨e, he, -⟩ | ⟨-, t', ht', hn⟩
    · cases he
    · obtain rfl := eq_of_release (ht.atRest hs).stale ht'
      exact ⟨rfl, ht.trans hn⟩

end Split

/-! ## Poised -/

namespace Stand

variable [Backend D] {s u s' : Stand D}

/-- No transaction is open and no link was left behind, and an open link is kept for each role. -/
structure Poised (s : Stand D) : Prop where
  free : s.service.inTransaction = false
  stale : s.splitter.stale = none
  writer : openSlot s.world s.splitter.writer ≠ none
  reader : openSlot s.world s.splitter.reader ≠ none

/-- Between two stands the driver was not called, and links that are kept were made current or read from. -/
structure Flips (s s' : Stand D) : Prop where
  silent : s.world.Silent s'.world
  service : s'.service = { s.service with current := s'.service.current }
  stale : s'.splitter.stale = s.splitter.stale
  writer : s'.splitter.writer = s.splitter.writer
  reader : s'.splitter.reader = s.splitter.reader ∨ s'.splitter.reader = s.splitter.writer

omit [Backend D] in
theorem Flips.refl (s : Stand D) : s.Flips s := ⟨.refl _, rfl, rfl, rfl, .inl rfl⟩

theorem Noted.poised (h : s.Noted u) (hs : s.Poised) : u.Poised :=
  ⟨by rw [h.service]; exact hs.free, by rw [h.splitter]; exact hs.stale,
    by rw [h.openSlot_eq, h.splitter]; exact hs.writer, by rw [h.openSlot_eq, h.splitter]; exact hs.reader⟩

theorem Poised.mindful (h : s.Poised) : s.Mindful := fun l _ => by
  unfold slotFor
  split
  · exact h.writer
  · exact h.reader

/-- Where an open link is kept for writing it is the one that is found. -/
theorem Poised.fetches {c : Except RouteError HostLink} (h : s.Poised) (hf : s.Fetches others c s') :
    s' = s ∧ ∃ l, c = .ok l ∧ s.splitter.writer = some l := by
  cases hf with
  | kept slot => exact ⟨rfl, _, rfl, (Option.filter_eq_some_iff.1 slot).1⟩
  | current shut | missing shut | refused shut | dialed shut => exact absurd shut h.writer

variable [Bystanders others] {r : Except RouteError Unit}

theorem Poised.flips_reader (h : s.Poised) (ht : s.TurnsToReader others s r s') : r = .ok () ∧ s.Flips s' := by
  cases ht with
  | stays => exact ⟨rfl, .refl _⟩
  | shares _ _ _ _ sets =>
    obtain ⟨hv, hx⟩ := Split.ends_setReader sets
    exact ⟨rfl, World.lenient_silent.keeps_setReader _ sets, by rw [hv], by rw [hx], by rw [hx], .inr (by rw [hx])⟩
  | refused _ busy => rw [h.free] at busy; cases busy
  | settles _ _ _ settles =>
    cases settles with
    | fails fetches =>
      obtain ⟨-, l, hl, -⟩ := h.fetches fetches
      cases hl
    | fetches fetches reads =>
      obtain ⟨rfl, l, hl, hwriter⟩ := h.fetches fetches
      obtain rfl := Except.ok.inj hl
      obtain ⟨-, hv, hx⟩ := Split.lands_readFrom reads
      refine ⟨rfl, World.lenient_silent.keeps_readFrom _ reads, hv, by rw [hx], by rw [hx], .inr ?_⟩
      rw [hx, hwriter]
  | leaves _ _ _ leaves =>
    cases leaves with
    | reuses slot noted arrives =>
      obtain ⟨-, hv, hx⟩ := Split.lands_makeCurrent arrives
      have hsilent := noted.world.silent.trans (World.lenient_silent.keeps_makeCurrent _ arrives)
      rw [noted.service] at hv
      rw [noted.splitter] at hx
      exact ⟨rfl, hsilent, hv, by rw [hx], by rw [hx], .inl (by rw [hx])⟩
    | opens shut | fallsBack shut | fails shut => exact absurd shut h.reader

theorem Poised.flips_writer (h : s.Poised) (ht : s.TurnsToWriter others s r s') : r = .ok () ∧ s.Flips s' := by
  cases ht with
  | stays => exact ⟨rfl, .refl _⟩
  | refused _ busy => rw [h.free] at busy; cases busy
  | fails _ _ fetches =>
    obtain ⟨-, l, hl, -⟩ := h.fetches fetches
    cases hl
  | fetches _ _ fetches noted arrives =>
    obtain ⟨rfl, -, -, -⟩ := h.fetches fetches
    obtain ⟨-, hv, hx⟩ := Split.lands_makeCurrent arrives
    have hsilent := noted.world.silent.trans (World.lenient_silent.keeps_makeCurrent _ arrives)
    rw [noted.service] at hv
    rw [noted.splitter] at hx
    exact ⟨rfl, hsilent, hv, by rw [hx], by rw [hx], .inl (by rw [hx])⟩

end Stand

namespace Split

variable [Backend D] {s u v s' : Stand D} {readOnly : Bool} {r : Except RouteError Unit}

/-- Where an open link is kept for each role a turn comes to an end, whether the driver answers or not. -/
theorem exists_turn_of_poised (others : World D → World D → Prop) (h : s.Poised) (readOnly : Bool) :
    ∃ r v, Split.Ends others (if readOnly then switchToReader else switchToWriter) s r v := by
  have husable : Split.Ends others usable? s s.usable s := Outcome.Ends.done ..
  have hservice : Split.Ends others (Split.act get) s s.service s := Outcome.Ends.done ..
  have hhosts : Split.Ends others (Split.act Service.hosts) s s.world.hosts.topology s := Outcome.Ends.done ..
  have hlook : Split.Ends others (Split.world get) s s.world s := Outcome.Ends.done ..
  have hget : Split.Ends others get s s.splitter s := ends_get.2 ⟨rfl, rfl⟩
  obtain ⟨w, hw⟩ := Option.ne_none_iff_exists'.1 h.writer
  obtain ⟨l, hl⟩ := Option.ne_none_iff_exists'.1 h.reader
  -- the writer is at hand, so to fetch it asks nobody
  have hfetch : Split.Ends others ensureWriter s (.ok w) s := by
    refine ends_bind.2 ⟨_, s, hlook, ends_bind.2 ⟨_, s, hget, ?_⟩⟩
    rw [hw]
    exact ends_pure.2 ⟨rfl, rfl⟩
  cases readOnly with
  | true =>
    refine exists_bind husable (exists_rememberUsable h.mindful (exists_bind hget ?_))
    split
    · exact prompt_pure _ s
    · refine exists_bind hhosts ?_
      dsimp only
      split
      · exact prompt_bind (prompt_setReader _) (fun _ => prompt_pure _) s
      · refine exists_bind hservice ?_
        rw [h.free, if_neg Bool.false_ne_true]
        split
        · exact exists_bind hfetch (prompt_bind (prompt_readFrom w) (fun _ => prompt_pure _) s)
        · refine exists_bind hlook (exists_bind hget ?_)
          rw [hl]
          exact prompt_bind (prompt_line _ _) (fun _ => prompt_bind (prompt_makeCurrent l) fun _ => prompt_pure _) s
  | false =>
    refine exists_bind husable (exists_rememberUsable h.mindful (exists_bind hget ?_))
    split
    · exact prompt_pure _ s
    · refine exists_bind hservice ?_
      rw [h.free, if_neg Bool.false_ne_true]
      refine exists_bind hfetch ?_
      exact prompt_bind (prompt_line _ _) (fun _ => prompt_bind (prompt_makeCurrent w) fun _ => prompt_pure _) s

/-- Where an open link is kept for each role a switch to either goes through, and does not call the driver. -/
theorem flips_of_poised [Bystanders others] (hs : s.Poised) (readOnly : Bool) :
    (∃ s', Split.Ends others (switchTo readOnly) s (.ok ()) s') ∧
      ∀ r s', Split.Ends others (switchTo readOnly) s r s' → r = .ok () ∧ s.Flips s' := by
  -- the turn itself changes nothing but the current link, and leaves no link to be replaced
  have hturns : ∀ {t r v}, t.Poised →
      Split.Ends others (if readOnly then switchToReader else switchToWriter) t r v → r = .ok () ∧ t.Flips v := by
    intro t r v ht h
    cases readOnly with
    | true =>
      obtain ⟨u, hrecalls, hturn⟩ := turns_switchToReader h
      obtain rfl := hrecalls.eq_of_mindful ht.mindful
      exact ht.flips_reader hturn
    | false =>
      obtain ⟨u, hrecalls, hturn⟩ := turns_switchToWriter h
      obtain rfl := hrecalls.eq_of_mindful ht.mindful
      exact ht.flips_writer hturn
  refine ⟨exists_switchTo (fun t ht => exists_turn_of_poised others (ht.poised hs) readOnly) fun t r v ht hv => ?_,
    fun r s' h => ?_⟩
  · obtain ⟨rfl, hflips⟩ := hturns (ht.poised hs) hv
    exact ⟨rfl, hflips.stale.trans (ht.poised hs).stale⟩
  · obtain ⟨t, v, ht, hturn, hafter⟩ := ends_turn h
    obtain ⟨rfl, hflips⟩ := hturns (ht.poised hs) hturn
    rcases hafter with ⟨e, he, -⟩ | ⟨-, t', ht', hn⟩
    · cases he
    · obtain rfl := eq_of_release (hflips.stale.trans (ht.poised hs).stale) ht'
      refine ⟨rfl, ht.world.silent.trans (hflips.silent.trans hn.world.silent), ?_, ?_, ?_, ?_⟩
      · rw [hn.service, hflips.service, ht.service]
      · rw [hn.splitter, hflips.stale, ht.splitter]
      · rw [hn.splitter, hflips.writer, ht.splitter]
      · have hreader := hflips.reader
        rw [ht.splitter] at hreader
        rw [hn.splitter]
        exact hreader

end Split

/-! ## To and fro -/

namespace Stand

variable [Backend D] {s u s' : Stand D} {bs : List Bool} {l : HostLink}

/-- Where links are kept that were seen open or provided, and are open, both modes can be served. -/
theorem Furnishes.poised (hwriter : s.Furnishes u false) (hreader : s.Furnishes u true)
    (free : u.service.inTransaction = false)
    (hopen : ∀ l, u.seats.Reaches l → s.Sees u l → u.world.isLinkClosed l = false) : u.Poised := by
  refine ⟨free, hwriter.stale, ?_, ?_⟩
  · obtain ⟨k, hk, hsees⟩ := hwriter.supplies
    exact openSlot_ne_none.2 ⟨k, hk, hopen k.1 (.inr (.inl ⟨k.2, hk⟩)) hsees⟩
  · obtain ⟨k, hk, hsees⟩ := hreader.supplies
    exact openSlot_ne_none.2 ⟨k, hk, hopen k.1 (.inr (.inr ⟨k.2, hk⟩)) hsees⟩

theorem Poised.later {t : Instant} {w : World D} (h : s.Poised) (hw : s.LeavesOpen w) : (s.later t w).Poised := by
  refine ⟨h.free, h.stale, ?_, ?_⟩
  · obtain ⟨k, hk, hopen⟩ := openSlot_ne_none.1 h.writer
    exact openSlot_ne_none.2 ⟨k, hk, hw k.1 (.inr (.inl ⟨k.2, hk⟩)) hopen⟩
  · obtain ⟨k, hk, hopen⟩ := openSlot_ne_none.1 h.reader
    exact openSlot_ne_none.2 ⟨k, hk, hw k.1 (.inr (.inr ⟨k.2, hk⟩)) hopen⟩

theorem Poised.flips (h : s.Poised) (hf : s.Flips u) (hw : s.LeavesOpen u.world) : u.Poised := by
  obtain ⟨w, hwriter, hwopen⟩ := openSlot_ne_none.1 h.writer
  obtain ⟨k, hreader, hkopen⟩ := openSlot_ne_none.1 h.reader
  have hwopen' := hw w.1 (.inr (.inl ⟨w.2, hwriter⟩)) hwopen
  refine ⟨?_, hf.stale.trans h.stale, openSlot_ne_none.2 ⟨w, hf.writer.trans hwriter, hwopen'⟩, ?_⟩
  · rw [Service.inTransaction, hf.service]
    exact h.free
  · rcases hf.reader with hsame | hsame
    · exact openSlot_ne_none.2 ⟨k, hsame.trans hreader, hw k.1 (.inr (.inr ⟨k.2, hreader⟩)) hkopen⟩
    · exact openSlot_ne_none.2 ⟨w, hsame.trans hwriter, hwopen'⟩

/-- From one stand to another by switches to these modes one after the other, each in a world of its own, while the
links within reach stay open. -/
inductive Shuttles (others : World D → World D → Prop) (s : Stand D) : List Bool → Stand D → Prop
  | start : Shuttles others s [] s
  | meanwhile {bs : List Bool} {u : Stand D} {t : Instant} {w : World D} (shuttles : Shuttles others s bs u)
      (leaves : u.LeavesOpen w) : Shuttles others s bs (u.later t w)
  | switch {bs : List Bool} {u v : Stand D} {readOnly : Bool} {r : Except RouteError Unit}
      (shuttles : Shuttles others s bs u) (switches : Split.Ends others (Split.switchTo readOnly) u r v)
      (leaves : u.LeavesOpen v.world) : Shuttles others s (bs ++ [readOnly]) v

theorem Shuttles.poised [Bystanders others] (h : s.Shuttles others bs s') (hs : s.Poised) : s'.Poised := by
  induction h with
  | start => exact hs
  | meanwhile _ leaves ih => exact ih.later leaves
  | @switch _ _ _ readOnly _ _ switches leaves ih =>
    exact ih.flips ((Split.flips_of_poised ih readOnly).2 _ _ switches).2 leaves

end Stand

/-! ## Tours -/

section Tours

variable [Backend D] [Backend.Lasting D] [Lasting others] {s s' u : Session D} {v : Stand D} {ds es : List (Demand D)}
  {r : Except RouteError Unit} {i : HandleId}

namespace Tour

/-- A handle that was not given back by now can be spared from now on. -/
theorem spares (ho : s.Opens others) (h : Tour others s ds s') (hi : s'.toStand.Tends others (.pooled i))
    (hopen : ¬ s'.world.Shut (.pooled i)) (fresh : s'.world.opened.Nodup) : s'.toStand.Shelters True i 0 := by
  have := hi.frame
  exact (h.shelters ho.shelters ho.sound fresh False.elim).spare hopen

/-- What a switch hangs up is out of reach then, whether it is pooled or not. -/
theorem vacates_switchTo {readOnly : Bool} (ho : s.Opens others) (h : Tour others s ds s')
    (hswitch : Split.Ends others (Split.switchTo readOnly) s'.toStand r v) (fresh : v.world.opened.Nodup) :
    s'.toStand.Vacates others v := by
  have hearlier := (Split.ends_switchTo hswitch).renews.grows.nodup fresh
  have hsound := h.sound ho.sound hearlier
  refine .of_cleared (fun hp => ?_) fun i hi hopen => ?_
  · have hunpooled := h.unpooled (ho.unpooled (by rw [← h.providers_eq]; exact hp))
    exact Split.clears_switchTo hsound hunpooled fresh hswitch
  · have := hi.frame
    exact Split.shelters_switchTo hswitch (h.spares ho hi hopen hearlier) hsound.tidy

/-- So is what is hung up along a tour without a failover or a close. -/
theorem vacates (ho : s.Opens others) (h : Tour others s ds s') (hstretch : Tour others s' es u)
    (fresh : u.world.opened.Nodup) (calm : ∀ d ∈ es, d.IsCalm) : s'.toStand.Vacates others u.toStand := by
  have hearlier := hstretch.grows.nodup fresh
  have hsound := h.sound ho.sound hearlier
  refine .of_cleared (fun hp => ?_) fun i hi hopen => ?_
  · have hunpooled := h.unpooled (ho.unpooled (by rw [← h.providers_eq]; exact hp))
    exact hstretch.clears hsound hunpooled fresh calm
  · have := hi.frame
    exact hstretch.shelters (h.spares ho hi hopen hearlier) hsound fresh fun _ => calm

end Tour

end Tours

/-- Wherever a tour leads to: once a switch to a mode has gone through, another one to the same mode does too and
changes nothing, as long as nobody else closes links, even if the topology is another one by then. And once switches to
both modes have gone through, without a failover since and with no transaction open, switches in any order and under any
topology go through and do not call the driver. -/
theorem Tour.rests_once_switched [Backend D] [Backend.Lasting D] [Lasting others] {s s' : Session D}
    {ds : List (Demand D)} (ho : s.Opens others) (h : Tour others s ds s') :
    (∀ readOnly v, Split.Ends others (Split.switchTo readOnly) s'.toStand (.ok ()) v → v.world.opened.Nodup →
      s'.toStand.Undisturbed others v → ∀ t w, v.LeavesOpen w →
        (∃ x, Split.Ends others (Split.switchTo readOnly) (v.later t w) (.ok ()) x) ∧
          ∀ r x, Split.Ends others (Split.switchTo readOnly) (v.later t w) r x →
            r = .ok () ∧ (v.later t w).Noted x) ∧
      ∀ es u, Tour others s' es u → u.world.opened.Nodup → (∀ d ∈ es, d.IsCalm) →
        (∀ readOnly, ∃ d ∈ es, d.TurnsTo others readOnly) → u.service.inTransaction = false →
        s'.toStand.Undisturbed others u.toStand → ∀ bs v, u.toStand.Shuttles others bs v → ∀ readOnly,
          (∃ x, Split.Ends others (Split.switchTo readOnly) v (.ok ()) x) ∧
            ∀ r x, Split.Ends others (Split.switchTo readOnly) v r x → r = .ok () ∧ v.Flips x := by
  refine ⟨fun readOnly v hswitch fresh hundisturbed t w hw => ?_,
    fun es u hstretch fresh calm turns free hundisturbed bs v hshuttles readOnly => ?_⟩
  · -- the switch leaves its link at rest, and nobody closes it until the next one
    have hturns := Split.ends_switchTo hswitch
    have hsound := h.sound ho.sound (hturns.renews.grows.nodup fresh)
    have hreseats := Split.reseats_switchTo hswitch (h.known ho) (h.ordered ho) (h.paired ho)
    have hvacates := h.vacates_switchTo ho hswitch fresh
    have hrest := hreseats.atRest (hturns.releases hsound fresh).1 fun l hr hl =>
      hundisturbed.isLinkClosed_eq_false hvacates hr hl
    exact Split.noted_of_atRest (hrest.later hw)
  · -- both switches have furnished the slots, and what was furnished stays open
    have hvacates := h.vacates ho hstretch fresh calm
    have hpoised := (h.furnishes ho hstretch fresh calm (turns false)).poised
      (h.furnishes ho hstretch fresh calm (turns true)) free fun l hr hl =>
        hundisturbed.isLinkClosed_eq_false hvacates hr hl
    exact Split.flips_of_poised (hshuttles.poised hpoised) readOnly

/-! ## On the stage -/

/-- The links that are current or kept. -/
def Seats.links (p : Seats) : List HostLink := p.current.toList ++ p.writer.toList ++ p.reader.toList

theorem Seats.Reaches.mem_links {p : Seats} {l : Link} (h : p.Reaches l) : ∃ k ∈ p.links, k.1 = l := by
  have hmem : ∃ host, p.current = some (l, host) ∨ p.writer = some (l, host) ∨ p.reader = some (l, host) := by
    rcases h with ⟨host, hc, -⟩ | ⟨host, hw⟩ | ⟨host, hr⟩
    · exact ⟨host, .inl hc⟩
    · exact ⟨host, .inr (.inl hw)⟩
    · exact ⟨host, .inr (.inr hr)⟩
  obtain ⟨host, hmem⟩ := hmem
  refine ⟨(l, host), ?_, rfl⟩
  rcases hmem with h | h | h <;> simp [links, h]

namespace Stand

variable [Backend D] {s s' : Stand D} {w : World D}

theorem undisturbed_of_links (h : ∀ k ∈ s'.seats.links, s'.world.isLinkClosed k.1 = false) :
    s.Undisturbed others s' := by
  intro l hr _ hclosed
  obtain ⟨k, hk, rfl⟩ := hr.mem_links
  rw [h k hk] at hclosed
  cases hclosed

theorem leavesOpen_of_links (h : ∀ k ∈ s.seats.links, w.isLinkClosed k.1 = false) : s.LeavesOpen w := by
  intro l hr _
  obtain ⟨k, hk, rfl⟩ := hr.mem_links
  exact h k hk

end Stand

namespace Stage

/-- The session on the reader. -/
def onReader : Except RouteError Unit × Stand Sim.Cluster :=
  ((Split.switchTo true).end? session.toStand).get (by decide +kernel)

/-- The session is back on the writer. -/
def onWriter : Except RouteError Unit × Stand Sim.Cluster :=
  ((Split.switchTo false).end? onReader.2).get (by decide +kernel)

/-- The world once the reader has left the topology. -/
def deserted (s : Stand Sim.Cluster) : World Sim.Cluster := { s.world with hosts := { topology := [writer] } }

/-- The writer is read from by then. -/
def onWriterOnly : Except RouteError Unit × Stand Sim.Cluster :=
  ((Split.switchTo true).end? (onWriter.2.later 0 (deserted onWriter.2))).get (by decide +kernel)

theorem ends_onReader : Split.Ends World.Lasts (Split.switchTo true) session.toStand (.ok ()) onReader.2 := by
  have h : (Split.switchTo true).end? session.toStand = some onReader := (Option.some_get _).symm
  have hok : onReader.1 = .ok () := by rfl
  rw [← hok]
  exact Split.ends_of_end? h

theorem ends_onWriter : Split.Ends World.Lasts (Split.switchTo false) onReader.2 (.ok ()) onWriter.2 := by
  have h : (Split.switchTo false).end? onReader.2 = some onWriter := (Option.some_get _).symm
  have hok : onWriter.1 = .ok () := by rfl
  rw [← hok]
  exact Split.ends_of_end? h

/-- The session is switched to either mode. -/
theorem tour_onWriter : Tour World.Lasts session [.switch true (.ok ()), .switch false (.ok ())]
    { session with toStand := onWriter.2 } :=
  .switch (.switch .start ends_onReader) ends_onWriter

theorem shuttles_onWriterOnly : onWriter.2.Shuttles World.Lasts [true] onWriterOnly.2 := by
  have h : (Split.switchTo true).end? (onWriter.2.later 0 (deserted onWriter.2)) = some onWriterOnly :=
    (Option.some_get _).symm
  refine .switch (.meanwhile .start ?_) (Split.ends_of_end? h) ?_
  · exact Stand.leavesOpen_of_links (by decide +kernel)
  · exact Stand.leavesOpen_of_links (by decide +kernel)

end Stage

/-- The reader is read from still when it has left the topology, and then switches go to and fro on the writer. -/
theorem Tour.rests_once_switched_of_stage :
    (∃ x, Split.Ends World.Lasts (Split.switchTo true) (Stage.onReader.2.later 0 (Stage.deserted Stage.onReader.2))
        (.ok ()) x ∧ x.service = Stage.onReader.2.service ∧ x.splitter = Stage.onReader.2.splitter) ∧
      ∀ readOnly, ∃ x, Split.Ends World.Lasts (Split.switchTo readOnly) Stage.onWriterOnly.2 (.ok ()) x ∧
        Stage.onWriterOnly.2.world.Silent x.world := by
  obtain ⟨hagain, hshuttles⟩ := rests_once_switched Stage.lasts_session .start
  constructor
  · obtain ⟨⟨x, hx⟩, hall⟩ := hagain true _ Stage.ends_onReader (by decide +kernel)
      (Stand.undisturbed_of_links (by decide +kernel)) 0 (Stage.deserted Stage.onReader.2)
      (Stand.leavesOpen_of_links (by decide +kernel))
    have hnoted := (hall _ _ hx).2
    exact ⟨x, hx, hnoted.service, hnoted.splitter⟩
  · intro readOnly
    have hcalm : ∀ d ∈ [Demand.switch (D := Sim.Cluster) true (.ok ()), .switch false (.ok ())], d.IsCalm := by
      simp [Demand.IsCalm]
    have hturns : ∀ b, ∃ d ∈ [Demand.switch (D := Sim.Cluster) true (.ok ()), .switch false (.ok ())],
        d.TurnsTo World.Lasts b := by
      intro b
      cases b <;> simp [Demand.TurnsTo]
    obtain ⟨⟨x, hx⟩, hall⟩ := hshuttles _ _ Stage.tour_onWriter (by decide +kernel) hcalm hturns (by decide +kernel)
      (Stand.undisturbed_of_links (by decide +kernel)) _ _ Stage.shuttles_onWriterOnly readOnly
    exact ⟨x, hx, (hall _ _ hx).2.silent⟩

end ReplicaRouter
