import ReplicaRouter.Proofs.Patience
import ReplicaRouter.Proofs.Stepping
/-
What the programs of read/write splitting do to the world: they keep every relation between worlds that bears their
elementary steps.
Main statements: looking after links keeps what the books and the journal keep (`World.Lenient.keeps_readFrom`),
giving them up what closing connections keeps besides (`World.Forbearing.keeps_discardKept`), and a switch what every
call to the driver keeps (`World.Patient.keeps_switchTo`).
-/
namespace ReplicaRouter

variable {D α β : Type} {others R : World D → World D → Prop}

/-! ## Programs -/

/-- Wherever the act ends, the world is related to the one that it started in. -/
def Act.Keeps (others R : World D → World D → Prop) (x : Act D α) : Prop :=
  ∀ ⦃p : Place D⦄ ⦃a : α⦄ ⦃q : Place D⦄, Act.Ends others x p a q → R p.world q.world

/-- Wherever the program ends, the world is related to the one that it started in. -/
def Split.Keeps (others R : World D → World D → Prop) (x : Split D α) : Prop :=
  ∀ ⦃s : Stand D⦄ ⦃a : α⦄ ⦃s' : Stand D⦄, Split.Ends others x s a s' → R s.world s'.world

namespace Act

variable [Frame others R]

theorem keeps_pure (a : α) : Act.Keeps others R (pure a) := fun _ _ _ h => by
  rw [(ends_pure.1 h).2]
  exact Frame.refl others _

theorem keeps_bind {x : Act D α} {f : α → Act D β} (hx : Act.Keeps others R x) (hf : ∀ a, Act.Keeps others R (f a)) :
    Act.Keeps others R (x >>= f) := fun _ _ _ h => by
  obtain ⟨a, r, h1, h2⟩ := ends_bind.1 h
  exact Frame.trans others (hx h1) (hf a h2)

theorem keeps_get : Act.Keeps others R get := fun _ _ _ h => by
  rw [← (ends_get.1 h).2]
  exact Frame.refl others _

theorem keeps_modify (f : Service → Service) : Act.Keeps others R (modify f) := fun _ _ _ h => by
  rw [ends_modify.1 h]
  exact Frame.refl others _

omit [Frame others R] in
theorem keeps_world {x : Routine (World D) α} (hx : Routine.Keeps others R x) : Act.Keeps others R (Act.world x) :=
  fun _ _ _ h => hx.ends (ends_world.1 h).1

end Act

namespace Split

section

variable [Frame others R]

theorem keeps_pure (a : α) : Split.Keeps others R (pure a) := fun _ _ _ h => by
  rw [(ends_pure.1 h).2]
  exact Frame.refl others _

theorem keeps_bind {x : Split D α} {f : α → Split D β} (hx : Split.Keeps others R x)
    (hf : ∀ a, Split.Keeps others R (f a)) : Split.Keeps others R (x >>= f) := fun _ _ _ h => by
  obtain ⟨a, u, h1, h2⟩ := ends_bind.1 h
  exact Frame.trans others (hx h1) (hf a h2)

theorem keeps_get : Split.Keeps others R get := fun _ _ _ h => by
  rw [← (ends_get.1 h).2]
  exact Frame.refl others _

theorem keeps_modify (f : Splitter → Splitter) : Split.Keeps others R (modify f) := fun _ _ _ h => by
  rw [ends_modify.1 h]
  exact Frame.refl others _

omit [Frame others R] in
theorem keeps_act {x : Act D α} (hx : Act.Keeps others R x) : Split.Keeps others R (Split.act x) :=
  fun _ _ _ h => hx (ends_act.1 h).1

omit [Frame others R] in
theorem keeps_world {x : Routine (World D) α} (hx : Routine.Keeps others R x) : Split.Keeps others R (Split.world x) :=
  keeps_act (Act.keeps_world hx)

theorem keeps_look : Split.Keeps others R (Split.world get) := keeps_world Routine.keeps_get

theorem keeps_service : Split.Keeps others R (Split.act get) := keeps_act Act.keeps_get

theorem keeps_hosts : Split.Keeps others R (Split.act Service.hosts) :=
  keeps_act (Act.keeps_bind (Act.keeps_world Routine.keeps_get) fun _ => Act.keeps_pure _)

theorem keeps_pick (size : Nat) : Split.Keeps others R (pick size) := fun s _ s' h => by
  obtain ⟨-, hp⟩ := Act.ends_pure.1 h
  rw [show s'.world = s.world from congrArg Place.world hp]
  exact Frame.refl others _

end

end Split

namespace World.Lenient

open Split

variable (hR : World.Lenient R) [Frame others R]
include hR

theorem keeps_signal (sg : Signal) : Split.Keeps others R (Split.act (Service.signal sg)) := by
  refine keeps_act (Act.keeps_bind Act.keeps_get fun v => ?_)
  suffices h : ∀ es : List Entry, (∀ e ∈ es, e.isCall = false) →
      Act.Keeps others R (es.forM fun e => Act.world (Routine.note e)) from
    h (v.telemetry.entries sg) fun _ => Service.isCall_of_mem_entries
  intro es hes
  induction es with
  | nil => exact Act.keeps_pure ()
  | cons e es ih =>
    refine Act.keeps_bind (Act.keeps_world (Routine.keeps_modify (hR.note (hes e List.mem_cons_self)))) fun _ => ?_
    exact ih fun e he => hes e (List.mem_cons_of_mem _ he)

theorem keeps_countSwitch : Split.Keeps others R countSwitch :=
  keeps_bind keeps_get fun _ => keeps_bind (Split.keeps_modify _) fun _ => hR.keeps_signal _

theorem keeps_countFallback : Split.Keeps others R countFallback :=
  keeps_bind keeps_get fun _ => keeps_bind (Split.keeps_modify _) fun _ => hR.keeps_signal _

omit [Frame others R] in
/-- A line of the log is written down. -/
theorem keeps_line (level : LogLevel) (text : String) :
    Split.Keeps others R (Split.world (World.log level text)) :=
  keeps_world (hR.keeps_log level text)

theorem keeps_holdSlot (slot : Option HostLink) : Split.Keeps others R (Split.hold slot) := by
  cases slot with
  | none => exact keeps_pure ()
  | some l => exact keeps_world (hR.keeps_hold l.1)

variable [Backend D]

theorem keeps_letGoSlot (slot : Option HostLink) : Split.Keeps others R (Split.letGo slot) := by
  cases slot with
  | none => exact keeps_pure ()
  | some l => exact keeps_world (hR.keeps_letGo l.1)

theorem keeps_swap (slot : Option HostLink) (read : Splitter → Option HostLink) (put : Splitter → Splitter) :
    Split.Keeps others R (swap slot read put) :=
  keeps_bind (hR.keeps_holdSlot slot) fun _ => keeps_bind keeps_get fun _ => keeps_bind (Split.keeps_modify _) fun _ =>
    hR.keeps_letGoSlot _

theorem keeps_setWriter (slot : Option HostLink) : Split.Keeps others R (setWriter slot) := by
  rw [setWriter_eq]
  exact hR.keeps_swap _ _ _

theorem keeps_setReader (slot : Option HostLink) : Split.Keeps others R (setReader slot) := by
  rw [setReader_eq]
  exact hR.keeps_swap _ _ _

theorem keeps_setStale (stale : Option Link) : Split.Keeps others R (setStale stale) := by
  -- the link is held, if there is one; the rest is the same in both cases
  cases stale
  case' some l => refine keeps_bind (keeps_world (hR.keeps_hold l)) fun _ => ?_
  all_goals
    refine keeps_bind keeps_get fun s => keeps_bind (Split.keeps_modify _) fun _ => ?_
    cases s.stale with
    | none => exact keeps_pure ()
    | some l => exact keeps_world (hR.keeps_letGo l)

theorem keeps_rememberCurrent (l : HostLink) : Split.Keeps others R (rememberCurrent l) := by
  refine keeps_bind keeps_get fun s => keeps_bind keeps_look fun w => ?_
  split
  · split
    · exact hR.keeps_setWriter _
    · exact keeps_pure ()
  · split
    · exact hR.keeps_setReader _
    · exact keeps_pure ()

omit hR in
theorem keeps_usable : Split.Keeps others R usable? :=
  keeps_bind keeps_get fun _ => keeps_bind keeps_service fun _ => keeps_bind keeps_look fun _ => keeps_pure _

/-- What remembers the current link first and then goes on. -/
theorem keeps_rememberUsable (cur : Option HostLink) {rest : Split D α} (hrest : Split.Keeps others R rest) :
    Split.Keeps others R (do
      if let some l := cur then rememberCurrent l
      rest) := by
  cases cur with
  | none => exact hrest
  | some l => exact keeps_bind (hR.keeps_rememberCurrent l) fun _ => hrest

theorem keeps_setCurrent (l : Link) (host : Host) : Act.Keeps others R (Service.setCurrent (D := D) l host) := by
  refine Act.keeps_bind (Act.keeps_world (hR.keeps_log _ _)) fun _ => ?_
  refine Act.keeps_bind (Act.keeps_world (hR.keeps_hold l)) fun _ => Act.keeps_bind Act.keeps_get fun v => ?_
  refine Act.keeps_bind (Act.keeps_modify _) fun _ => ?_
  cases v.link? with
  | none => exact Act.keeps_pure ()
  | some earlier => exact Act.keeps_world (hR.keeps_letGo earlier)

theorem keeps_makeCurrent (l : HostLink) : Split.Keeps others R (makeCurrent l) := by
  refine keeps_bind keeps_usable fun cur => ?_
  split
  · exact keeps_bind (keeps_act (hR.keeps_setCurrent _ _)) fun _ => hR.keeps_countSwitch
  · exact keeps_pure ()

theorem keeps_readFrom (l : HostLink) : Split.Keeps others R (readFrom l) :=
  keeps_bind (hR.keeps_setReader _) fun _ => hR.keeps_makeCurrent l

end World.Lenient

namespace World.Forbearing

open Split

variable [Backend D] (hR : World.Forbearing others R) [Frame others R]
include hR

theorem keeps_shutLink (l : Link) : Split.Keeps others R (do
    Split.world l.closeQuietly
    Split.world l.letGo) :=
  keeps_bind (keeps_world (hR.keeps_closeQuietly fun _ _ => trivial)) fun _ => keeps_world (hR.keeps_letGo l)

theorem keeps_releaseStale : Split.Keeps others R (releaseStale (D := D)) := by
  refine keeps_bind keeps_get fun s => keeps_bind keeps_service fun v => ?_
  split
  · cases s.stale with
    | none => exact keeps_pure ()
    | some l =>
      exact keeps_bind (Split.keeps_modify _) fun _ => keeps_bind (hR.keeps_line _ _) fun _ => hR.keeps_shutLink l
  · exact keeps_pure ()

theorem keeps_moveReader (l : HostLink) : Split.Keeps others R (moveReader (D := D) l) := by
  refine keeps_bind (hR.keeps_holdSlot _) fun _ => keeps_bind keeps_get fun s =>
    keeps_bind (Split.keeps_modify _) fun _ => ?_
  refine keeps_bind (hR.keeps_makeCurrent l) fun _ => ?_
  cases s.reader with
  | none => exact keeps_pure ()
  | some old =>
    refine keeps_bind keeps_get fun x => ?_
    split
    · exact hR.keeps_shutLink old.1
    · exact keeps_world (hR.keeps_letGo old.1)

theorem keeps_discard (current : Option Link) (closed : List Link) (links : List HostLink) :
    Split.Keeps others R (Split.discard (D := D) current closed links) := by
  induction links generalizing closed with
  | nil => exact keeps_pure ()
  | cons l links ih =>
    obtain ⟨l, host⟩ := l
    unfold Split.discard
    split
    · exact keeps_bind (keeps_world (hR.keeps_letGo l)) fun _ => ih _
    · exact keeps_bind (hR.keeps_line _ _) fun _ =>
        keeps_bind (keeps_world (hR.keeps_closeQuietly fun _ _ => trivial)) fun _ =>
        keeps_bind (keeps_world (hR.keeps_letGo l)) fun _ => ih _

theorem keeps_discardKept : Split.Keeps others R (discardKept (D := D)) :=
  keeps_bind keeps_service fun _ => keeps_bind keeps_get fun _ => keeps_bind (Split.keeps_modify _) fun _ =>
    hR.keeps_discard _ _ _

end World.Forbearing

theorem World.Obliging.keeps_connect [Backend D] [Frame others R] (hR : World.Obliging (fun _ => True) others R)
    (host : Host) (props : Properties) : Act.Keeps others R (Service.connect (D := D) host props) :=
  Act.keeps_bind Act.keeps_get fun _ => Act.keeps_world (hR.keeps_provide _ _ _ _)

namespace World.Patient

open Split

variable [Backend D] (hR : World.Patient others R) [Frame others R]
include hR

theorem keeps_ensureWriter : Split.Keeps others R (ensureWriter (D := D)) := by
  refine keeps_bind keeps_look fun w => keeps_bind keeps_get fun s => ?_
  split
  · exact keeps_pure _
  · refine keeps_bind World.Lenient.keeps_usable fun cur => ?_
    split
    · exact keeps_bind (hR.keeps_setWriter _) fun _ => keeps_pure _
    · refine keeps_bind keeps_hosts fun hosts => ?_
      split
      · exact keeps_pure _
      · refine keeps_bind keeps_get fun s => keeps_bind (keeps_act (hR.keeps_connect _ _)) fun r => ?_
        cases r with
        | ok l => exact keeps_bind (hR.keeps_setWriter _) fun _ => keeps_pure _
        | error e => exact keeps_pure _

theorem keeps_tryReaders (room : Nat) (hosts : List Host) : Split.Keeps others R (tryReaders (D := D) room hosts) := by
  induction room generalizing hosts with
  | zero => exact keeps_pure _
  | succ room ih =>
    refine keeps_bind (keeps_pick _) fun i => ?_
    split
    · exact keeps_pure _
    · refine keeps_bind keeps_get fun s => keeps_bind (keeps_act (hR.keeps_connect _ _)) fun r => ?_
      cases r with
      | ok l => exact keeps_pure _
      | error e => exact keeps_bind (hR.keeps_line _ _) fun _ => ih _

theorem keeps_leaveForReader : Split.Keeps others R (leaveForReader (D := D)) := by
  refine keeps_bind keeps_look fun w => keeps_bind keeps_get fun s => ?_
  split
  · exact keeps_bind (hR.keeps_line _ _) fun _ => keeps_bind (hR.keeps_makeCurrent _) fun _ => keeps_pure _
  · refine keeps_bind (keeps_bind keeps_hosts fun _ => hR.keeps_tryReaders _ _) fun found => ?_
    cases found with
    | some l => exact keeps_bind (hR.keeps_line _ _) fun _ => keeps_bind (hR.keeps_readFrom l) fun _ => keeps_pure _
    | none =>
      refine keeps_bind hR.keeps_ensureWriter fun r => ?_
      cases r with
      | error e => exact keeps_pure _
      | ok l =>
        exact keeps_bind (hR.keeps_line _ _) fun _ => keeps_bind hR.keeps_countFallback fun _ =>
          keeps_bind (hR.keeps_readFrom l) fun _ => keeps_pure _

theorem keeps_leaveForOnlyHost : Split.Keeps others R (leaveForOnlyHost (D := D)) := by
  refine keeps_bind hR.keeps_ensureWriter fun r => ?_
  cases r with
  | error e => exact keeps_pure _
  | ok l => exact keeps_bind (hR.keeps_readFrom l) fun _ => keeps_pure _

theorem keeps_switchToReader : Split.Keeps others R (switchToReader (D := D)) := by
  refine keeps_bind World.Lenient.keeps_usable fun cur => hR.keeps_rememberUsable cur (keeps_bind keeps_get fun s => ?_)
  split
  · exact keeps_pure _
  · refine keeps_bind keeps_hosts fun hosts => ?_
    dsimp only
    split
    · exact keeps_bind (hR.keeps_setReader _) fun _ => keeps_pure _
    · refine keeps_bind keeps_service fun v => ?_
      split
      · exact keeps_pure _
      · split
        · exact hR.keeps_leaveForOnlyHost
        · exact hR.keeps_leaveForReader

theorem keeps_switchToWriter : Split.Keeps others R (switchToWriter (D := D)) := by
  refine keeps_bind World.Lenient.keeps_usable fun cur => hR.keeps_rememberUsable cur (keeps_bind keeps_get fun s => ?_)
  split
  · exact keeps_pure _
  · refine keeps_bind keeps_service fun v => ?_
    split
    · exact keeps_pure _
    · refine keeps_bind hR.keeps_ensureWriter fun r => ?_
      cases r with
      | error e => exact keeps_pure _
      | ok l =>
        exact keeps_bind (hR.keeps_line _ _) fun _ => keeps_bind (hR.keeps_makeCurrent l) fun _ => keeps_pure _

theorem keeps_switchTo (readOnly : Bool) : Split.Keeps others R (switchTo (D := D) readOnly) := by
  refine keeps_bind (hR.keeps_signal _) fun _ => keeps_bind (hR.keeps_signal _) fun _ => ?_
  -- the two turns differ in nothing that comes after them
  cases readOnly
  case' true => refine keeps_bind hR.keeps_switchToReader fun r => ?_
  case' false => refine keeps_bind hR.keeps_switchToWriter fun r => ?_
  all_goals
    cases r with
    | error e =>
      exact keeps_bind (hR.keeps_signal _) fun _ => keeps_bind (hR.keeps_signal _) fun _ => keeps_pure _
    | ok _ =>
      exact keeps_bind hR.keeps_releaseStale fun _ => keeps_bind (hR.keeps_signal _) fun _ =>
        keeps_bind (hR.keeps_signal _) fun _ => keeps_pure _

theorem keeps_rotateReader : Split.Keeps others R (rotateReader (D := D)) := by
  refine keeps_bind keeps_hosts fun hosts => ?_
  dsimp only
  split
  · refine keeps_bind (keeps_pick _) fun i => ?_
    split
    · exact keeps_pure ()
    · refine keeps_bind keeps_look fun w => keeps_bind keeps_get fun s => ?_
      split
      · refine keeps_bind keeps_get fun s => keeps_bind (keeps_act (hR.keeps_connect _ _)) fun r => ?_
        cases r with
        | ok l => exact keeps_bind (hR.keeps_line _ _) fun _ => hR.keeps_moveReader _
        | error e => exact hR.keeps_line _ _
      · exact keeps_pure ()
  · exact keeps_pure ()

end World.Patient

end ReplicaRouter
