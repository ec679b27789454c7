import ReplicaRouter.Proofs.Remembering
/-
The courses that the programs of read/write splitting can take, with what each goes by: which of the links were open
when they were looked at, and which attempts to connect were made. The seats alone tell less: they do not say that a
link was passed over because it was closed. What a program does to the links is told from the courses that it takes.
Main statements: `Split.fetches_ensureWriter`, `Split.seeks_tryReaders`, `Split.turns_switchToReader` and
`Split.turns_switchToWriter`, `Split.releases_releaseStale`, `Split.rotates_rotateReader` and `Split.discards_discard`.
-/
namespace ReplicaRouter

variable {D α : Type} {others : World D → World D → Prop}

open Splitter

/-! ## Courses -/

/-- What is kept for the role of a host. -/
def Splitter.slotFor (x : Splitter) (host : Host) : Option HostLink := if host.isWriter then x.writer else x.reader

namespace Stand

variable [Backend D]

/-- How a link becomes current, unless it is so already. -/
inductive Arrives (others : World D → World D → Prop) (s : Stand D) (l : HostLink) : Stand D → Prop
  | there {c : HostLink} (usable : s.usable = some c) (same : c.1 = l.1) : Arrives others s l s
  | moves {u s' : Stand D} (sets : Split.Ends others (Split.act (Service.setCurrent l.1 l.2)) s () u)
      (counts : Split.Ends others Split.countSwitch u () s') : Arrives others s l s'

/-- The usable current link needs no remembering: an open link is kept for its host's role. -/
def Mindful (s : Stand D) : Prop := ∀ l, s.usable = some l → openSlot s.world (s.splitter.slotFor l.2) ≠ none

/-- How the usable current link is remembered, if there is one. -/
inductive Recalls (others : World D → World D → Prop) (s : Stand D) : Stand D → Prop
  | nothing (none : s.usable = none) : Recalls others s s
  | calls {l : HostLink} {s' : Stand D} (usable : s.usable = some l)
      (remembers : Split.Ends others (Split.rememberCurrent l) s () s') : Recalls others s s'

/-- How a link to the writer is found: it is the one that is kept, if that is open; else the current one, if that is
usable and leads to a writer; and else one to the first writer there is, if it can be connected. -/
inductive Fetches (others : World D → World D → Prop) (s : Stand D) : Except RouteError HostLink → Stand D → Prop
  | kept {l : HostLink} (slot : openSlot s.world s.splitter.writer = some l) : Fetches others s (.ok l) s
  | current {l : HostLink} {s' : Stand D} (shut : openSlot s.world s.splitter.writer = none)
      (usable : s.usable = some l)
      (role : l.2.isWriter = true) (sets : Split.Ends others (Split.setWriter (some l)) s () s') :
      Fetches others s (.ok l) s'
  | missing (shut : openSlot s.world s.splitter.writer = none)
      (unfit : s.usable.filter (·.2.isWriter) = none) (absent : Topology.writer? s.world.hosts.topology = none) :
      Fetches others s (.error (.connectionUnavailable "no writer host in topology")) s
  | refused {host : Host} {e : RouteError} {s' : Stand D} (shut : openSlot s.world s.splitter.writer = none)
      (unfit : s.usable.filter (·.2.isWriter) = none) (first : Topology.writer? s.world.hosts.topology = some host)
      (attempt : Split.Ends others (Split.act (Service.connect host s.splitter.props)) s (.error e) s') :
      Fetches others s
        (.error (.connectionUnavailable ("unable to connect to writer " ++ host.text ++ ": " ++ e.message))) s'
  | dialed {host : Host} {l : Link} {u s' : Stand D} (shut : openSlot s.world s.splitter.writer = none)
      (unfit : s.usable.filter (·.2.isWriter) = none) (first : Topology.writer? s.world.hosts.topology = some host)
      (attempt : Split.Ends others (Split.act (Service.connect host s.splitter.props)) s (.ok l) u)
      (sets : Split.Ends others (Split.setWriter (some (l, host))) u () s') : Fetches others s (.ok (l, host)) s'

/-- How one changes over to a reader: the one that is kept is used again, if it is open; else one is searched for; and
if none is found the writer stands in for it, if there is a link to it. -/
inductive Leaves (others : World D → World D → Prop) (s : Stand D) : Except RouteError Unit → Stand D → Prop
  | reuses {l : HostLink} {u s' : Stand D} (slot : openSlot s.world s.splitter.reader = some l) (noted : s.Noted u)
      (arrives : Split.Ends others (Split.makeCurrent l) u () s') : Leaves others s (.ok ()) s'
  | opens {l : HostLink} {u v s' : Stand D} (shut : openSlot s.world s.splitter.reader = none)
      (search : Split.Ends others Split.connectReader s (some l) u) (noted : u.Noted v)
      (reads : Split.Ends others (Split.readFrom l) v () s') : Leaves others s (.ok ()) s'
  | fallsBack {l : HostLink} {u v t t' s' : Stand D} (shut : openSlot s.world s.splitter.reader = none)
      (search : Split.Ends others Split.connectReader s none u) (fetches : u.Fetches others (.ok l) v)
      (noted : v.Noted t) (counts : Split.Ends others Split.countFallback t () t')
      (reads : Split.Ends others (Split.readFrom l) t' () s') : Leaves others s (.ok ()) s'
  | fails {e : RouteError} {u s' : Stand D} (shut : openSlot s.world s.splitter.reader = none)
      (search : Split.Ends others Split.connectReader s none u) (fetches : u.Fetches others (.error e) s') :
      Leaves others s (.error e) s'

/-- How one changes over to the only host there is. -/
inductive Settles (others : World D → World D → Prop) (s : Stand D) : Except RouteError Unit → Stand D → Prop
  | fetches {l : HostLink} {u s' : Stand D} (fetches : s.Fetches others (.ok l) u)
      (reads : Split.Ends others (Split.readFrom l) u () s') : Settles others s (.ok ()) s'
  | fails {e : RouteError} {s' : Stand D} (fetches : s.Fetches others (.error e) s') : Settles others s (.error e) s'

/-- How one turns to a reader, once the usable current link is remembered: what does not serve is left, unless a
transaction is open. -/
inductive TurnsToReader (others : World D → World D → Prop) (s u : Stand D) : Except RouteError Unit → Stand D → Prop
  | stays {l : HostLink} (usable : s.usable = some l) (fits : u.splitter.isOnReader l = true) :
      TurnsToReader others s u (.ok ()) u
  | shares {l : HostLink} {s' : Stand D} (usable : s.usable = some l) (unfit : u.splitter.isOnReader l = false)
      (single : Topology.isSingle s.world.hosts.topology = true) (fits : u.splitter.isOnWriter l = true)
      (sets : Split.Ends others (Split.setReader u.splitter.writer) u () s') : TurnsToReader others s u (.ok ()) s'
  | refused (stuck : s.Stuck true) (busy : s.service.inTransaction = true) :
      TurnsToReader others s u (.error (Split.pinned "reader")) u
  | settles {r : Except RouteError Unit} {s' : Stand D} (stuck : s.Stuck true) (free : s.service.inTransaction = false)
      (single : Topology.isSingle s.world.hosts.topology = true) (settles : u.Settles others r s') :
      TurnsToReader others s u r s'
  | leaves {r : Except RouteError Unit} {s' : Stand D} (stuck : s.Stuck true) (free : s.service.inTransaction = false)
      (many : Topology.isSingle s.world.hosts.topology = false) (leaves : u.Leaves others r s') :
      TurnsToReader others s u r s'

/-- How one turns to the writer, once the usable current link is remembered. -/
inductive TurnsToWriter (others : World D → World D → Prop) (s u : Stand D) : Except RouteError Unit → Stand D → Prop
  | stays {l : HostLink} (usable : s.usable = some l) (fits : u.splitter.isOnWriter l = true) :
      TurnsToWriter others s u (.ok ()) u
  | refused (stuck : s.Stuck false) (busy : s.service.inTransaction = true) :
      TurnsToWriter others s u (.error (Split.pinned "writer")) u
  | fetches {l : HostLink} {v t s' : Stand D} (stuck : s.Stuck false) (free : s.service.inTransaction = false)
      (fetches : u.Fetches others (.ok l) v) (noted : v.Noted t)
      (arrives : Split.Ends others (Split.makeCurrent l) t () s') : TurnsToWriter others s u (.ok ()) s'
  | fails {e : RouteError} {s' : Stand D} (stuck : s.Stuck false) (free : s.service.inTransaction = false)
      (fetches : u.Fetches others (.error e) s') : TurnsToWriter others s u (.error e) s'

/-- How candidates are tried, as long as there is room: in the order in which the selector picks them, none twice,
until one can be connected. -/
inductive Seeks (others : World D → World D → Prop) : Nat → List Host → Stand D → Option HostLink → Stand D → Prop
  | spent (hosts : List Host) (s : Stand D) : Seeks others 0 hosts s none s
  | unpicked {room : Nat} {hosts : List Host} {i : Option Nat} {s s' : Stand D}
      (picks : Split.Ends others (Split.pick hosts.length) s i s') (absent : i.bind (hosts[·]?) = none) :
      Seeks others (room + 1) hosts s none s'
  | connects {room : Nat} {hosts : List Host} {i : Nat} {host : Host} {l : Link} {s u s' : Stand D}
      (picks : Split.Ends others (Split.pick hosts.length) s (some i) u) (candidate : hosts[i]? = some host)
      (attempt : Split.Ends others (Split.act (Service.connect host u.splitter.props)) u (.ok l) s') :
      Seeks others (room + 1) hosts s (some (l, host)) s'
  | misses {room : Nat} {hosts : List Host} {i : Nat} {host : Host} {e : RouteError} {found : Option HostLink}
      {s u v t s' : Stand D} (picks : Split.Ends others (Split.pick hosts.length) s (some i) u)
      (candidate : hosts[i]? = some host)
      (attempt : Split.Ends others (Split.act (Service.connect host u.splitter.props)) u (.error e) v)
      (noted : v.Noted t) (rest : Seeks others room (hosts.eraseIdx i) t found s') :
      Seeks others (room + 1) hosts s found s'

/-- How the link that a failover left behind is closed, once another one is current. -/
inductive Releases (others : World D → World D → Prop) (s : Stand D) : Stand D → Prop
  | waits (lost : s.seats.IsLost) : Releases others s s
  | clean (sound : ¬ s.seats.IsLost) (none : s.splitter.stale = none) : Releases others s s
  | frees {l : Link} {u v s' : Stand D} (sound : ¬ s.seats.IsLost)
      (stale : s.splitter.stale = some l)
      (noted : ({ s with splitter := { s.splitter with stale := none } } : Stand D).Noted u)
      (closes : Split.Ends others (Split.world l.closeQuietly) u () v)
      (letsGo : Split.Ends others (Split.world l.letGo) v () s') : Releases others s s'

/-- How a link takes the place of the one that is read from: it is held, kept for reading, and made current. -/
inductive Occupies (others : World D → World D → Prop) (s : Stand D) (l : HostLink) : Stand D → Prop
  | mk {u s' : Stand D} (holds : Split.Ends others (Split.hold (some l)) s () u)
      (arrives : Split.Ends others (Split.makeCurrent l)
        { u with splitter := { u.splitter with reader := some l } } () s') : Occupies others s l s'

/-- How one moves to another reader: the link that was read from before is let go of, and it is closed unless it is also
kept for writing. -/
inductive Moves (others : World D → World D → Prop) (s : Stand D) (l : HostLink) : Stand D → Prop
  | fills {s' : Stand D} (empty : s.splitter.reader = none) (occupies : s.Occupies others l s') : Moves others s l s'
  | closes {old : HostLink} {u v s' : Stand D} (earlier : s.splitter.reader = some old)
      (occupies : s.Occupies others l u) (free : holds s.splitter.writer old.1 = false)
      (closes : Split.Ends others (Split.world old.1.closeQuietly) u () v)
      (letsGo : Split.Ends others (Split.world old.1.letGo) v () s') : Moves others s l s'
  | spares {old : HostLink} {u s' : Stand D} (earlier : s.splitter.reader = some old)
      (occupies : s.Occupies others l u) (kept : holds s.splitter.writer old.1 = true)
      (letsGo : Split.Ends others (Split.world old.1.letGo) u () s') : Moves others s l s'

/-- The reader that the selector picks next. -/
def picked? (s : Stand D) : Option Host :=
  let readers := Topology.readers s.world.hosts.topology
  (s.splitter.selector.pick readers.length).1.bind (readers[·]?)

/-- The stand once the selector has made a pick among the readers. -/
def afterPick (s : Stand D) : Stand D :=
  { s with splitter := { s.splitter with
    selector := (s.splitter.selector.pick (Topology.readers s.world.hosts.topology).length).2 } }

/-- The reader that is read from is this one, and the link to it is open. -/
def ReadsFrom (s : Stand D) (host : Host) : Prop :=
  ∃ l, openSlot s.world s.splitter.reader = some l ∧ l.2.sameNode host = true

/-- How the load is balanced: where there are several readers one is picked, and moved to if it can be connected. -/
inductive Rotates (others : World D → World D → Prop) (s : Stand D) : Stand D → Prop
  | few (few : ¬ 2 ≤ (Topology.readers s.world.hosts.topology).length) : Rotates others s s
  | unpicked (none : s.picked? = none) : Rotates others s s.afterPick
  | kept {host : Host} (picked : s.picked? = some host) (same : s.ReadsFrom host) : Rotates others s s.afterPick
  | misses {host : Host} {e : RouteError} {u s' : Stand D} (picked : s.picked? = some host) (other : ¬ s.ReadsFrom host)
      (attempt : Split.Ends others (Split.act (Service.connect host s.splitter.props)) s.afterPick (.error e) u)
      (noted : u.Noted s') : Rotates others s s'
  | moves {host : Host} {l : Link} {u v s' : Stand D} (picked : s.picked? = some host) (other : ¬ s.ReadsFrom host)
      (attempt : Split.Ends others (Split.act (Service.connect host s.splitter.props)) s.afterPick (.ok l) u)
      (noted : u.Noted v) (moves : Split.Ends others (Split.moveReader (l, host)) v () s') : Rotates others s s'

/-- How links are given up: the current one, and those that were closed already, are let go of, and the others are
closed before that. -/
inductive Discards (others : World D → World D → Prop) (current : Option Link) :
    List Link → List HostLink → Stand D → Stand D → Prop
  | done (closed : List Link) (s : Stand D) : Discards others current closed [] s s
  | spares {l : HostLink} {closed : List Link} {links : List HostLink} {s u s' : Stand D}
      (spared : current = some l.1 ∨ l.1 ∈ closed) (letsGo : Split.Ends others (Split.world l.1.letGo) s () u)
      (rest : Discards others current closed links u s') : Discards others current closed (l :: links) s s'
  | closes {l : HostLink} {closed : List Link} {links : List HostLink} {s u v t s' : Stand D} (noted : s.Noted u)
      (closes : Split.Ends others (Split.world l.1.closeQuietly) u () v)
      (letsGo : Split.Ends others (Split.world l.1.letGo) v () t)
      (rest : Discards others current (l.1 :: closed) links t s') : Discards others current closed (l :: links) s s'

end Stand

/-! ## Making a link current -/

/-- Between two stands a link became current, and if it was not so already that was counted. -/
structure Stand.Lands (s : Stand D) (l : HostLink) (s' : Stand D) : Prop where
  link : s'.service.link? = some l.1
  /-- Nothing but the current link was changed of the connection. -/
  service : s'.service = { s.service with current := s'.service.current }
  /-- Nothing but the count of switches was changed of the splitter. -/
  splitter : s'.splitter = { s.splitter with switches := s'.splitter.switches }

namespace Stand.Arrives

variable [Backend D] [Bystanders others] {s s' : Stand D} {l : HostLink}

theorem lands (h : s.Arrives others l s') : s.Lands l s' := by
  cases h with
  | there usable same =>
    refine ⟨?_, rfl, rfl⟩
    rw [Service.link?, (usable_eq_some usable).1, Option.map_some, same]
  | @moves u _ sets counts =>
    obtain ⟨hset, hx⟩ := Split.ends_act.1 sets
    obtain ⟨hv, -⟩ := Service.ends_setCurrent hset
    obtain ⟨hv', hx', -⟩ := Split.ends_countSwitch counts
    refine ⟨?_, ?_, ?_⟩
    · rw [hv', hv]; rfl
    · rw [hv', hv]
    · rw [hx', hx]

/-- The link is current under its host, unless it was usable as the current one already. -/
theorem current_or_usable (h : s.Arrives others l s') :
    s'.service.current = some l ∨ s'.service = s.service ∧ ∃ c, s'.usable = some c ∧ c.1 = l.1 := by
  cases h with
  | there usable same => exact .inr ⟨rfl, _, usable, same⟩
  | moves sets counts =>
    left
    rw [(Split.ends_countSwitch counts).1, (Service.ends_setCurrent (Split.ends_act.1 sets).1).1]

theorem leads (h : s.Arrives others l s') : ∃ p, s.seats.Arrives l p ∧ s.Leads p s' := by
  have hlands := h.lands
  cases h with
  | there usable same =>
    exact ⟨_, .there ⟨(usable_eq_some usable).1, (usable_eq_some usable).2.2⟩ same, .refl s⟩
  | moves sets counts =>
    obtain ⟨hv, hset⟩ := Service.ends_setCurrent (Split.ends_act.1 sets).1
    obtain ⟨hv', -, hn⟩ := Split.ends_countSwitch counts
    have hcurrent : s'.service.current = some l := by rw [hv', hv]
    refine ⟨_, .moved, ?_, hset.trans hn.upkeep,
      by rw [hlands.service], by rw [hlands.service], by rw [hlands.splitter]⟩
    rw [seats, hcurrent, hlands.splitter]
    rfl

end Stand.Arrives

namespace Split

variable [Backend D] {s s' : Stand D} {l : HostLink} {a : Unit}

theorem arrives_makeCurrent (h : Split.Ends others (makeCurrent l) s a s') : s.Arrives others l s' := by
  replace h := after_usable h
  split at h
  · obtain ⟨_, u, hset, h⟩ := ends_bind.1 h
    exact .moves hset h
  · next hhere =>
    rw [Bool.not_eq_true', Bool.not_eq_false] at hhere
    obtain ⟨c, hc, hsame⟩ := (Option.any_eq_true ..).1 hhere
    obtain ⟨-, rfl⟩ := ends_pure.1 h
    exact .there hc (eq_of_beq hsame)

variable [Bystanders others]

theorem lands_makeCurrent (h : Split.Ends others (makeCurrent l) s a s') : s.Lands l s' :=
  (arrives_makeCurrent h).lands

theorem ends_makeCurrent (h : Split.Ends others (makeCurrent l) s a s') : ∃ p, s.seats.Arrives l p ∧ s.Leads p s' :=
  (arrives_makeCurrent h).leads

/-- Who reads from a link has it as the current one and keeps it for reading. -/
theorem lands_readFrom (h : Split.Ends others (readFrom l) s a s') :
    { s with splitter := { s.splitter with reader := some l } }.Lands l s' := by
  obtain ⟨_, u, hset, h⟩ := ends_bind.1 h
  obtain ⟨hv, hx⟩ := ends_setReader hset
  obtain ⟨hlink, hservice, hsplitter⟩ := lands_makeCurrent h
  refine ⟨hlink, ?_, ?_⟩
  · rw [hservice, hv]
  · rw [hsplitter, hx]

theorem ends_readFrom (h : Split.Ends others (readFrom l) s a s') :
    ∃ p, ({ s.seats with reader := some l } : Seats).Arrives l p ∧ s.Leads p s' := by
  obtain ⟨_, u, hset, h⟩ := ends_bind.1 h
  obtain ⟨p, harrives, hleads⟩ := ends_makeCurrent h
  rw [(leads_setReader hset).seats] at harrives
  exact ⟨p, harrives, (leads_setReader hset).trans hleads⟩

theorem current_or_usable_readFrom (h : Split.Ends others (readFrom l) s a s') :
    s'.service.current = some l ∨ s'.service = s.service ∧ ∃ c, s'.usable = some c ∧ c.1 = l.1 := by
  obtain ⟨_, u, hset, h⟩ := ends_bind.1 h
  rw [← (ends_setReader hset).1]
  exact (arrives_makeCurrent h).current_or_usable

end Split

/-- The link that takes the reader's place is current and kept for reading. -/
theorem Stand.Occupies.lands [Backend D] [Bystanders others] {s s' : Stand D} {l : HostLink}
    (h : s.Occupies others l s') : { s with splitter := { s.splitter with reader := some l } }.Lands l s' := by
  obtain ⟨holds, arrives⟩ := h
  obtain ⟨hv, hx, -⟩ := Split.ends_hold holds
  obtain ⟨hlink, hservice, hsplitter⟩ := Split.lands_makeCurrent arrives
  refine ⟨hlink, ?_, ?_⟩
  · rw [hservice, hv]
  · rw [hsplitter, hx]

/-- Taking the reader's place keeps what keeping the books does. -/
theorem Stand.Occupies.keeps [Backend D] {R : World D → World D → Prop} (hR : World.Lenient R) [Frame others R]
    {s s' : Stand D} {l : HostLink} (h : s.Occupies others l s') : R s.world s'.world := by
  obtain ⟨holds, arrives⟩ := h
  have hmake := hR.keeps_makeCurrent l arrives
  exact Frame.trans others (hR.keeps_holdSlot _ holds) hmake

/-- Where a link is released nothing else is changed of the connection and the splitter. -/
theorem Stand.Releases.alone [Backend D] {s s' : Stand D} (h : s.Releases others s') :
    s'.service = s.service ∧ s'.splitter = { s.splitter with stale := s'.splitter.stale } := by
  cases h with
  | waits | clean => exact ⟨rfl, rfl⟩
  | frees _ _ noted closes letsGo =>
    obtain ⟨-, hv, hx⟩ := Split.ends_world.1 closes
    obtain ⟨-, hv', hx'⟩ := Split.ends_world.1 letsGo
    refine ⟨hv'.trans (hv.trans noted.service), ?_⟩
    rw [hx', hx, noted.splitter]

/-! ## Programs follow them -/

namespace Split

variable [Backend D] {s s' : Stand D}

theorem fetches_ensureWriter {r : Except RouteError HostLink} (h : Split.Ends others ensureWriter s r s') :
    s.Fetches others r s' := by
  replace h := after_world h
  replace h := after_get h
  split at h
  · next l hl =>
    obtain ⟨rfl, rfl⟩ := ends_pure.1 h
    exact .kept hl
  · next hshut =>
    replace h := after_usable h
    split at h
    · next l hl =>
      obtain ⟨husable, hrole⟩ := Option.filter_eq_some_iff.1 hl
      obtain ⟨_, u, hset, h⟩ := ends_bind.1 h
      obtain ⟨rfl, rfl⟩ := ends_pure.1 h
      exact .current hshut husable hrole hset
    · next hunfit =>
      replace h := after_hosts h
      split at h
      · next habsent =>
        obtain ⟨rfl, rfl⟩ := ends_pure.1 h
        exact .missing hshut hunfit habsent
      · next host hfirst =>
        replace h := after_get h
        obtain ⟨c, u, hconnect, h⟩ := ends_bind.1 h
        cases c with
        | error e =>
          obtain ⟨rfl, rfl⟩ := ends_pure.1 h
          exact .refused hshut hunfit hfirst hconnect
        | ok l =>
          obtain ⟨_, v, hset, h⟩ := ends_bind.1 h
          obtain ⟨rfl, rfl⟩ := ends_pure.1 h
          exact .dialed hshut hunfit hfirst hconnect hset

variable {r : Except RouteError Unit}

theorem leaves_leaveForReader (h : Split.Ends others leaveForReader s r s') : s.Leaves others r s' := by
  replace h := after_world h
  replace h := after_get h
  split at h
  · next l hl =>
    obtain ⟨_, u, hlog, h⟩ := ends_bind.1 h
    obtain ⟨_, v, harrives, h⟩ := ends_bind.1 h
    obtain ⟨rfl, rfl⟩ := ends_pure.1 h
    exact .reuses hl (noted_log hlog) harrives
  · next hshut =>
    obtain ⟨found, u, hsearch, h⟩ := ends_bind.1 h
    cases found with
    | some l =>
      obtain ⟨_, v, hlog, h⟩ := ends_bind.1 h
      obtain ⟨_, t, hreads, h⟩ := ends_bind.1 h
      obtain ⟨rfl, rfl⟩ := ends_pure.1 h
      exact .opens hshut hsearch (noted_log hlog) hreads
    | none =>
      obtain ⟨l, v, hfetch, h⟩ := ends_bind.1 h
      have hfetches := fetches_ensureWriter hfetch
      cases l with
      | error e =>
        obtain ⟨rfl, rfl⟩ := ends_pure.1 h
        exact .fails hshut hsearch hfetches
      | ok l =>
        obtain ⟨_, t, hlog, h⟩ := ends_bind.1 h
        obtain ⟨_, t', hcounts, h⟩ := ends_bind.1 h
        obtain ⟨_, t'', hreads, h⟩ := ends_bind.1 h
        obtain ⟨rfl, rfl⟩ := ends_pure.1 h
        exact .fallsBack hshut hsearch hfetches (noted_log hlog) hcounts hreads

theorem settles_leaveForOnlyHost (h : Split.Ends others leaveForOnlyHost s r s') : s.Settles others r s' := by
  obtain ⟨l, u, hfetch, h⟩ := ends_bind.1 h
  have hfetches := fetches_ensureWriter hfetch
  cases l with
  | error e =>
    obtain ⟨rfl, rfl⟩ := ends_pure.1 h
    exact .fails hfetches
  | ok l =>
    obtain ⟨_, v, hreads, h⟩ := ends_bind.1 h
    obtain ⟨rfl, rfl⟩ := ends_pure.1 h
    exact .fetches hfetches hreads

/-- Where an open link is kept for its host's role, a link is not remembered. -/
theorem ends_rememberCurrent_or_eq {l : HostLink} {a : Unit} (h : Split.Ends others (rememberCurrent l) s a s')
    (hslot : openSlot s.world (s.splitter.slotFor l.2) ≠ none) : s' = s := by
  have hsome : ¬ (openSlot s.world (s.splitter.slotFor l.2)).isNone = true := fun hnone =>
    hslot (Option.isNone_iff_eq_none.1 hnone)
  replace h := after_get h
  replace h := after_world h
  unfold slotFor at hsome
  split at h
  · next hrole =>
    rw [if_pos hrole] at hsome
    rw [if_neg hsome] at h
    exact (ends_pure.1 h).2
  · next hrole =>
    rw [if_neg hrole] at hsome
    rw [if_neg hsome] at h
    exact (ends_pure.1 h).2

/-- The usable current link is remembered before the rest. -/
theorem recalls_rememberUsable {α : Type} {rest : Split D α} {r : α}
    (h : Split.Ends others (do
      if let some l := s.usable then rememberCurrent l
      rest) s r s') : ∃ u, s.Recalls others u ∧ Split.Ends others rest u r s' := by
  cases hu : s.usable with
  | none =>
    rw [hu] at h
    exact ⟨s, .nothing hu, h⟩
  | some l =>
    rw [hu] at h
    obtain ⟨_, u, h1, h⟩ := ends_bind.1 h
    exact ⟨u, .calls hu h1, h⟩

end Split

namespace Stand

variable [Backend D] {s u : Stand D}

theorem Recalls.remembers (h : s.Recalls others u) : s.Remembers u := by
  cases h with
  | nothing none =>
    refine ⟨rfl, ?_, .refl _⟩
    rw [remembered, remember_of_none none, remember_of_none none]
  | calls usable remembers => exact Split.ends_rememberCurrent_of_usable usable remembers

/-- A link that needs no remembering is not remembered. -/
theorem Recalls.eq_of_mindful (h : s.Recalls others u) (hs : s.Mindful) : u = s := by
  cases h with
  | nothing => rfl
  | calls usable remembers => exact Split.ends_rememberCurrent_or_eq remembers (hs _ usable)

end Stand

namespace Split

variable [Backend D] {s s' : Stand D} {r : Except RouteError Unit}

theorem turns_switchToReader (h : Split.Ends others switchToReader s r s') :
    ∃ u, s.Recalls others u ∧ s.TurnsToReader others u r s' := by
  replace h := after_usable h
  obtain ⟨u, hrecalls, h⟩ := recalls_rememberUsable h
  replace h := after_get h
  refine ⟨u, hrecalls, ?_⟩
  have hu := hrecalls.remembers
  have hserves := s.any_usable_serves_true
  split at h
  · next hon =>
    obtain ⟨l, hl, hfits⟩ := (Option.any_eq_true ..).1 hon
    obtain ⟨rfl, rfl⟩ := ends_pure.1 h
    exact .stays hl hfits
  · next hoff =>
    replace h := after_hosts h
    dsimp only at h
    rw [hu.books.hosts] at h
    split at h
    · next hon =>
      obtain ⟨hsingle, hon⟩ := Bool.and_eq_true_iff.1 hon
      obtain ⟨l, hl, hfits⟩ := (Option.any_eq_true ..).1 hon
      obtain ⟨_, v, hset, h⟩ := ends_bind.1 h
      obtain ⟨rfl, rfl⟩ := ends_pure.1 h
      rw [hl] at hoff
      exact .shares hl (Bool.eq_false_iff.2 hoff) hsingle hfits hset
    · next hon =>
      -- the current link has to change
      rw [← Stand.any_usable_isOnReader, ← Stand.any_usable_isOnWriter, ← hu.splitter, Bool.eq_false_iff.2 hoff,
        Bool.eq_false_iff.2 hon] at hserves
      have hstuck := Stand.any_usable_serves.1 hserves
      replace h := after_service h
      rw [hu.service] at h
      split at h
      · next hbusy =>
        obtain ⟨rfl, rfl⟩ := ends_pure.1 h
        exact .refused hstuck hbusy
      · next hfree =>
        split at h
        · next hsingle => exact .settles hstuck (Bool.eq_false_iff.2 hfree) hsingle (settles_leaveForOnlyHost h)
        · next hmany =>
          exact .leaves hstuck (Bool.eq_false_iff.2 hfree) (Bool.eq_false_iff.2 hmany) (leaves_leaveForReader h)

theorem turns_switchToWriter (h : Split.Ends others switchToWriter s r s') :
    ∃ u, s.Recalls others u ∧ s.TurnsToWriter others u r s' := by
  replace h := after_usable h
  obtain ⟨u, hrecalls, h⟩ := recalls_rememberUsable h
  replace h := after_get h
  refine ⟨u, hrecalls, ?_⟩
  have hu := hrecalls.remembers
  split at h
  · next hon =>
    obtain ⟨l, hl, hfits⟩ := (Option.any_eq_true ..).1 hon
    obtain ⟨rfl, rfl⟩ := ends_pure.1 h
    exact .stays hl hfits
  · next hoff =>
    -- the current link has to change
    rw [hu.splitter, Stand.any_usable_isOnWriter] at hoff
    have hstuck : s.Stuck false := Stand.any_usable_serves.1 (Bool.eq_false_iff.2 hoff)
    replace h := after_service h
    rw [hu.service] at h
    split at h
    · next hbusy =>
      obtain ⟨rfl, rfl⟩ := ends_pure.1 h
      exact .refused hstuck hbusy
    · next hfree =>
      have hfree := Bool.eq_false_iff.2 hfree
      obtain ⟨l, v, hfetch, h⟩ := ends_bind.1 h
      have hfetches := fetches_ensureWriter hfetch
      cases l with
      | error e =>
        obtain ⟨rfl, rfl⟩ := ends_pure.1 h
        exact .fails hstuck hfree hfetches
      | ok l =>
        obtain ⟨_, t, hlog, h⟩ := ends_bind.1 h
        obtain ⟨_, t', harrives, h⟩ := ends_bind.1 h
        obtain ⟨rfl, rfl⟩ := ends_pure.1 h
        exact .fetches hstuck hfree hfetches (noted_log hlog) harrives

theorem seeks_tryReaders {room : Nat} {hosts : List Host} {found : Option HostLink}
    (h : Split.Ends others (tryReaders room hosts) s found s') : Stand.Seeks others room hosts s found s' := by
  induction room generalizing s hosts with
  | zero =>
    obtain ⟨rfl, rfl⟩ := ends_pure.1 h
    exact .spent _ _
  | succ room ih =>
    obtain ⟨i, u, hpick, h⟩ := ends_bind.1 h
    split at h
    · next habsent =>
      obtain ⟨rfl, rfl⟩ := ends_pure.1 h
      refine .unpicked hpick ?_
      cases i with
      | none => rfl
      | some i => simpa using habsent
    · next hpicked =>
      obtain ⟨i, rfl, hpicked⟩ := Option.bind_eq_some_iff.1 hpicked
      obtain ⟨host, hcandidate, he⟩ := Option.map_eq_some_iff.1 hpicked
      obtain ⟨rfl, rfl⟩ := Prod.mk.inj he
      replace h := after_get h
      obtain ⟨c, v, hattempt, h⟩ := ends_bind.1 h
      cases c with
      | ok l =>
        obtain ⟨rfl, rfl⟩ := ends_pure.1 h
        exact .connects hpick hcandidate hattempt
      | error e =>
        obtain ⟨_, t, hlog, h⟩ := ends_bind.1 h
        exact .misses hpick hcandidate hattempt (noted_log hlog) (ih h)

theorem seeks_connectReader {found : Option HostLink} (h : Split.Ends others connectReader s found s') :
    Stand.Seeks others ((Topology.readers s.world.hosts.topology).length + 1)
      (Topology.readers s.world.hosts.topology) s found s' := by
  replace h := after_hosts h
  exact seeks_tryReaders h

omit [Backend D] in
theorem isCurrentStale_iff : s.splitter.isCurrentStale s.service = true ↔ s.seats.IsLost := by
  unfold isCurrentStale Service.link? isStale Seats.IsLost Stand.seats
  cases s.service.current with
  | none => simp
  | some l => simp

variable {a : Unit}

theorem releases_releaseStale (h : Split.Ends others releaseStale s a s') : s.Releases others s' := by
  replace h := after_service (after_get h)
  split at h
  · next hsound =>
    rw [Bool.not_eq_true'] at hsound
    have hsound : ¬ s.seats.IsLost := fun hlost => Bool.eq_false_iff.1 hsound (isCurrentStale_iff.2 hlost)
    split at h
    · next l hstale =>
      obtain ⟨_, u, hset, h⟩ := ends_bind.1 h
      obtain rfl := ends_modify.1 hset
      obtain ⟨_, v, hlog, h⟩ := ends_bind.1 h
      obtain ⟨_, t, hclose, h⟩ := ends_bind.1 h
      exact .frees hsound hstale (noted_log hlog) hclose h
    · next hnone =>
      obtain ⟨-, rfl⟩ := ends_pure.1 h
      exact .clean hsound (Option.eq_none_iff_forall_ne_some.2 hnone)
  · next hlost =>
    rw [Bool.not_eq_true', Bool.not_eq_false] at hlost
    obtain ⟨-, rfl⟩ := ends_pure.1 h
    exact .waits (isCurrentStale_iff.1 hlost)

theorem moves_moveReader [Bystanders others] {l : HostLink} (h : Split.Ends others (moveReader l) s a s') :
    s.Moves others l s' := by
  obtain ⟨_, u, hhold, h⟩ := ends_bind.1 h
  replace h := after_get h
  obtain ⟨_, v, hset, h⟩ := ends_bind.1 h
  obtain rfl := ends_modify.1 hset
  obtain ⟨_, t, hmake, h⟩ := ends_bind.1 h
  have hoccupies : s.Occupies others l t := ⟨hhold, hmake⟩
  have hwriter : t.splitter.writer = s.splitter.writer := by rw [hoccupies.lands.splitter]
  rw [(ends_hold hhold).2.1] at h
  cases hearlier : s.splitter.reader with
  | none =>
    rw [hearlier] at h
    obtain ⟨-, rfl⟩ := ends_pure.1 h
    exact .fills hearlier hoccupies
  | some old =>
    rw [hearlier] at h
    replace h := after_get h
    rw [hwriter] at h
    split at h
    · next hfree =>
      rw [Bool.not_eq_true'] at hfree
      obtain ⟨_, x, hclose, h⟩ := ends_bind.1 h
      exact .closes hearlier hoccupies hfree hclose h
    · next hkept =>
      rw [Bool.not_eq_true', Bool.not_eq_false] at hkept
      exact .spares hearlier hoccupies hkept h

theorem rotates_rotateReader (h : Split.Ends others rotateReader s a s') : s.Rotates others s' := by
  replace h := after_hosts h
  dsimp only at h
  split at h
  · obtain ⟨i, u, hpick, h⟩ := ends_bind.1 h
    obtain ⟨rfl, rfl⟩ := ends_pick hpick
    split at h
    · next hnone =>
      obtain ⟨-, rfl⟩ := ends_pure.1 h
      exact .unpicked hnone
    · next host hpicked =>
      replace h := after_world h
      replace h := after_get h
      split at h
      · next hother =>
        -- no open link is read from that leads to the host picked
        have hother : ¬ s.ReadsFrom host := by
          rintro ⟨l, hl, hsame⟩
          replace hother : (!(openSlot s.world s.splitter.reader).any (·.2.sameNode host)) = true := hother
          rw [hl, Option.any_some, hsame] at hother
          cases hother
        replace h := after_get h
        obtain ⟨c, v, hattempt, h⟩ := ends_bind.1 h
        cases c with
        | error e => exact .misses hpicked hother hattempt (noted_log h)
        | ok l =>
          obtain ⟨_, t, hlog, h⟩ := ends_bind.1 h
          exact .moves hpicked hother hattempt (noted_log hlog) h
      · next hsame =>
        rw [Bool.not_eq_true', Bool.not_eq_false] at hsame
        obtain ⟨l, hl, hsame⟩ := (Option.any_eq_true ..).1 hsame
        obtain ⟨-, rfl⟩ := ends_pure.1 h
        exact .kept hpicked ⟨l, hl, hsame⟩
  · next hfew =>
    obtain ⟨-, rfl⟩ := ends_pure.1 h
    exact .few hfew

theorem discards_discard {current : Option Link} {closed : List Link} {links : List HostLink}
    (h : Split.Ends others (discard current closed links) s a s') :
    Stand.Discards others current closed links s s' := by
  induction links generalizing s closed with
  | nil =>
    obtain ⟨-, rfl⟩ := ends_pure.1 h
    exact .done _ _
  | cons l links ih =>
    obtain ⟨l, host⟩ := l
    unfold discard at h
    split at h
    · next hspared =>
      obtain ⟨_, u, hletGo, h⟩ := ends_bind.1 h
      refine .spares ?_ hletGo (ih h)
      exact (Bool.or_eq_true_iff.1 hspared).imp beq_iff_eq.1 List.contains_iff_mem.1
    · obtain ⟨_, u, hlog, h⟩ := ends_bind.1 h
      obtain ⟨_, v, hclose, h⟩ := ends_bind.1 h
      obtain ⟨_, t, hletGo, h⟩ := ends_bind.1 h
      exact .closes (noted_log hlog) hclose hletGo (ih h)

/-- Both kept links are given up at once. -/
theorem discards_discardKept (h : Split.Ends others discardKept s a s') :
    Stand.Discards others s.service.link? [] (s.splitter.writer.toList ++ s.splitter.reader.toList)
      { s with splitter := { s.splitter with writer := none, reader := none } } s' := by
  replace h := after_service h
  replace h := after_get h
  obtain ⟨_, u, hset, h⟩ := ends_bind.1 h
  obtain rfl := ends_modify.1 hset
  exact discards_discard h

end Split

end ReplicaRouter
