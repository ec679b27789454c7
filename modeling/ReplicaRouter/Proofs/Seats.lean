import ReplicaRouter.Proofs.Provision
import ReplicaRouter.Splitting.Plugin
/-
Where a logical connection has its links, and the moves that they make there. The guards of the moves
are kept where a later argument rests on them: a link that is used again is not stale, and none becomes
current while a transaction is open. A predicate tells which links count as new.
-/
namespace ReplicaRouter

/-- Where a logical connection has its links: current, kept for writing, kept for reading, and left
behind by a failover. -/
@[ext]
structure Seats where
  current : Option HostLink
  writer : Option HostLink
  reader : Option HostLink
  stale : Option Link

theorem Splitter.holds_iff {slot : Option HostLink} {l : Link} :
    holds slot l = true ↔ ∃ host, slot = some (l, host) := by
  cases slot with
  | none => simp [holds]
  | some r =>
    obtain ⟨k, host⟩ := r
    simp [holds]

/-- A role is one of two. -/
theorem Host.isReader_eq (h : Host) : h.isReader = !h.isWriter := by
  obtain ⟨_, _, role⟩ := h
  cases role <;> rfl

/-! ## Moves of links -/

namespace Seats

/-- The link is current and was not left behind by a failover. -/
def IsCurrent (p : Seats) (l : HostLink) : Prop := p.current = some l ∧ p.stale ≠ some l.1

/-- The current link is the one that a failover left behind. -/
def IsLost (p : Seats) : Prop := ∃ l, p.current = some l ∧ p.stale = some l.1

/-- The link is kept for writing or for reading. -/
def Keeps (p : Seats) (l : Link) : Prop := (∃ host, p.writer = some (l, host)) ∨ ∃ host, p.reader = some (l, host)

/-- The usable current link, if there is one, is kept under its host's role, unless a link is kept there. -/
inductive Remembers : Option HostLink → Seats → Seats → Prop
  | nothing (p : Seats) : Remembers none p p
  | forWriting {p : Seats} {l : HostLink} (role : l.2.isWriter = true) :
      Remembers (some l) p { p with writer := some l }
  | forReading {p : Seats} {l : HostLink} (role : l.2.isWriter = false) :
      Remembers (some l) p { p with reader := some l }
  | already {p : Seats} {l : HostLink}
      (kept : (if l.2.isWriter then p.writer else p.reader).isSome = true) : Remembers (some l) p p

/-- The link becomes current, unless it is so already. -/
inductive Arrives (l : HostLink) (p : Seats) : Seats → Prop
  | moved : Arrives l p { p with current := some l }
  | there {cur : HostLink} (current : p.IsCurrent cur) (same : cur.1 = l.1) : Arrives l p p

/-- A link to the writer is found, and is kept from now on. -/
inductive Finds (new : Link → Prop) (l : HostLink) (p : Seats) : Seats → Prop
  | kept (slot : p.writer = some l) : Finds new l p p
  | current (current : p.IsCurrent l) (role : l.2.isWriter = true) : Finds new l p { p with writer := some l }
  | opened (newly : new l.1) (role : l.2.isWriter = true) : Finds new l p { p with writer := some l }

/-- What comes of asking for a reader when `cur` is the usable current link. -/
inductive TurnsToReader (new : Link → Prop) (cur : Option HostLink) (inTransaction : Bool) (p : Seats) :
    Except RouteError Unit → Seats → Prop
  | stays {l : HostLink} (usable : cur = some l)
      (fits : Splitter.holds p.reader l.1 = true ∨ l.2.isReader = true) :
      TurnsToReader new cur inTransaction p (.ok ()) p
  | shares {l : HostLink} (usable : cur = some l)
      (fits : Splitter.holds p.writer l.1 = true ∨ l.2.isWriter = true ∧ Splitter.holds p.reader l.1 = false) :
      TurnsToReader new cur inTransaction p (.ok ()) { p with reader := p.writer }
  | refused (busy : inTransaction = true) :
      TurnsToReader new cur inTransaction p (.error (Split.pinned "reader")) p
  | fails (e : RouteError) (free : inTransaction = false) : TurnsToReader new cur inTransaction p (.error e) p
  | kept {l : HostLink} {q : Seats} (free : inTransaction = false) (slot : p.reader = some l)
      (arrives : p.Arrives l q) : TurnsToReader new cur inTransaction p (.ok ()) q
  | opened {l : HostLink} {q : Seats} (free : inTransaction = false) (newly : new l.1)
      (role : l.2.isReader = true) (arrives : ({ p with reader := some l } : Seats).Arrives l q) :
      TurnsToReader new cur inTransaction p (.ok ()) q
  | writer {l : HostLink} {r q : Seats} (free : inTransaction = false) (finds : p.Finds new l r)
      (arrives : ({ r with reader := some l } : Seats).Arrives l q) :
      TurnsToReader new cur inTransaction p (.ok ()) q

/-- What comes of asking for the writer when `cur` is the usable current link. -/
inductive TurnsToWriter (new : Link → Prop) (cur : Option HostLink) (inTransaction : Bool) (p : Seats) :
    Except RouteError Unit → Seats → Prop
  | stays {l : HostLink} (usable : cur = some l)
      (fits : Splitter.holds p.writer l.1 = true ∨ l.2.isWriter = true ∧ Splitter.holds p.reader l.1 = false) :
      TurnsToWriter new cur inTransaction p (.ok ()) p
  | refused (busy : inTransaction = true) :
      TurnsToWriter new cur inTransaction p (.error (Split.pinned "writer")) p
  | fails (e : RouteError) (free : inTransaction = false) : TurnsToWriter new cur inTransaction p (.error e) p
  | writer {l : HostLink} {r q : Seats} (free : inTransaction = false) (finds : p.Finds new l r)
      (arrives : r.Arrives l q) : TurnsToWriter new cur inTransaction p (.ok ()) q

/-- What comes of asking for a reader or for the writer: first the usable current link is remembered. -/
inductive Switches (new : Link → Prop) (inTransaction : Bool) (p : Seats) :
    Bool → Except RouteError Unit → Seats → Prop
  | toReader {cur : Option HostLink} {p' q : Seats} {r : Except RouteError Unit}
      (usable : ∀ l, cur = some l → p.IsCurrent l) (remembers : p.Remembers cur p')
      (turns : p'.TurnsToReader new cur inTransaction r q) : Switches new inTransaction p true r q
  | toWriter {cur : Option HostLink} {p' q : Seats} {r : Except RouteError Unit}
      (usable : ∀ l, cur = some l → p.IsCurrent l) (remembers : p.Remembers cur p')
      (turns : p'.TurnsToWriter new cur inTransaction r q) : Switches new inTransaction p false r q

/-- After a switch the stale link is forgotten, unless it is current still. -/
inductive Releases (p : Seats) : Seats → Prop
  | waits (lost : p.IsLost) : Releases p p
  | frees (sound : ¬ p.IsLost) : Releases p { p with stale := none }

/-- Load balancing leaves the links alone, or moves to a new link to a reader. -/
inductive Rotates (new : Link → Prop) (p : Seats) : Seats → Prop
  | stays : Rotates new p p
  | moves {l : HostLink} {q : Seats} (newly : new l.1) (role : l.2.isReader = true)
      (arrives : ({ p with reader := some l } : Seats).Arrives l q) : Rotates new p q

/-! ## What counts as new -/

section New

variable {new new' : Link → Prop} {cur : Option HostLink} {inTransaction readOnly : Bool} {p q : Seats}
  {r : Except RouteError Unit}

theorem Finds.mono {l : HostLink} (hn : ∀ l, new l → new' l) (h : p.Finds new l q) : p.Finds new' l q := by
  cases h with
  | kept slot => exact .kept slot
  | current current role => exact .current current role
  | opened newly role => exact .opened (hn _ newly) role

theorem TurnsToReader.mono (hn : ∀ l, new l → new' l) (h : p.TurnsToReader new cur inTransaction r q) :
    p.TurnsToReader new' cur inTransaction r q := by
  cases h with
  | stays usable fits => exact .stays usable fits
  | shares usable fits => exact .shares usable fits
  | refused busy => exact .refused busy
  | fails e free => exact .fails e free
  | kept free slot arrives => exact .kept free slot arrives
  | opened free newly role arrives => exact .opened free (hn _ newly) role arrives
  | writer free finds arrives => exact .writer free (finds.mono hn) arrives

theorem TurnsToWriter.mono (hn : ∀ l, new l → new' l) (h : p.TurnsToWriter new cur inTransaction r q) :
    p.TurnsToWriter new' cur inTransaction r q := by
  cases h with
  | stays usable fits => exact .stays usable fits
  | refused busy => exact .refused busy
  | fails e free => exact .fails e free
  | writer free finds arrives => exact .writer free (finds.mono hn) arrives

theorem Switches.mono (hn : ∀ l, new l → new' l) (h : p.Switches new inTransaction readOnly r q) :
    p.Switches new' inTransaction readOnly r q := by
  cases h with
  | toReader usable remembers turns => exact .toReader usable remembers (turns.mono hn)
  | toWriter usable remembers turns => exact .toWriter usable remembers (turns.mono hn)

end New

/-! ## What moves leave alone -/

section Alone

variable {new : Link → Prop} {cur : Option HostLink} {inTransaction readOnly : Bool} {p q : Seats}
  {r : Except RouteError Unit}

theorem Remembers.current_eq (h : p.Remembers cur q) : q.current = p.current := by cases h <;> rfl

theorem Remembers.stale_eq (h : p.Remembers cur q) : q.stale = p.stale := by cases h <;> rfl

theorem Remembers.isCurrent {l : HostLink} (h : p.Remembers cur q) (hl : p.IsCurrent l) : q.IsCurrent l := by
  unfold IsCurrent
  rw [h.current_eq, h.stale_eq]
  exact hl

theorem Releases.current_eq (h : p.Releases q) : q.current = p.current := by cases h <;> rfl

theorem Arrives.stale_eq {l : HostLink} (h : p.Arrives l q) : q.stale = p.stale := by cases h <;> rfl

theorem Finds.stale_eq {l : HostLink} (h : p.Finds new l q) : q.stale = p.stale := by cases h <;> rfl

/-- No turn touches the stale link. -/
theorem Switches.stale_eq (h : p.Switches new inTransaction readOnly r q) : q.stale = p.stale := by
  cases h with
  | toReader _ remembers turns =>
    rw [← remembers.stale_eq]
    cases turns with
    | kept _ _ arrives => exact arrives.stale_eq
    | opened _ _ _ arrives => exact arrives.stale_eq
    | writer _ finds arrives => exact arrives.stale_eq.trans finds.stale_eq
    | _ => rfl
  | toWriter _ remembers turns =>
    rw [← remembers.stale_eq]
    cases turns with
    | writer _ finds arrives => exact arrives.stale_eq.trans finds.stale_eq
    | _ => rfl

/-- A switch that fails has done no more than remember the current link. -/
theorem Switches.remembers {e : RouteError} (h : p.Switches new inTransaction readOnly (.error e) q) :
    ∃ cur, (∀ l, cur = some l → p.IsCurrent l) ∧ p.Remembers cur q := by
  cases h with
  | toReader usable remembers turns => cases turns <;> exact ⟨_, usable, remembers⟩
  | toWriter usable remembers turns => cases turns <;> exact ⟨_, usable, remembers⟩

end Alone

end Seats

end ReplicaRouter
