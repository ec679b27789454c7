import ReplicaRouter.Proofs.Staging
/-
Which link an operation runs on. In read-only mode it is the one kept for reading; in the other mode,
once the session has been on the writer, it is one that is recorded with a writer.
Main statement: `Run.routed_by_mode`.
-/
namespace ReplicaRouter

variable {D : Type}

open Splitter

/-! ## Seats -/

namespace Seats

/-- A usable current link is the one kept under its host's role, where one is kept; and a link that is
kept for writing is one to a writer. -/
structure Ordered (p : Seats) : Prop where
  writerRole : ∀ l, p.writer = some l → l.2.isWriter = true
  onReader : ∀ l, p.IsCurrent l → l.2.isReader = true → p.reader = none ∨ holds p.reader l.1 = true
  onWriter : ∀ l, p.IsCurrent l → l.2.isWriter = true →
    p.writer = none ∨ holds p.writer l.1 = true ∨ holds p.reader l.1 = true

/-- The current link is the one kept for reading. -/
def OnReader (p : Seats) : Prop := ∃ l, p.current = some l ∧ holds p.reader l.1 = true

/-- The current link is recorded with a writer. -/
def OnWriter (p : Seats) : Prop := ∃ l, p.current = some l ∧ (l.2.isWriter = true ∨ holds p.writer l.1 = true)

theorem holds_self (l : HostLink) : holds (some l) l.1 = true := holds_iff.2 ⟨l.2, rfl⟩

variable {new : Link → Prop} {cur : Option HostLink} {inTransaction readOnly : Bool} {p q : Seats}
  {r : Except RouteError Unit} {l : HostLink}

/-! ### Remembering -/

theorem Remembers.ordered (h : p.Remembers cur q) (hcur : ∀ l, cur = some l → p.IsCurrent l)
    (hp : p.Ordered) : q.Ordered := by
  have hsame : ∀ {l k : HostLink}, p.IsCurrent l → p.IsCurrent k → k = l := fun hl hk =>
    Option.some.inj (hk.1.symm.trans hl.1)
  cases h with
  | nothing => exact hp
  | already => exact hp
  | @forWriting _ l role =>
    refine ⟨?_, hp.onReader, ?_⟩
    · rintro _ ⟨⟩; exact role
    · intro k hk _
      rw [hsame (hcur l rfl) hk]
      exact .inr (.inl (holds_self l))
  | @forReading _ l role =>
    refine ⟨hp.writerRole, ?_, ?_⟩
    · intro k hk _
      rw [hsame (hcur l rfl) hk]
      exact .inr (holds_self l)
    · intro k hk hrole
      rw [hsame (hcur l rfl) hk, role] at hrole
      cases hrole

theorem Remembers.onReader (h : p.Remembers cur q) (hcur : ∀ l, cur = some l → p.IsCurrent l)
    (hp : p.OnReader) : q.OnReader := by
  obtain ⟨l, hl, hr⟩ := hp
  cases h with
  | nothing => exact ⟨l, hl, hr⟩
  | already => exact ⟨l, hl, hr⟩
  | forWriting => exact ⟨l, hl, hr⟩
  | @forReading _ k _ => exact ⟨k, (hcur k rfl).1, holds_self k⟩

theorem Remembers.onWriter (h : p.Remembers cur q) (hcur : ∀ l, cur = some l → p.IsCurrent l)
    (hp : p.OnWriter) : q.OnWriter := by
  obtain ⟨l, hl, hw⟩ := hp
  cases h with
  | nothing => exact ⟨l, hl, hw⟩
  | already => exact ⟨l, hl, hw⟩
  | @forWriting _ k role => exact ⟨k, (hcur k rfl).1, .inl role⟩
  | forReading => exact ⟨l, hl, hw⟩

/-- After a link was remembered there is one kept under its host's role. -/
theorem Remembers.kept (h : p.Remembers (some l) q) :
    (if l.2.isWriter then q.writer else q.reader) ≠ none := by
  cases h with
  | forWriting role => rw [if_pos role]; exact Option.some_ne_none _
  | forReading role => rw [if_neg (by rw [role]; exact Bool.false_ne_true)]; exact Option.some_ne_none _
  | already kept => exact Option.isSome_iff_ne_none.1 kept

/-! ### Arriving -/

/-- Who arrives at the link kept for reading is on it. -/
theorem Arrives.onReader (h : p.Arrives l q) (hr : p.reader = some l) : q.OnReader := by
  cases h with
  | moved => exact ⟨l, rfl, by rw [hr]; exact holds_self l⟩
  | @there cur current same => exact ⟨cur, current.1, by rw [hr, same]; exact holds_self l⟩

theorem Arrives.onWriter (h : p.Arrives l q) (hw : p.writer = some l) (role : l.2.isWriter = true) :
    q.OnWriter := by
  cases h with
  | moved => exact ⟨l, rfl, .inl role⟩
  | @there cur current same => exact ⟨cur, current.1, .inr (by rw [hw, same]; exact holds_self l)⟩

/-- Where the current link is the one kept for reading, all is in order. -/
theorem OnReader.ordered (h : q.OnReader) (hw : ∀ l, q.writer = some l → l.2.isWriter = true) : q.Ordered := by
  obtain ⟨l, hl, hr⟩ := h
  have hsame : ∀ k, q.IsCurrent k → k = l := fun k hk => Option.some.inj (hk.1.symm.trans hl)
  exact ⟨hw, fun k hk _ => .inr (by rw [hsame k hk]; exact hr),
    fun k hk _ => .inr (.inr (by rw [hsame k hk]; exact hr))⟩

theorem Arrives.writer_eq (h : p.Arrives l q) : q.writer = p.writer := by cases h <;> rfl

theorem Arrives.reader_eq (h : p.Arrives l q) : q.reader = p.reader := by cases h <;> rfl

theorem Finds.writer_eq {k : HostLink} (h : p.Finds new k q) : q.writer = some k := by
  cases h with
  | kept slot => exact slot
  | current => rfl
  | opened => rfl

theorem Finds.role {k : HostLink} (h : p.Finds new k q) (hp : p.Ordered) : k.2.isWriter = true := by
  cases h with
  | kept slot => exact hp.writerRole k slot
  | current _ role => exact role
  | opened _ role => exact role

/-- Arriving at the link to the writer that was found keeps all in order. -/
theorem Finds.ordered_arrives {k : HostLink} {t : Seats} (h : p.Finds new k t) (ha : t.Arrives k q)
    (hp : p.Ordered) : q.Ordered := by
  have hw : q.writer = some k := ha.writer_eq.trans h.writer_eq
  have hrole := h.role hp
  have hwriter : ∀ l, q.writer = some l → l.2.isWriter = true := by
    intro l hl
    rw [hw] at hl
    cases hl
    exact hrole
  cases ha with
  | moved =>
    -- a writer is current
    refine ⟨hwriter, ?_, ?_⟩
    · rintro _ ⟨⟨⟩, -⟩ hr
      rw [Host.isReader_eq, hrole] at hr
      cases hr
    · rintro _ ⟨⟨⟩, -⟩ -
      exact .inr (.inl (by rw [hw]; exact holds_self k))
  | @there cur current same =>
    refine ⟨hwriter, ?_, ?_⟩
    · intro l hl hr
      cases h with
      | kept => exact hp.onReader l hl hr
      | current => exact hp.onReader l hl hr
      | opened => exact hp.onReader l hl hr
    · intro l hl _
      obtain rfl : l = cur := Option.some.inj (hl.1.symm.trans current.1)
      exact .inr (.inl (by rw [hw, same]; exact holds_self k))

/-! ### Switching -/

/-- A switch to a reader that succeeds ends on the link kept for reading. -/
theorem TurnsToReader.onReader (h : p.TurnsToReader new cur inTransaction (.ok ()) q)
    (hcur : ∀ l, cur = some l → p.IsCurrent l)
    (hkept : ∀ l, cur = some l → (if l.2.isWriter then p.writer else p.reader) ≠ none) (hp : p.Ordered) :
    q.OnReader := by
  cases h with
  | @stays l usable fits =>
    refine ⟨l, (hcur l usable).1, ?_⟩
    rcases fits with fits | fits
    · exact fits
    · rcases hp.onReader l (hcur l usable) fits with hnone | hr
      · -- the current link was remembered, so something is kept
        have hk := hkept l usable
        rw [Host.isReader_eq, Bool.not_eq_true'] at fits
        rw [if_neg (by rw [fits]; exact Bool.false_ne_true)] at hk
        exact absurd hnone hk
      · exact hr
  | @shares l usable fits =>
    refine ⟨l, (hcur l usable).1, ?_⟩
    rcases fits with fits | ⟨role, hnot⟩
    · exact fits
    · rcases hp.onWriter l (hcur l usable) role with hnone | hw | hr
      · have hk := hkept l usable
        rw [if_pos role] at hk
        exact absurd hnone hk
      · exact hw
      · rw [hnot] at hr; cases hr
  | kept _ slot arrives => exact arrives.onReader slot
  | opened _ _ _ arrives => exact arrives.onReader rfl
  | writer _ _ arrives => exact arrives.onReader rfl

theorem TurnsToReader.writerRole (h : p.TurnsToReader new cur inTransaction r q) (hp : p.Ordered) :
    ∀ l, q.writer = some l → l.2.isWriter = true := by
  cases h with
  | kept _ _ arrives => rw [arrives.writer_eq]; exact hp.writerRole
  | opened _ _ _ arrives => rw [arrives.writer_eq]; exact hp.writerRole
  | @writer l t _ _ finds arrives =>
    intro k hk
    rw [arrives.writer_eq, show ({ t with reader := some l } : Seats).writer = some l from finds.writer_eq] at hk
    cases hk
    exact finds.role hp
  | _ => exact hp.writerRole

/-- A switch to the writer that succeeds ends on a link recorded with a writer. -/
theorem TurnsToWriter.onWriter (h : p.TurnsToWriter new cur inTransaction (.ok ()) q)
    (hcur : ∀ l, cur = some l → p.IsCurrent l) (hp : p.Ordered) : q.OnWriter := by
  cases h with
  | @stays l usable fits =>
    exact ⟨l, (hcur l usable).1, fits.elim .inr fun h => .inl h.1⟩
  | writer _ finds arrives => exact arrives.onWriter finds.writer_eq (finds.role hp)

theorem TurnsToWriter.ordered (h : p.TurnsToWriter new cur inTransaction r q) (hp : p.Ordered) : q.Ordered := by
  cases h with
  | writer _ finds arrives => exact finds.ordered_arrives arrives hp
  | _ => exact hp

/-- A switch that succeeds leaves all in order, and the current link fits the mode. -/
theorem Switches.ordered (h : p.Switches new inTransaction readOnly (.ok ()) q) (hp : p.Ordered) :
    q.Ordered ∧ (readOnly = true → q.OnReader) ∧ (readOnly = false → q.OnWriter) := by
  cases h with
  | @toReader cur p' _ _ usable remembers turns =>
    have hp' := remembers.ordered usable hp
    have hcur : ∀ l, cur = some l → p'.IsCurrent l := fun l hl => remembers.isCurrent (usable l hl)
    have hkept : ∀ l, cur = some l → (if l.2.isWriter then p'.writer else p'.reader) ≠ none := by
      rintro l rfl
      exact remembers.kept
    have hr := turns.onReader hcur hkept hp'
    exact ⟨hr.ordered (turns.writerRole hp'), fun _ => hr, fun h => nomatch h⟩
  | @toWriter cur p' _ _ usable remembers turns =>
    have hp' := remembers.ordered usable hp
    have hcur : ∀ l, cur = some l → p'.IsCurrent l := fun l hl => remembers.isCurrent (usable l hl)
    exact ⟨turns.ordered hp', (fun h => nomatch h), fun _ => turns.onWriter hcur hp'⟩

theorem Releases.ordered (h : p.Releases q) (hp : p.Ordered) : q.Ordered := by
  cases h with
  | waits => exact hp
  | frees sound =>
    have hcur : ∀ l, ({ p with stale := none } : Seats).IsCurrent l → p.IsCurrent l :=
      fun l hl => ⟨hl.1, fun hst => sound ⟨l, hl.1, hst⟩⟩
    exact ⟨hp.writerRole, fun l hl => hp.onReader l (hcur l hl), fun l hl => hp.onWriter l (hcur l hl)⟩

theorem Releases.onReader (h : p.Releases q) (hp : p.OnReader) : q.OnReader := by
  cases h <;> exact hp

theorem Releases.onWriter (h : p.Releases q) (hp : p.OnWriter) : q.OnWriter := by
  cases h <;> exact hp

theorem Rotates.ordered (h : p.Rotates new q) (hr : p.OnReader) (hp : p.Ordered) : q.Ordered ∧ q.OnReader := by
  cases h with
  | stays => exact ⟨hp, hr⟩
  | moves _ _ arrives =>
    have hq := arrives.onReader rfl
    refine ⟨hq.ordered ?_, hq⟩
    rw [arrives.writer_eq]
    exact hp.writerRole

/-- Where nothing is kept all is in order. -/
theorem ordered_of_none (hw : p.writer = none) (hr : p.reader = none) : p.Ordered := by
  refine ⟨fun l hl => ?_, fun _ _ _ => .inl hr, fun _ _ _ => .inl hw⟩
  rw [hw] at hl
  cases hl

end Seats

/-! ## Stands -/

namespace Stand

/-- The links are in order, and the current link fits the mode. In the mode for writing that is so only
once the connection has `settled`: it has been on the writer. -/
structure Ready (s : Stand D) (settled : Prop) : Prop where
  ordered : s.seats.Ordered
  reads : s.splitter.readOnly = true → s.seats.OnReader
  writes : s.splitter.readOnly = false → settled → s.seats.OnWriter

/-- So it is, unless the current link was left behind by a failover. -/
structure Routed (s : Stand D) (settled : Prop) : Prop where
  ordered : s.seats.Ordered
  reads : s.splitter.readOnly = true → ¬ s.seats.IsLost → s.seats.OnReader
  writes : s.splitter.readOnly = false → settled → ¬ s.seats.IsLost → s.seats.OnWriter

variable {s u s' : Stand D} {settled : Prop} {op : Operation}

theorem Ready.routed (h : s.Ready settled) : s.Routed settled :=
  ⟨h.ordered, fun hr _ => h.reads hr, fun hr hs _ => h.writes hr hs⟩

theorem Routed.ready (h : s.Routed settled) (hl : ¬ s.seats.IsLost) : s.Ready settled :=
  ⟨h.ordered, fun hr => h.reads hr hl, fun hr hs => h.writes hr hs hl⟩

theorem Routed.mono {settled' : Prop} (hs : settled' → settled) (h : s.Routed settled) : s.Routed settled' :=
  ⟨h.ordered, h.reads, fun hr hs' => h.writes hr (hs hs')⟩

/-- A connection on a link that a failover left behind is routed as soon as its links are in order. -/
theorem Routed.of_lost (ho : s.seats.Ordered) (hl : s.seats.IsLost) : s.Routed settled :=
  ⟨ho, fun _ hn => absurd hl hn, fun _ _ hn => absurd hl hn⟩

/-- A switch that fails leaves the connection routed as it was. -/
theorem Turns.routed {readOnly : Bool} {e : RouteError} (h : s.Turns readOnly (.error e) s')
    (hs : s.Routed settled) : s'.Routed settled := by
  cases h with
  | fails switches leads =>
    obtain ⟨cur, hcur, hrem⟩ := switches.remembers
    obtain rfl := leads.seats
    have hlost : ¬ s'.seats.IsLost → ¬ s.seats.IsLost := by
      rintro hn ⟨l, hl, hst⟩
      exact hn ⟨l, hrem.current_eq.trans hl, hrem.stale_eq.trans hst⟩
    refine ⟨hrem.ordered hcur hs.ordered, fun hr hn => ?_, fun hr hset hn => ?_⟩
    · rw [leads.readOnly] at hr
      exact hrem.onReader hcur (hs.reads hr (hlost hn))
    · rw [leads.readOnly] at hr
      exact hrem.onWriter hcur (hs.writes hr hset (hlost hn))

/-- A switch that succeeds makes the current link fit the mode that it is for. -/
theorem Turns.ready {readOnly : Bool} (h : s.Turns readOnly (.ok ()) s') (hs : s.seats.Ordered) :
    s'.seats.Ordered ∧ (readOnly = true → s'.seats.OnReader) ∧ (readOnly = false → s'.seats.OnWriter) := by
  cases h with
  | succeeds switches releases leads _ =>
    obtain ⟨ho, hr, hw⟩ := switches.ordered hs
    rw [leads.seats]
    exact ⟨releases.ordered ho, fun h => releases.onReader (hr h), fun h => releases.onWriter (hw h)⟩

theorem Recovers.ready (h : s.Recovers (.ok ()) s') (hs : s.Routed settled) : s'.Ready settled := by
  cases h with
  | sound sound => exact hs.ready sound
  | turns _ turns =>
    obtain ⟨ho, hr, hw⟩ := turns.ready hs.ordered
    have hmode := turns.readOnly_eq
    rw [← hmode] at hr hw
    exact ⟨ho, hr, fun h _ => hw h⟩

theorem Balances.ready (h : s.Balances s') (hs : s.Ready settled) : s'.Ready settled := by
  cases h with
  | stays => exact hs
  | rotates mode _ rotates leads =>
    obtain ⟨ho, hr⟩ := rotates.ordered (hs.reads mode) hs.ordered
    refine ⟨by rw [leads.seats]; exact ho, fun _ => by rw [leads.seats]; exact hr, fun hro => ?_⟩
    rw [leads.readOnly, mode] at hro
    cases hro

theorem Refuses.routed {e : RouteError} (h : s.Refuses op e s') (hs : s.Routed settled) : s'.Routed settled := by
  cases h with
  | mode turns => exact turns.routed hs
  | plain _ recovers =>
    cases recovers with
    | turns _ turns => exact turns.routed hs

/-- Whatever operation is prepared for, the current link fits the mode in which it runs; and who changes
over to the mode for writing has settled. -/
theorem Prepares.ready (h : s.Prepares op s') (hop : op ≠ .close) (hs : s.Routed settled) :
    s'.Ready (settled ∨ op = .setReadOnly false) := by
  cases h with
  | @mode readOnly u turns =>
    obtain ⟨ho, hr, hw⟩ := turns.ready hs.ordered
    exact ⟨ho, hr, fun h _ => hw h⟩
  | close => exact absurd rfl hop
  | plain plain recovers balances =>
    have hb := balances.ready (recovers.ready hs)
    refine ⟨hb.ordered, hb.reads, fun hr hset => hb.writes hr (hset.resolve_right ?_)⟩
    rintro rfl
    cases plain

end Stand

/-! ## Legs -/

section Legs

variable {others : World D → World D → Prop} [Backend D]

namespace Leg

/-- The call asked for the mode for writing, and the switch to it succeeded. -/
def TurnsToWriting (others : World D → World D → Prop) (k : Leg D) : Prop :=
  k.op = .setReadOnly false ∧ ∃ s₁ ans s₂, k.Passes others s₁ ans s₂

/-- How the operation of a call was served: it was not sent at all, it was sent once over the current link,
or it was a close and the current link was closed. The last two are answered with what came of that. -/
inductive Served (others : World D → World D → Prop) (k : Leg D) : Prop
  | unsent (upkeep : k.before.world.Upkeep k.after.world)
      (close : k.op = .close → k.before.closed = true ∨ k.before.service.link? = none)
      (answer : (∃ e, k.answer = .error e) ∨ k.op = .close ∧ k.before.closed = true)
  | sent {s₁ s₂ : Stand D} {ans : Answer} {l : Link} {o : Bool} {es fs : List Entry}
      (passes : k.Passes others s₁ ans s₂) (link : s₁.service.link? = some l)
      (early : Entry.Quiet fs) (late : Entry.Quiet es)
      (journal : k.after.world.journal =
        es ++ .call (.invoke (s₁.world.connOf l) o k.op ans) :: (fs ++ k.before.world.journal))
      (answer : k.answer = k.op.present ans)
  | closed {s₁ s₂ : Stand D} {ans : Answer} {l : Link} (passes : k.Passes others s₁ ans s₂)
      (op : k.op = .close) (link : s₁.service.link? = some l) (upkeep : k.before.world.Upkeep k.after.world)
      (direct : ∀ c, l = .direct c → ∃ r es, Entry.Quiet es ∧
        k.after.world.journal = es ++ .call (.close c r) :: k.before.world.journal ∧ ans = r.map fun _ => .done)
      (answer : k.answer = k.op.present ans)

variable {k : Leg D} {s₁ s₂ : Stand D} {ans : Answer} {settled : Prop} [Bystanders others]

/-- An operation that passes is served. -/
theorem Passes.served (h : k.Passes others s₁ ans s₂) : k.Served others := by
  have ha := h.answer
  have hin := h.prepares.upkeep
  have hout : s₂.toPlace.world.Upkeep k.after.world := Split.leaveFor_upkeep h.left
  have hperforms := h.performs
  generalize hq : s₂.toPlace = q at hperforms hout
  generalize hop : k.op = op at hperforms
  cases hperforms with
  | @missing _ e none calm =>
    refine .unsent (hin.trans hout) (fun hc => .inr ?_) (.inl ⟨e, ha.trans (k.op.present_error e)⟩)
    rw [← h.eq_of_close hc]
    exact none
  | @unsent _ l e _ link open_ calm service world =>
    rw [world] at hout
    exact .unsent (hin.trans hout) (fun hc => absurd (hop.symm.trans hc) open_)
      (.inl ⟨e, ha.trans (k.op.present_error e)⟩)
  | @sent _ l o _ v _ link open_ aside world service =>
    -- nothing is sent before and after
    obtain ⟨fs, hfs, hj₁⟩ := (hin.trans aside.upkeep).quiet
    obtain ⟨es, hes, hj₂⟩ := hout.quiet
    have hj : k.after.world.journal =
        es ++ .call (.invoke (s₁.world.connOf l) o k.op ans) :: (fs ++ k.before.world.journal) := by
      rw [hj₂, world, hop, ← hj₁]; rfl
    exact .sent h link hfs hes hj ha
  | @closed l _ _ link upkeep shuts direct service =>
    refine .closed h hop link ((hin.trans upkeep).trans hout) (fun c hc => ?_) ha
    obtain ⟨r, v, hv, hw, hr⟩ := direct c hc
    obtain ⟨es, hes, hj⟩ := hout.quiet
    refine ⟨r, es, hes, ?_, hr⟩
    rw [hj, hw, ← congrArg (fun s => s.world.journal) (h.eq_of_close hop), ← hv.journal]
    rfl

theorem Taken.served (h : k.Taken others) : k.Served others := by
  rcases h.course with ⟨closed, stays, _, answer⟩ | ⟨_, refuses, _, answer⟩ | ⟨passes⟩
  · have hw : k.after.world = k.before.world := congrArg (fun s => s.world) stays
    refine .unsent (by rw [hw]; exact .refl _) (fun _ => .inl closed) ?_
    rcases answer with answer | ⟨hop, -⟩
    · exact .inl ⟨_, answer⟩
    · exact .inr ⟨hop, closed⟩
  · refine .unsent refuses.upkeep (fun hop => ?_) (.inl ⟨_, answer⟩)
    have hne := refuses.op_beq_close
    rw [hop] at hne
    cases hne
  · exact passes.served

/-- What an operation that passes does to a routed connection: the current link fits the mode while the
operation runs, and the connection stays routed. -/
theorem Passes.routed (h : k.Passes others s₁ ans s₂) (hop : k.op ≠ .close) (hs : k.before.toStand.Routed settled) :
    s₁.Ready (settled ∨ k.TurnsToWriting others) ∧
      k.after.toStand.Routed (settled ∨ k.TurnsToWriting others) := by
  have hready : s₁.Ready (settled ∨ k.TurnsToWriting others) := by
    obtain ⟨ordered, reads, writes⟩ := h.prepares.ready hop hs
    exact ⟨ordered, reads, fun hr hset => writes hr (hset.imp_right And.left)⟩
  refine ⟨hready, ?_⟩
  have hready₂ : s₂.Ready (settled ∨ k.TurnsToWriting others) := by
    obtain ⟨ordered, reads, writes⟩ := hready
    rw [← h.seats_eq] at ordered reads writes
    rw [← h.kept] at reads writes
    exact ⟨ordered, reads, writes⟩
  rcases Split.ends_leaveFor hop h.left with ⟨-, he⟩ | ⟨hf, hl, -⟩
  · rw [← he]; exact hready₂.routed
  · -- the current link was left behind, so nothing is asked of it
    obtain ⟨l, hlink⟩ := h.performs.link_of_isFailover hf
    obtain ⟨cur, hcur, rfl⟩ := Option.map_eq_some_iff.1 hlink
    have hcur₂ : s₂.service.current = some cur := h.performs.current_eq.trans hcur
    refine .of_lost ?_ ?_
    · rw [hl.seats]; exact Seats.ordered_of_none rfl rfl
    · rw [hl.seats]
      exact ⟨cur, hcur₂, by rw [Service.link?, hcur₂]; rfl⟩

theorem Taken.routed (h : k.Taken others) (hc : k.after.closed = false) (hs : k.before.toStand.Routed settled) :
    k.after.toStand.Routed (settled ∨ k.TurnsToWriting others) := by
  rcases h.course with ⟨_, _, closed', _⟩ | ⟨_, refuses, _, _⟩ | ⟨passes⟩
  · rw [closed'] at hc; cases hc
  · by_cases ht : k.TurnsToWriting others
    · -- what came of it may also be what comes of a switch that succeeds
      obtain ⟨hop, s₁, ans, s₂, passes⟩ := ht
      exact (passes.routed (by rw [hop]; exact fun h => nomatch h) hs).2
    · exact (refuses.routed hs).mono fun hset => hset.resolve_right ht
  · exact (passes.routed (passes.op_ne_close hc) hs).2

end Leg

/-- The connection has been on the writer: it was opened there, or a call has switched to it. -/
def Session.Settled (others : World D → World D → Prop) (s : Session D) (ks : List (Leg D)) : Prop :=
  (∃ l, s.service.current = some l ∧ l.2.isWriter = true) ∨ ∃ k ∈ ks, k.TurnsToWriting others

theorem Session.Settled.of_append {s : Session D} {ks : List (Leg D)} {k : Leg D}
    (h : s.Settled others (ks ++ [k])) : s.Settled others ks ∨ k.TurnsToWriting others := by
  rcases h with hopen | ⟨j, hj, ht⟩
  · exact .inl (.inl hopen)
  · rcases List.mem_append.1 hj with hj | hj
    · exact .inl (.inr ⟨j, hj, ht⟩)
    · rw [List.mem_singleton.1 hj] at ht
      exact .inr ht

variable {s s' : Session D} {ks : List (Leg D)} [Bystanders others]

/-- As long as it is open, a connection stays routed. -/
theorem Run.routed_end (ho : s.Opens others) (h : Run others s ks s') (hc : s'.closed = false) :
    s'.toStand.Routed (s.Settled others ks) := by
  induction h with
  | start =>
    obtain ⟨l, hseats, -, -, -, hmode, -⟩ := ho.fresh
    have hordered : s.seats.Ordered := by rw [hseats]; exact Seats.ordered_of_none rfl rfl
    refine ⟨hordered, fun hr => ?_, fun _ hset _ => ?_⟩
    · rw [hmode] at hr; cases hr
    · rcases hset with ⟨cur, hcur, role⟩ | ⟨k, hk, -⟩
      · exact ⟨cur, hcur, .inl role⟩
      · cases hk
  | aside _ _ _ ih =>
    obtain ⟨ordered, reads, writes⟩ := ih hc
    exact ⟨ordered, reads, writes⟩
  | @call ks k run taken ih =>
    exact (taken.routed hc (ih (taken.free hc))).mono Session.Settled.of_append

/-- Every operation is sent at most once, and answered with what came of it. In read-only mode it runs on
the link kept for reading. In the other mode, once the connection has been on the writer, it runs on a
link recorded with a writer. -/
theorem Run.routed_by_mode (ho : s.Opens others) (h : Run others s ks s') :
    (∀ k ∈ ks, k.Served others) ∧
    ∀ (before : List (Leg D)) (k : Leg D) (after : List (Leg D)), ks = before ++ k :: after → k.op ≠ .close →
      ∀ s₁ ans s₂, k.Passes others s₁ ans s₂ →
        (s₁.splitter.readOnly = true → ∃ l, s₁.service.link? = some l ∧ holds s₁.splitter.reader l = true) ∧
        (s₁.splitter.readOnly = false → s.Settled others (before ++ [k]) →
          ∃ l host, s₁.service.link? = some l ∧ host.isWriter = true ∧
            (s₁.service.current = some (l, host) ∨ s₁.splitter.writer = some (l, host))) := by
  constructor
  · intro k hk
    obtain ⟨as, bs, rfl⟩ := List.append_of_mem hk
    exact h.split.2.1.served
  · rintro before k after rfl hop s₁ ans s₂ passes
    have hrouted := Run.routed_end ho h.split.1 passes.free
    obtain ⟨ordered, reads, writes⟩ := (passes.routed hop hrouted).1
    constructor
    · intro hr
      obtain ⟨cur, hcur, hholds⟩ := reads hr
      exact ⟨cur.1, congrArg (Option.map Prod.fst) hcur, hholds⟩
    · intro hr hset
      obtain ⟨cur, hcur, role | hholds⟩ := writes hr hset.of_append
      · exact ⟨cur.1, cur.2, congrArg (Option.map Prod.fst) hcur, role, .inl hcur⟩
      · obtain ⟨host, hw⟩ := holds_iff.1 hholds
        exact ⟨cur.1, host, congrArg (Option.map Prod.fst) hcur, ordered.writerRole _ hw, .inr hw⟩

end Legs

/-- A read between two writes. -/
def Stage.roundTrip : List (Leg Sim.Cluster) × Session Sim.Cluster :=
  (session.calls? [.update "insert into t values (1)", .setReadOnly true, .query "select 1",
    .setReadOnly false, .update "insert into t values (2)"]).get (by decide +kernel)

/-- The call that reads. -/
def Stage.roundTripRead : Leg Sim.Cluster := roundTrip.1.get ⟨2, by decide +kernel⟩

/-- The call that writes again. -/
def Stage.roundTripWrite : Leg Sim.Cluster := roundTrip.1.get ⟨4, by decide +kernel⟩

theorem Run.routed_by_mode_of_stage :
    Stage.session.Opens World.Aside ∧ Run World.Aside Stage.session Stage.roundTrip.1 Stage.roundTrip.2 ∧
      Stage.roundTrip.1.map (fun k => (k.after.splitter.readOnly, k.after.service.current)) =
        [(false, some (.direct 0, Stage.writer)), (true, some (.direct 1, Stage.reader)),
          (true, some (.direct 1, Stage.reader)), (false, some (.direct 0, Stage.writer)),
          (false, some (.direct 0, Stage.writer))] ∧
      (∀ k ∈ Stage.roundTrip.1, k.Served World.Aside) ∧
      (∃ s₁ ans s₂ l, Stage.roundTripRead.Passes World.Aside s₁ ans s₂ ∧ s₁.splitter.readOnly = true ∧
        s₁.service.link? = some l ∧ holds s₁.splitter.reader l = true) ∧
      ∃ s₁ ans s₂ l host, Stage.roundTripWrite.Passes World.Aside s₁ ans s₂ ∧ s₁.splitter.readOnly = false ∧
        s₁.service.link? = some l ∧ host.isWriter = true ∧
        (s₁.service.current = some (l, host) ∨ s₁.splitter.writer = some (l, host)) := by
  have h : Run World.Aside Stage.session Stage.roundTrip.1 Stage.roundTrip.2 :=
    Session.run_of_get _
  obtain ⟨hserved, hroutes⟩ := Run.routed_by_mode Stage.opens_session h
  refine ⟨Stage.opens_session, h, by decide +kernel, hserved, ?_, ?_⟩
  · have hsplit : Stage.roundTrip.1 = Stage.roundTrip.1.take 2 ++ Stage.roundTripRead :: Stage.roundTrip.1.drop 3 := by
      rw [Stage.roundTripRead, List.get_eq_getElem, List.getElem_cons_drop, List.take_append_drop]
    have hop : Stage.roundTripRead.op ≠ .close := by decide +kernel
    obtain ⟨s₁, s₂, ans, passes, hstays⟩ :=
      (hsplit ▸ h : Run World.Aside _ _ _).split.2.1.passes_of_ok (by decide +kernel) hop (by decide +kernel)
    have hmode : s₁.splitter.readOnly = true := by rw [← hstays]; decide +kernel
    obtain ⟨l, hlink, hholds⟩ := (hroutes _ _ _ hsplit hop _ _ _ passes).1 hmode
    exact ⟨s₁, ans, s₂, l, passes, hmode, hlink, hholds⟩
  · have hsplit : Stage.roundTrip.1 = Stage.roundTrip.1.take 4 ++ Stage.roundTripWrite :: Stage.roundTrip.1.drop 5 := by
      rw [Stage.roundTripWrite, List.get_eq_getElem, List.getElem_cons_drop, List.take_append_drop]
    have hop : Stage.roundTripWrite.op ≠ .close := by decide +kernel
    obtain ⟨s₁, s₂, ans, passes, hstays⟩ :=
      (hsplit ▸ h : Run World.Aside _ _ _).split.2.1.passes_of_ok (by decide +kernel) hop (by decide +kernel)
    have hmode : s₁.splitter.readOnly = false := by rw [← hstays]; decide +kernel
    obtain ⟨l, host, hlink, hrole, hwhere⟩ := (hroutes _ _ _ hsplit hop _ _ _ passes).2 hmode
      (.inl ⟨(.direct 0, Stage.writer), by decide +kernel, by decide +kernel⟩)
    exact ⟨s₁, ans, s₂, l, host, passes, hmode, hlink, hrole, hwhere⟩

end ReplicaRouter
