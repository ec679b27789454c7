import ReplicaRouter.Proofs.Attempts
import ReplicaRouter.Proofs.Bearing
/-
What a switch does before it decides anything: the usable current link is kept under its host's role, unless
an open link is kept there. That takes no time and asks nothing of the driver.
Main statements: `Split.ends_rememberCurrent_of_usable`, and what the current link counts as afterwards, told from
before (`Stand.isOnReader_remembered`, `Stand.isOnWriter_remembered`).
-/
namespace ReplicaRouter

variable {D : Type}

/-! ## Books on handles -/

namespace World

variable [Backend D] {u v w : World D} {l : Link} {h : HandleId}

/-- What becomes of a handle does not matter to its connection. -/
theorem isClosed_conn_modifyHandle {f : Handle → Handle} (hc : ∀ e, (f e).conn = e.conn)
    (h₁ : w.isClosed (w.handle h).conn = true) :
    (w.modifyHandle h f).isClosed ((w.modifyHandle h f).handle h).conn = true := by
  show w.isClosed _ = true
  rcases handle_modifyHandle_or h f w h with he | ⟨-, he⟩
  · rw [he]; exact h₁
  · rw [he, hc]; exact h₁

theorem isLinkClosed_modifyHandle {f : Handle → Handle} (hc : ∀ e, (f e).conn = e.conn)
    (hr : ∀ e, (f e).returned = e.returned) : (w.modifyHandle h f).isLinkClosed l = w.isLinkClosed l := by
  cases l with
  | direct c => rfl
  | pooled i =>
    show (((w.modifyHandle h f).handle i).returned || w.isClosed ((w.modifyHandle h f).handle i).conn) = _
    rcases handle_modifyHandle_or h f w i with he | ⟨rfl, he⟩
    · rw [he]; rfl
    · rw [he, hc, hr]; rfl

/-- Between two worlds only the books were kept: nothing was asked of the driver, and no own link that is open
was touched. -/
structure Books (w w' : World D) : Prop extends HandlesStay w w' where
  journal : ∃ es, (∀ e ∈ es, e.isCall = false) ∧ w'.journal = es ++ w.journal
  backend : w'.backend = w.backend
  hosts : w'.hosts = w.hosts
  owns : ∀ l, w.isLinkClosed l = false → w.Owns l → w'.Owns l

/-- An own link is closed just if its connection is. -/
theorem Owns.isLinkClosed_eq (h : w.Owns l) : w.isLinkClosed l = w.isClosed (w.connOf l) := by
  cases l with
  | direct c => rfl
  | pooled i =>
    show ((w.handle i).returned || _) = _
    rw [Bool.eq_false_iff.2 h.unshut, Bool.false_or]
    rfl

theorem Books.isClosed_eq (h : w.Books v) (c : ConnId) : v.isClosed c = w.isClosed c := by
  rw [isClosed, h.backend]
  rfl

omit [Backend D] in
theorem connOf_eq_of_grows (h : w.Grows v) (hl : w.Knows l) : v.connOf l = w.connOf l := by
  cases l with
  | direct c => rfl
  | pooled i => exact h.conn i hl

omit [Backend D] in
/-- What is one's own stays so while nothing but what is no call is written down. -/
theorem Owns.noted {es : List Entry} (he : ∀ e ∈ es, e.isCall = false) (h : w.Owns l) :
    ({ w with journal := es ++ w.journal } : World D).Owns l := by
  have hn : w.Noted { w with journal := es ++ w.journal } := ⟨es, he, rfl⟩
  refine ⟨h.known.mono hn.upkeep.grows, fun hs => h.unshut ?_, h.apart⟩
  cases l with
  | pooled i => exact hs
  | direct c =>
    obtain ⟨r, hr⟩ := hs
    rcases List.mem_append.1 hr with hr | hr
    · cases he _ hr
    · exact ⟨r, hr⟩

theorem Books.grows (h : w.Books v) : w.Grows v := by
  obtain ⟨es, -, hj⟩ := h.journal
  exact ⟨h.toHandlesStay, es, hj⟩

/-- What is open and one's own stays open. -/
theorem Books.isLinkClosed_eq (h : w.Books v) (hopen : w.isLinkClosed l = false) (ho : w.Owns l) :
    v.isLinkClosed l = false := by
  rw [(h.owns l hopen ho).isLinkClosed_eq, h.isClosed_eq, connOf_eq_of_grows h.grows ho.known,
    ← ho.isLinkClosed_eq]
  exact hopen

theorem Noted.books (h : w.Noted v) : w.Books v := by
  obtain ⟨es, he, rfl⟩ := h
  exact ⟨.of_eq rfl, ⟨es, he, rfl⟩, rfl, rfl, fun _ _ ho => ho.noted he⟩

theorem Books.silent (h : w.Books v) : w.Silent v := h.journal

theorem Books.upkeep (h : w.Books v) : w.Upkeep v := by
  obtain ⟨es, he, hj⟩ := h.journal
  have hn : w.Noted { w with journal := es ++ w.journal } := ⟨es, he, rfl⟩
  obtain ⟨fs, hquiet, hfs⟩ := hn.upkeep.quiet
  exact ⟨h.toHandlesStay, fs, hquiet, hj.trans hfs⟩

theorem Books.refl (w : World D) : w.Books w := (Noted.refl w).books

theorem Books.trans (h1 : u.Books v) (h2 : v.Books w) : u.Books w := by
  obtain ⟨es, he, hes⟩ := h1.journal
  obtain ⟨fs, hf, hfs⟩ := h2.journal
  refine ⟨h1.toHandlesStay.trans h2.toHandlesStay, ⟨fs ++ es, fun e hm => ?_, by rw [hfs, hes, List.append_assoc]⟩,
    h2.backend.trans h1.backend, h2.hosts.trans h1.hosts, fun l hopen ho => ?_⟩
  · exact (List.mem_append.1 hm).elim (hf e) (he e)
  · exact h2.owns l (h1.isLinkClosed_eq hopen ho) (h1.owns l hopen ho)

/-- Changes of pools that give them no connection belong to the books. -/
theorem Books.modifyPool {id : PoolId} {f : Pool → Pool} (hf : (f (w.pool id)).idle ⊆ (w.pool id).idle) :
    w.Books (w.modifyPool id f) :=
  ⟨.of_eq rfl, ⟨[], nofun, rfl⟩, rfl, rfl, fun _ _ ho => ⟨ho.known, ho.unshut, fun c hc j hj =>
    ho.apart c hc j (idle_modifyPool hf j hj)⟩⟩

/-- So do changes of handles, if those that they give back are closed. -/
theorem Books.modifyHandle {f : Handle → Handle} (hc : ∀ e, (f e).conn = e.conn)
    (hr : ∀ e, e.returned = true → (f e).returned = true)
    (hclosed : (f (w.handle h)).returned = (w.handle h).returned ∨ w.isLinkClosed (.pooled h) = true) :
    w.Books (w.modifyHandle h f) := by
  have ha : w.Aside (w.modifyHandle h f) := .modifyHandle hc hr w
  refine ⟨ha.toHandlesStay, ⟨[], nofun, rfl⟩, rfl, rfl, fun l hopen ho =>
    ⟨ho.known.mono ha.upkeep.grows, ?_, ho.apart⟩⟩
  cases l with
  | direct c => exact ho.unshut
  | pooled i =>
    refine fun hs => ho.unshut ?_
    have hs : ((w.modifyHandle h f).handle i).returned = true := hs
    show (w.handle i).returned = true
    rcases handle_modifyHandle_or h f w i with he | ⟨rfl, he⟩
    · rw [← he]; exact hs
    · rcases hclosed with hsame | hclosed
      · rw [← hsame, ← he]; exact hs
      · rw [hclosed] at hopen; cases hopen

end World

variable {others : World D → World D → Prop} {now later : Instant} {w w' : World D}

/-! ## Links that are held and let go -/

namespace Link

variable [Backend D] {l : Link}

open World

theorem ends_hold {a : Unit} (hx : Routine.Ends others l.hold now w a later w') :
    w.Books w' ∧ ∀ k, w'.isLinkClosed k = w.isLinkClosed k := by
  cases l with
  | direct c =>
    obtain ⟨-, -, rfl⟩ := Routine.ends_pure.1 hx
    exact ⟨.refl _, fun _ => rfl⟩
  | pooled h =>
    obtain ⟨-, -, rfl⟩ := Routine.ends_pure.1 hx
    exact ⟨.modifyHandle (fun _ => rfl) (fun _ hr => hr) (.inl rfl), fun k =>
      isLinkClosed_modifyHandle (fun _ => rfl) fun _ => rfl⟩

theorem books_dropPermit {h : HandleId} {a : Unit} (hx : Routine.Ends others (dropPermit h) now w a later w') :
    w.Books w' := by
  have hx := Routine.ends_get_bind.1 hx
  dsimp only at hx
  split at hx
  · have hx := Routine.ends_modify_bind.1 hx
    obtain ⟨-, -, rfl⟩ := Routine.ends_pure.1 hx
    have hb : w.Books (w.modifyHandle h fun e => { e with hasPermit := false }) :=
      .modifyHandle (fun _ => rfl) (fun _ hr => hr) (.inl rfl)
    exact hb.trans (.modifyPool (List.Subset.refl _))
  · obtain ⟨-, -, rfl⟩ := Routine.ends_pure.1 hx
    exact .refl _

/-- A handle whose connection is closed goes back, and the connection goes nowhere. -/
theorem books_abandon {h : HandleId} {a : Unit} (hclosed : w.isLinkClosed (.pooled h) = true)
    (hx : Routine.Ends others (abandon h) now w a later w') : w.Books w' := by
  obtain ⟨first, t₁, w₁, h1, hx⟩ := Routine.ends_bind.1 hx
  obtain ⟨rfl, rfl, rfl⟩ := ends_markReturned h1
  have hb : w.Books (w.modifyHandle h fun e => { e with returned := true }) :=
    .modifyHandle (fun _ => rfl) (fun _ _ => rfl) (.inr hclosed)
  split at hx
  · next hfirst =>
    rw [Bool.not_eq_true'] at hfirst
    rw [isLinkClosed, hfirst, Bool.false_or] at hclosed
    obtain ⟨r, t₂, w₂, h2, hx⟩ := Routine.ends_bind.1 hx
    have h2 := Routine.ends_modify_bind.1 (Routine.ends_get_bind.1 h2)
    rw [if_pos (isClosed_conn_modifyHandle (f := fun e => { e with returned := true }) (fun _ => rfl) hclosed)] at h2
    obtain ⟨rfl, rfl, rfl⟩ := Routine.ends_pure.1 h2
    exact (hb.trans (.modifyPool (List.Subset.refl _))).trans (books_dropPermit hx)
  · obtain ⟨-, -, rfl⟩ := Routine.ends_pure.1 hx
    exact hb

/-- Letting go of a closed link belongs to the books. -/
theorem books_letGo {a : Unit} (hclosed : w.isLinkClosed l = true)
    (hx : Routine.Ends others l.letGo now w a later w') : w.Books w' := by
  cases l with
  | direct c =>
    obtain ⟨-, -, rfl⟩ := Routine.ends_pure.1 hx
    exact .refl _
  | pooled h =>
    have hx := Routine.ends_get_bind.1 (Routine.ends_modify_bind.1 hx)
    have hb : w.Books (w.modifyHandle h fun e => { e with holders := e.holders - 1 }) :=
      .modifyHandle (fun _ => rfl) (fun _ hr => hr) (.inl rfl)
    split at hx
    · rw [← isLinkClosed_modifyHandle (f := fun e => { e with holders := e.holders - 1 }) (fun _ => rfl)
        fun _ => rfl] at hclosed
      exact hb.trans (books_abandon hclosed hx)
    · obtain ⟨-, -, rfl⟩ := Routine.ends_pure.1 hx
      exact hb

end Link

/-! ## Remembering -/

namespace Stand

open Splitter

variable [Backend D] {s u s' : Stand D} {l : HostLink}

/-- The current link, if it is open and was not left behind. -/
def usable (s : Stand D) : Option HostLink := s.splitter.usable s.service s.world

/-- What is kept for a role after the usable current link was remembered. -/
def remember (s : Stand D) (fits : Host → Bool) (slot : Option HostLink) : Option HostLink :=
  if (openSlot s.world slot).isNone then (s.usable.filter fun l => fits l.2).or slot else slot

/-- The splitter once the usable current link is remembered. -/
def remembered (s : Stand D) : Splitter :=
  { s.splitter with
    writer := s.remember Host.isWriter s.splitter.writer
    reader := s.remember Host.isReader s.splitter.reader }

/-- The usable current link is remembered, and else only the books are kept. -/
structure Remembers (s u : Stand D) : Prop where
  service : u.service = s.service
  splitter : u.splitter = s.remembered
  books : s.world.Books u.world

theorem usable_eq_some (h : s.usable = some l) :
    s.service.current = some l ∧ s.world.isLinkClosed l.1 = false ∧ s.splitter.stale ≠ some l.1 := by
  obtain ⟨hc, hf⟩ := Option.filter_eq_some_iff.1 h
  simp only [Bool.and_eq_true, Bool.not_eq_true', isStale, beq_eq_false_iff_ne] at hf
  exact ⟨hc, hf⟩

theorem isCurrent_of_usable (h : s.usable = some l) : s.seats.IsCurrent l :=
  ⟨(usable_eq_some h).1, (usable_eq_some h).2.2⟩

theorem Remembers.seats_eq (h : s.Remembers u) :
    u.seats = ⟨s.service.current, s.remember Host.isWriter s.splitter.writer,
      s.remember Host.isReader s.splitter.reader, s.splitter.stale⟩ := by
  rw [seats, h.service, h.splitter]
  rfl

/-- What is kept for a role stays, or no open link was kept and it is the current link now. -/
theorem remember_eq (s : Stand D) (fits : Host → Bool) (slot : Option HostLink) :
    s.remember fits slot = slot ∨ openSlot s.world slot = none ∧ ∃ l, s.usable = some l ∧
      fits l.2 = true ∧ s.remember fits slot = some l := by
  unfold remember
  split
  · next hn =>
    cases hu : s.usable.filter fun l => fits l.2 with
    | none => exact .inl rfl
    | some l =>
      obtain ⟨hl, hf⟩ := Option.filter_eq_some_iff.1 hu
      exact .inr ⟨Option.isNone_iff_eq_none.1 hn, l, hl, hf, rfl⟩
  · exact .inl rfl

theorem remember_of_none {fits : Host → Bool} (h : s.usable = none) (slot : Option HostLink) :
    s.remember fits slot = slot := by
  simp [remember, h]

theorem remember_of_not_fits {fits : Host → Bool} (h : s.usable = some l) (hf : fits l.2 = false)
    (slot : Option HostLink) : s.remember fits slot = slot := by
  simp [remember, h, Option.filter, hf]

theorem remember_of_fits {fits : Host → Bool} (h : s.usable = some l) (hf : fits l.2 = true)
    (slot : Option HostLink) :
    s.remember fits slot = if (openSlot s.world slot).isNone then some l else slot := by
  simp [remember, h, Option.filter, hf]

/-! ### What the current link counts as -/

/-- Whether a link counts as one to the writer once the usable current link is remembered. -/
def isOnWriter (s : Stand D) (l : HostLink) : Bool :=
  s.splitter.isOnWriter l || l.2.isWriter && (openSlot s.world s.splitter.writer).isNone

/-- Whether a link does for a mode: it counts as one to the role that is asked for, or it leads to the only
host there is. -/
def serves (s : Stand D) (readOnly : Bool) (l : HostLink) : Bool :=
  if readOnly then s.splitter.isOnReader l || Topology.isSingle s.world.hosts.topology && s.isOnWriter l
  else s.isOnWriter l

/-- A mode asks for another link: there is no current one, or it is closed, or it was left behind by a
failover, or it does not do. -/
def Stuck (s : Stand D) (readOnly : Bool) : Prop :=
  ∀ l, s.service.current = some l →
    s.world.isLinkClosed l.1 = true ∨ s.splitter.stale = some l.1 ∨ s.serves readOnly l = false

theorem any_usable_serves {readOnly : Bool} :
    s.usable.any (s.serves readOnly) = false ↔ s.Stuck readOnly := by
  unfold usable Splitter.usable Stuck
  cases s.service.current with
  | none => simp
  | some l =>
    cases hc : s.world.isLinkClosed l.1 <;> cases hs : s.splitter.isStale l.1 <;>
      simp_all [Option.filter, isStale]

theorem isOnReader_remembered (h : s.usable = some l) : s.remembered.isOnReader l = s.splitter.isOnReader l := by
  unfold Splitter.isOnReader
  cases hrole : l.2.isReader with
  | true => simp
  | false => simp only [remembered, remember_of_not_fits h hrole]

theorem isOnWriter_remembered (h : s.usable = some l) : s.remembered.isOnWriter l = s.isOnWriter l := by
  unfold isOnWriter Splitter.isOnWriter
  cases hrole : l.2.isWriter with
  | false => simp only [remembered, remember_of_not_fits h hrole, Bool.false_and, Bool.or_false]
  | true =>
    have hreader : l.2.isReader = false := by rw [Host.isReader_eq, hrole]; rfl
    simp only [remembered, remember_of_not_fits h hreader, remember_of_fits h hrole, Bool.true_and]
    cases (openSlot s.world s.splitter.writer).isNone with
    | false => simp
    | true => simp [holds]

theorem any_usable_isOnReader : s.usable.any s.remembered.isOnReader = s.usable.any s.splitter.isOnReader := by
  cases h : s.usable with
  | none => rfl
  | some l => exact isOnReader_remembered h

theorem any_usable_isOnWriter : s.usable.any s.remembered.isOnWriter = s.usable.any s.isOnWriter := by
  cases h : s.usable with
  | none => rfl
  | some l => exact isOnWriter_remembered h

theorem any_usable_serves_true : s.usable.any (s.serves true) =
    (s.usable.any s.splitter.isOnReader || Topology.isSingle s.world.hosts.topology && s.usable.any s.isOnWriter) := by
  cases s.usable with
  | none => simp
  | some l => rfl

end Stand

namespace Split

open Splitter

variable [Backend D] {s u s' : Stand D} {a : Unit}

/-- Holding a link belongs to the books. -/
theorem ends_hold {slot : Option HostLink} (h : Split.Ends others (hold slot) s a s') :
    s'.service = s.service ∧ s'.splitter = s.splitter ∧ s.world.Books s'.world ∧
      ∀ k, s'.world.isLinkClosed k = s.world.isLinkClosed k := by
  cases slot with
  | none =>
    obtain ⟨-, rfl⟩ := ends_pure.1 h
    exact ⟨rfl, rfl, .refl _, fun _ => rfl⟩
  | some l =>
    obtain ⟨h, hv, hs⟩ := ends_world.1 h
    exact ⟨hv, hs, Link.ends_hold h⟩

/-- So does letting go of a closed link. -/
theorem ends_letGo {slot : Option HostLink} (h : Split.Ends others (letGo slot) s a s')
    (hn : openSlot s.world slot = none) :
    s'.service = s.service ∧ s'.splitter = s.splitter ∧ s.world.Books s'.world := by
  cases slot with
  | none =>
    obtain ⟨-, rfl⟩ := ends_pure.1 h
    exact ⟨rfl, rfl, .refl _⟩
  | some l =>
    obtain ⟨h, hv, hs⟩ := ends_world.1 h
    exact ⟨hv, hs, Link.books_letGo (by simpa [openSlot, Option.filter_eq_none_iff] using hn) h⟩

/-- Another link is kept where no open one was. -/
theorem ends_swap_of_closed {slot : Option HostLink} {read : Splitter → Option HostLink} {put : Splitter → Splitter}
    (hn : openSlot s.world (read s.splitter) = none) (h : Split.Ends others (swap slot read put) s a s') :
    s'.service = s.service ∧ s'.splitter = put s.splitter ∧ s.world.Books s'.world := by
  obtain ⟨u, h1, -, h⟩ := ends_swap h
  obtain ⟨hv1, -, hb1, hk1⟩ := ends_hold h1
  have hnu : openSlot u.world (read s.splitter) = none := by
    rw [← hn]
    simp only [openSlot, hk1]
  obtain ⟨hv, hs, hb⟩ := ends_letGo h hnu
  exact ⟨hv.trans hv1, hs, hb1.trans hb⟩

theorem ends_setWriter_of_closed {slot : Option HostLink} (hn : openSlot s.world s.splitter.writer = none)
    (h : Split.Ends others (setWriter slot) s a s') :
    s'.service = s.service ∧ s'.splitter = { s.splitter with writer := slot } ∧ s.world.Books s'.world := by
  rw [setWriter_eq] at h
  exact ends_swap_of_closed hn h

theorem ends_setReader_of_closed {slot : Option HostLink} (hn : openSlot s.world s.splitter.reader = none)
    (h : Split.Ends others (setReader slot) s a s') :
    s'.service = s.service ∧ s'.splitter = { s.splitter with reader := slot } ∧ s.world.Books s'.world := by
  rw [setReader_eq] at h
  exact ends_swap_of_closed hn h

theorem ends_usable {cur : Option HostLink} (h : Split.Ends others usable? s cur s') : cur = s.usable ∧ s = s' := by
  replace h := after_get h
  replace h := after_service h
  replace h := after_world h
  obtain ⟨rfl, rfl⟩ := ends_pure.1 h
  exact ⟨rfl, rfl⟩

theorem after_usable {β : Type} {b : β} {f : Option HostLink → Split D β}
    (h : Split.Ends others (usable? >>= f) s b s') : Split.Ends others (f s.usable) s b s' :=
  after_look ends_usable h

/-- The usable current link is remembered under its host's role. -/
theorem ends_rememberCurrent_of_usable {l : HostLink} (hl : s.usable = some l)
    (h : Split.Ends others (rememberCurrent l) s a s') : s.Remembers s' := by
  replace h := after_get h
  replace h := after_world h
  -- the role of the host says which slot takes the link, if that slot has no open one
  cases hrole : l.2.isWriter with
  | true =>
    have hreader : l.2.isReader = false := by rw [Host.isReader_eq, hrole]; rfl
    rw [if_pos hrole] at h
    split at h
    · next hn =>
      obtain ⟨hv, hs, hb⟩ := ends_setWriter_of_closed (Option.isNone_iff_eq_none.1 hn) h
      refine ⟨hv, ?_, hb⟩
      rw [hs, Stand.remembered, Stand.remember_of_fits hl hrole, if_pos hn, Stand.remember_of_not_fits hl hreader]
    · next hn =>
      obtain ⟨-, rfl⟩ := ends_pure.1 h
      refine ⟨rfl, ?_, .refl _⟩
      rw [Stand.remembered, Stand.remember_of_fits hl hrole, if_neg hn, Stand.remember_of_not_fits hl hreader]
  | false =>
    have hreader : l.2.isReader = true := by rw [Host.isReader_eq, hrole]; rfl
    rw [if_neg (by rw [hrole]; exact Bool.false_ne_true)] at h
    split at h
    · next hn =>
      obtain ⟨hv, hs, hb⟩ := ends_setReader_of_closed (Option.isNone_iff_eq_none.1 hn) h
      refine ⟨hv, ?_, hb⟩
      rw [hs, Stand.remembered, Stand.remember_of_not_fits hl hrole, Stand.remember_of_fits hl hreader, if_pos hn]
    · next hn =>
      obtain ⟨-, rfl⟩ := ends_pure.1 h
      refine ⟨rfl, ?_, .refl _⟩
      rw [Stand.remembered, Stand.remember_of_not_fits hl hrole, Stand.remember_of_fits hl hreader, if_neg hn]

end Split

end ReplicaRouter
