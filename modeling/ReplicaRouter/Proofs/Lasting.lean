import ReplicaRouter.Proofs.Patience
import ReplicaRouter.Sim.Cluster
/-
Connections that are closed for good. A driver is lasting if a connection that is closed stays closed, and
obedient if besides a connection that it is told to close is closed, even where it reports an error.
Main statements: nothing that is done over links opens a connection, and over an obedient driver closing one
closes it (`Link.meets_closeQuietly_closes`); without pools a link that is provided is the only connection that
was opened (`Providers.ends_connect_opened`); no call opens a closed connection again (`World.patient_lapses`).
-/
namespace ReplicaRouter

variable {D α : Type}

/-! ## Lasting drivers -/

/-- Connections that there are stay, and what is closed stays closed. -/
structure Backend.Later [Backend D] (has : ConnId → D → Prop) (d d' : D) : Prop where
  has : ∀ c, has c d → has c d'
  closed : ∀ c, Backend.isClosed c d = true → Backend.isClosed c d' = true

/-- A driver that opens no closed connection again. -/
class Backend.Lasting (D : Type) [Backend D] where
  /-- Whether there is such a connection, open or closed. -/
  has : ConnId → D → Prop
  connect (protocol : String) (host : Host) (props : Properties) (d : D) :
    Routine.Meets (Later has) (Backend.connect protocol host props) d (Later has d) fun r d' =>
      Later has d d' ∧ ∀ c, r = .ok c → has c d'
  invoke (c : ConnId) (op : Operation) : Routine.Keeps (Later has) (Later has) (Backend.invoke c op)
  isValid (c : ConnId) (limit : Duration) : Routine.Keeps (Later has) (Later has) (Backend.isValid c limit)
  close (c : ConnId) : Routine.Keeps (Later has) (Later has) (Backend.close c)

/-- A lasting driver that closes what it is told to close. -/
class Backend.Obedient (D : Type) [Backend D] extends Backend.Lasting D where
  closes (c : ConnId) (d : D) : Routine.Meets (Later has) (Backend.close c) d (Later has d) fun _ d' =>
    has c d → Backend.isClosed c d' = true

open Backend.Lasting (has)

theorem Backend.Later.refl [Backend D] {has : ConnId → D → Prop} (d : D) : Backend.Later has d d :=
  ⟨fun _ h => h, fun _ h => h⟩

theorem Backend.Later.trans [Backend D] {has : ConnId → D → Prop} {d₁ d₂ d₃ : D} (h1 : Backend.Later has d₁ d₂)
    (h2 : Backend.Later has d₂ d₃) : Backend.Later has d₁ d₃ :=
  ⟨fun c hc => h2.has c (h1.has c hc), fun c hc => h2.closed c (h1.closed c hc)⟩

instance [Backend D] (has : ConnId → D → Prop) : Frame (Backend.Later has) (Backend.Later has) :=
  ⟨.refl, .trans, id⟩

namespace World

variable [Backend D] [Backend.Lasting D] {u v w w' : World D} {c : ConnId}

/-- Between two worlds no connection was opened, neither a new one nor a closed one. -/
structure Steady (w w' : World D) : Prop where
  opened : w'.opened = w.opened
  later : Backend.Later has w.backend w'.backend

theorem Steady.refl (w : World D) : w.Steady w := ⟨rfl, .refl _⟩

theorem Steady.trans (h1 : u.Steady v) (h2 : v.Steady w) : u.Steady w :=
  ⟨h2.opened.trans h1.opened, h1.later.trans h2.later⟩

theorem Steady.of_eq (hb : w'.backend = w.backend) (hj : w'.journal = w.journal) : w.Steady w' :=
  ⟨congrArg (List.filterMap Entry.opened?) hj, by rw [hb]; exact .refl _⟩

theorem Steady.note {e : Entry} (he : e.opened? = none) (w : World D) : w.Steady (Journaled.note e w) := by
  refine ⟨?_, .refl _⟩
  show (e :: w.journal).filterMap Entry.opened? = _
  rw [List.filterMap_cons, he]
  rfl

theorem Noted.steady (h : w.Noted w') : w.Steady w' := by
  obtain ⟨es, he, rfl⟩ := h
  refine ⟨?_, .refl _⟩
  show (es ++ w.journal).filterMap Entry.opened? = _
  have hnone : es.filterMap Entry.opened? = [] := by
    refine List.filterMap_eq_nil_iff.2 fun e hm => ?_
    have hcall := he e hm
    cases e with
    | call => cases hcall
    | _ => rfl
  rw [List.filterMap_append, hnone]
  rfl

/-- The database has every connection that was opened. -/
def Accounted (w : World D) : Prop := ∀ c ∈ w.opened, has c w.backend

theorem Steady.accounted (h : w.Steady w') (hw : w.Accounted) : w'.Accounted := fun c hc =>
  h.later.has c (hw c (h.opened ▸ hc))

end World

/-- Others leave closed connections closed. -/
class Lasting (others : World D → World D → Prop) [Backend D] [Backend.Lasting D] : Prop extends
    Bystanders others where
  later : ∀ {w v}, others w v → Backend.Later has w.backend v.backend

/-- What others may do who leave closed connections closed. -/
structure World.Lasts [Backend D] [Backend.Lasting D] (w v : World D) : Prop extends Aside w v where
  later : Backend.Later has w.backend v.backend

instance [Backend D] [Backend.Lasting D] : Lasting (World.Lasts (D := D)) where
  aside h := h.toAside
  later h := h.later

instance [Backend D] [Backend.Lasting D] : Std.Refl (World.Lasts (D := D)) := ⟨fun w => ⟨.refl w, .refl _⟩⟩

namespace World

variable {others : World D → World D → Prop} [Backend D] [Backend.Lasting D] {now later : Instant} {w w' : World D}
  {c : ConnId}

/-- Keeping the books and writing things down opens no connection. -/
theorem lenient_steady : Lenient (Steady (D := D)) where
  edit backend journal := .of_eq backend journal
  note {e} uncalled w := .note (by cases e with | call => cases uncalled | _ => rfl) w

variable [Lasting others]

instance : Frame others (Steady (D := D)) where
  refl := .refl
  trans := .trans
  bears h := ⟨congrArg (List.filterMap Entry.opened?) (Bystanders.aside h).journal, Lasting.later h⟩

/-! ## Calls to the driver -/

/-- A call to the driver does what it would do alone, and is written down. -/
theorem meets_lastingCall {x : Routine D α} (entry : α → Entry) {Q : α → D → Prop}
    (hx : Routine.Meets (Backend.Later has) x w.backend (Backend.Later has w.backend) Q) :
    Routine.Meets others (do let a ← x.focus backendPart; Routine.note (entry a); return a) w w.Steady
      fun a w' => Q a w'.backend ∧ w'.opened = (entry a).opened?.toList ++ w.opened := by
  have haside : Routine.Keeps others Aside (x.focus (backendPart (D := D))) :=
    Routine.keeps_focus x fun w v => .of_eq rfl rfl
  have hfocus : Routine.Meets others (x.focus backendPart) w (fun v => Backend.Later has w.backend v.backend)
      fun a v => Q a v.backend := fun t =>
    (hx t).focus (p := backendPart) (fun _ _ => rfl) (fun h => Lasting.later h) w
  have hboth : Routine.Meets others (x.focus backendPart) w w.Steady fun a v => w.Aside v ∧ Q a v.backend :=
    fun t => ((haside w t).and (hfocus t)).mono
      (fun v hv => ⟨congrArg (List.filterMap Entry.opened?) hv.1.journal, hv.2⟩) fun _ _ h => h
  refine Routine.meets_bind (hboth.imp fun a v ⟨hv, hq⟩ _ => ⟨hq, ?_⟩)
  show (entry a :: v.journal).filterMap Entry.opened? = _
  rw [hv.journal, List.filterMap_cons]
  cases (entry a).opened? <;> rfl

theorem steady_send (c : ConnId) (op : Operation) : Routine.Keeps others Steady (send (D := D) c op) :=
  Routine.keeps_bind Routine.keeps_get fun w w₁ =>
    (meets_lastingCall (fun r => .call (.invoke c (!w.isClosed c) op r)) (Backend.Lasting.invoke c op w₁.backend)).imp
      fun _ _ ⟨hl, ho⟩ => ⟨ho, hl⟩

theorem steady_hangUp (c : ConnId) : Routine.Keeps others Steady (hangUp (D := D) c) := fun w =>
  (meets_lastingCall (fun r => .call (.close c r)) (Backend.Lasting.close c w.backend)).imp
    fun _ _ ⟨hl, ho⟩ => ⟨ho, hl⟩

/-- An obedient driver closes the connection that is closed. -/
theorem meets_hangUp_closes {D : Type} {others : World D → World D → Prop} [Backend D] [Backend.Obedient D]
    [Lasting others] (c : ConnId) (w : World D) :
    Routine.Meets others (hangUp c) w w.Steady fun _ w' =>
      w.Steady w' ∧ (has c w.backend → w'.isClosed c = true) :=
  (meets_lastingCall (fun r => .call (.close c r)) fun t =>
      ((Backend.Lasting.close c w.backend t).and (Backend.Obedient.closes c w.backend t)).mono
        (fun _ h => h.1) fun _ _ h => h).imp
    fun _ _ ⟨⟨hl, hc⟩, ho⟩ => ⟨⟨ho, hl⟩, hc⟩

variable (others) in
/-- Closing connections opens none. -/
theorem forbearing_steady : Forbearing others (Steady (D := D)) where
  toLenient := lenient_steady
  hangUp := steady_hangUp

/-- Opening a connection opens that one, or none. -/
theorem ends_dial_opened {protocol : String} {host : Host} {props : Properties} {r : Except RouteError ConnId}
    (hx : Routine.Ends others (dial protocol host props) now w r later w') :
    w'.opened = r.toOption.toList ++ w.opened ∧ Backend.Later has w.backend w'.backend ∧
      ∀ c, r = .ok c → has c w'.backend := by
  obtain ⟨⟨hl, hc⟩, ho⟩ := (meets_lastingCall (fun r => .call (.connect protocol host props (Except.toOption r)))
    (Backend.Lasting.connect protocol host props w.backend)).ends hx
  exact ⟨ho, hl, hc⟩

end World

/-! ## Links -/

namespace Link

variable {others : World D → World D → Prop} [Backend D] [Backend.Lasting D] [Lasting others]

open World

theorem steady_invoke (l : Link) (op : Operation) : Routine.Keeps others Steady (l.invoke (D := D) op) := by
  cases l with
  | direct c => exact steady_send c op
  | pooled h =>
    refine Routine.keeps_bind Routine.keeps_get fun w => ?_
    dsimp only
    split
    · exact Routine.keeps_pure _
    · exact steady_send _ op

end Link

namespace Link

variable {others : World D → World D → Prop} [Backend D] [Backend.Obedient D] [Lasting others]

open World

/-- Closing a link closes its connection, if it is one of its own. -/
theorem meets_close_closes (l : Link) (w : World D) :
    Routine.Meets others l.close w w.Steady fun _ w' =>
      w.Steady w' ∧ ∀ c, l = .direct c → has c w.backend → w'.isClosed c = true := by
  cases l with
  | direct c =>
    refine (meets_hangUp_closes c w).imp fun _ w' ⟨hs, hc⟩ => ⟨hs, ?_⟩
    rintro _ ⟨⟩
    exact hc
  | pooled h =>
    exact Routine.meets_bind (((forbearing_steady others).keeps_giveBack trivial w).imp fun _ _ hs _ => ⟨hs, nofun⟩)

theorem meets_closeQuietly_closes (l : Link) (w : World D) :
    Routine.Meets others l.closeQuietly w w.Steady fun _ w' =>
      w.Steady w' ∧ ∀ c, l = .direct c → has c w.backend → w'.isClosed c = true := by
  refine Routine.meets_bind ((meets_close_closes l w).imp fun r v ⟨hs, hc⟩ => ?_)
  cases r with
  | ok _ => exact fun _ => ⟨hs, hc⟩
  | error e =>
    exact ((lenient_steady.keeps_log _ _ v).since hs).imp fun _ w' h => ⟨hs.trans h, fun c hl hh =>
      h.later.closed c (hc c hl hh)⟩

end Link

/-! ## Straight from the driver -/

namespace Providers

variable {others : World D → World D → Prop} [Backend D] [Backend.Lasting D] [Lasting others]
  {now later : Instant} {w w' : World D}

open World

/-- Without pools a new link is the one connection that was opened for it. -/
theorem ends_connect_opened {ps : Providers} {protocol : String} {host : Host} {props : Properties}
    {r : Except RouteError Link} (hp : ps.pooled = none)
    (hx : Routine.Ends others (ps.connect protocol host props) now w r later w') :
    (∃ e, r = .error e ∧ w.Steady w') ∨
      ∃ c, r = .ok (.direct c) ∧ w'.opened = c :: w.opened ∧ Backend.Later has w.backend w'.backend ∧
        has c w'.backend := by
  obtain ⟨_, t, v, h1, hx⟩ := Routine.ends_bind.1 hx
  have hs : w.Steady v := (lenient_steady.keeps_log _ _).ends h1
  rw [pooledFor?, hp] at hx
  obtain ⟨r', t', v', h2, hx⟩ := Routine.ends_bind.1 hx
  obtain ⟨rfl, -, rfl⟩ := Routine.ends_pure.1 hx
  obtain ⟨ho, hl, hc⟩ := ends_dial_opened h2
  rw [hs.opened] at ho
  cases r' with
  | error e => exact .inl ⟨e, rfl, ho, hs.later.trans hl⟩
  | ok c => exact .inr ⟨c, rfl, ho, hs.later.trans hl, hc c rfl⟩

end Providers

/-! ## What is closed stays closed -/

namespace World

variable {others : World D → World D → Prop} [Backend D] [Backend.Lasting D]

/-- Between two worlds no closed connection was opened again. -/
def Lapses (w w' : World D) : Prop := Backend.Later Backend.Lasting.has w.backend w'.backend

theorem Steady.lapses {w w' : World D} (h : w.Steady w') : w.Lapses w' := h.later

theorem Noted.lapses {w w' : World D} (h : w.Noted w') : w.Lapses w' := h.steady.later

/-- A known link that is closed stays closed. -/
theorem isLinkClosed_of_lapses {w w' : World D} {l : Link} (hg : w.Grows w') (hl : w.Lapses w') (hk : w.Knows l)
    (hc : w.isLinkClosed l = true) : w'.isLinkClosed l = true := by
  cases l with
  | direct c => exact hl.closed c hc
  | pooled h =>
    have hconn : (w'.handle h).conn = (w.handle h).conn := hg.conn h hk
    show ((w'.handle h).returned || w'.isClosed (w'.handle h).conn) = true
    rcases Bool.or_eq_true_iff.1
      (show ((w.handle h).returned || w.isClosed (w.handle h).conn) = true from hc) with hr | hc
    · rw [hg.returned h hr, Bool.true_or]
    · rw [hconn, show w'.isClosed (w.handle h).conn = true from hl.closed _ hc, Bool.or_true]

variable [Lasting others]

instance : Frame others (Lapses (D := D)) := ⟨fun _ => .refl _, .trans, Lasting.later⟩

variable (others) in
/-- No call to a lasting driver opens a closed connection again. -/
theorem patient_lapses : Patient others (Lapses (D := D)) where
  edit backend _ := by
    unfold Lapses
    rw [backend]
    exact .refl _
  note _ _ := .refl _
  hangUp c w := (steady_hangUp c w).mono (fun _ h => h.lapses) fun _ _ h => h.lapses
  dial protocol host props w :=
    (meets_lastingCall (fun r => .call (.connect protocol host props (Except.toOption r)))
      (Backend.Lasting.connect protocol host props w.backend)).mono (fun _ h => h.lapses) fun _ _ h => h.1.1
  send c op w := (steady_send c op w).mono (fun _ h => h.lapses) fun _ _ h => h.lapses
  check c limit w := (meets_lastingCall (fun answer => .call (.validate c limit answer))
    (Backend.Lasting.isValid c limit w.backend)).mono (fun _ h => h.lapses) fun _ _ h => h.1

end World

/-! ## Staged databases -/

namespace Sim.Cluster

/-- What there is: the connections that were opened so far. -/
def Has (i : ConnId) (c : Cluster) : Prop := i < c.conns.length

/-- A connection that is closed is one that was opened. -/
theorem has_of_closed {c : Cluster} {i : ConnId} (h : (c.conn i).closed = true) : c.Has i := by
  refine Nat.lt_of_not_le fun hn => ?_
  rw [conn, List.getD_eq_getElem?_getD, List.getElem?_eq_none hn] at h
  cases h

theorem conn_modifyConn {i : ConnId} {c : Cluster} (h : c.Has i) (f : Conn → Conn) (j : ConnId) :
    (c.modifyConn i f).conn j = if j = i then f (c.conn i) else c.conn j := by
  have h : i < c.conns.length := h
  by_cases hj : j = i
  · subst hj; simp [conn, modifyConn, List.getD_eq_getElem?_getD, h]
  · simp [conn, modifyConn, List.getD_eq_getElem?_getD, Ne.symm hj, hj]

/-- A change of a connection that leaves it closed if it is. -/
theorem later_modifyConn (i : ConnId) {f : Conn → Conn} (c : Cluster)
    (hf : (c.conn i).closed = true → (f (c.conn i)).closed = true) : Backend.Later Has c (c.modifyConn i f) := by
  refine ⟨fun j hj => ?_, fun j hj => ?_⟩
  · show j < (c.conns.modify i f).length
    rw [List.length_modify]
    exact hj
  · by_cases hi : c.Has i
    · show ((c.modifyConn i f).conn j).closed = true
      rw [conn_modifyConn hi]
      split
      · next he => exact hf (he ▸ hj)
      · exact hj
    · have hsame : c.conns.modify i f = c.conns := List.modify_eq_self (Nat.le_of_not_lt hi)
      show ((c.conns.modify i f).getD j default).closed = true
      rw [hsame]
      exact hj

theorem closed_run (conn : Conn) (op : Operation) : (conn.run op).2.closed = conn.closed := by
  unfold Conn.run
  split
  · rfl
  · split <;> rfl

theorem keeps_sleep (d : Duration) :
    Routine.Keeps (Backend.Later Has) (Backend.Later Has) (Routine.sleep (W := Cluster) d) :=
  Routine.keeps_bind Routine.keeps_now fun _ => Routine.keeps_discard (Routine.keeps_wait _ _)

theorem later_append (conn : Conn) {c c' : Cluster} (h : c'.conns = c.conns ++ [conn]) : Backend.Later Has c c' := by
  refine ⟨fun i hi => ?_, fun i hi => ?_⟩
  · show i < c'.conns.length
    rw [h, List.length_append]
    exact Nat.lt_add_right _ hi
  · have hlt : i < c.conns.length := has_of_closed hi
    show (c'.conns.getD i default).closed = true
    rw [h, List.getD_eq_getElem?_getD, List.getElem?_append_left hlt, ← List.getD_eq_getElem?_getD]
    exact hi

theorem meets_connect (host : Host) (c : Cluster) :
    Routine.Meets (Backend.Later Has) (Cluster.connect host) c (Backend.Later Has c) fun r c' =>
      Backend.Later Has c c' ∧ ∀ i, r = .ok i → c'.Has i := by
  refine Routine.meets_get_bind (Routine.meets_bind ((keeps_sleep _ c).imp fun _ c' hc _ => ?_))
  dsimp only [Outcome.Meets, modifyGet, MonadStateOf.modifyGet]
  split
  · refine ⟨hc.trans (later_append _ rfl), ?_⟩
    rintro _ ⟨⟩
    show c'.conns.length < (c'.conns ++ [_]).length
    simp
  · refine ⟨hc.trans ⟨fun _ h => h, fun _ h => h⟩, nofun⟩

/-- The connection that a cluster is told to close is marked as closed, whatever the answer is. -/
theorem meets_close (i : ConnId) (c : Cluster) :
    Routine.Meets (Backend.Later Has) (Backend.close i) c (Backend.Later Has c) fun _ c' =>
      Backend.Later Has c c' ∧ (c.Has i → (c'.conn i).closed = true) := by
  have hl : Backend.Later Has c (c.modifyConn i fun conn => { conn with closed := true }) :=
    later_modifyConn i c fun _ => rfl
  have hclosed : c.Has i → ((c.modifyConn i fun conn => { conn with closed := true }).conn i).closed = true :=
    fun hi => by rw [conn_modifyConn hi, if_pos rfl]
  refine Routine.meets_get_bind (Routine.meets_bind fun _ => ?_)
  split <;> exact fun _ => ⟨hl, hclosed⟩

instance : Backend.Obedient Cluster where
  has := Has
  connect _ host _ c := meets_connect host c
  invoke i op := Routine.keeps_modifyGet fun c => later_modifyConn i c fun h => (closed_run _ op).trans h
  isValid _ _ := Routine.keeps_bind Routine.keeps_get fun _ => Routine.keeps_bind (keeps_sleep _) fun _ =>
    Routine.keeps_bind Routine.keeps_get fun _ => Routine.keeps_pure _
  close i c := (meets_close i c).imp fun _ _ h => h.1
  closes i c := (meets_close i c).imp fun _ _ h => h.2

end Sim.Cluster

end ReplicaRouter
