import ReplicaRouter.Proofs.Ending
import ReplicaRouter.Provider
/-
What the work below the plugins does to the shared world. Opening, checking and closing connections,
borrowing from pools and sweeping them is upkeep: no operation is sent over a link, every handle
stays what it is, and a handle that was given back stays so. Nothing reads the journal, so it is taken
to be the one of the logical connection at work, and what others write down is left out.
Main statements: sending is aside but for the entry that it leaves (`World.meets_send`), and all other
work is upkeep, from opening for a pool (`World.keeps_openFor`) to closing it (`World.keeps_closePool`).
-/
namespace ReplicaRouter

variable {D α : Type}

/-! ## Entries -/

/-- Whether the entry tells that an operation was sent to a connection. -/
def Entry.isSent : Entry → Bool
  | call (.invoke ..) => true
  | _ => false

/-- Whether the entry tells of a call to the driver. -/
def Entry.isCall : Entry → Bool
  | call _ => true
  | _ => false

theorem Entry.isSent_of_isCall {e : Entry} (h : e.isCall = false) : e.isSent = false := by
  cases e <;> first | rfl | cases h

/-- Entries, the latest first, among which no operation went over a link. A pool puts a connection
into read-only mode right after opening it, before there is a link to it. -/
inductive Entry.Quiet : List Entry → Prop
  | nil : Quiet []
  | note {e : Entry} {es : List Entry} (unsent : e.isSent = false) (rest : Quiet es) : Quiet (e :: es)
  | setUp {c : ConnId} {o : Bool} {r : Except RouteError Reply} {p : String} {h : Host}
      {ps : Properties} {es : List Entry} (rest : Quiet es) :
      Quiet (.call (.invoke c o (.setReadOnly true) r) :: .call (.connect p h ps (some c)) :: es)

theorem Entry.Quiet.append {es fs : List Entry} (he : Entry.Quiet es) (hf : Entry.Quiet fs) :
    Entry.Quiet (es ++ fs) := by
  induction he with
  | nil => exact hf
  | note unsent _ ih => exact .note unsent ih
  | setUp _ ih => exact .setUp ih

namespace World

/-! ## Relations between worlds -/

/-- Handles stay: none disappears or leads elsewhere, and one that was given back stays so. -/
structure HandlesStay (w w' : World D) : Prop where
  length_le : w.handles.length ≤ w'.handles.length
  conn : ∀ h < w.handles.length, (w'.handle h).conn = (w.handle h).conn
  returned : ∀ h, (w.handle h).returned = true → (w'.handle h).returned = true

/-- What others may do meanwhile: anything at all to the database, the host list, the cache and the
pools, as long as handles stay. -/
structure Aside (w w' : World D) : Prop extends HandlesStay w w' where
  journal : w'.journal = w.journal

/-- What the work of a logical connection does besides running operations. -/
structure Upkeep (w w' : World D) : Prop extends HandlesStay w w' where
  quiet : ∃ es, Entry.Quiet es ∧ w'.journal = es ++ w.journal

theorem HandlesStay.refl (w : World D) : w.HandlesStay w := ⟨Nat.le_refl _, fun _ _ => rfl, fun _ h => h⟩

theorem HandlesStay.trans {u v w : World D} (h1 : u.HandlesStay v) (h2 : v.HandlesStay w) :
    u.HandlesStay w :=
  ⟨Nat.le_trans h1.length_le h2.length_le,
    fun h hh => (h2.conn h (Nat.lt_of_lt_of_le hh h1.length_le)).trans (h1.conn h hh),
    fun h hh => h2.returned h (h1.returned h hh)⟩

theorem Aside.refl (w : World D) : w.Aside w := ⟨.refl w, rfl⟩

theorem Aside.trans {u v w : World D} (h1 : u.Aside v) (h2 : v.Aside w) : u.Aside w :=
  ⟨h1.toHandlesStay.trans h2.toHandlesStay, h2.journal.trans h1.journal⟩

theorem Aside.upkeep {w w' : World D} (h : w.Aside w') : w.Upkeep w' :=
  ⟨h.toHandlesStay, [], .nil, h.journal⟩

theorem Upkeep.refl (w : World D) : w.Upkeep w := (Aside.refl w).upkeep

theorem Upkeep.trans {u v w : World D} (h1 : u.Upkeep v) (h2 : v.Upkeep w) : u.Upkeep w := by
  obtain ⟨es, he, h1j⟩ := h1.quiet
  obtain ⟨fs, hf, h2j⟩ := h2.quiet
  exact ⟨h1.toHandlesStay.trans h2.toHandlesStay, fs ++ es, hf.append he, by
    rw [h2j, h1j, List.append_assoc]⟩

/-- Nothing happened between two worlds but that something was written down, and no call to the driver. -/
def Noted (w w' : World D) : Prop :=
  ∃ es, (∀ e ∈ es, e.isCall = false) ∧ w' = { w with journal := es ++ w.journal }

theorem Noted.refl (w : World D) : w.Noted w := ⟨[], nofun, rfl⟩

theorem Noted.trans {u v w : World D} (h1 : u.Noted v) (h2 : v.Noted w) : u.Noted w := by
  obtain ⟨es, he, rfl⟩ := h1
  obtain ⟨fs, hf, rfl⟩ := h2
  refine ⟨fs ++ es, fun e hm => ?_, by simp⟩
  exact (List.mem_append.1 hm).elim (hf e) (he e)

/-- Changes of the rest of the world leave handles alone. -/
theorem HandlesStay.of_eq {w w' : World D} (hh : w'.handles = w.handles) : w.HandlesStay w' := by
  have he : ∀ h, w'.handle h = w.handle h := fun h => by unfold handle; rw [hh]
  exact ⟨Nat.le_of_eq (by rw [hh]), fun h _ => by rw [he], fun h hr => by rw [he]; exact hr⟩

theorem Aside.of_eq {w w' : World D} (hh : w'.handles = w.handles) (hj : w'.journal = w.journal) :
    w.Aside w' :=
  ⟨.of_eq hh, hj⟩

theorem Upkeep.of_eq {w w' : World D} (hh : w'.handles = w.handles) (hj : w'.journal = w.journal) :
    w.Upkeep w' :=
  (Aside.of_eq hh hj).upkeep

theorem Noted.upkeep {w w' : World D} (h : w.Noted w') : w.Upkeep w' := by
  obtain ⟨es, he, rfl⟩ := h
  refine ⟨.of_eq rfl, es, ?_, rfl⟩
  induction es with
  | nil => exact .nil
  | cons e es ih =>
    exact .note (Entry.isSent_of_isCall (he e List.mem_cons_self)) (ih fun e hm => he e (List.mem_cons_of_mem _ hm))

/-- A change of one handle is seen at that handle only, if there is such a handle at all. -/
theorem handle_modifyHandle_or (h : HandleId) (f : Handle → Handle) (w : World D) (i : HandleId) :
    (w.modifyHandle h f).handle i = w.handle i ∨ i = h ∧ (w.modifyHandle h f).handle i = f (w.handle h) := by
  by_cases hh : h < w.handles.length
  · rw [handle_modifyHandle hh]
    split
    · next he => exact .inr ⟨he, rfl⟩
    · exact .inl rfl
  · left
    rw [World.modifyHandle, handle, List.modify_eq_self (Nat.le_of_not_lt hh)]
    rfl

/-- A handle that somebody holds is there. -/
theorem lt_of_held {h : HandleId} {w : World D} (hheld : 0 < (w.handle h).holders) : h < w.handles.length := by
  refine Nat.lt_of_not_le fun hn => ?_
  rw [handle, List.getD_eq_getElem?_getD, List.getElem?_eq_none hn] at hheld
  exact absurd hheld (Nat.lt_irrefl 0)

theorem Aside.modifyHandle {h : HandleId} {f : Handle → Handle} (hc : ∀ e, (f e).conn = e.conn)
    (hr : ∀ e, e.returned = true → (f e).returned = true) (w : World D) : w.Aside (w.modifyHandle h f) := by
  refine ⟨⟨by simp [World.modifyHandle], fun j _ => ?_, fun j hj => ?_⟩, rfl⟩
  · rcases handle_modifyHandle_or h f w j with he | ⟨rfl, he⟩
    · rw [he]
    · rw [he]; exact hc _
  · rcases handle_modifyHandle_or h f w j with he | ⟨rfl, he⟩
    · rw [he]; exact hj
    · rw [he]; exact hr _ hj

/-- Writing down anything but an operation that was sent is upkeep. -/
theorem Upkeep.note {e : Entry} (h : e.isSent = false) (w : World D) : w.Upkeep (Journaled.note e w) :=
  ⟨⟨Nat.le_refl _, fun _ _ => rfl, fun _ h => h⟩, [e], .note h .nil, rfl⟩

/-- Setting a connection up right after opening it is upkeep. -/
theorem Upkeep.setUp {w v u : World D} {p : String} {h : Host} {ps : Properties} {c : ConnId} {o : Bool}
    {r : Except RouteError Reply} (hv : w.Aside v)
    (hu : (Journaled.note (.call (.connect p h ps (some c))) v : World D).Aside u) :
    w.Upkeep (Journaled.note (.call (.invoke c o (.setReadOnly true) r)) u) := by
  have hs : w.HandlesStay u := hv.toHandlesStay.trans ⟨hu.length_le, hu.conn, hu.returned⟩
  have hj : u.journal = .call (.connect p h ps (some c)) :: w.journal := by
    rw [hu.journal, ← hv.journal]; rfl
  refine ⟨⟨hs.length_le, hs.conn, hs.returned⟩,
    [.call (.invoke c o (.setReadOnly true) r), .call (.connect p h ps (some c))], .setUp .nil, ?_⟩
  show _ :: u.journal = _
  rw [hj]; rfl

/-- Only a handle that there is was given back. -/
theorem lt_of_returned {w : World D} {h : HandleId} (hr : (w.handle h).returned = true) :
    h < w.handles.length := by
  refine Nat.lt_of_not_le fun hn => ?_
  rw [handle, List.getD_eq_getElem?_getD, List.getElem?_eq_none hn] at hr
  cases hr

/-- Giving a handle back a second time changes nothing. -/
theorem modifyHandle_of_returned {w : World D} {h : HandleId} (hr : (w.handle h).returned = true) :
    (w.modifyHandle h fun e => { e with returned := true }) = w := by
  have hsame : w.handles.modify h (fun e => { e with returned := true }) = w.handles := by
    refine List.ext_getElem? fun i => ?_
    rw [List.getElem?_modify]
    by_cases hi : h = i
    · subst hi
      cases he : w.handles[h]? with
      | none => rfl
      | some e =>
        have her : e.returned = true := by simpa [handle, List.getD_eq_getElem?_getD, he] using hr
        simp [← her]
    · simp [hi]
  rw [modifyHandle, hsame]

theorem handle_append_of_lt (e : Handle) {w : World D} {h : HandleId} (hh : h < w.handles.length) :
    ({ w with handles := w.handles ++ [e] } : World D).handle h = w.handle h := by
  simp [handle, List.getD_eq_getElem?_getD, List.getElem?_append_left hh]

theorem handle_append_length (e : Handle) (w : World D) :
    ({ w with handles := w.handles ++ [e] } : World D).handle w.handles.length = e := by
  simp [handle]

/-- Lending appends a handle. -/
theorem Aside.append_handle (e : Handle) (w : World D) :
    w.Aside { w with handles := w.handles ++ [e] } := by
  refine ⟨⟨by simp, fun h hh => ?_, fun h hr => ?_⟩, rfl⟩
  · rw [handle_append_of_lt e hh]
  · rw [handle_append_of_lt e (lt_of_returned hr)]; exact hr

end World

/-- What the others may do is no more than what leaves a logical connection undisturbed. -/
class Bystanders (others : World D → World D → Prop) : Prop where
  aside : ∀ {w v}, others w v → w.Aside v

instance : Bystanders (World.Aside (D := D)) := ⟨id⟩

section

variable {others : World D → World D → Prop} [Bystanders others]

instance : Frame others World.Aside := ⟨.refl, .trans, Bystanders.aside⟩

instance : Frame others World.Upkeep := ⟨.refl, .trans, fun h => (Bystanders.aside h).upkeep⟩

end

/-! ## Calls to the driver -/

namespace World

variable {others : World D → World D → Prop}

/-- Log lines and the like are upkeep. -/
theorem keeps_note {e : Entry} (h : e.isSent = false) : Routine.Keeps others Upkeep (Routine.note e) :=
  Routine.keeps_modify fun w => .note h w

theorem keeps_log (level : LogLevel) (text : String) :
    Routine.Keeps others Upkeep (Routine.log level text) :=
  keeps_note rfl

/-- Changes of pools, the cache and the orphans are upkeep. -/
theorem keeps_modify {f : World D → World D} (hh : ∀ w, (f w).handles = w.handles)
    (hj : ∀ w, (f w).journal = w.journal) : Routine.Keeps others Upkeep (modify f) :=
  Routine.keeps_modify fun w => .of_eq (hh w) (hj w)

theorem keeps_modifyPool (id : PoolId) (f : Pool → Pool) :
    Routine.Keeps others Upkeep (modify (modifyPool id f)) :=
  keeps_modify (fun _ => rfl) fun _ => rfl

theorem keeps_modifyHandle (h : HandleId) {f : Handle → Handle} (hc : ∀ e, (f e).conn = e.conn)
    (hr : ∀ e, e.returned = true → (f e).returned = true) :
    Routine.Keeps others Upkeep (modify (modifyHandle h f)) :=
  Routine.keeps_modify fun w => (Aside.modifyHandle hc hr w).upkeep

theorem keeps_releasePermit (id : PoolId) : Routine.Keeps others Upkeep (releasePermit id) :=
  keeps_modifyPool id _

variable [Bystanders others]

/-- A call to the driver: others do their part while it lasts, and then it is written down. -/
theorem meets_call (x : Routine D α) (entry : α → Entry) (w : World D) :
    Routine.Meets others (do let a ← x.focus backendPart; Routine.note (entry a); return a) w w.Aside
      fun a w' => ∃ v, w.Aside v ∧ w' = Journaled.note (entry a) v := by
  have h : Routine.Keeps others Aside (x.focus backendPart) :=
    Routine.keeps_focus x fun w v => Aside.of_eq rfl rfl
  exact Routine.meets_bind <| (h w).imp fun a v hv _ => ⟨v, hv, rfl⟩

/-- A call to the driver that sends nothing is upkeep. -/
theorem keeps_call (x : Routine D α) {entry : α → Entry} (he : ∀ a, (entry a).isSent = false) :
    Routine.Keeps others Upkeep do let a ← x.focus backendPart; Routine.note (entry a); return a :=
  fun w => (meets_call x entry w).mono (fun _ h => h.upkeep) fun a _ ⟨v, hv, hw⟩ =>
    hw ▸ hv.upkeep.trans (.note (he a) v)

/-! ## Permits and handles -/

theorem keeps_acquire (id : PoolId) : Routine.Keeps others Upkeep (acquire id) := by
  refine Routine.keeps_bind Routine.keeps_get fun w => ?_
  dsimp only
  split
  · exact Routine.keeps_bind (keeps_modifyPool id _) fun _ => Routine.keeps_pure _
  · refine Routine.keeps_bind (keeps_modifyPool id _) fun _ => ?_
    refine Routine.keeps_bind Routine.keeps_now fun now => ?_
    refine Routine.keeps_bind (Routine.keeps_wait _ _) fun ready => ?_
    refine Routine.keeps_bind Routine.keeps_get fun w => ?_
    split <;> exact Routine.keeps_bind (keeps_modifyPool id _) fun _ => Routine.keeps_pure _

theorem keeps_markReturned (h : HandleId) : Routine.Keeps others Upkeep (markReturned h) :=
  Routine.keeps_bind Routine.keeps_get fun _ =>
    Routine.keeps_bind (keeps_modifyHandle h (fun _ => rfl) fun _ _ => rfl) fun _ => Routine.keeps_pure _

theorem keeps_dropPermit (h : HandleId) : Routine.Keeps others Upkeep (dropPermit h) := by
  refine Routine.keeps_bind Routine.keeps_get fun w => ?_
  dsimp only
  split
  · exact Routine.keeps_bind (keeps_modifyHandle h (fun _ => rfl) fun _ h => h) fun _ =>
      keeps_releasePermit _
  · exact Routine.keeps_pure _

/-! ## Connections -/

variable [Backend D]

theorem meets_send (c : ConnId) (op : Operation) (w : World D) :
    Routine.Meets others (send c op) w w.Aside fun r w' =>
      ∃ o v, w.Aside v ∧ w' = Journaled.note (.call (.invoke c o op r)) v :=
  Routine.meets_get_bind <|
    (meets_call (Backend.invoke c op) (fun r => .call (.invoke c (!w.isClosed c) op r)) w).imp
      fun _ _ h => ⟨_, h⟩

theorem meets_dial (protocol : String) (host : Host) (props : Properties) (w : World D) :
    Routine.Meets others (dial protocol host props) w w.Aside fun r w' =>
      ∃ v, w.Aside v ∧ w' = Journaled.note (.call (.connect protocol host props r.toOption)) v :=
  meets_call _ _ w

theorem keeps_check (c : ConnId) (limit : Duration) : Routine.Keeps others Upkeep (check c limit) :=
  keeps_call _ fun _ => rfl

theorem keeps_hangUp (c : ConnId) : Routine.Keeps others Upkeep (hangUp c) :=
  keeps_call _ fun _ => rfl

theorem keeps_hangUpQuietly (c : ConnId) : Routine.Keeps others Upkeep (hangUpQuietly c) := by
  refine Routine.keeps_bind (keeps_hangUp c) fun r => ?_
  cases r with
  | ok _ => exact Routine.keeps_pure _
  | error e => exact keeps_log _ _

/-! ## Borrowing and giving back -/

theorem keeps_takeIdle (id : PoolId) : Routine.Keeps others Upkeep (takeIdle id) := by
  refine Routine.keeps_bind Routine.keeps_get fun w => ?_
  split <;> exact Routine.keeps_bind (keeps_modifyPool id _) fun _ => Routine.keeps_pure _

/-- A pool may put the connection that it just opened into read-only mode. -/
theorem keeps_openFor (id : PoolId) : Routine.Keeps others Upkeep (openFor id) := by
  intro w
  refine Routine.meets_bind fun _ => Routine.meets_bind ?_
  refine (meets_dial _ _ _ w).mono (fun _ h => h.upkeep) ?_
  rintro r _ ⟨v, hv, rfl⟩
  -- opening and setting the mode are one stretch: between them the connection is not as the pool says
  have hdial : ∀ r : Except RouteError ConnId, w.Upkeep (Journaled.note (.call (.connect
      (w.pool id).protocol (w.pool id).host (w.pool id).props r.toOption)) v) :=
    fun _ => hv.upkeep.trans (.note rfl v)
  have hrest : ∀ {β : Type} {x : Routine (World D) β} {u : World D}, w.Upkeep u →
      Routine.Keeps others Upkeep x → Routine.Meets others x u w.Upkeep fun _ => w.Upkeep :=
    fun hu hx => (hx _).mono (fun _ => hu.trans) fun _ _ => hu.trans
  cases r with
  | error e => exact fun _ => hdial (.error e)
  | ok c =>
    dsimp only
    split
    · refine Routine.meets_bind ((meets_send c _ _).mono (fun _ h => (hdial (.ok c)).trans h.upkeep) ?_)
      rintro r _ ⟨o, u, hu, rfl⟩
      have hset : w.Upkeep (Journaled.note (.call (.invoke c o (.setReadOnly true) r)) u) :=
        .setUp hv hu
      cases r with
      | error e => exact hrest hset (Routine.keeps_bind (keeps_hangUpQuietly c) fun _ => Routine.keeps_pure _)
      | ok _ => exact hrest hset (Routine.keeps_bind (keeps_log _ _) fun _ => Routine.keeps_pure _)
    · exact hrest (hdial (.ok c)) (Routine.keeps_bind (keeps_log _ _) fun _ => Routine.keeps_pure _)

theorem keeps_takeOrOpen (id : PoolId) : Routine.Keeps others Upkeep (takeOrOpen id) := by
  refine Routine.keeps_bind (keeps_takeIdle id) fun c => ?_
  cases c with
  | some c => exact Routine.keeps_pure _
  | none => exact keeps_openFor id

theorem keeps_reclaim (h : HandleId) : Routine.Keeps others Upkeep (reclaim h) := by
  refine Routine.keeps_bind Routine.keeps_get fun w => Routine.keeps_bind (keeps_modifyPool _ _) fun _ => ?_
  split
  · exact Routine.keeps_pure _
  · split
    · exact Routine.keeps_pure _
    · exact Routine.keeps_bind (keeps_modifyPool _ _) fun _ => Routine.keeps_pure _

theorem keeps_evict (h : HandleId) : Routine.Keeps others Upkeep (evict h) := by
  refine Routine.keeps_bind (keeps_markReturned h) fun first => ?_
  split
  · exact Routine.keeps_bind Routine.keeps_get fun w => Routine.keeps_bind (keeps_modifyPool _ _) fun _ =>
      Routine.keeps_bind (keeps_log _ _) fun _ => Routine.keeps_bind (keeps_hangUpQuietly _) fun _ =>
      keeps_dropPermit h
  · exact Routine.keeps_pure _

theorem keeps_abandon (h : HandleId) : Routine.Keeps others Upkeep (abandon h) := by
  refine Routine.keeps_bind (keeps_markReturned h) fun first => ?_
  split
  · refine Routine.keeps_bind (keeps_reclaim h) fun c => ?_
    cases c with
    | some c =>
      exact Routine.keeps_bind (keeps_modify (fun _ => rfl) fun _ => rfl) fun _ => keeps_dropPermit h
    | none => exact keeps_dropPermit h
  · exact Routine.keeps_pure _

theorem keeps_closeIdle (key : String) (cs : List ConnId) :
    Routine.Keeps others Upkeep (closeIdle key cs) := by
  induction cs with
  | nil => exact Routine.keeps_pure _
  | cons c cs ih =>
    refine Routine.keeps_bind (keeps_hangUp c) fun r => ?_
    cases r with
    | ok _ => exact ih
    | error e =>
      exact Routine.keeps_bind (keeps_log _ _) fun _ => Routine.keeps_bind ih fun _ => Routine.keeps_pure _

theorem keeps_closePool (id : PoolId) : Routine.Keeps others Upkeep (closePool id) := by
  refine Routine.keeps_bind Routine.keeps_get fun w => ?_
  dsimp only
  split
  · exact Routine.keeps_pure _
  · refine Routine.keeps_bind (keeps_modifyPool _ _) fun _ => ?_
    refine Routine.keeps_bind (keeps_closeIdle _ _) fun n => ?_
    refine Routine.keeps_bind (keeps_log _ _) fun _ => ?_
    split <;> exact Routine.keeps_pure _

end World

end ReplicaRouter
