import Mathlib.Data.Multiset.Bind
import Mathlib.Tactic.Abel
import ReplicaRouter.Proofs.Attempts
import ReplicaRouter.Proofs.Metering
/-
What the calls of a pool have of it while they wait, and the four things that a pool's books are made of: the
permits, the queue for them, the handles, and the connections.
Main statements: the queue is followed through every change of the permits (`Permits.queue_leave` and the
others), handles through giving back (`World.Marks.giveBack`), and connections are tracked from when they
are opened until they are over (`Backend.Outlook.Tracks.drop`).
-/
namespace ReplicaRouter

variable {D : Type}

/-! ## Stakes in a pool -/

/-- What a call that waits has of its pool. -/
inductive Stake where
  /-- A place in the queue for permits. -/
  | queued (t : Ticket)
  /-- A permit. -/
  | permit
  /-- A permit for a connection that is being opened. -/
  | dialing
  /-- A permit and its connection, which was not handed out yet. -/
  | carried (c : ConnId)
  /-- The permit and the connection of a handle that was given back. -/
  | closing (h : HandleId) (c : ConnId)
  /-- The permit of a handle that was given back. -/
  | spent (h : HandleId)
  /-- A connection without a permit, which has to be closed. -/
  | leaving (c : ConnId)
  deriving DecidableEq

namespace Stake

@[simp] def permits : Stake → Nat
  | queued _ | leaving _ => 0
  | permit | dialing | carried _ | closing .. | spent _ => 1

@[simp] def tickets : Stake → Multiset Ticket
  | queued t => {t}
  | _ => 0

@[simp] def conns : Stake → Multiset ConnId
  | carried c | closing _ c | leaving c => {c}
  | _ => 0

@[simp] def handles : Stake → Multiset HandleId
  | closing h _ | spent h => {h}
  | _ => 0

def permitsOf (g : Multiset Stake) : Nat := (g.map permits).sum

def ticketsOf (g : Multiset Stake) : Multiset Ticket := g.bind tickets

def connsOf (g : Multiset Stake) : Multiset ConnId := g.bind conns

def handlesOf (g : Multiset Stake) : Multiset HandleId := g.bind handles

@[simp] theorem permitsOf_cons (s : Stake) (g : Multiset Stake) : permitsOf (s ::ₘ g) = s.permits + permitsOf g := by
  simp [permitsOf]

@[simp] theorem ticketsOf_cons (s : Stake) (g : Multiset Stake) : ticketsOf (s ::ₘ g) = s.tickets + ticketsOf g := by
  simp [ticketsOf]

@[simp] theorem connsOf_cons (s : Stake) (g : Multiset Stake) : connsOf (s ::ₘ g) = s.conns + connsOf g := by
  simp [connsOf]

@[simp] theorem handlesOf_cons (s : Stake) (g : Multiset Stake) : handlesOf (s ::ₘ g) = s.handles + handlesOf g := by
  simp [handlesOf]

/-- What is left of the stake once its connection is over. -/
def shed : Stake → Multiset Stake
  | carried _ => {permit}
  | closing h _ => {spent h}
  | leaving _ => 0
  | s => {s}

/-- Who has a connection or opens one has a permit, unless the connection has to be closed. -/
theorem card_connsOf_le {g : Multiset Stake} (hg : ∀ c, leaving c ∉ g) :
    (connsOf g).card + g.count dialing ≤ permitsOf g := by
  induction g using Multiset.induction_on with
  | empty => simp [connsOf]
  | cons s g ih =>
    have ih := ih fun c hc => hg c (Multiset.mem_cons_of_mem hc)
    cases s with
    | leaving c => exact absurd (Multiset.mem_cons_self _ _) (hg c)
    | _ => simp; omega

end Stake

/-! ## The queue for permits -/

namespace Permits

/-- Who waits for a permit or was given one that was not picked up. -/
def queue (p : Permits) : Multiset Ticket := p.waiting + p.granted

variable {p q : Permits} {t : Ticket}

theorem queue_take? (h : p.take? = some q) : q.queue = p.queue := by
  unfold take? at h
  split at h
  · cases h; rfl
  · cases h

theorem queue_join (p : Permits) : p.join.queue = p.next ::ₘ p.queue := by
  simp only [queue, join, ← Multiset.coe_add, Multiset.coe_singleton, ← Multiset.singleton_add]
  abel

theorem queue_release (p : Permits) : p.release.queue = p.queue := by
  unfold release
  split
  · rfl
  · next t waiting hw =>
    simp only [queue, hw, ← Multiset.coe_add, ← Multiset.cons_coe, ← Multiset.singleton_add]
    abel

theorem queue_pickUp (h : p.isGranted t = true) : t ::ₘ (p.pickUp t).queue = p.queue := by
  have hmem : t ∈ (p.granted : Multiset Ticket) := by simpa [isGranted] using h
  rw [queue, queue, pickUp, ← Multiset.coe_erase, ← Multiset.add_cons, Multiset.cons_erase hmem]

theorem queue_leave (h : t ∈ p.queue) : t ::ₘ (p.leave t).queue = p.queue := by
  unfold leave
  by_cases hg : p.isGranted t = true
  · rw [if_pos hg, queue_release, queue_pickUp hg]
  · rw [if_neg hg]
    have hmem : t ∈ (p.waiting : Multiset Ticket) := by
      refine (Multiset.mem_add.1 h).resolve_right fun hin => hg ?_
      simpa [isGranted] using hin
    rw [queue, queue, ← Multiset.coe_erase, ← Multiset.cons_add, Multiset.cons_erase hmem]

end Permits

/-! ## Handles -/

theorem perm_filter_modify {α : Type} {q : α → Bool} {f : α → α} {a : α} (hq : q a = true) (hf : q (f a) = false) :
    ∀ {l : List α} {i : Nat}, l[i]? = some a → (l.filter q).Perm (a :: (l.modify i f).filter q)
  | [], _, h => nomatch h
  | b :: l, 0, h => by
    cases h
    simp [hq, hf]
  | b :: l, i + 1, h => by
    have ih := perm_filter_modify hq hf (l := l) (i := i) (by simpa using h)
    rw [List.modify_succ_cons, List.filter_cons, List.filter_cons]
    split
    · exact (ih.cons b).trans (.swap _ _ _)
    · exact ih

theorem map_filter_modify {α β : Type} {q : α → Bool} {f : α → α} {k : α → β} (hq : ∀ a, q (f a) = q a)
    (hk : ∀ a, k (f a) = k a) : ∀ (l : List α) (i : Nat), ((l.modify i f).filter q).map k = (l.filter q).map k
  | [], _ => by simp
  | b :: l, 0 => by
    rw [List.modify_zero_cons, List.filter_cons, List.filter_cons, hq]
    split <;> simp [hk]
  | b :: l, i + 1 => by
    rw [List.modify_succ_cons, List.filter_cons, List.filter_cons]
    split <;> simp [map_filter_modify hq hk l i]

namespace World

/-- The connections of the handles that were not given back, one for each of them. -/
def lent (w : World D) : List ConnId := (w.handles.filter (!·.returned)).map (·.conn)

section Handles

variable {w : World D} {h : HandleId} {p : PoolId} {hs : Multiset HandleId}

theorem lent_append (p : PoolId) (c : ConnId) (w : World D) :
    ({ w with handles := w.handles ++ [{ pool := p, conn := c }] } : World D).lent = w.lent ++ [c] := by
  simp [lent]

/-- What is given back is lent no more. -/
theorem lent_return (hh : h < w.handles.length) (hr : (w.handle h).returned = false) :
    w.lent.Perm ((w.handle h).conn :: (w.modifyHandle h fun e => { e with returned := true }).lent) := by
  have hget : w.handles[h]? = some (w.handle h) := by simp [handle, List.getD_eq_getElem?_getD, hh]
  refine (perm_filter_modify ?_ ?_ hget).map Handle.conn
  · simp [hr]
  · rfl

theorem lent_free (h : HandleId) (w : World D) :
    (w.modifyHandle h fun e => { e with hasPermit := false }).lent = w.lent := by
  refine map_filter_modify ?_ ?_ w.handles h
  · intro e; rfl
  · intro e; rfl

/-- Every handle is one of the pool and has its permit until it is given back, and these that were given
back have theirs still. -/
structure Marks (p : PoolId) (w : World D) (hs : Multiset HandleId) : Prop where
  pool_eq : ∀ h < w.handles.length, (w.handle h).pool = p
  out : ∀ h < w.handles.length, (w.handle h).returned = false → (w.handle h).hasPermit = true
  returned : ∀ h ∈ hs, h < w.handles.length ∧ (w.handle h).returned = true ∧ (w.handle h).hasPermit = true
  nodup : hs.Nodup

theorem Marks.of_eq {v : World D} (hm : w.Marks p hs) (hv : v.handles = w.handles) : v.Marks p hs := by
  have hhandle : ∀ i, v.handle i = w.handle i := fun i => by rw [handle, hv]; rfl
  refine ⟨fun i hi => ?_, fun i hi => ?_, fun i hi => ?_, hm.nodup⟩
  · rw [hhandle]
    exact hm.pool_eq i (hv ▸ hi)
  · rw [hhandle]
    exact hm.out i (hv ▸ hi)
  · rw [hhandle, hv]
    exact hm.returned i hi

theorem Marks.append (hm : w.Marks p hs) (c : ConnId) :
    ({ w with handles := w.handles ++ [{ pool := p, conn := c }] } : World D).Marks p hs := by
  have hlen : (w.handles ++ [({ pool := p, conn := c } : Handle)]).length = w.handles.length + 1 := by simp
  have hold : ∀ h < w.handles.length + 1, h < w.handles.length ∨ h = w.handles.length := fun h hh => by omega
  refine ⟨fun h hh => ?_, fun h hh hr => ?_, fun h hh => ?_, hm.nodup⟩
  · rcases hold h (hlen ▸ hh) with hlt | rfl
    · rw [handle_append_of_lt _ hlt]
      exact hm.pool_eq h hlt
    · rw [handle_append_length]
  · rcases hold h (hlen ▸ hh) with hlt | rfl
    · rw [handle_append_of_lt _ hlt] at hr ⊢
      exact hm.out h hlt hr
    · rw [handle_append_length]
  · obtain ⟨hlt, hr⟩ := hm.returned h hh
    rw [handle_append_of_lt _ hlt]
    exact ⟨Nat.lt_of_lt_of_eq (Nat.lt_succ_of_lt hlt) hlen.symm, hr⟩

theorem Marks.giveBack (hm : w.Marks p hs) (hh : h < w.handles.length) (hr : (w.handle h).returned = false) :
    (w.modifyHandle h fun e => { e with returned := true }).Marks p (h ::ₘ hs) := by
  have hlen : (w.modifyHandle h fun e => { e with returned := true }).handles.length = w.handles.length := by
    simp [modifyHandle]
  -- the handle is still out, so nobody is charged with it yet
  have hnew : h ∉ hs := fun hmem => by
    rw [(hm.returned h hmem).2.1] at hr
    cases hr
  refine ⟨fun i hi => ?_, fun i hi hri => ?_, fun i hi => ?_, Multiset.nodup_cons.2 ⟨hnew, hm.nodup⟩⟩
  · rw [handle_modifyHandle hh]
    split
    · exact hm.pool_eq h hh
    · exact hm.pool_eq i (hlen ▸ hi)
  · rw [handle_modifyHandle hh] at hri ⊢
    split at hri
    · cases hri
    · next hne =>
      rw [if_neg hne]
      exact hm.out i (hlen ▸ hi) hri
  · rw [hlen, handle_modifyHandle hh]
    rcases Multiset.mem_cons.1 hi with rfl | hi
    · rw [if_pos rfl]
      exact ⟨hh, rfl, hm.out i hh hr⟩
    · obtain ⟨hlt, hri, hpi⟩ := hm.returned i hi
      refine ⟨hlt, ?_⟩
      split
      · next he => exact ⟨rfl, he ▸ hpi⟩
      · exact ⟨hri, hpi⟩

theorem Marks.free (hm : w.Marks p (h ::ₘ hs)) :
    (w.modifyHandle h fun e => { e with hasPermit := false }).Marks p hs := by
  obtain ⟨hh, hr, -⟩ := hm.returned h (Multiset.mem_cons_self _ _)
  have hlen : (w.modifyHandle h fun e => { e with hasPermit := false }).handles.length = w.handles.length := by
    simp [modifyHandle]
  refine ⟨fun i hi => ?_, fun i hi hri => ?_, fun i hi => ?_, (Multiset.nodup_cons.1 hm.nodup).2⟩
  · rw [handle_modifyHandle hh]
    split
    · exact hm.pool_eq h hh
    · exact hm.pool_eq i (hlen ▸ hi)
  · rw [handle_modifyHandle hh] at hri ⊢
    split at hri
    · rw [show (w.handle h).returned = false from hri] at hr
      cases hr
    · next hne =>
      rw [if_neg hne]
      exact hm.out i (hlen ▸ hi) hri
  · have hne : i ≠ h := fun he => (Multiset.nodup_cons.1 hm.nodup).1 (he ▸ hi)
    rw [hlen, handle_modifyHandle hh, if_neg hne]
    exact hm.returned i (Multiset.mem_cons_of_mem hi)

end Handles

/-! ## Connections -/

/-- The connections that the driver was told to close. -/
def hungUp (w : World D) : List ConnId := w.journal.filterMap Entry.closedConn?

end World

namespace Backend.Outlook

variable [Backend D] (O : Backend.Outlook D)

/-- Whether the connection is over, for all that is taken for granted. -/
def Gone (c : ConnId) (w : World (Metered D)) : Prop := O.ended c w.backend.driver ∨ O.trusting ∧ c ∈ w.hungUp

/-- Whether the second world may follow upon the first. -/
structure Follows (w w' : World (Metered D)) : Prop where
  later : O.later w.backend.driver w'.backend.driver
  journal : w.journal <:+ w'.journal

/-- These are the connections that were opened and are not over, and perhaps some that are over. -/
structure Tracks (w : World (Metered D)) (cs : Multiset ConnId) : Prop where
  nodup : w.opened.Nodup → cs.Nodup
  opened : ∀ c ∈ cs, c ∈ w.opened
  covers : ∀ c ∈ w.opened, c ∈ cs ∨ O.Gone c w
  has : ∀ c ∈ w.opened, O.has c w.backend.driver

variable {O} {u v w w' : World (Metered D)} {c : ConnId} {cs lost : Multiset ConnId}

theorem Follows.refl (w : World (Metered D)) : O.Follows w w := ⟨O.refl _, List.suffix_rfl⟩

theorem Follows.trans (h1 : O.Follows u v) (h2 : O.Follows v w) : O.Follows u w :=
  ⟨O.trans h1.later h2.later, h1.journal.trans h2.journal⟩

instance : Frame O.Follows O.Follows := ⟨.refl, .trans, id⟩

theorem Follows.of_eq (hb : w'.backend.driver = w.backend.driver) (hj : w'.journal = w.journal) : O.Follows w w' :=
  ⟨hb ▸ O.refl _, hj ▸ List.suffix_rfl⟩

theorem Follows.note (e : Entry) (w : World (Metered D)) : O.Follows w (Journaled.note e w) :=
  ⟨O.refl _, List.suffix_cons e w.journal⟩

/-- What is over stays over. -/
theorem Gone.later (hw : O.Follows w w') (h : O.Gone c w) : O.Gone c w' :=
  h.imp (O.ended_later hw.later) fun ⟨ht, hc⟩ => ⟨ht, (hw.journal.filterMap Entry.closedConn?).subset hc⟩

theorem Gone.of_closed (h : w.isClosed c = true) : O.Gone c w := .inl (O.ended_of_closed h)

/-- What was told to close is over. -/
theorem Gone.hungUp {r : Except RouteError Unit} (h : O.trusting ∨ O.ended c w.backend.driver) :
    O.Gone c (Journaled.note (.call (.close c r)) w) := by
  rcases h with h | h
  · exact .inr ⟨h, List.mem_cons_self⟩
  · exact .inl h

namespace Tracks

theorem later (h : O.Tracks w cs) (hw : O.Follows w w') (ho : w'.opened = w.opened) : O.Tracks w' cs := by
  refine ⟨fun hn => h.nodup (ho ▸ hn), fun c hc => ho ▸ h.opened c hc, fun c hc => ?_, fun c hc => ?_⟩
  · exact (h.covers c (ho ▸ hc)).imp_right (Gone.later hw)
  · exact O.has_later hw.later (h.has c (ho ▸ hc))

/-- What is over need not be tracked. -/
theorem drop (h : O.Tracks w (lost + cs)) (hl : ∀ c ∈ lost, O.Gone c w) : O.Tracks w cs := by
  refine ⟨fun hn => ?_, fun c hc => ?_, fun c hc => ?_, h.has⟩
  · exact Multiset.nodup_of_le (Multiset.le_add_left cs lost) (h.nodup hn)
  · exact h.opened c (Multiset.mem_add.2 (.inr hc))
  · rcases h.covers c hc with hc | hc
    · rcases Multiset.mem_add.1 hc with hc | hc
      · exact .inr (hl c hc)
      · exact .inl hc
    · exact .inr hc

/-- What was opened is tracked from then on. -/
theorem connect {protocol : String} {host : Host} {props : Properties} (h : O.Tracks w cs)
    (hc : O.has c w.backend.driver) :
    O.Tracks (Journaled.note (.call (.connect protocol host props (some c))) w) (c ::ₘ cs) := by
  have hopened : (Journaled.note (.call (.connect protocol host props (some c))) w).opened = c :: w.opened := rfl
  refine ⟨fun hn => ?_, fun d hd => ?_, fun d hd => ?_, fun d hd => ?_⟩
  · rw [hopened, List.nodup_cons] at hn
    exact Multiset.nodup_cons.2 ⟨fun hmem => hn.1 (h.opened c hmem), h.nodup hn.2⟩
  · rw [hopened]
    exact (Multiset.mem_cons.1 hd).elim (fun he => he ▸ List.mem_cons_self) fun hd =>
      List.mem_cons_of_mem c (h.opened d hd)
  · rw [hopened] at hd
    rcases List.mem_cons.1 hd with rfl | hd
    · exact .inl (Multiset.mem_cons_self _ _)
    · exact (h.covers d hd).imp Multiset.mem_cons_of_mem (Gone.later (.note _ w))
  · rw [hopened] at hd
    rcases List.mem_cons.1 hd with rfl | hd
    · exact hc
    · exact h.has d hd

end Tracks

end Backend.Outlook

end ReplicaRouter
