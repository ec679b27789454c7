import ReplicaRouter.Proofs.Dealings
import ReplicaRouter.Proofs.Stakes
/-
Where the connections of all pools are, told for any number of pools at once. A connection is idle, with a handle
that is out, left to be closed, or in the hands of a call; it is told to close at most once, and only from there.
Every pool knows how many of its handles are out.
Main definitions: the invariant `World.Circulates`, and what one world says about those that come after it,
`World.Ensues`. Main statements: connections that only pass from one place to another keep the invariant
(`World.Circulates.moved`), and it holds where nothing happened yet (`World.Unused.circulates`).
-/
namespace ReplicaRouter

variable {D : Type}

/-! ## What calls have in hand -/

/-- What a call has in hand. -/
inductive Freight where
  /-- A connection of a pool. -/
  | conn (p : PoolId) (c : ConnId)
  /-- A connection that is to be closed, and that no handle from this one on is for. -/
  | doomed (c : ConnId) (since : HandleId)
  /-- A handle that nobody holds yet. -/
  | fresh (h : HandleId)
  deriving DecidableEq

namespace Freight

@[simp] def conns : Freight → Multiset ConnId
  | conn _ c | doomed c _ => {c}
  | fresh _ => 0

@[simp] def handles : Freight → Multiset HandleId
  | fresh h => {h}
  | _ => 0

def connsOf (g : Multiset Freight) : Multiset ConnId := g.bind conns

def handlesOf (g : Multiset Freight) : Multiset HandleId := g.bind handles

@[simp] theorem connsOf_cons (f : Freight) (g : Multiset Freight) : connsOf (f ::ₘ g) = f.conns + connsOf g := by
  simp [connsOf]

@[simp] theorem handlesOf_cons (f : Freight) (g : Multiset Freight) :
    handlesOf (f ::ₘ g) = f.handles + handlesOf g := by
  simp [handlesOf]

theorem mem_handlesOf {h : HandleId} {g : Multiset Freight} : h ∈ handlesOf g ↔ fresh h ∈ g := by
  rw [handlesOf, Multiset.mem_bind]
  constructor
  · rintro ⟨f, hf, hh⟩
    cases f with
    | fresh i => rwa [Multiset.mem_singleton.1 hh]
    | conn | doomed => exact absurd hh (Multiset.notMem_zero h)
  · exact fun h => ⟨_, h, Multiset.mem_singleton_self _⟩

theorem connsOf_doomed_add (cs : List ConnId) (n : HandleId) (g : Multiset Freight) :
    connsOf ((cs.map (doomed · n) : List Freight) + g) = cs + connsOf g := by
  induction cs with
  | nil => simp
  | cons c cs ih =>
    rw [List.map_cons, ← Multiset.cons_coe, Multiset.cons_add, connsOf_cons, ih, ← Multiset.cons_coe,
      Multiset.cons_add]
    exact Multiset.singleton_add c _

theorem handlesOf_doomed_add (cs : List ConnId) (n : HandleId) (g : Multiset Freight) :
    handlesOf ((cs.map (doomed · n) : List Freight) + g) = handlesOf g := by
  induction cs with
  | nil => simp
  | cons c cs ih =>
    rw [List.map_cons, ← Multiset.cons_coe, Multiset.cons_add, handlesOf_cons, ih]
    exact zero_add _

end Freight

open Freight

/-- The pool without its permits. -/
def Pool.stock (P : Pool) : Pool := { P with permits := default }

/-- The pool without its permits and its idle connections. -/
def Pool.shell (P : Pool) : Pool := { P with idle := [], permits := default }

namespace World

/-! ## Counting -/

/-- The idle connections of all pools. -/
def shelved (w : World D) : List ConnId := w.pools.flatMap Pool.idle

/-- The handles of a pool that are out. -/
def outOf (p : PoolId) (w : World D) : List Handle := w.handles.filter fun e => !e.returned && e.pool == p

section Counting

variable {w w' : World D} {p : PoolId} {h : HandleId}

theorem count_flatMap_modify (f : Pool → Pool) (c : ConnId) : ∀ {l : List Pool} {i : Nat} {P : Pool}, l[i]? = some P →
    ((l.modify i f).flatMap Pool.idle).count c + P.idle.count c =
      (l.flatMap Pool.idle).count c + (f P).idle.count c
  | [], _, _, h => nomatch h
  | Q :: l, 0, P, h => by
    cases h
    simp only [List.modify_zero_cons, List.flatMap_cons, List.count_append]
    omega
  | Q :: l, i + 1, P, h => by
    have ih := count_flatMap_modify f c (l := l) (i := i) (by simpa using h)
    simp only [List.modify_succ_cons, List.flatMap_cons, List.count_append]
    omega

/-- What is on the shelves changes with what is on one of them. -/
theorem count_shelved_modifyPool (hp : p < w.pools.length) (f : Pool → Pool) (c : ConnId) :
    (w.modifyPool p f).shelved.count c + (w.pool p).idle.count c = w.shelved.count c + (f (w.pool p)).idle.count c :=
  count_flatMap_modify f c (by simp [pool, List.getD_eq_getElem?_getD, hp])

theorem filter_modify_of_neg {α : Type} {q : α → Bool} {f : α → α} {a : α} (hq : q a = false) (hf : q (f a) = false) :
    ∀ {l : List α} {i : Nat}, l[i]? = some a → (l.modify i f).filter q = l.filter q
  | [], _, h => nomatch h
  | b :: l, 0, h => by
    cases h
    simp [hq, hf]
  | b :: l, i + 1, h => by
    have ih := filter_modify_of_neg hq hf (l := l) (i := i) (by simpa using h)
    rw [List.modify_succ_cons, List.filter_cons, List.filter_cons, ih]

theorem getElem?_handles (hh : h < w.handles.length) : w.handles[h]? = some (w.handle h) := by
  simp [handle, List.getD_eq_getElem?_getD, hh]

theorem handle_mem (hh : h < w.handles.length) : w.handle h ∈ w.handles :=
  List.mem_of_getElem? (getElem?_handles hh)

/-- A handle that comes back is out of its pool no more. -/
theorem length_outOf_return (hh : h < w.handles.length) (hr : (w.handle h).returned = false) (p : PoolId) :
    ((w.modifyHandle h fun e => { e with returned := true }).outOf p).length =
      if p = (w.handle h).pool then (w.outOf p).length - 1 else (w.outOf p).length := by
  split
  · next hp =>
    have hperm := perm_filter_modify (q := fun e : Handle => !e.returned && e.pool == p)
      (f := fun e => { e with returned := true }) (by simp [hr, hp]) (by simp) (getElem?_handles hh)
    have hlen := hperm.length_eq
    rw [List.length_cons] at hlen
    show (List.filter _ _).length = (List.filter _ _).length - 1
    rw [hlen, Nat.add_sub_cancel]
    rfl
  · next hp =>
    refine congrArg List.length (filter_modify_of_neg ?_ ?_ (getElem?_handles hh))
    · simp [Ne.symm hp]
    · simp

theorem length_outOf_pos (hh : h < w.handles.length) (hr : (w.handle h).returned = false) :
    0 < (w.outOf (w.handle h).pool).length :=
  List.length_pos_of_mem (List.mem_filter.2 ⟨handle_mem hh, by simp [hr]⟩)

theorem length_outOf_append (e : Handle) (p : PoolId) (w : World D) (he : e.returned = false) :
    (({ w with handles := w.handles ++ [e] } : World D).outOf p).length =
      if p = e.pool then (w.outOf p).length + 1 else (w.outOf p).length := by
  show (List.filter _ (w.handles ++ [e])).length = _
  rw [List.filter_append, List.length_append, outOf]
  by_cases hp : p = e.pool
  · simp [he, hp]
  · simp [he, hp, Ne.symm hp]

theorem count_lent_pos (hh : h < w.handles.length) (hr : (w.handle h).returned = false) :
    0 < w.lent.count (w.handle h).conn :=
  List.count_pos_iff.2 (List.mem_map.2 ⟨w.handle h, List.mem_filter.2 ⟨handle_mem hh, by simp [hr]⟩, rfl⟩)

/-- What only the permit of handles is changed by changes none of the counts. -/
theorem outOf_of_bare (hw : w'.handles.map Handle.bare = w.handles.map Handle.bare) (p : PoolId) :
    (w'.outOf p).length = (w.outOf p).length := by
  have hcount : ∀ l : List Handle, (l.filter fun e => !e.returned && e.pool == p).length =
      ((l.map Handle.bare).filter fun e => !e.returned && e.pool == p).length := fun l => by
    rw [List.filter_map, List.length_map]
    rfl
  rw [outOf, outOf, hcount w'.handles, hcount w.handles, hw]

theorem lent_of_bare (hw : w'.handles.map Handle.bare = w.handles.map Handle.bare) : w'.lent = w.lent := by
  have hconns : ∀ l : List Handle, (l.filter (!·.returned)).map (·.conn) =
      ((l.map Handle.bare).filter (!·.returned)).map (·.conn) := fun l => by
    rw [List.filter_map, List.map_map]
    rfl
  rw [lent, lent, hconns w'.handles, hconns w.handles, hw]

theorem shelved_of_stock (hw : w'.pools.map Pool.stock = w.pools.map Pool.stock) : w'.shelved = w.shelved := by
  have hidle : ∀ l : List Pool, l.flatMap Pool.idle = (l.map Pool.stock).flatMap Pool.idle := fun l => by
    rw [List.flatMap_map]
    rfl
  rw [shelved, shelved, hidle w'.pools, hidle w.pools, hw]

theorem handle_of_bare (hw : w'.handles.map Handle.bare = w.handles.map Handle.bare) (i : HandleId) :
    (w'.handle i).pool = (w.handle i).pool ∧ (w'.handle i).conn = (w.handle i).conn ∧
      (w'.handle i).returned = (w.handle i).returned ∧ (w'.handle i).holders = (w.handle i).holders := by
  have hbare := congrArg (fun l => l.getD i (Handle.bare default)) hw
  simp only [List.getD_map] at hbare
  have hbare : (w'.handle i).bare = (w.handle i).bare := hbare
  simp only [Handle.bare, Handle.mk.injEq] at hbare
  simp [hbare]

theorem pool_of_stock (hw : w'.pools.map Pool.stock = w.pools.map Pool.stock) (p : PoolId) :
    (w'.pool p).stock = (w.pool p).stock := by
  have hstock := congrArg (fun l => l.getD p (Pool.stock default)) hw
  simp only [List.getD_map] at hstock
  exact hstock

end Counting

/-! ## Before and after -/

section Relations

variable [Backend D] (T : Terms D) (kept : Prop)

/-- Between two worlds nothing passed from one to another and nothing was counted: the driver did its work, operations
ran, and permits changed hands. -/
structure Serene (w w' : World D) : Prop where
  later : T.outlook.later w.backend w'.backend
  journal : ∃ es, w'.journal = es ++ w.journal ∧ ∀ e ∈ es, e.opened? = none ∧ e.closedConn? = none
  pools : w'.pools.map Pool.stock = w.pools.map Pool.stock
  handles : w'.handles.map Handle.bare = w.handles.map Handle.bare
  orphans : w'.orphans = w.orphans
  cached : ∀ k, w'.poolAt? k = w.poolAt? k

/-- Whether the second world may come after the first. Where pools are kept, none is closed while one of its handles is
out. No connection that was told to close is handed out later, unless the driver opened it twice. -/
structure Ensues (w w' : World D) : Prop extends Follows T w w' where
  spares : kept → ∀ h < w.handles.length, (w'.handle h).returned = false →
    (w.pool (w.handle h).pool).closed = false → (w'.pool (w.handle h).pool).closed = false
  news : w'.opened.Nodup → ∀ h, w.handles.length ≤ h → h < w'.handles.length → (w'.handle h).conn ∉ w.hungUp

variable {T kept} {u v w w' : World D} {c : ConnId} {h n : HandleId}

theorem Follows.opened_suffix (h : w.Follows T w') : w.opened <:+ w'.opened := h.journal.filterMap _

theorem Follows.hungUp_suffix (h : w.Follows T w') : w.hungUp <:+ w'.hungUp := h.journal.filterMap _

theorem Follows.nodup (h : w.Follows T w') (hn : w'.opened.Nodup) : w.opened.Nodup := hn.sublist h.opened_suffix.sublist

omit [Backend D] in
/-- A handle that is out was out before. -/
theorem HandlesStay.out (hs : w.HandlesStay w') (hr : (w'.handle h).returned = false) :
    (w.handle h).returned = false := by
  cases hw : (w.handle h).returned with
  | false => rfl
  | true =>
    rw [hs.returned h hw] at hr
    cases hr

theorem Ensues.refl (w : World D) : w.Ensues T kept w :=
  ⟨.refl w, fun _ _ _ _ hp => hp, fun _ _ hle hlt => absurd hlt (Nat.not_lt.2 hle)⟩

theorem Ensues.trans (h1 : u.Ensues T kept v) (h2 : v.Ensues T kept w) : u.Ensues T kept w where
  toFollows := h1.toFollows.trans h2.toFollows
  spares hk h hh hr hp := by
    have hlender := h1.lender h hh
    have hmid := h1.spares hk h hh (h2.toHandlesStay.out hr) hp
    have hend := h2.spares hk h (Nat.lt_of_lt_of_le hh h1.length_le) hr (by rwa [hlender])
    rwa [hlender] at hend
  news hn h hle hlt := by
    by_cases hv : h < v.handles.length
    · rw [h2.conn h hv]
      exact h1.news (h2.nodup hn) h hle hv
    · exact fun hc => h2.news hn h (Nat.le_of_not_lt hv) hlt (h1.hungUp_suffix.subset hc)

instance : Frame (Ensues (D := D) T kept) (Ensues T kept) := ⟨.refl, .trans, id⟩

/-- Where no handle is new and no pool is closed nothing more is to be said. -/
theorem Follows.ensues (h : w.Follows T w') (hlen : w'.handles.length = w.handles.length)
    (hopen : ∀ p, (w'.pool p).closed = (w.pool p).closed) : w.Ensues T kept w' :=
  ⟨h, fun _ _ _ _ hp => (hopen _).trans hp, fun _ _ hle hlt => absurd hlt (Nat.not_lt.2 (hlen ▸ hle))⟩

namespace Serene

variable (hs : w.Serene T w')
include hs

theorem pool_eq (p : PoolId) : (w'.pool p).terms = (w.pool p).terms ∧ (w'.pool p).idle = (w.pool p).idle ∧
    (w'.pool p).active = (w.pool p).active ∧ (w'.pool p).closed = (w.pool p).closed := by
  have hstock := pool_of_stock hs.pools p
  simp only [Pool.stock, Pool.mk.injEq] at hstock
  simp [Pool.terms, hstock]

theorem pools_length : w'.pools.length = w.pools.length := by simpa using congrArg List.length hs.pools

theorem handles_length : w'.handles.length = w.handles.length := by simpa using congrArg List.length hs.handles

theorem opened_eq : w'.opened = w.opened := by
  obtain ⟨es, hj, hes⟩ := hs.journal
  have hnone : es.filterMap Entry.opened? = [] := List.filterMap_eq_nil_iff.2 fun e he => (hes e he).1
  rw [opened, hj, List.filterMap_append, hnone]
  rfl

theorem hungUp_eq : w'.hungUp = w.hungUp := by
  obtain ⟨es, hj, hes⟩ := hs.journal
  have hnone : es.filterMap Entry.closedConn? = [] := List.filterMap_eq_nil_iff.2 fun e he => (hes e he).2
  rw [hungUp, hj, List.filterMap_append, hnone]
  rfl

theorem follows : w.Follows T w' := by
  obtain ⟨es, hj, -⟩ := hs.journal
  have hhandle := handle_of_bare hs.handles
  refine ⟨⟨Nat.le_of_eq hs.handles_length.symm, fun i _ => (hhandle i).2.1, fun i hi => ?_⟩, hs.later, ?_,
    Nat.le_of_eq hs.pools_length.symm, fun p _ => (hs.pool_eq p).1, fun p hp => ?_, fun i _ => (hhandle i).1⟩
  · rw [(hhandle i).2.2.1]
    exact hi
  · rw [hj]
    exact List.suffix_append es w.journal
  · rw [(hs.pool_eq p).2.2.2]
    exact hp

theorem ensues : w.Ensues T kept w' := hs.follows.ensues hs.handles_length fun p => (hs.pool_eq p).2.2.2

end Serene

theorem Serene.refl (w : World D) : w.Serene T w :=
  ⟨T.outlook.refl _, ⟨[], rfl, nofun⟩, rfl, rfl, rfl, fun _ => rfl⟩

theorem Serene.trans (h1 : u.Serene T v) (h2 : v.Serene T w) : u.Serene T w := by
  obtain ⟨es, hj, hes⟩ := h1.journal
  obtain ⟨fs, hk, hfs⟩ := h2.journal
  refine ⟨T.outlook.trans h1.later h2.later, ⟨fs ++ es, by rw [hk, hj, List.append_assoc], fun e he => ?_⟩,
    h2.pools.trans h1.pools, h2.handles.trans h1.handles, h2.orphans.trans h1.orphans,
    fun k => (h2.cached k).trans (h1.cached k)⟩
  exact (List.mem_append.1 he).elim (hfs e) (hes e)

instance : Frame (Serene (D := D) T) (Serene T) := ⟨.refl, .trans, id⟩

theorem Serene.note {e : Entry} (ho : e.opened? = none) (hc : e.closedConn? = none) (w : World D) :
    w.Serene T (Journaled.note e w) :=
  { Serene.refl (T := T) w with journal := ⟨[e], rfl, fun _ he => List.mem_singleton.1 he ▸ ⟨ho, hc⟩⟩ }

theorem Serene.of_driver {d : D} (hd : T.outlook.later w.backend d) : w.Serene T (backendPart.set d w) :=
  { Serene.refl (T := T) w with later := hd }

/-! ## The invariant -/

/-- No handle from this one on has the connection, unless the driver opened it twice. -/
def Barred (w : World D) (c : ConnId) (n : HandleId) : Prop :=
  w.opened.Nodup → ∀ i, n ≤ i → i < w.handles.length → (w.handle i).conn ≠ c

/-- A connection of a pool that was handed out before is in one of these places, or over. -/
inductive Lodged (T : Terms D) (w : World D) (g : Multiset Freight) (p : PoolId) (c : ConnId) : Prop
  | idle (mem : c ∈ (w.pool p).idle)
  | lent {i : HandleId} (lt : i < w.handles.length) (out : (w.handle i).returned = false)
      (pool_eq : (w.handle i).pool = p) (conn_eq : (w.handle i).conn = c)
  | inHand (mem : .conn p c ∈ g)
  | orphaned (mem : c ∈ w.orphans)
  | doomed {n : HandleId} (mem : .doomed c n ∈ g)
  | ended (ended : T.outlook.ended c w.backend)
  | hungUp (mem : c ∈ w.hungUp)

/-- Handles and pools agree with each other. -/
structure Tallies (w : World D) : Prop where
  lender : ∀ h < w.handles.length, (w.handle h).pool < w.pools.length
  active : ∀ p < w.pools.length, (w.pool p).active = (w.outOf p).length

/-- The cache knows what it has. Where pools are kept, it has every pool that is open. -/
structure Catalogued (kept : Prop) (w : World D) : Prop where
  cached : ∀ k p, w.poolAt? k = some p → p < w.pools.length ∧ (w.pool p).key = k
  kept : kept → ∀ p < w.pools.length, (w.pool p).closed = false → w.poolAt? (w.pool p).key = some p

/-- Handles that nobody holds yet are out, and are the last for their connections. -/
structure Untouched (w : World D) (g : Multiset Freight) : Prop where
  nodup : (handlesOf g).Nodup
  fresh : ∀ h, .fresh h ∈ g → h < w.handles.length ∧ (w.handle h).returned = false ∧ (w.handle h).holders = 0
  last : ∀ h, .fresh h ∈ g → w.Barred (w.handle h).conn (h + 1)

/-- Every connection has one place, as often as it was opened, and no place once it was told to close. -/
structure Stowed (T : Terms D) (w : World D) (g : Multiset Freight) : Prop where
  shut : ∀ p, (w.pool p).closed = true → (w.pool p).idle = []
  once : ∀ c, w.shelved.count c + w.lent.count c + w.orphans.count c + (connsOf g).count c + w.hungUp.count c ≤
    w.opened.count c
  placed : ∀ h < w.handles.length, w.Lodged T g (w.handle h).pool (w.handle h).conn
  has : ∀ c ∈ w.opened, T.outlook.has c w.backend
  ended : ∀ c ∈ w.hungUp, T.outlook.trusting ∨ T.outlook.ended c w.backend
  barred : ∀ c n, .doomed c n ∈ g → w.Barred c n

/-- What holds of pools, handles, connections and the cache, with what the calls have in hand. -/
structure Circulates (T : Terms D) (kept : Prop) (w : World D) (g : Multiset Freight) : Prop extends
  Tallies w, Catalogued kept w, Untouched w g, Stowed T w g

/-! ## What stays when connections pass from one place to another -/

variable {g g' : Multiset Freight} {p : PoolId}

omit [Backend D] in
theorem pool_of_shell (hw : w'.pools.map Pool.shell = w.pools.map Pool.shell) (p : PoolId) :
    (w'.pool p).key = (w.pool p).key ∧ (w'.pool p).active = (w.pool p).active ∧
      (w'.pool p).closed = (w.pool p).closed := by
  have hshell := congrArg (fun l => l.getD p (Pool.shell default)) hw
  simp only [List.getD_map] at hshell
  have hshell : (w'.pool p).shell = (w.pool p).shell := hshell
  simp only [Pool.shell, Pool.mk.injEq] at hshell
  simp [hshell]

omit [Backend D] in
theorem Barred.of_conns (h : w.Barred c n) (hn : w'.opened.Nodup → w.opened.Nodup)
    (hlen : w'.handles.length = w.handles.length) (hconn : ∀ i, (w'.handle i).conn = (w.handle i).conn) :
    w'.Barred c n := by
  intro hn' i hi hlt
  rw [hconn]
  exact h (hn hn') i hi (hlen ▸ hlt)

omit [Backend D] in
theorem Barred.of_bare (h : w.Barred c n) (hn : w'.opened.Nodup → w.opened.Nodup)
    (hh : w'.handles.map Handle.bare = w.handles.map Handle.bare) : w'.Barred c n :=
  h.of_conns hn (by simpa using congrArg List.length hh) fun i => (handle_of_bare hh i).2.1

omit [Backend D] in
/-- No handle has a number yet that none was given. -/
theorem barred_length (c : ConnId) (w : World D) : w.Barred c w.handles.length := fun _ _ hle hlt =>
  absurd hlt (Nat.not_lt.2 hle)

omit [Backend D] in
theorem Tallies.of_shell (ht : w.Tallies) (hp : w'.pools.map Pool.shell = w.pools.map Pool.shell)
    (hh : w'.handles.map Handle.bare = w.handles.map Handle.bare) : w'.Tallies := by
  have hpools : w'.pools.length = w.pools.length := by simpa using congrArg List.length hp
  have hhandles : w'.handles.length = w.handles.length := by simpa using congrArg List.length hh
  refine ⟨fun h hh' => ?_, fun p hp' => ?_⟩
  · rw [(handle_of_bare hh h).1, hpools]
    exact ht.lender h (hhandles ▸ hh')
  · rw [(pool_of_shell hp p).2.1, outOf_of_bare hh]
    exact ht.active p (hpools ▸ hp')

omit [Backend D] in
theorem Catalogued.of_shell (hc : Catalogued kept w) (hp : w'.pools.map Pool.shell = w.pools.map Pool.shell)
    (hcached : ∀ k, w'.poolAt? k = w.poolAt? k) : Catalogued kept w' := by
  have hpools : w'.pools.length = w.pools.length := by simpa using congrArg List.length hp
  refine ⟨fun k p hk => ?_, fun hkept p hp' hopen => ?_⟩
  · rw [(pool_of_shell hp p).1, hpools]
    exact hc.cached k p (hcached k ▸ hk)
  · obtain ⟨hkey, -, hclosed⟩ := pool_of_shell hp p
    rw [hkey, hcached]
    exact hc.kept hkept p (hpools ▸ hp') (hclosed ▸ hopen)

omit [Backend D] in
theorem Untouched.of_bare (hu : w.Untouched g) (hg : handlesOf g' = handlesOf g)
    (hn : w'.opened.Nodup → w.opened.Nodup) (hh : w'.handles.map Handle.bare = w.handles.map Handle.bare) :
    w'.Untouched g' := by
  have hlen : w'.handles.length = w.handles.length := by simpa using congrArg List.length hh
  have hold : ∀ h, .fresh h ∈ g' → .fresh h ∈ g := fun h hf => by
    rwa [← mem_handlesOf, ← hg, mem_handlesOf]
  refine ⟨hg ▸ hu.nodup, fun h hf => ?_, fun h hf => ?_⟩
  · obtain ⟨-, -, hreturned, hholders⟩ := handle_of_bare hh h
    rw [hlen, hreturned, hholders]
    exact hu.fresh h (hold h hf)
  · rw [(handle_of_bare hh h).2.1]
    exact (hu.last h (hold h hf)).of_bare hn hh

omit [Backend D] in
/-- Handles are for what they were for, and out if they were out. -/
structure HandlesSame (w w' : World D) : Prop where
  length_eq : w'.handles.length = w.handles.length
  pool (i : HandleId) : (w'.handle i).pool = (w.handle i).pool
  conn (i : HandleId) : (w'.handle i).conn = (w.handle i).conn
  returned (i : HandleId) : (w'.handle i).returned = (w.handle i).returned

omit [Backend D] in
theorem HandlesSame.of_bare (hh : w'.handles.map Handle.bare = w.handles.map Handle.bare) : w.HandlesSame w' :=
  ⟨by simpa using congrArg List.length hh, fun i => (handle_of_bare hh i).1, fun i => (handle_of_bare hh i).2.1,
    fun i => (handle_of_bare hh i).2.2.1⟩

/-- Connections that are not idle, in hand, or to be closed stay where they are. -/
theorem Lodged.moved (h : w.Lodged T g p c) (hlater : T.outlook.later w.backend w'.backend)
    (hh : w.HandlesSame w') (hup : w.hungUp ⊆ w'.hungUp)
    (idle : c ∈ (w.pool p).idle → w'.Lodged T g' p c) (inHand : .conn p c ∈ g → w'.Lodged T g' p c)
    (orphaned : c ∈ w.orphans → w'.Lodged T g' p c) (doomed : ∀ n, .doomed c n ∈ g → w'.Lodged T g' p c) :
    w'.Lodged T g' p c := by
  cases h with
  | idle mem => exact idle mem
  | @lent i lt out pool_eq conn_eq =>
    exact .lent (hh.length_eq ▸ lt) ((hh.returned i).trans out) ((hh.pool i).trans pool_eq) ((hh.conn i).trans conn_eq)
  | inHand mem => exact inHand mem
  | orphaned mem => exact orphaned mem
  | doomed mem => exact doomed _ mem
  | ended ended => exact .ended (T.outlook.ended_later hlater ended)
  | hungUp mem => exact .hungUp (hup mem)

namespace Circulates

variable {cs left : List ConnId}

/-- Connections pass from one place to another, and everything else stays as it is. -/
theorem moved (hw : w.Circulates T kept g) (hlater : T.outlook.later w.backend w'.backend) (ho : w'.opened = w.opened)
    (hh : w'.handles.map Handle.bare = w.handles.map Handle.bare)
    (hp : w'.pools.map Pool.shell = w.pools.map Pool.shell) (hcached : ∀ k, w'.poolAt? k = w.poolAt? k)
    (hg : handlesOf g' = handlesOf g) (shut : ∀ p, (w'.pool p).closed = true → (w'.pool p).idle = [])
    (once : ∀ c, w'.shelved.count c + w'.orphans.count c + (connsOf g').count c + w'.hungUp.count c ≤
      w.shelved.count c + w.orphans.count c + (connsOf g).count c + w.hungUp.count c)
    (placed : ∀ p c, w.Lodged T g p c → w'.Lodged T g' p c)
    (ended : ∀ c ∈ w'.hungUp, c ∈ w.hungUp ∨ T.outlook.trusting ∨ T.outlook.ended c w'.backend)
    (barred : ∀ c n, .doomed c n ∈ g' → w.Barred c n) : w'.Circulates T kept g' := by
  have hn : w'.opened.Nodup → w.opened.Nodup := fun hn => ho ▸ hn
  have hlen : w'.handles.length = w.handles.length := by simpa using congrArg List.length hh
  refine ⟨hw.toTallies.of_shell hp hh, hw.toCatalogued.of_shell hp hcached, hw.toUntouched.of_bare hg hn hh,
    shut, fun c => ?_, fun h hlt => ?_, fun c hc => ?_, fun c hc => ?_, fun c n hc => (barred c n hc).of_bare hn hh⟩
  · -- no connection is counted more often than before
    have hold := hw.once c
    have hnew := once c
    rw [lent_of_bare hh, ho]
    omega
  · obtain ⟨hpool, hconn, -⟩ := handle_of_bare hh h
    rw [hpool, hconn]
    exact placed _ _ (hw.placed h (hlen ▸ hlt))
  · exact T.outlook.has_later hlater (hw.has c (ho ▸ hc))
  · rcases ended c hc with hold | hnew
    · exact (hw.ended c hold).imp_right (T.outlook.ended_later hlater)
    · exact hnew

/-- What passes nothing on leaves everything where it is. -/
theorem serene (hw : w.Circulates T kept g) (hs : w.Serene T w') : w'.Circulates T kept g := by
  have hshell : w'.pools.map Pool.shell = w.pools.map Pool.shell := by
    have hmap := congrArg (List.map Pool.shell) hs.pools
    rwa [List.map_map, List.map_map] at hmap
  have hup : w'.hungUp = w.hungUp := hs.hungUp_eq
  refine hw.moved hs.later hs.opened_eq hs.handles hshell hs.cached rfl (fun p hp => ?_) (fun c => ?_)
    (fun p c h => h.moved hs.later (.of_bare hs.handles) (hup ▸ List.Subset.refl _) ?_ .inHand ?_ fun _ => .doomed)
    ?_ hw.barred
  · obtain ⟨-, hidle, -, hclosed⟩ := hs.pool_eq p
    rw [hidle]
    exact hw.shut p (hclosed ▸ hp)
  · rw [shelved_of_stock hs.pools, hs.orphans, hup]
  · exact fun hc => .idle ((hs.pool_eq p).2.1 ▸ hc)
  · exact fun hc => .orphaned (hs.orphans ▸ hc)
  · exact fun c hc => .inl (hup ▸ hc)

/-- If the driver opens no connection twice, what is in one place is in no other one. -/
theorem count_le_one (hw : w.Circulates T kept g) (hn : w.opened.Nodup) (d : ConnId) :
    w.shelved.count d + w.lent.count d + w.orphans.count d + (connsOf g).count d + w.hungUp.count d ≤ 1 :=
  Nat.le_trans (hw.once d) (List.nodup_iff_count_le_one.1 hn d)

/-- A connection in hand was not told to close. -/
theorem not_hungUp (hw : w.Circulates T kept (.conn p c ::ₘ g)) (hn : w.opened.Nodup) : c ∉ w.hungUp := fun hc => by
  have hone := hw.count_le_one hn c
  have hup := List.count_pos_iff.2 hc
  rw [connsOf_cons, Multiset.count_add, Freight.conns, Multiset.count_singleton_self] at hone
  omega

end Circulates

/-! ### In the beginning -/

/-- Nothing was opened, handed out or told to close yet. -/
structure Unused (kept : Prop) (w : World D) : Prop extends Catalogued kept w where
  handles : w.handles = []
  orphans : w.orphans = []
  opened : w.opened = []
  hungUp : w.hungUp = []
  pools : ∀ P ∈ w.pools, P.idle = [] ∧ P.active = 0

theorem Unused.circulates (h : w.Unused kept) : w.Circulates T kept 0 := by
  have hnone : ∀ i, ¬ i < w.handles.length := fun i => by simp [h.handles]
  have hshelved : w.shelved = [] := List.flatMap_eq_nil_iff.2 fun P hP => (h.pools P hP).1
  have hpool : ∀ p < w.pools.length, (w.pool p).idle = [] ∧ (w.pool p).active = 0 := fun p hp => by
    refine h.pools _ ?_
    rw [pool, List.getD_eq_getElem?_getD, List.getElem?_eq_getElem hp]
    exact List.getElem_mem hp
  refine ⟨⟨fun i hi => absurd hi (hnone i), fun p hp => ?_⟩, h.toCatalogued,
    ⟨Multiset.nodup_zero, fun i hi => absurd hi (Multiset.notMem_zero _),
      fun i hi => absurd hi (Multiset.notMem_zero _)⟩,
    fun p hp => (hpool p (lt_of_closed hp)).1, fun c => ?_, fun i hi => absurd hi (hnone i), fun c hc => ?_,
    fun c hc => ?_, fun c n hc => absurd hc (Multiset.notMem_zero _)⟩
  · rw [(hpool p hp).2, outOf, h.handles]
    rfl
  · have hlent : w.lent = [] := by simp [lent, h.handles]
    rw [hshelved, hlent, h.orphans, h.hungUp, h.opened]
    exact Nat.le_refl 0
  · rw [h.opened] at hc
    cases hc
  · rw [h.hungUp] at hc
    cases hc

end Relations

end World

end ReplicaRouter
