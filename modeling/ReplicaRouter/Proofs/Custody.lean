import Mathlib.Data.List.GetD
import Mathlib.Algebra.Order.Group.Multiset
import ReplicaRouter.Cache.Lemmas
import ReplicaRouter.Proofs.Metering
/-
Who has to see to what. Connections, pools and handles pass between the driver, the pools, the cache and the
calls that are at work; a call has to see to what it holds for as long as it waits, and hands it on before it
ends. A `Move` is one such step of the world together with the charges that it takes and gives.
Main statements: whatever moves do is a matter of course for everybody else (`World.Move.follows`), and in
every world that was reached by moves a pool's connections were opened as the pool says (`World.Reached.sane`).
-/
namespace ReplicaRouter

variable {D : Type}

/-- Something that somebody has to see to. -/
inductive Charge where
  /-- A connection that is neither with a pool nor with a handle. -/
  | conn (c : ConnId)
  /-- A pool that is not in the cache. -/
  | pool (p : PoolId)
  /-- A handle that perhaps nobody holds. -/
  | fresh (h : HandleId)
  /-- A place that holds a handle. -/
  | ref (h : HandleId)
  /-- The right to put pools into the cache. -/
  | licence
  /-- The keys whose pools are still to be taken out of the cache. -/
  | clearing (keys : List String)
  deriving DecidableEq

/-- What is taken for granted, and what may be done. -/
structure Terms (D : Type) [Backend D] where
  outlook : Backend.Outlook D
  isValid (c : ConnId) (limit : Duration) (d : D) :
    (Backend.isValid c limit).Abides outlook.later d fun _ _ => True
  /-- Whether operations run over connections. -/
  uses : Prop
  /-- Whether somebody may forget what he has to see to. -/
  careless : Prop
  /-- The pools that may be created. -/
  blueprint : Pool → Prop

/-! ## What stays -/

namespace Pool

/-- What a pool was created with. -/
def terms (P : Pool) : Pool := { P with idle := [], active := 0, closed := false, permits := default }

/-- The pool without its counts. -/
def bare (P : Pool) : Pool := { P with active := 0, permits := default }

theorem of_terms {P P' : Pool} (h : P'.terms = P.terms) :
    P'.key = P.key ∧ P'.protocol = P.protocol ∧ P'.host = P.host ∧ P'.props = P.props ∧ P'.config = P.config := by
  simpa [terms] using h

/-- The connection was opened as the pool says, and put into read-only mode afterwards if the pool asks for it. -/
def Supplied (P : Pool) (journal : List Entry) (c : ConnId) : Prop :=
  ∃ since before, journal = since ++ .call (.connect P.protocol P.host P.props (some c)) :: before ∧
    (P.config.readOnly = true → ∃ o reply, .call (.invoke c o (.setReadOnly true) (.ok reply)) ∈ since)

theorem Supplied.later {P P' : Pool} {journal journal' : List Entry} {c : ConnId} (h : P.Supplied journal c)
    (hP : P'.terms = P.terms) (hj : journal <:+ journal') : P'.Supplied journal' c := by
  obtain ⟨since, before, rfl, hmode⟩ := h
  obtain ⟨es, rfl⟩ := hj
  obtain ⟨-, hprotocol, hhost, hprops, hconfig⟩ := of_terms hP
  refine ⟨es ++ since, before, ?_, fun hread => ?_⟩
  · rw [hprotocol, hhost, hprops, List.append_assoc]
  · obtain ⟨o, reply, hsent⟩ := hmode (hconfig ▸ hread)
    exact ⟨o, reply, List.mem_append_right _ hsent⟩

theorem Supplied.opened {P : Pool} {journal : List Entry} {c : ConnId} (h : P.Supplied journal c) :
    c ∈ journal.filterMap Entry.opened? := by
  obtain ⟨since, before, rfl, -⟩ := h
  simp [Entry.opened?]

end Pool

/-- The handle without its permit. -/
def Handle.bare (e : Handle) : Handle := { e with hasPermit := false }

namespace World

/-- The pool in the cache under a key. -/
def poolAt? (w : World D) (k : String) : Option PoolId := (w.cache.cached? k).map (·.value)

theorem poolAt?_of_cached {k : String} {e : Cached PoolId} {w : World D} (h : w.cache.cached? k = some e) :
    w.poolAt? k = some e.value := by
  rw [poolAt?, h]
  rfl

theorem poolAt?_of_not_cached {k : String} {w : World D} (h : w.cache.cached? k = none) : w.poolAt? k = none := by
  rw [poolAt?, h]
  rfl

theorem poolAt?_insert (k j : String) (e : Cached PoolId) (w : World D) :
    ({ w with cache := w.cache.insert k e } : World D).poolAt? j = if j = k then some e.value else w.poolAt? j := by
  rw [poolAt?, Cache.cached?_insert]
  split <;> rfl

theorem poolAt?_erase (k j : String) (w : World D) :
    ({ w with cache := w.cache.erase k } : World D).poolAt? j = if j = k then none else w.poolAt? j := by
  rw [poolAt?, Cache.cached?_erase]
  split <;> rfl

variable [Backend D] (T : Terms D)

/-- Between two worlds nothing passed from one to another: the driver did its work, counts changed, and things
were written down. -/
structure Beside (w w' : World D) : Prop where
  later : T.outlook.later w.backend w'.backend
  journal : ∃ es, w'.journal = es ++ w.journal ∧ ∀ e ∈ es, e.opened? = none ∧ e.isSent = false
  pools : w'.pools.map Pool.bare = w.pools.map Pool.bare
  handles : w'.handles.map Handle.bare = w.handles.map Handle.bare
  orphans : w'.orphans = w.orphans
  cached : ∀ k, w'.poolAt? k = w.poolAt? k

/-- Whether the second world may follow upon the first. -/
structure Follows (w w' : World D) : Prop extends HandlesStay w w' where
  later : T.outlook.later w.backend w'.backend
  journal : w.journal <:+ w'.journal
  pools_le : w.pools.length ≤ w'.pools.length
  terms : ∀ p < w.pools.length, (w'.pool p).terms = (w.pool p).terms
  shut : ∀ p, (w.pool p).closed = true → (w'.pool p).closed = true
  lender : ∀ h < w.handles.length, (w'.handle h).pool = (w.handle h).pool

variable {T} {u v w w' : World D}

theorem Follows.refl (w : World D) : w.Follows T w :=
  ⟨.refl w, T.outlook.refl _, List.suffix_rfl, Nat.le_refl _, fun _ _ => rfl, fun _ h => h, fun _ _ => rfl⟩

theorem Follows.trans (h1 : u.Follows T v) (h2 : v.Follows T w) : u.Follows T w where
  toHandlesStay := h1.toHandlesStay.trans h2.toHandlesStay
  later := T.outlook.trans h1.later h2.later
  journal := h1.journal.trans h2.journal
  pools_le := Nat.le_trans h1.pools_le h2.pools_le
  terms p hp := (h2.terms p (Nat.lt_of_lt_of_le hp h1.pools_le)).trans (h1.terms p hp)
  shut p hp := h2.shut p (h1.shut p hp)
  lender h hh := (h2.lender h (Nat.lt_of_lt_of_le hh h1.length_le)).trans (h1.lender h hh)

instance : Frame (Follows T) (Follows T) := ⟨.refl, .trans, id⟩

omit [Backend D] in
/-- A pool that is closed is there. -/
theorem lt_of_closed {p : PoolId} (h : (w.pool p).closed = true) : p < w.pools.length := by
  refine Nat.lt_of_not_le fun hn => ?_
  rw [pool, List.getD_eq_getElem?_getD, List.getElem?_eq_none hn] at h
  cases h

omit [Backend D] in
theorem pool_append_of_lt (P : Pool) {w : World D} {p : PoolId} (hp : p < w.pools.length) :
    ({ w with pools := w.pools ++ [P] } : World D).pool p = w.pool p := by
  simp [pool, List.getD_eq_getElem?_getD, List.getElem?_append_left hp]

omit [Backend D] in
theorem pool_append_length (P : Pool) (w : World D) :
    ({ w with pools := w.pools ++ [P] } : World D).pool w.pools.length = P := by
  simp [pool, List.getD_eq_getElem?_getD]

theorem Follows.of_eq (hb : w'.backend = w.backend) (hj : w'.journal = w.journal) (hp : w'.pools = w.pools)
    (hh : w'.handles = w.handles) : w.Follows T w' where
  toHandlesStay := .of_eq hh
  later := hb ▸ T.outlook.refl _
  journal := hj ▸ List.suffix_rfl
  pools_le := Nat.le_of_eq (by rw [hp])
  terms p _ := by rw [pool, hp]; rfl
  shut p h := by rw [pool, hp]; exact h
  lender h _ := by rw [handle, hh]; rfl

theorem Follows.note (e : Entry) (w : World D) : w.Follows T (Journaled.note e w) where
  toHandlesStay := .of_eq rfl
  later := T.outlook.refl _
  journal := List.suffix_cons e w.journal
  pools_le := Nat.le_refl _
  terms _ _ := rfl
  shut _ h := h
  lender _ _ := rfl

theorem Follows.supplied {p : PoolId} {c : ConnId} (h : w.Follows T w') (hp : p < w.pools.length)
    (hc : (w.pool p).Supplied w.journal c) : (w'.pool p).Supplied w'.journal c :=
  hc.later (h.terms p hp) h.journal

theorem Follows.opened {c : ConnId} (h : w.Follows T w') (hc : c ∈ w.opened) : c ∈ w'.opened :=
  (h.journal.filterMap Entry.opened?).subset hc

/-- Pools are the same but for their counts. -/
theorem Beside.bare_pool (h : w.Beside T w') (p : PoolId) : (w'.pool p).bare = (w.pool p).bare := by
  have hmap := congrArg (fun l => l.getD p (Pool.bare default)) h.pools
  simp only [List.getD_map] at hmap
  exact hmap

theorem Beside.bare_handle (h : w.Beside T w') (i : HandleId) : (w'.handle i).bare = (w.handle i).bare := by
  have hmap := congrArg (fun l => l.getD i (Handle.bare default)) h.handles
  simp only [List.getD_map] at hmap
  exact hmap

theorem Beside.pools_length (h : w.Beside T w') : w'.pools.length = w.pools.length := by
  simpa using congrArg List.length h.pools

theorem Beside.handles_length (h : w.Beside T w') : w'.handles.length = w.handles.length := by
  simpa using congrArg List.length h.handles

theorem Beside.pool_eq (h : w.Beside T w') (p : PoolId) : (w'.pool p).terms = (w.pool p).terms ∧
    (w'.pool p).idle = (w.pool p).idle ∧ (w'.pool p).closed = (w.pool p).closed := by
  have hbare := h.bare_pool p
  simp only [Pool.bare, Pool.mk.injEq] at hbare
  simp [Pool.terms, hbare]

theorem Beside.handle_eq (h : w.Beside T w') (i : HandleId) : (w'.handle i).pool = (w.handle i).pool ∧
    (w'.handle i).conn = (w.handle i).conn ∧ (w'.handle i).returned = (w.handle i).returned ∧
    (w'.handle i).holders = (w.handle i).holders := by
  have hbare := h.bare_handle i
  simp only [Handle.bare, Handle.mk.injEq] at hbare
  simp [hbare]

theorem Beside.opened_eq (h : w.Beside T w') : w'.opened = w.opened := by
  obtain ⟨es, hj, hes⟩ := h.journal
  have hnone : es.filterMap Entry.opened? = [] := List.filterMap_eq_nil_iff.2 fun e he => (hes e he).1
  rw [opened, hj, List.filterMap_append, hnone]
  rfl

theorem Beside.follows (h : w.Beside T w') : w.Follows T w' := by
  obtain ⟨es, hj, -⟩ := h.journal
  refine ⟨⟨Nat.le_of_eq h.handles_length.symm, fun i _ => (h.handle_eq i).2.1, fun i hi => ?_⟩, h.later, ?_,
    Nat.le_of_eq h.pools_length.symm, fun p _ => (h.pool_eq p).1, fun p hp => ?_, fun i _ => (h.handle_eq i).1⟩
  · rw [(h.handle_eq i).2.2.1]
    exact hi
  · rw [hj]
    exact List.suffix_append es w.journal
  · rw [(h.pool_eq p).2.2]
    exact hp

theorem Beside.refl (w : World D) : w.Beside T w :=
  ⟨T.outlook.refl _, ⟨[], rfl, nofun⟩, rfl, rfl, rfl, fun _ => rfl⟩

theorem Beside.note {e : Entry} (ho : e.opened? = none) (hs : e.isSent = false) (w : World D) :
    w.Beside T (Journaled.note e w) :=
  ⟨T.outlook.refl _, ⟨[e], rfl, fun _ he => List.mem_singleton.1 he ▸ ⟨ho, hs⟩⟩, rfl, rfl, rfl, fun _ => rfl⟩

/-! ## Moves -/

/-- How a pool is changed, with what the change takes and gives. -/
inductive Shelf (T : Terms D) (w : World D) (p : PoolId) :
    (Pool → Pool) → Multiset Charge → Multiset Charge → Prop
  /-- Idle connections that are over are taken off. -/
  | trimmed {gone left : List ConnId} (idle : (w.pool p).idle = gone ++ left)
      (ended : ∀ c ∈ gone, T.outlook.ended c w.backend) : Shelf T w p (fun P => { P with idle := left }) 0 0
  | taken {gone left : List ConnId} {c : ConnId} (idle : (w.pool p).idle = gone ++ c :: left)
      (ended : ∀ c ∈ gone, T.outlook.ended c w.backend) :
      Shelf T w p (fun P => { P with idle := left }) 0 {.conn c}
  | put {c : ConnId} (supplied : (w.pool p).Supplied w.journal c) (isOpen : (w.pool p).closed = false) :
      Shelf T w p (fun P => { P with idle := c :: P.idle }) {.conn c} 0
  | shut : Shelf T w p (fun P => { P with closed := true, idle := [] }) 0 ((w.pool p).idle.map .conn : List Charge)

/-- How a handle is changed, with what the change takes and gives. -/
inductive Grip (w : World D) (h : HandleId) : (Handle → Handle) → Multiset Charge → Multiset Charge → Prop
  | returned (out : (w.handle h).returned = false) :
      Grip w h (fun e => { e with returned := true }) 0 {.conn (w.handle h).conn}
  | held : Grip w h (fun e => { e with holders := e.holders + 1 }) 0 {.ref h}
  | loosened : Grip w h (fun e => { e with holders := e.holders - 1 }) {.ref h} {.fresh h}

/-- What is taken and given while the world stays as it is. -/
inductive Exchange (T : Terms D) (w : World D) : Multiset Charge → Multiset Charge → Prop
  | ended {c : ConnId} (ended : T.outlook.trusting ∨ T.outlook.ended c w.backend) : Exchange T w {.conn c} 0
  | closed {p : PoolId} (closed : (w.pool p).closed = true) : Exchange T w {.pool p} 0
  | settled {h : HandleId} (settled : (w.handle h).returned = true ∨ 0 < (w.handle h).holders) :
      Exchange T w {.fresh h} 0
  | licensed : Exchange T w 0 {.licence}
  /-- The right to put pools in is given up for the duty to take all of them out. -/
  | renounced {keys : List String} (all : ∀ k, w.poolAt? k ≠ none → k ∈ keys) :
      Exchange T w {.licence} {.clearing keys}
  | crossed {k : String} {keys : List String} (absent : w.poolAt? k = none) :
      Exchange T w {.clearing (k :: keys)} {.clearing keys}
  | cleared : Exchange T w {.clearing []} 0
  | forgotten (a : Multiset Charge) (careless : T.careless) : Exchange T w a 0

/-- One step of the world, with what it takes and gives. -/
inductive Move (T : Terms D) : World D → Multiset Charge → World D → Multiset Charge → Prop
  | beside {w w' : World D} (beside : w.Beside T w') : Move T w 0 w' 0
  | opened {w : World D} (protocol : String) (host : Host) (props : Properties) {c : ConnId}
      (has : T.outlook.has c w.backend) :
      Move T w 0 (Journaled.note (.call (.connect protocol host props (some c))) w) {.conn c}
  /-- A connection that no pool is meant for is opened. -/
  | strayed {w : World D} (protocol : String) {host : Host} (props : Properties) {c : ConnId}
      (has : T.outlook.has c w.backend) (stray : PooledProvider.accepts host = false) :
      Move T w 0 (Journaled.note (.call (.connect protocol host props (some c))) w) 0
  /-- An operation is sent. Where none run over connections this is what sets a connection up for a pool. -/
  | sent {w : World D} (c : ConnId) (wasOpen : Bool) (op : Operation) (outcome : Except RouteError Reply)
      (why : T.uses ∨ ∃ p < w.pools.length, (w.pool p).config.readOnly = true ∧ .call (.connect (w.pool p).protocol
        (w.pool p).host (w.pool p).props (some c)) ∈ w.journal) :
      Move T w 0 (Journaled.note (.call (.invoke c wasOpen op outcome)) w) 0
  | pool {w : World D} {p : PoolId} {f : Pool → Pool} {a b : Multiset Charge} (valid : p < w.pools.length)
      (shelf : w.Shelf T p f a b) : Move T w a (w.modifyPool p f) b
  | handle {w : World D} {h : HandleId} {f : Handle → Handle} {a b : Multiset Charge} (valid : h < w.handles.length)
      (grip : w.Grip h f a b) : Move T w a (w.modifyHandle h f) b
  | lent {w : World D} {p : PoolId} {c : ConnId} (valid : p < w.pools.length)
      (supplied : (w.pool p).Supplied w.journal c) :
      Move T w {.conn c} { w with handles := w.handles ++ [{ pool := p, conn := c }] } {.fresh w.handles.length}
  | stranded {w : World D} (c : ConnId) : Move T w {.conn c} { w with orphans := w.orphans ++ [c] } 0
  | adopted {w : World D} {c : ConnId} {orphans : List ConnId} (orphaned : w.orphans = c :: orphans) :
      Move T w 0 { w with orphans } {.conn c}
  | created {w : World D} {P : Pool} (made : T.blueprint P) (idle : P.idle = []) :
      Move T w 0 { w with pools := w.pools ++ [P] } {.pool w.pools.length}
  | inserted {w : World D} {k : String} {e : Cached PoolId} (absent : w.poolAt? k = none)
      (key : (w.pool e.value).key = k) :
      Move T w ({.pool e.value} + {.licence}) { w with cache := w.cache.insert k e } {.licence}
  | erased {w : World D} {k : String} {p : PoolId} (cached : w.poolAt? k = some p) :
      Move T w 0 { w with cache := w.cache.erase k } {.pool p}
  | exchanged {w : World D} {a b : Multiset Charge} (exchange : w.Exchange T a b) : Move T w a w b

theorem Shelf.terms_eq {p : PoolId} {f : Pool → Pool} {a b : Multiset Charge} (h : w.Shelf T p f a b) (P : Pool) :
    (f P).terms = P.terms := by
  cases h <;> rfl

theorem Shelf.keeps_shut {p : PoolId} {f : Pool → Pool} {a b : Multiset Charge} (h : w.Shelf T p f a b) {P : Pool}
    (hP : P.closed = true) : (f P).closed = true := by
  cases h <;> first | exact hP | rfl

/-- A pool is changed within its terms. -/
theorem Follows.modifyPool {p : PoolId} {f : Pool → Pool} (hterms : (f (w.pool p)).terms = (w.pool p).terms)
    (hshut : (w.pool p).closed = true → (f (w.pool p)).closed = true) (hp : p < w.pools.length) :
    w.Follows T (w.modifyPool p f) where
  toHandlesStay := .of_eq rfl
  later := T.outlook.refl _
  journal := List.suffix_rfl
  pools_le := by simp [World.modifyPool]
  terms i _ := by
    rw [pool_modifyPool hp]
    split
    · next hi => rw [hterms, hi]
    · rfl
  shut i hi := by
    rw [pool_modifyPool hp]
    split
    · next he => exact hshut (he ▸ hi)
    · exact hi
  lender _ _ := rfl

theorem Follows.modifyHandle {h : HandleId} {f : Handle → Handle} (hpool : ∀ e, (f e).pool = e.pool)
    (hconn : ∀ e, (f e).conn = e.conn) (hreturned : ∀ e, e.returned = true → (f e).returned = true)
    (hh : h < w.handles.length) : w.Follows T (w.modifyHandle h f) where
  toHandlesStay := (Aside.modifyHandle hconn hreturned w).toHandlesStay
  later := T.outlook.refl _
  journal := List.suffix_rfl
  pools_le := Nat.le_refl _
  terms _ _ := rfl
  shut _ hp := hp
  lender i _ := by
    rw [handle_modifyHandle hh]
    split
    · next he => rw [hpool, he]
    · rfl

/-- Whatever a move does, the world may follow upon the one before. -/
theorem Move.follows {a b : Multiset Charge} (h : Move T w a w' b) : w.Follows T w' := by
  cases h with
  | beside beside => exact beside.follows
  | opened | strayed | sent => exact .note _ w
  | pool valid shelf => exact .modifyPool (shelf.terms_eq _) shelf.keeps_shut valid
  | handle valid grip =>
    cases grip with
    | returned out => exact .modifyHandle (fun _ => rfl) (fun _ => rfl) (fun _ _ => rfl) valid
    | held => exact .modifyHandle (fun _ => rfl) (fun _ => rfl) (fun _ h => h) valid
    | loosened => exact .modifyHandle (fun _ => rfl) (fun _ => rfl) (fun _ h => h) valid
  | lent =>
    exact { Follows.refl (T := T) w with
      toHandlesStay := (Aside.append_handle _ w).toHandlesStay
      lender := fun i hi => by rw [handle_append_of_lt _ hi] }
  | stranded | adopted => exact .of_eq rfl rfl rfl rfl
  | created =>
    exact { Follows.refl (T := T) w with
      toHandlesStay := .of_eq rfl
      pools_le := by simp
      terms := fun p hp => by rw [pool_append_of_lt _ hp]
      shut := fun p hp => by rw [pool_append_of_lt _ (lt_of_closed hp)]; exact hp
      lender := fun _ _ => rfl }
  | inserted | erased => exact .of_eq rfl rfl rfl rfl
  | exchanged => exact .refl w

theorem Beside.of_driver {d : D} (hd : T.outlook.later w.backend d) : w.Beside T (backendPart.set d w) :=
  ⟨hd, ⟨[], rfl, nofun⟩, rfl, rfl, rfl, fun _ => rfl⟩

/-! ## Reached worlds -/

/-- Nothing was opened, borrowed or kept yet. -/
structure Pristine (w : World D) : Prop where
  journal : ∀ e ∈ w.journal, e.opened? = none ∧ e.isSent = false
  pools : w.pools = []
  handles : w.handles = []
  orphans : w.orphans = []
  cached : ∀ k, w.poolAt? k = none

/-- The world was reached by moves, and these are the charges that there are. -/
inductive Reached (T : Terms D) : World D → Multiset Charge → Prop
  | start {w : World D} (pristine : w.Pristine) : Reached T w 0
  | move {w w' : World D} {a b rest : Multiset Charge} (before : Reached T w (a + rest)) (move : Move T w a w' b) :
      Reached T w' (b + rest)

/-- What holds of every world that was reached. -/
structure Sane (T : Terms D) (w : World D) (g : Multiset Charge) : Prop where
  has : ∀ c ∈ w.opened, T.outlook.has c w.backend
  cached : ∀ k p, w.poolAt? k = some p → p < w.pools.length ∧ (w.pool p).key = k
  idle : ∀ p < w.pools.length, ∀ c ∈ (w.pool p).idle, (w.pool p).Supplied w.journal c
  lent : ∀ h < w.handles.length, (w.handle h).pool < w.pools.length ∧
    (w.pool (w.handle h).pool).Supplied w.journal (w.handle h).conn
  orphaned : ∀ c ∈ w.orphans, c ∈ w.opened
  conn : ∀ c, .conn c ∈ g → c ∈ w.opened
  pool : ∀ p, .pool p ∈ g → p < w.pools.length
  handle : ∀ h, .fresh h ∈ g ∨ .ref h ∈ g → h < w.handles.length

omit [Backend D] in
theorem Pristine.opened_eq (h : w.Pristine) : w.opened = [] :=
  List.filterMap_eq_nil_iff.2 fun e he => (h.journal e he).1

theorem Pristine.sane (h : w.Pristine) : w.Sane T 0 where
  has c hc := by rw [h.opened_eq] at hc; cases hc
  cached k p hk := by rw [h.cached] at hk; cases hk
  idle p hp := by rw [h.pools] at hp; cases hp
  lent i hi := by rw [h.handles] at hi; cases hi
  orphaned c hc := by rw [h.orphans] at hc; cases hc
  conn c hc := absurd hc (Multiset.notMem_zero _)
  pool p hp := absurd hp (Multiset.notMem_zero _)
  handle i hi := hi.elim (fun hi => absurd hi (Multiset.notMem_zero _)) fun hi => absurd hi (Multiset.notMem_zero _)

section Sane

variable {a b rest : Multiset Charge} (hs : w.Sane T (a + rest)) (hm : Move T w a w' b)
include hs hm

/-- Every move keeps the driver's knowledge of its connections. -/
theorem Move.has {c : ConnId} (hc : c ∈ w'.opened) : T.outlook.has c w'.backend := by
  have hold : c ∈ w.opened → T.outlook.has c w'.backend := fun hc =>
    T.outlook.has_later hm.follows.later (hs.has c hc)
  cases hm with
  | beside beside => exact hold (beside.opened_eq ▸ hc)
  | opened _ _ _ has => exact (List.mem_cons.1 hc).elim (fun he => he ▸ has) hold
  | strayed _ _ has => exact (List.mem_cons.1 hc).elim (fun he => he ▸ has) hold
  | _ => exact hold hc

theorem Move.cached {k : String} {p : PoolId} (hk : w'.poolAt? k = some p) :
    p < w'.pools.length ∧ (w'.pool p).key = k := by
  have hf := hm.follows
  have hold : w.poolAt? k = some p → p < w'.pools.length ∧ (w'.pool p).key = k := fun hk => by
    obtain ⟨hp, hkey⟩ := hs.cached k p hk
    exact ⟨Nat.lt_of_lt_of_le hp hf.pools_le, (Pool.of_terms (hf.terms p hp)).1.trans hkey⟩
  cases hm with
  | beside beside => exact hold (beside.cached k ▸ hk)
  | @inserted j e absent key =>
    rw [poolAt?_insert] at hk
    split at hk
    · next he =>
      cases hk
      exact ⟨hs.pool e.value (by simp), key.trans he.symm⟩
    · exact hold hk
  | erased cached =>
    rw [poolAt?_erase] at hk
    split at hk
    · cases hk
    · exact hold hk
  | _ => exact hold hk

theorem Move.idle {p : PoolId} {c : ConnId} (hp : p < w'.pools.length) (hc : c ∈ (w'.pool p).idle) :
    (w'.pool p).Supplied w'.journal c := by
  have hf := hm.follows
  have hold : p < w.pools.length → c ∈ (w.pool p).idle → (w'.pool p).Supplied w'.journal c := fun hp hc =>
    hf.supplied hp (hs.idle p hp c hc)
  cases hm with
  | beside beside => exact hold (beside.pools_length ▸ hp) ((beside.pool_eq p).2.1 ▸ hc)
  | @pool q f _ _ valid shelf =>
    replace hp : p < w.pools.length := by simpa [World.modifyPool] using hp
    rw [pool_modifyPool valid] at hc
    split at hc
    · next he =>
      subst he
      cases shelf with
      | trimmed idle => exact hold hp (by rw [idle]; exact List.mem_append_right _ hc)
      | taken idle => exact hold hp (by rw [idle]; exact List.mem_append_right _ (List.mem_cons_of_mem _ hc))
      | put supplied =>
        rcases List.mem_cons.1 hc with rfl | hc
        · exact hf.supplied hp supplied
        · exact hold hp hc
      | shut => cases hc
    · exact hold hp hc
  | @created P made idle =>
    rcases Nat.lt_or_eq_of_le (Nat.le_of_lt_succ (by simpa using hp)) with hlt | rfl
    · rw [pool_append_of_lt P hlt] at hc
      exact hold hlt hc
    · rw [pool_append_length, idle] at hc
      cases hc
  | _ => exact hold hp hc

theorem Move.lends {h : HandleId} (hh : h < w'.handles.length) : (w'.handle h).pool < w'.pools.length ∧
    (w'.pool (w'.handle h).pool).Supplied w'.journal (w'.handle h).conn := by
  have hf := hm.follows
  have hold : h < w.handles.length → (w'.handle h).pool < w'.pools.length ∧
      (w'.pool (w'.handle h).pool).Supplied w'.journal (w'.handle h).conn := fun hh => by
    obtain ⟨hp, hc⟩ := hs.lent h hh
    rw [hf.lender h hh, hf.conn h hh]
    exact ⟨Nat.lt_of_lt_of_le hp hf.pools_le, hf.supplied hp hc⟩
  cases hm with
  | beside beside => exact hold (beside.handles_length ▸ hh)
  | handle => exact hold (by simpa [World.modifyHandle] using hh)
  | lent valid supplied =>
    rcases Nat.lt_or_eq_of_le (Nat.le_of_lt_succ (by simpa using hh)) with hlt | rfl
    · exact hold hlt
    · rw [handle_append_length]
      exact ⟨valid, supplied⟩
  | _ => exact hold hh

theorem Move.orphaned {c : ConnId} (hc : c ∈ w'.orphans) : c ∈ w'.opened := by
  have hold : c ∈ w.orphans → c ∈ w'.opened := fun hc => hm.follows.opened (hs.orphaned c hc)
  cases hm with
  | beside beside => exact hold (beside.orphans ▸ hc)
  | stranded d =>
    rcases List.mem_append.1 hc with hc | hc
    · exact hold hc
    · rw [List.mem_singleton.1 hc]
      exact hs.conn d (by simp)
  | adopted orphaned => exact hold (by rw [orphaned]; exact List.mem_cons_of_mem _ hc)
  | _ => exact hold hc

theorem Move.conn {c : ConnId} (hc : .conn c ∈ b + rest) : c ∈ w'.opened := by
  have hf := hm.follows
  have hold : c ∈ w.opened → c ∈ w'.opened := hf.opened
  -- a connection newly in hand was opened by this move, or comes from a place where it was opened before
  rcases Multiset.mem_add.1 hc with hc | hc
  · cases hm with
    | opened =>
      cases Multiset.mem_singleton.1 hc
      exact List.mem_cons_self
    | pool valid shelf =>
      cases shelf with
      | taken idle =>
        cases Multiset.mem_singleton.1 hc
        exact hold (hs.idle _ valid c (by rw [idle]; simp)).opened
      | shut => exact hold (hs.idle _ valid c (by simpa using hc)).opened
      | _ => cases Multiset.notMem_zero _ hc
    | handle valid grip =>
      cases grip with
      | returned out =>
        cases Multiset.mem_singleton.1 hc
        exact hold (hs.lent _ valid).2.opened
      | loosened => cases Multiset.mem_singleton.1 hc
      | held => cases Multiset.mem_singleton.1 hc
    | adopted orphaned =>
      cases Multiset.mem_singleton.1 hc
      exact hold (hs.orphaned c (by rw [orphaned]; exact List.mem_cons_self))
    | exchanged exchange =>
      cases exchange <;> first | cases Multiset.notMem_zero _ hc | cases Multiset.mem_singleton.1 hc
    | lent | created | inserted | erased => cases Multiset.mem_singleton.1 hc
    | _ => cases Multiset.notMem_zero _ hc
  · exact hold (hs.conn c (Multiset.mem_add.2 (.inr hc)))

theorem Move.pooled {p : PoolId} (hp : .pool p ∈ b + rest) : p < w'.pools.length := by
  have hold : p < w.pools.length → p < w'.pools.length := fun h => Nat.lt_of_lt_of_le h hm.follows.pools_le
  rcases Multiset.mem_add.1 hp with hp | hp
  · cases hm with
    | created =>
      cases Multiset.mem_singleton.1 hp
      simp
    | erased cached =>
      cases Multiset.mem_singleton.1 hp
      exact hold (hs.cached _ _ cached).1
    | pool valid shelf => cases shelf <;> first | cases Multiset.notMem_zero _ hp | simp at hp
    | handle valid grip => cases grip <;> cases Multiset.mem_singleton.1 hp
    | exchanged exchange =>
      cases exchange <;> first | cases Multiset.notMem_zero _ hp | cases Multiset.mem_singleton.1 hp
    | opened | lent | adopted | inserted => cases Multiset.mem_singleton.1 hp
    | _ => cases Multiset.notMem_zero _ hp
  · exact hold (hs.pool p (Multiset.mem_add.2 (.inr hp)))

theorem Move.handled {h : HandleId} (hh : .fresh h ∈ b + rest ∨ .ref h ∈ b + rest) : h < w'.handles.length := by
  have hold : h < w.handles.length → h < w'.handles.length := fun h => Nat.lt_of_lt_of_le h hm.follows.length_le
  simp only [Multiset.mem_add] at hh
  rcases (show (.fresh h ∈ b ∨ .ref h ∈ b) ∨ .fresh h ∈ rest ∨ .ref h ∈ rest by tauto) with hh | hh
  · cases hm with
    | lent => simp at hh; simp [hh]
    | handle valid grip => cases grip <;> simp at hh <;> exact hold (hh ▸ valid)
    | pool valid shelf => cases shelf <;> simp at hh
    | exchanged exchange => cases exchange <;> simp at hh
    | _ => simp at hh
  · exact hold (hs.handle h (by simp only [Multiset.mem_add]; tauto))

end Sane

theorem Reached.sane {g : Multiset Charge} (h : Reached T w g) : w.Sane T g := by
  induction h with
  | start pristine => exact pristine.sane
  | move _ hm ih =>
    exact ⟨fun _ => hm.has ih, fun _ _ => hm.cached ih, fun _ hp _ => hm.idle ih hp, fun _ => hm.lends ih,
      fun _ => hm.orphaned ih, fun _ => hm.conn ih, fun _ => hm.pooled ih, fun _ => hm.handled ih⟩

end World

end ReplicaRouter
