import ReplicaRouter.Proofs.Foreground
import ReplicaRouter.Proofs.Session
import ReplicaRouter.Sim.Cluster
/-
Sessions that never have to wait can be computed: what the programs come to when they are run is one of
the ways in which they may end. A stage of one writer and one reader is set for examples.
Main statements: `Session.opens_of_open?` and `Session.run_of_calls?`.
-/
namespace ReplicaRouter

variable {D : Type}

/-- Whether two answers are the same is decided by what they hold. -/
instance decidableEqAnswer : DecidableEq Answer
  | .ok a, .ok b => decidable_of_iff (a = b) (by rw [Except.ok.injEq])
  | .error e, .error f => decidable_of_iff (e = f) (by rw [Except.error.injEq])
  | .ok _, .error _ => isFalse nofun
  | .error _, .ok _ => isFalse nofun

/-- What work comes to that never has to wait. -/
def Outcome.value? {W α : Type} : Outcome W α → Option (α × W)
  | .done a w => some (a, w)
  | .blocked .. => none

theorem Outcome.ends_of_value? {W α : Type} {others : W → W → Prop} {o : Outcome W α} {a : α} {w : W}
    {now : Instant} (h : o.value? = some (a, w)) : o.Ends others now a now w := by
  cases o with
  | done b v => cases h; exact .done ..
  | blocked => cases h

theorem Outcome.ends_of_isSome {W α : Type} {others : W → W → Prop} {o : Outcome W α} (h : o.value?.isSome = true)
    (now : Instant) : o.Ends others now (o.value?.get h).1 now (o.value?.get h).2 :=
  Outcome.ends_of_value? (Option.some_get h).symm

/-- Work that never has to wait ends in one way only. -/
theorem Outcome.eq_of_ends {W α : Type} {others : W → W → Prop} {o : Outcome W α} {a b : α} {w v : W}
    {now later : Instant} (h : o.value? = some (a, w)) (hends : o.Ends others now b later v) :
    b = a ∧ later = now ∧ v = w := by
  cases o with
  | done c u =>
    cases h
    cases hends
    exact ⟨rfl, rfl, rfl⟩
  | blocked => cases h

/-- Work that never has to wait is played to its end at once. -/
theorem Outcome.plays_of_value? {W α : Type} {calls : W → Routine W Unit → Prop} {others : W → W → Prop}
    {o : Outcome W α} {a : α} {w : W} {s : Schedule W} (h : o.value? = some (a, w)) :
    o.Plays calls others s (some a) { s with world := w } := by
  cases o with
  | done b v => cases h; exact .done ..
  | blocked => cases h

/-- Work that never has to wait cannot be played in any other way. -/
theorem Outcome.eq_of_value? {W α : Type} {calls : W → Routine W Unit → Prop} {others : W → W → Prop}
    {o : Outcome W α} {a : α} {w : W} {s s' : Schedule W} {r : Option α} (h : o.value? = some (a, w))
    (hplays : o.Plays calls others s r s') : r = some a ∧ s' = { s with world := w } := by
  cases o with
  | done b v => cases h; exact Outcome.plays_done.1 hplays
  | blocked => cases h

/-- The schedule after a call was begun. -/
def Schedule.ask {W : Type} (s : Schedule W) (x : Routine W Unit) : Schedule W := s.absorb (x s.clock s.world)

theorem Schedule.Run.ask {W : Type} {calls : W → Routine W Unit → Prop} {others : W → W → Prop} {s s' : Schedule W}
    (h : Schedule.Run calls others s s') {x : Routine W Unit} (hx : calls s'.world x) :
    Schedule.Run calls others s (s'.ask x) :=
  .tail h (.call hx)

/-- Where an act ends that never has to wait. -/
def Act.end? {α : Type} (x : Act D α) (p : Place D) : Option (α × Place D) :=
  match (x.run p.service p.clock p.world).value? with
  | some ((a, v), w) => some (a, ⟨v, p.clock, w⟩)
  | none => none

theorem Act.ends_of_end? {α : Type} {others : World D → World D → Prop} {x : Act D α} {p q : Place D} {a : α}
    (h : x.end? p = some (a, q)) : Act.Ends others x p a q := by
  unfold end? at h
  split at h
  · next hrun =>
    cases h
    exact Outcome.ends_of_value? hrun
  · cases h

/-- Where a program ends that never has to wait. -/
def Split.end? {α : Type} (x : Split D α) (s : Stand D) : Option (α × Stand D) :=
  match ((x.run s.splitter).run s.service s.clock s.world).value? with
  | some (((a, x'), v), w) => some (a, ⟨⟨v, s.clock, w⟩, x'⟩)
  | none => none

theorem Split.ends_of_end? {α : Type} {others : World D → World D → Prop} {x : Split D α} {s s' : Stand D} {a : α}
    (h : x.end? s = some (a, s')) : Split.Ends others x s a s' := by
  unfold end? at h
  split at h
  · next hrun =>
    cases h
    exact Outcome.ends_of_value? hrun
  · cases h

/-- It ends nowhere else. -/
theorem Split.eq_of_end? {α : Type} {others : World D → World D → Prop} {x : Split D α} {s s' t : Stand D} {a b : α}
    (h : x.end? s = some (a, s')) (hends : Split.Ends others x s b t) : b = a ∧ t = s' := by
  unfold end? at h
  split at h
  · next hrun =>
    cases h
    obtain ⟨hb, ht, hw⟩ := Outcome.eq_of_ends hrun hends
    obtain ⟨hb, hv⟩ := Prod.mk.inj hb
    obtain ⟨hb, hx⟩ := Prod.mk.inj hb
    exact ⟨hb, Stand.ext hv ht hw hx⟩
  · cases h

namespace Session

/-- The session that a connection with this splitter makes up. -/
def ofConnection (c : Connection Splitter D) (x : Splitter) (p : Place D) : Session D where
  toPlace := p
  splitter := x
  host := c.host
  props := c.props
  mode := c.readOnly
  closed := c.closed

variable [Backend D]

theorem connection_ofConnection {c : Connection Splitter D} {x : Splitter} (hc : c.chain = [(Split.plugin, x)])
    (p : Place D) : (ofConnection c x p).connection = c := by
  unfold connection ofConnection
  rw [← hc]

/-- The session that is opened without waiting. -/
def open? (p : Place D) (x : Splitter) (host : Host) (props : Properties) : Option (Session D) :=
  match ((Connection.open [(Split.plugin, x)] host props).run p.service p.clock p.world).value? with
  | some ((.ok c, v), w) => some (ofConnection c x ⟨v, p.clock, w⟩)
  | _ => none

/-- The call that is made without waiting. -/
def call? (s : Session D) (op : Operation) : Option (Leg D) :=
  match (((Connection.ask op).run s.connection).run s.service s.clock s.world).value? with
  | some (((ans, c), v), w) =>
    c.chain.head?.map fun e => ⟨s, op, ans, ofConnection c e.2 ⟨v, s.clock, w⟩⟩
  | none => none

/-- The calls that are made one after the other without waiting. -/
def calls? (s : Session D) : List Operation → Option (List (Leg D) × Session D)
  | [] => some ([], s)
  | op :: ops => do
    let k ← s.call? op
    let (ks, s') ← k.after.calls? ops
    return (k :: ks, s')

variable {others : World D → World D → Prop} {s s' : Session D}

/-- A call leaves nothing but read/write splitting in the chain. -/
theorem exists_chain_of_ends {op : Operation} {p q : Place D} {ans : Answer} {c : Connection Splitter D}
    (h : Act.EndsOver others (Connection.ask op) s.connection p ans c q) :
    ∃ x, c.chain = [(Split.plugin, x)] := by
  rcases Connection.ends_ask h with ⟨-, -, -, rfl, -⟩ | ⟨r, d, hd, -, rfl⟩
  · exact ⟨s.splitter, rfl⟩
  · rw [Connection.chain_remember]
    rcases Connection.ends_dispatch hd with ⟨-, -, rfl, -⟩ | ⟨-, chain, hx, rfl⟩
    · exact ⟨s.splitter, rfl⟩
    · obtain ⟨x', -, -, -, rfl, -⟩ := Split.ends_through hx
      exact ⟨x', rfl⟩

theorem taken_of_call? {op : Operation} {k : Leg D} (h : s.call? op = some k) :
    k.before = s ∧ k.Taken others := by
  unfold call? at h
  split at h
  · next ans c v w hrun =>
    have hends : Act.EndsOver others (Connection.ask op) s.connection s.toPlace ans c ⟨v, s.clock, w⟩ :=
      Outcome.ends_of_value? hrun
    obtain ⟨x, hx⟩ := exists_chain_of_ends hends
    rw [hx] at h
    cases h
    refine ⟨rfl, ?_⟩
    show Act.EndsOver others _ _ _ _ (ofConnection c x _).connection _
    rw [connection_ofConnection hx]
    exact hends
  · cases h

theorem run_of_calls? {ops : List Operation} {ks : List (Leg D)} (h : s.calls? ops = some (ks, s')) :
    Run others s ks s' := by
  induction ops generalizing s ks with
  | nil => cases h; exact .start
  | cons op ops ih =>
    obtain ⟨k, hk, h⟩ := Option.bind_eq_some_iff.1 h
    obtain ⟨⟨js, u⟩, hjs, h⟩ := Option.bind_eq_some_iff.1 h
    cases h
    have htaken : k.before = s ∧ k.Taken others := taken_of_call? hk
    obtain ⟨rfl, ht⟩ := htaken
    exact Run.trans (Run.call .start ht) (ih hjs)

theorem run_of_get {ops : List Operation} (h : (s.calls? ops).isSome = true) :
    Run others s ((s.calls? ops).get h).1 ((s.calls? ops).get h).2 :=
  run_of_calls? (Option.some_get h).symm

variable [Bystanders others]

theorem opens_of_open? {p : Place D} {x : Splitter} {host : Host} {props : Properties}
    (hv : p.service.current = none ∧ p.service.transaction = {} ∧ p.world.journal = [])
    (hx : x.writer = none ∧ x.reader = none ∧ x.stale = none ∧ x.readOnly = false)
    (h : open? p x host props = some s) : s.Opens others := by
  unfold open? at h
  split at h
  · next c v w hrun =>
    cases h
    have hends : Act.Ends others (Connection.open [(Split.plugin, x)] host props) p (.ok c) ⟨v, p.clock, w⟩ :=
      Outcome.ends_of_value? hrun
    obtain ⟨hc, -⟩ := Connection.ends_open hends
    refine ⟨p, x, hv.1, hv.2.1, hv.2.2, hx.1, hx.2.1, hx.2.2.1, hx.2.2.2, ?_⟩
    rw [connection_ofConnection (congrArg Connection.chain hc)]
    subst hc
    exact hends
  · cases h

end Session

/-! ## Evidence in the journal -/

/-- Whether the entry tells that the operation was sent. -/
def Entry.sends (op : Operation) : Entry → Bool
  | call (.invoke _ _ sent _) => sent == op
  | _ => false

theorem Entry.Quiet.countP_sends {op : Operation} {es : List Entry} (h : Entry.Quiet es)
    (hop : op ≠ .setReadOnly true) : es.countP (Entry.sends op) = 0 := by
  have hsetUp : (Operation.setReadOnly true == op) = false := beq_eq_false_iff_ne.2 hop.symm
  induction h with
  | nil => rfl
  | @note e es unsent _ ih =>
    have he : Entry.sends op e = false := by
      cases e with
      | call c =>
        cases c with
        | invoke => cases unsent
        | _ => rfl
      | _ => rfl
    rw [List.countP_cons_of_neg (by rw [he]; exact Bool.false_ne_true), ih]
  | setUp _ ih =>
    rw [List.countP_cons_of_neg (by rw [Entry.sends, hsetUp]; exact Bool.false_ne_true),
      List.countP_cons_of_neg Bool.false_ne_true, ih]

/-- An operation that was sent during a call has passed. -/
theorem Leg.Taken.passes_of_countP [Backend D] {others : World D → World D → Prop} [Bystanders others] {k : Leg D}
    (h : k.Taken others) (hop : k.op ≠ .setReadOnly true)
    (hlt : k.before.world.journal.countP (Entry.sends k.op) < k.after.world.journal.countP (Entry.sends k.op)) :
    ∃ s₁ ans s₂, k.Passes others s₁ ans s₂ := by
  have hnot : ¬ k.before.world.Upkeep k.after.world := by
    intro hu
    obtain ⟨es, hes, hj⟩ := hu.quiet
    rw [hj, List.countP_append, hes.countP_sends hop, Nat.zero_add] at hlt
    exact Nat.lt_irrefl _ hlt
  rcases h.course with ⟨_, stays, _, _⟩ | ⟨_, refuses, _, _⟩ | ⟨passes⟩
  · rw [show k.after.world = k.before.world from congrArg (fun s => s.world) stays] at hnot
    exact absurd (.refl _) hnot
  · exact absurd refuses.upkeep hnot
  · exact ⟨_, _, _, passes⟩

/-! ## A stage -/

namespace Stage

/-- The host that takes writes. -/
def writer : Host := ⟨"w", none, .writer⟩

/-- The host that serves reads. -/
def reader : Host := ⟨"r", none, .reader⟩

/-- Before anything happened: a database of two hosts, with links straight to it. -/
def place : Place Sim.Cluster where
  service := { protocol := "db", providers := {} }
  clock := 0
  world := { backend := {}, hosts := { topology := [writer, reader] }, cache := .empty ⟨0⟩ ⟨0⟩ 0 }

/-- Read/write splitting without load balancing. -/
def splitter : Splitter := { props := [], selector := .roundRobin 0 }

/-- The session opened against the writer. -/
def session : Session Sim.Cluster := (Session.open? place splitter writer []).get (by rfl)

theorem opens_session : session.Opens World.Aside :=
  Session.opens_of_open? ⟨rfl, rfl, rfl⟩ ⟨rfl, rfl, rfl, rfl⟩ (Option.some_get _).symm

/-- The session has been on the reader and is back on the writer. -/
def returned : List (Leg Sim.Cluster) × Session Sim.Cluster :=
  (session.calls? [.setReadOnly true, .setReadOnly false]).get (by decide +kernel)

end Stage

end ReplicaRouter
