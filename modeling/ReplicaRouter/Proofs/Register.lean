import ReplicaRouter.Proofs.Chronicle
/-
A cache whose operations keep a register: which factory ran for which call, what each look-up came to, what was
put in and what was released, each time with the entries as they were just then. Any number of calls run side
by side over it; their factories may fail, and what they and the releases do to the rest of the world is left open.
Main statement: in any course of events the register is `Legal`, it only grows, and the last entries that it tells
of are those of the cache (`Register.kept_of_run`).
-/
namespace ReplicaRouter

variable {K V U α : Type}

namespace Register

/-! ## The register -/

/-- What can happen to a cache. Calls are told apart by numbers. -/
inductive Event (K V : Type) where
  | put (k : K) (v : V)
  /-- The factory of a call ran, and this is what it made. -/
  | ran (call : Nat) (k : K) (result : Except RouteError V)
  /-- A call that makes a value where there is none answered. -/
  | computed (call : Nat) (k : K) (result : Except RouteError V)
  | got (k : K) (result : Option V)
  /-- A value was taken out and passed on to be released. -/
  | released (v : V)

/-- An event, and the entries of the cache just after it. -/
structure Note (K V : Type) where
  event : Event K V
  left : List (K × Cached V)

/-- The entries of a cache with these notes, latest first, that was empty before them. -/
def entries : List (Note K V) → List (K × Cached V)
  | [] => []
  | n :: _ => n.left

section Legal

variable [DecidableEq K]

/-- The value of a key. -/
def Maps (E : List (K × Cached V)) (k : K) (v : V) : Prop := ∃ t, E.lookup k = some ⟨v, t⟩

/-- A note of one event follows upon these entries. -/
inductive Adds (E : List (K × Cached V)) : Note K V → Prop
  | put {k : K} {v : V} {t : Instant} {L : List (K × Cached V)}
      (left : ∀ j, L.lookup j = if j = k then some ⟨v, t⟩ else E.lookup j) : Adds E ⟨.put k v, L⟩
  /-- A look-up found the value of the key; it puts the last access on. -/
  | got {k : K} {e : Cached V} {t : Instant} {L : List (K × Cached V)} (cached : E.lookup k = some e)
      (left : ∀ j, L.lookup j = if j = k then some (e.touch t) else E.lookup j) : Adds E ⟨.got k (some e.value), L⟩
  | missed {k : K} (absent : E.lookup k = none) : Adds E ⟨.got k none, E⟩
  /-- A call found the value of the key, and made none. -/
  | found {call : Nat} {k : K} {e : Cached V} {t : Instant} {L : List (K × Cached V)} (cached : E.lookup k = some e)
      (left : ∀ j, L.lookup j = if j = k then some (e.touch t) else E.lookup j) :
      Adds E ⟨.computed call k (.ok e.value), L⟩
  | released {k : K} {v : V} {L : List (K × Cached V)} (left : ∀ j, L.lookup j = if j = k then none else E.lookup j) :
      Adds E ⟨.released v, L⟩

/-- What becomes of the entries when a factory came to a result: its value is put in, a failure changes nothing. -/
def Settles (E : List (K × Cached V)) (k : K) : Except RouteError V → List (K × Cached V) → Prop
  | .ok v, L => ∃ t, ∀ j, L.lookup j = if j = k then some ⟨v, t⟩ else E.lookup j
  | .error _, L => L = E

/-- The registers that come about. A factory runs where its key has no value, and its call answers in the same go. -/
inductive Legal : List (Note K V) → Prop
  | nil : Legal []
  | add {ns : List (Note K V)} {n : Note K V} (before : Legal ns) (adds : Adds (entries ns) n) : Legal (n :: ns)
  | ran {ns : List (Note K V)} {call : Nat} {k : K} {r : Except RouteError V} {L : List (K × Cached V)}
      (before : Legal ns) (absent : (entries ns).lookup k = none) (settles : Settles (entries ns) k r L) :
      Legal (⟨.computed call k r, L⟩ :: ⟨.ran call k r, entries ns⟩ :: ns)

end Legal

end Register

open Register

/-- A cache with its register, latest note first, and the rest of the world. -/
structure Register (K V U : Type) where
  cache : Cache K V
  rest : U
  notes : List (Note K V) := []

namespace Register

def cachePart : Part (Register K V U) (Cache K V) where
  get w := w.cache
  set cache w := { w with cache }

def restPart : Part (Register K V U) U where
  get w := w.rest
  set rest w := { w with rest }

def add (event : Event K V) (w : Register K V U) : Register K V U :=
  { w with notes := ⟨event, w.cache.entries⟩ :: w.notes }

/-- Log lines are not part of the register. -/
instance : Journaled (Register K V U) where
  note _ w := w

/-- Runs a factory, and notes what it made or that it failed. -/
def make (call : Nat) (k : K) (factory : U → Except RouteError V × U) (w : Register K V U) :
    Except RouteError V × Register K V U :=
  ((factory w.rest).1, add (.ran call k (factory w.rest).1) { w with rest := (factory w.rest).2 })

end Register

/-- How the values of a cache with a register are released: each release is noted first. -/
def Disposal.registrar (policy : Disposal K V U) : Keeper (Register K V U) K V where
  cache := Register.cachePart
  keyText := policy.keyText
  mayRelease w := policy.mayRelease w.rest
  release v := do
    modify fun w => Register.add (.released v) w
    (policy.release v).focus Register.restPart

section Work

variable [DecidableEq K] (policy : Disposal K V U)

/-- The work of an operation under the number of its call. What it comes to is noted as soon as it is there. -/
def Disposal.serve (call : Nat) : Errand K V U → Routine (Register K V U) Unit
  | .put k v => do
    discard (policy.registrar.put k v)
    modify (Register.add (.put k v))
  | .get k => do
    let result ← policy.registrar.get? k
    modify (Register.add (.got k result))
  | .compute k factory => do
    let result ← policy.registrar.computeIfAbsent k (Register.make call k factory)
    modify (Register.add (.computed call k result))
  | .remove k force => discard (policy.registrar.remove k force)
  | .sweep => discard policy.registrar.sweep
  | .clear => policy.registrar.clear
  | .inspect _ => discard policy.registrar.look
  | .startWorker => discard policy.registrar.startWorker
  | .stopWorker => policy.registrar.stopWorker
  | .goOn id => policy.registrar.goOn id

/-- Any of the operations can be begun at any time, under any number. -/
def Disposal.Serves (_ : Register K V U) (x : Routine (Register K V U) Unit) : Prop :=
  ∃ call e, x = policy.serve call e

end Work

namespace Register

/-- Outside the cache and its register anything may change. -/
def Elsewhere (w v : Register K V U) : Prop := ∃ rest, v = { w with rest }

/-! ## What every operation keeps -/

section Keeping

variable [DecidableEq K]

/-- The register is legal, and tells which entries there are. -/
structure Kept (w : Register K V U) : Prop where
  legal : Legal w.notes
  entries : w.cache.entries = Register.entries w.notes

/-- Nothing is taken out of the register. -/
def Extends (w v : Register K V U) : Prop := ∃ ns, v.notes = ns ++ w.notes

instance : Frame (Extends (K := K) (V := V) (U := U)) Extends where
  refl _ := ⟨[], rfl⟩
  trans := by
    rintro u v w ⟨ns, hv⟩ ⟨ms, hw⟩
    exact ⟨ms ++ ns, by rw [hw, hv, List.append_assoc]⟩
  bears h := h

/-- Nothing is at stake. -/
def Free (w : Register K V U) (_ : Unit) : Prop := w.Kept

variable {policy : Disposal K V U} {w : Register K V U} {rest : Unit} {k : K} {call : Nat}

theorem Kept.lookup_eq (h : w.Kept) (k : K) : (Register.entries w.notes).lookup k = w.cache.cached? k := by
  rw [← h.entries]
  rfl

/-- What happens outside the entries is not noted. -/
theorem Kept.of_entries {v : Register K V U} (h : w.Kept) (hnotes : v.notes = w.notes)
    (hentries : v.cache.entries = w.cache.entries) : Extends w v ∧ v.Kept :=
  ⟨⟨[], hnotes⟩, by rw [hnotes]; exact h.legal, by rw [hentries, hnotes]; exact h.entries⟩

/-- One event changes the entries and is noted. -/
theorem Kept.add {event : Event K V} {c : Cache K V} (h : w.Kept)
    (hadds : Adds (Register.entries w.notes) ⟨event, c.entries⟩) :
    Extends w (Register.add event { w with cache := c }) ∧ (Register.add event { w with cache := c }).Kept :=
  ⟨⟨[_], rfl⟩, .add h.legal hadds, rfl⟩

omit [DecidableEq K] in
/-- Nothing is made of how a release ends, apart from log lines. -/
theorem releaseValue_eq (policy : Disposal K V U) (k : K) (v : V) : policy.registrar.releaseValue k v =
    modify (fun w => Register.add (.released v) w) >>= fun _ => discard ((policy.release v).focus restPart) := by
  rw [Keeper.releaseValue_eq_discard fun _ _ => rfl]
  exact Routine.bind_bind _ _ _

/-- A release may do anything outside the cache, for as long as it likes. -/
theorem paysBack_release (x : Routine U α) (hw : w.Kept) : (x.focus restPart).PaysBack Extends Free w rest :=
  Routine.paysBack_focus (fun _ _ _ hv => hv.of_entries rfl rfl) x hw

theorem sound_registrar (policy : Disposal K V U) : policy.registrar.Sound Extends Free where
  log _ _ hw := ⟨⟨[], rfl⟩, hw⟩
  upkeep hw entries _ := hw.of_entries rfl entries
  drop {w rest k e} now hw cached := by
    have hadds : Adds (Register.entries w.notes) ⟨.released e.value, (w.cache.erase k).entries⟩ := by
      refine .released (k := k) fun j => ?_
      rw [hw.lookup_eq]
      exact Cache.cached?_erase k j w.cache
    obtain ⟨hextends, hkept⟩ := hw.add hadds
    rw [releaseValue_eq]
    exact Outcome.Accounts.since hextends ((paysBack_release (policy.release e.value) hkept).discard now)

theorem paysBack_put (hw : w.Kept) (v : V) : (policy.serve call (.put k v)).PaysBack Extends Free w rest := by
  intro now
  have hadds : Adds (Register.entries w.notes) ⟨.put k v, (w.cache.insert k ⟨v, now⟩).entries⟩ := by
    refine .put (t := now) fun j => ?_
    rw [hw.lookup_eq]
    exact Cache.cached?_insert k j _ w.cache
  obtain ⟨hextends, hkept⟩ := hw.add hadds
  exact ⟨hextends, (), hkept, rfl⟩

theorem lookup_touch (hw : w.Kept) {e : Cached V} (hc : w.cache.cached? k = some e) (now : Instant) (j : K) :
    (w.cache.touch k now).entries.lookup j =
      if j = k then some (e.touch now) else (Register.entries w.notes).lookup j := by
  have htouch := Cache.cached?_touch k j now w.cache
  rw [hc] at htouch
  rw [hw.lookup_eq]
  exact htouch

theorem paysBack_get (hw : w.Kept) : (policy.serve call (.get k)).PaysBack Extends Free w rest := by
  have hserve : policy.serve call (.get k) = policy.registrar.sweepIfDue >>= fun _ =>
      policy.registrar.find? k >>= fun result => modify (Register.add (.got k result)) := bind_assoc ..
  rw [hserve]
  refine ((sound_registrar policy).paysBack_sweepIfDue hw).bind fun _ v rest hv => ?_
  refine Keeper.accounts_find?_bind (fun e now hc => ?_) fun hc _ => ?_
  · have hadds : Adds (Register.entries v.notes) ⟨.got k (some e.value), (v.cache.touch k now).entries⟩ :=
      .got ((hv.lookup_eq k).trans hc) (lookup_touch hv hc now)
    obtain ⟨hextends, hkept⟩ := hv.add hadds
    exact ⟨hextends, (), hkept, rfl⟩
  · have hadds : Adds (Register.entries v.notes) ⟨.got k none, v.cache.entries⟩ := by
      rw [hv.entries]
      exact .missed ((hv.lookup_eq k).trans hc)
    obtain ⟨hextends, hkept⟩ := hv.add hadds
    exact ⟨hextends, (), hkept, rfl⟩

theorem paysBack_compute (hw : w.Kept) {factory : U → Except RouteError V × U} :
    (policy.serve call (.compute k factory)).PaysBack Extends Free w rest := by
  rw [Disposal.serve, Keeper.computeIfAbsent, bind_assoc]
  refine ((sound_registrar policy).paysBack_sweepIfDue hw).bind fun _ v rest hv now => ?_
  rw [Routine.bind_apply]
  cases hc : (policy.registrar.cache.get v).cached? k with
  | some e =>
    have hadds : Adds (Register.entries v.notes) ⟨.computed call k (.ok e.value), (v.cache.touch k now).entries⟩ :=
      .found ((hv.lookup_eq k).trans hc) (lookup_touch hv hc now)
    obtain ⟨hextends, hkept⟩ := hv.add hadds
    rw [Keeper.findOrMake_of_cached hc]
    exact ⟨hextends, (), hkept, rfl⟩
  | none =>
    have habsent := (hv.lookup_eq k).trans hc
    -- a value that was made is put in at once; a failure leaves what the attempt did to the rest
    cases hf : (factory v.rest).1 with
    | ok value =>
      have hmake : make call k factory v = (.ok value, (make call k factory v).2) := Prod.ext hf rfl
      rw [Keeper.findOrMake_of_ok hc hmake]
      refine ⟨⟨[_, _], rfl⟩, (), ⟨?_, rfl⟩, rfl⟩
      show Legal (⟨.computed call k (.ok value), (v.cache.insert k ⟨value, now⟩).entries⟩ ::
        ⟨.ran call k (factory v.rest).1, v.cache.entries⟩ :: v.notes)
      rw [hv.entries, hf]
      refine .ran hv.legal habsent ⟨now, fun j => ?_⟩
      rw [hv.lookup_eq]
      exact Cache.cached?_insert k j _ v.cache
    | error e =>
      have hmake : make call k factory v = (.error e, (make call k factory v).2) := Prod.ext hf rfl
      rw [Keeper.findOrMake_of_error hc hmake]
      refine ⟨⟨[_, _], rfl⟩, (), ⟨?_, rfl⟩, rfl⟩
      show Legal (⟨.computed call k (.error e), v.cache.entries⟩ ::
        ⟨.ran call k (factory v.rest).1, v.cache.entries⟩ :: v.notes)
      rw [hv.entries, hf]
      exact .ran hv.legal habsent rfl

/-- Every operation keeps the register. -/
theorem paysBack_serve (call : Nat) (e : Errand K V U) (hw : w.Kept) :
    (policy.serve call e).PaysBack Extends Free w rest := by
  have hk := sound_registrar policy
  cases e with
  | put k v => exact paysBack_put hw v
  | get k => exact paysBack_get hw
  | compute k factory => exact paysBack_compute hw
  | remove k force => exact (hk.paysBack_dropIf k _ hw).discard
  | sweep => exact (hk.paysBack_sweep hw).discard
  | clear => exact Routine.accounts_get_bind (hk.paysBack_clearKeys _ hw)
  | inspect k => exact Routine.accounts_get_bind (Routine.paysBack_pure hw)
  | startWorker => exact (hk.paysBack_startWorker hw).discard
  | stopWorker => exact hk.paysBack_stopWorker hw
  | goOn id => exact hk.paysBack_goOn id hw

/-- Whatever runs side by side keeps the register, and so does what waits then. -/
theorem backs_of_run {s s' : Schedule (Register K V U)} (hs : s.Backs Extends Free ())
    (hrun : Schedule.Run policy.Serves Elsewhere s s') :
    Extends s.world s'.world ∧ s'.Backs Extends Free () := by
  refine hs.run ?_ ?_ hrun
  · rintro w x rest ⟨call, e, rfl⟩ hw
    exact paysBack_serve call e hw
  · rintro w v rest ⟨u, rfl⟩ hw
    exact Kept.of_entries hw rfl rfl

/-- In any course of events that starts with an empty cache and nothing noted. -/
theorem kept_of_run {s s' : Schedule (Register K V U)} (hentries : s.world.cache.entries = [])
    (hnotes : s.world.notes = [])
    (hparked : s.parked = []) (hrun : Schedule.Run policy.Serves Elsewhere s s') :
    s'.world.Kept ∧ ∀ {s''}, Schedule.Run policy.Serves Elsewhere s' s'' → Extends s'.world s''.world := by
  have hkept : s.world.Kept := by
    refine ⟨?_, ?_⟩
    · rw [hnotes]
      exact .nil
    · rw [hentries, hnotes]
      rfl
  have hs : s.Backs Extends Free () := ⟨[], by rw [hparked]; exact .nil, hkept⟩
  obtain ⟨-, hs'⟩ := backs_of_run hs hrun
  obtain ⟨stakes, -, hfree⟩ := id hs'
  exact ⟨hfree, fun hlater => (backs_of_run hs' hlater).1⟩

end Keeping

end Register

end ReplicaRouter
