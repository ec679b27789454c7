import Mathlib.Algebra.Order.PUnit
import ReplicaRouter.Proofs.Caching
/-
A cache whose operations keep a history. Any number of operations run side by side over it, each noting what
was put in, found and made, and every value that is passed on to be released, together with the entries that
are left at that moment. What a release does to the rest of the world, how long it takes and how it ends is
left open.
Main statement: whatever happens, the cache and its history change by `Chronicle.Move`s
(`Chronicle.backs_of_run`).
-/
namespace ReplicaRouter

variable {K V U α : Type}

/-! ## The history -/

/-- What happened to a cache. -/
inductive Happening (K V : Type) where
  /-- A value was put in and the one before it handed back. -/
  | put (time : Instant) (k : K) (v : V) (previous : Option V)
  /-- A value was made for a key that had none, to be put in. -/
  | made (k : K) (v : V)
  /-- A look-up that makes a value where there is none ended. -/
  | computed (time : Instant) (k : K) (result : Except RouteError V)
  | got (time : Instant) (k : K) (result : Option V)
  | removed (k : K) (done : Bool)
  | swept (count : Nat)
  | cleared
  /-- Somebody looked whether a key is there and which keys and values there are. -/
  | inspected (found : Bool) (keys : List K) (values : List V)
  /-- A value was passed on to be released; these entries were left. -/
  | released (v : V) (left : List (K × Cached V))

/-- Whether no value comes, goes or is found. -/
def Happening.isQuiet : Happening K V → Bool
  | put .. | made .. | computed _ _ (.ok _) | got _ _ (some _) | released .. => false
  | _ => true

/-- A cache with its history, latest first, and the rest of the world. -/
structure Chronicle (K V U : Type) where
  cache : Cache K V
  rest : U
  history : List (Happening K V) := []

/-- How keys are written, and which values may be released how. -/
structure Disposal (K V U : Type) where
  keyText : K → String
  mayRelease : U → V → Bool
  release : V → Routine U Release

namespace Chronicle

def cachePart : Part (Chronicle K V U) (Cache K V) where
  get w := w.cache
  set cache w := { w with cache }

def restPart : Part (Chronicle K V U) U where
  get w := w.rest
  set rest w := { w with rest }

def add (happening : Happening K V) (w : Chronicle K V U) : Chronicle K V U :=
  { w with history := happening :: w.history }

/-- Log lines are not part of the history. -/
instance : Journaled (Chronicle K V U) where
  note _ w := w

def record (happening : Instant → Happening K V) : Routine (Chronicle K V U) Unit := do
  let t ← Routine.now
  modify (add (happening t))

/-- Makes a value, or fails to, and notes what was made. -/
def make (k : K) (factory : U → Except RouteError V × U) (w : Chronicle K V U) :
    Except RouteError V × Chronicle K V U :=
  match factory w.rest with
  | (.ok v, rest) => (.ok v, add (.made k v) { w with rest })
  | (.error e, rest) => (.error e, { w with rest })

end Chronicle

open Chronicle

/-- Releases a value, noting it first. -/
def Disposal.pass (policy : Disposal K V U) (v : V) : Routine (Chronicle K V U) Release := do
  modify fun w => add (.released v w.cache.entries) w
  (policy.release v).focus restPart

def Disposal.keeper (policy : Disposal K V U) : Keeper (Chronicle K V U) K V where
  cache := cachePart
  keyText := policy.keyText
  mayRelease w := policy.mayRelease w.rest
  release := policy.pass

/-! ## Operations -/

/-- What can be asked of a cache, and what its workers do in the background. -/
inductive Errand (K V U : Type) where
  | put (k : K) (v : V)
  | get (k : K)
  | compute (k : K) (factory : U → Except RouteError V × U)
  | remove (k : K) (force : Bool)
  | sweep
  | clear
  | inspect (k : K)
  | startWorker
  | stopWorker
  | goOn (id : Nat)

section Work

variable [DecidableEq K] (policy : Disposal K V U)

/-- The work of an operation. Its result is noted as soon as it is there. -/
def Disposal.work : Errand K V U → Routine (Chronicle K V U) Unit
  | .put k v => do
    let previous ← policy.keeper.put k v
    record fun t => .put t k v previous
  | .get k => do
    let result ← policy.keeper.get? k
    record fun t => .got t k result
  | .compute k factory => do
    let result ← policy.keeper.computeIfAbsent k (make k factory)
    record fun t => .computed t k result
  | .remove k force => do
    let done ← policy.keeper.remove k force
    record fun _ => .removed k done
  | .sweep => do
    let count ← policy.keeper.sweep
    record fun _ => .swept count
  | .clear => do
    policy.keeper.clear
    record fun _ => .cleared
  | .inspect k => do
    let c ← policy.keeper.look
    record fun _ => .inspected (c.contains k) c.keys c.values
  | .startWorker => discard policy.keeper.startWorker
  | .stopWorker => policy.keeper.stopWorker
  | .goOn id => policy.keeper.goOn id

/-- Any of the operations can be begun at any time. -/
def Disposal.Calls (_ : Chronicle K V U) (x : Routine (Chronicle K V U) Unit) : Prop := ∃ e, x = policy.work e

end Work

namespace Chronicle

/-- Outside the cache anything may change. -/
def Elsewhere (w v : Chronicle K V U) : Prop := ∃ rest, v = { w with rest }

/-! ## Moves -/

/-- One thing that the operations do to a cache and its history. -/
inductive Move [DecidableEq K] : Chronicle K V U → Chronicle K V U → Prop
  | elsewhere (w : Chronicle K V U) (rest : U) : Move w { w with rest }
  /-- Whatever the cache keeps beside its entries. -/
  | upkeep (w : Chronicle K V U) {cache : Cache K V} (entries : cache.entries = w.cache.entries)
      (expiration : cache.expiration = w.cache.expiration) : Move w { w with cache }
  | noted (w : Chronicle K V U) {happening : Happening K V} (quiet : happening.isQuiet = true) :
      Move w (w.add happening)
  | put (w : Chronicle K V U) (t : Instant) (k : K) (v : V) :
      Move w (add (.put t k v ((w.cache.cached? k).map (·.value))) { w with cache := w.cache.insert k ⟨v, t⟩ })
  | got {w : Chronicle K V U} (t : Instant) {k : K} {e : Cached V} (cached : w.cache.cached? k = some e) :
      Move w (add (.got t k (some e.value)) { w with cache := w.cache.touch k t })
  | found {w : Chronicle K V U} (t : Instant) {k : K} {e : Cached V} (cached : w.cache.cached? k = some e) :
      Move w (add (.computed t k (.ok e.value)) { w with cache := w.cache.touch k t })
  | made {w : Chronicle K V U} (t : Instant) {k : K} (v : V) (rest : U) (absent : w.cache.cached? k = none) :
      Move w (add (.computed t k (.ok v)) (add (.made k v) { w with rest, cache := w.cache.insert k ⟨v, t⟩ }))
  /-- A value is taken out and passed on in one go. -/
  | dropped {w : Chronicle K V U} {k : K} {e : Cached V} (cached : w.cache.cached? k = some e) :
      Move w (add (.released e.value (w.cache.erase k).entries) { w with cache := w.cache.erase k })

/-- Any number of moves. -/
abbrev Moves [DecidableEq K] : Chronicle K V U → Chronicle K V U → Prop := Relation.ReflTransGen Move

variable [DecidableEq K]

instance : Frame (Moves (K := K) (V := V) (U := U)) Moves := ⟨fun _ => .refl, .trans, id⟩

/-- Nothing is at stake. -/
def Free (_ : Chronicle K V U) (_ : Unit) : Prop := True

variable {policy : Disposal K V U} {w : Chronicle K V U} {rest : Unit} {k : K}

omit [DecidableEq K] in
/-- Nothing is made of how a release ends, apart from log lines. -/
theorem releaseValue_eq (policy : Disposal K V U) (k : K) (v : V) : policy.keeper.releaseValue k v =
    modify (fun w => add (.released v w.cache.entries) w) >>= fun _ => discard ((policy.release v).focus restPart) := by
  rw [Keeper.releaseValue_eq_discard fun _ _ => rfl]
  exact Routine.bind_bind _ _ _

/-- A release may do anything outside the cache, for as long as it likes. -/
theorem paysBack_release (x : Routine U α) : (x.focus restPart).PaysBack Moves Free w rest :=
  Routine.paysBack_focus (fun v u _ _ => ⟨.single (.elsewhere v u), trivial⟩) x trivial

theorem sound_keeper (policy : Disposal K V U) : policy.keeper.Sound Moves Free where
  log _ _ _ := ⟨.refl, trivial⟩
  upkeep _ entries expiration := ⟨.single (.upkeep _ entries expiration), trivial⟩
  drop {w rest k e} now _ cached := by
    have hmove : Moves w _ := .single (.dropped cached)
    rw [releaseValue_eq]
    exact Outcome.Accounts.since hmove ((paysBack_release (policy.release e.value)).discard now)

theorem paysBack_record {happening : Instant → Happening K V} (hquiet : ∀ t, (happening t).isQuiet = true) :
    (record happening : Routine (Chronicle K V U) Unit).PaysBack Moves Free w rest :=
  Routine.accounts_now_bind fun t => Routine.paysBack_modify ⟨.single (.noted w (hquiet t)), trivial⟩

theorem paysBack_get : (policy.work (.get k)).PaysBack Moves Free w rest := by
  have hwork : policy.work (.get k) = policy.keeper.sweepIfDue >>= fun _ =>
      policy.keeper.find? k >>= fun result => record fun t => .got t k result := bind_assoc ..
  rw [hwork]
  refine ((sound_keeper policy).paysBack_sweepIfDue trivial).bind fun _ v rest _ => ?_
  refine Keeper.accounts_find?_bind (fun e now hc => ?_) fun _ _ => ?_
  · exact ⟨.single (.got now hc), (), trivial, rfl⟩
  · exact ⟨.single (.noted v rfl), (), trivial, rfl⟩

theorem paysBack_compute {factory : U → Except RouteError V × U} :
    (policy.work (.compute k factory)).PaysBack Moves Free w rest := by
  rw [Disposal.work, Keeper.computeIfAbsent, bind_assoc]
  refine ((sound_keeper policy).paysBack_sweepIfDue trivial).bind fun _ v rest _ now => ?_
  rw [Routine.bind_apply]
  cases hc : (policy.keeper.cache.get v).cached? k with
  | some e =>
    rw [Keeper.findOrMake_of_cached hc]
    exact ⟨.single (.found now hc), (), trivial, rfl⟩
  | none =>
    -- a value that was made is put in at once; a failure leaves what the attempt did to the rest
    cases hf : factory v.rest with
    | mk result u =>
      cases result with
      | ok value =>
        have hmake : make k factory v = (.ok value, add (.made k value) { v with rest := u }) := by simp only [make, hf]
        rw [Keeper.findOrMake_of_ok hc hmake]
        exact ⟨.single (.made now value u hc), (), trivial, rfl⟩
      | error e =>
        have hmake : make k factory v = (.error e, { v with rest := u }) := by simp only [make, hf]
        rw [Keeper.findOrMake_of_error hc hmake]
        exact ⟨.tail (.single (.elsewhere v u)) (.noted _ rfl), (), trivial, rfl⟩

/-- Every operation makes moves and nothing else. -/
theorem paysBack_work (e : Errand K V U) : (policy.work e).PaysBack Moves Free w rest := by
  have hk := sound_keeper policy
  cases e with
  | put k v => exact fun now => ⟨.single (.put w now k v), (), trivial, rfl⟩
  | get k => exact paysBack_get
  | compute k factory => exact paysBack_compute
  | remove k force => exact (hk.paysBack_dropIf k _ trivial).bind fun _ _ _ _ => paysBack_record fun _ => rfl
  | sweep => exact (hk.paysBack_sweep trivial).bind fun _ _ _ _ => paysBack_record fun _ => rfl
  | clear => exact (hk.paysBack_clearKeys _ trivial).bind fun _ _ _ _ => paysBack_record fun _ => rfl
  | inspect k => exact Routine.accounts_get_bind (paysBack_record fun _ => rfl)
  | startWorker => exact (hk.paysBack_startWorker trivial).discard
  | stopWorker => exact hk.paysBack_stopWorker trivial
  | goOn id => exact hk.paysBack_goOn id trivial

theorem paysBack_call {x : Routine (Chronicle K V U) Unit} (hx : policy.Calls w x) (_ : Free w rest) :
    x.PaysBack Moves Free w rest := by
  obtain ⟨e, rfl⟩ := hx
  exact paysBack_work e

theorem bears_elsewhere {v : Chronicle K V U} (h : Elsewhere w v) (_ : Free w rest) : Moves w v ∧ Free v rest := by
  obtain ⟨u, rfl⟩ := h
  exact ⟨.single (.elsewhere w u), trivial⟩

/-- Whatever runs side by side makes moves and nothing else, and so does what waits then. -/
theorem backs_of_run {s s' : Schedule (Chronicle K V U)} (hs : s.Backs Moves Free ())
    (hrun : Schedule.Run policy.Calls Elsewhere s s') : Moves s.world s'.world ∧ s'.Backs Moves Free () :=
  hs.run (fun _ _ _ => paysBack_call) (fun _ _ _ => bears_elsewhere) hrun

/-- So does work in the foreground. -/
theorem backs_of_plays {o : Outcome (Chronicle K V U) α} {s s' : Schedule (Chronicle K V U)} {r : Option α}
    (hs : s.Backs Moves Free ()) (ho : o.Accounts Moves Free (fun _ own _ => own = 0) s.world ())
    (h : o.Plays policy.Calls Elsewhere s r s') : Moves s.world s'.world ∧ s'.Backs Moves Free () := by
  have hcalls : ∀ w x rest, policy.Calls w x → Free w rest → x.PaysBack Moves Free w rest :=
    fun _ _ _ => paysBack_call
  obtain ⟨stakes, hheld, -⟩ := hs
  obtain ⟨hmoves, own, hs', -⟩ := Outcome.Plays.backs hcalls (fun _ _ _ => bears_elsewhere) hheld ho h
  exact ⟨hmoves, hs'⟩

theorem backs_of_parked {s : Schedule (Chronicle K V U)} (hparked : s.parked = []) : s.Backs Moves Free () :=
  ⟨[], by rw [hparked]; exact .nil, trivial⟩

end Chronicle

/-! ## Releases that take their time -/

/-- Releases wait until the rest of the world is ready, and end like this. -/
def Disposal.slow (ending : Release) : Disposal Nat Nat Bool where
  keyText _ := "key"
  mayRelease _ _ := true
  release _ := do
    Routine.waitFor id
    return ending

end ReplicaRouter
