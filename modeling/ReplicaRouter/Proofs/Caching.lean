import ReplicaRouter.Cache.Lemmas
import ReplicaRouter.Cache.Worker
import ReplicaRouter.Proofs.Foreground
/-
What the operations of a cache may do to the world that it is part of. A cache is `Sound` for an invariant if
the invariant bears everything about the cache that has nothing to do with its entries, and the release of
every value that is taken out of it, and `Mindful` if it bears at least the release of those that may be released.
Sweeps, removals and the turns of workers then keep the invariant wherever they stop, and have nothing at stake in
the end.
-/
namespace ReplicaRouter

variable {W S K V α β : Type}

/-! ## Work that pays back -/

section PaysBack

variable [AddCommMonoid S] {R : W → W → Prop} {Inv : W → S → Prop} {w : W} {rest : S}

/-- Whatever the work has at stake while it waits, it has nothing at stake in the end. -/
abbrev Routine.PaysBack (R : W → W → Prop) (Inv : W → S → Prop) (x : Routine W α) (w : W) (rest : S) : Prop :=
  x.Accounts R Inv w rest fun _ own _ => own = 0

namespace Routine

theorem paysBack_modify {g : W → W} (hg : R w (g w) ∧ Inv (g w) rest) :
    (modify g : Routine W Unit).PaysBack R Inv w rest :=
  accounts_modify hg.1 ((zero_add rest).symm ▸ hg.2) rfl

/-- Work on a part that may become anything pays back. -/
theorem paysBack_focus {p : Part W V} (hset : ∀ w v rest, Inv w rest → R w (p.set v w) ∧ Inv (p.set v w) rest)
    (x : Routine V α) (hw : Inv w rest) : (x.focus p).PaysBack R Inv w rest := by
  suffices ho : ∀ (o : Outcome V α) (w : W) (rest : S), Inv w rest →
      (o.focus p w).Accounts R Inv (fun _ own _ => own = 0) w rest from fun now => ho (x now (p.get w)) w rest hw
  intro o
  induction o with
  | done a v =>
    intro w rest hw
    obtain ⟨hR, hv⟩ := hset w v rest hw
    exact ⟨hR, 0, (zero_add rest).symm ▸ hv, rfl⟩
  | blocked v ready deadline resume ih =>
    intro w rest hw
    obtain ⟨hR, hv⟩ := hset w v rest hw
    exact ⟨hR, 0, (zero_add rest).symm ▸ hv, fun t u rest _ hu => ih t (p.get u) u rest ((zero_add rest) ▸ hu)⟩

variable [Frame R R]

theorem paysBack_pure {a : α} (hw : Inv w rest) : (pure a : Routine W α).PaysBack R Inv w rest :=
  accounts_pure ((zero_add rest).symm ▸ hw) rfl

theorem PaysBack.bind {x : Routine W α} {f : α → Routine W β} {Q : β → S → W → Prop} (hx : x.PaysBack R Inv w rest)
    (hf : ∀ a v rest, Inv v rest → (f a).Accounts R Inv v rest Q) : (x >>= f).Accounts R Inv w rest Q := by
  refine accounts_bind hx ?_
  rintro a _ v rest rfl hv
  exact hf a v rest ((zero_add rest).symm ▸ hv)

theorem PaysBack.discard {x : Routine W α} (hx : x.PaysBack R Inv w rest) :
    (Functor.discard x).PaysBack R Inv w rest :=
  hx.bind fun _ _ _ hv => paysBack_pure hv

theorem paysBack_wait (ready : W → Bool) (deadline : Option Instant) (hw : Inv w rest) :
    (wait ready deadline).PaysBack R Inv w rest := fun now =>
  (accounts_wait ready deadline ((zero_add rest).symm ▸ hw) now).imp fun _ _ _ h => h.1

end Routine

end PaysBack

namespace Routine

theorem get_bind_apply (f : W → Routine W α) (now : Instant) (w : W) :
    (get >>= f : Routine W α) now w = f w now w := rfl

theorem now_bind_apply (f : Instant → Routine W α) (t : Instant) (w : W) :
    (now >>= f : Routine W α) t w = f t t w := rfl

theorem modifyGet_bind_apply (g : W → α × W) (f : α → Routine W β) (now : Instant) (w : W) :
    (modifyGet g >>= f : Routine W β) now w = f (g w).1 now (g w).2 := rfl

theorem modify_bind_apply (g : W → W) (f : Unit → Routine W α) (now : Instant) (w : W) :
    (modify g >>= f : Routine W α) now w = f () now (g w) := rfl

theorem bind_apply (x : Routine W α) (f : α → Routine W β) (now : Instant) (w : W) :
    (x >>= f) now w = (x now w).andThen now f := rfl

/-- What ends at once and changes nothing may be left out. -/
theorem bind_of_done {x : Routine W α} {f : α → Routine W α} (hf : ∀ a now w, f a now w = .done a w) : x >>= f = x := by
  rw [show f = pure from funext fun a => funext fun now => funext (hf a now), bind_pure]

end Routine

namespace Keeper

variable [Journaled W] [DecidableEq K] {keeper : Keeper W K V}

/-! ## One entry -/

section Entry

variable {w : W} {k : K} {e : Cached V} {condition : W → Cached V → Bool}

omit [Journaled W] [DecidableEq K] in
theorem look_bind_apply (f : Cache K V → Routine W α) (now : Instant) :
    (keeper.look >>= f) now w = f (keeper.cache.get w) now w := rfl

/-- The key has an entry that meets the condition. -/
def Meets (keeper : Keeper W K V) (condition : W → Cached V → Bool) (k : K) (w : W) (e : Cached V) : Prop :=
  (keeper.cache.get w).cached? k = some e ∧ condition w e = true

theorem dropIf_of_meets (h : keeper.Meets condition k w e) (now : Instant) :
    keeper.dropIf k condition now w =
      (keeper.releaseValue k e.value >>= fun _ => pure true) now (keeper.cache.modify (·.erase k) w) := by
  have htake : keeper.takeIf k condition now w = .done (some e.value) (keeper.cache.modify (·.erase k) w) := by
    unfold takeIf
    rw [Routine.get_bind_apply, h.1]
    dsimp only
    rw [if_pos h.2]
    rfl
  show (keeper.takeIf k condition now w).andThen now _ = _
  rw [htake]
  rfl

theorem dropIf_of_not_meets (h : ∀ e, ¬ keeper.Meets condition k w e) (now : Instant) :
    keeper.dropIf k condition now w = .done false w := by
  have htake : keeper.takeIf k condition now w = .done none w := by
    unfold takeIf
    rw [Routine.get_bind_apply]
    cases hc : (keeper.cache.get w).cached? k with
    | none => rfl
    | some e =>
      dsimp only
      rw [if_neg fun hm => h e ⟨hc, hm⟩]
      rfl
  show (keeper.takeIf k condition now w).andThen now _ = _
  rw [htake]
  rfl

omit [Journaled W] in
theorem find?_of_cached (h : (keeper.cache.get w).cached? k = some e) (now : Instant) :
    keeper.find? k now w = .done (some e.value) (keeper.cache.modify (·.touch k now) w) := by
  unfold find?
  rw [Routine.now_bind_apply, look_bind_apply, h]
  rfl

omit [Journaled W] in
theorem find?_of_not_cached (h : (keeper.cache.get w).cached? k = none) (now : Instant) :
    keeper.find? k now w = .done none w := by
  unfold find?
  rw [Routine.now_bind_apply, look_bind_apply, h]
  rfl

variable {make : W → Except RouteError V × W}

omit [Journaled W] in
theorem findOrMake_of_cached (h : (keeper.cache.get w).cached? k = some e) (now : Instant) :
    keeper.findOrMake k make now w = .done (.ok e.value) (keeper.cache.modify (·.touch k now) w) := by
  unfold findOrMake
  rw [Routine.now_bind_apply, Routine.bind_apply, find?_of_cached h]
  rfl

omit [Journaled W] in
theorem findOrMake_of_ok {v : V} {w' : W} (h : (keeper.cache.get w).cached? k = none) (hmake : make w = (.ok v, w'))
    (now : Instant) :
    keeper.findOrMake k make now w = .done (.ok v) (keeper.cache.modify (·.insert k ⟨v, now⟩) w') := by
  unfold findOrMake
  rw [Routine.now_bind_apply, Routine.bind_apply, find?_of_not_cached h]
  dsimp only [Outcome.andThen]
  rw [Routine.modifyGet_bind_apply, hmake]
  rfl

omit [Journaled W] in
theorem findOrMake_of_error {error : RouteError} {w' : W} (h : (keeper.cache.get w).cached? k = none)
    (hmake : make w = (.error error, w')) (now : Instant) :
    keeper.findOrMake k make now w = .done (.error error) w' := by
  unfold findOrMake
  rw [Routine.now_bind_apply, Routine.bind_apply, find?_of_not_cached h]
  dsimp only [Outcome.andThen]
  rw [Routine.modifyGet_bind_apply, hmake]
  rfl

end Entry

omit [DecidableEq K] in
/-- Where log lines leave no trace, nothing is made of how a release ends. -/
theorem releaseValue_eq_discard (silent : ∀ (e : Entry) (w : W), Journaled.note e w = w) (k : K) (v : V) :
    keeper.releaseValue k v = discard (keeper.release v) := by
  have hlog : ∀ level text, (Routine.log level text : Routine W Unit) = pure () := fun level text =>
    funext fun _ => funext fun w => congrArg (Outcome.done ()) (silent (.log level text) w)
  refine congrArg (keeper.release v >>= ·) (funext fun r => ?_)
  cases r with
  | released => exact hlog _ _
  | refused e => exact hlog _ _
  | crashed => exact hlog _ _

/-! ## Sweeps as they are played -/

section Plays

variable {calls : W → Routine W Unit → Prop} {others : W → W → Prop} {s s' : Schedule W} {k : K} {e : Cached V}
  {condition : W → Cached V → Bool}

/-- An entry that meets the condition is taken out at once; then its value is released. -/
theorem plays_dropIf_of_meets {r : Option Bool} (h : keeper.Meets condition k s.world e) :
    (keeper.dropIf k condition).Plays calls others s r s' ↔ ∃ r', r = r'.map (fun _ => true) ∧
      (keeper.releaseValue k e.value).Plays calls others
        { s with world := keeper.cache.modify (·.erase k) s.world } r' s' := by
  unfold Routine.Plays
  rw [dropIf_of_meets h, Routine.plays_from, Routine.plays_bind_pure]
  rfl

theorem plays_dropIf_of_not_meets {r : Option Bool} (h : ∀ e, ¬ keeper.Meets condition k s.world e) :
    (keeper.dropIf k condition).Plays calls others s r s' ↔ r = some false ∧ s' = s := by
  unfold Routine.Plays
  rw [dropIf_of_not_meets h]
  exact Outcome.plays_done

theorem plays_sweepKeys_cons {ks : List K} {r : Option Nat} :
    (keeper.sweepKeys (k :: ks)).Plays calls others s r s' ↔
      (keeper.dropIf k (fun w e => e.isExpired s.clock (keeper.cache.get s.world).expiration &&
        keeper.mayRelease w e.value) >>= fun dropped => keeper.sweepKeys ks >>= fun others =>
          pure ((if dropped then 1 else 0) + others)).Plays calls others s r s' :=
  Iff.rfl

end Plays

/-! ## Whole operations -/

/-- The invariant bears log lines, whatever happens to a cache apart from its entries, and the release of every
value that may be released. -/
structure Mindful [AddCommMonoid S] (keeper : Keeper W K V) (R : W → W → Prop) (Inv : W → S → Prop) : Prop where
  log {w : W} {rest : S} (level : LogLevel) (text : String) (hw : Inv w rest) :
    R w (Journaled.note (.log level text) w) ∧ Inv (Journaled.note (.log level text) w) rest
  upkeep {w : W} {rest : S} {c : Cache K V} (hw : Inv w rest) (entries : c.entries = (keeper.cache.get w).entries)
    (expiration : c.expiration = (keeper.cache.get w).expiration) :
    R w (keeper.cache.set c w) ∧ Inv (keeper.cache.set c w) rest
  dispose {w : W} {rest : S} {k : K} {e : Cached V} (now : Instant) (hw : Inv w rest)
    (cached : (keeper.cache.get w).cached? k = some e) (may : keeper.mayRelease w e.value = true) :
    (keeper.releaseValue k e.value now (keeper.cache.modify (·.erase k) w)).Accounts R Inv
      (fun _ own _ => own = 0) w rest

/-- The invariant bears the release of values that may not be released as well. -/
structure Sound [AddCommMonoid S] (keeper : Keeper W K V) (R : W → W → Prop) (Inv : W → S → Prop) : Prop
    extends keeper.Mindful R Inv where
  drop {w : W} {rest : S} {k : K} {e : Cached V} (now : Instant) (hw : Inv w rest)
    (cached : (keeper.cache.get w).cached? k = some e) :
    (keeper.releaseValue k e.value now (keeper.cache.modify (·.erase k) w)).Accounts R Inv
      (fun _ own _ => own = 0) w rest
  dispose now hw cached _ := drop now hw cached

section Operations

variable [AddCommMonoid S] {R : W → W → Prop} {Inv : W → S → Prop} {w : W} {rest : S}

omit [Journaled W] in
/-- A look-up finds the value of the key and puts its expiry off, or it finds none and changes nothing. -/
theorem accounts_find?_bind {k : K} {f : Option V → Routine W α} {Q : α → S → W → Prop}
    (hsome : ∀ e now, (keeper.cache.get w).cached? k = some e →
      (f (some e.value) now (keeper.cache.modify (·.touch k now) w)).Accounts R Inv Q w rest)
    (hnone : (keeper.cache.get w).cached? k = none → (f none).Accounts R Inv w rest Q) :
    (keeper.find? k >>= f).Accounts R Inv w rest Q := by
  intro now
  rw [Routine.bind_apply]
  cases hc : (keeper.cache.get w).cached? k with
  | some e =>
    rw [find?_of_cached hc]
    exact hsome e now hc
  | none =>
    rw [find?_of_not_cached hc]
    exact hnone hc now

/-- Whatever is taken out is released, if the condition lets only such values pass that may be. -/
theorem paysBack_dropIf_of_meets [Frame R R] {k : K} {condition : W → Cached V → Bool} (hw : Inv w rest)
    (hdrop : ∀ e now, keeper.Meets condition k w e →
      (keeper.releaseValue k e.value now (keeper.cache.modify (·.erase k) w)).Accounts R Inv
        (fun _ own _ => own = 0) w rest) : (keeper.dropIf k condition).PaysBack R Inv w rest := by
  intro now
  by_cases h : ∃ e, keeper.Meets condition k w e
  · obtain ⟨e, he⟩ := h
    rw [dropIf_of_meets he]
    refine (hdrop e now he).andThen ?_
    rintro _ _ v rest rfl hv
    exact Routine.accounts_pure hv rfl
  · rw [dropIf_of_not_meets (not_exists.1 h)]
    exact Routine.paysBack_pure hw now

end Operations

namespace Mindful

variable [AddCommMonoid S] {R : W → W → Prop} {Inv : W → S → Prop} {w : W} {rest : S} (hk : keeper.Mindful R Inv)
include hk

theorem paysBack_log (level : LogLevel) (text : String) (hw : Inv w rest) :
    (Routine.log level text).PaysBack R Inv w rest :=
  Routine.paysBack_modify (hk.log level text hw)

theorem paysBack_change {f : Cache K V → Cache K V} (hw : Inv w rest) (entries : ∀ c, (f c).entries = c.entries)
    (expiration : ∀ c, (f c).expiration = c.expiration) : (keeper.change f).PaysBack R Inv w rest :=
  Routine.paysBack_modify (hk.upkeep hw (entries _) (expiration _))

variable [Frame R R]

/-- What a sweep takes out may be released. -/
theorem paysBack_dropIf (k : K) {condition : W → Cached V → Bool}
    (may : ∀ w e, condition w e = true → keeper.mayRelease w e.value = true) (hw : Inv w rest) :
    (keeper.dropIf k condition).PaysBack R Inv w rest :=
  paysBack_dropIf_of_meets hw fun e now he => hk.dispose now hw he.1 (may w e he.2)

theorem paysBack_sweepKeys (ks : List K) (hw : Inv w rest) : (keeper.sweepKeys ks).PaysBack R Inv w rest := by
  induction ks generalizing w rest with
  | nil => exact Routine.paysBack_pure hw
  | cons k ks ih =>
    refine Routine.accounts_now_bind fun t => Routine.accounts_get_bind ?_
    refine (hk.paysBack_dropIf k (fun _ _ h => (Bool.and_eq_true_iff.1 h).2) hw).bind fun dropped v rest hv => ?_
    exact (ih hv).bind fun others u rest hu => Routine.paysBack_pure hu

theorem paysBack_sweep (hw : Inv w rest) : keeper.sweep.PaysBack R Inv w rest := by
  refine Routine.accounts_now_bind fun t => ?_
  refine Routine.PaysBack.bind (hk.paysBack_change hw (fun _ => rfl) fun _ => rfl) fun _ v rest hv => ?_
  refine Routine.accounts_get_bind ((hk.paysBack_sweepKeys _ hv).bind fun count u rest hu => ?_)
  split
  · exact (hk.paysBack_log _ _ hu).bind fun _ x rest hx => Routine.paysBack_pure hx
  · exact Routine.paysBack_pure hu

theorem paysBack_sweepIfDue (hw : Inv w rest) : keeper.sweepIfDue.PaysBack R Inv w rest := by
  refine Routine.accounts_get_bind (Routine.accounts_now_bind fun t => ?_)
  split
  · exact (hk.paysBack_sweep hw).discard
  · exact Routine.paysBack_pure hw

theorem paysBack_startWorker (hw : Inv w rest) : keeper.startWorker.PaysBack R Inv w rest := by
  refine Routine.accounts_get_bind ?_
  split
  · exact Routine.paysBack_pure hw
  · refine (hk.paysBack_log _ _ hw).bind fun _ v rest hv => ?_
    refine Routine.PaysBack.bind (hk.paysBack_change hv (fun _ => rfl) fun _ => rfl) fun _ u rest hu => ?_
    exact Routine.paysBack_pure hu

theorem paysBack_stopWorker (hw : Inv w rest) : keeper.stopWorker.PaysBack R Inv w rest := by
  refine Routine.accounts_get_bind ?_
  split
  · exact Routine.paysBack_pure hw
  · refine Routine.PaysBack.bind (hk.paysBack_change hw (fun _ => rfl) fun _ => rfl) fun _ v rest hv => ?_
    refine (Routine.paysBack_wait _ _ hv).discard.bind fun _ u rest hu => ?_
    refine Routine.accounts_get_bind ?_
    split
    · exact hk.paysBack_log _ _ hu
    · exact Routine.paysBack_pure hu

theorem paysBack_turn (id : Nat) (due : Instant) (hw : Inv w rest) : (keeper.turn id due).PaysBack R Inv w rest := by
  refine Routine.PaysBack.bind (hk.paysBack_change hw (fun _ => rfl) fun _ => rfl) fun _ v rest hv => ?_
  refine (Routine.paysBack_wait _ _ hv).bind fun cancelled u rest hu => Routine.accounts_get_bind ?_
  split
  · refine Routine.PaysBack.bind (hk.paysBack_change hu (fun _ => rfl) fun _ => rfl) fun _ x rest hx => ?_
    exact hk.paysBack_log _ _ hx
  · refine Routine.accounts_now_bind fun t => Routine.accounts_get_bind ?_
    refine Routine.PaysBack.bind (hk.paysBack_change hu (fun _ => rfl) fun _ => rfl) fun _ x rest hx => ?_
    exact (hk.paysBack_sweep hx).discard.bind fun _ y rest hy => hk.paysBack_change hy (fun _ => rfl) fun _ => rfl

theorem paysBack_goOn (id : Nat) (hw : Inv w rest) : (keeper.goOn id).PaysBack R Inv w rest := by
  refine Routine.accounts_get_bind ?_
  split
  · split
    · exact hk.paysBack_change hw (fun _ => rfl) fun _ => rfl
    · exact Routine.accounts_now_bind fun t => hk.paysBack_turn id _ hw
  · exact hk.paysBack_turn id _ hw
  · exact Routine.paysBack_pure hw

end Mindful

namespace Sound

variable [AddCommMonoid S] {R : W → W → Prop} {Inv : W → S → Prop} [Frame R R] {w : W} {rest : S}
  (hk : keeper.Sound R Inv)
include hk

theorem paysBack_dropIf (k : K) (condition : W → Cached V → Bool) (hw : Inv w rest) :
    (keeper.dropIf k condition).PaysBack R Inv w rest :=
  paysBack_dropIf_of_meets hw fun _ now he => hk.drop now hw he.1

theorem paysBack_clearKeys (ks : List K) (hw : Inv w rest) : (keeper.clearKeys ks).PaysBack R Inv w rest := by
  induction ks generalizing w rest with
  | nil => exact Routine.paysBack_pure hw
  | cons k ks ih => exact (hk.paysBack_dropIf k _ hw).discard.bind fun _ v rest hv => ih hv

end Sound

/-! ## Keepers that release alike -/

/-- The two keepers differ in nothing that matters to an operation: not in what a release does to the world,
whatever they make of how it ends. -/
structure Alike (keeper other : Keeper W K V) : Prop where
  cache : keeper.cache = other.cache
  mayRelease : keeper.mayRelease = other.mayRelease
  releaseValue (k : K) (v : V) : keeper.releaseValue k v = other.releaseValue k v

namespace Alike

variable {other : Keeper W K V} (h : keeper.Alike other)
include h

omit [DecidableEq K] in
theorem look : keeper.look = other.look := by
  simp only [Keeper.look, h.cache]

omit [DecidableEq K] in
theorem change (f : Cache K V → Cache K V) : keeper.change f = other.change f := by
  simp only [Keeper.change, h.cache]

theorem dropIf (k : K) (condition : W → Cached V → Bool) : keeper.dropIf k condition = other.dropIf k condition := by
  simp only [Keeper.dropIf, Keeper.takeIf, h.cache, h.change, h.releaseValue]

theorem sweepKeys (ks : List K) : keeper.sweepKeys ks = other.sweepKeys ks := by
  induction ks with
  | nil => rfl
  | cons k ks ih => simp only [Keeper.sweepKeys, h.look, h.dropIf, h.mayRelease, ih]

theorem sweep : keeper.sweep = other.sweep := by
  simp only [Keeper.sweep, h.look, h.change, h.sweepKeys]

theorem sweepIfDue : keeper.sweepIfDue = other.sweepIfDue := by
  simp only [Keeper.sweepIfDue, h.look, h.sweep]

theorem find? (k : K) : keeper.find? k = other.find? k := by
  simp only [Keeper.find?, h.look, h.change]

theorem get? (k : K) : keeper.get? k = other.get? k := by
  simp only [Keeper.get?, h.sweepIfDue, h.find?]

theorem computeIfAbsent (k : K) (make : W → Except RouteError V × W) :
    keeper.computeIfAbsent k make = other.computeIfAbsent k make := by
  simp only [Keeper.computeIfAbsent, Keeper.findOrMake, h.sweepIfDue, h.find?, h.change]

theorem remove (k : K) (force : Bool) : keeper.remove k force = other.remove k force := by
  simp only [Keeper.remove, h.dropIf, h.mayRelease]

theorem clearKeys (ks : List K) : keeper.clearKeys ks = other.clearKeys ks := by
  induction ks with
  | nil => rfl
  | cons k ks ih => simp only [Keeper.clearKeys, h.dropIf, ih]

theorem clear : keeper.clear = other.clear := by
  simp only [Keeper.clear, h.look, h.clearKeys]

theorem turn (id : Nat) (due : Instant) : keeper.turn id due = other.turn id due := by
  simp only [Keeper.turn, Keeper.endWorker, h.cache, h.look, h.change, h.sweep]

theorem goOn (id : Nat) : keeper.goOn id = other.goOn id := by
  simp only [Keeper.goOn, h.look, h.change, h.turn]

end Alike

end Keeper

end ReplicaRouter
