import ReplicaRouter.Proofs.Sweeping
/-
What work does to the world, and when. A relation between worlds is given for every point in time; work is `Timed` by it
if each stretch of the work, from where it goes on to where it stops, changes the world by what is allowed at the time
of that stretch.
Main statements: an invariant that bears what is allowed at any time, and that time goes by, holds in every course of
events (`Schedule.Timed.run`), and of all the work on a cache nothing but the start of a sweep puts off the time of the
next one (`Keeper.Timed`, `Keeper.Timed.timed_goOnBy`).
-/
namespace ReplicaRouter

variable {W V K α β : Type}

/-! ## Work by the clock -/

section Timed

variable (B : Instant → W → W → Prop)

/-- At each stretch the work changes the world by what is allowed at the time of the stretch. -/
def Outcome.Timed : Outcome W α → (now : Instant) → (start : W) → Prop
  | .done _ w, now, start => B now start w
  | .blocked w _ _ resume, now, start => B now start w ∧ ∀ t v, (resume t v).Timed t v

def Routine.Timed (x : Routine W α) : Prop := ∀ now w, (x now w).Timed B now w

/-- Whenever a waiting call goes on, it changes the world by what is allowed just then. -/
def Schedule.Timed (s : Schedule W) : Prop := ∀ p ∈ s.parked, ∀ t v, (p.resume t v).Timed B t v

end Timed

variable {B : Instant → W → W → Prop} {now : Instant} {w : W}

section Timed

variable [∀ t, Frame (B t) (B t)]

theorem Outcome.Timed.since {o : Outcome W α} {u : W} (h : B now u w) (ho : o.Timed B now w) : o.Timed B now u := by
  cases o with
  | done a v => exact Frame.trans (B now) h ho
  | blocked v ready deadline resume => exact ⟨Frame.trans (B now) h ho.1, ho.2⟩

theorem Outcome.Timed.andThen {o : Outcome W α} {f : α → Routine W β} (ho : o.Timed B now w)
    (hf : ∀ a, (f a).Timed B) : (o.andThen now f).Timed B now w := by
  induction o generalizing now w with
  | done a v => exact (hf a now v).since ho
  | blocked v ready deadline resume ih => exact ⟨ho.1, fun t u => ih t u (ho.2 t u)⟩

namespace Routine

omit [∀ t, Frame (B t) (B t)] in
theorem timed_modify {g : W → W} (hg : ∀ t w, B t w (g w)) : (modify g : Routine W Unit).Timed B := fun t w => hg t w

omit [∀ t, Frame (B t) (B t)] in
theorem timed_modifyGet {g : W → α × W} (hg : ∀ t w, B t w (g w).2) : (modifyGet g : Routine W α).Timed B :=
  fun t w => hg t w

omit [∀ t, Frame (B t) (B t)] in
/-- Work on a part does no more than any change of that part. -/
theorem timed_focus {p : Part W V} (hset : ∀ t w v, B t w (p.set v w)) (x : Routine V α) : (x.focus p).Timed B := by
  suffices ho : ∀ (o : Outcome V α) (t : Instant) (w : W), (o.focus p w).Timed B t w from
    fun t w => ho (x t (p.get w)) t w
  intro o
  induction o with
  | done a v => exact fun t w => hset t w v
  | blocked v ready deadline resume ih => exact fun t w => ⟨hset t w v, fun t u => ih t (p.get u) t u⟩

theorem timed_pure (a : α) : (pure a : Routine W α).Timed B := fun t w => Frame.refl (B t) w

theorem timed_bind {x : Routine W α} {f : α → Routine W β} (hx : x.Timed B) (hf : ∀ a, (f a).Timed B) :
    (x >>= f).Timed B :=
  fun t w => (hx t w).andThen hf

theorem timed_discard {x : Routine W α} (hx : x.Timed B) : (discard x).Timed B := timed_bind hx fun _ => timed_pure _

theorem timed_get : (get : Routine W W).Timed B := fun t w => Frame.refl (B t) w

theorem timed_now : (Routine.now : Routine W Instant).Timed B := fun t w => Frame.refl (B t) w

theorem timed_wait (ready : W → Bool) (deadline : Option Instant) : (wait ready deadline).Timed B := by
  intro t w
  unfold wait
  split
  · exact Frame.refl (B t) w
  · split
    · exact Frame.refl (B t) w
    · exact ⟨Frame.refl (B t) w, fun u v => Frame.refl (B u) v⟩

end Routine

end Timed

/-! ## Any number of calls side by side -/

section Run

variable {calls : W → Routine W Unit → Prop} {others : W → W → Prop} {s s' : Schedule W}

theorem Schedule.Timed.absorb {o : Outcome W Unit} (h : s.Timed B) (ho : o.Timed B s.clock w) :
    B s.clock w (s.absorb o).world ∧ (s.absorb o).Timed B := by
  cases o with
  | done a v => exact ⟨ho, h⟩
  | blocked v ready deadline resume =>
    refine ⟨ho.1, fun p hp t u => ?_⟩
    rcases List.mem_append.1 hp with hp | hp
    · exact h p hp t u
    · cases List.mem_singleton.1 hp
      exact ho.2 t u

/-- Calls that may be begun, and others, do nothing but what is allowed at the time. -/
structure Timely (calls : W → Routine W Unit → Prop) (others : W → W → Prop) (B : Instant → W → W → Prop) :
    Prop where
  calls : ∀ w x, calls w x → x.Timed B
  others : ∀ t w v, others w v → B t w v

/-- The invariant bears what is allowed at any time, and that time goes by. -/
structure Withstands (Inv : Instant → W → Prop) (B : Instant → W → W → Prop) : Prop where
  change {t : Instant} {w v : W} (h : B t w v) (hw : Inv t w) : Inv t v
  later {t u : Instant} {w : W} (h : t ≤ u) (hw : Inv t w) : Inv u w

theorem Schedule.Timed.step {Inv : Instant → W → Prop} (htimely : Timely calls others B) (hinv : Withstands Inv B)
    (h : s.Timed B) (hs : Inv s.clock s.world) (hstep : Schedule.Step calls others s s') :
    s'.Timed B ∧ Inv s'.clock s'.world := by
  have hafter : ∀ {s : Schedule W} {o : Outcome W Unit}, s.Timed B → Inv s.clock s.world →
      o.Timed B s.clock s.world → (s.absorb o).Timed B ∧ Inv (s.absorb o).clock (s.absorb o).world := by
    intro s o h hs ho
    obtain ⟨hB, hrest⟩ := h.absorb ho
    exact ⟨hrest, by rw [Schedule.absorb_clock]; exact hinv.change hB hs⟩
  cases hstep with
  | call allowed => exact hafter h hs (htimely.calls _ _ allowed _ _)
  | @resume front back p parked awake =>
    have hrest : ({ s with parked := front ++ back } : Schedule W).Timed B := fun q hq =>
      h q (Schedule.mem_parked parked (.inr hq))
    exact hafter hrest hs (h p (Schedule.mem_parked parked (.inl rfl)) _ _)
  | others change => exact ⟨h, hinv.change (htimely.others _ _ _ change) hs⟩
  | tick later => exact ⟨h, hinv.later later hs⟩

theorem Schedule.Timed.run {Inv : Instant → W → Prop} (htimely : Timely calls others B) (hinv : Withstands Inv B)
    (h : s.Timed B) (hs : Inv s.clock s.world) (hrun : Schedule.Run calls others s s') :
    s'.Timed B ∧ Inv s'.clock s'.world := by
  induction hrun with
  | refl => exact ⟨h, hs⟩
  | tail _ hstep ih => exact ih.1.step htimely hinv ih.2 hstep

end Run

/-! ## Work on a cache -/

/-- What is done to the cache has nothing to do with the time of the next sweep. -/
structure Cache.OnTime (c d : Cache K V) : Prop where
  interval : d.interval = c.interval
  next : d.nextCleanup = c.nextCleanup

namespace Cache

variable [DecidableEq K]

theorem onTime_insert (k : K) (e : Cached V) (c : Cache K V) : c.OnTime (c.insert k e) := by
  unfold insert
  split <;> exact ⟨rfl, rfl⟩

theorem onTime_touch (k : K) (now : Instant) (c : Cache K V) : c.OnTime (c.touch k now) := by
  unfold touch
  split <;> exact ⟨rfl, rfl⟩

end Cache

namespace Keeper

variable [Journaled W] [DecidableEq K]

/-! ### Operations by the sweeps that they start -/

section Programs

variable (keeper : Keeper W K V) (sweep : Routine W Nat)

/-- What a look-up does first, by the sweep that it makes. -/
def sweepIfDueBy : Routine W Unit := do
  if (← keeper.look).isCleanupDue (← Routine.now) then discard sweep

/-- One turn of a worker, by its sweep. -/
def turnBy (id : Nat) (due : Instant) : Routine W Unit := do
  match ← keeper.await id due with
  | none => keeper.endWorker id
  | some next =>
    let _ ← sweep
    keeper.change (·.setPhase id (.resting next))

/-- What a worker does that is not in the middle of a turn, by its sweep. -/
def goOnBy (id : Nat) : Routine W Unit := do
  let c ← keeper.look
  match c.worker? id with
  | some { phase := .fresh, .. } =>
    if c.interval.nanos = 0 || longestInterval.nanos < c.interval.nanos then
      keeper.change (·.setPhase id .failed)
    else keeper.turnBy sweep id ((← Routine.now) + c.interval.nanos)
  | some { phase := .resting due, .. } => keeper.turnBy sweep id due
  | _ => return ()

theorem get?_eq (k : K) : keeper.get? k = keeper.sweepIfDueBy keeper.sweep >>= fun _ => keeper.find? k := rfl

theorem computeIfAbsent_eq (k : K) (make : W → Except RouteError V × W) :
    keeper.computeIfAbsent k make = keeper.sweepIfDueBy keeper.sweep >>= fun _ => keeper.findOrMake k make := rfl

theorem goOn_eq (id : Nat) : keeper.goOn id = keeper.goOnBy keeper.sweep id := by
  have hturn : keeper.turn id = keeper.turnBy keeper.sweep id := funext fun due => keeper.turn_eq id due
  unfold goOn goOnBy
  exact hturn ▸ rfl

end Programs

/-! ### What they do when -/

/-- Log lines, the release of values, and whatever happens to the cache apart from the time of the next sweep, is
allowed at any time. -/
structure Timed (keeper : Keeper W K V) (B : Instant → W → W → Prop) : Prop where
  log (t : Instant) (level : LogLevel) (text : String) (w : W) : B t w (Journaled.note (.log level text) w)
  set (t : Instant) {c : Cache K V} {w : W} (h : (keeper.cache.get w).OnTime c) : B t w (keeper.cache.set c w)
  release (v : V) : (keeper.release v).Timed B

namespace Timed

variable {keeper : Keeper W K V} (hk : keeper.Timed B)
include hk

omit [DecidableEq K] in
theorem timed_log (level : LogLevel) (text : String) : (Routine.log level text).Timed B :=
  Routine.timed_modify fun t => hk.log t level text

omit [DecidableEq K] in
theorem timed_change {f : Cache K V → Cache K V} (hf : ∀ c : Cache K V, c.OnTime (f c)) : (keeper.change f).Timed B :=
  Routine.timed_modify fun t _ => hk.set t (hf _)

omit [DecidableEq K] in
theorem timed_setPhase (id : Nat) (phase : WorkerPhase) : (keeper.change (·.setPhase id phase)).Timed B :=
  hk.timed_change fun _ => ⟨rfl, rfl⟩

variable [∀ t, Frame (B t) (B t)]

omit [Journaled W] [DecidableEq K] hk in
theorem timed_look : keeper.look.Timed B := fun t w => Frame.refl (B t) w

omit [DecidableEq K] in
theorem timed_releaseValue (k : K) (v : V) : (keeper.releaseValue k v).Timed B := by
  refine Routine.timed_bind (hk.release v) fun r => ?_
  cases r with
  | released => exact hk.timed_log _ _
  | refused e => exact hk.timed_log _ _
  | crashed => exact hk.timed_log _ _

theorem timed_dropIf (k : K) (condition : W → Cached V → Bool) : (keeper.dropIf k condition).Timed B := by
  have htake : (keeper.takeIf k condition).Timed B := by
    refine Routine.timed_bind Routine.timed_get fun w => ?_
    split
    · split
      · exact Routine.timed_bind (hk.timed_change fun _ => ⟨rfl, rfl⟩) fun _ => Routine.timed_pure _
      · exact Routine.timed_pure _
    · exact Routine.timed_pure _
  refine Routine.timed_bind htake fun v => ?_
  cases v with
  | some v => exact Routine.timed_bind (hk.timed_releaseValue k v) fun _ => Routine.timed_pure _
  | none => exact Routine.timed_pure _

theorem timed_sweepKeys (ks : List K) : (keeper.sweepKeys ks).Timed B := by
  induction ks with
  | nil => exact Routine.timed_pure _
  | cons k ks ih =>
    refine Routine.timed_bind Routine.timed_now fun now => Routine.timed_bind timed_look fun c => ?_
    refine Routine.timed_bind (hk.timed_dropIf k _) fun dropped => Routine.timed_bind ih fun others => ?_
    exact Routine.timed_pure _

/-- Once the next sweep has been put off, a sweep does nothing more to that. -/
theorem timed_sweep (now : Instant) (w : W) :
    (keeper.sweep now w).Timed B now (keeper.cache.modify (·.scheduleNext now) w) := by
  have hrest : (do
      let count ← keeper.sweepKeys ((← keeper.look).expiredKeys now)
      if 0 < count then Routine.log .debug s!"Cache sweep disposed {count} expired entries"
      return count : Routine W Nat).Timed B := by
    refine Routine.timed_bind timed_look fun c => Routine.timed_bind (hk.timed_sweepKeys _) fun count => ?_
    dsimp only
    split
    · exact Routine.timed_bind (hk.timed_log _ _) fun _ => Routine.timed_pure _
    · exact Routine.timed_pure _
  exact hrest now _

theorem timed_find? (k : K) : (keeper.find? k).Timed B := by
  refine Routine.timed_bind Routine.timed_now fun now => Routine.timed_bind timed_look fun c => ?_
  split
  · exact Routine.timed_bind (hk.timed_change fun c => c.onTime_touch k now) fun _ => Routine.timed_pure _
  · exact Routine.timed_pure _

theorem timed_findOrMake (k : K) {make : W → Except RouteError V × W} (hmake : ∀ t w, B t w (make w).2) :
    (keeper.findOrMake k make).Timed B := by
  refine Routine.timed_bind Routine.timed_now fun now => Routine.timed_bind (hk.timed_find? k) fun v => ?_
  cases v with
  | some v => exact Routine.timed_pure _
  | none =>
    refine Routine.timed_bind (Routine.timed_modifyGet hmake) fun r => ?_
    cases r with
    | ok v => exact Routine.timed_bind (hk.timed_change fun c => c.onTime_insert k _) fun _ => Routine.timed_pure _
    | error e => exact Routine.timed_pure _

theorem timed_put (k : K) (v : V) : (keeper.put k v).Timed B :=
  Routine.timed_bind timed_look fun _ => Routine.timed_bind Routine.timed_now fun _ =>
    Routine.timed_bind (hk.timed_change fun c => c.onTime_insert k _) fun _ => Routine.timed_pure _

theorem timed_clear : keeper.clear.Timed B := by
  refine Routine.timed_bind timed_look fun c => ?_
  induction c.keys with
  | nil => exact Routine.timed_pure _
  | cons k ks ih => exact Routine.timed_bind (Routine.timed_discard (hk.timed_dropIf k _)) fun _ => ih

omit [DecidableEq K] in
theorem timed_startWorker : keeper.startWorker.Timed B := by
  refine Routine.timed_bind timed_look fun c => ?_
  split
  · exact Routine.timed_pure _
  · exact Routine.timed_bind (hk.timed_log _ _) fun _ =>
      Routine.timed_bind (hk.timed_change fun _ => ⟨rfl, rfl⟩) fun _ => Routine.timed_pure _

omit [DecidableEq K] in
theorem timed_startWithoutBackground : keeper.startWithoutBackground.Timed B := by
  refine Routine.timed_bind timed_look fun c => ?_
  split
  · exact Routine.timed_pure _
  · exact Routine.timed_bind (hk.timed_log _ _) fun _ => Routine.timed_pure _

omit [DecidableEq K] in
theorem timed_stopWorker : keeper.stopWorker.Timed B := by
  refine Routine.timed_bind timed_look fun c => ?_
  split
  · exact Routine.timed_pure _
  · refine Routine.timed_bind (hk.timed_change fun _ => ⟨rfl, rfl⟩) fun _ => ?_
    refine Routine.timed_bind (Routine.timed_discard (Routine.timed_wait _ _)) fun _ => ?_
    refine Routine.timed_bind timed_look fun c => ?_
    split
    · exact hk.timed_log _ _
    · exact Routine.timed_pure _

omit [DecidableEq K] in
theorem timed_turnBy {sweep : Routine W Nat} (hsweep : sweep.Timed B) (id : Nat) (due : Instant) :
    (keeper.turnBy sweep id due).Timed B := by
  have hawait : (keeper.await id due).Timed B := by
    refine Routine.timed_bind (hk.timed_setPhase id _) fun _ =>
      Routine.timed_bind (Routine.timed_wait _ _) fun cancelled => Routine.timed_bind timed_look fun c => ?_
    split
    · exact Routine.timed_pure _
    · refine Routine.timed_bind Routine.timed_now fun now => Routine.timed_bind timed_look fun c => ?_
      exact Routine.timed_bind (hk.timed_setPhase id _) fun _ => Routine.timed_pure _
  refine Routine.timed_bind hawait fun next => ?_
  cases next with
  | none => exact Routine.timed_bind (hk.timed_setPhase id _) fun _ => hk.timed_log _ _
  | some next => exact Routine.timed_bind hsweep fun _ => hk.timed_setPhase id _

omit [DecidableEq K] in
theorem timed_goOnBy {sweep : Routine W Nat} (hsweep : sweep.Timed B) (id : Nat) :
    (keeper.goOnBy sweep id).Timed B := by
  refine Routine.timed_bind timed_look fun c => ?_
  split
  · split
    · exact hk.timed_setPhase id _
    · exact Routine.timed_bind Routine.timed_now fun now => hk.timed_turnBy hsweep id _
  · exact hk.timed_turnBy hsweep id _
  · exact Routine.timed_pure _

omit [Journaled W] [DecidableEq K] hk in
/-- Of a look-up's sweep it is enough to know what it does when it is due. -/
theorem timed_sweepIfDueBy {sweep : Routine W Nat}
    (hsweep : ∀ now w, (keeper.cache.get w).isCleanupDue now = true → (sweep now w).Timed B now w) :
    (keeper.sweepIfDueBy sweep).Timed B := by
  intro now w
  show ((if (keeper.cache.get w).isCleanupDue now then discard sweep else pure () : Routine W Unit) now w).Timed B now w
  split
  · next hdue => exact (hsweep now w hdue).andThen fun _ => Routine.timed_pure _
  · exact Routine.timed_pure _ now w

end Timed

end Keeper

end ReplicaRouter
