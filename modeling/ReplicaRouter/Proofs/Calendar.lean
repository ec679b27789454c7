import ReplicaRouter.Proofs.Chronicle
import ReplicaRouter.Proofs.Pacing
/-
A cache with a calendar of its sweeps: each sweep, whoever makes it, is entered when it starts, together with the time
and whether a worker was in charge of sweeping just then. Any number of operations run side by side over the cache, its
worker is started and stopped, and releases may take any time.
Main statement: the sweeps that look-ups make are an interval apart from all sweeps before them, and a look-up makes one
whenever it may (`Calendar.sweeps_on_schedule`).
-/
namespace ReplicaRouter

variable {K V U : Type}

namespace Calendar

/-! ## The calendar -/

/-- Why a sweep is made. -/
inductive Occasion where
  /-- A look-up makes it first. -/
  | lookUp
  | asked
  /-- It is the turn of a worker. -/
  | turn
  deriving DecidableEq

/-- The start of a sweep. -/
structure Entry where
  time : Instant
  occasion : Occasion
  /-- Whether a worker was in charge of sweeping. -/
  attended : Bool

/-- Whether a look-up made the sweep at this time. -/
def Entry.isLookUpAt (t : Instant) (x : Entry) : Bool := x.occasion = .lookUp && x.time = t

end Calendar

open Calendar

/-- A cache with the sweeps that were started, latest first, and the rest of the world. -/
structure Calendar (K V U : Type) where
  cache : Cache K V
  rest : U
  started : List Calendar.Entry := []

namespace Calendar

def cachePart : Part (Calendar K V U) (Cache K V) where
  get w := w.cache
  set cache w := { w with cache }

def restPart : Part (Calendar K V U) U where
  get w := w.rest
  set rest w := { w with rest }

/-- Log lines are not part of the calendar. -/
instance : Journaled (Calendar K V U) where
  note _ w := w

/-- Enters the start of a sweep. -/
def enter (t : Instant) (occasion : Occasion) (w : Calendar K V U) : Calendar K V U :=
  { w with started := ⟨t, occasion, w.cache.isWorkerActive⟩ :: w.started }

/-- Runs a factory. -/
def make (factory : U → Except RouteError V × U) (w : Calendar K V U) : Except RouteError V × Calendar K V U :=
  ((factory w.rest).1, { w with rest := (factory w.rest).2 })

end Calendar

/-! ## Operations -/

section Work

variable [DecidableEq K] (policy : Disposal K V U)

/-- How the values of a cache with a calendar are released. -/
def Disposal.timekeeper : Keeper (Calendar K V U) K V where
  cache := Calendar.cachePart
  keyText := policy.keyText
  mayRelease w := policy.mayRelease w.rest
  release v := (policy.release v).focus Calendar.restPart

/-- The work of an operation, by the sweeps that it starts. -/
def Disposal.performBy (sweep : Occasion → Routine (Calendar K V U) Nat) :
    Errand K V U → Routine (Calendar K V U) Unit
  | .put k v => discard (policy.timekeeper.put k v)
  | .get k => do
    policy.timekeeper.sweepIfDueBy (sweep .lookUp)
    discard (policy.timekeeper.find? k)
  | .compute k factory => do
    policy.timekeeper.sweepIfDueBy (sweep .lookUp)
    discard (policy.timekeeper.findOrMake k (make factory))
  | .remove k force => discard (policy.timekeeper.remove k force)
  | .sweep => discard (sweep .asked)
  | .clear => policy.timekeeper.clear
  | .inspect _ => discard policy.timekeeper.look
  | .startWorker => discard policy.timekeeper.startWorker
  | .stopWorker => policy.timekeeper.stopWorker
  | .goOn id => policy.timekeeper.goOnBy (sweep .turn) id

/-- Apart from the calendar, the operations are those of the cache. -/
theorem Disposal.performBy_sweep (e : Errand K V U) :
    policy.performBy (fun _ => policy.timekeeper.sweep) e = match e with
      | .put k v => discard (policy.timekeeper.put k v)
      | .get k => discard (policy.timekeeper.get? k)
      | .compute k factory => discard (policy.timekeeper.computeIfAbsent k (make factory))
      | .remove k force => discard (policy.timekeeper.remove k force)
      | .sweep => discard policy.timekeeper.sweep
      | .clear => policy.timekeeper.clear
      | .inspect _ => discard policy.timekeeper.look
      | .startWorker => discard policy.timekeeper.startWorker
      | .stopWorker => policy.timekeeper.stopWorker
      | .goOn id => policy.timekeeper.goOn id := by
  cases e with
  | get k =>
    show _ = discard (policy.timekeeper.get? k)
    rw [Keeper.get?_eq]
    exact (bind_assoc ..).symm
  | compute k factory =>
    show _ = discard (policy.timekeeper.computeIfAbsent k (make factory))
    rw [Keeper.computeIfAbsent_eq]
    exact (bind_assoc ..).symm
  | goOn id => exact (policy.timekeeper.goOn_eq id).symm
  | _ => rfl

/-- A sweep, entered when it starts. -/
def Disposal.sweepFor (occasion : Occasion) : Routine (Calendar K V U) Nat := do
  let t ← Routine.now
  modify (enter t occasion)
  policy.timekeeper.sweep

/-- The work of an operation. -/
def Disposal.perform (e : Errand K V U) : Routine (Calendar K V U) Unit := policy.performBy policy.sweepFor e

/-- What a look-up does apart from the sweep that it may make first. -/
def Disposal.lookUp? : Errand K V U → Option (Routine (Calendar K V U) Unit)
  | .get k => some (discard (policy.timekeeper.find? k))
  | .compute k factory => some (discard (policy.timekeeper.findOrMake k (make factory)))
  | _ => none

/-- Any of the operations can be begun at any time, and a worker be asked for where none is possible. -/
def Disposal.Performs (_ : Calendar K V U) (x : Routine (Calendar K V U) Unit) : Prop :=
  (∃ e, x = policy.perform e) ∨ x = discard policy.timekeeper.startWithoutBackground

end Work

namespace Calendar

/-- Outside the cache anything may change, and its owner may give it up. -/
def Elsewhere (w v : Calendar K V U) : Prop :=
  ∃ rest dropped, v = { w with rest, cache := { w.cache with dropped } }

/-! ## What is done at which time -/

/-- One thing that the operations do at a point in time. -/
inductive Move (now : Instant) : Calendar K V U → Calendar K V U → Prop
  | elsewhere (w : Calendar K V U) (rest : U) : Move now w { w with rest }
  | upkeep {w : Calendar K V U} {cache : Cache K V} (ontime : w.cache.OnTime cache) : Move now w { w with cache }
  /-- A sweep starts. A look-up makes one only when that is due. -/
  | start (w : Calendar K V U) {occasion : Occasion}
      (due : occasion = .lookUp → w.cache.isCleanupDue now = true) :
      Move now w (cachePart.modify (·.scheduleNext now) (w.enter now occasion))

abbrev Moves (now : Instant) : Calendar K V U → Calendar K V U → Prop := Relation.ReflTransGen (Move now)

instance (now : Instant) : Frame (Moves (K := K) (V := V) (U := U) now) (Moves now) := ⟨fun _ => .refl, .trans, id⟩

section Work

variable [DecidableEq K] {policy : Disposal K V U} {now : Instant} {w : Calendar K V U} {e : Errand K V U}
  {x : Routine (Calendar K V U) Unit}

omit [DecidableEq K] in
theorem timed_timekeeper (policy : Disposal K V U) : policy.timekeeper.Timed Moves where
  log _ _ _ _ := .refl
  set _ _ _ h := .single (.upkeep h)
  release _ := Routine.timed_focus (fun _ w rest => .single (.elsewhere w rest)) _

theorem sweepFor_apply (occasion : Occasion) (now : Instant) (w : Calendar K V U) :
    policy.sweepFor occasion now w = policy.timekeeper.sweep now (w.enter now occasion) := rfl

/-- A sweep that starts is entered, and puts off the next one. -/
theorem timed_sweepFor_apply {occasion : Occasion} (due : occasion = .lookUp → w.cache.isCleanupDue now = true) :
    (policy.sweepFor occasion now w).Timed Moves now w := by
  rw [sweepFor_apply]
  exact ((timed_timekeeper policy).timed_sweep now _).since (.single (.start w due))

theorem timed_sweepFor {occasion : Occasion} (h : occasion ≠ .lookUp) : (policy.sweepFor occasion).Timed Moves :=
  fun _ _ => timed_sweepFor_apply fun heq => absurd heq h

theorem timed_lookUp? (hx : policy.lookUp? e = some x) : x.Timed Moves := by
  have hk := timed_timekeeper policy
  cases e with
  | get k =>
    cases hx
    exact Routine.timed_discard (hk.timed_find? k)
  | compute k factory =>
    cases hx
    exact Routine.timed_discard (hk.timed_findOrMake k fun _ w => .single (.elsewhere w _))
  | _ => cases hx

section LookUp

variable {sweep : Occasion → Routine (Calendar K V U) Nat}

theorem performBy_lookUp? (hx : policy.lookUp? e = some x) :
    policy.performBy sweep e = policy.timekeeper.sweepIfDueBy (sweep .lookUp) >>= fun _ => x := by
  cases e with
  | get k =>
    cases hx
    rfl
  | compute k factory =>
    cases hx
    rfl
  | _ => cases hx

/-- When a sweep is due a look-up makes one first. -/
theorem performBy_of_due (hx : policy.lookUp? e = some x) (hdue : w.cache.isCleanupDue now = true) :
    policy.performBy sweep e now w = (sweep .lookUp >>= fun _ => x) now w := by
  rw [performBy_lookUp? hx]
  show ((if w.cache.isCleanupDue now then discard (sweep .lookUp) else pure ()) >>= fun _ => x :
    Routine (Calendar K V U) Unit) now w = _
  rw [if_pos hdue]
  exact congrFun (congrFun (bind_assoc ..) now) w

theorem performBy_of_not_due (hx : policy.lookUp? e = some x) (hdue : ¬ w.cache.isCleanupDue now = true) :
    policy.performBy sweep e now w = x now w := by
  rw [performBy_lookUp? hx]
  show ((if w.cache.isCleanupDue now then discard (sweep .lookUp) else pure ()) >>= fun _ => x :
    Routine (Calendar K V U) Unit) now w = _
  rw [if_neg hdue]
  rfl

end LookUp

/-- No operation does anything else. -/
theorem timed_perform (e : Errand K V U) : (policy.perform e).Timed Moves := by
  have hk := timed_timekeeper policy
  have hdue : (policy.timekeeper.sweepIfDueBy (policy.sweepFor .lookUp)).Timed Moves :=
    Keeper.Timed.timed_sweepIfDueBy fun _ _ h => timed_sweepFor_apply fun _ => h
  cases e with
  | put k v => exact Routine.timed_discard (hk.timed_put k v)
  | get k => exact Routine.timed_bind hdue fun _ => timed_lookUp? (e := .get k) rfl
  | compute k factory => exact Routine.timed_bind hdue fun _ => timed_lookUp? (e := .compute k factory) rfl
  | remove k force => exact Routine.timed_discard (hk.timed_dropIf k _)
  | sweep => exact Routine.timed_discard (timed_sweepFor (by decide))
  | clear => exact hk.timed_clear
  | inspect k => exact Routine.timed_discard Keeper.Timed.timed_look
  | startWorker => exact Routine.timed_discard hk.timed_startWorker
  | stopWorker => exact hk.timed_stopWorker
  | goOn id => exact hk.timed_goOnBy (timed_sweepFor (by decide)) id

theorem timely_performs (policy : Disposal K V U) : Timely policy.Performs Elsewhere Moves where
  calls := by
    rintro w x (⟨e, rfl⟩ | rfl)
    · exact timed_perform e
    · exact Routine.timed_discard (timed_timekeeper policy).timed_startWithoutBackground
  others := by
    rintro t w v ⟨rest, dropped, rfl⟩
    exact .tail (.single (.elsewhere w rest)) (.upkeep ⟨rfl, rfl⟩)

end Work

/-! ## Sweeps an interval apart -/

/-- When the latest of the sweeps started, or when the cache was created if there was none. -/
def latest (created : Instant) : List Entry → Instant
  | [] => created
  | x :: _ => x.time

/-- The sweeps follow upon each other in time, those of look-ups an interval after the one before and while no worker
was in charge. -/
def Spaced (created : Instant) (interval : Duration) : List Entry → Prop
  | [] => True
  | x :: earlier => latest created earlier ≤ x.time ∧
      (x.occasion = .lookUp → x.attended = false ∧ latest created earlier + interval.nanos ≤ x.time) ∧
      Spaced created interval earlier

section Spaced

variable {created : Instant} {interval : Duration} {started earlier later : List Entry} {x : Entry}

theorem Spaced.created_le_latest (h : Spaced created interval started) : created ≤ latest created started := by
  induction started with
  | nil => exact Nat.le_refl _
  | cons x earlier ih => exact Nat.le_trans (ih h.2.2) h.1

theorem Spaced.le_latest (h : Spaced created interval started) : ∀ y ∈ started, y.time ≤ latest created started := by
  induction started with
  | nil => exact nofun
  | cons x earlier ih =>
    exact List.forall_mem_cons.2 ⟨Nat.le_refl _, fun y hy => Nat.le_trans (ih h.2.2 y hy) h.1⟩

/-- An interval has passed since the latest sweep exactly if one has passed since every sweep, and since the cache was
created. -/
theorem Spaced.latest_add_le_iff (h : Spaced created interval started) {t : Instant} :
    latest created started + interval.nanos ≤ t ↔
      created + interval.nanos ≤ t ∧ ∀ y ∈ started, y.time + interval.nanos ≤ t := by
  constructor
  · intro hlatest
    exact ⟨Nat.le_trans (Nat.add_le_add_right h.created_le_latest _) hlatest,
      fun y hy => Nat.le_trans (Nat.add_le_add_right (h.le_latest y hy) _) hlatest⟩
  · rintro ⟨hcreated, hstarted⟩
    cases started with
    | nil => exact hcreated
    | cons x earlier => exact hstarted x List.mem_cons_self

theorem Spaced.of_append (h : Spaced created interval (later ++ started)) : Spaced created interval started := by
  induction later with
  | nil => exact h
  | cons x later ih => exact ih h.2.2

theorem Spaced.lookUp (h : Spaced created interval (later ++ x :: earlier)) (hx : x.occasion = .lookUp) :
    x.attended = false ∧ created + interval.nanos ≤ x.time ∧ ∀ y ∈ earlier, y.time + interval.nanos ≤ x.time := by
  obtain ⟨-, hspaced, hearlier⟩ := h.of_append
  obtain ⟨hattended, hlatest⟩ := hspaced hx
  exact ⟨hattended, hearlier.latest_add_le_iff.1 hlatest⟩

/-- No two of the sweeps that look-ups make start at the same time. -/
theorem Spaced.countP_le_one (h : Spaced created interval started) (hpos : 0 < interval.nanos) (t : Instant) :
    started.countP (·.isLookUpAt t) ≤ 1 := by
  induction started with
  | nil => exact Nat.zero_le _
  | cons x earlier ih =>
    by_cases hx : x.isLookUpAt t = true
    · obtain ⟨hoccasion, htime⟩ : x.occasion = .lookUp ∧ x.time = t := by
        simpa [Entry.isLookUpAt] using hx
      have hnone : earlier.countP (·.isLookUpAt t) = 0 := by
        refine List.countP_eq_zero.2 fun y hy => ?_
        have hspaced : Spaced created interval ([] ++ x :: earlier) := h
        have hbefore : y.time + interval.nanos ≤ x.time := (hspaced.lookUp hoccasion).2.2 y hy
        have hbefore : y.time < x.time := Nat.lt_of_lt_of_le (Nat.lt_add_of_pos_right hpos) hbefore
        have hne : y.time ≠ t := fun hy => Nat.ne_of_lt hbefore (hy.trans htime.symm)
        simp [Entry.isLookUpAt, hne]
      rw [List.countP_cons_of_pos hx, hnone]
    · rw [List.countP_cons_of_neg hx]
      exact ih h.2.2

end Spaced

/-- The next sweep of a look-up is due an interval after the latest sweep, and the sweeps are spaced. -/
structure Kept (created : Instant) (interval : Duration) (now : Instant) (w : Calendar K V U) : Prop where
  constant : w.cache.interval = interval
  next : w.cache.nextCleanup = latest created w.started + interval.nanos
  passed : latest created w.started ≤ now
  spaced : Spaced created interval w.started

section Kept

variable {created now : Instant} {interval : Duration} {w v : Calendar K V U}

theorem Kept.isCleanupDue_iff (h : Kept created interval now w) (t : Instant) : w.cache.isCleanupDue t = true ↔
    w.cache.isWorkerActive = false ∧ latest created w.started + interval.nanos ≤ t := by
  unfold Cache.isCleanupDue
  rw [h.next]
  simp

theorem Kept.move (h : Kept created interval now w) (hmove : Move now w v) : Kept created interval now v := by
  cases hmove with
  | elsewhere rest => exact ⟨h.constant, h.next, h.passed, h.spaced⟩
  | upkeep ontime => exact ⟨ontime.interval.trans h.constant, ontime.next.trans h.next, h.passed, h.spaced⟩
  | @start occasion due =>
    refine ⟨h.constant, ?_, Nat.le_refl now, h.passed, fun hoccasion => ?_, h.spaced⟩
    · show now + w.cache.interval.nanos = now + interval.nanos
      rw [h.constant]
    · exact (h.isCleanupDue_iff now).1 (due hoccasion)

theorem withstands_kept (created : Instant) (interval : Duration) :
    Withstands (Kept (K := K) (V := V) (U := U) created interval) Moves where
  change h hw := by
    induction h with
    | refl => exact hw
    | tail _ hmove ih => exact ih.move hmove
  later h hw := ⟨hw.constant, hw.next, Nat.le_trans hw.passed h, hw.spaced⟩

/-- What is entered stays. -/
theorem withstands_started (u : Calendar K V U) :
    Withstands (fun _ w => u.started <:+ w.started) (Moves (K := K) (V := V) (U := U)) where
  change h hu := by
    induction h with
    | refl => exact hu
    | tail _ hmove ih =>
      cases hmove with
      | elsewhere rest => exact ih
      | upkeep ontime => exact ih
      | start due => exact ih.trans (List.suffix_cons _ _)
  later _ hu := hu

theorem kept_of_empty {expiration : Duration} {w : Calendar K V U}
    (hcache : w.cache = .empty expiration interval created)
    (hstarted : w.started = []) : Kept created interval created w := by
  refine ⟨?_, ?_, ?_, ?_⟩
  · rw [hcache]
    rfl
  · rw [hcache, hstarted]
    rfl
  · rw [hstarted]
    exact Nat.le_refl _
  · rw [hstarted]
    trivial

end Kept

/-! ## Any number of operations side by side -/

/-- A moment when a look-up may sweep: no worker is in charge, and an interval has passed since the cache was created
and since every sweep started. -/
structure Opportune (created : Instant) (interval : Duration) (s : Schedule (Calendar K V U)) : Prop where
  unattended : s.world.cache.isWorkerActive = false
  created : created + interval.nanos ≤ s.clock
  started : ∀ x ∈ s.world.started, x.time + interval.nanos ≤ s.clock

section Run

variable [DecidableEq K] {policy : Disposal K V U} {created : Instant} {interval : Duration}
  {s₀ s s' : Schedule (Calendar K V U)}

omit [DecidableEq K] in
theorem Kept.isCleanupDue_iff_opportune (h : Kept created interval s.clock s.world) :
    s.world.cache.isCleanupDue s.clock = true ↔ Opportune created interval s := by
  rw [h.isCleanupDue_iff, h.spaced.latest_add_le_iff]
  exact ⟨fun ⟨hunattended, hcreated, hstarted⟩ => ⟨hunattended, hcreated, hstarted⟩,
    fun ⟨hunattended, hcreated, hstarted⟩ => ⟨hunattended, hcreated, hstarted⟩⟩

/-- The sweep that a look-up makes when it is due is entered at once, and stays. -/
theorem exists_lookUp_of_due {e : Errand K V U} {x : Routine (Calendar K V U) Unit} (hs : s.Timed Moves)
    (hx : policy.lookUp? e = some x) (hdue : s.world.cache.isCleanupDue s.clock = true)
    (hrun : Schedule.Run policy.Performs Elsewhere (s.absorb (policy.perform e s.clock s.world)) s') :
    (s.world.enter s.clock .lookUp).started <:+ s'.world.started := by
  let u := policy.timekeeper.cache.modify (·.scheduleNext s.clock) (s.world.enter s.clock .lookUp)
  have hwork : (policy.perform e s.clock s.world).Timed Moves s.clock u := by
    rw [Disposal.perform, performBy_of_due hx hdue]
    exact Outcome.Timed.andThen ((timed_timekeeper policy).timed_sweep s.clock _) fun _ => timed_lookUp? hx
  obtain ⟨hmoves, hs⟩ := hs.absorb hwork
  have hentered : u.started <:+ (s.absorb (policy.perform e s.clock s.world)).world.started :=
    (withstands_started u).change hmoves List.suffix_rfl
  exact (hs.run (timely_performs policy) (withstands_started u) hentered hrun).2

/-- Any number of operations run side by side over a cache that was just created with a positive interval, workers
among them. Each sweep that a look-up makes starts while no worker is in charge, and at least an interval after the
cache was created and after the start of every sweep before it, no matter how long the releases of those take. At every
moment when all this is the case a look-up makes a sweep before anything else, with a calendar or without, and at no
other moment does it make one. So at no time do two look-ups start sweeps, and when several are begun at a time when one
is due, exactly one does. -/
theorem sweeps_on_schedule {expiration : Duration} (hcache : s₀.world.cache = .empty expiration interval s₀.clock)
    (hstarted : s₀.world.started = []) (hparked : s₀.parked = []) (hpos : 0 < interval.nanos)
    (hrun : Schedule.Run policy.Performs Elsewhere s₀ s) :
    (∀ later x earlier, s.world.started = later ++ x :: earlier → x.occasion = .lookUp → x.attended = false ∧
      s₀.clock + interval.nanos ≤ x.time ∧ ∀ y ∈ earlier, y.time + interval.nanos ≤ x.time) ∧
    (∀ e x sweep, policy.lookUp? e = some x →
      (Opportune s₀.clock interval s →
        policy.performBy sweep e s.clock s.world = (sweep .lookUp >>= fun _ => x) s.clock s.world) ∧
      (¬ Opportune s₀.clock interval s → policy.performBy sweep e s.clock s.world = x s.clock s.world)) ∧
    (∀ t, s.world.started.countP (·.isLookUpAt t) ≤ 1) ∧
    ∀ e x s', policy.lookUp? e = some x → Opportune s₀.clock interval s →
      Schedule.Run policy.Performs Elsewhere (s.absorb (policy.perform e s.clock s.world)) s' →
      s'.world.started.countP (·.isLookUpAt s.clock) = 1 := by
  have hstart : s₀.Timed (Moves (K := K) (V := V) (U := U)) := by
    intro p hp
    rw [hparked] at hp
    cases hp
  have hkept : ∀ {m}, Schedule.Run policy.Performs Elsewhere s₀ m →
      m.Timed Moves ∧ Kept s₀.clock interval m.clock m.world := fun h =>
    hstart.run (timely_performs policy) (withstands_kept _ _) (kept_of_empty hcache hstarted) h
  obtain ⟨htimed, hs⟩ := hkept hrun
  refine ⟨?_, ?_, hs.spaced.countP_le_one hpos, ?_⟩
  · intro later x earlier hsplit hx
    have hspaced := hs.spaced
    rw [hsplit] at hspaced
    exact hspaced.lookUp hx
  · intro e x sweep hx
    rw [← hs.isCleanupDue_iff_opportune]
    exact ⟨performBy_of_due hx, performBy_of_not_due hx⟩
  · -- at most one by the spacing, at least one as the look-up itself makes it
    intro e x s' hx hopportune hlater
    have hentered := exists_lookUp_of_due htimed hx (hs.isCleanupDue_iff_opportune.2 hopportune) hlater
    have hall : Schedule.Run policy.Performs Elsewhere s₀ s' :=
      .trans (.tail hrun (.call (.inl ⟨e, rfl⟩))) hlater
    refine Nat.le_antisymm ((hkept hall).2.spaced.countP_le_one hpos _) ?_
    exact List.countP_pos_iff.2 ⟨_, hentered.subset List.mem_cons_self, by simp [Entry.isLookUpAt]⟩

end Run

/-! ### Sweeps that overlap -/

namespace Overlap

def policy : Disposal Nat Nat Bool := .slow .released

def call (e : Errand Nat Nat Bool) (s : Schedule (Calendar Nat Nat Bool)) : Schedule (Calendar Nat Nat Bool) :=
  s.absorb (policy.perform e s.clock s.world)

def start : Schedule (Calendar Nat Nat Bool) where
  world := { cache := .empty ⟨10⟩ ⟨100⟩ 0, rest := false }

/-- The first look-up that is due takes an old value out, and is held up by its release until the next one is due. -/
def held : Schedule (Calendar Nat Nat Bool) :=
  { call (.get 2) { call (.put 1 10) start with clock := 100 } with clock := 200 }

/-- Two look-ups come at that time. Later a worker is in charge, and another look-up comes when an interval is over. -/
def finish : Schedule (Calendar Nat Nat Bool) :=
  let s := call .startWorker (call (.get 2) (call (.compute 3 fun u => (.ok 30, u)) held))
  call (.get 2) { s with clock := 300 }

theorem step_call (e : Errand Nat Nat Bool) (s : Schedule (Calendar Nat Nat Bool)) :
    Schedule.Step policy.Performs Elsewhere s (call e s) :=
  .call (.inl ⟨e, rfl⟩)

theorem run_held : Schedule.Run policy.Performs Elsewhere start held := by
  have hput : Schedule.Run policy.Performs Elsewhere start _ :=
    .tail (.single (step_call (.put 1 10) start)) (.tick (Nat.zero_le 100))
  exact .tail (.tail hput (step_call (.get 2) _)) (.tick (show 100 ≤ 200 by decide))

theorem run_finish :
    Schedule.Run policy.Performs Elsewhere (call (.compute 3 fun u => (.ok 30, u)) held) finish := by
  have hworker : Schedule.Run policy.Performs Elsewhere (call (.compute 3 fun u => (.ok 30, u)) held) _ :=
    .tail (.single (step_call (.get 2) _)) (step_call .startWorker _)
  exact .tail (.tail hworker (.tick (show 200 ≤ 300 by decide))) (step_call (.get 2) _)

end Overlap

/-- Of the two look-ups exactly one makes a sweep, while the release of the first sweep goes on. -/
theorem sweeps_on_schedule_of_overlap :
    Overlap.finish.parked.length = 1 ∧
      Overlap.finish.world.started = [⟨200, .lookUp, false⟩, ⟨100, .lookUp, false⟩] ∧
      Overlap.finish.world.started.countP (·.isLookUpAt 200) = 1 := by
  obtain ⟨-, -, -, hone⟩ := sweeps_on_schedule rfl rfl rfl (by decide) Overlap.run_held
  refine ⟨rfl, rfl, hone (.compute 3 fun u => (.ok 30, u)) _ _ rfl ⟨rfl, by decide, ?_⟩ Overlap.run_finish⟩
  exact List.forall_mem_cons.2 ⟨by decide, nofun⟩

end Calendar

end ReplicaRouter
