import ReplicaRouter.Proofs.Dealings
/-
What the work on pools does to the world besides opening connections and counting handles. Of a relation between
worlds that bears such things it is enough to know this much, and each stretch of the work is within it: looking after
permits, shelves and the cache, checking and closing connections, and sweeping.
Main statements: `World.Mild.calm_closePool`, `World.Mild.calm_computeIfAbsent`, for relations that do not look at
pools and handles at all `World.Indifferent.calm_evict` and `World.Indifferent.calm_letGo`, and for those that do not
look at new connections either `World.Aloof.calm_provide`.
-/
namespace ReplicaRouter

variable {W K V D α β : Type}

/-! ## Sweeping any cache -/

namespace Keeper

variable [Journaled W] [DecidableEq K] {keeper : Keeper W K V} {R B : W → W → Prop}

omit [Journaled W] [DecidableEq K] in
theorem calm_look [Frame B B] : keeper.look.Calm R B := fun w _ => Frame.refl B w

/-- What a sweep does is borne: log lines, that entries are taken out and the next sweep is put off, and the release of
values. -/
structure Discreet (keeper : Keeper W K V) (R B : W → W → Prop) : Prop where
  log (level : LogLevel) (text : String) (w : W) : B w (Journaled.note (.log level text) w)
  erase (k : K) (w : W) : B w (keeper.cache.modify (·.erase k) w)
  schedule (now : Instant) (w : W) : B w (keeper.cache.modify (·.scheduleNext now) w)
  release (v : V) : (keeper.release v).Calm R B

namespace Discreet

variable (hk : keeper.Discreet R B)
include hk

theorem calm_log (level : LogLevel) (text : String) : (Routine.log level text).Calm R B :=
  Routine.calm_modify (hk.log level text)

variable [Frame B B]

theorem calm_releaseValue (k : K) (v : V) : (keeper.releaseValue k v).Calm R B := by
  refine Routine.calm_bind (hk.release v) fun r => ?_
  cases r with
  | released => exact hk.calm_log _ _
  | refused e => exact hk.calm_log _ _
  | crashed => exact hk.calm_log _ _

theorem calm_dropIf (k : K) (condition : W → Cached V → Bool) : (keeper.dropIf k condition).Calm R B := by
  have herase : (keeper.change (·.erase k)).Calm R B := Routine.calm_modify (hk.erase k)
  have htake : (keeper.takeIf k condition).Calm R B := by
    refine Routine.calm_bind Routine.calm_get fun w => ?_
    split
    · split
      · exact Routine.calm_bind herase fun _ => Routine.calm_pure _
      · exact Routine.calm_pure _
    · exact Routine.calm_pure _
  refine Routine.calm_bind htake fun v => ?_
  cases v with
  | some v => exact Routine.calm_bind (hk.calm_releaseValue k v) fun _ => Routine.calm_pure _
  | none => exact Routine.calm_pure _

theorem calm_sweepKeys (ks : List K) : (keeper.sweepKeys ks).Calm R B := by
  induction ks with
  | nil => exact Routine.calm_pure _
  | cons k ks ih =>
    refine Routine.calm_bind Routine.calm_now fun now => Routine.calm_bind calm_look fun c => ?_
    refine Routine.calm_bind (hk.calm_dropIf k _) fun dropped => Routine.calm_bind ih fun others => ?_
    exact Routine.calm_pure _

theorem calm_sweep : keeper.sweep.Calm R B := by
  have hschedule : ∀ now, (keeper.change (·.scheduleNext now)).Calm R B := fun now =>
    Routine.calm_modify (hk.schedule now)
  refine Routine.calm_bind Routine.calm_now fun now => Routine.calm_bind (hschedule now) fun _ => ?_
  refine Routine.calm_bind calm_look fun c => Routine.calm_bind (hk.calm_sweepKeys _) fun count => ?_
  split
  · exact Routine.calm_bind (hk.calm_log _ _) fun _ => Routine.calm_pure _
  · exact Routine.calm_pure _

end Discreet

/-- Log lines, changes of the cache and the release of values are borne. -/
structure Calm (keeper : Keeper W K V) (R B : W → W → Prop) : Prop where
  log (level : LogLevel) (text : String) (w : W) : B w (Journaled.note (.log level text) w)
  set (c : Cache K V) (w : W) : B w (keeper.cache.set c w)
  release (v : V) : (keeper.release v).Calm R B

namespace Calm

variable (hk : keeper.Calm R B)
include hk

theorem discreet : keeper.Discreet R B := ⟨hk.log, fun _ _ => hk.set _ _, fun _ _ => hk.set _ _, hk.release⟩

omit [DecidableEq K] in
theorem calm_log (level : LogLevel) (text : String) : (Routine.log level text).Calm R B :=
  Routine.calm_modify (hk.log level text)

omit [DecidableEq K] in
theorem calm_change (f : Cache K V → Cache K V) : (keeper.change f).Calm R B :=
  Routine.calm_modify fun w => hk.set _ w

variable [Frame B B]

theorem calm_sweepIfDue : keeper.sweepIfDue.Calm R B := by
  refine Routine.calm_bind calm_look fun c => Routine.calm_bind Routine.calm_now fun now => ?_
  split
  · exact Routine.calm_bind hk.discreet.calm_sweep fun _ => Routine.calm_pure _
  · exact Routine.calm_pure _

theorem calm_find? (k : K) : (keeper.find? k).Calm R B := by
  refine Routine.calm_bind Routine.calm_now fun now => Routine.calm_bind calm_look fun c => ?_
  split
  · exact Routine.calm_bind (hk.calm_change _) fun _ => Routine.calm_pure _
  · exact Routine.calm_pure _

theorem calm_computeIfAbsent (k : K) {make : W → Except RouteError V × W} (hmake : ∀ w, B w (make w).2) :
    (keeper.computeIfAbsent k make).Calm R B := by
  refine Routine.calm_bind hk.calm_sweepIfDue fun _ => Routine.calm_bind Routine.calm_now fun now => ?_
  refine Routine.calm_bind (hk.calm_find? k) fun v => ?_
  cases v with
  | some v => exact Routine.calm_pure _
  | none =>
    have hget : (modifyGet make : Routine W _).Calm R B := fun w _ => hmake w
    refine Routine.calm_bind hget fun r => ?_
    cases r with
    | ok v => exact Routine.calm_bind (hk.calm_change _) fun _ => Routine.calm_pure _
    | error e => exact Routine.calm_pure _

theorem calm_turn (id : Nat) (due : Instant) : (keeper.turn id due).Calm R B := by
  refine Routine.calm_bind (hk.calm_change _) fun _ => Routine.calm_bind (Routine.calm_wait _ _) fun cancelled => ?_
  refine Routine.calm_bind calm_look fun c => ?_
  split
  · exact Routine.calm_bind (hk.calm_change _) fun _ => hk.calm_log _ _
  · refine Routine.calm_bind Routine.calm_now fun now => Routine.calm_bind calm_look fun c => ?_
    refine Routine.calm_bind (hk.calm_change _) fun _ => ?_
    exact Routine.calm_bind (Routine.calm_bind hk.discreet.calm_sweep fun _ => Routine.calm_pure _) fun _ =>
      hk.calm_change _

theorem calm_goOn (id : Nat) : (keeper.goOn id).Calm R B := by
  refine Routine.calm_bind calm_look fun c => ?_
  split
  · split
    · exact hk.calm_change _
    · exact Routine.calm_bind Routine.calm_now fun now => hk.calm_turn id _
  · exact hk.calm_turn id _
  · exact Routine.calm_pure _

theorem calm_clear : keeper.clear.Calm R B := by
  refine Routine.calm_bind calm_look fun c => ?_
  induction c.keys with
  | nil => exact Routine.calm_pure _
  | cons k ks ih =>
    exact Routine.calm_bind (Routine.calm_bind (hk.discreet.calm_dropIf k _) fun _ => Routine.calm_pure _) fun _ => ih

omit [DecidableEq K] in
theorem calm_startWorker : keeper.startWorker.Calm R B := by
  refine Routine.calm_bind calm_look fun c => ?_
  split
  · exact Routine.calm_pure _
  · exact Routine.calm_bind (hk.calm_log _ _) fun _ => Routine.calm_bind (hk.calm_change _) fun _ => Routine.calm_pure _

omit [DecidableEq K] in
theorem calm_stopWorker : keeper.stopWorker.Calm R B := by
  refine Routine.calm_bind calm_look fun c => ?_
  split
  · exact Routine.calm_pure _
  · refine Routine.calm_bind (hk.calm_change _) fun _ => ?_
    refine Routine.calm_bind (Routine.calm_bind (Routine.calm_wait _ _) fun _ => Routine.calm_pure _) fun _ => ?_
    refine Routine.calm_bind calm_look fun c => ?_
    split
    · exact hk.calm_log _ _
    · exact Routine.calm_pure _

end Calm

end Keeper

/-! ## Permits -/

namespace World

section Permits

variable {R B : World D → World D → Prop} [Frame B B]

/-- Getting a permit only changes the permits. -/
theorem calm_acquire (p : PoolId)
    (hpermits : ∀ (f : Permits → Permits) w, B w (w.modifyPool p (·.modifyPermits f))) : (acquire p).Calm R B := by
  have hmodify : ∀ f : Permits → Permits,
      (modify (modifyPool p (·.modifyPermits f)) : Routine (World D) Unit).Calm R B :=
    fun f => Routine.calm_modify (hpermits f)
  refine Routine.calm_bind Routine.calm_get fun w => ?_
  dsimp only
  split
  · next q _ => exact Routine.calm_bind (hmodify fun _ => q) fun _ => Routine.calm_pure _
  · refine Routine.calm_bind (hmodify _) fun _ => Routine.calm_bind Routine.calm_now fun now => ?_
    refine Routine.calm_bind (Routine.calm_wait _ _) fun ready => Routine.calm_bind Routine.calm_get fun v => ?_
    split
    · exact Routine.calm_bind (hmodify _) fun _ => Routine.calm_pure _
    · exact Routine.calm_bind (hmodify _) fun _ => Routine.calm_pure _

/-- Taking the permit off a handle changes nothing but who has it. -/
theorem calm_dropPermit (h : HandleId)
    (hpermits : ∀ p (f : Permits → Permits) w, B w (w.modifyPool p (·.modifyPermits f)))
    (hfree : ∀ w, B w (w.modifyHandle h fun e => { e with hasPermit := false })) : (dropPermit h).Calm R B := by
  refine Routine.calm_bind Routine.calm_get fun w => ?_
  dsimp only
  split
  · exact Routine.calm_bind (Routine.calm_modify hfree) fun _ => Routine.calm_modify (hpermits _ _)
  · exact Routine.calm_pure _

end Permits

/-! ## Pools -/

end World

/-- Whether the entry tells of no request for a connection, and of no operation but one that sets a mode or fails. -/
def Entry.isMild : Entry → Bool
  | call (.connect ..) => false
  | call (.invoke _ _ (.setReadOnly _) _) => true
  | call (.invoke _ _ _ (.ok _)) => false
  | _ => true

namespace World

/-- The relation bears whatever is done to pools besides opening connections and counting handles. -/
structure Mild (B : World D → World D → Prop) : Prop where
  driver (d : D) (w : World D) : B w (backendPart.set d w)
  note {e : Entry} (mild : e.isMild = true) (w : World D) : B w (Journaled.note e w)
  pool (p : PoolId) {f : Pool → Pool} (uncounted : ∀ P, (f P).active = P.active) (w : World D) : B w (w.modifyPool p f)
  handle (h : HandleId) (f : Handle → Handle) (w : World D) : B w (w.modifyHandle h f)
  orphans (cs : List ConnId) (w : World D) : B w { w with orphans := cs }
  cache (c : Cache String PoolId) (w : World D) : B w { w with cache := c }
  create {P : Pool} (none : P.active = 0) (w : World D) : B w { w with pools := w.pools ++ [P] }

/-- The relation bears besides that connections are asked for. -/
structure Heedless (B : World D → World D → Prop) : Prop extends Mild B where
  connect (protocol : String) (host : Host) (props : Properties) (opened : Option ConnId) (w : World D) :
    B w (Journaled.note (.call (.connect protocol host props opened)) w)

/-- The relation does not look at pools and handles at all. -/
structure Indifferent (B : World D → World D → Prop) : Prop extends Mild B where
  count (p : PoolId) (f : Pool → Pool) (w : World D) : B w (w.modifyPool p f)
  append (e : Handle) (w : World D) : B w { w with handles := w.handles ++ [e] }

/-- The relation looks neither at pools and handles nor at connections that are asked for. -/
structure Aloof (B : World D → World D → Prop) : Prop extends Heedless B, Indifferent B

variable {R B : World D → World D → Prop} {c : ConnId} {p : PoolId} {h : HandleId}

/-- The driver may do anything. -/
theorem calm_driver [Frame B B] (hdriver : ∀ d w, B w (backendPart.set d w)) (x : Routine D α) :
    (x.focus backendPart).Calm R B :=
  Routine.calm_focus (fun w d _ => hdriver d w) (fun _ _ _ _ => trivial) fun d =>
    Routine.abides_of_forall (fun _ _ => trivial) x (fun _ _ => trivial) d

/-- What the driver does is written down. -/
theorem calm_call [Frame B B] (hdriver : ∀ d w, B w (backendPart.set d w)) (x : Routine D α) {entry : α → Entry}
    (hentry : ∀ a w, B w (Journaled.note (entry a) w)) :
    Routine.Calm R B (do let a ← x.focus backendPart; Routine.note (entry a); return a) :=
  Routine.calm_bind (calm_driver hdriver x) fun a =>
    Routine.calm_bind (Routine.calm_modify (hentry a)) fun _ => Routine.calm_pure _

/-- A call to the driver ends with what is written down of it. -/
theorem plays_call {calls : World D → Routine (World D) Unit → Prop} {others : World D → World D → Prop}
    {x : Routine D α}
    {entry : α → Entry} {a : α} {s s' : Schedule (World D)}
    (h : (do let a ← x.focus backendPart; Routine.note (entry a); return a : Routine (World D) α).Plays calls others s
      (some a) s') :
    ∃ m, (x.focus backendPart).Plays calls others s (some a) m ∧
      s' = { m with world := Journaled.note (entry a) m.world } := by
  rcases Routine.plays_bind.1 h with ⟨hr, -⟩ | ⟨b, m, hx, hnote⟩
  · cases hr
  · have hnote : (Outcome.done b (Journaled.note (entry b) m.world)).Plays calls others m (some a) s' := hnote
    obtain ⟨hb, rfl⟩ := Outcome.plays_done.1 hnote
    cases hb
    exact ⟨m, hx, rfl⟩

namespace Mild

variable (hB : Mild B)
include hB

theorem calm_note {e : Entry} (he : e.isMild = true) : (Routine.note e).Calm R B := Routine.calm_modify (hB.note he)

theorem calm_log (level : LogLevel) (text : String) : (Routine.log level text).Calm R B := hB.calm_note rfl

theorem calm_modifyPool (p : PoolId) {f : Pool → Pool} (hf : ∀ P, (f P).active = P.active) :
    (modify (modifyPool p f) : Routine (World D) Unit).Calm R B :=
  Routine.calm_modify (hB.pool p hf)

variable [Frame B B]

theorem calm_markReturned (h : HandleId) : (markReturned h).Calm R B :=
  Routine.calm_bind Routine.calm_get fun _ =>
    Routine.calm_bind (Routine.calm_modify (hB.handle h _)) fun _ => Routine.calm_pure _

variable [Backend D]

theorem calm_check (c : ConnId) (limit : Duration) : (check c limit).Calm R B :=
  calm_call hB.driver _ fun _ => hB.note rfl

theorem calm_hangUp (c : ConnId) : (hangUp c).Calm R B := calm_call hB.driver _ fun _ => hB.note rfl

theorem calm_setReadOnly (c : ConnId) (readOnly : Bool) : (send c (.setReadOnly readOnly)).Calm R B :=
  Routine.calm_bind Routine.calm_get fun _ => calm_call hB.driver _ fun _ => hB.note rfl

theorem calm_hangUpQuietly (c : ConnId) : (hangUpQuietly c).Calm R B := by
  refine Routine.calm_bind (hB.calm_hangUp c) fun r => ?_
  cases r with
  | ok _ => exact Routine.calm_pure _
  | error e => exact hB.calm_log _ _

theorem calm_isValid (l : Link) (limit : Duration) : (l.isValid limit).Calm R B := by
  cases l with
  | direct c => exact hB.calm_check c limit
  | pooled h =>
    refine Routine.calm_bind Routine.calm_get fun w => ?_
    dsimp only
    split
    · exact Routine.calm_pure _
    · exact Routine.calm_bind (Routine.calm_within (hB.calm_check _ _) _) fun _ => Routine.calm_pure _

theorem calm_takeIdle (p : PoolId) : (takeIdle p).Calm R B := by
  refine Routine.calm_bind Routine.calm_get fun w => ?_
  split
  · exact Routine.calm_bind (hB.calm_modifyPool p fun _ => rfl) fun _ => Routine.calm_pure _
  · exact Routine.calm_bind (hB.calm_modifyPool p fun _ => rfl) fun _ => Routine.calm_pure _

theorem calm_closeIdle (key : String) (cs : List ConnId) : (closeIdle key cs).Calm R B := by
  induction cs with
  | nil => exact Routine.calm_pure _
  | cons c cs ih =>
    refine Routine.calm_bind (hB.calm_hangUp c) fun r => ?_
    cases r with
    | ok _ => exact ih
    | error e =>
      exact Routine.calm_bind (hB.calm_log _ _) fun _ => Routine.calm_bind ih fun _ => Routine.calm_pure _

theorem calm_closePool (p : PoolId) : (closePool p).Calm R B := by
  refine Routine.calm_bind Routine.calm_get fun w => ?_
  dsimp only
  split
  · exact Routine.calm_pure _
  · refine Routine.calm_bind (hB.calm_modifyPool p fun _ => rfl) fun _ => ?_
    refine Routine.calm_bind (hB.calm_closeIdle _ _) fun n => Routine.calm_bind (hB.calm_log _ _) fun _ => ?_
    split
    · exact Routine.calm_pure _
    · exact Routine.calm_pure _

theorem calm_closeOrphan : closeOrphan.Calm R B := by
  refine Routine.calm_bind Routine.calm_get fun w => ?_
  split
  · exact Routine.calm_pure _
  · exact Routine.calm_bind (Routine.calm_modify (hB.orphans _)) fun _ => hB.calm_hangUpQuietly _

/-- Sweeping pools is borne. -/
theorem calm_poolKeeper : (poolKeeper (D := D)).Calm R B where
  log _ _ w := hB.note rfl w
  set c w := hB.cache c w
  release p := by
    refine Routine.calm_bind (hB.calm_closePool p) fun r => ?_
    cases r with
    | ok _ => exact Routine.calm_pure _
    | error e => exact Routine.calm_pure _

/-- A pool is found or created. -/
theorem calm_computeIfAbsent (provider : PooledProvider) (key protocol : String) (host : Host) (props : Properties) :
    (poolKeeper.computeIfAbsent key (provider.createPool key protocol host props)).Calm R B := by
  refine hB.calm_poolKeeper.calm_computeIfAbsent key fun w => ?_
  cases hP : Pool.create key protocol host props (provider.configure host props provider.base) with
  | error e =>
    obtain ⟨text, hcreate⟩ := provider.createPool_of_error hP w
    rw [hcreate]
    exact hB.note rfl w
  | ok P =>
    obtain ⟨text, hcreate⟩ := provider.createPool_of_ok hP w
    have hnone : P.active = 0 := by
      unfold Pool.create at hP
      split at hP
      · cases hP
      · cases hP
        rfl
    rw [hcreate]
    exact Frame.trans B (hB.note (e := .log .info text) rfl w) (hB.create hnone _)

end Mild

namespace Heedless

variable (hB : Heedless B) [Frame B B] [Backend D]
include hB

theorem calm_dial (protocol : String) (host : Host) (props : Properties) : (dial protocol host props).Calm R B :=
  calm_call hB.driver _ fun _ => hB.connect _ _ _ _

theorem calm_openFor (p : PoolId) : (openFor p).Calm R B := by
  refine Routine.calm_bind Routine.calm_get fun w => Routine.calm_bind (hB.calm_dial _ _ _) fun r => ?_
  cases r with
  | error e => exact Routine.calm_pure _
  | ok c =>
    dsimp only
    split
    · refine Routine.calm_bind (hB.calm_setReadOnly _ _) fun r => ?_
      cases r with
      | error e => exact Routine.calm_bind (hB.calm_hangUpQuietly c) fun _ => Routine.calm_pure _
      | ok reply => exact Routine.calm_bind (hB.calm_log _ _) fun _ => Routine.calm_pure _
    · exact Routine.calm_bind (hB.calm_log _ _) fun _ => Routine.calm_pure _

theorem calm_takeOrOpen (p : PoolId) : (takeOrOpen p).Calm R B := by
  refine Routine.calm_bind (hB.calm_takeIdle p) fun r => ?_
  cases r with
  | some c => exact Routine.calm_pure _
  | none => exact hB.calm_openFor p

end Heedless

namespace Indifferent

variable (hB : Indifferent B) [Frame B B]
include hB

theorem calm_lend (p : PoolId) (c : ConnId) : (World.lend p c).Calm R B :=
  Routine.calm_bind (Routine.calm_modify (hB.count p _)) fun _ w _ => hB.append _ w

theorem calm_takePermit (h : HandleId) : (dropPermit h).Calm R B :=
  calm_dropPermit h (fun _ _ => hB.count _ _) (hB.handle h _)

theorem calm_hold (l : Link) : l.hold.Calm R B := by
  cases l with
  | direct c => exact Routine.calm_pure _
  | pooled h => exact Routine.calm_modify (hB.handle h _)

variable [Backend D]

theorem calm_evict (h : HandleId) : (evict h).Calm R B := by
  refine Routine.calm_bind (hB.calm_markReturned h) fun first => ?_
  split
  · refine Routine.calm_bind Routine.calm_get fun w =>
      Routine.calm_bind (Routine.calm_modify (hB.count _ _)) fun _ => ?_
    refine Routine.calm_bind (hB.calm_log _ _) fun _ => Routine.calm_bind (hB.calm_hangUpQuietly _) fun _ => ?_
    exact hB.calm_takePermit h
  · exact Routine.calm_pure _

theorem calm_reclaim (h : HandleId) : (reclaim h).Calm R B := by
  refine Routine.calm_bind Routine.calm_get fun w => Routine.calm_bind (Routine.calm_modify (hB.count _ _)) fun _ => ?_
  split
  · exact Routine.calm_pure _
  · split
    · exact Routine.calm_pure _
    · exact Routine.calm_bind (Routine.calm_modify (hB.count _ _)) fun _ => Routine.calm_pure _

theorem calm_abandon (h : HandleId) : (abandon h).Calm R B := by
  refine Routine.calm_bind (hB.calm_markReturned h) fun first => ?_
  split
  · refine Routine.calm_bind (hB.calm_reclaim h) fun c => ?_
    cases c with
    | some c => exact Routine.calm_bind (Routine.calm_modify fun w => hB.orphans _ w) fun _ => hB.calm_takePermit h
    | none => exact hB.calm_takePermit h
  · exact Routine.calm_pure _

theorem calm_letGo (l : Link) : l.letGo.Calm R B := by
  cases l with
  | direct c => exact Routine.calm_pure _
  | pooled h =>
    refine Routine.calm_bind (Routine.calm_modify (hB.handle h _)) fun _ =>
      Routine.calm_bind Routine.calm_get fun w => ?_
    split
    · exact hB.calm_abandon h
    · exact Routine.calm_pure _

end Indifferent

namespace Aloof

variable (hB : Aloof B) [Frame B B] [Backend D]
include hB

theorem calm_borrow (p : PoolId) : (borrow p).Calm R B := by
  have hpermits : ∀ (f : Permits → Permits) w, B w (w.modifyPool p (·.modifyPermits f)) := fun f => hB.count p _
  refine Routine.calm_bind Routine.calm_get fun w => ?_
  dsimp only
  split
  · exact Routine.calm_pure _
  refine Routine.calm_bind (calm_acquire p hpermits) fun permit => ?_
  cases permit with
  | error e => exact Routine.calm_pure _
  | ok _ =>
    refine Routine.calm_bind (hB.calm_takeOrOpen p) fun fetched => ?_
    cases fetched with
    | error e => exact Routine.calm_bind (Routine.calm_modify (hpermits _)) fun _ => Routine.calm_pure _
    | ok c => exact Routine.calm_bind (hB.toIndifferent.calm_lend p c) fun _ => Routine.calm_pure _

/-- Looking for a valid connection is borne, whatever comes of it. -/
theorem calm_connect (provider : PooledProvider) (protocol : String) (host : Host) (props : Properties) :
    (provider.connect protocol host props).Calm R B := by
  suffices hwithin : ∀ left invalid cause, (provider.connectWithin protocol host props left invalid cause).Calm R B from
    hwithin _ _ _
  intro left
  -- by induction on how many trials are left, whatever has failed so far
  induction left with
  | zero => exact fun _ _ => Routine.calm_pure _
  | succ left ih =>
    intro invalid cause
    refine Routine.calm_bind (hB.calm_computeIfAbsent provider _ protocol host props) fun found => ?_
    cases found with
    | error e => exact Routine.calm_pure _
    | ok p =>
      refine Routine.calm_bind (hB.calm_borrow p) fun borrowed => ?_
      cases borrowed with
      | error e =>
        refine Routine.calm_bind Routine.calm_get fun w => ?_
        split
        · exact Routine.calm_bind (hB.calm_log _ _) fun _ => ih _ _
        · split
          · exact Routine.calm_pure _
          · exact Routine.calm_pure _
      | ok h =>
        refine Routine.calm_bind Routine.calm_get fun w => Routine.calm_bind (hB.calm_isValid _ _) fun valid => ?_
        split
        · exact Routine.calm_pure _
        · exact Routine.calm_bind (hB.calm_log _ _) fun _ =>
            Routine.calm_bind (hB.toIndifferent.calm_evict h) fun _ => ih _ _

/-- A connection is provided. -/
theorem calm_provide (ps : Providers) (protocol : String) (host : Host) (props : Properties) :
    (ps.connect protocol host props).Calm R B := by
  refine Routine.calm_bind (hB.calm_log _ _) fun _ => ?_
  cases hfor : ps.pooledFor? host with
  | some provider =>
    exact Routine.calm_bind (hB.calm_connect provider protocol host props) fun _ => Routine.calm_pure _
  | none => exact Routine.calm_bind (hB.calm_dial protocol host props) fun _ => Routine.calm_pure _

end Aloof

end World

end ReplicaRouter
