import ReplicaRouter.Proofs.Refusal
/-
That work comes to an end. A driver is answering if each call to it ends even where nobody else does anything;
everything that waits besides waits no longer than until a deadline. So over an answering driver every search for a
link comes to an end, as long as others may leave the world alone.
Main statements: `Providers.prompt_connect` and `Split.prompt_switchTo`.
-/
namespace ReplicaRouter

variable {W V K D α β : Type}

/-! ## Waiting -/

/-- Work on a part ends as it would end alone, if others leave the world alone. -/
theorem Outcome.Ends.focus {others : W → W → Prop} [Std.Refl others] {p : Part W V}
    (hget : ∀ v w, p.get (p.set v w) = v) {o : Outcome V α} {now later : Instant} {a : α} {v : V}
    (h : o.Ends Eq now a later v) (w : W) : ∃ w', (o.focus p w).Ends others now a later w' := by
  induction h generalizing w with
  | done a v now => exact ⟨_, .done ..⟩
  | @waited v ready deadline resume now later a v' t u change passed elapsed _ ih =>
    subst change
    obtain ⟨w', hrest⟩ := ih (p.set v w)
    refine ⟨w', .waited t (p.set v w) (Std.Refl.refl _) passed ?_ ?_⟩
    · rw [hget]
      exact elapsed
    · rw [hget]
      exact hrest

/-- Work that is given up in time ends, whether it would end on its own or not. -/
theorem Outcome.exists_ends_within {others : W → W → Prop} [Std.Refl others] (limit : Instant) (o : Outcome W α)
    (now : Instant) : ∃ r later w, (o.within limit now).Ends others now r later w := by
  induction o generalizing now with
  | done a w => exact ⟨_, _, _, .done ..⟩
  | blocked w ready deadline resume ih =>
    unfold Outcome.within
    split
    · exact ⟨_, _, _, .done ..⟩
    · -- the wait is over at the limit at the latest
      have hrest : ∀ t, ∃ r later w', (if ready w || deadline.any (· ≤ t) then (resume t w).within limit t
          else .done none w : Outcome W (Option α)).Ends others t r later w' := by
        intro t
        split
        · exact ih t w t
        · exact ⟨_, _, _, .done ..⟩
      obtain ⟨r, later, w', hends⟩ := hrest (max now (deadline.elim limit (min limit)))
      refine ⟨r, later, w', .waited _ w (Std.Refl.refl w) (Nat.le_max_left ..) (.inr ?_) hends⟩
      exact decide_eq_true (Nat.le_max_right ..)

namespace Routine

variable {others : W → W → Prop}

theorem prompt_now : Routine.Prompt others (now : Routine W Instant) := fun t w => ⟨t, t, w, .done ..⟩

theorem prompt_modifyGet (f : W → α × W) : Routine.Prompt others (modifyGet f) := fun t _ => ⟨_, t, _, .done ..⟩

theorem prompt_discard {x : Routine W α} (hx : Routine.Prompt others x) : Routine.Prompt others (discard x) :=
  prompt_bind hx fun _ => prompt_pure ()

variable [Std.Refl others]

/-- Who waits until a deadline waits no longer. -/
theorem prompt_wait (ready : W → Bool) (deadline : Instant) : Routine.Prompt others (wait ready (some deadline)) := by
  intro now w
  unfold Routine.Ends wait
  split
  · exact ⟨_, _, _, .done ..⟩
  · split
    · exact ⟨_, _, _, .done ..⟩
    · refine ⟨_, _, _, .waited (max now deadline) w (Std.Refl.refl w) (Nat.le_max_left ..) (.inr ?_) (.done ..)⟩
      exact decide_eq_true (Nat.le_max_right ..)

theorem prompt_sleep (d : Duration) : Routine.Prompt others (sleep d : Routine W Unit) :=
  prompt_bind prompt_now fun _ => prompt_discard (prompt_wait _ _)

theorem prompt_within (limit : Duration) (x : Routine W α) : Routine.Prompt others (within limit x) := fun now w =>
  Outcome.exists_ends_within _ (x now w) now

theorem prompt_focus {p : Part W V} (hget : ∀ v w, p.get (p.set v w) = v) {x : Routine V α}
    (hx : Routine.Prompt Eq x) : Routine.Prompt others (focus p x) := by
  intro now w
  obtain ⟨a, later, v, hends⟩ := hx now (p.get w)
  exact ⟨a, later, Outcome.Ends.focus hget hends w⟩

end Routine

/-! ## Caches -/

namespace Keeper

open Routine

variable [Journaled W] [DecidableEq K] {others : W → W → Prop} {keeper : Keeper W K V}

omit [Journaled W] [DecidableEq K] in
theorem prompt_look : Routine.Prompt others keeper.look := prompt_bind prompt_get fun _ => prompt_pure _

omit [Journaled W] in
theorem prompt_find? (k : K) : Routine.Prompt others (keeper.find? k) := by
  refine prompt_bind prompt_now fun now => prompt_bind prompt_look fun c => ?_
  split
  · exact prompt_bind (prompt_modify _) fun _ => prompt_pure _
  · exact prompt_pure _

variable (hrelease : ∀ v, Routine.Prompt others (keeper.release v))
include hrelease

theorem prompt_dropIf (k : K) (condition : W → Cached V → Bool) :
    Routine.Prompt others (keeper.dropIf k condition) := by
  have htake : Routine.Prompt others (keeper.takeIf k condition) := by
    refine prompt_bind prompt_get fun w => ?_
    split
    · split
      · exact prompt_bind (prompt_modify _) fun _ => prompt_pure _
      · exact prompt_pure _
    · exact prompt_pure _
  refine prompt_bind htake fun v => ?_
  cases v with
  | none => exact prompt_pure _
  | some v =>
    refine prompt_bind (prompt_bind (hrelease v) fun r => ?_) fun _ => prompt_pure _
    cases r <;> exact prompt_modify _

theorem prompt_sweep : Routine.Prompt others keeper.sweep := by
  have hkeys : ∀ ks, Routine.Prompt others (keeper.sweepKeys ks) := by
    intro ks
    induction ks with
    | nil => exact prompt_pure _
    | cons k ks ih =>
      refine prompt_bind prompt_now fun now => prompt_bind prompt_look fun c => ?_
      exact prompt_bind (prompt_dropIf hrelease k _) fun _ => prompt_bind ih fun _ => prompt_pure _
  refine prompt_bind prompt_now fun now => prompt_bind (prompt_modify _) fun _ => ?_
  refine prompt_bind prompt_look fun c => prompt_bind (hkeys _) fun n => ?_
  dsimp only
  split
  · exact prompt_bind (prompt_modify _) fun _ => prompt_pure _
  · exact prompt_pure _

theorem prompt_computeIfAbsent (k : K) (make : W → Except RouteError V × W) :
    Routine.Prompt others (keeper.computeIfAbsent k make) := by
  have hsweep : Routine.Prompt others keeper.sweepIfDue := by
    refine prompt_bind prompt_look fun c => prompt_bind prompt_now fun now => ?_
    split
    · exact prompt_discard (prompt_sweep hrelease)
    · exact prompt_pure ()
  refine prompt_bind hsweep fun _ => prompt_bind prompt_now fun now => prompt_bind (prompt_find? k) fun v => ?_
  cases v with
  | some v => exact prompt_pure _
  | none =>
    refine prompt_bind (prompt_modifyGet make) fun r => ?_
    cases r with
    | ok v => exact prompt_bind (prompt_modify _) fun _ => prompt_pure _
    | error e => exact prompt_pure _

end Keeper

/-! ## Drivers -/

/-- A driver that answers every call in the end, even if nobody else does anything. Checks of a connection are left
out: whoever waits for one gives it up in time. -/
class Backend.Answering (D : Type) [Backend D] : Prop where
  connect (protocol : String) (host : Host) (props : Properties) :
    Routine.Prompt Eq (Backend.connect (D := D) protocol host props)
  invoke (c : ConnId) (op : Operation) : Routine.Prompt Eq (Backend.invoke (D := D) c op)
  close (c : ConnId) : Routine.Prompt Eq (Backend.close (D := D) c)

instance : Std.Refl (World.Aside (D := D)) := ⟨.refl⟩

variable {others : World D → World D → Prop}

namespace World

theorem prompt_log (level : LogLevel) (text : String) : Routine.Prompt others (Routine.log (W := World D) level text) :=
  Routine.prompt_modify _

/-- A call that the driver answers ends, and is written down. -/
theorem prompt_call [Std.Refl others] {x : Routine D α} (hx : Routine.Prompt Eq x) (entry : α → Entry) :
    Routine.Prompt others do let a ← x.focus backendPart; Routine.note (entry a); return a :=
  Routine.prompt_bind (Routine.prompt_focus (fun _ _ => rfl) hx) fun _ =>
    Routine.prompt_bind (Routine.prompt_modify _) fun _ => Routine.prompt_pure _

theorem prompt_acquire [Std.Refl others] (id : PoolId) : Routine.Prompt others (acquire (D := D) id) := by
  refine Routine.prompt_bind Routine.prompt_get fun w => ?_
  dsimp only
  split
  · exact Routine.prompt_bind (Routine.prompt_modify _) fun _ => Routine.prompt_pure _
  · refine Routine.prompt_bind (Routine.prompt_modify _) fun _ => Routine.prompt_bind Routine.prompt_now fun now => ?_
    refine Routine.prompt_bind (Routine.prompt_wait _ _) fun ready => Routine.prompt_bind Routine.prompt_get fun w => ?_
    split <;> exact Routine.prompt_bind (Routine.prompt_modify _) fun _ => Routine.prompt_pure _

theorem prompt_markReturned (h : HandleId) : Routine.Prompt others (markReturned (D := D) h) :=
  Routine.prompt_bind Routine.prompt_get fun _ => Routine.prompt_bind (Routine.prompt_modify _) fun _ =>
    Routine.prompt_pure _

theorem prompt_lend (id : PoolId) (c : ConnId) : Routine.Prompt others (lend (D := D) id c) :=
  Routine.prompt_bind (Routine.prompt_modify _) fun _ => Routine.prompt_modifyGet _

variable [Backend D]

theorem prompt_takeIdle (id : PoolId) : Routine.Prompt others (takeIdle (D := D) id) := by
  refine Routine.prompt_bind Routine.prompt_get fun w => ?_
  split <;> exact Routine.prompt_bind (Routine.prompt_modify _) fun _ => Routine.prompt_pure _

variable [Backend.Answering D] [Std.Refl others]

theorem prompt_dial (protocol : String) (host : Host) (props : Properties) :
    Routine.Prompt others (dial (D := D) protocol host props) :=
  prompt_call (Backend.Answering.connect protocol host props) _

theorem prompt_send (c : ConnId) (op : Operation) : Routine.Prompt others (send (D := D) c op) :=
  Routine.prompt_bind Routine.prompt_get fun _ => prompt_call (Backend.Answering.invoke c op) _

theorem prompt_hangUp (c : ConnId) : Routine.Prompt others (hangUp (D := D) c) :=
  prompt_call (Backend.Answering.close c) _

theorem prompt_hangUpQuietly (c : ConnId) : Routine.Prompt others (hangUpQuietly (D := D) c) := by
  refine Routine.prompt_bind (prompt_hangUp c) fun r => ?_
  cases r with
  | ok _ => exact Routine.prompt_pure _
  | error e => exact prompt_log _ _

theorem prompt_closePool (id : PoolId) : Routine.Prompt others (closePool (D := D) id) := by
  have hidle : ∀ key cs, Routine.Prompt others (closeIdle (D := D) key cs) := by
    intro key cs
    induction cs with
    | nil => exact Routine.prompt_pure _
    | cons c cs ih =>
      refine Routine.prompt_bind (prompt_hangUp c) fun r => ?_
      cases r with
      | ok _ => exact ih
      | error e =>
        exact Routine.prompt_bind (prompt_log _ _) fun _ => Routine.prompt_bind ih fun _ => Routine.prompt_pure _
  refine Routine.prompt_bind Routine.prompt_get fun w => ?_
  dsimp only
  split
  · exact Routine.prompt_pure _
  · refine Routine.prompt_bind (Routine.prompt_modify _) fun _ => Routine.prompt_bind (hidle _ _) fun n => ?_
    refine Routine.prompt_bind (prompt_log _ _) fun _ => ?_
    split <;> exact Routine.prompt_pure _

theorem prompt_openFor (id : PoolId) : Routine.Prompt others (openFor (D := D) id) := by
  refine Routine.prompt_bind Routine.prompt_get fun w => Routine.prompt_bind (prompt_dial _ _ _) fun r => ?_
  cases r with
  | error e => exact Routine.prompt_pure _
  | ok c =>
    dsimp only
    split
    · refine Routine.prompt_bind (prompt_send c _) fun r => ?_
      cases r with
      | error e => exact Routine.prompt_bind (prompt_hangUpQuietly c) fun _ => Routine.prompt_pure _
      | ok _ => exact Routine.prompt_bind (prompt_log _ _) fun _ => Routine.prompt_pure _
    · exact Routine.prompt_bind (prompt_log _ _) fun _ => Routine.prompt_pure _

theorem prompt_borrow (id : PoolId) : Routine.Prompt others (borrow (D := D) id) := by
  refine Routine.prompt_bind Routine.prompt_get fun w => ?_
  dsimp only
  split
  · exact Routine.prompt_pure _
  · refine Routine.prompt_bind (prompt_acquire id) fun r => ?_
    cases r with
    | error e => exact Routine.prompt_pure _
    | ok _ =>
      have htake : Routine.Prompt others (takeOrOpen (D := D) id) := by
        refine Routine.prompt_bind (prompt_takeIdle id) fun c => ?_
        cases c with
        | some c => exact Routine.prompt_pure _
        | none => exact prompt_openFor id
      refine Routine.prompt_bind htake fun r => ?_
      cases r with
      | error e => exact Routine.prompt_bind (Routine.prompt_modify _) fun _ => Routine.prompt_pure _
      | ok c => exact Routine.prompt_bind (prompt_lend id c) fun _ => Routine.prompt_pure _

theorem prompt_evict (h : HandleId) : Routine.Prompt others (evict (D := D) h) := by
  refine Routine.prompt_bind (prompt_markReturned h) fun first => ?_
  split
  · exact Routine.prompt_bind Routine.prompt_get fun w => Routine.prompt_bind (Routine.prompt_modify _) fun _ =>
      Routine.prompt_bind (prompt_log _ _) fun _ => Routine.prompt_bind (prompt_hangUpQuietly _) fun _ =>
      Link.prompt_dropPermit h
  · exact Routine.prompt_pure _

end World

/-! ## Links -/

section Links

variable [Backend D] [Backend.Answering D] [Std.Refl others]

open World

theorem Link.prompt_closeQuietly (l : Link) : Routine.Prompt others (l.closeQuietly (D := D)) := by
  have hclose : Routine.Prompt others (l.close (D := D)) := by
    cases l with
    | direct c => exact prompt_hangUp c
    | pooled h =>
      refine Routine.prompt_bind (Routine.prompt_bind (prompt_markReturned h) fun first => ?_) fun _ =>
        Routine.prompt_pure _
      split
      · refine Routine.prompt_bind (Link.prompt_reclaim h) fun c => ?_
        cases c with
        | some c => exact Routine.prompt_bind (prompt_hangUpQuietly c) fun _ => Link.prompt_dropPermit h
        | none => exact Link.prompt_dropPermit h
      · exact Routine.prompt_pure _
  refine Routine.prompt_bind hclose fun r => ?_
  cases r with
  | ok _ => exact Routine.prompt_pure _
  | error e => exact prompt_log _ _

theorem PooledProvider.prompt_connectWithin (provider : PooledProvider) (protocol : String) (host : Host)
    (props : Properties) (left invalid : Nat) (cause : Option RouteError) :
    Routine.Prompt others (provider.connectWithin (D := D) protocol host props left invalid cause) := by
  have hrelease : ∀ id, Routine.Prompt others ((poolKeeper (D := D)).release id) := fun id => by
    refine Routine.prompt_bind (prompt_closePool id) fun r => ?_
    cases r <;> exact Routine.prompt_pure _
  -- by induction on how many trials are left, each of which comes to an end
  induction left generalizing invalid cause with
  | zero => exact Routine.prompt_pure _
  | succ left ih =>
    refine Routine.prompt_bind (Keeper.prompt_computeIfAbsent hrelease _ _) fun r => ?_
    cases r with
    | error e => exact Routine.prompt_pure _
    | ok id =>
      refine Routine.prompt_bind (prompt_borrow id) fun r => ?_
      cases r with
      | error e =>
        refine Routine.prompt_bind Routine.prompt_get fun w => ?_
        split
        · exact Routine.prompt_bind (prompt_log _ _) fun _ => ih _ _
        · split <;> exact Routine.prompt_pure _
      | ok h =>
        have hvalid : ∀ limit, Routine.Prompt others ((Link.pooled h).isValid (D := D) limit) := by
          refine fun limit => Routine.prompt_bind Routine.prompt_get fun w => ?_
          dsimp only
          split
          · exact Routine.prompt_pure _
          · exact Routine.prompt_bind (Routine.prompt_within _ _) fun _ => Routine.prompt_pure _
        refine Routine.prompt_bind Routine.prompt_get fun w => Routine.prompt_bind (hvalid _) fun valid => ?_
        split
        · exact Routine.prompt_pure _
        · exact Routine.prompt_bind (prompt_log _ _) fun _ => Routine.prompt_bind (prompt_evict h) fun _ => ih _ _

/-- Over an answering driver every attempt to connect comes to an end. -/
theorem Providers.prompt_connect (ps : Providers) (protocol : String) (host : Host) (props : Properties) :
    Routine.Prompt others (ps.connect (D := D) protocol host props) := by
  refine Routine.prompt_bind (prompt_log _ _) fun _ => ?_
  split
  · exact Routine.prompt_bind (PooledProvider.prompt_connectWithin _ _ _ _ _ _ _) fun _ => Routine.prompt_pure _
  · exact Routine.prompt_bind (prompt_dial _ _ _) fun _ => Routine.prompt_pure _

end Links

/-! ## Programs -/

namespace Split

theorem prompt_pick (size : Nat) : Split.Prompt others (pick (D := D) size) := fun s =>
  ⟨_, ⟨s.toPlace, { s.splitter with selector := (s.splitter.selector.pick size).2 }⟩, Outcome.Ends.done ..⟩

theorem prompt_service : Split.Prompt others (Split.act (D := D) get) := fun s => ⟨s.service, s, Outcome.Ends.done ..⟩

theorem prompt_hosts : Split.Prompt others (Split.act (D := D) Service.hosts) := fun s =>
  ⟨s.world.hosts.topology, s, Outcome.Ends.done ..⟩

theorem prompt_look : Split.Prompt others (Split.world (D := D) get) := prompt_world Routine.prompt_get

theorem prompt_line (level : LogLevel) (text : String) :
    Split.Prompt others (Split.world (World.log (D := D) level text)) :=
  prompt_world (World.prompt_log level text)

theorem prompt_countSwitch : Split.Prompt others (countSwitch (D := D)) :=
  prompt_bind prompt_get fun _ => prompt_bind (prompt_modify _) fun _ => prompt_signal _

theorem prompt_countFallback : Split.Prompt others (countFallback (D := D)) :=
  prompt_bind prompt_get fun _ => prompt_bind (prompt_modify _) fun _ => prompt_signal _

variable [Backend D]

theorem prompt_usable : Split.Prompt others (usable? (D := D)) :=
  prompt_bind prompt_get fun _ => prompt_bind prompt_service fun _ => prompt_bind prompt_look fun _ => prompt_pure _

theorem prompt_setCurrent (l : Link) (host : Host) :
    Split.Prompt others (Split.act (Service.setCurrent (D := D) l host)) := by
  refine prompt_act fun p => ?_
  obtain ⟨_, t1, w1, h1⟩ := @World.prompt_log D others .debug ("Current connection set to " ++ host.text)
    p.clock p.world
  obtain ⟨_, t2, w2, h2⟩ := @Link.prompt_hold D others l t1 w1
  -- what is left is to let go of the link that was current
  refine Exists.elim ?_ fun q hlet => ⟨(), q, Act.ends_bind.2 ⟨(), ⟨p.service, t1, w1⟩, Act.ends_world.2 ⟨h1, rfl⟩,
    Act.ends_bind.2 ⟨(), ⟨p.service, t2, w2⟩, Act.ends_world.2 ⟨h2, rfl⟩, Act.ends_bind.2
      ⟨p.service, _, Act.ends_get.2 ⟨rfl, rfl⟩, Act.ends_bind.2 ⟨(), _, Act.ends_modify.2 rfl, hlet⟩⟩⟩⟩⟩
  cases p.service.link? with
  | none => exact ⟨_, Act.ends_pure.2 ⟨rfl, rfl⟩⟩
  | some k =>
    obtain ⟨_, t3, w3, h3⟩ := @Link.prompt_letGo D others _ k t2 w2
    exact ⟨⟨_, t3, w3⟩, Act.ends_world.2 ⟨h3, rfl⟩⟩

theorem prompt_makeCurrent (l : HostLink) : Split.Prompt others (makeCurrent (D := D) l) := by
  refine prompt_bind prompt_usable fun cur => ?_
  split
  · exact prompt_bind (prompt_setCurrent _ _) fun _ => prompt_countSwitch
  · exact prompt_pure ()

theorem prompt_setWriter (slot : Option HostLink) : Split.Prompt others (setWriter (D := D) slot) := by
  rw [setWriter_eq]
  exact prompt_swap _ _ _

theorem prompt_setReader (slot : Option HostLink) : Split.Prompt others (setReader (D := D) slot) := by
  rw [setReader_eq]
  exact prompt_swap _ _ _

theorem prompt_readFrom (l : HostLink) : Split.Prompt others (readFrom (D := D) l) :=
  prompt_bind (prompt_setReader _) fun _ => prompt_makeCurrent l

theorem prompt_rememberUsable (cur : Option HostLink) {rest : Split D α} (hrest : Split.Prompt others rest) :
    Split.Prompt others (do
      if let some l := cur then rememberCurrent l
      rest) := by
  cases cur with
  | none => exact hrest
  | some l => exact prompt_bind (prompt_rememberCurrent l) fun _ => hrest

variable [Backend.Answering D] [Std.Refl others]

theorem prompt_connect (host : Host) (props : Properties) :
    Split.Prompt others (Split.act (Service.connect (D := D) host props)) := by
  refine prompt_act fun p => ?_
  obtain ⟨r, t, w, h⟩ := @Providers.prompt_connect D others _ _ _ p.service.providers p.service.protocol host props
    p.clock p.world
  exact ⟨r, ⟨p.service, t, w⟩, Act.ends_bind.2 ⟨p.service, p, Act.ends_get.2 ⟨rfl, rfl⟩, Act.ends_world.2 ⟨h, rfl⟩⟩⟩

theorem prompt_ensureWriter : Split.Prompt others (ensureWriter (D := D)) := by
  refine prompt_bind prompt_look fun w => prompt_bind prompt_get fun s => ?_
  split
  · exact prompt_pure _
  · refine prompt_bind prompt_usable fun cur => ?_
    split
    · exact prompt_bind (prompt_setWriter _) fun _ => prompt_pure _
    · refine prompt_bind prompt_hosts fun hosts => ?_
      split
      · exact prompt_pure _
      · refine prompt_bind prompt_get fun s => prompt_bind (prompt_connect _ _) fun r => ?_
        cases r with
        | ok l => exact prompt_bind (prompt_setWriter _) fun _ => prompt_pure _
        | error e => exact prompt_pure _

theorem prompt_tryReaders (room : Nat) (hosts : List Host) : Split.Prompt others (tryReaders (D := D) room hosts) := by
  induction room generalizing hosts with
  | zero => exact prompt_pure _
  | succ room ih =>
    refine prompt_bind (prompt_pick _) fun i => ?_
    split
    · exact prompt_pure _
    · refine prompt_bind prompt_get fun s => prompt_bind (prompt_connect _ _) fun r => ?_
      cases r with
      | ok l => exact prompt_pure _
      | error e => exact prompt_bind (prompt_line _ _) fun _ => ih _

theorem prompt_leaveForReader : Split.Prompt others (leaveForReader (D := D)) := by
  refine prompt_bind prompt_look fun w => prompt_bind prompt_get fun s => ?_
  split
  · exact prompt_bind (prompt_line _ _) fun _ => prompt_bind (prompt_makeCurrent _) fun _ => prompt_pure _
  · refine prompt_bind (prompt_bind prompt_hosts fun _ => prompt_tryReaders _ _) fun found => ?_
    cases found with
    | some l => exact prompt_bind (prompt_line _ _) fun _ => prompt_bind (prompt_readFrom l) fun _ => prompt_pure _
    | none =>
      refine prompt_bind prompt_ensureWriter fun r => ?_
      cases r with
      | error e => exact prompt_pure _
      | ok l =>
        exact prompt_bind (prompt_line _ _) fun _ => prompt_bind prompt_countFallback fun _ =>
          prompt_bind (prompt_readFrom l) fun _ => prompt_pure _

theorem prompt_leaveForOnlyHost : Split.Prompt others (leaveForOnlyHost (D := D)) := by
  refine prompt_bind prompt_ensureWriter fun r => ?_
  cases r with
  | error e => exact prompt_pure _
  | ok l => exact prompt_bind (prompt_readFrom l) fun _ => prompt_pure _

theorem prompt_switchToReader : Split.Prompt others (switchToReader (D := D)) := by
  refine prompt_bind prompt_usable fun cur => prompt_rememberUsable cur (prompt_bind prompt_get fun s => ?_)
  split
  · exact prompt_pure _
  · refine prompt_bind prompt_hosts fun hosts => ?_
    dsimp only
    split
    · exact prompt_bind (prompt_setReader _) fun _ => prompt_pure _
    · refine prompt_bind prompt_service fun v => ?_
      split
      · exact prompt_pure _
      · split
        · exact prompt_leaveForOnlyHost
        · exact prompt_leaveForReader

theorem prompt_switchToWriter : Split.Prompt others (switchToWriter (D := D)) := by
  refine prompt_bind prompt_usable fun cur => prompt_rememberUsable cur (prompt_bind prompt_get fun s => ?_)
  split
  · exact prompt_pure _
  · refine prompt_bind prompt_service fun v => ?_
    split
    · exact prompt_pure _
    · refine prompt_bind prompt_ensureWriter fun r => ?_
      cases r with
      | error e => exact prompt_pure _
      | ok l =>
        exact prompt_bind (prompt_line _ _) fun _ => prompt_bind (prompt_makeCurrent l) fun _ => prompt_pure _

theorem prompt_releaseStale : Split.Prompt others (releaseStale (D := D)) := by
  refine prompt_bind prompt_get fun s => prompt_bind prompt_service fun v => ?_
  split
  · cases s.stale with
    | none => exact prompt_pure ()
    | some l =>
      exact prompt_bind (prompt_modify _) fun _ => prompt_bind (prompt_line _ _) fun _ =>
        prompt_bind (prompt_world (Link.prompt_closeQuietly l)) fun _ => prompt_world (Link.prompt_letGo l)
  · exact prompt_pure ()

/-- Over an answering driver a switch comes to an end. -/
theorem prompt_switchTo (readOnly : Bool) : Split.Prompt others (switchTo (D := D) readOnly) := by
  refine prompt_bind (prompt_signal _) fun _ => prompt_bind (prompt_signal _) fun _ => ?_
  -- the two turns differ in nothing that comes after them
  cases readOnly
  case' true => refine prompt_bind prompt_switchToReader fun r => ?_
  case' false => refine prompt_bind prompt_switchToWriter fun r => ?_
  all_goals
    cases r with
    | error e => exact prompt_bind (prompt_signal _) fun _ => prompt_bind (prompt_signal _) fun _ => prompt_pure _
    | ok _ =>
      exact prompt_bind prompt_releaseStale fun _ => prompt_bind (prompt_signal _) fun _ =>
        prompt_bind (prompt_signal _) fun _ => prompt_pure _

end Split

/-! ## Staged databases -/

instance : Backend.Answering Sim.Cluster where
  connect _ _ _ := Routine.prompt_bind Routine.prompt_get fun _ =>
    Routine.prompt_bind (Routine.prompt_sleep _) fun _ => Routine.prompt_modifyGet _
  invoke _ _ := Routine.prompt_modifyGet _
  close _ := by
    refine Routine.prompt_bind Routine.prompt_get fun c => Routine.prompt_bind (Routine.prompt_modify _) fun _ => ?_
    split <;> exact Routine.prompt_pure _

end ReplicaRouter
