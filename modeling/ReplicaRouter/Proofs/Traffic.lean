import ReplicaRouter.Proofs.Shutdown
import ReplicaRouter.Proofs.Turnover
/-
Pools in use. Any number of calls run side by side that ask for connections, give handles back, evict and drop them and
sweep the cache, and that close pools unless these are to be kept; meanwhile the database and the host list change, and
operations run over the connections.
Main statements: everything stays in its place through every interleaving (`Schedule.Flows.run`), and whatever is
played there does what it does by itself (`Schedule.Flows.plays`).
-/
namespace ReplicaRouter

open World Freight

variable {D α : Type}

namespace World

variable [Backend D]

/-- Whoever asked for a handle holds it, if there is one. -/
def grasp : Except RouteError HandleId → Routine (World D) Unit
  | .ok h => (Link.pooled h).hold
  | .error _ => return ()

/-- What may be done with pools at any time. What has a handle done is done by who holds it. -/
inductive Traffic (kept : Prop) (w : World D) : Routine (World D) Unit → Prop
  | connect (provider : PooledProvider) (protocol : String) (host : Host) (props : Properties) :
      Traffic kept w (provider.connect protocol host props >>= grasp)
  | borrow {p : PoolId} (lt : p < w.pools.length) : Traffic kept w (borrow p >>= grasp)
  | giveBack {h : HandleId} (held : 0 < (w.handle h).holders) : Traffic kept w (giveBack h)
  | evict {h : HandleId} (held : 0 < (w.handle h).holders) : Traffic kept w (evict h)
  | hold {h : HandleId} (held : 0 < (w.handle h).holders) : Traffic kept w (Link.pooled h).hold
  | letGo {h : HandleId} (held : 0 < (w.handle h).holders) : Traffic kept w (Link.pooled h).letGo
  /-- In the background, a connection that nobody holds any more is closed. -/
  | closeOrphan : Traffic kept w closeOrphan
  | sweep : Traffic kept w (discard poolKeeper.sweep)
  | startWorker : Traffic kept w (discard poolKeeper.startWorker)
  | stopWorker : Traffic kept w poolKeeper.stopWorker
  /-- In the background, a worker of the cache goes on. -/
  | goOn (id : Nat) : Traffic kept w (poolKeeper.goOn id)
  | close (free : ¬ kept) {p : PoolId} (lt : p < w.pools.length) : Traffic kept w (discard (closePool p))
  | release (free : ¬ kept) : Traffic kept w PooledProvider.release

omit [Backend D] in
/-- Whatever happens elsewhere: the driver does something, the host list changes, and much is written down, but no
connection is opened or told to close. -/
def Elsewise (w v : World D) : Prop :=
  ∃ backend hosts es, (∀ e ∈ es, e.opened? = none ∧ e.closedConn? = none) ∧
    v = { w with backend, hosts, journal := es ++ w.journal }

variable {T : Terms D} {kept : Prop} {w v : World D} {rest : Multiset Freight} {x : Routine (World D) Unit}

theorem Elsewise.serene (h : w.Elsewise v) (hlater : T.outlook.later w.backend v.backend) : w.Serene T v := by
  obtain ⟨backend, hosts, es, hes, rfl⟩ := h
  exact { Serene.refl (T := T) w with later := hlater, journal := ⟨es, rfl, hes⟩ }

/-- Whatever is done leaves everything in its place, and has nothing in hand in the end. -/
theorem carries_traffic (hx : w.Traffic kept x) (hw : w.Circulates T kept rest) :
    Carries T kept x w rest fun _ own _ => own = 0 := by
  have hdone : ∀ {Q : World D → Prop} {y : Routine (World D) Unit},
      Carries T kept y w rest (fun _ own v => own = 0 ∧ Q v) → Carries T kept y w rest fun _ own _ => own = 0 :=
    fun hy now => (hy now).imp fun _ _ _ h => h.1
  -- what connects or borrows has a new handle in hand, which is held at once
  cases hx with
  | connect provider protocol host props =>
    refine carries_bind (provider.carries_connect hw) ?_
    rintro _ _ v rest - (new | e) hv
    · exact carries_hold_fresh hv
    · exact carries_pure hv rfl
  | borrow lt =>
    refine carries_bind (carries_borrow lt hw) ?_
    rintro _ _ v rest - (new | e) hv
    · exact carries_hold_fresh hv
    · exact carries_pure hv rfl
  | giveBack held => exact hdone (carries_giveBack (lt_of_held held) (hw.not_fresh held) hw)
  | evict held => exact hdone (carries_evict (lt_of_held held) (hw.not_fresh held) (barred_length _ w) hw)
  | hold held => exact carries_hold (lt_of_held held) (hw.not_fresh held) hw
  | letGo held => exact carries_letGo (lt_of_held held) (hw.not_fresh held) hw
  | closeOrphan => exact carries_closeOrphan hw
  | sweep => exact (mindful_poolKeeper.paysBack_sweep hw).discard
  | startWorker => exact (mindful_poolKeeper.paysBack_startWorker hw).discard
  | stopWorker => exact mindful_poolKeeper.paysBack_stopWorker hw
  | goOn id => exact mindful_poolKeeper.paysBack_goOn id hw
  | close free lt =>
    have hclose : (closePool _).PaysBack (Ensues T kept) (Circulates T kept) w rest := fun now =>
      (carries_closePool lt (fun h => absurd h free) hw now).imp fun _ _ _ h => h.1
    exact hclose.discard
  | release free => exact PooledProvider.carries_release free hw

end World

/-- The terms of somebody who knows nothing of the driver. -/
def Terms.blank (D : Type) [Backend D] : Terms D where
  outlook := .blank
  isValid := Backend.Outlook.blank_isValid
  uses := True
  careless := True
  blueprint _ := True

/-- What others do is done elsewhere, and the driver becomes nothing that it may not become. -/
structure Terms.Admits [Backend D] (T : Terms D) (others : World D → World D → Prop) : Prop where
  elsewise : ∀ w v, others w v → w.Elsewise v
  later : ∀ w v, others w v → T.outlook.later w.backend v.backend

theorem Terms.Admits.blank [Backend D] {others : World D → World D → Prop}
    (hothers : ∀ w v, others w v → w.Elsewise v) : (Terms.blank D).Admits others :=
  ⟨hothers, fun _ _ _ => trivial⟩

namespace Schedule

variable [Backend D] {T : Terms D} {kept : Prop} {others : World D → World D → Prop}
  {s s' : Schedule (World D)} {own : Multiset Freight}

/-- Everything is in its place, where this is in somebody's hands and the rest in those of the calls that wait. -/
abbrev Flows (T : Terms D) (kept : Prop) (s : Schedule (World D)) (own : Multiset Freight) : Prop :=
  s.Backs (Ensues T kept) (Circulates T kept) own

theorem Flows.circulates (h : s.Flows T kept own) : ∃ rest, s.world.Circulates T kept (own + rest) := by
  obtain ⟨stakes, -, hw⟩ := h
  exact ⟨stakes.sum, hw⟩

/-- While no call waits nobody else has anything in hand. -/
theorem Flows.settled (h : s.Flows T kept own) (hparked : s.parked = []) : s.world.Circulates T kept own := by
  obtain ⟨stakes, hheld, hw⟩ := h
  rw [hparked] at hheld
  cases hheld
  rwa [List.sum_nil, add_zero] at hw

/-- What is done to the world at once changes what somebody has in hand. -/
theorem Flows.change {w : World D} {own' : Multiset Freight} (h : s.Flows T kept own) (hlater : s.world.Ensues T kept w)
    (hw : ∀ rest, s.world.Circulates T kept (own + rest) → w.Circulates T kept (own' + rest)) :
    Flows T kept { s with world := w } own' := by
  obtain ⟨stakes, hheld, hinv⟩ := h
  exact ⟨stakes, hheld.imp fun _ _ h => h.later hlater, hw _ hinv⟩

section Others

variable (hothers : T.Admits others)
include hothers

theorem bears_others (w v : World D) (rest : Multiset Freight) (h : others w v) (hw : w.Circulates T kept rest) :
    w.Ensues T kept v ∧ v.Circulates T kept rest := by
  have hs := (hothers.elsewise w v h).serene (hothers.later w v h)
  exact ⟨hs.ensues, hw.serene hs⟩

theorem Flows.run (h : s.Flows T kept own) (hrun : Run (Traffic kept) others s s') :
    s.world.Ensues T kept s'.world ∧ s'.Flows T kept own :=
  Backs.run (fun _ _ _ hx hw => carries_traffic hx hw) (bears_others hothers) h hrun

/-- Work that is begun with this in hand ends with what it has in hand then. -/
theorem Flows.plays {x : Routine (World D) α} {Q : α → Multiset Freight → World D → Prop} {r : Option α}
    (h : s.Flows T kept own) (hx : ∀ rest, s.world.Circulates T kept (own + rest) → Carries T kept x s.world rest Q)
    (hplays : x.Plays (Traffic kept) others s r s') :
    s.world.Ensues T kept s'.world ∧ ∃ own, s'.Flows T kept own ∧ ∀ a, r = some a → Q a own s'.world :=
  Backs.plays (fun _ _ _ hx hw => carries_traffic hx hw) (bears_others hothers) h hx hplays

/-- Work that is done leaves to somebody else what it did not need. -/
theorem Flows.plays_beside {x : Routine (World D) α} {a : α} {Q : α → Multiset Freight → World D → Prop}
    {left : Multiset Freight} (h : s.Flows T kept (own + left)) (hx : ∀ rest,
      s.world.Circulates T kept (own + (left + rest)) → Carries T kept x s.world (left + rest) Q)
    (hplays : x.Plays (Traffic kept) others s (some a) s') :
    s.world.Ensues T kept s'.world ∧ ∃ own', s'.Flows T kept (own' + left) ∧ Q a own' s'.world := by
  obtain ⟨hlater, _, hs', hend⟩ := h.plays hothers
    (fun rest hw now => (hx rest (by rwa [add_assoc] at hw) now).frame) hplays
  obtain ⟨used, rfl, hq⟩ := hend a rfl
  exact ⟨hlater, used, hs', hq⟩

end Others

theorem flows_of_unused (h : s.world.Unused kept) (hparked : s.parked = []) : s.Flows T kept 0 := by
  refine ⟨[], ?_, h.circulates⟩
  rw [hparked]
  exact .nil

/-! ## On any terms -/

/-- Everything is in its place, on any terms that admit what others do. -/
def Orderly (others : World D → World D → Prop) (kept : Prop) (s : Schedule (World D)) (own : Multiset Freight) :
    Prop :=
  ∀ T : Terms D, T.Admits others → s.Flows T kept own

end Schedule

namespace World

variable [Backend D] {kept : Prop} {others : World D → World D → Prop} {u v w : World D} {c : ConnId}

/-- The second world may come after the first, on any terms that admit what others do. -/
def Leads (others : World D → World D → Prop) (kept : Prop) (w v : World D) : Prop :=
  ∀ T : Terms D, T.Admits others → w.Ensues T kept v

theorem Leads.trans (h1 : u.Leads others kept v) (h2 : v.Leads others kept w) : u.Leads others kept w := fun T hT =>
  (h1 T hT).trans (h2 T hT)

theorem Leads.ensues (h : w.Leads others kept v) (hothers : ∀ w v, others w v → w.Elsewise v) :
    w.Ensues (.blank D) kept v :=
  h (.blank D) (.blank hothers)

/-- The connection was told to close, and it is closed if the driver does what it is told. -/
def Ended (others : World D → World D → Prop) (w : World D) (c : ConnId) : Prop :=
  c ∈ w.hungUp ∧ ∀ _ : Backend.Dependable D,
    (∀ w v, others w v → Backend.Later Backend.Final.has w.backend v.backend) → w.isClosed c = true

end World

namespace Schedule

variable [Backend D] {kept : Prop} {others : World D → World D → Prop} {s s' : Schedule (World D)}
  {own left : Multiset Freight} {c : ConnId}

theorem orderly_of_unused (h : s.world.Unused kept) (hparked : s.parked = []) : s.Orderly others kept 0 :=
  fun _ _ => flows_of_unused h hparked

theorem Orderly.run (h : s.Orderly others kept own) (hrun : Run (Traffic kept) others s s') :
    s.world.Leads others kept s'.world ∧ s'.Orderly others kept own :=
  ⟨fun T hT => ((h T hT).run hT hrun).1, fun T hT => ((h T hT).run hT hrun).2⟩

/-- Everything is in its place, on any terms, whatever somebody has in hand. -/
def Tidy (others : World D → World D → Prop) (kept : Prop) (s : Schedule (World D)) : Prop :=
  ∀ T : Terms D, T.Admits others → ∃ own, s.Flows T kept own

theorem Orderly.tidy (h : s.Orderly others kept own) : s.Tidy others kept := fun T hT => ⟨own, h T hT⟩

theorem Tidy.run (h : s.Tidy others kept) (hrun : Run (Traffic kept) others s s') :
    s.world.Leads others kept s'.world ∧ s'.Tidy others kept := by
  refine ⟨fun T hT => ?_, fun T hT => ?_⟩
  · obtain ⟨own, h⟩ := h T hT
    exact (h.run hT hrun).1
  · obtain ⟨own, h⟩ := h T hT
    exact ⟨own, (h.run hT hrun).2⟩

/-- Wherever work has come that began with something in hand, everything is in its place. -/
theorem Orderly.plays_tidy {x : Routine (World D) α} {r : Option α} (h : s.Orderly others kept own)
    (hx : ∀ (T : Terms D) rest, s.world.Circulates T kept (own + rest) → ∃ Q, Carries T kept x s.world rest Q)
    (hplays : x.Plays (Traffic kept) others s r s') :
    s.world.Leads others kept s'.world ∧ s'.Tidy others kept := by
  have hend : ∀ T : Terms D, T.Admits others →
      s.world.Ensues T kept s'.world ∧ ∃ own, s'.Flows T kept own := fun T hT => by
    obtain ⟨hlater, own, hs', -⟩ := (h T hT).plays (Q := fun _ _ _ => True) hT (fun rest hw => by
      obtain ⟨Q, hQ⟩ := hx T rest hw
      exact fun now => (hQ now).imp fun _ _ _ _ => trivial) hplays
    exact ⟨hlater, own, hs'⟩
  exact ⟨fun T hT => (hend T hT).1, fun T hT => (hend T hT).2⟩

/-- What is done to the world at once changes what somebody has in hand. -/
theorem Orderly.change {w : World D} {own' : Multiset Freight} (h : s.Orderly others kept own)
    (hw : ∀ (T : Terms D) rest, s.world.Circulates T kept (own + rest) →
      s.world.Ensues T kept w ∧ w.Circulates T kept (own' + rest)) :
    s.world.Leads others kept w ∧ Orderly others kept { s with world := w } own' := by
  have hend : ∀ T : Terms D, T.Admits others → s.world.Ensues T kept w ∧ Flows T kept { s with world := w } own' :=
    fun T hT => by
      obtain ⟨rest, hrest⟩ := (h T hT).circulates
      have hlater := (hw T rest hrest).1
      exact ⟨hlater, (h T hT).change hlater fun rest hrest => (hw T rest hrest).2⟩
  exact ⟨fun T hT => (hend T hT).1, fun T hT => (hend T hT).2⟩

section Others

variable (hothers : ∀ w v, others w v → w.Elsewise v)
include hothers

theorem Tidy.circulates (h : s.Tidy others kept) : ∃ rest, s.world.Circulates (.blank D) kept rest := by
  obtain ⟨own, h⟩ := h (.blank D) (.blank hothers)
  obtain ⟨rest, hw⟩ := h.circulates
  exact ⟨own + rest, hw⟩

theorem Orderly.circulates (h : s.Orderly others kept own) :
    ∃ rest, s.world.Circulates (.blank D) kept (own + rest) :=
  (h (.blank D) (.blank hothers)).circulates

/-- Work that takes what it needs from what somebody has in hand leaves him the rest and what it gives. -/
theorem Orderly.plays {x : Routine (World D) α} {a : α} {give : α → Multiset Freight} {Q : α → World D → Prop}
    (h : s.Orderly others kept (own + left))
    (hx : ∀ (T : Terms D) rest, s.world.Circulates T kept (own + (left + rest)) →
      Carries T kept x s.world (left + rest) fun a own v => own = give a ∧ Q a v)
    (hplays : x.Plays (Traffic kept) others s (some a) s') :
    s.world.Leads others kept s'.world ∧ s'.Orderly others kept (give a + left) ∧ Q a s'.world := by
  have hend : ∀ T : Terms D, T.Admits others →
      s.world.Ensues T kept s'.world ∧ s'.Flows T kept (give a + left) ∧ Q a s'.world := fun T hT => by
    obtain ⟨hlater, _, hs', rfl, hq⟩ := (h T hT).plays_beside hT (hx T) hplays
    exact ⟨hlater, hs', hq⟩
  exact ⟨fun T hT => (hend T hT).1, fun T hT => (hend T hT).2.1, (hend (.blank D) (.blank hothers)).2.2⟩

/-- Work that needs nothing leaves to somebody what he has in hand. -/
theorem Orderly.plays_alone {x : Routine (World D) α} {a : α} {give : α → Multiset Freight} {Q : α → World D → Prop}
    (h : s.Orderly others kept left) (hx : ∀ (T : Terms D) rest, s.world.Circulates T kept rest →
      Carries T kept x s.world rest fun a own v => own = give a ∧ Q a v)
    (hplays : x.Plays (Traffic kept) others s (some a) s') :
    s.world.Leads others kept s'.world ∧ s'.Orderly others kept (give a + left) ∧ Q a s'.world := by
  have h : s.Orderly others kept (0 + left) := by rwa [zero_add]
  exact h.plays hothers (fun T rest hw => hx T (left + rest) (by rwa [zero_add] at hw)) hplays

/-- Work may take all that somebody has in hand, and leaves him what it gives. -/
theorem Orderly.plays_with {x : Routine (World D) α} {a : α} {give : α → Multiset Freight} {Q : α → World D → Prop}
    (h : s.Orderly others kept own) (hx : ∀ (T : Terms D) rest, s.world.Circulates T kept (own + rest) →
      Carries T kept x s.world rest fun a own v => own = give a ∧ Q a v)
    (hplays : x.Plays (Traffic kept) others s (some a) s') :
    s.world.Leads others kept s'.world ∧ s'.Orderly others kept (give a) ∧ Q a s'.world := by
  have h : s.Orderly others kept (own + 0) := by rwa [add_zero]
  have hend := h.plays hothers (fun T rest hw => by rw [zero_add] at hw ⊢; exact hx T rest hw) hplays
  rwa [add_zero] at hend

/-- What was told to close is closed, if the driver does what it is told. -/
theorem Tidy.ended (h : s.Tidy others kept) (hc : c ∈ s.world.hungUp) : s.world.Ended others c := by
  refine ⟨hc, fun _ hlater => ?_⟩
  obtain ⟨own, h⟩ := h (.ofDependable D) ⟨hothers, hlater⟩
  obtain ⟨rest, hw⟩ := h.circulates
  exact (hw.ended c hc).resolve_left id

theorem Orderly.ended (h : s.Orderly others kept own) (hc : c ∈ s.world.hungUp) : s.world.Ended others c :=
  h.tidy.ended hothers hc

end Others

end Schedule

/-! ## Where nothing opens a closed connection again -/

namespace Yard

variable [Backend D] [Backend.Final D]

theorem elsewise_of_meanwhile (w v : World D) (h : Meanwhile w v) : w.Elsewise v := by
  obtain ⟨backend, hosts, -, rfl⟩ := h
  exact ⟨backend, hosts, [], List.forall_mem_nil _, rfl⟩

theorem later_of_meanwhile (w v : World D) (h : Meanwhile w v) :
    Backend.Later Backend.Final.has w.backend v.backend := by
  obtain ⟨backend, hosts, hlater, rfl⟩ := h
  exact hlater

end Yard

end ReplicaRouter
