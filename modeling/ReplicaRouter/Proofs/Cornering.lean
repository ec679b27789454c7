import ReplicaRouter.Proofs.Searching
/-
When a switch to a reader comes to nothing although there is a reader. With several hosts every reader is tried before
an error is given. Where there is one host only, that host is taken to be the writer: it is not asked for a connection
if it is a reader.
Main statement: `Tour.readable_unless_cornered`.
-/
namespace ReplicaRouter

variable {D : Type} {others : World D → World D → Prop}

open Splitter

namespace Stand

variable [Backend D] {s u s' : Stand D} {r : Except RouteError Unit}

/-- There is only one host, no current link is usable, and no open link is kept for writing. -/
def Cornered (s : Stand D) : Prop :=
  Topology.isSingle s.world.hosts.topology = true ∧ s.usable = none ∧ openSlot s.world s.splitter.writer = none

/-- On the way to another stand every reader that there was had been asked for a connection, in vain. -/
def Shunned (others : World D → World D → Prop) (s : Stand D) (r : Except RouteError Unit) (s' : Stand D) : Prop :=
  ∃ u tried rest p, s.Remembers u ∧ u.Searches others (tried ++ rest) r s' ∧
    u.toPlace.Tries others u.splitter.props tried p ∧ tried.Perm (Topology.readers s.world.hosts.topology)

theorem Noted.cornered_iff (h : s.Noted u) : u.Cornered ↔ s.Cornered := by
  obtain ⟨⟨v, t, w⟩, x⟩ := u
  obtain ⟨rfl, rfl, es, -, rfl⟩ := h
  exact Iff.rfl

/-- A usable current link leads to a reader or to the writer, so with one host only it does for a reader. -/
theorem usable_eq_none_of_stuck (single : Topology.isSingle s.world.hosts.topology = true) (stuck : s.Stuck true) :
    s.usable = none := by
  refine Option.eq_none_iff_forall_ne_some.2 fun l hl => ?_
  have hserves := any_usable_serves.2 stuck
  rw [hl, Option.any_some, serves, if_pos rfl, single, Bool.true_and, Bool.or_eq_false_iff] at hserves
  obtain ⟨hreader, hwriter⟩ := hserves
  obtain ⟨hreads, hrole⟩ := Bool.or_eq_false_iff.1 hreader
  rw [Host.isReader_eq, Bool.not_eq_false'] at hrole
  rw [isOnWriter, Splitter.isOnWriter, hreads, hrole] at hwriter
  simp at hwriter

/-- A reader that is the only host leaves no writer. -/
theorem writer?_eq_none_of_single {hosts : Topology} (single : Topology.isSingle hosts = true)
    (readers : Topology.readers hosts ≠ []) : Topology.writer? hosts = none := by
  obtain ⟨host, rfl⟩ := List.length_eq_one_iff.1 (eq_of_beq single)
  have hreader : host.isReader = true := by
    by_contra hn
    exact readers (List.filter_cons_of_neg hn)
  rw [Host.isReader_eq, Bool.not_eq_true'] at hreader
  simp [Topology.writer?, hreader]

/-- With one host only, changing over succeeds just if an open link is kept for writing. -/
theorem Settles.of_usable_eq_none (h : s.Settles others r s') (husable : s.usable = none)
    (absent : Topology.writer? s.world.hosts.topology = none) :
    (openSlot s.world s.splitter.writer = none →
      r = .error (.connectionUnavailable "no writer host in topology")) ∧
      (openSlot s.world s.splitter.writer ≠ none → r = .ok ()) := by
  cases h with
  | fetches fetches =>
    cases fetches with
    | kept slot => exact ⟨fun hnone => (nomatch hnone.symm.trans slot), fun _ => rfl⟩
    | current _ usable => rw [husable] at usable; cases usable
    | dialed _ _ first => rw [absent] at first; cases first
  | fails fetches =>
    cases fetches with
    | missing shut => exact ⟨fun _ => rfl, fun hn => absurd shut hn⟩
    | refused _ _ first => rw [absent] at first; cases first

/-- A search that fails has tried every reader. -/
theorem Searches.shunned {u : Stand D} {attempts : List Host} {e : RouteError} (hu : s.Remembers u)
    (h : u.Searches others attempts (.error e) s') : s.Shunned others (.error e) s' := by
  have hhosts : u.world.hosts = s.world.hosts := hu.books.hosts
  cases h with
  | @missing _ p _ shut all tries shut' absent unasked stays =>
    refine ⟨u, attempts, [], p, hu, ?_, tries, by rw [← hhosts]; exact all⟩
    rw [List.append_nil]
    exact .missing shut all tries shut' absent unasked stays
  | @refused tried host e p q _ shut all tries shut' first attempt unasked stays =>
    exact ⟨u, tried, [host], p, hu, .refused shut all tries shut' first attempt unasked stays, tries,
      by rw [← hhosts]; exact all⟩

end Stand

variable [Backend D] [Backend.Lasting D] [Lasting others]

theorem Stand.reads_unless_cornered {s s' : Stand D} {r : Except RouteError Unit} (hs : s.Known)
    (ho : s.seats.Ordered) (free : s.service.inTransaction = false)
    (automatic : s.splitter.selector.isAutomatic = true) (readers : Topology.readers s.world.hosts.topology ≠ [])
    (h : Split.Ends others (Split.switchTo true) s r s') :
    (s.Cornered → r = .error (.connectionUnavailable "no writer host in topology")) ∧
      (¬ s.Cornered → r = .ok () ∨ s.Shunned others r s') := by
  have hends := h
  obtain ⟨s₁, v, hn, hturn, -⟩ := Split.ends_turn h
  obtain ⟨u, hrecalls, hturn⟩ := Split.turns_switchToReader hturn
  have hhosts : s₁.world.hosts = s.world.hosts := hn.world.books.hosts
  rw [← hn.cornered_iff]
  cases hturn with
  | stays usable => exact ⟨fun hc => (nomatch hc.2.1.symm.trans usable), fun _ => .inl rfl⟩
  | shares usable => exact ⟨fun hc => (nomatch hc.2.1.symm.trans usable), fun _ => .inl rfl⟩
  | refused _ busy => rw [hn.service, free] at busy; cases busy
  | settles stuck _ single settles =>
    -- no current link is usable, so nothing was remembered
    have husable := Stand.usable_eq_none_of_stuck single stuck
    obtain rfl := hrecalls.eq_of_mindful fun l hl => nomatch husable.symm.trans hl
    obtain ⟨hfails, hworks⟩ :=
      settles.of_usable_eq_none husable (Stand.writer?_eq_none_of_single single (hhosts ▸ readers))
    exact ⟨fun hc => hfails hc.2.2, fun hc => .inl (hworks fun hnone => hc ⟨single, husable, hnone⟩)⟩
  | leaves stuck _ many =>
    refine ⟨fun hc => (nomatch hc.1.symm.trans many), fun _ => ?_⟩
    rw [hhosts] at many
    obtain ⟨u, attempts, hu, hsearch⟩ := Stand.searches_of_stuck hs ho free many ((hn.remembered_eq.2 true).1 stuck)
      (Selector.inRange_of_isAutomatic automatic _) hends
    cases r with
    | ok _ => exact .inl rfl
    | error e => exact .inr (hsearch.shunned hu)

variable [Backend.Answering D] [Std.Refl others]

/-- Where there is a reader and no transaction is open, a switch to a reader comes to an end, and it goes through unless
every reader was asked in vain; but if the reader is the only host, and there is no usable current link and no open one
that is kept for writing, then it fails for want of a writer. -/
theorem Tour.readable_unless_cornered {s s' : Session D} {ds : List (Demand D)} (ho : s.Opens others)
    (h : Tour others s ds s') (free : s'.service.inTransaction = false)
    (automatic : s'.splitter.selector.isAutomatic = true) (readers : Topology.readers s'.world.hosts.topology ≠ []) :
    (∃ r t, Split.Ends others (Split.switchTo true) s'.toStand r t) ∧
      ∀ r t, Split.Ends others (Split.switchTo true) s'.toStand r t →
        (s'.Cornered → r = .error (.connectionUnavailable "no writer host in topology")) ∧
        (¬ s'.Cornered → r = .ok () ∨ s'.Shunned others r t) :=
  ⟨Split.prompt_switchTo true s'.toStand, fun _ _ ht =>
    Stand.reads_unless_cornered (h.known ho) (h.ordered ho) free automatic readers ht⟩

namespace Stage

/-- The connection to the writer is broken, and the reader is the only host that is left. -/
def cornered : Session Sim.Cluster :=
  session.later 0 { session.world with
    backend := session.world.backend.modifyConn 0 fun c => { c with closed := true }
    hosts := { topology := [reader] } }

theorem tour_cornered : Tour World.Lasts session [] cornered :=
  .aside .start ⟨.of_eq rfl rfl, Sim.Cluster.later_modifyConn 0 _ fun _ => rfl⟩ (Nat.le_refl _)

theorem cornered_cornered : cornered.Cornered := ⟨rfl, by decide +kernel, rfl⟩

/-- A reader is asked for all the same. -/
def cornering : Except RouteError Unit × Stand Sim.Cluster :=
  ((Split.switchTo true).end? cornered.toStand).get (by decide +kernel)

/-- The reader itself could be connected. -/
def connecting : Except RouteError Link × Stand Sim.Cluster :=
  ((Split.act (Service.connect reader [])).end? cornered.toStand).get (by decide +kernel)

end Stage

theorem Tour.readable_unless_cornered_of_stage :
    ∃ r t, Split.Ends World.Lasts (Split.switchTo true) Stage.cornered.toStand r t ∧
      r = .error (.connectionUnavailable "no writer host in topology") := by
  obtain ⟨⟨r, t, hends⟩, hall⟩ :=
    readable_unless_cornered Stage.lasts_session Stage.tour_cornered (by decide +kernel) rfl (by decide +kernel)
  exact ⟨r, t, hends, (hall r t hends).1 Stage.cornered_cornered⟩

/-- A switch to a reader can fail although there is a reader that can be connected and that was not asked. -/
theorem Tour.cornered_on_stage :
    ¬ ∀ (s s' : Session Sim.Cluster) (ds : List (Demand Sim.Cluster)), s.Opens World.Lasts →
      Tour World.Lasts s ds s' → s'.service.inTransaction = false → s'.splitter.selector.isAutomatic = true →
      (∃ host ∈ Topology.readers s'.world.hosts.topology, ∃ l q,
        Act.Ends World.Lasts (Service.connect host s'.splitter.props) s'.toPlace (.ok l) q) →
      ∀ r t, Split.Ends World.Lasts (Split.switchTo true) s'.toStand r t →
        r = .ok () ∨ s'.toStand.Shunned World.Lasts r t := by
  intro hclaim
  have hconnecting : (Split.act (Service.connect Stage.reader [])).end? Stage.cornered.toStand =
      some Stage.connecting := (Option.some_get _).symm
  have hconnect : Split.Ends World.Lasts (Split.act (Service.connect Stage.reader [])) Stage.cornered.toStand
      Stage.connecting.1 Stage.connecting.2 := Split.ends_of_end? hconnecting
  have haccepts : Stage.connecting.1 = .ok (.direct 1) := by rfl
  rw [haccepts] at hconnect
  obtain ⟨hconnect, -⟩ := Split.ends_act.1 hconnect
  have hcornering : (Split.switchTo true).end? Stage.cornered.toStand = some Stage.cornering :=
    (Option.some_get _).symm
  have hends : Split.Ends World.Lasts (Split.switchTo true) Stage.cornered.toStand Stage.cornering.1
      Stage.cornering.2 := Split.ends_of_end? hcornering
  rcases hclaim _ _ _ Stage.lasts_session Stage.tour_cornered (by decide +kernel) rfl
    ⟨Stage.reader, by decide +kernel, _, _, hconnect⟩ _ _ hends with hok | ⟨u, tried, rest, p, hu, hsearch, -, hall⟩
  · have hfails : Stage.cornering.1.isOk = false := by decide +kernel
    rw [hok] at hfails
    cases hfails
  · -- no connection was asked for
    have hasked := hsearch.asked_eq (by rw [hu.service]; rfl)
    have hlength : Stage.cornering.2.world.asked.length = Stage.cornered.world.asked.length := by decide +kernel
    rw [hasked, hu.books.unasked, List.length_append, List.length_reverse, List.length_append,
      hall.length_eq] at hlength
    have hone : (Topology.readers Stage.cornered.world.hosts.topology).length = 1 := by decide +kernel
    omega

end ReplicaRouter
