import ReplicaRouter.Proofs.Pinning
import ReplicaRouter.Proofs.Tracking
/-
Transactions that a switch leaves behind open. The logical connection keeps one transaction state for all
its links. It refuses to switch while that state has a transaction open, and so no switch leaves one behind
as long as that state is true to the session it runs on. It need not be: autocommit is set for one session
and then taken for the mode of the others.
Main statement: `Run.straddled_iff`.
-/
namespace ReplicaRouter

variable {D : Type} {others : World D → World D → Prop} [Bystanders others] [Backend D]

/-! ## Slips -/

namespace Leg

/-- The operation of a call succeeds over a connection and leaves a transaction open there that the logical
connection does not know of. -/
def Slips (others : World D → World D → Prop) (k : Leg D) (c : ConnId) : Prop :=
  k.Succeeds others c ∧ (k.after.world.transactionOf c).isOpen = true ∧ k.after.service.inTransaction = false

/-- The operation of a call succeeds over a connection, whose session was taken for one in the other
autocommit mode. -/
def Mistakes (others : World D → World D → Prop) (k : Leg D) (c : ConnId) : Prop :=
  ∃ s₁, k.SucceedsAt others c s₁ ∧
    (s₁.world.transactionOf c).autocommit ≠ s₁.service.transaction.autocommit

variable {k : Leg D} {s₁ : Stand D} {c : ConnId}

omit [Bystanders others] in
theorem SucceedsAt.runsOver (h : k.SucceedsAt others c s₁) : k.RunsOver others (.direct c) := by
  obtain ⟨reply, s₂, hp, hl⟩ := h
  exact ⟨s₁, _, s₂, hp, hl⟩

/-- The logical connection counts what succeeds. -/
theorem SucceedsAt.transaction_eq (h : k.SucceedsAt others c s₁) :
    k.after.service.transaction = s₁.service.transaction.after k.op := by
  obtain ⟨reply, s₂, hp, -⟩ := h
  exact hp.transaction_eq

/-- A transaction that slips away though the session was taken for what it is was open before, and unknown. -/
theorem Slips.mistakes_or_before (h : k.Slips others c) (hs : k.before.toStand.Sound)
    (fresh : k.after.world.opened.Nodup) (hopen : ¬ k.after.world.Shut (.direct c)) :
    k.Mistakes others c ∨ k.before.closed = false ∧ k.before.seats.Reaches (.direct c) ∧
      (k.before.world.transactionOf c).isOpen = true ∧ k.before.service.inTransaction = false := by
  obtain ⟨⟨s₁, hat⟩, ht, hfree⟩ := h
  obtain ⟨reply, s₂, hp, hl⟩ := id hat
  have hin := hp.prepares.upkeep
  have hfresh := hp.grows_after.nodup fresh
  have hknows : s₁.world.Knows (.direct c) :=
    (hp.prepares.sound hs hfresh).known _ (Stand.reaches_or_stale hl)
  by_cases hauto : (s₁.world.transactionOf c).autocommit = s₁.service.transaction.autocommit
  · -- taken for what it is, the session cannot have got the transaction with this operation
    rw [hat.transactionOf_eq hknows fresh hopen] at ht
    rw [Service.inTransaction, hat.transaction_eq] at hfree
    have hmet : (s₁.world.transactionOf c).isOpen = true ∧ ¬ s₁.service.transaction.isOpen = true := by
      refine Classical.not_imp.1 fun himp => ?_
      rw [TransactionState.isOpen_after_imp hauto himp ht] at hfree
      cases hfree
    obtain ⟨ht₁, hfree₁⟩ := hmet
    have hspares : k.before.world.Spares s₁.world c :=
      hin.spares hfresh fun hs => hopen (hs.mono hp.grows_after)
    obtain ⟨hkb, htb⟩ := hspares.open_before hknows ht₁
    rw [hp.prepares.transaction_eq] at hfree₁
    refine .inr ⟨hp.free, ?_, htb, Bool.eq_false_iff.2 hfree₁⟩
    have hop : k.op ≠ .close := fun hop => hopen (hp.shut_of_close hop hl hknows)
    rcases hp.prepares.renews.reaches _ (hp.reaches hop hs hfresh hl) with hr | hn
    · exact hr
    · exact absurd hkb (hn.newly.not_knows hfresh)
  · exact .inl ⟨s₁, hat, hauto⟩

end Leg

/-! ## Runs -/

namespace Run

variable {s u v : Session D} {ks : List (Leg D)} {c : ConnId}

/-- While nothing succeeds over the connection on which a transaction was opened, the transaction stays
open and the connection current, or a failover puts the connection out of reach. -/
theorem pinned_or_gone (h : Run others v ks u) (hv : v.toStand.Sound) (hc : u.closed = false)
    (fresh : u.world.opened.Nodup) (ht : v.service.inTransaction = true)
    (hl : v.service.link? = some (.direct c)) (hn : ∀ k ∈ ks, ¬ k.Succeeds others c) :
    (u.service.inTransaction = true ∧ u.service.link? = some (.direct c)) ∨ ¬ u.seats.Reaches (.direct c) := by
  have hknows := hv.known _ (Stand.reaches_or_stale hl)
  induction h with
  | start => exact .inl ⟨ht, hl⟩
  | aside _ change _ ih => exact ih hc ((Bystanders.aside change).upkeep.grows.nodup fresh) hn
  | @call ks k run taken ih =>
    have hlast := hn k (List.mem_append_right _ List.mem_cons_self)
    rcases ih (taken.free hc) (taken.grows.nodup fresh) fun j hj => hn j (List.mem_append_left _ hj) with
      ⟨htb, hlb⟩ | hgone
    · rcases taken.course with ⟨_, _, closed', _⟩ | ⟨_, refuses, _, _⟩ | @⟨s₁, s₂, ans, passes⟩
      · rw [closed'] at hc; cases hc
      · refine .inl ⟨?_, ?_⟩
        · rw [Service.inTransaction, refuses.transaction_eq]; exact htb
        · rw [Service.link?, refuses.current_eq htb]; exact hlb
      · have hl₁ : s₁.service.link? = some (.direct c) := by
          rw [Service.link?, passes.prepares.current_eq htb]; exact hlb
        -- what passes fails, with a failover or without
        cases ans with
        | ok reply => exact absurd ⟨s₁, reply, s₂, passes, hl₁⟩ hlast
        | error e =>
          rcases passes.leaves (passes.op_ne_close hc) with ⟨hcalm, -⟩ | ⟨-, hseats, -⟩
          · refine .inl ⟨?_, ?_⟩
            · have hcalm : ¬ e.isFailover = true := Bool.eq_false_iff.1 hcalm
              rw [Service.inTransaction, passes.transaction_eq, TransactionState.follow, if_neg hcalm,
                passes.prepares.transaction_eq]
              exact htb
            · rw [Service.link?, passes.current_eq]; exact hl₁
          · refine .inr ?_
            rw [hseats]
            exact Seats.not_reaches_of_left
    · refine .inr fun hr => ?_
      rcases (taken.renews hc).reaches _ hr with hb | hn
      · exact hgone hb
      · exact hn.newly.not_knows fresh (hknows.mono run.grows)

/-- A transaction that is open where the logical connection knows of none slipped away with the last
operation that succeeded there, or was open from the beginning. -/
theorem slips (ho : s.Opens others) (hp : s.service.providers.pooled = none) (h : Run others s ks u)
    (hc : u.closed = false) (fresh : u.world.opened.Nodup) (hopen : ¬ u.world.Shut (.direct c))
    (hr : u.seats.Reaches (.direct c)) (ht : (u.world.transactionOf c).isOpen = true)
    (hfree : u.service.inTransaction = false) :
    (∃ is j is', ks = is ++ j :: is' ∧ j.Slips others c ∧ ∀ i ∈ is', ¬ i.Succeeds others c) ∨
    (s.service.link? = some (.direct c) ∧ (s.world.transactionOf c).isOpen = true ∧
      ∀ k ∈ ks, ¬ k.Succeeds others c) := by
  have hknows : u.world.Knows (.direct c) := (h.sound ho.sound fresh).known _ (.inl hr)
  rcases h.last_success (ho.unpooled hp) hc fresh hopen hknows ht with
    ⟨is, j, is', rfl, hj, htj, hrest⟩ | ⟨hks, hts, hnone⟩
  · refine .inl ⟨is, j, is', rfl, ⟨hj, htj, ?_⟩, hrest⟩
    obtain ⟨hrun, htaken, hrun'⟩ := h.split
    have hfresh := hrun'.grows.nodup fresh
    have hsound := htaken.sound (hrun.sound ho.sound (htaken.grows.nodup hfresh)) hfresh
    obtain ⟨s₁, hat⟩ := hj
    refine Bool.eq_false_iff.2 fun htx => ?_
    rcases hrun'.pinned_or_gone hsound hc fresh htx hat.runsOver.link?_eq hrest with ⟨hbusy, -⟩ | hgone
    · rw [hfree] at hbusy; cases hbusy
    · exact hgone hr
  · refine .inr ⟨?_, hts, hnone⟩
    rcases (h.renews hc).reaches _ hr with hs | hnew
    · exact ho.link?_of_reaches (.inl hs)
    · exact absurd hks (hnew.newly.not_knows fresh)

/-- The session behind the current connection stays as it is while nothing succeeds over it. -/
theorem transactionOf_eq (h : Run others v ks u) (hv : v.toStand.Unpooled) (hs : v.toStand.Sound)
    (hl : v.service.link? = some (.direct c)) (hc : u.closed = false) (fresh : u.world.opened.Nodup)
    (hopen : ¬ u.world.Shut (.direct c)) (hn : ∀ k ∈ ks, ¬ k.Succeeds others c) :
    u.world.transactionOf c = v.world.transactionOf c :=
  (h.spares hv hc fresh hopen hn).kept (hs.known _ (Stand.reaches_or_stale hl))

/-- It slipped away after an operation met a session in the other autocommit mode than was taken for it, or
the transaction was open from the beginning. -/
theorem mistakes (ho : s.Opens others) (hp : s.service.providers.pooled = none) (h : Run others s ks u)
    (hc : u.closed = false) (fresh : u.world.opened.Nodup) (hopen : ¬ u.world.Shut (.direct c))
    (hr : u.seats.Reaches (.direct c)) (ht : (u.world.transactionOf c).isOpen = true)
    (hfree : u.service.inTransaction = false) :
    (∃ k ∈ ks, k.Mistakes others c) ∨
      s.service.link? = some (.direct c) ∧ (s.world.transactionOf c).isOpen = true := by
  -- each slip either is a mistake or meets a transaction that slipped away before
  induction hn : ks.length using Nat.strongRecOn generalizing ks u with
  | ind n ih =>
    rcases slips ho hp h hc fresh hopen hr ht hfree with ⟨is, j, is', rfl, hslip, -⟩ | ⟨hl, hs, -⟩
    · obtain ⟨hrun, htaken, hrest⟩ := h.split
      have hfresh := hrest.grows.nodup fresh
      have hopen : ¬ j.after.world.Shut (.direct c) := fun hs => hopen (hs.mono hrest.grows)
      have hsound := hrun.sound ho.sound (htaken.grows.nodup hfresh)
      rcases hslip.mistakes_or_before hsound hfresh hopen with hm | ⟨hcb, hrb, htb, hfreeb⟩
      · exact .inl ⟨j, List.mem_append_right _ List.mem_cons_self, hm⟩
      · have hlt : is.length < n := by
          rw [← hn, List.length_append, List.length_cons]
          omega
        have hopenb : ¬ j.before.world.Shut (.direct c) := fun hs => hopen (hs.mono htaken.grows)
        rcases ih is.length hlt hrun hcb (htaken.grows.nodup hfresh) hopenb hrb htb hfreeb rfl with
          ⟨i, hi, hm⟩ | hs
        · exact .inl ⟨i, List.mem_append_left _ hi, hm⟩
        · exact .inr hs
    · exact .inr ⟨hl, hs⟩

/-- When a switch leaves a transaction behind open. The current connection is replaced, though it is still
open and no failover left it behind. Its session has a transaction open just if one slipped away with the
last operation that succeeded there, or was open from the beginning. For one to slip away, an operation
must have met a session in the other autocommit mode than was taken for it. It is taken that nothing is
pooled, and that the driver opens no connection twice. -/
theorem straddled_iff {s' : Session D} {js : List (Leg D)} {k : Leg D} (ho : s.Opens others)
    (hp : s.service.providers.pooled = none) (h : Run others s (ks ++ k :: js) s') (fresh : s'.world.opened.Nodup)
    (hcur : k.before.service.link? = some (.direct c)) (hst : k.before.splitter.stale ≠ some (.direct c))
    (hne : k.after.service.link? ≠ some (.direct c)) (hopen : ¬ k.after.world.Shut (.direct c)) :
    ((k.after.world.transactionOf c).isOpen = true ↔
      (∃ is j is', ks = is ++ j :: is' ∧ j.Slips others c ∧ ∀ i ∈ is', ¬ i.Succeeds others c) ∨
      s.service.link? = some (.direct c) ∧ (s.world.transactionOf c).isOpen = true ∧
        ∀ j ∈ ks, ¬ j.Succeeds others c) ∧
    ((k.after.world.transactionOf c).isOpen = true → (∃ j ∈ ks, j.Mistakes others c) ∨
      s.service.link? = some (.direct c) ∧ (s.world.transactionOf c).isOpen = true) := by
  obtain ⟨hrun, htaken, hrest⟩ := h.split
  have hfresh := hrest.grows.nodup fresh
  have hfreshb := htaken.grows.nodup hfresh
  have hopenb : ¬ k.before.world.Shut (.direct c) := fun hs => hopen (hs.mono htaken.grows)
  have hc : k.before.closed = false := by
    refine Bool.eq_false_iff.2 fun hc => hne ?_
    rcases htaken.course with ⟨_, stays, _, _⟩ | ⟨free, _, _, _⟩ | ⟨passes⟩
    · rw [stays]; exact hcur
    · rw [free] at hc; cases hc
    · rw [passes.free] at hc; cases hc
  have hreach : k.before.seats.Reaches (.direct c) := (Stand.reaches_or_stale hcur).resolve_right hst
  have hknows : c ∈ k.before.world.opened := (hrun.sound ho.sound hfreshb).known _ (.inl hreach)
  have hnot : ¬ k.Succeeds others c := fun ⟨_, hat⟩ => hne hat.runsOver.link?_eq
  have hunpooled := hrun.unpooled hc (ho.unpooled hp)
  have hsame : k.after.world.transactionOf c = k.before.world.transactionOf c :=
    (htaken.spares hunpooled hfresh hopen hnot).kept hknows
  -- the call moved the current link, which it does not while a transaction is open
  have hfree : k.before.service.inTransaction = false := by
    refine Bool.eq_false_iff.2 fun ht => hne ?_
    rw [Service.link?, htaken.current_eq ht]
    exact hcur
  rw [hsame]
  refine ⟨⟨fun ht => slips ho hp hrun hc hfreshb hopenb hreach ht hfree, ?_⟩,
    fun ht => mistakes ho hp hrun hc hfreshb hopenb hreach ht hfree⟩
  rintro (⟨is, j, is', rfl, ⟨⟨s₁, hat⟩, htj, -⟩, hrest'⟩ | ⟨hls, hts, hnone⟩)
  · obtain ⟨hrunj, htakenj, hrunk⟩ := hrun.split
    have hrunj := Run.call hrunj htakenj
    have hsound := hrunj.sound ho.sound (hrunk.grows.nodup hfreshb)
    have hunpooled := hrunj.unpooled (hrunk.free hc) (ho.unpooled hp)
    rw [hrunk.transactionOf_eq hunpooled hsound hat.runsOver.link?_eq hc hfreshb hopenb hrest']
    exact htj
  · rw [hrun.transactionOf_eq (ho.unpooled hp) ho.sound hls hc hfreshb hopenb hnone]
    exact hts

end Run

/-! ## A transaction left behind on the stage -/

namespace Stage

/-- Autocommit is turned off while the writer is current and on while the reader is. So the writer's session
still has it off when a row is written. -/
def halfway : List (Leg Sim.Cluster) × Session Sim.Cluster :=
  (session.calls? [.setAutocommit false, .setReadOnly true, .setAutocommit true, .setReadOnly false,
    .update "insert into t values (1)"]).get (by decide +kernel)

/-- The application reads again, and the row is not committed. -/
def leaving : Leg Sim.Cluster := (halfway.2.call? (.setReadOnly true)).get (by decide +kernel)

theorem run_leaving : Run World.Aside session (halfway.1 ++ leaving :: []) leaving.after := by
  have hrun : Run World.Aside session halfway.1 halfway.2 := Session.run_of_get _
  have htaken : leaving.before = halfway.2 ∧ leaving.Taken World.Aside :=
    Session.taken_of_call? (Option.some_get _).symm
  rw [← htaken.1] at hrun
  exact .call hrun htaken.2

theorem not_shut_leaving : ¬ leaving.after.world.Shut (.direct 0) :=
  World.not_shut_of_closedConn? (by decide +kernel)

end Stage

theorem Run.straddled_iff_of_stage :
    (Stage.leaving.after.world.transactionOf 0).isOpen = true ∧
      ((∃ is j is', Stage.halfway.1 = is ++ j :: is' ∧ j.Slips World.Aside 0 ∧
          ∀ i ∈ is', ¬ i.Succeeds World.Aside 0) ∨
        Stage.session.service.link? = some (.direct 0) ∧ (Stage.session.world.transactionOf 0).isOpen = true ∧
          ∀ j ∈ Stage.halfway.1, ¬ j.Succeeds World.Aside 0) := by
  have ht : (Stage.leaving.after.world.transactionOf 0).isOpen = true := by decide +kernel
  exact ⟨ht, (Run.straddled_iff Stage.opens_session (by decide +kernel) Stage.run_leaving (by decide +kernel)
    (by decide +kernel) (by decide +kernel) (by decide +kernel) Stage.not_shut_leaving).1.1 ht⟩

/-- Not every switch away from an open connection leaves a session without an open transaction. -/
theorem Run.straddled_on_stage :
    ¬ ∀ (s s' : Session Sim.Cluster) (ks js : List (Leg Sim.Cluster)) (k : Leg Sim.Cluster) (c : ConnId),
      s.Opens World.Aside → s.service.providers.pooled = none → Run World.Aside s (ks ++ k :: js) s' →
      s'.world.opened.Nodup → k.op ≠ .close → k.before.service.link? = some (.direct c) →
      k.before.splitter.stale ≠ some (.direct c) → k.after.service.link? ≠ some (.direct c) →
      ¬ k.after.world.Shut (.direct c) → (k.after.world.transactionOf c).isOpen = false := by
  intro h
  have hfalse : (Stage.leaving.after.world.transactionOf 0).isOpen = false :=
    h _ _ _ _ _ 0 Stage.opens_session (by decide +kernel) Stage.run_leaving (by decide +kernel)
      (by decide +kernel) (by decide +kernel) (by decide +kernel) (by decide +kernel) Stage.not_shut_leaving
  have htrue : (Stage.leaving.after.world.transactionOf 0).isOpen = true := by decide +kernel
  rw [htrue] at hfalse
  cases hfalse

end ReplicaRouter
