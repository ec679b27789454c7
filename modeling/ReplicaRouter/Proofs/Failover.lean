import ReplicaRouter.Proofs.Reach
import ReplicaRouter.Proofs.Staging
/-
After a failover nothing of the old state stays in use: the kept links are shut, the transaction is
over, and the link that was current gets no operation any more. It waits to be replaced or closed.
Main statement: `Run.abandoned_by_failover`.
-/
namespace ReplicaRouter

variable {D : Type} {others : World D → World D → Prop} [Bystanders others] [Backend D]

/-! ## Legs -/

namespace Leg

variable {k : Leg D} {s₁ s₂ : Stand D} {ans : Answer} {e : RouteError} {l : Link}

/-- After a failover no transaction is open. -/
theorem Passes.inTransaction_eq_false (h : k.Passes others s₁ (.error e) s₂) (hf : e.isFailover = true) :
    k.after.service.inTransaction = false := by
  rw [Service.inTransaction, h.transaction_eq, TransactionState.follow, if_pos hf]
  rfl

/-- Before an operation other than a close runs, a link that was left behind is shut. -/
theorem Passes.shut_before (h : k.Passes others s₁ ans s₂) (hop : k.op ≠ .close) (hs : k.before.toStand.Sound)
    (fresh : s₁.world.opened.Nodup) (hl : k.before.seats.stale = some l ∨ k.before.world.Shut l) :
    s₁.world.Shut l := by
  rcases hl with hst | hshut
  · exact (h.prepares.releases hop hs fresh).2 l hst
  · exact hshut.mono h.prepares.upkeep.grows

end Leg

/-! ## Runs -/

namespace Run

variable {u s' : Session D} {js : List (Leg D)} {j : Leg D} {t₁ t₂ : Stand D} {r : Answer} {l l' : Link}

/-- Where nothing was within reach, an operation runs over a new link. -/
theorem newly_of_passes (h : Run others u js j.before) (hu : u.toStand.Sound) (hnone : ∀ l, ¬ u.seats.Reaches l)
    (hp : j.Passes others t₁ r t₂) (hop : j.op ≠ .close) (fresh : t₁.world.opened.Nodup)
    (hl : t₁.service.link? = some l) : u.world.Newly t₁.world l := by
  have hbefore := h.sound hu (hp.prepares.upkeep.grows.nodup fresh)
  have hrenews := (h.renews hp.free).trans hp.prepares.renews
  exact ((hrenews.reaches l (hp.reaches hop hbefore fresh hl)).resolve_left (hnone l)).newly

/-- A link that was left behind stays so until it is shut. -/
theorem stale_or_shut (h : Run others u js s') (hu : u.toStand.Sound) (hst : u.seats.stale = some l)
    (fresh : s'.world.opened.Nodup) (hc : s'.closed = false) : s'.seats.stale = some l ∨ s'.world.Shut l := by
  induction h with
  | start => exact .inl hst
  | aside _ change _ ih =>
    have hg := (Bystanders.aside change).upkeep.grows
    exact (ih (hg.nodup fresh) hc).imp_right fun hs => hs.mono hg
  | @call ks k run taken ih =>
    have hbefore := ih (taken.grows.nodup fresh) (taken.free hc)
    rcases taken.course with ⟨_, _, closed', _⟩ | ⟨_, refuses, _, _⟩ | ⟨passes⟩
    · rw [closed'] at hc; cases hc
    · rw [refuses.stale_eq]
      exact hbefore.imp_right fun hs => hs.mono taken.grows
    · have hop := passes.op_ne_close hc
      have hfresh := passes.grows_after.nodup fresh
      have hsound := run.sound hu (taken.grows.nodup fresh)
      exact .inr ((passes.shut_before hop hsound hfresh hbefore).mono passes.grows_after)

/-! ### Links out of reach -/

variable {v : Session D} {is : List (Leg D)}

theorem not_reaches (h : Run others u js s') (hnone : ∀ l, ¬ u.seats.Reaches l) (hk : u.world.Knows l)
    (fresh : s'.world.opened.Nodup) (hc : s'.closed = false) : ¬ s'.seats.Reaches l := by
  intro hr
  rcases (h.renews hc).reaches l hr with hu | hn
  · exact hnone l hu
  · exact hn.newly.not_knows fresh hk

theorem not_keeps (h : Run others u js s') (hnone : ∀ l, ¬ u.seats.Reaches l) (hk : u.world.Knows l)
    (fresh : s'.world.opened.Nodup) : ¬ s'.seats.Keeps l := by
  induction h with
  | start => exact fun hkept => hnone l (.inr hkept)
  | aside _ change _ ih => exact ih ((Bystanders.aside change).upkeep.grows.nodup fresh)
  | @call ks k run taken ih =>
    have hbefore := ih (taken.grows.nodup fresh)
    -- the call may close the connection, and then nothing is kept
    by_cases hc : k.after.closed = false
    · exact fun hkept => (Run.call run taken).not_reaches hnone hk fresh hc (.inr hkept)
    · rcases taken.course with ⟨_, stays, _, _⟩ | ⟨_, _, free', _⟩ | ⟨passes⟩
      · rw [stays]; exact hbefore
      · exact absurd free' hc
      · rw [passes.closes (passes.op_eq_close hc)]
        rintro (⟨_, hw⟩ | ⟨_, hr⟩)
        · cases hw
        · cases hr

/-- A link out of reach that is not current any more does not become current again. -/
theorem link?_ne (hv : Run others u js v) (h : Run others v is s') (hu : u.toStand.Sound)
    (hnone : ∀ l, ¬ u.seats.Reaches l) (hk : u.world.Knows l) (fresh : s'.world.opened.Nodup)
    (hne : v.service.link? ≠ some l) : s'.service.link? ≠ some l := by
  induction h with
  | start => exact hne
  | aside _ change _ ih => exact ih ((Bystanders.aside change).upkeep.grows.nodup fresh)
  | @call ks k run taken ih =>
    have hbefore := ih (taken.grows.nodup fresh)
    have hrun := Run.call run taken
    have hvs : v.toStand.Sound := hv.sound hu (hrun.grows.nodup fresh)
    by_cases hc : k.after.closed = false
    · -- a link that is current was within reach, or left behind, or is new
      intro hl
      have hvr := hv.not_reaches hnone hk (hrun.grows.nodup fresh) (hrun.free hc)
      rcases Stand.reaches_or_stale hl with hr | hst
      · exact (hv.trans hrun).not_reaches hnone hk fresh hc hr
      · rcases (hrun.renews hc).stale l hst with hst | hr | hn
        · obtain ⟨⟨host, hcur⟩, -⟩ := hvs.tidy l hst
          exact hne (congrArg (Option.map Prod.fst) hcur)
        · exact hvr hr
        · exact hn.newly.not_knows fresh (hk.mono hv.grows)
    · rcases taken.course with ⟨_, stays, _, _⟩ | ⟨_, _, free', _⟩ | ⟨passes⟩
      · rw [stays]; exact hbefore
      · exact absurd free' hc
      · -- a close does not move the current link
        have hop := passes.op_eq_close hc
        have hcur : k.after.service.current = k.before.service.current := by
          rw [← congrArg (fun s => s.service.current) (passes.eq_of_close hop)]
          exact congrArg Seats.current (passes.closes hop)
        rw [Service.link?, hcur]
        exact hbefore

end Run

/-! ## What a failover comes to -/

/-- Since a call the link is out of use. -/
structure Leg.Abandons (others : World D → World D → Prop) (k : Leg D) (l : Link) (js : List (Leg D))
    (s' : Session D) : Prop where
  /-- No operation but a close runs over it. -/
  unused : ∀ j ∈ js, j.op ≠ .close → ¬ j.RunsOver others l
  /-- It is not kept. -/
  notKept : ¬ s'.seats.Keeps l
  /-- Once it is not current any more it does not become current again. -/
  replaced : ∀ (is : List (Leg D)) (v : Session D) (is' : List (Leg D)), js = is ++ is' →
    Run others k.after is v → Run others v is' s' → v.service.link? ≠ some l → s'.service.link? ≠ some l
  /-- The first operation that passes shuts it: any other than a close before it runs. -/
  shut : ∀ j ∈ js, ∀ t₁ r t₂, j.Passes others t₁ r t₂ →
    (j.op ≠ .close → t₁.world.Shut l) ∧ j.after.world.Shut l
  /-- Any operation but a close is not sent and fails, or runs over a link that was provided since. -/
  renewed : ∀ j ∈ js, j.op ≠ .close →
    (∃ e, j.answer = .error e) ∧ j.before.world.Upkeep j.after.world ∨
      ∃ l', j.RunsOver others l' ∧ k.after.world.Newly j.after.world l'

section

variable {s s' : Session D} {ks js : List (Leg D)} {k j : Leg D} {l : Link}

/-- Where nothing was within reach, any operation but a close is not sent, or runs over a new link. -/
theorem Leg.Taken.renewed {u : Session D} (h : Run others u js j.before) (hj : j.Taken others)
    (hu : u.toStand.Sound) (hnone : ∀ l, ¬ u.seats.Reaches l) (hop : j.op ≠ .close)
    (fresh : j.after.world.opened.Nodup) :
    (∃ e, j.answer = .error e) ∧ j.before.world.Upkeep j.after.world ∨
      ∃ l, j.RunsOver others l ∧ u.world.Newly j.after.world l := by
  rcases hj.course with ⟨_, stays, _, answer⟩ | ⟨_, refuses, _, answer⟩ | @⟨t₁, t₂, r, passes⟩
  · have hw : j.after.world = j.before.world := congrArg (fun s => s.world) stays
    refine .inl ⟨?_, by rw [hw]; exact .refl _⟩
    rcases answer with answer | ⟨hclose, -⟩
    · exact ⟨_, answer⟩
    · exact absurd hclose hop
  · exact .inl ⟨⟨_, answer⟩, refuses.upkeep⟩
  · cases hl : t₁.service.link? with
    | some l =>
      have hnew := h.newly_of_passes hu hnone passes hop (passes.grows_after.nodup fresh) hl
      exact .inr ⟨l, ⟨t₁, r, t₂, passes, hl⟩, hnew.later passes.grows_after⟩
    | none =>
      -- without a current link there is nothing to send over
      obtain ⟨e, hr, hw⟩ := passes.performs.missing_of_none hl
      have hout : t₂.toPlace.world.Upkeep j.after.world := Split.leaveFor_upkeep passes.left
      rw [hw] at hout
      refine .inl ⟨⟨e, ?_⟩, passes.prepares.upkeep.trans hout⟩
      rw [passes.answer, hr, Operation.present_error]

/-- A link that was left behind when nothing else was within reach is out of use. -/
theorem Run.abandons (h : Run others k.after js s') (hu : k.after.toStand.Sound)
    (hnone : ∀ l, ¬ k.after.seats.Reaches l) (hst : k.after.seats.stale = some l)
    (fresh : s'.world.opened.Nodup) : k.Abandons others l js s' := by
  have hk : k.after.world.Knows l := hu.known l (.inr hst)
  refine ⟨fun j hj hop => ?_, h.not_keeps hnone hk fresh, ?_, fun j hj t₁ r t₂ hp => ?_, fun j hj hop => ?_⟩
  · -- what a later call runs over is new to the connection, and this link was known
    rintro ⟨t₁, r, t₂, hp, hl⟩
    obtain ⟨is, is', rfl⟩ := List.append_of_mem hj
    obtain ⟨hrun, -, hrest⟩ := h.split
    have hfresh := hp.grows_after.nodup (hrest.grows.nodup fresh)
    exact (hrun.newly_of_passes hu hnone hp hop hfresh hl).not_knows hfresh hk
  · rintro is v is' rfl hv hrest hne
    exact hv.link?_ne hrest hu hnone hk fresh hne
  · obtain ⟨is, is', rfl⟩ := List.append_of_mem hj
    obtain ⟨hrun, -, hrest⟩ := h.split
    have hfresh := hp.grows_after.nodup (hrest.grows.nodup fresh)
    have hbefore := hrun.sound hu (hp.prepares.upkeep.grows.nodup hfresh)
    have hleft := hrun.stale_or_shut hu hst (hp.prepares.upkeep.grows.nodup hfresh) hp.free
    by_cases hop : j.op = .close
    · -- a link that waits to be replaced is current, and a close closes it
      refine ⟨fun hne => absurd hop hne, ?_⟩
      have ht₁ := hp.eq_of_close hop
      rcases hleft with hstale | hshut
      · obtain ⟨⟨host, hcur⟩, -⟩ := hbefore.tidy l hstale
        have hknows := hbefore.known l (.inr hstale)
        subst ht₁
        exact hp.shut_of_close hop (congrArg (Option.map Prod.fst) hcur) hknows
      · exact hshut.mono hp.grows
    · have hshut := hp.shut_before hop hbefore hfresh hleft
      exact ⟨fun _ => hshut, hshut.mono hp.grows_after⟩
  · obtain ⟨is, is', rfl⟩ := List.append_of_mem hj
    obtain ⟨hrun, htaken, hrest⟩ := h.split
    exact htaken.renewed hrun hu hnone hop (hrest.grows.nodup fresh)

/-- An operation that runs into a failover is answered with it. The transaction is over then, no link is
kept, those that were are shut but for the current one, and that one is out of use from then on. It is
taken that the driver opens no connection twice. -/
theorem Run.abandoned_by_failover (ho : s.Opens others) (h : Run others s (ks ++ k :: js) s')
    (fresh : s'.world.opened.Nodup) (hop : k.op ≠ .close) {s₁ s₂ : Stand D} {e : RouteError}
    (hp : k.Passes others s₁ (.error e) s₂) (hf : e.isFailover = true) :
    k.answer = .error e ∧ k.after.service.inTransaction = false ∧
      k.after.splitter.writer = none ∧ k.after.splitter.reader = none ∧
      (∀ l, s₁.seats.Keeps l → s₁.service.link? ≠ some l → k.after.world.Shut l) ∧
      ∃ l, s₁.service.link? = some l ∧ k.after.service.link? = some l ∧ k.Abandons others l js s' := by
  obtain ⟨hrun, htaken, hrest⟩ := h.split
  have hfresh := hrest.grows.nodup fresh
  have hbefore := hrun.sound ho.sound (htaken.grows.nodup hfresh)
  have hs₁ := hp.prepares.sound hbefore (hp.grows_after.nodup hfresh)
  rcases hp.leaves hop with ⟨hcalm, -⟩ | ⟨-, hseats, hshut⟩
  · exact absurd (hcalm.symm.trans hf) Bool.false_ne_true
  -- the current link is left behind, and nothing else is kept
  obtain ⟨l, hl⟩ := hp.performs.link_of_isFailover hf
  have hnone : ∀ l, ¬ k.after.seats.Reaches l := by
    intro l
    rw [hseats]
    exact Seats.not_reaches_of_left
  have hst : k.after.seats.stale = some l := by
    rw [hseats]
    exact hl
  refine ⟨hp.answer.trans (k.op.present_error e), hp.inTransaction_eq_false hf, congrArg Seats.writer hseats,
    congrArg Seats.reader hseats, fun l hk hne => ?_, l, hl, ?_, ?_⟩
  · exact hshut l hk hne (hs₁.known l (.inl (.inr hk)))
  · have hcur : k.after.service.current = s₁.service.current := congrArg Seats.current hseats
    rw [Service.link?, hcur]
    exact hl
  · exact hrest.abandons (htaken.sound hbefore hfresh) hnone hst fresh

end

/-! ## A failover on the stage -/

namespace Stage

/-- The application reads. -/
def reading : List (Leg Sim.Cluster) × Session Sim.Cluster :=
  (session.calls? [.setReadOnly true]).get (by decide +kernel)

/-- The reader's connection is about to fail over. -/
def failing : Session Sim.Cluster :=
  reading.2.later reading.2.clock { reading.2.world with
    backend := reading.2.world.backend.modifyConn 1 fun c =>
      { c with failure := some (.failover "the node was replaced" false) } }

/-- The call that runs into it. -/
def failover : Leg Sim.Cluster := (failing.call? (.execute "select 1")).get (by decide +kernel)

/-- The application tries again, and closes. -/
def resumed : List (Leg Sim.Cluster) × Session Sim.Cluster :=
  (failover.after.calls? [.execute "select 1", .close]).get (by decide +kernel)

theorem taken_failover : failover.before = failing ∧ failover.Taken World.Aside :=
  Session.taken_of_call? (Option.some_get _).symm

theorem run_failover : Run World.Aside session (reading.1 ++ failover :: resumed.1) resumed.2 := by
  have hread : Run World.Aside session reading.1 reading.2 := Session.run_of_get _
  have hfail : Run World.Aside session reading.1 failing :=
    Run.aside hread (World.Aside.of_eq rfl rfl) (Nat.le_refl _)
  have hresume : Run World.Aside failover.after resumed.1 resumed.2 :=
    Session.run_of_get _
  obtain ⟨hbefore, htaken⟩ := taken_failover
  rw [← hbefore] at hfail
  rw [List.append_cons]
  exact (Run.call hfail htaken).trans hresume

end Stage

theorem Run.abandoned_by_failover_of_stage :
    Stage.resumed.2.world.opened.Nodup ∧ Stage.failover.op ≠ .close ∧
      ∃ s₁ e s₂, Stage.failover.Passes World.Aside s₁ (.error e) s₂ ∧ e.isFailover = true ∧
        Stage.failover.answer = .error e ∧ Stage.failover.after.service.inTransaction = false ∧
        ∃ l, s₁.service.link? = some l ∧ Stage.failover.Abandons World.Aside l Stage.resumed.1 Stage.resumed.2 := by
  have hfresh : Stage.resumed.2.world.opened.Nodup := by decide +kernel
  have hop : Stage.failover.op ≠ .close := by decide +kernel
  obtain ⟨s₁, ans, s₂, hp⟩ := Stage.taken_failover.2.passes_of_countP (by decide +kernel) (by decide +kernel)
  have hans : ans = .error (.failover "the node was replaced" false) := by
    have hpresent : Stage.failover.op.present ans = ans := rfl
    rw [← hpresent, ← hp.answer]
    decide +kernel
  subst hans
  obtain ⟨ha, htx, -, -, -, l, hl, -, hout⟩ :=
    Run.abandoned_by_failover Stage.opens_session Stage.run_failover hfresh hop hp rfl
  exact ⟨hfresh, hop, s₁, _, s₂, hp, rfl, ha, htx, l, hl, hout⟩

end ReplicaRouter
