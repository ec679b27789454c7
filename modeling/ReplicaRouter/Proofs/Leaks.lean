import ReplicaRouter.Proofs.Reach
import ReplicaRouter.Proofs.Relinking
/-
What becomes of the connections that a logical connection opens. Each one that is open has a seat, unless a
call dropped it: asked for read-only mode while there was only one host, it put the link to the writer in the
place of another open one that was kept for reading, and did not close it.
Main statement: `Run.leaked_iff`.
-/
namespace ReplicaRouter

variable {D : Type}

open Splitter
open Backend.Lasting (has)

/-! ## Links left behind -/

namespace Seats

/-- Where a link was left behind nothing is kept. -/
def Bare (p : Seats) : Prop := ∀ l, p.stale = some l → p.writer = none ∧ p.reader = none

theorem bare_of_stale_eq_none {p : Seats} (h : p.stale = none) : p.Bare := by
  intro l hl
  rw [h] at hl
  cases hl

/-- A link that was left behind is current. -/
theorem Tidy.seated {p : Seats} {l : Link} (h : p.Tidy) (hl : p.Holds l) : p.Seated l :=
  hl.elim id fun hst => .inl (h l hst).1

theorem Tidy.stale_or_lost {p : Seats} (h : p.Tidy) : p.stale = none ∨ p.IsLost := by
  cases hst : p.stale with
  | none => exact .inl rfl
  | some l => exact .inr (h.isLost hst)

end Seats

namespace Stand

variable {s s' : Stand D} {readOnly : Bool} {r : Except RouteError Unit} {op : Operation}

theorem Turns.bare (h : s.Turns readOnly r s') (hs : s.Sound) (hb : s.seats.Bare) (fresh : s'.world.opened.Nodup) :
    s'.seats.Bare := by
  cases r with
  | ok _ => exact Seats.bare_of_stale_eq_none (h.releases hs fresh).1
  | error e =>
    intro l hl
    rw [h.stale_eq_of_error] at hl
    rw [h.seats_eq_of_stale hs hl]
    exact hb l hl

theorem Refuses.bare {e : RouteError} (h : s.Refuses op e s') (hs : s.Sound) (hb : s.seats.Bare)
    (fresh : s'.world.opened.Nodup) : s'.seats.Bare := by
  cases h with
  | mode turns => exact turns.bare hs hb fresh
  | plain _ recovers =>
    cases recovers with
    | turns _ turns => exact turns.bare hs hb fresh

end Stand

/-! ## On the way through read/write splitting -/

/-- The connection was kept for reading while there was only one host, and read-only mode is asked for. -/
def Split.Exposes (s : Stand D) (op : Operation) (c : ConnId) : Prop :=
  op = .setReadOnly true ∧ Topology.isSingle s.world.hosts.topology = true ∧
    holds s.splitter.reader (.direct c) = true

namespace Stand

variable {others : World D → World D → Prop} [Backend D] [Backend.Obedient D] [Lasting others] {s s' : Stand D}
  {op : Operation} {settled : Prop}

/-- When a failover is recovered from nothing is kept, so nothing is lost. -/
theorem Mends.covers {r : Except RouteError Unit} (h : s.Mends others r s')
    (hp : s.service.providers.pooled = none) (ho : s.seats.Ordered) (hb : s.seats.Bare) :
    s.Covers (fun _ => False) s' := by
  cases h with
  | sound => exact .refl _
  | switches lost noted switches =>
    obtain ⟨l, -, hst⟩ := lost
    have hc := Split.covers_switchTo (by rw [noted.service]; exact hp) (by rw [noted.seats_eq]; exact ho) switches
    refine (noted.covers.andThen hc).mono fun c _ _ _ ⟨_, _, hr⟩ => ?_
    rw [noted.splitter, show s.splitter.reader = none from (hb _ hst).2] at hr
    cases hr

theorem Weighs.covers (h : s.Weighs others op s') (hp : s.service.providers.pooled = none)
    (hr : s.splitter.readOnly = true → s.seats.OnReader) : s.Covers (fun _ => False) s' := by
  cases h with
  | stays => exact .refl _
  | rotates due rotates => exact (Split.rotates_rotateReader rotates).covers hp (hr due.mode)

/-- On the way in at most the connection that is exposed is lost. -/
theorem Enters.covers {hd : Split.OperationHandling D} (h : s.Enters others op hd s')
    (hp : s.service.providers.pooled = none) (hr : s.Routed settled) (hb : s.seats.Bare) :
    s.Covers (Split.Exposes s op) s' := by
  have hswitch : ∀ {readOnly r u}, Split.Ends others (Split.switchTo readOnly) s r u →
      s.Covers (Split.Exposes s (.setReadOnly readOnly)) u := fun switches =>
    (Split.covers_switchTo hp hr.ordered switches).mono fun _ _ _ _ ⟨hro, hl⟩ => ⟨by rw [hro], hl⟩
  cases h with
  | unswitched switches => exact hswitch switches
  | switched switches => exact (hswitch switches).thenStill (.still (.refl _) rfl)
  | closes => exact (Covers.refl _).mono fun _ _ _ _ hf => hf.elim
  | unmended _ mends => exact (mends.covers hp hr.ordered hb).mono fun _ _ _ _ hf => hf.elim
  | mended _ mends weighs =>
    have hmended := mends.covers hp hr.ordered hb
    have hprovides := mends.recovers.renews.providers
    have hweighed := weighs.covers (by rw [hprovides]; exact hp) (mends.recovers.ready hr).reads
    exact (hmended.andThen hweighed).mono fun _ _ _ _ hf => hf.elim

end Stand

/-! ## At the end of the chain -/

/-- Running an operation opens nothing, and a close closes the current connection. -/
theorem Service.closes_execute {others : World D → World D → Prop} [Backend D] [Backend.Obedient D]
    [Lasting others] {p q : Place D} {op : Operation} {ans : Answer}
    (h : Act.Ends others (Service.execute op) p ans q) :
    p.world.Steady q.world ∧ ∀ c, op = .close → p.service.link? = some (.direct c) →
      has c p.world.backend → q.world.isClosed c = true := by
  cases executes_execute h with
  | missing none =>
    refine ⟨.refl _, fun c _ hl => ?_⟩
    rw [none] at hl
    cases hl
  | @runs l _ _ _ link performs =>
    by_cases hop : op = .close
    · subst hop
      obtain ⟨x, _, _, hclose, h⟩ := Routine.ends_bind.1 performs
      obtain ⟨-, -, rfl⟩ := Routine.ends_pure.1 h
      obtain ⟨hsteady, hclosed⟩ := (Link.meets_close_closes l p.world).ends hclose
      exact ⟨hsteady, fun c _ hlink => hclosed c (Option.some.inj (link.symm.trans hlink))⟩
    · rw [perform_of_ne_close l hop] at performs
      exact ⟨(Link.steady_invoke l op).ends performs, fun c hc => absurd hc hop⟩

/-! ## Calls -/

section Legs

variable {others : World D → World D → Prop} [Backend D] [Backend.Obedient D] [Lasting others]

/-- What calls rest on: links are known, the current one fits the mode, nothing is kept while a link is left
behind, and there are no pools. -/
structure Stand.InOrder (s : Stand D) (settled : Prop) : Prop where
  sound : s.Sound
  routed : s.Routed settled
  bare : s.seats.Bare
  unpooled : s.service.providers.pooled = none

namespace Leg

/-- The call asks for read-only mode while there is only one host, and the connection that was kept for
reading has lost its seat when it is over. -/
structure Drops (k : Leg D) (c : ConnId) : Prop where
  op : k.op = .setReadOnly true
  single : Topology.isSingle k.before.world.hosts.topology = true
  kept : holds k.before.splitter.reader (.direct c) = true
  lost : ¬ k.after.seats.Seated (.direct c)

variable {k : Leg D} {s₁ s₂ : Stand D} {ans : Answer} {settled : Prop}

theorem Passes.covers (h : k.Passes others s₁ ans s₂) (hk : k.before.toStand.InOrder settled)
    (fresh : k.after.world.opened.Nodup) : k.before.toStand.Covers (fun c => k.Drops c) k.after.toStand := by
  have hin := (Split.enters_onExecute h.entered).covers hk.unpooled hk.routed hk.bare
  have hrun : s₁.Covers (fun _ => False) s₂ := .still (Service.closes_execute h.performed).1 h.seats_eq
  have hsound := h.prepares.sound hk.sound (h.grows_after.nodup fresh)
  have hout := (Split.returns_leaveFor h.left).2.covers (by rw [h.seats_eq]; exact hsound.tidy.stale_or_lost)
  refine ((hin.thenStill hrun).thenStill hout).mono fun c _ _ hn ⟨hop, hsingle, hr⟩ => ?_
  exact ⟨hop, hsingle, hr, fun hs => hn (.inl hs)⟩

theorem Taken.covers (h : k.Taken others) (hc : k.before.closed = false)
    (hk : k.before.toStand.InOrder settled) (fresh : k.after.world.opened.Nodup) :
    k.before.toStand.Covers (fun c => k.Drops c) k.after.toStand := by
  rcases h.course with ⟨closed, _⟩ | ⟨_, _, _, _, entered⟩ | ⟨passes⟩
  · rw [hc] at closed; cases closed
  · have hin := (Split.enters_onExecute entered).covers hk.unpooled hk.routed hk.bare
    refine hin.mono fun c _ _ hn ⟨hop, hsingle, hr⟩ => ?_
    exact ⟨hop, hsingle, hr, fun hs => hn (.inl hs)⟩
  · exact passes.covers hk fresh

theorem Taken.bare (h : k.Taken others) (hk : k.before.toStand.InOrder settled)
    (fresh : k.after.world.opened.Nodup) : k.after.seats.Bare := by
  rcases h.course with ⟨_, stays, _, _⟩ | ⟨_, refuses, _, _⟩ | @⟨s₁, s₂, ans, passes⟩
  · rw [show k.after.seats = k.before.seats from congrArg Stand.seats stays]
    exact hk.bare
  · exact refuses.bare hk.sound hk.bare fresh
  · by_cases hop : k.op = .close
    · rw [passes.closes hop]
      exact Seats.bare_of_stale_eq_none rfl
    · rcases passes.leaves hop with ⟨-, hseats⟩ | ⟨-, hseats, -⟩
      · rw [hseats]
        exact Seats.bare_of_stale_eq_none
          (passes.prepares.releases hop hk.sound (passes.grows_after.nodup fresh)).1
      · rw [hseats]
        exact fun _ _ => ⟨rfl, rfl⟩

/-- When a call has closed the logical connection, each connection that has a seat is closed. -/
theorem Taken.closed_of_holds (h : k.Taken others) (hb : k.before.closed = false) (hc : k.after.closed = true)
    (hk : k.before.toStand.InOrder settled) (ha : k.before.world.Accounted) {c : ConnId}
    (hs : k.after.seats.Holds (.direct c)) : k.after.world.isClosed c = true := by
  rcases h.course with ⟨closed, _⟩ | ⟨_, _, free', _⟩ | @⟨s₁, s₂, ans, passes⟩
  · rw [hb] at closed; cases closed
  · rw [hc] at free'; cases free'
  · have hop : k.op = .close := passes.op_eq_close (by rw [hc]; exact nofun)
    have hlater : Backend.Later has s₂.world.backend k.after.world.backend := by
      refine ((Split.returns_leaveFor passes.left).2.covers ?_).later
      rw [passes.seats_eq, passes.eq_of_close hop]
      exact hk.sound.tidy.stale_or_lost
    rw [passes.closes hop] at hs
    rcases hs with (⟨host, hcur⟩ | ⟨_, hkeep⟩ | ⟨_, hkeep⟩) | hst
    · have hlink : s₁.service.link? = some (.direct c) := congrArg (Option.map Prod.fst) hcur
      have hhas : has c s₁.world.backend := by
        rw [passes.eq_of_close hop] at hlink ⊢
        exact ha c (hk.sound.known _ (Stand.reaches_or_stale hlink))
      exact hlater.closed c ((Service.closes_execute passes.performed).2 c hop hlink hhas)
    · cases hkeep
    · cases hkeep
    · cases hst

end Leg

/-! ## Opening -/

/-- Asking a node for its name opens nothing. -/
theorem Service.steady_identify (l : Link) : Act.Keeps others World.Steady (Service.identify (D := D) l) := by
  refine Act.keeps_bind (Act.keeps_world Routine.keeps_get) fun w => ?_
  split
  · exact Act.keeps_pure _
  · refine Act.keeps_bind (Act.keeps_world (Link.steady_invoke l _)) fun ans => ?_
    split
    · exact Act.keeps_pure _
    · exact Act.keeps_bind (Act.keeps_world Routine.keeps_get) fun _ => Act.keeps_pure _

namespace Split

theorem steady_identifyInitial (req : ConnectRequest) (l : Link) :
    Act.Keeps others World.Steady (identifyInitial (D := D) req l) := by
  refine Act.keeps_bind (Service.steady_identify l) fun found => ?_
  split
  · refine Act.keeps_bind ?_ fun _ => Act.keeps_pure _
    exact Act.keeps_bind (Act.keeps_world (World.lenient_steady.keeps_log _ _)) fun _ => Act.keeps_modify _
  · exact Act.keeps_pure _
  · exact Act.keeps_pure _

theorem steady_leaveConnect (req : ConnectRequest) (ans : Except RouteError Link) :
    Split.Keeps others World.Steady (leaveConnect (D := D) req ans) := by
  cases ans with
  | error e => exact keeps_pure _
  | ok l =>
    refine keeps_bind keeps_service fun v => keeps_bind keeps_look fun w => ?_
    split
    · refine keeps_bind (keeps_act (steady_identifyInitial req l)) fun found => ?_
      cases found with
      | ok _ => exact keeps_pure _
      | error e =>
        have hsteady := (World.forbearing_steady others).keeps_closeQuietly (l := l) fun _ _ => trivial
        exact keeps_bind (keeps_world hsteady) fun _ => keeps_pure _
    · exact keeps_pure _

end Split

/-- Without pools the current connection is all that a new session has opened. -/
theorem Session.Opens.opened_eq {s : Session D} (ho : s.Opens others) (hp : s.service.providers.pooled = none) :
    ∃ c, s.world.opened = [c] ∧ s.seats.Seated (.direct c) ∧ s.world.Accounted := by
  obtain ⟨p, x, -, -, hj, -, -, -, -, h⟩ := ho.opened
  have hprov : p.service.providers = s.service.providers := by
    obtain ⟨-, l, host, hv, -⟩ := Connection.ends_open h
    rw [hv]
  obtain ⟨req, ans, l, v, t, u, hlast, hleave, ⟨-, hnt⟩, hset, -⟩ := Connection.ends_open_steps h
  obtain ⟨_, p1, h1, hlast⟩ := Act.ends_bind.1 hlast
  obtain ⟨rfl, rfl⟩ := Act.ends_get.1 h1
  obtain rfl : ans = .ok l := (Split.ends_leaveConnect hleave).2.2.2 l rfl
  rcases Providers.ends_connect_opened (by rw [hprov]; exact hp) (Act.ends_world.1 hlast).1 with
    ⟨e, he, -⟩ | ⟨c, hl, hopened, -, hhas⟩
  · cases he
  · obtain rfl : l = .direct c := Except.ok.inj hl
    -- nothing is opened after that
    have hs : v.world.Steady s.world := (Split.steady_leaveConnect req _ hleave).trans
      (hnt.steady.trans (World.lenient_steady.keeps_setCurrent _ _ hset))
    have hnone : p.world.opened = [] := by rw [World.opened, hj]; rfl
    have hs' : s.world.opened = [c] := by rw [hs.opened, hopened, hnone]
    refine ⟨c, hs', .inl ⟨_, congrArg Service.current (Service.ends_setCurrent hset).1⟩, fun d hd => ?_⟩
    rw [hs', List.mem_singleton] at hd
    rw [hd]
    exact hs.later.has c hhas

/-! ## Runs -/

namespace Run

variable {s s' : Session D} {ks : List (Leg D)} {c : ConnId}

theorem inOrder (ho : s.Opens others) (h : Run others s ks s') (hp : s.service.providers.pooled = none)
    (hc : s'.closed = false) (fresh : s'.world.opened.Nodup) : s'.toStand.InOrder (s.Settled others ks) := by
  refine ⟨h.sound ho.sound fresh, Run.routed_end ho h hc, ?_, (h.unpooled hc (ho.unpooled hp)).providers⟩
  induction h with
  | start =>
    obtain ⟨l, hseats, -⟩ := ho.fresh
    rw [hseats]
    exact Seats.bare_of_stale_eq_none rfl
  | aside _ change _ ih => exact ih hc ((Bystanders.aside change).upkeep.grows.nodup fresh)
  | call run taken ih =>
    have hb := taken.free hc
    have hf := taken.grows.nodup fresh
    exact taken.bare ⟨run.sound ho.sound hf, Run.routed_end ho run hb, ih hb hf,
      (run.unpooled hb (ho.unpooled hp)).providers⟩ fresh

/-- An open connection without a seat was dropped by a call. So was each that is open when the logical
connection is closed. -/
theorem dropped (ho : s.Opens others) (h : Run others s ks s') (hp : s.service.providers.pooled = none)
    (fresh : s'.world.opened.Nodup) : s'.world.Accounted ∧ ∀ c ∈ s'.world.opened, s'.world.isClosed c = false →
      s'.closed = true ∨ ¬ s'.seats.Holds (.direct c) → ∃ k ∈ ks, k.Drops c := by
  -- by induction on the run, with the books along: what is accounted for and has lost its seat was dropped
  induction h with
  | start =>
    obtain ⟨c, hopened, hseat, ha⟩ := ho.opened_eq hp
    obtain ⟨-, -, -, -, -, -, hc⟩ := ho.fresh
    refine ⟨ha, fun d hd _ hn => ?_⟩
    rw [hopened, List.mem_singleton] at hd
    subst hd
    rcases hn with hclosed | hn
    · rw [hc] at hclosed; cases hclosed
    · exact absurd (.inl hseat) hn
  | @aside ks u t w _ change _ ih =>
    have hs : u.world.Steady w := Frame.bears change
    obtain ⟨ha, hd⟩ := ih (by rw [← hs.opened]; exact fresh)
    refine ⟨hs.accounted ha, fun c hc hopen hn => hd c (hs.opened ▸ hc) ?_ hn⟩
    exact World.open_before hs.later hopen
  | @call ks k run taken ih =>
    have hf := taken.grows.nodup fresh
    obtain ⟨ha, hd⟩ := ih hf
    have hearlier : ∀ {c}, (∃ j ∈ ks, j.Drops c) → ∃ j ∈ ks ++ [k], j.Drops c := fun ⟨j, hj, h⟩ =>
      ⟨j, List.mem_append_left _ hj, h⟩
    cases hb : k.before.closed with
    | true =>
      rcases taken.course with ⟨_, stays, _, _⟩ | ⟨free, _⟩ | ⟨passes⟩
      · have hw : k.after.world = k.before.world := congrArg (fun s => s.world) stays
        rw [hw]
        exact ⟨ha, fun c hc hopen _ => hearlier (hd c hc hopen (.inl hb))⟩
      · rw [hb] at free; cases free
      · rw [passes.free] at hb; cases hb
    | false =>
      have hk := inOrder ho run hp hb hf
      have hcovers := taken.covers hb hk fresh
      refine ⟨hcovers.accounted ha, fun c hc hopen hn => ?_⟩
      -- a close of the connection closes what has a seat, so what is open has none
      have hn : ¬ k.after.seats.Holds (.direct c) := by
        refine hn.elim (fun hclosed hs => ?_) id
        rw [taken.closed_of_holds hb hclosed hk ha hs] at hopen
        cases hopen
      rcases hcovers.covers ha c hc hopen hn with hdrop | ⟨hc, hn⟩
      · exact ⟨k, List.mem_append_right _ List.mem_cons_self, hdrop⟩
      · exact hearlier (hd c hc (World.open_before hcovers.later hopen) (.inr hn))

/-- A connection that was dropped has no seat later on. -/
theorem not_seated (ho : s.Opens others) (h : Run others s ks s') (hc : s'.closed = false)
    (fresh : s'.world.opened.Nodup) {k : Leg D} (hk : k ∈ ks) (hd : k.Drops c) : ¬ s'.seats.Seated (.direct c) := by
  obtain ⟨as, bs, rfl⟩ := List.append_of_mem hk
  obtain ⟨hbefore, taken, hafter⟩ := h.split
  have hf := hafter.grows.nodup fresh
  have hsound := taken.sound (hbefore.sound ho.sound (taken.grows.nodup hf)) hf
  -- it was known before the call, so it is not new afterwards
  have hknown : k.after.world.Knows (.direct c) := by
    obtain ⟨host, hr⟩ := holds_iff.1 hd.kept
    exact ((hbefore.sound ho.sound (taken.grows.nodup hf)).known _ (.inl (.inr (.inr ⟨host, hr⟩)))).mono taken.grows
  have hrenews := hafter.renews hc
  have hback : k.after.seats.Reaches (.direct c) ∨ k.after.seats.stale = some (.direct c) → False := by
    rintro ((⟨host, hcur, -⟩ | hkeeps) | hst)
    · exact hd.lost (.inl ⟨host, hcur⟩)
    · exact hd.lost (.inr hkeeps)
    · exact hd.lost (.inl (hsound.tidy _ hst).1)
  have hnew : ¬ k.after.toStand.Obtains s'.toStand (.direct c) := fun hn => hn.newly.not_knows fresh hknown
  intro hs
  have hreach : s'.seats.Reaches (.direct c) ∨ s'.seats.stale = some (.direct c) := by
    rcases hs with ⟨host, hcur⟩ | hkeeps
    · exact Stand.reaches_or_stale (congrArg (Option.map Prod.fst) hcur)
    · exact .inl (.inr hkeeps)
  rcases hreach with hr | hst
  · rcases hrenews.reaches _ hr with hr | hn
    · exact hback (.inl hr)
    · exact hnew hn
  · rcases hrenews.stale _ hst with hst | hr | hn
    · exact hback (.inr hst)
    · exact hback (.inl hr)
    · exact hnew hn

/-- Of the connections that a logical connection without pools has opened, one that is open has leaked, that is,
it is neither current nor kept, or the logical connection is closed, just if a call dropped it: that asked for
read-only mode while there was only one host, and put another link in the place of the one that was kept for
reading. -/
theorem leaked_iff (ho : s.Opens others) (h : Run others s ks s') (hp : s.service.providers.pooled = none)
    (fresh : s'.world.opened.Nodup) (hc : c ∈ s'.world.opened) (hopen : s'.world.isClosed c = false) :
    s'.closed = true ∨ ¬ s'.seats.Seated (.direct c) ↔ ∃ k ∈ ks, k.Drops c := by
  constructor
  · intro hn
    have htidy := (h.sound ho.sound fresh).tidy
    exact (dropped ho h hp fresh).2 c hc hopen (hn.imp_right fun hn hs => hn (htidy.seated hs))
  · rintro ⟨k, hk, hd⟩
    cases hclosed : s'.closed with
    | true => exact .inl rfl
    | false => exact .inr (not_seated ho h hclosed fresh hk hd)

end Run

end Legs

/-! ## On the stage -/

namespace Stage

/-- Meanwhile the reader has left the topology. -/
def alone : Session Sim.Cluster :=
  returned.2.later returned.2.clock { returned.2.world with hosts := { topology := [writer] } }

/-- The application wants to read again, and closes the logical connection. -/
def collapsed : List (Leg Sim.Cluster) × Session Sim.Cluster :=
  (alone.calls? [.setReadOnly true, .close]).get (by decide +kernel)

theorem run_collapsed : Run World.Lasts session (returned.1 ++ collapsed.1) collapsed.2 := by
  have hreturned : Run World.Lasts session returned.1 returned.2 := Session.run_of_get _
  have halone : Run World.Lasts session returned.1 alone :=
    .aside hreturned ⟨World.Aside.of_eq rfl rfl, .refl _⟩ (Nat.le_refl _)
  exact halone.trans (Session.run_of_get _)

theorem lasts_session : session.Opens World.Lasts :=
  Session.opens_of_open? ⟨rfl, rfl, rfl⟩ ⟨rfl, rfl, rfl, rfl⟩ (Option.some_get _).symm

end Stage

theorem Run.leaked_iff_of_stage :
    Stage.collapsed.2.closed = true ∧ 1 ∈ Stage.collapsed.2.world.opened ∧
      Stage.collapsed.2.world.isClosed 1 = false ∧
      ∃ k ∈ Stage.returned.1 ++ Stage.collapsed.1, k.Drops 1 := by
  have hclosed : Stage.collapsed.2.closed = true := by decide +kernel
  have hmem : 1 ∈ Stage.collapsed.2.world.opened := by decide +kernel
  have hopen : Stage.collapsed.2.world.isClosed 1 = false := by decide +kernel
  exact ⟨hclosed, hmem, hopen, (Run.leaked_iff Stage.lasts_session Stage.run_collapsed rfl (by decide +kernel)
    hmem hopen).1 (.inl hclosed)⟩

/-- Not every connection is closed when the logical connection is, nor does each open one have a seat before. -/
theorem Run.leaked_on_stage :
    ¬ ∀ (s s' : Session Sim.Cluster) (ks : List (Leg Sim.Cluster)), s.Opens World.Lasts →
      Run World.Lasts s ks s' → s.service.providers.pooled = none → ∀ c ∈ s'.world.opened,
      s'.world.isClosed c = false → s'.closed = false ∧ s'.seats.Seated (.direct c) := by
  intro h
  have hclosed := (h _ _ _ Stage.lasts_session Stage.run_collapsed rfl 1 (by decide +kernel) (by decide +kernel)).1
  have hnot : Stage.collapsed.2.closed = true := by decide +kernel
  rw [hnot] at hclosed
  cases hclosed

end ReplicaRouter
