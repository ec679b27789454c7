import ReplicaRouter.Proofs.Searching
/-
Load balancing over the readers. Before a statement one reader is picked; unless it is the one that is read from, one
attempt to connect it is made, and the statement runs there if it can be connected, and where the last one ran if not.
Main statements: `Stand.Rotates.spins` tells what one rotation does, and `Run.rotates_over_readers` that statements
which take turns run on different readers.
-/
namespace ReplicaRouter

variable {D : Type} {others : World D → World D → Prop}

open Splitter

/-! ## One rotation -/

namespace Stand

variable [Backend D]

/-- What load balancing does where there are several readers: the selector makes one pick. -/
inductive Spins (others : World D → World D → Prop) (s : Stand D) : Stand D → Prop
  /-- Nothing was picked. -/
  | unpicked (none : s.picked? = none) : Spins others s s.afterPick
  /-- The reader that was picked is the one that is read from. -/
  | kept {host : Host} (picked : s.picked? = some host) (same : s.ReadsFrom host) : Spins others s s.afterPick
  /-- The reader that was picked is connected, and read from. The link that was read from before is closed, unless it
  is also kept for writing. -/
  | moved {host : Host} {l : Link} {q : Place D} {s' : Stand D} (picked : s.picked? = some host)
      (other : ¬ s.ReadsFrom host)
      (attempt : Act.Ends others (Service.connect host s.splitter.props) s.toPlace (.ok l) q)
      (unasked : q.world.Unasked s'.world)
      (comes : s.ComesTo { s.afterPick.splitter with reader := some (l, host) } (l, host) s')
      (selector : s'.splitter.selector = s.afterPick.splitter.selector)
      (closes : ∀ old, s.splitter.reader = some old → holds s.splitter.writer old.1 = false → s'.world.Shut old.1)
      (spares : ∀ old, s.splitter.reader = some old → holds s.splitter.writer old.1 = true → q.world.Silent s'.world) :
      Spins others s s'
  /-- The reader that was picked cannot be connected, and nothing else is done. -/
  | missed {host : Host} {e : RouteError} {q : Place D} {s' : Stand D} (picked : s.picked? = some host)
      (other : ¬ s.ReadsFrom host)
      (attempt : Act.Ends others (Service.connect host s.splitter.props) s.toPlace (.error e) q)
      (service : s'.service = s.service) (splitter : s'.splitter = s.afterPick.splitter)
      (noted : q.world.Noted s'.world) : Spins others s s'

theorem Spins.selector_eq {s s' : Stand D} (h : s.Spins others s') :
    s'.splitter.selector = s.afterPick.splitter.selector := by
  cases h with
  | moved _ _ _ _ _ selector => exact selector
  | missed _ _ _ _ splitter => rw [splitter]
  | _ => rfl

omit [Backend D] in
theorem Lands.still {s u s' : Stand D} {l : HostLink} (h : s.Lands l u) (hv : s'.service = u.service)
    (hx : s'.splitter = u.splitter) : s.Lands l s' :=
  ⟨by rw [hv]; exact h.link, by rw [hv]; exact h.service, by rw [hx]; exact h.splitter⟩

variable [Bystanders others] {s s' : Stand D} {l : HostLink}

/-- Moving to another link makes it the one that is read from. The one before it is closed, unless it is also kept for
writing. -/
theorem Moves.lands (h : s.Moves others l s') :
    ({ s with splitter := { s.splitter with reader := some l } } : Stand D).Lands l s' ∧
      ∀ old, s.splitter.reader = some old →
        (holds s.splitter.writer old.1 = false → s.world.Knows old.1 → s'.world.Shut old.1) ∧
        (holds s.splitter.writer old.1 = true → s.world.Silent s'.world) := by
  cases h with
  | fills empty occupies =>
    refine ⟨occupies.lands, fun old hold => ?_⟩
    rw [empty] at hold; cases hold
  | closes earlier occupies free closes letsGo =>
    -- the link that made room is kept for nothing else, so it is closed
    obtain ⟨-, hv, hx⟩ := Split.ends_world.1 closes
    obtain ⟨-, hv', hx'⟩ := Split.ends_world.1 letsGo
    obtain ⟨_, -, hleads⟩ := occupies.leads
    refine ⟨occupies.lands.still (hv'.trans hv) (hx'.trans hx), fun old hold => ?_⟩
    obtain rfl := Option.some.inj (earlier.symm.trans hold)
    refine ⟨fun _ hk => ?_, fun hw => nomatch free.symm.trans hw⟩
    have hgone := Split.leads_world (Link.keeps_letGo _) letsGo
    exact ((Split.leads_closeQuietly closes).2 (hk.mono hleads.upkeep.grows)).mono hgone.upkeep.grows
  | spares earlier occupies kept letsGo =>
    -- the link that made room is that of the writer too, so nothing is closed
    obtain ⟨hletGo, hv, hx⟩ := Split.ends_world.1 letsGo
    refine ⟨occupies.lands.still hv hx, fun old hold => ?_⟩
    obtain rfl := Option.some.inj (earlier.symm.trans hold)
    have hsilent := (World.lenient_silent.keeps_letGo _).ends hletGo
    exact ⟨fun hw => (nomatch kept.symm.trans hw), fun _ => (occupies.keeps World.lenient_silent).trans hsilent⟩

/-- A rotation among several readers makes one pick and goes by it. -/
theorem Rotates.spins (h : s.Rotates others s') (hs : s.Known)
    (many : 2 ≤ (Topology.readers s.world.hosts.topology).length) : s.Spins others s' := by
  cases h with
  | few few => exact absurd many few
  | unpicked none => exact .unpicked none
  | kept picked same => exact .kept picked same
  | misses picked other attempt noted =>
    obtain ⟨hattempt, hx⟩ := Split.ends_act.1 attempt
    have hservice := noted.service.trans (Service.ends_connect hattempt).1
    exact .missed picked other hattempt hservice (noted.splitter.trans hx) noted.world
  | @moves host l u v _ picked other attempt noted moves =>
    obtain ⟨hattempt, hx⟩ := Split.ends_act.1 attempt
    obtain ⟨hconnect, hprovides, -⟩ := Service.ends_connect hattempt
    have hv : v.service = s.service := noted.service.trans hconnect
    have hx : v.splitter = s.afterPick.splitter := noted.splitter.trans hx
    have hgrows : s.world.Grows v.world := hprovides.upkeep.grows.trans noted.world.upkeep.grows
    obtain ⟨⟨hlink, hservice, hsplitter⟩, hprevious⟩ := (Split.moves_moveReader moves).lands
    have hunasked := World.forbearing_unasked.keeps_moveReader (l, host) moves
    rw [hx] at hsplitter hprevious
    refine .moved picked other hattempt (noted.world.unasked.trans hunasked) ⟨hlink, by rw [hservice, hv], ?_⟩
      (by rw [hsplitter]) (fun old hold hw => ?_)
      fun old hold hw => noted.world.silent.trans ((hprevious old hold).2 hw)
    · rw [hsplitter]
    · exact (hprevious old hold).1 hw ((hs old.1 (.inl (.inr (.inr ⟨old.2, hold⟩)))).mono hgrows)

end Stand

/-! ## Statements that take turns -/

namespace Leg

variable [Backend D] {k : Leg D} {s₁ s₂ : Stand D} {ans : Answer} {readers : List Host}

/-- The call is a statement that the load is balanced for over these readers: the connection is open and in read-only
mode, it is free of a transaction, and no failover has left its current link behind. -/
structure Balanced (readers : List Host) (k : Leg D) : Prop where
  statement : k.op.isExecute = true
  balances : k.before.splitter.loadBalance = true
  mode : k.before.splitter.readOnly = true
  free : k.before.service.inTransaction = false
  sound : ¬ k.before.seats.IsLost
  open_ : k.before.closed = false
  topology : Topology.readers k.before.world.hosts.topology = readers

/-- The operation of a call runs over the link that is read from, which is one to this host. -/
def RunsOn (others : World D → World D → Prop) (k : Leg D) (host : Host) : Prop :=
  ∃ s₁ ans s₂ l, k.Passes others s₁ ans s₂ ∧ s₁.service.link? = some l ∧ s₁.splitter.reader = some (l, host)

omit [Backend D] in
theorem Balanced.op_ne_close (hk : k.Balanced readers) : k.op ≠ .close := fun hop => by
  have hstatement := hk.statement
  rw [hop] at hstatement
  cases hstatement

omit [Backend D] in
theorem Balanced.isPlain (hk : k.Balanced readers) : k.op.isPlain = true := by
  have hstatement := hk.statement
  generalize k.op = op at hstatement
  cases op <;> first | rfl | cases hstatement

/-- Where nothing was left behind there is nothing to recover from, so that load balancing is all that happens. -/
theorem Balanced.entered (hk : k.Balanced readers) {hd : Split.OperationHandling D} {u : Stand D}
    (h : Split.Ends others (Split.plugin.onExecute k.op) k.before.toStand hd u) :
    hd = .forward k.op (Split.leaveFor k.op) ∧ Split.Ends others Split.rotateReader k.before.toStand () u := by
  have hplain := hk.isPlain
  have hsound : ∀ {r v}, k.before.toStand.Mends others r v → r = .ok () ∧ v = k.before.toStand := by
    rintro _ _ (sound | lost)
    · exact ⟨rfl, rfl⟩
    · exact absurd lost hk.sound
  have hdue : k.before.toStand.Balanceable k.op := ⟨hk.balances, hk.mode, hk.statement, hk.free⟩
  have henters := Split.enters_onExecute h
  generalize k.op = op at hplain hdue henters
  cases henters with
  | unswitched | switched | closes => cases hplain
  | unmended _ mends => cases (hsound mends).1
  | mended plain mends weighs =>
    obtain ⟨-, rfl⟩ := hsound mends
    cases weighs with
    | stays unfit => exact absurd hdue unfit
    | rotates _ rotates => exact ⟨rfl, rotates⟩

variable [Bystanders others]

/-- Such a statement is not refused. -/
theorem Balanced.passes (hk : k.Balanced readers) (h : k.Taken others) : ∃ s₁ ans s₂, k.Passes others s₁ ans s₂ := by
  rcases h.course with ⟨closed, -, -, -⟩ | ⟨-, -, -, -, entered⟩ | ⟨passes⟩
  · rw [hk.open_] at closed; cases closed
  · cases (hk.entered entered).1
  · exact ⟨_, _, _, passes⟩

theorem Balanced.spins (hk : k.Balanced readers) (many : 2 ≤ readers.length) (hs : k.before.toStand.Known)
    (h : k.Passes others s₁ ans s₂) : k.before.toStand.Spins others s₁ :=
  (Split.rotates_rotateReader (hk.entered h.entered).2).spins hs (by rw [hk.topology]; exact many)

end Leg

/-! ### What comes after a statement leaves the selector alone -/

namespace Stand

variable [Backend D] {s s' : Stand D}

theorem Discards.splitter_eq {current : Option Link} {closed : List Link} {links : List HostLink}
    (h : Discards others current closed links s s') : s'.splitter = s.splitter := by
  induction h with
  | done => rfl
  | spares _ letsGo _ ih => exact ih.trans (Split.ends_world.1 letsGo).2.2
  | closes noted closes letsGo _ ih =>
    exact ih.trans ((Split.ends_world.1 letsGo).2.2.trans ((Split.ends_world.1 closes).2.2.trans noted.splitter))

theorem Returns.selector_eq [Bystanders others] {op : Operation} {ans : Answer} (h : s.Returns others op ans s') :
    s'.splitter.selector = s.splitter.selector := by
  have hdiscard : ∀ {t t'}, Split.Ends others Split.discardKept t () t' → t'.splitter.selector = t.splitter.selector :=
    fun discards => by rw [(Split.discards_discardKept discards).splitter_eq]
  cases h with
  | passes => rfl
  | breaks _ _ noted discards leaves =>
    rw [(Split.ends_setStale leaves).2]
    exact (hdiscard discards).trans (by rw [noted.splitter])
  | @closes _ u v discards clears =>
    have hclear : v.splitter.selector = u.splitter.selector := by rw [(Split.ends_setStale clears).2]
    exact hclear.trans (hdiscard discards)

end Stand

/-! ### Turns -/

namespace Host

theorem sameNode_iff {a b : Host} : a.sameNode b = true ↔ a.name = b.name ∧ a.port = b.port := by
  simp [sameNode]

theorem sameNode_self (a : Host) : a.sameNode a = true := sameNode_iff.2 ⟨rfl, rfl⟩

/-- Hosts that are the same nodes as two different ones are different. -/
theorem not_sameNode_of {a b c d : Host} (ha : a.sameNode c = true) (hb : b.sameNode d = true)
    (h : c.sameNode d = false) : a.sameNode b = false := by
  refine Bool.eq_false_iff.2 fun hab => Bool.eq_false_iff.1 h ?_
  obtain ⟨ha, ha'⟩ := sameNode_iff.1 ha
  obtain ⟨hb, hb'⟩ := sameNode_iff.1 hb
  obtain ⟨hab, hab'⟩ := sameNode_iff.1 hab
  exact sameNode_iff.2 ⟨ha.symm.trans (hab.trans hb), ha'.symm.trans (hab'.trans hb')⟩

theorem sameNode_comm (a b : Host) : a.sameNode b = b.sameNode a := by
  rw [Bool.eq_iff_iff, sameNode_iff, sameNode_iff, eq_comm, eq_comm (a := a.port)]

end Host

/-- Who takes turns does not come back to the same place before all the others had theirs. -/
theorem turn_ne_turn {next i j n : Nat} (hij : i < j) (hj : j < i + n) : (next + i) % n ≠ (next + j) % n := by
  intro h
  have hdiv := Nat.sub_mod_eq_zero_of_mod_eq h.symm
  rw [show next + j - (next + i) = j - i by omega, Nat.mod_eq_of_lt (by omega)] at hdiv
  omega

namespace Leg

variable [Backend D] [Bystanders others] {k : Leg D} {s₁ s₂ : Stand D} {ans : Answer} {readers : List Host} {next : Nat}

/-- Every one of these hosts can be connected when the call is made. -/
def Admitted (others : World D → World D → Prop) (hosts : List Host) (k : Leg D) : Prop :=
  ∀ host ∈ hosts, ∀ e q,
    ¬ Act.Ends others (Service.connect host k.before.splitter.props) k.before.toPlace (.error e) q

omit [Backend D] in
theorem Balanced.picked?_eq (hk : k.Balanced readers) (many : 2 ≤ readers.length)
    (hnext : k.before.splitter.selector = .roundRobin next) :
    k.before.toStand.picked? = readers[next % readers.length]? ∧
      k.before.toStand.afterPick.splitter.selector = .roundRobin (next + 1) := by
  have hsize : readers.length ≠ 0 := by omega
  unfold Stand.picked? Stand.afterPick
  rw [hk.topology, hnext]
  simp [Selector.pick, hsize]

/-- A statement that the load is balanced for takes one turn. -/
theorem Balanced.selector_eq (hk : k.Balanced readers) (many : 2 ≤ readers.length) (hs : k.before.toStand.Known)
    (h : k.Passes others s₁ ans s₂) (hnext : k.before.splitter.selector = .roundRobin next) :
    k.after.splitter.selector = .roundRobin (next + 1) := by
  rw [(Split.returns_leaveFor h.left).2.selector_eq, h.kept, (hk.spins many hs h).selector_eq]
  exact (hk.picked?_eq many hnext).2

/-- Where the reader whose turn it is can be connected, the statement runs there. -/
theorem Balanced.sameNode_of_runsOn {host : Host} (hk : k.Balanced readers) (many : 2 ≤ readers.length)
    (hs : k.before.toStand.Known) (hnext : k.before.splitter.selector = .roundRobin next)
    (admitted : k.Admitted others readers) (h : k.RunsOn others host) :
    ∃ reader, readers[next % readers.length]? = some reader ∧ host.sameNode reader = true := by
  obtain ⟨s₁, ans, s₂, l, passes, -, hreader⟩ := h
  have hpicked := (hk.picked?_eq many hnext).1
  have hlt : next % readers.length < readers.length := Nat.mod_lt _ (by omega)
  rw [List.getElem?_eq_getElem hlt] at hpicked ⊢
  refine ⟨_, rfl, ?_⟩
  have hspins := hk.spins many hs passes
  -- the reader whose turn it is admits connections, so the turn cannot have been missed
  cases hspins with
  | unpicked none => rw [none] at hpicked; cases hpicked
  | kept picked same =>
    obtain ⟨l', hl', hsame⟩ := same
    obtain ⟨hslot, -⟩ := Option.filter_eq_some_iff.1 hl'
    obtain rfl : l' = (l, host) := Option.some.inj (hslot.symm.trans hreader)
    obtain rfl := Option.some.inj (picked.symm.trans hpicked)
    exact hsame
  | moved picked _ _ _ comes =>
    rw [comes.splitter] at hreader
    obtain ⟨-, rfl⟩ := Prod.mk.inj (Option.some.inj hreader)
    rw [Option.some.inj (picked.symm.trans hpicked)]
    exact Host.sameNode_self _
  | missed picked _ attempt =>
    rw [Option.some.inj (picked.symm.trans hpicked)] at attempt
    exact absurd attempt (admitted _ (List.getElem_mem hlt) _ _)

/-- It runs over the link that is read from. -/
theorem Balanced.reads (hk : k.Balanced readers) {settled : Prop} (hr : k.before.toStand.Routed settled)
    (many : 2 ≤ readers.length) (hs : k.before.toStand.Known) (h : k.Passes others s₁ ans s₂) :
    ∃ l host, s₁.service.link? = some l ∧ s₁.splitter.reader = some (l, host) := by
  have hmode : s₁.splitter.readOnly = true := by
    have hspins := hk.spins many hs h
    cases hspins with
    | moved _ _ _ _ comes => rw [comes.splitter]; exact hk.mode
    | missed _ _ _ _ splitter => rw [splitter]; exact hk.mode
    | _ => exact hk.mode
  obtain ⟨cur, hcur, hholds⟩ := (h.routed hk.op_ne_close hr).1.reads hmode
  obtain ⟨host, hreader⟩ := holds_iff.1 hholds
  exact ⟨cur.1, host, congrArg (Option.map Prod.fst) hcur, hreader⟩

end Leg

/-! ## Runs -/

section Runs

variable [Backend D] [Bystanders others] {s₀ s s' : Session D} {js ks : List (Leg D)} {readers : List Host} {next : Nat}

/-- Each statement that the load is balanced for takes one turn. -/
theorem Run.selector_of_balanced (ho : s₀.Opens others) (hbefore : Run others s₀ js s) (h : Run others s ks s')
    (many : 2 ≤ readers.length) (balanced : ∀ k ∈ ks, k.Balanced readers)
    (hnext : s.splitter.selector = .roundRobin next) : s'.splitter.selector = .roundRobin (next + ks.length) := by
  induction h with
  | start => exact hnext
  | aside _ _ _ ih => exact ih balanced
  | @call ks k run taken ih =>
    have hk := balanced k (List.mem_append_right _ (List.mem_singleton_self k))
    obtain ⟨s₁, ans, s₂, passes⟩ := hk.passes taken
    have hknown : k.before.toStand.Known := (hbefore.trans run).tour.known ho
    rw [hk.selector_eq many hknown passes (ih fun j hj => balanced j (List.mem_append_left _ hj)), List.length_append]
    rfl

/-- Where each reader can be connected, the statements take their turns. -/
theorem Run.sameNode_of_runsOn (ho : s₀.Opens others) (hbefore : Run others s₀ js s) (h : Run others s ks s')
    (many : 2 ≤ readers.length) (balanced : ∀ k ∈ ks, k.Balanced readers)
    (hnext : s.splitter.selector = .roundRobin next) (admitted : ∀ k ∈ ks, k.Admitted others readers) {i : Nat}
    {k : Leg D} (hi : ks[i]? = some k) {host : Host} (hruns : k.RunsOn others host) :
    ∃ reader, readers[(next + i) % readers.length]? = some reader ∧ host.sameNode reader = true := by
  obtain ⟨hlt, rfl⟩ := List.getElem?_eq_some_iff.1 hi
  have hsplit : ks = ks.take i ++ ks[i] :: ks.drop (i + 1) := by
    rw [← List.drop_eq_getElem_cons hlt, List.take_append_drop]
  rw [hsplit] at h
  have hmem : ks[i] ∈ ks := List.getElem_mem hlt
  have hselector := Run.selector_of_balanced ho hbefore h.split.1 many
    (fun j hj => balanced j (List.mem_of_mem_take hj)) hnext
  rw [List.length_take, Nat.min_eq_left (Nat.le_of_lt hlt)] at hselector
  exact (balanced _ hmem).sameNode_of_runsOn many ((hbefore.trans h.split.1).tour.known ho) hselector
    (admitted _ hmem) hruns

/-- Every statement that the load is balanced for makes one pick among the readers and goes by it, and runs over the
link that is read from. If the readers take turns and can all be connected, as many statements in a row as there are
readers run on different ones. -/
theorem Run.rotates_over_readers (ho : s₀.Opens others) (hbefore : Run others s₀ js s) (h : Run others s ks s')
    (many : 2 ≤ readers.length) (balanced : ∀ k ∈ ks, k.Balanced readers) :
    (∀ k ∈ ks, (∃ s₁ ans s₂, k.Passes others s₁ ans s₂) ∧ ∀ s₁ ans s₂, k.Passes others s₁ ans s₂ →
      k.before.toStand.Spins others s₁ ∧ ∃ l host, s₁.service.link? = some l ∧ s₁.splitter.reader = some (l, host)) ∧
    ∀ next, s.splitter.selector = .roundRobin next → readers.Pairwise (fun a b => a.sameNode b = false) →
      (∀ k ∈ ks, k.Admitted others readers) →
      ∀ (i j : Nat) (k k' : Leg D), ks[i]? = some k → ks[j]? = some k' → i < j → j < i + readers.length →
        ∀ a b, k.RunsOn others a → k'.RunsOn others b →
          (∃ reader ∈ readers, a.sameNode reader = true) ∧ (∃ reader ∈ readers, b.sameNode reader = true) ∧
            a.sameNode b = false := by
  refine ⟨fun k hk => ?_, fun next hnext hdistinct admitted i j k k' hi hj hij hjn a b ha hb => ?_⟩
  · obtain ⟨as, bs, rfl⟩ := List.append_of_mem hk
    obtain ⟨hrun, taken, -⟩ := h.split
    have hbal := balanced k hk
    have hknown : k.before.toStand.Known := (hbefore.trans hrun).tour.known ho
    have hrouted := Run.routed_end ho (hbefore.trans hrun) hbal.open_
    exact ⟨hbal.passes taken, fun s₁ ans s₂ passes =>
      ⟨hbal.spins many hknown passes, hbal.reads hrouted many hknown passes⟩⟩
  · -- both links lead to the readers whose turns these are, and the turns differ within one round
    obtain ⟨c, hc, hac⟩ := Run.sameNode_of_runsOn ho hbefore h many balanced hnext admitted hi ha
    obtain ⟨d, hd, hbd⟩ := Run.sameNode_of_runsOn ho hbefore h many balanced hnext admitted hj hb
    refine ⟨⟨c, List.mem_of_getElem? hc, hac⟩, ⟨d, List.mem_of_getElem? hd, hbd⟩, Host.not_sameNode_of hac hbd ?_⟩
    have hne := @turn_ne_turn next _ _ _ hij hjn
    obtain ⟨hlc, rfl⟩ := List.getElem?_eq_some_iff.1 hc
    obtain ⟨hld, rfl⟩ := List.getElem?_eq_some_iff.1 hd
    rcases Nat.lt_or_gt_of_ne hne with hlt | hlt
    · exact List.pairwise_iff_getElem.1 hdistinct _ _ hlc hld hlt
    · rw [Host.sameNode_comm]
      exact List.pairwise_iff_getElem.1 hdistinct _ _ hld hlc hlt

end Runs

/-! ## On the stage -/

namespace Stage

/-- Another host that serves reads. -/
def spare : Host := ⟨"s", none, .reader⟩

/-- A session that balances the load over two readers. -/
def balancing : Session Sim.Cluster :=
  (Session.open? { place with world := { place.world with hosts := { topology := [writer, reader, spare] } } }
    { splitter with loadBalance := true } writer []).get (by rfl)

theorem opens_balancing : balancing.Opens World.Aside :=
  Session.opens_of_open? ⟨rfl, rfl, rfl⟩ ⟨rfl, rfl, rfl, rfl⟩ (Option.some_get _).symm

/-- It has turned to reading. -/
def turned : List (Leg Sim.Cluster) × Session Sim.Cluster :=
  (balancing.calls? [.setReadOnly true]).get (by decide +kernel)

/-- It reads twice. -/
def spinning : List (Leg Sim.Cluster) × Session Sim.Cluster :=
  (turned.2.calls? [.query "select 1", .query "select 2"]).get (by decide +kernel)

theorem run_turned : Run World.Aside balancing turned.1 turned.2 := Session.run_of_get _

theorem run_spinning : Run World.Aside turned.2 spinning.1 spinning.2 := Session.run_of_get _

theorem balanced_spinning : ∀ k ∈ spinning.1, k.Balanced [reader, spare] := by
  intro k hk
  have hall : ∀ k ∈ spinning.1, k.op.isExecute = true ∧ k.before.splitter.loadBalance = true ∧
      k.before.splitter.readOnly = true ∧ k.before.service.inTransaction = false ∧
      k.before.splitter.isCurrentStale k.before.service = false ∧ k.before.closed = false ∧
      Topology.readers k.before.world.hosts.topology = [reader, spare] := by decide +kernel
  obtain ⟨statement, balances, mode, free, sound, open_, topology⟩ := hall k hk
  have hsound : ¬ k.before.seats.IsLost := fun hlost => nomatch (Split.isCurrentStale_iff.2 hlost).symm.trans sound
  exact ⟨statement, balances, mode, free, hsound, open_, topology⟩

theorem admitted_spinning : ∀ k ∈ spinning.1, k.Admitted World.Aside [reader, spare] := by
  intro k hk host hhost e q hends
  have hall : ∀ k ∈ spinning.1, ∀ host ∈ [reader, spare],
      ((Split.act (Service.connect host k.before.splitter.props)).end? k.before.toStand).any (·.1.isOk) = true := by
    decide +kernel
  obtain ⟨⟨r, t⟩, hend, hok⟩ := (Option.any_eq_true ..).1 (hall k hk host hhost)
  have hsame := Split.eq_of_end? hend (Split.ends_act.2 ⟨hends, rfl⟩ : Split.Ends World.Aside _ _ _ ⟨q, _⟩)
  rw [← hsame.1] at hok
  cases hok

end Stage

theorem Run.rotates_over_readers_of_stage :
    ∃ k k' a b, Stage.spinning.1 = [k, k'] ∧ k.RunsOn World.Aside a ∧ k'.RunsOn World.Aside b ∧
      a.sameNode b = false := by
  have hmany : 2 ≤ [Stage.reader, Stage.spare].length := Nat.le_refl _
  obtain ⟨hall, hturns⟩ := rotates_over_readers Stage.opens_balancing Stage.run_turned Stage.run_spinning hmany
    Stage.balanced_spinning
  have hlength : Stage.spinning.1.length = 2 := by decide +kernel
  obtain ⟨k, k', hks⟩ := List.length_eq_two.1 hlength
  have hrunsOn : ∀ j ∈ Stage.spinning.1, ∃ host, j.RunsOn World.Aside host := by
    intro j hj
    obtain ⟨⟨s₁, ans, s₂, passes⟩, hpasses⟩ := hall j hj
    obtain ⟨-, l, host, hlink, hreader⟩ := hpasses s₁ ans s₂ passes
    exact ⟨host, s₁, ans, s₂, l, passes, hlink, hreader⟩
  obtain ⟨a, ha⟩ := hrunsOn k (by rw [hks]; exact List.mem_cons_self)
  obtain ⟨b, hb⟩ := hrunsOn k' (by rw [hks]; exact List.mem_cons_of_mem _ List.mem_cons_self)
  refine ⟨k, k', a, b, hks, ha, hb, ?_⟩
  exact (hturns 1 rfl (by decide +kernel) Stage.admitted_spinning 0 1 k k' (by rw [hks]; rfl) (by rw [hks]; rfl)
    (by decide) (by decide) a b ha hb).2.2

end ReplicaRouter
