import ReplicaRouter.Proofs.Opening
import ReplicaRouter.Proofs.Staging
/-
What the first link of a logical connection leads to. The name of a node says it; behind an address, or a
cluster that can be asked, the node has to name itself, and a link whose node remains unknown is given up.
Main statements: how opening a logical connection ends, in each of these cases, and that it does end once the
driver has answered (`Connection.open_identifies`).
-/
namespace ReplicaRouter

open World

variable {D : Type} {others : World D → World D → Prop}

/-! ## Asking a node for its name -/

/-- The node behind the host has to be asked for, once there is a link: behind an address always, and behind any
other endpoint that is not a node if there is a way to ask. -/
def Host.IsSought (host : Host) (hosts : HostList) : Prop :=
  host.endpointKind = .address ∨ host.endpointKind ≠ .node ∧ hosts.identityQuery ≠ none

theorem Host.IsSought.kind_ne {host : Host} {hosts : HostList} (h : host.IsSought hosts) :
    host.endpointKind ≠ .node := by
  intro hnode
  rcases h with h | h
  · rw [hnode] at h; cases h
  · exact h.1 hnode

/-- The first column of the first row of the answer names the host, and no host before it in the list. -/
def HostList.Named (hosts : HostList) (answer : Option Answer) (node : Host) : Prop :=
  ∃ id columns rows front back, answer = some (.ok (.rows ((id :: columns) :: rows))) ∧
    hosts.topology = front ++ node :: back ∧ HostList.names (Text.trim id.toList) node = true ∧
    ∀ h ∈ front, HostList.names (Text.trim id.toList) h = false

/-- What is said of a host whose node remains unknown: the error that came instead of rows, if one did. -/
def Host.lostError (host : Host) : Option Answer → RouteError
  | none => .connectionUnavailable ("unable to identify the node behind " ++ host.text)
  | some answer => match answer.bind Reply.rows? with
    | .error e => e
    | .ok _ => .connectionUnavailable ("unable to identify the node behind " ++ host.text)

section Asking

variable [Backend D] {l : Link} {now later : Instant} {w w' : World D}

/-- The link was asked for its node, if there is a way to ask. -/
inductive Link.Asked (others : World D → World D → Prop) (l : Link) (now : Instant) (w : World D) :
    Option Answer → Instant → World D → Prop
  | unable (noQuery : w.hosts.identityQuery = none) : Asked others l now w none now w
  | answered {query : String} {answer : Answer} {later : Instant} {w' : World D}
      (hasQuery : w.hosts.identityQuery = some query)
      (ends : Routine.Ends others (l.invoke (.query query)) now w answer later w') :
      Asked others l now w (some answer) later w'

/-- The node that the answer names, as the list of hosts is when it comes. -/
def HostList.found? (hosts : HostList) (answer : Option Answer) : Except RouteError (Option Host) :=
  match answer with
  | none => .ok none
  | some answer => (answer.bind Reply.rows?).map hosts.identified?

omit [Backend D] in
theorem HostList.named_iff {hosts : HostList} {answer : Option Answer} {node : Host} :
    hosts.Named answer node ↔ hosts.found? answer = .ok (some node) := by
  have hfind : ∀ id : String, hosts.find? id = some node ↔ ∃ front back, hosts.topology = front ++ node :: back ∧
      names (Text.trim id.toList) node = true ∧ ∀ h ∈ front, names (Text.trim id.toList) h = false := by
    intro id
    unfold HostList.find?
    rw [List.find?_eq_some_iff_append]
    simp only [Bool.not_eq_true']
    grind
  constructor
  · rintro ⟨id, columns, rows, front, back, rfl, hnode⟩
    show Except.ok (hosts.find? id) = _
    rw [(hfind id).2 ⟨front, back, hnode⟩]
  · intro h
    rcases answer with _ | _ | reply
    · cases h
    · cases h
    · cases reply with
      | rows rows =>
        have hid : hosts.identified? rows = some node := Except.ok.inj h
        rcases rows with _ | ⟨_ | ⟨id, columns⟩, rows⟩
        · cases hid
        · cases hid
        · obtain ⟨front, back, hnode⟩ := (hfind id).1 hid
          exact ⟨id, columns, rows, front, back, rfl, hnode⟩
      | count _ => cases h
      | done => cases h

/-- Where no node is named there is an error to tell. -/
theorem Host.lostError_eq (host : Host) (hosts : HostList) (answer : Option Answer) : host.lostError answer =
    match hosts.found? answer with
    | .error e => e
    | .ok _ => .connectionUnavailable ("unable to identify the node behind " ++ host.text) := by
  unfold Host.lostError HostList.found?
  cases answer with
  | none => rfl
  | some answer =>
    dsimp only
    cases answer.bind Reply.rows? with
    | error e => rfl
    | ok rows => rfl

theorem Link.ends_node {found : Except RouteError (Option Host)} :
    Routine.Ends others l.node now w found later w' ↔
      ∃ answer, l.Asked others now w answer later w' ∧ found = w'.hosts.found? answer := by
  unfold Link.node
  rw [Routine.ends_get_bind]
  constructor
  · intro h
    cases hquery : w.hosts.identityQuery with
    | none =>
      rw [hquery] at h
      obtain ⟨rfl, rfl, rfl⟩ := Routine.ends_pure.1 h
      exact ⟨none, .unable hquery, rfl⟩
    | some query =>
      rw [hquery] at h
      obtain ⟨answer, t, v, hinvoke, h⟩ := Routine.ends_bind.1 h
      refine ⟨some answer, ?_⟩
      unfold HostList.found?
      dsimp only
      cases hrows : answer.bind Reply.rows? with
      | error e =>
        rw [hrows] at h
        obtain ⟨rfl, rfl, rfl⟩ := Routine.ends_pure.1 h
        exact ⟨.answered hquery hinvoke, rfl⟩
      | ok rows =>
        rw [hrows] at h
        dsimp only at h
        rw [Routine.ends_get_bind] at h
        obtain ⟨rfl, rfl, rfl⟩ := Routine.ends_pure.1 h
        exact ⟨.answered hquery hinvoke, rfl⟩
  · rintro ⟨answer, hasked, rfl⟩
    cases hasked with
    | unable hquery =>
      rw [hquery]
      exact Routine.ends_pure.2 ⟨rfl, rfl, rfl⟩
    | @answered query answer t v hquery hinvoke =>
      rw [hquery]
      refine Routine.ends_bind.2 ⟨answer, later, w', hinvoke, ?_⟩
      unfold HostList.found?
      dsimp only
      cases answer.bind Reply.rows? with
      | error e => exact Routine.ends_pure.2 ⟨rfl, rfl, rfl⟩
      | ok rows => exact Routine.ends_get_bind.2 (Routine.ends_pure.2 ⟨rfl, rfl, rfl⟩)

end Asking

/-! ## Looking at the first link -/

section Looking

variable [Backend D] {l : Link} {host : Host} {protocol : String} {props : Properties} {s s' : Splitter}
  {v v' : Service}
  {now later : Instant} {w w' : World D} {r : Except RouteError Link}

omit [Backend D] in
theorem Split.needsIdentity_iff (fresh : v.current = none) :
    needsIdentity ⟨protocol, host, props, true⟩ v w = true ↔ host.IsSought w.hosts := by
  unfold needsIdentity Host.IsSought
  rw [fresh]
  cases host.endpointKind <;> simp [EndpointKind.needsIdentification, EndpointKind.isNode, Option.isSome_iff_ne_none]

/-- A link whose node is not sought is taken as it is. -/
theorem Split.ends_leaveConnect_known (fresh : v.current = none) (known : ¬ host.IsSought w.hosts) :
    Routine.Ends others (((leaveConnect ⟨protocol, host, props, true⟩ (.ok l)).run s).run v) now w
      ((r, s'), v') later w' ↔
      (r = .ok l ∧ s' = s ∧ v' = v) ∧ later = now ∧ w' = w := by
  rw [leaveConnect_run, Routine.ends_get_bind, if_neg (mt (needsIdentity_iff fresh).1 known), Routine.ends_pure]
  simp only [Prod.mk.injEq, and_assoc]

/-- The node that the answer names is noted; where it names none, nothing is. -/
theorem Split.ends_identifyInitial_iff {found : Except RouteError Unit} :
    Routine.Ends others ((identifyInitial ⟨protocol, host, props, true⟩ l).run v) now w (found, v') later w' ↔
      ∃ answer t u, l.Asked others now w answer t u ∧
        ((∃ node, u.hosts.Named answer node ∧ (found = .ok () ∧ v' = { v with initialHost := some node }) ∧
            Routine.Ends others (World.log .debug ("Initial connection resolved to " ++ node.text)) t u () later w') ∨
          (∀ node, ¬ u.hosts.Named answer node) ∧ (found = .error (host.lostError answer) ∧ v' = v) ∧
            later = t ∧ w' = u) := by
  rw [identifyInitial_run, Routine.ends_bind]
  simp only [HostList.named_iff]
  constructor
  · rintro ⟨node?, t, u, hnode, h⟩
    obtain ⟨answer, hasked, rfl⟩ := Link.ends_node.1 hnode
    refine ⟨answer, t, u, hasked, ?_⟩
    rw [host.lostError_eq u.hosts answer]
    rcases hfound : u.hosts.found? answer with e | _ | node
    · rw [hfound] at h
      obtain ⟨he, rfl, rfl⟩ := Routine.ends_pure.1 h
      exact .inr ⟨nofun, Prod.mk.inj he, rfl, rfl⟩
    · rw [hfound] at h
      obtain ⟨he, rfl, rfl⟩ := Routine.ends_pure.1 h
      exact .inr ⟨nofun, Prod.mk.inj he, rfl, rfl⟩
    · rw [hfound] at h
      obtain ⟨_, t₂, w₂, hlog, h⟩ := Routine.ends_bind.1 h
      obtain ⟨he, rfl, rfl⟩ := Routine.ends_pure.1 h
      exact .inl ⟨node, rfl, Prod.mk.inj he, hlog⟩
  · rintro ⟨answer, t, u, hasked, h⟩
    refine ⟨_, t, u, Link.ends_node.2 ⟨answer, hasked, rfl⟩, ?_⟩
    rw [host.lostError_eq u.hosts answer] at h
    rcases h with ⟨node, hnamed, ⟨rfl, rfl⟩, hlog⟩ | ⟨hnone, ⟨rfl, rfl⟩, rfl, rfl⟩
    · rw [hnamed]
      exact Routine.ends_bind.2 ⟨(), later, w', hlog, Routine.ends_pure.2 ⟨rfl, rfl, rfl⟩⟩
    · rcases hfound : w'.hosts.found? answer with e | _ | node
      · exact Routine.ends_pure.2 ⟨rfl, rfl, rfl⟩
      · exact Routine.ends_pure.2 ⟨rfl, rfl, rfl⟩
      · exact absurd hfound (hnone node)

/-- A link whose node is sought is asked for it. It is taken if its answer names one, and closed if not. -/
theorem Split.ends_leaveConnect_sought (fresh : v.current = none) (sought : host.IsSought w.hosts) :
    Routine.Ends others (((leaveConnect ⟨protocol, host, props, true⟩ (.ok l)).run s).run v) now w
      ((r, s'), v') later w' ↔
      ∃ answer t u, l.Asked others now w answer t u ∧
        ((∃ node, u.hosts.Named answer node ∧ (r = .ok l ∧ s' = s ∧ v' = { v with initialHost := some node }) ∧
            Routine.Ends others (World.log .debug ("Initial connection resolved to " ++ node.text)) t u () later w') ∨
          (∀ node, ¬ u.hosts.Named answer node) ∧ (r = .error (host.lostError answer) ∧ s' = s ∧ v' = v) ∧
            Routine.Ends others l.closeQuietly t u () later w') := by
  rw [leaveConnect_run, Routine.ends_get_bind, if_pos ((needsIdentity_iff fresh).2 sought), Routine.ends_bind]
  constructor
  · rintro ⟨⟨found, v₁⟩, t₁, w₁, h1, h2⟩
    obtain ⟨answer, t, u, hasked, h1⟩ := ends_identifyInitial_iff.1 h1
    refine ⟨answer, t, u, hasked, ?_⟩
    rcases h1 with ⟨node, hnamed, ⟨rfl, rfl⟩, hlog⟩ | ⟨hnone, ⟨rfl, rfl⟩, rfl, rfl⟩
    · obtain ⟨he, rfl, rfl⟩ := Routine.ends_pure.1 h2
      exact .inl ⟨node, hnamed, by simpa [and_assoc] using he, hlog⟩
    · obtain ⟨_, t₂, w₂, hclose, h2⟩ := Routine.ends_bind.1 h2
      obtain ⟨he, rfl, rfl⟩ := Routine.ends_pure.1 h2
      exact .inr ⟨hnone, by simpa [and_assoc] using he, hclose⟩
  · rintro ⟨answer, t, u, hasked, ⟨node, hnamed, ⟨rfl, rfl, rfl⟩, hlog⟩ | ⟨hnone, ⟨rfl, rfl, rfl⟩, hclose⟩⟩
    · refine ⟨_, later, w',
        ends_identifyInitial_iff.2 ⟨answer, t, u, hasked, .inl ⟨node, hnamed, ⟨rfl, rfl⟩, hlog⟩⟩, ?_⟩
      exact Routine.ends_pure.2 ⟨rfl, rfl, rfl⟩
    · refine ⟨_, t, u, ends_identifyInitial_iff.2 ⟨answer, t, u, hasked, .inr ⟨hnone, ⟨rfl, rfl⟩, rfl, rfl⟩⟩, ?_⟩
      exact Routine.ends_bind.2 ⟨(), later, w', hclose, Routine.ends_pure.2 ⟨rfl, rfl, rfl⟩⟩

end Looking

/-! ## Taking a link or giving it up -/

/-- The next that the connection was told was to close. -/
def World.ClosedSince (w w' : World D) (c : ConnId) : Prop :=
  ∃ es outcome, w'.journal = es ++ .call (.close c outcome) :: w.journal

namespace Connection

/-- The logical connection is open: the link is current, and this is the host that it leads to. -/
structure Enters (p q : Place D) (r : Except RouteError (Connection Splitter D)) (l : Link) (node : Host)
    (initialHost : Option Host) : Prop where
  opened : ∃ c, r = .ok c
  service : q.service = { p.service with current := some (l, node), initialHost }

/-- The connection is given up: it was told to close, and nothing of it is noted. -/
structure GivesUp (p q : Place D) (r : Except RouteError (Connection Splitter D)) (c : ConnId) (w : World D)
    (e : RouteError) : Prop where
  refused : r = .error e
  service : q.service = p.service
  closed : w.ClosedSince q.world c

end Connection

section Taking

variable [Backend D] {l : Link} {host node : Host} {protocol text : String} {props : Properties} {v v' : Service}
  {now later : Instant} {w w' : World D} {a : Unit}

/-- What pools do not serve is connected to directly. -/
theorem Providers.direct_of_connect {ps : Providers} (hkind : host.endpointKind ≠ .node)
    (h : Routine.Ends others (ps.connect protocol host props) now w (.ok l) later w') : ∃ c, l = .direct c := by
  have hnone : ps.pooledFor? host = none := by
    have hrefused : PooledProvider.accepts host = false := beq_false_of_ne hkind
    unfold Providers.pooledFor?
    rw [hrefused]
    cases ps.pooled <;> rfl
  unfold Providers.connect at h
  rw [hnone] at h
  obtain ⟨_, t, u, -, h⟩ := Routine.ends_bind.1 h
  obtain ⟨answer, t', u', -, h⟩ := Routine.ends_bind.1 h
  obtain ⟨hl, -, -⟩ := Routine.ends_pure.1 h
  obtain ⟨c, -, rfl⟩ := Except.map_eq_ok hl.symm
  exact ⟨c, rfl⟩

/-- A connection that is closed quietly was told to close. -/
theorem Link.closedSince_of_closeQuietly [Bystanders others] {c : ConnId}
    (h : Routine.Ends others (Link.direct c).closeQuietly now w a later w') : w.ClosedSince w' c := by
  obtain ⟨outcome, t, u, hclose, h⟩ := Routine.ends_bind.1 h
  obtain ⟨-, -, hdirect⟩ := (Link.meets_close (.direct c) w).ends hclose
  obtain ⟨v, haside, rfl⟩ := hdirect c rfl
  unfold ClosedSince
  rw [← haside.journal]
  cases outcome with
  | ok _ =>
    obtain ⟨-, -, rfl⟩ := Routine.ends_pure.1 h
    exact ⟨[], _, rfl⟩
  | error e =>
    obtain ⟨-, -, rfl⟩ := Routine.ends_pure.1 h
    exact ⟨[.log .debug (World.ignoredLine e)], _, rfl⟩

/-- The first link becomes the current one, and nothing else happens. -/
theorem Service.ends_takeFirst [Bystanders others] {α : Type} {r b : α} (fresh : v.current = none)
    (h : Routine.Ends others (World.log .debug text >>= fun _ => (setCurrent l node).run v >>= fun q => pure (r, q.2))
      now w (b, v') later w') :
    b = r ∧ v' = { v with current := some (l, node) } ∧ w.Upkeep w' := by
  have hlink : v.link? = none := by
    unfold link?
    rw [fresh]
    rfl
  rw [setCurrent_run, hlink] at h
  simp only [bind_assoc, pure_bind] at h
  obtain ⟨_, t₁, w₁, h1, h⟩ := Routine.ends_bind.1 h
  obtain ⟨_, t₂, w₂, h2, h⟩ := Routine.ends_bind.1 h
  obtain ⟨_, t₃, w₃, h3, h⟩ := Routine.ends_bind.1 h
  obtain ⟨he, -, rfl⟩ := Routine.ends_pure.1 h
  obtain ⟨rfl, rfl⟩ := Prod.mk.inj he
  refine ⟨rfl, rfl, ?_⟩
  exact ((World.keeps_log _ _).ends h1).trans (((World.keeps_log _ _).ends h2).trans ((Link.keeps_hold l).ends h3))

variable (others l node text) in
/-- There is nothing to wait for. -/
theorem Service.exists_takeFirst {α : Type} (r : α) (fresh : v.current = none) (now : Instant) (w : World D) :
    ∃ v' later w', Routine.Ends others
      (World.log .debug text >>= fun _ => (setCurrent l node).run v >>= fun q => pure (r, q.2)) now w
        (r, v') later w' := by
  have hlink : v.link? = none := by
    unfold link?
    rw [fresh]
    rfl
  rw [setCurrent_run, hlink]
  cases l with
  | direct c => exact ⟨_, _, _, .done ..⟩
  | pooled h => exact ⟨_, _, _, .done ..⟩

end Taking

/-! ## Opening -/

namespace Connection

variable [Backend D] {host : Host} {props : Properties} {x : Splitter} {p q : Place D}
  {r : Except RouteError (Connection Splitter D)} {l : Link} {now : Instant} {w : World D}

/-- A link whose node is not sought is taken at once. -/
theorem ends_takeFirst_known [Bystanders others] (current : p.service.current = none)
    (initialHost : p.service.initialHost = none) (known : ¬ host.IsSought w.hosts)
    (h : Routine.Ends others (takeFirst x host props (.ok l) p.service) now w (r, q.service) q.clock q.world) :
    Enters p q r l host none ∧ w.Upkeep q.world := by
  obtain ⟨⟨⟨a, s⟩, v⟩, later, u, looked, rest⟩ := Routine.ends_bind.1 h
  obtain ⟨⟨rfl, rfl, rfl⟩, rfl, rfl⟩ := (Split.ends_leaveConnect_known current known).1 looked
  obtain ⟨rfl, hv, hup⟩ := Service.ends_takeFirst current rest
  dsimp only at hv
  rw [initialHost] at hv
  exact ⟨⟨⟨_, rfl⟩, hv⟩, hup⟩

/-- A link whose node is sought is taken if it is found, and given up if not. -/
theorem ends_takeFirst_sought [Bystanders others] (current : p.service.current = none) (sought : host.IsSought w.hosts)
    {c : ConnId}
    (h : Routine.Ends others (takeFirst x host props (.ok (.direct c)) p.service) now w
      (r, q.service) q.clock q.world) :
    ∃ answer t u, (Link.direct c).Asked others now w answer t u ∧
      (∀ node, u.hosts.Named answer node → Enters p q r (.direct c) node (some node)) ∧
      ((∀ node, ¬ u.hosts.Named answer node) → GivesUp p q r c u (host.lostError answer)) := by
  obtain ⟨⟨⟨a, s⟩, v⟩, later, u', looked, rest⟩ := Routine.ends_bind.1 h
  obtain ⟨answer, t, u, hasked, looked⟩ := (Split.ends_leaveConnect_sought current sought).1 looked
  refine ⟨answer, t, u, hasked, ?_⟩
  rcases looked with ⟨node, hnamed, ⟨rfl, rfl, rfl⟩, -⟩ | ⟨hnone, ⟨rfl, rfl, rfl⟩, hclose⟩
  · obtain ⟨rfl, hv, -⟩ := Service.ends_takeFirst (v := { p.service with initialHost := some node }) current rest
    refine ⟨fun node' hnamed' => ?_, fun hnone => absurd hnamed (hnone node)⟩
    -- the answer names one node only
    rw [HostList.named_iff] at hnamed hnamed'
    obtain rfl := Option.some_inj.1 (Except.ok.inj (hnamed.symm.trans hnamed'))
    exact ⟨⟨_, rfl⟩, hv⟩
  · obtain ⟨he, -, hw⟩ := Routine.ends_pure.1 rest
    obtain ⟨rfl, hv⟩ := Prod.mk.inj he
    refine ⟨fun node hnamed => absurd hnamed (hnone node), fun _ => ⟨rfl, hv, ?_⟩⟩
    rw [hw]
    exact Link.closedSince_of_closeQuietly hclose

/-- Once the driver has made a connection, opening ends as soon as what it has to wait for has ended. -/
theorem exists_ends_open (connected : Routine.Ends others
      (p.service.providers.connect p.service.protocol host props) p.clock p.world (.ok l) now w)
    {a : Except RouteError Link} {v : Service} {later : Instant} {u : World D} (fresh : v.current = none)
    (looked : Routine.Ends others
      (((Split.leaveConnect ⟨p.service.protocol, host, props, true⟩ (.ok l)).run x).run p.service) now w ((a, x), v)
      later u) :
    match a with
    | .ok _ => ∃ c q, Act.Ends others (Connection.open [(Split.plugin, x)] host props) p (.ok c) q
    | .error _ => ∃ e q, Act.Ends others (Connection.open [(Split.plugin, x)] host props) p (.error e) q := by
  have hopen : ∀ {r : Except RouteError (Connection Splitter D)} {v' : Service} {t : Instant} {u' : World D},
      Routine.Ends others (takeFirst x host props (.ok l) p.service) now w (r, v') t u' →
        Act.Ends others (Connection.open [(Split.plugin, x)] host props) p r ⟨v', t, u'⟩ := by
    intro r v' t u' h
    rw [Act.Ends, open_run]
    exact Routine.ends_bind.2 ⟨_, now, w, connected, h⟩
  cases a with
  | ok l' =>
    obtain ⟨v', t, u', h⟩ := Service.exists_takeFirst others l' (v.initialHost.getD host)
      ("Opened logical connection to " ++ (v.initialHost.getD host).text ++ " via " ++ host.text)
      (.ok { chain := [(Split.plugin, x)], host, props } : Except RouteError (Connection Splitter D)) fresh later u
    exact ⟨_, _, hopen (Routine.ends_bind.2 ⟨_, later, u, looked, h⟩)⟩
  | error e => exact ⟨_, _, hopen (Routine.ends_bind.2 ⟨_, later, u, looked, Routine.ends_pure.2 ⟨rfl, rfl, rfl⟩⟩)⟩

/-- Opening a logical connection, with no link yet and no host noted. Every way in which it ends follows what the driver
says when it is asked for a connection: an error is passed on. A link whose node is not sought is taken, with nothing
but upkeep done on the way: no operation was sent, no query either. Otherwise the link is asked for its node, if there
is a way to ask; it is taken if the answer names one, which is then where it leads and noted as the first host, and
closed in any other case, with nothing noted. And in every case opening does end, once the driver has answered. -/
theorem open_identifies [Bystanders others] (current : p.service.current = none)
    (initialHost : p.service.initialHost = none) :
    (∀ r q, Act.Ends others (Connection.open [(Split.plugin, x)] host props) p r q →
      ∃ made now w, Routine.Ends others (p.service.providers.connect p.service.protocol host props) p.clock p.world made
          now w ∧
        (∀ e, made = .error e → r = .error e ∧ q.service = p.service) ∧
        ∀ l, made = .ok l →
          (¬ host.IsSought w.hosts → Enters p q r l host none ∧ p.world.Upkeep q.world) ∧
          (host.IsSought w.hosts → ∃ c answer t u, l = .direct c ∧ l.Asked others now w answer t u ∧
            (∀ node, u.hosts.Named answer node → Enters p q r l node (some node)) ∧
            ((∀ node, ¬ u.hosts.Named answer node) → GivesUp p q r c u (host.lostError answer)))) ∧
    ∀ l now w, Routine.Ends others (p.service.providers.connect p.service.protocol host props) p.clock p.world (.ok l)
        now w →
      (¬ host.IsSought w.hosts →
        ∃ c q, Act.Ends others (Connection.open [(Split.plugin, x)] host props) p (.ok c) q) ∧
      ∀ answer t u, host.IsSought w.hosts → l.Asked others now w answer t u →
        ((∃ node, u.hosts.Named answer node) →
          ∃ c q, Act.Ends others (Connection.open [(Split.plugin, x)] host props) p (.ok c) q) ∧
        ((∀ node, ¬ u.hosts.Named answer node) → ∀ t' u', Routine.Ends others l.closeQuietly t u () t' u' →
          ∃ e q, Act.Ends others (Connection.open [(Split.plugin, x)] host props) p (.error e) q) := by
  -- first what an end says of the way there, then that there is one
  refine ⟨fun r q h => ?_, fun l now w connected => ⟨fun known => ?_, fun answer t u sought hasked => ⟨?_, ?_⟩⟩⟩
  · rw [Act.Ends, open_run] at h
    obtain ⟨made, now, w, connected, h⟩ := Routine.ends_bind.1 h
    refine ⟨made, now, w, connected, ?_, ?_⟩
    · rintro e rfl
      obtain ⟨he, -, -⟩ := Routine.ends_pure.1 h
      exact Prod.mk.inj he
    · rintro l rfl
      refine ⟨fun known => ?_, fun sought => ?_⟩
      · obtain ⟨henters, hup⟩ := ends_takeFirst_known current initialHost known h
        exact ⟨henters, ((Providers.meets_connect ..).ends connected).1.upkeep.trans hup⟩
      · obtain ⟨c, rfl⟩ := Providers.direct_of_connect sought.kind_ne connected
        obtain ⟨answer, t, u, hasked, h⟩ := ends_takeFirst_sought current sought h
        exact ⟨c, answer, t, u, rfl, hasked, h⟩
  · exact exists_ends_open connected current
      ((Split.ends_leaveConnect_known current known).2 ⟨⟨rfl, rfl, rfl⟩, rfl, rfl⟩)
  · rintro ⟨node, hnamed⟩
    exact exists_ends_open (v := { p.service with initialHost := some node }) connected current
      ((Split.ends_leaveConnect_sought current sought).2
        ⟨answer, t, u, hasked, .inl ⟨node, hnamed, ⟨rfl, rfl, rfl⟩, Routine.ends_pure.2 ⟨rfl, rfl, rfl⟩⟩⟩)
  · intro hnone t' u' hclose
    exact exists_ends_open connected current
      ((Split.ends_leaveConnect_sought current sought).2
        ⟨answer, t, u, hasked, .inr ⟨hnone, ⟨rfl, rfl, rfl⟩, hclose⟩⟩)

end Connection

/-! ## A cluster that can be asked -/

namespace Stage

/-- The endpoint of a cluster. -/
def endpoint : Host := ⟨"db.cluster-x", none, .writer⟩

/-- Whoever is asked for its name answers that it is the reader, in capitals and between blanks. -/
def outside : Place Sim.Cluster where
  service := place.service
  clock := 0
  world := { place.world with
    backend := { scripts := [("db.cluster-x", { rows := [[" R "]] })] }
    hosts := { topology := [writer, reader], identityQuery := some "select name" } }

/-- The link that the endpoint leads to. -/
def linked : Except RouteError Link × World Sim.Cluster :=
  (outside.service.providers.connect "db" endpoint [] 0 outside.world).value?.get (by decide +kernel)

/-- What that link answers. -/
def answered : Answer × World Sim.Cluster :=
  (Link.invoke (.direct 0) (.query "select name") 0 linked.2).value?.get (by decide +kernel)

end Stage

/-- Opening a logical connection to the endpoint of a cluster ends, because the answer names a node. -/
theorem Connection.open_identifies_of_stage : ∃ c q, Act.Ends World.Aside
    (Connection.open [(Split.plugin, Stage.splitter)] Stage.endpoint []) Stage.outside (.ok c) q := by
  have connected : Routine.Ends World.Aside (Stage.outside.service.providers.connect "db" Stage.endpoint []) 0
      Stage.outside.world (.ok (.direct 0)) 0 Stage.linked.2 := by
    have hlink : Stage.linked.1 = .ok (.direct 0) := by rfl
    rw [← hlink]
    exact Outcome.ends_of_isSome _ 0
  have hquery : Stage.linked.2.hosts.identityQuery = some "select name" := by rfl
  have hasked : (Link.direct 0).Asked World.Aside 0 Stage.linked.2 (some Stage.answered.1) 0 Stage.answered.2 :=
    .answered hquery (Outcome.ends_of_isSome _ 0)
  have hsought : Stage.endpoint.IsSought Stage.linked.2.hosts := .inr ⟨by decide +kernel, by decide +kernel⟩
  have hnamed : Stage.answered.2.hosts.Named (some Stage.answered.1) Stage.reader :=
    HostList.named_iff.2 (by rfl)
  exact (((open_identifies rfl rfl).2 _ _ _ connected).2 _ _ _ hsought hasked).1 ⟨_, hnamed⟩

end ReplicaRouter
