import ReplicaRouter.Proofs.Calmness
import ReplicaRouter.Proofs.Tenure
import ReplicaRouter.Router
/-
How a logical connection is opened and given up, step by step on the world. Its first link is connected, looked at,
and made the current one; in the end every link is let go.
Main statements: what the call does that opens a logical connection (`Router.connect_eq`), and that opening it, giving
it up, starting the router and shutting it down stir no more than looking after pools, handles and connections does
(`World.Aloof.calm_open`, `World.Aloof.calm_finish`).
-/
namespace ReplicaRouter

open World

variable {D α : Type}

/-! ## Opening -/

theorem Split.act_run (x : Act D α) (s : Splitter) (v : Service) :
    ((Split.act x).run s).run v = x.run v >>= fun p => pure ((p.1, s), p.2) := rfl

/-- The node behind a host that pools serve is known. -/
theorem Split.needsIdentity_of_accepts {protocol : String} {host : Host} {props : Properties} {initial : Bool}
    {v : Service} {w : World D} (h : PooledProvider.accepts host = true) :
    needsIdentity ⟨protocol, host, props, initial⟩ v w = false := by
  have hnode : host.endpointKind = .node := eq_of_beq h
  rw [needsIdentity, hnode]
  exact Bool.and_false _

section Opening

variable [Backend D]

/-- The link that is current gives way to another one. -/
theorem Service.setCurrent_run (l : Link) (host : Host) (v : Service) : (setCurrent l host : Act D Unit).run v =
    World.log .debug ("Current connection set to " ++ host.text) >>= fun _ => l.hold >>= fun _ =>
      (match v.link? with
        | some earlier => earlier.letGo
        | none => pure ()) >>= fun _ => pure ((), { v with current := some (l, host) }) := by
  unfold setCurrent
  simp only [StateT.run_bind, StateT.run_get, StateT.run_modify, Act.world_run, bind_assoc, pure_bind]
  refine bind_congr fun _ => bind_congr fun _ => ?_
  cases v.link? with
  | some earlier => rfl
  | none => rfl

/-- Asks for the known node behind a link, if there is a way to ask. -/
def Link.node (l : Link) : Routine (World D) (Except RouteError (Option Host)) := do
  match (← get).hosts.identityQuery with
  | none => return .ok none
  | some query =>
    match (← l.invoke (.query query)).bind Reply.rows? with
    | .error e => return .error e
    | .ok rows => return .ok ((← get).hosts.identified? rows)

theorem Service.identify_run (l : Link) (v : Service) :
    (identify l : Act D _).run v = l.node >>= fun answer => pure (answer, v) := by
  unfold identify Link.node
  rw [StateT.run_bind, Act.world_run, bind_assoc, bind_assoc]
  refine bind_congr fun w => ?_
  rw [pure_bind]
  cases w.hosts.identityQuery with
  | none => rfl
  | some query =>
    dsimp only
    rw [StateT.run_bind, Act.world_run, bind_assoc, bind_assoc]
    refine bind_congr fun answer => ?_
    rw [pure_bind]
    cases answer.bind Reply.rows? with
    | error e => rfl
    | ok rows => rfl

namespace Split

/-- What is made of a link that was just connected. -/
theorem leaveConnect_run (req : ConnectRequest) (l : Link) (s : Splitter) (v : Service) :
    ((leaveConnect req (.ok l) : Split D _).run s).run v = get >>= fun w =>
      if needsIdentity req v w then (identifyInitial req l).run v >>= fun p => match p.1 with
        | .ok _ => pure ((.ok l, s), p.2)
        | .error e => l.closeQuietly >>= fun _ => pure ((.error e, s), p.2)
      else pure ((.ok l, s), v) := by
  show (get >>= fun w => ((if needsIdentity req v w then _ else _ : Split D (Except RouteError Link)).run s).run v :
    Routine (World D) _) = _
  refine bind_congr fun w => ?_
  split
  · rw [StateT.run_bind, StateT.run_bind, act_run, bind_assoc]
    refine bind_congr fun p => ?_
    obtain ⟨_ | _, v'⟩ := p
    · simp only [pure_bind, StateT.run_bind, world, act_run, Act.world_run, bind_assoc]
      rfl
    · rfl
  · rfl

theorem identifyInitial_run (req : ConnectRequest) (l : Link) (v : Service) :
    (identifyInitial req l : Act D _).run v = l.node >>= fun answer => match answer with
      | .ok (some host) => World.log .debug ("Initial connection resolved to " ++ host.text) >>= fun _ =>
          pure (.ok (), { v with initialHost := some host })
      | .ok none => pure (.error (.connectionUnavailable ("unable to identify the node behind " ++ req.host.text)), v)
      | .error e => pure (.error e, v) := by
  unfold identifyInitial
  rw [StateT.run_bind, Service.identify_run, bind_assoc]
  refine bind_congr fun answer => ?_
  rw [pure_bind]
  rcases answer with _ | _ | _
  · rfl
  · rfl
  · rfl

end Split

namespace Connection

/-- A link becomes the current one of a new logical connection. -/
def enter (chain : Chain Splitter (Act D)) (host : Host) (props : Properties) (l : Link) (v : Service) :
    Routine (World D) (Except RouteError (Connection Splitter D × Service)) := do
  let resolved := v.initialHost.getD host
  World.log .debug ("Opened logical connection to " ++ resolved.text ++ " via " ++ host.text)
  let p ← (Service.setCurrent l resolved).run v
  return .ok ({ chain, host, props }, p.2)

theorem firstLink_run (s : Splitter) (v : Service) (req : ConnectRequest) :
    (Chain.connect [(Split.plugin, s)] lastConnect req : Act D _).run v =
      v.providers.connect req.protocol req.host req.props >>= fun answer =>
        ((Split.leaveConnect req answer).run s).run v >>= fun p => pure ((p.1.1, [(Split.plugin, p.1.2)]), p.2) := by
  rw [Chain.connect, Split.through_eq]
  show ((Split.act (lastConnect req) >>= Split.leaveConnect req).run s >>= fun p =>
    pure (p.1, [(Split.plugin, p.2)]) : Act D _).run v = _
  have hlast : (lastConnect req : Act D _).run v =
      v.providers.connect req.protocol req.host req.props >>= fun answer => pure (answer, v) := rfl
  rw [StateT.run_bind, StateT.run_bind, StateT.run_bind, Split.act_run, hlast]
  simp only [bind_assoc, pure_bind]
  rfl

/-- What becomes of the driver's answer to the request for a first link: the link is looked at, and made the current
one. -/
def takeFirst (s : Splitter) (host : Host) (props : Properties) (made : Except RouteError Link) (v : Service) :
    Routine (World D) (Except RouteError (Connection Splitter D) × Service) := do
  let p ← ((Split.leaveConnect ⟨v.protocol, host, props, true⟩ made).run s).run v
  match p.1.1 with
  | .error e => return (.error e, p.2)
  | .ok l =>
    let resolved := p.2.initialHost.getD host
    World.log .debug ("Opened logical connection to " ++ resolved.text ++ " via " ++ host.text)
    let q ← (Service.setCurrent l resolved).run p.2
    return (.ok { chain := [(Split.plugin, p.1.2)], host, props }, q.2)

/-- A first link is connected and taken. -/
theorem open_run (s : Splitter) (host : Host) (props : Properties) (v : Service) :
    (Connection.open [(Split.plugin, s)] host props : Act D _).run v =
      v.providers.connect v.protocol host props >>= fun made => takeFirst s host props made v := by
  unfold Connection.open
  rw [StateT.run_bind, StateT.run_get, pure_bind, StateT.run_bind, firstLink_run, bind_assoc]
  refine bind_congr fun made => ?_
  unfold takeFirst
  rw [bind_assoc]
  refine bind_congr fun p => ?_
  rw [pure_bind]
  obtain ⟨⟨_ | l, s⟩, v⟩ := p
  · rfl
  · dsimp only
    rw [StateT.run_bind, StateT.run_get, pure_bind, StateT.run_bind, Act.world_run, bind_assoc]
    rfl

end Connection

namespace Router

/-- The first link is connected, looked at, and made the current one. -/
theorem connect_eq (r : Router) (host : Host) (props : Properties) : (r.connect host props : Routine (World D) _) =
    r.providers.connect r.protocol host props >>= fun answer =>
      ((Split.leaveConnect ⟨r.protocol, host, props, true⟩ answer).run (r.splitter props)).run r.service >>= fun p =>
        match p.1.1 with
        | .error e => pure (.error e)
        | .ok l => Connection.enter [(Split.plugin, p.1.2)] host props l p.2 := by
  show ((Connection.open [(Split.plugin, r.splitter props)] host props).run r.service >>= fun p =>
    pure (p.1.map (·, p.2))) = _
  rw [Connection.open_run, bind_assoc]
  refine bind_congr fun answer => ?_
  unfold Connection.takeFirst
  rw [bind_assoc]
  refine bind_congr fun p => ?_
  obtain ⟨⟨_ | l, s⟩, v⟩ := p
  · rfl
  · dsimp only
    simp only [bind_assoc, pure_bind]
    rfl

end Router

/-! ## What stirs little -/

section Acts

variable {β : Type} {R B : World D → World D → Prop}

/-- Whatever state the logical connection is in, its act stirs little. -/
def Act.Calm (R B : World D → World D → Prop) (x : Act D α) : Prop := ∀ v, (x.run v).Calm R B

def Split.Calm (R B : World D → World D → Prop) (x : Split D α) : Prop := ∀ s, Act.Calm R B (x.run s)

omit [Backend D]

theorem Act.calm_get_bind {f : Service → Act D β} (hf : ∀ v, Act.Calm R B (f v)) : Act.Calm R B (get >>= f) := fun v =>
  hf v v

theorem Act.calm_modify_bind {g : Service → Service} {f : Unit → Act D β} (hf : Act.Calm R B (f ())) :
    Act.Calm R B (modify g >>= f) := fun v =>
  hf (g v)

theorem Split.calm_get_bind {f : Splitter → Split D β} (hf : ∀ s, Split.Calm R B (f s)) : Split.Calm R B (get >>= f) :=
  fun s => hf s s

theorem Split.calm_modify_bind {g : Splitter → Splitter} {f : Unit → Split D β} (hf : Split.Calm R B (f ())) :
    Split.Calm R B (modify g >>= f) := fun s =>
  hf (g s)

variable [Frame B B]

theorem Act.calm_pure (a : α) : Act.Calm R B (pure a : Act D α) := fun _ => Routine.calm_pure _

theorem Act.calm_bind {x : Act D α} {f : α → Act D β} (hx : Act.Calm R B x) (hf : ∀ a, Act.Calm R B (f a)) :
    Act.Calm R B (x >>= f) :=
  fun v => Routine.calm_bind (hx v) fun p => hf p.1 p.2

theorem Act.calm_world {x : Routine (World D) α} (hx : x.Calm R B) : Act.Calm R B (Act.world x) := fun _ =>
  Routine.calm_bind hx fun _ => Routine.calm_pure _

theorem Split.calm_pure (a : α) : Split.Calm R B (pure a : Split D α) := fun _ => Act.calm_pure _

theorem Split.calm_bind {x : Split D α} {f : α → Split D β} (hx : Split.Calm R B x) (hf : ∀ a, Split.Calm R B (f a)) :
    Split.Calm R B (x >>= f) :=
  fun s => Act.calm_bind (hx s) fun p => hf p.1 p.2

theorem Split.calm_world {x : Routine (World D) α} (hx : x.Calm R B) : Split.Calm R B (Split.world x) := fun _ v =>
  Routine.calm_bind (Act.calm_world hx v) fun _ => Routine.calm_pure _

end Acts

namespace World.Aloof

variable {R B : World D → World D → Prop} [Frame B B] (hB : Aloof B)
include hB

theorem calm_enter (chain : Chain Splitter (Act D)) (host : Host) (props : Properties) (l : Link) (v : Service) :
    (Connection.enter chain host props l v).Calm R B := by
  have hset : ∀ resolved, ((Service.setCurrent l resolved : Act D Unit).run v).Calm R B := fun resolved => by
    rw [Service.setCurrent_run]
    refine Routine.calm_bind (hB.calm_log _ _) fun _ => Routine.calm_bind (hB.toIndifferent.calm_hold l) fun _ => ?_
    refine Routine.calm_bind ?_ fun _ => Routine.calm_pure _
    cases v.link? with
    | some earlier => exact hB.toIndifferent.calm_letGo earlier
    | none => exact Routine.calm_pure _
  exact Routine.calm_bind (hB.calm_log _ _) fun _ => Routine.calm_bind (hset _) fun _ => Routine.calm_pure _

/-- A logical connection to a host that pools serve is opened. -/
theorem calm_open (r : Router) {host : Host} (h : PooledProvider.accepts host = true) (props : Properties) :
    (r.connect host props).Calm R B := by
  rw [Router.connect_eq]
  refine Routine.calm_bind (hB.calm_provide _ _ _ _) fun answer => Routine.calm_bind ?_ fun p => ?_
  · cases answer with
    | error e => exact Routine.calm_pure _
    | ok l =>
      rw [Split.leaveConnect_run]
      refine Routine.calm_bind Routine.calm_get fun w => ?_
      rw [if_neg (by rw [Split.needsIdentity_of_accepts h]; exact Bool.false_ne_true)]
      exact Routine.calm_pure _
  · split
    · exact Routine.calm_pure _
    · exact hB.calm_enter _ _ _ _ _

theorem calm_start (r : Router) : (r.start : Routine (World D) Unit).Calm R B := by
  refine Routine.calm_bind Routine.calm_now fun now =>
    Routine.calm_bind (Routine.calm_modify fun w => hB.cache _ w) fun _ => ?_
  refine Routine.calm_bind ?_ fun _ => hB.calm_log _ _
  unfold Router.startSweeping
  split
  · refine Routine.calm_bind hB.calm_poolKeeper.calm_startWorker fun started => ?_
    split
    · exact hB.calm_log _ _
    · exact Routine.calm_pure _
  · exact Routine.calm_pure _

theorem calm_shutdown (r : Router) : (r.shutdown : Routine (World D) Unit).Calm R B := by
  refine Routine.calm_bind hB.calm_poolKeeper.calm_stopWorker fun _ => Routine.calm_bind ?_ fun _ => hB.calm_log _ _
  unfold Providers.release
  split
  · refine Routine.calm_bind Keeper.calm_look fun c => ?_
    exact Routine.calm_bind hB.calm_poolKeeper.calm_clear fun _ => hB.calm_log _ _
  · exact Routine.calm_pure _

theorem calm_finishSplit : Split.Calm R B (Split.finish : Split D Unit) := by
  have hslot : ∀ slot : Option HostLink, Split.Calm R B (Split.letGo slot : Split D Unit) := fun slot => by
    cases slot with
    | some l => exact Split.calm_world (hB.toIndifferent.calm_letGo l.1)
    | none => exact Split.calm_pure _
  refine Split.calm_bind ?_ fun _ => Split.calm_bind ?_ fun _ => ?_
  · exact Split.calm_bind (Split.calm_pure _) fun _ => Split.calm_get_bind fun s => Split.calm_modify_bind (hslot _)
  · exact Split.calm_bind (Split.calm_pure _) fun _ => Split.calm_get_bind fun s => Split.calm_modify_bind (hslot _)
  · refine Split.calm_get_bind fun s => Split.calm_modify_bind ?_
    cases s.stale with
    | some l => exact Split.calm_world (hB.toIndifferent.calm_letGo l)
    | none => exact Split.calm_pure _

/-- A logical connection is given up. -/
theorem calm_finish (c : Connection Splitter D) (v : Service) :
    ((c.finish fun s => discard (Split.finish.run s)).run v).Calm R B := by
  have hservice : Act.Calm R B (Service.finish : Act D Unit) := by
    refine Act.calm_get_bind fun w => Act.calm_modify_bind ?_
    cases w.link? with
    | some earlier => exact Act.calm_world (hB.toIndifferent.calm_letGo earlier)
    | none => exact Act.calm_pure _
  have hplugins : ∀ chain : Chain Splitter (Act D),
      Act.Calm R B (chain.forM fun p => discard (Split.finish.run p.2)) := by
    intro chain
    induction chain with
    | nil => exact Act.calm_pure _
    | cons p chain ih =>
      exact Act.calm_bind (Act.calm_bind (hB.calm_finishSplit p.2) fun _ => Act.calm_pure _) fun _ => ih
  exact Act.calm_bind (hplugins c.chain) (fun _ => hservice) v

end World.Aloof

end Opening

end ReplicaRouter
