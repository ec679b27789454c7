import ReplicaRouter.Connection
import ReplicaRouter.Proofs.Handling
/-
Sessions of a logical connection with read/write splitting. A leg is one call of the application, a run
is a sequence of legs, with others at work between them and meanwhile.
Main statements: a call is refused or passes to the current link and back (`Leg.Taken.course`), and a leg
of a run stands between the runs before and after it (`Run.split`).
-/
namespace ReplicaRouter

variable {D : Type}

/-- A logical connection with read/write splitting, at work. -/
@[ext]
structure Session (D : Type) extends Stand D where
  /-- The host it was opened against. -/
  host : Host
  /-- The properties it was opened with. -/
  props : Properties
  /-- The read-only mode that the application set last. -/
  mode : Bool
  /-- Whether the application closed it. -/
  closed : Bool

namespace Session

variable [Backend D]

/-- The logical connection as the application holds it. -/
def connection (s : Session D) : Connection Splitter D where
  chain := [(Split.plugin, s.splitter)]
  host := s.host
  props := s.props
  readOnly := s.mode
  closed := s.closed

theorem toStand_eq {s s' : Session D} (hp : s'.toPlace = s.toPlace)
    (hx : s'.connection.chain = [(Split.plugin, s.splitter)]) : s'.toStand = s.toStand :=
  Stand.eq_of_place hp (Prod.mk.inj (List.cons.inj hx).1).2

end Session

/-! ## Calls -/

/-- What the application gets to see of an answer. -/
def Operation.present (op : Operation) (ans : Answer) : Answer :=
  match op with
  | query _ => (ans.bind Reply.rows?).map .rows
  | update _ => (ans.bind Reply.count?).map .count
  | execute _ => ans
  | _ => ans.map fun _ => .done

/-- An error is seen as it is. -/
theorem Operation.present_error (op : Operation) (e : RouteError) : op.present (.error e) = .error e := by
  cases op <;> rfl

namespace Connection

/-- What the application's side remembers of an answer. -/
def remember (c : Connection Splitter D) (op : Operation) (ans : Answer) : Connection Splitter D :=
  match op, ans with
  | .setReadOnly readOnly, .ok _ => { c with readOnly }
  | .close, _ => { c with closed := true }
  | _, _ => c

theorem chain_remember (op : Operation) (ans : Answer) (c : Connection Splitter D) :
    (c.remember op ans).chain = c.chain := by
  cases op <;> cases ans <;> rfl

theorem closed_remember (op : Operation) (ans : Answer) (c : Connection Splitter D) :
    (c.remember op ans).closed = (c.closed || op == .close) := by
  cases op with
  | close => exact (Bool.or_true _).symm
  | _ => cases ans <;> exact (Bool.or_false _).symm

variable [Backend D]

/-- The call that asks for an operation. -/
def ask : Operation → Call Splitter D Answer
  | .query sql => do return (← query sql).map .rows
  | .update sql => do return (← update sql).map .count
  | .execute sql => execute sql
  | .setReadOnly readOnly => do return (← setReadOnly readOnly).map fun _ => .done
  | .setAutocommit autocommit => do return (← setAutocommit autocommit).map fun _ => .done
  | .commit => do return (← commit).map fun _ => .done
  | .rollback => do return (← rollback).map fun _ => .done
  | .close => do return (← close).map fun _ => .done

variable {others : World D → World D → Prop} {c c' : Connection Splitter D} {p q : Place D} {ans : Answer}

theorem dispatch_run (op : Operation) (c : Connection Splitter D) : (dispatch op).run c =
    if c.closed then pure (.error closedError, c)
    else c.chain.execute Service.execute op >>= fun r => pure (r.1, { c with chain := r.2 }) := by
  cases hc : c.closed <;> simp [dispatch, hc]

/-- Apart from a close that has nothing to do, a call dispatches its operation. -/
theorem ask_run (op : Operation) (c : Connection Splitter D) : (ask op).run c =
    if op = .close ∧ c.closed = true then pure (.ok .done, c)
    else (dispatch op).run c >>= fun r => pure (op.present r.1, r.2.remember op r.1) := by
  cases op with
  | query sql => simp [ask, query, Operation.present, remember]
  | update sql => simp [ask, update, Operation.present, remember]
  | execute sql => simp [ask, execute, Operation.present, remember]
  | close =>
    cases hc : c.closed with
    | true => simp [ask, close, hc, Except.map]
    | false =>
      simp only [ask, close, StateT.run_bind, StateT.run_get, pure_bind, hc, Bool.false_eq_true, and_false, if_false,
        bind_assoc]
      refine bind_congr fun ⟨r, d⟩ => ?_
      cases r <;> rfl
  | setReadOnly | setAutocommit | commit | rollback =>
    simp only [ask, setReadOnly, setAutocommit, commit, rollback, reduceCtorEq, false_and, if_false, StateT.run_bind,
      bind_assoc]
    refine bind_congr fun ⟨r, d⟩ => ?_
    cases r <;> rfl

theorem ends_dispatch {op : Operation} (h : Act.EndsOver others (dispatch op) c p ans c' q) :
    (c.closed = true ∧ ans = .error closedError ∧ c' = c ∧ q = p) ∨
      c.closed = false ∧ ∃ chain, Act.Ends others (c.chain.execute Service.execute op) p (ans, chain) q ∧
        c' = { c with chain } := by
  rw [Act.EndsOver, dispatch_run] at h
  split at h
  · next hc =>
    obtain ⟨he, rfl⟩ := Act.ends_pure.1 h
    obtain ⟨rfl, rfl⟩ := Prod.mk.inj he
    exact .inl ⟨hc, rfl, rfl, rfl⟩
  · next hc =>
    obtain ⟨⟨r, chain⟩, u, hx, h⟩ := Act.ends_bind.1 h
    obtain ⟨he, rfl⟩ := Act.ends_pure.1 h
    obtain ⟨rfl, rfl⟩ := Prod.mk.inj he
    exact .inr ⟨Bool.eq_false_iff.2 hc, chain, hx, rfl⟩

theorem ends_ask {op : Operation} (h : Act.EndsOver others (ask op) c p ans c' q) :
    (op = .close ∧ c.closed = true ∧ ans = .ok .done ∧ c' = c ∧ q = p) ∨
      ∃ r d, Act.EndsOver others (dispatch op) c p r d q ∧ ans = op.present r ∧ c' = d.remember op r := by
  rw [Act.EndsOver, ask_run] at h
  split at h
  · next hidle =>
    obtain ⟨he, rfl⟩ := Act.ends_pure.1 h
    obtain ⟨rfl, rfl⟩ := Prod.mk.inj he
    exact .inl ⟨hidle.1, hidle.2, rfl, rfl, rfl⟩
  · obtain ⟨⟨r, d⟩, u, hd, h⟩ := Act.ends_bind.1 h
    obtain ⟨he, rfl⟩ := Act.ends_pure.1 h
    obtain ⟨rfl, rfl⟩ := Prod.mk.inj he
    exact .inr ⟨r, d, hd, rfl, rfl⟩

end Connection

/-! ## Passing the chain -/

variable [Backend D] {others : World D → World D → Prop}

/-- A request passes a chain of nothing but read/write splitting: it is answered on the way in, or comes
to the end of the chain and its answer comes back. -/
theorem Split.ends_through {Req Ans : Type}
    {hook : Plugin Splitter (Act D) → Req → Split D (Handling (Split D) Req Ans)} {last : Req → Act D Ans}
    {req : Req} {x : Splitter} {p q : Place D} {ans : Ans} {chain : Chain Splitter (Act D)}
    (h : Act.Ends others (Chain.through hook last [(Split.plugin, x)] req) p (ans, chain) q) :
    ∃ x' hd s₁, Split.Ends others (hook Split.plugin req) ⟨p, x⟩ hd s₁ ∧ chain = [(Split.plugin, x')] ∧
      match hd with
      | .answer a => ans = a ∧ s₁ = ⟨q, x'⟩
      | .forward req leave => ∃ r p₂, Act.Ends others (last req) s₁.toPlace r p₂ ∧
          Split.Ends others (leave r) ⟨p₂, s₁.splitter⟩ ans ⟨q, x'⟩ := by
  obtain ⟨⟨hd, x₁⟩, p₁, h1, h⟩ := Act.ends_bind.1 h
  cases hd with
  | answer a =>
    obtain ⟨he, rfl⟩ := Act.ends_pure.1 h
    obtain ⟨rfl, rfl⟩ := Prod.mk.inj he
    exact ⟨x₁, _, ⟨q, x₁⟩, h1, rfl, rfl, rfl⟩
  | forward req leave =>
    obtain ⟨⟨r, inner⟩, p₂, h2, h⟩ := Act.ends_bind.1 h
    obtain ⟨r', p₃, h3, h2⟩ := Act.ends_bind.1 h2
    obtain ⟨he, rfl⟩ := Act.ends_pure.1 h2
    obtain ⟨rfl, rfl⟩ := Prod.mk.inj he
    obtain ⟨⟨a, x₂⟩, p₄, h4, h⟩ := Act.ends_bind.1 h
    obtain ⟨he, rfl⟩ := Act.ends_pure.1 h
    obtain ⟨rfl, rfl⟩ := Prod.mk.inj he
    exact ⟨x₂, _, ⟨p₁, x₁⟩, h1, rfl, r, p₂, h3, h4⟩

/-! ## Legs -/

/-- One call of the application, with its answer and the session before and after it. -/
structure Leg (D : Type) where
  before : Session D
  op : Operation
  answer : Answer
  after : Session D

namespace Leg

/-- The call can go like this. -/
def Taken (others : World D → World D → Prop) (k : Leg D) : Prop :=
  Act.EndsOver others (Connection.ask k.op) k.before.connection k.before.toPlace
    k.answer k.after.connection k.after.toPlace

/-- The operation passes to the current link and its answer comes back: the link is prepared in the
first stand, and it has answered in the second. -/
structure Passes (others : World D → World D → Prop) (k : Leg D) (s₁ : Stand D) (ans : Answer) (s₂ : Stand D) :
    Prop where
  free : k.before.closed = false
  entered : Split.Ends others (Split.plugin.onExecute k.op) k.before.toStand
    (.forward k.op (Split.leaveFor k.op)) s₁
  performed : Act.Ends others (Service.execute k.op) s₁.toPlace ans s₂.toPlace
  kept : s₂.splitter = s₁.splitter
  left : Split.Ends others (Split.leaveFor k.op ans) s₂ ans k.after.toStand
  answer : k.answer = k.op.present ans
  closed' : k.after.closed = (k.op == .close)

/-- The operation of a call runs over a link. -/
def RunsOver (others : World D → World D → Prop) (k : Leg D) (l : Link) : Prop :=
  ∃ s₁ ans s₂, k.Passes others s₁ ans s₂ ∧ s₁.service.link? = some l

/-- How a call can go. -/
inductive Course (others : World D → World D → Prop) (k : Leg D) : Prop
  | idle (closed : k.before.closed = true) (stays : k.after.toStand = k.before.toStand)
      (closed' : k.after.closed = true)
      (answer : k.answer = .error Connection.closedError ∨ k.op = .close ∧ k.answer = .ok .done)
  | refused {e : RouteError} (free : k.before.closed = false) (refuses : k.before.Refuses k.op e k.after.toStand)
      (free' : k.after.closed = false) (answer : k.answer = .error e)
      (entered : Split.Ends others (Split.plugin.onExecute k.op) k.before.toStand (.answer (.error e))
        k.after.toStand)
  | passed {s₁ s₂ : Stand D} {ans : Answer} (passes : k.Passes others s₁ ans s₂)

theorem Passes.op_ne_close {k : Leg D} {s₁ s₂ : Stand D} {ans : Answer} (h : k.Passes others s₁ ans s₂)
    (hc : k.after.closed = false) : k.op ≠ .close := by
  intro hop
  rw [h.closed', hop] at hc
  cases hc

theorem Passes.op_eq_close {k : Leg D} {s₁ s₂ : Stand D} {ans : Answer} (h : k.Passes others s₁ ans s₂)
    (hc : k.after.closed ≠ false) : k.op = .close := by
  rw [h.closed', ne_eq, Bool.not_eq_false] at hc
  exact eq_of_beq hc

variable [Bystanders others]

theorem Passes.prepares {k : Leg D} {s₁ s₂ : Stand D} {ans : Answer} (h : k.Passes others s₁ ans s₂) :
    k.before.Prepares k.op s₁ := by
  rcases Split.ends_onExecute h.entered with ⟨e, he, -⟩ | ⟨-, hp⟩
  · cases he
  · exact hp

theorem Passes.performs {k : Leg D} {s₁ s₂ : Stand D} {ans : Answer} (h : k.Passes others s₁ ans s₂) :
    s₁.Performs k.op ans s₂.toPlace :=
  Service.ends_execute h.performed

/-- Before a close nothing is done. -/
theorem Passes.eq_of_close {k : Leg D} {s₁ s₂ : Stand D} {ans : Answer} (h : k.Passes others s₁ ans s₂)
    (hop : k.op = .close) :
    s₁ = k.before.toStand := by
  have hp := h.prepares
  rw [hop] at hp
  cases hp with
  | close => rfl
  | plain plain => cases plain

/-- The links are where they were when the operation has run. -/
theorem Passes.seats_eq {k : Leg D} {s₁ s₂ : Stand D} {ans : Answer} (h : k.Passes others s₁ ans s₂) :
    s₂.seats = s₁.seats := by
  rw [Stand.seats, h.performs.current_eq, h.kept]; rfl

/-- The link that an operation runs on is current after the call. -/
theorem Passes.current_eq {k : Leg D} {s₁ s₂ : Stand D} {ans : Answer} (h : k.Passes others s₁ ans s₂) :
    k.after.service.current = s₁.service.current :=
  (Split.leaveFor_alone h.left).1.trans h.performs.current_eq

/-- The service follows what the link answered. -/
theorem Passes.transaction_eq {k : Leg D} {s₁ s₂ : Stand D} {ans : Answer} (h : k.Passes others s₁ ans s₂) :
    k.after.service.transaction = s₁.service.transaction.follow k.op ans :=
  (Split.leaveFor_alone h.left).2.1.trans h.performs.transaction_eq

theorem Passes.providers_eq {k : Leg D} {s₁ s₂ : Stand D} {ans : Answer} (h : k.Passes others s₁ ans s₂) :
    k.after.service.providers = s₁.service.providers :=
  (Split.leaveFor_alone h.left).2.2.trans h.performs.providers_eq

/-- What passes and does not end in a failover leaves the mode and the links as they were prepared. -/
theorem Passes.stays {k : Leg D} {s₁ s₂ : Stand D} {ans : Answer} (h : k.Passes others s₁ ans s₂) (hop : k.op ≠ .close)
    (calm : ans.isFailover = false) : k.after.splitter = s₁.splitter ∧ k.after.seats = s₁.seats := by
  rcases Split.ends_leaveFor hop h.left with ⟨-, he⟩ | ⟨hf, -⟩
  · refine ⟨?_, by rw [← he]; exact h.seats_eq⟩
    rw [← he]
    exact h.kept
  · rw [calm] at hf; cases hf

theorem Taken.course {k : Leg D} (h : k.Taken others) : k.Course others := by
  rcases Connection.ends_ask h with ⟨hop, hc, hans, hs, hp⟩ | ⟨r, d, hd, hans, hs⟩
  · exact .idle hc (Session.toStand_eq hp (congrArg Connection.chain hs))
      ((congrArg Connection.closed hs).trans hc) (.inr ⟨hop, hans⟩)
  · rcases Connection.ends_dispatch hd with ⟨hc, rfl, rfl, hp⟩ | ⟨hc, chain, hx, rfl⟩
    · have hchain : k.after.connection.chain = [(Split.plugin, k.before.splitter)] := by
        rw [hs, Connection.chain_remember]; rfl
      have hclosed : k.after.connection.closed = true := by
        rw [hs, Connection.closed_remember, show k.before.connection.closed = true from hc, Bool.true_or]
      exact .idle hc (Session.toStand_eq hp hchain) hclosed
        (.inl (hans.trans (Operation.present_error _ _)))
    · -- read/write splitting decides whether the operation passes
      obtain ⟨x', hd, s₁, he, rfl, hm⟩ := Split.ends_through hx
      have hafter : k.after.toStand = ⟨k.after.toPlace, x'⟩ := by
        have hchain : k.after.connection.chain = [(Split.plugin, x')] := by
          rw [hs, Connection.chain_remember]
        exact Stand.eq_of_place rfl (Prod.mk.inj (List.cons.inj hchain).1).2
      have hclosed : k.after.closed = (k.op == .close) := by
        have hcl : k.after.connection.closed = (k.before.connection.closed || k.op == .close) := by
          rw [hs, Connection.closed_remember]
        exact hcl.trans (by rw [show k.before.connection.closed = false from hc, Bool.false_or])
      rcases Split.ends_onExecute he with ⟨e, rfl, hr⟩ | ⟨rfl, hpre⟩
      · obtain ⟨rfl, rfl⟩ := hm
        refine .refused hc (by rw [hafter]; exact hr) (hclosed.trans hr.op_beq_close) ?_ (by rw [hafter]; exact he)
        exact hans.trans (Operation.present_error _ _)
      · obtain ⟨a, p₂, hx, hl⟩ := hm
        obtain rfl := (Split.returns_leaveFor hl).1
        have hpass : k.Passes others s₁ r ⟨p₂, s₁.splitter⟩ :=
          ⟨hc, he, hx, rfl, by rw [hafter]; exact hl, hans, hclosed⟩
        exact .passed hpass

/-- A call of an open connection that succeeds has passed, and leaves the mode as it was prepared. -/
theorem Taken.passes_of_ok {k : Leg D} (h : k.Taken others) (free : k.before.closed = false) (hop : k.op ≠ .close)
    (hans : k.answer.isOk = true) :
    ∃ s₁ s₂ ans, k.Passes others s₁ ans s₂ ∧ k.after.splitter = s₁.splitter := by
  rcases h.course with ⟨closed, _, _, _⟩ | ⟨_, _, _, answer⟩ | @⟨s₁, s₂, ans, passes⟩
  · rw [free] at closed; cases closed
  · rw [answer] at hans; cases hans
  · have hcalm : ans.isFailover = false := by
      cases ans with
      | ok _ => rfl
      | error e => rw [passes.answer, Operation.present_error] at hans; cases hans
    exact ⟨s₁, s₂, ans, passes, (passes.stays hop hcalm).1⟩

/-- What is not closed after a call was not closed before it. -/
theorem Taken.free {k : Leg D} (h : k.Taken others) (hc : k.after.closed = false) : k.before.closed = false := by
  rcases h.course with ⟨_, _, closed', _⟩ | ⟨free, _, _, _⟩ | ⟨passes⟩
  · rw [closed'] at hc; cases hc
  · exact free
  · exact passes.free

end Leg

/-! ## Opening -/

/-- While the first connection is set up, the service is left alone but for the node that it notes. -/
def Service.SameButHost (v v' : Service) : Prop := ∃ initialHost, v' = { v with initialHost }

namespace Service

variable {p q : Place D}

theorem SameButHost.refl (v : Service) : v.SameButHost v := ⟨v.initialHost, rfl⟩

theorem SameButHost.trans {u v w : Service} (h1 : u.SameButHost v) (h2 : v.SameButHost w) : u.SameButHost w := by
  obtain ⟨a, rfl⟩ := h1
  obtain ⟨b, rfl⟩ := h2
  exact ⟨b, rfl⟩

omit [Backend D] in
theorem ends_setInitialHost {host : Host} {a : Unit} (h : Act.Ends others (Service.setInitialHost host) p a q) :
    q.service = { p.service with initialHost := some host } ∧ p.world.Upkeep q.world := by
  obtain ⟨_, p1, h1, h⟩ := Act.ends_bind.1 h
  obtain ⟨h1, hv1⟩ := Act.ends_world.1 h1
  have hu1 : p.world.Upkeep p1.world := (World.keeps_log _ _).ends h1
  rw [Act.ends_modify.1 h, hv1]
  exact ⟨rfl, hu1⟩

variable [Bystanders others]

/-- Asking a node for its name changes nothing but the world. -/
theorem ends_identify {l : Link} {r : Except RouteError (Option Host)}
    (h : Act.Ends others (Service.identify l) p r q) : q.service = p.service ∧ p.world.Grows q.world := by
  obtain ⟨w, p1, h1, h⟩ := Act.ends_bind.1 h
  obtain ⟨h1, hv1⟩ := Act.ends_world.1 h1
  obtain ⟨rfl, ht1, hw1⟩ := Routine.ends_get.1 h1
  obtain rfl : p1 = p := Place.ext hv1 ht1 hw1
  split at h
  · rw [(Act.ends_pure.1 h).2]; exact ⟨rfl, .refl _⟩
  · next query _ =>
    obtain ⟨ans, p2, h2, h⟩ := Act.ends_bind.1 h
    obtain ⟨h2, hv2⟩ := Act.ends_world.1 h2
    have hg2 : p1.world.Grows p2.world := by
      rcases (Link.meets_invoke l (.query query) p1.world).ends h2 with ⟨o, v, hv, hw⟩ | ⟨hw, -⟩
      · rw [hw]; exact hv.upkeep.grows.trans (.note _ v)
      · rw [hw]; exact .refl _
    split at h
    · rw [(Act.ends_pure.1 h).2]; exact ⟨hv2, hg2⟩
    · obtain ⟨w, p3, h3, h⟩ := Act.ends_bind.1 h
      obtain ⟨h3, hv3⟩ := Act.ends_world.1 h3
      obtain ⟨-, -, hw3⟩ := Routine.ends_get.1 h3
      rw [(Act.ends_pure.1 h).2, hv3, hw3]
      exact ⟨hv2, hg2⟩

end Service

namespace Split

variable [Bystanders others]

theorem ends_identifyInitial {req : ConnectRequest} {l : Link} {r : Except RouteError Unit} {p q : Place D}
    (h : Act.Ends others (identifyInitial req l) p r q) :
    p.service.SameButHost q.service ∧ p.world.Grows q.world := by
  obtain ⟨found, p1, h1, h⟩ := Act.ends_bind.1 h
  obtain ⟨hv1, hg1⟩ := Service.ends_identify h1
  have hsame : p.service.SameButHost p1.service := hv1 ▸ .refl _
  cases found with
  | error e => rw [(Act.ends_pure.1 h).2]; exact ⟨hsame, hg1⟩
  | ok host =>
    cases host with
    | none => rw [(Act.ends_pure.1 h).2]; exact ⟨hsame, hg1⟩
    | some host =>
      obtain ⟨_, p2, h2, h⟩ := Act.ends_bind.1 h
      obtain ⟨hv2, hu2⟩ := Service.ends_setInitialHost h2
      rw [(Act.ends_pure.1 h).2]
      exact ⟨hsame.trans ⟨some host, hv2⟩, hg1.trans hu2.grows⟩

theorem ends_leaveConnect {req : ConnectRequest} {ans r : Except RouteError Link} {s s' : Stand D}
    (h : Split.Ends others (leaveConnect req ans) s r s') :
    s'.splitter = s.splitter ∧ s.service.SameButHost s'.service ∧ s.world.Grows s'.world ∧
      ∀ l, r = .ok l → ans = .ok l := by
  cases ans with
  | error e =>
    obtain ⟨rfl, rfl⟩ := ends_pure.1 h
    exact ⟨rfl, .refl _, .refl _, fun l hl => hl⟩
  | ok l =>
    replace h := after_service h
    replace h := after_world h
    split at h
    · obtain ⟨found, s3, h3, h⟩ := ends_bind.1 h
      obtain ⟨h3, hx3⟩ := ends_act.1 h3
      obtain ⟨hv3, hg3⟩ := ends_identifyInitial h3
      cases found with
      | ok _ =>
        obtain ⟨rfl, rfl⟩ := ends_pure.1 h
        exact ⟨hx3, hv3, hg3, fun l hl => hl⟩
      | error e =>
        obtain ⟨_, s4, h4, h⟩ := ends_bind.1 h
        obtain ⟨h4, hv4, hx4⟩ := ends_world.1 h4
        obtain ⟨rfl, rfl⟩ := ends_pure.1 h
        have hu4 := ((Link.meets_closeQuietly l s3.world).ends h4).1
        exact ⟨hx4.trans hx3, hv4 ▸ hv3, hg3.trans hu4.grows, fun l hl => nomatch hl⟩
    · obtain ⟨rfl, rfl⟩ := ends_pure.1 h
      exact ⟨rfl, .refl _, .refl _, fun l hl => hl⟩

end Split

/-- The steps of opening a connection: the end of the chain is asked for a link, what comes of that goes back
through the chain, and the link becomes current. -/
theorem Connection.ends_open_steps {x : Splitter} {host : Host} {props : Properties} {c : Connection Splitter D}
    {p q : Place D} (h : Act.Ends others (Connection.open [(Split.plugin, x)] host props) p (.ok c) q) :
    ∃ (req : ConnectRequest) (ans : Except RouteError Link) (l : Link) (v t : Place D) (u : Stand D),
      Act.Ends others (Connection.lastConnect req) p ans v ∧
        Split.Ends others (Split.leaveConnect req ans) ⟨v, x⟩ (.ok l) u ∧
        (t.service = u.service ∧ u.world.Noted t.world) ∧
        Act.Ends others (Service.setCurrent l (u.service.initialHost.getD host)) t () q ∧
        c = { chain := [(Split.plugin, u.splitter)], host, props } := by
  obtain ⟨v, p1, h1, h⟩ := Act.ends_bind.1 h
  obtain ⟨rfl, rfl⟩ := Act.ends_get.1 h1
  obtain ⟨⟨r, chain⟩, p2, h2, h⟩ := Act.ends_bind.1 h
  obtain ⟨x', hd, s₁, he, rfl, hm⟩ := Split.ends_through h2
  obtain ⟨rfl, rfl⟩ := Split.ends_pure.1 he
  obtain ⟨ans, p3, hlast, hleave⟩ := hm
  cases r with
  | error e => cases (Act.ends_pure.1 h).1
  | ok l =>
    obtain ⟨v, p5, h5, h⟩ := Act.ends_bind.1 h
    obtain ⟨rfl, rfl⟩ := Act.ends_get.1 h5
    obtain ⟨_, p6, h6, h⟩ := Act.ends_bind.1 h
    obtain ⟨h6, hv6⟩ := Act.ends_world.1 h6
    obtain ⟨_, p7, h7, h⟩ := Act.ends_bind.1 h
    obtain ⟨hc, rfl⟩ := Act.ends_pure.1 h
    exact ⟨_, ans, l, p3, p6, ⟨p2, x'⟩, hlast, hleave, ⟨hv6, World.noted_log h6⟩, h7, Except.ok.inj hc⟩

/-- A connection that is opened holds one link, a new one, which is current. -/
theorem Connection.ends_open [Bystanders others] {x : Splitter} {host : Host} {props : Properties}
    {c : Connection Splitter D} {p q : Place D}
    (h : Act.Ends others (Connection.open [(Split.plugin, x)] host props) p (.ok c) q) :
    c = { chain := [(Split.plugin, x)], host, props } ∧
      ∃ l initialHost, q.service = { p.service with current := some l, initialHost } ∧
        p.world.Newly q.world l.1 ∧ p.world.Grows q.world ∧
        (p.service.providers.pooled = none → ∃ c, l.1 = .direct c) := by
  obtain ⟨req, ans, l, v, t, u, hlast, hleave, ⟨hvt, hnt⟩, hset, rfl⟩ := Connection.ends_open_steps h
  obtain ⟨_, p1, h1, hlast⟩ := Act.ends_bind.1 hlast
  obtain ⟨rfl, rfl⟩ := Act.ends_get.1 h1
  obtain ⟨hlast, hv⟩ := Act.ends_world.1 hlast
  obtain ⟨hprov, hdirect⟩ := (Providers.meets_connect ..).ends hlast
  obtain ⟨hx, ⟨host', hvu⟩, hgu, hans⟩ := Split.ends_leaveConnect hleave
  obtain ⟨hvq, huq⟩ := Service.ends_setCurrent hset
  have hgrows := hgu.trans (hnt.upkeep.trans huq).grows
  refine ⟨by rw [hx], (l, u.service.initialHost.getD host), host', ?_,
    (hprov.newly l (hans l rfl)).later hgrows, hprov.upkeep.grows.trans hgrows, fun hn => hdirect hn l (hans l rfl)⟩
  rw [hvq, hvt, hvu, hv]

/-- The session has just been opened: nothing was current or kept, no transaction was open, and the
journal was empty. -/
structure Session.Opens (others : World D → World D → Prop) (s : Session D) : Prop where
  opened : ∃ (p : Place D) (x : Splitter),
    p.service.current = none ∧ p.service.transaction = {} ∧ p.world.journal = [] ∧
    x.writer = none ∧ x.reader = none ∧ x.stale = none ∧ x.readOnly = false ∧
    Act.Ends others (Connection.open [(Split.plugin, x)] s.host s.props) p (.ok s.connection) s.toPlace

/-- A new session holds one link, which is current. -/
theorem Session.Opens.fresh [Bystanders others] {s : Session D} (h : s.Opens others) :
    ∃ l, s.seats = ⟨some l, none, none, none⟩ ∧ s.world.Knows l.1 ∧
      (s.service.providers.pooled = none → ∃ c, l.1 = .direct c) ∧ s.service.transaction = {} ∧
      s.splitter.readOnly = false ∧ s.closed = false := by
  obtain ⟨p, x, hcur, htx, -, hw, hr, hst, hro, hopen⟩ := h.opened
  obtain ⟨hc, l, host, hv, hnew, -, hdirect⟩ := Connection.ends_open hopen
  have hx : s.splitter = x := (Prod.mk.inj (List.cons.inj (congrArg Connection.chain hc)).1).2
  refine ⟨l, ?_, hnew.knows, ?_, ?_, ?_, congrArg Connection.closed hc⟩
  · rw [Stand.seats, hv, hx, hw, hr, hst]
  · rw [hv]; exact hdirect
  · rw [hv]; exact htx
  · rw [hx]; exact hro

/-! ## Runs -/

/-- The session at a later time, with others at work meanwhile. -/
def Session.later (s : Session D) (t : Instant) (w : World D) : Session D := { s with clock := t, world := w }

/-- From one session to another by calls of the application one after the other, with others at work
between them. -/
inductive Run (others : World D → World D → Prop) (s : Session D) : List (Leg D) → Session D → Prop
  | start : Run others s [] s
  | aside {ks : List (Leg D)} {u : Session D} {t : Instant} {w : World D} (run : Run others s ks u)
      (change : others u.world w) (passed : u.clock ≤ t) : Run others s ks (u.later t w)
  | call {ks : List (Leg D)} {k : Leg D} (run : Run others s ks k.before) (taken : k.Taken others) :
      Run others s (ks ++ [k]) k.after

namespace Run

variable {s u s' : Session D} {ks js : List (Leg D)}

theorem trans (h1 : Run others s ks u) (h2 : Run others u js s') : Run others s (ks ++ js) s' := by
  induction h2 with
  | start => rw [List.append_nil]; exact h1
  | aside _ change passed ih => exact .aside ih change passed
  | call _ taken ih => rw [← List.append_assoc]; exact .call ih taken

/-- What is not closed at the end of a run was not closed before it. -/
theorem free [Bystanders others] (h : Run others s ks s') (hc : s'.closed = false) : s.closed = false := by
  induction h with
  | start => exact hc
  | aside _ _ _ ih => exact ih hc
  | call _ taken ih => exact ih (taken.free hc)

/-- A call of a run stands between the runs before and after it. -/
theorem split {k : Leg D} (h : Run others s (ks ++ k :: js) s') :
    Run others s ks k.before ∧ k.Taken others ∧ Run others k.after js s' := by
  generalize hl : ks ++ k :: js = l at h
  induction h generalizing js with
  | start => exact absurd hl (by simp)
  | aside _ change passed ih =>
    obtain ⟨h1, h2, h3⟩ := ih hl
    exact ⟨h1, h2, .aside h3 change passed⟩
  | @call l j run taken ih =>
    rcases List.eq_nil_or_concat js with rfl | ⟨js', j', rfl⟩
    · obtain ⟨rfl, he⟩ := List.append_inj' hl rfl
      obtain ⟨rfl, -⟩ := List.cons.inj he
      exact ⟨run, taken, .start⟩
    · rw [List.concat_eq_append, ← List.cons_append, ← List.append_assoc] at hl
      obtain ⟨hks, he⟩ := List.append_inj' hl rfl
      obtain ⟨rfl, -⟩ := List.cons.inj he
      obtain ⟨h1, h2, h3⟩ := ih hks
      rw [List.concat_eq_append]
      exact ⟨h1, h2, .call h3 taken⟩

end Run

end ReplicaRouter
