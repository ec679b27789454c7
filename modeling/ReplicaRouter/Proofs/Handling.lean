import ReplicaRouter.Proofs.Entering
import ReplicaRouter.Proofs.Switching
/-
How an operation passes read/write splitting: it is refused or prepared for before it runs on the
current link, and its answer is seen on its way back.
Main statements: `Split.ends_onExecute`, `Service.ends_execute` and `Split.ends_leaveFor`.
-/
namespace ReplicaRouter

variable {D : Type}

/-- The transaction state after an answer: a success counts, and a failover ends the transaction. -/
def TransactionState.follow (op : Operation) (ans : Answer) (t : TransactionState) : TransactionState :=
  match ans with
  | .ok _ => t.after op
  | .error e => if e.isFailover then t.closed else t

namespace Stand

/-- Load balancing did its part. -/
inductive Balances (s : Stand D) : Stand D → Prop
  | stays : Balances s s
  | rotates {q : Seats} {s' : Stand D} (mode : s.splitter.readOnly = true)
      (free : s.service.inTransaction = false) (rotates : s.seats.Rotates (s.Obtains s') q)
      (leads : s.Leads q s') : Balances s s'

/-- A current link that a failover left behind is switched away from, if it can be. -/
inductive Recovers (s : Stand D) : Except RouteError Unit → Stand D → Prop
  | sound (sound : ¬ s.seats.IsLost) : Recovers s (.ok ()) s
  | turns {r : Except RouteError Unit} {s' : Stand D} (lost : s.seats.IsLost)
      (turns : s.Turns s.splitter.readOnly r s') : Recovers s r s'

/-- An operation is refused, because a switch that it asks for or that it needs failed. -/
inductive Refuses (s : Stand D) : Operation → RouteError → Stand D → Prop
  | mode {readOnly : Bool} {e : RouteError} {s' : Stand D} (turns : s.Turns readOnly (.error e) s') :
      Refuses s (.setReadOnly readOnly) e s'
  | plain {op : Operation} {e : RouteError} {s' : Stand D} (plain : op.isPlain = true)
      (recovers : s.Recovers (.error e) s') : Refuses s op e s'

theorem Refuses.op_beq_close {s s' : Stand D} {op : Operation} {e : RouteError} (h : s.Refuses op e s') :
    (op == .close) = false := by
  cases h with
  | mode _ => rfl
  | plain plain _ => cases op <;> first | rfl | cases plain

/-- An operation is prepared for, and is going to run on the current link. -/
inductive Prepares (s : Stand D) : Operation → Stand D → Prop
  | mode {readOnly : Bool} {u : Stand D} (turns : s.Turns readOnly (.ok ()) u) :
      Prepares s (.setReadOnly readOnly) (u.withMode readOnly)
  | close : Prepares s .close s
  | plain {op : Operation} {u s' : Stand D} (plain : op.isPlain = true)
      (recovers : s.Recovers (.ok ()) u) (balances : u.Balances s') : Prepares s op s'

/-! ## What preparing leaves alone -/

section Alone

variable {s s' : Stand D} {op : Operation} {readOnly : Bool} {r : Except RouteError Unit}

theorem Turns.transaction_eq (h : s.Turns readOnly r s') : s'.service.transaction = s.service.transaction := by
  cases h with
  | fails _ leads => exact leads.transaction
  | succeeds _ _ leads _ => exact leads.transaction

theorem Turns.readOnly_eq (h : s.Turns readOnly r s') : s'.splitter.readOnly = s.splitter.readOnly := by
  cases h with
  | fails _ leads => exact leads.readOnly
  | succeeds _ _ leads _ => exact leads.readOnly

theorem Recovers.transaction_eq (h : s.Recovers r s') : s'.service.transaction = s.service.transaction := by
  cases h with
  | sound _ => rfl
  | turns _ turns => exact turns.transaction_eq

theorem Balances.transaction_eq (h : s.Balances s') : s'.service.transaction = s.service.transaction := by
  cases h with
  | stays => rfl
  | rotates _ _ _ leads => exact leads.transaction

theorem Refuses.transaction_eq {e : RouteError} (h : s.Refuses op e s') :
    s'.service.transaction = s.service.transaction := by
  cases h with
  | mode turns => exact turns.transaction_eq
  | plain _ recovers => exact recovers.transaction_eq

theorem Prepares.transaction_eq (h : s.Prepares op s') : s'.service.transaction = s.service.transaction := by
  cases h with
  | mode turns => exact turns.transaction_eq
  | close => rfl
  | plain _ recovers balances => exact balances.transaction_eq.trans recovers.transaction_eq

/-! Nothing is sent over a link meanwhile. -/

theorem Turns.upkeep (h : s.Turns readOnly r s') : s.world.Upkeep s'.world := by
  cases h with
  | fails _ leads => exact leads.upkeep
  | succeeds _ _ leads _ => exact leads.upkeep

theorem Recovers.upkeep (h : s.Recovers r s') : s.world.Upkeep s'.world := by
  cases h with
  | sound _ => exact .refl _
  | turns _ turns => exact turns.upkeep

theorem Balances.upkeep (h : s.Balances s') : s.world.Upkeep s'.world := by
  cases h with
  | stays => exact .refl _
  | rotates _ _ _ leads => exact leads.upkeep

theorem Refuses.upkeep {e : RouteError} (h : s.Refuses op e s') : s.world.Upkeep s'.world := by
  cases h with
  | mode turns => exact turns.upkeep
  | plain _ recovers => exact recovers.upkeep

theorem Prepares.upkeep (h : s.Prepares op s') : s.world.Upkeep s'.world := by
  cases h with
  | mode turns => exact turns.upkeep
  | close => exact .refl _
  | plain _ recovers balances => exact recovers.upkeep.trans balances.upkeep

end Alone

end Stand

/-! ## On the way in -/

section

variable {others : World D → World D → Prop} [Bystanders others] [Backend D] {s s' : Stand D} {op : Operation}

theorem Stand.Mends.recovers {r : Except RouteError Unit} (h : s.Mends others r s') : s.Recovers r s' := by
  cases h with
  | sound sound => exact .sound sound
  | switches lost noted switches => exact .turns lost ((Split.ends_switchTo switches).since noted.leads)

theorem Stand.Weighs.balances (h : s.Weighs others op s') : s.Balances s' := by
  cases h with
  | stays => exact .stays
  | rotates due rotates =>
    obtain ⟨q, hrotates, hleads⟩ := Split.ends_rotateReader rotates
    exact .rotates due.mode due.free hrotates hleads

/-- An operation is refused, or sent on as it is. -/
theorem Split.ends_onExecute {hd : OperationHandling D} (h : Split.Ends others (plugin.onExecute op) s hd s') :
    (∃ e, hd = .answer (.error e) ∧ s.Refuses op e s') ∨
      (hd = .forward op (leaveFor op) ∧ s.Prepares op s') := by
  cases enters_onExecute h with
  | unswitched switches => exact .inl ⟨_, rfl, .mode (ends_switchTo switches)⟩
  | switched switches => exact .inr ⟨rfl, .mode (ends_switchTo switches)⟩
  | closes => exact .inr ⟨rfl, .close⟩
  | unmended plain mends => exact .inl ⟨_, rfl, .plain plain mends.recovers⟩
  | mended plain mends weighs => exact .inr ⟨rfl, .plain plain mends.recovers weighs.balances⟩

end

/-! ## On the way back -/

namespace Split

variable {others : World D → World D → Prop} [Bystanders others] [Backend D] {s s' : Stand D} {op : Operation}
  {ans r : Answer}

/-- A failover is the one thing that the answer to an operation other than a close can change. -/
theorem ends_leaveFor (hop : op ≠ .close) (h : Split.Ends others (leaveFor op ans) s r s') :
    (ans.isFailover = false ∧ s = s') ∨
      (ans.isFailover = true ∧ s.Leads ⟨s.service.current, none, none, s.service.link?⟩ s' ∧
        ∀ l, s.seats.Keeps l → s.service.link? ≠ some l → s.world.Knows l → s'.world.Shut l) := by
  cases (returns_leaveFor h).2 with
  | passes _ calm => exact .inl ⟨calm, rfl⟩
  | @breaks _ _ u v _ _ failover noted discards leaves =>
    have hnoted := noted.leads
    obtain ⟨hdiscard, hshut⟩ := ends_discardKept discards
    have hleave := leads_setStale leaves
    have hlinkU : u.service.link? = s.service.link? := by rw [noted.service]
    have hlinkV : v.service.link? = s.service.link? :=
      (congrArg (fun p => p.current.map Prod.fst) hdiscard.seats).trans hlinkU
    -- the link that is left behind is the one that was current from the start
    rw [hdiscard.seats, hnoted.seats, hlinkV] at hleave
    refine .inr ⟨failover, (hnoted.trans hdiscard).trans hleave, fun l hk hne hknown => ?_⟩
    rw [hnoted.seats, hlinkU] at hshut
    exact (hshut l hk hne (hknown.mono hnoted.upkeep.grows)).mono hleave.upkeep.grows
  | closes => exact absurd rfl hop

theorem ends_leaveFor_close (h : Split.Ends others (leaveFor .close ans) s r s') :
    ∃ u, s.Leads ⟨s.service.current, none, none, none⟩ u ∧ s' = u.withMode false := by
  cases (returns_leaveFor h).2 with
  | passes open_ | breaks open_ => exact absurd rfl open_
  | @closes _ u v discards clears =>
    have hdiscard := (ends_discardKept discards).1
    have hclear := leads_setStale clears
    rw [hdiscard.seats] at hclear
    exact ⟨v, hdiscard.trans hclear, rfl⟩

/-- Nothing is sent over a link on the way back. -/
theorem leaveFor_upkeep (h : Split.Ends others (leaveFor op ans) s r s') : s.world.Upkeep s'.world := by
  by_cases hop : op = .close
  · subst hop
    obtain ⟨u, hl, rfl⟩ := ends_leaveFor_close h
    exact hl.upkeep
  · rcases ends_leaveFor hop h with ⟨-, rfl⟩ | ⟨-, hl, -⟩
    · exact .refl _
    · exact hl.upkeep

/-- The way back leaves the current link, the transaction state and the providers alone. -/
theorem leaveFor_alone (h : Split.Ends others (leaveFor op ans) s r s') :
    s'.service.current = s.service.current ∧ s'.service.transaction = s.service.transaction ∧
      s'.service.providers = s.service.providers := by
  by_cases hop : op = .close
  · subst hop
    obtain ⟨u, hl, rfl⟩ := ends_leaveFor_close h
    exact ⟨congrArg Seats.current hl.seats, hl.transaction, hl.providers⟩
  · rcases ends_leaveFor hop h with ⟨-, rfl⟩ | ⟨-, hl, -⟩
    · exact ⟨rfl, rfl, rfl⟩
    · exact ⟨congrArg Seats.current hl.seats, hl.transaction, hl.providers⟩

end Split

/-! ## At the end of the chain -/

/-- What running an operation on the current link comes to. -/
inductive Place.Performs (p : Place D) : Operation → Answer → Place D → Prop
  | missing {op : Operation} {e : RouteError} (none : p.service.link? = none) (calm : e.isFailover = false) :
      Performs p op (.error e) p
  | unsent {op : Operation} {l : Link} {e : RouteError} {q : Place D} (link : p.service.link? = some l)
      (open_ : op ≠ .close) (calm : e.isFailover = false) (service : q.service = p.service)
      (world : q.world = p.world) : Performs p op (.error e) q
  | sent {op : Operation} {l : Link} {o : Bool} {ans : Answer} {v : World D} {q : Place D}
      (link : p.service.link? = some l) (open_ : op ≠ .close) (aside : p.world.Aside v)
      (world : q.world = Journaled.note (.call (.invoke (p.world.connOf l) o op ans)) v)
      (service : q.service = { p.service with transaction := p.service.transaction.follow op ans }) :
      Performs p op ans q
  | closed {l : Link} {ans : Answer} {q : Place D} (link : p.service.link? = some l)
      (upkeep : p.world.Upkeep q.world) (shuts : p.world.Knows l → q.world.Shut l)
      (direct : ∀ c, l = .direct c → ∃ r v, p.world.Aside v ∧
        q.world = Journaled.note (.call (.close c r)) v ∧ ans = r.map fun _ => .done)
      (service : q.service = { p.service with transaction := p.service.transaction.follow .close ans }) :
      Performs p .close ans q

section

variable {p q : Place D} {op : Operation} {ans : Answer}

/-- Running an operation does not move the current link. -/
theorem Place.Performs.current_eq (h : p.Performs op ans q) :
    q.service.current = p.service.current := by
  cases h with
  | missing => rfl
  | unsent _ _ _ service _ => rw [service]
  | sent _ _ _ _ service => rw [service]
  | closed _ _ _ _ service => rw [service]

/-- The transaction state follows the answer. -/
theorem Place.Performs.transaction_eq (h : p.Performs op ans q) :
    q.service.transaction = p.service.transaction.follow op ans := by
  have hcalm : ∀ {e : RouteError} (t : TransactionState), e.isFailover = false → t = t.follow op (.error e) := by
    intro e t calm
    rw [TransactionState.follow, if_neg (by rw [calm]; exact Bool.false_ne_true)]
  cases h with
  | missing _ calm => exact hcalm _ calm
  | unsent _ _ calm service => rw [service]; exact hcalm _ calm
  | sent _ _ _ _ service => rw [service]
  | closed _ _ _ _ service => rw [service]

theorem Place.Performs.providers_eq (h : p.Performs op ans q) : q.service.providers = p.service.providers := by
  cases h with
  | missing => rfl
  | unsent _ _ _ service _ => rw [service]
  | sent _ _ _ _ service => rw [service]
  | closed _ _ _ _ service => rw [service]

/-- Running an operation adds to the journal. -/
theorem Place.Performs.grows (h : p.Performs op ans q) : p.world.Grows q.world := by
  cases h with
  | missing => exact .refl _
  | unsent _ _ _ _ world => rw [world]; exact .refl _
  | @sent _ _ _ _ v _ _ _ aside world => rw [world]; exact aside.upkeep.grows.trans (.note _ v)
  | closed _ upkeep => exact upkeep.grows

/-- Without a current link an operation fails, and nothing happens. -/
theorem Place.Performs.missing_of_none (h : p.Performs op ans q) (hl : p.service.link? = none) :
    ∃ e, ans = .error e ∧ q.world = p.world := by
  cases h with
  | @missing _ e => exact ⟨e, rfl, rfl⟩
  | unsent link => rw [hl] at link; cases link
  | sent link => rw [hl] at link; cases link
  | closed link => rw [hl] at link; cases link

/-- A failover is one of the current link. -/
theorem Place.Performs.link_of_isFailover (h : p.Performs op ans q) (hf : ans.isFailover = true) :
    ∃ l, p.service.link? = some l := by
  cases h with
  | missing _ calm => rw [Answer.isFailover, calm] at hf; cases hf
  | unsent link => exact ⟨_, link⟩
  | sent link => exact ⟨_, link⟩
  | closed link => exact ⟨_, link⟩

end

/-- An operation runs on the current link, and the transaction state follows its answer. -/
theorem Service.execute_run [Backend D] (op : Operation) (v : Service) : (execute op : Act D Answer).run v =
    match v.link? with
    | none => pure (.error (.connectionUnavailable "no current connection"), v)
    | some l => perform l op >>= fun ans => pure (ans, { v with transaction := v.transaction.follow op ans }) := by
  unfold execute
  rw [StateT.run_bind, StateT.run_get, pure_bind]
  cases v.link? with
  | none => rfl
  | some l =>
    dsimp only
    rw [StateT.run_bind, Act.world_run, bind_assoc]
    refine bind_congr fun ans => ?_
    rw [pure_bind]
    cases ans with
    | ok reply => rfl
    | error e =>
      unfold TransactionState.follow
      dsimp only
      cases e.isFailover with
      | true => rfl
      | false => rfl

section

variable {others : World D → World D → Prop} [Backend D] {p q : Place D} {op : Operation} {ans : Answer}

/-- How an operation is run: it fails without a current link, and else it is performed over that one. -/
inductive Place.Executes (others : World D → World D → Prop) (p : Place D) (op : Operation) : Answer → Place D → Prop
  | missing (none : p.service.link? = none) :
      Executes others p op (.error (.connectionUnavailable "no current connection")) p
  | runs {l : Link} {ans : Answer} {t : Instant} {w : World D} (link : p.service.link? = some l)
      (performs : Routine.Ends others (Service.perform l op) p.clock p.world ans t w) :
      Executes others p op ans ⟨{ p.service with transaction := p.service.transaction.follow op ans }, t, w⟩

namespace Service

theorem executes_execute (h : Act.Ends others (execute op) p ans q) : p.Executes others op ans q := by
  rw [Act.Ends, execute_run] at h
  split at h
  · next hnone =>
    obtain ⟨rfl, rfl⟩ := Act.ends_pure.1 h
    exact .missing hnone
  · next l hl =>
    obtain ⟨r, t, w, hperform, h⟩ := Routine.ends_bind.1 h
    obtain ⟨he, ht, hw⟩ := Routine.ends_pure.1 h
    obtain ⟨rfl, hv⟩ := Prod.mk.inj he
    obtain rfl : q = ⟨{ p.service with transaction := p.service.transaction.follow op ans }, t, w⟩ :=
      Place.ext hv ht hw
    exact .runs hl hperform

/-- Any operation but a close is sent over the link. -/
theorem perform_of_ne_close (l : Link) (hop : op ≠ .close) : perform (D := D) l op = l.invoke op := by
  cases op with
  | close => exact absurd rfl hop
  | _ => rfl

theorem ends_execute [Bystanders others] (h : Act.Ends others (execute op) p ans q) : p.Performs op ans q := by
  cases executes_execute h with
  | missing none => exact .missing none rfl
  | @runs l _ t w link performs =>
    by_cases hop : op = .close
    · subst hop
      obtain ⟨x, t', w', hclose, h⟩ := Routine.ends_bind.1 performs
      obtain ⟨rfl, -, rfl⟩ := Routine.ends_pure.1 h
      obtain ⟨hupkeep, hshut, hdirect⟩ := (Link.meets_close l p.world).ends hclose
      refine .closed link hupkeep hshut (fun c hlc => ?_) rfl
      obtain ⟨v, hv, hwv⟩ := hdirect c hlc
      exact ⟨x, v, hv, hwv, rfl⟩
    · rw [perform_of_ne_close l hop] at performs
      rcases (Link.meets_invoke l op p.world).ends performs with ⟨o, v, hv, hw⟩ | ⟨hw, e, rfl, hcalm⟩
      · exact .sent link hop hv hw rfl
      · refine .unsent link hop hcalm ?_ hw
        rw [TransactionState.follow, if_neg (by rw [hcalm]; exact Bool.false_ne_true)]

end Service

end

end ReplicaRouter
