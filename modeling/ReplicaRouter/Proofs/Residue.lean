import ReplicaRouter.Proofs.Opening
import ReplicaRouter.Proofs.Shutdown
import ReplicaRouter.Proofs.Stakes
import ReplicaRouter.Proofs.Tracking
/-
What a new logical connection finds in the session behind its link. It takes the session for a new one. But a pool
hands its connections on as they came back, so that the session may still be in a transaction, or without autocommit,
as an earlier logical connection left it.
Main statements: a session that is not as a new one was left so by a call of the application, or by the query that
asks for the node behind a connection (`Yard.marked_of_run`), and a new logical connection finds it as it was left
(`Yard.found_of_connect`).
-/
namespace ReplicaRouter

open World

variable {D α : Type}

/-! ## Which sessions are changed -/

theorem Entry.touched?_of_isMild {e : Entry} (h : e.isMild = true) : e.touched? = none := by
  unfold touched?
  split
  · rfl
  · next c o op reply hmode =>
    cases op with
    | setReadOnly readOnly => exact (hmode readOnly rfl).elim
    | _ => cases h
  · rfl

namespace World

/-- Between two worlds operations changed no sessions but those behind these connections. -/
def Touches (A : Set ConnId) (w v : World D) : Prop :=
  ∃ es, v.journal = es ++ w.journal ∧ ∀ e ∈ es, ∀ c, e.touched? = some c → c ∈ A

variable {A B : Set ConnId} {u v w : World D} {c : ConnId}

theorem Touches.of_journal_eq (h : v.journal = w.journal) : w.Touches A v := ⟨[], h, nofun⟩

theorem Touches.trans (h1 : u.Touches A v) (h2 : v.Touches A w) : u.Touches A w := by
  obtain ⟨es, hj, hes⟩ := h1
  obtain ⟨fs, hk, hfs⟩ := h2
  refine ⟨fs ++ es, by rw [hk, hj, List.append_assoc], fun e he => ?_⟩
  exact (List.mem_append.1 he).elim (hfs e) (hes e)

instance (A : Set ConnId) : Frame (Touches (D := D) A) (Touches A) := ⟨fun _ => .of_journal_eq rfl, .trans, id⟩

theorem Touches.mono (h : w.Touches A v) (hA : A ⊆ B) : w.Touches B v := by
  obtain ⟨es, hj, hes⟩ := h
  exact ⟨es, hj, fun e he c hc => hA (hes e he c hc)⟩

theorem Touches.note {e : Entry} (he : ∀ c, e.touched? = some c → c ∈ A) (w : World D) :
    w.Touches A (Journaled.note e w) :=
  ⟨[e], rfl, fun _ hm => List.mem_singleton.1 hm ▸ he⟩

theorem Touches.suffix (h : w.Touches A v) : w.journal <:+ v.journal := by
  obtain ⟨es, hj, -⟩ := h
  exact hj ▸ List.suffix_append es w.journal

/-- Whatever does no more than looking after pools, handles and connections changes no session. -/
theorem aloof_touches (A : Set ConnId) : Aloof (Touches (D := D) A) where
  driver _ _ := .of_journal_eq rfl
  note mild w := .note (fun _ h => by rw [Entry.touched?_of_isMild mild] at h; cases h) w
  pool _ _ _ _ := .of_journal_eq rfl
  handle _ _ _ := .of_journal_eq rfl
  orphans _ _ := .of_journal_eq rfl
  cache _ _ := .of_journal_eq rfl
  create _ _ := .of_journal_eq rfl
  connect _ _ _ _ w := .note (fun _ h => by cases h) w
  count _ _ _ := .of_journal_eq rfl
  append _ _ := .of_journal_eq rfl

/-- A session that no operation changed is spared. -/
theorem Touches.spares (h : w.Touches A v) (hc : c ∉ A) (distinct : v.opened.Nodup) (alive : c ∉ v.hungUp) :
    w.Spares v c := by
  obtain ⟨es, hj, hes⟩ := h
  exact spares_of_append hj (fun e he htouched => hc (hes e he c htouched)) distinct (not_shut_of_closedConn? alive)

/-- A session that no operation changed stays as it was, unless its connection is opened. -/
theorem Touches.same (h : w.Touches A v) (hc : c ∉ A) (alive : c ∉ v.hungUp) (unopened : c ∉ v.opened) :
    v.transactionOf c = w.transactionOf c := by
  obtain ⟨es, hj, hes⟩ := h
  rw [transactionOf_of_append hj (fun e he htouched => hc (hes e he c htouched)) (not_shut_of_closedConn? alive)]
  refine if_neg fun hopened => unopened ?_
  rw [opened, hj, List.filterMap_append]
  exact List.mem_append_left _ hopened

/-- A session that was new and that no operation changed is as a new one. -/
theorem Touches.new (h : w.Touches A v) (hc : c ∉ A) (hnew : w.transactionOf c = {}) : v.transactionOf c = {} := by
  obtain ⟨es, hj, hes⟩ := h
  rw [transactionOf, hj, List.foldr_append, show w.journal.foldr (TransactionState.afterEntry c) {} = {} from hnew]
  exact TransactionState.foldr_afterEntry_new fun e he htouched => hc (hes e he c htouched)

/-- Where nothing happened yet every session is as a new one. -/
theorem Pristine.new (h : w.Pristine) (c : ConnId) : w.transactionOf c = {} := by
  refine TransactionState.foldr_afterEntry_new fun e he htouched => ?_
  unfold Entry.touched? at htouched
  split at htouched
  · cases htouched
  · cases (h.journal _ he).2
  · cases htouched

end World

/-! ## What opening a logical connection writes down -/

section Opening

variable {calls : World D → Routine (World D) Unit → Prop} {others : World D → World D → Prop}
  {s s' : Schedule (World D)} {A : Set ConnId} {c : ConnId} {l : Link} {protocol : String} {host : Host}
  {props : Properties}

/-- A call opens a connection to a host of several nodes and asks it for the node behind it, and changes no session
otherwise. -/
inductive World.Asks (host : Host) (c : ConnId) (w v : World D) : Prop
  | mk {protocol : String} {props : Properties} {sql : String} {wasOpen : Bool} {reply : Reply} {m n : World D}
      (several : PooledProvider.accepts host = false) (before : w.Touches ∅ m)
      (between : World.Touches ∅ (Journaled.note (.call (.connect protocol host props (some c))) m) n)
      (after : World.Touches ∅ (Journaled.note (.call (.invoke c wasOpen (.query sql) (.ok reply))) n) v)

variable (hstirs : Stirs calls others (Touches (D := D) ∅)) (hs : s.Still (Touches ∅))
include hstirs hs

theorem Schedule.Still.touches {x : Routine (World D) α} {r : Option α} (hx : x.Calm (fun _ _ => True) (Touches A))
    (hplays : x.Plays calls others s r s') : s.world.Touches A s'.world :=
  Outcome.Plays.calm hstirs (fun _ _ h => h.mono (Set.empty_subset A)) hs (hx s.world s.clock) hplays

/-- A call to the driver changes no session before it is written down. -/
theorem Schedule.Still.touches_call {x : Routine D α} {entry : α → Entry} {a : α}
    (hplays : (do let a ← x.focus backendPart; Routine.note (entry a); return a : Routine (World D) α).Plays
      calls others s
      (some a) s') : ∃ m, s.world.Touches ∅ m ∧ s'.world = Journaled.note (entry a) m := by
  obtain ⟨m, hm, rfl⟩ := plays_call hplays
  exact ⟨m.world, hs.touches hstirs (calm_driver (aloof_touches ∅).driver x) hm, rfl⟩

variable [Backend D]

theorem Schedule.Still.touches_send {op : Operation} {r : Except RouteError Reply}
    (hplays : (send c op).Plays calls others s (some r) s') :
    ∃ wasOpen m, s.world.Touches ∅ m ∧ s'.world = Journaled.note (.call (.invoke c wasOpen op r)) m := by
  have hplays : (do
      let r ← (Backend.invoke c op).focus backendPart
      Routine.note (.call (.invoke c (!s.world.isClosed c) op r))
      return r : Routine (World D) _).Plays calls others s (some r) s' := hplays
  obtain ⟨m, hm, hsent⟩ := hs.touches_call hstirs hplays
  exact ⟨_, m, hm, hsent⟩

/-- Who is provided with a link to a connection of its own has just opened it, and handles are for single nodes. -/
theorem Schedule.Still.touches_provide {ps : Providers}
    (hplays : (ps.connect protocol host props).Plays calls others s (some (.ok l)) s') :
    s.world.Touches ∅ s'.world ∧ match l with
      | .direct c => ∃ m, s.world.Touches ∅ m ∧
        s'.world = Journaled.note (.call (.connect protocol host props (some c))) m
      | .pooled _ => PooledProvider.accepts host = true := by
  refine ⟨hs.touches hstirs ((aloof_touches ∅).calm_provide ps protocol host props) hplays, ?_⟩
  rcases Routine.plays_bind.1 hplays with ⟨hr, -⟩ | ⟨_, m, hlog, hplays⟩
  · cases hr
  have hm := hs.touches hstirs ((aloof_touches ∅).calm_log _ _) hlog
  have hstill : m.Still (Touches ∅) := Outcome.Plays.still hstirs hs hlog
  -- a host that the pools accept is served from there, any other one by the driver
  cases hfor : ps.pooledFor? host with
  | some provider =>
    rw [hfor] at hplays
    obtain ⟨r, hr, -⟩ := Routine.plays_bind_pure.1 hplays
    obtain ⟨r, rfl, hr⟩ := Option.map_eq_some_iff.1 hr.symm
    cases r with
    | error e => cases hr
    | ok h =>
      cases hr
      exact (Option.filter_eq_some_iff.1 hfor).2
  | none =>
    rw [hfor] at hplays
    obtain ⟨r, hr, hdial⟩ := Routine.plays_bind_pure.1 hplays
    obtain ⟨r, rfl, hr⟩ := Option.map_eq_some_iff.1 hr.symm
    cases r with
    | error e => cases hr
    | ok d =>
      cases hr
      obtain ⟨n, hn, hdialled⟩ := hstill.touches_call hstirs hdial
      exact ⟨n, hm.trans hn, hdialled⟩

/-- A node is known only from the answer to a query. -/
theorem Schedule.Still.touches_node {known : Host}
    (hplays : (Link.direct c).node.Plays calls others s (some (.ok (some known))) s') :
    ∃ sql wasOpen reply m, s.world.Touches ∅ m ∧
      s'.world = Journaled.note (.call (.invoke c wasOpen (.query sql) (.ok reply))) m := by
  unfold Link.node at hplays
  replace hplays := Routine.plays_get_bind.1 hplays
  split at hplays
  · cases (Routine.plays_pure.1 hplays).1
  · next sql _ =>
    rcases Routine.plays_bind.1 hplays with ⟨hr, -⟩ | ⟨answer, m, hsend, hplays⟩
    · cases hr
    obtain ⟨wasOpen, n, hn, hsent⟩ := hs.touches_send hstirs hsend
    cases answer with
    | error e => cases (Routine.plays_pure.1 hplays).1
    | ok reply =>
      refine ⟨sql, wasOpen, reply, n, hn, ?_⟩
      split at hplays
      · cases (Routine.plays_pure.1 hplays).1
      · rw [(Outcome.plays_done.1 hplays).2, ← hsent]

theorem Schedule.Still.touches_identify {req : ConnectRequest} {v v' : Service} {u : Unit}
    (hplays : ((Split.identifyInitial req (.direct c)).run v).Plays calls others s (some (.ok u, v')) s') :
    v'.transaction = v.transaction ∧ ∃ sql wasOpen reply m, s.world.Touches ∅ m ∧
      World.Touches ∅ (Journaled.note (.call (.invoke c wasOpen (.query sql) (.ok reply))) m) s'.world := by
  rw [Split.identifyInitial_run] at hplays
  rcases Routine.plays_bind.1 hplays with ⟨hr, -⟩ | ⟨answer, m, hnode, hplays⟩
  · cases hr
  rcases answer with e | _ | known
  · cases (Routine.plays_pure.1 hplays).1
  · cases (Routine.plays_pure.1 hplays).1
  · obtain ⟨sql, wasOpen, reply, n, hn, hsent⟩ := hs.touches_node hstirs hnode
    have hstill : m.Still (Touches ∅) := Outcome.Plays.still hstirs hs hnode
    rcases Routine.plays_bind.1 hplays with ⟨hr, -⟩ | ⟨_, n', hlog, hend⟩
    · cases hr
    obtain ⟨hr, rfl⟩ := Routine.plays_pure.1 hend
    cases hr
    exact ⟨rfl, sql, wasOpen, reply, n, hn, hsent ▸ hstill.touches hstirs ((aloof_touches ∅).calm_log _ _) hlog⟩

/-- A link becomes the current one. -/
theorem Schedule.Still.touches_enter {chain : Chain Splitter (Act D)} {v v' : Service} {k : Connection Splitter D}
    (hplays : (Connection.enter chain host props l v).Plays calls others s (some (.ok (k, v'))) s') :
    (v'.link? = some l ∧ v'.transaction = v.transaction) ∧ s.world.Touches ∅ s'.world := by
  refine ⟨?_, hs.touches hstirs ((aloof_touches ∅).calm_enter chain host props l v) hplays⟩
  rcases Routine.plays_bind.1 hplays with ⟨hr, -⟩ | ⟨_, m, -, hplays⟩
  · cases hr
  obtain ⟨p, hp, hset⟩ := Routine.plays_bind_pure.1 hplays
  rw [Service.setCurrent_run] at hset
  rcases Routine.plays_bind.1 hset with ⟨rfl, -⟩ | ⟨_, _, -, hset⟩
  · cases hp
  rcases Routine.plays_bind.1 hset with ⟨rfl, -⟩ | ⟨_, _, -, hset⟩
  · cases hp
  obtain ⟨u, rfl, -⟩ := Routine.plays_bind_pure.1 hset
  cases u with
  | none => cases hp
  | some _ =>
    cases hp
    exact ⟨rfl, rfl⟩

/-- What a new logical connection does before it is there changes no session, but the query that asks a connection to
a host of several nodes for the node behind it. Whatever the session is like, it takes it for a new one. -/
theorem Schedule.Still.asks_connect {r : Router} {k : Connection Splitter D} {v : Service}
    (hplays : (r.connect host props).Plays calls others s (some (.ok (k, v))) s') :
    v.transaction = {} ∧ ∃ l, v.link? = some l ∧
      (s.world.Touches ∅ s'.world ∨ ∃ c, l = .direct c ∧ s.world.Asks host c s'.world) := by
  -- three stretches: a link is provided, it may be asked for its node, and then it is made current
  rw [Router.connect_eq] at hplays
  rcases Routine.plays_bind.1 hplays with ⟨hr, -⟩ | ⟨answer, m, hprovide, hplays⟩
  · cases hr
  rcases Routine.plays_bind.1 hplays with ⟨hr, -⟩ | ⟨p, n, hleave, hplays⟩
  · cases hr
  have hm : m.Still (Touches ∅) := Outcome.Plays.still hstirs hs hprovide
  have hn : n.Still (Touches ∅) := Outcome.Plays.still hstirs hm hleave
  cases answer with
  | error e =>
    obtain ⟨hp, rfl⟩ := Routine.plays_pure.1 hleave
    cases hp
    cases (Routine.plays_pure.1 hplays).1
  | ok l =>
    obtain ⟨hprovided, hsource⟩ := hs.touches_provide hstirs hprovide
    rw [Split.leaveConnect_run, Routine.plays_get_bind] at hleave
    split at hleave
    · next hneeds =>
      -- a link whose node is sought is not from a pool, so the query goes over the connection just opened
      have hseveral : PooledProvider.accepts host = false := by
        refine Bool.eq_false_iff.2 fun haccepts => ?_
        rw [Split.needsIdentity_of_accepts haccepts] at hneeds
        cases hneeds
      cases l with
      | pooled h =>
        rw [hseveral] at hsource
        cases hsource
      | direct c =>
        obtain ⟨m', hm', hdialled⟩ := hsource
        rcases Routine.plays_bind.1 hleave with ⟨hr, -⟩ | ⟨⟨known, v'⟩, n', hidentify, hleave⟩
        · cases hr
        cases known with
        | error e =>
          obtain ⟨u, hu, -⟩ := Routine.plays_bind_pure.1 hleave
          cases u with
          | none => cases hu
          | some _ =>
            cases hu
            cases (Routine.plays_pure.1 hplays).1
        | ok _ =>
          obtain ⟨hsame, sql, wasOpen, reply, n₁, hasked, hanswered⟩ := hm.touches_identify hstirs hidentify
          obtain ⟨hp, rfl⟩ := Routine.plays_pure.1 hleave
          cases hp
          obtain ⟨⟨hlink, hnew⟩, hentered⟩ := hn.touches_enter hstirs hplays
          exact ⟨hnew.trans hsame, _, hlink,
            .inr ⟨c, rfl, .mk hseveral hm' (hdialled ▸ hasked) (hanswered.trans hentered)⟩⟩
    · obtain ⟨hp, rfl⟩ := Routine.plays_pure.1 hleave
      cases hp
      obtain ⟨⟨hlink, hnew⟩, hentered⟩ := hn.touches_enter hstirs hplays
      exact ⟨hnew, l, hlink, .inl (hprovided.trans hentered)⟩

end Opening

namespace World.Asks

variable {host : Host} {c : ConnId} {w v : World D} (h : w.Asks host c v)
include h

theorem several : PooledProvider.accepts host = false := by
  obtain ⟨several, -, -, -⟩ := h
  exact several

variable (distinct : v.opened.Nodup)
include distinct

theorem new : c ∉ w.opened := by
  obtain ⟨-, before, between, after⟩ := h
  intro hc
  have hopened := (between.suffix.trans ((List.suffix_cons _ _).trans after.suffix)).filterMap Entry.opened?
  have hnodup := distinct.sublist hopened.sublist
  exact (List.nodup_cons.1 hnodup).1 ((before.suffix.filterMap Entry.opened?).subset hc)

/-- The session is what the query makes of a new one. -/
theorem transactionOf_eq (alive : c ∉ v.hungUp) :
    ∃ sql, v.transactionOf c = ({} : TransactionState).after (.query sql) := by
  obtain @⟨protocol, props, sql, wasOpen, reply, m, n, -, before, between, after⟩ := h
  have hlater := (List.suffix_cons _ _).trans after.suffix
  have hopened : c ∈ n.opened := (between.suffix.filterMap Entry.opened?).subset List.mem_cons_self
  have hbetween := between.spares (Set.notMem_empty c) (distinct.sublist (hlater.filterMap Entry.opened?).sublist)
    fun hc => alive ((hlater.filterMap Entry.closedConn?).subset hc)
  have hnew : n.transactionOf c = {} := (hbetween.kept List.mem_cons_self).trans (if_pos rfl)
  refine ⟨sql, ?_⟩
  rw [(after.spares (Set.notMem_empty c) distinct alive).kept hopened, ← hnew]
  exact if_pos rfl

end World.Asks

/-! ## Marks -/

namespace Yard

variable [Backend D]

/-- What goes on in the background changes no session. -/
theorem stirs_touches [Backend.Final D] (A : Set ConnId) : Stirs InBackground Meanwhile (Touches (D := D) A) where
  calls _ _ hx := by
    cases hx with
    | closeOrphan => exact (aloof_touches A).calm_closeOrphan
    | goOn id => exact (aloof_touches A).calm_poolKeeper.calm_goOn id
  others _ _ h := by
    obtain ⟨backend, hosts, -, rfl⟩ := h
    exact .of_journal_eq rfl

/-- The session behind a connection. -/
abbrev session (y : Yard D) (d : ConnId) : TransactionState := y.schedule.world.transactionOf d

variable [Backend.Final D] (r : Router)

/-- The steps that may leave a mark on a session: a call on a logical connection, and a request for one to a host of
several nodes, as its connection is asked for the node behind it. -/
inductive Marks : Yard D → Yard D → Prop
  | asked {y : Yard D} {front back : List (Client D)} {k : Client D} {op : Operation} {ans : Answer}
      {c : Connection Splitter D} {v : Service} {s : Schedule (World D)} (clients : y.clients = front ++ k :: back)
      (allowed : y.shut = true → op = .close)
      (plays : Plays (((Connection.ask op).run k.connection).run k.service) y ((ans, c), v) s) :
      Marks y { y with schedule := s, clients := front ++ ⟨v, c⟩ :: back }
  | opened {y : Yard D} {host : Host} {props : Properties} {c : Connection Splitter D} {v : Service}
      {s : Schedule (World D)} (several : PooledProvider.accepts host = false) (isOpen : y.shut = false)
      (plays : Plays (r.connect host props) y (.ok (c, v)) s) :
      Marks y { y with schedule := s, clients := ⟨v, c⟩ :: y.clients }
  | refused {y : Yard D} {host : Host} {props : Properties} {e : RouteError} {s : Schedule (World D)}
      (several : PooledProvider.accepts host = false) (isOpen : y.shut = false)
      (plays : Plays (r.connect host props) y (.error e) s) : Marks y { y with schedule := s }

/-- A step left a mark on a session that was as a new one, and the session was not so again since. -/
inductive Marked (y₀ : Yard D) (d : ConnId) (y : Yard D) : Prop
  | mk {y₁ y₂ : Yard D} (before : Run r y₀ y₁) (new : y₁.session d = {}) (marks : Marks r y₁ y₂)
      (marked : y₂.session d ≠ {}) (since : Relation.ReflTransGen (fun a b => Step r a b ∧ b.session d ≠ {}) y₂ y)

variable {r} {y y' y₀ : Yard D} {d : ConnId}

/-- Every step leaves a mark on a session, or changes none. -/
theorem marks_or_touches (hs : y.schedule.Still (Touches ∅)) (hstep : Step r y y') :
    y'.schedule.Still (Touches ∅) ∧ (Marks r y y' ∨ y.schedule.world.Touches ∅ y'.schedule.world) := by
  have hB := aloof_touches (D := D) ∅
  have hstirs := stirs_touches (D := D) ∅
  have hcalm : ∀ {β : Type} {x : Routine (World D) β} {b : β} {s : Schedule (World D)}, Plays x y b s →
      x.Calm (fun _ _ => True) (Touches ∅) → s.Still (Touches ∅) ∧ y.schedule.world.Touches ∅ s.world :=
    fun plays hx => ⟨Outcome.Plays.still hstirs hs plays, hs.touches hstirs hx plays⟩
  cases hstep with
  | meanwhile run => exact (hs.run hstirs run).symm.imp_right .inr
  | @opened host props c v s isOpen plays =>
    cases haccepts : PooledProvider.accepts host with
    | true => exact (hcalm plays (hB.calm_open r haccepts props)).imp_right .inr
    | false => exact ⟨Outcome.Plays.still hstirs hs plays, .inl (.opened haccepts isOpen plays)⟩
  | @refused host props e s isOpen plays =>
    cases haccepts : PooledProvider.accepts host with
    | true => exact (hcalm plays (hB.calm_open r haccepts props)).imp_right .inr
    | false => exact ⟨Outcome.Plays.still hstirs hs plays, .inl (.refused haccepts isOpen plays)⟩
  | asked clients allowed plays =>
    exact ⟨Outcome.Plays.still hstirs hs plays, .inl (.asked clients allowed plays)⟩
  | dropped clients plays => exact (hcalm plays (hB.calm_finish _ _)).imp_right .inr
  | swept plays => exact (hcalm plays hB.calm_poolKeeper.discreet.calm_sweep).imp_right .inr
  | shutDown isOpen plays => exact (hcalm plays (hB.calm_shutdown r)).imp_right .inr

theorem still_of_started (h : y.Started r) : y.schedule.Still (Touches ∅) ∧ ∀ d, y.session d = {} := by
  obtain ⟨y₀, hpristine, hparked, hplays, -, -⟩ := h
  have hs : y₀.schedule.Still (Touches ∅) := fun p hp => by
    rw [hparked] at hp
    cases hp
  have hstirs := stirs_touches (D := D) ∅
  refine ⟨Outcome.Plays.still hstirs hs hplays, fun d => ?_⟩
  exact (hs.touches hstirs ((aloof_touches ∅).calm_start r) hplays).new (Set.notMem_empty d) (hpristine.new d)

theorem still_of_run (h : y₀.schedule.Still (Touches ∅)) (hrun : Run r y₀ y) : y.schedule.Still (Touches ∅) := by
  induction hrun with
  | refl => exact h
  | tail _ hstep ih => exact (marks_or_touches ih hstep).1

/-- A session is not as a new one just if some step left a mark on it. -/
theorem marked_of_run (hstarted : y₀.Started r) (hrun : Run r y₀ y) : y.session d ≠ {} ↔ Marked r y₀ d y := by
  obtain ⟨hs, hnew⟩ := still_of_started hstarted
  constructor
  · intro hd
    induction hrun with
    | refl => exact absurd (hnew d) hd
    | @tail z y' hrun hstep ih =>
      by_cases hz : z.session d = {}
      · -- this is the step that left the mark
        rcases (marks_or_touches (still_of_run hs hrun) hstep).2 with hmarks | htouches
        · exact .mk hrun hz hmarks hd .refl
        · exact absurd (htouches.new (Set.notMem_empty d) hz) hd
      · obtain ⟨before, new, marks, marked, since⟩ := ih hz
        exact .mk before new marks marked (since.tail ⟨hstep, hd⟩)
  · rintro ⟨-, -, -, marked, since⟩
    cases since with
    | refl => exact marked
    | tail _ hlast => exact hlast.2

/-! ## What is found -/

/-- How a new logical connection finds the session behind its connection. -/
inductive Found (r : Router) (host : Host) (y₀ y : Yard D) (d : ConnId) (w : World D) : Prop
  /-- The connection is new, and so is its session. -/
  | opened (new : d ∉ y.schedule.world.opened) (asNew : w.transactionOf d = {})
  /-- The connection is new, and was asked for the node behind it. -/
  | identified (new : d ∉ y.schedule.world.opened) (several : PooledProvider.accepts host = false) {sql : String}
      (asked : w.transactionOf d = ({} : TransactionState).after (.query sql))
  /-- The session is as it was left, and not as a new one if an earlier step left a mark on it. -/
  | left (same : w.transactionOf d = y.session d) (marked : w.transactionOf d ≠ {} ↔ Marked r y₀ d y)

theorem found_of_touches {host : Host} {w : World D} (hstarted : y₀.Started r) (hrun : Run r y₀ y)
    (h : y.schedule.world.Touches ∅ w) (distinct : w.opened.Nodup) (alive : d ∉ w.hungUp) : Found r host y₀ y d w := by
  have hspares := h.spares (Set.notMem_empty d) distinct alive
  by_cases hnew : d ∈ w.opened ∧ d ∉ y.schedule.world.opened
  · exact .opened hnew.2 (hspares.fresh hnew.2 hnew.1)
  have hsame : w.transactionOf d = y.session d := by
    by_cases hold : d ∈ y.schedule.world.opened
    · exact hspares.kept hold
    · exact h.same (Set.notMem_empty d) alive fun hd => hnew ⟨hd, hold⟩
  exact .left hsame (hsame ▸ marked_of_run hstarted hrun)

/-- A new logical connection takes the session behind its connection for a new one, and finds it as it was left. Let a
router run from its start, with any number of logical connections that are opened, used, closed and dropped one after
the other, and anything that the database, the host list and the background do meanwhile. Where a logical connection
is opened then, the session is new if the connection is. Otherwise it is as it was, and not as a new one just if an
earlier step, a call on another logical connection as a rule, left it so. -/
theorem found_of_connect {host : Host} {props : Properties} {c : Connection Splitter D} {v : Service}
    {s : Schedule (World D)} (hstarted : y₀.Started r) (hrun : Run r y₀ y)
    (hplays : Plays (r.connect host props) y (.ok (c, v)) s) (distinct : s.world.opened.Nodup) :
    v.transaction = {} ∧ ∃ l, v.link? = some l ∧
      (s.world.connOf l ∉ s.world.hungUp → Found r host y₀ y (s.world.connOf l) s.world) := by
  have hstill := still_of_run (still_of_started hstarted).1 hrun
  obtain ⟨hnew, l, hlink, htouches | ⟨d, rfl, hasks⟩⟩ := hstill.asks_connect (stirs_touches ∅) hplays
  · exact ⟨hnew, l, hlink, found_of_touches hstarted hrun htouches distinct⟩
  · refine ⟨hnew, _, hlink, fun alive => ?_⟩
    obtain ⟨sql, hasked⟩ := hasks.transactionOf_eq distinct alive
    exact .identified (hasks.new distinct) hasks.several hasked

/-! ### A session that is handed on -/

namespace Legacy

open Late (host router ended plays_ended)

/-- A call on a logical connection that is the only one, where nothing has to wait. -/
def call (op : Operation) (k : Client Sim.Cluster) (w : World Sim.Cluster)
    (h : ((((Connection.ask op).run k.connection).run k.service) 0 w).value?.isSome = true) : Yard Sim.Cluster :=
  let r := ended (((Connection.ask op).run k.connection).run k.service) w h
  { schedule := { world := r.2 }, clients := [⟨r.1.2, r.1.1.2⟩] }

theorem step_call {op : Operation} {k : Client Sim.Cluster} {w : World Sim.Cluster}
    (h : ((((Connection.ask op).run k.connection).run k.service) 0 w).value?.isSome = true) :
    Step router { schedule := { world := w }, clients := [k] } (call op k w h) :=
  .asked (show [k] = [] ++ k :: [] from rfl) (fun hshut => by cases hshut) (plays_ended h _ false)

/-- Nothing waits after the call either. -/
theorem plays_after_call {x : Routine (World Sim.Cluster) α} {op : Operation} {k : Client Sim.Cluster}
    {w : World Sim.Cluster} (h : ((((Connection.ask op).run k.connection).run k.service) 0 w).value?.isSome = true)
    (hx : (x 0 (call op k w h).schedule.world).value?.isSome = true) :
    Plays x (call op k w h) (ended x _ hx).1 { world := (ended x _ hx).2 } :=
  plays_ended hx _ false

def client : Client Sim.Cluster := ⟨Late.client.2, Late.client.1⟩

/-- The first logical connection switches autocommit off, writes, and is closed. -/
def unset : Yard Sim.Cluster := call (.setAutocommit false) client Late.opened.2 (by decide +kernel)

def unsetClient : Client Sim.Cluster := unset.clients.head (by decide +kernel)

def written : Yard Sim.Cluster :=
  call (.update "insert into t values (1)") unsetClient unset.schedule.world (by decide +kernel)

def writtenClient : Client Sim.Cluster := written.clients.head (by decide +kernel)

def left : Yard Sim.Cluster := call .close writtenClient written.schedule.world (by decide +kernel)

/-- The second one is opened then. -/
def opened : Except RouteError (Connection Splitter Sim.Cluster × Service) × World Sim.Cluster :=
  ended (router.connect host []) left.schedule.world (by decide +kernel)

def heir : Connection Splitter Sim.Cluster × Service := opened.1.toOption.get (by decide +kernel)

def found : Schedule (World Sim.Cluster) := { world := opened.2 }

theorem run_left : Run router Late.beginning left := by
  have hplays : Plays (router.connect host []) Late.beginning (.ok Late.client) { world := Late.opened.2 } := by
    rw [← Late.opened_eq]
    exact plays_ended _ [] false
  have hopen : Step router Late.beginning { schedule := { world := Late.opened.2 }, clients := [client] } :=
    .opened rfl hplays
  have hunset : Step router { schedule := { world := Late.opened.2 }, clients := [client] } unset := step_call _
  have hwritten : Step router unset written := step_call _
  have hleft : Step router written left := step_call _
  exact .tail (.tail (.tail (.single hopen) hunset) hwritten) hleft

theorem plays_opened : Plays (router.connect host []) left (.ok heir) found := by
  have hok : opened.1 = .ok heir := Late.eq_ok_get _ _
  rw [← hok]
  exact plays_after_call _ _

theorem link_heir : heir.2.link? = some (.pooled 1) := by decide +kernel

theorem distinct_found : found.world.opened.Nodup := by decide +kernel

theorem alive_found : found.world.connOf (.pooled 1) ∉ found.world.hungUp := by decide +kernel

end Legacy

/-- The second logical connection finds the session of the first. -/
theorem found_on_legacy : Late.beginning.Started Late.router ∧ Run Late.router Late.beginning Legacy.left ∧
    Legacy.found.world.opened.Nodup ∧ Legacy.heir.2.transaction = {} ∧ ∃ l, Legacy.heir.2.link? = some l ∧
      Legacy.found.world.connOf l ∉ Legacy.found.world.hungUp ∧
      Found Late.router Late.host Late.beginning Legacy.left (Legacy.found.world.connOf l) Legacy.found.world := by
  obtain ⟨hnew, l, hlink, hfound⟩ :=
    found_of_connect Late.started_beginning Legacy.run_left Legacy.plays_opened Legacy.distinct_found
  obtain rfl := Option.some.inj (Legacy.link_heir.symm.trans hlink)
  exact ⟨Late.started_beginning, Legacy.run_left, Legacy.distinct_found, hnew, _, hlink, Legacy.alive_found,
    hfound Legacy.alive_found⟩

/-- Not every session that a new logical connection finds is as a new one: the first logical connection was closed with
a transaction open and autocommit off, and the second one, which knows of neither, is given the same connection. -/
theorem unclean_on_legacy :
    ¬ ∀ (r : Router) (y₀ y : Yard Sim.Cluster) (host : Host) (props : Properties) (c : Connection Splitter Sim.Cluster)
      (v : Service) (s : Schedule (World Sim.Cluster)) (l : Link), y₀.Started r → Run r y₀ y →
      Plays (r.connect host props) y (.ok (c, v)) s → s.world.opened.Nodup → v.link? = some l →
      s.world.connOf l ∉ s.world.hungUp → s.world.transactionOf (s.world.connOf l) = {} := by
  intro h
  have hnew := h _ _ _ _ _ _ _ _ _ Late.started_beginning Legacy.run_left Legacy.plays_opened Legacy.distinct_found
    Legacy.link_heir Legacy.alive_found
  have hleft : Legacy.found.world.transactionOf (Legacy.found.world.connOf (.pooled 1)) = ⟨false, true⟩ := by
    decide +kernel
  exact absurd (hleft.symm.trans hnew) (by decide)

end Yard

end ReplicaRouter
