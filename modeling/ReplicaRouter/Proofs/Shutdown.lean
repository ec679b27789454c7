import ReplicaRouter.Proofs.Provenance
import ReplicaRouter.Proofs.Tending
import ReplicaRouter.Proofs.Tenure
import ReplicaRouter.Router
/-
A router from its start to its shutdown. One thing is done at a time: logical connections are opened, used, closed
and dropped, and pools are swept; meanwhile connections that nobody holds are closed in the background, the worker
of the cache goes on, and the database and the host list change.
Main statements: what every step keeps (`Yard.Kept.step`), and that nothing is left open in the end
(`Yard.closed_of_shutdown`).
-/
namespace ReplicaRouter

open Charge World

variable {D α : Type}

/-! ## Drivers -/

/-- A closing driver that opens no closed connection again while it checks one either. -/
class Backend.Dependable (D : Type) [Backend D] extends Closing D where
  isValid (c : ConnId) (limit : Duration) (d : D) :
    (Backend.isValid c limit).Abides (Later Final.has) d fun _ _ => True

instance : Backend.Dependable Sim.Cluster where
  isValid _ _ c := Routine.abides_get_bind (Routine.abides_bind fun now =>
    (Sim.Cluster.abides_sleep _ c now).imp fun _ _ _ => Routine.abides_get_bind (Routine.abides_pure trivial))

/-- A connection is over once it is closed, anybody may send anything over any connection, and everybody keeps
account of what he has. -/
def Terms.ofDependable (D : Type) [Backend D] [Backend.Dependable D] : Terms D where
  outlook := .ofFinal False (.inr Backend.Closing.closes)
  isValid := Backend.Dependable.isValid
  uses := True
  careless := False
  blueprint _ := True

theorem Terms.liberal_ofDependable [Backend D] [Backend.Dependable D] : (ofDependable D).Liberal :=
  ⟨trivial, fun _ => trivial⟩

/-! ## The router's own work -/

namespace Router

variable [Backend D] {T : Terms D} {w : World D} {rest : Multiset Charge} {r : Router}

/-- A router that was set up by settings serves single hosts from pools. -/
theorem pooled_of_ofSettings {settings : Settings} {protocol : String} {draws : Nat → Nat}
    (h : ofSettings settings protocol draws = .ok r) : r.providers.pooled.isSome = true := by
  unfold ofSettings at h
  cases hvalid : settings.validate with
  | error e => rw [hvalid] at h; cases h
  | ok _ =>
    rw [hvalid] at h
    cases htelemetry : Telemetry.ofSettings settings.telemetry with
    | error e => rw [htelemetry] at h; cases h
    | ok _ => rw [htelemetry] at h; cases h; rfl

theorem paysBack_startSweeping (hw : Reached T w rest) : r.startSweeping.PaysBack (Follows T) (Reached T) w rest := by
  unfold startSweeping
  split
  · refine (sound_poolKeeper.paysBack_startWorker hw).bind fun started v rest hv => ?_
    split
    · exact (idles_log _ _).deals hv.empty_handed
    · exact Routine.paysBack_pure hv
  · exact Routine.paysBack_pure hw

/-- The cache that is put in place at the start is as empty as the one before. -/
theorem deals_start (hpristine : w.Pristine) (hw : Reached T w rest) :
    Deals T r.start w rest fun _ own _ => own = 0 := by
  refine Routine.accounts_now_bind fun t => ?_
  have hbeside : w.Beside T { w with cache := .empty r.settings.cache.expiration r.settings.cache.cleanupInterval t } :=
    { Beside.refl (T := T) w with cached := fun k => by rw [hpristine.cached k]; rfl }
  refine deals_modify_bind (.beside hbeside) ?_
  refine (paysBack_startSweeping (hw.beside hbeside)).bind fun _ v rest hv => ?_
  exact (idles_log _ _).deals hv.empty_handed

theorem deals_connect (hT : T.Liberal) (hr : r.providers.pooled.isSome = true) {host : Host} {props : Properties}
    (hw : Reached T w ({licence} + rest)) :
    Deals T (r.connect host props) w rest fun opened own v => Client.Opened v opened own :=
  Client.deals_open (s := r.splitter props) (v := r.service) hT rfl rfl hr hw

/-- Whoever shuts the router down may put no pools in any more. -/
theorem deals_shutdown (hr : r.providers.pooled.isSome = true) (hw : Reached T w ({licence} + rest)) :
    Deals T r.shutdown w rest fun _ own _ => own = 0 := by
  refine deals_bind (fun now => (sound_poolKeeper.paysBack_stopWorker hw now).frame) ?_
  rintro _ _ v rest - ⟨_, rfl, rfl⟩ hv
  rw [zero_add] at hv
  have hrelease : (r.providers.release : Routine (World D) Unit) = PooledProvider.release := if_pos hr
  rw [hrelease]
  refine deals_bind (PooledProvider.deals_release hv) ?_
  rintro _ _ u rest - rfl hu
  exact (idles_log _ _).deals hu

end Router

/-! ## Yards -/

/-- A router at work, with the logical connections that the application has. -/
structure Yard (D : Type) where
  /-- The world, and what waits in the background. -/
  schedule : Schedule (World D)
  clients : List (Client D) := []
  /-- Whether the router was shut down. -/
  shut : Bool := false

namespace Yard

section Steps

variable [Backend D]

/-- What goes on in the background. -/
inductive InBackground (w : World D) : Routine (World D) Unit → Prop
  | closeOrphan : InBackground w closeOrphan
  | goOn (id : Nat) : InBackground w (poolKeeper.goOn id)

/-- Meanwhile the driver may do anything but open a closed connection again, and the host list may change. -/
def Meanwhile [Backend.Final D] (w v : World D) : Prop :=
  ∃ backend hosts, Backend.Later Backend.Final.has w.backend backend ∧ v = { w with backend, hosts }

/-- How far work comes in the yard before it waits for good. -/
abbrev Plays [Backend.Final D] (x : Routine (World D) α) (y : Yard D) (a : α) (s : Schedule (World D)) : Prop :=
  x.Plays InBackground Meanwhile y.schedule (some a) s

variable [Backend.Final D] (r : Router)

/-- The router was just started, and nothing happened before. -/
def Started (y : Yard D) : Prop :=
  ∃ y₀ : Yard D, y₀.schedule.world.Pristine ∧ y₀.schedule.parked = [] ∧ Plays r.start y₀ () y.schedule ∧
    y.clients = [] ∧ y.shut = false

/-- One step of the application, or of everything else. After the shutdown there are only closes. -/
inductive Step : Yard D → Yard D → Prop
  | meanwhile {y : Yard D} {s : Schedule (World D)} (run : Schedule.Run InBackground Meanwhile y.schedule s) :
      Step y { y with schedule := s }
  | opened {y : Yard D} {host : Host} {props : Properties} {c : Connection Splitter D} {v : Service}
      {s : Schedule (World D)} (isOpen : y.shut = false) (plays : Plays (r.connect host props) y (.ok (c, v)) s) :
      Step y { y with schedule := s, clients := ⟨v, c⟩ :: y.clients }
  | refused {y : Yard D} {host : Host} {props : Properties} {e : RouteError} {s : Schedule (World D)}
      (isOpen : y.shut = false) (plays : Plays (r.connect host props) y (.error e) s) : Step y { y with schedule := s }
  | asked {y : Yard D} {front back : List (Client D)} {k : Client D} {op : Operation} {ans : Answer}
      {c : Connection Splitter D} {v : Service} {s : Schedule (World D)} (clients : y.clients = front ++ k :: back)
      (allowed : y.shut = true → op = .close)
      (plays : Plays (((Connection.ask op).run k.connection).run k.service) y ((ans, c), v) s) :
      Step y { y with schedule := s, clients := front ++ ⟨v, c⟩ :: back }
  | dropped {y : Yard D} {front back : List (Client D)} {k : Client D} {v : Service} {s : Schedule (World D)}
      (clients : y.clients = front ++ k :: back)
      (plays : Plays ((k.connection.finish fun x => discard (Split.finish.run x)).run k.service) y ((), v) s) :
      Step y { y with schedule := s, clients := front ++ back }
  | swept {y : Yard D} {n : Nat} {s : Schedule (World D)} (plays : Plays Router.sweep y n s) :
      Step y { y with schedule := s }
  | shutDown {y : Yard D} {s : Schedule (World D)} (isOpen : y.shut = false) (plays : Plays r.shutdown y () s) :
      Step y { y with schedule := s, shut := true }

/-- Whatever happens one after the other. -/
abbrev Run : Yard D → Yard D → Prop := Relation.ReflTransGen (Step r)

end Steps

variable {y y' : Yard D} {s : Schedule (World D)} {r : Router} {n kept : Multiset Charge}

/-- What the application has to see to: the right to put pools in until the router is shut down, and what its logical
connections hold. -/
def licensed (y : Yard D) : Multiset Charge := if y.shut then 0 else {licence}

def held (clients : List (Client D)) : Multiset Charge := (clients.map Client.held).sum

theorem held_append (front back : List (Client D)) : held (front ++ back) = held front + held back := by
  rw [held, List.map_append, List.sum_append]
  rfl

theorem held_cons (k : Client D) (clients : List (Client D)) : held (k :: clients) = k.held + held clients :=
  List.sum_cons

/-- One logical connection among others. -/
theorem held_middle (front back : List (Client D)) (k : Client D) :
    held (front ++ k :: back) = k.held + held (front ++ back) := by
  rw [held_append, held_cons, held_append, add_left_comm]

/-- Logical connections that are emptied hold only handles that were given back. -/
theorem returned_of_held {w : World D} {clients : List (Client D)} (h : ∀ k ∈ clients, k.Emptied w) :
    ∀ e ∈ held clients, ∃ i, e = ref i ∧ (w.handle i).returned = true := by
  induction clients with
  | nil => exact fun e he => absurd he (Multiset.notMem_zero e)
  | cons k clients ih =>
    intro e he
    rw [held_cons] at he
    rcases Multiset.mem_add.1 he with he | he
    · exact (h k List.mem_cons_self).returned he
    · exact ih (fun j hj => h j (List.mem_cons_of_mem _ hj)) e he

variable [Backend D] [Backend.Dependable D]

/-- The application has this to see to, and the background all the rest. -/
abbrev Backed (s : Schedule (World D)) (g : Multiset Charge) : Prop :=
  s.Backs (Follows (.ofDependable D)) (Reached (.ofDependable D)) g

/-- All there is to be seen to is seen to, and every logical connection is sound. -/
structure Kept (y : Yard D) : Prop where
  backed : Backed y.schedule (y.licensed + held y.clients)
  sound : ∀ k ∈ y.clients, k.Sound y.schedule.world

theorem paysBack_background (w : World D) (x : Routine (World D) Unit) (rest : Multiset Charge) (hx : InBackground w x)
    (hw : Reached (.ofDependable D) w rest) :
    x.PaysBack (Follows (.ofDependable D)) (Reached (.ofDependable D)) w rest := by
  cases hx with
  | closeOrphan => exact deals_closeOrphan hw
  | goOn id => exact sound_poolKeeper.paysBack_goOn id hw

theorem bears_meanwhile (w w' : World D) (rest : Multiset Charge) (h : Meanwhile w w')
    (hw : Reached (.ofDependable D) w rest) :
    w.Follows (.ofDependable D) w' ∧ Reached (.ofDependable D) w' rest := by
  obtain ⟨backend, hosts, hlater, rfl⟩ := h
  have hbeside : w.Beside (.ofDependable D) { w with backend, hosts } :=
    { Beside.refl (T := .ofDependable D) w with later := hlater }
  exact ⟨hbeside.follows, hw.beside hbeside⟩

theorem kept_of_started (h : y.Started r) : y.Kept := by
  obtain ⟨y₀, hpristine, hparked, hplays, hclients, hshut⟩ := h
  have hstart : Backed y₀.schedule 0 := by
    refine ⟨[], ?_, .start hpristine⟩
    rw [hparked]
    exact .nil
  obtain ⟨-, own, ⟨stakes, hstakes, hw⟩, hown⟩ := hstart.plays paysBack_background bears_meanwhile
    (fun rest hw => Router.deals_start hpristine (by rwa [zero_add] at hw)) hplays
  obtain rfl := hown () rfl
  -- the right to put pools in is there for the asking
  rw [zero_add] at hw
  refine ⟨⟨stakes, hstakes, ?_⟩, fun k hk => by rw [hclients] at hk; cases hk⟩
  rw [licensed, hshut, hclients, held]
  exact hw.gain (.exchanged .licensed)

/-! ### Steps -/

section Steps

variable {host : Host} {props : Properties} {c : Connection Splitter D} {v : Service} {front back : List (Client D)}
  {k : Client D}

/-- Work that takes a part of what the application has leaves the rest with it, and all logical connections sound. -/
theorem Kept.after {x : Routine (World D) α} {a : α} {Q : α → Multiset Charge → World D → Prop} (h : y.Kept)
    (hn : y.licensed + held y.clients = n + kept) (hx : ∀ rest, Reached (.ofDependable D) y.schedule.world (n + rest) →
      Deals (.ofDependable D) x y.schedule.world rest Q) (plays : Plays x y a s) :
    (∀ k ∈ y.clients, k.Sound s.world) ∧ ∃ own, Backed s (own + kept) ∧ Q a own s.world := by
  have hbacked : Backed y.schedule (n + kept) := hn ▸ h.backed
  obtain ⟨hf, _, hs, hend⟩ := hbacked.plays paysBack_background bears_meanwhile
    (fun rest hw now => (hx (kept + rest) (hw.of_eq (add_assoc n kept rest)) now).frame) plays
  obtain ⟨own, rfl, hq⟩ := hend a rfl
  exact ⟨fun k hk => (h.sound k hk).later hf, own, hs, hq⟩

omit [Backend D] [Backend.Dependable D] in
theorem licensed_of_open (h : y.shut = false) : y.licensed = {licence} := by
  rw [licensed, h]
  rfl

/-- A new logical connection holds what it was given. -/
theorem Kept.opened (hr : r.providers.pooled.isSome = true) (h : y.Kept) (isOpen : y.shut = false)
    (plays : Plays (r.connect host props) y (.ok (c, v)) s) :
    Kept { y with schedule := s, clients := ⟨v, c⟩ :: y.clients } := by
  have hlicensed := licensed_of_open isOpen
  obtain ⟨hsound, _, hs, hopened⟩ := h.after (by rw [hlicensed])
    (fun _ hw => Router.deals_connect Terms.liberal_ofDependable hr hw) plays
  cases hopened with
  | opened sound =>
    refine ⟨?_, fun k hk => (List.mem_cons.1 hk).elim (fun he => he ▸ sound) (hsound k)⟩
    show Backed s (y.licensed + held (_ :: _))
    rwa [hlicensed, held_cons, ← add_assoc]

/-- Where opening fails nothing is held. -/
theorem Kept.refused {e : RouteError} (hr : r.providers.pooled.isSome = true) (h : y.Kept) (isOpen : y.shut = false)
    (plays : Plays (r.connect host props) y (.error e) s) : Kept { y with schedule := s } := by
  have hlicensed := licensed_of_open isOpen
  obtain ⟨hsound, _, hs, hopened⟩ := h.after (by rw [hlicensed])
    (fun _ hw => Router.deals_connect Terms.liberal_ofDependable hr hw) plays
  cases hopened with
  | refused =>
    refine ⟨?_, hsound⟩
    show Backed s (y.licensed + _)
    rwa [hlicensed]

/-- A call may exchange the links that its logical connection holds. -/
theorem Kept.asked {op : Operation} {ans : Answer} (h : y.Kept) (clients : y.clients = front ++ k :: back)
    (allowed : y.shut = true → op = .close)
    (plays : Plays (((Connection.ask op).run k.connection).run k.service) y ((ans, c), v) s) :
    Kept { y with schedule := s, clients := front ++ ⟨v, c⟩ :: back } := by
  have hk : k ∈ y.clients := clients ▸ List.mem_append_right _ List.mem_cons_self
  have hright : op = .close ∨ y.licensed = {licence} := by
    cases hshut : y.shut with
    | true => exact .inl (allowed hshut)
    | false => exact .inr (licensed_of_open hshut)
  obtain ⟨hsound, _, hs, _, rfl, hnew, -, rfl⟩ := h.after (by rw [clients, held_middle, ← add_assoc])
    (fun _ hw => Client.deals_ask Terms.liberal_ofDependable (h.sound k hk) hright hw) plays
  refine ⟨?_, fun j hj => ?_⟩
  · show Backed s (y.licensed + held (front ++ ⟨v, c⟩ :: back))
    rw [held_middle, ← add_assoc, Client.held, ← add_assoc]
    exact hs
  · rcases List.mem_append.1 hj with hj | hj
    · exact hsound j (clients ▸ List.mem_append_left _ hj)
    · rcases List.mem_cons.1 hj with rfl | hj
      · exact hnew
      · exact hsound j (clients ▸ List.mem_append_right _ (List.mem_cons_of_mem _ hj))

/-- What a logical connection holds is let go when it is dropped. -/
theorem Kept.dropped (h : y.Kept) (clients : y.clients = front ++ k :: back)
    (plays : Plays ((k.connection.finish fun x => discard (Split.finish.run x)).run k.service) y ((), v) s) :
    Kept { y with schedule := s, clients := front ++ back } := by
  have hk : k ∈ y.clients := clients ▸ List.mem_append_right _ List.mem_cons_self
  obtain ⟨hsound, _, hs, _, rfl, rfl, hempty⟩ := h.after (by rw [clients, held_middle, ← add_assoc])
    (fun _ hw => Client.deals_finish (h.sound k hk) hw) plays
  refine ⟨?_, fun j hj => hsound j ?_⟩
  · rwa [hempty, add_zero] at hs
  · rw [clients]
    exact (List.mem_append.1 hj).elim (List.mem_append_left _) fun hj =>
      List.mem_append_right _ (List.mem_cons_of_mem _ hj)

theorem Kept.swept {count : Nat} (h : y.Kept) (plays : Plays Router.sweep y count s) :
    Kept { y with schedule := s } := by
  obtain ⟨hsound, own, hs, hown⟩ := h.after (zero_add _).symm
    (fun _ hw => sound_poolKeeper.paysBack_sweep (by rwa [zero_add] at hw)) plays
  refine ⟨?_, hsound⟩
  rwa [show own = 0 from hown, zero_add] at hs

/-- After the shutdown the right to put pools in is gone. -/
theorem Kept.shutDown (hr : r.providers.pooled.isSome = true) (h : y.Kept) (isOpen : y.shut = false)
    (plays : Plays r.shutdown y () s) : Kept { y with schedule := s, shut := true } := by
  obtain ⟨hsound, _, hs, rfl⟩ := h.after (by rw [licensed_of_open isOpen])
    (fun _ hw => Router.deals_shutdown hr hw) plays
  exact ⟨hs, hsound⟩

end Steps

/-- Whatever happens next, all there is to be seen to is seen to. -/
theorem Kept.step (hr : r.providers.pooled.isSome = true) (h : y.Kept) (hstep : Step r y y') : y'.Kept := by
  cases hstep with
  | meanwhile run =>
    obtain ⟨hf, hs⟩ := h.backed.run paysBack_background bears_meanwhile run
    exact ⟨hs, fun k hk => (h.sound k hk).later hf⟩
  | opened isOpen plays => exact h.opened hr isOpen plays
  | refused isOpen plays => exact h.refused hr isOpen plays
  | asked clients allowed plays => exact h.asked clients allowed plays
  | dropped clients plays => exact h.dropped clients plays
  | swept plays => exact h.swept plays
  | shutDown isOpen plays => exact h.shutDown hr isOpen plays

theorem Kept.run (hr : r.providers.pooled.isSome = true) (h : y.Kept) (hrun : Run r y y') : y'.Kept := by
  induction hrun with
  | refl => exact h
  | tail _ hstep ih => exact ih.step hr hstep

/-! ### In the end -/

/-- Nothing is left open. Let a router that was set up by settings run from its start, with anything that the
application asks of it one after the other, and anything that the database, the host list and the background do
meanwhile. Once the router was shut down, nothing goes on in the background any more, every logical connection that
was not dropped is closed, and all connections were made to hosts that are served from pools, every connection that
was ever opened is closed. -/
theorem closed_of_shutdown {settings : Settings} {protocol : String} {draws : Nat → Nat} {y₀ : Yard D}
    (hr : Router.ofSettings settings protocol draws = .ok r) (hstarted : y₀.Started r) (hrun : Run r y₀ y)
    (hshut : y.shut = true) (hparked : y.schedule.parked = []) (horphans : y.schedule.world.orphans = [])
    (hclosed : ∀ k ∈ y.clients, k.connection.closed = true) (hall : y.schedule.world.AllPooled) :
    ∀ c ∈ y.schedule.world.opened, y.schedule.world.isClosed c = true := by
  intro c hc
  obtain ⟨⟨stakes, hstakes, hw⟩, hsound⟩ := (kept_of_started hstarted).run (Router.pooled_of_ofSettings hr) hrun
  rw [hparked] at hstakes
  cases hstakes
  have hw : Reached (.ofDependable D) y.schedule.world (held y.clients) :=
    hw.of_eq (by rw [licensed, hshut]; simp)
  have hleft : ∀ e ∈ held y.clients, ∃ h, e = ref h ∧ (y.schedule.world.handle h).returned = true :=
    returned_of_held fun k hk => (hsound k hk).emptied (hclosed k hk)
  exact ((hw.tended id).over hleft horphans hall hc).resolve_left id

/-! ### A connection that is closed late -/

namespace Late

def settings : Settings := { cache := { backgroundCleanup := false } }

def router : Router where
  settings
  protocol := "db"
  telemetry := .off
  providers := { pooled := some (({ base := .ofSettings settings.pool } : PooledProvider).withMaxRetries 10) }
  draws _ := 0

def host : Host := ⟨"a", none, .writer⟩

/-- What work comes to that never has to wait. -/
def ended (x : Routine (World Sim.Cluster) α) (w : World Sim.Cluster) (h : (x 0 w).value?.isSome = true) :
    α × World Sim.Cluster :=
  (x 0 w).value?.get h

theorem plays_ended {x : Routine (World Sim.Cluster) α} {w : World Sim.Cluster} (h : (x 0 w).value?.isSome = true)
    (clients : List (Client Sim.Cluster)) (shut : Bool) :
    Plays x ⟨{ world := w }, clients, shut⟩ (ended x w h).1 { world := (ended x w h).2 } :=
  Outcome.plays_of_value? (s := { world := w }) (Option.some_get h).symm

def start : World Sim.Cluster := { backend := {}, cache := .empty ⟨0⟩ ⟨0⟩ 0 }

def begun : Unit × World Sim.Cluster := ended router.start start (by decide +kernel)

def opened : Except RouteError (Connection Splitter Sim.Cluster × Service) × World Sim.Cluster :=
  ended (router.connect host []) begun.2 (by decide +kernel)

def client : Connection Splitter Sim.Cluster × Service := opened.1.toOption.get (by decide +kernel)

/-- The router is shut down while the logical connection is still open. -/
def shut : Unit × World Sim.Cluster := ended router.shutdown opened.2 (by decide +kernel)

def closed : ((Answer × Connection Splitter Sim.Cluster) × Service) × World Sim.Cluster :=
  ended (((Connection.ask .close).run client.1).run client.2) shut.2 (by decide +kernel)

def beginning : Yard Sim.Cluster := { schedule := { world := begun.2 } }

def ending : Yard Sim.Cluster where
  schedule := { world := closed.2 }
  clients := [⟨closed.1.2, closed.1.1.2⟩]
  shut := true

theorem ofSettings_router : Router.ofSettings settings "db" (fun _ => 0) = .ok router := rfl

theorem eq_ok_get (r : Except RouteError (Connection Splitter Sim.Cluster × Service)) (h : r.toOption.isSome = true) :
    r = .ok (r.toOption.get h) := by
  cases r with
  | ok _ => rfl
  | error _ => cases h

theorem opened_eq : opened.1 = .ok client := eq_ok_get _ _

theorem started_beginning : beginning.Started router := by
  have hpristine : start.Pristine := ⟨(fun _ h => by cases h), rfl, rfl, rfl, fun _ => rfl⟩
  exact ⟨{ schedule := { world := start } }, hpristine, rfl, plays_ended _ [] false, rfl, rfl⟩

theorem run_ending : Run router beginning ending := by
  have hplays : Plays (router.connect host []) beginning (.ok client) { world := opened.2 } := by
    rw [← opened_eq]
    exact plays_ended _ [] false
  have hopen : Step router beginning ⟨{ world := opened.2 }, [⟨client.2, client.1⟩], false⟩ := .opened rfl hplays
  have hshut : Step router ⟨{ world := opened.2 }, [⟨client.2, client.1⟩], false⟩
      ⟨{ world := shut.2 }, [⟨client.2, client.1⟩], true⟩ := .shutDown rfl (plays_ended _ _ false)
  have hclose : Step router ⟨{ world := shut.2 }, [⟨client.2, client.1⟩], true⟩ ending :=
    .asked (show _ = [] ++ _ :: [] from rfl) (fun _ => rfl) (plays_ended _ _ true)
  exact .tail (.tail (.single hopen) hshut) hclose

theorem allPooled_ending : ending.schedule.world.AllPooled := by
  have hrequests : ending.schedule.world.journal.filterMap Entry.request? = [(⟨"db", host, []⟩, 0)] := by
    decide +kernel
  intro protocol host props c hc
  have hmem : ((⟨protocol, host, props⟩ : PooledProvider.Request), c) ∈
      ending.schedule.world.journal.filterMap Entry.request? := List.mem_filterMap.2 ⟨_, hc, rfl⟩
  rw [hrequests] at hmem
  cases List.mem_singleton.1 hmem
  decide +kernel

end Late

/-- What was still lent when the router was shut down is closed when it comes back. -/
theorem closed_of_late_close : Run Late.router Late.beginning Late.ending ∧
    Late.shut.2.isClosed 0 = false ∧ Late.ending.schedule.world.opened = [0] ∧
    ∀ c ∈ Late.ending.schedule.world.opened, Late.ending.schedule.world.isClosed c = true := by
  refine ⟨Late.run_ending, by decide +kernel, by decide +kernel, ?_⟩
  refine closed_of_shutdown Late.ofSettings_router Late.started_beginning Late.run_ending rfl rfl (by decide +kernel) ?_
    Late.allPooled_ending
  intro k hk
  cases List.mem_singleton.1 hk
  decide +kernel

end Yard

end ReplicaRouter
