import ReplicaRouter.Proofs.Answering
import ReplicaRouter.Proofs.Leaks
import ReplicaRouter.Proofs.Touring
/-
The search for a reader. The one that is kept is used again, if it is open; else every reader is tried in the order in
which the selector picks them, none twice, until one can be connected; and the writer stands in only if none can.
Main statements: `Stand.Seeks.finds` follows the search, and `Tour.searches_switchTo` tells what a switch to a
reader comes to that has to change the current link.
-/
namespace ReplicaRouter

variable {D : Type} {others : World D → World D → Prop}

open Splitter

/-! ## Picks in range -/

namespace Selector

/-- Each pick among so many candidates, with one candidate fewer at every pick, is one of them. -/
def InRange : Selector → Nat → Prop
  | _, 0 => True
  | s, n + 1 => (∃ i < n + 1, (s.pick (n + 1)).1 = some i) ∧ (s.pick (n + 1)).2.InRange n

theorem isAutomatic_pick (s : Selector) (size : Nat) : (s.pick size).2.isAutomatic = s.isAutomatic := by
  cases s with
  | random draws next => by_cases hs : size = 0 <;> simp [pick, hs, isAutomatic]
  | roundRobin next => by_cases hs : size = 0 <;> simp [pick, hs, isAutomatic]
  | prescribed picks => cases picks <;> rfl

/-- Drawing and taking turns never pick out of range. -/
theorem inRange_of_isAutomatic {s : Selector} (h : s.isAutomatic = true) (n : Nat) : s.InRange n := by
  induction n generalizing s with
  | zero => trivial
  | succ n ih =>
    obtain ⟨i, hi, hp⟩ := exists_pick h n.succ_pos
    exact ⟨⟨i, hi, hp⟩, ih ((s.isAutomatic_pick _).trans h)⟩

end Selector

/-! ## Attempts in the journal -/

/-- The host that the entry tells a connection was asked of, if it tells so. -/
def Entry.asked? : Entry → Option Host
  | call (.connect _ host _ _) => some host
  | _ => none

namespace World

variable {w w' : World D}

/-- The hosts that connections were asked of, the latest first. -/
def asked (w : World D) : List Host := w.journal.filterMap Entry.asked?

/-- Between two worlds no connection was asked for. -/
def Unasked (w w' : World D) : Prop := w'.asked = w.asked

theorem Unasked.trans {u v w : World D} (h1 : u.Unasked v) (h2 : v.Unasked w) : u.Unasked w := Eq.trans h2 h1

theorem unasked_note {e : Entry} (h : e.asked? = none) (w : World D) : w.Unasked (Journaled.note e w) :=
  List.filterMap_cons_none h

theorem Aside.unasked (h : w.Aside w') : w.Unasked w' := congrArg (List.filterMap Entry.asked?) h.journal

instance [Bystanders others] : Frame others (Unasked (D := D)) :=
  ⟨fun _ => rfl, .trans, fun h => (Bystanders.aside h).unasked⟩

theorem lenient_unasked : Lenient (Unasked (D := D)) where
  edit _ journal := congrArg (List.filterMap Entry.asked?) journal
  note {e} uncalled w := by
    refine unasked_note ?_ w
    cases e with
    | call => cases uncalled
    | _ => rfl

/-- Closing a connection asks for none. -/
theorem forbearing_unasked [Backend D] [Bystanders others] : Forbearing others (Unasked (D := D)) where
  toLenient := lenient_unasked
  hangUp c w := (meets_call (Backend.close c) (fun r => .call (.close c r)) w).mono (fun _ h => h.unasked)
    fun r _ ⟨v, hv, hw⟩ => by
      rw [hw]
      exact hv.unasked.trans (unasked_note rfl v)

theorem Silent.unasked (h : w.Silent w') : w.Unasked w' := by
  obtain ⟨es, he, hj⟩ := h
  have hnone : es.filterMap Entry.asked? = [] := List.filterMap_eq_nil_iff.2 fun e hm => by
    have hcall := he e hm
    cases e with
    | call => cases hcall
    | _ => rfl
  rw [Unasked, asked, hj, List.filterMap_append, hnone]
  rfl

theorem Noted.unasked (h : w.Noted w') : w.Unasked w' := h.silent.unasked

theorem Books.unasked [Backend D] (h : w.Books w') : w.Unasked w' := h.silent.unasked

end World

section

variable [Backend D] [Bystanders others] {p q u : Place D} {props : Properties} {host : Host} {hosts : List Host}

/-- Where nothing is pooled, an attempt asks the host for one connection. -/
theorem Service.asked_connect {r : Except RouteError Link} (hp : p.service.providers.pooled = none)
    (h : Act.Ends others (Service.connect host props) p r q) : q.world.asked = host :: p.world.asked := by
  obtain ⟨v, u, hv, h⟩ := Act.ends_bind.1 h
  obtain ⟨rfl, rfl⟩ := Act.ends_get.1 hv
  obtain ⟨h, -⟩ := Act.ends_world.1 h
  have hnone : p.service.providers.pooledFor? host = none := by simp [Providers.pooledFor?, hp]
  obtain ⟨_, t, w, h1, h⟩ := Routine.ends_bind.1 h
  rw [hnone] at h
  obtain ⟨c, t', w', h2, h⟩ := Routine.ends_bind.1 h
  obtain ⟨-, -, hw⟩ := Routine.ends_pure.1 h
  obtain ⟨v, hv, hw'⟩ := (World.meets_dial _ _ _ w).ends h2
  have hlog : p.world.Unasked w := (World.noted_log h1).unasked
  rw [hw, hw']
  show host :: v.asked = _
  rw [hlog.trans hv.unasked]

/-- Attempts to connect hosts one after the other, all of which fail; what fails is written down. -/
inductive Place.Tries (others : World D → World D → Prop) (props : Properties) : Place D → List Host → Place D → Prop
  | start (p : Place D) : Tries others props p [] p
  | miss {p q t u : Place D} {host : Host} {hosts : List Host} {e : RouteError}
      (attempt : Act.Ends others (Service.connect host props) p (.error e) q) (service : t.service = q.service)
      (noted : q.world.Noted t.world) (rest : Tries others props t hosts u) : Tries others props p (host :: hosts) u

namespace Place.Tries

theorem service_eq (h : p.Tries others props hosts q) : q.service = p.service := by
  induction h with
  | start => rfl
  | miss attempt service _ _ ih => exact ih.trans (service.trans (Service.ends_connect attempt).1)

/-- Where nothing is pooled, each host is asked once, in this order. -/
theorem asked_eq (h : p.Tries others props hosts q) (hp : p.service.providers.pooled = none) :
    q.world.asked = hosts.reverse ++ p.world.asked := by
  induction h with
  | start => rfl
  | miss attempt service noted _ ih =>
    have hservice := service.trans (Service.ends_connect attempt).1
    rw [ih (by rw [hservice]; exact hp), noted.unasked, Service.asked_connect hp attempt]
    simp

end Place.Tries

end

/-! ## The search -/

/-- What came of trying candidates by the time that another place is reached: one was found after others were tried in
vain, or all were tried in vain, if no pick was out of range. -/
def Stand.Finds [Backend D] (others : World D → World D → Prop) (s : Stand D) (hosts : List Host) (q : Place D) :
    Option HostLink → Prop
  | some l => ∃ tried rest p, (tried ++ l.2 :: rest).Perm hosts ∧ s.toPlace.Tries others s.splitter.props tried p ∧
      Act.Ends others (Service.connect l.2 s.splitter.props) p (.ok l.1) q
  | none => ∃ tried, s.toPlace.Tries others s.splitter.props tried q ∧
      (s.splitter.selector.InRange hosts.length → tried.Perm hosts)

/-- What is left of candidates once one of them was tried. -/
theorem Split.perm_of_picked {hosts tried : List Host} {i : Nat} {host : Host} (hi : hosts[i]? = some host)
    (h : tried.Perm (hosts.eraseIdx i)) : (host :: tried).Perm hosts := by
  obtain ⟨hlt, rfl⟩ := List.getElem?_eq_some_iff.1 hi
  exact (h.cons _).trans (List.getElem_cons_eraseIdx_perm hlt)

/-- The candidates are tried one after the other until one can be connected. -/
theorem Stand.Seeks.finds [Backend D] {s s' : Stand D} {room : Nat} {hosts : List Host} {found : Option HostLink}
    (h : Seeks others room hosts s found s') (hroom : hosts.length < room) :
    s'.splitter = { s.splitter with selector := s'.splitter.selector } ∧ s.Finds others hosts s'.toPlace found := by
  induction h with
  | spent => exact absurd hroom (Nat.not_lt_zero _)
  | @unpicked _ hosts _ _ _ picks absent =>
    obtain ⟨rfl, rfl⟩ := Split.ends_pick picks
    refine ⟨rfl, [], .start _, fun hr => ?_⟩
    cases hosts with
    | nil => exact .nil
    | cons host hosts =>
      obtain ⟨⟨i, hi, hpick⟩, -⟩ := hr
      rw [List.length_cons, hpick, Option.bind_some, List.getElem?_eq_getElem hi] at absent
      cases absent
  | @connects _ hosts i _ _ s _ _ picks candidate attempt =>
    obtain ⟨-, rfl⟩ := Split.ends_pick picks
    obtain ⟨hattempt, hx⟩ := Split.ends_act.1 attempt
    exact ⟨by rw [hx], [], hosts.eraseIdx i, s.toPlace, Split.perm_of_picked candidate (.refl _), .start _, hattempt⟩
  | @misses _ hosts i host _ found s _ _ t s' picks candidate attempt noted _ ih =>
    obtain ⟨-, rfl⟩ := Split.ends_pick picks
    obtain ⟨hattempt, hx⟩ := Split.ends_act.1 attempt
    have hlength : (hosts.eraseIdx i).length + 1 = hosts.length :=
      List.length_eraseIdx_add_one (List.getElem?_eq_some_iff.1 candidate).1
    have ht : t.splitter = { s.splitter with selector := (s.splitter.selector.pick hosts.length).2 } :=
      noted.splitter.trans hx
    obtain ⟨hsplitter, hrest⟩ := ih (by omega)
    unfold Finds at hrest
    rw [ht] at hsplitter hrest
    refine ⟨hsplitter, ?_⟩
    cases found with
    | some l =>
      obtain ⟨tried, rest, p, hperm, htries, hconnect⟩ := hrest
      exact ⟨host :: tried, rest, p, Split.perm_of_picked candidate hperm,
        .miss hattempt noted.service noted.world htries, hconnect⟩
    | none =>
      obtain ⟨tried, htries, hall⟩ := hrest
      refine ⟨host :: tried, .miss hattempt noted.service noted.world htries, fun hr =>
        Split.perm_of_picked candidate (hall ?_)⟩
      -- the picks that are left are in range for the candidates that are left
      show Selector.InRange (s.splitter.selector.pick hosts.length).2 _
      rw [← hlength] at hr ⊢
      exact hr.2

/-! ## What the search comes to -/

namespace Stand

variable [Backend D]

/-- Between two stands a link became current, and the splitter came to what is said, but for how often it picked and
switched, and for the link that was left behind. -/
structure ComesTo (s : Stand D) (x : Splitter) (l : HostLink) (s' : Stand D) : Prop where
  link : s'.service.link? = some l.1
  service : s'.service = { s.service with current := s'.service.current }
  splitter : s'.splitter = { x with
    selector := s'.splitter.selector
    switches := s'.splitter.switches
    stale := s'.splitter.stale }

/-- Between two stands nothing was changed but for how often the splitter picked, and for the link that was left
behind. -/
structure StaysAt (s s' : Stand D) : Prop where
  service : s'.service = s.service
  splitter : s'.splitter = { s.splitter with selector := s'.splitter.selector, stale := s'.splitter.stale }

/-- What a switch to a reader comes to that has to change the current link where there are several hosts; the attempts
to connect that it makes are listed in order. -/
inductive Searches (others : World D → World D → Prop) (s : Stand D) :
    List Host → Except RouteError Unit → Stand D → Prop
  /-- The open link that is kept for reading is used again. -/
  | reuses {l : HostLink} {s' : Stand D} (slot : openSlot s.world s.splitter.reader = some l)
      (unasked : s.world.Unasked s'.world) (comes : s.ComesTo s.splitter l s') : Searches others s [] (.ok ()) s'
  /-- The first reader that can be connected is read from, and no reader was tried twice. -/
  | connects {tried rest : List Host} {host : Host} {l : Link} {p q : Place D} {s' : Stand D}
      (shut : openSlot s.world s.splitter.reader = none)
      (order : (tried ++ host :: rest).Perm (Topology.readers s.world.hosts.topology))
      (tries : s.toPlace.Tries others s.splitter.props tried p)
      (attempt : Act.Ends others (Service.connect host s.splitter.props) p (.ok l) q)
      (unasked : q.world.Unasked s'.world)
      (comes : s.ComesTo { s.splitter with reader := some (l, host) } (l, host) s') :
      Searches others s (tried ++ [host]) (.ok ()) s'
  /-- Every reader was tried in vain, and the open link that is kept for writing is read from. -/
  | fallsBack {tried : List Host} {l : HostLink} {p : Place D} {s' : Stand D}
      (shut : openSlot s.world s.splitter.reader = none)
      (all : tried.Perm (Topology.readers s.world.hosts.topology))
      (tries : s.toPlace.Tries others s.splitter.props tried p)
      (slot : openSlot p.world s.splitter.writer = some l) (unasked : p.world.Unasked s'.world)
      (comes : s.ComesTo { s.splitter with reader := some l, fallbacks := s.splitter.fallbacks.increment.1 } l s') :
      Searches others s tried (.ok ()) s'
  /-- Every reader was tried in vain, no open link is kept for writing, and the first writer is read from. -/
  | dials {tried : List Host} {host : Host} {l : Link} {p q : Place D} {s' : Stand D}
      (shut : openSlot s.world s.splitter.reader = none)
      (all : tried.Perm (Topology.readers s.world.hosts.topology))
      (tries : s.toPlace.Tries others s.splitter.props tried p)
      (shut' : openSlot p.world s.splitter.writer = none)
      (first : Topology.writer? p.world.hosts.topology = some host)
      (attempt : Act.Ends others (Service.connect host s.splitter.props) p (.ok l) q)
      (unasked : q.world.Unasked s'.world)
      (comes : s.ComesTo { s.splitter with
        writer := some (l, host)
        reader := some (l, host)
        fallbacks := s.splitter.fallbacks.increment.1 } (l, host) s') :
      Searches others s (tried ++ [host]) (.ok ()) s'
  /-- Every reader was tried in vain, and there is no writer. -/
  | missing {tried : List Host} {p : Place D} {s' : Stand D} (shut : openSlot s.world s.splitter.reader = none)
      (all : tried.Perm (Topology.readers s.world.hosts.topology))
      (tries : s.toPlace.Tries others s.splitter.props tried p)
      (shut' : openSlot p.world s.splitter.writer = none)
      (absent : Topology.writer? p.world.hosts.topology = none) (unasked : p.world.Unasked s'.world)
      (stays : s.StaysAt s') :
      Searches others s tried (.error (.connectionUnavailable "no writer host in topology")) s'
  /-- Every reader was tried in vain, and so was the first writer. -/
  | refused {tried : List Host} {host : Host} {e : RouteError} {p q : Place D} {s' : Stand D}
      (shut : openSlot s.world s.splitter.reader = none)
      (all : tried.Perm (Topology.readers s.world.hosts.topology))
      (tries : s.toPlace.Tries others s.splitter.props tried p)
      (shut' : openSlot p.world s.splitter.writer = none)
      (first : Topology.writer? p.world.hosts.topology = some host)
      (attempt : Act.Ends others (Service.connect host s.splitter.props) p (.error e) q)
      (unasked : q.world.Unasked s'.world) (stays : s.StaysAt s') :
      Searches others s (tried ++ [host])
        (.error (.connectionUnavailable ("unable to connect to writer " ++ host.text ++ ": " ++ e.message))) s'

variable [Bystanders others] {s u v s' : Stand D} {attempts : List Host} {r : Except RouteError Unit}

namespace Searches

omit [Bystanders others] in
/-- There are at most as many attempts as readers, and one more. -/
theorem length_le (h : s.Searches others attempts r s') :
    attempts.length ≤ (Topology.readers s.world.hosts.topology).length + 1 := by
  cases h with
  | reuses => exact Nat.zero_le _
  | connects _ order =>
    have := order.length_eq
    simp only [List.length_append, List.length_cons, List.length_nil] at this ⊢
    omega
  | fallsBack _ all => exact Nat.le_succ_of_le (Nat.le_of_eq all.length_eq)
  | dials _ all | missing _ all | refused _ all => simp [all.length_eq]

/-- Where nothing is pooled, the attempts are all the connections that are asked for. -/
theorem asked_eq (h : s.Searches others attempts r s') (hp : s.service.providers.pooled = none) :
    s'.world.asked = attempts.reverse ++ s.world.asked := by
  have hone : ∀ {tried : List Host} {host : Host} {x : Except RouteError Link} {p q : Place D},
      s.toPlace.Tries others s.splitter.props tried p →
      Act.Ends others (Service.connect host s.splitter.props) p x q → q.world.Unasked s'.world →
      s'.world.asked = (tried ++ [host]).reverse ++ s.world.asked := by
    intro tried host x p q tries attempt unasked
    have hpooled : p.service.providers.pooled = none := by rw [tries.service_eq]; exact hp
    rw [unasked, Service.asked_connect hpooled attempt, tries.asked_eq hp]
    simp
  cases h with
  | reuses _ unasked => exact unasked
  | connects _ _ tries attempt unasked => exact hone tries attempt unasked
  | fallsBack _ _ tries _ unasked => rw [unasked]; exact tries.asked_eq hp
  | dials _ _ tries _ _ attempt unasked => exact hone tries attempt unasked
  | missing _ _ tries _ _ unasked => rw [unasked]; exact tries.asked_eq hp
  | refused _ _ tries _ _ attempt unasked => exact hone tries attempt unasked

end Searches

/-! ### The current link is out of the question -/

section Current

variable [Backend.Lasting D]

/-- What is usable later was so before, if the same link is current and the same one was left behind. -/
theorem usable_of_later {l : HostLink} (hs : s.Known) (hg : s.world.Grows u.world) (hl : s.world.Lapses u.world)
    (hc : u.service.current = s.service.current) (hst : u.splitter.stale = s.splitter.stale)
    (h : u.usable = some l) : s.usable = some l := by
  obtain ⟨hcurrent, hopen, hstale⟩ := usable_eq_some h
  rw [hc] at hcurrent
  rw [hst] at hstale
  have hknown : s.world.Knows l.1 := hs l.1 (reaches_or_stale (congrArg (Option.map Prod.fst) hcurrent))
  refine Option.filter_eq_some_iff.2 ⟨hcurrent, ?_⟩
  have hopen : s.world.isLinkClosed l.1 = false := by
    refine Bool.eq_false_iff.2 fun hclosed => ?_
    rw [World.isLinkClosed_of_lapses hg hl hknown hclosed] at hopen
    cases hopen
  simp [isStale, hopen, hstale]

omit [Backend.Lasting D] in
/-- Once a usable current link to a writer that is not read from is remembered, it is the one that is kept for
writing. -/
theorem Remembers.holds_writer {l : HostLink} (hu : s.Remembers u) (ho : s.seats.Ordered) (husable : s.usable = some l)
    (role : l.2.isWriter = true) (unread : holds s.splitter.reader l.1 = false) :
    holds u.splitter.writer l.1 = true := by
  obtain ⟨hcurrent, hopen, hstale⟩ := usable_eq_some husable
  have hwriter : u.splitter.writer = s.remember Host.isWriter s.splitter.writer := by rw [hu.splitter]; rfl
  rw [hwriter, remember_of_fits husable role]
  rcases ho.onWriter l ⟨hcurrent, hstale⟩ role with hw | hw | hr
  · rw [show s.splitter.writer = none from hw]
    exact Seats.holds_self l
  · obtain ⟨host, hw⟩ := holds_iff.1 hw
    rw [show s.splitter.writer = some (l.1, host) from hw, if_neg (by simp [openSlot, Option.filter, hopen])]
    exact Seats.holds_self (l.1, host)
  · exact absurd hr (Bool.eq_false_iff.1 unread)

/-- Where a search is called for, a usable link to a writer is one that is kept for writing. -/
theorem openSlot_ne_none_of_usable {l : HostLink} (hs : s.Known) (ho : s.seats.Ordered) (stuck : s.Stuck true)
    (many : Topology.isSingle s.world.hosts.topology = false) (hu : s.Remembers u) (hg : u.world.Grows v.world)
    (hl : u.world.Lapses v.world) (hc : v.service.current = u.service.current)
    (hx : v.splitter.writer = u.splitter.writer ∧ v.splitter.stale = u.splitter.stale) (h : v.usable = some l)
    (role : l.2.isWriter = true) : openSlot v.world v.splitter.writer ≠ none := by
  have hstale : v.splitter.stale = s.splitter.stale := by rw [hx.2, hu.splitter]; rfl
  have husable : s.usable = some l := usable_of_later hs (hu.books.grows.trans hg) (hu.books.lapses.trans hl)
    (by rw [hc, hu.service]) hstale h
  have hserves := any_usable_serves.2 stuck
  rw [husable, Option.any_some, serves, if_pos rfl, many, Bool.false_and, Bool.or_false] at hserves
  obtain ⟨host, hkept⟩ := holds_iff.1 (hu.holds_writer ho husable role (Bool.or_eq_false_iff.1 hserves).1)
  rw [hx.1, hkept]
  simp [openSlot, Option.filter, (usable_eq_some h).2.1]

end Current

end Stand

namespace Split

variable [Backend D] [Bystanders others] {s u v w s' : Stand D} {r : Except RouteError Unit} {l : HostLink} {a : Unit}

/-- What comes after the turn to a role: at most the link that was left behind is released. -/
theorem calm_after (h : (∃ e, r = .error e ∧ v.Noted s') ∨
      r = .ok () ∧ ∃ t, Split.Ends others releaseStale v () t ∧ t.Noted s') :
    s'.service = v.service ∧ s'.splitter = { v.splitter with stale := s'.splitter.stale } ∧
      v.world.Unasked s'.world := by
  rcases h with ⟨e, -, hn⟩ | ⟨-, t, ht, hn⟩
  · exact ⟨hn.service, by rw [hn.splitter], hn.world.unasked⟩
  · obtain ⟨hservice, hsplitter⟩ := (releases_releaseStale ht).alone
    refine ⟨hn.service.trans hservice, ?_, (World.forbearing_unasked.keeps_releaseStale ht).trans hn.world.unasked⟩
    rw [hn.splitter, hsplitter]

theorem unasked_readFrom (h : Split.Ends others (readFrom l) s a s') : s.world.Unasked s'.world :=
  World.lenient_unasked.keeps_readFrom l h

/-- Reading from a link and what comes after it. -/
theorem comesTo_readFrom {x : Splitter} (hservice : s.service = u.service)
    (hsplitter : s.splitter = { x with selector := s.splitter.selector })
    (h : Split.Ends others (readFrom l) s a v)
    (hafter : s'.service = v.service ∧ s'.splitter = { v.splitter with stale := s'.splitter.stale } ∧
      v.world.Unasked s'.world) :
    u.ComesTo { x with reader := some l } l s' ∧ s.world.Unasked s'.world := by
  obtain ⟨hlink, hv, hx⟩ := lands_readFrom h
  obtain ⟨hservice', hsplitter', hunasked⟩ := hafter
  refine ⟨⟨?_, ?_, ?_⟩, (unasked_readFrom h).trans hunasked⟩
  · rw [hservice']; exact hlink
  · rw [hservice', hv, ← hservice]
  · rw [hsplitter', hx]
    dsimp only
    rw [hsplitter]

/-- A search for a new link to a reader tries the readers there are. -/
theorem tries_connectReader {found : Option HostLink} (h : Split.Ends others connectReader u found w) :
    w.service = u.service ∧ w.splitter = { u.splitter with selector := w.splitter.selector } ∧
      u.Finds others (Topology.readers u.world.hosts.topology) w.toPlace found := by
  obtain ⟨hsplitter, hfound⟩ := (seeks_connectReader h).finds (Nat.lt_succ_self _)
  refine ⟨?_, hsplitter, hfound⟩
  cases found with
  | some l =>
    obtain ⟨tried, rest, p, -, htries, hconnect⟩ := hfound
    exact (Service.ends_connect hconnect).1.trans htries.service_eq
  | none =>
    obtain ⟨tried, htries, -⟩ := hfound
    exact htries.service_eq

/-- Falling back on a link: it is counted, and the link is read from. -/
theorem comesTo_fallBack {t t' : Stand D} {x : Splitter} (hservice : s.service = u.service)
    (hsplitter : s.splitter = { x with selector := s.splitter.selector }) (noted : s.Noted t)
    (counts : Split.Ends others countFallback t () t') (reads : Split.Ends others (readFrom l) t' () v)
    (hafter : s'.service = v.service ∧ s'.splitter = { v.splitter with stale := s'.splitter.stale } ∧
      v.world.Unasked s'.world) :
    u.ComesTo { x with reader := some l, fallbacks := x.fallbacks.increment.1 } l s' ∧
      s.world.Unasked s'.world := by
  obtain ⟨hv, hx, hn⟩ := ends_countFallback counts
  rw [noted.splitter, hsplitter] at hx
  obtain ⟨hcomes, hunasked⟩ := comesTo_readFrom (u := u) (x := { x with fallbacks := x.fallbacks.increment.1 })
    (hv.trans (noted.service.trans hservice)) (by rw [hx]) reads hafter
  exact ⟨hcomes, noted.world.unasked.trans (hn.unasked.trans hunasked)⟩

/-- What changing over to a reader comes to, if a usable current link to a writer is out of the question. -/
theorem searches_of_leaves (h : u.Leaves others r v)
    (hrange : u.splitter.selector.InRange (Topology.readers u.world.hosts.topology).length)
    (hnot : ∀ {w : Stand D} {l : HostLink}, Split.Ends others connectReader u none w → w.usable = some l →
      l.2.isWriter = true → openSlot w.world w.splitter.writer ≠ none)
    (hafter : s'.service = v.service ∧ s'.splitter = { v.splitter with stale := s'.splitter.stale } ∧
      v.world.Unasked s'.world) :
    ∃ attempts, u.Searches others attempts r s' := by
  cases h with
  | @reuses l t _ slot noted arrives =>
    -- nothing is asked of the driver: the search is over with the kept link
    obtain ⟨hlink, hv, hx⟩ := lands_makeCurrent arrives
    obtain ⟨hservice, hsplitter, hunasked⟩ := hafter
    have hmade : t.world.Unasked v.world := World.lenient_unasked.keeps_makeCurrent l arrives
    refine ⟨[], .reuses slot (noted.world.unasked.trans (hmade.trans hunasked)) ⟨?_, ?_, ?_⟩⟩
    · rw [hservice]; exact hlink
    · rw [hservice, hv, noted.service]
    · rw [hsplitter, hx, noted.splitter]
  | @opens l w t _ shut search noted reads =>
    obtain ⟨hservice, hsplitter, tried, rest, p, order, tries, attempt⟩ := tries_connectReader search
    rw [← noted.splitter] at hsplitter
    obtain ⟨hcomes, hunasked⟩ := comesTo_readFrom (noted.service.trans hservice) hsplitter reads hafter
    exact ⟨_, .connects shut order tries attempt (noted.world.unasked.trans hunasked) hcomes⟩
  | @fallsBack l w w' t t' _ shut search fetches noted counts reads =>
    -- no reader was reached, and the writer stands in: kept, or connected as the last of all attempts
    obtain ⟨hservice, hsplitter, tried, tries, all⟩ := tries_connectReader search
    have hwriter : w.splitter.writer = u.splitter.writer := by rw [hsplitter]
    have hprops : w.splitter.props = u.splitter.props := by rw [hsplitter]
    cases fetches with
    | kept slot =>
      obtain ⟨hcomes, hunasked⟩ := comesTo_fallBack hservice hsplitter noted counts reads hafter
      exact ⟨tried, .fallsBack shut (all hrange) tries (hwriter ▸ slot) hunasked hcomes⟩
    | current shut' usable role => exact absurd shut' (hnot search usable role)
    | @dialed host l u₁ _ shut' unfit first attempt sets =>
      obtain ⟨hattempt, hx₁⟩ := ends_act.1 attempt
      obtain ⟨hv, hx⟩ := ends_setWriter sets
      rw [hx₁, hsplitter] at hx
      obtain ⟨hcomes, hunasked⟩ := comesTo_fallBack (u := u) (x := { u.splitter with writer := some (l, host) })
        (hv.trans ((Service.ends_connect hattempt).1.trans hservice)) (by rw [hx]) noted counts reads hafter
      have hset : u₁.world.Unasked w'.world := World.lenient_unasked.keeps_setWriter _ sets
      rw [hprops] at hattempt
      refine ⟨tried ++ [host], ?_⟩
      exact .dials shut (all hrange) tries (hwriter ▸ shut') first hattempt (hset.trans hunasked) hcomes
  | @fails e w _ shut search fetches =>
    -- the writer could not be had either, so the slots are as the search for a reader left them
    obtain ⟨hservice, hsplitter, tried, tries, all⟩ := tries_connectReader search
    have hwriter : w.splitter.writer = u.splitter.writer := by rw [hsplitter]
    have hprops : w.splitter.props = u.splitter.props := by rw [hsplitter]
    obtain ⟨hservice', hsplitter', hunasked⟩ := hafter
    cases fetches with
    | missing shut' unfit absent =>
      refine ⟨tried, .missing shut (all hrange) tries (hwriter ▸ shut') absent hunasked ⟨hservice'.trans hservice, ?_⟩⟩
      rw [hsplitter', hsplitter]
    | @refused host e _ shut' unfit first attempt =>
      obtain ⟨hattempt, hx⟩ := ends_act.1 attempt
      have hservice := (Service.ends_connect hattempt).1.trans hservice
      rw [hprops] at hattempt
      refine ⟨tried ++ [host], .refused shut (all hrange) tries (hwriter ▸ shut') first hattempt hunasked
        ⟨hservice'.trans hservice, ?_⟩⟩
      rw [hsplitter', hx, hsplitter]

end Split

/-! ## Switching to a reader -/

section Switch

variable [Backend D] [Backend.Lasting D] [Lasting others]

/-- What a switch to a reader comes to that has to change the current link, where there are several hosts and no
transaction is open. -/
theorem Stand.searches_of_stuck {s s' : Stand D} {r : Except RouteError Unit} (hs : s.Known) (ho : s.seats.Ordered)
    (free : s.service.inTransaction = false) (many : Topology.isSingle s.world.hosts.topology = false)
    (stuck : s.Stuck true)
    (hrange : s.splitter.selector.InRange (Topology.readers s.world.hosts.topology).length)
    (h : Split.Ends others (Split.switchTo true) s r s') :
    ∃ u attempts, s.Remembers u ∧ u.Searches others attempts r s' := by
  obtain ⟨s₁, v, hn, hturn, hafter⟩ := Split.ends_turn h
  obtain ⟨u, hrecalls, hturn⟩ := Split.turns_switchToReader hturn
  have hu := hrecalls.remembers
  have hsu : s.Remembers u := hn.remembers hu
  have hhosts : s₁.world.hosts = s.world.hosts := hn.world.books.hosts
  have hstuck₁ : s₁.Stuck true := (hn.remembered_eq.2 true).2 stuck
  have hserves := Stand.any_usable_serves.2 hstuck₁
  -- no kind of turn but the last is left: the link has to change, there are several hosts, nothing is pinned
  cases hturn with
  | @stays l usable fits =>
    rw [usable, Option.any_some, Stand.serves, if_pos rfl, ← Stand.isOnReader_remembered usable, ← hu.splitter, fits]
      at hserves
    cases hserves
  | shares _ _ single => rw [hhosts, many] at single; cases single
  | refused _ busy => rw [hn.service, free] at busy; cases busy
  | settles _ _ single => rw [hhosts, many] at single; cases single
  | leaves _ _ _ leaves =>
    have hreaders : u.world.hosts = s.world.hosts := hsu.books.hosts
    have hselector : u.splitter.selector = s.splitter.selector := by rw [hsu.splitter]; rfl
    -- a usable link to a writer was remembered at the start, so the slot for the writer is not empty
    have hnot : ∀ {w : Stand D} {l : HostLink}, Split.Ends others Split.connectReader u none w → w.usable = some l →
        l.2.isWriter = true → openSlot w.world w.splitter.writer ≠ none := by
      intro w l hsearch husable role
      obtain ⟨hservice, hsplitter, -⟩ := Split.tries_connectReader hsearch
      have hlapses : u.world.Lapses w.world :=
        Split.keeps_bind Split.keeps_hosts (fun _ => (World.patient_lapses others).keeps_tryReaders _ _) hsearch
      exact Stand.openSlot_ne_none_of_usable hs ho stuck many hsu (Split.ends_connectReader hsearch).1.upkeep.grows
        hlapses (by rw [hservice]) ⟨by rw [hsplitter], by rw [hsplitter]⟩ husable role
    obtain ⟨attempts, hsearch⟩ := Split.searches_of_leaves leaves (by rw [hselector, hreaders]; exact hrange) hnot
      (Split.calm_after hafter)
    exact ⟨u, attempts, hsu, hsearch⟩

omit [Backend.Lasting D] in
/-- The link that is kept for reading stays while the current link is remembered, if a mode for reading asks for
another one. -/
theorem Stand.Remembers.reader_eq {s u : Stand D} (h : s.Remembers u) (stuck : s.Stuck true) :
    u.splitter.reader = s.splitter.reader := by
  have hreader : u.splitter.reader = s.remember Host.isReader s.splitter.reader := by rw [h.splitter]; rfl
  rcases s.remember_eq Host.isReader s.splitter.reader with hsame | ⟨-, l, husable, role, -⟩
  · exact hreader.trans hsame
  · have hserves := Stand.any_usable_serves.2 stuck
    rw [husable, Option.any_some, Stand.serves, isOnReader, role, Bool.or_true] at hserves
    cases hserves

variable [Backend.Answering D] [Std.Refl others]

/-- A switch to a reader that has to change the current link, where there are several hosts and no transaction is open,
comes to an end. It uses the open link that is kept for reading, or tries every reader at most once until one can be
connected, or makes do with the writer after every reader was tried in vain. -/
theorem Tour.searches_switchTo {s s' : Session D} {ds : List (Demand D)} (ho : s.Opens others)
    (h : Tour others s ds s') (free : s'.service.inTransaction = false)
    (many : Topology.isSingle s'.world.hosts.topology = false) (stuck : s'.toStand.Stuck true)
    (inRange : s'.splitter.selector.InRange (Topology.readers s'.world.hosts.topology).length) :
    (∃ r t, Split.Ends others (Split.switchTo true) s'.toStand r t) ∧
      ∀ r t, Split.Ends others (Split.switchTo true) s'.toStand r t →
        ∃ u attempts, s'.toStand.Remembers u ∧ u.splitter.reader = s'.splitter.reader ∧
          u.Searches others attempts r t ∧
          attempts.length ≤ (Topology.readers s'.world.hosts.topology).length + 1 ∧
          (s'.service.providers.pooled = none → t.world.asked = attempts.reverse ++ s'.world.asked) := by
  refine ⟨Split.prompt_switchTo true s'.toStand, fun r t ht => ?_⟩
  obtain ⟨u, attempts, hu, hsearch⟩ :=
    Stand.searches_of_stuck (h.known ho) (h.ordered ho) free many stuck inRange ht
  have hhosts : u.world.hosts = s'.world.hosts := hu.books.hosts
  have hasked : u.world.asked = s'.world.asked := hu.books.unasked
  refine ⟨u, attempts, hu, hu.reader_eq stuck, hsearch, hhosts ▸ hsearch.length_le, fun hp => ?_⟩
  rw [hsearch.asked_eq (by rw [hu.service]; exact hp), hasked]

end Switch

namespace Stage

/-- The session on the writer, while the reader is down. -/
def forlorn : Session Sim.Cluster :=
  session.later 0 { session.world with
    backend := session.world.backend.modifyScript "r" fun h => { h with failing := some none } }

theorem tour_forlorn : Tour World.Lasts session [] forlorn :=
  .aside .start ⟨.of_eq rfl rfl, fun _ hc => hc, fun _ hc => hc⟩ (Nat.le_refl _)

end Stage

/-- The writer stands in where the only reader is down. -/
theorem Tour.searches_switchTo_of_stage :
    ∃ r t u attempts, Split.Ends World.Lasts (Split.switchTo true) Stage.forlorn.toStand r t ∧
      Stage.forlorn.toStand.Remembers u ∧ u.Searches World.Lasts attempts r t ∧ attempts.length ≤ 2 := by
  have h := searches_switchTo Stage.lasts_session Stage.tour_forlorn (by decide +kernel) (by decide +kernel)
    (Stand.any_usable_serves.1 (by decide +kernel)) (Selector.inRange_of_isAutomatic rfl _)
  obtain ⟨⟨r, t, hends⟩, hall⟩ := h
  obtain ⟨u, attempts, hu, -, hsearch, hlength, -⟩ := hall r t hends
  exact ⟨r, t, u, attempts, hends, hu, hsearch, hlength⟩

end ReplicaRouter
