import ReplicaRouter.Proofs.Stakes
/-
The ledger of a pool: who has its permits, and where its connections are. A permit is free, promised to
someone in the queue, with a handle that is out, or with a call that waits; a connection is idle, with
such a handle, with such a call, or left to be closed.
Main statements: each thing that the calls of a pool do to the world keeps the ledger, with the stake of
the call changed in return (`World.Ledger.take` to `World.Ledger.adopt`).
-/
namespace ReplicaRouter

variable {D : Type}

/-! ## The ledger -/

namespace World

open Stake

variable [Backend D]

/-- Where the connections of a pool are. -/
def places (P : Pool) (w : World D) (g : Multiset Stake) : Multiset ConnId :=
  P.idle + w.lent + w.orphans + connsOf g

/-- What the waiting calls have, the pool and the world agree with each other, for a pool of this size. -/
structure Ledger (O : Backend.Outlook D) (p : PoolId) (size : Nat) (P : Pool) (w : World (Metered D))
    (g : Multiset Stake) : Prop where
  marks : w.Marks p (handlesOf g)
  active : P.active = w.lent.length
  permits : P.permits.unused + w.lent.length + permitsOf g = size
  tickets : ticketsOf g = P.permits.queue
  meter : w.backend.dialing = g.count dialing
  room : (places P w g).card + g.count dialing ≤ size
  tracks : O.Tracks w (places P w g)
  /-- While the pool is open there is no connection to be closed. -/
  settled : P.closed = false → w.orphans = [] ∧ ∀ c, leaving c ∉ g

namespace Ledger

variable {O : Backend.Outlook D} {p : PoolId} {size : Nat} {P P' : Pool} {w w' : World (Metered D)}
  {g g' : Multiset Stake} {c : ConnId} {h : HandleId} {t : Ticket}

/-- What happens to the driver or is written down does not matter, as long as nothing is opened. -/
theorem later (hl : Ledger O p size P w g) (hw : O.Follows w w') (ho : w'.opened = w.opened)
    (hh : w'.handles = w.handles) (horphans : w'.orphans = w.orphans)
    (hd : w'.backend.dialing = w.backend.dialing) : Ledger O p size P w' g := by
  have hlent : w'.lent = w.lent := by rw [lent, hh]; rfl
  have hplaces : places P w' g = places P w g := by rw [places, hlent, horphans]; rfl
  refine ⟨hl.marks.of_eq hh, hlent ▸ hl.active, hlent ▸ hl.permits, hl.tickets, hd ▸ hl.meter, hplaces ▸ hl.room,
    ?_, ?_⟩
  · rw [hplaces]; exact hl.tracks.later hw ho
  · rw [horphans]; exact hl.settled

/-- Permits and connections that pass from one holder to another, and connections that are over, leave the
ledger in order. -/
theorem pass (lost : Multiset ConnId) (hl : Ledger O p size P w g) (hw : w' = { w with orphans := w'.orphans })
    (hhandles : handlesOf g' = handlesOf g) (hactive : P'.active = P.active)
    (hpermits : P'.permits.unused + permitsOf g' = P.permits.unused + permitsOf g)
    (htickets : ticketsOf g' = P'.permits.queue)
    (hdialing : g'.count dialing = g.count dialing) (hplaces : places P w g = lost + places P' w' g')
    (hlost : ∀ c ∈ lost, O.Gone c w)
    (hsettled : P'.closed = false → w'.orphans = [] ∧ ∀ c, leaving c ∉ g') : Ledger O p size P' w' g' := by
  have hlent : w'.lent = w.lent := by rw [hw]; rfl
  have hback : w'.backend = w.backend := by rw [hw]
  have hmarks : w'.Marks p (handlesOf g') := by
    rw [hhandles]
    exact hl.marks.of_eq (by rw [hw])
  -- connections may be lost on the way, but only such as are gone
  have htracks : O.Tracks w' (places P' w' g') := by
    have h := (hplaces ▸ hl.tracks).drop hlost
    exact h.later (.of_eq (by rw [hback]) (by rw [hw])) (by rw [hw]; rfl)
  refine ⟨hmarks, ?_, ?_, htickets, ?_, ?_, htracks, hsettled⟩
  · rw [hactive, hlent]; exact hl.active
  · have h := hl.permits
    rw [hlent]
    omega
  · rw [hback, hdialing]; exact hl.meter
  · have h := hl.room
    rw [hplaces, Multiset.card_add] at h
    omega

/-! ### Permits -/

/-- A permit that changes hands, or a place in the queue that is taken or given up. -/
theorem permit_pass {q : Permits} (hl : Ledger O p size P w g)
    (hhandles : handlesOf g' = handlesOf g) (hconns : connsOf g' = connsOf g)
    (hdialing : g'.count dialing = g.count dialing) (hleaving : ∀ c, leaving c ∈ g' → leaving c ∈ g)
    (hpermits : q.unused + permitsOf g' = P.permits.unused + permitsOf g)
    (htickets : ticketsOf g' = q.queue) : Ledger O p size { P with permits := q } w g' := by
  have hplaces : places P w g = 0 + places { P with permits := q } w g' := by
    rw [zero_add, places, places, hconns]
  refine hl.pass 0 rfl hhandles rfl hpermits htickets hdialing hplaces (by simp) fun hopen => ?_
  obtain ⟨horphans, hg⟩ := hl.settled hopen
  exact ⟨horphans, fun c hc => hg c (hleaving c hc)⟩

theorem take {q : Permits} (hl : Ledger O p size P w g) (hq : P.permits.take? = some q) :
    Ledger O p size { P with permits := q } w (permit ::ₘ g) := by
  have hcount := Permits.unused_take? hq
  refine hl.permit_pass (by simp) (by simp) (by simp) (by simp) ?_ ?_
  · simp
    omega
  · simp [hl.tickets, Permits.queue_take? hq]

theorem join (hl : Ledger O p size P w g) :
    Ledger O p size (P.modifyPermits Permits.join) w (queued P.permits.next ::ₘ g) := by
  refine hl.permit_pass (by simp) (by simp) (by simp) (by simp) ?_ ?_
  · simp [Permits.unused_join]
  · rw [ticketsOf_cons, hl.tickets, Permits.queue_join]
    exact Multiset.singleton_add _ _

theorem pickUp (hl : Ledger O p size P w (queued t ::ₘ g)) (ht : P.permits.isGranted t = true) :
    Ledger O p size (P.modifyPermits (·.pickUp t)) w (permit ::ₘ g) := by
  have hcount := Permits.unused_pickUp ht
  have hqueue : t ::ₘ ticketsOf g = t ::ₘ (P.permits.pickUp t).queue := by
    rw [Permits.queue_pickUp ht, ← hl.tickets, ticketsOf_cons]
    exact (Multiset.singleton_add _ _).symm
  refine hl.permit_pass (by simp) (by simp) (by simp) (by simp) ?_ ?_
  · simp
    omega
  · simpa using hqueue

theorem leave (hl : Ledger O p size P w (queued t ::ₘ g)) :
    Ledger O p size (P.modifyPermits (·.leave t)) w g := by
  have htickets : t ::ₘ ticketsOf g = P.permits.queue := by
    rw [← hl.tickets, ticketsOf_cons]
    exact (Multiset.singleton_add _ _).symm
  have hmem : t ∈ P.permits.queue := htickets ▸ Multiset.mem_cons_self t _
  refine hl.permit_pass (by simp) (by simp) (by simp) (by simp) ?_ ?_
  · simp [Permits.unused_leave]
  · exact (Multiset.cons_inj_right t).1 (htickets.trans (Permits.queue_leave hmem).symm)

theorem release (hl : Ledger O p size P w (permit ::ₘ g)) :
    Ledger O p size (P.modifyPermits Permits.release) w g := by
  refine hl.permit_pass (by simp) (by simp) (by simp) (by simp) ?_ ?_
  · simp only [permitsOf_cons, Permits.unused_release, Stake.permits]
    omega
  · rw [Permits.queue_release, ← hl.tickets]
    simp

/-! ### Connections -/

/-- The stake without its connection, which is over. -/
theorem shed {s : Stake} (hl : Ledger O p size P w (s ::ₘ g)) (hs : ∀ c ∈ s.conns, O.Gone c w) :
    Ledger O p size P w (s.shed + g) := by
  have hconns : connsOf (s ::ₘ g) = s.conns + connsOf (s.shed + g) := by
    cases s <;> simp [Stake.shed]
  have hleaving : ∀ d, leaving d ∈ s.shed + g → leaving d ∈ s ::ₘ g := by
    cases s <;> simp +contextual [Stake.shed]
  refine hl.pass s.conns rfl ?_ rfl ?_ ?_ ?_ ?_ hs fun hopen => ?_
  · cases s <;> simp [Stake.shed]
  · cases s <;> simp [Stake.shed]
  · rw [← hl.tickets]
    cases s <;> simp [Stake.shed]
  · cases s <;> simp [Stake.shed]
  · rw [places, places, hconns]
    abel
  · obtain ⟨horphans, hg⟩ := hl.settled hopen
    exact ⟨horphans, fun d hd => hg d (hleaving d hd)⟩

/-- The connection taken is the first idle one that is not over. -/
theorem takeIdle {front rest : List ConnId} (hl : Ledger O p size P w (permit ::ₘ g))
    (hidle : P.idle = front ++ c :: rest) (hfront : ∀ d ∈ front, O.Gone d w) :
    Ledger O p size { P with idle := rest } w (carried c ::ₘ g) := by
  refine hl.pass front rfl (by simp) rfl (by simp) (by simp [← hl.tickets]) (by simp) ?_ ?_ fun hopen => ?_
  · rw [places, places, connsOf_cons, connsOf_cons, hidle, ← Multiset.coe_add, ← Multiset.cons_coe,
      ← Multiset.singleton_add]
    simp only [Stake.conns]
    abel
  · simpa using hfront
  · simpa using hl.settled hopen

/-- Idle connections that are over are dropped. -/
theorem drain (hl : Ledger O p size P w g) (hidle : ∀ d ∈ P.idle, O.Gone d w) :
    Ledger O p size { P with idle := [] } w g := by
  refine hl.pass P.idle rfl rfl rfl rfl hl.tickets rfl ?_ (by simpa using hidle) hl.settled
  simp only [places, Multiset.coe_nil]
  abel

/-! ### Opening -/

/-- One stake becomes another one of the same permit, and the driver and the journal change with it. -/
theorem dial_pass {s s' : Stake} (hl : Ledger O p size P w (s ::ₘ g)) (hhandles : w'.handles = w.handles)
    (horphans : w'.orphans = w.orphans)
    (hs : s'.handles = s.handles ∧ s'.permits = s.permits ∧ s'.tickets = s.tickets) (hleaving : ∀ c, s' ≠ leaving c)
    (hmeter : w'.backend.dialing = (s' ::ₘ g).count dialing)
    (hroom : (places P w (s' ::ₘ g)).card + (s' ::ₘ g).count dialing ≤ size)
    (htracks : O.Tracks w' (places P w (s' ::ₘ g))) : Ledger O p size P w' (s' ::ₘ g) := by
  have hlent : w'.lent = w.lent := by rw [lent, hhandles]; rfl
  have hplaces : places P w' (s' ::ₘ g) = places P w (s' ::ₘ g) := by rw [places, hlent, horphans]; rfl
  refine ⟨?_, ?_, ?_, ?_, hmeter, hplaces ▸ hroom, hplaces ▸ htracks, fun hopen => ?_⟩
  · rw [handlesOf_cons, hs.1, ← handlesOf_cons]
    exact hl.marks.of_eq hhandles
  · rw [hlent]
    exact hl.active
  · rw [hlent, permitsOf_cons, hs.2.1, ← permitsOf_cons]
    exact hl.permits
  · rw [ticketsOf_cons, hs.2.2, ← ticketsOf_cons]
    exact hl.tickets
  · obtain ⟨hnone, hg⟩ := hl.settled hopen
    refine ⟨horphans.trans hnone, fun c hc => ?_⟩
    rcases Multiset.mem_cons.1 hc with he | hc
    · exact hleaving c he.symm
    · exact hg c (Multiset.mem_cons_of_mem hc)

/-- A pool that is open and has no idle connection has room for another one. -/
theorem raise (hl : Ledger O p size P w (permit ::ₘ g)) (hidle : P.idle = []) (hopen : P.closed = false) :
    Ledger O p size P (backendPart.modify Metered.raise w) (dialing ::ₘ g) := by
  obtain ⟨horphans, hg⟩ := hl.settled hopen
  have hg : ∀ c, leaving c ∉ g := fun c hc => hg c (Multiset.mem_cons_of_mem hc)
  have hplaces : places P w (dialing ::ₘ g) = places P w (permit ::ₘ g) := by
    simp [places]
  refine hl.dial_pass rfl rfl ⟨rfl, rfl, rfl⟩ nofun ?_ ?_ ?_
  · simp [backendPart, Part.modify, Metered.raise, hl.meter]
  · have hpermits := hl.permits
    have hcard := card_connsOf_le hg
    simp only [permitsOf_cons, Stake.permits] at hpermits
    simp [places, hidle, horphans]
    omega
  · rw [hplaces]
    exact hl.tracks.later (.of_eq rfl rfl) rfl

/-- A connection that was opened is the one that was being opened. -/
theorem connect {protocol : String} {host : Host} {props : Properties} (hl : Ledger O p size P w (dialing ::ₘ g))
    (hc : O.has c w.backend.driver) :
    Ledger O p size P (Journaled.note (.call (.connect protocol host props (some c)))
      (backendPart.modify Metered.lower w)) (carried c ::ₘ g) := by
  have hw : O.Follows w (backendPart.modify Metered.lower w) := .of_eq rfl rfl
  have hplaces : places P w (carried c ::ₘ g) = c ::ₘ places P w (dialing ::ₘ g) := by
    rw [places, places, connsOf_cons, connsOf_cons, ← Multiset.singleton_add]
    simp only [Stake.conns]
    abel
  have hmeter := hl.meter
  have hroom := hl.room
  refine hl.dial_pass rfl rfl ⟨rfl, rfl, rfl⟩ nofun ?_ ?_ ?_
  · simp [Journaled.note, backendPart, Part.modify, Metered.lower] at hmeter ⊢
    omega
  · rw [hplaces]
    simp at hroom ⊢
    omega
  · rw [hplaces]
    exact (hl.tracks.later hw rfl).connect hc

/-- A connection that was not opened leaves a permit. -/
theorem refuse {protocol : String} {host : Host} {props : Properties} (hl : Ledger O p size P w (dialing ::ₘ g)) :
    Ledger O p size P (Journaled.note (.call (.connect protocol host props none))
      (backendPart.modify Metered.lower w)) (permit ::ₘ g) := by
  have hlower : O.Follows w (backendPart.modify Metered.lower w) := .of_eq rfl rfl
  have hplaces : places P w (permit ::ₘ g) = places P w (dialing ::ₘ g) := by
    simp [places]
  have hmeter := hl.meter
  have hroom := hl.room
  refine hl.dial_pass rfl rfl ⟨rfl, rfl, rfl⟩ nofun ?_ ?_ ?_
  · simp [Journaled.note, backendPart, Part.modify, Metered.lower] at hmeter ⊢
    omega
  · rw [hplaces]
    simp at hroom ⊢
    omega
  · rw [hplaces]
    exact hl.tracks.later (hlower.trans (.note _ _)) rfl

/-! ### Handles -/

/-- Handles come and go, and every connection has a place as before. -/
theorem handle_pass (hl : Ledger O p size P w g) (hw : w' = { w with handles := w'.handles })
    (hclosed : P'.closed = P.closed) (hplaces : places P' w' g' = places P w g)
    (hdialing : g'.count dialing = g.count dialing) (hleaving : ∀ c, leaving c ∈ g' → leaving c ∈ g)
    (hmarks : w'.Marks p (handlesOf g')) (hactive : P'.active = w'.lent.length)
    (hpermits : P'.permits.unused + w'.lent.length + permitsOf g' = size)
    (htickets : ticketsOf g' = P'.permits.queue) : Ledger O p size P' w' g' := by
  refine ⟨hmarks, hactive, hpermits, htickets, ?_, ?_, ?_, fun hopen => ?_⟩
  · rw [hdialing, ← hl.meter, hw]
  · rw [hplaces, hdialing]
    exact hl.room
  · rw [hplaces]
    exact hl.tracks.later (.of_eq (by rw [hw]) (by rw [hw])) (by rw [hw]; rfl)
  · obtain ⟨horphans, hg⟩ := hl.settled (hclosed ▸ hopen)
    exact ⟨by rw [hw]; exact horphans, fun c hc => hg c (hleaving c hc)⟩

/-- A connection that is carried is handed out. -/
theorem lend (hl : Ledger O p size P w (carried c ::ₘ g)) :
    Ledger O p size P.lend { w with handles := w.handles ++ [{ pool := p, conn := c }] } g := by
  have hlent := lent_append p c w
  have hplaces : places P.lend { w with handles := w.handles ++ [{ pool := p, conn := c }] } g =
      places P w (carried c ::ₘ g) := by
    rw [places, places, hlent, connsOf_cons, ← Multiset.coe_add]
    show (P.idle : Multiset ConnId) + (w.lent + ([c] : List ConnId)) + w.orphans + _ = _
    simp only [Stake.conns, Multiset.coe_singleton]
    abel
  refine hl.handle_pass rfl rfl hplaces (by simp) (by simp) ?_ ?_ ?_ ?_
  · have hm := hl.marks
    rw [handlesOf_cons] at hm
    simpa using hm.append c
  · rw [hlent, List.length_append]
    exact congrArg (· + 1) hl.active
  · have h := hl.permits
    rw [permitsOf_cons] at h
    rw [hlent, List.length_append]
    simp only [Stake.permits, List.length_singleton, Pool.lend] at h ⊢
    omega
  · show ticketsOf g = P.permits.queue
    rw [← hl.tickets]
    simp

/-- A handle is given back; its permit and its connection are still to be dealt with. -/
theorem giveBack (hl : Ledger O p size P w g) (hh : h < w.handles.length) (hr : (w.handle h).returned = false) :
    Ledger O p size P.unlend (w.modifyHandle h fun e => { e with returned := true })
      (closing h (w.handle h).conn ::ₘ g) := by
  have hlent := lent_return hh hr
  have hlen := hlent.length_eq
  -- the connection moves from the handle to whoever closes it, so the places are the same
  have hplaces : places P.unlend (w.modifyHandle h fun e => { e with returned := true })
      (closing h (w.handle h).conn ::ₘ g) = places P w g := by
    have hcoe := Multiset.coe_eq_coe.2 hlent
    rw [← Multiset.cons_coe, ← Multiset.singleton_add] at hcoe
    rw [places, places, connsOf_cons, hcoe]
    show (P.idle : Multiset ConnId) + _ + (w.orphans : Multiset ConnId) + _ = _
    simp only [Stake.conns]
    abel
  refine hl.handle_pass rfl rfl hplaces (by simp) (by simp) ?_ ?_ ?_ ?_
  · rw [handlesOf_cons, Stake.handles, Multiset.singleton_add]
    exact hl.marks.giveBack hh hr
  · have h := hl.active
    simp only [List.length_cons] at hlen
    show P.active - 1 = _
    omega
  · have h := hl.permits
    simp only [List.length_cons] at hlen
    rw [permitsOf_cons]
    show P.permits.unused + _ + (1 + _) = size
    omega
  · show _ = P.permits.queue
    rw [← hl.tickets]
    simp

/-- In an open pool the connection of a handle that was given back becomes idle. -/
theorem shelve (hl : Ledger O p size P w (closing h c ::ₘ g)) :
    Ledger O p size { P with idle := c :: P.idle } w (spent h ::ₘ g) := by
  refine hl.pass 0 rfl (by simp) rfl (by simp) (by simp [← hl.tickets]) (by simp) ?_ (by simp) fun hopen => ?_
  · rw [places, places, connsOf_cons, connsOf_cons, ← Multiset.cons_coe, ← Multiset.singleton_add]
    simp only [Stake.conns]
    abel
  · simpa using hl.settled hopen

/-- In a closed pool it may be left to be closed. -/
theorem strand (hl : Ledger O p size P w (closing h c ::ₘ g)) (hclosed : P.closed = true) :
    Ledger O p size P { w with orphans := w.orphans ++ [c] } (spent h ::ₘ g) := by
  refine hl.pass 0 rfl (by simp) rfl (by simp) (by simp [← hl.tickets]) (by simp) ?_ (by simp) fun hopen => ?_
  · rw [places, places, connsOf_cons, connsOf_cons, ← Multiset.coe_add]
    show _ = 0 + ((P.idle : Multiset ConnId) + w.lent + _ + _)
    simp only [Stake.conns, Multiset.coe_singleton]
    abel
  · rw [hclosed] at hopen
    cases hopen

/-- The permit of a handle that was given back comes back as well. -/
theorem free (hl : Ledger O p size P w (spent h ::ₘ g)) :
    Ledger O p size (P.modifyPermits Permits.release)
      (w.modifyHandle h fun e => { e with hasPermit := false }) g := by
  have hlent := lent_free h w
  have hplaces : places (P.modifyPermits Permits.release)
      (w.modifyHandle h fun e => { e with hasPermit := false }) g = places P w (spent h ::ₘ g) := by
    rw [places, places, hlent, connsOf_cons]
    simp only [Stake.conns, zero_add]
    rfl
  refine hl.handle_pass rfl rfl hplaces (by simp) (by simp) ?_ ?_ ?_ ?_
  · have hm := hl.marks
    rw [handlesOf_cons, Stake.handles, Multiset.singleton_add] at hm
    exact hm.free
  · rw [hlent]
    exact hl.active
  · have h := hl.permits
    rw [permitsOf_cons] at h
    rw [hlent]
    show P.permits.release.unused + _ + _ = size
    rw [Permits.unused_release]
    simp only [Stake.permits] at h
    omega
  · show _ = P.permits.release.queue
    rw [Permits.queue_release, ← hl.tickets]
    simp

/-! ### Closing -/

/-- In a closed pool an idle connection is taken to be closed. -/
theorem unshelve {cs : List ConnId} (hl : Ledger O p size P w g) (hclosed : P.closed = true)
    (hidle : P.idle = c :: cs) :
    Ledger O p size { P with idle := cs } w (leaving c ::ₘ g) := by
  refine hl.pass 0 rfl (by simp) rfl (by simp) (by simp [← hl.tickets]) (by simp) ?_ (by simp) fun hopen => ?_
  · rw [places, places, connsOf_cons, hidle, ← Multiset.cons_coe, ← Multiset.singleton_add]
    simp only [Stake.conns]
    abel
  · rw [show P.closed = false from hopen] at hclosed
    cases hclosed

/-- In a closed pool all idle connections are taken to be closed. -/
theorem unshelveAll {cs : List ConnId} (hl : Ledger O p size P w g) (hclosed : P.closed = true) (hidle : P.idle = cs) :
    Ledger O p size { P with idle := [] } w ((cs.map leaving : List Stake) + g) := by
  induction cs generalizing P g with
  | nil =>
    have hP : { P with idle := [] } = P := by rw [← hidle]
    rw [hP]
    simpa using hl
  | cons c cs ih =>
    have h := ih (hl.unshelve hclosed hidle) hclosed rfl
    rw [List.map_cons, ← Multiset.cons_coe, Multiset.cons_add]
    rwa [Multiset.add_cons] at h

/-- Who closes a pool has its idle connections to close. -/
theorem shut (hl : Ledger O p size P w g) :
    Ledger O p size { P with closed := true, idle := [] } w ((P.idle.map leaving : List Stake) + g) := by
  have hclosed : Ledger O p size { P with closed := true } w g :=
    hl.pass 0 rfl rfl rfl rfl hl.tickets rfl (zero_add _).symm (by simp) nofun
  exact hclosed.unshelveAll rfl rfl

/-- Who takes a connection that nobody holds any more has it to close. -/
theorem adopt {cs : List ConnId} (hl : Ledger O p size P w g) (hw : w.orphans = c :: cs) :
    Ledger O p size P { w with orphans := cs } (leaving c ::ₘ g) := by
  refine hl.pass 0 rfl (by simp) rfl (by simp) (by simp [← hl.tickets]) (by simp) ?_ (by simp) fun hopen => ?_
  · rw [places, places, connsOf_cons, hw, ← Multiset.cons_coe, ← Multiset.singleton_add]
    show _ = 0 + ((P.idle : Multiset ConnId) + w.lent + _ + _)
    simp only [Stake.conns]
    abel
  · rw [(hl.settled hopen).1] at hw
    cases hw

end Ledger

end World

end ReplicaRouter
