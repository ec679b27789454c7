import Mathlib.Data.List.TakeWhile
import ReplicaRouter.Proofs.Ledger
/-
What each call of a pool has at stake wherever it waits, and that it has nothing at stake in the end.
Borrowing passes from a place in the queue over a permit to a connection that is handed out; giving back
passes from the connection of the handle to its permit, which comes back last.
Main statements: `World.pays_borrow`, `World.pays_giveBack`, `World.pays_evict`, `World.pays_abandon`,
`World.pays_closePool` and `World.pays_closeOrphan`.
-/
namespace ReplicaRouter.World

open Stake

variable {D α β : Type} [Backend D]

/-- The books of a pool are in order. -/
structure InOrder (O : Backend.Outlook D) (p : PoolId) (size : Nat) (w : World (Metered D)) (g : Multiset Stake) :
    Prop where
  exists_pool : p < w.pools.length
  ledger : Ledger O p size (w.pool p) w g

/-- Wherever the work stops, the books are in order, for what others have at stake and some stake of the
work's own. -/
abbrev Pays (O : Backend.Outlook D) (p : PoolId) (size : Nat) (x : Routine (World (Metered D)) α)
    (w : World (Metered D)) (rest : Multiset Stake) (Q : α → Multiset Stake → World (Metered D) → Prop) : Prop :=
  Routine.Accounts O.Follows (InOrder O p size) x w rest Q

variable {O : Backend.Outlook D} {p : PoolId} {size : Nat} {w w' : World (Metered D)} {own rest g g' : Multiset Stake}
  {h : HandleId} {c : ConnId}

/-- The stake of a call that has but one. -/
theorem InOrder.held {s : Stake} (hw : InOrder O p size w ({s} + rest)) :
    Ledger O p size (w.pool p) w (s ::ₘ rest) :=
  Multiset.singleton_add s rest ▸ hw.ledger

theorem InOrder.holds {s : Stake} (hw : InOrder O p size w (s ::ₘ rest)) : InOrder O p size w ({s} + rest) :=
  (Multiset.singleton_add s rest).symm ▸ hw

theorem InOrder.modifyPool {f : Pool → Pool} (hw : p < w.pools.length) (hl : Ledger O p size (f (w.pool p)) w g) :
    InOrder O p size (w.modifyPool p f) g := by
  refine ⟨?_, ?_⟩
  · simpa [World.modifyPool] using hw
  · rw [pool_modifyPool hw, if_pos rfl]
    exact hl.later (.of_eq rfl rfl) rfl rfl rfl rfl

theorem InOrder.note {e : Entry} (hw : InOrder O p size w g) (he : e.opened? = none) :
    InOrder O p size (Journaled.note e w) g := by
  refine ⟨hw.exists_pool, hw.ledger.later (.note e w) ?_ rfl rfl rfl⟩
  show (e :: w.journal).filterMap Entry.opened? = _
  rw [List.filterMap_cons, he]
  rfl

/-- Whatever the driver comes to be. -/
theorem InOrder.set_driver {d : D} (hw : InOrder O p size w g) (hd : O.later w.backend.driver d) :
    O.Follows w (driverPart.set d w) ∧ InOrder O p size (driverPart.set d w) g := by
  have hf : O.Follows w (driverPart.set d w) := ⟨hd, List.suffix_rfl⟩
  exact ⟨hf, hw.exists_pool, hw.ledger.later hf rfl rfl rfl rfl⟩

/-- Who had nothing at stake may stop. -/
theorem pays_nothing (a : α) (hw : InOrder O p size w rest) : Pays O p size (pure a) w rest fun _ own _ => own = 0 :=
  Routine.accounts_pure ((zero_add rest).symm ▸ hw) rfl

theorem pays_log {level : LogLevel} {text : String} (hw : InOrder O p size w (own + rest)) :
    Pays O p size (Routine.log level text) w rest fun _ own' _ => own' = own :=
  Routine.accounts_modify (.note _ w) (hw.note rfl) rfl

/-- What the driver does by itself leaves every stake as it is. -/
theorem pays_driver {x : Routine D α} {Q : α → D → Prop} (hx : x.Abides O.later w.backend.driver Q)
    (hw : InOrder O p size w (own + rest)) :
    Pays O p size (x.focus driverPart) w rest fun a own' v => own' = own ∧ Q a v.backend.driver :=
  Routine.accounts_focus (fun _ _ => rfl) (fun _ _ _ hd hv => hv.set_driver hd) (fun _ _ h => h.later) hx hw

/-! ## Closing connections -/

/-- Who has a connection to close is rid of it once it was told to close. -/
theorem pays_hangUp {s : Stake} (hs : s.conns = {c}) (hw : InOrder O p size w ({s} + rest)) :
    Pays O p size (hangUp c) w rest fun _ own _ => own = s.shed := by
  have hhas : O.has c w.backend.driver := by
    have htracks := hw.held.tracks
    refine htracks.has c (htracks.opened c ?_)
    rw [places, connsOf_cons, hs]
    simp
  rw [hangUp_metered]
  refine Routine.accounts_bind (pays_driver (O.close c _) hw) ?_
  rintro r _ v rest ⟨rfl, hover⟩ hv
  refine Routine.accounts_modify_bind (.note _ v) ?_
  have hgone : O.Gone c (Journaled.note (.call (.close c r)) v) := .hungUp (hover hhas)
  have hnote := hv.note (e := .call (.close c r)) rfl
  refine Routine.accounts_pure ⟨hnote.exists_pool, ?_⟩ rfl
  refine hnote.held.shed fun d hd => ?_
  rw [hs, Multiset.mem_singleton] at hd
  exact hd ▸ hgone

theorem pays_hangUpQuietly {s : Stake} (hs : s.conns = {c}) (hw : InOrder O p size w ({s} + rest)) :
    Pays O p size (hangUpQuietly c) w rest fun _ own _ => own = s.shed := by
  refine Routine.accounts_bind (pays_hangUp hs hw) ?_
  rintro r _ v rest rfl hv
  cases r with
  | ok _ => exact Routine.accounts_pure hv rfl
  | error e => exact pays_log hv

/-- Who has connections to close is rid of all of them in the end. -/
theorem pays_closeIdle (key : String) (cs : List ConnId)
    (hw : InOrder O p size w ((cs.map leaving : List Stake) + rest)) :
    Pays O p size (closeIdle key cs) w rest fun _ own _ => own = 0 := by
  induction cs generalizing w rest with
  | nil => exact Routine.accounts_pure hw rfl
  | cons c cs ih =>
    have hw : InOrder O p size w ({leaving c} + ((cs.map leaving : List Stake) + rest)) := by
      rwa [List.map_cons, ← Multiset.cons_coe, ← Multiset.singleton_add, add_assoc] at hw
    -- while the first one is closed, the others are still at stake
    refine Routine.accounts_bind (fun now => (pays_hangUp rfl hw now).frame) ?_
    rintro r _ v rest ⟨_, rfl, rfl⟩ hv
    have hv : InOrder O p size v ((cs.map leaving : List Stake) + rest) := by
      simpa [Stake.shed] using hv
    cases r with
    | ok _ => exact ih hv
    | error e =>
      refine Routine.accounts_bind (pays_log hv) ?_
      rintro _ _ u rest rfl hu
      refine Routine.accounts_bind (ih hu) ?_
      rintro n _ x rest rfl hx
      exact Routine.accounts_pure hx rfl

/-! ## Borrowing -/

/-- What a call has that was to get a connection for its permit: the connection as well, or still the permit. -/
inductive Obtained : Except RouteError ConnId → Multiset Stake → Prop
  | opened (c : ConnId) : Obtained (.ok c) {carried c}
  | refused (e : RouteError) : Obtained (.error e) {permit}

theorem pays_dial {protocol : String} {host : Host} {props : Properties} (hidle : (w.pool p).idle = [])
    (hopen : (w.pool p).closed = false) (hw : InOrder O p size w ({permit} + rest)) :
    Pays O p size (dial protocol host props) w rest fun r own _ => Obtained r own := by
  have hraise : InOrder O p size (backendPart.modify Metered.raise w) ({dialing} + rest) :=
    .holds ⟨hw.exists_pool, hw.held.raise hidle hopen⟩
  rw [dial_metered]
  refine Routine.accounts_modify_bind (.of_eq rfl rfl) ?_
  refine Routine.accounts_bind (pays_driver (O.connect protocol host props _) hraise) ?_
  rintro r _ v rest ⟨rfl, hhas⟩ hv
  refine Routine.accounts_modify_bind (.of_eq rfl rfl) (Routine.accounts_modify_bind (.note _ _) ?_)
  cases r with
  | ok c => exact Routine.accounts_pure (.holds ⟨hv.exists_pool, hv.held.connect (hhas c rfl)⟩) (.opened c)
  | error e => exact Routine.accounts_pure (.holds ⟨hv.exists_pool, hv.held.refuse⟩) (.refused e)

theorem pays_send {op : Operation} (hw : InOrder O p size w (own + rest)) :
    Pays O p size (send c op) w rest fun _ own' _ => own' = own := by
  rw [send_metered]
  refine Routine.accounts_get_bind (Routine.accounts_bind (pays_driver (O.invoke c op _) hw) ?_)
  rintro r _ v rest ⟨rfl, -⟩ hv
  exact Routine.accounts_modify_bind (.note _ v) (Routine.accounts_pure (hv.note rfl) rfl)

/-- Whoever opens a connection for a pool that is open and has no idle one has it or still the permit. -/
theorem pays_openFor (hidle : (w.pool p).idle = []) (hopen : (w.pool p).closed = false)
    (hw : InOrder O p size w ({permit} + rest)) :
    Pays O p size (openFor p) w rest fun r own _ => Obtained r own := by
  refine Routine.accounts_get_bind (Routine.accounts_bind (pays_dial hidle hopen hw) ?_)
  rintro _ _ v rest (c | e) hv
  · dsimp only
    split
    · refine Routine.accounts_bind (pays_send hv) ?_
      rintro (e | reply) _ u rest rfl hu
      · refine Routine.accounts_bind (pays_hangUpQuietly rfl hu) ?_
        rintro _ _ x rest rfl hx
        exact Routine.accounts_pure hx (.refused e)
      · refine Routine.accounts_bind (pays_log hu) ?_
        rintro _ _ x rest rfl hx
        exact Routine.accounts_pure hx (.opened c)
    · refine Routine.accounts_bind (pays_log hv) ?_
      rintro _ _ u rest rfl hu
      exact Routine.accounts_pure hu (.opened c)
  · exact Routine.accounts_pure hv (.refused e)

/-- Whoever has a permit of an open pool takes an idle connection that is not closed, unless there is none. -/
theorem pays_takeIdle (hopen : (w.pool p).closed = false) (hw : InOrder O p size w ({permit} + rest)) :
    Pays O p size (takeIdle p) w rest fun r own v => (∃ c, r = some c ∧ own = {carried c}) ∨
      r = none ∧ own = {permit} ∧ (v.pool p).idle = [] ∧ (v.pool p).closed = false := by
  have hclosed : ∀ d ∈ (w.pool p).idle.takeWhile (w.isClosed ·), O.Gone d w := fun d hd =>
    .of_closed (List.mem_takeWhile_imp hd)
  have hidle : (w.pool p).idle.takeWhile (w.isClosed ·) ++ w.firstOpen (w.pool p).idle = (w.pool p).idle :=
    List.takeWhile_append_dropWhile
  refine Routine.accounts_get_bind ?_
  split
  · next hnone =>
    rw [hnone, List.append_nil] at hidle
    rw [hidle] at hclosed
    have hv : InOrder O p size (w.modifyPool p fun P => { P with idle := [] }) ({permit} + rest) :=
      .holds (.modifyPool hw.exists_pool (hw.held.drain hclosed))
    refine Routine.accounts_modify_bind (.of_eq rfl rfl) (Routine.accounts_pure hv (.inr ⟨rfl, rfl, ?_⟩))
    rw [pool_modifyPool hw.exists_pool, if_pos rfl]
    exact ⟨rfl, hopen⟩
  · next c idle hsome =>
    rw [hsome] at hidle
    have hv : InOrder O p size (w.modifyPool p fun P => { P with idle }) ({carried c} + rest) :=
      .holds (.modifyPool hw.exists_pool (hw.held.takeIdle hidle.symm hclosed))
    exact Routine.accounts_modify_bind (.of_eq rfl rfl) (Routine.accounts_pure hv (.inl ⟨c, rfl, rfl⟩))

/-- Whoever has a permit of an open pool gets an idle connection or a new one, or keeps the permit. -/
theorem pays_takeOrOpen (hopen : (w.pool p).closed = false) (hw : InOrder O p size w ({permit} + rest)) :
    Pays O p size (takeOrOpen p) w rest fun r own _ => Obtained r own := by
  refine Routine.accounts_bind (pays_takeIdle hopen hw) ?_
  rintro _ _ v rest (⟨c, rfl, rfl⟩ | ⟨rfl, rfl, hidle, hopen⟩) hv
  · exact Routine.accounts_pure hv (.opened c)
  · exact pays_openFor hidle hopen hv

/-- Whoever asks an open pool for a permit has one in the end, and the pool is still open, or has nothing. -/
theorem pays_acquire (hopen : (w.pool p).closed = false) (hw : InOrder O p size w rest) :
    Pays O p size (acquire p) w rest fun r own v =>
      r = .ok () ∧ own = {permit} ∧ (v.pool p).closed = false ∨ ∃ e, r = .error e ∧ own = 0 := by
  refine Routine.accounts_get_bind ?_
  dsimp only
  -- there is a permit to be had at once, or the queue is joined
  split
  · next q hq =>
    have hv : InOrder O p size (w.modifyPool p fun P => { P with permits := q }) ({permit} + rest) :=
      .holds (.modifyPool hw.exists_pool (hw.ledger.take hq))
    refine Routine.accounts_modify_bind (.of_eq rfl rfl) (Routine.accounts_pure hv (.inl ⟨rfl, rfl, ?_⟩))
    rw [pool_modifyPool hw.exists_pool, if_pos rfl]
    exact hopen
  · have hjoin : InOrder O p size (w.modifyPool p (·.modifyPermits Permits.join))
        ({queued (w.pool p).permits.next} + rest) :=
      .holds (.modifyPool hw.exists_pool hw.ledger.join)
    refine Routine.accounts_modify_bind (.of_eq rfl rfl) (Routine.accounts_now_bind fun t => ?_)
    refine Routine.accounts_bind (Routine.accounts_wait _ _ hjoin) ?_
    rintro ready _ v rest ⟨rfl, hready⟩ hv
    -- what the ticket was given is picked up, or passed on when the place in the queue is left
    refine Routine.accounts_get_bind ?_
    split
    · next hgo =>
      obtain ⟨rfl, hopen⟩ : ready = true ∧ (v.pool p).closed = false := by simpa using hgo
      have hgranted : (v.pool p).permits.isGranted (w.pool p).permits.next = true := by
        simpa [hopen] using hready
      have hu : InOrder O p size (v.modifyPool p (·.modifyPermits (·.pickUp (w.pool p).permits.next)))
          ({permit} + rest) :=
        .holds (.modifyPool hv.exists_pool (hv.held.pickUp hgranted))
      refine Routine.accounts_modify_bind (.of_eq rfl rfl) (Routine.accounts_pure hu (.inl ⟨rfl, rfl, ?_⟩))
      rw [pool_modifyPool hv.exists_pool, if_pos rfl]
      exact hopen
    · have hu : InOrder O p size (v.modifyPool p (·.modifyPermits (·.leave (w.pool p).permits.next))) (0 + rest) := by
        rw [zero_add]
        exact .modifyPool hv.exists_pool hv.held.leave
      exact Routine.accounts_modify_bind (.of_eq rfl rfl) (Routine.accounts_pure hu (.inr ⟨_, rfl, rfl⟩))

/-- A connection that is handed out is with its handle. -/
theorem pays_lend (hw : InOrder O p size w ({carried c} + rest)) :
    Pays O p size (lend p c) w rest fun _ own _ => own = 0 := by
  have hv := InOrder.modifyPool (f := Pool.lend) (w := { w with handles := w.handles ++ [{ pool := p, conn := c }] })
    hw.exists_pool hw.held.lend
  rw [← zero_add rest] at hv
  exact fun _ => ⟨.of_eq rfl rfl, 0, hv, rfl⟩

theorem pays_releasePermit (hw : InOrder O p size w ({permit} + rest)) :
    Pays O p size (releasePermit p) w rest fun _ own _ => own = 0 := by
  have hv : InOrder O p size (w.modifyPool p (·.modifyPermits Permits.release)) (0 + rest) := by
    rw [zero_add]
    exact .modifyPool hw.exists_pool hw.held.release
  exact Routine.accounts_modify (.of_eq rfl rfl) hv rfl

/-- Whoever borrows has nothing more in the end; what was got for them is with a handle. -/
theorem pays_borrow (hw : InOrder O p size w rest) :
    Pays O p size (borrow p) w rest fun _ own _ => own = 0 := by
  refine Routine.accounts_get_bind ?_
  dsimp only
  split
  · exact pays_nothing _ hw
  · next hopen =>
    refine Routine.accounts_bind (pays_acquire (by simpa using hopen) hw) ?_
    rintro _ _ v rest (⟨rfl, rfl, hopen⟩ | ⟨e, rfl, rfl⟩) hv
    · refine Routine.accounts_bind (pays_takeOrOpen hopen hv) ?_
      rintro _ _ u rest (c | e) hu
      · refine Routine.accounts_bind (pays_lend hu) ?_
        rintro h _ x rest rfl hx
        exact Routine.accounts_pure hx rfl
      · refine Routine.accounts_bind (pays_releasePermit hu) ?_
        rintro _ _ x rest rfl hx
        exact Routine.accounts_pure hx rfl
    · exact Routine.accounts_pure hv rfl

/-! ## Giving back -/

theorem pays_dropPermit (hw : InOrder O p size w ({spent h} + rest)) :
    Pays O p size (dropPermit h) w rest fun _ own _ => own = 0 := by
  have hl := hw.held
  have hmem : h ∈ handlesOf (spent h ::ₘ rest) := by simp
  obtain ⟨hh, -, hpermit⟩ := hl.marks.returned h hmem
  have hpool := hl.marks.pool_eq h hh
  have hv := InOrder.modifyPool (f := (·.modifyPermits Permits.release))
    (w := w.modifyHandle h fun e => { e with hasPermit := false }) hw.exists_pool hl.free
  rw [← zero_add rest] at hv
  refine Routine.accounts_get_bind ?_
  dsimp only
  rw [if_pos hpermit, hpool]
  exact Routine.accounts_modify_bind (.of_eq rfl rfl) (Routine.accounts_modify (.of_eq rfl rfl) hv rfl)

/-- Only the first to give a handle back goes on, with the permit and the connection of the handle. -/
theorem pays_return {x : Routine (World (Metered D)) Unit} (hw : InOrder O p size w rest) (hh : h < w.handles.length)
    (hx : ∀ v, (v.handle h).pool = p →
      InOrder O p size (v.modifyPool p Pool.unlend) ({closing h (v.handle h).conn} + rest) →
      Pays O p size x v rest fun _ own _ => own = 0) :
    Pays O p size (markReturned h >>= fun first => if first then x else pure ()) w rest fun _ own _ => own = 0 := by
  have hmark : O.Follows w (w.modifyHandle h fun e => { e with returned := true }) := .of_eq rfl rfl
  suffices hgo : Pays O p size (if !(w.handle h).returned then x else pure ())
      (w.modifyHandle h fun e => { e with returned := true }) rest fun _ own _ => own = 0 from
    fun now => (hgo now).since hmark
  cases hr : (w.handle h).returned with
  | true =>
    rw [modifyHandle_of_returned hr]
    exact pays_nothing _ hw
  | false =>
    have hhandle := handle_modifyHandle hh (fun e => { e with returned := true }) h
    rw [if_pos rfl] at hhandle
    refine hx _ ?_ ?_
    · rw [hhandle]
      exact hw.ledger.marks.pool_eq h hh
    · rw [hhandle]
      exact .holds (.modifyPool hw.exists_pool (hw.ledger.giveBack hh hr))

/-- A connection that is not closed becomes idle, or has to be closed because the pool is closed. -/
theorem pays_reclaim (hpool : (w.handle h).pool = p)
    (hw : InOrder O p size (w.modifyPool p Pool.unlend) ({closing h (w.handle h).conn} + rest)) :
    Pays O p size (reclaim h) w rest fun r own v => r = none ∧ own = {spent h} ∨
      ∃ c, r = some c ∧ own = {closing h c} ∧ (v.pool p).closed = true := by
  refine Routine.accounts_get_bind ?_
  dsimp only
  rw [hpool]
  refine Routine.accounts_modify_bind (.of_eq rfl rfl) ?_
  split
  · next hclosed =>
    have hshed := hw.held.shed fun d hd => .of_closed ((Multiset.mem_singleton.1 hd) ▸ hclosed)
    exact Routine.accounts_pure ⟨hw.exists_pool, hshed⟩ (.inl ⟨rfl, rfl⟩)
  · split
    · next hshut =>
      have hexists : p < w.pools.length := by simpa [World.modifyPool] using hw.exists_pool
      refine Routine.accounts_pure hw (.inr ⟨_, rfl, rfl, ?_⟩)
      rw [pool_modifyPool hexists, if_pos rfl]
      exact hshut
    · have hshelve : InOrder O p size ((w.modifyPool p Pool.unlend).modifyPool p fun P =>
          { P with idle := (w.handle h).conn :: P.idle }) ({spent h} + rest) :=
        .holds (.modifyPool hw.exists_pool hw.held.shelve)
      exact Routine.accounts_modify_bind (.of_eq rfl rfl) (Routine.accounts_pure hshelve (.inl ⟨rfl, rfl⟩))

/-- A handle that is given back has its connection become idle, or closed, and its permit comes back. -/
theorem pays_giveBack (hw : InOrder O p size w rest) (hh : h < w.handles.length) :
    Pays O p size (giveBack h) w rest fun _ own _ => own = 0 := by
  refine pays_return hw hh fun v hpool hv => ?_
  refine Routine.accounts_bind (pays_reclaim hpool hv) ?_
  rintro _ _ u rest (⟨rfl, rfl⟩ | ⟨c, rfl, rfl, -⟩) hu
  · exact pays_dropPermit hu
  · refine Routine.accounts_bind (pays_hangUpQuietly rfl hu) ?_
    rintro _ _ x rest rfl hx
    exact pays_dropPermit hx

theorem pays_evict (hw : InOrder O p size w rest) (hh : h < w.handles.length) :
    Pays O p size (evict h) w rest fun _ own _ => own = 0 := by
  refine pays_return hw hh fun v hpool hv => ?_
  refine Routine.accounts_get_bind ?_
  dsimp only
  rw [hpool]
  refine Routine.accounts_modify_bind (.of_eq rfl rfl) ?_
  refine Routine.accounts_bind (pays_log hv) ?_
  rintro _ _ u rest rfl hu
  refine Routine.accounts_bind (pays_hangUpQuietly rfl hu) ?_
  rintro _ _ x rest rfl hx
  exact pays_dropPermit hx

theorem pays_abandon (hw : InOrder O p size w rest) (hh : h < w.handles.length) :
    Pays O p size (abandon h) w rest fun _ own _ => own = 0 := by
  refine pays_return hw hh fun v hpool hv => ?_
  refine Routine.accounts_bind (pays_reclaim hpool hv) ?_
  rintro _ _ u rest (⟨rfl, rfl⟩ | ⟨c, rfl, rfl, hclosed⟩) hu
  · exact pays_dropPermit hu
  · refine Routine.accounts_modify_bind (.of_eq rfl rfl) (pays_dropPermit ?_)
    exact .holds ⟨hu.exists_pool, hu.held.strand hclosed⟩

/-! ## Closing -/

theorem pays_closePool (hw : InOrder O p size w rest) :
    Pays O p size (closePool p) w rest fun _ own _ => own = 0 := by
  refine Routine.accounts_get_bind ?_
  dsimp only
  split
  · exact pays_nothing _ hw
  · have hl := hw.ledger.shut
    have hperm : (((w.pool p).idle.map leaving : List Stake) : Multiset Stake) =
        ((w.pool p).idle.reverse.map leaving : List Stake) :=
      Multiset.coe_eq_coe.2 ((List.reverse_perm _).symm.map leaving)
    rw [hperm] at hl
    refine Routine.accounts_modify_bind (.of_eq rfl rfl) ?_
    refine Routine.accounts_bind (pays_closeIdle _ _ (.modifyPool hw.exists_pool hl)) ?_
    rintro failures _ v rest rfl hv
    refine Routine.accounts_bind (pays_log hv) ?_
    rintro _ _ u rest rfl hu
    split
    · exact Routine.accounts_pure hu rfl
    · exact Routine.accounts_pure hu rfl

theorem pays_closeOrphan (hw : InOrder O p size w rest) :
    Pays O p size closeOrphan w rest fun _ own _ => own = 0 := by
  refine Routine.accounts_get_bind ?_
  split
  · exact pays_nothing _ hw
  · next c orphans horphans =>
    have hadopt : InOrder O p size { w with orphans } ({leaving c} + rest) :=
      .holds ⟨hw.exists_pool, hw.ledger.adopt horphans⟩
    exact Routine.accounts_modify_bind (.of_eq rfl rfl) (pays_hangUpQuietly rfl hadopt)

end ReplicaRouter.World
