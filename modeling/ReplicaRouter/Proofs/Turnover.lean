import ReplicaRouter.Proofs.Calmness
import ReplicaRouter.Proofs.Handover
/-
What becomes of connections and handles while they are borrowed, given back and closed, and while pools are created,
swept and cleared: wherever one of these calls waits, everything is in its place, and in the end the call has passed on
what it had in hand.
Main statements: `World.carries_borrow`, `World.carries_giveBack`, `World.carries_evict`, `World.carries_closePool`
and `PooledProvider.carries_connect`.
-/
namespace ReplicaRouter

open Freight

variable {D α β : Type} [Backend D]

/-- What closing a pool answers when so many of its idle connections fail to close. -/
def Pool.verdict (P : Pool) (failures : Nat) : Except RouteError Unit :=
  if failures = 0 then .ok ()
  else .error (.disposal s!"{failures} idle connections in pool {P.key} failed to close")

namespace World

/-- Wherever the work stops everything is in its place, with what others have in hand and something of the work's
own. -/
abbrev Carries (T : Terms D) (kept : Prop) (x : Routine (World D) α) (w : World D) (rest : Multiset Freight)
    (Q : α → Multiset Freight → World D → Prop) : Prop :=
  x.Accounts (Ensues T kept) (Circulates T kept) w rest Q

/-- The work passes nothing on, whatever happens meanwhile. -/
abbrev Rests (T : Terms D) (kept : Prop) (x : Routine (World D) α) : Prop := x.Calm (Ensues T kept) (Serene T)

variable {T : Terms D} {kept : Prop} {u v w w' : World D} {own rest : Multiset Freight} {c : ConnId} {p : PoolId}
  {h n : HandleId}

theorem Circulates.empty_handed (hw : w.Circulates T kept rest) : w.Circulates T kept (0 + rest) :=
  (zero_add rest).symm ▸ hw

theorem carries_bind {x : Routine (World D) α} {f : α → Routine (World D) β}
    {Q : α → Multiset Freight → World D → Prop} {Q' : β → Multiset Freight → World D → Prop}
    (hx : Carries T kept x w rest Q) (hf : ∀ a own v rest, w.Ensues T kept v → Q a own v →
      v.Circulates T kept (own + rest) → Carries T kept (f a) v rest Q') : Carries T kept (x >>= f) w rest Q' :=
  Routine.accounts_bind (fun now => (hx now).along) fun a own v rest h => hf a own v rest h.1 h.2

theorem carries_pure {Q : α → Multiset Freight → World D → Prop} {a : α} (hw : w.Circulates T kept (own + rest))
    (hq : Q a own w) : Carries T kept (pure a) w rest Q :=
  Routine.accounts_pure hw hq

/-! ## Work that passes nothing on -/

theorem Rests.carries {x : Routine (World D) α} (hx : Rests T kept x) (hw : w.Circulates T kept (own + rest)) :
    Carries T kept x w rest fun _ own' _ => own' = own :=
  hx.accounts (fun _ _ _ hs hu => ⟨hs.ensues, hu.serene hs⟩) hw

theorem Serene.modifyPool (p : PoolId) {f : Pool → Pool} (hf : ∀ P, (f P).stock = P.stock) (w : World D) :
    w.Serene T (w.modifyPool p f) :=
  { Serene.refl (T := T) w with pools := map_modify Pool.stock hf w.pools p }

theorem Serene.modifyHandle (h : HandleId) {f : Handle → Handle} (hf : ∀ e, (f e).bare = e.bare) (w : World D) :
    w.Serene T (w.modifyHandle h f) :=
  { Serene.refl (T := T) w with handles := map_modify Handle.bare hf w.handles h }

/-- Whatever happens to the cache but for its entries. -/
theorem Serene.upkeep {c : Cache String PoolId} (hc : ∀ k, c.cached? k = w.cache.cached? k) :
    w.Serene T { w with cache := c } :=
  { Serene.refl (T := T) w with cached := fun k => by rw [poolAt?, poolAt?]; exact congrArg _ (hc k) }

theorem Serene.touch {key : String} {e : Cached PoolId} (h : w.cache.cached? key = some e) (t : Instant) :
    w.Serene T { w with cache := w.cache.touch key t } :=
  { Serene.refl (T := T) w with cached := (Beside.touch (T := T) h t).cached }

theorem rests_log (level : LogLevel) (text : String) : Rests T kept (Routine.log level text) :=
  Routine.calm_modify fun w => .note rfl rfl w

theorem Serene.modifyPermits (p : PoolId) (f : Permits → Permits) (w : World D) :
    w.Serene T (w.modifyPool p (·.modifyPermits f)) :=
  have hstock : ∀ P : Pool, (P.modifyPermits f).stock = P.stock := fun _ => rfl
  .modifyPool p hstock w

theorem rests_releasePermit (p : PoolId) : Rests T kept (releasePermit p) :=
  Routine.calm_modify (.modifyPermits p _)

theorem rests_acquire (p : PoolId) : Rests T kept (acquire p) := calm_acquire p (.modifyPermits p)

theorem rests_dropPermit (h : HandleId) : Rests T kept (dropPermit h) :=
  have hbare : ∀ e : Handle, ({ e with hasPermit := false } : Handle).bare = e.bare := fun _ => rfl
  calm_dropPermit h .modifyPermits (.modifyHandle h hbare)

/-- What the driver does is written down, where it tells of no connection that was opened or told to close. -/
theorem rests_call {x : Routine D α} {Q : α → D → Prop} (hx : ∀ d, x.Abides T.outlook.later d Q) {entry : α → Entry}
    (he : ∀ a, (entry a).opened? = none ∧ (entry a).closedConn? = none) :
    Rests T kept (do let a ← x.focus backendPart; Routine.note (entry a); return a) := by
  have hdriver : Rests T kept (x.focus backendPart) :=
    Routine.calm_focus (fun _ _ => .of_driver) (fun _ _ _ h => h.later) hx
  exact Routine.calm_bind hdriver fun a =>
    Routine.calm_bind (Routine.calm_modify fun w => .note (he a).1 (he a).2 w) fun _ => Routine.calm_pure _

theorem rests_check (c : ConnId) (limit : Duration) : Rests T kept (check c limit) :=
  rests_call (T.isValid c limit) fun _ => ⟨rfl, rfl⟩

theorem rests_send (c : ConnId) (op : Operation) : Rests T kept (send c op) :=
  Routine.calm_bind Routine.calm_get fun _ => rests_call (T.outlook.invoke c op) fun _ => ⟨rfl, rfl⟩

theorem rests_isValid (l : Link) (limit : Duration) : Rests T kept (l.isValid limit) := by
  cases l with
  | direct c => exact rests_check c limit
  | pooled h =>
    refine Routine.calm_bind Routine.calm_get fun w => ?_
    dsimp only
    split
    · exact Routine.calm_pure _
    · exact Routine.calm_bind (Routine.calm_within (rests_check _ _) _) fun _ => Routine.calm_pure _

/-! ## Calls to the driver -/

theorem carries_driver {x : Routine D α} {Q : α → D → Prop} (hx : x.Abides T.outlook.later w.backend Q)
    (hw : w.Circulates T kept (own + rest)) :
    Carries T kept (x.focus backendPart) w rest fun a own' v => own' = own ∧ Q a v.backend :=
  Routine.accounts_focus (fun _ _ => rfl)
    (fun _ _ _ hd hv => ⟨(Serene.of_driver hd).ensues, hv.serene (.of_driver hd)⟩) (fun _ _ h => h.later) hx hw

/-- Who asks for a connection of a pool has it in hand in the end, or has nothing. -/
inductive Fetched (p : PoolId) : Except RouteError ConnId → Multiset Freight → Prop
  | opened (c : ConnId) : Fetched p (.ok c) {conn p c}
  | refused (e : RouteError) : Fetched p (.error e) 0

theorem carries_dial {protocol : String} {host : Host} {props : Properties} (p : PoolId)
    (hw : w.Circulates T kept rest) :
    Carries T kept (dial protocol host props) w rest fun r own _ => Fetched p r own := by
  refine carries_bind (carries_driver (T.outlook.connect protocol host props _) hw.empty_handed) ?_
  rintro r _ v rest - ⟨rfl, hhas⟩ hv
  rw [zero_add] at hv
  cases r with
  | ok c =>
    have hnote : v.Ensues T kept (Journaled.note (.call (.connect protocol host props (some c))) v) :=
      (Follows.note _ v).ensues rfl fun _ => rfl
    exact Routine.accounts_modify_bind hnote (carries_pure (hv.connect p (hhas c rfl)) (.opened c))
  | error e =>
    have hnote : v.Serene T (Journaled.note (.call (.connect protocol host props none)) v) := .note rfl rfl v
    exact Routine.accounts_modify_bind hnote.ensues (carries_pure (hv.serene hnote).empty_handed (.refused e))

/-- The connection was told to close, and no handle from this one on has it. -/
structure Rid (w : World D) (c : ConnId) (n : HandleId) : Prop where
  told : c ∈ w.hungUp
  barred : w.Barred c n

theorem Rid.later (h : w.Rid c n) (hw : w.Ensues T kept w') : w'.Rid c n := by
  refine ⟨hw.hungUp_suffix.subset h.told, fun hn i hi hlt => ?_⟩
  by_cases hold : i < w.handles.length
  · rw [hw.conn i hold]
    exact h.barred (hw.nodup hn) i hi hold
  · exact fun he => hw.news hn i (Nat.le_of_not_lt hold) hlt (he ▸ h.told)

/-- What somebody has in hand was opened. -/
theorem Circulates.has_of_mem (hw : w.Circulates T kept rest) (hc : c ∈ connsOf rest) : T.outlook.has c w.backend := by
  have hone := hw.once c
  have hpos := Multiset.count_pos.2 hc
  exact hw.has c (List.count_pos_iff.1 (by omega))

/-- A connection that is to be closed is told to, and then it is over for good. -/
theorem carries_hangUp (hw : w.Circulates T kept ({doomed c n} + rest)) :
    Carries T kept (hangUp c) w rest fun r own v =>
      own = 0 ∧ v.Rid c n ∧ .call (.close c r) ∈ v.journal := by
  have hhas : T.outlook.has c w.backend := hw.has_of_mem (Multiset.mem_bind.2 ⟨doomed c n, by simp, by simp⟩)
  refine carries_bind (carries_driver (T.outlook.close c _) hw) ?_
  rintro r _ v rest - ⟨rfl, hover⟩ hv
  have hbarred : v.Barred c n := hv.barred c n (by simp)
  have hnote : v.Ensues T kept (Journaled.note (.call (.close c r)) v) := (Follows.note _ v).ensues rfl fun _ => rfl
  refine Routine.accounts_modify_bind hnote (carries_pure (hv.hangUp (hover hhas)).empty_handed ⟨rfl, ⟨?_, ?_⟩, ?_⟩)
  · exact List.mem_cons_self
  · exact hbarred.of_bare id rfl
  · exact List.mem_cons_self

theorem carries_hangUpQuietly (hw : w.Circulates T kept ({doomed c n} + rest)) :
    Carries T kept (hangUpQuietly c) w rest fun _ own v => own = 0 ∧ v.Rid c n := by
  refine carries_bind (carries_hangUp hw) ?_
  rintro r _ v rest - ⟨rfl, hrid, -⟩ hv
  cases r with
  | ok _ => exact carries_pure hv ⟨rfl, hrid⟩
  | error e =>
    have hnote : v.Serene T (Journaled.note (.log .debug (ignoredLine e)) v) := .note rfl rfl v
    have hlater : v.Ensues T kept _ := hnote.ensues
    exact Routine.accounts_modify hlater (hv.serene hnote) ⟨rfl, hrid.later hlater⟩

/-- How connections that were told to close have answered. -/
def Answered (w : World D) (cs : List ConnId) (rs : List (Except RouteError Unit)) : Prop :=
  List.Forall₂ (fun c r => .call (.close c r) ∈ w.journal) cs rs

theorem Answered.later {cs : List ConnId} {rs : List (Except RouteError Unit)} (h : w.Answered cs rs)
    (hw : w.Ensues T kept w') : w'.Answered cs rs :=
  h.imp fun _ _ hc => hw.journal.subset hc

/-- Connections that are to be closed are told to, whichever of them fail. -/
theorem carries_closeIdle (key : String) (cs : List ConnId)
    (hw : w.Circulates T kept ((cs.map (doomed · n) : List Freight) + rest)) :
    Carries T kept (closeIdle key cs) w rest fun k own v => own = 0 ∧ (∀ c ∈ cs, v.Rid c n) ∧
      ∃ rs, v.Answered cs rs ∧ k = rs.countP (!·.isOk) := by
  induction cs generalizing w rest with
  | nil => exact carries_pure hw ⟨rfl, nofun, [], .nil, rfl⟩
  | cons c cs ih =>
    have hw : w.Circulates T kept ({doomed c n} + ((cs.map (doomed · n) : List Freight) + rest)) := by
      rwa [List.map_cons, ← Multiset.cons_coe, ← Multiset.singleton_add, add_assoc] at hw
    -- while the first one is closed, the others are still in hand
    refine carries_bind (fun now => (carries_hangUp hw now).frame) ?_
    rintro r _ v rest - ⟨_, rfl, rfl, hrid, hanswer⟩ hv
    rw [zero_add] at hv
    have hall : ∀ {u : World D}, v.Ensues T kept u → (∀ d ∈ cs, u.Rid d n) → ∀ d ∈ c :: cs, u.Rid d n :=
      fun hu hcs => List.forall_mem_cons.2 ⟨hrid.later hu, hcs⟩
    cases r with
    | ok _ =>
      refine fun now => (ih hv now).along.imp ?_
      rintro k own u ⟨hu, rfl, hcs, rs, hrs, rfl⟩
      exact ⟨rfl, hall hu hcs, .ok () :: rs, .cons (hu.journal.subset hanswer) hrs,
        by simp [Except.isOk, Except.toBool]⟩
    | error e =>
      refine carries_bind ((rests_log _ _).carries hv) ?_
      rintro _ _ u rest hu rfl hv
      refine carries_bind (ih hv) ?_
      rintro k _ x rest hx ⟨rfl, hcs, rs, hrs, rfl⟩ hv
      have hx := hu.trans hx
      exact carries_pure hv ⟨rfl, hall hx hcs, .error e :: rs, .cons (hx.journal.subset hanswer) hrs,
        by simp [Except.isOk, Except.toBool]⟩

/-! ## Borrowing -/

theorem carries_openFor (hw : w.Circulates T kept rest) :
    Carries T kept (openFor p) w rest fun r own _ => Fetched p r own := by
  refine Routine.accounts_get_bind (carries_bind (carries_dial p hw) ?_)
  rintro _ _ v rest - (c | e) hv
  · dsimp only
    split
    · refine carries_bind ((rests_send c _).carries hv) ?_
      rintro (e | reply) _ u rest - rfl hu
      · refine carries_bind (carries_hangUpQuietly (hu.doom (barred_length c u))) ?_
        rintro _ _ x rest - ⟨rfl, -⟩ hx
        exact carries_pure hx (.refused e)
      · refine carries_bind ((rests_log _ _).carries hu) ?_
        rintro _ _ x rest - rfl hx
        exact carries_pure hx (.opened c)
    · refine carries_bind ((rests_log _ _).carries hv) ?_
      rintro _ _ x rest - rfl hx
      exact carries_pure hx (.opened c)
  · exact carries_pure hv (.refused e)

theorem carries_takeIdle (hp : p < w.pools.length) (hw : w.Circulates T kept rest) :
    Carries T kept (takeIdle p) w rest fun r own _ => (∃ c, r = some c ∧ own = {conn p c}) ∨ r = none ∧ own = 0 := by
  have hended : ∀ d ∈ (w.pool p).idle.takeWhile (w.isClosed ·), T.outlook.ended d w.backend := fun d hd =>
    T.outlook.ended_of_closed (List.mem_takeWhile_imp (p := (w.isClosed ·)) hd)
  have hidle : (w.pool p).idle.takeWhile (w.isClosed ·) ++ w.firstOpen (w.pool p).idle = (w.pool p).idle :=
    List.takeWhile_append_dropWhile
  refine Routine.accounts_get_bind ?_
  split
  · next hnone =>
    rw [hnone, List.append_nil] at hidle
    refine Routine.accounts_modify_bind (ensues_modifyPool hp rfl rfl)
      (carries_pure (hw.drain hp ?_).empty_handed (.inr ⟨rfl, rfl⟩))
    exact hidle ▸ hended
  · next c left hsome =>
    rw [hsome] at hidle
    exact Routine.accounts_modify_bind (ensues_modifyPool hp rfl rfl)
      (carries_pure (hw.take hp hidle.symm hended) (.inl ⟨c, rfl, rfl⟩))

theorem carries_takeOrOpen (hp : p < w.pools.length) (hw : w.Circulates T kept rest) :
    Carries T kept (takeOrOpen p) w rest fun r own _ => Fetched p r own := by
  refine carries_bind (carries_takeIdle hp hw) ?_
  rintro _ _ v rest - (⟨c, rfl, rfl⟩ | ⟨rfl, rfl⟩) hv
  · exact carries_pure hv (.opened c)
  · exact carries_openFor ((zero_add rest) ▸ hv)

/-- What is lent is with its handle, which nobody holds yet. -/
theorem carries_lend (hp : p < w.pools.length) (hw : w.Circulates T kept ({conn p c} + rest)) :
    Carries T kept (lend p c) w rest fun h own v => own = {fresh h} ∧ (v.handle h).pool = p ∧
      w.handles.length ≤ h := by
  refine fun now => ⟨hw.ensues_lending hp, {fresh w.handles.length}, hw.lend hp, rfl, ?_, Nat.le_refl _⟩
  exact congrArg Handle.pool (handle_lending_length p c w)

/-- Whoever borrows gets a new handle of the pool that nobody holds yet, or has nothing. -/
inductive Leased (p : PoolId) (n : HandleId) (v : World D) : Except RouteError HandleId → Multiset Freight → Prop
  | lent {h : HandleId} (pool : (v.handle h).pool = p) (new : n ≤ h) : Leased p n v (.ok h) {fresh h}
  | refused (e : RouteError) : Leased p n v (.error e) 0

theorem carries_borrow (hp : p < w.pools.length) (hw : w.Circulates T kept rest) :
    Carries T kept (borrow p) w rest fun r own v => Leased p w.handles.length v r own := by
  refine Routine.accounts_get_bind ?_
  dsimp only
  split
  · exact carries_pure hw.empty_handed (.refused _)
  · refine carries_bind ((rests_acquire p).carries hw.empty_handed) ?_
    rintro r _ v rest hwv rfl hv
    have hp := Nat.lt_of_lt_of_le hp hwv.pools_le
    cases r with
    | error e => exact carries_pure hv (.refused e)
    | ok _ =>
      refine carries_bind (carries_takeOrOpen hp ((zero_add rest) ▸ hv)) ?_
      rintro _ _ u rest hvu (c | e) hu
      · refine carries_bind (carries_lend (Nat.lt_of_lt_of_le hp hvu.pools_le) hu) ?_
        rintro h _ x rest - ⟨rfl, hpool, hnew⟩ hx
        exact carries_pure hx (.lent hpool (Nat.le_trans (hwv.trans hvu).length_le hnew))
      · refine carries_bind ((rests_releasePermit p).carries hu) ?_
        rintro _ _ x rest - rfl hx
        exact carries_pure hx (.refused e)

/-! ## Giving back -/

/-- Only the first to give a handle back goes on. He has its connection in hand once he has counted it. -/
theorem carries_return {x : Routine (World D) Unit} {Q : Multiset Freight → World D → Prop} (hh : h < w.handles.length)
    (hfree : fresh h ∉ rest) (hw : w.Circulates T kept rest) (hdone : (w.handle h).returned = true → Q 0 w)
    (hx : (w.handle h).returned = false → w.Ensues T kept (w.returning h) →
      (w.returning h).Circulates T kept ({conn (w.handle h).pool (w.handle h).conn} + rest) →
      Carries T kept x (w.marking h) rest fun _ own v => Q own v) :
    Carries T kept (markReturned h >>= fun first => if first then x else pure ()) w rest fun _ own v => Q own v := by
  have hmark : w.Ensues T kept (w.marking h) := ensues_marking hh
  suffices hgo : Carries T kept (if !(w.handle h).returned then x else pure ()) (w.marking h) rest
      fun _ own v => Q own v
    from fun now => (hgo now).since hmark
  cases hr : (w.handle h).returned with
  | true =>
    rw [marking, modifyHandle_of_returned hr]
    exact carries_pure hw.empty_handed (hdone hr)
  | false => exact hx hr (hmark.trans (hw.toTallies.ensues_returning hh)) (hw.giveBack hh hr hfree)

/-- What is given back first is counted. -/
theorem carries_counting {Q : β → Multiset Freight → World D → Prop} {f : World D → Unit → Routine (World D) β}
    (hh : h < w.handles.length) (ht : w.Tallies) (hf : Carries T kept (f (w.marking h) ()) (w.returning h) rest Q) :
    Carries T kept (get >>= fun v => modify (modifyPool (v.handle h).pool Pool.unlend) >>= f v)
      (w.marking h) rest Q := by
  have hpool : ((w.marking h).handle h).pool = (w.handle h).pool := by rw [handle_modifyHandle hh, if_pos rfl]
  refine Routine.accounts_get_bind (Routine.accounts_modify_bind ?_ ?_)
  · rw [hpool]
    exact ht.ensues_returning hh
  · rw [hpool]
    exact hf

/-- Where the connection of a handle is that was given back: it is closed, or idle, or somebody has to close it. -/
inductive Reclaimed (w : World D) (p : PoolId) (c : ConnId) : Option ConnId → Multiset Freight → Prop
  | dead (closed : w.isClosed c = true) : Reclaimed w p c none 0
  | idle (isOpen : (w.pool p).closed = false) : Reclaimed w p c none 0
  | left (closed : (w.pool p).closed = true) : Reclaimed w p c (some c) {conn p c}

theorem carries_reclaim (hh : h < w.handles.length) (ht : w.Tallies)
    (hw : (w.returning h).Circulates T kept ({conn (w.handle h).pool (w.handle h).conn} + rest)) :
    Carries T kept (reclaim h) (w.marking h) rest fun r own _ =>
      Reclaimed w (w.handle h).pool (w.handle h).conn r own := by
  have hhandle : (w.marking h).handle h = { w.handle h with returned := true } := by
    rw [handle_modifyHandle hh, if_pos rfl]
  have hp := ht.lender h hh
  obtain ⟨-, hclosed, hidle, -⟩ := pool_returning hp (w.handle h).pool
  refine carries_counting hh ht ?_
  rw [hhandle]
  dsimp only
  split
  · next hended =>
    exact carries_pure (hw.shed (T.outlook.ended_of_closed hended)).empty_handed (.dead hended)
  · split
    · next hshut => exact carries_pure hw (.left hshut)
    · next hopen =>
      have hopen : (w.pool (w.handle h).pool).closed = false := Bool.eq_false_iff.2 hopen
      have hp : (w.handle h).pool < (w.returning h).pools.length := by
        simpa [returning, modifyPool, modifyHandle] using hp
      have hput : (w.returning h).Ensues T kept ((w.returning h).modifyPool (w.handle h).pool fun P =>
          { P with idle := (w.handle h).conn :: P.idle }) := ensues_modifyPool hp rfl rfl
      exact Routine.accounts_modify_bind hput
        (carries_pure (hw.put hp (hclosed.trans hopen)).empty_handed (.idle hopen))

theorem carries_dropPermit (hw : w.Circulates T kept rest) :
    Carries T kept (dropPermit h) w rest fun _ own _ => own = 0 :=
  (rests_dropPermit h).carries hw.empty_handed

/-- What comes back to a closed pool and is not closed is told to close. -/
theorem carries_giveBack (hh : h < w.handles.length) (hfree : fresh h ∉ rest) (hw : w.Circulates T kept rest) :
    Carries T kept (giveBack h) w rest fun _ own v => own = 0 ∧ (v.handle h).returned = true ∧
      ((w.handle h).returned = false → (w.pool (w.handle h).pool).closed = true →
        w.isClosed (w.handle h).conn = true ∨ (w.handle h).conn ∈ v.hungUp) := by
  refine carries_return (Q := fun own v => own = 0 ∧ (v.handle h).returned = true ∧ ((w.handle h).returned = false →
    (w.pool (w.handle h).pool).closed = true → w.isClosed (w.handle h).conn = true ∨ (w.handle h).conn ∈ v.hungUp))
    hh hfree hw (fun hr => ⟨rfl, hr, fun hout => by rw [hr] at hout; cases hout⟩) fun hr hwr hv => ?_
  have hend : ∀ {v : World D}, (w.marking h).Ensues T kept v → (v.handle h).returned = true := fun hv =>
    hv.returned h (by rw [handle_modifyHandle hh, if_pos rfl])
  refine carries_bind (carries_reclaim hh hw.toTallies hv) ?_
  rintro _ _ u rest hu (hover | hopen | hclosed) hv
  · refine fun now => (carries_dropPermit ((zero_add rest) ▸ hv) now).along.imp ?_
    rintro _ _ x ⟨hx, rfl⟩
    exact ⟨rfl, hend (hu.trans hx), fun _ _ => .inl hover⟩
  · refine fun now => (carries_dropPermit ((zero_add rest) ▸ hv) now).along.imp ?_
    rintro _ _ x ⟨hx, rfl⟩
    exact ⟨rfl, hend (hu.trans hx), fun _ hclosed => by rw [hopen] at hclosed; cases hclosed⟩
  · refine carries_bind (carries_hangUpQuietly (hv.doom (barred_length _ u))) ?_
    rintro _ _ x rest hx ⟨rfl, hrid⟩ hv
    refine fun now => (carries_dropPermit ((zero_add rest) ▸ hv) now).along.imp ?_
    rintro _ _ y ⟨hy, rfl⟩
    exact ⟨rfl, hend (hu.trans (hx.trans hy)), fun _ _ => .inr (hrid.later hy).told⟩

/-- What is evicted is closed, whatever its pool is. -/
theorem carries_evict (hh : h < w.handles.length) (hfree : fresh h ∉ rest) (hbarred : w.Barred (w.handle h).conn n)
    (hw : w.Circulates T kept rest) :
    Carries T kept (evict h) w rest fun _ own v => own = 0 ∧ (v.handle h).returned = true ∧
      ((w.handle h).returned = false → v.Rid (w.handle h).conn n) := by
  refine carries_return (Q := fun own v => own = 0 ∧ (v.handle h).returned = true ∧
    ((w.handle h).returned = false → v.Rid (w.handle h).conn n)) hh hfree hw
    (fun hr => ⟨rfl, hr, fun hout => by rw [hr] at hout; cases hout⟩) fun hr hwr hv => ?_
  have hhandle : (w.marking h).handle h = { w.handle h with returned := true } := by
    rw [handle_modifyHandle hh, if_pos rfl]
  have hreturned : ((w.returning h).handle h).returned = true := by rw [handle_returning hh, if_pos rfl]
  refine carries_counting hh hw.toTallies ?_
  rw [hhandle]
  have hv : (w.returning h).Circulates T kept ({doomed (w.handle h).conn n} + rest) := hv.doom (hbarred.giveBack hh)
  refine carries_bind ((rests_log _ _).carries hv) ?_
  rintro _ _ u rest hu rfl hv
  refine carries_bind (carries_hangUpQuietly hv) ?_
  rintro _ _ x rest hx ⟨rfl, hrid⟩ hv
  refine fun now => (carries_dropPermit ((zero_add rest) ▸ hv) now).along.imp ?_
  rintro _ _ y ⟨hy, rfl⟩
  exact ⟨rfl, (hu.trans (hx.trans hy)).returned h hreturned, fun _ => hrid.later hy⟩

theorem Ensues.of_eq (hb : w'.backend = w.backend) (hj : w'.journal = w.journal) (hp : w'.pools = w.pools)
    (hh : w'.handles = w.handles) : w.Ensues T kept w' :=
  (Follows.of_eq hb hj hp hh).ensues (by rw [hh]) fun p => by rw [pool, hp]; rfl

theorem ensues_orphans (cs : List ConnId) (w : World D) : w.Ensues T kept { w with orphans := cs } :=
  .of_eq rfl rfl rfl rfl

theorem ensues_cache (c : Cache String PoolId) (w : World D) : w.Ensues T kept { w with cache := c } :=
  .of_eq rfl rfl rfl rfl

theorem carries_abandon (hh : h < w.handles.length) (hfree : fresh h ∉ rest) (hw : w.Circulates T kept rest) :
    Carries T kept (abandon h) w rest fun _ own _ => own = 0 := by
  refine carries_return (Q := fun own _ => own = 0) hh hfree hw (fun _ => rfl) fun hr hwr hv => ?_
  refine carries_bind (carries_reclaim hh hw.toTallies hv) ?_
  rintro _ _ u rest - (- | - | -) hv
  · exact carries_dropPermit ((zero_add rest) ▸ hv)
  · exact carries_dropPermit ((zero_add rest) ▸ hv)
  · exact Routine.accounts_modify_bind (ensues_orphans _ u) (carries_dropPermit hv.strand)

/-- The first of the connections that were left to be closed is told to. -/
theorem carries_adopt {cs : List ConnId} (horphans : w.orphans = c :: cs) (hw : w.Circulates T kept rest) :
    Carries T kept closeOrphan w rest fun _ own v => own = 0 ∧ v.Rid c w.handles.length := by
  refine Routine.accounts_get_bind ?_
  rw [horphans]
  exact Routine.accounts_modify_bind (ensues_orphans _ w) (carries_hangUpQuietly (hw.adopt horphans))

theorem carries_closeOrphan (hw : w.Circulates T kept rest) :
    Carries T kept closeOrphan w rest fun _ own _ => own = 0 := by
  cases horphans : w.orphans with
  | nil =>
    refine Routine.accounts_get_bind ?_
    rw [horphans]
    exact carries_pure hw.empty_handed rfl
  | cons c cs => exact fun now => (carries_adopt horphans hw now).imp fun _ _ _ h => h.1

/-! ## Holding -/

/-- A handle that somebody holds is nobody's alone. -/
theorem Circulates.not_fresh (hw : w.Circulates T kept rest) (hheld : 0 < (w.handle h).holders) : fresh h ∉ rest :=
  fun hf => absurd (hw.fresh h hf).2.2 (Nat.ne_of_gt hheld)

theorem ensues_modifyHandle (hh : h < w.handles.length) {f : Handle → Handle}
    (hf : ∀ e, (f e).pool = e.pool ∧ (f e).conn = e.conn ∧ (f e).returned = e.returned) :
    w.Ensues T kept (w.modifyHandle h f) := by
  have hfollows : w.Follows T (w.modifyHandle h f) :=
    .modifyHandle (fun e => (hf e).1) (fun e => (hf e).2.1) (fun e he => (hf e).2.2.trans he) hh
  exact hfollows.ensues (by simp [modifyHandle]) fun _ => rfl

theorem carries_hold (hh : h < w.handles.length) (hfree : fresh h ∉ rest) (hw : w.Circulates T kept rest) :
    Carries T kept (Link.pooled h).hold w rest fun _ own _ => own = 0 := by
  have hf : ∀ e : Handle, ({ e with holders := e.holders + 1 } : Handle).pool = e.pool ∧
      ({ e with holders := e.holders + 1 } : Handle).conn = e.conn ∧
      ({ e with holders := e.holders + 1 } : Handle).returned = e.returned := fun _ => ⟨rfl, rfl, rfl⟩
  exact Routine.accounts_modify (ensues_modifyHandle hh hf) (hw.grip hh hfree hf).empty_handed rfl

/-- Nobody else has a handle that somebody has for himself. -/
theorem Circulates.not_mem_of_fresh (hw : w.Circulates T kept ({fresh h} + rest)) : fresh h ∉ rest := by
  have hnodup : (handlesOf (fresh h ::ₘ rest)).Nodup := hw.toUntouched.nodup
  rw [handlesOf_cons] at hnodup
  exact fun hf => (Multiset.nodup_cons.1 hnodup).1 (mem_handlesOf.2 hf)

/-- Whoever has a new handle may give it to somebody who holds it from now on. -/
theorem carries_hold_fresh (hw : w.Circulates T kept ({fresh h} + rest)) :
    Carries T kept (Link.pooled h).hold w rest fun _ own _ => own = 0 :=
  carries_hold (hw.fresh h (Multiset.mem_cons_self _ _)).1 hw.not_mem_of_fresh hw.forget

theorem carries_letGo (hh : h < w.handles.length) (hfree : fresh h ∉ rest) (hw : w.Circulates T kept rest) :
    Carries T kept (Link.pooled h).letGo w rest fun _ own _ => own = 0 := by
  have hf : ∀ e : Handle, ({ e with holders := e.holders - 1 } : Handle).pool = e.pool ∧
      ({ e with holders := e.holders - 1 } : Handle).conn = e.conn ∧
      ({ e with holders := e.holders - 1 } : Handle).returned = e.returned := fun _ => ⟨rfl, rfl, rfl⟩
  refine Routine.accounts_modify_bind (ensues_modifyHandle hh hf) (Routine.accounts_get_bind ?_)
  split
  · exact carries_abandon (by simpa [modifyHandle] using hh) hfree (hw.grip hh hfree hf)
  · exact carries_pure (hw.grip hh hfree hf).empty_handed rfl

/-! ## Closing -/

/-- A pool is closed, and its idle connections were told to close. -/
structure Disposed (u : World D) (p : PoolId) (r : Except RouteError Unit) (v : World D) : Prop where
  closed : (v.pool p).closed = true
  rid : ∀ c ∈ (u.pool p).idle, v.Rid c u.handles.length
  answered : ∃ rs, v.Answered (u.pool p).idle.reverse rs ∧ r = (u.pool p).verdict (rs.countP (!·.isOk))

theorem Disposed.later {r : Except RouteError Unit} (h : u.Disposed p r v) (hw : v.Ensues T kept w) :
    u.Disposed p r w := by
  obtain ⟨rs, hrs, hr⟩ := h.answered
  exact ⟨hw.shut p h.closed, fun c hc => (h.rid c hc).later hw, rs, hrs.later hw, hr⟩

/-- What is left to do once a pool was told to close. -/
def closeAll (P : Pool) : Routine (World D) (Except RouteError Unit) := do
  let failures ← closeIdle P.key P.idle.reverse
  Routine.log .info ("Closed connection pool " ++ P.key)
  return P.verdict failures

theorem closePool_of_closed (hclosed : (w.pool p).closed = true) (now : Instant) :
    closePool p now w = .done (.ok ()) w := by
  show (if (w.pool p).closed then _ else _ : Routine (World D) _) now w = _
  rw [if_pos hclosed]
  rfl

/-- A pool is closed at once, and then its idle connections are. -/
theorem closePool_of_open (hopen : (w.pool p).closed = false) (now : Instant) :
    closePool p now w = closeAll (w.pool p) now (w.shutting p) := by
  have hverdict : ∀ failures : Nat, (if failures = 0 then pure (.ok ())
      else pure (.error (.disposal s!"{failures} idle connections in pool {(w.pool p).key} failed to close")) :
        Routine (World D) (Except RouteError Unit)) = pure ((w.pool p).verdict failures) := fun failures => by
    unfold Pool.verdict
    split <;> rfl
  show (if (w.pool p).closed then _ else _ : Routine (World D) _) now w = _
  rw [if_neg (Bool.eq_false_iff.1 hopen)]
  simp only [hverdict]
  rfl

/-- Connections of a pool that is closed already are told to close. -/
theorem carries_closeAll (hp : p < u.pools.length) (hu : (u.shutting p).Circulates T kept
    (((u.pool p).idle.reverse.map (doomed · u.handles.length) : List Freight) + rest)) :
    Carries T kept (closeAll (u.pool p)) (u.shutting p) rest fun r own v => own = 0 ∧ u.Disposed p r v := by
  refine carries_bind (carries_closeIdle _ _ hu) ?_
  rintro failures _ v rest hv ⟨rfl, hrid, rs, hrs, rfl⟩ hcirc
  refine carries_bind ((rests_log _ _).carries hcirc) ?_
  rintro _ _ x rest hx rfl hcirc
  have hclosed : ((u.shutting p).pool p).closed = true := by rw [pool_shutting hp, if_pos rfl]
  exact carries_pure hcirc ⟨rfl, (hv.trans hx).shut p hclosed,
    fun c hc => (hrid c (List.mem_reverse.2 hc)).later hx, rs, hrs.later hx, rfl⟩

/-- Closing a pool that was perhaps just taken out of the cache. -/
theorem carries_shut (hclosed : (u.pool p).closed = true → u.Circulates T kept rest)
    (hopen : (u.pool p).closed = false → u.Ensues T kept (u.shutting p) ∧ (u.shutting p).Circulates T kept
      (((u.pool p).idle.reverse.map (doomed · u.handles.length) : List Freight) + rest)) (hp : p < u.pools.length) :
    Carries T kept (closePool p) u rest fun r own v => own = 0 ∧ u.Disposed p r v := by
  intro now
  cases hshut : (u.pool p).closed with
  | true =>
    have hu := hclosed hshut
    have hidle := hu.shut p hshut
    rw [closePool_of_closed hshut]
    refine carries_pure hu.empty_handed ⟨rfl, hshut, ?_, [], ?_, rfl⟩ now
    · simp [hidle]
    · simp [hidle, Answered]
  | false =>
    obtain ⟨hshutting, hu⟩ := hopen hshut
    rw [closePool_of_open hshut]
    exact (carries_closeAll hp hu now).since hshutting

/-- Where no pool is kept, any pool may be closed. -/
theorem carries_closePool (hp : p < w.pools.length) (hnone : kept → (w.pool p).active = 0)
    (hw : w.Circulates T kept rest) :
    Carries T kept (closePool p) w rest fun r own v => own = 0 ∧ w.Disposed p r v :=
  carries_shut (fun _ => hw) (fun _ => ⟨hw.toTallies.ensues_shutting hp hnone, hw.close hp⟩) hp

/-- A pool that is taken out of the cache is closed. -/
theorem carries_dispose {k : String} (hcached : w.poolAt? k = some p) (hnone : kept → (w.pool p).active = 0)
    (hw : w.Circulates T kept rest) :
    Carries T kept (closePool p) { w with cache := w.cache.erase k } rest
      fun r own v => own = 0 ∧ w.Disposed p r v := by
  have hp := (hw.cached k p hcached).1
  have ht : ({ w with cache := w.cache.erase k } : World D).Tallies := ⟨hw.lender, hw.active⟩
  have hshut : Carries T kept (closePool p) { w with cache := w.cache.erase k } rest fun r own v =>
      own = 0 ∧ ({ w with cache := w.cache.erase k } : World D).Disposed p r v :=
    carries_shut (fun hclosed => hw.erase (fun _ => hcached) fun _ => hclosed)
      (fun _ => ⟨ht.ensues_shutting hp hnone,
        (hw.close hp).erase (fun _ => hcached) fun _ => by rw [pool_shutting hp, if_pos rfl]⟩) hp
  exact fun now => (hshut now).imp fun _ _ _ ⟨hown, h⟩ => ⟨hown, h.closed, h.rid, h.answered⟩

/-- What is written down once a pool was released. -/
def sign (k : String) : Except RouteError Unit → Routine (World D) Unit
  | .ok _ => Routine.log .debug ("Disposed cache entry " ++ Text.quote k)
  | .error e => Routine.log .warn ("Failed to dispose cache entry " ++ Text.quote k ++ ": " ++ e.message)

theorem releaseValue_eq (k : String) (p : PoolId) :
    poolKeeper.releaseValue (W := World D) k p = closePool p >>= sign k := by
  show (closePool p >>= _) >>= _ = _
  rw [bind_assoc]
  refine congrArg _ (funext fun r => ?_)
  cases r with
  | ok _ => rfl
  | error e => rfl

theorem rests_sign (k : String) (r : Except RouteError Unit) : Rests T kept (sign k r) := by
  cases r with
  | ok _ => exact rests_log _ _
  | error e => exact rests_log _ _

theorem carries_releaseValue {k : String} (hcached : w.poolAt? k = some p) (hnone : kept → (w.pool p).active = 0)
    (hw : w.Circulates T kept rest) :
    Carries T kept (poolKeeper.releaseValue k p) { w with cache := w.cache.erase k } rest fun _ own v =>
      own = 0 ∧ ∃ r, w.Disposed p r v := by
  rw [releaseValue_eq]
  refine carries_bind (carries_dispose hcached hnone hw) ?_
  rintro r _ v rest - ⟨rfl, h⟩ hv
  exact fun now => ((rests_sign k r).carries hv now).along.imp fun _ _ _ ⟨hx, hown⟩ => ⟨hown, r, h.later hx⟩

/-- Pools of which nothing is out may be swept. -/
theorem mindful_poolKeeper : (poolKeeper (D := D)).Mindful (Ensues T kept) (Circulates T kept) where
  log _ _ hw :=
    have hnote : Serene T _ _ := .note rfl rfl _
    ⟨hnote.ensues, hw.serene hnote⟩
  upkeep {w rest cache} hw entries _ := by
    have hs : w.Serene T { w with cache } := .upkeep fun k => by
      rw [Cache.cached?, show cache.entries = w.cache.entries from entries]
      rfl
    exact ⟨hs.ensues, hw.serene hs⟩
  dispose {w _ k _} now hw cached may :=
    ((carries_releaseValue (poolAt?_of_cached cached) (fun _ => beq_iff_eq.1 may) hw now).since (ensues_cache _ w)).imp
      fun _ _ _ h => h.1

/-- Where no pool is kept, any pool may be taken out of the cache. -/
theorem sound_poolKeeper_of_not_kept (hk : ¬ kept) :
    (poolKeeper (D := D)).Sound (Ensues T kept) (Circulates T kept) where
  toMindful := mindful_poolKeeper
  drop {w _ _ _} now hw cached :=
    ((carries_releaseValue (poolAt?_of_cached cached) (fun h => absurd h hk) hw now).since (ensues_cache _ w)).imp
      fun _ _ _ h => h.1

end World

open World

/-! ## Providers -/

namespace PooledProvider

variable {T : Terms D} {kept : Prop} {w : World D} {rest : Multiset Freight} (provider : PooledProvider)
  {protocol : String} {host : Host} {props : Properties}

/-- The pool of a key is found in the cache, or created and put there. It is missing only where it cannot be created. -/
theorem carries_computeIfAbsent {key : String} (hw : w.Circulates T kept rest) :
    Carries T kept (poolKeeper.computeIfAbsent key (provider.createPool key protocol host props)) w rest fun r own v =>
      own = 0 ∧ (∀ p, r = .ok p → p < v.pools.length ∧ (v.pool p).key = key) ∧
        ∀ e, r = .error e →
          Pool.create key protocol host props (provider.configure host props provider.base) = .error e := by
  refine (mindful_poolKeeper.paysBack_sweepIfDue hw).bind fun _ v rest hv now => ?_
  cases hc : (poolKeeper.cache.get v).cached? key with
  | some e =>
    have htouch : v.Serene T { v with cache := v.cache.touch key now } := .touch hc now
    rw [Keeper.findOrMake_of_cached hc]
    refine ⟨htouch.ensues, 0, (hv.serene htouch).empty_handed, rfl, ?_, by rintro _ ⟨⟩⟩
    rintro _ ⟨⟩
    exact hv.cached key e.value (poolAt?_of_cached hc)
  | none =>
    have hnote : ∀ text, v.Serene T (Journaled.note (.log .info text) v) := fun _ => .note rfl rfl v
    -- the pool is not in the cache: it is created and put there in one go, or its configuration is refused
    cases hP : Pool.create key protocol host props (provider.configure host props provider.base) with
    | error e =>
      obtain ⟨text, hcreate⟩ := provider.createPool_of_error hP v
      rw [Keeper.findOrMake_of_error hc hcreate]
      refine ⟨(hnote text).ensues, 0, (hv.serene (hnote text)).empty_handed, rfl, by rintro _ ⟨⟩, ?_⟩
      rintro _ ⟨⟩
      rfl
    | ok P =>
      obtain ⟨text, hcreate⟩ := provider.createPool_of_ok hP v
      obtain ⟨hPkey, hPidle, hPactive⟩ : P.key = key ∧ P.idle = [] ∧ P.active = 0 := by
        unfold Pool.create at hP
        split at hP
        · cases hP
        · cases hP
          exact ⟨rfl, rfl, rfl⟩
      have habsent : (Journaled.note (.log .info text) v).poolAt? key = none := poolAt?_of_not_cached hc
      have hnoted := hv.serene (hnote text)
      have hinstalled := hnoted.install (t := now) hPkey habsent hPidle hPactive
      rw [Keeper.findOrMake_of_ok hc hcreate]
      refine ⟨(hnote text).ensues.trans ((hnoted.toTallies.ensues_append P).trans (ensues_cache _ _)), 0,
        hinstalled.empty_handed, rfl, ?_, by rintro _ ⟨⟩⟩
      rintro _ ⟨⟩
      refine hinstalled.cached key v.pools.length ?_
      show ({ v with cache := v.cache.insert key ⟨v.pools.length, now⟩ } : World D).poolAt? key = _
      rw [poolAt?_insert, if_pos rfl]

/-- Whoever asks for a valid connection gets a new handle that nobody holds yet, or has nothing. -/
inductive Served (n : HandleId) : Except RouteError HandleId → Multiset Freight → Prop
  | lent {h : HandleId} (new : n ≤ h) : Served n (.ok h) {fresh h}
  | refused (e : RouteError) : Served n (.error e) 0

theorem Served.mono {m n : HandleId} {r : Except RouteError HandleId} {own : Multiset Freight} (h : Served n r own)
    (hm : m ≤ n) : Served m r own := by
  cases h with
  | lent new => exact .lent (Nat.le_trans hm new)
  | refused e => exact .refused e

theorem carries_connectWithin (left invalid : Nat) (cause : Option RouteError) (hw : w.Circulates T kept rest) :
    Carries T kept (provider.connectWithin protocol host props left invalid cause) w rest fun r own _ =>
      Served w.handles.length r own := by
  -- by induction on how many trials are left; only the one that ends the search leaves a handle in hand
  induction left generalizing invalid cause w rest with
  | zero => exact carries_pure hw.empty_handed (.refused _)
  | succ left ih =>
    refine carries_bind (provider.carries_computeIfAbsent hw) ?_
    rintro r _ v rest hwv ⟨rfl, hpool, -⟩ hv
    cases r with
    | error e => exact carries_pure hv (.refused e)
    | ok p =>
      obtain ⟨hp, -⟩ := hpool p rfl
      rw [zero_add] at hv
      refine carries_bind (carries_borrow hp hv) ?_
      rintro _ _ u rest hvu (@⟨h, hlender, hnew⟩ | e) hv
      · have hnew := Nat.le_trans hwv.length_le hnew
        refine Routine.accounts_get_bind (carries_bind ((rests_isValid _ _).carries hv) ?_)
        rintro valid _ x rest hux rfl hv
        split
        · exact carries_pure hv (.lent hnew)
        · refine carries_bind ((rests_log _ _).carries hv) ?_
          rintro _ _ y rest hxy rfl hv
          obtain ⟨hh, -, -⟩ := hv.fresh h (Multiset.mem_cons_self _ _)
          have hlast := hv.last h (Multiset.mem_cons_self _ _)
          refine carries_bind (carries_evict hh hv.not_mem_of_fresh hlast hv.forget) ?_
          rintro _ _ z rest hyz ⟨rfl, -⟩ hv
          have hwz := hwv.trans (hvu.trans (hux.trans (hxy.trans hyz)))
          exact fun now => (ih _ _ (zero_add rest ▸ hv) now).imp fun _ _ _ h => h.mono hwz.length_le
      · rw [zero_add] at hv
        have hwu := (hwv.trans hvu).length_le
        refine Routine.accounts_get_bind ?_
        split
        · refine carries_bind ((rests_log _ _).carries hv.empty_handed) ?_
          rintro _ _ x rest hux rfl hv
          have hwx := (hwv.trans (hvu.trans hux)).length_le
          exact fun now => (ih _ _ (zero_add rest ▸ hv) now).imp fun _ _ _ h => h.mono hwx
        · split
          · exact carries_pure hv.empty_handed (.refused _)
          · exact carries_pure hv.empty_handed (.refused _)

theorem carries_connect (hw : w.Circulates T kept rest) :
    Carries T kept (provider.connect protocol host props) w rest fun r own _ => Served w.handles.length r own :=
  provider.carries_connectWithin _ _ _ hw

/-- Where no pool is kept, all of them may be taken out of the cache and closed. -/
theorem carries_release (hk : ¬ kept) (hw : w.Circulates T kept rest) :
    Carries T kept PooledProvider.release w rest fun _ own _ => own = 0 := by
  have hclear : poolKeeper.clear.PaysBack (Ensues T kept) (Circulates T kept) w rest :=
    Routine.accounts_get_bind ((sound_poolKeeper_of_not_kept hk).paysBack_clearKeys _ hw)
  exact Routine.accounts_get_bind (hclear.bind fun _ v rest hv => (rests_log _ _).carries hv.empty_handed)

end PooledProvider

end ReplicaRouter
