import Mathlib.Data.List.TakeWhile
import ReplicaRouter.Proofs.Caching
import ReplicaRouter.Proofs.Custody
/-
What has to be seen to while connections are borrowed, given back and closed, and while pools are created, swept
and cleared: wherever one of these calls waits the world was reached by moves, and in the end the call has
handed on what it had.
Main statements: `World.deals_borrow`, `World.deals_giveBack`, `World.deals_closePool`,
`PooledProvider.deals_connect` and `PooledProvider.deals_release`.
-/
namespace ReplicaRouter

open Charge

variable {D α β : Type} [Backend D]

namespace World

/-- Wherever the work stops, the world was reached by moves, with what others have to see to and something of
the work's own. -/
abbrev Deals (T : Terms D) (x : Routine (World D) α) (w : World D) (rest : Multiset Charge)
    (Q : α → Multiset Charge → World D → Prop) : Prop :=
  x.Accounts (Follows T) (Reached T) w rest Q

/-- The work passes nothing on, whatever happens meanwhile. -/
abbrev Idles (T : Terms D) (x : Routine (World D) α) : Prop := x.Calm (Follows T) (Beside T)

variable {T : Terms D} {w w' : World D} {own rest a b : Multiset Charge} {c : ConnId} {p : PoolId} {h : HandleId}

/-! ## Single moves -/

/-- Whoever has nothing to see to yet. -/
theorem Reached.empty_handed (hw : Reached T w rest) : Reached T w (0 + rest) :=
  (zero_add rest).symm ▸ hw

theorem Reached.gain (hw : Reached T w rest) (m : Move T w 0 w' b) : Reached T w' (b + rest) :=
  .move hw.empty_handed m

theorem Reached.lose (hw : Reached T w (a + rest)) (m : Move T w a w' 0) : Reached T w' rest := by
  have h := hw.move m
  rwa [zero_add] at h

theorem Reached.pass (hw : Reached T w rest) (m : Move T w 0 w' 0) : Reached T w' rest := by
  have h := hw.gain m
  rwa [zero_add] at h

theorem Reached.swap (hw : Reached T w (a + rest)) (m : w.Exchange T a b) : Reached T w (b + rest) :=
  hw.move (.exchanged m)

theorem Reached.beside (hw : Reached T w rest) (h : w.Beside T w') : Reached T w' rest := hw.pass (.beside h)

/-- A change that takes what the work has and gives it something else. -/
theorem deals_modify_bind {f : World D → World D} {g : Unit → Routine (World D) β}
    {Q : β → Multiset Charge → World D → Prop} (m : Move T w a (f w) b) (h : Deals T (g ()) (f w) rest Q) :
    Deals T (modify f >>= g) w rest Q :=
  Routine.accounts_modify_bind m.follows h

theorem deals_bind {x : Routine (World D) α} {f : α → Routine (World D) β}
    {Q : α → Multiset Charge → World D → Prop} {Q' : β → Multiset Charge → World D → Prop}
    (hx : Deals T x w rest Q) (hf : ∀ a own v rest, w.Follows T v → Q a own v → Reached T v (own + rest) →
      Deals T (f a) v rest Q') : Deals T (x >>= f) w rest Q' :=
  Routine.accounts_bind (fun now => (hx now).along) fun a own v rest h => hf a own v rest h.1 h.2

theorem deals_pure {Q : α → Multiset Charge → World D → Prop} {a : α} (hw : Reached T w (own + rest)) (hq : Q a own w) :
    Deals T (pure a) w rest Q :=
  Routine.accounts_pure hw hq

theorem deals_discard {x : Routine (World D) α} {Q : Multiset Charge → World D → Prop}
    (hx : Deals T x w rest fun _ own v => Q own v) : Deals T (discard x) w rest fun _ own v => Q own v :=
  deals_bind hx fun _ _ _ _ _ hq hv => deals_pure hv hq

/-! ## Work that passes nothing on -/

instance : Frame (Beside T) (Beside T) where
  refl := .refl
  trans {u v w} h1 h2 := by
    obtain ⟨es, hj, hes⟩ := h1.journal
    obtain ⟨fs, hk, hfs⟩ := h2.journal
    refine ⟨T.outlook.trans h1.later h2.later, ⟨fs ++ es, by rw [hk, hj, List.append_assoc], fun e he => ?_⟩,
      h2.pools.trans h1.pools, h2.handles.trans h1.handles, h2.orphans.trans h1.orphans,
      fun k => (h2.cached k).trans (h1.cached k)⟩
    exact (List.mem_append.1 he).elim (hfs e) (hes e)
  bears h := h

theorem Idles.deals {x : Routine (World D) α} (hx : Idles T x) (hw : Reached T w (own + rest)) :
    Deals T x w rest fun _ own' _ => own' = own :=
  hx.accounts (fun _ _ _ hv hu => ⟨hv.follows, hu.beside hv⟩) hw

theorem idles_log (level : LogLevel) (text : String) : Idles T (Routine.log level text) :=
  Routine.calm_modify fun w => .note rfl rfl w

theorem map_modify {α β : Type} (f : α → β) {g : α → α} (hg : ∀ a, f (g a) = f a) (l : List α) (i : Nat) :
    (l.modify i g).map f = l.map f := by
  refine List.ext_getElem? fun j => ?_
  rw [List.getElem?_map, List.getElem?_map, List.getElem?_modify]
  cases l[j]? with
  | none => rfl
  | some a => by_cases hi : i = j <;> simp [hi, hg]

theorem Beside.modifyPool (p : PoolId) {f : Pool → Pool} (hf : ∀ P, (f P).bare = P.bare) (w : World D) :
    w.Beside T (w.modifyPool p f) :=
  { Beside.refl w with pools := map_modify Pool.bare hf w.pools p }

theorem Beside.modifyHandle (h : HandleId) {f : Handle → Handle} (hf : ∀ e, (f e).bare = e.bare) (w : World D) :
    w.Beside T (w.modifyHandle h f) :=
  { Beside.refl w with handles := map_modify Handle.bare hf w.handles h }

theorem Beside.touch {key : String} {e : Cached PoolId} (h : w.cache.cached? key = some e) (t : Instant) :
    w.Beside T { w with cache := w.cache.touch key t } :=
  { Beside.refl w with
    cached := fun k => by
      rw [poolAt?, Cache.cached?_touch]
      split
      · next he => rw [he, h, poolAt?, h]; rfl
      · rfl }

theorem idles_modifyPool (p : PoolId) {f : Pool → Pool} (hf : ∀ P, (f P).bare = P.bare) :
    Idles T (modify (modifyPool p f)) :=
  Routine.calm_modify fun w => .modifyPool p hf w

theorem idles_releasePermit (p : PoolId) : Idles T (releasePermit p) := idles_modifyPool p fun _ => rfl

theorem idles_acquire (p : PoolId) : Idles T (acquire p) := by
  refine Routine.calm_bind Routine.calm_get fun w => ?_
  dsimp only
  split
  · exact Routine.calm_bind (idles_modifyPool p fun _ => rfl) fun _ => Routine.calm_pure _
  · refine Routine.calm_bind (idles_modifyPool p fun _ => rfl) fun _ => Routine.calm_bind Routine.calm_now fun t => ?_
    refine Routine.calm_bind (Routine.calm_wait _ _) fun ready => Routine.calm_bind Routine.calm_get fun v => ?_
    split
    · exact Routine.calm_bind (idles_modifyPool p fun _ => rfl) fun _ => Routine.calm_pure _
    · exact Routine.calm_bind (idles_modifyPool p fun _ => rfl) fun _ => Routine.calm_pure _

theorem idles_dropPermit (h : HandleId) : Idles T (dropPermit h) := by
  refine Routine.calm_bind Routine.calm_get fun w => ?_
  dsimp only
  split
  · refine Routine.calm_bind (Routine.calm_modify (.modifyHandle h ?_)) fun _ => idles_releasePermit _
    exact fun _ => rfl
  · exact Routine.calm_pure _

theorem idles_check (c : ConnId) (limit : Duration) : Idles T (check c limit) := by
  refine Routine.calm_bind (Routine.calm_focus (fun _ _ => .of_driver) (fun _ _ _ h => h.later) (T.isValid c limit)) ?_
  intro answer
  exact Routine.calm_bind (Routine.calm_modify fun w => .note rfl rfl w) fun _ => Routine.calm_pure _

theorem idles_isValid (l : Link) (limit : Duration) : Idles T (l.isValid limit) := by
  cases l with
  | direct c => exact idles_check c limit
  | pooled h =>
    refine Routine.calm_bind Routine.calm_get fun w => ?_
    dsimp only
    split
    · exact Routine.calm_pure _
    · exact Routine.calm_bind (Routine.calm_within (idles_check _ _) _) fun _ => Routine.calm_pure _

/-! ## Calls to the driver -/

/-- What the driver does by itself leaves everything in its place. -/
theorem deals_driver {x : Routine D α} {Q : α → D → Prop} (hx : x.Abides T.outlook.later w.backend Q)
    (hw : Reached T w (own + rest)) :
    Deals T (x.focus backendPart) w rest fun a own' v => own' = own ∧ Q a v.backend :=
  Routine.accounts_focus (fun _ _ => rfl) (fun _ _ _ hd hv =>
    ⟨(Beside.of_driver hd).follows, hv.beside (.of_driver hd)⟩)
    (fun _ _ h => h.later) hx hw

/-- Who asks for a connection has it in the end, or has nothing. -/
inductive Gained (Q : ConnId → Prop) : Except RouteError ConnId → Multiset Charge → Prop
  | opened {c : ConnId} (h : Q c) : Gained Q (.ok c) {conn c}
  | refused (e : RouteError) : Gained Q (.error e) 0

theorem deals_dial {protocol : String} {host : Host} {props : Properties} (hw : Reached T w rest) :
    Deals T (dial protocol host props) w rest fun r own v =>
      Gained (fun c => ∃ before, v.journal = .call (.connect protocol host props (some c)) :: before) r own := by
  refine deals_bind (deals_driver (T.outlook.connect protocol host props _) hw.empty_handed) ?_
  rintro r _ v rest - ⟨rfl, hhas⟩ hv
  cases r with
  | ok c =>
    have hopened := Move.opened (T := T) protocol host props (hhas c rfl)
    exact deals_modify_bind hopened (deals_pure (hv.move hopened) (.opened ⟨_, rfl⟩))
  | error e =>
    have hnote : Move T v 0 _ 0 := .beside (.note (e := .call (.connect protocol host props none)) rfl rfl v)
    exact deals_modify_bind hnote (deals_pure (hv.move hnote) (.refused e))

/-- Nobody has to see to a connection that no pool is meant for. -/
theorem deals_stray {protocol : String} {host : Host} {props : Properties}
    (hstray : PooledProvider.accepts host = false)
    (hw : Reached T w rest) : Deals T (dial protocol host props) w rest fun _ own _ => own = 0 := by
  refine deals_bind (deals_driver (T.outlook.connect protocol host props _) hw.empty_handed) ?_
  rintro r _ v rest - ⟨rfl, hhas⟩ hv
  cases r with
  | ok c =>
    have hstrayed := Move.strayed (T := T) protocol props (hhas c rfl) hstray
    exact deals_modify_bind hstrayed (deals_pure (hv.move hstrayed) rfl)
  | error e =>
    have hnote : Move T v 0 _ 0 := .beside (.note (e := .call (.connect protocol host props none)) rfl rfl v)
    exact deals_modify_bind hnote (deals_pure (hv.move hnote) rfl)

/-- Operations run over connections, or this one is a connection that a pool wants to be in read-only mode. -/
def MaySend (T : Terms D) (w : World D) (c : ConnId) : Prop :=
  T.uses ∨ ∃ p < w.pools.length, (w.pool p).config.readOnly = true ∧
    .call (.connect (w.pool p).protocol (w.pool p).host (w.pool p).props (some c)) ∈ w.journal

theorem MaySend.later (hf : w.Follows T w') (h : MaySend T w c) : MaySend T w' c := by
  refine h.imp id fun ⟨p, hp, hread, hc⟩ => ⟨p, Nat.lt_of_lt_of_le hp hf.pools_le, ?_⟩
  obtain ⟨-, hprotocol, hhost, hprops, hconfig⟩ := Pool.of_terms (hf.terms p hp)
  rw [hprotocol, hhost, hprops, hconfig]
  exact ⟨hread, hf.journal.subset hc⟩

theorem deals_send {op : Operation} (hc : MaySend T w c) (hw : Reached T w (own + rest)) :
    Deals T (send c op) w rest fun r own' v =>
      own' = own ∧ ∃ o before, v.journal = .call (.invoke c o op r) :: before ∧ w.journal <:+ before := by
  refine Routine.accounts_get_bind (deals_bind (deals_driver (T.outlook.invoke c op _) hw) ?_)
  rintro r _ v rest hf ⟨rfl, -⟩ hv
  have hsent := Move.sent (T := T) c (!w.isClosed c) op r (hc.later hf)
  exact deals_modify_bind hsent (deals_pure (hv.pass hsent) ⟨rfl, _, _, rfl, hf.journal⟩)

theorem deals_hangUp (hw : Reached T w (own + rest)) :
    Deals T (hangUp c) w rest fun _ own' v => own' = own ∧
      (T.outlook.has c w.backend → T.outlook.trusting ∨ T.outlook.ended c v.backend) := by
  refine deals_bind (deals_driver (T.outlook.close c _) hw) ?_
  rintro r _ v rest - ⟨rfl, hover⟩ hv
  have hnote : Move T v 0 _ 0 := .beside (.note (e := .call (.close c r)) rfl rfl v)
  exact deals_modify_bind hnote (deals_pure (hv.pass hnote) ⟨rfl, hover⟩)

/-- Who has a connection to see to is rid of it once it was told to close. -/
theorem deals_end (hw : Reached T w ({conn c} + rest)) : Deals T (hangUp c) w rest fun _ own _ => own = 0 := by
  have hhas : T.outlook.has c w.backend := hw.sane.has c (hw.sane.conn c (by simp))
  refine fun now => (deals_hangUp hw now).exchange ?_
  rintro _ _ v rest ⟨rfl, hover⟩ hv
  exact ⟨0, hv.swap (.ended (hover hhas)), rfl⟩

/-- How it ended is only written down. -/
theorem deals_quietly {Q : Multiset Charge → World D → Prop} (hx : Deals T (hangUp c) w rest fun _ own v => Q own v)
    (hlater : ∀ own u v, u.Follows T v → Q own u → Q own v) :
    Deals T (hangUpQuietly c) w rest fun _ own v => Q own v := by
  refine deals_bind hx ?_
  rintro r own v rest - hq hv
  cases r with
  | ok _ => exact deals_pure hv hq
  | error e =>
    have hnote : v.Beside T (Journaled.note (.log .debug (ignoredLine e)) v) := .note rfl rfl v
    exact Routine.accounts_modify hnote.follows (hv.beside hnote) (hlater _ _ _ hnote.follows hq)

theorem deals_endQuietly (hw : Reached T w ({conn c} + rest)) :
    Deals T (hangUpQuietly c) w rest fun _ own _ => own = 0 :=
  deals_quietly (Q := fun own _ => own = 0) (deals_end hw) fun _ _ _ _ h => h

/-- Who has connections to see to is rid of all of them in the end. -/
theorem deals_closeIdle (key : String) (cs : List ConnId) (hw : Reached T w ((cs.map conn : List Charge) + rest)) :
    Deals T (closeIdle key cs) w rest fun _ own _ => own = 0 := by
  induction cs generalizing w rest with
  | nil => exact deals_pure hw rfl
  | cons c cs ih =>
    have hw : Reached T w ({conn c} + ((cs.map conn : List Charge) + rest)) := by
      rwa [List.map_cons, ← Multiset.cons_coe, ← Multiset.singleton_add, add_assoc] at hw
    -- while the first one is closed, the others are still to be seen to
    refine deals_bind (fun now => (deals_end hw now).frame) ?_
    rintro r _ v rest - ⟨_, rfl, rfl⟩ hv
    rw [zero_add] at hv
    cases r with
    | ok _ => exact ih hv
    | error e =>
      refine deals_bind ((idles_log _ _).deals hv) ?_
      rintro _ _ u rest - rfl hu
      refine deals_bind (ih hu) ?_
      rintro n _ x rest - rfl hx
      exact deals_pure hx rfl

/-! ## Borrowing -/

/-- Whoever opens a connection for a pool gets one that is as the pool says, or has nothing. -/
theorem deals_openFor (hp : p < w.pools.length) (hw : Reached T w rest) :
    Deals T (openFor p) w rest fun r own v => Gained (fun c => (v.pool p).Supplied v.journal c) r own := by
  refine Routine.accounts_get_bind (deals_bind (deals_dial hw) ?_)
  rintro _ _ v rest hf (@⟨c, before, hj⟩ | e) hv
  · obtain ⟨-, hprotocol, hhost, hprops, hconfig⟩ := Pool.of_terms (hf.terms p hp)
    -- what the journal says of the connection fits the pool, once the mode is set where the pool asks for it
    have hsupplied : ∀ {u : World D} {es : List Entry}, v.Follows T u → u.journal = es ++ v.journal →
        ((w.pool p).config.readOnly = true → ∃ o reply, .call (.invoke c o (.setReadOnly true) (.ok reply)) ∈ es) →
        (u.pool p).Supplied u.journal c := by
      intro u es hu hes hmode
      obtain ⟨-, hprotocol, hhost, hprops, hconfig⟩ := Pool.of_terms ((hf.trans hu).terms p hp)
      refine ⟨es, before, ?_, by rwa [hconfig]⟩
      rw [hes, hj, hprotocol, hhost, hprops]
    dsimp only
    split
    · next hread =>
      have hmay : MaySend T v c := .inr ⟨p, Nat.lt_of_lt_of_le hp hf.pools_le, by rwa [hconfig], by
        rw [hj, hprotocol, hhost, hprops]
        exact List.mem_cons_self⟩
      refine deals_bind (deals_send hmay hv) ?_
      rintro (e | reply) _ u rest hu ⟨rfl, o, later, hsent, hlater⟩ hv
      · refine deals_bind (deals_endQuietly hv) ?_
        rintro _ _ x rest - rfl hx
        exact deals_pure hx (.refused e)
      · obtain ⟨es, rfl⟩ := hlater
        have hset : (u.pool p).Supplied u.journal c :=
          hsupplied hu (by rw [hsent]; rfl) fun _ => ⟨o, reply, List.mem_cons_self⟩
        refine deals_bind ((idles_log _ _).deals hv) ?_
        rintro _ _ x rest hx rfl hv
        exact deals_pure hv (.opened (hx.supplied (Nat.lt_of_lt_of_le hp (hf.trans hu).pools_le) hset))
    · next hread =>
      have hset : (v.pool p).Supplied v.journal c :=
        hsupplied (.refl v) (List.nil_append _).symm fun h => absurd h hread
      refine deals_bind ((idles_log _ _).deals hv) ?_
      rintro _ _ x rest hx rfl hv
      exact deals_pure hv (.opened (hx.supplied (Nat.lt_of_lt_of_le hp hf.pools_le) hset))
  · exact deals_pure hv (.refused e)

/-- Idle connections that are closed are taken off, and the next one, if there is one, is as the pool says. -/
theorem deals_takeIdle (hp : p < w.pools.length) (hw : Reached T w rest) :
    Deals T (takeIdle p) w rest fun r own v =>
      (∃ c, r = some c ∧ own = {conn c} ∧ (v.pool p).Supplied v.journal c) ∨ r = none ∧ own = 0 := by
  have hended : ∀ d ∈ (w.pool p).idle.takeWhile (w.isClosed ·), T.outlook.ended d w.backend := fun d hd =>
    T.outlook.ended_of_closed (List.mem_takeWhile_imp (p := (w.isClosed ·)) hd)
  have hidle : (w.pool p).idle.takeWhile (w.isClosed ·) ++ w.firstOpen (w.pool p).idle = (w.pool p).idle :=
    List.takeWhile_append_dropWhile
  refine Routine.accounts_get_bind ?_
  split
  · next hnone =>
    rw [hnone] at hidle
    have hmove := Move.pool hp (.trimmed hidle.symm hended)
    exact deals_modify_bind hmove (deals_pure (hw.gain hmove) (.inr ⟨rfl, rfl⟩))
  · next c idle hsome =>
    rw [hsome] at hidle
    have hmove := Move.pool hp (.taken hidle.symm hended)
    have hsupplied := hw.sane.idle p hp c (by rw [← hidle]; simp)
    exact deals_modify_bind hmove
      (deals_pure (hw.gain hmove) (.inl ⟨c, rfl, rfl, hmove.follows.supplied hp hsupplied⟩))

theorem deals_takeOrOpen (hp : p < w.pools.length) (hw : Reached T w rest) :
    Deals T (takeOrOpen p) w rest fun r own v => Gained (fun c => (v.pool p).Supplied v.journal c) r own := by
  refine deals_bind (deals_takeIdle hp hw) ?_
  rintro _ _ v rest hf (⟨c, rfl, rfl, hc⟩ | ⟨rfl, rfl⟩) hv
  · exact deals_pure hv (.opened hc)
  · exact deals_openFor (Nat.lt_of_lt_of_le hp hf.pools_le) ((zero_add rest) ▸ hv)

/-- What is lent is with its handle, which nobody holds yet. -/
theorem deals_lend (hp : p < w.pools.length) (hc : (w.pool p).Supplied w.journal c)
    (hw : Reached T w ({conn c} + rest)) :
    Deals T (lend p c) w rest fun h own v => own = {fresh h} ∧ (v.handle h).pool = p := by
  have hbare : ∀ P : Pool, P.lend.bare = P.bare := fun _ => rfl
  have hcount : Move T w 0 (w.modifyPool p Pool.lend) 0 := .beside (.modifyPool p hbare w)
  have hp' : p < (w.modifyPool p Pool.lend).pools.length := Nat.lt_of_lt_of_le hp hcount.follows.pools_le
  have hlent := Move.lent (T := T) hp' (hcount.follows.supplied hp hc)
  refine deals_modify_bind hcount fun now =>
    ⟨hlent.follows, {fresh w.handles.length}, (hw.pass hcount).move hlent, rfl, ?_⟩
  show (World.handle _ w.handles.length).pool = p
  exact congrArg Handle.pool (handle_append_length _ (w.modifyPool p Pool.lend))

/-- Whoever borrows gets a handle of the pool that nobody holds yet, or has nothing. -/
inductive Borrowed (p : PoolId) (v : World D) : Except RouteError HandleId → Multiset Charge → Prop
  | lent {h : HandleId} (pool : (v.handle h).pool = p) : Borrowed p v (.ok h) {fresh h}
  | refused (e : RouteError) : Borrowed p v (.error e) 0

theorem deals_borrow (hp : p < w.pools.length) (hw : Reached T w rest) :
    Deals T (borrow p) w rest fun r own v => Borrowed p v r own := by
  refine Routine.accounts_get_bind ?_
  dsimp only
  split
  · exact deals_pure hw.empty_handed (.refused _)
  · refine deals_bind ((idles_acquire p).deals hw.empty_handed) ?_
    rintro r _ v rest hf rfl hv
    have hp := Nat.lt_of_lt_of_le hp hf.pools_le
    cases r with
    | error e => exact deals_pure hv (.refused e)
    | ok _ =>
      refine deals_bind (deals_takeOrOpen hp ((zero_add rest) ▸ hv)) ?_
      rintro _ _ u rest hf (hc | e) hu
      · refine deals_bind (deals_lend (Nat.lt_of_lt_of_le hp hf.pools_le) hc hu) ?_
        rintro h _ x rest - ⟨rfl, hpool⟩ hx
        exact deals_pure hx (.lent hpool)
      · refine deals_bind ((idles_releasePermit p).deals hu) ?_
        rintro _ _ x rest - rfl hx
        exact deals_pure hx (.refused e)

/-! ## Giving back -/

/-- Only the first to give a handle back goes on, with its connection. -/
theorem deals_return {x : Routine (World D) Unit} (hh : h < w.handles.length) (hw : Reached T w rest)
    (hx : ∀ v, w.Follows T v → Reached T v ({conn (v.handle h).conn} + rest) →
      Deals T x v rest fun _ own _ => own = 0) :
    Deals T (markReturned h >>= fun first => if first then x else pure ()) w rest fun _ own v =>
      own = 0 ∧ (v.handle h).returned = true := by
  have hmark : w.Follows T (w.modifyHandle h fun e => { e with returned := true }) :=
    .modifyHandle (fun _ => rfl) (fun _ => rfl) (fun _ _ => rfl) hh
  have hhandle := handle_modifyHandle hh (fun e => { e with returned := true }) h
  rw [if_pos rfl] at hhandle
  suffices hgo : Deals T (if !(w.handle h).returned then x else pure ())
      (w.modifyHandle h fun e => { e with returned := true }) rest fun _ own _ => own = 0 from
    fun now => ((hgo now).along.since hmark).imp fun _ own v ⟨hv, hown⟩ =>
      ⟨hown, hv.returned h (by rw [hhandle])⟩
  cases hr : (w.handle h).returned with
  | true =>
    rw [modifyHandle_of_returned hr]
    exact deals_pure hw.empty_handed rfl
  | false =>
    refine hx _ hmark ?_
    rw [hhandle]
    exact hw.gain (.handle hh (.returned hr))

/-- The connection of a handle that was given back becomes idle, or has to be closed. -/
theorem deals_reclaim (hh : h < w.handles.length) (hw : Reached T w ({conn (w.handle h).conn} + rest)) :
    Deals T (reclaim h) w rest fun r own _ => r = none ∧ own = 0 ∨ ∃ c, r = some c ∧ own = {conn c} := by
  have hbare : ∀ P : Pool, P.unlend.bare = P.bare := fun _ => rfl
  have hcount : w.Beside T (w.modifyPool (w.handle h).pool Pool.unlend) := .modifyPool _ hbare w
  have hv := hw.beside hcount
  refine Routine.accounts_get_bind (deals_modify_bind (.beside hcount) ?_)
  split
  · next hclosed =>
    exact deals_pure (hv.swap (.ended (.inr (T.outlook.ended_of_closed hclosed)))) (.inl ⟨rfl, rfl⟩)
  · split
    · exact deals_pure hv (.inr ⟨_, rfl, rfl⟩)
    · next hopen =>
      have hlender := hw.sane.lent h hh
      have hput := Move.pool (Nat.lt_of_lt_of_le hlender.1 hcount.follows.pools_le)
        (.put (T := T) (hcount.follows.supplied hlender.1 hlender.2)
          ((hcount.pool_eq _).2.2.trans (Bool.eq_false_iff.2 hopen)))
      exact deals_modify_bind hput (deals_pure (hv.move hput) (.inl ⟨rfl, rfl⟩))

theorem deals_dropPermit (hw : Reached T w rest) : Deals T (dropPermit h) w rest fun _ own _ => own = 0 :=
  (idles_dropPermit h).deals hw.empty_handed

theorem deals_giveBack (hh : h < w.handles.length) (hw : Reached T w rest) :
    Deals T (giveBack h) w rest fun _ own v => own = 0 ∧ (v.handle h).returned = true := by
  refine deals_return hh hw fun v hf hv => ?_
  refine deals_bind (deals_reclaim (Nat.lt_of_lt_of_le hh hf.length_le) hv) ?_
  rintro _ _ u rest - (⟨rfl, rfl⟩ | ⟨c, rfl, rfl⟩) hu
  · exact deals_dropPermit ((zero_add rest) ▸ hu)
  · refine deals_bind (deals_endQuietly hu) ?_
    rintro _ _ x rest - rfl hx
    exact deals_dropPermit ((zero_add rest) ▸ hx)

theorem deals_evict (hh : h < w.handles.length) (hw : Reached T w rest) :
    Deals T (evict h) w rest fun _ own v => own = 0 ∧ (v.handle h).returned = true := by
  refine deals_return hh hw fun v _ hv => ?_
  have hbare : ∀ P : Pool, P.unlend.bare = P.bare := fun _ => rfl
  have hcount : v.Beside T (v.modifyPool (v.handle h).pool Pool.unlend) := .modifyPool _ hbare v
  refine Routine.accounts_get_bind (deals_modify_bind (.beside hcount) ?_)
  refine deals_bind ((idles_log _ _).deals (hv.beside hcount)) ?_
  rintro _ _ u rest - rfl hu
  refine deals_bind (deals_endQuietly hu) ?_
  rintro _ _ x rest - rfl hx
  exact deals_dropPermit ((zero_add rest) ▸ hx)

theorem deals_abandon (hh : h < w.handles.length) (hw : Reached T w rest) :
    Deals T (abandon h) w rest fun _ own v => own = 0 ∧ (v.handle h).returned = true := by
  refine deals_return hh hw fun v hf hv => ?_
  refine deals_bind (deals_reclaim (Nat.lt_of_lt_of_le hh hf.length_le) hv) ?_
  rintro _ _ u rest - (⟨rfl, rfl⟩ | ⟨c, rfl, rfl⟩) hu
  · exact deals_dropPermit ((zero_add rest) ▸ hu)
  · exact deals_modify_bind (.stranded c) (deals_dropPermit (hu.lose (.stranded c)))

theorem deals_closeOrphan (hw : Reached T w rest) : Deals T closeOrphan w rest fun _ own _ => own = 0 := by
  refine Routine.accounts_get_bind ?_
  split
  · exact deals_pure hw.empty_handed rfl
  · next c orphans horphans =>
    exact deals_modify_bind (.adopted horphans) (deals_endQuietly (hw.gain (.adopted horphans)))

/-! ## Closing -/

/-- Whoever has a pool to see to is rid of it once it is closed. -/
theorem deals_closePool (hw : Reached T w ({.pool p} + rest)) :
    Deals T (closePool p) w rest fun _ own _ => own = 0 := by
  have hp : p < w.pools.length := hw.sane.pool p (by simp)
  refine Routine.accounts_get_bind ?_
  dsimp only
  split
  · next hclosed => exact deals_pure (hw.swap (.closed hclosed)) rfl
  · have hshut := Move.pool hp (.shut (T := T))
    have hclosed : ((w.modifyPool p fun P => { P with closed := true, idle := [] }).pool p).closed = true := by
      rw [pool_modifyPool hp, if_pos rfl]
    have hv := hw.gain hshut
    rw [add_left_comm] at hv
    have hv := hv.lose (.exchanged (.closed hclosed))
    have hperm : (((w.pool p).idle.map conn : List Charge) : Multiset Charge) =
        ((w.pool p).idle.reverse.map conn : List Charge) :=
      Multiset.coe_eq_coe.2 ((List.reverse_perm _).symm.map conn)
    rw [hperm] at hv
    refine deals_modify_bind hshut (deals_bind (deals_closeIdle _ _ hv) ?_)
    rintro failures _ u rest - rfl hu
    refine deals_bind ((idles_log _ _).deals hu) ?_
    rintro _ _ x rest - rfl hx
    split
    · exact deals_pure hx rfl
    · exact deals_pure hx rfl

/-- A pool that was taken out of the cache is closed. -/
theorem deals_releaseValue (k : String) (hw : Reached T w ({.pool p} + rest)) :
    Deals T (poolKeeper.releaseValue k p) w rest fun _ own _ => own = 0 := by
  have hrelease : Deals T (poolKeeper.release p) w rest fun _ own _ => own = 0 := by
    refine deals_bind (deals_closePool hw) ?_
    rintro (e | _) _ v rest - rfl hv
    · exact deals_pure hv rfl
    · exact deals_pure hv rfl
  refine deals_bind hrelease ?_
  rintro (_ | e | _) _ v rest - rfl hv
  · exact (idles_log _ _).deals hv
  · exact (idles_log _ _).deals hv
  · exact (idles_log _ _).deals hv

/-- The cache of pools may be swept, and single pools be taken out. -/
theorem sound_poolKeeper : (poolKeeper (D := D)).Sound (Follows T) (Reached T) where
  log _ _ hw := ⟨.note _ _, hw.beside (.note rfl rfl _)⟩
  upkeep {w rest cache} hw entries _ := by
    have hbeside : w.Beside T { w with cache } := { Beside.refl w with
      cached := fun k => by rw [poolAt?, Cache.cached?, show cache.entries = w.cache.entries from entries]; rfl }
    exact ⟨hbeside.follows, hw.beside hbeside⟩
  drop {w rest k e} now hw cached := by
    have herased := Move.erased (T := T) (w := w) (k := k) (p := e.value) (by
      rw [poolAt?, show w.cache.cached? k = some e from cached]
      rfl)
    exact (deals_releaseValue k (hw.gain herased) now).since herased.follows

/-- Whoever has to take the pools of these keys out of the cache closes those that are still there. -/
theorem deals_clearKeys (ks : List String) (hw : Reached T w ({clearing ks} + rest)) :
    Deals T (poolKeeper.clearKeys ks) w rest fun _ own _ => own = 0 := by
  induction ks generalizing w rest with
  | nil => exact deals_pure (hw.swap .cleared) rfl
  | cons k ks ih =>
    suffices hdrop : Deals T (poolKeeper.dropIf k fun _ _ => true) w rest fun _ own _ => own = {clearing ks} by
      refine deals_bind (deals_discard (Q := fun own _ => own = {clearing ks}) hdrop) ?_
      rintro _ _ v rest - rfl hv
      exact ih hv
    intro now
    by_cases hmeets : ∃ e, poolKeeper.Meets (fun _ _ => true) k w e
    · obtain ⟨e, he⟩ := hmeets
      have herased := Move.erased (T := T) (w := w) (k := k) (p := e.value) (by
        rw [poolAt?, show w.cache.cached? k = some e from he.1]
        rfl)
      have habsent : ({ w with cache := w.cache.erase k } : World D).poolAt? k = none := by
        rw [poolAt?_erase, if_pos rfl]
      -- the key is done with as soon as its pool is out of the cache
      have hv := hw.gain herased
      rw [add_left_comm] at hv
      have hv := hv.swap (.crossed habsent)
      rw [add_left_comm] at hv
      rw [Keeper.dropIf_of_meets he]
      refine Outcome.Accounts.since herased.follows (deals_bind (fun now => (deals_releaseValue k hv now).frame) ?_ now)
      rintro _ _ u rest - ⟨_, rfl, rfl⟩ hu
      exact deals_pure hu (zero_add _)
    · have habsent : w.poolAt? k = none := by
        rw [poolAt?]
        cases hc : w.cache.cached? k with
        | none => rfl
        | some e => exact absurd ⟨e, hc, rfl⟩ hmeets
      rw [Keeper.dropIf_of_not_meets (not_exists.1 hmeets)]
      exact deals_pure (hw.swap (.crossed habsent)) rfl now

end World

open World

/-! ## Providers -/

namespace PooledProvider

variable {T : Terms D} {w : World D} {rest : Multiset Charge} (provider : PooledProvider) {protocol : String}
  {host : Host} {props : Properties}

/-- Pools are created for such a request. -/
def Plans (T : Terms D) (protocol : String) (host : Host) (props : Properties) : Prop :=
  ∀ P, Pool.create (provider.keyOf host props) protocol host props (provider.configure host props provider.base) =
    .ok P → T.blueprint P

omit [Backend D] in
theorem createPool_of_error {key : String} {e : RouteError}
    (h : Pool.create key protocol host props (provider.configure host props provider.base) = .error e) (w : World D) :
    ∃ text, provider.createPool key protocol host props w = (.error e, Journaled.note (.log .info text) w) := by
  unfold createPool
  dsimp only
  rw [h]
  exact ⟨_, rfl⟩

omit [Backend D] in
theorem createPool_of_ok {key : String} {P : Pool}
    (h : Pool.create key protocol host props (provider.configure host props provider.base) = .ok P) (w : World D) :
    ∃ text, provider.createPool key protocol host props w =
      (.ok w.pools.length, { Journaled.note (.log .info text) w with pools := w.pools ++ [P] }) := by
  unfold createPool
  dsimp only
  rw [h]
  exact ⟨_, rfl⟩

/-- The pool of a key is found in the cache, or created and put there by somebody who may. -/
theorem deals_computeIfAbsent {key : String} (hkey : provider.keyOf host props = key)
    (hplans : provider.Plans T protocol host props) (hw : Reached T w ({licence} + rest)) :
    Deals T (poolKeeper.computeIfAbsent key (provider.createPool key protocol host props)) w rest fun r own v =>
      own = {licence} ∧ ∀ p, r = .ok p → p < v.pools.length ∧ (v.pool p).key = key := by
  refine deals_bind (fun now => (sound_poolKeeper.paysBack_sweepIfDue hw now).frame) ?_
  rintro _ _ v rest - ⟨_, rfl, rfl⟩ hv now
  rw [zero_add] at hv
  cases hc : (poolKeeper.cache.get v).cached? key with
  | some e =>
    have htouch : v.Beside T { v with cache := v.cache.touch key now } := .touch hc now
    rw [Keeper.findOrMake_of_cached hc]
    refine ⟨htouch.follows, {licence}, hv.beside htouch, rfl, ?_⟩
    rintro _ ⟨⟩
    exact hv.sane.cached key e.value (poolAt?_of_cached hc)
  | none =>
    have hnote : ∀ text, v.Beside T (Journaled.note (.log .info text) v) := fun _ => .note rfl rfl v
    -- the pool is not there: the licence allows to put one in, unless its configuration is refused
    cases hP : Pool.create key protocol host props (provider.configure host props provider.base) with
    | error e =>
      obtain ⟨text, hcreate⟩ := provider.createPool_of_error hP v
      rw [Keeper.findOrMake_of_error hc hcreate]
      exact ⟨(hnote text).follows, {licence}, hv.beside (hnote text), rfl, fun _ h => by cases h⟩
    | ok P =>
      obtain ⟨text, hcreate⟩ := provider.createPool_of_ok hP v
      obtain ⟨hPkey, hPidle⟩ : P.key = key ∧ P.idle = [] := by
        unfold Pool.create at hP
        split at hP
        · cases hP
        · cases hP
          exact ⟨rfl, rfl⟩
      have hmade : T.blueprint P := hplans P (hkey ▸ hP)
      have habsent : (Journaled.note (.log .info text) v).poolAt? key = none := poolAt?_of_not_cached hc
      have hnoted := (hv.beside (hnote text)).gain (.created hmade hPidle)
      rw [← add_assoc] at hnoted
      have hinserted := Move.inserted (T := T) (k := key) (e := ⟨v.pools.length, now⟩)
        (w := { Journaled.note (.log .info text) v with pools := v.pools ++ [P] }) habsent
        ((congrArg Pool.key (pool_append_length P v)).trans hPkey)
      rw [Keeper.findOrMake_of_ok hc hcreate]
      refine ⟨(hnote text).follows.trans ((Move.created hmade hPidle).follows.trans hinserted.follows), {licence},
        hnoted.move hinserted, rfl, ?_⟩
      rintro _ ⟨⟩
      exact (hnoted.move hinserted).sane.cached key _ (by rw [poolAt?_insert, if_pos rfl])

/-- Whoever asks for a valid connection keeps the right to put pools in, and gets a handle that nobody holds
yet, or nothing more. -/
inductive Provided (key : String) (v : World D) : Except RouteError HandleId → Multiset Charge → Prop
  | lent {h : HandleId} (key_eq : (v.pool (v.handle h).pool).key = key) : Provided key v (.ok h) ({fresh h} + {licence})
  | refused (e : RouteError) : Provided key v (.error e) {licence}

theorem deals_connectWithin (hplans : provider.Plans T protocol host props) (left invalid : Nat)
    (cause : Option RouteError) (hw : Reached T w ({licence} + rest)) :
    Deals T (provider.connectWithin protocol host props left invalid cause) w rest fun r own v =>
      Provided (provider.keyOf host props) v r own := by
  -- by induction on how many trials are left; the licence is in hand all along, a handle only in the end
  induction left generalizing invalid cause w rest with
  | zero => exact deals_pure hw (.refused _)
  | succ left ih =>
    refine deals_bind (provider.deals_computeIfAbsent rfl hplans hw) ?_
    rintro r _ v rest - ⟨rfl, hpool⟩ hv
    cases r with
    | error e => exact deals_pure hv (.refused e)
    | ok p =>
      obtain ⟨hp, hkey⟩ := hpool p rfl
      refine deals_bind (fun now => (deals_borrow hp hv now).frame) ?_
      rintro _ _ u rest hu ⟨_, rfl, (⟨hlender⟩ | e)⟩ hv
      · next h =>
        have hh : h < u.handles.length := hv.sane.handle h (.inl (by simp))
        refine Routine.accounts_get_bind (deals_bind ((idles_isValid _ _).deals hv) ?_)
        rintro valid _ x rest hx rfl hv
        have hkey : (x.pool (x.handle h).pool).key = provider.keyOf host props := by
          rw [hx.lender h hh, hlender, (Pool.of_terms ((hu.trans hx).terms p hp)).1, hkey]
        split
        · exact deals_pure hv (.lent hkey)
        · refine deals_bind ((idles_log _ _).deals hv) ?_
          rintro _ _ y rest hy rfl hv
          have hh : h < y.handles.length := Nat.lt_of_lt_of_le hh (hx.trans hy).length_le
          refine deals_bind (fun now => (deals_evict hh hv now).frame) ?_
          rintro _ _ z rest - ⟨_, rfl, rfl, hreturned⟩ hv
          rw [zero_add, add_assoc] at hv
          have hv := (hv.swap (.settled (.inl hreturned)))
          rw [zero_add] at hv
          exact ih _ _ hv
      · rw [zero_add] at hv
        refine Routine.accounts_get_bind ?_
        split
        · refine deals_bind ((idles_log _ _).deals hv) ?_
          rintro _ _ x rest - rfl hv
          exact ih _ _ hv
        · split
          · exact deals_pure hv (.refused _)
          · exact deals_pure hv (.refused _)

theorem deals_connect (hplans : provider.Plans T protocol host props) (hw : Reached T w ({licence} + rest)) :
    Deals T (provider.connect protocol host props) w rest fun r own v =>
      Provided (provider.keyOf host props) v r own :=
  provider.deals_connectWithin hplans _ _ _ hw

/-- Whoever may put pools into the cache may instead take all of them out, and close them. -/
theorem deals_release (hw : Reached T w ({licence} + rest)) :
    Deals T PooledProvider.release w rest fun _ own _ => own = 0 := by
  have hall : ∀ k, w.poolAt? k ≠ none → k ∈ w.cache.keys := by
    intro k hk
    cases hc : w.cache.entries.lookup k with
    | none => exact absurd (by rw [poolAt?, Cache.cached?, hc]; rfl) hk
    | some e =>
      obtain ⟨before, after, hentries, -⟩ := List.lookup_eq_some_iff.1 hc
      exact List.mem_map.2 ⟨(k, e), by rw [hentries]; simp, rfl⟩
  refine Routine.accounts_get_bind ?_
  refine deals_bind (deals_clearKeys _ (hw.swap (.renounced hall))) ?_
  rintro _ _ v rest - rfl hv
  exact (idles_log _ _).deals hv

end PooledProvider

end ReplicaRouter
