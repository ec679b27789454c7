import Mathlib.Data.List.Pairwise
import ReplicaRouter.Proofs.Dealings
import ReplicaRouter.Proofs.Staging
/-
Where the connection behind a handle comes from. Any number of calls for pooled connections run side by side,
handles are given back, pools are swept, removed and cleared, and connections break. A pool is created for the
first request that leads to its key, and all later requests of that key are served from it.
Main statements: the connection was opened as a request for the same URL asked for it, and it is in read-only
mode just if that request was for a reader (`PooledProvider.origin_of_connect`), which need not be what the
present request asks for (`PooledProvider.other_origin_of_promotion`).
-/
namespace ReplicaRouter

variable {D α : Type}

/-! ## Addresses -/

namespace Host

theorem eq_of_toString_eq {a b : UInt16} (h : (toString a).toList = (toString b).toList) : a = b := by
  have hdigits : Nat.toDigits 10 a.toNat = Nat.toDigits 10 b.toNat := by
    rw [← Nat.toList_repr, ← Nat.toList_repr]
    exact h
  have hnat := congrArg (Nat.ofDigitChars 10 · 0) hdigits
  simp only [Nat.ofDigitChars_toDigits (by decide : 1 < 10) (Nat.le_refl 10)] at hnat
  exact UInt16.toNat_inj.1 hnat

theorem toList_url (a : Host) : a.url.toList =
    a.name.toList ++ ((a.port.elim [] fun p => ':' :: (toString p).toList) ++ ['/']) := by
  unfold url address
  cases a.port with
  | none => simp
  | some p => simp [toString]

/-- What stands before the first colon. -/
theorem takeWhile_url {a : Host} (ha : ':' ∉ a.name.toList) : a.url.toList.takeWhile (· != ':') =
    a.name.toList ++ a.port.elim ['/'] fun _ => [] := by
  have hname : ∀ x ∈ a.name.toList, (x != ':') = true := fun x hx => by
    rw [bne_iff_ne]
    rintro rfl
    exact ha hx
  rw [toList_url, List.takeWhile_append_of_pos hname]
  cases a.port with
  | none => simp
  | some p => simp

/-- Hosts with the same URL are the same node, unless a name contains a colon. -/
theorem eq_of_url_eq {a b : Host} (h : a.url = b.url) (ha : ':' ∉ a.name.toList) (hb : ':' ∉ b.name.toList) :
    a.name = b.name ∧ a.port = b.port := by
  have hlist := congrArg String.toList h
  have htake := congrArg (List.takeWhile (· != ':')) hlist
  rw [takeWhile_url ha, takeWhile_url hb] at htake
  rw [toList_url, toList_url] at hlist
  obtain ⟨s, p, role⟩ := a
  obtain ⟨t, q, role'⟩ := b
  -- without a port the slash stands before the first colon, so that either both have one or none has
  cases p with
  | none =>
    cases q with
    | none => simpa [String.toList_inj] using hlist
    | some q =>
      have hlen := congrArg List.length htake
      have hlen' := congrArg List.length hlist
      simp at hlen hlen'
      omega
  | some p =>
    cases q with
    | none =>
      have hlen := congrArg List.length htake
      have hlen' := congrArg List.length hlist
      simp at hlen hlen'
      omega
    | some q =>
      have hname : s.toList = t.toList := by simpa using htake
      have hport : (toString p).toList = (toString q).toList := by simpa [hname] using hlist
      exact ⟨String.toList_inj.1 hname, congrArg some (eq_of_toString_eq hport)⟩

end Host

/-! ## Requests -/

/-- A request for a pooled connection. -/
structure PooledProvider.Request where
  protocol : String
  host : Host
  props : Properties
  deriving DecidableEq

/-- The request that the entry tells was answered with a new connection, and the connection. -/
def Entry.request? : Entry → Option (PooledProvider.Request × ConnId)
  | call (.connect protocol host props (some c)) => some (⟨protocol, host, props⟩, c)
  | _ => none

/-- The operation that the entry tells was sent, and the connection that it was sent to. -/
def Entry.invoked? : Entry → Option (ConnId × Operation)
  | call (.invoke c _ op _) => some (c, op)
  | _ => none

namespace PooledProvider

open World

variable [Backend D] (provider : PooledProvider) (Asked : Request → Prop)

/-- The pool was created for one of these requests. -/
def Serves (P : Pool) (q : Request) : Prop :=
  P.key = provider.keyOf q.host q.props ∧ P.protocol = q.protocol ∧ P.host = q.host ∧ P.props = q.props ∧
    P.config = provider.configure q.host q.props provider.base

/-- Nothing is known of the driver, no operation is sent but by the pools, and nobody keeps account of what he
has. -/
def terms : Terms D where
  outlook := .blank
  isValid := Backend.Outlook.blank_isValid
  uses := False
  careless := True
  blueprint P := ∃ q, Asked q ∧ provider.Serves P q

/-- What may be called: connections are asked for, handles that there are come back in any of the three ways,
and pools are swept and released, by callers and in the background. -/
inductive Calls (w : World D) : Routine (World D) Unit → Prop
  | connect {q : Request} (asked : Asked q) : Calls w (discard (provider.connect q.protocol q.host q.props))
  | giveBack {h : HandleId} (there : h < w.handles.length) : Calls w (giveBack h)
  | evict {h : HandleId} (there : h < w.handles.length) : Calls w (evict h)
  | abandon {h : HandleId} (there : h < w.handles.length) : Calls w (abandon h)
  | closeOrphan : Calls w closeOrphan
  | sweep : Calls w (discard poolKeeper.sweep)
  | remove (key : String) (force : Bool) : Calls w (discard (poolKeeper.remove key force))
  | release : Calls w release
  | startWorker : Calls w (discard poolKeeper.startWorker)
  | stopWorker : Calls w poolKeeper.stopWorker
  | goOn (id : Nat) : Calls w (poolKeeper.goOn id)

/-- Meanwhile anything may happen to the database and the host list. -/
def Meanwhile (w v : World D) : Prop := ∃ backend hosts, v = { w with backend, hosts }

variable {provider Asked} {w w' : World D} {rest g : Multiset Charge} {q : Request}

theorem plans_of_asked (hq : Asked q) : provider.Plans (terms (D := D) provider Asked) q.protocol q.host q.props := by
  intro P hP
  unfold Pool.create at hP
  split at hP
  · cases hP
  · cases hP
    exact ⟨q, hq, rfl, rfl, rfl, rfl, rfl⟩

/-- Nobody keeps account of what he has. -/
theorem paysBack_of_deals {x : Routine (World D) α} {Q : α → Multiset Charge → World D → Prop}
    (hx : Deals (terms provider Asked) x w rest Q) :
    x.PaysBack (Follows (terms provider Asked)) (Reached (terms provider Asked)) w rest :=
  fun now => (hx now).exchange fun _ own _ _ _ hv => ⟨0, hv.swap (.forgotten own trivial), rfl⟩

theorem paysBack_of_calls (w : World D) (x : Routine (World D) Unit) (rest : Multiset Charge)
    (hx : Calls provider Asked w x) (hw : Reached (terms provider Asked) w rest) :
    x.PaysBack (Follows (terms provider Asked)) (Reached (terms provider Asked)) w rest := by
  have hlicensed := hw.gain (.exchanged .licensed)
  have hk := sound_poolKeeper (T := terms (D := D) provider Asked)
  cases hx with
  | connect asked => exact (paysBack_of_deals (provider.deals_connect (plans_of_asked asked) hlicensed)).discard
  | giveBack there => exact paysBack_of_deals (deals_giveBack there hw)
  | evict there => exact paysBack_of_deals (deals_evict there hw)
  | abandon there => exact paysBack_of_deals (deals_abandon there hw)
  | closeOrphan => exact deals_closeOrphan hw
  | sweep => exact (hk.paysBack_sweep hw).discard
  | remove key force => exact (hk.paysBack_dropIf key _ hw).discard
  | release => exact paysBack_of_deals (deals_release hlicensed)
  | startWorker => exact (hk.paysBack_startWorker hw).discard
  | stopWorker => exact hk.paysBack_stopWorker hw
  | goOn id => exact hk.paysBack_goOn id hw

theorem bears_meanwhile (w w' : World D) (rest : Multiset Charge) (h : Meanwhile w w')
    (hw : Reached (terms provider Asked) w rest) :
    w.Follows (terms provider Asked) w' ∧ Reached (terms provider Asked) w' rest := by
  obtain ⟨backend, hosts, rfl⟩ := h
  have hbeside : w.Beside (terms provider Asked) { w with backend, hosts } :=
    { Beside.refl (T := terms provider Asked) w with later := trivial }
  exact ⟨hbeside.follows, hw.beside hbeside⟩

/-! ## What was created and what was sent -/

/-- Every pool was created for a request. -/
theorem exists_serves (h : Reached (terms provider Asked) w g) {p : PoolId} (hp : p < w.pools.length) :
    ∃ q, Asked q ∧ provider.Serves (w.pool p) q := by
  induction h with
  | start pristine => rw [pristine.pools] at hp; cases hp
  | @move u v a b rest _ hm ih =>
    have hold : p < u.pools.length → ∃ q, Asked q ∧ provider.Serves (v.pool p) q := fun hp => by
      obtain ⟨q, hq, hserves⟩ := ih hp
      obtain ⟨hkey, hprotocol, hhost, hprops, hconfig⟩ := Pool.of_terms (hm.follows.terms p hp)
      refine ⟨q, hq, ?_⟩
      rwa [Serves, hkey, hprotocol, hhost, hprops, hconfig]
    cases hm with
    | beside beside => exact hold (beside.pools_length ▸ hp)
    | pool => exact hold (by simpa [World.modifyPool] using hp)
    | @created P made =>
      rcases Nat.lt_or_eq_of_le (Nat.le_of_lt_succ (by simpa using hp)) with hlt | rfl
      · exact hold hlt
      · rw [pool_append_length]
        exact made
    | _ => exact hold hp

/-- Operations were sent only to connections that a pool wants to be in read-only mode. -/
theorem maySend_of_sent (h : Reached (terms provider Asked) w g) {c : ConnId} {o : Bool} {op : Operation}
    {r : Except RouteError Reply} (hsent : .call (.invoke c o op r) ∈ w.journal) :
    MaySend (terms provider Asked) w c := by
  induction h with
  | start pristine => cases (pristine.journal _ hsent).2
  | @move u v a b rest _ hm ih =>
    have hold : .call (.invoke c o op r) ∈ u.journal → MaySend (terms provider Asked) v c := fun h =>
      (ih h).later hm.follows
    cases hm with
    | beside beside =>
      obtain ⟨es, hj, hes⟩ := beside.journal
      rw [hj] at hsent
      rcases List.mem_append.1 hsent with hnew | hsent
      · cases (hes _ hnew).2
      · exact hold hsent
    | opened | strayed =>
      rcases List.mem_cons.1 hsent with hnew | hsent
      · cases hnew
      · exact hold hsent
    | sent c' o' op' r' why =>
      rcases List.mem_cons.1 hsent with hnew | hsent
      · cases hnew
        exact MaySend.later (.note _ u) why
      · exact hold hsent
    | _ => exact hold hsent

/-! ## Where a connection comes from -/

/-- The connection was opened as the request asks, put into read-only mode since if the request is for a reader,
and sent nothing at all if it is not. -/
def Request.Opened (q : Request) (w : World D) (c : ConnId) : Prop :=
  ∃ since before, w.journal = since ++ .call (.connect q.protocol q.host q.props (some c)) :: before ∧
    (q.host.isReader = true → ∃ o reply, .call (.invoke c o (.setReadOnly true) (.ok reply)) ∈ since) ∧
    (q.host.isReader = false → w.opened.Nodup → ∀ o op r, .call (.invoke c o op r) ∉ w.journal)

omit [Backend D] in
theorem Request.Opened.mem_requests {c : ConnId} (h : q.Opened w c) : (q, c) ∈ w.journal.filterMap Entry.request? := by
  obtain ⟨since, before, hj, -⟩ := h
  rw [hj]
  exact List.mem_filterMap.2 ⟨_, List.mem_append_right _ List.mem_cons_self, rfl⟩

omit [Backend D] in
/-- A connection that was opened only once was opened in one way. -/
theorem eq_of_opened (h : w.opened.Nodup) {e e' : Entry} {c : ConnId} (he : e ∈ w.journal) (he' : e' ∈ w.journal)
    (hc : e.opened? = some c) (hc' : e'.opened? = some c) : e = e' := by
  by_contra hne
  have : Std.Symm fun a b : Entry => ∀ x, a.opened? = some x → ∀ y, b.opened? = some y → x ≠ y :=
    ⟨fun a b h x hx y hy => (h y hy x hx).symm⟩
  exact (List.pairwise_filterMap.1 h).forall he he' hne c hc c hc' rfl

theorem opened_of_supplied {base : PoolConfig} {maxRetries : Nat}
    (hw : Reached (terms { base, maxRetries } Asked) w g) {p : PoolId} {c : ConnId}
    (hc : (w.pool p).Supplied w.journal c) (hq : Serves { base, maxRetries } (w.pool p) q) : q.Opened w c := by
  obtain ⟨-, hprotocol, hhost, hprops, hconfig⟩ := hq
  obtain ⟨since, before, hj, hset⟩ := hc
  rw [hprotocol, hhost, hprops] at hj
  refine ⟨since, before, hj, fun hread => hset (by rw [hconfig]; exact hread), fun hwrite hnodup o op r hsent => ?_⟩
  -- what was sent something was opened for the pool of a reader
  rcases maySend_of_sent hw hsent with uses | ⟨p', hp', hread, hconnect⟩
  · exact uses.elim
  obtain ⟨q', -, -, -, hhost', -, hconfig'⟩ := exists_serves hw hp'
  have hopened : .call (.connect q.protocol q.host q.props (some c)) ∈ w.journal := by
    rw [hj]
    exact List.mem_append_right _ List.mem_cons_self
  have hsame := eq_of_opened hnodup hconnect hopened rfl rfl
  simp only [Entry.call.injEq, DriverCall.connect.injEq] at hsame
  have hhosts : q'.host = q.host := hhost'.symm.trans hsame.2.1
  rw [hconfig', hhosts] at hread
  exact Bool.false_ne_true (hwrite.symm.trans hread)

/-- A pooled connection is what somebody asked for. Let pools behave and be found as they do by default, and let
any calls that ask for connections, give them back and clear pools go on side by side. The connection behind the
handle that a request gets was opened as a request of that run asked, this one or an earlier one for the same URL,
and so for the same node unless names hold colons. It was put into read-only mode if that request was for a
reader, and sent nothing if it was not. -/
theorem origin_of_connect {base : PoolConfig} {maxRetries : Nat} {s₀ s s' : Schedule (World D)} {h : HandleId}
    (hpristine : s₀.world.Pristine) (hparked : s₀.parked = [])
    (hrun : Schedule.Run (Calls { base, maxRetries } Asked) Meanwhile s₀ s) (hq : Asked q)
    (hconnect : (connect { base, maxRetries } q.protocol q.host q.props).Plays
      (Calls { base, maxRetries } Asked) Meanwhile s (some (.ok h)) s') :
    ∃ q', Asked q' ∧ q'.host.url = q.host.url ∧
      (':' ∉ q'.host.name.toList → ':' ∉ q.host.name.toList →
        q'.host.name = q.host.name ∧ q'.host.port = q.host.port) ∧
      q'.Opened s'.world (s'.world.handle h).conn := by
  have hstart : s₀.Backs (Follows (terms { base, maxRetries } Asked))
      (Reached (terms { base, maxRetries } Asked)) 0 := by
    refine ⟨[], ?_, .start hpristine⟩
    rw [hparked]
    exact .nil
  obtain ⟨-, hs⟩ := hstart.run paysBack_of_calls bears_meanwhile hrun
  obtain ⟨-, own, ⟨stakes, -, hw⟩, hprovided⟩ := hs.plays paysBack_of_calls
    bears_meanwhile (fun rest hw => deals_connect _ (plans_of_asked hq)
      (((zero_add rest) ▸ hw).gain (.exchanged .licensed))) hconnect
  generalize hr : Except.ok h = r at hprovided
  cases hprovided r rfl with
  | refused e => cases hr
  | lent key_eq =>
    cases hr
    obtain ⟨hp, hsupplied⟩ := hw.sane.lent h (hw.sane.handle h (.inl (by simp)))
    obtain ⟨q', hasked, hserves⟩ := exists_serves hw hp
    have hurl : q'.host.url = q.host.url := hserves.1.symm.trans key_eq
    exact ⟨q', hasked, hurl, Host.eq_of_url_eq hurl, opened_of_supplied hw hsupplied hserves⟩

/-! ### A promotion -/

namespace Promotion

/-- A connection to a host is asked for while it is a reader. -/
def asReader : Request := ⟨"db", ⟨"a", none, .reader⟩, [("user", "x")]⟩

/-- A connection to it is asked for with other properties when it is the writer. -/
def asWriter : Request := ⟨"db", ⟨"a", none, .writer⟩, [("user", "y")]⟩

def Made (q : Request) : Prop := q = asReader ∨ q = asWriter

def start : Schedule (World Sim.Cluster) where
  world := { backend := {}, cache := .empty ⟨0⟩ ⟨0⟩ 0 }

def call (x : Routine (World Sim.Cluster) Unit) (s : Schedule (World Sim.Cluster)) : Schedule (World Sim.Cluster) :=
  s.absorb (x s.clock s.world)

def connectTo (q : Request) : Routine (World Sim.Cluster) (Except RouteError HandleId) :=
  connect {} q.protocol q.host q.props

/-- The connection that was asked for while the host was a reader has been given back. -/
def returned : Schedule (World Sim.Cluster) := call (giveBack 0) (call (discard (connectTo asReader)) start)

theorem isSome_promoted : (connectTo asWriter returned.clock returned.world).value?.isSome = true := by
  decide +kernel

/-- What it comes to when a connection to the writer is asked for. -/
def promoted : Except RouteError HandleId × World Sim.Cluster :=
  (connectTo asWriter returned.clock returned.world).value?.get isSome_promoted

theorem run_returned : Schedule.Run (Calls {} Made) Meanwhile start returned := by
  have hconnect : Schedule.Step (Calls {} Made) Meanwhile start (call (discard (connectTo asReader)) start) :=
    .call (.connect (.inl rfl))
  have hback : ∀ s : Schedule (World Sim.Cluster), 0 < s.world.handles.length →
      Schedule.Step (Calls {} Made) Meanwhile s (call (giveBack 0) s) := fun s h => .call (.giveBack h)
  exact .tail (.single hconnect) (hback _ (by decide +kernel))

theorem plays_promoted : (connectTo asWriter).Plays (Calls {} Made) Meanwhile returned (some promoted.1)
    { returned with world := promoted.2 } :=
  Outcome.plays_of_value? (Option.some_get isSome_promoted).symm

end Promotion

/-- The connection that was opened for a reader, with the properties of that request, is what is got by a request
with other properties for the same host as the writer. -/
theorem other_origin_of_promotion :
    Schedule.Run (Calls {} Promotion.Made) Meanwhile Promotion.start Promotion.returned ∧
      (connect {} Promotion.asWriter.protocol Promotion.asWriter.host Promotion.asWriter.props).Plays
        (Calls {} Promotion.Made) Meanwhile Promotion.returned (some (.ok 1))
        { Promotion.returned with world := Promotion.promoted.2 } ∧
      (Promotion.promoted.2.handle 1).conn = 0 ∧ ¬ Promotion.asWriter.Opened Promotion.promoted.2 0 ∧
      Promotion.promoted.2.journal.filterMap Entry.request? = [(Promotion.asReader, 0)] ∧
      Promotion.promoted.2.journal.filterMap Entry.invoked? = [(0, .setReadOnly true)] := by
  have hrequests : Promotion.promoted.2.journal.filterMap Entry.request? = [(Promotion.asReader, 0)] := by
    decide +kernel
  have hone : Promotion.promoted.1 = .ok 1 := by decide +kernel
  refine ⟨Promotion.run_returned, hone ▸ Promotion.plays_promoted, by decide +kernel, fun h => ?_, hrequests, ?_⟩
  · have hmem := h.mem_requests
    rw [hrequests] at hmem
    exact absurd hmem (by decide)
  · decide +kernel

/-- It was opened as the first request asks. -/
theorem origin_of_promotion : ∃ q, Promotion.Made q ∧ q.host.url = "a/" ∧
    q.Opened Promotion.promoted.2 (Promotion.promoted.2.handle 1).conn := by
  have hone : Promotion.promoted.1 = .ok 1 := by decide +kernel
  have hpristine : Promotion.start.world.Pristine := ⟨nofun, rfl, rfl, rfl, fun _ => rfl⟩
  obtain ⟨q, hq, hurl, -, hopened⟩ := origin_of_connect (q := Promotion.asWriter) hpristine rfl
    Promotion.run_returned (.inr rfl) (hone ▸ Promotion.plays_promoted)
  exact ⟨q, hq, hurl, hopened⟩

end PooledProvider

end ReplicaRouter
