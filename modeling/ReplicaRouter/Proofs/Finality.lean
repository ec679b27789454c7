import ReplicaRouter.Proofs.Traffic
/-
Pools that are closed. A pool is closed at once when it is told to, and stays so: it lends nothing any more, keeps
nothing, and whatever was idle or still comes back is told to close.
Main statement: `World.final_of_run`.
-/
namespace ReplicaRouter

open World Schedule Freight

variable {D α : Type} [Backend D] {others : World D → World D → Prop} {s s' s₀ : Schedule (World D)} {p : PoolId}
  {h : HandleId} {c : ConnId} {w : World D}

namespace World

/-! ## Who asks a closed pool -/

theorem borrow_of_closed (hclosed : (w.pool p).closed = true) (now : Instant) :
    borrow p now w = .done (.error (w.pool p).closedError) w := by
  show (if (w.pool p).closed then _ else _ : Routine (World D) _) now w = _
  rw [if_pos hclosed]
  rfl

/-- Work that waits once and then is done. -/
theorem wait_bind_blocked {W β : Type} {ready r : W → Bool} {deadline d : Option Instant} {now : Instant} {w w' : W}
    {f : Bool → Routine W β} {resume : Instant → W → Outcome W β} (hf : ∀ b t v, ∃ a u, f b t v = .done a u)
    (h : (Routine.wait ready deadline >>= f) now w = .blocked w' r d resume) :
    r = ready ∧ ∀ t v, resume t v = f (ready v) t v := by
  have h : (Routine.wait ready deadline now w).andThen now f = .blocked w' r d resume := h
  have hdone : ∀ b, ¬ f b now w = .blocked w' r d resume := fun b hb => by
    obtain ⟨a, u, ha⟩ := hf b now w
    rw [ha] at hb
    cases hb
  unfold Routine.wait at h
  split at h
  · exact absurd h (hdone true)
  · split at h
    · exact absurd h (hdone false)
    · cases h
      exact ⟨rfl, fun _ _ => rfl⟩

omit [Backend D] in
/-- Whoever waits for a permit is refused as soon as the pool is closed, even if he was granted one. -/
theorem acquire_refused {now : Instant} {w' : World D} {ready : World D → Bool} {deadline : Option Instant}
    {resume : Instant → World D → Outcome (World D) (Except RouteError Unit)}
    (hwaits : acquire p now w = .blocked w' ready deadline resume) {v : World D} (hclosed : (v.pool p).closed = true)
    (t : Instant) : ready v = true ∧ ∃ v', resume t v = .done (.error (v.pool p).closedError) v' := by
  unfold acquire at hwaits
  rw [Routine.get_bind_apply] at hwaits
  cases htake : (w.pool p).permits.take? with
  | some permits =>
    rw [htake] at hwaits
    cases hwaits
  | none =>
    rw [htake] at hwaits
    obtain ⟨rfl, hresume⟩ := wait_bind_blocked (fun b t v => by
      show ∃ a u, (if b && !(v.pool p).closed then _ else _ : Routine (World D) _) t v = .done a u
      split <;> exact ⟨_, _, rfl⟩) hwaits
    have hready : ∀ granted, ((v.pool p).closed || granted) = true := fun granted => by rw [hclosed, Bool.true_or]
    refine ⟨hready _, ?_⟩
    rw [hresume, Routine.get_bind_apply, hready, hclosed]
    exact ⟨_, rfl⟩

/-- Whoever gets no permit gets nothing. -/
theorem borrow_eq (p : PoolId) : ∃ f : Unit → Routine (World D) (Except RouteError HandleId), borrow p =
    get >>= fun w => if (w.pool p).closed then pure (.error (w.pool p).closedError) else
      acquire p >>= fun permit => match permit with
        | .error e => pure (.error e)
        | .ok u => f u := by
  refine ⟨?next, ?eq⟩
  case eq => rfl

theorem borrow_refused (hopen : (w.pool p).closed = false) {now : Instant} {w' : World D} {ready : World D → Bool}
    {deadline : Option Instant} {resume : Instant → World D → Outcome (World D) (Except RouteError Unit)}
    (hwaits : acquire p now w = .blocked w' ready deadline resume) :
    ∃ resume, borrow p now w = .blocked w' ready deadline resume ∧ ∀ v t, (v.pool p).closed = true →
      ready v = true ∧ ∃ v', resume t v = .done (.error (v.pool p).closedError) v' := by
  obtain ⟨f, hborrow⟩ := borrow_eq (D := D) p
  rw [hborrow, Routine.get_bind_apply, if_neg (Bool.eq_false_iff.1 hopen), Routine.bind_apply, hwaits]
  refine ⟨_, rfl, fun v t hclosed => ?_⟩
  obtain ⟨hready, v', hresume⟩ := acquire_refused hwaits hclosed t
  refine ⟨hready, v', ?_⟩
  rw [hresume]
  rfl

/-! ## What comes back to a closed pool -/

omit [Backend D] in
theorem dropPermit_done (h : HandleId) (now : Instant) (w : World D) :
    ∃ w', dropPermit h now w = .done () w' ∧ w'.orphans = w.orphans := by
  show ∃ w', (if (w.handle h).hasPermit then _ else _ : Routine (World D) Unit) now w = .done () w' ∧ _
  split
  · exact ⟨_, rfl, rfl⟩
  · exact ⟨_, rfl, rfl⟩

/-- What a closed pool gets back from nobody in particular is left to be closed. -/
theorem abandon_of_closed (hh : h < w.handles.length) (hout : (w.handle h).returned = false)
    (hclosed : (w.pool (w.handle h).pool).closed = true) (now : Instant) :
    ∃ w', abandon h now w = .done () w' ∧
      (w.isClosed (w.handle h).conn = true ∨ (w.handle h).conn ∈ w'.orphans) := by
  have hhandle : (w.marking h).handle h = { w.handle h with returned := true } := by
    rw [handle_modifyHandle hh, if_pos rfl]
  have hreclaim : ∃ r v, reclaim h now (w.marking h) = .done r v ∧
      (w.isClosed (w.handle h).conn = true ∨ r = some (w.handle h).conn) := by
    unfold reclaim
    rw [Routine.get_bind_apply, hhandle, Routine.modify_bind_apply]
    by_cases hended : w.isClosed (w.handle h).conn = true
    · exact ⟨_, _, congrFun (congrFun (if_pos hended) _) _, .inl hended⟩
    · exact ⟨_, _, congrFun (congrFun ((if_neg hended).trans (if_pos hclosed)) _) _, .inr rfl⟩
  obtain ⟨r, v, hreclaim, hr⟩ := hreclaim
  have habandon : abandon h now w = (if !(w.handle h).returned then reclaim h >>= _ else pure ()) now (w.marking h) :=
    rfl
  rw [habandon, hout, Bool.not_false, if_pos rfl, Routine.bind_apply, hreclaim]
  cases r with
  | none =>
    obtain ⟨w', hdrop, -⟩ := dropPermit_done h now v
    exact ⟨w', hdrop, hr.imp id (by rintro ⟨⟩)⟩
  | some c =>
    obtain ⟨w', hdrop, horphans⟩ := dropPermit_done h now { v with orphans := v.orphans ++ [c] }
    refine ⟨w', hdrop, hr.imp id fun hc => ?_⟩
    rw [horphans, Option.some.inj hc]
    exact List.mem_append_right _ (List.mem_singleton_self _)

theorem letGo_of_closed (hlast : (w.handle h).holders = 1) (hout : (w.handle h).returned = false)
    (hclosed : (w.pool (w.handle h).pool).closed = true) (now : Instant) :
    ∃ w', (Link.pooled h).letGo now w = .done () w' ∧
      (w.isClosed (w.handle h).conn = true ∨ (w.handle h).conn ∈ w'.orphans) := by
  have hh : h < w.handles.length := lt_of_held (by rw [hlast]; exact Nat.one_pos)
  let v := w.modifyHandle h fun e => { e with holders := e.holders - 1 }
  have hhandle : v.handle h = { w.handle h with holders := 0 } := by
    show (w.modifyHandle h fun e => { e with holders := e.holders - 1 }).handle h = _
    rw [handle_modifyHandle hh, if_pos rfl, hlast]
  have hletGo : (Link.pooled h).letGo now w = (if (v.handle h).holders = 0 then abandon h else pure ()) now v := rfl
  rw [hletGo, hhandle, if_pos rfl]
  obtain ⟨w', hdone, hend⟩ := abandon_of_closed (w := v) (h := h) (by simpa [v, modifyHandle] using hh)
    (by rw [hhandle]; exact hout) (by rw [hhandle]; exact hclosed) now
  rw [hhandle] at hend
  exact ⟨w', hdone, hend⟩

/-! ## What closing a pool says -/

omit [Backend D] in
/-- Two entries that tell of the same connection being closed make it two closes. -/
theorem two_le_count_hungUp {r r' : Except RouteError Unit} (hr : .call (.close c r) ∈ w.journal)
    (hr' : .call (.close c r') ∈ w.journal) (hne : r.isOk ≠ r'.isOk) : 2 ≤ w.hungUp.count c := by
  obtain ⟨later, before, hj⟩ := List.append_of_mem hr
  have hother : .call (.close c r') ∈ later ++ before := by
    rw [hj] at hr'
    rcases List.mem_append.1 hr' with h | h
    · exact List.mem_append_left _ h
    · rcases List.mem_cons.1 h with h | h
      · cases h
        exact absurd rfl hne
      · exact List.mem_append_right _ h
  have hpos : 0 < ((later ++ before).filterMap Entry.closedConn?).count c :=
    List.count_pos_iff.2 (List.mem_filterMap.2 ⟨_, hother, rfl⟩)
  rw [hungUp, hj, List.filterMap_append, List.count_append, List.filterMap_cons_some (f := Entry.closedConn?) rfl,
    List.count_cons_self]
  rw [List.filterMap_append, List.count_append] at hpos
  omega

theorem exists_of_forall₂ {α β : Type} {R : α → β → Prop} {as : List α} {bs : List β} (h : List.Forall₂ R as bs) {a : α}
    (ha : a ∈ as) : ∃ b ∈ bs, R a b := by
  induction h with
  | nil => cases ha
  | cons hab _ ih =>
    rcases List.mem_cons.1 ha with rfl | ha
    · exact ⟨_, List.mem_cons_self, hab⟩
    · obtain ⟨b, hb, hR⟩ := ih ha
      exact ⟨b, List.mem_cons_of_mem _ hb, hR⟩

omit [Backend D] in
/-- Closing fails exactly if one of the connections fails to close. -/
theorem verdict_iff {P : Pool} {cs : List ConnId} {rs : List (Except RouteError Unit)} (h : w.Answered cs rs)
    (hone : ∀ c ∈ cs, w.hungUp.count c ≤ 1) :
    (∃ text, P.verdict (rs.countP (!·.isOk)) = .error (.disposal text)) ↔
      ∃ c ∈ cs, ∃ e, .call (.close c (.error e)) ∈ w.journal := by
  have hverdict : (∃ text, P.verdict (rs.countP (!·.isOk)) = .error (.disposal text)) ↔ 0 < rs.countP (!·.isOk) := by
    unfold Pool.verdict
    split
    · next hnone => simp [hnone]
    · next hsome => simp [Nat.pos_of_ne_zero hsome]
  rw [hverdict, List.countP_pos_iff]
  constructor
  · rintro ⟨r, hr, hfailed⟩
    obtain ⟨c, hc, hentry⟩ := exists_of_forall₂ h.flip hr
    cases r with
    | ok _ => cases hfailed
    | error e => exact ⟨c, hc, e, hentry⟩
  · rintro ⟨c, hc, e, hentry⟩
    obtain ⟨r, hr, hother⟩ := exists_of_forall₂ h hc
    refine ⟨r, hr, ?_⟩
    cases r with
    | ok _ => exact absurd (two_le_count_hungUp hentry hother nofun) (Nat.not_le.2 (Nat.lt_succ_of_le (hone c hc)))
    | error e => rfl

end World

namespace Schedule

/-- What holds of a pool that is closed, whatever happens from now on. -/
structure Retired (others : World D → World D → Prop) (p : PoolId) (s : Schedule (World D)) : Prop where
  /-- The pool stays closed, and nothing is idle. -/
  stays {s' : Schedule (World D)} (run : Run (Traffic False) others s s') :
    (s'.world.pool p).closed = true ∧ (s'.world.pool p).idle = []
  /-- Whoever asks for a connection is refused. -/
  refused {r : Option (Except RouteError HandleId)} {s' : Schedule (World D)}
    (plays : (borrow p).Plays (Traffic False) others s r s') :
    r = some (.error (.connectionUnavailable ("pool " ++ (s.world.pool p).key ++ " is closed"))) ∧ s' = s
  /-- To be closed once more is nothing. -/
  again {r : Option (Except RouteError Unit)} {s' : Schedule (World D)}
    (plays : (closePool p).Plays (Traffic False) others s r s') : r = some (.ok ()) ∧ s' = s
  /-- A connection that comes back is closed, or is told to close. -/
  givenBack {h : HandleId} {s' : Schedule (World D)} (lender : (s.world.handle h).pool = p)
    (held : 0 < (s.world.handle h).holders) (out : (s.world.handle h).returned = false)
    (plays : (giveBack h).Plays (Traffic False) others s (some ()) s') :
    s.world.isClosed (s.world.handle h).conn = true ∨ s'.world.Ended others (s.world.handle h).conn
  evicted {h : HandleId} {s' : Schedule (World D)} (lender : (s.world.handle h).pool = p)
    (held : 0 < (s.world.handle h).holders) (out : (s.world.handle h).returned = false)
    (plays : (evict h).Plays (Traffic False) others s (some ()) s') : s'.world.Ended others (s.world.handle h).conn
  /-- What is dropped is left to be closed in the background. -/
  dropped {h : HandleId} {r : Option Unit} {s' : Schedule (World D)} (lender : (s.world.handle h).pool = p)
    (last : (s.world.handle h).holders = 1) (out : (s.world.handle h).returned = false)
    (plays : (Link.pooled h).letGo.Plays (Traffic False) others s r s') :
    r = some () ∧ (s.world.isClosed (s.world.handle h).conn = true ∨ (s.world.handle h).conn ∈ s'.world.orphans)
  orphaned {c : ConnId} {cs : List ConnId} {s' : Schedule (World D)} (orphans : s.world.orphans = c :: cs)
    (plays : closeOrphan.Plays (Traffic False) others s (some ()) s') : s'.world.Ended others c
  /-- While no call waits and nothing is left to be closed, whatever came back is closed, or out with somebody else. -/
  settled (parked : s.parked = []) (orphans : s.world.orphans = []) (_ : Backend.Dependable D)
    (later : ∀ w v, others w v → Backend.Later Backend.Final.has w.backend v.backend) :
    ∀ h < s.world.handles.length, (s.world.handle h).pool = p → (s.world.handle h).returned = true →
      s.world.isClosed (s.world.handle h).conn = true ∨ ∃ i < s.world.handles.length,
        (s.world.handle i).pool = p ∧ (s.world.handle i).returned = false ∧
          (s.world.handle i).conn = (s.world.handle h).conn

/-- What happens when a pool is told to close that is open. -/
structure Retires (others : World D → World D → Prop) (p : PoolId) (s : Schedule (World D)) : Prop where
  /-- It is closed before anything else can happen. -/
  closed {r : Option (Except RouteError Unit)} {s' : Schedule (World D)}
    (plays : (closePool p).Plays (Traffic False) others s r s') :
    (s'.world.pool p).closed = true ∧ (s'.world.pool p).idle = []
  /-- In the end every connection that was idle was told to close, whichever of them failed. -/
  ended {r : Except RouteError Unit} {s' : Schedule (World D)}
    (plays : (closePool p).Plays (Traffic False) others s (some r) s') :
    ∀ c ∈ (s.world.pool p).idle, s'.world.Ended others c
  /-- Nobody ever tells it again. -/
  once {r : Except RouteError Unit} {s' s'' : Schedule (World D)}
    (plays : (closePool p).Plays (Traffic False) others s (some r) s') (run : Run (Traffic False) others s' s'')
    (distinct : s''.world.opened.Nodup) : ∀ c ∈ (s.world.pool p).idle, s''.world.hungUp.count c = 1
  /-- The answer tells how many failed. -/
  answer {r : Except RouteError Unit} {s' : Schedule (World D)}
    (plays : (closePool p).Plays (Traffic False) others s (some r) s') :
    ∃ outcomes, s'.world.Answered (s.world.pool p).idle.reverse outcomes ∧
      r = (s.world.pool p).verdict (outcomes.countP (!·.isOk))
  failed {r : Except RouteError Unit} {s' : Schedule (World D)}
    (plays : (closePool p).Plays (Traffic False) others s (some r) s') (distinct : s'.world.opened.Nodup) :
    (∃ text, r = .error (.disposal text)) ↔
      ∃ c ∈ (s.world.pool p).idle, ∃ e, .call (.close c (.error e)) ∈ s'.world.journal
  /-- Whoever waits for a permit is refused as soon as the pool is closed. -/
  refused {w : World D} {ready : World D → Bool} {deadline : Option Instant}
    {resume : Instant → World D → Outcome (World D) (Except RouteError Unit)}
    (waits : acquire p s.clock s.world = .blocked w ready deadline resume) :
    ∃ resume, borrow p s.clock s.world = .blocked w ready deadline resume ∧ ∀ v t, (v.pool p).closed = true →
      ready v = true ∧ ∃ v', resume t v =
        .done (.error (.connectionUnavailable ("pool " ++ (v.pool p).key ++ " is closed"))) v'

section Orderly

variable (hothers : ∀ w v, others w v → w.Elsewise v) (hs : s.Orderly others False 0)
include hothers hs

theorem retired_of_orderly (hclosed : (s.world.pool p).closed = true) : s.Retired others p := by
  refine ⟨fun run => ?_, fun plays => ?_, fun plays => ?_, fun {h s'} lender held out plays => ?_,
    fun {h s'} lender held out plays => ?_, fun {h r s'} lender last out plays => ?_, fun {c cs s'} orphans plays => ?_,
    fun parked orphans _ later h hh lender returned => ?_⟩
  · obtain ⟨hlater, hs'⟩ := hs.run run
    obtain ⟨rest, hw⟩ := hs'.circulates hothers
    have hshut := (hlater.ensues hothers).shut p hclosed
    exact ⟨hshut, hw.shut p hshut⟩
  · rw [Routine.Plays, borrow_of_closed hclosed] at plays
    exact Outcome.plays_done.1 plays
  · rw [Routine.Plays, closePool_of_closed hclosed] at plays
    exact Outcome.plays_done.1 plays
  · obtain ⟨-, hs', -, hback⟩ := hs.plays_alone hothers (fun T rest hw => carries_giveBack (lt_of_held held)
      (hw.not_fresh held) hw) plays
    exact (hback out (by rwa [lender])).imp id (hs'.ended hothers)
  · obtain ⟨-, hs', -, hrid⟩ := hs.plays_alone hothers (fun T rest hw => carries_evict (lt_of_held held)
      (hw.not_fresh held) (barred_length _ s.world) hw) plays
    exact hs'.ended hothers (hrid out).told
  · obtain ⟨w', hdone, hend⟩ := letGo_of_closed last out (by rwa [lender]) s.clock
    rw [Routine.Plays, hdone] at plays
    obtain ⟨rfl, rfl⟩ := Outcome.plays_done.1 plays
    exact ⟨rfl, hend⟩
  · obtain ⟨-, hs', hrid⟩ := hs.plays_alone hothers (fun T rest hw => carries_adopt orphans hw) plays
    exact hs'.ended hothers hrid.told
  · -- nothing is in progress: an idle place is ruled out as the shelf stays empty
    have hw := (hs (.ofDependable D) ⟨hothers, later⟩).settled parked
    have hidle := hw.shut p hclosed
    cases hw.placed h hh with
    | idle mem =>
      rw [lender, hidle] at mem
      cases mem
    | @lent i lt out pool_eq conn_eq => exact .inr ⟨i, lt, pool_eq.trans lender, out, conn_eq⟩
    | inHand mem => exact absurd mem (Multiset.notMem_zero _)
    | orphaned mem =>
      rw [orphans] at mem
      cases mem
    | doomed mem => exact absurd mem (Multiset.notMem_zero _)
    | ended ended => exact .inl ended
    | hungUp mem => exact .inl ((hw.ended _ mem).resolve_left id)

/-- A close that has begun is played from where the pool is closed already. -/
theorem plays_closeAll (hopen : (s.world.pool p).closed = false) (hp : p < s.world.pools.length)
    {r : Option (Except RouteError Unit)} (plays : (closePool p).Plays (Traffic False) others s r s') :
    (s'.world.pool p).closed = true ∧ (s'.world.pool p).idle = [] := by
  have hT : (Terms.blank D).Admits others := .blank hothers
  have hstart : Flows (.blank D) False { s with world := s.world.shutting p }
      ((s.world.pool p).idle.reverse.map (doomed · s.world.handles.length) : List Freight) := by
    obtain ⟨rest, hw⟩ := hs.circulates hothers
    refine (hs _ hT).change (hw.toTallies.ensues_shutting hp False.elim) fun rest hw => ?_
    rw [zero_add] at hw
    exact hw.close hp
  rw [Routine.Plays, closePool_of_open hopen, Routine.plays_from] at plays
  obtain ⟨hlater, own, hs', -⟩ := hstart.plays hT (fun rest hw => carries_closeAll hp hw) plays
  obtain ⟨rest, hw⟩ := hs'.circulates
  have hshut : ((s.world.shutting p).pool p).closed = true := by rw [pool_shutting hp, if_pos rfl]
  have hshut := hlater.shut p hshut
  exact ⟨hshut, hw.shut p hshut⟩

theorem retires_of_orderly (hp : p < s.world.pools.length) (hopen : (s.world.pool p).closed = false) :
    s.Retires others p := by
  have hend : ∀ {r s'}, (closePool p).Plays (Traffic False) others s (some r) s' →
      s'.Orderly others False 0 ∧ s.world.Disposed p r s'.world := fun plays => by
    obtain ⟨-, hs', hdone⟩ := hs.plays_alone hothers
      (fun T rest hw => carries_closePool hp False.elim hw) plays
    exact ⟨hs', hdone⟩
  refine ⟨fun plays => plays_closeAll hothers hs hopen hp plays, fun plays c hc => ?_,
    fun plays run distinct c hc => ?_, fun plays => (hend plays).2.answered, fun {r s'} plays distinct => ?_,
    fun waits => borrow_refused hopen waits⟩
  · obtain ⟨hs', hdone⟩ := hend plays
    exact hs'.ended hothers (hdone.rid c hc).told
  · obtain ⟨hs', hdone⟩ := hend plays
    obtain ⟨hlater, hs''⟩ := hs'.run run
    obtain ⟨rest, hw⟩ := hs''.circulates hothers
    have hone := hw.count_le_one distinct c
    have hpos := List.count_pos_iff.2 ((hdone.rid c hc).later (hlater.ensues hothers)).told
    omega
  · obtain ⟨hs', hdone⟩ := hend plays
    obtain ⟨rest, hw⟩ := hs'.circulates hothers
    obtain ⟨outcomes, hanswered, rfl⟩ := hdone.answered
    rw [verdict_iff hanswered fun c _ => Nat.le_trans (Nat.le_add_left _ _) (hw.count_le_one distinct c)]
    simp only [List.mem_reverse]

end Orderly

end Schedule

/-- Closing a pool is final, through every interleaving of calls and whatever the driver does. -/
theorem World.final_of_run (hothers : ∀ w v, others w v → w.Elsewise v) (hunused : s₀.world.Unused False)
    (hparked : s₀.parked = []) (hrun : Schedule.Run (Traffic False) others s₀ s) (hp : p < s.world.pools.length) :
    ((s.world.pool p).closed = true → s.Retired others p) ∧
      ((s.world.pool p).closed = false → s.Retires others p) :=
  have hs := ((orderly_of_unused hunused hparked).run hrun).2
  ⟨retired_of_orderly hothers hs, retires_of_orderly hothers hs hp⟩

/-! ### A pool that is closed while a handle is out -/

namespace Curfew

open Sim

/-- A new pool for two connections to a host. -/
def pool : Pool where
  key := "w"
  protocol := "db"
  host := ⟨"w", none, .writer⟩
  props := []
  config := { maxSize := 2 }
  permits := { free := 2 }

def start : Schedule (World Cluster) where
  world := { backend := {}, cache := .empty ⟨0⟩ ⟨0⟩ 0, pools := [pool] }

def lent : Schedule (World Cluster) := (start.ask (borrow 0 >>= grasp)).ask (borrow 0 >>= grasp)

/-- Two handles were handed out, and the first one came back. -/
def busy : Schedule (World Cluster) := lent.ask (giveBack 0)

theorem isSome_shut : (closePool 0 busy.clock busy.world).value?.isSome = true := by decide +kernel

/-- The pool is closed while the second one is still out. -/
def shut : Except RouteError Unit × World Cluster := (closePool 0 busy.clock busy.world).value?.get isSome_shut

def late : Schedule (World Cluster) := busy.ask (discard (closePool 0))

theorem isSome_back : (giveBack 1 late.clock late.world).value?.isSome = true := by decide +kernel

/-- The second one comes back. -/
def back : Unit × World Cluster := (giveBack 1 late.clock late.world).value?.get isSome_back

theorem unused_start : start.world.Unused False where
  cached _ _ h := by cases h
  kept h := h.elim
  handles := rfl
  orphans := rfl
  opened := rfl
  hungUp := rfl
  pools P hP := by
    cases List.mem_singleton.1 hP
    exact ⟨rfl, rfl⟩

theorem run_busy : Schedule.Run (Traffic False) Yard.Meanwhile start busy := by
  have hlent : Schedule.Run (Traffic False) Yard.Meanwhile start lent :=
    (Schedule.Run.ask .refl (.borrow (by decide))).ask (.borrow (by decide +kernel))
  exact hlent.ask (.giveBack (by decide +kernel))

theorem run_late : Schedule.Run (Traffic False) Yard.Meanwhile start late :=
  run_busy.ask (.close id (by decide +kernel))

end Curfew

/-- The connection that was idle is closed with the pool, and the other one when it comes back; nobody gets one any
more. -/
theorem World.final_of_curfew :
    (Curfew.busy.world.pool 0).idle = [0] ∧ Curfew.shut.2.isClosed 0 = true ∧
      (∀ s, Schedule.Run (Traffic False) Yard.Meanwhile { Curfew.busy with world := Curfew.shut.2 } s →
        s.world.opened.Nodup → s.world.hungUp.count 0 = 1) ∧
      Curfew.late.world.isClosed 1 = false ∧ Curfew.back.2.isClosed 1 = true ∧
      ∀ r s, (borrow 0).Plays (Traffic False) Yard.Meanwhile Curfew.late r s →
        r = some (.error (.connectionUnavailable "pool w is closed")) := by
  have hopen := (final_of_run Yard.elsewise_of_meanwhile Curfew.unused_start rfl Curfew.run_busy
    (p := 0) (by decide +kernel)).2 (by decide +kernel)
  have hclosed := (final_of_run Yard.elsewise_of_meanwhile Curfew.unused_start rfl Curfew.run_late
    (p := 0) (by decide +kernel)).1 (by decide +kernel)
  have hshut : (closePool 0).Plays (Traffic False) Yard.Meanwhile Curfew.busy (some Curfew.shut.1)
      { Curfew.busy with world := Curfew.shut.2 } := Outcome.plays_of_value? (Option.some_get Curfew.isSome_shut).symm
  have hback : (giveBack 1).Plays (Traffic False) Yard.Meanwhile Curfew.late (some Curfew.back.1)
      { Curfew.late with world := Curfew.back.2 } := Outcome.plays_of_value? (Option.some_get Curfew.isSome_back).symm
  have hidle : (Curfew.busy.world.pool 0).idle = [0] := by decide +kernel
  have hmem : 0 ∈ (Curfew.busy.world.pool 0).idle := by rw [hidle]; exact List.mem_singleton_self 0
  have hopen1 : Curfew.late.world.isClosed 1 = false := by decide +kernel
  refine ⟨hidle, (hopen.ended hshut 0 hmem).2 inferInstance Yard.later_of_meanwhile,
    fun s hrun distinct => hopen.once hshut hrun distinct 0 hmem, hopen1, ?_, fun r s plays => ?_⟩
  · have hconn : (Curfew.late.world.handle 1).conn = 1 := by decide +kernel
    have hend := hclosed.givenBack (h := 1) (by decide +kernel) (by decide +kernel) (by decide +kernel) hback
    rw [hconn] at hend
    exact (hend.resolve_left (by rw [hopen1]; exact Bool.false_ne_true)).2 inferInstance Yard.later_of_meanwhile
  · rw [(hclosed.refused plays).1]
    decide +kernel

end ReplicaRouter
