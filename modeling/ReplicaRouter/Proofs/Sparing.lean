import ReplicaRouter.Proofs.Finality
import ReplicaRouter.Proofs.Sweeping
import ReplicaRouter.Proofs.Vetting
/-
Pools that are swept. As long as pools are closed by nothing but sweeps, a pool is open and found under its key while
one of its handles is out, and what a sweep takes out is a pool of which nothing is out.
Main statement: `World.sparing_of_juncture`.
-/
namespace ReplicaRouter

open World Schedule Freight Routine

variable {D : Type} [Backend D] {others : World D → World D → Prop} {s s' m : Schedule (World D)} {p : PoolId}
  {h : HandleId} {k : String} {e : Cached PoolId}

/-! ## While a handle is out -/

namespace World

/-- The pool is open, and it is the one that is found under its key. -/
def InService (w : World D) (p : PoolId) : Prop := (w.pool p).closed = false ∧ w.poolAt? (w.pool p).key = some p

section Others

variable (hothers : ∀ w v, others w v → w.Elsewise v)
include hothers

theorem inService_of_leads (hs : s.Tidy others True) (hlater : s.world.Leads others True s'.world)
    (hs' : s'.Tidy others True) (hh : h < s.world.handles.length)
    (hopen : (s.world.pool (s.world.handle h).pool).closed = false) (hout : (s'.world.handle h).returned = false) :
    s'.world.InService (s'.world.handle h).pool := by
  obtain ⟨rest, hw⟩ := hs.circulates hothers
  obtain ⟨rest', hw'⟩ := hs'.circulates hothers
  have hlater := hlater.ensues hothers
  have hp := Nat.lt_of_lt_of_le (hw.lender h hh) hlater.pools_le
  have hstill := hlater.spares trivial h hh hout hopen
  rw [hlater.lender h hh]
  exact ⟨hstill, hw'.kept trivial _ hp hstill⟩

end Others

/-! ## What a sweep takes out -/

/-- What is so of a pool since a sweep came to it and took it out: it was found under its key, nothing of it was out,
and it is closed. Once it is released, all that was idle was told to close. -/
structure Discarded (x : Keeper.Visit (World D) String PoolId) (p : PoolId) (w : World D) : Prop where
  cached : x.moment.world.poolAt? x.key = some p
  free : ∀ h < x.moment.world.handles.length, (x.moment.world.handle h).pool = p →
    (x.moment.world.handle h).returned = true
  closed : (w.pool p).closed = true
  told : x.done.isSome = true → ∀ c ∈ (x.moment.world.pool p).idle, c ∈ w.hungUp

section Others

variable (hothers : ∀ w v, others w v → w.Elsewise v)
include hothers

theorem Discarded.later {x : Keeper.Visit (World D) String PoolId} {kept : Prop} {w v : World D}
    (h : Discarded x p w) (hw : w.Leads others kept v) : Discarded x p v where
  cached := h.cached
  free := h.free
  closed := (hw.ensues hothers).shut p h.closed
  told hdone c hc := (hw.ensues hothers).hungUp_suffix.subset (h.told hdone c hc)

/-- Nothing is out of a pool that a sweep may take out. -/
theorem free_of_due (hs : s.Orderly others True 0) (hdue : poolKeeper.Due s k e) :
    s.world.poolAt? k = some e.value ∧ e.value < s.world.pools.length ∧ (s.world.pool e.value).active = 0 ∧
      ∀ h < s.world.handles.length, (s.world.handle h).pool = e.value → (s.world.handle h).returned = true := by
  obtain ⟨rest, hw⟩ := hs.circulates hothers
  have hcached := poolAt?_of_cached hdue.1
  have hp := (hw.cached k e.value hcached).1
  have hnone : (s.world.pool e.value).active = 0 := beq_iff_eq.1 hdue.2.2
  refine ⟨hcached, hp, hnone, fun h hh hlender => ?_⟩
  cases hout : (s.world.handle h).returned with
  | true => rfl
  | false =>
    have hpos := length_outOf_pos hh hout
    rw [hlender, ← hw.active _ hp, hnone] at hpos
    exact absurd hpos (Nat.lt_irrefl 0)

/-- A pool that a sweep takes out is closed before anything else can happen, and in the end whatever was idle was told
to close. -/
theorem plays_discard (hs : s.Orderly others True 0) (hdue : poolKeeper.Due s k e) {r : Option Unit}
    (hplays : (poolKeeper.releaseValue k e.value).Plays (Traffic True) others
      { s with world := { s.world with cache := s.world.cache.erase k } } r s') :
    s.world.Leads others True s'.world ∧ s'.Tidy others True ∧ (s'.world.pool e.value).closed = true ∧
      (r.isSome = true → s'.Orderly others True 0 ∧ ∀ c ∈ (s.world.pool e.value).idle, c ∈ s'.world.hungUp) := by
  obtain ⟨hcached, hp, hnone, -⟩ := free_of_due hothers hs hdue
  -- taking the key out belongs to the work: the invariant holds before it, not between it and the release
  have hall : (poolKeeper.change (W := World D) (·.erase k) >>= fun _ => poolKeeper.releaseValue k e.value).Plays
      (Traffic True) others s r s' :=
    Outcome.Plays.setWorld (s := { s with world := { s.world with cache := s.world.cache.erase k } }) s.world hplays
  have hcarries : ∀ (T : Terms D) rest, s.world.Circulates T True (0 + rest) →
      Carries T True (poolKeeper.change (·.erase k) >>= fun _ => poolKeeper.releaseValue k e.value) s.world rest
        fun _ own v => own = 0 ∧ ∃ r, s.world.Disposed e.value r v := fun T rest hw =>
    Routine.accounts_modify_bind (ensues_cache _ _)
      (carries_releaseValue hcached (fun _ => hnone) (by rwa [zero_add] at hw))
  obtain ⟨hlater, htidy⟩ := hs.plays_tidy (fun T rest hw => ⟨_, hcarries T rest hw⟩) hall
  refine ⟨hlater, htidy, ?_, fun hr => ?_⟩
  · cases hshut : (s.world.pool e.value).closed with
    | true => exact (hlater.ensues hothers).shut _ hshut
    | false =>
      -- from where the pool was just closed the rest of the work is only played on
      let w := ({ s.world with cache := s.world.cache.erase k } : World D).shutting e.value
      have hshutting : s.world.Leads others True w ∧ Orderly others True { s with world := w }
          ((s.world.pool e.value).idle.reverse.map (doomed · s.world.handles.length) : List Freight) :=
        hs.change fun T rest hw => by
          rw [zero_add] at hw
          have ht : ({ s.world with cache := s.world.cache.erase k } : World D).Tallies := ⟨hw.lender, hw.active⟩
          exact ⟨(ensues_cache _ _).trans (ht.ensues_shutting hp fun _ => hnone),
            (hw.close hp).erase (fun _ => hcached) fun _ => by rw [pool_shutting hp, if_pos rfl]⟩
      have hrest : (closeAll (s.world.pool e.value) >>= sign k).Plays (Traffic True) others
          { s with world := w } r s' := by
        rw [releaseValue_eq, Routine.Plays, Routine.bind_apply,
          closePool_of_open (w := { s.world with cache := s.world.cache.erase k }) hshut] at hplays
        exact Outcome.Plays.setWorld (s := { s with world := { s.world with cache := s.world.cache.erase k } }) w hplays
      obtain ⟨hafter, -⟩ := hshutting.2.plays_tidy (fun T rest hw => ⟨fun _ _ _ => True, by
        have hclose := carries_closeAll (u := { s.world with cache := s.world.cache.erase k }) (p := e.value) hp hw
        refine carries_bind hclose ?_
        rintro r _ v rest - ⟨rfl, -⟩ hv
        exact fun now => ((rests_sign k r).carries hv now).imp fun _ _ _ _ => trivial⟩) hrest
      have hclosed : (w.pool e.value).closed = true := by
        rw [pool_shutting (w := { s.world with cache := s.world.cache.erase k }) hp, if_pos rfl]
      exact (hafter.ensues hothers).shut _ hclosed
  · obtain ⟨u, rfl⟩ := Option.isSome_iff_exists.1 hr
    obtain ⟨-, hs', r, hdisposed⟩ := hs.plays_with hothers hcarries hall
    exact ⟨hs', fun c hc => (hdisposed.rid c hc).told⟩

/-- Wherever a sweep has come, everything is in its place, and all that it took out is discarded. -/
theorem discarded_of_sweeps {ks : List String} {visits : List (Keeper.Visit (World D) String PoolId)} {r : Option Nat}
    (hs : s.Orderly others True 0) (hsweeps : poolKeeper.Sweeps (Traffic True) others ks s visits r s')
    (hdue : ∀ x ∈ visits, ∀ e, x.taken = some e ↔ poolKeeper.Due x.moment x.key e) :
    s.world.Leads others True s'.world ∧ s'.Tidy others True ∧ (r.isSome = true → s'.Orderly others True 0) ∧
      ∀ x ∈ visits, ∀ e, x.taken = some e → Discarded x e.value s'.world := by
  induction hsweeps with
  | done s => exact ⟨fun _ _ => .refl _, hs.tidy, fun _ => hs, nofun⟩
  | kept _ ih =>
    obtain ⟨hlater, htidy, horderly, hall⟩ := ih hs (List.forall_mem_cons.1 hdue).2
    exact ⟨hlater, htidy, horderly, List.forall_mem_cons.2 ⟨nofun, hall⟩⟩
  | @dropped k ks s m s' e visits r cached released _ ih =>
    obtain ⟨hfirst, hrest⟩ := List.forall_mem_cons.1 hdue
    have he : poolKeeper.Due s k e := (hfirst e).1 rfl
    obtain ⟨hcached, -, -, hfree⟩ := free_of_due hothers hs he
    obtain ⟨hlater, -, hclosed, hend⟩ := plays_discard hothers hs he released
    obtain ⟨hm, htold⟩ := hend rfl
    obtain ⟨hlater', htidy, horderly, hall⟩ := ih hm hrest
    refine ⟨hlater.trans hlater', htidy, fun hr => horderly (by simpa using hr), List.forall_mem_cons.2 ⟨?_, hall⟩⟩
    rintro _ ⟨⟩
    have hthen : Discarded ⟨k, s, some e, some m⟩ e.value m.world := ⟨hcached, hfree, hclosed, fun _ => htold⟩
    exact hthen.later hothers hlater'
  | @dropping k ks s s' e cached released =>
    have he : poolKeeper.Due s k e := (hdue _ (List.mem_singleton_self _) e).1 rfl
    obtain ⟨hcached, -, -, hfree⟩ := free_of_due hothers hs he
    obtain ⟨hlater, htidy, hclosed, -⟩ := plays_discard hothers hs he released
    refine ⟨hlater, htidy, nofun, fun x hx => ?_⟩
    obtain rfl := List.mem_singleton.1 hx
    rintro _ ⟨⟩
    exact ⟨hcached, hfree, hclosed, nofun⟩

end Others

/-! ## Every kind of sweep -/

/-- What a sweep that began in a schedule did until it came to another: it went through the keys that were expired, took
out at each what was due, and what it took out is closed for good. -/
def Swept (others : World D → World D → Prop) (s : Schedule (World D)) (r : Option Nat)
    (s' : Schedule (World D)) : Prop :=
  ∃ visits m,
    poolKeeper.Sweeps (Traffic True) others (s.world.cache.expiredKeys s.clock) (poolKeeper.started s) visits r m ∧
    (∀ x ∈ visits, ∀ e, x.taken = some e ↔ poolKeeper.Due x.moment x.key e) ∧
    ∀ x ∈ visits, ∀ e, x.taken = some e →
      x.moment.world.poolAt? x.key = some e.value ∧
      (∀ h < x.moment.world.handles.length, (x.moment.world.handle h).pool = e.value →
        (x.moment.world.handle h).returned = true) ∧
      (x.done.isSome = true → ∀ c ∈ (x.moment.world.pool e.value).idle, s'.world.Ended others c) ∧
      ∀ s'', Schedule.Run (Traffic True) others s' s'' → (s''.world.pool e.value).closed = true ∧
        (s''.world.pool e.value).idle = [] ∧ ∀ r t, (borrow e.value).Plays (Traffic True) others s'' r t →
          r = some (.error (.connectionUnavailable ("pool " ++ (s''.world.pool e.value).key ++ " is closed"))) ∧ t = s''

theorem rests_change {T : Terms D} {kept : Prop} {f : Cache String PoolId → Cache String PoolId}
    (hf : ∀ c, (f c).entries = c.entries) : Rests T kept (poolKeeper.change (W := World D) f) :=
  Routine.calm_modify fun w => .upkeep fun k => by
    rw [Cache.cached?, hf]
    rfl

/-- A worker that waits leaves everything in its place. -/
theorem rests_await {T : Terms D} {kept : Prop} (id : Nat) (due : Instant) :
    Rests T kept (poolKeeper.await (W := World D) id due) := by
  refine Routine.calm_bind (rests_change fun _ => rfl) fun _ => Routine.calm_bind (Routine.calm_wait _ _) fun _ => ?_
  refine Routine.calm_bind Keeper.calm_look fun c => ?_
  split
  · exact Routine.calm_pure _
  · refine Routine.calm_bind Routine.calm_now fun _ => Routine.calm_bind Keeper.calm_look fun _ => ?_
    exact Routine.calm_bind (rests_change fun _ => rfl) fun _ => Routine.calm_pure _

section Others

variable (hothers : ∀ w v, others w v → w.Elsewise v)
include hothers

theorem swept_of_plays (hs : s.Orderly others True 0) {r : Option Nat}
    (hplays : poolKeeper.sweep.Plays (Traffic True) others s r s') : s'.Tidy others True ∧ Swept others s r s' := by
  have hcarries : ∀ (T : Terms D) rest, s.world.Circulates T True (0 + rest) →
      ∃ Q, Carries T True poolKeeper.sweep s.world rest Q := fun T rest hw =>
    ⟨_, mindful_poolKeeper.paysBack_sweep (by rwa [zero_add] at hw)⟩
  obtain ⟨-, htidy⟩ := hs.plays_tidy hcarries hplays
  have hstarted : (poolKeeper.started s).Orderly others True 0 := by
    refine (hs.change fun T rest hw => ?_).2
    have hupkeep : s.world.Serene T (poolKeeper.started s).world := .upkeep fun _ => rfl
    exact ⟨hupkeep.ensues, hw.serene hupkeep⟩
  obtain ⟨m, hkeys, hend⟩ := Keeper.plays_sweep hplays
  obtain ⟨visits, hsweeps, hdue⟩ := Keeper.sweeps_of_plays hkeys
  obtain ⟨-, hm, -, hdiscarded⟩ := discarded_of_sweeps hothers hstarted hsweeps hdue
  have hlater : m.world.Leads others True s'.world := by
    rcases hend with rfl | ⟨text, rfl⟩
    · exact fun _ _ => .refl _
    · exact fun _ _ => (Serene.note rfl rfl m.world).ensues
  refine ⟨htidy, visits, m, hsweeps, hdue, fun x hx e he => ?_⟩
  have hx := (hdiscarded x hx e he).later hothers hlater
  refine ⟨hx.cached, hx.free, fun hdone c hc => htidy.ended hothers (hx.told hdone c hc), fun s'' hrun => ?_⟩
  obtain ⟨hlater, hs''⟩ := htidy.run hrun
  obtain ⟨rest, hw⟩ := hs''.circulates hothers
  have hclosed := (hx.later hothers hlater).closed
  refine ⟨hclosed, hw.shut _ hclosed, fun r t hborrow => ?_⟩
  rw [Routine.Plays, borrow_of_closed hclosed] at hborrow
  exact Outcome.plays_done.1 hborrow

end Others

/-- Where a call may be when it begins to sweep: at any time, if somebody asks for a sweep or looks a pool up for the
first time; before another trial, if a search goes on; and after the wait of a worker's turn. -/
inductive Juncture (others : World D → World D → Prop) (s₀ : Schedule (World D)) : Schedule (World D) → Prop
  | reached {s : Schedule (World D)} (run : Schedule.Run (Traffic True) others s₀ s) : Juncture others s₀ s
  | searching {s m : Schedule (World D)} {provider : PooledProvider} {protocol : String} {host : Host}
      {props : Properties} {left : Nat} {t : Trial} (before : Juncture others s₀ s) (passing : t.isPassing = true)
      (plays : (provider.trial protocol host props left).Plays (Traffic True) others s (some t) m) :
      Juncture others s₀ m
  | working {s m : Schedule (World D)} {id : Nat} {due : Instant} {next : Option Instant}
      (before : Juncture others s₀ s)
      (plays : (poolKeeper.await id due).Plays (Traffic True) others s (some next) m) : Juncture others s₀ m

/-- What is so at a juncture: whatever is open while one of its handles is out stays in service until that comes back,
and sweeps take out nothing else. -/
structure Sparing (others : World D → World D → Prop) (s : Schedule (World D)) : Prop where
  kept {h : HandleId} {s' : Schedule (World D)} (lt : h < s.world.handles.length)
    (isOpen : (s.world.pool (s.world.handle h).pool).closed = false) (run : Schedule.Run (Traffic True) others s s')
    (out : (s'.world.handle h).returned = false) : s'.world.InService (s'.world.handle h).pool
  /-- From the moment on when somebody gets a handle. -/
  lent {provider : PooledProvider} {protocol : String} {host : Host} {props : Properties} {h : HandleId}
    {s₁ s₂ s₃ : Schedule (World D)}
    (plays : (provider.connect protocol host props).Plays (Traffic True) others s (some (.ok h)) s₁)
    (isOpen : (s₁.world.pool (s₁.world.handle h).pool).closed = false)
    (held : (Link.pooled h).hold.Plays (Traffic True) others s₁ (some ()) s₂)
    (run : Schedule.Run (Traffic True) others s₂ s₃) (out : (s₃.world.handle h).returned = false) :
    s₃.world.InService (s₃.world.handle h).pool
  /-- A sweep that somebody asks for. -/
  asked {r : Option Nat} {s' : Schedule (World D)} (plays : poolKeeper.sweep.Plays (Traffic True) others s r s') :
    Swept others s r s'
  /-- The sweep with which a look-up begins. -/
  lookedUp {provider : PooledProvider} {protocol : String} {host : Host} {props : Properties} {left : Nat}
    {r : Option Trial} {s' : Schedule (World D)} (due : s.world.cache.isCleanupDue s.clock = true)
    (plays : (provider.trial protocol host props left).Plays (Traffic True) others s r s') :
    ∃ r' m, Swept others s r' m ∧ (r' = none → r = none ∧ s' = m)
  /-- The sweep of a worker. -/
  turned {id : Nat} {due : Instant} {r : Option Unit} {s' : Schedule (World D)}
    (plays : (poolKeeper.turn id due).Plays (Traffic True) others s r s') :
    (r = none ∧ (poolKeeper.await id due).Plays (Traffic True) others s none s') ∨
      (∃ m, (poolKeeper.await id due).Plays (Traffic True) others s (some none) m ∧
        (poolKeeper.endWorker id).Plays (Traffic True) others m r s') ∨
      ∃ next m r' m', (poolKeeper.await id due).Plays (Traffic True) others s (some (some next)) m ∧
        Swept others m r' m' ∧ (r' = none → r = none ∧ s' = m')

section Others

variable (hothers : ∀ w v, others w v → w.Elsewise v)
include hothers

theorem Juncture.orderly {s₀ : Schedule (World D)} (hunused : s₀.world.Unused True) (hparked : s₀.parked = [])
    (h : Juncture others s₀ s) : s.Orderly others True 0 := by
  induction h with
  | reached run => exact ((orderly_of_unused hunused hparked).run run).2
  | searching _ passing plays ih =>
    obtain ⟨l, hl⟩ := plays.treads
    obtain ⟨-, htried, -⟩ := tried_trial hothers ih hl
    have horderly := htried.orderly
    rwa [Trial.lent?_of_passing passing] at horderly
  | working _ plays ih =>
    exact (ih.plays_with hothers (fun T rest hw now => ((rests_await _ _).carries hw now).imp
      fun _ _ _ hown => (⟨hown, trivial⟩ : _ ∧ True)) plays).2.1

omit hothers in
/-- A trial begins with a look-up. -/
theorem trial_eq (provider : PooledProvider) (protocol : String) (host : Host) (props : Properties) (left : Nat) :
    ∃ f : Unit → Routine (World D) Trial,
      provider.trial protocol host props left = poolKeeper.sweepIfDue >>= f := by
  refine ⟨?next, ?eq⟩
  case eq =>
    rw [PooledProvider.trial, Keeper.computeIfAbsent, bind_assoc]

theorem sparing_of_orderly (hs : s.Orderly others True 0) : Sparing others s := by
  refine ⟨fun lt isOpen run out => ?_, fun {provider protocol host props h s₁ s₂ s₃} plays isOpen held run out => ?_,
    fun plays => (swept_of_plays hothers hs plays).2, fun {_ _ _ _ _ r s'} due plays => ?_,
    fun {id due r s'} plays => ?_⟩
  · obtain ⟨hlater, hs'⟩ := hs.tidy.run run
    exact inService_of_leads hothers hs.tidy hlater hs' lt isOpen out
  · obtain ⟨-, hs₁, -⟩ := hs.plays_with hothers (fun T rest hw now =>
      (provider.carries_connect (by rwa [zero_add] at hw) now).imp fun _ _ _ h =>
        (⟨h.handed, trivial⟩ : _ ∧ True)) plays
    obtain ⟨hh, -, -⟩ := out_of_orderly hothers hs₁
    obtain ⟨hlater, hs₂, -⟩ := hs₁.plays_with hothers (fun T rest hw now =>
      (carries_hold_fresh hw now).imp fun _ _ _ hown => (⟨hown, trivial⟩ : _ ∧ True)) held
    obtain ⟨hlater', hs₃⟩ := hs₂.tidy.run run
    exact inService_of_leads hothers hs₁.tidy (hlater.trans hlater') hs₃ hh isOpen out
  · obtain ⟨f, htrial⟩ := trial_eq (D := D) _ _ _ _ _
    rw [htrial] at plays
    rcases Routine.plays_bind.1 plays with ⟨rfl, hlook⟩ | ⟨_, m, hlook, -⟩
    · obtain ⟨r', hr, hsweep⟩ := Keeper.plays_sweepIfDue due hlook
      obtain rfl := Option.map_eq_none_iff.1 hr.symm
      exact ⟨none, s', (swept_of_plays hothers hs hsweep).2, fun _ => ⟨rfl, rfl⟩⟩
    · obtain ⟨r', hr, hsweep⟩ := Keeper.plays_sweepIfDue due hlook
      obtain ⟨n, rfl, -⟩ := Option.map_eq_some_iff.1 hr.symm
      exact ⟨some n, m, (swept_of_plays hothers hs hsweep).2, nofun⟩
  · rw [Keeper.turn_eq] at plays
    rcases Routine.plays_bind.1 plays with ⟨rfl, hwait⟩ | ⟨next, m, hwait, hrest⟩
    · exact .inl ⟨rfl, hwait⟩
    have hm : m.Orderly others True 0 := (hs.plays_with hothers (fun T rest hw now =>
      ((rests_await _ _).carries hw now).imp fun _ _ _ hown => (⟨hown, trivial⟩ : _ ∧ True)) hwait).2.1
    cases next with
    | none => exact .inr (.inl ⟨m, hwait, hrest⟩)
    | some t =>
      rcases Routine.plays_bind.1 hrest with ⟨rfl, hsweep⟩ | ⟨n, m', hsweep, -⟩
      · exact .inr (.inr ⟨t, m, none, s', hwait, (swept_of_plays hothers hm hsweep).2, fun _ => ⟨rfl, rfl⟩⟩)
      · exact .inr (.inr ⟨t, m, some n, m', hwait, (swept_of_plays hothers hm hsweep).2, nofun⟩)

end Others

/-- A borrowed pool is never swept, through every interleaving of calls and whatever the driver does. -/
theorem sparing_of_juncture (hothers : ∀ w v, others w v → w.Elsewise v) {s₀ : Schedule (World D)}
    (hunused : s₀.world.Unused True) (hparked : s₀.parked = []) (hs : Juncture others s₀ s) : Sparing others s :=
  sparing_of_orderly hothers (hs.orderly hothers hunused hparked)

end World

/-! ### A sweep while one of two handles is out -/

namespace Spring

open Sim

def provider : PooledProvider := {}

/-- The cache keeps what is not used for ten nanoseconds. -/
def start : Schedule (World Cluster) where
  world := { backend := {}, cache := .empty ⟨10⟩ ⟨1000⟩ 0 }

/-- Two hosts are served, each from a pool of its own. -/
def served : Schedule (World Cluster) :=
  (start.ask (provider.connect "db" Stage.writer [] >>= grasp)).ask (provider.connect "db" Stage.reader [] >>= grasp)

/-- The second handle came back, and nothing happened for a while. -/
def stale : Schedule (World Cluster) := { served.ask (giveBack 1) with clock := 20 }

theorem isSome_swept : (poolKeeper.sweep stale.clock stale.world).value?.isSome = true := by decide +kernel

def swept : Nat × World Cluster := (poolKeeper.sweep stale.clock stale.world).value?.get isSome_swept

/-- After a sweep. -/
def tidy : Schedule (World Cluster) := { stale with world := swept.2 }

theorem unused_start : start.world.Unused True where
  cached _ _ h := by cases h
  kept _ p hp _ := absurd hp (Nat.not_lt_zero p)
  handles := rfl
  orphans := rfl
  opened := rfl
  hungUp := rfl
  pools _ hP := by cases hP

theorem run_stale : Schedule.Run (Traffic True) Yard.Meanwhile start stale := by
  have hserved : Schedule.Run (Traffic True) Yard.Meanwhile start served :=
    (Schedule.Run.ask .refl (.connect ..)).ask (.connect ..)
  exact .tail (hserved.ask (.giveBack (by decide +kernel))) (.tick (Nat.zero_le 20))

end Spring

/-- The sweep takes out one pool and closes its connection. The other pool stays in service until its handle comes
back. -/
theorem World.sparing_of_spring :
    Spring.swept.1 = 1 ∧ Swept Yard.Meanwhile Spring.stale (some Spring.swept.1) Spring.tidy ∧
      Spring.tidy.world.isClosed 1 = true ∧ (Spring.tidy.world.pool 1).closed = true ∧
      (Spring.tidy.world.handle 0).returned = false ∧
      ∀ s, Schedule.Run (Traffic True) Yard.Meanwhile Spring.stale s → (s.world.handle 0).returned = false →
        s.world.InService (s.world.handle 0).pool := by
  have hsparing := sparing_of_juncture Yard.elsewise_of_meanwhile Spring.unused_start rfl (.reached Spring.run_stale)
  have hplays : poolKeeper.sweep.Plays (Traffic True) Yard.Meanwhile Spring.stale (some Spring.swept.1) Spring.tidy :=
    Outcome.plays_of_value? (Option.some_get Spring.isSome_swept).symm
  refine ⟨by decide +kernel, hsparing.asked hplays, by decide +kernel, by decide +kernel, by decide +kernel,
    fun s hrun hout => hsparing.kept ?_ ?_ hrun hout⟩
  · decide +kernel
  · decide +kernel

end ReplicaRouter
