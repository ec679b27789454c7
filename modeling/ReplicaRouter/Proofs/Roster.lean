import ReplicaRouter.Proofs.Calmness
import ReplicaRouter.Proofs.Chronicle
/-
A cache with a roster of its workers: each of them reports when it begins a sweep and when it ends one, and its death is
reported as well. Wherever a worker might stop or go on, it is left open what it does; wherever it waits, it may die.
Main statements: what every change of a roster preserves is that a worker which is finished stays so and reports nothing
more, and that no sweep is begun once the cache is given up (`Roster.Follows`). What holds at any time is that only the
worker in the slot can be active, and that the phase of a worker tells whether it has a sweep in progress
(`Roster.Kept`).
-/
namespace ReplicaRouter

variable {W K V U α : Type}

/-! ## Turns that may go either way -/

/-- Whether a worker sweeps the cache at the moment. As long as it does it keeps the cache alive. -/
def Cache.isSwept (c : Cache K V) : Bool := c.workers.any (·.phase == .sweeping)

namespace Keeper

section Turns

variable [Journaled W] (keeper : Keeper W K V) (insists : W → Bool)

/-- Whether a worker stops whose wait is over. It may insist on its sweep if that is due although the order to stop is
there, and if the cache has been given up but is kept alive by another sweep. -/
def stops (due now : Instant) (cancelled : Bool) (w : W) : Bool :=
  (cancelled && !(decide (due ≤ now) && insists w)) ||
    ((keeper.cache.get w).dropped && !((keeper.cache.get w).isSwept && insists w))

/-- One turn of a worker, by its sweep. -/
def turnWith (sweep : Routine W Nat) (id : Nat) (due : Instant) : Routine W Unit := do
  keeper.change (·.setPhase id (.waiting due))
  let cancelled ← Routine.wait
    (fun w => ((keeper.cache.get w).worker? id).any (·.cancelled)) (some due)
  let w ← get
  let now ← Routine.now
  if keeper.stops insists due now cancelled w then keeper.endWorker id
  else
    keeper.change (·.setPhase id .sweeping)
    let _ ← sweep
    keeper.change (·.setPhase id (.resting (nextTurn due now (keeper.cache.get w).interval)))

/-- What a worker does that is not in the middle of a turn, by its sweep and the cache as it finds it. -/
def goOnFrom (sweep : Routine W Nat) (id : Nat) (c : Cache K V) : Routine W Unit :=
  match c.worker? id with
  | some { phase := .fresh, .. } =>
    if c.interval.nanos = 0 || longestInterval.nanos < c.interval.nanos then
      keeper.change (·.setPhase id .failed)
    else do keeper.turnWith insists sweep id ((← Routine.now) + c.interval.nanos)
  | some { phase := .resting due, .. } => keeper.turnWith insists sweep id due
  | _ => return ()

def goOnWith (sweep : Routine W Nat) (id : Nat) : Routine W Unit := do
  keeper.goOnFrom insists sweep id (← keeper.look)

/-- A worker that never insists takes its turns as the cache has them. -/
theorem goOn_eq_goOnWith [DecidableEq K] (id : Nat) :
    keeper.goOn id = keeper.goOnWith (fun _ => false) keeper.sweep id := by
  have hturn : keeper.turn id = keeper.turnWith (fun _ => false) keeper.sweep id := by
    funext due
    unfold turn turnWith
    refine congrArg _ (funext fun _ => congrArg _ (funext fun cancelled => ?_))
    funext now w
    have hstops : keeper.stops (fun _ => false) due now cancelled w = (cancelled || (keeper.cache.get w).dropped) := by
      simp [stops]
    show (if cancelled || (keeper.cache.get w).dropped then _ else _ : Routine W Unit) now w =
      (if keeper.stops (fun _ => false) due now cancelled w then _ else _ : Routine W Unit) now w
    rw [hstops]
    split
    · rfl
    · -- a sweep whose count is thrown away
      have hdiscard : ∀ f : Unit → Routine W Unit, (discard keeper.sweep >>= f) = keeper.sweep >>= fun _ => f () :=
        fun f => bind_assoc ..
      exact congrFun (congrFun (congrArg (_ >>= ·) (funext fun _ => hdiscard _)) now) w
  unfold goOn goOnWith goOnFrom
  exact hturn ▸ rfl

end Turns

end Keeper

/-! ## Work that may be cut short -/

/-- Work that is over as soon as its worker does not live any more when it would go on. -/
def Outcome.mortal (lives : W → Bool) : Outcome W Unit → Outcome W Unit
  | done a w => done a w
  | blocked w ready deadline resume =>
    -- death ends a wait as well
    blocked w (fun v => ready v || !lives v) deadline fun t v =>
      if lives v then (resume t v).mortal lives else done () v

def Routine.mortal (lives : W → Bool) (x : Routine W Unit) : Routine W Unit := fun now w => (x now w).mortal lives

/-- Where nobody dies, no work is cut short. -/
theorem Routine.mortal_of_lives {lives : W → Bool} (h : ∀ w, lives w = true) (x : Routine W Unit) :
    x.mortal lives = x := by
  suffices ho : ∀ o : Outcome W Unit, o.mortal lives = o from funext fun now => funext fun w => ho (x now w)
  intro o
  induction o with
  | done a w => rfl
  | blocked w ready deadline resume ih => simp [Outcome.mortal, h, ih]

/-- Who lives when his work goes on may rely on that; what he had at stake when he died the others do without. -/
theorem Outcome.Accounts.mortal {S : Type} [AddCommMonoid S] {R : W → W → Prop} [Frame R R] {Inv : W → S → Prop}
    {lives : W → Bool} (hless : ∀ v own rest, Inv v (own + rest) → Inv v rest) {o : Outcome W Unit} {w : W} {rest : S}
    (h : o.Accounts R (fun v g => Inv v g ∧ lives v = true) (fun _ own _ => own = 0) w rest) :
    (o.mortal lives).Accounts R Inv (fun _ own _ => own = 0) w rest := by
  induction o generalizing w rest with
  | done a v =>
    obtain ⟨hwv, own, hinv, hown⟩ := h
    exact ⟨hwv, own, hinv.1, hown⟩
  | blocked v ready deadline resume ih =>
    obtain ⟨hwv, own, hinv, hres⟩ := h
    refine ⟨hwv, own, hinv.1, fun t u rest hvu hu => ?_⟩
    dsimp only
    split
    · next hlives => exact ih t u (hres t u rest hvu ⟨hu, hlives⟩)
    · -- who is dead stops where he would have gone on, and gives up what he had
      refine ⟨Frame.refl R u, 0, ?_, rfl⟩
      rw [zero_add]
      exact hless u own rest hu

/-! ## Reports -/

/-- What there is to report of a worker. -/
inductive Report where
  /-- It begins a sweep. -/
  | begins (id : Nat)
  | ends (id : Nat)
  /-- It dies, whatever it was about. -/
  | dies (id : Nat)
  deriving DecidableEq, Repr

def Report.id : Report → Nat
  | begins id | ends id | dies id => id

/-- A cache with what was reported of its workers, latest first, and the rest of the world. -/
structure Roster (K V U : Type) where
  cache : Cache K V
  rest : U
  reports : List Report := []

namespace Roster

def cachePart : Part (Roster K V U) (Cache K V) where
  get w := w.cache
  set cache w := { w with cache }

def restPart : Part (Roster K V U) U where
  get w := w.rest
  set rest w := { w with rest }

/-- Log lines are not reports. -/
instance : Journaled (Roster K V U) where
  note _ w := w

def report (x : Report) (w : Roster K V U) : Roster K V U := { w with reports := x :: w.reports }

def setPhase (id : Nat) (p : WorkerPhase) (w : Roster K V U) : Roster K V U := { w with cache := w.cache.setPhase id p }

/-! ### Workers -/

section Workers

variable (id : Nat) (w : Roster K V U)

def phase? : Option WorkerPhase := (w.cache.worker? id).map (·.phase)

/-- The worker is neither cancelled nor finished. -/
def Active : Prop := ∃ x, w.cache.worker? id = some x ∧ x.isActive = true

def Finished : Prop := w.phase? id = some .ended ∨ w.phase? id = some .failed

/-- There is such a worker, and it is not finished. -/
def Running : Prop := ∃ p, w.phase? id = some p ∧ p ≠ .ended ∧ p ≠ .failed

/-- By the reports the worker has a sweep in progress. -/
def Sweeping : Prop := w.reports.find? (·.id = id) = some (.begins id)

/-- No death of the worker was reported. -/
def lives : Bool := .dies id ∉ w.reports

/-- Nobody holds on to the cache: its owner has given it up, and no worker is in the middle of a sweep. -/
def GivenUp : Prop := w.cache.dropped = true ∧ ∀ id, ¬ w.Sweeping id

end Workers

/-- Beside what is asked of workers, callers may change the entries and put off the next sweep, anything outside the
cache may change, the owner may give the cache up, and workers may die. -/
inductive Elsewhere : Roster K V U → Roster K V U → Prop
  | callers (w : Roster K V U) (rest : U) (entries : List (K × Cached V)) (nextCleanup : Instant) :
      Elsewhere w { w with rest, cache := { w.cache with entries, nextCleanup } }
  | drop (w : Roster K V U) : Elsewhere w { w with cache := { w.cache with dropped := true } }
  | death {w : Roster K V U} {id : Nat} (running : w.Running id) :
      Elsewhere w ((w.setPhase id .failed).report (.dies id))

/-! ### What a change does to workers -/

section Changes

variable {w v u : Roster K V U} {id j : Nat} {p : WorkerPhase} {x : Report}

theorem phase?_modifyWorker (w : Roster K V U) {f : Worker → Worker} {g : WorkerPhase → WorkerPhase}
    (hf : ∀ y : Worker, (f y).phase = g y.phase) {c : Cache K V} (hc : c = w.cache.modifyWorker id f) :
    phase? j { w with cache := c } = if j = id then (w.phase? j).map g else w.phase? j := by
  subst hc
  unfold phase? Cache.worker? Cache.modifyWorker
  rw [List.getElem?_modify]
  by_cases hj : j = id
  · subst hj
    cases w.cache.workers[j]? <;> simp [hf]
  · have hne : ¬ id = j := fun h => hj h.symm
    simp [hj, hne]

theorem phase?_setPhase : (w.setPhase id p).phase? j = if j = id then (w.phase? j).map fun _ => p else w.phase? j :=
  phase?_modifyWorker w (fun _ => rfl) rfl

theorem Running.phase?_setPhase (h : w.Running id) : (w.setPhase id p).phase? id = some p := by
  obtain ⟨q, hq, -⟩ := h
  rw [Roster.phase?_setPhase, if_pos rfl, hq]
  rfl

theorem Running.not_finished (h : w.Running id) : ¬ w.Finished id := by
  obtain ⟨q, hq, hended, hfailed⟩ := h
  rintro (hf | hf)
  · exact hended (Option.some.inj (hq.symm.trans hf))
  · exact hfailed (Option.some.inj (hq.symm.trans hf))

theorem Active.running (h : w.Active id) : w.Running id := by
  obtain ⟨x, hx, hactive⟩ := h
  refine ⟨x.phase, by rw [phase?, hx]; rfl, ?_, ?_⟩
  all_goals
    intro hp
    simp [Worker.isActive, Worker.isFinished, hp] at hactive

/-- To be active is to be neither cancelled nor finished. -/
theorem active_of_setPhase (h : w.Running id) (hactive : (w.setPhase id p).Active j) : w.Active j := by
  obtain ⟨x, hx, hxa⟩ := hactive
  unfold setPhase Cache.setPhase Cache.modifyWorker Cache.worker? at hx
  rw [List.getElem?_modify] at hx
  obtain ⟨y, hy, rfl⟩ := Option.map_eq_some_iff.1 hx
  refine ⟨y, hy, ?_⟩
  by_cases hj : id = j
  · -- the worker was not finished before, and the change does not take the order to stop back
    subst hj
    obtain ⟨q, hq, hended, hfailed⟩ := h
    have hyq : y.phase = q := by
      rw [phase?, Cache.worker?, hy] at hq
      exact Option.some.inj hq
    subst hyq
    rw [if_pos rfl] at hxa
    simp only [Worker.isActive, Bool.and_eq_true] at hxa
    simp [Worker.isActive, Worker.isFinished, hxa.1, hended, hfailed]
  · rwa [if_neg hj] at hxa

theorem sweeping_report : (w.report x).Sweeping id ↔ if x.id = id then x = .begins id else w.Sweeping id := by
  unfold Sweeping report
  rw [List.find?_cons]
  split
  · next h =>
    rw [if_pos (of_decide_eq_true h), Option.some_inj]
  · next h =>
    rw [if_neg (of_decide_eq_false h)]

end Changes

/-! ## What every change preserves -/

/-- What may have become of a roster: what was finished still is, a cache that was given up still is, and what was
reported meanwhile is of workers that were not finished before, and of no sweep that was begun if the cache had been
given up. -/
structure Follows (w v : Roster K V U) : Prop where
  workers : w.cache.workers.length ≤ v.cache.workers.length
  finished {id : Nat} : w.Finished id → v.Finished id
  givenUp : w.GivenUp → v.GivenUp
  reports : ∃ news, v.reports = news ++ w.reports ∧ (∀ x ∈ news, ¬ w.Finished x.id) ∧
    (w.GivenUp → ∀ id, .begins id ∉ news)

section Follows

variable {w v u : Roster K V U} {id : Nat} {p : WorkerPhase} {x : Report}

theorem Follows.refl (w : Roster K V U) : w.Follows w where
  workers := Nat.le_refl _
  finished := id
  givenUp := id
  reports := ⟨[], rfl, nofun, fun _ _ => nofun⟩

theorem Follows.trans (h : w.Follows v) (h' : v.Follows u) : w.Follows u where
  workers := Nat.le_trans h.workers h'.workers
  finished hf := h'.finished (h.finished hf)
  givenUp hg := h'.givenUp (h.givenUp hg)
  reports := by
    obtain ⟨first, hfirst, hquiet, hnone⟩ := h.reports
    obtain ⟨later, hlater, hquiet', hnone'⟩ := h'.reports
    refine ⟨later ++ first, by rw [hlater, hfirst, List.append_assoc], ?_, ?_⟩
    · -- who was finished at first was so in between
      intro x hx
      rcases List.mem_append.1 hx with hx | hx
      · exact fun hf => hquiet' x hx (h.finished hf)
      · exact hquiet x hx
    · intro hg id hmem
      rcases List.mem_append.1 hmem with hmem | hmem
      · exact hnone' (h.givenUp hg) id hmem
      · exact hnone hg id hmem

instance : Frame (Follows (K := K) (V := V) (U := U)) Follows := ⟨.refl, .trans, fun h => h⟩

theorem follows_of_eq (hworkers : w.cache.workers.length ≤ v.cache.workers.length)
    (hfinished : ∀ id, w.Finished id → v.Finished id) (hdropped : w.cache.dropped = true → v.cache.dropped = true)
    (hreports : v.reports = w.reports) : w.Follows v where
  workers := hworkers
  finished := hfinished _
  givenUp hg := by
    refine ⟨hdropped hg.1, fun id => ?_⟩
    unfold Sweeping
    rw [hreports]
    exact hg.2 id
  reports := ⟨[], hreports, nofun, fun _ _ => nofun⟩

theorem follows_setPhase (h : w.Running id) : w.Follows (w.setPhase id p) := by
  have hworkers : w.cache.workers.length = (w.setPhase id p).cache.workers.length := (List.length_modify ..).symm
  refine follows_of_eq (Nat.le_of_eq hworkers) (fun j hj => ?_) (fun hd => hd) rfl
  unfold Finished
  rw [phase?_setPhase, if_neg]
  · exact hj
  · rintro rfl
    exact h.not_finished hj

theorem follows_report (h : ¬ w.Finished x.id) (hx : w.GivenUp → ∀ id, x ≠ .begins id) : w.Follows (w.report x) where
  workers := Nat.le_refl _
  finished := id
  givenUp hg := by
    refine ⟨hg.1, fun id => ?_⟩
    rw [sweeping_report]
    split
    · exact hx hg id
    · exact hg.2 id
  reports := by
    refine ⟨[x], rfl, List.forall_mem_singleton.2 h, fun hg id hmem => ?_⟩
    exact hx hg id (List.mem_singleton.1 hmem).symm

end Follows

/-! ## What holds at any time -/

/-- What is kept while workers with these phases wait in the middle of their turns. -/
structure Kept (w : Roster K V U) (g : Multiset (Nat × WorkerPhase)) : Prop where
  /-- Who is active is in the slot. -/
  slot {id : Nat} : w.Active id → w.cache.slot = some id
  exists_of_slot {id : Nat} : w.cache.slot = some id → w.phase? id ≠ none
  /-- A worker waits in one place at most. -/
  nodup : (g.map Prod.fst).Nodup
  held : ∀ a ∈ g, w.lives a.1 = true → w.phase? a.1 = some a.2
  busy : ∀ a ∈ g, a.2 = .sweeping ∨ ∃ due, a.2 = .waiting due
  dead {id : Nat} : w.lives id = false → w.phase? id = some .failed
  sweeping (id : Nat) : w.Sweeping id ↔ w.phase? id = some .sweeping

section Kept

variable {w v : Roster K V U} {g own rest : Multiset (Nat × WorkerPhase)} {id : Nat} {p : WorkerPhase}

/-- What somebody has at stake the others do not depend on. -/
theorem Kept.less (h : w.Kept (own + rest)) : w.Kept rest where
  slot := h.slot
  exists_of_slot := h.exists_of_slot
  nodup := by
    have hn := h.nodup
    rw [Multiset.map_add] at hn
    exact Multiset.nodup_of_le (Multiset.le_add_left _ _) hn
  held a ha := h.held a (Multiset.mem_add.2 (.inr ha))
  busy a ha := h.busy a (Multiset.mem_add.2 (.inr ha))
  dead := h.dead
  sweeping := h.sweeping

theorem Kept.lives_of_running (h : w.Kept g) (hrun : w.Running id) : w.lives id = true := by
  by_contra hdead
  exact hrun.not_finished (.inr (h.dead (Bool.eq_false_iff.2 hdead)))

/-- Where nothing is reported and no worker comes to another phase, little has to be shown. -/
theorem Kept.changed (h : w.Kept g) (hslot : ∀ {id}, v.Active id → v.cache.slot = some id)
    (hexists : ∀ {id}, v.cache.slot = some id → v.phase? id ≠ none)
    (hphase : ∀ {id p}, w.phase? id = some p → v.phase? id = some p)
    (hsweeping : ∀ {id}, v.phase? id = some .sweeping → w.phase? id = some .sweeping)
    (hreports : v.reports = w.reports) :
    v.Kept g where
  slot := hslot
  exists_of_slot := hexists
  nodup := h.nodup
  held a ha hl := by
    unfold lives at hl
    rw [hreports] at hl
    exact hphase (h.held a ha hl)
  busy := h.busy
  dead hl := by
    unfold lives at hl
    rw [hreports] at hl
    exact hphase (h.dead hl)
  sweeping id := by
    unfold Sweeping
    rw [hreports]
    exact (h.sweeping id).trans ⟨hphase, hsweeping⟩

/-- A worker that is about nothing is not the one of a call that waits. -/
theorem Kept.not_mem (h : w.Kept g) (hphase : w.phase? id = some p) (hlives : w.lives id = true)
    (hidle : p ≠ .sweeping ∧ ∀ due, p ≠ .waiting due) : id ∉ g.map Prod.fst := by
  intro hmem
  obtain ⟨a, ha, rfl⟩ := Multiset.mem_map.1 hmem
  obtain rfl := Option.some.inj (hphase.symm.trans (h.held a ha hlives))
  rcases h.busy a ha with hs | ⟨due, hw⟩
  · exact hidle.1 hs
  · exact hidle.2 due hw

/-- A call goes on to wait in the middle of a turn. -/
theorem Kept.cons (h : w.Kept rest) (hnew : id ∉ rest.map Prod.fst) (hphase : w.phase? id = some p)
    (hbusy : p = .sweeping ∨ ∃ due, p = .waiting due) : w.Kept ({(id, p)} + rest) where
  slot := h.slot
  exists_of_slot := h.exists_of_slot
  nodup := by
    rw [Multiset.map_add, Multiset.map_singleton, Multiset.singleton_add]
    exact Multiset.nodup_cons.2 ⟨hnew, h.nodup⟩
  held a ha := by
    rcases Multiset.mem_add.1 ha with ha | ha
    · rw [Multiset.mem_singleton.1 ha]
      exact fun _ => hphase
    · exact h.held a ha
  busy a ha := by
    rcases Multiset.mem_add.1 ha with ha | ha
    · rw [Multiset.mem_singleton.1 ha]
      exact hbusy
    · exact h.busy a ha
  dead := h.dead
  sweeping := h.sweeping

/-- A call that goes on after a wait in the middle of a turn finds its worker as it left it, if that lives. -/
theorem Kept.uncons (h : w.Kept ({(id, p)} + rest)) (hlives : w.lives id = true) :
    w.phase? id = some p ∧ id ∉ rest.map Prod.fst ∧ w.Running id := by
  have hmem : (id, p) ∈ ({(id, p)} + rest : Multiset (Nat × WorkerPhase)) :=
    Multiset.mem_add.2 (.inl (Multiset.mem_singleton_self _))
  have hphase : w.phase? id = some p := h.held _ hmem hlives
  refine ⟨hphase, ?_, p, hphase, ?_⟩
  · have hn := h.nodup
    rw [Multiset.map_add, Multiset.map_singleton, Multiset.singleton_add] at hn
    exact (Multiset.nodup_cons.1 hn).1
  · have hbusy : p = .sweeping ∨ ∃ due, p = .waiting due := h.busy _ hmem
    rcases hbusy with rfl | ⟨due, rfl⟩
    all_goals exact ⟨nofun, nofun⟩

/-- A worker comes to another phase, and this is reported of it. -/
def comesTo (id : Nat) (p : WorkerPhase) (news : List Report) (w : Roster K V U) : Roster K V U :=
  { w.setPhase id p with reports := news ++ w.reports }

theorem phase?_comesTo {news : List Report} {j : Nat} :
    (w.comesTo id p news).phase? j = if j = id then (w.phase? j).map fun _ => p else w.phase? j :=
  phase?_setPhase

theorem lives_comesTo {news : List Report} {j : Nat} :
    (w.comesTo id p news).lives j = true ↔ .dies j ∉ news ∧ w.lives j = true := by
  simp [lives, comesTo]

/-- Reports of one worker say nothing of the sweeps of another. -/
theorem sweeping_comesTo {news : List Report} {j : Nat} (hnews : ∀ x ∈ news, x.id = id) (hj : j ≠ id) :
    (w.comesTo id p news).Sweeping j ↔ w.Sweeping j := by
  have hnone : news.find? (·.id = j) = none := by
    rw [List.find?_eq_none]
    intro x hx
    simp [hnews x hx, Ne.symm hj]
  unfold Sweeping comesTo
  rw [List.find?_append, hnone, Option.none_or]

theorem Kept.comesTo {news : List Report} (h : w.Kept rest) (hrun : w.Running id) (hnews : ∀ x ∈ news, x.id = id)
    (hheld : id ∈ rest.map Prod.fst → .dies id ∈ news) (hdead : .dies id ∈ news → p = .failed)
    (hsweep : (w.comesTo id p news).Sweeping id ↔ p = .sweeping) : (w.comesTo id p news).Kept rest := by
  -- everybody but this worker is as before, so a clause is shown for it and read off for the others
  have hself : (w.comesTo id p news).phase? id = some p := hrun.phase?_setPhase
  constructor
  case slot => exact fun hactive => h.slot (active_of_setPhase hrun hactive)
  case exists_of_slot =>
    intro j hj
    rw [phase?_comesTo]
    split
    · simpa using h.exists_of_slot hj
    · exact h.exists_of_slot hj
  case nodup => exact h.nodup
  case busy => exact h.busy
  case held =>
    intro a ha hl
    obtain ⟨hnone, hl⟩ := lives_comesTo.1 hl
    rw [phase?_comesTo, if_neg]
    · exact h.held a ha hl
    · -- a worker that waits in the middle of its turn only comes to another phase by its death
      rintro rfl
      exact hnone (hheld (Multiset.mem_map_of_mem _ ha))
  case dead =>
    intro j hl
    rw [Bool.eq_false_iff, ne_eq, lives_comesTo] at hl
    by_cases hj : j = id
    · subst hj
      rw [hself, hdead]
      by_contra hnone
      exact hl ⟨hnone, h.lives_of_running hrun⟩
    · rw [phase?_comesTo, if_neg hj]
      refine h.dead (Bool.eq_false_iff.2 fun hl' => hl ⟨?_, hl'⟩)
      exact fun hmem => hj (hnews _ hmem)
  case sweeping =>
    intro j
    by_cases hj : j = id
    · subst hj
      rw [hself, hsweep, Option.some_inj]
    · rw [phase?_comesTo, if_neg hj, sweeping_comesTo hnews hj]
      exact h.sweeping j

/-- A worker that has no sweep in progress and begins none comes to another phase. -/
theorem Kept.setPhase (h : w.Kept rest) (hrun : w.Running id) (hnew : id ∉ rest.map Prod.fst)
    (hbefore : w.phase? id ≠ some .sweeping) (hafter : p ≠ .sweeping) : (w.setPhase id p).Kept rest := by
  show (w.comesTo id p []).Kept rest
  refine h.comesTo hrun nofun (fun hmem => absurd hmem hnew) nofun ?_
  exact iff_of_false (fun hs => hbefore ((h.sweeping id).1 hs)) hafter

/-- A worker comes to another phase with a report. -/
theorem Kept.report {x : Report} (h : w.Kept rest) (hrun : w.Running x.id)
    (hnew : x.id ∈ rest.map Prod.fst → x = .dies x.id)
    (hdead : x = .dies x.id → p = .failed) (hsweep : x = .begins x.id ↔ p = .sweeping) :
    ((w.setPhase x.id p).report x).Kept rest := by
  show (w.comesTo x.id p [x]).Kept rest
  refine h.comesTo hrun (List.forall_mem_singleton.2 rfl) (fun hmem => ?_) (fun hmem => ?_) ?_
  · exact List.mem_singleton.2 (hnew hmem).symm
  · exact hdead (List.mem_singleton.1 hmem).symm
  · have hnow : ((w.setPhase x.id p).report x).Sweeping x.id ↔ _ := sweeping_report
    rw [if_pos rfl] at hnow
    exact hnow.trans hsweep

end Kept

end Roster

end ReplicaRouter
