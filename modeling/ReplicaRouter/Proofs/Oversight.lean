import ReplicaRouter.Proofs.Roster
/-
The workers of a cache, any number of which are started and stopped while sweeps take any time, workers die and the
cache is given up. A worker has its phase at stake while it waits in the middle of a turn.
Main statements: every call that may be made of workers keeps the roster (`Roster.paysBack_manages`), a call that stops
a worker returns when that is finished (`Roster.plays_stopWorker`), and so at most one worker is active at any time, and
none begins a sweep that was told to stop or has no cache any more (`Roster.one_on_duty`).
-/
namespace ReplicaRouter

variable {K V U α : Type}

open Roster

/-! ## What is asked of workers -/

section Work

variable [DecidableEq K] (policy : Disposal K V U)

/-- How the values of a cache with a roster are released. -/
def Disposal.overseer : Keeper (Roster K V U) K V where
  cache := Roster.cachePart
  keyText := policy.keyText
  mayRelease w := policy.mayRelease w.rest
  release v := (policy.release v).focus Roster.restPart

/-- The sweep of a worker, which it reports when it begins and ends. -/
def Disposal.sweepOf (id : Nat) : Routine (Roster K V U) Nat := do
  modify (report (.begins id))
  let count ← policy.overseer.sweep
  modify (report (.ends id))
  return count

/-- A worker goes on as long as it lives. -/
def Disposal.workOf (insists : Roster K V U → Bool) (id : Nat) : Routine (Roster K V U) Unit :=
  Routine.mortal (lives id) (policy.overseer.goOnWith insists (policy.sweepOf id) id)

/-- Workers are started and stopped, started also where none is possible, and go on. Each turn may go either way. -/
inductive Disposal.Manages (w : Roster K V U) : Routine (Roster K V U) Unit → Prop
  | start : Manages w (discard policy.overseer.startWorker)
  | startWithoutBackground : Manages w (discard policy.overseer.startWithoutBackground)
  | stop : Manages w policy.overseer.stopWorker
  | goOn (insists : Roster K V U → Bool) (id : Nat) : Manages w (policy.workOf insists id)

end Work

namespace Roster

/-! ## What sweeps and callers leave alone -/

/-- Nothing has become of workers. -/
structure Quiet (w v : Roster K V U) : Prop where
  workers : v.cache.workers = w.cache.workers
  slot : v.cache.slot = w.cache.slot
  dropped : v.cache.dropped = w.cache.dropped
  reports : v.reports = w.reports

instance : Frame (Quiet (K := K) (V := V) (U := U)) Quiet where
  refl _ := ⟨rfl, rfl, rfl, rfl⟩
  trans h h' :=
    ⟨h'.workers.trans h.workers, h'.slot.trans h.slot, h'.dropped.trans h.dropped, h'.reports.trans h.reports⟩
  bears h := h

section Quiet

variable {w v : Roster K V U} {g : Multiset (Nat × WorkerPhase)} {id : Nat}

theorem Quiet.phase? (h : w.Quiet v) (id : Nat) : v.phase? id = w.phase? id := by
  unfold Roster.phase? Cache.worker?
  rw [h.workers]

theorem Quiet.active (h : w.Quiet v) : v.Active id ↔ w.Active id := by
  unfold Active Cache.worker?
  rw [h.workers]

theorem Quiet.lives (h : w.Quiet v) (id : Nat) : v.lives id = w.lives id := by
  unfold Roster.lives
  rw [h.reports]

theorem Quiet.follows (h : w.Quiet v) : w.Follows v := by
  have hworkers : w.cache.workers.length = v.cache.workers.length := congrArg List.length h.workers.symm
  refine follows_of_eq (Nat.le_of_eq hworkers) (fun id hf => ?_) (fun hd => h.dropped.trans hd) h.reports
  unfold Finished
  rw [h.phase?]
  exact hf

theorem Kept.of_quiet (hw : w.Kept g) (h : w.Quiet v) : v.Kept g := by
  refine hw.changed (fun ha => h.slot.trans (hw.slot (h.active.1 ha))) (fun hs => ?_) (h.phase? _).trans
    (h.phase? _).symm.trans h.reports
  rw [h.phase?]
  exact hw.exists_of_slot (h.slot.symm.trans hs)

end Quiet

section Slot

variable {policy : Disposal K V U} {w : Roster K V U} {rest g : Multiset (Nat × WorkerPhase)} {id : Nat}
  {p : WorkerPhase}

/-! ## Starting -/

theorem isWorkerActive_iff (h : w.Kept g) : w.cache.isWorkerActive = true ↔ ∃ id, w.Active id := by
  unfold Cache.isWorkerActive
  constructor
  · cases hworker : w.cache.slot.bind (w.cache.worker? ·) with
    | none => simp
    | some y =>
      obtain ⟨id, -, hy⟩ := Option.bind_eq_some_iff.1 hworker
      exact fun hactive => ⟨id, y, hy, hactive⟩
  · rintro ⟨id, y, hy, hactive⟩
    have hslot : w.cache.slot = some id := h.slot ⟨y, hy, hactive⟩
    have hworker : w.cache.slot.bind (w.cache.worker? ·) = some y := by
      rw [hslot]
      exact hy
    rw [hworker]
    exact hactive

/-- A roster with one more worker, which is put into the slot. -/
def hire (w : Roster K V U) : Roster K V U :=
  { w with cache := { w.cache with workers := w.cache.workers ++ [{}], slot := some w.cache.workers.length } }

theorem worker?_hire :
    (hire w).cache.worker? id = if id = w.cache.workers.length then some {} else w.cache.worker? id := by
  unfold Cache.worker?
  show (w.cache.workers ++ [({} : Worker)])[id]? = _
  rcases Nat.lt_trichotomy id w.cache.workers.length with hlt | heq | hgt
  · rw [if_neg (by omega), List.getElem?_append_left hlt]
  · rw [if_pos heq, heq, List.getElem?_concat_length]
  · have hlate : w.cache.workers.length + 1 ≤ id := by omega
    rw [if_neg (by omega), List.getElem?_eq_none (by simpa using hlate), List.getElem?_eq_none (by omega)]

theorem active_hire : (hire w).Active w.cache.workers.length :=
  ⟨{}, worker?_hire.trans (if_pos rfl), rfl⟩

theorem phase?_hire_of_some (h : w.phase? id = some p) : (hire w).phase? id = some p := by
  have hlt : id < w.cache.workers.length := by
    by_contra hge
    unfold phase? Cache.worker? at h
    rw [List.getElem?_eq_none (Nat.le_of_not_lt hge)] at h
    cases h
  unfold phase? at h ⊢
  rwa [worker?_hire, if_neg (Nat.ne_of_lt hlt)]

theorem Kept.hire (h : w.Kept g) (hnone : ∀ id, ¬ w.Active id) : (hire w).Kept g := by
  refine h.changed (fun {id} ha => ?_) (fun {id} hs => ?_) phase?_hire_of_some (fun {id} hp => ?_) rfl
  · obtain ⟨y, hy, hactive⟩ := ha
    rw [worker?_hire] at hy
    split at hy
    · next hid => exact congrArg some hid.symm
    · exact absurd ⟨y, hy, hactive⟩ (hnone id)
  · have hid : id = w.cache.workers.length := (Option.some.inj hs).symm
    unfold phase?
    rw [worker?_hire, if_pos hid]
    simp
  · unfold phase? at hp ⊢
    rw [worker?_hire] at hp
    split at hp
    · cases hp
    · exact hp

theorem follows_hire : w.Follows (hire w) := by
  refine follows_of_eq ?_ (fun id hf => hf.imp phase?_hire_of_some phase?_hire_of_some) (fun hd => hd) rfl
  unfold hire
  simp

/-- Starting is done at once: a worker is put in charge where none is active. -/
theorem startWorker_apply (now : Instant) (w : Roster K V U) :
    policy.overseer.startWorker now w =
      if w.cache.isWorkerActive = true then .done false w else .done true (hire w) := by
  show (if w.cache.isWorkerActive = true then pure false else _ : Routine (Roster K V U) Bool) now w = _
  split
  · rfl
  · rfl

theorem startWithoutBackground_apply (now : Instant) (w : Roster K V U) :
    policy.overseer.startWithoutBackground now w = .done false w := by
  show (if w.cache.isWorkerActive = true then pure false else _ : Routine (Roster K V U) Bool) now w = _
  split
  · rfl
  · rfl

theorem paysBack_startWorker (h : w.Kept rest) :
    policy.overseer.startWorker.PaysBack Follows Kept w rest := by
  intro now
  rw [startWorker_apply]
  split
  · exact Routine.paysBack_pure h now
  · next hinactive =>
    have hnone : ∀ id, ¬ w.Active id := fun id ha => hinactive ((isWorkerActive_iff h).2 ⟨id, ha⟩)
    exact Outcome.Accounts.since follows_hire (Routine.paysBack_pure (a := true) (h.hire hnone) now)

theorem paysBack_startWithoutBackground (h : w.Kept rest) :
    policy.overseer.startWithoutBackground.PaysBack Follows Kept w rest := by
  intro now
  rw [startWithoutBackground_apply]
  exact Routine.paysBack_pure h now

/-! ## Stopping -/

/-- A roster without the worker in the slot, which is told to stop. -/
def dismiss (id : Nat) (w : Roster K V U) : Roster K V U :=
  { w with cache := { w.cache with slot := none }.modifyWorker id fun y => { y with cancelled := true } }

theorem phase?_dismiss {j : Nat} : (w.dismiss id).phase? j = w.phase? j := by
  have hphase : (w.dismiss id).phase? j = if j = id then (w.phase? j).map fun q => q else w.phase? j :=
    phase?_modifyWorker { w with cache := { w.cache with slot := none } } (fun _ => rfl) rfl
  rw [hphase, Option.map_id', ite_self]

theorem active_of_dismiss {j : Nat} (h : (w.dismiss id).Active j) : w.Active j ∧ j ≠ id := by
  obtain ⟨y, hy, hactive⟩ := h
  unfold dismiss Cache.modifyWorker Cache.worker? at hy
  rw [List.getElem?_modify] at hy
  obtain ⟨z, hz, rfl⟩ := Option.map_eq_some_iff.1 hy
  by_cases hj : id = j
  · rw [if_pos hj] at hactive
    cases hactive
  · rw [if_neg hj] at hactive
    exact ⟨⟨z, hz, hactive⟩, Ne.symm hj⟩

theorem Kept.dismiss (h : w.Kept g) (hslot : w.cache.slot = some id) : (w.dismiss id).Kept g := by
  refine h.changed (fun {j} ha => ?_) (fun {j} hs => ?_) phase?_dismiss.trans phase?_dismiss.symm.trans rfl
  · obtain ⟨hactive, hj⟩ := active_of_dismiss ha
    exact absurd (Option.some.inj ((h.slot hactive).symm.trans hslot)) hj
  · cases hs

theorem follows_dismiss : w.Follows (w.dismiss id) := by
  have hworkers : w.cache.workers.length = (w.dismiss id).cache.workers.length := (List.length_modify ..).symm
  refine follows_of_eq (Nat.le_of_eq hworkers) (fun j hf => ?_) (fun hd => hd) rfl
  exact hf.imp phase?_dismiss.trans phase?_dismiss.trans

/-- The worker in the slot is told to stop and waited for. -/
theorem stopWorker_apply (hslot : w.cache.slot = some id) (now : Instant) :
    policy.overseer.stopWorker now w =
      Routine.waitFor (fun v => (v.cache.worker? id).all Worker.isFinished) now (w.dismiss id) := by
  have hlook : (policy.overseer.cache.get w).slot = some id := hslot
  unfold Keeper.stopWorker
  rw [Keeper.look_bind_apply, hlook]
  refine congrFun (congrFun (Routine.bind_of_done fun _ t v => ?_) now) (w.dismiss id)
  -- what is logged in the end leaves the roster as it is
  rw [Keeper.look_bind_apply]
  rcases (policy.overseer.cache.get v).worker? id with _ | ⟨cancelled, phase⟩
  · rfl
  · cases phase <;> rfl

theorem paysBack_stopWorker (h : w.Kept rest) :
    policy.overseer.stopWorker.PaysBack Follows Kept w rest := by
  intro now
  cases hslot : w.cache.slot with
  | none =>
    have hlook : (policy.overseer.cache.get w).slot = none := hslot
    unfold Keeper.stopWorker
    rw [Keeper.look_bind_apply, hlook]
    exact Routine.paysBack_pure h now
  | some id =>
    rw [stopWorker_apply hslot]
    exact Outcome.Accounts.since follows_dismiss ((Routine.paysBack_wait _ _ (h.dismiss hslot)).discard now)

/-- When a call that stops a worker returns, the worker is finished. -/
theorem plays_stopWorker {calls : Roster K V U → Routine (Roster K V U) Unit → Prop}
    {others : Roster K V U → Roster K V U → Prop} {s s' : Schedule (Roster K V U)}
    (hslot : s.world.cache.slot = some id)
    (h : policy.overseer.stopWorker.Plays calls others s (some ()) s') :
    Schedule.Run calls others { s with world := s.world.dismiss id } s' ∧
      (s'.world.cache.worker? id).all Worker.isFinished = true := by
  rw [Routine.Plays, stopWorker_apply hslot] at h
  exact Routine.plays_waitFor (Routine.plays_from.1 h)

end Slot

/-! ## Turns -/

/-- What keeps a roster and the life of one worker. -/
abbrev KeptAlive (id : Nat) (w : Roster K V U) (g : Multiset (Nat × WorkerPhase)) : Prop := w.Kept g ∧ w.lives id = true

section Turns

variable {policy : Disposal K V U} {insists : Roster K V U → Bool} {w : Roster K V U}
  {own rest g : Multiset (Nat × WorkerPhase)} {id : Nat} {p : WorkerPhase}

/-- Where a worker does not stop, the cache is not given up. -/
theorem not_givenUp_of_not_stops {due now : Instant} {cancelled : Bool} (h : w.Kept g)
    (hstops : ¬ policy.overseer.stops insists due now cancelled w = true) : ¬ w.GivenUp := by
  rintro ⟨hdropped, hnone⟩
  have hswept : w.cache.isSwept = true := by
    unfold Keeper.stops at hstops
    rw [show policy.overseer.cache.get w = w.cache from rfl, hdropped] at hstops
    cases hs : w.cache.isSwept with
    | true => rfl
    | false => simp [hs] at hstops
  -- some worker sweeps the cache, and so has a sweep in progress by the reports
  obtain ⟨x, hx, hphase⟩ := List.any_eq_true.1 hswept
  obtain ⟨j, hj⟩ := List.getElem?_of_mem hx
  refine hnone j ((h.sweeping j).2 ?_)
  unfold phase? Cache.worker?
  rw [hj]
  exact congrArg some (eq_of_beq hphase)

/-- A worker that has no sweep in progress comes to its end. -/
theorem paysBack_setPhase (h : KeptAlive id w rest) (hrun : w.Running id) (hnew : id ∉ rest.map Prod.fst)
    (hbefore : w.phase? id ≠ some .sweeping) (hafter : p ≠ .sweeping) :
    (policy.overseer.change (·.setPhase id p)).PaysBack Follows (KeptAlive id) w rest := by
  exact Routine.paysBack_modify ⟨follows_setPhase hrun, h.1.setPhase hrun hnew hbefore hafter, h.2⟩

variable [DecidableEq K]

/-- A sweep leaves workers alone, whatever the releases do. -/
theorem discreet_overseer (policy : Disposal K V U) : policy.overseer.Discreet Follows Quiet where
  log _ _ w := Frame.refl Quiet w
  erase _ _ := ⟨rfl, rfl, rfl, rfl⟩
  schedule _ _ := ⟨rfl, rfl, rfl, rfl⟩
  release v := Routine.calm_focus (fun _ _ _ => ⟨rfl, rfl, rfl, rfl⟩) (fun _ _ _ _ => trivial) fun u =>
    Routine.abides_of_forall (fun _ _ => trivial) (policy.release v) (fun _ _ => trivial) u

theorem accounts_sweep (h : KeptAlive id w (own + rest)) :
    policy.overseer.sweep.Accounts Follows (KeptAlive id) w rest fun _ own' _ => own' = own := by
  refine Routine.Calm.accounts (discreet_overseer policy).calm_sweep (fun u v g hquiet hu => ?_) h
  exact ⟨hquiet.follows, hu.1.of_quiet hquiet, (hquiet.lives id).trans hu.2⟩

/-- A worker that does not stop reports that it begins a sweep, sweeps, and reports that it has ended the sweep. -/
theorem paysBack_sweepOf (h : KeptAlive id w rest) (hrun : w.Running id) (hnew : id ∉ rest.map Prod.fst)
    (hnot : ¬ w.GivenUp) (next : Instant) :
    Routine.PaysBack Follows (KeptAlive id) (do
      policy.overseer.change (·.setPhase id .sweeping)
      let _ ← policy.sweepOf id
      policy.overseer.change (·.setPhase id (.resting next))) w rest := by
  have hlives : ∀ {v : Roster K V U} {x : Report}, x ≠ .dies id → v.lives id = true → (v.report x).lives id = true := by
    intro v x hx hv
    simpa [lives, report, Ne.symm hx] using hv
  have hbegins : Follows (w.setPhase id .sweeping) ((w.setPhase id .sweeping).report (.begins id)) := by
    have hsweeping : (w.setPhase id .sweeping).Running id := ⟨.sweeping, hrun.phase?_setPhase, by decide, by decide⟩
    exact follows_report hsweeping.not_finished fun hg => absurd hg hnot
  have hkept : ((w.setPhase id .sweeping).report (.begins id)).Kept rest :=
    h.1.report (x := .begins id) hrun (fun hmem => absurd hmem hnew) (by simp) (iff_of_true rfl rfl)
  have hbusy : KeptAlive id ((w.setPhase id .sweeping).report (.begins id)) ({(id, .sweeping)} + rest) :=
    ⟨hkept.cons hnew hrun.phase?_setPhase (.inl rfl), hlives (by simp) h.2⟩
  unfold Disposal.sweepOf
  simp only [bind_assoc, pure_bind]
  -- between the change of phase and its report the roster is not kept, but nobody else sees that
  refine Routine.accounts_modify_bind (follows_setPhase hrun) (Routine.accounts_modify_bind hbegins ?_)
  refine Routine.accounts_bind (accounts_sweep hbusy) ?_
  rintro _ _ v rest rfl hv
  obtain ⟨-, hnew, hrun⟩ := hv.1.uncons hv.2
  have hends : KeptAlive id ((v.setPhase id (.resting next)).report (.ends id)) rest :=
    ⟨hv.1.less.report (x := .ends id) hrun (fun hmem => absurd hmem hnew) (by simp) (by simp), hlives (by simp) hv.2⟩
  refine Routine.accounts_modify_bind (follows_report hrun.not_finished (by simp)) ?_
  exact Routine.paysBack_modify ⟨follows_setPhase hrun, hends⟩

/-- In its turn a worker waits, and stops or sweeps. -/
theorem paysBack_turnWith (h : KeptAlive id w rest) (hphase : w.phase? id = some p)
    (hidle : p = .fresh ∨ ∃ due, p = .resting due) (due : Instant) :
    (policy.overseer.turnWith insists (policy.sweepOf id) id due).PaysBack Follows (KeptAlive id) w rest := by
  have hrun : w.Running id := by
    rcases hidle with rfl | ⟨due, rfl⟩
    all_goals exact ⟨_, hphase, by simp, by simp⟩
  have hbusy : p ≠ .sweeping ∧ ∀ due, p ≠ .waiting due := by
    rcases hidle with rfl | ⟨due, rfl⟩
    all_goals simp
  have hnew : id ∉ rest.map Prod.fst := h.1.not_mem hphase h.2 hbusy
  have hbefore : w.phase? id ≠ some .sweeping := by
    rw [hphase]
    exact fun hp => hbusy.1 (Option.some.inj hp)
  have hkept : (w.setPhase id (.waiting due)).Kept rest := h.1.setPhase hrun hnew hbefore WorkerPhase.noConfusion
  have hwaiting : KeptAlive id (w.setPhase id (.waiting due)) ({(id, .waiting due)} + rest) :=
    ⟨hkept.cons hnew hrun.phase?_setPhase (.inr ⟨due, rfl⟩), h.2⟩
  refine Routine.accounts_modify_bind (follows_setPhase hrun)
    (Routine.accounts_bind (Routine.accounts_wait _ _ hwaiting) ?_)
  -- after the wait the worker still lives, and nobody but this call has changed its phase
  rintro cancelled own v rest ⟨rfl, -⟩ hv
  obtain ⟨hphase, hnew, hrun⟩ := hv.1.uncons hv.2
  have hv' : KeptAlive id v rest := ⟨hv.1.less, hv.2⟩
  refine Routine.accounts_get_bind (Routine.accounts_now_bind fun now => ?_)
  split
  · have hwaits : v.phase? id ≠ some .sweeping := by
      simp [hphase]
    refine (paysBack_setPhase hv' hrun hnew hwaits (by decide)).bind fun _ u rest hu => ?_
    exact Routine.paysBack_modify ⟨Follows.refl u, hu⟩
  · next hstops => exact paysBack_sweepOf hv' hrun hnew (not_givenUp_of_not_stops hv.1 hstops) _

/-- A worker that lives leaves nothing at stake. -/
theorem paysBack_goOnWith (h : KeptAlive id w rest) :
    (policy.overseer.goOnWith insists (policy.sweepOf id) id).PaysBack Follows (KeptAlive id) w rest := by
  have hphase : ∀ {y : Worker}, w.cache.worker? id = some y → w.phase? id = some y.phase := by
    intro y hy
    rw [phase?, hy]
    rfl
  refine Routine.accounts_get_bind ?_
  show (policy.overseer.goOnFrom insists (policy.sweepOf id) id w.cache).PaysBack Follows (KeptAlive id) w rest
  unfold Keeper.goOnFrom
  split
  · next hw =>
    have hfresh := hphase hw
    split
    · have hrun : w.Running id := ⟨_, hfresh, by simp, by simp⟩
      have hbefore : w.phase? id ≠ some .sweeping := by simp [hfresh]
      exact paysBack_setPhase h hrun (h.1.not_mem hfresh h.2 (by simp)) hbefore (by decide)
    · exact Routine.accounts_now_bind fun now => paysBack_turnWith h hfresh (.inl rfl) _
  · next due hw => exact paysBack_turnWith h (hphase hw) (.inr ⟨due, rfl⟩) _
  · exact Routine.paysBack_pure h

/-- So does one that goes on as long as it lives, and one that is dead already. -/
theorem paysBack_workOf (h : w.Kept rest) :
    (policy.workOf insists id).PaysBack Follows Kept w rest := by
  intro now
  by_cases hlives : w.lives id = true
  · exact Outcome.Accounts.mortal (fun _ _ _ => Kept.less) (paysBack_goOnWith ⟨h, hlives⟩ now)
  · obtain ⟨y, hy, hfailed⟩ := Option.map_eq_some_iff.1 (h.dead (Bool.eq_false_iff.2 hlives))
    -- a dead worker has failed, so there is no turn for it to begin
    obtain ⟨cancelled, phase⟩ := y
    obtain rfl : phase = .failed := hfailed
    have hidle : policy.overseer.goOnWith insists (policy.sweepOf id) id now w = .done () w := by
      show policy.overseer.goOnFrom insists (policy.sweepOf id) id w.cache now w = .done () w
      unfold Keeper.goOnFrom
      rw [hy]
      rfl
    unfold Disposal.workOf Routine.mortal
    rw [hidle]
    exact Routine.paysBack_pure h now

/-! ## Whatever happens -/

/-- Every call that may be made of workers leaves nothing at stake. -/
theorem paysBack_manages {x : Routine (Roster K V U) Unit} (hx : policy.Manages w x) (h : w.Kept rest) :
    x.PaysBack Follows Kept w rest := by
  cases hx with
  | start => exact (paysBack_startWorker h).discard
  | startWithoutBackground => exact (paysBack_startWithoutBackground h).discard
  | stop => exact paysBack_stopWorker h
  | goOn insists id => exact paysBack_workOf h

omit [DecidableEq K] in
/-- So do callers, the owner and death. -/
theorem bears_elsewhere {v : Roster K V U} (hchange : Elsewhere w v) (h : w.Kept rest) : w.Follows v ∧ v.Kept rest := by
  cases hchange with
  | callers rest' entries nextCleanup =>
    have hquiet : w.Quiet { w with rest := rest', cache := { w.cache with entries, nextCleanup } } :=
      ⟨rfl, rfl, rfl, rfl⟩
    exact ⟨hquiet.follows, h.of_quiet hquiet⟩
  | drop =>
    have hfollows : w.Follows { w with cache := { w.cache with dropped := true } } :=
      follows_of_eq (Nat.le_refl _) (fun _ hf => hf) (fun _ => rfl) rfl
    exact ⟨hfollows, h.changed h.slot h.exists_of_slot (fun hp => hp) (fun hp => hp) rfl⟩
  | @death id running =>
    -- what is reported of a worker has to come before it is finished
    have hreports : w.Follows (w.report (.dies id)) := follows_report running.not_finished (by simp)
    have hdies : (w.report (.dies id)).Follows ((w.report (.dies id)).setPhase id .failed) := follows_setPhase running
    exact ⟨hreports.trans hdies, h.report (x := .dies id) running (fun _ => rfl) (fun _ => rfl) (by simp)⟩

theorem backs_of_run {s s' : Schedule (Roster K V U)} (hs : s.Backs Follows Kept 0)
    (hrun : Schedule.Run policy.Manages Elsewhere s s') : s.world.Follows s'.world ∧ s'.Backs Follows Kept 0 :=
  hs.run (fun _ _ _ => paysBack_manages) (fun _ _ _ => bears_elsewhere) hrun

omit [DecidableEq K] in
theorem Kept.of_backs {s : Schedule (Roster K V U)} (hs : s.Backs Follows Kept 0) : ∃ g, s.world.Kept g := by
  obtain ⟨stakes, -, hkept⟩ := hs
  exact ⟨_, hkept⟩

omit [DecidableEq K] in
theorem kept_of_empty {expiration interval : Duration} {opened : Instant}
    (hcache : w.cache = .empty expiration interval opened) (hreports : w.reports = []) : w.Kept 0 := by
  have hphase : ∀ id, w.phase? id = none := by
    intro id
    rw [phase?, hcache]
    rfl
  have hlives : ∀ id, w.lives id = true := by
    intro id
    rw [lives, hreports]
    rfl
  constructor
  case slot =>
    rintro id ⟨y, hy, -⟩
    rw [hcache] at hy
    cases hy
  case exists_of_slot =>
    intro id hs
    rw [hcache] at hs
    cases hs
  case nodup => exact Multiset.nodup_zero
  case held => simp
  case busy => simp
  case dead =>
    intro id hdead
    rw [hlives] at hdead
    cases hdead
  case sweeping =>
    intro id
    unfold Sweeping
    simp [hphase, hreports]

omit [DecidableEq K] in
/-- A worker for which a call that stops it has waited is finished from then on. -/
theorem Follows.finished_of_stop {v : Roster K V U} (h : w.Follows v) (hthere : w.phase? id ≠ none)
    (hfinished : (v.cache.worker? id).all Worker.isFinished = true) : v.Finished id := by
  have hlt : id < v.cache.workers.length := by
    by_contra hge
    have hnone : w.cache.workers[id]? = none :=
      List.getElem?_eq_none (Nat.le_trans h.workers (Nat.le_of_not_lt hge))
    exact hthere (congrArg (Option.map Worker.phase) hnone)
  have hworker : v.cache.worker? id = some v.cache.workers[id] := List.getElem?_eq_getElem hlt
  rw [hworker] at hfinished
  unfold Finished phase?
  rw [hworker]
  simpa [Worker.isFinished] using hfinished

/-- At any time at most one worker is active; starting one succeeds exactly if none is, and leaves one active in either
case. A worker that was told to stop has no sweep in progress and begins none once the call that told it returns. Once
the cache is given up, no worker begins a sweep. -/
theorem one_on_duty {expiration interval : Duration} {opened : Instant} {s₀ s : Schedule (Roster K V U)}
    (hcache : s₀.world.cache = .empty expiration interval opened) (hreports : s₀.world.reports = [])
    (hparked : s₀.parked = []) (hrun : Schedule.Run policy.Manages Elsewhere s₀ s) :
    (∀ i j, s.world.Active i → s.world.Active j → i = j) ∧
      (∃ started v, policy.overseer.startWorker s.clock s.world = .done started v ∧
        (started = true ↔ ∀ id, ¬ s.world.Active id) ∧ ∃ id, v.Active id) ∧
      (∀ id m s', s.world.cache.slot = some id →
        policy.overseer.stopWorker.Plays policy.Manages Elsewhere s (some ()) m →
        Schedule.Run policy.Manages Elsewhere m s' →
          ¬ s'.world.Sweeping id ∧ ∃ news, s'.world.reports = news ++ m.world.reports ∧ .begins id ∉ news) ∧
      ∀ s', s.world.GivenUp → Schedule.Run policy.Manages Elsewhere s s' →
        ∃ news, s'.world.reports = news ++ s.world.reports ∧ ∀ id, .begins id ∉ news := by
  -- the roster of an empty cache is in order, and every run keeps it so
  have hbegin : s₀.Backs Follows Kept 0 := by
    refine ⟨[], ?_, ?_⟩
    · rw [hparked]
      exact .nil
    · simpa using kept_of_empty hcache hreports
  obtain ⟨-, hs⟩ := backs_of_run hbegin hrun
  obtain ⟨g, hkept⟩ := Kept.of_backs hs
  refine ⟨fun i j hi hj => ?_, ?_, fun id m s' hslot hstop hafter => ?_, fun s' hgiven hafter => ?_⟩
  · exact Option.some.inj ((hkept.slot hi).symm.trans (hkept.slot hj))
  · rw [startWorker_apply, ← not_exists, ← isWorkerActive_iff hkept]
    split
    · next hactive =>
      exact ⟨_, _, rfl, iff_of_false Bool.false_ne_true (not_not_intro hactive), (isWorkerActive_iff hkept).1 hactive⟩
    · next hinactive => exact ⟨_, _, rfl, iff_of_true rfl hinactive, _, active_hire⟩
  · -- the worker is finished when the call returns, and stays so
    obtain ⟨hwait, hready⟩ := plays_stopWorker hslot hstop
    have hdismissed : Schedule.Backs Follows Kept 0 { s with world := s.world.dismiss id } := by
      obtain ⟨stakes, hheld, hinv⟩ := hs
      exact ⟨stakes, hheld.imp fun _ _ h => h.later follows_dismiss, hinv.dismiss hslot⟩
    obtain ⟨hmeanwhile, hm⟩ := backs_of_run hdismissed hwait
    obtain ⟨hlater, hs'⟩ := backs_of_run hm hafter
    obtain ⟨g', hkept'⟩ := Kept.of_backs hs'
    have hfinished : m.world.Finished id := by
      refine hmeanwhile.finished_of_stop ?_ hready
      exact fun hnone => hkept.exists_of_slot hslot (phase?_dismiss.symm.trans hnone)
    obtain ⟨news, hnews, hquiet, -⟩ := hlater.reports
    refine ⟨fun hsweeping => ?_, news, hnews, fun hmem => hquiet _ hmem hfinished⟩
    have hrunning : s'.world.Running id := ⟨_, (hkept'.sweeping id).1 hsweeping, by decide, by decide⟩
    exact hrunning.not_finished (hlater.finished hfinished)
  · obtain ⟨hlater, -⟩ := backs_of_run hs hafter
    obtain ⟨news, hnews, -, hnone⟩ := hlater.reports
    exact ⟨news, hnews, hnone hgiven⟩

end Turns

/-! ### One worker after the other -/

namespace Shift

def policy : Disposal Nat Nat Bool := .slow .released

abbrev Runs : Schedule (Roster Nat Nat Bool) → Schedule (Roster Nat Nat Bool) → Prop :=
  Schedule.Run policy.Manages Elsewhere

def call (x : Routine (Roster Nat Nat Bool) Unit) (s : Schedule (Roster Nat Nat Bool)) :
    Schedule (Roster Nat Nat Bool) :=
  s.absorb (x s.clock s.world)

def work (id : Nat) : Routine (Roster Nat Nat Bool) Unit := policy.workOf (fun _ => false) id

/-- Whether values can be released, and the entries. -/
def fill (rest : Bool) (entries : List (Nat × Cached Nat)) (s : Schedule (Roster Nat Nat Bool)) :
    Schedule (Roster Nat Nat Bool) :=
  { s with world := { s.world with rest, cache := { s.world.cache with entries } } }

def start : Schedule (Roster Nat Nat Bool) where
  world := { cache := .empty ⟨10⟩ ⟨100⟩ 0, rest := false }

/-- A worker has begun a sweep, which is held up by the release of an old value. -/
def held : Schedule (Roster Nat Nat Bool) :=
  let s := call (work 0) (fill false [(1, ⟨10, 0⟩)] (call (discard policy.overseer.startWorker) start))
  { s with clock := 100 }.wake

/-- The worker is told to stop. While this waits another one is started, the value is released, and the first worker
ends. -/
def relieved : Schedule (Roster Nat Nat Bool) :=
  let s := call (discard policy.overseer.startWorker) { held with world := held.world.dismiss 0 }
  call (work 0) (fill true [] s).wake

/-- The other worker makes a sweep. -/
def swept : Schedule (Roster Nat Nat Bool) :=
  { call (work 1) relieved with clock := 200 }.wake

/-- The first worker is not told to stop, ends its sweep, and the cache is given up. -/
def left : Schedule (Roster Nat Nat Bool) :=
  let s := (fill true [] held).wake
  { s with world := { s.world with cache := { s.world.cache with dropped := true } } }

/-- The worker is due once more. -/
def due : Schedule (Roster Nat Nat Bool) :=
  { call (work 0) left with clock := 200 }.wake

theorem step_hire (s : Schedule (Roster Nat Nat Bool)) :
    Schedule.Step policy.Manages Elsewhere s (call (discard policy.overseer.startWorker) s) :=
  .call .start

theorem step_work (id : Nat) (s : Schedule (Roster Nat Nat Bool)) :
    Schedule.Step policy.Manages Elsewhere s (call (work id) s) :=
  .call (.goOn _ id)

theorem step_fill (rest : Bool) (entries : List (Nat × Cached Nat)) (s : Schedule (Roster Nat Nat Bool)) :
    Schedule.Step policy.Manages Elsewhere s (fill rest entries s) :=
  .others (.callers s.world rest entries s.world.cache.nextCleanup)

theorem runs_held : Runs start held := by
  have hturn : Runs start _ :=
    .tail (.tail (.single (step_hire start)) (step_fill false [(1, ⟨10, 0⟩)] _)) (step_work 0 _)
  exact .tail (.tail hturn (.tick (Nat.zero_le 100))) (.wake rfl)

theorem plays_relieved :
    policy.overseer.stopWorker.Plays policy.Manages Elsewhere held (some ()) relieved := by
  have hmeanwhile : Runs { held with world := held.world.dismiss 0 } relieved :=
    .tail (.tail (.tail (.single (step_hire _)) (step_fill true [] _)) (.wake rfl)) (step_work 0 _)
  exact .goesOn hmeanwhile (.inl rfl) (.done ..)

theorem runs_swept : Runs relieved swept :=
  .tail (.tail (.single (step_work 1 relieved)) (.tick (show 100 ≤ 200 by decide))) (.wake rfl)

theorem runs_left : Runs held left :=
  .tail (.tail (.single (step_fill true [] held)) (.wake rfl)) (.others (.drop _))

theorem runs_due : Runs left due :=
  .tail (.tail (.single (step_work 0 left)) (.tick (show 100 ≤ 200 by decide))) (.wake rfl)

end Shift

open Shift in
/-- The worker that is told to stop in the middle of its sweep ends that one and begins no other, and nor does a worker
that is due when the cache is given up. -/
theorem one_on_duty_of_shift :
    (held.world.Sweeping 0 ∧ ∀ j, held.world.Active j → j = 0) ∧ (relieved.world.Active 1 ∧ ¬ swept.world.Sweeping 0) ∧
      (∃ news, swept.world.reports = news ++ relieved.world.reports ∧ .begins 0 ∉ news) ∧
      swept.world.reports = [.ends 1, .begins 1, .ends 0, .begins 0] ∧
      (∃ news, due.world.reports = news ++ left.world.reports ∧ ∀ id, .begins id ∉ news) ∧
      due.world.phase? 0 = some .ended := by
  obtain ⟨hone, -, hstop, -⟩ := one_on_duty rfl rfl rfl runs_held
  obtain ⟨-, -, -, hgiven⟩ := one_on_duty rfl rfl rfl (runs_held.trans runs_left)
  have hactive : held.world.Active 0 := ⟨_, rfl, rfl⟩
  have hleft : left.world.GivenUp := by
    refine ⟨rfl, fun id hsweeping => ?_⟩
    have hlast : [Report.ends 0, .begins 0].find? (·.id = id) = some (.begins id) := hsweeping
    by_cases hid : id = 0
    · subst hid
      cases hlast
    · simp [Report.id, Ne.symm hid] at hlast
  obtain ⟨hquiet, hnews⟩ := hstop 0 relieved swept rfl plays_relieved runs_swept
  exact ⟨⟨rfl, fun j hj => hone j 0 hj hactive⟩, ⟨⟨_, rfl, rfl⟩, hquiet⟩, hnews, rfl, hgiven due hleft runs_due, rfl⟩

end Roster

end ReplicaRouter
