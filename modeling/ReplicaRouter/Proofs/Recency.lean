import ReplicaRouter.Proofs.Chronicle
import ReplicaRouter.Proofs.Sweeping
/-
What a sweep takes out of a cache. A sweep comes to the keys that were expired when it started, one after the
other, and may be held up by every release; meanwhile anything may happen to the cache. It takes an entry out
exactly if the entry is expired and may be released at the moment the sweep comes to it, and an entry is expired
exactly if it was neither put in nor found for longer than the expiration.
Main statement: `Chronicle.sweep_of_run`.
-/
namespace ReplicaRouter

variable {K V U : Type} [DecidableEq K]

namespace Chronicle

/-! ## Uses -/

/-- When the value of a key was put in, and when it was found since then; the latest use first. -/
def uses (k : K) : List (Happening K V) → List Instant
  | [] => []
  | .put t j _ _ :: earlier => if j = k then [t] else uses k earlier
  | .made j _ :: earlier => if j = k then [] else uses k earlier
  | .computed t j (.ok _) :: earlier => if j = k then t :: uses k earlier else uses k earlier
  | .got t j (some _) :: earlier => if j = k then t :: uses k earlier else uses k earlier
  | _ :: earlier => uses k earlier

theorem uses_quiet {h : Happening K V} {history : List (Happening K V)} (k : K) (hh : h.isQuiet = true) :
    uses k (h :: history) = uses k history := by
  cases h with
  | put | made | released => cases hh
  | computed t j r =>
    cases r with
    | ok v => cases hh
    | error e => rfl
  | got t j r =>
    cases r with
    | some v => cases hh
    | none => rfl
  | _ => rfl

/-- The last access of every entry is its latest use. -/
def Timely (w : Chronicle K V U) : Prop :=
  ∀ k e, w.cache.cached? k = some e →
    e.lastAccess ∈ uses k w.history ∧ ∀ t ∈ uses k w.history, t ≤ e.lastAccess

/-- Whatever counts as one more use of a key puts its last access there. -/
theorem Timely.touch {w : Chronicle K V U} (hw : w.Timely) {t : Instant} {k : K} {history : List (Happening K V)}
    (hk : uses k history = t :: uses k w.history) (hother : ∀ j, j ≠ k → uses j history = uses j w.history) :
    Timely { w with cache := w.cache.touch k t, history } := by
  intro j e he
  rw [Cache.cached?_touch] at he
  by_cases hj : j = k
  · subst hj
    rw [if_pos rfl] at he
    obtain ⟨old, hold, rfl⟩ := Option.map_eq_some_iff.1 he
    obtain ⟨hmem, hle⟩ := hw j old hold
    show max old.lastAccess t ∈ uses j history ∧ ∀ u ∈ uses j history, u ≤ max old.lastAccess t
    rw [hk]
    constructor
    · rcases Nat.le_total old.lastAccess t with h | h
      · rw [Nat.max_eq_right h]
        exact List.mem_cons_self
      · rw [Nat.max_eq_left h]
        exact List.mem_cons_of_mem t hmem
    · intro u hu
      rcases List.mem_cons.1 hu with rfl | hu
      · exact Nat.le_max_right _ _
      · exact Nat.le_trans (hle u hu) (Nat.le_max_left _ _)
  · rw [if_neg hj] at he
    show e.lastAccess ∈ uses j history ∧ ∀ u ∈ uses j history, u ≤ e.lastAccess
    rw [hother j hj]
    exact hw j e he

/-- An insertion is the only use of what is put in. -/
theorem Timely.insert {w : Chronicle K V U} (hw : w.Timely) {t : Instant} {k : K} {v : V} {rest : U}
    {history : List (Happening K V)} (hk : uses k history = [t])
    (hother : ∀ j, j ≠ k → uses j history = uses j w.history) :
    Timely { w with cache := w.cache.insert k ⟨v, t⟩, rest, history } := by
  intro j e he
  rw [Cache.cached?_insert] at he
  by_cases hj : j = k
  · subst hj
    rw [if_pos rfl] at he
    cases he
    show t ∈ uses j history ∧ ∀ u ∈ uses j history, u ≤ t
    simp [hk]
  · rw [if_neg hj] at he
    show e.lastAccess ∈ uses j history ∧ ∀ u ∈ uses j history, u ≤ e.lastAccess
    rw [hother j hj]
    exact hw j e he

theorem Timely.move {w v : Chronicle K V U} (hw : w.Timely) (h : Move w v) : v.Timely := by
  cases h with
  | elsewhere rest => exact hw
  | @upkeep cache entries expiration =>
    intro k e he
    have hcached : cache.cached? k = w.cache.cached? k := by
      unfold Cache.cached?
      rw [entries]
    exact hw k e (hcached ▸ he)
  | noted quiet =>
    intro k e he
    have h := hw k e he
    rw [← uses_quiet k quiet] at h
    exact h
  | put t k v =>
    refine hw.insert ?_ fun j hj => ?_
    · simp [uses]
    · simp [uses, Ne.symm hj]
  | got t cached =>
    refine hw.touch ?_ fun j hj => ?_
    · simp [uses]
    · simp [uses, Ne.symm hj]
  | found t cached =>
    refine hw.touch ?_ fun j hj => ?_
    · simp [uses]
    · simp [uses, Ne.symm hj]
  | made t v rest absent =>
    refine hw.insert ?_ fun j hj => ?_
    · simp [uses, add]
    · simp [uses, add, Ne.symm hj]
  | @dropped k e cached =>
    intro j old hold
    have hold : (w.cache.erase k).cached? j = some old := hold
    rw [Cache.cached?_erase] at hold
    by_cases hj : j = k
    · rw [if_pos hj] at hold
      cases hold
    · rw [if_neg hj] at hold
      exact hw j old hold

theorem expiration_move {w v : Chronicle K V U} (h : Move w v) : v.cache.expiration = w.cache.expiration := by
  have hreplace : ∀ (c : Cache K V) (k : K) (e : Cached V), (c.replaceEntry k e).expiration = c.expiration :=
    fun _ _ _ => rfl
  have hinsert : ∀ (c : Cache K V) (k : K) (e : Cached V), (c.insert k e).expiration = c.expiration := by
    intro c k e
    unfold Cache.insert
    split <;> rfl
  have htouch : ∀ (c : Cache K V) (k : K) (t : Instant), (c.touch k t).expiration = c.expiration := by
    intro c k t
    unfold Cache.touch
    split <;> rfl
  cases h with
  | upkeep entries expiration => exact expiration
  | put t k v => exact hinsert ..
  | made t v rest absent => exact hinsert ..
  | got t cached => exact htouch ..
  | found t cached => exact htouch ..
  | _ => rfl

/-- What the moves so far leave for good: entries know their latest use, and the expiration is what it was. -/
theorem Timely.moves {w v : Chronicle K V U} (hw : w.Timely) (h : Moves w v) :
    v.Timely ∧ v.cache.expiration = w.cache.expiration := by
  induction h with
  | refl => exact ⟨hw, rfl⟩
  | tail _ hmove ih => exact ⟨ih.1.move hmove, (expiration_move hmove).trans ih.2⟩

/-! ## The way of a sweep -/

/-- A sweep comes to a key: what there is at that moment, and the entry that the sweep takes out, if it takes
one out. -/
structure Visit (K V U : Type) where
  key : K
  moment : Schedule (Chronicle K V U)
  taken : Option (Cached V)

/-- A sweep goes through keys, one visit each. After an entry was taken out its value is released, and anything
may happen until that is over. In the end it answers a number; it is not at its end while it releases a value. -/
inductive Sweeps (policy : Disposal K V U) : List K → Schedule (Chronicle K V U) → List (Visit K V U) →
    Option Nat → Schedule (Chronicle K V U) → Prop
  | done (s : Schedule (Chronicle K V U)) : Sweeps policy [] s [] (some 0) s
  | kept {k : K} {ks : List K} {s s' : Schedule (Chronicle K V U)} {visits : List (Visit K V U)} {r : Option Nat}
      (rest : Sweeps policy ks s visits r s') : Sweeps policy (k :: ks) s (⟨k, s, none⟩ :: visits) r s'
  | dropped {k : K} {ks : List K} {s m s' : Schedule (Chronicle K V U)} {e : Cached V}
      {visits : List (Visit K V U)} {r : Option Nat} (cached : s.world.cache.cached? k = some e)
      (released : (policy.keeper.releaseValue k e.value).Plays policy.Calls Elsewhere
        { s with world := cachePart.modify (·.erase k) s.world } (some ()) m)
      (rest : Sweeps policy ks m visits r s') :
      Sweeps policy (k :: ks) s (⟨k, s, some e⟩ :: visits) (r.map (· + 1)) s'
  | dropping {k : K} {ks : List K} {s s' : Schedule (Chronicle K V U)} {e : Cached V}
      (cached : s.world.cache.cached? k = some e)
      (released : (policy.keeper.releaseValue k e.value).Plays policy.Calls Elsewhere
        { s with world := cachePart.modify (·.erase k) s.world } none s') :
      Sweeps policy (k :: ks) s [⟨k, s, some e⟩] none s'

section Sweeping

variable {policy : Disposal K V U} {s s' : Schedule (Chronicle K V U)} {ks : List K} {visits : List (Visit K V U)}
  {r : Option Nat}

/-- What a sweep may take out at a moment. -/
def Due (policy : Disposal K V U) (s : Schedule (Chronicle K V U)) (k : K) (e : Cached V) : Prop :=
  s.world.cache.cached? k = some e ∧ e.isExpired s.clock s.world.cache.expiration = true ∧
    policy.mayRelease s.world.rest e.value = true

/-- What a sweep does at a key, without the time of the release. -/
def Visit.ofKeeper (x : Keeper.Visit (Chronicle K V U) K V) : Visit K V U := ⟨x.key, x.moment, x.taken⟩

theorem sweeps_ofKeeper {visits : List (Keeper.Visit (Chronicle K V U) K V)}
    (h : policy.keeper.Sweeps policy.Calls Elsewhere ks s visits r s') :
    Sweeps policy ks s (visits.map .ofKeeper) r s' := by
  induction h with
  | done s => exact .done s
  | kept _ ih => exact .kept ih
  | dropped cached released _ ih => exact .dropped cached released ih
  | dropping cached released => exact .dropping cached released

/-- At every visit a sweep takes out what is due, and nothing else. -/
theorem sweeps_of_plays (h : (policy.keeper.sweepKeys ks).Plays policy.Calls Elsewhere s r s') :
    ∃ visits, Sweeps policy ks s visits r s' ∧ ∀ x ∈ visits, ∀ e, x.taken = some e ↔ Due policy x.moment x.key e := by
  obtain ⟨visits, hsweeps, hdues⟩ := Keeper.sweeps_of_plays h
  exact ⟨visits.map .ofKeeper, sweeps_ofKeeper hsweeps, List.forall_mem_map.2 hdues⟩

/-- The number a sweep answers is the number of entries that it took out. -/
theorem Sweeps.count_eq {n : Nat} (h : Sweeps policy ks s visits r s') (hr : r = some n) :
    n = visits.countP (·.taken.isSome) := by
  induction h generalizing n with
  | done s =>
    cases hr
    rfl
  | kept rest ih => exact (ih hr).trans (by simp)
  | dropped cached released rest ih =>
    obtain ⟨n', hn', rfl⟩ := Option.map_eq_some_iff.1 hr
    rw [ih hn']
    simp
  | dropping cached released => cases hr

/-- A sweep that is at its end came to every key. -/
theorem Sweeps.exists_visit {n : Nat} (h : Sweeps policy ks s visits r s') (hr : r = some n) {k : K} (hk : k ∈ ks) :
    ∃ x ∈ visits, x.key = k := by
  have hmem : ∀ {j : K} {ks : List K} {x : Visit K V U} {visits : List (Visit K V U)}, x.key = j → k ∈ j :: ks →
      (k ∈ ks → ∃ y ∈ visits, y.key = k) → ∃ y ∈ x :: visits, y.key = k := by
    intro j ks x visits hx hk hrest
    rcases List.mem_cons.1 hk with rfl | hk
    · exact ⟨x, List.mem_cons_self, hx⟩
    · obtain ⟨y, hy, hyk⟩ := hrest hk
      exact ⟨y, List.mem_cons_of_mem x hy, hyk⟩
  induction h generalizing n with
  | done s => cases hk
  | kept rest ih => exact hmem rfl hk (ih hr)
  | dropped cached released rest ih =>
    obtain ⟨n', hn', -⟩ := Option.map_eq_some_iff.1 hr
    exact hmem rfl hk (ih hn')
  | dropping cached released => cases hr

/-- Whatever releases do meanwhile are moves, and time goes forward. -/
theorem Sweeps.moves (h : Sweeps policy ks s visits r s') (hs : s.Backs Moves Free ()) :
    ∀ x ∈ visits, Moves s.world x.moment.world ∧ s.clock ≤ x.moment.clock := by
  have hhere : Moves s.world s.world ∧ s.clock ≤ s.clock := ⟨.refl, Nat.le_refl _⟩
  induction h with
  | done s => exact nofun
  | @kept k ks s s' visits r rest ih =>
    intro x hx
    rcases List.mem_cons.1 hx with rfl | hx
    · exact hhere
    · exact ih hs hhere x hx
  | @dropped k ks s m s' e visits r cached released rest ih =>
    intro x hx
    rcases List.mem_cons.1 hx with rfl | hx
    · exact hhere
    · obtain ⟨hmoves, hm⟩ :=
        backs_of_plays hs ((sound_keeper policy).drop s.clock trivial cached) (Routine.plays_from.2 released)
      obtain ⟨hlater, hclock⟩ := ih hm ⟨.refl, Nat.le_refl _⟩ x hx
      exact ⟨hmoves.trans hlater, Nat.le_trans (Outcome.Plays.clock_le (Routine.plays_from.2 released)) hclock⟩
  | dropping cached released =>
    intro x hx
    obtain rfl := List.mem_singleton.1 hx
    exact hhere

/-- The schedule when a sweep comes to its first key. -/
def started (s : Schedule (Chronicle K V U)) : Schedule (Chronicle K V U) :=
  { s with world := cachePart.modify (·.scheduleNext s.clock) s.world }

/-- What a sweep logs in the end does not show here. -/
theorem sweep_eq (policy : Disposal K V U) :
    policy.keeper.sweep = Routine.now >>= fun t => policy.keeper.change (·.scheduleNext t) >>= fun _ =>
      policy.keeper.look >>= fun c => policy.keeper.sweepKeys (c.expiredKeys t) := by
  have hend : ∀ count : Nat, (if 0 < count then do
        Routine.log .debug s!"Cache sweep disposed {count} expired entries"
        pure count
      else pure count : Routine (Chronicle K V U) Nat) = pure count := by
    intro count
    split <;> rfl
  simp only [Keeper.sweep, hend, bind_pure]

/-- A sweep goes through the keys that are expired when it starts. -/
theorem plays_sweep (h : policy.keeper.sweep.Plays policy.Calls Elsewhere s r s') :
    (policy.keeper.sweepKeys (s.world.cache.expiredKeys s.clock)).Plays policy.Calls Elsewhere (started s) r s' := by
  rw [sweep_eq] at h
  exact Routine.plays_from.1 h

theorem mem_expiredKeys {c : Cache K V} {t : Instant} {k : K} {e : Cached V} (hk : c.cached? k = some e)
    (he : e.isExpired t c.expiration = true) : k ∈ c.expiredKeys t := by
  obtain ⟨front, back, hentries, -⟩ := List.lookup_eq_some_iff.1 hk
  refine List.mem_map.2 ⟨(k, e), List.mem_filter.2 ⟨?_, he⟩, rfl⟩
  rw [hentries]
  simp

theorem timely_of_empty {w : Chronicle K V U} (hentries : w.cache.entries = []) : w.Timely := by
  intro k e he
  unfold Cache.cached? at he
  rw [hentries] at he
  cases he

/-- Sweeps respect what was used and forget nothing. Let a sweep start at any time in a run that began with an
empty cache, and let anything go on beside it. An entry that it takes out may be released at that moment, and
more than the expiration has passed since its value was put in and since each time that it was found. In turn, an
entry for which that much has passed when the sweep starts is taken out if it is still the same when the sweep
comes to it and may be released then, and a sweep that ends has come to every such entry. It answers how many
entries it took out. Looking which keys and values there are is no use of them. -/
theorem sweep_of_run {s₀ : Schedule (Chronicle K V U)} (hentries : s₀.world.cache.entries = [])
    (hparked : s₀.parked = []) (hrun : Schedule.Run policy.Calls Elsewhere s₀ s)
    (hsweep : policy.keeper.sweep.Plays policy.Calls Elsewhere s r s') :
    ∃ visits : List (Visit K V U),
      Sweeps policy (s.world.cache.expiredKeys s.clock) (started s) visits r s' ∧
      (∀ x ∈ visits, ∀ e, x.taken = some e → x.moment.world.cache.cached? x.key = some e ∧
        policy.mayRelease x.moment.world.rest e.value = true ∧ uses x.key x.moment.world.history ≠ [] ∧
        ∀ t ∈ uses x.key x.moment.world.history, s.world.cache.expiration.nanos < x.moment.clock - t) ∧
      (∀ k e n, s.world.cache.cached? k = some e →
        (∀ t ∈ uses k s.world.history, s.world.cache.expiration.nanos < s.clock - t) → r = some n →
        ∃ x ∈ visits, x.key = k ∧ (x.moment.world.cache.cached? k = some e →
          policy.mayRelease x.moment.world.rest e.value = true → x.taken = some e)) ∧
      (∀ n, r = some n → n = visits.countP (·.taken.isSome)) ∧
      ∀ k t w, policy.work (.inspect k) t w =
        .done () (w.add (.inspected (w.cache.contains k) w.cache.keys w.cache.values)) := by
  obtain ⟨hmoves, stakes, hheld, -⟩ := backs_of_run (backs_of_parked hparked) hrun
  obtain ⟨htimely, -⟩ := (timely_of_empty hentries).moves hmoves
  obtain ⟨visits, hsweeps, hdues⟩ := sweeps_of_plays (plays_sweep hsweep)
  have hstarted : Moves s.world (started s).world := .single (.upkeep _ rfl rfl)
  have hvisits := hsweeps.moves ⟨stakes, hheld.imp fun _ _ h => h.later hstarted, trivial⟩
  refine ⟨visits, hsweeps, fun x hx e he => ?_, fun k e n hk huses hr => ?_,
    fun n => hsweeps.count_eq, fun _ _ _ => rfl⟩
  · -- taken out: it is what was due at that moment, and its time stamp is the latest use
    obtain ⟨hcached, hexpired, hmay⟩ := (hdues x hx e).1 he
    obtain ⟨hx', hexpiration⟩ := htimely.moves (hstarted.trans (hvisits x hx).1)
    obtain ⟨hlast, hle⟩ := hx' x.key e hcached
    refine ⟨hcached, hmay, List.ne_nil_of_mem hlast, fun t ht => ?_⟩
    have hlong := of_decide_eq_true hexpired
    rw [hexpiration] at hlong
    exact Nat.lt_of_lt_of_le hlong (Nat.sub_le_sub_left (hle t ht) _)
  · -- due at the start: its key is among those that the sweep visits
    have hlong := huses _ (htimely k e hk).1
    obtain ⟨x, hx, rfl⟩ := hsweeps.exists_visit hr (mem_expiredKeys hk (decide_eq_true hlong))
    refine ⟨x, hx, rfl, fun hcached hmay => (hdues x hx e).2 ⟨hcached, decide_eq_true ?_, hmay⟩⟩
    obtain ⟨hx', hclock⟩ := hvisits x hx
    rw [(htimely.moves (hstarted.trans hx')).2]
    exact Nat.lt_of_lt_of_le hlong (Nat.sub_le_sub_right hclock _)

end Sweeping

/-! ### A look-up in time -/

namespace SlowSweep

/-- Releases wait until the rest of the world is ready, and fail. -/
def policy : Disposal Nat Nat Bool where
  keyText _ := "key"
  mayRelease _ _ := true
  release v := do
    Routine.waitFor id
    return .refused (.disposal s!"cannot release {v}")

def call (e : Errand Nat Nat Bool) (s : Schedule (Chronicle Nat Nat Bool)) : Schedule (Chronicle Nat Nat Bool) :=
  s.absorb (policy.work e s.clock s.world)

def start : Schedule (Chronicle Nat Nat Bool) where
  world := { cache := .empty ⟨10⟩ ⟨100⟩ 0, rest := false }

/-- Two values are put in and not looked up for longer than the expiration. -/
def stale : Schedule (Chronicle Nat Nat Bool) :=
  { call (.put 2 20) (call (.put 1 10) start) with clock := 20 }

/-- The sweep has taken the first value out. -/
def held : Schedule (Chronicle Nat Nat Bool) :=
  { stale with
    world := add (.released 10 [(2, ⟨20, 0⟩)])
      { (started stale).world with cache := (started stale).world.cache.erase 1 } }

/-- While it is being released, the second one is looked up. -/
def touched : Schedule (Chronicle Nat Nat Bool) :=
  let s := call (.get 2) held
  { s with world := { s.world with rest := true } }

theorem run_stale : Schedule.Run policy.Calls Elsewhere start stale := by
  have hcall : ∀ e s, Schedule.Step policy.Calls Elsewhere s (call e s) := fun e s => .call ⟨e, rfl⟩
  exact .tail (.tail (.single (hcall _ _)) (hcall _ _)) (.tick (Nat.zero_le 20))

theorem plays_sweep_touched : policy.keeper.sweep.Plays policy.Calls Elsewhere stale (some 1) touched := by
  have hget : Schedule.Run policy.Calls Elsewhere held touched :=
    .tail (.single (.call ⟨.get 2, rfl⟩)) (.others ⟨true, rfl⟩)
  exact .goesOn hget (.inl rfl) (.done 1 touched.world touched)

end SlowSweep

/-- The sweep took the first value out and left the second one, which was looked up in time. -/
theorem sweep_of_slow_sweep :
    SlowSweep.touched.world.cache.entries = [(2, ⟨20, 20⟩)] ∧
      ∃ visits : List (Visit Nat Nat Bool),
        Sweeps SlowSweep.policy [1, 2] (started SlowSweep.stale) visits (some 1) SlowSweep.touched ∧
        (∃ x ∈ visits, x.key = 1 ∧ (x.moment.world.cache.cached? 1 = some ⟨10, 0⟩ → x.taken = some ⟨10, 0⟩)) ∧
        1 = visits.countP (·.taken.isSome) := by
  obtain ⟨visits, hsweeps, -, hstale, hcount, -⟩ :=
    sweep_of_run rfl rfl SlowSweep.run_stale SlowSweep.plays_sweep_touched
  obtain ⟨x, hx, hkey, htaken⟩ := hstale 1 ⟨10, 0⟩ 1 rfl (by decide) rfl
  exact ⟨rfl, visits, hsweeps, ⟨x, hx, hkey, fun h => htaken h rfl⟩, hcount 1 rfl⟩

end Chronicle

end ReplicaRouter
