import Mathlib.Algebra.Order.Group.Multiset
import Mathlib.Tactic.Abel
import ReplicaRouter.Proofs.Chronicle
/-
No value of a cache is lost, and none is released twice. Every value that was ever put in is mapped, was handed
back by the `put` that replaced it, or was passed on to be released: at any time the three make up all that was
put in, each occurrence once. At the moment a value is passed on it is not mapped any more, and how its release
ends does not matter to anything else.
Main statement: `Chronicle.conserved_of_run`.
-/
namespace ReplicaRouter

variable {K V U α β : Type}

/-! ## Entries as pairs -/

namespace Cache

/-- The keys with their values. -/
def pairsOf (entries : List (K × Cached V)) : Multiset (K × V) :=
  (entries.map fun entry => (entry.1, entry.2.value) : List (K × V))

@[simp] theorem pairsOf_nil : pairsOf ([] : List (K × Cached V)) = 0 := rfl

@[simp] theorem pairsOf_cons (entry : K × Cached V) (entries : List (K × Cached V)) :
    pairsOf (entry :: entries) = (entry.1, entry.2.value) ::ₘ pairsOf entries := rfl

theorem pairsOf_perm {entries entries' : List (K × Cached V)} (h : entries.Perm entries') :
    pairsOf entries = pairsOf entries' := Multiset.coe_eq_coe.2 (h.map _)

variable [DecidableEq K] {c : Cache K V} {k : K} {e : Cached V}

theorem perm_cons_filter {l : List (K × Cached V)} (hl : (l.map Prod.fst).Nodup) (h : l.lookup k = some e) :
    l.Perm ((k, e) :: l.filter fun entry => entry.1 ≠ k) := by
  induction l with
  | nil => cases h
  | cons entry rest ih =>
    obtain ⟨i, b⟩ := entry
    obtain ⟨hi, hrest⟩ := List.nodup_cons.1 hl
    by_cases hk : k = i
    · subst hk
      have hb : b = e := by simpa using h
      have hall : ∀ x ∈ rest, decide (x.1 ≠ k) = true := fun x hx =>
        decide_eq_true fun hxk => hi (hxk ▸ List.mem_map.2 ⟨x, hx, rfl⟩)
      rw [List.filter_cons_of_neg (by simp), List.filter_eq_self.2 hall, hb]
    · have hkb : (k == i) = false := by simp [hk]
      rw [List.lookup_cons, hkb] at h
      rw [List.filter_cons_of_pos (by simpa using Ne.symm hk)]
      exact ((ih hrest h).cons _).trans (.swap ..)

theorem keys_replaceEntry : (c.replaceEntry k e).keys = c.keys := by
  unfold keys replaceEntry
  rw [List.map_map]
  refine List.map_congr_left fun ⟨i, b⟩ _ => ?_
  by_cases h : i = k <;> simp [h]

theorem notMem_keys (h : c.cached? k = none) : k ∉ c.keys := by
  intro hk
  obtain ⟨entry, he, rfl⟩ := List.mem_map.1 hk
  have hne := List.lookup_eq_none_iff.1 h entry he
  simp at hne

/-- A key has one entry at most, and all others stay when it is erased. -/
theorem pairsOf_cached (hc : c.keys.Nodup) (h : c.cached? k = some e) :
    pairsOf c.entries = (k, e.value) ::ₘ pairsOf (c.erase k).entries :=
  pairsOf_perm (perm_cons_filter hc h)

theorem erase_of_not_cached (h : c.cached? k = none) : (c.erase k).entries = c.entries :=
  List.filter_eq_self.2 fun entry he => decide_eq_true fun hk => notMem_keys h (hk ▸ List.mem_map.2 ⟨entry, he, rfl⟩)

theorem pairsOf_replaceEntry {old : Cached V} (hc : c.keys.Nodup) (h : c.cached? k = some old) :
    pairsOf (c.replaceEntry k e).entries = (k, e.value) ::ₘ pairsOf (c.erase k).entries := by
  have hperm := (perm_cons_filter hc h).map fun entry => if entry.1 = k then (k, e) else entry
  rw [List.map_cons, if_pos rfl] at hperm
  refine (pairsOf_perm hperm).trans ?_
  rw [pairsOf_cons, List.map_congr_left (g := id), List.map_id]
  · rfl
  · intro entry he
    exact if_neg (by simpa using (List.mem_filter.1 he).2)

/-- An insertion puts its pair in place of the one that was there. -/
theorem pairsOf_insert (hc : c.keys.Nodup) :
    pairsOf (c.insert k e).entries = (k, e.value) ::ₘ pairsOf (c.erase k).entries := by
  unfold insert contains
  cases h : c.cached? k with
  | some old => exact pairsOf_replaceEntry hc h
  | none =>
    rw [erase_of_not_cached h]
    exact pairsOf_perm (List.perm_append_singleton (k, e) c.entries)

theorem pairsOf_touch {t : Instant} (hc : c.keys.Nodup) : pairsOf (c.touch k t).entries = pairsOf c.entries := by
  unfold touch
  cases h : c.cached? k with
  | some old => exact (pairsOf_replaceEntry hc h).trans (pairsOf_cached hc h).symm
  | none => rfl

theorem nodup_erase (hc : c.keys.Nodup) : (c.erase k).keys.Nodup :=
  hc.sublist (List.filter_sublist.map Prod.fst)

theorem nodup_insert (hc : c.keys.Nodup) : (c.insert k e).keys.Nodup := by
  unfold insert contains
  cases h : c.cached? k with
  | some old =>
    rw [Option.isSome_some, if_pos rfl, keys_replaceEntry]
    exact hc
  | none =>
    show ((c.entries ++ [(k, e)]).map Prod.fst).Nodup
    rw [List.map_append]
    exact List.Nodup.append hc (List.nodup_singleton k)
      (List.disjoint_singleton.2 (notMem_keys h))

theorem nodup_touch {t : Instant} (hc : c.keys.Nodup) : (c.touch k t).keys.Nodup := by
  unfold touch
  split
  · rw [keys_replaceEntry]
    exact hc
  · exact hc

end Cache

/-! ## The balance -/

namespace Happening

/-- What came into the cache. -/
def inserted? : Happening K V → Option (K × V)
  | put _ k v _ => some (k, v)
  | made k v => some (k, v)
  | _ => none

/-- What was handed back by the insertion that replaced it. -/
def handedBack? : Happening K V → Option (K × V)
  | put _ k _ (some previous) => some (k, previous)
  | _ => none

/-- What was passed on to be released. -/
def released? : Happening K V → Option V
  | released v _ => some v
  | _ => none

end Happening

namespace Chronicle

open Cache

def insertions (history : List (Happening K V)) : Multiset (K × V) := history.filterMap Happening.inserted?

def handedBack (history : List (Happening K V)) : Multiset (K × V) := history.filterMap Happening.handedBack?

def releases (history : List (Happening K V)) : Multiset V := history.filterMap Happening.released?

/-- What was put in is what is mapped, what was handed back, and what was passed on to be released. -/
def Conserved (history : List (Happening K V)) (entries : List (K × Cached V)) : Prop :=
  ∃ gone : Multiset (K × V), insertions history = pairsOf entries + handedBack history + gone ∧
    releases history = gone.map Prod.snd

theorem Conserved.add_quiet {history : List (Happening K V)} {entries : List (K × Cached V)} {h : Happening K V}
    (hh : h.isQuiet = true) (hc : Conserved history entries) : Conserved (h :: history) entries := by
  cases h with
  | put | made | released => cases hh
  | computed t k r => cases r <;> exact hc
  | got t k r => cases r <;> exact hc
  | _ => exact hc

theorem Conserved.congr {history : List (Happening K V)} {entries entries' : List (K × Cached V)}
    (he : pairsOf entries' = pairsOf entries) (hc : Conserved history entries) : Conserved history entries' := by
  obtain ⟨gone, hall, hgone⟩ := hc
  exact ⟨gone, he ▸ hall, hgone⟩

section Changes

variable [DecidableEq K] {history : List (Happening K V)} {c : Cache K V} {t : Instant} {k : K} {v : V}
  {e : Cached V}

/-- What is put in takes the place of the value that is handed back. -/
theorem Conserved.put (hn : c.keys.Nodup) (hc : Conserved history c.entries) :
    Conserved (.put t k v ((c.cached? k).map (·.value)) :: history) (c.insert k ⟨v, t⟩).entries := by
  obtain ⟨gone, hall, hgone⟩ := hc
  refine ⟨gone, ?_, hgone⟩
  rw [pairsOf_insert hn]
  show (k, v) ::ₘ insertions history = _
  cases h : c.cached? k with
  | some old =>
    show _ = _ + (k, old.value) ::ₘ handedBack history + gone
    rw [hall, pairsOf_cached hn h]
    simp only [← Multiset.singleton_add]
    abel
  | none =>
    show _ = _ + handedBack history + gone
    rw [hall, erase_of_not_cached h, Multiset.cons_add, Multiset.cons_add]

theorem Conserved.made (hn : c.keys.Nodup) (absent : c.cached? k = none) (hc : Conserved history c.entries) :
    Conserved (.computed t k (.ok v) :: .made k v :: history) (c.insert k ⟨v, t⟩).entries := by
  obtain ⟨gone, hall, hgone⟩ := hc
  refine ⟨gone, ?_, hgone⟩
  rw [pairsOf_insert hn, erase_of_not_cached absent]
  show (k, v) ::ₘ insertions history = _ + handedBack history + gone
  rw [hall, Multiset.cons_add, Multiset.cons_add]

theorem Conserved.dropped (hn : c.keys.Nodup) (cached : c.cached? k = some e) (hc : Conserved history c.entries) :
    Conserved (.released e.value (c.erase k).entries :: history) (c.erase k).entries := by
  obtain ⟨gone, hall, hgone⟩ := hc
  refine ⟨(k, e.value) ::ₘ gone, ?_, ?_⟩
  · show insertions history = _ + handedBack history + _
    rw [hall, pairsOf_cached hn cached]
    simp only [← Multiset.singleton_add]
    abel
  · show e.value ::ₘ releases history = _
    rw [hgone, Multiset.map_cons]

end Changes

/-- At every release the balance held with the entries that were left then. -/
def ConservedAtReleases (history : List (Happening K V)) : Prop :=
  ∀ v left earlier, (.released v left :: earlier) <:+ history → Conserved (.released v left :: earlier) left

theorem ConservedAtReleases.cons {history : List (Happening K V)} {h : Happening K V}
    (hh : ∀ v left, h = .released v left → Conserved (h :: history) left) (hr : ConservedAtReleases history) :
    ConservedAtReleases (h :: history) := by
  intro v left earlier hs
  rcases List.suffix_cons_iff.1 hs with heq | hs
  · cases heq
    exact hh v left rfl
  · exact hr v left earlier hs

/-- No key has two entries, and the balance holds now as it did before. -/
structure Kept (w : Chronicle K V U) : Prop where
  nodup : w.cache.keys.Nodup
  conserved : Conserved w.history w.cache.entries
  released : ConservedAtReleases w.history

variable [DecidableEq K]

theorem Kept.move {w v : Chronicle K V U} (hw : w.Kept) (h : Move w v) : v.Kept := by
  have hn := hw.nodup
  cases h with
  | elsewhere rest => exact ⟨hn, hw.conserved, hw.released⟩
  | @upkeep cache entries expiration =>
    refine ⟨?_, hw.conserved.congr (congrArg pairsOf entries), hw.released⟩
    show (cache.entries.map Prod.fst).Nodup
    rw [entries]
    exact hn
  | noted quiet => exact ⟨hn, hw.conserved.add_quiet quiet, hw.released.cons fun v left h => by subst h; cases quiet⟩
  | put t k v => exact ⟨nodup_insert hn, hw.conserved.put hn, hw.released.cons nofun⟩
  | got t cached => exact ⟨nodup_touch hn, hw.conserved.congr (pairsOf_touch hn), hw.released.cons nofun⟩
  | found t cached => exact ⟨nodup_touch hn, hw.conserved.congr (pairsOf_touch hn), hw.released.cons nofun⟩
  | made t v rest absent =>
    exact ⟨nodup_insert hn, hw.conserved.made hn absent, ConservedAtReleases.cons nofun (hw.released.cons nofun)⟩
  | @dropped k e cached =>
    have hall := hw.conserved.dropped hn cached
    refine ⟨nodup_erase hn, hall, hw.released.cons ?_⟩
    rintro _ _ ⟨⟩
    exact hall

theorem Kept.moves {w v : Chronicle K V U} (hw : w.Kept) (h : Moves w v) : v.Kept := by
  induction h with
  | refl => exact hw
  | tail _ hmove ih => exact ih.move hmove

omit [DecidableEq K] in
theorem kept_of_empty {w : Chronicle K V U} (hentries : w.cache.entries = []) (hhistory : w.history = []) : w.Kept where
  nodup := by
    show (w.cache.entries.map Prod.fst).Nodup
    rw [hentries]
    exact List.nodup_nil
  conserved := by
    rw [hentries, hhistory]
    exact ⟨0, rfl, rfl⟩
  released v left earlier h := by
    rw [hhistory] at h
    cases List.suffix_nil.1 h

/-! ## How releases end -/

section Endings

variable {policy other : Disposal K V U}

omit [DecidableEq K] in
theorem focus_discard (x : Routine U α) :
    discard (x.focus (restPart (K := K) (V := V))) = (discard x).focus restPart := by
  have hfocus : ∀ (o : Outcome U α) (now : Instant) (w : Chronicle K V U),
      (o.focus restPart w).andThen now (fun _ => pure ()) = (o.andThen now fun _ => pure ()).focus restPart w := by
    intro o
    induction o with
    | done a u => exact fun now w => rfl
    | blocked u ready deadline resume ih =>
      intro now w
      show Outcome.blocked _ _ _ _ = Outcome.blocked _ _ _ _
      congr 1
      funext t w'
      exact ih t w'.rest t w'
  exact funext fun now => funext fun w => hfocus (x now w.rest) now w

omit [DecidableEq K] in
theorem alike_keeper (hmay : other.mayRelease = policy.mayRelease)
    (hrelease : ∀ v, discard (other.release v) = discard (policy.release v)) : other.keeper.Alike policy.keeper where
  cache := rfl
  mayRelease := funext fun w => congrFun hmay w.rest
  releaseValue k v := by
    rw [releaseValue_eq, releaseValue_eq, focus_discard, focus_discard, hrelease v]

/-- Releases that do the same but end in other ways leave every operation what it is. -/
theorem work_congr (hmay : other.mayRelease = policy.mayRelease)
    (hrelease : ∀ v, discard (other.release v) = discard (policy.release v)) : other.work = policy.work := by
  have h := alike_keeper hmay hrelease
  funext e
  cases e with
  | put k v => rfl
  | get k => simp only [Disposal.work, h.get?]
  | compute k factory => simp only [Disposal.work, h.computeIfAbsent]
  | remove k force => simp only [Disposal.work, h.remove]
  | sweep => simp only [Disposal.work, h.sweep]
  | clear => simp only [Disposal.work, h.clear]
  | inspect k => rfl
  | startWorker => rfl
  | stopWorker => rfl
  | goOn id => simp only [Disposal.work, h.goOn]

end Endings

/-- Nothing is lost and nothing is released twice. At any time in a run that starts with an empty cache, every
key has at most one entry, and what was ever put in is what is mapped, what was handed back by the `put` that
replaced it, and what was passed on to be released, each occurrence being one of these exactly once. The same
held at the moment of each release with the entries that were left then, so no value is released while it is
still mapped. How releases end changes none of this, nor what any operation does or answers. -/
theorem conserved_of_run {policy : Disposal K V U} {s₀ s : Schedule (Chronicle K V U)}
    (hentries : s₀.world.cache.entries = []) (hhistory : s₀.world.history = []) (hparked : s₀.parked = [])
    (hrun : Schedule.Run policy.Calls Elsewhere s₀ s) :
    s.world.cache.keys.Nodup ∧ Conserved s.world.history s.world.cache.entries ∧
      ConservedAtReleases s.world.history ∧
      ∀ other : Disposal K V U, other.mayRelease = policy.mayRelease →
        (∀ v, discard (other.release v) = discard (policy.release v)) → other.work = policy.work := by
  have hkept := (kept_of_empty hentries hhistory).moves (backs_of_run (backs_of_parked hparked) hrun).1
  exact ⟨hkept.nodup, hkept.conserved, hkept.released, fun other hmay hrelease => work_congr hmay hrelease⟩

/-! ### A removal that takes its time -/

namespace SlowRemoval

/-- Releases wait until the rest of the world is ready, and break down. -/
def policy : Disposal Nat Nat Bool := .slow .crashed

def call (e : Errand Nat Nat Bool) (s : Schedule (Chronicle Nat Nat Bool)) : Schedule (Chronicle Nat Nat Bool) :=
  s.absorb (policy.work e s.clock s.world)

def start : Schedule (Chronicle Nat Nat Bool) where
  world := { cache := .empty ⟨10⟩ ⟨100⟩ 0, rest := false }

/-- A value is replaced and the new one removed; while it is being released, a third one is put in. -/
def busy : Schedule (Chronicle Nat Nat Bool) :=
  call (.put 1 30) (call (.remove 1 true) (call (.put 1 20) (call (.put 1 10) start)))

/-- Then the release breaks down. -/
def finish : Schedule (Chronicle Nat Nat Bool) :=
  Schedule.wake { busy with world := { busy.world with rest := true } }

theorem run_finish : Schedule.Run policy.Calls Elsewhere start finish := by
  have hcall : ∀ e s, Schedule.Step policy.Calls Elsewhere s (call e s) := fun e s => .call ⟨e, rfl⟩
  have hready : Schedule.Step policy.Calls Elsewhere busy
      { busy with world := { busy.world with rest := true } } := .others ⟨true, rfl⟩
  have hwake : Schedule.Step policy.Calls Elsewhere
      { busy with world := { busy.world with rest := true } } finish := .wake rfl
  exact .tail (.tail (.tail (.tail (.tail (.single (hcall _ _)) (hcall _ _)) (hcall _ _)) (hcall _ _)) hready) hwake

theorem same_release (ending ending' : Release) (v : Nat) :
    discard ((Disposal.slow ending).release v) = discard ((Disposal.slow ending').release v) := by
  show (Routine.waitFor id >>= fun _ => pure ending) >>= _ = (Routine.waitFor id >>= fun _ => pure ending') >>= _
  rw [bind_assoc, bind_assoc]
  rfl

end SlowRemoval

/-- The first value was handed back, the second one released while the third one took its place. -/
theorem conserved_of_slow_removal :
    SlowRemoval.finish.world.history =
        [.removed 1 true, .put 0 1 30 none, .released 20 [], .put 0 1 20 (some 10), .put 0 1 10 none] ∧
      SlowRemoval.finish.world.cache.entries = [(1, ⟨30, 0⟩)] ∧ SlowRemoval.finish.world.cache.keys.Nodup ∧
      Conserved SlowRemoval.finish.world.history SlowRemoval.finish.world.cache.entries ∧
      ConservedAtReleases SlowRemoval.finish.world.history ∧
      (Disposal.slow .released).work = SlowRemoval.policy.work := by
  obtain ⟨hnodup, hall, hreleases, hendings⟩ := conserved_of_run rfl rfl rfl SlowRemoval.run_finish
  exact ⟨rfl, rfl, hnodup, hall, hreleases, hendings _ rfl (SlowRemoval.same_release _ _)⟩

end Chronicle

end ReplicaRouter
