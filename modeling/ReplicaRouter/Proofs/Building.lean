import ReplicaRouter.Proofs.Register
/-
Values are made where there are none, and once. A register tells when a factory ran: only where its key had no
value. Its value stays the answer to every look-up until something is put in for the key or the key is removed; a
failure leaves everything as it was.
Main statement: `Register.builds_once`, for any number of calls that run side by side.
-/
namespace ReplicaRouter.Register

variable {K V U : Type} [DecidableEq K]

/-! ## One note after the other -/

/-- What the note says of the key, if anything, is that it has this value: no factory ran for it, and every look-up
found the value. -/
structure Answers (k : K) (v : V) (n : Note K V) : Prop where
  idle : ∀ call r, n.event ≠ .ran call k r
  computed : ∀ call r, n.event = .computed call k r → r = .ok v
  got : ∀ r, n.event = .got k r → r = some v

/-- Among the notes that came after some others, none tells that something was put in for the key or that it was
removed. -/
def Spared (k : K) (before : List (Note K V)) : List (Note K V) → Prop
  | [] => True
  | n :: ns => (∀ v, n.event ≠ .put k v) ∧ (n.left.lookup k = none → (entries (ns ++ before)).lookup k = none) ∧
      Spared k before ns

/-- Whether a factory ran for the key. -/
def Event.runs (k : K) : Event K V → Bool
  | .ran _ j _ => j = k
  | _ => false

theorem spared_append {k : K} {before late early : List (Note K V)} :
    Spared k before (late ++ early) ↔ Spared k (early ++ before) late ∧ Spared k before early := by
  induction late with
  | nil => exact (and_iff_right trivial).symm
  | cons n late ih =>
    rw [List.cons_append]
    show (_ ∧ _ ∧ Spared k before (late ++ early)) ↔ (_ ∧ _ ∧ _) ∧ _
    rw [ih, List.append_assoc, and_assoc, and_assoc]

section Note

variable {E : List (K × Cached V)} {n : Note K V} {k : K} {v : V}

/-- A key that has a value keeps it, unless something is put in for it or it is removed. -/
structure Follows (E : List (K × Cached V)) (n : Note K V) (k : K) (v : V) : Prop where
  answers : Answers k v n
  maps : (∀ v', n.event ≠ .put k v') → n.left.lookup k ≠ none → Maps n.left k v

theorem Maps.of_lookup {L : List (K × Cached V)} (h : Maps E k v) (hL : L.lookup k = E.lookup k) : Maps L k v := by
  obtain ⟨t, ht⟩ := h
  exact ⟨t, hL.trans ht⟩

theorem Maps.ne_none (h : Maps E k v) : E.lookup k ≠ none := by
  obtain ⟨t, ht⟩ := h
  rw [ht]
  exact Option.some_ne_none _

/-- A key that was found had the value that was found, and has it still. -/
theorem Maps.touch {e : Cached V} {L : List (K × Cached V)} {j : K} {t : Instant} (h : Maps E k v)
    (cached : E.lookup j = some e) (left : ∀ i, L.lookup i = if i = j then some (e.touch t) else E.lookup i) :
    (j = k → e.value = v) ∧ Maps L k v := by
  obtain ⟨s, hs⟩ := h
  by_cases hj : k = j
  · subst hj
    obtain rfl := Option.some_inj.1 (cached.symm.trans hs)
    exact ⟨fun _ => rfl, _, (left k).trans (if_pos rfl)⟩
  · exact ⟨fun h => absurd h.symm hj, s, (left k).trans ((if_neg hj).trans hs)⟩

theorem Settles.lookup_of_ne {r : Except RouteError V} {L : List (K × Cached V)} {j : K} (h : Settles E j r L)
    (hj : k ≠ j) :
    L.lookup k = E.lookup k := by
  cases r with
  | ok v =>
    obtain ⟨t, ht⟩ := h
    exact (ht k).trans (if_neg hj)
  | error e => exact congrArg _ h

theorem Adds.follows (h : Adds E n) (hk : Maps E k v) : Follows E n k v := by
  cases h with
  | @put j u t L left =>
    refine ⟨⟨nofun, nofun, nofun⟩, fun hput _ => hk.of_lookup ?_⟩
    rw [left, if_neg]
    rintro rfl
    exact hput _ rfl
  | @got j e t L cached left =>
    obtain ⟨hvalue, hmaps⟩ := hk.touch cached left
    refine ⟨⟨nofun, nofun, ?_⟩, fun _ _ => hmaps⟩
    rintro r ⟨⟩
    rw [hvalue rfl]
  | @missed j absent =>
    refine ⟨⟨nofun, nofun, ?_⟩, fun _ _ => hk⟩
    rintro r ⟨⟩
    exact absurd absent hk.ne_none
  | @found call j e t L cached left =>
    obtain ⟨hvalue, hmaps⟩ := hk.touch cached left
    refine ⟨⟨nofun, ?_, nofun⟩, fun _ _ => hmaps⟩
    rintro c r ⟨⟩
    rw [hvalue rfl]
  | @released j u L left =>
    refine ⟨⟨nofun, nofun, nofun⟩, fun _ hstays => hk.of_lookup ?_⟩
    rw [left] at hstays ⊢
    by_cases hj : k = j
    · exact absurd (if_pos hj) hstays
    · exact if_neg hj

/-- For a key without a value nothing is found, and without a put it gets none. -/
theorem Adds.absent (h : Adds E n) (hk : E.lookup k = none) (hput : ∀ v, n.event ≠ .put k v) :
    n.left.lookup k = none ∧ (∀ call r, n.event ≠ .ran call k r) ∧ ∀ call r, n.event ≠ .computed call k r := by
  cases h with
  | @put j u t L left =>
    refine ⟨?_, nofun, nofun⟩
    rw [left, if_neg, hk]
    rintro rfl
    exact hput _ rfl
  | @got j e t L cached left =>
    refine ⟨?_, nofun, nofun⟩
    rw [left, if_neg, hk]
    rintro rfl
    rw [hk] at cached
    cases cached
  | missed absent => exact ⟨hk, nofun, nofun⟩
  | @found call j e t L cached left =>
    have hj : k ≠ j := by
      rintro rfl
      rw [hk] at cached
      cases cached
    refine ⟨by rw [left, if_neg hj, hk], nofun, ?_⟩
    rintro c r ⟨⟩
    exact hj rfl
  | @released j u L left =>
    refine ⟨?_, nofun, nofun⟩
    rw [left]
    split
    · rfl
    · exact hk

end Note

/-! ## Whole registers -/

section Legal

variable {ns later earlier before stretch : List (Note K V)} {n : Note K V} {k : K} {v : V}

/-- Every note follows upon the ones before it. -/
theorem Legal.follows (h : Legal ns) (hns : ns = later ++ n :: earlier) (hk : Maps (entries earlier) k v) :
    Follows (entries earlier) n k v := by
  induction h generalizing later with
  | nil => cases later <;> cases hns
  | add before adds ih =>
    cases later with
    | nil =>
      obtain ⟨rfl, rfl⟩ := List.cons.inj hns
      exact adds.follows hk
    | cons m later => exact ih (List.cons.inj hns).2
  | @ran ns call j r L before absent settles ih =>
    rcases later with _ | ⟨m, _ | ⟨m', later⟩⟩
    · obtain ⟨rfl, rfl⟩ := List.cons.inj hns
      have hj : k ≠ j := by
        rintro rfl
        exact hk.ne_none absent
      refine ⟨⟨nofun, ?_, nofun⟩, fun _ _ => hk.of_lookup (settles.lookup_of_ne hj)⟩
      rintro c r ⟨⟩
      exact absurd rfl hj
    · obtain ⟨rfl, rfl⟩ := List.cons.inj (List.cons.inj hns).2
      refine ⟨⟨?_, nofun, nofun⟩, fun _ _ => hk⟩
      rintro c r ⟨⟩
      exact hk.ne_none absent
    · exact ih (List.cons.inj (List.cons.inj hns).2).2

/-- A factory runs where its key has no value, and its call answers next: its value is there then, or nothing
has changed. -/
theorem Legal.ran_iff (h : Legal ns) (hns : ns = later ++ n :: earlier) {call : Nat} {r : Except RouteError V}
    (hran : n.event = .ran call k r) :
    n.left = entries earlier ∧ n.left.lookup k = none ∧
      ∃ later' L, later = later' ++ [⟨.computed call k r, L⟩] ∧ Settles n.left k r L := by
  induction h generalizing later with
  | nil => cases later <;> cases hns
  | add before adds ih =>
    cases later with
    | nil =>
      obtain ⟨rfl, rfl⟩ := List.cons.inj hns
      cases adds <;> cases hran
    | cons m later =>
      obtain ⟨hleft, habsent, later', L, rfl, hL⟩ := ih (List.cons.inj hns).2
      exact ⟨hleft, habsent, m :: later', L, rfl, hL⟩
  | ran before absent settles ih =>
    rcases later with _ | ⟨m, _ | ⟨m', later⟩⟩
    · obtain ⟨rfl, -⟩ := List.cons.inj hns
      cases hran
    · cases hns
      cases hran
      exact ⟨rfl, absent, [], _, rfl, settles⟩
    · obtain ⟨hleft, habsent, later', L, rfl, hL⟩ := ih (List.cons.inj (List.cons.inj hns).2).2
      exact ⟨hleft, habsent, m :: m' :: later', L, rfl, hL⟩

/-- A key that is spared keeps its value. -/
theorem Legal.maps_of_spared {mid : List (Note K V)} (h : Legal ns) (hns : ns = later ++ (mid ++ earlier))
    (hk : Maps (entries earlier) k v) (hspared : Spared k earlier mid) : Maps (entries (mid ++ earlier)) k v := by
  induction mid generalizing later with
  | nil => exact hk
  | cons n mid ih =>
    obtain ⟨hput, hstays, hrest⟩ := hspared
    have hbefore : Maps (entries (mid ++ earlier)) k v := by
      have hafter : ns = (later ++ [n]) ++ (mid ++ earlier) := by
        rw [hns]
        simp only [List.append_assoc, List.cons_append, List.nil_append]
      exact ih hafter hrest
    exact (h.follows hns hbefore).maps hput fun hnone => hbefore.ne_none (hstays hnone)

/-- The value that a factory made is what every later look-up of the key finds, for as long as the key is spared. -/
theorem Legal.answers {mid : List (Note K V)} {m : Note K V} {call : Nat} (h : Legal ns)
    (hns : ns = later ++ n :: (mid ++ m :: earlier)) (hran : m.event = .ran call k (.ok v))
    (hspared : Spared k (m :: earlier) mid) : Answers k v n := by
  have hsplit : ns = (later ++ n :: mid) ++ m :: earlier := by
    rw [hns]
    simp only [List.append_assoc, List.cons_append]
  obtain ⟨-, -, later', L, hlater, t, hL⟩ := h.ran_iff hsplit hran
  have hmaps : Maps L k v := ⟨t, (hL k).trans (if_pos rfl)⟩
  rcases List.eq_nil_or_concat mid with rfl | ⟨mid, c, rfl⟩
  · obtain ⟨-, hn⟩ := List.append_inj' hlater rfl
    obtain rfl := List.singleton_inj.1 hn
    refine ⟨nofun, ?_, nofun⟩
    rintro c r ⟨⟩
    rfl
  · rw [List.concat_eq_append, ← List.cons_append, ← List.append_assoc] at hlater
    obtain ⟨-, hc⟩ := List.append_inj' hlater rfl
    obtain rfl := List.singleton_inj.1 hc
    rw [List.concat_eq_append] at hns hspared
    have hrest : mid ++ [⟨.computed call k (.ok v), L⟩] ++ m :: earlier =
        mid ++ ⟨.computed call k (.ok v), L⟩ :: m :: earlier := by
      simp only [List.append_assoc, List.cons_append, List.nil_append]
    rw [hrest] at hns
    have hafter : ns = (later ++ [n]) ++ (mid ++ ⟨.computed call k (.ok v), L⟩ :: m :: earlier) := by
      rw [hns]
      simp only [List.append_assoc, List.cons_append, List.nil_append]
    exact (h.follows hns (h.maps_of_spared hafter hmaps (spared_append.1 hspared).1)).answers

/-- Since the key had no value, it was built: one factory ran for it, and its value is what every look-up answered. -/
structure Built (k : K) (v : V) (stretch : List (Note K V)) : Prop where
  once : stretch.countP (·.event.runs k) = 1
  ran : ∃ n ∈ stretch, ∃ call, n.event = .ran call k (.ok v)
  computed : ∀ n ∈ stretch, ∀ call r, n.event = .computed call k r → r = .ok v

/-- The key has no value, and no call that makes a value looked it up. -/
structure Untouched (k : K) (E : List (K × Cached V)) (stretch : List (Note K V)) : Prop where
  absent : E.lookup k = none
  idle : stretch.countP (·.event.runs k) = 0
  computed : ∀ n ∈ stretch, ∀ call r, n.event ≠ .computed call k r

theorem Event.runs_eq_false {event : Event K V} (h : ∀ call r, event ≠ .ran call k r) : event.runs k = false := by
  cases event with
  | ran call j r =>
    refine decide_eq_false ?_
    rintro rfl
    exact h _ _ rfl
  | _ => rfl

theorem Untouched.cons {E : List (K × Cached V)} (h : Untouched k E stretch) (hL : n.left.lookup k = none)
    (hran : ∀ call r, n.event ≠ .ran call k r) (hcomputed : ∀ call r, n.event ≠ .computed call k r) :
    Untouched k n.left (n :: stretch) where
  absent := hL
  idle := by
    rw [List.countP_cons_of_neg (by rw [Event.runs_eq_false hran]; exact Bool.false_ne_true)]
    exact h.idle
  computed := List.forall_mem_cons.2 ⟨hcomputed, h.computed⟩

theorem Built.cons (h : Built k v stretch) (hran : ∀ call r, n.event ≠ .ran call k r)
    (hcomputed : ∀ call r, n.event = .computed call k r → r = .ok v) : Built k v (n :: stretch) where
  once := by
    rw [List.countP_cons_of_neg (by rw [Event.runs_eq_false hran]; exact Bool.false_ne_true)]
    exact h.once
  ran := by
    obtain ⟨m, hm, call, hcall⟩ := h.ran
    exact ⟨m, List.mem_cons_of_mem _ hm, call, hcall⟩
  computed := List.forall_mem_cons.2 ⟨hcomputed, h.computed⟩

/-- A factory ran for the key, and its call answered. -/
theorem Untouched.built {E L : List (K × Cached V)} {call : Nat} (h : Untouched k E stretch) :
    Built k v (⟨.computed call k (.ok v), L⟩ :: ⟨.ran call k (.ok v), E⟩ :: stretch) where
  once := by
    rw [List.countP_cons_of_neg Bool.false_ne_true, List.countP_cons_of_pos, h.idle]
    exact decide_eq_true rfl
  ran := ⟨_, List.mem_cons_of_mem _ List.mem_cons_self, call, rfl⟩
  computed := by
    refine List.forall_mem_cons.2
      ⟨?_, List.forall_mem_cons.2 ⟨nofun, fun n hn c r hr => absurd hr (h.computed n hn c r)⟩⟩
    rintro c r ⟨⟩
    rfl

/-- In a stretch that starts without a value for the key, where it is spared and no factory fails for it, the key is not
looked up by any call that makes a value, or it is built. -/
theorem Legal.built (h : Legal ns) (hbefore : Legal before) (hns : ns = stretch ++ before)
    (habsent : (entries before).lookup k = none) (hspared : Spared k before stretch)
    (hsucceeds : ∀ n ∈ stretch, ∀ call e, n.event ≠ .ran call k (.error e)) :
    Untouched k (entries ns) stretch ∨ ∃ v, Maps (entries ns) k v ∧ Built k v stretch := by
  -- by induction on the record: each note leaves the key untouched, builds its value or keeps the one built
  induction h generalizing stretch with
  | nil =>
    obtain ⟨rfl, rfl⟩ := List.nil_eq_append_iff.1 hns
    exact .inl ⟨rfl, rfl, nofun⟩
  | @add ns n' _ adds ih =>
    rcases stretch with _ | ⟨n, stretch⟩
    · subst hns
      exact .inl ⟨habsent, rfl, nofun⟩
    · obtain ⟨rfl, rfl⟩ := List.cons.inj hns
      obtain ⟨hput, hstays, hspared⟩ := hspared
      rcases ih rfl hspared (List.forall_mem_cons.1 hsucceeds).2 with huntouched | ⟨v, hmaps, hbuilt⟩
      · obtain ⟨hleft, hran, hcomputed⟩ := adds.absent huntouched.absent hput
        exact .inl (huntouched.cons hleft hran hcomputed)
      · have hfollows := adds.follows hmaps
        refine .inr ⟨v, hfollows.maps hput fun hnone => hmaps.ne_none (hstays hnone), ?_⟩
        exact hbuilt.cons hfollows.answers.idle hfollows.answers.computed
  | @ran ns call j r L _ absent settles ih =>
    rcases stretch with _ | ⟨n, _ | ⟨m, stretch⟩⟩
    · subst hns
      exact .inl ⟨habsent, rfl, nofun⟩
    · -- nothing stops between the run of a factory and the answer of its call
      obtain ⟨-, rfl⟩ := List.cons.inj hns
      obtain ⟨-, -, later, L', hlater, -⟩ := hbefore.ran_iff (List.nil_append _).symm rfl
      cases later <;> cases hlater
    · cases hns
      obtain ⟨-, -, -, -, hspared⟩ := hspared
      have hsucceeds' := List.forall_mem_cons.1 (List.forall_mem_cons.1 hsucceeds).2
      -- the factory ran for this key, or for another one, which says nothing about this one
      by_cases hj : k = j
      · subst hj
        rcases ih rfl hspared hsucceeds'.2 with huntouched | ⟨v, hmaps, -⟩
        · cases r with
          | ok v =>
            obtain ⟨t, hL⟩ := settles
            exact .inr ⟨v, ⟨t, (hL k).trans (if_pos rfl)⟩, huntouched.built⟩
          | error e => exact absurd rfl (hsucceeds'.1 call e)
        · exact absurd absent hmaps.ne_none
      · have hran : ∀ c s, (.ran call j r : Event K V) ≠ .ran c k s := by
          rintro c s ⟨⟩
          exact hj rfl
        have hcomputed : ∀ c s, (.computed call j r : Event K V) ≠ .computed c k s := by
          rintro c s ⟨⟩
          exact hj rfl
        rcases ih rfl hspared hsucceeds'.2 with huntouched | ⟨v, hmaps, hbuilt⟩
        · have hmid := huntouched.cons (n := ⟨.ran call j r, entries (stretch ++ before)⟩) huntouched.absent hran nofun
          exact .inl (hmid.cons (n := ⟨.computed call j r, L⟩)
            ((settles.lookup_of_ne hj).trans huntouched.absent) nofun hcomputed)
        · have hmid := hbuilt.cons (n := ⟨.ran call j r, entries (stretch ++ before)⟩) hran nofun
          refine .inr ⟨v, hmaps.of_lookup (settles.lookup_of_ne hj), ?_⟩
          exact hmid.cons (n := ⟨.computed call j r, L⟩) nofun fun c s h => absurd h (hcomputed c s)

end Legal

/-! ## Any number of calls side by side -/

section Run

variable {policy : Disposal K V U} {s₀ s s' : Schedule (Register K V U)}

/-- Any number of calls run side by side, over a cache that was empty at the start. A factory runs only at a moment when
its key has no value, and its call answers what it made at the same moment. If it succeeds the value is there then,
and every later look-up answers that value and no factory runs for the key, until something is put in for the key or
it is removed. If it fails nothing changes at that moment, neither a value nor a last access. So if the key has no value
at some moment, and after that it is neither put in nor removed and no factory fails for it, then as soon as one
call that makes a value has answered, one factory has run, and all such calls have answered what it made. -/
theorem builds_once (hentries : s₀.world.cache.entries = []) (hnotes : s₀.world.notes = []) (hparked : s₀.parked = [])
    (hrun : Schedule.Run policy.Serves Elsewhere s₀ s) (hlater : Schedule.Run policy.Serves Elsewhere s s') :
    s.world.cache.entries = entries s.world.notes ∧
    (∀ later n earlier call k r, s.world.notes = later ++ n :: earlier → n.event = .ran call k r →
      n.left = entries earlier ∧ n.left.lookup k = none ∧
        ∃ later' L, later = later' ++ [⟨.computed call k r, L⟩] ∧ Settles n.left k r L) ∧
    (∀ later n mid m earlier call k v, s.world.notes = later ++ n :: (mid ++ m :: earlier) →
      m.event = .ran call k (.ok v) → Spared k (m :: earlier) mid → Answers k v n) ∧
    ∃ stretch, s'.world.notes = stretch ++ s.world.notes ∧
      ∀ k, s.world.cache.cached? k = none → Spared k s.world.notes stretch →
        (∀ n ∈ stretch, ∀ call e, n.event ≠ .ran call k (.error e)) →
        (∃ n ∈ stretch, ∃ call r, n.event = .computed call k r) → ∃ v, Built k v stretch := by
  obtain ⟨hkept, hextends⟩ := kept_of_run hentries hnotes hparked hrun
  obtain ⟨hkept', -⟩ := kept_of_run hentries hnotes hparked (hrun.trans hlater)
  obtain ⟨stretch, hstretch⟩ := hextends hlater
  refine ⟨hkept.entries, fun later n earlier call k r hns => hkept.legal.ran_iff hns, ?_, stretch, hstretch, ?_⟩
  · intro later n mid m earlier call k v hns hran hspared
    exact hkept.legal.answers hns hran hspared
  · rintro k habsent hspared hsucceeds ⟨n, hn, call, r, hr⟩
    rw [← hkept.lookup_eq] at habsent
    rcases hkept'.legal.built hkept.legal hstretch habsent hspared hsucceeds with huntouched | ⟨v, -, hbuilt⟩
    · exact absurd hr (huntouched.computed n hn call r)
    · exact ⟨v, hbuilt⟩

end Run

/-! ### A call that is held up by its own sweep -/

namespace SlowSweep

def policy : Disposal Nat Nat Bool := .slow .released

def call (number : Nat) (e : Errand Nat Nat Bool) (s : Schedule (Register Nat Nat Bool)) :
    Schedule (Register Nat Nat Bool) :=
  s.absorb (policy.serve number e s.clock s.world)

def start : Schedule (Register Nat Nat Bool) where
  world := { cache := .empty ⟨10⟩ ⟨100⟩ 0, rest := false }

/-- A value is put in, and long after that a call looks it up. It sweeps first, and takes that very value out. -/
def held : Schedule (Register Nat Nat Bool) :=
  call 7 (.compute 1 fun u => (.ok 70, u)) { call 0 (.put 1 10) start with clock := 200 }

/-- While the value is being released, another call makes one; then the first call goes on. -/
def finish : Schedule (Register Nat Nat Bool) :=
  let s := call 8 (.compute 1 fun u => (.ok 80, u)) held
  Schedule.wake { s with world := { s.world with rest := true } }

/-- The notes in between. -/
def stretch : List (Note Nat Nat) :=
  [⟨.computed 7 1 (.ok 80), [(1, ⟨80, 200⟩)]⟩, ⟨.computed 8 1 (.ok 80), [(1, ⟨80, 200⟩)]⟩, ⟨.ran 8 1 (.ok 80), []⟩]

theorem run_held : Schedule.Run policy.Serves Elsewhere start held := by
  have hcall : ∀ n e s, Schedule.Step policy.Serves Elsewhere s (call n e s) := fun n e s => .call ⟨n, e, rfl⟩
  exact .tail (.tail (.single (hcall _ _ _)) (.tick (Nat.zero_le 200))) (hcall _ _ _)

theorem run_finish : Schedule.Run policy.Serves Elsewhere held finish := by
  have hcall : Schedule.Step policy.Serves Elsewhere held (call 8 (.compute 1 fun u => (.ok 80, u)) held) :=
    .call ⟨8, _, rfl⟩
  exact .tail (.tail (.single hcall) (.others ⟨true, rfl⟩)) (.wake rfl)

end SlowSweep

/-- One factory ran, and both calls answered what it made. -/
theorem builds_once_of_slow_sweep : SlowSweep.finish.world.notes = SlowSweep.stretch ++ SlowSweep.held.world.notes ∧
    ∃ v, Built 1 v SlowSweep.stretch := by
  obtain ⟨-, -, -, stretch, hstretch, hbuilt⟩ := builds_once rfl rfl rfl SlowSweep.run_held SlowSweep.run_finish
  have hnotes : SlowSweep.finish.world.notes = SlowSweep.stretch ++ SlowSweep.held.world.notes := rfl
  obtain rfl := List.append_cancel_right (hstretch.symm.trans hnotes)
  refine ⟨hnotes, hbuilt 1 rfl ⟨nofun, nofun, nofun, nofun, nofun, fun _ => rfl, trivial⟩ ?_ ?_⟩
  · simp [SlowSweep.stretch]
  · exact ⟨_, List.mem_cons_self, _, _, rfl⟩

end ReplicaRouter.Register
