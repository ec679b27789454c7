import ReplicaRouter.Proofs.Contribution
/-
How a valid connection is looked for. Each trial borrows one connection and checks it; who fails the check is evicted,
and the next trial begins, as it does after a pool that was closed meanwhile.
Main statement: `PooledProvider.vetted_of_connect`.
-/
namespace ReplicaRouter

open World Schedule Freight Stretch Routine

variable {D : Type}

/-! ## Trials -/

/-- How one trial to get a valid connection ends. -/
inductive Trial where
  /-- There is no pool, for it cannot be created. -/
  | uncreated (e : RouteError)
  /-- The pool lends nothing, and is open. -/
  | refused (e : RouteError)
  /-- The pool was closed meanwhile. -/
  | closed (e : RouteError)
  /-- The connection failed its check, and was evicted. -/
  | invalid (h : HandleId)
  | valid (h : HandleId)
  deriving DecidableEq

namespace Trial

/-- Whether there is another trial after this one, unless there were too many. -/
def isPassing : Trial → Bool
  | closed _ | invalid _ => true
  | _ => false

/-- The handle that the trial hands on, if it does. -/
def lent? : Trial → Option HandleId
  | valid h => some h
  | _ => none

theorem lent?_of_passing {t : Trial} (h : t.isPassing = true) : t.lent? = none := by
  cases t with
  | closed | invalid => rfl
  | uncreated | refused | valid => cases h

end Trial

/-- What somebody has in hand who was given a handle, or was not. -/
def handed : Option HandleId → Multiset Freight
  | some h => {fresh h}
  | none => 0

theorem World.Leased.handed {p : PoolId} {n : HandleId} {v : World D} {r : Except RouteError HandleId}
    {own : Multiset Freight} (h : Leased p n v r own) :
    own = handed r.toOption ∧ ∀ h, r = .ok h → (v.handle h).pool = p := by
  cases h with
  | lent pool new => exact ⟨rfl, by rintro _ ⟨⟩; exact pool⟩
  | refused e => exact ⟨rfl, nofun⟩

theorem PooledProvider.Served.handed {n : HandleId} {r : Except RouteError HandleId} {own : Multiset Freight}
    (h : Served n r own) : own = handed r.toOption := by
  cases h with
  | lent new => rfl
  | refused e => rfl

/-- What a pool counts for a handle, if there is one. -/
def World.share (w : World D) (q : PoolId) : Option HandleId → ℤ
  | some h => if q = (w.handle h).pool then 1 else 0
  | none => 0

section Trying

variable [Backend D]

/-- A borrowed connection is checked, and evicted if it fails. -/
def World.vet (h : HandleId) (limit : Duration) (complaint : String) : Routine (World D) Trial := do
  if ← (Link.pooled h).isValid limit then return .valid h
  else
    Routine.log .warn complaint
    evict h
    return .invalid h

namespace PooledProvider

variable (provider : PooledProvider) (protocol : String) (host : Host) (props : Properties)

/-- One trial, with so many left after it. -/
def trial (left : Nat) : Routine (World D) Trial := do
  let key := provider.keyOf host props
  match ← poolKeeper.computeIfAbsent key (provider.createPool key protocol host props) with
  | .error e => return .uncreated e
  | .ok id =>
    match ← borrow id with
    | .error e =>
      if ((← get).pool id).closed then
        Routine.log .debug ("Pool " ++ key ++ " closed while borrowing, retrying")
        return .closed e
      else return .refused e
    | .ok h =>
      let limit := ((← get).pool id).config.validationTimeout
      vet h limit (s!"Connection from pool {key} failed validation " ++
        s!"(attempt {provider.maxRetries - left}/{provider.maxRetries})")

/-- After a trial a connection is there, or an error, or the search goes on. -/
theorem connectWithin_succ (left invalid : Nat) (cause : Option RouteError) :
    provider.connectWithin (D := D) protocol host props (left + 1) invalid cause =
      provider.trial protocol host props left >>= fun t => match t with
        | .uncreated e => pure (.error e)
        | .refused e => pure (.error (if 0 < invalid then .validationExhausted invalid e else e))
        | .closed e => provider.connectWithin protocol host props left invalid (some e)
        | .invalid _ => provider.connectWithin protocol host props left (invalid + 1) cause
        | .valid h => pure (.ok h) := by
  rw [connectWithin, trial]
  simp only [bind_assoc]
  refine congrArg _ (funext fun r => ?_)
  cases r with
  | error e => rfl
  | ok p =>
    simp only [bind_assoc]
    refine congrArg _ (funext fun r => ?_)
    cases r with
    | error e =>
      simp only [bind_assoc]
      refine congrArg _ (funext fun w => ?_)
      split
      · rfl
      · split <;> rfl
    | ok h =>
      simp only [bind_assoc, vet]
      refine congrArg _ (funext fun w => congrArg _ (funext fun b => ?_))
      cases b with
      | true => rfl
      | false => simp only [Bool.false_eq_true, if_false, bind_assoc, pure_bind]

/-- The trials of a search, with so many left: each begins where the one before it ended, and after one that does not
pass there is none. The last one may still be going on. -/
inductive Trials (others : World D → World D → Prop) (kept : Prop) :
    (left : Nat) → Schedule (World D) → List (Option Trial) → Schedule (World D) → Prop
  | done (s : Schedule (World D)) : Trials others kept 0 s [] s
  | last {left : Nat} {s s' : Schedule (World D)} {t : Trial} (final : t.isPassing = false)
      (plays : (provider.trial protocol host props left).Plays (Traffic kept) others s (some t) s') :
      Trials others kept (left + 1) s [some t] s'
  | again {left : Nat} {s m s' : Schedule (World D)} {t : Trial} {ts : List (Option Trial)}
      (passing : t.isPassing = true)
      (plays : (provider.trial protocol host props left).Plays (Traffic kept) others s (some t) m)
      (rest : Trials others kept left m ts s') : Trials others kept (left + 1) s (some t :: ts) s'
  | goesOn {left : Nat} {s s' : Schedule (World D)}
      (plays : (provider.trial protocol host props left).Plays (Traffic kept) others s none s') :
      Trials others kept (left + 1) s [none] s'

variable {provider protocol host props}

theorem Trials.length_le {others : World D → World D → Prop} {kept : Prop} {left : Nat} {s s' : Schedule (World D)}
    {ts : List (Option Trial)} (h : provider.Trials protocol host props others kept left s ts s') :
    ts.length ≤ left := by
  induction h with
  | done s => exact Nat.le_refl 0
  | last | goesOn => exact Nat.succ_le_succ (Nat.zero_le _)
  | again _ _ _ ih => exact Nat.succ_le_succ ih

end PooledProvider

end Trying

/-! ## What one trial does -/

namespace World

/-- The last thing that happened is that the connection of a handle passed its check, within the time that its pool
allows. -/
def JustValid (h : HandleId) (w : World D) : Prop :=
  ∃ earlier, w.journal =
    .call (.validate (w.handle h).conn (w.pool (w.handle h).pool).config.validationTimeout true) :: earlier

variable [Backend D]

section Checking

variable {calls : World D → Routine (World D) Unit → Prop} {others : World D → World D → Prop}
  {s s' : Schedule (World D)} {limit : Duration}

theorem journal_check {c : ConnId} {b : Bool} (h : (check c limit).Plays calls others s (some b) s') :
    ∃ earlier, s'.world.journal = .call (.validate c limit b) :: earlier := by
  obtain ⟨m, -, rfl⟩ := plays_call h
  exact ⟨_, rfl⟩

/-- A handle is valid only if it is out and its connection passed the check just now. -/
theorem journal_isValid {h : HandleId} (hvalid : ((Link.pooled h).isValid limit).Plays calls others s (some true) s') :
    ∃ earlier, s'.world.journal = .call (.validate (s.world.handle h).conn limit true) :: earlier := by
  have hvalid : (if (s.world.handle h).returned then pure false else
      within limit (check (s.world.handle h).conn limit) >>= fun answer => pure (answer.getD false) :
        Routine (World D) Bool).Plays calls others s (some true) s' := hvalid
  split at hvalid
  · cases (plays_pure.1 hvalid).1
  · obtain ⟨r, hr, hplays⟩ := plays_bind_pure.1 hvalid
    obtain ⟨answer, rfl, hanswer⟩ := Option.map_eq_some_iff.1 hr.symm
    cases answer with
    | none => cases hanswer
    | some b =>
      cases hanswer
      exact journal_check (plays_within hplays)

end Checking

/-- What is so after a trial, and what it contributed. -/
structure Tried (others : World D → World D → Prop) (kept : Prop) (m : Schedule (World D)) (t : Trial) : Prop where
  orderly : m.Orderly others kept (handed t.lent?)
  evicted {h : HandleId} (invalid : t = .invalid h) : h < m.world.handles.length ∧
    (m.world.handle h).returned = true ∧ m.world.Rid (m.world.handle h).conn (h + 1)
  checked {h : HandleId} (valid : t = .valid h) : m.world.JustValid h

variable {others : World D → World D → Prop} {kept : Prop} {s m : Schedule (World D)} {l : List (Stretch (World D))}
  {h : HandleId} {t : Trial}

section Others

variable (hothers : ∀ w v, others w v → w.Elsewise v)
include hothers

/-- Whoever has a new handle keeps it out. -/
theorem out_of_orderly (hs : s.Orderly others kept {fresh h}) :
    h < s.world.handles.length ∧ (s.world.handle h).returned = false ∧ s.world.Tallies := by
  obtain ⟨rest, hw⟩ := hs.circulates hothers
  obtain ⟨hh, hout, -⟩ := hw.fresh h (Multiset.mem_cons_self _ _)
  exact ⟨hh, hout, hw.toTallies⟩

theorem tried_vet {limit : Duration} {complaint : String} (hs : s.Orderly others kept {fresh h})
    (hlimit : limit = (s.world.pool (s.world.handle h).pool).config.validationTimeout)
    (hl : (vet h limit complaint).Treads (Traffic kept) others s (some t) m l) :
    s.world.Leads others kept m.world ∧ Tried others kept m t ∧
      ∀ q, gain (activeOf q) l = m.world.share q t.lent? - if q = (s.world.handle h).pool then 1 else 0 := by
  obtain ⟨hh, -, ht⟩ := out_of_orderly hothers hs
  have hB := heedless_activeOf (D := D)
  rcases treads_bind hl with ⟨hr, -⟩ | ⟨valid, m₁, l₁, l₂, hl₁, hl, hgain⟩
  · cases hr
  have hcheck := fun q => Leaves.gain_eq ((hB q).calm_isValid (.pooled h) limit) hl₁
  obtain ⟨hm₁, hs₁, -⟩ := hs.plays_with hothers (fun T rest hw now => ((rests_isValid _ _).carries hw now).imp
    fun _ _ _ hown => (⟨hown, trivial⟩ : _ ∧ True)) hl₁.plays
  have hlater := hm₁.ensues hothers
  have hlender := hlater.lender h hh
  -- a connection that passes is kept, one that fails is evicted, and its pool counts it no longer
  cases valid with
  | true =>
    obtain ⟨ht', rfl, hnone⟩ := treads_pure hl
    cases ht'
    refine ⟨hm₁, ⟨hs₁, nofun, ?_⟩, fun q => ?_⟩
    · rintro _ ⟨⟩
      obtain ⟨earlier, hjournal⟩ := journal_isValid hl₁.plays
      obtain ⟨-, -, -, -, hconfig⟩ := Pool.of_terms (hlater.terms (s.world.handle h).pool (ht.lender h hh))
      exact ⟨earlier, by rw [hjournal, hlater.conn h hh, hlender, hlimit, hconfig]⟩
    · rw [hgain, hcheck, hnone, Trial.lent?, share, hlender, sub_self]
      rfl
  | false =>
    rcases treads_bind hl with ⟨hr, -⟩ | ⟨_, m₂, l₃, l₄, hl₃, hl, hgain₂⟩
    · cases hr
    have hlog := fun q => Leaves.gain_eq ((hB q).calm_log _ _) hl₃
    obtain ⟨hm₂, hs₂, -⟩ := hs₁.plays_with hothers (fun T rest hw now => ((rests_log _ _).carries hw now).imp
      fun _ _ _ hown => (⟨hown, trivial⟩ : _ ∧ True)) hl₃.plays
    obtain ⟨r, l₅, hr, hgone, hgain₃⟩ := treads_bind_pure hl
    obtain ⟨_, rfl, rfl⟩ := Option.map_eq_some_iff.1 hr.symm
    obtain ⟨hh₂, hout₂, ht₂⟩ := out_of_orderly hothers hs₂
    obtain ⟨hm, hsm, hreturned, hrid⟩ := hs₂.plays_with hothers (fun T rest hw =>
      carries_evict hh₂ hw.not_mem_of_fresh (hw.last h (Multiset.mem_cons_self _ _)) hw.forget) hgone.plays
    have hevict := fun q => gain_evict ht₂ hh₂ hout₂ hgone q
    have hlater₂ := hm₂.ensues hothers
    have hlater₃ := hm.ensues hothers
    refine ⟨hm₁.trans (hm₂.trans hm), ⟨hsm, ?_, nofun⟩, fun q => ?_⟩
    · rintro _ ⟨⟩
      refine ⟨Nat.lt_of_lt_of_le hh₂ hlater₃.length_le, hreturned, ?_⟩
      rw [hlater₃.conn h hh₂]
      exact hrid hout₂
    · rw [hgain, hgain₂, hgain₃, hcheck, hlog, hevict, hlater₂.lender h (Nat.lt_of_lt_of_le hh hlater.length_le),
        hlender]
      simp only [Trial.lent?, share]
      split <;> rfl

/-- A trial leaves nothing behind but the handle that it found valid, and contributes nothing else. -/
theorem tried_trial {provider : PooledProvider} {protocol : String} {host : Host} {props : Properties} {left : Nat}
    (hs : s.Orderly others kept 0)
    (hl : (provider.trial protocol host props left).Treads (Traffic kept) others s (some t) m l) :
    s.world.Leads others kept m.world ∧ Tried others kept m t ∧ ∀ q, gain (activeOf q) l = m.world.share q t.lent? := by
  have hB := heedless_activeOf (D := D)
  rcases treads_bind hl with ⟨hr, -⟩ | ⟨found, m₁, l₁, l₂, hl₁, hl, hgain₁⟩
  · cases hr
  have hfind := fun q => Leaves.gain_eq ((hB q).calm_computeIfAbsent provider _ protocol host props) hl₁
  obtain ⟨hm₁, hs₁, hpool, -⟩ := hs.plays_with hothers (fun T rest hw =>
    provider.carries_computeIfAbsent (by rwa [zero_add] at hw)) hl₁.plays
  -- of the three stretches only the borrowing contributes, and the vetting may take that back
  cases found with
  | error e =>
    obtain ⟨ht, rfl, hnone⟩ := treads_pure hl
    cases ht
    exact ⟨hm₁, ⟨hs₁, by rintro _ ⟨⟩, by rintro _ ⟨⟩⟩, fun q => by rw [hgain₁, hfind, hnone]; rfl⟩
  | ok p =>
    obtain ⟨hp, -⟩ := hpool p rfl
    rcases treads_bind hl with ⟨hr, -⟩ | ⟨borrowed, m₂, l₃, l₄, hl₃, hl, hgain₂⟩
    · cases hr
    have hborrow := gain_borrow hothers (hs₁ (.blank D) (.blank hothers)) hp hl₃
    obtain ⟨hm₂, hs₂, hlent⟩ := hs₁.plays_with hothers (fun T rest hw now =>
      (carries_borrow hp (by rwa [zero_add] at hw) now).imp fun _ _ _ h => h.handed) hl₃.plays
    have hm₂ := hm₁.trans hm₂
    cases borrowed with
    | error e =>
      have hnone : ∀ q, gain (activeOf q) l₃ = 0 := fun q => by simp [hborrow, Except.isOk, Except.toBool]
      have hl : (if (m₂.world.pool p).closed then _ else _ : Routine (World D) Trial).Treads _ _ m₂ (some t) m l₄ := hl
      split at hl
      · obtain ⟨r, l₅, hr, hlog, hgain₃⟩ := treads_bind_pure hl
        obtain ⟨_, rfl, rfl⟩ := Option.map_eq_some_iff.1 hr.symm
        obtain ⟨hm, hsm, -⟩ := hs₂.plays_with hothers (fun T rest hw now => ((rests_log _ _).carries hw now).imp
          fun _ _ _ hown => (⟨hown, trivial⟩ : _ ∧ True)) hlog.plays
        refine ⟨hm₂.trans hm, ⟨hsm, by rintro _ ⟨⟩, by rintro _ ⟨⟩⟩, fun q => ?_⟩
        rw [hgain₁, hgain₂, hgain₃, hfind, hnone, Leaves.gain_eq ((hB q).calm_log _ _) hlog]
        rfl
      · obtain ⟨ht, rfl, hend⟩ := treads_pure hl
        cases ht
        exact ⟨hm₂, ⟨hs₂, by rintro _ ⟨⟩, by rintro _ ⟨⟩⟩, fun q => by rw [hgain₁, hgain₂, hfind, hnone, hend]; rfl⟩
    | ok h =>
      have hlender := hlent h rfl
      obtain ⟨hm, htried, hvet⟩ := tried_vet hothers hs₂ (by rw [hlender]) hl
      refine ⟨hm₂.trans hm, htried, fun q => ?_⟩
      rw [hgain₁, hgain₂, hfind, hborrow, hvet, hlender]
      simp [Except.isOk, Except.toBool]

end Others

omit [Backend D] in
theorem le_one_of_eq_zero {n : ℤ} (h : n = 0) : n ≤ 1 := h ▸ Int.zero_le_ofNat 1

/-- A trial asks the driver at most once. -/
theorem requests_trial {provider : PooledProvider} {protocol : String} {host : Host} {props : Properties} {left : Nat}
    {r : Option Trial} (hl : (provider.trial protocol host props left).Treads (Traffic kept) others s r m l) :
    gain requests l ≤ 1 := by
  have hB := indifferent_requests (D := D)
  have hvet : ∀ (h : HandleId) (limit : Duration) (complaint : String),
      (vet (D := D) h limit complaint).Leaves requests :=
    fun h limit complaint => by
      refine Routine.calm_bind (hB.calm_isValid _ _) fun valid => ?_
      cases valid with
      | true => exact Routine.calm_pure _
      | false =>
        exact Routine.calm_bind (hB.calm_log _ _) fun _ => Routine.calm_bind (hB.calm_evict h) fun _ =>
          Routine.calm_pure _
  have hfind := hB.calm_computeIfAbsent (R := fun _ _ => True) provider (provider.keyOf host props) protocol host props
  rcases treads_bind hl with ⟨rfl, hwait⟩ | ⟨found, m₁, l₁, l₂, hl₁, hl, hgain⟩
  · exact le_one_of_eq_zero (Leaves.gain_eq hfind hwait)
  rw [hgain, Leaves.gain_eq hfind hl₁, zero_add]
  cases found with
  | error e => exact le_one_of_eq_zero ((treads_pure hl).2.2 _)
  | ok p =>
    rcases treads_bind hl with ⟨rfl, hwait⟩ | ⟨borrowed, m₂, l₃, l₄, hl₃, hl, hgain⟩
    · exact requests_borrow hwait
    suffices hrest : gain requests l₄ = 0 by
      rw [hgain, hrest, add_zero]
      exact requests_borrow hl₃
    cases borrowed with
    | error e =>
      have hl : (if (m₂.world.pool p).closed then _ else _ : Routine (World D) Trial).Treads _ _ m₂ r m l₄ := hl
      split at hl
      · exact Leaves.gain_eq (Routine.calm_bind (hB.calm_log _ _) fun _ => Routine.calm_pure _) hl
      · exact (treads_pure hl).2.2 _
    | ok h => exact Leaves.gain_eq (hvet h _ _) hl

end World

/-! ## The search -/

/-- What the trials of a search say about its error. -/
structure Trial.Explain (ts : List (Option Trial)) (e : RouteError) : Prop where
  uncreated {e' : RouteError} (mem : some (.uncreated e') ∈ ts) : e = e'
  /-- Some connection failed its check, or every pool was closed. -/
  exhausted (created : ∀ e', some (.uncreated e') ∉ ts)
    (why : (∃ h, some (.invalid h) ∈ ts) ∨ ∀ t ∈ ts, ∃ e', t = some (.closed e')) :
    ∃ n cause, e = .validationExhausted n cause
  refused (created : ∀ e', some (.uncreated e') ∉ ts) (valid : ∀ h, some (.invalid h) ∉ ts)
    (opened : ¬ ∀ t ∈ ts, ∃ e', t = some (.closed e')) : ts.getLast? = some (some (.refused e))

namespace Trial

variable {pre : List (Option Trial)} {e : RouteError}

/-- The trials so far were passed. -/
def Passed (pre : List (Option Trial)) : Prop := ∀ t ∈ pre, (∃ e, t = some (.closed e)) ∨ ∃ h, t = some (.invalid h)

theorem Passed.concat {t : Trial} (h : Passed pre) (ht : t.isPassing = true) : Passed (pre ++ [some t]) := by
  intro u hu
  rcases List.mem_append.1 hu with hu | hu
  · exact h u hu
  · obtain rfl := List.mem_singleton.1 hu
    cases t with
    | closed e => exact .inl ⟨e, rfl⟩
    | invalid h => exact .inr ⟨h, rfl⟩
    | uncreated | refused | valid => cases ht

theorem Passed.not_mem {t : Trial} (h : Passed pre) (ht : t.isPassing = false) : some t ∉ pre := fun hm => by
  rcases h _ hm with ⟨e, he⟩ | ⟨i, hi⟩
  · cases he
    cases ht
  · cases hi
    cases ht

theorem explain_uncreated (h : Passed pre) : Explain (pre ++ [some (.uncreated e)]) e where
  uncreated hm := by
    rcases List.mem_append.1 hm with hm | hm
    · exact absurd hm (h.not_mem rfl)
    · cases List.mem_singleton.1 hm
      rfl
  exhausted created _ := absurd (List.mem_append_right _ (List.mem_singleton_self _)) (created e)
  refused created _ _ := absurd (List.mem_append_right _ (List.mem_singleton_self _)) (created e)

theorem explain_refused (h : Passed pre) {invalid : Nat} (hinvalid : 0 < invalid ↔ ∃ h, some (.invalid h) ∈ pre) :
    Explain (pre ++ [some (.refused e)]) (if 0 < invalid then .validationExhausted invalid e else e) where
  uncreated hm := by
    rcases List.mem_append.1 hm with hm | hm
    · exact absurd hm (h.not_mem rfl)
    · cases List.mem_singleton.1 hm
  exhausted _ why := by
    rcases why with ⟨i, hi⟩ | hclosed
    · have hi : some (.invalid i) ∈ pre := (List.mem_append.1 hi).resolve_right (by simp)
      rw [if_pos (hinvalid.2 ⟨i, hi⟩)]
      exact ⟨_, _, rfl⟩
    · obtain ⟨e', he⟩ := hclosed _ (List.mem_append_right _ (List.mem_singleton_self _))
      cases he
  refused _ valid _ := by
    have hnone : ¬ 0 < invalid := fun hpos => by
      obtain ⟨i, hi⟩ := hinvalid.1 hpos
      exact valid i (List.mem_append_left _ hi)
    rw [if_neg hnone, List.getLast?_concat]

theorem explain_exhausted (h : Passed pre) (n : Nat) (cause : RouteError) :
    Explain pre (.validationExhausted n cause) where
  uncreated hm := absurd hm (h.not_mem rfl)
  exhausted _ _ := ⟨n, cause, rfl⟩
  refused _ valid opened := by
    refine absurd (fun t ht => ?_) opened
    rcases h t ht with hclosed | ⟨i, rfl⟩
    · exact hclosed
    · exact absurd ht (valid i)

end Trial

section Searching

variable [Backend D] {others : World D → World D → Prop} {kept : Prop} {s m s' : Schedule (World D)}
  {l l₁ l₂ : List (Stretch (World D))} {pre ts : List (Option Trial)} {t : Trial} {r : Except RouteError HandleId}

/-- What is so when a search is over that came after other trials, and what it contributed. -/
structure Searched (others : World D → World D → Prop) (kept : Prop) (s s' : Schedule (World D))
    (l : List (Stretch (World D))) (pre ts : List (Option Trial)) (r : Except RouteError HandleId) : Prop where
  leads : s.world.Leads others kept s'.world
  orderly : s'.Orderly others kept (handed r.toOption)
  counted (q : PoolId) : gain (activeOf q) l = s'.world.share q r.toOption
  evicted {h : HandleId} (invalid : some (.invalid h) ∈ ts) : h < s'.world.handles.length ∧
    (s'.world.handle h).returned = true ∧ s'.world.Rid (s'.world.handle h).conn (h + 1)
  checked {h : HandleId} (valid : r = .ok h) : ts.getLast? = some (some (.valid h)) ∧ s'.world.JustValid h
  failed {e : RouteError} (error : r = .error e) : Trial.Explain (pre ++ ts) e

/-- A trial that is not passed ends the search. -/
theorem Searched.last (ht : t.isPassing = false) (hlent : t.lent? = r.toOption)
    (hleads : s.world.Leads others kept m.world)
    (htried : Tried others kept m t) (hgain : ∀ q, gain (activeOf q) l = m.world.share q t.lent?)
    (hfailed : ∀ e, r = .error e → Trial.Explain (pre ++ [some t]) e) : Searched others kept s m l pre [some t] r where
  leads := hleads
  orderly := hlent ▸ htried.orderly
  counted q := hlent ▸ hgain q
  evicted {h} hm := by
    cases List.mem_singleton.1 hm
    cases ht
  checked {h} hr := by
    subst hr
    cases t with
    | valid i =>
      cases hlent
      exact ⟨rfl, htried.checked rfl⟩
    | uncreated | refused | closed | invalid => cases hlent
  failed {e} he := hfailed e he

/-- A trial that is passed comes before the rest of the search. -/
theorem Searched.again (hothers : ∀ w v, others w v → w.Elsewise v) (ht : t.isPassing = true)
    (hleads : s.world.Leads others kept m.world) (htried : Tried others kept m t)
    (hgain : ∀ g, gain g l = gain g l₁ + gain g l₂) (hfirst : ∀ q, gain (activeOf q) l₁ = m.world.share q t.lent?)
    (h : Searched others kept m s' l₂ (pre ++ [some t]) ts r) : Searched others kept s s' l pre (some t :: ts) r where
  leads := hleads.trans h.leads
  orderly := h.orderly
  counted q := by
    rw [hgain, hfirst, Trial.lent?_of_passing ht, h.counted]
    exact zero_add _
  evicted {i} hm := by
    rcases List.mem_cons.1 hm with hm | hm
    · cases hm
      obtain ⟨hi, hreturned, hrid⟩ := htried.evicted rfl
      have hlater := h.leads.ensues hothers
      exact ⟨Nat.lt_of_lt_of_le hi hlater.length_le, hlater.returned i hreturned, hlater.conn i hi ▸ hrid.later hlater⟩
    · exact h.evicted hm
  checked {i} hr := by
    obtain ⟨hlast, hvalid⟩ := h.checked hr
    refine ⟨?_, hvalid⟩
    cases ts with
    | nil => cases hlast
    | cons u us => rwa [List.getLast?_cons_cons]
  failed {e} he := by
    have hexplain := h.failed he
    rwa [List.append_assoc] at hexplain

variable {provider : PooledProvider} {protocol : String} {host : Host} {props : Properties}

/-- A search is a sequence of trials, each of which asks the driver at most once. -/
theorem searched_connectWithin (hothers : ∀ w v, others w v → w.Elsewise v) {left invalid : Nat}
    {cause : Option RouteError} (hs : s.Orderly others kept 0) (hpre : Trial.Passed pre)
    (hinvalid : 0 < invalid ↔ ∃ h, some (.invalid h) ∈ pre) {result : Option (Except RouteError HandleId)}
    (hl : (provider.connectWithin protocol host props left invalid cause).Treads (Traffic kept) others s result s' l) :
    ∃ ts, provider.Trials protocol host props others kept left s ts s' ∧ gain requests l ≤ ts.length ∧
      ∀ r, result = some r → Searched others kept s s' l pre ts r := by
  -- by induction on how many trials are left: each of them passes on to the rest or ends the search
  induction left generalizing s l pre invalid cause with
  | zero =>
    obtain ⟨rfl, rfl, hnone⟩ := treads_pure hl
    refine ⟨[], .done _, Int.le_of_eq (hnone _), ?_⟩
    rintro _ ⟨⟩
    refine ⟨fun T _ => .refl _, hs, fun q => hnone _, nofun, nofun, ?_⟩
    rintro _ ⟨⟩
    rw [List.append_nil]
    exact Trial.explain_exhausted hpre _ _
  | succ left ih =>
    rw [provider.connectWithin_succ] at hl
    rcases treads_bind hl with ⟨rfl, hwait⟩ | ⟨t, m, l₁, l₂, hl₁, hl, hgain⟩
    · exact ⟨[none], .goesOn hwait.plays, requests_trial hwait, nofun⟩
    obtain ⟨hleads, htried, hfirst⟩ := tried_trial hothers hs hl₁
    have hrequest := requests_trial hl₁
    -- a trial that ends the search is followed by nothing that counts
    have hlast : ∀ r, t.isPassing = false → t.lent? = r.toOption →
        (∀ e, r = .error e → Trial.Explain (pre ++ [some t]) e) →
        (pure r : Routine (World D) _).Treads (Traffic kept) others m result s' l₂ →
        ∃ ts, provider.Trials protocol host props others kept (left + 1) s ts s' ∧ gain requests l ≤ ts.length ∧
          ∀ r, result = some r → Searched others kept s s' l pre ts r := fun r ht hlent hfailed hend => by
      obtain ⟨rfl, rfl, hnone⟩ := treads_pure hend
      have hsame : ∀ g, gain g l = gain g l₁ := fun g => by rw [hgain, hnone, add_zero]
      refine ⟨[some t], .last ht hl₁.plays, by rw [hsame]; exact hrequest, ?_⟩
      rintro _ ⟨⟩
      exact .last ht hlent hleads htried (fun q => (hsame _).trans (hfirst q)) hfailed
    -- after a trial that passes, the rest is a search with one more trial behind it
    have hagain : ∀ {n : Nat} {cause : Option RouteError}, t.isPassing = true →
        (0 < n ↔ ∃ h, some (.invalid h) ∈ pre ++ [some t]) →
        (provider.connectWithin protocol host props left n cause).Treads (Traffic kept) others m result s' l₂ →
        ∃ ts, provider.Trials protocol host props others kept (left + 1) s ts s' ∧ gain requests l ≤ ts.length ∧
          ∀ r, result = some r → Searched others kept s s' l pre ts r := fun {n cause} ht hn hrest => by
      have horderly := htried.orderly
      rw [Trial.lent?_of_passing ht] at horderly
      obtain ⟨ts, htrials, hrequests, hsearched⟩ := ih horderly (hpre.concat ht) hn hrest
      refine ⟨some t :: ts, .again ht hl₁.plays htrials, ?_, fun r hr =>
        .again hothers ht hleads htried hgain hfirst (hsearched r hr)⟩
      rw [hgain, List.length_cons]
      push_cast
      omega
    cases t with
    | uncreated e =>
      refine hlast (.error e) rfl rfl ?_ hl
      rintro _ ⟨⟩
      exact Trial.explain_uncreated hpre
    | refused e =>
      refine hlast (.error (if 0 < invalid then .validationExhausted invalid e else e)) rfl rfl ?_ hl
      rintro _ ⟨⟩
      exact Trial.explain_refused hpre hinvalid
    | valid h => exact hlast (.ok h) rfl rfl nofun hl
    | closed e => exact hagain rfl (by simpa using hinvalid) hl
    | invalid h => exact hagain rfl (by simp) hl

/-- What is so when a search for a valid connection is over. -/
structure Vetted (others : World D → World D → Prop) (s' : Schedule (World D)) (l : List (Stretch (World D)))
    (ts : List (Option Trial)) (r : Except RouteError HandleId) : Prop where
  /-- It counts once, for the pool of the handle that it found, and not at all if it fails. -/
  counted (q : PoolId) : gain (activeOf q) l = s'.world.share q r.toOption
  /-- The handle that it found is out, and the last thing that happened is that it passed its check. -/
  checked {h : HandleId} (valid : r = .ok h) :
    ts.getLast? = some (some (.valid h)) ∧ s'.world.JustValid h ∧ (s'.world.handle h).returned = false
  /-- Whatever failed the check is closed. -/
  ended {h : HandleId} (invalid : some (.invalid h) ∈ ts) :
    (s'.world.handle h).returned = true ∧ s'.world.Ended others (s'.world.handle h).conn
  /-- No later handle has it, whatever happens from now on. -/
  gone {h : HandleId} (invalid : some (.invalid h) ∈ ts) {s'' : Schedule (World D)}
    (run : Schedule.Run (Traffic False) others s' s'') (distinct : s''.world.opened.Nodup) {i : HandleId}
    (later : h < i)
    (lt : i < s''.world.handles.length) : (s''.world.handle i).conn ≠ (s'.world.handle h).conn
  explained {e : RouteError} (error : r = .error e) : Trial.Explain ts e

theorem Searched.vetted (hothers : ∀ w v, others w v → w.Elsewise v) (h : Searched others False s s' l [] ts r) :
    Vetted others s' l ts r where
  counted := h.counted
  checked {i} hr := by
    obtain ⟨hlast, hvalid⟩ := h.checked hr
    have horderly := h.orderly
    rw [hr] at horderly
    exact ⟨hlast, hvalid, (out_of_orderly hothers horderly).2.1⟩
  ended {i} hi := by
    obtain ⟨-, hreturned, hrid⟩ := h.evicted hi
    exact ⟨hreturned, h.orderly.ended hothers hrid.told⟩
  gone {i} hi s'' run distinct j later lt :=
    ((h.evicted hi).2.2.later ((h.orderly.run run).1.ensues hothers)).barred distinct j later lt
  explained := h.failed

/-- Whoever asks for a connection gets one that passed its check just now, after no more trials than are allowed. -/
theorem PooledProvider.vetted_of_connect (hothers : ∀ w v, others w v → w.Elsewise v) {s₀ : Schedule (World D)}
    (hunused : s₀.world.Unused False) (hparked : s₀.parked = []) (hrun : Schedule.Run (Traffic False) others s₀ s)
    {result : Option (Except RouteError HandleId)}
    (hl : (provider.connect protocol host props).Treads (Traffic False) others s result s' l) :
    ∃ ts, provider.Trials protocol host props others False provider.maxRetries s ts s' ∧
      ts.length ≤ provider.maxRetries ∧ gain requests l ≤ provider.maxRetries ∧
        ∀ r, result = some r → Vetted others s' l ts r := by
  have hs := ((orderly_of_unused hunused hparked).run hrun).2
  have hpassed : Trial.Passed [] := nofun
  obtain ⟨ts, htrials, hrequests, hsearched⟩ := searched_connectWithin hothers hs hpassed (by simp) hl
  have hlen := htrials.length_le
  refine ⟨ts, htrials, hlen, hrequests.trans (Int.ofNat_le.2 hlen), fun r hr => (hsearched r hr).vetted hothers⟩

end Searching

/-! ### A connection that turns out to be no good -/

namespace Doubt

open Sim

def provider : PooledProvider := { maxRetries := 2 }

/-- The first connection to the host will fail its check. -/
def start : Schedule (World Cluster) where
  world := {
    backend := { scripts := [("w", { invalidNext := 1 })] }
    cache := .empty (.ofSeconds 60) (.ofSeconds 60) 0 }

theorem isSome_found :
    (provider.connect "db" Stage.writer [] start.clock start.world).value?.isSome = true := by decide +kernel

/-- Somebody asks for a connection. -/
def found : Except RouteError HandleId × World Cluster :=
  (provider.connect "db" Stage.writer [] start.clock start.world).value?.get isSome_found

/-- After that. -/
def after : Schedule (World Cluster) := { start with world := found.2 }

theorem isSome_first : (provider.trial "db" Stage.writer [] 1 start.clock start.world).value?.isSome = true := by
  decide +kernel

/-- The first trial. -/
def first : Trial × World Cluster :=
  (provider.trial "db" Stage.writer [] 1 start.clock start.world).value?.get isSome_first

theorem unused_start : start.world.Unused False where
  cached _ _ h := by cases h
  kept h := h.elim
  handles := rfl
  orphans := rfl
  opened := rfl
  hungUp := rfl
  pools _ hP := by cases hP

end Doubt

/-- The first connection fails its check and is closed, the second one is handed out, and only that one counts. -/
theorem PooledProvider.vetted_of_doubt :
    Doubt.found.1.toOption = some 1 ∧ Doubt.after.world.JustValid 1 ∧ (Doubt.after.world.handle 0).conn = 0 ∧
      Doubt.after.world.isClosed 0 = true ∧
      (∀ s, Schedule.Run (Traffic False) Yard.Meanwhile Doubt.after s → s.world.opened.Nodup →
        ∀ i, 0 < i → i < s.world.handles.length → (s.world.handle i).conn ≠ 0) ∧
      ∀ l, (Doubt.provider.connect "db" Stage.writer []).Treads (Traffic False) Yard.Meanwhile Doubt.start
        (some Doubt.found.1) Doubt.after l → gain (activeOf 0) l = 1 ∧ gain requests l ≤ 2 := by
  have hplays : (Doubt.provider.connect "db" Stage.writer []).Plays (Traffic False) Yard.Meanwhile Doubt.start
      (some Doubt.found.1) Doubt.after :=
    Outcome.plays_of_value? (Option.some_get Doubt.isSome_found).symm
  obtain ⟨l, hl⟩ := hplays.treads
  obtain ⟨ts, htrials, -, -, h⟩ := vetted_of_connect Yard.elsewise_of_meanwhile Doubt.unused_start rfl .refl hl
  have h := h _ rfl
  -- the first trial is the one that failed, whatever else happens beside it
  have hinvalid : some (.invalid 0) ∈ ts := by
    have hfirst : ∀ {r m},
        (Doubt.provider.trial "db" Stage.writer [] 1).Plays (Traffic False) Yard.Meanwhile Doubt.start r m →
        r = some (.invalid 0) := fun hplays => by
      rw [(Outcome.eq_of_value? (Option.some_get Doubt.isSome_first).symm hplays).1]
      decide +kernel
    have htrials : Doubt.provider.Trials "db" Stage.writer [] Yard.Meanwhile False (1 + 1) Doubt.start ts _ := htrials
    cases htrials with
    | last final plays =>
      cases hfirst plays
      cases final
    | again passing plays rest =>
      cases hfirst plays
      exact List.mem_cons_self
    | goesOn plays => cases hfirst plays
  have hfound : Doubt.found.1.toOption = some 1 := by decide +kernel
  have hconn : (Doubt.after.world.handle 0).conn = 0 := by decide +kernel
  refine ⟨hfound, ?_, hconn, ?_, fun s hrun distinct i hi lt => ?_, fun l hl => ?_⟩
  · refine (h.checked ?_).2.1
    decide +kernel
  · have hclosed : Doubt.after.world.isClosed (Doubt.after.world.handle 0).conn = true :=
      (h.ended hinvalid).2.2 inferInstance Yard.later_of_meanwhile
    rwa [hconn] at hclosed
  · have hne : (s.world.handle i).conn ≠ (Doubt.after.world.handle 0).conn := h.gone hinvalid hrun distinct hi lt
    rwa [hconn] at hne
  · obtain ⟨ts, -, -, hrequests, h⟩ := vetted_of_connect Yard.elsewise_of_meanwhile Doubt.unused_start rfl .refl hl
    have hcounted := (h _ rfl).counted 0
    rw [hfound] at hcounted
    have hpool : Doubt.after.world.share 0 (some 1) = 1 := by decide +kernel
    exact ⟨hcounted.trans hpool, hrequests⟩

end ReplicaRouter
