import ReplicaRouter.Proofs.Custody
/-
Nothing is left lying about, as long as nobody forgets what he has to see to: whatever is open, out or kept
has a place, or somebody has to see to it.
Main statements: `World.Reached.tended`, and what follows once nobody has anything to see to any more
(`World.Tended.over`).
-/
namespace ReplicaRouter.World

open Charge

variable {D : Type}

/-- Only hosts that are served from pools were connected to. -/
def AllPooled (w : World D) : Prop :=
  ∀ protocol host props c, .call (.connect protocol host props (some c)) ∈ w.journal →
    PooledProvider.accepts host = true

/-- Where a connection may be. -/
inductive Placed (w : World D) (g : Multiset Charge) (c : ConnId) : Prop
  | charged (charge : conn c ∈ g)
  | orphaned (orphan : c ∈ w.orphans)
  | idle {p : PoolId} (valid : p < w.pools.length) (isOpen : (w.pool p).closed = false) (idle : c ∈ (w.pool p).idle)
  | out {h : HandleId} (valid : h < w.handles.length) (out : (w.handle h).returned = false)
      (conn : (w.handle h).conn = c)

variable [Backend D]

/-- Every connection that is not over has a place, every open pool is in the cache, every handle that is out is
held, and what is in the cache may stay there, unless somebody has to see to it. -/
structure Tended (T : Terms D) (w : World D) (g : Multiset Charge) : Prop where
  opened : w.AllPooled → ∀ c ∈ w.opened, T.outlook.trusting ∨ T.outlook.ended c w.backend ∨ w.Placed g c
  pools : ∀ p < w.pools.length, (w.pool p).closed = false → .pool p ∈ g ∨ ∃ k, w.poolAt? k = some p
  handles : ∀ h < w.handles.length, (w.handle h).returned = false → fresh h ∈ g ∨ 0 < (w.handle h).holders
  holders : ∀ h < w.handles.length, (w.handle h).holders ≤ g.count (ref h)
  cached : ∀ k, w.poolAt? k ≠ none → licence ∈ g ∨ ∃ ks, clearing ks ∈ g ∧ k ∈ ks

variable {T : Terms D} {w w' : World D} {a b rest g : Multiset Charge}

theorem Pristine.tended (h : w.Pristine) : w.Tended T 0 where
  opened _ c hc := by rw [h.opened_eq] at hc; cases hc
  pools p hp := by rw [h.pools] at hp; cases hp
  handles i hi := by rw [h.handles] at hi; cases hi
  holders i hi := by rw [h.handles] at hi; cases hi
  cached k hk := absurd (h.cached k) hk

omit [Backend D] in
/-- What others have to see to they still have to see to. -/
theorem Placed.of_rest {c : ConnId} (h : conn c ∈ rest) : w.Placed (b + rest) c :=
  .charged (Multiset.mem_add.2 (.inr h))

omit [Backend D] in
/-- A connection stays where it is while pools and handles are as they were. -/
theorem Placed.stay {c : ConnId} (hc : w.Placed g c) (hcharge : conn c ∈ g → w'.Placed b c)
    (horphan : c ∈ w.orphans → w'.Placed b c)
    (hpools : ∀ p < w.pools.length, p < w'.pools.length ∧ (w'.pool p).closed = (w.pool p).closed ∧
      (w'.pool p).idle = (w.pool p).idle)
    (hhandles : ∀ h < w.handles.length, h < w'.handles.length ∧ (w'.handle h).returned = (w.handle h).returned ∧
      (w'.handle h).conn = (w.handle h).conn) : w'.Placed b c := by
  cases hc with
  | charged charge => exact hcharge charge
  | orphaned orphan => exact horphan orphan
  | @idle p valid isOpen idle =>
    obtain ⟨hvalid, hclosed, hidle⟩ := hpools p valid
    exact .idle hvalid (hclosed.trans isOpen) (hidle ▸ idle)
  | @out h valid hout hconn =>
    obtain ⟨hvalid, hreturned, hconn'⟩ := hhandles h valid
    exact .out hvalid (hreturned.trans hout) (hconn'.trans hconn)

omit [Backend D] in
theorem Placed.of_gained {c : ConnId} (h : conn c ∈ b) : w.Placed (b + rest) c :=
  .charged (Multiset.mem_add.2 (.inl h))

/-! ## Connections -/

section Connections

variable {c : ConnId}

theorem Shelf.placed {p : PoolId} {f : Pool → Pool} (shelf : w.Shelf T p f a b) (valid : p < w.pools.length)
    (hc : w.Placed (a + rest) c) : T.outlook.ended c w.backend ∨ (w.modifyPool p f).Placed (b + rest) c := by
  have hlen : (w.modifyPool p f).pools.length = w.pools.length := by simp [World.modifyPool]
  have hhere : (f (w.pool p)).closed = false → c ∈ (f (w.pool p)).idle → (w.modifyPool p f).Placed (b + rest) c := by
    intro hopen hidle
    refine .idle (p := p) (hlen ▸ valid) ?_ ?_
    · rwa [pool_modifyPool valid, if_pos rfl]
    · rwa [pool_modifyPool valid, if_pos rfl]
  cases hc with
  | charged charge =>
    rcases Multiset.mem_add.1 charge with charge | charge
    · cases shelf with
      | put supplied isOpen =>
        cases Multiset.mem_singleton.1 charge
        exact .inr (hhere isOpen List.mem_cons_self)
      | _ => cases Multiset.notMem_zero _ charge
    · exact .inr (.of_rest charge)
  | orphaned orphan => exact .inr (.orphaned orphan)
  | @idle q hq isOpen idle =>
    -- only the shelf that is touched can lose a connection, which then has ended or is charged to somebody
    by_cases he : q = p
    · subst he
      cases shelf with
      | @trimmed gone left split ended =>
        rw [split] at idle
        exact (List.mem_append.1 idle).imp (ended c) (hhere isOpen)
      | @taken gone left d split ended =>
        rw [split] at idle
        rcases List.mem_append.1 idle with hgone | idle
        · exact .inl (ended c hgone)
        · rcases List.mem_cons.1 idle with rfl | hleft
          · exact .inr (.of_gained (Multiset.mem_singleton_self _))
          · exact .inr (hhere isOpen hleft)
      | put supplied _ => exact .inr (hhere isOpen (List.mem_cons_of_mem _ idle))
      | shut => exact .inr (.of_gained (Multiset.mem_coe.2 (List.mem_map_of_mem idle)))
    · refine .inr (.idle (p := q) (hlen ▸ hq) ?_ ?_)
      · rwa [pool_modifyPool valid, if_neg he]
      · rwa [pool_modifyPool valid, if_neg he]
  | out hh hout hconn => exact .inr (.out hh hout hconn)

omit [Backend D] in
theorem Grip.placed {h : HandleId} {f : Handle → Handle} (grip : w.Grip h f a b) (valid : h < w.handles.length)
    (hc : w.Placed (a + rest) c) : (w.modifyHandle h f).Placed (b + rest) c := by
  have hlen : (w.modifyHandle h f).handles.length = w.handles.length := by simp [World.modifyHandle]
  cases hc with
  | charged charge =>
    rcases Multiset.mem_add.1 charge with charge | charge
    · cases grip <;> first | cases Multiset.notMem_zero _ charge | cases Multiset.mem_singleton.1 charge
    · exact .of_rest charge
  | orphaned orphan => exact .orphaned orphan
  | idle hp hopen hidle => exact .idle hp hopen hidle
  | @out j hj hout hconn =>
    have hstay : (f (w.handle h)).conn = (w.handle h).conn → (f (w.handle h)).returned = (w.handle h).returned →
        (w.modifyHandle h f).Placed (b + rest) c := by
      intro hfconn hfreturned
      refine .out (h := j) (hlen ▸ hj) ?_ ?_
      · rw [handle_modifyHandle valid]
        split
        · next he => rw [hfreturned, ← he, hout]
        · exact hout
      · rw [handle_modifyHandle valid]
        split
        · next he => rw [hfconn, ← he, hconn]
        · exact hconn
    cases grip with
    | returned _ =>
      by_cases he : j = h
      · subst he
        exact .of_gained (Multiset.mem_singleton.2 (congrArg conn hconn.symm))
      · refine .out (h := j) (hlen ▸ hj) ?_ ?_
        · rwa [handle_modifyHandle valid, if_neg he]
        · rwa [handle_modifyHandle valid, if_neg he]
    | held => exact hstay rfl rfl
    | loosened => exact hstay rfl rfl

theorem Exchange.placed (exchange : w.Exchange T a b) (hforget : ¬ T.careless) (hc : w.Placed (a + rest) c) :
    T.outlook.trusting ∨ T.outlook.ended c w.backend ∨ w.Placed (b + rest) c := by
  cases hc with
  | charged charge =>
    rcases Multiset.mem_add.1 charge with charge | charge
    · cases exchange with
      | ended ended =>
        cases Multiset.mem_singleton.1 charge
        exact ended.imp_right .inl
      | licensed => cases Multiset.notMem_zero _ charge
      | forgotten _ careless => exact absurd careless hforget
      | _ => cases Multiset.mem_singleton.1 charge
    · exact .inr (.inr (.of_rest charge))
  | orphaned orphan => exact .inr (.inr (.orphaned orphan))
  | idle hp hopen hidle => exact .inr (.inr (.idle hp hopen hidle))
  | out hh hout hconn => exact .inr (.inr (.out hh hout hconn))

/-- Every move leaves a connection in its place, moves it to another one, or finds it to be over. -/
theorem Move.placed (hm : Move T w a w' b) (hforget : ¬ T.careless) (hc : w.Placed (a + rest) c) :
    T.outlook.trusting ∨ T.outlook.ended c w'.backend ∨ w'.Placed (b + rest) c := by
  -- a move touches one place: where that is not the place of this connection, it stays
  cases hm with
  | pool valid shelf => exact .inr (shelf.placed valid hc)
  | handle valid grip => exact .inr (.inr (grip.placed valid hc))
  | exchanged exchange => exact exchange.placed hforget hc
  | beside beside =>
    refine .inr (.inr (hc.stay .charged (fun h => .orphaned (beside.orphans ▸ h)) (fun p hp => ?_) fun h hh => ?_))
    · exact ⟨beside.pools_length ▸ hp, (beside.pool_eq p).2.2, (beside.pool_eq p).2.1⟩
    · exact ⟨beside.handles_length ▸ hh, (beside.handle_eq h).2.2.1, (beside.handle_eq h).2.1⟩
  | opened | strayed | sent | inserted | erased =>
    refine .inr (.inr (hc.stay (fun h => ?_) (fun h => .orphaned h) (fun _ hp => ⟨hp, rfl, rfl⟩)
      fun _ hh => ⟨hh, rfl, rfl⟩))
    refine .of_rest ((Multiset.mem_add.1 h).resolve_left ?_)
    simp
  | @lent p d valid supplied =>
    have hnew : ∀ j < w.handles.length, ({ w with handles := w.handles ++ [{ pool := p, conn := d }] } :
        World D).handle j = w.handle j := fun j => handle_append_of_lt _
    refine .inr (.inr (hc.stay (fun h => ?_) (fun h => .orphaned h) (fun _ hp => ⟨hp, rfl, rfl⟩) fun j hj => ?_))
    · rcases Multiset.mem_add.1 h with h | h
      · cases Multiset.mem_singleton.1 h
        refine .out (h := w.handles.length) (by simp) ?_ ?_
        · rw [handle_append_length]
        · rw [handle_append_length]
      · exact .of_rest h
    · rw [hnew j hj]
      exact ⟨by simp; omega, rfl, rfl⟩
  | stranded d =>
    refine .inr (.inr (hc.stay (fun h => ?_) (fun h => .orphaned (List.mem_append_left _ h))
      (fun _ hp => ⟨hp, rfl, rfl⟩) fun _ hh => ⟨hh, rfl, rfl⟩))
    rcases Multiset.mem_add.1 h with h | h
    · cases Multiset.mem_singleton.1 h
      exact .orphaned (List.mem_append_right _ (List.mem_singleton_self _))
    · exact .of_rest h
  | adopted orphaned =>
    refine .inr (.inr (hc.stay (fun h => ?_) (fun h => ?_) (fun _ hp => ⟨hp, rfl, rfl⟩) fun _ hh => ⟨hh, rfl, rfl⟩))
    · rw [zero_add] at h
      exact .of_rest h
    · rw [orphaned] at h
      rcases List.mem_cons.1 h with rfl | h
      · exact .of_gained (Multiset.mem_singleton_self _)
      · exact .orphaned h
  | @created P made idle =>
    refine .inr (.inr (hc.stay (fun h => ?_) (fun h => .orphaned h) (fun p hp => ?_) fun _ hh => ⟨hh, rfl, rfl⟩))
    · rw [zero_add] at h
      exact .of_rest h
    · rw [pool_append_of_lt P hp]
      exact ⟨by simp; omega, rfl, rfl⟩

end Connections

/-! ## Pools, handles and the cache -/

section Move

variable (hm : Move T w a w' b) (hforget : ¬ T.careless) (ht : w.Tended T (a + rest))
include hm hforget ht

/-- An open pool stays in the cache, or somebody has to see to it. -/
theorem Move.tends_pool {p : PoolId} (hp : p < w'.pools.length) (hopen : (w'.pool p).closed = false) :
    .pool p ∈ b + rest ∨ ∃ k, w'.poolAt? k = some p := by
  -- a pool that was there before was a duty or in the cache; each move says what becomes of either
  have hold : p < w.pools.length → (.pool p ∈ a → .pool p ∈ b + rest ∨ ∃ k, w'.poolAt? k = some p) →
      (∀ k, w.poolAt? k = some p → .pool p ∈ b + rest ∨ ∃ k, w'.poolAt? k = some p) →
        .pool p ∈ b + rest ∨ ∃ k, w'.poolAt? k = some p := by
    intro hp hcharge hcached
    have hopen : (w.pool p).closed = false := by
      refine Bool.eq_false_iff.2 fun h => ?_
      rw [hm.follows.shut p h] at hopen
      cases hopen
    rcases ht.pools p hp hopen with h | ⟨k, hk⟩
    · exact (Multiset.mem_add.1 h).elim hcharge fun h => .inl (Multiset.mem_add.2 (.inr h))
    · exact hcached k hk
  have hhere : ∀ {k}, w'.poolAt? k = some p → .pool p ∈ b + rest ∨ ∃ k, w'.poolAt? k = some p := fun h => .inr ⟨_, h⟩
  cases hm with
  | beside beside =>
    exact hold (beside.pools_length ▸ hp) (fun h => by simp at h) fun k hk => hhere ((beside.cached k).trans hk)
  | pool valid shelf =>
    refine hold (by simpa [World.modifyPool] using hp) (fun h => ?_) fun k hk => hhere hk
    cases shelf <;> simp at h
  | handle valid grip =>
    refine hold hp (fun h => ?_) fun k hk => hhere hk
    cases grip <;> simp at h
  | created made idle =>
    -- a pool that was just created is a duty of its creator, until it is in the cache
    rcases Nat.lt_or_eq_of_le (Nat.le_of_lt_succ (by simpa using hp)) with hlt | rfl
    · exact hold hlt (fun h => by simp at h) fun k hk => hhere hk
    · exact .inl (by simp)
  | @inserted j e absent key =>
    refine hold hp (fun h => ?_) fun k hk => hhere (k := k) ?_
    · obtain rfl : p = e.value := by simpa using h
      exact hhere (k := j) (by rw [poolAt?_insert, if_pos rfl])
    · rw [poolAt?_insert, if_neg, hk]
      rintro rfl
      rw [absent] at hk
      cases hk
  | @erased j q cached =>
    refine hold hp (fun h => by simp at h) fun k hk => ?_
    by_cases he : k = j
    · subst he
      rw [cached] at hk
      cases hk
      exact .inl (by simp)
    · exact hhere (k := k) (by rw [poolAt?_erase, if_neg he, hk])
  | exchanged exchange =>
    refine hold hp (fun h => ?_) fun k hk => hhere hk
    cases exchange with
    | closed closed =>
      cases Multiset.mem_singleton.1 h
      rw [closed] at hopen
      cases hopen
    | forgotten _ careless => exact absurd careless hforget
    | _ => simp at h
  | _ => exact hold hp (fun h => by simp at h) fun k hk => hhere hk

/-- A handle that is out stays held, or somebody has to see to it. -/
theorem Move.tends_handle {h : HandleId} (hh : h < w'.handles.length) (hout : (w'.handle h).returned = false) :
    fresh h ∈ b + rest ∨ 0 < (w'.handle h).holders := by
  -- a handle that was out before was a duty or held; each move says what becomes of either
  have hold : h < w.handles.length → (fresh h ∈ a → fresh h ∈ b + rest ∨ 0 < (w'.handle h).holders) →
      (0 < (w.handle h).holders → fresh h ∈ b + rest ∨ 0 < (w'.handle h).holders) →
        fresh h ∈ b + rest ∨ 0 < (w'.handle h).holders := by
    intro hh hcharge hheld
    have hout : (w.handle h).returned = false := by
      refine Bool.eq_false_iff.2 fun hr => ?_
      rw [hm.follows.returned h hr] at hout
      cases hout
    rcases ht.handles h hh hout with hf | hpos
    · exact (Multiset.mem_add.1 hf).elim hcharge fun h => .inl (Multiset.mem_add.2 (.inr h))
    · exact hheld hpos
  cases hm with
  | beside beside =>
    refine hold (beside.handles_length ▸ hh) (fun h => by simp at h) fun hpos => .inr ?_
    rwa [(beside.handle_eq h).2.2.2]
  | pool valid shelf =>
    refine hold hh (fun h => ?_) .inr
    cases shelf <;> simp at h
  | @handle j f _ _ valid grip =>
    refine hold (by simpa [World.modifyHandle] using hh) (fun h => ?_) fun hpos => ?_
    · cases grip <;> simp at h
    · -- of the ways to touch a handle only loosening it may take its last holder away, and that leaves a duty
      rw [handle_modifyHandle valid] at hout ⊢
      split
      · next he =>
        subst he
        rw [if_pos rfl] at hout
        cases grip with
        | returned => cases hout
        | held => exact .inr (Nat.succ_pos _)
        | loosened => exact .inl (by simp)
      · exact .inr hpos
  | lent valid supplied =>
    rcases Nat.lt_or_eq_of_le (Nat.le_of_lt_succ (by simpa using hh)) with hlt | rfl
    · refine hold hlt (fun h => by simp at h) fun hpos => .inr ?_
      rwa [handle_append_of_lt _ hlt]
    · exact .inl (by simp)
  | exchanged exchange =>
    refine hold hh (fun h => ?_) .inr
    cases exchange with
    | settled settled =>
      cases Multiset.mem_singleton.1 h
      rcases settled with hr | hpos
      · rw [hr] at hout
        cases hout
      · exact .inr hpos
    | forgotten _ careless => exact absurd careless hforget
    | _ => simp at h
  | _ => exact hold hh (fun h => by simp at h) .inr

/-- Who counts as a holder of a handle holds it. -/
theorem Move.tends_holders {h : HandleId} (hh : h < w'.handles.length) :
    (w'.handle h).holders ≤ (b + rest).count (ref h) := by
  -- where neither the handle nor its references are touched, the count is what it was
  have hold : h < w.handles.length → (w'.handle h).holders = (w.handle h).holders → ref h ∉ a →
      (w'.handle h).holders ≤ (b + rest).count (ref h) := by
    intro hh heq ha
    have hle := ht.holders h hh
    rw [Multiset.count_add, Multiset.count_eq_zero.2 ha, zero_add] at hle
    rw [heq, Multiset.count_add]
    exact Nat.le_trans hle (Nat.le_add_left _ _)
  cases hm with
  | beside beside =>
    exact hold (beside.handles_length ▸ hh) (beside.handle_eq h).2.2.2 (by simp)
  | pool valid shelf =>
    refine hold hh rfl ?_
    cases shelf <;> simp
  | @handle j f _ _ valid grip =>
    have hh : h < w.handles.length := by simpa [World.modifyHandle] using hh
    have hle := ht.holders h hh
    rw [Multiset.count_add] at hle ⊢
    rw [handle_modifyHandle valid]
    split
    · next he =>
      subst he
      cases grip <;> simp at hle ⊢ <;> omega
    · next he =>
      cases grip <;> simp [he] at hle ⊢ <;> omega
  | lent valid supplied =>
    rcases Nat.lt_or_eq_of_le (Nat.le_of_lt_succ (by simpa using hh)) with hlt | rfl
    · exact hold hlt (by rw [handle_append_of_lt _ hlt]) (by simp)
    · rw [handle_append_length]
      exact Nat.zero_le _
  | exchanged exchange =>
    refine hold hh rfl ?_
    cases exchange with
    | forgotten _ careless => exact absurd careless hforget
    | _ => simp
  | _ => exact hold hh rfl (by simp)

/-- What is in the cache may stay there, or somebody has to take it out. -/
theorem Move.tends_cached {k : String} (hk : w'.poolAt? k ≠ none) :
    licence ∈ b + rest ∨ ∃ ks, clearing ks ∈ b + rest ∧ k ∈ ks := by
  -- what was cached before was licensed or due to be cleared; each move says what becomes of either
  have hold : w.poolAt? k ≠ none → (licence ∈ a → licence ∈ b + rest ∨ ∃ ks, clearing ks ∈ b + rest ∧ k ∈ ks) →
      (∀ ks, clearing ks ∈ a → k ∈ ks → licence ∈ b + rest ∨ ∃ ks, clearing ks ∈ b + rest ∧ k ∈ ks) →
        licence ∈ b + rest ∨ ∃ ks, clearing ks ∈ b + rest ∧ k ∈ ks := by
    intro hk hlicence hclearing
    rcases ht.cached k hk with h | ⟨ks, h, hks⟩
    · exact (Multiset.mem_add.1 h).elim hlicence fun h => .inl (Multiset.mem_add.2 (.inr h))
    · exact (Multiset.mem_add.1 h).elim (fun h => hclearing ks h hks) fun h =>
        .inr ⟨ks, Multiset.mem_add.2 (.inr h), hks⟩
  cases hm with
  | beside beside =>
    exact hold (beside.cached k ▸ hk) (fun h => by simp at h) fun _ h => by simp at h
  | pool valid shelf =>
    refine hold hk (fun h => ?_) fun _ h => ?_
    · cases shelf <;> simp at h
    · cases shelf <;> simp at h
  | handle valid grip =>
    refine hold hk (fun h => ?_) fun _ h => ?_
    · cases grip <;> simp at h
    · cases grip <;> simp at h
  | inserted absent key => exact .inl (by simp)
  | erased cached =>
    refine hold (fun h => hk ?_) (fun h => by simp at h) fun _ h => by simp at h
    rw [poolAt?_erase, h, ite_self]
  | exchanged exchange =>
    refine hold hk (fun h => ?_) fun ks h hks => ?_
    · cases exchange with
      | renounced all => exact .inr ⟨_, by simp, all k hk⟩
      | forgotten _ careless => exact absurd careless hforget
      | _ => simp at h
    · cases exchange with
      | @crossed j js absent =>
        cases Multiset.mem_singleton.1 h
        rcases List.mem_cons.1 hks with rfl | hks
        · exact absurd absent hk
        · exact .inr ⟨js, by simp, hks⟩
      | cleared =>
        cases Multiset.mem_singleton.1 h
        cases hks
      | forgotten _ careless => exact absurd careless hforget
      | _ => simp at h
  | _ => exact hold hk (fun h => by simp at h) fun _ h => by simp at h

end Move

/-- As long as nobody forgets what he has to see to, everything is seen to. -/
theorem Reached.tended (hforget : ¬ T.careless) (h : Reached T w g) : w.Tended T g := by
  induction h with
  | start pristine => exact pristine.tended
  | @move u v a b rest _ hm ih =>
    refine ⟨fun hall c hc => ?_, fun _ => hm.tends_pool hforget ih, fun _ => hm.tends_handle hforget ih,
      fun _ => hm.tends_holders hforget ih, fun _ => hm.tends_cached hforget ih⟩
    have hold : c ∈ u.opened → T.outlook.trusting ∨ T.outlook.ended c v.backend ∨ v.Placed (b + rest) c := by
      intro hc
      have hbefore : u.AllPooled := fun protocol host props d hd =>
        hall protocol host props d (hm.follows.journal.subset hd)
      rcases ih.opened hbefore c hc with htrusting | hended | hplaced
      · exact .inl htrusting
      · exact .inr (.inl (T.outlook.ended_later hm.follows.later hended))
      · exact hm.placed hforget hplaced
    cases hm with
    | beside beside => exact hold (beside.opened_eq ▸ hc)
    | opened protocol host props has =>
      rcases List.mem_cons.1 hc with rfl | hc
      · exact .inr (.inr (.of_gained (Multiset.mem_singleton_self _)))
      · exact hold hc
    | strayed protocol props has stray =>
      have haccepts := hall _ _ _ _ List.mem_cons_self
      rw [stray] at haccepts
      cases haccepts
    | _ => exact hold hc

/-- Once only handles that were given back are held, and no orphan is left, every connection is over. -/
theorem Tended.over (ht : w.Tended T g) (hleft : ∀ e ∈ g, ∃ h, e = ref h ∧ (w.handle h).returned = true)
    (horphans : w.orphans = []) (hall : w.AllPooled) {c : ConnId} (hc : c ∈ w.opened) :
    T.outlook.trusting ∨ T.outlook.ended c w.backend := by
  have habsent : ∀ {e}, e ∈ g → (∀ i, e ≠ ref i) → False := fun he hne => by
    obtain ⟨i, rfl, -⟩ := hleft _ he
    exact hne i rfl
  have hcached : ∀ k, w.poolAt? k = none := by
    intro k
    by_contra hk
    rcases ht.cached k hk with h | ⟨ks, h, -⟩
    · exact habsent h fun _ he => by cases he
    · exact habsent h fun _ he => by cases he
  rcases ht.opened hall c hc with htrusting | hended | hplaced
  · exact .inl htrusting
  · exact .inr hended
  · -- each place where it could be would leave somebody something to see to
    exfalso
    cases hplaced with
    | charged charge => exact habsent charge fun _ he => by cases he
    | orphaned orphan =>
      rw [horphans] at orphan
      cases orphan
    | @idle p valid isOpen idle =>
      rcases ht.pools p valid isOpen with h | ⟨k, hk⟩
      · exact habsent h fun _ he => by cases he
      · rw [hcached] at hk
        cases hk
    | @out h valid out conn =>
      have hheld : ref h ∈ g := by
        rcases ht.handles h valid out with hf | hpos
        · exact (habsent hf fun _ he => by cases he).elim
        · exact Multiset.count_pos.1 (Nat.lt_of_lt_of_le hpos (ht.holders h valid))
      obtain ⟨_, h, hreturned⟩ := hleft _ hheld
      cases h
      rw [out] at hreturned
      cases hreturned

end ReplicaRouter.World
