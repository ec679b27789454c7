import ReplicaRouter.Proofs.Keeping
import ReplicaRouter.Proofs.Upkeep
/-
What links are to the world that they lead into: known once they were provided, new if they were
provided since an earlier world, and shut once they were closed. Providing, closing, holding and
letting go of links is upkeep.
Main statements: a link that is provided is a new one (`Providers.meets_connect`), and closing a known
link shuts it (`Link.meets_close`).
-/
namespace ReplicaRouter

variable {D : Type}

/-- The connection that the entry tells was opened, if it tells so. -/
def Entry.opened? : Entry → Option ConnId
  | call (.connect _ _ _ opened) => opened
  | _ => none

namespace World

/-! ## Known, new and shut links -/

/-- The connections that were opened, the latest first. -/
def opened (w : World D) : List ConnId := w.journal.filterMap Entry.opened?

/-- Whether the link was provided. -/
def Knows (w : World D) : Link → Prop
  | .direct c => c ∈ w.opened
  | .pooled h => h < w.handles.length

/-- Whether the link was provided between two worlds. -/
def Newly (w w' : World D) : Link → Prop
  | .direct c => ∃ es, w'.journal = es ++ w.journal ∧ c ∈ es.filterMap Entry.opened?
  | .pooled h => w.handles.length ≤ h ∧ h < w'.handles.length

/-- Whether the link was closed: the connection itself was, or the borrowed one was given back. -/
def Shut (w : World D) : Link → Prop
  | .direct c => ∃ r, .call (.close c r) ∈ w.journal
  | .pooled h => (w.handle h).returned = true

/-- The connection that the link leads to. -/
def connOf (w : World D) : Link → ConnId
  | .direct c => c
  | .pooled h => (w.handle h).conn

/-- Whatever happens, the journal only grows. -/
structure Grows (w w' : World D) : Prop extends HandlesStay w w' where
  journal : ∃ es, w'.journal = es ++ w.journal

theorem Upkeep.grows {w w' : World D} (h : w.Upkeep w') : w.Grows w' :=
  ⟨h.toHandlesStay, h.quiet.imp fun _ h => h.2⟩

theorem Grows.refl (w : World D) : w.Grows w := (Upkeep.refl w).grows

theorem Grows.trans {u v w : World D} (h1 : u.Grows v) (h2 : v.Grows w) : u.Grows w := by
  obtain ⟨es, h1j⟩ := h1.journal
  obtain ⟨fs, h2j⟩ := h2.journal
  exact ⟨h1.toHandlesStay.trans h2.toHandlesStay, fs ++ es, by rw [h2j, h1j, List.append_assoc]⟩

/-- Writing anything down makes the journal grow. -/
theorem Grows.note (e : Entry) (w : World D) : w.Grows (Journaled.note e w) :=
  ⟨⟨Nat.le_refl _, fun _ _ => rfl, fun _ h => h⟩, [e], rfl⟩

section Grows

variable {w w' : World D} {l : Link}

theorem Grows.opened_eq (h : w.Grows w') : ∃ cs, w'.opened = cs ++ w.opened := by
  obtain ⟨es, hj⟩ := h.journal
  exact ⟨es.filterMap Entry.opened?, by rw [opened, hj, List.filterMap_append]; rfl⟩

/-- Connections that were opened once were opened once before. -/
theorem Grows.nodup (h : w.Grows w') (hn : w'.opened.Nodup) : w.opened.Nodup := by
  obtain ⟨cs, hc⟩ := h.opened_eq
  rw [hc] at hn
  exact (List.nodup_append.1 hn).2.1

theorem Knows.mono (h : w.Grows w') (hl : w.Knows l) : w'.Knows l := by
  cases l with
  | direct c =>
    obtain ⟨cs, hc⟩ := h.opened_eq
    show c ∈ w'.opened
    rw [hc]
    exact List.mem_append_right _ hl
  | pooled i => exact Nat.lt_of_lt_of_le hl h.length_le

theorem Shut.mono (h : w.Grows w') (hl : w.Shut l) : w'.Shut l := by
  cases l with
  | direct c =>
    obtain ⟨es, hj⟩ := h.journal
    obtain ⟨r, hr⟩ := hl
    exact ⟨r, by rw [hj]; exact List.mem_append_right _ hr⟩
  | pooled i => exact h.returned i hl

theorem Newly.knows (h : w.Newly w' l) : w'.Knows l := by
  cases l with
  | direct c =>
    obtain ⟨es, hj, hc⟩ := h
    show c ∈ w'.opened
    rw [opened, hj, List.filterMap_append]
    exact List.mem_append_left _ hc
  | pooled i => exact h.2

/-- A new link was not known, unless the driver opened a connection twice. -/
theorem Newly.not_knows (h : w.Newly w' l) (hn : w'.opened.Nodup) : ¬ w.Knows l := by
  intro hl
  cases l with
  | direct c =>
    obtain ⟨es, hj, hc⟩ := h
    rw [opened, hj, List.filterMap_append] at hn
    exact (List.nodup_append.1 hn).2.2 c hc c hl rfl
  | pooled i => exact Nat.lt_irrefl _ (Nat.lt_of_lt_of_le hl h.1)

/-- A link that is new since a later world is new since an earlier one. -/
theorem Newly.before {v : World D} (hv : v.Grows w) (h : w.Newly w' l) : v.Newly w' l := by
  cases l with
  | direct c =>
    obtain ⟨es, hj, hc⟩ := h
    obtain ⟨fs, hw⟩ := hv.journal
    refine ⟨es ++ fs, by rw [hj, hw, List.append_assoc], ?_⟩
    rw [List.filterMap_append]
    exact List.mem_append_left _ hc
  | pooled i => exact ⟨Nat.le_trans hv.length_le h.1, h.2⟩

theorem Newly.later {v : World D} (hv : w'.Grows v) (h : w.Newly w' l) : w.Newly v l := by
  cases l with
  | direct c =>
    obtain ⟨es, hj, hc⟩ := h
    obtain ⟨fs, hw⟩ := hv.journal
    refine ⟨fs ++ es, by rw [hw, hj, List.append_assoc], ?_⟩
    rw [List.filterMap_append]
    exact List.mem_append_right _ hc
  | pooled i => exact ⟨h.1, Nat.lt_of_lt_of_le h.2 hv.length_le⟩

end Grows

end World

/-! ## Links -/

namespace Link

variable {others : World D → World D → Prop}

open World

/-- What is marked as given back is shut. -/
theorem meets_markReturned (h : HandleId) (w : World D) :
    Routine.Meets others (markReturned h) w w.Upkeep fun _ w' =>
      w.Upkeep w' ∧ (w.Knows (.pooled h) → w'.Shut (.pooled h)) := by
  have hm : w.Upkeep (w.modifyHandle h fun e => { e with returned := true }) := by
    refine Aside.upkeep (.modifyHandle ?_ ?_ w)
    · intro _; rfl
    · intro _ _; rfl
  refine Routine.meets_get_bind fun now => ⟨hm, fun hk => ?_⟩
  show (World.handle _ h).returned = true
  rw [handle_modifyHandle hk, if_pos rfl]

variable [Bystanders others]

theorem keeps_hold (l : Link) : Routine.Keeps others Upkeep l.hold := by
  cases l with
  | direct c => exact Routine.keeps_pure _
  | pooled h => exact keeps_modifyHandle h (fun _ => rfl) fun _ h => h

variable [Backend D]

/-- An operation that is sent over a link either goes to its connection, or finds the link given back
and goes nowhere. -/
theorem meets_invoke (l : Link) (op : Operation) (w : World D) :
    Routine.Meets others (l.invoke op) w w.Aside fun r w' =>
      (∃ o v, w.Aside v ∧ w' = Journaled.note (.call (.invoke (w.connOf l) o op r)) v) ∨
        (w' = w ∧ ∃ e, r = .error e ∧ e.isFailover = false) := by
  cases l with
  | direct c => exact (meets_send c op w).imp fun r w' h => .inl h
  | pooled h =>
    refine Routine.meets_get_bind ?_
    dsimp only
    split
    · exact fun _ => .inr ⟨rfl, _, rfl, rfl⟩
    · exact (meets_send _ op w).imp fun r w' h => .inl h

theorem keeps_isValid (l : Link) (limit : Duration) : Routine.Keeps others Upkeep (l.isValid limit) := by
  cases l with
  | direct c => exact keeps_check c limit
  | pooled h =>
    refine Routine.keeps_bind Routine.keeps_get fun w => ?_
    dsimp only
    split
    · exact Routine.keeps_pure _
    · exact Routine.keeps_bind (Routine.keeps_within (keeps_check _ _) _) fun _ => Routine.keeps_pure _

theorem meets_giveBack (h : HandleId) (w : World D) :
    Routine.Meets others (giveBack h) w w.Upkeep fun _ w' =>
      w.Upkeep w' ∧ (w.Knows (.pooled h) → w'.Shut (.pooled h)) := by
  refine Routine.meets_bind ((meets_markReturned h w).imp ?_)
  rintro first v ⟨hu, hs⟩
  refine Routine.Meets.mono ((?_ : Routine.Keeps others Upkeep _) v) (fun _ => hu.trans) fun _ _ h =>
    ⟨hu.trans h, fun hk => (hs hk).mono h.grows⟩
  split
  · refine Routine.keeps_bind (keeps_reclaim h) fun c => ?_
    cases c with
    | some c => exact Routine.keeps_bind (keeps_hangUpQuietly c) fun _ => keeps_dropPermit h
    | none => exact keeps_dropPermit h
  · exact Routine.keeps_pure _

/-- Closing a known link shuts it. A connection of its own is closed by one call. -/
theorem meets_close (l : Link) (w : World D) :
    Routine.Meets others l.close w w.Upkeep fun r w' => w.Upkeep w' ∧ (w.Knows l → w'.Shut l) ∧
      ∀ c, l = .direct c → ∃ v, w.Aside v ∧ w' = Journaled.note (.call (.close c r)) v := by
  cases l with
  | direct c =>
    refine (meets_call (Backend.close c) (fun r => .call (.close c r)) w).mono (fun _ h => h.upkeep) ?_
    rintro r _ ⟨v, hv, rfl⟩
    refine ⟨hv.upkeep.trans (.note rfl v), fun _ => ⟨r, List.mem_cons_self⟩, ?_⟩
    rintro _ ⟨⟩
    exact ⟨v, hv, rfl⟩
  | pooled h =>
    exact Routine.meets_bind ((meets_giveBack h w).imp fun _ _ hq _ => ⟨hq.1, hq.2, fun _ h => nomatch h⟩)

theorem meets_closeQuietly (l : Link) (w : World D) :
    Routine.Meets others l.closeQuietly w w.Upkeep fun _ w' =>
      w.Upkeep w' ∧ (w.Knows l → w'.Shut l) := by
  refine Routine.meets_bind ((meets_close l w).imp ?_)
  rintro r w' ⟨hu, hs, -⟩
  cases r with
  | ok _ => exact fun _ => ⟨hu, hs⟩
  | error e =>
    exact (keeps_log _ _ w').mono (fun _ => hu.trans) fun _ _ h =>
      ⟨hu.trans h, fun hk => (hs hk).mono h.grows⟩

theorem keeps_settle (l : Link) : Routine.Keeps others Upkeep l.settle := by
  cases l with
  | direct c => exact Routine.keeps_pure _
  | pooled h =>
    refine Routine.keeps_bind Routine.keeps_get fun w => ?_
    split
    · exact keeps_abandon h
    · exact Routine.keeps_pure _

theorem keeps_letGo (l : Link) : Routine.Keeps others Upkeep l.letGo := by
  cases l with
  | direct c => exact Routine.keeps_pure _
  | pooled h =>
    exact Routine.keeps_bind (keeps_modifyHandle h (fun _ => rfl) fun _ h => h) fun _ => keeps_settle _

end Link

/-! ## Pools -/

/-- Releasing a pool closes it. -/
theorem poolKeeper_release {others R : World D → World D → Prop} [Frame others R] [Backend D]
    (hclose : ∀ id, Routine.Keeps others R (World.closePool id)) (id : PoolId) :
    Routine.Keeps others R ((poolKeeper (D := D)).release id) := by
  refine Routine.keeps_bind (hclose id) fun r => ?_
  cases r <;> exact Routine.keeps_pure _

/-- What the cache of pools does is upkeep. -/
theorem poolKeeper_bears_upkeep {others : World D → World D → Prop} [Bystanders others] [Backend D] :
    (poolKeeper (D := D)).Bears others World.Upkeep :=
  ⟨fun _ => World.keeps_modify (fun _ => rfl) fun _ => rfl, World.keeps_log,
    poolKeeper_release World.keeps_closePool⟩

/-! ## Providers -/

theorem Except.map_eq_ok {ε α β : Type} {f : α → β} {x : Except ε α} {b : β} (h : x.map f = .ok b) :
    ∃ a, x = .ok a ∧ b = f a := by
  cases x with
  | error e => cases h
  | ok a => cases h; exact ⟨a, rfl, rfl⟩

section Providers

open World

/-- Between two worlds there was nothing but upkeep, and the link, if there is one, was provided. -/
structure World.Provides (w : World D) (r : Except RouteError Link) (w' : World D) : Prop where
  upkeep : w.Upkeep w'
  newly : ∀ l, r = .ok l → w.Newly w' l

theorem World.Provides.refused {w w' : World D} (h : w.Upkeep w') (e : RouteError) :
    w.Provides (.error e) w' :=
  ⟨h, fun _ h => nomatch h⟩

theorem World.Provides.since {u w w' : World D} {r : Except RouteError Link} (hu : u.Upkeep w)
    (h : w.Provides r w') : u.Provides r w' :=
  ⟨hu.trans h.upkeep, fun l hl => (h.newly l hl).before hu.grows⟩

theorem World.Provides.later {w v w' : World D} {r : Except RouteError Link} (h : w.Provides r v)
    (hv : v.Upkeep w') : w.Provides r w' :=
  ⟨h.upkeep.trans hv, fun l hl => (h.newly l hl).later hv.grows⟩

theorem PooledProvider.upkeep_createPool (provider : PooledProvider) (key protocol : String) (host : Host)
    (props : Properties) (w : World D) :
    w.Upkeep (provider.createPool key protocol host props w).2 := by
  unfold createPool
  dsimp only
  split
  · exact (Upkeep.note rfl w).trans (.of_eq rfl rfl)
  · exact Upkeep.note rfl w

variable {others : World D → World D → Prop}

/-- Lending hands out a new handle. -/
theorem World.meets_lend (id : PoolId) (c : ConnId) (w : World D) :
    Routine.Meets others (lend id c) w w.Upkeep fun h w' => w.Provides (.ok (.pooled h)) w' := by
  intro now
  have hu : w.Upkeep (w.modifyPool id Pool.lend) := .of_eq rfl rfl
  refine ⟨hu.trans (Aside.append_handle _ _).upkeep, ?_⟩
  rintro _ ⟨⟩
  exact ⟨Nat.le_refl _, by simp [modifyPool]⟩

variable [Bystanders others] [Backend D]

theorem World.meets_borrow (id : PoolId) (w : World D) :
    Routine.Meets others (borrow id) w w.Upkeep fun r w' => w.Provides (r.map Link.pooled) w' := by
  refine Routine.meets_get_bind ?_
  dsimp only
  split
  · exact fun _ => .refused (.refl w) _
  · refine Routine.meets_bind ((keeps_acquire id w).imp fun r v hv => ?_)
    cases r with
    | error e => exact fun _ => .refused hv _
    | ok _ =>
      refine Routine.meets_bind (Routine.Meets.since hv ((keeps_takeOrOpen id v).imp ?_))
      intro r u hu
      cases r with
      | error e =>
        exact Routine.meets_bind (((keeps_releasePermit id u).since (hv.trans hu)).imp
          fun _ _ h _ => .refused ((hv.trans hu).trans h) e)
      | ok c =>
        exact Routine.meets_bind (((meets_lend id c u).since (hv.trans hu)).imp
          fun _ _ h _ => h.since (hv.trans hu))

theorem PooledProvider.meets_connectWithin (provider : PooledProvider) (protocol : String) (host : Host)
    (props : Properties) (left invalid : Nat) (cause : Option RouteError) (w : World D) :
    Routine.Meets others (provider.connectWithin protocol host props left invalid cause) w w.Upkeep
      fun r w' => w.Provides (r.map Link.pooled) w' := by
  induction left generalizing invalid cause w with
  | zero => exact fun _ => .refused (.refl w) _
  | succ left ih =>
    -- what the next try provides was not there before this one either
    have again : ∀ {v : World D}, w.Upkeep v → ∀ n cause,
        Routine.Meets others (provider.connectWithin protocol host props left n cause) v w.Upkeep
          fun r w' => w.Provides (r.map Link.pooled) w' := fun hv n cause =>
      ((ih n cause _).since hv).imp fun _ _ h => h.since hv
    refine Routine.meets_bind
      ((poolKeeper_bears_upkeep.computeIfAbsent _ (provider.upkeep_createPool _ _ _ _) w).imp fun r v hv => ?_)
    cases r with
    | error e => exact fun _ => .refused hv _
    | ok id =>
      refine Routine.meets_bind (((meets_borrow id v).since hv).imp fun r u hu => ?_)
      have hwu := hu.since hv
      cases r with
      | error e =>
        refine Routine.meets_get_bind ?_
        split
        · refine Routine.meets_bind (((keeps_log _ _ u).since hwu.upkeep).imp ?_)
          exact fun _ x hx => again (hwu.upkeep.trans hx) _ _
        · split <;> exact fun _ => .refused hwu.upkeep _
      | ok h =>
        -- the borrowed connection is checked, and given up if it is not valid
        refine Routine.meets_get_bind ?_
        refine Routine.meets_bind (((Link.keeps_isValid _ _ u).since hwu.upkeep).imp ?_)
        intro valid x hx
        have hwx := hwu.later hx
        split
        · exact fun _ => hwx
        · refine Routine.meets_bind (((keeps_log _ _ x).since hwx.upkeep).imp ?_)
          intro _ y hy
          have hwy := hwx.upkeep.trans hy
          refine Routine.meets_bind (((keeps_evict h y).since hwy).imp ?_)
          exact fun _ z hz => again (hwy.trans hz) _ _

/-- A link that is provided is a new one. Where nothing is pooled it is a connection of its own. -/
theorem Providers.meets_connect (ps : Providers) (protocol : String) (host : Host) (props : Properties)
    (w : World D) :
    Routine.Meets others (ps.connect protocol host props) w w.Upkeep fun r w' =>
      w.Provides r w' ∧ (ps.pooled = none → ∀ l, r = .ok l → ∃ c, l = .direct c) := by
  refine Routine.meets_bind ((keeps_log _ _ w).imp fun _ v hv => ?_)
  split
  · next provider hprovider =>
    have hpooled : ps.pooled ≠ none := by
      rw [(Option.filter_eq_some_iff.1 hprovider).1]
      exact Option.some_ne_none _
    exact Routine.meets_bind (((provider.meets_connectWithin protocol host props _ _ _ v).since hv).imp
      fun _ _ h _ => ⟨h.since hv, fun hn => absurd hn hpooled⟩)
  · refine Routine.meets_bind (((meets_dial protocol host props v).mono (fun _ h => h.upkeep)
      fun _ _ h => h).since hv |>.imp ?_)
    rintro r _ ⟨u, hu, rfl⟩ now
    refine ⟨.since hv ⟨hu.upkeep.trans (.note rfl u), fun l hl => ?_⟩, fun _ l hl => ?_⟩
    · obtain ⟨c, rfl, rfl⟩ := Except.map_eq_ok hl
      refine ⟨[.call (.connect protocol host props (some c))], by rw [← hu.journal]; rfl, ?_⟩
      exact List.mem_singleton_self c
    · obtain ⟨c, -, rfl⟩ := Except.map_eq_ok hl
      exact ⟨c, rfl⟩

end Providers

end ReplicaRouter
