import ReplicaRouter.Proofs.Provision
import ReplicaRouter.Service
/-
What the work on links does to the world, told from its elementary steps: changing the books, writing things down,
and calling the driver. A relation that bears the elementary steps is kept by all work that is made of them, whatever
others do meanwhile that the relation bears. Some relations look at who holds a handle, or whether it was given back;
these bear light changes of the books only, and handles that are not free are kept out of them.
Main statements: providing a link and running an operation over one keep what every call to the driver keeps
(`World.Obliging.keeps_provide`, `World.Obliging.keeps_perform`), and keeping the books takes no call to the driver
(`World.lenient_silent`).
-/
namespace ReplicaRouter

variable {D : Type} {others R : World D → World D → Prop}

/-! ## Elementary steps -/

namespace World

/-- Between two worlds the books changed, but not who holds a handle, and handles that are not free were not given back
either. -/
structure Light (free : HandleId → Prop) (w w' : World D) : Prop where
  backend : w'.backend = w.backend
  journal : w'.journal = w.journal
  length_le : w.handles.length ≤ w'.handles.length
  holders : ∀ h, (w'.handle h).holders = (w.handle h).holders
  returned : ∀ h, ¬ free h → (w'.handle h).returned = (w.handle h).returned

/-- The relation bears light changes of the books, and whatever is written down that tells of no call to the driver. -/
structure Tolerant (free : HandleId → Prop) (R : World D → World D → Prop) : Prop where
  mend {w w' : World D} (light : w.Light free w') : R w w'
  note {e : Entry} (uncalled : e.isCall = false) (w : World D) : R w (Journaled.note e w)

/-- The relation bears besides that connections are closed. -/
structure Yielding [Backend D] (free : HandleId → Prop) (others R : World D → World D → Prop) : Prop extends
    Tolerant free R where
  hangUp (c : ConnId) : Routine.Keeps others R (hangUp c)

/-- The relation bears besides every other call to the driver. -/
structure Obliging [Backend D] (free : HandleId → Prop) (others R : World D → World D → Prop) : Prop extends
    Yielding free others R where
  dial (protocol : String) (host : Host) (props : Properties) : Routine.Keeps others R (dial protocol host props)
  send (c : ConnId) (op : Operation) : Routine.Keeps others R (send c op)
  check (c : ConnId) (limit : Duration) : Routine.Keeps others R (check c limit)

/-- The relation bears all changes that touch neither the database nor the journal, and what is written down besides
calls to the driver. -/
structure Lenient (R : World D → World D → Prop) : Prop extends Tolerant (fun _ => True) R where
  edit {w w' : World D} (backend : w'.backend = w.backend) (journal : w'.journal = w.journal) : R w w'
  mend := fun light => edit light.backend light.journal

/-- The relation bears all such changes, and that connections are closed. -/
structure Forbearing [Backend D] (others R : World D → World D → Prop) : Prop extends
    Lenient R, Yielding (fun _ => True) others R

/-- The relation bears all such changes, and every call to the driver. -/
structure Patient [Backend D] (others R : World D → World D → Prop) : Prop extends
    Forbearing others R, Obliging (fun _ => True) others R

/-! ### Light changes -/

section Light

variable {free : HandleId → Prop} {w w' : World D} {h : HandleId}

theorem Light.of_eq (hb : w'.backend = w.backend) (hj : w'.journal = w.journal) (hh : w'.handles = w.handles) :
    w.Light free w' := by
  have he : ∀ h, w'.handle h = w.handle h := fun h => by rw [handle, hh]; rfl
  exact ⟨hb, hj, Nat.le_of_eq (by rw [hh]), fun h => by rw [he], fun h _ => by rw [he]⟩

theorem Light.modifyHandle {f : Handle → Handle} (hf : ∀ e, (f e).holders = e.holders)
    (hr : free h ∨ ∀ e, (f e).returned = e.returned) : w.Light free (w.modifyHandle h f) := by
  refine ⟨rfl, rfl, Nat.le_of_eq (by simp [World.modifyHandle]), fun i => ?_, fun i hi => ?_⟩
  · rcases handle_modifyHandle_or h f w i with he | ⟨rfl, he⟩
    · rw [he]
    · rw [he, hf]
  · rcases handle_modifyHandle_or h f w i with he | ⟨rfl, he⟩
    · rw [he]
    · rw [he, hr.resolve_left hi]

/-- Nobody holds a handle that is lent just now. -/
theorem Light.append_handle {e : Handle} (hh : e.holders = 0) (hr : e.returned = false) (w : World D) :
    w.Light free { w with handles := w.handles ++ [e] } := by
  have he : ∀ i, ({ w with handles := w.handles ++ [e] } : World D).handle i = w.handle i ∨
      w.handle i = default ∧ ({ w with handles := w.handles ++ [e] } : World D).handle i = e := by
    intro i
    show (w.handles ++ [e]).getD i default = w.handles.getD i default ∨
      w.handles.getD i default = default ∧ (w.handles ++ [e]).getD i default = e
    grind
  refine ⟨rfl, rfl, by simp, fun i => ?_, fun i _ => ?_⟩
  · rcases he i with he | ⟨hd, he⟩
    · rw [he]
    · rw [he, hd, hh]; rfl
  · rcases he i with he | ⟨hd, he⟩
    · rw [he]
    · rw [he, hd, hr]; rfl

end Light

/-! ### Keeping the books -/

namespace Tolerant

variable {free : HandleId → Prop} (hR : Tolerant free R)
include hR

theorem keeps_modifyPool (id : PoolId) (f : Pool → Pool) : Routine.Keeps others R (modify (modifyPool id f)) :=
  Routine.keeps_modify fun _ => hR.mend (.of_eq rfl rfl rfl)

theorem keeps_log (level : LogLevel) (text : String) : Routine.Keeps others R (Routine.log (W := World D) level text) :=
  Routine.keeps_modify (hR.note rfl)

theorem createPool (others : World D → World D → Prop) [Frame others R] (provider : PooledProvider)
    (key protocol : String) (host : Host) (props : Properties) (w : World D) :
    R w (provider.createPool key protocol host props w).2 := by
  unfold PooledProvider.createPool
  dsimp only
  split
  · exact Frame.trans others (hR.note rfl w) (hR.mend (.of_eq rfl rfl rfl))
  · exact hR.note rfl w

variable [Frame others R] {h : HandleId}

theorem keeps_dropPermit (h : HandleId) : Routine.Keeps others R (dropPermit h) := by
  refine Routine.keeps_bind Routine.keeps_get fun w => ?_
  dsimp only
  split
  · exact Routine.keeps_bind (Routine.keeps_modify fun _ => hR.mend (.modifyHandle (fun _ => rfl) (.inr fun _ => rfl)))
      fun _ => hR.keeps_modifyPool _ _
  · exact Routine.keeps_pure _

theorem keeps_markReturned (hf : free h) : Routine.Keeps others R (markReturned h) := by
  refine Routine.keeps_bind Routine.keeps_get fun _ => Routine.keeps_bind ?_ fun _ => Routine.keeps_pure _
  exact Routine.keeps_modify fun _ => hR.mend (.modifyHandle (fun _ => rfl) (.inl hf))

theorem keeps_acquire (id : PoolId) : Routine.Keeps others R (acquire id) := by
  refine Routine.keeps_bind Routine.keeps_get fun w => ?_
  dsimp only
  split
  · exact Routine.keeps_bind (hR.keeps_modifyPool id _) fun _ => Routine.keeps_pure _
  · refine Routine.keeps_bind (hR.keeps_modifyPool id _) fun _ => Routine.keeps_bind Routine.keeps_now fun now => ?_
    refine Routine.keeps_bind (Routine.keeps_wait _ _) fun ready => Routine.keeps_bind Routine.keeps_get fun w => ?_
    split <;> exact Routine.keeps_bind (hR.keeps_modifyPool id _) fun _ => Routine.keeps_pure _

theorem keeps_lend (id : PoolId) (c : ConnId) : Routine.Keeps others R (lend id c) :=
  Routine.keeps_bind (hR.keeps_modifyPool id _) fun _ =>
    Routine.keeps_modifyGet (f := fun w : World D => (w.handles.length, { w with handles := w.handles ++ [_] }))
      fun w => hR.mend (.append_handle rfl rfl w)

variable [Backend D]

theorem keeps_reclaim (h : HandleId) : Routine.Keeps others R (reclaim h) := by
  refine Routine.keeps_bind Routine.keeps_get fun w => Routine.keeps_bind (hR.keeps_modifyPool _ _) fun _ => ?_
  split
  · exact Routine.keeps_pure _
  · split
    · exact Routine.keeps_pure _
    · exact Routine.keeps_bind (hR.keeps_modifyPool _ _) fun _ => Routine.keeps_pure _

theorem keeps_abandon (hf : free h) : Routine.Keeps others R (abandon h) := by
  refine Routine.keeps_bind (hR.keeps_markReturned hf) fun first => ?_
  split
  · refine Routine.keeps_bind (hR.keeps_reclaim h) fun c => ?_
    cases c with
    | some c =>
      exact Routine.keeps_bind (Routine.keeps_modify fun _ => hR.mend (.of_eq rfl rfl rfl)) fun _ =>
        hR.keeps_dropPermit h
    | none => exact hR.keeps_dropPermit h
  · exact Routine.keeps_pure _

theorem keeps_takeIdle (id : PoolId) : Routine.Keeps others R (takeIdle id) := by
  refine Routine.keeps_bind Routine.keeps_get fun w => ?_
  split <;> exact Routine.keeps_bind (hR.keeps_modifyPool id _) fun _ => Routine.keeps_pure _

end Tolerant

namespace Lenient

variable (hR : Lenient R)
include hR

theorem keeps_modifyHandle (h : HandleId) (f : Handle → Handle) : Routine.Keeps others R (modify (modifyHandle h f)) :=
  Routine.keeps_modify fun _ => hR.edit rfl rfl

variable [Frame others R]

theorem keeps_hold (l : Link) : Routine.Keeps others R l.hold := by
  cases l with
  | direct c => exact Routine.keeps_pure _
  | pooled h => exact hR.keeps_modifyHandle h _

theorem keeps_letGo [Backend D] (l : Link) : Routine.Keeps others R l.letGo := by
  cases l with
  | direct c => exact Routine.keeps_pure _
  | pooled h =>
    refine Routine.keeps_bind (hR.keeps_modifyHandle h _) fun _ => Routine.keeps_bind Routine.keeps_get fun w => ?_
    split
    · exact hR.keeps_abandon trivial
    · exact Routine.keeps_pure _

end Lenient

/-! ### Calling the driver -/

section Calls

variable [Backend D] [Frame others R] {free : HandleId → Prop} {l : Link} {h : HandleId}

namespace Yielding

variable (hR : Yielding free others R)
include hR

theorem keeps_hangUpQuietly (c : ConnId) : Routine.Keeps others R (hangUpQuietly c) := by
  refine Routine.keeps_bind (hR.hangUp c) fun r => ?_
  cases r with
  | ok _ => exact Routine.keeps_pure _
  | error e => exact hR.keeps_log _ _

theorem keeps_giveBack (hf : free h) : Routine.Keeps others R (giveBack h) := by
  refine Routine.keeps_bind (hR.keeps_markReturned hf) fun first => ?_
  split
  · refine Routine.keeps_bind (hR.keeps_reclaim h) fun c => ?_
    cases c with
    | some c => exact Routine.keeps_bind (hR.keeps_hangUpQuietly c) fun _ => hR.keeps_dropPermit h
    | none => exact hR.keeps_dropPermit h
  · exact Routine.keeps_pure _

theorem keeps_close (hl : ∀ h, l = .pooled h → free h) : Routine.Keeps others R l.close := by
  cases l with
  | direct c => exact hR.hangUp c
  | pooled h => exact Routine.keeps_bind (hR.keeps_giveBack (hl h rfl)) fun _ => Routine.keeps_pure _

theorem keeps_closeQuietly (hl : ∀ h, l = .pooled h → free h) : Routine.Keeps others R l.closeQuietly := by
  refine Routine.keeps_bind (hR.keeps_close hl) fun r => ?_
  cases r with
  | ok _ => exact Routine.keeps_pure _
  | error e => exact hR.keeps_log _ _

theorem keeps_evict (hf : free h) : Routine.Keeps others R (evict h) := by
  refine Routine.keeps_bind (hR.keeps_markReturned hf) fun first => ?_
  split
  · exact Routine.keeps_bind Routine.keeps_get fun w => Routine.keeps_bind (hR.keeps_modifyPool _ _) fun _ =>
      Routine.keeps_bind (hR.keeps_log _ _) fun _ => Routine.keeps_bind (hR.keeps_hangUpQuietly _) fun _ =>
      hR.keeps_dropPermit h
  · exact Routine.keeps_pure _

theorem keeps_closeIdle (key : String) (cs : List ConnId) : Routine.Keeps others R (closeIdle key cs) := by
  induction cs with
  | nil => exact Routine.keeps_pure _
  | cons c cs ih =>
    refine Routine.keeps_bind (hR.hangUp c) fun r => ?_
    cases r with
    | ok _ => exact ih
    | error e =>
      exact Routine.keeps_bind (hR.keeps_log _ _) fun _ => Routine.keeps_bind ih fun _ => Routine.keeps_pure _

theorem keeps_closePool (id : PoolId) : Routine.Keeps others R (closePool id) := by
  refine Routine.keeps_bind Routine.keeps_get fun w => ?_
  dsimp only
  split
  · exact Routine.keeps_pure _
  · refine Routine.keeps_bind (hR.keeps_modifyPool _ _) fun _ => Routine.keeps_bind (hR.keeps_closeIdle _ _) fun n => ?_
    refine Routine.keeps_bind (hR.keeps_log _ _) fun _ => ?_
    split <;> exact Routine.keeps_pure _

theorem bears_poolKeeper : (poolKeeper (D := D)).Bears others R :=
  ⟨fun _ => Routine.keeps_modify fun _ => hR.mend (.of_eq rfl rfl rfl), hR.keeps_log,
    poolKeeper_release hR.keeps_closePool⟩

end Yielding

namespace Obliging

variable (hR : Obliging free others R)
include hR

theorem keeps_openFor (id : PoolId) : Routine.Keeps others R (openFor id) := by
  refine Routine.keeps_bind Routine.keeps_get fun w => Routine.keeps_bind (hR.dial _ _ _) fun r => ?_
  cases r with
  | error e => exact Routine.keeps_pure _
  | ok c =>
    dsimp only
    split
    · refine Routine.keeps_bind (hR.send c _) fun r => ?_
      cases r with
      | error e => exact Routine.keeps_bind (hR.keeps_hangUpQuietly c) fun _ => Routine.keeps_pure _
      | ok _ => exact Routine.keeps_bind (hR.keeps_log _ _) fun _ => Routine.keeps_pure _
    · exact Routine.keeps_bind (hR.keeps_log _ _) fun _ => Routine.keeps_pure _

theorem keeps_takeOrOpen (id : PoolId) : Routine.Keeps others R (takeOrOpen id) := by
  refine Routine.keeps_bind (hR.keeps_takeIdle id) fun c => ?_
  cases c with
  | some c => exact Routine.keeps_pure _
  | none => exact hR.keeps_openFor id

theorem keeps_borrow (id : PoolId) : Routine.Keeps others R (borrow id) := by
  refine Routine.keeps_bind Routine.keeps_get fun w => ?_
  dsimp only
  split
  · exact Routine.keeps_pure _
  · refine Routine.keeps_bind (hR.keeps_acquire id) fun r => ?_
    cases r with
    | error e => exact Routine.keeps_pure _
    | ok _ =>
      refine Routine.keeps_bind (hR.keeps_takeOrOpen id) fun r => ?_
      cases r with
      | error e => exact Routine.keeps_bind (hR.keeps_modifyPool id _) fun _ => Routine.keeps_pure _
      | ok c => exact Routine.keeps_bind (hR.keeps_lend id c) fun _ => Routine.keeps_pure _

theorem keeps_isValid (l : Link) (limit : Duration) : Routine.Keeps others R (l.isValid limit) := by
  cases l with
  | direct c => exact hR.check c limit
  | pooled h =>
    refine Routine.keeps_bind Routine.keeps_get fun w => ?_
    dsimp only
    split
    · exact Routine.keeps_pure _
    · exact Routine.keeps_bind (Routine.keeps_within (hR.check _ _) _) fun _ => Routine.keeps_pure _

theorem keeps_invoke (l : Link) (op : Operation) : Routine.Keeps others R (l.invoke op) := by
  cases l with
  | direct c => exact hR.send c op
  | pooled h =>
    refine Routine.keeps_bind Routine.keeps_get fun w => ?_
    dsimp only
    split
    · exact Routine.keeps_pure _
    · exact hR.send _ op

theorem keeps_perform (hl : ∀ h, l = .pooled h → free h) (op : Operation) :
    Routine.Keeps others R (Service.perform l op) := by
  cases op with
  | close => exact Routine.keeps_bind (hR.keeps_close hl) fun _ => Routine.keeps_pure _
  | _ => exact hR.keeps_invoke l _

end Obliging

/-- Where neither the database nor the journal is looked at, any call may be made. -/
theorem Tolerant.obliging (hR : Tolerant free R) (backend : ∀ d w, R w (backendPart.set d w))
    (call : ∀ e w, R w (Journaled.note e w)) : Obliging free others R := by
  have hcall : ∀ {α : Type} (x : Routine D α) (entry : α → Entry), Routine.Keeps others R
      (do let a ← x.focus backendPart; Routine.note (entry a); return a) := fun x _ =>
    Routine.keeps_bind (Routine.keeps_focus x fun w d => backend d w) fun _ =>
      Routine.keeps_bind (Routine.keeps_modify (call _)) fun _ => Routine.keeps_pure _
  exact {
    toTolerant := hR
    hangUp := fun _ => hcall _ _
    dial := fun _ _ _ => hcall _ _
    send := fun _ _ => Routine.keeps_bind Routine.keeps_get fun _ => hcall _ _
    check := fun _ _ => hcall _ _ }

/-! ### Providing links -/

namespace Obliging

-- any handle may be the next one that is lent, and given up again if it is not valid
variable (hR : Obliging (fun _ => True) others R)
include hR

theorem keeps_connectWithin (provider : PooledProvider) (protocol : String) (host : Host) (props : Properties)
    (left invalid : Nat) (cause : Option RouteError) :
    Routine.Keeps others R (provider.connectWithin protocol host props left invalid cause) := by
  induction left generalizing invalid cause with
  | zero => exact Routine.keeps_pure _
  | succ left ih =>
    refine Routine.keeps_bind (hR.bears_poolKeeper.computeIfAbsent _ (hR.createPool others _ _ _ _ _)) fun r => ?_
    cases r with
    | error e => exact Routine.keeps_pure _
    | ok id =>
      refine Routine.keeps_bind (hR.keeps_borrow id) fun r => ?_
      cases r with
      | error e =>
        refine Routine.keeps_bind Routine.keeps_get fun w => ?_
        split
        · exact Routine.keeps_bind (hR.keeps_log _ _) fun _ => ih _ _
        · split <;> exact Routine.keeps_pure _
      | ok h =>
        refine Routine.keeps_bind Routine.keeps_get fun w => Routine.keeps_bind (hR.keeps_isValid _ _) fun valid => ?_
        split
        · exact Routine.keeps_pure _
        · exact Routine.keeps_bind (hR.keeps_log _ _) fun _ =>
            Routine.keeps_bind (hR.keeps_evict trivial) fun _ => ih _ _

theorem keeps_provide (ps : Providers) (protocol : String) (host : Host) (props : Properties) :
    Routine.Keeps others R (ps.connect protocol host props) := by
  refine Routine.keeps_bind (hR.keeps_log _ _) fun _ => ?_
  split
  · exact Routine.keeps_bind (hR.keeps_connectWithin _ _ _ _ _ _ _) fun _ => Routine.keeps_pure _
  · exact Routine.keeps_bind (hR.dial _ _ _) fun _ => Routine.keeps_pure _

end Obliging

end Calls

end World

/-! ## Without calls to the driver -/

namespace World

/-- Between two worlds the driver was not called. -/
def Silent (w w' : World D) : Prop := ∃ es, (∀ e ∈ es, e.isCall = false) ∧ w'.journal = es ++ w.journal

theorem Silent.refl (w : World D) : w.Silent w := ⟨[], nofun, rfl⟩

theorem Silent.trans {u v w : World D} (h1 : u.Silent v) (h2 : v.Silent w) : u.Silent w := by
  obtain ⟨es, he, hes⟩ := h1
  obtain ⟨fs, hf, hfs⟩ := h2
  refine ⟨fs ++ es, fun e hm => ?_, by rw [hfs, hes, List.append_assoc]⟩
  exact (List.mem_append.1 hm).elim (hf e) (he e)

instance [Bystanders others] : Frame others (Silent (D := D)) :=
  ⟨.refl, .trans, fun h => ⟨[], List.forall_mem_nil _, (Bystanders.aside h).journal⟩⟩

/-- Keeping the books and writing things down takes no call to the driver. -/
theorem lenient_silent : Lenient (Silent (D := D)) where
  edit _ journal := ⟨[], nofun, journal⟩
  note {e} uncalled _ := ⟨[e], fun _ he => List.mem_singleton.1 he ▸ uncalled, rfl⟩

theorem Noted.silent {w w' : World D} (h : w.Noted w') : w.Silent w' := by
  obtain ⟨es, he, rfl⟩ := h
  exact ⟨es, he, rfl⟩

end World

end ReplicaRouter
