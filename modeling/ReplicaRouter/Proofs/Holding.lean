import Mathlib.Tactic.Abel
import ReplicaRouter.Proofs.Dealings
import ReplicaRouter.Proofs.Standing
/-
What logical connections have to see to. Every place that holds a borrowed link has a handle to see to; who was
just given a link either puts it into a place or closes it.
Main statements: a logical connection that makes a link current holds that link and no longer the one before
(`Service.deals_setCurrent`), and a close gives the current link back (`Service.deals_execute`).
-/
namespace ReplicaRouter

open Charge World

variable {D α β : Type} [Backend D]

/-- Operations run over connections, and any pool may be created. -/
structure Terms.Liberal (T : Terms D) : Prop where
  uses : T.uses
  blueprint : ∀ P, T.blueprint P

theorem World.Reached.of_eq {T : Terms D} {w : World D} {g g' : Multiset Charge} (hw : Reached T w g) (h : g = g') :
    Reached T w g' :=
  h ▸ hw

/-! ## Links -/

namespace Link

/-- What a place that holds the link has to see to. -/
def held : Link → Multiset Charge
  | direct _ => 0
  | pooled h => {ref h}

/-- What whoever was just given the link has to see to. -/
def given : Link → Multiset Charge
  | direct _ => 0
  | pooled h => {fresh h}

/-- A borrowed link leads to a handle that there is. -/
def Valid (w : World D) (l : Link) : Prop := ∀ h, l = pooled h → h < w.handles.length

/-- A borrowed link was given back. -/
def Returned (w : World D) (l : Link) : Prop := ∀ h, l = pooled h → (w.handle h).returned = true

/-- What a place has to see to that holds a link or none. -/
def heldIn (slot : Option Link) : Multiset Charge := slot.elim 0 held

/-- The link may be put into a place, by whoever was given it or by somebody who knows it. -/
inductive Offered (w : World D) : Option Link → Multiset Charge → Prop
  | nothing : Offered w none 0
  | given (l : Link) : Offered w (some l) l.given
  | known {l : Link} (valid : l.Valid w) : Offered w (some l) 0

variable {T : Terms D} {w w' : World D} {l : Link} {a f rest : Multiset Charge}

omit [Backend D] in
theorem valid_pooled {h : HandleId} : (pooled h).Valid w ↔ h < w.handles.length :=
  ⟨fun hv => hv h rfl, fun hh _ he => by cases he; exact hh⟩

theorem Valid.later (hf : w.Follows T w') (h : l.Valid w) : l.Valid w' := fun i hi =>
  Nat.lt_of_lt_of_le (h i hi) hf.length_le

theorem Returned.later (hf : w.Follows T w') (h : l.Returned w) : l.Returned w' := fun i hi => hf.returned i (h i hi)

theorem valid_of_held (hw : Reached T w a) (h : l.held ≤ a) : l.Valid w := by
  rintro i rfl
  exact hw.sane.handle i (.inr (Multiset.singleton_le.1 h))

theorem Offered.valid (ho : Offered w (some l) f) (hw : Reached T w (f + rest)) : l.Valid w := by
  cases ho with
  | given =>
    rintro i rfl
    exact hw.sane.handle i (.inl (Multiset.mem_add.2 (.inl (Multiset.mem_singleton_self _))))
  | known valid => exact valid

/-- Nobody has to see to a link that was given back. -/
theorem Returned.settled (h : l.Returned w) (hw : Reached T w (l.given + rest)) : Reached T w rest := by
  cases l with
  | direct c => rwa [given, zero_add] at hw
  | pooled i => exact hw.lose (.exchanged (.settled (.inl (h i rfl))))

theorem deals_hold (ho : Offered w (some l) f) (hw : Reached T w (f + rest)) :
    Deals T l.hold w rest fun _ own _ => own = l.held := by
  have hvalid := ho.valid hw
  cases l with
  | direct c =>
    cases ho with
    | given => exact deals_pure hw rfl
    | known => exact deals_pure hw rfl
  | pooled h =>
    have hh := valid_pooled.1 hvalid
    have hmove := Move.handle (T := T) hh .held
    have hholders : 0 < ((w.modifyHandle h fun e => { e with holders := e.holders + 1 }).handle h).holders := by
      rw [handle_modifyHandle hh, if_pos rfl]
      exact Nat.succ_pos _
    have hv : Reached T (w.modifyHandle h fun e => { e with holders := e.holders + 1 }) ({ref h} + rest) := by
      have hv := hw.gain hmove
      cases ho with
      | given => exact (hv.of_eq (add_left_comm _ _ _)).lose (.exchanged (.settled (.inr hholders)))
      | known => rwa [zero_add] at hv
    exact Routine.accounts_modify hmove.follows hv rfl

theorem deals_letGo (hw : Reached T w (l.held + rest)) : Deals T l.letGo w rest fun _ own _ => own = 0 := by
  cases l with
  | direct c => exact deals_pure hw rfl
  | pooled h =>
    have hh : h < w.handles.length := hw.sane.handle h (.inr (by simp [held]))
    have hmove := Move.handle (T := T) hh .loosened
    have hv := hw.move hmove
    refine deals_modify_bind hmove (Routine.accounts_get_bind ?_)
    split
    · -- the last holder gives the handle back
      have hh := Nat.lt_of_lt_of_le hh hmove.follows.length_le
      refine fun now => (deals_abandon hh hv now).frame.exchange ?_
      rintro _ _ v rest ⟨_, rfl, rfl, hreturned⟩ hv
      rw [zero_add] at hv
      exact ⟨0, hv.swap (.settled (.inl hreturned)), rfl⟩
    · next hholders => exact deals_pure (hv.swap (.settled (.inr (Nat.pos_of_ne_zero hholders)))) rfl

theorem deals_close (hl : l.Valid w) (hw : Reached T w rest) :
    Deals T l.close w rest fun _ own v => own = 0 ∧ l.Returned v := by
  cases l with
  | direct c =>
    refine fun now => (deals_hangUp hw.empty_handed now).imp ?_
    rintro _ _ v ⟨rfl, -⟩
    exact ⟨rfl, fun _ h => by cases h⟩
  | pooled h =>
    refine deals_bind (deals_giveBack (valid_pooled.1 hl) hw) ?_
    rintro _ _ v rest - ⟨rfl, hreturned⟩ hv
    exact deals_pure hv ⟨rfl, fun _ h => by cases h; exact hreturned⟩

theorem deals_closeQuietly (hl : l.Valid w) (hw : Reached T w rest) :
    Deals T l.closeQuietly w rest fun _ own v => own = 0 ∧ l.Returned v := by
  refine deals_bind (deals_close hl hw) ?_
  rintro (e | _) _ v rest - ⟨rfl, hreturned⟩ hv
  · refine fun now => ((idles_log _ _).deals hv now).along.imp ?_
    rintro _ _ u ⟨hf, rfl⟩
    exact ⟨rfl, hreturned.later hf⟩
  · exact deals_pure hv ⟨rfl, hreturned⟩

theorem deals_invoke (hT : T.Liberal) {op : Operation} (hw : Reached T w (a + rest)) :
    Deals T (l.invoke op) w rest fun _ own _ => own = a := by
  have hsend : ∀ c, Deals T (send c op) w rest fun _ own _ => own = a := fun c now =>
    (deals_send (.inl hT.uses) hw now).imp fun _ _ _ h => h.1
  cases l with
  | direct c => exact hsend c
  | pooled h =>
    refine Routine.accounts_get_bind ?_
    dsimp only
    split
    · exact deals_pure hw rfl
    · exact hsend _

end Link

/-- Whoever asks for a link keeps the right to put pools in, and is given the link, or nothing more. -/
inductive Linked : Except RouteError Link → Multiset Charge → Prop
  | given (l : Link) : Linked (.ok l) (l.given + {licence})
  | refused (e : RouteError) : Linked (.error e) {licence}

theorem Providers.deals_connect {T : Terms D} (hT : T.Liberal) {w : World D} {rest : Multiset Charge} {ps : Providers}
    (hps : ps.pooled.isSome = true) {protocol : String} {host : Host} {props : Properties}
    (hw : Reached T w ({licence} + rest)) :
    Deals T (ps.connect protocol host props) w rest fun r own _ => Linked r own := by
  refine World.deals_bind ((idles_log _ _).deals hw) ?_
  rintro _ _ v rest - rfl hv
  obtain ⟨provider, hprovider⟩ := Option.isSome_iff_exists.1 hps
  split
  · next p hp =>
    have hplans : p.Plans T protocol host props := fun P _ => hT.blueprint P
    refine World.deals_bind (p.deals_connect hplans hv) ?_
    rintro _ _ u rest - (_ | e) hu
    · exact World.deals_pure hu (.given (.pooled _))
    · exact World.deals_pure hu (.refused e)
  · next hp =>
    have hstray : PooledProvider.accepts host = false := by
      rw [Providers.pooledFor?, hprovider] at hp
      simpa using hp
    refine World.deals_bind (fun now => (deals_stray hstray hv now).frame) ?_
    rintro r _ u rest - ⟨_, rfl, rfl⟩ hu
    rw [zero_add] at hu
    cases r with
    | ok c => exact World.deals_pure (hu.of_eq (by rw [Link.given, zero_add])) (.given (.direct c))
    | error e => exact World.deals_pure hu (.refused e)

/-! ## Acts -/

/-- What a logical connection has to see to on its own. -/
def Service.held (v : Service) : Multiset Charge := Link.heldIn v.link?

/-- Connections come from pools where the host allows it. -/
def Service.Pooled (v : Service) : Prop := v.providers.pooled.isSome = true

namespace Act

/-- Wherever the act stops, the world was reached by moves; what the act has in the end is what the logical
connection holds, and something besides. -/
def Deals (T : Terms D) (x : Act D α) (v : Service) (w : World D) (rest : Multiset Charge)
    (Q : α → Service → Multiset Charge → World D → Prop) : Prop :=
  World.Deals T (x.run v) w rest fun r own u => ∃ b, own = b + r.2.held ∧ Q r.1 r.2 b u

variable {T : Terms D} {v : Service} {w : World D} {a f rest : Multiset Charge}

theorem deals_pure {r : α} {Q : α → Service → Multiset Charge → World D → Prop} (hw : Reached T w (a + v.held + rest))
    (hq : Q r v a w) : Deals T (pure r) v w rest Q :=
  World.deals_pure hw ⟨a, rfl, hq⟩

theorem deals_bind {x : Act D α} {k : α → Act D β} {Q : α → Service → Multiset Charge → World D → Prop}
    {Q' : β → Service → Multiset Charge → World D → Prop} (hx : Deals T x v w rest Q)
    (hk : ∀ r v' b u rest, w.Follows T u → Q r v' b u → Reached T u (b + v'.held + rest) → Deals T (k r) v' u rest Q') :
    Deals T (x >>= k) v w rest Q' := by
  refine World.deals_bind hx ?_
  rintro ⟨r, v'⟩ _ u rest hf ⟨b, rfl, hq⟩ hu
  exact hk r v' b u rest hf hq hu

theorem deals_get_bind {k : Service → Act D β} {Q : β → Service → Multiset Charge → World D → Prop}
    (h : Deals T (k v) v w rest Q) : Deals T (get >>= k) v w rest Q :=
  h

theorem deals_look_bind {k : World D → Act D β} {Q : β → Service → Multiset Charge → World D → Prop}
    (h : Deals T (k w) v w rest Q) : Deals T (Act.world get >>= k) v w rest Q :=
  h

/-- What the connection holds may be exchanged for something else that is to be seen to. -/
theorem deals_modify {g : Service → Service} {b : Multiset Charge}
    {Q : Unit → Service → Multiset Charge → World D → Prop} (hw : Reached T w (a + v.held + rest))
    (hb : a + v.held = b + (g v).held) (hq : Q () (g v) b w) : Deals T (modify g) v w rest Q :=
  World.deals_pure (hw.of_eq (by rw [hb])) ⟨b, rfl, hq⟩

/-- Work on the shared world leaves what the connection holds alone. -/
theorem deals_world {x : Routine (World D) α} {Q : α → Multiset Charge → World D → Prop}
    (hx : ∀ rest, Reached T w (f + rest) → World.Deals T x w rest Q) (hw : Reached T w (f + a + v.held + rest)) :
    Deals T (Act.world x) v w rest fun r v' b u => v = v' ∧ ∃ g, b = g + a ∧ Q r g u := by
  refine World.deals_bind (fun now => (hx _ (hw.of_eq (show _ = f + (a + v.held + rest) by abel)) now).frame) ?_
  rintro r _ u rest - ⟨g, rfl, hq⟩ hu
  exact World.deals_pure hu ⟨g + a, by abel, rfl, g, rfl, hq⟩

/-- Work that takes nothing and has nothing in the end. -/
theorem deals_work {x : Routine (World D) α} {Q : α → World D → Prop}
    (hx : ∀ rest, Reached T w rest → World.Deals T x w rest fun r own u => own = 0 ∧ Q r u)
    (hw : Reached T w (a + v.held + rest)) :
    Deals T (Act.world x) v w rest fun r v' b u => v = v' ∧ a = b ∧ Q r u := by
  refine World.deals_bind (fun now => (hx _ hw now).frame) ?_
  rintro r _ u rest - ⟨_, rfl, rfl, hq⟩ hu
  exact World.deals_pure hu ⟨a, by rw [zero_add], rfl, rfl, hq⟩

/-- Work that passes nothing on. -/
theorem deals_idle {x : Routine (World D) α} (hx : Idles T x) (hw : Reached T w (a + v.held + rest)) :
    Deals T (Act.world x) v w rest fun _ v' b _ => v = v' ∧ a = b := by
  refine World.deals_bind (hx.deals hw) ?_
  rintro r _ u rest - rfl hu
  exact World.deals_pure hu ⟨a, rfl, rfl, rfl⟩

end Act

/-- The current link and the ways to get others stay as they are. -/
structure Service.Stays (v v' : Service) : Prop where
  providers : v'.providers = v.providers
  link : v'.link? = v.link?

/-- If the operation is a close, the current link was given back. -/
def Service.ClosedBy (v : Service) (op : Operation) (w : World D) : Prop :=
  op = .close → ∀ l, v.link? = some l → l.Returned w

theorem Service.Stays.refl (v : Service) : v.Stays v := ⟨rfl, rfl⟩

theorem Service.Stays.held_eq {v v' : Service} (h : v.Stays v') : v'.held = v.held := by
  rw [held, h.link]
  rfl

theorem Service.Stays.pooled {v v' : Service} (h : v.Stays v') (hp : v.Pooled) : v'.Pooled := by
  rwa [Pooled, h.providers]

/-- A change of the connection's own state that leaves its links alone. -/
theorem Act.deals_restate {T : Terms D} {v : Service} {w : World D} {a rest : Multiset Charge} {g : Service → Service}
    {P : World D → Prop} (hw : Reached T w (a + v.held + rest)) (hg : v.Stays (g v)) (hP : P w) :
    Act.Deals T (modify g) v w rest fun _ v' b u => v.Stays v' ∧ a = b ∧ P u :=
  Act.deals_modify hw (by rw [hg.held_eq]) ⟨hg, rfl, hP⟩

theorem Link.Offered.later {T : Terms D} {w w' : World D} {slot : Option Link} {f : Multiset Charge}
    (hf : w.Follows T w') (h : Offered w slot f) : Offered w' slot f := by
  cases h with
  | nothing => exact .nothing
  | given l => exact .given l
  | known valid => exact .known (valid.later hf)

namespace Service

variable {T : Terms D} {v : Service} {w : World D} {a f rest : Multiset Charge} {l : Link} {host : Host}
  {props : Properties} {op : Operation}

theorem valid_of_current (hw : Reached T w (a + v.held + rest)) (h : v.link? = some l) : l.Valid w := by
  refine Link.valid_of_held hw ?_
  have hheld : v.held = l.held := by rw [held, h]; rfl
  rw [hheld, add_right_comm]
  exact Multiset.le_add_left _ _

theorem deals_notes (es : List Entry) (hes : ∀ e ∈ es, e.isCall = false) (hw : Reached T w (a + v.held + rest)) :
    Act.Deals T (es.forM fun e => Act.world (Routine.note e)) v w rest fun _ v' b _ => v = v' ∧ a = b := by
  induction es generalizing w rest with
  | nil => exact Act.deals_pure hw ⟨rfl, rfl⟩
  | cons e es ih =>
    have hnote : Idles T (Routine.note (W := World D) e) := by
      have he := hes e List.mem_cons_self
      refine Routine.calm_modify fun w => .note ?_ ?_ w
      · cases e <;> first | rfl | cases he
      · cases e <;> first | rfl | cases he
    refine Act.deals_bind (Act.deals_idle hnote hw) ?_
    rintro _ _ _ u rest - ⟨rfl, rfl⟩ hu
    exact ih (fun e he => hes e (List.mem_cons_of_mem _ he)) hu

theorem deals_signal (sg : Signal) (hw : Reached T w (a + v.held + rest)) :
    Act.Deals T (Service.signal sg) v w rest fun _ v' b _ => v = v' ∧ a = b :=
  Act.deals_get_bind (deals_notes _ (fun _ he => isCall_of_mem_entries he) hw)

/-- Lets go of a link if there is one. -/
theorem deals_letGo (slot : Option Link) (hw : Reached T w (Link.heldIn slot + a + v.held + rest)) :
    Act.Deals T (if let some l := slot then Act.world l.letGo else pure ()) v w rest fun _ v' b _ =>
      v = v' ∧ a = b := by
  cases slot with
  | none => exact Act.deals_pure (hw.of_eq (by rw [Link.heldIn]; simp)) ⟨rfl, rfl⟩
  | some l =>
    refine fun now => (Act.deals_world (fun _ => Link.deals_letGo) hw now).imp ?_
    rintro _ _ _ ⟨_, rfl, rfl, _, rfl, rfl⟩
    exact ⟨a, by rw [zero_add], rfl, rfl⟩

/-- A link becomes current, and the connection lets go of the one that was. -/
theorem deals_setCurrent (ho : Link.Offered w (some l) f) (hw : Reached T w (f + a + v.held + rest)) :
    Act.Deals T (setCurrent l host) v w rest fun _ v' b _ => v'.providers = v.providers ∧ a = b := by
  refine Act.deals_bind (Act.deals_idle (idles_log _ _) hw) ?_
  rintro _ _ _ u rest hf ⟨rfl, rfl⟩ hu
  refine Act.deals_bind (Act.deals_world (fun _ => Link.deals_hold (ho.later hf)) hu) ?_
  rintro _ _ _ x rest - ⟨rfl, _, rfl, rfl⟩ hx
  have hswap : l.held + a + v.held = v.held + a + ({ v with current := some (l, host) } : Service).held := by
    show l.held + a + v.held = v.held + a + l.held
    abel
  refine Act.deals_get_bind (Act.deals_bind (Act.deals_modify (Q := fun _ v' b _ => _ = v' ∧ _ = b) hx hswap
    ⟨rfl, rfl⟩) ?_)
  rintro _ _ _ y rest - ⟨rfl, rfl⟩ hy
  refine fun now => (deals_letGo v.link? hy now).imp ?_
  rintro _ _ _ ⟨_, rfl, hv, rfl⟩
  exact ⟨a, rfl, by rw [← hv], rfl⟩

theorem deals_finish (hw : Reached T w (a + v.held + rest)) :
    Act.Deals T finish v w rest fun _ v' b _ => a = b ∧ v'.held = 0 := by
  have hswap : a + v.held = v.held + a + ({ v with current := none } : Service).held := by
    show a + v.held = v.held + a + 0
    abel
  refine Act.deals_get_bind (Act.deals_bind (Act.deals_modify (Q := fun _ v' b _ => _ = v' ∧ _ = b) hw hswap
    ⟨rfl, rfl⟩) ?_)
  rintro _ _ _ y rest - ⟨rfl, rfl⟩ hy
  refine fun now => (deals_letGo v.link? hy now).imp ?_
  rintro _ _ _ ⟨_, rfl, hv, rfl⟩
  exact ⟨a, rfl, rfl, by rw [← hv]; rfl⟩

theorem deals_connect (hT : T.Liberal) (hv : v.Pooled) (hw : Reached T w ({licence} + a + v.held + rest)) :
    Act.Deals T (connect host props) v w rest fun r v' b _ => v = v' ∧ ∃ g, b = g + a ∧ Linked r g :=
  Act.deals_get_bind (Act.deals_world (fun _ => Providers.deals_connect hT hv) hw)

theorem deals_setInitialHost (hw : Reached T w (a + v.held + rest)) :
    Act.Deals T (setInitialHost host) v w rest fun _ v' b _ => v.Stays v' ∧ a = b := by
  refine Act.deals_bind (Act.deals_idle (idles_log _ _) hw) ?_
  rintro _ _ _ u rest - ⟨rfl, rfl⟩ hu
  exact Act.deals_modify hu rfl ⟨⟨rfl, rfl⟩, rfl⟩

theorem deals_invoke (hT : T.Liberal) (hw : Reached T w (a + v.held + rest)) :
    Act.Deals T (Act.world (l.invoke op)) v w rest fun _ v' b _ => v = v' ∧ a = b := by
  have hinvoke : ∀ rest, Reached T w rest → World.Deals T (l.invoke op) w rest fun _ own _ => own = 0 ∧ True :=
    fun _ hw now => (Link.deals_invoke hT hw.empty_handed now).imp fun _ _ _ h => ⟨h, trivial⟩
  exact fun now => (Act.deals_work hinvoke hw now).imp fun _ _ _ ⟨b, hb, hv, ha, _⟩ => ⟨b, hb, hv, ha⟩

theorem deals_identify (hT : T.Liberal) (hw : Reached T w (a + v.held + rest)) :
    Act.Deals T (identify l) v w rest fun _ v' b _ => v = v' ∧ a = b := by
  refine Act.deals_look_bind ?_
  split
  · exact Act.deals_pure hw ⟨rfl, rfl⟩
  · refine Act.deals_bind (deals_invoke hT hw) ?_
    rintro r _ _ u rest - ⟨rfl, rfl⟩ hu
    split
    · exact Act.deals_pure hu ⟨rfl, rfl⟩
    · exact Act.deals_look_bind (Act.deals_pure hu ⟨rfl, rfl⟩)

/-- Closing a link gives it back, and no other operation passes anything on. -/
theorem deals_perform (hT : T.Liberal) (hl : l.Valid w) (hw : Reached T w rest) :
    World.Deals T (perform l op) w rest fun _ own u => own = 0 ∧ (op = .close → l.Returned u) := by
  have hinvoke : op ≠ .close → World.Deals T (l.invoke op) w rest fun _ own u =>
      own = 0 ∧ (op = .close → l.Returned u) := fun hop now =>
    (Link.deals_invoke hT hw.empty_handed now).imp fun _ _ _ h => ⟨h, fun he => absurd he hop⟩
  cases op with
  | close =>
    refine World.deals_bind (Link.deals_close hl hw) ?_
    rintro _ _ u rest - ⟨rfl, hreturned⟩ hu
    exact World.deals_pure hu ⟨rfl, fun _ => hreturned⟩
  | _ => exact hinvoke fun h => by cases h

/-- An operation runs on the current link and leaves it current. -/
theorem deals_execute (hT : T.Liberal) (hw : Reached T w (a + v.held + rest)) :
    Act.Deals T (execute op) v w rest fun _ v' b u => v.Stays v' ∧ a = b ∧ v.ClosedBy op u := by
  refine Act.deals_get_bind ?_
  split
  · next hnone => exact Act.deals_pure hw ⟨.refl v, rfl, fun _ l h => by rw [hnone] at h; cases h⟩
  · next l hlink =>
    have hl := valid_of_current hw hlink
    refine Act.deals_bind (Act.deals_work (fun _ => deals_perform hT hl) hw) ?_
    rintro r _ _ u rest - ⟨rfl, rfl, hclose⟩ hu
    have hclosed : v.ClosedBy op u := by
      intro hop k hk
      rw [hlink] at hk
      cases hk
      exact hclose hop
    have hstays : ∀ transaction, v.Stays { v with transaction } := fun _ => ⟨rfl, rfl⟩
    split
    · refine Act.deals_bind (Act.deals_restate (P := v.ClosedBy op) hu (hstays _) hclosed) ?_
      rintro _ _ _ x rest - ⟨hv, rfl, hclosed⟩ hx
      exact Act.deals_pure hx ⟨hv, rfl, hclosed⟩
    · split
      · refine Act.deals_bind (Act.deals_restate (P := v.ClosedBy op) hu (hstays _) hclosed) ?_
        rintro _ _ _ x rest - ⟨hv, rfl, hclosed⟩ hx
        exact Act.deals_pure hx ⟨hv, rfl, hclosed⟩
      · exact Act.deals_pure hu ⟨.refl v, rfl, hclosed⟩

end Service

end ReplicaRouter
